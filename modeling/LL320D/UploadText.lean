import LL320D.BleInput
import LL320D.Library.Fields
import LL320D.ScanRecv

/-! The text of the TAG and MACINFO messages: `tag_scan_upload_one` and `tran_mac_upload_one` build the parameter, and
`lte_send_command` the command around it. -/

namespace LL320D.UploadText
open AtText (cString)
open BleScan Library Library.Fields ScanRecv

def uploadMsgSize : Nat := 256

def crLf : List UInt8 := [0x0D, 0x0A]

/-- What a buffer of `size` bytes holds of the text. -/
def snprintf (size : Nat) (text : List UInt8) : List UInt8 := text.take (size - 1)

def macStr (addr : BtAddrLe) : List UInt8 := snprintf 13 (hex ([5, 4, 3, 2, 1, 0].map fun i => addr.val.getD i 0))

def uuidStr (uuid : List UInt8) : List UInt8 :=
  if 0 < uuid.length then hex (uuid.take uuidMaxLen) else cString "N/A"

def ffFields (ffData : List UInt8) : List (List UInt8) :=
  if 0 < ffData.length then [Decimal.text ffData.length, hex (ffData.take tagFfDataMaxLen)]
  else [cString "0", cString "N/A"]

def tagScanUploadOne (item : TagScanResult) (seq : UInt16) : List UInt8 := snprintf uploadMsgSize (joined
    ([Decimal.text seq.toNat, Decimal.text item.timestamp.toNat, macStr item.addr,
      Decimal.text item.batteryPercent.toNat, hex [item.rssi.toUInt8], Decimal.text item.name.length, item.name,
      Decimal.text item.uuid.length, uuidStr item.uuid] ++ ffFields item.ffData))

/-- `upload_msg` and the offset of the next `snprintf`. -/
structure UploadMsg where
  text : List UInt8
  offset : Nat

def UploadMsg.print (m : UploadMsg) (text : List UInt8) : UploadMsg where
  text := m.text.take m.offset ++ snprintf (uploadMsgSize - m.offset) text
  offset := m.offset + text.length

def tranMacUploadOne (item : TranMacResultItem) (seq : UInt16) : List UInt8 :=
  let head := (⟨[], 0⟩ : UploadMsg).print (joined
    [Decimal.text seq.toNat, Decimal.text item.timestamp.toNat, macStr item.addr, Decimal.text item.advData.length, []])
  (item.advData.foldl (fun m byte => m.print (hex [byte])) head).text

def lteSendCommand (cmdName param : List UInt8) : List UInt8 :=
  let bufLen := cmdName.length + param.length + 16
  if 0 < param.length then snprintf bufLen (cString "BLE+" ++ cmdName ++ cString "=" ++ param ++ crLf)
  else snprintf bufLen (cString "BLE+" ++ cmdName ++ crLf)

def message : (kind : ScanKind) → UInt16 → ScanRecord kind → List UInt8
  | .tag, seq, item => lteSendCommand (cString "TAG") (tagScanUploadOne item seq)
  | .mac, seq, item => lteSendCommand (cString "MACINFO") (tranMacUploadOne item seq)

/-! How the receiver of a message reads it. -/

structure TagFields where
  seq : Nat
  timestamp : Nat
  addr : List UInt8
  battery : Nat
  rssi : Int8
  name : List UInt8
  uuid : List UInt8
  ffData : List UInt8
  deriving DecidableEq

structure MacFields where
  seq : Nat
  timestamp : Nat
  addr : List UInt8
  advData : List UInt8
  deriving DecidableEq

def command (head line : List UInt8) : Option (List UInt8) :=
  if head.isPrefixOf line then some (line.drop head.length) else none

/-- The last field, which a line break ends. -/
def lastField (text : List UInt8) : Option (List UInt8) :=
  if text.drop (text.length - 2) = crLf then some (text.take (text.length - 2)) else none

/-- Bytes in hexadecimal; if there are none, the field is not read. -/
def bytes (length : Nat) (text : List UInt8) : Option (List UInt8) :=
  if length = 0 then some [] else if text.length = 2 * length then some (unhex text) else none

def decodeTag (line : List UInt8) : Option TagFields := do
  let text ← command (cString "BLE+TAG=") line
  let (seq, text) ← field text
  let (timestamp, text) ← field text
  let (mac, text) ← field text
  let (battery, text) ← field text
  let (rssi, text) ← field text
  let (nameLen, text) ← field text
  let (name, text) ← counted (Decimal.value nameLen) text
  let (uuidLen, text) ← field text
  let (uuid, text) ← field text
  let (ffLen, text) ← field text
  let ffData ← lastField text
  let uuid ← bytes (Decimal.value uuidLen) uuid
  let ffData ← bytes (Decimal.value ffLen) ffData
  return ⟨Decimal.value seq, Decimal.value timestamp, (unhex mac).reverse, Decimal.value battery,
    ((unhex rssi).headD 0).toInt8, name, uuid, ffData⟩

def decodeMac (line : List UInt8) : Option MacFields := do
  let text ← command (cString "BLE+MACINFO=") line
  let (seq, text) ← field text
  let (timestamp, text) ← field text
  let (mac, text) ← field text
  let (advLen, text) ← field text
  let advData ← lastField text
  let advData ← bytes (Decimal.value advLen) advData
  return ⟨Decimal.value seq, Decimal.value timestamp, (unhex mac).reverse, advData⟩

def tagFields (seq : UInt16) (item : TagScanResult) : TagFields :=
  ⟨seq.toNat, item.timestamp.toNat, item.addr.val, item.batteryPercent.toNat, item.rssi, item.name, item.uuid, item.ffData⟩

def macFields (seq : UInt16) (item : TranMacResultItem) : MacFields :=
  ⟨seq.toNat, item.timestamp.toNat, item.addr.val, item.advData⟩

/-- The message of a record is read back to it. -/
def Decodes : (kind : ScanKind) → UInt16 → ScanRecord kind → Prop
  | .tag, seq, item => decodeTag (message .tag seq item) = some (tagFields seq item)
  | .mac, seq, item => decodeMac (message .mac seq item) = some (macFields seq item)

def isBreak (byte : UInt8) : Bool := byte = 0x0D || byte = 0x0A

def NoBreak (text : List UInt8) : Prop := ∀ byte ∈ text, isBreak byte = false

instance (text : List UInt8) : Decidable (NoBreak text) :=
  decidable_of_iff (text.all (!isBreak ·) = true) (by simp only [NoBreak, List.all_eq_true, Bool.not_eq_true'])

/-- The only line break is at the end. -/
def OneLine (text : List UInt8) : Prop := ∃ line, text = line ++ crLf ∧ NoBreak line

end LL320D.UploadText
