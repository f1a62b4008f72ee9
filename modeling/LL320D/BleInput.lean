import LL320D.Library.Machine
import LL320D.Library.QuotedWords

/-! What a phone writes to the device, from `my_ble_app.c` and `my_cmd_setting.c`: the buffer of one frame, the dispatch of
a frame, and the text of an AT command. -/

namespace LL320D.BleInput
/-- `BLE_SVC_RX_MAX_LEN`, where `CONFIG_BT_L2CAP_TX_MTU` is 498. -/
def bleSvcRxMaxLen : Nat := 498 - 3

/-- `BLE_GATT_FRAME_LEN_MIN`: two heads of two bytes, and one cipher block. -/
def bleGattFrameLenMin : Nat := 2 + 2 + 16

def Admissible (len : Nat) : Prop := len ≤ bleSvcRxMaxLen ∧ bleGattFrameLenMin ≤ len

instance (len : Nat) : Decidable (Admissible len) := inferInstanceAs (Decidable (_ ∧ _))

/-- `psa_cipher_decrypt` under the key of the connection, which may fail. -/
structure BlockCipher where
  decrypt : List UInt8 → Option (List UInt8)
  length_decrypt : ∀ {block plain : List UInt8}, decrypt block = some plain → plain.length = block.length

def BlockCipher.plain : BlockCipher where
  decrypt := some
  length_decrypt same := by cases same; rfl

def decryptBlocks (cipher : BlockCipher) : Nat → List UInt8 → Option (List UInt8)
  | 0, _ => some []
  | n + 1, ciphertext => do
    let block ← cipher.decrypt (ciphertext.take 16)
    let rest ← decryptBlocks cipher n (ciphertext.drop 16)
    some (block ++ rest)

/-- `aes_ecb_decrypt`. The padding is only counted, it stays in the buffer. -/
def aesEcbDecrypt (cipher : BlockCipher) (ciphertext : List UInt8) (ptLen : Nat) : Option (List UInt8) :=
  if ciphertext.length = 0 ∨ ciphertext.length % 16 ≠ 0 then none
  else if ptLen < ciphertext.length then none
  else decryptBlocks cipher (ciphertext.length / 16) ciphertext

def decryptBufferSize : Nat := 528

inductive Dispatch where
  | headError
  | fileTrans (data : List UInt8)
  | keyData (data : List UInt8)
  | lengthError
  | decryptError
  | cidData (text : List UInt8)
  | atCmd (text : List UInt8)
  | packetSingle (text : List UInt8)
  | packetMultiple (text : List UInt8)
  | typeError
  deriving DecidableEq

/-- The bytes `i` and `i + 1`, high byte first. -/
def head (data : List UInt8) (i : Nat) : Nat := (data.getD i 0).toNat * 256 + (data.getD (i + 1) 0).toNat

def bleDataPacketHead : Nat := 0x4254

def bleComuAppHandle (cipher : BlockCipher) (type : Nat) (data : List UInt8) : Dispatch :=
  if type = 0x1101 then .keyData data
  else if data.length % 16 ≠ 0 ∨ bleSvcRxMaxLen - 4 < data.length then .lengthError
  else
    match aesEcbDecrypt cipher data decryptBufferSize with
    | none => .decryptError
    | some text =>
      if type = 0x2202 then .cidData text
      else if type = 0x5808 then .atCmd text
      else if type = 0xFF01 then .packetSingle text
      else if type = 0xFF02 then .packetMultiple text
      else .typeError

def bleAppCommDataProc (cipher : BlockCipher) (data : List UInt8) : Dispatch :=
  if head data 0 ≠ bleDataPacketHead then .headError else bleComuAppHandle cipher (head data 2) (data.drop 4)

def bleRxProcHandle (cipher : BlockCipher) (frame : List UInt8) : Dispatch :=
  if head frame 0 = bleDataPacketHead then
    if head frame 2 = 0x4605 then .fileTrans (frame.drop 4) else bleAppCommDataProc cipher frame
  else .headError

def cmdStringLengthMax : Nat := 128

def parmMax : Nat := 20

inductive Access where
  | rcvMsg (index : Nat)
  | parm (index : Nat)
  deriving DecidableEq

def Access.Inside : Access → Prop
  | .rcvMsg index => index < cmdStringLengthMax
  | .parm index => index < parmMax

inductive Parm where
  | null
  | blank
  | text (offset : Nat)
  deriving DecidableEq

inductive Stop where
  | foundEnd
  | textOver
  | full (code : Int)
  deriving DecidableEq

/-- `at_cmd_t`. -/
structure AtCmd where
  rcvMsg : List UInt8
  parm : List Parm

/-- Behind the call of `memcpy`. The cells of `rcv_msg` behind the text are zero. -/
def AtCmd.received (text : List UInt8) : AtCmd where
  rcvMsg := (text ++ List.replicate cmdStringLengthMax 0).take cmdStringLengthMax
  parm := List.replicate parmMax .null

def memcpyWrites (text : List UInt8) : List Access := (List.range text.length).map .rcvMsg

/-- A message in `my_ble_msgq`: `MY_MSG_BLE_RX`, which only `BLE_DataInputBuffer` sends, or any other. -/
inductive Msg where
  | bleRx
  | other
  deriving DecidableEq

def bleMsgqSize : Nat := 10

inductive Input where
  | idle
  | accepted (data : List UInt8)
  | copied (len : Nat)
  | indexed
  deriving DecidableEq

inductive Task where
  | waiting
  | received
  | dispatched
  deriving DecidableEq

structure System where
  rxBleBuf : List UInt8
  rxBleBufIndex : Nat
  msgq : List Msg
  registered : Bool
  input : Input
  task : Task
  copied : List (List UInt8)
  dispatched : List (List UInt8)
  deriving DecidableEq

inductive Event where
  | call (data : List UInt8)
  | memcpy
  | setIndex
  | send
  | register
  | post
  | receive
  | dispatch
  | finish
  deriving DecidableEq

namespace System

def start : System where
  rxBleBuf := List.replicate bleSvcRxMaxLen 0
  rxBleBufIndex := 0
  msgq := []
  registered := false
  input := .idle
  task := .waiting
  copied := []
  dispatched := []

def hasRoom (s : System) : Prop := s.registered ∧ s.msgq.length < bleMsgqSize

instance (s : System) : Decidable s.hasRoom := inferInstanceAs (Decidable (_ ∧ _))

/-- `my_send_msg`: the result of `k_msgq_put` is not looked at. -/
def mySendMsg (s : System) (msg : Msg) : System := if s.hasRoom then { s with msgq := s.msgq ++ [msg] } else s

def step (s : System) : Event → System
  | .call data =>
    match s.input with
    | .idle => if s.rxBleBufIndex = 0 ∧ Admissible data.length then { s with input := .accepted data } else s
    | _ => s
  | .memcpy =>
    match s.input with
    | .accepted data =>
      { s with rxBleBuf := data ++ s.rxBleBuf.drop data.length, input := .copied data.length, copied := s.copied ++ [data] }
    | _ => s
  | .setIndex =>
    match s.input with
    | .copied len => { s with rxBleBufIndex := len, input := .indexed }
    | _ => s
  | .send =>
    match s.input with
    | .indexed => { s.mySendMsg .bleRx with input := .idle }
    | _ => s
  | .register => { s with registered := true }
  | .post => s.mySendMsg .other
  | .receive =>
    match s.task, s.msgq with
    | .waiting, .bleRx :: rest => { s with task := .received, msgq := rest }
    | .waiting, .other :: rest => { s with msgq := rest }
    | _, _ => s
  | .dispatch =>
    match s.task with
    | .received =>
      { s with task := .dispatched, dispatched := s.dispatched ++ [s.rxBleBuf.take s.rxBleBufIndex] }
    | _ => s
  | .finish =>
    match s.task with
    | .dispatched => { s with rxBleBufIndex := 0, task := .waiting }
    | _ => s

def taskEvent (s : System) : Event :=
  match s.task with
  | .waiting => .receive
  | .received => .dispatch
  | .dispatched => .finish

def runTask : Nat → System → System
  | 0, s => s
  | n + 1, s => runTask n (s.step s.taskEvent)

end System

end LL320D.BleInput

namespace LL320D.AtText
open BleInput (Parm Stop)

def cString (text : String) : List UInt8 := text.toList.map fun c => c.toNat.toUInt8

inductive Write where
  | str (index : Nat)
  | tar (index : Nat)
  deriving DecidableEq

structure Format where
  startChar : UInt8
  endChars : List UInt8
  splitChar : UInt8

/-- `strchr(endChars, c) != NULL`, which also finds the `\0` of the string. -/
def Format.Ends (format : Format) (c : UInt8) : Prop := c ∈ format.endChars ∨ c = 0

instance (format : Format) (c : UInt8) : Decidable (format.Ends c) := inferInstanceAs (Decidable (_ ∨ _))

structure Analysis where
  strData : List UInt8
  tarData : List Parm
  j : Nat
  status : Bool
  inQuote : Bool
  writes : List Write
  deriving DecidableEq

def quote : UInt8 := 0x22

namespace Analysis

def start (strData : List UInt8) (tarData : List Parm) : Analysis := ⟨strData, tarData, 0, false, false, []⟩

def cut (s : Analysis) (i : Nat) : Analysis := { s with strData := s.strData.set i 0, writes := s.writes ++ [.str i] }

def store (s : Analysis) (index : Nat) (value : Parm) : Analysis :=
  { s with tarData := s.tarData.set index value, writes := s.writes ++ [.tar index] }

def push (s : Analysis) (value : Parm) : Analysis := { s.store s.j value with j := s.j + 1 }

def switchQuote (s : Analysis) (i : Nat) : Analysis :=
  if s.inQuote then { s.cut i with inQuote := false }
  else if s.status ∧ 0 < s.j then { s.store (s.j - 1) (.text (i + 1)) with inQuote := true }
  else { s with inQuote := true }

variable (format : Format) (limit : Int)

def Begins (s : Analysis) (c : UInt8) : Prop := s.status = false ∧ (c = format.startChar ∨ format.startChar = 0)

instance (s : Analysis) (c : UInt8) : Decidable (s.Begins format c) := inferInstanceAs (Decidable (_ ∧ _))

def firstWord (s : Analysis) (i : Nat) (c next : UInt8) : Analysis :=
  if s.Begins format c then
    let value : Parm :=
      if format.startChar = 0 then if c = quote then .text (i + 1) else .text i
      else if next = format.splitChar then .blank
      else .text (i + 1)
    { s.push value with status := true }
  else s

def nextWord (s : Analysis) (i : Nat) (next : UInt8) : Analysis :=
  s.push (if format.Ends next ∨ next = format.splitChar then .blank else .text (i + 1))

def loop : Analysis → Nat → List UInt8 → Analysis × Stop
  | s, _, [] => (s, .textOver)
  | s, i, c :: rest =>
    if c = quote then loop (s.switchQuote i) (i + 1) rest
    else if s.Begins format c ∧ limit ≤ s.j then ({ s with status := true }, .full (-2))
    else
      let begun := s.firstWord format i c (rest.headD 0)
      if begun.status = false then loop begun (i + 1) rest
      else if begun.inQuote = false ∧ format.Ends c then (begun.cut i, .foundEnd)
      else if begun.inQuote = false ∧ c = format.splitChar then
        if limit ≤ begun.j then (begun.cut i, .full (-3))
        else loop ((begun.cut i).nextWord format i (rest.headD 0)) (i + 1) rest
      else loop begun (i + 1) rest

/-- The indices of `str_data` that the loop reads. -/
def reads : Analysis → Nat → List UInt8 → List Nat
  | _, _, [] => []
  | s, i, c :: rest =>
    i ::
      if c = quote then reads (s.switchQuote i) (i + 1) rest
      else if s.Begins format c ∧ limit ≤ s.j then []
      else
        let begun := s.firstWord format i c (rest.headD 0)
        (if s.Begins format c ∧ format.startChar ≠ 0 then [i + 1] else []) ++
          if begun.status = false then reads begun (i + 1) rest
          else if begun.inQuote = false ∧ format.Ends c then []
          else if begun.inQuote = false ∧ c = format.splitChar then
            if limit ≤ begun.j then []
            else (i + 1) :: reads ((begun.cut i).nextWord format i (rest.headD 0)) (i + 1) rest
          else reads begun (i + 1) rest

def fillBlank (s : Analysis) (i : Nat) : Nat → Analysis
  | 0 => s
  | count + 1 => (s.store i .blank).fillBlank (i + 1) count

end Analysis

def text (strData : List UInt8) : List UInt8 := strData.takeWhile (· ≠ 0)

def atCmdStrAnalyse (strData : List UInt8) (tarData : List Parm) (limit : Int) (format : Format) : Analysis × Int :=
  match (Analysis.start strData tarData).loop format limit 0 (text strData) with
  | (s, .full code) => (s, code)
  | (s, .textOver) => (s, -4)
  | (s, .foundEnd) => (s.fillBlank s.j (limit - s.j).toNat, if s.inQuote then -1 else s.j)

def content (strData : List UInt8) : Parm → List UInt8
  | .null => []
  | .blank => []
  | .text offset => text (strData.drop offset)

/-- What `%s` prints for a parameter. -/
def shown (strData : List UInt8) : Parm → List UInt8
  | .null => cString "(null)"
  | parm => content strData parm

def atFormat : Format where
  startChar := 0
  endChars := cString "#"
  splitChar := 0x2C

def isUpper (c : UInt8) : Bool := 0x41 ≤ c && c ≤ 0x5A

def isLower (c : UInt8) : Bool := 0x61 ≤ c && c ≤ 0x7A

def isAllUpperOrLower (s : List UInt8) : Bool := !(s.any isUpper && s.any isLower)

def toLower (c : UInt8) : UInt8 := if isUpper c then c + 0x20 else c

def myStrcasecmp (s1 s2 : List UInt8) : Bool :=
  isAllUpperOrLower s1 && isAllUpperOrLower s2 && s1.map toLower == s2.map toLower

/-- The names in `at_cmd_attr_table`; every one has a handler. -/
def atCmdAttrTable : List String :=
  ["REMALM", "PULLALM", "PATMALM", "TEMPALM", "MOTDET", "MOTDETALM", "BATLEVEL", "CHARGESTA", "PWRSAVE", "PWRLIMIT",
    "LPSLEEP", "STARTR", "CBMT", "BT_MAC", "BT_CRFPWR", "BT_UPDATA", "BLUETOOTH", "BTCONNECT", "TAG", "JATAG", "JGTAG",
    "TAGINIT_PARAM", "LED", "LTINT", "BUZZER", "BTLOG", "VERSION", "MODESET", "MODEGET", "MODEPARAM", "BT_PARMAC",
    "STATUS", "PATMTIMER", "PATM", "TEMPTIMER", "TEMP", "IMUALM", "FACTORY", "FACTORYALL"]

def lteCmdAttrTable : List String :=
  ["MILEAGE", "TRIP", "BOOTLOC", "SF", "GFENCE", "APN", "HBT", "SERVER", "SIMPRI", "DEEPSLEEPDT", "CENTER",
    "SECOND_SERVER", "CHECK", "GPSDMODE", "POSITIONIMMED", "BATCH", "ANGLEREP", "GPSCOLD", "NETSET", "ICCID", "IMSI",
    "ASETGMT", "GMT", "AMSSERVER", "NETLOG"]

inductive Route where
  | rejected
  | atCommand (name : String) (parms : List (List UInt8))
  | lteCommand (parms : List (List UInt8))
  | unknown (parms : List (List UInt8))
  deriving DecidableEq

/-- The loops over the tables. -/
def findCmd (parms : List (List UInt8)) : Route :=
  match atCmdAttrTable.find? fun name => myStrcasecmp (cString name) (parms.headD []) with
  | some name => .atCommand name parms
  | none =>
    if lteCmdAttrTable.any fun name => myStrcasecmp (cString name) (parms.headD []) then .lteCommand parms
    else .unknown parms

def atRecvCmdHandler (rcvMsg : List UInt8) (parm : List Parm) : Route :=
  let (s, parLen) := atCmdStrAnalyse rcvMsg parm BleInput.parmMax atFormat
  if BleInput.parmMax < parLen ∨ parLen ≤ 0 then .rejected
  else findCmd ((s.tarData.take parLen.toNat).map (content s.strData))

def lteCmdBufSize : Nat := BleInput.cmdStringLengthMax

def put (buffer : List UInt8) (index : Nat) : List UInt8 → List UInt8
  | [] => buffer
  | c :: output => put (buffer.set index c) (index + 1) output

/-- `lte_cmd_msg`, `offset`, and the indices of `lte_cmd_msg` that were written. -/
structure Printer where
  lteCmdMsg : List UInt8
  offset : Nat
  written : List Nat

/-- `offset += snprintf(lte_cmd_msg + offset, LTE_CMD_BUF_SIZE, …)`: the size is that of the whole buffer. -/
def Printer.snprintf (p : Printer) (output : List UInt8) : Printer where
  lteCmdMsg := put p.lteCmdMsg p.offset (output.take (lteCmdBufSize - 1) ++ [0])
  offset := p.offset + output.length
  written := p.written ++ List.range' p.offset ((output.take (lteCmdBufSize - 1)).length + 1)

def lteCmdText (lteCmdMsg : List UInt8) (parms : List (List UInt8)) : Printer :=
  let head := (⟨lteCmdMsg, 0, []⟩ : Printer).snprintf (parms.headD [])
  (parms.tail.foldl (fun p parm => p.snprintf (0x2C :: parm)) head).snprintf (cString "#")

/-- What `lte_cmd_handler` returns and leaves in `resp_msg`, and the parameter of `lte_send_command("CMD", …)` with the
indices that were written to get it. -/
structure LteCmdResult where
  sent : Option (List UInt8)
  written : List Nat
  respMsg : Option (List UInt8)
  ret : Int
  deriving DecidableEq

def bleDataTypePacketMultiple : Int := 0xFF02

/-- `lte_cmd_handler`, with the buffer that `MY_MALLOC_BUFFER` gives and the result of `lte_send_command`. -/
def lteCmdHandler (malloc : Option (List UInt8)) (lteSend : Int) (parms : List (List UInt8)) : LteCmdResult :=
  match malloc with
  | none => ⟨none, [], none, -1⟩
  | some lteCmdMsg =>
    let printed := lteCmdText lteCmdMsg parms
    let answer := cString (if lteSend < 0 then "_FAIL" else "_OK")
    ⟨some (text printed.lteCmdMsg), printed.written, some (cString "RETURN_" ++ parms.headD [] ++ answer),
      bleDataTypePacketMultiple⟩

end LL320D.AtText

namespace LL320D.BleInput
open AtText

def Access.ofWrite : Write → Access
  | .str index => .rcvMsg index
  | .tar index => .parm index

/-- The accesses of `at_cmd_str_analyse`, beginning with those of `strlen`. If that leaves the array, nothing is known of
the rest. -/
def analyseAccesses (msg : AtCmd) : List Access :=
  (List.range ((text msg.rcvMsg).length + 1)).map .rcvMsg ++
    if (text msg.rcvMsg).length < cmdStringLengthMax then
      ((Analysis.start msg.rcvMsg msg.parm).reads atFormat parmMax 0 (text msg.rcvMsg)).map .rcvMsg ++
        (atCmdStrAnalyse msg.rcvMsg msg.parm parmMax atFormat).1.writes.map .ofWrite
    else []

def bleComuAtCmdHandle (text : List UInt8) : List Access × Option Int :=
  let msg := AtCmd.received text
  (memcpyWrites text ++ analyseAccesses msg,
    if (AtText.text msg.rcvMsg).length < cmdStringLengthMax then
      some (atCmdStrAnalyse msg.rcvMsg msg.parm parmMax atFormat).2
    else none)

end LL320D.BleInput
