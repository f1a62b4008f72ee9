import LL320D.Library.Crc
import LL320D.Library.Fields

/-! The receiver of `my_ymodem.c`: its frames with their checks, what `receiver_run` does with the result of one call of
`recv_data`, and where the file is put. -/

namespace LL320D.Ymodem

section
open Library

inductive Ret where
  | ok
  | errHead
  | errSeq
  | errCrc
  | errCan
  | errAck
  | errSize
  | errState
  | errIo
  | errRetry
  | errFile
  | errParam
  deriving DecidableEq

def soh : UInt8 := 0x01
def stx : UInt8 := 0x02
def eot : UInt8 := 0x04
def ack : UInt8 := 0x06
def nak : UInt8 := 0x15
def can : UInt8 := 0x18
def crc16C : UInt8 := 0x43

def sohSize : Nat := 128
def stxSize : Nat := 1024
def frameBufSize : Nat := 1032
def dataOff : Nat := 3
def infoMaxNameLen : Nat := 100

def handshakeRetry : Nat := 10
def sendRetry : Nat := 10

def int32 (n : Int) : Int := n.bmod (2 ^ 32)

inductive CrcType where
  | checksum
  | crc16
  deriving DecidableEq

def calcCrc16 (data : List UInt8) : BitVec 16 := Crc.plain 0x1021#16 0#16 data

def crc16Table : List (BitVec 16) := [
  0x0000, 0x1021, 0x2042, 0x3063, 0x4084, 0x50A5, 0x60C6, 0x70E7, 0x8108, 0x9129, 0xA14A, 0xB16B, 0xC18C, 0xD1AD,
  0xE1CE, 0xF1EF, 0x1231, 0x0210, 0x3273, 0x2252, 0x52B5, 0x4294, 0x72F7, 0x62D6, 0x9339, 0x8318, 0xB37B, 0xA35A,
  0xD3BD, 0xC39C, 0xF3FF, 0xE3DE, 0x2462, 0x3443, 0x0420, 0x1401, 0x64E6, 0x74C7, 0x44A4, 0x5485, 0xA56A, 0xB54B,
  0x8528, 0x9509, 0xE5EE, 0xF5CF, 0xC5AC, 0xD58D, 0x3653, 0x2672, 0x1611, 0x0630, 0x76D7, 0x66F6, 0x5695, 0x46B4,
  0xB75B, 0xA77A, 0x9719, 0x8738, 0xF7DF, 0xE7FE, 0xD79D, 0xC7BC, 0x48C4, 0x58E5, 0x6886, 0x78A7, 0x0840, 0x1861,
  0x2802, 0x3823, 0xC9CC, 0xD9ED, 0xE98E, 0xF9AF, 0x8948, 0x9969, 0xA90A, 0xB92B, 0x5AF5, 0x4AD4, 0x7AB7, 0x6A96,
  0x1A71, 0x0A50, 0x3A33, 0x2A12, 0xDBFD, 0xCBDC, 0xFBBF, 0xEB9E, 0x9B79, 0x8B58, 0xBB3B, 0xAB1A, 0x6CA6, 0x7C87,
  0x4CE4, 0x5CC5, 0x2C22, 0x3C03, 0x0C60, 0x1C41, 0xEDAE, 0xFD8F, 0xCDEC, 0xDDCD, 0xAD2A, 0xBD0B, 0x8D68, 0x9D49,
  0x7E97, 0x6EB6, 0x5ED5, 0x4EF4, 0x3E13, 0x2E32, 0x1E51, 0x0E70, 0xFF9F, 0xEFBE, 0xDFDD, 0xCFFC, 0xBF1B, 0xAF3A,
  0x9F59, 0x8F78, 0x9188, 0x81A9, 0xB1CA, 0xA1EB, 0xD10C, 0xC12D, 0xF14E, 0xE16F, 0x1080, 0x00A1, 0x30C2, 0x20E3,
  0x5004, 0x4025, 0x7046, 0x6067, 0x83B9, 0x9398, 0xA3FB, 0xB3DA, 0xC33D, 0xD31C, 0xE37F, 0xF35E, 0x02B1, 0x1290,
  0x22F3, 0x32D2, 0x4235, 0x5214, 0x6277, 0x7256, 0xB5EA, 0xA5CB, 0x95A8, 0x8589, 0xF56E, 0xE54F, 0xD52C, 0xC50D,
  0x34E2, 0x24C3, 0x14A0, 0x0481, 0x7466, 0x6447, 0x5424, 0x4405, 0xA7DB, 0xB7FA, 0x8799, 0x97B8, 0xE75F, 0xF77E,
  0xC71D, 0xD73C, 0x26D3, 0x36F2, 0x0691, 0x16B0, 0x6657, 0x7676, 0x4615, 0x5634, 0xD94C, 0xC96D, 0xF90E, 0xE92F,
  0x99C8, 0x89E9, 0xB98A, 0xA9AB, 0x5844, 0x4865, 0x7806, 0x6827, 0x18C0, 0x08E1, 0x3882, 0x28A3, 0xCB7D, 0xDB5C,
  0xEB3F, 0xFB1E, 0x8BF9, 0x9BD8, 0xABBB, 0xBB9A, 0x4A75, 0x5A54, 0x6A37, 0x7A16, 0x0AF1, 0x1AD0, 0x2AB3, 0x3A92,
  0xFD2E, 0xED0F, 0xDD6C, 0xCD4D, 0xBDAA, 0xAD8B, 0x9DE8, 0x8DC9, 0x7C26, 0x6C07, 0x5C64, 0x4C45, 0x3CA2, 0x2C83,
  0x1CE0, 0x0CC1, 0xEF1F, 0xFF3E, 0xCF5D, 0xDF7C, 0xAF9B, 0xBFBA, 0x8FD9, 0x9FF8, 0x6E17, 0x7E36, 0x4E55, 0x5E74,
  0x2E93, 0x3EB2, 0x0ED1, 0x1EF0]

/-- `calc_crc16` with `MY_YMODEM_USE_CRC_TABLE`. -/
def calcCrc16Table (data : List UInt8) : BitVec 16 :=
  data.foldl (fun crc byte => crc <<< 8 ^^^ crc16Table.getD ((crc >>> 8 ^^^ byte.toBitVec.setWidth 16) &&& 0xFF).toNat 0) 0

def calcChecksum (data : List UInt8) : UInt8 := data.foldl (· + ·) 0

namespace CrcType

def len : CrcType → Nat
  | .checksum => 1
  | .crc16 => 2

def request : CrcType → UInt8
  | .checksum => nak
  | .crc16 => crc16C

def check (crcType : CrcType) (data : List UInt8) : List UInt8 :=
  match crcType with
  | .checksum => [calcChecksum data]
  | .crc16 => [.ofBitVec ((calcCrc16 data >>> 8).setWidth 8), .ofBitVec ((calcCrc16 data).setWidth 8)]

end CrcType

def frameBytes (crcType : CrcType) (head seq : UInt8) (data : List UInt8) : List UInt8 :=
  [head, seq, ~~~seq] ++ data ++ crcType.check data

def headSize (head : UInt8) : Option Nat :=
  if head = soh then some sohSize else if head = stx then some stxSize else none

/-- The data field of the frame with the file information: name, NUL and size, which `snprintf`
cuts to the field. -/
def fileInfo (name : List UInt8) (size : Nat) : List UInt8 :=
  let text := (name.take (infoMaxNameLen - 1) ++ 0 :: Decimal.text size).take (sohSize - 1)
  text ++ List.replicate (sohSize - text.length) 0

def isSpace (byte : UInt8) : Bool := byte = 0x20 || (0x09 ≤ byte && byte ≤ 0x0D)

/-- `strtol` to base ten with a `long` of 32 bits. -/
def strtol (text : List UInt8) : Int :=
  let text := text.dropWhile isSpace
  let signed := text.head? = some 0x2D ∨ text.head? = some 0x2B
  let value : Int := Decimal.value ((if signed then text.tail else text).takeWhile Decimal.isDigit)
  if text.head? = some 0x2D then max (-2 ^ 31) (-value) else min (2 ^ 31 - 1) value

def infoName (data : List UInt8) : List UInt8 := (data.take (sohSize - 1)).takeWhile (· ≠ 0)

/-- The size in the file information, which is read on beyond the data field as long as there are
digits; 0 is taken as unknown. -/
def infoSize (data : List UInt8) : Int :=
  let size := strtol (data.drop ((infoName data).length + 1))
  if size = 0 then -1 else size

end

structure SaveIo (σ : Type*) where
  saveOpen : σ → List UInt8 → Int → Bool × σ
  saveWrite : σ → List UInt8 → Int → Bool × σ
  saveClose : σ → σ

inductive State where
  | connecting
  | connected
  | filexfer
  | endofxfer
  | ending
  | ended
  deriving DecidableEq

structure Recv where
  data : List UInt8
  failed : Bool
  deriving DecidableEq

inductive Act where
  | send (byte : UInt8)
  | flush
  deriving DecidableEq

inductive Pc where
  | handshake (i : Nat)
  | firstHead (i retry : Nat)
  | firstRest (i retry : Nat)
  | frameHead (errors : Nat)
  | frameRest (errors : Nat)
  | done (ret : Ret)
  deriving DecidableEq

structure Receiver (σ : Type*) where
  state : State
  crcType : CrcType
  isYmodem : Bool
  fileName : List UInt8
  fileSize : Int
  written : Int
  expectedSeq : UInt8
  frame : List UInt8
  sink : σ
  acts : List Act
  pc : Pc

namespace Receiver

variable {σ : Type*}

section

variable (s : Receiver σ)

def sendByte (byte : UInt8) : Receiver σ := { s with acts := s.acts ++ [.send byte] }

def portFlush : Receiver σ := { s with acts := s.acts ++ [.flush] }

def sendRequest : Receiver σ := s.sendByte s.crcType.request

def store (off : Nat) (data : List UInt8) : Receiver σ :=
  { s with frame := s.frame.take off ++ data ++ s.frame.drop (off + data.length) }

def head : UInt8 := s.frame.getD 0 0

def seq : UInt8 := s.frame.getD 1 0

def seqn : UInt8 := s.frame.getD 2 0

def dataField : List UInt8 := s.frame.drop dataOff

def verifyFrame (size : Nat) : Ret :=
  if s.seq + s.seqn ≠ 0xFF then .errSeq
  else
    match s.crcType with
    | .checksum => if s.frame.getD (dataOff + size) 0 ≠ calcChecksum (s.dataField.take size) then .errCrc else .ok
    | .crc16 =>
      let rx := (s.frame.getD (dataOff + size) 0).toBitVec ++ (s.frame.getD (dataOff + size + 1) 0).toBitVec
      if rx ≠ calcCrc16 (s.dataField.take size) then .errCrc else .ok

def parseFileInfo : Receiver σ := { s with fileName := infoName s.dataField, fileSize := infoSize s.dataField }

def remain : Nat := 2 + (headSize s.head).getD 0 + s.crcType.len

def need : Option Nat :=
  match s.pc with
  | .handshake _ | .firstHead _ _ | .frameHead _ => some 1
  | .firstRest _ _ | .frameRest _ => some s.remain
  | .done _ => none

end

section

variable (io : SaveIo σ) (s : Receiver σ)

def openFile : Ret × Receiver σ :=
  match io.saveOpen s.sink s.fileName s.fileSize with
  | (true, sink) => (.ok, { s with sink, written := 0 })
  | (false, sink) => (.errFile, { s with sink })

def closeFile : Receiver σ := { s with sink := io.saveClose s.sink }

def saveData (len : Int) : Ret × Receiver σ :=
  match io.saveWrite s.sink (s.dataField.take len.toNat) len with
  | (true, sink) => (.ok, { s with sink, written := int32 (s.written + len) })
  | (false, sink) => (.errFile, { s with sink }.sendByte can)

def openFirst (size : Nat) : Ret × Receiver σ :=
  match { s with state := .connected }.openFile io with
  | (.ok, s) =>
    if s.isYmodem then (.ok, s)
    else
      match s.saveData io size with
      | (.ok, s) => (.ok, s.sendByte ack)
      | (ret, s) => (ret, s)
  | (_, s) => (.errFile, s.sendByte can)

def takeFirstFrame (size : Nat) : Ret × Receiver σ :=
  if s.seq = 0 ∧ s.seqn = 0xFF then
    (({ s with isYmodem := true, expectedSeq := 1 }.parseFileInfo.sendByte ack).sendRequest).openFirst io size
  else if s.seq ≠ 1 then (.errSeq, { s with isYmodem := false }.sendByte nak)
  else { s with isYmodem := false, expectedSeq := 2 }.openFirst io size

def processFirstFrame (size : Nat) (complete : Bool) : Ret × Receiver σ :=
  if complete then
    match s.verifyFrame size with
    | .ok => s.takeFirstFrame io size
    | ret => (ret, s.portFlush.sendByte nak)
  else (.errSize, s.portFlush.sendByte nak)

def processEot : Ret × Receiver σ :=
  if s.isYmodem then
    match s.state with
    | .filexfer => (.ok, { s with state := .endofxfer }.sendByte nak)
    | .endofxfer => (.ok, ({ s with state := .ending }.sendByte ack).sendRequest)
    | .ending => (.ok, s)
    | _ => (.errState, s)
  else (.ok, ({ s with state := .ended }.sendByte ack).closeFile io)

def saveSize (size : Nat) : Int :=
  if s.isYmodem ∧ 0 < s.fileSize ∧ s.fileSize < int32 (s.written + size) then int32 (s.fileSize - s.written) else size

def takeData (size : Nat) : Ret × Receiver σ :=
  match s.saveData io (s.saveSize size) with
  | (.ok, s) =>
    let s := s.sendByte ack
    if s.isYmodem ∧ 0 < s.fileSize ∧ s.fileSize ≤ s.written ∧ s.state = .filexfer then
      (.ok, { s.sendByte nak with state := .endofxfer })
    else (.ok, s)
  | (ret, s) => (ret, s)

def takeEndFrame : Ret × Receiver σ :=
  if s.dataField.getD 0 0 = 0 then (.ok, ({ s with state := .ended }.sendByte ack).closeFile io)
  else
    let s := { ((s.closeFile io).parseFileInfo.sendByte ack).sendRequest with expectedSeq := 1 }
    match s.openFile io with
    | (.ok, s) => (.ok, { s with state := .filexfer })
    | (_, s) => (.errFile, s.sendByte can)

def takeFrame (size : Nat) : Ret × Receiver σ :=
  if s.isYmodem ∧ s.state = .ending ∧ s.seq = 0 then s.takeEndFrame io
  else if s.seq = s.expectedSeq then { s with expectedSeq := s.expectedSeq + 1 }.takeData io size
  else if s.seq = s.expectedSeq - 1 then (.ok, s.sendByte ack)
  else (.errSeq, s.sendByte nak)

def processFrame (size : Nat) (complete : Bool) : Ret × Receiver σ :=
  if complete then
    match s.verifyFrame size with
    | .ok => s.takeFrame io size
    | _ => (.errCrc, s.portFlush.sendByte nak)
  else (.errSize, s.portFlush.sendByte nak)

end

variable (io : SaveIo σ)

def enterHandshake (s : Receiver σ) (i : Nat) : Receiver σ :=
  if i < handshakeRetry then
    let s := if s.crcType = .crc16 ∧ handshakeRetry / 2 ≤ i then { s with crcType := .checksum } else s
    { s.sendRequest with pc := .handshake i }
  else { s.portFlush with pc := .done .errRetry }

/-- `my_ymodem_receive` on a new handle, up to the first call of `recv_data`; it sets `crc_type` to
`CRC16`. -/
def start (crcType : CrcType) (sink : σ) : Receiver σ := enterHandshake
    { state := .connecting, crcType, isYmodem := false, fileName := [], fileSize := 0, written := 0, expectedSeq := 0,
      frame := List.replicate frameBufSize 0, sink, acts := [], pc := .handshake 0 } 0

def enterFirst (s : Receiver σ) (i retry : Nat) : Receiver σ :=
  { s with pc := if (headSize s.head).isSome then .firstRest i retry else .firstHead i retry }

def firstProcessed (i retry : Nat) : Ret × Receiver σ → Receiver σ
  | (.ok, s) => { s with state := .filexfer, pc := .frameHead 0 }
  | (ret, s) => if retry ≤ 1 then { s with pc := .done ret } else s.enterFirst i (retry - 1)

def frameProcessed (errors : Nat) : Ret × Receiver σ → Receiver σ
  | (.ok, s) =>
    if s.state = .ended then { s.portFlush.closeFile io with pc := .done .ok } else { s with pc := .frameHead 0 }
  | (ret, s) =>
    if ret = .errHead ∨ ret = .errState ∨ ret = .errIo then { s with pc := .done ret }
    else if sendRetry ≤ errors + 1 then { s.sendByte can with pc := .done .errRetry }
    else { s with pc := .frameHead (errors + 1) }

def enterFrame (s : Receiver σ) (errors : Nat) : Receiver σ :=
  if s.head = eot then frameProcessed io errors (s.processEot io)
  else if (headSize s.head).isSome then { s with pc := .frameRest errors }
  else frameProcessed io errors (.errHead, (s.sendByte can).portFlush)

def step (s : Receiver σ) (r : Recv) : Receiver σ :=
  let s := { s with acts := [] }
  match s.pc with
  | .handshake i =>
    let s := s.store 0 (r.data.take 1)
    if r.failed ∨ r.data = [] then s.enterHandshake (i + 1) else s.enterFirst i sendRetry
  | .firstHead i retry =>
    let s := s.store 0 (r.data.take 1)
    if r.failed ∨ r.data = [] then s.enterHandshake (i + 1) else s.enterFirst i retry
  | .firstRest i retry =>
    let complete := !r.failed && s.remain ≤ r.data.length
    let size := (headSize s.head).getD 0
    firstProcessed i retry ((s.store 1 (r.data.take s.remain)).processFirstFrame io size complete)
  | .frameHead errors =>
    let s := s.store 0 (r.data.take 1)
    if r.failed ∨ r.data = [] then frameProcessed io errors (.errCrc, s.portFlush.sendByte nak)
    else s.enterFrame io errors
  | .frameRest errors =>
    let complete := !r.failed && s.remain ≤ r.data.length
    let size := (headSize s.head).getD 0
    frameProcessed io errors ((s.store 1 (r.data.take s.remain)).processFrame io size complete)
  | .done _ => s

end Receiver

open Library

def maxPathLen : Nat := 256

/-- The bytes of the file that were saved since it was opened, the lengths that `receiver_save_data` was called with, and
offset and length of the copies into `out_buf`. -/
structure Store where
  saved : Int
  lens : List Int
  copies : List (Int × Int)
  deriving DecidableEq

namespace Store

def opened (st : Store) : Store := { st with saved := 0 }

def refused (st : Store) (len : Int) : Store := { st with lens := st.lens ++ [len] }

def kept (st : Store) (len : Int) : Store := { st with saved := st.saved + len, lens := st.lens ++ [len] }

end Store

/-- `data_dst == 1`: the copy begins at `written`, which is what was saved since the file was opened. -/
def memoryIo (outBufSize : Nat) : SaveIo Store where
  saveOpen st _ _ := (true, st.opened)
  saveWrite st _ len :=
    if outBufSize < int32 (int32 st.saved + len) then (false, st.refused len)
    else (true, { st.kept len with copies := st.copies ++ [(int32 st.saved, len)] })
  saveClose st := st

def callbackIo (opens saves : Bool) : SaveIo Store where
  saveOpen st _ _ := (opens, st.opened)
  saveWrite st _ len := (saves, if saves then st.kept len else st.refused len)
  saveClose st := st

structure Turn where
  recv : Recv
  opens : Bool
  saves : Bool
  deriving DecidableEq

def turnIo (outBuf : Option Nat) (t : Turn) : SaveIo Store :=
  match outBuf with
  | some outBufSize => memoryIo outBufSize
  | none => callbackIo t.opens t.saves

namespace Receiver

def turn (outBuf : Option Nat) (s : Receiver Store) (t : Turn) : Receiver Store := s.step (turnIo outBuf t) t.recv

def fresh (crcType : CrcType) : Receiver Store := start crcType ⟨0, [], []⟩

variable {σ : Type*} (s : Receiver σ)

def received (r : Recv) : Receiver σ :=
  match s.pc with
  | .handshake _ | .firstHead _ _ | .frameHead _ => { s with acts := [] }.store 0 (r.data.take 1)
  | .firstRest _ _ | .frameRest _ => { s with acts := [] }.store 1 (r.data.take s.remain)
  | .done _ => { s with acts := [] }

/-- The end of the bytes of the frame buffer that `recv_data` fills and `receiver_verify_frame` reads. -/
def frameEnd : Nat :=
  match s.pc with
  | .handshake _ | .firstHead _ _ | .frameHead _ => 1
  | .firstRest _ _ | .frameRest _ => 1 + s.remain
  | .done _ => 0

def size : Nat := (headSize s.head).getD 0

def dataArea : List UInt8 := s.dataField.take s.size

def takesInfo (r : Recv) : Prop :=
  let frame := s.received r
  (!r.failed && s.remain ≤ r.data.length) = true ∧ frame.verifyFrame s.size = .ok ∧ frame.seq = 0 ∧
    match s.pc with
    | .firstRest _ _ => True
    | .frameRest _ => s.isYmodem = true ∧ s.state = .ending ∧ frame.dataField.getD 0 0 ≠ 0
    | _ => False

end Receiver

def strtolRest (text : List UInt8) : List UInt8 :=
  let text := text.dropWhile isSpace
  let signed := text.head? = some 0x2D ∨ text.head? = some 0x2B
  (if signed then text.tail else text).dropWhile Decimal.isDigit

def sizeText (data : List UInt8) : List UInt8 := data.drop ((infoName data).length + 1)

/-- The end of what `receiver_parse_file_info` reads of the data, with the byte that ends the size. -/
def infoEnd (data : List UInt8) : Nat := data.length - (strtolRest (sizeText data)).length + 1

end LL320D.Ymodem
