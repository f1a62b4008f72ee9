import LL320D.Library.Machine
import LL320D.Library.Network
import LL320D.YmodemReceiver

/-! The sender of `my_ymodem.c`, a step for each call of `recv_byte`; sender and receiver joined by two loss-free channels;
and the receiver at the end of a channel that loses, damages and repeats frames and replies. -/

namespace LL320D.Ymodem
open Library

inductive Proto where
  | auto
  | ymode
  | xmodem
  | xmodem1k
  deriving DecidableEq

/-- What is to be sent. The size is a C `int`, and a name ends at its first NUL. -/
structure File where
  name : List UInt8
  data : List UInt8
  plain : 0 ∉ name
  small : data.length < 2 ^ 31

inductive SenderPc where
  | handshake (i : Nat)
  | infoAck (i : Nat)
  | infoRequest (i : Nat)
  | frameAck (last : Bool) (i : Nat)
  | xmodemEot (i : Nat)
  | firstEot (i : Nat)
  | secondEot (i : Nat)
  | endRequest (i : Nat)
  | endAck (i : Nat)
  | done (ret : Ret)
  deriving DecidableEq

structure Sender where
  file : File
  isYmodem : Bool
  xmodem1k : Bool
  crcType : CrcType
  memOffset : Nat
  seq : Nat
  frame : List UInt8
  acts : List Act
  pc : SenderPc

namespace Sender

section

variable (s : Sender)

def sendByte (byte : UInt8) : Sender := { s with acts := s.acts ++ [.send byte] }

def sendFrame : Sender := { s with acts := s.acts ++ s.frame.map .send }

def portFlush : Sender := { s with acts := s.acts ++ [.flush] }

def dataSize : Nat := if s.isYmodem then stxSize else if s.xmodem1k then stxSize else sohSize

def expect : UInt8 := s.crcType.request

end

def frameHead (s : Sender) (len : Nat) : UInt8 :=
  if s.isYmodem then if len ≤ sohSize then soh else stx
  else if s.xmodem1k then stx else soh

def padded (size : Nat) (data : List UInt8) : List UInt8 := data ++ List.replicate (size - data.length) 0x1A

section

variable (s : Sender)

/-- `sender_send_file_frame` up to the first answer. -/
def sendFileFrame : Sender :=
  { { s with frame := frameBytes s.crcType soh 0x00 (fileInfo s.file.name s.file.data.length) }.sendFrame with
    pc := .infoAck 0 }

def resendInfo (i : Nat) : Sender :=
  if i + 1 < sendRetry then { s.sendFrame with pc := .infoAck (i + 1) } else { s with pc := .done .errAck }

def sendDataFrame (data : List UInt8) (last : Bool) : Sender :=
  let head := s.frameHead data.length
  { { s with frame := frameBytes s.crcType head (UInt8.ofNat s.seq) (padded ((headSize head).getD 0) data) }.sendFrame with
    pc := .frameAck last 0 }

def resendFrame (last : Bool) (i : Nat) : Sender :=
  if i + 1 < sendRetry then { s.sendFrame with pc := .frameAck last (i + 1) }
  else { s.sendByte can with pc := .done .errCan }

def sendEot : Sender :=
  if s.isYmodem then { s.sendByte eot with pc := .firstEot 0 } else { s.sendByte eot with pc := .xmodemEot 0 }

def nextFrame : Sender :=
  let chunk := (s.file.data.drop s.memOffset).take s.dataSize
  if chunk = [] then
    if s.isYmodem ∧ 0 < s.file.data.length ∧ s.file.data.length % s.dataSize = 0 then s.sendDataFrame [] true
    else s.sendEot
  else { s with memOffset := s.memOffset + chunk.length }.sendDataFrame chunk false

def frameSent (last : Bool) : Sender :=
  let s := { s with seq := s.seq + 1 }
  if last then s.sendEot else s.nextFrame

def sendEndFrame : Sender :=
  { { s with frame := frameBytes s.crcType soh 0x00 (List.replicate sohSize 0) }.sendFrame with pc := .endAck 0 }

def connected (crcType : CrcType) : Sender :=
  let s := { s with crcType }
  if s.isYmodem then s.sendFileFrame else s.nextFrame

def retry (i : Nat) (again : Sender) (pc : Nat → SenderPc) : Sender :=
  if i + 1 < sendRetry then { again with pc := pc (i + 1) } else { s with pc := .done .errAck }

end

/-- `sender_apply_protocol` and `sender_run` up to the first call of `recv_byte`. -/
def start (protocol : Proto) (isYmodem xmodem1k : Bool) (file : File) : Sender where
  file := file
  isYmodem := match protocol with
    | .ymode => true
    | .auto => isYmodem
    | _ => false
  xmodem1k := match protocol with
    | .xmodem1k => true
    | .auto => xmodem1k
    | _ => false
  crcType := .crc16
  memOffset := 0
  seq := 1
  frame := []
  acts := []
  pc := .handshake 0

def need (s : Sender) : Option Nat :=
  match s.pc with
  | .done _ => none
  | _ => some 1

def step (s : Sender) (c : Option UInt8) : Sender :=
  let s := { s with acts := [] }
  match s.pc with
  | .handshake i =>
    if c = some crc16C then s.connected .crc16
    else if c = some nak then s.connected .checksum
    else
      let s := if c.isSome then s.portFlush else s
      if i + 1 < handshakeRetry then { s with pc := .handshake (i + 1) } else { s with pc := .done .errRetry }
  | .infoAck i => if c = some ack then { s with pc := .infoRequest i } else s.resendInfo i
  | .infoRequest i => if c = some s.expect then s.nextFrame else s.resendInfo i
  | .frameAck last i =>
    match c with
    | none => s.resendFrame last i
    | some c =>
      if c = ack then s.frameSent last
      else if c = can then { s.sendByte can with pc := .done .errCan }
      else if c ≠ nak then { s with pc := .done .errAck }
      else s.resendFrame last i
  | .xmodemEot i => if c = some ack then { s with pc := .done .ok } else s.retry i (s.sendByte eot) .xmodemEot
  | .firstEot i =>
    if c = some nak then { s.sendByte eot with pc := .secondEot 0 }
    else if c = some ack then { s with pc := .endRequest 0 }
    else if c = some crc16C then s.sendEndFrame
    else s.retry i (s.sendByte eot) .firstEot
  | .secondEot i =>
    if c = some ack then { s with pc := .endRequest 0 } else s.retry i (s.sendByte eot) .secondEot
  | .endRequest i => if c = some s.expect then s.sendEndFrame else s.retry i s .endRequest
  | .endAck i => if c = some ack then { s with pc := .done .ok } else s.retry i s.sendFrame .endAck
  | .done _ => s

end Sender

def sentBytes (acts : List Act) : List UInt8 := acts.filterMap fun act =>
    match act with
    | .send byte => some byte
    | .flush => none

def flushes (acts : List Act) : Bool := acts.contains .flush

def senderProcess : Process Sender UInt8 where
  need := Sender.need
  step s bytes := (s.step bytes.head?, sentBytes (s.step bytes.head?).acts, flushes (s.step bytes.head?).acts)

def receiverProcess {σ : Type*} (io : SaveIo σ) : Process (Receiver σ) UInt8 where
  need := Receiver.need
  step s bytes :=
    let next := s.step io { data := bytes, failed := false }
    (next, sentBytes next.acts, flushes next.acts)

def keepAll : SaveIo (List UInt8) where
  saveOpen kept _ _ := (true, kept)
  saveWrite kept data _ := (true, kept ++ data)
  saveClose kept := kept

abbrev Link := Network Sender (Receiver (List UInt8)) UInt8

def Link.start (crcType : CrcType) (xmodem1k : Bool) (file : File) : Link where
  left := Sender.start .auto true xmodem1k file
  right := Receiver.start crcType []
  toLeft := sentBytes (Receiver.start crcType ([] : List UInt8)).acts
  toRight := []

/-- What the callbacks keep: the bytes for which `save_write` succeeded, how often it was called, and whether a call has
failed. -/
structure Saved where
  bytes : List UInt8
  calls : Nat
  failed : Bool
  deriving DecidableEq

def saving (succeeds : Bool) : SaveIo Saved where
  saveOpen kept _ _ := (true, kept)
  saveWrite kept data _ :=
    if succeeds then (true, { kept with bytes := kept.bytes ++ data, calls := kept.calls + 1 })
    else (false, { kept with calls := kept.calls + 1, failed := true })
  saveClose kept := kept

structure Sending where
  file : File
  short : file.name.length < infoMaxNameLen
  heads : Nat → UInt8
  framed : ∀ k, (headSize (heads k)).isSome
  count : Nat
  none : file.data = [] → count = 0

namespace Sending

variable (tx : Sending)

def size (k : Nat) : Nat := (headSize (tx.heads k)).getD 0

def offset : Nat → Nat
  | 0 => 0
  | k + 1 => offset k + tx.size (k + 1)

def block (k : Nat) : List UInt8 := (tx.file.data.drop (tx.offset (k - 1))).take (tx.size k)

/-- What is sent: the file information, the blocks, `EOT` twice, and the frame that ends the session. -/
def bytes (crcType : CrcType) (k : Nat) : List UInt8 :=
  if k = 0 then frameBytes crcType soh 0 (fileInfo tx.file.name tx.file.data.length)
  else if k ≤ tx.count then frameBytes crcType (tx.heads k) (UInt8.ofNat k) (Sender.padded (tx.size k) (tx.block k))
  else if k ≤ tx.count + 2 then [eot]
  else frameBytes crcType soh 0 (List.replicate sohSize 0)

/-- The number that is in a frame; `EOT` has none. -/
def seq (k : Nat) : Option UInt8 :=
  if k ≤ tx.count then some (UInt8.ofNat k) else if k ≤ tx.count + 2 then .none else some 0

def last : Nat := tx.count + 3

end Sending

namespace Receiver

variable (s : Receiver Saved)

def waits : Bool := s.need = some 1

/-- Bytes that the receiver does not take for a frame: nothing, a byte that is not `EOT`, the rest of a frame that is too
short or fails its check. -/
def detects (r : Recv) : Bool :=
  match s.pc with
  | .handshake _ | .firstHead _ _ => true
  | .frameHead _ => r.failed || r.data.head? ≠ some eot
  | .firstRest _ _ | .frameRest _ =>
    !(!r.failed && s.remain ≤ r.data.length) ||
      (s.store 1 (r.data.take s.remain)).verifyFrame ((headSize s.head).getD 0) ≠ .ok
  | .done _ => true

end Receiver

structure Transfer where
  rx : Receiver Saved
  sent : Nat
  arrived : Nat
  replies : List UInt8
  heard : Nat

inductive Arrival where
  | frame (k : Nat) (saves : Bool)
  | noise (r : Recv)
  | reply (p : Nat)

namespace Transfer

def start : Transfer where
  rx := Receiver.start .crc16 { bytes := [], calls := 0, failed := false }
  sent := 0
  arrived := 0
  replies := sentBytes (Receiver.start .crc16 ()).acts
  heard := 0

def recv (s : Transfer) (saves : Bool) (r : Recv) : Transfer :=
  { s with rx := s.rx.step (saving saves) r, replies := s.replies ++ sentBytes (s.rx.step (saving saves) r).acts }

def recvFrame (s : Transfer) (saves : Bool) (bytes : List UInt8) : Transfer :=
  if bytes.tail = [] then s.recv saves { data := bytes, failed := false }
  else (s.recv saves { data := bytes.take 1, failed := false }).recv saves { data := bytes.tail, failed := false }

def step (tx : Sending) (s : Transfer) : Arrival → Transfer
  | .frame k saves =>
    if s.arrived ≤ k ∧ k ≤ s.sent ∧ s.rx.waits then { s with arrived := k }.recvFrame saves (tx.bytes s.rx.crcType k)
    else s
  | .noise r => if s.rx.detects r then s.recv true r else s
  | .reply p =>
    if s.heard ≤ p ∧ p < s.replies.length then
      { s with heard := p, sent := if s.replies.getD p 0 = ack ∧ s.sent < tx.last then s.sent + 1 else s.sent }
    else s

def PrefixSaved (tx : Sending) (s : Transfer) : Prop := s.rx.sink.bytes <+: tx.file.data

/-- When a frame comes with the number that the receiver expects, no call of `save_write` has failed, the frame is a block
and less than 257 blocks ahead of the calls, and its end can be told in an `int`. -/
def InOrder (tx : Sending) (s : Transfer) : Arrival → Prop
  | .frame k _ => tx.seq k = some s.rx.expectedSeq ∧ s.rx.state ≠ .ending →
      s.rx.sink.failed = false ∧ k ≤ tx.count ∧ k ≤ s.rx.sink.calls + 256 ∧ tx.offset k < 2 ^ 31
  | _ => True

end Transfer

end LL320D.Ymodem
