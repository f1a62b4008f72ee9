import LL320D.Library.Machine
import LL320D.Library.Fields

/-! The reply transport of `my_ble_app.c`: a reply is one packet of type `FF01` or several of type `FF02`, and each waits
for the peer's acknowledgement. -/

namespace LL320D.BlePacket
open Library

structure Aes where
  encrypt : List UInt8 → List UInt8
  decrypt : List UInt8 → List UInt8
  length_encrypt : ∀ data, (encrypt data).length = data.length
  decrypt_encrypt : ∀ data, decrypt (encrypt data) = data

def Aes.plain : Aes where
  encrypt := id
  decrypt := id
  length_encrypt _ := rfl
  decrypt_encrypt _ := rfl

inductive Proto where
  | single
  | multiple
  deriving DecidableEq

/-- The two bytes of `BLE_DATA_TYPE_PACKET_SINGLE` and `BLE_DATA_TYPE_PACKET_MULTIPLE`. -/
def Proto.dataType : Proto → List UInt8
  | .single => [0xFF, 0x01]
  | .multiple => [0xFF, 0x02]

def dataPacketHead : List UInt8 := [0x42, 0x54]

def respStringLengthMax : Nat := 1024

def cmdDataLenUnit : Nat := 16

/-- `BLE_RESP_LENGTH_MAX`, for `CONFIG_BT_L2CAP_TX_MTU` = 498. -/
def respLengthMax : Nat := 495

def moduleId : UInt8 := 0x08

def seqLast : Nat := 0xFF

def maxRetry : Nat := 3

inductive Buffer where
  | rsp
  | encrypt
  | tx
  deriving DecidableEq

def Buffer.size : Buffer → Nat
  | .rsp => 512 + 16
  | .encrypt => respLengthMax
  | .tx => respLengthMax

/-- `packet_trans_t`; `last_proto_type` is 0 before the first packet. -/
structure PacketTrans where
  data : List UInt8
  totalLen : Nat
  sentOffset : Nat
  lastOffset : Nat
  lastLen : Nat
  nextSeq : Nat
  retryCnt : Nat
  lastSeq : Nat
  lastProtoType : Option Proto
  waitingAck : Bool
  isBusy : Bool
  deriving DecidableEq

def PacketTrans.zero : PacketTrans where
  data := []
  totalLen := 0
  sentOffset := 0
  lastOffset := 0
  lastLen := 0
  nextSeq := 0
  retryCnt := 0
  lastSeq := 0
  lastProtoType := none
  waitingAck := false
  isBusy := false

structure PacketTransWait where
  data : List UInt8
  pending : Bool
  deriving DecidableEq

structure SentPacket where
  transfer : Nat
  offset : Nat
  len : Nat
  proto : Proto
  seq : Nat
  frame : List UInt8
  deriving DecidableEq

/-- The last three fields are a history: the transfers begun, the frames given to the link, and how far each write into
a buffer reached. -/
structure Transport where
  mtu : Nat
  trans : PacketTrans
  wait : PacketTransWait
  rspTimer : Bool
  transfers : Nat
  sent : List SentPacket
  writes : List (Buffer × Nat)
  deriving DecidableEq

def sub16 (a b : Nat) : Nat := (a + 2 ^ 16 - b) % 2 ^ 16

def padded (len : Nat) : Nat :=
  if len % cmdDataLenUnit = 0 then len else len + (cmdDataLenUnit - len % cmdDataLenUnit)

namespace Transport

def init (mtu : Nat) : Transport where
  mtu := mtu
  trans := .zero
  wait := { data := [], pending := false }
  rspTimer := false
  transfers := 0
  sent := []
  writes := []

def maxEncryptLen (s : Transport) : Nat := (s.mtu - 3 - 4) / cmdDataLenUnit * cmdDataLenUnit

def write (s : Transport) (buffer : Buffer) (len : Nat) : Transport := { s with writes := s.writes ++ [(buffer, len)] }

/-- `aes_ecb_encrypt` appends a PKCS7 block and fails if the result does not fit its buffer. What is given to
`ble_server_send_notification` counts as sent. -/
def bleComuSendPacket (aes : Aes) (s : Transport) (proto : Proto) (seq offset len : Nat) (data : List UInt8) : Transport :=
  if respLengthMax < data.length ∨ data.length % cmdDataLenUnit ≠ 0 then s
  else
    let s := s.write .tx (4 + data.length)
    if data.length = 0 ∨ respLengthMax < data.length + cmdDataLenUnit then s
    else
      let s := (s.write .encrypt (data.length + cmdDataLenUnit)).write .tx (4 + data.length)
      { s with
        sent := s.sent ++
          [{ transfer := s.transfers, offset, len, proto, seq
             frame := dataPacketHead ++ proto.dataType ++ aes.encrypt data }] }

def recordLastPacket (s : Transport) (proto : Proto) (seq offset len : Nat) : Transport := { s with
    trans := { s.trans with
      lastProtoType := some proto, lastSeq := seq, lastOffset := offset, lastLen := len, waitingAck := true } }

def startRspTimer (s : Transport) : Transport := { s with rspTimer := true }

def stopRspTimer (s : Transport) : Transport := { s with rspTimer := false }

def singlePacketCanSend (s : Transport) (len : Nat) : Bool :=
  let contentLen := 1 + Varint.size len + len
  let payloadLen := Varint.size contentLen + contentLen
  padded payloadLen ≤ s.maxEncryptLen - 16

/-- `s_ble_rsp_buf` is cleared before the packet is written, so the padding is zero. -/
def zeroPadded (payload : List UInt8) : List UInt8 :=
  payload ++ List.replicate (padded payload.length - payload.length) 0

def singlePayload (data : List UInt8) : List UInt8 :=
  Varint.encode (1 + Varint.size data.length + data.length) ++ moduleId :: (Varint.encode data.length ++ data)

def singlePacketSend (aes : Aes) (s : Transport) (data : List UInt8) : Transport :=
  if data.length = 0 then s
  else
    let payload := singlePayload data
    let s := (s.write .rsp payload.length).recordLastPacket .single 0 0 data.length
    (s.bleComuSendPacket aes .single 0 0 data.length (zeroPadded payload)).startRspTimer

/-- The payload of an `FF02` packet: length, sequence number, in the first packet module id
and module length, then the data. -/
def multiplePayload (totalLen seq : Nat) (data : List UInt8) (isFirst : Bool) : List UInt8 :=
  let module := if isFirst then moduleId :: Varint.encode totalLen else []
  Varint.encode (1 + module.length + data.length) ++ UInt8.ofNat seq :: (module ++ data)

def multiplePacketSend (aes : Aes) (s : Transport) (seq offset len : Nat) (isFirst : Bool) : Transport :=
  if len = 0 then s
  else
    let payload := multiplePayload s.trans.totalLen seq ((s.trans.data.drop offset).take len) isFirst
    let s := s.write .rsp payload.length
    if Buffer.rsp.size < padded payload.length then s
    else
      let s := s.recordLastPacket .multiple seq offset len
      (s.bleComuSendPacket aes .multiple seq offset len (zeroPadded payload)).startRspTimer

def firstPktMax (s : Transport) (len : Nat) : Nat :=
  let contentLen := 1 + 1 + Varint.size len + len
  let headerLen := Varint.size contentLen + 1 + 1 + Varint.size len
  sub16 s.maxEncryptLen (headerLen + 16)

def firstPktLen (s : Transport) (len : Nat) : Nat := if s.firstPktMax len < len then s.firstPktMax len else len

def sendFirst (aes : Aes) (s : Transport) (len : Nat) : Transport :=
  let sending := { s with trans := { s.trans with nextSeq := 1 } }
  let after := sending.multiplePacketSend aes 0 0 len true
  { after with trans := { after.trans with sentOffset := len } }

def takeOver (s : Transport) (data : List UInt8) : Transport := { s with
    trans := { PacketTrans.zero with data, totalLen := data.length, isBusy := true }
    transfers := s.transfers + 1 }

def startTransfer (aes : Aes) (s : Transport) (data : List UInt8) : Transport :=
  if s.singlePacketCanSend data.length then s.singlePacketSend aes data
  else s.sendFirst aes (s.firstPktLen data.length)

def packetTransSend (aes : Aes) (s : Transport) (data : List UInt8) : Transport :=
  if data.length = 0 then s
  else
    let data := data.take respStringLengthMax
    if s.trans.isBusy then { s with wait := { data, pending := true } }
    else (s.takeOver data).startTransfer aes data

def tryStartPending (aes : Aes) (s : Transport) : Transport :=
  if s.wait.pending then { s with wait.pending := false }.packetTransSend aes s.wait.data else s

def resetState (s : Transport) (clearPending : Bool) : Transport := { s.stopRspTimer with
    trans := .zero
    wait := if clearPending then { data := [], pending := false } else s.wait }

/-- `ble_packet_trans_complete_current` and `ble_packet_trans_abort_current`. -/
def completeCurrent (aes : Aes) (s : Transport) : Transport := (s.resetState false).tryStartPending aes

def abortCurrent (aes : Aes) (s : Transport) : Transport := (s.resetState false).tryStartPending aes

def acknowledged (s : Transport) : Transport :=
  { s.stopRspTimer with trans := { s.trans with waitingAck := false, retryCnt := 0 } }

def nextPktLen (s : Transport) : Nat :=
  let remaining := s.trans.totalLen - s.trans.sentOffset
  let headerLen := Varint.size (1 + remaining) + 1
  let pktLen := sub16 s.maxEncryptLen (headerLen + 16)
  if remaining < pktLen then remaining else pktLen

/-- Its number, `seq_to_send`. -/
def nextNumber (s : Transport) : Nat :=
  if s.trans.totalLen ≤ s.trans.sentOffset + s.nextPktLen then seqLast else s.trans.nextSeq

def nextSeqAfter (s : Transport) : Nat :=
  if s.trans.totalLen ≤ s.trans.sentOffset + s.nextPktLen then 0 else (s.trans.nextSeq + 1) % 2 ^ 8

def sendFollowing (aes : Aes) (s : Transport) : Transport :=
  let sending := { s with trans := { s.trans with nextSeq := s.nextSeqAfter } }
  let after := sending.multiplePacketSend aes s.nextNumber s.trans.sentOffset s.nextPktLen false
  { after with trans := { after.trans with sentOffset := s.trans.sentOffset + s.nextPktLen } }

def sendNext (aes : Aes) (s : Transport) : Transport :=
  if s.trans.totalLen - s.trans.sentOffset = 0 then s.acknowledged.completeCurrent aes
  else s.acknowledged.sendFollowing aes

def multiplePacketContinue (aes : Aes) (s : Transport) (ackSeq : Nat) : Transport :=
  if ¬ s.trans.isBusy ∨ ¬ s.trans.waitingAck then s
  else if ackSeq ≠ s.trans.lastSeq then s
  else s.sendNext aes

def singlePacketRspHandle (aes : Aes) (s : Transport) (data : List UInt8) : Transport :=
  if data.length < 1 then s
  else if ¬ s.trans.isBusy ∨ ¬ s.trans.waitingAck ∨ s.trans.lastProtoType ≠ some .single then s
  else s.acknowledged.completeCurrent aes

def ackSeq (data : List UInt8) : Option Nat :=
  if data.length < 2 then none
  else
    match data with
    | first :: rest =>
      if first.toNat < 128 then
        if data.length < 1 + first.toNat then none else rest.head?.map UInt8.toNat
      else if data.length < 3 then none
      else
        let ackLen := first.toNat % 128 + 128 * (rest.head?.map UInt8.toNat).getD 0
        if data.length < 2 + ackLen then none else rest.tail.head?.map UInt8.toNat
    | [] => none

def multiplePacketAckHandle (aes : Aes) (s : Transport) (data : List UInt8) : Transport :=
  if data.length < 2 then s
  else if ¬ s.trans.isBusy ∨ ¬ s.trans.waitingAck ∨ s.trans.lastProtoType ≠ some .multiple then s
  else
    match ackSeq data with
    | none => s
    | some seq => s.multiplePacketContinue aes seq

def ackHandle (aes : Aes) (s : Transport) : Proto → List UInt8 → Transport
  | .single, data => s.singlePacketRspHandle aes data
  | .multiple, data => s.multiplePacketAckHandle aes data

/-- `ready` is what `ble_is_data_channel_ready` answers. -/
def timeoutHandler (aes : Aes) (s : Transport) (ready : Bool) : Transport :=
  if ¬ s.trans.isBusy ∨ ¬ s.trans.waitingAck then s
  else if ¬ ready then s.abortCurrent aes
  else if maxRetry ≤ s.trans.retryCnt then s.abortCurrent aes
  else
    let s := { s with trans := { s.trans with retryCnt := s.trans.retryCnt + 1 } }
    match s.trans.lastProtoType with
    | some .single => s.singlePacketSend aes s.trans.data
    | some .multiple =>
      s.multiplePacketSend aes s.trans.lastSeq s.trans.lastOffset s.trans.lastLen (s.trans.lastOffset = 0)
    | none => s

def disconnectCleanup (s : Transport) : Transport := s.resetState true

end Transport

/-- How the peer acknowledges a packet: `FF01` by a zero byte, `FF02` by the sequence number
behind its length; both are filled up to a unit. -/
def SentPacket.answer (packet : SentPacket) : List UInt8 :=
  match packet.proto with
  | .single => List.replicate 16 0
  | .multiple => 1 :: UInt8.ofNat packet.seq :: List.replicate 14 0

end LL320D.BlePacket
