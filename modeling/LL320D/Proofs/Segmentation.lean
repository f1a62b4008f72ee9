import LL320D.PacketTrans

/-! What the peer makes of the packets of a reply. For a large enough MTU the decoded pieces
are the reply, in packets that fit; for a smaller one the room left for data wraps around. -/

namespace LL320D.BlePacket
open Library List Transport Varint

variable {isFirst : Bool} {data payload : List UInt8} {mtu offset seq total len : Nat} {packet : SentPacket} {s : Transport}

/-- What the peer finds in a packet: `seq` is absent in `FF01`, `moduleLen` in all `FF02`
packets but the first. -/
structure Piece where
  seq : Option Nat
  moduleLen : Option Nat
  data : List UInt8
  deriving DecidableEq

def decodeModule (seq : Option Nat) : List UInt8 → Option Piece
  | [] => none
  | id :: body => if id = moduleId then (Varint.decode body).map fun (len, data) => ⟨seq, some len, data⟩ else none

def decodeContent : Proto → List UInt8 → Option Piece
  | .single, content => decodeModule none content
  | .multiple, [] => none
  | .multiple, seq :: body => if seq = 0 then decodeModule (some 0) body else some ⟨some seq.toNat, none, body⟩

def decodePayload (proto : Proto) (payload : List UInt8) : Option Piece :=
  (Varint.decode payload).bind fun (len, rest) =>
    if rest.length < len then none else decodeContent proto (rest.take len)

def decodeFrame (aes : Aes) : List UInt8 → Option Piece
  | 0x42 :: 0x54 :: 0xFF :: 0x01 :: cipher => decodePayload .single (aes.decrypt cipher)
  | 0x42 :: 0x54 :: 0xFF :: 0x02 :: cipher => decodePayload .multiple (aes.decrypt cipher)
  | _ => none

/-- The transport after the reply was handed over and its first `n` packets acknowledged. -/
def Transport.acked (aes : Aes) (mtu : Nat) (payload : List UInt8) : Nat → Transport
  | 0 => (Transport.init mtu).packetTransSend aes payload
  | n + 1 =>
    let s := Transport.acked aes mtu payload n
    match s.sent[n]? with
    | some packet => s.ackHandle aes packet.proto packet.answer
    | none => s

/-- One `FF01` packet, or `FF02` packets numbered from 0 whose last one has the end marker. -/
def Numbered (pieces : List Piece) : Prop :=
  pieces.map (·.seq) = [none] ∨ ∃ n, pieces.map (·.seq) = (List.range n).map some ++ [some seqLast]

structure RoundTrip (aes : Aes) (payload : List UInt8) (s : Transport) : Prop where
  done : s.trans.isBusy = false
  decoded : ∃ pieces, s.sent.mapM (fun packet => decodeFrame aes packet.frame) = some pieces ∧
    pieces.flatMap (·.data) = payload ∧ Numbered pieces ∧ pieces.head?.bind (·.moduleLen) = some payload.length
  fits : ∀ packet ∈ s.sent, packet.frame.length ≤ s.mtu - 3
  bounded : ∀ write ∈ s.writes, write.2 ≤ write.1.size

lemma length_le_padded (len : Nat) : len ≤ padded len := by
  unfold padded
  split <;> omega

lemma padded_le {bound : Nat} (le : len ≤ bound) (whole : bound % 16 = 0) : padded len ≤ bound := by
  unfold padded cmdDataLenUnit
  split <;> omega

lemma padded_mod (len : Nat) : padded len % 16 = 0 := by
  unfold padded cmdDataLenUnit
  split <;> omega

lemma length_zeroPadded (payload : List UInt8) : (zeroPadded payload).length = padded payload.length := by
  have := length_le_padded payload.length
  simp only [zeroPadded, length_append, length_replicate]
  omega

lemma decodePayload_zeroPadded (proto) {content : List UInt8} (short : content.length < 2 ^ 14) :
    decodePayload proto (zeroPadded (encode content.length ++ content)) = decodeContent proto content := by
  rw [zeroPadded, append_assoc, decodePayload, decode_encode short, Option.bind_some]
  simp only [length_append]
  rw [if_neg (by omega), take_left]

lemma decodeModule_encode (seq) (short : len < 2 ^ 14) :
    decodeModule seq (moduleId :: (encode len ++ data)) = some ⟨seq, some len, data⟩ := by
  simp only [decodeModule, ite_true, decode_encode short, Option.map_some]

lemma decode_single (short : data.length ≤ 1024) :
    decodePayload .single (Transport.zeroPadded (Transport.singlePayload data)) =
      some ⟨none, some data.length, data⟩ := by
  have size := Varint.size_le data.length
  have content : (moduleId :: (Varint.encode data.length ++ data)).length = 1 + Varint.size data.length + data.length := by
    simp only [length_cons, length_append, Varint.length_encode]
    omega
  rw [Transport.singlePayload, ← content, decodePayload_zeroPadded _ (by omega)]
  exact decodeModule_encode none (by omega)

lemma decode_first (shortTotal : total ≤ 1024) (short : data.length ≤ 1024) :
    decodePayload .multiple (zeroPadded (multiplePayload total 0 data true)) =
      some ⟨some 0, some total, data⟩ := by
  have size := size_le total
  have content : (UInt8.ofNat 0 :: (moduleId :: encode total ++ data)).length =
      1 + (moduleId :: encode total).length + data.length := by
    simp only [length_cons, length_append]
    omega
  have bound : (UInt8.ofNat 0 :: (moduleId :: encode total ++ data)).length < 2 ^ 14 := by
    simp only [length_cons, length_append, length_encode]
    omega
  simp only [multiplePayload, ite_true]
  rw [← content, decodePayload_zeroPadded _ bound]
  exact decodeModule_encode (some 0) (by omega)

lemma decode_later (short : data.length ≤ 1024) (number : 0 < seq) (byte : seq < 256) :
    decodePayload .multiple (zeroPadded (multiplePayload total seq data false)) =
      some ⟨some seq, none, data⟩ := by
  have content : (UInt8.ofNat seq :: ([] ++ data)).length = 1 + ([] : List UInt8).length + data.length := by
    simp only [length_cons, length_append, length_nil]
    omega
  have value : (UInt8.ofNat seq).toNat = seq := by
    rw [UInt8.toNat_ofNat']
    omega
  have nonzero : UInt8.ofNat seq ≠ 0 := by
    intro zero
    rw [zero] at value
    exact absurd value (by simpa using Nat.ne_of_lt number)
  simp only [multiplePayload, Bool.false_eq_true, ite_false]
  rw [← content, decodePayload_zeroPadded _ (by simp only [nil_append, length_cons]; omega)]
  simp only [decodeContent, nonzero, ite_false, value, nil_append]

lemma length_singlePayload (data : List UInt8) : (singlePayload data).length =
    size (1 + size data.length + data.length) + (1 + size data.length + data.length) := by
  simp only [singlePayload, length_append, length_cons, length_encode]
  omega

lemma length_firstPayload (total seq : Nat) (data : List UInt8) :
    (multiplePayload total seq data true).length =
      size (1 + (1 + size total) + data.length) + 1 + (1 + size total) + data.length := by
  simp only [multiplePayload, ite_true, length_append, length_cons, length_encode]
  rw [Nat.add_comm (size total) 1]
  omega

lemma length_laterPayload (total seq : Nat) (data : List UInt8) :
    (multiplePayload total seq data false).length = size (1 + data.length) + 1 + data.length := by
  simp only [multiplePayload, Bool.false_eq_true, ite_false, length_append, length_cons,
    length_nil, length_encode]
  rw [Nat.add_zero]
  omega

section

variable (aes : Aes)

def frameOf (proto : Proto) (payload : List UInt8) : List UInt8 :=
  dataPacketHead ++ proto.dataType ++ aes.encrypt (Transport.zeroPadded payload)

lemma length_frameOf (proto) (payload : List UInt8) :
    (frameOf aes proto payload).length = 4 + padded payload.length := by
  cases proto
  all_goals simp only [frameOf, dataPacketHead, Proto.dataType, length_append, length_cons, length_nil,
      aes.length_encrypt, length_zeroPadded]

lemma decodeFrame_frameOf (proto payload) :
    decodeFrame aes (frameOf aes proto payload) = decodePayload proto (zeroPadded payload) := by
  cases proto
  all_goals simp [frameOf, dataPacketHead, Proto.dataType, decodeFrame, aes.decrypt_encrypt]

def packetWrites (len : Nat) : List (Buffer × Nat) :=
  [(.rsp, len), (.tx, 4 + padded len), (.encrypt, padded len + cmdDataLenUnit), (.tx, 4 + padded len)]

lemma packetWrites_bounded (small : len ≤ 464) {write : Buffer × Nat} (member : write ∈ packetWrites len) :
    write.2 ≤ write.1.size := by
  have bound : padded len ≤ 464 := padded_le small (by decide)
  simp only [packetWrites, mem_cons, not_mem_nil, or_false] at member
  rcases member with rfl | rfl | rfl | rfl
  all_goals
    simp only [Buffer.size, respLengthMax, cmdDataLenUnit]
    omega

def Transport.handedOver (s : Transport) (proto : Proto) (seq offset len : Nat) (payload : List UInt8) : Transport :=
  { s.recordLastPacket proto seq offset len with
    rspTimer := true
    sent := s.sent ++ [⟨s.transfers, offset, len, proto, seq, frameOf aes proto payload⟩]
    writes := s.writes ++ packetWrites payload.length }

lemma bleComuSendPacket_eq {proto} (some : payload ≠ []) (small : payload.length ≤ 464) :
    (((s.write .rsp payload.length).recordLastPacket proto seq offset len).bleComuSendPacket aes proto seq offset len
      (zeroPadded payload)).startRspTimer = s.handedOver aes proto seq offset len payload := by
  have bound : padded payload.length ≤ 464 := padded_le small (by decide)
  have whole := padded_mod payload.length
  have least := length_le_padded payload.length
  have positive := length_pos_iff.mpr some
  rw [bleComuSendPacket, length_zeroPadded, respLengthMax, cmdDataLenUnit, if_neg (by omega)]
  dsimp only
  rw [if_neg (by omega)]
  simp [handedOver, startRspTimer, recordLastPacket, write, packetWrites, frameOf, cmdDataLenUnit]

lemma singlePacketSend_eq (nonempty : 0 < data.length)
    (small : (singlePayload data).length ≤ 464) :
    s.singlePacketSend aes data = s.handedOver aes .single 0 0 data.length (singlePayload data) := by
  rw [singlePacketSend, if_neg (by omega)]
  exact bleComuSendPacket_eq aes (append_ne_nil_of_right_ne_nil _ (cons_ne_nil _ _)) small

lemma multiplePacketSend_eq (nonempty : 0 < len)
    (same : multiplePayload s.trans.totalLen seq ((s.trans.data.drop offset).take len) isFirst = payload)
    (small : payload.length ≤ 464) :
    s.multiplePacketSend aes seq offset len isFirst = s.handedOver aes .multiple seq offset len payload := by
  have bound : padded payload.length ≤ 464 := padded_le small (by decide)
  rw [multiplePacketSend, if_neg (by omega), same]
  rw [if_neg (by simp only [Buffer.size]; omega)]
  exact bleComuSendPacket_eq aes (same ▸ append_ne_nil_of_right_ne_nil _ (cons_ne_nil _ _)) small

lemma multiplePacketSend_refused
    (same : multiplePayload s.trans.totalLen seq ((s.trans.data.drop offset).take len) isFirst = payload)
    (large : 464 < payload.length) : (s.multiplePacketSend aes seq offset len isFirst).sent = s.sent := by
  have least := length_le_padded payload.length
  have units := padded_mod payload.length
  simp only [multiplePacketSend, same]
  split
  · rfl
  · split
    · rfl
    · have refused : respLengthMax < (zeroPadded payload).length + cmdDataLenUnit := by
        rw [length_zeroPadded, respLengthMax, cmdDataLenUnit]
        omega
      rw [bleComuSendPacket]
      split
      · rfl
      · dsimp only
        rw [if_pos (.inr refused)]
        rfl

lemma completeCurrent_idle (idle : s.wait.pending = false) :
    s.completeCurrent aes = { s with trans := .zero, rspTimer := false } := by
  simp only [completeCurrent, resetState, tryStartPending, stopRspTimer,
    Bool.false_eq_true, ite_false, idle]

lemma ack_single (proto : packet.proto = .single) (busy : s.trans.isBusy = true)
    (waiting : s.trans.waitingAck = true) (last : s.trans.lastProtoType = some .single) (idle : s.wait.pending = false) :
    s.ackHandle aes packet.proto packet.answer = { s with trans := .zero, rspTimer := false } := by
  simp only [proto, SentPacket.answer, ackHandle, singlePacketRspHandle, busy, waiting, last,
    length_replicate, not_true_eq_false, ne_eq, or_self, ite_false, Nat.reduceLT]
  exact completeCurrent_idle aes idle

lemma ack_multiple (proto : packet.proto = .multiple)
    (busy : s.trans.isBusy = true) (waiting : s.trans.waitingAck = true) (last : s.trans.lastProtoType = some .multiple)
    (matched : packet.seq = s.trans.lastSeq) (byte : packet.seq < 256) :
    s.ackHandle aes packet.proto packet.answer = s.sendNext aes := by
  have answer : packet.answer = 1 :: UInt8.ofNat packet.seq :: List.replicate 14 0 := by
    rw [SentPacket.answer, proto]
  have seq : ackSeq packet.answer = some packet.seq := by
    have value : (UInt8.ofNat packet.seq).toNat = packet.seq := by
      rw [UInt8.toNat_ofNat']
      omega
    simp [answer, ackSeq, value]
  have long : ¬ packet.answer.length < 2 := by simp [answer]
  have current : ¬ (¬ s.trans.isBusy = true ∨ ¬ s.trans.waitingAck = true ∨ s.trans.lastProtoType ≠ some .multiple) := by
    simp [busy, waiting, last]
  have continues : ¬ (¬ s.trans.isBusy = true ∨ ¬ s.trans.waitingAck = true) := by simp [busy, waiting]
  rw [proto, ackHandle, multiplePacketAckHandle, if_neg long, if_neg current, seq]
  dsimp only
  rw [multiplePacketContinue, if_neg continues, if_neg (not_not_intro matched)]

lemma sendNext_done (all : s.trans.totalLen ≤ s.trans.sentOffset) (idle : s.wait.pending = false) :
    s.sendNext aes = { s with trans := .zero, rspTimer := false } := by
  rw [sendNext, if_pos (by omega)]
  exact completeCurrent_idle aes idle

lemma sendNext_more (more : s.trans.sentOffset < s.trans.totalLen) (nonempty : 0 < s.nextPktLen)
    (same : multiplePayload s.trans.totalLen s.nextNumber
      ((s.trans.data.drop s.trans.sentOffset).take s.nextPktLen) false = payload)
    (small : payload.length ≤ 464) :
    s.sendNext aes = { s with
        trans := { s.trans with
          lastProtoType := some .multiple, lastSeq := s.nextNumber, lastOffset := s.trans.sentOffset,
          lastLen := s.nextPktLen, waitingAck := true, retryCnt := 0, nextSeq := s.nextSeqAfter
          sentOffset := s.trans.sentOffset + s.nextPktLen }
        rspTimer := true
        sent := s.sent ++ [⟨s.transfers, s.trans.sentOffset, s.nextPktLen, .multiple, s.nextNumber,
          frameOf aes .multiple payload⟩]
        writes := s.writes ++ packetWrites payload.length } := by
  let sending : Transport := { s.acknowledged with trans := { s.acknowledged.trans with nextSeq := s.nextSeqAfter } }
  have sent : sending.multiplePacketSend aes s.nextNumber s.trans.sentOffset s.nextPktLen false =
      sending.handedOver aes .multiple s.nextNumber s.trans.sentOffset s.nextPktLen payload :=
    multiplePacketSend_eq aes nonempty same small
  have taken : s.sendNext aes = { sending.multiplePacketSend aes s.nextNumber s.trans.sentOffset s.nextPktLen false with
        trans := { (sending.multiplePacketSend aes s.nextNumber s.trans.sentOffset s.nextPktLen false).trans with
          sentOffset := s.trans.sentOffset + s.nextPktLen } } := by
    have len : s.acknowledged.nextPktLen = s.nextPktLen := rfl
    have number : s.acknowledged.nextNumber = s.nextNumber := rfl
    have counter : s.acknowledged.nextSeqAfter = s.nextSeqAfter := rfl
    rw [sendNext, if_neg (by omega)]
    simp only [sendFollowing, len, number, counter]
    rfl
  rw [taken, sent]
  rfl

end

lemma maxEncryptLen_bounds (low : 39 ≤ s.mtu) (high : s.mtu ≤ 498) :
    32 ≤ s.maxEncryptLen ∧ s.maxEncryptLen ≤ 480 ∧ s.maxEncryptLen + 7 ≤ s.mtu ∧ s.maxEncryptLen % 16 = 0 := by
  simp only [maxEncryptLen, cmdDataLenUnit]
  omega

lemma sub16_of_le {a b : Nat} (le : b ≤ a) (small : a < 2 ^ 16) : sub16 a b = a - b := by
  unfold sub16
  omega

lemma nextPktLen_bounds (low : 39 ≤ s.mtu) (high : s.mtu ≤ 498)
    (more : s.trans.sentOffset < s.trans.totalLen) :
    0 < s.nextPktLen ∧ s.trans.sentOffset + s.nextPktLen ≤ s.trans.totalLen ∧
      size (1 + s.nextPktLen) + 1 + s.nextPktLen + 16 ≤ s.maxEncryptLen ∧
      (s.trans.sentOffset + s.nextPktLen < s.trans.totalLen → 13 ≤ s.nextPktLen) := by
  obtain ⟨room, small, -, -⟩ := maxEncryptLen_bounds low high
  have header := size_le (1 + (s.trans.totalLen - s.trans.sentOffset))
  have short : s.nextPktLen ≤ s.trans.totalLen - s.trans.sentOffset := by
    simp only [nextPktLen]
    split <;> omega
  have field := size_mono (Nat.add_le_add_left short 1)
  simp only [nextPktLen] at field ⊢
  rw [sub16_of_le (by omega) (by omega)] at field ⊢
  split at field
  next all =>
    rw [if_pos all]
    omega
  next part =>
    rw [if_neg part]
    omega

lemma nextNumber_of_lt (before : s.trans.sentOffset + s.nextPktLen < s.trans.totalLen) :
    s.nextNumber = s.trans.nextSeq ∧ s.nextSeqAfter = (s.trans.nextSeq + 1) % 2 ^ 8 :=
  ⟨if_neg (Nat.not_le.mpr before), if_neg (Nat.not_le.mpr before)⟩

lemma nextNumber_last (all : s.trans.totalLen ≤ s.trans.sentOffset + s.nextPktLen) :
    s.nextNumber = seqLast :=
  if_pos all

lemma firstPktMax_bounds (low : 39 ≤ s.mtu) (high : s.mtu ≤ 498)
    (several : s.singlePacketCanSend len = false) :
    10 ≤ s.firstPktMax len ∧ s.firstPktMax len < len ∧
      size (1 + (1 + size len) + s.firstPktMax len) + 1 + (1 + size len) + s.firstPktMax len + 16 ≤
        s.maxEncryptLen := by
  obtain ⟨room, small, -, whole⟩ := maxEncryptLen_bounds low high
  have field := size_le (1 + 1 + size len + len)
  have module := size_le len
  have capacity : s.firstPktMax len = s.maxEncryptLen - (size (1 + 1 + size len + len) + 1 + 1 + size len + 16) :=
    sub16_of_le (by omega) (by omega)
  have long : s.firstPktMax len < len := by
    by_contra all
    simp only [singlePacketCanSend, decide_eq_false_iff_not, not_le] at several
    have inner := size_mono (show 1 + size len + len ≤ 1 + 1 + size len + len by omega)
    have fits := padded_le (show size (1 + size len + len) + (1 + size len + len) ≤ s.maxEncryptLen - 16 by omega)
      (by omega)
    omega
  have shorter := size_mono (show 1 + (1 + size len) + s.firstPktMax len ≤ 1 + 1 + size len + len by omega)
  omega

variable (aes : Aes) {n : Nat}

structure Midway (payload : List UInt8) (n : Nat) (s : Transport) : Prop where
  data : s.trans.data = payload
  total : s.trans.totalLen = payload.length
  busy : s.trans.isBusy = true
  waiting : s.trans.waitingAck = true
  proto : s.trans.lastProtoType = some .multiple
  idle : s.wait.pending = false
  within : s.trans.sentOffset ≤ payload.length
  count : s.sent.length = n + 1
  last : ∃ packet, s.sent[n]? = some packet ∧ packet.proto = .multiple ∧ packet.seq = s.trans.lastSeq ∧ packet.seq < 256
  decoded : ∃ pieces, s.sent.mapM (fun packet => decodeFrame aes packet.frame) = some pieces ∧
    pieces.flatMap (·.data) = payload.take s.trans.sentOffset ∧
    pieces.head?.bind (·.moduleLen) = some payload.length ∧
    (s.trans.sentOffset < payload.length →
      pieces.map (·.seq) = (List.range (n + 1)).map some ∧ s.trans.nextSeq = n + 1 ∧ 13 * n + 10 ≤ s.trans.sentOffset) ∧
    (s.trans.sentOffset = payload.length → pieces.map (·.seq) = (List.range n).map some ++ [some seqLast])
  fits : ∀ packet ∈ s.sent, packet.frame.length ≤ s.mtu - 3
  bounded : ∀ write ∈ s.writes, write.2 ≤ write.1.size

lemma mapM_concat {α β : Type} {f : α → Option β} {l : List α} {decoded} {x} {y}
    (all : l.mapM f = some decoded) (last : f x = some y) : (l ++ [x]).mapM f = some (decoded ++ [y]) := by
  simp [mapM_append, all, last]

/-- The packet after the acknowledged one. Its length, its number and the counter behind it are plain numbers here:
unfolding them would count down from `2 ^ 16`. -/
structure NextPacket (payload : List UInt8) (n : Nat) (s : Transport) (len number counter : Nat) (piece : List UInt8) :
    Prop where
  cut : (payload.drop s.trans.sentOffset).take len = piece
  nonempty : 0 < len
  inside : s.trans.sentOffset + len ≤ payload.length
  follows : s.trans.sentOffset + len < payload.length →
    number = n + 1 ∧ counter = n + 1 + 1 ∧ 13 * (n + 1) + 10 ≤ s.trans.sentOffset + len
  final : s.trans.sentOffset + len = payload.length → number = seqLast
  positive : 0 < number
  byte : number < 256
  room : (Transport.multiplePayload payload.length number piece false).length ≤ s.maxEncryptLen - 16
  taken : s.sendNext aes =
    { s with
      trans := { s.trans with
        lastProtoType := some .multiple, lastSeq := number, lastOffset := s.trans.sentOffset, lastLen := len,
        waitingAck := true, retryCnt := 0, nextSeq := counter, sentOffset := s.trans.sentOffset + len }
      rspTimer := true
      sent := s.sent ++ [⟨s.transfers, s.trans.sentOffset, len, .multiple, number,
        frameOf aes .multiple (Transport.multiplePayload payload.length number piece false)⟩]
      writes := s.writes ++ packetWrites (Transport.multiplePayload payload.length number piece false).length }

section

variable {aes} {n : Nat}

lemma Midway.nextPacket (midway : Midway aes payload n s) (short : payload.length ≤ 1024) (low : 39 ≤ s.mtu)
    (high : s.mtu ≤ 498) (more : s.trans.sentOffset < payload.length) :
    ∃ len number counter piece, NextPacket aes payload n s len number counter piece := by
  obtain ⟨room, small, -, -⟩ := maxEncryptLen_bounds low high
  have left : s.trans.sentOffset < s.trans.totalLen := by rw [midway.total]; exact more
  obtain ⟨nonempty, inside, header, full⟩ := nextPktLen_bounds low high left
  obtain ⟨pieces, -, -, -, numbers, -⟩ := midway.decoded
  obtain ⟨-, next, least⟩ := numbers more
  have following := nextNumber_of_lt (s := s)
  have final := nextNumber_last (s := s)
  have sends (content) := @sendNext_more content s aes left nonempty
  obtain ⟨len, isLen⟩ : ∃ len, s.nextPktLen = len := ⟨_, rfl⟩
  obtain ⟨number, isNumber⟩ : ∃ number, s.nextNumber = number := ⟨_, rfl⟩
  obtain ⟨counter, isCounter⟩ : ∃ counter, s.nextSeqAfter = counter := ⟨_, rfl⟩
  rw [isLen] at nonempty inside header full following final sends
  rw [isNumber] at following final sends
  rw [isCounter] at following sends
  rw [midway.total] at inside full following final sends
  rw [next] at following
  obtain ⟨piece, cut⟩ : ∃ piece, (payload.drop s.trans.sentOffset).take len = piece := ⟨_, rfl⟩
  have pieceLen : piece.length = len := by
    rw [← cut, length_take, length_drop]
    omega
  have follows : s.trans.sentOffset + len < payload.length →
      number = n + 1 ∧ counter = n + 1 + 1 ∧ 13 * (n + 1) + 10 ≤ s.trans.sentOffset + len := by
    intro before
    obtain ⟨numbered, wrapped⟩ := following before
    have enough := full before
    exact ⟨numbered, by omega, by omega⟩
  have byte : 0 < number ∧ number < 256 := by
    rcases Nat.lt_or_eq_of_le inside with before | all
    · rw [(follows before).1]
      omega
    · rw [final (Nat.le_of_eq all.symm), seqLast]
      omega
  have contentLen := length_laterPayload payload.length number piece
  rw [pieceLen] at contentLen
  have fits : (multiplePayload payload.length number piece false).length ≤ s.maxEncryptLen - 16 := by omega
  exact ⟨len, number, counter, piece, cut, nonempty, inside, follows, fun all => final (Nat.le_of_eq all.symm), byte.1,
    byte.2, fits, sends _ (by rw [midway.data, cut]) (by omega)⟩

variable {len number counter : Nat} {piece : List UInt8}

lemma NextPacket.arrived (packet : NextPacket aes payload n s len number counter piece)
    (short : payload.length ≤ 1024) :
    decodeFrame aes (frameOf aes .multiple (multiplePayload payload.length number piece false)) =
      some ⟨some number, none, piece⟩ := by
  have small : piece.length ≤ 1024 := by
    rw [← packet.cut, length_take, length_drop]
    omega
  rw [decodeFrame_frameOf, decode_later small packet.positive packet.byte]

lemma NextPacket.decoded (packet : NextPacket aes payload n s len number counter piece)
    (short : payload.length ≤ 1024) (midway : Midway aes payload n s) (more : s.trans.sentOffset < payload.length) :
    ∃ pieces, (s.sendNext aes).sent.mapM (fun packet => decodeFrame aes packet.frame) = some pieces ∧
      pieces.flatMap (·.data) = payload.take (s.trans.sentOffset + len) ∧
      pieces.head?.bind (·.moduleLen) = some payload.length ∧
      (s.trans.sentOffset + len < payload.length → pieces.map (·.seq) = (List.range (n + 1 + 1)).map some) ∧
      (s.trans.sentOffset + len = payload.length →
        pieces.map (·.seq) = (List.range (n + 1)).map some ++ [some seqLast]) := by
  obtain ⟨pieces, decoded, data, module, numbers, -⟩ := midway.decoded
  obtain ⟨seqs, -, -⟩ := numbers more
  rw [packet.taken]
  refine ⟨_, mapM_concat decoded (packet.arrived short), ?_, ?_, ?_, ?_⟩
  · rw [flatMap_append, data, flatMap_singleton, ← packet.cut, ← take_add]
  · rw [List.head?_append]
    cases first : pieces.head? with
    | none =>
      rw [first] at module
      cases module
    | some piece =>
      rw [first] at module
      exact module
  · intro before
    rw [map_append, seqs, range_succ (n := n + 1), map_append, (packet.follows before).1]
    rfl
  · intro all
    rw [map_append, seqs, packet.final all]
    rfl

end

lemma Midway.next (short : payload.length ≤ 1024) (low : 39 ≤ s.mtu)
    (high : s.mtu ≤ 498) (midway : Midway aes payload n s) (more : s.trans.sentOffset < payload.length) :
    Midway aes payload (n + 1) (s.sendNext aes) ∧ (s.sendNext aes).mtu = s.mtu ∧
      s.trans.sentOffset < (s.sendNext aes).trans.sentOffset := by
  obtain ⟨room, small, within, whole⟩ := maxEncryptLen_bounds low high
  obtain ⟨len, number, counter, piece, packet⟩ := midway.nextPacket short low high more
  obtain ⟨pieces, decoded, data, module, seqs, all⟩ := packet.decoded short midway more
  have bound := padded_le packet.room (by omega)
  have content := packet.room
  rw [packet.taken] at decoded ⊢
  refine ⟨?_, rfl, Nat.lt_add_of_pos_right packet.nonempty⟩
  exact {
    data := midway.data
    total := midway.total
    busy := midway.busy
    waiting := rfl
    proto := rfl
    idle := midway.idle
    within := packet.inside
    count := by simp only [length_append, midway.count, length_singleton]
    last := ⟨_, by rw [← midway.count, List.getElem?_concat_length], rfl, rfl, packet.byte⟩
    decoded := ⟨pieces, decoded, data, module, fun before => ⟨seqs before, (packet.follows before).2⟩, all⟩
    fits := by
      intro sent member
      rcases mem_append.mp member with member | member
      · exact midway.fits sent member
      · rw [mem_singleton.mp member]
        refine Nat.le_trans (Nat.le_of_eq (length_frameOf aes _ _)) ?_
        show _ ≤ s.mtu - 3
        omega
    bounded := by
      intro write member
      rcases mem_append.mp member with member | member
      · exact midway.bounded write member
      · exact packetWrites_bounded (by omega) member }

lemma acked_zero (nonempty : 0 < payload.length) (short : payload.length ≤ 1024) :
    acked aes mtu payload 0 = ((init mtu).takeOver payload).startTransfer aes payload := by
  have whole : payload.take respStringLengthMax = payload := take_of_length_le short
  have free : ¬ (init mtu).trans.isBusy = true := Bool.false_ne_true
  rw [acked, packetTransSend, if_neg (Nat.ne_of_gt nonempty), whole]
  exact if_neg free

lemma acked_several (nonempty : 0 < payload.length) (short : payload.length ≤ 1024)
    (several : ((init mtu).takeOver payload).singlePacketCanSend payload.length = false) :
    acked aes mtu payload 0 = ((init mtu).takeOver payload).sendFirst aes
      (((init mtu).takeOver payload).firstPktLen payload.length) := by
  rw [acked_zero aes nonempty short, startTransfer, several]
  rfl

lemma sendFirst_eq (nonempty : 0 < len)
    (same : multiplePayload s.trans.totalLen 0 (s.trans.data.take len) true = payload)
    (small : payload.length ≤ 464) :
    s.sendFirst aes len = { s with
        trans := { s.trans with
          lastProtoType := some .multiple, lastSeq := 0, lastOffset := 0, lastLen := len, waitingAck := true,
          nextSeq := 1, sentOffset := len }
        rspTimer := true
        sent := s.sent ++ [⟨s.transfers, 0, len, .multiple, 0, frameOf aes .multiple payload⟩]
        writes := s.writes ++ packetWrites payload.length } := by
  have sent : ({ s with trans := { s.trans with nextSeq := 1 } } : Transport).multiplePacketSend aes 0 0 len true =
      ({ s with trans := { s.trans with nextSeq := 1 } } : Transport).handedOver aes .multiple 0 0 len payload :=
    multiplePacketSend_eq aes nonempty same small
  rw [sendFirst, sent]
  rfl

lemma first_midway (low : 39 ≤ s.mtu) (high : s.mtu ≤ 498)
    (short : payload.length ≤ 1024) (data : s.trans.data = payload) (total : s.trans.totalLen = payload.length)
    (busy : s.trans.isBusy = true) (idle : s.wait.pending = false) (unsent : s.sent = []) (unwritten : s.writes = [])
    (several : s.singlePacketCanSend payload.length = false) :
    Midway aes payload 0 (s.sendFirst aes (s.firstPktMax payload.length)) ∧
      (s.sendFirst aes (s.firstPktMax payload.length)).mtu = s.mtu := by
  obtain ⟨room, small, within, whole⟩ := maxEncryptLen_bounds low high
  obtain ⟨least, long, header⟩ := firstPktMax_bounds low high several
  obtain ⟨len, isLen⟩ : ∃ len, s.firstPktMax payload.length = len := ⟨_, rfl⟩
  rw [isLen] at least long header ⊢
  have pieceLen : (payload.take len).length = len := by
    rw [length_take]
    omega
  obtain ⟨content, made⟩ : ∃ content, multiplePayload payload.length 0 (payload.take len) true = content :=
    ⟨_, rfl⟩
  have contentLen := length_firstPayload payload.length 0 (payload.take len)
  rw [pieceLen, made] at contentLen
  have bound := padded_le (show content.length ≤ s.maxEncryptLen - 16 by omega) (by omega)
  have arrived : decodeFrame aes (frameOf aes .multiple content) =
      some ⟨some 0, some payload.length, payload.take len⟩ := by
    rw [decodeFrame_frameOf, ← made, decode_first short (by omega)]
  rw [sendFirst_eq aes (by omega) (by rw [data, total, made]) (by omega), unsent, unwritten]
  refine ⟨?_, rfl⟩
  exact {
    data := data
    total := total
    busy := busy
    waiting := rfl
    proto := rfl
    idle := idle
    within := Nat.le_of_lt long
    count := rfl
    last := ⟨_, rfl, rfl, rfl, show 0 < 256 by decide⟩
    decoded := ⟨_, mapM_concat (l := []) rfl arrived, append_nil _, rfl,
      fun _ => ⟨rfl, rfl, by simpa using least⟩, fun all => absurd all (Nat.ne_of_lt long)⟩
    fits := by
      intro packet member
      rw [mem_singleton.mp member]
      refine Nat.le_trans (Nat.le_of_eq (length_frameOf aes _ _)) ?_
      show _ ≤ s.mtu - 3
      omega
    bounded := fun write member => packetWrites_bounded (by omega) member }

lemma single_completes (low : 39 ≤ mtu) (high : mtu ≤ 498)
    (nonempty : 0 < payload.length) (short : payload.length ≤ 1024)
    (single : ((init mtu).takeOver payload).singlePacketCanSend payload.length = true) :
    (acked aes mtu payload 1).sent.length = 1 ∧ RoundTrip aes payload (acked aes mtu payload 1) := by
  let s := (init mtu).takeOver payload
  obtain ⟨room, small, within, whole⟩ := maxEncryptLen_bounds (s := s) low high
  change s.maxEncryptLen + 7 ≤ mtu at within
  have bound : padded (singlePayload payload).length ≤ s.maxEncryptLen - 16 := by
    rw [length_singlePayload]
    exact of_decide_eq_true single
  have least := length_le_padded (singlePayload payload).length
  have sent : s.singlePacketSend aes payload = s.handedOver aes .single 0 0 payload.length (singlePayload payload) :=
    singlePacketSend_eq aes nonempty (by omega)
  have taken : acked aes mtu payload 0 =
      s.handedOver aes .single 0 0 payload.length (singlePayload payload) := by
    rw [acked_zero aes nonempty short, startTransfer, if_pos single]
    exact sent
  have answered : acked aes mtu payload 1 =
      { s.handedOver aes .single 0 0 payload.length (singlePayload payload) with
        trans := .zero, rspTimer := false } := by
    rw [acked, taken]
    exact ack_single aes rfl rfl rfl rfl rfl
  rw [answered]
  refine ⟨rfl, rfl, ⟨[⟨none, some payload.length, payload⟩], ?_, append_nil _, Or.inl rfl, rfl⟩, ?_, ?_⟩
  · apply mapM_concat (l := []) rfl
    rw [decodeFrame_frameOf, decode_single short]
  · intro packet member
    rw [mem_singleton.mp member]
    refine Nat.le_trans (Nat.le_of_eq (length_frameOf aes _ _)) ?_
    show _ ≤ mtu - 3
    omega
  · exact fun write member => packetWrites_bounded (by omega) member

lemma Midway.completes (short : payload.length ≤ 1024) (low : 39 ≤ mtu)
    (high : mtu ≤ 498) (midway : Midway aes payload n (acked aes mtu payload n))
    (same : (acked aes mtu payload n).mtu = mtu) :
    ∃ m, (acked aes mtu payload m).sent.length = m ∧ RoundTrip aes payload (acked aes mtu payload m) := by
  -- every acknowledgement shortens what is left of the reply
  induction left : payload.length - (acked aes mtu payload n).trans.sentOffset using Nat.strongRecOn
    generalizing n with
  | ind left ih =>
    obtain ⟨packet, found, proto, matched, byte⟩ := midway.last
    have answered : acked aes mtu payload (n + 1) = (acked aes mtu payload n).sendNext aes := by
      rw [acked, found]
      exact ack_multiple aes proto midway.busy midway.waiting midway.proto matched byte
    by_cases more : (acked aes mtu payload n).trans.sentOffset < payload.length
    · have step := midway.next aes short (Nat.le_trans low (Nat.le_of_eq same.symm)) (Nat.le_trans (Nat.le_of_eq same) high) more
      rw [← answered] at step
      obtain ⟨next, kept, further⟩ := step
      exact ih _ (by omega) next (kept.trans same) rfl
    · have all := Nat.le_antisymm midway.within (Nat.not_lt.mp more)
      rw [sendNext_done aes (by rw [midway.total, all]) midway.idle] at answered
      obtain ⟨pieces, decoded, data, module, -, numbers⟩ := midway.decoded
      refine ⟨n + 1, by rw [answered]; exact midway.count, ?_⟩
      rw [answered]
      refine ⟨rfl, ⟨pieces, decoded, ?_, Or.inr ⟨n, numbers all⟩, module⟩, midway.fits, midway.bounded⟩
      rw [data, all, take_length]

def unmarked (packet : SentPacket) (payload : List UInt8) : Prop := packet.proto = .multiple ∧ packet.seq = 0 ∧
    packet.frame = frameOf aes .multiple (Transport.multiplePayload payload.length 0 payload true)

lemma small_mtu_first (low : 23 ≤ mtu) (high : mtu < 39) (nonempty : 0 < payload.length)
    (short : payload.length ≤ 1024) :
    (acked aes mtu payload 0).sent = [] ∨
      ∃ packet, (acked aes mtu payload 0).sent = [packet] ∧ unmarked aes packet payload ∧
        acked aes mtu payload 1 =
          { acked aes mtu payload 0 with trans := .zero, rspTimer := false } := by
  let s := (init mtu).takeOver payload
  have unit : s.maxEncryptLen = 16 := by
    show (mtu - 3 - 4) / 16 * 16 = 16
    omega
  have several : s.singlePacketCanSend payload.length = false := by
    have least := length_le_padded (size (1 + size payload.length + payload.length) +
      (1 + size payload.length + payload.length))
    simp only [singlePacketCanSend, unit, decide_eq_false_iff_not]
    omega
  have wraps : ¬ s.firstPktMax payload.length < payload.length := by
    have field := size_le (1 + 1 + size payload.length + payload.length)
    have module := size_le payload.length
    simp only [firstPktMax, unit, sub16]
    omega
  have taken : acked aes mtu payload 0 = s.sendFirst aes payload.length :=
    (acked_several aes nonempty short several).trans (by rw [firstPktLen, if_neg wraps])
  have whole : s.trans.data.take payload.length = payload := take_length
  by_cases large : 464 < (multiplePayload payload.length 0 payload true).length
  · refine Or.inl ?_
    rw [taken]
    exact multiplePacketSend_refused aes (by rw [drop_zero]; exact congrArg (multiplePayload _ 0 · true) whole) large
  · have sent : s.sendFirst aes payload.length = _ := sendFirst_eq aes nonempty (by rw [whole]; rfl) (Nat.not_lt.mp large)
    rw [taken, sent]
    refine Or.inr ⟨_, rfl, ⟨rfl, rfl, rfl⟩, ?_⟩
    rw [acked, taken, sent]
    refine (ack_multiple aes rfl rfl rfl rfl rfl (show 0 < 256 by decide)).trans ?_
    exact sendNext_done aes (Nat.le_refl payload.length) rfl

lemma acked_stuck {payload} (answered : (acked aes mtu payload n).sent[n]? = none) :
    acked aes mtu payload (n + 1) = acked aes mtu payload n := by
  rw [acked, answered]

lemma small_mtu_sent (low : 23 ≤ mtu) (high : mtu < 39) (nonempty : 0 < payload.length)
    (short : payload.length ≤ 1024) (n : Nat) :
    (acked aes mtu payload n).sent = [] ∨
      ∃ packet, (acked aes mtu payload n).sent = [packet] ∧ unmarked aes packet payload := by
  have first := small_mtu_first aes low high nonempty short
  have same : (acked aes mtu payload n).sent = (acked aes mtu payload 0).sent := by
    induction n with
    | zero => rfl
    | succ n ih =>
      rcases first with none | ⟨packet, one, -, answered⟩
      · rw [acked_stuck aes (by rw [ih, none, List.getElem?_nil]), ih]
      · cases n with
        | zero => rw [answered]
        | succ n => rw [acked_stuck aes (by rw [ih, one]; rfl), ih]
  rw [same]
  rcases first with none | ⟨packet, one, plain, -⟩
  · exact Or.inl none
  · exact Or.inr ⟨packet, one, plain⟩

/-- A reply arrives whole and within its bounds exactly if the MTU leaves room for data. -/
theorem reply_arrives_iff (mtu : Nat) (low : 23 ≤ mtu) (high : mtu ≤ 498) (payload : List UInt8)
    (nonempty : 1 ≤ payload.length) (short : payload.length ≤ 1024) :
    (∃ n, (Transport.acked aes mtu payload n).sent.length = n ∧
      RoundTrip aes payload (Transport.acked aes mtu payload n)) ↔ 39 ≤ mtu := by
  constructor
  · rintro ⟨n, -, arrived⟩
    by_contra small
    obtain ⟨pieces, decoded, -, numbered, module⟩ := arrived.decoded
    rcases small_mtu_sent aes low (Nat.lt_of_not_le small) nonempty short n with none | ⟨packet, one, -, -, frame⟩
    · rw [none] at decoded
      cases decoded
      cases module
    · have first : decodeFrame aes packet.frame = some ⟨some 0, some payload.length, payload⟩ := by
        rw [frame, decodeFrame_frameOf, decode_first short short]
      rw [one, mapM_cons, first] at decoded
      cases decoded
      rcases numbered with single | ⟨count, marked⟩
      · cases single
      · have last := congrArg List.getLast? marked
        rw [List.getLast?_concat] at last
        cases last
  · intro room
    cases single : ((Transport.init mtu).takeOver payload).singlePacketCanSend payload.length with
    | true => exact ⟨1, single_completes aes room high nonempty short single⟩
    | false =>
      have first := acked_several aes nonempty short single
      obtain ⟨midway, same⟩ := first_midway aes room high short rfl rfl rfl rfl rfl rfl single
      rw [Transport.firstPktLen, if_pos (firstPktMax_bounds room high single).2.1] at first
      rw [← first] at midway same
      exact midway.completes aes short room high same

theorem short_reply_arrives : ∃ n, (Transport.acked .plain 39 [1, 2, 3] n).sent.length = n ∧
    RoundTrip .plain [1, 2, 3] (Transport.acked .plain 39 [1, 2, 3] n) :=
  (reply_arrives_iff .plain 39 (by decide) (by decide) [1, 2, 3] (by decide) (by decide)).mpr (by decide)

/-- With the smallest MTU a reply of one byte goes out without an end marker. The room for data has wrapped around, so
100 bytes go out in a frame the link cannot carry, and 600 are written past the end of a buffer. -/
theorem short_reply_unmarked : (Transport.acked .plain 23 [1] 1).trans.isBusy = false ∧
    (Transport.acked .plain 23 [1] 1).sent.map (fun packet => decodeFrame .plain packet.frame) =
      [some ⟨some 0, some 1, [1]⟩] ∧
    (∃ packet ∈ (Transport.acked .plain 23 (List.replicate 100 65) 0).sent, 23 - 3 < packet.frame.length) ∧
    ∃ write ∈ (Transport.acked .plain 23 (List.replicate 600 65) 0).writes, write.1.size < write.2 := by
  decide +kernel

end LL320D.BlePacket
