import LL320D.PacketTrans

/-! The transport over a link that delays, loses and repeats packets and acknowledgements. -/

namespace LL320D.BlePacket
open Library List Transport

variable {data : List UInt8} {i len next offset seq : Nat} {proto : Proto} {packet : SentPacket} {after s : Transport}

structure Link where
  device : Transport
  received : List Nat

variable {l : Link}

inductive LinkEvent where
  | send (data : List UInt8)
  /-- The packet `i` reaches the peer, now or once more. -/
  | deliver (i : Nat)
  /-- The peer's acknowledgement of packet `i` reaches the device, now or once more. -/
  | ack (i : Nat)
  | timeout (ready : Bool)
  | disconnect
  /-- `att_mtu_updated`. -/
  | mtu (tx : Nat)
  deriving DecidableEq

namespace Link

def start (mtu : Nat) : Link := { device := Transport.init mtu, received := [] }

/-- The packet whose acknowledgement arrives with `ack i`: the peer must have got it. -/
def acknowledges (l : Link) (i : Nat) : Option SentPacket := if i ∈ l.received then l.device.sent[i]? else none

def step (aes : Aes) (l : Link) : LinkEvent → Link
  | .send data => { l with device := l.device.packetTransSend aes data }
  | .deliver i => if i < l.device.sent.length then { l with received := l.received ++ [i] } else l
  | .ack i =>
    match l.acknowledges i with
    | some packet => { l with device := l.device.ackHandle aes packet.proto packet.answer }
    | none => l
  | .timeout ready => { l with device := l.device.timeoutHandler aes ready }
  | .disconnect => { l with device := l.device.disconnectCleanup }
  | .mtu tx => { l with device := { l.device with mtu := if 498 ≤ tx then 498 else tx } }

def Got (l : Link) (transfer offset len : Nat) : Prop :=
  ∃ i ∈ l.received, ∃ packet, l.device.sent[i]? = some packet ∧ packet.transfer = transfer ∧ packet.offset = offset ∧
    packet.len = len

def GotAll (l : Link) (transfer total : Nat) : Prop :=
  (∀ packet ∈ l.device.sent, packet.transfer = transfer → l.Got transfer packet.offset packet.len) ∧
    ∀ position < total, ∃ offset len, l.Got transfer offset len ∧ offset ≤ position ∧ position < offset + len

/-- The acknowledgement ends the transfer under way: the device is no longer busy, or busy
with the reply that was waiting. -/
def Finishes (aes : Aes) (l : Link) (event : LinkEvent) : Prop := l.device.trans.isBusy = true ∧
    ((l.step aes event).device.trans.isBusy = false ∨ (l.step aes event).device.transfers ≠ l.device.transfers)

def EndsSoundly (aes : Aes) (l : Link) (event : LinkEvent) : Prop :=
  ∀ i, event = .ack i → l.Finishes aes event → l.GotAll l.device.transfers l.device.trans.totalLen

def Accepts (l : Link) (packet : SentPacket) : Prop :=
  l.device.trans.waitingAck = true ∧ l.device.trans.lastProtoType = some packet.proto ∧
    (packet.proto = .multiple → packet.seq % 256 = l.device.trans.lastSeq)

def AcceptsOwn (l : Link) (event : LinkEvent) : Prop :=
  ∀ i, event = .ack i → ∀ packet ∈ l.acknowledges i, l.Accepts packet → packet.transfer = l.device.transfers

end Link

structure Tries (proto : Proto) (seq offset len : Nat) (s after : Transport) : Prop where
  mtu : after.mtu = s.mtu
  wait : after.wait = s.wait
  transfers : after.transfers = s.transfers
  outcome : after.trans = s.trans ∧ after.sent = s.sent ∨
    after.trans = (s.recordLastPacket proto seq offset len).trans ∧
      (after.sent = s.sent ∨ ∃ frame, after.sent = s.sent ++ [⟨s.transfers, offset, len, proto, seq, frame⟩])

section

variable (aes : Aes)

lemma comuSend_tries (s : Transport) (proto seq offset len reached data) :
    Tries proto seq offset len s ((((s.write .rsp reached).recordLastPacket proto seq offset len).bleComuSendPacket aes proto
      seq offset len data).startRspTimer) := by
  unfold bleComuSendPacket
  split
  · exact ⟨rfl, rfl, rfl, Or.inr ⟨rfl, Or.inl rfl⟩⟩
  · dsimp only
    split
    · exact ⟨rfl, rfl, rfl, Or.inr ⟨rfl, Or.inl rfl⟩⟩
    · exact ⟨rfl, rfl, rfl, Or.inr ⟨rfl, Or.inr ⟨_, rfl⟩⟩⟩

lemma singlePacketSend_tries (s : Transport) (data : List UInt8) :
    Tries .single 0 0 data.length s (s.singlePacketSend aes data) := by
  unfold singlePacketSend
  split
  · exact ⟨rfl, rfl, rfl, Or.inl ⟨rfl, rfl⟩⟩
  · exact comuSend_tries aes s ..

lemma multiplePacketSend_tries (s : Transport) (seq offset len isFirst) :
    Tries .multiple seq offset len s (s.multiplePacketSend aes seq offset len isFirst) := by
  unfold multiplePacketSend
  split
  · exact ⟨rfl, rfl, rfl, Or.inl ⟨rfl, rfl⟩⟩
  · dsimp only
    split
    · exact ⟨rfl, rfl, rfl, Or.inl ⟨rfl, rfl⟩⟩
    · exact comuSend_tries aes s ..

end

def Repeats (trans : PacketTrans) (packet : SentPacket) : Prop :=
  packet.offset = trans.lastOffset ∧ packet.len = trans.lastLen ∧ packet.seq = trans.lastSeq

/-- What is known of the transfer under way while its last packet is not acknowledged: all
other packets have arrived, and none of them has the number of the last. -/
structure Current (l : Link) : Prop where
  len : l.device.trans.data.length = l.device.trans.totalLen
  short : l.device.trans.totalLen ≤ 1024
  kind : l.device.trans.lastProtoType = some .single ∧ l.device.trans.lastOffset = 0 ∧ l.device.trans.lastSeq = 0 ∧
      l.device.trans.lastLen = l.device.trans.totalLen ∨
    l.device.trans.lastProtoType = some .multiple ∧ l.device.trans.lastSeq < 256 ∧
      l.device.trans.sentOffset = l.device.trans.lastOffset + l.device.trans.lastLen ∧
      l.device.trans.sentOffset ≤ l.device.trans.totalLen ∧
      (l.device.trans.sentOffset < l.device.trans.totalLen →
        l.device.trans.nextSeq = l.device.trans.lastSeq + 1 ∧ 13 * l.device.trans.lastSeq + 10 ≤ l.device.trans.sentOffset)
  packets : ∀ packet ∈ l.device.sent, packet.transfer = l.device.transfers →
    l.device.trans.lastProtoType = some packet.proto ∧
      (Repeats l.device.trans packet ∨
        packet.proto = .multiple ∧ l.Got l.device.transfers packet.offset packet.len ∧ packet.seq < 256 ∧
          packet.seq ≠ l.device.trans.lastSeq ∧
          (l.device.trans.sentOffset < l.device.trans.totalLen → packet.seq < l.device.trans.lastSeq))
  covered : ∀ position < l.device.trans.lastOffset,
    ∃ offset len, l.Got l.device.transfers offset len ∧ offset ≤ position ∧ position < offset + len

structure Tracked (l : Link) : Prop where
  mtu : l.device.mtu ≤ 498
  past : ∀ packet ∈ l.device.sent, packet.transfer ≤ l.device.transfers
  current : l.device.trans.waitingAck = true → Current l

lemma Link.Got.mono {next : Link} {transfer : Nat} (got : l.Got transfer offset len)
    (received : l.received ⊆ next.received) (sent : l.device.sent <+: next.device.sent) : next.Got transfer offset len := by
  obtain ⟨i, member, packet, found, facts⟩ := got
  obtain ⟨more, same⟩ := sent
  refine ⟨i, received member, packet, ?_, facts⟩
  rw [← same, List.getElem?_append_left (List.getElem?_eq_some_iff.mp found).1]
  exact found

lemma Current.gotLast (current : Current l)
    (acknowledged : packet ∈ l.acknowledges i) (accepted : l.Accepts packet)
    (own : packet.transfer = l.device.transfers) :
    l.Got l.device.transfers l.device.trans.lastOffset l.device.trans.lastLen := by
  simp only [Link.acknowledges, Option.mem_def] at acknowledged
  split at acknowledged
  next received =>
    obtain ⟨-, repeats | ⟨several, -, byte, other, -⟩⟩ := current.packets packet (mem_of_getElem? acknowledged) own
    · exact ⟨i, received, packet, acknowledged, own, repeats.1, repeats.2.1⟩
    · have same := accepted.2.2 several
      rw [Nat.mod_eq_of_lt byte] at same
      exact absurd same other
  next => cases acknowledged

lemma Current.gotAll (current : Current l)
    (last : l.Got l.device.transfers l.device.trans.lastOffset l.device.trans.lastLen) {total : Nat}
    (ends : total ≤ l.device.trans.lastOffset + l.device.trans.lastLen) : l.GotAll l.device.transfers total := by
  refine ⟨?_, ?_⟩
  · intro packet member own
    obtain ⟨-, ⟨offset, len, -⟩ | ⟨-, got, -⟩⟩ := current.packets packet member own
    · rw [offset, len]
      exact last
    · exact got
  · intro position inside
    by_cases earlier : position < l.device.trans.lastOffset
    · exact current.covered position earlier
    · exact ⟨_, _, last, Nat.not_lt.mp earlier, by omega⟩

lemma whole_units (small : s.mtu ≤ 498) : s.maxEncryptLen % 16 = 0 ∧ s.maxEncryptLen ≤ 480 := by
  simp only [maxEncryptLen, cmdDataLenUnit]
  omega

lemma firstPktMax_least (small : s.mtu ≤ 498) (len) : 10 ≤ s.firstPktMax len := by
  obtain ⟨units, bound⟩ := whole_units small
  have field := Varint.size_le (1 + 1 + Varint.size len + len)
  have module := Varint.size_le len
  simp only [firstPktMax, sub16]
  omega

lemma firstPktLen_bounds (small : s.mtu ≤ 498) (len) :
    s.firstPktLen len ≤ len ∧ (s.firstPktLen len < len → 10 ≤ s.firstPktLen len) := by
  have least := firstPktMax_least small len
  unfold firstPktLen
  by_cases part : s.firstPktMax len < len
  · rw [if_pos part]
    omega
  · rw [if_neg part]
    omega

lemma nextPktLen_least (small : s.mtu ≤ 498) : s.nextPktLen ≤ s.trans.totalLen - s.trans.sentOffset ∧
      (s.nextPktLen < s.trans.totalLen - s.trans.sentOffset → 13 ≤ s.nextPktLen) := by
  obtain ⟨units, bound⟩ := whole_units small
  have field := Varint.size_le (1 + (s.trans.totalLen - s.trans.sentOffset))
  have least : 13 ≤ sub16 s.maxEncryptLen (Varint.size (1 + (s.trans.totalLen - s.trans.sentOffset)) + 1 + 16) := by
    unfold sub16
    omega
  simp only [nextPktLen]
  generalize sub16 s.maxEncryptLen _ = room at least ⊢
  by_cases all : s.trans.totalLen - s.trans.sentOffset < room
  · rw [if_pos all]
    omega
  · rw [if_neg all]
    omega

section

variable {aes : Aes}

lemma Tries.only
    (tries : Tries proto seq offset len s after) (fresh : ∀ packet ∈ s.sent, packet.transfer < s.transfers)
    (recorded : after.trans.waitingAck ≠ s.trans.waitingAck) :
    after.trans = (s.recordLastPacket proto seq offset len).trans ∧
      (∀ packet ∈ after.sent, packet.transfer = s.transfers →
        packet.proto = proto ∧ packet.offset = offset ∧ packet.len = len ∧ packet.seq = seq) := by
  rcases tries.outcome with ⟨same, -⟩ | ⟨trans, sent⟩
  · exact absurd (congrArg PacketTrans.waitingAck same) recorded
  · refine ⟨trans, ?_⟩
    intro packet member own
    rcases sent with same | ⟨frame, grown⟩
    · rw [same] at member
      exact absurd own (Nat.ne_of_lt (fresh packet member))
    · rw [grown] at member
      rcases mem_append.mp member with member | member
      · exact absurd own (Nat.ne_of_lt (fresh packet member))
      · cases mem_singleton.mp member
        exact ⟨rfl, rfl, rfl, rfl⟩

lemma Tries.past
    (tries : Tries proto seq offset len s after) (past : ∀ packet ∈ s.sent, packet.transfer ≤ s.transfers) :
    ∀ packet ∈ after.sent, packet.transfer ≤ after.transfers := by
  intro packet member
  rw [tries.transfers]
  rcases tries.outcome with ⟨-, same⟩ | ⟨-, same | ⟨frame, grown⟩⟩
  · exact past packet (same ▸ member)
  · exact past packet (same ▸ member)
  · rw [grown] at member
    rcases mem_append.mp member with member | member
    · exact past packet member
    · cases mem_singleton.mp member
      exact Nat.le_refl _

lemma current_first
    (short : data.length ≤ 1024) (trans : l.device.trans.data = data ∧ l.device.trans.totalLen = data.length)
    (last : l.device.trans.lastProtoType = some proto ∧ l.device.trans.lastOffset = 0 ∧ l.device.trans.lastSeq = 0 ∧
      l.device.trans.lastLen = len)
    (kind : proto = .single ∧ len = data.length ∨ proto = .multiple ∧ l.device.trans.sentOffset = len ∧ len ≤ data.length ∧
      (len < data.length → l.device.trans.nextSeq = 1 ∧ 10 ≤ len))
    (packets : ∀ packet ∈ l.device.sent, packet.transfer = l.device.transfers →
      packet.proto = proto ∧ packet.offset = 0 ∧ packet.len = len ∧ packet.seq = 0) : Current l := by
  obtain ⟨proto', offset, seq, len'⟩ := last
  refine ⟨by rw [trans.1, trans.2], by rw [trans.2]; exact short, ?_, ?_, ?_⟩
  · rcases kind with ⟨rfl, whole⟩ | ⟨rfl, sent, inside, more⟩
    · exact Or.inl ⟨proto', offset, seq, by rw [len', whole, trans.2]⟩
    · refine Or.inr ⟨proto', by rw [seq]; decide, by rw [sent, offset, len']; omega, by rw [sent, trans.2]; exact inside, ?_⟩
      rw [sent, trans.2, seq]
      exact more
  · intro packet member own
    obtain ⟨rfl, same, size, number⟩ := packets packet member own
    exact ⟨proto', Or.inl ⟨by rw [same, offset], by rw [size, len'], by rw [number, seq]⟩⟩
  · intro position inside
    rw [offset] at inside
    exact absurd inside (Nat.not_lt_zero _)

lemma startTransfer_tracked {l} (tracked : Tracked l) (short : data.length ≤ 1024) :
    Tracked { l with device := (l.device.takeOver data).startTransfer aes data } := by
  have fresh : ∀ packet ∈ (l.device.takeOver data).sent, packet.transfer < (l.device.takeOver data).transfers :=
    fun packet member => Nat.lt_succ_of_le (tracked.past packet member)
  have past : ∀ packet ∈ (l.device.takeOver data).sent, packet.transfer ≤ (l.device.takeOver data).transfers :=
    fun packet member => Nat.le_of_lt (fresh packet member)
  unfold startTransfer
  split
  · have tries := singlePacketSend_tries aes (l.device.takeOver data) data
    refine ⟨tries.mtu ▸ tracked.mtu, tries.past past, ?_⟩
    intro waiting
    obtain ⟨trans, packets⟩ := tries.only fresh (by rw [waiting]; exact Bool.noConfusion)
    refine current_first short ?_ ?_ (Or.inl ⟨rfl, rfl⟩) ?_
    · simp only [trans]
      exact ⟨rfl, rfl⟩
    · simp only [trans]
      exact ⟨rfl, rfl, rfl, rfl⟩
    · rw [tries.transfers]
      exact packets
  · obtain ⟨inside, more⟩ := firstPktLen_bounds (s := l.device.takeOver data) tracked.mtu data.length
    obtain ⟨len, isLen⟩ : ∃ len, (l.device.takeOver data).firstPktLen data.length = len := ⟨_, rfl⟩
    rw [isLen] at inside more ⊢
    have tries := multiplePacketSend_tries aes
      { l.device.takeOver data with trans := { (l.device.takeOver data).trans with nextSeq := 1 } } 0 0 len true
    refine ⟨tries.mtu ▸ tracked.mtu, tries.past past, ?_⟩
    intro waiting
    obtain ⟨trans, packets⟩ := tries.only fresh (fun same => Bool.noConfusion (same.symm.trans waiting))
    refine current_first short ?_ ?_ (Or.inr ⟨rfl, rfl, inside, ?_⟩) ?_
    · simp only [sendFirst, trans]
      exact ⟨rfl, rfl⟩
    · simp only [sendFirst, trans]
      exact ⟨rfl, rfl, rfl, rfl⟩
    · intro before
      simp only [sendFirst, trans]
      exact ⟨rfl, more before⟩
    · intro packet member own
      exact packets packet member (own.trans tries.transfers)

lemma packetTransSend_tracked {l} (tracked : Tracked l) (data : List UInt8) :
    Tracked { l with device := l.device.packetTransSend aes data } := by
  unfold packetTransSend
  split
  · exact tracked
  · dsimp only
    split
    · refine ⟨tracked.mtu, tracked.past, ?_⟩
      intro waiting
      obtain ⟨len, short, kind, packets, covered⟩ := tracked.current waiting
      exact ⟨len, short, kind, packets, covered⟩
    · exact startTransfer_tracked tracked (length_take_le respStringLengthMax data)

lemma resetState_tracked {l} (tracked : Tracked l) (clear : Bool) :
    Tracked { l with device := l.device.resetState clear } :=
  ⟨tracked.mtu, tracked.past, fun waiting => Bool.noConfusion waiting⟩

lemma completeCurrent_tracked {l} (tracked : Tracked l) :
    Tracked { l with device := l.device.completeCurrent aes } := by
  have reset := resetState_tracked tracked false
  unfold completeCurrent tryStartPending
  split
  · exact packetTransSend_tracked (l := { l with device := { l.device.resetState false with wait.pending := false } })
      ⟨reset.mtu, reset.past, fun waiting => Bool.noConfusion waiting⟩ _
  · exact reset

lemma retried_tracked (tracked : Tracked l) (waiting : l.device.trans.waitingAck = true)
    {count : Nat} (kind : l.device.trans.lastProtoType = some proto)
    (last : seq = l.device.trans.lastSeq ∧ offset = l.device.trans.lastOffset ∧ len = l.device.trans.lastLen)
    (tries : Tries proto seq offset len { l.device with trans := { l.device.trans with retryCnt := count } } after) :
    Tracked { l with device := after } := by
  obtain ⟨rfl, rfl, rfl⟩ := last
  have current := tracked.current waiting
  have trans : after.trans = { l.device.trans with retryCnt := count } := by
    rcases tries.outcome with ⟨same, -⟩ | ⟨same, -⟩
    · exact same
    · rw [same]
      simp only [recordLastPacket, ← kind, ← waiting]
  have sent : ∃ more, after.sent = l.device.sent ++ more ∧
      ∀ packet ∈ more, packet.proto = proto ∧ Repeats l.device.trans packet := by
    rcases tries.outcome with ⟨-, same⟩ | ⟨-, same | ⟨frame, grown⟩⟩
    · exact ⟨[], by rw [same, append_nil], nofun⟩
    · exact ⟨[], by rw [same, append_nil], nofun⟩
    · refine ⟨_, grown, ?_⟩
      intro packet member
      cases mem_singleton.mp member
      exact ⟨rfl, rfl, rfl, rfl⟩
  obtain ⟨more, grown, repeats⟩ := sent
  have got : ∀ {transfer offset len : Nat}, l.Got transfer offset len → Link.Got { l with device := after } transfer offset len :=
    fun got => got.mono (List.Subset.refl _) (grown ▸ prefix_append _ _)
  refine ⟨tries.mtu ▸ tracked.mtu, tries.past tracked.past, fun _ => ?_⟩
  obtain ⟨len, short, shape, packets, covered⟩ := current
  refine ⟨?_, ?_, ?_, ?_, ?_⟩
  all_goals simp only [trans, tries.transfers]
  · exact len
  · exact short
  · exact shape
  · intro packet member own
    rw [grown] at member
    rcases mem_append.mp member with member | member
    · obtain ⟨same, repeated | ⟨several, arrived, facts⟩⟩ := packets packet member own
      · exact ⟨same, Or.inl repeated⟩
      · exact ⟨same, Or.inr ⟨several, got arrived, facts⟩⟩
    · obtain ⟨rfl, repeated⟩ := repeats packet member
      exact ⟨kind, Or.inl repeated⟩
  · intro position inside
    obtain ⟨offset, len, arrived, bounds⟩ := covered position inside
    exact ⟨offset, len, got arrived, bounds⟩

lemma timeoutHandler_tracked {l} (tracked : Tracked l) (ready : Bool) :
    Tracked { l with device := l.device.timeoutHandler aes ready } := by
  unfold timeoutHandler
  split
  · exact tracked
  next busy =>
    have waiting : l.device.trans.waitingAck = true := by
      rw [not_or, not_not, not_not] at busy
      exact busy.2
    split
    · exact completeCurrent_tracked tracked
    · split
      · exact completeCurrent_tracked tracked
      · dsimp only
        have current := tracked.current waiting
        split
        next single =>
          obtain ⟨-, offset, seq, len⟩ | ⟨several, -⟩ := current.kind
          · exact retried_tracked tracked waiting single ⟨seq.symm, offset.symm, current.len.trans len.symm⟩
              (singlePacketSend_tries aes _ _)
          · cases single.symm.trans several
        next several => exact retried_tracked tracked waiting several ⟨rfl, rfl, rfl⟩ (multiplePacketSend_tries aes _ _ _ _ _)
        next none =>
          obtain ⟨single, -⟩ | ⟨several, -⟩ := current.kind
          · cases none.symm.trans single
          · cases none.symm.trans several

structure Follows (s : Transport) (seq next offset len : Nat) (after : Transport) : Prop where
  mtu : after.mtu = s.mtu
  transfers : after.transfers = s.transfers
  isBusy : after.trans.isBusy = s.trans.isBusy
  grown : ∃ more, after.sent = s.sent ++ more ∧ ∀ packet ∈ more, packet.transfer = s.transfers ∧ packet.proto = .multiple ∧
    packet.offset = offset ∧ packet.len = len ∧ packet.seq = seq
  waits : after.trans.waitingAck = true → after.trans = { s.trans with
    waitingAck := true, retryCnt := 0, nextSeq := next, lastProtoType := some .multiple, lastSeq := seq
    lastOffset := offset, lastLen := len, sentOffset := offset + len }

lemma Tries.follows {sending} (tries : Tries .multiple seq offset len sending after)
    (start : sending = { s.acknowledged with trans := { s.acknowledged.trans with nextSeq := next } }) :
    Follows s seq next offset len { after with trans := { after.trans with sentOffset := offset + len } } := by
  subst start
  refine ⟨tries.mtu, tries.transfers, ?_, ?_, ?_⟩
  · change after.trans.isBusy = s.trans.isBusy
    rcases tries.outcome with ⟨same, -⟩ | ⟨same, -⟩
    all_goals exact (congrArg PacketTrans.isBusy same).trans rfl
  · rcases tries.outcome with ⟨-, same⟩ | ⟨-, same | ⟨frame, grown⟩⟩
    · exact ⟨[], same.trans (append_nil _).symm, nofun⟩
    · exact ⟨[], same.trans (append_nil _).symm, nofun⟩
    · refine ⟨_, grown, ?_⟩
      intro packet member
      cases mem_singleton.mp member
      exact ⟨rfl, rfl, rfl, rfl, rfl⟩
  · intro waiting
    rcases tries.outcome with ⟨same, -⟩ | ⟨same, -⟩
    · exact Bool.noConfusion ((congrArg PacketTrans.waitingAck same).symm.trans waiting)
    · exact congrArg (fun trans : PacketTrans => { trans with sentOffset := offset + len }) same

variable (aes) in
lemma sendFollowing_follows (s : Transport) :
    Follows s s.acknowledged.nextNumber s.acknowledged.nextSeqAfter s.trans.sentOffset s.acknowledged.nextPktLen
      (s.acknowledged.sendFollowing aes) := by
  unfold sendFollowing
  generalize s.acknowledged.nextNumber = seq
  generalize s.acknowledged.nextSeqAfter = next
  generalize s.acknowledged.nextPktLen = len
  exact (multiplePacketSend_tries aes ..).follows rfl

/-- The number, the counter and the size of the packet after the last one: as long as
packets are to come, the number is larger than those before. -/
structure NextNumber (trans : PacketTrans) (seq next len : Nat) : Prop where
  byte : seq < 256
  inside : trans.sentOffset + len ≤ trans.totalLen
  counts : trans.sentOffset + len < trans.totalLen → next = seq + 1 ∧ 13 * seq + 10 ≤ trans.sentOffset + len
  other : ∀ older ≤ trans.lastSeq, older < 256 ∧ older ≠ seq
  larger : trans.sentOffset + len < trans.totalLen → ∀ older ≤ trans.lastSeq, older < seq

lemma Current.nextNumber (current : Current l) (mtu : l.device.mtu ≤ 498)
    (several : l.device.trans.lastProtoType = some .multiple)
    (more : l.device.trans.sentOffset < l.device.trans.totalLen) :
    NextNumber l.device.trans l.device.acknowledged.nextNumber l.device.acknowledged.nextSeqAfter
      l.device.acknowledged.nextPktLen := by
  obtain ⟨-, -, -, numbers⟩ : l.device.trans.lastSeq < 256 ∧ _ := by
    obtain ⟨single, -⟩ | ⟨-, shape⟩ := current.kind
    · cases single.symm.trans several
    · exact shape
  obtain ⟨next, least⟩ := numbers more
  obtain ⟨inside, full⟩ := nextPktLen_least (s := l.device.acknowledged) mtu
  change l.device.acknowledged.nextPktLen ≤ l.device.trans.totalLen - l.device.trans.sentOffset at inside
  change l.device.acknowledged.nextPktLen < l.device.trans.totalLen - l.device.trans.sentOffset → _ at full
  have short := current.short
  have number : l.device.acknowledged.nextNumber =
      if l.device.trans.totalLen ≤ l.device.trans.sentOffset + l.device.acknowledged.nextPktLen then seqLast
      else l.device.trans.lastSeq + 1 := by
    rw [← next]
    rfl
  have counter : l.device.acknowledged.nextSeqAfter =
      if l.device.trans.totalLen ≤ l.device.trans.sentOffset + l.device.acknowledged.nextPktLen then 0
      else (l.device.trans.lastSeq + 1 + 1) % 2 ^ 8 := by
    rw [← next]
    rfl
  refine ⟨?_, by omega, fun before => ?_, fun older small => ?_, fun before older small => ?_⟩
  · rw [number]
    split
    · decide
    · omega
  · have := full (by omega)
    rw [number, counter, if_neg (by omega), if_neg (by omega)]
    omega
  · rw [number]
    split
    · unfold seqLast
      omega
    · omega
  · rw [number, if_neg (by omega)]
    omega

lemma Current.older (current : Current l) (several : l.device.trans.lastProtoType = some .multiple)
    (more : l.device.trans.sentOffset < l.device.trans.totalLen) :
    ∀ packet ∈ l.device.sent, packet.transfer = l.device.transfers →
      packet.proto = .multiple ∧ packet.seq ≤ l.device.trans.lastSeq := by
  intro packet member own
  obtain ⟨proto, ⟨-, -, same⟩ | ⟨-, -, -, -, before⟩⟩ := current.packets packet member own
  · exact ⟨Option.some.inj (proto.symm.trans several), Nat.le_of_eq same⟩
  · exact ⟨Option.some.inj (proto.symm.trans several), Nat.le_of_lt (before more)⟩

lemma Follows.past
    (follows : Follows s seq next offset len after) (past : ∀ packet ∈ s.sent, packet.transfer ≤ s.transfers) :
    ∀ packet ∈ after.sent, packet.transfer ≤ after.transfers := by
  obtain ⟨fresh, grown, repeats⟩ := follows.grown
  intro packet member
  rw [grown] at member
  rw [follows.transfers]
  rcases mem_append.mp member with member | member
  · exact past packet member
  · exact Nat.le_of_eq (repeats packet member).1

lemma sendFollowing_tracked (tracked : Tracked l) (current : Current l)
    (several : l.device.trans.lastProtoType = some .multiple)
    (last : l.Got l.device.transfers l.device.trans.lastOffset l.device.trans.lastLen)
    (more : l.device.trans.sentOffset < l.device.trans.totalLen)
    (number : NextNumber l.device.trans seq next len)
    (follows : Follows l.device seq next l.device.trans.sentOffset len after) :
    Tracked { l with device := after } := by
  have sentOffset : l.device.trans.sentOffset = l.device.trans.lastOffset + l.device.trans.lastLen := by
    obtain ⟨single, -⟩ | ⟨-, -, reached, -⟩ := current.kind
    · cases single.symm.trans several
    · exact reached
  obtain ⟨everyPacket, everyByte⟩ := current.gotAll last (Nat.le_of_eq sentOffset)
  obtain ⟨fresh, grown, repeats⟩ := follows.grown
  have got : ∀ {transfer offset len : Nat}, l.Got transfer offset len →
      Link.Got { l with device := after } transfer offset len :=
    fun got => got.mono (List.Subset.refl _) ⟨fresh, grown.symm⟩
  refine ⟨Nat.le_trans (Nat.le_of_eq follows.mtu) tracked.mtu, follows.past tracked.past, fun waiting => ?_⟩
  have result := follows.waits waiting
  have transfers := follows.transfers
  refine ⟨?_, ?_, Or.inr ⟨?_, ?_, ?_, ?_, ?_⟩, ?_, ?_⟩
  all_goals simp only [result, transfers]
  · exact current.len
  · exact current.short
  · exact number.byte
  · exact number.inside
  · exact number.counts
  · intro packet member own
    rw [grown] at member
    rcases mem_append.mp member with member | member
    · obtain ⟨proto, small⟩ := current.older several more packet member own
      obtain ⟨byte, different⟩ := number.other packet.seq small
      refine ⟨congrArg some proto.symm, Or.inr ⟨proto, got (everyPacket packet member own), byte, different, ?_⟩⟩
      intro before
      exact number.larger before packet.seq small
    · obtain ⟨-, proto, offset, size, seqs⟩ := repeats packet member
      exact ⟨congrArg some proto.symm, Or.inl ⟨offset, size, seqs⟩⟩
  · intro position inside
    obtain ⟨offset, len, arrived, bounds⟩ := everyByte position inside
    exact ⟨offset, len, got arrived, bounds⟩

lemma ackSeq_answer (several : packet.proto = .multiple) :
    ackSeq packet.answer = some (packet.seq % 256) := by
  unfold SentPacket.answer
  rw [several]
  show some (UInt8.ofNat packet.seq).toNat = some (packet.seq % 256)
  rw [UInt8.toNat_ofNat']

variable (aes) in
lemma ackHandle_cases (l : Link) (packet : SentPacket) :
    l.device.ackHandle aes packet.proto packet.answer = l.device ∨ l.Accepts packet ∧
        (l.device.ackHandle aes packet.proto packet.answer = l.device.acknowledged.completeCurrent aes ∧
            (l.device.trans.lastProtoType = some .multiple → l.device.trans.totalLen ≤ l.device.trans.sentOffset) ∨
          l.device.ackHandle aes packet.proto packet.answer = l.device.acknowledged.sendFollowing aes ∧
            l.device.trans.lastProtoType = some .multiple ∧ l.device.trans.sentOffset < l.device.trans.totalLen) := by
  cases kind : packet.proto with
  | single =>
    simp only [ackHandle, singlePacketRspHandle]
    split
    · exact Or.inl rfl
    · split
      · exact Or.inl rfl
      next ready =>
        simp only [not_or, not_not] at ready
        refine Or.inr ⟨⟨ready.2.1, kind ▸ ready.2.2, ?_⟩, Or.inl ⟨rfl, ?_⟩⟩
        · intro several
          cases kind.symm.trans several
        · intro several
          cases ready.2.2.symm.trans several
  | multiple =>
    simp only [ackHandle, multiplePacketAckHandle, ackSeq_answer kind,
      multiplePacketContinue, sendNext]
    split
    · exact Or.inl rfl
    · split
      · exact Or.inl rfl
      next ready =>
        simp only [not_or, not_not] at ready
        rw [if_neg (by simp [ready.1, ready.2.1])]
        split
        · exact Or.inl rfl
        next same =>
          rw [not_not] at same
          refine Or.inr ⟨⟨ready.2.1, kind ▸ ready.2.2, fun _ => same⟩, ?_⟩
          split
          next done => exact Or.inl ⟨rfl, fun _ => by omega⟩
          next more => exact Or.inr ⟨rfl, ready.2.2, by omega⟩

variable (aes) in
lemma ack_step (l : Link) (i : Nat) : l.acknowledges i = none ∧ l.step aes (.ack i) = l ∨
      ∃ packet ∈ l.acknowledges i,
        l.step aes (.ack i) = { l with device := l.device.ackHandle aes packet.proto packet.answer } := by
  cases found : l.acknowledges i with
  | none =>
    refine Or.inl ⟨rfl, ?_⟩
    simp only [Link.step, found]
  | some packet =>
    refine Or.inr ⟨packet, rfl, ?_⟩
    simp only [Link.step, found]

lemma acknowledged_tracked {l} (tracked : Tracked l) : Tracked { l with device := l.device.acknowledged } :=
  ⟨tracked.mtu, tracked.past, fun waiting => Bool.noConfusion waiting⟩

lemma ack_tracked (tracked : Tracked l) (own : l.AcceptsOwn (.ack i)) : Tracked (l.step aes (.ack i)) := by
  rcases ack_step aes l i with ⟨-, same⟩ | ⟨packet, answered, taken⟩
  · rw [same]
    exact tracked
  · rw [taken]
    rcases ackHandle_cases aes l packet with same | ⟨accepted, ⟨ends, -⟩ | ⟨sends, several, more⟩⟩
    · rw [same]
      exact tracked
    · rw [ends]
      exact completeCurrent_tracked (l := { l with device := l.device.acknowledged }) (acknowledged_tracked tracked)
    · rw [sends]
      have current := tracked.current accepted.1
      have last := current.gotLast answered accepted (own i rfl packet answered accepted)
      have number := current.nextNumber tracked.mtu several more
      exact sendFollowing_tracked tracked current several last more number (sendFollowing_follows aes l.device)

lemma step_tracked (tracked : Tracked l) {event} (own : l.AcceptsOwn event) :
    Tracked (l.step aes event) := by
  cases event with
  | send data => exact packetTransSend_tracked tracked data
  | deliver i =>
    simp only [Link.step]
    split
    · refine ⟨tracked.mtu, tracked.past, fun waiting => ?_⟩
      obtain ⟨len, short, kind, packets, covered⟩ := tracked.current waiting
      have got : ∀ {transfer offset len : Nat}, l.Got transfer offset len →
          Link.Got { l with received := l.received ++ [i] } transfer offset len :=
        fun got => got.mono (subset_append_left _ _) (prefix_refl _)
      refine ⟨len, short, kind, ?_, ?_⟩
      · intro packet member same
        obtain ⟨proto, repeated | ⟨several, arrived, facts⟩⟩ := packets packet member same
        · exact ⟨proto, Or.inl repeated⟩
        · exact ⟨proto, Or.inr ⟨several, got arrived, facts⟩⟩
      · intro position inside
        obtain ⟨offset, len, arrived, bounds⟩ := covered position inside
        exact ⟨offset, len, got arrived, bounds⟩
    · exact tracked
  | ack i => exact ack_tracked tracked own
  | timeout ready => exact timeoutHandler_tracked tracked ready
  | disconnect => exact resetState_tracked tracked true
  | mtu tx =>
    refine ⟨?_, tracked.past, fun waiting => ?_⟩
    · simp only [Link.step]
      split
      · exact Nat.le_refl _
      next small => exact Nat.le_of_lt (Nat.not_le.mp small)
    · obtain ⟨len, short, kind, packets, covered⟩ := tracked.current waiting
      exact ⟨len, short, kind, packets, covered⟩

lemma ack_ends_soundly (tracked : Tracked l) {event} (own : l.AcceptsOwn event) :
    l.EndsSoundly aes event := by
  rintro i rfl ⟨busy, ended⟩
  rcases ack_step aes l i with ⟨-, same⟩ | ⟨packet, answered, taken⟩
  · simp [same, busy] at ended
  · rw [taken] at ended
    rcases ackHandle_cases aes l packet with same | ⟨accepted, ⟨-, last⟩ | ⟨sends, -⟩⟩
    · simp [same, busy] at ended
    · have current := tracked.current accepted.1
      refine current.gotAll (current.gotLast answered accepted (own i rfl packet answered accepted)) ?_
      obtain ⟨-, offset, -, len⟩ | ⟨several, -, offset, -⟩ := current.kind
      · omega
      · exact Nat.le_trans (last several) (Nat.le_of_eq offset)
    · have follows := sendFollowing_follows aes l.device
      simp [sends, follows.isBusy, busy, follows.transfers] at ended

end

/-- If no acknowledgement of an earlier transfer is ever accepted, then in every run a transfer
ends by an acknowledgement only when the peer has got all of it. -/
theorem finished_transfer_received (aes : Aes) {mtu : Nat} (small : mtu ≤ 498) {events : List LinkEvent}
    (own : Along (Link.step aes) Link.AcceptsOwn (Link.start mtu) events) :
    Along (Link.step aes) (Link.EndsSoundly aes) (Link.start mtu) events :=
  own.imp Tracked (fun _ _ tracked => step_tracked tracked) (fun _ _ tracked => ack_ends_soundly tracked)
    ⟨small, nofun, fun waiting => Bool.noConfusion waiting⟩

theorem retried_transfer_received :
    Along (Link.step .plain) (Link.EndsSoundly .plain) (Link.start 247)
      [.send [1, 2, 3], .timeout true, .deliver 0, .deliver 1, .ack 1, .send [4, 5], .deliver 2, .ack 2] := by
  apply finished_transfer_received .plain (by decide)
  refine ⟨nofun, nofun, nofun, nofun, ?_, nofun, nofun, ?_, trivial⟩
  all_goals
    rintro i ⟨⟩ packet answered -
    revert packet
    decide +kernel

/-- The link after the first reply was sent twice because its acknowledgement is slow, both
packets arrived, the first acknowledgement came and the next reply was sent. -/
def acknowledgementLate : Link :=
  [LinkEvent.send [1, 2, 3], .timeout true, .deliver 0, .deliver 1, .ack 0, .send [4, 5]].foldl (Link.step .plain)
    (Link.start 247)

/-- When the second acknowledgement comes the device takes it as that of the next reply, which
is finished although the peer has got nothing of it. -/
theorem late_acknowledgement_ends_next : acknowledgementLate.Finishes .plain (.ack 1) ∧
      acknowledgementLate.device.sent.map SentPacket.transfer = [1, 1, 2] ∧ acknowledgementLate.received = [0, 1] ∧
      ¬ acknowledgementLate.EndsSoundly .plain (.ack 1) := by
  have finishes : acknowledgementLate.Finishes .plain (.ack 1) := ⟨by decide +kernel, Or.inl (by decide +kernel)⟩
  have transfers : acknowledgementLate.device.sent.map SentPacket.transfer = [1, 1, 2] := by decide +kernel
  have received : acknowledgementLate.received = [0, 1] := by decide +kernel
  refine ⟨finishes, transfers, received, ?_⟩
  intro sound
  obtain ⟨-, covered⟩ := sound 1 rfl finishes
  obtain ⟨-, -, ⟨i, member, packet, found, own, -⟩, -⟩ := covered 0 (by decide +kernel)
  have first : [1, 1, 2][i]? = some packet.transfer := by
    rw [← transfers, List.getElem?_map, found]
    rfl
  rw [own, show acknowledgementLate.device.transfers = 2 by decide +kernel] at first
  rw [received] at member
  rcases mem_cons.mp member with rfl | second
  · cases first
  · cases mem_singleton.mp second
    cases first

end LL320D.BlePacket
