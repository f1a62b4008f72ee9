import LL320D.Proofs.YmodemFrames
import LL320D.YmodemSender

/-! What is saved over a bad channel. As long as the number of a frame tells its block and no save has failed, the bytes
that were saved are the beginning of the file. -/

namespace LL320D.Ymodem
open Library List Receiver

namespace Sending

variable (tx : Sending) (k : Nat)

lemma headSize_heads : headSize (tx.heads k) = some (tx.size k) := by
  obtain ⟨announced, same⟩ := Option.isSome_iff_exists.mp (tx.framed k)
  unfold size
  rw [same]
  rfl

lemma size_le : tx.size k ≤ 1024 := by
  unfold size headSize
  split
  · decide
  · split
    all_goals decide

lemma block_length : (tx.block (k + 1)).length = min (tx.size (k + 1)) (tx.file.data.length - tx.offset k) := by
  unfold block
  rw [length_take, length_drop]
  rfl

lemma take_offset_succ :
    tx.file.data.take (tx.offset (k + 1)) = tx.file.data.take (tx.offset k) ++ tx.block (k + 1) :=
  take_add

lemma padded_length : (Sender.padded (tx.size (k + 1)) (tx.block (k + 1))).length = tx.size (k + 1) := by
  have length := tx.block_length k
  unfold Sender.padded
  rw [length_append, length_replicate]
  omega

end Sending

def Pc.inFrames : Pc → Prop
  | .frameHead _ | .frameRest _ | .done _ => True
  | _ => False

namespace Receiver

variable {tx : Sending} {q : Receiver Saved} {arrived : Nat} {after : Receiver Saved} {k : Nat}

/-- The receiver has taken the blocks so far, all of them in order; its state knows of `EOT` only if one has arrived or
the file is complete. -/
structure Follows (tx : Sending) (arrived : Nat) (q : Receiver Saved) : Prop where
  isYmodem : q.isYmodem = true
  fileSize : tx.file.data ≠ [] → q.fileSize = tx.file.data.length
  expected : q.expectedSeq = UInt8.ofNat (q.sink.calls + 1)
  behind : q.sink.calls ≤ arrived
  phase : arrived ≤ tx.count → q.state ≠ .ending
  begins : q.sink.bytes <+: tx.file.data
  saved : q.sink.failed = false →
    q.sink.bytes = tx.file.data.take (tx.offset q.sink.calls) ∧ q.written = q.sink.bytes.length

structure SameFile (q after : Receiver Saved) : Prop where
  state : after.state = q.state
  isYmodem : after.isYmodem = q.isYmodem
  fileSize : after.fileSize = q.fileSize
  expectedSeq : after.expectedSeq = q.expectedSeq
  written : after.written = q.written
  sink : after.sink = q.sink

lemma SameFile.stored (q) (offset : Nat) (bytes : List UInt8) :
    SameFile q ({ q with acts := [] }.store offset bytes) := ⟨rfl, rfl, rfl, rfl, rfl, rfl⟩

lemma SameFile.portFlush (same : SameFile q after) : SameFile q after.portFlush :=
  ⟨same.state, same.isYmodem, same.fileSize, same.expectedSeq, same.written, same.sink⟩

lemma SameFile.sendByte (same : SameFile q after) (byte) : SameFile q (after.sendByte byte) :=
  ⟨same.state, same.isYmodem, same.fileSize, same.expectedSeq, same.written, same.sink⟩

lemma Follows.same {after} (follows : Follows tx arrived q) (same : SameFile q after) :
    Follows tx arrived after := by
  obtain ⟨state, isYmodem, fileSize, expectedSeq, written, sink⟩ := same
  constructor
  · rw [isYmodem]; exact follows.isYmodem
  · rw [fileSize]; exact follows.fileSize
  · rw [expectedSeq, sink]; exact follows.expected
  · rw [sink]; exact follows.behind
  · rw [state]; exact follows.phase
  · rw [sink]; exact follows.begins
  · rw [sink, written]; exact follows.saved

lemma Follows.later (follows : Follows tx arrived q) (later : arrived ≤ k) : Follows tx k q :=
  { follows with
    behind := Nat.le_trans follows.behind later
    phase := fun early => follows.phase (Nat.le_trans later early) }

section

variable {calls : Nat} {saves : Bool}

lemma Follows.saveSize_block (follows : Follows tx arrived q) (nonempty : tx.file.data ≠ [])
    (clean : q.sink.failed = false) (made : q.sink.calls = calls) (room : tx.offset (calls + 1) < 2 ^ 31) :
    q.saveSize (tx.size (calls + 1)) = (tx.block (calls + 1)).length := by
  obtain ⟨bytes, written⟩ := follows.saved clean
  have some := length_pos_iff.mpr nonempty
  have length := tx.block_length calls
  have most := tx.size_le (calls + 1)
  have start : q.sink.bytes.length = min (tx.offset calls) tx.file.data.length := by
    rw [bytes, made, length_take]
  have next : tx.offset (calls + 1) = tx.offset calls + tx.size (calls + 1) := rfl
  have sum : int32 (q.written + tx.size (calls + 1)) = (q.sink.bytes.length + tx.size (calls + 1) : Nat) := by
    rw [written, ← Int.natCast_add]
    exact int32_small (by omega) (by omega)
  unfold saveSize
  rw [sum, follows.fileSize nonempty]
  by_cases beyond : tx.file.data.length < q.sink.bytes.length + tx.size (calls + 1)
  · have rest : int32 (tx.file.data.length - q.sink.bytes.length) = (tx.file.data.length - q.sink.bytes.length : Nat) := by
      rw [Int.natCast_sub (by omega)]
      exact int32_small (by omega) (by omega)
    rw [if_pos ⟨follows.isYmodem, Int.natCast_pos.mpr some, Int.ofNat_lt.mpr beyond⟩, written, rest]
    congr 1
    omega
  · rw [if_neg fun cut => beyond (Int.ofNat_lt.mp cut.2.2)]
    congr 1
    omega

lemma ofNat_succ (n) : UInt8.ofNat n + 1 = UInt8.ofNat (n + 1) := by
  rw [UInt8.ofNat_add]
  rfl

/-- `save_write` takes the next block. -/
lemma saveData_block (made : q.sink.calls = calls) (bytes : q.sink.bytes = tx.file.data.take (tx.offset calls))
    (written : q.written = q.sink.bytes.length)
    (field : q.dataField.take (tx.block (calls + 1)).length = tx.block (calls + 1)) :
    q.saveData (saving true) (tx.block (calls + 1)).length = (.ok, { q with
      sink := { q.sink with bytes := tx.file.data.take (tx.offset (calls + 1)), calls := calls + 1 }
      written := (tx.file.data.take (tx.offset (calls + 1))).length }) := by
  have small := tx.file.small
  have whole : q.sink.bytes ++ tx.block (calls + 1) = tx.file.data.take (tx.offset (calls + 1)) := by
    rw [bytes, tx.take_offset_succ]
  have sum : int32 (q.written + (tx.block (calls + 1)).length) = (tx.file.data.take (tx.offset (calls + 1))).length := by
    have most := length_take_le' (tx.offset (calls + 1)) tx.file.data
    rw [← whole, length_append] at most ⊢
    rw [written, ← Int.natCast_add]
    exact int32_small (by omega) (by omega)
  rw [← sum, ← whole]
  refine saveData_ok (saving true) ?_
  rw [Int.toNat_natCast, field, ← made]
  rfl

lemma Follows.takeData (follows : Follows tx arrived q) (nonempty : tx.file.data ≠ []) (clean : q.sink.failed = false)
    (made : q.sink.calls = calls) (room : tx.offset (calls + 1) < 2 ^ 31) (early : arrived ≤ tx.count)
    (field : q.dataField.take (tx.block (calls + 1)).length = tx.block (calls + 1)) :
    Follows tx (calls + 1)
      ({ q with expectedSeq := q.expectedSeq + 1 }.takeData (saving saves) (tx.size (calls + 1))).2 := by
  let moved : Receiver Saved := { q with expectedSeq := q.expectedSeq + 1 }
  have phase := follows.phase early
  have expected : q.expectedSeq + 1 = UInt8.ofNat (calls + 1 + 1) := by
    rw [follows.expected, made, ofNat_succ]
  have size : moved.saveSize (tx.size (calls + 1)) = (tx.block (calls + 1)).length :=
    follows.saveSize_block nonempty clean made room
  unfold Receiver.takeData
  rw [size]
  cases saves with
  | false =>
    have failed : moved.saveData (saving false) (tx.block (calls + 1)).length = (.errFile, { moved with
        sink := { q.sink with calls := q.sink.calls + 1, failed := true } }.sendByte can) := rfl
    rw [failed]
    exact ⟨follows.isYmodem, follows.fileSize, made ▸ expected, made ▸ Nat.le_refl _, fun _ => phase, follows.begins, nofun⟩
  | true =>
    obtain ⟨bytes, written⟩ := follows.saved clean
    have done : moved.saveData (saving true) (tx.block (calls + 1)).length = _ :=
      saveData_block made (made ▸ bytes) written field
    rw [done]
    have begins := take_prefix (tx.offset (calls + 1)) tx.file.data
    dsimp only
    split
    · exact ⟨follows.isYmodem, follows.fileSize, expected, Nat.le_refl _, fun _ => nofun, begins, fun _ => ⟨rfl, rfl⟩⟩
    · exact ⟨follows.isYmodem, follows.fileSize, expected, Nat.le_refl _, fun _ => phase, begins, fun _ => ⟨rfl, rfl⟩⟩

/-- The number of the frame tells the block: it is at most 256 ahead, and the one that has the same number is 256 behind. -/
lemma Follows.next (follows : Follows tx k q) (number : UInt8.ofNat k = q.expectedSeq) (window : k ≤ q.sink.calls + 256) :
    k = q.sink.calls + 1 := by
  rw [follows.expected] at number
  have same := congrArg UInt8.toNat number
  simp only [UInt8.toNat_ofNat'] at same
  have behind := follows.behind
  omega

lemma Follows.takeFrame {k size : Nat} (follows : Follows tx k q)
    (number : tx.seq k = some q.seq)
    (inOrder : q.seq = q.expectedSeq → q.state ≠ .ending →
      q.sink.failed = false ∧ k ≤ tx.count ∧ k ≤ q.sink.calls + 256 ∧ tx.offset k < 2 ^ 31)
    (data : 0 < k → k ≤ tx.count → q.dataField.take (tx.block k).length = tx.block k ∧ size = tx.size k)
    (ends : tx.count < k → q.dataField.getD 0 0 = 0) : Follows tx k (q.takeFrame (saving saves) size).2 := by
  unfold Receiver.takeFrame
  split
  next ending =>
    have late : tx.count < k := Nat.not_le.mp fun early => follows.phase early ending.2.1
    unfold takeEndFrame
    rw [if_pos (ends late)]
    exact ⟨follows.isYmodem, follows.fileSize, follows.expected, follows.behind, fun early => absurd early (Nat.not_le.mpr late),
      follows.begins, follows.saved⟩
  next other =>
    split
    next expected =>
      have running : q.state ≠ .ending := by
        intro ending
        refine other ⟨follows.isYmodem, ending, ?_⟩
        have late : ¬ k ≤ tx.count := fun early => follows.phase early ending
        rw [Sending.seq, if_neg late] at number
        split at number
        · cases number
        · exact (Option.some.inj number).symm
      obtain ⟨clean, inside, window, room⟩ := inOrder expected running
      rw [Sending.seq, if_pos inside] at number
      obtain rfl := follows.next ((Option.some.inj number).trans expected) window
      obtain ⟨field, rfl⟩ := data (Nat.succ_pos _) inside
      have nonempty : tx.file.data ≠ [] := fun none => absurd (tx.none none) (by omega)
      exact follows.takeData nonempty clean rfl room inside field
    · split
      all_goals exact follows.same ⟨rfl, rfl, rfl, rfl, rfl, rfl⟩

end

lemma Follows.processEot (follows : Follows tx k q) (late : tx.count < k) (saves) :
    Follows tx k (q.processEot (saving saves)).2 := by
  have any (state : State) (acts : List Act) : Follows tx k { q with state, acts } :=
    ⟨follows.isYmodem, follows.fileSize, follows.expected, follows.behind, fun early => absurd early (Nat.not_le.mpr late),
      follows.begins, follows.saved⟩
  unfold Receiver.processEot
  split
  · split
    · exact any .endofxfer _
    · exact any .ending _
    all_goals exact follows
  · exact any .ended _

lemma info_follows {tail : List UInt8} (fresh : q.sink = ⟨[], 0, false⟩) (saves : Bool) (i retry : Nat) :
    let after := firstProcessed i retry ({ q with
      frame := frameBytes q.crcType soh 0 (fileInfo tx.file.name tx.file.data.length) ++ tail, acts := []
      pc := .firstRest i retry }.takeFirstFrame (saving saves) sohSize)
    Follows tx 0 after ∧ after.pc = .frameHead 0 := by
  obtain ⟨state, crc, isYmodem, fileName, fileSize, written, expectedSeq, frame, sink, acts, pc⟩ := q
  cases fresh
  refine ⟨⟨rfl, fun nonempty => ?_, rfl, Nat.le_refl _, fun _ => nofun, nil_prefix, fun _ => ⟨?_, rfl⟩⟩, rfl⟩
  · exact infoSize_frame tx.short tx.file.plain (length_pos_iff.mpr nonempty) tx.file.small crc tail
  · exact (take_zero ..).symm

lemma frameProcessed_same (saves errors) (result : Ret × Receiver Saved) :
    SameFile result.2 (frameProcessed (saving saves) errors result) ∧
      (frameProcessed (saving saves) errors result).pc.inFrames := by
  obtain ⟨ret, q⟩ := result
  unfold frameProcessed
  split
  next same =>
    cases same
    split
    all_goals exact ⟨⟨rfl, rfl, rfl, rfl, rfl, rfl⟩, trivial⟩
  next same =>
    cases same
    split
    · exact ⟨⟨rfl, rfl, rfl, rfl, rfl, rfl⟩, trivial⟩
    · split
      all_goals exact ⟨⟨rfl, rfl, rfl, rfl, rfl, rfl⟩, trivial⟩

lemma SameFile.frameProcessed {after} (kept : SameFile q after) (saves errors) (ret : Ret) :
    SameFile q (frameProcessed (saving saves) errors (ret, after)) ∧
      (frameProcessed (saving saves) errors (ret, after)).pc.inFrames := by
  obtain ⟨same, inFrames⟩ := frameProcessed_same saves errors (ret, after)
  exact ⟨⟨same.state.trans kept.state, same.isYmodem.trans kept.isYmodem, same.fileSize.trans kept.fileSize,
    same.expectedSeq.trans kept.expectedSeq, same.written.trans kept.written, same.sink.trans kept.sink⟩, inFrames⟩

section

variable {r : Recv} (detected : q.detects r = true) {errors : Nat}
include detected

lemma noise_frameHead (pc : q.pc = .frameHead errors) :
    SameFile q (q.step (saving true) r) ∧ (q.step (saving true) r).pc.inFrames := by
  rw [step_at_frameHead (saving true) pc]
  have stored := SameFile.stored q 0 (r.data.take 1)
  split
  · exact (stored.portFlush.sendByte nak).frameProcessed true errors _
  next received =>
    rw [not_or] at received
    obtain ⟨intact, nonempty⟩ := received
    have other : r.data.head? ≠ some eot := by
      have either : (r.failed || decide (r.data.head? ≠ some eot)) = true := by simpa only [detects, pc] using detected
      rw [eq_false_of_ne_true intact, Bool.false_or] at either
      exact of_decide_eq_true either
    cases data : r.data with
    | nil => exact absurd data nonempty
    | cons byte rest =>
      rw [data] at other
      unfold enterFrame
      split
      next same => exact absurd (congrArg some same) other
      · split
        · exact ⟨⟨rfl, rfl, rfl, rfl, rfl, rfl⟩, trivial⟩
        · rw [data] at stored
          exact (stored.sendByte can).portFlush.frameProcessed true errors _

lemma detects_rest (inside : (∃ errors, q.pc = .frameRest errors) ∨ ∃ i retry, q.pc = .firstRest i retry) :
    (!r.failed && decide (q.remain ≤ r.data.length)) = false ∨
      ({ q with acts := [] }.store 1 (r.data.take q.remain)).verifyFrame ((headSize q.head).getD 0) ≠ .ok := by
  have either : (!(!r.failed && decide (q.remain ≤ r.data.length)) ||
      decide ((q.store 1 (r.data.take q.remain)).verifyFrame ((headSize q.head).getD 0) ≠ .ok)) = true := by
    rcases inside with ⟨errors, pc⟩ | ⟨i, retry, pc⟩
    all_goals simpa only [detects, pc] using detected
  rcases Bool.or_eq_true_iff.mp either with incomplete | fails
  · exact .inl (by simpa only [Bool.not_eq_true'] using incomplete)
  · exact .inr (of_decide_eq_true fails)

lemma noise_frameRest (pc : q.pc = .frameRest errors) :
    SameFile q (q.step (saving true) r) ∧ (q.step (saving true) r).pc.inFrames := by
  rw [step_at_frameRest (saving true) pc]
  have noise := detects_rest detected (.inl ⟨errors, pc⟩)
  have refused := (SameFile.stored q 1 (r.data.take q.remain)).portFlush.sendByte nak
  unfold processFrame
  split
  next complete =>
    split
    next passed => exact absurd passed (noise.resolve_left (by rw [complete]; exact nofun))
    · exact refused.frameProcessed true errors _
  · exact refused.frameProcessed true errors _

end

structure Unacknowledged (q after : Receiver Saved) : Prop where
  sink : after.sink = q.sink
  acts : ack ∉ sentBytes after.acts
  pc : ¬ after.pc.inFrames ∨ ∃ ret, after.pc = .done ret

variable {after : Receiver Saved}

lemma enterHandshake_unacknowledged (kept : after.sink = q.sink) (quiet : after.acts = []) (i) :
    Unacknowledged q (after.enterHandshake i) := by
  have asks (crcType : CrcType) : ack ∉ sentBytes (after.acts ++ [Act.send crcType.request]) := by
    rw [quiet]
    cases crcType
    all_goals decide
  unfold enterHandshake
  split
  · dsimp only
    split
    · exact ⟨kept, asks .checksum, .inl nofun⟩
    · exact ⟨kept, asks after.crcType, .inl nofun⟩
  · refine ⟨kept, ?_, .inr ⟨_, rfl⟩⟩
    change ack ∉ sentBytes (after.acts ++ [Act.flush])
    rw [quiet]
    decide

lemma enterFirst_unacknowledged (kept : after.sink = q.sink) (quiet : ack ∉ sentBytes after.acts) (i retry) :
    Unacknowledged q (after.enterFirst i retry) := by
  refine ⟨kept, quiet, .inl ?_⟩
  unfold enterFirst
  dsimp only
  split
  all_goals exact nofun

lemma firstProcessed_unacknowledged (kept : after.sink = q.sink) (quiet : ack ∉ sentBytes after.acts) {ret : Ret}
    (failed : ret ≠ .ok) (i retry) : Unacknowledged q (firstProcessed i retry (ret, after)) := by
  unfold firstProcessed
  split
  next same => exact absurd (congrArg Prod.fst same) failed
  next same =>
    cases same
    split
    · exact ⟨kept, quiet, .inr ⟨_, rfl⟩⟩
    · exact enterFirst_unacknowledged kept quiet i _

lemma noise_first {r} (detected : q.detects r = true) (early : ¬ q.pc.inFrames) :
    Unacknowledged q (q.step (saving true) r) := by
  cases pc : q.pc with
  | handshake i =>
    rw [step_at_handshake (saving true) pc]
    split
    · apply enterHandshake_unacknowledged
      all_goals rfl
    · apply enterFirst_unacknowledged
      · rfl
      · exact not_mem_nil
  | firstHead i retry =>
    rw [step_at_firstHead (saving true) pc]
    split
    · apply enterHandshake_unacknowledged
      all_goals rfl
    · apply enterFirst_unacknowledged
      · rfl
      · exact not_mem_nil
  | firstRest i retry =>
    rw [step_at_firstRest (saving true) pc]
    have noise := detects_rest detected (.inr ⟨i, retry, pc⟩)
    have refused (next : Receiver Saved) (kept : next.sink = q.sink) (quiet : next.acts = []) {ret : Ret} (failed : ret ≠ .ok) :
        Unacknowledged q (firstProcessed i retry (ret, next.portFlush.sendByte nak)) := by
      refine firstProcessed_unacknowledged (by exact kept) ?_ failed i retry
      change ack ∉ sentBytes (next.acts ++ [Act.flush] ++ [Act.send nak])
      rw [quiet]
      decide
    unfold processFirstFrame
    split
    next complete =>
      split
      next passed => exact absurd passed (noise.resolve_left (by rw [complete]; exact nofun))
      next failed =>
        apply refused _ _ _ failed
        all_goals rfl
    · apply refused
      · rfl
      · rfl
      · exact nofun
  | frameHead | frameRest | done =>
    rw [pc] at early
    exact absurd trivial early

end Receiver

namespace Transfer

variable {tx : Sending} {s : Transfer} {k errors : Nat} {saves : Bool}

structure Orderly (tx : Sending) (s : Transfer) : Prop where
  order : s.arrived ≤ s.sent
  begins : s.PrefixSaved tx
  first : ¬ s.rx.pc.inFrames → s.sent = 0 ∧ ack ∉ s.replies ∧ s.rx.sink = ⟨[], 0, false⟩
  later : s.rx.pc.inFrames → (∃ ret, s.rx.pc = .done ret) ∨ s.rx.Follows tx s.arrived

lemma Orderly.processed {after : Transfer} {result : Ret × Receiver Saved}
    (rx : after.rx = frameProcessed (saving saves) errors result) (follows : result.2.Follows tx k)
    (arrived : after.arrived = k) (order : k ≤ after.sent) : after.Orderly tx := by
  obtain ⟨same, inFrames⟩ := frameProcessed_same saves errors result
  rw [← rx] at same inFrames
  have still := follows.same same
  exact ⟨arrived ▸ order, still.begins, fun early => absurd inFrames early, fun _ => .inr (arrived ▸ still)⟩

lemma Orderly.noise (orderly : s.Orderly tx) {r} (detected : s.rx.detects r = true) : (s.recv true r).Orderly tx := by
  by_cases inFrames : s.rx.pc.inFrames
  · have same : (Receiver.SameFile s.rx (s.rx.step (saving true) r) ∧ (s.rx.step (saving true) r).pc.inFrames) ∧
        ((∃ ret, s.rx.pc = .done ret) → ∃ ret, (s.rx.step (saving true) r).pc = .done ret) := by
      cases pc : s.rx.pc with
      | frameHead errors => exact ⟨Receiver.noise_frameHead detected pc, nofun⟩
      | frameRest errors => exact ⟨Receiver.noise_frameRest detected pc, nofun⟩
      | done ret =>
        have still : s.rx.step (saving true) r = { s.rx with acts := [] } := by
          unfold Receiver.step
          simp only [pc]
        rw [still]
        exact ⟨⟨⟨rfl, rfl, rfl, rfl, rfl, rfl⟩, by rw [pc]; trivial⟩, fun _ => ⟨ret, pc⟩⟩
      | handshake | firstHead | firstRest =>
        rw [pc] at inFrames
        exact inFrames.elim
    obtain ⟨⟨same, after⟩, stays⟩ := same
    refine ⟨orderly.order, ?_, fun early => absurd after early, fun _ => ?_⟩
    · unfold PrefixSaved
      exact (congrArg (fun sink : Saved => sink.bytes <+: tx.file.data) same.sink).mpr orderly.begins
    · exact (orderly.later inFrames).imp stays fun follows => follows.same same
  · obtain ⟨sent, unacknowledged, fresh⟩ := orderly.first inFrames
    obtain ⟨sink, acts, pc⟩ := Receiver.noise_first detected inFrames
    refine ⟨orderly.order, ?_, fun _ => ⟨sent, ?_, sink.trans fresh⟩, fun after => ?_⟩
    · unfold PrefixSaved
      exact (congrArg (fun sink : Saved => sink.bytes <+: tx.file.data) sink).mpr orderly.begins
    · intro member
      exact (mem_append.mp member).elim unacknowledged acts
    · exact .inl (pc.resolve_left (not_not_intro after))

lemma recvFrame_two (s : Transfer) (saves crcType head seq data) :
    (s.recvFrame saves (frameBytes crcType head seq data)).rx =
      (s.rx.step (saving saves) { data := [head], failed := false }).step (saving saves)
        { data := (frameBytes crcType head seq data).tail, failed := false } := by
  have more : (frameBytes crcType head seq data).tail ≠ [] := cons_ne_nil _ _
  unfold recvFrame
  rw [if_neg more]
  rfl

lemma recvFrame_order (s : Transfer) (saves bytes) :
    (s.recvFrame saves bytes).arrived = s.arrived ∧ (s.recvFrame saves bytes).sent = s.sent := by
  unfold recvFrame
  split
  all_goals exact ⟨rfl, rfl⟩

lemma Orderly.first_frame (orderly : s.Orderly tx) (early : ¬ s.rx.pc.inFrames) (waits : s.rx.waits = true) (saves : Bool) :
    ({ s with arrived := 0 }.recvFrame saves (tx.bytes s.rx.crcType 0)).Orderly tx := by
  obtain ⟨-, -, fresh⟩ := orderly.first early
  obtain ⟨_, -, length⟩ := fileInfo_eq tx.short tx.file.small
  have size : headSize soh = some (fileInfo tx.file.name tx.file.data.length).length := by rw [length]; rfl
  obtain ⟨arrived, sent⟩ := recvFrame_order { s with arrived := 0 } saves (tx.bytes s.rx.crcType 0)
  have rx := recvFrame_two { s with arrived := 0 } saves s.rx.crcType soh 0 (fileInfo tx.file.name tx.file.data.length)
  have followed : ({ s with arrived := 0 }.recvFrame saves (tx.bytes s.rx.crcType 0)).rx.Follows tx 0 ∧
      ({ s with arrived := 0 }.recvFrame saves (tx.bytes s.rx.crcType 0)).rx.pc = .frameHead 0 := by
    change Receiver.Follows tx 0 (recvFrame { s with arrived := 0 } saves (frameBytes s.rx.crcType soh 0 _)).rx ∧
      (recvFrame { s with arrived := 0 } saves (frameBytes s.rx.crcType soh 0 _)).rx.pc = .frameHead 0
    rw [rx]
    cases pc : s.rx.pc with
    | handshake i =>
      obtain ⟨tail, taken⟩ := step_first (saving saves) pc 0 size
      rw [length] at taken
      rw [taken]
      exact info_follows fresh saves i sendRetry
    | firstHead i retry =>
      obtain ⟨tail, taken⟩ := step_firstAgain (saving saves) pc 0 size
      rw [length] at taken
      rw [taken]
      exact info_follows fresh saves i retry
    | firstRest i retry =>
      have need : s.rx.need = some s.rx.remain := by
        unfold need
        rw [pc]
      have one := need.symm.trans (of_decide_eq_true waits)
      have three := Option.some.inj one
      unfold remain at three
      omega
    | frameHead | frameRest | done =>
      rw [pc] at early
      exact absurd trivial early
  refine ⟨?_, followed.1.begins, fun early => ?_, fun _ => .inr ?_⟩
  · rw [arrived]
    exact Nat.zero_le _
  · rw [followed.2] at early
    exact absurd trivial early
  · rw [arrived]
    exact followed.1

section

variable (follows : s.rx.Follows tx k) (pc : s.rx.pc = .frameHead errors) (order : k ≤ s.sent)
  (inOrder : s.InOrder tx (.frame k saves))
include follows pc order inOrder

/-- A frame with a data field. -/
lemma Orderly.data_frame {head seq : UInt8} {data : List UInt8}
    (bytes : tx.bytes s.rx.crcType k = frameBytes s.rx.crcType head seq data) (number : tx.seq k = some seq)
    (size : headSize head = some data.length)
    (block : 0 < k → k ≤ tx.count → ∃ more, data = tx.block k ++ more ∧ data.length = tx.size k)
    (ends : tx.count < k → ∃ more, data = 0 :: more) :
    ({ s with arrived := k }.recvFrame saves (tx.bytes s.rx.crcType k)).Orderly tx := by
  obtain ⟨arrived, sent⟩ := recvFrame_order { s with arrived := k } saves (tx.bytes s.rx.crcType k)
  rw [bytes] at arrived sent ⊢
  have rx := recvFrame_two { s with arrived := k } saves s.rx.crcType head seq data
  obtain ⟨tail, taken⟩ := Receiver.step_behindHead (saving saves) s.rx errors seq size
  have begun : s.rx.step (saving saves) { data := [head], failed := false } =
      { s.rx.loaded [head] with pc := .frameRest errors } :=
    Receiver.step_frameHead (saving saves) pc (by rw [size]; rfl)
  have rx := rx.trans ((congrArg (Receiver.step (saving saves) · _) begun).trans taken)
  have field : Receiver.dataField { s.rx with
      frame := frameBytes s.rx.crcType head seq data ++ tail, acts := [], pc := .frameRest errors } =
        data ++ (s.rx.crcType.check data ++ tail) := Receiver.dataField_frame rfl
  refine Orderly.processed rx (Receiver.Follows.takeFrame ?_ number ?_ ?_ ?_) arrived (sent ▸ order)
  · exact follows.same ⟨rfl, rfl, rfl, rfl, rfl, rfl⟩
  · intro expected running
    exact inOrder ⟨number.trans (congrArg some expected), running⟩
  · intro positive inside
    obtain ⟨more, parts, length⟩ := block positive inside
    rw [field, parts, append_assoc, take_left, ← parts]
    exact ⟨rfl, length⟩
  · intro late
    obtain ⟨more, zero⟩ := ends late
    rw [field, zero]
    rfl

lemma Orderly.later_frame : ({ s with arrived := k }.recvFrame saves (tx.bytes s.rx.crcType k)).Orderly tx := by
  by_cases info : k = 0
  · subst info
    obtain ⟨_, -, length⟩ := fileInfo_eq tx.short tx.file.small
    refine .data_frame follows pc order inOrder rfl rfl ?_ (fun positive => absurd positive (Nat.lt_irrefl 0)) nofun
    rw [length]
    rfl
  by_cases inside : k ≤ tx.count
  · obtain ⟨before, rfl⟩ := Nat.exists_eq_succ_of_ne_zero info
    have length := tx.padded_length before
    refine .data_frame follows pc order inOrder ((if_neg info).trans (if_pos inside)) (if_pos inside) ?_
      (fun _ _ => ⟨_, rfl, length⟩) ?_
    · rw [length]
      exact tx.headSize_heads _
    · intro late
      exact absurd inside (Nat.not_le.mpr late)
  by_cases eots : k ≤ tx.count + 2
  · have bytes : tx.bytes s.rx.crcType k = [eot] := (if_neg info).trans ((if_neg inside).trans (if_pos eots))
    obtain ⟨arrived, sent⟩ := recvFrame_order { s with arrived := k } saves (tx.bytes s.rx.crcType k)
    rw [bytes] at arrived sent ⊢
    have late : tx.count < k := Nat.not_le.mp inside
    have loaded : (s.rx.loaded [eot]).Follows tx k := follows.same ⟨rfl, rfl, rfl, rfl, rfl, rfl⟩
    exact Orderly.processed (Receiver.step_eot (saving saves) pc) (loaded.processEot late saves) arrived (sent ▸ order)
  · refine .data_frame follows pc order inOrder ((if_neg info).trans ((if_neg inside).trans (if_neg eots)))
      ((if_neg inside).trans (if_neg eots)) rfl ?_ fun _ => ⟨_, rfl⟩
    exact fun _ early => absurd early inside

end

lemma Orderly.step (orderly : s.Orderly tx) {event} (inOrder : s.InOrder tx event) : (s.step tx event).Orderly tx := by
  cases event with
  | frame k saves =>
    by_cases comes : s.arrived ≤ k ∧ k ≤ s.sent ∧ s.rx.waits = true
    · have taken : s.step tx (.frame k saves) = { s with arrived := k }.recvFrame saves (tx.bytes s.rx.crcType k) := if_pos comes
      obtain ⟨later, order, waits⟩ := comes
      rw [taken]
      by_cases inFrames : s.rx.pc.inFrames
      · have need := of_decide_eq_true waits
        cases pc : s.rx.pc with
        | frameHead errors =>
          rcases orderly.later inFrames with ⟨ret, done⟩ | follows
          · exact nomatch pc.symm.trans done
          · exact Orderly.later_frame (follows.later later) pc order inOrder
        | frameRest errors =>
          unfold Receiver.need at need
          rw [pc] at need
          have three := Option.some.inj need
          unfold Receiver.remain at three
          omega
        | done ret =>
          unfold Receiver.need at need
          rw [pc] at need
          cases need
        | handshake | firstHead | firstRest =>
          rw [pc] at inFrames
          exact inFrames.elim
      · have zero : k = 0 := Nat.le_zero.mp ((orderly.first inFrames).1 ▸ order)
        subst zero
        exact orderly.first_frame inFrames waits saves
    · have same : s.step tx (.frame k saves) = s := if_neg comes
      rw [same]
      exact orderly
  | noise r =>
    by_cases detected : s.rx.detects r = true
    · have taken : s.step tx (.noise r) = s.recv true r := if_pos detected
      rw [taken]
      exact orderly.noise detected
    · have same : s.step tx (.noise r) = s := if_neg detected
      rw [same]
      exact orderly
  | reply p =>
    by_cases read : s.heard ≤ p ∧ p < s.replies.length
    · have taken : s.step tx (.reply p) =
          { s with heard := p, sent := if s.replies.getD p 0 = ack ∧ s.sent < tx.last then s.sent + 1 else s.sent } := if_pos read
      rw [taken]
      refine ⟨?_, orderly.begins, fun early => ?_, orderly.later⟩
      · have order := orderly.order
        dsimp only
        split
        all_goals omega
      · obtain ⟨sent, unacknowledged, fresh⟩ := orderly.first early
        refine ⟨?_, unacknowledged, fresh⟩
        have other : s.replies.getD p 0 ≠ ack := by
          rw [getD_eq_getElem?_getD, List.getElem?_eq_getElem read.2, Option.getD_some]
          exact fun same => unacknowledged (same ▸ getElem_mem read.2)
        exact (if_neg fun both => other both.1).trans sent
    · have same : s.step tx (.reply p) = s := if_neg read
      rw [same]
      exact orderly

lemma start_orderly (tx) : Orderly tx start := by
  refine ⟨Nat.le_refl _, nil_prefix, fun _ => ⟨rfl, by decide, rfl⟩, fun inFrames => inFrames.elim⟩

/-- In every run whose frames with the expected number are in order, the bytes that were saved are the beginning of the
file. -/
theorem saved_prefix (tx : Sending) (events : List Arrival) (inOrder : Along (step tx) (InOrder tx) start events) :
    Always (step tx) (PrefixSaved tx) start events := by
  have orderly : Always (step tx) (Orderly tx) start events :=
    inOrder.always (Orderly tx) (fun _ _ orderly guard => orderly.step guard) (start_orderly tx)
  intro n
  exact (orderly n).begins

instance (tx : Sending) (s : Transfer) (event : Arrival) : Decidable (s.InOrder tx event) :=
  match event with
  | .frame _ _ => inferInstanceAs (Decidable (_ → _))
  | .noise _ => .isTrue trivial
  | .reply _ => .isTrue trivial

def twoBlocks : Sending where
  file :=
    { name := [0x66]
      data := List.replicate 128 1 ++ [2]
      plain := by decide
      small := by rw [length_append, length_replicate]; decide }
  short := by decide
  heads _ := soh
  framed _ := rfl
  count := 2
  none := fun empty => absurd empty (cons_ne_nil _ _)

def silence : List Arrival := List.replicate 5 (.noise { data := [], failed := true })

theorem repeated_block_saved_once :
    Always (step twoBlocks) (PrefixSaved twoBlocks) start
      (silence ++ [.frame 0 true, .reply 6, .frame 1 true, .frame 1 true, .reply 8, .frame 2 true]) :=
  saved_prefix twoBlocks _ (by decide +kernel)

/-- The first block is not saved, and the receiver's `CAN` is lost. When the block comes again it is acknowledged, and
the second block is saved. -/
theorem unsaved_block_skipped :
    ∃ events, ¬ Always (step twoBlocks) (PrefixSaved twoBlocks) start events := by
  refine ⟨silence ++ [.frame 0 true, .reply 6, .frame 1 false, .frame 1 true, .reply 9, .frame 2 true], fun always => ?_⟩
  have skipped := always 11
  unfold PrefixSaved at skipped
  exact absurd skipped (by decide +kernel)

end Transfer

end LL320D.Ymodem
