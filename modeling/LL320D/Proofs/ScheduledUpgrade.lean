import LL320D.Proofs.OtaExclusive

/-! When the BLE front-end asks for the upgrade, and when the image stays as it is from then until the reset. -/

namespace LL320D.Dfu
open Library List OtaFlash

section

variable {isLast : Bool} {more : List Out} {len : Nat} {after : Ota} {out : Out} {p : Packet} {ret : Ret}

def Out.isError : Out → Bool
  | .response cmd data => cmd == dfuFileEnd && data.head? != some endRespOk
  | .message .fail => true
  | .message .timeout => true
  | _ => false

def OtaFlash.Gathers (s : OtaFlash) (len : Nat) : Prop :=
  s.bufOffset + len ≤ otaBufferSize → s.bufOffset + len < otaBufferSize ∧ s.totalWritten + len < s.fileSize

namespace Ota

def ReportsNoError (s after : Ota) : Prop := ∃ more, after.outs = s.outs ++ more ∧ ∀ out ∈ more, out.isError = false

/-- Once an upgrade is scheduled the image is neither erased nor written; and no error is reported
unless the BLE front-end has had another session. -/
def StaysValid (s : Ota) (event : DfuEvent) : Prop :=
  s.scheduled = true → (s.step event).flash.ops = s.flash.ops ∧ (s.renewed = false → s.ReportsNoError (s.step event))

def ImageHarmless (s : Ota) (len : Nat) : Prop := (s.flash.busy = false → s.renewed = true) ∧
    (s.flash.busy = true → len = 0 → s.flash.fileSize ≤ s.flash.totalWritten → s.flash.bufOffset = 0) ∧
    (s.flash.busy = true → len ≠ 0 →
      (otaBufferSize < (s.flash.bufOffset + len) % 2 ^ 32 → s.renewed = true) ∧ s.flash.Gathers len)

def Harmless (s : Ota) : DfuEvent → Prop
  | .command cmd p _ _ =>
    (cmd = dfuFileSize → s.renewed = true ∧ (s.flash.busy = false ∨ p.word 0 = 0 ∨ partitionSize < p.word 0)) ∧
    (cmd = dfuFileImage → p.Passes s.jimi.reqFileAddr → s.ImageHarmless p.imageLen)
  | .timeoutWork _ => s.jimi.timeoutWork = true → s.renewed = true
  | .lteSaveOpen fileSize _ => s.receiving = true → s.flash.busy = true → fileSize ≠ s.lte.totalSize
  | .lteSaveWrite data _ =>
    s.receiving = true → s.flash.busy = true → data.length ≠ 0 → s.flash.Gathers data.length
  | .lteSaveClose resultOk _ => s.receiving = true → s.flash.busy = true → resultOk = true → s.flash.bufOffset = 0
  | _ => True

def LeavesScheduled (s : Ota) (event : DfuEvent) : Prop := s.flash.overrun = false → s.scheduled = true → s.Harmless event

end Ota

namespace OtaFlash

variable (io : FlashIo) {s : OtaFlash}

lemma Flushes.ops {after : OtaFlash} (flushes : Flushes io s isLast (ret, after)) :
    after.ops = s.ops ↔ s.bufOffset = 0 ∧ isLast = false := by
  have grows : ∀ op : FlashOp, s.ops ++ [op] = s.ops ↔ False :=
    fun op => iff_of_false (fun same => cons_ne_nil _ _ (append_right_eq_self.mp same)) id
  cases flushes with
  | idle empty more => exact iff_of_true rfl ⟨empty, more⟩
  | failed _ _ due => exact (grows _).trans (iff_of_false id due)
  | flushed due => exact (grows _).trans (iff_of_false id due)

lemma Flushes.grown {after : OtaFlash} (flushes : Flushes io s isLast (ret, after)) :
    ∃ more, after.ops = s.ops ++ more := by
  cases flushes with
  | idle => exact ⟨[], (append_nil _).symm⟩
  | failed | flushed => exact ⟨_, rfl⟩

lemma close_grown (resultOk) : ∃ more, (s.close io resultOk).2.ops = s.ops ++ more := by
  have closes := s.close_closes io resultOk
  generalize s.close io resultOk = result at closes ⊢
  cases closes with
  | idle | dropped => exact ⟨[], (append_nil _).symm⟩
  | flushed ret after _ _ _ flushes => exact flushes.grown

lemma close_ops_ne {before : OtaFlash} {after : OtaFlash}
    (flushes : Flushes io before isLast (ret, after)) (due : before.bufOffset ≠ 0) (resultOk) :
    (after.close io resultOk).2.ops ≠ before.ops := by
  obtain ⟨more, grown⟩ := flushes.grown
  obtain ⟨later, closed⟩ := close_grown io (s := after) resultOk
  intro same
  rw [closed, grown, append_assoc, append_right_eq_self] at same
  rw [(append_eq_nil_iff.mp same).1, append_nil] at grown
  exact due ((Flushes.ops io flushes).mp grown).1

lemma close_ops (resultOk) :
    (s.close io resultOk).2.ops = s.ops ↔ (s.busy = true → resultOk = true → s.bufOffset = 0) := by
  have closes := s.close_closes io resultOk
  generalize s.close io resultOk = result at closes ⊢
  cases closes with
  | idle free => exact iff_of_true rfl (fun busy => absurd (free.symm.trans busy) Bool.false_ne_true)
  | dropped busy nothing =>
    refine iff_of_true rfl fun _ success => nothing.resolve_left ?_
    exact ne_false_of_eq_true success
  | flushed ret after busy success some flushes =>
    refine (Flushes.ops io flushes).trans ?_
    exact iff_of_false (fun idle => Nat.ne_of_gt some idle.1) (fun empty => Nat.ne_of_gt some (empty busy success))

lemma close_false_ops (s : OtaFlash) : (s.close io false).2.ops = s.ops :=
  (close_ops io false).mpr fun _ impossible => Bool.noConfusion impossible

lemma writeBlock_ops (busy : s.busy = true) (data : Nat → UInt8) (nonempty : len ≠ 0) :
    (s.writeBlock io data len).2.ops = s.ops ↔ s.Gathers len := by
  have unit : otaBufferSize = 1024 := rfl
  have writes := s.writeBlock_writes io data len
  generalize s.writeBlock io data len = result at writes ⊢
  unfold Gathers
  cases writes with
  | closed free => cases busy.symm.trans free
  | empty _ none => exact absurd none nonempty
  | overflow | fault => exact iff_of_true rfl (fun fits => by omega)
  | kept _ _ room more => exact iff_of_true rfl (fun _ => ⟨room, more⟩)
  | flushed ret last after _ _ fits due isLast flushes =>
    refine (Flushes.ops io flushes).trans (iff_of_false ?_ ?_)
    · exact fun idle => nonempty (Nat.eq_zero_of_add_eq_zero_left idle.1)
    · intro gathers
      obtain ⟨room, more⟩ := gathers fits
      rcases due with full | last
      · omega
      · rw [last] at isLast
        exact Nat.not_le.mpr more (decide_eq_true_eq.mp isLast.symm)

end OtaFlash

namespace Ota

variable {s : Ota}

lemma ReportsNoError.same (outs : after.outs = s.outs) : s.ReportsNoError after :=
  ⟨[], outs.trans (append_nil _).symm, nofun⟩

lemma ReportsNoError.not (outs : after.outs = s.outs ++ more)
    (member : out ∈ more) (error : out.isError = true) : ¬ s.ReportsNoError after := by
  rintro ⟨other, same, none⟩
  cases append_cancel_left (outs.symm.trans same)
  cases error.symm.trans (none out member)

lemma valid_error (ops : after.flash.ops = s.flash.ops)
    (outs : after.outs = s.outs ++ more) (member : out ∈ more) (error : out.isError = true) :
    (after.flash.ops = s.flash.ops ∧ (s.renewed = false → s.ReportsNoError after)) ↔ s.renewed = true := by
  constructor
  · intro valid
    exact eq_true_of_ne_false fun same => ReportsNoError.not outs member error (valid.2 same)
  · intro renewed
    exact ⟨ops, fun same => absurd (same.symm.trans renewed) Bool.false_ne_true⟩

lemma valid_silent (outs : after.outs = s.outs ++ more) (silent : ∀ out ∈ more, out.isError = false) :
    (after.flash.ops = s.flash.ops ∧ (s.renewed = false → s.ReportsNoError after)) ↔ after.flash.ops = s.flash.ops :=
  ⟨And.left, fun ops => ⟨ops, fun _ => ⟨more, outs, silent⟩⟩⟩

variable (io : FlashIo)

lemma takeFileSize_valid (size) :
    ((s.takeFileSize io size).flash.ops = s.flash.ops ∧ (s.renewed = false → s.ReportsNoError (s.takeFileSize io size))) ↔
      s.renewed = true ∧ (s.flash.busy = false ∨ size = 0 ∨ partitionSize < size) := by
  unfold takeFileSize
  dsimp only
  split
  next large =>
    exact (valid_error (close_false_ops io _) rfl mem_cons_self rfl).trans
      (and_iff_left (Or.inr (Or.inr large))).symm
  next =>
    have opens := s.flash.openFile_opens io size
    generalize s.flash.openFile io size = result at opens ⊢
    cases opens with
    | refused errno cause =>
      exact (valid_error (close_false_ops io _) rfl mem_cons_self rfl).trans (and_iff_left cause).symm
    | failed erased busy nonempty fits same =>
      refine iff_of_false (fun valid => same.ops_ne ?_) (fun allowed => ?_)
      · exact (close_false_ops io erased).symm.trans valid.1
      · rcases allowed.2 with free | empty | large
        · cases busy.symm.trans free
        · exact Nat.ne_of_gt nonempty empty
        · exact Nat.not_lt.mpr fits large
    | opened erased busy nonempty fits same =>
      refine iff_of_false (fun valid => same.ops_ne valid.1) (fun allowed => ?_)
      rcases allowed.2 with free | empty | large
      · cases busy.symm.trans free
      · exact Nat.ne_of_gt nonempty empty
      · exact Nat.not_lt.mpr fits large

lemma imageHarmless_closed (free : s.flash.busy = false) (len) : s.ImageHarmless len ↔ s.renewed = true := by
  have never := ne_true_of_eq_false free
  exact ⟨fun harmless => harmless.1 free,
    fun renewed => ⟨fun _ => renewed, fun busy => absurd busy never, fun busy => absurd busy never⟩⟩

lemma imageHarmless_empty (busy : s.flash.busy = true) (none : len = 0) :
    s.ImageHarmless len ↔ (s.flash.fileSize ≤ s.flash.totalWritten → s.flash.bufOffset = 0) :=
  ⟨fun harmless => harmless.2.1 busy none,
    fun empty => ⟨fun free => absurd (free.symm.trans busy) Bool.false_ne_true, fun _ _ => empty,
      fun _ some => absurd none some⟩⟩

lemma imageHarmless_some (busy : s.flash.busy = true) (some : len ≠ 0) : s.ImageHarmless len ↔
      (otaBufferSize < (s.flash.bufOffset + len) % 2 ^ 32 → s.renewed = true) ∧ s.flash.Gathers len :=
  ⟨fun harmless => harmless.2.2 busy some,
    fun gathers => ⟨fun free => absurd (free.symm.trans busy) Bool.false_ne_true, fun _ none => absurd none some,
      fun _ _ => gathers⟩⟩

lemma imageComplete_outs (s : Ota) : (s.imageComplete io).outs = s.outs ++
    [.response dfuFileEnd (codeResponse endRespOk), .bootRequestUpgrade, .message .complete, .scheduleReset 6500] := by
  simp only [imageComplete, bootRequest, bleClose, put, append_assoc, cons_append, nil_append]

lemma imageComplete_silent (s after : Ota) (outs : after.outs = s.outs) :
    ((after.imageComplete io).flash.ops = s.flash.ops ∧
        (s.renewed = false → s.ReportsNoError (after.imageComplete io))) ↔
      (after.imageComplete io).flash.ops = s.flash.ops := by
  refine valid_silent ((imageComplete_outs io after).trans (congrArg (· ++ _) outs)) ?_
  decide

lemma requestNext_silent (s after : Ota) (outs : after.outs = s.outs) (p) :
    ((after.requestNext p).flash.ops = s.flash.ops ∧ (s.renewed = false → s.ReportsNoError (after.requestNext p))) ↔
      after.flash.ops = s.flash.ops := by
  have grown : (after.requestNext p).outs = s.outs ++ [Out.response dfuFileImage _] := congrArg (· ++ _) outs
  refine valid_silent grown ?_
  intro out member
  cases mem_singleton.mp member
  rfl

lemma imageFailed_valid (s after : Ota) (outs : after.outs = s.outs) (ops : after.flash.ops = s.flash.ops) :
    ((after.imageFailed io).flash.ops = s.flash.ops ∧ (s.renewed = false → s.ReportsNoError (after.imageFailed io))) ↔
      s.renewed = true := by
  have grown : (after.imageFailed io).outs =
      s.outs ++ [Out.response dfuFileEnd (codeResponse endRespError), .message .fail] := by
    rw [← outs]
    exact append_assoc ..
  exact valid_error ((close_false_ops io _).trans ops) grown mem_cons_self rfl

lemma writeImage_valid (passes : p.Passes s.jimi.reqFileAddr) :
    ((s.writeImage io p).flash.ops = s.flash.ops ∧ (s.renewed = false → s.ReportsNoError (s.writeImage io p))) ↔
      s.ImageHarmless p.imageLen := by
  have unit : otaBufferSize = 1024 := rfl
  unfold writeImage
  rw [if_neg (not_not_intro passes)]
  dsimp only
  have writes := s.flash.writeBlock_writes io (fun i => p.data (8 + i)) p.imageLen
  generalize s.flash.writeBlock io (fun i => p.data (8 + i)) p.imageLen = result at writes ⊢
  cases writes with
  | closed free => exact (imageFailed_valid io s _ rfl rfl).trans (imageHarmless_closed free _).symm
  | empty busy none =>
    rw [imageHarmless_empty busy none]
    by_cases last : s.flash.fileSize ≤ s.flash.totalWritten
    · rw [decide_eq_true last, imp_iff_right last]
      refine (imageComplete_silent io s _ rfl).trans ((close_ops io true).trans ?_)
      exact ⟨fun empty => empty busy rfl, fun empty _ _ => empty⟩
    · rw [decide_eq_false last]
      exact (requestNext_silent s _ rfl p).trans (iff_of_true rfl (fun full => absurd full last))
  | overflow busy some large =>
    refine (imageFailed_valid io s _ rfl rfl).trans ?_
    rw [imageHarmless_some busy some, imp_iff_right large]
    refine (and_iff_left ?_).symm
    intro fits
    omega
  | fault busy some wrapped large =>
    rw [imageHarmless_some busy some]
    refine (valid_silent (append_nil _).symm nofun).trans ?_
    refine iff_of_true rfl ⟨?_, ?_⟩
    · exact fun wide => absurd wide (Nat.not_lt.mpr wrapped)
    · exact fun fits => absurd fits (Nat.not_le.mpr large)
  | kept busy some room more =>
    rw [imageHarmless_some busy some]
    apply Iff.trans (requestNext_silent s _ ?_ p)
    · refine iff_of_true rfl ⟨?_, fun _ => ⟨room, more⟩⟩
      intro wide
      omega
    · rfl
  | flushed ret last after busy some fits due isLast flushes =>
    have nonempty : (s.flash.copied (fun i => p.data (8 + i)) p.imageLen).bufOffset ≠ 0 :=
      fun empty => some (Nat.eq_zero_of_add_eq_zero_left empty)
    have changed : after.ops ≠ s.flash.ops := fun same => nonempty ((OtaFlash.Flushes.ops io flushes).mp same).1
    have closed := close_ops_ne io flushes nonempty
    have loud : ¬ s.ImageHarmless p.imageLen := by
      rw [imageHarmless_some busy some]
      intro harmless
      obtain ⟨room, more⟩ := harmless.2 fits
      rcases due with full | whole
      · omega
      · rw [whole] at isLast
        exact Nat.not_le.mpr more (decide_eq_true_eq.mp isLast.symm)
    cases ret with
    | err => exact iff_of_false (fun valid => closed false valid.1) loud
    | fault => exact iff_of_false (fun valid => changed valid.1) loud
    | ok =>
      cases last with
      | true => exact iff_of_false (fun valid => closed true valid.1) loud
      | false => exact iff_of_false (fun valid => changed valid.1) loud

lemma valid_iff {harmless : Prop} (silent : s.ReportsNoError after)
    (ops : after.flash.ops = s.flash.ops ↔ harmless) :
    (after.flash.ops = s.flash.ops ∧ (s.renewed = false → s.ReportsNoError after)) ↔ harmless :=
  ⟨fun valid => ops.mp valid.1, fun allowed => ⟨ops.mpr allowed, fun _ => silent⟩⟩

lemma ReportsNoError.one (outs : after.outs = s.outs ++ [out])
    (fine : out.isError = false) : s.ReportsNoError after := by
  refine ⟨[out], outs, ?_⟩
  intro other member
  cases mem_singleton.mp member
  exact fine

lemma bleStart_valid (percent) :
    (s.bleStart percent).flash.ops = s.flash.ops ∧ s.ReportsNoError (s.bleStart percent) := by
  unfold bleStart
  split
  · exact ⟨rfl, .one rfl rfl⟩
  · split
    · exact ⟨rfl, .same rfl⟩
    next free =>
      have occupied : s.flash.occupy.2 = { s.flash with busy := true } := by
        unfold occupy
        rw [if_neg free]
      refine ⟨(congrArg ops occupied).trans rfl, _, rfl, ?_⟩
      decide

lemma command_valid (cmd p percent) :
    ((s.dfuCmdHandler io cmd p percent).flash.ops = s.flash.ops ∧
        (s.renewed = false → s.ReportsNoError (s.dfuCmdHandler io cmd p percent))) ↔
      s.Harmless (.command cmd p percent io) := by
  simp only [dfuCmdHandler, Harmless]
  split
  next start =>
    subst start
    obtain ⟨ops, silent⟩ := bleStart_valid (s := s) percent
    refine valid_iff silent (iff_of_true ops ⟨?_, ?_⟩)
    · exact fun size => absurd size (by decide)
    · exact fun image => absurd image (by decide)
  split
  next size =>
    subst size
    refine (takeFileSize_valid io (p.word 0)).trans ?_
    rw [imp_iff_right rfl]
    exact (and_iff_left (fun image => absurd image (by decide))).symm
  next noSize =>
    rw [and_iff_right (fun size => absurd size noSize)]
    split
    next image =>
      rw [imp_iff_right image]
      by_cases passes : p.Passes s.jimi.reqFileAddr
      · rw [imp_iff_right passes]
        exact writeImage_valid io passes
      · have ignored : s.writeImage io p = s := if_pos passes
        rw [ignored]
        exact valid_iff (.same rfl) (iff_of_true rfl (fun again => absurd again passes))
    next noImage =>
      split
      · exact valid_iff (.one rfl rfl) (iff_of_true (close_false_ops io _) (fun image => absurd image noImage))
      · exact valid_iff (.same rfl) (iff_of_true rfl (fun image => absurd image noImage))

lemma saveOpen_valid (announced : s.Announced) (receiving : s.receiving = true) (fileSize) :
    (s.lteDfu.saveOpen io fileSize).2.flash.ops = s.flash.ops ↔ (s.flash.busy = true → fileSize ≠ s.lte.totalSize) := by
  have opens := s.lteDfu.saveOpen_opens io fileSize
  generalize s.lteDfu.saveOpen io fileSize = result at opens ⊢
  cases opens with
  | rejected sizeMismatch differs =>
    refine iff_of_true rfl fun _ => ?_
    rcases differs with negative | differs
    · have nonempty := (announced receiving).1
      omega
    · exact differs
  | passed ret flash same opens =>
    cases opens with
    | refused errno cause =>
      exact iff_of_true rfl fun busy => absurd cause (announced.not_refused receiving busy)
    | failed erased busy _ _ erases | opened erased busy _ _ erases =>
      exact iff_of_false erases.ops_ne (fun never => never busy same)

lemma saveWrite_valid (data : List UInt8) : (s.lteDfu.saveWrite io data).2.flash.ops = s.flash.ops ↔
      (s.flash.busy = true → data.length ≠ 0 → s.flash.Gathers data.length) := by
  unfold LteDfu.saveWrite
  by_cases empty : data.length = 0
  · rw [if_pos empty]
    exact iff_of_true rfl (fun _ some => absurd empty some)
  rw [if_neg empty]
  by_cases busy : s.flash.busy = true
  · rw [imp_iff_right busy, imp_iff_right empty]
    exact writeBlock_ops io busy (fun i => data.getD i 0) empty
  · refine iff_of_true ?_ (fun again => absurd again busy)
    have refused : s.lteDfu.flash.writeBlock io (fun i => data.getD i 0) data.length = ((.err .eio, false), s.flash) :=
      if_pos busy
    rw [refused]

lemma ltePrepare_valid (totalSize expectCrc) :
    (s.ltePrepare totalSize expectCrc).flash.ops = s.flash.ops ∧ s.ReportsNoError (s.ltePrepare totalSize expectCrc) := by
  unfold ltePrepare
  have prepares := s.lteDfu.prepare_prepares totalSize expectCrc
  generalize s.lteDfu.prepare totalSize expectCrc = result at prepares ⊢
  cases prepares with
  | refused reason failed =>
    cases reason with
    | ok => exact absurd rfl failed
    | _ => exact ⟨rfl, .one rfl rfl⟩
  | occupied => exact ⟨rfl, .one rfl rfl⟩

lemma lteFinish_valid (result) :
    (s.lteFinish io result).flash.ops = s.flash.ops ∧ s.ReportsNoError (s.lteFinish io result) := by
  have ops : (s.lteDfu.finish io result).2.flash.ops = s.flash.ops := by
    unfold LteDfu.finish
    split
    · rfl
    · exact close_false_ops io _
  unfold lteFinish
  generalize s.lteDfu.finish io result = finished at ops ⊢
  obtain ⟨reason, l⟩ := finished
  cases reason with
  | ok =>
    refine ⟨ops, [.bootRequestUpgrade, .scheduleReset 6500, .mcuOta .ok], append_assoc .., ?_⟩
    decide
  | busy | param | size | ymodem | crc | flash => exact ⟨ops, .one rfl rfl⟩

lemma stepRunning_valid (announced : s.Announced) (event) :
    ((s.stepRunning event).flash.ops = s.flash.ops ∧ (s.renewed = false → s.ReportsNoError (s.stepRunning event))) ↔
      s.Harmless event := by
  cases event with
  | command cmd p percent io => exact command_valid io cmd p percent
  | timerExpires =>
    simp only [stepRunning, Harmless, timerWaitCallback]
    split
    · split
      all_goals exact valid_iff (.same rfl) (iff_of_true rfl trivial)
    · exact valid_iff (.same rfl) (iff_of_true rfl trivial)
  | retryWork =>
    simp only [stepRunning, Harmless]
    split
    · exact valid_iff (.one rfl rfl) (iff_of_true rfl trivial)
    · exact valid_iff (.same rfl) (iff_of_true rfl trivial)
  | timeoutWork io =>
    simp only [stepRunning, Harmless]
    split
    next pending =>
      rw [imp_iff_right pending]
      have grown : (s.timeoutWorkHandler io).outs =
          s.outs ++ [Out.response dfuFileEnd (codeResponse endRespTimeOut), .message .timeout] := append_assoc ..
      exact valid_error (close_false_ops io _) grown mem_cons_self rfl
    next idle => exact valid_iff (.same rfl) (iff_of_true rfl (fun pending => absurd pending idle))
  | mtu => exact valid_iff (.same rfl) (iff_of_true rfl trivial)
  | ltePrepare totalSize expectCrc =>
    simp only [stepRunning, Harmless]
    split
    · exact valid_iff (.same rfl) (iff_of_true rfl trivial)
    · obtain ⟨ops, silent⟩ := ltePrepare_valid (s := s) totalSize expectCrc
      exact valid_iff silent (iff_of_true ops trivial)
  | lteSaveOpen fileSize io =>
    simp only [stepRunning, Harmless]
    split
    next receiving =>
      rw [imp_iff_right receiving]
      exact valid_iff (.same rfl) (saveOpen_valid io announced receiving fileSize)
    next idle => exact valid_iff (.same rfl) (iff_of_true rfl (fun receiving => absurd receiving idle))
  | lteSaveWrite data io =>
    simp only [stepRunning, Harmless]
    split
    next receiving =>
      rw [imp_iff_right receiving]
      exact valid_iff (.same rfl) (saveWrite_valid io data)
    next idle => exact valid_iff (.same rfl) (iff_of_true rfl (fun receiving => absurd receiving idle))
  | lteSaveClose resultOk io =>
    simp only [stepRunning, Harmless]
    split
    next receiving =>
      rw [imp_iff_right receiving]
      exact valid_iff (.same rfl) (close_ops io resultOk)
    next idle => exact valid_iff (.same rfl) (iff_of_true rfl (fun receiving => absurd receiving idle))
  | lteFinish result io =>
    simp only [stepRunning, Harmless]
    split
    · obtain ⟨ops, silent⟩ := lteFinish_valid (s := s) io result
      exact valid_iff silent (iff_of_true ops trivial)
    · exact valid_iff (.same rfl) (iff_of_true rfl trivial)

omit io in
lemma staysValid_iff (announced : s.Announced) (event) : s.StaysValid event ↔ s.LeavesScheduled event := by
  unfold StaysValid LeavesScheduled
  by_cases running : s.flash.overrun = false
  · have taken : s.step event = s.stepRunning event := if_neg (ne_true_of_eq_false running)
    rw [taken, imp_iff_right running]
    exact imp_congr_right fun _ => stepRunning_valid announced event
  · have stuck : s.step event = s := if_pos (eq_true_of_ne_false running)
    rw [stuck]
    exact iff_of_true (fun _ => ⟨rfl, fun _ => .same rfl⟩) (fun sound => absurd sound running)

omit io in
lemma step_announced (announced : s.Announced) (event) : (s.step event).Announced := by
  by_cases running : s.flash.overrun = false
  · cases lte : event.byLte with
    | false =>
      have keeps := (ble_step running lte).2.2
      unfold Announced
      rw [keeps.receiving, keeps.lte]
      exact announced
    | true => exact (lte_step running lte announced).announced
  · have stuck : s.step event = s := if_pos (eq_true_of_ne_false running)
    rw [stuck]
    exact announced

/-- A scheduled upgrade stays valid exactly in the runs in which every step after
`boot_request_upgrade` is harmless. -/
theorem scheduled_upgrade_valid_iff (image : Image) (mtu : Nat) (events : List DfuEvent) :
    Along step StaysValid (init image mtu) events ↔ Along step LeavesScheduled (init image mtu) events :=
  along_congr Announced (fun _ event announced => step_announced announced event)
    (fun _ event announced => staysValid_iff announced event) (init_owned image mtu).announced

lemma step_fileImage (running : s.flash.overrun = false) (p percent) :
    s.step (.command dfuFileImage p percent io) = s.writeImage io p :=
  if_neg (ne_true_of_eq_false running)

/-- The part that completes the image, sent once more: the session is over and the requested
address is still the same, so the part passes its checks and cannot be written. -/
lemma repeated_part_fails (passes : p.Passes s.jimi.reqFileAddr)
    (last : (s.flash.writeBlock io (fun i => p.data (8 + i)) p.imageLen).1 = (.ok, true)) (again) :
    (s.writeImage io p).flash.overrun = s.flash.overrun ∧ (s.writeImage io p).scheduled = true ∧
      (s.writeImage io p).renewed = false ∧
      ((s.writeImage io p).writeImage again p).outs = (s.writeImage io p).outs ++
        [.response dfuFileEnd (codeResponse endRespError), .message .fail] := by
  obtain ⟨after, complete, address, overrun⟩ : ∃ after : Ota, s.writeImage io p = after.imageComplete io ∧
      after.jimi.reqFileAddr = s.jimi.reqFileAddr ∧ after.flash.overrun = s.flash.overrun := by
    have overrun := writeBlock_overrun io (by rw [last]; exact nofun)
    unfold writeImage
    rw [if_neg (not_not_intro passes)]
    dsimp only
    generalize s.flash.writeBlock io (fun i => p.data (8 + i)) p.imageLen = result at last overrun ⊢
    obtain ⟨answer, flash⟩ := result
    cases last
    exact ⟨_, rfl, rfl, overrun⟩
  rw [complete]
  refine ⟨(close_overrun io after.flash true).trans overrun, rfl, rfl, ?_⟩
  have free : (after.imageComplete io).flash.busy = false := close_busy io after.flash true
  have same : (after.imageComplete io).jimi.reqFileAddr = s.jimi.reqFileAddr := address
  generalize after.imageComplete io = finished at free same ⊢
  unfold writeImage
  rw [if_neg (not_not_intro (same ▸ passes))]
  dsimp only
  have refused : finished.flash.writeBlock again (fun i => p.data (8 + i)) p.imageLen = ((.err .eio, false), finished.flash) :=
    if_pos (ne_true_of_eq_false free)
  rw [refused]
  exact append_assoc ..

end Ota

/-- `FILE_SIZE` for an image of 16 bytes. -/
def sixteenBytes : Packet := { data := fun i => if i = 0 then 16 else 0, len := 4 }

/-- `FILE_IMAGE` with 16 zero bytes at address 0; their check value is 0. -/
def onlyPart : Packet := { data := fun i => if i = 4 then 16 else 0, len := 26 }

namespace Ota

def sessionOpened : Ota :=
  [DfuEvent.command dfuStart emptyPacket 100 .good, .command dfuFileSize sixteenBytes 100 .good].foldl step
    (init (fun _ => 0xFF) 247)

/-- A session of one part completes, and the part is sent once more because the peer has missed the
answer: an error response and `MY_MSG_DFU_FAIL` follow. -/
theorem repeated_last_packet_reported :
    let complete := sessionOpened.step (.command dfuFileImage onlyPart 100 .good)
    complete.scheduled = true ∧ complete.renewed = false ∧
      (complete.step (.command dfuFileImage onlyPart 100 .good)).outs =
        complete.outs ++ [.response dfuFileEnd (codeResponse endRespError), .message .fail] ∧
      ¬ complete.StaysValid (.command dfuFileImage onlyPart 100 .good) := by
  have passes : onlyPart.Passes sessionOpened.jimi.reqFileAddr := by decide +kernel
  have last : (sessionOpened.flash.writeBlock .good (fun i => onlyPart.data (8 + i)) onlyPart.imageLen).1 = (.ok, true) :=
    OtaFlash.writeBlock_good (by decide) (by decide +kernel) (by decide) (by decide)
  obtain ⟨overrun, scheduled, renewed, outs⟩ := repeated_part_fails .good passes last .good
  have running : sessionOpened.flash.overrun = false := by decide
  have first := step_fileImage .good running onlyPart 100
  have second := step_fileImage .good (overrun.trans running) onlyPart 100
  rw [first]
  generalize sessionOpened.writeImage .good onlyPart = complete at scheduled renewed outs second ⊢
  rw [← second] at outs
  refine ⟨scheduled, renewed, outs, ?_⟩
  intro valid
  exact ReportsNoError.not outs mem_cons_self rfl ((valid scheduled).2 renewed)

end Ota

end

def Spans : Nat → List Piece → Nat → Prop
  | start, [], stop => start = stop
  | start, piece :: rest, stop => piece.addr = start ∧ Spans (start + piece.data.length) rest stop

/-- The image was given a size and the parts cover it; their check values are right, and each
access to flash since then is a block that was written. -/
structure BleSession.Sound (session : BleSession) (ops : List FlashOp) : Prop where
  covered : ∃ size stop, session.opened = some size ∧ Spans 0 session.pieces stop ∧ size ≤ stop
  checked : ∀ piece ∈ session.pieces, crc16 piece.data = piece.crc
  flushed : ∀ op ∈ ops.drop session.firstOp, ∃ addr, op = .flush addr true

/-- The image is complete with these bytes: the session is open, they reach its size, and if there are any, they fit the
buffer, and the driver writes and reads back a block with its check value. -/
structure OtaFlash.Finishes (s : OtaFlash) (io : FlashIo) (data : Nat → UInt8) (len : Nat) : Prop where
  busy : s.busy = true
  reaches : s.fileSize ≤ s.totalWritten + len
  fits : len ≠ 0 → s.bufOffset + len ≤ otaBufferSize
  driver : len ≠ 0 → io.write = true ∧ io.read = true ∧
    crc16 (s.copied data len).block = crc16 ((s.copied data len).readBack io)

lemma OtaFlash.Finishes.complete {s : OtaFlash} {io data len} (finishes : s.Finishes io data len) :
    (s.writeBlock io data len).1 = (.ok, true) := by
  have last : decide (s.fileSize ≤ s.totalWritten + len) = true := decide_eq_true finishes.reaches
  unfold writeBlock
  rw [if_neg (not_not_intro finishes.busy)]
  by_cases none : len = 0
  · rw [if_pos none]
    rw [none, Nat.add_zero] at last
    rw [last]
  have fits := finishes.fits none
  obtain ⟨write, read, checked⟩ := finishes.driver none
  have same : (s.copied data len).fileSize ≤ (s.copied data len).totalWritten := finishes.reaches
  rw [if_neg none, if_neg (Nat.not_lt.mpr (Nat.le_trans (Nat.mod_le _ _) fits)), if_neg (Nat.not_lt.mpr fits)]
  simp only [same, decide_true, or_true, if_true, flush, not_true_eq_false, and_false, if_false, write, read, or_self,
    checked, ne_eq]

lemma OtaFlash.finishes_iff (s : OtaFlash) (io data len) :
    s.Finishes io data len ↔ (s.writeBlock io data len).1 = (.ok, true) := by
  refine ⟨Finishes.complete, fun complete => ?_⟩
  have writes := s.writeBlock_writes io data len
  generalize s.writeBlock io data len = result at writes complete
  cases writes with
  | closed | overflow | fault | kept => cases complete
  | empty busy none =>
    have reaches := of_decide_eq_true (congrArg Prod.snd complete)
    exact ⟨busy, by omega, fun some => absurd none some, fun some => absurd none some⟩
  | flushed ret last after busy some fits due isLast flushes =>
    cases complete
    cases flushes with
    | idle empty => exact absurd (Nat.eq_zero_of_add_eq_zero_left empty) some
    | flushed _ write read checked =>
      exact ⟨busy, of_decide_eq_true isLast.symm, fun _ => fits, fun _ => ⟨write, read, checked⟩⟩

namespace Ota

def BootSound (s : Ota) (event : DfuEvent) : Prop :=
  .bootRequestUpgrade ∈ (s.step event).outs.drop s.outs.length → (s.step event).session.Sound (s.step event).flash.ops

def Completes (s : Ota) : DfuEvent → Prop
  | .command cmd p _ io => cmd = dfuFileImage ∧ p.Passes s.jimi.reqFileAddr ∧
      s.flash.Finishes io (fun i => p.data (8 + i)) p.imageLen
  | _ => False

/-- A part completes the image only after `FILE_SIZE` has succeeded since `START`. -/
def SizeGiven (s : Ota) (event : DfuEvent) : Prop :=
  s.flash.overrun = false → s.Completes event → s.session.opened ≠ none

/-- The parts of an image of `size` bytes come in. -/
structure Receives (s : Ota) (size : Nat) : Prop where
  fits : size ≤ partitionSize
  fileSize : s.flash.fileSize = size
  more : s.flash.totalWritten < size
  address : s.jimi.reqFileAddr = s.flash.totalWritten
  spans : Spans 0 s.session.pieces s.flash.totalWritten
  checked : ∀ piece ∈ s.session.pieces, crc16 piece.data = piece.crc
  since : s.session.firstOp ≤ s.flash.ops.length
  flushed : ∀ op ∈ s.flash.ops.drop s.session.firstOp, ∃ addr, op = .flush addr true

def Receiving (s : Ota) : Prop := s.flash.busy = true → ∀ size, s.session.opened = some size → s.Receives size

def Quiet (s after : Ota) : Prop := ∃ more, after.outs = s.outs ++ more ∧ Out.bootRequestUpgrade ∉ more

end Ota

lemma Spans.append {start middle : Nat} {pieces : List Piece} {piece : Piece} (spans : Spans start pieces middle)
    (next : piece.addr = middle) : Spans start (pieces ++ [piece]) (middle + piece.data.length) := by
  induction pieces generalizing start with
  | nil =>
    cases spans
    exact ⟨next, rfl⟩
  | cons first pieces ih => exact ⟨spans.1, ih spans.2⟩

structure Taken (s : OtaFlash) (len : Nat) (after : OtaFlash) : Prop where
  fits : len ≤ otaBufferSize
  opened : s.busy = true
  busy : after.busy = true
  fileSize : after.fileSize = s.fileSize
  total : after.totalWritten = s.totalWritten + len
  ops : after.ops = s.ops ∨ ∃ addr, after.ops = s.ops ++ [.flush addr true]

lemma writeBlock_taken (io : FlashIo) (s : OtaFlash) (data : Nat → UInt8) (len : Nat) (last : Bool)
    (taken : (s.writeBlock io data len).1 = (.ok, last)) :
    Taken s len (s.writeBlock io data len).2 ∧ last = decide (s.fileSize ≤ s.totalWritten + len) ∧
      (last = true → len ≠ 0 → (s.writeBlock io data len).2.bufOffset = 0) := by
  have unit : otaBufferSize = 1024 := rfl
  have writes := s.writeBlock_writes io data len
  generalize s.writeBlock io data len = result at writes taken ⊢
  cases writes with
  | closed | overflow | fault => cases taken
  | empty busy none =>
    cases taken
    subst none
    exact ⟨⟨Nat.zero_le _, busy, busy, rfl, rfl, Or.inl rfl⟩, rfl, fun _ some => absurd rfl some⟩
  | kept busy some room more =>
    cases taken
    exact ⟨⟨by omega, busy, busy, rfl, rfl, Or.inl rfl⟩, (decide_eq_false (Nat.not_le.mpr more)).symm, nofun⟩
  | flushed ret isLast after busy some fits due complete flushes =>
    cases taken
    refine (?_ : Taken s len after ∧ (_ → after.bufOffset = 0)).imp id fun empty => ⟨complete, fun _ => empty⟩
    cases flushes with
    | idle empty => exact absurd (Nat.eq_zero_of_add_eq_zero_left empty) some
    | flushed => exact ⟨⟨by omega, busy, busy, rfl, rfl, Or.inr ⟨_, rfl⟩⟩, fun _ => rfl⟩

namespace Packet

variable {p : Packet}

lemma piece_length (p : Packet) : p.piece.data.length = p.imageLen := by
  simp only [piece, length_map, length_range]

lemma piece_checked {reqFileAddr : Nat} (passes : p.Passes reqFileAddr) (fits : p.imageLen ≤ otaBufferSize) :
    crc16 p.piece.data = p.piece.crc := by
  have unit : otaBufferSize = 1024 := rfl
  have whole : p.imageLen % 2 ^ 16 = p.imageLen := Nat.mod_eq_of_lt (by omega)
  have calculated : p.calcCrc = p.rxCrc := passes.2.1
  unfold calcCrc at calculated
  rw [whole] at calculated
  exact calculated

end Packet

namespace Ota

variable {s : Ota}

lemma Quiet.same {after : Ota} (outs : after.outs = s.outs) : s.Quiet after :=
  ⟨[], outs.trans (append_nil _).symm, not_mem_nil⟩

lemma Quiet.bootSound {event : DfuEvent} (quiet : s.Quiet (s.step event)) : s.BootSound event := by
  obtain ⟨more, outs, none⟩ := quiet
  intro boots
  rw [outs, drop_left] at boots
  exact absurd boots none

section

variable (io : FlashIo) {after : Ota} {p : Packet} {event : DfuEvent}

lemma Receiving.kept (receiving : s.Receiving) (flash : ∃ overrun, after.flash = { s.flash with overrun })
    (session : after.session = s.session) (address : after.jimi.reqFileAddr = s.jimi.reqFileAddr) : after.Receiving := by
  obtain ⟨overrun, flash⟩ := flash
  intro busy size opened
  rw [flash] at busy
  rw [session] at opened
  have receives := receiving busy size opened
  constructor
  · exact receives.fits
  · rw [flash]; exact receives.fileSize
  · rw [flash]; exact receives.more
  · rw [address, flash]; exact receives.address
  · rw [session, flash]; exact receives.spans
  · rw [session]; exact receives.checked
  · rw [session, flash]; exact receives.since
  · rw [session, flash]; exact receives.flushed

lemma Receiving.closed (released : after.flash.busy = false) : after.Receiving := by
  intro busy
  cases released.symm.trans busy

lemma bleStart_receiving (receiving : s.Receiving) (percent : Nat) :
    s.Quiet (s.bleStart percent) ∧ (s.bleStart percent).Receiving := by
  unfold bleStart
  split
  · exact ⟨⟨_, rfl, by decide⟩, receiving.kept ⟨_, rfl⟩ rfl rfl⟩
  split
  · exact ⟨.same rfl, receiving⟩
  · refine ⟨⟨_, rfl, by decide⟩, ?_⟩
    intro _ size opened
    cases opened

lemma firstRequest_receiving {fileSize : Nat} (fits : fileSize ≤ partitionSize) (nonempty : 0 < fileSize)
    (given : s.flash.fileSize = fileSize) (none : s.flash.totalWritten = 0) :
    s.Quiet (s.firstRequest fileSize) ∧ (s.firstRequest fileSize).Receiving := by
  refine ⟨⟨[_], rfl, fun member => Out.noConfusion (mem_singleton.mp member)⟩, ?_⟩
  intro _ size opened
  cases opened
  constructor
  · exact fits
  · exact given
  · exact none ▸ nonempty
  · exact none.symm
  · exact none.symm
  · exact fun _ member => absurd member not_mem_nil
  · exact Nat.le_refl _
  · intro op member
    have empty : op ∈ [] := (drop_length (l := s.flash.ops)) ▸ member
    exact absurd empty not_mem_nil

lemma takeFileSize_receiving (fileSize : Nat) :
    s.Quiet (s.takeFileSize io fileSize) ∧ (s.takeFileSize io fileSize).Receiving := by
  unfold takeFileSize
  dsimp only
  split
  · exact ⟨⟨_, rfl, by decide⟩, .closed (close_busy io _ false)⟩
  have opens := s.flash.openFile_opens io fileSize
  generalize s.flash.openFile io fileSize = result at opens ⊢
  cases opens with
  | refused | failed => exact ⟨⟨_, rfl, by decide⟩, .closed (close_busy io _ false)⟩
  | opened erased busy nonempty fits same =>
    exact firstRequest_receiving fits nonempty rfl rfl

section

variable {flash : OtaFlash} {p : Packet} {size : Nat}

lemma Receives.checked_append (receives : s.Receives size) (passes : p.Passes s.jimi.reqFileAddr)
    (taken : Taken s.flash p.imageLen flash) :
    ∀ piece ∈ s.session.pieces ++ [p.piece], crc16 piece.data = piece.crc := by
  intro piece member
  rcases mem_append.mp member with earlier | last
  · exact receives.checked piece earlier
  · cases mem_singleton.mp last
    exact Packet.piece_checked passes taken.fits

lemma Receives.flushed_append (receives : s.Receives size) (taken : Taken s.flash p.imageLen flash) :
    ∀ op ∈ flash.ops.drop s.session.firstOp, ∃ addr, op = .flush addr true := by
  rcases taken.ops with same | ⟨addr, grown⟩
  · exact same ▸ receives.flushed
  · intro op member
    rw [grown, drop_append_of_le_length receives.since, mem_append, mem_singleton] at member
    rcases member with earlier | rfl
    · exact receives.flushed op earlier
    · exact ⟨addr, rfl⟩

lemma Receives.next (receives : s.Receives size) (passes : p.Passes s.jimi.reqFileAddr)
    (taken : Taken s.flash p.imageLen flash) (more : s.flash.totalWritten + p.imageLen < s.flash.fileSize) :
    ((s.accept flash p).requestNext p).Receives size := by
  have limit : partitionSize < 2 ^ 32 := by decide
  have address := passes.2.2.trans receives.address
  constructor
  · exact receives.fits
  · exact taken.fileSize.trans receives.fileSize
  · exact Nat.lt_of_le_of_lt (Nat.le_of_eq taken.total) (receives.fileSize ▸ more)
  · refine Eq.trans ?_ taken.total.symm
    rw [← address]
    refine Nat.mod_eq_of_lt ?_
    have := receives.fits
    have := receives.fileSize
    omega
  · refine Eq.subst (motive := fun stop => Spans 0 (s.session.pieces ++ [p.piece]) stop) ?_ (receives.spans.append address)
    rw [p.piece_length]
    exact taken.total.symm
  · exact receives.checked_append passes taken
  · rcases taken.ops with same | ⟨addr, grown⟩
    · exact same ▸ receives.since
    · refine Nat.le_trans receives.since ?_
      refine Nat.le_trans ?_ (Nat.le_of_eq (congrArg List.length grown).symm)
      exact length_append ▸ Nat.le_add_right _ _
  · exact receives.flushed_append taken

end

lemma writeImage_receiving (receiving : s.Receiving)
    (more : p.Passes s.jimi.reqFileAddr → (s.flash.writeBlock io (fun i => p.data (8 + i)) p.imageLen).1 ≠ (.ok, true)) :
    s.Quiet (s.writeImage io p) ∧ (s.writeImage io p).Receiving := by
  unfold writeImage
  by_cases passes : p.Passes s.jimi.reqFileAddr
  case neg =>
    rw [if_pos passes]
    exact ⟨.same rfl, receiving⟩
  rw [if_neg (not_not_intro passes)]
  dsimp only
  replace more := more passes
  have block := writeBlock_taken io s.flash (fun i => p.data (8 + i)) p.imageLen
  have writes := s.flash.writeBlock_writes io (fun i => p.data (8 + i)) p.imageLen
  generalize s.flash.writeBlock io (fun i => p.data (8 + i)) p.imageLen = result at more block writes ⊢
  obtain ⟨⟨ret, last⟩, flash⟩ := result
  cases ret with
  | fault =>
    cases writes with
    | fault => exact ⟨.same rfl, receiving.kept ⟨_, rfl⟩ rfl rfl⟩
    | flushed _ _ _ _ _ _ _ _ flushes => cases flushes
  | err => exact ⟨⟨_, append_assoc .., by decide⟩, .closed (close_busy io flash false)⟩
  | ok =>
    cases last with
    | true => exact absurd rfl more
    | false =>
      refine ⟨⟨_, rfl, by simp⟩, ?_⟩
      intro _ size opened
      obtain ⟨taken, incomplete, -⟩ := block false rfl
      refine (?_ : s.Receives size).next passes taken (Nat.not_le.mp (of_decide_eq_false incomplete.symm))
      exact receiving taken.opened size opened

lemma writeImage_complete (receiving : s.Receiving) (passes : p.Passes s.jimi.reqFileAddr)
    (last : (s.flash.writeBlock io (fun i => p.data (8 + i)) p.imageLen).1 = (.ok, true)) :
    .bootRequestUpgrade ∈ (s.writeImage io p).outs.drop s.outs.length ∧ (s.writeImage io p).Receiving ∧
      ((s.writeImage io p).session.Sound (s.writeImage io p).flash.ops ↔ s.session.opened ≠ none) := by
  have block := writeBlock_taken io _ _ _ _ last
  unfold writeImage
  rw [if_neg (not_not_intro passes)]
  dsimp only
  generalize s.flash.writeBlock io (fun i => p.data (8 + i)) p.imageLen = result at last block ⊢
  obtain ⟨answer, flash⟩ := result
  cases last
  obtain ⟨taken, complete, empty⟩ := block
  have whole := of_decide_eq_true complete.symm
  refine ⟨?_, .closed (close_busy io flash true), ?_⟩
  · have outs : ((s.accept flash p).imageComplete io).outs = s.outs ++ [Out.response dfuFileEnd (codeResponse endRespOk),
        .bootRequestUpgrade, .message .complete, .scheduleReset 6500] :=
      (congrArg (· ++ _) (append_assoc ..)).trans (append_assoc ..)
    refine (congrArg (Out.bootRequestUpgrade ∈ List.drop _ ·) outs).mpr ?_
    rw [drop_left]
    exact mem_cons_of_mem _ mem_cons_self
  constructor
  · intro sound opened
    obtain ⟨size, stop, given, -⟩ := sound.covered
    cases opened.symm.trans given
  · intro opened
    obtain ⟨size, given⟩ := Option.ne_none_iff_exists'.mp opened
    have receives := receiving taken.opened size given
    have some : p.imageLen ≠ 0 := by
      intro none
      have := receives.more
      have := receives.fileSize
      omega
    have quiet : (flash.close io true).2.ops = flash.ops := (close_ops io true).mpr fun _ _ => empty rfl some
    constructor
    · refine ⟨size, _, given, receives.spans.append (passes.2.2.trans receives.address), ?_⟩
      rw [p.piece_length, ← receives.fileSize]
      exact whole
    · exact receives.checked_append passes taken
    · exact (quiet ▸ receives.flushed_append taken :)

omit io in
lemma stepRunning_receiving (receiving : s.Receiving) (ble : event.byLte = false)
    (more : ¬ s.Completes event) : s.Quiet (s.stepRunning event) ∧ (s.stepRunning event).Receiving := by
  cases event with
  | command cmd p percent io =>
    unfold stepRunning dfuCmdHandler
    dsimp only
    by_cases start : cmd = dfuStart
    · rw [if_pos start]
      exact bleStart_receiving receiving percent
    rw [if_neg start]
    by_cases fileSize : cmd = dfuFileSize
    · rw [if_pos fileSize]
      exact takeFileSize_receiving io _
    rw [if_neg fileSize]
    by_cases fileImage : cmd = dfuFileImage
    · rw [if_pos fileImage]
      exact writeImage_receiving io receiving fun passes last => more ⟨fileImage, passes, (finishes_iff ..).mpr last⟩
    rw [if_neg fileImage]
    split
    · exact ⟨⟨_, rfl, by decide⟩, .closed (close_busy io _ false)⟩
    · exact ⟨.same rfl, receiving⟩
  | timerExpires =>
    unfold stepRunning timerWaitCallback
    dsimp only
    split
    · split
      all_goals exact ⟨.same rfl, receiving.kept ⟨_, rfl⟩ rfl rfl⟩
    · exact ⟨.same rfl, receiving⟩
  | retryWork =>
    unfold stepRunning
    dsimp only
    split
    · refine ⟨⟨[_], rfl, fun member => Out.noConfusion (mem_singleton.mp member)⟩, receiving.kept ⟨_, rfl⟩ rfl rfl⟩
    · exact ⟨.same rfl, receiving⟩
  | timeoutWork io =>
    unfold stepRunning
    dsimp only
    split
    · exact ⟨⟨_, append_assoc .., by decide⟩, .closed (close_busy io _ false)⟩
    · exact ⟨.same rfl, receiving⟩
  | mtu => exact ⟨.same rfl, receiving.kept ⟨_, rfl⟩ rfl rfl⟩
  | ltePrepare | lteSaveOpen | lteSaveWrite | lteSaveClose | lteFinish => cases ble

omit io in
lemma step_receiving (receiving : s.Receiving) (ble : event.byLte = false) :
    (s.step event).Receiving ∧ (s.BootSound event ↔ s.SizeGiven event) := by
  by_cases running : s.flash.overrun = false
  case neg =>
    have stuck : s.step event = s := if_pos (eq_true_of_ne_false running)
    refine ⟨?_, iff_of_true (Quiet.bootSound (.same (congrArg Ota.outs stuck))) fun sound => absurd sound running⟩
    rw [stuck]
    exact receiving
  by_cases completes : s.Completes event
  case neg =>
    have taken : s.step event = s.stepRunning event := if_neg (ne_true_of_eq_false running)
    obtain ⟨quiet, after⟩ := stepRunning_receiving receiving ble completes
    exact ⟨taken ▸ after, iff_of_true (Quiet.bootSound (taken ▸ quiet)) fun _ complete => absurd complete completes⟩
  cases event with
  | command cmd p percent io =>
    obtain ⟨rfl, passes, finishes⟩ := completes
    have taken := step_fileImage io running p percent
    obtain ⟨boots, after, sound⟩ := writeImage_complete io receiving passes ((finishes_iff ..).mp finishes)
    refine ⟨taken ▸ after, ?_⟩
    unfold BootSound SizeGiven
    rw [taken, imp_iff_right boots, imp_iff_right running, imp_iff_right ⟨rfl, passes, finishes⟩]
    exact sound
  | _ => exact completes.elim

end

/-- Whatever the peer sends: the upgrade is always requested for a sound session exactly in the runs in
which a part completes the image only after a size was given since `START`. -/
theorem boot_request_sound_iff (image : Image) (mtu : Nat) (events : List DfuEvent)
    (ble : ∀ event ∈ events, event.byLte = false) :
    Along step BootSound (init image mtu) events ↔ Along step SizeGiven (init image mtu) events :=
  along_congr_on Receiving (fun _ _ receiving ble => (step_receiving receiving ble).1)
    (fun _ _ receiving ble => (step_receiving receiving ble).2) (.closed rfl) ble

theorem one_part_boot_sound : Along step BootSound (init (fun _ => 0xFF) 247) [.command dfuStart emptyPacket 100 .good,
      .command dfuFileSize sixteenBytes 100 .good, .command dfuFileImage onlyPart 100 .good] := by
  refine (boot_request_sound_iff _ _ _ ?_).mpr ⟨?_, ?_, ?_, trivial⟩
  · simp [DfuEvent.byLte]
  · exact fun _ completes => absurd completes.1 (by decide)
  · exact fun _ completes => absurd completes.1 (by decide)
  · exact fun _ _ => Option.some_ne_none 16

theorem boot_without_file_size :
    let s := (init (fun _ => 0xFF) 247).step (.command dfuStart emptyPacket 100 .good)
    let part := DfuEvent.command dfuFileImage { data := fun _ => 0, len := 10 } 100 .good
    .bootRequestUpgrade ∈ (s.step part).outs ∧ (s.step part).session.opened = none ∧ ¬ s.BootSound part := by
  refine ⟨by decide +kernel, rfl, ?_⟩
  intro sound
  obtain ⟨size, _, opened, _⟩ := (sound (by decide +kernel)).covered
  cases opened

end Ota

end LL320D.Dfu
