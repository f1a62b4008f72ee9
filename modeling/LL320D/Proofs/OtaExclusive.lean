import LL320D.Proofs.OtaSession

/-! Who may touch the OTA session. The busy flag tells that there is a session and not whose it is. -/

namespace LL320D.Dfu
open Library List

variable {holds : Bool} {event : DfuEvent} {after erased flash : OtaFlash} {quiet : Prop} {s : OtaFlash}

def OtaFlash.cache (s : OtaFlash) : List UInt8 × Nat × Nat × Nat × Nat × Bool :=
  (s.buf, s.bufOffset, s.blockAddr, s.totalWritten, s.fileSize, s.overrun)

/-- Nothing is written, and the cache is as it was. -/
structure Undisturbed (before after : OtaFlash) : Prop where
  ops : after.ops = before.ops
  cache : after.cache = before.cache
  held : before.busy = true → after.busy = true

def DfuEvent.byLte : DfuEvent → Bool
  | .ltePrepare .. | .lteSaveOpen .. | .lteSaveWrite .. | .lteSaveClose .. | .lteFinish .. => true
  | _ => false

namespace Ota

def Exclusive (s : Ota) (event : DfuEvent) : Prop :=
  (s.lteHolds = true → event.byLte = false → Undisturbed s.flash (s.step event).flash) ∧
    (s.bleHolds = true → event.byLte = true → Undisturbed s.flash (s.step event).flash)

def BleKeepsOut (s : Ota) : DfuEvent → Prop
  | .command cmd p _ _ => cmd ≠ dfuFileSize ∧ cmd ≠ dfuFileEnd ∧
      (cmd = dfuFileImage → p.Passes s.jimi.reqFileAddr → p.imageLen = 0 ∧ s.flash.totalWritten < s.flash.fileSize)
  | .timeoutWork _ => s.jimi.timeoutWork = false
  | _ => True

def LteKeepsOut (s : Ota) : DfuEvent → Prop
  | .lteSaveOpen fileSize _ => s.receiving = true → fileSize ≠ s.lte.totalSize
  | .lteSaveWrite data _ =>
    s.receiving = true → data.length = 0 ∨ otaBufferSize < (s.flash.bufOffset + data.length) % 2 ^ 32
  | .lteSaveClose _ _ => s.receiving = false
  | .lteFinish result _ => s.receiving = true → s.lte.verdict result = .ok
  | _ => True

def KeepsOut (s : Ota) (event : DfuEvent) : Prop :=
  s.flash.overrun = false → (s.lteHolds = true → s.BleKeepsOut event) ∧ (s.bleHolds = true → s.LteKeepsOut event)

end Ota

/-- What a step does to the flash module. -/
inductive Uses (flash : OtaFlash) (holds : Bool) : OtaFlash → Bool → Prop where
  | same : Uses flash holds flash holds
  | occupied (free : flash.busy = false) : Uses flash holds { flash with busy := true } true
  | changed (after : OtaFlash) (busy : flash.busy = true) (still : after.busy = true)
      (disturbs : ¬ Undisturbed flash after) : Uses flash holds after holds
  | closed (after : OtaFlash) (released : after.busy = false) : Uses flash holds after false

lemma Undisturbed.refl (flash) : Undisturbed flash flash := ⟨rfl, rfl, id⟩

lemma Undisturbed.busy {before : OtaFlash} (busy : before.busy = true) (released : after.busy = false) :
    ¬ Undisturbed before after := by
  intro kept
  cases released.symm.trans (kept.held busy)

lemma Erased.ops_ne (same : Erased s erased) : erased.ops ≠ s.ops := by
  intro kept
  obtain ⟨more, some, grown⟩ := same.more
  exact some (append_right_eq_self.mp (grown.symm.trans kept))

lemma Erased.disturbs (same : Erased s erased) (ops : after.ops = erased.ops) : ¬ Undisturbed s after :=
  fun kept => same.ops_ne (ops.symm.trans kept.ops)

lemma OtaFlash.Flushes.disturbs {io : FlashIo} {isLast : Bool} {ret : Ret} {t : OtaFlash}
    (flushes : Flushes io s isLast (ret, after)) (due : s.bufOffset ≠ 0) (ops : s.ops = t.ops) :
    ¬ Undisturbed t after := by
  intro kept
  have grew : after.ops = s.ops → False := by
    cases flushes with
    | idle empty => exact fun _ => due empty
    | failed | flushed => exact fun same => cons_ne_nil _ _ (append_right_eq_self.mp same)
  exact grew (kept.ops.trans ops.symm)

section

variable (io : FlashIo) {s : OtaFlash}

lemma writeBlock_undisturbed (running : s.overrun = false) (busy : s.busy = true) (data : Nat → UInt8) (len) :
    Undisturbed s (s.writeBlock io data len).2 ↔ len = 0 ∨ otaBufferSize < (s.bufOffset + len) % 2 ^ 32 := by
  have writes := s.writeBlock_writes io data len
  generalize s.writeBlock io data len = result at writes ⊢
  cases writes with
  | closed free => cases busy.symm.trans free
  | empty _ none => exact iff_of_true (Undisturbed.refl s) (Or.inl none)
  | overflow _ _ large => exact iff_of_true (Undisturbed.refl s) (Or.inr large)
  | fault _ some wrapped =>
    refine iff_of_false ?_ (not_or.mpr ⟨some, Nat.not_lt.mpr wrapped⟩)
    intro kept
    have overrun : true = s.overrun := congrArg (fun cache => cache.2.2.2.2.2) kept.cache
    cases overrun.trans running
  | kept _ some room =>
    have unit : otaBufferSize = 1024 := rfl
    refine iff_of_false ?_ (not_or.mpr ⟨some, by omega⟩)
    intro kept
    have offset : s.bufOffset + len = s.bufOffset := congrArg (fun cache => cache.2.1) kept.cache
    omega
  | flushed ret last after _ some fits _ _ flushes =>
    have unit : otaBufferSize = 1024 := rfl
    refine iff_of_false ?_ (not_or.mpr ⟨some, by omega⟩)
    exact flushes.disturbs (t := s) (fun empty => some (Nat.eq_zero_of_add_eq_zero_left empty)) rfl

lemma writeBlock_busy (s : OtaFlash) (data : Nat → UInt8) (len) : (s.writeBlock io data len).2.busy = s.busy := by
  have writes := s.writeBlock_writes io data len
  generalize s.writeBlock io data len = result at writes ⊢
  cases writes with
  | flushed ret last after _ _ _ _ _ flushes =>
    cases flushes with
    | idle | failed | flushed => rfl
  | _ => rfl

end

namespace Ota

section

variable {io : FlashIo} {s : Ota}

variable (io s) in
lemma takeFileSize_uses (size) :
    Uses s.flash s.bleHolds (s.takeFileSize io size).flash (s.takeFileSize io size).bleHolds ∧
      (s.flash.busy = true → ¬ Undisturbed s.flash (s.takeFileSize io size).flash) := by
  unfold takeFileSize
  dsimp only
  split
  · exact ⟨.closed _ (OtaFlash.close_busy ..), fun busy => Undisturbed.busy busy (OtaFlash.close_busy ..)⟩
  · have opens := s.flash.openFile_opens io (size)
    generalize s.flash.openFile io (size) = result at opens ⊢
    cases opens with
    | refused | failed =>
      exact ⟨.closed _ (OtaFlash.close_busy ..), fun busy => Undisturbed.busy busy (OtaFlash.close_busy ..)⟩
    | opened erased busy _ _ same =>
      exact ⟨.changed _ busy (same.busy.trans busy) (same.disturbs rfl), fun _ => same.disturbs rfl⟩

lemma uses_closed (released : after.busy = false) (loud : flash.busy = true → ¬ quiet) :
    Uses flash holds after false ∧ (flash.busy = true → (Undisturbed flash after ↔ quiet)) :=
  ⟨.closed after released, fun busy => iff_of_false (Undisturbed.busy busy released) (loud busy)⟩

lemma uses_changed (busy : flash.busy = true)
    (still : after.busy = flash.busy) (disturbs : ¬ Undisturbed flash after) (loud : ¬ quiet) :
    Uses flash holds after holds ∧ (flash.busy = true → (Undisturbed flash after ↔ quiet)) :=
  ⟨.changed after busy (still.trans busy) disturbs, fun _ => iff_of_false disturbs loud⟩

variable (io) in
lemma writeImage_uses (running : s.flash.overrun = false) (p : Packet) :
    Uses s.flash s.bleHolds (s.writeImage io p).flash (s.writeImage io p).bleHolds ∧
      (s.flash.busy = true → (Undisturbed s.flash (s.writeImage io p).flash ↔
        (p.Passes s.jimi.reqFileAddr → p.imageLen = 0 ∧ s.flash.totalWritten < s.flash.fileSize))) := by
  unfold writeImage
  by_cases passes : p.Passes s.jimi.reqFileAddr
  case neg =>
    rw [if_pos passes]
    exact ⟨.same, fun _ => iff_of_true (Undisturbed.refl _) (fun again => absurd again passes)⟩
  rw [if_neg (not_not_intro passes)]
  dsimp only
  have writes := s.flash.writeBlock_writes io (fun i => p.data (8 + i)) p.imageLen
  have undisturbed := fun busy => writeBlock_undisturbed io running busy (fun i => p.data (8 + i)) p.imageLen
  have still := writeBlock_busy io s.flash (fun i => p.data (8 + i)) p.imageLen
  generalize s.flash.writeBlock io (fun i => p.data (8 + i)) p.imageLen = result at writes undisturbed still ⊢
  have loud : p.imageLen ≠ 0 →
      ¬ (p.Passes s.jimi.reqFileAddr → p.imageLen = 0 ∧ s.flash.totalWritten < s.flash.fileSize) :=
    fun some quiet => some (quiet passes).1
  cases writes with
  | closed free => exact uses_closed (OtaFlash.close_busy ..) (fun busy => absurd (free.symm.trans busy) Bool.false_ne_true)
  | empty busy none =>
    by_cases last : s.flash.fileSize ≤ s.flash.totalWritten
    · rw [decide_eq_true last]
      exact uses_closed (OtaFlash.close_busy ..) (fun _ quiet => Nat.not_lt.mpr last (quiet passes).2)
    · rw [decide_eq_false last]
      exact ⟨.same, fun _ => iff_of_true (Undisturbed.refl _) (fun _ => ⟨none, Nat.not_le.mp last⟩)⟩
  | overflow _ some => exact uses_closed (OtaFlash.close_busy ..) (fun _ => loud some)
  | fault busy some wrapped =>
    refine uses_changed busy still ?_ (loud some)
    exact fun kept => ((undisturbed busy).mp kept).elim some (Nat.not_lt.mpr wrapped)
  | kept busy some room =>
    refine uses_changed busy still ?_ (loud some)
    intro kept
    rcases (undisturbed busy).mp kept with none | large
    · exact some none
    · have unit : otaBufferSize = 1024 := rfl
      omega
  | flushed ret last after busy some fits _ _ flushes =>
    have disturbs : ¬ Undisturbed s.flash after :=
      flushes.disturbs (fun empty => some (Nat.eq_zero_of_add_eq_zero_left empty)) rfl
    cases ret with
    | err => exact uses_closed (OtaFlash.close_busy ..) (fun _ => loud some)
    | fault => exact uses_changed busy still disturbs (loud some)
    | ok =>
      cases last with
      | true => exact uses_closed (OtaFlash.close_busy ..) (fun _ => loud some)
      | false => exact uses_changed busy still disturbs (loud some)

structure KeepsLte (s after : Ota) : Prop where
  lteHolds : after.lteHolds = s.lteHolds
  receiving : after.receiving = s.receiving
  lte : after.lte = s.lte

lemma takeFileSize_keepsLte (size) : KeepsLte s (s.takeFileSize io size) := by
  unfold takeFileSize
  dsimp only
  split
  · exact ⟨rfl, rfl, rfl⟩
  · split
    · exact ⟨rfl, rfl, rfl⟩
    · exact ⟨rfl, rfl, rfl⟩

lemma writeImage_keepsLte (p) : KeepsLte s (s.writeImage io p) := by
  unfold writeImage
  split
  · exact ⟨rfl, rfl, rfl⟩
  · dsimp only
    split
    all_goals exact ⟨rfl, rfl, rfl⟩

lemma bleStart_uses (percent) :
    Uses s.flash s.bleHolds (s.bleStart percent).flash (s.bleStart percent).bleHolds ∧
      (s.flash.busy = true → Undisturbed s.flash (s.bleStart percent).flash) ∧ KeepsLte s (s.bleStart percent) := by
  unfold bleStart
  split
  · exact ⟨.same, fun _ => Undisturbed.refl _, rfl, rfl, rfl⟩
  · split
    · exact ⟨.same, fun _ => Undisturbed.refl _, rfl, rfl, rfl⟩
    next free =>
      have free := eq_false_of_ne_true free
      have occupied : s.flash.occupy.2 = { s.flash with busy := true } := by
        unfold OtaFlash.occupy
        rw [if_neg (ne_true_of_eq_false free)]
      refine ⟨?_, fun busy => absurd (free.symm.trans busy) Bool.false_ne_true, rfl, rfl, rfl⟩
      rw [occupied]
      exact .occupied free

lemma ble_quiet {after : Ota} (flash : after.flash = s.flash) (holds : after.bleHolds = s.bleHolds)
    (keeps : KeepsLte s after) (allowed : quiet) :
    Uses s.flash s.bleHolds after.flash after.bleHolds ∧
      (s.flash.busy = true → (Undisturbed s.flash after.flash ↔ quiet)) ∧ KeepsLte s after := by
  rw [flash, holds]
  exact ⟨.same, fun _ => iff_of_true (Undisturbed.refl _) allowed, keeps⟩

lemma ble_closed {after : Ota} (released : after.flash.busy = false)
    (holds : after.bleHolds = false) (keeps : KeepsLte s after) (loud : ¬ quiet) :
    Uses s.flash s.bleHolds after.flash after.bleHolds ∧
      (s.flash.busy = true → (Undisturbed s.flash after.flash ↔ quiet)) ∧ KeepsLte s after := by
  rw [holds]
  exact ⟨.closed _ released, fun busy => iff_of_false (Undisturbed.busy busy released) loud, keeps⟩

lemma ble_step (running : s.flash.overrun = false) (ble : event.byLte = false) :
    Uses s.flash s.bleHolds (s.step event).flash (s.step event).bleHolds ∧
      (s.flash.busy = true → (Undisturbed s.flash (s.step event).flash ↔ s.BleKeepsOut event)) ∧
      KeepsLte s (s.step event) := by
  have taken : s.step event = s.stepRunning event := if_neg (ne_true_of_eq_false running)
  rw [taken]
  cases event with
  | command cmd p percent io =>
    simp only [stepRunning, dfuCmdHandler, BleKeepsOut]
    split
    next start =>
      obtain ⟨uses, undisturbed, keeps⟩ := bleStart_uses (s := s) percent
      subst start
      refine ⟨uses, fun busy => iff_of_true (undisturbed busy) ⟨by decide, by decide, ?_⟩, keeps⟩
      exact fun image => absurd image (by decide)
    split
    next size =>
      obtain ⟨uses, disturbs⟩ := takeFileSize_uses io s (p.word 0)
      exact ⟨uses, fun busy => iff_of_false (disturbs busy) (fun out => out.1 size), takeFileSize_keepsLte _⟩
    next noSize =>
      split
      next image =>
        obtain ⟨uses, undisturbed⟩ := writeImage_uses io running p
        refine ⟨uses, fun busy => (undisturbed busy).trans ?_, writeImage_keepsLte p⟩
        subst image
        exact ⟨fun holds => ⟨noSize, by decide, fun _ => holds⟩, fun out => out.2.2 rfl⟩
      next noImage =>
        split
        next ending => exact ble_closed (OtaFlash.close_busy ..) rfl ⟨rfl, rfl, rfl⟩ (fun out => out.2.1 ending)
        next noEnd =>
          exact ble_quiet rfl rfl ⟨rfl, rfl, rfl⟩ ⟨noSize, noEnd, fun image => absurd image noImage⟩
  | timerExpires =>
    simp only [stepRunning, BleKeepsOut, timerWaitCallback]
    split
    · split
      all_goals exact ble_quiet rfl rfl ⟨rfl, rfl, rfl⟩ trivial
    · exact ble_quiet rfl rfl ⟨rfl, rfl, rfl⟩ trivial
  | retryWork =>
    simp only [stepRunning, BleKeepsOut]
    split
    all_goals exact ble_quiet rfl rfl ⟨rfl, rfl, rfl⟩ trivial
  | timeoutWork io =>
    simp only [stepRunning, BleKeepsOut]
    split
    next pending => exact ble_closed (OtaFlash.close_busy ..) rfl ⟨rfl, rfl, rfl⟩ (ne_false_of_eq_true pending)
    next idle => exact ble_quiet rfl rfl ⟨rfl, rfl, rfl⟩ (eq_false_of_ne_true idle)
  | mtu => exact ble_quiet rfl rfl ⟨rfl, rfl, rfl⟩ trivial
  | ltePrepare | lteSaveOpen | lteSaveWrite | lteSaveClose | lteFinish => cases ble

end

def Announced (s : Ota) : Prop := s.receiving = true → 0 < s.lte.totalSize ∧ s.lte.totalSize ≤ partitionSize

variable {s : Ota}

/-- What a step of the LTE front-end does, if exactly the `quiet` ones leave a busy session alone. -/
structure LteStep (s : Ota) (quiet : Prop) (after : Ota) : Prop where
  uses : Uses s.flash s.lteHolds after.flash after.lteHolds
  undisturbed : s.flash.busy = true → (Undisturbed s.flash after.flash ↔ quiet)
  bleHolds : after.bleHolds = s.bleHolds
  announced : after.Announced

lemma LteStep.receiving {after : Ota} (step : LteStep s quiet after) (receiving : s.receiving = true) :
    LteStep s (s.receiving = true → quiet) after :=
  { step with undisturbed := fun busy => (step.undisturbed busy).trans (imp_iff_right receiving).symm }

lemma lte_quiet {after : Ota} (flash : after.flash = s.flash) (holds : after.lteHolds = s.lteHolds)
    (bleHolds : after.bleHolds = s.bleHolds) (announced : after.Announced) (allowed : quiet) : LteStep s quiet after := by
  refine ⟨?_, fun _ => ?_, bleHolds, announced⟩
  · rw [flash, holds]
    exact .same
  · rw [flash]
    exact iff_of_true (Undisturbed.refl _) allowed

lemma lte_closed {after : Ota} (released : after.flash.busy = false)
    (holds : after.lteHolds = false) (bleHolds : after.bleHolds = s.bleHolds) (announced : after.Announced)
    (loud : ¬ quiet) : LteStep s quiet after := by
  refine ⟨?_, fun busy => iff_of_false (Undisturbed.busy busy released) loud, bleHolds, announced⟩
  rw [holds]
  exact .closed _ released

lemma ltePrepare_step (announced : s.Announced) (totalSize expectCrc) :
    LteStep s True (s.ltePrepare totalSize expectCrc) := by
  unfold ltePrepare
  have prepares := s.lteDfu.prepare_prepares totalSize expectCrc
  generalize s.lteDfu.prepare totalSize expectCrc = result at prepares ⊢
  cases prepares with
  | refused reason failed =>
    cases reason with
    | ok => exact absurd rfl failed
    | _ => exact lte_quiet rfl rfl rfl announced trivial
  | occupied free nonempty fits =>
    exact ⟨.occupied free, fun busy => (nomatch free.symm.trans busy), rfl, fun _ => ⟨nonempty, fits⟩⟩

lemma Announced.not_refused (announced : s.Announced) (receiving : s.receiving = true) (busy : s.flash.busy = true) :
    ¬ (s.lteDfu.flash.busy = false ∨ s.lteDfu.vars.totalSize = 0 ∨ partitionSize < s.lteDfu.vars.totalSize) := by
  obtain ⟨nonempty, fits⟩ := announced receiving
  rintro (free | empty | large)
  · cases busy.symm.trans free
  · exact absurd empty (Nat.ne_of_gt nonempty)
  · exact absurd fits (Nat.not_le.mpr large)

lemma lteSaveOpen_step (announced : s.Announced) (receiving : s.receiving = true) (fileSize : Int) (io) :
    LteStep s (fileSize ≠ s.lte.totalSize) (s.withLte (s.lteDfu.saveOpen io fileSize).2) := by
  have opens := s.lteDfu.saveOpen_opens io fileSize
  generalize s.lteDfu.saveOpen io fileSize = result at opens ⊢
  cases opens with
  | rejected sizeMismatch differs =>
    refine lte_quiet rfl rfl rfl announced ?_
    rcases differs with negative | differs
    · have nonempty := (announced receiving).1
      omega
    · exact differs
  | passed ret flash same opens =>
    cases opens with
    | refused errno cause =>
      exact ⟨.same, fun busy => absurd cause (announced.not_refused receiving busy), rfl, announced⟩
    | failed erased busy _ _ erases | opened erased busy _ _ erases =>
      exact ⟨.changed _ busy (erases.busy.trans busy) (erases.disturbs rfl),
        fun _ => iff_of_false (erases.disturbs rfl) (not_not_intro same), rfl, announced⟩

lemma lteSaveWrite_step (running : s.flash.overrun = false) (announced : s.Announced) (data : List UInt8) (io) :
    LteStep s (data.length = 0 ∨ otaBufferSize < (s.flash.bufOffset + data.length) % 2 ^ 32)
      (s.withLte (s.lteDfu.saveWrite io data).2) := by
  unfold LteDfu.saveWrite
  by_cases empty : data.length = 0
  · rw [if_pos empty]
    exact lte_quiet rfl rfl rfl announced (Or.inl empty)
  rw [if_neg empty]
  refine ⟨?_, fun busy => writeBlock_undisturbed io running busy (fun i => data.getD i 0) data.length, rfl, announced⟩
  have undisturbed := fun busy => writeBlock_undisturbed io running busy (fun i => data.getD i 0) data.length
  have still := writeBlock_busy io s.flash (fun i => data.getD i 0) data.length
  change Uses s.flash s.lteHolds (s.flash.writeBlock io (fun i => data.getD i 0) data.length).2 s.lteHolds
  by_cases taken : s.flash.busy = true ∧ (s.flash.bufOffset + data.length) % 2 ^ 32 ≤ otaBufferSize
  · refine .changed _ taken.1 (still.trans taken.1) ?_
    exact fun kept => ((undisturbed taken.1).mp kept).elim empty (Nat.not_lt.mpr taken.2)
  · have same : (s.flash.writeBlock io (fun i => data.getD i 0) data.length).2 = s.flash := by
      unfold OtaFlash.writeBlock
      by_cases busy : s.flash.busy = true
      · rw [if_neg (not_not_intro busy), if_neg empty, if_pos (Nat.not_le.mp fun fits => taken ⟨busy, fits⟩)]
      · rw [if_pos busy]
    rw [same]
    exact .same

lemma lteFinish_step (result io) :
    LteStep s (s.lte.verdict result = .ok) (s.lteFinish io result) := by
  have gone : (s.lteFinish io result).Announced := by
    unfold lteFinish
    split
    all_goals exact fun receiving => Bool.noConfusion receiving
  by_cases accepted : s.lte.verdict result = .ok
  · have finish : s.lteDfu.finish io result = (.ok, s.lteDfu) := if_pos accepted
    have taken : (s.lteFinish io result).flash = s.flash ∧ (s.lteFinish io result).lteHolds = s.lteHolds ∧
        (s.lteFinish io result).bleHolds = s.bleHolds := by
      unfold lteFinish
      rw [finish]
      exact ⟨rfl, rfl, rfl⟩
    exact lte_quiet taken.1 taken.2.1 taken.2.2 gone accepted
  · have finish : s.lteDfu.finish io result =
        (s.lte.verdict result, { s.lteDfu with flash := (s.flash.close io false).2 }) := if_neg accepted
    have taken : (s.lteFinish io result).flash = (s.flash.close io false).2 ∧ (s.lteFinish io result).lteHolds = false ∧
        (s.lteFinish io result).bleHolds = s.bleHolds := by
      unfold lteFinish
      rw [finish]
      split
      next reason l same => exact absurd (congrArg Prod.fst same) accepted
      next reason l _ same =>
        cases same
        exact ⟨rfl, rfl, rfl⟩
    refine lte_closed ?_ taken.2.1 taken.2.2 gone accepted
    rw [taken.1]
    exact OtaFlash.close_busy ..

lemma lte_step (running : s.flash.overrun = false) (lte : event.byLte = true)
    (announced : s.Announced) : LteStep s (s.LteKeepsOut event) (s.step event) := by
  have taken : s.step event = s.stepRunning event := if_neg (ne_true_of_eq_false running)
  rw [taken]
  cases event with
  | ltePrepare totalSize expectCrc =>
    simp only [stepRunning, LteKeepsOut]
    split
    · exact lte_quiet rfl rfl rfl announced trivial
    · exact ltePrepare_step announced totalSize expectCrc
  | lteSaveOpen fileSize io =>
    simp only [stepRunning, LteKeepsOut]
    split
    next receiving =>
      have step := lteSaveOpen_step announced receiving fileSize io
      exact step.receiving receiving
    next idle => exact lte_quiet rfl rfl rfl announced (fun receiving => absurd receiving idle)
  | lteSaveWrite data io =>
    simp only [stepRunning, LteKeepsOut]
    split
    next receiving =>
      have step := lteSaveWrite_step running announced data io
      exact step.receiving receiving
    next idle => exact lte_quiet rfl rfl rfl announced (fun receiving => absurd receiving idle)
  | lteSaveClose ok io =>
    simp only [stepRunning, LteKeepsOut]
    split
    next receiving => exact lte_closed (OtaFlash.close_busy ..) rfl rfl announced (ne_false_of_eq_true receiving)
    next idle => exact lte_quiet rfl rfl rfl announced (eq_false_of_ne_true idle)
  | lteFinish result io =>
    simp only [stepRunning, LteKeepsOut]
    split
    next receiving =>
      have step := lteFinish_step (s := s) result io
      exact step.receiving receiving
    next idle => exact lte_quiet rfl rfl rfl announced (fun receiving => absurd receiving idle)
  | command | timerExpires | retryWork | timeoutWork | mtu => cases lte

end Ota

structure Owned (s : Ota) : Prop where
  ble : s.bleHolds = true → s.flash.busy = true ∧ s.lteHolds = false
  lte : s.lteHolds = true → s.flash.busy = true ∧ s.bleHolds = false
  announced : s.Announced

lemma Uses.owned {holdsAfter other : Bool} (uses : Uses flash holds after holdsAfter)
    (own : holds = true → flash.busy = true ∧ other = false) (others : other = true → flash.busy = true ∧ holds = false)
    (undisturbed : other = true → Undisturbed flash after) :
    (holdsAfter = true → after.busy = true ∧ other = false) ∧ (other = true → after.busy = true ∧ holdsAfter = false) := by
  cases uses with
  | same => exact ⟨own, others⟩
  | occupied free =>
    refine ⟨fun _ => ⟨rfl, ?_⟩, fun held => absurd (free.symm.trans (others held).1) Bool.false_ne_true⟩
    cases held : other with
    | false => rfl
    | true => cases free.symm.trans (others held).1
  | changed _ _ still disturbs =>
    exact ⟨fun held => ⟨still, (own held).2⟩, fun held => absurd (undisturbed held) disturbs⟩
  | closed _ released =>
    refine ⟨fun held => Bool.noConfusion held, fun held => ?_⟩
    cases released.symm.trans ((undisturbed held).held (others held).1)

namespace Ota

lemma exclusive_iff {s : Ota} (owned : Owned s) (event) : s.Exclusive event ↔ s.KeepsOut event := by
  by_cases running : s.flash.overrun = false
  case neg =>
    have fault := eq_true_of_ne_false running
    have stuck : s.step event = s := if_pos fault
    unfold Exclusive
    rw [stuck]
    exact iff_of_true ⟨fun _ _ => Undisturbed.refl _, fun _ _ => Undisturbed.refl _⟩ (fun sound => absurd sound running)
  unfold Exclusive KeepsOut
  rw [forall_prop_of_true running]
  cases lte : event.byLte with
  | false =>
    obtain ⟨-, undisturbed, -⟩ := ble_step running lte
    have quiet : s.LteKeepsOut event := by
      cases event with
      | command | timerExpires | retryWork | timeoutWork | mtu => trivial
      | ltePrepare | lteSaveOpen | lteSaveWrite | lteSaveClose | lteFinish => cases lte
    constructor
    · intro exclusive
      exact ⟨fun held => (undisturbed (owned.lte held).1).mp (exclusive.1 held rfl), fun _ => quiet⟩
    · intro out
      exact ⟨fun held _ => (undisturbed (owned.lte held).1).mpr (out.1 held), fun _ impossible => Bool.noConfusion impossible⟩
  | true =>
    have step := lte_step running lte owned.announced
    have quiet : s.BleKeepsOut event := by
      cases event with
      | command | timerExpires | retryWork | timeoutWork | mtu => cases lte
      | ltePrepare | lteSaveOpen | lteSaveWrite | lteSaveClose | lteFinish => trivial
    constructor
    · intro exclusive
      exact ⟨fun _ => quiet, fun held => (step.undisturbed (owned.ble held).1).mp (exclusive.2 held rfl)⟩
    · intro out
      exact ⟨fun _ impossible => Bool.noConfusion impossible,
        fun held _ => (step.undisturbed (owned.ble held).1).mpr (out.2 held)⟩

lemma step_owned {s : Ota} (owned : Owned s) (exclusive : s.Exclusive event) : Owned (s.step event) := by
  by_cases running : s.flash.overrun = false
  case neg =>
    have stuck : s.step event = s := if_pos (eq_true_of_ne_false running)
    rw [stuck]
    exact owned
  cases lte : event.byLte with
  | false =>
    obtain ⟨uses, -, keeps⟩ := ble_step running lte
    obtain ⟨own, others⟩ := uses.owned owned.ble owned.lte (fun held => exclusive.1 held lte)
    refine ⟨?_, ?_, ?_⟩
    · rw [keeps.lteHolds]
      exact own
    · rw [keeps.lteHolds]
      exact others
    · unfold Announced
      rw [keeps.receiving, keeps.lte]
      exact owned.announced
  | true =>
    have step := lte_step running lte owned.announced
    obtain ⟨own, others⟩ := step.uses.owned owned.lte owned.ble (fun held => exclusive.2 held lte)
    refine ⟨?_, ?_, step.announced⟩
    · rw [step.bleHolds]
      exact others
    · rw [step.bleHolds]
      exact own

lemma init_owned (image mtu) : Owned (init image mtu) :=
  ⟨fun held => Bool.noConfusion held, fun held => Bool.noConfusion held, fun receiving => Bool.noConfusion receiving⟩

/-- The front-ends leave each other's session alone exactly if, while one of them holds it, none of
the steps of the other comes that goes to the flash module. -/
theorem session_exclusive_iff (image : Image) (mtu : Nat) (events : List DfuEvent) :
    Along step Exclusive (init image mtu) events ↔ Along step KeepsOut (init image mtu) events := by
  constructor
  · intro exclusive
    exact exclusive.imp Owned (fun _ _ owned => step_owned owned) (fun _ event owned => (exclusive_iff owned event).mp)
      (init_owned image mtu)
  · intro out
    exact out.imp Owned (fun _ event owned out => step_owned owned ((exclusive_iff owned event).mpr out))
      (fun _ event owned => (exclusive_iff owned event).mpr) (init_owned image mtu)

def emptyPacket : Packet := { data := fun _ => 0, len := 0 }

/-- `FILE_END` from any peer ends the session of an LTE upgrade, and `FILE_SIZE` erases what it has
written. -/
theorem file_end_releases_lte :
    let s := (init (fun _ => 0xFF) 247).step (.ltePrepare 2048 0)
    s.lteHolds = true ∧ s.flash.busy = true ∧ (s.step (.command dfuFileEnd emptyPacket 100 .good)).flash.busy = false ∧
      (s.step (.command dfuFileSize { data := fun i => if i = 1 then 8 else 0, len := 4 } 100 .good)).flash.ops =
        [.erase 0 true] ∧
      ¬ s.Exclusive (.command dfuFileEnd emptyPacket 100 .good) := by
  refine ⟨rfl, rfl, rfl, rfl, ?_⟩
  intro exclusive
  exact Undisturbed.busy rfl rfl (exclusive.1 rfl rfl)

end Ota

end LL320D.Dfu
