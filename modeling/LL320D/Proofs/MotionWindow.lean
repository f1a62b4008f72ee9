import LL320D.Motion

/-! The ring of interrupt times holds the newest ones, and none that is still recent is missing unless it is full; and
which alarm a change or an overturn sends. -/

namespace LL320D.Motion
open Library List

section
open SlidingWindow

structure SlidingWindow.Holds (w : SlidingWindow) (times : List Nat) : Prop where
  tail : w.tail < timestampQueueSize
  head : w.head = (w.tail + times.length) % timestampQueueSize
  fits : times.length < timestampQueueSize
  content : window w.timestamps timestampQueueSize w.tail times.length = times

namespace SlidingWindow

variable {w : SlidingWindow} {times : List Nat}

lemma Holds.head_lt (holds : w.Holds times) : w.head < timestampQueueSize := by
  rw [holds.head]
  exact Nat.mod_lt _ (by decide)

lemma Holds.dropped {oldest : Nat} (holds : w.Holds (oldest :: times)) :
    ({ w with tail := (w.tail + 1) % timestampQueueSize } : SlidingWindow).Holds times := by
  have shorter := Nat.lt_of_succ_lt holds.fits
  refine ⟨Nat.mod_lt _ (by decide), ?_, shorter, ?_⟩
  · have head := holds.head
    rw [length_cons] at head
    change w.head = ((w.tail + 1) % timestampQueueSize + times.length) % timestampQueueSize
    rw [head, Nat.mod_add_mod, Nat.add_assoc, Nat.add_comm 1]
  · have rest := window_drop w.timestamps timestampQueueSize w.tail (oldest :: times).length 1
    rw [holds.content] at rest
    exact rest.symm

lemma Holds.tail_eq_head (holds : w.Holds times) : w.tail = w.head ↔ times = [] := by
  rw [holds.head, eq_comm, ring_end_eq_start holds.tail holds.fits, length_eq_zero_iff]

lemma Holds.oldest {oldest : Nat} (holds : w.Holds (oldest :: times)) : w.timestamps w.tail = oldest := by
  have first := window_getElem? w.timestamps timestampQueueSize w.tail (oldest :: times).length 0 (Nat.zero_lt_succ _)
  rw [holds.content, Nat.add_zero, Nat.mod_eq_of_lt holds.tail] at first
  exact (Option.some.inj first).symm

lemma Holds.next_eq_tail (holds : w.Holds times) :
    (w.head + 1) % timestampQueueSize = w.tail ↔ times.length + 1 = timestampQueueSize := by
  have fits := holds.fits
  rw [holds.head, Nat.mod_add_mod, Nat.add_assoc]
  by_cases full : times.length + 1 = timestampQueueSize
  · rw [full, Nat.add_mod_right, Nat.mod_eq_of_lt holds.tail]
    exact iff_of_true rfl rfl
  · have room : times.length + 1 < timestampQueueSize := by omega
    rw [ring_end_eq_start holds.tail room]
    exact iff_of_false (Nat.succ_ne_zero _) full

def kept (times : List Nat) : List Nat := if times.length + 1 = timestampQueueSize then times.tail else times

lemma Holds.addInt (holds : w.Holds times) {uptime : Nat} (early : uptime < 2 ^ 32) :
    (w.addInt uptime).Holds (kept times ++ [uptime]) := by
  have same : uptime32 uptime = uptime := Nat.mod_eq_of_lt early
  have appended : window (Function.update w.timestamps w.head uptime) timestampQueueSize w.tail (times.length + 1) =
      times ++ [uptime] := by
    rw [holds.head, window_append w.timestamps holds.fits uptime, holds.content]
  have next : (w.head + 1) % timestampQueueSize = (w.tail + (times.length + 1)) % timestampQueueSize := by
    rw [holds.head, Nat.mod_add_mod, Nat.add_assoc]
  simp only [SlidingWindow.addInt, kept, same, holds.next_eq_tail]
  by_cases full : times.length + 1 = timestampQueueSize
  · rw [if_pos full, if_pos full]
    cases times with
    | nil => cases full
    | cons oldest times =>
      have length : (times ++ [uptime]).length = times.length + 1 := length_append
      rw [length_cons] at full
      refine ⟨Nat.mod_lt _ (by decide), ?_, ?_, ?_⟩
      · change (w.head + 1) % timestampQueueSize = ((w.tail + 1) % timestampQueueSize + _) % timestampQueueSize
        rw [next, tail_cons, length, length_cons, Nat.mod_add_mod, Nat.add_assoc w.tail 1, Nat.add_comm 1]
      · rw [tail_cons, length]
        omega
      · have rest := window_drop (Function.update w.timestamps w.head uptime) timestampQueueSize w.tail
          ((oldest :: times).length + 1) 1
        rw [appended] at rest
        rw [tail_cons, length]
        exact rest.symm
  · rw [if_neg full, if_neg full]
    have length : (times ++ [uptime]).length = times.length + 1 := length_append
    have fits := holds.fits
    refine ⟨holds.tail, ?_, ?_, ?_⟩
    · rw [length]
      exact next
    · rw [length]
      omega
    · rw [length]
      exact appended

lemma Holds.updateTailLoop (config uptime) {turns : Nat} (holds : w.Holds times)
    (enough : times.length ≤ turns) :
    (w.updateTailLoop config uptime turns).Holds (times.dropWhile fun time => !isRecent config uptime time) := by
  induction turns generalizing w times with
  | zero =>
    rw [length_eq_zero_iff.mp (Nat.le_zero.mp enough)] at holds ⊢
    exact holds
  | succ turns ih =>
    simp only [updateTailLoop]
    cases times with
    | nil =>
      rw [if_pos (holds.tail_eq_head.mpr rfl)]
      exact holds
    | cons oldest times =>
      rw [if_neg fun met => cons_ne_nil _ _ (holds.tail_eq_head.mp met), holds.oldest, dropWhile_cons]
      cases recent : isRecent config uptime oldest with
      | true => exact holds
      | false => exact ih holds.dropped (Nat.le_of_succ_le_succ enough)

lemma Holds.updateTail (config uptime) (holds : w.Holds times) :
    (w.updateTail config uptime).Holds (times.dropWhile fun time => !isRecent config uptime time) :=
  holds.updateTailLoop config uptime (Nat.le_of_lt holds.fits)

lemma Holds.countLoop (holds : w.Holds times) {turns count : Nat} (enough : times.length ≤ turns)
    (small : count + times.length < timestampQueueSize) : countLoop w.head turns w.tail count = count + times.length := by
  induction turns generalizing w times count with
  | zero =>
    rw [Nat.le_zero.mp enough]
    rfl
  | succ turns ih =>
    simp only [countLoop]
    cases times with
    | nil =>
      rw [if_pos (holds.tail_eq_head.mpr rfl)]
      rfl
    | cons oldest times =>
      rw [length_cons] at small enough ⊢
      rw [if_neg fun met => cons_ne_nil _ _ (holds.tail_eq_head.mp met), if_neg (by omega)]
      rw [ih holds.dropped (Nat.le_of_succ_le_succ enough) (by omega)]
      omega

lemma Holds.getCount (config uptime) (holds : w.Holds times) :
    (w.getCount config uptime).1 = (times.dropWhile fun time => !isRecent config uptime time).length ∧
      (w.getCount config uptime).2.Holds (times.dropWhile fun time => !isRecent config uptime time) := by
  have updated := holds.updateTail config uptime
  refine ⟨?_, updated⟩
  have counted := updated.countLoop (Nat.le_of_lt updated.fits) (by rw [Nat.zero_add]; exact updated.fits)
  rw [Nat.zero_add] at counted
  exact counted

lemma isRecent_iff (config : MotDetConfig) {uptime timestamp : Nat} (early : uptime < 2 ^ 32)
    (past : timestamp ≤ uptime) :
    isRecent config uptime timestamp = true ↔ uptime ≤ timestamp + config.motdetDuration * 1000 := by
  have difference : (uptime32 uptime + 2 ^ 32 - timestamp) % 2 ^ 32 = uptime - timestamp := by
    simp only [uptime32]
    omega
  simp only [isRecent, difference, decide_eq_true_eq]
  omega

end SlidingWindow

/-! Runs of the G-sensor thread -/

structure Run.Sound (config : MotDetConfig) (run : Run) (dropped held : List Nat) : Prop where
  early : run.clock < 2 ^ 32
  parts : run.interrupts = dropped ++ held
  holds : run.sensor.window.Holds held
  ordered : run.interrupts.Pairwise (· ≤ ·)
  past : ∀ interrupt ∈ run.interrupts, interrupt ≤ run.clock
  missing : held.length + 1 = timestampQueueSize ∨
    ∀ interrupt ∈ dropped, interrupt + config.motdetDuration * 1000 < run.clock

namespace Run

variable {config : MotDetConfig} {run : Run} {dropped held : List Nat} {times : List Nat} {clock : Nat}

lemma start_sound (config motdetalmSw) : Sound config (start motdetalmSw) [] [] where
  early := Nat.two_pow_pos 32
  parts := rfl
  holds := ⟨Nat.zero_lt_succ _, rfl, Nat.zero_lt_succ _, rfl⟩
  ordered := .nil
  past := nofun
  missing := .inr nofun

section

variable (sound : Sound config run dropped held)
include sound

lemma Sound.later {clock : Nat} (later : run.clock ≤ clock)
    (early : clock < 2 ^ 32) : Sound config { run with clock } dropped held where
  early := early
  parts := sound.parts
  holds := sound.holds
  ordered := sound.ordered
  past := fun interrupt member => Nat.le_trans (sound.past interrupt member) later
  missing := sound.missing.imp_right fun old interrupt member => Nat.lt_of_lt_of_le (old interrupt member) later

lemma Sound.of_same {after : Run}
    (window : after.sensor.window = run.sensor.window) (interrupts : after.interrupts = run.interrupts)
    (clock : after.clock = run.clock) : Sound config after dropped held := by
  obtain ⟨early, parts, holds, ordered, past, missing⟩ := sound
  constructor
  · rw [clock]
    exact early
  · rw [interrupts]
    exact parts
  · rw [window]
    exact holds
  · rw [interrupts]
    exact ordered
  · rw [interrupts, clock]
    exact past
  · rw [clock]
    exact missing

lemma Sound.interrupt {uptime : Nat} (later : run.clock ≤ uptime)
    (early : uptime < 2 ^ 32) : ∃ more, Sound config (run.step config (.int true uptime)) (dropped ++ more)
      (kept held ++ [uptime]) := by
  have now := sound.later later early
  have ordered : (run.interrupts ++ [uptime]).Pairwise (· ≤ ·) := by
    refine pairwise_append.mpr ⟨sound.ordered, pairwise_singleton _ _, ?_⟩
    intro interrupt member last isLast
    cases mem_singleton.mp isLast
    exact now.past interrupt member
  have past : ∀ interrupt ∈ run.interrupts ++ [uptime], interrupt ≤ uptime := by
    intro interrupt member
    rcases mem_append.mp member with before | new
    · exact now.past interrupt before
    · exact Nat.le_of_eq (mem_singleton.mp new)
  have holds := sound.holds.addInt early
  by_cases full : held.length + 1 = timestampQueueSize
  · refine ⟨held.take 1, early, ?_, holds, ordered, past, .inl ?_⟩
    · change run.interrupts ++ [uptime] = _
      rw [sound.parts, kept, if_pos full, ← drop_one]
      simp only [append_assoc, ← append_assoc (held.take 1), take_append_drop]
    · rw [kept, if_pos full, length_append, length_tail]
      simp only [timestampQueueSize, length_singleton] at full ⊢
      omega
  · refine ⟨[], early, ?_, holds, ordered, past, .inr ?_⟩
    · change run.interrupts ++ [uptime] = _
      rw [sound.parts, kept, if_neg full, append_nil, append_assoc]
    · rw [append_nil]
      exact now.missing.resolve_left full

end

def recentOf (config : MotDetConfig) (clock : Nat) (times : List Nat) : List Nat :=
  times.filter fun time => clock ≤ time + config.motdetDuration * 1000

lemma recentOf_eq_self
    (recent : ∀ time ∈ times, clock ≤ time + config.motdetDuration * 1000) : recentOf config clock times = times :=
  filter_eq_self.mpr fun time member => decide_eq_true (recent time member)

lemma recentOf_eq_nil
    (old : ∀ time ∈ times, time + config.motdetDuration * 1000 < clock) : recentOf config clock times = [] :=
  filter_eq_nil_iff.mpr fun time member is => Nat.not_lt.mpr (of_decide_eq_true is) (old time member)

lemma dropWhile_eq_recentOf (config) {uptime : Nat} (ordered : times.Pairwise (· ≤ ·))
    (early : uptime < 2 ^ 32) (past : ∀ time ∈ times, time ≤ uptime) :
    (times.dropWhile fun time => !isRecent config uptime time) = recentOf config uptime times := by
  induction times with
  | nil => rfl
  | cons oldest times ih =>
    obtain ⟨first, rest⟩ := pairwise_cons.mp ordered
    have here := isRecent_iff config early (past oldest mem_cons_self)
    by_cases recent : uptime ≤ oldest + config.motdetDuration * 1000
    · have all : ∀ time ∈ oldest :: times, uptime ≤ time + config.motdetDuration * 1000 := by
        intro time member
        rcases mem_cons.mp member with rfl | later
        · exact recent
        · have after := first time later
          omega
      rw [dropWhile_cons, here.mpr recent, recentOf_eq_self all]
      rfl
    · have old : isRecent config uptime oldest = false := eq_false_of_ne_true fun is => recent (here.mp is)
      have dropped : recentOf config uptime (oldest :: times) = recentOf config uptime times :=
        filter_cons_of_neg fun is => recent (of_decide_eq_true is)
      rw [dropWhile_cons, old, dropped]
      exact ih rest fun time member => past time (mem_cons_of_mem _ member)

variable (sound : Sound config run dropped held)
include sound

lemma Sound.counted {uptime : Nat} (later : run.clock ≤ uptime)
    (early : uptime < 2 ^ 32) :
    (run.sensor.window.getCount config uptime).1 = (recentOf config uptime held).length ∧ ∃ more, Sound config
        ⟨{ run.sensor with window := (run.sensor.window.getCount config uptime).2 }, run.interrupts, uptime⟩
        (dropped ++ more) (recentOf config uptime held) := by
  have now := sound.later later early
  have parts := sound.parts
  have ordered := pairwise_append.mp (parts ▸ sound.ordered)
  have past : ∀ time ∈ held, time ≤ uptime := fun time member =>
    now.past time (parts ▸ mem_append_right dropped member)
  have left := dropWhile_eq_recentOf config ordered.2.1 early past
  obtain ⟨count, holds⟩ := sound.holds.getCount config uptime
  have whole := takeWhile_append_dropWhile (p := fun time => !isRecent config uptime time) (l := held)
  rw [left] at count holds whole
  obtain ⟨more, isMore⟩ :
      ∃ more, held.takeWhile (fun time => !isRecent config uptime time) = more := ⟨_, rfl⟩
  have dropsOld : ∀ time ∈ more, time + config.motdetDuration * 1000 < uptime := by
    intro time member
    have old := mem_takeWhile_imp (isMore ▸ member)
    have inside : time ∈ held := ( takeWhile_prefix _).subset (isMore ▸ member)
    rw [Bool.not_eq_true', ← Bool.not_eq_true, isRecent_iff config early (past time inside)] at old
    exact Nat.not_le.mp old
  rw [isMore] at whole
  refine ⟨count, more, early, ?_, holds, sound.ordered, now.past, ?_⟩
  · rw [append_assoc, whole]
    exact parts
  · -- if the ring was full and loses a time, then that time and all before it are old
    rcases now.missing with full | old
    · cases more with
      | nil =>
        rw [nil_append] at whole
        exact .inl (whole.symm ▸ full)
      | cons time more =>
        have inside : time ∈ held := whole ▸ mem_append_left _ mem_cons_self
        have oldest := dropsOld time mem_cons_self
        refine .inr fun interrupt member => ?_
        change interrupt + config.motdetDuration * 1000 < uptime
        rcases mem_append.mp member with before | inMore
        · have order := ordered.2.2 interrupt before time inside
          omega
        · exact dropsOld interrupt inMore
    · refine .inr fun interrupt member => ?_
      rcases mem_append.mp member with before | inMore
      · exact old interrupt before
      · exact dropsOld interrupt inMore

lemma Sound.recent_cases :
    recentOf config run.clock dropped = [] ∨ (recentOf config run.clock held).length + 1 = timestampQueueSize := by
  rcases sound.missing with full | old
  · by_cases recent : ∀ time ∈ held, run.clock ≤ time + config.motdetDuration * 1000
    · rw [recentOf_eq_self recent]
      exact .inr full
    · obtain ⟨time, late⟩ := not_forall.mp recent
      obtain ⟨inside, late⟩ := Classical.not_imp.mp late
      have ordered := pairwise_append.mp (sound.parts ▸ sound.ordered)
      refine .inl (recentOf_eq_nil fun interrupt member => ?_)
      have order := ordered.2.2 interrupt member time inside
      omega
  · exact .inl (recentOf_eq_nil old)

lemma Sound.enough_iff :
    config.motdetVibration ≤ (recentOf config run.clock held).length ↔
      config.motdetVibration ≤ run.recent config run.clock ∧
        ¬ (config.motdetVibration = timestampQueueSize ∧ timestampQueueSize ≤ run.recent config run.clock) := by
  have bound : config.motdetVibration ≤ timestampQueueSize := config.vibrations.2
  have total : run.recent config run.clock =
      (recentOf config run.clock dropped).length + (recentOf config run.clock held).length := by
    rw [recent, countP_eq_length_filter, sound.parts, filter_append, length_append]
    rfl
  have most : (recentOf config run.clock held).length ≤ held.length := length_filter_le _ _
  have fits := sound.holds.fits
  rw [total]
  rcases sound.recent_cases with none | full
  · rw [none, length_nil]
    omega
  · omega

end Run

lemma Gsensor.motionStateCheck_ready (config) {s : Gsensor} (counts decides) (ready : s.sensorReady = true) :
    (s.motionStateCheck config counts decides).window =
        ((s.window.getCount config counts).2.judgeState config decides).2 ∧
      (s.motionStateCheck config counts decides).currentGsensorState =
        ((s.window.getCount config counts).2.judgeState config decides).1 := by
  rw [motionStateCheck, if_pos ready]
  simp only [getMotionStatus]
  split
  · split <;> exact ⟨rfl, rfl⟩
  · exact ⟨rfl, rfl⟩

namespace Run

variable {config : MotDetConfig} {run : Run} {dropped held : List Nat}

lemma Sound.check (sound : Sound config run dropped held) {counts decides : Nat} (ready : run.sensor.sensorReady = true)
    (timed : run.Timed (.check counts decides)) :
    (∃ dropped held, Sound config (run.step config (.check counts decides)) dropped held) ∧
      ((run.step config (.check counts decides)).sensor.currentGsensorState = .motion ↔
        config.motdetVibration ≤ run.recent config decides ∧ ¬ run.Overfull config (.check counts decides)) := by
  obtain ⟨later, order, early⟩ := timed
  obtain ⟨-, more, first⟩ := sound.counted later (Nat.lt_of_le_of_lt order early)
  obtain ⟨count, again, second⟩ := first.counted order early
  obtain ⟨window, current⟩ := Gsensor.motionStateCheck_ready config counts decides ready
  refine ⟨⟨_, _, second.of_same window rfl rfl⟩, ?_⟩
  have enough := (first.later order early).enough_iff
  change (run.sensor.motionStateCheck config counts decides).currentGsensorState = .motion ↔ _
  rw [current, judgeState, count]
  simp only [Overfull, ready, true_and]
  refine Iff.trans ?_ enough
  split
  · exact iff_of_true rfl ‹_›
  · exact iff_of_false nofun ‹_›

lemma sound_kept (run : Run) (event) (sound : ∃ dropped held, Sound config run dropped held)
    (timed : run.Timed event) : ∃ dropped held, Sound config (run.step config event) dropped held := by
  obtain ⟨dropped, held, sound⟩ := sound
  cases event with
  | int anyMotion uptime =>
    cases anyMotion with
    | true =>
      obtain ⟨more, next⟩ := sound.interrupt timed.1 timed.2
      exact ⟨_, _, next⟩
    | false => exact ⟨_, _, sound.later timed.1 timed.2⟩
  | check counts decides =>
    cases ready : run.sensor.sensorReady with
    | true => exact (sound.check ready timed).1
    | false =>
      have idle : run.sensor.motionStateCheck config counts decides = run.sensor := by
        rw [Gsensor.motionStateCheck, ready]
        rfl
      obtain ⟨later, order, early⟩ := timed
      have next := sound.later (Nat.le_trans later order) early
      exact ⟨_, _, next.of_same (congrArg Gsensor.window idle) rfl rfl⟩
  | ready sensorReady => exact ⟨_, _, sound.of_same rfl rfl rfl⟩

lemma Sound.decides_iff (sound : Sound config run dropped held) {event : Event} (timed : run.Timed event) :
    run.Decides config event ↔ ¬ run.Overfull config event := by
  cases event with
  | int | ready => exact iff_of_true trivial not_false
  | check counts decides =>
    constructor
    · intro right overfull
      have needed := overfull.2.1 ▸ overfull.2.2
      exact ((sound.check overfull.1 timed).2.mp ((right overfull.1).mpr needed)).2 overfull
    · intro room ready
      exact (sound.check ready timed).2.trans (and_iff_left room)

def IndicesInRing (run : Run) : Prop :=
  run.sensor.window.head < timestampQueueSize ∧ run.sensor.window.tail < timestampQueueSize

/-- The ring indices stay in the ring, and every check decides by the interrupts of the last seconds exactly if none
that needs as many interrupts as the ring has cells finds them. -/
theorem decides_iff_never_overfull (config : MotDetConfig) (motdetalmSw : Bool) (events : List Event)
    (timed : Along (step config) Timed (start motdetalmSw) events) :
    Always (step config) IndicesInRing (start motdetalmSw) events ∧
      (Along (step config) (Decides config) (start motdetalmSw) events ↔
        Along (step config) (fun run event => ¬ run.Overfull config event) (start motdetalmSw) events) := by
  have started : ∃ dropped held, Sound config (start motdetalmSw) dropped held := ⟨[], [], start_sound _ _⟩
  constructor
  · intro n
    obtain ⟨dropped, held, sound⟩ := Along.always _ sound_kept started timed n
    exact ⟨sound.holds.head_lt, sound.holds.tail⟩
  · refine along_congr_of _ sound_kept ?_ started timed
    rintro run event ⟨dropped, held, sound⟩ timed
    exact sound.decides_iff timed

theorem three_vibrations_decide :
    Along (step ⟨3, 10, by decide, by decide⟩) (Decides ⟨3, 10, by decide, by decide⟩) (start true)
      [.ready true, .int true 1, .int true 2, .int true 3, .check 4 5, .check 10002 10003] := by
  refine (decides_iff_never_overfull _ true _ ?_).2.mpr ?_
  · simp [Along, Timed, step, start]
  · simp [Along, Overfull, timestampQueueSize]

def vibrate (n : Nat) : List Event := List.replicate n (.int true 0)

lemma vibrate_spec (config n) (run : Run) (began : run.clock = 0) :
    Along (step config) Timed run (vibrate n) ∧ ((vibrate n).foldl (step config) run).clock = 0 ∧
      ((vibrate n).foldl (step config) run).interrupts = run.interrupts ++ List.replicate n 0 ∧
      ((vibrate n).foldl (step config) run).sensor.sensorReady = run.sensor.sensorReady := by
  induction n generalizing run with
  | zero => exact ⟨trivial, began, (append_nil _).symm, rfl⟩
  | succ n ih =>
    obtain ⟨timed, clock, interrupts, ready⟩ := ih (run.step config (.int true 0)) rfl
    refine ⟨⟨⟨Nat.le_of_eq began, Nat.two_pow_pos 32⟩, timed⟩, clock, interrupts.trans ?_, ready⟩
    rw [replicate_succ, step, if_pos rfl, append_assoc]
    rfl

lemma vibrations_stay_static {config : MotDetConfig} (most : config.motdetVibration = timestampQueueSize) {n : Nat}
    (many : timestampQueueSize ≤ n) {run : Run}
    (reached : run = (Event.ready true :: vibrate n).foldl (step config) (start true)) :
    Along (step config) Timed (start true) (.ready true :: vibrate n ++ [.check 0 0]) ∧
      run.sensor.sensorReady = true ∧ run.recent config 0 = n ∧
      (run.step config (.check 0 0)).sensor.currentGsensorState = .static := by
  obtain ⟨timed, clock, interrupts, ready⟩ := vibrate_spec config n ((start true).step config (.ready true)) rfl
  have along : Along (step config) Timed (start true) (.ready true :: vibrate n) := ⟨trivial, timed⟩
  obtain ⟨dropped, held, sound⟩ : ∃ dropped held, Sound config run dropped held :=
    reached ▸ Along.invariant _ sound_kept ⟨[], [], start_sound _ _⟩ along
  rw [foldl_cons] at reached
  rw [← reached] at clock interrupts ready
  have now : run.Timed (.check 0 0) := ⟨Nat.le_of_eq clock, Nat.le_refl 0, Nat.two_pow_pos 32⟩
  have count : run.recent config 0 = n := by
    rw [recent, interrupts, countP_eq_length.mpr fun time _ => decide_eq_true (Nat.zero_le _)]
    exact (congrArg List.length (nil_append _)).trans length_replicate
  refine ⟨(along_append _ _ _).mpr ⟨along, ?_⟩, ready, count, ?_⟩
  · rw [foldl_cons, ← reached]
    exact ⟨now, trivial⟩
  · have overfull : run.Overfull config (.check 0 0) := ⟨ready, most, count.symm ▸ many⟩
    cases state : (run.step config (.check 0 0)).sensor.currentGsensorState with
    | static => rfl
    | motion => exact absurd overfull ((sound.check ready now).2.mp state).2

/-- With five hundred vibrations to be counted, five hundred in one instant do not give the state MOTION. -/
theorem five_hundred_vibrations_stay_static : ∃ (config : MotDetConfig) (events : List Event) (run : Run),
    config.motdetVibration = 500 ∧ run = events.foldl (step config) (start true) ∧
      Along (step config) Timed (start true) (events ++ [.check 0 0]) ∧ run.sensor.sensorReady = true ∧
      run.recent config 0 = 500 ∧ (run.step config (.check 0 0)).sensor.currentGsensorState = .static :=
  ⟨⟨500, 10, by decide, by decide⟩, .ready true :: vibrate 500, _, rfl, rfl,
    vibrations_stay_static rfl (Nat.le_refl timestampQueueSize) rfl⟩

end Run

end

variable {event : Event} {alarms : List Alarm} {config : MotDetConfig} {run : Run}

def nextAlarm (first : Alarm) (alarms : List Alarm) : Alarm := alarms.foldl (fun alarm _ => alarm.other) first

lemma alternates_append {first : Alarm} (alternates : Alternates first alarms) :
    Alternates first (alarms ++ [nextAlarm first alarms]) := by
  induction alarms generalizing first with
  | nil => exact ⟨rfl, trivial⟩
  | cons alarm alarms ih => exact ⟨alternates.1, ih alternates.2⟩

lemma nextAlarm_append (first alarm : Alarm) (alarms) :
    nextAlarm first (alarms ++ [alarm]) = (nextAlarm first alarms).other := by
  rw [nextAlarm, foldl_append]
  rfl

lemma Gsensor.motionStateCheck_alarms (config : MotDetConfig) {s : Gsensor} (counts decides : Nat)
    (same : s.lastGsensorState = s.currentGsensorState) (switched : s.motdetalmSw = true) :
    let after := s.motionStateCheck config counts decides
    after.lastGsensorState = after.currentGsensorState ∧ after.motdetalmSw = true ∧
      after.alarms = s.alarms ++ Run.changeAlarm after.currentGsensorState s.currentGsensorState := by
  have stays : ∀ state, Run.changeAlarm state state = [] := fun state => by cases state <;> rfl
  simp only [motionStateCheck]
  split
  · generalize (s.window.getCount config counts).2.judgeState config decides = judged
    by_cases changes : s.lastGsensorState ≠ judged.1
    · rw [if_pos changes]
      simp only [getMotionStatus, switched, if_true]
      refine ⟨trivial, trivial, ?_⟩
      rw [same] at changes
      cases new : judged.1 <;> cases old : s.currentGsensorState
      · exact absurd (old.trans new.symm) changes
      · rfl
      · rfl
      · exact absurd (old.trans new.symm) changes
    · rw [if_neg changes]
      rw [not_not, same] at changes
      refine ⟨same.trans changes, switched, ?_⟩
      rw [← changes, stays, append_nil]
  · exact ⟨same, switched, by rw [stays, append_nil]⟩

namespace Run

def alarmDue (state : GsensorState) : Alarm := if state = .static then .moveStop else .moveStart

lemma changeAlarm_alternates {old : GsensorState} (alternates : Alternates .moveStop alarms)
    (due : nextAlarm .moveStop alarms = alarmDue old) (new) :
    Alternates .moveStop (alarms ++ changeAlarm new old) ∧
      nextAlarm .moveStop (alarms ++ changeAlarm new old) = alarmDue new := by
  by_cases stays : new = old
  · have none : changeAlarm new old = [] := by cases new <;> cases old <;> first | rfl | cases stays
    rw [none, append_nil, stays]
    exact ⟨alternates, due⟩
  · have one : changeAlarm new old = [nextAlarm .moveStop alarms] := by
      rw [due]
      cases new <;> cases old <;> first | rfl | exact absurd rfl stays
    have other : (alarmDue old).other = alarmDue new := by
      cases new <;> cases old <;> first | rfl | exact absurd rfl stays
    rw [one, nextAlarm_append, due, other]
    exact ⟨due ▸ alternates_append alternates, rfl⟩

structure Swapped (run : Run) : Prop where
  same : run.sensor.lastGsensorState = run.sensor.currentGsensorState
  switched : run.sensor.motdetalmSw = true
  alternates : Alternates .moveStop run.sensor.alarms
  due : nextAlarm .moveStop run.sensor.alarms = alarmDue run.sensor.currentGsensorState

lemma start_swapped : (start true).Swapped := ⟨rfl, rfl, trivial, rfl⟩

def Opposes (config : MotDetConfig) (run : Run) (event : Event) : Prop :=
  (run.step config event).sensor.alarms = run.sensor.alarms ++
    changeAlarm (run.step config event).sensor.currentGsensorState run.sensor.currentGsensorState

lemma Swapped.step (swapped : run.Swapped) (event) :
    (run.step config event).Swapped ∧ run.Opposes config event := by
  have stays : run.sensor.alarms =
      run.sensor.alarms ++ changeAlarm run.sensor.currentGsensorState run.sensor.currentGsensorState := by
    cases run.sensor.currentGsensorState <;> exact (append_nil _).symm
  cases event with
  | int anyMotion uptime =>
    cases anyMotion with
    | true | false => exact ⟨{ swapped with }, stays⟩
  | ready sensorReady => exact ⟨{ swapped with }, stays⟩
  | check counts decides =>
    obtain ⟨same, switched, alarms⟩ :=
      Gsensor.motionStateCheck_alarms config counts decides swapped.same swapped.switched
    obtain ⟨alternates, due⟩ := changeAlarm_alternates swapped.alternates swapped.due
      (run.sensor.motionStateCheck config counts decides).currentGsensorState
    rw [← alarms] at alternates due
    exact ⟨⟨same, switched, alternates, due⟩, alarms⟩

lemma Opposes.follows_iff (opposes : run.Opposes config event) :
    run.Follows config event ↔ ¬ run.Changes config event := by
  rw [Follows, opposes, append_cancel_left_eq, Changes, not_not]
  generalize (run.step config event).sensor.currentGsensorState = new
  generalize run.sensor.currentGsensorState = old
  cases new <;> cases old <;> decide

lemma Opposes.silent (opposes : run.Opposes config event)
    (still : ¬ run.Changes config event) : (run.step config event).sensor.alarms = run.sensor.alarms := by
  rw [opposes, not_not.mp still]
  cases run.sensor.currentGsensorState <;> exact append_nil _

/-- The alarms follow the motion state: each step sends the alarm of its change, and they alternate from the start of a
motion on. -/
def AlarmsFollow (config : MotDetConfig) (events : List Event) : Prop :=
  Along (step config) (Follows config) (start true) events ∧
    Alternates .moveStart (events.foldl (step config) (start true)).sensor.alarms

/-- Every change of the state sends the alarm of the opposite change, so that the alarms alternate from the end of a motion
on, and they follow the state exactly if it never changes. -/
theorem alarms_oppose_changes (config : MotDetConfig) (events : List Event) :
    Along (step config) (Opposes config) (start true) events ∧
      Alternates .moveStop (events.foldl (step config) (start true)).sensor.alarms ∧
      (AlarmsFollow config events ↔
        Along (step config) (fun run event => ¬ run.Changes config event) (start true) events) := by
  have kept : ∀ (run : Run) event, run.Swapped → True → (run.step config event).Swapped := fun run event swapped _ =>
    (swapped.step event).1
  have always : Along (step config) (fun _ _ => True) (start true) events := along_true _ _
  have swapped := Along.invariant Swapped kept start_swapped always
  have same : Along (step config) (Follows config) (start true) events ↔
      Along (step config) (fun run event => ¬ run.Changes config event) (start true) events :=
    along_congr Swapped (fun run event swapped => (swapped.step event).1)
      (fun run event swapped => (swapped.step event).2.follows_iff) start_swapped
  refine ⟨Along.imp Swapped kept (fun run event swapped _ => (swapped.step event).2) start_swapped always,
    swapped.alternates, fun follows => same.mp follows.1, fun unchanged => ⟨same.mpr unchanged, ?_⟩⟩
  have silent := Along.invariant (fun run => run.Swapped ∧ run.sensor.alarms = [])
    (fun run event both still => ⟨(both.1.step event).1, ((both.1.step event).2.silent still).trans both.2⟩)
    ⟨start_swapped, rfl⟩ unchanged
  rw [silent.2]
  trivial

theorem motion_sends_move_stop : ∃ (config : MotDetConfig) (events : List Event) (run : Run),
    run = events.foldl (step config) (start true) ∧ run.sensor.currentGsensorState = .motion ∧
      run.sensor.alarms = [.moveStop] ∧ ¬ AlarmsFollow config events := by
  have alarms : ([.ready true, .int true 1, .check 2 3].foldl (step ⟨1, 10, by decide, by decide⟩)
      (start true)).sensor.alarms = [.moveStop] := by
    decide +kernel
  refine ⟨⟨1, 10, by decide, by decide⟩, [.ready true, .int true 1, .check 2 3], _, rfl, ?_, alarms, ?_⟩
  · decide +kernel
  · intro follows
    have alternates := follows.2
    rw [alarms] at alternates
    cases alternates.1

end Run

end LL320D.Motion

/-! One counter serves both directions of the overturn alarm: it counts the newest samples since the last alarm that all
lie on the side that the next alarm needs. -/

namespace LL320D.Motion.OverturnRun
open Library List

/-- The alarms so far, the newest first. -/
def alarms (run : OverturnRun) : List OverturnAlarm := run.trace.filterMap Prod.snd

def turned (run : OverturnRun) : Bool := run.alarms.head? = some .filp

def Alternating : List OverturnAlarm → Prop
  | [] => True
  | alarm :: earlier => (alarm = .filp ↔ earlier.head? ≠ some .filp) ∧ Alternating earlier

/-- How many samples since the last alarm lie on a side, without a break up to now. -/
def streak (side : EulerAngle → Bool) (run : OverturnRun) : Nat :=
  (run.trace.takeWhile fun sample => sample.2.isNone && side sample.1).length

section

variable (config : ImuAlmConfig) (rate : Nat) (turned : Bool)

def side (angle : EulerAngle) : Bool := if turned then config.below angle else config.above angle

def limit : Nat := (if turned then config.recoverTime else config.imuDurationTime) * rate

def due : OverturnAlarm := if turned then .filpBack else .filp

end

variable {config : ImuAlmConfig} {rate : Nat} {run : OverturnRun}

/-- A sample sends `ALARM_FILP_BACK` behind `ALARM_FILP` and `ALARM_FILP` otherwise, if it is the next one of so many on
the side of that alarm. -/
def Follows (config : ImuAlmConfig) (rate : Nat) (run : OverturnRun) (angle : EulerAngle) : Prop :=
  ∀ alarm, (overturnCheck config rate run.state angle).2 = some alarm ↔ alarm = due run.turned ∧
    side config run.turned angle = true ∧ run.streak (side config run.turned) + 1 = limit config rate run.turned + 1

structure Counts (config : ImuAlmConfig) (rate : Nat) (run : OverturnRun) : Prop where
  turned : run.turned = run.state.isOverTurn
  streak : run.state.timeCount = run.streak (side config run.state.isOverTurn)
  small : run.state.timeCount ≤ limit config rate run.state.isOverTurn
  alternating : Alternating run.alarms

section

variable (enabled : config.imuAlmSw = true)
include enabled

lemma overturnCheck_eq (s : Overturn) (angle) : overturnCheck config rate s angle =
      if side config s.isOverTurn angle then
        if limit config rate s.isOverTurn < s.timeCount + 1 then (⟨!s.isOverTurn, 0⟩, some (due s.isOverTurn))
        else ({ s with timeCount := s.timeCount + 1 }, none)
      else ({ s with timeCount := 0 }, none) := by
  cases turned : s.isOverTurn <;> simp [overturnCheck, side, limit, due, enabled, turned]

lemma Counts.step (counts : Counts config rate run) (angle) :
    Counts config rate (run.step config rate angle) := by
  obtain ⟨turned, streak, small, alternating⟩ := counts
  rw [OverturnRun.step, overturnCheck_eq enabled]
  cases lies : side config run.state.isOverTurn angle with
  | false => exact ⟨turned, by simp [OverturnRun.streak, lies], Nat.zero_le _, alternating⟩
  | true =>
    by_cases full : limit config rate run.state.isOverTurn < run.state.timeCount + 1
    · rw [if_pos rfl, if_pos full]
      refine ⟨?_, rfl, Nat.zero_le _, ?_, alternating⟩
      · cases run.state.isOverTurn <;> simp [OverturnRun.turned, alarms, due]
      · have last : run.alarms.head? = some .filp ↔ run.state.isOverTurn = true := turned ▸ decide_eq_true_iff.symm
        change due run.state.isOverTurn = .filp ↔ run.alarms.head? ≠ some .filp
        rw [ne_eq, last]
        cases run.state.isOverTurn <;> simp [due]
    · rw [if_pos rfl, if_neg full]
      exact ⟨turned, by simp [OverturnRun.streak, lies, streak], Nat.not_lt.mp full, alternating⟩

lemma Counts.follows (counts : Counts config rate run) (angle) : Follows config rate run angle := by
  intro alarm
  have small := counts.small
  rw [overturnCheck_eq enabled, counts.turned, ← counts.streak]
  split
  next lies =>
    split
    next full =>
      simp [lies, show run.state.timeCount = limit config rate run.state.isOverTurn by omega, eq_comm]
    next free => simp [show run.state.timeCount ≠ limit config rate run.state.isOverTurn by omega]
  next other => simp [other]

end

/-- Each sample sends the alarm that its streak asks for and no other, and the alarms alternate, from an overturn on. -/
theorem overturn_alarms_follow (config) (rate : Nat) (enabled : config.imuAlmSw = true)
    (samples : List EulerAngle) :
    Along (step config rate) (Follows config rate) start samples ∧
      Alternating (samples.foldl (step config rate) start).alarms := by
  have counts : Counts config rate start := ⟨rfl, rfl, Nat.zero_le _, trivial⟩
  obtain ⟨along, final⟩ := along_of_kept (Counts config rate) (fun _ angle counts => counts.step enabled angle)
    (fun _ angle counts => counts.follows enabled angle) counts
  exact ⟨along, final.alternating⟩

theorem tilted_cart_follows :
    Along (step ⟨true, 45, 255, 255, 1, 1⟩ 1) (Follows ⟨true, 45, 255, 255, 1, 1⟩ 1) start [⟨50, 0, 0⟩, ⟨50, 0, 0⟩] :=
  (overturn_alarms_follow _ _ rfl [⟨50, 0, 0⟩, ⟨50, 0, 0⟩]).1

end LL320D.Motion.OverturnRun
