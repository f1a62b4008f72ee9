import LL320D.LowPower

/-! The battery voltage that is read, and the percentage that is shown. -/

namespace LL320D.LowPower
open Library List

/-- The scaled mean of the samples without a largest and a smallest one. -/
def trimmedMv (samples : List Int) : Int :=
  calcActualMv ((samples.sum - samples.foldr max 0 - samples.foldr min 10000).tdiv (battAdcSampleNum - 2))

lemma trimmedMv_perm {samples other : List Int} (perm : samples.Perm other) : trimmedMv samples = trimmedMv other := by
  rw [trimmedMv, trimmedMv, perm.sum_eq, perm.foldr_eq, perm.foldr_eq]

lemma calcActualMv_lt {low high : Int} (less : low < high) : calcActualMv low < calcActualMv high := by
  rw [calcActualMv, calcActualMv, Int.tdiv_eq_ediv, Int.tdiv_eq_ediv, show Int.sign 680 = 1 from rfl]
  split <;> split <;> omega

lemma calcActualMv_mono : StrictMono calcActualMv := fun _ _ => calcActualMv_lt

/-- Whether a largest and a smallest sample are taken off, given what `*mv` held before: the first sample on each side
of the old content is taken off, the last one if there is none, and 0 or 10000 if the old content is not in between. -/
def Trims (mv a b c : Int) : Prop :=
  if mv < 0 then max a b ≤ c ∧ min a b = 0
  else if mv = 0 then a = 0 ∧ b = 0 ∧ c = 0
  else if 10000 < mv then c ≤ min a b ∧ max a b = 10000
  else if mv = 10000 then a = 10000 ∧ b = 10000 ∧ c = 10000
  else if a = mv then b + c = 2 * a
  else if min a b ≤ mv ∧ mv ≤ max a b then min a b ≤ c ∧ c ≤ max a b
  else min a c ≤ b ∧ b ≤ max a c

instance (mv a b c : Int) : Decidable (Trims mv a b c) := inferInstanceAs (Decidable (ite _ _ _))

lemma sampleLoop_maxMv (mv a b c : Int) : ((((⟨0, 10000, 0⟩ : Samples).add mv a).add mv b).add mv c).maxMv =
    if mv ≤ 0 then 0 else if mv ≤ a then a else if mv ≤ b then b else c := by
  simp only [Samples.add]
  split_ifs <;> omega

lemma sampleLoop_minMv (mv a b c : Int) : ((((⟨0, 10000, 0⟩ : Samples).add mv a).add mv b).add mv c).minMv =
    if 10000 ≤ mv then 10000 else if a ≤ mv then a else if b ≤ mv then b else c := by
  simp only [Samples.add]
  split_ifs <;> omega

lemma trims_iff {mv a b c : Int} (range : (0 ≤ a ∧ a ≤ 10000) ∧ (0 ≤ b ∧ b ≤ 10000) ∧ 0 ≤ c ∧ c ≤ 10000) :
    ((if mv ≤ 0 then 0 else if mv ≤ a then a else if mv ≤ b then b else c) +
      (if 10000 ≤ mv then 10000 else if a ≤ mv then a else if b ≤ mv then b else c) =
        max a (max b c) + min a (min b c)) ↔ Trims mv a b c := by
  unfold Trims
  rcases Int.lt_or_le 0 mv with positive | low
  · rw [if_neg (Int.not_le.mpr positive), if_neg (Int.not_lt.mpr positive.le), if_neg positive.ne']
    rcases Int.lt_or_le mv 10000 with inside | high
    · rw [if_neg (Int.not_le.mpr inside), if_neg (Int.not_lt.mpr inside.le), if_neg inside.ne]
      split_ifs <;> omega
    · rw [if_pos high]
      split_ifs <;> omega
  · rw [if_pos low, if_neg (by omega : ¬ 10000 ≤ mv)]
    split_ifs <;> omega

/-- The result is the trimmed mean exactly if the old content of `*mv` lets the loop take off a largest and a smallest
sample. -/
theorem trimmed_iff (mv a b c : Int) (range : ∀ sample ∈ [a, b, c], 0 ≤ sample ∧ sample ≤ 10000) :
    (myBatteryReadMv mv [.ok a, .ok b, .ok c] = (0, trimmedMv [a, b, c]) ↔ Trims mv a b c) ∧
      (∀ other : List Int, other.Perm [a, b, c] → trimmedMv other = trimmedMv [a, b, c]) ∧
      calcActualMv (min a (min b c)) ≤ trimmedMv [a, b, c] ∧ trimmedMv [a, b, c] ≤ calcActualMv (max a (max b c)) := by
  simp only [forall_mem_cons, not_mem_nil, false_implies, implies_true, and_true] at range
  have trimmed : trimmedMv [a, b, c] = calcActualMv (a + b + c - max a (max b c) - min a (min b c)) := by
    simp only [trimmedMv, sum_cons, sum_nil, foldr_cons, foldr_nil, battAdcSampleNum, Int.reduceSub, Int.tdiv_one]
    congr 1
    omega
  refine ⟨?_, fun other perm => trimmedMv_perm perm, ?_, ?_⟩
  · have largest := sampleLoop_maxMv mv a b c
    have smallest := sampleLoop_minMv mv a b c
    generalize loop : ((((⟨0, 10000, 0⟩ : Samples).add mv a).add mv b).add mv c) = s at largest smallest
    have sum : s.sumMv = 0 + a + b + c := by rw [← loop]; rfl
    have read : myBatteryReadMv mv [.ok a, .ok b, .ok c] = (0, calcActualMv (s.sumMv - s.maxMv - s.minMv)) := by
      rw [← Int.tdiv_one (s.sumMv - _ - _), ← loop]
      rfl
    rw [read, trimmed, Prod.mk.injEq, and_iff_right rfl, calcActualMv_mono.injective.eq_iff, ← trims_iff range, ← largest,
      ← smallest]
    omega
  all_goals
    rw [trimmed]
    exact calcActualMv_mono.monotone (by omega)

theorem ordered_samples_trimmed : myBatteryReadMv 3900 [.ok 990, .ok 1000, .ok 1010] = (0, trimmedMv [990, 1000, 1010]) :=
  (trimmed_iff 3900 990 1000 1010 (by decide)).1.mpr (by decide)

/-- The first reading is twice the voltage: nothing is above 0, so no maximum is taken off. -/
theorem first_reading_doubled :
    myBatteryReadMv 0 [.ok 1000, .ok 1000, .ok 1000] = (0, 7882) ∧ trimmedMv [1000, 1000, 1000] = 3941 := by decide

namespace Battery

/-- An update behind the first: what was read, and what was shown before. -/
structure Update where
  charging : Bool
  percent : Fin 101
  shown : Int
  deriving DecidableEq

def Update.Towards (u : Update) : Prop := if u.charging then u.shown < u.percent else u.percent < u.shown

def stepped (b : Battery) (charging : Bool) (percent : Int) : Battery :=
  if charging then b.countTo (b.showPercent < percent) 1 else b.countTo (percent < b.showPercent) (-1)

/-- The battery, with its updates, the newest first. -/
structure Run where
  battery : Battery
  updates : List Update

namespace Run

def now (run : Run) (reading : Bool × Fin 101) : Update := ⟨reading.1, reading.2, run.battery.showPercent⟩

def step (run : Run) (reading : Bool × Fin 101) : Run :=
  ⟨run.battery.update reading.1 reading.2, run.now reading :: run.updates⟩

def start (reading : Bool × Fin 101) : Run := ⟨powerOn.update reading.1 reading.2, []⟩

/-- The previous reading is far from the display and close to this one. -/
def Confirms (run : Run) (reading : Bool × Fin 101) : Prop :=
  ∃ last ∈ run.updates.head?, 5 ≤ (last.percent - run.battery.showPercent).natAbs ∧
    ((reading.2 : Int) - last.percent).natAbs ≤ 1

/-- What is shown changes by one step behind three updates in its direction, or by a jump to the reading. -/
structure Smooth (run : Run) (reading : Bool × Fin 101) : Prop where
  range : 0 ≤ (run.step reading).battery.showPercent ∧ (run.step reading).battery.showPercent ≤ 100
  change : (run.step reading).battery.showPercent ≠ run.battery.showPercent →
    (run.step reading).battery.showPercent = run.battery.showPercent + (if reading.1 then 1 else -1) ∧
        2 ≤ run.updates.length ∧ (∀ u ∈ run.now reading :: run.updates.take 2, u.charging = reading.1 ∧ u.Towards) ∨
      (run.step reading).battery.showPercent = reading.2 ∧ 5 ≤ (reading.2 - run.battery.showPercent).natAbs ∧
        run.Confirms reading

/-- The third update in a row that counts, and no jump behind it. -/
def StepsOnly (run : Run) (reading : Bool × Fin 101) : Prop :=
  (run.now reading).Towards ∧ run.battery.updateCount = 2 ∧
    ¬ (6 ≤ (reading.2 - run.battery.showPercent).natAbs ∧ run.Confirms reading)

structure Tracks (run : Run) : Prop where
  first : run.battery.firstUpdate = false
  range : 0 ≤ run.battery.showPercent ∧ run.battery.showPercent ≤ 100
  count : run.battery.updateCount ≤ 2 ∧ run.battery.updateCount ≤ run.updates.length ∧
    ∀ u ∈ run.updates.take run.battery.updateCount, u.Towards
  jump (percent : Int) : 0 ≤ percent ∧ run.battery.jumpPercent = percent ↔
    ∃ last ∈ run.updates.head?, last.percent = percent ∧ 5 ≤ (percent - run.battery.showPercent).natAbs

variable {run : Run} (reading : Bool × Fin 101)

lemma stepped_cases (run : Run) :
    ((run.now reading).Towards ∧ 2 ≤ run.battery.updateCount ∧ run.battery.stepped reading.1 reading.2 =
      { run.battery with updateCount := 0, showPercent := run.battery.showPercent + if reading.1 then 1 else -1 }) ∨
    ((run.now reading).Towards ∧ run.battery.updateCount < 2 ∧ run.battery.stepped reading.1 reading.2 =
      { run.battery with updateCount := run.battery.updateCount + 1 }) ∨
    (¬ (run.now reading).Towards ∧ run.battery.stepped reading.1 reading.2 = { run.battery with updateCount := 0 }) := by
  obtain ⟨charging, percent⟩ := reading
  have full : battUpdateCount ≤ run.battery.updateCount + 1 ↔ 2 ≤ run.battery.updateCount := Nat.succ_le_succ_iff
  cases charging <;> simp only [Update.Towards, now, Battery.stepped, countTo, full] <;> grind

lemma jump_cases (b : Battery) (percent : Int) :
    ((percent - b.showPercent).natAbs < 5 ∧ b.jump percent = { b with jumpPercent := -1 }) ∨
    5 ≤ (percent - b.showPercent).natAbs ∧
      ((¬ (0 ≤ b.jumpPercent ∧ (percent - b.jumpPercent).natAbs ≤ 1) ∧ b.jump percent = { b with jumpPercent := percent }) ∨
        ((0 ≤ b.jumpPercent ∧ (percent - b.jumpPercent).natAbs ≤ 1) ∧
          b.jump percent = { b with showPercent := percent, jumpPercent := -1 })) := by
  rw [Battery.jump]
  grind

section

variable (tracks : Tracks run)
include tracks

lemma Tracks.stepped : ∃ mid, run.battery.stepped reading.1 reading.2 = mid ∧ mid.firstUpdate = false ∧
      mid.jumpPercent = run.battery.jumpPercent ∧ (0 ≤ mid.showPercent ∧ mid.showPercent ≤ 100) ∧
      mid.updateCount ≤ 2 ∧ mid.updateCount ≤ run.updates.length + 1 ∧
      ∀ u ∈ (run.now reading :: run.updates).take mid.updateCount, u.Towards := by
  obtain ⟨first, range, ⟨-, length, all⟩, -⟩ := tracks
  have percent := reading.2.isLt
  rcases stepped_cases reading run with ⟨towards, -, moved⟩ | ⟨towards, few, counted⟩ | ⟨-, reset⟩
  · refine ⟨_, moved, first, rfl, ?_, Nat.zero_le _, Nat.zero_le _, nofun⟩
    simp only [Update.Towards, now] at towards
    cases charging : reading.1 <;> simp only [charging, if_true, Bool.false_eq_true, if_false] at towards ⊢ <;> omega
  · refine ⟨_, counted, first, rfl, range, few, Nat.succ_le_succ length, ?_⟩
    exact forall_mem_cons.mpr ⟨towards, all⟩
  · exact ⟨_, reset, first, rfl, range, Nat.zero_le _, Nat.zero_le _, nofun⟩

lemma Tracks.battery : (run.step reading).battery = (run.battery.stepped reading.1 reading.2).jump reading.2 := by
  simp [Run.step, update, Battery.stepped, tracks.first]

lemma Tracks.step : Tracks (run.step reading) := by
  obtain ⟨mid, same, first, -, range, count⟩ := tracks.stepped reading
  have percent := reading.2.isLt
  have battery := tracks.battery reading
  have newest : (run.step reading).updates.head? = some (run.now reading) := rfl
  rw [same] at battery
  rcases jump_cases mid reading.2 with ⟨close, none⟩ | ⟨far, ⟨-, kept⟩ | ⟨-, jumped⟩⟩
  · rw [none] at battery
    refine ⟨battery ▸ first, battery ▸ range, battery ▸ count, fun percent => ?_⟩
    simp only [battery, newest, Option.mem_some_iff, exists_eq_left', now]
    omega
  · rw [kept] at battery
    refine ⟨battery ▸ first, battery ▸ range, battery ▸ count, fun percent => ?_⟩
    simp only [battery, newest, Option.mem_some_iff, exists_eq_left', now]
    omega
  · rw [jumped] at battery
    refine ⟨battery ▸ first, ?_, battery ▸ count, fun percent => ?_⟩
    · rw [battery]
      dsimp only
      omega
    · simp only [battery, newest, Option.mem_some_iff, exists_eq_left', now]
      omega

lemma Tracks.confirms_iff :
    run.Confirms reading ↔ 0 ≤ run.battery.jumpPercent ∧ (reading.2 - run.battery.jumpPercent).natAbs ≤ 1 := by
  constructor
  · rintro ⟨last, newest, far, near⟩
    obtain ⟨set, value⟩ := (tracks.jump last.percent).mpr ⟨last, newest, rfl, far⟩
    rw [value]
    exact ⟨set, near⟩
  · rintro ⟨set, near⟩
    obtain ⟨last, newest, value, far⟩ := (tracks.jump run.battery.jumpPercent).mp ⟨set, rfl⟩
    exact ⟨last, newest, value ▸ far, value ▸ near⟩

lemma Tracks.jumped (mid : Battery) (remembered : mid.jumpPercent = run.battery.jumpPercent) :
    ((5 ≤ (reading.2 - mid.showPercent).natAbs ∧ run.Confirms reading) ∧ (mid.jump reading.2).showPercent = reading.2) ∨
    (¬ (5 ≤ (reading.2 - mid.showPercent).natAbs ∧ run.Confirms reading) ∧
      (mid.jump reading.2).showPercent = mid.showPercent) := by
  have confirms := tracks.confirms_iff reading
  rw [← remembered] at confirms
  rcases jump_cases mid reading.2 with ⟨close, none⟩ | ⟨far, ⟨apart, kept⟩ | ⟨near, jumped⟩⟩
  · exact .inr ⟨fun jumps => absurd close (Nat.not_lt.mpr jumps.1), by rw [none]⟩
  · exact .inr ⟨fun jumps => apart (confirms.mp jumps.2), by rw [kept]⟩
  · exact .inl ⟨⟨far, confirms.mpr near⟩, by rw [jumped]⟩

/-- What is shown after an update: the reading behind a jump, one step behind two updates that counted, or no change. -/
lemma Tracks.shown :
    (¬ run.StepsOnly reading ∧ (run.step reading).battery.showPercent = reading.2 ∧
      5 ≤ (reading.2 - run.battery.showPercent).natAbs ∧ run.Confirms reading) ∨
    (run.StepsOnly reading ∧
      (run.step reading).battery.showPercent = run.battery.showPercent + if reading.1 then 1 else -1) ∨
    (¬ run.StepsOnly reading ∧ (run.step reading).battery.showPercent = run.battery.showPercent) := by
  rw [tracks.battery]
  rcases stepped_cases reading run with ⟨towards, full, same⟩ | ⟨-, short, same⟩ | ⟨away, same⟩
  · have closer : (reading.2 - run.battery.showPercent).natAbs =
        (reading.2 - (run.battery.showPercent + if reading.1 then 1 else -1)).natAbs + 1 := by
      simp only [Update.Towards, now] at towards
      cases charging : reading.1 <;> simp only [charging, if_true, Bool.false_eq_true, if_false] at towards ⊢ <;> omega
    have six : 6 ≤ (reading.2 - run.battery.showPercent).natAbs ↔
        5 ≤ (reading.2 - (run.battery.showPercent + if reading.1 then 1 else -1)).natAbs := by rw [closer, Nat.succ_le_succ_iff]
    rw [same]
    rcases tracks.jumped reading { run.battery with
        updateCount := 0, showPercent := run.battery.showPercent + if reading.1 then 1 else -1 } rfl with
      ⟨jumps, shown⟩ | ⟨stays, shown⟩
    · exact .inl ⟨fun steps => steps.2.2 ⟨six.mpr jumps.1, jumps.2⟩, shown, Nat.le_of_succ_le (six.mpr jumps.1), jumps.2⟩
    · exact .inr (.inl ⟨⟨towards, Nat.le_antisymm tracks.count.1 full, fun far => stays ⟨six.mp far.1, far.2⟩⟩, shown⟩)
  · have few : ¬ run.StepsOnly reading := fun steps => absurd steps.2.1 (Nat.ne_of_lt short)
    rw [same]
    exact (tracks.jumped reading { run.battery with updateCount := run.battery.updateCount + 1 } rfl).imp
      (fun ⟨jumps, shown⟩ => ⟨few, shown, jumps⟩) fun stays => .inr ⟨few, stays.2⟩
  · have other : ¬ run.StepsOnly reading := fun steps => away steps.1
    rw [same]
    exact (tracks.jumped reading { run.battery with updateCount := 0 } rfl).imp
      (fun ⟨jumps, shown⟩ => ⟨other, shown, jumps⟩) fun stays => .inr ⟨other, stays.2⟩

lemma Tracks.steady :
    Smooth run reading ↔ (run.StepsOnly reading → ∀ u ∈ run.updates.take 2, u.charging = reading.1) := by
  have range := (tracks.step reading).range
  rcases tracks.shown reading with ⟨other, jumps⟩ | ⟨steps, shown⟩ | ⟨other, kept⟩
  · exact iff_of_true ⟨range, fun _ => .inr jumps⟩ fun steps => absurd steps other
  · constructor
    · intro smooth _ u member
      rcases smooth.change (by rw [shown]; split <;> omega) with ⟨-, -, alike⟩ | ⟨reached, far, -⟩
      · exact (alike u (mem_cons_of_mem _ member)).1
      · rw [shown] at reached
        split at reached <;> omega
    · intro alike
      refine ⟨range, fun _ => .inl ⟨shown, ?_⟩⟩
      obtain ⟨-, length, all⟩ := tracks.count
      rw [steps.2.1] at length all
      exact ⟨length, forall_mem_cons.mpr ⟨⟨rfl, steps.1⟩, fun u member => ⟨alike steps u member, all u member⟩⟩⟩
  · exact iff_of_true ⟨range, fun changed => absurd kept changed⟩ fun steps => absurd steps other

end

/-- One counter serves both directions. So an update is smooth exactly if it is not a third one that counts, with no jump
behind it, of which the two before were in another charging state. -/
theorem smooth_iff (first readings) :
    Along step (fun run reading => Smooth run reading ↔
      (StepsOnly run reading → ∀ u ∈ run.updates.take 2, u.charging = reading.1)) (start first) readings := by
  have percent := first.2.isLt
  have begun : Tracks (start first) := by
    obtain ⟨charging, percent⟩ := first
    cases charging <;> constructor <;> simp [start, update, powerOn, countTo, Battery.jump] <;> omega
  exact (along_of_kept Tracks (fun _ reading tracks => tracks.step reading)
    (fun _ reading tracks => tracks.steady reading) begun).1

/-- Two readings below without the charger and one above with it. -/
theorem charger_steps_up : ∃ run, run = [(false, 49), (false, 49)].foldl step (start (false, 50)) ∧
    run.battery.showPercent = 50 ∧ (run.step (true, 51)).battery.showPercent = 51 ∧ ¬ Smooth run (true, 51) := by
  refine ⟨_, rfl, by decide, by decide, fun smooth => ?_⟩
  rcases smooth.change (by decide) with ⟨-, -, alike⟩ | ⟨-, far, -⟩
  · exact absurd (alike ⟨false, 49, 50⟩ (by decide)).1 (by decide)
  · exact absurd far (by decide)

end Run

end Battery

end LL320D.LowPower
