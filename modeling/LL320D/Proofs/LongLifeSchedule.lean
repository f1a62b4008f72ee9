import LL320D.WorkMode

/-! The next instant of the long-life schedule. -/

namespace LL320D.LongLife
open WorkMode List

variable {longBattery : LongBattery} {interval : Nat}

structure Accepted (longBattery : LongBattery) : Prop where
  interval : 5 ≤ longBattery.reportingIntervalMin
  four : longBattery.startTime.length = 4
  digits : longBattery.startTime.all Char.isDigit = true
  hours : atoi longBattery.startTime / 100 ≤ 24
  minutes : atoi longBattery.startTime % 100 ≤ 59
  midnight : atoi longBattery.startTime / 100 = 24 → atoi longBattery.startTime % 100 = 0

lemma accepted_of_set {workmode config : DeviceConfig} {gnssSw : Nat} {startTime : List Char}
    (set : setLongBatteryParams workmode interval startTime gnssSw = some config) : Accepted config.longBattery := by
  simp only [setLongBatteryParams] at set
  split at set
  · cases set
  split at set
  · cases set
  split at set
  · cases set
  split at set
  · cases set
  split at set
  · cases set
  cases set
  constructor <;> simp_all

def remaining (base interval current : Nat) : Nat :=
  if current < base then base - current
  else if base + ((current - base) / interval + 1) * interval < daySeconds then
    base + ((current - base) / interval + 1) * interval - current
  else base + daySeconds - current

lemma remaining_cases (base : Nat) (positive : 0 < interval) (current : Nat) :
    current < base ∧ remaining base interval current + current = base ∨
      ∃ n, base + n * interval ≤ current ∧ current < base + (n + 1) * interval ∧
        (base + (n + 1) * interval < daySeconds ∧ remaining base interval current + current = base + (n + 1) * interval ∨
          daySeconds ≤ base + (n + 1) * interval ∧
            (current < daySeconds → remaining base interval current + current = base + daySeconds)) := by
  simp only [remaining]
  by_cases early : current < base
  · rw [if_pos early]
    exact .inl ⟨early, by omega⟩
  · have passed := Nat.div_mul_le_self (current - base) interval
    have next : current - base < ((current - base) / interval + 1) * interval :=
      Nat.lt_mul_of_div_lt (Nat.lt_succ_self _) positive
    rw [if_neg early]
    refine .inr ⟨(current - base) / interval, by omega, by omega, ?_⟩
    split
    · exact .inl ⟨‹_›, by omega⟩
    · exact .inr ⟨by omega, by omega⟩

lemma between_instants {base n : Nat} (k second : Nat) (after : base + n * interval < second)
    (before : second < base + (n + 1) * interval) : second ≠ base + k * interval := by
  rcases Nat.lt_or_ge n k with later | earlier
  · have bound : (n + 1) * interval ≤ k * interval := Nat.mul_le_mul_right interval later
    omega
  · have bound := Nat.mul_le_mul_right interval earlier
    omega

lemma remaining_next (positive : 0 < longBattery.reportingIntervalMin)
    (start : startSecond longBattery.startTime < daySeconds) (currentTime : Int) :
    NextInstant longBattery currentTime (remaining (startSecond longBattery.startTime)
      (longBattery.reportingIntervalMin * 60) (currentTime % daySeconds).toNat) := by
  obtain ⟨current, isCurrent⟩ : ∃ current, (currentTime % daySeconds).toNat = current := ⟨_, rfl⟩
  have cases := remaining_cases (startSecond longBattery.startTime) (Nat.mul_pos positive (by decide : 0 < 60)) current
  rw [isCurrent]
  -- whatever is scheduled lies a number of intervals after the start time on its day
  have scheduled : ∀ instant, Scheduled longBattery instant ↔ ∃ k : Nat, instant % 86400 =
      (startSecond longBattery.startTime + k * (longBattery.reportingIntervalMin * 60) : Nat) ∧
      startSecond longBattery.startTime + k * (longBattery.reportingIntervalMin * 60) < 86400 := fun _ => Iff.rfl
  generalize remaining (startSecond longBattery.startTime) (longBattery.reportingIntervalMin * 60) current = delay at cases ⊢
  generalize startSecond longBattery.startTime = base at cases scheduled start
  generalize longBattery.reportingIntervalMin * 60 = interval at cases scheduled
  simp only [daySeconds] at isCurrent start cases
  rcases cases with ⟨early, sum⟩ | ⟨n, passed, next, ⟨today, sum⟩ | ⟨tomorrow, sum⟩⟩
  · refine ⟨by omega, by simp only [daySeconds]; omega, (scheduled _).mpr ⟨0, by omega, by omega⟩, ?_⟩
    intro instant after before due
    obtain ⟨k, same, -⟩ := (scheduled instant).mp due
    omega
  · refine ⟨by omega, by simp only [daySeconds]; omega, (scheduled _).mpr ⟨n + 1, by omega, today⟩, ?_⟩
    intro instant after before due
    obtain ⟨k, same, -⟩ := (scheduled instant).mp due
    exact between_instants k (instant % 86400).toNat (by omega) (by omega : _ < base + (n + 1) * interval) (by omega)
  · have sum := sum (by omega)
    refine ⟨by omega, by simp only [daySeconds]; omega, (scheduled _).mpr ⟨0, by omega, by omega⟩, ?_⟩
    intro instant after before due
    obtain ⟨k, same, -⟩ := (scheduled instant).mp due
    by_cases today : current < (instant % 86400).toNat
    · exact between_instants k (instant % 86400).toNat (by omega) (by omega : _ < base + (n + 1) * interval) (by omega)
    · omega

lemma digit_spec {c : Char} (isDigit : c.isDigit = true) : digit c ≤ 9 ∧ c = Char.ofNat (48 + digit c) := by
  obtain ⟨least, most⟩ := Bool.and_eq_true_iff.mp isDigit
  have least : 48 ≤ c.toNat := UInt32.le_iff_toNat_le.mp (of_decide_eq_true least)
  have most : c.toNat ≤ 57 := UInt32.le_iff_toNat_le.mp (of_decide_eq_true most)
  have value : digit c = c.toNat - 48 := rfl
  refine ⟨by omega, ?_⟩
  rw [value, Nat.add_sub_cancel' least, Char.ofNat_toNat]

lemma four_digits {str : List Char} (four : str.length = 4) : ∃ h o m n, str = [h, o, m, n] := by
  obtain ⟨h, rest, rfl⟩ := exists_cons_of_length_eq_add_one four
  obtain ⟨o, m, n, rfl⟩ := length_eq_three.mp (Nat.succ.inj four)
  exact ⟨h, o, m, n, rfl⟩

lemma Accepted.parts (accepted : Accepted longBattery) : ∃ h o m n,
    longBattery.startTime = [h, o, m, n] ∧ (∀ c ∈ [h, o, m, n], digit c ≤ 9 ∧ c = Char.ofNat (48 + digit c)) ∧
      atoi longBattery.startTime / 100 = digit h * 10 + digit o ∧
      atoi longBattery.startTime % 100 = digit m * 10 + digit n := by
  obtain ⟨h, o, m, n, is⟩ := four_digits accepted.four
  have each : ∀ c ∈ [h, o, m, n], digit c ≤ 9 ∧ c = Char.ofNat (48 + digit c) := fun c member =>
    digit_spec (all_eq_true.mp (is ▸ accepted.digits) c member)
  have value : atoi longBattery.startTime = 10 * (10 * (10 * digit h + digit o) + digit m) + digit n := by
    rw [is]
    simp only [atoi, foldl_cons, foldl_nil, digit, Nat.mul_zero, Nat.zero_add]
  have tens := (each m (by simp)).1
  have ones := (each n (by simp)).1
  exact ⟨h, o, m, n, is, each, by omega, by omega⟩

lemma calculateRemainingSeconds_eq (accepted : Accepted longBattery) (currentTime : Int) :
    calculateRemainingSeconds longBattery.startTime longBattery.reportingIntervalMin currentTime =
      if currentTime < 0 ∨ atoi longBattery.startTime / 100 = 24 then none
      else some (remaining (startSecond longBattery.startTime) (longBattery.reportingIntervalMin * 60)
        (currentTime % daySeconds).toNat) := by
  obtain ⟨h, o, m, n, is, -, hour, minute⟩ := accepted.parts
  obtain ⟨interval, -, digits, hours, minutes, -⟩ := accepted
  have base : startSecond longBattery.startTime = (digit h * 10 + digit o) * 3600 + (digit m * 10 + digit n) * 60 := by
    rw [startSecond, hour, minute]
  rw [base, hour]
  rw [hour] at hours
  rw [minute] at minutes
  rw [is] at digits ⊢
  simp only [calculateRemainingSeconds, remaining, digits, not_true, if_false]
  rw [if_neg (by omega : ¬ longBattery.reportingIntervalMin = 0)]
  by_cases early : currentTime < 0
  · rw [if_pos early, if_pos (.inl early)]
  · rw [if_neg early]
    by_cases late : digit h * 10 + digit o = 24
    · rw [if_pos (.inl (by omega)), if_pos (.inr late)]
    · rw [if_neg (by omega : ¬ (23 < digit h * 10 + digit o ∨ 59 < _)), if_neg (not_or.mpr ⟨early, late⟩)]
      simp only [apply_ite some]

lemma hour_24_iff (accepted : Accepted longBattery) :
    atoi longBattery.startTime / 100 = 24 ↔ longBattery.startTime = ['2', '4', '0', '0'] := by
  constructor
  · intro late
    obtain ⟨h, o, m, n, is, each, hour, minute⟩ := accepted.parts
    have sharp := accepted.midnight late
    obtain ⟨ones, isO⟩ := each o (by simp)
    have isH := (each h (by simp)).2
    have isM := (each m (by simp)).2
    have isN := (each n (by simp)).2
    rw [show digit h = 2 by omega] at isH
    rw [show digit o = 4 by omega] at isO
    rw [show digit m = 0 by omega] at isM
    rw [show digit n = 0 by omega] at isN
    rw [is, isH, isO, isM, isN]
  · intro is
    rw [is]
    rfl

/-- For a start time before midnight the timer is started for the next instant of the schedule and a random offset; for
that instant exactly if the clock can be read and the offset is none. -/
theorem timer_started_iff {workmode config : DeviceConfig} {interval gnssSw : Nat} {startTime : List Char}
    (set : setLongBatteryParams workmode interval startTime gnssSw = some config) (currentTime : Int)
    (random : Option (BitVec 32)) :
    (0 ≤ currentTime → config.longBattery.startTime ≠ ['2', '4', '0', '0'] → ∃ delay,
      calculateRemainingSeconds config.longBattery.startTime config.longBattery.reportingIntervalMin currentTime =
          some delay ∧
        NextInstant config.longBattery currentTime delay ∧
        setResetLteTimer config.longBattery currentTime random =
          some ((delay + (rand0To120Seconds random).getD 0) * 1000)) ∧
      ((∃ delay, calculateRemainingSeconds config.longBattery.startTime config.longBattery.reportingIntervalMin
            currentTime = some delay ∧
          NextInstant config.longBattery currentTime delay ∧
          setResetLteTimer config.longBattery currentTime random = some (delay * 1000)) ↔
        0 ≤ currentTime ∧ config.longBattery.startTime ≠ ['2', '4', '0', '0'] ∧
          (rand0To120Seconds random).getD 0 = 0) := by
  have accepted := accepted_of_set set
  have calculated := calculateRemainingSeconds_eq accepted currentTime
  simp only [hour_24_iff accepted] at calculated
  have armed : setResetLteTimer config.longBattery currentTime random =
      (calculateRemainingSeconds config.longBattery.startTime config.longBattery.reportingIntervalMin currentTime).map
        fun delay => (delay + (rand0To120Seconds random).getD 0) * 1000 := by
    simp only [setResetLteTimer]
    cases calculateRemainingSeconds config.longBattery.startTime config.longBattery.reportingIntervalMin currentTime <;> rfl
  have next : 0 ≤ currentTime → config.longBattery.startTime ≠ ['2', '4', '0', '0'] → ∃ delay,
      calculateRemainingSeconds config.longBattery.startTime config.longBattery.reportingIntervalMin currentTime =
        some delay ∧ NextInstant config.longBattery currentTime delay := by
    intro time before
    rw [if_neg fun either => either.elim (Int.not_lt.mpr time) before] at calculated
    refine ⟨_, calculated, remaining_next (by have := accepted.interval; omega) ?_ currentTime⟩
    have hours : atoi config.longBattery.startTime / 100 ≠ 24 := fun is => before ((hour_24_iff accepted).mp is)
    have most := accepted.hours
    have minutes := accepted.minutes
    simp only [startSecond, daySeconds]
    omega
  constructor
  · intro time before
    obtain ⟨delay, calculated, isNext⟩ := next time before
    exact ⟨delay, calculated, isNext, by rw [armed, calculated]; rfl⟩
  · constructor
    · rintro ⟨delay, found, -, started⟩
      rw [armed, found] at started
      have offset : (delay + (rand0To120Seconds random).getD 0) * 1000 = delay * 1000 := Option.some.inj started
      rw [calculated] at found
      split at found
      · cases found
      · next neither => exact ⟨by omega, fun is => neither (.inr is), by omega⟩
    · rintro ⟨time, before, none⟩
      obtain ⟨delay, calculated, isNext⟩ := next time before
      exact ⟨delay, calculated, isNext, by rw [armed, calculated, none]; rfl⟩

theorem first_minute_scheduled : ∃ delay, calculateRemainingSeconds ['0', '0', '0', '1'] 240 0 = some delay ∧
    NextInstant ⟨240, ['0', '0', '0', '1'], 1⟩ 0 delay ∧
    setResetLteTimer ⟨240, ['0', '0', '0', '1'], 1⟩ 0 none = some (delay * 1000) :=
  have set : setLongBatteryParams gDefaultWorkModeConfig.workmodeConfig 240 ['0', '0', '0', '1'] 1 =
    some gDefaultWorkModeConfig.workmodeConfig := rfl
  (timer_started_iff set 0 none).2.mpr ⟨by decide, by decide, rfl⟩

theorem start_2400_never_started : ∃ config, setLongBatteryParams gDefaultWorkModeConfig.workmodeConfig 240
    ['2', '4', '0', '0'] 1 = some config ∧ setResetLteTimer config.longBattery 0 none = none :=
  ⟨_, rfl, rfl⟩

end LL320D.LongLife
