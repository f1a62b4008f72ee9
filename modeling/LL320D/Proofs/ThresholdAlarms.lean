import LL320D.ThresholdAlarm

/-! The side state of a quantity is the side of its previous sample, and its timestamp that of its last alarm as long as
that sample is beyond a threshold; and a press of the key gives one event when it ends. -/

namespace LL320D.ThresholdAlarm
open Library List

variable (config : Config) {sample : Sample} {value : Int} (quantity : Quantity) (s : AlarmState)

def Side.alarmType : Side → MyAlarmType
  | .low => .lowPatmTempAlarm
  | .high => .highPatmTempAlarm

def Ctrl.alarmState (c : Ctrl) : Quantity → AlarmState
  | .pressure => c.barometer
  | .temperature => c.temp
  | .humidity => c.humi

def Config.check (config : Config) (quantity : Quantity) (s : AlarmState) (value : Int) (timestamp : BitVec 32) :
    AlarmState × List AlarmType :=
  s.check (config.limits quantity) quantity.unit (quantity.alarm .low) (quantity.alarm .high) config.currentMode
    (config.reportInterval quantity) value timestamp

lemma Config.beyond_unique {config : Config} {quantity} {side other}
    (beyond : config.Beyond quantity value side) (beyondOther : config.Beyond quantity value other) : other = side := by
  have positive : 0 < quantity.unit := by cases quantity <;> decide
  have exclusive : ¬ (config.Beyond quantity value .low ∧ config.Beyond quantity value .high) := by
    rintro ⟨⟨lowOn, below⟩, -, above⟩
    have ordered := Int.mul_le_mul_of_nonneg_right ((config.limits quantity).ordered lowOn) (Int.le_of_lt positive)
    omega
  cases side <;> cases other
  · rfl
  · exact absurd ⟨beyond, beyondOther⟩ exclusive
  · exact absurd ⟨beyondOther, beyond⟩ exclusive
  · rfl

lemma Config.check_cases (value : Int) (timestamp) : (∃ side, config.Beyond quantity value side ∧
        config.check quantity s value timestamp = s.report side.alarmType (quantity.alarm side)
          (reportAgain config.currentMode (config.reportInterval quantity) (timestamp - s.lastTimestamp)) timestamp) ∨
      (∀ side, ¬ config.Beyond quantity value side) ∧
        config.check quantity s value timestamp = ({ s with state := .normalPatmTempAlarm }, []) := by
  simp only [Config.check, AlarmState.check]
  by_cases low : config.Beyond quantity value .low
  · exact .inl ⟨.low, low, if_pos low⟩
  · by_cases high : config.Beyond quantity value .high
    · exact .inl ⟨.high, high, (if_neg low).trans (if_pos high)⟩
    · refine .inr ⟨?_, (if_neg low).trans (if_neg high)⟩
      intro side
      cases side with
      | low => exact low
      | high => exact high

lemma AlarmState.report_cases (side alarm) (again : Bool) (timestamp) (abnormal : side ≠ .normalPatmTempAlarm) :
    (again = true ∨ s.state ≠ side) ∧ s.report side alarm again timestamp = (⟨side, timestamp⟩, [alarm]) ∨
      ¬ (again = true ∨ s.state ≠ side) ∧ s.report side alarm again timestamp = (s, []) := by
  simp only [AlarmState.report]
  cases again with
  | true =>
    rw [if_pos rfl, if_pos abnormal.symm]
    exact .inl ⟨.inl rfl, rfl⟩
  | false =>
    rw [if_neg Bool.false_ne_true]
    by_cases other : s.state ≠ side
    · rw [if_pos other]
      exact .inl ⟨.inr other, rfl⟩
    · rw [if_neg other]
      exact .inr ⟨fun either => either.elim Bool.false_ne_true other, rfl⟩

lemma Side.alarmType_ne_normal (side : Side) : side.alarmType ≠ .normalPatmTempAlarm := by
  cases side <;> exact nofun

lemma Side.alarmType_inj {side other : Side} (same : side.alarmType = other.alarmType) : side = other := by
  cases side <;> cases other <;> first | rfl | cases same

lemma Quantity.alarm_inj {quantity other : Quantity} {side otherSide}
    (same : quantity.alarm side = other.alarm otherSide) : quantity = other ∧ side = otherSide := by
  cases quantity <;> cases other <;> cases side <;> cases otherSide <;> first | exact ⟨rfl, rfl⟩ | cases same

lemma Config.check_alarms (value : Int) (timestamp) : (∃ side, config.Beyond quantity value side ∧
        (reportAgain config.currentMode (config.reportInterval quantity) (timestamp - s.lastTimestamp) = true ∨
          s.state ≠ side.alarmType) ∧
        config.check quantity s value timestamp = (⟨side.alarmType, timestamp⟩, [quantity.alarm side])) ∨
      (∀ side, config.Beyond quantity value side → s.state = side.alarmType ∧
        reportAgain config.currentMode (config.reportInterval quantity) (timestamp - s.lastTimestamp) = false) ∧
        (config.check quantity s value timestamp).2 = [] ∧
        (config.check quantity s value timestamp).1.lastTimestamp = s.lastTimestamp ∧
        ∀ side, (config.check quantity s value timestamp).1.state = side.alarmType ↔ config.Beyond quantity value side := by
  rcases config.check_cases quantity s value timestamp with ⟨side, beyond, check⟩ | ⟨inside, check⟩
  · rcases s.report_cases side.alarmType (quantity.alarm side)
      (reportAgain config.currentMode (config.reportInterval quantity) (timestamp - s.lastTimestamp)) timestamp
      side.alarmType_ne_normal with ⟨reason, report⟩ | ⟨none, report⟩
    · exact .inl ⟨side, beyond, reason, check.trans report⟩
    · obtain ⟨notAgain, stays⟩ := not_or.mp none
      have same := not_not.mp stays
      rw [check, report]
      refine .inr ⟨?_, rfl, rfl, ?_⟩
      · intro other beyondOther
        rw [Config.beyond_unique beyond beyondOther]
        exact ⟨same, eq_false_of_ne_true notAgain⟩
      · intro other
        refine ⟨fun is => ?_, fun beyondOther => Config.beyond_unique beyond beyondOther ▸ same⟩
        exact Side.alarmType_inj (same.symm.trans is) ▸ beyond
  · rw [check]
    refine .inr ⟨fun side beyond => absurd beyond (inside side), rfl, rfl, fun side => ?_⟩
    exact iff_of_false side.alarmType_ne_normal.symm (inside side)

lemma Config.check_mem_iff (value : Int) (timestamp)
    (side : Side) : quantity.alarm side ∈ (config.check quantity s value timestamp).2 ↔ config.Beyond quantity value side ∧
      (reportAgain config.currentMode (config.reportInterval quantity) (timestamp - s.lastTimestamp) = true ∨
        s.state ≠ side.alarmType) := by
  rcases config.check_alarms quantity s value timestamp with ⟨sent, beyond, reason, check⟩ | ⟨silent, none, -⟩
  · rw [check]
    constructor
    · intro member
      rw [(Quantity.alarm_inj (mem_singleton.mp member)).2]
      exact ⟨beyond, reason⟩
    · intro due
      rw [Config.beyond_unique beyond due.1]
      exact mem_singleton_self _
  · rw [none]
    refine iff_of_false not_mem_nil fun due => ?_
    obtain ⟨same, notAgain⟩ := silent side due.1
    exact due.2.elim (fun again => Bool.false_ne_true (notAgain.symm.trans again)) (fun other => other same)

def Config.checkSample (config : Config) (quantity : Quantity) (s : AlarmState) (sample : Sample) :
    AlarmState × List AlarmType :=
  match sample.value quantity with
  | none => (s, [])
  | some value =>
    if config.on quantity then config.check quantity s value sample.timestamp
    else ({ s with state := .normalPatmTempAlarm }, [])

lemma Config.checkSample_none (quantity) (s)
    (noValue : sample.value quantity = none) : config.checkSample quantity s sample = (s, []) := by
  rw [checkSample, noValue]

lemma Config.checkSample_some (quantity) (s)
    (isValue : sample.value quantity = some value) (on : config.on quantity = true) :
    config.checkSample quantity s sample = config.check quantity s value sample.timestamp := by
  simp only [checkSample, isValue, if_pos on]

lemma Config.checkSample_off (quantity) (s)
    (isValue : sample.value quantity = some value) (off : ¬ config.on quantity = true) :
    config.checkSample quantity s sample = ({ s with state := .normalPatmTempAlarm }, []) := by
  simp only [checkSample, isValue, if_neg off]

lemma Config.checkSample_alarms (s sample) : (config.checkSample quantity s sample).2 = [] ∨
      ∃ side, (config.checkSample quantity s sample).2 = [quantity.alarm side] := by
  simp only [checkSample]
  split
  · exact .inl rfl
  · next value isValue =>
    split
    · rcases config.check_alarms quantity s value sample.timestamp with ⟨side, -, -, check⟩ | ⟨-, none, -⟩
      · exact .inr ⟨side, congrArg Prod.snd check⟩
      · exact .inl none
    · exact .inl rfl

section

variable (config : Config) (c : Ctrl) (sample : Sample) (quantity : Quantity)

lemma Ctrl.handle_eq : c.handle config sample =
    (⟨(config.checkSample .pressure c.barometer sample).1, (config.checkSample .temperature c.temp sample).1,
        (config.checkSample .humidity c.humi sample).1⟩,
      (config.checkSample .pressure c.barometer sample).2 ++ ((config.checkSample .temperature c.temp sample).2 ++
        (config.checkSample .humidity c.humi sample).2)) := by
  cases sample with
  | barometer pressurePa timestamp =>
    rw [config.checkSample_none .temperature _ rfl, config.checkSample_none .humidity _ rfl, append_nil, append_nil]
    simp only [Ctrl.handle, sensorBarometerAlarmCheck]
    by_cases on : config.patalmConfig.patalmSw = true
    · rw [if_pos on, config.checkSample_some .pressure _ rfl on]
      rfl
    · rw [if_neg on, config.checkSample_off .pressure _ rfl on]
  | tempHumi packed timestamp =>
    rw [config.checkSample_none .pressure _ rfl, nil_append]
    simp only [Ctrl.handle, sensorTempHumiAlarmCheck]
    by_cases on : config.tempalmConfig.tempalmSw = true
    · rw [if_pos on, config.checkSample_some .temperature _ rfl on, config.checkSample_some .humidity _ rfl on]
      rfl
    · rw [if_neg on, config.checkSample_off .temperature _ rfl on, config.checkSample_off .humidity _ rfl on]
      rfl

lemma Ctrl.handle_alarmState : (c.handle config sample).1.alarmState quantity =
    (config.checkSample quantity (c.alarmState quantity) sample).1 := by
  rw [handle_eq]
  cases quantity <;> rfl

lemma Ctrl.handle_mem_iff (side) : quantity.alarm side ∈ (c.handle config sample).2 ↔
    quantity.alarm side ∈ (config.checkSample quantity (c.alarmState quantity) sample).2 := by
  have foreign : ∀ other s, other ≠ quantity → quantity.alarm side ∉ (config.checkSample other s sample).2 := by
    intro other s differs member
    rcases config.checkSample_alarms other s sample with none | ⟨otherSide, one⟩
    · rw [none] at member
      cases member
    · rw [one] at member
      exact differs (Quantity.alarm_inj (mem_singleton.mp member)).1.symm
  simp only [handle_eq, mem_append]
  cases quantity with
  | pressure =>
    exact or_iff_left fun member => member.elim (foreign .temperature _ nofun) (foreign .humidity _ nofun)
  | temperature => exact (or_iff_right (foreign .pressure _ nofun)).trans (or_iff_left (foreign .humidity _ nofun))
  | humidity => exact (or_iff_right (foreign .pressure _ nofun)).trans (or_iff_right (foreign .temperature _ nofun))

lemma Ctrl.handle_nodup : (c.handle config sample).2.Nodup := by
  have single : ∀ quantity s, (config.checkSample quantity s sample).2.Nodup := by
    intro quantity s
    rcases config.checkSample_alarms quantity s sample with none | ⟨side, one⟩
    · exact none ▸ .nil
    · exact one ▸ pairwise_singleton _ _
  have apart : ∀ first second s t, first ≠ second → ∀ alarm ∈ (config.checkSample first s sample).2,
      ∀ other ∈ (config.checkSample second t sample).2, alarm ≠ other := by
    intro first second s t differs alarm inFirst other inSecond same
    rcases config.checkSample_alarms first s sample with none | ⟨side, one⟩
    · rw [none] at inFirst
      cases inFirst
    · rcases config.checkSample_alarms second t sample with none | ⟨otherSide, two⟩
      · rw [none] at inSecond
        cases inSecond
      · rw [one] at inFirst
        rw [two] at inSecond
        have alike := (mem_singleton.mp inFirst).symm.trans (same.trans (mem_singleton.mp inSecond))
        exact differs (Quantity.alarm_inj alike).1
  rw [handle_eq]
  refine nodup_append.mpr ⟨single _ _, nodup_append.mpr ⟨single _ _, single _ _, apart _ _ _ _ nofun⟩, ?_⟩
  intro alarm inFirst other inRest
  rcases mem_append.mp inRest with inSecond | inThird
  · exact apart .pressure .temperature _ _ nofun alarm inFirst other inSecond
  · exact apart .pressure .humidity _ _ nofun alarm inFirst other inThird

end

namespace Run

variable {config : Config} {run : Run} {quantity : Quantity}

lemma step_previous (config) (run : Run) (sample : Sample) (quantity) : (run.step config sample).previous quantity =
    (sample.value quantity).or (run.previous quantity) := by
  simp only [previous, step, List.findSome?_cons]
  cases sample.value quantity <;> rfl

def alarmTime (quantity : Quantity) : AlarmType × BitVec 32 → Option (BitVec 32)
  | (alarm, timestamp) =>
    if alarm = quantity.alarm .low ∨ alarm = quantity.alarm .high then some timestamp else none

lemma alarmTime_alarm (quantity : Quantity) (side timestamp) :
    alarmTime quantity (quantity.alarm side, timestamp) = some timestamp := by
  cases side with
  | low => exact if_pos (.inl rfl)
  | high => exact if_pos (.inr rfl)

lemma alarmTime_eq_some {alarm : AlarmType} {timestamp time : BitVec 32}
    (is : alarmTime quantity (alarm, timestamp) = some time) : (∃ side, alarm = quantity.alarm side) ∧ timestamp = time := by
  simp only [alarmTime] at is
  split at is
  · next either => exact ⟨either.elim (⟨.low, ·⟩) (⟨.high, ·⟩), Option.some.inj is⟩
  · cases is

lemma step_lastAlarm (config : Config) (run : Run) (sample : Sample) (quantity) :
    (run.step config sample).lastAlarm quantity =
      if (config.checkSample quantity (run.ctrl.alarmState quantity) sample).2 = [] then run.lastAlarm quantity
      else some sample.timestamp := by
  have own := run.ctrl.handle_mem_iff config sample quantity
  change List.findSome? (alarmTime quantity) (((run.ctrl.handle config sample).2.map _).reverse ++ run.sent) = _
  rw [List.findSome?_append]
  cases first : List.findSome? (alarmTime quantity)
      ((run.ctrl.handle config sample).2.map (·, sample.timestamp)).reverse with
  | some time =>
    obtain ⟨sent, member, isTime⟩ := exists_of_findSome?_eq_some first
    obtain ⟨alarm, inHandle, rfl⟩ := mem_map.mp (mem_reverse.mp member)
    obtain ⟨⟨side, isAlarm⟩, same⟩ := alarmTime_eq_some isTime
    rw [if_neg (ne_nil_of_mem ((own side).mp (isAlarm ▸ inHandle))), same]
    rfl
  | none =>
    rw [List.findSome?_eq_none_iff] at first
    have none : (config.checkSample quantity (run.ctrl.alarmState quantity) sample).2 = [] := by
      rcases config.checkSample_alarms quantity (run.ctrl.alarmState quantity) sample with none | ⟨side, one⟩
      · exact none
      · have inHandle := (own side).mpr (one ▸ mem_singleton_self _)
        have missing := first _ (mem_reverse.mpr (mem_map_of_mem inHandle))
        rw [alarmTime_alarm] at missing
        cases missing
    rw [if_pos none]
    rfl

structure Agrees (config : Config) (run : Run) (quantity : Quantity) : Prop where
  state : ∀ side : Side, (run.ctrl.alarmState quantity).state = side.alarmType ↔
    ∃ previous, run.previous quantity = some previous ∧ config.Beyond quantity previous side
  last : ∀ side : Side, (run.ctrl.alarmState quantity).state = side.alarmType →
    run.lastAlarm quantity = some (run.ctrl.alarmState quantity).lastTimestamp
  past : ∀ side : Side, (run.ctrl.alarmState quantity).state = side.alarmType →
    ∃ earlier ∈ run.samples, earlier.timestamp = (run.ctrl.alarmState quantity).lastTimestamp

lemma start_agrees (config quantity) : Agrees config start quantity := by
  have normal : ∀ side : Side, ((start).ctrl.alarmState quantity).state ≠ side.alarmType := by
    intro side
    cases quantity <;> exact side.alarmType_ne_normal.symm
  refine ⟨fun side => iff_of_false (normal side) ?_, fun side is => absurd is (normal side),
    fun side is => absurd is (normal side)⟩
  rintro ⟨previous, none, -⟩
  cases none

lemma Agrees.step (agrees : Agrees config run quantity) (on : config.on quantity = true) (sample) :
    Agrees config (run.step config sample) quantity := by
  have state : (run.step config sample).ctrl.alarmState quantity = _ := run.ctrl.handle_alarmState config sample quantity
  have lastAlarm := step_lastAlarm config run sample quantity
  have previous := step_previous config run sample quantity
  cases isValue : sample.value quantity with
  | none =>
    rw [config.checkSample_none quantity _ isValue] at state lastAlarm
    rw [isValue] at previous
    rw [if_pos rfl] at lastAlarm
    refine ⟨fun side => ?_, fun side is => ?_, fun side is => ?_⟩
    · rw [state, previous]
      exact agrees.state side
    · rw [state] at is ⊢
      rw [lastAlarm]
      exact agrees.last side is
    · rw [state] at is ⊢
      obtain ⟨earlier, member, same⟩ := agrees.past side is
      exact ⟨earlier, mem_cons_of_mem _ member, same⟩
  | some value =>
    rw [config.checkSample_some quantity _ isValue on] at state lastAlarm
    rw [isValue] at previous
    have beyondNow : ∀ side, (∃ previous, (run.step config sample).previous quantity = some previous ∧
        config.Beyond quantity previous side) ↔ config.Beyond quantity value side := by
      intro side
      rw [previous]
      exact ⟨fun ⟨_, same, beyond⟩ => Option.some.inj same ▸ beyond, fun beyond => ⟨value, rfl, beyond⟩⟩
    rcases config.check_alarms quantity (run.ctrl.alarmState quantity) value sample.timestamp with
      ⟨sent, beyond, -, check⟩ | ⟨silent, none, stamp, sides⟩
    · rw [check] at state lastAlarm
      rw [if_neg (cons_ne_nil _ _)] at lastAlarm
      refine ⟨fun side => ?_, fun side is => ?_, fun side is => ?_⟩
      · rw [state, beyondNow]
        refine ⟨fun is => Side.alarmType_inj is ▸ beyond, fun other => ?_⟩
        rw [Config.beyond_unique beyond other]
      · rw [state]
        exact lastAlarm
      · rw [state]
        exact ⟨sample, mem_cons_self, rfl⟩
    · rw [none, if_pos rfl] at lastAlarm
      refine ⟨fun side => ?_, fun side is => ?_, fun side is => ?_⟩
      · rw [state, beyondNow]
        exact sides side
      · rw [state] at is ⊢
        rw [lastAlarm, stamp]
        exact agrees.last side (silent side ((sides side).mp is)).1
      · rw [state] at is ⊢
        obtain ⟨earlier, member, same⟩ := agrees.past side (silent side ((sides side).mp is)).1
        exact ⟨earlier, mem_cons_of_mem _ member, same.trans stamp.symm⟩

lemma reportAgain_iff {mode} {reportInterval : Nat} {timestamp last : BitVec 32} (past : last ≤ timestamp) :
    reportAgain mode reportInterval (timestamp - last) = true ↔
      (mode = .continuous ∨ mode = .alwaysOnline) ∧ reportInterval ≠ 0 ∧
        last.toNat + reportInterval * 60 ≤ timestamp.toNat := by
  have difference := BitVec.toNat_sub_of_le past
  have before : last.toNat ≤ timestamp.toNat := past
  rw [reportAgain, decide_eq_true_iff, difference, and_comm (b := reportInterval ≠ 0)]
  exact and_congr_right' (and_congr_right' (by omega))

lemma Agrees.due_iff (agrees : Agrees config run quantity) {sample : Sample} (timed : run.Timed sample) (value : Int)
    (side) :
    quantity.alarm side ∈ (config.check quantity (run.ctrl.alarmState quantity) value sample.timestamp).2 ↔
      Due config run quantity value sample.timestamp side := by
  rw [config.check_mem_iff]
  refine and_congr_right' ?_
  rw [← agrees.state side]
  by_cases same : (run.ctrl.alarmState quantity).state = side.alarmType
  · obtain ⟨earlier, member, stamp⟩ := agrees.past side same
    have past := stamp ▸ timed earlier member
    have sent := agrees.last side same
    rw [reportAgain_iff past, or_iff_left (not_not.mpr same), or_iff_right (not_not.mpr same)]
    refine and_congr_right' (and_congr_right' ⟨fun passed => ⟨_, sent, passed⟩, ?_⟩)
    rintro ⟨last, isLast, passed⟩
    rw [sent] at isLast
    exact Option.some.inj isLast ▸ passed
  · exact iff_of_true (.inr same) (.inl same)

/-- Every sample sends the alarms that are due by the history, and no others. -/
theorem alarms_follow_rule (config : Config) (samples : List Sample) (timed : Along (step config) Timed start samples) :
    Along (step config) (Rule config) start samples := by
  refine Along.imp (fun run => ∀ quantity, config.on quantity = true → Agrees config run quantity) ?_ ?_ ?_ timed
  · intro run sample agrees _ quantity on
    exact (agrees quantity on).step on sample
  · intro run sample agrees timed
    refine ⟨run.ctrl.handle_nodup config sample, fun quantity side on => ?_⟩
    rw [run.ctrl.handle_mem_iff]
    cases isValue : sample.value quantity with
    | none =>
      rw [config.checkSample_none quantity _ isValue]
      exact iff_of_false not_mem_nil nofun
    | some value =>
      rw [config.checkSample_some quantity _ isValue on, (agrees quantity on).due_iff timed]
      exact ⟨fun due => ⟨value, rfl, due⟩, fun ⟨_, same, due⟩ => Option.some.inj same ▸ due⟩
  · exact fun quantity _ => start_agrees config quantity

theorem low_pressure_follows_rule :
    let config : Config := ⟨⟨true, ⟨50, 255, by decide⟩, 1, 5⟩, gDefaultTempAlmConfig, .continuous⟩
    Along (step config) (Rule config) start [.barometer 40000 100, .barometer 40001 200, .barometer 40002 400] := by
  intro config
  refine alarms_follow_rule config _ ?_
  simp [Along, Timed, step, start, Sample.timestamp]

end Run

lemma low_mask : ∀ (i : Nat) (inside : i < 32), (65535#32)[i] = decide (i < 16) := by
  have mask : ∀ place : Fin 32, (65535#32)[place.val] = decide (place.val < 16) := by decide
  exact fun i inside => mask ⟨i, inside⟩

lemma packTempHumi_temp (temperatureX10 humidityX10) :
    (packTempHumi temperatureX10 humidityX10).extractLsb' 0 16 = temperatureX10 := by
  refine BitVec.eq_of_getLsbD_eq fun i inside => ?_
  have within : i < 32 := by omega
  simp [packTempHumi, inside, within, low_mask, BitVec.getElem_signExtend]

lemma packTempHumi_humi (temperatureX10 humidityX10) :
    (packTempHumi temperatureX10 humidityX10).extractLsb' 16 16 = humidityX10 := by
  refine BitVec.eq_of_getLsbD_eq fun i inside => ?_
  have within : 16 + i < 32 := by omega
  have above : ¬ 16 + i < 16 := by omega
  simp [packTempHumi, inside, within, above, low_mask]

lemma packTempHumi_toNat (temperatureX10 humidityX10 : BitVec 16) :
    (packTempHumi temperatureX10 humidityX10).toNat = humidityX10.toNat * 65536 + temperatureX10.toNat := by
  have low := congrArg BitVec.toNat (packTempHumi_temp temperatureX10 humidityX10)
  have high := congrArg BitVec.toNat (packTempHumi_humi temperatureX10 humidityX10)
  simp only [BitVec.extractLsb'_toNat, Nat.shiftRight_eq_div_pow] at low high
  omega

lemma printedTenths_pack {temperatureX10 humidityX10 : BitVec 16} (small : humidityX10.toNat < 32768) :
    printedTenths (packTempHumi temperatureX10 humidityX10) =
      some ((temperatureX10.toNat : Int), (humidityX10.toNat : Int)) := by
  have word := packTempHumi_toNat temperatureX10 humidityX10
  have value : (packTempHumi temperatureX10 humidityX10).toInt =
      (humidityX10.toNat * 65536 + temperatureX10.toNat : Nat) := by
    rw [BitVec.toInt_eq_toNat_of_lt (by omega), word]
  have masked : (packTempHumi temperatureX10 humidityX10 &&& 0xFFFF).toNat = temperatureX10.toNat := by
    rw [BitVec.toNat_and, word]
    have mod := Nat.and_two_pow_sub_one_eq_mod (humidityX10.toNat * 65536 + temperatureX10.toNat) 16
    exact mod.trans (by omega)
  rw [printedTenths, if_neg (by omega), BitVec.toInt_eq_toNat_of_lt (by omega), masked, BitVec.toInt_sshiftRight,
    value, Int.shiftRight_eq_div_pow]
  congr 2
  omega

/-- From -40 to 125 degrees and from 0 to 100 percent. -/
def TempHumiData.InRange (data : TempHumiData) : Prop :=
  -4000 ≤ data.temperature.toInt ∧ data.temperature.toInt ≤ 12500 ∧ data.humidity.toNat ≤ 10000

/-- The alarm check compares the values of the record, and no reading counts as failed. The two reports print the values
of the record only if the temperature does not round to a negative number of tenths. -/
theorem one_temperature_iff (data : TempHumiData) (range : data.InRange) :
    (sensorCollectTempHumi (some data)).1 = some data.record ∧
      tempVal (sensorCollectTempHumi (some data)).2 = data.record.temperatureX10.toInt ∧
      humiVal (sensorCollectTempHumi (some data)).2 = data.record.humidityX10.toNat ∧
      0 ≤ (sensorCollectTempHumi (some data)).2.toInt ∧
      (sensorTempRead (some data) = some (data.record.temperatureX10.toInt, (data.record.humidityX10.toNat : Int)) ∧
        deviceStatusRead (some data) = some (data.record.temperatureX10.toInt, (data.record.humidityX10.toNat : Int)) ↔
          -10 < data.temperature.toInt) := by
  obtain ⟨cold, hot, wet⟩ := range
  have rounded := Int.tdiv_eq_ediv (a := data.temperature.toInt) (b := 10)
  rw [show Int.sign 10 = 1 from rfl] at rounded
  have temperature : data.record.temperatureX10.toInt = data.temperature.toInt.tdiv 10 :=
    BitVec.toInt_ofInt_eq_self (by decide) (by split at rounded <;> omega) (by split at rounded <;> omega)
  have humidity : data.record.humidityX10.toNat < 32768 := by
    have divided : data.record.humidityX10.toNat = data.humidity.toNat / 10 := BitVec.toNat_udiv
    omega
  have printed : printedTenths (packTempHumi data.record.temperatureX10 data.record.humidityX10) = _ :=
    printedTenths_pack humidity
  have sign : (data.record.temperatureX10.toNat : Int) = data.record.temperatureX10.toInt ↔
      -10 < data.temperature.toInt := by
    have unfolded := data.record.temperatureX10.toInt_eq_toNat_cond
    split at unfolded <;> split at rounded <;> omega
  refine ⟨rfl, congrArg BitVec.toInt (packTempHumi_temp ..), ?_, ?_, ?_⟩
  · refine (congrArg BitVec.toInt (packTempHumi_humi ..)).trans (BitVec.toInt_eq_toNat_of_lt ?_)
    omega
  · by_contra negative
    rw [printedTenths, if_pos (by simpa [sensorCollectTempHumi] using negative)] at printed
    cases printed
  · rw [sensorTempRead, deviceStatusRead, sensorCollectTempHumi, printed, and_self, Option.some_inj, Prod.mk.injEq,
      and_iff_left rfl, sign]

theorem room_temperature_agrees : sensorTempRead (some ⟨2550, 6500⟩) = some (255, 650) :=
  ((one_temperature_iff ⟨2550, 6500⟩ (by unfold TempHumiData.InRange; decide)).2.2.2.2.mpr (by decide)).1

/-- Minus five degrees are reported as 6548.6. -/
theorem frost_is_misreported : (sensorCollectTempHumi (some ⟨-500, 6500⟩)).1 = some ⟨-50, 650⟩ ∧
      tempVal (sensorCollectTempHumi (some ⟨-500, 6500⟩)).2 = -50 ∧
      sensorTempRead (some ⟨-500, 6500⟩) = some (65486, 650) := by decide

end LL320D.ThresholdAlarm

namespace LL320D.FunKey.Run
open Library

variable {run : Run}

structure Counts (run : Run) : Prop where
  pressed : run.key.pressed = true ↔ 0 < run.streak
  count : run.key.pressed = true → run.key.pressCount = run.streak % 2 ^ 32

/-- What a poll that sees `level` should do: a release after 2 to 59 pressed polls is a short press, after 60 or more a
long one. -/
structure Recognised (run : Run) (level : Bool) : Prop where
  event : (run.step (.poll level)).key.sent = run.key.sent ++
    if level = false ∧ 2 ≤ run.streak ∧ run.streak ≤ 59 then [.shortPress]
    else if level = false ∧ 60 ≤ run.streak then [.longPress]
    else []
  stopped : level = false → (run.step (.poll level)).key.timer = false

lemma keyEvent_eq (count) : keyEvent count =
    if 2 ≤ count ∧ count ≤ 59 then [.shortPress] else if 60 ≤ count then [.longPress] else [] := by
  unfold keyEvent keyLongPressCount
  refine ite_congr (propext ?_) (fun _ => rfl) fun _ => rfl
  omega

lemma Counts.step (counts : Counts run) (event : Event) : Counts (run.step event) := by
  obtain ⟨pressed, count⟩ := counts
  cases event with
  | edge => exact ⟨pressed, count⟩
  | poll level =>
    simp only [Run.step]
    split
    · cases level with
      | false => cases was : run.key.pressed <;> constructor <;> simp [keyTimerHandler, was, streak]
      | true =>
        cases was : run.key.pressed with
        | false =>
          have none : run.streak = 0 := by simpa [was] using pressed
          unfold streak at none
          constructor <;> simp [keyTimerHandler, was, streak, none]
        | true =>
          have same := count was
          unfold streak at same
          constructor <;> simp [keyTimerHandler, was, streak, same]
    · exact ⟨pressed, count⟩

lemma Counts.recognised_iff (counts : Counts run) (level : Bool) (runs : run.key.timer = true)
    (short : run.streak < 2 ^ 32) : Recognised run level ↔ (level = false → 0 < run.streak) := by
  obtain ⟨pressed, count⟩ := counts
  cases level with
  | true =>
    refine iff_of_true ⟨?_, nofun⟩ nofun
    cases was : run.key.pressed <;> simp [Run.step, runs, keyTimerHandler, was]
  | false =>
    cases was : run.key.pressed with
    | false =>
      have none : ¬ 0 < run.streak := by rw [← pressed, was]; nofun
      refine iff_of_false (fun recognised => ?_) (fun some => none (some rfl))
      have stopped := recognised.stopped rfl
      simp [Run.step, runs, keyTimerHandler, was] at stopped
    | true =>
      have same := count was
      rw [Nat.mod_eq_of_lt short] at same
      refine iff_of_true ⟨?_, ?_⟩ fun _ => pressed.mp was <;> simp [Run.step, runs, keyTimerHandler, was, same, keyEvent_eq]

/-- Each poll in runs of less than 2³² pressed ones does what it should, except that a poll which sees the key released and
does not end a press leaves the timer running. -/
theorem presses_recognised_iff (events : List Event) :
    Along step (fun run event => ∀ level, event = .poll level → run.key.timer = true → run.streak < 2 ^ 32 →
      (Recognised run level ↔ (level = false → 0 < run.streak))) start events := by
  have begun : Counts start := ⟨by decide, nofun⟩
  exact (along_of_kept Counts (fun _ event counts => counts.step event)
    (fun _ _ counts level _ runs short => counts.recognised_iff level runs short) begun).1

/-- The key has bounced back before the first poll. -/
theorem bounce_keeps_polling : ¬ Recognised ([.edge].foldl step start) false ∧
    ([.edge, .poll false].foldl step start).key.timer = true :=
  ⟨fun recognised => absurd (recognised.stopped rfl) (by decide), rfl⟩

end LL320D.FunKey.Run
