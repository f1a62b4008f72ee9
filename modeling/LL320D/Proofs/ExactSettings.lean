import LL320D.NumericSettings

/-! The setting commands store the number that was given, unless it is cut by a narrower variable before the range
check: then a number out of range is accepted if what is left of it is in range. -/

namespace LL320D.NumericSettings
open WorkMode LowPower List System

variable {c : Command} {s : State} {text sw : List Char} {parm rest : List (List Char)} {mode : Mode} {set : ParamSet}
  {config old : DeviceConfig}

def Digits (text : List Char) : Prop := text ≠ [] ∧ text.length ≤ 9 ∧ ∀ c ∈ text, '0' ≤ c ∧ c ≤ '9'

lemma checkNumberLoop_digits (digits : ∀ c ∈ text, '0' ≤ c ∧ c ≤ '9') (count : Nat) (few : count + text.length < 256) :
    checkNumberLoop false false text count = count + text.length := by
  induction text generalizing count with
  | nil => rfl
  | cons c rest ih =>
    obtain ⟨isDigit, later⟩ := forall_mem_cons.mp digits
    rw [length_cons] at few ⊢
    simp only [checkNumberLoop, Bool.false_eq_true, false_and, if_false, if_pos isDigit]
    rw [Nat.mod_eq_of_lt (by omega), ih later _ (by omega)]
    omega

lemma numeric_digits (digits : Digits text) : numeric text = some (atoi text) := by
  obtain ⟨some, nine, all⟩ := digits
  have positive := length_pos_of_ne_nil some
  rw [numeric, stringCheckIsNumber, checkNumberLoop_digits all 0 (by omega), if_neg (by omega)]

lemma atoi_append_lt (digits : ∀ c ∈ text, '0' ≤ c ∧ c ≤ '9') (value : Nat) :
    text.foldl (fun value c => 10 * value + (c.toNat - '0'.toNat)) value < 10 ^ text.length * (value + 1) := by
  induction text generalizing value with
  | nil => simp
  | cons c rest ih =>
    obtain ⟨isDigit, later⟩ := forall_mem_cons.mp digits
    have small : c.toNat - '0'.toNat ≤ 9 := Nat.sub_le_sub_right (show c.toNat ≤ '9'.toNat from isDigit.2) _
    calc _ < 10 ^ rest.length * (10 * value + (c.toNat - '0'.toNat) + 1) := ih later _
      _ ≤ 10 ^ rest.length * (10 * (value + 1)) := Nat.mul_le_mul_left _ (by omega)
      _ = 10 ^ (c :: rest).length * (value + 1) := by rw [length_cons, pow_succ, Nat.mul_assoc]

lemma Digits.mod (digits : Digits text) : atoi text % 4294967296 = atoi text := by
  refine Nat.mod_eq_of_lt (Nat.lt_of_lt_of_le (atoi_append_lt digits.2.2 0) ?_)
  rw [Nat.mul_one]
  exact Nat.le_trans (Nat.pow_le_pow_right (by decide) digits.2.1) (by decide)

namespace Command

def Accepted (s : State) (c : Command) : Prop := (handle s c).2 ≠ invalidParam

def InRange (c : Command) : Prop := ∀ p ∈ c.params, p.inRange

def Passes (c : Command) : Prop := ∀ p ∈ c.params, p.passes

def Stored (s : State) (c : Command) : Prop := ∀ p ∈ c.params, ∀ field ∈ p.field, field s = p.value

/-- A command is accepted only with every number in its range, which is then stored; with a number out of range it fails
and changes no setting. -/
def Exact (s : State) (c : Command) : Prop :=
  (c.Accepted s → c.InRange ∧ c.Stored (handle s c).1) ∧
    (¬ c.InRange → (handle s c).2 = invalidParam ∧ (handle s c).1.config = s.config)

structure Fits (s : State) (c : Command) : Prop where
  uncut : ∀ p ∈ c.params, p.value < p.limit
  mode : ∀ text, c = .modeset [text] → s.workMode.lastWorkMode.toNat = atoi text →
    (workmode s).currentMode.toNat = atoi text

/-- A command is taken if it is formed and what is left of its numbers passes the checks, and otherwise changes nothing. -/
structure Handled (s : State) (c : Command) : Prop where
  taken : c.Formed ∧ c.Passes → c.Accepted s ∧ (c.Fits s → c.Stored (handle s c).1)
  refused : ¬ (c.Formed ∧ c.Passes) → (handle s c).2 = invalidParam ∧ (handle s c).1.config = s.config

/-- The checks on what is left are those on the numbers when nothing is cut. -/
lemma passes_iff (uncut : ∀ p ∈ c.params, p.value < p.limit) : c.Passes ↔ c.InRange := by
  simp only [Passes, InRange]
  fun_cases Command.params c with
  | case1 | case2 | case3 | case4 =>
    simp only [params, timerParam, modeParam, Param.of, Param.value, forall_mem_cons, not_mem_nil, false_implies,
      implies_true, and_true] at uncut ⊢
    simp only [Nat.mod_eq_of_lt, uncut]
  | case5 mode parm =>
    simp only [params, modeParam, Param.of, forall_mem_cons] at uncut ⊢
    obtain ⟨first, later⟩ := uncut
    rw [Nat.mod_eq_of_lt (show atoi mode < 2 ^ 32 from first)]
    refine and_congr_right fun _ => ?_
    generalize atoi mode = value at later ⊢
    fun_cases modeParams value parm with
    | case5 => exact iff_of_true (by rintro _ ⟨⟩) (by rintro _ ⟨⟩)
    | _ =>
      simp only [modeParams, Param.of, Param.value, forall_mem_cons, not_mem_nil, false_implies, implies_true,
        and_true] at later ⊢
      simp only [Nat.mod_eq_of_lt, later]
  | case6 => exact iff_of_true (by rintro _ ⟨⟩) (by rintro _ ⟨⟩)

end Command

lemma gnssSwitch_isSome : (gnssSwitch sw).isSome ↔ OnOff sw := by
  rw [gnssSwitch, OnOff]
  split
  · simp [*]
  · split <;> simp [*]

section
variable (digits : Digits text)
include digits

lemma timerParams_taken (formed : OnOff sw) (passes : (timerParam State.patmTimerConfig text).passes) :
    ∃ config, timerParams [text, sw] = some config ∧ config.intervalMin = atoi text % 2 ^ 16 := by
  obtain ⟨wakeupCellSw, is⟩ := Option.isSome_iff_exists.mp (gnssSwitch_isSome.mpr formed)
  have range : atoi text % 2 ^ 16 = 0 ∨ 10 ≤ atoi text % 2 ^ 16 ∧ atoi text % 2 ^ 16 ≤ 1440 := passes
  refine ⟨{ flag := flagValid, intervalMin := atoi text % 2 ^ 16, wakeupCellSw }, ?_, rfl⟩
  simp only [timerParams, numeric_digits digits, is]
  exact if_neg (not_not_intro range)

lemma timerParams_refused (fails : ¬ (OnOff sw ∧ (timerParam State.patmTimerConfig text).passes)) :
    timerParams [text, sw] = none := by
  simp only [timerParams, numeric_digits digits, Option.bind_eq_bind, Option.bind_some]
  split
  · rfl
  · next range =>
    have off : ¬ (gnssSwitch sw).isSome := fun is => fails ⟨gnssSwitch_isSome.mp is, not_not.mp range⟩
    rw [Option.not_isSome_iff_eq_none.mp off]
    rfl

end

namespace Command

variable {threshold interval : List Char}

/-- The two timer commands differ in the configuration that they write. -/
lemma timer_handled (digits : Digits text) :
    Handled s (.patmtimer [text, sw]) ∧ Handled s (.temptimer [text, sw]) := by
  refine ⟨⟨?_, ?_⟩, ⟨?_, ?_⟩⟩
  case refine_1 | refine_3 =>
    rintro ⟨formed, passes⟩
    have range := passes _ mem_cons_self
    obtain ⟨config, taken, is⟩ := timerParams_taken digits formed range
    simp only [Accepted, Stored, handle, taken]
    refine ⟨by decide, fun fits => forall_mem_singleton.mpr ?_⟩
    rintro _ ⟨⟩
    exact is.trans (Nat.mod_eq_of_lt (fits.uncut _ mem_cons_self))
  all_goals
    intro fails
    simp only [handle, timerParams_refused digits fun ⟨formed, passes⟩ => fails ⟨formed, forall_mem_singleton.mpr passes⟩]
    exact ⟨trivial, trivial⟩

lemma lpsleepParams_digits (first : Digits threshold) (second : Digits interval) :
    lpsleepParams threshold interval =
      if (10 ≤ atoi threshold % 256 ∧ atoi threshold % 256 ≤ 50) ∧ 1 ≤ atoi interval % 256 ∧ atoi interval % 256 ≤ 48 then
        some ⟨1, atoi threshold % 256, atoi interval % 256⟩
      else none := by
  simp only [lpsleepParams, numeric_digits first, numeric_digits second, Option.bind_eq_bind, Option.bind_some]
  split_ifs <;> first | rfl | omega

lemma lpsleep_handled (first : Digits threshold) (second : Digits interval) :
    Handled s (.lpsleep [sw, threshold, interval]) := by
  have passes : Passes (.lpsleep [sw, threshold, interval]) ↔
      (10 ≤ atoi threshold % 256 ∧ atoi threshold % 256 ≤ 50) ∧ 1 ≤ atoi interval % 256 ∧ atoi interval % 256 ≤ 48 := by
    simp [Passes, params, Param.of]
  have eq : lprunningParams s.lprunningConfig [sw, threshold, interval] =
      if myStrcaseEq sw ['O', 'N'] then lpsleepParams threshold interval else none := rfl
  rw [lpsleepParams_digits first second] at eq
  constructor
  · rintro ⟨formed, passed⟩
    rw [if_pos (show myStrcaseEq sw ['O', 'N'] from formed), if_pos (passes.mp passed)] at eq
    simp only [Accepted, Stored, handle, eq]
    refine ⟨by decide, fun fits => forall_mem_cons.mpr ⟨?_, forall_mem_singleton.mpr ?_⟩⟩
    · rintro _ ⟨⟩
      exact Nat.mod_eq_of_lt (fits.uncut _ mem_cons_self)
    · rintro _ ⟨⟩
      exact Nat.mod_eq_of_lt (fits.uncut _ (mem_cons_of_mem _ mem_cons_self))
  · intro fails
    have none : lprunningParams s.lprunningConfig [sw, threshold, interval] = none := by
      rw [eq]
      split_ifs with formed passed
      · exact absurd ⟨formed, passes.mpr passed⟩ fails
      · rfl
      · rfl
    simp only [handle, none]
    exact ⟨trivial, trivial⟩

lemma modeset_refused (program : modesetCmdHandler parm = [.reply .setFail]) :
    (handle s (.modeset parm)).2 = invalidParam ∧ (handle s (.modeset parm)).1.config = s.config := by
  simp only [handle, program]
  exact ⟨rfl, rfl⟩

lemma setOk_accepted (mode : Mode) : String.join [(Reply.setOk mode).text] ≠ invalidParam := by
  simp only [Reply.text]
  decide

lemma modeset_mode
    (program : modesetCmdHandler parm = [.compareMode mode, .switchWorkMode mode, .reply (.setOk mode)]) :
    Accepted s (.modeset parm) ∧ (workmode (handle s (.modeset parm)).1).currentMode =
      if s.workMode.lastWorkMode ≠ mode then mode else (workmode s).currentMode := by
  simp only [Accepted, handle, program]
  by_cases other : s.workMode.lastWorkMode ≠ mode
  · simp only [runBle, bleAction, if_pos other]
    exact ⟨setOk_accepted mode, rfl⟩
  · simp only [runBle, bleAction, if_neg other]
    exact ⟨setOk_accepted mode, rfl⟩

lemma modeset_applied (program : modesetCmdHandler parm = paramProgram set mode)
    (applied : set.apply (workmode s) = some config) :
    Accepted s (.modeset parm) ∧ workmode (handle s (.modeset parm)).1 = config := by
  have applied : set.apply s.workMode.config.workmodeConfig = some config := applied
  simp only [Accepted, handle, program, paramProgram, runBle, bleAction, applied]
  exact ⟨setOk_accepted mode, rfl⟩

lemma modeset_unapplied (program : modesetCmdHandler parm = paramProgram set mode)
    (applied : set.apply (workmode s) = none) :
    (handle s (.modeset parm)).2 = invalidParam ∧ (handle s (.modeset parm)).1.config = s.config := by
  have applied : set.apply s.workMode.config.workmodeConfig = none := applied
  simp only [handle, program, paramProgram, runBle, bleAction, applied]
  exact ⟨rfl, rfl⟩

lemma modeset_program (digits : Digits text) (more : rest ≠ []) : modesetCmdHandler (text :: rest) =
    (match atoi text with
      | 0 => modesetContinuous rest
      | 1 => modesetLongLife rest
      | 2 => modesetSmart rest
      | _ => none).getD [.reply .setFail] := by
  simp only [modesetCmdHandler, numeric_digits digits, Option.bind_some]
  rcases atoi text with _ | _ | _ | _ | value <;> simp only [Mode.ofValue, if_neg more, Option.getD_none]

lemma unformed_handled (program : modesetCmdHandler parm = [.reply .setFail]) (unformed : ¬ Formed (.modeset parm)) :
    Handled s (.modeset parm) := ⟨fun passed => absurd passed.1 unformed, fun _ => modeset_refused program⟩

lemma continuous_handled {sec dis : List Char} (digits : Digits text) (mode : atoi text = 0) (first : Digits sec)
    (second : Digits dis) : Handled s (.modeset [text, sec, dis]) := by
  have program := modeset_program digits (cons_ne_nil sec [dis])
  simp only [mode, modesetContinuous, numeric_digits first, numeric_digits second, Option.bind_eq_bind,
    Option.bind_some] at program
  have passes : Passes (.modeset [text, sec, dis]) ↔
      (5 ≤ atoi sec ∧ atoi sec ≤ 86400) ∧ (atoi dis = 0 ∨ 5 ≤ atoi dis ∧ atoi dis ≤ 1000) := by
    simp [Passes, params, modeParams, modeParam, Param.of, mode, first.mod, second.mod]
  constructor
  · rintro ⟨-, passed⟩
    obtain ⟨range, distance⟩ := passes.mp passed
    rw [if_neg (by omega), if_neg (by omega)] at program
    obtain ⟨accepted, is⟩ := modeset_applied (s := s) program rfl
    refine ⟨accepted, fun _ => ?_⟩
    simp [Stored, params, modeParams, modeParam, Param.of, Param.value, mode, is]
  · intro fails
    refine modeset_refused (program.trans ?_)
    split_ifs with early late
    · rfl
    · rfl
    · exact absurd ⟨by simp only [Formed, mode], passes.mpr (by omega)⟩ fails

lemma subMode_handled {sub : List Char} (digits : Digits text) (mode : atoi text = 2) (first : Digits sub) :
    Handled s (.modeset [text, sub]) := by
  have program := modeset_program digits (cons_ne_nil sub [])
  simp only [mode, modesetSmart, numeric_digits first, Option.bind_eq_bind, Option.bind_some] at program
  have passes : Passes (.modeset [text, sub]) ↔ atoi sub ≤ 5 := by
    simp [Passes, params, modeParams, modeParam, Param.of, mode, first.mod]
  constructor
  · rintro ⟨-, passed⟩
    rw [if_neg (Nat.not_lt.mpr (passes.mp passed))] at program
    obtain ⟨accepted, is⟩ := modeset_applied (s := s) program rfl
    refine ⟨accepted, fun _ => ?_⟩
    simp [Stored, params, modeParams, modeParam, Param.of, Param.value, mode, is]
  · intro fails
    refine modeset_refused (program.trans ?_)
    split_ifs with high
    · rfl
    · exact absurd ⟨by simp only [Formed, mode], passes.mpr (by omega)⟩ fails

lemma longLife_handled {interval start gnss : List Char} (digits : Digits text) (mode : atoi text = 1)
    (first : Digits interval) : Handled s (.modeset [text, interval, start, gnss]) := by
  have program := modeset_program digits (cons_ne_nil interval [start, gnss])
  simp only [mode, modesetLongLife, numeric_digits first, Option.bind_eq_bind, Option.bind_some] at program
  have passes : Passes (.modeset [text, interval, start, gnss]) ↔
      5 ≤ atoi interval % 2 ^ 16 ∧ atoi interval % 2 ^ 16 ≤ 1440 := by
    simp [Passes, params, modeParams, modeParam, Param.of, mode]
  have formed : Formed (.modeset [text, interval, start, gnss]) ↔ StartTime start ∧ OnOff gnss := by
    simp only [Formed, mode]
  have one {sw : Nat} (is : gnssSwitch gnss = some sw) : sw ≤ 1 := by
    simp only [gnssSwitch] at is
    split_ifs at is <;> cases is <;> decide
  rw [← gnssSwitch_isSome] at formed
  cases switch : gnssSwitch gnss with
  | none =>
    rw [switch] at program formed
    exact unformed_handled program fun is => nomatch (formed.mp is).2
  | some gnssSw =>
    rw [switch] at program formed
    have small := one switch
    constructor
    · rintro ⟨good, passed⟩
      obtain ⟨⟨four, all, minutes, hours⟩, -⟩ := formed.mp good
      have range := passes.mp passed
      have applied : (ParamSet.longBattery (atoi interval) start gnssSw).apply (workmode s) = some
          { workmode s with longBattery := ⟨atoi interval % 2 ^ 16, start, gnssSw⟩ } := by
        simp only [ParamSet.apply, setLongBatteryParams]
        rw [if_neg (by omega), if_neg (not_not_intro four), if_neg (not_not_intro all), if_neg (by omega), if_neg (by omega)]
      obtain ⟨accepted, is⟩ := modeset_applied program applied
      refine ⟨accepted, fun fits => ?_⟩
      have uncut := fits.uncut
      simp [params, modeParams, modeParam, Param.of, Param.value, mode] at uncut
      simp [Stored, params, modeParams, modeParam, Param.of, Param.value, mode, is, Nat.mod_eq_of_lt uncut]
    · intro fails
      refine modeset_unapplied program ?_
      simp only [ParamSet.apply, setLongBatteryParams]
      split_ifs with low four all time
      any_goals rfl
      exact absurd ⟨formed.mpr ⟨⟨not_not.mp four, all, by omega, by omega⟩, rfl⟩, passes.mpr (by omega)⟩ fails

lemma smart_handled {sub static moving : List Char} (digits : Digits text) (mode : atoi text = 2)
    (first : Digits sub) (second : Digits static) (third : Digits moving)
    (sized : (workmode s).intelligent.staticInterval.length = 6 ∧ (workmode s).intelligent.movingInterval.length = 6) :
    Handled s (.modeset [text, sub, static, moving]) := by
  have program := modeset_program digits (cons_ne_nil sub [static, moving])
  simp only [mode, modesetSmart, numeric_digits first, numeric_digits second, numeric_digits third, Option.bind_eq_bind,
    Option.bind_some] at program
  have passes : Passes (.modeset [text, sub, static, moving]) ↔ atoi sub % 2 ^ 8 ≤ 5 ∧
      staticRange (atoi sub % 2 ^ 8) (atoi static) ∧ movingRange (atoi sub % 2 ^ 8) (atoi moving) := by
    simp [Passes, params, modeParams, modeParam, Param.of, mode, second.mod, third.mod]
  constructor
  · rintro ⟨-, passed⟩
    obtain ⟨five, still, moves⟩ := passes.mp passed
    have applied : (ParamSet.intelligent (atoi sub) (atoi static) (atoi moving)).apply (workmode s) = some
        { workmode s with
          intelligent := ⟨atoi sub % 2 ^ 8, (workmode s).intelligent.staticInterval.set (atoi sub % 2 ^ 8) (atoi static),
            (workmode s).intelligent.movingInterval.set (atoi sub % 2 ^ 8) (atoi moving)⟩ } := by
      simp only [ParamSet.apply, setIntelligentParams]
      grind [staticRange, movingRange]
    obtain ⟨accepted, is⟩ := modeset_applied program applied
    refine ⟨accepted, fun fits => ?_⟩
    have uncut : atoi sub < 2 ^ 8 := by
      refine fits.uncut (.of sub (· ≤ 5) (2 ^ 8) (some (workmode · |>.intelligent.subMode)) (by grind)) ?_
      simp [params, modeParams, mode]
    rw [Nat.mod_eq_of_lt uncut] at is five
    have inside : atoi sub < 6 := Nat.lt_succ_of_le five
    simp [Stored, params, modeParams, modeParam, Param.of, Param.value, mode, is, sized, inside]
  · intro fails
    refine modeset_unapplied program ?_
    simp only [ParamSet.apply, setIntelligentParams]
    split_ifs
    any_goals rfl
    refine absurd ⟨by simp only [Formed, mode], passes.mpr ⟨by omega, ?_, ?_⟩⟩ fails
    · simp only [staticRange]
      split <;> omega
    · simp only [movingRange]
      split <;> omega

lemma params_handled {first : List Char} {more : List (List Char)}
    (digits : ∀ p ∈ params (.modeset (text :: first :: more)), Digits p.text)
    (sized : (workmode s).intelligent.staticInterval.length = 6 ∧ (workmode s).intelligent.movingInterval.length = 6) :
    Handled s (.modeset (text :: first :: more)) := by
  simp only [params, forall_mem_cons] at digits
  obtain ⟨number, later⟩ := digits
  have number : Digits text := number
  have program := modeset_program number (cons_ne_nil first more)
  have third (value : Nat) (is : atoi text = value + 3) : Handled s (.modeset (text :: first :: more)) := by
    simp only [is] at program
    exact unformed_handled program (by simp [Formed, is])
  rcases mode : atoi text with _ | _ | _ | value
  · rcases more with _ | ⟨dis, _ | ⟨_, _⟩⟩ <;> simp only [mode, modeParams, forall_mem_cons] at later program
    · exact unformed_handled program (by simp [Formed, mode])
    · exact continuous_handled number mode later.1 later.2.1
    · exact unformed_handled program (by simp [Formed, mode])
  · rcases more with _ | ⟨start, _ | ⟨gnss, _ | ⟨_, _⟩⟩⟩ <;>
      simp only [zero_add, mode, modeParams, forall_mem_cons] at later program
    · exact unformed_handled program (by simp [Formed, mode])
    · exact unformed_handled program (by simp [Formed, mode])
    · exact longLife_handled number mode later.1
    · exact unformed_handled program (by simp [Formed, mode])
  · rcases more with _ | ⟨static, _ | ⟨moving, _ | ⟨_, _⟩⟩⟩ <;>
      simp only [zero_add, mode, modeParams, forall_mem_cons] at later program
    · exact subMode_handled number mode later.1
    · exact unformed_handled program (by simp [Formed, mode])
    · exact smart_handled number mode later.1 later.2.1 later.2.2.1 sized
    · exact unformed_handled program (by simp [Formed, mode])
  · exact third value mode

lemma toNat_inj {first second : Mode} (same : first.toNat = second.toNat) : first = second := by
  cases first <;> cases second <;> first | rfl | cases same

lemma ofValue_eq {value : Nat} (is : Mode.ofValue value = some mode) : value = mode.toNat := by
  simp only [Mode.ofValue] at is
  split at is <;> cases is <;> rfl

/-- `MODESET,m#` writes the mode unless it runs already. -/
lemma mode_handled (digits : Digits text) :
    Handled s (.modeset [text]) ∧ (Passes (.modeset [text]) → Stored (handle s (.modeset [text])).1 (.modeset [text]) →
      s.workMode.lastWorkMode.toNat = atoi text → (workmode s).currentMode.toNat = atoi text) := by
  have passes : Passes (.modeset [text]) ↔ atoi text ≤ 3 := by simp [Passes, params, modeParam, Param.of, digits.mod]
  have stored (after : State) : Stored after (.modeset [text]) ↔ (workmode after).currentMode.toNat = atoi text := by
    simp [Stored, params, modeParam, Param.of, Param.value]
  cases found : Mode.ofValue (atoi text) with
  | none =>
    have out : ¬ Passes (.modeset [text]) := by
      rw [passes]
      intro small
      rcases value : atoi text with _ | _ | _ | _ | value
      all_goals rw [value] at found small
      all_goals first | omega | cases found
    refine ⟨⟨fun passed => absurd passed.2 out, fun _ => modeset_refused ?_⟩, fun passed => absurd passed out⟩
    simp only [modesetCmdHandler, numeric_digits digits, Option.bind_some, found]
  | some mode =>
    have value := ofValue_eq found
    have program : modesetCmdHandler [text] = [.compareMode mode, .switchWorkMode mode, .reply (.setOk mode)] := by
      simp only [modesetCmdHandler, numeric_digits digits, Option.bind_some, found, if_true]
    obtain ⟨accepted, after⟩ := modeset_mode (s := s) program
    have small : atoi text ≤ 3 := by
      rw [value]
      cases mode <;> first | decide | (rw [value] at found; cases found)
    rw [stored, after]
    refine ⟨⟨fun _ => ⟨accepted, fun fits => ?_⟩, fun fails => absurd ⟨trivial, passes.mpr small⟩ fails⟩, fun _ is runs => ?_⟩
    · rw [stored, after]
      split
      · exact value.symm
      · next runs => exact fits.mode text rfl (by rw [not_not.mp runs, value])
    · rwa [if_neg (not_not_intro (toNat_inj (runs.trans value)))] at is

lemma handled (digits : ∀ p ∈ c.params, Digits p.text) (numbers : c.params ≠ [])
    (sized : (workmode s).intelligent.staticInterval.length = 6 ∧ (workmode s).intelligent.movingInterval.length = 6) :
    Handled s c := by
  revert numbers
  fun_cases Command.params c with
  | case1 interval sw => exact fun _ => (timer_handled (digits _ mem_cons_self)).1
  | case2 interval sw => exact fun _ => (timer_handled (digits _ mem_cons_self)).2
  | case3 sw threshold interval =>
    exact fun _ => lpsleep_handled (digits _ mem_cons_self) (digits _ (mem_cons_of_mem _ mem_cons_self))
  | case4 text => exact fun _ => (mode_handled (digits _ mem_cons_self)).1
  | case5 text rest more =>
    obtain ⟨first, later, rfl⟩ := exists_cons_of_ne_nil more
    exact fun _ => params_handled digits sized
  | case6 => exact fun numbers => absurd rfl numbers

end Command

def factory : State := ⟨⟨flagValid, 20, 0⟩, ⟨flagValid, 20, 0⟩, ⟨0, 20, 24⟩, .boot none⟩

def lpsleepOn (threshold : List Char) : Command := .lpsleep [['O', 'N'], threshold, ['2', '4']]

end LL320D.NumericSettings
