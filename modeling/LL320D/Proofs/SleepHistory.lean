import LL320D.LowPower
import LL320D.Proofs.ModeAgreement

/-! When low-battery sleep begins and ends, and how the scan follows it. One relation says what a step may do that stays
aside of the sleep, and every other step makes one of five changes. -/

namespace LL320D.LowPower
open WorkMode List

section

variable {b : Battery} {percent : Int} {s next : System}

def Rising (low high : Nat × Nat) : Prop := low.1 < high.1 ∧ low.2 ≤ high.2 ∧ high.2 ≤ 100

lemma interpolate_le (mv) {table : List (Nat × Nat)} (rising : table.IsChain Rising) : interpolate mv table ≤ 100 := by
  induction table with
  | nil => exact Nat.zero_le _
  | cons first rest ih =>
    cases rest with
    | nil => exact Nat.zero_le _
    | cons second rest =>
      obtain ⟨⟨volts, percents, most⟩, later⟩ := isChain_cons_cons.mp rising
      unfold interpolate
      split
      next inside =>
        have part : (mv - first.1) * (second.2 - first.2) / (second.1 - first.1) ≤ second.2 - first.2 := by
          apply Nat.div_le_of_le_mul
          exact Nat.mul_le_mul_right _ (Nat.sub_le_sub_right inside.2 _)
        omega
      · exact ih later

lemma myBatteryReadPercent_le (mv) : myBatteryReadPercent mv ≤ 100 := by
  unfold myBatteryReadPercent
  split
  · exact Nat.zero_le _
  · split
    · exact Nat.le_refl _
    · apply interpolate_le
      unfold voltPercentMap Rising
      decide

def Battery.Percentage (b : Battery) : Prop := 0 ≤ b.showPercent ∧ b.showPercent ≤ 100

lemma Battery.Percentage.jump (shown : b.Percentage) (least : 0 ≤ percent)
    (most : percent ≤ 100) : (b.jump percent).Percentage := by
  unfold Battery.jump
  split
  · split
    · exact shown
    · split
      · exact ⟨least, most⟩
      · exact shown
  · exact shown

lemma Battery.Percentage.countTo {towards : Bool} {move : Int} (shown : b.Percentage)
    (moved : towards → 0 ≤ b.showPercent + move ∧ b.showPercent + move ≤ 100) : (b.countTo towards move).Percentage := by
  unfold Battery.countTo
  split
  next moves =>
    split
    · exact moved moves
    · exact shown
  · exact shown

lemma Battery.Percentage.update (shown : b.Percentage) (charging) (least : 0 ≤ percent)
    (most : percent ≤ 100) : (b.update charging percent).Percentage := by
  unfold Battery.update
  have first : Battery.Percentage
      (if b.firstUpdate then { b with firstUpdate := false, updateCount := 0, showPercent := percent } else b) := by
    split
    · exact ⟨least, most⟩
    · exact shown
  generalize (if b.firstUpdate then { b with firstUpdate := false, updateCount := 0, showPercent := percent } else b) = b
    at first
  obtain ⟨lower, upper⟩ := first
  apply Battery.Percentage.jump _ least most
  split
  · apply Battery.Percentage.countTo ⟨lower, upper⟩
    intro rises
    have := of_decide_eq_true rises
    omega
  · apply Battery.Percentage.countTo ⟨lower, upper⟩
    intro falls
    have := of_decide_eq_true falls
    omega

structure Sleep where
  active : Bool
  holdOff : Bool
  savedMode : Mode
  lastWorkMode : Mode

namespace System

def sleep (s : System) : Sleep := ⟨s.lprunningActive, s.lprunningHoldOff, s.lprunningSavedMode, s.lastWorkMode⟩

/-- A step that neither begins nor ends the sleep. The mode in the configuration stays, or the step `asks` the main
thread for the mode that it writes there, unless the queue is full. -/
structure Aside (asks : Bool) (s next : System) : Prop where
  sleep : next.sleep = s.sleep
  battery : s.battery.Percentage → next.battery.Percentage
  lpsleepTimer : next.lpsleepTimer = s.lpsleepTimer
  scan : next.scanMode = s.scanMode ∧ next.btUpdataMode = s.btUpdataMode ∧ next.bleMsgq = s.bleMsgq
  main : ∃ sent, next.mainMsgq = s.mainMsgq ++ sent ∧ .lpsleepEnter ∉ sent
  mode : next.workmode.currentMode = s.workmode.currentMode ∨
    asks ∧ (next.dropped = s.dropped → .workModeSwitch next.workmode.currentMode ∈ next.mainMsgq)
  dropped : s.dropped ≤ next.dropped

variable {asks : Bool}

lemma sends_none (queue : next.mainMsgq = s.mainMsgq) :
    ∃ sent, next.mainMsgq = s.mainMsgq ++ sent ∧ .lpsleepEnter ∉ sent :=
  ⟨[], queue.trans (append_nil _).symm, not_mem_nil⟩

lemma Aside.refl (s) : Aside asks s s := ⟨rfl, id, rfl, ⟨rfl, rfl, rfl⟩, sends_none rfl, .inl rfl, Nat.le_refl _⟩

lemma Aside.trans {middle : System} (first : Aside asks s middle) (last : Aside asks middle next) : Aside asks s next := by
  obtain ⟨sent, queue, unsent⟩ := first.main
  obtain ⟨later, final, lastUnsent⟩ := last.main
  have dropped := first.dropped
  have lastDropped := last.dropped
  refine ⟨last.sleep.trans first.sleep, fun shown => last.battery (first.battery shown), last.lpsleepTimer.trans first.lpsleepTimer,
    ⟨last.scan.1.trans first.scan.1, last.scan.2.1.trans first.scan.2.1, last.scan.2.2.trans first.scan.2.2⟩,
    ⟨sent ++ later, by rw [final, queue, append_assoc], ?_⟩, ?_, Nat.le_trans dropped lastDropped⟩
  · intro member
    exact (mem_append.mp member).elim unsent lastUnsent
  · rcases last.mode with kept | asked
    · rcases first.mode with same | ⟨may, before⟩
      · exact .inl (kept.trans same)
      · refine .inr ⟨may, fun fits => ?_⟩
        rw [kept, final]
        exact mem_append_left _ (before (by omega))
    · exact .inr ⟨asked.1, fun fits => asked.2 (by omega)⟩

lemma Aside.mayAsk (aside : Aside false s next) : Aside true s next :=
  { aside with mode := aside.mode.imp_right fun asks => nomatch asks.1 }

lemma aside_fields (s lteTimer) (lprunning : LprunningConfig) (sensorReady currentMoving lastMoving : Bool)
    (gsensorMsgq : List GsensorMsg) : Aside false s { s with lteTimer, lprunning, sensorReady, currentMoving, lastMoving, gsensorMsgq } :=
  ⟨rfl, id, rfl, ⟨rfl, rfl, rfl⟩, sends_none rfl, .inl rfl, Nat.le_refl _⟩

lemma aside_params {workmode : DeviceConfig} (same : workmode.currentMode = s.workmode.currentMode) :
    Aside false s { s with workmode := workmode } :=
  ⟨rfl, id, rfl, ⟨rfl, rfl, rfl⟩, sends_none rfl, .inl same, Nat.le_refl _⟩

lemma aside_postMain (s : System) {msg : MainMsg} (other : .lpsleepEnter ≠ msg) : Aside false s (s.postMain msg) := by
  unfold postMain
  split
  · exact ⟨rfl, id, rfl, ⟨rfl, rfl, rfl⟩, ⟨[msg], rfl, fun member => other (mem_singleton.mp member)⟩, .inl rfl,
      Nat.le_refl _⟩
  · exact ⟨rfl, id, rfl, ⟨rfl, rfl, rfl⟩, sends_none rfl, .inl rfl, Nat.le_succ _⟩

lemma aside_postGsensor (s : System) (msg) : Aside false s (s.postGsensor msg) := by
  unfold postGsensor
  split
  · exact ⟨rfl, id, rfl, ⟨rfl, rfl, rfl⟩, sends_none rfl, .inl rfl, Nat.le_refl _⟩
  · exact ⟨rfl, id, rfl, ⟨rfl, rfl, rfl⟩, sends_none rfl, .inl rfl, Nat.le_succ _⟩

lemma aside_lteTimer (s) (timer : Timer) : Aside false s { s with lteTimer := timer } :=
  aside_fields s timer s.lprunning s.sensorReady s.currentMoving s.lastMoving s.gsensorMsgq

lemma aside_policy (s : System) : Aside false s s.smartModeApplyLtePolicy := by
  simp only [smartModeApplyLtePolicy]
  repeat' split
  all_goals exact aside_lteTimer s _

lemma aside_handleMode (s : System) (mode) : Aside false s (s.handleMode mode) := by
  cases mode with
  | longLife => exact (aside_postGsensor s _).trans (aside_postMain _ nofun)
  | smart => exact aside_postGsensor s _
  | continuous | alwaysOnline => exact (aside_lteTimer s .stopped).trans (aside_postGsensor _ _)
  | max | shutdown => exact .refl s

lemma aside_switch (s : System) (mode : Mode) :
    Aside true s ((if s.lastWorkMode ≠ mode then { s with workmode.currentMode := mode } else s).postMain (.workModeSwitch mode)) := by
  split
  · unfold postMain
    split
    · exact ⟨rfl, id, rfl, ⟨rfl, rfl, rfl⟩, ⟨[.workModeSwitch mode], rfl, fun member => nomatch mem_singleton.mp member⟩,
        .inr ⟨rfl, fun _ => mem_append_right _ mem_cons_self⟩, Nat.le_refl _⟩
    · exact ⟨rfl, id, rfl, ⟨rfl, rfl, rfl⟩, sends_none rfl,
        .inr ⟨rfl, fun fits => absurd fits (Nat.succ_ne_self _)⟩, Nat.le_succ _⟩
  · apply Aside.mayAsk
    exact aside_postMain s nofun

lemma aside_notify (s : System) (mode) : Aside false s (if s.workmode.currentMode = mode then
        match mode with
        | .longLife => s.postMain .resetLteTimer
        | .smart => s.smartModeApplyLtePolicy
        | _ => s
      else s) := by
  split
  · split
    · exact aside_postMain s nofun
    · exact aside_policy s
    · exact .refl s
  · exact .refl s

lemma aside_runModeset {actions : List BleAction} (begins : Begins actions) (s) :
    Aside true s (runModeset actions s) := by
  cases begins with
  | refused => exact .refl s
  | switch mode _ => exact aside_switch s mode
  | params set mode =>
    simp only [paramProgram, runModeset]
    cases applied : set.apply s.workmode with
    | none => exact .refl s
    | some workmode =>
      have set : Aside false s { s with workmode := workmode } := aside_params (ParamSet.apply_currentMode applied)
      exact (set.trans (aside_notify _ mode)).mayAsk

lemma aside_modeset (s parm) : Aside true s (runModeset (modesetCmdHandler parm) s) :=
  aside_runModeset (modesetCmdHandler_begins parm) s

lemma aside_lprunningCmdHandler (s : System) (parm) : Aside false s (s.lprunningCmdHandler parm) := by
  have posted (config : LprunningConfig) {msg : MainMsg} (other : .lpsleepEnter ≠ msg) :
      Aside false s ({ s with lprunning := config }.postMain msg) :=
    (aside_fields s s.lteTimer config s.sensorReady s.currentMoving s.lastMoving s.gsensorMsgq).trans (aside_postMain _ other)
  unfold lprunningCmdHandler
  split
  · split
    · exact posted _ nofun
    · split
      · exact posted _ nofun
      · exact .refl s
  · split
    · split
      · exact .refl s
      · exact posted _ nofun
    · exact .refl s
  · exact .refl s

lemma aside_motionStateCheck (s : System) (moving) : Aside false s (s.motionStateCheck moving) := by
  unfold motionStateCheck
  split
  · split
    · exact (aside_fields s s.lteTimer s.lprunning s.sensorReady moving moving s.gsensorMsgq).trans (aside_policy _)
    · exact aside_fields s s.lteTimer s.lprunning s.sensorReady moving s.lastMoving s.gsensorMsgq
  · exact .refl s

lemma aside_handleGsensor (s : System) (done moving msg) :
    Aside false s (s.handleGsensor done moving msg) := by
  cases msg with
  | highPower | lowPower => exact aside_fields s s.lteTimer s.lprunning _ s.currentMoving s.lastMoving s.gsensorMsgq
  | motionCheck => exact aside_motionStateCheck s moving
  | other => exact .refl s

lemma aside_setResetLteTimer (s : System) (found) : Aside false s (s.setResetLteTimer found) := by
  unfold setResetLteTimer
  split
  · exact aside_lteTimer s .oneShot
  · exact .refl s

lemma aside_expiry (s : System) : Aside false s (s.step .lteTimer) := by
  have awaken (timer : Timer) : Aside false s
      (if s.workmode.currentMode = .longLife then { s with lteTimer := timer }.postMain .resetLteTimer
      else { s with lteTimer := timer }) := by
    split
    · exact (aside_lteTimer s timer).trans (aside_postMain _ nofun)
    · exact aside_lteTimer s timer
  simp only [step]
  split
  · exact .refl s
  · split
    · exact awaken .stopped
    · exact awaken s.lteTimer

lemma sleep_takeMode (s : System) (mode) : (s.takeMode mode).sleep = { s.sleep with lastWorkMode := mode } := by
  unfold takeMode
  split
  next same =>
    subst same
    rfl
  · split
    · rfl
    · exact (aside_handleMode _ mode).sleep

lemma sleep_leaveSleep (s : System) :
    s.leaveSleep.sleep = ⟨false, s.lprunningActive || s.lprunningHoldOff, s.lprunningSavedMode,
      if s.lprunningActive then .max else s.lastWorkMode⟩ := by
  unfold leaveSleep
  split
  next asleep =>
    rw [asleep]
    rfl
  next awake =>
    unfold sleep
    rw [eq_false_of_ne_true awake]
    rfl

lemma sleep_switch (s : System) (mode) : (s.switchWorkModeInternal mode).sleep =
      ⟨false, s.lprunningActive || s.lprunningHoldOff, s.lprunningSavedMode, mode⟩ := by
  unfold switchWorkModeInternal
  rw [sleep_takeMode, sleep_leaveSleep]

@[simp] lemma sleep_postBle (s : System) (msg) : (s.postBle msg).sleep = s.sleep := by
  unfold postBle
  split
  all_goals rfl

lemma sleep_enter (awake : s.lprunningActive = false) :
    s.handleLprunningEnter.sleep = ⟨true, s.lprunningHoldOff, s.workmode.currentMode, s.lastWorkMode⟩ := by
  unfold handleLprunningEnter
  rw [if_neg (by rw [awake]; exact Bool.false_ne_true)]
  exact (aside_postGsensor _ _).sleep.trans (sleep_postBle _ _)

lemma sleep_exit (asleep : s.lprunningActive = true) :
    s.handleLprunningExit.sleep = ⟨false, s.lprunningHoldOff, s.lprunningSavedMode, s.lprunningSavedMode⟩ := by
  unfold handleLprunningExit
  rw [if_pos asleep]
  exact (sleep_postBle _ _).trans (sleep_switch _ _)

lemma aside_battery (s : System) (charging mv) : Aside false s (s.step (.battery charging mv)) := by
  have most := myBatteryReadPercent_le mv
  have read : Aside false s { s with battery := s.battery.update charging (myBatteryReadPercent mv) } :=
    ⟨rfl, fun shown => shown.update charging (by omega) (by omega), rfl, ⟨rfl, rfl, rfl⟩,
      sends_none rfl, .inl rfl, Nat.le_refl _⟩
  simp only [step]
  split
  · exact read.trans (aside_postMain _ nofun)
  · exact read

lemma aside_motionTimer (s : System) : Aside false s (s.step .motionTimer) := by
  simp only [step]
  split
  · exact aside_postGsensor s _
  · exact .refl s

inductive Move (s : System) : Event → System → Prop where
  | main (found : Bool) (msg : MainMsg) (rest : List MainMsg) (queue : s.mainMsgq = msg :: rest) :
      Move s (.main found) ({ s with mainMsgq := rest }.handleMain found msg)
  | ble (msg : BleMsg) (rest : List BleMsg) (queue : s.bleMsgq = msg :: rest) :
      Move s .ble ({ s with bleMsgq := rest }.handleBle msg)
  | arrives (msg : BleMsg) (plain : msg ≠ .scanLpsleepEnter ∧ msg ≠ .scanLpsleepExit) {event : Event}
      (none : s.handled event = none) : Move s event (s.postBle msg)
  | aside {next : System} (aside : Aside false s next) {event : Event} (none : s.handled event = none) : Move s event next

lemma step_move (s : System) (event) : Move s event (s.step event) := by
  cases event with
  | main found =>
    cases queue : s.mainMsgq with
    | nil =>
      have idle : s.step (.main found) = s := by simp only [step, queue]
      rw [idle]
      exact .aside (.refl s) (by simp only [handled, queue, List.head?_nil])
    | cons msg rest =>
      have taken : s.step (.main found) = { s with mainMsgq := rest }.handleMain found msg := by simp only [step, queue]
      rw [taken]
      exact .main found msg rest queue
  | ble =>
    cases queue : s.bleMsgq with
    | nil =>
      have idle : s.step .ble = s := by simp only [step, queue]
      rw [idle]
      exact .aside (.refl s) rfl
    | cons msg rest =>
      have taken : s.step .ble = { s with bleMsgq := rest }.handleBle msg := by simp only [step, queue]
      rw [taken]
      exact .ble msg rest queue
  | gsensor done moving =>
    refine .aside ?_ rfl
    cases queue : s.gsensorMsgq with
    | nil =>
      have idle : s.step (.gsensor done moving) = s := by simp only [step, queue]
      rw [idle]
      exact .refl s
    | cons msg rest =>
      have taken : s.step (.gsensor done moving) = { s with gsensorMsgq := rest }.handleGsensor done moving msg := by
        simp only [step, queue]
      rw [taken]
      exact (aside_fields s s.lteTimer s.lprunning s.sensorReady s.currentMoving s.lastMoving rest).trans
        (aside_handleGsensor _ done moving msg)
  | modeset parm => exact .arrives (.modeset parm) ⟨nofun, nofun⟩ rfl
  | lpsleep parm => exact .arrives (.lpsleep parm) ⟨nofun, nofun⟩ rfl
  | otherBle => exact .arrives .other ⟨nofun, nofun⟩ rfl
  | shutdownRequest =>
    have posted : Aside false s (s.postMain .shutdownRequest) := aside_postMain s nofun
    exact .aside posted rfl
  | otherMain =>
    have posted : Aside false s (s.postMain .other) := aside_postMain s nofun
    exact .aside posted rfl
  | otherGsensor => exact .aside (aside_postGsensor s _) rfl
  | battery charging mv => exact .aside (aside_battery s charging mv) rfl
  | motionTimer => exact .aside (aside_motionTimer s) rfl
  | lteTimer => exact .aside (aside_expiry s) rfl
  | lpsleepTimer => exact .aside (.refl s) rfl

end System

end

section
open Sleep

variable {event : Event} {msg : Option MainMsg}

namespace System

/-- What holds in every state: the display shows a percentage, and nobody has sent `MY_MSG_LPSLEEP_ENTER`. -/
structure Sane (s : System) : Prop where
  shown : s.battery.Percentage
  unsent : .lpsleepEnter ∉ s.mainMsgq

variable {s next : System}

section

variable (sane : s.Sane)
include sane

lemma Sane.aside {asks : Bool} (aside : Aside asks s next) : next.Sane := by
  obtain ⟨sent, queue, unsent⟩ := aside.main
  constructor
  · exact aside.battery sane.shown
  · rw [queue]
    exact fun member => (mem_append.mp member).elim sane.unsent unsent

lemma Sane.postBle (msg) : (s.postBle msg).Sane := by
  unfold System.postBle
  split
  all_goals exact ⟨sane.shown, sane.unsent⟩

lemma Sane.switch (mode : Mode) : (s.switchWorkModeInternal mode).Sane := by
  have left : s.leaveSleep.Sane := by
    unfold leaveSleep
    split
    all_goals exact ⟨sane.shown, sane.unsent⟩
  unfold switchWorkModeInternal takeMode
  split
  · exact left
  · split
    · exact ⟨left.shown, left.unsent⟩
    · refine Sane.aside ?_ (aside_handleMode _ mode)
      exact ⟨left.shown, left.unsent⟩

lemma Sane.enter : s.handleLprunningEnter.Sane := by
  unfold handleLprunningEnter
  split
  · exact sane
  · have asleep : Sane { s with lprunningSavedMode := s.workmode.currentMode, lprunningActive := true } :=
      ⟨sane.shown, sane.unsent⟩
    have stopped := (asleep.postBle .scanLpsleepEnter).aside
      ((aside_lteTimer _ .stopped).trans (aside_postGsensor _ .lowPower))
    exact ⟨stopped.shown, stopped.unsent⟩

lemma Sane.exit : s.handleLprunningExit.Sane := by
  unfold handleLprunningExit
  split
  · refine Sane.postBle (Sane.switch ?_ _) _
    exact ⟨sane.shown, sane.unsent⟩
  · exact sane

lemma Sane.check : s.handleLprunningBatteryCheck.Sane := by
  unfold handleLprunningBatteryCheck
  split
  · exact sane
  · split
    · split
      · exact sane.enter
      · exact sane
    · split
      · exact ⟨sane.shown, sane.unsent⟩
      · split
        · exact sane.exit
        · exact sane

lemma Sane.handleMain (found : Bool) (msg) : (s.handleMain found msg).Sane := by
  cases msg with
  | workModeSwitch mode => exact sane.switch mode
  | resetLteTimer => exact sane.aside (aside_setResetLteTimer s found)
  | lpsleepEnter => exact sane.enter
  | lpsleepExit => exact sane.exit
  | lpsleepBatteryCheck => exact sane.check
  | lpsleepClearHoldOff => exact ⟨sane.shown, sane.unsent⟩
  | shutdownRequest => exact sane.aside (aside_postMain s nofun)
  | other => exact sane

lemma Sane.handleBle (msg) : (s.handleBle msg).Sane := by
  cases msg with
  | modeset parm => exact sane.aside (aside_modeset s parm)
  | lpsleep parm => exact sane.aside (aside_lprunningCmdHandler s parm)
  | scanLpsleepEnter | scanLpsleepExit | other => exact ⟨sane.shown, sane.unsent⟩

lemma Sane.move (move : Move s event next) : next.Sane := by
  cases move with
  | main found msg rest queue =>
    apply Sane.handleMain
    exact ⟨sane.shown, fun member => sane.unsent (queue ▸ mem_cons_of_mem _ member)⟩
  | ble msg rest queue =>
    apply Sane.handleBle
    exact ⟨sane.shown, sane.unsent⟩
  | arrives msg => exact sane.postBle msg
  | aside aside => exact sane.aside aside

end

/-- What a handled message does to the sleep. -/
inductive Change (s next : System) : Option MainMsg → Prop where
  | quiet {msg : Option MainMsg} (other : ∀ mode, msg ≠ some (.workModeSwitch mode)) (same : next.sleep = s.sleep) :
      Change s next msg
  | cleared {msg : Option MainMsg} (cause : msg = some .lpsleepClearHoldOff ∨ msg = some .lpsleepBatteryCheck ∧
      s.lprunning.lprunningThreshold ≤ s.battery.showPercent) (same : next.sleep = { s.sleep with holdOff := false }) :
      Change s next msg
  | entered (on : s.lprunning.lprunningSw = 1) (low : s.battery.showPercent < s.lprunning.lprunningThreshold)
      (free : s.lprunningHoldOff = false) (awake : s.lprunningActive = false)
      (same : next.sleep = ⟨true, s.lprunningHoldOff, s.workmode.currentMode, s.lastWorkMode⟩) :
      Change s next (some .lpsleepBatteryCheck)
  | switched (mode : Mode)
      (same : next.sleep = ⟨false, s.lprunningActive || s.lprunningHoldOff, s.lprunningSavedMode, mode⟩) :
      Change s next (some (.workModeSwitch mode))
  | exited {msg : Option MainMsg} (asleep : s.lprunningActive = true)
      (cause : msg = some .lpsleepExit ∨ msg = some .lpsleepBatteryCheck ∧
        (s.lprunning.lprunningThreshold + 5 : Int) ≤ s.battery.showPercent)
      (same : next.sleep = ⟨false, s.lprunningHoldOff, s.lprunningSavedMode, s.lprunningSavedMode⟩) : Change s next msg

lemma Change.of_check (sane : s.Sane) (rest : List MainMsg) :
    Change s ({ s with mainMsgq := rest }.handleLprunningBatteryCheck) (some .lpsleepBatteryCheck) := by
  unfold handleLprunningBatteryCheck
  split
  · exact .quiet nofun rfl
  next on =>
    split
    next low =>
      split
      next free =>
        exact .entered (not_not.mp on) low.2 (eq_false_of_ne_true free) (eq_false_of_ne_true low.1)
          (sleep_enter (eq_false_of_ne_true low.1))
      · exact .quiet nofun rfl
    · split
      next high => exact .cleared (.inr ⟨rfl, high.2⟩) rfl
      · split
        next recovered =>
          have shown := sane.shown
          have unsigned : s.battery.showPercent % 2 ^ 32 = s.battery.showPercent := by
            apply Int.emod_eq_of_lt shown.1
            exact Int.lt_of_le_of_lt shown.2 (by decide)
          have enough : (s.lprunning.lprunningThreshold + 5 : Int) ≤ s.battery.showPercent % 2 ^ 32 := recovered.2
          exact .exited recovered.1 (.inr ⟨rfl, unsigned ▸ enough⟩) (sleep_exit recovered.1)
        · exact .quiet nofun rfl

lemma Change.of_exit (s) (rest : List MainMsg) :
    Change s ({ s with mainMsgq := rest }.handleLprunningExit) (some .lpsleepExit) := by
  by_cases asleep : s.lprunningActive = true
  · exact .exited asleep (.inl rfl) (sleep_exit asleep)
  · unfold handleLprunningExit
    rw [if_neg asleep]
    exact .quiet nofun rfl

lemma Change.of_main (sane : s.Sane) {msg : MainMsg} {rest : List MainMsg} (queue : s.mainMsgq = msg :: rest) (found : Bool) :
    Change s ({ s with mainMsgq := rest }.handleMain found msg) (some msg) := by
  cases msg with
  | workModeSwitch mode => exact .switched mode (sleep_switch _ mode)
  | resetLteTimer => exact .quiet nofun (aside_setResetLteTimer _ found).sleep
  | lpsleepEnter => exact absurd (queue ▸ mem_cons_self) sane.unsent
  | lpsleepExit => exact .of_exit s rest
  | lpsleepBatteryCheck => exact .of_check sane rest
  | lpsleepClearHoldOff => exact .cleared (.inl rfl) rfl
  | shutdownRequest =>
    have posted : Aside false { s with mainMsgq := rest } ({ s with mainMsgq := rest }.postMain (.workModeSwitch .shutdown)) :=
      aside_postMain _ nofun
    exact .quiet nofun posted.sleep
  | other => exact .quiet nofun rfl

lemma sleep_handleBle (s : System) (msg) : (s.handleBle msg).sleep = s.sleep := by
  cases msg with
  | modeset parm => exact (aside_modeset s parm).sleep
  | lpsleep parm => exact (aside_lprunningCmdHandler s parm).sleep
  | scanLpsleepEnter | scanLpsleepExit | other => rfl

lemma Move.change (sane : s.Sane) (move : Move s event next) : Change s next (s.handled event) := by
  cases move with
  | main found msg rest queue =>
    have handles : s.handled (.main found) = some msg := by rw [handled, queue, List.head?_cons]
    rw [handles]
    exact .of_main sane queue found
  | ble msg rest queue => exact .quiet nofun (sleep_handleBle _ msg)
  | arrives msg plain none =>
    rw [none]
    exact .quiet nofun (sleep_postBle s msg)
  | aside aside none =>
    rw [none]
    exact .quiet nofun aside.sleep

variable (boot : Boot) (events : List Event) (n : Nat)

/-- The state behind the first `n` events. -/
def reached (n : Nat) : System := (events.take n).foldl step (start boot)

/-- The main thread's message that event `n` handles. -/
def message (n : Nat) : Option MainMsg := events[n]?.bind (reached boot events n).handled

lemma reached_sane : (reached boot events n).Sane := by
  unfold reached
  generalize events.take n = events
  have first : (start boot).Sane := ⟨⟨Int.le_refl 0, (by decide : (0 : Int) ≤ 100)⟩, fun member => nomatch mem_singleton.mp member⟩
  generalize start boot = s at first
  induction events generalizing s with
  | nil => exact first
  | cons event events ih => exact ih _ (first.move (step_move s event))

lemma reached_change : Change (reached boot events n) (reached boot events (n + 1)) (message boot events n) := by
  have sane := reached_sane boot events n
  unfold message
  cases now : events[n]? with
  | none =>
    have same : reached boot events (n + 1) = reached boot events n := by
      rw [reached, take_add_one, now, Option.toList_none, append_nil, reached]
    rw [same]
    exact .quiet nofun rfl
  | some event =>
    have next : reached boot events (n + 1) = (reached boot events n).step event := by
      rw [reached, take_add_one, now, Option.toList_some, foldl_append, reached]
      rfl
    rw [next]
    exact (step_move _ event).change sane

/-- The sleep begins only at a battery check below the threshold; it ends only by a mode switch, by a request or at a
check five above the threshold; behind a mode switch there is no new sleep before the hold-off ends; and every other end
runs the mode that was current when it began. -/
structure Hysteresis : Prop where
  enters : ∀ n, (reached boot events n).lprunningActive = false → (reached boot events (n + 1)).lprunningActive = true →
    message boot events n = some .lpsleepBatteryCheck ∧ (reached boot events n).lprunning.lprunningSw = 1 ∧
      (reached boot events n).battery.showPercent < (reached boot events n).lprunning.lprunningThreshold ∧
      (reached boot events n).lprunningHoldOff = false
  leaves : ∀ n, (reached boot events n).lprunningActive = true → (reached boot events (n + 1)).lprunningActive = false →
    (∃ mode, message boot events n = some (.workModeSwitch mode)) ∨ message boot events n = some .lpsleepExit ∨
      message boot events n = some .lpsleepBatteryCheck ∧
        ((reached boot events n).lprunning.lprunningThreshold + 5 : Int) ≤ (reached boot events n).battery.showPercent
  holdsOff : ∀ n m, (reached boot events n).lprunningActive = true →
    (∃ mode, message boot events n = some (.workModeSwitch mode)) → n < m →
    (∀ k, n < k → k < m → message boot events k ≠ some .lpsleepClearHoldOff ∧
      ¬ (message boot events k = some .lpsleepBatteryCheck ∧
        (reached boot events k).lprunning.lprunningThreshold ≤ (reached boot events k).battery.showPercent)) →
    (reached boot events m).lprunningActive = false
  restores : ∀ n m, (reached boot events n).lprunningActive = false →
    (∀ k, n < k → k ≤ m → (reached boot events k).lprunningActive = true) → n < m →
    (reached boot events (m + 1)).lprunningActive = false → (∀ mode, message boot events m ≠ some (.workModeSwitch mode)) →
    (reached boot events (m + 1)).lastWorkMode = (reached boot events n).workmode.currentMode

variable {boot events}

lemma Change.enters (change : Change s next msg) (awake : s.lprunningActive = false)
    (asleep : next.lprunningActive = true) :
    msg = some .lpsleepBatteryCheck ∧ s.lprunning.lprunningSw = 1 ∧
      s.battery.showPercent < s.lprunning.lprunningThreshold ∧ s.lprunningHoldOff = false ∧
      next.lprunningSavedMode = s.workmode.currentMode := by
  cases change with
  | quiet _ same | cleared cause same =>
    exact absurd ((congrArg active same).symm.trans asleep) (by simp [sleep, awake])
  | entered on low free _ same => exact ⟨rfl, on, low, free, congrArg savedMode same⟩
  | switched mode same | exited _ _ same => exact nomatch (congrArg active same).symm.trans asleep

lemma Change.leaves (change : Change s next msg) (asleep : s.lprunningActive = true)
    (awake : next.lprunningActive = false) :
    (∃ mode, msg = some (.workModeSwitch mode)) ∨ (msg = some .lpsleepExit ∨ msg = some .lpsleepBatteryCheck ∧
        (s.lprunning.lprunningThreshold + 5 : Int) ≤ s.battery.showPercent) ∧ next.lastWorkMode = s.lprunningSavedMode := by
  cases change with
  | quiet _ same | cleared cause same =>
    exact absurd ((congrArg Sleep.active same).symm.trans awake) (by simp [sleep, asleep])
  | entered _ _ _ _ same => exact nomatch (congrArg Sleep.active same).symm.trans awake
  | switched mode same => exact .inl ⟨mode, rfl⟩
  | exited _ cause same => exact .inr ⟨cause, congrArg Sleep.lastWorkMode same⟩

/-- Awake, with the hold-off after a mode switch. -/
def Held (s : System) : Prop := s.lprunningActive = false ∧ s.lprunningHoldOff = true

lemma Change.held (change : Change s next msg) (held : Held s)
    (uncleared : msg ≠ some .lpsleepClearHoldOff)
    (below : ¬ (msg = some .lpsleepBatteryCheck ∧ s.lprunning.lprunningThreshold ≤ s.battery.showPercent)) : Held next := by
  cases change with
  | quiet _ same => exact ⟨(congrArg active same).trans held.1, (congrArg holdOff same).trans held.2⟩
  | cleared cause same => exact (cause.elim uncleared below).elim
  | entered _ _ free => exact nomatch held.2.symm.trans free
  | switched mode same =>
    refine ⟨congrArg active same, (congrArg holdOff same).trans ?_⟩
    rw [held.2, Bool.or_true]
  | exited asleep => exact nomatch held.1.symm.trans asleep

lemma Change.held_of_switch {mode : Mode} (change : Change s next (some (.workModeSwitch mode)))
    (asleep : s.lprunningActive = true) : Held next := by
  cases change with
  | quiet other => exact absurd rfl (other mode)
  | cleared cause same => exact (cause.elim nofun fun check => nomatch check.1)
  | switched _ same =>
    refine ⟨congrArg active same, (congrArg holdOff same).trans ?_⟩
    rw [asleep, Bool.true_or]
  | exited _ cause => exact (cause.elim nofun fun check => nomatch check.1)

lemma Change.saved (change : Change s next msg) (before : s.lprunningActive = true)
    (after : next.lprunningActive = true) : next.lprunningSavedMode = s.lprunningSavedMode := by
  cases change with
  | quiet _ same | cleared _ same => exact congrArg savedMode same
  | entered _ _ _ awake => exact nomatch before.symm.trans awake
  | switched _ same | exited _ _ same => exact nomatch (congrArg active same).symm.trans after

theorem lpsleep_hysteresis (boot : Boot) (events : List Event) : Hysteresis boot events where
  enters n awake asleep := by
    obtain ⟨check, on, low, free, -⟩ := (reached_change boot events n).enters awake asleep
    exact ⟨check, on, low, free⟩
  leaves n asleep awake := by
    rcases (reached_change boot events n).leaves asleep awake with switch | ⟨cause, -⟩
    · exact .inl switch
    · exact .inr cause
  holdsOff n m asleep switch later uncleared := by
    obtain ⟨mode, switch⟩ := switch
    have first := reached_change boot events n
    rw [switch] at first
    -- held off from the switch on, step by step
    have held : ∀ k, n < k → k ≤ m → Held (reached boot events k) := by
      intro k behind
      induction k with
      | zero => exact absurd behind (Nat.not_lt_zero _)
      | succ k ih =>
        intro upTo
        rcases Nat.lt_or_eq_of_le (Nat.le_of_lt_succ behind) with further | rfl
        · obtain ⟨request, check⟩ := uncleared k further upTo
          exact (reached_change boot events k).held (ih further (Nat.le_of_lt upTo)) request check
        · exact first.held_of_switch asleep
    exact (held m later (Nat.le_refl m)).1
  restores n m awake asleep later exit manual := by
    have saved : ∀ k, n < k → k ≤ m →
        (reached boot events k).lprunningSavedMode = (reached boot events n).workmode.currentMode := by
      intro k behind
      induction k with
      | zero => exact absurd behind (Nat.not_lt_zero _)
      | succ k ih =>
        intro upTo
        have after := asleep (k + 1) behind upTo
        rcases Nat.lt_or_eq_of_le (Nat.le_of_lt_succ behind) with further | rfl
        · have before := asleep k further (Nat.le_of_lt upTo)
          exact ((reached_change boot events k).saved before after).trans (ih further (Nat.le_of_lt upTo))
        · exact ((reached_change boot events n).enters awake after).2.2.2.2
    rcases (reached_change boot events m).leaves (asleep m later (Nat.le_refl m)) exit with ⟨mode, switch⟩ | ⟨-, restored⟩
    · exact absurd switch (manual mode)
    · exact restored.trans (saved m later (Nat.le_refl m))

end System

end

open Library Sleep

def scanAfter (configured : Nat) (msgs : List BleMsg) (mode : Nat) : Nat := msgs.foldl (fun mode msg =>
    match msg with
    | .scanLpsleepEnter => 0
    | .scanLpsleepExit => configured
    | _ => mode) mode

namespace System

variable {s next : System}

/-- With the queue empty, the scan is off in a sleep and as configured outside of it. -/
def Restored (s : System) : Prop := s.drainBle.scanMode = if s.lprunningActive then 0 else s.btUpdataMode

instance (s : System) : Decidable s.Restored := inferInstanceAs (Decidable (_ = _))

def Fits (s : System) (event : Event) : Prop := (s.step event).dropped = s.dropped

instance (s : System) (event : Event) : Decidable (s.Fits event) := inferInstanceAs (Decidable (_ = _))

def isModeSwitch : Option MainMsg → Bool
  | some (.workModeSwitch _) => true
  | _ => false

def SwitchesAwake (s : System) (event : Event) : Prop :=
  isModeSwitch (s.handled event) → s.lprunningActive → s.btUpdataMode = 0

instance (s : System) (event : Event) : Decidable (s.SwitchesAwake event) := inferInstanceAs (Decidable (_ → _ → _))

lemma handleBle_scan (s : System) (msg : BleMsg) :
    (s.handleBle msg).scanMode = scanAfter s.btUpdataMode [msg] s.scanMode ∧
      (s.handleBle msg).btUpdataMode = s.btUpdataMode ∧ (s.handleBle msg).bleMsgq = s.bleMsgq := by
  cases msg with
  | modeset parm => exact (aside_modeset s parm).scan
  | lpsleep parm => exact (aside_lprunningCmdHandler s parm).scan
  | scanLpsleepEnter | scanLpsleepExit | other => exact ⟨rfl, rfl, rfl⟩

lemma drain_scanMode {queue : List BleMsg} (taken : s.bleMsgq = queue) :
    ((List.replicate queue.length Event.ble).foldl step s).scanMode = scanAfter s.btUpdataMode queue s.scanMode := by
  induction queue generalizing s with
  | nil => rfl
  | cons msg rest ih =>
    have next : s.step .ble = { s with bleMsgq := rest }.handleBle msg := by simp only [step, taken]
    obtain ⟨mode, configured, left⟩ := handleBle_scan { s with bleMsgq := rest } msg
    rw [length_cons, replicate_succ, foldl_cons, next, ih left, mode, configured]
    rfl

lemma restored_iff (s : System) :
    s.Restored ↔ scanAfter s.btUpdataMode s.bleMsgq s.scanMode = if s.lprunningActive then 0 else s.btUpdataMode := by
  unfold Restored drainBle
  rw [drain_scanMode rfl]

structure ScanKept (s next : System) : Prop where
  scanMode : next.scanMode = s.scanMode
  btUpdataMode : next.btUpdataMode = s.btUpdataMode
  bleMsgq : next.bleMsgq = s.bleMsgq
  dropped : s.dropped ≤ next.dropped

lemma Aside.scanKept {asks : Bool} (aside : Aside asks s next) : ScanKept s next :=
  ⟨aside.scan.1, aside.scan.2.1, aside.scan.2.2, aside.dropped⟩

lemma switch_scanKept (s : System) (mode : Mode) : ScanKept s (s.switchWorkModeInternal mode) := by
  have left : ScanKept s s.leaveSleep := by
    unfold leaveSleep
    split
    all_goals exact ⟨rfl, rfl, rfl, Nat.le_refl _⟩
  unfold switchWorkModeInternal takeMode
  split
  · exact left
  · split
    · exact { left with }
    · obtain ⟨scanMode, btUpdataMode, bleMsgq, dropped⟩ := Aside.scanKept (aside_handleMode _ mode)
      exact ⟨scanMode.trans left.scanMode, btUpdataMode.trans left.btUpdataMode, bleMsgq.trans left.bleMsgq,
        Nat.le_trans left.dropped dropped⟩

lemma Restored.kept (restored : s.Restored) (kept : ScanKept s next)
    (same : next.lprunningActive = s.lprunningActive ∨ s.btUpdataMode = 0) : next.Restored := by
  rw [restored_iff] at restored ⊢
  rw [kept.scanMode, kept.btUpdataMode, kept.bleMsgq, restored]
  rcases same with active | off
  · rw [active]
  · rw [off, ite_self, ite_self]

lemma restored_postBle {msg} (fits : (s.postBle msg).dropped = s.dropped)
    (decides : ∀ mode, scanAfter s.btUpdataMode [msg] mode = if s.lprunningActive then 0 else s.btUpdataMode) :
    (s.postBle msg).Restored := by
  rw [restored_iff]
  unfold postBle at fits ⊢
  split
  · exact (foldl_append ..).trans (decides _)
  next full =>
    rw [if_neg full] at fits
    exact absurd fits (Nat.succ_ne_self _)

lemma dropped_postBle (s : System) (msg : BleMsg) : s.dropped ≤ (s.postBle msg).dropped := by
  unfold postBle
  split
  · exact Nat.le_refl _
  · exact Nat.le_succ _

lemma restored_enter (awake : s.lprunningActive = false) (fits : s.handleLprunningEnter.dropped = s.dropped) :
    s.handleLprunningEnter.Restored := by
  unfold handleLprunningEnter at fits ⊢
  rw [if_neg (by rw [awake]; exact Bool.false_ne_true)] at fits ⊢
  generalize entered : ({ s with lprunningSavedMode := s.workmode.currentMode, lprunningActive := true } : System) = asleep
    at fits ⊢
  have same : asleep.dropped = s.dropped := by rw [← entered]
  have active : asleep.lprunningActive = true := by rw [← entered]
  have stopped := (aside_lteTimer (asleep.postBle .scanLpsleepEnter) .stopped).trans (aside_postGsensor _ .lowPower)
  have posted : (asleep.postBle .scanLpsleepEnter).dropped = asleep.dropped := by
    have later := stopped.dropped
    have more := dropped_postBle asleep .scanLpsleepEnter
    exact Nat.le_antisymm (Nat.le_trans later (Nat.le_of_eq (fits.trans same.symm))) more
  have restored := restored_postBle posted fun _ => by rw [active]; rfl
  exact restored.kept { stopped.scanKept with } (.inl (congrArg Sleep.active stopped.sleep))

lemma restored_exit (asleep : s.lprunningActive = true) (fits : s.handleLprunningExit.dropped = s.dropped) :
    s.handleLprunningExit.Restored := by
  unfold handleLprunningExit at fits ⊢
  rw [if_pos asleep] at fits ⊢
  generalize left : ({ s with lpsleepTimer := .stopped, lprunningActive := false, lastWorkMode := .max } : System) = awake
    at fits ⊢
  have same : awake.dropped = s.dropped := by rw [← left]
  have kept := switch_scanKept awake s.lprunningSavedMode
  have active : (awake.switchWorkModeInternal s.lprunningSavedMode).lprunningActive = false :=
    congrArg active (sleep_switch awake _)
  apply restored_postBle
  · have first := kept.dropped
    have more := dropped_postBle (awake.switchWorkModeInternal s.lprunningSavedMode) .scanLpsleepExit
    omega
  · intro mode
    rw [active]
    rfl

section

variable (restored : s.Restored)
include restored

lemma Restored.check (fits : s.handleLprunningBatteryCheck.dropped = s.dropped) :
    s.handleLprunningBatteryCheck.Restored := by
  unfold handleLprunningBatteryCheck at fits ⊢
  split
  · exact restored
  next on =>
    rw [if_neg on] at fits
    split
    next low =>
      rw [if_pos low] at fits
      split
      next free =>
        rw [if_pos free] at fits
        exact restored_enter (eq_false_of_ne_true low.1) fits
      · exact restored
    next low =>
      rw [if_neg low] at fits
      split
      · exact restored.kept ⟨rfl, rfl, rfl, Nat.le_refl _⟩ (.inl rfl)
      next high =>
        rw [if_neg high] at fits
        split
        next recovered =>
          rw [if_pos recovered] at fits
          exact restored_exit recovered.1 fits
        · exact restored

lemma Restored.main {found : Bool} {msg} (fits : (s.handleMain found msg).dropped = s.dropped)
    (awake : ∀ mode, msg = .workModeSwitch mode → s.lprunningActive = true → s.btUpdataMode = 0) :
    (s.handleMain found msg).Restored := by
  cases msg with
  | workModeSwitch mode =>
    have ended : (s.switchWorkModeInternal mode).lprunningActive = false := congrArg active (sleep_switch s mode)
    apply restored.kept (switch_scanKept s mode)
    cases active : s.lprunningActive with
    | true => exact .inr (awake mode rfl active)
    | false => exact .inl ended
  | resetLteTimer =>
    have aside := aside_setResetLteTimer s found
    exact restored.kept aside.scanKept (.inl (congrArg active aside.sleep))
  | lpsleepEnter =>
    by_cases active : s.lprunningActive = true
    · have same : s.handleMain found .lpsleepEnter = s := if_pos active
      rw [same]
      exact restored
    · exact restored_enter (eq_false_of_ne_true active) fits
  | lpsleepExit =>
    by_cases active : s.lprunningActive = true
    · exact restored_exit active fits
    · have same : s.handleMain found .lpsleepExit = s := if_neg active
      rw [same]
      exact restored
  | lpsleepBatteryCheck => exact restored.check fits
  | lpsleepClearHoldOff => exact restored.kept ⟨rfl, rfl, rfl, Nat.le_refl _⟩ (.inl rfl)
  | shutdownRequest =>
    have aside : Aside false s (s.postMain (.workModeSwitch .shutdown)) := aside_postMain s nofun
    exact restored.kept aside.scanKept (.inl (congrArg active aside.sleep))
  | other => exact restored

lemma Restored.arrives {msg} (plain : msg ≠ .scanLpsleepEnter ∧ msg ≠ .scanLpsleepExit) :
    (s.postBle msg).Restored := by
  rw [restored_iff] at restored ⊢
  unfold postBle
  split
  · refine (foldl_append ..).trans (Eq.trans ?_ restored)
    cases msg with
    | scanLpsleepEnter => exact absurd rfl plain.1
    | scanLpsleepExit => exact absurd rfl plain.2
    | modeset parm | lpsleep parm | other => rfl
  · exact restored

lemma Restored.ble {msg : BleMsg} {rest : List BleMsg} (queue : s.bleMsgq = msg :: rest) :
    ({ s with bleMsgq := rest }.handleBle msg).Restored := by
  have active : ({ s with bleMsgq := rest }.handleBle msg).lprunningActive = s.lprunningActive := by
    cases msg with
    | modeset parm => exact congrArg active (aside_modeset _ parm).sleep
    | lpsleep parm => exact congrArg active (aside_lprunningCmdHandler _ parm).sleep
    | scanLpsleepEnter | scanLpsleepExit | other => rfl
  obtain ⟨mode, configured, left⟩ := handleBle_scan { s with bleMsgq := rest } msg
  rw [restored_iff] at restored ⊢
  rw [mode, configured, left, active]
  rw [queue] at restored
  exact restored

lemma Restored.move {event} (move : Move s event next) (fits : next.dropped = s.dropped)
    (awake : s.SwitchesAwake event) : next.Restored := by
  cases move with
  | main found msg rest queue =>
    have taken : Restored { s with mainMsgq := rest } := by
      rw [restored_iff] at restored ⊢
      exact restored
    apply taken.main fits
    intro mode same
    apply awake
    rw [handled, queue, List.head?_cons, same]
    rfl
  | ble msg rest queue => exact restored.ble queue
  | arrives msg plain => exact restored.arrives plain
  | aside aside => exact restored.kept aside.scanKept (.inl (congrArg active aside.sleep))

lemma Restored.switchesAwake {event} (after : (s.step event).Restored) : s.SwitchesAwake event := by
  intro handles asleep
  have move := step_move s event
  generalize s.step event = next at move after
  cases move with
  | main found msg rest queue =>
    rw [handled, queue, List.head?_cons] at handles
    obtain ⟨mode, rfl⟩ : ∃ mode, msg = .workModeSwitch mode := by
      cases msg with
      | workModeSwitch mode => exact ⟨mode, rfl⟩
      | resetLteTimer | lpsleepEnter | lpsleepExit | lpsleepBatteryCheck | lpsleepClearHoldOff | shutdownRequest | other =>
        exact nomatch handles
    have ended := congrArg active (sleep_switch { s with mainMsgq := rest } mode)
    have kept := switch_scanKept { s with mainMsgq := rest } mode
    have off : scanAfter s.btUpdataMode s.bleMsgq s.scanMode = 0 := by
      rw [restored_iff, asleep] at restored
      exact restored
    have on := (restored_iff _).mp after
    rw [show (System.handleMain { s with mainMsgq := rest } found (.workModeSwitch mode)) =
      System.switchWorkModeInternal { s with mainMsgq := rest } mode from rfl, kept.scanMode, kept.btUpdataMode, kept.bleMsgq,
      show (System.switchWorkModeInternal { s with mainMsgq := rest } mode).lprunningActive = false from ended] at on
    exact on.symm.trans off
  | ble msg rest queue => exact nomatch handles
  | arrives msg plain none | aside aside none =>
    rw [none] at handles
    exact nomatch handles

end

theorem scanning_restored_iff (boot : Boot) (events : List Event) (fits : Along step Fits (start boot) events) :
    Always step Restored (start boot) events ↔ Along step SwitchesAwake (start boot) events :=
  always_iff_along_of Restored (fun _ restored => restored)
    (fun s event restored fits awake => restored.move (step_move s event) fits awake)
    (fun _ _ restored _ after => restored.switchesAwake after) rfl fits

def sampleBoot : Boot where
  workmode := gDefaultWorkModeConfig.workmodeConfig
  lprunning := { lprunningSw := 0, lprunningThreshold := 20, lprunningInterval := 24 }
  btUpdataMode := 1
  sensorReady := true

/-- `LPSLEEP,ON#` and an empty battery. -/
def fallAsleep : List Event :=
  [.main false, .lpsleep [['O', 'N']], .ble, .main false, .battery false 3000, .main false, .ble]

def recharge : List Event := [.battery true 4200, .main false, .battery true 4200, .main false, .ble]

theorem recharge_restores : Always step Restored (start sampleBoot) (fallAsleep ++ recharge) :=
  (scanning_restored_iff sampleBoot (fallAsleep ++ recharge) (by decide +kernel)).mpr (by decide +kernel)

theorem manual_switch_leaves_scan_off :
    ∃ events, Along step Fits (start sampleBoot) events ∧ ¬ Always step Restored (start sampleBoot) events ∧
      (events.foldl step (start sampleBoot)).lprunningActive = false ∧
      (events.foldl step (start sampleBoot)).drainBle.scanMode = 0 := by
  refine ⟨fallAsleep ++ [.modeset [['0']], .ble, .main false], by decide +kernel, ?_, by decide +kernel, by decide +kernel⟩
  intro always
  exact absurd (always 10) (by decide +kernel)

end System

end LL320D.LowPower
