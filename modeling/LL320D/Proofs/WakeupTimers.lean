import LL320D.Proofs.SleepHistory

/-! The two timers that wake the 4G module. `MY_TIMER_LPSLEEP` runs exactly during the sleep. -/

namespace LL320D.LowPower
open WorkMode Library List Sleep LowPower.System

variable {asks : Bool} {rest : List MainMsg} {msg : MainMsg} {mode : Mode}

def staysOnline (mode : Mode) : Bool := mode = .continuous || mode = .alwaysOnline

namespace System

variable {s next : System}

def ModePending (s : System) : Prop :=
  staysOnline s.workmode.currentMode = false ∨ .workModeSwitch s.workmode.currentMode ∈ s.mainMsgq

instance (s : System) : Decidable s.ModePending := inferInstanceAs (Decidable (_ ∨ _))

/-- The states in which `MY_TIMER_LTE_POWER` may run. -/
def MayWake (s : System) : Prop := s.lprunningActive = false ∧ staysOnline s.lastWorkMode = false ∧ s.ModePending

instance (s : System) : Decidable s.MayWake := inferInstanceAs (Decidable (_ ∧ _ ∧ _))

/-- `RESET_LTE_TIMER` with a time found, a change of the motion status, or a `MODESET` with parameters of the smart mode
while that is the configured mode: these start `MY_TIMER_LTE_POWER` or apply the policy that may. -/
def startsTimer (s : System) : Event → Bool
  | .main found => found && s.mainMsgq.head? = some .resetLteTimer
  | .ble => s.workmode.currentMode = .smart && s.bleMsgq.head?.any fun msg =>
      match msg with
      | .modeset parm => .notify .smart ∈ modesetCmdHandler parm
      | _ => false
  | .gsensor _ moving => s.gsensorMsgq.head? = some .motionCheck && s.sensorReady && s.lastMoving ≠ moving
  | _ => false

/-- `MY_TIMER_LTE_POWER` is started only where it may run, and what the BLE thread sends finds room. -/
def StartsAwake (s : System) (event : Event) : Prop :=
  (s.startsTimer event → s.MayWake) ∧ (event = .ble → s.mainMsgq.length < msgqSize)

instance (s : System) (event : Event) : Decidable (s.StartsAwake event) :=
  inferInstanceAs (Decidable ((_ → _) ∧ (_ → _)))

structure Owned (s : System) : Prop where
  lpsleep : s.lpsleepTimer ≠ .stopped ↔ s.lprunningActive = true
  lte : s.lteTimer ≠ .stopped → s.MayWake

lemma start_owned (boot) : (start boot).Owned where
  lpsleep := ⟨fun armed => absurd rfl armed, nofun⟩
  lte armed := absurd rfl armed

lemma Owned.asleep (owned : s.Owned) (asleep : s.lprunningActive = true) : s.lteTimer = .stopped := by
  by_contra armed
  exact nomatch asleep.symm.trans (owned.lte armed).1

lemma Owned.awake (owned : s.Owned) (awake : s.lprunningActive = false) : s.lpsleepTimer = .stopped := by
  by_contra armed
  exact nomatch awake.symm.trans (owned.lpsleep.mp armed)

lemma ModePending.aside (pending : s.ModePending) (aside : Aside asks s next)
    (fits : asks → next.dropped = s.dropped) : next.ModePending := by
  obtain ⟨sent, queue, -⟩ := aside.main
  rcases aside.mode with same | ⟨may, asked⟩
  · unfold ModePending
    rw [same, queue]
    exact pending.imp_right (mem_append_left _)
  · exact .inr (asked (fits may))

lemma Owned.aside (owned : s.Owned) (aside : Aside asks s next) (fits : asks → next.dropped = s.dropped)
    (starts : next.lteTimer ≠ .stopped → next.lteTimer ≠ s.lteTimer → s.MayWake) : next.Owned := by
  have active : next.lprunningActive = s.lprunningActive := congrArg Sleep.active aside.sleep
  have last : next.lastWorkMode = s.lastWorkMode := congrArg Sleep.lastWorkMode aside.sleep
  constructor
  · rw [aside.lpsleepTimer, active]
    exact owned.lpsleep
  · intro armed
    have before : s.MayWake := by
      by_cases same : next.lteTimer = s.lteTimer
      · exact owned.lte (same ▸ armed)
      · exact starts armed same
    exact ⟨active.trans before.1, (congrArg staysOnline last).trans before.2.1, before.2.2.aside aside fits⟩

lemma Owned.take (owned : s.Owned) (queue : s.mainMsgq = msg :: rest)
    (other : ∀ mode, msg ≠ .workModeSwitch mode) : Owned { s with mainMsgq := rest } where
  lpsleep := owned.lpsleep
  lte armed := by
    obtain ⟨awake, last, pending⟩ := owned.lte armed
    refine ⟨awake, last, pending.imp_right fun asked => ?_⟩
    rw [queue] at asked
    exact (mem_cons.mp asked).resolve_left fun same => other _ same.symm

lemma lteTimer_postMain (s : System) (msg) : (s.postMain msg).lteTimer = s.lteTimer := by
  unfold postMain
  split
  all_goals rfl

lemma lteTimer_postGsensor (s : System) (msg) : (s.postGsensor msg).lteTimer = s.lteTimer := by
  unfold postGsensor
  split
  all_goals rfl

lemma lteTimer_handleMode (s : System) (mode) :
    (s.handleMode mode).lteTimer = if staysOnline mode then .stopped else s.lteTimer := by
  cases mode with
  | longLife => exact (lteTimer_postMain _ _).trans (lteTimer_postGsensor _ _)
  | smart | continuous | alwaysOnline => exact lteTimer_postGsensor _ _
  | max | shutdown => rfl

lemma timers_takeMode (lpsleep : s.lpsleepTimer = .stopped) (lte : s.lteTimer = .stopped) (mode) :
    (s.takeMode mode).lpsleepTimer = .stopped ∧ (s.takeMode mode).lteTimer = .stopped := by
  unfold takeMode
  split
  · exact ⟨lpsleep, lte⟩
  · split
    · exact ⟨lpsleep, lte⟩
    · refine ⟨(aside_handleMode _ mode).lpsleepTimer.trans lpsleep, ?_⟩
      rw [lteTimer_handleMode]
      split
      · rfl
      · exact lte

/-- The timer is as it was, or stopped. -/
def KeepsTimer (s next : System) : Prop := next.lteTimer = s.lteTimer ∨ next.lteTimer = .stopped

lemma keeps_takeMode (s : System) (mode) : s.KeepsTimer (s.takeMode mode) := by
  unfold takeMode
  split
  · exact .inl rfl
  · split
    · exact .inl rfl
    · unfold KeepsTimer
      rw [lteTimer_handleMode]
      split
      · exact .inr rfl
      · exact .inl rfl

lemma keeps_switch (s : System) (mode) : s.KeepsTimer (s.switchWorkModeInternal mode) := by
  have left : s.leaveSleep.lteTimer = s.lteTimer := by
    unfold leaveSleep
    split <;> rfl
  have taken := keeps_takeMode s.leaveSleep mode
  rw [KeepsTimer, left] at taken
  exact taken

lemma lteTimer_postBle (s : System) (msg) : (s.postBle msg).lteTimer = s.lteTimer := by
  unfold System.postBle
  split <;> rfl

lemma keeps_enter (s : System) : s.KeepsTimer s.handleLprunningEnter := by
  unfold handleLprunningEnter
  split
  · exact .inl rfl
  · exact .inr (lteTimer_postGsensor _ _)

lemma keeps_exit (s : System) : s.KeepsTimer s.handleLprunningExit := by
  unfold handleLprunningExit
  split
  · unfold KeepsTimer
    rw [lteTimer_postBle]
    exact keeps_switch _ _
  · exact .inl rfl

lemma keeps_main (s : System) (found : Bool) {msg : MainMsg} (other : found = true → msg ≠ .resetLteTimer) :
    s.KeepsTimer (s.handleMain found msg) := by
  cases msg with
  | workModeSwitch mode => exact keeps_switch s mode
  | resetLteTimer =>
    have none : ¬ found = true := fun is => other is rfl
    exact .inl (by simp only [handleMain, setResetLteTimer, if_neg none])
  | lpsleepEnter => exact keeps_enter s
  | lpsleepExit => exact keeps_exit s
  | lpsleepBatteryCheck =>
    simp only [handleMain, handleLprunningBatteryCheck]
    repeat' split
    any_goals exact .inl rfl
    · exact keeps_enter s
    · exact keeps_exit s
  | lpsleepClearHoldOff | other => exact .inl rfl
  | shutdownRequest => exact .inl (lteTimer_postMain _ _)

lemma dropped_policy (s : System) : s.smartModeApplyLtePolicy.dropped = s.dropped := by
  simp only [smartModeApplyLtePolicy]
  repeat' split
  all_goals rfl

lemma modeset_kept {program : List BleAction} (begins : Begins program) (s : System) :
    (s.KeepsTimer (runModeset program s) ∨ s.workmode.currentMode = .smart ∧ .notify .smart ∈ program) ∧
      (s.mainMsgq.length < msgqSize → (runModeset program s).dropped = s.dropped) := by
  cases begins with
  | refused => exact ⟨.inl (.inl rfl), fun _ => rfl⟩
  | switch mode on =>
    simp only [runModeset, postMain]
    split <;> split <;> exact ⟨.inl (.inl rfl), fun room => by simp_all⟩
  | params set mode =>
    simp only [paramProgram, runModeset]
    split
    · exact ⟨.inl (.inl rfl), fun _ => rfl⟩
    next config applied =>
      have same := ParamSet.apply_currentMode applied
      split
      next runs =>
        cases mode with
        | smart => exact ⟨.inr ⟨same.symm.trans runs, by simp⟩, fun _ => dropped_policy _⟩
        | longLife => exact ⟨.inl (.inl (lteTimer_postMain _ _)), fun room => by simp only [postMain, if_pos room]⟩
        | _ => exact ⟨.inl (.inl rfl), fun _ => rfl⟩
      · exact ⟨.inl (.inl rfl), fun _ => rfl⟩

lemma keeps_ble {msg : BleMsg} {rest : List BleMsg} (queue : s.bleMsgq = msg :: rest) (quiet : ¬ s.startsTimer .ble = true) :
    s.KeepsTimer ({ s with bleMsgq := rest }.handleBle msg) := by
  cases msg with
  | modeset parm =>
    refine (modeset_kept (modesetCmdHandler_begins parm) _).1.resolve_right fun starts => quiet ?_
    simp only [startsTimer, queue, head?_cons, Option.any_some, Bool.and_eq_true, decide_eq_true_eq]
    exact starts
  | lpsleep parm =>
    refine .inl ?_
    simp only [handleBle, lprunningCmdHandler]
    repeat' split
    all_goals first | rfl | exact lteTimer_postMain _ _
  | scanLpsleepEnter | scanLpsleepExit | other => exact .inl rfl

lemma keeps_gsensor {msg : GsensorMsg} {rest : List GsensorMsg} {done moving : Bool} (queue : s.gsensorMsgq = msg :: rest)
    (quiet : ¬ s.startsTimer (.gsensor done moving) = true) :
    s.KeepsTimer ({ s with gsensorMsgq := rest }.handleGsensor done moving msg) := by
  cases msg with
  | motionCheck =>
    simp only [handleGsensor, motionStateCheck]
    split
    next ready =>
      split
      next changed =>
        refine absurd ?_ quiet
        simp only [startsTimer, queue, head?_cons, Bool.and_eq_true, decide_eq_true_eq]
        exact ⟨⟨trivial, ready⟩, changed⟩
      · exact .inl rfl
    · exact .inl rfl
  | highPower | lowPower | other => exact .inl rfl

/-- No other event starts the timer. -/
lemma startsTimer_of {event : Event} (armed : (s.step event).lteTimer ≠ .stopped)
    (changed : (s.step event).lteTimer ≠ s.lteTimer) : s.startsTimer event = true := by
  by_contra quiet
  refine Or.elim (?_ : s.KeepsTimer (s.step event)) changed armed
  cases event with
  | main found =>
    cases queue : s.mainMsgq with
    | nil => exact .inl (by simp only [step, queue])
    | cons msg rest =>
      simp only [step, queue]
      refine keeps_main { s with mainMsgq := rest } found fun is reset => quiet ?_
      simp [startsTimer, queue, is, reset]
  | ble =>
    cases queue : s.bleMsgq with
    | nil => exact .inl (by simp only [step, queue])
    | cons msg rest =>
      simp only [step, queue]
      exact keeps_ble queue quiet
  | gsensor done moving =>
    cases queue : s.gsensorMsgq with
    | nil => exact .inl (by simp only [step, queue])
    | cons msg rest =>
      simp only [step, queue]
      exact keeps_gsensor queue quiet
  | modeset parm | lpsleep parm | otherBle => exact .inl (lteTimer_postBle _ _)
  | shutdownRequest | otherMain => exact .inl (lteTimer_postMain _ _)
  | otherGsensor => exact .inl (lteTimer_postGsensor _ _)
  | battery charging mv =>
    simp only [step]
    split
    · exact .inl (lteTimer_postMain _ _)
    · exact .inl rfl
  | motionTimer =>
    simp only [step]
    split
    · exact .inl (lteTimer_postGsensor _ _)
    · exact .inl rfl
  | lteTimer =>
    simp only [step]
    repeat' split
    any_goals exact .inl rfl
    any_goals exact .inr rfl
    · exact .inr (lteTimer_postMain _ _)
    · exact .inl (lteTimer_postMain _ _)
  | lpsleepTimer => exact .inl rfl

section

variable (owned : s.Owned)
include owned

lemma takeMode_owned (awake : s.lprunningActive = false)
    (queue : s.mainMsgq = .workModeSwitch mode :: rest) : ({ s with mainMsgq := rest }.takeMode mode).Owned := by
  -- the request that was taken asks for `mode`, so another mode that is pending is in the rest
  have later (armed : s.lteTimer ≠ .stopped) (offline : staysOnline mode = false) :
      staysOnline s.workmode.currentMode = false ∨ .workModeSwitch s.workmode.currentMode ∈ rest := by
    rcases (owned.lte armed).2.2 with idle | asked
    · exact .inl idle
    · rw [queue] at asked
      rcases mem_cons.mp asked with same | further
      · cases same
        exact .inl offline
      · exact .inr further
  unfold takeMode
  split
  next same =>
    have same : s.lastWorkMode = mode := same
    refine ⟨owned.lpsleep, fun armed => ?_⟩
    obtain ⟨_, last, _⟩ := owned.lte armed
    exact ⟨awake, last, later armed (same ▸ last)⟩
  · split
    next off =>
      refine ⟨owned.lpsleep, fun armed => ⟨awake, ?_, ?_⟩⟩
      · rw [off]
        rfl
      · exact later armed (by rw [off]; rfl)
    · have aside := aside_handleMode
        ({ s with mainMsgq := rest, lastWorkMode := mode, workmode.currentMode := mode } : System) mode
      refine ⟨?_, ?_⟩
      · rw [aside.lpsleepTimer, show System.lprunningActive _ = _ from congrArg Sleep.active aside.sleep]
        exact owned.lpsleep
      · intro armed
        rw [lteTimer_handleMode] at armed
        have offline : staysOnline mode = false := by
          apply eq_false_of_ne_true
          intro online
          rw [if_pos online] at armed
          exact armed rfl
        refine ⟨(congrArg Sleep.active aside.sleep).trans awake, ?_, .inl ?_⟩
        · rw [show System.lastWorkMode _ = mode from congrArg Sleep.lastWorkMode aside.sleep]
          exact offline
        · rw [aside.mode.resolve_right fun asks => nomatch asks.1]
          exact offline

lemma Owned.leaveSleep :
    s.leaveSleep.Owned ∧ s.leaveSleep.lprunningActive = false ∧ s.leaveSleep.mainMsgq = s.mainMsgq := by
  refine ⟨?_, congrArg Sleep.active (sleep_leaveSleep s), ?_⟩
  · unfold System.leaveSleep
    split
    next asleep => exact ⟨⟨fun armed => absurd rfl armed, nofun⟩, fun armed => absurd (owned.asleep asleep) armed⟩
    · exact owned
  · unfold System.leaveSleep
    split
    all_goals rfl

lemma Owned.switch (queue : s.mainMsgq = .workModeSwitch mode :: rest) :
    ({ s with mainMsgq := rest }.switchWorkModeInternal mode).Owned := by
  obtain ⟨left, awake, same⟩ := owned.leaveSleep
  have commutes : ({ s with mainMsgq := rest } : System).leaveSleep = { s.leaveSleep with mainMsgq := rest } := by
    unfold System.leaveSleep
    split
    all_goals rfl
  unfold switchWorkModeInternal
  rw [commutes]
  exact takeMode_owned left awake (same.trans queue)

lemma Owned.postBle (msg) : (s.postBle msg).Owned := by
  unfold System.postBle
  split
  all_goals exact ⟨owned.lpsleep, owned.lte⟩

lemma Owned.enter : s.handleLprunningEnter.Owned := by
  by_cases asleep : s.lprunningActive = true
  · have same : s.handleLprunningEnter = s := if_pos asleep
    rw [same]
    exact owned
  · have active : s.handleLprunningEnter.lprunningActive = true :=
      congrArg active (sleep_enter (eq_false_of_ne_true asleep))
    have timers : s.handleLprunningEnter.lpsleepTimer = .periodic ∧ s.handleLprunningEnter.lteTimer = .stopped := by
      unfold handleLprunningEnter
      rw [if_neg asleep]
      exact ⟨rfl, lteTimer_postGsensor _ _⟩
    refine ⟨iff_of_true ?_ active, fun armed => absurd timers.2 armed⟩
    rw [timers.1]
    exact nofun

lemma Owned.exit : s.handleLprunningExit.Owned := by
  by_cases asleep : s.lprunningActive = true
  · have stopped := owned.asleep asleep
    unfold handleLprunningExit
    rw [if_pos asleep]
    generalize left : ({ s with lpsleepTimer := .stopped, lprunningActive := false, lastWorkMode := .max } : System) = awake
    have still : awake.leaveSleep = awake := by rw [← left]; rfl
    have timers : awake.lpsleepTimer = .stopped ∧ awake.lteTimer = .stopped := by
      rw [← left]
      exact ⟨rfl, stopped⟩
    have ended : (awake.switchWorkModeInternal s.lprunningSavedMode).lprunningActive = false :=
      congrArg active (sleep_switch awake _)
    apply Owned.postBle
    unfold switchWorkModeInternal at ended ⊢
    rw [still] at ended ⊢
    obtain ⟨lpsleep, lte⟩ := timers_takeMode timers.1 timers.2 s.lprunningSavedMode
    exact ⟨iff_of_false (absurd lpsleep) (by rw [ended]; exact nofun), fun armed => absurd lte armed⟩
  · have same : s.handleLprunningExit = s := if_neg asleep
    rw [same]
    exact owned

lemma Owned.check : s.handleLprunningBatteryCheck.Owned := by
  unfold handleLprunningBatteryCheck
  split
  · exact owned
  · split
    · split
      · exact owned.enter
      · exact owned
    · split
      · exact ⟨owned.lpsleep, owned.lte⟩
      · split
        · exact owned.exit
        · exact owned

lemma Owned.main {found : Bool} (queue : s.mainMsgq = msg :: rest)
    (starts : ({ s with mainMsgq := rest }.handleMain found msg).lteTimer ≠ .stopped →
      ({ s with mainMsgq := rest }.handleMain found msg).lteTimer ≠ s.lteTimer → s.MayWake) :
    ({ s with mainMsgq := rest }.handleMain found msg).Owned := by
  by_cases switches : ∃ mode, msg = .workModeSwitch mode
  · obtain ⟨mode, rfl⟩ := switches
    exact owned.switch queue
  · have other (mode : Mode) : msg ≠ .workModeSwitch mode := fun same => switches ⟨mode, same⟩
    have taken := owned.take queue other
    have may (wakes : s.MayWake) : MayWake { s with mainMsgq := rest } := by
      refine ⟨wakes.1, wakes.2.1, wakes.2.2.imp_right fun asked => ?_⟩
      rw [queue] at asked
      exact (mem_cons.mp asked).resolve_left fun same => other _ same.symm
    cases msg with
    | workModeSwitch mode => exact absurd rfl (other mode)
    | resetLteTimer =>
      exact taken.aside (aside_setResetLteTimer _ found) nofun fun armed changed => may (starts armed changed)
    | lpsleepEnter => exact taken.enter
    | lpsleepExit => exact taken.exit
    | lpsleepBatteryCheck => exact taken.check
    | lpsleepClearHoldOff => exact ⟨taken.lpsleep, taken.lte⟩
    | shutdownRequest =>
      have aside : Aside false { s with mainMsgq := rest } (postMain { s with mainMsgq := rest } (.workModeSwitch .shutdown)) :=
        aside_postMain _ nofun
      exact taken.aside aside nofun fun armed changed => may (starts armed changed)
    | other => exact taken

end

lemma Owned.ble (owned : s.Owned) {msg : BleMsg} {rest : List BleMsg}
    (room : s.mainMsgq.length < msgqSize)
    (starts : ({ s with bleMsgq := rest }.handleBle msg).lteTimer ≠ .stopped →
      ({ s with bleMsgq := rest }.handleBle msg).lteTimer ≠ s.lteTimer → s.MayWake) :
    ({ s with bleMsgq := rest }.handleBle msg).Owned := by
  have taken : Owned { s with bleMsgq := rest } := ⟨owned.lpsleep, owned.lte⟩
  cases msg with
  | modeset parm =>
    exact taken.aside (aside_modeset _ parm) (fun _ => (modeset_kept (modesetCmdHandler_begins parm) _).2 room) starts
  | lpsleep parm => exact taken.aside (aside_lprunningCmdHandler _ parm) nofun starts
  | scanLpsleepEnter | scanLpsleepExit | other => exact ⟨owned.lpsleep, owned.lte⟩

lemma Owned.move (owned : s.Owned) {event : Event} (move : Move s event next)
    (starts : next.lteTimer ≠ .stopped → next.lteTimer ≠ s.lteTimer → s.MayWake)
    (room : event = .ble → s.mainMsgq.length < msgqSize) : next.Owned := by
  cases move with
  | main found msg rest queue => exact owned.main queue starts
  | ble msg rest queue => exact owned.ble (room rfl) starts
  | arrives msg plain => exact owned.postBle msg
  | aside aside => exact owned.aside aside nofun starts

def Quiet (s : System) : Prop := s.mainMsgq = [] ∧ s.bleMsgq = [] ∧ s.gsensorMsgq = []

instance (s : System) : Decidable s.Quiet := inferInstanceAs (Decidable (_ ∧ _ ∧ _))

/-- `MY_TIMER_LPSLEEP` runs during the sleep and only then, `MY_TIMER_LTE_POWER` neither in the sleep nor in a mode that
stays online. -/
def TimersOwned (s : System) : Prop := (s.lprunningActive = true → s.lpsleepTimer ≠ .stopped ∧ s.lteTimer = .stopped) ∧
  (s.lprunningActive = false → s.lpsleepTimer = .stopped) ∧
  (staysOnline s.workmode.currentMode ∨ staysOnline s.lastWorkMode → s.lteTimer = .stopped)

instance (s : System) : Decidable s.TimersOwned := inferInstanceAs (Decidable ((_ → _ ∧ _) ∧ (_ → _) ∧ (_ → _)))

lemma Owned.timersOwned (owned : s.Owned) (quiet : s.Quiet) : s.TimersOwned := by
  refine ⟨fun asleep => ⟨owned.lpsleep.mpr asleep, owned.asleep asleep⟩, owned.awake, fun online => ?_⟩
  by_contra armed
  obtain ⟨-, last, pending⟩ := owned.lte armed
  rcases online with current | running
  · rcases pending with idle | asked
    · exact nomatch idle.symm.trans current
    · rw [quiet.1] at asked
      exact nomatch asked
  · exact nomatch last.symm.trans running

theorem timers_owned_when_quiet (boot : Boot) (events : List Event) (awake : Along step StartsAwake (start boot) events) :
    Always step (fun s => s.Quiet → s.TimersOwned) (start boot) events := by
  have owned : Always step Owned (start boot) events :=
    awake.always Owned (fun s event owned guard => owned.move (step_move s event)
      (fun armed changed => guard.1 (startsTimer_of armed changed)) guard.2) (start_owned boot)
  intro n
  exact (owned n).timersOwned

/-- A device whose 4G module is woken by `MY_TIMER_LTE_POWER` in smart mode. -/
def wokenBoot (mode : Mode) : Boot :=
  { sampleBoot with workmode.currentMode := mode, workmode.intelligent.subMode := 0 }

theorem moving_device_owns_timers : Always step (fun s => s.Quiet → s.TimersOwned) (start (wokenBoot .smart))
      ([.main false, .gsensor true false, .motionTimer, .gsensor true true] ++ fallAsleep ++ recharge ++
        [.modeset [['2']], .ble, .main false]) :=
  timers_owned_when_quiet (wokenBoot .smart) _ (by decide +kernel)

theorem motion_arms_timer_online :
    ∃ events, ¬ Always step (fun s => s.Quiet → s.TimersOwned) (start (wokenBoot .continuous)) events := by
  refine ⟨[.main false, .gsensor true false, .motionTimer, .gsensor true true], fun always => ?_⟩
  exact absurd (always 4) (by decide +kernel)

end System

end LL320D.LowPower
