import LL320D.WorkMode

/-! Running mode, mode in RAM and mode in ZMS after the queue of the main thread is drained. -/

namespace LL320D.WorkMode
open Library List WorkMode.System

variable {params : List (List Char)} {todo : List BleAction} {queue : List Mode} {mode running : Mode} {s : System}

namespace System

/-- The mode in which the main thread ends up. -/
def eventual (s : System) : Mode := s.mainMsgq.getLast?.getD s.lastWorkMode

def pending (s : System) : List Mode := s.mainMsgq ++ s.bleTodo.filterMap fun
    | .switchWorkMode mode => some mode
    | _ => none

def settledMode (s : System) : Mode :=
  match s.mainTodo with
  | .setCurrentMode mode :: _ => mode
  | _ => s.currentMode

def Settles (s : System) : Prop := s.settledMode = s.lastWorkMode ∨ ∃ mode ∈ s.pending, mode ≠ s.lastWorkMode

lemma Settles.congr {next : System} (settles : s.Settles) (settled : next.settledMode = s.settledMode)
    (last : next.lastWorkMode = s.lastWorkMode) (pending : next.pending = s.pending) : next.Settles := by
  simpa only [Settles, settled, last, pending] using settles

end System

/-- What `MODESET` can have left to do. -/
inductive Program : List BleAction → Prop where
  | idle : Program []
  | compare (mode : Mode) (on : mode ≠ .shutdown) : Program [.compareMode mode, .switchWorkMode mode, .reply (.setOk mode)]
  | write (mode : Mode) (on : mode ≠ .shutdown) : Program [.setCurrentMode mode, .save, .switchWorkMode mode, .reply (.setOk mode)]
  | store (mode : Mode) (on : mode ≠ .shutdown) : Program [.save, .switchWorkMode mode, .reply (.setOk mode)]
  | post (mode : Mode) (on : mode ≠ .shutdown) : Program [.switchWorkMode mode, .reply (.setOk mode)]
  | params (set : ParamSet) (mode : Mode) : Program [.setParams set, .save, .notify mode, .reply (.setOk mode)]
  | storeParams (mode : Mode) : Program [.save, .notify mode, .reply (.setOk mode)]
  | notify (mode : Mode) : Program [.notify mode, .reply (.setOk mode)]
  | reply (reply : Reply) : Program [.reply reply]

inductive Begins : List BleAction → Prop where
  | refused : Begins [.reply .setFail]
  | switch (mode : Mode) (on : mode ≠ .shutdown) : Begins [.compareMode mode, .switchWorkMode mode, .reply (.setOk mode)]
  | params (set : ParamSet) (mode : Mode) : Begins (paramProgram set mode)

lemma Begins.program (begins : Begins todo) : Program todo := by
  cases begins with
  | refused => exact .reply .setFail
  | switch mode on => exact .compare mode on
  | params set mode => exact .params set mode

lemma begins_getD {program : Option (List BleAction)} (params : ∀ todo, program = some todo → Begins todo) :
    Begins (program.getD [.reply .setFail]) := by
  cases program with
  | none => exact .refused
  | some todo => exact params todo rfl

lemma modesetContinuous_begins (run : modesetContinuous params = some todo) : Begins todo := by
  unfold modesetContinuous at run
  split at run
  · simp only [Option.bind_eq_bind, Option.bind_eq_some_iff] at run
    obtain ⟨sec, -, dis, -, checks⟩ := run
    split at checks
    · cases checks
    · split at checks
      · cases checks
      · cases checks
        exact .params _ _
  · cases run

lemma modesetLongLife_begins (run : modesetLongLife params = some todo) : Begins todo := by
  unfold modesetLongLife at run
  split at run
  · simp only [Option.bind_eq_bind, Option.bind_eq_some_iff] at run
    obtain ⟨interval, -, gnssSw, -, checks⟩ := run
    cases checks
    exact .params _ _
  · cases run

lemma modesetSmart_begins (run : modesetSmart params = some todo) : Begins todo := by
  unfold modesetSmart at run
  split at run
  · simp only [Option.bind_eq_bind, Option.bind_eq_some_iff] at run
    obtain ⟨sub, -, staticInt, -, movingInt, -, checks⟩ := run
    cases checks
    exact .params _ _
  · simp only [Option.bind_eq_bind, Option.bind_eq_some_iff] at run
    obtain ⟨sub, -, checks⟩ := run
    split at checks
    · cases checks
    · cases checks
      exact .params _ _
  · cases run

lemma ofValue_on {value : Nat} (valid : Mode.ofValue value = some mode) : mode ≠ .shutdown := by
  unfold Mode.ofValue at valid
  split at valid
  all_goals cases valid
  all_goals exact nofun

lemma modesetCmdHandler_begins (parm) : Begins (modesetCmdHandler parm) := by
  unfold modesetCmdHandler
  split
  · exact .refused
  next modeStr params =>
    cases parsed : (numeric modeStr).bind Mode.ofValue with
    | none => exact .refused
    | some mode =>
      obtain ⟨value, -, valid⟩ := Option.bind_eq_some_iff.mp parsed
      by_cases alone : params = []
      · simp only [alone, ite_true]
        exact .switch mode (ofValue_on valid)
      · simp only [alone, ite_false]
        apply begins_getD
        intro todo run
        cases mode with
        | continuous => exact modesetContinuous_begins run
        | longLife => exact modesetLongLife_begins run
        | smart => exact modesetSmart_begins run
        | alwaysOnline | max | shutdown => cases run

lemma ParamSet.apply_currentMode {set : ParamSet} {workmode result : DeviceConfig}
    (applied : set.apply workmode = some result) : result.currentMode = workmode.currentMode := by
  cases set with
  | continuousTracking | selectSubMode => cases applied; rfl
  | longBattery reportingInterval startTime gnssSw =>
    simp only [ParamSet.apply, setLongBatteryParams] at applied
    repeat (split at applied; · cases applied)
    cases applied
    rfl
  | intelligent subMode staticInt movingInt =>
    simp only [ParamSet.apply, setIntelligentParams] at applied
    repeat (split at applied; · cases applied)
    cases applied
    rfl

def Switches (running : Mode) : List Mode → Prop
  | [] => True
  | first :: rest => (first = .shutdown → running = .shutdown) ∧ .shutdown ∉ rest

lemma Switches.append (switches : Switches running queue)
    (on : mode ≠ .shutdown) : Switches running (queue ++ [mode]) := by
  cases queue with
  | nil => exact ⟨fun off => absurd off on, not_mem_nil⟩
  | cons first rest =>
    refine ⟨switches.1, ?_⟩
    intro member
    rcases mem_append.mp member with member | member
    · exact switches.2 member
    · exact on (mem_singleton.mp member).symm

lemma Switches.tail {other first : Mode} (switches : Switches running (first :: queue)) : Switches other queue := by
  cases queue with
  | nil => trivial
  | cons next rest =>
    refine ⟨?_, fun member => switches.2 (mem_cons_of_mem _ member)⟩
    rintro rfl
    exact absurd mem_cons_self switches.2

structure Settling (s : System) : Prop where
  awake : s.lprunningActive = false
  program : Program s.bleTodo
  switches : Switches s.lastWorkMode s.mainMsgq
  main : s.mainTodo = [] ∨ s.mainTodo = [.setCurrentMode s.lastWorkMode, .announce s.lastWorkMode] ∨
    ∃ mode, s.mainTodo = [.announce mode]
  settles : s.Settles

lemma boot_settling (stored) : Settling (boot stored) where
  awake := rfl
  program := .idle
  switches := ⟨fun _ => rfl, not_mem_nil⟩
  main := Or.inl rfl
  settles := by
    by_cases same : (loadConfig stored).workmodeConfig.currentMode = .shutdown
    · exact Or.inl same
    · exact Or.inr ⟨_, mem_singleton.mpr rfl, same⟩

namespace System

lemma switchWorkModeInternal_same (s : System) (awake : s.lprunningActive = false)
    (same : s.lastWorkMode = mode) : s.switchWorkModeInternal mode = s := by
  simp only [switchWorkModeInternal, awake, same, Bool.false_eq_true, ite_false, ite_true]

lemma switchWorkModeInternal_other (s : System) (awake : s.lprunningActive = false)
    (other : s.lastWorkMode ≠ mode) (on : mode ≠ .shutdown) :
    s.switchWorkModeInternal mode = { s.emit [.lteBootReasonInterval] with
      lastWorkMode := mode, mainTodo := [.setCurrentMode mode, .announce mode] } := by
  simp only [switchWorkModeInternal, awake, other, on, Bool.false_eq_true, ite_false]

end System

inductive MainMove (s : System) : System → Prop where
  | rest (empty : s.mainMsgq = []) : MainMove s s
  | skip (queue : List Mode) (first : s.mainMsgq = s.lastWorkMode :: queue) : MainMove s { s with mainMsgq := queue }
  | request (mode : Mode) (queue : List Mode) (first : s.mainMsgq = mode :: queue) (other : mode ≠ s.lastWorkMode) :
      MainMove s { s.emit [.lteBootReasonInterval] with
        mainMsgq := queue, lastWorkMode := mode, mainTodo := [.setCurrentMode mode, .announce mode] }
  | write (todo : s.mainTodo = [.setCurrentMode s.lastWorkMode, .announce s.lastWorkMode]) :
      MainMove s { s.setCurrentMode s.lastWorkMode with mainTodo := [.announce s.lastWorkMode] }
  | announce (mode : Mode) (calls : List Effect) (todo : s.mainTodo = [.announce mode]) :
      MainMove s { s.emit calls with mainTodo := [] }

lemma main_move (settling : Settling s) : MainMove s (s.step .main) := by
  rcases settling.main with idle | busy | ⟨mode, busy⟩
  · cases queued : s.mainMsgq with
    | nil =>
      simp only [step, idle, queued]
      exact .rest queued
    | cons mode queue =>
      have switches := settling.switches
      rw [queued] at switches
      let next : System := { s with mainMsgq := queue }
      have taken : s.step .main = next.switchWorkModeInternal mode := by simp only [step, idle, queued, next]
      rw [taken]
      by_cases same : s.lastWorkMode = mode
      · rw [next.switchWorkModeInternal_same settling.awake same]
        exact .skip queue (same ▸ queued)
      · have on : mode ≠ .shutdown := fun off => same ((switches.1 off).trans off.symm)
        rw [next.switchWorkModeInternal_other settling.awake same on]
        exact .request mode queue queued (Ne.symm same)
  · simp only [step, busy, mainAction]
    exact .write busy
  · simp only [step, busy, mainAction]
    exact .announce mode _ busy

lemma settling_main (settling : Settling s) : Settling (s.step .main) := by
  have move := main_move settling
  generalize s.step .main = next at move
  have switches := settling.switches
  cases move with
  | rest => exact settling
  | skip queue first =>
    rw [first] at switches
    refine ⟨settling.awake, settling.program, switches.tail, settling.main, ?_⟩
    -- the message that is dropped asks for the mode that runs, so it was not the one to wait for
    rcases settling.settles with settled | ⟨other, member, differs⟩
    · exact Or.inl settled
    · refine Or.inr ⟨other, ?_, differs⟩
      simp only [pending, first, cons_append, mem_cons] at member
      rcases member with same | member
      · exact absurd same differs
      · exact member
  | request mode queue first =>
    rw [first] at switches
    exact ⟨settling.awake, settling.program, switches.tail, Or.inr (Or.inl rfl), Or.inl rfl⟩
  | write => exact ⟨settling.awake, settling.program, switches, Or.inr (Or.inr ⟨_, rfl⟩), Or.inl rfl⟩
  | announce mode calls todo =>
    refine ⟨settling.awake, settling.program, switches, Or.inl rfl, ?_⟩
    rcases settling.settles with settled | waits
    · simp only [settledMode, todo] at settled
      exact Or.inl settled
    · exact Or.inr waits

inductive BleMove (s : System) : System → Prop where
  | rest (todo : s.bleTodo = []) : BleMove s s
  | differs (mode : Mode) (on : mode ≠ .shutdown)
      (todo : s.bleTodo = [.compareMode mode, .switchWorkMode mode, .reply (.setOk mode)])
      (other : s.lastWorkMode ≠ mode) :
      BleMove s { s with bleTodo := [.setCurrentMode mode, .save, .switchWorkMode mode, .reply (.setOk mode)] }
  | matched (mode : Mode) (on : mode ≠ .shutdown)
      (todo : s.bleTodo = [.compareMode mode, .switchWorkMode mode, .reply (.setOk mode)])
      (same : s.lastWorkMode = mode) : BleMove s { s with bleTodo := [.switchWorkMode mode, .reply (.setOk mode)] }
  | write (mode : Mode) (on : mode ≠ .shutdown)
      (todo : s.bleTodo = [.setCurrentMode mode, .save, .switchWorkMode mode, .reply (.setOk mode)]) :
      BleMove s { s.setCurrentMode mode with
        config.flag := flagValid, bleTodo := [.save, .switchWorkMode mode, .reply (.setOk mode)] }
  | store (mode : Mode) (on : mode ≠ .shutdown)
      (todo : s.bleTodo = [.save, .switchWorkMode mode, .reply (.setOk mode)]) :
      BleMove s { s with zms := some s.config, bleTodo := [.switchWorkMode mode, .reply (.setOk mode)] }
  | post (mode : Mode) (on : mode ≠ .shutdown) (todo : s.bleTodo = [.switchWorkMode mode, .reply (.setOk mode)]) :
      BleMove s { s with mainMsgq := s.mainMsgq ++ [mode], bleTodo := [.reply (.setOk mode)] }
  | refuse (set : ParamSet) (mode : Mode) (todo : s.bleTodo = paramProgram set mode) :
      BleMove s { s with bleTodo := [.reply .setFail] }
  | params (set : ParamSet) (mode : Mode) (workmodeConfig : DeviceConfig) (todo : s.bleTodo = paramProgram set mode)
      (kept : workmodeConfig.currentMode = s.currentMode) :
      BleMove s { s with
        config := { flag := flagValid, workmodeConfig }, bleTodo := [.save, .notify mode, .reply (.setOk mode)] }
  | storeParams (mode : Mode) (todo : s.bleTodo = [.save, .notify mode, .reply (.setOk mode)]) :
      BleMove s { s with zms := some s.config, bleTodo := [.notify mode, .reply (.setOk mode)] }
  | notify (mode : Mode) (calls : List Effect) (todo : s.bleTodo = [.notify mode, .reply (.setOk mode)]) :
      BleMove s { s.emit calls with bleTodo := [.reply (.setOk mode)] }
  | reply (reply : Reply) (todo : s.bleTodo = [.reply reply]) :
      BleMove s { s with replies := s.replies ++ [reply], bleTodo := [] }

lemma ble_move (settling : Settling s) : BleMove s (s.step .ble) := by
  have program := settling.program
  generalize todo : s.bleTodo = actions at program
  have taken : ∀ action rest, s.bleTodo = action :: rest → s.step .ble = s.bleAction rest action := by
    intro action rest first
    simp only [step, first]
  cases program with
  | idle =>
    simp only [step, todo]
    exact .rest todo
  | compare mode on =>
    rw [taken _ _ todo]
    simp only [bleAction]
    split
    next other => exact .differs mode on todo other
    next same => exact .matched mode on todo (not_not.mp same)
  | write mode on => exact taken _ _ todo ▸ .write mode on todo
  | store mode on => exact taken _ _ todo ▸ .store mode on todo
  | post mode on => exact taken _ _ todo ▸ .post mode on todo
  | params set mode =>
    rw [taken _ _ todo]
    simp only [bleAction]
    cases applied : set.apply s.config.workmodeConfig with
    | none => exact .refuse set mode todo
    | some workmodeConfig => exact .params set mode workmodeConfig todo (ParamSet.apply_currentMode applied)
  | storeParams mode => exact taken _ _ todo ▸ .storeParams mode todo
  | notify mode => exact taken _ _ todo ▸ .notify mode _ todo
  | reply reply => exact taken _ _ todo ▸ .reply reply todo

lemma settling_ble (settling : Settling s) : Settling (s.step .ble) := by
  have move := ble_move settling
  generalize s.step .ble = next at move
  obtain ⟨awake, program, switches, main, settles⟩ := settling
  cases move with
  | rest todo => exact ⟨awake, program, switches, main, settles⟩
  | differs mode on todo other =>
    exact ⟨awake, .write mode on, switches, main, settles.congr rfl rfl (by simp [pending, todo])⟩
  | matched mode on todo same =>
    exact ⟨awake, .post mode on, switches, main, settles.congr rfl rfl (by simp [pending, todo])⟩
  | write mode on todo =>
    refine ⟨awake, .store mode on, switches, main, ?_⟩
    by_cases runs : mode = s.lastWorkMode
    · rcases main with idle | busy | ⟨other, busy⟩
      · exact Or.inl (by simp only [settledMode, setCurrentMode, currentMode, idle, runs])
      · exact Or.inl (by simp only [settledMode, setCurrentMode, busy])
      · exact Or.inl (by simp only [settledMode, setCurrentMode, currentMode, busy, runs])
    · exact Or.inr ⟨mode, by simp [pending], runs⟩
  | store mode on todo =>
    exact ⟨awake, .post mode on, switches, main, settles.congr rfl rfl (by simp [pending, todo])⟩
  | post mode on todo =>
    exact ⟨awake, .reply _, switches.append on, main, settles.congr rfl rfl (by simp [pending, todo])⟩
  | refuse set mode todo =>
    exact ⟨awake, .reply _, switches, main, settles.congr rfl rfl (by simp [pending, todo, paramProgram])⟩
  | params set mode workmodeConfig todo kept =>
    refine ⟨awake, .storeParams mode, switches, main, settles.congr ?_ rfl (by simp [pending, todo, paramProgram])⟩
    simp only [settledMode, currentMode, kept]
  | storeParams mode todo =>
    exact ⟨awake, .notify mode, switches, main, settles.congr rfl rfl (by simp [pending, todo])⟩
  | notify mode calls todo =>
    exact ⟨awake, .reply _, switches, main, settles.congr rfl rfl (by simp [pending, emit, todo])⟩
  | reply reply todo =>
    exact ⟨awake, .idle, switches, main, settles.congr rfl rfl (by simp [pending, todo])⟩

lemma step_settling (settling : Settling s) (event) : Settling (s.step event) := by
  cases event with
  | modeset parm =>
    simp only [step]
    split
    next idle =>
      refine ⟨settling.awake, (modesetCmdHandler_begins parm).program, settling.switches, settling.main, ?_⟩
      -- a new command can only add to what is pending
      rcases settling.settles with settled | ⟨mode, member, differs⟩
      · exact Or.inl settled
      · simp only [pending, idle, filterMap_nil, append_nil] at member
        exact Or.inr ⟨mode, mem_append_left _ member, differs⟩
    next => exact settling
  | ble => exact settling_ble settling
  | main => exact settling_main settling
  | lteReady ready => exact ⟨settling.awake, settling.program, settling.switches, settling.main, settling.settles⟩

lemma Settling.drained (settling : Settling s) (drained : s.Drained) : s.currentMode = s.lastWorkMode := by
  rcases settling.settles with settled | ⟨mode, member, -⟩
  · simpa only [settledMode, drained.main] using settled
  · simp [pending, drained.ble, drained.msgq] at member

def Holds (s : System) (mode : Mode) : Prop := s.eventual = mode ∧ s.storedMode = some mode

def Relies (s : System) : List BleAction → Prop
  | .setCurrentMode _ :: _ => True
  | .save :: _ => True
  | .switchWorkMode mode :: _ => s.storedMode = some mode
  | .notify mode :: _ => Holds s mode
  | .reply (.setOk mode) :: _ => Holds s mode
  | _ => ∀ mode, s.accepted = some mode → Holds s mode

def commandMode (todo : List BleAction) : Option Mode :=
  match todo.getLast? with
  | some (.reply reply) => reply.mode?
  | _ => none

/-- The next access of the BLE thread keeps ZMS right: a command stores its own mode, or finds it running and stored,
and parameters come for the mode that was asked for last. -/
def Stores (s : System) : List BleAction → Prop
  | .compareMode mode :: _ => s.lastWorkMode = mode → s.storedMode = some mode
  | .save :: rest => ∀ mode ∈ commandMode rest, s.currentMode = mode ∧ (.notify mode ∈ rest → s.eventual = mode)
  | _ => True

def StoresOwnMode (s : System) (event : Event) : Prop := event = .ble → Stores s s.bleTodo

instance (s : System) : (todo : List BleAction) → Decidable (Stores s todo)
  | .compareMode mode :: _ => inferInstanceAs (Decidable (s.lastWorkMode = mode → s.storedMode = some mode))
  | .save :: rest =>
    inferInstanceAs (Decidable (∀ mode ∈ commandMode rest, s.currentMode = mode ∧ (.notify mode ∈ rest → s.eventual = mode)))
  | [] | .setCurrentMode _ :: _ | .setParams _ :: _ | .switchWorkMode _ :: _ | .notify _ :: _ | .reply _ :: _ =>
    .isTrue trivial

instance (s : System) (event : Event) : Decidable (StoresOwnMode s event) :=
  inferInstanceAs (Decidable (event = .ble → Stores s s.bleTodo))

section

variable (settling : Settling s) (relies : Relies s s.bleTodo)
include settling relies

lemma relies_main :
    Relies (s.step .main) (s.step .main).bleTodo := by
  have move := main_move settling
  generalize s.step .main = next at move
  have same : next.eventual = s.eventual ∧ next.storedMode = s.storedMode ∧ next.accepted = s.accepted ∧
      next.bleTodo = s.bleTodo := by
    cases move with
    | rest | write | announce => exact ⟨rfl, rfl, rfl, rfl⟩
    | skip queue first | request mode queue first =>
      refine ⟨?_, rfl, rfl, rfl⟩
      cases queue with
      | nil => simp [eventual, first]
      | cons next queue => simp [eventual, first, List.getLast?_cons]
  obtain ⟨eventual, stored, accepted, todo⟩ := same
  simpa only [Relies, Holds, todo, eventual, stored, accepted] using relies

lemma relies_ble (guarded : Stores s s.bleTodo) : Relies (s.step .ble) (s.step .ble).bleTodo := by
  have move := ble_move settling
  generalize s.step .ble = next at move
  cases move with
  | rest todo => exact relies
  | differs | write | params => trivial
  | matched mode on todo same =>
    rw [todo] at guarded
    exact guarded same
  | store mode on todo =>
    rw [todo] at guarded
    exact congrArg some (guarded mode rfl).1
  | post mode on todo =>
    rw [todo] at relies
    exact ⟨by simp [System.eventual], relies⟩
  | refuse set mode todo =>
    rw [todo] at relies
    exact relies
  | storeParams mode todo =>
    rw [todo] at guarded
    obtain ⟨stored, eventual⟩ := guarded mode rfl
    exact ⟨eventual mem_cons_self, congrArg some stored⟩
  | notify mode calls todo =>
    rw [todo] at relies
    exact relies
  | reply reply todo =>
    rw [todo] at relies
    cases reply with
    | setOk mode =>
      intro other accepted
      have same : some mode = some other := by simpa [System.accepted, filterMap_append, Reply.mode?] using accepted
      cases same
      exact relies
    | setFail =>
      intro mode accepted
      exact relies mode (by simpa [System.accepted, filterMap_append, Reply.mode?] using accepted)

lemma step_relies {event : Event}
    (guarded : StoresOwnMode s event) : Relies (s.step event) (s.step event).bleTodo := by
  cases event with
  | modeset parm =>
    simp only [step]
    split
    next idle =>
      rw [idle] at relies
      have begins := modesetCmdHandler_begins parm
      generalize modesetCmdHandler parm = todo at begins
      cases begins with
      | refused | switch | params => exact relies
    next => exact relies
  | ble => exact relies_ble settling relies (guarded rfl)
  | main => exact relies_main settling relies
  | lteReady ready => exact relies

end

/-- After every run in which each command stores its own mode, or finds it stored, the three
places hold the mode of the last accepted command as soon as the main thread is done. -/
theorem drained_modes_agree (stored : Option Config) (events : List Event)
    (guarded : Along System.step StoresOwnMode (.boot stored) events)
    (drained : (events.foldl System.step (.boot stored)).Drained) (mode : Mode)
    (accepted : (events.foldl System.step (.boot stored)).accepted = some mode) :
    (events.foldl System.step (.boot stored)).lastWorkMode = mode ∧
      (events.foldl System.step (.boot stored)).currentMode = mode ∧
      (events.foldl System.step (.boot stored)).storedMode = some mode := by
  have kept : Settling (events.foldl System.step (.boot stored)) ∧
      Relies (events.foldl System.step (.boot stored)) (events.foldl System.step (.boot stored)).bleTodo := by
    refine guarded.invariant (fun s => Settling s ∧ Relies s s.bleTodo) ?_ ⟨boot_settling stored, nofun⟩
    intro s event ⟨settling, relies⟩ here
    exact ⟨step_settling settling event, step_relies settling relies here⟩
  generalize events.foldl System.step (.boot stored) = s at drained accepted kept
  obtain ⟨settling, relies⟩ := kept
  rw [drained.ble] at relies
  obtain ⟨eventual, inZms⟩ := relies mode accepted
  have runs : s.lastWorkMode = mode := by simpa [System.eventual, drained.msgq] using eventual
  exact ⟨runs, (settling.drained drained).trans runs, inZms⟩

/-- `MODESET,n#`, with the accesses of its handler and then those of the main thread. -/
def modesetHandled (mode : Char) : List Event := .modeset [[mode]] :: List.replicate 5 .ble

def mainHandled : List Event := List.replicate 3 .main

def drainedBetween : List Event := mainHandled ++ modesetHandled '0' ++ mainHandled ++ modesetHandled '2' ++ mainHandled

theorem two_commands_agree : (drainedBetween.foldl System.step (.boot none)).lastWorkMode = .smart ∧
    (drainedBetween.foldl System.step (.boot none)).currentMode = .smart ∧
    (drainedBetween.foldl System.step (.boot none)).storedMode = some .smart :=
  drained_modes_agree none drainedBetween (by decide +kernel) (by decide +kernel) .smart (by decide +kernel)

def handledAtOnce : List Event := mainHandled ++ modesetHandled '0' ++ modesetHandled '2' ++ mainHandled ++ mainHandled

theorem second_command_not_stored : (handledAtOnce.foldl System.step (.boot none)).Drained ∧
    (handledAtOnce.foldl System.step (.boot none)).accepted = some .smart ∧
    (handledAtOnce.foldl System.step (.boot none)).lastWorkMode = .smart ∧
    (handledAtOnce.foldl System.step (.boot none)).currentMode = .smart ∧
    (handledAtOnce.foldl System.step (.boot none)).storedMode = some .continuous := by
  decide +kernel

end LL320D.WorkMode
