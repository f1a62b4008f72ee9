import LL320D.WorkMode

/-! Low-battery sleep: `LPSLEEP` and battery checks of `main.c`, the mode switches and the smart mode's policy that they
meet, and the timers that wake the 4G module. -/

namespace LL320D.LowPower
open WorkMode

/-- The variables of the loop in `my_battery_read_mv`, in which nothing leaves 32 bits for samples up to 10000. -/
structure Samples where
  maxMv : Int
  minMv : Int
  sumMv : Int

def Samples.add (mv : Int) (s : Samples) (readMv : Int) : Samples where
  maxMv := if s.maxMv < mv then readMv else s.maxMv
  minMv := if mv < s.minMv then readMv else s.minMv
  sumMv := s.sumMv + readMv

def battAdcSampleNum : Int := 3

def calcActualMv (avgMv : Int) : Int := (avgMv * (2000 + 680)).tdiv 680

def sampleLoop (mv : Int) (reads : List (Except Int Int)) : Except Int Samples :=
  reads.foldlM (fun s read => s.add mv <$> read) ⟨0, 10000, 0⟩

/-- The return value, and the new content of `*mv`; `reads` are the results of `batt_read_mv`. -/
def myBatteryReadMv (mv : Int) (reads : List (Except Int Int)) : Int × Int :=
  match sampleLoop mv reads with
  | .ok s => (0, calcActualMv ((s.sumMv - s.maxMv - s.minMv).tdiv (battAdcSampleNum - 2)))
  | .error err => (err, mv)

def voltPercentMap : List (Nat × Nat) :=
  [(3000, 0), (3300, 10), (3500, 20), (3600, 30), (3700, 40), (3800, 50), (3900, 60), (4000, 70), (4100, 80), (4150, 90),
    (4200, 100)]

/-- The search of `my_battery_read_percent` for the interval that holds the voltage, and the value in it. -/
def interpolate (mv : Nat) : List (Nat × Nat) → Nat
  | (low, percent) :: (high, next) :: rest =>
    if low ≤ mv ∧ mv ≤ high then percent + (mv - low) * (next - percent) / (high - low)
    else interpolate mv ((high, next) :: rest)
  | _ => 0

def myBatteryReadPercent (mv : Nat) : Nat :=
  if mv < 3000 then 0 else if 4200 < mv then 100 else interpolate mv voltPercentMap

structure Battery where
  firstUpdate : Bool
  updateCount : Nat
  jumpPercent : Int
  showPercent : Int
  deriving DecidableEq

def battUpdateCount : Nat := 3

namespace Battery

def powerOn : Battery := { firstUpdate := true, updateCount := 0, jumpPercent := -1, showPercent := 0 }

def countTo (b : Battery) (towards : Bool) (move : Int) : Battery :=
  if towards then
    if battUpdateCount ≤ b.updateCount + 1 then { b with updateCount := 0, showPercent := b.showPercent + move }
    else { b with updateCount := b.updateCount + 1 }
  else { b with updateCount := 0 }

def jump (b : Battery) (percent : Int) : Battery :=
  if 5 ≤ (percent - b.showPercent).natAbs then
    if b.jumpPercent < 0 then { b with jumpPercent := percent }
    else if (percent - b.jumpPercent).natAbs ≤ 1 then { b with showPercent := percent, jumpPercent := -1 }
    else { b with jumpPercent := percent }
  else { b with jumpPercent := -1 }

def update (b : Battery) (charging : Bool) (percent : Int) : Battery :=
  let b := if b.firstUpdate then { b with firstUpdate := false, updateCount := 0, showPercent := percent } else b
  let b := if charging then b.countTo (b.showPercent < percent) 1 else b.countTo (percent < b.showPercent) (-1)
  b.jump percent

end Battery

structure LprunningConfig where
  lprunningSw : Nat
  lprunningThreshold : Nat
  lprunningInterval : Nat
  deriving DecidableEq

inductive MainMsg where
  | workModeSwitch (mode : Mode)
  | resetLteTimer
  | lpsleepEnter
  | lpsleepExit
  | lpsleepBatteryCheck
  | lpsleepClearHoldOff
  | shutdownRequest
  | other
  deriving DecidableEq

inductive BleMsg where
  | modeset (parm : List (List Char))
  | lpsleep (parm : List (List Char))
  | scanLpsleepEnter
  | scanLpsleepExit
  | other
  deriving DecidableEq

inductive GsensorMsg where
  | highPower
  | lowPower
  | motionCheck
  | other
  deriving DecidableEq

inductive Timer where
  | stopped
  | oneShot
  | periodic
  deriving DecidableEq

def msgqSize : Nat := 10

/-- `dropped` counts the messages that found no room in a queue. -/
structure System where
  lastWorkMode : Mode
  workmode : DeviceConfig
  lprunning : LprunningConfig
  lprunningActive : Bool
  lprunningHoldOff : Bool
  lprunningSavedMode : Mode
  battery : Battery
  lteTimer : Timer
  lpsleepTimer : Timer
  sensorReady : Bool
  currentMoving : Bool
  lastMoving : Bool
  scanMode : Nat
  btUpdataMode : Nat
  mainMsgq : List MainMsg
  bleMsgq : List BleMsg
  gsensorMsgq : List GsensorMsg
  dropped : Nat
  deriving DecidableEq

structure Boot where
  workmode : DeviceConfig
  lprunning : LprunningConfig
  btUpdataMode : Nat
  sensorReady : Bool

namespace System

def start (boot : Boot) : System where
  lastWorkMode := .shutdown
  workmode := boot.workmode
  lprunning := boot.lprunning
  lprunningActive := false
  lprunningHoldOff := false
  lprunningSavedMode := .smart
  battery := .powerOn
  lteTimer := .stopped
  lpsleepTimer := .stopped
  sensorReady := boot.sensorReady
  currentMoving := false
  lastMoving := false
  scanMode := boot.btUpdataMode
  btUpdataMode := boot.btUpdataMode
  mainMsgq := [.workModeSwitch boot.workmode.currentMode]
  bleMsgq := []
  gsensorMsgq := []
  dropped := 0

def postMain (s : System) (msg : MainMsg) : System :=
  if s.mainMsgq.length < msgqSize then { s with mainMsgq := s.mainMsgq ++ [msg] } else { s with dropped := s.dropped + 1 }

def postBle (s : System) (msg : BleMsg) : System :=
  if s.bleMsgq.length < msgqSize then { s with bleMsgq := s.bleMsgq ++ [msg] } else { s with dropped := s.dropped + 1 }

def postGsensor (s : System) (msg : GsensorMsg) : System :=
  if s.gsensorMsgq.length < msgqSize then { s with gsensorMsgq := s.gsensorMsgq ++ [msg] }
  else { s with dropped := s.dropped + 1 }

def handleMode (s : System) : Mode → System
  | .longLife => (s.postGsensor .lowPower).postMain .resetLteTimer
  | .smart => s.postGsensor .highPower
  | .continuous | .alwaysOnline => { s with lteTimer := .stopped }.postGsensor .highPower
  | .max | .shutdown => s

def leaveSleep (s : System) : System :=
  if s.lprunningActive then
    { s with lpsleepTimer := .stopped, lprunningActive := false, lprunningHoldOff := true, lastWorkMode := .max }
  else s

def takeMode (s : System) (mode : Mode) : System :=
  if s.lastWorkMode = mode then s
  else if mode = .shutdown then { s with lastWorkMode := mode }
  else { s with lastWorkMode := mode, workmode.currentMode := mode }.handleMode mode

def switchWorkModeInternal (s : System) (mode : Mode) : System := s.leaveSleep.takeMode mode

def handleLprunningEnter (s : System) : System :=
  if s.lprunningActive then s
  else
    { ({ ({ s with lprunningSavedMode := s.workmode.currentMode, lprunningActive := true }.postBle .scanLpsleepEnter) with
          lteTimer := .stopped }.postGsensor .lowPower) with
      lpsleepTimer := .periodic }

def handleLprunningExit (s : System) : System :=
  if s.lprunningActive then
    ({ s with lpsleepTimer := .stopped, lprunningActive := false, lastWorkMode := .max }.switchWorkModeInternal
      s.lprunningSavedMode).postBle .scanLpsleepExit
  else s

/-- The comparison with `threshold + 5U` is one of unsigned numbers. -/
def recovered (s : System) : Prop := (s.lprunning.lprunningThreshold + 5 : Int) ≤ s.battery.showPercent % 2 ^ 32

instance (s : System) : Decidable s.recovered := inferInstanceAs (Decidable (_ ≤ _))

def handleLprunningBatteryCheck (s : System) : System :=
  if s.lprunning.lprunningSw ≠ 1 then s
  else if ¬ s.lprunningActive ∧ s.battery.showPercent < s.lprunning.lprunningThreshold then
    if ¬ s.lprunningHoldOff then s.handleLprunningEnter else s
  else if ¬ s.lprunningActive ∧ s.battery.showPercent ≥ s.lprunning.lprunningThreshold then
    { s with lprunningHoldOff := false }
  else if s.lprunningActive ∧ s.recovered then s.handleLprunningExit
  else s

/-- `set_reset_lte_timer`, which does nothing if `calculate_remaining_seconds` finds no time. -/
def setResetLteTimer (s : System) (found : Bool) : System := if found then { s with lteTimer := .oneShot } else s

def handleMain (s : System) (found : Bool) : MainMsg → System
  | .workModeSwitch mode => s.switchWorkModeInternal mode
  | .resetLteTimer => s.setResetLteTimer found
  | .lpsleepEnter => s.handleLprunningEnter
  | .lpsleepExit => s.handleLprunningExit
  | .lpsleepBatteryCheck => s.handleLprunningBatteryCheck
  | .lpsleepClearHoldOff => { s with lprunningHoldOff := false }
  | .shutdownRequest => s.postMain (.workModeSwitch .shutdown)
  | .other => s

def cellAlwaysOn : Nat → Bool → Bool
  | 0, _ => false
  | 1, moving => moving
  | 2, moving => moving
  | _, _ => true

def smartModeApplyLtePolicy (s : System) : System :=
  let config := s.workmode.intelligent
  let interval := (if s.currentMoving then config.movingInterval else config.staticInterval).getD config.subMode 0
  if ¬ s.currentMoving ∧ interval = 0 then { s with lteTimer := .stopped }
  else if cellAlwaysOn config.subMode s.currentMoving then { s with lteTimer := .stopped }
  else { s with lteTimer := .periodic }

def motionStateCheck (s : System) (moving : Bool) : System :=
  if s.sensorReady then
    if s.lastMoving ≠ moving then { s with currentMoving := moving, lastMoving := moving }.smartModeApplyLtePolicy
    else { s with currentMoving := moving }
  else s

def handleGsensor (s : System) (done moving : Bool) : GsensorMsg → System
  | .highPower => { s with sensorReady := s.sensorReady || done }
  | .lowPower => { s with sensorReady := s.sensorReady && !done }
  | .motionCheck => s.motionStateCheck moving
  | .other => s

def runModeset : List BleAction → System → System
  | [], s => s
  | .compareMode mode :: rest, s =>
    runModeset rest (if s.lastWorkMode ≠ mode then { s with workmode.currentMode := mode } else s)
  | .setCurrentMode mode :: rest, s => runModeset rest { s with workmode.currentMode := mode }
  | .setParams set :: rest, s =>
    match set.apply s.workmode with
    | none => s
    | some workmode => runModeset rest { s with workmode := workmode }
  | .switchWorkMode mode :: rest, s => runModeset rest (s.postMain (.workModeSwitch mode))
  | .notify mode :: rest, s =>
    runModeset rest (if s.workmode.currentMode = mode then
        match mode with
        | .longLife => s.postMain .resetLteTimer
        | .smart => s.smartModeApplyLtePolicy
        | _ => s
      else s)
  | .save :: rest, s => runModeset rest s
  | .reply _ :: rest, s => runModeset rest s

/-- `LPSLEEP,ON,B,T#` behind the first parameter; both values are cut to a byte. -/
def lpsleepParams (thresholdStr intervalStr : List Char) : Option LprunningConfig := do
  let threshold := (← numeric thresholdStr) % 256
  let interval := (← numeric intervalStr) % 256
  if threshold < 10 ∨ 50 < threshold then none
  else if interval < 1 ∨ 48 < interval then none
  else some { lprunningSw := 1, lprunningThreshold := threshold, lprunningInterval := interval }

def lprunningCmdHandler (s : System) : List (List Char) → System
  | [sw] =>
    if myStrcaseEq sw ['O', 'F', 'F'] then { s with lprunning.lprunningSw := 0 }.postMain .lpsleepExit
    else if myStrcaseEq sw ['O', 'N'] then { s with lprunning.lprunningSw := 1 }.postMain .lpsleepClearHoldOff
    else s
  | [sw, thresholdStr, intervalStr] =>
    if myStrcaseEq sw ['O', 'N'] then
      match lpsleepParams thresholdStr intervalStr with
      | none => s
      | some lprunning => { s with lprunning := lprunning }.postMain .lpsleepClearHoldOff
    else s
  | _ => s

/-- The BLE thread's case for a message; of `my_scan_set_config` only the mode is kept. -/
def handleBle (s : System) : BleMsg → System
  | .modeset parm => runModeset (modesetCmdHandler parm) s
  | .lpsleep parm => s.lprunningCmdHandler parm
  | .scanLpsleepEnter => { s with scanMode := 0 }
  | .scanLpsleepExit => { s with scanMode := s.btUpdataMode }
  | .other => s

end System

inductive Event where
  | main (found : Bool)
  | ble
  | gsensor (done moving : Bool)
  | modeset (parm : List (List Char))
  | lpsleep (parm : List (List Char))
  | shutdownRequest
  | otherMain
  | otherBle
  | otherGsensor
  | battery (charging : Bool) (mv : Nat)
  | motionTimer
  | lteTimer
  | lpsleepTimer
  deriving DecidableEq

namespace System

def step (s : System) : Event → System
  | .main found =>
    match s.mainMsgq with
    | [] => s
    | msg :: rest => { s with mainMsgq := rest }.handleMain found msg
  | .ble =>
    match s.bleMsgq with
    | [] => s
    | msg :: rest => { s with bleMsgq := rest }.handleBle msg
  | .gsensor done moving =>
    match s.gsensorMsgq with
    | [] => s
    | msg :: rest => { s with gsensorMsgq := rest }.handleGsensor done moving msg
  | .modeset parm => s.postBle (.modeset parm)
  | .lpsleep parm => s.postBle (.lpsleep parm)
  | .shutdownRequest => s.postMain .shutdownRequest
  | .otherMain => s.postMain .other
  | .otherBle => s.postBle .other
  | .otherGsensor => s.postGsensor .other
  | .battery charging mv =>
    let s := { s with battery := s.battery.update charging (myBatteryReadPercent mv) }
    if s.lprunning.lprunningSw = 1 then s.postMain .lpsleepBatteryCheck else s
  | .motionTimer => if s.sensorReady then s.postGsensor .motionCheck else s
  -- `awaken_lte_timer_callback`
  | .lteTimer =>
    if s.lteTimer = .stopped then s
    else
      let s := if s.lteTimer = .oneShot then { s with lteTimer := .stopped } else s
      if s.workmode.currentMode = .longLife then s.postMain .resetLteTimer else s
  -- `lprunning_wakeup_timer_callback` only turns the 4G module on
  | .lpsleepTimer => s

def handled (s : System) : Event → Option MainMsg
  | .main _ => s.mainMsgq.head?
  | _ => none

def drainBle (s : System) : System := (List.replicate s.bleMsgq.length Event.ble).foldl step s

end System

end LL320D.LowPower
