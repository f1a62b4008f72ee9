import LL320D.WorkMode
import LL320D.Library.Ring

/-! Motion detection in `my_gsensor.c`: a check counts the interrupts of the last seconds and decides the state, and a
change of the state sends an alarm. -/

namespace LL320D.Motion

def timestampQueueSize : Nat := 500

/-- `motdet_cmd_handler` stores no other values. -/
structure MotDetConfig where
  motdetVibration : Nat
  motdetDuration : Nat
  vibrations : 1 ≤ motdetVibration ∧ motdetVibration ≤ 500
  seconds : 1 ≤ motdetDuration ∧ motdetDuration ≤ 3600

structure SlidingWindow where
  timestamps : Nat → Nat
  head : Nat
  tail : Nat

def uptime32 (uptime : Nat) : Nat := uptime % 2 ^ 32

namespace SlidingWindow

def addInt (w : SlidingWindow) (uptime : Nat) : SlidingWindow :=
  let nextHead := (w.head + 1) % timestampQueueSize
  { timestamps := Function.update w.timestamps w.head (uptime32 uptime)
    head := nextHead
    tail := if nextHead = w.tail then (w.tail + 1) % timestampQueueSize else w.tail }

def isRecent (config : MotDetConfig) (uptime timestamp : Nat) : Bool :=
  (uptime32 uptime + 2 ^ 32 - timestamp) % 2 ^ 32 ≤ config.motdetDuration * 1000

def updateTailLoop (config : MotDetConfig) (uptime : Nat) : Nat → SlidingWindow → SlidingWindow
  | 0, w => w
  | turns + 1, w =>
    if w.tail = w.head then w
    else if isRecent config uptime (w.timestamps w.tail) then w
    else updateTailLoop config uptime turns { w with tail := (w.tail + 1) % timestampQueueSize }

/-- `sliding_window_update_tail`: the tail meets the head before it has gone around. -/
def updateTail (config : MotDetConfig) (uptime : Nat) (w : SlidingWindow) : SlidingWindow :=
  updateTailLoop config uptime timestampQueueSize w

/-- The loop of `sliding_window_get_count`, which also ends when it has counted the whole ring. -/
def countLoop (head : Nat) : Nat → Nat → Nat → Nat
  | 0, _, count => count
  | turns + 1, i, count =>
    if i = head then count
    else if timestampQueueSize ≤ count + 1 then count + 1
    else countLoop head turns ((i + 1) % timestampQueueSize) (count + 1)

def getCount (config : MotDetConfig) (uptime : Nat) (w : SlidingWindow) : Nat × SlidingWindow :=
  let updated := w.updateTail config uptime
  (countLoop updated.head timestampQueueSize updated.tail 0, updated)

end SlidingWindow

inductive GsensorState where
  | static
  | motion
  deriving DecidableEq

inductive Alarm where
  | moveStart
  | moveStop
  deriving DecidableEq

def SlidingWindow.judgeState (config : MotDetConfig) (uptime : Nat) (w : SlidingWindow) : GsensorState × SlidingWindow :=
  let counted := w.getCount config uptime
  (if config.motdetVibration ≤ counted.1 then .motion else .static, counted.2)

/-- `g_int_window`, `g_gsensor_runtime_ctx`, the switch of the motion alarm, and the alarms sent so far. -/
structure Gsensor where
  window : SlidingWindow
  sensorReady : Bool
  lastGsensorState : GsensorState
  currentGsensorState : GsensorState
  motdetalmSw : Bool
  alarms : List Alarm

namespace Gsensor

def start (motdetalmSw : Bool) : Gsensor where
  window := ⟨fun _ => 0, 0, 0⟩
  sensorReady := false
  lastGsensorState := .static
  currentGsensorState := .static
  motdetalmSw
  alarms := []

def getMotionStatus (s : Gsensor) : Gsensor :=
  if s.motdetalmSw then
    { s with alarms := s.alarms ++ [if s.currentGsensorState = .static then .moveStart else .moveStop] }
  else s

def intHandler (s : Gsensor) (anyMotion : Bool) (uptime : Nat) : Gsensor :=
  if anyMotion then { s with window := s.window.addInt uptime } else s

/-- `my_gsensor_motion_state_check`. It reads the clock twice: for a count that it does not use, and for the decision. -/
def motionStateCheck (config : MotDetConfig) (s : Gsensor) (counts decides : Nat) : Gsensor :=
  if s.sensorReady then
    let judged := (s.window.getCount config counts).2.judgeState config decides
    let s := { s with window := judged.2, currentGsensorState := judged.1 }
    if s.lastGsensorState ≠ s.currentGsensorState then
      { s with lastGsensorState := s.currentGsensorState }.getMotionStatus
    else s
  else s

end Gsensor

inductive Event where
  | int (anyMotion : Bool) (uptime : Nat)
  | check (counts decides : Nat)
  | ready (sensorReady : Bool)

structure Run where
  sensor : Gsensor
  interrupts : List Nat
  clock : Nat

namespace Run

def start (motdetalmSw : Bool) : Run := ⟨.start motdetalmSw, [], 0⟩

def step (config : MotDetConfig) (run : Run) : Event → Run
  | .int anyMotion uptime =>
    ⟨run.sensor.intHandler anyMotion uptime, if anyMotion then run.interrupts ++ [uptime] else run.interrupts, uptime⟩
  | .check counts decides => { run with sensor := run.sensor.motionStateCheck config counts decides, clock := decides }
  | .ready sensorReady => { run with sensor.sensorReady := sensorReady }

def Timed (run : Run) : Event → Prop
  | .int _ uptime => run.clock ≤ uptime ∧ uptime < 2 ^ 32
  | .check counts decides => run.clock ≤ counts ∧ counts ≤ decides ∧ decides < 2 ^ 32
  | .ready _ => True

def recent (config : MotDetConfig) (run : Run) (uptime : Nat) : Nat :=
  run.interrupts.countP fun interrupt => uptime ≤ interrupt + config.motdetDuration * 1000

def Decides (config : MotDetConfig) (run : Run) : Event → Prop
  | .check counts decides => run.sensor.sensorReady = true →
    ((run.step config (.check counts decides)).sensor.currentGsensorState = .motion ↔
      config.motdetVibration ≤ run.recent config decides)
  | _ => True

/-- A check with the sensor ready, for as many interrupts as the ring has cells, finds at least that many. -/
def Overfull (config : MotDetConfig) (run : Run) : Event → Prop
  | .check _ decides => run.sensor.sensorReady = true ∧ config.motdetVibration = timestampQueueSize ∧
    timestampQueueSize ≤ run.recent config decides
  | _ => False

def changeAlarm : GsensorState → GsensorState → List Alarm
  | .static, .motion => [.moveStart]
  | .motion, .static => [.moveStop]
  | _, _ => []

def Follows (config : MotDetConfig) (run : Run) (event : Event) : Prop :=
  (run.step config event).sensor.alarms = run.sensor.alarms ++
    changeAlarm run.sensor.currentGsensorState (run.step config event).sensor.currentGsensorState

def Changes (config : MotDetConfig) (run : Run) (event : Event) : Prop :=
  (run.step config event).sensor.currentGsensorState ≠ run.sensor.currentGsensorState

end Run

def Alarm.other : Alarm → Alarm
  | .moveStart => .moveStop
  | .moveStop => .moveStart

def Alternates : Alarm → List Alarm → Prop
  | _, [] => True
  | first, alarm :: rest => alarm = first ∧ Alternates first.other rest

inductive OverturnAlarm where
  | filp
  | filpBack
  deriving DecidableEq

/-- `imu_alm_config_t`; the threshold 255 switches its angle off. -/
structure ImuAlmConfig where
  imuAlmSw : Bool
  imuRollThreshold : Nat
  imuPitchThreshold : Nat
  imuYawThreshold : Nat
  imuDurationTime : Nat
  recoverTime : Nat

structure EulerAngle where
  roll : ℚ
  pitch : ℚ
  yaw : ℚ

def ImuAlmConfig.above (config : ImuAlmConfig) (angle : EulerAngle) : Prop :=
  config.imuRollThreshold < |angle.roll| ∧ config.imuRollThreshold ≠ 255 ∨
    config.imuPitchThreshold < |angle.pitch| ∧ config.imuPitchThreshold ≠ 255 ∨
    config.imuYawThreshold < |angle.yaw| ∧ config.imuYawThreshold ≠ 255
  deriving Decidable

def ImuAlmConfig.below (config : ImuAlmConfig) (angle : EulerAngle) : Prop :=
  (|angle.roll| < config.imuRollThreshold ∨ config.imuRollThreshold = 255) ∧
    (|angle.pitch| < config.imuPitchThreshold ∨ config.imuPitchThreshold = 255) ∧
    (|angle.yaw| < config.imuYawThreshold ∨ config.imuYawThreshold = 255)
  deriving Decidable

structure Overturn where
  isOverTurn : Bool
  timeCount : Nat

def overturnCheck (config : ImuAlmConfig) (rate : Nat) (s : Overturn) (angle : EulerAngle) :
    Overturn × Option OverturnAlarm :=
  if !config.imuAlmSw then (⟨false, 0⟩, none)
  else if !s.isOverTurn ∧ config.above angle then
    if config.imuDurationTime * rate < s.timeCount + 1 then (⟨true, 0⟩, some .filp)
    else ({ s with timeCount := s.timeCount + 1 }, none)
  else if s.isOverTurn ∧ config.below angle then
    if config.recoverTime * rate < s.timeCount + 1 then (⟨false, 0⟩, some .filpBack)
    else ({ s with timeCount := s.timeCount + 1 }, none)
  else ({ s with timeCount := 0 }, none)

/-- The samples, each with the alarm that it sent, the newest first. -/
structure OverturnRun where
  state : Overturn
  trace : List (EulerAngle × Option OverturnAlarm)

def OverturnRun.start : OverturnRun := ⟨⟨false, 0⟩, []⟩

def OverturnRun.step (config : ImuAlmConfig) (rate : Nat) (run : OverturnRun) (angle : EulerAngle) : OverturnRun :=
  let checked := overturnCheck config rate run.state angle
  ⟨checked.1, (angle, checked.2) :: run.trace⟩

end LL320D.Motion
