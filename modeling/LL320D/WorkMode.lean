import LL320D.Library.Machine

/-! The work mode: `modeset_cmd_handler` of `my_cmd_setting.c` in the BLE thread and `switch_work_mode_internal` of
`main.c` in the main thread, a step for every access to what they share; and the timer of the long-life mode. -/

namespace LL320D.WorkMode
inductive Mode where
  | continuous
  | longLife
  | smart
  | alwaysOnline
  | max
  | shutdown
  deriving DecidableEq

def Mode.toNat : Mode → Nat
  | .continuous => 0
  | .longLife => 1
  | .smart => 2
  | .alwaysOnline => 3
  | .max => 4
  | .shutdown => 0xFF

def Mode.ofValue : Nat → Option Mode
  | 0 => some .continuous
  | 1 => some .longLife
  | 2 => some .smart
  | 3 => some .alwaysOnline
  | _ => none

structure ContinuousTracking where
  reportingIntervalSec : Nat
  reportingIntervalDis : Nat
  deriving DecidableEq

structure LongBattery where
  reportingIntervalMin : Nat
  startTime : List Char
  gnssSw : Nat
  deriving DecidableEq

structure Intelligent where
  subMode : Nat
  staticInterval : List Nat
  movingInterval : List Nat
  deriving DecidableEq

structure DeviceConfig where
  currentMode : Mode
  continuousTracking : ContinuousTracking
  longBattery : LongBattery
  intelligent : Intelligent
  deriving DecidableEq

structure Config where
  flag : Nat
  workmodeConfig : DeviceConfig
  deriving DecidableEq

def flagValid : Nat := 0xAA

def gDefaultWorkModeConfig : Config where
  flag := flagValid
  workmodeConfig :=
    { currentMode := .smart
      continuousTracking := { reportingIntervalSec := 30, reportingIntervalDis := 100 }
      longBattery := { reportingIntervalMin := 240, startTime := ['0', '0', '0', '1'], gnssSw := 1 }
      intelligent :=
        { subMode := 5, staticInterval := [300, 300, 300, 300, 300, 10], movingInterval := [300, 300, 10, 300, 10, 10] } }

def loadConfig : Option Config → Config
  | some stored => if stored.flag = flagValid then stored else gDefaultWorkModeConfig
  | none => gDefaultWorkModeConfig

def checkNumberLoop (sign : Bool) : Bool → List Char → Nat → Nat
  | _, [], count => count
  | point, c :: rest, count =>
    if sign ∧ count = 0 ∧ (c = '+' ∨ c = '-') then checkNumberLoop sign point rest ((count + 1) % 256)
    else if point ∧ c = '.' then checkNumberLoop sign false rest ((count + 1) % 256)
    else if '0' ≤ c ∧ c ≤ '9' then checkNumberLoop sign point rest ((count + 1) % 256)
    else 0

def stringCheckIsNumber (sign point : Bool) (str : List Char) : Nat := checkNumberLoop sign point str 0

def atoi (str : List Char) : Nat := str.foldl (fun value c => 10 * value + (c.toNat - '0'.toNat)) 0

def numeric (str : List Char) : Option Nat :=
  let noCount := stringCheckIsNumber false false str
  if noCount = 0 ∨ 9 < noCount then none else some (atoi str)

def isAllUpperOrLower (s : List Char) : Bool := !(s.any Char.isUpper && s.any Char.isLower)

def myStrcaseEq (s1 s2 : List Char) : Bool :=
  isAllUpperOrLower s1 && isAllUpperOrLower s2 && s1.map Char.toLower == s2.map Char.toLower

/-- `none` stands for the answer -1. The interval is a `uint16_t`. -/
def setLongBatteryParams (workmode : DeviceConfig) (reportingInterval : Nat) (startTimeStr : List Char) (gnssSw : Nat) :
    Option DeviceConfig :=
  let reportingInterval := reportingInterval % 2 ^ 16
  let startTime := atoi startTimeStr
  let hh := startTime / 100
  let mm := startTime % 100
  if reportingInterval < 5 ∨ 1440 < reportingInterval then none
  else if startTimeStr.length ≠ 4 then none
  else if ¬ startTimeStr.all Char.isDigit then none
  else if ¬ (hh ≤ 24 ∧ mm ≤ 59 ∧ ¬ (hh = 24 ∧ mm ≠ 0)) then none
  else if 1 < gnssSw then none
  else some { workmode with longBattery := { reportingIntervalMin := reportingInterval, startTime := startTimeStr, gnssSw } }

/-- `none` stands for the answer -1. The submode is a `uint8_t`. -/
def setIntelligentParams (workmode : DeviceConfig) (subMode staticInt movingInt : Nat) : Option DeviceConfig :=
  let subMode := subMode % 2 ^ 8
  if 5 < subMode then none
  else if staticInt ≠ 0 ∧ subMode ≤ 4 ∧ (staticInt < 180 ∨ 3600 < staticInt) then none
  else if staticInt ≠ 0 ∧ ¬ subMode ≤ 4 ∧ (staticInt < 10 ∨ 86400 < staticInt) then none
  else if (subMode = 0 ∨ subMode = 1 ∨ subMode = 3) ∧ (movingInt < 180 ∨ 3600 < movingInt) then none
  else if ¬ (subMode = 0 ∨ subMode = 1 ∨ subMode = 3) ∧ (movingInt < 10 ∨ 86400 < movingInt) then none
  else some
    { workmode with
      intelligent :=
        { subMode
          staticInterval := workmode.intelligent.staticInterval.set subMode staticInt
          movingInterval := workmode.intelligent.movingInterval.set subMode movingInt } }

inductive ParamSet where
  | continuousTracking (sec dis : Nat)
  | longBattery (reportingInterval : Nat) (startTime : List Char) (gnssSw : Nat)
  | intelligent (subMode staticInt movingInt : Nat)
  | selectSubMode (subMode : Nat)
  deriving DecidableEq

def ParamSet.apply : ParamSet → DeviceConfig → Option DeviceConfig
  | .continuousTracking sec dis, workmode =>
    some { workmode with continuousTracking := { reportingIntervalSec := sec, reportingIntervalDis := dis } }
  | .longBattery reportingInterval startTime gnssSw, workmode =>
    setLongBatteryParams workmode reportingInterval startTime gnssSw
  | .intelligent subMode staticInt movingInt, workmode => setIntelligentParams workmode subMode staticInt movingInt
  | .selectSubMode subMode, workmode => some { workmode with intelligent := { workmode.intelligent with subMode } }

inductive Reply where
  | setOk (mode : Mode)
  | setFail
  deriving DecidableEq

def Reply.text : Reply → String
  | .setOk _ => "Set OK!"
  | .setFail => "Set Fail! InvalidParam"

inductive BleAction where
  /-- `if (get_last_work_mode() != mode)` around the two steps that store the mode. -/
  | compareMode (mode : Mode)
  | setCurrentMode (mode : Mode)
  | setParams (set : ParamSet)
  | save
  | switchWorkMode (mode : Mode)
  | notify (mode : Mode)
  | reply (reply : Reply)
  deriving DecidableEq

def paramProgram (set : ParamSet) (mode : Mode) : List BleAction :=
  [.setParams set, .save, .notify mode, .reply (.setOk mode)]

/-- `MODESET,0,[Reporting INT],[Distance INT]#` after the mode. -/
def modesetContinuous : List (List Char) → Option (List BleAction)
  | [secStr, disStr] => do
    let sec ← numeric secStr
    let dis ← numeric disStr
    if sec < 5 ∨ 86400 < sec then none
    else if dis ≠ 0 ∧ (dis < 5 ∨ 1000 < dis) then none
    else some (paramProgram (.continuousTracking sec dis) .continuous)
  | _ => none

def gnssSwitch (str : List Char) : Option Nat :=
  if myStrcaseEq str ['O', 'N'] then some 1
  else if myStrcaseEq str ['O', 'F', 'F'] then some 0
  else none

/-- `MODESET,1,[Reporting Interval],[Start Time],[GNSS SW]#` after the mode. -/
def modesetLongLife : List (List Char) → Option (List BleAction)
  | [intervalStr, startTime, gnssStr] => do
    let interval ← numeric intervalStr
    let gnssSw ← gnssSwitch gnssStr
    some (paramProgram (.longBattery interval startTime gnssSw) .longLife)
  | _ => none

/-- `MODESET,2,[Sub Mode],[Static INT],[MOVING INT]#` or `MODESET,2,[Sub Mode]#` after the mode. -/
def modesetSmart : List (List Char) → Option (List BleAction)
  | [subStr, staticStr, movingStr] => do
    let sub ← numeric subStr
    let staticInt ← numeric staticStr
    let movingInt ← numeric movingStr
    some (paramProgram (.intelligent sub staticInt movingInt) .smart)
  | [subStr] => do
    let sub ← numeric subStr
    if 5 < sub then none else some (paramProgram (.selectSubMode sub) .smart)
  | _ => none

/-- The handler for the parameters `parm[1]`, ...; its checks read nothing that is shared, apart from those that stand
before the write they guard. -/
def modesetCmdHandler : List (List Char) → List BleAction
  | [] => [.reply .setFail]
  | modeStr :: params =>
    match (numeric modeStr).bind Mode.ofValue with
    | none => [.reply .setFail]
    | some mode =>
      if params = [] then [.compareMode mode, .switchWorkMode mode, .reply (.setOk mode)]
      else
        let program :=
          match mode with
          | .continuous => modesetContinuous params
          | .longLife => modesetLongLife params
          | .smart => modesetSmart params
          | _ => none
        program.getD [.reply .setFail]

inductive MainAction where
  | setCurrentMode (mode : Mode)
  | announce (mode : Mode)
  deriving DecidableEq

inductive Effect where
  | wmode (text : String)
  | resetLteTimer
  | smartModeApplyLtePolicy
  | systemOff
  | lteBootReasonInterval
  | ltePwron
  | scanUploadOnLteWakeup
  | handleMode (mode : Mode)
  deriving DecidableEq

def sendWorkModeCommand (mode : Mode) (workmode : DeviceConfig) : List Effect :=
  let number := toString mode.toNat
  match mode with
  | .continuous =>
    [.wmode (number ++ "," ++ toString workmode.continuousTracking.reportingIntervalSec ++ "," ++
      toString workmode.continuousTracking.reportingIntervalDis)]
  | .longLife =>
    [.wmode (number ++ "," ++ toString workmode.longBattery.reportingIntervalMin ++ "," ++
      String.ofList workmode.longBattery.startTime ++ "," ++ if workmode.longBattery.gnssSw = 0 then "OFF" else "ON")]
  | .smart =>
    [.wmode (number ++ "," ++ toString workmode.intelligent.subMode ++ "," ++
      toString (workmode.intelligent.staticInterval.getD workmode.intelligent.subMode 0) ++ "," ++
      toString (workmode.intelligent.movingInterval.getD workmode.intelligent.subMode 0))]
  | .alwaysOnline => [.wmode number]
  | .max | .shutdown => []

/-- `s_last_work_mode`, `gConfigParam.device_workmode_config`, what ZMS holds, the queue of the main thread, and what
each thread has still to do. -/
structure System where
  lastWorkMode : Mode
  config : Config
  zms : Option Config
  lprunningActive : Bool
  lprunningHoldOff : Bool
  lteReady : Bool
  mainMsgq : List Mode
  bleTodo : List BleAction
  mainTodo : List MainAction
  replies : List Reply
  effects : List Effect
  deriving DecidableEq

namespace System

def emit (s : System) (effects : List Effect) : System := { s with effects := s.effects ++ effects }

def currentMode (s : System) : Mode := s.config.workmodeConfig.currentMode

def setCurrentMode (s : System) (mode : Mode) : System := { s with config.workmodeConfig.currentMode := mode }

def bleAction (s : System) (rest : List BleAction) : BleAction → System
  | .compareMode mode =>
    { s with bleTodo := if s.lastWorkMode ≠ mode then .setCurrentMode mode :: .save :: rest else rest }
  | .setCurrentMode mode => { s.setCurrentMode mode with config.flag := flagValid, bleTodo := rest }
  | .setParams set =>
    match set.apply s.config.workmodeConfig with
    | none => { s with bleTodo := [.reply .setFail] }
    | some workmodeConfig => { s with config := { flag := flagValid, workmodeConfig }, bleTodo := rest }
  | .save => { s with zms := some s.config, bleTodo := rest }
  | .switchWorkMode mode => { s with mainMsgq := s.mainMsgq ++ [mode], bleTodo := rest }
  | .notify mode =>
    let calls :=
      if s.currentMode = mode then
        sendWorkModeCommand mode s.config.workmodeConfig ++
          match mode with
          | .longLife => [.resetLteTimer]
          | .smart => [.smartModeApplyLtePolicy]
          | _ => []
      else []
    { s.emit calls with bleTodo := rest }
  | .reply reply => { s with replies := s.replies ++ [reply], bleTodo := rest }

/-- The start of `switch_work_mode_internal`; only the main thread writes `s_last_work_mode`. -/
def switchWorkModeInternal (s : System) (mode : Mode) : System :=
  let s := if s.lprunningActive then { s with lprunningActive := false, lprunningHoldOff := true, lastWorkMode := .max } else s
  if s.lastWorkMode = mode then s
  else if mode = .shutdown then { s.emit [.systemOff] with lastWorkMode := mode }
  else { s.emit [.lteBootReasonInterval] with lastWorkMode := mode, mainTodo := [.setCurrentMode mode, .announce mode] }

def mainAction (s : System) (rest : List MainAction) : MainAction → System
  | .setCurrentMode mode => { s.setCurrentMode mode with mainTodo := rest }
  | .announce mode =>
    let calls := if s.lteReady then sendWorkModeCommand mode s.config.workmodeConfig else [.ltePwron]
    { s.emit (calls ++ [.scanUploadOnLteWakeup, .handleMode mode]) with mainTodo := rest }

/-- After the start `main` has put the mode in RAM into its own queue. -/
def boot (stored : Option Config) : System where
  lastWorkMode := .shutdown
  config := loadConfig stored
  zms := stored
  lprunningActive := false
  lprunningHoldOff := false
  lteReady := false
  mainMsgq := [(loadConfig stored).workmodeConfig.currentMode]
  bleTodo := []
  mainTodo := []
  replies := []
  effects := []

end System

inductive Event where
  | modeset (parm : List (List Char))
  | ble
  | main
  | lteReady (ready : Bool)
  deriving DecidableEq

def System.step (s : System) : Event → System
  | .modeset parm => if s.bleTodo = [] then { s with bleTodo := modesetCmdHandler parm } else s
  | .ble =>
    match s.bleTodo with
    | [] => s
    | action :: rest => s.bleAction rest action
  | .main =>
    match s.mainTodo, s.mainMsgq with
    | action :: rest, _ => s.mainAction rest action
    | [], [] => s
    | [], mode :: queue => { s with mainMsgq := queue }.switchWorkModeInternal mode
  | .lteReady ready => { s with lteReady := ready }

structure System.Drained (s : System) : Prop where
  ble : s.bleTodo = []
  main : s.mainTodo = []
  msgq : s.mainMsgq = []

instance (s : System) : Decidable s.Drained :=
  decidable_of_iff (s.bleTodo = [] ∧ s.mainTodo = [] ∧ s.mainMsgq = [])
    ⟨fun ⟨ble, main, msgq⟩ => ⟨ble, main, msgq⟩, fun ⟨ble, main, msgq⟩ => ⟨ble, main, msgq⟩⟩

def Reply.mode? : Reply → Option Mode
  | .setOk mode => some mode
  | .setFail => none

def System.accepted (s : System) : Option Mode := (s.replies.filterMap Reply.mode?).getLast?

def System.storedMode (s : System) : Option Mode := s.zms.map fun config => config.workmodeConfig.currentMode

end LL320D.WorkMode

namespace LL320D.LongLife
open WorkMode

def daySeconds : Nat := 86400

def digit (c : Char) : Nat := c.toNat - '0'.toNat

/-- `none` stands for the answer -1. -/
def calculateRemainingSeconds (startTime : List Char) (intervalMin : Nat) (utcTimestamp : Int) : Option Nat :=
  match startTime with
  | [h, o, m, n] =>
    if ¬ startTime.all Char.isDigit then none
    else if intervalMin = 0 then none
    else if utcTimestamp < 0 then none
    else
      let hour := digit h * 10 + digit o
      let minute := digit m * 10 + digit n
      if 23 < hour ∨ 59 < minute then none
      else
        let baseSeconds := hour * 3600 + minute * 60
        let intervalSeconds := intervalMin * 60
        let currentSecondsOfDay := (utcTimestamp % daySeconds).toNat
        if currentSecondsOfDay < baseSeconds then some (baseSeconds - currentSecondsOfDay)
        else
          let n := (currentSecondsOfDay - baseSeconds) / intervalSeconds
          let nextPoint := baseSeconds + (n + 1) * intervalSeconds
          if nextPoint < daySeconds then some (nextPoint - currentSecondsOfDay)
          else some (baseSeconds + daySeconds - currentSecondsOfDay)
  | _ => none

def rand0To120Seconds (random : Option (BitVec 32)) : Option Nat := random.map fun val => val.toNat % 121

def setResetLteTimer (longBattery : LongBattery) (currentTime : Int) (random : Option (BitVec 32)) : Option Nat := do
  let timerInterval ← calculateRemainingSeconds longBattery.startTime longBattery.reportingIntervalMin currentTime
  some ((timerInterval + (rand0To120Seconds random).getD 0) * 1000)

def startSecond (startTime : List Char) : Nat := atoi startTime / 100 * 3600 + atoi startTime % 100 * 60

def Scheduled (longBattery : LongBattery) (instant : Int) : Prop :=
  ∃ k : Nat, instant % daySeconds = (startSecond longBattery.startTime + k * (longBattery.reportingIntervalMin * 60) : Nat) ∧
    startSecond longBattery.startTime + k * (longBattery.reportingIntervalMin * 60) < daySeconds

structure NextInstant (longBattery : LongBattery) (currentTime : Int) (delay : Nat) : Prop where
  positive : 1 ≤ delay
  day : delay ≤ daySeconds
  scheduled : Scheduled longBattery (currentTime + delay)
  none_between : ∀ instant, currentTime < instant → instant < currentTime + delay → ¬ Scheduled longBattery instant

end LL320D.LongLife
