import LL320D.WorkMode

/-! The control thread `my_ctrl.c`: every sample is compared with the two thresholds that `patalm_cmd_handler` and
`tempalm_cmd_handler` store, and the function key is polled after an edge. -/

namespace LL320D.ThresholdAlarm
open WorkMode (Mode)

/-- A low and a high threshold, of which 255 switches one off. The handlers store no pair that is out of order. -/
structure Thresholds where
  low : Int
  high : Int
  ordered : low ≠ 255 → low ≤ high

structure PatalmConfig where
  patalmSw : Bool
  patalm : Thresholds
  patalmReportType : Nat
  patalmReportInterval : Nat

structure TempalmConfig where
  tempalmSw : Bool
  temp : Thresholds
  humi : Thresholds
  tempalmReportType : Nat
  tempalmReportInterval : Nat

def gDefaultPatAlmConfig : PatalmConfig := ⟨false, ⟨255, 255, nofun⟩, 1, 0⟩

def gDefaultTempAlmConfig : TempalmConfig := ⟨false, ⟨255, 255, nofun⟩, ⟨255, 255, nofun⟩, 1, 0⟩

inductive MyAlarmType where
  | normalPatmTempAlarm
  | lowPatmTempAlarm
  | highPatmTempAlarm
  deriving DecidableEq

inductive AlarmType where
  | lowPatm
  | highPatm
  | lowTemp
  | highTemp
  | lowHumi
  | highHumi
  deriving DecidableEq

structure AlarmState where
  state : MyAlarmType
  lastTimestamp : BitVec 32
  deriving DecidableEq

def AlarmState.start : AlarmState := ⟨.normalPatmTempAlarm, 0⟩

def reportAgain (mode : Mode) (reportInterval : Nat) (timestampDiff : BitVec 32) : Bool :=
  (mode = .continuous ∨ mode = .alwaysOnline) ∧ reportInterval * 60 ≤ timestampDiff.toNat ∧ reportInterval ≠ 0

def AlarmState.report (s : AlarmState) (side : MyAlarmType) (alarm : AlarmType) (again : Bool) (timestamp : BitVec 32) :
    AlarmState × List AlarmType :=
  let state := if again then .normalPatmTempAlarm else s.state
  if state ≠ side then (⟨side, timestamp⟩, [alarm]) else ({ s with state }, [])

def AlarmState.check (s : AlarmState) (limits : Thresholds) (unit : Int) (lowAlarm highAlarm : AlarmType) (mode : Mode)
    (reportInterval : Nat) (value : Int) (timestamp : BitVec 32) : AlarmState × List AlarmType :=
  let again := reportAgain mode reportInterval (timestamp - s.lastTimestamp)
  if limits.low ≠ 255 ∧ value < limits.low * unit then s.report .lowPatmTempAlarm lowAlarm again timestamp
  else if limits.high ≠ 255 ∧ limits.high * unit < value then s.report .highPatmTempAlarm highAlarm again timestamp
  else ({ s with state := .normalPatmTempAlarm }, [])

structure Config where
  patalmConfig : PatalmConfig
  tempalmConfig : TempalmConfig
  currentMode : Mode

structure Ctrl where
  barometer : AlarmState
  temp : AlarmState
  humi : AlarmState
  deriving DecidableEq

def Ctrl.start : Ctrl := ⟨.start, .start, .start⟩

def sensorBarometerAlarmCheck (config : Config) (c : Ctrl) (pressurePa timestamp : BitVec 32) : Ctrl × List AlarmType :=
  if config.patalmConfig.patalmSw then
    let barometer := c.barometer.check config.patalmConfig.patalm 1000 .lowPatm .highPatm config.currentMode
      config.patalmConfig.patalmReportInterval pressurePa.toInt timestamp
    ({ c with barometer := barometer.1 }, barometer.2)
  else ({ c with barometer.state := .normalPatmTempAlarm }, [])

def tempVal (tempHumi : BitVec 32) : Int := (tempHumi.extractLsb' 0 16).toInt

def humiVal (tempHumi : BitVec 32) : Int := (tempHumi.extractLsb' 16 16).toInt

def sensorTempHumiAlarmCheck (config : Config) (c : Ctrl) (tempHumi timestamp : BitVec 32) : Ctrl × List AlarmType :=
  if config.tempalmConfig.tempalmSw then
    let temp := c.temp.check config.tempalmConfig.temp 10 .lowTemp .highTemp config.currentMode
      config.tempalmConfig.tempalmReportInterval (tempVal tempHumi) timestamp
    let humi := c.humi.check config.tempalmConfig.humi 10 .lowHumi .highHumi config.currentMode
      config.tempalmConfig.tempalmReportInterval (humiVal tempHumi) timestamp
    ({ c with temp := temp.1, humi := humi.1 }, temp.2 ++ humi.2)
  else ({ c with temp.state := .normalPatmTempAlarm, humi.state := .normalPatmTempAlarm }, [])

def packTempHumi (temperatureX10 humidityX10 : BitVec 16) : BitVec 32 :=
  humidityX10.setWidth 32 <<< 16 ||| (temperatureX10.signExtend 32 &&& 0xFFFF)

/-- A reading, in hundredths of a degree and of a percent. -/
structure TempHumiData where
  temperature : BitVec 16
  humidity : BitVec 16

structure TempHumiRecord where
  temperatureX10 : BitVec 16
  humidityX10 : BitVec 16
  deriving DecidableEq

def TempHumiData.record (data : TempHumiData) : TempHumiRecord :=
  ⟨.ofInt 16 (data.temperature.toInt.tdiv 10), data.humidity / 10⟩

/-- The record that is stored, and the word that the alarm check takes and the callers get. -/
def sensorCollectTempHumi : Option TempHumiData → Option TempHumiRecord × BitVec 32
  | none => (none, -1)
  | some data => (some data.record, packTempHumi data.record.temperatureX10 data.record.humidityX10)

/-- The two numbers that are multiplied by `0.1f` and printed, unless the word counts as a failed reading. -/
def printedTenths (tempHumi : BitVec 32) : Option (Int × Int) :=
  if tempHumi.toInt < 0 then none else some ((tempHumi &&& 0xFFFF).toInt, (tempHumi.sshiftRight 16).toInt)

def sensorTempRead (data : Option TempHumiData) : Option (Int × Int) := printedTenths (sensorCollectTempHumi data).2

def deviceStatusRead (data : Option TempHumiData) : Option (Int × Int) := printedTenths (sensorCollectTempHumi data).2

inductive Sample where
  | barometer (pressurePa timestamp : BitVec 32)
  | tempHumi (tempHumi timestamp : BitVec 32)

def Sample.timestamp : Sample → BitVec 32
  | .barometer _ timestamp => timestamp
  | .tempHumi _ timestamp => timestamp

def Ctrl.handle (config : Config) (c : Ctrl) : Sample → Ctrl × List AlarmType
  | .barometer pressurePa timestamp => sensorBarometerAlarmCheck config c pressurePa timestamp
  | .tempHumi tempHumi timestamp => sensorTempHumiAlarmCheck config c tempHumi timestamp

/-! The rule by which alarms should be sent, stated over the history of samples and alarms -/

inductive Quantity where
  | pressure
  | temperature
  | humidity
  deriving DecidableEq

inductive Side where
  | low
  | high
  deriving DecidableEq

def Sample.value : Quantity → Sample → Option Int
  | .pressure, .barometer pressurePa _ => some pressurePa.toInt
  | .temperature, .tempHumi packed _ => some (tempVal packed)
  | .humidity, .tempHumi packed _ => some (humiVal packed)
  | _, _ => none

def Quantity.alarm : Quantity → Side → AlarmType
  | .pressure, .low => .lowPatm
  | .pressure, .high => .highPatm
  | .temperature, .low => .lowTemp
  | .temperature, .high => .highTemp
  | .humidity, .low => .lowHumi
  | .humidity, .high => .highHumi

namespace Config

def on (config : Config) : Quantity → Bool
  | .pressure => config.patalmConfig.patalmSw
  | _ => config.tempalmConfig.tempalmSw

def limits (config : Config) : Quantity → Thresholds
  | .pressure => config.patalmConfig.patalm
  | .temperature => config.tempalmConfig.temp
  | .humidity => config.tempalmConfig.humi

def reportInterval (config : Config) : Quantity → Nat
  | .pressure => config.patalmConfig.patalmReportInterval
  | _ => config.tempalmConfig.tempalmReportInterval

end Config

def Quantity.unit : Quantity → Int
  | .pressure => 1000
  | _ => 10

def Config.Beyond (config : Config) (quantity : Quantity) (value : Int) : Side → Prop
  | .low => (config.limits quantity).low ≠ 255 ∧ value < (config.limits quantity).low * quantity.unit
  | .high => (config.limits quantity).high ≠ 255 ∧ (config.limits quantity).high * quantity.unit < value

structure Run where
  ctrl : Ctrl
  samples : List Sample
  sent : List (AlarmType × BitVec 32)

namespace Run

def start : Run := ⟨.start, [], []⟩

def step (config : Config) (run : Run) (sample : Sample) : Run :=
  let handled := run.ctrl.handle config sample
  ⟨handled.1, sample :: run.samples, (handled.2.map (·, sample.timestamp)).reverse ++ run.sent⟩

def Timed (run : Run) (sample : Sample) : Prop := ∀ earlier ∈ run.samples, earlier.timestamp ≤ sample.timestamp

def previous (run : Run) (quantity : Quantity) : Option Int := run.samples.findSome? (Sample.value quantity)

def lastAlarm (run : Run) (quantity : Quantity) : Option (BitVec 32) := run.sent.findSome? fun (alarm, timestamp) =>
    if alarm = quantity.alarm .low ∨ alarm = quantity.alarm .high then some timestamp else none

def Due (config : Config) (run : Run) (quantity : Quantity) (value : Int) (timestamp : BitVec 32) (side : Side) : Prop :=
  config.Beyond quantity value side ∧
    (¬ (∃ previous, run.previous quantity = some previous ∧ config.Beyond quantity previous side) ∨
      (config.currentMode = .continuous ∨ config.currentMode = .alwaysOnline) ∧ config.reportInterval quantity ≠ 0 ∧
        ∃ last, run.lastAlarm quantity = some last ∧ last.toNat + config.reportInterval quantity * 60 ≤ timestamp.toNat)

def Rule (config : Config) (run : Run) (sample : Sample) : Prop := (run.ctrl.handle config sample).2.Nodup ∧
    ∀ quantity side, config.on quantity = true → (quantity.alarm side ∈ (run.ctrl.handle config sample).2 ↔
        ∃ value, sample.value quantity = some value ∧ Due config run quantity value sample.timestamp side)

end Run

end LL320D.ThresholdAlarm

namespace LL320D.FunKey
inductive KeyEvent where
  | shortPress
  | longPress
  deriving DecidableEq

/-- `key_ctrl_t`, with the events that were sent. -/
structure KeyCtrl where
  pressed : Bool
  pressCount : Nat
  timer : Bool
  sent : List KeyEvent

def keyLongPressCount : Nat := 60

def keyEvent (pressCount : Nat) : List KeyEvent :=
  if pressCount < keyLongPressCount ∧ 2 ≤ pressCount then [.shortPress]
  else if keyLongPressCount ≤ pressCount then [.longPress]
  else []

def keyTimerHandler (k : KeyCtrl) (level : Bool) : KeyCtrl :=
  if level then
    let begun := if k.pressed then k else { k with pressed := true, pressCount := 0 }
    { begun with pressCount := (begun.pressCount + 1) % 2 ^ 32 }
  else if k.pressed then
    { k with pressed := false, timer := false, sent := k.sent ++ keyEvent k.pressCount, pressCount := 0 }
  else k

inductive Event where
  | edge
  | poll (level : Bool)

/-- With what the polls saw, the latest first. -/
structure Run where
  key : KeyCtrl
  polls : List Bool

namespace Run

def start : Run := ⟨⟨false, 0, false, []⟩, []⟩

def step (run : Run) : Event → Run
  | .edge => { run with key.timer := true }
  | .poll level => if run.key.timer then ⟨keyTimerHandler run.key level, level :: run.polls⟩ else run

/-- The polls that saw the key pressed, back to the last that did not. -/
def streak (run : Run) : Nat := (run.polls.takeWhile id).length

end Run

end LL320D.FunKey
