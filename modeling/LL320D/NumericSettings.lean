import LL320D.LowPower

/-! The commands of `my_cmd_setting.c` that store numbers, with their answers and the part of `gConfigParam` they
write. -/

namespace LL320D.NumericSettings
open WorkMode LowPower

structure TimerConfig where
  flag : Nat
  intervalMin : Nat
  wakeupCellSw : Nat
  deriving DecidableEq

/-- `gConfigParam`; `workMode` also has the mode that runs. -/
structure State where
  patmTimerConfig : TimerConfig
  tempTimerConfig : TimerConfig
  lprunningConfig : LprunningConfig
  workMode : WorkMode.System
  deriving DecidableEq

def State.config (s : State) : TimerConfig × TimerConfig × LprunningConfig × Config :=
  (s.patmTimerConfig, s.tempTimerConfig, s.lprunningConfig, s.workMode.config)

inductive Command where
  | patmtimer (parm : List (List Char))
  | temptimer (parm : List (List Char))
  | lpsleep (parm : List (List Char))
  | modeset (parm : List (List Char))

def onOff (sw : Nat) : String := if sw ≠ 0 then "ON" else "OFF"

def timerParams : List (List Char) → Option TimerConfig
  | [intervalStr, swStr] => do
    let intervalMin := (← numeric intervalStr) % 2 ^ 16
    if ¬ (intervalMin = 0 ∨ 10 ≤ intervalMin ∧ intervalMin ≤ 1440) then none
    else
      let wakeupCellSw ← gnssSwitch swStr
      some { flag := flagValid, intervalMin, wakeupCellSw }
  | _ => none

def lprunningParams (old : LprunningConfig) : List (List Char) → Option LprunningConfig
  | [sw] =>
    if myStrcaseEq sw ['O', 'F', 'F'] then some { old with lprunningSw := 0 }
    else if myStrcaseEq sw ['O', 'N'] then some { old with lprunningSw := 1 }
    else none
  | [sw, thresholdStr, intervalStr] =>
    if myStrcaseEq sw ['O', 'N'] then System.lpsleepParams thresholdStr intervalStr else none
  | _ => none

def runBle : Nat → WorkMode.System → WorkMode.System
  | 0, s => s
  | n + 1, s =>
    match s.bleTodo with
    | [] => s
    | action :: rest => runBle n (s.bleAction rest action)

def invalidParam : String := "Set Fail! InvalidParam"

def handle (s : State) : Command → State × String
  | .patmtimer [] =>
    (s, "PATMTIMER:" ++ toString s.patmTimerConfig.intervalMin ++ "," ++ onOff s.patmTimerConfig.wakeupCellSw)
  | .patmtimer parm =>
    match timerParams parm with
    | some patmTimerConfig => ({ s with patmTimerConfig }, "Set OK!")
    | none => (s, invalidParam)
  | .temptimer [] =>
    (s, "TEMPTIMER:" ++ toString s.tempTimerConfig.intervalMin ++ "," ++ onOff s.tempTimerConfig.wakeupCellSw)
  | .temptimer parm =>
    match timerParams parm with
    | some tempTimerConfig => ({ s with tempTimerConfig }, "Set OK!")
    | none => (s, invalidParam)
  | .lpsleep [] =>
    (s, "LPSLEEP:" ++ onOff s.lprunningConfig.lprunningSw ++ "," ++ toString s.lprunningConfig.lprunningThreshold ++ "," ++
      toString s.lprunningConfig.lprunningInterval)
  | .lpsleep parm =>
    match lprunningParams s.lprunningConfig parm with
    | some lprunningConfig => ({ s with lprunningConfig }, "Set OK")
    | none => (s, invalidParam)
  | .modeset parm =>
    let workMode := runBle 8 { s.workMode with bleTodo := modesetCmdHandler parm, replies := [] }
    ({ s with workMode }, String.join (workMode.replies.map Reply.text))

/-- A numeric parameter: whether its value is in the range of the command, whether what a variable of `limit` values keeps
of it passes the handler's check, and the field that stores it. -/
structure Param where
  text : List Char
  inRange : Prop
  passes : Prop
  limit : Nat
  field : Option (State → Nat)
  holds : inRange → atoi text < limit

def Param.value (p : Param) : Nat := atoi p.text

def Param.of (text : List Char) (range : Nat → Prop) (limit : Nat) (field : Option (State → Nat))
    (holds : ∀ value, range value → value < limit) : Param :=
  ⟨text, range (atoi text), range (atoi text % limit), limit, field, holds (atoi text)⟩

def timerParam (field : State → TimerConfig) (text : List Char) : Param :=
  .of text (fun value => value = 0 ∨ 10 ≤ value ∧ value ≤ 1440) (2 ^ 16) (some fun s => (field s).intervalMin) (by grind)

def workmode (s : State) : DeviceConfig := s.workMode.config.workmodeConfig

def staticRange (sub value : Nat) : Prop :=
  value = 0 ∨ if sub ≤ 4 then 180 ≤ value ∧ value ≤ 3600 else 10 ≤ value ∧ value ≤ 86400

def movingRange (sub value : Nat) : Prop :=
  if sub = 0 ∨ sub = 1 ∨ sub = 3 then 180 ≤ value ∧ value ≤ 3600 else 10 ≤ value ∧ value ≤ 86400

def modeParams : Nat → List (List Char) → List Param
  | 0, [sec, dis] =>
    [.of sec (fun value => 5 ≤ value ∧ value ≤ 86400) (2 ^ 32)
        (some (workmode · |>.continuousTracking.reportingIntervalSec)) (by grind),
      .of dis (fun value => value = 0 ∨ 5 ≤ value ∧ value ≤ 1000) (2 ^ 32)
        (some (workmode · |>.continuousTracking.reportingIntervalDis)) (by grind)]
  | 1, [interval, _, _] =>
    [.of interval (fun value => 5 ≤ value ∧ value ≤ 1440) (2 ^ 16)
      (some (workmode · |>.longBattery.reportingIntervalMin)) (by grind)]
  | 2, [sub] => [.of sub (· ≤ 5) (2 ^ 32) (some (workmode · |>.intelligent.subMode)) (by grind)]
  | 2, [sub, static, moving] =>
    -- the ranges of the intervals depend on the sub mode, which is cut to 8 bits
    [.of sub (· ≤ 5) (2 ^ 8) (some (workmode · |>.intelligent.subMode)) (by grind),
      ⟨static, staticRange (atoi sub) (atoi static), staticRange (atoi sub % 2 ^ 8) (atoi static % 2 ^ 32), 2 ^ 32,
        some fun s => (workmode s).intelligent.staticInterval.getD (atoi sub) 0, by grind [staticRange]⟩,
      ⟨moving, movingRange (atoi sub) (atoi moving), movingRange (atoi sub % 2 ^ 8) (atoi moving % 2 ^ 32), 2 ^ 32,
        some fun s => (workmode s).intelligent.movingInterval.getD (atoi sub) 0, by grind [movingRange]⟩]
  | _, _ => []

def modeParam (field : Option (State → Nat)) (mode : List Char) : Param := .of mode (· ≤ 3) (2 ^ 32) field (by grind)

def Command.params : Command → List Param
  | .patmtimer [interval, _] => [timerParam State.patmTimerConfig interval]
  | .temptimer [interval, _] => [timerParam State.tempTimerConfig interval]
  | .lpsleep [_, threshold, interval] =>
    [.of threshold (fun value => 10 ≤ value ∧ value ≤ 50) (2 ^ 8) (some (·.lprunningConfig.lprunningThreshold)) (by grind),
      .of interval (fun value => 1 ≤ value ∧ value ≤ 48) (2 ^ 8) (some (·.lprunningConfig.lprunningInterval)) (by grind)]
  | .modeset [mode] => [modeParam (some (workmode · |>.currentMode.toNat)) mode]
  | .modeset (mode :: parm) => modeParam none mode :: modeParams (atoi mode) parm
  | _ => []

def OnOff (text : List Char) : Prop := myStrcaseEq text ['O', 'N'] ∨ myStrcaseEq text ['O', 'F', 'F']

/-- The time of day as `HHMM`, up to 2400. -/
def StartTime (text : List Char) : Prop :=
  text.length = 4 ∧ text.all Char.isDigit ∧ atoi text % 100 ≤ 59 ∧ atoi text ≤ 2400

/-- The parameters that are no numbers are what the command asks for. -/
def Command.Formed : Command → Prop
  | .patmtimer [_, sw] | .temptimer [_, sw] => OnOff sw
  | .lpsleep [sw, _, _] => myStrcaseEq sw ['O', 'N']
  | .modeset [_] => True
  | .modeset (mode :: parm) =>
    match atoi mode, parm with
    | 0, [_, _] | 2, [_] | 2, [_, _, _] => True
    | 1, [_, start, gnss] => StartTime start ∧ OnOff gnss
    | _, _ => False
  | _ => False

end LL320D.NumericSettings
