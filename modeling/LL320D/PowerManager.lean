import LL320D.Library.Machine

/-! The power management of one device, from `my_pm.c`. Each call is given what the callbacks and
`pm_device_runtime_get` and `pm_device_runtime_put` return; the gets that no put has taken back are counted. -/

namespace LL320D.Power

inductive DevId where
  | gsensor
  | lte
  | magneticUart
  | battery
  | ble
  | pwm
  deriving DecidableEq

/-- The device has a bus that `my_pm_…_resume` and `my_pm_…_suspend` switch: I2C21, one of the two UARTs, the ADC or the
PWM. -/
def DevId.hasBus : DevId → Bool
  | .ble => false
  | _ => true

def DevId.rollsBack : DevId → Bool
  | .battery => false
  | .ble => false
  | _ => true

inductive PmState where
  | notInit
  | suspended
  | resume
  deriving DecidableEq

/-- `pm_device_ops_t`: which of the callbacks are not `NULL`. -/
structure PmDeviceOps where
  suspend : Bool
  resume : Bool
  init : Bool
  deriving DecidableEq

/-- `s_pm_devices[dev_id]`, and the gets of its bus that are outstanding. -/
structure PmDevice where
  state : PmState
  ops : Option PmDeviceOps
  gets : Int
  deriving DecidableEq

def enodev : Int := 19
def einval : Int := 22
def enotsup : Int := 134

namespace PmDevice

def start : PmDevice := ⟨.notInit, none, 0⟩

/-- `my_pm_i2c21_resume` and the four functions like it. A device that is not found counts as a failed get. -/
def busResume (d : PmDevice) (get : Int) : Int × PmDevice :=
  if get < 0 then (get, d) else (0, { d with gets := d.gets + 1 })

def busSuspend (d : PmDevice) (put : Int) : Int × PmDevice :=
  if put < 0 then (put, d) else (0, { d with gets := d.gets - 1 })

structure Outcome where
  init : Int
  suspend : Int
  resume : Int
  get : Int
  put : Int
  deriving DecidableEq

variable (dev : DevId)

/-- The bus is switched on and off once, for a device whose `init` has succeeded. -/
def registerBus (d : PmDevice) (o : Outcome) : Int × PmDevice :=
  let (ret, got) := if dev.hasBus then d.busResume o.get else (-enotsup, d)
  if ret < 0 then (ret, { got with ops := none })
  else
    let (ret, put) := if dev.hasBus then got.busSuspend o.put else (-enotsup, got)
    if ret < 0 then (ret, { put with state := .notInit, ops := none })
    else (0, { put with state := .suspended })

def myPmDeviceRegister (d : PmDevice) (ops : Option PmDeviceOps) (o : Outcome) : Int × PmDevice :=
  match ops with
  | none => (-einval, d)
  | some callbacks =>
    let fresh := { d with state := .notInit, ops }
    if callbacks.init then
      if o.init < 0 then (o.init, { fresh with ops := none }) else fresh.registerBus dev o
    else (0, { fresh with state := .suspended })

def resumeRollback (d : PmDevice) (o : Outcome) : Int × PmDevice :=
  if dev.rollsBack then d.busSuspend o.put else (-enotsup, d)

def myPmDeviceResume (d : PmDevice) (o : Outcome) : Int × PmDevice :=
  match d.ops with
  | none => (-enodev, d)
  | some callbacks =>
    match d.state with
    | .resume => (0, d)
    | .notInit => (-einval, d)
    | .suspended =>
      if dev.hasBus then
        let (ret, got) := d.busResume o.get
        if ret < 0 then (ret, got)
        else if callbacks.resume ∧ o.resume < 0 then got.resumeRollback dev o
        else (0, { got with state := .resume })
      else (-enotsup, d)

def myPmDeviceSuspend (d : PmDevice) (o : Outcome) : Int × PmDevice :=
  match d.ops with
  | none => (-enodev, d)
  | some callbacks =>
    if d.state = .suspended then (0, d)
    else if callbacks.suspend ∧ o.suspend < 0 then (o.suspend, d)
    else
      let (ret, put) := if dev.hasBus then d.busSuspend o.put else (0, d)
      if ret < 0 then (ret, put) else (0, { put with state := .suspended })

inductive Call where
  | register (ops : Option PmDeviceOps) (outcome : Outcome)
  | resume (outcome : Outcome)
  | suspend (outcome : Outcome)
  deriving DecidableEq

def call (d : PmDevice) : Call → Int × PmDevice
  | .register ops outcome => d.myPmDeviceRegister dev ops outcome
  | .resume outcome => d.myPmDeviceResume dev outcome
  | .suspend outcome => d.myPmDeviceSuspend dev outcome

def step (d : PmDevice) (c : Call) : PmDevice := (d.call dev c).2

end PmDevice

end LL320D.Power
