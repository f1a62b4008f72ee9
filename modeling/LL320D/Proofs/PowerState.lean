import LL320D.PowerManager

/-! The state of a device against the gets of its bus that are outstanding, over every sequence of calls and
failures. -/

namespace LL320D.Power.PmDevice
open Library (Along)

def expected : PmState → Int
  | .resume => 1
  | _ => 0

structure Inv (dev : DevId) (d : PmDevice) : Prop where
  gets : d.gets = expected d.state
  registered : d.ops = none ↔ d.state = .notInit
  bus : d.state = .resume → dev.hasBus = true

structure Agrees (dev : DevId) (d : PmDevice) (c : Call) : Prop where
  gets : (d.step dev c).gets = expected (d.step dev c).state
  resume : ∀ outcome, c = .resume outcome → ((d.call dev c).1 = 0 ↔ (d.step dev c).state = .resume)
  suspend : ∀ outcome, c = .suspend outcome → ((d.call dev c).1 = 0 ↔ (d.step dev c).state = .suspended)

/-- A device that works is not registered again, and what a registration or a failed callback has switched on
is not left on or reported as a success. -/
def Guarded (dev : DevId) (d : PmDevice) : Call → Prop
  | .register none _ => True
  | .register (some callbacks) o =>
    d.state ≠ .resume ∧ ¬ (dev.hasBus = true ∧ callbacks.init = true ∧ 0 ≤ o.init ∧ 0 ≤ o.get ∧ o.put < 0)
  | .resume o =>
    ∀ callbacks ∈ d.ops, ¬ (dev.hasBus = true ∧ d.state = .suspended ∧ 0 ≤ o.get ∧ callbacks.resume = true ∧ o.resume < 0)
  | .suspend _ => True

section

variable {dev : DevId} {d : PmDevice} {callbacks : PmDeviceOps} {o : Outcome} (gets : Int)

lemma register_eq : (d.myPmDeviceRegister dev (some callbacks) o).2 =
    if callbacks.init = true ∧ (o.init < 0 ∨ dev.hasBus = false ∨ o.get < 0) then ⟨.notInit, none, d.gets⟩
    else if callbacks.init = true ∧ o.put < 0 then ⟨.notInit, none, d.gets + 1⟩
    else ⟨.suspended, some callbacks, d.gets⟩ := by
  unfold myPmDeviceRegister registerBus busResume busSuspend
  cases init : callbacks.init with
  | false => simp [init]
  | true =>
    by_cases noInit : o.init < 0
    · simp [init, noInit]
    · cases dev.hasBus with
      | false => simp [init, noInit, enotsup]
      | true =>
        by_cases noGet : o.get < 0
        · simp [init, noInit, noGet]
        · by_cases noPut : o.put < 0
          all_goals simp [init, noInit, noGet, noPut]

lemma resume_suspended : myPmDeviceResume dev ⟨.suspended, some callbacks, gets⟩ o =
    if dev.hasBus = false then (-enotsup, ⟨.suspended, some callbacks, gets⟩)
    else if o.get < 0 then (o.get, ⟨.suspended, some callbacks, gets⟩)
    else if callbacks.resume = true ∧ o.resume < 0 then
      if dev.rollsBack = false then (-enotsup, ⟨.suspended, some callbacks, gets + 1⟩)
      else if o.put < 0 then (o.put, ⟨.suspended, some callbacks, gets + 1⟩)
      else (0, ⟨.suspended, some callbacks, gets⟩)
    else (0, ⟨.resume, some callbacks, gets + 1⟩) := by
  unfold myPmDeviceResume resumeRollback busResume busSuspend
  cases dev.hasBus with
  | false => rfl
  | true =>
    by_cases noGet : o.get < 0
    · simp [noGet]
    · by_cases failed : callbacks.resume = true ∧ o.resume < 0
      · cases dev.rollsBack with
        | false => simp [noGet, failed]
        | true =>
          by_cases noPut : o.put < 0
          · simp [noGet, failed, noPut]
          · simp [noGet, failed, noPut]
      · simp [noGet, failed]

lemma suspend_resumed (bus : dev.hasBus = true) : myPmDeviceSuspend dev ⟨.resume, some callbacks, gets⟩ o =
    if callbacks.suspend = true ∧ o.suspend < 0 then (o.suspend, ⟨.resume, some callbacks, gets⟩)
    else if o.put < 0 then (o.put, ⟨.resume, some callbacks, gets⟩)
    else (0, ⟨.suspended, some callbacks, gets - 1⟩) := by
  unfold myPmDeviceSuspend busSuspend
  by_cases failed : callbacks.suspend = true ∧ o.suspend < 0
  · simp [failed]
  · by_cases noPut : o.put < 0
    · simp [failed, noPut, bus]
    · simp [failed, noPut, bus]

end

variable {dev : DevId} {d : PmDevice} {result : Int × PmDevice} {o : Outcome}

lemma Inv.cases (inv : d.Inv dev) : d = ⟨.notInit, none, 0⟩ ∨ (∃ callbacks, d = ⟨.suspended, some callbacks, 0⟩) ∨
      ∃ callbacks, d = ⟨.resume, some callbacks, 1⟩ ∧ dev.hasBus = true := by
  obtain ⟨gets, registered, bus⟩ := inv
  obtain ⟨state, ops, count⟩ := d
  cases state with
  | notInit =>
    cases registered.mpr rfl
    cases gets
    exact .inl rfl
  | suspended =>
    cases ops with
    | none => cases registered.mp rfl
    | some callbacks =>
      cases gets
      exact .inr (.inl ⟨callbacks, rfl⟩)
  | resume =>
    cases ops with
    | none => cases registered.mp rfl
    | some callbacks =>
      cases gets
      exact .inr (.inr ⟨callbacks, rfl, bus rfl⟩)

lemma inv_notInit : Inv dev ⟨.notInit, none, 0⟩ := ⟨rfl, iff_of_true rfl rfl, nofun⟩

lemma inv_suspended (callbacks) : Inv dev ⟨.suspended, some callbacks, 0⟩ := ⟨rfl, iff_of_false nofun nofun, nofun⟩

lemma inv_resume (callbacks) (bus : dev.hasBus = true) : Inv dev ⟨.resume, some callbacks, 1⟩ :=
  ⟨rfl, iff_of_false nofun nofun, fun _ => bus⟩

lemma register_agrees_iff (inv : d.Inv dev) (ops o) :
    (d.Agrees dev (.register ops o) ↔ d.Guarded dev (.register ops o)) ∧
      (d.Guarded dev (.register ops o) → (d.step dev (.register ops o)).Inv dev) := by
  cases ops with
  | none => exact ⟨iff_of_true ⟨inv.gets, nofun, nofun⟩ trivial, fun _ => inv⟩
  | some callbacks =>
    have only : d.Agrees dev (.register (some callbacks) o) ↔
        (d.step dev (.register (some callbacks) o)).gets = expected (d.step dev (.register (some callbacks) o)).state :=
      ⟨Agrees.gets, fun gets => ⟨gets, nofun, nofun⟩⟩
    have ends : d.step dev (.register (some callbacks) o) = _ := register_eq
    have idle : d.gets = 0 ↔ d.state ≠ .resume := by
      rw [inv.gets]
      cases d.state with
      | notInit | suspended => exact iff_of_true rfl nofun
      | resume => exact iff_of_false (by decide) fun other => other rfl
    have positive : 0 ≤ d.gets := by
      rw [inv.gets]
      cases d.state <;> decide
    rw [only, ends]
    unfold Guarded
    split
    next stops =>
      refine ⟨idle.trans ⟨fun other => ⟨other, ?_⟩, And.left⟩, fun guarded => ?_⟩
      · rintro ⟨bus, init, ok, got, -⟩
        rcases stops.2 with noInit | noBus | noGet
        · omega
        · rw [bus] at noBus
          cases noBus
        · omega
      · rw [idle.mpr guarded.1]
        exact inv_notInit
    next goes =>
      split
      next leaks =>
        have reached : dev.hasBus = true ∧ 0 ≤ o.init ∧ 0 ≤ o.get := by
          refine ⟨?_, ?_, ?_⟩
          · exact eq_true_of_ne_false fun noBus => goes ⟨leaks.1, .inr (.inl noBus)⟩
          · exact Int.not_lt.mp fun noInit => goes ⟨leaks.1, .inl noInit⟩
          · exact Int.not_lt.mp fun noGet => goes ⟨leaks.1, .inr (.inr noGet)⟩
        have leak := And.intro reached.1 (And.intro leaks.1 (And.intro reached.2.1 (And.intro reached.2.2 leaks.2)))
        refine ⟨iff_of_false ?_ fun guarded => guarded.2 leak, fun guarded => absurd leak guarded.2⟩
        change ¬ d.gets + 1 = 0
        omega
      next clean =>
        refine ⟨idle.trans ⟨fun other => ⟨other, ?_⟩, And.left⟩, fun guarded => ?_⟩
        · exact fun leak => clean ⟨leak.2.1, leak.2.2.2.2⟩
        · rw [idle.mpr guarded.1]
          exact inv_suspended callbacks

lemma agrees_resume_iff (ends : d.myPmDeviceResume dev o = result) :
    d.Agrees dev (.resume o) ↔ result.2.gets = expected result.2.state ∧ (result.1 = 0 ↔ result.2.state = .resume) := by
  subst ends
  exact ⟨fun agrees => ⟨agrees.gets, agrees.resume o rfl⟩, fun both => ⟨both.1, fun _ _ => both.2, nofun⟩⟩

lemma agrees_suspend_iff (ends : d.myPmDeviceSuspend dev o = result) : d.Agrees dev (.suspend o) ↔
      result.2.gets = expected result.2.state ∧ (result.1 = 0 ↔ result.2.state = .suspended) := by
  subst ends
  exact ⟨fun agrees => ⟨agrees.gets, agrees.suspend o rfl⟩, fun both => ⟨both.1, nofun, fun _ _ => both.2⟩⟩

lemma failed_ne_zero {ret : Int} (failed : ret < 0) : ret ≠ 0 := fun same => by
  rw [same] at failed
  exact absurd failed (by decide)

lemma enotsup_ne_zero : -enotsup ≠ 0 := by decide

lemma enodev_ne_zero : -enodev ≠ 0 := by decide

lemma resume_suspended_agrees_iff (callbacks : PmDeviceOps) (o : Outcome) :
    (Agrees dev ⟨.suspended, some callbacks, 0⟩ (.resume o) ↔
      ¬ (dev.hasBus = true ∧ 0 ≤ o.get ∧ callbacks.resume = true ∧ o.resume < 0)) ∧
    (¬ (dev.hasBus = true ∧ 0 ≤ o.get ∧ callbacks.resume = true ∧ o.resume < 0) →
      (step dev ⟨.suspended, some callbacks, 0⟩ (.resume o)).Inv dev) := by
  obtain ⟨result, ends⟩ : ∃ result, myPmDeviceResume dev ⟨.suspended, some callbacks, 0⟩ o = result := ⟨_, rfl⟩
  have moves : step dev ⟨.suspended, some callbacks, 0⟩ (.resume o) = result.2 := congrArg Prod.snd ends
  rw [agrees_resume_iff ends, moves]
  rw [resume_suspended] at ends
  by_cases noBus : dev.hasBus = false
  · rw [if_pos noBus] at ends
    subst ends
    refine ⟨iff_of_true ⟨rfl, iff_of_false enotsup_ne_zero nofun⟩ ?_, fun _ => inv_suspended callbacks⟩
    exact fun failed => Bool.false_ne_true (noBus.symm.trans failed.1)
  have bus := eq_true_of_ne_false noBus
  rw [if_neg noBus] at ends
  by_cases noGet : o.get < 0
  · rw [if_pos noGet] at ends
    subst ends
    refine ⟨iff_of_true ⟨rfl, iff_of_false (failed_ne_zero noGet) nofun⟩ ?_, fun _ => inv_suspended callbacks⟩
    exact fun failed => Int.not_le.mpr noGet failed.2.1
  rw [if_neg noGet] at ends
  by_cases failed : callbacks.resume = true ∧ o.resume < 0
  · have fails := And.intro bus (And.intro (Int.not_lt.mp noGet) failed)
    rw [if_pos failed] at ends
    refine ⟨iff_of_false ?_ fun guarded => guarded fails, fun guarded => absurd fails guarded⟩
    -- The bus is still on, or the rollback has overwritten the result of the callback.
    split at ends
    · subst ends
      exact fun agrees => (by decide : (0 : Int) + 1 ≠ 0) agrees.1
    · split at ends
      · subst ends
        exact fun agrees => (by decide : (0 : Int) + 1 ≠ 0) agrees.1
      · subst ends
        exact fun agrees => nomatch agrees.2.mp rfl
  · rw [if_neg failed] at ends
    subst ends
    exact ⟨iff_of_true ⟨rfl, iff_of_true rfl rfl⟩ fun fails => failed fails.2.2, fun _ => inv_resume callbacks bus⟩

lemma resume_agrees_iff (inv : d.Inv dev) (o) :
    (d.Agrees dev (.resume o) ↔ d.Guarded dev (.resume o)) ∧
      (d.Guarded dev (.resume o) → (d.step dev (.resume o)).Inv dev) := by
  rcases inv.cases with rfl | ⟨callbacks, rfl⟩ | ⟨callbacks, rfl, bus⟩
  · refine ⟨iff_of_true ?_ nofun, fun _ => inv⟩
    exact (agrees_resume_iff rfl).mpr ⟨rfl, iff_of_false enodev_ne_zero nofun⟩
  · have only : Guarded dev ⟨.suspended, some callbacks, 0⟩ (.resume o) ↔
        ¬ (dev.hasBus = true ∧ 0 ≤ o.get ∧ callbacks.resume = true ∧ o.resume < 0) := by
      constructor
      · exact fun guarded fails => guarded callbacks rfl ⟨fails.1, rfl, fails.2⟩
      · rintro guarded other same ⟨bus, -, fails⟩
        cases same
        exact guarded ⟨bus, fails⟩
    rw [only]
    exact resume_suspended_agrees_iff callbacks o
  · refine ⟨iff_of_true ((agrees_resume_iff rfl).mpr ⟨rfl, iff_of_true rfl rfl⟩) ?_, fun _ => inv⟩
    rintro other - ⟨-, state, -⟩
    cases state

lemma suspend_agrees (inv : d.Inv dev) (o) :
    d.Agrees dev (.suspend o) ∧ (d.step dev (.suspend o)).Inv dev := by
  rcases inv.cases with rfl | ⟨callbacks, rfl⟩ | ⟨callbacks, rfl, bus⟩
  · exact ⟨(agrees_suspend_iff rfl).mpr ⟨rfl, iff_of_false enodev_ne_zero nofun⟩, inv⟩
  · exact ⟨(agrees_suspend_iff rfl).mpr ⟨rfl, iff_of_true rfl rfl⟩, inv⟩
  · obtain ⟨result, ends⟩ : ∃ result, myPmDeviceSuspend dev ⟨.resume, some callbacks, 1⟩ o = result := ⟨_, rfl⟩
    have moves : step dev ⟨.resume, some callbacks, 1⟩ (.suspend o) = result.2 := congrArg Prod.snd ends
    rw [agrees_suspend_iff ends, moves]
    rw [suspend_resumed 1 bus] at ends
    split at ends
    next failed =>
      subst ends
      exact ⟨⟨rfl, iff_of_false (failed_ne_zero failed.2) nofun⟩, inv⟩
    · split at ends
      next noPut =>
        subst ends
        exact ⟨⟨rfl, iff_of_false (failed_ne_zero noPut) nofun⟩, inv⟩
      · subst ends
        exact ⟨⟨rfl, iff_of_true rfl rfl⟩, inv_suspended callbacks⟩

lemma agrees_iff_guarded (inv : d.Inv dev) (c) :
    (d.Agrees dev c ↔ d.Guarded dev c) ∧ (d.Guarded dev c → (d.step dev c).Inv dev) := by
  cases c with
  | register ops o => exact register_agrees_iff inv ops o
  | resume o => exact resume_agrees_iff inv o
  | suspend o =>
    obtain ⟨agrees, after⟩ := suspend_agrees inv o
    exact ⟨iff_of_true agrees trivial, fun _ => after⟩

theorem power_state_agrees_iff (dev : DevId) (calls : List Call) :
    Along (step dev) (Agrees dev) start calls ↔ Along (step dev) (Guarded dev) start calls :=
  Library.along_iff_along (Inv dev) (fun _ c inv => (agrees_iff_guarded inv c).2) (fun _ c inv => (agrees_iff_guarded inv c).1)
    inv_notInit

def allOps : PmDeviceOps := ⟨true, true, true⟩

def succeeds : Outcome := ⟨0, 0, 0, 0, 0⟩

/-- The resume callback of the LTE module fails: the call returns 0, and the device stays suspended. -/
theorem failed_resume_returns_zero :
    let registered := start.step .lte (.register (some allOps) succeeds)
    let failed : Call := .resume { succeeds with resume := -5 }
    (registered.call .lte failed).1 = 0 ∧ (registered.step .lte failed).state = .suspended ∧
      ¬ Along (step .lte) (Agrees .lte) start [.register (some allOps) succeeds, failed] := by
  refine ⟨by decide, by decide, fun along => ?_⟩
  exact absurd ((along.2.1.resume _ rfl).mp (by decide)) (by decide)

end LL320D.Power.PmDevice
