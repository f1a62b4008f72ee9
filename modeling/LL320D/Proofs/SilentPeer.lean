import LL320D.Proofs.ScheduledUpgrade

/-! What becomes of a BLE session whose peer falls silent. The wait timer and its two work items end it after eleven
expiries, once one of them is under way; `START` takes the session without any of them. -/

namespace LL320D.Dfu
open Library

variable {io : FlashIo} {p : Packet} {event : PeerEvent}

namespace PeerEvent

def silent : PeerEvent → Bool
  | .command .. => false
  | _ => true

def isExpiry : PeerEvent → Bool
  | .timerExpires => true
  | _ => false

end PeerEvent

namespace Ota

def Guarded (s : Ota) : Prop := s.jimi.waitTimer = true ∨ s.jimi.retryWork = true ∨ s.jimi.timeoutWork = true

instance (s : Ota) : Decidable s.Guarded := inferInstanceAs (Decidable (_ ∨ _ ∨ _))

/-- The state after the first `n` events. -/
def after (s : Ota) (events : Nat → PeerEvent) : Nat → Ota
  | 0 => s
  | n + 1 => (s.after events n).stepPeer (events n)

/-- How often the wait timer expires in the first `n` steps. -/
def expiries (s : Ota) (events : Nat → PeerEvent) : Nat → Nat
  | 0 => 0
  | n + 1 => s.expiries events n + if (s.after events n).jimi.waitTimer && (events n).isExpiry then 1 else 0

structure Silence (s : Ota) (events : Nat → PeerEvent) : Prop where
  silent : ∀ n, (events n).silent = true
  timer : ∀ n, (s.after events n).jimi.waitTimer = true → ∃ m ≥ n, events m = .timerExpires
  retry : ∀ n, (s.after events n).jimi.retryWork = true → ∃ m ≥ n, events m = .retryWork
  timeout : ∀ n, (s.after events n).jimi.timeoutWork = true → ∃ m ≥ n, ∃ io, events m = .timeoutWork io

def Ends (s : Ota) (events : Nat → PeerEvent) : Prop :=
  ∃ due, (s.after events due).jimi.timeoutWork = true ∧ s.expiries events due ≤ 11 ∧
    ∃ closed > due, (s.after events closed).flash.busy = false ∧ (s.after events closed).bleHolds = false

def Attended (s : Ota) : Prop := s.bleHolds = true → s.Guarded ∧ ∀ events, s.Silence events → s.Ends events

/-- The session is exposed: `START` has taken it, and since then no command has started the timer or closed it; or a
part has made the copy leave the buffer. -/
def exposes (s : Ota) (exposed : Bool) : PeerEvent → Bool
  | .command cmd p percent io =>
    if cmd = dfuStart then
      if 10 ≤ percent ∧ s.flash.busy = false then decide (¬ s.Guarded) else exposed
    else if cmd = dfuFileSize ∨ cmd = dfuFileEnd then false
    else if cmd = dfuFileImage ∧ p.Passes s.jimi.reqFileAddr then
      decide ((s.flash.writeBlock io (fun i => p.data (8 + i)) p.imageLen).1.1 = .fault)
    else exposed
  | _ => exposed

structure Sane (s : Ota) : Prop where
  running : s.flash.overrun = false
  count : s.jimi.repeatReqCount ≤ 10
  holds : s.bleHolds = s.flash.busy

structure Kept (s : Ota) : Prop extends Sane s where
  guarded : s.bleHolds = true → s.Guarded

def Idle (s : Ota) : PeerEvent → Prop
  | .timerExpires => s.jimi.waitTimer = false
  | .retryWork => s.jimi.retryWork = false
  | .timeoutWork _ => s.jimi.timeoutWork = false
  | _ => True

inductive Waits (s : Ota) : PeerEvent → Ota → Prop where
  | idle (event : PeerEvent) (after : Ota) (idle : s.Idle event) (flash : after.flash = s.flash)
      (jimi : after.jimi = s.jimi) (holds : after.bleHolds = s.bleHolds) : Waits s event after
  | expired (timer : s.jimi.waitTimer = true) (more : s.jimi.repeatReqCount < 10) : Waits s .timerExpires
      { s with jimi := { s.jimi with
        waitTimer := false, repeatReqCount := s.jimi.repeatReqCount + 1, retryWork := true } }
  | gaveUp (timer : s.jimi.waitTimer = true) (last : s.jimi.repeatReqCount = 10) : Waits s .timerExpires
      { s with jimi := { s.jimi with waitTimer := false, repeatReqCount := 0, timeoutWork := true } }
  | retried (after : Ota) (retry : s.jimi.retryWork = true) (flash : after.flash = s.flash)
      (jimi : after.jimi = { s.jimi with retryWork := false, waitTimer := true }) (holds : after.bleHolds = s.bleHolds) :
    Waits s .retryWork after
  | timedOut (io : FlashIo) (after : Ota) (timeout : s.jimi.timeoutWork = true) (busy : after.flash.busy = false)
      (overrun : after.flash.overrun = s.flash.overrun) (jimi : after.jimi = { s.jimi with timeoutWork := false })
      (holds : after.bleHolds = false) : Waits s (.timeoutWork io) after

section

variable {s : Ota}

lemma stepPeer_waits (sane : s.Sane) (silent : event.silent = true) : s.Waits event (s.stepPeer event) := by
  have taken : ∀ event, s.step event = s.stepRunning event := fun _ => if_neg (ne_true_of_eq_false sane.running)
  cases event with
  | command => cases silent
  | disconnected => exact .idle _ _ trivial rfl rfl rfl
  | mtu mtu =>
    simp only [stepPeer]
    rw [taken]
    exact .idle _ _ trivial rfl rfl rfl
  | timerExpires =>
    simp only [stepPeer]
    rw [taken]
    simp only [stepRunning]
    by_cases timer : s.jimi.waitTimer = true
    case neg =>
      rw [if_neg timer]
      exact .idle _ _ (eq_false_of_ne_true timer) rfl rfl rfl
    rw [if_pos timer]
    have count := sane.count
    have next : (s.jimi.repeatReqCount + 1) % 2 ^ 8 = s.jimi.repeatReqCount + 1 := Nat.mod_eq_of_lt (by omega)
    simp only [timerWaitCallback, next]
    by_cases more : s.jimi.repeatReqCount + 1 ≤ 10
    · rw [if_pos more]
      exact .expired timer more
    · rw [if_neg more]
      exact .gaveUp timer (by omega)
  | retryWork =>
    simp only [stepPeer]
    rw [taken]
    simp only [stepRunning]
    by_cases retry : s.jimi.retryWork = true
    · rw [if_pos retry]
      exact .retried _ retry rfl rfl rfl
    · rw [if_neg retry]
      exact .idle _ _ (eq_false_of_ne_true retry) rfl rfl rfl
  | timeoutWork io =>
    simp only [stepPeer]
    rw [taken]
    simp only [stepRunning]
    by_cases timeout : s.jimi.timeoutWork = true
    · rw [if_pos timeout]
      exact .timedOut io _ timeout (s.flash.close_busy io false) (s.flash.close_overrun io false) rfl rfl
    · rw [if_neg timeout]
      exact .idle _ _ (eq_false_of_ne_true timeout) rfl rfl rfl

lemma Sane.silent (sane : s.Sane) (silent : event.silent = true) : (s.stepPeer event).Sane := by
  have waits := stepPeer_waits sane silent
  generalize s.stepPeer event = after at waits ⊢
  cases waits with
  | idle _ _ _ flash jimi holds =>
    refine ⟨flash ▸ sane.running, jimi ▸ sane.count, ?_⟩
    rw [holds, flash]
    exact sane.holds
  | expired _ more => exact ⟨sane.running, more, sane.holds⟩
  | gaveUp => exact ⟨sane.running, Nat.zero_le _, sane.holds⟩
  | retried _ _ flash jimi holds =>
    refine ⟨flash ▸ sane.running, ?_, ?_⟩
    · rw [jimi]
      exact sane.count
    · rw [holds, flash]
      exact sane.holds
  | timedOut _ _ _ busy overrun jimi holds =>
    refine ⟨overrun.trans sane.running, ?_, holds.trans busy.symm⟩
    rw [jimi]
    exact sane.count

lemma Waits.guarded {after : Ota} (waits : s.Waits event after) :
    (after.bleHolds = true ∧ ¬ after.Guarded) ↔ s.bleHolds = true ∧ ¬ s.Guarded := by
  cases waits with
  | idle _ _ _ _ jimi holds =>
    simp only [Guarded]
    rw [holds, jimi]
  | expired timer => exact iff_of_false (fun lost => lost.2 (.inr (.inl rfl))) (fun lost => lost.2 (.inl timer))
  | gaveUp timer => exact iff_of_false (fun lost => lost.2 (.inr (.inr rfl))) (fun lost => lost.2 (.inl timer))
  | retried _ retry _ jimi =>
    refine iff_of_false (fun lost => lost.2 (.inl ?_)) (fun lost => lost.2 (.inr (.inl retry)))
    rw [jimi]
  | timedOut _ _ timeout _ _ _ holds =>
    exact iff_of_false (fun lost => nomatch holds.symm.trans lost.1) (fun lost => lost.2 (.inr (.inr timeout)))

lemma Kept.silent (kept : s.Kept) (silent : event.silent = true) : (s.stepPeer event).Kept := by
  refine ⟨kept.toSane.silent silent, fun held => ?_⟩
  by_contra lost
  obtain ⟨held, unguarded⟩ := (stepPeer_waits kept.toSane silent).guarded.mp ⟨held, lost⟩
  exact unguarded (kept.guarded held)

end

section

variable {s : Ota} {events : Nat → PeerEvent}

lemma Kept.after (kept : s.Kept) (silence : s.Silence events) (n : Nat) : (s.after events n).Kept := by
  induction n with
  | zero => exact kept
  | succ n ih => exact ih.silent (silence.silent n)

lemma Silence.waits (silence : s.Silence events) (kept : s.Kept) (n : Nat) :
    (s.after events n).Waits (events n) (s.after events (n + 1)) :=
  stepPeer_waits (kept.after silence n).toSane (silence.silent n)

structure Still (s after : Ota) : Prop where
  held : after.bleHolds = true
  undecided : after.jimi.timeoutWork = false
  count : after.jimi.repeatReqCount = s.jimi.repeatReqCount
  timer : s.jimi.waitTimer = true → after.jimi.waitTimer = true

lemma Waits.still {after : Ota} (waits : s.Waits event after) (held : s.bleHolds = true)
    (undecided : s.jimi.timeoutWork = false) (other : s.jimi.waitTimer = true → event ≠ .timerExpires) :
    s.Still after := by
  cases waits with
  | idle _ _ _ _ jimi holds =>
    refine ⟨holds.trans held, ?_, ?_, ?_⟩
    · rw [jimi]
      exact undecided
    · rw [jimi]
    · rw [jimi]
      exact id
  | expired timer | gaveUp timer => exact absurd rfl (other timer)
  | retried _ _ _ jimi holds =>
    refine ⟨holds.trans held, ?_, ?_, ?_⟩
    · rw [jimi]
      exact undecided
    · rw [jimi]
    · rw [jimi]
      exact fun _ => rfl
  | timedOut _ _ timeout => exact nomatch undecided.symm.trans timeout

/-- The session is held and nothing is decided after `count` expiries in a row, of `total` so far. -/
structure Stands (s : Ota) (events : Nat → PeerEvent) (count total n : Nat) : Prop where
  held : (s.after events n).bleHolds = true
  undecided : (s.after events n).jimi.timeoutWork = false
  count : (s.after events n).jimi.repeatReqCount = count
  total : s.expiries events n = total

lemma expiries_other {n : Nat} (other : (s.after events n).jimi.waitTimer = true → events n ≠ .timerExpires) :
    s.expiries events (n + 1) = s.expiries events n := by
  simp only [expiries]
  by_cases timer : (s.after events n).jimi.waitTimer = true
  · have quiet : (events n).isExpiry = false := by
      cases event : events n with
      | timerExpires => exact absurd event (other timer)
      | _ => rfl
    rw [quiet, Bool.and_false]
    rfl
  · rw [eq_false_of_ne_true timer, Bool.false_and]
    rfl

lemma expiries_expired {n : Nat} (timer : (s.after events n).jimi.waitTimer = true) (expires : events n = .timerExpires) :
    s.expiries events (n + 1) = s.expiries events n + 1 := by
  simp only [expiries]
  rw [timer, expires]
  rfl

variable {count total n : Nat}

lemma Stands.next (stands : s.Stands events count total n) (silence : s.Silence events) (kept : s.Kept)
    (other : (s.after events n).jimi.waitTimer = true → events n ≠ .timerExpires) :
    s.Stands events count total (n + 1) ∧ (s.after events n).Still (s.after events (n + 1)) := by
  have still := (silence.waits kept n).still stands.held stands.undecided other
  exact ⟨⟨still.held, still.undecided, still.count.trans stands.count, (expiries_other other).trans stands.total⟩, still⟩

lemma Waits.expires {after : Ota} (waits : s.Waits .timerExpires after) (timer : s.jimi.waitTimer = true) :
    after.bleHolds = s.bleHolds ∧ (after.jimi.repeatReqCount = s.jimi.repeatReqCount + 1 ∧
        after.jimi.timeoutWork = s.jimi.timeoutWork ∨ s.jimi.repeatReqCount = 10 ∧ after.jimi.timeoutWork = true) := by
  cases waits with
  | idle _ _ idle => exact nomatch idle.symm.trans timer
  | expired => exact ⟨rfl, .inl ⟨rfl, rfl⟩⟩
  | gaveUp _ last => exact ⟨rfl, .inr ⟨last, rfl⟩⟩

lemma Waits.retries {after : Ota} (waits : s.Waits event after) (undecided : s.jimi.timeoutWork = false)
    (idle : s.jimi.waitTimer = false) (pending : s.jimi.retryWork = true) :
    (event = .retryWork → after.jimi.waitTimer = true) ∧
      (event ≠ .retryWork → after.jimi.waitTimer = false ∧ after.jimi.retryWork = true) := by
  cases waits with
  | idle _ _ free _ jimi =>
    refine ⟨?_, fun _ => ?_⟩
    · rintro rfl
      exact nomatch free.symm.trans pending
    · rw [jimi]
      exact ⟨idle, pending⟩
  | expired timer | gaveUp timer => exact nomatch idle.symm.trans timer
  | retried _ _ _ jimi => exact ⟨fun _ => by rw [jimi], fun other => absurd rfl other⟩
  | timedOut _ _ timeout => exact nomatch undecided.symm.trans timeout

lemma Stands.timer (stands : s.Stands events count total n) (silence : s.Silence events) (kept : s.Kept) :
    ∃ m ≥ n, s.Stands events count total m ∧ (s.after events m).jimi.waitTimer = true := by
  by_cases timer : (s.after events n).jimi.waitTimer = true
  · exact ⟨n, Nat.le_refl n, stands, timer⟩
  have retry : (s.after events n).jimi.retryWork = true := by
    rcases (kept.after silence n).guarded stands.held with running | retry | timeout
    · exact absurd running timer
    · exact retry
    · exact nomatch stands.undecided.symm.trans timeout
  have quiet : ∀ {k}, (s.after events k).jimi.waitTimer = false →
      (s.after events k).jimi.waitTimer = true → events k ≠ .timerExpires :=
    fun idle running => nomatch idle.symm.trans running
  obtain ⟨m, later, ⟨stands, idle, pending⟩, executed⟩ := lasts_until
    (fun k => s.Stands events count total k ∧ (s.after events k).jimi.waitTimer = false ∧
      (s.after events k).jimi.retryWork = true)
    (fun k => events k = .retryWork) ⟨stands, eq_false_of_ne_true timer, retry⟩
    (fun k _ ⟨stands, idle, pending⟩ other => ⟨(stands.next silence kept (quiet idle)).1,
      ((silence.waits kept k).retries stands.undecided idle pending).2 other⟩) (silence.retry n retry)
  refine ⟨m + 1, by omega, (stands.next silence kept (quiet idle)).1, ?_⟩
  exact ((silence.waits kept m).retries stands.undecided idle pending).1 executed

lemma Stands.expires (stands : s.Stands events count total n) (silence : s.Silence events) (kept : s.Kept) :
    ∃ m > n, s.expiries events m = total + 1 ∧
      (s.Stands events (count + 1) (total + 1) m ∨ (s.after events m).jimi.timeoutWork = true) := by
  obtain ⟨first, later, stands, timer⟩ := stands.timer silence kept
  obtain ⟨m, beyond, ⟨stands, timer⟩, expires⟩ := lasts_until
    (fun k => s.Stands events count total k ∧ (s.after events k).jimi.waitTimer = true)
    (fun k => events k = .timerExpires) ⟨stands, timer⟩
    (fun k _ ⟨stands, timer⟩ other =>
      have ⟨next, still⟩ := stands.next silence kept fun _ => other
      ⟨next, still.timer timer⟩) (silence.timer first timer)
  have total := (expiries_expired timer expires).trans (congrArg (· + 1) stands.total)
  refine ⟨m + 1, by omega, total, ?_⟩
  have waits := silence.waits kept m
  rw [expires] at waits
  obtain ⟨holds, ⟨count, undecided⟩ | ⟨-, due⟩⟩ := waits.expires timer
  · refine .inl ⟨holds.trans stands.held, undecided.trans stands.undecided, ?_, total⟩
    rw [count, stands.count]
  · exact .inr due

lemma Stands.due (left : Nat) : ∀ {count total n : Nat}, s.Stands events count total n → s.Silence events → s.Kept →
    count + left = 10 → ∃ due, (s.after events due).jimi.timeoutWork = true ∧ s.expiries events due ≤ total + left + 1 := by
  induction left with
  | zero =>
    intro count total n stands silence kept all
    obtain ⟨m, -, expired, stands | due⟩ := stands.expires silence kept
    · have most := (kept.after silence m).count
      rw [stands.count] at most
      omega
    · exact ⟨m, due, by omega⟩
  | succ left ih =>
    intro count total n stands silence kept all
    obtain ⟨m, -, expired, stands | due⟩ := stands.expires silence kept
    · obtain ⟨due, pending, most⟩ := ih stands silence kept (by omega)
      exact ⟨due, pending, by omega⟩
    · exact ⟨m, due, by omega⟩

lemma Waits.decided {after : Ota} (waits : s.Waits event after) (due : s.jimi.timeoutWork = true) :
    ((∃ io, event = .timeoutWork io) → after.flash.busy = false ∧ after.bleHolds = false) ∧
      ((¬ ∃ io, event = .timeoutWork io) → after.jimi.timeoutWork = true) := by
  cases waits with
  | idle _ _ free _ jimi =>
    refine ⟨?_, fun _ => ?_⟩
    · rintro ⟨io, rfl⟩
      exact nomatch free.symm.trans due
    · rw [jimi]
      exact due
  | expired => exact ⟨(fun ⟨_, same⟩ => nomatch same), fun _ => due⟩
  | gaveUp => exact ⟨(fun ⟨_, same⟩ => nomatch same), fun _ => rfl⟩
  | retried _ _ _ jimi =>
    refine ⟨(fun ⟨_, same⟩ => nomatch same), fun _ => ?_⟩
    rw [jimi]
    exact due
  | timedOut io _ _ busy _ _ holds => exact ⟨fun _ => ⟨busy, holds⟩, fun other => absurd ⟨io, rfl⟩ other⟩

lemma Kept.ends (kept : s.Kept) (held : s.bleHolds = true) (silence : s.Silence events) : s.Ends events := by
  have submitted : ∃ due, (s.after events due).jimi.timeoutWork = true ∧ s.expiries events due ≤ 11 := by
    by_cases decided : s.jimi.timeoutWork = true
    · exact ⟨0, decided, Nat.zero_le _⟩
    have most := kept.count
    obtain ⟨due, pending, expired⟩ := Stands.due (10 - s.jimi.repeatReqCount) (n := 0)
      ⟨held, eq_false_of_ne_true decided, rfl, rfl⟩ silence kept (by change s.jimi.repeatReqCount + _ = 10; omega)
    have none : s.expiries events 0 = 0 := rfl
    exact ⟨due, pending, by omega⟩
  obtain ⟨due, pending, expired⟩ := submitted
  obtain ⟨m, later, pending', executed⟩ := lasts_until (fun k => (s.after events k).jimi.timeoutWork = true)
    (fun k => ∃ io, events k = .timeoutWork io) pending
    (fun k _ pending other => ((silence.waits kept k).decided pending).2 other) (silence.timeout due pending)
  exact ⟨due, pending, expired, m + 1, by omega, ((silence.waits kept m).decided pending').1 executed⟩

lemma Kept.attended (kept : s.Kept) : s.Attended :=
  fun held => ⟨kept.guarded held, fun _ silence => kept.ends held silence⟩

end

variable {s : Ota}

lemma Kept.closed {after : Ota} (running : after.flash.overrun = false) (count : after.jimi.repeatReqCount ≤ 10)
    (busy : after.flash.busy = false) (holds : after.bleHolds = false) : after.Kept :=
  ⟨⟨running, count, holds.trans busy.symm⟩, fun held => nomatch holds.symm.trans held⟩

lemma bleStart_cases (s : Ota) (percent : Nat) :
    (¬ (10 ≤ percent ∧ s.flash.busy = false) ∧ (s.bleStart percent).flash = s.flash ∧
        (s.bleStart percent).jimi = s.jimi ∧ (s.bleStart percent).bleHolds = s.bleHolds) ∨
      (10 ≤ percent ∧ s.flash.busy = false) ∧ (s.bleStart percent).flash = { s.flash with busy := true } ∧
        (s.bleStart percent).jimi = s.jimi ∧ (s.bleStart percent).bleHolds = true := by
  simp only [bleStart]
  by_cases low : percent < 10
  · rw [if_pos low]
    exact .inl ⟨fun opens => absurd low (Nat.not_lt.mpr opens.1), rfl, rfl, rfl⟩
  rw [if_neg low]
  by_cases busy : s.flash.busy = true
  · rw [if_pos busy]
    exact .inl ⟨fun opens => (nomatch opens.2.symm.trans busy), rfl, rfl, rfl⟩
  · rw [if_neg busy]
    refine .inr ⟨⟨Nat.not_lt.mp low, eq_false_of_ne_true busy⟩, ?_, rfl, rfl⟩
    have occupied : s.flash.occupy = (true, { s.flash with busy := true }) := if_neg busy
    exact congrArg Prod.snd occupied

lemma Sane.takeFileSize (sane : s.Sane) (io) (fileSize : Nat) : (s.takeFileSize io fileSize).Kept := by
  have overrun := s.flash.openFile_overrun io fileSize
  have opens := s.flash.openFile_opens io fileSize
  simp only [Ota.takeFileSize]
  split
  · exact .closed ((s.flash.close_overrun io false).trans sane.running) sane.count (s.flash.close_busy io false) rfl
  generalize s.flash.openFile io fileSize = result at opens overrun ⊢
  cases opens with
  | refused =>
    have running := (s.flash.close_overrun io false).trans sane.running
    exact .closed running sane.count (s.flash.close_busy io false) rfl
  | failed erased =>
    have running := overrun.trans sane.running
    exact .closed ((erased.close_overrun io false).trans running) sane.count (erased.close_busy io false) rfl
  | opened erased busy _ _ same =>
    refine ⟨⟨overrun.trans sane.running, Nat.zero_le _, ?_⟩, fun _ => .inl rfl⟩
    exact (sane.holds.trans busy).trans (same.busy.trans busy).symm

lemma Sane.writeImage (sane : s.Sane) (passes : p.Passes s.jimi.reqFileAddr)
    (returns : (s.flash.writeBlock io (fun i => p.data (8 + i)) p.imageLen).1.1 ≠ .fault) : (s.writeImage io p).Kept := by
  simp only [Ota.writeImage]
  rw [if_neg (not_not_intro passes)]
  have running := (s.flash.writeBlock_overrun io returns).trans sane.running
  have taken := writeBlock_taken io s.flash (fun i => p.data (8 + i)) p.imageLen
  generalize s.flash.writeBlock io (fun i => p.data (8 + i)) p.imageLen = result at running taken returns ⊢
  obtain ⟨⟨ret, last⟩, flash⟩ := result
  cases ret with
  | fault => exact absurd rfl returns
  | err => exact .closed ((flash.close_overrun io false).trans running) sane.count (flash.close_busy io false) rfl
  | ok =>
    obtain ⟨done, -, -⟩ := taken last rfl
    cases last with
    | true => exact .closed ((flash.close_overrun io true).trans running) sane.count (flash.close_busy io true) rfl
    | false =>
      refine ⟨⟨running, Nat.zero_le _, ?_⟩, fun _ => .inl rfl⟩
      exact (sane.holds.trans done.opened).trans done.busy.symm

lemma Sane.faults (sane : s.Sane) (passes : p.Passes s.jimi.reqFileAddr)
    (fault : (s.flash.writeBlock io (fun i => p.data (8 + i)) p.imageLen).1.1 = .fault) :
    (s.writeImage io p).flash.overrun = true ∧ (s.writeImage io p).flash.busy = true ∧
      (s.writeImage io p).bleHolds = true := by
  simp only [Ota.writeImage]
  rw [if_neg (not_not_intro passes)]
  have writes := s.flash.writeBlock_writes io (fun i => p.data (8 + i)) p.imageLen
  generalize s.flash.writeBlock io (fun i => p.data (8 + i)) p.imageLen = result at writes fault ⊢
  obtain ⟨⟨ret, last⟩, flash⟩ := result
  cases fault
  cases writes with
  | fault busy => exact ⟨rfl, busy, sane.holds.trans busy⟩
  | flushed _ _ _ _ _ _ _ _ flushes => cases flushes

def inTurn (n : Nat) : PeerEvent :=
  match n % 3 with
  | 0 => .timerExpires
  | 1 => .retryWork
  | _ => .timeoutWork .good

lemma inTurn_silence (s : Ota) : s.Silence inTurn := by
  constructor
  · intro n
    simp only [inTurn]
    split <;> rfl
  · intro n _
    have rest : 3 * n % 3 = 0 := by omega
    exact ⟨3 * n, by omega, by simp only [inTurn, rest]⟩
  · intro n _
    have rest : (3 * n + 1) % 3 = 1 := by omega
    exact ⟨3 * n + 1, by omega, by simp only [inTurn, rest]⟩
  · intro n _
    have rest : (3 * n + 2) % 3 = 2 := by omega
    exact ⟨3 * n + 2, by omega, .good, by simp only [inTurn, rest]⟩

lemma not_attended_of_overrun (overrun : s.flash.overrun = true) (busy : s.flash.busy = true) (held : s.bleHolds = true) :
    ¬ s.Attended := by
  have still : ∀ event, s.step event = s := fun _ => if_pos overrun
  have stuck : ∀ n, s.after inTurn n = s := by
    intro n
    induction n with
    | zero => rfl
    | succ n ih =>
      simp only [Ota.after]
      rw [ih]
      simp only [inTurn]
      split <;> exact still _
  intro attended
  obtain ⟨_, _, _, closed, _, free, _⟩ := (attended held).2 inTurn s.inTurn_silence
  rw [stuck] at free
  cases free.symm.trans busy

end Ota

structure Watch where
  ota : Ota
  exposed : Bool

namespace Watch

def init (image : Image) (mtu : Nat) : Watch := { ota := Ota.init image mtu, exposed := false }

def step (w : Watch) (event : PeerEvent) : Watch where
  ota := w.ota.stepPeer event
  exposed := if w.ota.flash.overrun then w.exposed else w.ota.exposes w.exposed event

inductive Tracks (w : Watch) : Prop where
  | sane (sane : w.ota.Sane) (lost : w.exposed = true ↔ w.ota.bleHolds = true ∧ ¬ w.ota.Guarded)
  | fault (overrun : w.ota.flash.overrun = true) (busy : w.ota.flash.busy = true) (held : w.ota.bleHolds = true)
      (exposed : w.exposed = true)

variable {w : Watch}

lemma Tracks.attended_iff (tracks : w.Tracks) : w.ota.Attended ↔ w.exposed = false := by
  cases tracks with
  | fault overrun busy held exposed =>
    exact iff_of_false (Ota.not_attended_of_overrun overrun busy held) (fun free => nomatch free.symm.trans exposed)
  | sane sane lost =>
    rw [← Bool.not_eq_true, lost]
    constructor
    · exact fun attended lost => lost.2 (attended lost.1).1
    · intro safe
      exact Ota.Kept.attended ⟨sane, fun held => by_contra fun unguarded => safe ⟨held, unguarded⟩⟩

lemma Tracks.kept {exposed : Bool} {after : Ota} (kept : after.Kept) (safe : exposed = false) :
    Tracks { ota := after, exposed } :=
  .sane kept.toSane (iff_of_false (ne_true_of_eq_false safe) fun lost => lost.2 (kept.guarded lost.1))

lemma Tracks.command (sane : w.ota.Sane) (lost : w.exposed = true ↔ w.ota.bleHolds = true ∧ ¬ w.ota.Guarded)
    (cmd) (p) (percent : Nat) (io) :
    Tracks ⟨w.ota.dfuCmdHandler io cmd p percent, w.ota.exposes w.exposed (.command cmd p percent io)⟩ := by
  simp only [Ota.dfuCmdHandler, Ota.exposes]
  by_cases start : cmd = dfuStart
  · rw [if_pos start, if_pos start]
    obtain ⟨refused, flash, jimi, holds⟩ | ⟨opens, flash, jimi, holds⟩ := w.ota.bleStart_cases percent
    · rw [if_neg refused]
      refine .sane ⟨flash ▸ sane.running, jimi ▸ sane.count, ?_⟩ ?_
      · rw [holds, flash]
        exact sane.holds
      · simp only [Ota.Guarded]
        rw [holds, jimi]
        exact lost
    · rw [if_pos opens]
      refine .sane ⟨?_, jimi ▸ sane.count, ?_⟩ ?_
      · rw [flash]
        exact sane.running
      · rw [holds, flash]
      · simp only [Ota.Guarded]
        rw [holds, jimi, eq_self, true_and]
        exact decide_eq_true_iff
  rw [if_neg start, if_neg start]
  by_cases fileSize : cmd = dfuFileSize
  · rw [if_pos fileSize, if_pos (.inl fileSize)]
    exact .kept (sane.takeFileSize io _) rfl
  rw [if_neg fileSize]
  by_cases fileImage : cmd = dfuFileImage
  · have other : ¬ (cmd = dfuFileSize ∨ cmd = dfuFileEnd) := by
      rw [fileImage]
      decide
    rw [if_pos fileImage, if_neg other]
    by_cases passes : p.Passes w.ota.jimi.reqFileAddr
    · rw [if_pos ⟨fileImage, passes⟩]
      by_cases fault : (w.ota.flash.writeBlock io (fun i => p.data (8 + i)) p.imageLen).1.1 = .fault
      · obtain ⟨overrun, busy, held⟩ := sane.faults passes fault
        exact .fault overrun busy held (decide_eq_true fault)
      · exact .kept (sane.writeImage passes fault) (decide_eq_false fault)
    · rw [if_neg (fun both => passes both.2)]
      have ignored : w.ota.writeImage io p = w.ota := if_pos passes
      rw [ignored]
      exact .sane sane lost
  rw [if_neg fileImage]
  by_cases fileEnd : cmd = dfuFileEnd
  · rw [if_pos fileEnd, if_pos (.inr fileEnd)]
    refine .kept (.closed ?_ sane.count (w.ota.flash.close_busy io false) rfl) rfl
    exact (w.ota.flash.close_overrun io false).trans sane.running
  · rw [if_neg fileEnd, if_neg (not_or.mpr ⟨fileSize, fileEnd⟩), if_neg (fun both => fileImage both.1)]
    exact .sane sane lost

lemma Tracks.step (tracks : w.Tracks) (event) : (w.step event).Tracks := by
  cases tracks with
  | fault overrun busy held exposed =>
    have still : ∀ event, w.ota.step event = w.ota := fun _ => if_pos overrun
    have same : w.step event = w := by
      simp only [Watch.step]
      rw [if_pos overrun]
      cases event with
      | disconnected => rfl
      | _ => simp only [Ota.stepPeer, still]
    rw [same]
    exact .fault overrun busy held exposed
  | sane sane lost =>
    simp only [Watch.step]
    rw [if_neg (ne_true_of_eq_false sane.running)]
    by_cases silent : event.silent = true
    · have unchanged : w.ota.exposes w.exposed event = w.exposed := by
        cases event with
        | command => cases silent
        | _ => rfl
      rw [unchanged]
      exact .sane (sane.silent silent) (lost.trans (Ota.stepPeer_waits sane silent).guarded.symm)
    · cases event with
      | command cmd p percent io =>
        have taken : w.ota.stepPeer (.command cmd p percent io) = w.ota.dfuCmdHandler io cmd p percent :=
          if_neg (ne_true_of_eq_false sane.running)
        rw [taken]
        exact .command sane lost cmd p percent io
      | _ => exact absurd rfl silent

lemma ota_foldl (events : List PeerEvent) : ∀ w :
    Watch, (events.foldl step w).ota = events.foldl Ota.stepPeer w.ota := by
  induction events with
  | nil => exact fun _ => rfl
  | cons event events ih => exact fun w => ih (w.step event)

/-- In every state that the BLE front-end reaches, its session is attended exactly if it is not exposed. -/
theorem attended_iff_not_exposed (image : Image) (mtu : Nat) (events : List PeerEvent) :
    (events.foldl Ota.stepPeer (Ota.init image mtu)).Attended ↔ (events.foldl step (init image mtu)).exposed = false := by
  have tracks : (events.foldl step (init image mtu)).Tracks := by
    refine List.foldlRecOn events step ?_ fun w tracks event _ => tracks.step event
    exact .sane ⟨rfl, Nat.zero_le _, rfl⟩ (iff_of_false nofun fun lost => nomatch lost.1)
  have attended := tracks.attended_iff
  rw [ota_foldl] at attended
  exact attended

end Watch

namespace Ota

/-- `START`, and then nothing comes any more: no timer runs, no work item is pending, and the session stays occupied. -/
theorem start_then_silence :
    let s := (init (fun _ => 0xFF) 247).stepPeer (.command dfuStart emptyPacket 100 .good)
    s.bleHolds = true ∧ s.flash.busy = true ∧ ¬ s.Guarded ∧ ¬ s.Attended := by
  refine ⟨rfl, rfl, by decide, ?_⟩
  intro attended
  exact absurd (attended rfl).1 (by decide)

end Ota

end LL320D.Dfu
