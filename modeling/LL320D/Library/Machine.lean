import Mathlib

/-! Runs of deterministic machines. A machine is its step function; a run is the left fold of the step over the events.
-/

namespace LL320D.Library
open List

variable {σ τ ε ο : Type*}
  {events : List ε} {other assumed : σ → ε → Prop} {good : σ → Prop} {concrete : σ → ε → ο × σ} {abstract : τ → ε → ο × τ}

def Along (step : σ → ε → σ) (guard : σ → ε → Prop) : σ → List ε → Prop
  | _, [] => True
  | state, event :: rest => guard state event ∧ Along step guard (step state event) rest

section

variable {step : σ → ε → σ} {guard : σ → ε → Prop} (inv : σ → Prop) (state : σ)

@[simp] lemma along_nil : Along step guard state [] := trivial

@[simp] lemma along_cons (event : ε) (rest) :
    Along step guard state (event :: rest) ↔ guard state event ∧ Along step guard (step state event) rest := Iff.rfl

lemma along_append (first rest : List ε) : Along step guard state (first ++ rest) ↔
      Along step guard state first ∧ Along step guard (first.foldl step state) rest := by
  induction first generalizing state with
  | nil => simp
  | cons event first ih => simp [ih, and_assoc]

instance Along.decidable [∀ state event, Decidable (guard state event)] :
    ∀ state events, Decidable (Along step guard state events)
  | _, [] => .isTrue trivial
  | state, event :: rest =>
    have := Along.decidable (step state event) rest
    inferInstanceAs (Decidable (guard state event ∧ Along step guard (step state event) rest))

lemma Along.invariant {state} (kept : ∀ state event, inv state → guard state event → inv (step state event))
    (start : inv state) (guarded : Along step guard state events) : inv (events.foldl step state) := by
  induction events generalizing state with
  | nil => exact start
  | cons event events ih => exact ih (kept state event start guarded.1) guarded.2

lemma Along.imp {state} {events} (kept : ∀ state event, inv state → guard state event → inv (step state event))
    (implies : ∀ state event, inv state → guard state event → other state event)
    (start : inv state) (guarded : Along step guard state events) : Along step other state events := by
  induction events generalizing state with
  | nil => trivial
  | cons event events ih =>
    exact ⟨implies state event start guarded.1, ih (kept state event start guarded.1) guarded.2⟩

lemma along_congr_of {state} {events} (kept : ∀ state event, inv state → assumed state event → inv (step state event))
    (same : ∀ state event, inv state → assumed state event → (guard state event ↔ other state event)) (start : inv state)
    (along : Along step assumed state events) : Along step guard state events ↔ Along step other state events := by
  induction events generalizing state with
  | nil => exact Iff.rfl
  | cons event events ih =>
    exact and_congr (same state event start along.1) (ih (kept state event start along.1) along.2)

lemma along_of_forall {allowed : ε → Prop} {events} (all : ∀ event ∈ events, allowed event) (state : σ) :
    Along step (fun _ event => allowed event) state events := by
  induction events generalizing state with
  | nil => trivial
  | cons event events ih =>
    exact ⟨all event mem_cons_self, ih (fun _ member => all _ (mem_cons_of_mem _ member)) _⟩

lemma along_congr_on {allowed : ε → Prop} {state} {events}
    (kept : ∀ state event, inv state → allowed event → inv (step state event))
    (same : ∀ state event, inv state → allowed event → (guard state event ↔ other state event)) (start : inv state)
    (all : ∀ event ∈ events, allowed event) : Along step guard state events ↔ Along step other state events :=
  along_congr_of inv kept same start (along_of_forall all state)

lemma along_congr {state} {events} (kept : ∀ state event, inv state → inv (step state event))
    (same : ∀ state event, inv state → (guard state event ↔ other state event)) (start : inv state) :
    Along step guard state events ↔ Along step other state events :=
  along_congr_on inv (fun state event holds (_ : True) => kept state event holds)
    (fun state event holds _ => same state event holds) start (fun _ _ => trivial)

/-- A fact about each step is the same as a guard along a run, if it is in the states of an invariant that guarded steps
keep. -/
lemma along_iff_along {good : σ → ε → Prop} {state} {events}
    (kept : ∀ state event, inv state → guard state event → inv (step state event))
    (same : ∀ state event, inv state → (good state event ↔ guard state event)) (start : inv state) :
    Along step good state events ↔ Along step guard state events := by
  induction events generalizing state with
  | nil => exact Iff.rfl
  | cons event events ih =>
    constructor
    · intro along
      have guarded := (same state event start).mp along.1
      exact ⟨guarded, (ih (kept state event start guarded)).mp along.2⟩
    · intro along
      exact ⟨(same state event start).mpr along.1, (ih (kept state event start along.1)).mpr along.2⟩

lemma along_iff (inv good : σ → Prop) {state}
    (kept : ∀ state event, inv state → assumed state event → inv (step state event))
    (exact : ∀ state event, inv state → assumed state event → (good (step state event) ↔ good state ∧ guard state event))
    (start : inv state) (along : Along step assumed state events) :
    good (events.foldl step state) ↔ good state ∧ Along step guard state events := by
  induction events generalizing state with
  | nil => exact ⟨fun holds => ⟨holds, trivial⟩, And.left⟩
  | cons event events ih =>
    have here := exact state event start along.1
    have later := ih (kept state event start along.1) along.2
    exact later.trans ((and_congr_left' here).trans and_assoc)

def Always (step : σ → ε → σ) (good : σ → Prop) (state : σ) (events : List ε) : Prop :=
  ∀ n, good ((events.take n).foldl step state)

lemma always_cons (event : ε) (rest) :
    Always step good state (event :: rest) ↔ good state ∧ Always step good (step state event) rest := by
  constructor
  · intro always
    exact ⟨always 0, fun n => always (n + 1)⟩
  · intro always n
    cases n with
    | zero => exact always.1
    | succ n => exact always.2 n

/-- A property holds throughout exactly when every step meets the guard without which it is lost. -/
lemma always_iff_along_of {state} {events} (sound : ∀ state, inv state → good state)
    (kept : ∀ state event, inv state → assumed state event → guard state event → inv (step state event))
    (needed : ∀ state event, inv state → assumed state event → good (step state event) → guard state event)
    (start : inv state) (along : Along step assumed state events) :
    Always step good state events ↔ Along step guard state events := by
  induction events generalizing state with
  | nil => exact iff_of_true (fun n => by rw [take_nil]; exact sound state start) trivial
  | cons event events ih =>
    rw [always_cons, along_cons]
    constructor
    · intro always
      have guarded := needed state event start along.1 (always.2 0)
      exact ⟨guarded, (ih (kept state event start along.1 guarded) along.2).mp always.2⟩
    · intro guarded
      exact ⟨sound state start, (ih (kept state event start along.1 guarded.1) along.2).mpr guarded.2⟩

lemma along_true (events) : Along step (fun _ _ => True) state events := by
  induction events generalizing state with
  | nil => trivial
  | cons event events ih => exact ⟨trivial, ih _⟩

lemma along_of_kept {state} {events} (kept : ∀ state event, inv state → inv (step state event))
    (implies : ∀ state event, inv state → guard state event) (start : inv state) :
    Along step guard state events ∧ inv (events.foldl step state) := by
  have always : Along step (fun _ _ => True) state events := along_true state events
  exact ⟨Along.imp inv (fun state event holds _ => kept state event holds)
    (fun state event holds _ => implies state event holds) start always,
    Along.invariant inv (fun state event holds _ => kept state event holds) start always⟩

lemma always_iff_along {state} {events} (sound : ∀ state, inv state → good state)
    (kept : ∀ state event, inv state → guard state event → inv (step state event))
    (needed : ∀ state event, inv state → good (step state event) → guard state event) (start : inv state) :
    Always step good state events ↔ Along step guard state events :=
  always_iff_along_of inv sound (fun state event holds _ => kept state event holds)
    (fun state event holds _ => needed state event holds) start (along_true state events)

lemma Along.always {state} {events} (kept : ∀ state event, inv state → guard state event → inv (step state event))
    (start : inv state) (guarded : Along step guard state events) : Always step inv state events := by
  induction events generalizing state with
  | nil =>
    intro n
    rw [take_nil]
    exact start
  | cons event events ih => exact (always_cons state event events).mpr ⟨start, ih (kept state event start guarded.1) guarded.2⟩

end

lemma lasts_until (lasts happens : Nat → Prop) {n : Nat} (start : lasts n)
    (kept : ∀ k, n ≤ k → lasts k → ¬ happens k → lasts (k + 1)) (bound : ∃ m ≥ n, happens m) :
    ∃ m ≥ n, lasts m ∧ happens m := by
  by_contra never
  have always : ∀ d, lasts (n + d) := by
    intro d
    induction d with
    | zero => exact start
    | succ d ih =>
      refine kept (n + d) (Nat.le_add_right n d) ih ?_
      exact fun happened => never ⟨n + d, Nat.le_add_right n d, ih, happened⟩
  obtain ⟨m, later, happened⟩ := bound
  have held := always (m - n)
  rw [Nat.add_sub_cancel' later] at held
  exact never ⟨m, later, held, happened⟩

def execute (step : σ → ε → ο × σ) : σ → List ε → List ο × σ
  | state, [] => ([], state)
  | state, event :: rest =>
    let (answer, next) := step state event
    let (answers, final) := execute step next rest
    (answer :: answers, final)

/-- Forward simulation: if related states give the same answer and stay related
on every guarded event, then guarded runs give the same answers throughout. -/
lemma execute_simulates {guard : σ → ε → Prop}
    {related : σ → τ → Prop}
    (simulates : ∀ s t event, related s t → guard s event →
      (concrete s event).1 = (abstract t event).1 ∧ related (concrete s event).2 (abstract t event).2)
    {s} {t} (start : related s t) {events}
    (guarded : Along (fun s event => (concrete s event).2) guard s events) :
    (execute concrete s events).1 = (execute abstract t events).1 ∧
      related (execute concrete s events).2 (execute abstract t events).2 := by
  induction events generalizing s t with
  | nil => exact ⟨rfl, start⟩
  | cons event events ih =>
    obtain ⟨answer, next⟩ := simulates s t event start guarded.1
    obtain ⟨answers, final⟩ := ih next guarded.2
    exact ⟨by simp only [execute, answer, answers], final⟩

lemma execute_refines (related : σ → τ → Prop)
    (simulates : ∀ s t event, related s t →
      (concrete s event).1 = (abstract t event).1 ∧ related (concrete s event).2 (abstract t event).2)
    {s} {t} (start : related s t) (events) :
    (execute concrete s events).1 = (execute abstract t events).1 ∧
      related (execute concrete s events).2 (execute abstract t events).2 := by
  exact execute_simulates (fun s t event holds _ => simulates s t event holds) start (along_true s events)

variable {step : σ → ε → σ} {guard : σ → ε → Prop} {allowed : ε → Prop} {prompt : ε → Bool} {stage : Nat → σ → Prop}
  {output : σ → List ο} {script : List ο}

/-- A machine that plays a script: at stage `n` a prompt makes it put out entry `n`; other events change nothing of
that. -/
structure Plays (step : σ → ε → σ) (guard : σ → ε → Prop) (allowed : ε → Prop) (prompt : ε → Bool)
    (stage : Nat → σ → Prop) (output : σ → List ο) (script : List ο) : Prop where
  prompted : ∀ {n state event} (left : n < script.length), stage n state → allowed event → prompt event = true →
    guard state event ∧ stage (n + 1) (step state event) ∧ output (step state event) = output state ++ [script[n]]
  waits : ∀ {n state event}, stage n state → allowed event → prompt event = false →
    guard state event ∧ stage n (step state event) ∧ output (step state event) = output state

lemma Plays.run (plays : Plays step guard allowed prompt stage output script) {n : Nat} {state}
    (start : stage n state) (all : ∀ event ∈ events, allowed event) (fits : n + events.countP prompt ≤ script.length) :
    Along step guard state events ∧ stage (n + events.countP prompt) (events.foldl step state) ∧
      output (events.foldl step state) = output state ++ (script.drop n).take (events.countP prompt) := by
  induction events generalizing n state with
  | nil => exact ⟨trivial, start, by simp⟩
  | cons event events ih =>
    have here := all event mem_cons_self
    have later : ∀ event ∈ events, allowed event := fun _ member => all _ (mem_cons_of_mem _ member)
    cases prompts : prompt event with
    | true =>
      rw [countP_cons_of_pos prompts] at fits ⊢
      have left : n < script.length := by omega
      obtain ⟨guarded, next, put⟩ := plays.prompted left start here prompts
      obtain ⟨along, final, outputs⟩ := ih next later (by omega)
      rw [show n + (events.countP prompt + 1) = n + 1 + events.countP prompt by omega]
      refine ⟨⟨guarded, along⟩, final, outputs.trans ?_⟩
      rw [put, drop_eq_getElem_cons left, take_succ_cons, append_assoc, singleton_append]
    | false =>
      rw [countP_cons_of_neg (by rw [prompts]; exact Bool.false_ne_true)] at fits ⊢
      obtain ⟨guarded, next, put⟩ := plays.waits start here prompts
      obtain ⟨along, final, outputs⟩ := ih next later fits
      exact ⟨⟨guarded, along⟩, final, outputs.trans (by rw [put])⟩

end LL320D.Library
