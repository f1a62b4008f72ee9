import LL320D.Proofs.FlashStoreSession
import LL320D.Proofs.UploadExclusion

/-! The records of one kind as a ledger: a table, a flash region, an upload that hands records on, and the multisets of
what came in, was replaced and was sent. -/

namespace LL320D.BleScan
open FlashStore List

variable {full last : Bool} {io : FsIo} {i : Nat}

structure UploadProgress where
  seq : Nat
  consumed : Nat
  snap : Nat

def UploadProgress.rtIdx (p : UploadProgress) : Nat := p.seq - p.consumed

/-- The records of one kind, wherever they are. -/
@[ext] structure Ledger (α : Type) where
  table : List α
  store : FsState α
  progress : Option UploadProgress
  collected : Multiset α
  replaced : Multiset α
  sent : Multiset α
  ringFull : Bool

section

variable [Crc32Ieee] {α : Type} [Inhabited α]

inductive Pushes (g : FsLayout) : List α → FsState α → Bool → FsState α → Bool → Prop
  | nil (s : FsState α) (full : Bool) : Pushes g [] s full s full
  | cons {data : α} {items : List α} {s final : FsState α} {full last : Bool} (io : FsIo) (ok : io.Ok)
      (rest : Pushes g items (fsStep g io s (.push data)).2
        (full || (fsCall g io s (.push data)).effects.any FsEffect.isRingFull) final last) :
      Pushes g (data :: items) s full final last

/-- What may happen to them. -/
inductive Ledger.Step (g : FsLayout) : Ledger α → Ledger α → Prop
  | put (l : Ledger α) (record : α) (idle : l.progress = none) :
      Step g l { l with table := l.table ++ [record], collected := l.collected + {record} }
  | overwrite (l : Ledger α) {i : Nat} {old : α} (new : α) (here : l.table[i]? = some old)
      (unsent : ∀ p ∈ l.progress, p.rtIdx ≤ i) :
      Step g l { l with
        table := l.table.set i new, collected := l.collected + {new}, replaced := l.replaced + {old} }
  | flush (l : Ledger α) {items : List α} {final : FsState α} {full : Bool} (sorted : items.Perm l.table)
      (idle : l.progress = none) (pushes : Pushes g items l.store l.ringFull final full) :
      Step g l { l with table := [], store := final, ringFull := full }
  | begin (l : Ledger α) (io : FsIo) (idle : l.progress = none) :
      Step g l { l with
        store := (fsStep g io l.store .uploadBegin).2, progress := some ⟨0, 0, l.table.length⟩ }
  | sendFlash (l : Ledger α) {p : UploadProgress} {io : FsIo} {data : α} (going : l.progress = some p) (ok : io.ReadsOk)
      (read : (fsStep g io l.store .readNext).1 = .read (.record data)) :
      Step g l { l with
        store := (fsStep g io l.store .readNext).2
        progress := some { p with seq := p.seq + 1, consumed := p.consumed + 1 }
        sent := l.sent + {data} }
  | sendTable (l : Ledger α) {p : UploadProgress} {io : FsIo} (going : l.progress = some p) (ok : io.ReadsOk)
      (read : ∀ data, (fsStep g io l.store .readNext).1 ≠ .read (.record data)) (inside : p.rtIdx < p.snap) :
      Step g l { l with
        store := (fsStep g io l.store .readNext).2
        progress := some { p with seq := p.seq + 1 }
        sent := l.sent + {l.table.getD p.rtIdx default} }
  | finish (l : Ledger α) (last : FsIo) {p : UploadProgress} {io : FsIo} (going : l.progress = some p) (ok : io.ReadsOk)
      (read : ∀ data, (fsStep g io l.store .readNext).1 ≠ .read (.record data)) (outside : p.snap ≤ p.rtIdx) :
      Step g l { l with
        table := []
        store := (fsStep g last (fsStep g io l.store .readNext).2 .commit).2
        progress := none }

end

variable {α : Type} {g : FsLayout} {initial done : Multiset α} {l : Ledger α} {items : List α} {s final : FsState α}
  {record : α}

/-- The records that left the ledger were sent. During an upload those it has read from
flash and from the table are sent too, but still held. -/
inductive HandedOn (g : FsLayout) (l : Ledger α) (done : Multiset α) : Prop
  | idle (none : l.progress = none) (closed : l.store.rg.uploadActive = false) (sent : done ≤ l.sent)
  | going (read rest : List α) (idx : Nat) (some : l.progress = some ⟨read.length + idx, read.length, l.table.length⟩)
      (drains : Drains g l.store (read ++ rest) rest) (inside : idx ≤ l.table.length) (order : rest = [] ∨ idx = 0)
      (sent : done + read + l.table.take idx ≤ l.sent)

/-- No record is lost, and none comes from nowhere. -/
structure Accounted (g : FsLayout) (initial : Multiset α) (l : Ledger α) (done : Multiset α) : Prop where
  tidy : Tidy g l.store
  known : ∀ record ∈ l.sent, record ∈ initial + l.collected
  balance : initial + l.collected = l.table + (snapshot g l.store : Multiset α) + l.replaced + done
  handed : HandedOn g l done

lemma rtIdx_add (consumed idx snap : Nat) : (⟨consumed + idx, consumed, snap⟩ : UploadProgress).rtIdx = idx := by
  simp [UploadProgress.rtIdx]

lemma HandedOn.sent (handed : HandedOn g l done) : done ≤ l.sent := by
  cases handed with
  | idle _ _ sent => exact sent
  | going read _ idx _ _ _ _ sent =>
    refine le_trans ?_ sent
    rw [add_assoc]
    exact Multiset.le_add_right ..

lemma Accounted.held (accounted : Accounted g initial l done)
    (held : record ∈ l.table ∨ record ∈ snapshot g l.store) : record ∈ initial + l.collected := by
  rw [accounted.balance]
  rcases held with table | pending
  · simp [table]
  · simp [pending]

lemma Accounted.sends (accounted : Accounted g initial l done) {more : α}
    (held : more ∈ l.table ∨ more ∈ snapshot g l.store) : ∀ record ∈ l.sent + {more}, record ∈ initial + l.collected := by
  intro record member
  rcases Multiset.mem_add.mp member with before | new
  · exact accounted.known record before
  · rw [Multiset.mem_singleton.mp new]
    exact accounted.held held

lemma known_more {collected : Multiset α} (known : record ∈ initial + collected) (more : α) :
    record ∈ initial + (collected + {more}) := by
  rw [← add_assoc]
  exact Multiset.mem_add.mpr (.inl known)

lemma coe_set {old} (here : items[i]? = some old) (new : α) :
    (items.set i new : Multiset α) + {old} = items + {new} := by
  obtain ⟨inside, rfl⟩ := List.getElem?_eq_some_iff.mp here
  have changed : (items.set i new : Multiset α) = {new} + (items.eraseIdx i : Multiset α) :=
    Multiset.coe_eq_coe.mpr (set_perm_cons_eraseIdx inside new)
  have before : (items : Multiset α) = {items[i]} + (items.eraseIdx i : Multiset α) :=
    (Multiset.coe_eq_coe.mpr (getElem_cons_eraseIdx_perm inside)).symm
  rw [changed, before]
  abel

lemma Accounted.put (accounted : Accounted g initial l done) (idle : l.progress = none) (record : α) :
    Accounted g initial { l with table := l.table ++ [record], collected := l.collected + {record} } done := by
  refine ⟨accounted.tidy, fun sent member => known_more (accounted.known sent member) record, ?_, ?_⟩
  · calc initial + (l.collected + {record}) = initial + l.collected + {record} := (add_assoc ..).symm
      _ = l.table + (snapshot g l.store : Multiset α) + l.replaced + done + {record} := by rw [accounted.balance]
      _ = (l.table + {record}) + (snapshot g l.store : Multiset α) + l.replaced + done := by abel
      _ = _ := by rw [← Multiset.coe_singleton, Multiset.coe_add]
  · cases accounted.handed with
    | idle none closed sent => exact .idle none closed sent
    | going _ _ _ some => exact nomatch idle.symm.trans some

lemma Accounted.overwrite (accounted : Accounted g initial l done) {old} (here : l.table[i]? = some old)
    (unsent : ∀ p ∈ l.progress, p.rtIdx ≤ i) (new : α) :
    Accounted g initial { l with
      table := l.table.set i new, collected := l.collected + {new}, replaced := l.replaced + {old} } done := by
  refine ⟨accounted.tidy, fun sent member => known_more (accounted.known sent member) new, ?_, ?_⟩
  · calc initial + (l.collected + {new}) = initial + l.collected + {new} := (add_assoc ..).symm
      _ = l.table + (snapshot g l.store : Multiset α) + l.replaced + done + {new} := by rw [accounted.balance]
      _ = (l.table + {new}) + (snapshot g l.store : Multiset α) + l.replaced + done := by abel
      _ = ((l.table.set i new : Multiset α) + {old}) + (snapshot g l.store : Multiset α) + l.replaced + done := by
        rw [coe_set here]
      _ = (l.table.set i new : Multiset α) + (snapshot g l.store : Multiset α) + (l.replaced + {old}) + done := by abel
  · cases accounted.handed with
    | idle none closed sent => exact .idle none closed sent
    | going read rest idx some drains inside order sent =>
      have before : idx ≤ i := by
        have index := unsent _ some
        simpa [UploadProgress.rtIdx] using index
      refine .going read rest idx (by rw [length_set]; exact some) drains (by rw [length_set]; exact inside) order ?_
      have same : (l.table.set i new).take idx = l.table.take idx := by
        rw [take_set, set_eq_of_length_le]
        rw [length_take]
        omega
      rw [same]
      exact sent

variable [Crc32Ieee] [Inhabited α]

lemma Pushes.before (pushes : Pushes g items s full final last) (fits : last = false) : full = false := by
  induction pushes with
  | nil => exact fits
  | cons _ _ _ ih => exact (Bool.or_eq_false_iff.mp (ih fits)).1

lemma Pushes.pending (pushes : Pushes g items s full final last) (tidy : Tidy g s) (closed : s.rg.uploadActive = false)
    (fits : last = false) :
    Tidy g final ∧ final.rg.uploadActive = false ∧ snapshot g final = snapshot g s ++ items := by
  induction pushes with
  | nil => exact ⟨tidy, closed, (append_nil _).symm⟩
  | @cons data items s final full last io ok rest ih =>
    have silent := (Bool.or_eq_false_iff.mp (rest.before fits)).2
    obtain ⟨next, pending⟩ := tidy.push closed ok fun sector member => any_eq_false.mp silent _ member rfl
    obtain ⟨final, idle, all⟩ := ih next ((fsStep_active g io s _).trans closed) fits
    refine ⟨final, idle, ?_⟩
    rw [all, pending, append_assoc, singleton_append]

section

variable (accounted : Accounted g initial l done) {p : UploadProgress}
include accounted

lemma Accounted.flush {items : List α} {final}
    (sorted : items.Perm l.table) (idle : l.progress = none) (pushes : Pushes g items l.store l.ringFull final full)
    (fits : full = false) : Accounted g initial { l with table := [], store := final, ringFull := full } done := by
  cases accounted.handed with
  | going _ _ _ some => exact nomatch idle.symm.trans some
  | idle none closed sent =>
    obtain ⟨tidy, still, pending⟩ := pushes.pending accounted.tidy closed fits
    refine ⟨tidy, accounted.known, ?_, .idle none still sent⟩
    calc initial + l.collected = l.table + (snapshot g l.store : Multiset α) + l.replaced + done := accounted.balance
      _ = (items : Multiset α) + (snapshot g l.store : Multiset α) + l.replaced + done := by
        rw [Multiset.coe_eq_coe.mpr sorted]
      _ = 0 + ((snapshot g l.store : Multiset α) + items) + l.replaced + done := by abel
      _ = 0 + (snapshot g final : Multiset α) + l.replaced + done := by rw [pending, Multiset.coe_add]

lemma Accounted.begin (idle : l.progress = none) (io : FsIo) : Accounted g initial { l with
      store := (fsStep g io l.store .uploadBegin).2, progress := some ⟨0, 0, l.table.length⟩ } done := by
  cases accounted.handed with
  | going _ _ _ some => exact nomatch idle.symm.trans some
  | idle none closed sent =>
    refine ⟨accounted.tidy.begin io, accounted.known, accounted.balance, ?_⟩
    refine .going [] (snapshot g l.store) 0 rfl ?_ (Nat.zero_le _) (.inr rfl) ?_
    · exact Drains.begin accounted.tidy.rep io
    · simpa using sent

lemma Accounted.read {p} (going : l.progress = some p) (ok : io.ReadsOk) :
    ∃ (read rest : List α) (idx : Nat), p = ⟨read.length + idx, read.length, l.table.length⟩ ∧
      idx ≤ l.table.length ∧ (rest = [] ∨ idx = 0) ∧ done + read + l.table.take idx ≤ l.sent ∧
      (∀ record ∈ read ++ rest, record ∈ snapshot g l.store) ∧
      (fsStep g io l.store .readNext).1 = .read (.of rest.head?) ∧
      Drains g (fsStep g io l.store .readNext).2 (read ++ rest) rest.tail ∧
      Tidy g (fsStep g io l.store .readNext).2 ∧
      snapshot g (fsStep g io l.store .readNext).2 = snapshot g l.store := by
  cases accounted.handed with
  | idle none => exact nomatch none.symm.trans going
  | going read rest idx some drains inside order sent =>
    obtain ⟨answer, next⟩ := drains.readNext ok
    obtain ⟨tidy, pending⟩ := accounted.tidy.readNext drains.active ok
    have held : ∀ record ∈ read ++ rest, record ∈ snapshot g l.store := by
      intro record member
      rw [drains.pending]
      exact mem_append_left _ member
    exact ⟨read, rest, idx, Option.some.inj (going.symm.trans some), inside, order, sent, held, answer, next, tidy,
      pending⟩

lemma Accounted.sendFlash {p} (going : l.progress = some p)
    (ok : io.ReadsOk) {data} (found : (fsStep g io l.store .readNext).1 = .read (.record data)) :
    Accounted g initial { l with
      store := (fsStep g io l.store .readNext).2
      progress := some { p with seq := p.seq + 1, consumed := p.consumed + 1 }
      sent := l.sent + {data} } done := by
  obtain ⟨read, rest, idx, rfl, inside, order, sent, held, answer, next, tidy, pending⟩ := accounted.read going ok
  have first := FsAnswer.read.inj (answer.symm.trans found)
  cases rest with
  | nil => exact nomatch first
  | cons other rest =>
    obtain rfl : other = data := FsRead.record.inj first
    obtain rfl : idx = 0 := order.resolve_left nofun
    refine ⟨tidy, accounted.sends (.inr (held _ (by simp))), ?_, ?_⟩
    · simp only [pending]
      exact accounted.balance
    · refine .going (read ++ [other]) rest 0 ?_ ?_ inside (.inr rfl) ?_
      · simp
      · rw [append_assoc]
        exact next
      · rw [← Multiset.coe_add, Multiset.coe_singleton, ← add_assoc]
        simpa using sent

lemma Accounted.sendTable (going : l.progress = some p)
    (ok : io.ReadsOk) (empty : ∀ data, (fsStep g io l.store .readNext).1 ≠ .read (.record data))
    (within : p.rtIdx < p.snap) :
    Accounted g initial { l with
      store := (fsStep g io l.store .readNext).2
      progress := some { p with seq := p.seq + 1 }
      sent := l.sent + {l.table.getD p.rtIdx default} } done := by
  obtain ⟨read, rest, idx, rfl, inside, order, sent, held, answer, next, tidy, pending⟩ := accounted.read going ok
  cases rest with
  | cons data rest => exact absurd answer (empty data)
  | nil =>
    rw [rtIdx_add] at within ⊢
    have here : l.table.getD idx default = l.table[idx] := by
      rw [getD_eq_getElem?_getD, List.getElem?_eq_getElem within]
      rfl
    rw [here]
    refine ⟨tidy, accounted.sends (.inl (getElem_mem within)), ?_, ?_⟩
    · simp only [pending]
      exact accounted.balance
    · refine .going read [] (idx + 1) rfl next within (.inl rfl) ?_
      rw [take_succ_eq_append_getElem within, ← Multiset.coe_add, Multiset.coe_singleton, ← add_assoc]
      simpa using sent

lemma Accounted.finish (going : l.progress = some p)
    (ok : io.ReadsOk) (empty : ∀ data, (fsStep g io l.store .readNext).1 ≠ .read (.record data))
    (outside : p.snap ≤ p.rtIdx) (last : FsIo) :
    ∃ more, Accounted g initial { l with
      table := []
      store := (fsStep g last (fsStep g io l.store .readNext).2 .commit).2
      progress := none } more := by
  obtain ⟨read, rest, idx, rfl, inside, order, sent, held, answer, next, tidy, pending⟩ := accounted.read going ok
  cases rest with
  | cons data rest => exact absurd answer (empty data)
  | nil =>
    rw [rtIdx_add] at outside
    have whole := take_of_length_le outside
    obtain ⟨newer, before, after⟩ := next.commit last
    rw [pending, append_nil] at before
    rw [whole] at sent
    refine ⟨done + read + l.table, tidy.commit last, accounted.known, ?_, .idle rfl (fsStep_active ..) sent⟩
    calc initial + l.collected = l.table + (snapshot g l.store : Multiset α) + l.replaced + done := accounted.balance
      _ = l.table + ((read : Multiset α) + newer) + l.replaced + done := by rw [before, ← Multiset.coe_add]
      _ = 0 + (newer : Multiset α) + l.replaced + (done + read + l.table) := by abel
      _ = 0 + (snapshot g (fsStep g last (fsStep g io l.store .readNext).2 .commit).2 : Multiset α) + l.replaced +
          (done + read + l.table) := by rw [after]

end

def Sound (g : FsLayout) (initial : Multiset α) (l : Ledger α) : Prop :=
  l.ringFull = false → ∃ done, Accounted g initial l done

lemma Sound.step {next : Ledger α} (sound : Sound g initial l) (step : Ledger.Step g l next) : Sound g initial next := by
  intro fits
  cases step with
  | put record idle =>
    obtain ⟨done, accounted⟩ := sound fits
    exact ⟨done, accounted.put idle record⟩
  | overwrite new here unsent =>
    obtain ⟨done, accounted⟩ := sound fits
    exact ⟨done, accounted.overwrite here unsent new⟩
  | flush sorted idle pushes =>
    obtain ⟨done, accounted⟩ := sound (pushes.before fits)
    exact ⟨done, accounted.flush sorted idle pushes fits⟩
  | begin io idle =>
    obtain ⟨done, accounted⟩ := sound fits
    exact ⟨done, accounted.begin idle io⟩
  | sendFlash going ok found =>
    obtain ⟨done, accounted⟩ := sound fits
    exact ⟨done, accounted.sendFlash going ok found⟩
  | sendTable going ok empty within =>
    obtain ⟨done, accounted⟩ := sound fits
    exact ⟨done, accounted.sendTable going ok empty within⟩
  | finish last going ok empty outside =>
    obtain ⟨done, accounted⟩ := sound fits
    exact accounted.finish going ok empty outside last

lemma Sound.steps {next} (sound : Sound g initial l)
    (steps : Relation.ReflTransGen (Ledger.Step g) l next) : Sound g initial next := by
  induction steps with
  | refl => exact sound
  | tail _ step kept => exact kept.step step

end LL320D.BleScan
