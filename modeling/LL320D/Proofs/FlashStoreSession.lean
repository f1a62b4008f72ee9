import LL320D.Proofs.FlashStoreSafety

/-! An upload session reads exactly the records that were pending when it began,
however pushes are interleaved with the reads. -/

namespace LL320D.FlashStore
open Library List FsSlot FsView

variable {α : Type} {s : FsState α}

def FsSlot.valid (slot : FsSlot α) : Bool := slot.magic = fsRecMagic

def records (slots : List (FsSlot α)) : List α := (slots.filter FsSlot.valid).map FsSlot.data

lemma records_marked (items : List α) : records (items.map fsMarked) = items := by
  simp [records, filter_map, Function.comp_def, valid, fsMarked]

lemma scan_records (slots : List (FsSlot α)) :
    (scan slots).1 = (records slots).head? ∧ records (slots.drop (scan slots).2) = (records slots).tail := by
  induction slots with
  | nil => exact ⟨rfl, rfl⟩
  | cons slot slots ih =>
    by_cases valid : slot.magic = fsRecMagic
    · simp [scan, records, FsSlot.valid, valid]
    · have skipped : records (slot :: slots) = records slots := by simp [records, FsSlot.valid, valid]
      simp only [scan, ne_eq, valid, not_false_eq_true, if_true, skipped, drop_succ_cons]
      exact ih

def FsRead.of : Option α → FsRead α
  | some data => .record data
  | none => .empty

namespace FsView

/-- What a session has still to return. -/
def unread (v : FsView α) : List α :=
  records (v.flash.drop v.readOffset) ++ ((v.staged.take v.uploadStagingSnap).drop v.stagingReadIdx).map FsSlot.data

def session (v : FsView α) : List α := records v.flash ++ (v.staged.take v.uploadStagingSnap).map FsSlot.data

variable {g : FsLayout} {v : FsView α}

lemma unread_read (v : FsView α) :
    v.readOpened.1 = FsRead.of v.unread.head? ∧ v.readOpened.2.unread = v.unread.tail := by
  obtain ⟨first, rest⟩ := scan_records (v.flash.drop v.readOffset)
  rw [drop_drop] at rest
  rw [readOpened, unread]
  rcases found : scan (v.flash.drop v.readOffset) with ⟨_ | data, passed⟩
  · simp only [found] at first rest
    have none : records (v.flash.drop v.readOffset) = [] := List.head?_eq_none_iff.mp first.symm
    rw [none, tail_nil] at rest
    rw [none, nil_append, List.head?_map, List.head?_drop, ← map_tail, tail_drop]
    cases slot : (v.staged.take v.uploadStagingSnap)[v.stagingReadIdx]? with
    | some slot => exact ⟨rfl, by simp [unread, rest]⟩
    | none =>
      refine ⟨rfl, ?_⟩
      have past := List.getElem?_eq_none_iff.mp slot
      simp only [unread, rest, nil_append]
      rw [drop_eq_nil_of_le past, drop_eq_nil_of_le (Nat.le_succ_of_le past)]
  · simp only [found] at first rest
    obtain ⟨later, split⟩ := List.head?_eq_some_iff.mp first.symm
    rw [split, tail_cons] at rest
    rw [split]
    exact ⟨rfl, by simp [unread, rest]⟩

lemma readOpened_active (v : FsView α) : v.readOpened.2.uploadActive = v.uploadActive := by
  unfold readOpened
  split
  · rfl
  · split <;> rfl

lemma readOpened_same (v : FsView α) : v.readOpened.2.flash = v.flash ∧ v.readOpened.2.staged = v.staged ∧
    v.readOpened.2.uploadStagingSnap = v.uploadStagingSnap := by
  unfold readOpened
  split
  · exact ⟨rfl, rfl, rfl⟩
  · split <;> exact ⟨rfl, rfl, rfl⟩

lemma push_active (v : FsView α) (data : α) : (v.push g data).2.uploadActive = v.uploadActive := by
  unfold push
  split
  · rfl
  · split <;> rfl

lemma unread_push (active : v.uploadActive = true) (snap : v.uploadStagingSnap ≤ v.staged.length) (data : α) :
    (v.push g data).2.unread = v.unread := by
  by_cases refused : v.uploadActive ∧ g.recPerSector ≤ v.staged.length
  · simp only [push, if_pos refused]
  · simp only [push, if_neg refused, if_pos (Or.inl active), unread, take_append_of_le_length snap]

lemma session_read (v : FsView α) : v.readOpened.2.session = v.session := by
  obtain ⟨flash, staged, snap⟩ := v.readOpened_same
  rw [session, flash, staged, snap, session]

lemma session_push (active : v.uploadActive = true) (snap : v.uploadStagingSnap ≤ v.staged.length) (data : α) :
    (v.push g data).2.session = v.session := by
  by_cases refused : v.uploadActive ∧ g.recPerSector ≤ v.staged.length
  · simp only [push, if_pos refused]
  · simp only [push, if_neg refused, if_pos (Or.inl active), session, take_append_of_le_length snap]

end FsView

def snapshot (g : FsLayout) (s : FsState α) : List α := records (flashSlots g s) ++ (stagedSlots s.rg).map FsSlot.data

/-- Unacknowledged flash slots whose magic byte is not `FS_REC_MAGIC`. -/
def badSlots (g : FsLayout) (s : FsState α) : Nat := (flashSlots g s).countP fun slot => slot.magic ≠ fsRecMagic

lemma snapshot_length {g} (inv : RingInv g s.rg) :
    (snapshot g s).length + badSlots g s = myFlashStorePendingCount g s.rg := by
  have split := (flashSlots g s).length_eq_countP_add_countP valid
  simp only [valid, decide_eq_true_eq] at split
  rw [pendingCount_eq inv, snapshot, badSlots, length_append, length_map, records, length_map,
    ← countP_eq_length_filter]
  simp only [ne_eq]
  omega

structure InSession (g : FsLayout) (s : FsState α) (rest : List α) : Prop where
  rep : RepInv g s.rg
  active : s.rg.uploadActive = true
  unread : (viewOf g s).unread = rest

section

variable [Crc32Ieee] [Inhabited α] {g : FsLayout} {io : FsIo} {s : FsState α} {rest : List α}

lemma readNext_slots (rep : RepInv g s.rg) (active : s.rg.uploadActive = true) (ok : io.ReadsOk) :
    flashSlots g (fsStep g io s .readNext).2 = flashSlots g s ∧
    stagedSlots (fsStep g io s .readNext).2.rg = stagedSlots s.rg ∧
    (fsStep g io s .readNext).2.rg.uploadStagingSnap = s.rg.uploadStagingSnap := by
  obtain ⟨_, view⟩ := view_session ok rep active (.inl rfl)
  have opened : (viewOf g s).opened = viewOf g s := if_pos active
  simp only [step, opened] at view
  have same := (viewOf g s).readOpened_same
  rw [← view] at same
  exact same

lemma commit_slots (rep : RepInv g s.rg) (io) :
    flashSlots g (fsStep g io s .commit).2 = (flashSlots g s).drop s.rg.readOffset ∧
    stagedSlots (fsStep g io s .commit).2.rg = (stagedSlots s.rg).drop s.rg.stagingReadIdx :=
  ⟨congrArg flash (view_commit io rep), congrArg staged (view_commit io rep)⟩

lemma InSession.begin (inv : RepInv g s.rg) (io) : InSession g (fsStep g io s .uploadBegin).2 (snapshot g s) := by
  refine ⟨inv.call io .uploadBegin, rfl, ?_⟩
  have all : (stagedSlots s.rg).take s.rg.stagingCount = stagedSlots s.rg := take_of_length_le (by simp)
  change records ((flashSlots g s).drop 0) ++ (((stagedSlots s.rg).take s.rg.stagingCount).drop 0).map data = _
  rw [all, drop_zero, drop_zero, snapshot]

lemma InSession.readNext (session : InSession g s rest) (ok : io.ReadsOk) :
    (fsStep g io s .readNext).1 = .read (.of rest.head?) ∧ InSession g (fsStep g io s .readNext).2 rest.tail := by
  obtain ⟨rep, active, rfl⟩ := session
  obtain ⟨answer, view⟩ := view_session ok rep active (.inl rfl)
  obtain ⟨first, later⟩ := (viewOf g s).unread_read
  have opened : (viewOf g s).opened = viewOf g s := if_pos active
  simp only [step, opened] at answer view
  refine ⟨answer.trans (congrArg FsAnswer.read first), rep.call io .readNext, ?_, ?_⟩
  · exact (congrArg uploadActive view).trans ((viewOf g s).readOpened_active.trans active)
  · rw [view, later]

lemma InSession.push (session : InSession g s rest) (ok : io.ReadsOk) (data : α) :
    InSession g (fsStep g io s (.push data)).2 rest := by
  obtain ⟨rep, active, rfl⟩ := session
  obtain ⟨_, view⟩ := view_session ok rep active (.inr ⟨data, rfl⟩)
  have snap : (viewOf g s).uploadStagingSnap ≤ (viewOf g s).staged.length := by
    simpa [viewOf] using rep.uploadStagingSnap
  refine ⟨rep.call io (.push data), ?_, ?_⟩
  · exact (congrArg uploadActive view).trans (((viewOf g s).push_active data).trans active)
  · rw [view]
    exact unread_push active snap data

/-- A session over the records `all`, of which `rest` are not read yet. -/
structure Drains (g : FsLayout) (s : FsState α) (all rest : List α) : Prop extends InSession g s rest where
  covers : (viewOf g s).session = all

lemma Drains.begin (inv : RepInv g s.rg) (io) :
    Drains g (fsStep g io s .uploadBegin).2 (snapshot g s) (snapshot g s) := by
  refine ⟨InSession.begin inv io, ?_⟩
  have all : (stagedSlots s.rg).take s.rg.stagingCount = stagedSlots s.rg := take_of_length_le (by simp)
  change records (flashSlots g s) ++ ((stagedSlots s.rg).take s.rg.stagingCount).map data = _
  rw [all, snapshot]

lemma Drains.readNext {all} (drains : Drains g s all rest) (ok : io.ReadsOk) :
    (fsStep g io s .readNext).1 = .read (.of rest.head?) ∧ Drains g (fsStep g io s .readNext).2 all rest.tail := by
  obtain ⟨answer, session⟩ := drains.toInSession.readNext ok
  obtain ⟨_, view⟩ := view_session ok drains.rep drains.active (.inl rfl)
  have opened : (viewOf g s).opened = viewOf g s := if_pos drains.active
  simp only [step, opened] at view
  refine ⟨answer, session, ?_⟩
  rw [view, session_read]
  exact drains.covers

lemma Drains.push {all} (drains : Drains g s all rest) (ok : io.ReadsOk) (data : α) :
    Drains g (fsStep g io s (.push data)).2 all rest := by
  obtain ⟨_, view⟩ := view_session ok drains.rep drains.active (.inr ⟨data, rfl⟩)
  have snap : (viewOf g s).uploadStagingSnap ≤ (viewOf g s).staged.length := by
    simpa [viewOf] using drains.rep.uploadStagingSnap
  refine ⟨drains.toInSession.push ok data, ?_⟩
  rw [view]
  exact (session_push drains.active snap data).trans drains.covers

omit [Crc32Ieee] [Inhabited α] in
lemma Drains.pending {all} (drains : Drains g s all rest) :
    snapshot g s = all ++ ((stagedSlots s.rg).drop s.rg.uploadStagingSnap).map data := by
  rw [← drains.covers, session, append_assoc, ← map_append]
  exact congrArg (fun slots => records (flashSlots g s) ++ slots.map data) (take_append_drop ..).symm

lemma Drains.commit {all} (drains : Drains g s all []) (io) :
    ∃ newer, snapshot g s = all ++ newer ∧ snapshot g (fsStep g io s .commit).2 = newer := by
  obtain ⟨flash, staged⟩ := commit_slots drains.rep io
  obtain ⟨flashRead, stagedRead⟩ := append_eq_nil_iff.mp drains.unread
  have done : s.rg.stagingReadIdx = s.rg.uploadStagingSnap := by
    have passed : ((stagedSlots s.rg).take s.rg.uploadStagingSnap).length ≤ s.rg.stagingReadIdx :=
      drop_eq_nil_iff.mp (map_eq_nil_iff.mp stagedRead)
    rw [length_take, stagedSlots_length, Nat.min_eq_left drains.rep.uploadStagingSnap] at passed
    exact Nat.le_antisymm drains.rep.stagingReadIdx passed
  have passed : records ((flashSlots g s).drop s.rg.readOffset) = [] := flashRead
  refine ⟨_, drains.pending, ?_⟩
  rw [snapshot, flash, staged, done, passed, nil_append]

structure Whole (g : FsLayout) (s : FsState α) : Prop where
  valid : ∀ slot ∈ flashSlots g s, slot.valid = true
  snap : s.rg.uploadStagingSnap = s.rg.stagingCount

omit [Crc32Ieee] [Inhabited α] in
lemma records_eq_nil {slots : List (FsSlot α)} (valid : ∀ slot ∈ slots, slot.valid = true)
    (none : records slots = []) : slots = [] := by
  have all := filter_eq_self.mpr valid
  rwa [records, map_eq_nil_iff, all] at none

lemma Whole.begin (valid : badSlots g s = 0) (io) : Whole g (fsStep g io s .uploadBegin).2 := by
  refine ⟨fun slot member => ?_, rfl⟩
  have good := countP_eq_zero.mp valid slot member
  simpa [FsSlot.valid] using good

lemma Whole.readNext (whole : Whole g s) (session : InSession g s rest) (ok : io.ReadsOk) :
    Whole g (fsStep g io s .readNext).2 := by
  obtain ⟨slots, staged, snap⟩ := readNext_slots session.rep session.active ok
  refine ⟨fun slot member => whole.valid slot (slots ▸ member), ?_⟩
  have count := congrArg List.length staged
  simp only [stagedSlots_length] at count
  exact snap.trans (whole.snap.trans count.symm)

lemma Whole.commit (whole : Whole g s) (session : InSession g s []) (io) :
    myFlashStorePendingCount g (fsStep g io s .commit).2.rg = 0 := by
  have rep : RepInv g (fsStep g io s .commit).2.rg := session.rep.call io .commit
  obtain ⟨flash, staged⟩ := commit_slots session.rep io
  obtain ⟨flashRead, stagedRead⟩ := append_eq_nil_iff.mp session.unread
  have passed : (flashSlots g s).drop s.rg.readOffset = [] :=
    records_eq_nil (fun slot member => whole.valid slot (mem_of_mem_drop member)) flashRead
  have all : (stagedSlots s.rg).take s.rg.uploadStagingSnap = stagedSlots s.rg :=
    take_of_length_le (by rw [stagedSlots_length, whole.snap])
  have sent : (stagedSlots s.rg).drop s.rg.stagingReadIdx = [] := by
    rw [← all]
    exact map_eq_nil_iff.mp stagedRead
  rw [pendingCount_eq rep.toRingInv, flash, staged, passed, sent]
  rfl

end

structure Tidy (g : FsLayout) (s : FsState α) : Prop where
  rep : RepInv g s.rg
  room : s.rg.stagingCount < g.recPerSector
  marked : ∀ slot ∈ stagedSlots s.rg, slot.valid = true

section

variable {g : FsLayout} {io : FsIo} {s : FsState α}

lemma records_append (first second : List (FsSlot α)) : records (first ++ second) = records first ++ records second := by
  simp [records]

lemma records_valid {slots : List (FsSlot α)} (valid : ∀ slot ∈ slots, slot.valid = true) :
    records slots = slots.map data := by
  rw [records, filter_eq_self.mpr valid]

lemma Tidy.shrink (tidy : Tidy g s) {next : FsState α} (rep : RepInv g next.rg)
    (staged : (stagedSlots next.rg).Sublist (stagedSlots s.rg)) : Tidy g next := by
  refine ⟨rep, ?_, fun slot member => tidy.marked slot (staged.subset member)⟩
  have length := staged.length_le
  rw [stagedSlots_length, stagedSlots_length] at length
  exact Nat.lt_of_le_of_lt length tidy.room

variable [Crc32Ieee] [Inhabited α]

lemma flush_free (idle : s.rg.uploadActive = false) (full : g.recPerSector ≤ s.rg.stagingCount + 1)
    (written : io.flashWrite = 0) {data}
    (kept : ∀ sector, .overwriteOldest sector ∉ (fsCall g io s (.push data)).effects) :
    s.rg.validSectors < g.regionSectors := by
  by_contra ring
  apply kept s.rg.rdSector
  rcases fsRegionPush_cases g io s.rg data with ⟨busy, _⟩ | ⟨stays, _⟩ | ⟨_, _, call⟩
  · exact absurd (idle.symm.trans busy) Bool.false_ne_true
  · rcases stays with busy | room
    · exact absurd (idle.symm.trans busy) Bool.false_ne_true
    · omega
  · have some : (fsStage s.rg data).stagingCount ≠ 0 := Nat.succ_ne_zero _
    have flushed := fsFlushStaging_eq (g := g) written some
    have same : ¬ (fsStage s.rg data).validSectors < g.regionSectors := ring
    simp only [fsCall, call, flushed, if_neg same]
    simp [fsStage]

/-- What a push does that does not overwrite the oldest sector: a session refuses it when the buffer is full, the record
is staged, or the buffer is written with it. -/
inductive Pushed (g : FsLayout) (s next : FsState α) (data : α) : Prop where
  | refused (active : s.rg.uploadActive = true) (full : g.recPerSector ≤ s.rg.stagingCount)
      (flash : flashSlots g next = flashSlots g s) (staged : stagedSlots next.rg = stagedSlots s.rg)
  | staged (room : s.rg.stagingCount < g.recPerSector)
      (stays : s.rg.uploadActive = true ∨ s.rg.stagingCount + 1 < g.recPerSector)
      (flash : flashSlots g next = flashSlots g s) (staged : stagedSlots next.rg = stagedSlots s.rg ++ [fsMarked data])
  | written (full : g.recPerSector ≤ s.rg.stagingCount + 1)
      (flash : flashSlots g next = flashSlots g s ++ (stagedSlots s.rg ++ [fsMarked data]).take g.recPerSector)
      (staged : stagedSlots next.rg = [])

lemma push_pushed (rep : RepInv g s.rg) (ok : io.Ok) {data}
    (kept : ∀ sector, .overwriteOldest sector ∉ (fsCall g io s (.push data)).effects) :
    Pushed g s (fsStep g io s (.push data)).2 data := by
  obtain ⟨_, view⟩ := view_step ok rep (.push data)
  have count : (viewOf g s).staged.length = s.rg.stagingCount := stagedSlots_length s.rg
  by_cases refused : (viewOf g s).uploadActive ∧ g.recPerSector ≤ (viewOf g s).staged.length
  · simp only [step, push, if_pos refused] at view
    exact .refused refused.1 (count ▸ refused.2) (congrArg flash view) (congrArg staged view)
  by_cases stays : (viewOf g s).uploadActive ∨ (viewOf g s).staged.length + 1 < g.recPerSector
  · simp only [step, push, if_neg refused, if_pos stays] at view
    rw [count] at refused stays
    refine .staged ?_ stays (congrArg flash view) (congrArg staged view)
    rcases stays with active | room
    · exact Nat.not_le.mp fun full => refused ⟨active, full⟩
    · exact Nat.lt_of_succ_lt room
  · simp only [step, push, if_neg refused, if_neg stays] at view
    rw [count] at stays
    obtain ⟨idle, full⟩ := not_or.mp stays
    have full := Nat.not_lt.mp full
    have none : (flashSlots g s).length - (g.regionSectors - 1) * g.recPerSector = 0 := by
      rw [flashSlots_length rep.toRingInv, rep.excess,
        if_pos (flush_free (eq_false_of_ne_true idle) full ok.flashWrite kept)]
    have flash : flashSlots g (fsStep g io s (.push data)).2 = (flashSlots g s).drop ((flashSlots g s).length -
        (g.regionSectors - 1) * g.recPerSector) ++ (stagedSlots s.rg ++ [fsMarked data]).take g.recPerSector :=
      congrArg flash view
    rw [none, drop_zero] at flash
    exact .written full flash (congrArg staged view)

namespace Pushed

variable {next : FsState α} {data : α}

omit [Crc32Ieee] [Inhabited α]

lemma marked_snoc (marked : ∀ slot ∈ stagedSlots s.rg, slot.valid = true) (data : α) :
    ∀ slot ∈ stagedSlots s.rg ++ [fsMarked data], slot.valid = true := by
  intro slot member
  rcases mem_append.mp member with before | new
  · exact marked slot before
  · rw [mem_singleton.mp new]
    exact decide_eq_true rfl

lemma taken (rep : RepInv g s.rg) (marked : ∀ slot ∈ stagedSlots s.rg, slot.valid = true) (data : α) :
    records ((stagedSlots s.rg ++ [fsMarked data]).take g.recPerSector) =
      (stagedSlots s.rg).map FsSlot.data ++ if s.rg.stagingCount < g.recPerSector then [data] else [] := by
  by_cases room : s.rg.stagingCount < g.recPerSector
  · have whole : (stagedSlots s.rg ++ [fsMarked data]).take g.recPerSector = stagedSlots s.rg ++ [fsMarked data] :=
      take_of_length_le (by rw [length_append, stagedSlots_length]; exact room)
    rw [if_pos room, whole, records_valid (marked_snoc marked data), map_append]
    rfl
  · have count : (stagedSlots s.rg).length = g.recPerSector := by
      rw [stagedSlots_length]
      exact Nat.le_antisymm rep.stagingCount (Nat.not_lt.mp room)
    rw [if_neg room, ← count, take_left, records_valid marked, append_nil]

lemma marked (pushed : Pushed g s next data) (marked : ∀ slot ∈ stagedSlots s.rg, slot.valid = true) :
    ∀ slot ∈ stagedSlots next.rg, slot.valid = true := by
  cases pushed with
  | refused _ _ _ staged =>
    rw [staged]
    exact marked
  | staged _ _ _ staged =>
    rw [staged]
    exact marked_snoc marked data
  | written _ _ staged =>
    rw [staged]
    exact nofun

lemma pending (pushed : Pushed g s next data) (rep : RepInv g s.rg)
    (marked : ∀ slot ∈ stagedSlots s.rg, slot.valid = true) :
    snapshot g next = snapshot g s ++ if s.rg.stagingCount < g.recPerSector then [data] else [] := by
  cases pushed with
  | refused _ full flash staged =>
    rw [if_neg (Nat.not_lt.mpr full), append_nil, snapshot, flash, staged, snapshot]
  | staged room _ flash staged =>
    rw [if_pos room, snapshot, flash, staged, map_append, ← append_assoc]
    rfl
  | written _ flash staged =>
    rw [snapshot, flash, staged, records_append, taken rep marked, snapshot, map_nil, append_nil, append_assoc]

end Pushed

lemma Tidy.push (tidy : Tidy g s) (idle : s.rg.uploadActive = false) (ok : io.Ok) {data}
    (kept : ∀ sector, .overwriteOldest sector ∉ (fsCall g io s (.push data)).effects) :
    Tidy g (fsStep g io s (.push data)).2 ∧ snapshot g (fsStep g io s (.push data)).2 = snapshot g s ++ [data] := by
  have pushed := push_pushed tidy.rep ok kept
  have pending := pushed.pending tidy.rep tidy.marked
  rw [if_pos tidy.room] at pending
  refine ⟨⟨tidy.rep.call io (.push data), ?_, pushed.marked tidy.marked⟩, pending⟩
  rw [← stagedSlots_length]
  cases pushed with
  | refused active => exact nomatch idle.symm.trans active
  | staged _ stays _ staged =>
    rw [staged, length_append, stagedSlots_length]
    exact stays.resolve_left fun active => nomatch idle.symm.trans active
  | written _ _ staged =>
    rw [staged]
    exact g.recPerSector_pos

lemma Tidy.begin (tidy : Tidy g s) (io) : Tidy g (fsStep g io s .uploadBegin).2 :=
  tidy.shrink (tidy.rep.call io .uploadBegin) (List.Sublist.refl _)

lemma Tidy.readNext (tidy : Tidy g s) (active : s.rg.uploadActive = true) (ok : io.ReadsOk) :
    Tidy g (fsStep g io s .readNext).2 ∧ snapshot g (fsStep g io s .readNext).2 = snapshot g s := by
  obtain ⟨slots, buffer, _⟩ := readNext_slots tidy.rep active ok
  refine ⟨tidy.shrink (tidy.rep.call io .readNext) (by rw [buffer]), ?_⟩
  rw [snapshot, slots, buffer, snapshot]

lemma Tidy.commit (tidy : Tidy g s) (io) : Tidy g (fsStep g io s .commit).2 := by
  obtain ⟨_, staged⟩ := commit_slots tidy.rep io
  refine tidy.shrink (tidy.rep.call io .commit) ?_
  rw [staged]
  exact drop_sublist ..

structure Filed (g : FsLayout) (s : FsState α) : Prop where
  rep : RepInv g s.rg
  marked : ∀ slot ∈ stagedSlots s.rg, slot.valid = true

omit [Crc32Ieee] [Inhabited α] in
lemma Tidy.filed (tidy : Tidy g s) : Filed g s := ⟨tidy.rep, tidy.marked⟩

namespace Filed

omit [Crc32Ieee] [Inhabited α] in
lemma shrink (filed : Filed g s) {next : FsState α} (rep : RepInv g next.rg)
    (staged : (stagedSlots next.rg).Sublist (stagedSlots s.rg)) : Filed g next :=
  ⟨rep, fun slot member => filed.marked slot (staged.subset member)⟩

lemma begin (filed : Filed g s) (io) : Filed g (fsStep g io s .uploadBegin).2 :=
  filed.shrink (filed.rep.call io .uploadBegin) (List.Sublist.refl _)

lemma rewind (filed : Filed g s) (io) : Filed g (fsStep g io s .rewind).2 :=
  filed.shrink (filed.rep.call io .rewind) (List.Sublist.refl _)

lemma commit (filed : Filed g s) (io) : Filed g (fsStep g io s .commit).2 := by
  obtain ⟨_, staged⟩ := commit_slots filed.rep io
  refine filed.shrink (filed.rep.call io .commit) ?_
  rw [staged]
  exact drop_sublist ..

lemma readNext (filed : Filed g s) (active : s.rg.uploadActive = true) (ok : io.ReadsOk) :
    Filed g (fsStep g io s .readNext).2 ∧ snapshot g (fsStep g io s .readNext).2 = snapshot g s := by
  obtain ⟨slots, buffer, _⟩ := readNext_slots filed.rep active ok
  refine ⟨filed.shrink (filed.rep.call io .readNext) (by rw [buffer]), ?_⟩
  rw [snapshot, slots, buffer, snapshot]

/-- A push that does not overwrite the oldest sector adds its record if the staging
buffer has room, and loses it otherwise: a session refuses it, and outside a session it
is not in the sector that is written. -/
lemma push (filed : Filed g s) (ok : io.Ok) {data}
    (kept : ∀ sector, .overwriteOldest sector ∉ (fsCall g io s (.push data)).effects) :
    Filed g (fsStep g io s (.push data)).2 ∧ snapshot g (fsStep g io s (.push data)).2 =
      snapshot g s ++ if s.rg.stagingCount < g.recPerSector then [data] else [] := by
  have pushed := push_pushed filed.rep ok kept
  exact ⟨⟨filed.rep.call io (.push data), pushed.marked filed.marked⟩, pushed.pending filed.rep filed.marked⟩

end Filed

omit [Crc32Ieee] [Inhabited α] in
lemma perm_regroup {β : Type} (a b c d : List β) : (a ++ b ++ (c ++ d)).Perm (a ++ c ++ (b ++ d)) := by
  simpa only [append_assoc] using (perm_append_comm_assoc b c d).append_left a

lemma Drains.commit_read {sent rest : List α} (drains : Drains g s (sent ++ rest) rest) (io) :
    (snapshot g s).Perm (sent ++ snapshot g (fsStep g io s .commit).2) := by
  obtain ⟨flash, staged⟩ := commit_slots drains.rep io
  have slots : records (flashSlots g s) = records ((flashSlots g s).take s.rg.readOffset) ++
      records ((flashSlots g s).drop s.rg.readOffset) := by
    rw [← records_append, take_append_drop]
  have buffer : (stagedSlots s.rg).map data = ((stagedSlots s.rg).take s.rg.stagingReadIdx).map data ++
      ((stagedSlots s.rg).drop s.rg.stagingReadIdx).map data := by
    rw [← map_append, take_append_drop]
  -- What the session has passed is what it was about without what it has not read.
  have passed : sent.Perm (records ((flashSlots g s).take s.rg.readOffset) ++
      ((stagedSlots s.rg).take s.rg.stagingReadIdx).map data) := by
    have covers : records (flashSlots g s) ++ ((stagedSlots s.rg).take s.rg.uploadStagingSnap).map data =
        sent ++ rest := drains.covers
    have unread : records ((flashSlots g s).drop s.rg.readOffset) ++
        (((stagedSlots s.rg).take s.rg.uploadStagingSnap).drop s.rg.stagingReadIdx).map data = rest :=
      drains.unread
    have read : (stagedSlots s.rg).take s.rg.stagingReadIdx =
        ((stagedSlots s.rg).take s.rg.uploadStagingSnap).take s.rg.stagingReadIdx := by
      rw [take_take, Nat.min_eq_left drains.rep.stagingReadIdx]
    have snap : ((stagedSlots s.rg).take s.rg.uploadStagingSnap).map data =
        ((stagedSlots s.rg).take s.rg.stagingReadIdx).map data ++
          (((stagedSlots s.rg).take s.rg.uploadStagingSnap).drop s.rg.stagingReadIdx).map data := by
      rw [read, ← map_append, take_append_drop]
    rw [slots, snap, ← unread] at covers
    apply (perm_append_right_iff _).mp
    rw [← covers]
    exact perm_regroup ..
  rw [snapshot, snapshot, flash, staged, slots, buffer]
  exact (perm_regroup ..).trans (passed.symm.append_right _)

end

def FsOp.isReadNext : FsOp α → Bool
  | .readNext => true
  | _ => false

def SessionCall (call : FsIo × FsOp α) : Prop := call.1.ReadsOk ∧ (call.2 = .readNext ∨ ∃ data, call.2 = .push data)

def reads (answers : List (FsAnswer α)) : List (FsRead α) := answers.filterMap fun
    | .read result => some result
    | _ => none

/-- The answers to `count` reads of a session: the records, then 0. -/
def delivery (rest : List α) (count : Nat) : List (FsRead α) :=
  (rest.take count).map .record ++ List.replicate (count - rest.length) .empty

lemma delivery_succ (rest : List α) (count : Nat) :
    delivery rest (count + 1) = .of rest.head? :: delivery rest.tail count := by
  cases rest with
  | nil => simp [delivery, FsRead.of, replicate_succ]
  | cons data rest => simp [delivery, FsRead.of]

lemma delivered_length [DecidableEq α] {rest : List α} {count : Nat} (ended : .empty ∈ delivery rest count) :
    ((delivery rest count).takeWhile (· ≠ .empty)).length = rest.length := by
  have nonempty : ∀ result ∈ (rest.take count).map FsRead.record, result ≠ .empty := by
    intro result member
    obtain ⟨data, _, rfl⟩ := mem_map.mp member
    exact nofun
  have enough : rest.length ≤ count := by
    rcases mem_append.mp ended with record | empty
    · exact absurd rfl (nonempty _ record)
    · have positive := (mem_replicate.mp empty).1
      omega
  rw [delivery, takeWhile_append_of_pos (by simpa using nonempty), takeWhile_replicate, take_of_length_le enough]
  simp

lemma InSession.run [Crc32Ieee] [Inhabited α] {g} {rest} (session : InSession g s rest)
    {calls : List (FsIo × FsOp α)} (allowed : ∀ call ∈ calls, SessionCall call) :
    reads (execute (fun s call => fsStep g call.1 s call.2) s calls).1 =
      delivery rest (calls.countP fun call => call.2.isReadNext) := by
  induction calls generalizing s rest with
  | nil => simp [execute, reads, delivery]
  | cons call calls ih =>
    obtain ⟨io, op⟩ := call
    obtain ⟨ok, next⟩ := allowed _ mem_cons_self
    have later : ∀ call ∈ calls, SessionCall call := fun call member => allowed call (mem_cons_of_mem _ member)
    rcases next with read | ⟨data, push⟩
    · simp only at read
      subst read
      obtain ⟨answer, kept⟩ := session.readNext ok
      rw [countP_cons_of_pos rfl, delivery_succ, ← ih kept later, execute]
      simp only [answer]
      rfl
    · simp only at push
      subst push
      rw [countP_cons_of_neg Bool.false_ne_true, ← ih (session.push ok data) later]
      rfl

theorem session_delivers_snapshot [Crc32Ieee] (type : FsDataType) (s : FsState (FsRecord type)) (inv : RepInv (fsLayout type) s.rg)
    (io : FsIo) (calls : List (FsIo × FsOp (FsRecord type))) (allowed : ∀ call ∈ calls, SessionCall call) :
    let g := fsLayout type
    let begun := (fsStep g io s .uploadBegin).2
    let answers := reads (execute (fun s call => fsStep g call.1 s call.2) begun calls).1
    answers = delivery (snapshot g s) (calls.countP fun call => call.2.isReadNext) ∧
    (.empty ∈ answers → (answers.takeWhile (· ≠ .empty)).length = myFlashStorePendingCount g s.rg - badSlots g s) := by
  have answers := (InSession.begin inv io).run allowed
  have total := snapshot_length inv.toRingInv
  simp only
  rw [answers]
  refine ⟨rfl, fun ended => ?_⟩
  rw [delivered_length ended]
  omega

theorem half_read_session : reads (execute (fun s call => fsStep (fsLayout .bp) call.1 s call.2)
    (fsStep (fsLayout .bp) .ok (fsStep (fsLayout .bp) .ok (myFlashStoreInit (fsLayout .bp) (blankMedia .bp))
      (.push ⟨1, 101325⟩)).2 .uploadBegin).2
    [(.ok, .push ⟨2, 101300⟩), (.ok, .readNext), (.ok, .readNext)]).1 = [.record ⟨1, 101325⟩, .empty] := by
  refine (session_delivers_snapshot .bp _ ((FsInv.init rfl).rep.call .ok (.push _)) .ok _ ?_).1.trans rfl
  have ok := FsIo.ok_ok.flashRead
  exact forall_mem_cons.mpr ⟨⟨ok, .inr ⟨_, rfl⟩⟩, by simp [SessionCall, ok]⟩

end LL320D.FlashStore
