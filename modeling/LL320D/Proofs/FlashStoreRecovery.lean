import LL320D.Proofs.FlashStoreSession

/-! Recovery after a power loss, with a ledger of what was pushed, reached the flash and was given up; and what a push
leaves when the drivers fail. -/

namespace LL320D.FlashStore
open Library List

section

variable {α : Type} {s : FsState α}

/-- The records pushed so far, those of them in sectors named by the metadata, how
many of these are committed, cleared or overwritten, and the records of the sector
whose metadata is still to be written. -/
structure Ledger (α : Type) where
  pushed : List α
  flushed : List α
  covered : Nat
  unsaved : List α

namespace Ledger

def empty : Ledger α := ⟨[], [], 0, []⟩

/-- Flushed records a call gives up when it completes: those read before a commit,
all of them at a clear, and the rest of the oldest sector when the ring is full. -/
def givenUp (g : FsLayout) (rg : FsRegion α) : FsOp α → Nat
  | .push _ => if rg.validSectors < g.regionSectors then 0 else g.recPerSector - rg.rdRecIdx
  | .commit => rg.readOffset
  | .clear => fsFlashTotal g rg
  | _ => 0

def argument : FsOp α → List α
  | .push data => [data]
  | _ => []

def effect (g : FsLayout) (rg : FsRegion α) (op : FsOp α) (l : Ledger α) : FsEffect α → Ledger α
  | .stagingWrite _ => { l with pushed := l.pushed ++ argument op }
  | .flashWrite _ content => { l with unsaved := (sectorSlots g content).map FsSlot.data }
  | .metaWrite _ => ⟨l.pushed, l.flushed ++ l.unsaved, l.covered + givenUp g rg op, []⟩
  | _ => l

def effects (g : FsLayout) (rg : FsRegion α) (op : FsOp α) (l : Ledger α) (performed : List (FsEffect α)) : Ledger α :=
  performed.foldl (effect g rg op) { l with unsaved := [] }

end Ledger

def FsEvent.op : FsEvent α → FsOp α
  | .call _ op => op
  | .powerLoss _ op _ => op

def FsEvent.io : FsEvent α → FsIo
  | .call io _ => io
  | .powerLoss io _ _ => io

def ledgerStep [Crc32Ieee] [Inhabited α] (g : FsLayout) (state : FsState α × Ledger α) (event : FsEvent α) : FsState α × Ledger α :=
  (fsAdvance g state.1 event, state.2.effects g state.1.rg event.op (fsEffects g state.1 event))

def TornOverwrite [Crc32Ieee] [Inhabited α] (g : FsLayout) (s : FsState α) (event : FsEvent α) : Prop :=
  s.rg.validSectors = g.regionSectors ∧ (∃ offset content, .flashWrite offset content ∈ fsEffects g s event) ∧
    ∀ entry, .metaWrite entry ∉ fsEffects g s event

/-- No overwrite is torn, and no push stores behind the staging buffer. -/
def Recoverable [Crc32Ieee] [Inhabited α] (g : FsLayout) (s : FsState α) (event : FsEvent α) : Prop :=
  ¬ TornOverwrite g s event ∧ ¬ StagingOverrun g s event

structure Synced [Crc32Ieee] [Inhabited α] (g : FsLayout) (s : FsState α) : Prop where
  wrSector : (myFlashStoreInit g s.media).rg.wrSector = s.rg.wrSector
  rdSector : (myFlashStoreInit g s.media).rg.rdSector = s.rg.rdSector
  validSectors : (myFlashStoreInit g s.media).rg.validSectors = s.rg.validSectors
  rdRecIdx : (myFlashStoreInit g s.media).rg.rdRecIdx = s.rg.rdRecIdx

structure Accounted [Crc32Ieee] [Inhabited α] (g : FsLayout) (s : FsState α) (l : Ledger α) : Prop where
  inv : FsInv g s
  synced : Synced g s
  covered : l.covered ≤ l.flushed.length
  live : flashSlots g s = (l.flushed.drop l.covered).map fsMarked
  held : ∃ held, stagedSlots s.rg = held.map fsMarked ∧ (l.flushed ++ held).Sublist l.pushed
  unsaved : (l.flushed ++ l.unsaved).Sublist l.pushed
  unsaved_le : l.unsaved.length ≤ g.recPerSector

section

variable [Crc32Ieee] [Inhabited α] {g : FsLayout} {s : FsState α} {l : Ledger α}

lemma stagingCount_init (g : FsLayout) (media : FsMedia α) : (myFlashStoreInit g media).rg.stagingCount = 0 := by
  unfold myFlashStoreInit fsRegionLoad
  split
  · rfl
  · split
    · rfl
    · split <;> rfl

lemma flashSlots_synced (synced : Synced g s) : flashSlots g (myFlashStoreInit g s.media) = flashSlots g s := by
  have media : (myFlashStoreInit g s.media).media = s.media := rfl
  simp only [flashSlots, flashSectors, synced.rdSector, synced.validSectors, synced.rdRecIdx, media]

lemma Accounted.reboot (accounted : Accounted g s l) : Accounted g (myFlashStoreInit g s.media) l := by
  obtain ⟨held, _, pushed⟩ := accounted.held
  exact {
    inv := ⟨accounted.inv.stored.init, accounted.inv.stored⟩
    synced := ⟨rfl, rfl, rfl, rfl⟩
    covered := accounted.covered
    live := (flashSlots_synced accounted.synced).trans accounted.live
    held := by
      refine ⟨[], ?_, ?_⟩
      · rw [stagedSlots, stagingCount_init]
        rfl
      · rw [append_nil]
        exact (sublist_append_left _ _).trans pushed
    unsaved := accounted.unsaved
    unsaved_le := accounted.unsaved_le }

lemma Accounted.pushes (accounted : Accounted g s l) (more : List α) :
    Accounted g s ⟨l.pushed ++ more, l.flushed, l.covered, []⟩ := by
  obtain ⟨held, staged, pushed⟩ := accounted.held
  have grown : (l.flushed ++ held).Sublist (l.pushed ++ more) := pushed.trans (sublist_append_left _ _)
  exact { accounted with
    held := ⟨held, staged, grown⟩
    unsaved := by
      rw [append_nil]
      exact (sublist_append_left _ _).trans grown
    unsaved_le := Nat.zero_le _ }

lemma Accounted.settled (accounted : Accounted g s l) : Accounted g s { l with unsaved := [] } := by
  have same := accounted.pushes []
  rwa [append_nil] at same

end

def FsEffect.Volatile : FsEffect α → Prop
  | .flashWrite _ _ => False
  | .metaWrite _ => False
  | _ => True

lemma volatile_media {effects : List (FsEffect α)} (volatile : ∀ effect ∈ effects, effect.Volatile)
    (media) : effects.foldl FsMedia.apply media = media := by
  induction effects with
  | nil => rfl
  | cons effect effects ih =>
    have unchanged : media.apply effect = media := by
      have first := volatile effect mem_cons_self
      cases effect <;> first | rfl | exact first.elim
    rw [foldl_cons, unchanged]
    exact ih fun effect member => volatile effect (mem_cons_of_mem _ member)

lemma volatile_ledger (g rg op) {effects : List (FsEffect α)}
    (volatile : ∀ effect ∈ effects, effect.Volatile) (l) :
    ∃ more, effects.foldl (Ledger.effect g rg op) l = { l with pushed := l.pushed ++ more } := by
  induction effects generalizing l with
  | nil => exact ⟨[], by simp⟩
  | cons effect effects ih =>
    have first := volatile effect mem_cons_self
    have rest := ih fun effect member => volatile effect (mem_cons_of_mem _ member)
    cases effect with
    | stagingWrite slot =>
      obtain ⟨more, same⟩ := rest { l with pushed := l.pushed ++ Ledger.argument op }
      exact ⟨Ledger.argument op ++ more, by simpa [Ledger.effect] using same⟩
    | flashWrite | metaWrite => exact first.elim
    | _ => exact rest l

lemma sector_held [Inhabited α] {g : FsLayout} {held : List α} {data} (staged : stagedSlots s.rg = held.map fsMarked)
    (full : g.recPerSector ≤ s.rg.stagingCount + 1) :
    sectorSlots g (fsSectorImage g (fsStage s.rg data)) = ((held ++ [data]).take g.recPerSector).map fsMarked := by
  rw [sectorSlots_image full, stagedSlots_stage, staged, map_take, map_append]
  rfl

section

variable [Crc32Ieee] [Inhabited α] {g : FsLayout} {s : FsState α} {l : Ledger α}

lemma Accounted.lostVolatile (accounted : Accounted g s l) {op} {performed : List (FsEffect α)}
    (volatile : ∀ effect ∈ performed, effect.Volatile) :
    Accounted g (myFlashStoreInit g (performed.foldl FsMedia.apply s.media)) (l.effects g s.rg op performed) := by
  obtain ⟨more, ledger⟩ := volatile_ledger g s.rg op volatile { l with unsaved := [] }
  rw [volatile_media volatile, Ledger.effects, ledger]
  exact (accounted.pushes more).reboot

lemma Accounted.session (accounted : Accounted g s l) {offset read snap : Nat} {active : Bool}
    (rep : RepInv g { s.rg with
      readOffset := offset, stagingReadIdx := read, uploadStagingSnap := snap, uploadActive := active }) :
    Accounted g ⟨{ s.rg with
      readOffset := offset, stagingReadIdx := read, uploadStagingSnap := snap, uploadActive := active }, s.media⟩
      { l with unsaved := [] } :=
  { accounted.settled with
    inv := ⟨rep, accounted.inv.stored⟩
    synced := { accounted.synced with } }

lemma Synced.saved {rg} {media : FsMedia α} (ring : RingInv g rg)
    (saved : media.zms = some (fsMetaOf rg)) : Synced g ⟨rg, media⟩ := by
  have loaded := fsRegionLoad_saved ring
  refine ⟨?_, ?_, ?_, ?_⟩ <;> simp only [myFlashStoreInit, saved, loaded]

lemma Accounted.flash_le (accounted : Accounted g s l) : l.covered + fsFlashTotal g s.rg = l.flushed.length := by
  have bound := accounted.covered
  rw [← flashSlots_length accounted.inv.rep.toRingInv, accounted.live]
  simp only [length_map, length_drop]
  omega

lemma commit_effects (s : FsState α) : ∃ moves, (moves = [] ∨ ∃ source count, moves = [.stagingMove source count]) ∧
    (fsCall g .ok s .commit).effects = moves ++ [FsEffect.metaWrite (fsMetaOf (fsCall g .ok s .commit).rg)] := by
  obtain ⟨buf, moves, count, _, compacted, moved⟩ := fsCommitStaging_cases (fsCommitFlash g s.rg)
  refine ⟨moves, moved.imp_right fun same => ⟨_, _, same⟩, ?_⟩
  simp only [fsCall, myFlashStoreCommit, compacted]
  rfl

lemma Accounted.commit (accounted : Accounted g s l) :
    Accounted g (fsStep g .ok s .commit).2 (l.effects g s.rg .commit (fsCall g .ok s .commit).effects) := by
  have rep := accounted.inv.rep
  obtain ⟨moves, moved, effects⟩ := commit_effects (g := g) s
  have ledger : l.effects g s.rg .commit (fsCall g .ok s .commit).effects =
      ⟨l.pushed, l.flushed, l.covered + s.rg.readOffset, []⟩ := by
    rw [effects]
    rcases moved with rfl | ⟨source, count, rfl⟩ <;> simp [Ledger.effects, Ledger.effect, Ledger.givenUp]
  have saved : (fsStep g .ok s .commit).2.media.zms = some (fsMetaOf (fsCall g .ok s .commit).rg) := by
    simp only [fsStep, effects, foldl_append]
    rfl
  have view := (view_step FsIo.ok_ok rep .commit).2
  have read : l.covered + s.rg.readOffset ≤ l.flushed.length := by
    have total := accounted.flash_le
    have bound := rep.readOffset
    rw [rep.flashTotal] at total
    omega
  obtain ⟨held, staged, pushed⟩ := accounted.held
  have flushed := (sublist_append_left _ _).trans pushed
  rw [ledger]
  exact {
    inv := accounted.inv.advance (.call .ok .commit)
    synced := Synced.saved (rep.call .ok .commit).toRingInv saved
    covered := read
    live := by
      refine (congrArg FsView.flash view).trans ?_
      change (flashSlots g s).drop s.rg.readOffset = _
      rw [accounted.live, ← map_drop, drop_drop]
    held := by
      refine ⟨held.drop s.rg.stagingReadIdx, ?_, ?_⟩
      · refine (congrArg FsView.staged view).trans ?_
        change (stagedSlots s.rg).drop s.rg.stagingReadIdx = _
        rw [staged, map_drop]
      · exact (List.Sublist.append_left (drop_sublist _ _) _).trans pushed
    unsaved := by rwa [append_nil]
    unsaved_le := Nat.zero_le _ }

lemma Accounted.clear (accounted : Accounted g s l) :
    Accounted g (fsStep g .ok s .clear).2 (l.effects g s.rg .clear (fsCall g .ok s .clear).effects) := by
  have rep := accounted.inv.rep
  obtain ⟨held, _, pushed⟩ := accounted.held
  have flushed := (sublist_append_left _ _).trans pushed
  have ledger : l.effects g s.rg .clear (fsCall g .ok s .clear).effects = ⟨l.pushed, l.flushed, l.flushed.length, []⟩ := by
    change Ledger.mk l.pushed (l.flushed ++ []) (l.covered + fsFlashTotal g s.rg) [] = _
    rw [append_nil, accounted.flash_le]
  rw [ledger]
  exact {
    inv := accounted.inv.advance (.call .ok .clear)
    synced := Synced.saved (rep.call .ok .clear).toRingInv rfl
    covered := Nat.le_refl _
    live := by
      rw [drop_length]
      rfl
    held := ⟨[], rfl, by rwa [append_nil]⟩
    unsaved := by rwa [append_nil]
    unsaved_le := Nat.zero_le _ }

lemma Accounted.stage (accounted : Accounted g s l) (data : α) (rep : RepInv g (fsStage s.rg data)) :
    Accounted g ⟨fsStage s.rg data, s.media⟩ ⟨l.pushed ++ [data], l.flushed, l.covered, []⟩ := by
  obtain ⟨held, staged, pushed⟩ := accounted.held
  exact { accounted.pushes [data] with
    inv := ⟨rep, accounted.inv.stored⟩
    synced := { accounted.synced with }
    held := by
      refine ⟨held ++ [data], ?_, ?_⟩
      · rw [stagedSlots_stage, staged, map_append, map_cons, map_nil]
      · rw [← append_assoc]
        exact pushed.append (List.Sublist.refl _) }

lemma flush_effects (g : FsLayout) (rg : FsRegion α) (data : α) :
    ∃ warn, (warn = [] ∨ warn = [.overwriteOldest rg.rdSector]) ∧
      .stagingWrite rg.stagingCount :: (fsFlushStaging g .ok (fsStage rg data)).effects =
        .stagingWrite rg.stagingCount :: .sectorCopy ((rg.stagingCount + 1) * g.recSize) ::
        .flashWrite (fsSectorOffset g rg.wrSector) (fsSectorImage g (fsStage rg data)) ::
        (warn ++ [FsEffect.metaWrite (fsMetaOf (fsSectorWritten g (fsStage rg data)))]) := by
  have some : (fsStage rg data).stagingCount ≠ 0 := Nat.succ_ne_zero _
  refine ⟨if rg.validSectors < g.regionSectors then [] else [.overwriteOldest rg.rdSector], ?_, ?_⟩
  · split
    · exact .inl rfl
    · exact .inr rfl
  · rw [fsFlushStaging_eq rfl some]
    rfl

lemma view_flush (rep : RepInv g s.rg) (data : α) (idle : s.rg.uploadActive = false)
    (full : g.recPerSector ≤ s.rg.stagingCount + 1) :
    flashSlots g (fsStep g .ok s (.push data)).2 =
      (flashSlots g s).drop (fsFlashTotal g s.rg - (g.regionSectors - 1) * g.recPerSector) ++
        (stagedSlots (fsStage s.rg data)).take g.recPerSector ∧
    stagedSlots (fsStep g .ok s (.push data)).2.rg = [] := by
  obtain ⟨-, view⟩ := push_flushed rep (rfl : FsIo.ok.flashWrite = 0) idle full data
  rw [← flashSlots_length rep.toRingInv, stagedSlots_stage]
  exact ⟨congrArg FsView.flash view, congrArg FsView.staged view⟩

variable (accounted : Accounted g s l)
include accounted

lemma Accounted.flush {data} (idle : s.rg.uploadActive = false) (full : g.recPerSector ≤ s.rg.stagingCount + 1)
    (effects : (fsCall g .ok s (.push data)).effects =
      .stagingWrite s.rg.stagingCount :: (fsFlushStaging g .ok (fsStage s.rg data)).effects)
    (rg : (fsCall g .ok s (.push data)).rg = fsSectorWritten g (fsStage s.rg data)) :
    Accounted g (fsStep g .ok s (.push data)).2 (l.effects g s.rg (.push data) (fsCall g .ok s (.push data)).effects) := by
  have rep := accounted.inv.rep
  obtain ⟨held, staged, pushed⟩ := accounted.held
  have sector : sectorSlots g (fsSectorImage g (fsStage s.rg data)) = ((held ++ [data]).take g.recPerSector).map fsMarked :=
    sector_held staged full
  obtain ⟨warn, warned, flushed⟩ := flush_effects g s.rg data
  rw [← effects] at flushed
  have ledger : l.effects g s.rg (.push data) (fsCall g .ok s (.push data)).effects =
      ⟨l.pushed ++ [data], l.flushed ++ (held ++ [data]).take g.recPerSector,
        l.covered + (fsFlashTotal g s.rg - (g.regionSectors - 1) * g.recPerSector), []⟩ := by
    rw [flushed, rep.excess]
    rcases warned with rfl | rfl <;>
      simp [Ledger.effects, Ledger.effect, Ledger.givenUp, Ledger.argument, sector, Function.comp_def, fsMarked]
  have saved : (fsStep g .ok s (.push data)).2.media.zms = some (fsMetaOf (fsCall g .ok s (.push data)).rg) := by
    simp only [fsStep, flushed, rg, foldl_cons, foldl_append]
    rfl
  obtain ⟨flash, empty⟩ := view_flush rep data idle full
  have total := accounted.flash_le
  have gone : l.covered + (fsFlashTotal g s.rg - (g.regionSectors - 1) * g.recPerSector) ≤ l.flushed.length := by omega
  have grown : (l.flushed ++ (held ++ [data]).take g.recPerSector).Sublist (l.pushed ++ [data]) := by
    refine (List.Sublist.append_left (take_sublist _ _) _).trans ?_
    rw [← append_assoc]
    exact pushed.append (List.Sublist.refl _)
  rw [ledger]
  exact {
    inv := accounted.inv.advance (.call .ok (.push data))
    synced := Synced.saved (rep.call .ok (.push data)).toRingInv saved
    covered := by
      rw [length_append]
      exact Nat.le_add_right_of_le gone
    live := by
      rw [flash, drop_append_of_le_length gone, accounted.live, ← map_drop, drop_drop,
        stagedSlots_stage, staged, map_append, map_take, map_append]
      rfl
    held := ⟨[], empty, by rwa [append_nil]⟩
    unsaved := by rwa [append_nil]
    unsaved_le := Nat.zero_le _ }

lemma Accounted.call (op) : Accounted g (fsStep g .ok s op).2 (l.effects g s.rg op (fsCall g .ok s op).effects) := by
  have rep := accounted.inv.rep.call .ok op
  cases op with
  | push data =>
    rcases fsRegionPush_cases g .ok s.rg data with ⟨_, _, call⟩ | ⟨_, _, call⟩ | ⟨idle, full, call⟩
    · simp only [fsStep, fsCall, call]
      exact accounted.settled
    · simp only [fsStep, fsCall, call] at rep ⊢
      exact accounted.stage data rep
    · refine accounted.flush idle full ?_ ?_
      · simp only [fsCall, call]
      · have some : (fsStage s.rg data).stagingCount ≠ 0 := Nat.succ_ne_zero _
        simp only [fsCall, call]
        rw [fsFlushStaging_eq rfl some]
  | pendingCount => exact accounted.settled
  | readNext =>
    obtain ⟨offset, read, snap, active, session⟩ := readNext_session g .ok s.rg s.media
    simp only [fsStep, fsCall, session] at rep ⊢
    rcases readNext_effects g .ok s.rg s.media with none | ⟨slot, one⟩
    · rw [none]
      exact accounted.session rep
    · rw [one]
      exact accounted.session rep
  | rewind | uploadBegin => exact accounted.session rep
  | commit => exact accounted.commit
  | clear => exact accounted.clear

lemma Accounted.tornFlush {data} (full : g.recPerSector ≤ s.rg.stagingCount + 1)
    (free : s.rg.validSectors < g.regionSectors) :
    Accounted g (myFlashStoreInit g
        (s.media.apply (.flashWrite (fsSectorOffset g s.rg.wrSector) (fsSectorImage g (fsStage s.rg data)))))
      ⟨l.pushed ++ [data], l.flushed, l.covered,
        (sectorSlots g (fsSectorImage g (fsStage s.rg data))).map FsSlot.data⟩ := by
  have rep := accounted.inv.rep
  obtain ⟨held, staged, pushed⟩ := accounted.held
  have sector : sectorSlots g (fsSectorImage g (fsStage s.rg data)) = ((held ++ [data]).take g.recPerSector).map fsMarked :=
    sector_held staged full
  have synced : Synced g ⟨s.rg,
      s.media.apply (.flashWrite (fsSectorOffset g s.rg.wrSector) (fsSectorImage g (fsStage s.rg data)))⟩ :=
    { accounted.synced with }
  have flushed : l.flushed.Sublist (l.pushed ++ [data]) :=
    ((sublist_append_left _ _).trans pushed).trans (sublist_append_left _ _)
  exact {
    inv := ⟨accounted.inv.stored.init, accounted.inv.stored⟩
    synced := ⟨rfl, rfl, rfl, rfl⟩
    covered := accounted.covered
    live := by
      rw [← accounted.live, ← flashSlots_unrecorded rep.toRingInv free]
      exact flashSlots_synced synced
    held := by
      refine ⟨[], ?_, by rwa [append_nil]⟩
      rw [stagedSlots, stagingCount_init]
      rfl
    unsaved := by
      rw [sector, map_map, show FsSlot.data ∘ fsMarked = (id : α → α) from rfl, map_id]
      refine (List.Sublist.append_left (take_sublist _ _) _).trans ?_
      rw [← append_assoc]
      exact pushed.append (List.Sublist.refl _)
    unsaved_le := by simp }

lemma Accounted.lostFlush {data} {cut : Nat} {warn : List (FsEffect α)}
    (full : g.recPerSector ≤ s.rg.stagingCount + 1) (warned : warn = [] ∨ warn = [.overwriteOldest s.rg.rdSector])
    (performed : fsEffects g s (.powerLoss .ok (.push data) cut) =
      [.stagingWrite s.rg.stagingCount, .sectorCopy ((s.rg.stagingCount + 1) * g.recSize),
        .flashWrite (fsSectorOffset g s.rg.wrSector) (fsSectorImage g (fsStage s.rg data))] ++ warn)
    (whole : ¬ TornOverwrite g s (.powerLoss .ok (.push data) cut)) :
    Accounted g (fsAdvance g s (.powerLoss .ok (.push data) cut))
      (l.effects g s.rg (.push data) (fsEffects g s (.powerLoss .ok (.push data) cut))) := by
  have quiet : ∀ effect ∈ warn, effect.Volatile := by
    intro effect member
    rcases warned with rfl | rfl
    · nomatch member
    · cases mem_singleton.mp member
      trivial
  have wrote : .flashWrite (fsSectorOffset g s.rg.wrSector) (fsSectorImage g (fsStage s.rg data)) ∈
      fsEffects g s (.powerLoss .ok (.push data) cut) := by
    rw [performed]
    simp
  have unsaved : ∀ entry, .metaWrite entry ∉ fsEffects g s (.powerLoss .ok (.push data) cut) := by
    intro entry member
    rw [performed] at member
    rcases mem_append.mp member with first | later
    · simp at first
    · exact quiet _ later
  have free : s.rg.validSectors < g.regionSectors :=
    Nat.lt_of_le_of_ne accounted.inv.rep.validSectors fun ringFull => whole ⟨ringFull, ⟨_, _, wrote⟩, unsaved⟩
  have ledger : l.effects g s.rg (.push data) (fsEffects g s (.powerLoss .ok (.push data) cut)) =
      ⟨l.pushed ++ [data], l.flushed, l.covered,
        (sectorSlots g (fsSectorImage g (fsStage s.rg data))).map FsSlot.data⟩ := by
    rw [performed]
    rcases warned with rfl | rfl
    · rfl
    · rfl
  rw [ledger, fsAdvance, performed, foldl_append, volatile_media quiet]
  exact accounted.tornFlush full free

lemma Accounted.lostPush (data : α) (cut)
    (unfinished : cut < (fsCall g .ok s (.push data)).effects.length)
    (whole : ¬ TornOverwrite g s (.powerLoss .ok (.push data) cut)) :
    Accounted g (fsAdvance g s (.powerLoss .ok (.push data) cut))
      (l.effects g s.rg (.push data) (fsEffects g s (.powerLoss .ok (.push data) cut))) := by
  rcases fsRegionPush_cases g .ok s.rg data with ⟨_, _, call⟩ | ⟨_, _, call⟩ | ⟨idle, full, call⟩
  · simp only [fsCall, call] at unfinished
    cases unfinished
  · refine accounted.lostVolatile fun effect member => ?_
    simp only [fsEffects, fsCall, call] at member
    cases mem_singleton.mp (mem_of_mem_take member)
    trivial
  · obtain ⟨warn, warned, flushed⟩ := flush_effects g s.rg data
    have effects : (fsCall g .ok s (.push data)).effects = _ := Eq.trans (by simp only [fsCall, call]) flushed
    rcases cut with _ | _ | _ | cut
    · exact accounted.lostVolatile (by rintro _ ⟨⟩)
    · refine accounted.lostVolatile fun effect member => ?_
      rw [fsEffects, effects] at member
      cases mem_singleton.mp member
      trivial
    · refine accounted.lostVolatile fun effect member => ?_
      rw [fsEffects, effects] at member
      rcases mem_pair.mp member with rfl | rfl <;> trivial
    · have before : cut ≤ warn.length := by
        rw [effects] at unfinished
        simp only [length_cons, length_append, length_nil] at unfinished
        omega
      have shown : warn.take cut = [] ∨ warn.take cut = [.overwriteOldest s.rg.rdSector] := by
        rcases warned with rfl | rfl
        · exact .inl take_nil
        · cases cut with
          | zero => exact .inl rfl
          | succ cut => exact .inr (take_of_length_le (Nat.le_add_left 1 cut))
      refine accounted.lostFlush full shown ?_ whole
      rw [fsEffects, effects]
      simp only [take_succ_cons, take_append_of_le_length before]
      rfl

lemma Accounted.powerLoss (op : FsOp α) (cut : Nat) (whole : ¬ TornOverwrite g s (.powerLoss .ok op cut)) :
    Accounted g (fsAdvance g s (.powerLoss .ok op cut))
      (l.effects g s.rg op (fsEffects g s (.powerLoss .ok op cut))) := by
  by_cases finished : (fsCall g .ok s op).effects.length ≤ cut
  · rw [fsAdvance, fsEffects, take_of_length_le finished]
    exact (accounted.call op).reboot
  · have unfinished := Nat.lt_of_not_le finished
    cases op with
    | push data => exact accounted.lostPush data cut unfinished whole
    | pendingCount | rewind | uploadBegin => cases unfinished
    | readNext =>
      refine accounted.lostVolatile fun effect member => ?_
      have member := mem_of_mem_take member
      rcases readNext_effects g .ok s.rg s.media with none | ⟨slot, one⟩
      · simp only [fsCall, none] at member
        cases member
      · simp only [fsCall, one] at member
        cases mem_singleton.mp member
        trivial
    | commit =>
      obtain ⟨moves, moved, effects⟩ := commit_effects (g := g) s
      rw [effects, length_append, length_singleton] at unfinished
      refine accounted.lostVolatile fun effect member => ?_
      rw [fsEffects, effects, take_append_of_le_length (Nat.le_of_lt_succ unfinished)] at member
      have member := mem_of_mem_take member
      rcases moved with rfl | ⟨source, count, rfl⟩
      · cases member
      · cases mem_singleton.mp member
        trivial
    | clear =>
      have none : cut = 0 := Nat.lt_one_iff.mp unfinished
      subst none
      exact accounted.lostVolatile (by rintro _ ⟨⟩)

end

/-- What a power loss may leave of a region: the flushed records that no completed call
gave up, in push order. At most one sector was written and is not recorded. -/
structure Recovered (g : FsLayout) (s : FsState α) (l : Ledger α) : Prop where
  pending : snapshot g s = l.flushed.drop l.covered
  valid : badSlots g s = 0
  inOrder : (l.flushed ++ l.unsaved).Sublist l.pushed
  unsaved : l.unsaved.length ≤ g.recPerSector

lemma Accounted.recovered [Crc32Ieee] [Inhabited α] {g} {l} (accounted : Accounted g s l)
    (empty : s.rg.stagingCount = 0) : Recovered g s l := by
  have staged : stagedSlots s.rg = [] := eq_nil_of_length_eq_zero (by simp [empty])
  refine ⟨?_, ?_, accounted.unsaved, accounted.unsaved_le⟩
  · rw [snapshot, staged, accounted.live, records_marked, map_nil, append_nil]
  · rw [badSlots, accounted.live, countP_map, countP_eq_zero]
    intro data _
    simp [fsMarked]

lemma Accounted.blank [Crc32Ieee] [Inhabited α] {g} {media : FsMedia α} (blank : media.zms = none) :
    Accounted g (myFlashStoreInit g media) .empty where
  inv := FsInv.init blank
  synced := ⟨rfl, rfl, rfl, rfl⟩
  covered := Nat.le_refl _
  live := by
    simp only [myFlashStoreInit, blank]
    rfl
  held := by
    refine ⟨[], ?_, List.Sublist.refl _⟩
    rw [stagedSlots, stagingCount_init]
    rfl
  unsaved := List.Sublist.refl _
  unsaved_le := Nat.zero_le _

lemma Accounted.event [Crc32Ieee] [Inhabited α] {g} {s} {l} (accounted : Accounted g s l)
    {event : FsEvent α} (ok : event.io = .ok) (whole : ¬ TornOverwrite g s event) :
    Accounted g (ledgerStep g (s, l) event).1 (ledgerStep g (s, l) event).2 := by
  cases event with
  | call io op =>
    cases ok
    exact accounted.call op
  | powerLoss io op cut =>
    cases ok
    exact accounted.powerLoss op cut whole

lemma Accounted.run [Crc32Ieee] [Inhabited α] {g} {s} {l} (accounted : Accounted g s l)
    {events : List (FsEvent α)} (ok : ∀ event ∈ events, event.io = .ok)
    (whole : Along (fsAdvance g) (Recoverable g) s events) :
    Accounted g (events.foldl (ledgerStep g) (s, l)).1 (events.foldl (ledgerStep g) (s, l)).2 := by
  induction events generalizing s l with
  | nil => exact accounted
  | cons event events ih =>
    have next := accounted.event (ok event mem_cons_self) whole.1.1
    exact ih next (fun event member => ok event (mem_cons_of_mem _ member)) whole.2

/-- Along every run from an empty store, through any number of power losses, each
recovery yields the history, as long as no full ring is overwritten by half and the staging buffer is not overrun. -/
theorem recovery_yields_history [Crc32Ieee] (type : FsDataType) (media : FsMedia (FsRecord type)) (blank : media.zms = none)
    (events : List (FsEvent (FsRecord type))) (ok : ∀ event ∈ events, event.io = .ok)
    (op : FsOp (FsRecord type)) (cut : Nat)
    (whole : Along (fsAdvance (fsLayout type)) (Recoverable (fsLayout type)) (myFlashStoreInit (fsLayout type) media)
      (events ++ [FsEvent.powerLoss .ok op cut])) :
    let final := (events ++ [FsEvent.powerLoss .ok op cut]).foldl (ledgerStep (fsLayout type))
      (myFlashStoreInit (fsLayout type) media, .empty)
    Recovered (fsLayout type) final.1 final.2 := by
  have answers : ∀ event ∈ events ++ [FsEvent.powerLoss .ok op cut], event.io = .ok := by
    intro event member
    rcases mem_append.mp member with earlier | last
    · exact ok event earlier
    · cases mem_singleton.mp last
      rfl
  refine ((Accounted.blank blank).run answers whole).recovered ?_
  rw [foldl_append]
  exact stagingCount_init _ _

def tagAt (timestamp : Nat) : FsRecord .tag := { (default : TagScanResult) with timestamp := timestamp.toUInt32 }

def tornOverwrite : List (FsEvent (FsRecord .tag)) :=
  (List.range 545).map (fun i => .call .ok (.push (tagAt i))) ++ [.powerLoss .ok (.push (tagAt 545)) 3]

def afterTornOverwrite : FsState (FsRecord .tag) × Ledger (FsRecord .tag) :=
  tornOverwrite.foldl (ledgerStep (fsLayout .tag)) (myFlashStoreInit (fsLayout .tag) (blankMedia .tag), .empty)

theorem torn_overwrite_breaks_history : (snapshot (fsLayout .tag) afterTornOverwrite.1).head? = some (tagAt 504) ∧
    ¬ Recovered (fsLayout .tag) afterTornOverwrite.1 afterTornOverwrite.2 := by
  have newest : (snapshot (fsLayout .tag) afterTornOverwrite.1).head? = some (tagAt 504) := by decide +kernel
  have oldest : (afterTornOverwrite.2.flushed.drop afterTornOverwrite.2.covered).head? = some (tagAt 0) := by
    decide +kernel
  refine ⟨newest, fun recovered => ?_⟩
  rw [recovered.pending, oldest] at newest
  exact absurd newest (by decide +kernel)

lemma StagingOverrun.full {g} {event : FsEvent α} (overrun : StagingOverrun g s event) :
    s.rg.stagingCount = g.recPerSector := by
  unfold StagingOverrun at overrun
  split at overrun
  · exact overrun.2
  · exact overrun.2
  · exact overrun.elim

def oneCommitted : List (FsEvent (FsRecord .tag)) :=
  (List.range 43).map (fun i => .call .ok (.push (tagAt i))) ++ [.call .ok .uploadBegin, .call .ok .readNext]

theorem recovery_after_commit :
    let final := (oneCommitted ++ [FsEvent.powerLoss .ok .commit 1]).foldl (ledgerStep (fsLayout .tag))
      (myFlashStoreInit (fsLayout .tag) (blankMedia .tag), .empty)
    Recovered (fsLayout .tag) final.1 final.2 := by
  have free : Along (fsAdvance (fsLayout .tag)) (fun s _ => s.rg.validSectors ≠ (fsLayout .tag).regionSectors ∧
      s.rg.stagingCount ≠ (fsLayout .tag).recPerSector) (myFlashStoreInit (fsLayout .tag) (blankMedia .tag))
      (oneCommitted ++ [FsEvent.powerLoss .ok .commit 1]) := by
    decide +kernel
  refine recovery_yields_history .tag (blankMedia .tag) rfl oneCommitted ?_ .commit 1
    (free.imp (fun _ => True) (fun _ _ _ _ => trivial)
      (fun _ _ _ room => ⟨fun torn => room.1 torn.1, fun overrun => room.2 overrun.full⟩) trivial)
  intro event member
  rcases mem_append.mp member with push | session
  · obtain ⟨i, _, rfl⟩ := mem_map.mp push
    rfl
  · rcases mem_pair.mp session with rfl | rfl <;> rfl

end

variable {α : Type}

def FlushDue (g : FsLayout) (rg : FsRegion α) : Prop := rg.uploadActive = false ∧ g.recPerSector ≤ rg.stagingCount + 1

instance (g : FsLayout) (rg : FsRegion α) : Decidable (FlushDue g rg) := inferInstanceAs (Decidable (_ ∧ _))

def givesUp (g : FsLayout) (s : FsState α) : Nat := (flashSlots g s).length - (g.regionSectors - 1) * g.recPerSector

def survivors (g : FsLayout) (s : FsState α) : List α :=
  records ((flashSlots g s).drop (givesUp g s)) ++ (stagedSlots s.rg).map FsSlot.data

section

variable [Crc32Ieee] [Inhabited α]

/-- A push stays inside its buffers. With a negative result it leaves the pending records as they are; with result 0 it
puts its record behind them, without those of the oldest sector if that is overwritten. -/
def PushExact (g : FsLayout) (io : FsIo) (s : FsState α) (data : α) : Prop :=
  (∀ effect ∈ fsEffects g s (.call io (.push data)), effect.Safe g) ∧ ∀ ret, (fsStep g io s (.push data)).1 = .code ret →
    (ret < 0 → snapshot g (fsStep g io s (.push data)).2 = snapshot g s) ∧
    (ret = 0 → snapshot g (fsStep g io s (.push data)).2 =
      (if FlushDue g s.rg then survivors g s else snapshot g s) ++ [data])

/-- A push that fills the buffer finds room for its record, and if it writes the sector, it also writes ZMS. -/
def PushSound (g : FsLayout) (io : FsIo) (s : FsState α) : Prop := FlushDue g s.rg →
    s.rg.stagingCount < g.recPerSector ∧ (io.flashWrite = 0 → io.zmsWrite = true)

variable {g : FsLayout} {io : FsIo} {s : FsState α}

omit [Inhabited α] in
lemma fsMetaSave_failed (failed : io.zmsWrite = false) (rg : FsRegion α) : (fsMetaSave io rg).1 = -eio := by
  simp [fsMetaSave, failed]

lemma snapshot_flushed (filed : Filed g s) (written : io.flashWrite = 0) (due : FlushDue g s.rg) (data : α) :
    snapshot g (fsStep g io s (.push data)).2 =
      survivors g s ++ if s.rg.stagingCount < g.recPerSector then [data] else [] := by
  obtain ⟨-, view⟩ := push_flushed filed.rep written due.1 due.2 data
  have flash : flashSlots g (fsStep g io s (.push data)).2 = (flashSlots g s).drop (givesUp g s) ++
      (stagedSlots s.rg ++ [fsMarked data]).take g.recPerSector := congrArg FsView.flash view
  have staged : stagedSlots (fsStep g io s (.push data)).2.rg = [] := congrArg FsView.staged view
  have taken := Pushed.taken filed.rep filed.marked data
  rw [snapshot, flash, staged, records_append, taken, survivors, map_nil, append_nil, append_assoc]

lemma push_rolled_back (failed : io.flashWrite ≠ 0) (due : FlushDue g s.rg) (data : α) :
    (fsStep g io s (.push data)).1 = .code io.flashWrite ∧
      flashSlots g (fsStep g io s (.push data)).2 = flashSlots g s ∧
      stagedSlots (fsStep g io s (.push data)).2.rg = stagedSlots s.rg := by
  have some : (fsStage s.rg data).stagingCount ≠ 0 := Nat.succ_ne_zero _
  have flush : fsFlushStaging g io (fsStage s.rg data) = ⟨io.flashWrite, { fsStage s.rg data with
      stagingCount := s.rg.stagingCount }, [.sectorCopy ((s.rg.stagingCount + 1) * g.recSize)]⟩ := by
    simp only [fsFlushStaging, if_neg some, if_pos failed]
    rfl
  have push : fsRegionPush g io s.rg data = { fsFlushStaging g io (fsStage s.rg data) with
      effects := .stagingWrite s.rg.stagingCount :: (fsFlushStaging g io (fsStage s.rg data)).effects } := by
    rcases fsRegionPush_cases g io s.rg data with ⟨busy, -⟩ | ⟨busy | room, -⟩ | ⟨-, -, call⟩
    · cases due.1.symm.trans busy
    · cases due.1.symm.trans busy
    · exact absurd due.2 (Nat.not_le.mpr room)
    · exact call
  have step : fsStep g io s (.push data) = (.code io.flashWrite, ⟨{ fsStage s.rg data with
      stagingCount := s.rg.stagingCount }, s.media⟩) := by
    simp only [fsStep, fsCall, push, flush]
    rfl
  rw [step]
  refine ⟨rfl, rfl, map_congr_left fun i member => ?_⟩
  have below := mem_range.mp member
  simp only [fsStage]
  exact Function.update_of_ne (Nat.ne_of_lt below) _ _

lemma push_kept (later : ¬ FlushDue g s.rg) (io) (data : α) :
    flashSlots g (fsStep g io s (.push data)).2 = flashSlots g s ∧
    (((fsStep g io s (.push data)).1 = .code (-ebusy) ∧
        stagedSlots (fsStep g io s (.push data)).2.rg = stagedSlots s.rg) ∨
      ((fsStep g io s (.push data)).1 = .code 0 ∧
        stagedSlots (fsStep g io s (.push data)).2.rg = stagedSlots s.rg ++ [fsMarked data])) := by
  rcases fsRegionPush_cases g io s.rg data with ⟨-, -, call⟩ | ⟨-, -, call⟩ | ⟨idle, full, -⟩
  · simp only [fsStep, fsCall, call]
    exact ⟨rfl, .inl ⟨trivial, trivial⟩⟩
  · simp only [fsStep, fsCall, call]
    exact ⟨rfl, .inr ⟨trivial, stagedSlots_stage s.rg data⟩⟩
  · exact absurd ⟨idle, full⟩ later

end

/-! Reached states -/

namespace Filed

variable [Crc32Ieee] [Inhabited α] {g : FsLayout} {s : FsState α}

lemma push_any (filed : Filed g s) (io) (data : α) : Filed g (fsStep g io s (.push data)).2 := by
  refine ⟨filed.rep.call io (.push data), ?_⟩
  by_cases due : FlushDue g s.rg
  · by_cases written : io.flashWrite = 0
    · obtain ⟨-, view⟩ := push_flushed filed.rep written due.1 due.2 data
      have staged : stagedSlots (fsStep g io s (.push data)).2.rg = [] := congrArg FsView.staged view
      rw [staged]
      exact nofun
    · obtain ⟨-, -, staged⟩ := push_rolled_back written due data
      rw [staged]
      exact filed.marked
  · obtain ⟨-, ⟨-, staged⟩ | ⟨-, staged⟩⟩ := push_kept due io data
    · rw [staged]
      exact filed.marked
    · rw [staged]
      exact Pushed.marked_snoc filed.marked data

lemma call (filed : Filed g s) (io op) : Filed g (fsStep g io s op).2 := by
  cases op with
  | push data => exact filed.push_any io data
  | pendingCount => exact filed
  | readNext =>
    obtain ⟨offset, read, snap, active, same⟩ := readNext_session g io s.rg s.media
    refine filed.shrink (filed.rep.call io .readNext) ?_
    change (stagedSlots (myFlashStoreReadNext g io s.rg s.media).rg).Sublist _
    rw [same]
    exact List.Sublist.refl _
  | rewind => exact filed.rewind io
  | uploadBegin => exact filed.begin io
  | commit => exact filed.commit io
  | clear => exact ⟨filed.rep.call io .clear, nofun⟩

lemma advance (filed : Filed g s) (stored : Stored g s.media) (event) : Filed g (fsAdvance g s event) := by
  cases event with
  | call io op => exact filed.call io op
  | powerLoss io op cut =>
    refine ⟨((FsInv.mk filed.rep stored).advance (.powerLoss io op cut)).rep, ?_⟩
    rw [stagedSlots, fsAdvance, stagingCount_init]
    rintro _ ⟨⟩

lemma reached {media : FsMedia α} (blank : media.zms = none) (events : List (FsEvent α)) :
    Filed g (events.foldl (fsAdvance g) (myFlashStoreInit g media)) := by
  have start : FsInv g (myFlashStoreInit g media) ∧ Filed g (myFlashStoreInit g media) := by
    refine ⟨FsInv.init blank, (FsInv.init blank).rep, ?_⟩
    rw [stagedSlots, stagingCount_init]
    rintro _ ⟨⟩
  revert start
  generalize myFlashStoreInit g media = first
  intro start
  induction events generalizing first with
  | nil => exact start.2
  | cons event events ih => exact ih _ ⟨start.1.advance event, start.2.advance start.1.stored event⟩

end Filed

section

variable [Crc32Ieee] [Inhabited α] {g : FsLayout} {io : FsIo} {s : FsState α} {data : α}

lemma push_inside_iff (filed : Filed g s) :
    (∀ effect ∈ fsEffects g s (.call io (.push data)), effect.Safe g) ↔
      (FlushDue g s.rg → s.rg.stagingCount < g.recPerSector) := by
  rw [effects_safe_iff filed.rep]
  have bound := filed.rep.stagingCount
  constructor
  · intro inside due
    exact Nat.lt_of_le_of_ne bound fun full => inside ⟨due.1, full⟩
  · rintro room ⟨idle, full⟩
    have below := room ⟨idle, by omega⟩
    omega

lemma pushExact_of_sound (filed : Filed g s) (sound : PushSound g io s) : PushExact g io s data := by
  refine ⟨(push_inside_iff filed).mpr fun due => (sound due).1, fun ret answer => ?_⟩
  by_cases due : FlushDue g s.rg
  · obtain ⟨room, saves⟩ := sound due
    by_cases written : io.flashWrite = 0
    · have snap := snapshot_flushed filed written due data
      obtain ⟨code, -⟩ := push_flushed filed.rep written due.1 due.2 data
      have same := FsAnswer.code.inj (answer.symm.trans code)
      rw [fsMetaSave_ret (saves written)] at same
      rw [if_pos room] at snap
      refine ⟨fun negative => ?_, fun _ => ?_⟩
      · omega
      · rw [snap, if_pos due]
    · obtain ⟨code, flash, staged⟩ := push_rolled_back written due data
      have same := FsAnswer.code.inj (answer.symm.trans code)
      refine ⟨fun _ => ?_, fun zero => absurd (same.symm.trans zero) written⟩
      rw [snapshot, flash, staged, snapshot]
  · obtain ⟨flash, ⟨code, staged⟩ | ⟨code, staged⟩⟩ := push_kept due io data
    · have same := FsAnswer.code.inj (answer.symm.trans code)
      refine ⟨fun _ => ?_, fun zero => absurd (same.symm.trans zero) (by decide)⟩
      rw [snapshot, flash, staged, snapshot]
    · have same := FsAnswer.code.inj (answer.symm.trans code)
      refine ⟨fun negative => by omega, fun _ => ?_⟩
      rw [if_neg due, snapshot, flash, staged, map_append, ← append_assoc]
      rfl

lemma sound_of_pushExact (filed : Filed g s) (new : data ∉ snapshot g s) (exactness : PushExact g io s data) :
    PushSound g io s := by
  intro due
  have room := (push_inside_iff filed).mp exactness.1 due
  refine ⟨room, fun written => ?_⟩
  have snap := snapshot_flushed filed written due data
  obtain ⟨code, -⟩ := push_flushed filed.rep written due.1 due.2 data
  by_contra lost
  have after := (exactness.2 _ code).1 (by rw [fsMetaSave_failed (eq_false_of_ne_true lost)]; decide)
  rw [snap, if_pos room] at after
  exact new (after ▸ mem_append_right _ (mem_singleton.mpr rfl))

end

def oneSlotLeft : FsState (FsRecord .tag) :=
  (List.replicate 41 (.call .ok (.push default))).foldl (fsAdvance (fsLayout .tag))
    (myFlashStoreInit (fsLayout .tag) (blankMedia .tag))

end LL320D.FlashStore
