import LL320D.Library.Machine
import LL320D.Proofs.FlashStoreView

/-! The representation invariant holds in every state of every run, wherever power is lost; and a region refines a queue
that is read in sessions and knows nothing of sectors. -/

namespace LL320D.FlashStore
open Library List

section

variable {α : Type} {g : FsLayout} {io : FsIo}
  {rg : FsRegion α} {s : FsState α} {effect : FsEffect α} {media : FsMedia α}

lemma fsReadFlash_passed (io) (media : FsMedia α) (count : Nat) (rg : FsRegion α) :
    ∃ passed ≤ count, (fsReadFlash g io media count rg).2 = { rg with readOffset := rg.readOffset + passed } := by
  induction count generalizing rg with
  | zero => exact ⟨0, Nat.le_refl _, rfl⟩
  | succ count ih =>
    rw [fsReadFlash]
    split
    · exact ⟨0, Nat.zero_le _, rfl⟩
    · exact ⟨1, by omega, rfl⟩
    · obtain ⟨passed, bound, moved⟩ := ih { rg with readOffset := rg.readOffset + 1 }
      refine ⟨1 + passed, by omega, ?_⟩
      rw [moved, ← Nat.add_assoc]

namespace RepInv

lemma reset (g) (rg : FsRegion α) : RepInv g (fsRegionReset rg) :=
  ⟨⟨by simp [fsRegionReset], g.regionSectors_pos, Nat.zero_le _, g.recPerSector_pos, fun _ => rfl⟩,
    Nat.zero_le _, Nat.le_refl _, Nat.le_refl _, Nat.zero_le _, fun _ => ⟨rfl, rfl, rfl⟩⟩

lemma staged [Inhabited α] (inv : RepInv g rg) {data} (room : rg.stagingCount < g.recPerSector) :
    RepInv g (fsStage rg data) :=
  { inv with
    stagingCount := room
    uploadStagingSnap := Nat.le_succ_of_le inv.uploadStagingSnap }

lemma read {rg} (inv : RepInv g rg) (media : FsMedia α) : RepInv g (myFlashStoreReadNext g io rg media).rg := by
  have held := inv.opened
  obtain ⟨passed, bound, moved⟩ := fsReadFlash_passed io media (fsFlashTotal g (fsOpenSession rg) -
    (fsOpenSession rg).readOffset) (fsOpenSession rg)
  have offset : (fsOpenSession rg).readOffset + passed ≤
      (fsOpenSession rg).validSectors * g.recPerSector - (fsOpenSession rg).rdRecIdx := by
    have total := held.flashTotal
    have before := held.readOffset
    omega
  have active : (fsOpenSession rg).uploadActive = true := by
    unfold fsOpenSession
    split
    · assumption
    · rfl
  rw [myFlashStoreReadNext]
  split
  · next result after found =>
    have same : after = _ := (congrArg Prod.snd found).symm.trans moved
    rw [same]
    exact { held with readOffset := offset, closed := by simp [active] }
  · next after found =>
    have same : after = _ := (congrArg Prod.snd found).symm.trans moved
    rw [same]
    split
    · next left => exact { held with readOffset := offset, stagingReadIdx := left, closed := by simp [active] }
    · exact { held with readOffset := offset, closed := by simp [active] }

end RepInv

lemma readNext_session (g io) (rg : FsRegion α) (media : FsMedia α) :
    ∃ offset read snap active, (myFlashStoreReadNext g io rg media).rg = { rg with
      readOffset := offset, stagingReadIdx := read, uploadStagingSnap := snap, uploadActive := active } := by
  obtain ⟨passed, _, moved⟩ := fsReadFlash_passed (g := g) io media (fsFlashTotal g (fsOpenSession rg) -
    (fsOpenSession rg).readOffset) (fsOpenSession rg)
  have opened : ∃ snap active, fsOpenSession rg = { rg with uploadStagingSnap := snap, uploadActive := active } := by
    unfold fsOpenSession
    split
    · exact ⟨rg.uploadStagingSnap, rg.uploadActive, rfl⟩
    · exact ⟨rg.stagingCount, true, rfl⟩
  obtain ⟨snap, active, opened⟩ := opened
  rw [myFlashStoreReadNext]
  split
  · next result after found =>
    have same : after = _ := (congrArg Prod.snd found).symm.trans moved
    exact ⟨_, _, _, _, by rw [same, opened]⟩
  · next after found =>
    have same : after = _ := (congrArg Prod.snd found).symm.trans moved
    split <;> exact ⟨_, _, _, _, by rw [same, opened]⟩

section

variable [Crc32Ieee]

namespace RepInv

lemma flushed [Inhabited α] (inv : RepInv g rg) (idle : rg.uploadActive = false) (data : α) :
    RepInv g (fsFlushStaging g io (fsStage rg data)).rg := by
  obtain ⟨offset, read, snap⟩ := inv.closed idle
  have some : (fsStage rg data).stagingCount ≠ 0 := Nat.succ_ne_zero _
  by_cases written : io.flashWrite = 0
  · have ring : RingInv g (fsStage rg data) := { inv with }
    obtain ⟨sameOffset, sameRead, sameSnap, _⟩ := written_session g (fsStage rg data)
    rw [fsFlushStaging_eq written some]
    refine ⟨ring.written, ?_, ?_, ?_, ?_, ?_⟩
    · exact le_of_eq_of_le (sameOffset.trans offset) (Nat.zero_le _)
    · exact le_of_eq_of_le (sameRead.trans read) (Nat.zero_le _)
    · exact le_of_eq_of_le (sameSnap.trans snap) (Nat.zero_le _)
    · exact Nat.zero_le _
    · intro _
      exact ⟨sameOffset.trans offset, sameRead.trans read, sameSnap.trans snap⟩
  · simp only [fsFlushStaging, if_neg some, if_pos written]
    exact { inv with }

lemma pushed [Inhabited α] {rg} (inv : RepInv g rg) (data : α) : RepInv g (fsRegionPush g io rg data).rg := by
  rcases fsRegionPush_cases g io rg data with ⟨_, _, call⟩ | ⟨stays, room, call⟩ | ⟨idle, _, call⟩
  · rw [call]
    exact inv
  · rw [call]
    apply inv.staged
    rcases stays with active | below
    · exact room active
    · omega
  · rw [call]
    exact inv.flushed idle data

lemma committed (inv : RepInv g rg) (io) : RepInv g (myFlashStoreCommit g io rg).rg := by
  have ring := inv.toRingInv.committed inv.readOffset
  obtain ⟨buf, moves, count, shorter, compacted, _⟩ := fsCommitStaging_cases (fsCommitFlash g rg)
  have count_le : count ≤ g.recPerSector := by
    rw [fsCommitFlash_eq inv.toRingInv inv.readOffset] at shorter
    exact Nat.le_trans shorter inv.stagingCount
  simp only [myFlashStoreCommit, compacted]
  exact ⟨{ ring with }, Nat.zero_le _, Nat.le_refl _, Nat.zero_le _, count_le, fun _ => ⟨rfl, rfl, rfl⟩⟩

lemma call [Inhabited α] (inv : RepInv g s.rg) (io) (op : FsOp α) :
    RepInv g (fsCall g io s op).rg := by
  cases op with
  | push data => exact inv.pushed data
  | pendingCount => exact inv
  | readNext => exact inv.read s.media
  | rewind =>
    exact ⟨{ inv with }, Nat.zero_le _, Nat.le_refl _, Nat.zero_le _, inv.stagingCount, fun _ => ⟨rfl, rfl, rfl⟩⟩
  | uploadBegin => exact ⟨{ inv with }, Nat.zero_le _, Nat.zero_le _, Nat.le_refl _, inv.stagingCount, nofun⟩
  | commit => exact inv.committed io
  | clear => exact reset g s.rg

end RepInv

def Stored (g : FsLayout) (media : FsMedia α) : Prop :=
  ∀ entry, media.zms = some entry → ∃ rg : FsRegion α, RingInv g rg ∧ entry = fsMetaOf rg

lemma mem_fsMetaSave {rg} (member : effect ∈ (fsMetaSave io rg).2) :
    effect = .metaWrite (fsMetaOf rg) := by
  unfold fsMetaSave at member
  split at member
  · exact mem_singleton.mp member
  · nomatch member

/-- What a call may write. -/
inductive Performs (g : FsLayout) (before after : FsRegion α) : FsOp α → FsEffect α → Prop where
  | stage (data) (accepted : before.uploadActive → before.stagingCount < g.recPerSector) :
      Performs g before after (.push data) (.stagingWrite before.stagingCount)
  | copy (data) (idle : before.uploadActive = false) :
      Performs g before after (.push data) (.sectorCopy ((before.stagingCount + 1) * g.recSize))
  | write (data) (content) :
      Performs g before after (.push data) (.flashWrite (fsSectorOffset g before.wrSector) content)
  | warn (data) : Performs g before after (.push data) (.overwriteOldest before.rdSector)
  | read (left : (fsOpenSession before).stagingReadIdx < (fsOpenSession before).uploadStagingSnap) :
      Performs g before after .readNext (.stagingRead (fsOpenSession before).stagingReadIdx)
  | move : Performs g before after .commit
      (.stagingMove before.stagingReadIdx (before.stagingCount - before.stagingReadIdx))
  | save (op) : Performs g before after op (.metaWrite (fsMetaOf after))

lemma performs_push [Inhabited α] {data : α}
    (member : effect ∈ (fsRegionPush g io rg data).effects) :
    Performs g rg (fsRegionPush g io rg data).rg (.push data) effect := by
  rcases fsRegionPush_cases g io rg data with ⟨_, _, call⟩ | ⟨_, room, call⟩ | ⟨idle, _, call⟩
  · rw [call] at member
    nomatch member
  · rw [call] at member
    cases mem_singleton.mp member
    exact .stage data room
  · rw [call] at member ⊢
    rcases mem_cons.mp member with rfl | flush
    · exact .stage data (by simp [idle])
    · have some : (fsStage rg data).stagingCount ≠ 0 := Nat.succ_ne_zero _
      by_cases written : io.flashWrite = 0
      · rw [fsFlushStaging_eq written some] at flush ⊢
        simp only [mem_cons, mem_append, cons_append] at flush
        rcases flush with rfl | rfl | full | saved
        · exact .copy data idle
        · exact .write data _
        · split at full
          · nomatch full
          · cases mem_singleton.mp full
            exact .warn data
        · cases mem_fsMetaSave saved
          exact .save _
      · simp only [fsFlushStaging, if_neg some, if_pos written] at flush
        cases mem_singleton.mp flush
        exact .copy data idle

lemma performs_read (member : effect ∈ (myFlashStoreReadNext g io rg media).effects) :
    Performs g rg (myFlashStoreReadNext g io rg media).rg .readNext effect := by
  obtain ⟨passed, _, moved⟩ := fsReadFlash_passed io media (fsFlashTotal g (fsOpenSession rg) -
    (fsOpenSession rg).readOffset) (fsOpenSession rg)
  rw [myFlashStoreReadNext] at member
  split at member
  · cases member
  · next after found =>
    have same : after = _ := (congrArg Prod.snd found).symm.trans moved
    rw [same] at member
    split at member
    · next left =>
      cases mem_singleton.mp member
      exact .read left
    · cases member

lemma performs_commit (inv : RepInv g rg)
    (member : effect ∈ (myFlashStoreCommit g io rg).effects) :
    Performs g rg (myFlashStoreCommit g io rg).rg .commit effect := by
  obtain ⟨buf, moves, count, _, compacted, moved⟩ := fsCommitStaging_cases (fsCommitFlash g rg)
  rw [fsCommitFlash_eq inv.toRingInv inv.readOffset] at compacted moved
  simp only [myFlashStoreCommit, fsCommitFlash_eq inv.toRingInv inv.readOffset, compacted, mem_append] at member ⊢
  rcases member with move | saved
  · rcases moved with rfl | rfl
    · cases move
    · cases mem_singleton.mp move
      exact .move
  · cases mem_fsMetaSave saved
    exact .save _

lemma performs_call [Inhabited α] (inv : RepInv g s.rg) {op : FsOp α}
    (member : effect ∈ (fsCall g io s op).effects) : Performs g s.rg (fsCall g io s op).rg op effect := by
  cases op with
  | push data => exact performs_push member
  | readNext => exact performs_read member
  | commit => exact performs_commit inv member
  | clear =>
    cases mem_fsMetaSave member
    exact .save _
  | pendingCount | rewind | uploadBegin => nomatch member

lemma Stored.effects {effects : List (FsEffect α)} {media} (stored : Stored g media)
    (saves : ∀ entry, .metaWrite entry ∈ effects → ∃ rg : FsRegion α, RingInv g rg ∧ entry = fsMetaOf rg) :
    Stored g (effects.foldl FsMedia.apply media) := by
  induction effects generalizing media with
  | nil => exact stored
  | cons effect effects ih =>
    refine ih ?_ fun entry member => saves entry (mem_cons_of_mem _ member)
    cases effect with
    | metaWrite entry =>
      intro found same
      cases Option.some.inj same
      exact saves entry mem_cons_self
    | _ => exact stored

lemma fsRegionLoad_saved {saved : FsRegion α} (inv : RingInv g saved) (rg : FsRegion α) :
    fsRegionLoad g (some (fsMetaOf saved)) rg = { rg with
      wrSector := saved.wrSector, rdSector := saved.rdSector, validSectors := saved.validSectors
      rdRecIdx := saved.rdRecIdx, seqCounter := saved.seqCounter, stagingCount := 0 } := by
  have genuine : ¬ ((fsMetaOf saved).magic ≠ fsMetaMagic ∨ (fsMetaOf saved).crc ≠ fsMetaCalcCrc (fsMetaOf saved)) := by
    simp [fsMetaOf, fsMetaCalcCrc]
  have inside : ¬ (g.regionSectors ≤ (fsMetaOf saved).wrSector ∨ g.regionSectors ≤ (fsMetaOf saved).rdSector ∨
      g.regionSectors < (fsMetaOf saved).validSectors ∨ g.recPerSector < (fsMetaOf saved).rdRecIdx) := by
    have wr : saved.wrSector < g.regionSectors := by
      rw [inv.wrSector]
      exact Nat.mod_lt _ g.regionSectors_pos
    have rd := inv.rdSector
    have valid := inv.validSectors
    have index := inv.rdRecIdx
    simp only [fsMetaOf]
    omega
  simp only [fsRegionLoad, if_neg genuine, if_neg inside]
  rfl

lemma Stored.init [Inhabited α] (stored : Stored g media) : RepInv g (myFlashStoreInit g media).rg := by
  rw [myFlashStoreInit]
  cases entry : media.zms with
  | none => exact RepInv.reset g _
  | some entry =>
    obtain ⟨saved, ring, rfl⟩ := stored _ entry
    simp only [fsRegionLoad_saved ring]
    exact ⟨{ ring with }, Nat.zero_le _, Nat.le_refl _, Nat.le_refl _, Nat.zero_le _, fun _ => ⟨rfl, rfl, rfl⟩⟩

def FsEffect.Safe (g : FsLayout) : FsEffect α → Prop
  | .stagingWrite slot => slot < g.recPerSector
  | .stagingRead slot => slot < g.recPerSector
  | .stagingMove source count => source + count ≤ g.recPerSector
  | .sectorCopy bytes => bytes ≤ fsSectorSize - fsSectorHeaderSize
  | .flashWrite offset _ => ∃ sector < g.regionSectors, offset = fsSectorOffset g sector
  | .overwriteOldest _ => True
  | .metaWrite _ => True

def StagingOverrun (g : FsLayout) (s : FsState α) : FsEvent α → Prop
  | .call _ (.push _) | .powerLoss _ (.push _) (_ + 1) =>
    s.rg.uploadActive = false ∧ s.rg.stagingCount = g.recPerSector
  | _ => False

lemma Performs.safe {before after : FsRegion α} (inv : RepInv g before) {op}
    (performs : Performs g before after op effect)
    (room : ∀ data, op = .push data → ¬ (before.uploadActive = false ∧ before.stagingCount = g.recPerSector)) :
    effect.Safe g := by
  have bound := inv.stagingCount
  cases performs with
  | stage data accepted =>
    rcases Nat.lt_or_eq_of_le bound with below | full
    · exact below
    · cases active : before.uploadActive with
      | true => exact accepted active
      | false => exact absurd ⟨active, full⟩ (room data rfl)
  | copy data idle =>
    have below : before.stagingCount + 1 ≤ g.recPerSector := by
      have missing := room data rfl
      simp only [idle, true_and] at missing
      omega
    exact Nat.le_trans (Nat.mul_le_mul_right _ below) g.fits
  | write data content =>
    refine ⟨before.wrSector, ?_, rfl⟩
    rw [inv.wrSector]
    exact Nat.mod_lt _ g.regionSectors_pos
  | warn | save => trivial
  | read left =>
    have held := inv.opened
    exact Nat.lt_of_lt_of_le left (Nat.le_trans held.uploadStagingSnap held.stagingCount)
  | move =>
    have read := Nat.le_trans inv.stagingReadIdx inv.uploadStagingSnap
    change before.stagingReadIdx + (before.stagingCount - before.stagingReadIdx) ≤ g.recPerSector
    omega

lemma overrun_unsafe [Inhabited α] (idle : s.rg.uploadActive = false)
    (full : s.rg.stagingCount = g.recPerSector) (data : α) :
    ∃ rest, (fsCall g io s (.push data)).effects = .stagingWrite g.recPerSector :: rest := by
  rcases fsRegionPush_cases g io s.rg data with ⟨busy, _, _⟩ | ⟨stays, _, _⟩ | ⟨_, _, call⟩
  · simp [idle] at busy
  · rcases stays with busy | below
    · simp [idle] at busy
    · omega
  · simp only [fsCall, call, full]
    exact ⟨_, rfl⟩

lemma effects_safe_iff [Inhabited α] (inv : RepInv g s.rg) (event : FsEvent α) :
    (∀ effect ∈ fsEffects g s event, effect.Safe g) ↔ ¬ StagingOverrun g s event := by
  constructor
  · intro safe overrun
    cases event with
    | call io op =>
      cases op with
      | push data =>
        obtain ⟨rest, effects⟩ := overrun_unsafe overrun.1 overrun.2 data
        refine Nat.lt_irrefl _ (safe (.stagingWrite g.recPerSector) ?_)
        rw [fsEffects, effects]
        exact mem_cons_self
      | _ => exact overrun
    | powerLoss io op cut =>
      cases op with
      | push data =>
        cases cut with
        | zero => exact overrun
        | succ cut =>
          obtain ⟨rest, effects⟩ := overrun_unsafe overrun.1 overrun.2 data
          refine Nat.lt_irrefl _ (safe (.stagingWrite g.recPerSector) ?_)
          rw [fsEffects, effects]
          exact mem_cons_self
      | _ => exact overrun
  · intro room effect member
    cases event with
    | call io op =>
      apply (performs_call inv member).safe inv
      rintro data rfl
      exact room
    | powerLoss io op cut =>
      apply (performs_call inv (mem_of_mem_take member)).safe inv
      rintro data rfl
      cases cut with
      | zero => nomatch member
      | succ cut => exact room

structure FsInv (g : FsLayout) (s : FsState α) : Prop where
  rep : RepInv g s.rg
  stored : Stored g s.media

lemma FsInv.advance [Inhabited α] (inv : FsInv g s) (event) : FsInv g (fsAdvance g s event) := by
  have stored : Stored g ((fsEffects g s event).foldl FsMedia.apply s.media) := by
    refine inv.stored.effects fun entry member => ?_
    cases event with
    | call io op =>
      cases performs_call inv.rep member
      exact ⟨_, (inv.rep.call io op).toRingInv, rfl⟩
    | powerLoss io op cut =>
      cases performs_call inv.rep (mem_of_mem_take member)
      exact ⟨_, (inv.rep.call io op).toRingInv, rfl⟩
  cases event with
  | call io op => exact ⟨inv.rep.call io op, stored⟩
  | powerLoss io op cut => exact ⟨stored.init, stored⟩

lemma Stored.blank (blank : media.zms = none) : Stored g media := by
  intro entry found
  exact nomatch blank.symm.trans found

lemma FsInv.init [Inhabited α] (blank : media.zms = none) : FsInv g (myFlashStoreInit g media) :=
  ⟨(Stored.blank blank).init, .blank blank⟩

def RunSafe [Inhabited α] (g : FsLayout) (s : FsState α) (events : List (FsEvent α)) : Prop :=
  Along (fsAdvance g) (fun s event => RepInv g s.rg ∧ ∀ effect ∈ fsEffects g s event, effect.Safe g) s events ∧
    RepInv g (events.foldl (fsAdvance g) s).rg

/-- A run from the first `my_flash_store_init`, through any calls and power losses,
is safe exactly when no push reaches a full staging buffer outside a session. -/
theorem runSafe_iff_no_overrun (type : FsDataType) (media : FsMedia (FsRecord type)) (blank : media.zms = none)
    (events : List (FsEvent (FsRecord type))) :
    RunSafe (fsLayout type) (myFlashStoreInit (fsLayout type) media) events ↔
      Along (fsAdvance (fsLayout type)) (fun s event => ¬ StagingOverrun (fsLayout type) s event)
        (myFlashStoreInit (fsLayout type) media) events := by
  have start : FsInv (fsLayout type) (myFlashStoreInit (fsLayout type) media) := FsInv.init blank
  have final := List.foldlRecOn events (fsAdvance (fsLayout type)) start fun s inv event _ => inv.advance event
  rw [RunSafe, and_iff_left final.rep]
  refine along_congr (FsInv (fsLayout type)) (fun s event inv => inv.advance event) (fun s event inv => ?_) start
  rw [effects_safe_iff inv.rep, and_iff_right inv.rep]

end

def blankMedia (type : FsDataType) : FsMedia (FsRecord type) := ⟨fun _ => ⟨⟨0, 0, 0, 0⟩, fun _ => ⟨0, default⟩⟩, none⟩

def filledInSession : List (FsEvent (FsRecord .tag)) :=
  .call .ok .uploadBegin :: List.replicate 42 (.call .ok (.push default)) ++ [.call .ok .rewind]

lemma filledInSession_full :
    let s := filledInSession.foldl (fsAdvance (fsLayout .tag)) (myFlashStoreInit (fsLayout .tag) (blankMedia .tag))
    s.rg.uploadActive = false ∧ s.rg.stagingCount = (fsLayout .tag).recPerSector := by
  decide +kernel

theorem push_after_rewind_unsafe : ¬ RunSafe (fsLayout .tag) (myFlashStoreInit (fsLayout .tag) (blankMedia .tag))
    (filledInSession ++ [.call .ok (.push default)]) := by
  intro safe
  obtain ⟨⟨rep, last⟩, _⟩ := ((along_append _ _ _).mp safe.1).2
  exact (effects_safe_iff rep _).mp last filledInSession_full

theorem runSafe_partial_session : RunSafe (fsLayout .tag) (myFlashStoreInit (fsLayout .tag) (blankMedia .tag))
    [.call .ok .uploadBegin, .call .ok (.push default), .call .ok .rewind, .call .ok (.push default),
      .powerLoss .ok .commit 1] := by
  refine (runSafe_iff_no_overrun .tag (blankMedia .tag) rfl _).mpr ?_
  refine ⟨id, ?_, id, ?_, id, trivial⟩ <;> exact fun overrun => by cases overrun.1 <;> cases overrun.2

end

variable {α : Type} {g : FsLayout}

/-- Records oldest first, how many of the newest are staged, how many were returned
in this session, and the records present when the session was opened. -/
structure RecordQueue (α : Type) where
  items : List α
  staged : Nat
  cursor : Nat
  limit : Option Nat

namespace RecordQueue

def empty : RecordQueue α := ⟨[], 0, 0, none⟩

def overwritten (g : FsLayout) (q : RecordQueue α) : Nat :=
  q.items.length - q.staged - (g.regionSectors - 1) * g.recPerSector

def push (g : FsLayout) (q : RecordQueue α) (data : α) : RecordQueue α :=
  if q.limit = none ∧ q.staged + 1 = g.recPerSector then
    { q with items := q.items.drop (q.overwritten g) ++ [data], staged := 0 }
  else { q with items := q.items ++ [data], staged := q.staged + 1 }

def opened (q : RecordQueue α) : RecordQueue α := { q with limit := some (q.limit.getD q.items.length) }

def read (q : RecordQueue α) : FsRead α × RecordQueue α :=
  match (q.items.take (q.limit.getD q.items.length))[q.cursor]? with
  | some data => (.record data, { q.opened with cursor := q.cursor + 1 })
  | none => (.empty, q.opened)

def step (g : FsLayout) (q : RecordQueue α) : FsOp α → FsAnswer α × RecordQueue α
  | .push data => (.code 0, q.push g data)
  | .pendingCount => (.count q.items.length, q)
  | .readNext => (.read q.read.1, q.read.2)
  | .rewind => (.unit, { q with cursor := 0, limit := none })
  | .uploadBegin => (.unit, { q with cursor := 0, limit := some q.items.length })
  | .commit => (.code 0, ⟨q.items.drop q.cursor, min q.staged (q.items.length - q.cursor), 0, none⟩)
  | .clear => (.unit, empty)

end RecordQueue

namespace FsView

structure Plain (g : FsLayout) (v : FsView α) : Prop where
  flash : ∀ slot ∈ v.flash, slot.magic = fsRecMagic
  staged : v.staged.length < g.recPerSector
  readOffset : v.readOffset ≤ v.flash.length
  stagingReadIdx : v.stagingReadIdx ≤ v.uploadStagingSnap
  uploadStagingSnap : v.uploadStagingSnap ≤ v.staged.length
  inOrder : v.stagingReadIdx = 0 ∨ v.readOffset = v.flash.length
  marked : ∀ slot ∈ v.staged, slot.magic = fsRecMagic
  closed : v.uploadActive = false → v.readOffset = 0 ∧ v.stagingReadIdx = 0 ∧ v.uploadStagingSnap = 0

lemma Plain.empty {g} : Plain g (⟨[], [], 0, 0, 0, false⟩ : FsView α) :=
  ⟨nofun, g.recPerSector_pos, Nat.le_refl _, Nat.le_refl _, Nat.le_refl _, .inl rfl, nofun, fun _ => ⟨rfl, rfl, rfl⟩⟩

def queue (v : FsView α) : RecordQueue α where
  items := (v.flash ++ v.staged).map FsSlot.data
  staged := v.staged.length
  cursor := v.readOffset + v.stagingReadIdx
  limit := if v.uploadActive then some (v.flash.length + v.uploadStagingSnap) else none

variable {g : FsLayout} {v : FsView α}

lemma queue_push (plain : v.Plain g) (data : α)
    (stays : ¬ (v.uploadActive ∧ v.staged.length + 1 = g.recPerSector)) :
    (v.push g data).1 = 0 ∧ (v.push g data).2.queue = v.queue.push g data ∧ (v.push g data).2.Plain g := by
  have room := plain.staged
  have accepted : ¬ (v.uploadActive ∧ g.recPerSector ≤ v.staged.length) := by omega
  have marked : ∀ slot ∈ v.staged ++ [fsMarked data], slot.magic = fsRecMagic := by
    intro slot member
    rcases mem_append.mp member with old | new
    · exact plain.marked slot old
    · cases mem_singleton.mp new
      rfl
  by_cases held : v.uploadActive ∨ v.staged.length + 1 < g.recPerSector
  · have kept : ¬ (v.queue.limit = none ∧ v.queue.staged + 1 = g.recPerSector) := by
      rintro ⟨closed, full⟩
      rcases held with active | below
      · simp [queue, active] at closed
      · exact Nat.ne_of_lt below full
    simp only [push, if_neg accepted, if_pos held, RecordQueue.push, if_neg kept]
    refine ⟨trivial, by simp [queue, fsMarked], ?_⟩
    have fewer : v.staged.length + 1 < g.recPerSector := by
      rcases held with active | below
      · have missing : v.staged.length + 1 ≠ g.recPerSector := fun full => stays ⟨active, full⟩
        omega
      · exact below
    exact { plain with
      staged := by simpa using fewer
      uploadStagingSnap := by simpa using Nat.le_succ_of_le plain.uploadStagingSnap
      marked }
  · obtain ⟨idle, last⟩ := not_or.mp held
    have closed := Bool.eq_false_iff.mpr idle
    obtain ⟨offset, read, snap⟩ := plain.closed closed
    have full : v.staged.length + 1 = g.recPerSector := by omega
    have flushes : v.queue.limit = none ∧ v.queue.staged + 1 = g.recPerSector := ⟨by simp [queue, closed], full⟩
    have whole : (v.staged ++ [fsMarked data]).take g.recPerSector = v.staged ++ [fsMarked data] :=
      take_of_length_le (by simp [full])
    have oldest : v.queue.overwritten g = v.flash.length - (g.regionSectors - 1) * g.recPerSector := by
      simp [RecordQueue.overwritten, queue]
    simp only [push, if_neg accepted, if_neg held, RecordQueue.push, if_pos flushes, whole, oldest]
    refine ⟨trivial, ?_, ?_⟩
    · simp only [queue, map_append, append_nil]
      rw [drop_append_of_le_length (by simp), map_drop, append_assoc]
      simp [fsMarked, closed]
    · exact {
        flash := by
          intro slot member
          rcases mem_append.mp member with old | new
          · exact plain.flash slot (mem_of_mem_drop old)
          · exact marked slot new
        staged := g.recPerSector_pos
        readOffset := by simp [offset]
        stagingReadIdx := plain.stagingReadIdx
        uploadStagingSnap := by simp [snap]
        inOrder := .inl read
        marked := by simp
        closed := plain.closed }

lemma queue_opened (plain : v.Plain g) : v.opened.queue = v.queue.opened ∧ v.opened.Plain g ∧
    v.opened.uploadActive = true := by
  by_cases active : v.uploadActive
  · simp only [opened, if_pos active]
    exact ⟨by simp [RecordQueue.opened, queue, active], plain, active⟩
  · obtain ⟨offset, read, snap⟩ := plain.closed (Bool.eq_false_iff.mpr active)
    simp only [opened, if_neg active]
    refine ⟨by simp [RecordQueue.opened, queue, active], ?_, trivial⟩
    exact { plain with
      stagingReadIdx := by simp [read]
      uploadStagingSnap := Nat.le_refl _
      closed := by rintro ⟨⟩ }

lemma queue_session (active : v.uploadActive = true) :
    v.queue.items.take (v.queue.limit.getD v.queue.items.length) =
      (v.flash ++ v.staged.take v.uploadStagingSnap).map FsSlot.data := by
  simp only [queue, active, if_true, Option.getD_some, ← map_take, take_length_add_append]

lemma queue_read (plain : v.Plain g) (active : v.uploadActive = true) :
    v.readOpened.1 = v.queue.read.1 ∧ v.readOpened.2.queue = v.queue.read.2 ∧ v.readOpened.2.Plain g := by
  have limit : v.queue.opened = v.queue := by simp [RecordQueue.opened, queue, active]
  have cursor : v.queue.cursor = v.readOffset + v.stagingReadIdx := rfl
  rw [RecordQueue.read, queue_session active, limit, cursor, readOpened]
  rcases Nat.lt_or_eq_of_le plain.readOffset with unread | done
  · have none : v.stagingReadIdx = 0 := by
      rcases plain.inOrder with none | done
      · exact none
      · exact absurd done (Nat.ne_of_lt unread)
    have valid : v.flash[v.readOffset].magic = fsRecMagic := plain.flash _ (getElem_mem unread)
    have next : ((v.flash ++ v.staged.take v.uploadStagingSnap).map FsSlot.data)[v.readOffset + v.stagingReadIdx]? =
        some v.flash[v.readOffset].data := by
      rw [none, Nat.add_zero, List.getElem?_map, List.getElem?_append_left unread, List.getElem?_eq_getElem unread]
      rfl
    simp only [drop_eq_getElem_cons unread, scan, ne_eq, valid, not_true, if_false, next]
    refine ⟨trivial, ?_, ?_⟩
    · simp [queue, Nat.add_right_comm]
    · exact { plain with readOffset := unread, inOrder := .inl none, closed := by simp [active] }
  · have passed := drop_eq_nil_of_le (Nat.le_of_eq done.symm)
    have next : ((v.flash ++ v.staged.take v.uploadStagingSnap).map FsSlot.data)[v.readOffset + v.stagingReadIdx]? =
        (v.staged.take v.uploadStagingSnap)[v.stagingReadIdx]?.map FsSlot.data := by
      rw [List.getElem?_map, done, List.getElem?_append_right (Nat.le_add_right _ _), Nat.add_sub_cancel_left]
    simp only [passed, scan, next, Nat.add_zero]
    cases found : (v.staged.take v.uploadStagingSnap)[v.stagingReadIdx]? with
    | none => exact ⟨rfl, rfl, plain⟩
    | some slot =>
      obtain ⟨inside, _⟩ := List.getElem?_eq_some_iff.mp found
      rw [length_take] at inside
      refine ⟨rfl, rfl, ?_⟩
      exact { plain with
        stagingReadIdx := by
          simp only
          omega
        inOrder := .inr done
        closed := by simp [active] }

lemma queue_commit (plain : v.Plain g) :
    (v.step g .commit).2.queue = (v.queue.step g .commit).2 ∧ (v.step g .commit).2.Plain g := by
  have read := plain.readOffset
  have loose := Nat.le_trans plain.stagingReadIdx plain.uploadStagingSnap
  have room := plain.staged
  refine ⟨?_, ?_⟩
  · have items : v.flash.drop v.readOffset ++ v.staged.drop v.stagingReadIdx =
        (v.flash ++ v.staged).drop (v.readOffset + v.stagingReadIdx) := by
      rcases plain.inOrder with none | done
      · rw [none, Nat.add_zero, drop_zero, drop_append_of_le_length read]
      · rw [done, drop_length_add_append, drop_length, nil_append]
    have left : v.staged.length - v.stagingReadIdx =
        min v.staged.length (v.flash.length + v.staged.length - (v.readOffset + v.stagingReadIdx)) := by
      rcases plain.inOrder with none | done <;> omega
    simp only [step, rewound, queue, RecordQueue.step, items, map_drop, length_drop, length_map, length_append, left]
    rfl
  · exact {
      flash := fun slot member => plain.flash slot (mem_of_mem_drop member)
      staged := by
        simp only [step, length_drop]
        omega
      readOffset := Nat.zero_le _
      stagingReadIdx := Nat.le_refl _
      uploadStagingSnap := Nat.zero_le _
      inOrder := .inl rfl
      marked := fun slot member => plain.marked slot (mem_of_mem_drop member)
      closed := fun _ => ⟨rfl, rfl, rfl⟩ }

lemma queue_step (plain : v.Plain g) (op : FsOp α)
    (stays : ¬ ((v.step g op).2.uploadActive ∧ (v.step g op).2.staged.length = g.recPerSector)) :
    (v.step g op).1 = (v.queue.step g op).1 ∧ (v.step g op).2.queue = (v.queue.step g op).2 ∧
      (v.step g op).2.Plain g := by
  cases op with
  | push data =>
    have room : ¬ (v.uploadActive ∧ v.staged.length + 1 = g.recPerSector) := by
      rintro ⟨active, full⟩
      have accepted : ¬ (v.uploadActive ∧ g.recPerSector ≤ v.staged.length) := by omega
      have pushed : (v.step g (.push data)).2 = { v with staged := v.staged ++ [fsMarked data] } := by
        simp only [step, push, if_neg accepted, if_pos (Or.inl active)]
      rw [pushed] at stays
      exact stays ⟨active, by simpa using full⟩
    obtain ⟨ret, queue, kept⟩ := queue_push plain data room
    exact ⟨congrArg FsAnswer.code ret, queue, kept⟩
  | pendingCount => exact ⟨by simp [step, RecordQueue.step, queue], rfl, plain⟩
  | readNext =>
    obtain ⟨opened, kept, active⟩ := queue_opened plain
    obtain ⟨ret, queue, later⟩ := queue_read kept active
    have same : v.queue.opened.read = v.queue.read := by
      simp [RecordQueue.read, RecordQueue.opened]
    rw [opened, same] at ret queue
    exact ⟨congrArg FsAnswer.read ret, queue, later⟩
  | rewind =>
    refine ⟨rfl, rfl, ?_⟩
    exact { plain with
      readOffset := Nat.zero_le _
      stagingReadIdx := Nat.le_refl _
      uploadStagingSnap := Nat.zero_le _
      inOrder := .inl rfl
      closed := fun _ => ⟨rfl, rfl, rfl⟩ }
  | uploadBegin =>
    refine ⟨rfl, by simp [step, RecordQueue.step, queue], ?_⟩
    exact { plain with
      readOffset := Nat.zero_le _
      stagingReadIdx := Nat.zero_le _
      uploadStagingSnap := Nat.le_refl _
      inOrder := .inl rfl
      closed := nofun }
  | commit =>
    obtain ⟨queue, kept⟩ := queue_commit plain
    exact ⟨rfl, queue, kept⟩
  | clear => exact ⟨rfl, rfl, .empty⟩

end FsView

/-- A region holds the records of a queue, and a flush would overwrite the rest of its
oldest sector exactly when all sectors are in use. -/
structure Represents (g : FsLayout) (s : FsState α) (q : RecordQueue α) : Prop where
  items : (flashSlots g s ++ stagedSlots s.rg).map FsSlot.data = q.items
  overwritten : q.overwritten g = if s.rg.validSectors < g.regionSectors then 0 else g.recPerSector - s.rg.rdRecIdx

/-- The store keeps the queue. -/
structure Related (g : FsLayout) (s : FsState α) (q : RecordQueue α) : Prop where
  rep : RepInv g s.rg
  plain : (viewOf g s).Plain g
  same : (viewOf g s).queue = q

lemma Related.represents {s : FsState α} {q : RecordQueue α} (related : Related g s q) : Represents g s q := by
  obtain ⟨rep, _, rfl⟩ := related
  refine ⟨rfl, ?_⟩
  rw [← rep.excess, ← flashSlots_length rep.toRingInv]
  simp [RecordQueue.overwritten, FsView.queue, viewOf]

lemma Related.step [Crc32Ieee] [Inhabited α] {s} {q : RecordQueue α} (related : Related g s q)
    (op : FsOp α) (stays : ¬ ((fsStep g .ok s op).2.rg.uploadActive ∧
      (fsStep g .ok s op).2.rg.stagingCount = g.recPerSector)) :
    (fsStep g .ok s op).1 = (q.step g op).1 ∧ Related g (fsStep g .ok s op).2 (q.step g op).2 := by
  obtain ⟨rep, plain, rfl⟩ := related
  obtain ⟨answer, view⟩ := view_step FsIo.ok_ok rep op
  have room : ¬ (((viewOf g s).step g op).2.uploadActive ∧
      ((viewOf g s).step g op).2.staged.length = g.recPerSector) := by
    rw [← view]
    simpa [viewOf] using stays
  obtain ⟨same, queue, kept⟩ := FsView.queue_step plain op room
  rw [← view] at queue kept
  exact ⟨answer.trans same, rep.call .ok op, kept, queue⟩

/-- From an empty region on, as long as no session fills the staging buffer, every
answer is that of the queue and the region keeps representing it. -/
theorem region_refines_queue [Crc32Ieee] (type : FsDataType) (s : FsState (FsRecord type)) (inv : RepInv (fsLayout type) s.rg)
    (empty : myFlashStorePendingCount (fsLayout type) s.rg = 0) (closed : s.rg.uploadActive = false)
    (ops : List (FsOp (FsRecord type)))
    (room : Along (fun s op => (fsStep (fsLayout type) .ok s op).2)
      (fun s op => ¬ ((fsStep (fsLayout type) .ok s op).2.rg.uploadActive ∧
        (fsStep (fsLayout type) .ok s op).2.rg.stagingCount = (fsLayout type).recPerSector)) s ops) :
    (execute (fsStep (fsLayout type) .ok) s ops).1 = (execute (RecordQueue.step (fsLayout type)) .empty ops).1 ∧
    Represents (fsLayout type) (execute (fsStep (fsLayout type) .ok) s ops).2
      (execute (RecordQueue.step (fsLayout type)) .empty ops).2 := by
  have total := pendingCount_eq (s := s) inv.toRingInv
  have flash : flashSlots (fsLayout type) s = [] := eq_nil_of_length_eq_zero (by omega)
  have staged : stagedSlots s.rg = [] := eq_nil_of_length_eq_zero (by omega)
  obtain ⟨offset, read, snap⟩ := inv.closed closed
  have view : viewOf (fsLayout type) s = ⟨[], [], 0, 0, 0, false⟩ := by
    rw [viewOf, flash, staged, offset, read, snap, closed]
  have start : Related (fsLayout type) s .empty := by
    refine ⟨inv, ?_, ?_⟩
    · rw [view]
      exact .empty
    · rw [view]
      rfl
  obtain ⟨answers, related⟩ := execute_simulates (fun _ _ op related stays => related.step op stays) start room
  exact ⟨answers, related.represents⟩

theorem session_answers : (execute (fsStep (fsLayout .th) .ok) (myFlashStoreInit (fsLayout .th) (blankMedia .th))
    [.push ⟨1, 215, 480⟩, .uploadBegin, .push ⟨2, 216, 479⟩, .readNext, .readNext, .commit, .readNext]).1 =
    [.code 0, .unit, .code 0, .read (.record ⟨1, 215, 480⟩), .read .empty, .code 0, .read (.record ⟨2, 216, 479⟩)] := by
  refine (region_refines_queue .th _ (FsInv.init rfl).rep rfl rfl _ ?_).1.trans rfl
  refine ⟨?_, ?_, ?_, ?_, ?_, ?_, ?_, trivial⟩ <;> decide

end LL320D.FlashStore
