import LL320D.FlashStore
import LL320D.Library.Ring

/-! The flash store seen as two lists: the unacknowledged slots of the sector ring, oldest first, and the slots of the
staging buffer. -/

namespace LL320D.FlashStore
open Library List Function

variable {α : Type} {g : FsLayout} {rg : FsRegion α} {s : FsState α} {io : FsIo}

def sectorSlots (g : FsLayout) (sector : FsSector α) : List (FsSlot α) := (List.range g.recPerSector).map sector.slots

def flashSectors (g : FsLayout) (s : FsState α) : List (FsSector α) :=
  window (fun i => s.media.sectors (fsSectorOffset g i)) g.regionSectors s.rg.rdSector s.rg.validSectors

def flashSlots (g : FsLayout) (s : FsState α) : List (FsSlot α) :=
  ((flashSectors g s).flatMap (sectorSlots g)).drop s.rg.rdRecIdx

def stagedSlots (rg : FsRegion α) : List (FsSlot α) := (List.range rg.stagingCount).map rg.stagingBuf

/-- The written sectors lie between the two ends of the ring. -/
structure RingInv (g : FsLayout) (rg : FsRegion α) : Prop where
  wrSector : rg.wrSector = (rg.rdSector + rg.validSectors) % g.regionSectors
  rdSector : rg.rdSector < g.regionSectors
  validSectors : rg.validSectors ≤ g.regionSectors
  rdRecIdx : rg.rdRecIdx < g.recPerSector
  rdRecIdx_zero : rg.validSectors = 0 → rg.rdRecIdx = 0

structure RepInv (g : FsLayout) (rg : FsRegion α) : Prop extends RingInv g rg where
  readOffset : rg.readOffset ≤ rg.validSectors * g.recPerSector - rg.rdRecIdx
  stagingReadIdx : rg.stagingReadIdx ≤ rg.uploadStagingSnap
  uploadStagingSnap : rg.uploadStagingSnap ≤ rg.stagingCount
  stagingCount : rg.stagingCount ≤ g.recPerSector
  closed : rg.uploadActive = false → rg.readOffset = 0 ∧ rg.stagingReadIdx = 0 ∧ rg.uploadStagingSnap = 0

lemma RepInv.opened (inv : RepInv g rg) : RepInv g (fsOpenSession rg) := by
  unfold fsOpenSession
  split
  · exact inv
  · next idle =>
    obtain ⟨offset, read, _⟩ := inv.closed (Bool.eq_false_iff.mpr idle)
    exact { inv with
      stagingReadIdx := by simp [read]
      uploadStagingSnap := Nat.le_refl _
      closed := by simp }

namespace RingInv

variable {g : FsLayout} {rg : FsRegion α}

lemma rdRecIdx_le (inv : RingInv g rg) : rg.rdRecIdx ≤ rg.validSectors * g.recPerSector := by
  rcases Nat.eq_zero_or_pos rg.validSectors with none | some
  · rw [inv.rdRecIdx_zero none]
    exact Nat.zero_le _
  · calc rg.rdRecIdx ≤ g.recPerSector := Nat.le_of_lt inv.rdRecIdx
      _ ≤ rg.validSectors * g.recPerSector := Nat.le_mul_of_pos_left _ some

lemma flashTotal (inv : RingInv g rg) : fsFlashTotal g rg = rg.validSectors * g.recPerSector - rg.rdRecIdx := by
  simp [fsFlashTotal, inv.rdRecIdx_le]

lemma excess (inv : RingInv g rg) : fsFlashTotal g rg - (g.regionSectors - 1) * g.recPerSector =
    if rg.validSectors < g.regionSectors then 0 else g.recPerSector - rg.rdRecIdx := by
  rw [inv.flashTotal]
  split
  · next free =>
    have room : rg.validSectors * g.recPerSector ≤ (g.regionSectors - 1) * g.recPerSector :=
      Nat.mul_le_mul_right _ (by omega)
    omega
  · have bound := inv.validSectors
    have positive := g.regionSectors_pos
    rw [show rg.validSectors = g.regionSectors - 1 + 1 by omega, Nat.succ_mul]
    omega

end RingInv

@[simp] lemma sectorSlots_length (g : FsLayout) (sector : FsSector α) :
    (sectorSlots g sector).length = g.recPerSector := by
  simp [sectorSlots]

@[simp] lemma stagedSlots_length (rg : FsRegion α) : (stagedSlots rg).length = rg.stagingCount := by
  simp [stagedSlots]

lemma flashSlots_length {g} (inv : RingInv g s.rg) :
    (flashSlots g s).length = fsFlashTotal g s.rg := by
  rw [inv.flashTotal, flashSlots, length_drop, blocks_length (sectorSlots_length g), flashSectors, window_length]

lemma pendingCount_eq {g} (inv : RingInv g s.rg) :
    myFlashStorePendingCount g s.rg = (flashSlots g s).length + (stagedSlots s.rg).length := by
  rw [myFlashStorePendingCount, flashSlots_length inv, stagedSlots_length]

lemma fsSectorOffset_inj (g) {i j : Nat} : fsSectorOffset g i = fsSectorOffset g j ↔ i = j := by
  simp [fsSectorOffset, fsSectorSize]

/-! Reading -/

/-- The slot at distance `i` from the read pointer, as the read loop addresses it. -/
def slotAt (g : FsLayout) (s : FsState α) (i : Nat) : FsSlot α := (s.media.sectors (fsSectorOffset g
    ((s.rg.rdSector + (s.rg.rdRecIdx + i) / g.recPerSector) % g.regionSectors))).slots
      ((s.rg.rdRecIdx + i) % g.recPerSector)

lemma flashSlots_getElem {g} (inv : RingInv g s.rg) {i : Nat}
    (inside : i < (flashSlots g s).length) : (flashSlots g s)[i] = slotAt g s i := by
  have total := inside
  rw [flashSlots_length inv, inv.flashTotal] at total
  have sector : (s.rg.rdRecIdx + i) / g.recPerSector < s.rg.validSectors := by
    apply Nat.div_lt_of_lt_mul
    rw [Nat.mul_comm]
    omega
  have place := Nat.mod_lt (s.rg.rdRecIdx + i) g.recPerSector_pos
  have found : (flashSlots g s)[i]? = some (slotAt g s i) := by
    rw [flashSlots, List.getElem?_drop, blocks_getElem? (sectorSlots_length g) g.recPerSector_pos, flashSectors,
      window_getElem? _ _ _ _ _ sector]
    simp [sectorSlots, slotAt, place]
  exact (List.getElem?_eq_some_iff.mp found).2

/-- The first valid record, and the slots up to it. -/
def scan : List (FsSlot α) → Option α × Nat
  | [] => (none, 0)
  | slot :: rest => if slot.magic ≠ fsRecMagic then ((scan rest).1, (scan rest).2 + 1) else (some slot.data, 1)

def FsIo.ReadsOk (io : FsIo) : Prop := ∀ sector slot, io.flashRead sector slot = 0

lemma fsReadFlash_succ {g} (ok : io.ReadsOk) (media count) (rg : FsRegion α) : fsReadFlash g io media (count + 1) rg =
      if (slotAt g ⟨rg, media⟩ rg.readOffset).magic ≠ fsRecMagic then
        fsReadFlash g io media count { rg with readOffset := rg.readOffset + 1 }
      else (some (.record (slotAt g ⟨rg, media⟩ rg.readOffset).data), { rg with readOffset := rg.readOffset + 1 }) := by
  by_cases valid : (slotAt g ⟨rg, media⟩ rg.readOffset).magic = fsRecMagic
  · rw [if_neg (not_not.mpr valid)]
    simp only [slotAt] at valid
    simp [fsReadFlash, fsReadFlashRecord, ok _ _, slotAt, valid]
  · rw [if_pos valid]
    simp only [slotAt] at valid
    simp [fsReadFlash, fsReadFlashRecord, ok _ _, valid]

lemma fsReadFlash_eq {g} (ok : io.ReadsOk) {media} (count)
    (inv : RingInv g rg) (rest : count = fsFlashTotal g rg - rg.readOffset) :
    fsReadFlash g io media count rg = ((scan ((flashSlots g ⟨rg, media⟩).drop rg.readOffset)).1.map .record,
        { rg with readOffset := rg.readOffset + (scan ((flashSlots g ⟨rg, media⟩).drop rg.readOffset)).2 }) := by
  have total : (flashSlots g ⟨rg, media⟩).length = fsFlashTotal g rg := flashSlots_length inv
  induction count generalizing rg with
  | zero =>
    rw [drop_eq_nil_of_le (by omega)]
    rfl
  | succ count ih =>
    have inside : rg.readOffset < (flashSlots g ⟨rg, media⟩).length := by omega
    rw [fsReadFlash_succ ok, drop_eq_getElem_cons inside, flashSlots_getElem inv inside, scan]
    split_ifs with valid
    · have left : count = fsFlashTotal g rg - (rg.readOffset + 1) := by omega
      have next := @ih { rg with readOffset := rg.readOffset + 1 } { inv with } left total
      rw [next]
      change (_, { rg with readOffset := rg.readOffset + 1 + _ }) = (_, { rg with readOffset := rg.readOffset + (_ + 1) })
      rw [Nat.add_assoc, Nat.add_comm 1]
      rfl
    · rfl

/-! Writing -/

lemma stagedSlots_stage (rg) (data : α) : stagedSlots (fsStage rg data) = stagedSlots rg ++ [fsMarked data] := by
  have kept : ∀ i ∈ List.range rg.stagingCount,
      update rg.stagingBuf rg.stagingCount (fsMarked data) i = rg.stagingBuf i := by
    intro i member
    exact update_of_ne (Nat.ne_of_lt (mem_range.mp member)) _ _
  simp only [stagedSlots, fsStage, range_succ, map_append, map_cons, map_nil, update_self, map_congr_left kept]

lemma sectorSlots_image [Inhabited α] (full : g.recPerSector ≤ rg.stagingCount) :
    sectorSlots g (fsSectorImage g rg) = (stagedSlots rg).take g.recPerSector := by
  rw [stagedSlots, ← map_take, take_range, Nat.min_eq_left full, sectorSlots]
  apply map_congr_left
  intro i member
  have below := mem_range.mp member
  simp only [fsSectorImage, if_pos (show i < rg.stagingCount by omega)]

lemma cells_update (g) (sectors : Nat → FsSector α) (sector content) :
    (fun i => update sectors (fsSectorOffset g sector) content (fsSectorOffset g i)) =
      update (fun i => sectors (fsSectorOffset g i)) sector content := by
  funext i
  simp only [update_apply, fsSectorOffset_inj]

lemma flashSlots_written (inv : RingInv g s.rg) (content : FsSector α) :
    flashSlots g ⟨fsSectorWritten g s.rg, s.media.apply (.flashWrite (fsSectorOffset g s.rg.wrSector) content)⟩ =
      (flashSlots g s).drop ((flashSlots g s).length - (g.regionSectors - 1) * g.recPerSector) ++
        sectorSlots g content := by
  have bound := inv.rdRecIdx_le
  have index := inv.rdRecIdx
  rw [flashSlots_length inv, inv.excess]
  by_cases free : s.rg.validSectors < g.regionSectors
  · have sectors : flashSectors g ⟨fsSectorWritten g s.rg,
        s.media.apply (.flashWrite (fsSectorOffset g s.rg.wrSector) content)⟩ = flashSectors g s ++ [content] := by
      simp only [flashSectors, fsSectorWritten, if_pos free, FsMedia.apply, cells_update, inv.wrSector]
      exact window_append _ free content
    rw [if_pos free, drop_zero, flashSlots, sectors]
    simp only [fsSectorWritten, if_pos free, flatMap_append, flatMap_cons, flatMap_nil, append_nil]
    rw [drop_append_of_le_length]
    · rfl
    · rw [blocks_length (sectorSlots_length g), flashSectors, window_length]
      exact bound
  · have full : s.rg.validSectors = g.regionSectors := Nat.le_antisymm inv.validSectors (by omega)
    have target : s.rg.wrSector = s.rg.rdSector := by
      rw [inv.wrSector, full, Nat.add_mod_right, Nat.mod_eq_of_lt inv.rdSector]
    have sectors : flashSectors g ⟨fsSectorWritten g s.rg,
        s.media.apply (.flashWrite (fsSectorOffset g s.rg.wrSector) content)⟩ =
        (flashSectors g s).drop 1 ++ [content] := by
      simp only [flashSectors, fsSectorWritten, if_neg free, FsMedia.apply, cells_update]
      rw [target, full]
      exact window_rotate _ inv.rdSector content
    rw [if_neg free, flashSlots, flashSlots, sectors, drop_drop,
      show s.rg.rdRecIdx + (g.recPerSector - s.rg.rdRecIdx) = 1 * g.recPerSector by omega,
      blocks_drop (sectorSlots_length g)]
    simp [fsSectorWritten, if_neg free]

lemma flashSlots_unrecorded (inv : RingInv g s.rg)
    (free : s.rg.validSectors < g.regionSectors) (content) :
    flashSlots g ⟨s.rg, s.media.apply (.flashWrite (fsSectorOffset g s.rg.wrSector) content)⟩ = flashSlots g s := by
  simp only [flashSlots, flashSectors, FsMedia.apply, cells_update, inv.wrSector, window_update_free _ free]

lemma RingInv.written (inv : RingInv g rg) : RingInv g (fsSectorWritten g rg) := by
  have positive := g.regionSectors_pos
  have index := inv.rdRecIdx
  have bound := inv.validSectors
  by_cases free : rg.validSectors < g.regionSectors
  · refine ⟨?_, ?_, ?_, ?_, ?_⟩ <;> simp only [fsSectorWritten, if_pos free]
    · rw [inv.wrSector, Nat.mod_add_mod, Nat.add_assoc]
    · exact inv.rdSector
    · omega
    · exact index
    · omega
  · have full : rg.validSectors = g.regionSectors := by omega
    refine ⟨?_, ?_, ?_, ?_, ?_⟩ <;> simp only [fsSectorWritten, if_neg free]
    · rw [inv.wrSector, full, Nat.add_mod_right, Nat.add_mod_right, Nat.mod_mod, Nat.mod_add_mod]
    · exact Nat.mod_lt _ positive
    · exact bound
    · exact g.recPerSector_pos
    · intro _
      trivial

lemma written_session (g) (rg : FsRegion α) :
    (fsSectorWritten g rg).readOffset = rg.readOffset ∧ (fsSectorWritten g rg).stagingReadIdx = rg.stagingReadIdx ∧
    (fsSectorWritten g rg).uploadStagingSnap = rg.uploadStagingSnap ∧
    (fsSectorWritten g rg).uploadActive = rg.uploadActive := by
  unfold fsSectorWritten
  split <;> exact ⟨rfl, rfl, rfl, rfl⟩

/-! Acknowledging -/

lemma consumed_le (inv : RingInv g rg)
    (read : rg.readOffset ≤ rg.validSectors * g.recPerSector - rg.rdRecIdx) :
    (rg.rdRecIdx + rg.readOffset) / g.recPerSector ≤ rg.validSectors := by
  have bound := inv.rdRecIdx_le
  apply Nat.div_le_of_le_mul
  rw [Nat.mul_comm]
  omega

lemma fsCommitFlash_eq (inv : RingInv g rg)
    (read : rg.readOffset ≤ rg.validSectors * g.recPerSector - rg.rdRecIdx) :
    fsCommitFlash g rg = { rg with
      rdSector := (rg.rdSector + (rg.rdRecIdx + rg.readOffset) / g.recPerSector) % g.regionSectors
      validSectors := rg.validSectors - (rg.rdRecIdx + rg.readOffset) / g.recPerSector
      rdRecIdx := (rg.rdRecIdx + rg.readOffset) % g.recPerSector } := by
  have enough := consumed_le inv read
  simp only [fsCommitFlash, if_pos enough]
  split_ifs with some
  · rfl
  · have none := Nat.eq_zero_of_not_pos some
    simp only [none, Nat.add_zero, Nat.sub_zero, Nat.mod_eq_of_lt inv.rdSector]

lemma RingInv.committed (inv : RingInv g rg)
    (read : rg.readOffset ≤ rg.validSectors * g.recPerSector - rg.rdRecIdx) : RingInv g (fsCommitFlash g rg) := by
  have enough := consumed_le inv read
  rw [fsCommitFlash_eq inv read]
  refine ⟨?_, Nat.mod_lt _ g.regionSectors_pos, ?_, Nat.mod_lt _ g.recPerSector_pos, ?_⟩
  · simp only
    rw [inv.wrSector, Nat.mod_add_mod, Nat.add_assoc, Nat.add_sub_cancel' enough]
  · exact Nat.le_trans (Nat.sub_le _ _) inv.validSectors
  · intro empty
    have bound := inv.rdRecIdx_le
    have last : (rg.rdRecIdx + rg.readOffset) / g.recPerSector = rg.validSectors := by
      simp only at empty
      omega
    have whole := Nat.div_add_mod' (rg.rdRecIdx + rg.readOffset) g.recPerSector
    rw [last] at whole
    simp only
    omega

lemma flashSlots_committed (inv : RingInv g s.rg)
    (read : s.rg.readOffset ≤ s.rg.validSectors * g.recPerSector - s.rg.rdRecIdx) :
    flashSlots g ⟨fsCommitFlash g s.rg, s.media⟩ = (flashSlots g s).drop s.rg.readOffset := by
  rw [fsCommitFlash_eq inv read, flashSlots, flashSlots, drop_drop]
  simp only [flashSectors]
  rw [← window_drop, ← blocks_drop (sectorSlots_length g), drop_drop, Nat.div_add_mod']

lemma stagedSlots_committed (read : rg.stagingReadIdx ≤ rg.stagingCount) :
    stagedSlots (fsCommitStaging rg).1 = (stagedSlots rg).drop rg.stagingReadIdx := by
  apply ext_getElem
  · simp only [stagedSlots_length, length_drop, fsCommitStaging, if_pos read]
    split_ifs
    · rfl
    · rfl
    · change rg.stagingCount = rg.stagingCount - rg.stagingReadIdx
      omega
  · intro i inside other
    simp only [stagedSlots_length, length_drop] at inside other
    simp only [stagedSlots, getElem_drop, getElem_map, getElem_range, fsCommitStaging, if_pos read]
    split_ifs with some left
    · simp only [if_pos (show i < rg.stagingCount - rg.stagingReadIdx by omega)]
    · omega
    · rw [show rg.stagingReadIdx = 0 by omega, Nat.zero_add]

lemma fsCommitStaging_cases (rg : FsRegion α) : ∃ buf moves, ∃ count ≤ rg.stagingCount,
      fsCommitStaging rg = ({ rg with stagingBuf := buf, stagingCount := count }, moves) ∧
      (moves = [] ∨ moves = [.stagingMove rg.stagingReadIdx (rg.stagingCount - rg.stagingReadIdx)]) := by
  by_cases some : 0 < rg.stagingReadIdx
  · by_cases left : rg.stagingReadIdx < rg.stagingCount
    · exact ⟨_, _, _, Nat.sub_le rg.stagingCount rg.stagingReadIdx, by
        simp only [fsCommitStaging, if_pos some, if_pos (Nat.le_of_lt left), if_pos (Nat.sub_pos_of_lt left)]
        rfl, .inr rfl⟩
    · refine ⟨rg.stagingBuf, [], 0, Nat.zero_le _, ?_, .inl rfl⟩
      have empty : (if rg.stagingReadIdx ≤ rg.stagingCount then rg.stagingCount - rg.stagingReadIdx else 0) = 0 := by
        split <;> omega
      simp only [fsCommitStaging, if_pos some, empty, Nat.lt_irrefl, if_false]
  · exact ⟨rg.stagingBuf, [], rg.stagingCount, Nat.le_refl _, by simp only [fsCommitStaging, if_neg some], .inl rfl⟩

lemma media_moves (rg : FsRegion α) (media : FsMedia α) :
    (fsCommitStaging rg).2.foldl FsMedia.apply media = media := by
  obtain ⟨buf, moves, count, _, compacted, rfl | rfl⟩ := fsCommitStaging_cases rg
  · rw [compacted]
    rfl
  · rw [compacted]
    rfl

/-! The store as a machine on lists -/

@[ext] structure FsView (α : Type) where
  flash : List (FsSlot α)
  staged : List (FsSlot α)
  readOffset : Nat
  stagingReadIdx : Nat
  uploadStagingSnap : Nat
  uploadActive : Bool
  deriving DecidableEq

/-- The state without its place in the ring. -/
def viewOf (g : FsLayout) (s : FsState α) : FsView α :=
  ⟨flashSlots g s, stagedSlots s.rg, s.rg.readOffset, s.rg.stagingReadIdx, s.rg.uploadStagingSnap, s.rg.uploadActive⟩

namespace FsView

def push (g : FsLayout) (v : FsView α) (data : α) : Int × FsView α :=
  if v.uploadActive ∧ g.recPerSector ≤ v.staged.length then (-ebusy, v)
  else if v.uploadActive ∨ v.staged.length + 1 < g.recPerSector then
    (0, { v with staged := v.staged ++ [fsMarked data] })
  else
    (0, { v with
      flash := v.flash.drop (v.flash.length - (g.regionSectors - 1) * g.recPerSector) ++
        (v.staged ++ [fsMarked data]).take g.recPerSector
      staged := [] })

def opened (v : FsView α) : FsView α :=
  if v.uploadActive then v else { v with uploadActive := true, uploadStagingSnap := v.staged.length }

def readOpened (v : FsView α) : FsRead α × FsView α :=
  match scan (v.flash.drop v.readOffset) with
  | (some data, passed) => (.record data, { v with readOffset := v.readOffset + passed })
  | (none, passed) =>
    match (v.staged.take v.uploadStagingSnap)[v.stagingReadIdx]? with
    | some slot =>
      (.record slot.data, { v with readOffset := v.readOffset + passed, stagingReadIdx := v.stagingReadIdx + 1 })
    | none => (.empty, { v with readOffset := v.readOffset + passed })

def rewound (v : FsView α) : FsView α :=
  { v with readOffset := 0, stagingReadIdx := 0, uploadActive := false, uploadStagingSnap := 0 }

def step (g : FsLayout) (v : FsView α) : FsOp α → FsAnswer α × FsView α
  | .push data => ((v.push g data).1 |> .code, (v.push g data).2)
  | .pendingCount => (.count (v.flash.length + v.staged.length), v)
  | .readNext => (.read v.opened.readOpened.1, v.opened.readOpened.2)
  | .rewind => (.unit, v.rewound)
  | .uploadBegin => (.unit, { v with
      readOffset := 0, stagingReadIdx := 0, uploadActive := true, uploadStagingSnap := v.staged.length })
  | .commit => (.code 0, { v.rewound with
      flash := v.flash.drop v.readOffset, staged := v.staged.drop v.stagingReadIdx })
  | .clear => (.unit, ⟨[], [], 0, 0, 0, false⟩)

end FsView

structure FsIo.Ok (io : FsIo) : Prop where
  flashWrite : io.flashWrite = 0
  flashRead : io.ReadsOk
  zmsWrite : io.zmsWrite = true

lemma FsIo.ok_ok : FsIo.ok.Ok := ⟨rfl, fun _ _ => rfl, rfl⟩

lemma flashSlots_sectors {g} {first second : FsMedia α}
    (same : first.sectors = second.sectors) : flashSlots g ⟨rg, first⟩ = flashSlots g ⟨rg, second⟩ := by
  simp only [flashSlots, flashSectors, same]

lemma view_opened (g) (s : FsState α) : viewOf g ⟨fsOpenSession s.rg, s.media⟩ = (viewOf g s).opened := by
  have same : (viewOf g s).uploadActive = s.rg.uploadActive := rfl
  by_cases active : s.rg.uploadActive
  · rw [fsOpenSession, FsView.opened, same, if_pos active, if_pos active]
  · rw [fsOpenSession, FsView.opened, same, if_neg active, if_neg active]
    simp only [viewOf, stagedSlots_length]
    rfl

lemma readNext_effects (g io) (rg : FsRegion α) (media : FsMedia α) :
    (myFlashStoreReadNext g io rg media).effects = [] ∨
      ∃ slot, (myFlashStoreReadNext g io rg media).effects = [.stagingRead slot] := by
  rw [myFlashStoreReadNext]
  split
  · exact .inl rfl
  · split
    · exact .inr ⟨_, rfl⟩
    · exact .inl rfl

lemma media_read (g io) (rg : FsRegion α) (media : FsMedia α) :
    (myFlashStoreReadNext g io rg media).effects.foldl FsMedia.apply media = media := by
  rcases readNext_effects g io rg media with none | ⟨slot, one⟩
  · rw [none]
    rfl
  · rw [one]
    rfl

lemma view_readNext {g} (ok : io.ReadsOk) (inv : RepInv g s.rg) :
    (myFlashStoreReadNext g io s.rg s.media).ret = (viewOf g s).opened.readOpened.1 ∧
    viewOf g ⟨(myFlashStoreReadNext g io s.rg s.media).rg, s.media⟩ = (viewOf g s).opened.readOpened.2 := by
  have held := inv.opened
  rw [← view_opened, FsView.readOpened, myFlashStoreReadNext, fsReadFlash_eq ok _ held.toRingInv rfl]
  simp only [viewOf]
  rcases scan ((flashSlots g ⟨fsOpenSession s.rg, s.media⟩).drop (fsOpenSession s.rg).readOffset) with ⟨_ | data, passed⟩
  · by_cases left : (fsOpenSession s.rg).stagingReadIdx < (fsOpenSession s.rg).uploadStagingSnap
    · have staged := held.uploadStagingSnap
      have slot : ((stagedSlots (fsOpenSession s.rg)).take (fsOpenSession s.rg).uploadStagingSnap)[
          (fsOpenSession s.rg).stagingReadIdx]? =
          some ((fsOpenSession s.rg).stagingBuf (fsOpenSession s.rg).stagingReadIdx) := by
        rw [List.getElem?_take_of_lt left, stagedSlots, List.getElem?_map, List.getElem?_range (by omega)]
        rfl
      simp only [Option.map_none, if_pos left, slot]
      exact ⟨trivial, rfl⟩
    · have none : ((stagedSlots (fsOpenSession s.rg)).take (fsOpenSession s.rg).uploadStagingSnap)[
          (fsOpenSession s.rg).stagingReadIdx]? = none := by
        rw [List.getElem?_eq_none_iff, length_take]
        omega
      simp only [Option.map_none, if_neg left, none]
      exact ⟨trivial, rfl⟩
  · exact ⟨rfl, rfl⟩

variable [Crc32Ieee] {g : FsLayout} {io : FsIo}

lemma media_saved (rg) (media : FsMedia α) :
    ((fsMetaSave io rg).2.foldl FsMedia.apply media).sectors = media.sectors := by
  unfold fsMetaSave
  split <;> rfl

lemma fsMetaSave_ret (written : io.zmsWrite = true) (rg : FsRegion α) : (fsMetaSave io rg).1 = 0 := by
  simp [fsMetaSave, written]

lemma fsFlushStaging_eq [Inhabited α] (written : io.flashWrite = 0) (some : rg.stagingCount ≠ 0) :
    fsFlushStaging g io rg = ⟨(fsMetaSave io (fsSectorWritten g rg)).1, fsSectorWritten g rg,
      .sectorCopy (rg.stagingCount * g.recSize) :: .flashWrite (fsSectorOffset g rg.wrSector) (fsSectorImage g rg) ::
        (if rg.validSectors < g.regionSectors then [] else [FsEffect.overwriteOldest rg.rdSector]) ++
        (fsMetaSave io (fsSectorWritten g rg)).2⟩ := by
  simp [fsFlushStaging, some, written]

lemma media_flushed [Inhabited α] (written : io.flashWrite = 0) (some : rg.stagingCount ≠ 0)
    (media : FsMedia α) :
    ((fsFlushStaging g io rg).effects.foldl FsMedia.apply media).sectors =
      (media.apply (.flashWrite (fsSectorOffset g rg.wrSector) (fsSectorImage g rg))).sectors := by
  rw [fsFlushStaging_eq written some]
  simp only [foldl_append, foldl_cons, media_saved]
  split <;> rfl

lemma fsRegionPush_cases [Inhabited α] (g : FsLayout) (io) (rg : FsRegion α) (data : α) :
    (rg.uploadActive ∧ g.recPerSector ≤ rg.stagingCount ∧ fsRegionPush g io rg data = ⟨-ebusy, rg, []⟩) ∨
    ((rg.uploadActive ∨ rg.stagingCount + 1 < g.recPerSector) ∧ (rg.uploadActive → rg.stagingCount < g.recPerSector) ∧
      fsRegionPush g io rg data = ⟨0, fsStage rg data, [.stagingWrite rg.stagingCount]⟩) ∨
    (rg.uploadActive = false ∧ g.recPerSector ≤ rg.stagingCount + 1 ∧
      fsRegionPush g io rg data = { fsFlushStaging g io (fsStage rg data) with
        effects := .stagingWrite rg.stagingCount :: (fsFlushStaging g io (fsStage rg data)).effects }) := by
  by_cases refused : rg.uploadActive ∧ g.recPerSector ≤ rg.stagingCount
  · exact .inl ⟨refused.1, refused.2, by simp only [fsRegionPush, if_pos refused]⟩
  · right
    by_cases full : g.recPerSector ≤ (fsStage rg data).stagingCount ∧ ¬ (fsStage rg data).uploadActive
    · right
      refine ⟨Bool.eq_false_iff.mpr full.2, full.1, ?_⟩
      simp only [fsRegionPush, if_neg refused, if_pos full]
    · left
      refine ⟨?_, ?_, by simp only [fsRegionPush, if_neg refused, if_neg full]⟩
      · by_contra neither
        obtain ⟨idle, last⟩ := not_or.mp neither
        exact full ⟨Nat.le_of_not_lt last, idle⟩
      · intro active
        exact Nat.lt_of_not_le fun room => refused ⟨active, room⟩

lemma push_flushed [Inhabited α] (inv : RepInv g s.rg) (written : io.flashWrite = 0)
    (idle : s.rg.uploadActive = false) (full : g.recPerSector ≤ s.rg.stagingCount + 1) (data : α) :
    (fsStep g io s (.push data)).1 = .code (fsMetaSave io (fsSectorWritten g (fsStage s.rg data))).1 ∧
    viewOf g (fsStep g io s (.push data)).2 = { viewOf g s with
      flash := (flashSlots g s).drop ((flashSlots g s).length - (g.regionSectors - 1) * g.recPerSector) ++
        (stagedSlots s.rg ++ [fsMarked data]).take g.recPerSector
      staged := [] } := by
  have some : (fsStage s.rg data).stagingCount ≠ 0 := Nat.succ_ne_zero _
  have ring : RingInv g (fsStage s.rg data) := { inv with }
  have slots := flashSlots_written (s := ⟨fsStage s.rg data, s.media⟩) ring (fsSectorImage g (fsStage s.rg data))
  rw [sectorSlots_image full, stagedSlots_stage, ← flashSlots_sectors (media_flushed written some s.media)] at slots
  rcases fsRegionPush_cases g io s.rg data with ⟨busy, _⟩ | ⟨stays, _⟩ | ⟨_, _, call⟩
  · exact nomatch idle.symm.trans busy
  · rcases stays with busy | room
    · exact nomatch idle.symm.trans busy
    · omega
  · simp only [fsStep, fsCall]
    rw [call]
    rw [fsFlushStaging_eq written some] at slots ⊢
    refine ⟨rfl, ?_⟩
    obtain ⟨offset, read, snap, open'⟩ := written_session g (fsStage s.rg data)
    exact FsView.ext slots rfl offset read snap open'

lemma view_push [Inhabited α] (ok : s.rg.uploadActive = true ∨ io.Ok) (inv : RepInv g s.rg)
    (data : α) :
    (fsRegionPush g io s.rg data).ret = ((viewOf g s).push g data).1 ∧
    viewOf g ⟨(fsRegionPush g io s.rg data).rg, (fsRegionPush g io s.rg data).effects.foldl FsMedia.apply s.media⟩ =
      ((viewOf g s).push g data).2 := by
  have staged : (viewOf g s).staged.length = s.rg.stagingCount := stagedSlots_length s.rg
  have active : (viewOf g s).uploadActive = s.rg.uploadActive := rfl
  rcases fsRegionPush_cases g io s.rg data with ⟨busy, full, call⟩ | ⟨stays, room, call⟩ | ⟨idle, full, call⟩
  · rw [call]
    simp only [FsView.push, staged, active, if_pos (And.intro busy full)]
    exact ⟨trivial, rfl⟩
  · have accepted : ¬ (s.rg.uploadActive ∧ g.recPerSector ≤ s.rg.stagingCount) := fun refused =>
      Nat.not_lt_of_le refused.2 (room refused.1)
    rw [call]
    simp only [FsView.push, staged, active, if_neg accepted, if_pos stays]
    refine ⟨trivial, ?_⟩
    simp only [viewOf, stagedSlots_stage]
    rfl
  · replace ok : io.Ok := by simpa [idle] using ok
    have accepted : ¬ (s.rg.uploadActive ∧ g.recPerSector ≤ s.rg.stagingCount) := by simp [idle]
    have leaves : ¬ (s.rg.uploadActive ∨ s.rg.stagingCount + 1 < g.recPerSector) := by simp [idle, full]
    obtain ⟨ret, view⟩ := push_flushed inv ok.flashWrite idle full data
    simp only [FsView.push, staged, active, if_neg accepted, if_neg leaves]
    exact ⟨(FsAnswer.code.inj ret).trans (fsMetaSave_ret ok.zmsWrite _), view⟩

lemma view_commit [Inhabited α] (io) (inv : RepInv g s.rg) :
    viewOf g (fsStep g io s .commit).2 = { (viewOf g s).rewound with
      flash := (viewOf g s).flash.drop s.rg.readOffset, staged := (viewOf g s).staged.drop s.rg.stagingReadIdx } := by
  change viewOf g ⟨(myFlashStoreCommit g io s.rg).rg,
    (myFlashStoreCommit g io s.rg).effects.foldl FsMedia.apply s.media⟩ = _
  refine FsView.ext ?_ ?_ rfl rfl rfl rfl
  · have read := flashSlots_committed inv.toRingInv inv.readOffset
    obtain ⟨buf, moves, count, _, compacted, _⟩ := fsCommitStaging_cases (fsCommitFlash g s.rg)
    simp only [myFlashStoreCommit, viewOf, foldl_append]
    rw [flashSlots_sectors (media_saved _ _), media_moves, compacted, ← read]
    rfl
  · have bound : (fsCommitFlash g s.rg).stagingReadIdx ≤ (fsCommitFlash g s.rg).stagingCount := by
      rw [fsCommitFlash_eq inv.toRingInv inv.readOffset]
      exact Nat.le_trans inv.stagingReadIdx inv.uploadStagingSnap
    have moved := stagedSlots_committed bound
    rw [fsCommitFlash_eq inv.toRingInv inv.readOffset] at moved
    simp only [myFlashStoreCommit, viewOf]
    rw [fsCommitFlash_eq inv.toRingInv inv.readOffset]
    exact moved

lemma view_session [Inhabited α] (ok : io.ReadsOk) (inv : RepInv g s.rg)
    (active : s.rg.uploadActive = true) {op} (session : op = .readNext ∨ ∃ data, op = .push data) :
    (fsStep g io s op).1 = ((viewOf g s).step g op).1 ∧
    viewOf g (fsStep g io s op).2 = ((viewOf g s).step g op).2 := by
  rcases session with rfl | ⟨data, rfl⟩
  · obtain ⟨ret, view⟩ := view_readNext ok inv
    refine ⟨congrArg FsAnswer.read ret, ?_⟩
    simp only [fsStep, fsCall, media_read]
    exact view
  · obtain ⟨ret, view⟩ := view_push (.inl active) inv data
    exact ⟨congrArg FsAnswer.code ret, view⟩

lemma view_step [Inhabited α] (ok : io.Ok) (inv : RepInv g s.rg) (op : FsOp α) :
    (fsStep g io s op).1 = ((viewOf g s).step g op).1 ∧
    viewOf g (fsStep g io s op).2 = ((viewOf g s).step g op).2 := by
  cases op with
  | push data =>
    obtain ⟨ret, view⟩ := view_push (.inr ok) inv data
    exact ⟨congrArg FsAnswer.code ret, view⟩
  | pendingCount => exact ⟨congrArg FsAnswer.count (pendingCount_eq inv.toRingInv), rfl⟩
  | readNext =>
    obtain ⟨ret, view⟩ := view_readNext ok.flashRead inv
    refine ⟨congrArg FsAnswer.read ret, ?_⟩
    simp only [fsStep, fsCall, media_read]
    exact view
  | rewind | clear => exact ⟨rfl, rfl⟩
  | uploadBegin =>
    refine ⟨rfl, FsView.ext rfl rfl rfl rfl ?_ rfl⟩
    exact (stagedSlots_length s.rg).symm
  | commit => exact ⟨congrArg FsAnswer.code (fsMetaSave_ret ok.zmsWrite _), view_commit io inv⟩

end LL320D.FlashStore
