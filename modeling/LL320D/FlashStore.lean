import Mathlib

/-! The circular flash store of `my_flash_store.c` and its records. They gather in a RAM staging buffer; a full one is
written as a sector of the region's ring. Every call lists its writes in order, so that a power loss can cut it short. -/

namespace LL320D
structure BtAddrLe where
  type : UInt8
  val : List UInt8
  deriving DecidableEq

structure TagScanResult where
  addr : BtAddrLe
  name : List UInt8
  ffData : List UInt8
  uuid : List UInt8
  batteryPercent : UInt8
  rssi : Int8
  timestamp : UInt32
  deriving DecidableEq

structure TranMacResultItem where
  addr : BtAddrLe
  advData : List UInt8
  timestamp : UInt32
  deriving DecidableEq

structure FsTempHumiRecord where
  timestamp : UInt32
  temperatureX10 : Int16
  humidityX10 : UInt16
  deriving DecidableEq

structure FsBarometerRecord where
  timestamp : UInt32
  pressurePa : UInt32
  deriving DecidableEq

def BtAddrLe.zero : BtAddrLe := ⟨0, List.replicate 6 0⟩

instance : Inhabited TagScanResult := ⟨⟨.zero, [], [], [], 0, 0, 0⟩⟩

instance : Inhabited TranMacResultItem := ⟨⟨.zero, [], 0⟩⟩

instance : Inhabited FsTempHumiRecord := ⟨⟨0, 0, 0⟩⟩

instance : Inhabited FsBarometerRecord := ⟨⟨0, 0⟩⟩

/-- `fs_data_type_t`; the sentinel `FS_TYPE_MAX` is `none` where it can occur. -/
inductive FsDataType where
  | tag
  | mac
  | th
  | bp
  deriving DecidableEq

def FsRecord : FsDataType → Type
  | .tag => TagScanResult
  | .mac => TranMacResultItem
  | .th => FsTempHumiRecord
  | .bp => FsBarometerRecord

instance (type : FsDataType) : Inhabited (FsRecord type) :=
  match type with
  | .tag => inferInstanceAs (Inhabited TagScanResult)
  | .mac => inferInstanceAs (Inhabited TranMacResultItem)
  | .th => inferInstanceAs (Inhabited FsTempHumiRecord)
  | .bp => inferInstanceAs (Inhabited FsBarometerRecord)

instance (type : FsDataType) : DecidableEq (FsRecord type) :=
  match type with
  | .tag => inferInstanceAs (DecidableEq TagScanResult)
  | .mac => inferInstanceAs (DecidableEq TranMacResultItem)
  | .th => inferInstanceAs (DecidableEq FsTempHumiRecord)
  | .bp => inferInstanceAs (DecidableEq FsBarometerRecord)

end LL320D

namespace LL320D.FlashStore
def fsSectorSize : Nat := 4096
def fsSectorHeaderSize : Nat := 16
def fsSectorMagic : Nat := 0x424C4453
def fsRecMagic : Nat := 0xA5
def fsMetaMagic : Nat := 0x46535431

def ebusy : Int := 16
def eio : Int := 5
def einval : Int := 22

/-- The constants of an `fs_region_t`. A region can hold at least one record, and
a full staging buffer fits behind the sector header. -/
structure FsLayout where
  sectorBase : Nat
  recSize : Nat
  recPerSector : Nat
  regionSectors : Nat
  recPerSector_pos : 0 < recPerSector
  regionSectors_pos : 0 < regionSectors
  fits : recPerSector * recSize ≤ fsSectorSize - fsSectorHeaderSize

def fsLayout : FsDataType → FsLayout
  | .tag => ⟨0, 96, (fsSectorSize - fsSectorHeaderSize) / 96, 12, by decide, by decide, by decide⟩
  | .mac => ⟨0 + 12, 48, (fsSectorSize - fsSectorHeaderSize) / 48, 13, by decide, by decide, by decide⟩
  | .th => ⟨0 + 12 + 13, 12, (fsSectorSize - fsSectorHeaderSize) / 12, 12, by decide, by decide, by decide⟩
  | .bp => ⟨0 + 12 + 13 + 12, 12, (fsSectorSize - fsSectorHeaderSize) / 12, 13, by decide, by decide, by decide⟩

structure FsSectorHeader where
  magic : Nat
  seq : Nat
  recCount : Nat
  recSize : Nat

structure FsSlot (α : Type) where
  magic : Nat
  data : α
  deriving DecidableEq

structure FsSector (α : Type) where
  header : FsSectorHeader
  slots : Nat → FsSlot α

structure FsMeta where
  magic : Nat
  wrSector : Nat
  rdSector : Nat
  validSectors : Nat
  rdRecIdx : Nat
  seqCounter : Nat
  crc : UInt32
  deriving DecidableEq

/-- A region in RAM. The array behind `stagingBuf` has `rec_per_sector` slots; `FsEffect.stagingWrite` and
`FsEffect.stagingRead` name the slot of each access, so that one behind the array shows. -/
structure FsRegion (α : Type) where
  wrSector : Nat
  rdSector : Nat
  validSectors : Nat
  rdRecIdx : Nat
  seqCounter : Nat
  readOffset : Nat
  stagingReadIdx : Nat
  uploadStagingSnap : Nat
  uploadActive : Bool
  stagingBuf : Nat → FsSlot α
  stagingCount : Nat

/-- What survives a power loss: the sectors by their byte offset in the partition,
and the region's ZMS entry. The entry is `none` when ZMS has none of that size. -/
structure FsMedia (α : Type) where
  sectors : Nat → FsSector α
  zms : Option FsMeta

/-- A call's accesses to the staging and sector buffers, in bytes or slots, its
warning that the ring is full, and its writes to persistent storage. -/
inductive FsEffect (α : Type) where
  | stagingWrite (slot : Nat)
  | stagingRead (slot : Nat)
  | stagingMove (source count : Nat)
  | sectorCopy (bytes : Nat)
  | overwriteOldest (sector : Nat)
  | flashWrite (offset : Nat) (content : FsSector α)
  | metaWrite (entry : FsMeta)

/-- The codes of `flash_area_write` and of `flash_area_read` at each slot, and whether `my_user_data_write` wrote the
whole entry. -/
structure FsIo where
  flashWrite : Int
  flashRead : Nat → Nat → Int
  zmsWrite : Bool

def FsIo.ok : FsIo := ⟨0, fun _ _ => 0, true⟩

/-- `crc32_ieee` of the Zephyr library, which is not part of this repository. -/
class Crc32Ieee where
  crc32Ieee : List UInt8 → UInt32

instance : Crc32Ieee where
  crc32Ieee bytes :=
    let shift (crc : UInt32) : UInt32 := if crc &&& 1 = 1 then crc >>> 1 ^^^ 0xEDB88320 else crc >>> 1
    bytes.foldl (fun crc byte => shift^[8] (crc ^^^ byte.toUInt32)) 0xFFFFFFFF ^^^ 0xFFFFFFFF

example : Crc32Ieee.crc32Ieee [0x31, 0x32, 0x33, 0x34, 0x35, 0x36, 0x37, 0x38, 0x39] = 0xCBF43926 := by decide +kernel

structure FsCall (α ρ : Type) where
  ret : ρ
  rg : FsRegion α
  effects : List (FsEffect α)

inductive FsRead (α : Type) where
  | record (data : α)
  | empty
  | error (code : Int)
  deriving DecidableEq

variable [Crc32Ieee] {α : Type}

def leBytes : Nat → Nat → List UInt8
  | 0, _ => []
  | size + 1, value => UInt8.ofNat value :: leBytes size (value / 256)

def fsMetaCalcCrc (entry : FsMeta) : UInt32 :=
  Crc32Ieee.crc32Ieee (leBytes 4 entry.magic ++ leBytes 2 entry.wrSector ++ leBytes 2 entry.rdSector ++
    leBytes 2 entry.validSectors ++ leBytes 2 entry.rdRecIdx ++ leBytes 4 entry.seqCounter)

def fsMetaOf (rg : FsRegion α) : FsMeta :=
  let body : FsMeta := ⟨fsMetaMagic, rg.wrSector, rg.rdSector, rg.validSectors, rg.rdRecIdx, rg.seqCounter, 0⟩
  { body with crc := fsMetaCalcCrc body }

def fsMetaSave (io : FsIo) (rg : FsRegion α) : Int × List (FsEffect α) :=
  if io.zmsWrite then (0, [.metaWrite (fsMetaOf rg)]) else (-eio, [])

def fsRegionReset (rg : FsRegion α) : FsRegion α := { rg with
    wrSector := 0, rdSector := 0, validSectors := 0, rdRecIdx := 0, seqCounter := 0
    readOffset := 0, stagingReadIdx := 0, uploadStagingSnap := 0, uploadActive := false, stagingCount := 0 }

def fsRegionLoad (g : FsLayout) (zms : Option FsMeta) (rg : FsRegion α) : FsRegion α :=
  match zms with
  | none => fsRegionReset rg
  | some entry =>
    if entry.magic ≠ fsMetaMagic ∨ entry.crc ≠ fsMetaCalcCrc entry then fsRegionReset rg
    else if g.regionSectors ≤ entry.wrSector ∨ g.regionSectors ≤ entry.rdSector ∨
        g.regionSectors < entry.validSectors ∨ g.recPerSector < entry.rdRecIdx then fsRegionReset rg
    else { rg with
      wrSector := entry.wrSector, rdSector := entry.rdSector, validSectors := entry.validSectors
      rdRecIdx := entry.rdRecIdx, seqCounter := entry.seqCounter, stagingCount := 0 }

def fsSectorOffset (g : FsLayout) (sectorIdx : Nat) : Nat := (g.sectorBase + sectorIdx) * fsSectorSize

def fsSectorImage [Inhabited α] (g : FsLayout) (rg : FsRegion α) : FsSector α where
  header := ⟨fsSectorMagic, rg.seqCounter, rg.stagingCount, g.recSize⟩
  slots i := if i < rg.stagingCount then rg.stagingBuf i else ⟨0xFF, default⟩

def fsSectorWritten (g : FsLayout) (rg : FsRegion α) : FsRegion α :=
  let counted :=
    if rg.validSectors < g.regionSectors then { rg with validSectors := rg.validSectors + 1 }
    else { rg with rdSector := (rg.rdSector + 1) % g.regionSectors, rdRecIdx := 0 }
  { counted with
    seqCounter := (rg.seqCounter + 1) % 2 ^ 32
    wrSector := (rg.wrSector + 1) % g.regionSectors
    stagingCount := 0 }

def fsFlushStaging [Inhabited α] (g : FsLayout) (io : FsIo) (rg : FsRegion α) : FsCall α Int :=
  if rg.stagingCount = 0 then ⟨0, rg, []⟩
  else
    let copy : FsEffect α := .sectorCopy (rg.stagingCount * g.recSize)
    if io.flashWrite ≠ 0 then
      ⟨io.flashWrite, { rg with stagingCount := rg.stagingCount - 1 }, [copy]⟩
    else
      let full : List (FsEffect α) :=
        if rg.validSectors < g.regionSectors then [] else [.overwriteOldest rg.rdSector]
      let (ret, saved) := fsMetaSave io (fsSectorWritten g rg)
      ⟨ret, fsSectorWritten g rg,
        copy :: .flashWrite (fsSectorOffset g rg.wrSector) (fsSectorImage g rg) :: full ++ saved⟩

def fsMarked (data : α) : FsSlot α := ⟨fsRecMagic, data⟩

def fsStage (rg : FsRegion α) (data : α) : FsRegion α := { rg with
    stagingBuf := Function.update rg.stagingBuf rg.stagingCount (fsMarked data)
    stagingCount := rg.stagingCount + 1 }

def fsRegionPush [Inhabited α] (g : FsLayout) (io : FsIo) (rg : FsRegion α) (data : α) : FsCall α Int :=
  if rg.uploadActive ∧ g.recPerSector ≤ rg.stagingCount then ⟨-ebusy, rg, []⟩
  else
    let staged := fsStage rg data
    if g.recPerSector ≤ staged.stagingCount ∧ ¬ staged.uploadActive then
      let flushed := fsFlushStaging g io staged
      { flushed with effects := .stagingWrite rg.stagingCount :: flushed.effects }
    else ⟨0, staged, [.stagingWrite rg.stagingCount]⟩

def fsReadFlashRecord (g : FsLayout) (io : FsIo) (media : FsMedia α) (sectorIdx recIdx : Nat) : FsRead α :=
  if io.flashRead sectorIdx recIdx ≠ 0 then .error (io.flashRead sectorIdx recIdx)
  else
    let slot := (media.sectors (fsSectorOffset g sectorIdx)).slots recIdx
    if slot.magic ≠ fsRecMagic then .empty else .record slot.data

def fsFlashTotal (g : FsLayout) (rg : FsRegion α) : Nat :=
  let flashRecs := rg.validSectors * g.recPerSector
  if rg.rdRecIdx ≤ flashRecs then flashRecs - rg.rdRecIdx else 0

def myFlashStorePendingCount (g : FsLayout) (rg : FsRegion α) : Nat := fsFlashTotal g rg + rg.stagingCount

/-- First phase of `my_flash_store_read_next`: the loop over the flash slots not read
yet, at most `count` of them. Nothing is returned when no slot is valid. -/
def fsReadFlash (g : FsLayout) (io : FsIo) (media : FsMedia α) : Nat → FsRegion α → Option (FsRead α) × FsRegion α
  | 0, rg => (none, rg)
  | count + 1, rg =>
    let absRec := rg.rdRecIdx + rg.readOffset
    let sectorIdx := (rg.rdSector + absRec / g.recPerSector) % g.regionSectors
    match fsReadFlashRecord g io media sectorIdx (absRec % g.recPerSector) with
    | .error code => (some (.error code), rg)
    | .record data => (some (.record data), { rg with readOffset := rg.readOffset + 1 })
    | .empty => fsReadFlash g io media count { rg with readOffset := rg.readOffset + 1 }

def fsOpenSession (rg : FsRegion α) : FsRegion α :=
  if rg.uploadActive then rg
  else { rg with uploadActive := true, uploadStagingSnap := rg.stagingCount }

def myFlashStoreReadNext (g : FsLayout) (io : FsIo) (rg : FsRegion α) (media : FsMedia α) : FsCall α (FsRead α) :=
  let opened := fsOpenSession rg
  match fsReadFlash g io media (fsFlashTotal g opened - opened.readOffset) opened with
  | (some result, rg) => ⟨result, rg, []⟩
  | (none, rg) =>
    if rg.stagingReadIdx < rg.uploadStagingSnap then
      ⟨.record (rg.stagingBuf rg.stagingReadIdx).data, { rg with stagingReadIdx := rg.stagingReadIdx + 1 },
        [.stagingRead rg.stagingReadIdx]⟩
    else ⟨.empty, rg, []⟩

def myFlashStoreRewind (rg : FsRegion α) : FsRegion α :=
  { rg with readOffset := 0, stagingReadIdx := 0, uploadActive := false, uploadStagingSnap := 0 }

def myFlashStoreUploadBegin (rg : FsRegion α) : FsRegion α := { rg with
    readOffset := 0, stagingReadIdx := 0, uploadActive := true, uploadStagingSnap := rg.stagingCount }

def fsCommitFlash (g : FsLayout) (rg : FsRegion α) : FsRegion α :=
  let absConsumed := rg.rdRecIdx + rg.readOffset
  let consumedSectors := absConsumed / g.recPerSector
  let moved :=
    if 0 < consumedSectors then
      { rg with
        rdSector := (rg.rdSector + consumedSectors) % g.regionSectors
        validSectors := if consumedSectors ≤ rg.validSectors then rg.validSectors - consumedSectors else 0 }
    else rg
  { moved with rdRecIdx := absConsumed % g.recPerSector }

def fsCommitStaging (rg : FsRegion α) : FsRegion α × List (FsEffect α) :=
  if 0 < rg.stagingReadIdx then
    let remain := if rg.stagingReadIdx ≤ rg.stagingCount then rg.stagingCount - rg.stagingReadIdx else 0
    if 0 < remain then
      ({ rg with
        stagingBuf := fun i => if i < remain then rg.stagingBuf (rg.stagingReadIdx + i) else rg.stagingBuf i
        stagingCount := remain }, [.stagingMove rg.stagingReadIdx remain])
    else ({ rg with stagingCount := remain }, [])
  else (rg, [])

def myFlashStoreCommit (g : FsLayout) (io : FsIo) (rg : FsRegion α) : FsCall α Int :=
  let (compacted, moves) := fsCommitStaging (fsCommitFlash g rg)
  let closed :=
    { compacted with readOffset := 0, stagingReadIdx := 0, uploadStagingSnap := 0, uploadActive := false }
  let (ret, saved) := fsMetaSave io closed
  ⟨ret, closed, moves ++ saved⟩

def myFlashStoreClear (io : FsIo) (rg : FsRegion α) : FsCall α Unit :=
  let reset := fsRegionReset rg
  ⟨(), reset, (fsMetaSave io reset).2⟩

def FsMedia.apply (media : FsMedia α) : FsEffect α → FsMedia α
  | .flashWrite offset content => { media with sectors := Function.update media.sectors offset content }
  | .metaWrite entry => { media with zms := some entry }
  | _ => media

structure FsState (α : Type) where
  rg : FsRegion α
  media : FsMedia α

def myFlashStoreInit [Inhabited α] (g : FsLayout) (media : FsMedia α) : FsState α :=
  ⟨fsRegionLoad g media.zms ⟨0, 0, 0, 0, 0, 0, 0, 0, false, fun _ => ⟨0, default⟩, 0⟩, media⟩

inductive FsOp (α : Type) where
  | push (data : α)
  | pendingCount
  | readNext
  | rewind
  | uploadBegin
  | commit
  | clear

inductive FsAnswer (α : Type) where
  | code (ret : Int)
  | count (records : Nat)
  | read (result : FsRead α)
  | unit
  deriving DecidableEq

def fsCall [Inhabited α] (g : FsLayout) (io : FsIo) (s : FsState α) : FsOp α → FsCall α (FsAnswer α)
  | .push data =>
    let call := fsRegionPush g io s.rg data
    ⟨.code call.ret, call.rg, call.effects⟩
  | .pendingCount => ⟨.count (myFlashStorePendingCount g s.rg), s.rg, []⟩
  | .readNext =>
    let call := myFlashStoreReadNext g io s.rg s.media
    ⟨.read call.ret, call.rg, call.effects⟩
  | .rewind => ⟨.unit, myFlashStoreRewind s.rg, []⟩
  | .uploadBegin => ⟨.unit, myFlashStoreUploadBegin s.rg, []⟩
  | .commit =>
    let call := myFlashStoreCommit g io s.rg
    ⟨.code call.ret, call.rg, call.effects⟩
  | .clear =>
    let call := myFlashStoreClear io s.rg
    ⟨.unit, call.rg, call.effects⟩

def fsStep [Inhabited α] (g : FsLayout) (io : FsIo) (s : FsState α) (op : FsOp α) : FsAnswer α × FsState α :=
  let call := fsCall g io s op
  (call.ret, ⟨call.rg, call.effects.foldl FsMedia.apply s.media⟩)

/-- What happens to a region: a call, or a power loss after `cut` effects of a call,
followed by `my_flash_store_init`. -/
inductive FsEvent (α : Type) where
  | call (io : FsIo) (op : FsOp α)
  | powerLoss (io : FsIo) (op : FsOp α) (cut : Nat)

def fsEffects [Inhabited α] (g : FsLayout) (s : FsState α) : FsEvent α → List (FsEffect α)
  | .call io op => (fsCall g io s op).effects
  | .powerLoss io op cut => (fsCall g io s op).effects.take cut

def fsAdvance [Inhabited α] (g : FsLayout) (s : FsState α) (event : FsEvent α) : FsState α :=
  let media := (fsEffects g s event).foldl FsMedia.apply s.media
  match event with
  | .call io op => ⟨(fsCall g io s op).rg, media⟩
  | .powerLoss _ _ _ => myFlashStoreInit g media

end LL320D.FlashStore
