import LL320D.Proofs.UploadFrames
import LL320D.Proofs.UploadLines

/-! The records in the BLE thread: whatever the packets from the air hold, each record in a table, in the flash store
or in a message has the sizes of its buffers, and its name is one that a scan response brought. -/

namespace LL320D.BleScan
open FlashStore Library ScanRecv UploadText List Function

variable {type : FsDataType} {packet : LtePacket} {kind : ScanKind}

section

variable {α : Type} {media : FsMedia α}

/-- Every record that a region can return has the property. -/
structure Keeps (good : α → Prop) (s : FsState α) : Prop where
  staged : ∀ i, good (s.rg.stagingBuf i).data
  flash : ∀ offset i, ((s.media.sectors offset).slots i).magic = fsRecMagic →
    good ((s.media.sectors offset).slots i).data

def SectorKeeps (good : α → Prop) (sector : FsSector α) : Prop :=
  ∀ i, (sector.slots i).magic = fsRecMagic → good (sector.slots i).data

lemma sectorKeeps_effects {good : α → Prop} {effects : List (FsEffect α)}
    (before : ∀ offset, SectorKeeps good (media.sectors offset))
    (writes : ∀ offset content, .flashWrite offset content ∈ effects → SectorKeeps good content) :
    ∀ offset, SectorKeeps good ((effects.foldl FsMedia.apply media).sectors offset) := by
  induction effects generalizing media with
  | nil => exact before
  | cons effect effects ih =>
    refine ih ?_ fun offset content member => writes offset content (mem_cons_of_mem _ member)
    cases effect with
    | flashWrite offset content =>
      intro other
      by_cases same : other = offset
      · subst same
        simp only [FsMedia.apply, update_self]
        exact writes other content mem_cons_self
      · simp only [FsMedia.apply, update_of_ne same]
        exact before other
    | _ => exact before

lemma fsReadFlash_record {g} {io} {good : α → Prop}
    (held : ∀ offset, SectorKeeps good (media.sectors offset)) {count : Nat} {rg} {data}
    (found : (fsReadFlash g io media count rg).1 = some (.record data)) : good data := by
  induction count generalizing rg with
  | zero => cases found
  | succ count ih =>
    rw [fsReadFlash] at found
    split at found
    · cases found
    · next read =>
      cases Option.some.inj found
      rw [fsReadFlashRecord] at read
      split at read
      · cases read
      · simp only at read
        split at read
        · cases read
        · next marked =>
          cases FsRead.record.inj read
          exact held _ _ (not_not.mp marked)
    · exact ih found

variable {g : FsLayout} {io : FsIo} {good : α → Prop} {s : FsState α}

lemma Keeps.stage (keeps : Keeps good s) {data} (new : good data) :
    ∀ i, good ((fsStage s.rg data).stagingBuf i).data := by
  intro i
  by_cases same : i = s.rg.stagingCount
  · subst same
    simp only [fsStage, update_self]
    exact new
  · simp only [fsStage, update_of_ne same]
    exact keeps.staged i

lemma Keeps.compact (keeps : Keeps good s) : ∀ i, good ((fsCommitStaging s.rg).1.stagingBuf i).data := by
  intro i
  have moved (remain : Nat) :
      good (if i < remain then s.rg.stagingBuf (s.rg.stagingReadIdx + i) else s.rg.stagingBuf i).data := by
    split
    · exact keeps.staged _
    · exact keeps.staged i
  simp only [fsCommitStaging]
  generalize (if s.rg.stagingReadIdx ≤ s.rg.stagingCount then s.rg.stagingCount - s.rg.stagingReadIdx else 0) = remain
  split
  · split
    · exact moved remain
    · exact keeps.staged i
  · exact keeps.staged i

variable [Crc32Ieee] [Inhabited α]

lemma Keeps.read (keeps : Keeps good s) {data} (found : (fsStep g io s .readNext).1 = .read (.record data)) :
    good data := by
  have answer : (myFlashStoreReadNext g io s.rg s.media).ret = .record data := by
    injection found
  have same : (myFlashStoreReadNext g io s.rg s.media).rg.stagingBuf = s.rg.stagingBuf := by
    obtain ⟨offset, read, snap, active, moved⟩ := readNext_session g io s.rg s.media
    rw [moved]
  rw [myFlashStoreReadNext] at answer same
  split at answer
  · next result after flash =>
    have first : _ = some (FsRead.record data) := (congrArg Prod.fst flash).trans (congrArg some answer)
    exact fsReadFlash_record keeps.flash first
  · next after flash =>
    split at answer
    · next left =>
      cases FsRead.record.inj answer
      rw [flash] at same
      simp only [if_pos left] at same
      rw [same]
      exact keeps.staged _
    · cases answer

lemma Keeps.push (keeps : Keeps good s) {data} (new : good data) : Keeps good (fsStep g io s (.push data)).2 := by
  have staged := keeps.stage new
  have call : (fsStep g io s (.push data)).2 = ⟨(fsRegionPush g io s.rg data).rg,
    (fsRegionPush g io s.rg data).effects.foldl FsMedia.apply s.media⟩ := rfl
  rw [call]
  rcases fsRegionPush_cases g io s.rg data with ⟨_, _, push⟩ | ⟨_, _, push⟩ | ⟨_, _, push⟩
  · rw [push]
    exact keeps
  · rw [push]
    exact ⟨staged, keeps.flash⟩
  · have some : (fsStage s.rg data).stagingCount ≠ 0 := Nat.succ_ne_zero _
    rw [push]
    by_cases written : io.flashWrite = 0
    · rw [fsFlushStaging_eq written some]
      refine ⟨?_, sectorKeeps_effects keeps.flash fun offset content member => ?_⟩
      · have buffer : (fsSectorWritten g (fsStage s.rg data)).stagingBuf = (fsStage s.rg data).stagingBuf := by
          simp only [fsSectorWritten]
          split <;> rfl
        rw [buffer]
        exact staged
      · simp only [mem_cons, mem_append, cons_append, reduceCtorEq, false_or] at member
        rcases member with same | full | saved
        · cases same
          intro i marked
          simp only [fsSectorImage] at marked ⊢
          split at marked
          · next inside =>
            simp only [if_pos inside]
            exact staged i
          · cases marked
        · split at full
          · cases full
          · cases mem_singleton.mp full
        · cases mem_fsMetaSave saved
    · simp only [fsFlushStaging, if_neg some, if_pos written]
      exact ⟨staged, keeps.flash⟩

lemma Keeps.commit (keeps : Keeps good s) : Keeps good (fsStep g io s .commit).2 := by
  have call : (fsStep g io s .commit).2 = ⟨(myFlashStoreCommit g io s.rg).rg,
    (myFlashStoreCommit g io s.rg).effects.foldl FsMedia.apply s.media⟩ := rfl
  have acknowledged : (fsCommitFlash g s.rg).stagingBuf = s.rg.stagingBuf := by
    simp only [fsCommitFlash]
    split <;> rfl
  rw [call]
  refine ⟨?_, sectorKeeps_effects keeps.flash fun offset content member => ?_⟩
  · have before : Keeps good ⟨fsCommitFlash g s.rg, s.media⟩ := ⟨by rw [acknowledged]; exact keeps.staged, keeps.flash⟩
    exact before.compact
  · obtain ⟨buf, moves, count, _, compacted, moved⟩ := fsCommitStaging_cases (fsCommitFlash g s.rg)
    simp only [myFlashStoreCommit, compacted, mem_append] at member
    rcases member with move | saved
    · rcases moved with rfl | rfl
      · cases move
      · cases mem_singleton.mp move
    · cases mem_fsMetaSave saved

/-- A call of the store keeps the property if what it pushes has it. -/
lemma Keeps.step (keeps : Keeps good s) (op) (new : ∀ data, op = .push data → good data) :
    Keeps good (fsStep g io s op).2 := by
  cases op with
  | push data => exact keeps.push (new data rfl)
  | readNext =>
    obtain ⟨offset, read, snap, active, moved⟩ := readNext_session g io s.rg s.media
    have call : (fsStep g io s .readNext).2 = ⟨(myFlashStoreReadNext g io s.rg s.media).rg,
      (myFlashStoreReadNext g io s.rg s.media).effects.foldl FsMedia.apply s.media⟩ := rfl
    rw [call]
    refine ⟨?_, sectorKeeps_effects keeps.flash fun offset content member => ?_⟩
    · rw [moved]
      exact keeps.staged
    · nomatch performs_read member
  | commit => exact keeps.commit
  | clear =>
    refine ⟨keeps.staged, sectorKeeps_effects keeps.flash fun offset content member => ?_⟩
    nomatch mem_fsMetaSave member
  | pendingCount | rewind | uploadBegin => exact ⟨keeps.staged, keeps.flash⟩

lemma Keeps.init (blank : good default) (held : ∀ offset, SectorKeeps good (media.sectors offset)) :
    Keeps good (myFlashStoreInit g media) := by
  refine ⟨fun i => ?_, held⟩
  simp only [myFlashStoreInit, fsRegionLoad]
  split
  · exact blank
  · split
    · exact blank
    · split
      · exact blank
      · exact blank

end

/-- A record fits its buffers, and a name is an allowed one. -/
def Fit (Name : List UInt8 → Prop) : (type : FsDataType) → FsRecord type → Prop
  | .tag, item => TagFits item ∧ Name (TagScanResult.name item)
  | .mac, item => MacFits item
  | .th, _ => True
  | .bp, _ => True

lemma fit_default {Name : List UInt8 → Prop} (empty : Name []) (type) : Fit Name type default := by
  cases type with
  | tag => exact ⟨⟨rfl, by decide, Nat.zero_le _, Nat.zero_le _⟩, empty⟩
  | mac => exact ⟨rfl, Nat.zero_le _⟩
  | th | bp => trivial

def LtePacket.isData : LtePacket → Bool
  | .data .. => true
  | _ => false

def BleEvent.isData : BleEvent → Bool
  | .sent packet => packet.isData
  | _ => false

/-- All records of the BLE thread fit, wherever they are. -/
structure Held (Name : List UInt8 → Prop) (b : BleState) : Prop where
  table : ∀ kind, ∀ item ∈ b.table kind, Fit Name kind.type item
  store : ∀ type, Keeps (Fit Name type) (b.store type)
  sent : ∀ kind seq item, .sent (.data kind seq item) ∈ b.log → Fit Name kind.type item
  cache : ∀ item ∈ b.advCacheTable, item.ffData.length ≤ tagFfDataMaxLen

/-- The result fits; a name that counts is an allowed one. -/
structure TagMsgFits (Name : List UInt8 → Prop) (msg : TagScanProcessMsg) : Prop where
  result : TagFits msg.result
  named : msg.advType = .scanRsp → tagNameMatch msg.result.name = true → Name msg.result.name

structure MacMsgFits (msg : TranMacProcessMsg) : Prop where
  addr : msg.addr.val.length = 6
  advData : msg.advData.length ≤ tranMacAdvDataMaxLen

namespace Held

variable {Name : List UInt8 → Prop} {b : BleState}

section

variable (held : Held Name b)
include held

lemma emit {event : BleEvent} (other : event.isData = false) : Held Name (b.emit event) := by
  refine { held with sent := fun kind seq item member => ?_ }
  rcases mem_append.mp member with before | here
  · exact held.sent kind seq item before
  · cases mem_singleton.mp here
    exact nomatch other

lemma sendData (env) (fits : ∀ kind seq item, packet = .data kind seq item → Fit Name kind.type item) :
    Held Name (b.lteSendCommand env packet).2 := by
  refine { held with sent := fun kind seq item member => ?_ }
  rcases mem_append.mp member with before | here
  · exact held.sent kind seq item before
  · split at here
    · have same := mem_singleton.mp here
      exact fits kind seq item (BleEvent.sent.inj same).symm
    · nomatch here

lemma send (env) (other : packet.isData = false) : Held Name (b.lteSendCommand env packet).2 := by
  refine held.sendData env fun kind seq item same => ?_
  rw [same] at other
  exact nomatch other

lemma setTable {items} (fits : ∀ item ∈ items, Fit Name kind.type item) : Held Name (b.setTable kind items) := by
  refine { held with table := fun other => ?_ }
  by_cases same : other = kind
  · subst same
    simp only [BleState.setTable, update_self]
    exact fits
  · simp only [BleState.setTable, update_of_ne same]
    exact held.table other

lemma clearTable (kind) : Held Name (b.setTable kind []) := held.setTable nofun

lemma tableReplace (i old) {new}
    (fits : Fit Name kind.type new) : Held Name (tableReplace kind i old new b) := by
  refine Held.emit (Held.emit (held.setTable fun item member => ?_) rfl) rfl
  rcases mem_or_eq_of_mem_set member with before | rfl
  · exact held.table kind item before
  · exact fits

lemma tableAppend {new} (fits : Fit Name kind.type new) : Held Name (tableAppend kind new b) := by
  refine Held.emit (held.setTable fun item member => ?_) rfl
  rcases mem_append.mp member with before | here
  · exact held.table kind item before
  · cases mem_singleton.mp here
    exact fits

lemma entry (empty : Name []) (kind : ScanKind) (i) : Fit Name kind.type ((b.table kind).getD i default) := by
  rw [getD_eq_getElem?_getD]
  cases found : (b.table kind)[i]? with
  | none => exact fit_default empty kind.type
  | some item => exact held.table kind item (mem_of_getElem? found)

lemma scanStop (env) : Held Name (scanStopInternal env b) := by
  rw [scanStopInternal]
  split
  · exact held
  · split
    · exact held
    · refine { held with cache := fun item member => ?_ }
      rw [eq_of_mem_replicate member]
      exact Nat.zero_le _

lemma scanStart (env) : Held Name (scanStartInternal env b) := by
  rw [scanStartInternal]
  split
  · exact held
  · split
    · exact held
    · split
      · exact held
      · exact { held with }

lemma release (addr : BtAddrLe) : Held Name { b with advCacheTable := advCacheRelease b.advCacheTable addr } := by
  refine { held with cache := fun item member => ?_ }
  simp only [advCacheRelease] at member
  split at member
  · next i _ =>
    obtain ⟨j, found⟩ := mem_iff_getElem?.mp member
    rw [List.getElem?_modify] at found
    obtain ⟨before, there, same⟩ := Option.map_eq_some_iff.mp found
    have kept := held.cache before (mem_of_getElem? there)
    split at same
    · cases same
      exact kept
    · cases same
      exact kept
  · exact held.cache item member

lemma macHandle (empty : Name []) (now : UInt32) {msg} (fits : MacMsgFits msg) :
    Held Name (tranMacDataHandle b (now, msg)) := by
  simp only [tranMacDataHandle]
  split
  · exact held
  · split
    · next i _ =>
      have item := held.entry empty .mac i
      exact tableReplace held i _ (show MacFits _ from ⟨item.addr, fits.advData⟩)
    · split
      · exact tableAppend held (show MacFits _ from ⟨fits.addr, fits.advData⟩)
      · exact held

lemma uploadOne (env) {record} (fits : Fit Name kind.type record) : Held Name (uploadOne env kind record b) := by
  have numbered : Held Name { b with tagMacinfoSeq := b.tagMacinfoSeq + 1 } := { held with }
  refine numbered.sendData env fun other seq item same => ?_
  cases same
  exact fits

end

variable [Crc32Ieee]

section

variable (held : Held Name b)
include held

lemma flashNew (env) {op}
    (new : ∀ data, op = .push data → Fit Name type data) : Held Name (b.flash env type op).2 := by
  refine { held with store := fun other => ?_, sent := fun kind seq item member => ?_ }
  · by_cases same : other = type
    · subst same
      rw [flash_store]
      exact (held.store other).step op new
    · rw [flash_store_other env same]
      exact held.store other
  · rcases mem_append.mp member with before | here
    · exact held.sent kind seq item before
    · split at here
      · nomatch mem_singleton.mp here
      · nomatch here

lemma flash (env) {op} (other : FsOp.isPush op = false) : Held Name (b.flash env type op).2 := by
  refine held.flashNew env fun data same => ?_
  rw [same] at other
  exact nomatch other

lemma push (env) {data} (fits : Fit Name type data) :
    Held Name (b.flash env type (.push data)).2 := by
  refine held.flashNew env fun other same => ?_
  cases FsOp.push.inj same
  exact fits

lemma tableFlush (env kind) : Held Name (tableFlushToFlash env kind b) := by
  have pushed : ∀ (items : List (ScanRecord kind)) {b : BleState}, Held Name b → (∀ item ∈ items, Fit Name kind.type item) →
      Held Name (items.foldl (fun b item => (b.flash env kind.type (.push item)).2) b) := by
    intro items
    induction items with
    | nil => exact fun held _ => held
    | cons item items ih =>
      intro b held fits
      exact ih (held.push env (fits _ mem_cons_self)) fun other member => fits other (mem_cons_of_mem _ member)
  rw [tableFlushToFlash]
  split
  · exact held
  · refine (pushed _ held fun item member => ?_).clearTable kind
    exact held.table kind item ((selectionSort_perm _ _).mem_iff.mp member)

lemma flushAll (env) :
    Held Name (tranMacTableFlushToFlash env (tagTableFlushToFlash env (scanStopInternal env b))) :=
  ((held.scanStop env).tableFlush env .tag).tableFlush env .mac

end

/-! Collection -/

lemma tagSave (held : Held Name b) (empty : Name []) (env now) {result : TagScanResult}
    (fits : TagFits result) (named : Name result.name) : Held Name (tagScanResultSave env now result b) := by
  have new : Fit Name .tag { result with timestamp := now } := ⟨{ fits with }, named⟩
  rw [tagScanResultSave]
  split
  · next i _ =>
    have item := held.entry empty .tag i
    refine tableReplace held i _ (show Fit Name .tag _ from ⟨⟨item.1.addr, fits.name, ?_, ?_⟩, named⟩)
    · simp only [tagScanResultMerge]
      split
      · exact fits.uuid
      · exact item.1.uuid
    · simp only [tagScanResultMerge]
      split
      · exact fits.ffData
      · exact item.1.ffData
  · split
    · exact tableAppend held new
    · exact tableAppend (held.tableFlush env .tag) new

lemma tagHandle (held : Held Name b) (empty : Name []) (env) (now : UInt32) {msg}
    (fits : TagMsgFits Name msg) : Held Name (tagScanDataHandle env b (now, msg)) := by
  obtain ⟨type, result⟩ := msg
  cases type with
  | advInd =>
    refine { held with cache := fun item member => ?_ }
    rcases mem_or_eq_of_mem_set member with before | rfl
    · exact held.cache item before
    · exact fits.result.ffData
  | scanRsp =>
    have released := held.release result.addr
    simp only [tagScanDataHandle]
    split
    · next matched =>
      have named := fits.named rfl matched
      split
      · next cached found =>
        have short := held.cache cached (mem_of_find?_eq_some found)
        exact released.tagSave empty env now { fits.result with ffData := short } named
      · exact released.tagSave empty env now fits.result named
    · exact released

/-! The sensor upload -/

/-- The sensor upload pushes samples and sends no records. -/
lemma acts {env} {after} (held : Held Name b) (acts : SensorActs env (fun _ => True) b after) : Held Name after := by
  induction acts with
  | refl => exact held
  | flash _ type op _ pushes ih =>
    refine ih.flashNew env fun data same => ?_
    rw [same] at pushes
    rcases pushes rfl with rfl | rfl <;> trivial
  | send _ packet other ih =>
    refine ih.send env ?_
    cases packet with
    | data => exact nomatch other
    | _ => rfl
  | power _ ih | committed _ type _ ih => exact ih.emit rfl
  | context _ ctx ih => exact { ih with }

lemma reset (held : Held Name b) (env rewind) : Held Name (sensorUploadReset env rewind b) :=
  held.acts (.reset trivial trivial env rewind b)

lemma tryStart (held : Held Name b) (env) : Held Name (sensorCachedUploadTryStart env b) :=
  held.acts (.tryStart trivial trivial env b)

/-! The upload of scanned devices -/

section

variable (held : Held Name b)
include held

lemma uploadStart (env kind) : Held Name (uploadStart env kind b) := by
  have begun : ∀ seq consumed snap state, Held Name { b with
      tagMacinfoSeq := seq, flashConsumed := consumed, rtCountSnap := snap, uploadState := state } :=
    fun _ _ _ _ => { held with }
  have opened (begun : BleState) (held : Held Name begun) : Held Name (begun.flash env kind.type .uploadBegin).2 :=
    held.flash env rfl
  exact (opened _ (begun _ _ _ _)).send env rfl

lemma uploadFinish (env kind) : Held Name (uploadFinish env kind b) := by
  have committed : Held Name (b.flash env kind.type .commit).2 := held.flash env rfl
  have cleared : Held Name (((b.flash env kind.type .commit).2.emit (.committed kind.type)).setTable kind []) :=
    (committed.emit rfl).clearTable kind
  have ended : ∀ seq consumed state, Held Name
      { ((b.flash env kind.type .commit).2.emit (.committed kind.type)).setTable kind [] with
        tagMacinfoSeq := seq, flashConsumed := consumed, uploadState := state } := fun _ _ _ => { cleared with }
  exact (ended _ _ _).send env rfl

lemma uploadNext (empty : Name []) (env kind) : Held Name (uploadNext env kind b) := by
  have read : Held Name (b.flash env kind.type .readNext).2 := held.flash env rfl
  rcases uploadNext_cases env kind b with ⟨data, answer, next⟩ | ⟨_, _, next⟩ | ⟨_, _, next⟩
  · have fits := (held.store kind.type).read answer
    have counted : Held Name { (b.flash env kind.type .readNext).2 with flashConsumed := b.flashConsumed + 1 } :=
      { read with }
    rw [next]
    exact counted.uploadOne env fits
  · rw [next]
    exact read.uploadOne env (held.entry empty kind _)
  · rw [next]
    exact read.uploadFinish env kind

lemma uploadEnd (env) : Held Name (uploadEnd env b) := by
  have ended : Held Name
      { b with tagMacinfoSeq := 0, flashConsumed := 0, uploadState := .idle, scanState := .idle } := { held with }
  exact ended.tryStart env

lemma uploadData (empty : Name []) (env) : Held Name (tagMacScanUploadData env b) := by
  rcases uploadData_cases env b with
    ⟨_, same⟩ | ⟨_, _, kind, same⟩ | ⟨kind, _, same⟩ | ⟨_, _, same⟩ | ⟨kind, _, _, same⟩
  · rw [same]
    exact held
  · rw [same]
    exact { held.uploadStart env kind with }
  · rw [same]
    exact held.uploadNext empty env kind
  · rw [same]
    exact held.uploadStart env .mac
  · rw [same]
    exact held.uploadEnd env

lemma rewindScan (env) : Held Name (rewindScanUpload env b) := by
  have cleared : ∀ seq state consumed snap, Held Name { b with
      tagMacinfoSeq := seq, uploadState := state, flashConsumed := consumed, rtCountSnap := snap } :=
    fun _ _ _ _ => { held with }
  exact ((cleared _ _ _ _).flash env rfl).flash env rfl

lemma setConfig (env mode) : Held Name (myScanSetConfig env mode b) := by
  have reset := ((held.flushAll env).rewindScan env).reset env true
  have configured : Held Name { scanReset env b with scanMode := mode, scanState := .idle } := { reset with }
  rcases setConfig_cases env mode b with same | same
  · rw [same]
    exact configured
  · rw [same]
    exact configured.scanStart env

lemma clearAll (env) : Held Name (clearTagMacinfo env b) := by
  have idle : Held Name { b with scanState := .idle } := { held with }
  have cleared : Held Name (({ b with scanState := .idle }.setTable .tag []).setTable .mac []) :=
    (idle.clearTable .tag).clearTable .mac
  exact (cleared.rewindScan env).reset env true

lemma triggerUpload (empty : Name []) (env) : Held Name (scanTriggerUpload env b) := by
  have stopped := held.scanStop env
  simp only [scanTriggerUpload]
  split
  · exact { stopped with }
  · exact stopped.uploadData empty env

lemma wakeupUpload (empty : Name []) (env) : Held Name (uploadOnWakeup env b) := by
  have stopped := held.scanStop env
  rw [uploadOnWakeup]
  split
  · simp only
    split
    · exact stopped
    · exact stopped.uploadData empty env
  · exact held

/-- Every message that brings no packet from the air. -/
lemma message (empty : Name []) (env : BleEnv) {msg} (other : isProcess msg = false) :
    Held Name (myScanMsgHandler b (env, msg)) := by
  cases msg with
  | tagScanProcess | tranMacProcess => exact nomatch other
  | scanInterval =>
    simp only [myScanMsgHandler]
    split
    · exact held.scanStart env
    · exact held
  | scanLength => exact held.flushAll env
  | scanUpload =>
    simp only [myScanMsgHandler]
    split
    · split
      · exact held
      · exact held.triggerUpload empty env
    · exact held
  | uploadWakeup => exact (held.wakeupUpload empty env).tryStart env
  | sensorThSample record => exact held.acts (.processSample trivial trivial env (.inl rfl) _ record b)
  | sensorBpSample record => exact held.acts (.processSample trivial trivial env (.inr rfl) _ record b)
  | sensorLteAck rsp => exact held.acts (.handleAck trivial trivial env rsp fun _ _ _ => trivial)
  | uploadTagAndMac => exact held.uploadData empty env
  | setConfig mode => exact held.setConfig env mode
  | clearTagMacinfo => exact held.clearAll env

end

lemma init (empty : Name []) (env mode) {media : (type : FsDataType) → FsMedia (FsRecord type)}
    (kept : ∀ type offset, SectorKeeps (Fit Name type) ((media type).sectors offset)) :
    Held Name (myScanInit env mode media) := by
  have boot : Held Name (scanBoot media) := by
    refine ⟨fun _ => nofun, fun type => .init (fit_default empty type) (kept type), fun _ _ _ => nofun, ?_⟩
    intro item member
    rw [eq_of_mem_replicate member]
    exact Nat.zero_le _
  exact boot.setConfig env mode

end Held

end LL320D.BleScan
