import LL320D.Proofs.FlashStoreSafety
import LL320D.ScanUpload

/-! The TAG/MAC upload and the sensor upload exclude each other, and a session of a
flash region is open only while the machine that owns the region works on it. -/

namespace LL320D.BleScan
open FlashStore Library List

variable {after before : BleState} {other : FsDataType} {kind : ScanKind} {ctx : SensorUploadCtx}

/-- The upload that may have a session of the region open. -/
def BleState.Owned (b : BleState) : FsDataType → Prop
  | .tag => b.uploadState = .start .tag
  | .mac => b.uploadState = .start .mac
  | .th => b.sensorUploadCtx.state.isCdata = true ∧ b.sensorUploadCtx.uploadType = some .th
  | .bp => b.sensorUploadCtx.state.isCdata = true ∧ b.sensorUploadCtx.uploadType = some .bp

section

variable [Crc32Ieee]

def FsReaches (type : FsDataType) : FsState (FsRecord type) → FsState (FsRecord type) → Prop :=
  Relation.ReflTransGen fun s next => ∃ io op, next = (fsStep (fsLayout type) io s op).2

/-- What holds between two messages of the BLE thread, whose regions started as `origin`. -/
structure UploadInv (origin : (type : FsDataType) → FsState (FsRecord type)) (b : BleState) : Prop where
  serial : b.sensorUploadCtx.state = .idle ∨ b.uploadState = .idle
  owned : ∀ type, b.uploadActive type = true → b.Owned type
  waiting : b.uploadState ≠ .idle → b.scanState = .waitingUpload
  sensorType : b.sensorUploadCtx.state.isCdata = true →
    b.sensorUploadCtx.uploadType = some .th ∨ b.sensorUploadCtx.uploadType = some .bp
  reached : ∀ type, FsReaches type (origin type) (b.store type)

/-- Neither upload moves, and no session is opened. -/
structure Quiet (before after : BleState) : Prop where
  uploadState : after.uploadState = before.uploadState
  sensorUploadCtx : after.sensorUploadCtx = before.sensorUploadCtx
  uploadActive : ∀ type, after.uploadActive type = true → before.uploadActive type = true
  waiting : before.scanState = .waitingUpload → after.scanState = .waitingUpload
  reached : ∀ type, FsReaches type (before.store type) (after.store type)

lemma Quiet.of_eq (uploadState : after.uploadState = before.uploadState)
    (sensorUploadCtx : after.sensorUploadCtx = before.sensorUploadCtx) (store : after.store = before.store)
    (waiting : before.scanState = .waitingUpload → after.scanState = .waitingUpload) : Quiet before after :=
  ⟨uploadState, sensorUploadCtx, fun _ active => by rwa [BleState.uploadActive, store] at active, waiting,
    fun _ => by rw [store]; exact .refl⟩

lemma Quiet.refl (b) : Quiet b b := .of_eq rfl rfl rfl id

variable {origin : (type : FsDataType) → FsState (FsRecord type)}

lemma UploadInv.quiet (inv : UploadInv origin before) (quiet : Quiet before after) : UploadInv origin after := by
  constructor
  · rw [quiet.uploadState, quiet.sensorUploadCtx]
    exact inv.serial
  · intro type active
    have owned := inv.owned type (quiet.uploadActive type active)
    cases type <;> simpa only [BleState.Owned, quiet.uploadState, quiet.sensorUploadCtx] using owned
  · intro busy
    exact quiet.waiting (inv.waiting (quiet.uploadState ▸ busy))
  · rw [quiet.sensorUploadCtx]
    exact inv.sensorType
  · intro type
    exact (inv.reached type).trans (quiet.reached type)

end

def FsOp.active {α : Type} (before : Bool) : FsOp α → Bool
  | .push _ => before
  | .pendingCount => before
  | .readNext => true
  | .uploadBegin => true
  | _ => false

section

variable {α : Type}

lemma readNext_region (g io) (rg : FsRegion α) (media : FsMedia α) :
    (myFlashStoreReadNext g io rg media).rg.uploadActive = true := by
  have opened : (fsOpenSession rg).uploadActive = true := by
    unfold fsOpenSession
    split
    · assumption
    · rfl
  obtain ⟨passed, _, moved⟩ := fsReadFlash_passed (g := g) io media (fsFlashTotal g (fsOpenSession rg) -
    (fsOpenSession rg).readOffset) (fsOpenSession rg)
  rw [myFlashStoreReadNext]
  split
  · next result after found =>
    have same : after = _ := (congrArg Prod.snd found).symm.trans moved
    rw [same]
    exact opened
  · next after found =>
    have same : after = _ := (congrArg Prod.snd found).symm.trans moved
    split <;> (rw [same]; exact opened)

variable [Crc32Ieee] [Inhabited α]

lemma push_region (g io) (rg : FsRegion α) (data : α) :
    (fsRegionPush g io rg data).rg.uploadActive = rg.uploadActive := by
  rcases fsRegionPush_cases g io rg data with ⟨_, _, call⟩ | ⟨_, _, call⟩ | ⟨_, _, call⟩
  · rw [call]
  · rw [call]
    rfl
  · rw [call, fsFlushStaging]
    split
    · rfl
    · split
      · rfl
      · exact (written_session g (fsStage rg data)).2.2.2

lemma fsStep_active (g io) (s : FsState α) (op : FsOp α) :
    (fsStep g io s op).2.rg.uploadActive = FsOp.active s.rg.uploadActive op := by
  cases op with
  | push data => exact push_region g io s.rg data
  | readNext => exact readNext_region g io s.rg s.media
  | pendingCount | rewind | uploadBegin | commit | clear => rfl

end

section

variable [Crc32Ieee]

lemma flash_store (env : BleEnv) (type op) (b : BleState) :
    (b.flash env type op).2.store type = (fsStep (fsLayout type) (env.io b.flashCalls) (b.store type) op).2 :=
  Function.update_self ..

lemma flash_store_other (env) {type} (different : other ≠ type)
    (op) (b : BleState) : (b.flash env type op).2.store other = b.store other :=
  Function.update_of_ne different ..

lemma flash_reaches (env type op) (b : BleState)
    (other) : FsReaches other (b.store other) ((b.flash env type op).2.store other) := by
  by_cases same : other = type
  · subst same
    rw [flash_store]
    exact .single ⟨_, op, rfl⟩
  · rw [flash_store_other env same]
    exact .refl

lemma flash_active (env type op) (b : BleState) :
    (b.flash env type op).2.uploadActive type = FsOp.active (b.uploadActive type) op := by
  rw [BleState.uploadActive, flash_store, fsStep_active]
  rfl

lemma flash_active_other (env) {type} (different : other ≠ type) (op) (b : BleState) :
    (b.flash env type op).2.uploadActive other = b.uploadActive other := by
  rw [BleState.uploadActive, flash_store_other env different, BleState.uploadActive]

end

def BleEvent.isMove : BleEvent → Bool
  | .sent _ => true
  | .committed _ => true
  | _ => false

lemma sentPackets_moves (events : List BleEvent) : sentPackets (events.filter BleEvent.isMove) = sentPackets events := by
  rw [sentPackets, filterMap_filter]
  refine filterMap_congr fun event _ => ?_
  cases event <;> rfl

lemma sentPackets_append (first second) :
    sentPackets (first ++ second) = sentPackets first ++ sentPackets second := filterMap_append

def FsPushes [Crc32Ieee] (env : BleEnv) (type : FsDataType) : FsState (FsRecord type) → FsState (FsRecord type) → Prop :=
  Relation.ReflTransGen fun s next => ∃ call data, next = (fsStep (fsLayout type) (env.io call) s (.push data)).2

lemma FsPushes.active [Crc32Ieee] {env} {type} {s final : FsState (FsRecord type)}
    (pushes : FsPushes env type s final) : final.rg.uploadActive = s.rg.uploadActive := by
  induction pushes with
  | refl => rfl
  | tail _ pushed kept =>
    obtain ⟨call, data, rfl⟩ := pushed
    exact (fsStep_active ..).trans kept

lemma FsPushes.reaches [Crc32Ieee] {env} {type} {s final}
    (pushes : FsPushes env type s final) : FsReaches type s final := by
  refine Relation.ReflTransGen.mono (fun _ _ pushed => ?_) _ _ pushes
  obtain ⟨call, data, same⟩ := pushed
  exact ⟨_, _, same⟩

/-- What collecting does: it pushes and sends nothing. -/
structure Collects [Crc32Ieee] (env : BleEnv) (before after : BleState) : Prop where
  uploadState : after.uploadState = before.uploadState
  sensorUploadCtx : after.sensorUploadCtx = before.sensorUploadCtx
  waiting : before.scanState = .waitingUpload → after.scanState = .waitingUpload
  moves : after.log.filter BleEvent.isMove = before.log.filter BleEvent.isMove
  pushes : ∀ type, FsPushes env type (before.store type) (after.store type)

namespace Collects

variable [Crc32Ieee] {env : BleEnv}

lemma of_store_eq (uploadState : after.uploadState = before.uploadState)
    (sensorUploadCtx : after.sensorUploadCtx = before.sensorUploadCtx) (store : after.store = before.store)
    (waiting : before.scanState = .waitingUpload → after.scanState = .waitingUpload)
    (moves : after.log.filter BleEvent.isMove = before.log.filter BleEvent.isMove) : Collects env before after :=
  ⟨uploadState, sensorUploadCtx, waiting, moves, fun _ => by rw [store]; exact .refl⟩

lemma refl (b) : Collects env b b := .of_store_eq rfl rfl rfl id rfl

lemma trans {first second third} (before : Collects env first second)
    (after : Collects env second third) : Collects env first third :=
  ⟨after.uploadState.trans before.uploadState, after.sensorUploadCtx.trans before.sensorUploadCtx,
    fun waiting => after.waiting (before.waiting waiting), after.moves.trans before.moves,
    fun type => (before.pushes type).trans (after.pushes type)⟩

lemma foldl {β : Type} {step : BleState → β → BleState} (collects : ∀ b item, Collects env b (step b item))
    (b) (items : List β) : Collects env b (items.foldl step b) := by
  induction items generalizing b with
  | nil => exact .refl b
  | cons item items ih => exact (collects b item).trans (ih _)

lemma setTable (kind items) (b : BleState) : Collects env b (b.setTable kind items) := .of_store_eq rfl rfl rfl id rfl

lemma packets (collects : Collects env before after) : sentPackets after.log = sentPackets before.log := by
  rw [← sentPackets_moves after.log, collects.moves, sentPackets_moves]

lemma emit {event : BleEvent} (silent : event.isMove = false) (b : BleState) : Collects env b (b.emit event) := by
  refine .of_store_eq rfl rfl rfl id ?_
  rw [BleState.emit, filter_append, filter_singleton, silent]
  exact append_nil _

lemma tableReplace (kind i old new b) :
    Collects env b (tableReplace kind i old new b) :=
  (setTable kind _ b).trans ((emit rfl _).trans (emit rfl _))

lemma tableAppend (kind new b) : Collects env b (tableAppend kind new b) :=
  (setTable kind _ b).trans (emit rfl _)

variable (env)

lemma scanStop (b) : Collects env b (scanStopInternal env b) := by
  unfold scanStopInternal
  split
  · exact .refl b
  · next scanning =>
    split
    · exact .refl b
    · refine .of_store_eq rfl rfl rfl (fun waiting => ?_) rfl
      exact absurd (by rw [waiting]; exact nofun) scanning

lemma scanStart {b : BleState} (free : b.scanState ≠ .waitingUpload) : Collects env b (scanStartInternal env b) := by
  unfold scanStartInternal
  split
  · exact .refl b
  · split
    · exact .refl b
    · split
      · exact .refl b
      · exact .of_store_eq rfl rfl rfl (fun waiting => absurd waiting free) rfl

lemma macHandle (b received) : Collects env b (tranMacDataHandle b received) := by
  obtain ⟨now, msg⟩ := received
  simp only [tranMacDataHandle]
  split
  · exact .refl b
  · split
    · exact tableReplace ..
    · split
      · exact tableAppend ..
      · exact .refl b

lemma push (type data) (b : BleState) : Collects env b (b.flash env type (.push data)).2 := by
  refine ⟨rfl, rfl, id, ?_, fun other => ?_⟩
  · simp only [BleState.flash, filter_append]
    split <;> exact append_nil _
  · by_cases same : other = type
    · subst same
      rw [flash_store]
      exact .single ⟨_, data, rfl⟩
    · rw [flash_store_other env same]
      exact .refl

lemma tableFlush (kind b) : Collects env b (tableFlushToFlash env kind b) := by
  unfold tableFlushToFlash
  split
  · exact .refl b
  · exact (foldl (fun b item => push env kind.type item b) b _).trans (setTable ..)

lemma flushAll (b) :
    Collects env b (tranMacTableFlushToFlash env (tagTableFlushToFlash env (scanStopInternal env b))) :=
  (scanStop env b).trans ((tableFlush env .tag _).trans (tableFlush env .mac _))

lemma tagSave (now result b) : Collects env b (tagScanResultSave env now result b) := by
  unfold tagScanResultSave
  split
  · exact tableReplace ..
  · split
    · exact tableAppend ..
    · exact (tableFlush env .tag b).trans (tableAppend ..)

lemma tagHandle (b received) : Collects env b (tagScanDataHandle env b received) := by
  obtain ⟨now, type, result⟩ := received
  have released : ∀ cache, Collects env b { b with advCacheTable := cache } := fun _ => .of_store_eq rfl rfl rfl id rfl
  cases type with
  | advInd => exact .of_store_eq rfl rfl rfl id rfl
  | scanRsp =>
    simp only [tagScanDataHandle]
    split
    · split <;> exact (released _).trans (tagSave env ..)
    · exact released _

variable {env}

lemma quiet (collects : Collects env before after) : Quiet before after := by
  refine ⟨collects.uploadState, collects.sensorUploadCtx, fun type active => ?_, collects.waiting, fun type =>
    (collects.pushes type).reaches⟩
  exact (collects.pushes type).active.symm.trans active

end Collects

namespace Quiet

variable [Crc32Ieee]

lemma flash (env) {type} {op} (b : BleState)
    (opens : FsOp.active (b.uploadActive type) op = true → b.uploadActive type = true) :
    Quiet b (b.flash env type op).2 := by
  refine ⟨rfl, rfl, fun other active => ?_, id, flash_reaches env type op b⟩
  by_cases same : other = type
  · subst same
    rw [flash_active] at active
    exact opens active
  · rwa [flash_active_other env same] at active

lemma rewind (env type) (b : BleState) : Quiet b (b.flash env type .rewind).2 := .flash env b nofun

end Quiet

lemma sensorCachedUploadType_sensor {type} {b}
    (found : sensorCachedUploadType b = some type) : type = .th ∨ type = .bp := by
  unfold sensorCachedUploadType at found
  split at found
  · exact .inl (Option.some.inj found).symm
  · split at found
    · exact .inr (Option.some.inj found).symm
    · exact nomatch found

lemma uploadNext_cases [Crc32Ieee] (env) (kind : ScanKind) (b : BleState) :
    (∃ data, (b.flash env kind.type .readNext).1 = .read (.record data) ∧
      uploadNext env kind b = uploadOne env kind data
        { (b.flash env kind.type .readNext).2 with flashConsumed := b.flashConsumed + 1 }) ∨
    ((∀ data, (b.flash env kind.type .readNext).1 ≠ .read (.record data)) ∧ b.rtIdx < b.rtCountSnap ∧
      uploadNext env kind b = uploadOne env kind ((b.table kind).getD b.rtIdx default)
        (b.flash env kind.type .readNext).2) ∨
    ((∀ data, (b.flash env kind.type .readNext).1 ≠ .read (.record data)) ∧ b.rtCountSnap ≤ b.rtIdx ∧
      uploadNext env kind b = uploadFinish env kind (b.flash env kind.type .readNext).2) := by
  rw [uploadNext]
  split
  · next data after answer =>
    obtain rfl : (b.flash env kind.type .readNext).2 = after := congrArg Prod.snd answer
    exact .inl ⟨data, congrArg Prod.fst answer, rfl⟩
  · next reply after other answer =>
    obtain rfl : (b.flash env kind.type .readNext).2 = after := congrArg Prod.snd answer
    have none : ∀ data, (b.flash env kind.type .readNext).1 ≠ .read (.record data) := fun data same =>
      other data ((congrArg Prod.fst answer).symm.trans same)
    split
    · next inside => exact .inr (.inl ⟨none, inside, rfl⟩)
    · next outside => exact .inr (.inr ⟨none, Nat.le_of_not_lt outside, rfl⟩)

/-- The zeroed variables and the regions that were found, which `my_scan_init` configures. -/
def scanBoot [Crc32Ieee] (media : (type : FsDataType) → FsMedia (FsRecord type)) : BleState where
  table := fun _ => []
  advCacheTable := List.replicate advCacheMaxNum default
  cacheSeqCounter := 0
  scanMode := .off
  scanState := .idle
  tagMacinfoSeq := 0
  uploadState := .idle
  flashConsumed := 0
  rtCountSnap := 0
  sensorUploadCtx := ⟨.idle, some .tag, 0, 0⟩
  store := fun type => myFlashStoreInit (fsLayout type) (media type)
  flashCalls := 0
  log := []

lemma myScanInit_eq [Crc32Ieee] (env mode) (media : (type : FsDataType) → FsMedia (FsRecord type)) :
    myScanInit env mode media = myScanSetConfig env mode (scanBoot media) := rfl

def scanReset [Crc32Ieee] (env : BleEnv) (b : BleState) : BleState :=
  sensorUploadReset env true (rewindScanUpload env (tranMacTableFlushToFlash env
    (tagTableFlushToFlash env (scanStopInternal env b))))

lemma setConfig_cases [Crc32Ieee] (env mode b) :
    myScanSetConfig env mode b = { scanReset env b with scanMode := mode, scanState := .idle } ∨
      myScanSetConfig env mode b = scanStartInternal env { scanReset env b with scanMode := mode, scanState := .idle } := by
  cases mode with
  | off | other => exact .inl rfl
  | periodCache | periodUpload => exact .inr rfl

lemma uploadData_cases [Crc32Ieee] (env) (b : BleState) :
    ((b.scanState = .scanning ∨ b.uploadState = .idle) ∧ tagMacScanUploadData env b = b) ∨
    (b.uploadState = .idle ∧ b.sensorUploadCtx.state = .idle ∧ ∃ kind,
      tagMacScanUploadData env b = { uploadStart env kind b with scanState := .waitingUpload }) ∨
    (∃ kind, b.uploadState = .start kind ∧ tagMacScanUploadData env b = uploadNext env kind b) ∨
    (b.uploadState = .ended .tag ∧ 0 < b.uploadTotal .mac ∧ tagMacScanUploadData env b = uploadStart env .mac b) ∨
    (∃ kind, b.uploadState = .ended kind ∧ (kind = .tag → b.uploadTotal .mac = 0) ∧
      tagMacScanUploadData env b = uploadEnd env b) := by
  unfold tagMacScanUploadData
  split
  · next scanning => exact .inl ⟨.inl scanning, rfl⟩
  · split
    · next state =>
      split
      · exact .inl ⟨.inr state, rfl⟩
      · next free =>
        have idle : b.sensorUploadCtx.state = .idle := by simpa [sensorUploadBusy] using free
        split
        · split
          · exact .inl ⟨.inr state, rfl⟩
          · exact .inr (.inl ⟨state, idle, .mac, rfl⟩)
        · exact .inr (.inl ⟨state, idle, .tag, rfl⟩)
    · next kind state => exact .inr (.inr (.inl ⟨kind, state, rfl⟩))
    · next state =>
      split
      · next none => exact .inr (.inr (.inr (.inr ⟨.tag, state, fun _ => none, rfl⟩)))
      · next some => exact .inr (.inr (.inr (.inl ⟨state, Nat.pos_of_ne_zero some, rfl⟩)))
    · next state => exact .inr (.inr (.inr (.inr ⟨.mac, state, nofun, rfl⟩)))

namespace UploadInv

variable [Crc32Ieee] {origin : (type : FsDataType) → FsState (FsRecord type)} {b : BleState}

section

variable (inv : UploadInv origin b)
include inv

lemma scan (kind) (active : b.uploadActive kind.type = true) : b.uploadState = .start kind := by
  have owned := inv.owned _ active
  cases kind <;> exact owned

lemma sensor {type} (sensor : type = .th ∨ type = .bp) (active : b.uploadActive type = true) :
    b.sensorUploadCtx.state.isCdata = true ∧ b.sensorUploadCtx.uploadType = some type := by
  have owned := inv.owned type active
  rcases sensor with rfl | rfl <;> exact owned

lemma scanClosed (elsewhere : ∀ kind, b.uploadState ≠ .start kind) (kind : ScanKind) :
    b.uploadActive kind.type = false := by
  apply Bool.eq_false_iff.mpr
  intro active
  exact elsewhere kind (inv.scan kind active)

lemma sensorClosed (elsewhere : b.sensorUploadCtx.state.isCdata = false)
    {type} (sensor : type = .th ∨ type = .bp) : b.uploadActive type = false := by
  apply Bool.eq_false_iff.mpr
  intro active
  exact Bool.false_ne_true (elsewhere.symm.trans (inv.sensor sensor active).1)

lemma sensorIdle (busy : b.uploadState ≠ .idle) : b.sensorUploadCtx.state = .idle := inv.serial.resolve_right busy

lemma sent (env packet) : UploadInv origin (b.lteSendCommand env packet).2 := inv.quiet (.of_eq rfl rfl rfl id)

end

lemma of_sensorIdle (idle : b.sensorUploadCtx.state = .idle)
    (scan : ∀ kind : ScanKind, b.uploadActive kind.type = true → b.uploadState = .start kind)
    (closed : ∀ type, type = .th ∨ type = .bp → b.uploadActive type = false)
    (waiting : b.uploadState ≠ .idle → b.scanState = .waitingUpload)
    (reached : ∀ type, FsReaches type (origin type) (b.store type)) : UploadInv origin b := by
  have sample : b.sensorUploadCtx.state.isCdata = false := by rw [idle]; rfl
  refine ⟨.inl idle, fun type active => ?_, waiting, fun cdata => absurd (sample.symm.trans cdata) Bool.false_ne_true,
    reached⟩
  cases type with
  | tag => exact scan .tag active
  | mac => exact scan .mac active
  | th => exact absurd active (Bool.eq_false_iff.mp (closed .th (.inl rfl)))
  | bp => exact absurd active (Bool.eq_false_iff.mp (closed .bp (.inr rfl)))

lemma sensorMoves (inv : UploadInv origin b) (scanIdle : b.uploadState = .idle)
    (owns : ∀ type, type = .th ∨ type = .bp → b.uploadActive type = true →
      ctx.state.isCdata = true ∧ ctx.uploadType = some type)
    (typed : ctx.state.isCdata = true → ctx.uploadType = some .th ∨ ctx.uploadType = some .bp) :
    UploadInv origin { b with sensorUploadCtx := ctx } := by
  refine ⟨.inr scanIdle, fun type active => ?_, inv.waiting, typed, inv.reached⟩
  cases type with
  | tag => exact inv.owned .tag active
  | mac => exact inv.owned .mac active
  | th => exact owns .th (.inl rfl) active
  | bp => exact owns .bp (.inr rfl) active

lemma cdata (inv : UploadInv origin b) (cdata : b.sensorUploadCtx.state.isCdata = true)
    (stays : ctx.state.isCdata = true) (type : ctx.uploadType = b.sensorUploadCtx.uploadType) :
    UploadInv origin { b with sensorUploadCtx := ctx } := by
  have busy : b.sensorUploadCtx.state ≠ .idle := by
    intro idle
    simp [idle, SensorUploadState.isCdata] at cdata
  refine inv.sensorMoves (inv.serial.resolve_left busy) (fun other sensor active => ⟨stays, ?_⟩) fun _ => ?_
  · exact type.trans (inv.sensor sensor active).2
  · rw [type]
    exact inv.sensorType cdata

lemma reset_rewound (env rewind b) : ∃ rewound, Quiet b rewound ∧
      sensorUploadReset env rewind b = { rewound with sensorUploadCtx := ⟨.idle, none, 0, 0⟩ } := by
  unfold sensorUploadReset
  split
  · split
    · exact ⟨_, .rewind env .th b, rfl⟩
    · exact ⟨b, .refl b, rfl⟩
  · split
    · exact ⟨_, .rewind env .bp b, rfl⟩
    · exact ⟨b, .refl b, rfl⟩
  · exact ⟨b, .refl b, rfl⟩

lemma reset_closes (env) {type} (sensor : type = .th ∨ type = .bp)
    (cdata : b.sensorUploadCtx.state.isCdata = true) (uploads : b.sensorUploadCtx.uploadType = some type) :
    (sensorUploadReset env true b).uploadActive type = false := by
  rcases sensor with rfl | rfl
  · simp only [sensorUploadReset, uploads, cdata, Bool.and_self, if_true]
    exact flash_active env .th .rewind b
  · simp only [sensorUploadReset, uploads, cdata, Bool.and_self, if_true]
    exact flash_active env .bp .rewind b

section

variable (inv : UploadInv origin b)
include inv

lemma reset (env) {rewind : Bool}
    (closed : rewind = true ∨ ∀ type, type = .th ∨ type = .bp → b.uploadActive type = false) :
    UploadInv origin (sensorUploadReset env rewind b) := by
  obtain ⟨rewound, quiet, same⟩ := reset_rewound env rewind b
  have later : ∀ type, (sensorUploadReset env rewind b).uploadActive type = rewound.uploadActive type := by
    intro type
    rw [same]
    rfl
  have kept := inv.quiet quiet
  refine of_sensorIdle (by rw [same]) ?_ ?_ ?_ ?_
  · intro kind active
    rw [same]
    exact kept.scan kind ((later _).symm.trans active)
  · intro type sensor
    apply Bool.eq_false_iff.mpr
    intro active
    have before := quiet.uploadActive type ((later type).symm.trans active)
    rcases closed with rfl | closed
    · have owned := inv.sensor sensor before
      exact Bool.false_ne_true ((reset_closes env sensor owned.1 owned.2).symm.trans active)
    · exact Bool.false_ne_true ((closed type sensor).symm.trans before)
  · rw [same]
    exact kept.waiting
  · rw [same]
    exact kept.reached

lemma beginCdata (env) {type} (sensor : type = .th ∨ type = .bp)
    (idle : b.sensorUploadCtx.state = .idle) (scanIdle : b.uploadState = .idle) (total seq : Nat) :
    UploadInv origin { (b.flash env type .uploadBegin).2 with
      sensorUploadCtx := ⟨.cdataWaitStartAck, some type, total, seq⟩ } := by
  refine ⟨.inr scanIdle, fun other active => ?_, inv.waiting, fun _ => sensor.imp (congrArg some) (congrArg some),
    fun other => (inv.reached other).trans (flash_reaches env type .uploadBegin b other)⟩
  by_cases same : other = type
  · subst same
    rcases sensor with rfl | rfl <;> exact ⟨rfl, rfl⟩
  · have before : b.uploadActive other = true := (flash_active_other env same _ b).symm.trans active
    have owned := inv.owned other before
    cases other with
    | tag | mac => exact owned
    | th | bp => simp [BleState.Owned, idle, SensorUploadState.isCdata] at owned

lemma tryStart (env) : UploadInv origin (sensorCachedUploadTryStart env b) := by
  unfold sensorCachedUploadTryStart
  split
  · exact inv
  · next free =>
    obtain ⟨idle, scanIdle⟩ : b.sensorUploadCtx.state = .idle ∧ b.uploadState = .idle := by
      simpa [sensorUploadBusy] using free
    split
    · exact inv
    · next type found =>
      have sensor := sensorCachedUploadType_sensor found
      split
      · exact inv
      · split
        · exact inv
        · have begun := (inv.beginCdata env sensor idle scanIdle (sensorCdataTotalPackets type b) 1).sent env
            (.cdataStart type (sensorCdataTotalPackets type b))
          simp only
          split
          · exact begun.reset env (.inl rfl)
          · exact begun

lemma read (env) {type} (owned : b.Owned type) : UploadInv origin (b.flash env type .readNext).2 := by
  refine ⟨inv.serial, fun other active => ?_, inv.waiting, inv.sensorType, fun other =>
    (inv.reached other).trans (flash_reaches env type .readNext b other)⟩
  by_cases same : other = type
  · subst same
    cases other <;> exact owned
  · have kept := inv.owned other ((flash_active_other env same _ b).symm.trans active)
    cases other <;> exact kept

lemma fill (env) {type} (owned : b.Owned type) (room records usedLen) :
    UploadInv origin (sensorCdataFill env type room records usedLen b).2 ∧
    (sensorCdataFill env type room records usedLen b).2.sensorUploadCtx = b.sensorUploadCtx := by
  induction room generalizing b records usedLen with
  | zero => exact ⟨inv, rfl⟩
  | succ room ih =>
    rw [sensorCdataFill]
    split
    · exact ⟨inv, rfl⟩
    · have read := inv.read env owned
      have still : (b.flash env type .readNext).2.Owned type := by cases type <;> exact owned
      split
      · next data after answer =>
        obtain rfl : (b.flash env type .readNext).2 = after := congrArg Prod.snd answer
        simp only
        split
        · exact ⟨read, rfl⟩
        · exact ih read still _ _
      · next after _ answer =>
        obtain rfl : (b.flash env type .readNext).2 = after := congrArg Prod.snd answer
        exact ⟨read, rfl⟩

lemma sendNext (env) (cdata : b.sensorUploadCtx.state.isCdata = true) :
    UploadInv origin (sensorCdataSendNextPacket env b).2 := by
  rw [sensorCdataSendNextPacket]
  split
  · exact inv
  · next type uploads =>
    split
    · exact inv
    · next text =>
      have owned : b.Owned type := by
        cases type with
        | tag | mac => exact absurd (Or.inl rfl) text
        | th | bp => exact ⟨cdata, uploads⟩
      obtain ⟨filled, ctx⟩ := inv.fill env owned (sensorCdataMaxRecordsPerPacket type) [] sensorCdataPrefixReservedLen
      split
      · next after answer =>
        rw [show _ = after from congrArg Prod.snd answer] at filled
        exact filled
      · next records usedLen after answer =>
        rw [show _ = after from congrArg Prod.snd answer] at filled ctx
        rw [← ctx] at cdata
        split
        · exact filled
        · simp only
          split
          · exact filled
          · split
            · exact filled
            · split
              · exact (filled.sent env _).cdata cdata rfl rfl
              · exact filled.sent env _

lemma realtime (env type record) : UploadInv origin (sensorRealtimeUploadStart env type record b).2 := by
  unfold sensorRealtimeUploadStart
  split
  · exact inv
  · next free =>
    obtain ⟨⟨_, idle⟩, scanIdle⟩ : (_ ∧ b.sensorUploadCtx.state = .idle) ∧ b.uploadState = .idle := by
      simpa [sensorUploadBusy] using free
    have closed : ∀ other, other = .th ∨ other = .bp → b.uploadActive other = false := fun _ sensor =>
      inv.sensorClosed (by rw [idle]; rfl) sensor
    have begun : ∀ ctx : SensorUploadCtx, ctx.state.isCdata = false →
        UploadInv origin { b with sensorUploadCtx := ctx } := fun ctx sample =>
      inv.sensorMoves scanIdle (fun other sensor active => absurd active (Bool.eq_false_iff.mp (closed other sensor)))
        fun cdata => absurd (sample.symm.trans cdata) Bool.false_ne_true
    have sample : (sensorSampleState type).isCdata = false := by
      unfold sensorSampleState
      split <;> rfl
    simp only
    split
    · exact ((begun _ sample).sent env _).reset env (.inr closed)
    · exact (begun _ sample).sent env _

lemma keepSample (env type) (wakeup)
    (record) : UploadInv origin (sensorSampleKeep env type wakeup record b) := by
  have pushed := inv.quiet (Collects.push env type record b).quiet
  unfold sensorSampleKeep
  simp only
  split
  · exact pushed.quiet (.of_eq rfl rfl rfl id)
  · exact pushed

lemma processSample (env type) (wakeup)
    (record) : UploadInv origin (sensorProcessSample env type wakeup record b) := by
  unfold sensorProcessSample
  split
  · have begun := inv.realtime env type record
    simp only
    split
    · exact begun
    · exact begun.keepSample env type wakeup record
  · exact inv.keepSample env type wakeup record

lemma continued (env) (cdata : b.sensorUploadCtx.state.isCdata = true) :
    UploadInv origin (sensorCdataContinue env b) := by
  have sent := inv.sendNext env cdata
  unfold sensorCdataContinue
  simp only
  split
  · exact sent.reset env (.inl rfl)
  · exact sent

lemma done (env) (closed : ∀ type, type = .th ∨ type = .bp → b.uploadActive type = false) :
    UploadInv origin (sensorUploadDone env b) :=
  (inv.reset env (.inr closed)).tryStart env

lemma commit (env type) : UploadInv origin ((b.flash env type .commit).2.emit (.committed type)) := by
  have committed : Quiet b (b.flash env type .commit).2 := .flash env b (by rintro ⟨⟩)
  exact (inv.quiet committed).quiet (.of_eq rfl rfl rfl id)

lemma handleAck (env rsp) : UploadInv origin (sensorHandleLteAck env rsp b) := by
  cases rsp with
  | th | bp =>
    simp only [sensorHandleLteAck]
    split
    · next waiting => exact inv.done env fun _ sensor => inv.sensorClosed (by rw [waiting]; rfl) sensor
    · exact inv
  | cdata =>
    simp only [sensorHandleLteAck]
    split
    · next waiting => exact inv.continued env (by rw [waiting]; rfl)
    · next waiting =>
      have cdata : b.sensorUploadCtx.state.isCdata = true := by rw [waiting]; rfl
      split
      · have numbered : UploadInv origin { b with sensorUploadCtx :=
            { b.sensorUploadCtx with nextSeq := b.sensorUploadCtx.nextSeq + 1 } } := inv.cdata cdata cdata rfl
        exact numbered.continued env cdata
      · split
        · exact (inv.sent env _).reset env (.inl rfl)
        · exact (inv.sent env _).cdata cdata rfl rfl
    · next waiting =>
      split
      · next none =>
        refine inv.done env fun type sensor => Bool.eq_false_iff.mpr fun active => ?_
        cases none.symm.trans (inv.sensor sensor active).2
      · next uploaded uploads =>
        refine (inv.commit env uploaded).done env fun type sensor => Bool.eq_false_iff.mpr fun active => ?_
        by_cases same : type = uploaded
        · subst same
          exact Bool.false_ne_true ((flash_active env type .commit b).symm.trans active)
        · have before := (flash_active_other env same .commit b).symm.trans active
          exact same (Option.some.inj ((inv.sensor sensor before).2.symm.trans uploads))
    · exact inv
  | _ => exact inv

lemma uploadStart (env kind) (idle : b.sensorUploadCtx.state = .idle)
    (elsewhere : ∀ kind, b.uploadState ≠ .start kind) :
    UploadInv origin { uploadStart env kind b with scanState := .waitingUpload } := by
  have others : ∀ type, type ≠ kind.type → (BleScan.uploadStart env kind b).uploadActive type = b.uploadActive type :=
    fun type other => flash_active_other env other .uploadBegin { b with
      uploadState := .start kind, tagMacinfoSeq := 0, flashConsumed := 0, rtCountSnap := (b.table kind).length }
  refine of_sensorIdle idle ?_ ?_ (fun _ => rfl) ?_
  · intro other active
    by_cases same : other = kind
    · rw [same]
      rfl
    · have before := others _ fun types => same (ScanKind.type_inj.mp types)
      exact absurd (before.symm.trans active) (Bool.eq_false_iff.mp (inv.scanClosed elsewhere other))
  · intro type sensor
    refine (others type ?_).trans (inv.sensorClosed (by rw [idle]; rfl) sensor)
    rcases sensor with rfl | rfl <;> cases kind <;> exact nofun
  · intro type
    exact (inv.reached type).trans (flash_reaches env kind.type .uploadBegin { b with
      uploadState := .start kind, tagMacinfoSeq := 0, flashConsumed := 0, rtCountSnap := (b.table kind).length } type)

lemma uploadFinish (env) (state : b.uploadState = .start kind) : UploadInv origin (uploadFinish env kind b) := by
  have committed := inv.commit env kind.type
  have busy : b.uploadState ≠ .idle := by rw [state]; exact nofun
  refine of_sensorIdle (committed.sensorIdle busy) ?_ ?_ (fun _ => committed.waiting busy) committed.reached
  · intro other active
    have kinds : other = kind := UploadState.start.inj ((committed.scan other active).symm.trans state)
    rw [kinds] at active
    exact absurd ((flash_active env kind.type .commit _).symm.trans active) Bool.false_ne_true
  · intro type sensor
    exact committed.sensorClosed (by rw [committed.sensorIdle busy]; rfl) sensor

lemma uploadNext (env) (state : b.uploadState = .start kind) : UploadInv origin (uploadNext env kind b) := by
  have owned : b.Owned kind.type := by cases kind <;> exact state
  have read := inv.read env owned
  rcases uploadNext_cases env kind b with ⟨data, _, next⟩ | ⟨_, _, next⟩ | ⟨_, _, next⟩
  · rw [next]
    exact read.quiet (.of_eq rfl rfl rfl id)
  · rw [next]
    exact read.quiet (.of_eq rfl rfl rfl id)
  · rw [next]
    exact read.uploadFinish env state

lemma uploadEnd (env) (state : b.uploadState = .ended kind) : UploadInv origin (uploadEnd env b) := by
  have idle := inv.sensorIdle (by rw [state]; exact nofun)
  have closed := inv.scanClosed (by rw [state]; exact nofun)
  have ended : UploadInv origin { b with
      tagMacinfoSeq := 0, flashConsumed := 0, uploadState := .idle, scanState := .idle } :=
    of_sensorIdle idle (fun other active => absurd active (Bool.eq_false_iff.mp (closed other)))
      (fun type sensor => inv.sensorClosed (by rw [idle]; rfl) sensor) (absurd rfl) inv.reached
  exact ended.tryStart env

lemma uploadData (env) : UploadInv origin (tagMacScanUploadData env b) := by
  rcases uploadData_cases env b with ⟨_, same⟩ | ⟨state, idle, kind, same⟩ | ⟨kind, state, same⟩ | ⟨state, _, same⟩ |
    ⟨kind, state, _, same⟩
  · rw [same]
    exact inv
  · rw [same]
    exact inv.uploadStart env kind idle (by rw [state]; exact nofun)
  · rw [same]
    exact inv.uploadNext env state
  · rw [same]
    have busy : b.uploadState ≠ .idle := by rw [state]; exact nofun
    have started := inv.uploadStart env .mac (inv.sensorIdle busy) (by rw [state]; exact nofun)
    exact started.quiet (.of_eq rfl rfl rfl fun _ => inv.waiting busy)
  · rw [same]
    exact inv.uploadEnd env state

lemma scanUpload (env) (free : b.scanState ≠ .waitingUpload) : UploadInv origin (scanTriggerUpload env b) := by
  have quiet := (Collects.scanStop env b).quiet
  have stopped := inv.quiet quiet
  have idle : (scanStopInternal env b).uploadState = .idle := by
    by_contra busy
    exact free (inv.waiting (quiet.uploadState ▸ busy))
  unfold scanTriggerUpload
  simp only
  split
  · exact ⟨stopped.serial, stopped.owned, absurd idle, stopped.sensorType, stopped.reached⟩
  · exact stopped.uploadData env

lemma wakeup (env) : UploadInv origin (uploadOnWakeup env b) := by
  have stopped := inv.quiet (Collects.scanStop env b).quiet
  unfold uploadOnWakeup
  split
  · simp only
    split
    · exact stopped
    · exact stopped.uploadData env
  · exact inv

end

lemma rewindScan (owned : ∀ type, b.uploadActive type = true → b.Owned type)
    (sensorType : b.sensorUploadCtx.state.isCdata = true →
      b.sensorUploadCtx.uploadType = some .th ∨ b.sensorUploadCtx.uploadType = some .bp)
    (reached : ∀ type, FsReaches type (origin type) (b.store type)) (env) :
    UploadInv origin (rewindScanUpload env b) := by
  unfold rewindScanUpload
  generalize cleared : ({ b with tagMacinfoSeq := 0, uploadState := .idle, flashConsumed := 0, rtCountSnap := 0 } :
    BleState) = idled
  have untouched : ∀ type, type ≠ .tag → type ≠ .mac →
      ((idled.flash env .tag .rewind).2.flash env .mac .rewind).2.uploadActive type = b.uploadActive type := by
    intro type tag mac
    rw [flash_active_other env mac, flash_active_other env tag, ← cleared]
    rfl
  have idle : idled.uploadState = .idle := by rw [← cleared]
  refine ⟨.inr idle, fun type active => ?_, absurd idle, by rw [← cleared]; exact sensorType, fun type => ?_⟩
  · cases type with
    | tag =>
      rw [flash_active_other env (by decide), flash_active] at active
      exact nomatch active
    | mac =>
      rw [flash_active] at active
      exact nomatch active
    | th =>
      rw [untouched .th nofun nofun] at active
      rw [← cleared]
      exact owned .th active
    | bp =>
      rw [untouched .bp nofun nofun] at active
      rw [← cleared]
      exact owned .bp active
  · have start : FsReaches type (origin type) (idled.store type) := by
      rw [← cleared]
      exact reached type
    exact (start.trans (flash_reaches env .tag .rewind idled type)).trans (flash_reaches env .mac .rewind _ type)

section

variable (inv : UploadInv origin b)
include inv

lemma rescan (idle : b.uploadState = .idle) (mode : ScanMode) :
    UploadInv origin { b with scanMode := mode, scanState := .idle } :=
  ⟨inv.serial, inv.owned, absurd idle, inv.sensorType, inv.reached⟩

lemma setConfig (env mode) : UploadInv origin (myScanSetConfig env mode b) := by
  have flushed := inv.quiet (Collects.flushAll env b).quiet
  have reset : UploadInv origin (scanReset env b) :=
    (rewindScan flushed.owned flushed.sensorType flushed.reached env).reset env (.inl rfl)
  have idle : (scanReset env b).uploadState = .idle := by
    obtain ⟨_, quiet, same⟩ := reset_rewound env true (rewindScanUpload env (tranMacTableFlushToFlash env
      (tagTableFlushToFlash env (scanStopInternal env b))))
    rw [scanReset, same]
    exact quiet.uploadState
  have configured := reset.rescan idle mode
  rcases setConfig_cases env mode b with off | started
  · rw [off]
    exact configured
  · rw [started]
    exact configured.quiet (Collects.scanStart env (by exact nofun)).quiet

lemma clear (env) : UploadInv origin (clearTagMacinfo env b) := by
  let emptied := (({ b with scanState := .idle } : BleState).setTable .tag []).setTable .mac []
  have owned : ∀ type, emptied.uploadActive type = true → emptied.Owned type := by
    intro type active
    have owned := inv.owned type active
    cases type <;> exact owned
  exact (rewindScan owned inv.sensorType inv.reached env).reset env (.inl rfl)

/-- One message. -/
lemma handle (received) : UploadInv origin (myScanMsgHandler b received) := by
  obtain ⟨env, msg⟩ := received
  cases msg with
  | tagScanProcess drained => exact inv.quiet (Collects.foldl (Collects.tagHandle env) b drained).quiet
  | tranMacProcess drained => exact inv.quiet (Collects.foldl (Collects.macHandle env) b drained).quiet
  | scanInterval =>
    simp only [myScanMsgHandler]
    split
    · next due =>
      have idle : b.scanState = .idle := by simpa using (Bool.and_eq_true_iff.mp due).2
      exact inv.quiet (Collects.scanStart env (by rw [idle]; exact nofun)).quiet
    · exact inv
  | scanLength => exact inv.quiet (Collects.flushAll env b).quiet
  | scanUpload =>
    simp only [myScanMsgHandler]
    split
    · split
      · exact inv
      · next free => exact inv.scanUpload env free
    · exact inv
  | uploadWakeup => exact (inv.wakeup env).tryStart env
  | sensorThSample record => exact inv.processSample env .th _ record
  | sensorBpSample record => exact inv.processSample env .bp _ record
  | sensorLteAck rsp => exact inv.handleAck env rsp
  | uploadTagAndMac => exact inv.uploadData env
  | setConfig mode => exact inv.setConfig env mode
  | clearTagMacinfo => exact inv.clear env

end

lemma init (env mode) (media : (type : FsDataType) → FsMedia (FsRecord type)) :
    UploadInv (fun type => myFlashStoreInit (fsLayout type) (media type)) (myScanInit env mode media) := by
  rw [myScanInit_eq]
  apply setConfig
  refine ⟨.inl rfl, fun type active => ?_, fun busy => absurd rfl busy, nofun, fun _ => .refl⟩
  have closed : (myFlashStoreInit (fsLayout type) (media type)).rg.uploadActive = false := by
    unfold myFlashStoreInit fsRegionLoad
    split
    · rfl
    · split
      · rfl
      · split <;> rfl
  exact absurd (closed.symm.trans active) Bool.false_ne_true

lemma run (env mode) (media : (type : FsDataType) → FsMedia (FsRecord type)) (messages : List (BleEnv × BleMsg)) :
    UploadInv (fun type => myFlashStoreInit (fsLayout type) (media type))
      (messages.foldl myScanMsgHandler (myScanInit env mode media)) :=
  List.foldlRecOn messages myScanMsgHandler (init env mode media) fun _ inv received _ => inv.handle received

end UploadInv

/-- In every run of the BLE thread at most one of the two upload machines is busy, and
a region has an open session only while the machine that owns it works on it. -/
theorem upload_machines_exclusive [Crc32Ieee] (env : BleEnv) (mode : ScanMode)
    (media : (type : FsDataType) → FsMedia (FsRecord type)) (messages : List (BleEnv × BleMsg)) :
    let b := messages.foldl myScanMsgHandler (myScanInit env mode media)
    ¬ (b.sensorUploadCtx.state ≠ .idle ∧ b.uploadState ≠ .idle) ∧
      ∀ type, b.uploadActive type = true → b.Owned type := by
  have inv := UploadInv.run env mode media messages
  exact ⟨fun busy => inv.serial.elim busy.1 busy.2, inv.owned⟩

end LL320D.BleScan
