import LL320D.Proofs.ScanSession

/-! What a lost link leaves behind. The two upload machines move on replies only, so that an exchange without its reply
keeps them busy, and a busy machine refuses every later session of either kind. -/

namespace LL320D.BleScan
open FlashStore Library List

def BleState.HasRecords (b : BleState) : Prop := b.anyPending = true ∨ 0 < b.pendingCount .th ∨ 0 < b.pendingCount .bp

/-- A START packet with the count of what is pending. -/
def BleState.Announces (b : BleState) : LtePacket → Prop
  | .start kind total => total = b.uploadTotal kind ∧ 0 < total
  | .cdataStart type packets => packets = sensorCdataTotalPackets type b ∧ 0 < b.pendingCount type
  | _ => False

/-- No exchange is open, and a packet can go out. -/
structure BleState.Free (env : BleEnv) (b : BleState) : Prop where
  scan : b.uploadState = .idle
  sensor : b.sensorUploadCtx.state = .idle
  sends : env.lteSend = 0
  stops : b.scanState = .scanning → env.scanStop = 0 ∨ 0 < b.pendingCount .th ∨ 0 < b.pendingCount .bp

section

variable {after b : BleState} {origin : (type : FsDataType) → FsState (FsRecord type)}

def BleState.Waits (b : BleState) : Prop := b.scanState = .waitingUpload → b.uploadState ≠ .idle

structure StatesEq (before after : BleState) : Prop where
  uploadState : after.uploadState = before.uploadState
  scanState : after.scanState = before.scanState

namespace StatesEq

variable {before : BleState}

lemma refl (b) : StatesEq b b := ⟨rfl, rfl⟩

lemma trans {first second third : BleState} (before : StatesEq first second) (after : StatesEq second third) :
    StatesEq first third :=
  ⟨after.uploadState.trans before.uploadState, after.scanState.trans before.scanState⟩

lemma foldl {β : Type} {step : BleState → β → BleState} (same : ∀ b item, StatesEq b (step b item)) (b)
    (items : List β) : StatesEq b (items.foldl step b) := by
  induction items generalizing b with
  | nil => exact .refl b
  | cons item items ih => exact (same b item).trans (ih _)

lemma waits (same : StatesEq before after) (waits : before.Waits) : after.Waits := by
  intro waiting
  rw [same.uploadState]
  exact waits (same.scanState.symm.trans waiting)

lemma of_view (view : scanView after = scanView before) : StatesEq before after :=
  ⟨congrArg ScanView.uploadState view, congrArg ScanView.scanState view⟩

lemma macHandle (b received) : StatesEq b (tranMacDataHandle b received) := by
  obtain ⟨now, msg⟩ := received
  simp only [tranMacDataHandle]
  split
  · exact .refl b
  · split
    · exact ⟨rfl, rfl⟩
    · split
      · exact ⟨rfl, rfl⟩
      · exact .refl b

variable [Crc32Ieee]

lemma tableFlush (env kind b) : StatesEq b (tableFlushToFlash env kind b) := by
  simp only [tableFlushToFlash]
  split
  · exact .refl b
  · have pushed := foldl (fun b item => ⟨rfl, rfl⟩ : ∀ b item, StatesEq b (b.flash env kind.type (.push item)).2) b
      (selectionSort ScanRecord.timestamp (b.table kind))
    exact ⟨pushed.uploadState, pushed.scanState⟩

lemma tagHandle (env b received) : StatesEq b (tagScanDataHandle env b received) := by
  have save (now : UInt32) (result : TagScanResult) (b : BleState) : StatesEq b (tagScanResultSave env now result b) := by
    simp only [tagScanResultSave]
    split
    · exact ⟨rfl, rfl⟩
    · split
      · exact ⟨rfl, rfl⟩
      · have flushed := tableFlush env .tag b
        exact ⟨flushed.uploadState, flushed.scanState⟩
  obtain ⟨now, type, result⟩ := received
  cases type with
  | advInd => exact ⟨rfl, rfl⟩
  | scanRsp =>
    have released (cache : List AdvCacheItem) : StatesEq b { b with advCacheTable := cache } := ⟨rfl, rfl⟩
    simp only [tagScanDataHandle]
    split
    · split
      all_goals exact (released _).trans (save now ..)
    · exact released _

end StatesEq

lemma waits_scanStop (env) (waits : b.Waits) : (scanStopInternal env b).Waits := by
  simp only [scanStopInternal]
  split
  · exact waits
  · split
    · exact waits
    · rintro ⟨⟩

lemma waits_scanStart (env) (waits : b.Waits) : (scanStartInternal env b).Waits := by
  simp only [scanStartInternal]
  split
  · exact waits
  · split
    · exact waits
    · split
      · exact waits
      · exact nofun

variable [Crc32Ieee]

lemma uploadNext_busy (env) {kind : ScanKind} (state : b.uploadState = .start kind) :
    (uploadNext env kind b).uploadState ≠ .idle := by
  rcases uploadNext_cases env kind b with ⟨data, -, next⟩ | ⟨-, -, next⟩ | ⟨-, -, next⟩
  · rw [next]
    exact fun idle => nomatch state.symm.trans idle
  · rw [next]
    exact fun idle => nomatch state.symm.trans idle
  · rw [next]
    exact nofun

lemma waits_uploadEnd (env b) : (uploadEnd env b).Waits := (StatesEq.of_view (scanView_tryStart env _)).waits nofun

lemma waits_uploadData (env) (waits : b.Waits) : (tagMacScanUploadData env b).Waits := by
  rcases uploadData_cases env b with ⟨-, same⟩ | ⟨-, -, kind, started⟩ | ⟨kind, state, next⟩ | ⟨-, -, started⟩ |
    ⟨kind, -, -, ended⟩
  · rw [same]
    exact waits
  · rw [started]
    exact fun _ => nofun
  · rw [next]
    exact fun _ => uploadNext_busy env state
  · rw [started]
    exact fun _ => nofun
  · rw [ended]
    exact waits_uploadEnd env b

lemma waits_scanUpload (env) (waits : b.Waits) : (scanTriggerUpload env b).Waits := by
  simp only [scanTriggerUpload]
  split
  · rintro ⟨⟩
  · exact waits_uploadData env (waits_scanStop env waits)

lemma waits_wakeup (env) (waits : b.Waits) : (uploadOnWakeup env b).Waits := by
  simp only [uploadOnWakeup]
  split
  · split
    · exact waits_scanStop env waits
    · exact waits_uploadData env (waits_scanStop env waits)
  · exact waits

lemma waits_setConfig (env mode b) : (myScanSetConfig env mode b).Waits := by
  rcases setConfig_cases env mode b with off | started
  · rw [off]
    exact nofun
  · rw [started]
    exact waits_scanStart env nofun

lemma waits_clear (env b) : (clearTagMacinfo env b).Waits :=
  (StatesEq.of_view (scanView_reset env true _)).waits nofun

lemma BleState.Waits.handle (waits : b.Waits)
    (inv : UploadInv origin b) (received) : (myScanMsgHandler b received).Waits := by
  obtain ⟨env, msg⟩ := received
  cases msg with
  | tagScanProcess drained => exact (StatesEq.foldl (StatesEq.tagHandle env) b drained).waits waits
  | tranMacProcess drained => exact (StatesEq.foldl StatesEq.macHandle b drained).waits waits
  | scanInterval =>
    simp only [myScanMsgHandler]
    split
    · exact waits_scanStart env waits
    · exact waits
  | scanLength =>
    have flushed := (StatesEq.tableFlush env .tag (scanStopInternal env b)).trans (StatesEq.tableFlush env .mac _)
    exact flushed.waits (waits_scanStop env waits)
  | scanUpload =>
    simp only [myScanMsgHandler]
    split
    · split
      · exact waits
      · exact waits_scanUpload env waits
    · exact waits
  | uploadWakeup => exact (StatesEq.of_view (scanView_tryStart env _)).waits (waits_wakeup env waits)
  | sensorThSample record => exact (StatesEq.of_view (scanView_processSample env (.inl rfl) _ record b)).waits waits
  | sensorBpSample record => exact (StatesEq.of_view (scanView_processSample env (.inr rfl) _ record b)).waits waits
  | sensorLteAck rsp => exact (StatesEq.of_view (scanView_handleAck env rsp inv.sensorType)).waits waits
  | uploadTagAndMac => exact waits_uploadData env waits
  | setConfig mode => exact waits_setConfig env mode b
  | clearTagMacinfo => exact waits_clear env b

end

section

variable {b : BleState} {env : BleEnv}

lemma sentPackets_lteSend (env : BleEnv) (packet) (b : BleState) :
    sentPackets (b.lteSendCommand env packet).2.log = sentPackets b.log ++ if env.lteSend = 0 then [packet] else [] := by
  simp only [BleState.lteSendCommand, sentPackets_append]
  split <;> rfl

lemma cachedType_spec (pending : 0 < b.pendingCount .th ∨ 0 < b.pendingCount .bp) :
    ∃ type, sensorCachedUploadType b = some type ∧ 0 < b.pendingCount type ∧ sensorCdataMaxRecordsPerPacket type ≠ 0 := by
  by_cases th : 0 < b.pendingCount .th
  · exact ⟨.th, if_pos th, th, by decide⟩
  · have bp := pending.resolve_left th
    exact ⟨.bp, (if_neg th).trans (if_pos bp), bp, by decide⟩

variable [Crc32Ieee]

lemma sentPackets_flash (env type) (op : FsOp (FsRecord type)) (b : BleState) :
    sentPackets (b.flash env type op).2.log = sentPackets b.log := by
  have log : (b.flash env type op).2.log = b.log ++ _ := rfl
  rw [log, sentPackets_append]
  cases (fsCall (fsLayout type) (env.io b.flashCalls) (b.store type) op).effects.any FsEffect.isRingFull with
  | false | true => exact append_nil _

lemma sentPackets_reset (env) (rewind : Bool) (b : BleState) :
    sentPackets (sensorUploadReset env rewind b).log = sentPackets b.log := by
  simp only [sensorUploadReset]
  split
  · split
    · exact sentPackets_flash env .th .rewind b
    · rfl
  · split
    · exact sentPackets_flash env .bp .rewind b
    · rfl
  · rfl

lemma tryStart_empty (none : sensorCachedUploadType b = none) : sensorCachedUploadTryStart env b = b := by
  simp only [sensorCachedUploadTryStart, none]
  split <;> rfl

lemma tryStart_free (scan : b.uploadState = .idle) (sensor : b.sensorUploadCtx.state = .idle) (ready : env.lteReady = true)
    (pending : 0 < b.pendingCount .th ∨ 0 < b.pendingCount .bp) :
    ∃ type, 0 < b.pendingCount type ∧ sentPackets (sensorCachedUploadTryStart env b).log =
      sentPackets b.log ++ if env.lteSend = 0 then [LtePacket.cdataStart type (sensorCdataTotalPackets type b)] else [] := by
  obtain ⟨type, found, some, records⟩ := cachedType_spec pending
  refine ⟨type, some, ?_⟩
  have free : ¬ (sensorUploadBusy b || b.uploadState ≠ .idle) = true := by simp [sensorUploadBusy, scan, sensor]
  have begins : ¬ (b.pendingCount type = 0 ∨ sensorCdataMaxRecordsPerPacket type = 0) := by
    rintro (none | none)
    · exact Nat.ne_of_gt some none
    · exact records none
  simp only [sensorCachedUploadTryStart, if_neg free, found, ready, Bool.not_true, Bool.false_eq_true, if_false,
    if_neg begins]
  split
  · rw [sentPackets_reset, sentPackets_lteSend]
    exact congrArg (· ++ _) (sentPackets_flash env type .uploadBegin b)
  · rw [sentPackets_lteSend]
    exact congrArg (· ++ _) (sentPackets_flash env type .uploadBegin b)

lemma sentPackets_uploadStart (env : BleEnv) (kind) (b : BleState) : sentPackets (uploadStart env kind b).log =
      sentPackets b.log ++ if env.lteSend = 0 then [LtePacket.start kind (b.uploadTotal kind)] else [] := by
  simp only [uploadStart]
  rw [sentPackets_lteSend, sentPackets_flash]

end

section

variable {b : BleState} {env : BleEnv}

lemma anyPending_iff (b : BleState) : b.anyPending = true ↔ 0 < b.uploadTotal .tag ∨ 0 < b.uploadTotal .mac := by
  simp only [BleState.anyPending, BleState.uploadTotal, Bool.or_eq_true, decide_eq_true_eq, ScanKind.type]
  omega

structure Stopped (before after : BleState) : Prop where
  uploadState : after.uploadState = before.uploadState
  sensorUploadCtx : after.sensorUploadCtx = before.sensorUploadCtx
  store : after.store = before.store
  table : after.table = before.table
  log : after.log = before.log

lemma scanStop_stopped (env b) : Stopped b (scanStopInternal env b) := by
  simp only [scanStopInternal]
  split
  · exact ⟨rfl, rfl, rfl, rfl, rfl⟩
  · split
    · exact ⟨rfl, rfl, rfl, rfl, rfl⟩
    · exact ⟨rfl, rfl, rfl, rfl, rfl⟩

lemma Stopped.uploadTotal {after : BleState} (stopped : Stopped b after) (kind) :
    after.uploadTotal kind = b.uploadTotal kind := by
  simp only [BleState.uploadTotal, BleState.pendingCount, stopped.store, stopped.table]

lemma scanStop_idle (elsewhere : b.scanState ≠ .waitingUpload) (stops : b.scanState = .scanning → env.scanStop = 0) :
    (scanStopInternal env b).scanState = .idle := by
  cases state : b.scanState with
  | idle => simp [scanStopInternal, state]
  | scanning => simp [scanStopInternal, state, stops state]
  | waitingUpload => exact absurd state elsewhere

lemma scanStop_failed (fails : env.scanStop ≠ 0) : scanStopInternal env b = b := by
  simp only [scanStopInternal, if_pos fails]
  split <;> rfl

variable [Crc32Ieee]

lemma uploadData_free (env) (scan : b.uploadState = .idle) (sensor : b.sensorUploadCtx.state = .idle)
    (still : b.scanState ≠ .scanning) (pending : b.anyPending = true) :
    ∃ kind, 0 < b.uploadTotal kind ∧
      tagMacScanUploadData env b = { uploadStart env kind b with scanState := .waitingUpload } := by
  have free : ¬ sensorUploadBusy b = true := by simp [sensorUploadBusy, sensor]
  by_cases tags : b.uploadTotal .tag = 0
  · have macs : 0 < b.uploadTotal .mac := ((anyPending_iff b).mp pending).resolve_left (by omega)
    refine ⟨.mac, macs, ?_⟩
    simp only [tagMacScanUploadData, if_neg still, scan, if_neg free, if_pos tags, if_neg (Nat.ne_of_gt macs)]
  · refine ⟨.tag, Nat.pos_of_ne_zero tags, ?_⟩
    simp only [tagMacScanUploadData, if_neg still, scan, if_neg free, if_neg tags]

lemma uploadData_scanning (scanning : b.scanState = .scanning) : tagMacScanUploadData env b = b := by
  simp only [tagMacScanUploadData, if_pos scanning]

lemma wakeup_busy {origin : (type : FsDataType) → FsState (FsRecord type)} (inv : UploadInv origin b)
    (busy : b.uploadState ≠ .idle ∨ b.sensorUploadCtx.state ≠ .idle) :
    Stopped b (myScanMsgHandler b (env, .uploadWakeup)) := by
  simp only [myScanMsgHandler]
  by_cases scan : b.uploadState = .idle
  · have sensor := busy.resolve_left fun busy => busy scan
    have stopped := scanStop_stopped env b
    have woken : Stopped b (uploadOnWakeup env b) := by
      simp only [uploadOnWakeup]
      split
      · split
        · exact stopped
        · rw [uploadData_busy (stopped.sensorUploadCtx ▸ sensor) (stopped.uploadState.trans scan)]
          exact stopped
      · exact ⟨rfl, rfl, rfl, rfl, rfl⟩
    rw [tryStart_busy (.inl (woken.sensorUploadCtx ▸ sensor))]
    exact woken
  · rw [wakeup_waiting (inv.waiting scan), tryStart_busy (.inr scan)]
    exact ⟨rfl, rfl, rfl, rfl, rfl⟩

lemma wakeup_free (env : BleEnv) (waits : b.Waits) (scan : b.uploadState = .idle) (sensor : b.sensorUploadCtx.state = .idle)
    (ready : env.lteReady = true) (periodic : b.scanMode.periodic = true) (records : b.HasRecords)
    (stops : b.scanState = .scanning → env.scanStop = 0 ∨ 0 < b.pendingCount .th ∨ 0 < b.pendingCount .bp) :
    ∃ packet, b.Announces packet ∧ sentPackets (myScanMsgHandler b (env, .uploadWakeup)).log =
      sentPackets b.log ++ if env.lteSend = 0 then [packet] else [] := by
  have elsewhere : b.scanState ≠ .waitingUpload := fun waiting => waits waiting scan
  have backfill (woken : uploadOnWakeup env b = b) (pending : 0 < b.pendingCount .th ∨ 0 < b.pendingCount .bp) :
      ∃ packet, b.Announces packet ∧ sentPackets (myScanMsgHandler b (env, .uploadWakeup)).log =
        sentPackets b.log ++ if env.lteSend = 0 then [packet] else [] := by
    obtain ⟨type, some, sent⟩ := tryStart_free scan sensor ready pending
    refine ⟨.cdataStart type _, ⟨rfl, some⟩, ?_⟩
    simp only [myScanMsgHandler, woken]
    exact sent
  by_cases pending : b.anyPending = true
  · have due : (b.scanMode.periodic && b.anyPending) = true := by rw [periodic, pending]; rfl
    by_cases stoppable : b.scanState = .scanning → env.scanStop = 0
    · have stopped := scanStop_stopped env b
      have idle := scanStop_idle elsewhere stoppable
      have total : (scanStopInternal env b).anyPending = true := by
        rw [anyPending_iff] at pending ⊢
        rw [stopped.uploadTotal, stopped.uploadTotal]
        exact pending
      obtain ⟨kind, some, started⟩ := uploadData_free env (stopped.uploadState.trans scan)
        (stopped.sensorUploadCtx ▸ sensor) (by rw [idle]; rintro ⟨⟩) total
      have woken : uploadOnWakeup env b =
          { uploadStart env kind (scanStopInternal env b) with scanState := .waitingUpload } := by
        simp only [uploadOnWakeup, if_pos due, idle, reduceCtorEq, if_false, started]
      refine ⟨.start kind (b.uploadTotal kind), ⟨rfl, stopped.uploadTotal kind ▸ some⟩, ?_⟩
      simp only [myScanMsgHandler, woken]
      rw [tryStart_busy (.inr (show UploadState.start kind ≠ .idle by rintro ⟨⟩))]
      rw [← stopped.uploadTotal kind, ← stopped.log]
      exact sentPackets_uploadStart env kind _
    · obtain ⟨scanning, fails⟩ := Classical.not_imp.mp stoppable
      refine backfill ?_ ((stops scanning).resolve_left fails)
      simp only [uploadOnWakeup, if_pos due, scanStop_failed fails, if_neg elsewhere, uploadData_scanning scanning]
  · refine backfill ?_ (records.resolve_left pending)
    have idle : ¬ (b.scanMode.periodic && b.anyPending) = true := by simp [pending]
    simp only [uploadOnWakeup, if_neg idle]

lemma wakeup_scanning (scanning : b.scanState = .scanning) (fails : env.scanStop ≠ 0)
    (none : ¬ (0 < b.pendingCount .th ∨ 0 < b.pendingCount .bp)) : myScanMsgHandler b (env, .uploadWakeup) = b := by
  have elsewhere : b.scanState ≠ .waitingUpload := by rw [scanning]; nofun
  have woken : uploadOnWakeup env b = b := by
    simp only [uploadOnWakeup, scanStop_failed fails, if_neg elsewhere, uploadData_scanning scanning]
    split <;> rfl
  have type : sensorCachedUploadType b = Option.none := by
    have th : ¬ 0 < b.pendingCount .th := fun th => none (.inl th)
    have bp : ¬ 0 < b.pendingCount .bp := fun bp => none (.inr bp)
    simp only [sensorCachedUploadType, if_neg th, if_neg bp]
  simp only [myScanMsgHandler, woken]
  exact tryStart_empty type

end

namespace Link

section

variable [Crc32Ieee] {l : Link}

def Opens (l : Link) (env : BleEnv) : Prop := ∃ packet, l.ble.Announces packet ∧
    sentPackets (l.step (.message env .uploadWakeup)).ble.log = sentPackets l.ble.log ++ [packet]

structure Sound (origin : (type : FsDataType) → FsState (FsRecord type)) (l : Link) : Prop where
  upload : UploadInv origin l.ble
  waits : l.ble.Waits

variable {origin : (type : FsDataType) → FsState (FsRecord type)}

lemma Sound.step (sound : l.Sound origin) (event) : (l.step event).Sound origin := by
  cases event with
  | pwroff | pwron => exact ⟨sound.upload, sound.waits⟩
  | message env msg => exact ⟨sound.upload.handle (l.env env, msg), sound.waits.handle sound.upload (l.env env, msg)⟩

lemma Sound.run (env mode) (media : (type : FsDataType) → FsMedia (FsRecord type)) (events : List LinkEvent) :
    (events.foldl Link.step (start env mode media)).Sound fun type => myFlashStoreInit (fsLayout type) (media type) := by
  refine List.foldlRecOn events Link.step ?_ fun _ sound event _ => sound.step event
  exact ⟨UploadInv.init env mode media, waits_setConfig env mode _⟩

lemma opens_iff (sound : l.Sound origin) (env) (ready : l.lteReady = true)
    (periodic : l.ble.scanMode.periodic = true) (records : l.ble.HasRecords) : l.Opens env ↔ l.ble.Free env := by
  have quiet (same : sentPackets (l.step (.message env .uploadWakeup)).ble.log = sentPackets l.ble.log) :
      ¬ l.Opens env := by
    rintro ⟨packet, -, sent⟩
    rw [same] at sent
    have length := congrArg List.length sent
    rw [length_append] at length
    exact absurd length.symm (Nat.succ_ne_self _)
  by_cases busy : l.ble.uploadState ≠ .idle ∨ l.ble.sensorUploadCtx.state ≠ .idle
  · have stays : Stopped l.ble (l.step (.message env .uploadWakeup)).ble := wakeup_busy sound.upload busy
    refine iff_of_false (quiet (congrArg sentPackets stays.log)) fun free => ?_
    exact busy.elim (fun busy => busy free.scan) fun busy => busy free.sensor
  obtain ⟨scan, sensor⟩ := not_or.mp busy
  have scan := Decidable.not_not.mp scan
  have sensor := Decidable.not_not.mp sensor
  by_cases stops : l.ble.scanState = .scanning → env.scanStop = 0 ∨ 0 < l.ble.pendingCount .th ∨ 0 < l.ble.pendingCount .bp
  · obtain ⟨packet, announces, sent⟩ := wakeup_free (l.env env) sound.waits scan sensor ready periodic records stops
    by_cases sends : env.lteSend = 0
    · refine iff_of_true ⟨packet, announces, ?_⟩ ⟨scan, sensor, sends, stops⟩
      exact sent.trans (congrArg (sentPackets l.ble.log ++ ·) (if_pos sends))
    · rw [if_neg (show ¬ (l.env env).lteSend = 0 from sends), append_nil] at sent
      exact iff_of_false (quiet sent) fun free => sends free.sends
  · obtain ⟨scanning, blocked⟩ := Classical.not_imp.mp stops
    have stays : (l.step (.message env .uploadWakeup)).ble = l.ble :=
      wakeup_scanning scanning (fun zero => blocked (.inl zero)) fun pending => blocked (.inr pending)
    exact iff_of_false (quiet (congrArg (fun ble => sentPackets ble.log) stays)) fun free => stops free.stops

/-- A wake-up with the module ready, a periodic scan mode and records pending sends a START packet for them exactly if
no exchange is open, the packet can be sent and a running scan stopped. -/
theorem wakeup_opens_session_iff (env : BleEnv) (mode : ScanMode) (media : (type : FsDataType) → FsMedia (FsRecord type))
    (events : List LinkEvent) (now : BleEnv)
    (ready : (events.foldl Link.step (start env mode media)).lteReady = true)
    (periodic : (events.foldl Link.step (start env mode media)).ble.scanMode.periodic = true)
    (records : (events.foldl Link.step (start env mode media)).ble.HasRecords) :
    (events.foldl Link.step (start env mode media)).Opens now ↔
      (events.foldl Link.step (start env mode media)).ble.Free now :=
  opens_iff (Sound.run env mode media events) now ready periodic records

/-- Whatever fails and whenever the module is lost, the scan waits exactly while a TAG or MACINFO upload is open. -/
theorem scan_waits_iff_uploading (env : BleEnv) (mode : ScanMode)
    (media : (type : FsDataType) → FsMedia (FsRecord type)) (events : List LinkEvent) :
    let b := (events.foldl Link.step (start env mode media)).ble
    b.scanState = .waitingUpload ↔ b.uploadState ≠ .idle := by
  have sound := Sound.run env mode media events
  exact ⟨sound.waits, sound.upload.waiting⟩

end

def collectedThenOn : List LinkEvent := [.message .ok (.tagScanProcess [(7, ⟨.scanRsp, petTag⟩)]), .pwron]

theorem first_wakeup_opens_session : (collectedThenOn.foldl Link.step (start .ok .periodCache blankMedia)).Opens .ok :=
  (wakeup_opens_session_iff .ok .periodCache blankMedia collectedThenOn .ok (by decide +kernel) (by decide +kernel)
    (.inl (by decide +kernel))).mpr ⟨by decide +kernel, by decide +kernel, rfl, fun _ => .inl rfl⟩

def wokenThenCycled : List LinkEvent := [.message .ok .uploadWakeup, .pwroff false, .pwron]

/-- The module is powered off behind START of the TAG exchange: the next wake-up sends nothing, with the tag pending. -/
theorem power_cycle_blocks_upload :
    let lost := (collectedThenOn ++ wokenThenCycled).foldl Link.step (start .ok .periodCache blankMedia)
    lost.lteReady = true ∧ lost.ble.scanMode.periodic = true ∧ lost.ble.anyPending = true ∧
      sentPackets lost.ble.log = [.start .tag 1] ∧
      sentPackets (lost.step (.message .ok .uploadWakeup)).ble.log = [.start .tag 1] := by
  decide +kernel

end Link

end LL320D.BleScan
