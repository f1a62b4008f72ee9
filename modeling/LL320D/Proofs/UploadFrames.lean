import LL320D.Proofs.UploadExclusion

/-! The parts of the state that belong to the scan upload and to the sensor upload: each leaves the other's as it is. -/

namespace LL320D.BleScan
open FlashStore Library

@[ext] structure ScanView where
  table : (kind : ScanKind) → List (ScanRecord kind)
  scanMode : ScanMode
  scanState : ScanState
  tagMacinfoSeq : Nat
  uploadState : UploadState
  flashConsumed : Nat
  rtCountSnap : Nat
  store : (kind : ScanKind) → FsState (ScanRecord kind)
  events : List BleEvent

def scanView (b : BleState) : ScanView :=
  ⟨b.table, b.scanMode, b.scanState, b.tagMacinfoSeq, b.uploadState, b.flashConsumed, b.rtCountSnap,
    fun kind => b.store kind.type, b.log.filter BleEvent.isScan⟩

lemma scanView_emit {event : BleEvent} (other : event.isScan = false) (b : BleState) :
    scanView (b.emit event) = scanView b := by
  refine ScanView.ext rfl rfl rfl rfl rfl rfl rfl rfl ?_
  simp [scanView, BleState.emit, List.filter_append, other]

lemma scanView_sent (env) {packet : LtePacket} (other : packet.isScan = false) (b : BleState) :
    scanView (b.lteSendCommand env packet).2 = scanView b := by
  refine ScanView.ext rfl rfl rfl rfl rfl rfl rfl rfl ?_
  simp only [scanView, BleState.lteSendCommand, List.filter_append]
  split
  · simp [BleEvent.isScan, other]
  · simp

def FsOp.isPush {α : Type} : FsOp α → Bool
  | .push _ => true
  | _ => false

section

variable [Crc32Ieee] {type : FsDataType}

lemma scanView_flash (env) (sensor : type = .th ∨ type = .bp) (op) (b : BleState) :
    scanView (b.flash env type op).2 = scanView b := by
  refine ScanView.ext rfl rfl rfl rfl rfl rfl rfl ?_ ?_
  · funext kind
    refine flash_store_other env ?_ op b
    rcases sensor with rfl | rfl <;> cases kind <;> exact nofun
  · have other : FsDataType.isScan type = false := by rcases sensor with rfl | rfl <;> rfl
    simp only [scanView, BleState.flash, List.filter_append]
    split
    · simp [BleEvent.isScan, other]
    · simp

/-- What the sensor upload does: calls of the store for allowed regions, where it pushes samples only, packets that are
not about scanned devices, entries of the log, and changes of its own context. -/
inductive SensorActs (env : BleEnv) (allowed : FsDataType → Prop) (b : BleState) : BleState → Prop
  | refl : SensorActs env allowed b b
  | flash {c : BleState} (acts : SensorActs env allowed b c) (type : FsDataType) (op : FsOp (FsRecord type))
      (region : allowed type) (pushes : FsOp.isPush op = true → type = .th ∨ type = .bp) :
      SensorActs env allowed b (c.flash env type op).2
  | send {c : BleState} (acts : SensorActs env allowed b c) (packet : LtePacket) (other : packet.isScan = false) :
      SensorActs env allowed b (c.lteSendCommand env packet).2
  | power {c : BleState} (acts : SensorActs env allowed b c) : SensorActs env allowed b (c.emit .ltePwron)
  | committed {c : BleState} (acts : SensorActs env allowed b c) (type : FsDataType) (region : allowed type) :
      SensorActs env allowed b (c.emit (.committed type))
  | context {c : BleState} (acts : SensorActs env allowed b c) (ctx : SensorUploadCtx) :
      SensorActs env allowed b { c with sensorUploadCtx := ctx }

namespace SensorActs

variable {env : BleEnv} {allowed : FsDataType → Prop} {b : BleState}

lemma trans {c d} (first : SensorActs env allowed b c) (second : SensorActs env allowed c d) :
    SensorActs env allowed b d := by
  induction second with
  | refl => exact first
  | flash _ type op region pushes ih => exact ih.flash type op region pushes
  | send _ packet other ih => exact ih.send packet other
  | power _ ih => exact ih.power
  | committed _ type region ih => exact ih.committed type region
  | context _ ctx ih => exact ih.context ctx

variable (th : allowed .th) (bp : allowed .bp)
include th bp

omit [Crc32Ieee] in
lemma sensor {type} (sensor : type = .th ∨ type = .bp) : allowed type := by
  rcases sensor with rfl | rfl
  · exact th
  · exact bp

lemma reset (env rewind b) : SensorActs env allowed b (sensorUploadReset env rewind b) := by
  simp only [sensorUploadReset]
  split
  · split
    · exact (refl.flash .th .rewind th (by rintro ⟨⟩)).context _
    · exact refl.context _
  · split
    · exact (refl.flash .bp .rewind bp (by rintro ⟨⟩)).context _
    · exact refl.context _
  · exact refl.context _

omit th bp in
lemma fill (env) (region : allowed type) (room records) (usedLen)
    (b) : SensorActs env allowed b (sensorCdataFill env type room records usedLen b).2 := by
  induction room generalizing records usedLen b with
  | zero => exact .refl
  | succ room ih =>
    have read : SensorActs env allowed b (b.flash env type .readNext).2 := refl.flash type .readNext region nofun
    rw [sensorCdataFill]
    split
    · exact .refl
    · split
      · next data after answer =>
        obtain rfl : (b.flash env type .readNext).2 = after := congrArg Prod.snd answer
        simp only
        split
        · exact read
        · exact read.trans (ih _ _ _)
      · next after _ answer =>
        obtain rfl : (b.flash env type .readNext).2 = after := congrArg Prod.snd answer
        exact read

lemma sendNext (env b) : SensorActs env allowed b (sensorCdataSendNextPacket env b).2 := by
  rw [sensorCdataSendNextPacket]
  split
  · exact .refl
  · next type _ =>
    split
    · exact .refl
    · next text =>
      have region : allowed type := by
        cases type with
        | tag | mac => exact absurd (Or.inl rfl) text
        | th => exact th
        | bp => exact bp
      have filled := fill env region (sensorCdataMaxRecordsPerPacket type) [] sensorCdataPrefixReservedLen b
      split
      · next after answer =>
        rw [show _ = after from congrArg Prod.snd answer] at filled
        exact filled
      · next records usedLen after answer =>
        rw [show _ = after from congrArg Prod.snd answer] at filled
        split
        · exact filled
        · simp only
          split
          · exact filled
          · split
            · exact filled
            · split
              · exact (filled.send _ rfl).context _
              · exact filled.send _ rfl

lemma goesOn (env b) : SensorActs env allowed b (sensorCdataContinue env b) := by
  have sent := sendNext th bp env b
  simp only [sensorCdataContinue]
  split
  · exact sent.trans (reset th bp env true _)
  · exact sent

lemma tryStart (env b) : SensorActs env allowed b (sensorCachedUploadTryStart env b) := by
  rw [sensorCachedUploadTryStart]
  split
  · exact .refl
  · split
    · exact .refl
    · next type found =>
      have region := sensor th bp (sensorCachedUploadType_sensor found)
      split
      · exact .refl
      · split
        · exact .refl
        · have begun (ctx : SensorUploadCtx) (packet : LtePacket) (other : packet.isScan = false) :
              SensorActs env allowed b
                ({ (b.flash env type .uploadBegin).2 with sensorUploadCtx := ctx }.lteSendCommand env packet).2 :=
            ((refl.flash type .uploadBegin region nofun).context ctx).send packet other
          simp only
          split
          · exact (begun _ _ rfl).trans (reset th bp env true _)
          · exact begun _ _ rfl

lemma done (env b) : SensorActs env allowed b (sensorUploadDone env b) :=
  (reset th bp env false b).trans (tryStart th bp env _)

lemma realtime (env record b) : SensorActs env allowed b (sensorRealtimeUploadStart env type record b).2 := by
  rw [sensorRealtimeUploadStart]
  split
  · exact .refl
  · have begun (ctx : SensorUploadCtx) : SensorActs env allowed b
        ({ b with sensorUploadCtx := ctx }.lteSendCommand env (.sample type record)).2 :=
      (refl.context ctx).send _ rfl
    simp only
    split
    · exact (begun _).trans (reset th bp env false _)
    · exact begun _

lemma keepSample (env) (samples : type = .th ∨ type = .bp) (wakeup) (record)
    (b) : SensorActs env allowed b (sensorSampleKeep env type wakeup record b) := by
  have pushed : SensorActs env allowed b (b.flash env type (.push record)).2 :=
    refl.flash type (.push record) (sensor th bp samples) fun _ => samples
  simp only [sensorSampleKeep]
  split
  · exact pushed.power
  · exact pushed

lemma processSample (env) (samples : type = .th ∨ type = .bp) (wakeup) (record)
    (b) : SensorActs env allowed b (sensorProcessSample env type wakeup record b) := by
  have begun := realtime th bp env record b
  rw [sensorProcessSample]
  split
  · simp only
    split
    · exact begun
    · exact begun.trans (keepSample th bp env samples wakeup record _)
  · exact keepSample th bp env samples wakeup record b

lemma handleAck (env rsp) {b : BleState}
    (typed : ∀ type, b.sensorUploadCtx.state.isCdata = true → b.sensorUploadCtx.uploadType = some type → allowed type) :
    SensorActs env allowed b (sensorHandleLteAck env rsp b) := by
  cases rsp with
  | th | bp =>
    simp only [sensorHandleLteAck]
    split
    · exact done th bp env b
    · exact .refl
  | cdata =>
    simp only [sensorHandleLteAck]
    split
    · exact goesOn th bp env b
    · split
      · exact (refl.context _).trans (goesOn th bp env _)
      · have ended : SensorActs env allowed b (b.lteSendCommand env .cdataEnd).2 := refl.send _ rfl
        split
        · exact ended.trans (reset th bp env true _)
        · exact ended.context _
    · next waiting =>
      split
      · exact done th bp env b
      · next type uploads =>
        have region := typed type (by rw [waiting]; rfl) uploads
        exact ((refl.flash type .commit region (by rintro ⟨⟩)).committed type region).trans (done th bp env _)
    · exact .refl
  | _ => exact .refl

end SensorActs

lemma scanView_acts {env} {b after}
    (acts : SensorActs env (fun type => type = .th ∨ type = .bp) b after) : scanView after = scanView b := by
  induction acts with
  | refl => rfl
  | flash _ type op region _ ih => exact (scanView_flash env region op _).trans ih
  | send _ packet other ih => exact (scanView_sent env other _).trans ih
  | power _ ih => exact (scanView_emit rfl _).trans ih
  | committed _ type region ih =>
    have silent : (BleEvent.committed type).isScan = false := by rcases region with rfl | rfl <;> rfl
    exact (scanView_emit silent _).trans ih
  | context _ ctx ih => exact ih

lemma scanView_reset (env rewind b) : scanView (sensorUploadReset env rewind b) = scanView b :=
  scanView_acts (.reset (.inl rfl) (.inr rfl) env rewind b)

lemma scanView_tryStart (env b) : scanView (sensorCachedUploadTryStart env b) = scanView b :=
  scanView_acts (.tryStart (.inl rfl) (.inr rfl) env b)

lemma scanView_processSample (env) (sensor : type = .th ∨ type = .bp) (wakeup record b) :
    scanView (sensorProcessSample env type wakeup record b) = scanView b :=
  scanView_acts (.processSample (.inl rfl) (.inr rfl) env sensor wakeup record b)

lemma scanView_handleAck (env rsp) {b : BleState} (typed : b.sensorUploadCtx.state.isCdata = true →
      b.sensorUploadCtx.uploadType = some .th ∨ b.sensorUploadCtx.uploadType = some .bp) :
    scanView (sensorHandleLteAck env rsp b) = scanView b := by
  refine scanView_acts (.handleAck (.inl rfl) (.inr rfl) env rsp fun type cdata uploads => ?_)
  have either := typed cdata
  rw [uploads] at either
  exact either.imp Option.some.inj Option.some.inj

end

section

variable [Crc32Ieee] {b : BleState}

lemma uploadData_busy (busy : b.sensorUploadCtx.state ≠ .idle) (idle : b.uploadState = .idle) (env) :
    tagMacScanUploadData env b = b := by
  rcases uploadData_cases env b with ⟨_, same⟩ | ⟨_, free, _⟩ | ⟨_, state, _⟩ | ⟨state, _⟩ | ⟨_, state, _⟩
  · exact same
  · exact absurd free busy
  all_goals exact nomatch idle.symm.trans state

lemma tryStart_busy (busy : b.sensorUploadCtx.state ≠ .idle ∨ b.uploadState ≠ .idle) (env) :
    sensorCachedUploadTryStart env b = b := by
  have refused : (sensorUploadBusy b || decide (b.uploadState ≠ .idle)) = true := by
    rcases busy with busy | busy <;> simp [sensorUploadBusy, busy]
  simp only [sensorCachedUploadTryStart, if_pos refused]

lemma keepSample_collects (env type wakeup record b) :
    Collects env b (sensorSampleKeep env type wakeup record b) := by
  have pushed := Collects.push env type record b
  simp only [sensorSampleKeep]
  split
  · exact pushed.trans (.emit rfl _)
  · exact pushed

lemma processSample_busy (busy : b.sensorUploadCtx.state ≠ .idle ∨ b.uploadState ≠ .idle) (env)
    (type) (wakeup) (record) :
    Collects env b (sensorProcessSample env type wakeup record b) := by
  have refused : (!env.lteReady || sensorUploadBusy b || decide (b.uploadState ≠ .idle)) = true := by
    rcases busy with busy | busy <;> simp [sensorUploadBusy, busy]
  have realtime : sensorRealtimeUploadStart env type record b = (-ebusy, b) := by
    simp only [sensorRealtimeUploadStart, if_pos refused]
  simp only [sensorProcessSample, realtime]
  split
  all_goals exact keepSample_collects env type wakeup record b

end

open List

def sensorPackets (b : BleState) : List LtePacket := sentPackets (b.log.filter fun event => !event.isScan)

lemma sensorPackets_append {before after : BleState} {events : List BleEvent} (log : after.log = before.log ++ events) :
    sensorPackets after = sensorPackets before ++ sentPackets (events.filter fun event => !event.isScan) := by
  rw [sensorPackets, log, filter_append, sentPackets_append, sensorPackets]

lemma sensorPackets_of_log {before after : BleState} (log : after.log = before.log) :
    sensorPackets after = sensorPackets before := by
  rw [sensorPackets, log, sensorPackets]

lemma sensorPackets_sent {env : BleEnv} (sends : env.lteSend = 0) {packet : LtePacket} (sensor : packet.isScan = false)
    (b : BleState) : sensorPackets (b.lteSendCommand env packet).2 = sensorPackets b ++ [packet] := by
  have log : (b.lteSendCommand env packet).2.log = b.log ++ [BleEvent.sent packet] := by
    simp only [BleState.lteSendCommand, sends, if_true]
  rw [sensorPackets_append log, filter_singleton, BleEvent.isScan, sensor]
  rfl

lemma lteSendCommand_failed {env : BleEnv} (fails : env.lteSend ≠ 0) (packet) (b : BleState) :
    (b.lteSendCommand env packet).2 = b := by
  simp only [BleState.lteSendCommand, fails, if_false, append_nil]

lemma flash_packets [Crc32Ieee] (env type op) (b : BleState) :
    sensorPackets (b.flash env type op).2 = sensorPackets b := by
  have log : (b.flash env type op).2.log = b.log ++ _ := rfl
  rw [sensorPackets_append log]
  cases (fsCall (fsLayout type) (env.io b.flashCalls) (b.store type) op).effects.any FsEffect.isRingFull with
  | false => exact append_nil _
  | true => cases type <;> exact append_nil _

/-- The sensor upload is left as it is. -/
structure ScanOnly (before after : BleState) : Prop where
  sensorUploadCtx : after.sensorUploadCtx = before.sensorUploadCtx
  store : ∀ type, FsDataType.isScan type = false → after.store type = before.store type
  packets : sensorPackets after = sensorPackets before

namespace ScanOnly

lemma of_eq {before after : BleState} (sensorUploadCtx : after.sensorUploadCtx = before.sensorUploadCtx)
    (store : after.store = before.store) (log : after.log = before.log) : ScanOnly before after :=
  ⟨sensorUploadCtx, fun _ _ => by rw [store], sensorPackets_of_log log⟩

lemma refl (b) : ScanOnly b b := .of_eq rfl rfl rfl

lemma trans {first second third} (before : ScanOnly first second) (after : ScanOnly second third) :
    ScanOnly first third :=
  ⟨after.sensorUploadCtx.trans before.sensorUploadCtx,
    fun type sensor => (after.store type sensor).trans (before.store type sensor), after.packets.trans before.packets⟩

lemma foldl {β : Type} {step : BleState → β → BleState} (scans : ∀ b item, ScanOnly b (step b item))
    (b) (items : List β) : ScanOnly b (items.foldl step b) := by
  induction items generalizing b with
  | nil => exact .refl b
  | cons item items ih => exact (scans b item).trans (ih _)

lemma emit {event} (silent : sentPackets [event] = []) (b : BleState) : ScanOnly b (b.emit event) := by
  refine ⟨rfl, fun _ _ => rfl, ?_⟩
  have log : (b.emit event).log = b.log ++ [event] := rfl
  rw [sensorPackets_append log, filter_singleton]
  cases event.isScan with
  | true => exact append_nil _
  | false => exact (congrArg _ silent).trans (append_nil _)

lemma sent (env) {packet : LtePacket} (scan : packet.isScan = true) (b : BleState) :
    ScanOnly b (b.lteSendCommand env packet).2 := by
  by_cases sends : env.lteSend = 0
  · have log : (b.lteSendCommand env packet).2.log = b.log ++ [BleEvent.sent packet] := by
      simp only [BleState.lteSendCommand, sends, if_true]
    refine ⟨rfl, fun _ _ => rfl, ?_⟩
    rw [sensorPackets_append log, filter_singleton, BleEvent.isScan, scan]
    exact append_nil _
  · rw [lteSendCommand_failed sends]
    exact .refl b

lemma setTable (kind items) (b : BleState) : ScanOnly b (b.setTable kind items) := .of_eq rfl rfl rfl

lemma tableReplace (kind) (i : Nat) (old new b) : ScanOnly b (tableReplace kind i old new b) :=
  (setTable kind _ b).trans ((emit rfl _).trans (emit rfl _))

lemma tableAppend (kind new b) : ScanOnly b (tableAppend kind new b) :=
  (setTable kind _ b).trans (emit rfl _)

lemma macHandle (b received) : ScanOnly b (tranMacDataHandle b received) := by
  obtain ⟨now, msg⟩ := received
  simp only [tranMacDataHandle]
  split
  · exact .refl b
  · split
    · exact tableReplace ..
    · split
      · exact tableAppend ..
      · exact .refl b

lemma scanStop (env b) : ScanOnly b (scanStopInternal env b) := by
  unfold scanStopInternal
  split
  · exact .refl b
  · split
    · exact .refl b
    · exact .of_eq rfl rfl rfl

lemma scanStart (env b) : ScanOnly b (scanStartInternal env b) := by
  unfold scanStartInternal
  split
  · exact .refl b
  · split
    · exact .refl b
    · split
      · exact .refl b
      · exact .of_eq rfl rfl rfl

variable [Crc32Ieee] (env : BleEnv)

lemma flash (kind : ScanKind) (op) (b : BleState) : ScanOnly b (b.flash env kind.type op).2 := by
  refine ⟨rfl, fun type sensor => flash_store_other env ?_ op b, flash_packets env kind.type op b⟩
  rintro rfl
  cases kind <;> exact nomatch sensor

lemma tableFlush (kind b) : ScanOnly b (tableFlushToFlash env kind b) := by
  unfold tableFlushToFlash
  split
  · exact .refl b
  · exact (foldl (fun b item => flash env kind (.push item) b) b _).trans (setTable ..)

lemma flushAll (b) : ScanOnly b (tranMacTableFlushToFlash env (tagTableFlushToFlash env (scanStopInternal env b))) :=
  (scanStop env b).trans ((tableFlush env .tag _).trans (tableFlush env .mac _))

lemma tagSave (now result b) : ScanOnly b (tagScanResultSave env now result b) := by
  unfold tagScanResultSave
  split
  · exact tableReplace ..
  · split
    · exact tableAppend ..
    · exact (tableFlush env .tag b).trans (tableAppend ..)

lemma tagHandle (b received) : ScanOnly b (tagScanDataHandle env b received) := by
  obtain ⟨now, type, result⟩ := received
  have released : ∀ cache, ScanOnly b { b with advCacheTable := cache } := fun _ => .of_eq rfl rfl rfl
  cases type with
  | advInd => exact .of_eq rfl rfl rfl
  | scanRsp =>
    simp only [tagScanDataHandle]
    split
    · split <;> exact (released _).trans (tagSave env ..)
    · exact released _

lemma uploadStart (kind b) : ScanOnly b (uploadStart env kind b) := by
  have begun : ScanOnly b { b with
      uploadState := .start kind, tagMacinfoSeq := 0, flashConsumed := 0, rtCountSnap := (b.table kind).length } :=
    .of_eq rfl rfl rfl
  exact begun.trans ((flash env kind .uploadBegin _).trans (sent env rfl _))

omit [Crc32Ieee] in
lemma uploadOne (kind record b) : ScanOnly b (uploadOne env kind record b) := by
  have numbered : ScanOnly b { b with tagMacinfoSeq := b.tagMacinfoSeq + 1 } := .of_eq rfl rfl rfl
  exact numbered.trans (sent env rfl _)

lemma uploadFinish (kind b) : ScanOnly b (uploadFinish env kind b) := by
  let committed := ((b.flash env kind.type .commit).2.emit (.committed kind.type)).setTable kind []
  have done : ScanOnly b committed := (flash env kind .commit b).trans ((emit rfl _).trans (setTable ..))
  have ended : ScanOnly committed { committed with tagMacinfoSeq := 0, flashConsumed := 0, uploadState := .ended kind } :=
    .of_eq rfl rfl rfl
  exact done.trans (ended.trans (sent env rfl _))

lemma uploadNext (kind b) : ScanOnly b (uploadNext env kind b) := by
  have read := flash env kind .readNext b
  rcases uploadNext_cases env kind b with ⟨data, _, next⟩ | ⟨_, _, next⟩ | ⟨_, _, next⟩
  · rw [next]
    have counted : ScanOnly (b.flash env kind.type .readNext).2
        { (b.flash env kind.type .readNext).2 with flashConsumed := b.flashConsumed + 1 } := .of_eq rfl rfl rfl
    exact read.trans (counted.trans (uploadOne env kind data _))
  · rw [next]
    exact read.trans (uploadOne env kind _ _)
  · rw [next]
    exact read.trans (uploadFinish env kind _)

lemma rewindScan (b) : ScanOnly b (rewindScanUpload env b) := by
  have cleared : ScanOnly b { b with tagMacinfoSeq := 0, uploadState := .idle, flashConsumed := 0, rtCountSnap := 0 } :=
    .of_eq rfl rfl rfl
  exact cleared.trans ((flash env .tag .rewind _).trans (flash env .mac .rewind _))

end ScanOnly

/-- A CDATA session may follow. -/
def ScanThenStart [Crc32Ieee] (env : BleEnv) (before after : BleState) : Prop :=
  ∃ scanned, ScanOnly before scanned ∧ (after = scanned ∨ after = sensorCachedUploadTryStart env scanned)

variable [Crc32Ieee] (env : BleEnv)

lemma ScanOnly.alone {before after} (scans : ScanOnly before after) : ScanThenStart env before after :=
  ⟨after, scans, .inl rfl⟩

lemma ScanThenStart.after {env} {first second third} (scans : ScanOnly first second)
    (starts : ScanThenStart env second third) : ScanThenStart env first third := by
  obtain ⟨scanned, more, ends⟩ := starts
  exact ⟨scanned, scans.trans more, ends⟩

lemma uploadData_scans (b) : ScanThenStart env b (tagMacScanUploadData env b) := by
  rcases uploadData_cases env b with ⟨_, same⟩ | ⟨_, _, kind, same⟩ | ⟨kind, _, same⟩ | ⟨_, _, same⟩ | ⟨_, _, _, same⟩
  · rw [same]
    exact (ScanOnly.refl b).alone env
  · rw [same]
    have waiting : ScanOnly (uploadStart env kind b) { uploadStart env kind b with scanState := .waitingUpload } :=
      .of_eq rfl rfl rfl
    exact ((ScanOnly.uploadStart env kind b).trans waiting).alone env
  · rw [same]
    exact (ScanOnly.uploadNext env kind b).alone env
  · rw [same]
    exact (ScanOnly.uploadStart env .mac b).alone env
  · have idle : ScanOnly b { b with tagMacinfoSeq := 0, flashConsumed := 0, uploadState := .idle, scanState := .idle } :=
      .of_eq rfl rfl rfl
    exact ⟨_, idle, .inr same⟩

lemma scanUpload_scans (b) : ScanThenStart env b (scanTriggerUpload env b) := by
  have stopped := ScanOnly.scanStop env b
  simp only [scanTriggerUpload]
  split
  · have idle : ScanOnly (scanStopInternal env b) { scanStopInternal env b with scanState := .idle } := .of_eq rfl rfl rfl
    exact (stopped.trans idle).alone env
  · exact .after stopped (uploadData_scans env _)

lemma wakeup_scans (b) : ScanThenStart env b (uploadOnWakeup env b) := by
  have stopped := ScanOnly.scanStop env b
  simp only [uploadOnWakeup]
  split
  · split
    · exact stopped.alone env
    · exact .after stopped (uploadData_scans env _)
  · exact (ScanOnly.refl b).alone env

end LL320D.BleScan
