import LL320D.Proofs.FlashStoreSession
import LL320D.Proofs.UploadFrames

/-! One TAG or MACINFO session of the scan upload, from START to END, when nothing
but replies and sensor messages is handled in between. -/

namespace LL320D.BleScan
open FlashStore Library List BleEvent Function

variable {env : BleEnv} {received : BleEnv × BleMsg} {read : BleState} {after : ScanView} {α : Type} {b : BleState}

lemma scanPackets_of_view {first second} (same : scanView first = scanView second) :
    scanPackets first = scanPackets second :=
  congrArg sentPackets (congrArg ScanView.events same)

def sessionPackets (kind : ScanKind) (records : List (ScanRecord kind)) : List LtePacket :=
  records.mapIdx (fun i record => .data kind (i + 1) record) ++ [.finish kind]

section

variable [Crc32Ieee]

lemma saved_silent (io) (rg : FsRegion α) : (fsMetaSave io rg).2.any FsEffect.isRingFull = false := by
  unfold fsMetaSave
  split <;> rfl

lemma fsCall_silent [Inhabited α] (g io) (s : FsState α) {op}
    (quiet : ∀ data, op ≠ .push data) : (fsCall g io s op).effects.any FsEffect.isRingFull = false := by
  cases op with
  | push data => exact absurd rfl (quiet data)
  | pendingCount | rewind | uploadBegin => rfl
  | readNext =>
    rcases readNext_effects g io s.rg s.media with none | ⟨slot, one⟩
    · simp only [fsCall, none, any_nil]
    · simp only [fsCall, one]
      rfl
  | commit =>
    obtain ⟨buf, moves, count, _, compacted, rfl | rfl⟩ := fsCommitStaging_cases (fsCommitFlash g s.rg)
    · simp only [fsCall, myFlashStoreCommit, compacted, nil_append]
      exact saved_silent io _
    · simp only [fsCall, myFlashStoreCommit, compacted, any_append, saved_silent]
      rfl
  | clear => exact saved_silent io _

lemma flash_log (env) {type} (op : FsOp (FsRecord type)) (quiet : ∀ data, op ≠ .push data)
    (b : BleState) : (b.flash env type op).2.log = b.log := by
  simp only [BleState.flash, fsCall_silent _ _ _ quiet, Bool.false_eq_true, if_false, append_nil]

lemma scanView_flash_kind (env) (kind : ScanKind) (op) (quiet : ∀ data, op ≠ .push data) (b : BleState) :
    scanView (b.flash env kind.type op).2 = { scanView b with
      store := update (scanView b).store kind
        (fsStep (fsLayout kind.type) (env.io b.flashCalls) ((scanView b).store kind) op).2 } := by
  refine ScanView.ext rfl rfl rfl rfl rfl rfl rfl ?_ ?_
  · funext other
    change (b.flash env kind.type op).2.store other.type = update (scanView b).store kind _ other
    by_cases same : other = kind
    · subst same
      rw [flash_store, update_self]
      rfl
    · have types : other.type ≠ kind.type := fun types => same (ScanKind.type_inj.mp types)
      rw [flash_store_other env types, update_of_ne same]
      rfl
  · exact congrArg (List.filter isScan) (flash_log env op quiet b)

end

lemma scanView_sent_kind (env) {packet : LtePacket} (scan : packet.isScan = true) (b : BleState) :
    scanView (b.lteSendCommand env packet).2 = { scanView b with
      events := (scanView b).events ++ if env.lteSend = 0 then [sent packet] else [] } := by
  refine ScanView.ext rfl rfl rfl rfl rfl rfl rfl rfl ?_
  simp only [scanView, BleState.lteSendCommand, filter_append]
  split
  · simp [isScan, scan]
  · rfl

lemma scanView_uploadOne {kind} (env record b) : scanView (uploadOne env kind record b) = { scanView b with
      tagMacinfoSeq := b.tagMacinfoSeq + 1
      events := (scanView b).events ++
        if env.lteSend = 0 then [sent (.data kind (b.tagMacinfoSeq + 1) record)] else [] } :=
  scanView_sent_kind env rfl _

lemma scanStart_uploadState (env) (b : BleState) : (scanStartInternal env b).uploadState = b.uploadState := by
  unfold scanStartInternal
  split
  · rfl
  · split
    · rfl
    · split <;> rfl

lemma scanStop_view (env b) : (scanView (scanStopInternal env b)).table = (scanView b).table ∧
    (scanView (scanStopInternal env b)).store = (scanView b).store ∧
    (scanView (scanStopInternal env b)).events = (scanView b).events ∧
    (scanView (scanStopInternal env b)).uploadState = (scanView b).uploadState := by
  unfold scanStopInternal
  split
  · exact ⟨rfl, rfl, rfl, rfl⟩
  · split <;> exact ⟨rfl, rfl, rfl, rfl⟩

structure Begun [Crc32Ieee] (env : BleEnv) (kind : ScanKind) (before after : ScanView) : Prop where
  uploadState : after.uploadState = .start kind
  tagMacinfoSeq : after.tagMacinfoSeq = 0
  flashConsumed : after.flashConsumed = 0
  rtCountSnap : after.rtCountSnap = (before.table kind).length
  table : after.table = before.table
  store : ∃ io, after.store kind = (fsStep (fsLayout kind.type) io (before.store kind) .uploadBegin).2
  events : after.events = before.events ++
    if env.lteSend = 0 then
      [.sent (.start kind
        (myFlashStorePendingCount (fsLayout kind.type) (before.store kind).rg + (before.table kind).length))]
    else []

section

variable [Crc32Ieee] {origin : (type : FsDataType) → FsState (FsRecord type)} {b : BleState} {kind : ScanKind}

lemma uploadStart_begun (env kind b) : Begun env kind (scanView b) (scanView (uploadStart env kind b)) := by
  rw [uploadStart, scanView_sent_kind env rfl, scanView_flash_kind env kind .uploadBegin nofun]
  exact ⟨rfl, rfl, rfl, rfl, rfl, ⟨_, update_self ..⟩, rfl⟩

lemma uploadData_begun (elsewhere : b.uploadState ≠ .start kind)
    (entered : (tagMacScanUploadData env b).uploadState = .start kind) :
    Begun env kind (scanView b) (scanView (tagMacScanUploadData env b)) := by
  rcases uploadData_cases env b with ⟨_, same⟩ | ⟨_, _, other, same⟩ | ⟨other, state, same⟩ | ⟨_, _, same⟩ | ⟨_, _, _, same⟩
  · exact absurd (same ▸ entered) elsewhere
  · rw [same] at entered ⊢
    obtain rfl : other = kind := UploadState.start.inj entered
    exact { uploadStart_begun env other b with }
  · rw [same] at entered
    rcases uploadNext_cases env other b with ⟨_, _, next⟩ | ⟨_, _, next⟩ | ⟨_, _, next⟩
    · rw [next] at entered
      exact absurd entered elsewhere
    · rw [next] at entered
      exact absurd entered elsewhere
    · rw [next] at entered
      exact nomatch entered
  · rw [same] at entered ⊢
    obtain rfl : .mac = kind := UploadState.start.inj entered
    exact uploadStart_begun env .mac b
  · rw [same] at entered
    have idle : (uploadEnd env b).uploadState = .idle := congrArg ScanView.uploadState (scanView_tryStart env _)
    exact nomatch idle.symm.trans entered

lemma reset_uploadState (env b) : (sensorUploadReset env true (rewindScanUpload env b)).uploadState = .idle :=
  congrArg ScanView.uploadState (scanView_reset env true _)

lemma setConfig_uploadState (env mode b) : (myScanSetConfig env mode b).uploadState = .idle := by
  have reset : (scanReset env b).uploadState = .idle := reset_uploadState env _
  rcases setConfig_cases env mode b with off | started
  · rw [off]
    exact reset
  · rw [started]
    exact (scanStart_uploadState env _).trans reset

lemma Begun.before {first second : ScanView} (begun : Begun env kind second after)
    (table : second.table = first.table) (store : second.store = first.store) (events : second.events = first.events) :
    Begun env kind first after := by
  obtain ⟨state, seq, consumed, snap, tables, session, sent⟩ := begun
  rw [table] at snap tables sent
  rw [store] at session sent
  rw [events] at sent
  exact ⟨state, seq, consumed, snap, tables, session, sent⟩

lemma stopped_begun (elsewhere : b.uploadState ≠ .start kind)
    (entered : (tagMacScanUploadData env (scanStopInternal env b)).uploadState = .start kind) :
    Begun env kind (scanView b) (scanView (tagMacScanUploadData env (scanStopInternal env b))) := by
  obtain ⟨table, store, events, state⟩ := scanStop_view env b
  have started := uploadData_begun (b := scanStopInternal env b) (fun same => elsewhere (state.symm.trans same)) entered
  exact started.before table store events

lemma handle_begun (inv : UploadInv origin b) {msg : BleMsg} (elsewhere : b.uploadState ≠ .start kind)
    (entered : (myScanMsgHandler b (env, msg)).uploadState = .start kind) :
    Begun env kind (scanView b) (scanView (myScanMsgHandler b (env, msg))) := by
  cases msg with
  | tagScanProcess drained =>
    exact absurd ((Collects.foldl (Collects.tagHandle env) b drained).uploadState.symm.trans entered) elsewhere
  | tranMacProcess drained =>
    exact absurd ((Collects.foldl (Collects.macHandle env) b drained).uploadState.symm.trans entered) elsewhere
  | scanInterval =>
    simp only [myScanMsgHandler] at entered
    split at entered
    · exact absurd ((scanStart_uploadState env b).symm.trans entered) elsewhere
    · exact absurd entered elsewhere
  | scanLength => exact absurd ((Collects.flushAll env b).uploadState.symm.trans entered) elsewhere
  | scanUpload =>
    simp only [myScanMsgHandler, scanTriggerUpload] at entered ⊢
    split at entered
    · split at entered
      · exact absurd entered elsewhere
      · split at entered
        · exact absurd ((scanStop_view env b).2.2.2.symm.trans entered) elsewhere
        · next due free some =>
          rw [if_pos due, if_neg free, if_neg some]
          exact stopped_begun elsewhere entered
    · exact absurd entered elsewhere
  | uploadWakeup =>
    have same : scanView (myScanMsgHandler b (env, .uploadWakeup)) = scanView (uploadOnWakeup env b) :=
      scanView_tryStart env _
    have woken : (uploadOnWakeup env b).uploadState = .start kind :=
      (congrArg ScanView.uploadState same).symm.trans entered
    rw [same]
    simp only [uploadOnWakeup] at woken ⊢
    split at woken
    · split at woken
      · exact absurd ((scanStop_view env b).2.2.2.symm.trans woken) elsewhere
      · next due free =>
        rw [if_pos due, if_neg free]
        exact stopped_begun elsewhere woken
    · exact absurd woken elsewhere
  | sensorThSample record =>
    have same := congrArg ScanView.uploadState (scanView_processSample env (.inl rfl) env.tempWakeupCellSw record b)
    exact absurd (same.symm.trans entered) elsewhere
  | sensorBpSample record =>
    have same := congrArg ScanView.uploadState (scanView_processSample env (.inr rfl) env.patmWakeupCellSw record b)
    exact absurd (same.symm.trans entered) elsewhere
  | sensorLteAck rsp =>
    have same := congrArg ScanView.uploadState (scanView_handleAck env rsp inv.sensorType)
    exact absurd (same.symm.trans entered) elsewhere
  | uploadTagAndMac => exact uploadData_begun elsewhere entered
  | setConfig mode => cases (setConfig_uploadState env mode b).symm.trans entered
  | clearTagMacinfo => cases (reset_uploadState env _).symm.trans entered

end

/-- After `n` replies to a session over the records `flash` and `table`. -/
structure Sending (kind : ScanKind) (flash table : List (ScanRecord kind)) (n : Nat) (v : ScanView) : Prop where
  uploadState : v.uploadState = .start kind
  tagMacinfoSeq : v.tagMacinfoSeq = n
  flashConsumed : v.flashConsumed = min n flash.length
  rtCountSnap : v.rtCountSnap = table.length
  table : v.table kind = table
  session : InSession (fsLayout kind.type) (v.store kind) (flash.drop n)
  whole : Whole (fsLayout kind.type) (v.store kind)

structure Ended (kind : ScanKind) (v : ScanView) : Prop where
  uploadState : v.uploadState = .ended kind
  table : v.table kind = []
  pending : myFlashStorePendingCount (fsLayout kind.type) (v.store kind).rg = 0

section

variable [Crc32Ieee] {kind : ScanKind} {flash table : List (ScanRecord kind)} {n : Nat} {b : BleState}

lemma Begun.sending {before : ScanView} (begun : Begun env kind before after)
    (rep : RepInv (fsLayout kind.type) (before.store kind).rg)
    (valid : badSlots (fsLayout kind.type) (before.store kind) = 0) :
    Sending kind (snapshot (fsLayout kind.type) (before.store kind)) (before.table kind) 0 after := by
  obtain ⟨io, store⟩ := begun.store
  refine ⟨begun.uploadState, begun.tagMacinfoSeq, ?_, begun.rtCountSnap, congrFun begun.table kind, ?_, ?_⟩
  · rw [begun.flashConsumed, Nat.zero_min]
  · rw [store]
    exact InSession.begin rep io
  · rw [store]
    exact Whole.begin valid io

lemma scanView_uploadFinish (env kind b) : scanView (uploadFinish env kind b) = { scanView b with
      table := update b.table kind []
      store := update (scanView b).store kind
        (fsStep (fsLayout kind.type) (env.io b.flashCalls) ((scanView b).store kind) .commit).2
      tagMacinfoSeq := 0
      flashConsumed := 0
      uploadState := .ended kind
      events := (scanView b).events ++ [BleEvent.committed kind.type] ++
        if env.lteSend = 0 then [BleEvent.sent (.finish kind)] else [] } := by
  have committed := scanView_flash_kind env kind .commit nofun b
  have scan : (BleEvent.committed kind.type).isScan = true := by cases kind <;> rfl
  refine (scanView_sent_kind env rfl _).trans (ScanView.ext rfl rfl rfl rfl rfl rfl rfl ?_ ?_)
  · have store := congrArg ScanView.store committed
    exact store
  · have events := congrArg ScanView.events committed
    have logged : ((b.flash env kind.type .commit).2.log ++ [BleEvent.committed kind.type]).filter BleEvent.isScan =
        (scanView b).events ++ [BleEvent.committed kind.type] := by
      rw [filter_append, show List.filter _ _ = _ from events]
      simp [scan]
    exact congrArg (· ++ _) logged

omit [Crc32Ieee] in
lemma Sending.one (sending : Sending kind flash table n (scanView b)) (sends : env.lteSend = 0) {s}
    (view : scanView read = { scanView b with store := update (scanView b).store kind s })
    (session : InSession (fsLayout kind.type) s (flash.drop (n + 1))) (whole : Whole (fsLayout kind.type) s)
    {consumed : Nat} (counted : consumed = min (n + 1) flash.length) (record) :
    Sending kind flash table (n + 1) (scanView (uploadOne env kind record { read with flashConsumed := consumed })) ∧
    scanPackets (uploadOne env kind record { read with flashConsumed := consumed }) =
      scanPackets b ++ [LtePacket.data kind (n + 1) record] := by
  have store : (scanView read).store kind = s := by rw [view]; exact update_self ..
  have seq : read.tagMacinfoSeq = n := (congrArg ScanView.tagMacinfoSeq view).trans sending.tagMacinfoSeq
  have events : (scanView read).events = (scanView b).events := by rw [view]
  have sent := scanView_uploadOne env record { read with flashConsumed := consumed }
  constructor
  · rw [sent]
    refine ⟨?_, congrArg (· + 1) seq, counted, ?_, ?_, ?_, ?_⟩
    · exact (congrArg ScanView.uploadState view).trans sending.uploadState
    · exact (congrArg ScanView.rtCountSnap view).trans sending.rtCountSnap
    · exact (congrFun (congrArg ScanView.table view) kind).trans sending.table
    · change InSession _ ((scanView read).store kind) _
      rw [store]
      exact session
    · change Whole _ ((scanView read).store kind)
      rw [store]
      exact whole
  · change sentPackets (scanView _).events = sentPackets (scanView b).events ++ _
    rw [sent, if_pos sends, ← events, ← seq]
    exact sentPackets_append ..

omit [Crc32Ieee] in
lemma Sending.rtIdx (sending : Sending kind flash table n (scanView b)) (past : flash.length ≤ n) :
    b.rtIdx = n - flash.length := by
  have seq : b.tagMacinfoSeq = n := sending.tagMacinfoSeq
  have consumed : b.flashConsumed = min n flash.length := sending.flashConsumed
  rw [BleState.rtIdx, seq, consumed, Nat.min_eq_right past]

lemma finish_ends (sends : env.lteSend = 0) {s}
    (view : scanView read = { scanView b with store := update (scanView b).store kind s })
    (session : InSession (fsLayout kind.type) s []) (whole : Whole (fsLayout kind.type) s) :
    Ended kind (scanView (uploadFinish env kind read)) ∧
      scanPackets (uploadFinish env kind read) = scanPackets b ++ [LtePacket.finish kind] := by
  have finished := scanView_uploadFinish env kind read
  have store : (scanView read).store kind = s := by
    rw [view]
    exact update_self ..
  have events : (scanView read).events = (scanView b).events := by rw [view]
  rw [store] at finished
  constructor
  · rw [finished]
    refine ⟨rfl, update_self .., ?_⟩
    simp only [update_self]
    exact whole.commit session _
  · change sentPackets (scanView _).events = sentPackets (scanView b).events ++ _
    rw [finished, if_pos sends, events]
    simp only [sentPackets_append]
    simp [sentPackets]

lemma Sending.reply (sending : Sending kind flash table n (scanView b)) (sends : env.lteSend = 0)
    (reads : ∀ call, (env.io call).ReadsOk) :
    (∃ record, (flash ++ table)[n]? = some record ∧
      Sending kind flash table (n + 1) (scanView (uploadNext env kind b)) ∧
      scanPackets (uploadNext env kind b) = scanPackets b ++ [LtePacket.data kind (n + 1) record]) ∨
    (flash.length + table.length ≤ n ∧ Ended kind (scanView (uploadNext env kind b)) ∧
      scanPackets (uploadNext env kind b) = scanPackets b ++ [LtePacket.finish kind]) := by
  obtain ⟨answer, session⟩ := sending.session.readNext (reads b.flashCalls)
  have whole := sending.whole.readNext sending.session (reads b.flashCalls)
  rw [tail_drop] at session
  rw [List.head?_drop] at answer
  have view := scanView_flash_kind env kind .readNext nofun b
  have consumed : b.flashConsumed = min n flash.length := sending.flashConsumed
  have snap : b.rtCountSnap = table.length := sending.rtCountSnap
  have exhausted : (∀ data, (b.flash env kind.type .readNext).1 ≠ .read (.record data)) → flash.length ≤ n := by
    intro none
    by_contra left
    have found : flash[n]? = some flash[n] := List.getElem?_eq_getElem (Nat.lt_of_not_le left)
    rw [found] at answer
    exact none _ answer
  rcases uploadNext_cases env kind b with ⟨data, found, next⟩ | ⟨none, inside, next⟩ | ⟨none, outside, next⟩
  · left
    have read := FsAnswer.read.inj (answer.symm.trans found)
    have here : flash[n]? = some data := by
      cases first : flash[n]? with
      | none => rw [first] at read; exact nomatch read
      | some _ => rw [first] at read; exact congrArg some (FsRead.record.inj read)
    obtain ⟨inside, _⟩ := List.getElem?_eq_some_iff.mp here
    have counted : b.flashConsumed + 1 = min (n + 1) flash.length := by omega
    exact ⟨data, (List.getElem?_append_left inside).trans here,
      next ▸ sending.one sends view session whole counted data⟩
  · left
    have past := exhausted none
    have index := sending.rtIdx past
    have items : b.table kind = table := sending.table
    rw [index, snap] at inside
    have here : table[n - flash.length]? = some table[n - flash.length] := List.getElem?_eq_getElem inside
    have record : (b.table kind).getD b.rtIdx default = table[n - flash.length] := by
      rw [items, index, getD_eq_getElem?_getD, here]
      rfl
    have counted : b.flashConsumed = min (n + 1) flash.length := by omega
    rw [record] at next
    exact ⟨_, (List.getElem?_append_right past).trans here, next ▸ sending.one sends view session whole counted _⟩
  · right
    have past := exhausted none
    rw [sending.rtIdx past, snap] at outside
    rw [drop_eq_nil_of_le (Nat.le_succ_of_le past)] at session
    rw [next]
    exact ⟨by omega, finish_ends sends view session whole⟩

/-- A message that may fall between START and END: a reply whose packet is sent and
whose flash reads succeed, a wake-up, or a sensor message. -/
def SessionMsg (received : BleEnv × BleMsg) : Prop :=
  match received.2 with
  | .uploadTagAndMac => received.1.lteSend = 0 ∧ ∀ call, (received.1.io call).ReadsOk
  | .uploadWakeup => True
  | .sensorThSample _ => True
  | .sensorBpSample _ => True
  | .sensorLteAck _ => True
  | _ => False

def isReply (received : BleEnv × BleMsg) : Bool :=
  match received.2 with
  | .uploadTagAndMac => true
  | _ => false

variable {origin : (type : FsDataType) → FsState (FsRecord type)}

lemma wakeup_waiting (waiting : b.scanState = .waitingUpload) : uploadOnWakeup env b = b := by
  have stopped : scanStopInternal env b = b := by
    rw [scanStopInternal, if_pos (by rw [waiting]; exact nofun)]
  unfold uploadOnWakeup
  split
  · simp only [stopped, if_pos waiting]
  · rfl

lemma session_quiet (inv : UploadInv origin b) (busy : b.uploadState ≠ .idle)
    (allowed : SessionMsg received) (other : isReply received = false) :
    scanView (myScanMsgHandler b received) = scanView b := by
  obtain ⟨env, msg⟩ := received
  cases msg with
  | uploadWakeup =>
    refine (scanView_tryStart env _).trans ?_
    rw [wakeup_waiting (inv.waiting busy)]
  | sensorThSample record => exact scanView_processSample env (.inl rfl) _ record b
  | sensorBpSample record => exact scanView_processSample env (.inr rfl) _ record b
  | sensorLteAck rsp => exact scanView_handleAck env rsp inv.sensorType
  | uploadTagAndMac => exact nomatch other
  | tagScanProcess _ | tranMacProcess _ | scanInterval | scanLength | scanUpload | setConfig _ | clearTagMacinfo =>
    exact allowed.elim

def Progress (kind : ScanKind) (flash table : List (ScanRecord kind)) (n : Nat) (v : ScanView) : Prop :=
  (n ≤ flash.length + table.length ∧ Sending kind flash table n v) ∨
    (n = flash.length + table.length + 1 ∧ Ended kind v)

omit [Crc32Ieee] in
lemma Progress.busy (progress : Progress kind flash table n (scanView b)) : b.uploadState ≠ .idle := by
  rcases progress with ⟨_, sending⟩ | ⟨_, ended⟩
  · intro idle
    exact nomatch idle.symm.trans sending.uploadState
  · intro idle
    exact nomatch idle.symm.trans ended.uploadState

omit [Crc32Ieee] in
lemma sessionPackets_length (records : List (ScanRecord kind)) :
    (sessionPackets kind records).length = records.length + 1 := by
  simp [sessionPackets]

omit [Crc32Ieee] in
lemma sessionPackets_data {records} {record} (here : records[n]? = some record)
    (left : n < (sessionPackets kind records).length) : (sessionPackets kind records)[n] = .data kind (n + 1) record := by
  obtain ⟨inside, same⟩ := List.getElem?_eq_some_iff.mp here
  simp [sessionPackets, inside, same]

omit [Crc32Ieee] in
lemma sessionPackets_end {records : List (ScanRecord kind)} (left : n < (sessionPackets kind records).length)
    (last : records.length ≤ n) : (sessionPackets kind records)[n] = .finish kind := by
  simp [sessionPackets, getElem_append_right, last]

lemma Progress.reply (inv : UploadInv origin b) (progress : Progress kind flash table n (scanView b))
    (left : n < (sessionPackets kind (flash ++ table)).length)
    (allowed : SessionMsg received) (reply : isReply received = true) :
    Progress kind flash table (n + 1) (scanView (myScanMsgHandler b received)) ∧
    scanPackets (myScanMsgHandler b received) = scanPackets b ++ [(sessionPackets kind (flash ++ table))[n]] := by
  have length := sessionPackets_length (flash ++ table)
  rw [length_append] at length
  have sending : Sending kind flash table n (scanView b) := by
    rcases progress with ⟨_, sending⟩ | ⟨ended, _⟩
    · exact sending
    · omega
  obtain ⟨env, msg⟩ := received
  obtain rfl : msg = .uploadTagAndMac := by
    cases msg <;> first | rfl | exact nomatch reply
  have waiting := inv.waiting progress.busy
  have state : b.uploadState = .start kind := sending.uploadState
  have same : myScanMsgHandler b (env, .uploadTagAndMac) = uploadNext env kind b := by
    simp only [myScanMsgHandler, tagMacScanUploadData, waiting, state]
    rfl
  rw [same]
  rcases sending.reply allowed.1 allowed.2 with ⟨record, here, next, packets⟩ | ⟨last, ended, packets⟩
  · have inside := (List.getElem?_eq_some_iff.mp here).1
    rw [length_append] at inside
    exact ⟨.inl ⟨inside, next⟩, by rw [sessionPackets_data here left]; exact packets⟩
  · refine ⟨.inr ⟨by omega, ended⟩, ?_⟩
    rw [sessionPackets_end left (by rw [length_append]; exact last)]
    exact packets

lemma session_plays (origin : (type : FsDataType) → FsState (FsRecord type)) (kind)
    (flash table) :
    Plays myScanMsgHandler (fun _ _ => True) SessionMsg isReply
      (fun n b => UploadInv origin b ∧ Progress kind flash table n (scanView b)) scanPackets
      (sessionPackets kind (flash ++ table)) := by
  constructor
  · intro n b received left ⟨inv, progress⟩ allowed reply
    obtain ⟨next, packets⟩ := progress.reply inv left allowed reply
    exact ⟨trivial, ⟨inv.handle received, next⟩, packets⟩
  · intro n b received ⟨inv, progress⟩ allowed other
    have quiet := session_quiet inv progress.busy allowed other
    exact ⟨trivial, ⟨inv.handle received, quiet ▸ progress⟩, scanPackets_of_view quiet⟩

end

/-- A state of the BLE thread between two messages, after a boot from media whose ZMS
entries, if any, were written by this firmware. -/
def Reachable [Crc32Ieee] (b : BleState) : Prop :=
  ∃ (env : BleEnv) (mode : ScanMode) (media : (type : FsDataType) → FsMedia (FsRecord type))
    (messages : List (BleEnv × BleMsg)), (∀ type, Stored (fsLayout type) (media type)) ∧
    b = messages.foldl myScanMsgHandler (myScanInit env mode media)

lemma FsReaches.rep [Crc32Ieee] {type} {s final : FsState (FsRecord type)}
    (reached : FsReaches type s final) (start : RepInv (fsLayout type) s.rg) : RepInv (fsLayout type) final.rg := by
  induction reached with
  | refl => exact start
  | tail _ call rep =>
    obtain ⟨io, op, rfl⟩ := call
    exact rep.call io op

lemma Reachable.inv [Crc32Ieee] (reachable : Reachable b) :
    ∃ origin, UploadInv origin b ∧ ∀ type, RepInv (fsLayout type) (b.store type).rg := by
  obtain ⟨env, mode, media, messages, stored, rfl⟩ := reachable
  have inv := UploadInv.run env mode media messages
  exact ⟨_, inv, fun type => (inv.reached type).rep (stored type).init⟩

lemma ended_reply [Crc32Ieee] {origin : (type : FsDataType) → FsState (FsRecord type)}
    (inv : UploadInv origin b) {kind} (state : b.uploadState = .ended kind) (env : BleEnv) :
    let next := myScanMsgHandler b (env, .uploadTagAndMac)
    if kind = .tag ∧ 0 < b.uploadTotal .mac then next.uploadState = .start .mac
    else next.uploadState = .idle ∧ next.scanState = .idle := by
  have waiting := inv.waiting (by rw [state]; rintro ⟨⟩)
  have idle : (uploadEnd env b).uploadState = .idle ∧ (uploadEnd env b).scanState = .idle :=
    ⟨congrArg ScanView.uploadState (scanView_tryStart env _), congrArg ScanView.scanState (scanView_tryStart env _)⟩
  simp only [myScanMsgHandler]
  rcases uploadData_cases env b with ⟨stays, _⟩ | ⟨stays, _⟩ | ⟨other, stays, _⟩ | ⟨tag, some, same⟩ |
    ⟨other, ended, none, same⟩
  · rcases stays with scanning | idle
    · cases scanning.symm.trans waiting
    · cases idle.symm.trans state
  · cases stays.symm.trans state
  · cases stays.symm.trans state
  · have kinds : kind = .tag := UploadState.ended.inj (state.symm.trans tag)
    rw [if_pos ⟨kinds, some⟩, same]
    rfl
  · have kinds : kind = other := UploadState.ended.inj (state.symm.trans ended)
    have last : ¬ (kind = .tag ∧ 0 < b.uploadTotal .mac) := by
      intro more
      have zero := none (kinds.symm.trans more.1)
      omega
    rw [if_neg last, same]
    exact idle

def petTag : TagScanResult := ⟨⟨0, [1, 2, 3, 4, 5, 6]⟩, [0x50, 0x45, 0x54], [], [], 90, -50, 7⟩

def tagCollected : BleState :=
  myScanMsgHandler (myScanInit .ok .periodCache blankMedia) (.ok, .tagScanProcess [(7, ⟨.scanRsp, petTag⟩)])

lemma tagCollected_reachable : Reachable tagCollected :=
  ⟨.ok, .periodCache, blankMedia, [_], fun _ => .blank rfl, rfl⟩

/-- A session that is not disturbed sends START,N, the N pending records under the numbers 1 to N, flash first, and END;
then nothing of its kind is pending, and MACINFO follows TAG if there are MAC records. -/
theorem session_numbered [Crc32Ieee] (kind : ScanKind) {before : BleState} (reachable : Reachable before)
    {first : BleEnv × BleMsg} (elsewhere : before.uploadState ≠ .start kind)
    (entered : (myScanMsgHandler before first).uploadState = .start kind) (sent : first.1.lteSend = 0)
    (valid : badSlots (fsLayout kind.type) (before.store kind.type) = 0) {session : List (BleEnv × BleMsg)}
    (allowed : ∀ received ∈ session, SessionMsg received)
    (replies : session.countP isReply = before.uploadTotal kind + 1) :
    let records := snapshot (fsLayout kind.type) (before.store kind.type) ++ before.table kind
    let finished := (first :: session).foldl myScanMsgHandler before
    records.length = before.uploadTotal kind ∧
    scanPackets finished = scanPackets before ++ .start kind records.length :: sessionPackets kind records ∧
    finished.uploadState = .ended kind ∧ finished.pendingCount kind.type = 0 ∧ finished.table kind = [] ∧
    ∀ env, let next := myScanMsgHandler finished (env, .uploadTagAndMac)
      if kind = .tag ∧ 0 < finished.uploadTotal .mac then next.uploadState = .start .mac
      else next.uploadState = .idle ∧ next.scanState = .idle := by
  obtain ⟨origin, inv, rep⟩ := reachable.inv
  obtain ⟨env, msg⟩ := first
  have begun := handle_begun inv elsewhere entered
  have total : (snapshot (fsLayout kind.type) (before.store kind.type) ++ before.table kind).length =
      before.uploadTotal kind := by
    have pending := snapshot_length (rep kind.type).toRingInv
    rw [length_append, BleState.uploadTotal, BleState.pendingCount]
    omega
  have lengths := total
  rw [length_append] at lengths
  obtain ⟨_, ⟨last, final⟩, packets⟩ := (session_plays origin kind (snapshot (fsLayout kind.type) (before.store kind.type))
    (before.table kind)).run ⟨inv.handle (env, msg), .inl ⟨Nat.zero_le _, begun.sending (rep _) valid⟩⟩ allowed
    (by rw [replies, sessionPackets_length, total, Nat.zero_add])
  have started : scanPackets (myScanMsgHandler before (env, msg)) = scanPackets before ++
      [LtePacket.start kind (before.uploadTotal kind)] := by
    have events := begun.events
    rw [if_pos sent] at events
    exact (congrArg sentPackets events).trans (sentPackets_append ..)
  have ended : Ended kind (scanView (session.foldl myScanMsgHandler (myScanMsgHandler before (env, msg)))) := by
    rcases final with ⟨early, _⟩ | ⟨_, ended⟩
    · rw [replies, ← lengths] at early
      omega
    · exact ended
  have whole : (sessionPackets kind (snapshot (fsLayout kind.type) (before.store kind.type) ++ before.table kind)).take
      (before.uploadTotal kind + 1) = _ := take_of_length_le (by simp [sessionPackets, ← lengths])
  refine ⟨total, ?_, ended.uploadState, ended.pending, ended.table, ?_⟩
  · refine packets.trans ?_
    rw [started, replies, drop_zero, total]
    exact (congrArg _ whole).trans (append_assoc ..)
  · intro env
    exact ended_reply last ended.uploadState env

theorem one_tag_session : scanPackets ([(.ok, .uploadWakeup), (.ok, .uploadTagAndMac), (.ok, .sensorBpSample ⟨9, 101325⟩),
    (.ok, .uploadTagAndMac)].foldl myScanMsgHandler tagCollected) =
      [.start .tag 1, .data .tag 1 petTag, .finish .tag] := by
  refine (session_numbered .tag tagCollected_reachable nofun rfl rfl rfl ?_ rfl).2.1
  have reply : SessionMsg (.ok, .uploadTagAndMac) := ⟨rfl, fun _ => FsIo.ok_ok.flashRead⟩
  intro received member
  rcases mem_cons.mp member with rfl | member
  · exact reply
  · rcases mem_cons.mp member with rfl | member
    · trivial
    · rw [mem_singleton.mp member]
      exact reply

end LL320D.BleScan
