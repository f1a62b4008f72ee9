import LL320D.LteReply
import LL320D.Proofs.ScanSession

/-! When records of the scan upload are given up. A reply line reaches the upload machine as a message without content,
so the line behind a message need not be an OK reply to the packet sent last. -/

namespace LL320D.BleScan
open FlashStore Library List BleEvent Collects Threads

variable {msg : BleMsg} {b read : BleState} {packets : List LtePacket} {event : ThreadEvent}

def scanMoves (b : BleState) : List BleEvent := (b.log.filter BleEvent.isScan).filter BleEvent.isMove

lemma scanPackets_eq_moves (b) : scanPackets b = sentPackets (scanMoves b) := (sentPackets_moves _).symm

lemma committed_count (kind : ScanKind) (b : BleState) :
    b.log.count (.committed kind.type) = (scanMoves b).count (.committed kind.type) := by
  have scan : (committed kind.type).isScan = true := by cases kind <;> rfl
  rw [scanMoves, count_filter rfl, count_filter scan]

@[ext] structure ScanPhase where
  state : UploadState
  moves : List BleEvent

def scanPhase (b : BleState) : ScanPhase := ⟨b.uploadState, scanMoves b⟩

/-- What one message does to the scan upload: nothing, the end of a session without a
commit, START, the next DATA packet, or commit and END. Only a reply does the last two. -/
inductive ScanMove (env : BleEnv) (msg : BleMsg) : ScanPhase → ScanPhase → Prop where
  | still (phase : ScanPhase) : ScanMove env msg phase phase
  | left (phase : ScanPhase) : ScanMove env msg phase ⟨.idle, phase.moves⟩
  | begun (phase : ScanPhase) (kind : ScanKind) (total : Nat) (elsewhere : phase.state ≠ .start kind) :
      ScanMove env msg phase
        ⟨.start kind, phase.moves ++ if env.lteSend = 0 then [.sent (.start kind total)] else []⟩
  | sent (kind : ScanKind) (moves : List BleEvent) (seq : Nat) (record : ScanRecord kind)
      (reply : msg = .uploadTagAndMac) :
      ScanMove env msg ⟨.start kind, moves⟩
        ⟨.start kind, moves ++ if env.lteSend = 0 then [.sent (.data kind seq record)] else []⟩
  | finished (kind : ScanKind) (moves : List BleEvent) (reply : msg = .uploadTagAndMac) :
      ScanMove env msg ⟨.start kind, moves⟩
        ⟨.ended kind, moves ++ [.committed kind.type] ++ if env.lteSend = 0 then [.sent (.finish kind)] else []⟩

lemma ScanMove.elsewhere {env} {other} {before after : ScanPhase}
    (moved : ScanMove env msg before after) (outside : ∀ kind, before.state ≠ .start kind) :
    ScanMove env other before after := by
  cases moved with
  | still => exact .still before
  | left => exact .left before
  | begun _ kind total elsewhere => exact .begun before kind total elsewhere
  | sent kind | finished kind => exact absurd rfl (outside kind)

section

variable {before after : BleState}

lemma scanPhase_of_view (state : (scanView after).uploadState = (scanView before).uploadState)
    (events : (scanView after).events = (scanView before).events) : scanPhase after = scanPhase before :=
  ScanPhase.ext state (congrArg (List.filter isMove) events)

lemma scanPhase_view (same : scanView after = scanView before) : scanPhase after = scanPhase before :=
  scanPhase_of_view (congrArg _ same) (congrArg _ same)

lemma scanPhase_stop (env b) : scanPhase (scanStopInternal env b) = scanPhase b :=
  scanPhase_of_view (scanStop_view env b).2.2.2 (scanStop_view env b).2.2.1

lemma scanMoves_sent (env : BleEnv) {packet : LtePacket} (scan : packet.isScan = true) (b : BleState) :
    scanMoves (b.lteSendCommand env packet).2 = scanMoves b ++ if env.lteSend = 0 then [sent packet] else [] := by
  have events := congrArg ScanView.events (scanView_sent_kind env scan b)
  refine (congrArg (List.filter isMove) events).trans ?_
  rw [filter_append]
  split <;> rfl

variable [Crc32Ieee] {env : BleEnv}

lemma scanMoves_flash (env type op) (quiet : ∀ data, op ≠ .push data)
    (b : BleState) : scanMoves (b.flash env type op).2 = scanMoves b :=
  congrArg (fun log => (log.filter isScan).filter isMove) (flash_log env op quiet b)

lemma Collects.phase (collects : Collects env before after) : scanPhase after = scanPhase before := by
  refine ScanPhase.ext collects.uploadState ?_
  change List.filter _ (List.filter _ _) = List.filter _ (List.filter _ _)
  rw [filter_comm, collects.moves, filter_comm]

lemma scanMoves_rewind (env b) : scanMoves (rewindScanUpload env b) = scanMoves b :=
  (scanMoves_flash env .mac .rewind nofun _).trans (scanMoves_flash env .tag .rewind nofun { b with
    tagMacinfoSeq := 0, uploadState := .idle, flashConsumed := 0, rtCountSnap := 0 })

lemma scanPhase_rewound (env b) :
    scanPhase (sensorUploadReset env true (rewindScanUpload env b)) = ⟨.idle, scanMoves b⟩ :=
  (scanPhase_view (scanView_reset env true _)).trans (congrArg (ScanPhase.mk .idle) (scanMoves_rewind env b))

omit [Crc32Ieee] in
lemma scanPhase_rescan (b : BleState) (mode : ScanMode) :
    scanPhase { b with scanMode := mode, scanState := .idle } = scanPhase b := rfl

lemma scanPhase_setConfig (env mode b) : scanPhase (myScanSetConfig env mode b) = ⟨.idle, scanMoves b⟩ := by
  have flushed := congrArg ScanPhase.moves (flushAll env b).phase
  have reset : scanPhase (scanReset env b) = ⟨.idle, scanMoves b⟩ :=
    (scanPhase_rewound env _).trans (congrArg (ScanPhase.mk .idle) flushed)
  rcases setConfig_cases env mode b with off | started
  · rw [off]
    exact (scanPhase_rescan _ mode).trans reset
  · rw [started]
    exact (scanStart env (by exact nofun)).phase.trans ((scanPhase_rescan _ mode).trans reset)

lemma uploadStart_move {kind} (elsewhere : b.uploadState ≠ .start kind) (env)
    (msg) : ScanMove env msg (scanPhase b) (scanPhase (uploadStart env kind b)) := by
  have phase : scanPhase (uploadStart env kind b) = ⟨.start kind,
      scanMoves b ++ if env.lteSend = 0 then [sent (.start kind (b.uploadTotal kind))] else []⟩ := by
    refine ScanPhase.ext rfl ((scanMoves_sent env rfl _).trans ?_)
    rw [scanMoves_flash env kind.type .uploadBegin nofun]
    rfl
  rw [phase]
  exact .begun (scanPhase b) kind (b.uploadTotal kind) elsewhere

omit [Crc32Ieee] in
lemma uploadOne_move {kind} (session : b.uploadState = .start kind) (env)
    (record) (same : scanPhase read = scanPhase b) :
    ScanMove env .uploadTagAndMac (scanPhase b) (scanPhase (uploadOne env kind record read)) := by
  have state : read.uploadState = .start kind := (congrArg ScanPhase.state same).trans session
  have phase : scanPhase (uploadOne env kind record read) = ⟨.start kind, _⟩ :=
    ScanPhase.ext state (scanMoves_sent env rfl { read with tagMacinfoSeq := read.tagMacinfoSeq + 1 })
  rw [← same, show scanPhase read = ⟨.start kind, scanMoves read⟩ from ScanPhase.ext state rfl, phase]
  exact .sent kind (scanMoves read) (read.tagMacinfoSeq + 1) record rfl

lemma uploadFinish_move {kind} (session : b.uploadState = .start kind) (env) (same : scanPhase read = scanPhase b) :
    ScanMove env .uploadTagAndMac (scanPhase b) (scanPhase (uploadFinish env kind read)) := by
  have state : read.uploadState = .start kind := (congrArg ScanPhase.state same).trans session
  have scan : (BleEvent.committed kind.type).isScan = true := by cases kind <;> rfl
  have committed : scanMoves ((read.flash env kind.type .commit).2.emit (.committed kind.type)) =
      scanMoves read ++ [BleEvent.committed kind.type] := by
    rw [← scanMoves_flash env kind.type .commit nofun read]
    simp [scanMoves, BleState.emit, filter_append, scan, BleEvent.isMove]
  have phase : scanPhase (uploadFinish env kind read) = ⟨.ended kind, scanMoves read ++ [BleEvent.committed kind.type] ++
      if env.lteSend = 0 then [BleEvent.sent (.finish kind)] else []⟩ := by
    refine ScanPhase.ext rfl ((scanMoves_sent env rfl _).trans ?_)
    exact congrArg (· ++ _) committed
  rw [← same, show scanPhase read = ⟨.start kind, scanMoves read⟩ from ScanPhase.ext state rfl, phase]
  exact .finished kind (scanMoves read) rfl

lemma uploadNext_move {kind} (session : b.uploadState = .start kind) (env) :
    ScanMove env .uploadTagAndMac (scanPhase b) (scanPhase (uploadNext env kind b)) := by
  have read : scanPhase (b.flash env kind.type .readNext).2 = scanPhase b :=
    ScanPhase.ext rfl (scanMoves_flash env kind.type .readNext nofun b)
  rcases uploadNext_cases env kind b with ⟨data, _, next⟩ | ⟨_, _, next⟩ | ⟨_, _, next⟩
  · rw [next]
    exact uploadOne_move session env data read
  · rw [next]
    exact uploadOne_move session env _ read
  · rw [next]
    exact uploadFinish_move session env read

lemma uploadData_move (env b) :
    ScanMove env .uploadTagAndMac (scanPhase b) (scanPhase (tagMacScanUploadData env b)) := by
  rcases uploadData_cases env b with ⟨_, same⟩ | ⟨state, _, kind, same⟩ | ⟨kind, state, same⟩ | ⟨state, _, same⟩ |
    ⟨kind, state, _, same⟩
  · rw [same]
    exact .still _
  · rw [same]
    exact uploadStart_move (by rw [state]; exact nofun) env _
  · rw [same]
    exact uploadNext_move state env
  · rw [same]
    exact uploadStart_move (by rw [state]; exact nofun) env _
  · rw [same]
    have ended : scanPhase (uploadEnd env b) = ⟨.idle, scanMoves b⟩ := scanPhase_view (scanView_tryStart env _)
    rw [ended]
    exact .left (scanPhase b)

lemma stopped_move (idle : b.uploadState = .idle) (env msg) :
    ScanMove env msg (scanPhase b) (scanPhase (tagMacScanUploadData env (scanStopInternal env b))) := by
  have moved := uploadData_move env (scanStopInternal env b)
  rw [scanPhase_stop] at moved
  exact moved.elsewhere fun kind same => nomatch idle.symm.trans same

end

lemma handle_move [Crc32Ieee] {origin : (type : FsDataType) → FsState (FsRecord type)}
    (inv : UploadInv origin b) (env) (msg) :
    ScanMove env msg (scanPhase b) (scanPhase (myScanMsgHandler b (env, msg))) := by
  have still : ∀ {after}, scanPhase after = scanPhase b → ScanMove env msg (scanPhase b) (scanPhase after) := by
    intro after same
    rw [same]
    exact .still _
  have free : b.scanState ≠ .waitingUpload → b.uploadState = .idle := by
    intro free
    by_contra busy
    exact free (inv.waiting busy)
  cases msg with
  | tagScanProcess drained => exact still (foldl (tagHandle env) b drained).phase
  | tranMacProcess drained => exact still (foldl (macHandle env) b drained).phase
  | scanInterval =>
    simp only [myScanMsgHandler]
    split
    · next due =>
      have idle : b.scanState = .idle := by simpa using (Bool.and_eq_true_iff.mp due).2
      exact still (scanStart env (by rw [idle]; rintro ⟨⟩)).phase
    · exact still rfl
  | scanLength => exact still (flushAll env b).phase
  | scanUpload =>
    simp only [myScanMsgHandler, scanTriggerUpload]
    split
    · split
      · exact still rfl
      · next waiting =>
        split
        · exact still (scanPhase_stop env b)
        · exact stopped_move (free waiting) env _
    · exact still rfl
  | uploadWakeup =>
    have woken : scanPhase (myScanMsgHandler b (env, .uploadWakeup)) = scanPhase (uploadOnWakeup env b) :=
      scanPhase_view (scanView_tryStart env _)
    rw [woken]
    by_cases waiting : b.scanState = .waitingUpload
    · rw [wakeup_waiting waiting]
      exact .still _
    · unfold uploadOnWakeup
      split
      · simp only
        split
        · exact still (scanPhase_stop env b)
        · exact stopped_move (free waiting) env _
      · exact .still _
  | sensorThSample record => exact still (scanPhase_view (scanView_processSample env (.inl rfl) _ record b))
  | sensorBpSample record => exact still (scanPhase_view (scanView_processSample env (.inr rfl) _ record b))
  | sensorLteAck rsp => exact still (scanPhase_view (scanView_handleAck env rsp inv.sensorType))
  | uploadTagAndMac => exact uploadData_move env b
  | setConfig mode =>
    rw [show scanPhase (myScanMsgHandler b (env, .setConfig mode)) = ⟨.idle, scanMoves b⟩ from scanPhase_setConfig env mode b]
    exact .left (scanPhase b)
  | clearTagMacinfo =>
    rw [show scanPhase (myScanMsgHandler b (env, .clearTagMacinfo)) = ⟨.idle, scanMoves b⟩ from scanPhase_rewound env _]
    exact .left (scanPhase b)

def ScanKind.rspType : ScanKind → BleRspType
  | .tag => .tag
  | .mac => .macinfo

def LtePacket.scanReply : LtePacket → Option (BleRspType × List Char)
  | .start kind _ => some (kind.rspType, "START".toList)
  | .data kind seq _ => some (kind.rspType, (toString seq).toList)
  | .finish kind => some (kind.rspType, "END".toList)
  | _ => none

/-- The line has the form that `my_lte.h` gives for success: `TAG=OK,START`, `TAG=OK,<seq>`
or `TAG=OK,END`, and the same with `MACINFO`. -/
def isOkReply (packet : LtePacket) (text : List Char) : Bool :=
  match bleRspParse text with
  | none => false
  | some rsp =>
    (myGetStrAtPos rsp.params 0 ',' subcmdSize).2 = "OK".toList ∧
      packet.scanReply = some (rsp.type, (myGetStrAtPos rsp.params 1 ',' subcmdSize).2)

namespace Threads

/-- Packet `i` of the scan upload has itself received an OK reply. -/
def Acked (sys : Threads) (i : Nat) : Prop :=
  ∃ line ∈ sys.lines, line.answers = some i ∧ ∃ packet ∈ (scanPackets sys.ble)[i]?, isOkReply packet line.text = true

instance (sys : Threads) (i : Nat) : Decidable (sys.Acked i) := by
  unfold Acked
  infer_instance

def SessionAcked (kind : ScanKind) (sys : Threads) : Prop :=
  (∃ total, (scanPackets sys.ble)[sys.sessionAt]? = some (.start kind total)) ∧
    ∀ i, sys.sessionAt ≤ i → i < (scanPackets sys.ble).length → sys.Acked i

/-- A reply message handled during a session stems from an OK reply to the packet sent
last, which belongs to the session. -/
def RepliesInStep (sys : Threads) (event : ThreadEvent) : Prop :=
  match event, sys.current with
  | .handle _, some (.uploadTagAndMac n) =>
    sys.ble.uploadState.isStart = true → sys.sessionAt < (scanPackets sys.ble).length ∧
      ∃ line ∈ sys.lines[n]?, line.answers = some ((scanPackets sys.ble).length - 1) ∧
        ∃ packet ∈ (scanPackets sys.ble).getLast?, isOkReply packet line.text = true
  | _, _ => True

instance (sys : Threads) (event : ThreadEvent) : Decidable (sys.RepliesInStep event) := by
  unfold RepliesInStep
  generalize sys.current = current
  cases event <;> rcases current with _ | _ | _ <;> infer_instance

structure SessionInv (kind : ScanKind) (sys : Threads) : Prop where
  bound : sys.sessionAt ≤ (scanPackets sys.ble).length
  first : sys.sessionAt < (scanPackets sys.ble).length →
    ∃ total, (scanPackets sys.ble)[sys.sessionAt]? = some (.start kind total)
  acked : ∀ i, sys.sessionAt ≤ i → i + 1 < (scanPackets sys.ble).length → sys.Acked i

section

variable {sys after : Threads} {kind : ScanKind}

lemma Acked.grown {i : Nat} (acked : sys.Acked i) (lines : sys.lines <+: after.lines)
    (packets : scanPackets sys.ble <+: scanPackets after.ble) : after.Acked i := by
  obtain ⟨line, member, answers, packet, sent, ok⟩ := acked
  obtain ⟨more, grown⟩ := packets
  refine ⟨line, lines.subset member, answers, packet, ?_, ok⟩
  rw [← grown, List.getElem?_append_left (List.getElem?_eq_some_iff.mp sent).choose]
  exact sent

lemma SessionInv.frame (inv : sys.SessionInv kind) (lines : sys.lines <+: after.lines)
    (packets : scanPackets after.ble = scanPackets sys.ble) (begins : after.sessionAt = sys.sessionAt) :
    after.SessionInv kind := by
  constructor
  · rw [packets, begins]
    exact inv.bound
  · rw [packets, begins]
    exact inv.first
  · rw [packets, begins]
    intro i inside below
    exact (inv.acked i inside below).grown lines (packets ▸ prefix_rfl)

lemma SessionInv.acknowledged (inv : sys.SessionInv kind) (inside : sys.sessionAt < (scanPackets sys.ble).length)
    (last : sys.Acked ((scanPackets sys.ble).length - 1)) : sys.SessionAcked kind := by
  refine ⟨inv.first inside, fun i begins below => ?_⟩
  by_cases final : i + 1 = (scanPackets sys.ble).length
  · rw [← final] at last
    exact last
  · exact inv.acked i begins (by omega)

lemma SessionAcked.sends (acked : sys.SessionAcked kind) (lines : after.lines = sys.lines)
    (grown : scanPackets after.ble = scanPackets sys.ble ++ packets) (one : packets.length ≤ 1)
    (begins : after.sessionAt = sys.sessionAt) : after.SessionInv kind := by
  obtain ⟨⟨total, first⟩, all⟩ := acked
  have inside := (List.getElem?_eq_some_iff.mp first).choose
  have length := congrArg List.length grown
  rw [length_append] at length
  refine ⟨by omega, fun _ => ⟨total, ?_⟩, fun i inside below => ?_⟩
  · rw [begins, grown, List.getElem?_append_left inside]
    exact first
  · exact (all i (by omega) (by omega)).grown (lines ▸ prefix_rfl) ⟨packets, grown.symm⟩

lemma SessionInv.begin (grown : scanPackets after.ble = scanPackets sys.ble ++ packets)
    (start : packets = [] ∨ ∃ total, packets = [.start kind total])
    (begins : after.sessionAt = (scanPackets sys.ble).length) : after.SessionInv kind := by
  have length := congrArg List.length grown
  rw [length_append] at length
  have one : packets.length ≤ 1 := by rcases start with rfl | ⟨_, rfl⟩ <;> simp
  refine ⟨by omega, fun inside => ?_, fun i late below => ?_⟩
  · rcases start with rfl | ⟨total, rfl⟩
    · simp only [length_nil] at length
      omega
    · refine ⟨total, ?_⟩
      rw [begins, grown]
      exact List.getElem?_concat_length ..
  · omega

end

structure AckInv [Crc32Ieee] (origin : (type : FsDataType) → FsState (FsRecord type)) (sys : Threads) : Prop where
  upload : UploadInv origin sys.ble
  session : ∀ kind, sys.ble.uploadState = .start kind → sys.SessionInv kind

variable [Crc32Ieee]

def CommitsAcked (sys : Threads) (event : ThreadEvent) : Prop := ∀ kind : ScanKind,
    sys.ble.log.count (.committed kind.type) < (sys.step event).ble.log.count (.committed kind.type) →
      sys.SessionAcked kind

variable {origin : (type : FsDataType) → FsState (FsRecord type)} {sys : Threads}

omit [Crc32Ieee] in
lemma count_sent (env : BleEnv) (packet type) :
    (if env.lteSend = 0 then [sent packet] else []).count (.committed type) = 0 := by
  split <;> rfl

lemma commit_reply (inv : UploadInv origin sys.ble) {env} {kind : ScanKind}
    (commits : sys.ble.log.count (.committed kind.type) < (sys.run env msg).ble.log.count (.committed kind.type)) :
    msg = .uploadTagAndMac ∧ sys.ble.uploadState = .start kind := by
  have moved := handle_move inv env msg
  rw [committed_count, committed_count] at commits
  change (scanPhase sys.ble).moves.count _ < (scanPhase (myScanMsgHandler sys.ble (env, msg))).moves.count _ at commits
  change _ ∧ (scanPhase sys.ble).state = _
  generalize scanPhase sys.ble = before, scanPhase (myScanMsgHandler sys.ble (env, msg)) = after at moved commits ⊢
  cases moved with
  | still | left => exact absurd commits (Nat.lt_irrefl _)
  | begun _ other total => 
    rw [count_append, count_sent] at commits
    exact absurd commits (Nat.lt_irrefl _)
  | sent other moves seq record reply =>
    rw [count_append, count_sent] at commits
    exact absurd commits (Nat.lt_irrefl _)
  | finished other moves reply =>
    refine ⟨reply, ?_⟩
    rw [count_append, count_append, count_sent] at commits
    by_cases same : other = kind
    · rw [same]
    · have types : committed other.type ≠ .committed kind.type := fun types =>
        same (ScanKind.type_inj.mp (committed.inj types))
      rw [count_singleton, if_neg (by simpa using types)] at commits
      exact absurd commits (Nat.lt_irrefl _)

lemma run_stays {env} (same : (myScanMsgHandler sys.ble (env, msg)).uploadState = sys.ble.uploadState) :
    (sys.run env msg).sessionAt = sys.sessionAt := by
  simp [run, same]

lemma run_begins {env} {kind} (entered : (myScanMsgHandler sys.ble (env, msg)).uploadState = .start kind)
    (elsewhere : sys.ble.uploadState ≠ .start kind) : (sys.run env msg).sessionAt = (scanPackets sys.ble).length := by
  simp [run, entered, UploadState.isStart, elsewhere.symm]

section

variable (inv : AckInv origin sys)
include inv

lemma AckInv.run {env}
    (acked : msg = .uploadTagAndMac → ∀ kind, sys.ble.uploadState = .start kind → sys.SessionAcked kind) :
    AckInv origin (sys.run env msg) := by
  refine ⟨inv.upload.handle (env, msg), fun kind state => ?_⟩
  have moved := handle_move inv.upload env msg
  have before := scanPackets_eq_moves sys.ble
  have after := scanPackets_eq_moves (sys.run env msg).ble
  change _ = sentPackets (scanPhase sys.ble).moves at before
  change _ = sentPackets (scanPhase (myScanMsgHandler sys.ble (env, msg))).moves at after
  generalize old : scanPhase sys.ble = first at moved before
  generalize new : scanPhase (myScanMsgHandler sys.ble (env, msg)) = last at moved after
  have entered : last.state = .start kind := by
    rw [← new]
    exact state
  cases moved with
  | still =>
    have same : (myScanMsgHandler sys.ble (env, msg)).uploadState = sys.ble.uploadState :=
      congrArg ScanPhase.state (new.trans old.symm)
    exact (inv.session kind (same ▸ state)).frame prefix_rfl (after.trans before.symm) (run_stays same)
  | left | finished => exact nomatch entered
  | begun _ other total elsewhere =>
    obtain rfl : other = kind := UploadState.start.inj entered
    rw [← old] at elsewhere
    rw [sentPackets_append, ← before] at after
    refine .begin after ?_ (run_begins state elsewhere)
    split
    · exact .inr ⟨total, rfl⟩
    · exact .inl rfl
  | sent other moves seq record reply =>
    obtain rfl : other = kind := UploadState.start.inj entered
    have session : sys.ble.uploadState = .start other := congrArg ScanPhase.state old
    rw [sentPackets_append, ← before] at after
    refine (acked reply other session).sends rfl after ?_ (run_stays (state.trans session.symm))
    split <;> simp [sentPackets]

lemma AckInv.frame {after : Threads} (ble : after.ble = sys.ble)
    (lines : sys.lines <+: after.lines) (begins : after.sessionAt = sys.sessionAt) : AckInv origin after := by
  refine ⟨ble ▸ inv.upload, fun kind state => ?_⟩
  exact (inv.session kind (ble ▸ state)).frame lines (congrArg scanPackets ble) begins

lemma AckInv.put (msg) : AckInv origin (sys.put msg) := by
  unfold Threads.put
  split
  · exact inv.frame rfl prefix_rfl rfl
  · exact inv

lemma AckInv.lteCall (action : LteAction) : AckInv origin (sys.lteCall action) := by
  cases action with
  | checkAck | setSystemTime => exact inv
  | saveSensorRsp rsp => exact inv.frame rfl prefix_rfl rfl
  | sendUploadTagAndMac | sendSensorLteAck => exact inv.put _

lemma AckInv.replied {env} {n : Nat}
    (taken : sys.current = some (.uploadTagAndMac n)) (guarded : sys.RepliesInStep (.handle env)) {kind}
    (state : sys.ble.uploadState = .start kind) : sys.SessionAcked kind := by
  simp only [RepliesInStep, taken] at guarded
  obtain ⟨inside, line, held, answers, packet, last, ok⟩ := guarded (by rw [state]; rfl)
  refine (inv.session kind state).acknowledged inside ⟨line, mem_of_getElem? held, answers, packet, ?_, ok⟩
  rw [← List.getLast?_eq_getElem?]
  exact last

end

lemma handleMsg_cases (env) (queued : QueuedMsg) (sys : Threads) :
    sys.handleMsg env queued = sys ∨ ∃ msg acks, sys.handleMsg env queued = { sys.run env msg with sensorAcks := acks } ∧
      (msg = .uploadTagAndMac → ∃ n, queued = .uploadTagAndMac n) := by
  cases queued with
  | uploadTagAndMac n => exact .inr ⟨.uploadTagAndMac, sys.sensorAcks, rfl, fun _ => ⟨n, rfl⟩⟩
  | sensorLteAck => exact .inr ⟨.sensorLteAck sys.sensorBleRsp.type, _, rfl, nofun⟩
  | posted msg =>
    obtain ⟨msg, other⟩ := msg
    refine .inr ⟨msg, sys.sensorAcks, rfl, ?_⟩
    rintro rfl
    exact nomatch other
  | foreign => exact .inl rfl

lemma AckInv.step (inv : AckInv origin sys) (guarded : sys.RepliesInStep event) : AckInv origin (sys.step event) := by
  cases event with
  | line text answers =>
    simp only [step]
    split
    · exact inv.frame rfl (prefix_append ..) rfl
    · exact inv
  | lteStep =>
    simp only [step]
    split
    · exact inv
    · next action rest _ =>
      have popped : AckInv origin { sys with todo := rest } := inv.frame rfl prefix_rfl rfl
      exact popped.lteCall action
  | post | postForeign => exact inv.put _
  | recv =>
    simp only [step]
    split
    · exact inv.frame rfl prefix_rfl rfl
    · exact inv
  | handle env =>
    simp only [step]
    split
    · exact inv
    · next queued taken =>
      have idle : AckInv origin { sys with current := none } := inv.frame rfl prefix_rfl rfl
      rcases handleMsg_cases env queued { sys with current := none } with same | ⟨msg, acks, same, reply⟩
      · rw [same]
        exact idle
      · rw [same]
        have ran : AckInv origin ({ sys with current := none }.run env msg) := idle.run fun isReply kind state => by
          obtain ⟨n, rfl⟩ := reply isReply
          exact inv.replied taken guarded state
        exact ran.frame rfl prefix_rfl rfl

omit [Crc32Ieee] in
lemma put_ble (msg) (sys : Threads) : (sys.put msg).ble = sys.ble := by
  unfold put
  split <;> rfl

omit [Crc32Ieee] in
lemma lteCall_ble (action : LteAction) (sys : Threads) : (sys.lteCall action).ble = sys.ble := by
  cases action with
  | checkAck | setSystemTime | saveSensorRsp => rfl
  | sendUploadTagAndMac | sendSensorLteAck => exact put_ble ..

lemma step_ble (sys : Threads) (other : ∀ env, event ≠ .handle env) : (sys.step event).ble = sys.ble := by
  cases event with
  | line | recv =>
    simp only [step]
    split <;> rfl
  | lteStep =>
    simp only [step]
    split
    · rfl
    · exact lteCall_ble ..
  | post | postForeign => exact put_ble ..
  | handle env => exact absurd rfl (other env)

lemma AckInv.commits (inv : AckInv origin sys) (guarded : sys.RepliesInStep event) : sys.CommitsAcked event := by
  intro kind commits
  by_cases handles : ∃ env, event = .handle env
  · obtain ⟨env, rfl⟩ := handles
    simp only [Threads.step] at commits
    split at commits
    · exact absurd commits (Nat.lt_irrefl _)
    · next queued taken =>
      rcases handleMsg_cases env queued { sys with current := none } with same | ⟨msg, acks, same, reply⟩
      · rw [same] at commits
        exact absurd commits (Nat.lt_irrefl _)
      · rw [same] at commits
        have idle : UploadInv origin { sys with current := none }.ble := inv.upload
        obtain ⟨isReply, state⟩ := commit_reply idle commits
        obtain ⟨n, rfl⟩ := reply isReply
        exact inv.replied taken guarded state
  · rw [step_ble sys fun env same => handles ⟨env, same⟩] at commits
    exact absurd commits (Nat.lt_irrefl _)

lemma AckInv.start (env mode) (media : (type : FsDataType) → FsMedia (FsRecord type)) :
    AckInv (fun type => myFlashStoreInit (fsLayout type) (media type)) (start env mode media) := by
  refine ⟨UploadInv.init env mode media, fun kind state => ?_⟩
  exact nomatch (setConfig_uploadState env mode _).symm.trans state

end Threads

/-- If a session moves only on OK replies to its last packet, TAG and MAC records are given up only after START and
every DATA packet of their session has itself received an OK reply. -/
theorem commit_follows_acks [Crc32Ieee] (env : BleEnv) (mode : ScanMode)
    (media : (type : FsDataType) → FsMedia (FsRecord type)) {events : List ThreadEvent}
    (inStep : Along Threads.step Threads.RepliesInStep (.start env mode media) events) :
    Along Threads.step Threads.CommitsAcked (.start env mode media) events :=
  inStep.imp (Threads.AckInv fun type => myFlashStoreInit (fsLayout type) (media type))
    (fun _ _ inv guarded => inv.step guarded) (fun _ _ inv guarded => inv.commits guarded)
    (Threads.AckInv.start env mode media)

/-- The upload of one collected tag, with every reply handled before the next one comes;
a reply is its text and the packet that it answers. -/
def tagConversation (replies : List (String × Nat)) : List ThreadEvent :=
  [.post ⟨.tagScanProcess [(7, ⟨.scanRsp, petTag⟩)], rfl⟩, .recv, .handle .ok, .post ⟨.uploadWakeup, rfl⟩, .recv,
    .handle .ok] ++
  replies.flatMap fun (text, answers) => [.line text.toList (some answers), .lteStep, .lteStep, .recv, .handle .ok]

theorem tag_committed_after_acks :
    let events := tagConversation [("TAG=OK,START", 0), ("TAG=OK,1", 1)]
    let start := Threads.start .ok .periodCache blankMedia
    .committed .tag ∈ (events.foldl Threads.step start).ble.log ∧
      Along Threads.step Threads.CommitsAcked start events :=
  ⟨by decide +kernel, commit_follows_acks .ok .periodCache blankMedia (by decide +kernel)⟩

lemma unacked_commit [Crc32Ieee] {start} (events : List ThreadEvent) (i : Nat)
    (commits : (events.foldl step start).ble.log.count (.committed .tag) <
      ((events.foldl step start).step (.handle .ok)).ble.log.count (.committed .tag))
    (inside : (events.foldl step start).sessionAt ≤ i ∧
      i < (scanPackets (events.foldl step start).ble).length)
    (unacked : ¬ (events.foldl step start).Acked i) :
    ¬ Along step Threads.CommitsAcked start (events ++ [ThreadEvent.handle .ok]) := by
  intro along
  obtain ⟨_, last, _⟩ := (along_append ..).mp along
  exact unacked ((last .tag commits).2 i inside.1 inside.2)

/-- Replies that report failure lead to the commit, and so does one reply to START that
comes twice. -/
theorem unacked_replies_commit : ¬ Along Threads.step Threads.CommitsAcked (.start .ok .periodCache blankMedia)
      (tagConversation [("TAG=FAIL,START", 0), ("TAG=FAIL,1", 1)]) ∧
    ¬ Along Threads.step Threads.CommitsAcked (.start .ok .periodCache blankMedia)
      (tagConversation [("TAG=OK,START", 0), ("TAG=OK,START", 0)]) := by
  constructor
  · exact unacked_commit (tagConversation [("TAG=FAIL,START", 0), ("TAG=FAIL,1", 1)]).dropLast 0
      (by decide +kernel) (by decide +kernel) (by decide +kernel)
  · exact unacked_commit (tagConversation [("TAG=OK,START", 0), ("TAG=OK,START", 0)]).dropLast 1
      (by decide +kernel) (by decide +kernel) (by decide +kernel)

end LL320D.BleScan
