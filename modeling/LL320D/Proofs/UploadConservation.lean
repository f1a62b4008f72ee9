import LL320D.Proofs.ScanLedger
import LL320D.Proofs.ScanSession

/-! The BLE thread moves the records of each kind as the ledger does, as long as a kind that is being uploaded is left
alone, and a flush pushes every record of a table once, the oldest first. -/

namespace LL320D.BleScan
open FlashStore Library List Ledger BleState BleEvent UploadState Function

variable {after before : BleState} {type : FsDataType} {i : Nat} {β : Type}

/-! Records in the log -/

def BleEvent.collectedRecord (kind : ScanKind) : BleEvent → Option (ScanRecord kind)
  | .collected other record => if same : other = kind then some (same ▸ record) else none
  | _ => none

def BleEvent.replacedRecord (kind : ScanKind) : BleEvent → Option (ScanRecord kind)
  | .replaced other old new =>
    if same : other = kind then
      if ScanRecord.addr old = ScanRecord.addr new then some (same ▸ old) else none
    else none
  | _ => none

def BleEvent.sentRecord (kind : ScanKind) : BleEvent → Option (ScanRecord kind)
  | .sent (.data other _ record) => if same : other = kind then some (same ▸ record) else none
  | _ => none

def collectedRecords (kind : ScanKind) (log : List BleEvent) : Multiset (ScanRecord kind) :=
  (log.filterMap (BleEvent.collectedRecord kind) : List (ScanRecord kind))

def replacedRecords (kind : ScanKind) (log : List BleEvent) : Multiset (ScanRecord kind) :=
  (log.filterMap (BleEvent.replacedRecord kind) : List (ScanRecord kind))

def sentRecords (kind : ScanKind) (log : List BleEvent) : Multiset (ScanRecord kind) :=
  (log.filterMap (BleEvent.sentRecord kind) : List (ScanRecord kind))

def uploadProgress (kind : ScanKind) (b : BleState) : Option UploadProgress :=
  if b.uploadState = .start kind then some ⟨b.tagMacinfoSeq, b.flashConsumed, b.rtCountSnap⟩ else none

/-- The ledger of a kind in the state of the thread. -/
def ledger (kind : ScanKind) (b : BleState) : Ledger (ScanRecord kind) where
  table := b.table kind
  store := b.store kind.type
  progress := uploadProgress kind b
  collected := collectedRecords kind b.log
  replaced := replacedRecords kind b.log
  sent := sentRecords kind b.log
  ringFull := decide (.ringFull kind.type ∈ b.log)

section

variable {kind : ScanKind} {env : BleEnv}

lemma coe_filterMap_append (f : BleEvent → Option β) (first second : List BleEvent) :
    ((first ++ second).filterMap f : Multiset β) = (first.filterMap f : Multiset β) + (second.filterMap f : List β) := by
  rw [filterMap_append, Multiset.coe_add]

lemma ledger_emit (kind event) (b : BleState) : ledger kind (b.emit event) = { ledger kind b with
      collected := (ledger kind b).collected + collectedRecords kind [event]
      replaced := (ledger kind b).replaced + replacedRecords kind [event]
      sent := (ledger kind b).sent + sentRecords kind [event]
      ringFull := (ledger kind b).ringFull || decide (.ringFull kind.type = event) } := by
  refine Ledger.ext rfl rfl rfl (coe_filterMap_append ..) (coe_filterMap_append ..) (coe_filterMap_append ..) ?_
  simp [ledger, BleState.emit]

lemma ledger_collected (record) (b : BleState) : ledger kind (b.emit (.collected kind record)) = { ledger kind b with
      collected := (ledger kind b).collected + {record} } := by
  have one : collectedRecords kind [.collected kind record] = {record} := by
    simp [collectedRecords, BleEvent.collectedRecord]
  rw [ledger_emit, one]
  exact Ledger.ext rfl rfl rfl rfl (add_zero _) (add_zero _) (Bool.or_false _)

lemma ledger_replaced {old new} (addr : ScanRecord.addr old = ScanRecord.addr new) (b : BleState) :
    ledger kind (b.emit (.replaced kind old new)) = { ledger kind b with
      replaced := (ledger kind b).replaced + {old} } := by
  have one : replacedRecords kind [.replaced kind old new] = {old} := by
    simp [replacedRecords, BleEvent.replacedRecord, addr]
  rw [ledger_emit, one]
  exact Ledger.ext rfl rfl rfl (add_zero _) rfl (add_zero _) (Bool.or_false _)

structure Foreign (kind : ScanKind) (event : BleEvent) : Prop where
  collected : event.collectedRecord kind = none
  replaced : event.replacedRecord kind = none
  sent : event.sentRecord kind = none
  ringFull : .ringFull kind.type ≠ event

lemma ledger_foreign {event} (foreign : Foreign kind event) (b : BleState) :
    ledger kind (b.emit event) = ledger kind b := by
  have collected : collectedRecords kind [event] = 0 := by simp [collectedRecords, foreign.collected]
  have replaced : replacedRecords kind [event] = 0 := by simp [replacedRecords, foreign.replaced]
  have sent : sentRecords kind [event] = 0 := by simp [sentRecords, foreign.sent]
  rw [ledger_emit, collected, replaced, sent, decide_eq_false foreign.ringFull]
  exact Ledger.ext rfl rfl rfl (add_zero _) (add_zero _) (add_zero _) (Bool.or_false _)

lemma foreign_collected {other} (different : other ≠ kind) (record) :
    Foreign kind (.collected other record) := ⟨dif_neg different, rfl, rfl, nofun⟩

lemma foreign_replaced {other} (different : other ≠ kind) (old new) :
    Foreign kind (.replaced other old new) := ⟨rfl, dif_neg different, rfl, nofun⟩

lemma foreign_committed (kind type) : Foreign kind (.committed type) := ⟨rfl, rfl, rfl, nofun⟩

lemma sentRecord_other {other} (different : other ≠ kind) (seq record) :
    sentRecord kind (.sent (.data other seq record)) = none := dif_neg different

lemma sendCommand_sent (sends : env.lteSend = 0) (packet) (b : BleState) :
    (b.lteSendCommand env packet).2 = b.emit (.sent packet) := by
  simp only [lteSendCommand, sends, if_true, emit]

lemma ledger_sent (env) {packet} (other : sentRecord kind (.sent packet) = none)
    (b : BleState) : ledger kind (b.lteSendCommand env packet).2 = ledger kind b := by
  by_cases sends : env.lteSend = 0
  · rw [sendCommand_sent sends]
    exact ledger_foreign ⟨rfl, rfl, other, nofun⟩ b
  · simp [lteSendCommand, sends]

lemma ledger_data (sends : env.lteSend = 0) (seq record) (b : BleState) :
    ledger kind (b.lteSendCommand env (.data kind seq record)).2 = { ledger kind b with
      sent := (ledger kind b).sent + {record} } := by
  have one : sentRecords kind [.sent (.data kind seq record)] = {record} := by
    simp [sentRecords, BleEvent.sentRecord]
  rw [sendCommand_sent sends, ledger_emit, one]
  exact Ledger.ext rfl rfl rfl (add_zero _) (add_zero _) rfl (Bool.or_false _)

lemma ledger_moved (kind) (b : BleState) (state : UploadState) (seq consumed snap : Nat) :
    ledger kind { b with uploadState := state, tagMacinfoSeq := seq, flashConsumed := consumed, rtCountSnap := snap } =
      { ledger kind b with progress := if state = .start kind then some ⟨seq, consumed, snap⟩ else none } := rfl

lemma progress_none {b : BleState} (elsewhere : b.uploadState ≠ .start kind) : (ledger kind b).progress = none :=
  if_neg elsewhere

lemma scanStop_ledger (env b) : ledger kind (scanStopInternal env b) = ledger kind b := by
  unfold scanStopInternal
  split
  · rfl
  · split
    · rfl
    · rfl

lemma ledger_rescan (b : BleState) (mode : ScanMode) :
    ledger kind { b with scanMode := mode, scanState := .idle } = ledger kind b := rfl

lemma scanStart_ledger (env b) : ledger kind (scanStartInternal env b) = ledger kind b := by
  unfold scanStartInternal
  split
  · rfl
  · split
    · rfl
    · split
      · rfl
      · rfl

lemma ledger_setTable (items) (b : BleState) :
    ledger kind (b.setTable kind items) = { ledger kind b with table := items } :=
  Ledger.ext (update_self ..) rfl rfl rfl rfl rfl rfl

lemma ledger_setTable_other {other} (different : other ≠ kind) (items)
    (b : BleState) : ledger kind (b.setTable other items) = ledger kind b :=
  Ledger.ext (update_of_ne different.symm ..) rfl rfl rfl rfl rfl rfl

lemma full_silent (kind type) (full : Bool) (log : List BleEvent) :
    collectedRecords kind (log ++ if full then [.ringFull type] else []) = collectedRecords kind log ∧
    replacedRecords kind (log ++ if full then [.ringFull type] else []) = replacedRecords kind log ∧
    sentRecords kind (log ++ if full then [.ringFull type] else []) = sentRecords kind log := by
  cases full with
  | true | false =>
    exact ⟨(coe_filterMap_append ..).trans (add_zero _), (coe_filterMap_append ..).trans (add_zero _),
      (coe_filterMap_append ..).trans (add_zero _)⟩

variable [Crc32Ieee]

lemma ledger_flash (env op) (b : BleState) : ledger kind (b.flash env kind.type op).2 = { ledger kind b with
      store := (fsStep (fsLayout kind.type) (env.io b.flashCalls) (ledger kind b).store op).2
      ringFull := (ledger kind b).ringFull ||
        (fsCall (fsLayout kind.type) (env.io b.flashCalls) (ledger kind b).store op).effects.any FsEffect.isRingFull } := by
  obtain ⟨collected, replaced, sent⟩ := full_silent kind kind.type
    ((fsCall (fsLayout kind.type) (env.io b.flashCalls) (b.store kind.type) op).effects.any FsEffect.isRingFull) b.log
  refine Ledger.ext rfl (flash_store env kind.type op b) rfl collected replaced sent ?_
  simp only [ledger, BleState.flash, mem_append, Bool.decide_or]
  congr 1
  split
  · next full => simp [full]
  · next full => simp [Bool.eq_false_iff.mpr full]

lemma ledger_flash_other (env) (different : type ≠ kind.type) (op)
    (b : BleState) : ledger kind (b.flash env type op).2 = ledger kind b := by
  obtain ⟨collected, replaced, sent⟩ := full_silent kind type
    ((fsCall (fsLayout type) (env.io b.flashCalls) (b.store type) op).effects.any FsEffect.isRingFull) b.log
  refine Ledger.ext rfl (flash_store_other env different.symm op b) rfl collected replaced sent ?_
  simp only [ledger, BleState.flash, mem_append, Bool.decide_or]
  split
  · simp [different.symm]
  · simp

omit [Crc32Ieee] in
lemma filterMap_scan {f : BleEvent → Option β}
    (silent : ∀ event, event.isScan = false → f event = none) (log : List BleEvent) :
    log.filterMap f = (log.filter isScan).filterMap f := by
  rw [filterMap_filter]
  congr 1
  funext event
  cases scan : event.isScan with
  | true => rfl
  | false => simp [silent event scan]

omit [Crc32Ieee] in
lemma ledger_of_view (same : scanView after = scanView before) : ledger kind after = ledger kind before := by
  have events : after.log.filter BleEvent.isScan = before.log.filter BleEvent.isScan := congrArg ScanView.events same
  have through : ∀ {β : Type} {f : BleEvent → Option β}, (∀ event, event.isScan = false → f event = none) →
      (after.log.filterMap f : Multiset β) = (before.log.filterMap f : List β) := by
    intro β f silent
    rw [filterMap_scan silent after.log, events, ← filterMap_scan silent before.log]
  refine Ledger.ext ?_ ?_ ?_ ?_ ?_ ?_ ?_
  · exact congrFun (congrArg ScanView.table same) kind
  · exact congrFun (congrArg ScanView.store same) kind
  · have state : after.uploadState = before.uploadState := congrArg ScanView.uploadState same
    have seq : after.tagMacinfoSeq = before.tagMacinfoSeq := congrArg ScanView.tagMacinfoSeq same
    have consumed : after.flashConsumed = before.flashConsumed := congrArg ScanView.flashConsumed same
    have snap : after.rtCountSnap = before.rtCountSnap := congrArg ScanView.rtCountSnap same
    simp only [ledger, uploadProgress, state, seq, consumed, snap]
  · refine through fun event silent => ?_
    cases event with
    | collected => exact nomatch silent
    | _ => rfl
  · refine through fun event silent => ?_
    cases event with
    | replaced => exact nomatch silent
    | _ => rfl
  · refine through fun event silent => ?_
    cases event with
    | sent packet =>
      cases packet with
      | data => exact nomatch silent
      | _ => rfl
    | _ => rfl
  · have member : ∀ log : List BleEvent, .ringFull kind.type ∈ log ↔ .ringFull kind.type ∈ log.filter BleEvent.isScan := by
      intro log
      rw [mem_filter]
      cases kind <;> simp [BleEvent.isScan, ScanKind.type, FsDataType.isScan]
    simp only [ledger, member after.log, member before.log, events]

end

/-! Steps of the thread as steps of the ledger -/

section

variable [Crc32Ieee] {kind other : ScanKind} {env : BleEnv} {b : BleState}

def Moves (kind : ScanKind) (before after : BleState) : Prop :=
  Relation.ReflTransGen (Ledger.Step (fsLayout kind.type)) (ledger kind before) (ledger kind after)

lemma Moves.of_eq (same : ledger kind after = ledger kind before) : Moves kind before after := by
  rw [Moves, same]

lemma Moves.of_step {next} (same : ledger kind after = next)
    (step : Ledger.Step (fsLayout kind.type) (ledger kind before) next) : Moves kind before after := by
  rw [Moves, same]
  exact .single step

lemma tableAppend_moves (kind) (elsewhere : b.uploadState ≠ .start other) (record) :
    Moves kind b (tableAppend other record b) := by
  by_cases same : other = kind
  · subst same
    refine .of_step ?_ (.put _ record (progress_none elsewhere))
    rw [tableAppend, ledger_collected, ledger_setTable]
    rfl
  · apply Moves.of_eq
    rw [tableAppend, ledger_foreign (foreign_collected same record), ledger_setTable_other same]

lemma tableReplace_moves (kind) {old new} (here : (b.table other)[i]? = some old)
    (addr : ScanRecord.addr old = ScanRecord.addr new) (unsent : b.uploadState = .start other → b.rtIdx ≤ i) :
    Moves kind b (tableReplace other i old new b) := by
  by_cases same : other = kind
  · subst same
    have allowed : ∀ p ∈ (ledger other b).progress, p.rtIdx ≤ i := by
      intro p member
      by_cases state : b.uploadState = .start other
      · obtain rfl : _ = p := Option.some.inj ((if_pos state).symm.trans member)
        exact unsent state
      · exact nomatch (progress_none state).symm.trans member
    refine .of_step ?_ (.overwrite _ new here allowed)
    rw [tableReplace, ledger_collected, ledger_replaced addr, ledger_setTable]
    rfl
  · apply Moves.of_eq
    rw [tableReplace, ledger_foreign (foreign_collected same new), ledger_foreign (foreign_replaced same old new),
      ledger_setTable_other same]

lemma pushAll_pushes (ok : ∀ call, (env.io call).Ok) (items : List (ScanRecord kind)) (b : BleState) :
    ∃ final full, Pushes (fsLayout kind.type) items (ledger kind b).store (ledger kind b).ringFull final full ∧
      ledger kind (items.foldl (fun b item => (b.flash env kind.type (.push item)).2) b) =
        { ledger kind b with store := final, ringFull := full } := by
  induction items generalizing b with
  | nil => exact ⟨_, _, .nil _ _, rfl⟩
  | cons data items ih =>
    obtain ⟨final, full, pushes, same⟩ := ih (b.flash env kind.type (.push data)).2
    rw [ledger_flash] at pushes same
    exact ⟨final, full, .cons _ (ok _) pushes, same⟩

lemma pushAll_other (different : other ≠ kind) (items : List (ScanRecord other)) (b : BleState) :
    ledger kind (items.foldl (fun b item => (b.flash env other.type (.push item)).2) b) = ledger kind b := by
  induction items generalizing b with
  | nil => rfl
  | cons data items ih =>
    have types : other.type ≠ kind.type := fun types => different (ScanKind.type_inj.mp types)
    exact (ih _).trans (ledger_flash_other env types _ b)

lemma tableFlush_other (different : other ≠ kind) (b) :
    ledger kind (tableFlushToFlash env other b) = ledger kind b := by
  unfold tableFlushToFlash
  split
  · rfl
  · rw [ledger_setTable_other different, pushAll_other different]

lemma tableFlush_moves (kind) (ok : ∀ call, (env.io call).Ok)
    (quiet : b.uploadState = .start other → b.table other = []) : Moves kind b (tableFlushToFlash env other b) := by
  by_cases same : other = kind
  · subst same
    unfold tableFlushToFlash
    split
    · exact .refl
    · next some =>
      have elsewhere : b.uploadState ≠ .start other := by
        intro state
        rw [quiet state] at some
        exact some rfl
      obtain ⟨final, full, pushes, pushed⟩ := pushAll_pushes ok (selectionSort ScanRecord.timestamp (b.table other)) b
      refine .of_step ?_ (.flush _ (selectionSort_perm ..) (progress_none elsewhere) pushes)
      rw [ledger_setTable, pushed]
  · exact .of_eq (tableFlush_other same b)

end

/-! The messages -/

/-- During an upload the device is in the table and not sent yet. -/
def SavesInPlace (kind : ScanKind) (b : BleState) (addr : BtAddrLe) : Prop :=
  b.uploadState = .start kind → ∃ i, tableIndex (b.table kind) addr = some i ∧ b.rtIdx ≤ i

def TagSavesInPlace (b : BleState) (received : UInt32 × TagScanProcessMsg) : Prop :=
  received.2.advType = .scanRsp → tagNameMatch received.2.result.name = true →
    SavesInPlace .tag b received.2.result.addr

def MacSavesInPlace (b : BleState) (received : UInt32 × TranMacProcessMsg) : Prop := received.2.advData.length ≠ 0 →
    (tableIndex (b.table .mac) received.2.addr = none → (b.table .mac).length < tranMacMaxNum) →
    SavesInPlace .mac b received.2.addr

section

variable [Crc32Ieee] {kind : ScanKind} {env : BleEnv} {b : BleState}

def RecordLeft (env : BleEnv) (kind : ScanKind) (b : BleState) : Prop :=
  (∃ data, (b.flash env kind.type .readNext).1 = .read (.record data)) ∨ b.rtIdx < b.rtCountSnap

/-- The message leaves the kind that is being uploaded alone: no record is added to its
table or put over an entry that is sent, its table is not flushed, and its next record
is really sent. -/
def Undisturbed (b : BleState) (received : BleEnv × BleMsg) : Prop :=
  match received.2 with
  | .tagScanProcess drained => Along (tagScanDataHandle received.1) TagSavesInPlace b drained
  | .tranMacProcess drained => Along tranMacDataHandle MacSavesInPlace b drained
  | .scanLength => ∀ kind, b.uploadState = .start kind → b.table kind = []
  | .uploadTagAndMac => ∀ kind, b.uploadState = .start kind → RecordLeft received.1 kind b → received.1.lteSend = 0
  | .setConfig _ => False
  | .clearTagMacinfo => False
  | _ => True

omit [Crc32Ieee] in
lemma tableIndex_some {items : List (ScanRecord kind)} {addr} (found : tableIndex items addr = some i) :
    items[i]? = some (items.getD i default) ∧ ScanRecord.addr (items.getD i default) = addr := by
  obtain ⟨inside, same, _⟩ := List.findIdx?_eq_some_iff_getElem.mp found
  have here : items.getD i default = items[i] := by
    rw [getD_eq_getElem?_getD, List.getElem?_eq_getElem inside]
    rfl
  rw [here]
  exact ⟨List.getElem?_eq_getElem inside, of_decide_eq_true same⟩

lemma tagSave_moves (kind) (ok : ∀ call, (env.io call).Ok) {result : TagScanResult}
    (inPlace : SavesInPlace .tag b result.addr) (now) : Moves kind b (tagScanResultSave env now result b) := by
  unfold tagScanResultSave
  split
  · next i found =>
    obtain ⟨here, _⟩ := tableIndex_some found
    refine tableReplace_moves kind here rfl fun state => ?_
    obtain ⟨j, index, unsent⟩ := inPlace state
    obtain rfl : j = i := Option.some.inj (index.symm.trans found)
    exact unsent
  · next absent =>
    have elsewhere : b.uploadState ≠ .start .tag := by
      intro state
      obtain ⟨j, index, _⟩ := inPlace state
      exact nomatch absent.symm.trans index
    split
    · exact tableAppend_moves kind elsewhere _
    · have flushed := tableFlush_moves kind ok fun state => absurd state elsewhere
      refine flushed.trans (tableAppend_moves kind ?_ _)
      rw [(Collects.tableFlush env .tag b).uploadState]
      exact elsewhere

lemma tagHandle_moves (kind) (ok : ∀ call, (env.io call).Ok) {received}
    (inPlace : TagSavesInPlace b received) : Moves kind b (tagScanDataHandle env b received) := by
  obtain ⟨now, type, result⟩ := received
  have released : ∀ cache, ledger kind { b with advCacheTable := cache } = ledger kind b := fun _ => rfl
  cases type with
  | advInd => exact .of_eq rfl
  | scanRsp =>
    simp only [tagScanDataHandle]
    split
    · next matched =>
      split
      all_goals
        refine (Moves.of_eq (released (advCacheRelease b.advCacheTable result.addr))).trans ?_
        apply tagSave_moves kind ok
        exact inPlace rfl matched
    · exact .of_eq (released _)

lemma macHandle_moves (kind) {received} (inPlace : MacSavesInPlace b received) :
    Moves kind b (tranMacDataHandle b received) := by
  obtain ⟨now, msg⟩ := received
  simp only [tranMacDataHandle]
  split
  · exact .refl
  · next data =>
    split
    · next i found =>
      obtain ⟨here, _⟩ := tableIndex_some found
      refine tableReplace_moves kind here rfl fun state => ?_
      obtain ⟨j, index, unsent⟩ := inPlace data (fun absent => by cases absent.symm.trans found) state
      obtain rfl : j = i := Option.some.inj (index.symm.trans found)
      exact unsent
    · next absent =>
      split
      · next room =>
        refine tableAppend_moves kind (fun state => ?_) _
        obtain ⟨j, index, _⟩ := inPlace data (fun _ => room) state
        cases absent.symm.trans index
      · exact .refl

lemma drain_moves {step : BleState → β → BleState} {guard : BleState → β → Prop}
    (moves : ∀ b item, guard b item → Moves kind b (step b item)) {drained : List β} (allowed : Along step guard b drained) :
    Moves kind b (drained.foldl step b) := by
  induction drained generalizing b with
  | nil => exact .refl
  | cons item drained ih => exact (moves b item allowed.1).trans (ih allowed.2)

lemma flushAll_moves (kind) (ok : ∀ call, (env.io call).Ok)
    (quiet : ∀ other, b.uploadState = .start other → b.table other = []) :
    Moves kind b (tranMacTableFlushToFlash env (tagTableFlushToFlash env (scanStopInternal env b))) := by
  have stopped := Collects.scanStop env b
  have same : ∀ other, (scanStopInternal env b).table other = b.table other := fun other =>
    congrFun (scanStop_view env b).1 other
  have first : Moves kind b (tagTableFlushToFlash env (scanStopInternal env b)) := by
    refine (Moves.of_eq (scanStop_ledger env b)).trans (tableFlush_moves kind ok fun state => ?_)
    exact (same .tag).trans (quiet .tag (stopped.uploadState.symm.trans state))
  refine first.trans (tableFlush_moves kind ok fun state => ?_)
  have flushed := stopped.trans (Collects.tableFlush env .tag _)
  have kept : (tagTableFlushToFlash env (scanStopInternal env b)).table .mac = (scanStopInternal env b).table .mac :=
    congrArg Ledger.table (tableFlush_other (by decide) _)
  exact kept.trans ((same .mac).trans (quiet .mac (flushed.uploadState.symm.trans state)))

lemma uploadStart_moves (kind other) (elsewhere : ∀ kind, b.uploadState ≠ .start kind) (env) :
    Moves kind b (uploadStart env other b) := by
  by_cases same : other = kind
  · subst same
    refine .of_step ?_ (.begin (ledger other b) (env.io b.flashCalls) (progress_none (elsewhere other)))
    rw [uploadStart, ledger_sent env rfl, ledger_flash]
    exact Ledger.ext rfl rfl (if_pos rfl) rfl rfl rfl (Bool.or_false _)
  · have types : other.type ≠ kind.type := fun types => same (ScanKind.type_inj.mp types)
    apply Moves.of_eq
    rw [uploadStart, ledger_sent env rfl, ledger_flash_other env types]
    refine Ledger.ext rfl rfl ?_ rfl rfl rfl rfl
    refine (progress_none fun state => ?_).trans (progress_none (elsewhere kind)).symm
    exact same (UploadState.start.inj state)

lemma ledger_read (env) (kind : ScanKind) (b : BleState) :
    ledger kind (b.flash env kind.type .readNext).2 = { ledger kind b with
      store := (fsStep (fsLayout kind.type) (env.io b.flashCalls) (ledger kind b).store .readNext).2 } := by
  rw [ledger_flash, fsCall_silent _ _ _ nofun]
  exact Ledger.ext rfl rfl rfl rfl rfl rfl (Bool.or_false _)

lemma uploadFinish_ledger (env kind b) : ledger kind (uploadFinish env kind b) = { ledger kind b with
      table := []
      store := (fsStep (fsLayout kind.type) (env.io b.flashCalls) (ledger kind b).store .commit).2
      progress := none } := by
  refine (ledger_sent env rfl _).trans ((ledger_moved kind (((b.flash env kind.type .commit).2.emit
    (.committed kind.type)).setTable kind []) (.ended kind) 0 0 _).trans ?_)
  have ended : UploadState.ended kind ≠ .start kind := nofun
  rw [ledger_setTable, ledger_foreign (foreign_committed kind _), ledger_flash, fsCall_silent _ _ _ nofun, if_neg ended]
  exact Ledger.ext rfl rfl rfl rfl rfl rfl (Bool.or_false _)

lemma uploadFinish_other {other} (different : other ≠ kind) (env)
    (elsewhere : b.uploadState ≠ .start kind) : ledger kind (uploadFinish env other b) = ledger kind b := by
  have types : other.type ≠ kind.type := fun types => different (ScanKind.type_inj.mp types)
  refine (ledger_sent env rfl _).trans ((ledger_moved kind (((b.flash env other.type .commit).2.emit
    (.committed other.type)).setTable other []) (.ended other) 0 0 _).trans ?_)
  have ended : UploadState.ended other ≠ .start kind := nofun
  rw [ledger_setTable_other different, ledger_foreign (foreign_committed kind _), ledger_flash_other env types,
    if_neg ended]
  exact Ledger.ext rfl rfl (progress_none elsewhere).symm rfl rfl rfl rfl

omit [Crc32Ieee] in
lemma uploadOne_ledger (sends : env.lteSend = 0) (record) (read : BleState)
    (state : read.uploadState = .start kind) (consumed : Nat) :
    ledger kind (uploadOne env kind record { read with flashConsumed := consumed }) = { ledger kind read with
      progress := some ⟨read.tagMacinfoSeq + 1, consumed, read.rtCountSnap⟩
      sent := (ledger kind read).sent + {record} } := by
  rw [uploadOne, ledger_data sends]
  exact Ledger.ext rfl rfl (if_pos state) rfl rfl rfl rfl

lemma uploadNext_moves (kind) {other} (reads : ∀ call, (env.io call).ReadsOk)
    (state : b.uploadState = .start other) (sends : RecordLeft env other b → env.lteSend = 0) :
    Moves kind b (uploadNext env other b) := by
  by_cases same : other = kind
  · subst same
    have going : (ledger other b).progress = some ⟨b.tagMacinfoSeq, b.flashConsumed, b.rtCountSnap⟩ := if_pos state
    rcases uploadNext_cases env other b with ⟨data, found, next⟩ | ⟨empty, inside, next⟩ | ⟨empty, outside, next⟩
    · refine .of_step ?_ (.sendFlash _ going (reads b.flashCalls) found)
      rw [next]
      refine (uploadOne_ledger (sends (.inl ⟨data, found⟩)) data (b.flash env other.type .readNext).2 state
        (b.flashConsumed + 1)).trans ?_
      rw [ledger_read]
      rfl
    · refine .of_step ?_ (.sendTable _ going (reads b.flashCalls) empty inside)
      rw [next]
      refine (uploadOne_ledger (sends (.inr inside)) _ (b.flash env other.type .readNext).2 state
        b.flashConsumed).trans ?_
      rw [ledger_read]
      rfl
    · refine .of_step ?_ (.finish _ (env.io (b.flashCalls + 1)) going (reads b.flashCalls) empty outside)
      rw [next, uploadFinish_ledger, ledger_read]
      rfl
  · have types : other.type ≠ kind.type := fun types => same (ScanKind.type_inj.mp types)
    have elsewhere : b.uploadState ≠ .start kind := by
      intro here
      exact same (UploadState.start.inj (state.symm.trans here))
    have read : ledger kind (b.flash env other.type .readNext).2 = ledger kind b := ledger_flash_other env types _ b
    have one : ∀ (record : ScanRecord other) (next : BleState), ledger kind next = ledger kind b →
        next.uploadState = .start other → ledger kind (uploadOne env other record next) = ledger kind b := by
      intro record next before here
      refine (ledger_sent env (sentRecord_other same _ record) _).trans
        ((ledger_moved kind next next.uploadState _ _ _).trans ?_)
      rw [before]
      refine Ledger.ext rfl rfl ((if_neg fun mine => ?_).trans (progress_none elsewhere).symm) rfl rfl rfl rfl
      exact same (UploadState.start.inj (here.symm.trans mine))
    have counted : ledger kind { (b.flash env other.type .readNext).2 with flashConsumed := b.flashConsumed + 1 } =
        ledger kind b := by
      refine (ledger_moved kind (b.flash env other.type .readNext).2 b.uploadState _ _ _).trans ?_
      rw [read]
      exact Ledger.ext rfl rfl ((if_neg elsewhere).trans (progress_none elsewhere).symm) rfl rfl rfl rfl
    apply Moves.of_eq
    rcases uploadNext_cases env other b with ⟨data, _, next⟩ | ⟨_, _, next⟩ | ⟨_, _, next⟩
    · rw [next]
      exact one data _ counted state
    · rw [next]
      exact one _ _ read state
    · rw [next]
      refine (uploadFinish_other same env ?_).trans read
      exact elsewhere

lemma uploadData_moves (kind) (reads : ∀ call, (env.io call).ReadsOk)
    (sends : ∀ kind, b.uploadState = .start kind → RecordLeft env kind b → env.lteSend = 0) :
    Moves kind b (tagMacScanUploadData env b) := by
  rcases uploadData_cases env b with ⟨_, same⟩ | ⟨state, _, other, same⟩ | ⟨other, state, same⟩ | ⟨state, _, same⟩ |
    ⟨_, state, _, same⟩
  · rw [same]
    exact .refl
  · rw [same]
    exact uploadStart_moves kind other (by rw [state]; exact nofun) env
  · rw [same]
    exact uploadNext_moves kind reads state (sends other state)
  · rw [same]
    exact uploadStart_moves kind .mac (by rw [state]; exact nofun) env
  · rw [same]
    apply Moves.of_eq
    have idle : UploadState.idle ≠ .start kind := nofun
    refine (ledger_of_view (scanView_tryStart env _)).trans ((ledger_moved kind b .idle 0 0 b.rtCountSnap).trans ?_)
    rw [if_neg idle]
    exact Ledger.ext rfl rfl (progress_none (by rw [state]; exact nofun)).symm rfl rfl rfl rfl

lemma handle_moves {origin : (type : FsDataType) → FsState (FsRecord type)} (kind) (inv : UploadInv origin b)
    {received : BleEnv × BleMsg} (ok : ∀ call, (received.1.io call).Ok) (undisturbed : Undisturbed b received) :
    Moves kind b (myScanMsgHandler b received) := by
  obtain ⟨env, msg⟩ := received
  have reads : ∀ call, (env.io call).ReadsOk := fun call => (ok call).flashRead
  -- An upload that is going on shows in the scan state, so these two only ever start one.
  have idle : b.scanState ≠ .waitingUpload → (scanStopInternal env b).uploadState = .idle := by
    intro free
    by_contra busy
    exact free (inv.waiting ((Collects.scanStop env b).uploadState ▸ busy))
  have started : (scanStopInternal env b).uploadState = .idle →
      Moves kind b (tagMacScanUploadData env (scanStopInternal env b)) := by
    intro idle
    refine (Moves.of_eq (scanStop_ledger env b)).trans (uploadData_moves kind reads fun other state => ?_)
    exact nomatch idle.symm.trans state
  cases msg with
  | tagScanProcess drained => exact drain_moves (fun b item inPlace => tagHandle_moves kind ok inPlace) undisturbed
  | tranMacProcess drained => exact drain_moves (fun b item inPlace => macHandle_moves kind inPlace) undisturbed
  | scanInterval =>
    simp only [myScanMsgHandler]
    split
    · exact .of_eq (scanStart_ledger env b)
    · exact .refl
  | scanLength => exact flushAll_moves kind ok undisturbed
  | scanUpload =>
    simp only [myScanMsgHandler, scanTriggerUpload]
    split
    · split
      · exact .refl
      · next free =>
        split
        · exact .of_eq (scanStop_ledger env b)
        · exact started (idle free)
    · exact .refl
  | uploadWakeup =>
    have woken : Moves kind b (uploadOnWakeup env b) := by
      simp only [uploadOnWakeup]
      split
      · split
        · exact .of_eq (scanStop_ledger env b)
        · next free =>
          apply started
          apply idle
          intro waiting
          exact free ((Collects.scanStop env b).waiting waiting)
      · exact .refl
    exact woken.trans (Moves.of_eq (ledger_of_view (scanView_tryStart env _)))
  | sensorThSample record => exact .of_eq (ledger_of_view (scanView_processSample env (.inl rfl) _ record b))
  | sensorBpSample record => exact .of_eq (ledger_of_view (scanView_processSample env (.inr rfl) _ record b))
  | sensorLteAck rsp => exact .of_eq (ledger_of_view (scanView_handleAck env rsp inv.sensorType))
  | uploadTagAndMac => exact uploadData_moves kind reads undisturbed
  | setConfig | clearTagMacinfo => exact undisturbed.elim

end

/-! Runs from boot -/

section

variable [Crc32Ieee]

lemma ledger_rewind (env kind b) : ∃ io, ledger kind (rewindScanUpload env b) = { ledger kind b with
      store := (fsStep (fsLayout kind.type) io (ledger kind b).store .rewind).2, progress := none } := by
  have idle : UploadState.idle ≠ .start kind := nofun
  have cleared := ledger_moved kind b .idle 0 0 0
  rw [if_neg idle] at cleared
  unfold rewindScanUpload
  cases kind with
  | tag =>
    refine ⟨env.io b.flashCalls, (ledger_flash_other env (by decide) .rewind _).trans ((ledger_flash env .rewind _).trans ?_)⟩
    rw [cleared]
    exact Ledger.ext rfl rfl rfl rfl rfl rfl (Bool.or_false _)
  | mac =>
    refine ⟨env.io (b.flashCalls + 1), (ledger_flash env .rewind _).trans ?_⟩
    rw [ledger_flash_other env (by decide), cleared]
    exact Ledger.ext rfl rfl rfl rfl rfl rfl (Bool.or_false _)

lemma init_tidy {media : FsMedia (FsRecord type)} (stored : Stored (fsLayout type) media) :
    Tidy (fsLayout type) (myFlashStoreInit (fsLayout type) media) := by
  have none : (myFlashStoreInit (fsLayout type) media).rg.stagingCount = 0 := by
    unfold myFlashStoreInit fsRegionLoad
    split
    · rfl
    · split
      · rfl
      · split
        · rfl
        · rfl
  refine ⟨stored.init, ?_, ?_⟩
  · rw [none]
    exact (fsLayout type).recPerSector_pos
  · rw [stagedSlots, none]
    rintro _ ⟨⟩

lemma init_ledger (env mode) (media : (type : FsDataType) → FsMedia (FsRecord type))
    (kind : ScanKind) : ∃ io, ledger kind (myScanInit env mode media) =
      ⟨[], (fsStep (fsLayout kind.type) io (myFlashStoreInit (fsLayout kind.type) (media kind.type)) .rewind).2, none,
        0, 0, 0, false⟩ := by
  obtain ⟨io, rewound⟩ := ledger_rewind env kind (scanBoot media)
  -- there is no scan to stop, and the tables are empty
  have flushed : scanReset env (scanBoot media) = sensorUploadReset env true (rewindScanUpload env (scanBoot media)) := rfl
  have reset := (congrArg (ledger kind) flushed).trans ((ledger_of_view (scanView_reset env true _)).trans rewound)
  refine ⟨io, ?_⟩
  rw [myScanInit_eq]
  rcases setConfig_cases env mode (scanBoot media) with off | started
  · rw [off]
    exact (ledger_rescan _ mode).trans reset
  · rw [started]
    exact (scanStart_ledger env _).trans ((ledger_rescan _ mode).trans reset)

lemma init_sound (env mode) {media : (type : FsDataType) → FsMedia (FsRecord type)}
    (stored : ∀ type, Stored (fsLayout type) (media type)) (kind : ScanKind) :
    Sound (fsLayout kind.type) (snapshot (fsLayout kind.type) (myFlashStoreInit (fsLayout kind.type) (media kind.type)))
      (ledger kind (myScanInit env mode media)) := by
  intro _
  obtain ⟨io, start⟩ := init_ledger env mode media kind
  have tidy := init_tidy (stored kind.type)
  rw [start]
  refine ⟨0, tidy.shrink (tidy.rep.call io .rewind) (List.Sublist.refl _), nofun, ?_, .idle rfl rfl (Multiset.zero_le _)⟩
  simp only [add_zero]
  exact (zero_add _).symm

/-- As long as the kind that is being uploaded is left alone, the flash works and the ring does not overflow, each
record that was pending at boot or was collected is in the table, pending in flash, replaced by one of the same address,
or sent; and only such records are sent. -/
theorem upload_conserves (env : BleEnv) (mode : ScanMode) {media : (type : FsDataType) → FsMedia (FsRecord type)}
    (stored : ∀ type, Stored (fsLayout type) (media type)) {messages : List (BleEnv × BleMsg)}
    (run : Along myScanMsgHandler (fun b received => (∀ call, (received.1.io call).Ok) ∧ Undisturbed b received)
      (myScanInit env mode media) messages) (kind : ScanKind) :
    let b := messages.foldl myScanMsgHandler (myScanInit env mode media)
    let found : Multiset (ScanRecord kind) :=
      snapshot (fsLayout kind.type) (myFlashStoreInit (fsLayout kind.type) (media kind.type))
    .ringFull kind.type ∉ b.log → (∃ done ≤ sentRecords kind b.log, found + collectedRecords kind b.log =
        b.table kind + (snapshot (fsLayout kind.type) (b.store kind.type) : Multiset (ScanRecord kind)) +
          replacedRecords kind b.log + done) ∧
      ∀ record ∈ sentRecords kind b.log, record ∈ found + collectedRecords kind b.log := by
  intro b found fits
  let inv (b : BleState) : Prop := UploadInv (fun type => myFlashStoreInit (fsLayout type) (media type)) b ∧
    Sound (fsLayout kind.type) found (ledger kind b)
  have reached : inv b := by
    refine Along.invariant inv ?_ ⟨UploadInv.init env mode media, init_sound env mode stored kind⟩ run
    intro b received ⟨uploads, sound⟩ ⟨ok, undisturbed⟩
    exact ⟨uploads.handle received, sound.steps (handle_moves kind uploads ok undisturbed)⟩
  obtain ⟨done, accounted⟩ := reached.2 (decide_eq_false fits)
  exact ⟨⟨done, accounted.handed.sent, accounted.balance⟩, accounted.known⟩

end

def secondTag : TagScanResult := { petTag with addr := ⟨0, [7, 8, 9, 10, 11, 12]⟩, timestamp := 8 }

theorem tag_upload_conserved :
    let b := [(BleEnv.ok, BleMsg.tagScanProcess [(7, ⟨.scanRsp, petTag⟩)]), (.ok, .uploadWakeup), (.ok, .uploadTagAndMac),
      (.ok, .tagScanProcess [(8, ⟨.advInd, petTag⟩)]), (.ok, .uploadTagAndMac)].foldl myScanMsgHandler
        (myScanInit .ok .periodCache blankMedia)
    ∃ done ≤ sentRecords .tag b.log, 0 + collectedRecords .tag b.log = 0 + 0 + replacedRecords .tag b.log + done := by
  have ok : ∀ call, (BleEnv.ok.io call).Ok := fun _ => FsIo.ok_ok
  refine (upload_conserves .ok .periodCache (fun _ => .blank rfl) ?_ .tag (by decide +kernel)).1
  refine ⟨⟨ok, ?_, trivial⟩, ⟨ok, trivial⟩, ⟨ok, fun _ _ _ => rfl⟩, ⟨ok, ?_, trivial⟩, ⟨ok, fun _ _ _ => rfl⟩, trivial⟩
  · intro _ _ state
    exact nomatch state
  · intro response
    exact nomatch response

def tagDuringUpload : BleState :=
  [(BleEnv.ok, BleMsg.uploadWakeup), (.ok, .uploadTagAndMac), (.ok, .tagScanProcess [(8, ⟨.scanRsp, secondTag⟩)]),
    (.ok, .uploadTagAndMac)].foldl myScanMsgHandler tagCollected

def flushDuringUpload : BleState :=
  [(BleEnv.ok, BleMsg.uploadWakeup), (.ok, .scanLength), (.ok, .uploadTagAndMac)].foldl myScanMsgHandler tagCollected

/-- The tag collected during the upload is dropped at its end, and after the flush an
empty slot is sent. -/
theorem upload_drops_and_invents :
    (collectedRecords .tag tagDuringUpload.log = {petTag, secondTag} ∧ .ringFull .tag ∉ tagDuringUpload.log ∧
      tagDuringUpload.table .tag = [] ∧ snapshot (fsLayout .tag) (tagDuringUpload.store .tag) = [] ∧
      replacedRecords .tag tagDuringUpload.log = 0 ∧ sentRecords .tag tagDuringUpload.log = {petTag}) ∧
    (collectedRecords .tag flushDuringUpload.log = {petTag} ∧ .ringFull .tag ∉ flushDuringUpload.log ∧
      sentRecords .tag flushDuringUpload.log = {default}) := by
  decide +kernel

variable [Crc32Ieee]

def pushAll (env : BleEnv) (kind : ScanKind) (items : List (ScanRecord kind)) (b : BleState) : BleState :=
  items.foldl (fun b item => (b.flash env kind.type (.push item)).2) b

lemma pushAll_setTable (env kind items table) (b : BleState) :
    pushAll env kind items (b.setTable kind table) = (pushAll env kind items b).setTable kind table :=
  foldl_hom (BleState.setTable kind table) fun _ _ => rfl

lemma pushAll_table (env kind items) (b : BleState) :
    (pushAll env kind items b).table = b.table := by
  induction items generalizing b with
  | nil => rfl
  | cons item items ih => exact ih _

lemma pushIndices_eq (env) (kind : ScanKind) (n : Nat) (b : BleState) (fits : n ≤ (b.table kind).length) :
    (List.range n).foldl (fun b i => (b.flash env kind.type (.push ((b.table kind).getD i default))).2) b =
      pushAll env kind ((b.table kind).take n) b := by
  induction n with
  | zero => rfl
  | succ n ih =>
    have inside : n < (b.table kind).length := fits
    rw [range_succ, foldl_append, foldl_cons, foldl_nil, ih (Nat.le_of_succ_le fits), pushAll_table,
      take_add_one, List.getElem?_eq_getElem inside, pushAll, pushAll, foldl_append,
      getD_eq_getElem?_getD, List.getElem?_eq_getElem inside]
    rfl

lemma tableFlushToFlash_eq (env kind) (b : BleState) : tableFlushToFlash env kind b =
    (pushAll env kind (selectionSort ScanRecord.timestamp (b.table kind)) b).setTable kind [] := by
  rw [tableFlushToFlash]
  split
  · next none =>
    have same : b.setTable kind (b.table kind) = b := by rw [BleState.setTable, update_eq_self]
    rw [length_eq_zero_iff.mp none] at same ⊢
    exact same.symm
  · rfl

/-- The flush by indices is the flush of the sorted list. -/
lemma tableFlushInPlace_eq (env kind b) : tableFlushInPlace env kind b = tableFlushToFlash env kind b := by
  simp only [tableFlushInPlace, sortInPlace_eq]
  split
  · next none => rw [tableFlushToFlash, if_pos none]
  · next some =>
    have length := (selectionSort_perm ScanRecord.timestamp (b.table kind)).length_eq
    have table : (b.setTable kind (selectionSort ScanRecord.timestamp (b.table kind))).table kind =
        selectionSort ScanRecord.timestamp (b.table kind) := update_self ..
    rw [pushIndices_eq env kind _ _ (by rw [table, length]), table, take_of_length_le (Nat.le_of_eq length),
      pushAll_setTable, tableFlushToFlash_eq, BleState.setTable, BleState.setTable, BleState.setTable, update_idem]

/-- A flush makes one push call for each record of the table, in the order of their timestamps, and empties the table.
If nothing fails, the records are then pending behind those that were. -/
theorem flush_in_order (env : BleEnv) (kind : ScanKind) (b : BleState) : ∃ pushed : List (ScanRecord kind),
    pushed.Perm (b.table kind) ∧
      pushed.Pairwise (fun first second => ScanRecord.timestamp first ≤ ScanRecord.timestamp second) ∧
      tableFlushInPlace env kind b = (pushAll env kind pushed b).setTable kind [] ∧
      (tableFlushInPlace env kind b).table kind = [] ∧
      ((∀ call, (env.io call).Ok) → Tidy (fsLayout kind.type) (b.store kind.type) → b.uploadActive kind.type = false →
        .ringFull kind.type ∉ (tableFlushInPlace env kind b).log →
        snapshot (fsLayout kind.type) ((tableFlushInPlace env kind b).store kind.type) =
          snapshot (fsLayout kind.type) (b.store kind.type) ++ pushed) := by
  have same := (tableFlushInPlace_eq env kind b).trans (tableFlushToFlash_eq env kind b)
  refine ⟨_, selectionSort_perm ScanRecord.timestamp _, selectionSort_sorted ScanRecord.timestamp _, same, ?_, ?_⟩
  · rw [same]
    exact Function.update_self ..
  · intro ok tidy closed fits
    obtain ⟨final, full, pushes, pushed⟩ := pushAll_pushes ok (selectionSort ScanRecord.timestamp (b.table kind)) b
    have store : (tableFlushInPlace env kind b).store kind.type = final := by
      rw [same]
      exact congrArg Ledger.store pushed
    have silent : full = false := by
      rw [same] at fits
      exact (congrArg Ledger.ringFull pushed).symm.trans (decide_eq_false fits)
    rw [store]
    exact (pushes.pending tidy closed silent).2.2

end LL320D.BleScan
