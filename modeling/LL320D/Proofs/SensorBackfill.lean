import LL320D.Proofs.ScanSession

/-! The CDATA session that back-fills a sensor region: its packets cut the pending
records into pieces, whatever else the BLE thread handles meanwhile. -/

namespace LL320D.BleScan
open FlashStore Library List BleEvent Collects

/-! Texts of records -/

lemma repr_short {n : Nat} (digits : Nat) (positive : 0 < digits) (bound : n < 10 ^ digits) :
    n.repr.length ≤ digits := Nat.repr_length n digits positive bound

lemma int16_repr_short (x : Int16) : x.toInt.repr.length ≤ 6 := by
  have below := x.toInt_lt
  have above := x.le_toInt
  cases value : x.toInt with
  | ofNat m =>
    rw [value] at below
    have bound : (m : Int) < 2 ^ 15 := below
    exact Nat.le_succ_of_le (repr_short 5 (by decide) (by omega))
  | negSucc m =>
    rw [value] at above
    have digits : (m + 1).repr.length ≤ 5 := repr_short 5 (by decide) (by omega)
    have text : (Int.negSucc m).repr = "-" ++ (m + 1).repr := rfl
    rw [text, String.length_append]
    change 1 + _ ≤ 6
    omega

lemma recordText_length {type} (sensor : type = .th ∨ type = .bp) (record) :
    0 < (sensorCdataRecordText type record).length ∧
    (sensorCdataRecordText type record).length ≤ sensorCdataRecordMaxTextLenGet type := by
  have comma : ",".length = 1 := rfl
  rcases sensor with rfl | rfl
  · obtain ⟨timestamp, temperature, humidity⟩ := record
    have time : timestamp.toNat.repr.length ≤ 10 :=
      repr_short 10 (by decide) (Nat.lt_trans timestamp.toNat_lt (by decide))
    have warm := int16_repr_short temperature
    have wet : humidity.toNat.repr.length ≤ 5 := repr_short 5 (by decide) (Nat.lt_trans humidity.toNat_lt (by decide))
    simp only [sensorCdataRecordText, String.length_append, comma, sensorCdataRecordMaxTextLenGet,
      sensorCdataThRecordMaxTextLen]
    omega
  · obtain ⟨timestamp, pressure⟩ := record
    have time : timestamp.toNat.repr.length ≤ 10 :=
      repr_short 10 (by decide) (Nat.lt_trans timestamp.toNat_lt (by decide))
    have press : pressure.toNat.repr.length ≤ 10 :=
      repr_short 10 (by decide) (Nat.lt_trans pressure.toNat_lt (by decide))
    simp only [sensorCdataRecordText, String.length_append, comma, sensorCdataRecordMaxTextLenGet,
      sensorCdataBpRecordMaxTextLen]
    omega

/-! Filling a packet -/

section

variable {type : FsDataType}

lemma maxRecords_pos (sensor : type = .th ∨ type = .bp) : 0 < sensorCdataMaxRecordsPerPacket type := by
  rcases sensor with rfl | rfl <;> decide

lemma packet_fits (sensor : type = .th ∨ type = .bp) :
    sensorCdataPrefixReservedLen + sensorCdataMaxRecordsPerPacket type * sensorCdataRecordMaxTextLenGet type + 1 ≤
      sensorCdataParamMaxLen := by
  rcases sensor with rfl | rfl <;> decide

lemma text_type (sensor : type = .th ∨ type = .bp) :
    ¬ (sensorCdataMaxRecordsPerPacket type = 0 ∨ sensorCdataRecordMaxTextLenGet type = 0) := by
  rcases sensor with rfl | rfl <;> decide

end

section

variable [Crc32Ieee] {type : FsDataType} {env : BleEnv} {all rest : List (FsRecord type)}

structure Unsent (before after : BleState) : Prop where
  sensorUploadCtx : after.sensorUploadCtx = before.sensorUploadCtx
  uploadState : after.uploadState = before.uploadState
  log : after.log = before.log

variable (sensor : type = .th ∨ type = .bp) {b : BleState}
include sensor

lemma fill_drains (reads : ∀ call, (env.io call).ReadsOk)
    (drains : Drains (fsLayout type) (b.store type) all rest) (room) (records)
    (usedLen) (fits : usedLen + room * sensorCdataRecordMaxTextLenGet type + 1 ≤ sensorCdataParamMaxLen) :
    ∃ newLen after, sensorCdataFill env type room records usedLen b = (some (records ++ rest.take room, newLen), after) ∧
      newLen ≤ usedLen + room * sensorCdataRecordMaxTextLenGet type ∧ Unsent b after ∧
      Drains (fsLayout type) (after.store type) all (rest.drop room) := by
  induction room generalizing b rest records usedLen with
  | zero => exact ⟨usedLen, b, by simp [sensorCdataFill], by simp, ⟨rfl, rfl, rfl⟩, drains⟩
  | succ room ih =>
    rw [Nat.succ_mul] at fits ⊢
    have guard : ¬ sensorCdataParamMaxLen < usedLen + sensorCdataRecordMaxTextLenGet type + 1 := by omega
    obtain ⟨answer, next⟩ := drains.readNext (reads b.flashCalls)
    have unsent : Unsent b (b.flash env type .readNext).2 := ⟨rfl, rfl, flash_log env .readNext (by rintro _ ⟨⟩) b⟩
    rw [← flash_store] at next
    have reply : b.flash env type .readNext = (.read (.of rest.head?), (b.flash env type .readNext).2) :=
      Prod.ext answer rfl
    rw [sensorCdataFill, if_neg guard, reply]
    cases rest with
    | nil => exact ⟨usedLen, _, by simp [FsRead.of], by omega, unsent, next⟩
    | cons data rest =>
      obtain ⟨positive, short⟩ := recordText_length sensor data
      have appended : ¬ ((sensorCdataRecordText type data).length = 0 ∨
          sensorCdataParamMaxLen - usedLen ≤ (sensorCdataRecordText type data).length) := by omega
      simp only [List.head?_cons, FsRead.of, if_neg appended]
      obtain ⟨newLen, after, filled, bound, later, final⟩ := ih next (records ++ [data])
        (usedLen + (sensorCdataRecordText type data).length) (by omega)
      refine ⟨newLen, after, ?_, by omega, ?_, final⟩
      · rw [filled, append_assoc]
        rfl
      · exact ⟨later.sensorUploadCtx.trans unsent.sensorUploadCtx, later.uploadState.trans unsent.uploadState,
          later.log.trans unsent.log⟩

lemma sendNext_fill (reads : ∀ call, (env.io call).ReadsOk) (drains : Drains (fsLayout type) (b.store type) all rest) :
    ∃ newLen after, sensorCdataFill env type (sensorCdataMaxRecordsPerPacket type) [] sensorCdataPrefixReservedLen b =
        (some (rest.take (sensorCdataMaxRecordsPerPacket type), newLen), after) ∧
      newLen ≤ sensorCdataPrefixReservedLen + sensorCdataMaxRecordsPerPacket type * sensorCdataRecordMaxTextLenGet type ∧
      Unsent b after ∧
      Drains (fsLayout type) (after.store type) all (rest.drop (sensorCdataMaxRecordsPerPacket type)) :=
  fill_drains sensor reads drains (sensorCdataMaxRecordsPerPacket type) [] sensorCdataPrefixReservedLen
    (packet_fits sensor)

omit [Crc32Ieee] in
lemma prefix_short {nextSeq : Nat} (numbered : nextSeq < 10 ^ 5) (rest : List (FsRecord type)) :
    (nextSeq.repr ++ "," ++ (rest.take (sensorCdataMaxRecordsPerPacket type)).length.repr).length ≤ 11 := by
  have number := repr_short 5 (by decide) numbered
  have amount : (rest.take (sensorCdataMaxRecordsPerPacket type)).length.repr.length ≤ 5 := by
    refine repr_short 5 (by decide) ?_
    have most : sensorCdataMaxRecordsPerPacket type < 10 ^ 5 := by rcases sensor with rfl | rfl <;> decide
    rw [length_take]
    omega
  have comma : ",".length = 1 := rfl
  rw [String.length_append, String.length_append, comma]
  omega

variable (reads : ∀ call, (env.io call).ReadsOk) {b : BleState}
include reads

lemma sendNext_hands
    (uploads : b.sensorUploadCtx.uploadType = some type) (drains : Drains (fsLayout type) (b.store type) all rest)
    (left : rest ≠ []) (numbered : b.sensorUploadCtx.nextSeq < 10 ^ 5) :
    ∃ after, sensorCdataSendNextPacket env b = sensorCdataHand env type b.sensorUploadCtx.nextSeq
        (rest.take (sensorCdataMaxRecordsPerPacket type)) after ∧ Unsent b after ∧
      Drains (fsLayout type) (after.store type) all (rest.drop (sensorCdataMaxRecordsPerPacket type)) := by
  obtain ⟨newLen, after, filled, bound, unsent, next⟩ := sendNext_fill sensor reads drains
  have fits := packet_fits sensor
  have positive := maxRecords_pos sensor
  have count : (rest.take (sensorCdataMaxRecordsPerPacket type)).length ≠ 0 := by
    have some := length_pos_iff.mpr left
    rw [length_take]
    omega
  have prefixLen := prefix_short sensor numbered rest
  have texts : sensorCdataMaxRecordsPerPacket type * sensorCdataRecordMaxTextLenGet type ≤ 975 := by
    rcases sensor with rfl | rfl <;> decide
  have reserved : ¬ sensorCdataPrefixReservedLen ≤ (b.sensorUploadCtx.nextSeq.repr ++ "," ++
      (rest.take (sensorCdataMaxRecordsPerPacket type)).length.repr).length := by
    change ¬ 24 ≤ _
    omega
  have whole : ¬ sensorCdataParamMaxLen < (b.sensorUploadCtx.nextSeq.repr ++ "," ++
      (rest.take (sensorCdataMaxRecordsPerPacket type)).length.repr).length +
      (newLen - sensorCdataPrefixReservedLen) + 1 := by
    change ¬ 1012 < _
    omega
  have ctx := unsent.sensorUploadCtx
  refine ⟨after, ?_, unsent, next⟩
  simp only [sensorCdataSendNextPacket, uploads, if_neg (text_type sensor), filled, if_neg count, ctx, if_neg reserved,
    if_neg whole]
  rfl

lemma sendNext_drains (sends : env.lteSend = 0) (uploads : b.sensorUploadCtx.uploadType = some type)
    (drains : Drains (fsLayout type) (b.store type) all rest) (left : rest ≠ [])
    (numbered : b.sensorUploadCtx.nextSeq < 10 ^ 5) :
    ∃ after, sensorCdataSendNextPacket env b = (0, after) ∧
      after.sensorUploadCtx = { b.sensorUploadCtx with state := .cdataWaitDataAck } ∧
      after.uploadState = b.uploadState ∧
      Drains (fsLayout type) (after.store type) all (rest.drop (sensorCdataMaxRecordsPerPacket type)) ∧
      after.log = b.log ++ [sent (.cdataData type b.sensorUploadCtx.nextSeq
        (rest.take (sensorCdataMaxRecordsPerPacket type)))] := by
  obtain ⟨after, hands, unsent, next⟩ := sendNext_hands sensor reads uploads drains left numbered
  simp only [hands, sensorCdataHand, BleState.lteSendCommand, sends, if_true]
  exact ⟨_, rfl, by rw [unsent.sensorUploadCtx], unsent.uploadState, next, by rw [unsent.log]⟩

lemma sendNext_empty
    (uploads : b.sensorUploadCtx.uploadType = some type) (drains : Drains (fsLayout type) (b.store type) all []) :
    ∃ after, sensorCdataSendNextPacket env b = (-einval, after) ∧ Unsent b after := by
  obtain ⟨newLen, after, filled, _, unsent, _⟩ := sendNext_fill sensor reads drains
  refine ⟨after, ?_, unsent⟩
  simp only [sensorCdataSendNextPacket, uploads, if_neg (text_type sensor), filled, take_nil, length_nil, if_true]

end

/-! What may happen between two replies -/

/-- A message that may fall into a session: its packet is sent, its flash reads succeed,
and it neither reconfigures nor clears the scan module. -/
def BackfillMsg (received : BleEnv × BleMsg) : Prop := received.1.lteSend = 0 ∧ (∀ call, (received.1.io call).ReadsOk) ∧
  match received.2 with
  | .setConfig _ => False
  | .clearTagMacinfo => False
  | _ => True

def isCdataReply (received : BleEnv × BleMsg) : Bool :=
  match received.2 with
  | .sensorLteAck .cdata => true
  | _ => false

section

variable [Crc32Ieee] {b : BleState}

lemma handleAck_cdata (cdata : b.sensorUploadCtx.state.isCdata = true) (env) {rsp}
    (other : rsp ≠ .cdata) : sensorHandleLteAck env rsp b = b := by
  cases rsp with
  | cdata => exact absurd rfl other
  | th | bp =>
    refine if_neg fun waiting => ?_
    rw [waiting] at cdata
    exact nomatch cdata
  | _ => rfl

lemma cdata_collects {received : BleEnv × BleMsg} (cdata : b.sensorUploadCtx.state.isCdata = true) (idle : b.uploadState = .idle)
    (allowed : BackfillMsg received) (other : isCdataReply received = false) :
    Collects received.1 b (myScanMsgHandler b received) := by
  have busy : b.sensorUploadCtx.state ≠ .idle := by
    intro free
    rw [free] at cdata
    cases cdata
  obtain ⟨env, msg⟩ := received
  have stopped := scanStop env b
  have unmoved : tagMacScanUploadData env (scanStopInternal env b) = scanStopInternal env b := by
    apply uploadData_busy
    · rw [stopped.sensorUploadCtx]
      exact busy
    · exact stopped.uploadState.trans idle
  cases msg with
  | tagScanProcess drained => exact foldl (tagHandle env) b drained
  | tranMacProcess drained => exact foldl (macHandle env) b drained
  | scanInterval =>
    simp only [myScanMsgHandler]
    split
    · next due =>
      have free : b.scanState = .idle := by simpa using (Bool.and_eq_true_iff.mp due).2
      exact scanStart env (by rw [free]; rintro ⟨⟩)
    · exact .refl b
  | scanLength => exact flushAll env b
  | scanUpload =>
    simp only [myScanMsgHandler, scanTriggerUpload, unmoved]
    split
    · split
      · exact .refl b
      · next free =>
        split
        · exact { stopped with waiting := fun waiting => absurd waiting free }
        · exact stopped
    · exact .refl b
  | uploadWakeup =>
    have woken : Collects env b (uploadOnWakeup env b) := by
      simp only [uploadOnWakeup, unmoved, ite_self]
      split
      · exact stopped
      · exact .refl b
    have still : (uploadOnWakeup env b).sensorUploadCtx.state ≠ .idle := by
      rw [woken.sensorUploadCtx]
      exact busy
    simp only [myScanMsgHandler, tryStart_busy (.inl still)]
    exact woken
  | sensorThSample record => exact processSample_busy (.inl busy) env .th _ record
  | sensorBpSample record => exact processSample_busy (.inl busy) env .bp _ record
  | sensorLteAck rsp =>
    have different : rsp ≠ .cdata := by
      rintro rfl
      cases other
    simp only [myScanMsgHandler, handleAck_cdata cdata env different]
    exact .refl b
  | uploadTagAndMac =>
    simp only [myScanMsgHandler, uploadData_busy busy idle]
    exact .refl b
  | setConfig | clearTagMacinfo => exact allowed.2.2.elim

lemma FsPushes.drains {env : BleEnv} (reads : ∀ call, (env.io call).ReadsOk) {type}
    {s final} {all rest} (pushes : FsPushes env type s final)
    (drains : Drains (fsLayout type) s all rest) : Drains (fsLayout type) final all rest := by
  induction pushes with
  | refl => exact drains
  | tail _ pushed kept =>
    obtain ⟨call, data, rfl⟩ := pushed
    exact kept.push (reads call) data

end

/-! The session -/

section

variable [Crc32Ieee] {type : FsDataType} {all : List (FsRecord type)} {total n : Nat} {b : BleState} {env : BleEnv}

/-- What `sensor_cdata_send_next_packet` returns while a CDATA reply is handled, if it
is called. -/
def cdataSendResult (env : BleEnv) (b : BleState) : Option Int :=
  match b.sensorUploadCtx.state with
  | .cdataWaitStartAck => some (sensorCdataSendNextPacket env b).1
  | .cdataWaitDataAck =>
    if b.sensorUploadCtx.nextSeq < b.sensorUploadCtx.totalPackets then
      some (sensorCdataSendNextPacket env
        { b with sensorUploadCtx := { b.sensorUploadCtx with nextSeq := b.sensorUploadCtx.nextSeq + 1 } }).1
    else none
  | _ => none

def CdataSendOk (b : BleState) (received : BleEnv × BleMsg) : Prop :=
  isCdataReply received = true → ∀ ret ∈ cdataSendResult received.1 b, ret = 0

/-- After the START packet and `n` data packets of a session over the records `all`. -/
structure Backfilling (type : FsDataType) (all : List (FsRecord type)) (total n : Nat) (b : BleState) : Prop where
  sensorUploadCtx : b.sensorUploadCtx =
    ⟨if n = 0 then .cdataWaitStartAck else .cdataWaitDataAck, some type, total, max n 1⟩
  uploadState : b.uploadState = .idle
  drains : Drains (fsLayout type) (b.store type) all (all.drop (n * sensorCdataMaxRecordsPerPacket type))

structure BackfillSent (type : FsDataType) (all : List (FsRecord type)) (b : BleState) : Prop where
  state : b.sensorUploadCtx.state = .cdataWaitEndAck
  uploadType : b.sensorUploadCtx.uploadType = some type
  uploadState : b.uploadState = .idle
  drains : Drains (fsLayout type) (b.store type) all []

/-- The data packet with index `i`. -/
def cdataChunk (type : FsDataType) (all : List (FsRecord type)) (i : Nat) : List (FsRecord type) :=
  (all.drop (i * sensorCdataMaxRecordsPerPacket type)).take (sensorCdataMaxRecordsPerPacket type)

def cdataPackets (type : FsDataType) (chunks : List (List (FsRecord type))) : List LtePacket :=
  chunks.mapIdx (fun i chunk => .cdataData type (i + 1) chunk) ++ [.cdataEnd]

omit [Crc32Ieee] in
lemma cdataChunk_flatten (total) : ((List.range total).map (cdataChunk type all)).flatten =
    all.take (total * sensorCdataMaxRecordsPerPacket type) := by
  induction total with
  | zero => simp
  | succ total ih =>
    rw [range_succ, map_append, flatten_append, ih, Nat.succ_mul, take_add]
    simp [cdataChunk]

section

variable (backfilling : Backfilling type all total n b)
include backfilling

lemma Backfilling.numbered (bound : n < total) (env : BleEnv) :
    ∃ numbered : BleState, numbered.sensorUploadCtx = { b.sensorUploadCtx with nextSeq := n + 1 } ∧
      numbered.store = b.store ∧ numbered.uploadState = b.uploadState ∧ numbered.log = b.log ∧
      cdataSendResult env b = some (sensorCdataSendNextPacket env numbered).1 ∧
      sensorHandleLteAck env .cdata b = sensorCdataContinue env numbered := by
  have ctx := backfilling.sensorUploadCtx
  cases n with
  | zero =>
    have state : b.sensorUploadCtx.state = .cdataWaitStartAck := by rw [ctx]; rfl
    refine ⟨b, by rw [ctx]; rfl, rfl, rfl, rfl, ?_, ?_⟩
    · simp only [cdataSendResult, state]
    · simp only [sensorHandleLteAck, state]
  | succ n =>
    have state : b.sensorUploadCtx.state = .cdataWaitDataAck := by rw [ctx]; rfl
    have seq : b.sensorUploadCtx.nextSeq = n + 1 := by rw [ctx]; simp
    have more : b.sensorUploadCtx.nextSeq < b.sensorUploadCtx.totalPackets := by rw [seq, ctx]; exact bound
    refine ⟨{ b with sensorUploadCtx := { b.sensorUploadCtx with nextSeq := b.sensorUploadCtx.nextSeq + 1 } },
      by rw [seq], rfl, rfl, rfl, ?_, ?_⟩
    · simp only [cdataSendResult, state, if_pos more]
    · simp only [sensorHandleLteAck, state, if_pos more]

lemma Backfilling.send {env : BleEnv} (sensor : type = .th ∨ type = .bp)
    (bound : n < total) (short : total < 10 ^ 5) (reads : ∀ call, (env.io call).ReadsOk)
    (sends : env.lteSend = 0) (left : all.drop (n * sensorCdataMaxRecordsPerPacket type) ≠ []) :
    cdataSendResult env b = some 0 ∧ Backfilling type all total (n + 1) (sensorHandleLteAck env .cdata b) ∧
      (sensorHandleLteAck env .cdata b).log = b.log ++ [sent (.cdataData type (n + 1) (cdataChunk type all n))] := by
  obtain ⟨numbered, ctx, store, uploadState, log, result, handled⟩ := backfilling.numbered bound env
  have uploads : numbered.sensorUploadCtx.uploadType = some type := by rw [ctx, backfilling.sensorUploadCtx]
  have seq : numbered.sensorUploadCtx.nextSeq = n + 1 := by rw [ctx]
  have drains : Drains (fsLayout type) (numbered.store type) all
      (all.drop (n * sensorCdataMaxRecordsPerPacket type)) := by
    rw [store]
    exact backfilling.drains
  obtain ⟨after, sent, moved, kept, rest, logged⟩ := sendNext_drains sensor reads sends uploads drains left (by omega)
  have same : sensorHandleLteAck env .cdata b = after := by
    rw [handled]
    simp only [sensorCdataContinue, sent]
    rfl
  rw [same, result, sent]
  refine ⟨rfl, ⟨?_, kept.trans (uploadState.trans backfilling.uploadState), ?_⟩, ?_⟩
  · rw [moved, ctx, backfilling.sensorUploadCtx]
    simp
  · rw [Nat.succ_mul, ← drop_drop]
    exact rest
  · rw [logged, log, seq]
    rfl

lemma Backfilling.stuck {env : BleEnv} (sensor : type = .th ∨ type = .bp)
    (bound : n < total) (reads : ∀ call, (env.io call).ReadsOk)
    (left : all.drop (n * sensorCdataMaxRecordsPerPacket type) = []) : cdataSendResult env b = some (-einval) := by
  obtain ⟨numbered, ctx, store, _, _, result, _⟩ := backfilling.numbered bound env
  have uploads : numbered.sensorUploadCtx.uploadType = some type := by rw [ctx, backfilling.sensorUploadCtx]
  have drains : Drains (fsLayout type) (numbered.store type) all [] := by
    rw [store, ← left]
    exact backfilling.drains
  obtain ⟨after, failed, _⟩ := sendNext_empty sensor reads uploads drains
  rw [result, failed]

end

lemma Backfilling.finish (backfilling : Backfilling type all total total b) (some : 0 < total)
    (sends : env.lteSend = 0) (left : all.drop (total * sensorCdataMaxRecordsPerPacket type) = []) :
    cdataSendResult env b = none ∧ BackfillSent type all (sensorHandleLteAck env .cdata b) ∧
      (sensorHandleLteAck env .cdata b).log = b.log ++ [sent .cdataEnd] := by
  have ctx := backfilling.sensorUploadCtx
  have state : b.sensorUploadCtx.state = .cdataWaitDataAck := by rw [ctx]; exact if_neg (by omega)
  have last : ¬ b.sensorUploadCtx.nextSeq < b.sensorUploadCtx.totalPackets := by rw [ctx]; simp
  have uploads : b.sensorUploadCtx.uploadType = Option.some type := by rw [ctx]
  have drains := backfilling.drains
  rw [left] at drains
  simp only [cdataSendResult, sensorHandleLteAck, state, if_neg last, BleState.lteSendCommand, sends, if_true, ne_eq,
    not_true_eq_false, if_false]
  exact ⟨trivial, ⟨rfl, uploads, backfilling.uploadState, drains⟩, trivial⟩

def BackfillProgress (type : FsDataType) (all : List (FsRecord type)) (total n : Nat) (b : BleState) : Prop :=
  (n ≤ total ∧ Backfilling type all total n b) ∨ (n = total + 1 ∧ BackfillSent type all b)

omit [Crc32Ieee] in
lemma Backfilling.cdata (backfilling : Backfilling type all total n b) : b.sensorUploadCtx.state.isCdata = true := by
  rw [backfilling.sensorUploadCtx]
  cases n with
  | zero | succ => rfl

omit [Crc32Ieee] in
lemma BackfillSent.cdata (sent : BackfillSent type all b) : b.sensorUploadCtx.state.isCdata = true := by
  rw [sent.state]
  rfl

lemma Backfilling.collects (backfilling : Backfilling type all total n b)
    (reads : ∀ call, (env.io call).ReadsOk) {after} (collects : Collects env b after) :
    Backfilling type all total n after := by
  refine ⟨?_, collects.uploadState.trans backfilling.uploadState, (collects.pushes type).drains reads backfilling.drains⟩
  rw [collects.sensorUploadCtx]
  exact backfilling.sensorUploadCtx

lemma BackfillSent.collects (sent : BackfillSent type all b) (reads : ∀ call, (env.io call).ReadsOk)
    {after} (collects : Collects env b after) : BackfillSent type all after := by
  refine ⟨?_, ?_, collects.uploadState.trans sent.uploadState, (collects.pushes type).drains reads sent.drains⟩
  · rw [collects.sensorUploadCtx]
    exact sent.state
  · rw [collects.sensorUploadCtx]
    exact sent.uploadType

omit [Crc32Ieee] in
lemma isCdataReply_msg {received : BleEnv × BleMsg} (reply : isCdataReply received = true) :
    received = (received.1, .sensorLteAck .cdata) := by
  obtain ⟨env, msg⟩ := received
  cases msg with
  | sensorLteAck rsp =>
    cases rsp with
    | cdata => rfl
    | _ => exact nomatch reply
  | _ => exact nomatch reply

omit [Crc32Ieee] in
lemma sentPackets_sent {first second : BleState} {packet} (log : second.log = first.log ++ [sent packet]) :
    sentPackets second.log = sentPackets first.log ++ [packet] := by
  rw [log, sentPackets_append]
  rfl

lemma backfill_plays (sensor : type = .th ∨ type = .bp) (some : 0 < total) (short : total < 10 ^ 5)
    (filled : ∀ n < total, all.drop (n * sensorCdataMaxRecordsPerPacket type) ≠ [])
    (covered : all.drop (total * sensorCdataMaxRecordsPerPacket type) = []) :
    Plays myScanMsgHandler CdataSendOk BackfillMsg isCdataReply (BackfillProgress type all total)
      (fun b => sentPackets b.log) (cdataPackets type ((List.range total).map (cdataChunk type all))) := by
  constructor
  · intro n b received left progress allowed reply
    have length : n < total + 1 := by simpa [cdataPackets] using left
    have backfilling : Backfilling type all total n b := by
      rcases progress with ⟨_, backfilling⟩ | ⟨ended, _⟩
      · exact backfilling
      · omega
    rw [isCdataReply_msg reply]
    by_cases data : n < total
    · obtain ⟨result, next, logged⟩ := backfilling.send sensor data short allowed.2.1 allowed.1 (filled n data)
      refine ⟨fun _ ret member => ?_, .inl ⟨data, next⟩, ?_⟩
      · rw [result] at member
        exact (Option.some.inj member).symm
      · have packet : (cdataPackets type ((List.range total).map (cdataChunk type all)))[n] =
            .cdataData type (n + 1) (cdataChunk type all n) := by simp [cdataPackets, data]
        rw [packet]
        exact sentPackets_sent logged
    · obtain rfl : n = total := by omega
      obtain ⟨result, next, logged⟩ := backfilling.finish some allowed.1 covered
      refine ⟨fun _ ret member => ?_, .inr ⟨rfl, next⟩, ?_⟩
      · rw [result] at member
        exact nomatch member
      · have packet : (cdataPackets type ((List.range n).map (cdataChunk type all)))[n] = .cdataEnd := by
          simp [cdataPackets]
        rw [packet]
        exact sentPackets_sent logged
  · intro n b received progress allowed other
    have reads := allowed.2.1
    have guard : CdataSendOk b received := fun reply => absurd (other.symm.trans reply) Bool.false_ne_true
    rcases progress with ⟨bound, backfilling⟩ | ⟨ended, sent⟩
    · have collects := cdata_collects backfilling.cdata backfilling.uploadState allowed other
      exact ⟨guard, .inl ⟨bound, backfilling.collects reads collects⟩, collects.packets⟩
    · have collects := cdata_collects sent.cdata sent.uploadState allowed other
      exact ⟨guard, .inr ⟨ended, sent.collects reads collects⟩, collects.packets⟩

lemma Backfilling.filled (backfilling : Backfilling type all total n b) (sensor : type = .th ∨ type = .bp)
    (short : total < 10 ^ 5) {session : List (BleEnv × BleMsg)} (allowed : ∀ received ∈ session, BackfillMsg received)
    (sends : Along myScanMsgHandler CdataSendOk b session) (replies : total ≤ n + session.countP isCdataReply) {m : Nat}
    (begun : n ≤ m) (bound : m < total) : all.drop (m * sensorCdataMaxRecordsPerPacket type) ≠ [] := by
  induction session generalizing n b with
  | nil =>
    rw [countP_nil] at replies
    omega
  | cons received session ih =>
    have here := allowed received mem_cons_self
    have later : ∀ received ∈ session, BackfillMsg received := fun _ member => allowed _ (mem_cons_of_mem _ member)
    cases reply : isCdataReply received with
    | true =>
      rw [countP_cons_of_pos reply] at replies
      have data : n < total := by omega
      have left : all.drop (n * sensorCdataMaxRecordsPerPacket type) ≠ [] := by
        intro none
        have failed := sends.1 reply (-einval) (backfilling.stuck sensor data here.2.1 none)
        exact absurd failed (by decide)
      obtain ⟨_, next, _⟩ := backfilling.send sensor data short here.2.1 here.1 left
      by_cases first : m = n
      · rw [first]
        exact left
      · refine ih next later ?_ (by omega) (by omega)
        have rest := sends.2
        rw [isCdataReply_msg reply] at rest
        exact rest
    | false =>
      rw [countP_cons_of_neg (by rw [reply]; exact Bool.false_ne_true)] at replies
      have collects := cdata_collects backfilling.cdata backfilling.uploadState here reply
      exact ih (backfilling.collects here.2.1 collects) later sends.2 replies begun

end

/-! Start and end of a session -/

section

variable [Crc32Ieee] {b : BleState}

lemma reset_log (env rewind) (b : BleState) : (sensorUploadReset env rewind b).log = b.log := by
  unfold sensorUploadReset
  split
  · split
    · exact flash_log env .rewind nofun b
    · rfl
  · split
    · exact flash_log env .rewind nofun b
    · rfl
  · rfl

lemma flash_snapshot (env type other) (b : BleState) :
    snapshot (fsLayout other) ((b.flash env type .uploadBegin).2.store other) =
      snapshot (fsLayout other) (b.store other) ∧
    snapshot (fsLayout other) ((b.flash env type .rewind).2.store other) = snapshot (fsLayout other) (b.store other) := by
  by_cases same : other = type
  · subst same
    rw [flash_store, flash_store]
    exact ⟨rfl, rfl⟩
  · rw [flash_store_other env same, flash_store_other env same]
    exact ⟨rfl, rfl⟩

lemma reset_snapshot (env rewind other) (b : BleState) :
    snapshot (fsLayout other) ((sensorUploadReset env rewind b).store other) =
      snapshot (fsLayout other) (b.store other) := by
  unfold sensorUploadReset
  split
  · split
    · exact (flash_snapshot env .th other b).2
    · rfl
  · split
    · exact (flash_snapshot env .bp other b).2
    · rfl
  · rfl

lemma tryStart_cases (env : BleEnv) (b : BleState) :
    (∀ other, snapshot (fsLayout other) ((sensorCachedUploadTryStart env b).store other) =
      snapshot (fsLayout other) (b.store other)) ∧
    ((sensorCachedUploadTryStart env b).log = b.log ∨
      ∃ type, sensorCachedUploadType b = some type ∧ b.uploadState = .idle ∧
        (sensorCachedUploadTryStart env b).log = b.log ++ [sent (.cdataStart type (sensorCdataTotalPackets type b))] ∧
        (sensorCachedUploadTryStart env b).uploadState = .idle ∧
        (sensorCachedUploadTryStart env b).sensorUploadCtx =
          ⟨.cdataWaitStartAck, some type, sensorCdataTotalPackets type b, 1⟩ ∧
        (sensorCachedUploadTryStart env b).store type =
          (fsStep (fsLayout type) (env.io b.flashCalls) (b.store type) .uploadBegin).2) := by
  unfold sensorCachedUploadTryStart
  split
  · exact ⟨fun _ => rfl, .inl rfl⟩
  · next free =>
    have idle : b.uploadState = .idle := by
      simp only [Bool.or_eq_true, decide_eq_true_eq, not_or, not_not] at free
      exact free.2
    split
    · exact ⟨fun _ => rfl, .inl rfl⟩
    · next type found =>
      split
      · exact ⟨fun _ => rfl, .inl rfl⟩
      · split
        · exact ⟨fun _ => rfl, .inl rfl⟩
        · have begun : ∀ other, _ := fun other => (flash_snapshot env type other b).1
          have log : (b.flash env type .uploadBegin).2.log = b.log := flash_log env .uploadBegin nofun b
          by_cases sends : env.lteSend = 0
          · simp only [BleState.lteSendCommand, sends, ne_eq, not_true_eq_false, if_false, if_true]
            exact ⟨begun, .inr ⟨type, found, idle, by rw [log], idle, rfl, flash_store env type .uploadBegin b⟩⟩
          · simp only [BleState.lteSendCommand, sends, ne_eq, not_false_eq_true, if_false, if_true, append_nil]
            refine ⟨fun other => (reset_snapshot env true other _).trans (begun other), .inl ?_⟩
            exact (reset_log env true _).trans log

lemma tryStart_begun {env} {type} {total : Nat} (rep : RepInv (fsLayout type) (b.store type).rg)
    (started : sentPackets (sensorCachedUploadTryStart env b).log = sentPackets b.log ++ [LtePacket.cdataStart type total]) :
    sensorCachedUploadType b = some type ∧ total = sensorCdataTotalPackets type b ∧
      Backfilling type (snapshot (fsLayout type) (b.store type)) total 0 (sensorCachedUploadTryStart env b) := by
  rcases (tryStart_cases env b).2 with same | ⟨found, cached, _, logged, uploadState, ctx, store⟩
  · rw [same] at started
    exact absurd started (by simp)
  · have packet := append_cancel_left ((sentPackets_sent logged).symm.trans started)
    obtain ⟨rfl, rfl⟩ := LtePacket.cdataStart.inj (singleton_inj.mp packet)
    refine ⟨cached, rfl, ctx, uploadState, ?_⟩
    rw [store, Nat.zero_mul, drop_zero]
    exact Drains.begin rep _

lemma BackfillSent.reply {type} {all} (sent : BackfillSent type all b) (env : BleEnv) :
    let closed := myScanMsgHandler b (env, .sensorLteAck .cdata)
    b.log ++ [BleEvent.committed type] <+: closed.log ∧ ∃ newer, snapshot (fsLayout type) (b.store type) = all ++ newer ∧
      snapshot (fsLayout type) (closed.store type) = newer := by
  obtain ⟨newer, before, after⟩ := sent.drains.commit (env.io b.flashCalls)
  let committed := (b.flash env type .commit).2.emit (.committed type)
  have handled : myScanMsgHandler b (env, .sensorLteAck .cdata) = sensorUploadDone env committed := by
    simp only [myScanMsgHandler, sensorHandleLteAck, sent.state, sent.uploadType]
    rfl
  have log : (sensorUploadReset env false committed).log = b.log ++ [BleEvent.committed type] := by
    rw [reset_log]
    exact congrArg (· ++ _) (flash_log env .commit (by rintro _ ⟨⟩) b)
  obtain ⟨kept, logged⟩ := tryStart_cases env (sensorUploadReset env false committed)
  rw [handled]
  refine ⟨?_, newer, before, ?_⟩
  · rw [sensorUploadDone, ← log]
    rcases logged with same | ⟨_, _, _, more, _⟩
    · exact same ▸ prefix_rfl
    · rw [more]
      exact prefix_append ..
  · rw [sensorUploadDone, kept, reset_snapshot, ← after]
    exact congrArg (snapshot _) (flash_store env type .commit b)

end

/-- A session that began with START,`total` came to its end: `total` data packets carried the records, END followed, and
the reply to it removed exactly these records. -/
structure Completed [Crc32Ieee] (type : FsDataType) (total : Nat) (records : List (FsRecord type)) (begun : BleState)
    (session : List (BleEnv × BleMsg)) (last : BleEnv) : Prop where
  sends : Along myScanMsgHandler CdataSendOk begun session
  packets : ∃ chunks : List (List (FsRecord type)), chunks.length = total ∧ chunks.flatten = records ∧
    sentPackets (session.foldl myScanMsgHandler begun).log = sentPackets begun.log ++ cdataPackets type chunks
  committed :
    let finished := session.foldl myScanMsgHandler begun
    let closed := myScanMsgHandler finished (last, .sensorLteAck .cdata)
    finished.log ++ [.committed type] <+: closed.log ∧ ∃ newer,
      snapshot (fsLayout type) (finished.store type) = records ++ newer ∧
      snapshot (fsLayout type) (closed.store type) = newer

lemma totalPackets_bounds {b : BleState} {type} (rep : RepInv (fsLayout type) (b.store type).rg)
    (cached : sensorCachedUploadType b = some type) :
    0 < sensorCdataTotalPackets type b ∧ sensorCdataTotalPackets type b < 10 ^ 5 := by
  have sensor := sensorCachedUploadType_sensor cached
  have pending : 0 < b.pendingCount type := by
    unfold sensorCachedUploadType at cached
    split at cached
    · next some =>
      rw [← Option.some.inj cached]
      exact some
    · split at cached
      · next some =>
        rw [← Option.some.inj cached]
        exact some
      · exact nomatch cached
  have most : b.pendingCount type ≤ 4760 := by
    have total := rep.flashTotal
    have sectors := rep.validSectors
    have staging := rep.stagingCount
    unfold BleState.pendingCount myFlashStorePendingCount
    rcases sensor with rfl | rfl
    · change _ ≤ 12 at sectors
      change _ ≤ 340 at staging
      change _ = _ * 340 - _ at total
      omega
    · change _ ≤ 13 at sectors
      change _ ≤ 340 at staging
      change _ = _ * 340 - _ at total
      omega
  unfold sensorCdataTotalPackets
  rcases sensor with rfl | rfl
  · change 0 < (_ + 39 - 1) / 39 ∧ (_ + 39 - 1) / 39 < 10 ^ 5
    omega
  · change 0 < (_ + 44 - 1) / 44 ∧ (_ + 44 - 1) / 44 < 10 ^ 5
    omega

lemma packets_filled_iff {type} (sensor : type = .th ∨ type = .bp) {total length : Nat}
    (positive : 0 < total) :
    (length + sensorCdataMaxRecordsPerPacket type - 1) / sensorCdataMaxRecordsPerPacket type = total ↔
      (∀ n < total, n * sensorCdataMaxRecordsPerPacket type < length) ∧
        length ≤ total * sensorCdataMaxRecordsPerPacket type := by
  have size : sensorCdataMaxRecordsPerPacket type = 39 ∨ sensorCdataMaxRecordsPerPacket type = 44 := by
    rcases sensor with rfl | rfl
    · exact .inl rfl
    · exact .inr rfl
  constructor
  · intro exact
    refine ⟨fun n below => ?_, ?_⟩ <;> rcases size with size | size <;> rw [size] at exact ⊢ <;> omega
  · rintro ⟨filled, covered⟩
    have last := filled (total - 1) (by omega)
    rcases size with size | size <;> rw [size] at last covered ⊢ <;> omega

/-- A back-fill session whose packets are all answered completes exactly when the valid
records fill as many packets as the pending count, bad slots included, announced. -/
theorem backfill_completes_iff [Crc32Ieee] {type : FsDataType} {total : Nat} {env : BleEnv} {b : BleState}
    (rep : RepInv (fsLayout type) (b.store type).rg)
    (started : sentPackets (sensorCachedUploadTryStart env b).log = sentPackets b.log ++ [.cdataStart type total])
    {session : List (BleEnv × BleMsg)} (allowed : ∀ received ∈ session, BackfillMsg received)
    (replies : session.countP isCdataReply = total + 1) (last : BleEnv) :
    Completed type total (snapshot (fsLayout type) (b.store type)) (sensorCachedUploadTryStart env b) session last ↔
      (b.pendingCount type - badSlots (fsLayout type) (b.store type) + sensorCdataMaxRecordsPerPacket type - 1) /
        sensorCdataMaxRecordsPerPacket type = total := by
  obtain ⟨cached, announced, begun⟩ := tryStart_begun rep started
  have sensor := sensorCachedUploadType_sensor cached
  obtain ⟨positive, short⟩ : 0 < total ∧ total < 10 ^ 5 := by
    rw [announced]
    exact totalPackets_bounds rep cached
  have pending := snapshot_length rep.toRingInv
  have length : b.pendingCount type - badSlots (fsLayout type) (b.store type) =
      (snapshot (fsLayout type) (b.store type)).length := by
    unfold BleState.pendingCount
    omega
  have fewer : (snapshot (fsLayout type) (b.store type)).length ≤ b.pendingCount type := by
    unfold BleState.pendingCount
    omega
  rw [length, packets_filled_iff sensor positive]
  constructor
  · intro completed
    refine ⟨fun n below => ?_, ?_⟩
    · have left := begun.filled sensor short allowed completed.sends (by omega) (Nat.zero_le n) below
      exact Nat.lt_of_not_le fun passed => left (drop_eq_nil_of_le passed)
    · have room : b.pendingCount type ≤ total * sensorCdataMaxRecordsPerPacket type := by
        rw [announced, sensorCdataTotalPackets]
        rcases sensor with rfl | rfl
        · change _ ≤ (_ + 39 - 1) / 39 * 39
          omega
        · change _ ≤ (_ + 44 - 1) / 44 * 44
          omega
      exact Nat.le_trans fewer room
  · rintro ⟨filled, covered⟩
    have covers := drop_eq_nil_of_le covered
    have plays := backfill_plays sensor positive short
      (fun n below => ne_nil_of_length_pos (by rw [length_drop]; exact Nat.sub_pos_of_lt (filled n below))) covers
    have whole : (cdataPackets type ((List.range total).map (cdataChunk type (snapshot (fsLayout type)
        (b.store type))))).length = total + 1 := by simp [cdataPackets]
    obtain ⟨sends, progress, packets⟩ := plays.run (.inl ⟨Nat.zero_le _, begun⟩) allowed
      (by rw [replies, whole, Nat.zero_add])
    rw [replies, drop_zero, take_of_length_le (Nat.le_of_eq whole)] at packets
    have sent : BackfillSent type (snapshot (fsLayout type) (b.store type))
        (session.foldl myScanMsgHandler (sensorCachedUploadTryStart env b)) := by
      rcases progress with ⟨early, _⟩ | ⟨_, sent⟩
      · omega
      · exact sent
    refine ⟨sends, ⟨_, by simp, ?_, packets⟩, sent.reply last⟩
    rw [cdataChunk_flatten, take_of_length_le covered]

def lostSector : (type : FsDataType) → FsMedia (FsRecord type)
  | .th => { blankMedia .th with zms := some (fsMetaOf { (myFlashStoreInit (fsLayout .th) (blankMedia .th)).rg with
      wrSector := 1, validSectors := 1, rdRecIdx := 339, seqCounter := 1 }) }
  | type => blankMedia type

/-- START announces one packet for the bad slot; the reply to it ends the session with
`-EINVAL`, no data packet and no END are sent, and the slot stays pending. -/
theorem bad_slot_stops_backfill :
    let begun := myScanMsgHandler (myScanInit .ok .periodCache lostSector) (.ok, .uploadWakeup)
    let finished := [(.ok, .sensorLteAck .cdata), (.ok, .sensorLteAck .cdata)].foldl myScanMsgHandler begun
    sentPackets begun.log = [.cdataStart .th 1] ∧ cdataSendResult .ok begun = some (-einval) ∧
      finished.log = begun.log ∧ finished.sensorUploadCtx.state = .idle ∧ finished.pendingCount .th = 1 := by
  decide +kernel

def sampleKept : BleState := myScanMsgHandler (myScanInit .ok .periodCache blankMedia)
    ({ BleEnv.ok with lteReady := false }, .sensorBpSample ⟨9, 101325⟩)

lemma sampleKept_reachable : Reachable sampleKept := ⟨.ok, .periodCache, blankMedia, [_], fun _ => .blank rfl, rfl⟩

theorem one_sample_backfill : Completed .bp 1 [⟨9, 101325⟩] (sensorCachedUploadTryStart .ok sampleKept)
    [(.ok, .sensorLteAck .cdata), (.ok, .sensorThSample ⟨10, 215, 480⟩), (.ok, .sensorLteAck .cdata)] .ok := by
  obtain ⟨_, _, rep⟩ := sampleKept_reachable.inv
  refine (backfill_completes_iff (rep .bp) rfl ?_ rfl .ok).mpr rfl
  have ok := FsIo.ok_ok.flashRead
  exact forall_mem_cons.mpr ⟨⟨rfl, fun _ => ok, trivial⟩, by simp [BackfillMsg, BleEnv.ok, ok]⟩

end LL320D.BleScan
