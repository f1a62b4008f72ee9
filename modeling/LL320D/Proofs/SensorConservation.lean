import LL320D.Proofs.Acknowledgement
import LL320D.Proofs.SensorBackfill
import LL320D.Proofs.UploadConservation

/-! Where the sensor samples are: pending in their flash region, in the packet whose reply is awaited, or acknowledged.
-/

namespace LL320D.BleScan
open FlashStore Library List

variable {msg : BleMsg} {after : BleState} {own up : FsDataType} {b : BleState}

/-! Samples in packets -/

def LtePacket.sampleOf (type : FsDataType) : LtePacket → Option (FsRecord type)
  | .sample other record => if same : other = type then some (same ▸ record) else none
  | _ => none

def lastSample (type : FsDataType) (packets : List LtePacket) : Option (FsRecord type) :=
  (packets.filterMap (LtePacket.sampleOf type)).getLast?

def LtePacket.backfill (type : FsDataType) (sent : List (FsRecord type)) : LtePacket → List (FsRecord type)
  | .cdataStart .. => []
  | .cdataData other _ records => if same : other = type then sent ++ same ▸ records else sent
  | _ => sent

def backfilled (type : FsDataType) (packets : List LtePacket) : List (FsRecord type) :=
  packets.foldl (LtePacket.backfill type) []

section

variable {type : FsDataType}

lemma lastSample_sent (packets : List LtePacket) (record) :
    lastSample type (packets ++ [LtePacket.sample type record]) = some record := by
  simp [lastSample, LtePacket.sampleOf]

lemma backfilled_concat (packets packet) :
    backfilled type (packets ++ [packet]) = LtePacket.backfill type (backfilled type packets) packet := by
  rw [backfilled, foldl_append, backfilled]
  rfl

lemma backfilled_data (packets seq records) :
    backfilled type (packets ++ [LtePacket.cdataData type seq records]) = backfilled type packets ++ records :=
  (backfilled_concat ..).trans (dif_pos rfl)

end

/-! Where a sample is -/

def pendingSamples (type : FsDataType) (b : BleState) : List (FsRecord type) := snapshot (fsLayout type) (b.store type)

/-- The sample sent live whose reply is awaited. -/
def awaitedSample (type : FsDataType) (b : BleState) : List (FsRecord type) :=
  if b.sensorUploadCtx.state = sensorSampleState type then (lastSample type (sensorPackets b)).toList else []

/-- The sample that a message gives to `sensor_process_temp_humi_sample` or
`sensor_process_barometer_sample`. -/
def BleMsg.samples : (type : FsDataType) → BleMsg → List (FsRecord type)
  | .th, .sensorThSample record => [record]
  | .bp, .sensorBpSample record => [record]
  | _, _ => []

def BleMsg.isSample : BleMsg → Bool
  | .sensorThSample _ => true
  | .sensorBpSample _ => true
  | _ => false

lemma BleMsg.samples_nil (other : msg.isSample = false) (type) : msg.samples type = [] := by
  cases msg with
  | sensorThSample | sensorBpSample => cases other
  | _ => cases type <;> rfl

def confirmedSamples (type : FsDataType) (rsp : BleRspType) (b : BleState) : List (FsRecord type) :=
  match rsp with
  | .th => if b.sensorUploadCtx.state = .thWaitAck then awaitedSample type b else []
  | .bp => if b.sensorUploadCtx.state = .bpWaitAck then awaitedSample type b else []
  | .cdata =>
    if b.sensorUploadCtx.state = .cdataWaitEndAck ∧ b.sensorUploadCtx.uploadType = some type then
      backfilled type (sensorPackets b)
    else []
  | _ => []

def sentLive (env : BleEnv) (b : BleState) : Bool :=
  env.lteReady && env.lteSend = 0 && !sensorUploadBusy b && b.uploadState = .idle

/-- What a message loses: the sample whose reply is awaited when the module is
reconfigured or cleared, and a sample for flash that finds the staging buffer full. -/
def lostSamples (env : BleEnv) (type : FsDataType) (msg : BleMsg) (b : BleState) : List (FsRecord type) :=
  match msg with
  | .setConfig _ => awaitedSample type b
  | .clearTagMacinfo => awaitedSample type b
  | msg =>
    if sentLive env b ∨ (b.store type).rg.stagingCount < (fsLayout type).recPerSector then [] else msg.samples type

/-- Both threads, with a history: the samples given to the thread and those acknowledged by a reply that arrived after
they were sent, the lines that had arrived at the last sensor packet, and the line whose reply is in the slot. -/
structure SampleRun where
  sys : Threads
  given : (type : FsDataType) → List (FsRecord type)
  acknowledged : (type : FsDataType) → List (FsRecord type)
  sentAt : Nat
  savedAt : Nat

namespace SampleRun

def fresh (run : SampleRun) : Bool := run.sentAt < run.savedAt

def gives (type : FsDataType) (run : SampleRun) (event : ThreadEvent) : List (FsRecord type) :=
  match event, run.sys.current with
  | .handle _, some (.posted msg) => msg.val.samples type
  | _, _ => []

def confirms (type : FsDataType) (run : SampleRun) (event : ThreadEvent) : List (FsRecord type) :=
  match event, run.sys.current with
  | .handle _, some .sensorLteAck => confirmedSamples type run.sys.sensorBleRsp.type run.sys.ble
  | _, _ => []

/-- The samples that a step drops. -/
def loses (type : FsDataType) (run : SampleRun) (event : ThreadEvent) : List (FsRecord type) :=
  match event, run.sys.current with
  | .handle env, some (.posted msg) => lostSamples env type msg.val run.sys.ble
  | .handle _, some .sensorLteAck =>
    if run.fresh then [] else confirmedSamples type run.sys.sensorBleRsp.type run.sys.ble
  | _, _ => []

variable [Crc32Ieee]

def step (run : SampleRun) (event : ThreadEvent) : SampleRun :=
  let sys := run.sys.step event
  { sys
    given := fun type => run.given type ++ run.gives type event
    acknowledged := fun type => run.acknowledged type ++ if run.fresh then run.confirms type event else []
    sentAt := if sensorPackets sys.ble = sensorPackets run.sys.ble then run.sentAt else run.sys.lines.length
    savedAt :=
      match event, run.sys.todo with
      | .lteStep, .saveSensorRsp _ :: _ => run.sys.lines.length
      | _, _ => run.savedAt }

def start (env : BleEnv) (mode : ScanMode) (media : (type : FsDataType) → FsMedia (FsRecord type)) : SampleRun :=
  ⟨.start env mode media, fun _ => [], fun _ => [], 0, 0⟩

/-- Every sample is in one place. -/
def Kept (media : (type : FsDataType) → FsMedia (FsRecord type)) (run : SampleRun) : Prop :=
  ∀ type, type = .th ∨ type = .bp →
    (snapshot (fsLayout type) (myFlashStoreInit (fsLayout type) (media type)) : Multiset (FsRecord type)) +
        (run.given type : Multiset (FsRecord type)) =
      (pendingSamples type run.sys.ble : Multiset (FsRecord type)) + (awaitedSample type run.sys.ble : Multiset _) +
        (run.acknowledged type : Multiset (FsRecord type))

def Works (run : SampleRun) (event : ThreadEvent) : Prop :=
  match event with
  | .handle env => (∀ call, (env.io call).Ok) ∧
      ∀ type, type = .th ∨ type = .bp → .ringFull type ∉ (run.step event).sys.ble.log
  | _ => True

def NothingLost (run : SampleRun) (event : ThreadEvent) : Prop :=
  ∀ type, type = .th ∨ type = .bp → run.loses type event = []

instance (run : SampleRun) (event : ThreadEvent) : Decidable (run.NothingLost event) :=
  decidable_of_iff (run.loses .th event = [] ∧ run.loses .bp event = []) (by simp [NothingLost])

end SampleRun

/-! What the functions of the sensor upload do to the samples of one type -/

structure SampleInv (type : FsDataType) (b : BleState) : Prop where
  filed : Filed (fsLayout type) (b.store type)
  session : b.sensorUploadCtx.state.isCdata = true → b.sensorUploadCtx.uploadType = some type →
    ∃ rest, Drains (fsLayout type) (b.store type) (backfilled type (sensorPackets b) ++ rest) rest

structure Holds (type : FsDataType) (before after : BleState) : Prop where
  inv : SampleInv type after
  pending : pendingSamples type after = pendingSamples type before
  awaited : awaitedSample type after = awaitedSample type before

structure Accounts (type : FsDataType) (before : BleState) (given gone : List (FsRecord type)) (after : BleState) :
    Prop where
  inv : SampleInv type after
  perm : (pendingSamples type before ++ awaitedSample type before ++ given).Perm
    (gone ++ (pendingSamples type after ++ awaitedSample type after))

lemma sampleState_cdata (type) : (sensorSampleState type).isCdata = false := by
  unfold sensorSampleState
  split <;> rfl

lemma sampleState_idle (type) : .idle ≠ sensorSampleState type := by
  unfold sensorSampleState
  split <;> exact nofun

lemma awaited_idle (type) (idle : b.sensorUploadCtx.state = .idle) : awaitedSample type b = [] := by
  rw [awaitedSample, idle]
  exact if_neg (sampleState_idle type)

lemma awaited_cdata (type) (cdata : b.sensorUploadCtx.state.isCdata = true) : awaitedSample type b = [] := by
  refine if_neg fun state => ?_
  rw [state, sampleState_cdata] at cdata
  exact nomatch cdata

namespace Holds

variable {type : FsDataType} {b : BleState}

lemma refl (inv : SampleInv type b) : Holds type b b := ⟨inv, rfl, rfl⟩

lemma of_eq (inv : SampleInv type b) (same : after = b) : Holds type b after := by
  rw [same]
  exact refl inv

lemma trans {first second third} (before : Holds type first second) (after : Holds type second third) :
    Holds type first third :=
  ⟨after.inv, after.pending.trans before.pending, after.awaited.trans before.awaited⟩

lemma scans (inv : SampleInv type b) (sensor : FsDataType.isScan type = false)
    (scans : ScanOnly b after) : Holds type b after := by
  have store := scans.store type sensor
  refine ⟨⟨?_, ?_⟩, ?_, ?_⟩
  · rw [store]
    exact inv.filed
  · rw [scans.sensorUploadCtx, scans.packets, store]
    exact inv.session
  · rw [pendingSamples, store, pendingSamples]
  · rw [awaitedSample, scans.sensorUploadCtx, scans.packets, awaitedSample]

lemma cdata (inv : SampleInv type b) (cdata : b.sensorUploadCtx.state.isCdata = true)
    (stays : after.sensorUploadCtx.state.isCdata = true)
    (uploads : after.sensorUploadCtx.uploadType = b.sensorUploadCtx.uploadType) (store : after.store = b.store)
    (sent : backfilled type (sensorPackets after) = backfilled type (sensorPackets b)) : Holds type b after := by
  refine ⟨⟨?_, fun _ own => ?_⟩, ?_, ?_⟩
  · rw [store]
    exact inv.filed
  · rw [store, sent]
    exact inv.session cdata (uploads.symm.trans own)
  · rw [pendingSamples, store, pendingSamples]
  · rw [awaited_cdata type stays, awaited_cdata type cdata]

lemma accounts (holds : Holds type b after) {given gone}
    (none : given = []) (nothing : gone = []) : Accounts type b given gone after := by
  refine ⟨holds.inv, ?_⟩
  rw [none, nothing, holds.pending, holds.awaited, append_nil]
  exact .refl _

end Holds

section

variable [Crc32Ieee] {type : FsDataType} {env : BleEnv} {b : BleState}

section

variable (filed : Filed (fsLayout type) (b.store type))
include filed

lemma flash_filed (env other) :
    Filed (fsLayout type) ((b.flash env other .uploadBegin).2.store type) ∧
    Filed (fsLayout type) ((b.flash env other .rewind).2.store type) ∧
    Filed (fsLayout type) ((b.flash env other .commit).2.store type) := by
  by_cases same : type = other
  · subst same
    rw [flash_store, flash_store, flash_store]
    exact ⟨filed.begin _, filed.rewind _, filed.commit _⟩
  · rw [flash_store_other env same, flash_store_other env same, flash_store_other env same]
    exact ⟨filed, filed, filed⟩

lemma reset_samples (env rewind) :
    SampleInv type (sensorUploadReset env rewind b) ∧
    pendingSamples type (sensorUploadReset env rewind b) = pendingSamples type b ∧
    awaitedSample type (sensorUploadReset env rewind b) = [] := by
  have idle : (sensorUploadReset env rewind b).sensorUploadCtx.state = .idle := rfl
  refine ⟨⟨?_, fun cdata => ?_⟩, reset_snapshot env rewind type b, awaited_idle type idle⟩
  · unfold sensorUploadReset
    split
    · split
      · exact (flash_filed filed env .th).2.1
      · exact filed
    · split
      · exact (flash_filed filed env .bp).2.1
      · exact filed
    · exact filed
  · rw [idle] at cdata
    exact nomatch cdata

lemma reset_holds (env) (rewind)
    (free : awaitedSample type b = []) : Holds type b (sensorUploadReset env rewind b) := by
  obtain ⟨inv, pending, awaited⟩ := reset_samples filed env rewind
  exact ⟨inv, pending, awaited.trans free.symm⟩

end

lemma begun_holds (inv : SampleInv type b) (idle : b.sensorUploadCtx.state = .idle) (up : FsDataType)
    (total : Nat) :
    let begun := { (b.flash env up .uploadBegin).2 with sensorUploadCtx := ⟨.cdataWaitStartAck, some up, total, 1⟩ }
    let sent := begun.lteSendCommand env (.cdataStart up total)
    Holds type b (if sent.1 ≠ 0 then sensorUploadReset env true sent.2 else sent.2) := by
  intro begun sent
  have filed : Filed (fsLayout type) (begun.store type) := (flash_filed inv.filed env up).1
  have pending : pendingSamples type begun = pendingSamples type b := (flash_snapshot env up type b).1
  have cdata : begun.sensorUploadCtx.state.isCdata = true := rfl
  have none := awaited_idle type idle
  have ret : sent.1 = env.lteSend := rfl
  by_cases sends : env.lteSend = 0
  · have packets : sensorPackets sent.2 = sensorPackets begun ++ [LtePacket.cdataStart up total] :=
      sensorPackets_sent sends rfl begun
    have still : sent.2.sensorUploadCtx.state.isCdata = true := rfl
    rw [ret, if_neg (not_not.mpr sends)]
    refine ⟨⟨filed, fun _ own => ?_⟩, pending, (awaited_cdata type still).trans none.symm⟩
    obtain rfl : up = type := Option.some.inj own
    refine ⟨snapshot (fsLayout up) (b.store up), ?_⟩
    rw [packets, backfilled_concat]
    have store : sent.2.store up = _ := flash_store env up .uploadBegin b
    rw [store]
    exact Drains.begin inv.filed.rep _
  · have same : sent.2 = begun := lteSendCommand_failed sends _ begun
    rw [ret, if_pos sends, same]
    have reset := reset_holds filed env true (awaited_cdata type cdata)
    exact ⟨reset.inv, reset.pending.trans pending, reset.awaited.trans ((awaited_cdata type cdata).trans none.symm)⟩

lemma tryStart_holds (inv : SampleInv type b) (env) : Holds type b (sensorCachedUploadTryStart env b) := by
  unfold sensorCachedUploadTryStart
  split
  · exact .refl inv
  · next free =>
    have idle : b.sensorUploadCtx.state = .idle := by
      simp only [Bool.or_eq_true, not_or] at free
      simpa [sensorUploadBusy] using free.1
    split
    · exact .refl inv
    · next up _ =>
      split
      · exact .refl inv
      · split
        · exact .refl inv
        · exact begun_holds inv idle up (sensorCdataTotalPackets up b)

lemma done_accounts {ended : BleState} (filed : Filed (fsLayout type) (ended.store type)) (env)
    {gone : List (FsRecord type)}
    (perm : (pendingSamples type b ++ awaitedSample type b).Perm (gone ++ pendingSamples type ended)) :
    Accounts type b [] gone (sensorUploadDone env ended) := by
  obtain ⟨inv, pending, awaited⟩ := reset_samples filed env false
  have started := tryStart_holds inv env
  have left : pendingSamples type (sensorUploadDone env ended) = pendingSamples type ended :=
    started.pending.trans pending
  have none : awaitedSample type (sensorUploadDone env ended) = [] := started.awaited.trans awaited
  refine ⟨started.inv, ?_⟩
  rw [left, none, append_nil, append_nil]
  exact perm

lemma fill_filed (reads : ∀ call, (env.io call).ReadsOk) (room) (records)
    (usedLen) (filed : Filed (fsLayout type) (b.store type)) (active : type = up → b.uploadActive up = true) :
    Filed (fsLayout type) ((sensorCdataFill env up room records usedLen b).2.store type) ∧
    snapshot (fsLayout type) ((sensorCdataFill env up room records usedLen b).2.store type) =
      snapshot (fsLayout type) (b.store type) ∧
    Unsent b (sensorCdataFill env up room records usedLen b).2 := by
  induction room generalizing b records usedLen with
  | zero => exact ⟨filed, rfl, ⟨rfl, rfl, rfl⟩⟩
  | succ room ih =>
    rw [sensorCdataFill]
    split
    · exact ⟨filed, rfl, ⟨rfl, rfl, rfl⟩⟩
    · have unsent : Unsent b (b.flash env up .readNext).2 := ⟨rfl, rfl, flash_log env .readNext (by rintro _ ⟨⟩) b⟩
      obtain ⟨after, same⟩ : Filed (fsLayout type) ((b.flash env up .readNext).2.store type) ∧
          snapshot (fsLayout type) ((b.flash env up .readNext).2.store type) =
            snapshot (fsLayout type) (b.store type) := by
        by_cases own : type = up
        · subst own
          rw [flash_store]
          exact filed.readNext (active rfl) (reads _)
        · rw [flash_store_other env own]
          exact ⟨filed, rfl⟩
      split
      · next data read answer =>
        obtain rfl : (b.flash env up .readNext).2 = read := congrArg Prod.snd answer
        simp only
        split
        · exact ⟨after, same, unsent⟩
        · obtain ⟨final, still, later⟩ := ih (records ++ [data]) (usedLen + (sensorCdataRecordText up data).length) after
            fun _ => flash_active env up .readNext b
          exact ⟨final, still.trans same, later.sensorUploadCtx.trans unsent.sensorUploadCtx,
            later.uploadState.trans unsent.uploadState, later.log.trans unsent.log⟩
      · next read _ answer =>
        obtain rfl : (b.flash env up .readNext).2 = read := congrArg Prod.snd answer
        exact ⟨after, same, unsent⟩

lemma sendNext_cases (env : BleEnv) (b : BleState) :
    ((sensorCdataSendNextPacket env b).1 ≠ 0 ∧ ((sensorCdataSendNextPacket env b).2 = b ∨
      ∃ up, b.sensorUploadCtx.uploadType = some up ∧ (sensorCdataSendNextPacket env b).2 =
        (sensorCdataFill env up (sensorCdataMaxRecordsPerPacket up) [] sensorCdataPrefixReservedLen b).2)) ∨
    (env.lteSend = 0 ∧ ∃ up records usedLen filled, b.sensorUploadCtx.uploadType = some up ∧
      sensorCdataFill env up (sensorCdataMaxRecordsPerPacket up) [] sensorCdataPrefixReservedLen b =
        (some (records, usedLen), filled) ∧
      sensorCdataSendNextPacket env b = (0,
        { (filled.lteSendCommand env (.cdataData up filled.sensorUploadCtx.nextSeq records)).2 with
          sensorUploadCtx := { filled.sensorUploadCtx with state := .cdataWaitDataAck } })) := by
  have invalid : -einval ≠ 0 := by decide
  have memory : -enomem ≠ 0 := by decide
  rw [sensorCdataSendNextPacket]
  split
  · exact .inl ⟨invalid, .inl rfl⟩
  · next up uploads =>
    split
    · exact .inl ⟨invalid, .inl rfl⟩
    · split
      · next read answer => exact .inl ⟨memory, .inr ⟨up, uploads, by rw [answer]⟩⟩
      · next records usedLen filled answer =>
        have refused : ∀ {ret : Int}, ret ≠ 0 → (ret, filled).1 ≠ 0 ∧ ((ret, filled).2 = b ∨
            ∃ other, b.sensorUploadCtx.uploadType = some other ∧ (ret, filled).2 = (sensorCdataFill env other
              (sensorCdataMaxRecordsPerPacket other) [] sensorCdataPrefixReservedLen b).2) :=
          fun failed => ⟨failed, .inr ⟨up, uploads, by rw [answer]⟩⟩
        split
        · exact .inl (refused invalid)
        · simp only
          split
          · exact .inl (refused memory)
          · split
            · exact .inl (refused memory)
            · by_cases sends : env.lteSend = 0
              · refine .inr ⟨sends, up, records, usedLen, filled, uploads, answer, ?_⟩
                simp only [BleState.lteSendCommand, sends, if_true]
              · left
                have failed := refused sends
                simp only [BleState.lteSendCommand, sends, if_false, append_nil]
                exact failed

section

variable (inv : SampleInv type b)
include inv

lemma continue_holds (sensor : type = .th ∨ type = .bp)
    (reads : ∀ call, (env.io call).ReadsOk) (cdata : b.sensorUploadCtx.state.isCdata = true) :
    Holds type b (sensorCdataContinue env b) := by
  have none := awaited_cdata type cdata
  have active : ∀ {up}, b.sensorUploadCtx.uploadType = some up → type = up → b.uploadActive up = true := by
    rintro _ uploads rfl
    obtain ⟨_, drains⟩ := inv.session cdata uploads
    exact drains.active
  simp only [sensorCdataContinue]
  rcases sendNext_cases env b with ⟨failed, same | ⟨up, uploads, same⟩⟩ | ⟨sends, up, records, _, filled, uploads, fill, sent⟩
  · rw [if_pos failed, same]
    exact reset_holds inv.filed env true none
  · obtain ⟨filed, pending, unsent⟩ := fill_filed reads (sensorCdataMaxRecordsPerPacket up) []
      sensorCdataPrefixReservedLen inv.filed (active uploads)
    rw [← same] at filed pending unsent
    rw [if_pos failed]
    have still : awaitedSample type (sensorCdataSendNextPacket env b).2 = [] :=
      awaited_cdata type (by rw [unsent.sensorUploadCtx]; exact cdata)
    have reset := reset_holds filed env true still
    exact ⟨reset.inv, reset.pending.trans pending, reset.awaited.trans (still.trans none.symm)⟩
  · obtain ⟨filed, pending, unsent⟩ := fill_filed reads (sensorCdataMaxRecordsPerPacket up) []
      sensorCdataPrefixReservedLen inv.filed (active uploads)
    rw [fill] at filed pending unsent
    rw [sent, if_neg (not_not.mpr rfl)]
    have packets : sensorPackets (filled.lteSendCommand env (.cdataData up filled.sensorUploadCtx.nextSeq records)).2 =
        sensorPackets b ++ [LtePacket.cdataData up filled.sensorUploadCtx.nextSeq records] := by
      rw [sensorPackets_sent sends rfl, sensorPackets_of_log unsent.log]
    refine ⟨⟨filed, fun _ own => ?_⟩, pending, (awaited_cdata type rfl).trans none.symm⟩
    have kept : filled.sensorUploadCtx.uploadType = some type := own
    rw [unsent.sensorUploadCtx, uploads] at kept
    obtain rfl : up = type := Option.some.inj kept
    -- The packet takes what it carries off the rest of the session.
    obtain ⟨rest, drains⟩ := inv.session cdata uploads
    obtain ⟨_, after, full, _, _, next⟩ := fill_drains sensor reads drains (sensorCdataMaxRecordsPerPacket up) []
      sensorCdataPrefixReservedLen (packet_fits sensor)
    obtain ⟨found, rfl⟩ := Prod.mk.inj (fill.symm.trans full)
    obtain ⟨rfl, _⟩ := Prod.mk.inj (Option.some.inj found)
    refine ⟨rest.drop (sensorCdataMaxRecordsPerPacket up), ?_⟩
    have carried : backfilled up (sensorPackets (filled.lteSendCommand env (.cdataData up
        filled.sensorUploadCtx.nextSeq ([] ++ rest.take (sensorCdataMaxRecordsPerPacket up)))).2) ++
        rest.drop (sensorCdataMaxRecordsPerPacket up) = backfilled up (sensorPackets b) ++ rest := by
      rw [packets, backfilled_data, nil_append, append_assoc, take_append_drop]
    exact carried ▸ next

lemma end_holds (env : BleEnv) (cdata : b.sensorUploadCtx.state.isCdata = true) :
    let sent := b.lteSendCommand env .cdataEnd
    Holds type b (if sent.1 ≠ 0 then sensorUploadReset env true sent.2
      else { sent.2 with sensorUploadCtx := { sent.2.sensorUploadCtx with state := .cdataWaitEndAck } }) := by
  intro sent
  have ret : sent.1 = env.lteSend := rfl
  by_cases sends : env.lteSend = 0
  · rw [ret, if_neg (not_not.mpr sends)]
    refine .cdata inv cdata rfl rfl rfl ?_
    have packets : sensorPackets sent.2 = sensorPackets b ++ [LtePacket.cdataEnd] := sensorPackets_sent sends rfl b
    exact (congrArg (backfilled type) packets).trans (backfilled_concat ..)
  · have same : sent.2 = b := lteSendCommand_failed sends _ b
    rw [ret, if_pos sends, same]
    exact reset_holds inv.filed env true (awaited_cdata type cdata)

lemma commit_samples (env : BleEnv) (waiting : b.sensorUploadCtx.state = .cdataWaitEndAck)
    (uploads : b.sensorUploadCtx.uploadType = some up) :
    let committed := (b.flash env up .commit).2.emit (.committed up)
    Filed (fsLayout type) (committed.store type) ∧
    (pendingSamples type b).Perm (confirmedSamples type .cdata b ++ pendingSamples type committed) := by
  intro committed
  have cdata : b.sensorUploadCtx.state.isCdata = true := by
    rw [waiting]
    rfl
  refine ⟨(flash_filed inv.filed env up).2.2, ?_⟩
  by_cases own : up = type
  · subst own
    obtain ⟨rest, drains⟩ := inv.session cdata uploads
    have confirmed : confirmedSamples up .cdata b = backfilled up (sensorPackets b) := if_pos ⟨waiting, uploads⟩
    have store : committed.store up = (fsStep (fsLayout up) (env.io b.flashCalls) (b.store up) .commit).2 :=
      flash_store env up .commit b
    rw [confirmed, pendingSamples, pendingSamples, store]
    exact drains.commit_read _
  · have confirmed : confirmedSamples type .cdata b = [] := by
      refine if_neg fun both => own ?_
      exact Option.some.inj (uploads.symm.trans both.2)
    have store : committed.store type = b.store type := flash_store_other env (Ne.symm own) .commit b
    rw [confirmed, pendingSamples, pendingSamples, store]
    exact .refl _

lemma sampleAck_accounts (env) (waiting : Prop) [Decidable waiting] :
    Accounts type b [] (if waiting then awaitedSample type b else [])
      (if waiting then sensorUploadDone env b else b) := by
  by_cases waits : waiting
  · rw [if_pos waits, if_pos waits]
    exact done_accounts inv.filed env perm_append_comm
  · rw [if_neg waits, if_neg waits]
    exact (Holds.refl inv).accounts rfl rfl

lemma endAck_accounts (env) (waiting : b.sensorUploadCtx.state = .cdataWaitEndAck) :
    Accounts type b [] (confirmedSamples type .cdata b) (sensorHandleLteAck env .cdata b) := by
  have none : awaitedSample type b = [] := by
    apply awaited_cdata
    rw [waiting]
    rfl
  cases uploads : b.sensorUploadCtx.uploadType with
  | none =>
    have nothing : confirmedSamples type .cdata b = [] := by
      refine if_neg fun both => ?_
      exact nomatch uploads.symm.trans both.2
    simp only [sensorHandleLteAck, waiting, uploads]
    refine done_accounts inv.filed env ?_
    rw [nothing, none, append_nil]
    exact .refl _
  | some up =>
    obtain ⟨filed, perm⟩ := commit_samples inv env waiting uploads
    simp only [sensorHandleLteAck, waiting, uploads]
    refine done_accounts filed env ?_
    rw [none, append_nil]
    exact perm

lemma cdataAck_holds (sensor : type = .th ∨ type = .bp)
    (reads : ∀ call, (env.io call).ReadsOk) (other : b.sensorUploadCtx.state ≠ .cdataWaitEndAck) :
    Holds type b (sensorHandleLteAck env .cdata b) := by
  cases state : b.sensorUploadCtx.state with
  | idle | thWaitAck | bpWaitAck =>
    simp only [sensorHandleLteAck, state]
    exact .refl inv
  | cdataWaitStartAck =>
    have cdata : b.sensorUploadCtx.state.isCdata = true := by rw [state]; rfl
    simp only [sensorHandleLteAck, state]
    exact continue_holds inv sensor reads cdata
  | cdataWaitDataAck =>
    have cdata : b.sensorUploadCtx.state.isCdata = true := by rw [state]; rfl
    simp only [sensorHandleLteAck, state]
    split
    · have counted : Holds type b { b with sensorUploadCtx := ⟨.cdataWaitDataAck, b.sensorUploadCtx.uploadType,
          b.sensorUploadCtx.totalPackets, b.sensorUploadCtx.nextSeq + 1⟩ } := .cdata inv cdata rfl rfl rfl rfl
      exact counted.trans (continue_holds counted.inv sensor reads rfl)
    · have ended := end_holds inv env cdata
      simpa only using ended
  | cdataWaitEndAck => exact absurd state other

lemma handleAck_accounts (sensor : type = .th ∨ type = .bp)
    (reads : ∀ call, (env.io call).ReadsOk) (rsp) :
    Accounts type b [] (confirmedSamples type rsp b) (sensorHandleLteAck env rsp b) := by
  cases rsp with
  | th | bp => exact sampleAck_accounts inv env _
  | cdata =>
    by_cases waiting : b.sensorUploadCtx.state = .cdataWaitEndAck
    · exact endAck_accounts inv env waiting
    · exact (cdataAck_holds inv sensor reads waiting).accounts rfl (if_neg fun both => waiting both.1)
  | _ => exact (Holds.refl inv).accounts rfl rfl

lemma push_samples (ok : ∀ call, (env.io call).Ok) (record : FsRecord type)
    (fits : .ringFull type ∉ (b.flash env type (.push record)).2.log) :
    let pushed := (b.flash env type (.push record)).2
    SampleInv type pushed ∧ awaitedSample type pushed = awaitedSample type b ∧
    pendingSamples type pushed = pendingSamples type b ++
      if (b.store type).rg.stagingCount < (fsLayout type).recPerSector then [record] else [] := by
  intro pushed
  have packets := flash_packets env type (.push record) b
  have store := flash_store env type (.push record) b
  have kept : ∀ sector, .overwriteOldest sector ∉
      (fsCall (fsLayout type) (env.io b.flashCalls) (b.store type) (.push record)).effects := by
    intro sector member
    apply fits
    have full : (fsCall (fsLayout type) (env.io b.flashCalls) (b.store type) (.push record)).effects.any
        FsEffect.isRingFull = true := any_eq_true.mpr ⟨_, member, rfl⟩
    simp [BleState.flash, full]
  obtain ⟨filed, pending⟩ := inv.filed.push (ok b.flashCalls) kept
  rw [← store] at filed pending
  refine ⟨⟨filed, fun cdata own => ?_⟩, ?_, pending⟩
  · obtain ⟨rest, drains⟩ := inv.session cdata own
    refine ⟨rest, ?_⟩
    rw [store, packets]
    exact drains.push (ok b.flashCalls).flashRead record
  · rw [awaitedSample, packets, awaitedSample]
    rfl

lemma push_other (env) {other} (different : type ≠ other)
    (record) : Holds type b (b.flash env other (.push record)).2 := by
  have packets := flash_packets env other (.push record) b
  have store := flash_store_other env different (.push record) b
  refine ⟨⟨?_, ?_⟩, ?_, ?_⟩
  · rw [store]
    exact inv.filed
  · rw [store, packets]
    exact inv.session
  · rw [pendingSamples, store, pendingSamples]
  · rw [awaitedSample, packets, awaitedSample]
    rfl

end

lemma reset_store (env) (b : BleState) : (sensorUploadReset env false b).store = b.store := by
  unfold sensorUploadReset
  split <;> rfl

lemma processSample_cases (env : BleEnv) (own : FsDataType) (wakeup : Bool) (record : FsRecord own) (b : BleState) :
    let begun :=
      { b with sensorUploadCtx := { b.sensorUploadCtx with uploadType := some own, state := sensorSampleState own } }
    (sentLive env b = true ∧
      sensorProcessSample env own wakeup record b = (begun.lteSendCommand env (.sample own record)).2) ∨
    (sentLive env b = false ∧ ∃ kept, sensorProcessSample env own wakeup record b =
        sensorSampleKeep env own wakeup record kept ∧
      (kept = b ∨ b.sensorUploadCtx.state = .idle ∧ kept = sensorUploadReset env false begun)) := by
  intro begun
  cases ready : env.lteReady with
  | false => exact .inr ⟨by simp [sentLive, ready], b, by simp [sensorProcessSample, ready], .inl rfl⟩
  | true =>
    by_cases free : sensorUploadBusy b = false ∧ b.uploadState = .idle
    · have guard : (!env.lteReady || sensorUploadBusy b || decide (b.uploadState ≠ .idle)) ≠ true := by
        simp [ready, free]
      have ret : (begun.lteSendCommand env (.sample own record)).1 = env.lteSend := rfl
      rw [sensorProcessSample, if_pos ready]
      simp only [sensorRealtimeUploadStart, if_neg guard]
      by_cases sends : env.lteSend = 0
      · refine .inl ⟨by simp [sentLive, ready, sends, free], ?_⟩
        rw [ret, if_pos sends, if_neg (not_not.mpr sends)]
      · have idle : b.sensorUploadCtx.state = .idle := by simpa [sensorUploadBusy] using free.1
        refine .inr ⟨by simp [sentLive, sends], sensorUploadReset env false begun, ?_, .inr ⟨idle, rfl⟩⟩
        have same := lteSendCommand_failed sends (.sample own record) begun
        rw [ret, same, if_neg sends, if_pos sends]
    · have busy : (!env.lteReady || sensorUploadBusy b || decide (b.uploadState ≠ .idle)) = true := by
        cases held : sensorUploadBusy b with
        | true => simp
        | false => simpa [ready, held] using free
      refine .inr ⟨?_, b, ?_, .inl rfl⟩
      · cases held : sensorUploadBusy b with
        | true => simp [sentLive, held]
        | false => simpa [sentLive, held] using fun _ _ => fun idle => free ⟨held, idle⟩
      · have refused : -ebusy ≠ 0 := by decide
        rw [sensorProcessSample, if_pos ready]
        simp only [sensorRealtimeUploadStart, if_pos busy, if_neg refused]

lemma kept_holds (inv : SampleInv type b) {kept : BleState}
    (same : kept = b ∨ b.sensorUploadCtx.state = .idle ∧ kept = sensorUploadReset env false { b with
      sensorUploadCtx := { b.sensorUploadCtx with uploadType := some own, state := sensorSampleState own } }) :
    Holds type b kept ∧ kept.store = b.store := by
  rcases same with rfl | ⟨idle, rfl⟩
  · exact ⟨.refl inv, rfl⟩
  · obtain ⟨final, pending, awaited⟩ := reset_samples (b := { b with sensorUploadCtx :=
      { b.sensorUploadCtx with uploadType := some own, state := sensorSampleState own } }) inv.filed env false
    exact ⟨⟨final, pending, awaited.trans (awaited_idle type idle).symm⟩, reset_store env _⟩

omit [Crc32Ieee] in
lemma live_holds (inv : SampleInv type b) (live : sentLive env b = true) (record : FsRecord own) :
    let sent := ({ b with sensorUploadCtx := { b.sensorUploadCtx with
      uploadType := some own, state := sensorSampleState own } } : BleState).lteSendCommand env (.sample own record)
    SampleInv type sent.2 ∧ pendingSamples type sent.2 = pendingSamples type b ∧ awaitedSample type b = [] ∧
    sent.2.sensorUploadCtx.state = sensorSampleState own ∧
    sensorPackets sent.2 = sensorPackets b ++ [LtePacket.sample own record] := by
  intro sent
  obtain ⟨⟨⟨_, sends⟩, free⟩, _⟩ : ((env.lteReady = true ∧ env.lteSend = 0) ∧ b.sensorUploadCtx.state = .idle) ∧
      b.uploadState = .idle := by simpa [sentLive, sensorUploadBusy] using live
  refine ⟨⟨inv.filed, fun cdata => ?_⟩, rfl, awaited_idle type free, rfl, sensorPackets_sent sends rfl _⟩
  have sample : (sensorSampleState own).isCdata = true := cdata
  rw [sampleState_cdata] at sample
  cases sample

lemma sampleKeep_scans (env own wakeup record) (b : BleState) :
    ScanOnly (b.flash env own (.push record)).2 (sensorSampleKeep env own wakeup record b) := by
  simp only [sensorSampleKeep]
  split
  · exact .emit rfl _
  · exact .refl _

section

variable (inv : SampleInv type b) (sensor : FsDataType.isScan type = false)
include inv sensor

lemma processSample_other (env)
    (states : sensorSampleState own ≠ sensorSampleState type) (wakeup) (record) :
    Holds type b (sensorProcessSample env own wakeup record b) := by
  rcases processSample_cases env own wakeup record b with ⟨live, same⟩ | ⟨_, kept, same, before⟩
  · obtain ⟨final, pending, none, state, _⟩ := live_holds inv live record
    rw [same]
    refine ⟨final, pending, Eq.trans (if_neg ?_) none.symm⟩
    rw [state]
    exact states
  · have different : type ≠ own := by
      rintro rfl
      exact states rfl
    obtain ⟨holds, _⟩ := kept_holds inv before
    have pushed := holds.trans (push_other holds.inv env different record)
    rw [same]
    exact pushed.trans (.scans pushed.inv sensor (sampleKeep_scans env own wakeup record kept))

lemma processSample_own (ok : ∀ call, (env.io call).Ok) (wakeup) (record)
    (fits : .ringFull type ∉ (sensorProcessSample env type wakeup record b).log) :
    Accounts type b [record]
      (if sentLive env b ∨ (b.store type).rg.stagingCount < (fsLayout type).recPerSector then [] else [record])
      (sensorProcessSample env type wakeup record b) := by
  rcases processSample_cases env type wakeup record b with ⟨live, same⟩ | ⟨stored, kept, same, before⟩
  · obtain ⟨final, pending, none, state, packets⟩ := live_holds inv live record
    rw [← same] at final pending state packets
    have awaited : awaitedSample type (sensorProcessSample env type wakeup record b) = [record] := by
      rw [awaitedSample, if_pos state, packets, lastSample_sent]
      rfl
    refine ⟨final, ?_⟩
    rw [if_pos (.inl live), awaited, none, append_nil, pending]
    exact .refl _
  · obtain ⟨holds, store⟩ := kept_holds inv before
    have room : (sentLive env b ∨ (b.store type).rg.stagingCount < (fsLayout type).recPerSector) ↔
        (kept.store type).rg.stagingCount < (fsLayout type).recPerSector := by
      rw [stored, store]
      exact or_iff_right Bool.false_ne_true
    have scans := sampleKeep_scans env type wakeup record kept
    rw [same] at fits
    have pushedFits : .ringFull type ∉ (kept.flash env type (.push record)).2.log := by
      intro member
      apply fits
      simp only [sensorSampleKeep]
      split
      · exact mem_append_left _ member
      · exact member
    obtain ⟨pushed, awaited, pending⟩ := push_samples holds.inv ok record pushedFits
    have final := Holds.scans pushed sensor scans
    rw [← same] at final
    refine ⟨final.inv, ?_⟩
    rw [final.pending, final.awaited, pending, awaited, holds.pending, holds.awaited]
    simp only [room]
    split
    · rw [nil_append, append_assoc, append_assoc]
      exact perm_append_comm.append_left _
    · rw [append_nil]
      exact perm_append_comm

lemma ScanThenStart.holds (scans : ScanThenStart env b after) : Holds type b after := by
  obtain ⟨scanned, only, rfl | rfl⟩ := scans
  · exact .scans inv sensor only
  · have holds := Holds.scans inv sensor only
    exact holds.trans (tryStart_holds holds.inv env)

lemma reset_after_scan (env : BleEnv)
    {scanned} (before : ScanOnly b scanned)
    (later : ScanOnly (sensorUploadReset env true scanned) after) {given} (none : given = []) :
    Accounts type b given (awaitedSample type b) after := by
  have holds := Holds.scans inv sensor before
  obtain ⟨reset, pending, awaited⟩ := reset_samples holds.inv.filed env true
  have final := Holds.scans reset sensor later
  refine ⟨final.inv, ?_⟩
  rw [none, final.pending, final.awaited, pending, awaited, holds.pending, append_nil, append_nil]
  exact perm_append_comm

end

lemma setConfig_scans (env mode b) : ScanOnly (scanReset env b) (myScanSetConfig env mode b) := by
  have configured : ScanOnly (scanReset env b) { scanReset env b with scanMode := mode, scanState := .idle } :=
    .of_eq rfl rfl rfl
  rcases setConfig_cases env mode b with off | started
  · rw [off]
    exact configured
  · rw [started]
    exact configured.trans (.scanStart env _)

def BleMsg.isScanWork : BleMsg → Bool
  | .tagScanProcess _ | .tranMacProcess _ | .scanInterval | .scanLength | .scanUpload | .uploadWakeup => true
  | _ => false

lemma message_holds (inv : SampleInv type b) (own : FsDataType.isScan type = false)
    (work : msg.isScanWork = true) : Holds type b (myScanMsgHandler b (env, msg)) := by
  cases msg with
  | tagScanProcess drained => exact .scans inv own (.foldl (ScanOnly.tagHandle env) b drained)
  | tranMacProcess drained => exact .scans inv own (.foldl ScanOnly.macHandle b drained)
  | scanInterval =>
    apply Holds.scans inv own
    simp only [myScanMsgHandler]
    split
    · exact .scanStart env b
    · exact .refl b
  | scanLength => exact .scans inv own (.flushAll env b)
  | scanUpload =>
    apply ScanThenStart.holds inv own
    simp only [myScanMsgHandler]
    split
    · split
      · exact (ScanOnly.refl b).alone env
      · exact scanUpload_scans env b
    · exact (ScanOnly.refl b).alone env
  | uploadWakeup =>
    have woken := (wakeup_scans env b).holds inv own
    exact woken.trans (tryStart_holds woken.inv env)
  | _ => cases work

omit [Crc32Ieee] in
lemma kept_nil {kept : Prop} [Decidable kept] {samples : List (FsRecord type)} (none : samples = []) :
    (if kept then [] else samples) = [] := by
  rw [none]
  exact ite_self _

lemma message_accounts (inv : SampleInv type b) (sensor : type = .th ∨ type = .bp) (ok : ∀ call, (env.io call).Ok)
    (other : msg.fromLte = false) (fits : .ringFull type ∉ (myScanMsgHandler b (env, msg)).log) :
    Accounts type b (msg.samples type) (lostSamples env type msg b) (myScanMsgHandler b (env, msg)) := by
  have own : FsDataType.isScan type = false := by rcases sensor with rfl | rfl <;> rfl
  have states : sensorSampleState .th ≠ sensorSampleState .bp := by decide
  cases msg with
  | tagScanProcess | tranMacProcess | scanInterval | scanLength | scanUpload | uploadWakeup =>
    exact (message_holds inv own rfl).accounts (BleMsg.samples_nil rfl type) (kept_nil (BleMsg.samples_nil rfl type))
  | sensorThSample record =>
    rcases sensor with rfl | rfl
    · exact processSample_own inv rfl ok _ record fits
    · exact (processSample_other inv rfl env states _ record).accounts rfl (kept_nil rfl)
  | sensorBpSample record =>
    rcases sensor with rfl | rfl
    · exact (processSample_other inv rfl env states.symm _ record).accounts rfl (kept_nil rfl)
    · exact processSample_own inv rfl ok _ record fits
  | sensorLteAck | uploadTagAndMac => exact nomatch other
  | setConfig mode =>
    have before := (ScanOnly.flushAll env b).trans (.rewindScan env _)
    exact reset_after_scan inv own env before (setConfig_scans env mode b) (BleMsg.samples_nil rfl type)
  | clearTagMacinfo =>
    have emptied : ScanOnly b ((({ b with scanState := .idle } : BleState).setTable .tag []).setTable .mac []) :=
      .of_eq rfl rfl rfl
    exact reset_after_scan inv own env (emptied.trans (.rewindScan env _)) (.refl _) (BleMsg.samples_nil rfl type)

end

/-! Runs of both threads -/

section

variable [Crc32Ieee]

namespace SampleRun

lemma step_accounts {type} (sensor : type = .th ∨ type = .bp) {run : SampleRun}
    (inv : SampleInv type run.sys.ble) {event} (works : run.Works event) :
    Accounts type run.sys.ble (run.gives type event)
      (run.loses type event ++ if run.fresh then run.confirms type event else []) (run.step event).sys.ble := by
  have own : FsDataType.isScan type = false := by rcases sensor with rfl | rfl <;> rfl
  cases event with
  | line | lteStep | post | postForeign | recv =>
    refine Holds.accounts (.of_eq inv ?_) rfl ?_
    · exact run.sys.step_ble nofun
    · simp only [loses, confirms, ite_self, append_nil]
  | handle env =>
    obtain ⟨ok, fits⟩ := works
    have kept := fits type sensor
    simp only [step, Threads.step, gives, loses, confirms] at kept ⊢
    cases current : run.sys.current with
    | none => exact (Holds.refl inv).accounts rfl (by simp)
    | some msg =>
      simp only [current] at kept ⊢
      cases msg with
      | uploadTagAndMac line =>
        have uploads := (uploadData_scans env run.sys.ble).holds inv own
        exact uploads.accounts rfl (by simp)
      | sensorLteAck =>
        have replied := handleAck_accounts inv sensor (fun call => (ok call).flashRead) run.sys.sensorBleRsp.type
        have gone : ∀ confirmed : List (FsRecord type),
            (if run.fresh then [] else confirmed) ++ (if run.fresh then confirmed else []) = confirmed := by
          intro confirmed
          cases run.fresh with
          | false => exact append_nil _
          | true => rfl
        rw [gone]
        exact replied
      | posted msg =>
        have posted := message_accounts inv sensor ok msg.property kept
        rw [ite_self, append_nil]
        exact posted
      | foreign => exact (Holds.refl inv).accounts rfl (by simp)

variable {media : (type : FsDataType) → FsMedia (FsRecord type)} {run : SampleRun} {event : ThreadEvent}

omit [Crc32Ieee] in
lemma account_iff {β : Type} (lost confirmed held acknowledged : Multiset β) :
    lost + confirmed + held + acknowledged = held + (acknowledged + confirmed) ↔ lost = 0 := by
  have regroup : lost + confirmed + held + acknowledged = lost + (held + (acknowledged + confirmed)) := by abel
  rw [regroup, add_eq_right]

lemma kept_step (inv : ∀ type, type = .th ∨ type = .bp → SampleInv type run.sys.ble) (kept : run.Kept media)
    (works : run.Works event) : (run.step event).Kept media ↔ run.NothingLost event := by
  refine forall₂_congr fun type sensor => ?_
  have perm := (step_accounts sensor (inv type sensor) works).perm
  have moved := Multiset.coe_eq_coe.mpr perm
  have before := kept type sensor
  simp only [← Multiset.coe_add] at moved
  simp only [step, ← Multiset.coe_add]
  rw [← add_assoc, before, add_right_comm, moved, ← Multiset.coe_eq_zero]
  exact account_iff ..

lemma start_samples (env mode) {type} (sensor : type = .th ∨ type = .bp)
    (stored : Stored (fsLayout type) (media type)) : SampleInv type (start env mode media).sys.ble ∧
    (snapshot (fsLayout type) (myFlashStoreInit (fsLayout type) (media type))).Perm
      (pendingSamples type (start env mode media).sys.ble ++ awaitedSample type (start env mode media).sys.ble) := by
  have own : FsDataType.isScan type = false := by rcases sensor with rfl | rfl <;> rfl
  have none : awaitedSample type (scanBoot media) = [] := awaited_idle type rfl
  have inv : SampleInv type (scanBoot media) := ⟨(init_tidy stored).filed, nofun⟩
  have booted : Accounts type (scanBoot media) [] _ (myScanSetConfig env mode (scanBoot media)) :=
    reset_after_scan inv own env ((ScanOnly.flushAll env _).trans (.rewindScan env _)) (setConfig_scans env mode _) rfl
  have perm := booted.perm
  rw [none, append_nil, append_nil] at perm
  exact ⟨booted.inv, perm⟩

end SampleRun

end

/-- With working flash and no overflow, every sample found at boot or given to the thread is at each moment pending in
its region, awaiting its live reply, or acknowledged by a reply to it, exactly if no step loses one. -/
theorem samples_kept_iff [Crc32Ieee] (env : BleEnv) (mode : ScanMode)
    {media : (type : FsDataType) → FsMedia (FsRecord type)} (stored : ∀ type, Stored (fsLayout type) (media type))
    {events : List ThreadEvent} (works : Along SampleRun.step SampleRun.Works (.start env mode media) events) :
    Always SampleRun.step (SampleRun.Kept media) (.start env mode media) events ↔
      Along SampleRun.step SampleRun.NothingLost (.start env mode media) events := by
  let inv (run : SampleRun) : Prop := (∀ type, type = .th ∨ type = .bp → SampleInv type run.sys.ble) ∧ run.Kept media
  have start : inv (.start env mode media) := by
    refine ⟨fun type sensor => (SampleRun.start_samples env mode sensor (stored type)).1, fun type sensor => ?_⟩
    have found := Multiset.coe_eq_coe.mpr (SampleRun.start_samples env mode sensor (stored type)).2
    rw [← Multiset.coe_add] at found
    simpa [SampleRun.start] using found
  refine always_iff_along_of inv (fun _ holds => holds.2) ?_ ?_ start works
  · intro run event holds works nothing
    exact ⟨fun type sensor => (SampleRun.step_accounts sensor (holds.1 type sensor) works).inv,
      (SampleRun.kept_step holds.1 holds.2 works).mpr nothing⟩
  · intro run event holds works kept
    exact (SampleRun.kept_step holds.1 holds.2 works).mp kept

lemma works_ok (run : SampleRun) (fits : .ringFull .th ∉ (run.step (.handle .ok)).sys.ble.log ∧
    .ringFull .bp ∉ (run.step (.handle .ok)).sys.ble.log) : run.Works (.handle .ok) := by
  refine ⟨fun _ => FsIo.ok_ok, ?_⟩
  rintro _ (rfl | rfl)
  · exact fits.1
  · exact fits.2

def twoSamples : List ThreadEvent :=
  [.post ⟨.sensorThSample ⟨10, 215, 480⟩, rfl⟩, .recv, .handle .ok, .post ⟨.sensorBpSample ⟨9, 101325⟩, rfl⟩, .recv,
    .handle .ok, .line "TH=OK#".toList none, .lteStep, .lteStep, .lteStep, .recv, .handle .ok]

theorem two_samples_kept :
    let run := twoSamples.foldl SampleRun.step (.start .ok .periodCache blankMedia)
    Always SampleRun.step (SampleRun.Kept blankMedia) (.start .ok .periodCache blankMedia) twoSamples ∧
      run.acknowledged .th = [⟨10, 215, 480⟩] ∧ pendingSamples .bp run.sys.ble = [⟨9, 101325⟩] := by
  refine ⟨(samples_kept_iff .ok .periodCache (fun _ => .blank rfl) ?_).mpr (by decide +kernel), by decide +kernel,
    by decide +kernel⟩
  refine ⟨trivial, trivial, works_ok _ (by decide +kernel), trivial, trivial, works_ok _ (by decide +kernel), trivial,
    trivial, trivial, trivial, trivial, works_ok _ (by decide +kernel), trivial⟩

/-- `clear_tag_macinfo` while the reply to a live sample is awaited: the sample is
nowhere, and no line has arrived. -/
theorem clear_loses_live_sample :
    let events : List ThreadEvent := [.post ⟨.sensorThSample ⟨10, 215, 480⟩, rfl⟩, .recv, .handle .ok,
      .post ⟨.clearTagMacinfo, rfl⟩, .recv, .handle .ok]
    let run := events.foldl SampleRun.step (.start .ok .periodCache blankMedia)
    Along SampleRun.step SampleRun.Works (.start .ok .periodCache blankMedia) events ∧
      run.given .th = [⟨10, 215, 480⟩] ∧ sensorPackets run.sys.ble = [.sample .th ⟨10, 215, 480⟩] ∧
      run.sys.lines = [] ∧ pendingSamples .th run.sys.ble = [] ∧ awaitedSample .th run.sys.ble = [] ∧
      run.acknowledged .th = [] ∧ ¬ run.Kept blankMedia := by
  intro events run
  have given : run.given .th = [⟨10, 215, 480⟩] := by decide +kernel
  have pending : pendingSamples .th run.sys.ble = [] := by decide +kernel
  have awaited : awaitedSample .th run.sys.ble = [] := by decide +kernel
  have acknowledged : run.acknowledged .th = [] := by decide +kernel
  refine ⟨?_, given, by decide +kernel, by decide +kernel, pending, awaited, acknowledged, fun kept => ?_⟩
  · exact ⟨trivial, trivial, works_ok _ (by decide +kernel), trivial, trivial, works_ok _ (by decide +kernel), trivial⟩
  · have account := congrArg Multiset.card (kept .th (.inl rfl))
    rw [given, pending, awaited, acknowledged] at account
    simp at account

end LL320D.BleScan
