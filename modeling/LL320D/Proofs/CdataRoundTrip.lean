import LL320D.Proofs.SensorBackfill

/-! The text of a CDATA packet is its fields separated by commas, whatever the order in which the buffer was filled; so
it reads back to what was put in. -/

namespace LL320D.BleScan
open FlashStore List

variable {type : FsDataType}

def valueText (value : Int) : List Char := value.repr.toList

lemma valueText_chars (value : Int) : ∀ c ∈ valueText value, c ≠ ',' ∧ c ≠ nul := by
  have digits (n : Nat) : ∀ c ∈ n.repr.toList, c ≠ ',' ∧ c ≠ nul := by
    intro c member
    have digit : c.isDigit = true := by
      rw [Nat.toList_repr] at member
      exact Nat.isDigit_of_mem_toDigits (by decide) (by decide) member
    constructor
    all_goals
      rintro rfl
      exact absurd digit (by decide)
  cases value with
  | ofNat n => exact digits n
  | negSucc n =>
    intro c member
    rw [valueText, show (Int.negSucc n).repr = "-" ++ (n + 1).repr from rfl, String.toList_append] at member
    rcases mem_append.mp member with sign | digit
    · cases mem_singleton.mp sign
      decide
    · exact digits _ c digit

lemma recordText_values (record) :
    (sensorCdataRecordText type record).toList = (recordValues type record).flatMap fun value => ',' :: valueText value := by
  cases type with
  | th | bp =>
    simp only [sensorCdataRecordText, recordValues, String.toList_append, flatMap_cons, flatMap_nil, append_assoc, append_nil]
    rfl
  | tag | mac => rfl

lemma recordsOf_values (sensor : type = .th ∨ type = .bp) (records : List (FsRecord type)) :
    recordsOf type (records.flatMap (recordValues type)) = records := by
  induction records with
  | nil => rcases sensor with rfl | rfl <;> rfl
  | cons record rest ih =>
    rw [flatMap_cons]
    rcases sensor with rfl | rfl
    · simp only [recordValues, cons_append, nil_append, recordsOf, ih, Int.toNat_natCast, UInt32.ofNat_toNat,
        UInt16.ofNat_toNat, Int16.ofInt_toInt]
      rfl
    · simp only [recordValues, cons_append, nil_append, recordsOf, ih, Int.toNat_natCast, UInt32.ofNat_toNat]
      rfl

lemma intercalate_cons (first : List Char) (rest : List (List Char)) :
    [','].intercalate (first :: rest) = first ++ rest.flatMap fun field => ',' :: field := by
  induction rest generalizing first with
  | nil => simp
  | cons second rest ih =>
    rw [intercalate_cons_cons, ih second]
    simp

/-- Decimals separated by commas read back to the numbers. -/
lemma decode_values (type) (seq count : Int) (values) :
    decodeCdata type ([','].intercalate ((seq :: count :: values).map valueText)) =
      some (seq, count, recordsOf type values) := by
  have split : (([','].intercalate ((seq :: count :: values).map valueText)).splitOn ',') =
      (seq :: count :: values).map valueText := by
    refine splitOn_intercalate ',' ?_ (cons_ne_nil _ _)
    intro field member comma
    obtain ⟨value, -, rfl⟩ := mem_map.mp member
    exact (valueText_chars value ',' comma).1 rfl
  have parsed : ((seq :: count :: values).map valueText).mapM (fun field => (String.ofList field).toInt?) =
      some (seq :: count :: values) := by
    generalize seq :: count :: values = all
    induction all with
    | nil => rfl
    | cons value rest ih =>
      rw [map_cons, mapM_cons, ih, valueText, String.ofList_toList, Int.toInt?_repr]
      rfl
  rw [decodeCdata, split, parsed]

section
variable {type : FsDataType} (records : List (FsRecord type))

lemma putAt_append (before after bytes : List Char) {pos : Nat} (behind : before.length = pos) :
    putAt (before ++ after) pos bytes = before ++ bytes ++ after.drop bytes.length := by
  rw [putAt, ← behind, take_left, drop_append, Nat.add_sub_cancel_left, drop_eq_nil_of_le (Nat.le_add_right ..), nil_append]

/-- Moving a text to the front and copying another in front of it leaves the two as one string. -/
lemma joined_front (head text tail front : List Char) (short : front.length ≤ head.length)
    (clean : ∀ c ∈ front ++ text, c ≠ nul) :
    (putAt (putAt (head ++ text ++ nul :: tail) front.length
      (((head ++ text ++ nul :: tail).drop head.length).take (text.length + 1))) 0 front).takeWhile (· ≠ nul) =
      front ++ text := by
  have moved : ((head ++ text ++ nul :: tail).drop head.length).take (text.length + 1) = text ++ [nul] := by
    rw [append_assoc, drop_left, append_cons]
    exact take_left' length_append
  have place := length_take_of_le short
  have cut : head ++ text ++ nul :: tail = head.take front.length ++ (head.drop front.length ++ text ++ nul :: tail) := by
    rw [append_assoc (drop ..), ← append_assoc (take ..), take_append_drop, append_assoc]
  rw [moved, cut, putAt_append _ _ _ place, ← nil_append (_ ++ _ ++ drop ..), putAt_append [] _ _ length_nil, nil_append,
    append_assoc (take ..), drop_left' place, append_assoc text, ← append_assoc front,
    takeWhile_append_of_pos fun c member => decide_eq_true (clean c member), singleton_append,
    takeWhile_cons_of_neg (by decide), append_nil]

def recordsText (type : FsDataType) (records : List (FsRecord type)) : List Char :=
  records.flatMap fun record => (sensorCdataRecordText type record).toList

/-- The texts stand behind one another from the reserved place on, and end with a NUL. -/
lemma append_records (head text tail : List Char) :
    ∃ rest, records.foldl (sensorCdataAppend type) (head ++ text ++ nul :: tail, head.length + text.length) =
      (head ++ (text ++ recordsText type records) ++ nul :: rest,
        head.length + (text ++ recordsText type records).length) := by
  induction records generalizing text tail with
  | nil => exact ⟨tail, by simp [recordsText]⟩
  | cons record records ih =>
    obtain ⟨rest, filled⟩ := ih (text ++ (sensorCdataRecordText type record).toList)
      ((nul :: tail).drop ((sensorCdataRecordText type record).toList.length + 1))
    refine ⟨rest, ?_⟩
    rw [foldl_cons, sensorCdataAppend, putAt_append _ _ _ length_append]
    simpa [recordsText, Nat.add_assoc] using filled

lemma recordsText_eq :
    recordsText type records = ((records.flatMap (recordValues type)).map valueText).flatMap fun field => ',' :: field := by
  induction records with
  | nil => rfl
  | cons record rest ih =>
    rw [recordsText, flatMap_cons, ← recordsText, ih, recordText_values, flatMap_cons, map_append, flatMap_append]
    simp only [flatMap_map]

lemma join_chars (values : List Int) : ∀ c ∈ (values.map valueText).flatMap (fun field => ',' :: field), c ≠ nul := by
  intro c member
  obtain ⟨field, isField, inside⟩ := mem_flatMap.mp member
  obtain ⟨value, -, rfl⟩ := mem_map.mp isField
  rcases mem_cons.mp inside with rfl | digit
  · decide
  · exact (valueText_chars value c digit).2

lemma heading_eq (nextSeq count : Nat) :
    (nextSeq.repr ++ "," ++ count.repr).toList = valueText nextSeq ++ ',' :: valueText count := by
  simp only [String.toList_append, append_assoc]
  rfl

lemma param_front (nextSeq : Nat) (records : List (FsRecord type))
    (short : (nextSeq.repr ++ "," ++ records.length.repr).toList.length ≤ sensorCdataPrefixReservedLen) :
    sensorCdataParam type nextSeq records =
      (nextSeq.repr ++ "," ++ records.length.repr).toList ++ recordsText type records := by
  obtain ⟨rest, filled⟩ := append_records records (replicate sensorCdataPrefixReservedLen nul) []
    (replicate (sensorCdataParamMaxLen - sensorCdataPrefixReservedLen - 1) nul)
  have blank : replicate sensorCdataPrefixReservedLen nul ++ [] ++
      nul :: replicate (sensorCdataParamMaxLen - sensorCdataPrefixReservedLen - 1) nul =
      replicate sensorCdataParamMaxLen nul := by
    rw [append_nil, ← replicate_succ, replicate_append_replicate]
    rfl
  rw [blank, length_nil, Nat.add_zero, length_replicate, nil_append] at filled
  have clean : ∀ c ∈ (nextSeq.repr ++ "," ++ records.length.repr).toList ++ recordsText type records, c ≠ nul := by
    rw [recordsText_eq, heading_eq, append_assoc]
    intro c member
    rcases mem_append.mp member with number | joined
    · exact (valueText_chars _ c number).2
    · exact join_chars (records.length :: records.flatMap (recordValues type)) c joined
  have joined := joined_front (replicate sensorCdataPrefixReservedLen nul) (recordsText type records) rest _
    (by rwa [length_replicate]) clean
  rw [length_replicate] at joined
  simp only [sensorCdataParam, filled, Nat.add_sub_cancel_left, joined]

lemma front_decodes (sensor : type = .th ∨ type = .bp) (nextSeq : Nat) (records : List (FsRecord type)) :
    decodeCdata type ((nextSeq.repr ++ "," ++ records.length.repr).toList ++ recordsText type records) =
      some ((nextSeq : Int), (records.length : Int), records) := by
  have fields := decode_values type nextSeq records.length (records.flatMap (recordValues type))
  rw [map_cons, map_cons, intercalate_cons, flatMap_cons, recordsOf_values sensor] at fields
  rw [recordsText_eq, heading_eq, append_assoc]
  exact fields

lemma recordsText_length (sensor : type = .th ∨ type = .bp) (records : List (FsRecord type)) :
    (recordsText type records).length ≤ records.length * sensorCdataRecordMaxTextLenGet type := by
  induction records with
  | nil => exact Nat.zero_le _
  | cons record rest ih =>
    have short := (recordText_length sensor record).2
    rw [recordsText, flatMap_cons, length_append, ← recordsText, String.length_toList, length_cons, Nat.succ_mul]
    omega

end

section
variable [Crc32Ieee] {type : FsDataType} {env : BleEnv} {all rest : List (FsRecord type)}

/-- A call of `sensor_cdata_send_next_packet` in a session hands `lte_send_command` a text that reads back to the packet
number, the record count and the oldest records left, as many as a packet may have. -/
theorem cdata_text_round_trip (sensor : type = .th ∨ type = .bp) (reads : ∀ call, (env.io call).ReadsOk) {b : BleState}
    (uploads : b.sensorUploadCtx.uploadType = some type) (drains : Drains (fsLayout type) (b.store type) all rest)
    (left : rest ≠ []) (numbered : b.sensorUploadCtx.nextSeq < 2 ^ 16) :
    ∃ n param, n = min rest.length (sensorCdataMaxRecordsPerPacket type) ∧ (∃ after, sensorCdataSendNextPacket env b =
        sensorCdataHand env type b.sensorUploadCtx.nextSeq (rest.take n) after) ∧
      param = sensorCdataParam type b.sensorUploadCtx.nextSeq (rest.take n) ∧
      decodeCdata type param = some ((b.sensorUploadCtx.nextSeq : Int), (n : Int), rest.take n) ∧
      param.length < sensorCdataParamMaxLen ∧
      sensorCdataCmdPrefixLen + param.length + 2 ≤ sensorCdataUartFrameMaxLen := by
  obtain ⟨after, hands, -⟩ := sendNext_hands sensor reads uploads drains left (by omega)
  have short := prefix_short sensor (show b.sensorUploadCtx.nextSeq < 10 ^ 5 by omega) rest
  have same : rest.take (min rest.length (sensorCdataMaxRecordsPerPacket type)) =
      rest.take (sensorCdataMaxRecordsPerPacket type) := by rw [Nat.min_comm, ← take_eq_take_min]
  have count : (rest.take (sensorCdataMaxRecordsPerPacket type)).length =
      min rest.length (sensorCdataMaxRecordsPerPacket type) := by rw [length_take, Nat.min_comm]
  have few : (rest.take (sensorCdataMaxRecordsPerPacket type)).length * sensorCdataRecordMaxTextLenGet type ≤ 975 := by
    refine Nat.le_trans (Nat.mul_le_mul_right _ (length_take_le ..)) ?_
    rcases sensor with rfl | rfl <;> decide
  have texts := recordsText_length sensor (rest.take (sensorCdataMaxRecordsPerPacket type))
  have front := param_front b.sensorUploadCtx.nextSeq (rest.take (sensorCdataMaxRecordsPerPacket type))
    (by rw [String.length_toList]; exact Nat.le_trans short (by decide))
  refine ⟨_, _, rfl, ⟨after, by rw [same, hands]⟩, rfl, ?_⟩
  rw [same, front, front_decodes sensor, length_append, String.length_toList]
  exact ⟨by rw [count], by change _ < 1012; omega, by change 10 + _ + 2 ≤ 1024; omega⟩

end

def keptSample : List (FsRecord .bp) := [(⟨9, 101325⟩ : FsBarometerRecord)]

theorem one_sample_round_trip : ∃ n param, n = min keptSample.length (sensorCdataMaxRecordsPerPacket .bp) ∧
    (∃ after, sensorCdataSendNextPacket .ok (sensorCachedUploadTryStart .ok sampleKept) =
      sensorCdataHand .ok .bp 1 (keptSample.take n) after) ∧
    param = sensorCdataParam .bp 1 (keptSample.take n) ∧
    decodeCdata .bp param = some (((1 : Nat) : Int), (n : Int), keptSample.take n) ∧
    param.length < sensorCdataParamMaxLen ∧ sensorCdataCmdPrefixLen + param.length + 2 ≤ sensorCdataUartFrameMaxLen := by
  obtain ⟨_, _, rep⟩ := sampleKept_reachable.inv
  have started : sentPackets (sensorCachedUploadTryStart .ok sampleKept).log =
    sentPackets sampleKept.log ++ [LtePacket.cdataStart .bp 1] := rfl
  have begun := (tryStart_begun (rep .bp) started).2.2
  exact cdata_text_round_trip (.inr rfl) (fun _ => FsIo.ok_ok.flashRead) rfl begun.drains (cons_ne_nil _ _) (by decide)

end LL320D.BleScan
