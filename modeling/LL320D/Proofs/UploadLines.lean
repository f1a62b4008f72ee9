import LL320D.UploadText

/-! The message for a record whose fields have the sizes of their buffers. It is not cut off, its receiver reads the
record out of it, and it is one line exactly when the name has no line break in it. -/

namespace LL320D.UploadText
open List
open AtText (cString)
open BleScan Library Library.Fields ScanRecv

variable {addr : BtAddrLe} {text uuid : List UInt8} {m : UploadMsg} (n : Nat)

/-- The sizes of the buffers of `tag_scan_result_t`. -/
structure TagFits (item : TagScanResult) : Prop where
  addr : item.addr.val.length = 6
  name : item.name.length < advNameMaxLen
  uuid : item.uuid.length ≤ uuidMaxLen
  ffData : item.ffData.length ≤ tagFfDataMaxLen

structure MacFits (item : TranMacResultItem) : Prop where
  addr : item.addr.val.length = 6
  advData : item.advData.length ≤ tranMacAdvDataMaxLen

lemma noBreak_append {first second : List UInt8} : NoBreak (first ++ second) ↔ NoBreak first ∧ NoBreak second := by
  simp only [NoBreak, mem_append]
  exact ⟨fun all => ⟨fun byte member => all byte (.inl member), fun byte member => all byte (.inr member)⟩,
    fun both byte member => member.elim (both.1 byte) (both.2 byte)⟩

lemma oneLine_iff (line) : OneLine (line ++ crLf) ↔ NoBreak line := by
  constructor
  · rintro ⟨other, same, clean⟩
    obtain rfl : line = other := append_cancel_right same
    exact clean
  · intro clean
    exact ⟨line, rfl, clean⟩

lemma plain_noBreak (plain : Plain text) : NoBreak text := by
  intro byte member
  have behind := plain byte member
  simp only [isBreak, Bool.or_eq_false_iff, decide_eq_false_iff_not]
  constructor
  all_goals
    rintro rfl
    exact absurd behind (by decide)

lemma number_noBreak : NoBreak (Decimal.text n) := plain_noBreak (number_plain n)

lemma noBreak_joined (fields : List (List UInt8)) : NoBreak (joined fields) ↔ ∀ field ∈ fields, NoBreak field := by
  induction fields with
  | nil => exact ⟨fun _ => nofun, fun _ => nofun⟩
  | cons field fields ih =>
    cases fields with
    | nil => rw [joined, forall_mem_singleton]
    | cons next fields =>
      have split : joined (field :: next :: fields) = field ++ ([comma] ++ joined (next :: fields)) := rfl
      have between : NoBreak [comma] := by
        intro byte member
        cases mem_singleton.mp member
        decide
      rw [split, noBreak_append, noBreak_append, ih]
      exact (and_congr_right fun _ => and_iff_right between).trans forall_mem_cons.symm

lemma snprintf_fits {size : Nat} (fits : text.length < size) : snprintf size text = text :=
  take_of_length_le (Nat.le_sub_one_of_lt fits)

lemma macStr_eq (six : addr.val.length = 6) : macStr addr = hex addr.val.reverse := by
  obtain ⟨type, val⟩ := addr
  have digits : (hex val.reverse).length < 13 := by
    rw [hex_length, length_reverse, six]
    decide
  match val, six with
  | [a, b, c, d, e, f], _ => exact snprintf_fits digits

lemma macStr_noBreak (six : addr.val.length = 6) : NoBreak (macStr addr) := by
  rw [macStr_eq six]
  exact plain_noBreak (hex_plain _)

lemma field_number (rest) : field (Decimal.text n ++ comma :: rest) = some (Decimal.text n, rest) :=
  field_append (number_plain n).not_comma rest

lemma field_macStr (six : addr.val.length = 6) (rest) : field (macStr addr ++ comma :: rest) = some (macStr addr, rest) := by
  rw [macStr_eq six]
  exact field_append (hex_plain _).not_comma rest

lemma macStr_length (six : addr.val.length = 6) : (macStr addr).length = 12 := by
  rw [macStr_eq six, hex_length, length_reverse, six]

lemma unhex_macStr (six : addr.val.length = 6) : (unhex (macStr addr)).reverse = addr.val := by
  rw [macStr_eq six, unhex_hex, reverse_reverse]

lemma noneStr_plain : Plain (cString "N/A") := by
  have all : (cString "N/A").all (comma < ·) = true := by decide
  intro byte member
  exact of_decide_eq_true (all_eq_true.mp all byte member)

lemma uuidStr_plain (uuid) : Plain (uuidStr uuid) := by
  rw [uuidStr]
  split
  · exact hex_plain _
  · exact noneStr_plain

lemma uuidStr_length (fits : uuid.length ≤ uuidMaxLen) : (uuidStr uuid).length ≤ 2 * uuidMaxLen := by
  rw [uuidStr]
  split
  · rw [take_of_length_le fits, hex_length]
    exact Nat.mul_le_mul_left 2 fits
  · decide

lemma bytes_hex {data : List UInt8} : bytes data.length (hex data) = some data := by
  rw [bytes]
  split
  next none => rw [length_eq_zero_iff.mp none]
  next => rw [if_pos (hex_length data), unhex_hex]

lemma bytes_uuidStr (fits : uuid.length ≤ uuidMaxLen) : bytes uuid.length (uuidStr uuid) = some uuid := by
  rw [uuidStr]
  split
  next => rw [take_of_length_le fits, bytes_hex]
  next none =>
    rw [length_eq_zero_iff.mp (Nat.eq_zero_of_not_pos none)]
    rfl

lemma ffFields_eq {ffData : List UInt8} (fits : ffData.length ≤ tagFfDataMaxLen) :
    ∃ text, ffFields ffData = [Decimal.text ffData.length, text] ∧ Plain text ∧ text.length ≤ 2 * tagFfDataMaxLen ∧
      bytes ffData.length text = some ffData := by
  rw [ffFields]
  split
  next =>
    refine ⟨_, rfl, hex_plain _, ?_, ?_⟩
    · rw [take_of_length_le fits, hex_length]
      exact Nat.mul_le_mul_left 2 fits
    · rw [take_of_length_le fits, bytes_hex]
  next none =>
    rw [length_eq_zero_iff.mp (Nat.eq_zero_of_not_pos none)]
    exact ⟨cString "N/A", by decide, noneStr_plain, by decide, rfl⟩

lemma lteSendCommand_eq (cmdName) {param : List UInt8} (some : 0 < param.length) :
    lteSendCommand cmdName param = cString "BLE+" ++ cmdName ++ cString "=" ++ param ++ crLf := by
  rw [lteSendCommand]
  simp only [some, if_true]
  refine snprintf_fits ?_
  have head : (cString "BLE+").length = 4 := by decide
  have between : (cString "=").length = 1 := by decide
  have final : crLf.length = 2 := rfl
  simp only [length_append, head, between, final]
  omega

lemma reads {α β : Type} {first : Option α} {rest : α → Option β} {a : α} {b : β} (found : first = some a)
    (later : rest a = some b) : (first >>= rest) = some b := by
  rw [found]
  exact later

lemma command_append (head text) : command head (head ++ text) = some text := by
  have starts : head.isPrefixOf (head ++ text) = true := isPrefixOf_iff_prefix.mpr (prefix_append ..)
  rw [command, if_pos starts, drop_left]

lemma lastField_append (text) : lastField (text ++ crLf) = some text := by
  have length : (text ++ crLf).length - 2 = text.length := by
    rw [length_append]
    rfl
  rw [lastField, length, drop_left, take_left, if_pos rfl]

lemma number_length (n width : Nat) (positive : 0 < width) (small : n < 10 ^ width) :
    (Decimal.text n).length ≤ width := Decimal.text_length_le positive small

section

variable {item : TagScanResult}

/-- The fields of a TAG message. -/
def tagList (item : TagScanResult) (seq : UInt16) (ff : List UInt8) : List (List UInt8) :=
  [Decimal.text seq.toNat, Decimal.text item.timestamp.toNat, macStr item.addr, Decimal.text item.batteryPercent.toNat,
    hex [item.rssi.toUInt8], Decimal.text item.name.length, item.name, Decimal.text item.uuid.length, uuidStr item.uuid,
    Decimal.text item.ffData.length, ff]

lemma tagList_length (fits : TagFits item) (seq) {ff : List UInt8} (short : ff.length ≤ 2 * tagFfDataMaxLen) :
    (joined (tagList item seq ff)).length < uploadMsgSize := by
  have seqText := number_length seq.toNat 5 (by decide) (Nat.lt_trans seq.toNat_lt (by decide))
  have timeText := number_length item.timestamp.toNat 10 (by decide) (Nat.lt_trans item.timestamp.toNat_lt (by decide))
  have batteryText := number_length item.batteryPercent.toNat 3 (by decide)
    (Nat.lt_trans item.batteryPercent.toNat_lt (by decide))
  have nameText := number_length item.name.length 2 (by decide) (Nat.lt_trans fits.name (by decide))
  have uuidText := number_length item.uuid.length 2 (by decide) (Nat.lt_of_le_of_lt fits.uuid (by decide))
  have ffText := number_length item.ffData.length 2 (by decide) (Nat.lt_of_le_of_lt fits.ffData (by decide))
  have mac := macStr_length fits.addr
  have uuid := uuidStr_length fits.uuid
  have name := fits.name
  have rssi : (hex [item.rssi.toUInt8]).length = 2 := hex_length _
  simp only [advNameMaxLen, uuidMaxLen, tagFfDataMaxLen] at name uuid short
  simp only [tagList, joined, length_append, length_cons, uploadMsgSize]
  omega

/-- The message is not cut off. -/
lemma tag_message (fits : TagFits item) (seq) :
    ∃ ff, Plain ff ∧ bytes item.ffData.length ff = some item.ffData ∧
      message .tag seq item = cString "BLE+TAG=" ++ joined (tagList item seq ff) ++ crLf := by
  obtain ⟨ff, fields, plain, short, read⟩ := ffFields_eq fits.ffData
  have param : tagScanUploadOne item seq = joined (tagList item seq ff) := by
    have whole := snprintf_fits (tagList_length fits seq short)
    rw [tagScanUploadOne, fields]
    exact whole
  have some : 0 < (joined (tagList item seq ff)).length := by
    simp only [tagList, joined, length_append, length_cons]
    omega
  refine ⟨ff, plain, read, ?_⟩
  have head : cString "BLE+" ++ cString "TAG" ++ cString "=" = cString "BLE+TAG=" := by decide
  have sent : message .tag seq item = lteSendCommand (cString "TAG") (tagScanUploadOne item seq) := rfl
  rw [sent, param, lteSendCommand_eq _ some, head]

lemma tag_decodes (fits : TagFits item) (seq) : Decodes .tag seq item := by
  obtain ⟨ff, plain, read, text⟩ := tag_message fits seq
  have rssi (rest : List UInt8) :
      field (hex [item.rssi.toUInt8] ++ comma :: rest) = some (hex [item.rssi.toUInt8], rest) :=
    field_append (hex_plain _).not_comma rest
  have uuid (rest : List UInt8) : field (uuidStr item.uuid ++ comma :: rest) = some (uuidStr item.uuid, rest) :=
    field_append (uuidStr_plain _).not_comma rest
  have name (rest : List UInt8) : counted (Decimal.value (Decimal.text item.name.length)) (item.name ++ comma :: rest) =
      some (item.name, rest) := by
    rw [Decimal.value_text]
    exact counted_append _ _
  have uuidBytes : bytes (Decimal.value (Decimal.text item.uuid.length)) (uuidStr item.uuid) = some item.uuid := by
    rw [Decimal.value_text]
    exact bytes_uuidStr fits.uuid
  have ffBytes : bytes (Decimal.value (Decimal.text item.ffData.length)) ff = some item.ffData := by
    rw [Decimal.value_text]
    exact read
  have line : joined (tagList item seq ff) ++ crLf = Decimal.text seq.toNat ++ comma ::
      (Decimal.text item.timestamp.toNat ++ comma :: (macStr item.addr ++ comma ::
      (Decimal.text item.batteryPercent.toNat ++ comma :: (hex [item.rssi.toUInt8] ++ comma ::
      (Decimal.text item.name.length ++ comma :: (item.name ++ comma :: (Decimal.text item.uuid.length ++ comma ::
      (uuidStr item.uuid ++ comma :: (Decimal.text item.ffData.length ++ comma :: (ff ++ crLf)))))))))) := by
    simp only [tagList, joined, append_assoc, cons_append]
  show decodeTag (message .tag seq item) = some (tagFields seq item)
  rw [text, append_assoc, line, decodeTag]
  refine reads (command_append _ _) (reads (field_number _ _) (reads (field_number _ _) (reads (field_macStr fits.addr _) (reads (field_number _ _)
    (reads (rssi _) (reads (field_number _ _) (reads (name _) (reads (field_number _ _) (reads (uuid _) (reads (field_number _ _)
    (reads (lastField_append _) (reads uuidBytes (reads ffBytes ?_)))))))))))))
  simp only [Decimal.value_text, unhex_macStr fits.addr, unhex_hex, headD_cons, Int8.toInt8_toUInt8]
  rfl

/-- Only the name can bring a line break into the message. -/
lemma tag_oneLine_iff (fits : TagFits item) (seq) : OneLine (message .tag seq item) ↔ NoBreak item.name := by
  obtain ⟨ff, plain, _, text⟩ := tag_message fits seq
  have head : NoBreak (cString "BLE+TAG=") := by decide
  have mac := macStr_noBreak fits.addr
  rw [text, oneLine_iff, noBreak_append, noBreak_joined]
  constructor
  · intro clean
    exact clean.2 _ (by simp [tagList])
  · intro clean
    refine ⟨head, ?_⟩
    simp only [tagList, forall_mem_cons, not_mem_nil, false_implies, implies_true, and_true]
    exact ⟨number_noBreak _, number_noBreak _, mac, number_noBreak _, plain_noBreak (hex_plain _), number_noBreak _, clean,
      number_noBreak _, plain_noBreak (uuidStr_plain _), number_noBreak _, plain_noBreak plain⟩

end

variable {item : TranMacResultItem}

def macList (item : TranMacResultItem) (seq : UInt16) (data : List UInt8) : List (List UInt8) :=
  [Decimal.text seq.toNat, Decimal.text item.timestamp.toNat, macStr item.addr, Decimal.text item.advData.length, data]

lemma print_append (here : m.offset = m.text.length)
    (fits : m.offset + text.length < uploadMsgSize) : m.print text = ⟨m.text ++ text, m.offset + text.length⟩ := by
  rw [UploadMsg.print, snprintf_fits (by omega), here, take_length]

/-- The loop over the data, as long as there is room. -/
lemma print_bytes (data : List UInt8) (here : m.offset = m.text.length)
    (fits : m.offset + 2 * data.length < uploadMsgSize) :
    (data.foldl (fun m byte => m.print (hex [byte])) m).text = m.text ++ hex data := by
  induction data generalizing m with
  | nil => exact (append_nil _).symm
  | cons byte data ih =>
    have two : (hex [byte]).length = 2 := hex_length _
    rw [length_cons] at fits
    have printed : m.print (hex [byte]) = _ := print_append here (by omega)
    rw [foldl_cons, printed, ih (by rw [length_append, here]) (by simp only [two]; omega)]
    exact append_assoc ..

lemma macList_length (fits : MacFits item) (seq) :
    (joined (macList item seq [])).length + 2 * item.advData.length < uploadMsgSize := by
  have seqText := number_length seq.toNat 5 (by decide) (Nat.lt_trans seq.toNat_lt (by decide))
  have timeText := number_length item.timestamp.toNat 10 (by decide) (Nat.lt_trans item.timestamp.toNat_lt (by decide))
  have dataText := number_length item.advData.length 2 (by decide) (Nat.lt_of_le_of_lt fits.advData (by decide))
  have mac := macStr_length fits.addr
  have data := fits.advData
  simp only [tranMacAdvDataMaxLen] at data
  simp only [macList, joined, length_append, length_cons, length_nil, uploadMsgSize]
  omega

lemma mac_message (fits : MacFits item) (seq) :
    message .mac seq item = cString "BLE+MACINFO=" ++ joined (macList item seq (hex item.advData)) ++ crLf := by
  have room := macList_length fits seq
  have head : (⟨[], 0⟩ : UploadMsg).print (joined (macList item seq [])) =
      ⟨joined (macList item seq []), (joined (macList item seq [])).length⟩ := by
    rw [print_append rfl (by simp only; omega)]
    simp only [nil_append, Nat.zero_add]
  have param : tranMacUploadOne item seq = joined (macList item seq (hex item.advData)) := by
    have printed := print_bytes item.advData (m := ⟨joined (macList item seq []), _⟩) rfl room
    rw [← head] at printed
    refine printed.trans ?_
    rw [head]
    simp only [macList, joined, append_assoc, cons_append, nil_append]
  have some : 0 < (joined (macList item seq (hex item.advData))).length := by
    simp only [macList, joined, length_append, length_cons]
    omega
  have start : cString "BLE+" ++ cString "MACINFO" ++ cString "=" = cString "BLE+MACINFO=" := by decide
  have sent : message .mac seq item = lteSendCommand (cString "MACINFO") (tranMacUploadOne item seq) := rfl
  rw [sent, param, lteSendCommand_eq _ some, start]

lemma mac_decodes (fits : MacFits item) (seq) : Decodes .mac seq item := by
  have dataBytes : bytes (Decimal.value (Decimal.text item.advData.length)) (hex item.advData) = some item.advData := by
    rw [Decimal.value_text]
    exact bytes_hex
  have line : joined (macList item seq (hex item.advData)) ++ crLf = Decimal.text seq.toNat ++ comma ::
      (Decimal.text item.timestamp.toNat ++ comma :: (macStr item.addr ++ comma ::
      (Decimal.text item.advData.length ++ comma :: (hex item.advData ++ crLf)))) := by
    simp only [macList, joined, append_assoc, cons_append]
  show decodeMac (message .mac seq item) = some (macFields seq item)
  rw [mac_message fits, append_assoc, line, decodeMac]
  refine reads (command_append _ _) (reads (field_number _ _) (reads (field_number _ _) (reads (field_macStr fits.addr _) (reads (field_number _ _)
    (reads (lastField_append _) (reads dataBytes ?_))))))
  simp only [Decimal.value_text, unhex_macStr fits.addr]
  rfl

lemma mac_oneLine (fits : MacFits item) (seq) : OneLine (message .mac seq item) := by
  have head : NoBreak (cString "BLE+MACINFO=") := by decide
  have mac := macStr_noBreak fits.addr
  rw [mac_message fits, oneLine_iff, noBreak_append, noBreak_joined]
  refine ⟨head, ?_⟩
  simp only [macList, forall_mem_cons, not_mem_nil, false_implies, implies_true, and_true]
  exact ⟨number_noBreak _, number_noBreak _, mac, number_noBreak _, plain_noBreak (hex_plain _)⟩

end LL320D.UploadText
