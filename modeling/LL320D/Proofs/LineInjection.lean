import LL320D.Proofs.ScanRecords

/-! From the air to the LTE module: the parsers read only the packet and find what its complete structures hold, and a name
that a remote device chose goes into a line of text. -/

namespace LL320D.AdParser
open ScanRecv List Copied

variable {fuel n pos size : Nat} {buf : List UInt8}

section
variable {ρ : Type} {buf : List UInt8}

/-- The loop over decoded structures: `step` gives the outputs and whether to return. -/
def runSteps (step : ρ → AdStructure → ρ × Bool) : ρ → List AdStructure → ρ
  | out, [] => out
  | out, ad :: rest => if (step out ad).2 then (step out ad).1 else runSteps step (step out ad).1 rest

/-- A round stays inside the structure's data and computes what `step` does with the structure. -/
def Decodes (buf : List UInt8) (visit : ρ → UInt8 → Nat → Nat → Visit ρ) (step : ρ → AdStructure → ρ × Bool) : Prop :=
  ∀ out type pos n, (bytesAt buf pos n).length = n → (∀ i ∈ (visit out type pos n).reads, i < pos + n) ∧
      ((visit out type pos n).out, (visit out type pos n).done) = step out ⟨type, bytesAt buf pos n⟩

lemma adStructures_drop (more : ¬ buf.length - pos ≤ 1) : adStructures (buf.drop pos) =
      if (buf.getD pos 0).toNat = 0 then []
      else if buf.length - (pos + 1) < (buf.getD pos 0).toNat then []
      else ⟨buf.getD (pos + 1) 0, bytesAt buf (pos + 2) ((buf.getD pos 0).toNat - 1)⟩ ::
        adStructures (buf.drop (pos + 2 + ((buf.getD pos 0).toNat - 1))) := by
  have first : pos < buf.length := by omega
  have second : pos + 1 < buf.length := by omega
  rw [drop_eq_getElem_cons first, drop_eq_getElem_cons second, adStructures]
  simp only [getD_eq_getElem?_getD, List.getElem?_eq_getElem first, List.getElem?_eq_getElem second,
    Option.getD_some, length_drop, drop_drop, bytesAt,
    show buf.length - (pos + 1 + 1) + 1 = buf.length - (pos + 1) by omega]

/-- Each round pulls at least one byte, so that as many rounds as bytes left are enough. -/
lemma parseLoop_decodes {visit : ρ → UInt8 → Nat → Nat → Visit ρ} {step : ρ → AdStructure → ρ × Bool}
    (decodes : Decodes buf visit step) (fuel pos : Nat) (out : ρ) (enough : buf.length - pos ≤ fuel) :
    (∀ i ∈ (parseLoop buf visit fuel pos out).1, i < buf.length) ∧
      (parseLoop buf visit fuel pos out).2 = runSteps step out (adStructures (buf.drop pos)) := by
  induction fuel generalizing pos out with
  | zero =>
    rw [drop_eq_nil_of_le (by omega)]
    simp [parseLoop, adStructures, runSteps]
  | succ fuel ih =>
    by_cases few : buf.length - pos ≤ 1
    · have short : adStructures (buf.drop pos) = [] := by
        rcases left : buf.drop pos with _ | ⟨len, _ | ⟨type, rest⟩⟩
        · simp [adStructures]
        · simp [adStructures]
        · have := congrArg List.length left
          simp only [length_drop, length_cons] at this
          omega
      simp only [parseLoop, if_pos few, short, runSteps, not_mem_nil, false_implies, implies_true, and_self]
    · rw [adStructures_drop few]
      simp only [parseLoop, if_neg few]
      generalize (buf.getD pos 0).toNat = len
      by_cases zero : len = 0
      · simp only [if_pos zero, mem_singleton, forall_eq, runSteps, and_true]
        omega
      · by_cases long : buf.length - (pos + 1) < len
        · simp only [if_neg zero, if_pos long, mem_singleton, forall_eq, runSteps, and_true]
          omega
        · have whole : (bytesAt buf (pos + 2) (len - 1)).length = len - 1 := by
            simp only [bytesAt, length_take, length_drop]
            omega
          obtain ⟨inside, same⟩ := decodes out (buf.getD (pos + 1) 0) (pos + 2) (len - 1) whole
          simp only [if_neg zero, if_neg long, runSteps, ← same]
          obtain ⟨restInside, restSame⟩ := ih (pos + 2 + (len - 1))
            (visit out (buf.getD (pos + 1) 0) (pos + 2) (len - 1)).out (by omega)
          rw [show pos + 1 + len = pos + 2 + (len - 1) by omega]
          have read : ∀ i ∈ (visit out (buf.getD (pos + 1) 0) (pos + 2) (len - 1)).reads, i < buf.length :=
            fun i mem => Nat.lt_of_lt_of_le (inside i mem) (by omega)
          split
          · simp only [mem_cons, forall_eq_or_imp, and_true]
            exact ⟨by omega, by omega, read⟩
          · simp only [cons_append, mem_cons, mem_append, or_imp, forall_and, forall_eq]
            exact ⟨⟨by omega, by omega, read, restInside⟩, restSame⟩

lemma runSteps_find (found : AdStructure → Bool) (give : AdStructure → ρ) (out : ρ) (ads : List AdStructure) :
    runSteps (fun out ad => if found ad then (give ad, true) else (out, false)) out ads =
      ((ads.find? found).map give).getD out := by
  induction ads with
  | nil => rfl
  | cons ad rest ih =>
    by_cases is : found ad
    · simp only [runSteps, is, if_true, List.find?_cons, Option.map_some, Option.getD_some]
    · simp only [runSteps, is, Bool.false_eq_true, if_false, List.find?_cons, ih]

end

lemma getD_bytesAt {i : Nat} (inside : i < n) : (bytesAt buf pos n).getD i 0 = buf.getD (pos + i) 0 := by
  simp only [bytesAt, getD_eq_getElem?_getD, List.getElem?_take, inside, if_true, List.getElem?_drop]

lemma reads_range {k : Nat} : ∀ i ∈ List.range' pos (min n k), i < pos + n := by
  intro i mem
  have := mem_range'_1.mp mem
  omega

/-- What a copy of `bytes` leaves in an output buffer. -/
def Copied.of (bytes : List UInt8) : Copied := ⟨true, bytes.zipIdx, bytes.length⟩

/-- A copied name ends with a NUL that `outLen` does not count. -/
def Copied.ofName (name : List UInt8) : Copied := ⟨true, (name ++ [0]).zipIdx, name.length⟩

lemma bytesAt_min (k) : bytesAt buf pos (min n k) = (bytesAt buf pos n).take k := by
  simp only [bytesAt, take_take, Nat.min_comm]

lemma copied_of (whole : (bytesAt buf pos n).length = n) (k) :
    (⟨true, (bytesAt buf pos (min n k)).zipIdx, min n k⟩ : Copied) = .of ((bytesAt buf pos n).take k) := by
  simp only [of, bytesAt_min, length_take, whole, Nat.min_comm]

lemma copied_ofName (whole : (bytesAt buf pos n).length = n) (k) :
    (⟨true, (bytesAt buf pos (min n k)).zipIdx ++ [(0, min n k)], min n k⟩ : Copied) =
      .ofName ((bytesAt buf pos n).take k) := by
  simp only [ofName, bytesAt_min, zipIdx_append, zipIdx_cons, zipIdx_nil, Nat.zero_add,
    length_take, whole, Nat.min_comm]

lemma parseScanRspName_decodes (buf : List UInt8) (maxLen : UInt8) (enough : buf.length ≤ fuel) :
    (∀ i ∈ (parseScanRspName buf maxLen fuel).1, i < buf.length) ∧ (parseScanRspName buf maxLen fuel).2 =
        ((firstName buf ((maxLen - 1).toNat + 1)).map Copied.ofName).getD .none := by
  simp only [firstName, Option.map_map, Nat.add_sub_cancel]
  rw [← runSteps_find (fun ad => isName ad.type)]
  refine parseLoop_decodes ?_ fuel 0 Copied.none enough
  intro out type pos n whole
  by_cases is : isName type
  · simp only [is, if_true, copied_ofName whole, Function.comp_apply, and_true]
    exact reads_range
  · simp [is]

lemma parseFfData_decodes (buf : List UInt8) (maxLen : UInt8) (enough : buf.length ≤ fuel) :
    (∀ i ∈ (parseFfData buf maxLen fuel).1, i < buf.length) ∧ (parseFfData buf maxLen fuel).2 =
        ((ScanRecv.parseFfData buf).map fun data => Copied.of (data.take maxLen.toNat)).getD .none := by
  simp only [ScanRecv.parseFfData, Option.map_map]
  rw [← runSteps_find]
  refine parseLoop_decodes ?_ fuel 0 Copied.none enough
  intro out type pos n whole
  simp only [whole]
  split
  · simp only [copied_of whole, Function.comp_apply, and_true]
    exact reads_range
  · simp

def isUuid (ad : AdStructure) : Bool := ad.type = btDataUuid16Some

def isBattery (ad : AdStructure) : Bool := ad.type = btDataUuid32Some && 8 ≤ ad.data.length && ad.data.getD 6 0 = 0x02

def payloadStep (out : Payload) (ad : AdStructure) : Payload × Bool :=
  (⟨if isUuid ad && !out.uuid.found then .of (ad.data.take uuidMaxLen) else out.uuid, out.batteryFound || isBattery ad,
    if isBattery ad && !out.batteryFound then ad.data.getD 7 0 else out.batteryPercent⟩, false)

lemma runSteps_payload (out : Payload) (ads : List AdStructure) : runSteps payloadStep out ads =
      ⟨if out.uuid.found then out.uuid
        else ((ads.find? isUuid).map fun ad => .of (ad.data.take uuidMaxLen)).getD out.uuid,
        out.batteryFound || (ads.find? isBattery).isSome,
        if out.batteryFound then out.batteryPercent
        else ((ads.find? isBattery).map fun ad => ad.data.getD 7 0).getD out.batteryPercent⟩ := by
  induction ads generalizing out with
  | nil => simp [runSteps]
  | cons ad rest ih =>
    have next : runSteps payloadStep out (ad :: rest) = runSteps payloadStep (payloadStep out ad).1 rest := by
      simp only [runSteps, payloadStep, Bool.false_eq_true, if_false]
    rw [next, ih, payloadStep]
    simp only [List.find?_cons]
    by_cases uuid : isUuid ad <;> by_cases battery : isBattery ad <;> by_cases hadUuid : out.uuid.found <;>
      by_cases hadBattery : out.batteryFound <;> simp [uuid, battery, hadUuid, hadBattery, of]

lemma visitPayload_decodes (buf) : Decodes buf (visitPayload buf) payloadStep := by
  have apart : ¬ btDataUuid16Some = btDataUuid32Some := by decide
  intro ⟨uuid, batteryFound, percent⟩ type pos n whole
  simp only [visitPayload, payloadStep, isUuid, isBattery, whole, ← copied_of whole]
  by_cases isUuid16 : type = btDataUuid16Some
  · subst isUuid16
    cases uuid.found
    · simp only [apart, decide_true, decide_false, Bool.not_false, Bool.and_self, Bool.false_and, Bool.or_false, if_true,
        Bool.false_eq_true, if_false, and_true]
      exact reads_range
    · simp [apart]
  · by_cases large : type = btDataUuid32Some ∧ 8 ≤ n
    · obtain ⟨rfl, long⟩ := large
      rw [getD_bytesAt (show 6 < n by omega), getD_bytesAt (show 7 < n by omega)]
      generalize buf.getD (pos + 6) 0 = kind, buf.getD (pos + 7) 0 = value
      cases batteryFound
      · by_cases battery : kind = 0x02
        all_goals
          simp [battery, long, Ne.symm apart]
          omega
      · simp [Ne.symm apart]
    · by_cases is : type = btDataUuid32Some
      · simp [is, Ne.symm apart, show ¬ 8 ≤ n from fun long => large ⟨is, long⟩]
      · simp [isUuid16, is]

lemma parseScanRspPayload_decodes (buf : List UInt8) (enough : buf.length ≤ fuel) :
    (∀ i ∈ (parseScanRspPayload buf fuel).1, i < buf.length) ∧ (parseScanRspPayload buf fuel).2 =
        ⟨((firstUuid buf).map Copied.of).getD .none, (firstBattery buf).isSome, (firstBattery buf).getD 0⟩ := by
  obtain ⟨inside, same⟩ := parseLoop_decodes (visitPayload_decodes buf) fuel 0 ⟨.none, false, 0⟩ enough
  refine ⟨inside, same.trans ((runSteps_payload _ _).trans ?_)⟩
  simp only [Copied.none, firstUuid, firstBattery, Option.map_map, Option.isSome_map, Bool.false_or, Bool.false_eq_true, if_false, drop_zero]
  rfl

lemma stored_inside {bytes : List UInt8} (short : bytes.length ≤ size) : ∀ s ∈ bytes.zipIdx, s.2 < size :=
  fun _ mem => Nat.lt_of_lt_of_le (snd_lt_of_mem_zipIdx mem) short

lemma Copied.getD_inside {α : Type} {found : Option α} {give : α → Copied}
    (inside : ∀ a ∈ found, ∀ s ∈ (give a).stored, s.2 < size) :
    ∀ s ∈ ((found.map give).getD .none).stored, s.2 < size := by
  cases found with
  | none => exact fun s mem => nomatch (show s ∈ [] from mem)
  | some a => exact inside a rfl

lemma firstName_length {buf name : List UInt8} {maxLen : Nat} (is : name ∈ firstName buf maxLen) :
    name.length ≤ maxLen - 1 := by
  obtain ⟨ad, -, rfl⟩ := Option.map_eq_some_iff.mp is
  exact length_take_le ..

lemma firstUuid_length {buf uuid : List UInt8} (is : uuid ∈ firstUuid buf) : uuid.length ≤ uuidMaxLen := by
  obtain ⟨ad, -, rfl⟩ := Option.map_eq_some_iff.mp is
  exact length_take_le ..

/-- The parsers end, read only the packet, store only inside their buffers, and give the first name, the first
manufacturer data of the right length, the first UUID and the first battery value of its complete structures. -/
theorem parsers_decode (buf : List UInt8) (maxLen : UInt8) (room : maxLen ≠ 0) (fuel : Nat)
    (enough : buf.length ≤ fuel) :
    let name := parseScanRspName buf maxLen fuel
    let ff := parseFfData buf maxLen fuel
    let payload := parseScanRspPayload buf fuel
    (∀ i ∈ name.1 ++ ff.1 ++ payload.1, i < buf.length) ∧
      (∀ s ∈ name.2.stored ++ ff.2.stored, s.2 < maxLen.toNat) ∧ (∀ s ∈ payload.2.uuid.stored, s.2 < uuidMaxLen) ∧
      name.2 = ((firstName buf maxLen.toNat).map Copied.ofName).getD .none ∧
      ff.2 = ((ScanRecv.parseFfData buf).map fun data => Copied.of (data.take maxLen.toNat)).getD .none ∧
      payload.2 = ⟨((firstUuid buf).map Copied.of).getD .none, (firstBattery buf).isSome, (firstBattery buf).getD 0⟩ := by
  obtain ⟨nameReads, nameSame⟩ := parseScanRspName_decodes buf maxLen enough
  obtain ⟨ffReads, ffSame⟩ := parseFfData_decodes buf maxLen enough
  obtain ⟨payloadReads, payloadSame⟩ := parseScanRspPayload_decodes buf enough
  have positive : 0 < maxLen.toNat := Nat.pos_of_ne_zero fun zero => room (UInt8.toNat_inj.mp zero)
  have size : (maxLen - 1).toNat + 1 = maxLen.toNat := by
    have one : (1 : UInt8) ≤ maxLen := UInt8.le_iff_toNat_le.mpr positive
    rw [UInt8.toNat_sub_of_le _ _ one, UInt8.toNat_one, Nat.sub_add_cancel positive]
  rw [size] at nameSame
  simp only [mem_append, or_imp, forall_and]
  refine ⟨⟨⟨nameReads, ffReads⟩, payloadReads⟩, ⟨?_, ?_⟩, ?_, nameSame, ffSame, payloadSame⟩
  · rw [nameSame]
    refine Copied.getD_inside fun name is => stored_inside ?_
    have := firstName_length is
    simp only [length_append, length_singleton]
    omega
  · rw [ffSame]
    exact Copied.getD_inside fun data _ => stored_inside (length_take_le ..)
  · rw [payloadSame]
    exact Copied.getD_inside fun uuid is => stored_inside (firstUuid_length is)

theorem short_name_decodes : (2 : UInt8) ≠ 0 ∧ ([3, 0x09, 0x41, 0x42, 0] : List UInt8).length ≤ 5 ∧
      (parseScanRspName [3, 0x09, 0x41, 0x42, 0] 2 5).2 = .ofName [0x41] := by
  refine ⟨by decide, by decide, (parsers_decode _ 2 (by decide) 5 (by decide)).2.2.2.1.trans ?_⟩
  simp [firstName, adStructures, isName, btDataNameShortened, btDataNameComplete, Copied.ofName]

end LL320D.AdParser

namespace LL320D.ScanRecv
open BleScan FlashStore Library ScanQueue UploadText List Packet System Station

lemma name_short {buf name : List UInt8} (found : parseScanRspName buf = some name) : name.length < advNameMaxLen := by
  obtain ⟨ad, _, rfl⟩ := Option.map_eq_some_iff.mp found
  have taken := (takeWhile_sublist (l := ad.data.take (advNameMaxLen - 1)) (· ≠ 0)).length_le
  exact Nat.lt_of_le_of_lt (taken.trans (length_take_le _ _)) (by decide)

lemma ffData_length {buf ff : List UInt8} (found : parseFfData buf = some ff) : ff.length = tagFfDataMaxLen := by
  obtain ⟨ad, first, rfl⟩ := Option.map_eq_some_iff.mp found
  have matched := List.find?_some first
  simp only [Bool.and_eq_true, decide_eq_true_eq] at matched
  exact matched.2

lemma uuid_short (buf) : (parseUuid buf).length ≤ uuidMaxLen := by
  rw [parseUuid]
  split
  · exact length_take_le _ _
  · exact Nat.zero_le _

def Packet.Named (Name : List UInt8 → Prop) (p : Packet) : Prop :=
  p.advType = some .scanRsp → ∀ name, parseScanRspName p.buf = some name → tagNameMatch name = true → Name name

def Event.Named (Name : List UInt8 → Prop) : Event → Prop
  | .recv packet => packet.Named Name
  | _ => True

def mac : Callback → Option TranMacProcessMsg
  | .tagQueued mac => mac
  | .listed mac => some mac
  | _ => none

structure QueueFits (Name : List UInt8 → Prop) (q : System) : Prop where
  tagq : ∀ msg ∈ q.tagq, TagMsgFits Name msg
  macq : ∀ msg ∈ q.macq, MacMsgFits msg
  callback : ∀ msg ∈ mac q.callback, MacMsgFits msg

section

variable {Name : List UInt8 → Prop} {q : System} {p : Packet}

lemma adv_tag (named : p.Named Name) : ∀ msg ∈ p.adv.tag, TagMsgFits Name msg := by
  intro msg member
  cases type : p.advType with
  | none =>
    have none : p.adv.tag = none := by simp only [adv, type, Adv.tag]
    rw [none] at member
    nomatch member
  | some type' =>
    cases type' with
    | advInd =>
      have found : p.adv.tag = (parseFfData p.buf).map p.ffMsg := by simp only [adv, type, Adv.tag]
      rw [found] at member
      obtain ⟨ff, parsed, rfl⟩ := Option.map_eq_some_iff.mp member
      exact ⟨⟨p.sized, Nat.zero_lt_succ _, Nat.zero_le _, Nat.le_of_eq (ffData_length parsed)⟩, nofun⟩
    | scanRsp =>
      have found : p.adv.tag = (parseScanRspName p.buf).map p.nameMsg := by simp only [adv, type, Adv.tag]
      rw [found] at member
      obtain ⟨name, parsed, rfl⟩ := Option.map_eq_some_iff.mp member
      exact ⟨⟨p.sized, name_short parsed, uuid_short _, Nat.zero_le _⟩, fun _ matched => named type name parsed matched⟩

lemma adv_mac (p : Packet) : ∀ msg ∈ p.adv.mac, MacMsgFits msg := by
  intro msg member
  simp only [adv] at member
  split at member
  · simp only [Adv.mac] at member
    split at member
    · cases member
      exact ⟨p.sized, length_take_le _ _⟩
    · nomatch member
  · nomatch member
  · nomatch member

lemma mac_behindTag (next) : mac (behindTag next) = next := by
  cases next <;> rfl

lemma QueueFits.recv (fits : QueueFits Name q) (named : p.Named Name) : QueueFits Name (q.step (.recv p.adv)) := by
  simp only [System.step]
  split
  · simp only [System.stepRecv]
    split
    · next tag found =>
      split
      · refine { fits with tagq := fun msg member => ?_, callback := adv_mac p }
        rcases mem_append.mp member with before | here
        · exact fits.tagq msg before
        · cases mem_singleton.mp here
          exact adv_tag named _ found
      · exact fits
    · refine { fits with callback := ?_ }
      rw [mac_behindTag]
      exact adv_mac p
  · exact fits

lemma QueueFits.mySendMsg (fits : QueueFits Name q) (msg) : QueueFits Name (q.mySendMsg msg) := by
  rw [System.mySendMsg]
  split
  · exact { fits with }
  · exact fits

lemma QueueFits.move (fits : QueueFits Name q) (event)
    (inside : ∀ adv, event ≠ .recv adv) : QueueFits Name (q.step event) := by
  cases event with
  | recv adv => exact absurd rfl (inside adv)
  | notifyTag =>
    simp only [System.step]
    split
    · next next here =>
      refine { fits.mySendMsg (.process .tag) with callback := ?_ }
      rw [mac_behindTag]
      have held := fits.callback
      rw [here] at held
      exact held
    · exact fits
  | putMac =>
    simp only [System.step]
    split
    · next next here =>
      have held : MacMsgFits next := fits.callback next (by rw [here]; rfl)
      split
      · refine { fits with macq := fun msg member => ?_, callback := nofun }
        rcases mem_append.mp member with before | added
        · exact fits.macq msg before
        · cases mem_singleton.mp added
          exact held
      · exact { fits with callback := nofun }
    · exact fits
  | notifyMac =>
    simp only [System.step]
    split
    · exact { fits.mySendMsg (.process .mac) with callback := nofun }
    · exact fits
  | post => exact fits.mySendMsg .other
  | take =>
    simp only [System.step]
    split
    · exact { fits with }
    · exact { fits with }
    · exact fits
  | get =>
    simp only [System.step]
    split
    · split
      · exact { fits with }
      · next tag rest queued =>
        refine { fits with tagq := fun msg member => fits.tagq msg ?_ }
        rw [queued]
        exact mem_cons_of_mem _ member
    · split
      · exact { fits with }
      · next first rest queued =>
        refine { fits with macq := fun msg member => fits.macq msg ?_ }
        rw [queued]
        exact mem_cons_of_mem _ member
    · exact fits

end

namespace Station

section

variable {Name : List UInt8 → Prop} {kind : ScanKind}

structure Fits (Name : List UInt8 → Prop) (s : Station) : Prop where
  queue : QueueFits Name s.queue
  ble : Held Name s.ble

def CleanName : (kind : ScanKind) → ScanRecord kind → Prop
  | .tag, item => NoBreak (TagScanResult.name item)
  | .mac, _ => True

lemma message_oneLine_iff {item : ScanRecord kind} (fits : Fit Name kind.type item) (seq) :
    OneLine (message kind seq item) ↔ CleanName kind item := by
  cases kind with
  | tag => exact tag_oneLine_iff fits.1 seq
  | mac => exact ⟨fun _ => trivial, fun _ => mac_oneLine fits seq⟩

lemma message_decodes {item : ScanRecord kind} (fits : Fit Name kind.type item) (seq) : Decodes kind seq item := by
  cases kind with
  | tag => exact tag_decodes fits.1 seq
  | mac => exact mac_decodes fits seq

variable [Crc32Ieee] {s : Station}

lemma Fits.get (fits : Fits Name s) (empty : Name []) (env now) : Held Name (s.get env now) := by
  cases task : s.queue.task with
  | waiting =>
    simp only [Station.get, task]
    exact fits.ble
  | draining kind =>
    cases kind with
    | tag =>
      cases queued : s.queue.tagq with
      | nil =>
        simp only [Station.get, task, queued]
        exact fits.ble
      | cons tag rest =>
        have here := queued ▸ mem_cons_self
        simp only [Station.get, task, queued]
        exact fits.ble.tagHandle empty env now (fits.queue.tagq tag here)
    | mac =>
      cases queued : s.queue.macq with
      | nil =>
        simp only [Station.get, task, queued]
        exact fits.ble
      | cons mac rest =>
        have here := queued ▸ mem_cons_self
        simp only [Station.get, task, queued]
        exact fits.ble.macHandle empty now (fits.queue.macq mac here)

lemma Fits.start (empty : Name []) (env mode) {media : (type : FsDataType) → FsMedia (FsRecord type)}
    (kept : ∀ type offset, SectorKeeps (Fit Name type) ((media type).sectors offset)) :
    Fits Name (start env mode media) :=
  ⟨⟨nofun, nofun, nofun⟩, .init empty env mode kept⟩

lemma Fits.step (fits : Fits Name s) (empty : Name []) {event : Event} (named : event.Named Name) :
    Fits Name (s.step event) := by
  cases event with
  | recv packet => exact { fits with queue := fits.queue.recv named }
  | notifyTag => exact { fits with queue := fits.queue.move .notifyTag nofun }
  | putMac => exact { fits with queue := fits.queue.move .putMac nofun }
  | notifyMac => exact { fits with queue := fits.queue.move .notifyMac nofun }
  | post => exact { fits with queue := fits.queue.move .post nofun }
  | take => exact { fits with queue := fits.queue.move .take nofun }
  | get env now => exact ⟨fits.queue.move .get nofun, fits.get empty env now⟩
  | handle env msg other =>
    simp only [Station.step]
    split
    · exact { fits with ble := fits.ble.message empty env other }
    · exact fits
  | restart env mode => exact .start empty env mode fun type => (fits.ble.store type).flash

lemma Fits.run (empty : Name []) (env mode) {media : (type : FsDataType) → FsMedia (FsRecord type)}
    (erased : ∀ type offset i, (((media type).sectors offset).slots i).magic ≠ fsRecMagic) {events : List Event}
    (named : ∀ event ∈ events, event.Named Name) :
    Fits Name (events.foldl Station.step (Station.start env mode media)) := by
  have begun : Fits Name (Station.start env mode media) :=
    .start empty env mode fun type offset i marked => absurd marked (erased type offset i)
  generalize Station.start env mode media = s at begun
  induction events generalizing s with
  | nil => exact begun
  | cons event events ih =>
    exact ih (fun other member => named other (mem_cons_of_mem _ member)) _
      (begun.step empty (named event mem_cons_self))

end

/-- Whatever comes from the air, each TAG or MACINFO message reads back to the stored record, and it is one line exactly
when the stored name has no CR or LF. -/
theorem upload_lines [Crc32Ieee] (env : BleEnv) (mode : ScanMode) (media : (type : FsDataType) → FsMedia (FsRecord type))
    (erased : ∀ type offset i, (((media type).sectors offset).slots i).magic ≠ fsRecMagic) (events : List Event)
    (kind : ScanKind) (seq : Nat) (item : ScanRecord kind)
    (sent : .sent (.data kind seq item) ∈ (events.foldl Station.step (Station.start env mode media)).ble.log) :
    Decodes kind (.ofNat seq) item ∧ (OneLine (message kind (.ofNat seq) item) ↔ CleanName kind item) ∧
      ((∀ event ∈ events, event.Named NoBreak) → OneLine (message kind (.ofNat seq) item)) := by
  have any : Fit (fun _ => True) kind.type item := by
    refine (Fits.run trivial env mode erased fun event _ => ?_).ble.sent kind seq item sent
    cases event with
    | recv packet => exact fun _ _ _ _ => trivial
    | _ => trivial
  refine ⟨message_decodes any _, message_oneLine_iff any _, fun clean => ?_⟩
  have named := (Fits.run (by rintro _ ⟨⟩) env mode erased clean).ble.sent kind seq item sent
  refine (message_oneLine_iff any _).mpr ?_
  cases kind with
  | tag => exact named.2
  | mac => trivial

def response (name : List UInt8) : Packet where
  advType := some .scanRsp
  addr := .zero
  rssi := -52
  buf := UInt8.ofNat (name.length + 1) :: btDataNameComplete :: name
  listed := false
  sized := rfl

/-- What `scan_recv_cb` puts into the queue of tags is saved and uploaded. -/
def uploadedTag (adv : Adv) : Station :=
  [Event.notifyTag, .take, .get .ok 100, .get .ok 100, .handle .ok .scanUpload rfl,
    .handle .ok .uploadTagAndMac rfl].foldl step
    ⟨System.start.step (.recv adv), myScanInit .ok .periodUpload blankMedia⟩

def uploaded (name : List UInt8) : List Event :=
  [.recv (response name), .notifyTag, .take, .get .ok 100, .get .ok 100, .handle .ok .scanUpload rfl,
    .handle .ok .uploadTagAndMac rfl]

lemma uploaded_run (name) :
    (uploaded name).foldl step (start .ok .periodUpload blankMedia) = uploadedTag (response name).adv := rfl

def namedTag (name : List UInt8) : TagScanResult := ⟨.zero, name, [], [], 0, -52, 100⟩

def brokenName : List UInt8 := [0x50, 0x45, 0x54, 0x0D, 0x0A, 0x41]

def petName : List UInt8 := [0x50, 0x45, 0x54]

lemma response_adv {name : List UInt8} (known : name = brokenName ∨ name = petName) :
    (response name).adv = .scanRsp (some ⟨.scanRsp, ⟨.zero, name, [], [], 0, -52, 0⟩⟩) := by
  rcases known with rfl | rfl <;>
    simp [adv, response, parseScanRspName, nameMsg, parseUuid, parseBattery, adStructures, brokenName, petName,
      btDataNameComplete, btDataNameShortened, btDataUuid16Some, btDataUuid32Some, advNameMaxLen]

lemma brokenName_sent : .sent (.data .tag 1 (namedTag brokenName)) ∈
    ((uploaded brokenName).foldl step (start .ok .periodUpload blankMedia)).ble.log := by
  rw [uploaded_run, response_adv (.inl rfl)]
  decide +kernel

lemma petName_sent : .sent (.data .tag 1 (namedTag petName)) ∈
    ((uploaded petName).foldl step (start .ok .periodUpload blankMedia)).ble.log := by
  rw [uploaded_run, response_adv (.inr rfl)]
  decide +kernel

theorem pet_line : Decodes .tag 1 (namedTag petName) ∧ OneLine (message .tag 1 (namedTag petName)) := by
  have erased : ∀ type offset i, (((blankMedia type).sectors offset).slots i).magic ≠ fsRecMagic :=
    fun _ _ _ same => nomatch same
  obtain ⟨decodes, line, _⟩ := upload_lines .ok .periodUpload blankMedia erased (uploaded petName) .tag 1
    (namedTag petName) petName_sent
  exact ⟨decodes, line.mpr (show NoBreak petName by decide)⟩

theorem name_breaks_line : .sent (.data .tag 1 (namedTag brokenName)) ∈
      ((uploaded brokenName).foldl step (start .ok .periodUpload blankMedia)).ble.log ∧
    ¬ OneLine (message .tag 1 (namedTag brokenName)) := by
  refine ⟨brokenName_sent, fun line => ?_⟩
  have fits : TagFits (namedTag brokenName) := ⟨rfl, by decide, by decide, by decide⟩
  have clean := (tag_oneLine_iff fits 1).mp line 0x0D (by decide)
  exact nomatch clean

def Heard (events : List Event) (name : List UInt8) : Prop := name = [] ∨ ∃ packet : Packet, .recv packet ∈ events ∧
    packet.advType = some .scanRsp ∧ parseScanRspName packet.buf = some name ∧ tagNameMatch name = true

end Station

end LL320D.ScanRecv
