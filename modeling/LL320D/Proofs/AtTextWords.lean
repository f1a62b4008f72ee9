import LL320D.BleInput

/-! The in-place pass of `at_cmd_str_analyse`, compared with the reader of words in quotation marks; and a command that is
written field by field, or passed on to the LTE module, and read back. -/

namespace LL320D.AtText
open List

section
open BleInput (Parm Stop)
open Library.Quoted (Marks Cursor Failure words last)
open Analysis

def atMarks : Marks UInt8 where
  quote := quote
  split := 0x2C
  stop := 0x23
  split_ne_quote := by decide
  stop_ne_quote := by decide
  stop_ne_split := by decide

section

inductive Ended (done : List UInt8) : Parm → List UInt8 → Prop
  | blank : Ended done .blank []
  | found (before word behind : List UInt8) (here : done = before ++ (word ++ 0 :: behind)) (clean : 0 ∉ word) :
    Ended done (.text before.length) word

inductive Points (done rest : List UInt8) (quoted closed : Bool) : Parm → List UInt8 → Prop
  | blank (outside : quoted = false) (empty : ∀ c ∈ rest.head?, c = atMarks.stop ∨ c = atMarks.split) :
    Points done rest quoted closed .blank []
  | growing (before word : List UInt8) (opened : closed = false) (here : done = before ++ word) (clean : 0 ∉ word) :
    Points done rest quoted closed (.text before.length) word
  | ended {p : Parm} {word : List UInt8} (closes : closed = true) (ended : Ended done p word) :
    Points done rest quoted closed p word

variable {done rest : List UInt8} {quoted closed : Bool} {p : Parm} {word : List UInt8} {c : UInt8}

lemma Ended.append (ended : Ended done p word) (more : List UInt8) : Ended (done ++ more) p word := by
  cases ended with
  | blank => exact .blank
  | found before word behind here clean =>
    refine .found before word (behind ++ more) ?_ clean
    rw [here]
    simp

lemma Points.cut (points : Points done rest quoted closed p word) : Ended (done ++ [0]) p word := by
  cases points with
  | blank => exact .blank
  | growing before word opened here clean =>
    refine .found before word [] ?_ clean
    rw [here, append_assoc]
  | ended closes ended => exact ended.append _

lemma Points.advance (points : Points done (c :: rest) quoted closed p word) (nonzero : c ≠ 0)
    (plain : quoted = false → c ≠ atMarks.stop ∧ c ≠ atMarks.split) :
    Points (done ++ [c]) rest quoted closed p (if closed then word else word ++ [c]) := by
  cases points with
  | blank outside empty =>
    obtain ⟨notStop, notSplit⟩ := plain outside
    rcases empty c rfl with same | same
    · exact absurd same notStop
    · exact absurd same notSplit
  | growing before word opened here clean =>
    rw [opened, if_neg Bool.false_ne_true]
    refine .growing before (word ++ [c]) rfl ?_ ?_
    · rw [here, append_assoc]
    · intro member
      rcases mem_append.mp member with earlier | last
      · exact clean earlier
      · exact nonzero (mem_singleton.mp last).symm
  | ended closes ended =>
    rw [closes, if_pos rfl]
    exact .ended rfl (ended.append _)

lemma Ended.content_eq (ended : Ended done p word) (behind : List UInt8) : content (done ++ behind) p = word := by
  cases ended with
  | blank => rfl
  | found before word after here clean =>
    have nonzero : ∀ c ∈ word, decide (c ≠ 0) = true := fun c member => decide_eq_true fun same => clean (same ▸ member)
    rw [content, text, here, append_assoc, drop_left, append_assoc, takeWhile_append_of_pos nonzero,
      cons_append, takeWhile_cons_of_neg (by decide), append_nil]

lemma Ended.shown_eq (ended : Ended done p word) (behind : List UInt8) : shown (done ++ behind) p = word := by
  cases ended with
  | blank => rfl
  | found before word after here clean => exact (Ended.found before word after here clean).content_eq behind

lemma Points.shown_eq {behind : List UInt8} (points : Points done [] quoted closed p word) (ends : text behind = []) :
    shown (done ++ behind) p = word := by
  cases points with
  | blank => rfl
  | growing before word opened here clean =>
    have nonzero : ∀ c ∈ word, decide (c ≠ 0) = true := fun c member => decide_eq_true fun same => clean (same ▸ member)
    show text ((done ++ behind).drop before.length) = word
    rw [here, append_assoc, drop_left, text, takeWhile_append_of_pos nonzero]
    exact (congrArg (word ++ ·) ends).trans (append_nil _)
  | ended closes ended => exact ended.shown_eq _

lemma Ended.contents_eq {ended : List Parm} {list : List (List UInt8)} (all : List.Forall₂ (Ended done) ended list)
    (behind : List UInt8) : ended.map (content (done ++ behind)) = list := by
  induction all with
  | nil => rfl
  | cons first _ ih => rw [map_cons, first.content_eq, ih]

end

section

variable (limit : Int) (behind : List UInt8) (initial : Parm)

/-- No word has begun. -/
structure Waiting (s : Analysis) (c : Cursor UInt8) (done rest : List UInt8) : Prop where
  cursor : c = { Cursor.start with quoted := c.quoted }
  str : s.strData = done ++ (rest ++ behind)
  j : s.j = 0
  status : s.status = false
  inQuote : s.inQuote = c.quoted
  first : s.tarData.headD .null = initial
  size : limit ≤ s.tarData.length

/-- The cells hold what the reader has read so far. -/
structure Reading (s : Analysis) (c : Cursor UInt8) (done rest : List UInt8) (ended : List Parm) (current : Parm)
    (later : List Parm) : Prop where
  begun : c.begun = true
  str : s.strData = done ++ (rest ++ behind)
  tar : s.tarData = ended ++ current :: later
  j : s.j = ended.length + 1
  status : s.status = true
  inQuote : s.inQuote = c.quoted
  words : List.Forall₂ (Ended done) ended c.words
  word : Points done rest c.quoted c.closed current c.word
  room : c.words.length < limit
  size : limit ≤ s.tarData.length

def failureCode : Failure → Stop
  | .noRoom => .full (-2)
  | .tooMany => .full (-3)
  | .unfinished => .textOver

structure Agree (result : Analysis × Stop) (list : List (List UInt8)) : Prop where
  stop : result.2 = .foundEnd
  outside : result.1.inQuote = false
  count : result.1.j = list.length
  stored : ∃ (done after : List UInt8) (ended later : List Parm), result.1.strData = done ++ after ∧
    result.1.tarData = ended ++ later ∧ List.Forall₂ (Ended done) ended list
  size : limit ≤ result.1.tarData.length

/-- What `parm[0]` shows if the first word so far is this. -/
def Names (s : Analysis) : Option (List UInt8) → Prop
  | none => s.tarData.headD .null = initial
  | some word => shown s.strData (s.tarData.headD .null) = word

def Matches (result : Analysis × Stop) (c : Cursor UInt8) : Except Failure (List (List UInt8)) → Prop
  | .error failure => result.2 = failureCode failure ∧ Names initial result.1 c.first
  | .ok list => Agree limit result list

variable {limit behind initial} {s : Analysis} {c : Cursor UInt8} {done rest : List UInt8} {ended : List Parm} {current : Parm}
  {later : List Parm} {a : UInt8}

lemma length_snoc {β : Type} (list : List β) (last : β) : (list ++ [last]).length = list.length + 1 :=
  length_append

lemma set_passed (done rest : List UInt8) (a b : UInt8) :
    (done ++ (a :: rest)).set done.length b = (done ++ [b]) ++ rest := by
  rw [set_append_right _ _ (Nat.le_refl _), Nat.sub_self, set_cons_zero, append_assoc]
  rfl

lemma cut_str (str : s.strData = done ++ ((a :: rest) ++ behind)) :
    (s.cut done.length).strData = (done ++ [0]) ++ (rest ++ behind) := by
  rw [cut, str]
  exact set_passed done (rest ++ behind) a 0

lemma pass_str (str : s.strData = done ++ ((a :: rest) ++ behind)) :
    s.strData = (done ++ [a]) ++ (rest ++ behind) := by
  rw [str, append_assoc]
  rfl

lemma Waiting.quote (waiting : Waiting limit behind initial s c done (a :: rest)) :
    ∃ passed, passed.length = done.length + 1 ∧ Waiting limit behind initial (s.switchQuote done.length) c.quote passed rest := by
  have inQuote := waiting.inQuote
  obtain ⟨words, word, begun, quoted, closed⟩ := c
  cases waiting.cursor
  cases quoted with
  | true =>
    refine ⟨done ++ [0], length_snoc _ _, ?_⟩
    have switched : s.switchQuote done.length = { s.cut done.length with inQuote := false } := by
      unfold switchQuote
      rw [if_pos inQuote]
    rw [switched]
    exact ⟨rfl, cut_str waiting.str, waiting.j, waiting.status, rfl, waiting.first, waiting.size⟩
  | false =>
    refine ⟨done ++ [a], length_snoc _ _, ?_⟩
    have switched : s.switchQuote done.length = { s with inQuote := true } := by
      unfold switchQuote
      rw [if_neg (by rw [inQuote]; exact Bool.false_ne_true),
        if_neg (by rw [waiting.status]; exact fun both => Bool.false_ne_true both.1)]
    rw [switched]
    exact ⟨rfl, pass_str waiting.str, waiting.j, waiting.status, rfl, waiting.first, waiting.size⟩

lemma Reading.quote (reading : Reading limit behind s c done (a :: rest) ended current later) :
    ∃ passed current, passed.length = done.length + 1 ∧
      Reading limit behind (s.switchQuote done.length) c.quote passed rest ended current later := by
  have inQuote := reading.inQuote
  obtain ⟨words, word, begun, quoted, closed⟩ := c
  cases quoted with
  | true =>
    refine ⟨done ++ [0], current, length_snoc _ _, ?_⟩
    have switched : s.switchQuote done.length = { s.cut done.length with inQuote := false } := by
      unfold switchQuote
      rw [if_pos inQuote]
    rw [switched]
    exact {
      begun := reading.begun
      str := cut_str reading.str
      tar := reading.tar
      j := reading.j
      status := reading.status
      inQuote := rfl
      words := reading.words.imp fun _ _ here => here.append _
      word := .ended reading.begun reading.word.cut
      room := reading.room
      size := reading.size }
  | false =>
    refine ⟨done ++ [a], .text (done.length + 1), length_snoc _ _, ?_⟩
    have switched : s.switchQuote done.length =
        { s.store (s.j - 1) (.text (done.length + 1)) with inQuote := true } := by
      unfold switchQuote
      rw [if_neg (by rw [inQuote]; exact Bool.false_ne_true), if_pos ⟨reading.status, by rw [reading.j]; exact Nat.succ_pos _⟩]
    have moved : (s.store (s.j - 1) (.text (done.length + 1))).tarData = ended ++ .text (done.length + 1) :: later := by
      unfold store
      rw [reading.tar, reading.j, Nat.add_sub_cancel, set_append_right _ _ (Nat.le_refl _), Nat.sub_self, set_cons_zero]
    have length := length_snoc done a
    rw [switched]
    exact {
      begun := reading.begun
      str := pass_str reading.str
      tar := moved
      j := reading.j
      status := reading.status
      inQuote := rfl
      words := reading.words.imp fun _ _ here => here.append _
      word := by
        have points : Points (done ++ [a]) rest true false (.text (done ++ [a]).length) [] :=
          .growing (done ++ [a]) [] rfl (append_nil _).symm nofun
        rw [length] at points
        exact points
      room := reading.room
      size := by
        have same : (s.store (s.j - 1) (.text (done.length + 1))).tarData.length = s.tarData.length := length_set
        exact same ▸ reading.size }

lemma Waiting.begin (waiting : Waiting limit behind initial s c done (a :: rest)) (other : a ≠ AtText.quote) (room : 0 < limit)
    (next) :
    ∃ later, Reading limit behind (s.firstWord atFormat done.length a next) c.begin done (a :: rest) []
      (.text done.length) later := by
  have begins : s.firstWord atFormat done.length a next = { s.push (.text done.length) with status := true } := by
    unfold firstWord
    rw [if_pos ⟨waiting.status, .inr rfl⟩]
    have value : (if atFormat.startChar = 0 then if a = AtText.quote then Parm.text (done.length + 1) else .text done.length
        else if next = atFormat.splitChar then .blank else .text (done.length + 1)) = .text done.length :=
      (if_pos (by decide)).trans (if_neg other)
    dsimp only
    rw [value]
  have size := waiting.size
  obtain ⟨first, later, parts⟩ : ∃ first later, s.tarData = first :: later := by
    refine exists_cons_of_ne_nil fun empty => ?_
    rw [empty, length_nil] at size
    omega
  have inQuote := waiting.inQuote
  obtain ⟨words, word, begun, quoted, closed⟩ := c
  cases waiting.cursor
  have stored : (s.push (.text done.length)).tarData = .text done.length :: later := by
    unfold push store
    rw [parts, waiting.j]
    rfl
  refine ⟨later, ?_⟩
  rw [begins]
  exact {
    begun := rfl
    str := waiting.str
    tar := stored
    j := congrArg (· + 1) waiting.j
    status := rfl
    inQuote := inQuote
    words := .nil
    word := .growing done [] rfl (append_nil _).symm nofun
    room := room
    size := by
      refine Int.le_trans size (Int.ofNat_le.mpr (Nat.le_of_eq ?_))
      exact length_set.symm }

section

variable (reading : Reading limit behind s c done (a :: rest) ended current later)
include reading

lemma Reading.advance (nonzero : a ≠ 0) (plain : c.quoted = false → a ≠ atMarks.stop ∧ a ≠ atMarks.split) :
    Reading limit behind s (c.advance a) (done ++ [a]) rest ended current later := by
  have word := reading.word.advance nonzero plain
  have passed : Reading limit behind s { c with word := if c.closed then c.word else c.word ++ [a] } (done ++ [a]) rest
      ended current later :=
    { reading with
      str := pass_str reading.str
      words := reading.words.imp fun _ _ here => here.append _
      word := word }
  unfold Cursor.advance
  split
  next closed =>
    rw [if_pos closed] at passed
    exact passed
  next opened =>
    rw [if_neg opened] at passed
    exact passed

lemma Reading.next (outside : c.quoted = false) (nonzero : 0 ∉ rest) (room : c.words.length + 1 < limit) :
    ∃ current' later', Reading limit behind ((s.cut done.length).nextWord atFormat done.length (rest.headD 0)) c.next
      (done ++ [0]) rest (ended ++ [current]) current' later' := by
  have counted : ended.length = c.words.length := reading.words.length_eq
  have size := reading.size
  obtain ⟨first, others, parts⟩ : ∃ first others, later = first :: others := by
    refine exists_cons_of_ne_nil fun empty => ?_
    rw [reading.tar, empty, length_append, length_singleton] at size
    omega
  subst parts
  obtain ⟨value, isValue⟩ : ∃ value, (if atFormat.Ends (rest.headD 0) ∨ rest.headD 0 = atFormat.splitChar then Parm.blank
    else .text (done.length + 1)) = value := ⟨_, rfl⟩
  have pushed : (s.cut done.length).nextWord atFormat done.length (rest.headD 0) = (s.cut done.length).push value := by
    unfold nextWord
    rw [isValue]
  have stored : ((s.cut done.length).push value).tarData = (ended ++ [current]) ++ value :: others := by
    have same : s.tarData = (ended ++ [current]) ++ first :: others := by
      rw [reading.tar, append_assoc]
      rfl
    have index : s.j = (ended ++ [current]).length := by
      rw [reading.j, length_append]
      rfl
    unfold push store cut
    dsimp only
    rw [same, index, set_append_right _ _ (Nat.le_refl _), Nat.sub_self, set_cons_zero]
  have points : Points (done ++ [0]) rest false false value [] := by
    have length := length_snoc done (0 : UInt8)
    split at isValue
    next ends =>
      cases isValue
      refine .blank rfl fun c head => ?_
      cases rest with
      | nil => cases head
      | cons b rest =>
        cases head
        rcases ends with (inEnd | zero) | split
        · exact .inl (mem_singleton.mp inEnd)
        · exact absurd (zero ▸ mem_cons_self) nonzero
        · exact .inr split
    next goesOn =>
      rw [← length] at isValue
      cases isValue
      exact .growing (done ++ [0]) [] rfl (append_nil _).symm nofun
  refine ⟨value, others, ?_⟩
  rw [pushed]
  exact {
    begun := reading.begun
    str := cut_str reading.str
    tar := stored
    j := (congrArg (· + 1) reading.j).trans (by rw [length_append]; rfl)
    status := reading.status
    inQuote := reading.inQuote
    words := rel_append (reading.words.imp fun _ _ here => here.append _) (.cons reading.word.cut .nil)
    word := by
      have same : c.next.quoted = false := outside
      rw [same]
      exact points
    room := by
      have grown : c.next.words.length = c.words.length + 1 := length_append
      omega
    size := by
      refine Int.le_trans size (Int.ofNat_le.mpr (Nat.le_of_eq ?_))
      exact length_set.symm }

lemma Reading.stop (outside : c.quoted = false) :
    Agree limit (s.cut done.length, .foundEnd) (c.words ++ [c.word]) where
  stop := rfl
  outside := reading.inQuote.trans outside
  count := by
    have counted : ended.length = c.words.length := reading.words.length_eq
    rw [length_append, ← counted]
    exact reading.j
  stored := by
    refine ⟨done ++ [0], rest ++ behind, ended ++ [current], later, cut_str reading.str, ?_, ?_⟩
    · refine reading.tar.trans ?_
      rw [append_assoc]
      rfl
    · exact rel_append (reading.words.imp fun _ _ here => here.append _) (.cons reading.word.cut .nil)
  size := reading.size

omit reading in
lemma names_first {words : List (List UInt8)} {word : List UInt8} (stored : s.tarData = ended ++ current :: later)
    (before : List.Forall₂ (fun parm word => shown s.strData parm = word) ended words)
    (now : shown s.strData current = word) : Names initial s (words ++ [word]).head? := by
  cases before with
  | nil =>
    rw [nil_append] at stored
    show shown s.strData (s.tarData.headD .null) = word
    rw [stored]
    exact now
  | cons first _ =>
    show shown s.strData (s.tarData.headD .null) = _
    rw [stored]
    exact first

lemma Reading.names_cut : Names initial (s.cut done.length) c.first := by
  have str := cut_str reading.str
  rw [Cursor.first, if_pos reading.begun]
  refine names_first reading.tar (reading.words.imp fun _ _ here => ?_) ?_
  · rw [str]
    exact (here.append _).shown_eq _
  · rw [str]
    exact reading.word.cut.shown_eq _

omit reading in
lemma Reading.names (reading : Reading limit behind s c done [] ended current later) (ends : text behind = []) :
    Names initial s c.first := by
  have str : s.strData = done ++ behind := reading.str
  rw [Cursor.first, if_pos reading.begun]
  refine names_first reading.tar (reading.words.imp fun _ _ here => ?_) ?_
  · rw [str]
    exact here.shown_eq _
  · rw [str]
    exact reading.word.shown_eq ends

end

lemma ends_iff (nonzero : a ≠ 0) : atFormat.Ends a ↔ a = atMarks.stop := by
  constructor
  · rintro (inEnd | zero)
    · exact mem_singleton.mp inEnd
    · exact absurd zero nonzero
  · exact fun same => .inl (mem_singleton.mpr same)

lemma not_begins (status : s.status = true) (a) : ¬ s.Begins atFormat a :=
  fun first => Bool.false_ne_true (first.1.symm.trans status)

lemma loop_begun (status : s.status = true) (other : a ≠ quote) (i : Nat) :
    s.loop atFormat limit i (a :: rest) =
      if s.inQuote = false ∧ atFormat.Ends a then (s.cut i, .foundEnd)
      else if s.inQuote = false ∧ a = atFormat.splitChar then
        if limit ≤ s.j then (s.cut i, .full (-3))
        else ((s.cut i).nextWord atFormat i (rest.headD 0)).loop atFormat limit (i + 1) rest
      else s.loop atFormat limit (i + 1) rest := by
  have same : s.firstWord atFormat i a (rest.headD 0) = s := if_neg (not_begins status a)
  have running : ¬ s.status = false := by
    rw [status]
    exact Bool.false_ne_true.symm
  rw [loop, if_neg other, if_neg fun full => not_begins status a full.1]
  dsimp only
  rw [same, if_neg running]

lemma begin_eq (begun : c.begun = true) : c.begin = c := by
  obtain ⟨words, word, begun, quoted, closed⟩ := c
  cases begun
  rfl

lemma words_begun (begun : c.begun = true) (other : a ≠ atMarks.quote) : words atMarks limit c (a :: rest) =
      if c.quoted = false ∧ a = atMarks.stop then .ok (c.words ++ [c.word])
      else if c.quoted = false ∧ a = atMarks.split then
        if limit ≤ c.words.length + 1 then .error .tooMany else words atMarks limit c.next rest
      else words atMarks limit (c.advance a) rest := by
  rw [words, if_neg other, if_neg fun full => Bool.false_ne_true (full.1.symm.trans begun), begin_eq begun]

lemma last_begun (begun : c.begun = true) (other : a ≠ atMarks.quote) : last atMarks limit c (a :: rest) =
      if c.quoted = false ∧ a = atMarks.stop then c
      else if c.quoted = false ∧ a = atMarks.split then
        if limit ≤ c.words.length + 1 then c else last atMarks limit c.next rest
      else last atMarks limit (c.advance a) rest := by
  rw [last, if_neg other, if_neg fun full => Bool.false_ne_true (full.1.symm.trans begun), begin_eq begun]

lemma Reading.loop (closing : text behind = []) (clean : 0 ∉ rest)
    (reading : Reading limit behind s c done rest ended current later) :
    Matches limit initial (s.loop atFormat limit done.length rest) (last atMarks limit c rest)
      (Library.Quoted.words atMarks limit c rest) := by
  induction rest generalizing s c done ended current later with
  | nil => exact ⟨rfl, reading.names closing⟩
  | cons a rest ih =>
    have nonzero : a ≠ 0 := fun same => clean (same ▸ mem_cons_self)
    have cleanRest : 0 ∉ rest := fun member => clean (mem_cons_of_mem _ member)
    by_cases other : a = AtText.quote
    · obtain ⟨passed, current', length, following⟩ := reading.quote
      have quoteMark : a = atMarks.quote := other
      rw [loop, Library.Quoted.words, last, if_pos other, if_pos quoteMark, if_pos quoteMark, ← length]
      exact ih cleanRest following
    have counted : (s.j : Int) = c.words.length + 1 := by
      rw [reading.j, reading.words.length_eq]
      rfl
    have endsHere : c.quoted = false ∧ atFormat.Ends a ↔ c.quoted = false ∧ a = atMarks.stop :=
      and_congr_right' (ends_iff nonzero)
    rw [loop_begun reading.status other, words_begun reading.begun other, last_begun reading.begun other, reading.inQuote,
      counted]
    by_cases ends : c.quoted = false ∧ a = atMarks.stop
    · rw [if_pos ends, if_pos ends, if_pos (endsHere.mpr ends)]
      exact reading.stop ends.1
    rw [if_neg ends, if_neg ends, if_neg (mt endsHere.mp ends)]
    by_cases splits : c.quoted = false ∧ a = atMarks.split
    · have cutLength := (length_snoc done 0).symm
      have splitMark : c.quoted = false ∧ a = atFormat.splitChar := splits
      rw [if_pos splits, if_pos splits, if_pos splitMark]
      by_cases full : limit ≤ c.words.length + 1
      · rw [if_pos full, if_pos full, if_pos full]
        exact ⟨rfl, reading.names_cut⟩
      · rw [if_neg full, if_neg full, if_neg full, cutLength]
        obtain ⟨current', later', following⟩ := reading.next splits.1 cleanRest (Int.not_le.mp full)
        exact ih cleanRest following
    · have length := (length_snoc done a).symm
      have noSplit : ¬ (c.quoted = false ∧ a = atFormat.splitChar) := splits
      rw [if_neg splits, if_neg splits, if_neg noSplit, length]
      refine ih cleanRest (reading.advance nonzero fun outside => ⟨?_, ?_⟩)
      · exact fun stop => ends ⟨outside, stop⟩
      · exact fun split => splits ⟨outside, split⟩

lemma loop_begins (status : s.status = false) (other : a ≠ quote) (room : s.j < limit) (i : Nat) :
    s.loop atFormat limit i (a :: rest) = (s.firstWord atFormat i a (rest.headD 0)).loop atFormat limit i (a :: rest) := by
  have begun : (s.firstWord atFormat i a (rest.headD 0)).status = true := by
    unfold firstWord
    rw [if_pos ⟨status, .inr rfl⟩]
  have running : ¬ (s.firstWord atFormat i a (rest.headD 0)).status = false := by
    rw [begun]
    exact Bool.false_ne_true.symm
  rw [loop_begun begun other, loop, if_neg other, if_neg fun full => Int.not_le.mpr room full.2]
  dsimp only
  rw [if_neg running]

lemma words_begins (other : a ≠ atMarks.quote) (room : c.words.length < limit) :
    words atMarks limit c (a :: rest) = words atMarks limit c.begin (a :: rest) := by
  have begun : c.begin.begun = true := rfl
  rw [words_begun begun other, words, if_neg other, if_neg fun full => Int.not_le.mpr room full.2]
  rfl

lemma last_begins (other : a ≠ atMarks.quote) (room : c.words.length < limit) :
    last atMarks limit c (a :: rest) = last atMarks limit c.begin (a :: rest) := by
  have begun : c.begin.begun = true := rfl
  rw [last_begun begun other, last, if_neg other, if_neg fun full => Int.not_le.mpr room full.2]
  rfl

lemma Waiting.loop (ends : text behind = []) (clean : 0 ∉ rest) (waiting : Waiting limit behind initial s c done rest) :
    Matches limit initial (s.loop atFormat limit done.length rest) (last atMarks limit c rest)
      (words atMarks limit c rest) := by
  have names (c : Cursor UInt8) (s : Analysis) (first : s.tarData.headD .null = initial) (fresh : c.begun = false) :
      Names initial s c.first := by
    rw [Cursor.first, if_neg (by rw [fresh]; exact Bool.false_ne_true)]
    exact first
  induction rest generalizing s c done with
  | nil => exact ⟨rfl, names c s waiting.first (by rw [waiting.cursor]; rfl)⟩
  | cons a rest ih =>
    by_cases other : a = AtText.quote
    · obtain ⟨passed, length, following⟩ := waiting.quote
      have quoteMark : a = atMarks.quote := other
      rw [loop, words, last, if_pos other, if_pos quoteMark, if_pos quoteMark, ← length]
      exact ih (fun member => clean (mem_cons_of_mem _ member)) following
    have fresh : c.begun = false ∧ (c.words.length : Int) = 0 := by
      rw [waiting.cursor]
      exact ⟨rfl, rfl⟩
    have quoteMark : a ≠ atMarks.quote := other
    by_cases full : limit ≤ 0
    · have noRoom : s.Begins atFormat a ∧ limit ≤ s.j := ⟨⟨waiting.status, .inr rfl⟩, by rw [waiting.j]; exact full⟩
      have noWord : c.begun = false ∧ limit ≤ c.words.length := ⟨fresh.1, by rw [fresh.2]; exact full⟩
      rw [loop, words, last, if_neg other, if_neg quoteMark, if_neg quoteMark, if_pos noRoom, if_pos noWord, if_pos noWord]
      exact ⟨rfl, names c _ waiting.first fresh.1⟩
    · have room := Int.not_le.mp full
      obtain ⟨later, reading⟩ := waiting.begin other room (rest.headD 0)
      rw [loop_begins waiting.status other (by rw [waiting.j]; exact room), words_begins quoteMark (by rw [fresh.2]; exact room),
        last_begins quoteMark (by rw [fresh.2]; exact room)]
      exact reading.loop ends clean

end

section

variable {strData : List UInt8} {tarData : List Parm} {limit : Int}

lemma zero_not_mem_text (strData) : 0 ∉ text strData := by
  intro member
  have nonzero := all_eq_true.mp all_takeWhile 0 member
  exact of_decide_eq_true nonzero rfl

lemma text_dropWhile (strData : List UInt8) : text (strData.dropWhile (· ≠ 0)) = [] := by
  induction strData with
  | nil => rfl
  | cons c rest ih =>
    by_cases nonzero : c ≠ 0
    · rw [dropWhile_cons_of_pos (by simpa using nonzero)]
      exact ih
    · rw [dropWhile_cons_of_neg (by simpa using nonzero), text, takeWhile_cons_of_neg (by simpa using nonzero)]

lemma start_loop (room : limit ≤ tarData.length) :
    Matches limit (tarData.headD .null) ((start strData tarData).loop atFormat limit 0 (text strData))
      (last atMarks limit .start (text strData)) (words atMarks limit .start (text strData)) := by
  have waiting : Waiting limit (strData.dropWhile (· ≠ 0)) (tarData.headD .null) (start strData tarData) .start []
      (text strData) :=
    ⟨rfl, takeWhile_append_dropWhile.symm, rfl, rfl, rfl, rfl, room⟩
  exact waiting.loop (text_dropWhile strData) (zero_not_mem_text strData)

lemma fillBlank_frame (s : Analysis) (i count : Nat) :
    (s.fillBlank i count).strData = s.strData ∧ (s.fillBlank i count).inQuote = s.inQuote := by
  induction count generalizing s i with
  | zero => exact ⟨rfl, rfl⟩
  | succ count ih => exact ih (s.store i .blank) (i + 1)

lemma fillBlank_tarData {s : Analysis} {stored later : List Parm} (count : Nat) (tar : s.tarData = stored ++ later)
    (room : count ≤ later.length) :
    (s.fillBlank stored.length count).tarData = stored ++ (List.replicate count .blank ++ later.drop count) := by
  induction count generalizing s stored later with
  | zero => exact tar
  | succ count ih =>
    obtain ⟨first, others, rfl⟩ := exists_cons_of_length_pos (Nat.lt_of_lt_of_le count.succ_pos room)
    have blanked : (s.store stored.length .blank).tarData = (stored ++ [.blank]) ++ others := by
      unfold store
      rw [tar, set_append_right _ _ (Nat.le_refl _), Nat.sub_self, set_cons_zero, append_assoc]
      rfl
    have length := (length_snoc stored Parm.blank).symm
    rw [fillBlank, length, ih blanked (Nat.le_of_succ_le_succ room), append_assoc]
    rfl

lemma analyse_error {failure : Failure} (room : limit ≤ tarData.length)
    (read : words atMarks limit .start (text strData) = .error failure) :
    (atCmdStrAnalyse strData tarData limit atFormat).2 < 0 ∧
      Names (tarData.headD .null) (atCmdStrAnalyse strData tarData limit atFormat).1
        (last atMarks limit .start (text strData)).first := by
  have pass : Matches limit _ _ _ (words atMarks limit .start (text strData)) := start_loop room
  unfold atCmdStrAnalyse
  rw [read] at pass
  cases run : (start strData tarData).loop atFormat limit 0 (text strData) with
  | mk final stop =>
    rw [run] at pass
    obtain ⟨stopped, names⟩ := pass
    cases failure with
    | noRoom =>
      cases stopped
      exact ⟨(by decide : (-2 : Int) < 0), names⟩
    | tooMany =>
      cases stopped
      exact ⟨(by decide : (-3 : Int) < 0), names⟩
    | unfinished =>
      cases stopped
      exact ⟨(by decide : (-4 : Int) < 0), names⟩

lemma analyse_ok {list : List (List UInt8)} (room : limit ≤ tarData.length)
    (read : words atMarks limit .start (text strData) = .ok list) :
    (atCmdStrAnalyse strData tarData limit atFormat).2 = list.length ∧
      ((atCmdStrAnalyse strData tarData limit atFormat).1.tarData.take limit.toNat).map
        (content (atCmdStrAnalyse strData tarData limit atFormat).1.strData) =
      list ++ List.replicate (limit.toNat - list.length) [] ∧
      Names (tarData.headD .null) (atCmdStrAnalyse strData tarData limit atFormat).1 list.head? := by
  have pass : Matches limit _ _ _ (words atMarks limit .start (text strData)) := start_loop room
  obtain ⟨positive, fits⟩ := Library.Quoted.words_length read nofun
  unfold atCmdStrAnalyse
  rw [read] at pass
  cases run : (start strData tarData).loop atFormat limit 0 (text strData) with
  | mk final stop =>
    rw [run] at pass
    obtain ⟨stops, outside, count, ⟨done, after, ended, later, str, tar, all⟩, size⟩ := pass
    cases stops
    have counted : ended.length = list.length := all.length_eq
    dsimp only at outside count str tar size ⊢
    rw [tar, length_append] at size
    have filled : (limit - (final.j : Int)).toNat ≤ later.length := by omega
    have blanks : (limit - (final.j : Int)).toNat = limit.toNat - list.length := by omega
    have index : final.j = ended.length := count.trans counted.symm
    have filled := fillBlank_tarData _ tar (blanks ▸ filled)
    rw [(fillBlank_frame final final.j _).1, str, blanks, index, filled]
    refine ⟨?_, ?_, ?_⟩
    · rw [outside, if_neg Bool.false_ne_true, counted]
    · have kept : (ended ++ List.replicate (limit.toNat - list.length) Parm.blank).length = limit.toNat := by
        rw [length_append, length_replicate]
        omega
      rw [← append_assoc, take_left' kept, map_append, Ended.contents_eq all, map_replicate]
      rfl
    · cases all with
      | nil => cases positive
      | cons first _ =>
        show shown (final.fillBlank _ _).strData ((final.fillBlank _ _).tarData.headD .null) = _
        rw [(fillBlank_frame final _ _).1, str, filled]
        exact first.shown_eq _

end

def Write.Inside (length : Nat) (limit : Int) : Write → Prop
  | .str index => index < length
  | .tar index => index < limit

structure Analysis.Inside (length : Nat) (limit : Int) (s : Analysis) : Prop where
  writes : ∀ write ∈ s.writes, write.Inside length limit
  counted : 0 < s.j → s.j ≤ limit

variable {format : Format} {length : Nat} {limit : Int} {s : Analysis} {i : Nat}

lemma writes_snoc {writes : List Write} {last : Write} (inside : ∀ write ∈ writes, write.Inside length limit)
    (here : last.Inside length limit) : ∀ write ∈ writes ++ [last], write.Inside length limit := by
  intro write member
  rcases mem_append.mp member with earlier | same
  · exact inside write earlier
  · cases mem_singleton.mp same
    exact here

namespace Analysis.Inside

variable (inside : s.Inside length limit)
include inside

lemma cut (here : i < length) : (s.cut i).Inside length limit :=
  { inside with writes := writes_snoc inside.writes here }

lemma store (value) (here : i < limit) : (s.store i value).Inside length limit :=
  { inside with writes := writes_snoc inside.writes here }

lemma push (value) (room : s.j < limit) : (s.push value).Inside length limit :=
  { inside.store value room with counted := fun _ => room }

lemma switchQuote (here : i < length) : (s.switchQuote i).Inside length limit := by
  unfold Analysis.switchQuote
  split
  · exact { inside.cut here with }
  · split
    next word =>
      have last : ((s.j - 1 : Nat) : Int) < limit := by
        have counted := inside.counted word.2
        omega
      exact { inside.store (.text (i + 1)) last with }
    · exact { inside with }

lemma firstWord (c next) (room : s.Begins format c → s.j < limit) :
    (s.firstWord format i c next).Inside length limit := by
  unfold Analysis.firstWord
  split
  next begins =>
    have pushed (value : Parm) : Analysis.Inside length limit { s.push value with status := true } :=
      { inside.push value (room begins) with }
    exact pushed _
  · exact inside

lemma loop {rest : List UInt8} (bound : i + rest.length ≤ length) :
    (s.loop format limit i rest).1.Inside length limit := by
  induction rest generalizing s i with
  | nil => exact inside
  | cons c rest ih =>
    rw [length_cons] at bound
    have here : i < length := by omega
    have later : i + 1 + rest.length ≤ length := by omega
    unfold loop
    split
    · exact ih (inside.switchQuote here) later
    · split
      · exact { inside with }
      next begins =>
        have begun : (s.firstWord format i c (rest.headD 0)).Inside length limit :=
          inside.firstWord c _ fun first => Int.not_le.mp fun full => begins ⟨first, full⟩
        dsimp only
        split
        · exact ih begun later
        · split
          · exact begun.cut here
          · split
            · split
              · exact begun.cut here
              next room => exact ih ((begun.cut here).push _ (Int.not_le.mp room)) later
            · exact ih begun later

lemma fillBlank (count : Nat) (bound : i + count ≤ limit) : (s.fillBlank i count).Inside length limit := by
  induction count generalizing s i with
  | zero => exact inside
  | succ count ih => exact ih (inside.store _ (by omega)) (by omega)

end Analysis.Inside

lemma loop_length (format : Format) (limit : Int) (s : Analysis) (i : Nat) (rest : List UInt8) :
    (s.loop format limit i rest).1.strData.length = s.strData.length := by
  have switches (s : Analysis) (i) : (s.switchQuote i).strData.length = s.strData.length := by
    grind [switchQuote, cut, store]
  have begins (s : Analysis) (i c next) : (s.firstWord format i c next).strData = s.strData := by
    grind [firstWord, push, store]
  fun_induction Analysis.loop format limit s i rest <;> grind [nextWord, push, store, cut]

lemma shown_length (strData tarData limit format parm) :
    (shown (atCmdStrAnalyse strData tarData limit format).1.strData parm).length ≤ max 6 strData.length := by
  have kept : (atCmdStrAnalyse strData tarData limit format).1.strData.length = strData.length := by
    have looped := loop_length format limit (start strData tarData) 0 (text strData)
    unfold atCmdStrAnalyse
    split
    all_goals
      next run =>
        rw [run] at looped
        first | exact looped | exact (congrArg List.length (fillBlank_frame ..).1).trans looped
  cases parm with
  | null => exact Nat.le_max_left 6 _
  | blank => exact Nat.zero_le _
  | text offset =>
    refine Nat.le_trans (takeWhile_sublist _).length_le (Nat.le_trans ?_ (Nat.le_max_right _ _))
    rw [length_drop, kept]
    exact Nat.sub_le _ _

lemma analyse_writes (strData : List UInt8) (tarData : List Parm) (limit : Int) (format : Format) :
    ∀ write ∈ (atCmdStrAnalyse strData tarData limit format).1.writes, write.Inside (text strData).length limit := by
  have begins : (start strData tarData).Inside (text strData).length limit := ⟨nofun, nofun⟩
  have looped : ((start strData tarData).loop format limit 0 (text strData)).1.Inside (text strData).length limit :=
    begins.loop (Nat.le_of_eq (Nat.zero_add _))
  unfold atCmdStrAnalyse
  split
  next final code run =>
    rw [run] at looped
    exact looped.writes
  next final run =>
    rw [run] at looped
    exact looped.writes
  next final run =>
    rw [run] at looped
    by_cases room : (limit - (final.j : Int)).toNat = 0
    · rw [room]
      exact looped.writes
    · exact (looped.fillBlank _ (by omega)).writes

end

open BleInput (Parm parmMax)
open Library.Quoted

variable {chars : List UInt8} {p : Printer}

theorem at_cmd_str_analyse_fields (strData : List UInt8) (tarData : List Parm) (limit : Int)
    (room : limit ≤ tarData.length) :
    (∀ (fields : List (Field atMarks)) (behind : List UInt8), fields ≠ [] → text strData = line fields ++ behind →
      (fields.length ≤ limit → (atCmdStrAnalyse strData tarData limit atFormat).2 = fields.length ∧
          ((atCmdStrAnalyse strData tarData limit atFormat).1.tarData.take limit.toNat).map
            (content (atCmdStrAnalyse strData tarData limit atFormat).1.strData) =
          fields.map Field.content ++ List.replicate (limit.toNat - fields.length) []) ∧
      (limit < fields.length → (atCmdStrAnalyse strData tarData limit atFormat).2 < 0)) ∧
    (¬ HasStop atMarks (text strData) → (atCmdStrAnalyse strData tarData limit atFormat).2 < 0) ∧
    ∀ write ∈ (atCmdStrAnalyse strData tarData limit atFormat).1.writes, write.Inside (text strData).length limit := by
  refine ⟨?_, ?_, analyse_writes strData tarData limit atFormat⟩
  · intro fields behind nonempty written
    constructor
    · intro fits
      have read := words_line_ok fields nonempty fits behind
      rw [← written] at read
      have parsed := analyse_ok room read
      rw [length_map] at parsed
      exact ⟨parsed.1, parsed.2.1⟩
    · intro many
      obtain ⟨failure, read⟩ := words_line_tooMany fields nonempty many behind
      rw [← written] at read
      exact (analyse_error room read).1
  · intro endless
    cases read : words atMarks limit .start (text strData) with
    | error failure => exact (analyse_error room read).1
    | ok list => exact absurd (words_hasStop read) endless

/-- `"a,#",,b` -/
def threeFields : List (Field atMarks) :=
  [.quoted [0x61, 0x2C, 0x23] (forall_iff_forall_mem.mp (by decide)), .plain [] nofun,
    .plain [0x62] (forall_iff_forall_mem.mp (by decide))]

theorem three_fields_read : (atCmdStrAnalyse (line threeFields ++ [0x7A]) (List.replicate 4 .null) 4 atFormat).2 = 3 ∧
    ((atCmdStrAnalyse (line threeFields ++ [0x7A]) (List.replicate 4 .null) 4 atFormat).1.tarData.take 4).map
      (content (atCmdStrAnalyse (line threeFields ++ [0x7A]) (List.replicate 4 .null) 4 atFormat).1.strData) =
      [[0x61, 0x2C, 0x23], [], [0x62], []] :=
  ((at_cmd_str_analyse_fields (line threeFields ++ [0x7A]) (List.replicate 4 .null) 4 (by decide)).1 threeFields [0x7A]
    (by decide) (by decide)).1 (by decide)

structure Printed (p : Printer) (chars : List UInt8) : Prop where
  starts : ∃ behind, p.lteCmdMsg = chars ++ behind
  offset : p.offset = chars.length
  size : p.lteCmdMsg.length = lteCmdBufSize
  inside : ∀ index ∈ p.written, index < lteCmdBufSize

lemma put_eq (before old output behind : List UInt8) (same : old.length = output.length) :
    put (before ++ (old ++ behind)) before.length output = before ++ (output ++ behind) := by
  induction output generalizing before old with
  | nil =>
    rw [length_eq_zero_iff.mp same]
    rfl
  | cons c output ih =>
    obtain ⟨first, old, rfl⟩ := exists_cons_of_length_pos (Nat.lt_of_lt_of_eq output.length.succ_pos same.symm)
    have moved : before.length + 1 = (before ++ [c]).length := by
      rw [length_append]
      rfl
    have stored : (before ++ (first :: old ++ behind)).set before.length c = (before ++ [c]) ++ (old ++ behind) := by
      rw [set_append_right _ _ (Nat.le_refl _), Nat.sub_self, append_assoc]
      rfl
    rw [put, stored, moved, ih (before ++ [c]) old (Nat.succ.inj same), append_assoc]
    rfl

lemma Printed.snprintf (printed : Printed p chars) (output : List UInt8)
    (fits : chars.length + output.length < lteCmdBufSize) :
    Printed (p.snprintf output) (chars ++ output) ∧ ∃ behind, (p.snprintf output).lteCmdMsg = chars ++ output ++ 0 :: behind := by
  obtain ⟨behind, starts⟩ := printed.starts
  have size := printed.size
  rw [starts, length_append] at size
  obtain ⟨old, after, parts, replaced⟩ : ∃ old after, behind = old ++ after ∧ old.length = (output ++ [0]).length := by
    refine ⟨_, _, (take_append_drop (output.length + 1) behind).symm, ?_⟩
    rw [length_take, length_append, length_singleton]
    omega
  have whole : output.take (lteCmdBufSize - 1) = output := take_of_length_le (by omega)
  have result : (p.snprintf output).lteCmdMsg = chars ++ output ++ 0 :: after := by
    unfold Printer.snprintf
    dsimp only
    rw [whole, starts, parts, printed.offset, put_eq _ _ _ _ replaced, append_assoc, append_assoc]
    rfl
  refine ⟨⟨⟨0 :: after, result⟩, ?_, ?_, ?_⟩, after, result⟩
  · exact (congrArg (· + output.length) printed.offset).trans length_append.symm
  · rw [parts, length_append, replaced] at size
    rw [result]
    simp only [length_append, length_cons, length_nil] at size ⊢
    omega
  · intro index member
    rcases mem_append.mp member with earlier | here
    · exact printed.inside index earlier
    · rw [whole, mem_range'_1, printed.offset] at here
      omega

lemma Printed.parms (printed : Printed p chars) (parms : List (List UInt8))
    (fits : chars.length + (parms.flatMap (0x2C :: ·)).length < lteCmdBufSize) :
    Printed (parms.foldl (fun p parm => p.snprintf (0x2C :: parm)) p) (chars ++ parms.flatMap (0x2C :: ·)) := by
  induction parms generalizing p chars with
  | nil =>
    rw [flatMap_nil, append_nil]
    exact printed
  | cons parm parms ih =>
    rw [flatMap_cons, length_append] at fits
    have first := (printed.snprintf (0x2C :: parm) (by omega)).1
    have rest := ih first (by rw [length_append]; omega)
    rw [append_assoc] at rest
    exact rest

/-- The words as they are passed on. -/
def joined (parms : List (List UInt8)) : List UInt8 := List.intercalate [0x2C] parms ++ [0x23]

lemma intercalate_eq (first : List UInt8) (others : List (List UInt8)) :
    List.intercalate [0x2C] (first :: others) = first ++ others.flatMap (0x2C :: ·) := by
  induction others generalizing first with
  | nil => simp
  | cons next others ih =>
    have step : List.intercalate [0x2C] (first :: next :: others) = first ++ 0x2C :: List.intercalate [0x2C] (next :: others) := by
      simp [List.intercalate]
    rw [step, ih, flatMap_cons]
    rfl

lemma length_joined {parms} (nonempty : parms ≠ []) : (joined parms).length = size parms := by
  obtain ⟨first, others, rfl⟩ := exists_cons_of_ne_nil nonempty
  have sum : (others.flatMap (0x2C :: · : List UInt8 → List UInt8)).length = size others := by
    rw [length_flatMap]
    rfl
  rw [joined, intercalate_eq, length_append, length_append, sum, length_singleton]
  have whole : size (first :: others) = (first.length + 1) + size others := sum_cons
  omega

lemma joined_all {parms : List (List UInt8)} {p : UInt8 → Prop} (nonempty : parms ≠ []) (comma : p 0x2C) (stop : p 0x23)
    (each : ∀ parm ∈ parms, ∀ a ∈ parm, p a) : ∀ a ∈ joined parms, p a := by
  obtain ⟨first, others, rfl⟩ := exists_cons_of_ne_nil nonempty
  intro a member
  rw [joined, intercalate_eq] at member
  rcases mem_append.mp member with inParms | last
  · rcases mem_append.mp inParms with inFirst | inOthers
    · exact each first mem_cons_self a inFirst
    · obtain ⟨parm, inList, inPart⟩ := mem_flatMap.mp inOthers
      rcases mem_cons.mp inPart with same | inParm
      · exact same ▸ comma
      · exact each parm (mem_cons_of_mem _ inList) a inParm
  · exact mem_singleton.mp last ▸ stop

lemma text_joined {parms} (nonempty : parms ≠ []) (clean : ∀ parm ∈ parms, 0 ∉ parm)
    (behind : List UInt8) : text (joined parms ++ 0 :: behind) = joined parms ∧ text (joined parms) = joined parms := by
  have nonzero : ∀ c ∈ joined parms, decide (c ≠ 0) = true := by
    refine joined_all nonempty (by decide) (by decide) fun parm member a inParm => ?_
    exact decide_eq_true fun same => clean parm member (same ▸ inParm)
  constructor
  · rw [text, takeWhile_append_of_pos nonzero, takeWhile_cons_of_neg (by decide), append_nil]
  · have whole : (joined parms ++ []).takeWhile (· ≠ 0) = joined parms ++ [] := takeWhile_append_of_pos nonzero
    rw [append_nil] at whole
    exact whole

lemma lteCmdText_eq {parms : List (List UInt8)} {lteCmdMsg : List UInt8} (heap : lteCmdMsg.length = lteCmdBufSize)
    (nonempty : parms ≠ []) (fits : size parms < lteCmdBufSize) (clean : ∀ parm ∈ parms, 0 ∉ parm) :
    text (lteCmdText lteCmdMsg parms).lteCmdMsg = joined parms ∧
      ∀ index ∈ (lteCmdText lteCmdMsg parms).written, index < lteCmdBufSize := by
  have length := length_joined nonempty
  obtain ⟨first, others, rfl⟩ := exists_cons_of_ne_nil nonempty
  rw [joined, intercalate_eq] at length
  simp only [length_append, length_singleton] at length
  have begins : Printed ⟨lteCmdMsg, 0, []⟩ [] := ⟨⟨lteCmdMsg, rfl⟩, rfl, heap, nofun⟩
  have head := (begins.snprintf first (by rw [length_nil]; omega)).1
  have body := head.parms others (by rw [nil_append]; omega)
  obtain ⟨last, behind, result⟩ := body.snprintf (cString "#") (by
    rw [nil_append, length_append]
    have one : (cString "#").length = 1 := by decide
    omega)
  have stop : cString "#" = [0x23] := by decide
  have whole : [] ++ first ++ others.flatMap (0x2C :: ·) ++ cString "#" = joined (first :: others) := by
    rw [stop, nil_append, joined, intercalate_eq]
  rw [whole] at result
  exact ⟨(congrArg text result).trans (text_joined nonempty clean behind).1, last.inside⟩

/-- The parameters of a command as `at_recv_cmd_handler` gets them, if the text is accepted. -/
def parameters (rcvMsg : List UInt8) (parm : List Parm) : Option (List (List UInt8)) :=
  let (s, parLen) := atCmdStrAnalyse rcvMsg parm parmMax atFormat
  if parmMax < parLen ∨ parLen ≤ 0 then none else some ((s.tarData.take parLen.toNat).map (content s.strData))

lemma parameters_eq {rcvMsg} {parm : List Parm} (array : parmMax ≤ parm.length) :
    parameters rcvMsg parm = (words atMarks parmMax .start (text rcvMsg)).toOption := by
  have room := Int.ofNat_le.mpr array
  unfold parameters
  cases read : words atMarks parmMax .start (text rcvMsg) with
  | error failure =>
    have negative := (analyse_error room read).1
    exact if_pos (.inr (Int.le_of_lt negative))
  | ok list =>
    obtain ⟨count, contents, -⟩ := analyse_ok room read
    obtain ⟨positive, fits⟩ := words_length read nofun
    generalize atCmdStrAnalyse rcvMsg parm parmMax atFormat = result at count contents ⊢
    obtain ⟨s, parLen⟩ := result
    dsimp only at count contents ⊢
    have accepted : ¬ ((parmMax : Int) < parLen ∨ parLen ≤ 0) := by omega
    have taken := congrArg (List.take list.length) contents
    rw [← map_take, take_take, take_left, Int.toNat_natCast, Nat.min_eq_left (by omega)] at taken
    rw [if_neg accepted, count, Int.toNat_natCast, taken]
    rfl

lemma findCmd_lteCommand {list parms} (found : findCmd list = .lteCommand parms) : list = parms := by
  unfold findCmd at found
  split at found
  · cases found
  · split at found
    · cases found
      rfl
    · cases found

lemma atRecvCmdHandler_lteCommand {rcvMsg} {parm} {parms}
    (routed : atRecvCmdHandler rcvMsg parm = .lteCommand parms) : parameters rcvMsg parm = some parms := by
  unfold atRecvCmdHandler at routed
  unfold parameters
  generalize atCmdStrAnalyse rcvMsg parm parmMax atFormat = result at routed ⊢
  obtain ⟨s, parLen⟩ := result
  dsimp only at routed ⊢
  split at routed
  · cases routed
  next accepted =>
    rw [if_neg accepted, findCmd_lteCommand routed]

lemma words_joined_iff {parms : List (List UInt8)} {limit : Int} (nonempty : parms ≠ []) (fits : parms.length ≤ limit)
    (unquoted : ∀ parm ∈ parms, quote ∉ parm) :
    words atMarks limit .start (joined parms) = .ok parms ↔ ∀ parm ∈ parms, 0x2C ∉ parm ∧ 0x23 ∉ parm := by
  constructor
  · intro read parm member
    have absent : atMarks.quote ∉ joined parms := by
      intro inJoined
      refine joined_all nonempty (p := (· ≠ quote)) (by decide) (by decide) ?_ _ inJoined rfl
      exact fun parm member a inParm same => unquoted parm member (same ▸ inParm)
    have plain := words_unquoted read absent parm member
    exact ⟨fun comma => (plain _ comma).2 rfl, fun stop => (plain _ stop).1 rfl⟩
  · intro clean
    have isClean (parm : List UInt8) (member : parm ∈ parms) :
        ∀ a ∈ parm, a ≠ atMarks.quote ∧ a ≠ atMarks.split ∧ a ≠ atMarks.stop := by
      intro a inParm
      refine ⟨?_, ?_, ?_⟩
      · rintro rfl
        exact unquoted parm member inParm
      · rintro rfl
        exact (clean parm member).1 inParm
      · rintro rfl
        exact (clean parm member).2 inParm
    let fields : List (Field atMarks) := parms.attach.map fun parm => .plain parm.1 (isClean parm.1 parm.2)
    have rendered : fields.map Field.render = parms := by
      rw [map_map]
      exact attach_map_subtype_val parms
    have contents : fields.map Field.content = parms := by
      rw [map_map]
      exact attach_map_subtype_val parms
    have count : fields.length = parms.length := by
      rw [length_map, length_attach]
    have some : fields ≠ [] := fun empty => nonempty (length_eq_zero_iff.mp (count.symm.trans (congrArg List.length empty)))
    have few := count ▸ fits
    have read := words_line_ok fields some few []
    rw [append_nil, line, rendered, contents] at read
    exact read

theorem pass_through_iff (rcvMsg : List UInt8) (parm again : List Parm) (lteCmdMsg : List UInt8) (lteSend : Int)
    (parms : List (List UInt8)) (short : (text rcvMsg).length ≤ 127) (array : parm.length = parmMax)
    (other : again.length = parmMax) (heap : lteCmdMsg.length = lteCmdBufSize)
    (routed : atRecvCmdHandler rcvMsg parm = .lteCommand parms) :
    (∀ index ∈ (lteCmdHandler (some lteCmdMsg) lteSend parms).written, index < lteCmdBufSize) ∧
      ∃ sent, (lteCmdHandler (some lteCmdMsg) lteSend parms).sent = some sent ∧
        (parameters sent again = some parms ↔ ∀ parm ∈ parms, 0x2C ∉ parm ∧ 0x23 ∉ parm) := by
  have accepted := atRecvCmdHandler_lteCommand routed
  rw [parameters_eq (Nat.le_of_eq array.symm)] at accepted
  cases read : words atMarks parmMax .start (text rcvMsg) with
  | error failure =>
    rw [read] at accepted
    cases accepted
  | ok list =>
    rw [read] at accepted
    cases accepted
    obtain ⟨positive, fits⟩ := words_length read nofun
    have nonempty : parms ≠ [] := ne_nil_of_length_pos positive
    have fitsBuffer : size parms < lteCmdBufSize := by
      have bound := size_words_le read
      have none : size (Cursor.start : Cursor UInt8).words + (Cursor.start : Cursor UInt8).word.length = 0 := rfl
      have buffer : lteCmdBufSize = 128 := rfl
      omega
    have clean : ∀ parm ∈ parms, 0 ∉ parm := by
      intro parm member zero
      refine words_all (p := (· ≠ 0)) read ?_ ?_ parm member 0 zero rfl
      · intro word inStart a inWord
        cases mem_singleton.mp inStart
        cases inWord
      · intro a inText _ same
        exact zero_not_mem_text rcvMsg (same ▸ inText)
    obtain ⟨printed, inside⟩ := lteCmdText_eq heap nonempty fitsBuffer clean
    have unquoted := quote_not_mem_words read
    have noZero := (text_joined nonempty clean []).2
    refine ⟨inside, _, rfl, ?_⟩
    rw [printed, parameters_eq (Nat.le_of_eq other.symm), noZero, ← words_joined_iff nonempty fits unquoted]
    cases words atMarks parmMax .start (joined parms) with
    | error failure => exact ⟨nofun, nofun⟩
    | ok list =>
      constructor
      · intro same
        cases same
        rfl
      · intro same
        cases same
        rfl

/-- The bytes of `APN,"a,b"#`. -/
def quotedComma : List UInt8 := cString "APN,\"a,b\"#"

theorem quoted_comma_splits : ∃ parms sent,
    atRecvCmdHandler quotedComma (List.replicate parmMax .null) = .lteCommand parms ∧
      (lteCmdHandler (some (List.replicate lteCmdBufSize 0)) 0 parms).sent = some sent ∧
      parameters sent (List.replicate parmMax .null) ≠ some parms :=
  ⟨[cString "APN", cString "a,b"], cString "APN,a,b#", by decide +kernel, by decide +kernel, by decide +kernel⟩

/-- The bytes of `SERVER,1,"a b"#`. -/
def quotedSpace : List UInt8 := cString "SERVER,1,\"a b\"#"

theorem quoted_space_kept : parameters (cString "SERVER,1,a b#") (List.replicate parmMax .null) =
    some [cString "SERVER", cString "1", cString "a b"] := by
  have routed : atRecvCmdHandler quotedSpace (List.replicate parmMax .null) =
      .lteCommand [cString "SERVER", cString "1", cString "a b"] := by decide +kernel
  obtain ⟨-, sent, same, iff⟩ := pass_through_iff quotedSpace (List.replicate parmMax .null) (List.replicate parmMax .null)
    (List.replicate lteCmdBufSize 0) 0 _ (by decide +kernel) length_replicate length_replicate length_replicate routed
  have built : some (cString "SERVER,1,a b#") = some sent := by
    rw [← same]
    decide +kernel
  cases built
  exact iff.mpr (by decide)

end LL320D.AtText
