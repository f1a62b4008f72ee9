import Mathlib

/-! Words between marks, some of them in quotation marks. The reader here goes through a text once and returns the words
in front of the first mark that ends a line outside of quotation marks. -/

namespace LL320D.Library.Quoted
open List Cursor

structure Marks (α : Type*) where
  quote : α
  split : α
  stop : α
  split_ne_quote : split ≠ quote
  stop_ne_quote : stop ≠ quote
  stop_ne_split : stop ≠ split

/-- In the middle of a text: the words in front of the current one, the current one so far, whether the first word has
begun, and whether quotation marks are open or closed. -/
structure Cursor (α : Type*) where
  words : List (List α)
  word : List α
  begun : Bool
  quoted : Bool
  closed : Bool

inductive Failure where
  | noRoom
  | tooMany
  | unfinished
  deriving DecidableEq

variable {α : Type*} {c : Cursor α}

namespace Cursor

def start : Cursor α := ⟨[], [], false, false, false⟩

def quote (c : Cursor α) : Cursor α :=
  if c.quoted then { c with quoted := false, closed := c.begun } else { c with word := [], quoted := true, closed := false }

def begin (c : Cursor α) : Cursor α := { c with begun := true }

def advance (c : Cursor α) (a : α) : Cursor α := if c.closed then c else { c with word := c.word ++ [a] }

def next (c : Cursor α) : Cursor α := { c with words := c.words ++ [c.word], word := [], closed := false }

end Cursor

variable [DecidableEq α] (marks : Marks α) (limit : Int)

/-- The words of a text from a cursor on, if they end and are not more than `limit`. -/
def words : Cursor α → List α → Except Failure (List (List α))
  | _, [] => .error .unfinished
  | c, a :: rest =>
    if a = marks.quote then words c.quote rest
    else if c.begun = false ∧ limit ≤ c.words.length then .error .noRoom
    else if c.quoted = false ∧ a = marks.stop then .ok (c.words ++ [c.word])
    else if c.quoted = false ∧ a = marks.split then
      if limit ≤ c.words.length + 1 then .error .tooMany else words c.begin.next rest
    else words (c.begin.advance a) rest

/-- The cursor at which the reading of a text ends: at its stop mark, at the mark in front of a word too many, or behind
the text. -/
def last : Cursor α → List α → Cursor α
  | c, [] => c
  | c, a :: rest =>
    if a = marks.quote then last c.quote rest
    else if c.begun = false ∧ limit ≤ c.words.length then c
    else if c.quoted = false ∧ a = marks.stop then c.begin
    else if c.quoted = false ∧ a = marks.split then
      if limit ≤ c.words.length + 1 then c.begin else last c.begin.next rest
    else last (c.begin.advance a) rest

/-- The first word so far. -/
def Cursor.first (c : Cursor α) : Option (List α) := if c.begun then (c.words ++ [c.word]).head? else none

variable {marks limit}

/-- The step rule of the reader: what every element adds to a fact about the rest of a text, for a text that is
read to its end. -/
lemma words_ok_induction {motive : Cursor α → List α → List (List α) → Prop}
    (quote : ∀ c rest result, motive c.quote rest result → motive c (marks.quote :: rest) result)
    (stop : ∀ c rest, c.quoted = false → (c.begun = false → c.words.length < limit) →
      motive c (marks.stop :: rest) (c.words ++ [c.word]))
    (split : ∀ c rest result, c.quoted = false → c.words.length + 1 < limit → motive c.begin.next rest result →
      motive c (marks.split :: rest) result)
    (inside : ∀ c a rest result, a ≠ marks.quote → (c.begun = false → c.words.length < limit) →
      (c.quoted = false → a ≠ marks.stop ∧ a ≠ marks.split) → motive (c.begin.advance a) rest result →
      motive c (a :: rest) result)
    {text : List α} {result : List (List α)} (read : words marks limit c text = .ok result) :
    motive c text result := by
  induction text generalizing c with
  | nil => cases read
  | cons a rest ih =>
    rw [words] at read
    split at read
    next same =>
      subst same
      exact quote c rest result (ih read)
    next other =>
      split at read
      · cases read
      next begins =>
        have room : c.begun = false → c.words.length < limit := fun first => Int.not_le.mp fun full => begins ⟨first, full⟩
        split at read
        next ends =>
          cases read
          rw [ends.2]
          exact stop c rest ends.1 room
        next goes =>
          split at read
          next splits =>
            split at read
            · cases read
            next more =>
              rw [splits.2]
              exact split c rest result splits.1 (Int.not_le.mp more) (ih read)
          next goesOn =>
            refine inside c a rest result other room (fun outside => ⟨?_, ?_⟩) (ih read)
            · exact fun same => goes ⟨outside, same⟩
            · exact fun same => goesOn ⟨outside, same⟩

section

def Cursor.All (p : α → Prop) (c : Cursor α) : Prop := ∀ word ∈ c.words ++ [c.word], ∀ a ∈ word, p a

variable {p : α → Prop} {c : Cursor α} {text : List α} {result : List (List α)}

omit [DecidableEq α] in
lemma Cursor.All.quote (all : c.All p) : c.quote.All p := by
  unfold Cursor.quote
  split
  · exact all
  · intro word member a inWord
    rcases mem_append.mp member with earlier | current
    · exact all word (mem_append_left _ earlier) a inWord
    · cases mem_singleton.mp current
      cases inWord

omit [DecidableEq α] in
lemma Cursor.All.next (all : c.All p) : c.next.All p := by
  intro word member a inWord
  rcases mem_append.mp member with earlier | current
  · exact all word earlier a inWord
  · cases mem_singleton.mp current
    cases inWord

omit [DecidableEq α] in
lemma Cursor.All.begin (all : c.All p) : c.begin.All p := all

omit [DecidableEq α] in
lemma Cursor.All.advance (all : c.All p) {a : α} (holds : p a) : (c.advance a).All p := by
  unfold Cursor.advance
  split
  · exact all
  · intro word member b inWord
    rcases mem_append.mp member with earlier | current
    · exact all word (mem_append_left _ earlier) b inWord
    · cases mem_singleton.mp current
      rcases mem_append.mp inWord with before | last
      · exact all c.word (mem_append_right _ (mem_singleton_self _)) b before
      · cases mem_singleton.mp last
        exact holds

lemma words_all (read : words marks limit c text = .ok result) (all : c.All p)
    (each : ∀ a ∈ text, a ≠ marks.quote → p a) : ∀ word ∈ result, ∀ a ∈ word, p a := by
  refine words_ok_induction (motive := fun c text result => c.All p → (∀ a ∈ text, a ≠ marks.quote → p a) →
    ∀ word ∈ result, ∀ a ∈ word, p a) ?_ ?_ ?_ ?_ read all each
  · intro c rest result ih all each
    exact ih all.quote fun a member => each a (mem_cons_of_mem _ member)
  · intro c rest _ _ all _
    exact all
  · intro c rest result _ _ ih all each
    exact ih all.begin.next fun a member => each a (mem_cons_of_mem _ member)
  · intro c a rest result other _ _ ih all each
    exact ih (all.begin.advance (each a mem_cons_self other)) fun b member => each b (mem_cons_of_mem _ member)

lemma quote_not_mem_words (read : words marks limit .start text = .ok result) : ∀ word ∈ result, marks.quote ∉ word := by
  intro word member quoted
  refine words_all (p := (· ≠ marks.quote)) read ?_ (fun _ _ other => other) word member _ quoted rfl
  intro word member a inWord
  cases mem_singleton.mp member
  cases inWord

lemma words_unquoted (read : words marks limit .start text = .ok result) (unquoted : marks.quote ∉ text) :
    ∀ word ∈ result, ∀ a ∈ word, a ≠ marks.stop ∧ a ≠ marks.split := by
  refine words_ok_induction (motive := fun c text result => c.quoted = false → marks.quote ∉ text →
    c.All (fun a => a ≠ marks.stop ∧ a ≠ marks.split) → ∀ word ∈ result, ∀ a ∈ word, a ≠ marks.stop ∧ a ≠ marks.split)
    ?_ ?_ ?_ ?_ read rfl unquoted ?_
  · intro c rest result _ _ absent
    exact absurd mem_cons_self absent
  · intro c rest _ _ _ _ all
    exact all
  · intro c rest result outside _ ih _ absent all
    exact ih outside (fun member => absent (mem_cons_of_mem _ member)) all.begin.next
  · intro c a rest result _ _ plain ih outside absent all
    refine ih ?_ (fun member => absent (mem_cons_of_mem _ member)) (all.begin.advance (plain outside))
    unfold Cursor.advance
    split <;> exact outside
  · intro word member a inWord
    cases mem_singleton.mp member
    cases inWord

def size (list : List (List α)) : Nat := (list.map fun word => word.length + 1).sum

omit [DecidableEq α] in
lemma size_concat (list) (word : List α) : size (list ++ [word]) = size list + (word.length + 1) := by
  unfold size
  rw [map_append, sum_append]
  rfl

lemma size_words_le (read : words marks limit c text = .ok result) :
    size result ≤ size c.words + c.word.length + text.length := by
  refine words_ok_induction (motive := fun c text result => size result ≤ size c.words + c.word.length + text.length)
    ?_ ?_ ?_ ?_ read
  · intro c rest result ih
    rw [length_cons]
    refine Nat.le_trans ih ?_
    unfold Cursor.quote
    split
    · dsimp only
      omega
    · simp only [length_nil]
      omega
  · intro c rest _ _
    rw [size_concat, length_cons]
    omega
  · intro c rest result _ _ ih
    have joined : size c.begin.next.words = size c.words + (c.word.length + 1) := size_concat c.words c.word
    have fresh : c.begin.next.word.length = 0 := rfl
    rw [length_cons]
    omega
  · intro c a rest result _ _ _ ih
    have longer : (c.begin.advance a).word.length ≤ c.word.length + 1 := by
      unfold Cursor.advance
      split
      · exact Nat.le_succ _
      · exact Nat.le_of_eq length_append
    have same : (c.begin.advance a).words = c.words := by
      unfold Cursor.advance
      split <;> rfl
    rw [same] at ih
    rw [length_cons]
    omega

lemma words_length (read : words marks limit c text = .ok result) (room : c.begun = true → c.words.length < limit) :
    0 < result.length ∧ result.length ≤ limit := by
  refine words_ok_induction (motive := fun c _ result => (c.begun = true → c.words.length < limit) →
    0 < result.length ∧ (result.length : Int) ≤ limit) ?_ ?_ ?_ ?_ read room
  · intro c rest result ih room
    refine ih ?_
    unfold Cursor.quote
    split <;> exact room
  · intro c rest _ first room
    have fits : (c.words.length : Int) < limit := by
      cases begun : c.begun with
      | false => exact first begun
      | true => exact room begun
    rw [length_append, length_singleton]
    exact ⟨Nat.succ_pos _, by omega⟩
  · intro c rest result _ more ih _
    refine ih fun _ => ?_
    have grown : c.begin.next.words.length = c.words.length + 1 := length_append
    omega
  · intro c a rest result _ first _ ih room
    refine ih fun _ => ?_
    have same : (c.begin.advance a).words = c.words := by
      unfold Cursor.advance
      split <;> rfl
    rw [same]
    cases begun : c.begun with
    | false => exact first begun
    | true => exact room begun

lemma words_last (read : words marks limit c text = .ok result) :
    (last marks limit c text).begun = true ∧
      result = (last marks limit c text).words ++ [(last marks limit c text).word] := by
  refine words_ok_induction (motive := fun c text result => (last marks limit c text).begun = true ∧
    result = (last marks limit c text).words ++ [(last marks limit c text).word]) ?_ ?_ ?_ ?_ read
  · intro c rest result ih
    rw [last, if_pos rfl]
    exact ih
  · intro c rest outside room
    rw [last, if_neg marks.stop_ne_quote, if_neg fun full => Int.not_le.mpr (room full.1) full.2, if_pos ⟨outside, rfl⟩]
    exact ⟨rfl, rfl⟩
  · intro c rest result outside more ih
    rw [last, if_neg marks.split_ne_quote, if_neg fun full => by omega, if_neg fun stop => marks.stop_ne_split stop.2.symm,
      if_pos ⟨outside, rfl⟩, if_neg (Int.not_le.mpr more)]
    exact ih
  · intro c a rest result other room plain ih
    rw [last, if_neg other, if_neg fun full => Int.not_le.mpr (room full.1) full.2, if_neg fun stop => (plain stop.1).1 stop.2,
      if_neg fun split => (plain split.1).2 split.2]
    exact ih

/-- In quotation marks a word is not closed, and in front of the first word nothing is stored. -/
structure Cursor.Sane (limit : Int) (c : Cursor α) : Prop where
  room : c.words.length < limit
  opened : c.quoted = true → c.closed = false
  fresh : c.begun = false → c.words = [] ∧ c.word = []

omit [DecidableEq α] in
lemma Cursor.Sane.quote (sane : c.Sane limit) : c.quote.Sane limit := by
  unfold Cursor.quote
  split
  · exact ⟨sane.room, fun quoted => absurd quoted Bool.false_ne_true, sane.fresh⟩
  · exact ⟨sane.room, fun _ => rfl, fun before => ⟨(sane.fresh before).1, rfl⟩⟩

omit [DecidableEq α] in
lemma Cursor.Sane.advance (sane : c.Sane limit) (a : α) : (c.begin.advance a).Sane limit := by
  unfold Cursor.advance
  split
  all_goals exact ⟨sane.room, sane.opened, fun before => absurd before Bool.true_eq_false.mp⟩

/-- A text without a stop mark has too many words, whatever follows it, or is read on behind its end. -/
lemma read_open {text : List α} (absent : marks.stop ∉ text) (sane : c.Sane limit) (rest : List α) :
    words marks limit c text = .error .tooMany ∧ words marks limit c (text ++ rest) = .error .tooMany ∧
        last marks limit c (text ++ rest) = last marks limit c text ∨
      words marks limit c text = .error .unfinished ∧ (last marks limit c text).Sane limit ∧
        words marks limit c (text ++ rest) = words marks limit (last marks limit c text) rest ∧
        last marks limit c (text ++ rest) = last marks limit (last marks limit c text) rest := by
  induction text generalizing c with
  | nil => exact .inr ⟨rfl, sane, rfl, rfl⟩
  | cons a text ih =>
    have behind : marks.stop ∉ text := fun member => absent (mem_cons_of_mem _ member)
    have other : ¬ (c.quoted = false ∧ a = marks.stop) := fun stop => absent (stop.2 ▸ mem_cons_self)
    have room : ¬ (c.begun = false ∧ limit ≤ c.words.length) := fun full => Int.not_le.mpr sane.room full.2
    rw [cons_append, words, words, last, last]
    by_cases quotes : a = marks.quote
    · simp only [if_pos quotes]
      exact ih behind sane.quote
    · simp only [if_neg quotes, if_neg room, if_neg other]
      by_cases splits : c.quoted = false ∧ a = marks.split
      · simp only [if_pos splits]
        by_cases full : limit ≤ c.words.length + 1
        · simp only [if_pos full]
          exact .inl ⟨trivial, trivial, trivial⟩
        · simp only [if_neg full]
          refine ih behind ⟨?_, fun _ => rfl, fun before => absurd before Bool.true_eq_false.mp⟩
          have grown : c.begin.next.words.length = c.words.length + 1 := length_append
          omega
      · simp only [if_neg splits]
        exact ih behind (sane.advance a)

def HasStop (marks : Marks α) (text : List α) : Prop :=
  ∃ before behind, text = before ++ marks.stop :: behind ∧ Even (before.count marks.quote)

lemma words_hasStop (read : words marks limit .start text = .ok result) : HasStop marks text := by
  have parity := words_ok_induction (motive := fun c text _ => ∃ before behind, text = before ++ marks.stop :: behind ∧
    (Even (before.count marks.quote) ↔ c.quoted = false)) ?_ ?_ ?_ ?_ read
  · obtain ⟨before, behind, parts, even⟩ := parity
    exact ⟨before, behind, parts, even.mpr rfl⟩
  · rintro c rest result ⟨before, behind, parts, even⟩
    refine ⟨marks.quote :: before, behind, by rw [parts]; rfl, ?_⟩
    rw [count_cons_self, Nat.even_add_one, even]
    unfold Cursor.quote
    cases quoted : c.quoted <;> simp
  · intro c rest outside _
    exact ⟨[], rest, rfl, iff_of_true ⟨0, rfl⟩ outside⟩
  · rintro c rest result outside _ ⟨before, behind, parts, even⟩
    refine ⟨marks.split :: before, behind, by rw [parts]; rfl, ?_⟩
    rw [count_cons_of_ne marks.split_ne_quote]
    exact even
  · rintro c a rest result other _ _ ⟨before, behind, parts, even⟩
    refine ⟨a :: before, behind, by rw [parts]; rfl, ?_⟩
    rw [count_cons_of_ne other, even]
    unfold Cursor.advance
    split <;> exact Iff.rfl

end

inductive Field (marks : Marks α) where
  | plain (text : List α) (clean : ∀ a ∈ text, a ≠ marks.quote ∧ a ≠ marks.split ∧ a ≠ marks.stop)
  | quoted (text : List α) (clean : ∀ a ∈ text, a ≠ marks.quote)

namespace Field

def content : Field marks → List α
  | .plain text _ => text
  | .quoted text _ => text

def render : Field marks → List α
  | .plain text _ => text
  | .quoted text _ => marks.quote :: text ++ [marks.quote]

end Field

def line (fields : List (Field marks)) : List α :=
  List.intercalate [marks.split] (fields.map Field.render) ++ [marks.stop]

omit [DecidableEq α] in
lemma line_single (field : Field marks) : line [field] = field.render ++ [marks.stop] := by
  unfold line
  simp

omit [DecidableEq α] in
lemma line_cons (field next : Field marks) (fields : List (Field marks)) :
    line (field :: next :: fields) = field.render ++ marks.split :: line (next :: fields) := by
  unfold line
  simp [List.intercalate]

structure Cursor.Fresh (limit : Int) (c : Cursor α) : Prop where
  word : c.word = []
  outside : c.quoted = false
  opened : c.closed = false
  room : c.words.length < limit

lemma words_inside {text : List α} (room : c.words.length < limit) (opened : c.closed = false)
    (clean : ∀ a ∈ text, a ≠ marks.quote ∧ (c.quoted = false → a ≠ marks.stop ∧ a ≠ marks.split)) (rest : List α) :
    words marks limit c (text ++ rest) =
      words marks limit { c with word := c.word ++ text, begun := c.begun || !text.isEmpty } rest := by
  induction text generalizing c with
  | nil =>
    rw [append_nil, isEmpty_nil, Bool.not_true, Bool.or_false]
    rfl
  | cons a text ih =>
    obtain ⟨other, plain⟩ := clean a mem_cons_self
    have later := fun b member => clean b (mem_cons_of_mem a member)
    rw [cons_append, words, if_neg other, if_neg fun full => Int.not_le.mpr room full.2,
      if_neg fun ends => (plain ends.1).1 ends.2, if_neg fun splits => (plain splits.1).2 splits.2]
    have advanced : c.begin.advance a = { c with word := c.word ++ [a], begun := true } := by
      unfold Cursor.advance Cursor.begin
      rw [if_neg (by rw [opened]; exact Bool.false_ne_true)]
    have shorter : ({ c with word := c.word ++ [a], begun := true } : Cursor α).words.length < limit := room
    rw [advanced, ih shorter opened later]
    simp

lemma words_field (fresh : c.Fresh limit) (field : Field marks) (rest) :
    ∃ after : Cursor α, words marks limit c (field.render ++ rest) = words marks limit after rest ∧
      after.words = c.words ∧ after.word = field.content ∧ after.quoted = false := by
  cases field with
  | plain text clean =>
    refine ⟨_, words_inside fresh.room fresh.opened ?_ rest, rfl, ?_, fresh.outside⟩
    · intro a member
      exact ⟨(clean a member).1, fun _ => ⟨(clean a member).2.2, (clean a member).2.1⟩⟩
    · exact congrArg (· ++ text) fresh.word
  | quoted text clean =>
    have opened : c.quote = { c with word := [], quoted := true, closed := false } := by
      unfold Cursor.quote
      rw [if_neg (by rw [fresh.outside]; exact Bool.false_ne_true)]
    have reads : words marks limit c ((marks.quote :: text ++ [marks.quote]) ++ rest) =
        words marks limit c.quote (text ++ (marks.quote :: rest)) := by
      rw [cons_append, cons_append, words, if_pos rfl, append_assoc]
      rfl
    have clean' : ∀ a ∈ text, a ≠ marks.quote ∧ (c.quote.quoted = false → a ≠ marks.stop ∧ a ≠ marks.split) := by
      intro a member
      refine ⟨clean a member, fun outside => ?_⟩
      rw [opened] at outside
      cases outside
    have room : (c.quote.words.length : Int) < limit := by
      rw [opened]
      exact fresh.room
    have inside := words_inside room (by rw [opened]) clean' (marks.quote :: rest)
    refine ⟨_, reads.trans (inside.trans (by rw [words, if_pos rfl])), ?_⟩
    rw [opened]
    exact ⟨rfl, rfl, rfl⟩

lemma words_split (fresh : c.Fresh limit) (field : Field marks) (rest) :
    (limit ≤ c.words.length + 1 → words marks limit c (field.render ++ marks.split :: rest) = .error .tooMany) ∧
      (c.words.length + 1 < limit → ∃ next : Cursor α, next.Fresh limit ∧ next.words = c.words ++ [field.content] ∧
        words marks limit c (field.render ++ marks.split :: rest) = words marks limit next rest) := by
  obtain ⟨after, reads, same, content, outside⟩ := words_field fresh field (marks.split :: rest)
  have room : ¬ (after.begun = false ∧ limit ≤ after.words.length) := by
    rw [same]
    exact fun full => Int.not_le.mpr fresh.room full.2
  rw [words, if_neg marks.split_ne_quote, if_neg room, if_neg fun ends => marks.stop_ne_split ends.2.symm,
    if_pos ⟨outside, rfl⟩, same] at reads
  have grown : after.begin.next.words = c.words ++ [field.content] := by
    rw [← same, ← content]
    rfl
  have count : (after.begin.next.words.length : Int) = c.words.length + 1 := by
    rw [grown, length_append]
    rfl
  refine ⟨fun full => reads.trans (if_pos full), fun more => ?_⟩
  exact ⟨after.begin.next, ⟨rfl, outside, rfl, count ▸ more⟩, grown, reads.trans (if_neg (Int.not_le.mpr more))⟩

lemma words_line (fresh : c.Fresh limit) (field : Field marks) (fields : List (Field marks))
    (fits : c.words.length + (fields.length + 1) ≤ limit) (rest : List α) :
    words marks limit c (line (field :: fields) ++ rest) = .ok (c.words ++ (field :: fields).map Field.content) := by
  induction fields generalizing c field with
  | nil =>
    rw [line_single, append_assoc]
    obtain ⟨after, reads, same, content, outside⟩ := words_field fresh field (marks.stop :: rest)
    have room : ¬ (after.begun = false ∧ limit ≤ after.words.length) := by
      rw [same]
      exact fun full => Int.not_le.mpr fresh.room full.2
    refine reads.trans ?_
    rw [words, if_neg marks.stop_ne_quote, if_neg room, if_pos ⟨outside, rfl⟩, same, content]
    rfl
  | cons next fields ih =>
    rw [length_cons] at fits
    obtain ⟨after, begins, grown, reads⟩ := (words_split fresh field (line (next :: fields) ++ rest)).2 (by omega)
    have room : (after.words.length : Int) + (fields.length + 1) ≤ limit := by
      rw [grown, length_append, length_singleton]
      omega
    rw [line_cons, append_assoc, cons_append, reads, ih begins next room, grown, append_assoc]
    rfl

lemma words_no_room (first : c.begun = false) (full : limit ≤ c.words.length) (text) :
    ∃ failure, words marks limit c text = .error failure := by
  induction text generalizing c with
  | nil => exact ⟨_, rfl⟩
  | cons a rest ih =>
    rw [words]
    split
    · refine ih ?_ ?_
      · unfold Cursor.quote
        split <;> exact first
      · unfold Cursor.quote
        split <;> exact full
    · exact ⟨.noRoom, if_pos ⟨first, full⟩⟩

lemma words_line_full (fresh : c.Fresh limit) (field : Field marks) (fields : List (Field marks))
    (full : limit < c.words.length + (fields.length + 1)) (rest : List α) :
    words marks limit c (line (field :: fields) ++ rest) = .error .tooMany := by
  induction fields generalizing c field with
  | nil =>
    have room := fresh.room
    rw [length_nil] at full
    omega
  | cons next fields ih =>
    rw [length_cons] at full
    rw [line_cons, append_assoc, cons_append]
    obtain ⟨ends, goesOn⟩ := words_split fresh field (line (next :: fields) ++ rest)
    by_cases last : limit ≤ c.words.length + 1
    · exact ends last
    · obtain ⟨after, begins, grown, reads⟩ := goesOn (Int.not_le.mp last)
      refine reads.trans (ih begins next ?_)
      rw [grown, length_append, length_singleton]
      omega

lemma words_line_tooMany (fields : List (Field marks)) (nonempty : fields ≠ []) (full : limit < fields.length)
    (rest : List α) : ∃ failure, words marks limit .start (line fields ++ rest) = .error failure := by
  obtain ⟨field, others, rfl⟩ := exists_cons_of_ne_nil nonempty
  by_cases room : (0 : Int) < limit
  · refine ⟨_, words_line_full ⟨rfl, rfl, rfl, room⟩ field others ?_ rest⟩
    rw [length_cons] at full
    simp only [Cursor.start, length_nil]
    omega
  · exact words_no_room rfl (Int.not_lt.mp room) _

lemma words_line_ok (fields : List (Field marks)) (nonempty : fields ≠ []) (fits : fields.length ≤ limit)
    (rest : List α) : words marks limit .start (line fields ++ rest) = .ok (fields.map Field.content) := by
  obtain ⟨field, others, rfl⟩ := exists_cons_of_ne_nil nonempty
  rw [length_cons] at fits
  have room : (0 : Int) < limit := by omega
  exact words_line ⟨rfl, rfl, rfl, room⟩ field others (by simp only [Cursor.start, length_nil]; omega) rest

end LL320D.Library.Quoted
