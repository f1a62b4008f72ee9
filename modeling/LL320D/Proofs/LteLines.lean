import LL320D.Library.Fields
import LL320D.LteReply
import LL320D.Proofs.AtTextWords

/-! The lines of the 4G module: they do not depend on how the stream is cut into chunks, when the tokenisers and the reply
parser stay in bounds, and the reply to an `LTE+CMD`. -/

namespace LL320D.BleScan
open List

section

variable (split : Char) {pos size : Nat} (text : List Char)

/-- The text from the field at a position on, empty if there is no such field. -/
def textFrom : Nat → List Char
  | 0 => text
  | pos + 1 => ((textFrom pos).dropWhile (· ≠ split)).tail

def fieldAt (pos : Nat) : List Char := (textFrom split text pos).takeWhile (· ≠ split)

lemma getStrLoop_from (i : Nat) (bound : i ≤ pos) :
    getStrLoop pos split size text 0 [] = getStrLoop pos split size (textFrom split text i) i [] := by
  have skip (text) (i : Nat) (before : i < pos) : getStrLoop pos split size text i [] =
      getStrLoop pos split size (text.dropWhile (· ≠ split)).tail (i + 1) [] := by
    induction text with
    | nil => rfl
    | cons c text ih =>
      rw [getStrLoop, if_neg fun here => Nat.ne_of_lt before here.1, if_neg (Nat.lt_asymm before)]
      by_cases ends : c = split
      · rw [if_pos ends, dropWhile_cons_of_neg (by simpa using ends), tail_cons]
      · rw [if_neg ends, dropWhile_cons_of_pos (by simpa using ends), ih]
  induction i with
  | zero => rfl
  | succ i ih => rw [ih (Nat.le_of_succ_le bound), skip _ i bound, textFrom]

/-- At the field itself, behind the part of it that is stored. -/
lemma getStrLoop_field (out : List Char) (room : out.length + 1 < size) : getStrLoop pos split size text pos out =
    (decide (out.length + (fieldAt split text 0).length + 1 < size ∧ textFrom split text 1 ≠ []),
      out ++ (fieldAt split text 0).take (size - 1 - out.length)) := by
  induction text generalizing out with
  | nil => simp [getStrLoop, fieldAt, textFrom]
  | cons c text ih =>
    by_cases ends : c = split
    · cases text <;> simp [getStrLoop, fieldAt, textFrom, ends, room]
    · have other : decide (c ≠ split) = true := decide_eq_true ends
      have field : fieldAt split (c :: text) 0 = c :: fieldAt split text 0 := takeWhile_cons_of_pos other
      have behind : textFrom split (c :: text) 1 = textFrom split text 1 := congrArg tail (dropWhile_cons_of_pos other)
      have more : size - 1 - out.length = (size - 1 - (out.length + 1)) + 1 := by omega
      rw [getStrLoop, if_pos ⟨rfl, ends⟩, field, behind, more, take_succ_cons, length_cons]
      split
      next full =>
        rw [Nat.sub_eq_zero_of_le full, take_zero, decide_eq_false fun inside => by omega]
      next =>
        rw [ih (out ++ [c]) (by rw [length_append, length_singleton]; omega), length_append, length_singleton, append_assoc,
          singleton_append, Nat.add_assoc out.length, Nat.add_comm 1]

lemma myGetStrAtPos_eq (pos) (room : 1 < size) : myGetStrAtPos text pos split size =
    (decide ((fieldAt split text pos).length + 1 < size ∧ textFrom split text (pos + 1) ≠ []),
      (fieldAt split text pos).take (size - 1)) := by
  have field : fieldAt split text pos = fieldAt split (textFrom split text pos) 0 := rfl
  have behind : textFrom split text (pos + 1) = textFrom split (textFrom split text pos) 1 := rfl
  rw [myGetStrAtPos, getStrLoop_from split text pos (Nat.le_refl _), getStrLoop_field split _ [] (by simpa using room), field,
    behind, length_nil, Nat.zero_add, nil_append, Nat.sub_zero]

/-- The field is not cut, unless the buffer has one byte, but a field that fills it ends the search for more text. -/
theorem field_extracted_iff (pos : Fin 65535) (size : Nat) (some : 0 < size) :
    ((myGetStrAtPos text pos split size).2.length < size ∧
        (myGetStrAtPos text pos split size).2 = (fieldAt split text pos).take (size - 1) ∧
        ((myGetStrAtPos text pos split size).1 = true ↔ textFrom split text (pos + 1) ≠ [])) ↔
      fieldAt split text pos = [] ∨
        1 < size ∧ ((fieldAt split text pos).length + 1 < size ∨ textFrom split text (pos + 1) = []) := by
  by_cases room : 1 < size
  · rw [myGetStrAtPos_eq split text pos room]
    simp only [decide_eq_true_eq, true_and]
    have inside : ((fieldAt split text pos).take (size - 1)).length < size := by
      rw [length_take]
      omega
    refine ⟨fun right => .inr ⟨room, ?_⟩, fun fits => ⟨inside, And.right, fun more => ⟨?_, more⟩⟩⟩
    · by_cases none : textFrom split text (pos + 1) = []
      · exact .inr none
      · exact .inl (right.2.mpr none).1
    · rcases fits with empty | ⟨-, fits | none⟩
      · rwa [empty]
      · exact fits
      · exact absurd none more
  · obtain rfl : size = 1 := by omega
    rw [myGetStrAtPos, getStrLoop_from split text pos (Nat.le_refl _), fieldAt, textFrom]
    cases textFrom split text pos with
    | nil => simp [getStrLoop]
    | cons c rest =>
      by_cases ends : c = split
      · cases rest <;> simp [getStrLoop, ends]
      · simp [getStrLoop, ends]

end

theorem one_field_extracted : (myGetStrAtPos "ab,cd".toList (1 : Fin 65535) ',' 4).2 = "cd".toList :=
  ((field_extracted_iff ',' "ab,cd".toList 1 4 (by decide)).mpr (by decide)).2.1

theorem filled_buffer_ends : myGetStrAtPos "abc,d".toList 0 ',' 4 = (false, "abc".toList) ∧
    fieldAt ',' "abc,d".toList 0 = "abc".toList ∧ textFrom ',' "abc,d".toList 1 = ['d'] := by decide

end LL320D.BleScan

namespace LL320D.Lte
open BleScan Library List Pieces

namespace Assembler

def lines (s : Assembler) : List (List UInt8) := s.parsed.filter fun line => !line.isEmpty

/-- A piece of the stream as it fits into `command`. -/
def cut (piece : List UInt8) : List UInt8 := piece.take (maxCmdLen - 1)

structure After (s : Assembler) (pieces : List (List UInt8) × List UInt8) : Prop where
  command : s.command = cut pieces.2
  lines : s.lines = (pieces.1.filter fun piece => !piece.isEmpty).map cut

variable {s : Assembler} {pieces : List (List UInt8) × List UInt8} {i iLen : Nat}

lemma After.readAt (after : s.After pieces) : (s.readAt i iLen).After pieces := ⟨after.command, after.lines⟩

lemma After.parse (after : s.After pieces) : s.parse.After (pieces.1 ++ [pieces.2], []) := by
  refine ⟨rfl, ?_⟩
  have before := after.lines
  unfold Assembler.lines at before ⊢
  show (s.parsed ++ [s.command]).filter _ = _
  rw [filter_append, filter_append, map_append, before, after.command]
  congr 1
  cases pieces.2 with
  | nil | cons => rfl

lemma After.empty (after : s.After (pieces.1, [])) : s.After (pieces.1 ++ [[]], []) := by
  refine ⟨after.command, ?_⟩
  rw [after.lines, filter_append]
  exact congrArg _ (append_nil _).symm

lemma After.byte (after : s.After pieces) (byte : UInt8) :
    (if s.command.length < maxCmdLen - 1 then { s with command := s.command ++ [byte] } else s).After
      (pieces.1, pieces.2 ++ [byte]) := by
  have command := after.command
  have length : s.command.length = min (maxCmdLen - 1) pieces.2.length := by
    rw [command, cut, length_take]
  split
  next room =>
    refine ⟨?_, after.lines⟩
    show s.command ++ [byte] = cut (pieces.2 ++ [byte])
    rw [command, cut, cut, take_of_length_le (by omega), take_of_length_le]
    rw [length_append, length_singleton]
    omega
  next full =>
    refine ⟨?_, after.lines⟩
    show s.command = cut (pieces.2 ++ [byte])
    rw [command, cut, cut, take_append_of_le_length (by omega)]

lemma After.loop (data : List UInt8) (after : s.After pieces) :
    (handleRecvLoop iLen s i data).After (data.foldl (feed isLineEnd) pieces) := by
  induction s, i, data using handleRecvLoop.induct iLen generalizing pieces with
  | case1 s i => exact after
  | case2 s i byte ends =>
    unfold handleRecvLoop
    rw [if_pos ends, foldl_cons, feed_end _ ends]
    exact after.readAt.parse.readAt
  | case3 s i byte ends tail ih =>
    unfold handleRecvLoop
    rw [if_pos ends, foldl_cons, foldl_cons, feed_end _ ends, feed_end _ (by decide)]
    exact ih after.readAt.parse.readAt.empty
  | case4 s i byte ends next tail other ih =>
    unfold handleRecvLoop
    rw [if_pos ends, foldl_cons, feed_end _ ends]
    dsimp only
    rw [if_neg other]
    exact ih after.readAt.parse.readAt
  | case5 s i byte rest inside room ih =>
    have next := after.byte byte
    rw [if_pos room] at next
    unfold handleRecvLoop
    rw [if_neg inside, if_pos room, foldl_cons, feed_inside _ inside]
    exact ih next.readAt
  | case6 s i byte rest inside full ih =>
    have next := after.byte byte
    rw [if_neg full] at next
    unfold handleRecvLoop
    rw [if_neg inside, if_neg full, foldl_cons, feed_inside _ inside]
    exact ih next.readAt

end Assembler

def trailing : List UInt8 → Nat
  | [] => 0
  | byte :: rest =>
    if rest.all (· == lineFeed) then if isLineEnd byte then rest.length + 1 else rest.length else trailing rest

lemma trailing_feeds {data : List UInt8} (feeds : data.all (· == lineFeed) = true) : trailing data = data.length := by
  cases data with
  | nil => rfl
  | cons byte rest =>
    rw [all_cons, Bool.and_eq_true] at feeds
    have first := eq_of_beq feeds.1
    unfold trailing
    rw [if_pos feeds.2, first]
    rfl

lemma trailing_inside {byte : UInt8} (inside : ¬ isLineEnd byte = true) (rest) :
    trailing (byte :: rest) = trailing rest := by
  rw [trailing]
  split
  next feeds => exact (trailing_feeds feeds).symm
  next => rfl

lemma trailing_pair {byte : UInt8} (ends : isLineEnd byte = true) (tail) :
    trailing (byte :: lineFeed :: tail) % 2 = trailing tail % 2 := by
  by_cases feeds : tail.all (· == lineFeed) = true
  · have both : (lineFeed :: tail).all (· == lineFeed) = true := by
      rw [all_cons, feeds]
      rfl
    rw [trailing, if_pos both, if_pos ends, trailing_feeds feeds, length_cons]
    omega
  · have other : ¬ (lineFeed :: tail).all (· == lineFeed) = true := by
      rw [all_cons, Bool.and_eq_true]
      exact fun both => feeds both.2
    rw [trailing, if_neg other, trailing, if_neg feeds]

lemma trailing_other {byte next : UInt8} (other : ¬ next = lineFeed) (tail : List UInt8) :
    trailing (byte :: next :: tail) = trailing (next :: tail) := by
  have mixed : ¬ (next :: tail).all (· == lineFeed) = true := by
    rw [all_cons, Bool.and_eq_true]
    exact fun both => other (eq_of_beq both.1)
  rw [trailing, if_neg mixed]

namespace Assembler

def InBounds (s : Assembler) : Prop := ∀ read ∈ s.reads, read.1 < read.2

instance (s : Assembler) : Decidable s.InBounds := inferInstanceAs (Decidable (∀ _ ∈ _, _))

lemma inBounds_readAt (s : Assembler) (i iLen) : (s.readAt i iLen).InBounds ↔ s.InBounds ∧ i < iLen := by
  unfold InBounds readAt
  rw [forall_mem_append, forall_mem_singleton]

lemma inBounds_loop (s : Assembler) (i iLen data) (whole : i + data.length = iLen) :
    (handleRecvLoop iLen s i data).InBounds ↔ s.InBounds ∧ trailing data % 2 = 0 := by
  have parsed (s : Assembler) : s.parse.InBounds ↔ s.InBounds := Iff.rfl
  induction s, i, data using handleRecvLoop.induct iLen with
  | case1 s i => exact (and_iff_left rfl).symm
  | case2 s i byte ends =>
    rw [length_singleton] at whole
    unfold handleRecvLoop
    rw [if_pos ends]
    dsimp only
    rw [inBounds_readAt, parsed, inBounds_readAt, trailing, if_pos all_nil, if_pos ends, length_nil]
    omega
  | case3 s i byte ends tail ih =>
    rw [length_cons, length_cons] at whole
    unfold handleRecvLoop
    rw [if_pos ends]
    dsimp only
    rw [if_pos rfl]
    refine (ih (by omega)).trans ?_
    rw [inBounds_readAt, parsed, inBounds_readAt, trailing_pair ends]
    have inside : i < iLen ∧ i + 1 < iLen := by omega
    tauto
  | case4 s i byte ends next tail other ih =>
    rw [length_cons] at whole
    have behind : 0 < (next :: tail).length := Nat.succ_pos _
    unfold handleRecvLoop
    rw [if_pos ends]
    dsimp only
    rw [if_neg other]
    refine (ih (by omega)).trans ?_
    rw [inBounds_readAt, parsed, inBounds_readAt, trailing_other other]
    have inside : i < iLen ∧ i + 1 < iLen := by omega
    tauto
  | case5 s i byte rest inside room ih =>
    rw [length_cons] at whole
    have read := inBounds_readAt s i iLen
    have here : i < iLen := by omega
    unfold handleRecvLoop
    rw [if_neg inside, if_pos room, trailing_inside inside]
    exact (ih (by omega)).trans (and_congr_left' (read.trans (and_iff_left here)))
  | case6 s i byte rest inside full ih =>
    rw [length_cons] at whole
    have read := inBounds_readAt s i iLen
    have here : i < iLen := by omega
    unfold handleRecvLoop
    rw [if_neg inside, if_neg full, trailing_inside inside]
    exact (ih (by omega)).trans (and_congr_left' (read.trans (and_iff_left here)))

end Assembler

def assemble (chunks : List Chunk) : Assembler := chunks.foldl Assembler.handleRecv Assembler.start

def stream (chunks : List Chunk) : List UInt8 := chunks.flatMap Chunk.data

/-- The lines are the pieces of the stream between line ends, however it is cut; and no read is behind its chunk
exactly if the number of line ends that close a chunk is always even. -/
theorem lines_assembled (chunks : List Chunk) : (assemble chunks).lines =
        (((stream chunks).splitOnP isLineEnd).dropLast.filter fun piece => !piece.isEmpty).map Assembler.cut ∧
      ((assemble chunks).InBounds ↔ ∀ chunk ∈ chunks, trailing chunk.data % 2 = 0) := by
  have lines (chunks : List Chunk) : ∀ {s : Assembler} {pieces : List (List UInt8) × List UInt8}, s.After pieces →
      (chunks.foldl Assembler.handleRecv s).After ((stream chunks).foldl (Pieces.feed isLineEnd) pieces) := by
    induction chunks with
    | nil => exact fun after => after
    | cons chunk chunks ih =>
      intro s pieces after
      rw [foldl_cons, stream, flatMap_cons, foldl_append]
      exact ih (after.loop chunk.data)
  have bounds (chunks : List Chunk) : ∀ s : Assembler, (chunks.foldl Assembler.handleRecv s).InBounds ↔
      s.InBounds ∧ ∀ chunk ∈ chunks, trailing chunk.data % 2 = 0 := by
    induction chunks with
    | nil => exact fun s => (and_iff_left fun _ member => nomatch member).symm
    | cons chunk chunks ih =>
      intro s
      rw [foldl_cons, ih, forall_mem_cons, Assembler.handleRecv,
        Assembler.inBounds_loop s 0 _ chunk.data (Nat.zero_add _), and_assoc]
  have after := lines chunks (show Assembler.start.After ([], []) from ⟨rfl, rfl⟩)
  rw [Pieces.feed_start] at after
  refine ⟨after.lines, (bounds chunks Assembler.start).trans (and_iff_right ?_)⟩
  exact fun _ member => nomatch member

def fullChunk : Chunk where
  data := List.replicate 127 0x41 ++ [0x0D]
  nonempty := append_ne_nil_of_right_ne_nil _ (cons_ne_nil _ _)
  most := by
    rw [length_append, length_replicate]
    exact Nat.le_refl _

theorem read_behind_full_chunk : (readBufSize, readBufSize) ∈ (assemble [fullChunk]).reads := by
  decide +kernel

/-- The stores of a tokeniser that finds `count` words when `i` were found before. -/
structure Tokens.Counts (tokens : Tokens) (i count : Nat) : Prop where
  indices : tokens.stores.map Store.index = List.range' i count
  argc : tokens.argc = i + count

section

variable {tokens : Tokens} {i count : Nat}

lemma Tokens.Counts.text (counts : tokens.Counts i count) (text) :
    Tokens.Counts { tokens with text } i count := ⟨counts.indices, counts.argc⟩

lemma Tokens.Counts.word (counts : tokens.Counts (i + 1) count) (offset : Nat) (text : List Char) :
    Tokens.Counts { tokens with stores := { index := i, offset } :: tokens.stores, text } i (1 + count) := by
  refine ⟨?_, ?_⟩
  · rw [Nat.add_comm 1, List.range'_succ, ← counts.indices]
    rfl
  · rw [← Nat.add_assoc]
    exact counts.argc

lemma parseCmdLineLoop_counts (flag : Char) (text) : ∀ word i pos,
    (parseCmdLineLoop flag 0 word i pos text).Counts i (Pieces.starts (· == flag) word text) := by
  induction text with
  | nil =>
    intro word i pos
    exact ⟨rfl, rfl⟩
  | cons c text ih =>
    intro word i pos
    unfold parseCmdLineLoop Pieces.starts
    by_cases ends : c = flag
    · rw [if_pos ends, if_pos ends, if_pos (beq_iff_eq.mpr ends)]
      cases word with
      | true | false => exact (ih false i (pos + 1)).text _
    · rw [if_neg ends, if_neg ends, if_neg (Nat.succ_ne_zero i), if_neg fun same => ends (beq_iff_eq.mp same)]
      cases word with
      | true =>
        rw [if_pos rfl, if_pos rfl, Nat.zero_add]
        exact (ih true i (pos + 1)).text _
      | false => exact (ih true (i + 1) (pos + 1)).word pos _

lemma parseArgsLoop_eq (text) : ∀ word i pos,
    parseArgsLoop word i pos text = parseCmdLineLoop ' ' 0 word i pos text := by
  induction text with
  | nil =>
    intro word i pos
    rfl
  | cons c text ih =>
    intro word i pos
    rw [parseArgsLoop, parseCmdLineLoop, if_neg (Nat.succ_ne_zero i)]
    simp only [ih]

lemma parseArgsLoop_counts (text) (word : Bool) (i pos : Nat) :
    (parseArgsLoop word i pos text).Counts i (Pieces.starts (· == ' ') word text) := by
  rw [parseArgsLoop_eq]
  exact parseCmdLineLoop_counts ' ' text word i pos

end

/-- Every store into `argv` is inside the array, and `argc` does not exceed its length. -/
def Tokens.Safe (tokens : Tokens) : Prop := (∀ store ∈ tokens.stores, store.index < maxArgs) ∧ tokens.argc ≤ maxArgs

instance (tokens : Tokens) : Decidable tokens.Safe := inferInstanceAs (Decidable (_ ∧ _))

lemma Tokens.Counts.safe_iff {tokens : Tokens} {count : Nat} (counts : tokens.Counts 0 count) :
    tokens.Safe ↔ count ≤ maxArgs := by
  have argc : tokens.argc = count := counts.argc.trans (Nat.zero_add _)
  constructor
  · intro safe
    exact argc ▸ safe.2
  · intro few
    refine ⟨fun store member => ?_, argc ▸ few⟩
    have index : store.index ∈ tokens.stores.map Store.index := List.mem_map_of_mem member
    rw [counts.indices] at index
    have below := (List.mem_range'_1.mp index).2
    omega

/-- A line as it is given to `my_lte_parse_cmd`. -/
abbrev Line := { text : List Char // '\x00' ∉ text ∧ text.length ≤ maxCmdLen - 1 }

def isBlank (c : Char) : Bool := c == ' ' || c == '\t'

/-- As many words as `argv` has entries: words between blanks and tabs for `ParseArgs`, the fields behind the header
that are not empty for a factory command. -/
def FewWords (line : List Char) : Prop :=
  match route line with
  | .factory text => (Pieces.words (· == ',') (text.drop factoryCmdHeader.length)).length ≤ maxArgs
  | .args text => (Pieces.words isBlank text).length ≤ maxArgs
  | _ => True

theorem tokenisers_safe_iff (line : Line) : (∀ tokens ∈ tokenise line.val, tokens.Safe) ↔ FewWords line.val := by
  unfold tokenise FewWords
  cases route line.val with
  | ignored | handler | forward | reply => exact iff_of_true (fun _ none => nomatch none) trivial
  | factory text =>
    have counts := parseCmdLineLoop_counts ',' (text.drop factoryCmdHeader.length) false 0 0
    rw [Pieces.starts_words] at counts
    dsimp only
    rw [← counts.safe_iff]
    exact ⟨fun safe => safe _ rfl, fun safe tokens same => Option.some.inj same ▸ safe⟩
  | args text =>
    have counts := parseArgsLoop_counts (text.map fun c => if c = '\t' then ' ' else c) false 0 0
    have blanks : (fun c => (if c = '\t' then ' ' else c) == ' ') = isBlank := by
      funext c
      unfold isBlank
      by_cases tab : c = '\t'
      · rw [if_pos tab, tab]
        rfl
      · rw [if_neg tab, beq_eq_false_iff_ne.mpr tab, Bool.or_false]
    rw [Pieces.starts_map, blanks, Pieces.starts_words] at counts
    dsimp only
    rw [← counts.safe_iff]
    exact ⟨fun safe => safe _ rfl, fun safe tokens same => Option.some.inj same ▸ safe⟩

def elevenWords : Line := ⟨"A B C D E F G H I J K".toList, by decide⟩

theorem eleventh_word_outside : ∃ tokens ∈ tokenise elevenWords.val, { index := maxArgs, offset := 20 } ∈ tokens.stores := by
  decide

variable {name text : List Char}

abbrev ReplyText := { text : List Char // '\x00' ∉ text ∧ (bleHeader ++ text).length ≤ maxCmdLen - 1 }

def Inside (writes : List (ReplyBuffer × Nat)) : Prop := ∀ write ∈ writes, write.2 < write.1.size

section

variable {first rest : List (ReplyBuffer × Nat)} {buffer : ReplyBuffer}

lemma inside_append : Inside (first ++ rest) ↔ Inside first ∧ Inside rest := forall_mem_append

lemma inside_fill {count : Nat} : Inside (fill buffer count) ↔ count ≤ buffer.size := by
  unfold Inside fill
  rw [forall_mem_map]
  constructor
  · intro all
    by_contra more
    exact Nat.lt_irrefl _ (all buffer.size (mem_range.mpr (Nat.not_le.mp more)))
  · intro most i member
    exact Nat.lt_of_lt_of_le (mem_range.mp member) most

lemma inside_putString : Inside (putString buffer text) ↔ text.length < buffer.size := inside_fill

end

lemma getSubcmd_length (params) : (getSubcmd params).length < subcmdSize := by
  rw [getSubcmd, myGetStrAtPos_eq ',' params 1 (by decide), length_take]
  exact Nat.lt_of_le_of_lt (Nat.min_le_left _ _) (by decide)

lemma name_chars (plain : '=' ∉ name) : ∀ c ∈ name, decide (c ≠ '=') = true :=
  fun _ member => decide_eq_true fun same => plain (same ▸ member)

lemma takeWhile_name (plain : '=' ∉ name) (params : List Char) :
    (name ++ '=' :: params).takeWhile (· ≠ '=') = name := by
  rw [takeWhile_append_of_pos (name_chars plain)]
  exact append_nil name

lemma bleRspParse_eq (plain : '=' ∉ name) (params : List Char) : ∃ type, bleRspParse (name ++ '=' :: params) = some
      { type, cmdName := name, params := (params.takeWhile (· ≠ '#')).take (bleRspParamsSize - 1)
        paramCount := if params.takeWhile (· ≠ '#') = [] then 0 else 1 + (params.takeWhile (· ≠ '#')).count ',' } := by
  have behind : (name ++ '=' :: params).dropWhile (· ≠ '=') = '=' :: params := by
    rw [dropWhile_append_of_pos (name_chars plain)]
    rfl
  unfold bleRspParse
  rw [behind, takeWhile_name plain]
  exact ⟨_, rfl⟩

lemma bleRspParse_none (plain : '=' ∉ text) : bleRspParse text = none := by
  have nothing : text.dropWhile (· ≠ '=') = [] := by
    rw [← append_nil text, dropWhile_append_of_pos (name_chars plain)]
    rfl
  unfold bleRspParse
  rw [nothing]

/-- The name of a reply that has one fits into `cmd_name`. -/
def ShortName (text : List Char) : Prop :=
  '=' ∈ text → (text.takeWhile (· ≠ '=')).length < ReplyBuffer.resultCmdName.size

lemma special_length
    (special : (specialCmdPrefixes.any fun entry => entry.toList = name) = true) : name.length ≤ 7 := by
  obtain ⟨entry, member, same⟩ := any_eq_true.mp special
  have all : ∀ entry ∈ specialCmdPrefixes, entry.toList.length ≤ 7 := by decide
  rw [← of_decide_eq_true same]
  exact all entry member

lemma handled_inside (rsp : BleRspResult) (short : rsp.cmdName.length < ReplyBuffer.resultCmdName.size) :
    Inside ((if specialCmdPrefixes.any fun name => name.toList = rsp.cmdName then
        putString .subcmd (getSubcmd rsp.params) ++ putString .cmdName (rsp.cmdName ++ '_' :: getSubcmd rsp.params)
      else putString .cmdName rsp.cmdName) ++ if rsp.type = .time then putString .subcmd (getSubcmd rsp.params) else []) := by
  have subcmd := getSubcmd_length rsp.params
  refine inside_append.mpr ⟨?_, ?_⟩
  · split
    next special =>
      have name := special_length special
      refine inside_append.mpr ⟨inside_putString.mpr subcmd, inside_putString.mpr ?_⟩
      rw [length_append, length_cons]
      simp only [subcmdSize, ReplyBuffer.size] at subcmd ⊢
      omega
    · exact inside_putString.mpr short
  · split
    · exact inside_putString.mpr subcmd
    · exact fun _ member => nomatch member

lemma myBleHandle_inside (text) : Inside (myBleHandleWrites text) ↔ ShortName text := by
  unfold myBleHandleWrites bleRspParseWrites ShortName
  have cleared : Inside (fill .subcmd subcmdSize) := inside_fill.mpr (Nat.le_refl _)
  have name : Inside (fill .resultCmdName ReplyBuffer.resultCmdName.size) := inside_fill.mpr (Nat.le_refl _)
  have params : Inside (fill .resultParams bleRspParamsSize) := inside_fill.mpr (Nat.le_refl _)
  by_cases named : '=' ∈ text
  · obtain ⟨front, behind, rfl, plain⟩ := eq_append_cons_of_mem named
    obtain ⟨type, parsed⟩ := bleRspParse_eq plain behind
    rw [parsed, takeWhile_name plain]
    constructor
    · intro inside _
      have copied := (inside_append.mp (inside_append.mp inside).1).2
      exact inside_putString.mp (inside_append.mp (inside_append.mp (inside_append.mp copied).2).1).1
    · intro short
      have fits := short named
      refine inside_append.mpr ⟨inside_append.mpr ⟨cleared, inside_append.mpr ⟨inside_append.mpr ⟨name, params⟩, ?_⟩⟩, ?_⟩
      · refine inside_append.mpr ⟨inside_append.mpr ⟨inside_putString.mpr fits, inside_fill.mpr (Nat.sub_le _ _)⟩, ?_⟩
        intro write member
        cases mem_singleton.mp member
        decide
      · exact handled_inside _ fits
  · rw [bleRspParse_none named]
    refine iff_of_true ?_ fun member => absurd member named
    rw [append_nil, append_nil]
    exact inside_append.mpr ⟨cleared, inside_append.mpr ⟨name, params⟩⟩

/-- For every line of replies: all writes are inside their arrays exactly if the name is short; and then the reply is what
the line says. -/
theorem reply_parsed_iff (text : ReplyText) : (Inside (myBleHandleWrites text.val) ↔ ShortName text.val) ∧
      ∀ name params, text.val = name ++ '=' :: params → '=' ∉ name → name.length < ReplyBuffer.resultCmdName.size →
        ∃ rsp ∈ bleRspParse text.val, rsp.cmdName = name ∧ rsp.params = params.takeWhile (· ≠ '#') ∧
          rsp.paramCount = if params.takeWhile (· ≠ '#') = [] then 0 else ((params.takeWhile (· ≠ '#')).splitOn ',').length := by
  refine ⟨myBleHandle_inside text.val, ?_⟩
  intro name params same plain _
  obtain ⟨type, parsed⟩ := bleRspParse_eq plain params
  rw [same, parsed]
  refine ⟨_, rfl, rfl, ?_, ?_⟩
  · have whole := text.property.2
    have part := (takeWhile_sublist (l := params) (· ≠ '#')).length_le
    rw [same, length_append, length_append, length_cons] at whole
    refine take_of_length_le (Nat.le_trans part ?_)
    simp only [maxCmdLen, bleRspParamsSize] at whole ⊢
    omega
  · rw [List.splitOn, Pieces.length_splitOnP, Nat.add_comm]
    rfl

def okReply : ReplyText := ⟨"TAG=OK,START#".toList, by decide⟩

theorem ok_reply_parsed : Inside (myBleHandleWrites okReply.val) ∧
    ∃ rsp ∈ bleRspParse okReply.val, rsp.cmdName = "TAG".toList ∧ rsp.params = "OK,START".toList ∧ rsp.paramCount = 2 := by
  refine ⟨(reply_parsed_iff okReply).1.mpr (fun _ => by decide), ?_⟩
  exact (reply_parsed_iff okReply).2 "TAG".toList "OK,START#".toList rfl (by decide) (by decide)

def longName : ReplyText := ⟨List.replicate 32 'A' ++ ['='], by decide⟩

theorem long_name_outside : (ReplyBuffer.resultCmdName, 32) ∈ myBleHandleWrites longName.val := by
  decide

end LL320D.Lte

namespace LL320D.LteCmd
open AtText List
open BleInput (cmdStringLengthMax parmMax)
open BleInput.AtCmd (received)
open Library.Quoted (Cursor Failure words last read_open words_last)

/-- The handler of a command text, if its words can be read. -/
def route (text : List UInt8) : Route := ((words atMarks parmMax .start text).toOption.map findCmd).getD .rejected

section

variable {text : List UInt8} (clean : 0 ∉ text) (fits : text.length < cmdStringLengthMax)
include clean fits

lemma text_received : AtText.text (received text).rcvMsg = text := by
  have nonzero : ∀ c ∈ text, decide (c ≠ 0) = true := fun c member => decide_eq_true fun same => clean (same ▸ member)
  obtain ⟨rest, more⟩ : ∃ rest, cmdStringLengthMax - text.length = rest + 1 := Nat.exists_eq_add_one.mpr (by omega)
  unfold received AtText.text
  rw [take_append, take_of_length_le (Nat.le_of_lt fits), more, takeWhile_append_of_pos nonzero]
  exact append_nil _

lemma atRecvCmdHandler_eq : atRecvCmdHandler (received text).rcvMsg (received text).parm = route text := by
  have parsed : parameters (received text).rcvMsg (received text).parm = _ :=
    parameters_eq (Nat.le_of_eq length_replicate.symm)
  rw [text_received clean fits] at parsed
  rw [route, ← parsed]
  unfold atRecvCmdHandler parameters
  generalize atCmdStrAnalyse (received text).rcvMsg (received text).parm parmMax atFormat = result
  obtain ⟨s, parLen⟩ := result
  dsimp only
  split
  · rfl
  · rfl

end

variable {σ : Type} (env : Env σ) (s : σ) {id command : List Char}

section

variable (clean : 0 ∉ bytes command) (fits : command.length < cmdStringLengthMax)
include fits

lemma bytes_fit : (bytes command).length < cmdStringLengthMax := by
  rwa [bytes, length_map]

include clean

lemma handle_eq (id) : handle env s id command = runLteCmd env s id (route (bytes command)) := by
  rw [handle, atRecvCmdHandler_eq clean (bytes_fit fits)]

lemma firstParm_eq :
    firstParm command = (last atMarks parmMax .start (bytes command)).first.getD (cString "(null)") := by
  have room : (parmMax : Int) ≤ (received (bytes command)).parm.length := Int.le_refl _
  have same := text_received clean (bytes_fit fits)
  have names : Names .null
      (atCmdStrAnalyse (received (bytes command)).rcvMsg (received (bytes command)).parm parmMax atFormat).1
      (last atMarks parmMax .start (bytes command)).first := by
    cases read : words atMarks parmMax .start (bytes command) with
    | error failure =>
      have failed := (analyse_error room (same ▸ read)).2
      rw [same] at failed
      exact failed
    | ok list =>
      obtain ⟨begun, parts⟩ := words_last read
      have named := (analyse_ok room (same ▸ read)).2.2
      rw [Cursor.first, if_pos begun, ← parts]
      exact named
  unfold firstParm
  cases first : (last atMarks parmMax .start (bytes command)).first with
  | none =>
    rw [first] at names
    exact congrArg (shown _) names
  | some word =>
    rw [first] at names
    exact names

end

lemma firstParm_length (command) : (firstParm command).length ≤ cmdStringLengthMax := by
  refine Nat.le_trans (shown_length ..) (Nat.max_le.mpr ⟨by decide, ?_⟩)
  exact length_take_le _ _

/-- A line that begins with `LTE+CMD=OK,<id>,` or `LTE+CMD=FAIL,<id>,` and ends in CRLF. -/
def Answers (id line : List UInt8) : Prop := (okHead id <+: line ∨ failHead id <+: line) ∧ crlf <:+ line

instance (id line) : Decidable (Answers id line) := inferInstanceAs (Decidable (_ ∧ _))

lemma okHead_length (id) : (okHead id).length = id.length + 12 := by
  rw [okHead, length_append, length_append, Nat.add_comm (cString "LTE+CMD=OK,").length]
  rfl

lemma failHead_length (id) : (failHead id).length = id.length + 14 := by
  rw [failHead, length_append, length_append, Nat.add_comm (cString "LTE+CMD=FAIL,").length]
  rfl

lemma answers_ok {id resp : List UInt8} (fits : id.length + resp.length ≤ 1009) :
    Answers id (snprintf (okHead id ++ resp ++ crlf)) := by
  have whole : (okHead id ++ resp ++ crlf).length ≤ lteCmdRespBufSize - 1 := by
    rw [length_append, length_append, okHead_length, Nat.add_right_comm id.length]
    exact Nat.add_le_add_right fits 14
  rw [snprintf, take_of_length_le whole, append_assoc]
  exact ⟨.inl (prefix_append _ _), append_assoc _ _ _ ▸ suffix_append _ _⟩

lemma snprintf_fail {id parm : List UInt8} (short : id.length ≤ 14) (fits : parm.length ≤ cmdStringLengthMax) :
    snprintf (failHead id ++ parm ++ crlf) = failHead id ++ parm ++ crlf := by
  refine take_of_length_le ?_
  rw [length_append, length_append, failHead_length]
  exact Nat.le_trans (Nat.add_le_add_right (Nat.add_le_add (Nat.add_le_add_right short 14) fits) 2) (by decide)

/-- A reply that is cut ends inside the response, or behind its CR. -/
lemma cut_not_answers {id resp : List UInt8} (plain : 0x0D ∉ resp) (long : 1009 < id.length + resp.length)
    (short : id.length ≤ 14) : ¬ Answers id (snprintf (okHead id ++ resp ++ crlf)) := by
  rintro ⟨-, before, same⟩
  have head := okHead_length id
  have whole : (okHead id ++ resp ++ crlf).length = id.length + 12 + resp.length + 2 := by
    rw [length_append, length_append, head]
    rfl
  have size : lteCmdRespBufSize - 1 = 1023 := rfl
  have length := congrArg List.length same
  rw [snprintf, length_append, length_take, whole] at length
  have two : crlf.length = 2 := rfl
  have last : before.length = 1021 := by omega
  -- The last but one character of the cut reply is one of the response.
  have cr : (before ++ crlf)[1021]? = some 0x0D := by
    rw [getElem?_append_right (Nat.le_of_eq last), last]
    rfl
  have inside : (okHead id ++ resp ++ crlf)[1021]? = resp[1021 - (okHead id).length]? := by
    rw [append_assoc, getElem?_append_right (by omega), getElem?_append_left (by omega)]
  rw [same, snprintf, getElem?_take_of_lt (by omega), inside] at cr
  exact plain (mem_of_getElem? cr)

/-- The text begins with another letter than `LTE+CMD`. -/
def Foreign (line : List UInt8) : Prop := ∃ c rest, line = c :: rest ∧ c ≠ 0x4C

lemma Foreign.not_answers {line : List UInt8} (foreign : Foreign line) (id) : ¬ Answers id line := by
  obtain ⟨c, rest, printed, other⟩ := foreign
  rw [printed]
  rintro ⟨⟨behind, same⟩ | ⟨behind, same⟩, -⟩
  · exact other (cons.inj same).1.symm
  · exact other (cons.inj same).1.symm

lemma sent_foreign (id route) : ∀ line ∈ (runLteCmd env s id route).sent, Foreign line := by
  have command (name param) : Foreign (lteSendCommand name param) := ⟨_, _, rfl, by decide⟩
  intro line sent
  cases route with
  | rejected | unknown => cases sent
  | lteCommand parms =>
    simp only [runLteCmd] at sent
    split at sent
    · cases sent
    · obtain ⟨param, -, rfl⟩ := mem_map.mp sent
      exact command _ param
  | atCommand name parms =>
    simp only [runLteCmd] at sent
    split at sent
    · obtain ⟨answer, -, rfl⟩ := mem_map.mp sent
      cases answer <;> exact ⟨_, _, rfl, by decide⟩
    · obtain ⟨call, -, rfl⟩ := mem_map.mp sent
      exact command call.1 call.2

lemma filter_foreign {lines : List (List UInt8)} (foreign : ∀ line ∈ lines, Foreign line) :
    lines.filter (· ≠ []) = lines := by
  refine filter_eq_self.mpr fun line member => ?_
  obtain ⟨c, rest, same, -⟩ := foreign line member
  rw [same]
  rfl

section

variable (noComma : 0x2C ∉ bytes id)
include noComma

lemma field_id (behind : List Char) : BleScan.fieldAt ',' (id ++ ',' :: behind) 0 = id ∧
    BleScan.textFrom ',' (id ++ ',' :: behind) 1 = behind := by
  have inside : ∀ c ∈ id, decide (c ≠ ',') = true :=
    fun c member => decide_eq_true fun same => noComma (mem_map.mpr ⟨c, member, by rw [same]; decide⟩)
  constructor
  · rw [BleScan.fieldAt, BleScan.textFrom, takeWhile_append_of_pos inside, takeWhile_cons_of_neg (by decide), append_nil]
  · rw [BleScan.textFrom, BleScan.textFrom, dropWhile_append_of_pos inside, dropWhile_cons_of_neg (by decide), tail_cons]

/-- A line with a long id, or without a command. -/
lemma myLteHandleCmd_missing (missing : 15 ≤ id.length ∨ command = []) : myLteHandleCmd env s (id ++ ',' :: command) =
    some ([cString "LTE+CMD=" ++ bytes (id.take 15) ++ cString ",Missing command parameter\r\n"], s) := by
  obtain ⟨field, behind⟩ := field_id noComma command
  have found : ¬ (id.length + 1 < 16 ∧ command ≠ []) := by
    rcases missing with long | none
    · exact fun both => by omega
    · exact fun both => both.2 none
  simp only [myLteHandleCmd, BleScan.myGetStrAtPos_eq _ _ _ (by decide : 1 < 16), field, behind, decide_eq_false found]

lemma myLteHandleCmd_eq (short : id.length ≤ 14) (nonempty : command ≠ []) (clean : 0 ∉ bytes command)
    (fits : command.length < cmdStringLengthMax) : myLteHandleCmd env s (id ++ ',' :: command) =
      let handled := runLteCmd env s (bytes id) (route (bytes command))
      some ((reply (bytes id) command handled :: handled.sent).filter (· ≠ []), handled.state) := by
  obtain ⟨field, behind⟩ := field_id noComma command
  have rest : (id ++ ',' :: command).drop (id.length + 1) = command := by
    rw [← drop_drop, drop_left, drop_one, tail_cons]
  have found : id.length + 1 < 16 ∧ command ≠ [] := ⟨by omega, nonempty⟩
  simp only [myLteHandleCmd, BleScan.myGetStrAtPos_eq _ _ _ (by decide : 1 < 16), field, behind, decide_eq_true found,
    take_of_length_le (Nat.le_succ_of_le short), rest, handle_eq env s clean fits]
  rw [if_neg (Nat.not_le.mpr fits)]

lemma missing_not_answers :
    ¬ Answers (bytes id) (cString "LTE+CMD=" ++ bytes id ++ cString ",Missing command parameter\r\n") := by
  have first (word : List UInt8) (plain : 0x2C ∉ word) (rest text : List UInt8)
      (begins : cString "LTE+CMD=" ++ (word ++ 0x2C :: rest) <+: cString "LTE+CMD=" ++ (bytes id ++ 0x2C :: text)) :
      word = bytes id ∧ rest <+: text := by
    obtain ⟨behind, same⟩ := begins
    rw [append_assoc] at same
    have same := append_cancel_left same
    rw [append_assoc] at same
    have inside {list : List UInt8} (absent : 0x2C ∉ list) : ∀ c ∈ list, decide (c ≠ 0x2C) = true :=
      fun c member => decide_eq_true fun same => absent (same ▸ member)
    have word_eq := congrArg (takeWhile (· ≠ 0x2C)) same
    rw [takeWhile_append_of_pos (inside plain), takeWhile_append_of_pos (inside noComma), cons_append,
      takeWhile_cons_of_neg (by decide), takeWhile_cons_of_neg (by decide), append_nil, append_nil] at word_eq
    subst word_eq
    exact ⟨rfl, behind, (cons.inj (append_cancel_left same)).2⟩
  have missing : cString ",Missing command parameter\r\n" = 0x2C :: cString "Missing command parameter\r\n" := by decide
  rw [append_assoc, missing]
  rintro ⟨ok | fail, -⟩
  · have parts : okHead (bytes id) = cString "LTE+CMD=" ++ (cString "OK" ++ 0x2C :: (bytes id ++ [0x2C])) := rfl
    obtain ⟨same, begins⟩ := first (cString "OK") (by decide) _ _ (parts ▸ ok)
    rw [← same] at begins
    exact absurd begins (by decide)
  · have parts : failHead (bytes id) = cString "LTE+CMD=" ++ (cString "FAIL" ++ 0x2C :: (bytes id ++ [0x2C])) := rfl
    obtain ⟨same, begins⟩ := first (cString "FAIL") (by decide) _ _ (parts ▸ fail)
    rw [← same] at begins
    exact absurd begins (by decide)

end

/-- No query; the response of a handler fits the buffer; `lte_cmd_handler` finds memory. -/
def Replied (id : List UInt8) : Route → Prop
  | .atCommand name parms => ¬ IsQuery name parms ∧ id.length + (env.cmdFunc name parms s).respMsg.length ≤ 1009
  | .lteCommand _ => env.malloc ≠ none
  | _ => True

instance (id route) : Decidable (Replied env s id route) := by
  unfold Replied
  split <;> infer_instance

section

variable {id : List UInt8} (short : id.length ≤ 14)
include short

lemma fail_answers (command) : Answers id (snprintf (failHead id ++ firstParm command ++ crlf)) := by
  rw [snprintf_fail short (firstParm_length command), append_assoc]
  exact ⟨.inr (prefix_append _ _), append_assoc _ _ _ ▸ suffix_append _ _⟩

variable (clean : 0 ∉ bytes command) (fits : command.length < cmdStringLengthMax)
include clean fits

omit short in
lemma name_length {parms : List (List UInt8)} (routed : route (bytes command) = .lteCommand parms) :
    (parms.headD []).length ≤ cmdStringLengthMax := by
  have shown := firstParm_length command
  rw [firstParm_eq clean fits] at shown
  unfold route at routed
  cases read : words atMarks parmMax .start (bytes command) with
  | error failure =>
    rw [read] at routed
    cases routed
  | ok list =>
    obtain ⟨begun, parts⟩ := words_last read
    rw [Cursor.first, if_pos begun, ← parts] at shown
    rw [read] at routed
    rw [← findCmd_lteCommand routed]
    cases list with
    | nil => decide
    | cons first rest => exact shown

lemma reply_answers_iff (plain : ∀ name parms, 0x0D ∉ (env.cmdFunc name parms s).respMsg) :
    Answers id (reply id command (runLteCmd env s id (route (bytes command)))) ↔
      Replied env s id (route (bytes command)) := by
  have empty : ¬ Answers id [] := by
    rintro ⟨-, before, same⟩
    exact absurd (append_eq_nil_iff.mp same).2 (by decide)
  cases routed : route (bytes command) with
  | rejected | unknown => exact iff_of_true (fail_answers short command) trivial
  | lteCommand parms =>
    have name := name_length clean fits routed
    cases heap : env.malloc with
    | none =>
      have none : ¬ Replied env s id (.lteCommand parms) := fun some => some heap
      refine iff_of_false ?_ none
      simp only [runLteCmd, lteCmdHandler, heap]
      exact empty
    | some buffer =>
      have some : Replied env s id (.lteCommand parms) := fun none => by cases heap.symm.trans none
      refine iff_of_true ?_ some
      simp only [runLteCmd, lteCmdHandler, heap]
      refine answers_ok ?_
      have size : cmdStringLengthMax = 128 := rfl
      have head : (cString "RETURN_").length = 7 := rfl
      have tail : (cString (if env.lteSend < 0 then "_FAIL" else "_OK")).length ≤ 5 := by split <;> decide
      rw [Option.getD_some, length_append, length_append]
      omega
  | atCommand name parms =>
    by_cases query : IsQuery name parms
    · refine iff_of_false ?_ fun replied => replied.1 query
      simp only [runLteCmd, if_pos query]
      exact empty
    · simp only [runLteCmd, if_neg query]
      have same : Replied env s id (.atCommand name parms) ↔ id.length + (env.cmdFunc name parms s).respMsg.length ≤ 1009 :=
        and_iff_right query
      rw [same]
      constructor
      · intro answers
        by_contra long
        exact cut_not_answers (plain name parms) (Nat.not_le.mp long) short answers
      · exact fun room => answers_ok room

end

/-- The texts besides the reply are no replies. -/
lemma countP_answers (id route) (line : List UInt8) :
    countP (Answers id ·) ((line :: (runLteCmd env s id route).sent).filter (· ≠ [])) = 1 ↔ Answers id line := by
  have foreign := sent_foreign env s id route
  have none : countP (Answers id ·) (runLteCmd env s id route).sent = 0 :=
    countP_eq_zero.mpr fun line member => by simpa using (foreign line member).not_answers id
  by_cases answers : Answers id line
  · have some : line ≠ [] := by
      rintro rfl
      obtain ⟨-, before, same⟩ := answers
      exact absurd (append_eq_nil_iff.mp same).2 (by decide)
    rw [filter_cons_of_pos (by simpa using some), countP_cons_of_pos (by simpa using answers), filter_foreign foreign, none]
    exact iff_of_true rfl answers
  · have zero : countP (Answers id ·) ((line :: (runLteCmd env s id route).sent).filter (· ≠ [])) = 0 := by
      refine countP_eq_zero.mpr fun other member => ?_
      rcases mem_cons.mp (mem_of_mem_filter member) with rfl | sent
      · simpa using answers
      · simpa using (foreign other sent).not_answers id
    rw [zero]
    exact iff_of_false Nat.zero_ne_one answers

def quietEnv : Env Unit := ⟨fun _ _ s => ⟨[], s, []⟩, fun _ => some (.ok []), some (replicate lteCmdBufSize 0), 0⟩

/-- A command that fails with and without `#`, and with the same text in `parm[0]`: there are too many words, or a
quotation mark is left open behind a comma, or the name, which is not only quotation marks, is in neither table. -/
def FailsAlike (text : List UInt8) : Prop :=
  let c := last atMarks parmMax .start text
  words atMarks parmMax .start text = .error .tooMany ∨
    if c.quoted then c.words ≠ [] else c.begun = true ∧ findCmd (c.words ++ [c.word]) = .unknown (c.words ++ [c.word])

def failed : Route → Bool
  | .rejected | .unknown _ => true
  | _ => false

lemma failed_findCmd_iff (parms) : failed (findCmd parms) = true ↔ findCmd parms = .unknown parms := by
  unfold findCmd
  split
  · exact iff_of_false (by rintro ⟨⟩) (by rintro ⟨⟩)
  · split
    · exact iff_of_false (by rintro ⟨⟩) (by rintro ⟨⟩)
    · exact iff_of_true rfl rfl

lemma failed_of_cmdType (id) {route : Route} (zero : (runLteCmd env s id route).cmdType = 0) : failed route = true := by
  cases route with
  | rejected | unknown => rfl
  | lteCommand parms =>
    cases heap : env.malloc <;> simp only [runLteCmd, lteCmdHandler, heap, Handled.cmdType] at zero <;>
      exact absurd zero (by decide)
  | atCommand name parms =>
    by_cases query : IsQuery name parms
    · simp only [runLteCmd, if_pos query, Handled.cmdType] at zero
      exact absurd zero (by decide)
    · simp only [runLteCmd, if_neg query, Handled.cmdType] at zero
      exact absurd zero (by decide)

/-- The lines of a command that fails. -/
lemma fail_lines_iff (id parm : List UInt8) (command) (route : Route) :
    some ([snprintf (failHead id ++ parm ++ crlf)], s) =
        (let handled := runLteCmd env s id route
        some ((reply id command handled :: handled.sent).filter (· ≠ []), handled.state)) ↔
      failed route = true ∧
        snprintf (failHead id ++ parm ++ crlf) = snprintf (failHead id ++ firstParm command ++ crlf) := by
  have foreign := sent_foreign env s id route
  constructor
  · intro same
    obtain ⟨lines, -⟩ := Prod.mk.inj (Option.some.inj same)
    unfold reply at lines
    split at lines
    next zero =>
      rw [filter_cons_of_pos rfl] at lines
      exact ⟨failed_of_cmdType env s id zero, (cons.inj lines).1⟩
    · split at lines
      · rw [filter_cons_of_pos rfl] at lines
        have ninth : some (0x46 : UInt8) = some 0x4F := congrArg (·[8]?) (cons.inj lines).1
        exact absurd ninth (by decide)
      · rw [filter_cons_of_neg (by decide), filter_foreign foreign] at lines
        obtain ⟨c, rest, begins, other⟩ := foreign _ (lines ▸ mem_cons_self)
        exact absurd (cons.inj begins).1.symm other
  · rintro ⟨fails, same⟩
    rw [same]
    cases route with
    | rejected | unknown => rfl
    | lteCommand | atCommand => cases fails

section

variable {c : Cursor UInt8} (sane : c.Sane parmMax)
include sane

lemma words_hash : words atMarks parmMax c [0x23] = if c.quoted then .error .unfinished else .ok (c.words ++ [c.word]) := by
  have room : ¬ (c.begun = false ∧ (parmMax : Int) ≤ c.words.length) := fun full => Int.not_le.mpr sane.room full.2
  rw [words, if_neg (by decide), if_neg room]
  cases quoted : c.quoted with
  | false => rw [if_pos ⟨rfl, rfl⟩, if_neg Bool.false_ne_true]
  | true =>
    rw [if_neg (fun stop => absurd stop.1 (by decide)), if_neg (fun split => absurd split.1 (by decide)), if_pos rfl, words]

lemma last_hash : last atMarks parmMax c [0x23] = if c.quoted then c.begin.advance 0x23 else c.begin := by
  have room : ¬ (c.begun = false ∧ (parmMax : Int) ≤ c.words.length) := fun full => Int.not_le.mpr sane.room full.2
  rw [last, if_neg (by decide), if_neg room]
  cases quoted : c.quoted with
  | false => rw [if_pos ⟨rfl, rfl⟩, if_neg Bool.false_ne_true]
  | true =>
    rw [if_neg (fun stop => absurd stop.1 (by decide)), if_neg (fun split => absurd split.1 (by decide)), if_pos rfl, last]

lemma first_begin_iff : c.first.getD (cString "(null)") = c.begin.first.getD (cString "(null)") ↔ c.begun = true := by
  cases begun : c.begun with
  | true => rw [begin_eq begun]; exact iff_of_true rfl rfl
  | false =>
    obtain ⟨words, word⟩ := sane.fresh begun
    simp only [Cursor.first, begun, Library.Quoted.Cursor.begin, words, word]
    decide

lemma first_hash_iff (quoted : c.quoted = true) :
    c.first.getD (cString "(null)") = (c.begin.advance 0x23).first.getD (cString "(null)") ↔ c.words ≠ [] := by
  have opened : c.begin.closed = false := sane.opened quoted
  have grown : (c.begin.advance 0x23).first = (c.words ++ [c.word ++ [0x23]]).head? := by
    unfold Cursor.advance
    rw [if_neg (by rw [opened]; exact Bool.false_ne_true)]
    rfl
  rw [grown]
  cases begun : c.begun with
  | false =>
    obtain ⟨words, word⟩ := sane.fresh begun
    simp only [Cursor.first, begun, words, word]
    decide
  | true =>
    rw [Cursor.first, if_pos begun]
    cases c.words with
    | nil => simp
    | cons => simp

end

lemma start_sane : (Cursor.start : Cursor UInt8).Sane parmMax := ⟨by decide, nofun, fun _ => ⟨rfl, rfl⟩⟩

/-- Without `#` a command is not taken. -/
lemma myLteHandleCmd_unended (noComma : 0x2C ∉ bytes id) (noHash : 0x23 ∉ bytes command) (clean : 0 ∉ bytes command)
    (fits : command.length < cmdStringLengthMax) (short : id.length ≤ 14) (nonempty : command ≠ []) :
    myLteHandleCmd env s (id ++ ',' :: command) =
      some ([snprintf (failHead (bytes id) ++ firstParm command ++ crlf)], s) := by
  rw [myLteHandleCmd_eq env s noComma short nonempty clean fits, eq_comm]
  refine (fail_lines_iff env s (bytes id) (firstParm command) command _).mpr ⟨?_, rfl⟩
  rw [route]
  rcases read_open (show atMarks.stop ∉ bytes command from noHash) start_sane [0x23] with ⟨many, -⟩ | ⟨unfinished, -⟩
  · rw [many]
    rfl
  · rw [unfinished]
    rfl

end LL320D.LteCmd
