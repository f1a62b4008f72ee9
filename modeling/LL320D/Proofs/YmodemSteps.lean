import LL320D.Proofs.YmodemFrames

/-! What one step of the receiver can do to the file and to the frame buffer, and what becomes of a first frame that is
sent again. -/

namespace LL320D.Ymodem

structure Progress (σ : Type*) where
  state : State
  isYmodem : Bool
  fileSize : Int
  written : Int
  sink : σ
  frame : List UInt8

namespace Progress

variable {σ : Type*} {p after : Progress σ}

def saveSize (p : Progress σ) (size : Nat) : Int :=
  if p.isYmodem ∧ 0 < p.fileSize ∧ p.fileSize < int32 (p.written + size) then int32 (p.fileSize - p.written) else size

def completed (p : Progress σ) : Progress σ :=
  if p.isYmodem ∧ 0 < p.fileSize ∧ p.fileSize ≤ p.written ∧ p.state = .filexfer then { p with state := .endofxfer } else p

/-- A step with a first frame; the frames follow if it ends with `true`. -/
inductive Begins (io : SaveIo σ) (p : Progress σ) : Progress σ → Bool → Prop where
  | waits : Begins io p p false
  | noFile : Begins io p { p with isYmodem := false } false
  | refused (isYmodem : Bool) {name : List UInt8} {fileSize : Int} {sink : σ}
      (opening : io.saveOpen p.sink name fileSize = (false, sink)) :
      Begins io p { p with state := .connected, isYmodem, fileSize, sink } false
  | file {name : List UInt8} {fileSize : Int} {sink : σ} (opening : io.saveOpen p.sink name fileSize = (true, sink)) :
      Begins io p { p with state := .filexfer, isYmodem := true, fileSize, written := 0, sink } true
  | unsaved {name data : List UInt8} {fileSize : Int} {opened sink : σ} {size : Nat} (small : size ≤ stxSize)
      (opening : io.saveOpen p.sink name fileSize = (true, opened)) (saving : io.saveWrite opened data size = (false, sink)) :
      Begins io p { p with state := .connected, isYmodem := false, fileSize, written := 0, sink } false
  | block {name data : List UInt8} {fileSize : Int} {opened sink : σ} {size : Nat} (small : size ≤ stxSize)
      (opening : io.saveOpen p.sink name fileSize = (true, opened)) (saving : io.saveWrite opened data size = (true, sink)) :
      Begins io p { p with state := .filexfer, isYmodem := false, fileSize, written := int32 (0 + size), sink } true

/-- What a step makes of the file. -/
inductive Advances (io : SaveIo σ) (p : Progress σ) : Progress σ → Prop where
  | waits : Advances io p p
  | firstEot (isYmodem : p.isYmodem = true) (state : p.state = .filexfer) : Advances io p { p with state := .endofxfer }
  | secondEot (isYmodem : p.isYmodem = true) (state : p.state = .endofxfer) : Advances io p { p with state := .ending }
  | xmodemEot (isYmodem : p.isYmodem = false) : Advances io p { p with state := .ended, sink := io.saveClose p.sink }
  | saved {data : List UInt8} {size : Nat} {sink : σ} (small : size ≤ stxSize)
      (saving : io.saveWrite p.sink data (p.saveSize size) = (true, sink)) :
      Advances io p (completed { p with sink, written := int32 (p.written + p.saveSize size) })
  | unsaved {data : List UInt8} {size : Nat} {sink : σ} (small : size ≤ stxSize)
      (saving : io.saveWrite p.sink data (p.saveSize size) = (false, sink)) : Advances io p { p with sink }
  | ends (isYmodem : p.isYmodem = true) (state : p.state = .ending) :
      Advances io p { p with state := .ended, sink := io.saveClose p.sink }
  | nextFile {name : List UInt8} {fileSize : Int} {sink : σ} (isYmodem : p.isYmodem = true) (state : p.state = .ending)
      (opening : io.saveOpen (io.saveClose p.sink) name fileSize = (true, sink)) :
      Advances io p { p with state := .filexfer, fileSize, written := 0, sink }
  | refused {name : List UInt8} {fileSize : Int} {sink : σ} (isYmodem : p.isYmodem = true) (state : p.state = .ending)
      (opening : io.saveOpen (io.saveClose p.sink) name fileSize = (false, sink)) : Advances io p { p with fileSize, sink }

lemma Begins.frame {io} {enters : Bool} (begins : Begins io p after enters) : after.frame = p.frame := by
  cases begins <;> rfl

lemma Advances.frame {io} (advances : Advances io p after) : after.frame = p.frame := by
  cases advances with
  | saved =>
    unfold Progress.completed
    split <;> rfl
  | _ => rfl

end Progress

namespace Receiver
open Progress

variable {σ : Type*} {io : SaveIo σ} {s : Receiver σ} {size : Nat} {early' frames' : Progress σ → Prop}

def progress (s : Receiver σ) : Progress σ := ⟨s.state, s.isYmodem, s.fileSize, s.written, s.sink, s.frame⟩

lemma size_le (head) : (headSize head).getD 0 ≤ stxSize := by
  unfold headSize
  split
  · exact show sohSize ≤ stxSize by decide
  · split
    · exact Nat.le_refl _
    · exact Nat.zero_le _

lemma openFile_cases (s : Receiver σ) (io : SaveIo σ) :
    (∃ sink, io.saveOpen s.sink s.fileName s.fileSize = (true, sink) ∧ s.openFile io = (.ok, { s with sink, written := 0 })) ∨
    (∃ sink, io.saveOpen s.sink s.fileName s.fileSize = (false, sink) ∧ s.openFile io = (.errFile, { s with sink })) := by
  unfold openFile
  rcases io.saveOpen s.sink s.fileName s.fileSize with ⟨_ | _, sink⟩
  · exact .inr ⟨sink, rfl, rfl⟩
  · exact .inl ⟨sink, rfl, rfl⟩

lemma saveData_cases (s : Receiver σ) (io : SaveIo σ) (len) :
    (∃ data sink, io.saveWrite s.sink data len = (true, sink) ∧
      s.saveData io len = (.ok, { s with sink, written := int32 (s.written + len) })) ∨
    (∃ data sink, io.saveWrite s.sink data len = (false, sink) ∧
      s.saveData io len = (.errFile, { s with sink }.sendByte can)) := by
  unfold saveData
  cases saving : io.saveWrite s.sink (s.dataField.take len.toNat) len with
  | mk done sink =>
    cases done with
    | true => exact .inl ⟨_, sink, saving, rfl⟩
    | false => exact .inr ⟨_, sink, saving, rfl⟩

/-- What is known when a first frame was processed: `firstProcessed` still sets the state. -/
def Began (io : SaveIo σ) (s : Receiver σ) (result : Ret × Receiver σ) : Prop :=
  (result.1 = .ok → Begins io s.progress { result.2.progress with state := .filexfer } true) ∧
  (result.1 ≠ .ok → Begins io s.progress result.2.progress false)

lemma openFirst_began {ymodem : Receiver σ} (small : size ≤ stxSize) (sink : ymodem.sink = s.sink)
    (frame : ymodem.frame = s.frame) (written : ymodem.written = s.written) : Began io s (ymodem.openFirst io size) := by
  unfold openFirst
  rcases openFile_cases { ymodem with state := .connected } io with ⟨opened, opening, call⟩ | ⟨opened, opening, call⟩
  · rw [call]
    dsimp only at opening ⊢
    rw [sink] at opening
    split
    · next isYmodem =>
      refine ⟨fun _ => ?_, fun failed => absurd rfl failed⟩
      have begins : Begins io s.progress _ true := .file opening
      simpa only [progress, frame, isYmodem] using begins
    · next xmodem =>
      have plain := eq_false_of_ne_true xmodem
      rcases saveData_cases { ymodem with state := .connected, sink := opened, written := 0 } io size with
        ⟨data, saved, saving, call⟩ | ⟨data, saved, saving, call⟩
      · rw [call]
        refine ⟨fun _ => ?_, fun failed => absurd rfl failed⟩
        have begins : Begins io s.progress _ true := .block small opening saving
        simpa only [progress, sendByte, frame, plain] using begins
      · rw [call]
        refine ⟨nofun, fun _ => ?_⟩
        have begins : Begins io s.progress _ false := .unsaved small opening saving
        simpa only [progress, sendByte, frame, plain] using begins
  · rw [call]
    refine ⟨nofun, fun _ => ?_⟩
    dsimp only at opening
    rw [sink] at opening
    have begins : Begins io s.progress _ false := .refused ymodem.isYmodem opening
    simpa only [progress, sendByte, frame, written] using begins

lemma processFirstFrame_began (small : size ≤ stxSize) (complete) :
    Began io s (s.processFirstFrame io size complete) := by
  unfold processFirstFrame
  split
  · split
    · unfold takeFirstFrame
      split
      · exact openFirst_began small rfl rfl rfl
      · split
        · exact ⟨nofun, fun _ => .noFile⟩
        · exact openFirst_began small rfl rfl rfl
    · next failed => exact ⟨fun ok => absurd ok failed, fun _ => .waits⟩
  · exact ⟨nofun, fun _ => .waits⟩

/-! Where the receiver waits then -/

def Stands (early frames : Progress σ → Prop) (s : Receiver σ) : Prop :=
  match s.pc with
  | .handshake _ | .firstHead _ _ | .firstRest _ _ => early s.progress
  | .frameHead _ | .frameRest _ => frames s.progress
  | .done ret => (early s.progress ∨ frames s.progress) ∧ (ret = .ok → frames s.progress ∧ s.state = .ended)

variable {early frames : Progress σ → Prop}

lemma Stands.either (stands : Stands early frames s) : early s.progress ∨ frames s.progress := by
  unfold Stands at stands
  split at stands
  · exact .inl stands
  · exact .inl stands
  · exact .inl stands
  · exact .inr stands
  · exact .inr stands
  · exact stands.1

lemma enterHandshake_stands (holds : early s.progress) (i) : Stands early frames (s.enterHandshake i) := by
  unfold enterHandshake
  split
  · dsimp only
    split
    all_goals exact holds
  · exact ⟨.inl holds, nofun⟩

lemma enterFirst_stands (holds : early s.progress) (i retry) : Stands early frames (s.enterFirst i retry) := by
  unfold enterFirst
  split
  all_goals exact holds

lemma firstProcessed_stands {result} (begun : Began io s result)
    (waits : ∀ after, Begins io s.progress after false → early after)
    (enters : ∀ after, Begins io s.progress after true → frames after) (i retry) :
    Stands early frames (firstProcessed i retry result) := by
  obtain ⟨ret, after⟩ := result
  unfold firstProcessed
  split
  · next same =>
    cases same
    exact enters _ (begun.1 rfl)
  · next failed same =>
    cases same
    have kept := waits _ (begun.2 failed)
    split
    · exact ⟨.inl kept, fun ok => absurd ok failed⟩
    · exact enterFirst_stands kept _ _

lemma processEot_advances : Advances io s.progress (s.processEot io).2.progress := by
  unfold processEot
  split
  · next isYmodem =>
    split
    · next state => exact .firstEot isYmodem state
    · next state => exact .secondEot isYmodem state
    · exact .waits
    · exact .waits
  · next xmodem => exact .xmodemEot (eq_false_of_ne_true xmodem)

lemma takeData_advances (small : size ≤ stxSize) : Advances io s.progress (s.takeData io size).2.progress := by
  unfold takeData
  rcases saveData_cases s io (s.saveSize size) with ⟨data, sink, saving, call⟩ | ⟨data, sink, saving, call⟩
  · rw [call]
    have advances : Advances io s.progress _ := .saved small saving
    unfold completed at advances
    dsimp only
    split
    · next whole =>
      rw [if_pos (by exact whole)] at advances
      exact advances
    · next part =>
      rw [if_neg (by exact part)] at advances
      exact advances
  · rw [call]
    exact .unsaved small saving

lemma takeEndFrame_advances (isYmodem : s.isYmodem = true) (state : s.state = .ending) :
    Advances io s.progress (s.takeEndFrame io).2.progress := by
  unfold takeEndFrame
  split
  · exact .ends isYmodem state
  · dsimp only
    rcases openFile_cases ({ ((s.closeFile io).parseFileInfo.sendByte ack).sendRequest with expectedSeq := 1 }) io with
      ⟨sink, opening, call⟩ | ⟨sink, opening, call⟩
    · rw [call]
      exact .nextFile isYmodem state opening
    · rw [call]
      exact .refused isYmodem state opening

lemma processFrame_advances (small : size ≤ stxSize) (complete) :
    Advances io s.progress (s.processFrame io size complete).2.progress := by
  unfold processFrame
  split
  · split
    · unfold takeFrame
      split
      · next ending => exact takeEndFrame_advances ending.1 ending.2.1
      · split
        · exact takeData_advances (s := { s with expectedSeq := s.expectedSeq + 1 }) small
        · split
          all_goals exact .waits
    · exact .waits
  · exact .waits

lemma frameProcessed_stands (closes : ∀ sink, io.saveClose sink = sink) {result : Ret × Receiver σ}
    (holds : frames result.2.progress) (errors) : Stands early frames (frameProcessed io errors result) := by
  obtain ⟨ret, after⟩ := result
  unfold frameProcessed
  split
  · next same =>
    cases same
    split
    · next ended =>
      have closed : (after.portFlush.closeFile io).progress = after.progress := by
        simp only [progress, closeFile, portFlush, closes]
      have kept : frames (after.portFlush.closeFile io).progress := (congrArg frames closed).mpr holds
      exact ⟨.inr kept, fun _ => ⟨kept, ended⟩⟩
    · exact holds
  · next failed same =>
    cases same
    split
    · exact ⟨.inr holds, fun ok => absurd ok failed⟩
    · split
      · exact ⟨.inr holds, nofun⟩
      · exact holds

lemma received_progress (s : Receiver σ) (r) :
    (s.received r).progress = { s.progress with frame := (s.received r).frame } := by
  unfold received
  split <;> rfl

lemma Stands.imp (stands : Stands early frames s)
    (first : early s.progress → early' s.progress) (later : frames s.progress → frames' s.progress) :
    Stands early' frames' s := by
  unfold Stands at stands ⊢
  split at stands
  · exact first stands
  · exact first stands
  · exact first stands
  · exact later stands
  · exact later stands
  · exact ⟨stands.1.imp first later, fun ok => (stands.2 ok).imp_left later⟩

lemma Stands.step (stands : Stands early frames s) (closes : ∀ sink, io.saveClose sink = sink) (r)
    (waits : ∀ after, early s.progress → Begins io (s.received r).progress after false → early' after)
    (enters : ∀ after, early s.progress → Begins io (s.received r).progress after true → frames' after)
    (advances : ∀ after, frames s.progress → Advances io (s.received r).progress after → frames' after) :
    Stands early' frames' (s.step io r) := by
  cases pc : s.pc with
  | handshake i =>
    have holds : early s.progress := by simpa only [Stands, pc] using stands
    have same : s.received r = { s with acts := [] }.store 0 (r.data.take 1) := by simp only [received, pc]
    rw [same] at waits
    have stored := waits _ holds .waits
    rw [step_at_handshake io pc]
    split
    · exact enterHandshake_stands stored _
    · exact enterFirst_stands stored _ _
  | firstHead i retry =>
    have holds : early s.progress := by simpa only [Stands, pc] using stands
    have same : s.received r = { s with acts := [] }.store 0 (r.data.take 1) := by simp only [received, pc]
    rw [same] at waits
    have stored := waits _ holds .waits
    rw [step_at_firstHead io pc]
    split
    · exact enterHandshake_stands stored _
    · exact enterFirst_stands stored _ _
  | firstRest i retry =>
    have holds : early s.progress := by simpa only [Stands, pc] using stands
    have same : s.received r = { s with acts := [] }.store 1 (r.data.take s.remain) := by simp only [received, pc]
    rw [same] at waits enters
    rw [step_at_firstRest io pc]
    exact firstProcessed_stands (processFirstFrame_began (size_le _) _) (fun after => waits after holds)
      (fun after => enters after holds) _ _
  | frameHead errors =>
    have holds : frames s.progress := by simpa only [Stands, pc] using stands
    have same : s.received r = { s with acts := [] }.store 0 (r.data.take 1) := by simp only [received, pc]
    rw [same] at advances
    rw [step_at_frameHead io pc]
    split
    · exact frameProcessed_stands closes (advances _ holds .waits) _
    · unfold enterFrame
      split
      · exact frameProcessed_stands closes (advances _ holds processEot_advances) _
      · split
        · exact advances _ holds .waits
        · exact frameProcessed_stands closes (advances _ holds .waits) _
  | frameRest errors =>
    have holds : frames s.progress := by simpa only [Stands, pc] using stands
    have same : s.received r = { s with acts := [] }.store 1 (r.data.take s.remain) := by simp only [received, pc]
    rw [same] at advances
    rw [step_at_frameRest io pc]
    exact frameProcessed_stands closes (advances _ holds (processFrame_advances (size_le _) _)) _
  | done ret =>
    have same : s.step io r = { s with acts := [] } := by
      unfold Receiver.step
      simp only [pc]
    have kept : s.received r = { s with acts := [] } := by simp only [received, pc]
    rw [kept] at waits advances
    rw [same]
    have before : Stands early frames { s with acts := [] } := stands
    exact before.imp (fun holds => waits _ holds .waits) (fun holds => advances _ holds .waits)

end Receiver

open Library List Receiver

variable {arrived check : List UInt8} {count : Nat} {ret : Ret}

/-- A frame with name and size of a file. -/
structure InfoFrame where
  head : UInt8
  name : List UInt8
  size : Nat
  stop : UInt8
  rest : List UInt8
  short : name.length < sohSize - 1
  plain : 0 ∉ name
  small : size < 2 ^ 31
  ends : Decimal.isDigit stop = false
  fits : headSize head = some (name ++ 0 :: (Decimal.text size ++ stop :: rest)).length

namespace InfoFrame

variable (f : InfoFrame) (crcType : CrcType)

def data : List UInt8 := f.name ++ 0 :: (Decimal.text f.size ++ f.stop :: f.rest)

def bytes : List UInt8 := frameBytes crcType f.head 0 f.data

def fileSize : Int := if f.size = 0 then -1 else f.size

structure Arrives (arrived : List UInt8) (data check : List UInt8) : Prop where
  bytes : arrived = [f.head, 0, 0xFF] ++ data ++ check
  data : data.length = f.data.length
  check : check.length = crcType.len

def Damaged (arrived : List UInt8) : Prop :=
  ∃ data check, f.Arrives crcType arrived data check ∧ check ≠ crcType.check data

lemma arrives_bytes : f.Arrives crcType (f.bytes crcType) f.data (crcType.check f.data) :=
  ⟨rfl, rfl, crcType.check_length f.data⟩

variable {f crcType}

lemma Arrives.length {data} (arrives : f.Arrives crcType arrived data check) :
    arrived.length = dataOff + f.data.length + crcType.len := by
  rw [arrives.bytes, length_append, length_append, arrives.data, arrives.check]
  rfl

lemma head_size : f.head = soh ∨ f.head = stx := by
  have fits := f.fits
  unfold headSize at fits
  split at fits
  · next first => exact .inl first
  · split at fits
    · next second => exact .inr second
    · cases fits

end InfoFrame

namespace Receiver

variable {σ : Type*} {bytes : List UInt8}

section

variable (io : SaveIo σ)

def listen : Nat → Receiver σ × List UInt8 → Receiver σ × List UInt8
  | 0, rx => rx
  | fuel + 1, (s, line) =>
    match s.need with
    | none => (s, line)
    | some count =>
      if count ≤ line.length then
        let next := s.step io { data := line.take count, failed := false }
        listen fuel (next, if next.acts.contains .flush then [] else line.drop count)
      else (s, line)

/-- The receiver takes what it can of the bytes so far. -/
def transmit (rx : Receiver σ × List UInt8) (bytes : List UInt8) : Receiver σ × List UInt8 :=
  listen io (rx.2.length + bytes.length) (rx.1, rx.2 ++ bytes)

end

variable {io : SaveIo σ} {s : Receiver σ} {f : InfoFrame} {i retry : Nat}

structure Accepted (s : Receiver σ) (f : InfoFrame) : Prop where
  isYmodem : s.isYmodem = true
  fileName : s.fileName = f.name
  fileSize : s.fileSize = f.fileSize
  state : s.state = .filexfer
  pc : s.pc = .frameHead 0

lemma need_pos (need : s.need = some count) : 0 < count := by
  unfold Receiver.need at need
  split at need
  all_goals cases need
  all_goals first | exact Nat.one_pos | exact Nat.add_pos_left (Nat.add_pos_left Nat.two_pos _) _

lemma listen_empty (fuel : Nat) : listen io fuel (s, []) = (s, []) := by
  cases fuel with
  | zero => rfl
  | succ fuel =>
    unfold listen
    split
    · rfl
    · next count need => exact if_neg (Nat.not_le.mpr (need_pos need))

lemma listen_step (need : s.need = some count) {line : List UInt8} (there : count ≤ line.length) (fuel : Nat) :
    listen io (fuel + 1) (s, line) = listen io fuel (s.step io { data := line.take count, failed := false },
        if (s.step io { data := line.take count, failed := false }).acts.contains .flush then [] else line.drop count) := by
  rw [listen]
  simp only [need, if_pos there]

structure Headed (s : Receiver σ) (f : InfoFrame) (i retry : Nat) : Prop where
  pc : s.pc = .firstRest i retry
  frame : ∃ tail, s.frame = f.head :: tail

section

variable (headed : s.Headed f i retry)
include headed

lemma Headed.head : s.head = f.head := by
  obtain ⟨tail, frame⟩ := headed.frame
  unfold Receiver.head
  rw [frame]
  rfl

lemma Headed.size : headSize s.head = some f.data.length := by
  rw [headed.head]
  exact f.fits

lemma Headed.need : s.need = some s.remain := by
  unfold Receiver.need
  rw [headed.pc]

lemma Headed.length {data}
    (arrives : f.Arrives s.crcType arrived data check) : arrived.length = s.remain + 1 := by
  rw [arrives.length, remain, headed.size, Option.getD_some, dataOff]
  omega

end

lemma transmit_first (pc : s.pc = .handshake i) {data} (arrives : f.Arrives s.crcType arrived data check) :
    transmit io (s, []) arrived = (({ s.loaded [f.head] with pc := .firstRest i sendRetry } : Receiver σ).step io
      { data := arrived.tail, failed := false }, []) := by
  have split : arrived = f.head :: arrived.tail := by rw [arrives.bytes]; rfl
  have headed : ({ s.loaded [f.head] with pc := .firstRest i sendRetry } : Receiver σ).Headed f i sendRetry := ⟨rfl, _, rfl⟩
  have length := headed.length arrives
  have begun := step_handshake io pc (show (headSize f.head).isSome = true by rw [f.fits]; rfl)
  have waits : s.need = some 1 := by
    unfold need
    rw [pc]
  have quiet : ({ s.loaded [f.head] with pc := .firstRest i sendRetry } : Receiver σ).acts = [] := rfl
  generalize ({ s.loaded [f.head] with pc := .firstRest i sendRetry } : Receiver σ) = q at headed length begun quiet ⊢
  have rest : arrived.tail.length = q.remain := by rw [length_tail, length, Nat.add_sub_cancel]
  have more := (Nat.sub_add_cancel (need_pos headed.need)).symm
  unfold transmit
  rw [nil_append, length_nil, Nat.zero_add, length, listen_step waits (by omega)]
  have one : arrived.take 1 = [f.head] := by rw [split]; rfl
  rw [one, begun, quiet]
  simp only [contains_nil, Bool.false_eq_true, if_false, drop_one]
  nth_rewrite 1 [more]
  rw [listen_step headed.need (Nat.le_of_eq rest.symm), ← rest, take_length, drop_length, ite_self, listen_empty]

lemma Headed.fails (headed : s.Headed f i retry) (length : bytes.length = s.remain)
    (verified : ({ s with acts := [] }.store 1 bytes).verifyFrame f.data.length = ret) (bad : ret ≠ .ok) :
    s.step io { data := bytes, failed := false } = { ({ s with acts := [] }.store 1 bytes).portFlush.sendByte nak with
      pc := if retry ≤ 1 then .done ret else .firstRest i (retry - 1) } := by
  obtain ⟨tail, frame⟩ := headed.frame
  have complete : (!false && decide (s.remain ≤ bytes.length)) = true := decide_eq_true (Nat.le_of_eq length.symm)
  rw [step_at_firstRest io headed.pc, headed.size, Option.getD_some, ← length, take_length]
  rw [← length] at complete
  simp only [complete]
  unfold processFirstFrame
  rw [if_pos rfl, verified]
  have kept : (headSize (({ s with acts := [] }.store 1 bytes).portFlush.sendByte nak).head).isSome = true := by
    have same : (({ s with acts := [] }.store 1 bytes).portFlush.sendByte nak).head = f.head := by
      change (s.frame.take 1 ++ bytes ++ s.frame.drop (1 + bytes.length)).getD 0 0 = _
      rw [frame]
      rfl
    rw [same, f.fits]
    rfl
  cases ret with
  | ok => exact absurd rfl bad
  | _ =>
    unfold firstProcessed
    dsimp only
    split
    · rfl
    · rw [enterFirst_rest kept]

/-- After a frame that failed: the line is empty, and the head of that frame is still in the buffer; or the receiver has
given up. -/
def Lost (f : InfoFrame) (crcType : CrcType) (rx : Receiver σ × List UInt8) : Prop :=
  (∃ ret, rx.1.pc = .done ret) ∨ rx.2 = [] ∧ rx.1.crcType = crcType ∧ ∃ i retry, rx.1.Headed f i retry

lemma Headed.lost (headed : s.Headed f i retry) (length : bytes.length = s.remain)
    (verified : ({ s with acts := [] }.store 1 bytes).verifyFrame f.data.length = ret) (bad : ret ≠ .ok) :
    (s.step io { data := bytes, failed := false }).acts.contains .flush = true ∧
      Lost f s.crcType (s.step io { data := bytes, failed := false }, []) := by
  obtain ⟨tail, frame⟩ := headed.frame
  rw [headed.fails length verified bad]
  refine ⟨rfl, ?_⟩
  by_cases last : retry ≤ 1
  · exact .inl ⟨ret, if_pos last⟩
  · refine .inr ⟨rfl, rfl, i, retry - 1, if_neg last, bytes ++ tail.drop bytes.length, ?_⟩
    change s.frame.take 1 ++ bytes ++ s.frame.drop (1 + bytes.length) = _
    rw [frame, Nat.add_comm 1]
    rfl

lemma Headed.wrong (headed : s.Headed f i retry) {data}
    (arrives : f.Arrives s.crcType arrived data check) (wrong : check ≠ s.crcType.check data) :
    ({ s with acts := [] }.store 1 arrived.tail).verifyFrame f.data.length = .errCrc := by
  obtain ⟨tail, frame⟩ := headed.frame
  have parts : ({ s with acts := [] }.store 1 arrived.tail).frame =
      [f.head, 0, ~~~0] ++ data ++ (check ++ s.frame.drop (1 + arrived.tail.length)) := by
    change s.frame.take 1 ++ arrived.tail ++ s.frame.drop (1 + arrived.tail.length) = _
    rw [← append_assoc, frame, arrives.bytes]
    rfl
  rw [← arrives.data, verifyFrame_checked parts arrives.check]
  exact if_neg wrong

lemma damaged_lost (pc : s.pc = .handshake i) (damaged : f.Damaged s.crcType arrived) :
    Lost f s.crcType (transmit io (s, []) arrived) := by
  obtain ⟨data, check, arrives, wrong⟩ := damaged
  rw [transmit_first pc arrives]
  have headed : ({ s.loaded [f.head] with pc := .firstRest i sendRetry } : Receiver σ).Headed f i sendRetry := ⟨rfl, _, rfl⟩
  have length : arrived.tail.length = ({ s.loaded [f.head] with pc := .firstRest i sendRetry } : Receiver σ).remain := by
    rw [length_tail, headed.length arrives, Nat.add_sub_cancel]
  exact (headed.lost length (headed.wrong arrives wrong) nofun).2

lemma Headed.shifted (headed : s.Headed f i retry) {data} (arrives : f.Arrives s.crcType arrived data check) :
    ({ s with acts := [] }.store 1 (arrived.take s.remain)).verifyFrame f.data.length = .errSeq := by
  obtain ⟨tail, frame⟩ := headed.frame
  obtain ⟨count, two⟩ : ∃ count, s.remain = count + 2 := ⟨(headSize s.head).getD 0 + s.crcType.len, by unfold remain; omega⟩
  have parts : ∃ more, ({ s with acts := [] }.store 1 (arrived.take s.remain)).frame = f.head :: f.head :: 0 :: more := by
    refine ⟨(([0xFF] ++ data ++ check).take count ++ s.frame.drop (1 + (arrived.take s.remain).length)), ?_⟩
    change s.frame.take 1 ++ arrived.take s.remain ++ s.frame.drop (1 + (arrived.take s.remain).length) = _
    rw [frame, two, arrives.bytes]
    rfl
  obtain ⟨more, parts⟩ := parts
  have numbers : ({ s with acts := [] }.store 1 (arrived.take s.remain)).seq +
      ({ s with acts := [] }.store 1 (arrived.take s.remain)).seqn ≠ 0xFF := by
    unfold seq seqn
    rw [parts]
    rcases InfoFrame.head_size (f := f) with head | head
    · rw [head]
      exact show soh + 0 ≠ 0xFF by decide
    · rw [head]
      exact show stx + 0 ≠ 0xFF by decide
  exact if_pos numbers

lemma Lost.transmit {rx} {crcType} (lost : Lost f crcType rx)
    {data} (arrives : f.Arrives crcType arrived data check) :
    Lost f crcType (transmit io rx arrived) := by
  obtain ⟨s, line⟩ := rx
  rcases lost with ⟨ret, done⟩ | ⟨rfl, rfl, i, retry, headed⟩
  · have none : s.need = none := by
      unfold Receiver.need
      rw [show s.pc = .done ret from done]
    have stays : Receiver.transmit io (s, line) arrived = (s, line ++ arrived) := by
      unfold Receiver.transmit
      cases line.length + arrived.length with
      | zero => rfl
      | succ fuel =>
        rw [listen]
        simp only [none]
    rw [stays]
    exact .inl ⟨ret, done⟩
  · have length := headed.length arrives
    have taken : (arrived.take s.remain).length = s.remain := by
      rw [length_take, length]
      exact Nat.min_eq_left (Nat.le_succ _)
    obtain ⟨flushed, lost⟩ : _ ∧ Lost f s.crcType (s.step io _, []) := headed.lost taken (headed.shifted arrives) nofun
    unfold Receiver.transmit
    rw [nil_append, length_nil, Nat.zero_add, length, listen_step headed.need (by omega), if_pos flushed, listen_empty]
    exact lost

lemma Lost.transmits {rx} {crcType} (lost : Lost f crcType rx)
    {copies : List (List UInt8)} (arrive : ∀ copy ∈ copies, ∃ data check, f.Arrives crcType copy data check) :
    Lost f crcType (copies.foldl (Receiver.transmit io) rx) := by
  induction copies generalizing rx with
  | nil => exact lost
  | cons copy copies ih =>
    obtain ⟨data, check, arrives⟩ := arrive copy mem_cons_self
    exact ih (lost.transmit arrives) fun copy member => arrive copy (mem_cons_of_mem _ member)

lemma Lost.not_accepted {rx : Receiver σ × List UInt8} {crcType} (lost : Lost f crcType rx) : ¬ rx.1.Accepted f := by
  intro accepted
  rcases lost with ⟨ret, done⟩ | ⟨-, -, i, retry, headed⟩
  · exact nomatch done.symm.trans accepted.pc
  · exact nomatch headed.pc.symm.trans accepted.pc

lemma openFirst_opens (isYmodem : s.isYmodem = true) (opens : ∀ sink name size, (io.saveOpen sink name size).1 = true)
    (size : Nat) : ∃ sink, s.openFirst io size = (.ok, { s with state := .connected, sink, written := 0 }) := by
  have openable := opens s.sink s.fileName s.fileSize
  unfold openFirst openFile
  dsimp only
  generalize io.saveOpen s.sink s.fileName s.fileSize = opening at openable ⊢
  obtain ⟨_ | _, sink⟩ := opening
  · cases openable
  · exact ⟨sink, if_pos isYmodem⟩

lemma takeFirstFrame_accepted {tail : List UInt8} (frame : s.frame = frameBytes s.crcType f.head 0 f.data ++ tail)
    (opens : ∀ sink name size, (io.saveOpen sink name size).1 = true) (i retry : Nat) :
    (firstProcessed i retry (s.takeFirstFrame io f.data.length)).Accepted f := by
  have numbers : s.seq = 0 ∧ s.seqn = 0xFF := ⟨seq_frame frame, seqn_frame frame⟩
  have field := dataField_frame frame
  have whole : s.dataField =
      f.name ++ 0 :: (Decimal.text f.size ++ f.stop :: (f.rest ++ (s.crcType.check f.data ++ tail))) := by
    rw [field, InfoFrame.data]
    simp only [append_assoc, cons_append]
  obtain ⟨name, size⟩ := info_read f.short f.plain f.small f.ends (f.rest ++ (s.crcType.check f.data ++ tail))
  rw [← whole] at name size
  unfold takeFirstFrame
  rw [if_pos numbers]
  obtain ⟨sink, opened⟩ := openFirst_opens (s := ({ s with isYmodem := true, expectedSeq := 1 }.parseFileInfo.sendByte
    ack).sendRequest) rfl opens f.data.length
  rw [opened]
  exact ⟨rfl, name, size, rfl, rfl⟩

lemma intact_accepted (pc : s.pc = .handshake i) (opens : ∀ sink name size, (io.saveOpen sink name size).1 = true) :
    (transmit io (s, []) (f.bytes s.crcType)).1.Accepted f := by
  rw [transmit_first pc (f.arrives_bytes s.crcType)]
  have taken := step_firstRest io (s := { s.loaded [f.head] with pc := .firstRest i sendRetry }) 0 f.fits rfl rfl
  dsimp only at taken ⊢
  rw [show (f.bytes s.crcType).tail = (frameBytes (s.loaded [f.head]).crcType f.head 0 f.data).tail from rfl]
  unfold InfoFrame.data
  rw [taken]
  exact takeFirstFrame_accepted rfl opens i sendRetry

/-- The information on the file is taken from the frame that is intact only if no frame before it was damaged. -/
theorem retransmission_accepted_iff (pc : s.pc = .handshake i)
    (opens : ∀ sink name size, (io.saveOpen sink name size).1 = true) {copies : List (List UInt8)}
    (damaged : ∀ copy ∈ copies, f.Damaged s.crcType copy) :
    ((copies ++ [f.bytes s.crcType]).foldl (transmit io) (s, [])).1.Accepted f ↔ copies = [] := by
  constructor
  · intro accepted
    cases copies with
    | nil => rfl
    | cons first more =>
      exfalso
      have lost : Lost f s.crcType (transmit io (s, []) first) := damaged_lost pc (damaged first mem_cons_self)
      have arrive : ∀ copy ∈ more ++ [f.bytes s.crcType], ∃ data check, f.Arrives s.crcType copy data check := by
        intro copy member
        rcases mem_append.mp member with before | last
        · obtain ⟨data, check, arrives, -⟩ := damaged copy (mem_cons_of_mem _ before)
          exact ⟨data, check, arrives⟩
        · rw [mem_singleton.mp last]
          exact ⟨_, _, f.arrives_bytes s.crcType⟩
      exact (lost.transmits arrive).not_accepted accepted
  · rintro rfl
    exact intact_accepted pc opens

def fiveBytes : InfoFrame where
  head := soh
  name := [0x61]
  size := 5
  stop := 0
  rest := List.replicate 124 0
  short := by decide
  plain := by decide
  small := by decide
  ends := by decide
  fits := by decide +kernel

theorem first_copy_accepted : ([fiveBytes.bytes (fresh .crc16).crcType].foldl (transmit (callbackIo true true))
    (fresh .crc16, [])).1.Accepted fiveBytes := by
  have none : ∀ copy ∈ ([] : List (List UInt8)), fiveBytes.Damaged (fresh .crc16).crcType copy := nofun
  exact (retransmission_accepted_iff rfl (fun _ _ _ => rfl) none).mpr rfl

def otherCheck : List UInt8 := [soh, 0, 0xFF] ++ fiveBytes.data ++ (CrcType.crc16.check fiveBytes.data).map (· + 1)

lemma map_succ_ne (some : bytes ≠ []) : bytes.map (· + 1) ≠ bytes := by
  cases bytes with
  | nil => exact absurd rfl some
  | cons byte bytes =>
    intro same
    have value := congrArg UInt8.toNat (List.cons.inj same).1
    rw [UInt8.toNat_add] at value
    change (byte.toNat + 1) % 2 ^ 8 = byte.toNat at value
    omega

lemma otherCheck_damaged : fiveBytes.Damaged .crc16 otherCheck := by
  refine ⟨fiveBytes.data, (CrcType.crc16.check fiveBytes.data).map (· + 1), ⟨?_, ?_, ?_⟩, ?_⟩
  · unfold otherCheck
    rw [show fiveBytes.head = soh from rfl]
  · rfl
  · rw [length_map, CrcType.check_length]
  · apply map_succ_ne
    unfold CrcType.check
    exact cons_ne_nil _ _

lemma second_copy_lost (pc : s.pc = .handshake i) (crc : s.crcType = .crc16) :
    Lost fiveBytes .crc16 ([otherCheck, fiveBytes.bytes .crc16].foldl (transmit io) (s, [])) := by
  have damaged : fiveBytes.Damaged s.crcType otherCheck := crc ▸ otherCheck_damaged
  have lost : Lost fiveBytes .crc16 (transmit io (s, []) otherCheck) := crc ▸ damaged_lost pc damaged
  rw [foldl_cons, foldl_cons, foldl_nil]
  exact lost.transmit (fiveBytes.arrives_bytes .crc16)

theorem second_copy_refused : fiveBytes.Damaged .crc16 otherCheck ∧
    ¬ ([otherCheck, fiveBytes.bytes .crc16].foldl (transmit (callbackIo true true)) (fresh .crc16, [])).1.Accepted
      fiveBytes :=
  ⟨otherCheck_damaged, (second_copy_lost rfl rfl).not_accepted⟩

end Receiver

end LL320D.Ymodem
