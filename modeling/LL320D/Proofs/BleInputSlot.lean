import LL320D.Proofs.AtTextWords

/-! The memory of an AT command. The frame in the slot belongs to one of two contexts or to the message, and the parser
stays inside its arrays whenever `rcv_msg` holds a terminated text. -/

namespace LL320D.BleInput
open List AtCmd

variable {cipher : BlockCipher} {data text : List UInt8}

lemma length_decryptBlocks (cipher : BlockCipher) {n : Nat} (length : data.length = 16 * n)
    (decrypted : decryptBlocks cipher n data = some text) : text.length = data.length := by
  induction n generalizing data text with
  | zero =>
    cases decrypted
    exact length.symm
  | succ n ih =>
    simp only [decryptBlocks, Option.bind_eq_bind, Option.bind_eq_some_iff] at decrypted
    obtain ⟨block, first, rest, later, joined⟩ := decrypted
    cases joined
    have blockLength := cipher.length_decrypt first
    have restLength := ih (by rw [length_drop]; omega) later
    rw [length_take] at blockLength
    rw [length_drop] at restLength
    rw [length_append]
    omega

lemma length_aesEcbDecrypt {ciphertext : List UInt8} {ptLen : Nat}
    (decrypted : aesEcbDecrypt cipher ciphertext ptLen = some text) : text.length = ciphertext.length := by
  unfold aesEcbDecrypt at decrypted
  split at decrypted
  · cases decrypted
  next aligned =>
    split at decrypted
    · cases decrypted
    · exact length_decryptBlocks cipher (by omega) decrypted

lemma bleComuAppHandle_atCmd {type : Nat}
    (dispatched : bleComuAppHandle cipher type data = .atCmd text) : text.length = data.length ∧ data.length % 16 = 0 := by
  unfold bleComuAppHandle at dispatched
  split at dispatched
  · cases dispatched
  split at dispatched
  · cases dispatched
  next aligned =>
    split at dispatched
    · cases dispatched
    next plain decrypted =>
      have same : plain = text := by
        repeat' split at dispatched
        all_goals cases dispatched
        rfl
      subst same
      exact ⟨length_aesEcbDecrypt decrypted, by omega⟩

lemma bleRxProcHandle_atCmd {frame : List UInt8}
    (dispatched : bleRxProcHandle cipher frame = .atCmd text) : text.length = frame.length - 4 ∧ text.length % 16 = 0 := by
  unfold bleRxProcHandle bleAppCommDataProc at dispatched
  split at dispatched
  · split at dispatched
    · cases dispatched
    · split at dispatched
      · cases dispatched
      · obtain ⟨length, aligned⟩ := bleComuAppHandle_atCmd dispatched
        rw [length_drop] at length aligned
        exact ⟨length, length ▸ aligned⟩
  · cases dispatched

section
open AtText

lemma reads_le {format : Format} {limit : Int} {s : Analysis} {i : Nat} {rest : List UInt8} :
    ∀ read ∈ s.reads format limit i rest, read ≤ i + rest.length := by
  fun_induction Analysis.reads format limit s i rest <;> grind

lemma text_length_lt {strData : List UInt8} (terminated : 0 ∈ strData) : (AtText.text strData).length < strData.length := by
  refine Nat.lt_of_le_of_ne (takeWhile_sublist _).length_le ?_
  intro whole
  have same := ( takeWhile_prefix (· ≠ (0 : UInt8)) (l := strData)).eq_of_length whole
  rw [← same] at terminated
  exact zero_not_mem_text strData terminated

lemma analyseAccesses_inside {msg : AtCmd} (short : (AtText.text msg.rcvMsg).length < cmdStringLengthMax) :
    ∀ access ∈ analyseAccesses msg, access.Inside := by
  intro access member
  rw [analyseAccesses, if_pos short] at member
  simp only [mem_append, mem_map, mem_range] at member
  rcases member with ⟨index, bound, rfl⟩ | ⟨index, read, rfl⟩ | ⟨write, member, rfl⟩
  · exact Nat.lt_of_lt_of_le bound short
  · have bound := reads_le index read
    rw [Nat.zero_add] at bound
    exact Nat.lt_of_le_of_lt bound short
  · have inside := analyse_writes msg.rcvMsg msg.parm parmMax atFormat write member
    cases write with
    | str index => exact Nat.lt_trans inside short
    | tar index => exact Int.ofNat_lt.mp inside

end

lemma length_received (text) : (received text).rcvMsg.length = cmdStringLengthMax := by
  unfold received
  rw [length_take, length_append, length_replicate]
  omega

lemma received_terminated_iff (text : List UInt8) (fits : text.length ≤ cmdStringLengthMax) :
    0 ∈ (received text).rcvMsg ↔ text.length < cmdStringLengthMax ∨ 0 ∈ text := by
  have split : (received text).rcvMsg = text ++ List.replicate (cmdStringLengthMax - text.length) 0 := by
    unfold received
    rw [take_append, take_of_length_le fits, take_replicate, Nat.min_eq_left (Nat.sub_le _ _)]
  rw [split, mem_append, mem_replicate]
  constructor
  · rintro (inText | ⟨behind, -⟩)
    · exact .inr inText
    · exact .inl (by omega)
  · rintro (short | inText)
    · exact .inr ⟨by omega, rfl⟩
    · exact .inl inText

/-- The text of a command is copied inside `rcv_msg` and ends there, and `at_cmd_str_analyse` stays inside
`rcv_msg` and `parm`. -/
structure AtCommandSafe (text : List UInt8) : Prop where
  copied : ∀ access ∈ memcpyWrites text, access.Inside
  terminated : 0 ∈ (received text).rcvMsg
  analysed : ∀ access ∈ analyseAccesses (received text), access.Inside

lemma memcpyWrites_inside_iff (text : List UInt8) :
    (∀ access ∈ memcpyWrites text, access.Inside) ↔ text.length ≤ cmdStringLengthMax := by
  constructor
  · intro inside
    refine Nat.le_of_not_lt fun long => ?_
    have outside := inside (.rcvMsg cmdStringLengthMax) (mem_map_of_mem (mem_range.mpr long))
    exact Nat.lt_irrefl _ outside
  · intro fits access member
    obtain ⟨index, bound, rfl⟩ := mem_map.mp member
    exact Nat.lt_of_lt_of_le (mem_range.mp bound) fits

lemma atCommandSafe_iff (text : List UInt8) :
    AtCommandSafe text ↔ text.length < cmdStringLengthMax ∨ text.length = cmdStringLengthMax ∧ 0 ∈ text := by
  constructor
  · intro safe
    have fits := (memcpyWrites_inside_iff text).mp safe.copied
    rcases (received_terminated_iff text fits).mp safe.terminated with short | inText
    · exact .inl short
    · exact (Nat.lt_or_eq_of_le fits).imp id fun whole => ⟨whole, inText⟩
  · intro condition
    have fits := condition.elim Nat.le_of_lt fun whole => Nat.le_of_eq whole.1
    have terminated := (received_terminated_iff text fits).mpr (condition.imp id And.right)
    have short := text_length_lt terminated
    rw [length_received] at short
    exact ⟨(memcpyWrites_inside_iff text).mpr fits, terminated, analyseAccesses_inside short⟩

theorem at_command_inside_iff (cipher : BlockCipher) (frame text : List UInt8) (accepted : Admissible frame.length)
    (dispatched : bleRxProcHandle cipher frame = .atCmd text) :
    AtCommandSafe text ↔ frame.length ≤ 116 ∨ frame.length = 132 ∧ 0 ∈ text := by
  obtain ⟨length, aligned⟩ := bleRxProcHandle_atCmd dispatched
  have heads : 20 ≤ frame.length := accepted.2
  refine (atCommandSafe_iff text).trans (or_congr ?_ (and_congr_left' ?_))
  · unfold cmdStringLengthMax
    omega
  · unfold cmdStringLengthMax
    omega

def commandFrame (text : List UInt8) : List UInt8 := [0x42, 0x54, 0x58, 0x08] ++ text

/-- `PARAM#` and its padding. -/
def shortCommand : List UInt8 := [0x50, 0x41, 0x52, 0x41, 0x4D, 0x23] ++ List.replicate 10 10

theorem short_command_inside : AtCommandSafe shortCommand ∧ (bleComuAtCmdHandle shortCommand).2 = some 1 :=
  ⟨(at_command_inside_iff .plain (commandFrame shortCommand) shortCommand (by decide) (by decide +kernel)).mpr
    (.inl (by decide)), by decide⟩

theorem long_command_outside : ∃ frame text, Admissible frame.length ∧ bleRxProcHandle .plain frame = .atCmd text ∧
      Access.rcvMsg 128 ∈ (bleComuAtCmdHandle text).1 ∧ ¬ AtCommandSafe text := by
  refine ⟨commandFrame (List.replicate 144 0x41), List.replicate 144 0x41, by decide +kernel, by decide +kernel, by decide +kernel, ?_⟩
  intro safe
  have fits := (memcpyWrites_inside_iff _).mp safe.copied
  rw [length_replicate] at fits
  exact absurd fits (by decide)

end LL320D.BleInput

namespace LL320D.BleInput.System
open Library List

structure Carries (s : System) (frame : List UInt8) : Prop where
  admissible : Admissible frame.length
  stored : s.rxBleBuf.take frame.length = frame
  pending : s.copied = s.dispatched ++ [frame]

inductive Phase (s : System) : Prop where
  | free (index : s.rxBleBufIndex = 0) (idle : s.input = .idle) (task : s.task = .waiting)
      (queue : .bleRx ∉ s.msgq) (done : s.copied = s.dispatched)
  | accepted (data : List UInt8) (admissible : Admissible data.length) (index : s.rxBleBufIndex = 0)
      (input : s.input = .accepted data) (task : s.task = .waiting) (queue : .bleRx ∉ s.msgq)
      (done : s.copied = s.dispatched)
  | copied (frame : List UInt8) (carries : s.Carries frame) (index : s.rxBleBufIndex = 0)
      (input : s.input = .copied frame.length) (task : s.task = .waiting) (queue : .bleRx ∉ s.msgq)
  | indexed (frame : List UInt8) (carries : s.Carries frame) (index : s.rxBleBufIndex = frame.length)
      (input : s.input = .indexed) (task : s.task = .waiting) (queue : .bleRx ∉ s.msgq)
  | queued (frame : List UInt8) (carries : s.Carries frame) (index : s.rxBleBufIndex = frame.length)
      (idle : s.input = .idle) (task : s.task = .waiting) (queue : s.msgq.count .bleRx = 1)
  | received (frame : List UInt8) (carries : s.Carries frame) (index : s.rxBleBufIndex = frame.length)
      (idle : s.input = .idle) (task : s.task = .received) (queue : .bleRx ∉ s.msgq)
  | handled (index : s.rxBleBufIndex ≠ 0) (idle : s.input = .idle) (task : s.task = .dispatched)
      (queue : .bleRx ∉ s.msgq) (done : s.copied = s.dispatched)

variable {s : System} {event : Event}

lemma Carries.index_ne {frame : List UInt8} (carries : s.Carries frame) (index : s.rxBleBufIndex = frame.length) :
    s.rxBleBufIndex ≠ 0 := by
  have least : 20 ≤ frame.length := carries.admissible.2
  omega

section

variable (phase : s.Phase)
include phase

lemma Phase.requeue {queue : List Msg} (count : queue.count .bleRx = s.msgq.count .bleRx)
    (registered : Bool) : Phase { s with msgq := queue, registered := registered } := by
  have absent (none : .bleRx ∉ s.msgq) : .bleRx ∉ queue := by
    rw [← count_eq_zero] at none ⊢
    exact count.trans none
  cases phase with
  | free index idle task none done => exact .free index idle task (absent none) done
  | accepted data admissible index input task none done =>
    exact .accepted data admissible index input task (absent none) done
  | copied frame carries index input task none => exact .copied frame { carries with } index input task (absent none)
  | indexed frame carries index input task none => exact .indexed frame { carries with } index input task (absent none)
  | queued frame carries index idle task one => exact .queued frame { carries with } index idle task (count.trans one)
  | received frame carries index idle task none => exact .received frame { carries with } index idle task (absent none)
  | handled index idle task none done => exact .handled index idle task (absent none) done

lemma Phase.register : (s.step .register).Phase := phase.requeue rfl true

lemma Phase.post : (s.step .post).Phase := by
  simp only [step, mySendMsg]
  split
  · have count : (s.msgq ++ [Msg.other]).count .bleRx = s.msgq.count .bleRx := by
      rw [count_append]
      rfl
    exact phase.requeue count s.registered
  · exact phase

lemma Phase.call (data : List UInt8) : (s.step (.call data)).Phase := by
  simp only [step]
  split
  next idle =>
    split
    next free =>
      cases phase with
      | free index idle task none done => exact .accepted data free.2 index rfl task none done
      | accepted data admissible index input | copied frame carries index input | indexed frame carries index input =>
        exact nomatch input.symm.trans idle
      | queued frame carries index | received frame carries index => exact absurd free.1 (carries.index_ne index)
      | handled index => exact absurd free.1 index
    · exact phase
  · exact phase

lemma Phase.memcpy : (s.step .memcpy).Phase := by
  simp only [step]
  split
  next data accepted =>
    cases phase with
    | accepted frame admissible index input task none done =>
      cases input.symm.trans accepted
      have carries : Carries { s with rxBleBuf := data ++ s.rxBleBuf.drop data.length, input := .copied data.length,
                                      copied := s.copied ++ [data] } data :=
        ⟨admissible, take_left, congrArg (· ++ [data]) done⟩
      exact .copied data carries index rfl task none
    | free index input | copied frame carries index input | indexed frame carries index input
    | queued frame carries index input | received frame carries index input | handled index input =>
      exact nomatch input.symm.trans accepted
  · exact phase

lemma Phase.setIndex : (s.step .setIndex).Phase := by
  simp only [step]
  split
  next len copied =>
    cases phase with
    | copied frame carries index input task none =>
      cases input.symm.trans copied
      exact .indexed frame { carries with } rfl rfl task none
    | free index input | accepted data admissible index input | indexed frame carries index input
    | queued frame carries index input | received frame carries index input | handled index input =>
      exact nomatch input.symm.trans copied
  · exact phase

lemma Phase.of_indexed (indexed : s.input = .indexed) :
    ∃ frame, s.Carries frame ∧ s.rxBleBufIndex = frame.length ∧ s.task = .waiting ∧ .bleRx ∉ s.msgq := by
  cases phase with
  | indexed frame carries index input task none => exact ⟨frame, carries, index, task, none⟩
  | free index input | accepted data admissible index input | copied frame carries index input
  | queued frame carries index input | received frame carries index input | handled index input =>
    exact nomatch input.symm.trans indexed

lemma Phase.send (room : s.input = .indexed → s.hasRoom) : (s.step .send).Phase := by
  simp only [step]
  split
  next indexed =>
    obtain ⟨frame, carries, index, task, none⟩ := phase.of_indexed indexed
    rw [mySendMsg, if_pos (room indexed)]
    refine .queued frame { carries with } index rfl task ?_
    rw [count_append, count_eq_zero.mpr none]
    rfl
  · exact phase

lemma Phase.receive : (s.step .receive).Phase := by
  simp only [step]
  split
  next rest waiting taken =>
    cases phase with
    | queued frame carries index idle task one =>
      rw [taken, count_cons_self] at one
      exact .received frame { carries with } index idle rfl (count_eq_zero.mp (Nat.succ.inj one))
    | free index idle task none | accepted data admissible index input task none
    | copied frame carries index input task none | indexed frame carries index input task none
    | handled index idle task none =>
      rw [taken] at none
      exact absurd mem_cons_self none
    | received frame carries index idle task => exact nomatch task.symm.trans waiting
  next rest waiting taken =>
    have count : rest.count Msg.bleRx = s.msgq.count .bleRx := by rw [taken, count_cons_of_ne (by decide)]
    exact phase.requeue count s.registered
  · exact phase

lemma Phase.dispatch : (s.step .dispatch).Phase := by
  simp only [step]
  split
  next received =>
    cases phase with
    | received frame carries index idle task none =>
      refine .handled (carries.index_ne index) idle rfl none ?_
      rw [index, carries.stored]
      exact carries.pending
    | free index idle task | accepted data admissible index input task | copied frame carries index input task
    | indexed frame carries index input task | queued frame carries index idle task | handled index idle task =>
      exact nomatch task.symm.trans received
  · exact phase

lemma Phase.finish : (s.step .finish).Phase := by
  simp only [step]
  split
  next dispatched =>
    cases phase with
    | handled index idle task none done => exact .free rfl idle rfl none done
    | free index idle task | accepted data admissible index input task | copied frame carries index input task
    | indexed frame carries index input task | queued frame carries index idle task
    | received frame carries index idle task => exact nomatch task.symm.trans dispatched
  · exact phase

end

/-- The message that a call of `BLE_DataInputBuffer` sends is put into the queue. -/
def Delivered (s : System) (event : Event) : Prop := event = .send → s.input = .indexed → s.hasRoom

lemma Phase.step (phase : s.Phase) (delivered : s.Delivered event) : (s.step event).Phase := by
  cases event with
  | call data => exact phase.call data
  | memcpy => exact phase.memcpy
  | setIndex => exact phase.setIndex
  | send => exact phase.send (delivered rfl)
  | register => exact phase.register
  | post => exact phase.post
  | receive => exact phase.receive
  | dispatch => exact phase.dispatch
  | finish => exact phase.finish

lemma start_phase : start.Phase := .free rfl rfl rfl (not_mem_nil) rfl

def work (s : System) : Nat := 3 * s.msgq.length +
    match s.task with
    | .waiting => 0
    | .received => 2
    | .dispatched => 1

lemma work_step (s : System) : (s.step s.taskEvent).work ≤ s.work - 1 := by
  unfold taskEvent
  cases task : s.task with
  | waiting =>
    simp only [step, task]
    split
    next rest _ taken =>
      simp only [work, task, taken, length_cons]
      omega
    next rest _ taken =>
      simp only [work, task, taken, length_cons]
      omega
    next other none =>
      have empty : s.msgq = [] := by
        cases queue : s.msgq with
        | nil => rfl
        | cons msg rest =>
          cases msg with
          | bleRx => exact absurd queue (other rest rfl)
          | other => exact absurd queue (none rest rfl)
      simp only [work, task, empty, length_nil]
      omega
  | received | dispatched =>
    simp only [step, task, work]
    omega

lemma Phase.task (phase : s.Phase) : (s.step s.taskEvent).Phase := by
  unfold taskEvent
  split
  · exact phase.receive
  · exact phase.dispatch
  · exact phase.finish

lemma input_task (s : System) : (s.step s.taskEvent).input = s.input := by
  unfold taskEvent
  split
  all_goals simp only [step]
  all_goals split
  all_goals rfl

lemma runTask_drained {n : Nat} (phase : s.Phase) (enough : s.work ≤ n) :
    (runTask n s).Phase ∧ (runTask n s).input = s.input ∧ (runTask n s).work = 0 := by
  induction n generalizing s with
  | zero => exact ⟨phase, rfl, Nat.le_zero.mp enough⟩
  | succ n ih =>
    obtain ⟨after, input, idle⟩ := ih phase.task (Nat.le_trans (work_step s) (by omega))
    exact ⟨after, input.trans (input_task s), idle⟩

lemma work_le (s : System) : s.work ≤ 3 * s.msgq.length + 2 := by
  unfold work
  split
  all_goals omega

lemma work_zero (none : s.work = 0) : s.msgq = [] ∧ s.task = .waiting := by
  unfold work at none
  split at none
  next waiting => exact ⟨eq_nil_of_length_eq_zero (by omega), waiting⟩
  all_goals omega

lemma Phase.slot_free (phase : s.Phase) (idle : s.input = .idle) (queue : s.msgq = []) (waiting : s.task = .waiting) :
    s.rxBleBufIndex = 0 ∧ s.copied = s.dispatched := by
  cases phase with
  | free index _ _ _ done => exact ⟨index, done⟩
  | queued frame carries index _ _ one =>
    rw [queue] at one
    exact nomatch one
  | accepted data admissible index input | copied frame carries index input | indexed frame carries index input =>
    exact nomatch input.symm.trans idle
  | received frame carries index _ task | handled index _ task => exact nomatch task.symm.trans waiting

/-- The index is set only while its frame is under way; every frame copied is dispatched once with its own bytes, or is
the one in the slot; a frame that was handled leaves the slot free; and when no call runs, the BLE thread alone empties
the slot. -/
structure Sound (s : System) : Prop where
  owned : s.rxBleBufIndex ≠ 0 → .bleRx ∈ s.msgq ∨ s.task ≠ .waiting ∨ s.input = .indexed
  once : s.copied = s.dispatched ∨ ∃ frame, s.copied = s.dispatched ++ [frame] ∧
    s.rxBleBuf.take frame.length = frame ∧ (s.input = .copied frame.length ∨ s.rxBleBufIndex = frame.length)
  freed : s.task = .dispatched → (s.step .finish).rxBleBufIndex = 0 ∧ (s.step .finish).input = .idle
  drains : s.input = .idle → ∀ n, 3 * s.msgq.length + 2 ≤ n →
    (runTask n s).rxBleBufIndex = 0 ∧ (runTask n s).copied = (runTask n s).dispatched

lemma Phase.owned (phase : s.Phase) (taken : s.rxBleBufIndex ≠ 0) :
    .bleRx ∈ s.msgq ∨ s.task ≠ .waiting ∨ s.input = .indexed := by
  cases phase with
  | free index | accepted data admissible index | copied frame carries index => exact absurd index taken
  | indexed frame carries index input => exact .inr (.inr input)
  | queued frame carries index idle task one => exact .inl (count_pos_iff.mp (one ▸ Nat.one_pos))
  | received frame carries index idle task | handled index idle task =>
    exact .inr (.inl fun waiting => nomatch task.symm.trans waiting)

lemma Phase.once (phase : s.Phase) : s.copied = s.dispatched ∨ ∃ frame, s.copied = s.dispatched ++ [frame] ∧
      s.rxBleBuf.take frame.length = frame ∧ (s.input = .copied frame.length ∨ s.rxBleBufIndex = frame.length) := by
  cases phase with
  | free _ _ _ _ done | accepted data _ _ _ _ _ done => exact .inl done
  | copied frame carries _ input => exact .inr ⟨frame, carries.pending, carries.stored, .inl input⟩
  | indexed frame carries index | queued frame carries index | received frame carries index =>
    exact .inr ⟨frame, carries.pending, carries.stored, .inr index⟩
  | handled _ _ _ _ done => exact .inl done

lemma Phase.freed (phase : s.Phase) (dispatched : s.task = .dispatched) :
    (s.step .finish).rxBleBufIndex = 0 ∧ (s.step .finish).input = .idle := by
  simp only [System.step, dispatched]
  cases phase with
  | handled index idle => exact ⟨trivial, idle⟩
  | free index idle task | accepted data admissible index input task | copied frame carries index input task
  | indexed frame carries index input task | queued frame carries index idle task
  | received frame carries index idle task => exact nomatch task.symm.trans dispatched

lemma Phase.sound (phase : s.Phase) : s.Sound where
  owned := phase.owned
  once := phase.once
  freed := phase.freed
  drains := by
    intro idle n enough
    obtain ⟨after, input, none⟩ := runTask_drained phase (Nat.le_trans (work_le s) enough)
    obtain ⟨queue, waiting⟩ := work_zero none
    exact after.slot_free (input.trans idle) queue waiting

lemma Sound.delivered (phase : s.Phase) (sound : (s.step event).Sound) : s.Delivered event := by
  rintro rfl indexed
  obtain ⟨frame, carries, index, task, none⟩ := phase.of_indexed indexed
  by_contra full
  have next : s.step .send = { s with input := .idle } := by simp only [step, indexed, mySendMsg, if_neg full]
  rw [next] at sound
  rcases sound.owned (carries.index_ne index) with queued | handling | running
  · exact none queued
  · exact handling task
  · exact nomatch running

theorem slot_never_wedges_iff (events : List Event) :
    Always step Sound start events ↔ Along step Delivered start events :=
  always_iff_along Phase (fun _ phase => phase.sound) (fun _ _ phase delivered => phase.step delivered)
    (fun _ _ phase sound => sound.delivered phase) start_phase

structure Wedged (s : System) : Prop where
  index : s.rxBleBufIndex ≠ 0
  idle : s.input = .idle
  task : s.task = .waiting
  queue : .bleRx ∉ s.msgq

lemma Wedged.step (wedged : s.Wedged) (event : Event) :
    (s.step event).Wedged ∧ (s.step event).copied = s.copied ∧ (s.step event).dispatched = s.dispatched := by
  obtain ⟨index, idle, task, queue⟩ := wedged
  cases event with
  | call data =>
    simp only [System.step, idle, if_neg (fun free : _ ∧ _ => index free.1)]
    exact ⟨⟨index, idle, task, queue⟩, trivial, trivial⟩
  | memcpy | setIndex | send =>
    simp only [System.step, idle]
    exact ⟨⟨index, idle, task, queue⟩, trivial, trivial⟩
  | dispatch | finish =>
    simp only [System.step, task]
    exact ⟨⟨index, idle, task, queue⟩, trivial, trivial⟩
  | register => exact ⟨⟨index, idle, task, queue⟩, rfl, rfl⟩
  | post =>
    simp only [System.step, mySendMsg]
    split
    · exact ⟨⟨index, idle, task, by simpa using queue⟩, rfl, rfl⟩
    · exact ⟨⟨index, idle, task, queue⟩, rfl, rfl⟩
  | receive =>
    simp only [System.step, task]
    split
    next rest _ taken =>
      rw [taken] at queue
      exact absurd mem_cons_self queue
    next rest _ taken =>
      rw [taken] at queue
      exact ⟨⟨index, idle, rfl, fun later => queue (mem_cons_of_mem _ later)⟩, rfl, rfl⟩
    · exact ⟨⟨index, idle, task, queue⟩, rfl, rfl⟩

lemma Wedged.run (wedged : s.Wedged) (events : List Event) :
    (events.foldl System.step s).Wedged ∧ (events.foldl System.step s).copied = s.copied ∧
      (events.foldl System.step s).dispatched = s.dispatched := by
  induction events generalizing s with
  | nil => exact ⟨wedged, rfl, rfl⟩
  | cons event events ih =>
    obtain ⟨next, copied, dispatched⟩ := wedged.step event
    obtain ⟨final, laterCopied, laterDispatched⟩ := ih next
    exact ⟨final, laterCopied.trans copied, laterDispatched.trans dispatched⟩

lemma Phase.wedges (phase : s.Phase) (lost : ¬ s.Delivered event) :
    (s.step event).Wedged ∧ ∃ frame, (s.step event).copied = (s.step event).dispatched ++ [frame] := by
  simp only [Delivered, Classical.not_imp] at lost
  obtain ⟨rfl, indexed, full⟩ := lost
  obtain ⟨frame, carries, index, task, none⟩ := phase.of_indexed indexed
  simp only [System.step, indexed, mySendMsg, if_neg full]
  exact ⟨⟨carries.index_ne index, rfl, task, none⟩, frame, carries.pending⟩

lemma Wedged.refuses (wedged : s.Wedged) (data : List UInt8) : s.step (.call data) = s := by
  simp only [System.step, wedged.idle, if_neg (fun free : _ ∧ _ => wedged.index free.1)]

/-- A notification that is not put into the queue: its frame is the last one copied and is never dispatched. -/
lemma Phase.loses (phase : s.Phase) (indexed : s.input = .indexed) (full : ¬ s.hasRoom) :
    ∃ frame, s.copied = s.dispatched ++ [frame] ∧ ∀ later : List Event,
      let t := later.foldl System.step (s.step .send)
      t.copied = s.copied ∧ t.dispatched = s.dispatched ∧ ∀ data, t.step (.call data) = t := by
  have lost : ¬ s.Delivered .send := fun delivered => full (delivered rfl indexed)
  obtain ⟨frame, carries, -⟩ := phase.of_indexed indexed
  refine ⟨frame, carries.pending, fun later => ?_⟩
  obtain ⟨wedged, copied, dispatched⟩ := (phase.wedges lost).1.run later
  have kept : (s.step .send).copied = s.copied ∧ (s.step .send).dispatched = s.dispatched := by
    simp only [System.step, indexed, mySendMsg, if_neg full, and_self]
  exact ⟨copied.trans kept.1, dispatched.trans kept.2, wedged.refuses⟩

/-- Frames are dispatched in the order in which they were copied, all but at most the last one. When the notification of
a frame finds no room in the queue, that frame stays in the slot for ever and every later one is refused. -/
theorem dispatched_in_order (events : List Event) :
    let s := events.foldl step start
    (s.copied = s.dispatched ∨ ∃ frame, s.copied = s.dispatched ++ [frame]) ∧
      (s.input = .indexed ∧ ¬ s.hasRoom → ∃ frame, s.copied = s.dispatched ++ [frame] ∧ ∀ later : List Event,
        let t := later.foldl step (s.step .send)
        t.copied = s.copied ∧ t.dispatched = s.dispatched ∧ ∀ data, t.step (.call data) = t) := by
  have kept := foldlRecOn (motive := fun s => s.Phase ∨ s.Wedged ∧ ∃ frame, s.copied = s.dispatched ++ [frame]) events step
    (.inl start_phase) fun s kept event _ => by
      rcases kept with phase | ⟨wedged, pending⟩
      · exact (em _).imp phase.step phase.wedges
      · obtain ⟨next, copied, dispatched⟩ := wedged.step event
        rw [copied, dispatched]
        exact .inr ⟨next, pending⟩
  rcases kept with phase | ⟨wedged, pending⟩
  · refine ⟨phase.once.imp_right fun ⟨frame, pending, _⟩ => ⟨frame, pending⟩, fun ⟨indexed, full⟩ => ?_⟩
    exact phase.loses indexed full
  · refine ⟨.inr pending, fun ⟨indexed, _⟩ => ?_⟩
    cases wedged.idle.symm.trans indexed

def fullQueue : List Event :=
  .register :: List.replicate 10 .post ++ [.call (List.replicate 20 0x42), .memcpy, .setIndex, .send]

theorem full_queue_wedges : ¬ Always step Sound start fullQueue ∧
      ∀ later, ((fullQueue ++ later).foldl step start).copied = [List.replicate 20 0x42] ∧
        ((fullQueue ++ later).foldl step start).dispatched = [] := by
  have wedged : (fullQueue.foldl step start).Wedged := ⟨by decide +kernel, by decide +kernel, by decide +kernel, by decide +kernel⟩
  constructor
  · intro always
    have sound := always fullQueue.length
    rw [take_length] at sound
    rcases sound.owned wedged.index with queued | handling | running
    · exact wedged.queue queued
    · exact handling wedged.task
    · exact nomatch running.symm.trans wedged.idle
  · intro later
    rw [foldl_append]
    obtain ⟨-, copied, dispatched⟩ := wedged.run later
    exact ⟨copied.trans (by decide +kernel), dispatched.trans (by decide +kernel)⟩

end LL320D.BleInput.System
