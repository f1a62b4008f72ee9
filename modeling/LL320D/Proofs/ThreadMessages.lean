import LL320D.Messages

/-! Every payload has one owner; when a query is answered over its own channel and with its own id; and when a message is
processed with the sample it was sent for. -/

namespace LL320D.Messages
open Library List Messages.Task Messages.System Function

variable {event : Event} {mod : Module} {msg : Msg} {index used : Nat} {next : System} {task : Task}

def Task.messages (task : Task) : List Msg := task.msgq ++ task.current.toList.map Prod.fst

def Task.holds (task : Task) (buffer : Nat) : Nat := task.messages.countP (·.pData = some buffer)

lemma Sender.routed (sender : Sender) : sender.dest.frees sender.msgId := by
  cases sender
  all_goals rfl

lemma Task.mem_enqueue {queued : Msg} (member : queued ∈ (task.enqueue msg).messages) :
    queued = msg ∨ queued ∈ task.messages := by
  simp only [enqueue, messages, mem_append, mem_singleton] at member ⊢
  rcases member with (queued | new) | current
  · exact .inr (.inl queued)
  · exact .inl new
  · exact .inr (.inr current)

lemma Task.holds_enqueue (task : Task) (msg : Msg) (buffer : Nat) :
    (task.enqueue msg).holds buffer = task.holds buffer + if msg.pData = some buffer then 1 else 0 := by
  simp only [enqueue, holds, messages, countP_append, countP_singleton, decide_eq_true_eq]
  omega

namespace System

def holders (s : System) (buffer : Nat) : Nat :=
  s.sending.countP (·.2 = buffer) + (Module.all.map fun mod => (s.task mod).holds buffer).sum

def frees (s : System) (buffer : Nat) : Nat := s.ops.count (.free buffer)

lemma sum_update (f : Module → Nat) (mod) (value : Nat) :
    (Module.all.map (update f mod value)).sum + f mod = (Module.all.map f).sum + value := by
  cases mod
  all_goals
    simp only [Module.all, map_cons, map_nil, sum_cons, sum_nil, update_self, ne_eq, reduceCtorEq,
      not_false_eq_true, update_of_ne]
    omega

lemma holders_setTask (s : System) (mod) (task : Task) (buffer : Nat) :
    (s.setTask mod task).holders buffer + (s.task mod).holds buffer = s.holders buffer + task.holds buffer := by
  have pointwise : (fun other => ((s.setTask mod task).task other).holds buffer) =
      update (fun other => (s.task other).holds buffer) mod (task.holds buffer) := by
    funext other
    by_cases same : other = mod
    · subst same
      rw [update_self]
      exact congrArg (holds · buffer) (update_self ..)
    · rw [update_of_ne same]
      exact congrArg (holds · buffer) (update_of_ne same ..)
  have total := sum_update (fun other => (s.task other).holds buffer) mod (task.holds buffer)
  rw [← pointwise] at total
  unfold holders
  have sending : (s.setTask mod task).sending = s.sending := rfl
  rw [sending]
  omega

lemma holds_le_holders (s : System) (mod) (buffer : Nat) : (s.task mod).holds buffer ≤ s.holders buffer := by
  have emptied := holders_setTask s mod { msgq := [], registered := false, current := none } buffer
  have none : holds { msgq := [], registered := false, current := none } buffer = 0 := rfl
  omega

/-- The state of the buffers: each that was allocated has one owner or was freed once, no use comes behind a free, and
a message with a payload is in a queue whose task frees it. -/
structure Inv (s : System) : Prop where
  total : ∀ buffer, s.frees buffer + s.holders buffer = if buffer < s.allocated then 1 else 0
  ordered : s.ops.Pairwise fun earlier later => ∀ buffer, earlier = .free buffer → later ≠ .use buffer
  routed : ∀ mod, ∀ msg ∈ (s.task mod).messages, msg.pData ≠ none → mod.frees msg.msgId

lemma start_inv : start.Inv where
  total _ := rfl
  ordered := .nil
  routed _ _ member := nomatch member

variable {s : System}

lemma Inv.routed_setTask (inv : s.Inv)
    (routed : ∀ msg ∈ task.messages, msg.pData ≠ none → mod.frees msg.msgId) (other : Module) :
    ∀ msg ∈ ((s.setTask mod task).task other).messages, msg.pData ≠ none → other.frees msg.msgId := by
  by_cases here : other = mod
  · subst here
    rw [show (s.setTask other task).task other = task from update_self ..]
    exact routed
  · rw [show (s.setTask mod task).task other = s.task other from update_of_ne here ..]
    exact inv.routed other

lemma Inv.setTask (inv : s.Inv) (same : ∀ buffer, task.holds buffer = (s.task mod).holds buffer)
    (routed : ∀ msg ∈ task.messages, msg.pData ≠ none → mod.frees msg.msgId) : (s.setTask mod task).Inv where
  total buffer := by
    have moved := holders_setTask s mod task buffer
    rw [same buffer] at moved
    exact (congrArg (s.frees buffer + ·) (Nat.add_right_cancel moved)).trans (inv.total buffer)
  ordered := inv.ordered
  routed := inv.routed_setTask routed

lemma Inv.release (inv : s.Inv) (released : Option Nat)
    (gives : ∀ buffer, (s.task mod).holds buffer = task.holds buffer + released.toList.count buffer)
    (routed : ∀ msg ∈ task.messages, msg.pData ≠ none → mod.frees msg.msgId) :
    Inv { s.setTask mod task with ops := s.ops ++ released.toList.map .free } where
  total buffer := by
    have moved := holders_setTask s mod task buffer
    have total := inv.total buffer
    have freed : (s.ops ++ released.toList.map Op.free).count (.free buffer) =
        s.frees buffer + released.toList.count buffer := by
      rw [count_append, count_map_of_injective _ _ fun _ _ => Op.free.inj]
      rfl
    rw [gives buffer] at moved
    refine (congrArg (· + (s.setTask mod task).holders buffer) freed).trans (Eq.trans ?_ total)
    omega
  ordered := by
    refine pairwise_append.mpr ⟨inv.ordered, ?_, ?_⟩
    · cases released with
      | none => exact .nil
      | some used => exact pairwise_singleton _ _
    · intro earlier _ later last buffer _ used
      obtain ⟨_, _, same⟩ := mem_map.mp last
      exact nomatch same.trans used
  routed := inv.routed_setTask routed

lemma Inv.use (inv : s.Inv) (used : Option Nat) (live : ∀ buffer ∈ used, s.frees buffer = 0) :
    Inv { s with ops := s.ops ++ used.toList.map .use } where
  total buffer := by
    have count : (s.ops ++ used.toList.map Op.use).count (.free buffer) = s.ops.count (.free buffer) := by
      rw [count_append]
      cases used with
      | none | some => rfl
    exact (congrArg (· + s.holders buffer) count).trans (inv.total buffer)
  ordered := by
    cases used with
    | none =>
      rw [Option.toList_none, map_nil, append_nil]
      exact inv.ordered
    | some buffer =>
      refine pairwise_append.mpr ⟨inv.ordered, pairwise_singleton _ _, ?_⟩
      intro earlier before later last other freed used
      cases mem_singleton.mp last
      cases used
      rw [freed] at before
      exact absurd (count_eq_zero.mp (live buffer rfl)) (not_not_intro before)
  routed := inv.routed

lemma Inv.receive (inv : s.Inv) (mod) : (s.receive mod).Inv := by
  unfold System.receive
  split
  next msg rest idle queue =>
    have swapped : Task.messages { s.task mod with msgq := rest, current := some (msg, false) } = rest ++ [msg] := rfl
    have before : (s.task mod).messages = msg :: rest := by
      rw [Task.messages, queue, idle]
      exact append_nil _
    apply inv.setTask
    · intro buffer
      rw [Task.holds, Task.holds, swapped, before]
      exact (perm_append_singleton msg rest).countP_eq _
    · intro other member
      rw [swapped] at member
      apply inv.routed mod other
      rw [before]
      exact (perm_append_singleton msg rest).mem_iff.mp member
  · exact inv

lemma buffer_mem (taken : used ∈ buffer mod msg) : msg.pData = some used := by
  unfold buffer at taken
  split at taken
  · exact taken
  · exact nomatch taken

lemma Inv.live (inv : s.Inv) (member : msg ∈ (s.task mod).messages)
    (payload : msg.pData = some used) : s.frees used = 0 := by
  have held : 0 < (s.task mod).holds used := countP_pos_iff.mpr ⟨msg, member, decide_eq_true payload⟩
  have total := inv.total used
  have owners := holds_le_holders s mod used
  split at total
  all_goals omega

lemma current_mem {used : Bool} (current : (s.task mod).current = some (msg, used)) :
    msg ∈ (s.task mod).messages := by
  rw [messages, current]
  exact mem_append_right _ mem_cons_self

lemma Inv.handle (inv : s.Inv) (mod) : (s.handle mod).Inv := by
  unfold System.handle
  split
  next msg current =>
    have same : Task.messages { s.task mod with current := some (msg, true) } = (s.task mod).messages := by
      simp only [Task.messages, current]
      rfl
    have marked : (s.setTask mod { s.task mod with current := some (msg, true) }).Inv := by
      apply inv.setTask
      · intro buffer
        rw [Task.holds, same, Task.holds]
      · rw [same]
        exact inv.routed mod
    exact marked.use (buffer mod msg) fun used taken => inv.live (current_mem current) (buffer_mem taken)
  · exact inv

lemma Inv.finish (inv : s.Inv) (mod) : (s.finish mod).Inv := by
  unfold System.finish
  split
  next msg current =>
    have member := current_mem current
    have freed : buffer mod msg = msg.pData := by
      unfold buffer
      cases payload : msg.pData with
      | none => exact ite_self _
      | some used => exact if_pos (inv.routed mod msg member (by rw [payload]; exact nofun))
    have before : (s.task mod).messages = (s.task mod).msgq ++ [msg] := by
      rw [Task.messages, current]
      rfl
    have after : Task.messages { s.task mod with current := none } = (s.task mod).msgq := append_nil _
    rw [freed]
    apply inv.release
    · intro buffer
      rw [Task.holds, Task.holds, before, after, countP_append]
      cases payload : msg.pData with
      | none => simp [payload]
      | some used => simp [payload, count_singleton, countP_singleton]
    · intro queued waiting
      rw [after] at waiting
      exact inv.routed mod queued (by rw [before]; exact mem_append_left _ waiting)
  · exact inv

lemma Inv.register (inv : s.Inv) (mod) : (s.step (.register mod)).Inv := inv.setTask (fun _ => rfl) (inv.routed mod)

lemma Inv.malloc (inv : s.Inv) (sender) (granted : Bool) : (s.step (.malloc sender granted)).Inv := by
  cases granted with
  | false => exact inv
  | true =>
    have fresh := inv.total s.allocated
    rw [if_neg (Nat.lt_irrefl _)] at fresh
    have taken : Inv { s with sending := s.sending ++ [(sender, s.allocated)], allocated := s.allocated + 1 } := by
      refine ⟨?_, inv.ordered, inv.routed⟩
      intro buffer
      have total := inv.total buffer
      have owners : holders { s with sending := s.sending ++ [(sender, s.allocated)], allocated := s.allocated + 1 } buffer =
          s.holders buffer + if s.allocated = buffer then 1 else 0 := by
        simp only [holders, countP_append, countP_singleton, decide_eq_true_eq]
        omega
      refine (congrArg (s.frees buffer + ·) owners).trans ?_
      dsimp only
      by_cases here : s.allocated = buffer
      · subst here
        rw [if_pos rfl, if_pos (Nat.lt_succ_self _)]
        omega
      · rw [if_neg here]
        refine total.trans (if_congr ?_ rfl rfl)
        omega
    exact taken.use (some s.allocated) fun buffer same => by cases same; exact Nat.eq_zero_of_add_eq_zero_right fresh

lemma Inv.post (inv : s.Inv) (dest) : (s.step (.post dest)).Inv := by
  simp only [step, mySendMsgData]
  split
  · apply inv.setTask
    · intro buffer
      rw [holds_enqueue]
      rfl
    · intro msg member payload
      rcases mem_enqueue member with rfl | queued
      · exact absurd rfl payload
      · exact inv.routed dest msg queued payload
  · exact inv

lemma holders_eraseIdx {sender : Sender} (call : s.sending[index]? = some (sender, used)) (buffer : Nat) :
    holders { s with sending := s.sending.eraseIdx index } buffer + (if used = buffer then 1 else 0) = s.holders buffer := by
  obtain ⟨bound, entry⟩ := List.getElem?_eq_some_iff.mp call
  have split := (getElem_cons_eraseIdx_perm bound).countP_eq fun call : Sender × Nat => decide (call.2 = buffer)
  rw [entry, countP_cons] at split
  simp only [holders, decide_eq_true_eq] at split ⊢
  omega

lemma Inv.send (inv : s.Inv)
    (room : ∀ sender buffer, s.sending[index]? = some (sender, buffer) → (s.task sender.dest).HasRoom) :
    (s.step (.send index)).Inv := by
  simp only [step]
  split
  next sender used call =>
    rw [mySendMsgData, if_pos (room sender used call)]
    refine ⟨?_, inv.ordered, ?_⟩
    · intro buffer
      have moved := holders_setTask { s with sending := s.sending.eraseIdx index } sender.dest
        ((s.task sender.dest).enqueue { msgId := sender.msgId, pData := some used }) buffer
      have given := holders_eraseIdx call buffer
      have gained := (s.task sender.dest).holds_enqueue { msgId := sender.msgId, pData := some used } buffer
      simp only [Option.some.injEq] at gained
      refine Eq.trans (congrArg (s.frees buffer + ·) ?_) (inv.total buffer)
      dsimp only at moved ⊢
      omega
    · refine inv.routed_setTask ?_
      intro msg member payload
      rcases mem_enqueue member with rfl | queued
      · exact sender.routed
      · exact inv.routed _ msg queued payload
  · exact inv

lemma Inv.purge (inv : s.Inv) (plain : ∀ msg ∈ (s.task .lte).msgq, msg.pData = none) : (s.step .purge).Inv := by
  apply inv.setTask
  · intro buffer
    have none : (s.task .lte).msgq.countP (·.pData = some buffer) = 0 := by
      apply countP_eq_zero.mpr
      intro msg member payload
      exact nomatch (plain msg member).symm.trans (of_decide_eq_true payload)
    simp only [holds, messages, countP_append, none, countP_nil]
  · intro msg member
    exact inv.routed .lte msg (mem_append_right _ member)

def Conserves (s : System) : Event → Prop
  | .send index => ∀ sender buffer, s.sending[index]? = some (sender, buffer) → (s.task sender.dest).HasRoom
  | .purge => ∀ msg ∈ (s.task .lte).msgq, msg.pData = none
  | _ => True

lemma Inv.step (inv : s.Inv) (conserves : s.Conserves event) : (s.step event).Inv := by
  cases event with
  | malloc sender granted => exact inv.malloc sender granted
  | send index => exact inv.send conserves
  | post dest => exact inv.post dest
  | register mod => exact inv.register mod
  | receive mod => exact inv.receive mod
  | handle mod => exact inv.handle mod
  | finish mod => exact inv.finish mod
  | purge => exact inv.purge conserves

def Task.work (task : Task) : Nat := 3 * task.msgq.length +
    match task.current with
    | none => 0
    | some (_, false) => 2
    | some (_, true) => 1

structure Apart (mod : Module) (s next : System) : Prop where
  others : ∀ other, other ≠ mod → next.task other = s.task other
  sending : next.sending = s.sending
  allocated : next.allocated = s.allocated

lemma Apart.refl (mod s) : Apart mod s s := ⟨fun _ _ => rfl, rfl, rfl⟩

lemma Apart.trans {s middle : System} (first : Apart mod s middle) (last : Apart mod middle next) :
    Apart mod s next :=
  ⟨fun other apart => (last.others other apart).trans (first.others other apart), last.sending.trans first.sending,
    last.allocated.trans first.allocated⟩

lemma apart_setTask (s : System) (mod task ops) : Apart mod s { s.setTask mod task with ops } :=
  ⟨fun _ apart => update_of_ne apart .., rfl, rfl⟩

lemma step_taskEvent (inv : s.Inv) (mod) : (s.step (s.taskEvent mod)).Inv ∧ Apart mod s (s.step (s.taskEvent mod)) ∧
      Task.work ((s.step (s.taskEvent mod)).task mod) ≤ Task.work (s.task mod) - 1 := by
  unfold taskEvent
  split
  next idle =>
    refine ⟨inv.receive mod, ?_⟩
    cases queue : (s.task mod).msgq with
    | nil =>
      simp only [step, receive, idle, queue]
      refine ⟨.refl mod s, ?_⟩
      simp only [Task.work, idle, queue, length_nil]
      omega
    | cons msg rest =>
      simp only [step, receive, idle, queue]
      refine ⟨apart_setTask s mod _ s.ops, ?_⟩
      simp only [setTask, update_self, Task.work, idle, queue, length_cons]
      omega
  next msg current =>
    refine ⟨inv.handle mod, ?_⟩
    simp only [step, handle, current]
    refine ⟨apart_setTask s mod _ _, ?_⟩
    simp only [setTask, update_self, Task.work, current]
    omega
  next msg current =>
    refine ⟨inv.finish mod, ?_⟩
    simp only [step, finish, current]
    refine ⟨apart_setTask s mod _ _, ?_⟩
    simp only [setTask, update_self, Task.work, current]
    omega

lemma runTask_settles {n : Nat} (inv : s.Inv) (mod) (enough : Task.work (s.task mod) ≤ n) :
    (runTask mod n s).Inv ∧ Apart mod s (runTask mod n s) ∧ Task.work ((runTask mod n s).task mod) = 0 := by
  induction n generalizing s with
  | zero => exact ⟨inv, .refl mod s, Nat.le_zero.mp enough⟩
  | succ n ih =>
    obtain ⟨next, apart, less⟩ := step_taskEvent inv mod
    obtain ⟨final, later, none⟩ := ih next (by omega)
    exact ⟨final, apart.trans later, none⟩

lemma Task.messages_of_work (none : work task = 0) : task.messages = [] := by
  unfold work at none
  split at none
  next idle =>
    rw [messages, idle, eq_nil_of_length_eq_zero (by omega : task.msgq.length = 0)]
    rfl
  all_goals omega

lemma Task.work_le (task : Task) : work task ≤ 3 * task.msgq.length + 2 := by
  unfold work
  split
  all_goals omega

lemma settle_tasks (mods) (inv : s.Inv) :
    (settleTasks mods s).Inv ∧ (settleTasks mods s).sending = s.sending ∧ (settleTasks mods s).allocated = s.allocated ∧
      ∀ mod, mod ∈ mods ∨ (s.task mod).messages = [] → ((settleTasks mods s).task mod).messages = [] := by
  induction mods generalizing s with
  | nil => exact ⟨inv, rfl, rfl, fun mod empty => empty.resolve_left not_mem_nil⟩
  | cons first mods ih =>
    obtain ⟨next, apart, none⟩ := runTask_settles inv first (Task.work_le (s.task first))
    obtain ⟨final, sending, allocated, empty⟩ := ih next
    refine ⟨final, sending.trans apart.sending, allocated.trans apart.allocated, ?_⟩
    intro mod settled
    apply empty
    by_cases here : mod = first
    · subst here
      exact .inr (Task.messages_of_work none)
    · rw [apart.others mod here]
      exact settled.imp_left fun member => (mem_cons.mp member).resolve_left here

lemma Inv.settle_frees (inv : s.Inv) (quiet : s.sending = []) {buffer : Nat} (below : buffer < s.allocated) :
    s.settle.frees buffer = 1 := by
  obtain ⟨final, sending, allocated, empty⟩ := settle_tasks Module.all inv
  unfold settle
  have total := final.total buffer
  rw [allocated, if_pos below] at total
  have unowned : (settleTasks Module.all s).holders buffer = 0 := by
    have idle (mod : Module) : ((settleTasks Module.all s).task mod).holds buffer = 0 := by
      rw [holds, empty mod (.inl (by cases mod <;> decide))]
      rfl
    simp only [holders, sending, quiet, idle]
    rfl
  rw [unowned, Nat.add_zero] at total
  exact total

/-- Every buffer allocated has one owner or was freed once; it is not used behind that; and once no call is under way,
the tasks' loops free all that are left. -/
structure Owned (s : System) : Prop where
  once : ∀ buffer < s.allocated, s.frees buffer + s.holders buffer = 1
  ordered : s.ops.Pairwise fun earlier later => ∀ buffer, earlier = .free buffer → later ≠ .use buffer
  settles : s.sending = [] → ∀ buffer < s.allocated, s.settle.frees buffer = 1

lemma Inv.owned (inv : s.Inv) : s.Owned where
  once buffer below := (inv.total buffer).trans (if_pos below)
  ordered := inv.ordered
  settles quiet _ below := inv.settle_frees quiet below

lemma Inv.lost (inv : s.Inv) (owned : next.Owned) (allocated : next.allocated = s.allocated)
    (ops : next.ops = s.ops) (buffer : Nat) (less : next.holders buffer < s.holders buffer) : False := by
  have total := inv.total buffer
  have freed : next.frees buffer = s.frees buffer := by rw [frees, ops, frees]
  split at total
  next below =>
    have once := owned.once buffer (allocated ▸ below)
    omega
  · omega

lemma Owned.conserves (inv : s.Inv) (owned : (s.step event).Owned) : s.Conserves event := by
  cases event with
  | send index =>
    intro sender used call
    by_contra full
    have dropped : s.step (.send index) = { s with sending := s.sending.eraseIdx index } := by
      simp only [step, call, mySendMsgData]
      exact if_neg full
    rw [dropped] at owned
    have given := holders_eraseIdx call used
    rw [if_pos rfl] at given
    exact inv.lost owned rfl rfl used (by omega)
  | purge =>
    intro msg member
    cases payload : msg.pData with
    | none => rfl
    | some used =>
      have counted : 0 < (s.task .lte).msgq.countP (·.pData = some used) :=
        countP_pos_iff.mpr ⟨msg, member, decide_eq_true payload⟩
      have moved := holders_setTask s .lte { s.task .lte with msgq := [] } used
      simp only [holds, messages, countP_append, countP_nil] at moved
      exact (inv.lost owned rfl rfl used (by simp only [step]; omega)).elim
  | malloc sender granted | post dest | register mod | receive mod | handle mod | finish mod => trivial

theorem payloads_owned_iff (events : List Event) : Always step Owned start events ↔ Along step Conserves start events :=
  always_iff_along Inv (fun _ inv => inv.owned) (fun _ _ inv conserves => inv.step conserves)
    (fun _ _ inv owned => owned.conserves inv) start_inv

def fullLteQueue : List Event :=
  .register .lte :: List.replicate 10 (.post .lte) ++ [.malloc .lteSendCommand true, .send 0]

theorem full_queue_leaks :
    ¬ Always step Owned start fullLteQueue ∧ (fullLteQueue.foldl step start).settle.frees 0 = 0 := by
  constructor
  · intro always
    have owned := always fullLteQueue.length
    rw [take_length] at owned
    have once := owned.once 0 (by decide +kernel)
    exact absurd once (by decide +kernel)
  · decide +kernel

end System

end LL320D.Messages

namespace LL320D.QueryReply
open Library List

variable {Id : Type}

def Ctrl.asked : Ctrl Id → List (Asked Id)
  | .waiting => []
  | .reading asked => [asked]
  | .checking asked => [asked]
  | .clearing asked => [asked]
  | .replying asked => [asked]

/-- Before the control thread has looked at `g_lte_cmdSource`. -/
def Ctrl.early : Ctrl Id → Bool
  | .clearing _ | .replying _ => false
  | _ => true

/-- The query of an LTE command that is about to be passed on. -/
def Ble.query : Ble Id → Option Query
  | .marked _ command => command
  | _ => none

def Ble.id : Ble Id → Option Id
  | .named id _ | .marked id _ => some id
  | _ => none

lemma Ble.named_of_query {ble : Ble Id} (asks : ble.query ≠ none) : ∃ id, ble.id = some id := by
  cases ble with
  | marked id command => exact ⟨id, rfl⟩
  | _ => exact absurd rfl asks

namespace System

def pending (s : System Id) : List (Asked Id) := s.ctrl.asked ++ s.msgq.reduceOption

structure Answered (s : System Id) : Prop where
  once : s.accepted = s.answers.map Prod.fst ++ s.pending
  routed : ∀ answer ∈ s.answers, answer.2 = answer.1.source.reply

/-- An LTE command is handled when no query is pending, and a Bluetooth query while `g_lte_cmdSource` is clear; the timer
does not fire while an LTE query waits for the flag to be read. There is room for queries and answers, and a pressure or
temperature read succeeds. -/
def Undisturbed (s : System Id) : Event Id → Prop
  | .bleCmd (some _) => s.ble = .idle → s.hasRoom = true ∧ s.lteCmdSource = false
  | .lteCmd _ _ | .lteBare _ => s.ble = .idle → s.pending = []
  | .dispatch => s.ble.query ≠ none → s.hasRoom = true
  | .timer => s.timer = true → s.ble.query = none ∧ (s.ctrl.early = true → ∀ asked ∈ s.pending, asked.source = .ble)
  | .read value _ => ∀ asked ∈ s.ctrl.asked, s.ctrl = .reading asked → asked.query = .status ∨ 0 ≤ value
  | .check sent => ∀ asked ∈ s.ctrl.asked, s.ctrl = .checking asked → asked.source = .ble → sent = true
  | .reply sent => ∀ asked ∈ s.ctrl.asked, s.ctrl = .replying asked → sent = true
  | _ => True

instance [DecidableEq Id] (s : System Id) (event : Event Id) : Decidable (s.Undisturbed event) := by
  unfold Undisturbed
  split <;> infer_instance

/-- At most the first query that is pending came from LTE. Its id is in `g_id`, and the flag is set until the control thread
reads it; for the others the flag is clear. -/
structure Serial (s : System Id) : Prop where
  answered : s.Answered
  first : ∀ asked ∈ s.pending.head?, (asked.source = .ble ∧ s.lteCmdSource = false) ∨
    asked.source = .lte s.id ∧ (s.ctrl.early = true → s.lteCmdSource = true)
  others : ∀ asked ∈ s.pending.tail, asked.source = .ble ∧ s.lteCmdSource = false
  late : s.ctrl.early = false → ∀ asked ∈ s.ctrl.asked, asked.source = .lte s.id
  named : ∀ id ∈ s.ble.id, s.pending = [] ∧ s.id = id
  marked : s.ble.query ≠ none → s.lteCmdSource = true

variable {s : System Id} {rest : List (Option (Asked Id))} {source : Source Id} {asked : Asked Id}

lemma start_serial (id : Id) : (start id).Serial :=
  ⟨⟨rfl, nofun⟩, nofun, nofun, nofun, nofun, fun asks => absurd rfl asks⟩

lemma answered_congr {after : System Id} (answered : s.Answered) (accepted : after.accepted = s.accepted)
    (answers : after.answers = s.answers) (pending : after.pending = s.pending) : after.Answered := by
  refine ⟨?_, fun answer member => ?_⟩
  · rw [accepted, answers, pending]
    exact answered.once
  · rw [answers] at member
    exact answered.routed answer member

lemma pending_snoc (s : System Id) (asked : Asked Id) :
    pending { s with msgq := s.msgq ++ [some asked] } = s.pending ++ [asked] := by
  simp only [pending, reduceOption_append, append_assoc]
  rfl

lemma pending_accept (room : s.hasRoom = true) (source query) :
    (s.atRecvCmdHandler source (some query)).pending = s.pending ++ [⟨query, source⟩] := by
  simp only [atRecvCmdHandler, mySendMsg, if_pos room]
  exact pending_snoc s ⟨query, source⟩

lemma pending_ctrl (s : System Id) (ctrl : Ctrl Id) (asks : ctrl.asked = s.ctrl.asked) :
    pending { s with ctrl } = s.pending := congrArg (· ++ s.msgq.reduceOption) asks

lemma reduceOption_post (msgq : List (Option (Asked Id))) : (msgq ++ [none]).reduceOption = msgq.reduceOption := by
  rw [reduceOption_append]
  exact append_nil _

lemma pending_post (s : System Id) : pending { s with msgq := s.msgq ++ [none] } = s.pending :=
  congrArg (s.ctrl.asked ++ ·) (reduceOption_post s.msgq)

lemma pending_takes (waiting : s.ctrl = .waiting)
    (queued : s.msgq = some asked :: rest) : pending { s with ctrl := .reading asked, msgq := rest } = s.pending := by
  simp only [pending, waiting, queued, reduceOption_cons_of_some]
  rfl

lemma pending_skips (queued : s.msgq = none :: rest) : pending { s with msgq := rest } = s.pending := by
  simp only [pending, queued, reduceOption_cons_of_none]

lemma answered_accept (answered : s.Answered) (source query) :
    (s.atRecvCmdHandler source (some query)).Answered ↔ s.hasRoom = true := by
  simp only [atRecvCmdHandler, mySendMsg]
  constructor
  · intro after
    by_contra full
    rw [if_neg full] at after
    have lost : s.accepted ++ [⟨query, source⟩] = s.answers.map Prod.fst ++ s.pending := after.once
    rw [← answered.once] at lost
    have length := congrArg List.length lost
    rw [length_append] at length
    exact absurd length (Nat.succ_ne_self _)
  · intro room
    rw [if_pos room]
    refine ⟨?_, answered.routed⟩
    have once := congrArg (· ++ [(⟨query, source⟩ : Asked Id)]) answered.once
    refine once.trans ((append_assoc _ _ _).trans (congrArg (s.answers.map Prod.fst ++ ·) ?_))
    exact (pending_snoc s _).symm

lemma answered_answer (answered : s.Answered) (stands : s.ctrl.asked = [asked]) (reply)
    (sent) : (s.answer asked reply sent).Answered ↔ reply = asked.source.reply ∧ sent = true := by
  have once : s.accepted = s.answers.map Prod.fst ++ (asked :: s.msgq.reduceOption) := by
    have once := answered.once
    rw [pending, stands] at once
    exact once
  cases sent with
  | false =>
    refine iff_of_false (fun after => ?_) nofun
    have lost : s.accepted = s.answers.map Prod.fst ++ s.msgq.reduceOption := after.once
    have length := congrArg List.length (append_cancel_left (once.symm.trans lost))
    exact absurd length (Nat.succ_ne_self _)
  | true =>
    constructor
    · intro after
      have member : (asked, reply) ∈ s.answers ++ [(asked, reply)] := mem_append_right _ mem_cons_self
      exact ⟨after.routed _ member, rfl⟩
    · rintro ⟨right, -⟩
      refine ⟨?_, fun answer member => ?_⟩
      · refine once.trans ?_
        simp only [answer, if_true, map_append, append_assoc]
        rfl
      · rcases mem_append.mp member with earlier | last
        · exact answered.routed answer earlier
        · rw [mem_singleton.mp last]
          exact right

lemma queryRead_eq (value query) :
    queryRead false value query = if query = .status ∨ 0 ≤ value then .bySource else .returnMcu := by
  cases query with
  | patm | temp =>
    by_cases fails : value < 0
    · simp [queryRead, sensorRead, fails, Int.not_le.mpr fails]
    · simp [queryRead, sensorRead, fails, Int.not_lt.mp fails]
  | status => rfl

lemma source_reply_eq_ble : Reply.ble = source.reply ↔ source = .ble := by
  cases source <;> simp [Source.reply]

lemma source_reply_eq_lte {id : Id} : Reply.lte id = source.reply ↔ source = .lte id := by
  cases source <;> simp [Source.reply, eq_comm]

lemma serial_of_free (answered : s.Answered) (free : s.pending = []) (named : ∀ id ∈ s.ble.id, s.id = id)
    (marked : s.ble.query ≠ none → s.lteCmdSource = true) : s.Serial := by
  refine ⟨answered, ?_, ?_, fun _ => ?_, fun id names => ⟨free, named id names⟩, marked⟩
  · rw [free]
    rintro _ ⟨⟩
  · rw [free]
    rintro _ ⟨⟩
  · rw [(append_eq_nil_iff.mp free).1]
    rintro _ ⟨⟩

section

variable (serial : s.Serial)
include serial

/-- A step that leaves queries, answers and the flag as they are. -/
lemma Serial.congr {after : System Id} (accepted : after.accepted = s.accepted) (answers : after.answers = s.answers)
    (pending : after.pending = s.pending) (flag : after.lteCmdSource = s.lteCmdSource) (id : after.id = s.id)
    (early : after.ctrl.early = s.ctrl.early) (asked : after.ctrl.early = false → after.ctrl.asked = s.ctrl.asked)
    (ble : after.ble = s.ble) : after.Serial where
  answered := answered_congr serial.answered accepted answers pending
  first := by
    rw [pending, flag, id, early]
    exact serial.first
  others := by
    rw [pending, flag]
    exact serial.others
  late late := by
    rw [asked late, id]
    exact serial.late (early ▸ late)
  named := by
    rw [pending, id, ble]
    exact serial.named
  marked := by
    rw [flag, ble]
    exact serial.marked

/-- The answer goes to the first query that is pending. -/
lemma Serial.answer (stands : s.ctrl.asked = [asked]) {reply : Reply Id} (right : reply = asked.source.reply) :
    (s.answer asked reply true).Serial := by
  have pending : s.pending = asked :: s.msgq.reduceOption := by rw [System.pending, stands]; rfl
  have rest : (s.answer asked reply true).pending = s.msgq.reduceOption := rfl
  have others := serial.others
  rw [pending, tail_cons] at others
  refine ⟨(answered_answer serial.answered stands reply true).mpr ⟨right, rfl⟩, ?_, ?_, by rintro ⟨⟩, ?_, serial.marked⟩
  · rw [rest]
    exact fun next first => .inl (others next (mem_of_mem_head? first))
  · rw [rest]
    exact fun next later => others next (mem_of_mem_tail later)
  · intro id named
    have none := (serial.named id named).1
    rw [pending] at none
    cases none

lemma Serial.accepts (query) (room : s.hasRoom = true) (clear : s.lteCmdSource = false) (idle : s.ble = .idle) :
    (s.atRecvCmdHandler .ble (some query)).Serial := by
  have answered := (answered_accept serial.answered .ble query).mpr room
  have pending := pending_accept room .ble query
  have kept : (s.atRecvCmdHandler .ble (some query)).lteCmdSource = false ∧
      (s.atRecvCmdHandler .ble (some query)).id = s.id ∧ (s.atRecvCmdHandler .ble (some query)).ctrl = s.ctrl ∧
      (s.atRecvCmdHandler .ble (some query)).ble = .idle := by
    rw [atRecvCmdHandler, mySendMsg, if_pos room]
    exact ⟨clear, rfl, rfl, idle⟩
  obtain ⟨flag, id, ctrl, ble⟩ := kept
  have first := serial.first
  have others := serial.others
  refine ⟨answered, ?_, ?_, ?_, ?_, ?_⟩
  · rw [pending, flag, id, ctrl]
    rw [clear] at first
    cases waiting : s.pending with
    | nil => simp
    | cons head rest =>
      rw [waiting] at first
      exact first
  · rw [pending, flag]
    cases waiting : s.pending with
    | nil => rintro _ ⟨⟩
    | cons head rest =>
      rw [waiting] at others
      intro asked later
      rcases mem_append.mp later with earlier | last
      · exact ⟨(others asked earlier).1, rfl⟩
      · obtain rfl := mem_singleton.mp last
        exact ⟨rfl, rfl⟩
  · rw [ctrl, id]
    exact serial.late
  · rw [ble]
    rintro _ ⟨⟩
  · rw [ble]
    exact fun asks => absurd rfl asks

lemma Serial.bleCmd (command) (undisturbed : s.Undisturbed (.bleCmd command)) : (s.step (.bleCmd command)).Serial := by
  simp only [step]
  split
  next idle =>
    cases command with
    | none => exact serial
    | some query =>
      obtain ⟨room, clear⟩ := undisturbed idle
      exact serial.accepts query room clear idle
  next => exact serial

lemma Serial.dispatch (undisturbed : s.Undisturbed .dispatch) : (s.step .dispatch).Serial := by
  simp only [step]
  split
  next id command marked =>
    obtain ⟨none, same⟩ := serial.named id (by rw [marked]; rfl)
    cases command with
    | none =>
      exact ⟨answered_congr serial.answered rfl rfl rfl, serial.first, serial.others, serial.late, by rintro _ ⟨⟩,
        fun query => absurd rfl query⟩
    | some query =>
      have asks : s.ble.query ≠ .none := by
        rw [marked]
        rintro ⟨⟩
      have room := undisturbed asks
      have answered := (answered_accept serial.answered (.lte id) query).mpr room
      have list : pending { s.atRecvCmdHandler (.lte id) (some query) with ble := .dispatched } = [⟨query, .lte id⟩] :=
        (pending_accept room (.lte id) query).trans (by rw [none]; rfl)
      simp only [atRecvCmdHandler, mySendMsg, if_pos room] at answered list ⊢
      refine ⟨answered_congr answered rfl rfl rfl, ?_, ?_, serial.late, by rintro _ ⟨⟩, fun query => absurd rfl query⟩
      · rw [list]
        rintro _ ⟨⟩
        exact .inr ⟨congrArg _ same.symm, fun _ => serial.marked asks⟩
      · rw [list]
        rintro _ ⟨⟩
  next => exact serial

lemma Serial.timer (undisturbed : s.Undisturbed .timer) : (s.step .timer).Serial := by
  simp only [step]
  split
  next runs =>
    obtain ⟨quiet, free⟩ := undisturbed runs
    refine ⟨answered_congr serial.answered rfl rfl rfl, fun asked first => ?_, fun asked later => ?_, serial.late,
      serial.named, fun query => absurd quiet query⟩
    · rcases serial.first asked first with ⟨ble, -⟩ | ⟨lte, -⟩
      · exact .inl ⟨ble, rfl⟩
      · refine .inr ⟨lte, fun early => ?_⟩
        cases lte.symm.trans (free early asked (mem_of_mem_head? first))
    · exact ⟨(serial.others asked later).1, rfl⟩
  next => exact serial

lemma Serial.read (value sent) (undisturbed : s.Undisturbed (.read value sent)) : (s.step (.read value sent)).Serial := by
  simp only [step, queryRead_eq]
  split
  next asked reading =>
    have asks : s.ctrl.asked = [asked] := by rw [reading]; rfl
    have succeeds := undisturbed asked (by rw [asks]; exact mem_cons_self) reading
    simp only [succeeds, if_true]
    exact serial.congr rfl rfl (pending_ctrl s _ asks.symm) rfl rfl (by rw [reading]; rfl) (by rintro ⟨⟩) rfl
  next => exact serial

lemma Serial.heads (stands : s.ctrl.asked = [asked]) : (asked.source = .ble ∧ s.lteCmdSource = false) ∨
    asked.source = .lte s.id ∧ (s.ctrl.early = true → s.lteCmdSource = true) := by
  refine serial.first asked ?_
  rw [pending, stands]
  rfl

lemma Serial.check (sent) (undisturbed : s.Undisturbed (.check sent)) : (s.step (.check sent)).Serial := by
  simp only [step]
  split
  next asked checking =>
    have asks : s.ctrl.asked = [asked] := by rw [checking]; rfl
    have early : s.ctrl.early = true := by rw [checking]; rfl
    rcases serial.heads asks with ⟨ble, clear⟩ | ⟨lte, set⟩
    · obtain rfl := undisturbed asked (by rw [asks]; exact mem_cons_self) checking ble
      rw [clear]
      exact serial.answer asks (source_reply_eq_ble.mpr ble)
    · rw [if_pos (set early)]
      have pending := pending_ctrl s (.clearing asked) asks.symm
      refine ⟨answered_congr serial.answered rfl rfl pending, ?_, ?_, fun _ => ?_, ?_, serial.marked⟩
      · rw [pending]
        intro next first
        exact (serial.first next first).imp_right fun lte => ⟨lte.1, by rintro ⟨⟩⟩
      · rw [pending]
        exact serial.others
      · exact forall_mem_singleton.mpr lte
      · rw [pending]
        exact serial.named
  next => exact serial

lemma Serial.reply (sent) (undisturbed : s.Undisturbed (.reply sent)) : (s.step (.reply sent)).Serial := by
  simp only [step]
  split
  next asked replying =>
    have asks : s.ctrl.asked = [asked] := by rw [replying]; rfl
    have member : asked ∈ s.ctrl.asked := by rw [asks]; exact mem_cons_self
    obtain rfl := undisturbed asked member replying
    exact serial.answer asks (source_reply_eq_lte.mpr (serial.late (by rw [replying]; rfl) asked member))
  next => exact serial

lemma Serial.clearSource : (s.step .clearSource).Serial := by
  simp only [step]
  split
  next asked clearing =>
    have asks : s.ctrl.asked = [asked] := by rw [clearing]; rfl
    have pending := pending_ctrl s (.replying asked) asks.symm
    have lte := serial.late (by rw [clearing]; rfl)
    refine ⟨answered_congr serial.answered rfl rfl pending, fun next first => ?_, fun next later => ?_, fun _ => ?_, ?_,
      fun query => ?_⟩
    · have first : next ∈ s.pending.head? := pending ▸ first
      exact (serial.first next first).imp (fun ble => ⟨ble.1, rfl⟩) fun lte => ⟨lte.1, by rintro ⟨⟩⟩
    · have later : next ∈ s.pending.tail := pending ▸ later
      exact ⟨(serial.others next later).1, rfl⟩
    · rw [asks] at lte
      exact lte
    · intro id named
      exact ⟨pending.trans (serial.named id named).1, (serial.named id named).2⟩
    · obtain ⟨id, named⟩ := Ble.named_of_query query
      have none := (serial.named id named).1
      rw [System.pending, asks] at none
      cases none
  next => exact serial

lemma Serial.step (event) (undisturbed : s.Undisturbed event) : (s.step event).Serial := by
  cases event with
  | bleCmd command => exact serial.bleCmd command undisturbed
  | dispatch => exact serial.dispatch undisturbed
  | timer => exact serial.timer undisturbed
  | read value sent => exact serial.read value sent undisturbed
  | check sent => exact serial.check sent undisturbed
  | clearSource => exact serial.clearSource
  | reply sent => exact serial.reply sent undisturbed
  | lteCmd id command =>
    simp only [System.step]
    split
    next idle =>
      refine serial_of_free (answered_congr serial.answered rfl rfl rfl) (undisturbed idle) ?_ fun asks => absurd rfl asks
      rintro _ ⟨⟩
      rfl
    next => exact serial
  | lteBare id =>
    simp only [System.step]
    split
    next idle =>
      refine serial_of_free (answered_congr serial.answered rfl rfl rfl) (undisturbed idle) ?_ ?_
      · rw [idle]
        rintro _ ⟨⟩
      · rw [idle]
        exact fun asks => absurd rfl asks
    next => exact serial
  | setSource =>
    simp only [System.step]
    split
    next id command named =>
      obtain ⟨free, same⟩ := serial.named id (by rw [named]; rfl)
      refine serial_of_free (answered_congr serial.answered rfl rfl rfl) free ?_ fun _ => rfl
      rintro _ ⟨⟩
      exact same
    next => exact serial
  | startTimer =>
    simp only [System.step]
    split
    · exact ⟨answered_congr serial.answered rfl rfl rfl, serial.first, serial.others, serial.late, by rintro _ ⟨⟩,
        fun asks => absurd rfl asks⟩
    · exact serial
  | post =>
    simp only [System.step, mySendMsg]
    split
    · exact serial.congr rfl rfl (pending_post s) rfl rfl rfl (fun _ => rfl) rfl
    · exact serial
  | receive =>
    simp only [System.step]
    split
    next asked rest waiting queued =>
      exact serial.congr rfl rfl (pending_takes waiting queued) rfl rfl (by rw [waiting]; rfl) (by rintro ⟨⟩) rfl
    next rest waiting queued => exact serial.congr rfl rfl (pending_skips queued) rfl rfl rfl (fun _ => rfl) rfl
    next => exact serial

end

end System

end LL320D.QueryReply

namespace LL320D.SampleHandover
open Library List

/-- The control thread is at a sample in `sensor_sample_send_to_ble`. -/
inductive Ctrl.Holds (kind : Kind) (record : Sample kind) : Ctrl → Prop where
  | copying : Ctrl.Holds kind record (.copying kind record)
  | copied : Ctrl.Holds kind record (.copied kind record)

def Ctrl.sends : Ctrl → Bool
  | .copied _ _ => true
  | _ => false

def Ble.kind : Ble → Option Kind
  | .waiting => none
  | .received kind => some kind
  | .formatting kind _ => some kind
  | .pushing kind _ => some kind

inductive Ble.Reads (kind : Kind) (copy : Copy (Sample kind) Field) : Ble → Prop where
  | formatting : Ble.Reads kind copy (.formatting kind copy)
  | pushing : Ble.Reads kind copy (.pushing kind copy)

lemma Ble.Reads.kind_eq {ble : Ble} {kind} {copy} (reads : ble.Reads kind copy) : ble.kind = some kind := by
  cases reads <;> rfl

def Msg.kind : Msg → Option Kind
  | .sample kind => some kind
  | .other => none

namespace System

def inFlight (s : System) : List Kind := s.ble.kind.toList ++ s.msgq.filterMap Msg.kind

def unprocessed (s : System) : List AnySample := s.sent.drop s.processed.length

/-- The samples processed are the samples sent, in order and each once, up to those whose message is queued or being
handled. -/
structure HandedOver (s : System) : Prop where
  inOrder : s.processed <+: s.sent
  missing : s.unprocessed.map Sigma.fst = s.inFlight
  whole : s.inFlight = [] → s.processed = s.sent

def Fits (s : System) : Event → Prop
  | .send => s.ctrl.sends = true → s.hasRoom = true
  | _ => True

def Careful (s : System) : Event → Prop
  | .collect kind record => ∀ other, ⟨kind, other⟩ ∈ s.unprocessed → other = record
  | _ => True

structure Sound (s : System) : Prop where
  sent : s.sent = s.processed ++ s.inFlight.map fun kind => ⟨kind, s.global kind⟩
  holds : ∀ kind record, s.ctrl.Holds kind record → kind ∈ s.inFlight → record = s.global kind
  copied : ∀ kind record, s.ctrl = .copied kind record → s.global kind = record
  reads : ∀ kind copy, s.ble.Reads kind copy → copy.Of (s.global kind)

lemma initial_sound : initial.Sound := ⟨rfl, nofun, nofun, nofun⟩

variable {s : System} {kind : Kind}

lemma Sound.unprocessed (sound : s.Sound) : s.unprocessed = s.inFlight.map fun kind => ⟨kind, s.global kind⟩ := by
  rw [System.unprocessed, sound.sent, drop_left]

lemma Sound.handedOver (sound : s.Sound) : s.HandedOver := by
  refine ⟨⟨_, sound.sent.symm⟩, ?_, fun none => ?_⟩
  · rw [sound.unprocessed, map_map]
    exact map_id _
  · rw [sound.sent, none]
    exact (append_nil _).symm

lemma mem_inFlight (handles : s.ble.kind = some kind) : kind ∈ s.inFlight := by
  rw [inFlight, handles]
  exact mem_cons_self

lemma update_global {value} (same : kind ∈ s.inFlight → value = s.global kind) {other}
    (pending : other ∈ s.inFlight) : Function.update s.global kind value other = s.global other := by
  by_cases here : other = kind
  · subst here
    rw [Function.update_self]
    exact same pending
  · exact Function.update_of_ne here value s.global

section

variable (sound : s.Sound) (mask : Field → Bool) {ble : Ble}
include sound

lemma Sound.copies {value} (same : kind ∈ s.inFlight → value = s.global kind)
    {ctrl : Ctrl} (holds : ∀ kind record, ctrl.Holds kind record → s.ctrl.Holds kind record)
    (copied : ∀ other record, ctrl = .copied other record → Function.update s.global kind value other = record) :
    Sound { s with global := Function.update s.global kind value, ctrl := ctrl } := by
  refine ⟨?_, fun other record held pending => ?_, copied, fun other copy reads => ?_⟩
  · refine sound.sent.trans (congrArg (s.processed ++ ·) (map_congr_left fun other pending => ?_))
    dsimp only
    rw [update_global same pending]
  · exact (sound.holds other record (holds other record held) pending).trans (update_global same pending).symm
  · change copy.Of (Function.update s.global kind value other)
    rw [update_global same (mem_inFlight reads.kind_eq)]
    exact sound.reads other copy reads

lemma Sound.collect {record} (careful : s.Careful (.collect kind record)) :
    (s.step (.collect kind record)).Sound := by
  simp only [step]
  split
  next =>
    refine ⟨sound.sent, fun other value holds pending => ?_, nofun, sound.reads⟩
    cases holds
    have member : ⟨kind, s.global kind⟩ ∈ s.unprocessed := by
      rw [sound.unprocessed]
      exact mem_map_of_mem pending
    exact (careful _ member).symm
  next => exact sound

lemma Sound.memcpy : (s.step (.memcpy mask)).Sound := by
  simp only [step]
  split
  next kind record copying =>
    have holds : s.ctrl.Holds kind record := copying ▸ .copying
    refine sound.copies (fun pending => ?_) (fun _ _ => id) (fun other value copied => ?_)
    · rw [sound.holds kind record holds pending]
      exact Parts.mix_self mask _
    · cases copying.symm.trans copied
  next => exact sound

lemma Sound.copied_step : (s.step .copied).Sound := by
  simp only [step]
  split
  next kind record copying =>
    have holds : s.ctrl.Holds kind record := copying ▸ .copying
    refine sound.copies (sound.holds kind record holds) (fun other value held => ?_) (fun other value copied => ?_)
    · cases held
      exact holds
    · cases copied
      exact Function.update_self kind record s.global
  next => exact sound

lemma Sound.send (fits : s.Fits .send) : (s.step .send).Sound := by
  simp only [step]
  split
  next kind record copied =>
    have room : s.hasRoom = true := fits (by rw [copied]; rfl)
    have global := sound.copied kind record copied
    rw [mySendMsg, if_pos room]
    refine ⟨?_, nofun, nofun, sound.reads⟩
    have queued : s.ble.kind.toList ++ (s.msgq ++ [Msg.sample kind]).filterMap Msg.kind = s.inFlight ++ [kind] := by
      rw [inFlight, filterMap_append, append_assoc]
      rfl
    change s.sent ++ [⟨kind, record⟩] = s.processed ++ List.map _ (s.ble.kind.toList ++ _)
    rw [queued, map_append, ← append_assoc, ← sound.sent, ← global]
    rfl
  next => exact sound

lemma Sound.frame {msgq} (same : inFlight { s with msgq := msgq, ble := ble } = s.inFlight)
    (reads : ∀ kind copy, ble.Reads kind copy → copy.Of (s.global kind)) : Sound { s with msgq := msgq, ble := ble } := by
  refine ⟨?_, fun kind record holds pending => ?_, sound.copied, reads⟩
  · rw [same]
    exact sound.sent
  · rw [same] at pending
    exact sound.holds kind record holds pending

lemma Sound.post : (s.step .post).Sound := by
  simp only [step, mySendMsg]
  split
  next =>
    refine sound.frame ?_ sound.reads
    simp only [inFlight, filterMap_append]
    exact congrArg _ (append_nil _)
  next => exact sound

lemma Sound.receive : (s.step .receive).Sound := by
  simp only [step]
  split
  next kind rest waiting queued =>
    refine sound.frame ?_ nofun
    simp only [inFlight, waiting, queued]
    rfl
  next rest waiting queued =>
    refine sound.frame ?_ sound.reads
    simp only [inFlight, queued]
    rfl
  next => exact sound

lemma Sound.handles (same : ble.kind = s.ble.kind)
    (reads : ∀ kind copy, ble.Reads kind copy → copy.Of (s.global kind)) : Sound { s with ble := ble } := by
  refine sound.frame ?_ reads
  simp only [inFlight, same]

lemma Sound.start (lteReady : Bool) : (s.step (.start lteReady)).Sound := by
  simp only [step]
  split
  next kind received =>
    refine sound.handles ?_ (fun other copy reads => ?_)
    · rw [received]
      cases lteReady <;> rfl
    · cases lteReady with
      | false | true =>
        cases reads
        exact Copy.blank_of default
  next => exact sound

lemma Sound.read : (s.step (.read mask)).Sound := by
  simp only [step]
  split
  next kind text formatting =>
    have of := sound.reads kind text (formatting ▸ .formatting)
    refine sound.handles (by rw [formatting]; rfl) (fun other copy reads => ?_)
    cases reads
    exact of.read mask
  next kind record pushing =>
    have of := sound.reads kind record (pushing ▸ .pushing)
    refine sound.handles (by rw [pushing]; rfl) (fun other copy reads => ?_)
    cases reads
    exact of.read mask
  next => exact sound

end

lemma inFlight_handled (handles : s.ble.kind = some kind) (sample : Sample kind) :
    s.inFlight = kind :: (s.done kind sample).inFlight := by
  simp only [inFlight, handles]
  rfl

lemma Sound.done (sound : s.Sound) {copy : Copy (Sample kind) Field} (reads : s.ble.Reads kind copy)
    (complete : copy.Complete) : (s.done kind copy.value).Sound := by
  have value := (sound.reads kind copy reads).complete complete
  have flight := inFlight_handled reads.kind_eq copy.value
  refine ⟨?_, fun other record holds pending => ?_, sound.copied, nofun⟩
  · have sent := sound.sent
    rw [flight, map_cons, ← value] at sent
    refine sent.trans ?_
    simp only [System.done, append_assoc]
    rfl
  · refine sound.holds other record holds ?_
    rw [flight]
    exact mem_cons_of_mem _ pending

lemma Sound.upload (sound : s.Sound) (succeeds : Bool) : (s.step (.upload succeeds)).Sound := by
  simp only [step]
  split
  next kind text formatting =>
    split
    next complete =>
      split
      next => exact sound.done (formatting ▸ .formatting) complete
      next =>
        refine sound.handles (by rw [formatting]; rfl) (fun other copy reads => ?_)
        cases reads
        exact Copy.blank_of default
    next => exact sound
  next => exact sound

lemma Sound.push (sound : s.Sound) : (s.step .push).Sound := by
  simp only [step]
  split
  next kind record pushing =>
    split
    next complete => exact sound.done (pushing ▸ .pushing) complete
    next => exact sound
  next => exact sound

lemma Sound.step (sound : s.Sound) {event} (fits : s.Fits event) (careful : s.Careful event) :
    (s.step event).Sound := by
  cases event with
  | collect kind record => exact sound.collect careful
  | memcpy mask => exact sound.memcpy mask
  | copied => exact sound.copied_step
  | send => exact sound.send fits
  | post => exact sound.post
  | receive => exact sound.receive
  | start lteReady => exact sound.start lteReady
  | read mask => exact sound.read mask
  | upload succeeds => exact sound.upload succeeds
  | push => exact sound.push

/-- In every interleaving in which the messages find room and no sample is copied over a different one that is still to
be processed, the samples are handed over in every state. -/
theorem samples_handed_over (events : List Event)
    (along : Along System.step (fun s event => s.Fits event ∧ s.Careful event) initial events) :
    Always System.step HandedOver initial events := by
  have sound := along.always Sound (fun s event sound guards => sound.step guards.1 guards.2) initial_sound
  exact fun n => (sound n).handedOver

def collection (record : FsBarometerRecord) : List Event := [.collect .bp record, .copied, .send]

def handling : List Event := [.receive, .start false, .read fun _ => true, .push]

theorem one_sample_handed_over :
    Along System.step (fun s event => s.Fits event ∧ s.Careful event) initial (collection ⟨1, 100⟩ ++ handling) ∧
      Always System.step HandedOver initial (collection ⟨1, 100⟩ ++ handling) := by
  have along : Along System.step (fun s event => s.Fits event ∧ s.Careful event) initial
      (collection ⟨1, 100⟩ ++ handling) := by
    exact ⟨⟨trivial, nofun⟩, ⟨trivial, trivial⟩, ⟨fun _ => rfl, trivial⟩, ⟨trivial, trivial⟩, ⟨trivial, trivial⟩,
      ⟨trivial, trivial⟩, ⟨trivial, trivial⟩, trivial⟩
  exact ⟨along, samples_handed_over _ along⟩

/-- Two collections before the BLE thread handles the first message: the second sample is processed twice. -/
theorem second_sample_processed_twice :
    let s := (collection ⟨1, 100⟩ ++ collection ⟨2, 200⟩ ++ handling ++ handling).foldl System.step initial
    s.sent = [⟨.bp, ⟨1, 100⟩⟩, ⟨.bp, ⟨2, 200⟩⟩] ∧ s.processed = [⟨.bp, ⟨2, 200⟩⟩, ⟨.bp, ⟨2, 200⟩⟩] ∧ s.inFlight = [] := by
  decide

end System

end LL320D.SampleHandover
