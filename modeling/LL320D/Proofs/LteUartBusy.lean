import LL320D.LteUart

/-! Transmission to the LTE module: the order of the queue is kept, and the permit of `s_TxDoneSem` has one owner. -/

namespace LL320D.LteQueue
open Library List

namespace MsgQueue

structure Holds (q : MsgQueue) (list : List Msg) : Prop where
  head : q.head < lteMsgQueueSize
  tail : q.tail = (q.head + q.count) % lteMsgQueueSize
  bound : q.count ≤ lteMsgQueueSize
  cells : window q.queue lteMsgQueueSize q.head q.count = list.map some

variable {q : MsgQueue} {list : List Msg}

lemma empty_holds : empty.Holds [] := ⟨by decide, rfl, by decide, rfl⟩

lemma Holds.pending (holds : q.Holds list) : q.pending = list := by
  unfold MsgQueue.pending
  rw [holds.cells, filterMap_map]
  exact filterMap_some

lemma Holds.length (holds : q.Holds list) : list.length = q.count := by
  have same := congrArg List.length holds.cells
  rw [window_length, length_map] at same
  exact same.symm

lemma Holds.removeOldest {first : Msg} {rest : List Msg} (holds : q.Holds (first :: rest)) :
    q.queue q.head = some first ∧ q.removeOldest.Holds rest := by
  have count : rest.length + 1 = q.count := holds.length
  have front := congrArg (·[0]?) holds.cells
  rw [window_getElem? _ _ _ _ _ (by omega), Nat.add_zero, Nat.mod_eq_of_lt holds.head] at front
  have behind := congrArg (List.drop 1) holds.cells
  rw [window_drop] at behind
  refine ⟨Option.some.inj front, Nat.mod_lt _ (by decide), ?_, ?_, ?_⟩
  · refine holds.tail.trans ?_
    rw [MsgQueue.removeOldest, Nat.mod_add_mod, show q.head + 1 + (q.count - 1) = q.head + q.count by omega]
  · exact Nat.le_trans (Nat.sub_le _ _) holds.bound
  · refine Eq.trans (map_congr_left fun i member => ?_) behind
    have bound := holds.bound
    have inside := mem_range.mp member
    have small : i < q.count - 1 := inside
    refine Function.update_of_ne (fun same => ?_) _ _
    rw [MsgQueue.removeOldest, Nat.mod_add_mod, Nat.add_assoc, ring_end_eq_start holds.head (by omega)] at same
    omega

lemma Holds.store (holds : q.Holds list) (room : q.count < lteMsgQueueSize) (msg) :
    (q.store msg).Holds (list ++ [msg]) := by
  refine ⟨holds.head, ?_, room, ?_⟩
  · rw [MsgQueue.store, holds.tail, Nat.mod_add_mod]
    rfl
  · rw [MsgQueue.store, holds.tail, map_append, ← holds.cells]
    exact window_append q.queue room (some msg)

lemma Holds.enqueue (holds : q.Holds list) {msg : Msg} (some : msg.length ≠ 0) (malloc : Bool) :
    (q.myLteEnqueueMsg msg malloc).1 = (if malloc then 0 else -enomem) ∧
      (q.myLteEnqueueMsg msg malloc).2.Holds
        ((if list.length = lteMsgQueueSize then list.drop 1 else list) ++ if malloc then [msg] else []) := by
  unfold myLteEnqueueMsg
  rw [if_neg some, holds.length]
  have bound := holds.bound
  have room : ∃ q' : MsgQueue, (if lteMsgQueueSize ≤ q.count then q.removeOldest else q) = q' ∧
      q'.Holds (if q.count = lteMsgQueueSize then list.drop 1 else list) ∧ q'.count < lteMsgQueueSize := by
    refine ⟨_, rfl, ?_⟩
    by_cases full : q.count = lteMsgQueueSize
    · rw [if_pos full, if_pos (Nat.le_of_eq full.symm)]
      have length := holds.length
      rw [full] at length
      obtain ⟨first, rest, rfl⟩ := exists_cons_of_length_pos (Nat.lt_of_lt_of_eq (by decide) length.symm)
      refine ⟨holds.removeOldest.2, ?_⟩
      change q.count - 1 < lteMsgQueueSize
      rw [full]
      decide
    · rw [if_neg full, if_neg (by omega)]
      exact ⟨holds, by omega⟩
  obtain ⟨q', same, held, free⟩ := room
  dsimp only
  rw [same]
  cases malloc with
  | true => exact ⟨rfl, held.store free msg⟩
  | false =>
    refine ⟨rfl, ?_⟩
    rw [if_neg Bool.false_ne_true, if_neg Bool.false_ne_true, append_nil]
    exact held

end MsgQueue

namespace System

/-- The messages of a list that `uart_tx` takes, one attempt each. -/
def taken (ready : Bool) : List Msg → List Int → List Msg
  | [], _ => []
  | msg :: rest, uart =>
    if myLteUartSend ready msg (uart.headD 0) = 0 then msg :: taken ready rest uart.tail else taken ready rest uart.tail

/-- Every message of a list is taken by `uart_tx`. -/
def Transmits (ready : Bool) : List Msg → List Int → Prop
  | [], _ => True
  | msg :: rest, uart => myLteUartSend ready msg (uart.headD 0) = 0 ∧ Transmits ready rest uart.tail

lemma taken_sublist (ready : Bool) (list uart) : (taken ready list uart).Sublist list := by
  induction list generalizing uart with
  | nil => exact .slnil
  | cons msg rest ih =>
    unfold taken
    split
    · exact (ih _).cons_cons msg
    · exact (ih _).cons msg

lemma taken_eq_iff {ready : Bool} {list : List Msg} {uart : List Int} :
    taken ready list uart = list ↔ Transmits ready list uart := by
  induction list generalizing uart with
  | nil => exact iff_of_true rfl trivial
  | cons msg rest ih =>
    unfold taken Transmits
    split
    next sent => rw [List.cons.injEq, and_iff_right rfl, ih, and_iff_right sent]
    next failed =>
      refine iff_of_false (fun same => ?_) fun both => failed both.1
      have shorter := (taken_sublist ready rest uart.tail).length_le
      rw [same, length_cons] at shorter
      omega

variable {s : System} {list : List Msg}

lemma process_spec (holds : s.msgQueue.Holds list) (uart) :
    (s.myLteProcessQueuedMsgs uart).msgQueue.Holds [] ∧ (s.myLteProcessQueuedMsgs uart).queued = s.queued ∧
      (s.myLteProcessQueuedMsgs uart).handed = s.handed ++ taken s.ready list uart := by
  unfold myLteProcessQueuedMsgs
  rw [← holds.length]
  induction list generalizing s uart with
  | nil => exact ⟨holds, rfl, (append_nil _).symm⟩
  | cons msg rest ih =>
    obtain ⟨first, removed⟩ := holds.removeOldest
    have turn : s.sendOldest (uart.headD 0) = { s with
          msgQueue := s.msgQueue.removeOldest
          handed := if myLteUartSend s.ready msg (uart.headD 0) = 0 then s.handed ++ [msg] else s.handed } := by
      unfold sendOldest
      rw [first]
    rw [length_cons, sendOldestTimes, turn]
    obtain ⟨empty, queued, handed⟩ := ih (s := { s with msgQueue := s.msgQueue.removeOldest, handed := _ }) removed uart.tail
    refine ⟨empty, queued, handed.trans ?_⟩
    rw [taken]
    dsimp only
    split
    · rw [append_assoc]
      rfl
    · rfl

structure Ordered (s : System) (list left : List Msg) : Prop where
  holds : s.msgQueue.Holds list
  queued : s.queued = left ++ list
  handed : s.handed.Sublist left

def Keeps (s : System) : Event → Prop
  | .send send =>
    ((s.myLteSendMsg send).1 < 0 → (s.myLteSendMsg send).2.pending = s.pending) ∧
      ((s.myLteSendMsg send).2.pending = s.pending ∨ (s.myLteSendMsg send).2.pending = s.pending ++ [send.msg] ∨
        s.pending.length = lteMsgQueueSize ∧ (s.myLteSendMsg send).2.pending = s.pending.drop 1 ++ [send.msg])
  | .setReady ready => (s.step (.setReady ready)).pending = s.pending
  | .process uart =>
    ∃ gone, s.pending = gone ++ (s.step (.process uart)).pending ∧ (s.step (.process uart)).handed = s.handed ++ gone

structure Does (s : System) (event : Event) : Prop where
  keeps : s.Keeps event
  ordered : ((s.step event).handed ++ (s.step event).pending).Sublist (s.step event).queued

/-- A message for a full queue can be allocated, and `uart_tx` takes every message of the queue. -/
def Guarded (s : System) : Event → Prop
  | .send send => ¬ (s.ready = false ∧ send.msg.length ≠ 0 ∧ s.pending.length = lteMsgQueueSize ∧ send.malloc = false)
  | .setReady _ => True
  | .process uart => Transmits s.ready s.pending uart

variable {left : List Msg}

lemma Ordered.sublist (ordered : s.Ordered list left) : (s.handed ++ s.pending).Sublist s.queued := by
  have pending : s.pending = list := ordered.holds.pending
  rw [ordered.queued, pending]
  exact ordered.handed.append (List.Sublist.refl _)

/-- The list behind a call of `my_lte_send_msg` that queues its message or tries to. -/
def queues (list : List Msg) (send : Send) : List Msg :=
  (if list.length = lteMsgQueueSize then list.drop 1 else list) ++ if send.malloc then [send.msg] else []

lemma send_unready (holds : s.msgQueue.Holds list) {send : Send} (unready : s.ready = false) (some : send.msg.length ≠ 0) :
    (s.myLteSendMsg send).1 = (if send.malloc then 0 else -enomem) ∧
      (s.myLteSendMsg send).2.msgQueue.Holds (queues list send) ∧ (s.myLteSendMsg send).2.handed = s.handed ∧
      (s.myLteSendMsg send).2.queued = s.queued ++ if send.malloc then [send.msg] else [] := by
  obtain ⟨ret, held⟩ := holds.enqueue some send.malloc
  unfold myLteSendMsg
  rw [if_neg some, if_neg (by rw [unready]; exact Bool.false_ne_true)]
  refine ⟨ret, held, rfl, ?_⟩
  dsimp only
  rw [ret]
  cases send.malloc with
  | true => rfl
  | false => exact (append_nil _).symm

lemma send_unchanged {send : Send} (none : s.ready = true ∨ send.msg.length = 0) : (s.myLteSendMsg send).2 = s := by
  unfold myLteSendMsg
  split
  · rfl
  next some =>
    rw [if_pos (none.resolve_right some)]

lemma Ordered.step (ordered : s.Ordered list left) (event) :
    ∃ list left, (s.step event).Ordered list left := by
  cases event with
  | setReady ready => exact ⟨list, left, ordered.holds, ordered.queued, ordered.handed⟩
  | process uart =>
    obtain ⟨empty, queued, handed⟩ := process_spec ordered.holds uart
    refine ⟨[], left ++ list, empty, ?_, ?_⟩
    · rw [append_nil, ← ordered.queued]
      exact queued
    · change (s.myLteProcessQueuedMsgs uart).handed.Sublist _
      rw [handed]
      exact ordered.handed.append (taken_sublist _ _ _)
  | send send =>
    by_cases none : s.ready = true ∨ send.msg.length = 0
    · refine ⟨list, left, ?_⟩
      rw [System.step, send_unchanged none]
      exact ordered
    · obtain ⟨unready, some⟩ := not_or.mp none
      obtain ⟨-, held, handed, queued⟩ := send_unready ordered.holds (eq_false_of_ne_true unready) some
      rw [System.step]
      by_cases full : list.length = lteMsgQueueSize
      · refine ⟨_, left ++ list.take 1, held, ?_, ?_⟩
        · rw [queued, ordered.queued, queues, if_pos full, append_assoc, append_assoc, ← append_assoc (list.take 1),
            take_append_drop]
        · rw [handed]
          exact ordered.handed.trans (sublist_append_left _ _)
      · refine ⟨_, left, held, ?_, ?_⟩
        · rw [queued, ordered.queued, queues, if_neg full, append_assoc]
        · rw [handed]
          exact ordered.handed

lemma keeps_iff_guarded (ordered : s.Ordered list left) (event) : s.Keeps event ↔ s.Guarded event := by
  have pending : s.pending = list := ordered.holds.pending
  cases event with
  | setReady ready => exact iff_of_true rfl trivial
  | process uart =>
    obtain ⟨empty, -, handed⟩ := process_spec ordered.holds uart
    have none : (s.myLteProcessQueuedMsgs uart).pending = [] := empty.pending
    simp only [Keeps, Guarded, System.step]
    rw [pending, none, handed, ← taken_eq_iff]
    constructor
    · rintro ⟨gone, all, same⟩
      rw [append_nil] at all
      rw [all]
      rw [all] at same
      exact append_cancel_left same
    · intro all
      exact ⟨list, (append_nil _).symm, by rw [all]⟩
  | send send =>
    simp only [Keeps, Guarded]
    by_cases none : s.ready = true ∨ send.msg.length = 0
    · rw [send_unchanged none]
      refine iff_of_true ⟨fun _ => rfl, .inl rfl⟩ ?_
      rintro ⟨unready, some, -⟩
      rcases none with ready | empty
      · rw [ready] at unready
        cases unready
      · exact some empty
    · obtain ⟨unready, some⟩ := not_or.mp none
      have unready := eq_false_of_ne_true unready
      obtain ⟨ret, held, -, -⟩ := send_unready ordered.holds unready some
      have after : (s.myLteSendMsg send).2.pending = queues list send := held.pending
      rw [after, ret, pending]
      unfold queues
      cases malloc : send.malloc with
      | true =>
        refine iff_of_true ⟨fun failed => absurd failed (by decide), .inr ?_⟩ fun failed => by cases failed.2.2.2
        by_cases full : list.length = lteMsgQueueSize
        · exact .inr ⟨full, by rw [if_pos full]; rfl⟩
        · exact .inl (by rw [if_neg full]; rfl)
      | false =>
        rw [if_neg Bool.false_ne_true, if_neg Bool.false_ne_true, append_nil]
        by_cases full : list.length = lteMsgQueueSize
        · -- The oldest message is gone, and the call returns -ENOMEM.
          rw [if_pos full]
          refine iff_of_false (fun keeps => ?_) fun guarded => guarded ⟨unready, some, full, rfl⟩
          have same := congrArg List.length (keeps.1 (by decide))
          rw [length_drop, full] at same
          exact absurd same (by decide)
        · rw [if_neg full]
          exact iff_of_true ⟨fun _ => rfl, .inl rfl⟩ fun failed => full failed.2.2.1

theorem pending_messages_iff (events : List Event) : Along step Does start events ↔ Along step Guarded start events := by
  refine along_iff_along (fun s => ∃ list left, s.Ordered list left) ?_ ?_ ?_
  · rintro s event ⟨list, left, ordered⟩ -
    exact ordered.step event
  · rintro s event ⟨list, left, ordered⟩
    obtain ⟨list', left', after⟩ := ordered.step event
    rw [← keeps_iff_guarded ordered event]
    exact ⟨Does.keeps, fun keeps => ⟨keeps, after.sublist⟩⟩
  · exact ⟨[], [], MsgQueue.empty_holds, rfl, .slnil⟩

/-- Whatever allocation or `uart_tx` fails, messages leave the queue in the order in which they were queued. -/
theorem queue_in_order (events : List Event) :
    let s := events.foldl step start
    (s.handed ++ s.pending).Sublist s.queued ∧ s.pending.length ≤ lteMsgQueueSize := by
  obtain ⟨list, left, ordered⟩ : ∃ list left, (events.foldl step start).Ordered list left := by
    refine foldlRecOn (motive := fun s => ∃ list left, s.Ordered list left) events step ?_ ?_
    · exact ⟨[], [], MsgQueue.empty_holds, rfl, .slnil⟩
    · rintro s ⟨list, left, ordered⟩ event -
      exact ordered.step event
  refine ⟨ordered.sublist, ?_⟩
  rw [pending, ordered.holds.pending, ordered.holds.length]
  exact ordered.holds.bound

def failedTransmission : List Event := [.send ⟨[0x41], true, 0⟩, .setReady true, .process [-5]]

theorem failed_transmission_is_lost :
    (failedTransmission.foldl step start).queued = [[0x41]] ∧ (failedTransmission.foldl step start).pending = [] ∧
      (failedTransmission.foldl step start).handed = [] ∧ ¬ Along step Does start failedTransmission := by
  refine ⟨rfl, rfl, rfl, fun along => ?_⟩
  obtain ⟨gone, all, handed⟩ := along.2.2.1.keeps
  cases (nil_append gone).symm.trans handed.symm
  cases all

end System

end LL320D.LteQueue

namespace LL320D.LteUart
open Library LteUart.System

variable {accepted active : Bool} {after before : Pos} {thread : Thread}

def Pos.permit : Pos → Nat
  | .taken _ => 1
  | .marked _ => 1
  | .woken => 1
  | .failed token => token.toNat
  | .cleared token => token.toNat
  | _ => 0

/-- Between `tx_busy = true` and the `uart_tx` of the data. -/
def Pos.sending : Pos → Bool
  | .marked _ => true
  | .waking => true
  | .woken => true
  | _ => false

def Task.permit : Task → Nat
  | .offSuspending token => token.toNat
  | .offClearing token => token.toNat
  | .offGiving token => token.toNat
  | _ => 0

namespace System

variable {s : System}

def permits (s : System) : Nat :=
  s.sem.toNat + s.outstanding + (s.pos .lte).permit + (s.pos .ble).permit + s.task.permit

structure Quiet (s : System) : Prop where
  none : s.outstanding = 0
  nobody : ∀ thread, (s.pos thread).sending = false

instance (s : System) : Decidable s.Quiet :=
  decidable_of_iff (s.outstanding = 0 ∧ s.lte.sending = false ∧ s.ble.sending = false)
    ⟨fun ⟨empty, lte, ble⟩ => ⟨empty, fun thread => by cases thread <;> assumption⟩,
      fun quiet => ⟨quiet.none, quiet.nobody .lte, quiet.nobody .ble⟩⟩

/-- While a transmission is outstanding the UART is marked busy and the semaphore is not available; and the UART was
never suspended under one because it was found idle. -/
structure Covered (s : System) : Prop where
  busy : 0 < s.outstanding → s.txBusy = true
  taken : 0 < s.outstanding → s.sem = false
  whole : s.cut = false

/-- The busy flag is cleared only while no send is under way, the semaphore is given by others only while it is
available, and no transmission starts between the idle check and the suspension. -/
def Careful (s : System) : Event → Prop
  | .wake _ accepted => accepted = true → s.task ≠ .suspending
  | .transmit _ accepted => accepted = true → s.task ≠ .suspending
  | .clearBusy thread => ∀ token, s.pos thread = .failed token → s.Quiet
  | .giveSem thread => s.pos thread = .cleared false → s.sem = true
  | .handle _ _ => s.task = .handling .txDone ∨ s.task = .handling .txAborted → s.Quiet
  | .offClear => ∀ token, s.task = .offClearing token → s.Quiet
  | .offGive => s.task = .offGiving false → s.sem = true
  | _ => True

structure Sound (s : System) : Prop where
  one : s.permits = 1
  busy : s.Quiet ∨ s.txBusy = true
  still : s.task = .suspending → s.outstanding = 0
  whole : s.cut = false

lemma start_sound : start.Sound := ⟨rfl, .inl (by decide), nofun, rfl⟩

lemma Sound.covered (sound : s.Sound) : s.Covered := by
  have one := sound.one
  unfold permits at one
  refine ⟨fun outstanding => ?_, fun outstanding => ?_, sound.whole⟩
  · exact sound.busy.resolve_left fun quiet => absurd quiet.none (Nat.pos_iff_ne_zero.mp outstanding)
  · cases free : s.sem with
    | false => rfl
    | true =>
      rw [free, Bool.toNat_true] at one
      omega

lemma Sound.busy_of_sending (sound : s.Sound) (sending : (s.pos thread).sending = true) : s.txBusy = true := by
  refine sound.busy.resolve_left fun quiet => ?_
  rw [quiet.nobody thread] at sending
  cases sending

@[simp] lemma sem_move (s : System) (thread pos) : (s.move thread pos).sem = s.sem := by
  cases thread <;> rfl

@[simp] lemma outstanding_move (s : System) (thread pos) :
    (s.move thread pos).outstanding = s.outstanding := by
  cases thread <;> rfl

@[simp] lemma txBusy_move (s : System) (thread pos) : (s.move thread pos).txBusy = s.txBusy := by
  cases thread <;> rfl

lemma pos_move_of_ne (s : System) {other : Thread} (pos) (ne : other ≠ thread) :
    (s.move thread pos).pos other = s.pos other := by
  cases thread <;> cases other <;> first | rfl | exact absurd rfl ne

lemma pos_move (s : System) (thread pos) : (s.move thread pos).pos thread = pos := by
  cases thread <;> rfl

/-- What a step of a sending thread may do: set the flag, or move to a place outside the send and clear it at
most while everything is quiet; and start no transmission in front of a suspension. -/
structure Respects (s : System) (after : Pos) (txBusy : Bool) (outstanding : Nat) : Prop where
  busy : txBusy = true ∨ (outstanding = s.outstanding ∧ after.sending = false ∧ (txBusy = s.txBusy ∨ s.Quiet))
  still : s.task = .suspending → outstanding = s.outstanding

lemma Sound.moves (sound : s.Sound) (stands : s.pos thread = before) {txBusy sem : Bool} {outstanding : Nat}
    (one : sem.toNat + outstanding + after.permit = s.sem.toNat + s.outstanding + before.permit)
    (respects : s.Respects after txBusy outstanding) :
    Sound { s.move thread after with txBusy := txBusy, active := active, sem := sem, outstanding := outstanding } := by
  have permits := sound.one
  unfold System.permits at permits
  refine ⟨?_, ?_, ?_, ?_⟩
  · subst stands
    unfold System.permits
    cases thread with
    | lte =>
      change sem.toNat + outstanding + after.permit + (s.pos .ble).permit + s.task.permit = 1
      omega
    | ble =>
      change sem.toNat + outstanding + (s.pos .lte).permit + after.permit + s.task.permit = 1
      omega
  · rcases respects.busy with busy | ⟨same, outside, unchanged⟩
    · exact .inr busy
    · have quiet (quiet : s.Quiet) : Quiet { s.move thread after with
          txBusy := txBusy, active := active, sem := sem, outstanding := outstanding } := by
        refine ⟨same.trans quiet.none, fun other => ?_⟩
        by_cases here : other = thread
        · subst here
          exact (congrArg Pos.sending (pos_move s other after)).trans outside
        · exact (congrArg Pos.sending (pos_move_of_ne s after here)).trans (quiet.nobody other)
      rcases unchanged with unchanged | idle
      · exact sound.busy.imp quiet unchanged.trans
      · exact .inl (quiet idle)
  · have still : s.task = .suspending → outstanding = 0 :=
      fun suspending => (respects.still suspending).trans (sound.still suspending)
    cases thread <;> exact still
  · cases thread <;> exact sound.whole

lemma respects_outside (outside : after.sending = false) : s.Respects after s.txBusy s.outstanding :=
  ⟨.inr ⟨rfl, outside, .inl rfl⟩, fun _ => rfl⟩

lemma respects_busy : s.Respects after true s.outstanding := ⟨.inl rfl, fun _ => rfl⟩

section

variable (sound : s.Sound) (succeeds : Bool)
include sound

lemma Sound.move (stands : s.pos thread = before)
    (permit : after.permit = before.permit) (outside : s.txBusy = true ∨ after.sending = false) :
    (s.move thread after).Sound := by
  change Sound { s.move thread after with
    txBusy := (s.move thread after).txBusy
    active := (s.move thread after).active
    sem := (s.move thread after).sem
    outstanding := (s.move thread after).outstanding }
  refine sound.moves stands ?_ ?_
  · rw [sem_move, outstanding_move, permit]
  · rw [txBusy_move, outstanding_move]
    exact ⟨outside.imp_right fun outside => ⟨rfl, outside, .inl rfl⟩, fun _ => rfl⟩

lemma Sound.owned (owns : (s.pos thread).permit = 1) : s.sem = false := by
  have one := sound.one
  unfold permits at one
  cases free : s.sem with
  | false => rfl
  | true =>
    rw [free, Bool.toNat_true] at one
    cases thread with
    | lte | ble => omega

lemma Sound.stepCall (thread) (ymodem resumed : Bool) : (s.stepCall thread ymodem resumed).Sound := by
  unfold System.stepCall
  split
  next enters => exact sound.moves enters.1 (by simp [Pos.permit]) (by simpa using respects_outside rfl)
  next => exact sound

lemma Sound.stepTakeSem (thread) : (s.stepTakeSem thread).Sound := by
  unfold System.stepTakeSem
  split
  next ymodem stands =>
    split
    next free => exact sound.moves stands (by simp [Pos.permit, free]; omega) (by simpa using respects_outside rfl)
    next => exact sound
  next => exact sound

lemma Sound.stepTimeout (thread) : (s.stepTimeout thread).Sound := by
  unfold System.stepTimeout
  split
  next ymodem stands =>
    split
    next => exact sound
    next => exact sound.move stands rfl (.inr rfl)
  next => exact sound

lemma Sound.stepSetBusy (thread) : (s.stepSetBusy thread).Sound := by
  unfold System.stepSetBusy
  split
  next ymodem stands => exact sound.moves stands (by simp [Pos.permit]) (by simpa using respects_busy)
  next => exact sound

lemma Sound.uartTx {behind : Pos} (stands : s.pos thread = before)
    (sending : before.sending = true) (owns : before.permit = 1) (hands : behind.permit = 0)
    (careful : accepted = true → s.task ≠ .suspending) : (s.uartTx thread accepted behind).Sound := by
  have busy : s.txBusy = true := sound.busy_of_sending (by rw [stands]; exact sending)
  unfold System.uartTx
  split
  next started =>
    exact sound.moves stands (by simp [owns, hands]; omega)
      ⟨.inl (by simpa using busy), fun suspending => absurd suspending (careful started)⟩
  next => exact sound.move stands owns.symm (.inl busy)

lemma Sound.stepWake (careful : s.Careful (.wake thread accepted)) : (s.stepWake thread accepted).Sound := by
  unfold System.stepWake
  split
  next stands => exact sound.uartTx stands rfl rfl rfl careful
  next => exact sound

lemma Sound.stepTakeWake (thread) : (s.stepTakeWake thread).Sound := by
  unfold System.stepTakeWake
  split
  next stands =>
    have busy : s.txBusy = true := sound.busy_of_sending (by rw [stands.1]; rfl)
    exact sound.moves stands.1 (by simp [Pos.permit, stands.2]; omega) (by simpa [busy] using respects_busy)
  next => exact sound

lemma Sound.stepWakeTimeout (thread) : (s.stepWakeTimeout thread).Sound := by
  unfold System.stepWakeTimeout
  split
  next stands => exact sound.move stands.1 rfl (.inr rfl)
  next => exact sound

lemma Sound.stepTransmit (careful : s.Careful (.transmit thread accepted)) : (s.stepTransmit thread accepted).Sound := by
  unfold System.stepTransmit
  split
  next stands => exact sound.uartTx stands rfl rfl rfl careful
  next stands => exact sound.uartTx stands rfl rfl rfl careful
  next => exact sound

lemma Sound.stepClearBusy (careful : s.Careful (.clearBusy thread)) : (s.stepClearBusy thread).Sound := by
  unfold System.stepClearBusy
  split
  next token stands =>
    exact sound.moves stands (by simp [Pos.permit]) ⟨.inr ⟨by simp, rfl, .inr (careful token stands)⟩, by simp⟩
  next => exact sound

lemma Sound.stepGiveSem (careful : s.Careful (.giveSem thread)) : (s.stepGiveSem thread).Sound := by
  unfold System.stepGiveSem
  split
  next token stands =>
    refine sound.moves stands ?_ (by simpa using respects_outside rfl)
    cases token with
    | false => simp [Pos.permit, careful stands]
    | true =>
      have taken : s.sem = false := sound.owned (by rw [stands]; rfl)
      simp [Pos.permit, taken]
      omega
  next => exact sound

lemma Sound.turns {after : System} (pos : after.pos = s.pos)
    (one : after.sem.toNat + after.outstanding + after.task.permit = s.sem.toNat + s.outstanding + s.task.permit)
    (outstanding : after.outstanding ≤ s.outstanding) (busy : after.txBusy = s.txBusy ∨ s.Quiet)
    (still : after.task = .suspending → s.outstanding = 0) (whole : after.cut = false) : after.Sound := by
  have ends (none : s.outstanding = 0) : after.outstanding = 0 :=
    Nat.le_zero.mp (Nat.le_trans outstanding (Nat.le_of_eq none))
  have quiet (quiet : s.Quiet) : after.Quiet := ⟨ends quiet.none, fun thread => by rw [pos]; exact quiet.nobody thread⟩
  refine ⟨?_, ?_, fun suspending => ends (still suspending), whole⟩
  · have before := sound.one
    unfold permits at before ⊢
    rw [pos]
    omega
  · rcases busy with same | idle
    · exact sound.busy.imp quiet same.trans
    · exact .inl (quiet idle)

lemma Sound.proceed {task : Task} {msgq : List Msg}
    (permit : task.permit = s.task.permit) (still : task = .suspending → s.outstanding = 0) :
    Sound { s with task := task, msgq := msgq, active := active } :=
  sound.turns rfl (congrArg _ permit) (Nat.le_refl _) (.inl rfl) still sound.whole

lemma Sound.mySendMsg (msg) : (s.mySendMsg msg).Sound := by
  unfold System.mySendMsg
  split
  next => exact sound.proceed rfl sound.still
  next => exact sound

lemma Sound.stepTxEnd (msg) : (s.stepTxEnd msg).Sound := by
  unfold System.stepTxEnd
  split
  next outstanding =>
    have taken := sound.covered.taken outstanding
    have frame : s.mySendMsg msg = { s with msgq := (s.mySendMsg msg).msgq } := by
      unfold System.mySendMsg
      split
      · rfl
      · rfl
    rw [frame]
    refine sound.turns rfl ?_ (Nat.sub_le _ _) (.inl rfl) sound.still sound.whole
    change 1 + (s.outstanding - 1) + s.task.permit = s.sem.toNat + s.outstanding + s.task.permit
    rw [taken, Bool.toNat_false]
    omega
  next => exact sound

lemma Sound.stepRecv : s.stepRecv.Sound := by
  unfold System.stepRecv
  split
  next rest waits queued => exact sound.proceed (by rw [waits]; rfl) nofun
  next msg rest other waits queued => exact sound.proceed (by rw [waits]; rfl) nofun
  next => exact sound

lemma Sound.stepHandle {quiet blocked : Bool} (careful : s.Careful (.handle quiet blocked)) :
    (s.stepHandle quiet blocked).Sound := by
  unfold System.stepHandle
  split
  next stands =>
    exact sound.turns rfl (by rw [stands]; rfl) (Nat.le_refl _) (.inr (careful (.inl stands))) nofun sound.whole
  next stands =>
    exact sound.turns rfl (by rw [stands]; rfl) (Nat.le_refl _) (.inr (careful (.inr stands))) nofun sound.whole
  next stands =>
    split
    next idle =>
      -- the check finds the flag clear, so that nothing is under way
      have quiet : s.Quiet := sound.busy.resolve_right idle.2.2
      exact sound.proceed (by rw [stands]; rfl) fun _ => quiet.none
    next => exact sound.proceed (by rw [stands]; rfl) nofun
  next stands =>
    split
    next => exact sound.proceed (by rw [stands]; rfl) nofun
    next =>
      split
      next => exact sound.proceed (by rw [stands]; rfl) nofun
      next => exact sound.proceed (by rw [stands]; rfl) nofun
  next => exact sound

lemma Sound.stepSuspend : (s.stepSuspend succeeds).Sound := by
  unfold System.stepSuspend
  split
  next stands =>
    refine sound.turns rfl (by rw [stands]; rfl) (Nat.le_refl _) (.inl rfl) nofun ?_
    simp [sound.whole, sound.still stands]
  next => exact sound

lemma Sound.stepOffTake : s.stepOffTake.Sound := by
  unfold System.stepOffTake
  split
  next stands =>
    refine sound.turns rfl ?_ (Nat.le_refl _) (.inl rfl) nofun sound.whole
    rw [stands.1, stands.2]
    change 0 + s.outstanding + 1 = 1 + s.outstanding + 0
    omega
  next => exact sound

lemma Sound.stepOffTimeout : s.stepOffTimeout.Sound := by
  unfold System.stepOffTimeout
  split
  next stands => exact sound.proceed (by rw [stands.1]; rfl) nofun
  next => exact sound

lemma Sound.stepOffSuspend : (s.stepOffSuspend succeeds).Sound := by
  unfold System.stepOffSuspend
  split
  next token stands => exact sound.proceed (by rw [stands]; rfl) nofun
  next => exact sound

lemma Sound.stepOffClear (careful : s.Careful .offClear) : s.stepOffClear.Sound := by
  unfold System.stepOffClear
  split
  next token stands =>
    exact sound.turns rfl (by rw [stands]; rfl) (Nat.le_refl _) (.inr (careful token stands)) nofun sound.whole
  next => exact sound

lemma Sound.stepOffGive (careful : s.Careful .offGive) : s.stepOffGive.Sound := by
  unfold System.stepOffGive
  split
  next token stands =>
    refine sound.turns rfl ?_ (Nat.le_refl _) (.inl rfl) nofun sound.whole
    rw [stands]
    cases token with
    | false =>
      rw [careful stands]
      rfl
    | true =>
      have one := sound.one
      unfold permits at one
      rw [stands] at one
      change 1 + s.outstanding + 0 = s.sem.toNat + s.outstanding + 1
      change s.sem.toNat + s.outstanding + _ + _ + 1 = 1 at one
      omega
  next => exact sound

lemma Sound.stepFinish : s.stepFinish.Sound := by
  unfold System.stepFinish
  split
  next stands => exact sound.proceed (by rw [stands.1]; rfl) nofun
  next => exact sound

lemma Sound.step {event : Event} (careful : s.Careful event) : (s.step event).Sound := by
  cases event with
  | call thread ymodem resumed => exact sound.stepCall thread ymodem resumed
  | takeSem thread => exact sound.stepTakeSem thread
  | timeout thread => exact sound.stepTimeout thread
  | setBusy thread => exact sound.stepSetBusy thread
  | wake thread accepted => exact sound.stepWake careful
  | takeWake thread => exact sound.stepTakeWake thread
  | wakeTimeout thread => exact sound.stepWakeTimeout thread
  | transmit thread accepted => exact sound.stepTransmit careful
  | clearBusy thread => exact sound.stepClearBusy careful
  | giveSem thread => exact sound.stepGiveSem careful
  | txDone => exact sound.stepTxEnd .txDone
  | txAborted => exact sound.stepTxEnd .txAborted
  | idleTimer => exact sound.mySendMsg .uartIdle
  | post msg => exact sound.mySendMsg msg
  | recv => exact sound.stepRecv
  | handle quiet blocked => exact sound.stepHandle careful
  | suspend succeeds => exact sound.stepSuspend succeeds
  | offTake => exact sound.stepOffTake
  | offTimeout => exact sound.stepOffTimeout
  | offSuspend succeeds => exact sound.stepOffSuspend succeeds
  | offClear => exact sound.stepOffClear careful
  | offGive => exact sound.stepOffGive careful
  | finish => exact sound.stepFinish

end

/-- If every step is careful, no transmission is outstanding without the busy flag or with the semaphore available, and
the idle handling never suspends the UART under one. -/
theorem transmissions_covered (events : List Event) (careful : Along step Careful start events) :
    Always step Covered start events := by
  have sound := careful.always Sound (fun s event sound careful => sound.step careful) start_sound
  exact fun n => (sound n).covered

def oneSend : List Event :=
  [.call .lte false true, .takeSem .lte, .setBusy .lte, .transmit .lte true, .txDone, .finish, .recv, .handle true false,
    .idleTimer, .recv, .handle true false, .suspend true]

instance (s : System) (event : Event) : Decidable (s.Careful event) := by
  cases event <;> unfold Careful <;> infer_instance

theorem one_send_covered : Along step Careful start oneSend ∧ Always step Covered start oneSend :=
  ⟨by decide, transmissions_covered oneSend (by decide)⟩

def wakeThenData : List Event :=
  [.call .lte false true, .takeSem .lte, .setBusy .lte, .wake .lte true, .txDone, .takeWake .lte, .transmit .lte true,
    .finish, .recv, .handle true false]

def idleExpires : List Event := [.idleTimer, .recv, .handle true false, .suspend true]

theorem wakeup_report_clears_busy :
    (wakeThenData.foldl step start).outstanding = 1 ∧ (wakeThenData.foldl step start).txBusy = false ∧
      ((wakeThenData ++ idleExpires).foldl step start).cut = true := by
  decide

end System

end LL320D.LteUart
