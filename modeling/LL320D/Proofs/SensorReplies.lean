import LL320D.LteReply
import LL320D.Proofs.FlashStoreSafety

/-! The way of a sensor reply from the LTE thread to `sensor_handle_lte_ack`, in one slot while its message waits in the
queue. -/

namespace LL320D.BleScan
open FlashStore Library List LteAction Threads

variable {rest : List LteAction} {action : LteAction} (todo : List LteAction)

def BleRspType.isSensor : BleRspType → Bool
  | .th | .bp | .cdata => true
  | _ => false

def sensorReply (text : List Char) : Option BleRspType :=
  ((bleRspParse text).map BleRspResult.type).filter BleRspType.isSensor

def sensorReplies (lines : List ReplyLine) : List BleRspType := lines.filterMap fun line => sensorReply line.text

lemma sensorReplies_concat (lines) (line : ReplyLine) :
    sensorReplies (lines ++ [line]) = sensorReplies lines ++ (sensorReply line.text).toList := by
  rw [sensorReplies, filterMap_append, filterMap_cons, filterMap_nil]
  cases sensorReply line.text <;> rfl

def LteAction.isSensor : LteAction → Bool
  | .saveSensorRsp _ | .sendSensorLteAck => true
  | _ => false

def LteAction.isSensorSend : LteAction → Bool
  | .sendSensorLteAck => true
  | _ => false

def QueuedMsg.isSensorAck : QueuedMsg → Bool
  | .sensorLteAck => true
  | _ => false

def unsaved (todo : List LteAction) : List BleRspType := todo.filterMap fun
    | .saveSensorRsp rsp => some rsp.type
    | _ => none

lemma unsaved_sensor : unsaved (todo.filter isSensor) = unsaved todo := by
  rw [unsaved, filterMap_filter]
  refine filterMap_congr fun action _ => ?_
  cases action <;> rfl

lemma sends_sensor : (todo.filter isSensor).countP isSensorSend = todo.countP isSensorSend := by
  rw [countP_filter]
  refine countP_congr fun action _ => ?_
  cases action <;> simp [isSensor, isSensorSend]

/-- A reply is saved and then announced. -/
inductive SensorTodo : List LteAction → Prop where
  | nothing : SensorTodo []
  | send : SensorTodo [.sendSensorLteAck]
  | save (rsp : BleRspResult) : SensorTodo [.saveSensorRsp rsp, .sendSensorLteAck]

lemma SensorTodo.unsaved_le {todo : List LteAction} (left : SensorTodo todo) :
    (unsaved todo).length ≤ todo.countP isSensorSend := by
  cases left with
  | nothing | send => decide
  | save rsp => exact Nat.le_refl 1

lemma myBleHandle_sensor (text) :
    (sensorReply text = none ∧ (myBleHandle text).2.filter isSensor = []) ∨
    ∃ rsp, sensorReply text = some rsp.type ∧
      (myBleHandle text).2.filter isSensor = [.saveSensorRsp rsp, .sendSensorLteAck] := by
  unfold myBleHandle sensorReply
  cases parsed : bleRspParse text with
  | none => exact .inl ⟨rfl, rfl⟩
  | some rsp =>
    cases type : rsp.type with
    | th | bp | cdata => 
      refine .inr ⟨rsp, ?_⟩
      simp [type, BleRspType.isSensor, isSensor]
    | _ =>
      left
      simp [type, BleRspType.isSensor, isSensor]

namespace Threads

def waiting (sys : Threads) : List QueuedMsg := sys.current.toList ++ sys.msgq

/-- The slot, with the types saved in it and those given to `sensor_handle_lte_ack`. -/
def slot (sys : Threads) : Slot BleRspType := ⟨sys.sensorBleRsp.type,
    (sensorReplies sys.lines).take ((sensorReplies sys.lines).length - (unsaved sys.todo).length), sys.sensorAcks⟩

structure SensorInv (sys : Threads) : Prop where
  todo : SensorTodo (sys.todo.filter LteAction.isSensor)
  saved : sys.slot.written ++ unsaved sys.todo = sensorReplies sys.lines
  tokens : sys.sensorAcks.length + sys.waiting.countP QueuedMsg.isSensorAck +
    sys.todo.countP LteAction.isSensorSend = (sensorReplies sys.lines).length
  fresh : sys.slot.Fresh

def RoomForAck (sys : Threads) (event : ThreadEvent) : Prop :=
  match event, sys.todo with
  | .lteStep, .sendSensorLteAck :: _ => sys.msgq.length < bleMsgqLen
  | _, _ => True

instance (sys : Threads) (event : ThreadEvent) : Decidable (sys.RoomForAck event) := by
  unfold RoomForAck
  split <;> infer_instance

/-- What is still to be handled is of the same type. -/
def SlotKept (sys : Threads) (event : ThreadEvent) : Prop :=
  match event, sys.todo with
  | .lteStep, .saveSensorRsp rsp :: _ => ∀ type ∈ (sensorReplies sys.lines).drop sys.sensorAcks.length, type = rsp.type
  | _, _ => True

instance (sys : Threads) (event : ThreadEvent) : Decidable (sys.SlotKept event) := by
  unfold SlotKept
  split <;> infer_instance

variable {sys after : Threads}

lemma slot_written {saved : List BleRspType} (split : saved ++ unsaved sys.todo = sensorReplies sys.lines) :
    sys.slot.written = saved := by
  simp only [slot, ← split, length_append, Nat.add_sub_cancel, take_left]

lemma agrees_same (same : after.slot = sys.slot) : after.slot.Agrees ↔ sys.slot.Agrees ∧ True := by
  rw [same, and_true]

namespace SensorInv

variable (inv : sys.SensorInv)
include inv

lemma frame (after : Threads) (todo : SensorTodo (after.todo.filter isSensor))
    (lines : after.lines = sys.lines) (rest : unsaved after.todo = unsaved sys.todo)
    (rsp : after.sensorBleRsp = sys.sensorBleRsp) (acks : after.sensorAcks = sys.sensorAcks)
    (tokens : after.waiting.countP QueuedMsg.isSensorAck + after.todo.countP isSensorSend =
      sys.waiting.countP QueuedMsg.isSensorAck + sys.todo.countP isSensorSend) :
    after.SensorInv ∧ after.slot = sys.slot := by
  have same : after.slot = sys.slot := by simp only [slot, lines, rest, rsp, acks]
  refine ⟨⟨todo, ?_, ?_, same ▸ inv.fresh⟩, same⟩
  · rw [same, rest, lines]
    exact inv.saved
  · rw [acks, lines, Nat.add_assoc, tokens, ← Nat.add_assoc]
    exact inv.tokens

lemma put (msg) (other : msg.isSensorAck = false) :
    (sys.put msg).SensorInv ∧ (sys.put msg).slot = sys.slot := by
  unfold Threads.put
  split
  · refine inv.frame _ inv.todo rfl rfl rfl rfl ?_
    simp [waiting, countP_append, other]
  · exact ⟨inv, rfl⟩

lemma popped (next : sys.todo = action :: rest) (other : action.isSensor = false) :
    { sys with todo := rest }.SensorInv ∧ { sys with todo := rest }.slot = sys.slot := by
  have filtered : sys.todo.filter isSensor = rest.filter isSensor := by
    rw [next, filter_cons_of_neg (by simp [other])]
  refine inv.frame _ (filtered ▸ inv.todo) rfl ?_ rfl rfl ?_
  · rw [← unsaved_sensor sys.todo, filtered, unsaved_sensor]
  · rw [← sends_sensor sys.todo, filtered, sends_sensor]
    rfl

lemma save {rsp} (next : sys.todo = .saveSensorRsp rsp :: rest) :
    { sys with todo := rest, sensorBleRsp := rsp }.SensorInv ∧
    { sys with todo := rest, sensorBleRsp := rsp }.slot = sys.slot.write rsp.type ∧
    ((∀ type ∈ (sensorReplies sys.lines).drop sys.sensorAcks.length, type = rsp.type) ↔
      ∀ type ∈ sys.slot.outstanding, type = rsp.type) := by
  have left : rest.filter isSensor = [.sendSensorLteAck] := by
    have todo := inv.todo
    rw [next, filter_cons_of_pos rfl] at todo
    generalize rest.filter isSensor = left at todo
    cases todo
    rfl
  have none : unsaved rest = [] := by rw [← unsaved_sensor, left]; rfl
  have received : sys.slot.written ++ [rsp.type] = sensorReplies sys.lines := by
    have saved := inv.saved
    rw [next] at saved
    change _ ++ rsp.type :: unsaved rest = _ at saved
    rwa [none] at saved
  have written : { sys with todo := rest, sensorBleRsp := rsp }.slot = sys.slot.write rsp.type := by
    refine Slot.ext rfl (slot_written ?_) rfl
    rw [none, append_nil]
    exact received
  refine ⟨⟨left ▸ .send, ?_, ?_, written ▸ inv.fresh.write rsp.type⟩, written, ?_⟩
  · rw [written, none, append_nil]
    exact received
  · have tokens := inv.tokens
    rw [next, countP_cons_of_neg Bool.false_ne_true] at tokens
    exact tokens
  · have drop : (sensorReplies sys.lines).drop sys.sensorAcks.length = sys.slot.outstanding ++ [rsp.type] :=
      received ▸ drop_append_of_le_length inv.fresh.bound
    rw [drop, forall_mem_append]
    exact and_iff_left fun type member => mem_singleton.mp member

lemma sendAck (next : sys.todo = .sendSensorLteAck :: rest) (room : sys.msgq.length < bleMsgqLen) :
    ({ sys with todo := rest }.put .sensorLteAck).SensorInv ∧
    ({ sys with todo := rest }.put .sensorLteAck).slot = sys.slot := by
  have left : rest.filter LteAction.isSensor = [] := by
    have todo := inv.todo
    rw [next, filter_cons_of_pos rfl] at todo
    generalize rest.filter LteAction.isSensor = left at todo
    cases todo
    rfl
  rw [Threads.put, if_pos room]
  refine inv.frame _ (left ▸ .nothing) rfl ?_ rfl rfl ?_
  · rw [next]
    rfl
  · rw [next, countP_cons_of_pos rfl]
    simp [waiting, countP_append, QueuedMsg.isSensorAck]
    omega

lemma lteStep (room : sys.RoomForAck .lteStep) (next : sys.todo = action :: rest) :
    ({ sys with todo := rest }.lteCall action).SensorInv ∧
    (({ sys with todo := rest }.lteCall action).slot.Agrees ↔ sys.slot.Agrees ∧ sys.SlotKept .lteStep) := by
  simp only [RoomForAck, next] at room
  simp only [SlotKept, next]
  cases action with
  | checkAck | setSystemTime =>
    obtain ⟨kept, same⟩ := inv.popped next rfl
    exact ⟨kept, agrees_same same⟩
  | saveSensorRsp rsp =>
    obtain ⟨kept, written, guarded⟩ := inv.save next
    refine ⟨kept, ?_⟩
    change Slot.Agrees (slot { sys with todo := rest, sensorBleRsp := rsp }) ↔ _
    rw [written]
    exact (Slot.agrees_write inv.fresh rsp.type).trans (and_congr_right' guarded.symm)
  | sendUploadTagAndMac =>
    obtain ⟨popped, same⟩ := inv.popped next rfl
    obtain ⟨kept, still⟩ := popped.put (.uploadTagAndMac (sys.lines.length - 1)) rfl
    exact ⟨kept, agrees_same (still.trans same)⟩
  | sendSensorLteAck =>
    obtain ⟨kept, same⟩ := inv.sendAck next room
    exact ⟨kept, agrees_same same⟩

lemma line (free : sys.todo = []) (line : ReplyLine) :
    { sys with todo := (myBleHandle line.text).2, lines := sys.lines ++ [line] }.SensorInv ∧
    { sys with todo := (myBleHandle line.text).2, lines := sys.lines ++ [line] }.slot = sys.slot := by
  have written : sys.slot.written = sensorReplies sys.lines := by
    have saved := inv.saved
    rwa [free, show unsaved [] = [] from rfl, append_nil] at saved
  have tokens := inv.tokens
  rw [free, countP_nil] at tokens
  obtain ⟨todo, news, sends⟩ : SensorTodo ((myBleHandle line.text).2.filter isSensor) ∧
      unsaved (myBleHandle line.text).2 = (sensorReply line.text).toList ∧
      (myBleHandle line.text).2.countP isSensorSend = (sensorReply line.text).toList.length := by
    rw [← unsaved_sensor, ← sends_sensor]
    rcases myBleHandle_sensor line.text with ⟨none, nothing⟩ | ⟨rsp, some, both⟩
    · rw [none, nothing]
      exact ⟨.nothing, rfl, rfl⟩
    · rw [some, both]
      exact ⟨.save rsp, rfl, rfl⟩
  have saved : sys.slot.written ++ unsaved (myBleHandle line.text).2 = sensorReplies (sys.lines ++ [line]) := by
    rw [written, news, sensorReplies_concat]
  have same : { sys with todo := (myBleHandle line.text).2, lines := sys.lines ++ [line] }.slot = sys.slot :=
    Slot.ext rfl (slot_written saved) rfl
  refine ⟨⟨todo, same ▸ saved, ?_, same ▸ inv.fresh⟩, same⟩
  change _ + _ + (myBleHandle line.text).2.countP isSensorSend = (sensorReplies (sys.lines ++ [line])).length
  rw [sends, sensorReplies_concat, length_append]
  exact congrArg (· + _) tokens

end SensorInv

variable [Crc32Ieee]

lemma SensorInv.handle (inv : sys.SensorInv) (env : BleEnv) {msg} (taken : sys.current = some msg) :
    ({ sys with current := none }.handleMsg env msg).SensorInv ∧
    (({ sys with current := none }.handleMsg env msg).slot.Agrees ↔ sys.slot.Agrees) := by
  have queue : sys.waiting = msg :: sys.msgq := by rw [waiting, taken]; rfl
  have passed : ∀ after : Threads, msg.isSensorAck = false → after.todo = sys.todo → after.lines = sys.lines →
      after.sensorBleRsp = sys.sensorBleRsp → after.sensorAcks = sys.sensorAcks → after.waiting = sys.msgq →
      after.SensorInv ∧ (after.slot.Agrees ↔ sys.slot.Agrees) := by
    intro after other todo lines rsp acks left
    obtain ⟨kept, same⟩ := inv.frame after (todo ▸ inv.todo) lines (by rw [todo]) rsp acks (by
      rw [left, queue, todo, countP_cons_of_neg (by simp [other])])
    exact ⟨kept, by rw [same]⟩
  cases msg with
  | uploadTagAndMac | posted | foreign => exact passed _ rfl rfl rfl rfl rfl rfl
  | sensorLteAck =>
    have tokens := inv.tokens
    rw [queue, countP_cons_of_pos rfl] at tokens
    have token : sys.slot.reads.length < sys.slot.written.length := by
      have saved := congrArg List.length inv.saved
      have later := inv.todo.unsaved_le
      rw [unsaved_sensor, sends_sensor] at later
      rw [length_append] at saved
      change sys.sensorAcks.length < _
      omega
    have read : ({ sys with current := none }.handleMsg env .sensorLteAck).slot = sys.slot.read := rfl
    refine ⟨⟨inv.todo, inv.saved, ?_, inv.fresh.read token⟩, ?_⟩
    · change (sys.sensorAcks ++ [_]).length + sys.msgq.countP _ + sys.todo.countP _ = (sensorReplies sys.lines).length
      rw [length_append, length_singleton, ← tokens]
      omega
    · rw [read]
      exact Slot.agrees_read token

lemma SensorInv.step (inv : sys.SensorInv) {event} (room : sys.RoomForAck event) :
    (sys.step event).SensorInv ∧ ((sys.step event).slot.Agrees ↔ sys.slot.Agrees ∧ sys.SlotKept event) := by
  cases event with
  | line text answers =>
    simp only [Threads.step]
    split
    · next free =>
      obtain ⟨kept, same⟩ := inv.line free ⟨text, answers.filter (· < (scanPackets sys.ble).length)⟩
      exact ⟨kept, agrees_same same⟩
    · exact ⟨inv, agrees_same rfl⟩
  | lteStep =>
    simp only [Threads.step]
    split
    · next free => exact ⟨inv, by simp [SlotKept, free]⟩
    · next action rest next => exact inv.lteStep room next
  | post msg =>
    obtain ⟨kept, same⟩ := inv.put (.posted msg) rfl
    exact ⟨kept, agrees_same same⟩
  | postForeign =>
    obtain ⟨kept, same⟩ := inv.put .foreign rfl
    exact ⟨kept, agrees_same same⟩
  | recv =>
    simp only [Threads.step]
    split
    · next msg rest free queue =>
      obtain ⟨kept, same⟩ := inv.frame { sys with current := some msg, msgq := rest } inv.todo rfl rfl rfl rfl
        (by simp [waiting, free, queue])
      exact ⟨kept, agrees_same same⟩
    · exact ⟨inv, agrees_same rfl⟩
  | handle env =>
    simp only [Threads.step]
    split
    · exact ⟨inv, agrees_same rfl⟩
    · next msg taken =>
      obtain ⟨kept, same⟩ := inv.handle env taken
      exact ⟨kept, same.trans (and_true _).symm.to_iff⟩

lemma SensorInv.start (env mode) (media : (type : FsDataType) → FsMedia (FsRecord type)) :
    (start env mode media).SensorInv :=
  ⟨.nothing, rfl, rfl, Nat.le_refl _, nofun⟩

end Threads

/-- The replies processed come in the order of the replies received if the slot is always kept; and once nothing waits
any more, the two sequences are equal exactly if it was. -/
theorem sensor_replies_processed_iff [Crc32Ieee] (env : BleEnv) (mode : ScanMode)
    (media : (type : FsDataType) → FsMedia (FsRecord type)) {events : List ThreadEvent}
    (room : Along Threads.step Threads.RoomForAck (.start env mode media) events) :
    let sys := events.foldl Threads.step (.start env mode media)
    let kept := Along Threads.step Threads.SlotKept (.start env mode media) events
    (kept → sys.sensorAcks <+: sensorReplies sys.lines) ∧
    (sys.todo = [] → (∀ msg ∈ sys.waiting, msg.isSensorAck = false) →
      (sys.sensorAcks = sensorReplies sys.lines ↔ kept)) := by
  have start := Threads.SensorInv.start env mode media
  have inv := room.invariant Threads.SensorInv (fun _ _ inv room => (inv.step room).1) start
  have agrees : (events.foldl Threads.step (Threads.start env mode media)).slot.Agrees ↔ _ ∧
      Along Threads.step Threads.SlotKept (.start env mode media) events :=
    along_iff Threads.SensorInv (fun sys => sys.slot.Agrees) (fun _ _ inv room => (inv.step room).1)
      (fun _ _ inv room => (inv.step room).2) start room
  rw [and_iff_right ⟨rfl, nofun⟩] at agrees
  intro sys kept
  constructor
  · intro along
    exact (agrees.mpr along).in_order.trans ⟨_, inv.saved⟩
  · intro free none
    have written : sys.slot.written = sensorReplies sys.lines := by
      have saved := inv.saved
      rwa [show (events.foldl Threads.step (Threads.start env mode media)).todo = [] from free,
        show unsaved [] = [] from rfl, append_nil] at saved
    rw [← written]
    refine (Slot.agrees_drained (s := sys.slot) ?_).symm.trans agrees
    rw [written, ← inv.tokens, show (events.foldl Threads.step (Threads.start env mode media)).todo = [] from free,
      countP_eq_zero.mpr fun msg member => by rw [none msg member]; exact Bool.false_ne_true]
    rfl

def replyLine (text : String) : List ThreadEvent := [.line text.toList none, .lteStep, .lteStep, .lteStep]

theorem sensor_replies_one_by_one :
    let events := replyLine "TH=OK" ++ [.recv, .handle .ok] ++ replyLine "CDATA=OK,START" ++ [.recv, .handle .ok]
    let sys := events.foldl Threads.step (.start .ok .off blankMedia)
    sensorReplies sys.lines = [.th, .cdata] ∧ sys.sensorAcks = sensorReplies sys.lines :=
  ⟨by decide +kernel, ((sensor_replies_processed_iff .ok .off blankMedia (by decide +kernel)).2 (by decide +kernel)
    (by decide +kernel)).mpr (by decide +kernel)⟩

theorem slot_overwritten :
    let events := replyLine "TH=OK" ++ replyLine "CDATA=OK,START" ++ [.recv, .handle .ok, .recv, .handle .ok]
    let sys := events.foldl Threads.step (.start .ok .off blankMedia)
    Along Threads.step Threads.RoomForAck (.start .ok .off blankMedia) events ∧ sys.todo = [] ∧ sys.waiting.length = 0 ∧
      sensorReplies sys.lines = [.th, .cdata] ∧ sys.sensorAcks = [.cdata, .cdata] := by
  decide +kernel

end LL320D.BleScan
