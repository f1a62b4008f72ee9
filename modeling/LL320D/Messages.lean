import LL320D.FlashStore
import LL320D.Library.Machine
import LL320D.Library.Ring

/-! Messages between the threads: those with a payload, which one task allocates and another frees; the queries `PATM#`,
`TEMP#` and `STATUS#`; and the samples that the control thread hands to the BLE thread. -/

namespace LL320D.Messages
inductive Module where
  | main
  | ble
  | ctrl
  | lte
  | magneticUart
  | gsensor
  deriving DecidableEq

def Module.all : List Module := [.main, .ble, .ctrl, .lte, .magneticUart, .gsensor]

inductive MsgId where
  | workModeSwitch
  | bleTx
  | lteCmdRx
  | ctrlBuzzerMode
  | lteBleData
  | addRetransQueue
  | other
  deriving DecidableEq

structure Msg where
  msgId : MsgId
  pData : Option Nat
  deriving DecidableEq

inductive Sender where
  | switchWorkMode
  | sendLteMsg
  | lteSendCommand
  | lteSendCmdWithRetry
  | asyncMatchAndResp
  | lteCmdForwarding
  | sendBleMsg
  | mySetBuzzerMode
  deriving DecidableEq

def Sender.dest : Sender → Module
  | .switchWorkMode => .main
  | .sendLteMsg | .lteSendCommand | .lteSendCmdWithRetry | .asyncMatchAndResp => .lte
  | .lteCmdForwarding | .sendBleMsg => .ble
  | .mySetBuzzerMode => .ctrl

def Sender.msgId : Sender → MsgId
  | .switchWorkMode => .workModeSwitch
  | .sendLteMsg | .lteSendCommand | .asyncMatchAndResp => .lteBleData
  | .lteSendCmdWithRetry => .addRetransQueue
  | .lteCmdForwarding => .lteCmdRx
  | .sendBleMsg => .bleTx
  | .mySetBuzzerMode => .ctrlBuzzerMode

/-- The cases in which the loop of a task uses the payload and frees it; in all others it does neither. -/
def Module.frees : Module → MsgId → Bool
  | .main, .workModeSwitch => true
  | .ble, .bleTx => true
  | .ble, .lteCmdRx => true
  | .ctrl, .ctrlBuzzerMode => true
  | .lte, .lteBleData => true
  | .lte, .addRetransQueue => true
  | _, _ => false

inductive Op where
  | use (buffer : Nat)
  | free (buffer : Nat)
  deriving DecidableEq

def msgqSize : Nat := 10

structure Task where
  msgq : List Msg
  registered : Bool
  current : Option (Msg × Bool)
  deriving DecidableEq

def Task.enqueue (task : Task) (msg : Msg) : Task := { task with msgq := task.msgq ++ [msg] }

def Task.HasRoom (task : Task) : Prop := task.registered ∧ task.msgq.length < msgqSize

instance (task : Task) : Decidable task.HasRoom := inferInstanceAs (Decidable (_ ∧ _))

structure System where
  task : Module → Task
  sending : List (Sender × Nat)
  allocated : Nat
  ops : List Op

inductive Event where
  | malloc (sender : Sender) (granted : Bool)
  | send (index : Nat)
  | post (dest : Module)
  | register (mod : Module)
  | receive (mod : Module)
  | handle (mod : Module)
  | finish (mod : Module)
  | purge
  deriving DecidableEq

namespace System

def start : System where
  task _ := { msgq := [], registered := false, current := none }
  sending := []
  allocated := 0
  ops := []

def setTask (s : System) (mod : Module) (task : Task) : System := { s with task := Function.update s.task mod task }

/-- `k_msgq_put` without waiting, for `my_send_msg_data`: a message that finds no room is forgotten. -/
def mySendMsgData (s : System) (dest : Module) (msg : Msg) : System :=
  if (s.task dest).HasRoom then s.setTask dest ((s.task dest).enqueue msg) else s

def receive (s : System) (mod : Module) : System :=
  match (s.task mod).current, (s.task mod).msgq with
  | none, msg :: rest => s.setTask mod { s.task mod with msgq := rest, current := some (msg, false) }
  | _, _ => s

def buffer (mod : Module) (msg : Msg) : Option Nat := if mod.frees msg.msgId then msg.pData else none

def handle (s : System) (mod : Module) : System :=
  match (s.task mod).current with
  | some (msg, false) =>
    { s.setTask mod { s.task mod with current := some (msg, true) } with
      ops := s.ops ++ (buffer mod msg).toList.map .use }
  | _ => s

def finish (s : System) (mod : Module) : System :=
  match (s.task mod).current with
  | some (msg, true) =>
    { s.setTask mod { s.task mod with current := none } with ops := s.ops ++ (buffer mod msg).toList.map .free }
  | _ => s

def step (s : System) : Event → System
  | .malloc sender granted =>
    if granted then
      { s with
        sending := s.sending ++ [(sender, s.allocated)]
        allocated := s.allocated + 1
        ops := s.ops ++ [.use s.allocated] }
    else s
  | .send index =>
    match s.sending[index]? with
    | some (sender, buffer) =>
      { s with sending := s.sending.eraseIdx index }.mySendMsgData sender.dest
        { msgId := sender.msgId, pData := some buffer }
    | none => s
  | .post dest => s.mySendMsgData dest { msgId := .other, pData := none }
  | .register mod => s.setTask mod { s.task mod with registered := true }
  | .receive mod => s.receive mod
  | .handle mod => s.handle mod
  | .finish mod => s.finish mod
  | .purge => s.setTask .lte { s.task .lte with msgq := [] }

def taskEvent (s : System) (mod : Module) : Event :=
  match (s.task mod).current with
  | none => .receive mod
  | some (_, false) => .handle mod
  | some (_, true) => .finish mod

def runTask (mod : Module) : Nat → System → System
  | 0, s => s
  | n + 1, s => runTask mod n (s.step (s.taskEvent mod))

def settleTasks : List Module → System → System
  | [], s => s
  | mod :: mods, s => settleTasks mods (runTask mod (3 * (s.task mod).msgq.length + 2) s)

def settle (s : System) : System := settleTasks Module.all s

end System

end LL320D.Messages

namespace LL320D.QueryReply
inductive Query where
  | patm
  | temp
  | status
  deriving DecidableEq

inductive Source (Id : Type) where
  | ble
  | lte (id : Id)
  deriving DecidableEq

structure Asked (Id : Type) where
  query : Query
  source : Source Id
  deriving DecidableEq

/-- An answer over Bluetooth, an answer `OK,<id>,…` over LTE, or a text `RETURN_MCU_…` over LTE. -/
inductive Reply (Id : Type) where
  | ble
  | lte (id : Id)
  | returnMcu
  deriving DecidableEq

def Source.reply {Id : Type} : Source Id → Reply Id
  | .ble => .ble
  | .lte id => .lte id

inductive Ble (Id : Type) where
  | idle
  | named (id : Id) (command : Option Query)
  | marked (id : Id) (command : Option Query)
  | dispatched
  deriving DecidableEq

inductive Ctrl (Id : Type) where
  | waiting
  | reading (asked : Asked Id)
  /-- In front of `if (g_lte_cmdSource)`. -/
  | checking (asked : Asked Id)
  | clearing (asked : Asked Id)
  /-- In front of the text with `g_id`. -/
  | replying (asked : Asked Id)
  deriving DecidableEq

/-- In the queue a message that is no query is `none`. The last two fields are the queries accepted and the answers
sent. -/
structure System (Id : Type) where
  lteCmdSource : Bool
  id : Id
  timer : Bool
  msgq : List (Option (Asked Id))
  ble : Ble Id
  ctrl : Ctrl Id
  accepted : List (Asked Id)
  answers : List (Asked Id × Reply Id)
  deriving DecidableEq

inductive Event (Id : Type) where
  | bleCmd (command : Option Query)
  | lteCmd (id : Id) (command : Option Query)
  /-- An `LTE+CMD` without a command, which still writes `g_id`. -/
  | lteBare (id : Id)
  | setSource
  | dispatch
  | startTimer
  | timer
  | post
  | receive
  /-- The sensor read returns a value, negative if it failed; an answer that follows at once is sent if there is memory
  and room for it. -/
  | read (value : Int) (sent : Bool)
  | check (sent : Bool)
  | clearSource
  | reply (sent : Bool)
  deriving DecidableEq

inductive Outcome where
  | returnMcu
  | bySource
  deriving DecidableEq

def sensorRead (lteFactory : Bool) (value : Int) : Outcome :=
  if value < 0 then
    if !lteFactory then .returnMcu else .bySource
  else if lteFactory then .returnMcu
  else .bySource

/-- `device_status_read` shows a failed read as a dash. -/
def queryRead (lteFactory : Bool) (value : Int) : Query → Outcome
  | .patm => sensorRead lteFactory value
  | .temp => sensorRead lteFactory value
  | .status => .bySource

namespace System

variable {Id : Type}

def start (id : Id) : System Id := ⟨false, id, false, [], .idle, .waiting, [], []⟩

def ctrlMsgqSize : Nat := 10

def hasRoom (s : System Id) : Bool := s.msgq.length < ctrlMsgqSize

def mySendMsg (s : System Id) (msg : Option (Asked Id)) : System Id :=
  if s.hasRoom then { s with msgq := s.msgq ++ [msg] } else s

/-- `at_recv_cmd_handler`: a query is accepted and passed to the control thread; any other command is answered at
once. -/
def atRecvCmdHandler (s : System Id) (source : Source Id) : Option Query → System Id
  | some query => { s.mySendMsg (some ⟨query, source⟩) with accepted := s.accepted ++ [⟨query, source⟩] }
  | none => s

def answer (s : System Id) (asked : Asked Id) (reply : Reply Id) (sent : Bool) : System Id :=
  { s with ctrl := .waiting, answers := if sent then s.answers ++ [(asked, reply)] else s.answers }

def step (s : System Id) : Event Id → System Id
  | .bleCmd command =>
    match s.ble with
    | .idle => s.atRecvCmdHandler .ble command
    | _ => s
  | .lteCmd id command =>
    match s.ble with
    | .idle => { s with id := id, ble := .named id command }
    | _ => s
  | .lteBare id =>
    match s.ble with
    | .idle => { s with id := id }
    | _ => s
  | .setSource =>
    match s.ble with
    | .named id command => { s with lteCmdSource := true, ble := .marked id command }
    | _ => s
  | .dispatch =>
    match s.ble with
    | .marked id command => { s.atRecvCmdHandler (.lte id) command with ble := .dispatched }
    | _ => s
  | .startTimer =>
    match s.ble with
    | .dispatched => { s with timer := true, ble := .idle }
    | _ => s
  | .timer => if s.timer then { s with timer := false, lteCmdSource := false } else s
  | .post => s.mySendMsg none
  | .receive =>
    match s.ctrl, s.msgq with
    | .waiting, some asked :: rest => { s with ctrl := .reading asked, msgq := rest }
    | .waiting, none :: rest => { s with msgq := rest }
    | _, _ => s
  | .read value sent =>
    match s.ctrl with
    | .reading asked =>
      match queryRead false value asked.query with
      | .returnMcu => s.answer asked .returnMcu sent
      | .bySource => { s with ctrl := .checking asked }
    | _ => s
  | .check sent =>
    match s.ctrl with
    | .checking asked => if s.lteCmdSource then { s with ctrl := .clearing asked } else s.answer asked .ble sent
    | _ => s
  | .clearSource =>
    match s.ctrl with
    | .clearing asked => { s with lteCmdSource := false, ctrl := .replying asked }
    | _ => s
  | .reply sent =>
    match s.ctrl with
    | .replying asked => s.answer asked (.lte s.id) sent
    | _ => s

end System

end LL320D.QueryReply

namespace LL320D.SampleHandover
open Library

inductive Kind where
  | th
  | bp
  deriving DecidableEq

abbrev Sample : Kind → Type
  | .th => FsTempHumiRecord
  | .bp => FsBarometerRecord

instance (kind : Kind) : Inhabited (Sample kind) :=
  match kind with
  | .th => inferInstanceAs (Inhabited FsTempHumiRecord)
  | .bp => inferInstanceAs (Inhabited FsBarometerRecord)

instance (kind : Kind) : DecidableEq (Sample kind) :=
  match kind with
  | .th => inferInstanceAs (DecidableEq FsTempHumiRecord)
  | .bp => inferInstanceAs (DecidableEq FsBarometerRecord)

abbrev AnySample : Type := (kind : Kind) × Sample kind

abbrev Field := Fin 3

def Sample.mix : (kind : Kind) → (Field → Bool) → Sample kind → Sample kind → Sample kind
  | .th, mask, a, b =>
    ⟨if mask 0 then b.timestamp else a.timestamp, if mask 1 then b.temperatureX10 else a.temperatureX10,
      if mask 2 then b.humidityX10 else a.humidityX10⟩
  | .bp, mask, a, b =>
    ⟨if mask 0 then b.timestamp else a.timestamp, if mask 1 then b.pressurePa else a.pressurePa⟩

instance (kind : Kind) : Parts (Sample kind) Field where
  mix := Sample.mix kind
  mix_self mask a := by cases kind <;> simp [Sample.mix]
  mix_none a b := by cases kind <;> simp [Sample.mix]
  mix_all mask a b all := by cases kind <;> simp [Sample.mix, all]
  mix_mix seen mask a b := by
    cases kind
    · simp only [Sample.mix]
      congr 1 <;> split <;> simp_all
    · simp only [Sample.mix]
      congr 1 <;> split <;> simp_all

inductive Msg where
  | sample (kind : Kind)
  | other
  deriving DecidableEq

inductive Ctrl where
  | idle
  | copying (kind : Kind) (record : Sample kind)
  | copied (kind : Kind) (record : Sample kind)

inductive Ble where
  | waiting
  | received (kind : Kind)
  | formatting (kind : Kind) (text : Copy (Sample kind) Field)
  | pushing (kind : Kind) (record : Copy (Sample kind) Field)

/-- `g_temp_humi_sample` and `g_barometer_sample`, the queue and the two threads; with the samples that were sent and
those that were uploaded or pushed to the flash store. -/
structure System where
  global : (kind : Kind) → Sample kind
  msgq : List Msg
  ctrl : Ctrl
  ble : Ble
  sent : List AnySample
  processed : List AnySample

inductive Event where
  | collect (kind : Kind) (record : Sample kind)
  | memcpy (mask : Field → Bool)
  | copied
  | send
  | post
  | receive
  | start (lteReady : Bool)
  | read (mask : Field → Bool)
  | upload (succeeds : Bool)
  | push

namespace System

def initial : System := ⟨fun _ => default, [], .idle, .waiting, [], []⟩

def bleMsgqSize : Nat := 10

def hasRoom (s : System) : Bool := s.msgq.length < bleMsgqSize

def mySendMsg (s : System) (msg : Msg) : System := if s.hasRoom then { s with msgq := s.msgq ++ [msg] } else s

def done (s : System) (kind : Kind) (sample : Sample kind) : System :=
  { s with ble := .waiting, processed := s.processed ++ [⟨kind, sample⟩] }

def step (s : System) : Event → System
  | .collect kind record =>
    match s.ctrl with
    | .idle => { s with ctrl := .copying kind record }
    | _ => s
  | .memcpy mask =>
    match s.ctrl with
    | .copying kind record => { s with global := Function.update s.global kind (Parts.mix mask (s.global kind) record) }
    | _ => s
  | .copied =>
    match s.ctrl with
    | .copying kind record => { s with global := Function.update s.global kind record, ctrl := .copied kind record }
    | _ => s
  | .send =>
    match s.ctrl with
    | .copied kind record =>
      { s.mySendMsg (.sample kind) with ctrl := .idle, sent := s.sent ++ [⟨kind, record⟩] }
    | _ => s
  | .post => s.mySendMsg .other
  | .receive =>
    match s.ble, s.msgq with
    | .waiting, .sample kind :: rest => { s with ble := .received kind, msgq := rest }
    | .waiting, .other :: rest => { s with msgq := rest }
    | _, _ => s
  | .start lteReady =>
    match s.ble with
    | .received kind =>
      { s with ble := if lteReady then .formatting kind (.blank default) else .pushing kind (.blank default) }
    | _ => s
  | .read mask =>
    match s.ble with
    | .formatting kind text => { s with ble := .formatting kind (text.read mask (s.global kind)) }
    | .pushing kind record => { s with ble := .pushing kind (record.read mask (s.global kind)) }
    | _ => s
  | .upload succeeds =>
    match s.ble with
    | .formatting kind text =>
      if text.Complete then
        if succeeds then s.done kind text.value else { s with ble := .pushing kind (.blank default) }
      else s
    | _ => s
  | .push =>
    match s.ble with
    | .pushing kind record => if record.Complete then s.done kind record.value else s
    | _ => s

end System

end LL320D.SampleHandover
