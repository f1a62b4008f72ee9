import LL320D.Library.Machine
import LL320D.Library.Ring

/-! Transmission to the LTE module, from `my_lte.c`: the messages that wait until it is ready, the two threads that send
over the UART, the interrupt at the end of a transmission, and the suspension of the UART. -/

namespace LL320D.LteQueue
open Library

abbrev Msg := List UInt8

def lteMsgQueueSize : Nat := 10

def uartTxBufferSize : Nat := 1024

def einval : Int := 22
def enomem : Int := 12

/-- `lte_msg_queue_t`; an element whose `msg_content` is `NULL` is `none`. -/
structure MsgQueue where
  queue : Nat → Option Msg
  head : Nat
  tail : Nat
  count : Nat

namespace MsgQueue

def empty : MsgQueue := ⟨fun _ => none, 0, 0, 0⟩

def pending (q : MsgQueue) : List Msg := (window q.queue lteMsgQueueSize q.head q.count).filterMap id

def removeOldest (q : MsgQueue) : MsgQueue where
  queue := Function.update q.queue q.head none
  head := (q.head + 1) % lteMsgQueueSize
  tail := q.tail
  count := q.count - 1

def store (q : MsgQueue) (msg : Msg) : MsgQueue where
  queue := Function.update q.queue q.tail (some msg)
  head := q.head
  tail := (q.tail + 1) % lteMsgQueueSize
  count := q.count + 1

def myLteEnqueueMsg (q : MsgQueue) (msg : Msg) (malloc : Bool) : Int × MsgQueue :=
  if msg.length = 0 then (-einval, q)
  else
    let q := if lteMsgQueueSize ≤ q.count then q.removeOldest else q
    if malloc then (0, q.store msg) else (-enomem, q)

end MsgQueue

structure System where
  msgQueue : MsgQueue
  ready : Bool
  queued : List Msg
  handed : List Msg

namespace System

def start : System := ⟨.empty, false, [], []⟩

def pending (s : System) : List Msg := s.msgQueue.pending

/-- `my_lte_uart_send`: behind its own checks the result is that of resuming the UART, of the semaphore or of
`uart_tx`. It is 0 exactly if `uart_tx` has taken the message. -/
def myLteUartSend (ready : Bool) (msg : Msg) (result : Int) : Int :=
  if ¬ ready then -1 else if uartTxBufferSize < msg.length then -1 else result

/-- A call of `my_lte_send_msg`, with the results of what it calls. A `NULL` message has length 0. -/
structure Send where
  msg : Msg
  malloc : Bool
  uart : Int
  deriving DecidableEq

def myLteSendMsg (s : System) (send : Send) : Int × System :=
  if send.msg.length = 0 then (-einval, s)
  else if s.ready then (myLteUartSend s.ready send.msg send.uart, s)
  else
    match s.msgQueue.myLteEnqueueMsg send.msg send.malloc with
    | (ret, msgQueue) => (ret, { s with msgQueue, queued := if ret = 0 then s.queued ++ [send.msg] else s.queued })

/-- One turn of the loop of `my_lte_process_queued_msgs`: the result of `my_lte_uart_send` is not looked at. -/
def sendOldest (s : System) (uart : Int) : System :=
  let handed :=
    match s.msgQueue.queue s.msgQueue.head with
    | some msg => if myLteUartSend s.ready msg uart = 0 then s.handed ++ [msg] else s.handed
    | none => s.handed
  { s with msgQueue := s.msgQueue.removeOldest, handed }

def sendOldestTimes : Nat → List Int → System → System
  | 0, _, s => s
  | n + 1, uart, s => sendOldestTimes n uart.tail (s.sendOldest (uart.headD 0))

/-- The loop ends when `count` is 0, and each turn takes one from it. -/
def myLteProcessQueuedMsgs (s : System) (uart : List Int) : System := sendOldestTimes s.msgQueue.count uart s

inductive Event where
  | send (send : Send)
  | setReady (ready : Bool)
  | process (uart : List Int)
  deriving DecidableEq

def step (s : System) : Event → System
  | .send send => (s.myLteSendMsg send).2
  | .setReady ready => { s with ready }
  | .process uart => s.myLteProcessQueuedMsgs uart

end System

end LL320D.LteQueue

namespace LL320D.LteUart
inductive Thread where
  | lte
  | ble
  deriving DecidableEq

inductive Pos where
  | idle
  /-- In `k_sem_take` for the end of the transmission before. -/
  | waiting (ymodem : Bool)
  /-- Behind it, in front of `tx_busy = true`. -/
  | taken (ymodem : Bool)
  /-- In front of the next `uart_tx`. -/
  | marked (ymodem : Bool)
  /-- In `k_sem_take` for the end of the wake-up bytes. -/
  | waking
  /-- Behind it, in front of the `uart_tx` of the data. -/
  | woken
  /-- Something has failed; in front of `tx_busy = false`, with or without the semaphore. -/
  | failed (token : Bool)
  | cleared (token : Bool)
  deriving DecidableEq

inductive Msg where
  | txDone
  | txAborted
  | uartIdle
  | pwroff
  | work
  deriving DecidableEq

inductive Task where
  | waiting
  | handling (msg : Msg)
  | working
  /-- `lte_uart_can_suspend` was true. -/
  | suspending
  /-- In `my_lte_pwroff_handle`, up to its `k_sem_give`. -/
  | offWaiting
  | offSuspending (token : Bool)
  | offClearing (token : Bool)
  | offGiving (token : Bool)
  deriving DecidableEq

/-- `s_lte_uart_ctx`, `s_TxDoneSem`, the queue and the two threads, with the number of calls of `uart_tx` under way and
whether the idle handling has suspended the UART under one. -/
structure System where
  txBusy : Bool
  active : Bool
  sem : Bool
  msgq : List Msg
  task : Task
  lte : Pos
  ble : Pos
  outstanding : Nat
  cut : Bool
  deriving DecidableEq

inductive Event where
  /-- A call that has passed its checks; `resumed`: they have resumed the UART, if it was not active
  (`my_pm_device_resume` may return 0 without that). -/
  | call (thread : Thread) (ymodem resumed : Bool)
  | takeSem (thread : Thread)
  | timeout (thread : Thread)
  | setBusy (thread : Thread)
  | wake (thread : Thread) (accepted : Bool)
  | takeWake (thread : Thread)
  | wakeTimeout (thread : Thread)
  | transmit (thread : Thread) (accepted : Bool)
  | clearBusy (thread : Thread)
  | giveSem (thread : Thread)
  | txDone
  | txAborted
  | idleTimer
  | post (msg : Msg)
  | recv
  /-- `quiet`: the other conditions of `lte_uart_can_suspend`; `blocked`: an upgrade or the factory mode. -/
  | handle (quiet blocked : Bool)
  | suspend (succeeds : Bool)
  | offTake
  | offTimeout
  | offSuspend (succeeds : Bool)
  | offClear
  | offGive
  | finish
  deriving DecidableEq

namespace System

/-- Behind `my_lte_init`: the semaphore is available, and the LTE thread is in front of its loop, where it sends its
first commands. -/
def start : System := ⟨false, false, true, [], .working, .idle, .idle, 0, false⟩

def lteMsgqSize : Nat := 10

def mySendMsg (s : System) (msg : Msg) : System :=
  if s.msgq.length < lteMsgqSize then { s with msgq := s.msgq ++ [msg] } else s

def pos (s : System) : Thread → Pos
  | .lte => s.lte
  | .ble => s.ble

def move (s : System) (thread : Thread) (pos : Pos) : System :=
  match thread with
  | .lte => { s with lte := pos }
  | .ble => { s with ble := pos }

def mayCall (s : System) : Thread → Bool
  | .lte => s.task = .working
  | .ble => true

def uartTx (s : System) (thread : Thread) (accepted : Bool) (behind : Pos) : System :=
  if accepted then { s.move thread behind with outstanding := s.outstanding + 1 } else s.move thread (.failed true)

def stepCall (s : System) (thread : Thread) (ymodem resumed : Bool) : System :=
  if s.pos thread = .idle ∧ s.mayCall thread then
    { s.move thread (.waiting ymodem) with active := s.active || resumed }
  else s

def stepTakeSem (s : System) (thread : Thread) : System :=
  match s.pos thread with
  | .waiting ymodem => if s.sem then { s.move thread (.taken ymodem) with sem := false } else s
  | _ => s

def stepTimeout (s : System) (thread : Thread) : System :=
  match s.pos thread with
  | .waiting _ => if s.sem then s else s.move thread .idle
  | _ => s

def stepSetBusy (s : System) (thread : Thread) : System :=
  match s.pos thread with
  | .taken ymodem => { s.move thread (.marked ymodem) with txBusy := true }
  | _ => s

def stepWake (s : System) (thread : Thread) (accepted : Bool) : System :=
  if s.pos thread = .marked false then s.uartTx thread accepted .waking else s

def stepTakeWake (s : System) (thread : Thread) : System :=
  if s.pos thread = .waking ∧ s.sem then { s.move thread .woken with sem := false } else s

def stepWakeTimeout (s : System) (thread : Thread) : System :=
  if s.pos thread = .waking ∧ ¬ s.sem then s.move thread (.failed false) else s

def stepTransmit (s : System) (thread : Thread) (accepted : Bool) : System :=
  match s.pos thread with
  | .marked _ => s.uartTx thread accepted .idle
  | .woken => s.uartTx thread accepted .idle
  | _ => s

def stepClearBusy (s : System) (thread : Thread) : System :=
  match s.pos thread with
  | .failed token => { s.move thread (.cleared token) with txBusy := false }
  | _ => s

def stepGiveSem (s : System) (thread : Thread) : System :=
  match s.pos thread with
  | .cleared _ => { s.move thread .idle with sem := true }
  | _ => s

def stepTxEnd (s : System) (msg : Msg) : System :=
  if 0 < s.outstanding then { s.mySendMsg msg with outstanding := s.outstanding - 1, sem := true } else s

def stepRecv (s : System) : System :=
  match s.task, s.msgq with
  | .waiting, .work :: rest => { s with task := .working, msgq := rest }
  | .waiting, msg :: rest => { s with task := .handling msg, msgq := rest }
  | _, _ => s

def stepHandle (s : System) (quiet blocked : Bool) : System :=
  match s.task with
  | .handling .txDone => { s with txBusy := false, task := .waiting }
  | .handling .txAborted => { s with txBusy := false, task := .waiting }
  | .handling .uartIdle => { s with task := if s.active ∧ quiet ∧ ¬ s.txBusy then .suspending else .waiting }
  | .handling .pwroff =>
    { s with task := if blocked then .waiting else if s.txBusy then .offWaiting else .offSuspending false }
  | _ => s

def stepSuspend (s : System) (succeeds : Bool) : System :=
  match s.task with
  | .suspending =>
    { s with
      task := .waiting
      active := if succeeds then false else s.active
      cut := s.cut || (succeeds && 0 < s.outstanding) }
  | _ => s

def stepOffTake (s : System) : System :=
  if s.task = .offWaiting ∧ s.sem then { s with task := .offSuspending true, sem := false } else s

def stepOffTimeout (s : System) : System :=
  if s.task = .offWaiting ∧ ¬ s.sem then { s with task := .offSuspending false } else s

def stepOffSuspend (s : System) (succeeds : Bool) : System :=
  match s.task with
  | .offSuspending token => { s with task := .offClearing token, active := s.active && !succeeds }
  | _ => s

def stepOffClear (s : System) : System :=
  match s.task with
  | .offClearing token => { s with task := .offGiving token, txBusy := false }
  | _ => s

def stepOffGive (s : System) : System :=
  match s.task with
  | .offGiving _ => { s with task := .waiting, sem := true }
  | _ => s

def stepFinish (s : System) : System :=
  if s.task = .working ∧ s.lte = .idle then { s with task := .waiting } else s

def step (s : System) : Event → System
  | .call thread ymodem resumed => s.stepCall thread ymodem resumed
  | .takeSem thread => s.stepTakeSem thread
  | .timeout thread => s.stepTimeout thread
  | .setBusy thread => s.stepSetBusy thread
  | .wake thread accepted => s.stepWake thread accepted
  | .takeWake thread => s.stepTakeWake thread
  | .wakeTimeout thread => s.stepWakeTimeout thread
  | .transmit thread accepted => s.stepTransmit thread accepted
  | .clearBusy thread => s.stepClearBusy thread
  | .giveSem thread => s.stepGiveSem thread
  | .txDone => s.stepTxEnd .txDone
  | .txAborted => s.stepTxEnd .txAborted
  | .idleTimer => s.mySendMsg .uartIdle
  | .post msg => s.mySendMsg msg
  | .recv => s.stepRecv
  | .handle quiet blocked => s.stepHandle quiet blocked
  | .suspend succeeds => s.stepSuspend succeeds
  | .offTake => s.stepOffTake
  | .offTimeout => s.stepOffTimeout
  | .offSuspend succeeds => s.stepOffSuspend succeeds
  | .offClear => s.stepOffClear
  | .offGive => s.stepOffGive
  | .finish => s.stepFinish

end System

end LL320D.LteUart
