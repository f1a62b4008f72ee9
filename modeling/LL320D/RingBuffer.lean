import LL320D.Library.Machine

/-! The byte ring buffer of `my_ring_buf.c`: its calls one after the other, and one writer and one
reader whose loops are interleaved between any two accesses to what they share. -/

namespace LL320D.Uart

def u32 (n : Nat) : Nat := n % 2 ^ 32

/-- `ring_buffer_t`; `accesses` lists every index at which `buf` was read or written. -/
structure RingBuffer where
  head : Nat
  tail : Nat
  buf : Nat → UInt8
  size : Nat
  accesses : List Nat

namespace RingBuffer

variable (rb : RingBuffer)

def myRbInit (buf : Nat → UInt8) (size : Nat) : Option RingBuffer :=
  if size < 2 then none else some { head := 0, tail := 0, buf, size, accesses := [] }

def myRbClear : RingBuffer := { rb with head := 0, tail := 0 }

def nextHead : Nat := u32 (rb.head + 1) % rb.size

def nextTail : Nat := u32 (rb.tail + 1) % rb.size

def store (byte : UInt8) : RingBuffer :=
  { rb with buf := Function.update rb.buf rb.head byte, accesses := rb.accesses ++ [rb.head] }

def load : UInt8 × RingBuffer := (rb.buf rb.tail, { rb with accesses := rb.accesses ++ [rb.tail] })

def myRbWrite (rb : RingBuffer) : List UInt8 → Nat × RingBuffer
  | [] => (0, rb)
  | byte :: rest =>
    if rb.nextHead = rb.tail then (0, rb)
    else
      let (written, after) := myRbWrite { rb.store byte with head := rb.nextHead } rest
      (written + 1, after)

def myRbRead (rb : RingBuffer) : Nat → List UInt8 × RingBuffer
  | 0 => ([], rb)
  | len + 1 =>
    if rb.head = rb.tail then ([], rb)
    else
      let (byte, loaded) := rb.load
      let (bytes, after) := myRbRead { loaded with tail := rb.nextTail } len
      (byte :: bytes, after)

def myRbGetUsedSize : Nat := u32 (u32 (rb.head + 2 ^ 32 - rb.tail) + rb.size) % rb.size

def myRbGetFreeSize : Nat := u32 (rb.size - 1 + 2 ^ 32 - rb.myRbGetUsedSize)

end RingBuffer

/-- An array in memory. None is as large as 2^31 bytes, so that a number of its bytes fits in the `int`
that a call returns. -/
abbrev Block := { data : List UInt8 // data.length < 2 ^ 31 }

inductive Call where
  | write (data : Block)
  | read (len : Fin (2 ^ 32))
  | clear

inductive Answer where
  | written (count : Nat)
  | bytes (data : List UInt8)
  | cleared
  deriving DecidableEq

def RingBuffer.call (rb : RingBuffer) : Call → Answer × RingBuffer
  | .write data =>
    let (count, after) := rb.myRbWrite data.val
    (.written count, after)
  | .read len =>
    let (data, after) := rb.myRbRead len.val
    (.bytes data, after)
  | .clear => (.cleared, rb.myRbClear)

/-- The same calls on a byte queue that holds at most `capacity` bytes. -/
def queueCall (capacity : Nat) (queue : List UInt8) : Call → Answer × List UInt8
  | .write data =>
    let count := min data.val.length (capacity - queue.length)
    (.written count, queue ++ data.val.take count)
  | .read len => (.bytes (queue.take len.val), queue.drop len.val)
  | .clear => (.cleared, [])

inductive Writer where
  | idle
  | check (data : List UInt8) (written : Nat)
  | store (data : List UInt8) (written nextHead : Nat)
  | advance (data : List UInt8) (written nextHead : Nat)
  deriving DecidableEq

inductive Reader where
  | idle
  | check (len : Nat) (data : List UInt8)
  | load (len : Nat) (data : List UInt8)
  | advance (len : Nat) (data : List UInt8) (nextTail : Nat)
  deriving DecidableEq

inductive Return where
  | write (data : List UInt8) (written : Nat) (appended : List UInt8) (held : Nat)
  | read (len : Nat) (data removed : List UInt8) (held : Nat)
  deriving DecidableEq

/-- `queue` gains a byte when `head` is stored and loses one when `tail` is stored; `appended` and `removed` are what the
calls under way have done to it. -/
structure Shared where
  rb : RingBuffer
  writer : Writer
  reader : Reader
  queue : List UInt8
  appended : List UInt8
  removed : List UInt8
  returned : List Return

namespace Shared

def start (rb : RingBuffer) : Shared where
  rb := rb
  writer := .idle
  reader := .idle
  queue := []
  appended := []
  removed := []
  returned := []

def stepWriter (s : Shared) : Shared :=
  match s.writer with
  | .idle => s
  | .check data written =>
    if written < data.length ∧ s.rb.nextHead ≠ s.rb.tail then { s with writer := .store data written s.rb.nextHead }
    else { s with writer := .idle, returned := s.returned ++ [.write data written s.appended s.queue.length] }
  | .store data written nextHead =>
    { s with rb := s.rb.store (data.getD written 0), writer := .advance data written nextHead }
  | .advance data written nextHead =>
    { s with
      rb := { s.rb with head := nextHead }
      writer := .check data (written + 1)
      queue := s.queue ++ [data.getD written 0]
      appended := s.appended ++ [data.getD written 0] }

def stepReader (s : Shared) : Shared :=
  match s.reader with
  | .idle => s
  | .check len data =>
    if data.length < len ∧ s.rb.head ≠ s.rb.tail then { s with reader := .load len data }
    else { s with reader := .idle, returned := s.returned ++ [.read len data s.removed s.queue.length] }
  | .load len data =>
    let (byte, loaded) := s.rb.load
    { s with rb := loaded, reader := .advance len (data ++ [byte]) s.rb.nextTail }
  | .advance len data nextTail =>
    { s with
      rb := { s.rb with tail := nextTail }
      reader := .check len data
      queue := s.queue.drop 1
      removed := s.removed ++ s.queue.take 1 }

end Shared

/-- While the other side works, a call can pass on more bytes than the buffer holds: the length it is given bounds the
number it returns. -/
inductive Event where
  | write (data : Block)
  | read (len : Fin (2 ^ 31))
  | clear
  | writer
  | reader

def Shared.step (s : Shared) : Event → Shared
  | .write data => if s.writer = .idle then { s with writer := .check data.val 0, appended := [] } else s
  | .read len => if s.reader = .idle then { s with reader := .check len.val [], removed := [] } else s
  | .clear => if s.writer = .idle ∧ s.reader = .idle then { s with rb := s.rb.myRbClear, queue := [] } else s
  | .writer => s.stepWriter
  | .reader => s.stepReader

def interleave (rb : RingBuffer) (events : List Event) : Shared := events.foldl Shared.step (Shared.start rb)

end LL320D.Uart
