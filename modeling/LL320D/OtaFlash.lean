import LL320D.Library.Machine
import LL320D.YmodemReceiver

/-! The OTA flash module `my_ota_flash.c`: at most one session writes an image into the partition `image_1`, through a
buffer of 1 KB. Over it the LTE front-end `my_dfu_lte.c`, with the Ymodem receiver. -/

namespace LL320D.Dfu

section
open Library

def flashSectorSize : Nat := 4096

def otaBufferSize : Nat := 1024

/-- `FLASH_AREA_SIZE(image_1)`: the size of `mcuboot_secondary`. -/
def partitionSize : Nat := 0x8e000

/-- `my_crc16_calc` with `MY_OTA_CRC16_POLYNOMIAL`. -/
def crc16 (data : List UInt8) : BitVec 16 := Crc.reflected 0xA001#16 0#16 data

inductive Errno where
  | ebusy
  | einval
  | efbig
  | eio
  | eoverflow
  | driver
  deriving DecidableEq

/-- What a call returns; with `fault` it does not return. -/
inductive Ret where
  | ok
  | err (errno : Errno)
  | fault
  deriving DecidableEq

/-- The flash driver during one step: which sectors can be erased, whether a write succeeds and what it leaves in flash
else, and whether the block can be read back. -/
structure FlashIo where
  erase : Nat → Bool
  write : Bool
  stored : Option (Nat → UInt8)
  read : Bool

def FlashIo.good : FlashIo where
  erase _ := true
  write := true
  stored := none
  read := true

def FlashIo.leaves (io : FlashIo) (block : List UInt8) : List UInt8 :=
  match io.stored with
  | none => block
  | some content => (List.range otaBufferSize).map content

inductive FlashOp where
  | erase (addr : Nat) (ok : Bool)
  | flush (addr : Nat) (ok : Bool)
  deriving DecidableEq

abbrev Image := Nat → UInt8

namespace Image

def write (image : Image) (addr : Nat) (block : List UInt8) : Image :=
  fun a => if addr ≤ a ∧ a < addr + block.length then block.getD (a - addr) 0xFF else image a

def read (image : Image) (addr len : Nat) : List UInt8 := (List.range len).map fun i => image (addr + i)

end Image

/-- The statics of the module and the partition. `overrun` tells that a copy has left the buffer;
`ops` is a history that the firmware does not keep. -/
structure OtaFlash where
  busy : Bool
  buf : List UInt8
  bufOffset : Nat
  blockAddr : Nat
  totalWritten : Nat
  fileSize : Nat
  overrun : Bool
  image : Image
  ops : List FlashOp

namespace OtaFlash

def init (image : Image) : OtaFlash where
  busy := false
  buf := List.replicate otaBufferSize 0
  bufOffset := 0
  blockAddr := 0
  totalWritten := 0
  fileSize := 0
  overrun := false
  image := image
  ops := []

def eraseLoop (io : FlashIo) : (fuel addr size : Nat) → OtaFlash → Ret × OtaFlash
  | 0, _, _, s => (.ok, s)
  | fuel + 1, addr, size, s =>
    if size = 0 then (.ok, s)
    else if io.erase addr then
      let s := { s with
        image := s.image.write addr (List.replicate flashSectorSize 0xFF), ops := s.ops ++ [.erase addr true] }
      if flashSectorSize < size then eraseLoop io fuel (addr + flashSectorSize) (size - flashSectorSize) s
      else (.ok, s)
    else (.err .driver, { s with ops := s.ops ++ [.erase addr false] })

def erase (io : FlashIo) (s : OtaFlash) (size : Nat) : Ret × OtaFlash :=
  eraseLoop io (size / flashSectorSize + 1) 0 size s

def block (s : OtaFlash) : List UInt8 := s.buf.take s.bufOffset ++ List.replicate (otaBufferSize - s.bufOffset) 0xFF

def written (io : FlashIo) (s : OtaFlash) (ok : Bool) : OtaFlash := { s with
    buf := s.block
    image := s.image.write s.blockAddr (io.leaves s.block)
    ops := s.ops ++ [.flush s.blockAddr ok] }

def readBack (io : FlashIo) (s : OtaFlash) : List UInt8 :=
  (s.image.write s.blockAddr (io.leaves s.block)).read s.blockAddr otaBufferSize

def flush (io : FlashIo) (s : OtaFlash) (isLast : Bool) : Ret × OtaFlash :=
  if s.bufOffset = 0 ∧ ¬ isLast then (.ok, s)
  else if ¬ io.write ∨ ¬ io.read then (.err .driver, s.written io false)
  else if crc16 s.block ≠ crc16 (s.readBack io) then (.err .eio, { s.written io false with buf := s.readBack io })
  else
    (.ok, { s.written io true with
      blockAddr := s.blockAddr + otaBufferSize, bufOffset := 0, buf := List.replicate otaBufferSize 0xFF })

def occupy (s : OtaFlash) : Bool × OtaFlash := if s.busy then (false, s) else (true, { s with busy := true })

def openFile (io : FlashIo) (s : OtaFlash) (fileSize : Nat) : Ret × OtaFlash :=
  if ¬ s.busy then (.err .ebusy, s)
  else if fileSize = 0 then (.err .einval, s)
  else if partitionSize < fileSize then (.err .efbig, s)
  else
    match s.erase io fileSize with
    | (.ok, s) =>
      (.ok, { s with
        bufOffset := 0, blockAddr := 0, totalWritten := 0, fileSize, buf := List.replicate otaBufferSize 0xFF })
    | (_, s) => (.err .eio, s)

def copied (s : OtaFlash) (data : Nat → UInt8) (len : Nat) : OtaFlash := { s with
    buf := s.buf.take s.bufOffset ++ (List.range len).map data ++ s.buf.drop (s.bufOffset + len)
    bufOffset := s.bufOffset + len
    totalWritten := s.totalWritten + len }

/-- `my_ota_flash_write_block` with the bytes behind the pointer `data`; the second result is `is_last`. The sum of
offset and length is 32 bits wide: a length just below 2³² passes the check and ends in a fault. -/
def writeBlock (io : FlashIo) (s : OtaFlash) (data : Nat → UInt8) (len : Nat) : (Ret × Bool) × OtaFlash :=
  if ¬ s.busy then ((.err .eio, false), s)
  else if len = 0 then ((.ok, decide (s.fileSize ≤ s.totalWritten)), s)
  else if otaBufferSize < (s.bufOffset + len) % 2 ^ 32 then ((.err .eoverflow, false), s)
  else if otaBufferSize < s.bufOffset + len then ((.fault, false), { s with overrun := true })
  else
    let s := s.copied data len
    let last := decide (s.fileSize ≤ s.totalWritten)
    if otaBufferSize ≤ s.bufOffset ∨ last then
      let (ret, s) := s.flush io last
      ((ret, last), s)
    else ((.ok, last), s)

def released (s : OtaFlash) : OtaFlash := { s with bufOffset := 0, blockAddr := 0, totalWritten := 0, busy := false }

def close (io : FlashIo) (s : OtaFlash) (resultOk : Bool) : Ret × OtaFlash :=
  if ¬ s.busy then (.ok, s)
  else if resultOk ∧ 0 < s.bufOffset then
    let (ret, s) := s.flush io true
    (ret, s.released)
  else (.ok, s.released)

def cacheRemain (s : OtaFlash) : Nat := otaBufferSize - s.bufOffset

end OtaFlash

end

open Library

inductive FailReason where
  | ok
  | busy
  | param
  | size
  | ymodem
  | crc
  | flash
  deriving DecidableEq

def crc32Init : BitVec 32 := 0xFFFFFFFF#32

def crc32Update (crc : BitVec 32) (data : List UInt8) : BitVec 32 := Crc.reflected 0xEDB88320#32 crc data

def crc32Final (crc : BitVec 32) : BitVec 32 := ~~~crc

def crc32 (data : List UInt8) : BitVec 32 := crc32Final (crc32Update crc32Init data)

structure LteVars where
  totalSize : Nat
  expectCrc : BitVec 32
  crc : BitVec 32
  sizeMismatch : Bool
  deriving DecidableEq

structure LteDfu where
  flash : OtaFlash
  vars : LteVars

namespace LteDfu

def prepare (s : LteDfu) (totalSize : Nat) (expectCrc : BitVec 32) : FailReason × LteDfu :=
  if totalSize = 0 then (.param, s)
  else if partitionSize < totalSize then (.size, s)
  else
    match s.flash.occupy with
    | (false, _) => (.busy, s)
    | (true, flash) => (.ok, { flash, vars := { totalSize, expectCrc, crc := crc32Init, sizeMismatch := false } })

def saveOpen (io : FlashIo) (s : LteDfu) (fileSize : Int) : Ret × LteDfu :=
  if fileSize ≤ 0 then (.err .einval, s)
  else if fileSize.toNat ≠ s.vars.totalSize then (.err .einval, { s with vars := { s.vars with sizeMismatch := true } })
  else
    let (ret, flash) := s.flash.openFile io fileSize.toNat
    (ret, { s with flash })

def saveWrite (io : FlashIo) (s : LteDfu) (data : List UInt8) : Ret × LteDfu :=
  if data.length = 0 then (.ok, s)
  else
    let ((ret, _), flash) := s.flash.writeBlock io (fun i => data.getD i 0) data.length
    (ret, { flash, vars := { s.vars with crc := crc32Update s.vars.crc data } })

def saveClose (io : FlashIo) (s : LteDfu) (resultOk : Bool) : Ret × LteDfu :=
  let (ret, flash) := s.flash.close io resultOk
  (ret, { s with flash })

end LteDfu

/-- The reason that `my_dfu_lte_start` returns, for the result of `my_ymodem_receive`; without a
result `my_ymodem_init` has failed. -/
def LteVars.verdict (vars : LteVars) : Option Ymodem.Ret → FailReason
  | none => .ymodem
  | some .ok =>
    if vars.sizeMismatch then .size else if crc32Final vars.crc ≠ vars.expectCrc then .crc else .ok
  | some ret => if vars.sizeMismatch then .size else if ret = .errFile then .flash else .ymodem

def LteDfu.finish (io : FlashIo) (s : LteDfu) (result : Option Ymodem.Ret) : FailReason × LteDfu :=
  if s.vars.verdict result = .ok then (.ok, s)
  else (s.vars.verdict result, { s with flash := (s.flash.close io false).2 })

end LL320D.Dfu
