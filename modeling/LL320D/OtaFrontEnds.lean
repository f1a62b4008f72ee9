import LL320D.BleInput
import LL320D.OtaFlash

/-! Both OTA front-ends on the one OTA flash module: the BLE commands of `my_dfu_jimi.c` with their timer and work items,
and the LTE thread of `my_dfu_lte.c`; and what reaches the first from outside. -/

namespace LL320D.Dfu

section
open Library

def dfuStart : UInt8 := 0x01
def dfuFileSize : UInt8 := 0x02
def dfuFileImage : UInt8 := 0x03
def dfuFileEnd : UInt8 := 0x04

def endRespOk : UInt8 := 0x00
def endRespError : UInt8 := 0x01
def endRespSize : UInt8 := 0x03
def endRespTimeOut : UInt8 := 0x04

inductive DfuMsg where
  | start
  | timeout
  | complete
  | fail
  deriving DecidableEq

inductive Out where
  | response (cmd : UInt8) (data : List UInt8)
  | packetTrans (text : String)
  | message (msg : DfuMsg)
  | bootRequestUpgrade
  | scheduleReset (delayMs : Nat)
  | mcuOtaReady
  | mcuOta (reason : FailReason)
  deriving DecidableEq

structure Packet where
  data : Nat → UInt8
  len : UInt16

def Packet.word (p : Packet) (i : Nat) : Nat :=
  (p.data i).toNat + 256 * ((p.data (i + 1)).toNat + 256 * ((p.data (i + 2)).toNat + 256 * (p.data (i + 3)).toNat))

structure Jimi where
  fwCopySize : Nat
  reqFileAddr : Nat
  repeatReqCount : Nat
  waitTimer : Bool
  retryWork : Bool
  timeoutWork : Bool
  deriving DecidableEq

structure Piece where
  addr : Nat
  data : List UInt8
  crc : BitVec 16
  deriving DecidableEq

/-- Since the last `START` that opened a session: the size of the last `FILE_SIZE` that succeeded, and since then the
parts accepted and the number of the first flash access. -/
structure BleSession where
  opened : Option Nat
  pieces : List Piece
  firstOp : Nat
  deriving DecidableEq

/-- From `session` on a history: the BLE session, which front-end holds the flash module, whether an upgrade has been
requested, and whether the BLE front-end has had another session since. -/
structure Ota where
  flash : OtaFlash
  jimi : Jimi
  lte : LteVars
  receiving : Bool
  mtu : Nat
  outs : List Out
  session : BleSession
  bleHolds : Bool
  lteHolds : Bool
  scheduled : Bool
  renewed : Bool

def calcPktSize (mtu remainSize bufRemain : Nat) : Nat :=
  let maxData := if 23 < mtu then mtu - 3 - 20 else 128
  let pktSize :=
    if 384 ≤ mtu then
      let pktSize := maxData / 128 * 128
      if 384 ≤ pktSize then 384
      else if 256 ≤ pktSize then 256
      else if pktSize < 128 then 128
      else pktSize
    else 128
  let pktSize :=
    if bufRemain < pktSize then
      if bufRemain / 128 * 128 < 128 then 128 else bufRemain / 128 * 128
    else pktSize
  let pktSize := if remainSize < pktSize then remainSize else pktSize
  if pktSize % 16 = 0 then pktSize else (pktSize + 15) / 16 * 16

def word32 (n : Nat) : List UInt8 :=
  [UInt8.ofNat n, UInt8.ofNat (n / 2 ^ 8), UInt8.ofNat (n / 2 ^ 16), UInt8.ofNat (n / 2 ^ 24)]

def codeResponse (code : UInt8) : List UInt8 := code :: List.replicate 9 0

namespace Packet

def addr (p : Packet) : Nat := p.word 0

def imageLen (p : Packet) : Nat := p.word 4

def rxCrc (p : Packet) : BitVec 16 :=
  (p.data ((8 + p.imageLen) % 2 ^ 32)).toBitVec ++ (p.data ((9 + p.imageLen) % 2 ^ 32)).toBitVec

/-- The check value of the part; `my_crc16_calc` takes the length as 16 bits. -/
def calcCrc (p : Packet) : BitVec 16 := crc16 ((List.range (p.imageLen % 2 ^ 16)).map fun i => p.data (8 + i))

def Passes (p : Packet) (reqFileAddr : Nat) : Prop :=
  p.len.toNat = (p.imageLen + 10) % 2 ^ 32 ∧ p.calcCrc = p.rxCrc ∧ p.addr = reqFileAddr

instance (p : Packet) (reqFileAddr : Nat) : Decidable (p.Passes reqFileAddr) :=
  inferInstanceAs (Decidable (_ ∧ _ ∧ _))

def piece (p : Packet) : Piece where
  addr := p.addr
  data := (List.range p.imageLen).map fun i => p.data (8 + i)
  crc := p.rxCrc

end Packet

namespace Ota

def init (image : Image) (mtu : Nat) : Ota where
  flash := OtaFlash.init image
  jimi :=
    { fwCopySize := 0, reqFileAddr := 0, repeatReqCount := 0, waitTimer := false, retryWork := false, timeoutWork := false }
  lte := { totalSize := 0, expectCrc := 0, crc := 0, sizeMismatch := false }
  receiving := false
  mtu := mtu
  outs := []
  session := { opened := none, pieces := [], firstOp := 0 }
  bleHolds := false
  lteHolds := false
  scheduled := false
  renewed := false

def put (s : Ota) (outs : List Out) : Ota := { s with outs := s.outs ++ outs }

def imageDownReq (s : Ota) (addr length : Nat) : Ota :=
  s.put [.response dfuFileImage (word32 addr ++ word32 length ++ [0, 0])]

def bootRequest (s : Ota) : Ota := { s.put [.bootRequestUpgrade] with scheduled := true, renewed := s.bleHolds }

def bleClose (io : FlashIo) (s : Ota) (resultOk : Bool) : Ota :=
  { s with flash := (s.flash.close io resultOk).2, bleHolds := false }

def bleStart (s : Ota) (percent : Nat) : Ota :=
  if percent < 10 then s.put [.packetTrans "DFU start, battery low"]
  else if s.flash.busy then s
  else
    { s.put [.response dfuStart (codeResponse 0), .message .start] with
      flash := s.flash.occupy.2
      session := { opened := none, pieces := [], firstOp := s.flash.ops.length }
      bleHolds := true
      renewed := true }

def firstRequest (s : Ota) (fileSize : Nat) : Ota :=
  let s := s.imageDownReq 0 (calcPktSize s.mtu fileSize s.flash.cacheRemain)
  { s with
    jimi := { s.jimi with reqFileAddr := 0, repeatReqCount := 0, waitTimer := true }
    session := { opened := some fileSize, pieces := [], firstOp := s.flash.ops.length } }

def takeFileSize (io : FlashIo) (s : Ota) (fileSize : Nat) : Ota :=
  let s := { s with jimi := { s.jimi with fwCopySize := fileSize } }
  if partitionSize < fileSize then (s.put [.response dfuFileEnd (codeResponse endRespSize)]).bleClose io false
  else
    match s.flash.openFile io fileSize with
    | (.ok, flash) => { s with flash }.firstRequest fileSize
    | (_, flash) => ({ s with flash }.put [.response dfuFileEnd (codeResponse endRespError)]).bleClose io false

def rxFileSize (io : FlashIo) (s : Ota) (p : Packet) : Ota := s.takeFileSize io (p.word 0)

def requestAgain (s : Ota) : Ota :=
  let remain := (s.jimi.fwCopySize + 2 ^ 32 - s.jimi.reqFileAddr) % 2 ^ 32
  let s := s.imageDownReq s.jimi.reqFileAddr (calcPktSize s.mtu remain s.flash.cacheRemain)
  { s with jimi := { s.jimi with waitTimer := true } }

def imageComplete (io : FlashIo) (s : Ota) : Ota :=
  ((((s.put [.response dfuFileEnd (codeResponse endRespOk)]).bleClose io true).bootRequest).put
    [.message .complete, .scheduleReset 6500])

def requestNext (s : Ota) (p : Packet) : Ota :=
  requestAgain { s with jimi := { s.jimi with repeatReqCount := 0, reqFileAddr := (p.addr + p.imageLen) % 2 ^ 32 } }

def imageFailed (io : FlashIo) (s : Ota) : Ota :=
  ((s.put [.response dfuFileEnd (codeResponse endRespError)]).bleClose io false).put [.message .fail]

def accept (s : Ota) (flash : OtaFlash) (p : Packet) : Ota :=
  { s with flash, session := { s.session with pieces := s.session.pieces ++ [p.piece] } }

def writeImage (io : FlashIo) (s : Ota) (p : Packet) : Ota :=
  if ¬ p.Passes s.jimi.reqFileAddr then s
  else
    let s := { s with jimi := { s.jimi with waitTimer := false } }
    match s.flash.writeBlock io (fun i => p.data (8 + i)) p.imageLen with
    | ((.fault, _), flash) => { s with flash }
    | ((.err _, _), flash) => { s with flash }.imageFailed io
    | ((.ok, true), flash) => (s.accept flash p).imageComplete io
    | ((.ok, false), flash) => (s.accept flash p).requestNext p

def endImage (io : FlashIo) (s : Ota) : Ota :=
  ({ s with jimi := { s.jimi with waitTimer := false } }.bleClose io false).put [.scheduleReset 1000]

def dfuCmdHandler (io : FlashIo) (s : Ota) (cmd : UInt8) (p : Packet) (percent : Nat) : Ota :=
  if cmd = dfuStart then s.bleStart percent
  else if cmd = dfuFileSize then s.rxFileSize io p
  else if cmd = dfuFileImage then s.writeImage io p
  else if cmd = dfuFileEnd then s.endImage io
  else s

def timerWaitCallback (s : Ota) : Ota :=
  let count := (s.jimi.repeatReqCount + 1) % 2 ^ 8
  if count ≤ 10 then { s with jimi := { s.jimi with waitTimer := false, repeatReqCount := count, retryWork := true } }
  else { s with jimi := { s.jimi with waitTimer := false, repeatReqCount := 0, timeoutWork := true } }

def retryWorkHandler (s : Ota) : Ota := requestAgain { s with jimi := { s.jimi with retryWork := false } }

def timeoutWorkHandler (io : FlashIo) (s : Ota) : Ota := (({ s with jimi := { s.jimi with timeoutWork := false } }.put
    [.response dfuFileEnd (codeResponse endRespTimeOut)]).bleClose io false).put [.message .timeout]

def lteDfu (s : Ota) : LteDfu := { flash := s.flash, vars := s.lte }

def withLte (s : Ota) (l : LteDfu) : Ota := { s with flash := l.flash, lte := l.vars }

/-- `LTE+MCUOTA=START,..`: `my_dfu_lte_prepare`, and `my_dfu_lte_start` is entered if it succeeds. -/
def ltePrepare (s : Ota) (totalSize : Nat) (expectCrc : BitVec 32) : Ota :=
  match s.lteDfu.prepare totalSize expectCrc with
  | (.ok, l) => { (s.withLte l).put [.mcuOtaReady] with receiving := true, lteHolds := true }
  | (reason, _) => s.put [.mcuOta reason]

def lteSaveClose (io : FlashIo) (s : Ota) (resultOk : Bool) : Ota :=
  { s.withLte (s.lteDfu.saveClose io resultOk).2 with lteHolds := false }

def lteFinish (io : FlashIo) (s : Ota) (result : Option Ymodem.Ret) : Ota :=
  match s.lteDfu.finish io result with
  | (.ok, l) => { ((s.withLte l).bootRequest).put [.scheduleReset 6500, .mcuOta .ok] with receiving := false }
  | (reason, l) => { (s.withLte l).put [.mcuOta reason] with receiving := false, lteHolds := false }

end Ota

inductive DfuEvent where
  | command (cmd : UInt8) (p : Packet) (percent : Nat) (io : FlashIo)
  | timerExpires
  | retryWork
  | timeoutWork (io : FlashIo)
  | mtu (mtu : Nat)
  | ltePrepare (totalSize : Nat) (expectCrc : BitVec 32)
  | lteSaveOpen (fileSize : Int) (io : FlashIo)
  | lteSaveWrite (data : List UInt8) (io : FlashIo)
  | lteSaveClose (resultOk : Bool) (io : FlashIo)
  | lteFinish (result : Option Ymodem.Ret) (io : FlashIo)

namespace Ota

/-- The LTE thread runs `my_dfu_lte_start` to its end before it takes another command. -/
def stepRunning (s : Ota) : DfuEvent → Ota
  | .command cmd p percent io => s.dfuCmdHandler io cmd p percent
  | .timerExpires => if s.jimi.waitTimer then s.timerWaitCallback else s
  | .retryWork => if s.jimi.retryWork then s.retryWorkHandler else s
  | .timeoutWork io => if s.jimi.timeoutWork then s.timeoutWorkHandler io else s
  | .mtu mtu => { s with mtu }
  | .ltePrepare totalSize expectCrc => if s.receiving then s else s.ltePrepare totalSize expectCrc
  | .lteSaveOpen fileSize io => if s.receiving then s.withLte (s.lteDfu.saveOpen io fileSize).2 else s
  | .lteSaveWrite data io => if s.receiving then s.withLte (s.lteDfu.saveWrite io data).2 else s
  | .lteSaveClose resultOk io => if s.receiving then s.lteSaveClose io resultOk else s
  | .lteFinish result io => if s.receiving then s.lteFinish io result else s

def step (s : Ota) (event : DfuEvent) : Ota := if s.flash.overrun then s else s.stepRunning event

end Ota

end

open BleInput (BlockCipher aesEcbDecrypt decryptBufferSize)

def bleComuAppCode : UInt8 := 0xC2

def decrypted (memory : Nat → UInt8) (plain : List UInt8) (i : Nat) : UInt8 :=
  if i < plain.length then plain.getD i 0 else memory i

def myBleDfuFileTransHandle (cipher : BlockCipher) (memory : Nat → UInt8) (data : List UInt8) : Option (UInt8 × Packet) :=
  let dataLen := data.length - data.length % 16
  if decryptBufferSize < dataLen then none
  else
    match aesEcbDecrypt cipher (data.take dataLen) decryptBufferSize with
    | none => none
    | some plain =>
      let buffer := decrypted memory plain
      let contentLen := (buffer 5).toNat * 256 + (buffer 4).toNat
      if buffer 0 ≠ 0x78 ∨ buffer 1 ≠ 0x79 ∨ buffer 2 ≠ bleComuAppCode then none
      else if dataLen < contentLen + 6 then none
      else some (buffer 3, { data := fun i => buffer (6 + i), len := UInt16.ofNat contentLen })

structure Reads where
  first : Nat
  count : Nat
  deriving DecidableEq

namespace OtaFlash

def Copies (s : OtaFlash) (len : Nat) : Prop := s.busy = true ∧ len ≠ 0 ∧ (s.bufOffset + len) % 2 ^ 32 ≤ otaBufferSize

instance (s : OtaFlash) (len : Nat) : Decidable (s.Copies len) := inferInstanceAs (Decidable (_ ∧ _ ∧ _))

end OtaFlash

namespace Ota

def fileSizeReads : List Reads := [⟨0, 4⟩]

/-- `jimi_dfu_write_image`: address and length, the check value at its place, the part for its check value, all before
the length is compared; then the copy of a part that passes. -/
def writeImageReads (s : Ota) (p : Packet) : List Reads :=
  [⟨0, 8⟩, ⟨(8 + p.imageLen) % 2 ^ 32, 1⟩, ⟨(9 + p.imageLen) % 2 ^ 32, 1⟩, ⟨8, p.imageLen % 2 ^ 16⟩] ++
    if p.Passes s.jimi.reqFileAddr ∧ s.flash.Copies p.imageLen then [⟨8, p.imageLen⟩] else []

def cmdReads (s : Ota) (cmd : UInt8) (p : Packet) : List Reads :=
  if cmd = dfuFileSize then fileSizeReads
  else if cmd = dfuFileImage then s.writeImageReads p
  else []

end Ota

inductive PeerEvent where
  | command (cmd : UInt8) (p : Packet) (percent : Nat) (io : FlashIo)
  | disconnected
  | timerExpires
  | retryWork
  | timeoutWork (io : FlashIo)
  | mtu (mtu : Nat)

/-- `disconnected` of `my_ble_core.c` does not touch the OTA. -/
def Ota.stepPeer (s : Ota) : PeerEvent → Ota
  | .command cmd p percent io => s.step (.command cmd p percent io)
  | .disconnected => s
  | .timerExpires => s.step .timerExpires
  | .retryWork => s.step .retryWork
  | .timeoutWork io => s.step (.timeoutWork io)
  | .mtu mtu => s.step (.mtu mtu)

end LL320D.Dfu
