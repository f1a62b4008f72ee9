import LL320D.Library.Machine
import LL320D.ScanUpload

/-! The way of a packet from the air to the BLE thread (`my_ble_scan.c`): `scan_recv_cb`, its bounded queues and its
parsers, those also byte by byte; and the scan state with the controller and the timers. -/

namespace LL320D.ScanQueue
open BleScan

/-- What the parsers find in a received packet: in an `ADV_IND` the FF data of a tag, and the address and data of a
listed device; in a `SCAN_RSP` with a name the name and payload of a tag. -/
inductive Adv where
  | ind (ff : Option TagScanProcessMsg) (mac : Option TranMacProcessMsg)
  | scanRsp (name : Option TagScanProcessMsg)
  | other

def Adv.tag : Adv → Option TagScanProcessMsg
  | .ind ff _ => ff
  | .scanRsp name => name
  | .other => none

def Adv.mac : Adv → Option TranMacProcessMsg
  | .ind _ mac => mac
  | _ => none

inductive Msg where
  | process (kind : ScanKind)
  | other
  deriving DecidableEq

inductive Callback where
  | idle
  | tagQueued (mac : Option TranMacProcessMsg)
  | listed (mac : TranMacProcessMsg)
  | macQueued

inductive Task where
  | waiting
  | draining (kind : ScanKind)
  deriving DecidableEq

structure System where
  tagq : List TagScanProcessMsg
  macq : List TranMacProcessMsg
  msgq : List Msg
  callback : Callback
  task : Task

inductive Event where
  | recv (adv : Adv)
  | notifyTag
  | putMac
  | notifyMac
  | post
  | take
  | get

namespace System

def start : System := ⟨[], [], [], .idle, .waiting⟩

def processMsgqSize : Nat := 16

def bleMsgqSize : Nat := 10

def mySendMsg (s : System) (msg : Msg) : System :=
  if s.msgq.length < bleMsgqSize then { s with msgq := s.msgq ++ [msg] } else s

def behindTag : Option TranMacProcessMsg → Callback
  | some mac => .listed mac
  | none => .idle

/-- `scan_recv_cb` up to the first message; a full queue of tags ends the call. -/
def stepRecv (s : System) (adv : Adv) : System :=
  match adv.tag with
  | some tag =>
    if s.tagq.length < processMsgqSize then
      { s with tagq := s.tagq ++ [tag], callback := .tagQueued adv.mac }
    else s
  | none => { s with callback := behindTag adv.mac }

def step (s : System) : Event → System
  | .recv adv =>
    match s.callback with
    | .idle => s.stepRecv adv
    | _ => s
  | .notifyTag =>
    match s.callback with
    | .tagQueued mac => { s.mySendMsg (.process .tag) with callback := behindTag mac }
    | _ => s
  | .putMac =>
    match s.callback with
    | .listed mac =>
      if s.macq.length < processMsgqSize then { s with macq := s.macq ++ [mac], callback := .macQueued }
      else { s with callback := .idle }
    | _ => s
  | .notifyMac =>
    match s.callback with
    | .macQueued => { s.mySendMsg (.process .mac) with callback := .idle }
    | _ => s
  | .post => s.mySendMsg .other
  | .take =>
    match s.task, s.msgq with
    | .waiting, .process kind :: rest => { s with task := .draining kind, msgq := rest }
    | .waiting, .other :: rest => { s with msgq := rest }
    | _, _ => s
  | .get =>
    match s.task with
    | .draining .tag =>
      match s.tagq with
      | [] => { s with task := .waiting }
      | _ :: rest => { s with tagq := rest }
    | .draining .mac =>
      match s.macq with
      | [] => { s with task := .waiting }
      | _ :: rest => { s with macq := rest }
    | .waiting => s

def settle (s : System) : System := [.notifyTag, .putMac, .notifyMac].foldl step s

def scanRecvCb (s : System) (adv : Adv) : System := (s.step (.recv adv)).settle

end System

end LL320D.ScanQueue

namespace LL320D.ScanRecv
open BleScan ScanQueue

def advNameMaxLen : Nat := 32
def tagFfDataMaxLen : Nat := 29
def uuidMaxLen : Nat := 16
def tranMacAdvDataMaxLen : Nat := 31

structure AdStructure where
  type : UInt8
  data : List UInt8
  deriving DecidableEq

/-- The structures that the parsers' loops visit: up to a length of zero, or to a length that reaches beyond the
packet. -/
def adStructures : List UInt8 → List AdStructure
  | len :: type :: rest =>
    if len.toNat = 0 then []
    else if rest.length + 1 < len.toNat then []
    else ⟨type, rest.take (len.toNat - 1)⟩ :: adStructures (rest.drop (len.toNat - 1))
  | _ => []
termination_by buf => buf.length
decreasing_by simp only [List.length_cons, List.length_drop]; omega

def btDataUuid16Some : UInt8 := 0x02
def btDataUuid32Some : UInt8 := 0x04
def btDataNameShortened : UInt8 := 0x08
def btDataNameComplete : UInt8 := 0x09
def btDataManufacturerData : UInt8 := 0xFF

def parseScanRspName (buf : List UInt8) : Option (List UInt8) :=
  ((adStructures buf).find? fun ad => ad.type = btDataNameShortened || ad.type = btDataNameComplete).map fun ad =>
    (ad.data.take (advNameMaxLen - 1)).takeWhile (· ≠ 0)

def parseFfData (buf : List UInt8) : Option (List UInt8) :=
  ((adStructures buf).find? fun ad => ad.type = btDataManufacturerData && ad.data.length = tagFfDataMaxLen).map (·.data)

def parseUuid (buf : List UInt8) : List UInt8 :=
  match (adStructures buf).find? fun ad => ad.type = btDataUuid16Some with
  | some ad => ad.data.take uuidMaxLen
  | none => []

def parseBattery (buf : List UInt8) : UInt8 :=
  match (adStructures buf).find? fun ad =>
      ad.type = btDataUuid32Some && 8 ≤ ad.data.length && ad.data.getD 6 0 = 0x02 with
  | some ad => ad.data.getD 7 0
  | none => 0

structure Packet where
  advType : Option AdvType
  addr : BtAddrLe
  rssi : Int8
  buf : List UInt8
  listed : Bool
  sized : addr.val.length = 6

namespace Packet

def ffMsg (p : Packet) (ff : List UInt8) : TagScanProcessMsg := ⟨.advInd, ⟨p.addr, [], ff, [], 0, p.rssi, 0⟩⟩

def nameMsg (p : Packet) (name : List UInt8) : TagScanProcessMsg :=
  ⟨.scanRsp, ⟨p.addr, name, [], parseUuid p.buf, parseBattery p.buf, p.rssi, 0⟩⟩

def adv (p : Packet) : Adv :=
  match p.advType with
  | some .advInd =>
    .ind ((parseFfData p.buf).map p.ffMsg) (if p.listed then some ⟨p.addr, p.buf.take tranMacAdvDataMaxLen⟩ else none)
  | some .scanRsp => .scanRsp ((parseScanRspName p.buf).map p.nameMsg)
  | none => .other

end Packet

def isProcess : BleMsg → Bool
  | .tagScanProcess _ => true
  | .tranMacProcess _ => true
  | _ => false

structure Station where
  queue : System
  ble : BleState

inductive Event where
  | recv (packet : Packet)
  | notifyTag
  | putMac
  | notifyMac
  | post
  | take
  | get (env : BleEnv) (now : UInt32)
  | handle (env : BleEnv) (msg : BleMsg) (other : isProcess msg = false)
  | restart (env : BleEnv) (mode : ScanMode)

namespace Station

variable [FlashStore.Crc32Ieee]

def start (env : BleEnv) (mode : ScanMode) (media : (type : FsDataType) → FlashStore.FsMedia (FsRecord type)) : Station :=
  ⟨.start, myScanInit env mode media⟩

def get (env : BleEnv) (now : UInt32) (s : Station) : BleState :=
  match s.queue.task, s.queue.tagq, s.queue.macq with
  | .draining .tag, tag :: _, _ => tagScanDataHandle env s.ble (now, tag)
  | .draining .mac, _, mac :: _ => tranMacDataHandle s.ble (now, mac)
  | _, _, _ => s.ble

def step (s : Station) : Event → Station
  | .recv packet => { s with queue := s.queue.step (.recv packet.adv) }
  | .notifyTag => { s with queue := s.queue.step .notifyTag }
  | .putMac => { s with queue := s.queue.step .putMac }
  | .notifyMac => { s with queue := s.queue.step .notifyMac }
  | .post => { s with queue := s.queue.step .post }
  | .take => { s with queue := s.queue.step .take }
  | .get env now => ⟨s.queue.step .get, s.get env now⟩
  | .handle env msg _ =>
    match s.queue.task with
    | .waiting => { s with ble := myScanMsgHandler s.ble (env, msg) }
    | .draining _ => s
  | .restart env mode => start env mode fun type => (s.ble.store type).media

end Station

end LL320D.ScanRecv

namespace LL320D.AdParser
open ScanRecv

/-- What a round does with a complete structure; `done` if the function returns there. -/
structure Visit (ρ : Type) where
  reads : List Nat
  out : ρ
  done : Bool

/-- The loop the three functions share: `visit` sees the type, where the data begins and `data_len`. -/
def parseLoop {ρ : Type} (buf : List UInt8) (visit : ρ → UInt8 → Nat → Nat → Visit ρ) : Nat → Nat → ρ → List Nat × ρ
  | 0, _, out => ([], out)
  | fuel + 1, pos, out =>
    if buf.length - pos ≤ 1 then ([], out)
    else
      let len := (buf.getD pos 0).toNat
      if len = 0 then ([pos], out)
      else if buf.length - (pos + 1) < len then ([pos], out)
      else
        let seen := visit out (buf.getD (pos + 1) 0) (pos + 2) (len - 1)
        if seen.done then (pos :: (pos + 1) :: seen.reads, seen.out)
        else
          let rest := parseLoop buf visit fuel (pos + 1 + len) seen.out
          (pos :: (pos + 1) :: seen.reads ++ rest.1, rest.2)

def bytesAt (buf : List UInt8) (pos n : Nat) : List UInt8 := (buf.drop pos).take n

structure Copied where
  found : Bool
  stored : List (UInt8 × Nat)
  outLen : Nat
  deriving DecidableEq

def Copied.none : Copied := ⟨false, [], 0⟩

def isName (type : UInt8) : Bool := type = btDataNameShortened || type = btDataNameComplete

def parseScanRspName (buf : List UInt8) (maxLen : UInt8) (fuel : Nat) : List Nat × Copied :=
  parseLoop buf (fun out type pos dataLen =>
    if isName type then
      let copyLen := min dataLen (maxLen - 1).toNat
      ⟨List.range' pos copyLen, ⟨true, (bytesAt buf pos copyLen).zipIdx ++ [(0, copyLen)], copyLen⟩, true⟩
    else ⟨[], out, false⟩) fuel 0 .none

def parseFfData (buf : List UInt8) (maxLen : UInt8) (fuel : Nat) : List Nat × Copied :=
  parseLoop buf (fun out type pos dataLen =>
    if type = btDataManufacturerData && dataLen = tagFfDataMaxLen then
      let copyLen := min dataLen maxLen.toNat
      ⟨List.range' pos copyLen, ⟨true, (bytesAt buf pos copyLen).zipIdx, copyLen⟩, true⟩
    else ⟨[], out, false⟩) fuel 0 .none

structure Payload where
  uuid : Copied
  batteryFound : Bool
  batteryPercent : UInt8
  deriving DecidableEq

def visitPayload (buf : List UInt8) (out : Payload) (type : UInt8) (pos dataLen : Nat) : Visit Payload :=
  if type = btDataUuid16Some && !out.uuid.found then
    let copyLen := min dataLen uuidMaxLen
    ⟨List.range' pos copyLen, { out with uuid := ⟨true, (bytesAt buf pos copyLen).zipIdx, copyLen⟩ }, false⟩
  else if type = btDataUuid32Some && !out.batteryFound && 8 ≤ dataLen then
    if buf.getD (pos + 6) 0 = 0x02 then
      ⟨[pos + 6, pos + 7], { out with batteryPercent := buf.getD (pos + 7) 0, batteryFound := true }, false⟩
    else ⟨[pos + 6], out, false⟩
  else ⟨[], out, false⟩

def parseScanRspPayload (buf : List UInt8) (fuel : Nat) : List Nat × Payload :=
  parseLoop buf (visitPayload buf) fuel 0 ⟨.none, false, 0⟩

def firstName (buf : List UInt8) (maxLen : Nat) : Option (List UInt8) :=
  ((adStructures buf).find? fun ad => isName ad.type).map fun ad => ad.data.take (maxLen - 1)

def firstUuid (buf : List UInt8) : Option (List UInt8) :=
  ((adStructures buf).find? fun ad => ad.type = btDataUuid16Some).map fun ad => ad.data.take uuidMaxLen

def firstBattery (buf : List UInt8) : Option UInt8 := ((adStructures buf).find? fun ad =>
    ad.type = btDataUuid32Some && 8 ≤ ad.data.length && ad.data.getD 6 0 = 0x02).map fun ad => ad.data.getD 7 0

end LL320D.AdParser

namespace LL320D.ScanRadio
open BleScan (ScanMode ScanState)

inductive Msg where
  | scanInterval
  | scanLength
  | scanUpload
  | uploadWakeup
  | uploadTagAndMac
  | other
  deriving DecidableEq

/-- Results of `bt_le_scan_start` and `bt_le_scan_stop`; whether records are pending; and whether
`tag_mac_scan_upload_data` leaves `SCAN_STATE_WAITING_UPLOAD` or `SCAN_STATE_IDLE`. -/
structure Env where
  scanStart : Int
  scanStop : Int
  pending : Bool
  uploading : Bool

structure System where
  mode : ScanMode
  state : ScanState
  scanLength : Nat
  radio : Bool
  intervalTimer : Bool
  lengthTimer : Bool
  uploadTimer : Bool
  msgq : List Msg
  deriving DecidableEq

def bleMsgqSize : Nat := 10

namespace System

def mySendMsg (s : System) (msg : Msg) : System :=
  if s.msgq.length < bleMsgqSize then { s with msgq := s.msgq ++ [msg] } else s

def scanStartInternal (env : Env) (s : System) : System :=
  if s.mode = .off then s
  else if s.state = .scanning then s
  else if env.scanStart ≠ 0 then s
  else { s with radio := true, state := .scanning, lengthTimer := s.lengthTimer || 0 < s.scanLength }

def scanStopInternal (env : Env) (s : System) : System :=
  if s.state ≠ .scanning then s
  else if env.scanStop ≠ 0 then s
  else { s with radio := false, state := .idle, lengthTimer := false }

def myScanSetConfig (env : Env) (mode : ScanMode) (scanLength : Nat) (s : System) : System :=
  let stopped := { s with intervalTimer := false, lengthTimer := false, uploadTimer := false }.scanStopInternal env
  let configured := { stopped with mode, scanLength, state := .idle }
  match mode with
  | .periodCache => { configured with intervalTimer := true }.scanStartInternal env
  | .periodUpload => { configured with intervalTimer := true, uploadTimer := true }.scanStartInternal env
  | _ => configured

def tagMacScanUploadData (env : Env) (s : System) : System :=
  if s.state = .scanning then s else { s with state := if env.uploading then .waitingUpload else .idle }

def scanTriggerUpload (env : Env) (s : System) : System :=
  let stopped := s.scanStopInternal env
  if env.pending then stopped.tagMacScanUploadData env else { stopped with state := .idle }

def handleMsg (env : Env) (s : System) : Msg → System
  | .scanInterval => if s.mode.periodic && s.state = .idle then s.scanStartInternal env else s
  | .scanLength => s.scanStopInternal env
  | .scanUpload =>
    if s.mode = .periodUpload && env.pending then
      if s.state = .waitingUpload then s else s.scanTriggerUpload env
    else s
  | .uploadWakeup =>
    if s.mode.periodic && env.pending then
      let stopped := s.scanStopInternal env
      if stopped.state = .waitingUpload then stopped else stopped.tagMacScanUploadData env
    else s
  | .uploadTagAndMac => s.tagMacScanUploadData env
  | .other => s

end System

inductive Event where
  | setConfig (env : Env) (mode : ScanMode) (scanLength : Nat)
  | send (msg : Msg)
  | handle (env : Env)
  | intervalExpires
  | lengthExpires
  | uploadExpires

namespace System

def step (s : System) : Event → System
  | .setConfig env mode scanLength => s.myScanSetConfig env mode scanLength
  | .send msg => s.mySendMsg msg
  | .handle env =>
    match s.msgq with
    | [] => s
    | msg :: rest => { s with msgq := rest }.handleMsg env msg
  | .intervalExpires => if s.intervalTimer then s.mySendMsg .scanInterval else s
  | .lengthExpires => if s.lengthTimer then { s with lengthTimer := false }.mySendMsg .scanLength else s
  | .uploadExpires => if s.uploadTimer then s.mySendMsg .scanUpload else s

def start : System := ⟨.off, .idle, 0, false, false, false, false, []⟩

structure Bounded (s : System) : Prop where
  agrees : s.state = .scanning ↔ s.radio = true
  ends : s.state = .scanning → 0 < s.scanLength → s.lengthTimer = true ∨ .scanLength ∈ s.msgq

end System

end LL320D.ScanRadio
