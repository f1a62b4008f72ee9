import LL320D.FlashStore
import LL320D.Library.SelectionSort

/-! The state of the BLE thread in `my_ble_scan.c`, and how scanned devices are collected: the cache of advertisements, the
two real-time tables and their flush into the flash store. -/

namespace LL320D.BleScan
open FlashStore Library

inductive ScanKind where
  | tag
  | mac
  deriving DecidableEq

def ScanKind.type : ScanKind → FsDataType
  | .tag => .tag
  | .mac => .mac

lemma ScanKind.type_inj {first second : ScanKind} : first.type = second.type ↔ first = second := by
  cases first <;> cases second <;> decide

abbrev ScanRecord (kind : ScanKind) : Type := FsRecord kind.type

def ScanRecord.addr : {kind : ScanKind} → ScanRecord kind → BtAddrLe
  | .tag => TagScanResult.addr
  | .mac => TranMacResultItem.addr

def ScanRecord.timestamp : {kind : ScanKind} → ScanRecord kind → UInt32
  | .tag => TagScanResult.timestamp
  | .mac => TranMacResultItem.timestamp

/-- `scan_mode_t`; a configured byte above 2 is `other`. -/
inductive ScanMode where
  | off
  | periodCache
  | periodUpload
  | other
  deriving DecidableEq

inductive ScanState where
  | idle
  | scanning
  | waitingUpload
  deriving DecidableEq

/-- `UPLOAD_STATE_IDLE`, and `UPLOAD_STATE_TAG_START` to `UPLOAD_STATE_MAC_END`. -/
inductive UploadState where
  | idle
  | start (kind : ScanKind)
  | ended (kind : ScanKind)
  deriving DecidableEq

inductive SensorUploadState where
  | idle
  | thWaitAck
  | bpWaitAck
  | cdataWaitStartAck
  | cdataWaitDataAck
  | cdataWaitEndAck
  deriving DecidableEq

/-- `sensor_upload_ctx_t`; the upload type `FS_TYPE_MAX` is `none`. -/
structure SensorUploadCtx where
  state : SensorUploadState
  uploadType : Option FsDataType
  totalPackets : Nat
  nextSeq : Nat
  deriving DecidableEq

structure AdvCacheItem where
  addr : BtAddrLe
  ffData : List UInt8
  valid : Bool
  seqNum : UInt32
  deriving DecidableEq

instance : Inhabited AdvCacheItem := ⟨⟨.zero, [], false, 0⟩⟩

/-- The commands sent with `lte_send_command`: the TAG and MACINFO packets of a scan
upload, the TH or BP packet of one sample, and the CDATA packets of a back-fill. -/
inductive LtePacket where
  | start (kind : ScanKind) (total : Nat)
  | data (kind : ScanKind) (seq : Nat) (record : ScanRecord kind)
  | finish (kind : ScanKind)
  | sample (type : FsDataType) (record : FsRecord type)
  | cdataStart (type : FsDataType) (packets : Nat)
  | cdataData (type : FsDataType) (seq : Nat) (records : List (FsRecord type))
  | cdataEnd
  deriving DecidableEq

/-- A `collected` record was put into a real-time table, perhaps over another, which is `replaced`; `ringFull` is the
store's warning that its oldest sector is overwritten. -/
inductive BleEvent where
  | sent (packet : LtePacket)
  | collected (kind : ScanKind) (record : ScanRecord kind)
  | replaced (kind : ScanKind) (old new : ScanRecord kind)
  | committed (type : FsDataType)
  | ringFull (type : FsDataType)
  | ltePwron
  deriving DecidableEq

structure BleState where
  table : (kind : ScanKind) → List (ScanRecord kind)
  advCacheTable : List AdvCacheItem
  cacheSeqCounter : UInt32
  scanMode : ScanMode
  scanState : ScanState
  tagMacinfoSeq : Nat
  uploadState : UploadState
  flashConsumed : Nat
  rtCountSnap : Nat
  sensorUploadCtx : SensorUploadCtx
  store : (type : FsDataType) → FsState (FsRecord type)
  flashCalls : Nat
  log : List BleEvent

/-- What the handling of one message finds outside the thread: `g_bLteReady`, the results of the calls, the two
`wakeup_cell_sw` settings, and the drivers' outcomes for each call of the store. -/
structure BleEnv where
  lteReady : Bool
  lteSend : Int
  scanStart : Int
  scanStop : Int
  tempWakeupCellSw : Bool
  patmWakeupCellSw : Bool
  io : Nat → FsIo

def BleEnv.ok : BleEnv := ⟨true, 0, 0, 0, false, false, fun _ => .ok⟩

def FsEffect.isRingFull {α : Type} : FsEffect α → Bool
  | .overwriteOldest _ => true
  | _ => false

def LtePacket.isScan : LtePacket → Bool
  | .start .. => true
  | .data .. => true
  | .finish .. => true
  | _ => false

def FsDataType.isScan : FsDataType → Bool
  | .tag => true
  | .mac => true
  | _ => false

def BleEvent.isScan : BleEvent → Bool
  | .sent packet => packet.isScan
  | .collected .. => true
  | .replaced .. => true
  | .committed type => FsDataType.isScan type
  | .ringFull type => FsDataType.isScan type
  | .ltePwron => false

def sentPackets (events : List BleEvent) : List LtePacket := events.filterMap fun
    | .sent packet => some packet
    | _ => none

def scanPackets (b : BleState) : List LtePacket := sentPackets (b.log.filter BleEvent.isScan)

namespace BleState

def emit (event : BleEvent) (b : BleState) : BleState := { b with log := b.log ++ [event] }

def setTable (kind : ScanKind) (items : List (ScanRecord kind)) (b : BleState) : BleState :=
  { b with table := Function.update b.table kind items }

def pendingCount (type : FsDataType) (b : BleState) : Nat := myFlashStorePendingCount (fsLayout type) (b.store type).rg

def uploadTotal (kind : ScanKind) (b : BleState) : Nat := b.pendingCount kind.type + (b.table kind).length

def uploadActive (type : FsDataType) (b : BleState) : Bool := (b.store type).rg.uploadActive

def anyPending (b : BleState) : Bool :=
  0 < (b.table .tag).length || 0 < (b.table .mac).length || 0 < b.pendingCount .tag || 0 < b.pendingCount .mac

variable [Crc32Ieee]

def flash (env : BleEnv) (type : FsDataType) (op : FsOp (FsRecord type)) (b : BleState) :
    FsAnswer (FsRecord type) × BleState :=
  let io := env.io b.flashCalls
  let stepped := fsStep (fsLayout type) io (b.store type) op
  let full := (fsCall (fsLayout type) io (b.store type) op).effects.any FsEffect.isRingFull
  (stepped.1, { b with
    store := Function.update b.store type stepped.2
    flashCalls := b.flashCalls + 1
    log := b.log ++ if full then [.ringFull type] else [] })

def lteSendCommand (env : BleEnv) (packet : LtePacket) (b : BleState) : Int × BleState :=
  (env.lteSend, { b with log := b.log ++ if env.lteSend = 0 then [.sent packet] else [] })

end BleState

def tagResultMaxNum : Nat := 10
def tranMacMaxNum : Nat := 20
def advCacheMaxNum : Nat := 10

inductive AdvType where
  | advInd
  | scanRsp
  deriving DecidableEq

structure TagScanProcessMsg where
  advType : AdvType
  result : TagScanResult

structure TranMacProcessMsg where
  addr : BtAddrLe
  advData : List UInt8

/-- The names registered by `tag_prefix_table_init`: L780, PB7, LL311 and PET. -/
def tagPrefixTable : List (List UInt8) :=
  [[0x4C, 0x37, 0x38, 0x30], [0x50, 0x42, 0x37], [0x4C, 0x4C, 0x33, 0x31, 0x31], [0x50, 0x45, 0x54]]

def tagNameMatch (name : List UInt8) : Bool := tagPrefixTable.any fun start => start.isPrefixOf name

def AdvCacheItem.holds (addr : BtAddrLe) (item : AdvCacheItem) : Bool := item.valid && item.addr = addr

/-- The cache slot that takes the advertisement: the one of that address, else the
first free one, else the oldest. -/
def advCacheSlot (cache : List AdvCacheItem) (addr : BtAddrLe) : Nat :=
  match cache.findIdx? (·.holds addr), cache.findIdx? (!·.valid) with
  | some i, _ => i
  | none, some i => i
  | none, none => minIdx AdvCacheItem.seqNum cache

def advCacheFind (cache : List AdvCacheItem) (addr : BtAddrLe) : Option AdvCacheItem := cache.find? (·.holds addr)

def advCacheRelease (cache : List AdvCacheItem) (addr : BtAddrLe) : List AdvCacheItem :=
  match cache.findIdx? (·.holds addr) with
  | some i => cache.modify i ({ · with valid := false })
  | none => cache

def tagScanResultMerge (now : UInt32) (item result : TagScanResult) : TagScanResult where
  addr := item.addr
  name := result.name
  rssi := result.rssi
  ffData := if result.ffData.length > 0 then result.ffData else item.ffData
  uuid := if result.uuid.length > 0 then result.uuid else item.uuid
  batteryPercent := result.batteryPercent
  timestamp := now

def tranMacMerge (now : UInt32) (item : TranMacResultItem) (msg : TranMacProcessMsg) : TranMacResultItem :=
  { item with advData := msg.advData, timestamp := now }

def tableIndex {kind : ScanKind} (items : List (ScanRecord kind)) (addr : BtAddrLe) : Option Nat :=
  items.findIdx? fun item => ScanRecord.addr item = addr

def tableReplace (kind : ScanKind) (i : Nat) (old new : ScanRecord kind) (b : BleState) : BleState :=
  ((b.setTable kind ((b.table kind).set i new)).emit (.replaced kind old new)).emit (.collected kind new)

def tableAppend (kind : ScanKind) (new : ScanRecord kind) (b : BleState) : BleState :=
  (b.setTable kind (b.table kind ++ [new])).emit (.collected kind new)

variable [Crc32Ieee]

def tableFlushToFlash (env : BleEnv) (kind : ScanKind) (b : BleState) : BleState :=
  if (b.table kind).length = 0 then b
  else
    ((selectionSort ScanRecord.timestamp (b.table kind)).foldl
      (fun b item => (b.flash env kind.type (.push item)).2) b).setTable kind []

def tableFlushInPlace (env : BleEnv) (kind : ScanKind) (b : BleState) : BleState :=
  if (b.table kind).length = 0 then b
  else
    let sorted := b.setTable kind (sortInPlace ScanRecord.timestamp (b.table kind))
    ((List.range (b.table kind).length).foldl
      (fun b i => (b.flash env kind.type (.push ((b.table kind).getD i default))).2) sorted).setTable kind []

def tagTableFlushToFlash (env : BleEnv) : BleState → BleState := tableFlushToFlash env .tag

def tranMacTableFlushToFlash (env : BleEnv) : BleState → BleState := tableFlushToFlash env .mac

def tagScanResultSave (env : BleEnv) (now : UInt32) (result : TagScanResult) (b : BleState) : BleState :=
  match tableIndex (b.table .tag) result.addr with
  | some i =>
    let item := (b.table .tag).getD i default
    tableReplace .tag i item (tagScanResultMerge now item result) b
  | none =>
    if (b.table .tag).length < tagResultMaxNum then tableAppend .tag { result with timestamp := now } b
    else tableAppend .tag { result with timestamp := now } (tagTableFlushToFlash env b)

def tagScanDataHandle (env : BleEnv) (b : BleState) (received : UInt32 × TagScanProcessMsg) : BleState :=
  let (now, msg) := received
  match msg.advType with
  | .advInd =>
    { b with
      advCacheTable := b.advCacheTable.set (advCacheSlot b.advCacheTable msg.result.addr)
        ⟨msg.result.addr, msg.result.ffData, true, b.cacheSeqCounter⟩
      cacheSeqCounter := b.cacheSeqCounter + 1 }
  | .scanRsp =>
    let released := { b with advCacheTable := advCacheRelease b.advCacheTable msg.result.addr }
    if tagNameMatch msg.result.name then
      match advCacheFind b.advCacheTable msg.result.addr with
      | some cached => tagScanResultSave env now { msg.result with ffData := cached.ffData } released
      | none => tagScanResultSave env now msg.result released
    else released

def tranMacDataHandle (b : BleState) (received : UInt32 × TranMacProcessMsg) : BleState :=
  let (now, msg) := received
  if msg.advData.length = 0 then b
  else
    match tableIndex (b.table .mac) msg.addr with
    | some i =>
      let item := (b.table .mac).getD i default
      tableReplace .mac i item (tranMacMerge now item msg) b
    | none =>
      if (b.table .mac).length < tranMacMaxNum then tableAppend .mac ⟨msg.addr, msg.advData, now⟩ b
      else b

def scanStartInternal (env : BleEnv) (b : BleState) : BleState :=
  if b.scanMode = .off then b
  else if b.scanState = .scanning then b
  else if env.scanStart ≠ 0 then b
  else { b with scanState := .scanning }

def scanStopInternal (env : BleEnv) (b : BleState) : BleState :=
  if b.scanState ≠ .scanning then b
  else if env.scanStop ≠ 0 then b
  else { b with
    scanState := .idle
    advCacheTable := List.replicate advCacheMaxNum default
    cacheSeqCounter := 0 }

end LL320D.BleScan
