import LL320D.SensorUpload

/-! The TAG/MAC upload machine, the messages of the BLE thread, and the link to the LTE module as it sees it. -/

namespace LL320D.BleScan
open FlashStore

section

variable [Crc32Ieee]

def uploadStart (env : BleEnv) (kind : ScanKind) (b : BleState) : BleState :=
  let total := b.uploadTotal kind
  let begun :=
    { b with
      uploadState := .start kind
      tagMacinfoSeq := 0
      flashConsumed := 0
      rtCountSnap := (b.table kind).length }
  ((begun.flash env kind.type .uploadBegin).2.lteSendCommand env (.start kind total)).2

def uploadOne (env : BleEnv) (kind : ScanKind) (record : ScanRecord kind) (b : BleState) : BleState :=
  let numbered := { b with tagMacinfoSeq := b.tagMacinfoSeq + 1 }
  (numbered.lteSendCommand env (.data kind numbered.tagMacinfoSeq record)).2

def uploadFinish (env : BleEnv) (kind : ScanKind) (b : BleState) : BleState :=
  let committed := ((b.flash env kind.type .commit).2.emit (.committed kind.type)).setTable kind []
  let ended := { committed with tagMacinfoSeq := 0, flashConsumed := 0, uploadState := .ended kind }
  (ended.lteSendCommand env (.finish kind)).2

def BleState.rtIdx (b : BleState) : Nat := b.tagMacinfoSeq - b.flashConsumed

def uploadNext (env : BleEnv) (kind : ScanKind) (b : BleState) : BleState :=
  match b.flash env kind.type .readNext with
  | (.read (.record data), b) => uploadOne env kind data { b with flashConsumed := b.flashConsumed + 1 }
  | (_, b) =>
    if b.rtIdx < b.rtCountSnap then uploadOne env kind ((b.table kind).getD b.rtIdx default) b
    else uploadFinish env kind b

def uploadEnd (env : BleEnv) (b : BleState) : BleState := sensorCachedUploadTryStart env
    { b with tagMacinfoSeq := 0, flashConsumed := 0, uploadState := .idle, scanState := .idle }

def tagMacScanUploadData (env : BleEnv) (b : BleState) : BleState :=
  if b.scanState = .scanning then b
  else
    match b.uploadState with
    | .idle =>
      if sensorUploadBusy b then b
      else if b.uploadTotal .tag = 0 then
        if b.uploadTotal .mac = 0 then b
        else { uploadStart env .mac b with scanState := .waitingUpload }
      else { uploadStart env .tag b with scanState := .waitingUpload }
    | .start kind => uploadNext env kind b
    | .ended .tag => if b.uploadTotal .mac = 0 then uploadEnd env b else uploadStart env .mac b
    | .ended .mac => uploadEnd env b

def scanTriggerUpload (env : BleEnv) (b : BleState) : BleState :=
  let stopped := scanStopInternal env b
  if !stopped.anyPending then { stopped with scanState := .idle }
  else tagMacScanUploadData env stopped

def rewindScanUpload (env : BleEnv) (b : BleState) : BleState :=
  let cleared := { b with tagMacinfoSeq := 0, uploadState := .idle, flashConsumed := 0, rtCountSnap := 0 }
  ((cleared.flash env .tag .rewind).2.flash env .mac .rewind).2

def myScanSetConfig (env : BleEnv) (mode : ScanMode) (b : BleState) : BleState :=
  let flushed := tranMacTableFlushToFlash env (tagTableFlushToFlash env (scanStopInternal env b))
  let reset := sensorUploadReset env true (rewindScanUpload env flushed)
  let configured := { reset with scanMode := mode, scanState := .idle }
  match mode with
  | .periodCache => scanStartInternal env configured
  | .periodUpload => scanStartInternal env configured
  | _ => configured

def clearTagMacinfo (env : BleEnv) (b : BleState) : BleState :=
  let cleared := (({ b with scanState := .idle }).setTable .tag []).setTable .mac []
  sensorUploadReset env true (rewindScanUpload env cleared)

/-- The messages handled by the BLE thread. A scan message drains its queue; every drained entry comes with its system
time, a sensor acknowledgement with the type of its reply. -/
inductive BleMsg where
  | tagScanProcess (drained : List (UInt32 × TagScanProcessMsg))
  | tranMacProcess (drained : List (UInt32 × TranMacProcessMsg))
  | scanInterval
  | scanLength
  | scanUpload
  | uploadWakeup
  | sensorThSample (record : FsTempHumiRecord)
  | sensorBpSample (record : FsBarometerRecord)
  | sensorLteAck (rsp : BleRspType)
  | uploadTagAndMac
  | setConfig (mode : ScanMode)
  | clearTagMacinfo

def ScanMode.periodic : ScanMode → Bool
  | .periodCache => true
  | .periodUpload => true
  | _ => false

def uploadOnWakeup (env : BleEnv) (b : BleState) : BleState :=
  if b.scanMode.periodic && b.anyPending then
    let stopped := scanStopInternal env b
    if stopped.scanState = .waitingUpload then stopped else tagMacScanUploadData env stopped
  else b

def myScanMsgHandler (b : BleState) (received : BleEnv × BleMsg) : BleState :=
  let (env, msg) := received
  match msg with
  | .tagScanProcess drained => drained.foldl (tagScanDataHandle env) b
  | .tranMacProcess drained => drained.foldl tranMacDataHandle b
  | .scanInterval => if b.scanMode.periodic && b.scanState = .idle then scanStartInternal env b else b
  | .scanLength => tranMacTableFlushToFlash env (tagTableFlushToFlash env (scanStopInternal env b))
  | .scanUpload =>
    if b.scanMode = .periodUpload && b.anyPending then
      if b.scanState = .waitingUpload then b else scanTriggerUpload env b
    else b
  | .uploadWakeup => sensorCachedUploadTryStart env (uploadOnWakeup env b)
  | .sensorThSample record => sensorProcessTempHumiSample env record b
  | .sensorBpSample record => sensorProcessBarometerSample env record b
  | .sensorLteAck rsp => sensorHandleLteAck env rsp b
  | .uploadTagAndMac => tagMacScanUploadData env b
  | .setConfig mode => myScanSetConfig env mode b
  | .clearTagMacinfo => clearTagMacinfo env b

/-- `my_scan_init`: zeroed memory and the regions as `my_flash_store_init` loads them,
then the stored configuration. -/
def myScanInit (env : BleEnv) (mode : ScanMode) (media : (type : FsDataType) → FsMedia (FsRecord type)) : BleState :=
  myScanSetConfig env mode
    { table := fun _ => []
      advCacheTable := List.replicate advCacheMaxNum default
      cacheSeqCounter := 0
      scanMode := .off
      scanState := .idle
      tagMacinfoSeq := 0
      uploadState := .idle
      flashConsumed := 0
      rtCountSnap := 0
      sensorUploadCtx := ⟨.idle, some .tag, 0, 0⟩
      store := fun type => myFlashStoreInit (fsLayout type) (media type)
      flashCalls := 0
      log := [] }

end

structure Link where
  ble : BleState
  lteReady : Bool

inductive LinkEvent where
  /-- `my_lte_pwroff_handle`; an upgrade or the factory mode refuses it. -/
  | pwroff (refused : Bool)
  /-- An `LTE+PWRON` line, after a start of the module or an abnormal restart. -/
  | pwron
  | message (env : BleEnv) (msg : BleMsg)

namespace Link

def env (l : Link) (env : BleEnv) : BleEnv := { env with lteReady := l.lteReady }

variable [Crc32Ieee]

def step (l : Link) : LinkEvent → Link
  | .pwroff refused => { l with lteReady := if refused then l.lteReady else false }
  | .pwron => { l with lteReady := true }
  | .message env msg => { l with ble := myScanMsgHandler l.ble (l.env env, msg) }

def start (env : BleEnv) (mode : ScanMode) (media : (type : FsDataType) → FsMedia (FsRecord type)) : Link :=
  ⟨myScanInit env mode media, false⟩

end Link

end LL320D.BleScan
