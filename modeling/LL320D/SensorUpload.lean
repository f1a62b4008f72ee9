import LL320D.BleState

/-! Upload of sensor samples: one TH or BP packet for a sample taken while the LTE module is ready, and the CDATA session
that back-fills the samples kept in flash, with the text of its packets. -/

namespace LL320D.BleScan

section
open FlashStore

def enomem : Int := 12

def sensorCdataUartFrameMaxLen : Nat := 1024
def sensorCdataCmdPrefixLen : Nat := 10
def sensorCdataParamMaxLen : Nat := sensorCdataUartFrameMaxLen - sensorCdataCmdPrefixLen - 2
def sensorCdataPrefixReservedLen : Nat := 24
def sensorCdataThRecordMaxTextLen : Nat := 25
def sensorCdataBpRecordMaxTextLen : Nat := 22

def sensorCdataRecordMaxTextLenGet : FsDataType → Nat
  | .th => sensorCdataThRecordMaxTextLen
  | .bp => sensorCdataBpRecordMaxTextLen
  | _ => 0

def sensorCdataMaxRecordsPerPacket (type : FsDataType) : Nat :=
  if sensorCdataRecordMaxTextLenGet type = 0 then 0
  else if sensorCdataParamMaxLen ≤ sensorCdataPrefixReservedLen then 0
  else (sensorCdataParamMaxLen - sensorCdataPrefixReservedLen - 1) / sensorCdataRecordMaxTextLenGet type

def sensorCdataRecordText : (type : FsDataType) → FsRecord type → String
  | .th, (record : FsTempHumiRecord) =>
    "," ++ record.timestamp.toNat.repr ++ "," ++ record.temperatureX10.toInt.repr ++ "," ++ record.humidityX10.toNat.repr
  | .bp, (record : FsBarometerRecord) => "," ++ record.timestamp.toNat.repr ++ "," ++ record.pressurePa.toNat.repr
  | _, _ => ""

def SensorUploadState.isCdata : SensorUploadState → Bool
  | .cdataWaitStartAck => true
  | .cdataWaitDataAck => true
  | .cdataWaitEndAck => true
  | _ => false

def sensorSampleState (type : FsDataType) : SensorUploadState := if type = .th then .thWaitAck else .bpWaitAck

def sensorUploadBusy (b : BleState) : Bool := b.sensorUploadCtx.state ≠ .idle

inductive BleRspType where
  | unknown
  | location
  | led
  | time
  | tag
  | ota
  | info
  | macinfo
  | wmode
  | pwroff
  | pulse
  | th
  | bp
  | cdata
  | factory
  | key
  deriving DecidableEq

variable [Crc32Ieee]

def sensorUploadReset (env : BleEnv) (rewindFlash : Bool) (b : BleState) : BleState :=
  let rewound :=
    match b.sensorUploadCtx.uploadType with
    | some .th => if rewindFlash && b.sensorUploadCtx.state.isCdata then (b.flash env .th .rewind).2 else b
    | some .bp => if rewindFlash && b.sensorUploadCtx.state.isCdata then (b.flash env .bp .rewind).2 else b
    | _ => b
  { rewound with sensorUploadCtx := ⟨.idle, none, 0, 0⟩ }

/-- The loop that fills a CDATA packet, for at most `room` more records: these and the length of the text so far, or
nothing when a text does not fit. -/
def sensorCdataFill (env : BleEnv) (type : FsDataType) :
    Nat → List (FsRecord type) → Nat → BleState → Option (List (FsRecord type) × Nat) × BleState
  | 0, records, usedLen, b => (some (records, usedLen), b)
  | room + 1, records, usedLen, b =>
    if sensorCdataParamMaxLen < usedLen + sensorCdataRecordMaxTextLenGet type + 1 then (some (records, usedLen), b)
    else
      match b.flash env type .readNext with
      | (.read (.record data), b) =>
        let appendLen := (sensorCdataRecordText type data).length
        if appendLen = 0 ∨ sensorCdataParamMaxLen - usedLen ≤ appendLen then (none, b)
        else sensorCdataFill env type room (records ++ [data]) (usedLen + appendLen) b
      | (_, b) => (some (records, usedLen), b)

def sensorCdataSendNextPacket (env : BleEnv) (b : BleState) : Int × BleState :=
  match b.sensorUploadCtx.uploadType with
  | none => (-einval, b)
  | some type =>
    if sensorCdataMaxRecordsPerPacket type = 0 ∨ sensorCdataRecordMaxTextLenGet type = 0 then (-einval, b)
    else
      match sensorCdataFill env type (sensorCdataMaxRecordsPerPacket type) [] sensorCdataPrefixReservedLen b with
      | (none, b) => (-enomem, b)
      | (some (records, usedLen), b) =>
        if records.length = 0 then (-einval, b)
        else
          let seq := b.sensorUploadCtx.nextSeq
          let prefixLen := (seq.repr ++ "," ++ records.length.repr).length
          if sensorCdataPrefixReservedLen ≤ prefixLen then (-enomem, b)
          else if sensorCdataParamMaxLen < prefixLen + (usedLen - sensorCdataPrefixReservedLen) + 1 then (-enomem, b)
          else
            let (ret, b) := b.lteSendCommand env (.cdataData type seq records)
            (ret, if ret = 0 then
              { b with sensorUploadCtx := { b.sensorUploadCtx with state := .cdataWaitDataAck } }
            else b)

def sensorCachedUploadType (b : BleState) : Option FsDataType :=
  if 0 < b.pendingCount .th then some .th
  else if 0 < b.pendingCount .bp then some .bp
  else none

def sensorCdataTotalPackets (type : FsDataType) (b : BleState) : Nat :=
  (b.pendingCount type + sensorCdataMaxRecordsPerPacket type - 1) / sensorCdataMaxRecordsPerPacket type

def sensorCachedUploadTryStart (env : BleEnv) (b : BleState) : BleState :=
  if sensorUploadBusy b || b.uploadState ≠ .idle then b
  else
    match sensorCachedUploadType b with
    | none => b
    | some type =>
      if !env.lteReady then b
      else if b.pendingCount type = 0 ∨ sensorCdataMaxRecordsPerPacket type = 0 then b
      else
        let total := sensorCdataTotalPackets type b
        let begun :=
          { (b.flash env type .uploadBegin).2 with sensorUploadCtx := ⟨.cdataWaitStartAck, some type, total, 1⟩ }
        let (ret, b) := begun.lteSendCommand env (.cdataStart type total)
        if ret ≠ 0 then sensorUploadReset env true b else b

def sensorRealtimeUploadStart (env : BleEnv) (type : FsDataType) (record : FsRecord type) (b : BleState) :
    Int × BleState :=
  if !env.lteReady || sensorUploadBusy b || b.uploadState ≠ .idle then (-ebusy, b)
  else
    let begun :=
      { b with sensorUploadCtx := { b.sensorUploadCtx with uploadType := some type, state := sensorSampleState type } }
    let (ret, b) := begun.lteSendCommand env (.sample type record)
    (ret, if ret ≠ 0 then sensorUploadReset env false b else b)

def sensorSampleKeep (env : BleEnv) (type : FsDataType) (wakeupCellSw : Bool) (record : FsRecord type) (b : BleState) :
    BleState :=
  let pushed := (b.flash env type (.push record)).2
  if !env.lteReady && wakeupCellSw then pushed.emit .ltePwron else pushed

def sensorProcessSample (env : BleEnv) (type : FsDataType) (wakeupCellSw : Bool) (record : FsRecord type)
    (b : BleState) : BleState :=
  if env.lteReady then
    let (ret, b) := sensorRealtimeUploadStart env type record b
    if ret = 0 then b else sensorSampleKeep env type wakeupCellSw record b
  else sensorSampleKeep env type wakeupCellSw record b

def sensorProcessTempHumiSample (env : BleEnv) (record : FsTempHumiRecord) : BleState → BleState :=
  sensorProcessSample env .th env.tempWakeupCellSw record

def sensorProcessBarometerSample (env : BleEnv) (record : FsBarometerRecord) : BleState → BleState :=
  sensorProcessSample env .bp env.patmWakeupCellSw record

def sensorCdataContinue (env : BleEnv) (b : BleState) : BleState :=
  let (ret, b) := sensorCdataSendNextPacket env b
  if ret ≠ 0 then sensorUploadReset env true b else b

def sensorUploadDone (env : BleEnv) (b : BleState) : BleState :=
  sensorCachedUploadTryStart env (sensorUploadReset env false b)

def sensorHandleLteAck (env : BleEnv) (rsp : BleRspType) (b : BleState) : BleState :=
  match rsp with
  | .th => if b.sensorUploadCtx.state = .thWaitAck then sensorUploadDone env b else b
  | .bp => if b.sensorUploadCtx.state = .bpWaitAck then sensorUploadDone env b else b
  | .cdata =>
    match b.sensorUploadCtx.state with
    | .cdataWaitStartAck => sensorCdataContinue env b
    | .cdataWaitDataAck =>
      if b.sensorUploadCtx.nextSeq < b.sensorUploadCtx.totalPackets then
        sensorCdataContinue env
          { b with sensorUploadCtx := { b.sensorUploadCtx with nextSeq := b.sensorUploadCtx.nextSeq + 1 } }
      else
        let (ret, b) := b.lteSendCommand env .cdataEnd
        if ret ≠ 0 then sensorUploadReset env true b
        else { b with sensorUploadCtx := { b.sensorUploadCtx with state := .cdataWaitEndAck } }
    | .cdataWaitEndAck =>
      match b.sensorUploadCtx.uploadType with
      | none => sensorUploadDone env b
      | some type => sensorUploadDone env ((b.flash env type .commit).2.emit (.committed type))
    | _ => b
  | _ => b

end

def nul : Char := Char.ofNat 0

def putAt (buf : List Char) (pos : Nat) (bytes : List Char) : List Char :=
  buf.take pos ++ bytes ++ buf.drop (pos + bytes.length)

def sensorCdataAppend (type : FsDataType) (state : List Char × Nat) (record : FsRecord type) : List Char × Nat :=
  let text := (sensorCdataRecordText type record).toList
  (putAt state.1 state.2 (text ++ [nul]), state.2 + text.length)

def sensorCdataParam (type : FsDataType) (nextSeq : Nat) (records : List (FsRecord type)) : List Char :=
  let (buf, usedLen) := records.foldl (sensorCdataAppend type)
    (List.replicate sensorCdataParamMaxLen nul, sensorCdataPrefixReservedLen)
  let prefixBuf := (nextSeq.repr ++ "," ++ records.length.repr).toList
  let recordTextLen := usedLen - sensorCdataPrefixReservedLen
  let moved := putAt buf prefixBuf.length ((buf.drop sensorCdataPrefixReservedLen).take (recordTextLen + 1))
  (putAt moved 0 prefixBuf).takeWhile (· ≠ nul)

def sensorCdataHand (env : BleEnv) (type : FsDataType) (nextSeq : Nat) (records : List (FsRecord type)) (b : BleState) :
    Int × BleState :=
  let (ret, b) := b.lteSendCommand env (.cdataData type nextSeq records)
  (ret, if ret = 0 then { b with sensorUploadCtx := { b.sensorUploadCtx with state := .cdataWaitDataAck } } else b)

def recordValues : (type : FsDataType) → FsRecord type → List Int
  | .th, (record : FsTempHumiRecord) =>
    [record.timestamp.toNat, record.temperatureX10.toInt, record.humidityX10.toNat]
  | .bp, (record : FsBarometerRecord) => [record.timestamp.toNat, record.pressurePa.toNat]
  | _, _ => []

def recordsOf : (type : FsDataType) → List Int → List (FsRecord type)
  | .th, timestamp :: temperature :: humidity :: rest =>
    (⟨.ofNat timestamp.toNat, .ofInt temperature, .ofNat humidity.toNat⟩ : FsTempHumiRecord) :: recordsOf .th rest
  | .bp, timestamp :: pressure :: rest =>
    (⟨.ofNat timestamp.toNat, .ofNat pressure.toNat⟩ : FsBarometerRecord) :: recordsOf .bp rest
  | _, _ => []

def decodeCdata (type : FsDataType) (text : List Char) : Option (Int × Int × List (FsRecord type)) :=
  match (text.splitOn ',').mapM fun field => (String.ofList field).toInt? with
  | some (seq :: count :: values) => some (seq, count, recordsOf type values)
  | _ => none

end LL320D.BleScan
