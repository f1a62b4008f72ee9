import LL320D.BleInput
import LL320D.ScanUpload

/-! What the 4G module sends, from `my_lte.c`: its replies with the two threads that work on them, how lines are put
together and which tokeniser gets each, and the lines `LTE+CMD=<id>,<command>`. -/

namespace LL320D.BleScan
open FlashStore

structure BleRspResult where
  type : BleRspType
  cmdName : List Char
  params : List Char
  paramCount : Nat
  deriving DecidableEq

def bleRspCmdTable : List (String × BleRspType) :=
  [("LOCATION", .location), ("LED", .led), ("TIME", .time), ("TAG", .tag), ("OTA", .ota), ("INFO", .info),
    ("MACINFO", .macinfo), ("WMODE", .wmode), ("PWROFF", .pwroff), ("PULSE", .pulse), ("TH", .th), ("BP", .bp),
    ("CDATA", .cdata), ("FACTORY", .factory), ("KEY", .key)]

def bleRspParamsSize : Nat := 256

/-- The name up to `=` and the parameters up to `#`; without `=` the line is rejected. -/
def bleRspParse (rspStr : List Char) : Option BleRspResult :=
  match rspStr.dropWhile (· ≠ '=') with
  | [] => none
  | _ :: paramStart =>
    let cmdName := rspStr.takeWhile (· ≠ '=')
    let cut := paramStart.takeWhile (· ≠ '#')
    some
      { type := ((bleRspCmdTable.find? fun entry => entry.1.toList = cmdName).map Prod.snd).getD .unknown
        cmdName
        params := cut.take (bleRspParamsSize - 1)
        paramCount := if cut = [] then 0 else 1 + cut.count ',' }

/-- The loop of `my_get_str_at_pos`: `i` separators are behind, `out` is in the buffer. -/
def getStrLoop (pos : Nat) (split : Char) (buffLen : Nat) : List Char → Nat → List Char → Bool × List Char
  | [], _, out => (false, out)
  | c :: rest, i, out =>
    if i = pos ∧ c ≠ split then
      if buffLen - 1 ≤ out.length + 1 then (false, out ++ [c])
      else getStrLoop pos split buffLen rest i (out ++ [c])
    else if pos < i then (true, out)
    else getStrLoop pos split buffLen rest (if c = split then i + 1 else i) out

def myGetStrAtPos (input : List Char) (pos : Nat) (split : Char) (buffLen : Nat) : Bool × List Char :=
  getStrLoop pos split buffLen input 0 []

def specialCmdPrefixes : List String := ["MACINFO", "TAG"]

def subcmdSize : Nat := 16

inductive LteAction where
  | checkAck (cmdName : List Char)
  | setSystemTime (seconds : List Char)
  | saveSensorRsp (rsp : BleRspResult)
  | sendUploadTagAndMac
  | sendSensorLteAck
  deriving DecidableEq

/-- The result for one reply line, and the calls made on the way. The parameters of a
TAG or MACINFO reply only name the entry that leaves the retransmission queue. -/
def myBleHandle (data : List Char) : Int × List LteAction :=
  match bleRspParse data with
  | none => (-1, [])
  | some rsp =>
    let subcmd := (myGetStrAtPos rsp.params 1 ',' subcmdSize).2
    let cmdName :=
      if specialCmdPrefixes.any fun name => name.toList = rsp.cmdName then rsp.cmdName ++ '_' :: subcmd
      else rsp.cmdName
    let calls :=
      match rsp.type with
      | .time => [.setSystemTime subcmd]
      | .tag | .macinfo => [.sendUploadTagAndMac]
      | .th | .bp | .cdata => [.saveSensorRsp rsp, .sendSensorLteAck]
      | _ => []
    (0, .checkAck cmdName :: calls)

def BleMsg.fromLte : BleMsg → Bool
  | .uploadTagAndMac => true
  | .sensorLteAck _ => true
  | _ => false

/-- A message in `my_ble_msgq`. That a `uploadTagAndMac` stems from a certain line is not known to the firmware;
`foreign` are messages that do not concern the scan module. -/
inductive QueuedMsg where
  | uploadTagAndMac (line : Nat)
  | sensorLteAck
  | posted (msg : { msg : BleMsg // msg.fromLte = false })
  | foreign

def bleMsgqLen : Nat := 10

structure ReplyLine where
  text : List Char
  answers : Option Nat
  deriving DecidableEq

/-- The BLE thread, its queue and the message it has taken, what the LTE thread has still to do, and `s_sensor_ble_rsp`;
with the lines so far, the number of scan packets sent before the latest session, and the reply types handled. -/
structure Threads where
  ble : BleState
  msgq : List QueuedMsg
  current : Option QueuedMsg
  todo : List LteAction
  sensorBleRsp : BleRspResult
  lines : List ReplyLine
  sessionAt : Nat
  sensorAcks : List BleRspType

inductive ThreadEvent where
  | line (text : List Char) (answers : Option Nat)
  | lteStep
  | post (msg : { msg : BleMsg // msg.fromLte = false })
  | postForeign
  | recv
  | handle (env : BleEnv)

def UploadState.isStart : UploadState → Bool
  | .start _ => true
  | _ => false

namespace Threads

def put (msg : QueuedMsg) (sys : Threads) : Threads :=
  if sys.msgq.length < bleMsgqLen then { sys with msgq := sys.msgq ++ [msg] } else sys

def lteCall (action : LteAction) (sys : Threads) : Threads :=
  match action with
  | .saveSensorRsp rsp => { sys with sensorBleRsp := rsp }
  | .sendUploadTagAndMac => sys.put (.uploadTagAndMac (sys.lines.length - 1))
  | .sendSensorLteAck => sys.put .sensorLteAck
  | _ => sys

variable [Crc32Ieee]

def run (env : BleEnv) (msg : BleMsg) (sys : Threads) : Threads :=
  let after := myScanMsgHandler sys.ble (env, msg)
  { sys with
    ble := after
    sessionAt :=
      if after.uploadState.isStart && after.uploadState ≠ sys.ble.uploadState then (scanPackets sys.ble).length
      else sys.sessionAt }

def handleMsg (env : BleEnv) (msg : QueuedMsg) (sys : Threads) : Threads :=
  match msg with
  | .uploadTagAndMac _ => sys.run env .uploadTagAndMac
  | .sensorLteAck =>
    -- `my_lte_get_sensor_ble_rsp` copies whatever the slot holds now.
    let rsp := sys.sensorBleRsp.type
    { sys.run env (.sensorLteAck rsp) with sensorAcks := sys.sensorAcks ++ [rsp] }
  | .posted msg => sys.run env msg
  | .foreign => sys

def step (sys : Threads) (event : ThreadEvent) : Threads :=
  match event with
  | .line text answers =>
    match sys.todo with
    | [] =>
      { sys with
        todo := (myBleHandle text).2
        lines := sys.lines ++ [⟨text, answers.filter (· < (scanPackets sys.ble).length)⟩] }
    | _ :: _ => sys
  | .lteStep =>
    match sys.todo with
    | [] => sys
    | action :: rest => { sys with todo := rest }.lteCall action
  | .post msg => sys.put (.posted msg)
  | .postForeign => sys.put .foreign
  | .recv =>
    match sys.current, sys.msgq with
    | none, msg :: rest => { sys with current := some msg, msgq := rest }
    | _, _ => sys
  | .handle env =>
    match sys.current with
    | none => sys
    | some msg => { sys with current := none }.handleMsg env msg

def start (env : BleEnv) (mode : ScanMode) (media : (type : FsDataType) → FsMedia (FsRecord type)) : Threads :=
  { ble := myScanInit env mode media
    msgq := []
    current := none
    todo := []
    sensorBleRsp := ⟨.unknown, [], [], 0⟩
    lines := []
    sessionAt := 0
    sensorAcks := [] }

end Threads

end LL320D.BleScan

namespace LL320D.Lte
def maxCmdLen : Nat := 128

def maxArgs : Nat := 10

def readBufSize : Nat := 128

def lineFeed : UInt8 := 0x0A

def isLineEnd (byte : UInt8) : Bool := byte == 0x0D || byte == lineFeed

structure Chunk where
  data : List UInt8
  nonempty : data ≠ []
  most : data.length ≤ readBufSize

/-- The statics of `my_lte_handle_recv`, the lines given to `my_lte_parse_cmd`, and every index at which `pData` was
read, with the `iLen` of the call. -/
structure Assembler where
  command : List UInt8
  parsed : List (List UInt8)
  reads : List (Nat × Nat)
  deriving DecidableEq

namespace Assembler

def start : Assembler := { command := [], parsed := [], reads := [] }

def readAt (s : Assembler) (i iLen : Nat) : Assembler := { s with reads := s.reads ++ [(i, iLen)] }

def parse (s : Assembler) : Assembler := { s with command := [], parsed := s.parsed ++ [s.command] }

/-- The loop of `my_lte_handle_recv` from index `i` on. Behind the last byte of the chunk it reads one
more, and ends whatever that is. -/
def handleRecvLoop (iLen : Nat) : Assembler → Nat → List UInt8 → Assembler
  | s, _, [] => s
  | s, i, byte :: rest =>
    if isLineEnd byte then
      match rest with
      | [] => ((s.readAt i iLen).parse).readAt (i + 1) iLen
      | next :: tail =>
        if next = lineFeed then handleRecvLoop iLen (((s.readAt i iLen).parse).readAt (i + 1) iLen) (i + 2) tail
        else handleRecvLoop iLen (((s.readAt i iLen).parse).readAt (i + 1) iLen) (i + 1) (next :: tail)
    else if s.command.length < maxCmdLen - 1 then
      handleRecvLoop iLen { s.readAt i iLen with command := s.command ++ [byte] } (i + 1) rest
    else handleRecvLoop iLen (s.readAt i iLen) (i + 1) rest

def handleRecv (s : Assembler) (chunk : Chunk) : Assembler := handleRecvLoop chunk.data.length s 0 chunk.data

end Assembler

structure Store where
  index : Nat
  offset : Nat
  deriving DecidableEq

/-- What a tokeniser leaves: its stores, the number of arguments, and the text with the separators behind
words replaced by `\0`. -/
structure Tokens where
  stores : List Store
  argc : Nat
  text : List Char
  deriving DecidableEq

def parseArgsLoop : Bool → Nat → Nat → List Char → Tokens
  | _, i, _, [] => { stores := [], argc := i, text := [] }
  | word, i, pos, c :: rest =>
    if word then
      if c = ' ' then
        let tokens := parseArgsLoop false i (pos + 1) rest
        { tokens with text := '\x00' :: tokens.text }
      else
        let tokens := parseArgsLoop true i (pos + 1) rest
        { tokens with text := c :: tokens.text }
    else if c = ' ' then
      let tokens := parseArgsLoop false i (pos + 1) rest
      { tokens with text := c :: tokens.text }
    else
      let tokens := parseArgsLoop true (i + 1) (pos + 1) rest
      { tokens with stores := { index := i, offset := pos } :: tokens.stores, text := c :: tokens.text }

def parseArgs (cmdline : List Char) : Tokens :=
  parseArgsLoop false 0 0 (cmdline.map fun c => if c = '\t' then ' ' else c)

def parseCmdLineLoop (flag : Char) (maxArgs : Nat) : Bool → Nat → Nat → List Char → Tokens
  | _, i, _, [] => { stores := [], argc := i, text := [] }
  | word, i, pos, c :: rest =>
    if word then
      if c = flag then
        let tokens := parseCmdLineLoop flag maxArgs false i (pos + 1) rest
        { tokens with text := '\x00' :: tokens.text }
      else
        let tokens := parseCmdLineLoop flag maxArgs true i (pos + 1) rest
        { tokens with text := c :: tokens.text }
    else if c = flag then
      let tokens := parseCmdLineLoop flag maxArgs false i (pos + 1) rest
      { tokens with text := c :: tokens.text }
    else if i + 1 = maxArgs then { stores := [{ index := i, offset := pos }], argc := i + 1, text := c :: rest }
    else
      let tokens := parseCmdLineLoop flag maxArgs true (i + 1) (pos + 1) rest
      { tokens with stores := { index := i, offset := pos } :: tokens.stores, text := c :: tokens.text }

def myParseCmdLine (cmdline : List Char) (flag : Char) (argc : Nat) : Tokens := parseCmdLineLoop flag argc false 0 0 cmdline

def factoryCmdHeader : List Char := "AT^GT_CM=".toList

def myAtFactoryCmd (pfactorycmd : List Char) : Tokens := myParseCmdLine (pfactorycmd.drop factoryCmdHeader.length) ',' 0

/-- The headers that `my_lte_parse_cmd` asks for before `LTE+CMD=`, in its order. -/
def headersBeforeCmd : List String :=
  ["LTE+PWRON=", "LTE+PWROFF=", "LTE+BTSET=", "LTE+TIME=", "LTE+NTCSET=", "LTE+TRANSMIT=", "LTE+FOTA=", "LTE+MCUOTA="]

def lteCmd : List Char := "LTE+CMD=".toList

def headersAfterCmd : List String :=
  ["LTE+LOCATION=", "LTE+FACTORY=", "LTE+STATE=", "LTE+SN=", "LTE+GETMOT=", "LTE+GETTIME=", "LTE+GPSSTATE=", "BLE+CMD="]

def bleHeader : List Char := "BLE+".toList

def cmdMatched (data header : List Char) : Bool := header.isPrefixOf data

inductive Route where
  | ignored
  | handler (header : String)
  | forward (text : List Char)
  | reply (text : List Char)
  | factory (text : List Char)
  | args (text : List Char)
  deriving DecidableEq

def route (cmd : List Char) : Route :=
  if cmd = [] then .ignored
  else
    match headersBeforeCmd.find? fun header => cmdMatched cmd header.toList with
    | some header => .handler header
    | none =>
      if cmdMatched cmd lteCmd then
        if cmdMatched (cmd.drop lteCmd.length) factoryCmdHeader then .factory (cmd.drop lteCmd.length)
        else .forward (cmd.drop lteCmd.length)
      else
        match headersAfterCmd.find? fun header => cmdMatched cmd header.toList with
        | some header => .handler header
        | none =>
          if cmdMatched cmd bleHeader then .reply (cmd.drop bleHeader.length)
          else if cmdMatched cmd factoryCmdHeader then .factory cmd
          else .args cmd

def tokenise (cmd : List Char) : Option Tokens :=
  match route cmd with
  | .factory text => some (myAtFactoryCmd text)
  | .args text => some (parseArgs text)
  | _ => none

open BleScan

inductive ReplyBuffer where
  | resultCmdName
  | resultParams
  | subcmd
  | cmdName
  deriving DecidableEq

def ReplyBuffer.size : ReplyBuffer → Nat
  | .resultCmdName => 32
  | .resultParams => bleRspParamsSize
  | .subcmd => subcmdSize
  | .cmdName => 32

def fill (buffer : ReplyBuffer) (count : Nat) : List (ReplyBuffer × Nat) := (List.range count).map (buffer, ·)

def putString (buffer : ReplyBuffer) (text : List Char) : List (ReplyBuffer × Nat) := fill buffer (text.length + 1)

def getSubcmd (params : List Char) : List Char := (myGetStrAtPos params 1 ',' subcmdSize).2

/-- The writes of `ble_rsp_parse`: `memset`; then, behind the test for `=`, `strcpy` of the name and `strncpy` of the
parameters, which fills what they leave of its length. -/
def bleRspParseWrites (rspStr : List Char) : List (ReplyBuffer × Nat) :=
  fill .resultCmdName ReplyBuffer.resultCmdName.size ++ fill .resultParams bleRspParamsSize ++
    match bleRspParse rspStr with
    | none => []
    | some rsp =>
      putString .resultCmdName rsp.cmdName ++ fill .resultParams (bleRspParamsSize - 1) ++
        [(.resultParams, bleRspParamsSize - 1)]

def myBleHandleWrites (data : List Char) : List (ReplyBuffer × Nat) :=
  fill .subcmd subcmdSize ++ bleRspParseWrites data ++
    match bleRspParse data with
    | none => []
    | some rsp =>
      let subcmd := getSubcmd rsp.params
      (if specialCmdPrefixes.any fun name => name.toList = rsp.cmdName then
        putString .subcmd subcmd ++ putString .cmdName (rsp.cmdName ++ '_' :: subcmd)
      else putString .cmdName rsp.cmdName) ++
        if rsp.type = .time then putString .subcmd subcmd else []

end LL320D.Lte

namespace LL320D.LteCmd
open AtText

def bytes (chars : List Char) : List UInt8 := chars.map fun c => c.toNat.toUInt8

def crlf : List UInt8 := [0x0D, 0x0A]

/-- The answer of the control thread to a query over LTE: `OK,<id>,…`, or `RETURN_MCU_…`. -/
inductive Answer where
  | ok (reading : List UInt8)
  | returnMcu (reading : List UInt8)

def Answer.print (id : List UInt8) : Answer → List UInt8
  | ok reading => cString "OK," ++ id ++ 0x2C :: reading
  | returnMcu reading => cString "RETURN_MCU_" ++ reading

/-- The text of `lte_send_command`. -/
def lteSendCommand (cmdName param : List UInt8) : List UInt8 :=
  cString "BLE+" ++ cmdName ++ (if param = [] then [] else 0x3D :: param) ++ crlf

/-- What a handler returns, leaves in `resp_msg` and makes of the rest of the firmware, and the texts that are sent to the
LTE module besides the reply. -/
structure Handled (σ : Type) where
  ret : Int
  respMsg : List UInt8
  state : σ
  sent : List (List UInt8)

/-- The rest of a handler of `at_cmd_attr_table` other than a query: its `resp_msg`, the rest of the firmware and its calls
of `lte_send_command`. Each of these handlers returns `BLE_DATA_TYPE_PACKET_MULTIPLE`. -/
structure Response (σ : Type) where
  respMsg : List UInt8
  state : σ
  commands : List (List UInt8 × List UInt8)

/-- These handlers, the answer to a query unless it goes over Bluetooth or is lost, the heap and the result of
`lte_send_command`. -/
structure Env (σ : Type) where
  cmdFunc : String → List (List UInt8) → σ → Response σ
  answer : String → Option Answer
  malloc : Option (List UInt8)
  lteSend : Int

variable {σ : Type} (env : Env σ) (s : σ) (id : List UInt8)

/-- A command without parameters that the control thread answers. -/
def IsQuery (name : String) (parms : List (List UInt8)) : Prop :=
  name ∈ ["PATM", "TEMP", "STATUS"] ∧ parms.length = 1

instance (name parms) : Decidable (IsQuery name parms) := inferInstanceAs (Decidable (_ ∧ _))

def runLteCmd : Route → Handled σ
  | .rejected => ⟨0, [], s, []⟩
  | .unknown _ => ⟨0, cString "Set Fail! UnknownCmd", s, []⟩
  | .lteCommand parms =>
    let result := lteCmdHandler env.malloc env.lteSend parms
    ⟨result.ret, result.respMsg.getD [], s,
      if env.lteSend < 0 then [] else result.sent.toList.map (lteSendCommand (cString "CMD"))⟩
  | .atCommand name parms =>
    if IsQuery name parms then ⟨1, [], s, (env.answer name).toList.map (Answer.print id)⟩
    else
      let response := env.cmdFunc name parms s
      ⟨bleDataTypePacketMultiple, response.respMsg, response.state,
        response.commands.map fun call => lteSendCommand call.1 call.2⟩

/-- `cmd_type`, a `uint16_t`. -/
def Handled.cmdType (handled : Handled σ) : Int := handled.ret % 65536

def handle (command : List Char) : Handled σ :=
  let atCmdMsg := BleInput.AtCmd.received (bytes command)
  runLteCmd env s id (atRecvCmdHandler atCmdMsg.rcvMsg atCmdMsg.parm)

def firstParm (command : List Char) : List UInt8 :=
  let atCmdMsg := BleInput.AtCmd.received (bytes command)
  let (analysis, _) := atCmdStrAnalyse atCmdMsg.rcvMsg atCmdMsg.parm BleInput.parmMax atFormat
  shown analysis.strData (analysis.tarData.headD .null)

def failHead (id : List UInt8) : List UInt8 := cString "LTE+CMD=FAIL," ++ id ++ [0x2C]

def okHead (id : List UInt8) : List UInt8 := cString "LTE+CMD=OK," ++ id ++ [0x2C]

def lteCmdRespBufSize : Nat := 1024

def snprintf (output : List UInt8) : List UInt8 := output.take (lteCmdRespBufSize - 1)

def reply (id : List UInt8) (command : List Char) (handled : Handled σ) : List UInt8 :=
  if handled.cmdType = 0 then snprintf (failHead id ++ firstParm command ++ crlf)
  else if handled.cmdType = bleDataTypePacketMultiple then snprintf (okHead id ++ handled.respMsg ++ crlf)
  else []

/-- The messages to the LTE module, without an empty one; `none` if `strcpy` writes behind `rcv_msg`. -/
def myLteHandleCmd (data : List Char) : Option (List (List UInt8) × σ) :=
  match BleScan.myGetStrAtPos data 0 ',' 16 with
  | (false, id) => some ([cString "LTE+CMD=" ++ bytes id ++ cString ",Missing command parameter\r\n"], s)
  | (true, id) =>
    let command := data.drop (id.length + 1)
    if BleInput.cmdStringLengthMax ≤ command.length then none
    else
      let handled := handle env s (bytes id) command
      some ((reply (bytes id) command handled :: handled.sent).filter (· ≠ []), handled.state)

end LL320D.LteCmd
