import LL320D.BleInput

/-! The list of MAC addresses whose advertisements are passed on, an array and a counter in `gConfigParam`, and the
`BT_PARMAC` command that manages it; with the hexadecimal texts of `my_tool.c`. -/

namespace LL320D.TranMac
open AtText (cString myStrcasecmp)

def tranMacMaxNum : Nat := 20

structure BtAddr where
  type : UInt8
  val : List UInt8
  deriving DecidableEq

def BtAddr.zero : BtAddr := ⟨0, List.replicate 6 0⟩

structure BparmacConfig where
  macs : List BtAddr
  count : Nat
  deriving DecidableEq

namespace BparmacConfig

def list (c : BparmacConfig) : List BtAddr := c.macs.take c.count

def default : BparmacConfig := ⟨List.replicate tranMacMaxNum .zero, 0⟩

def myTranMacCheck (c : BparmacConfig) (addr : BtAddr) : Bool := c.list.any (· = addr)

inductive AddResult where
  | ok
  | noMem
  | exist
  deriving DecidableEq

def myTranMacAdd (c : BparmacConfig) (addr : BtAddr) : AddResult × BparmacConfig :=
  if tranMacMaxNum ≤ c.count then (.noMem, c)
  else if c.myTranMacCheck addr then (.exist, c)
  else (.ok, ⟨c.macs.set c.count addr, c.count + 1⟩)

/-- The elements behind `j` move to the front, one by one. -/
def moveUp (macs : List BtAddr) (j : Nat) : Nat → List BtAddr
  | 0 => macs
  | n + 1 => moveUp (macs.set j (macs.getD (j + 1) .zero)) (j + 1) n

def myTranMacDel (c : BparmacConfig) (addr : BtAddr) : Bool × BparmacConfig :=
  match c.list.findIdx? (· = addr) with
  | some i => (true, ⟨(moveUp c.macs i (c.count - 1 - i)).set (c.count - 1) .zero, c.count - 1⟩)
  | none => (false, c)

def myTranMacDelAll (_ : BparmacConfig) : BparmacConfig := default

end BparmacConfig

def hexChar2HexData (c : UInt8) : UInt8 :=
  if 0x30 ≤ c ∧ c ≤ 0x39 then c - 0x30
  else if 0x41 ≤ c ∧ c ≤ 0x46 then c - 0x41 + 0x0A
  else if 0x61 ≤ c ∧ c ≤ 0x66 then c - 0x61 + 0x0A
  else 0xFF

def colon : UInt8 := 0x3A

/-- The loop of `macstr_to_hex` from an offset on, with the bytes it has stored. A digit without a second one meets the
`\0` of the copy and is refused. -/
def macstrLoop (offset count : Nat) (hex : List UInt8) : List UInt8 → Bool × List UInt8
  | [] => (true, hex)
  | [c] => (c = colon ∧ offset ∈ [2, 5, 8, 11, 14], hex)
  | c :: d :: rest =>
    if c = colon then if offset ∈ [2, 5, 8, 11, 14] then macstrLoop (offset + 1) count hex (d :: rest) else (false, hex)
    else if hexChar2HexData c = 0xFF ∨ hexChar2HexData d = 0xFF then (false, hex)
    else if 6 < count + 1 then (false, hex)
    else
      macstrLoop (offset + 2) (count + 1)
        (hex.set count (((hexChar2HexData c <<< 4) &&& 0xF0) + (hexChar2HexData d &&& 0x0F))) rest

/-- `macstr_to_hex`: the bytes that a short address does not set stay in `hex`. The length, a `uint16_t`, is that of a
string below 65536 characters. -/
def macstrToHex (macStr hex : List UInt8) : Bool × List UInt8 :=
  if macStr.length = 12 ∨ macStr.length = 17 then macstrLoop 0 0 hex macStr else (false, hex)

/-- The offsets of the copy that the loop reads. -/
def loopReads (offset count : Nat) : List UInt8 → List Nat
  | [] => []
  | [c] => if c = colon then [offset] else [offset, offset + 1]
  | c :: d :: rest =>
    if c = colon then
      offset :: if offset ∈ [2, 5, 8, 11, 14] then loopReads (offset + 1) count (d :: rest) else []
    else
      [offset, offset + 1] ++
        if hexChar2HexData c = 0xFF ∨ hexChar2HexData d = 0xFF ∨ 6 < count + 1 then []
        else loopReads (offset + 2) (count + 1) rest

/-- The offsets that `macstr_to_hex` reads, in the string up to its `\0` and in the copy of it. -/
def macstrReads (macStr : List UInt8) : List Nat :=
  List.range (macStr.length + 1) ++ if macStr.length = 12 ∨ macStr.length = 17 then loopReads 0 0 macStr else []

def hex2ascii (digit : UInt8) : UInt8 := if digit ≤ 9 then digit + 0x30 else digit - 0xA + 0x41

def hexChars (byte : UInt8) : List UInt8 := [hex2ascii ((byte >>> 4) &&& 0x0F), hex2ascii (byte &&& 0x0F)]

/-- What `hex2hexstr` writes from the start of the buffer on. -/
def hex2hexstr (hex : List UInt8) (strLen : Nat) : Option (List UInt8) :=
  if strLen < 2 * hex.length then none else some (hex.flatMap hexChars ++ [0])

def hexCount (offset : UInt8) : UInt8 := offset / 2 + offset % 2

/-- The loop of `hexstr_to_hex`, with the bytes that `dest` has got; `byte_count` is their number, which is below 256. -/
def hexstrLoop (destSize : UInt8) : List UInt8 → UInt8 → UInt8 → List UInt8 → UInt8 × List UInt8
  | [], offset, _, dest => (hexCount offset, dest)
  | c :: src, offset, hexData, dest =>
    if c = 0 then (hexCount offset, dest)
    else if hexChar2HexData c = 0xFF then (0, dest)
    else if offset % 2 = 0 then hexstrLoop destSize src (offset + 1) ((hexChar2HexData c <<< 4) &&& 0xF0) dest
    else
      let hexData := hexData ||| (hexChar2HexData c &&& 0x0F)
      if destSize.toNat ≤ dest.length + 1 then (hexCount offset, dest ++ [hexData])
      else hexstrLoop destSize src (offset + 1) hexData (dest ++ [hexData])

def hexstrToHex (destSize : UInt8) (src : List UInt8) : UInt8 × List UInt8 :=
  if destSize = 0 then (0, []) else hexstrLoop destSize src 0 0 []

def address (hexBuf : List UInt8) : BtAddr := ⟨0, hexBuf.reverse⟩

structure Store where
  ram : BparmacConfig
  zms : BparmacConfig
  deriving DecidableEq

inductive Answer where
  | setOk
  | invalidParam
  | unauthorized
  | macs (list : List BtAddr)
  deriving DecidableEq

def hexText (byte : UInt8) : String :=
  let digit (n : Nat) : Char := Char.ofNat (if n < 10 then 0x30 + n else 0x41 + (n - 10))
  String.ofList [digit (byte.toNat / 16), digit (byte.toNat % 16)]

def Answer.text : Answer → String
  | .setOk => "Set OK!"
  | .invalidParam => "Set Fail! InvalidParam"
  | .unauthorized => "Set Fail! Unauthorized."
  | .macs list => ";".intercalate (list.map fun addr => String.join (addr.val.reverse.map hexText))

/-- The answer begins with `Set Fail`. -/
def Answer.SetFail (answer : Answer) : Prop := answer = .invalidParam ∨ answer = .unauthorized

instance (answer : Answer) : Decidable answer.SetFail := inferInstanceAs (Decidable (_ ∨ _))

/-- A `BT_PARMAC` command: `parm[1]` to `parm[parm_count]`, and what the stack has where `hex_buf` is. -/
structure Command where
  parms : List (List UInt8)
  hexBuf : List UInt8
  size : hexBuf.length = 6
  deriving DecidableEq

/-- The loop of `BT_PARMAC,ADD`, and whether it came to its end. The buffer keeps the bytes of the address before. -/
def addLoop (c : BparmacConfig) (hexBuf : List UInt8) : List (List UInt8) → Bool × BparmacConfig
  | [] => (true, c)
  | parm :: rest =>
    match macstrToHex parm hexBuf with
    | (false, _) => (false, c)
    | (true, hexBuf) => addLoop (c.myTranMacAdd (address hexBuf)).2 hexBuf rest

namespace Store

def write (s : Store) : Store := { s with zms := s.ram }

def add (s : Store) (hexBuf : List UInt8) (parms : List (List UInt8)) : Answer × Store :=
  if parms.length < 1 ∨ 6 < parms.length then (.invalidParam, s)
  else if tranMacMaxNum < s.ram.count + parms.length then (.invalidParam, s)
  else
    match addLoop s.ram hexBuf parms with
    | (false, ram) => (.invalidParam, { s with ram })
    | (true, ram) => (.setOk, { s with ram }.write)

/-- The code behind the two returns of the last branch, which would write the list, is never reached. -/
def del (s : Store) (hexBuf : List UInt8) : List (List UInt8) → Answer × Store
  | [parm] =>
    if myStrcasecmp parm (cString "ALL") then (.setOk, { s with ram := s.ram.myTranMacDelAll }.write)
    else
      match macstrToHex parm hexBuf with
      | (false, _) => (.invalidParam, s)
      | (true, hexBuf) =>
        match s.ram.myTranMacDel (address hexBuf) with
        | (true, ram) => (.setOk, { s with ram })
        | (false, _) => (.invalidParam, s)
  | _ => (.invalidParam, s)

def check (s : Store) : List (List UInt8) → Answer × Store
  | [] => (if s.ram.count = 0 then .unauthorized else .macs s.ram.list, s)
  | _ => (.invalidParam, s)

def btParmacCmdHandler (s : Store) (command : Command) : Answer × Store :=
  match command.parms with
  | [] => (.invalidParam, s)
  | verb :: parms =>
    if myStrcasecmp verb (cString "ADD") then s.add command.hexBuf parms
    else if myStrcasecmp verb (cString "DEL") then s.del command.hexBuf parms
    else if myStrcasecmp verb (cString "CHECK") then s.check parms
    else (.invalidParam, s)

def step (s : Store) (command : Command) : Store := (s.btParmacCmdHandler command).2

end Store

end LL320D.TranMac
