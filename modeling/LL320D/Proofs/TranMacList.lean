import LL320D.Proofs.MacText

/-! The list of MAC addresses along sequences of `BT_PARMAC` commands: when a command does what its answer says, and ZMS
has the list in RAM. -/

namespace LL320D.TranMac
open List
open AtText (cString myStrcasecmp)
open Library (Along)

variable {addr : BtAddr} {addrs list : List BtAddr} {parms : List (List UInt8)} {hexBuf : List UInt8}

def newAddresses (list : List BtAddr) : List BtAddr → List BtAddr
  | [] => []
  | addr :: rest => if addr ∈ list then newAddresses list rest else addr :: newAddresses (list ++ [addr]) rest

structure BparmacConfig.Valid (c : BparmacConfig) : Prop where
  size : c.macs.length = tranMacMaxNum
  bound : c.count ≤ tranMacMaxNum
  nodup : c.list.Nodup

lemma newAddresses_eq_nil : newAddresses list addrs = [] ↔ ∀ addr ∈ addrs, addr ∈ list := by
  induction addrs with
  | nil => exact ⟨nofun, fun _ => rfl⟩
  | cons addr rest ih =>
    rw [newAddresses, forall_mem_cons]
    split
    next listed => exact ih.trans (and_iff_right listed).symm
    next new => exact ⟨nofun, fun all => absurd all.1 new⟩

namespace BparmacConfig

variable {c : BparmacConfig}

lemma myTranMacCheck_iff (c : BparmacConfig) (addr) : c.myTranMacCheck addr = true ↔ addr ∈ c.list := by
  unfold myTranMacCheck
  rw [any_eq_true]
  constructor
  · rintro ⟨other, member, same⟩
    exact of_decide_eq_true same ▸ member
  · intro member
    exact ⟨addr, member, decide_eq_true rfl⟩

lemma Valid.length_list (valid : c.Valid) : c.list.length = c.count := by
  unfold list
  rw [length_take, valid.size]
  exact Nat.min_eq_left valid.bound

lemma Valid.add (valid : c.Valid) (addr) (room : c.count < tranMacMaxNum) :
    (c.myTranMacAdd addr).2.Valid ∧ (c.myTranMacAdd addr).2.list = c.list ++ newAddresses c.list [addr] ∧
      (c.myTranMacAdd addr).2.count ≤ c.count + 1 := by
  unfold myTranMacAdd
  rw [if_neg (Nat.not_le.mpr room)]
  by_cases listed : c.myTranMacCheck addr = true
  · have member := (myTranMacCheck_iff c addr).mp listed
    have none : newAddresses c.list [addr] = [] := if_pos member
    rw [if_pos listed, none, append_nil]
    exact ⟨valid, rfl, Nat.le_succ _⟩
  · have new := mt (myTranMacCheck_iff c addr).mpr listed
    have one : newAddresses c.list [addr] = [addr] := if_neg new
    have grown : list ⟨c.macs.set c.count addr, c.count + 1⟩ = c.list ++ [addr] := by
      unfold list
      dsimp only
      rw [take_add_one, take_set_of_le (Nat.le_refl _), List.getElem?_set_self (valid.size ▸ room)]
      rfl
    rw [if_neg listed, one]
    refine ⟨⟨?_, room, ?_⟩, grown, Nat.le_refl _⟩
    · exact length_set.trans valid.size
    · rw [grown]
      exact nodup_append.mpr ⟨valid.nodup, nodup_singleton _, fun a member b last same =>
        new (mem_singleton.mp last ▸ same ▸ member)⟩

lemma newAddresses_cons (list rest) (addr : BtAddr) : newAddresses list (addr :: rest) =
      newAddresses list [addr] ++ newAddresses (list ++ newAddresses list [addr]) rest := by
  by_cases listed : addr ∈ list
  · have none : newAddresses list [addr] = [] := if_pos listed
    rw [none, nil_append, append_nil]
    exact if_pos listed
  · have one : newAddresses list [addr] = [addr] := if_neg listed
    rw [one]
    exact if_neg listed

lemma Valid.addAll (valid : c.Valid) (room : c.count + addrs.length ≤ tranMacMaxNum) :
    (addrs.foldl (fun c addr => (c.myTranMacAdd addr).2) c).Valid ∧
      (addrs.foldl (fun c addr => (c.myTranMacAdd addr).2) c).list = c.list ++ newAddresses c.list addrs := by
  induction addrs generalizing c with
  | nil => exact ⟨valid, (append_nil _).symm⟩
  | cons addr rest ih =>
    rw [length_cons] at room
    obtain ⟨added, list, count⟩ := valid.add addr (by omega)
    obtain ⟨all, joined⟩ := ih added (by omega)
    refine ⟨all, joined.trans ?_⟩
    rw [list, newAddresses_cons c.list rest, append_assoc]

lemma moveUp_eq (before rest behind : List BtAddr) (first : BtAddr) :
    ∃ last, moveUp (before ++ first :: (rest ++ behind)) before.length rest.length = before ++ rest ++ last :: behind := by
  induction rest generalizing before first with
  | nil => exact ⟨first, by rw [append_nil]; rfl⟩
  | cons next rest ih =>
    obtain ⟨last, moved⟩ := ih (before ++ [next]) next
    refine ⟨last, ?_⟩
    have read : (before ++ first :: (next :: rest ++ behind)).getD (before.length + 1) .zero = next := by
      rw [getD_eq_getElem?_getD, List.getElem?_append_right (Nat.le_add_right _ 1), Nat.add_sub_cancel_left]
      rfl
    have stored : (before ++ first :: (next :: rest ++ behind)).set before.length next =
        (before ++ [next]) ++ next :: (rest ++ behind) := by
      rw [set_append_right _ _ (Nat.le_refl _), Nat.sub_self, append_assoc]
      rfl
    rw [length_append, length_singleton] at moved
    rw [length_cons, moveUp, read, stored, moved, append_assoc before]
    rfl

lemma findIdx_absent (absent : addr ∉ list) : list.findIdx? (· = addr) = none := by
  rw [List.findIdx?_eq_none_iff]
  intro other member
  exact decide_eq_false fun same => absent (same ▸ member)

lemma Valid.del (valid : c.Valid) (listed : addr ∈ c.list) :
    (c.myTranMacDel addr).1 = true ∧ (c.myTranMacDel addr).2.Valid ∧ (c.myTranMacDel addr).2.list = c.list.erase addr := by
  obtain ⟨before, rest, absent, parts, erased⟩ := exists_erase_eq listed
  have count : before.length + (rest.length + 1) = c.count := by
    rw [← valid.length_list, parts, length_append, length_cons]
  have index : c.list.findIdx? (· = addr) = some before.length := by
    rw [parts, List.findIdx?_append, findIdx_absent absent, List.findIdx?_cons]
    simp
  have array : c.macs = before ++ addr :: (rest ++ c.macs.drop c.count) := by
    have whole := take_append_drop c.count c.macs
    change c.list ++ _ = _ at whole
    rw [parts, append_assoc] at whole
    exact whole.symm
  obtain ⟨last, moved⟩ := moveUp_eq before rest (c.macs.drop c.count) addr
  have steps : c.count - 1 - before.length = rest.length := by omega
  have result : c.myTranMacDel addr =
      (true, ⟨(before ++ rest ++ last :: c.macs.drop c.count).set (c.count - 1) .zero, c.count - 1⟩) := by
    unfold myTranMacDel
    rw [index]
    dsimp only
    rw [steps, ← moved, ← array]
  have place : (before ++ rest).length = c.count - 1 := by
    rw [length_append]
    omega
  have left : BparmacConfig.list ⟨(before ++ rest ++ last :: c.macs.drop c.count).set (c.count - 1) .zero, c.count - 1⟩ =
      before ++ rest := by
    unfold list
    dsimp only
    rw [take_set_of_le (Nat.le_refl _), take_left' place]
  rw [result]
  refine ⟨rfl, ⟨?_, ?_, ?_⟩, left.trans erased.symm⟩
  · have size := valid.size
    rw [array] at size
    simp only [length_set, length_append, length_cons] at size ⊢
    omega
  · exact Nat.le_trans (Nat.sub_le _ _) valid.bound
  · rw [left, ← erased]
    exact valid.nodup.erase addr

lemma del_absent (absent : addr ∉ c.list) : c.myTranMacDel addr = (false, c) := by
  unfold myTranMacDel
  rw [findIdx_absent absent]

end BparmacConfig

/-- The addresses in front of the first parameter that denotes none, and whether there is no such parameter. -/
def addresses : List (List UInt8) → Bool × List BtAddr
  | [] => (true, [])
  | parm :: rest =>
    match denoted parm with
    | none => (false, [])
    | some bytes => ((addresses rest).1, address bytes :: (addresses rest).2)

/-- What the conversion makes of a parameter, whatever the buffer holds. -/
lemma macstrToHex_plain {parm hexBuf : List UInt8} (size : hexBuf.length = 6) (plain : ¬ Misread parm) :
    (∃ bytes, denoted parm = some bytes ∧ macstrToHex parm hexBuf = (true, bytes) ∧ bytes.length = 6) ∨
      denoted parm = none ∧ (macstrToHex parm hexBuf).1 = false := by
  cases denotes : denoted parm with
  | some bytes =>
    have parsed := denoted_parsed denotes (Nat.le_of_eq size.symm)
    rw [drop_of_length_le (Nat.le_of_eq size), append_nil] at parsed
    exact .inl ⟨bytes, rfl, parsed, length_denoted denotes⟩
  | none =>
    refine .inr ⟨rfl, eq_false_of_ne_true fun accepted => ?_⟩
    have is := accepted_denoted plain accepted
    rw [denotes] at is
    cases is

lemma addLoop_eq (c : BparmacConfig) (size : hexBuf.length = 6)
    (plain : ∀ parm ∈ parms, ¬ Misread parm) : addLoop c hexBuf parms =
      ((addresses parms).1, (addresses parms).2.foldl (fun c addr => (c.myTranMacAdd addr).2) c) := by
  induction parms generalizing c hexBuf with
  | nil => rfl
  | cons parm rest ih =>
    obtain ⟨first, later⟩ := forall_mem_cons.mp plain
    unfold addLoop addresses
    rcases macstrToHex_plain size first with ⟨bytes, denotes, converted, six⟩ | ⟨none, refused⟩
    · rw [denotes, converted]
      exact ih _ six later
    · rw [none]
      cases converted : macstrToHex parm hexBuf with
      | mk valid hexBuf =>
        rw [converted] at refused
        cases refused
        rfl

lemma length_addresses_le (parms : List (List UInt8)) : (addresses parms).2.length ≤ parms.length := by
  induction parms with
  | nil => exact Nat.le_refl _
  | cons parm rest ih =>
    unfold addresses
    split
    · exact Nat.zero_le _
    · exact Nat.succ_le_succ ih

lemma addresses_whole : (addresses parms).1 = true ↔ ∀ parm ∈ parms, (denoted parm).isSome := by
  induction parms with
  | nil => exact iff_of_true rfl nofun
  | cons parm rest ih =>
    rw [addresses, forall_mem_cons]
    cases denoted parm with
    | none => exact iff_of_false nofun nofun
    | some bytes => exact ih.trans (and_iff_right rfl).symm

lemma addLoop_whole (c : BparmacConfig) (size : hexBuf.length = 6)
    (accepted : ∀ parm ∈ parms, (denoted parm).isSome ∨ Misread parm) : (addLoop c hexBuf parms).1 = true := by
  induction parms generalizing c hexBuf with
  | nil => rfl
  | cons parm rest ih =>
    obtain ⟨first, later⟩ := forall_mem_cons.mp accepted
    have taken : (macstrToHex parm hexBuf).1 = true := by
      rcases first with denotes | misread
      · obtain ⟨bytes, is⟩ := Option.isSome_iff_exists.mp denotes
        rw [denoted_parsed is (Nat.le_of_eq size.symm)]
      · exact misread.accepted hexBuf
    have six := (length_macstrToHex parm hexBuf).trans size
    rw [addLoop]
    generalize macstrToHex parm hexBuf = converted at taken six
    obtain ⟨valid, hexBuf⟩ := converted
    cases taken
    exact ih _ six later

/-- No parameter is one of the texts that are accepted without being an address. -/
def Command.Plain (command : Command) : Prop := ∀ parm ∈ command.parms.tail, ¬ Misread parm

instance (command : Command) : Decidable command.Plain := inferInstanceAs (Decidable (∀ _ ∈ _, _))

namespace Store

structure Inv (s : Store) : Prop where
  ram : s.ram.Valid
  stored : s.zms.list = s.ram.list

def answer (s : Store) (command : Command) : Answer := (s.btParmacCmdHandler command).1

structure Does (s : Store) (command : Command) : Prop where
  inv : (s.step command).Inv
  failed : (s.answer command).SetFail → (s.step command).ram.list = s.ram.list ∧ (s.step command).zms.list = s.zms.list
  added : ∀ verb parms, command.parms = verb :: parms → myStrcasecmp verb (cString "ADD") → s.answer command = .setOk →
    (addresses parms).1 = true ∧
      (s.step command).ram.list = s.ram.list ++ newAddresses s.ram.list (addresses parms).2
  deleted : ∀ verb parm, command.parms = [verb, parm] → myStrcasecmp verb (cString "DEL") →
    ¬ myStrcasecmp parm (cString "ALL") → s.answer command = .setOk →
    ∃ addr ∈ s.ram.list, addresses [parm] = (true, [addr]) ∧
      (s.step command).ram.list = s.ram.list.erase addr
  cleared : ∀ verb parm, command.parms = [verb, parm] → myStrcasecmp verb (cString "DEL") →
    myStrcasecmp parm (cString "ALL") → s.answer command = .setOk → (s.step command).ram.list = []

/-- `ADD` with an invalid address: the addresses in front of it are all in the list. -/
def AddsWhole (s : Store) (parms : List (List UInt8)) : Prop :=
  1 ≤ parms.length ∧ parms.length ≤ 6 ∧ s.ram.count + parms.length ≤ tranMacMaxNum →
    (addresses parms).1 = false → ∀ addr ∈ (addresses parms).2, addr ∈ s.ram.list

/-- `DEL` with an address that is not in the list, or with `ALL`. -/
def DeletesNone (s : Store) (parms : List (List UInt8)) : Prop :=
  ∀ parm ∈ parms, parms.length = 1 → ¬ myStrcasecmp parm (cString "ALL") →
    ∀ addr ∈ (addresses [parm]).2, addr ∉ s.ram.list

def Harmless (s : Store) (command : Command) : Prop :=
  match command.parms with
  | [] => True
  | verb :: parms =>
    (myStrcasecmp verb (cString "ADD") → s.AddsWhole parms) ∧
      (myStrcasecmp verb (cString "DEL") → s.DeletesNone parms)

variable {s : Store} {command : Command} {verb : List UInt8} {parms : List (List UInt8)}

lemma verb_unique {first second : List UInt8} (other : first.map AtText.toLower ≠ second.map AtText.toLower)
    (isFirst : myStrcasecmp verb first = true) : ¬ myStrcasecmp verb second = true := by
  intro isSecond
  unfold myStrcasecmp at isFirst isSecond
  rw [Bool.and_eq_true] at isFirst isSecond
  exact other ((eq_of_beq isFirst.2).symm.trans (eq_of_beq isSecond.2))

lemma does_of_failed (inv : (s.step command).Inv) (ram : (s.step command).ram.list = s.ram.list)
    (zms : (s.step command).zms.list = s.zms.list) (failed : s.answer command ≠ .setOk) : s.Does command :=
  ⟨inv, fun _ => ⟨ram, zms⟩, fun _ _ _ _ ok => absurd ok failed, fun _ _ _ _ _ ok => absurd ok failed,
    fun _ _ _ _ _ ok => absurd ok failed⟩

lemma Inv.does_unchanged (inv : s.Inv) {answer : Answer} (same : s.btParmacCmdHandler command = (answer, s))
    (failed : answer ≠ .setOk) : s.Does command := by
  have step : s.step command = s := congrArg Prod.snd same
  have result : s.answer command = answer := congrArg Prod.fst same
  refine does_of_failed ?_ ?_ ?_ ?_
  · rw [step]
    exact inv
  · rw [step]
  · rw [step]
  · rw [result]
    exact failed

lemma not_setFail (ok : s.answer command = .setOk) : ¬ (s.answer command).SetFail := by
  rw [ok]
  rintro (fails | fails) <;> cases fails

section

variable (parts : command.parms = verb :: parms) (isAdd : myStrcasecmp verb (cString "ADD") = true)
include parts isAdd

lemma handled_add : s.btParmacCmdHandler command = s.add command.hexBuf parms := by
  unfold btParmacCmdHandler
  rw [parts]
  exact if_pos isAdd

lemma does_added {ram : BparmacConfig} (handled : s.btParmacCmdHandler command = (.setOk, ⟨ram, ram⟩)) (valid : ram.Valid)
    (list : ram.list = s.ram.list ++ newAddresses s.ram.list (addresses parms).2) (whole : (addresses parms).1 = true) :
    s.Does command := by
  have step : s.step command = ⟨ram, ram⟩ := congrArg Prod.snd handled
  have notDel {other parm : List UInt8} (parts' : command.parms = [other, parm]) :
      ¬ myStrcasecmp other (cString "DEL") = true := by
    rw [parts] at parts'
    cases parts'
    exact verb_unique (by decide) isAdd
  refine ⟨?_, fun fails => absurd fails (not_setFail (congrArg Prod.fst handled)), ?_, ?_, ?_⟩
  · rw [step]
    exact ⟨valid, rfl⟩
  · intro other parms' parts' _ _
    rw [parts] at parts'
    cases parts'
    rw [step]
    exact ⟨whole, list⟩
  all_goals exact fun _ _ parts' isDel => absurd isDel (notDel parts')

lemma does_add_iff (inv : s.Inv) (plain : command.Plain) : s.Does command ↔ s.AddsWhole parms := by
  have handled : s.btParmacCmdHandler command = _ := handled_add parts isAdd
  unfold add at handled
  by_cases number : parms.length < 1 ∨ 6 < parms.length
  · rw [if_pos number] at handled
    exact iff_of_true (inv.does_unchanged handled nofun) fun fits => absurd fits (by omega)
  rw [if_neg number] at handled
  by_cases full : tranMacMaxNum < s.ram.count + parms.length
  · rw [if_pos full] at handled
    exact iff_of_true (inv.does_unchanged handled nofun) fun fits => absurd fits (by omega)
  rw [Command.Plain, parts, tail_cons] at plain
  rw [if_neg full, addLoop_eq s.ram command.size plain] at handled
  have room : s.ram.count + (addresses parms).2.length ≤ tranMacMaxNum := by
    have shorter := length_addresses_le parms
    omega
  obtain ⟨valid, list⟩ := inv.ram.addAll room
  generalize (addresses parms).2.foldl (fun c addr => (c.myTranMacAdd addr).2) s.ram = ram at handled valid list
  cases whole : (addresses parms).1 with
  | true =>
    rw [whole] at handled
    refine iff_of_true (does_added parts isAdd handled valid list whole) ?_
    exact fun _ stops => absurd (whole.symm.trans stops) nofun
  | false =>
    rw [whole] at handled
    have step : s.step command = { s with ram } := congrArg Prod.snd handled
    have result : s.answer command = .invalidParam := congrArg Prod.fst handled
    constructor
    · intro does _ _
      have same := (does.failed (.inl result)).1
      rw [step] at same
      exact newAddresses_eq_nil.mp (append_right_eq_self.mp (list.symm.trans same))
    · intro adds
      have none := newAddresses_eq_nil.mpr (adds (by omega) whole)
      rw [none, append_nil] at list
      refine does_of_failed ?_ ?_ ?_ ?_
      · rw [step]
        exact ⟨valid, inv.stored.trans list.symm⟩
      · rw [step]
        exact list
      · rw [step]
      · rw [result]
        nofun

end

lemma does_del_all {parm : List UInt8} (parts : command.parms = [verb, parm])
    (isDel : myStrcasecmp verb (cString "DEL") = true) (isAll : myStrcasecmp parm (cString "ALL") = true) :
    s.Does command := by
  have notAdd : ¬ myStrcasecmp verb (cString "ADD") = true := verb_unique (by decide) isDel
  have handled : s.btParmacCmdHandler command = (.setOk, ⟨.default, .default⟩) := by
    unfold btParmacCmdHandler
    rw [parts]
    exact (if_neg notAdd).trans ((if_pos isDel).trans (if_pos isAll))
  have step : s.step command = ⟨.default, .default⟩ := congrArg Prod.snd handled
  have result : s.answer command = .setOk := congrArg Prod.fst handled
  refine ⟨?_, fun fails => absurd fails (not_setFail result), ?_, ?_, ?_⟩
  · rw [step]
    exact ⟨⟨by decide, by decide, nodup_nil⟩, rfl⟩
  · intro other parms' parts' isAdd
    rw [parts] at parts'
    cases parts'
    exact absurd isAdd notAdd
  · intro other parm' parts' _ notAll
    rw [parts] at parts'
    cases parts'
    exact absurd isAll notAll
  · intro _ _ _ _ _ _
    rw [step]
    rfl

lemma not_does_del (inv : s.Inv) (listed : addr ∈ s.ram.list)
    (step : s.step command = { s with ram := (s.ram.myTranMacDel addr).2 }) : ¬ s.Does command := by
  intro does
  -- RAM has lost an address that ZMS still has.
  have stored := does.inv.stored
  rw [step] at stored
  have same := congrArg List.length (inv.stored.symm.trans (stored.trans (inv.ram.del listed).2.2))
  rw [length_erase_of_mem listed] at same
  have positive := length_pos_of_mem listed
  omega

lemma does_del_iff (inv : s.Inv) (plain : command.Plain) (parts : command.parms = verb :: parms)
    (isDel : myStrcasecmp verb (cString "DEL") = true) : s.Does command ↔ s.DeletesNone parms := by
  have notAdd : ¬ myStrcasecmp verb (cString "ADD") = true := verb_unique (by decide) isDel
  have handled : s.btParmacCmdHandler command = s.del command.hexBuf parms := by
    unfold btParmacCmdHandler
    rw [parts]
    exact (if_neg notAdd).trans (if_pos isDel)
  rcases parms with _ | ⟨parm, _ | ⟨second, rest⟩⟩
  · exact iff_of_true (inv.does_unchanged handled nofun) nofun
  · by_cases isAll : myStrcasecmp parm (cString "ALL") = true
    · refine iff_of_true (does_del_all parts isDel isAll) ?_
      intro other member _ notAll
      cases mem_singleton.mp member
      exact absurd isAll notAll
    have only : s.DeletesNone [parm] ↔ ∀ addr ∈ (addresses [parm]).2, addr ∉ s.ram.list := by
      constructor
      · exact fun none => none parm (mem_singleton_self _) rfl isAll
      · intro none other member _ _
        cases mem_singleton.mp member
        exact none
    rw [only]
    unfold del at handled
    dsimp only at handled
    rw [if_neg isAll] at handled
    rw [Command.Plain, parts, tail_cons, forall_mem_singleton] at plain
    rcases macstrToHex_plain command.size plain with ⟨bytes, denotes, converted, -⟩ | ⟨none, refused⟩
    · rw [converted] at handled
      rw [addresses, denotes]
      dsimp only at handled ⊢
      by_cases listed : address bytes ∈ s.ram.list
      · refine iff_of_false (not_does_del inv listed ?_) fun none => none _ mem_cons_self listed
        have found := (inv.ram.del listed).1
        refine (congrArg Prod.snd handled).trans ?_
        generalize s.ram.myTranMacDel (address bytes) = deleted at found
        obtain ⟨ok, ram⟩ := deleted
        cases found
        rfl
      · rw [BparmacConfig.del_absent listed] at handled
        refine iff_of_true (inv.does_unchanged handled nofun) ?_
        intro addr member
        cases mem_singleton.mp member
        exact listed
    · cases converted : macstrToHex parm command.hexBuf with
      | mk valid hexBuf =>
        rw [converted] at handled refused
        cases refused
        rw [addresses, none]
        exact iff_of_true (inv.does_unchanged handled nofun) nofun
  · refine iff_of_true (inv.does_unchanged handled nofun) ?_
    intro other _ one
    cases one

lemma does_iff_harmless (inv : s.Inv) (plain : command.Plain) : s.Does command ↔ s.Harmless command := by
  unfold Harmless
  cases parts : command.parms with
  | nil =>
    have handled : s.btParmacCmdHandler command = (.invalidParam, s) := by
      unfold btParmacCmdHandler
      rw [parts]
    exact iff_of_true (inv.does_unchanged handled nofun) trivial
  | cons verb parms =>
    by_cases isAdd : myStrcasecmp verb (cString "ADD") = true
    · have notDel : ¬ myStrcasecmp verb (cString "DEL") = true := verb_unique (by decide) isAdd
      rw [does_add_iff parts isAdd inv plain]
      exact ⟨fun adds => ⟨fun _ => adds, fun isDel => absurd isDel notDel⟩, fun both => both.1 isAdd⟩
    · by_cases isDel : myStrcasecmp verb (cString "DEL") = true
      · rw [does_del_iff inv plain parts isDel]
        exact ⟨fun none => ⟨fun isAdd' => absurd isAdd' isAdd, fun _ => none⟩, fun both => both.2 isDel⟩
      · refine iff_of_true ?_ ⟨fun isAdd' => absurd isAdd' isAdd, fun isDel' => absurd isDel' isDel⟩
        obtain ⟨answer, handled, failed⟩ : ∃ answer, s.btParmacCmdHandler command = (answer, s) ∧ answer ≠ .setOk := by
          unfold btParmacCmdHandler
          rw [parts]
          dsimp only
          rw [if_neg isAdd, if_neg isDel]
          by_cases isCheck : myStrcasecmp verb (cString "CHECK") = true
          · rw [if_pos isCheck]
            unfold check
            cases parms with
            | nil =>
              refine ⟨_, rfl, ?_⟩
              split <;> nofun
            | cons parm rest => exact ⟨_, rfl, nofun⟩
          · rw [if_neg isCheck]
            exact ⟨_, rfl, nofun⟩
        exact inv.does_unchanged handled failed

/-- An `ADD` with room, of which every parameter is accepted and one is no address. -/
def AddsForeign (s : Store) (command : Command) : Prop :=
  ∃ verb parms, command.parms = verb :: parms ∧ myStrcasecmp verb (cString "ADD") ∧ parms.length ≤ 6 ∧
    s.ram.count + parms.length ≤ tranMacMaxNum ∧ (∀ parm ∈ parms, (denoted parm).isSome ∨ Misread parm) ∧
    ∃ parm ∈ parms, Misread parm

lemma AddsForeign.not_does (foreign : s.AddsForeign command) : ¬ s.Does command := by
  obtain ⟨verb, parms, parts, isAdd, few, room, accepted, parm, given, misread⟩ := foreign
  intro does
  have some := length_pos_of_mem given
  have handled : s.btParmacCmdHandler command = _ := handled_add parts isAdd
  rw [add, if_neg (by omega), if_neg (by omega)] at handled
  have whole := addLoop_whole s.ram command.size accepted
  generalize addLoop s.ram command.hexBuf parms = loop at handled whole
  obtain ⟨ended, ram⟩ := loop
  cases whole
  have ok : s.answer command = .setOk := congrArg Prod.fst handled
  have all := (does.added verb parms parts isAdd ok).1
  rw [addresses_whole] at all
  have is := all parm given
  rw [misread.not_denoted] at is
  cases is

/-- Commands whose parameters are addresses or refused do what they say exactly if no `DEL` finds its address and no `ADD`
fails behind a new one. An `ADD` of a text that is accepted without being an address never does. -/
theorem bt_parmac_list_iff (start : Store) (inv : start.Inv) (commands : List Command) :
    (Along step (fun s command => command.Plain ∧ s.Does command) start commands ↔
      Along step (fun s command => command.Plain ∧ s.Harmless command) start commands) ∧
      ∀ s command, AddsForeign s command → ¬ s.Does command := by
  refine ⟨?_, fun s command foreign => foreign.not_does⟩
  have same (s : Store) (command : Command) (inv : s.Inv) : command.Plain ∧ s.Does command ↔ command.Plain ∧ s.Harmless command :=
    and_congr_right fun plain => does_iff_harmless inv plain
  exact Library.along_iff_along Inv (fun s command inv harmless => ((same s command inv).mpr harmless).2.inv) same inv

def empty : Store := ⟨.default, .default⟩

lemma empty_inv : empty.Inv := ⟨⟨by decide, by decide, nodup_nil⟩, rfl⟩

/-- The words of a `BT_PARMAC` command behind its name. -/
def commandOf (words : List String) : Command := ⟨words.map cString, List.replicate 6 0, rfl⟩

theorem add_and_delete_all_does :
    Along step (fun s command => command.Plain ∧ s.Does command) empty
      [commandOf ["ADD", "112233445566", "112233445566", "AA:BB:CC:DD:EE:FF"],
        commandOf ["DEL", "112233445567"], commandOf ["DEL", "ALL"]] := by
  refine (bt_parmac_list_iff empty empty_inv _).1.mpr
    ⟨⟨by decide +kernel, ?_⟩, ⟨by decide +kernel, ?_⟩, ⟨by decide +kernel, ?_⟩, trivial⟩
  · refine ⟨fun _ _ stops => absurd stops (by decide +kernel), fun isDel => absurd isDel (by decide +kernel)⟩
  all_goals
    refine ⟨fun isAdd => absurd isAdd (by decide +kernel), fun _ => ?_⟩
    unfold DeletesNone
    decide +kernel

theorem deleted_address_stays_stored :
    let added := empty.step (commandOf ["ADD", "112233445566"])
    let deleted := added.step (commandOf ["DEL", "112233445566"])
    added.answer (commandOf ["DEL", "112233445566"]) = .setOk ∧ deleted.ram.list = [] ∧ deleted.zms.list ≠ [] ∧
      ¬ Along step Does empty [commandOf ["ADD", "112233445566"], commandOf ["DEL", "112233445566"]] := by
  refine ⟨by decide +kernel, by decide +kernel, by decide +kernel, ?_⟩
  intro along
  exact absurd along.2.1.inv.stored (by decide +kernel)

end Store

end LL320D.TranMac
