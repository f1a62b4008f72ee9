import LL320D.ScanRecv

/-! An entry whose message is lost is found with the next advertisement, unless the queue is full; and the scan state
agrees with the controller as long as no stop fails where the state is reset. -/

namespace LL320D.ScanQueue
open BleScan Library List Callback

def Adv.Carries (adv : Adv) : ScanKind → Prop
  | .tag => adv.tag.isSome = true
  | .mac => adv.mac.isSome = true

def Callback.sending : Callback → ScanKind → Bool
  | .tagQueued _, .tag => true
  | .macQueued, .mac => true
  | _, _ => false

def Callback.mac : Callback → Option TranMacProcessMsg
  | .tagQueued mac => mac
  | .listed mac => some mac
  | _ => none

def Callback.left : Callback → Nat
  | .idle => 0
  | .tagQueued _ => 2
  | .listed _ => 1
  | .macQueued => 1

namespace System

def length (s : System) : ScanKind → Nat
  | .tag => s.tagq.length
  | .mac => s.macq.length

def hasRoom (s : System) : Prop := s.msgq.length < bleMsgqSize

def Noticed (s : System) (kind : ScanKind) : Prop := .process kind ∈ s.msgq ∨ s.task = .draining kind

/-- With room in the queue of the BLE thread, the call in progress or the next advertisement of a kind queues the
message for it. -/
def Prompts (s : System) (kind : ScanKind) : Prop :=
  ∀ adv : Adv, adv.Carries kind → .process kind ∈ (({ s with msgq := [] } : System).settle.scanRecvCb adv).msgq

def Live (s : System) (kind : ScanKind) : Prop := s.length kind = 0 ∨ s.Noticed kind ∨ s.Prompts kind

def Admits (s : System) : Event → Prop
  | .recv adv => s.callback = .idle → ∀ mac, adv.mac = some mac →
      ((s.scanRecvCb adv).macq = s.macq ++ [mac] ↔ s.macq.length < processMsgqSize)
  | _ => True

structure Works (s : System) (event : Event) : Prop where
  live : ∀ kind, (s.step event).Live kind
  admits : s.Admits event

/-- A message is lost only while its queue has room for the next advertisement or another message does for it; and the
last places are not taken from listed devices that are unnoticed. -/
def Notifies (s : System) : Event → Prop
  | .recv adv => s.callback = .idle →
      (adv.tag.isSome = true → adv.mac.isSome = true →
        s.tagq.length < processMsgqSize ∨ processMsgqSize ≤ s.macq.length) ∧
      (adv.tag.isSome = true → adv.mac = none → s.tagq.length + 1 = processMsgqSize →
        s.macq.length = 0 ∨ s.Noticed .mac)
  | .notifyTag => s.callback.sending .tag = true → s.tagq.length < processMsgqSize ∨ s.hasRoom ∨ s.Noticed .tag
  | .notifyMac => s.callback.sending .mac = true →
      s.macq.length = 0 ∨ (s.macq.length < processMsgqSize ∧ s.tagq.length < processMsgqSize) ∨ s.hasRoom ∨ s.Noticed .mac
  | _ => True

variable {s : System}

section

variable (s : System) (msg : Msg)

@[simp] lemma tagq_mySendMsg : (s.mySendMsg msg).tagq = s.tagq := by simp only [mySendMsg]; split <;> rfl

@[simp] lemma macq_mySendMsg : (s.mySendMsg msg).macq = s.macq := by simp only [mySendMsg]; split <;> rfl

@[simp] lemma callback_mySendMsg : (s.mySendMsg msg).callback = s.callback := by simp only [mySendMsg]; split <;> rfl

@[simp] lemma task_mySendMsg : (s.mySendMsg msg).task = s.task := by simp only [mySendMsg]; split <;> rfl

lemma mem_mySendMsg (member : Msg) :
    member ∈ (s.mySendMsg msg).msgq ↔ member ∈ s.msgq ∨ (member = msg ∧ s.hasRoom) := by
  simp only [mySendMsg, hasRoom]
  split
  next room => simp [room]
  next full => simp [full]

lemma length_mySendMsg : (s.mySendMsg msg).msgq.length ≤ s.msgq.length + 1 := by
  simp only [mySendMsg]
  split
  next => exact Nat.le_of_eq length_append
  next => exact Nat.le_succ _

end

lemma settle_idle (idle : s.callback = .idle) : s.settle = s := by
  simp only [settle, foldl_cons, foldl_nil, step, idle]

lemma settle_macQueued (stands : s.callback = .macQueued) :
    s.settle = { s.mySendMsg (.process .mac) with callback := .idle } := by
  simp only [settle, foldl_cons, foldl_nil, step, stands]

lemma settle_listed {mac} (stands : s.callback = .listed mac) : s.settle = if s.macq.length < processMsgqSize then
        settle { s with macq := s.macq ++ [mac], callback := .macQueued }
      else { s with callback := .idle } := by
  by_cases room : s.macq.length < processMsgqSize
  · simp only [settle, foldl_cons, foldl_nil, step, stands, if_pos room]
  · simp only [settle, foldl_cons, foldl_nil, step, stands, if_neg room]

lemma settle_tagQueued {mac} (stands : s.callback = .tagQueued mac) :
    s.settle = settle { s.mySendMsg (.process .tag) with callback := behindTag mac } := by
  have first : s.step .notifyTag = { s.mySendMsg (.process .tag) with callback := behindTag mac } := by
    simp only [step, stands]
  have again : (s.step .notifyTag).step .notifyTag = s.step .notifyTag := by
    rw [first]
    cases mac <;> rfl
  rw [← first]
  simp only [settle, foldl_cons, foldl_nil, again]

structure Settled (s after : System) : Prop where
  callback : after.callback = .idle
  tagq : after.tagq = s.tagq
  macq : after.macq = if s.macq.length < processMsgqSize then s.macq ++ s.callback.mac.toList else s.macq
  length : after.msgq.length ≤ s.msgq.length + s.callback.left
  queued : s.msgq.length + s.callback.left ≤ bleMsgqSize → ∀ kind, .process kind ∈ after.msgq ↔
    .process kind ∈ s.msgq ∨ s.callback.sending kind = true ∨
      (kind = .mac ∧ s.callback.mac.isSome = true ∧ s.macq.length < processMsgqSize)

lemma settled_idle (stands : s.callback = .idle) : s.Settled s.settle := by
  rw [settle_idle stands]
  refine ⟨stands, rfl, ?_, Nat.le_add_right _ _, fun _ kind => ?_⟩
  · simp [stands, mac]
  · simp [stands, sending, mac]

lemma settled_macQueued (stands : s.callback = .macQueued) : s.Settled s.settle := by
  rw [settle_macQueued stands]
  refine ⟨rfl, tagq_mySendMsg s _, ?_, ?_, fun room kind => ?_⟩
  · simp [stands, mac]
  · rw [stands]
    exact length_mySendMsg s _
  · rw [stands] at room
    have free : s.hasRoom := room
    refine (mem_mySendMsg s _ _).trans ?_
    cases kind <;> simp [stands, sending, mac, free]

lemma settled_listed {mac} (stands : s.callback = .listed mac) : s.Settled s.settle := by
  rw [settle_listed stands]
  split
  next place =>
    have next := settled_macQueued (s := { s with macq := s.macq ++ [mac], callback := .macQueued }) rfl
    refine ⟨next.callback, next.tagq, ?_, ?_, fun room kind => ?_⟩
    · rw [next.macq, if_pos place, stands]
      simp [Callback.mac]
    · rw [stands]
      exact next.length
    · rw [stands] at room
      refine (next.queued room kind).trans ?_
      cases kind <;> simp [stands, Callback.sending, Callback.mac, place]
  next full =>
    refine ⟨rfl, rfl, (if_neg full).symm, Nat.le_add_right _ _, fun _ kind => ?_⟩
    simp [stands, Callback.sending, full]

lemma settled_tagQueued {mac} (stands : s.callback = .tagQueued mac) : s.Settled s.settle := by
  rw [settle_tagQueued stands]
  have length := length_mySendMsg s (.process .tag)
  have next : Settled { s.mySendMsg (.process .tag) with callback := behindTag mac }
      (settle { s.mySendMsg (.process .tag) with callback := behindTag mac }) := by
    cases mac with
    | none => exact settled_idle rfl
    | some mac => exact settled_listed rfl
  have left : (behindTag mac).left ≤ 1 := by
    cases mac with
    | none => exact Nat.zero_le _
    | some mac => exact Nat.le_refl _
  have carries : (behindTag mac).mac = mac := by cases mac <;> rfl
  refine ⟨next.callback, next.tagq.trans (tagq_mySendMsg s _), ?_, ?_, fun room kind => ?_⟩
  · rw [next.macq, stands]
    simp only [macq_mySendMsg, carries]
    rfl
  · refine Nat.le_trans next.length ?_
    rw [stands]
    change (s.mySendMsg (.process .tag)).msgq.length + (behindTag mac).left ≤ s.msgq.length + 2
    omega
  · rw [stands] at room
    change s.msgq.length + 2 ≤ bleMsgqSize at room
    have free : s.hasRoom := Nat.lt_of_succ_lt room
    refine (next.queued ?_ kind).trans ?_
    · dsimp only
      omega
    · have silent : (behindTag mac).sending kind = false := by cases mac <;> cases kind <;> rfl
      dsimp only
      rw [mem_mySendMsg, macq_mySendMsg, carries, silent, stands]
      cases kind <;> simp [Callback.sending, Callback.mac, free]

lemma settled (s : System) : s.Settled s.settle := by
  cases stands : s.callback with
  | idle => exact settled_idle stands
  | tagQueued mac => exact settled_tagQueued stands
  | listed mac => exact settled_listed stands
  | macQueued => exact settled_macQueued stands

lemma left_le (callback : Callback) : callback.left ≤ 2 := by
  cases callback <;> simp [left]

lemma mem_scanRecvCb (idle : s.callback = .idle) (room : s.msgq.length + 2 ≤ bleMsgqSize) (adv : Adv)
    (kind) : .process kind ∈ (s.scanRecvCb adv).msgq ↔
      .process kind ∈ s.msgq ∨ (kind = .tag ∧ adv.tag.isSome = true ∧ s.tagq.length < processMsgqSize) ∨
        (kind = .mac ∧ adv.mac.isSome = true ∧ s.macq.length < processMsgqSize ∧
          (adv.tag.isSome = true → s.tagq.length < processMsgqSize)) := by
  have after := settled (s.step (.recv adv))
  have received : s.step (.recv adv) = s.stepRecv adv := by simp only [step, idle]
  rw [scanRecvCb]
  rw [received] at after ⊢
  have msgq : (s.stepRecv adv).msgq = s.msgq := by
    simp only [stepRecv]
    split
    · split <;> rfl
    · rfl
  have left := left_le (s.stepRecv adv).callback
  rw [after.queued (by rw [msgq]; omega), msgq]
  refine or_congr_right ?_
  cases tag : adv.tag with
  | none =>
    cases mac : adv.mac <;> cases kind <;> simp [stepRecv, tag, mac, behindTag, Callback.sending, Callback.mac]
  | some data =>
    by_cases place : s.tagq.length < processMsgqSize
    · cases mac : adv.mac <;> cases kind <;> simp [stepRecv, tag, mac, place, Callback.sending, Callback.mac]
    · cases mac : adv.mac <;> cases kind <;> simp [stepRecv, tag, place, idle, Callback.sending, Callback.mac]

structure Next (s after : System) : Prop where
  idle : after.callback = .idle
  room : after.msgq.length + 2 ≤ bleMsgqSize
  tagq : after.tagq = s.tagq
  macq : after.macq = if s.macq.length < processMsgqSize then s.macq ++ s.callback.mac.toList else s.macq
  queued : ∀ kind, .process kind ∈ after.msgq ↔ s.callback.sending kind = true ∨
    (kind = .mac ∧ s.callback.mac.isSome = true ∧ s.macq.length < processMsgqSize)

lemma settle_next (s : System) : s.Next (settle { s with msgq := [] }) := by
  have now := settled { s with msgq := [] }
  have left : 0 + s.callback.left + 2 ≤ bleMsgqSize := by
    have left := left_le s.callback
    have size : bleMsgqSize = 10 := rfl
    omega
  refine ⟨now.callback, Nat.le_trans (Nat.add_le_add_right now.length 2) left, now.tagq, now.macq, fun kind => ?_⟩
  refine (now.queued (Nat.le_of_succ_le (Nat.le_of_succ_le left)) kind).trans ?_
  simp

def someTag : TagScanProcessMsg := ⟨.advInd, default⟩

def someMac : TranMacProcessMsg := ⟨.zero, []⟩

lemma prompts_tag (s : System) :
    s.Prompts .tag ↔ s.callback.sending .tag = true ∨ s.tagq.length < processMsgqSize := by
  have next := settle_next s
  have final (adv : Adv) (carries : adv.tag.isSome = true) :
      .process .tag ∈ ((settle { s with msgq := [] }).scanRecvCb adv).msgq ↔
        s.callback.sending .tag = true ∨ s.tagq.length < processMsgqSize := by
    rw [mem_scanRecvCb next.idle next.room, next.queued, next.tagq]
    simp [carries]
  constructor
  · intro prompts
    exact (final (.ind (some someTag) none) rfl).mp (prompts (.ind (some someTag) none) rfl)
  · intro live adv carries
    exact (final adv carries).mpr live

lemma prompts_mac (s : System) : s.Prompts .mac ↔ s.callback.sending .mac = true ∨
    (s.macq.length < processMsgqSize ∧ (s.callback.mac.isSome = true ∨ s.tagq.length < processMsgqSize)) := by
  have next := settle_next s
  have final (adv : Adv) (carries : adv.mac.isSome = true) :
      .process .mac ∈ ((settle { s with msgq := [] }).scanRecvCb adv).msgq ↔
        s.callback.sending .mac = true ∨ (s.callback.mac.isSome = true ∧ s.macq.length < processMsgqSize) ∨
          ((settle { s with msgq := [] }).macq.length < processMsgqSize ∧
            (adv.tag.isSome = true → s.tagq.length < processMsgqSize)) := by
    rw [mem_scanRecvCb next.idle next.room, next.queued, next.tagq]
    simp [carries, or_assoc]
  constructor
  · intro prompts
    have both := (final (.ind (some someTag) (some someMac)) rfl).mp (prompts _ rfl)
    rcases both with sending | ⟨holds, place⟩ | ⟨place, tags⟩
    · exact .inl sending
    · exact .inr ⟨place, .inl holds⟩
    · refine .inr ⟨?_, .inr (tags rfl)⟩
      by_contra full
      rw [next.macq, if_neg full] at place
      exact full place
  · rintro (sending | ⟨place, holds | tags⟩) adv carries
    · exact (final adv carries).mpr (.inl sending)
    · exact (final adv carries).mpr (.inr (.inl ⟨holds, place⟩))
    · refine (final adv carries).mpr (.inr ?_)
      cases holds : s.callback.mac with
      | some mac => exact .inl ⟨rfl, place⟩
      | none =>
        refine .inr ⟨?_, fun _ => tags⟩
        rw [next.macq, if_pos place, holds]
        simpa using place

lemma live_tag (s : System) :
    s.Live .tag ↔ s.Noticed .tag ∨ s.callback.sending .tag = true ∨ s.tagq.length < processMsgqSize := by
  rw [Live, prompts_tag]
  constructor
  · rintro (empty | live)
    · have empty : s.tagq.length = 0 := empty
      refine .inr (.inr ?_)
      rw [empty]
      decide
    · exact live
  · exact .inr

lemma live_mac (s : System) : s.Live .mac ↔ s.macq.length = 0 ∨ s.Noticed .mac ∨ s.callback.sending .mac = true ∨
    (s.macq.length < processMsgqSize ∧ (s.callback.mac.isSome = true ∨ s.tagq.length < processMsgqSize)) := by
  rw [Live, prompts_mac]
  rfl

lemma macq_scanRecvCb (idle : s.callback = .idle) {adv : Adv} {mac} (carries : adv.mac = some mac) :
    (s.scanRecvCb adv).macq = if s.macq.length < processMsgqSize ∧ (adv.tag.isSome = true → s.tagq.length < processMsgqSize)
      then s.macq ++ [mac] else s.macq := by
  rw [scanRecvCb, (settled _).macq]
  simp only [step, idle, stepRecv, carries]
  cases tag : adv.tag with
  | none => simp [behindTag, Callback.mac]
  | some data =>
    by_cases place : s.tagq.length < processMsgqSize
    · simp [place, Callback.mac]
    · simp [place, idle, Callback.mac]

lemma admits_recv (s : System) (adv : Adv) : s.Admits (.recv adv) ↔
    (s.callback = .idle → adv.tag.isSome = true → adv.mac.isSome = true →
      s.tagq.length < processMsgqSize ∨ processMsgqSize ≤ s.macq.length) := by
  refine forall_congr' fun idle => ?_
  cases carries : adv.mac with
  | none => simp
  | some mac =>
    simp only [Option.some.injEq, forall_eq', macq_scanRecvCb idle carries, Option.isSome_some, true_implies]
    have grows : s.macq ≠ s.macq ++ [mac] := by simp
    by_cases place : s.macq.length < processMsgqSize
    · by_cases tags : adv.tag.isSome = true → s.tagq.length < processMsgqSize
      · rw [if_pos ⟨place, tags⟩]
        exact iff_of_true (iff_of_true rfl place) fun data => .inl (tags data)
      · rw [if_neg fun both => tags both.2]
        refine iff_of_false (fun same => grows (same.mpr place)) fun either => tags fun data => ?_
        exact (either data).resolve_right (Nat.not_le_of_lt place)
    · rw [if_neg fun both => place both.1]
      exact iff_of_true (iff_of_false grows place) fun _ => .inr (Nat.le_of_not_lt place)

lemma live_of_le {after : System} (live : ∀ kind, s.Live kind) (callback : after.callback = s.callback)
    (noticed : ∀ kind, s.Noticed kind → after.length kind ≠ 0 → after.Noticed kind)
    (fewer : ∀ kind, after.length kind ≤ s.length kind) : ∀ kind, after.Live kind := by
  intro kind
  by_cases empty : after.length kind = 0
  · exact .inl empty
  have tagq : after.tagq.length ≤ s.tagq.length := fewer .tag
  have macq : after.macq.length ≤ s.macq.length := fewer .mac
  cases kind with
  | tag =>
    rw [live_tag, callback]
    refine ((live_tag s).mp (live .tag)).imp (fun before => noticed .tag before empty) fun rest => ?_
    exact rest.imp_right (Nat.lt_of_le_of_lt tagq)
  | mac =>
    rw [live_mac, callback]
    refine .inr ?_
    rcases (live_mac s).mp (live .mac) with none | before | rest
    · have some : after.macq.length ≠ 0 := empty
      omega
    · exact .inl (noticed .mac before empty)
    · refine .inr (rest.imp_right fun ⟨place, more⟩ => ?_)
      exact ⟨Nat.lt_of_le_of_lt macq place, more.imp_right (Nat.lt_of_le_of_lt tagq)⟩

lemma length_mySendMsg_eq (s : System) (msg kind) :
    (s.mySendMsg msg).length kind = s.length kind := by
  cases kind with
  | tag => exact congrArg List.length (tagq_mySendMsg s msg)
  | mac => exact congrArg List.length (macq_mySendMsg s msg)

lemma Noticed.mySendMsg {kind} (noticed : s.Noticed kind) (msg) : (s.mySendMsg msg).Noticed kind :=
  noticed.imp (fun queued => (mem_mySendMsg s msg _).mpr (.inl queued)) fun task => (task_mySendMsg s msg).trans task

section

variable (live : ∀ kind, s.Live kind)
include live

lemma live_post : ∀ kind, (s.step .post).Live kind :=
  live_of_le live (callback_mySendMsg s _) (fun _ noticed _ => noticed.mySendMsg _)
    fun kind => Nat.le_of_eq (length_mySendMsg_eq s _ kind)

lemma live_take : ∀ kind, (s.step .take).Live kind := by
  simp only [step]
  split
  next kind rest waiting queued =>
    refine live_of_le live rfl (fun other noticed _ => ?_) fun kind => Nat.le_refl _
    rcases noticed with member | task
    · rw [queued] at member
      rcases mem_cons.mp member with same | member
      · cases same
        exact .inr rfl
      · exact .inl member
    · cases waiting.symm.trans task
  next rest waiting queued =>
    refine live_of_le live rfl (fun other noticed _ => ?_) fun kind => Nat.le_refl _
    rcases noticed with member | task
    · rw [queued] at member
      rcases mem_cons.mp member with same | member
      · cases same
      · exact .inl member
    · exact .inr task
  next => exact live

lemma live_drained {kind : ScanKind} (draining : s.task = .draining kind)
    (empty : s.length kind = 0) : ∀ kind, Live { s with task := .waiting } kind := by
  refine live_of_le live rfl (fun other noticed some => ?_) fun kind => Nat.le_refl _
  rcases noticed with member | task
  · exact .inl member
  · cases draining.symm.trans task
    exact absurd empty some

lemma live_get : ∀ kind, (s.step .get).Live kind := by
  simp only [step]
  split
  next draining =>
    split
    next empty => exact live_drained live draining (congrArg List.length empty)
    next first rest entries =>
      refine live_of_le live rfl (fun _ noticed _ => noticed) fun kind => ?_
      cases kind with
      | tag => exact Nat.le_of_succ_le (Nat.le_of_eq (congrArg List.length entries).symm)
      | mac => exact Nat.le_refl _
  next draining =>
    split
    next empty => exact live_drained live draining (congrArg List.length empty)
    next first rest entries =>
      refine live_of_le live rfl (fun _ noticed _ => noticed) fun kind => ?_
      cases kind with
      | tag => exact Nat.le_refl _
      | mac => exact Nat.le_of_succ_le (Nat.le_of_eq (congrArg List.length entries).symm)
  next => exact live

lemma live_putMac : ∀ kind, (s.step .putMac).Live kind := by
  simp only [step]
  split
  next mac stands =>
    have tags := (live_tag s).mp (live .tag)
    have macs := (live_mac s).mp (live .mac)
    rw [stands] at tags macs
    split
    next place =>
      intro kind
      cases kind with
      | tag => exact (live_tag _).mpr tags
      | mac => exact (live_mac _).mpr (.inr (.inr (.inl rfl)))
    next full =>
      intro kind
      cases kind with
      | tag => exact (live_tag _).mpr tags
      | mac =>
        refine (live_mac _).mpr (macs.imp_right fun rest => .inl ?_)
        rcases rest with noticed | sending | ⟨place, _⟩
        · exact noticed
        · cases sending
        · exact absurd place full
  next => exact live

end

lemma forall_kind {p : ScanKind → Prop} : (∀ kind, p kind) ↔ p .tag ∧ p .mac :=
  ⟨fun all => ⟨all .tag, all .mac⟩, fun both kind => by cases kind; exacts [both.1, both.2]⟩

lemma noticed_mySendMsg (s : System) (kind other : ScanKind) (callback) :
    Noticed { s.mySendMsg (.process other) with callback := callback } kind ↔
      s.Noticed kind ∨ (kind = other ∧ s.hasRoom) := by
  have task : (s.mySendMsg (.process other)).task = s.task := task_mySendMsg s _
  simp only [Noticed, mem_mySendMsg, task, Msg.process.injEq]
  exact or_right_comm

section

variable (live : ∀ kind, s.Live kind)
include live

lemma live_notifyTag : (∀ kind, (s.step .notifyTag).Live kind) ↔ s.Notifies .notifyTag := by
  cases stands : s.callback with
  | tagQueued mac =>
    have after : s.step .notifyTag = { s.mySendMsg (.process .tag) with callback := behindTag mac } := by
      simp only [step, stands]
    have carries : (behindTag mac).mac = mac := by cases mac <;> rfl
    have silent (kind : ScanKind) : (behindTag mac).sending kind = false := by cases mac <;> cases kind <;> rfl
    have macs := (live_mac s).mp (live .mac)
    rw [stands] at macs
    rw [after, forall_kind, live_tag, live_mac, noticed_mySendMsg, noticed_mySendMsg]
    simp only [tagq_mySendMsg, macq_mySendMsg, carries, silent, Notifies, stands]
    constructor
    · rintro ⟨(noticed | ⟨-, room⟩) | wrong | place, -⟩ _
      · exact .inr (.inr noticed)
      · exact .inr (.inl room)
      · cases wrong
      · exact .inl place
    · intro notifies
      refine ⟨?_, macs.imp_right fun rest => rest.imp_left .inl⟩
      rcases notifies rfl with place | room | noticed
      · exact .inr (.inr place)
      · exact .inl (.inr ⟨trivial, room⟩)
      · exact .inl (.inl noticed)
  | idle | listed | macQueued =>
    simp only [step, Notifies, stands, live, sending, implies_true, reduceCtorEq, false_implies]

lemma live_notifyMac : (∀ kind, (s.step .notifyMac).Live kind) ↔ s.Notifies .notifyMac := by
  cases stands : s.callback with
  | macQueued =>
    have after : s.step .notifyMac = { s.mySendMsg (.process .mac) with callback := .idle } := by
      simp only [step, stands]
    have tags := (live_tag s).mp (live .tag)
    rw [stands] at tags
    rw [after, forall_kind, live_tag, live_mac, noticed_mySendMsg, noticed_mySendMsg]
    simp only [tagq_mySendMsg, macq_mySendMsg, Notifies, stands, sending, mac]
    constructor
    · rintro ⟨-, empty | (noticed | ⟨-, room⟩) | wrong | ⟨place, wrong | more⟩⟩ -
      · exact .inl empty
      · exact .inr (.inr (.inr noticed))
      · exact .inr (.inr (.inl room))
      · cases wrong
      · cases wrong
      · exact .inr (.inl ⟨place, more⟩)
    · intro notifies
      refine ⟨tags.imp_left .inl, ?_⟩
      rcases notifies trivial with empty | ⟨place, more⟩ | room | noticed
      · exact .inl empty
      · exact .inr (.inr (.inr ⟨place, .inr more⟩))
      · exact .inr (.inl (.inr ⟨trivial, room⟩))
      · exact .inr (.inl (.inl noticed))
  | idle | listed =>
    simp only [step, Notifies, stands, live, sending, implies_true, reduceCtorEq, false_implies]
  | tagQueued mac =>
    simp only [step, Notifies, stands, live, sending, implies_true, reduceCtorEq, false_implies]

lemma live_recv_none (idle : s.callback = .idle) (mac : Option TranMacProcessMsg) :
    ∀ kind, Live { s with callback := behindTag mac } kind := by
  have tags := (live_tag s).mp (live .tag)
  have macs := (live_mac s).mp (live .mac)
  rw [idle] at tags macs
  rw [forall_kind, live_tag, live_mac]
  cases mac with
  | none => exact ⟨tags, macs⟩
  | some mac =>
    refine ⟨tags, macs.imp_right fun rest => rest.imp_right fun rest => rest.imp_right fun place => ?_⟩
    exact ⟨place.1, .inl rfl⟩

lemma live_recv_tag (idle : s.callback = .idle) (tag : TagScanProcessMsg)
    (mac : Option TranMacProcessMsg) (place : s.tagq.length < processMsgqSize) :
    (∀ kind, Live { s with tagq := s.tagq ++ [tag], callback := .tagQueued mac } kind) ↔
      (mac = none → s.tagq.length + 1 = processMsgqSize → s.macq.length = 0 ∨ s.Noticed .mac) := by
  have macs := (live_mac s).mp (live .mac)
  rw [idle] at macs
  rw [forall_kind, live_tag, live_mac]
  have noticed : Noticed { s with tagq := s.tagq ++ [tag], callback := .tagQueued mac } .mac ↔ s.Noticed .mac := Iff.rfl
  simp only [noticed, Callback.sending, Callback.mac, length_append, length_singleton]
  constructor
  · rintro ⟨-, empty | noticed | wrong | ⟨_, holds | more⟩⟩ none last
    · exact .inl empty
    · exact .inr noticed
    · cases wrong
    · rw [none] at holds
      cases holds
    · omega
  · intro notifies
    refine ⟨.inr (.inl trivial), ?_⟩
    rcases macs with empty | noticed | wrong | ⟨more, -⟩
    · exact .inl empty
    · exact .inr (.inl noticed)
    · cases wrong
    · cases mac with
      | some mac => exact .inr (.inr (.inr ⟨more, .inl rfl⟩))
      | none =>
        by_cases last : s.tagq.length + 1 = processMsgqSize
        · exact (notifies rfl last).imp_right .inl
        · exact .inr (.inr (.inr ⟨more, .inr (by omega)⟩))

lemma works_recv (adv) : s.Works (.recv adv) ↔ s.Notifies (.recv adv) := by
  have both : s.Works (.recv adv) ↔ s.Admits (.recv adv) ∧ ∀ kind, (s.step (.recv adv)).Live kind :=
    ⟨fun works => ⟨works.admits, works.live⟩, fun both => ⟨both.2, both.1⟩⟩
  rw [both, admits_recv]
  by_cases idle : s.callback = .idle
  · have received : s.step (.recv adv) = s.stepRecv adv := by simp only [step, idle]
    rw [received]
    simp only [Notifies, idle, true_implies]
    refine and_congr_right' ?_
    cases tag : adv.tag with
    | none =>
      have after : s.stepRecv adv = { s with callback := behindTag adv.mac } := by simp only [stepRecv, tag]
      rw [after]
      exact iff_of_true (live_recv_none live idle adv.mac) nofun
    | some data =>
      simp only [Option.isSome_some, true_implies]
      by_cases place : s.tagq.length < processMsgqSize
      · have after : s.stepRecv adv = { s with tagq := s.tagq ++ [data], callback := .tagQueued adv.mac } := by
          simp only [stepRecv, tag, if_pos place]
        rw [after]
        exact live_recv_tag live idle data adv.mac place
      · have after : s.stepRecv adv = s := by simp only [stepRecv, tag, if_neg place]
        rw [after]
        refine iff_of_true live fun _ last => absurd last ?_
        omega
  · have ignored : s.step (.recv adv) = s := by
      cases stands : s.callback with
      | idle => exact absurd stands idle
      | tagQueued | listed | macQueued => simp only [step, stands]
    rw [ignored]
    exact iff_of_true ⟨fun here => absurd here idle, live⟩ fun here => absurd here idle

lemma works_iff (event) : s.Works event ↔ s.Notifies event := by
  cases event with
  | recv adv => exact works_recv live adv
  | notifyTag =>
    exact ⟨fun works => (live_notifyTag live).mp works.live, fun notifies => ⟨(live_notifyTag live).mpr notifies, trivial⟩⟩
  | notifyMac =>
    exact ⟨fun works => (live_notifyMac live).mp works.live, fun notifies => ⟨(live_notifyMac live).mpr notifies, trivial⟩⟩
  | putMac => exact iff_of_true ⟨live_putMac live, trivial⟩ trivial
  | post => exact iff_of_true ⟨live_post live, trivial⟩ trivial
  | take => exact iff_of_true ⟨live_take live, trivial⟩ trivial
  | get => exact iff_of_true ⟨live_get live, trivial⟩ trivial

end

/-- In every interleaving, the queues stay live and a listed device depends on its own queue only, exactly if every step
meets the condition. -/
theorem scan_pipeline_iff (events : List Event) : Along step Works start events ↔ Along step Notifies start events :=
  along_iff_along (fun s => ∀ kind, s.Live kind) (fun _ event live notifies => ((works_iff live event).mpr notifies).live)
    (fun _ event live => works_iff live event) fun kind => .inl (by cases kind <;> rfl)

def sixteenTags : List Event :=
  List.replicate 10 .post ++ (List.replicate 16 [.recv (.ind (some someTag) none), .notifyTag]).flatten ++
    List.replicate 10 .take

/-- The queue of tags is full and nothing is on its way to the BLE thread. From then on an advertisement of a tag or of a
listed device with the data of a tag changes nothing. -/
theorem tags_wedge_the_pipeline :
    let s := sixteenTags.foldl step start
    s.tagq.length = 16 ∧ s.macq = [] ∧ s.msgq = [] ∧ s.callback = .idle ∧ s.task = .waiting ∧
      (s.scanRecvCb (.ind (some someTag) none)).msgq = [] ∧
      (s.scanRecvCb (.ind (some someTag) (some someMac))).macq = [] := by
  refine ⟨rfl, rfl, rfl, rfl, rfl, rfl, rfl⟩

end System

end LL320D.ScanQueue

namespace LL320D.ScanRadio.System
open BleScan (ScanMode)
open Library List

variable {s : System} (env : Env)

/-- A scan is stopped, or started again, where its state is reset; the message that ends it finds room, and is not used up
by a failing stop. -/
def Harmless (s : System) : Event → Prop
  | .setConfig env mode _ =>
    s.state = .scanning → env.scanStop = 0 ∨ mode.periodic = true ∧ env.scanStart = 0
  | .lengthExpires =>
    s.state = .scanning → 0 < s.scanLength → s.lengthTimer = true → s.msgq.length < bleMsgqSize ∨ .scanLength ∈ s.msgq
  | .handle env =>
    s.msgq.head? = some .scanLength → s.state = .scanning → 0 < s.scanLength →
      env.scanStop = 0 ∨ s.lengthTimer = true ∨ .scanLength ∈ s.msgq.tail
  | _ => True

lemma Bounded.of_idle (idle : s.state ≠ .scanning) (silent : s.radio = false) : s.Bounded :=
  ⟨iff_of_false idle (by simp [silent]), fun is => absurd is idle⟩

lemma Bounded.silent (bounded : s.Bounded) (idle : s.state ≠ .scanning) : s.radio = false :=
  eq_false_of_ne_true fun scans => idle (bounded.agrees.mpr scans)

lemma Bounded.send (bounded : s.Bounded) (msg) : (s.mySendMsg msg).Bounded := by
  simp only [mySendMsg]
  split
  · exact ⟨bounded.agrees, fun is long => (bounded.ends is long).imp_right (mem_append_left _)⟩
  · exact bounded

lemma scanStart_bounded (env) (bounded : s.Bounded) : (s.scanStartInternal env).Bounded := by
  simp only [scanStartInternal]
  split
  · exact bounded
  · split
    · exact bounded
    · split
      · exact bounded
      · exact ⟨iff_of_true rfl rfl, fun _ long => .inl (by simp [show 0 < s.scanLength from long])⟩

lemma scanStop_cases (s : System) : s.state = .scanning ∧ env.scanStop = 0 ∧
        s.scanStopInternal env = { s with radio := false, state := .idle, lengthTimer := false } ∨
      (s.state = .scanning → env.scanStop ≠ 0) ∧ s.scanStopInternal env = s := by
  simp only [scanStopInternal]
  split
  · next idle => exact .inr ⟨fun is => absurd is idle, rfl⟩
  · next scanning =>
    split
    · next fails => exact .inr ⟨fun _ => fails, rfl⟩
    · next stops => exact .inl ⟨Decidable.not_not.mp scanning, Decidable.not_not.mp stops, rfl⟩

lemma scanStop_bounded (env) (bounded : s.Bounded) : (s.scanStopInternal env).Bounded := by
  rcases scanStop_cases env s with ⟨-, -, stopped⟩ | ⟨-, same⟩
  · rw [stopped]
    exact .of_idle nofun rfl
  · rw [same]
    exact bounded

lemma uploadData_bounded (env) (bounded : s.Bounded) : (s.tagMacScanUploadData env).Bounded := by
  simp only [tagMacScanUploadData]
  split
  · exact bounded
  · next idle =>
    refine .of_idle ?_ (bounded.silent idle)
    cases env.uploading <;> exact nofun

lemma handleMsg_bounded (env) (bounded : s.Bounded) (msg) : (s.handleMsg env msg).Bounded := by
  cases msg with
  | scanInterval =>
    simp only [handleMsg]
    split
    · exact scanStart_bounded env bounded
    · exact bounded
  | scanLength => exact scanStop_bounded env bounded
  | scanUpload =>
    simp only [handleMsg]
    split
    · next due =>
      split
      · exact bounded
      · have pending := (Bool.and_eq_true_iff.mp due).2
        rw [scanTriggerUpload, if_pos pending]
        exact uploadData_bounded env (scanStop_bounded env bounded)
    · exact bounded
  | uploadWakeup =>
    simp only [handleMsg]
    split
    · split
      · exact scanStop_bounded env bounded
      · exact uploadData_bounded env (scanStop_bounded env bounded)
    · exact bounded
  | uploadTagAndMac => exact uploadData_bounded env bounded
  | other => exact bounded

/-- Taking a message from the queue loses the end of a scan only if it is the last message that ends it. -/
lemma Bounded.taken {msg : Msg} {rest : List Msg} (bounded : s.Bounded) (queue : s.msgq = msg :: rest)
    (kept : s.state = .scanning → 0 < s.scanLength → msg = .scanLength → s.lengthTimer = true ∨ .scanLength ∈ rest) :
    ({ s with msgq := rest } : System).Bounded := by
  refine ⟨bounded.agrees, fun is long => ?_⟩
  rcases bounded.ends is long with timer | queued
  · exact .inl timer
  · rw [queue] at queued
    rcases mem_cons.mp queued with first | later
    · exact kept is long first.symm
    · exact .inr later

/-- A start succeeds on a state that was reset to idle while the controller scans, or the two disagree. -/
lemma restart_bounded_iff (idle : s.state = .idle) (scans : s.radio = true) :
    (s.scanStartInternal env).Bounded ↔ s.mode ≠ .off ∧ env.scanStart = 0 := by
  have apart : ¬s.Bounded := fun bounded => by simp [bounded.silent (by simp [idle])] at scans
  simp only [scanStartInternal]
  split
  · next off => exact iff_of_false apart fun on => on.1 off
  · next on =>
    split
    · next scanning => simp [idle] at scanning
    · split
      · next fails => exact iff_of_false apart fun starts => fails starts.2
      · next starts =>
        refine iff_of_true ⟨iff_of_true rfl rfl, fun _ long => .inl ?_⟩ ⟨on, Decidable.not_not.mp starts⟩
        simp [show 0 < s.scanLength from long]

lemma setConfig_bounded_iff (mode : ScanMode) (scanLength : Nat) (bounded : s.Bounded) :
    (s.myScanSetConfig env mode scanLength).Bounded ↔
      (s.state = .scanning → env.scanStop = 0 ∨ mode.periodic = true ∧ env.scanStart = 0) := by
  have reset : (({ s with intervalTimer := false, lengthTimer := false, uploadTimer := false } : System).scanStopInternal
      env).radio = true ↔ s.state = .scanning ∧ env.scanStop ≠ 0 := by
    rcases scanStop_cases env { s with intervalTimer := false, lengthTimer := false, uploadTimer := false } with
      ⟨-, stops, stopped⟩ | ⟨fails, same⟩
    · simp [stopped, stops]
    · rw [same]
      exact ⟨fun scans => ⟨bounded.agrees.mpr scans, fails (bounded.agrees.mpr scans)⟩,
        fun scanning => bounded.agrees.mp scanning.1⟩
  simp only [myScanSetConfig]
  by_cases scans : s.state = .scanning ∧ env.scanStop ≠ 0
  · have fails : ¬(env.scanStop = 0) := scans.2
    have on := reset.mpr scans
    cases mode with
    | periodCache | periodUpload =>
      exact (restart_bounded_iff env (by rfl) (by exact on)).trans (by simp [scans.1, fails, ScanMode.periodic])
    | _ =>
      refine iff_of_false (fun bounded => ?_) (by simp [scans.1, fails, ScanMode.periodic])
      exact absurd (bounded.silent (by rintro ⟨⟩)) (by simp [on])
  · have silent := eq_false_of_ne_true (mt reset.mp scans)
    refine iff_of_true ?_ fun scanning => .inl (by grind)
    cases mode with
    | periodCache | periodUpload => exact scanStart_bounded env (.of_idle (by rintro ⟨⟩) silent)
    | _ => exact .of_idle (by rintro ⟨⟩) silent

lemma handle_bounded_iff (env) (bounded : s.Bounded) :
    (s.step (.handle env)).Bounded ↔ s.Harmless (.handle env) := by
  simp only [step, Harmless]
  split
  · next empty => exact iff_of_true bounded (by simp [empty])
  · next msg rest queue =>
    by_cases ending : msg = .scanLength
    · subst ending
      simp only [queue, head?_cons, tail_cons, handleMsg, forall_const]
      rcases scanStop_cases env { s with msgq := rest } with ⟨-, stops, stopped⟩ | ⟨fails, same⟩
      · rw [stopped]
        exact iff_of_true (.of_idle nofun rfl) fun _ _ => .inl stops
      · rw [same]
        refine ⟨fun after scanning long => .inr (after.ends scanning long), fun kept => ?_⟩
        exact bounded.taken queue fun scanning long _ => (kept scanning long).resolve_left (fails scanning)
    · refine iff_of_true (handleMsg_bounded env (bounded.taken queue fun _ _ ends => absurd ends ending) msg) ?_
      simp [queue, ending]

lemma lengthExpires_bounded_iff (bounded : s.Bounded) :
    (s.step .lengthExpires).Bounded ↔ s.Harmless .lengthExpires := by
  simp only [step, Harmless, mySendMsg]
  split
  · next timer =>
    split
    · next room => exact iff_of_true ⟨bounded.agrees, fun _ _ => .inr (by simp)⟩ fun _ _ _ => .inl room
    · next full =>
      refine ⟨fun after scanning long _ => .inr ((after.ends scanning long).resolve_left nofun), fun kept => ?_⟩
      exact ⟨bounded.agrees, fun scanning long => .inr ((kept scanning long timer).resolve_left full)⟩
  · next off => exact iff_of_true bounded fun _ _ timer => absurd timer off

lemma step_bounded_iff (bounded : s.Bounded) (event) : (s.step event).Bounded ↔ s.Harmless event := by
  cases event with
  | setConfig env mode scanLength => exact setConfig_bounded_iff env mode scanLength bounded
  | send msg => exact iff_of_true (bounded.send msg) trivial
  | handle env => exact handle_bounded_iff env bounded
  | intervalExpires | uploadExpires =>
    refine iff_of_true ?_ trivial
    simp only [step]
    split
    · exact bounded.send _
    · exact bounded
  | lengthExpires => exact lengthExpires_bounded_iff bounded

/-- In every run, the scan state agrees with the controller and every scan with a length is going to end, exactly if every
step is harmless. -/
theorem always_bounded_iff (events : List Event) :
    Always step Bounded start events ↔ Along step Harmless start events :=
  always_iff_along Bounded (fun _ bounded => bounded) (fun _ event bounded => (step_bounded_iff bounded event).mpr)
    (fun _ event bounded => (step_bounded_iff bounded event).mp) (.of_idle nofun rfl)

/-- The controller refuses to stop where the scan is turned off: it scans on, and the scan state is idle. -/
theorem refused_stop_scans_on :
    let s := [Event.setConfig ⟨0, 0, false, false⟩ .periodCache 10, .setConfig ⟨0, -5, false, false⟩ .off 0].foldl step start
    s.state = .idle ∧ s.radio = true ∧ s.lengthTimer = false ∧ s.msgq = [] := by
  decide

end LL320D.ScanRadio.System
