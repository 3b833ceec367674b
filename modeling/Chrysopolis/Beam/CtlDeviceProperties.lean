import Chrysopolis.Beam.CtlDevice
import Chrysopolis.Abi.ChecksProperties
import Mathlib.Data.List.Induction

/-! Sessions of the control device over every sequence of events: one owner, and each
reply answers the write before it, is read once and dies with its session. -/

set_option autoImplicit false

namespace Chrysopolis.Beam

open Chrysopolis.Abi
open Chrysopolis.Support

/-! ## The reply record -/

theorem ctlFields_complete (field : CtlField) : field ∈ ctlFields := by
  cases field <;> simp [ctlFields]

/-- A copied reply reads back every field. -/
theorem copyTo_read (reply : CtlReply) (buffer : Memory) (field : CtlField) :
    ctlLayout.read (reply.copyTo buffer) field =
      reply.value field % 256 ^ ctlLayout.width field := by
  have values :
      Layout.Values reply.value (ctlFields.map fun field => (field, reply.value field)) := by
    intro assignment mem
    obtain ⟨field, -, rfl⟩ := List.mem_map.mp mem
    rfl
  exact ctlLayout.read_assign_value buffer values
    ⟨reply.value field, List.mem_map.mpr ⟨field, ctlFields_complete field, rfl⟩⟩

/-- The reply Root's answer makes. -/
def resultReply (label : UInt64) (values : Vector UInt64 4) : CtlReply :=
  { magic := .ofNat magicReply, version := .ofNat abiVersion, result := label.toUInt16, values }

/-- A reply with a result frame's label passes the generated check. -/
theorem copyTo_checked {label count : UInt64} (values : Vector UInt64 4) (buffer : Memory)
    (valid : replyFrameValid label count = true) :
    checkCtlReply ((resultReply label values).copyTo buffer) ctlRecordSize = .ok := by
  have read := copyTo_read (resultReply label values) buffer
  generalize (resultReply label values).copyTo buffer = bytes at read ⊢
  simp only [replyFrameValid, Bool.and_eq_true, bne_iff_ne, decide_eq_true_eq] at valid
  obtain ⟨⟨⟨-, nonzero⟩, narrow⟩, member⟩ := valid
  have result : label.toUInt16.toNat ≠ 0 := by
    rw [UInt64.le_iff_toNat_le] at narrow
    change label.toNat ≤ 65535 at narrow
    rw [UInt64.toNat_toUInt16, Nat.mod_eq_of_lt (by omega)]
    exact fun zero => nonzero (UInt64.toNat.inj zero)
  have kind : bytes.load 10 2 = label.toUInt16.toNat :=
    (read .kind).trans (Nat.mod_eq_of_lt label.toUInt16.toNat_lt)
  have reserved0 : bytes.allZero 12 4 = true :=
    Memory.allZero_of_load_eq_zero (read .reserved0)
  have reserved : bytes.allZero 48 16 = true := by
    rw [Memory.allZero_iff]
    intro position lower upper
    have zero : bytes.load position 1 = 0 := by
      have byte := read (.reserved ⟨position - 48, by omega⟩)
      have address : 48 + (position - 48) = position := by omega
      simpa [Layout.read, ctlLayout, CtlField.address, CtlField.width, address, resultReply,
        CtlReply.value] using byte
    have empty := Memory.allZero_of_load_eq_zero zero
    exact Memory.allZero_iff.mp empty position (Nat.le_refl _) (Nat.lt_succ_self _)
  simp only [checkCtlReply, Checker.verdict, ne_eq, not_true_eq_false, if_false]
  rw [firstReject_ok (by decide)]
  simp only [ctlRules, List.forall_mem_cons, List.not_mem_nil, false_imp_iff, implies_true,
    and_true, Rule.holds, Check.holds, beq_iff_eq, ctlField, Member.holds, Nat.zero_add,
    CtlField.address, CtlField.width]
  refine ⟨read .magic, read .version, reserved0, reserved, ?_⟩
  rw [kind, Bool.and_eq_true]
  exact ⟨by simpa using result, member⟩

/-! ## Events and their trace -/

inductive CtlEvent where
  | opens (fd : Int)
  | writes (fd : Int) (buf : Option Memory) (count : Nat)
  | replies (fd : Int) (label count : UInt64) (values : Vector UInt64 4)
  | reads (fd : Int) (buf : Option Memory) (count : Nat)
  | closes (fd : Int)

namespace CtlEvent

def fd : CtlEvent → Int
  | .opens fd | .writes fd _ _ | .replies fd _ _ _ | .reads fd _ _ | .closes fd => fd

def kind : CtlEvent → CtlEventKind
  | .opens _ => .eventOpen
  | .writes _ _ _ => .eventWrite
  | .replies _ _ _ _ => .eventReply
  | .reads _ _ _ => .eventRead
  | .closes _ => .eventClose

end CtlEvent

/-- The status an outcome reports. -/
def statusOf {α : Type} : Except CtlStatus α → CtlStatus
  | .ok _ => .ok
  | .error status => status

/-- What an event leaves: the owner, its status and the buffer a read filled. -/
def ctlStep (owner : CtlOwner) : CtlEvent → CtlOwner × CtlStatus × Option Memory
  | .opens fd =>
      let (next, status) := runtimeCtlOpen owner fd
      (next, status, none)
  | .writes fd buf count =>
      let (next, outcome) := runtimeCtlWrite owner fd buf count
      (next, statusOf outcome, none)
  | .replies fd label count values =>
      let (next, status) := runtimeCtlReply owner fd label count values
      (next, status, none)
  | .reads fd buf count =>
      let (next, outcome) := runtimeCtlRead owner fd buf count
      (next, statusOf outcome, outcome.toOption)
  | .closes fd =>
      let (next, status) := runtimeCtlClose owner fd
      (next, status, none)

/-- An event and the status it got. -/
abbrev CtlTrace := List (CtlEvent × CtlStatus)

def ctlNext (state : CtlTrace × CtlOwner) (event : CtlEvent) : CtlTrace × CtlOwner :=
  let (next, status, _) := ctlStep state.2 event
  (state.1 ++ [(event, status)], next)

/-- The trace of the events, and the owner they leave. -/
def ctlRun (events : List CtlEvent) : CtlTrace × CtlOwner := events.foldl ctlNext ([], {})

/-- A descriptor opened the device and has not closed it. -/
def Owns (trace : CtlTrace) (fd : Int) : Prop :=
  ∃ before after, trace = before ++ (.opens fd, .ok) :: after ∧ (.closes fd, .ok) ∉ after

/-- No event of these changed a session: each was rejected. -/
def Rejected (trace : CtlTrace) : Prop :=
  ∀ entry ∈ trace, entry.2 ≠ .ok ∧ entry.2 ≠ .unavailable

/-- No session was opened or closed. -/
def SameSession (trace : CtlTrace) : Prop :=
  ∀ entry ∈ trace, entry.2 = .ok → entry.1.kind ≠ .eventOpen ∧ entry.1.kind ≠ .eventClose

/-- The session a descriptor has open. -/
def Opened (trace : CtlTrace) (fd : Int) : Prop :=
  ∃ before session, trace = before ++ (.opens fd, .ok) :: session ∧ SameSession session

/-- In the session a descriptor has open, its last accepted event is a write. -/
def Called (trace : CtlTrace) (fd : Int) : Prop :=
  ∃ before session buf count pending,
    trace = before ++ (.opens fd, .ok) ::
      (session ++ (.writes fd buf count, .ok) :: pending) ∧
    SameSession session ∧ Rejected pending

/-- And the reply to that write has arrived since, with nothing accepted after it. -/
def Answered (trace : CtlTrace) (fd : Int) (reply : CtlReply) : Prop :=
  ∃ called label count values pending,
    trace = called ++ (.replies fd label count values, .ok) :: pending ∧
    Called called fd ∧ Rejected pending ∧ replyFrameValid label count = true ∧
    reply = resultReply label values

/-! ## One event -/

/-- The phase and descriptor an admitted event finds. -/
def Admits (owner : CtlOwner) (fd : Int) : CtlEventKind → Prop
  | .eventOpen => owner.phase = .closed
  | .eventWrite => owner.phase = .idle ∧ owner.fd = fd
  | .eventReply => owner.phase = .calling ∧ owner.fd = fd
  | .eventRead => owner.phase = .replyReady ∧ owner.fd = fd
  | .eventClose => owner.phase ≠ .closed ∧ owner.fd = fd

theorem admitEvent_ok {owner : CtlOwner} {fd : Int} {event : CtlEventKind}
    (admitted : admitEvent owner fd event = .ok) : Admits owner fd event := by
  obtain ⟨phase, ownerFd, reply⟩ := owner
  unfold admitEvent at admitted
  split_ifs at admitted with foreign
  simp only [not_and_or, not_not] at foreign
  cases phase <;> cases event <;> simp_all [gate, Admits]

theorem admitEvent_available (owner : CtlOwner) (fd : Int) (event : CtlEventKind) :
    admitEvent owner fd event ≠ .unavailable := by
  unfold admitEvent
  split_ifs
  · simp
  · cases owner.phase <;> cases event <;> simp [gate]

/-- One case per way an event can go. -/
inductive CtlStepCase (owner : CtlOwner) : CtlEvent → CtlOwner × CtlStatus × Option Memory → Prop
    where
  | rejected {event : CtlEvent} {status : CtlStatus} (refused : status ≠ .ok)
      (available : status ≠ .unavailable) : CtlStepCase owner event (owner, status, none)
  | opened {fd : Int} (phase : owner.phase = .closed) :
      CtlStepCase owner (.opens fd) ({ phase := .idle, fd }, .ok, none)
  | written {buf : Option Memory} {count : Nat} (phase : owner.phase = .idle) :
      CtlStepCase owner (.writes owner.fd buf count) ({ owner with phase := .calling }, .ok, none)
  | unusable {label count : UInt64} {values : Vector UInt64 4} (phase : owner.phase = .calling) :
      CtlStepCase owner (.replies owner.fd label count values)
        ({ owner with phase := .idle }, .unavailable, none)
  | replied {label count : UInt64} {values : Vector UInt64 4} (phase : owner.phase = .calling)
      (valid : replyFrameValid label count = true) :
      CtlStepCase owner (.replies owner.fd label count values)
        ({ owner with
            phase := .replyReady
            reply := resultReply label values }, .ok, none)
  | readOut {bytes : Memory} (phase : owner.phase = .replyReady) :
      CtlStepCase owner (.reads owner.fd (some bytes) ctlRecordSize)
        ({ owner with phase := .idle, reply := {} }, .ok, some (owner.reply.copyTo bytes))
  | closed (phase : owner.phase ≠ .closed) :
      CtlStepCase owner (.closes owner.fd) ({}, .ok, none)

theorem ctlStep_case (owner : CtlOwner) (event : CtlEvent) :
    CtlStepCase owner event (ctlStep owner event) := by
  have rejected (refused : admitEvent owner event.fd event.kind ≠ .ok) :
      CtlStepCase owner event (owner, admitEvent owner event.fd event.kind, none) :=
    .rejected refused (admitEvent_available owner _ _)
  cases event with
  | opens fd =>
      unfold ctlStep runtimeCtlOpen
      dsimp only
      split_ifs with refused
      · exact rejected refused
      · exact .opened (admitEvent_ok (not_not.mp refused))
  | writes fd buf count =>
      unfold ctlStep runtimeCtlWrite
      by_cases refused : admitEvent owner fd .eventWrite ≠ .ok
      · simp only [if_pos refused]
        exact rejected refused
      · simp only [if_neg refused]
        obtain ⟨phase, rfl⟩ := admitEvent_ok (not_not.mp refused)
        cases buf with
        | none => exact .rejected (by simp [statusOf]) (by simp [statusOf])
        | some bytes =>
            dsimp only
            split_ifs
            · exact .rejected (by simp [statusOf]) (by simp [statusOf])
            · exact .rejected (by simp [statusOf]) (by simp [statusOf])
            · exact .written phase
  | replies fd label count values =>
      unfold ctlStep runtimeCtlReply
      dsimp only
      split_ifs with refused unusable
      · exact rejected refused
      all_goals obtain ⟨phase, rfl⟩ := admitEvent_ok (not_not.mp refused)
      · exact .unusable phase
      · exact .replied phase (by simpa using unusable)
  | reads fd buf count =>
      unfold ctlStep runtimeCtlRead
      by_cases refused : admitEvent owner fd .eventRead ≠ .ok
      · simp only [if_pos refused]
        exact rejected refused
      · simp only [if_neg refused]
        obtain ⟨phase, rfl⟩ := admitEvent_ok (not_not.mp refused)
        cases buf with
        | none => exact .rejected (by simp [statusOf]) (by simp [statusOf])
        | some bytes =>
            dsimp only
            split_ifs with size
            · exact .rejected (by simp [statusOf]) (by simp [statusOf])
            · rw [not_not] at size
              subst size
              exact .readOut phase
  | closes fd =>
      unfold ctlStep runtimeCtlClose
      dsimp only
      split_ifs with refused
      · exact rejected refused
      · obtain ⟨phase, rfl⟩ := admitEvent_ok (not_not.mp refused)
        exact .closed phase

/-! ## What a trace says of the owner -/

structure Story (trace : CtlTrace) (owner : CtlOwner) : Prop where
  owns : ∀ fd, Owns trace fd ↔ owner.phase ≠ .closed ∧ owner.fd = fd
  opened : owner.phase ≠ .closed → Opened trace owner.fd
  blank : owner.phase ≠ .replyReady → owner.reply = {}
  called : owner.phase = .calling → Called trace owner.fd
  answered : owner.phase = .replyReady → Answered trace owner.fd owner.reply

variable {trace : CtlTrace} {owner : CtlOwner} {fd : Int} {event : CtlEvent} {status : CtlStatus}

theorem Rejected.snoc (rejected : Rejected trace) (refused : status ≠ .ok)
    (available : status ≠ .unavailable) : Rejected (trace ++ [(event, status)]) := by
  intro entry mem
  rcases List.mem_append.mp mem with earlier | last
  · exact rejected entry earlier
  · rw [List.mem_singleton.mp last]
    exact ⟨refused, available⟩

theorem SameSession.snoc (same : SameSession trace)
    (inside : status = .ok → event.kind ≠ .eventOpen ∧ event.kind ≠ .eventClose) :
    SameSession (trace ++ [(event, status)]) := by
  intro entry mem
  rcases List.mem_append.mp mem with earlier | last
  · exact same entry earlier
  · rw [List.mem_singleton.mp last]
    exact inside

theorem owns_snoc : Owns (trace ++ [(event, status)]) fd ↔
    (event, status) = (.opens fd, .ok) ∨
      (Owns trace fd ∧ (event, status) ≠ (.closes fd, .ok)) := by
  constructor
  · rintro ⟨before, after, split, kept⟩
    rcases List.eq_nil_or_concat' after with rfl | ⟨init, last, rfl⟩
    · exact .inl (List.singleton_inj.mp (List.append_inj' split rfl).2)
    · rw [← List.cons_append, ← List.append_assoc] at split
      obtain ⟨earlier, same⟩ := List.append_inj' split rfl
      rw [List.singleton_inj] at same
      subst same
      simp only [List.mem_append, List.mem_singleton, not_or] at kept
      exact .inr ⟨⟨before, init, earlier, kept.1⟩, Ne.symm kept.2⟩
  · rintro (opened | ⟨⟨before, after, rfl, kept⟩, last⟩)
    · exact ⟨trace, [], by rw [opened], List.not_mem_nil⟩
    · refine ⟨before, after ++ [(event, status)], by simp, ?_⟩
      simp only [List.mem_append, List.mem_singleton, not_or]
      exact ⟨kept, last.symm⟩

theorem Opened.snoc (opened : Opened trace fd)
    (inside : status = .ok → event.kind ≠ .eventOpen ∧ event.kind ≠ .eventClose) :
    Opened (trace ++ [(event, status)]) fd := by
  obtain ⟨before, session, rfl, same⟩ := opened
  exact ⟨before, session ++ [(event, status)], by simp, same.snoc inside⟩

theorem Opened.call (opened : Opened trace fd) (buf : Option Memory) (count : Nat) :
    Called (trace ++ [(.writes fd buf count, .ok)]) fd := by
  obtain ⟨before, session, rfl, same⟩ := opened
  exact ⟨before, session, buf, count, [], by simp, same, by simp [Rejected]⟩

theorem Called.snoc (called : Called trace fd) (refused : status ≠ .ok)
    (available : status ≠ .unavailable) : Called (trace ++ [(event, status)]) fd := by
  obtain ⟨before, session, buf, count, pending, rfl, same, rejected⟩ := called
  exact ⟨before, session, buf, count, pending ++ [(event, status)], by simp, same,
    rejected.snoc refused available⟩

theorem Answered.snoc {reply : CtlReply} (answered : Answered trace fd reply)
    (refused : status ≠ .ok) (available : status ≠ .unavailable) :
    Answered (trace ++ [(event, status)]) fd reply := by
  obtain ⟨head, label, count, values, pending, rfl, called, rejected, valid, same⟩ := answered
  exact ⟨head, label, count, values, pending ++ [(event, status)], by simp, called,
    rejected.snoc refused available, valid, same⟩

theorem Story.step (story : Story trace owner) (event : CtlEvent) :
    Story (trace ++ [(event, (ctlStep owner event).2.1)]) (ctlStep owner event).1 := by
  have stepped := ctlStep_case owner event
  generalize ctlStep owner event = result at stepped ⊢
  cases stepped with
  | rejected refused available =>
      refine ⟨fun fd => ?_, fun live => (story.opened live).snoc fun ok => absurd ok refused,
        story.blank, fun calling => (story.called calling).snoc refused available,
        fun ready => (story.answered ready).snoc refused available⟩
      rw [owns_snoc, story.owns]
      simp [refused]
  | opened phase =>
      refine ⟨fun fd => ?_, fun _ => ⟨trace, [], rfl, by simp [SameSession]⟩, fun _ => rfl,
        fun calling => CtlPhase.noConfusion calling, fun ready => CtlPhase.noConfusion ready⟩
      rw [owns_snoc, story.owns]
      simp [phase]
  | written phase =>
      have live : owner.phase ≠ .closed := by simp [phase]
      refine ⟨fun fd => ?_, fun _ => (story.opened live).snoc fun _ => by simp [CtlEvent.kind],
        fun _ => story.blank (by simp [phase]), fun _ => (story.opened live).call _ _,
        fun ready => CtlPhase.noConfusion ready⟩
      rw [owns_snoc, story.owns]
      simp [phase]
  | unusable phase =>
      have live : owner.phase ≠ .closed := by simp [phase]
      refine ⟨fun fd => ?_, fun _ => (story.opened live).snoc fun _ => by simp [CtlEvent.kind],
        fun _ => story.blank (by simp [phase]), fun calling => CtlPhase.noConfusion calling,
        fun ready => CtlPhase.noConfusion ready⟩
      rw [owns_snoc, story.owns]
      simp [phase]
  | replied phase valid =>
      have live : owner.phase ≠ .closed := by simp [phase]
      refine ⟨fun fd => ?_, fun _ => (story.opened live).snoc fun _ => by simp [CtlEvent.kind],
        fun unready => absurd rfl unready, fun calling => CtlPhase.noConfusion calling,
        fun _ => ⟨trace, _, _, _, [], rfl, story.called phase, by simp [Rejected], valid, rfl⟩⟩
      rw [owns_snoc, story.owns]
      simp [phase]
  | readOut phase =>
      have live : owner.phase ≠ .closed := by simp [phase]
      refine ⟨fun fd => ?_, fun _ => (story.opened live).snoc fun _ => by simp [CtlEvent.kind],
        fun _ => rfl, fun calling => CtlPhase.noConfusion calling,
        fun ready => CtlPhase.noConfusion ready⟩
      rw [owns_snoc, story.owns]
      simp [phase]
  | closed phase =>
      refine ⟨fun fd => ?_, fun live => absurd rfl live, fun _ => rfl,
        fun calling => CtlPhase.noConfusion calling, fun ready => CtlPhase.noConfusion ready⟩
      rw [owns_snoc, story.owns]
      simp only [ne_eq, not_true_eq_false, false_and, iff_false]
      rintro (opened | ⟨⟨_, rfl⟩, last⟩)
      · simp at opened
      · exact last rfl

theorem ctlRun_story (events : List CtlEvent) : Story (ctlRun events).1 (ctlRun events).2 := by
  have run : ∀ (events : List CtlEvent) (state : CtlTrace × CtlOwner), Story state.1 state.2 →
      Story (events.foldl ctlNext state).1 (events.foldl ctlNext state).2 := by
    intro events
    induction events with
    | nil => exact fun _ story => story
    | cons event events ih => exact fun _ story => ih _ (story.step event)
  refine run events ([], {}) ⟨fun fd => by simp [Owns], fun live => absurd rfl live, fun _ => rfl,
    fun calling => CtlPhase.noConfusion calling, fun ready => CtlPhase.noConfusion ready⟩

/-! ## Device calls -/

/-- A call on the device, with what the descriptor table and Root answer it. -/
inductive DeviceCall where
  | opens (readWrite callable : Bool) (alloc : Except Nat Int)
  | writes (fd : Int) (data : Option Memory) (count : Nat) (root : CtlCall → PpcAnswer)
  | reads (fd : Int) (data : Option Memory) (count : Nat)
  | closes (fd : Int)
  | dups

namespace DeviceCall

def perform (owner : CtlOwner) : DeviceCall → CtlOwner
  | .opens readWrite callable alloc => (ctlOpen owner readWrite callable alloc).1
  | .writes fd data count root => (ctlWrite owner fd data count root).1
  | .reads fd data count => (ctlRead owner fd data count).1
  | .closes fd => ctlClose owner fd
  | .dups => (ctlDup3 owner).1

/-- The session events of a call: a write Root is asked about is answered at once. -/
def events (owner : CtlOwner) : DeviceCall → List CtlEvent
  | .opens readWrite callable alloc =>
      if readWrite && callable then alloc.toOption.toList.map .opens else []
  | .writes fd data count root =>
      .writes fd data count ::
        match (runtimeCtlWrite owner fd data count).2 with
        | .error _ => []
        | .ok call => [.replies fd (root call).label (root call).words (root call).values]
  | .reads fd data count => [.reads fd data count]
  | .closes fd => [.closes fd]
  | .dups => []

end DeviceCall

/-- The session events of the calls, and the owner they leave. -/
def deviceRun (calls : List DeviceCall) : List CtlEvent × CtlOwner :=
  calls.foldl (fun state call => (state.1 ++ call.events state.2, call.perform state.2)) ([], {})

theorem deviceRun_snoc (calls : List DeviceCall) (call : DeviceCall) :
    deviceRun (calls ++ [call]) =
      ((deviceRun calls).1 ++ call.events (deviceRun calls).2,
        call.perform (deviceRun calls).2) := by
  simp only [deviceRun, List.foldl_append, List.foldl_cons, List.foldl_nil]

theorem ctlRun_append (first second : List CtlEvent) :
    ctlRun (first ++ second) = second.foldl ctlNext (ctlRun first) := List.foldl_append

/-- A device call is its session events. -/
theorem perform_events (trace : CtlTrace) (owner : CtlOwner) (call : DeviceCall) :
    ((call.events owner).foldl ctlNext (trace, owner)).2 = call.perform owner := by
  cases call with
  | opens readWrite callable alloc =>
      simp only [DeviceCall.events, DeviceCall.perform, ctlOpen]
      cases readWrite <;> cases callable <;> cases alloc <;>
        simp [ctlNext, ctlStep, Except.toOption]
      split_ifs <;> rfl
  | writes fd data count root =>
      simp only [DeviceCall.events, DeviceCall.perform, ctlWrite, List.foldl_cons, ctlNext, ctlStep]
      obtain ⟨next, outcome⟩ := runtimeCtlWrite owner fd data count
      cases outcome with
      | error status => rfl
      | ok call =>
          simp only [List.foldl_cons, List.foldl_nil, ctlNext, ctlStep]
          split_ifs <;> rfl
  | reads fd data count =>
      simp only [DeviceCall.events, DeviceCall.perform, ctlRead, List.foldl_cons, List.foldl_nil,
        ctlNext, ctlStep]
      obtain ⟨next, outcome⟩ := runtimeCtlRead owner fd data count
      cases outcome <;> rfl
  | closes fd => rfl
  | dups => rfl

/-- A write is refused and changes nothing, or makes the call. -/
theorem runtimeCtlWrite_case (owner : CtlOwner) (fd : Int) (data : Option Memory) (count : Nat) :
    (∃ status, runtimeCtlWrite owner fd data count = (owner, .error status)) ∨
      ∃ call, owner.fd = fd ∧
        runtimeCtlWrite owner fd data count = ({ owner with phase := .calling }, .ok call) := by
  unfold runtimeCtlWrite
  by_cases refused : admitEvent owner fd .eventWrite ≠ .ok
  · simp only [if_pos refused]
    exact .inl ⟨_, rfl⟩
  · simp only [if_neg refused]
    cases data with
    | none => exact .inl ⟨_, rfl⟩
    | some bytes =>
        dsimp only
        split_ifs
        · exact .inl ⟨_, rfl⟩
        · exact .inl ⟨_, rfl⟩
        · exact .inr ⟨_, (admitEvent_ok (not_not.mp refused)).2, rfl⟩

/-- Outside a call, only a write starts one and nothing makes a reply. -/
theorem ctlStep_settled (settled : owner.phase ≠ .calling) (event : CtlEvent)
    (other : event.kind ≠ .eventWrite) :
    (ctlStep owner event).1.phase ≠ .calling ∧
      ((ctlStep owner event).1.phase = .replyReady → (ctlStep owner event).1 = owner) := by
  have stepped := ctlStep_case owner event
  generalize ctlStep owner event = result at stepped ⊢
  cases stepped with
  | rejected => exact ⟨settled, fun _ => rfl⟩
  | written => exact absurd rfl other
  | unusable phase => exact absurd phase settled
  | replied phase => exact absurd phase settled
  | opened => exact ⟨by simp, by simp⟩
  | readOut => exact ⟨by simp, by simp⟩
  | closed => exact ⟨by simp, by simp⟩

theorem perform_single (settled : owner.phase ≠ .calling) (call : DeviceCall)
    (event : CtlEvent) (events : call.events owner = [event]) (other : event.kind ≠ .eventWrite) :
    (call.perform owner).phase ≠ .calling ∧
      ((call.perform owner).phase = .replyReady → call.perform owner = owner) := by
  have same := perform_events [] owner call
  rw [events] at same
  change (ctlStep owner event).1 = call.perform owner at same
  rw [← same]
  exact ctlStep_settled settled event other

theorem perform_none {call : DeviceCall} (events : call.events owner = []) :
    call.perform owner = owner := by
  rw [← perform_events [] owner call, events]
  rfl

/-- A write that made the reply ready, and what Root answered its call. -/
def WriteAnswered (owner next : CtlOwner) (call : DeviceCall) : Prop :=
  ∃ data count root ctlCall, call = .writes owner.fd data count root ∧
    (runtimeCtlWrite owner owner.fd data count).2 = .ok ctlCall ∧
    (ctlWrite owner owner.fd data count root).2 = .ok count ∧
    next.reply = resultReply (root ctlCall).label (root ctlCall).registers

/-- A write that Root answers with a result frame holds its reply, else none. -/
theorem ctlWrite_settled (settled : owner.phase ≠ .calling) (fd : Int) (data : Option Memory)
    (count : Nat) (root : CtlCall → PpcAnswer) :
    (ctlWrite owner fd data count root).1.phase ≠ .calling ∧
      ((ctlWrite owner fd data count root).1.phase = .replyReady →
        (ctlWrite owner fd data count root).1 = owner ∨
          (ctlWrite owner fd data count root).1.fd = owner.fd ∧
            WriteAnswered owner (ctlWrite owner fd data count root).1
              (.writes fd data count root)) := by
  rcases runtimeCtlWrite_case owner fd data count with ⟨status, refused⟩ | ⟨call, rfl, called⟩
  · simp only [ctlWrite, refused]
    exact ⟨settled, fun _ => .inl trivial⟩
  · have made : admitEvent { owner with phase := .calling } owner.fd .eventReply = .ok := by
      simp [admitEvent, gate]
    by_cases valid : replyFrameValid (root call).label (root call).words = true
    · have full : (root call).values = (root call).registers := by
        simp only [replyFrameValid, Bool.and_eq_true, beq_iff_eq] at valid
        simp [PpcAnswer.values, valid.1.1.1]
      have replied : ctlWrite owner owner.fd data count root =
          ({ owner with
              phase := .replyReady
              reply := resultReply (root call).label (root call).registers }, .ok count) := by
        simp only [ctlWrite, called, runtimeCtlReply, made, valid, full, ne_eq, not_true_eq_false,
          Bool.not_true, Bool.false_eq_true, if_false, if_true, resultReply]
      rw [replied]
      refine ⟨by simp, fun _ => .inr ⟨rfl, data, count, root, call, rfl, ?_, ?_, rfl⟩⟩
      · rw [called]
      · rw [replied]
    · have dropped : ctlWrite owner owner.fd data count root =
          ({ owner with phase := .idle }, .error CtlErrno.EIO) := by
        simp [ctlWrite, called, runtimeCtlReply, made, valid, ctlErrno]
      rw [dropped]
      exact ⟨by simp, by simp⟩

/-- A device call never ends in the middle of a call, and only a write makes a reply. -/
theorem perform_settled (settled : owner.phase ≠ .calling) (call : DeviceCall) :
    (call.perform owner).phase ≠ .calling ∧
      ((call.perform owner).phase = .replyReady →
        call.perform owner = owner ∨
          (call.perform owner).fd = owner.fd ∧
            WriteAnswered owner (call.perform owner) call) := by
  have unchanged (same : call.perform owner = owner) : (call.perform owner).phase ≠ .calling ∧
      ((call.perform owner).phase = .replyReady →
        call.perform owner = owner ∨
          (call.perform owner).fd = owner.fd ∧
            WriteAnswered owner (call.perform owner) call) := by
    rw [same]
    exact ⟨settled, fun _ => .inl rfl⟩
  cases call with
  | opens readWrite callable alloc =>
      by_cases asked : (readWrite && callable) = true
      · cases alloc with
        | error errno =>
            exact unchanged (perform_none (by simp [DeviceCall.events, Except.toOption]))
        | ok fd =>
            obtain ⟨left, kept⟩ := perform_single settled (.opens readWrite callable (.ok fd))
              (.opens fd) (by simp [DeviceCall.events, asked, Except.toOption])
              (by simp [CtlEvent.kind])
            exact ⟨left, fun ready => .inl (kept ready)⟩
      · exact unchanged (perform_none (by simp [DeviceCall.events, asked]))
  | writes fd data count root => exact ctlWrite_settled settled fd data count root
  | reads fd data count =>
      obtain ⟨left, kept⟩ := perform_single settled (.reads fd data count) _ rfl
        (by simp [CtlEvent.kind])
      exact ⟨left, fun ready => .inl (kept ready)⟩
  | closes fd =>
      obtain ⟨left, kept⟩ := perform_single settled (.closes fd) _ rfl (by simp [CtlEvent.kind])
      exact ⟨left, fun ready => .inl (kept ready)⟩
  | dups => exact unchanged rfl

/-- The last write of the device calls that came to a reply, and nothing since. -/
def LastAnswered (calls : List DeviceCall) : Prop :=
  ∃ before call after, calls = before ++ call :: after ∧
    (∀ later ∈ after, later.perform (deviceRun calls).2 = (deviceRun calls).2) ∧
    (deviceRun before).2.fd = (deviceRun calls).2.fd ∧
    WriteAnswered (deviceRun before).2 (deviceRun calls).2 call

structure DeviceStory (calls : List DeviceCall) : Prop where
  events : (ctlRun (deviceRun calls).1).2 = (deviceRun calls).2
  settled : (deviceRun calls).2.phase ≠ .calling
  answered : (deviceRun calls).2.phase = .replyReady → LastAnswered calls

theorem deviceRun_story (calls : List DeviceCall) : DeviceStory calls := by
  induction calls using List.reverseRecOn with
  | nil => exact ⟨rfl, by simp [deviceRun], by simp [deviceRun]⟩
  | append_singleton calls call ih =>
      obtain ⟨events, settled, answered⟩ := ih
      obtain ⟨still, made⟩ := perform_settled settled call
      have run := deviceRun_snoc calls call
      refine ⟨?_, by rw [run]; exact still, ?_⟩
      · rw [run, ctlRun_append]
        dsimp only
        rw [← events]
        exact perform_events (ctlRun (deviceRun calls).1).1 _ call
      · rw [run]
        intro ready
        rcases made ready with same | ⟨fd, written⟩
        · rw [same] at ready
          obtain ⟨before, write, after, split, kept, owned, written⟩ := answered ready
          have unchanged : (deviceRun (calls ++ [call])).2 = (deviceRun calls).2 := by
            rw [run]
            exact same
          rw [← unchanged] at owned written
          refine ⟨before, write, after ++ [call], by simp [split], ?_, owned, written⟩
          rw [unchanged]
          intro later mem
          rcases List.mem_append.mp mem with earlier | last
          · exact kept later earlier
          · rw [List.mem_singleton.mp last]
            exact same
        · refine ⟨calls, call, [], rfl, by simp, ?_, ?_⟩
          · rw [run]
            exact fd.symm
          · rw [run]
            exact written

/-! ## Sessions -/

/-- An event that is not rejected, other than an open, is the owner's. -/
theorem Story.accepted (story : Story trace owner) (event : CtlEvent)
    (accepted : (ctlStep owner event).2.1 = .ok) (inside : event.kind ≠ .eventOpen) :
    Owns trace event.fd := by
  rw [story.owns]
  have stepped := ctlStep_case owner event
  generalize ctlStep owner event = result at stepped accepted
  cases stepped with
  | rejected refused => exact absurd accepted refused
  | opened => exact absurd rfl inside
  | unusable => cases accepted
  | written phase => exact ⟨by simp [phase], rfl⟩
  | replied phase => exact ⟨by simp [phase], rfl⟩
  | readOut phase => exact ⟨by simp [phase], rfl⟩
  | closed phase => exact ⟨phase, rfl⟩

/-- A read returns the reply of the last call of its session, and the reply checks. -/
theorem Story.read (story : Story trace owner) {event : CtlEvent} {bytes : Memory}
    (read : (ctlStep owner event).2.2 = some bytes) :
    ∃ reply buffer, Answered trace event.fd reply ∧ bytes = reply.copyTo buffer ∧
      checkCtlReply bytes ctlRecordSize = .ok := by
  have stepped := ctlStep_case owner event
  generalize ctlStep owner event = result at stepped read
  cases stepped with
  | readOut phase =>
      have answered := story.answered phase
      cases read
      refine ⟨owner.reply, _, answered, rfl, ?_⟩
      obtain ⟨-, label, count, values, -, -, -, -, valid, same⟩ := answered
      rw [same]
      exact copyTo_checked values _ valid
  | _ => cases read

/-- A rejected event changes nothing, and an unusable frame ends its call. -/
theorem Story.rejected (story : Story trace owner) (event : CtlEvent) :
    ((ctlStep owner event).2.1 ≠ .ok → (ctlStep owner event).2.1 ≠ .unavailable →
        (ctlStep owner event).1 = owner) ∧
      ((ctlStep owner event).2.1 = .unavailable →
        owner.phase = .calling ∧ (ctlStep owner event).1 = { phase := .idle, fd := owner.fd }) := by
  have stepped := ctlStep_case owner event
  generalize ctlStep owner event = result at stepped ⊢
  cases stepped with
  | rejected _ available => exact ⟨fun _ _ => rfl, fun unusable => absurd unusable available⟩
  | unusable phase =>
      refine ⟨fun _ available => absurd rfl available, fun _ => ⟨phase, ?_⟩⟩
      rw [story.blank (by simp [phase])]
  | _ => exact ⟨fun refused => absurd rfl refused, fun unusable => by cases unusable⟩

theorem ctlRead_ok {data : Option Memory} {count : Nat} {next : CtlOwner} {bytes : Nat × Memory}
    (read : ctlRead owner fd data count = (next, .ok bytes)) :
    owner.fd = fd ∧ owner.phase = .replyReady ∧
      ∃ buffer, bytes = (ctlRecordSize, owner.reply.copyTo buffer) := by
  have stepped := ctlStep_case owner (.reads fd data count)
  unfold ctlRead at read
  simp only [ctlStep] at stepped
  generalize runtimeCtlRead owner fd data count = result at stepped read
  obtain ⟨left, outcome⟩ := result
  cases outcome with
  | error status => cases read
  | ok filled =>
      cases stepped with
      | readOut phase =>
          cases read
          exact ⟨rfl, phase, _, rfl⟩

/-- Sessions of the control device, over every sequence of events and every sequence of
device calls. -/
theorem ctlDevice_sessions (events : List CtlEvent) (calls : List DeviceCall) :
    let run := ctlRun events
    let device := deviceRun calls
    (∀ fd other, Owns run.1 fd → Owns run.1 other → fd = other) ∧
      (∀ event,
        let step := ctlStep run.2 event
        (step.2.1 = .ok → event.kind ≠ .eventOpen → Owns run.1 event.fd) ∧
          (step.2.1 ≠ .ok → step.2.1 ≠ .unavailable → step.1 = run.2) ∧
          (step.2.1 = .unavailable →
            run.2.phase = .calling ∧ step.1 = { phase := .idle, fd := run.2.fd }) ∧
          ∀ bytes, step.2.2 = some bytes → ∃ reply buffer, Answered run.1 event.fd reply ∧
            bytes = reply.copyTo buffer ∧ checkCtlReply bytes ctlRecordSize = .ok) ∧
      device.2 = (ctlRun device.1).2 ∧ device.2.phase ≠ .calling ∧
      ∀ fd data count next bytes, ctlRead device.2 fd data count = (next, .ok bytes) →
        device.2.fd = fd ∧ LastAnswered calls ∧
          ∃ buffer, bytes = (ctlRecordSize, device.2.reply.copyTo buffer) := by
  intro run device
  have story : Story run.1 run.2 := ctlRun_story events
  obtain ⟨same, settled, answered⟩ := deviceRun_story calls
  refine ⟨fun fd other owns also => ?_, fun event => ⟨story.accepted event,
    (story.rejected event).1, (story.rejected event).2, fun bytes => story.read⟩, same.symm,
    settled, fun fd data count next bytes read => ?_⟩
  · rw [story.owns] at owns also
    exact owns.2.symm.trans also.2
  · obtain ⟨owned, ready, buffer, filled⟩ := ctlRead_ok read
    exact ⟨owned, answered ready, buffer, filled⟩

end Chrysopolis.Beam
