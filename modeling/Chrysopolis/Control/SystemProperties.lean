import Chrysopolis.Control.System
import Chrysopolis.Beam.CtlDeviceProperties
import Chrysopolis.Root.AtMostOnceProperties
import Chrysopolis.Root.ModelProperties

/-! The control path end to end: every command written is answered, every reply read is Root's
answer to the command last written in its session, and a command whose reply is lost, to a close
or to a restart of BEAM, is executed once and answered again. -/

set_option autoImplicit false

namespace Chrysopolis.Control

open Chrysopolis.Abi
open Chrysopolis.Support
open Chrysopolis.Root
open Chrysopolis.Beam

/-! ### Root's replies -/

theorem decideOpcode_result (state : RootCommandState) (view : RootCommandView)
    (kind : OpcodeClass) (decision : RootCommandDecision) :
    (decideOpcode state view kind decision).2.result ≠ .unset ∧
      (kind = .preconditioned → (decideOpcode state view kind decision).2.action = .none →
        (decideOpcode state view kind decision).2.result ≠ .ok) := by
  cases kind with
  | preconditioned =>
      simp only [decideOpcode]
      cases decideRestart_case state view decision with
      | repeated values same result =>
          rw [result]
          exact ⟨by simp, fun _ _ => by simp⟩
      | refused result values unrepeated negative answered =>
          rw [answered]
          rcases negative with rfl | rfl | rfl <;> exact ⟨by simp, fun _ _ => by simp⟩
      | accepted child preconditions answered =>
          rw [answered]
          exact ⟨by simp, fun _ acted => by cases acted⟩
  | handshake =>
      refine ⟨?_, by simp⟩
      simp only [decideOpcode]
      split_ifs <;> simp
  | barrier =>
      refine ⟨?_, by simp⟩
      simp only [decideOpcode]
      split_ifs <;> simp
  | slot | invalid => exact ⟨by simp [decideOpcode], by simp⟩

theorem decideOpcode_fence (state : RootCommandState) (view : RootCommandView)
    (kind : OpcodeClass) (decision : RootCommandDecision) :
    (decideOpcode state view kind decision).1.fence = state.fence := by
  cases kind with
  | barrier =>
      simp only [decideOpcode]
      split_ifs <;> exact tally_fence ..
  | handshake | preconditioned | slot | invalid => exact tally_fence ..

theorem rootCommandDecide_fence (state : RootCommandState) (view : RootCommandView)
    (opcode : UInt16) (args : CommandWords) (now : UInt64) (nowValid : Bool) :
    (rootCommandDecide state view opcode args now nowValid).1.fence = state.fence := by
  simp only [rootCommandDecide]
  split_ifs
  · exact tally_fence ..
  · exact (tally_fence ..).trans (refillStep_fence ..)
  · exact (decideOpcode_fence ..).trans (refillStep_fence ..)

/-- A decision without an action is a result, and not `ok` for a restart. -/
theorem rootCommandDecide_result {state : RootCommandState} {view : RootCommandView}
    {opcode : UInt16} {args : CommandWords} {now : UInt64} {nowValid : Bool}
    (idle : (rootCommandDecide state view opcode args now nowValid).2.action.target = none) :
    (rootCommandDecide state view opcode args now nowValid).2.result ≠ .unset ∧
      ((rowOf opcode.toUInt64).kind = .preconditioned →
        (rootCommandDecide state view opcode args now nowValid).2.result ≠ .ok) := by
  simp only [rootCommandDecide] at idle ⊢
  split_ifs at idle ⊢
  · exact ⟨by simp, fun _ => by simp⟩
  · exact ⟨by simp, fun _ => by simp⟩
  · have none : ∀ action : RootCommandAction, action.target = none → action = .none := by
      rintro (_ | child) unset
      · rfl
      · cases unset
    have decided := decideOpcode_result
      { refillStep state now nowValid with
        tokens := (refillStep state now nowValid).tokens - 1 } view
      (rowOf opcode.toUInt64).kind { result := .unset, opcode, args }
    exact ⟨decided.1, fun kind => decided.2 kind (none _ idle)⟩

/-- The opcode is RESTART_CHILD's. -/
def CtlCall.restarts (call : CtlCall) : Bool :=
  (rowOf call.opcode.toUInt64).kind == .preconditioned

/-- One case per way Root can take a call of the device. -/
inductive CallCase (config : Config) (state : RootState) (call : CtlCall) (spec : SpecPageRead)
    (reads : Reads) (result : RootState × List RootAct) : Prop where
  | executed (values : CommandWords) (restarts : CtlCall.restarts call = true)
      (wellFormed : malformed (rowOf call.opcode.toUInt64) (wordsOf call.args) = false)
      (words : executedWords config state (callInput call spec reads) =
        some (wordsOf call.args))
      (reply : result.2.getLast? = some (.reply .ok values))
      (fence : result.1.commandState.fence =
        .completed call.opcode (wordsOf call.args) values)
  | answered (reply : CtlResult) (values : CommandWords) (answer : reply ≠ .unset)
      (refused : CtlCall.restarts call = true → reply ≠ .ok)
      (words : executedWords config state (callInput call spec reads) = none)
      (acts : result.2 = [.reply reply values])
      (fence : result.1.commandState.fence = state.commandState.fence)

theorem rootCommandFrame_fence (state : RootCommandState) (channel ppChannel : UInt32)
    (label count : UInt64) :
    (rootCommandFrame state channel ppChannel label count).1.fence = state.fence := by
  simp only [rootCommandFrame]
  split_ifs <;> rfl

theorem rootCommandFrame_refused {state : RootCommandState} {channel ppChannel : UInt32}
    {label count : UInt64}
    (refused : (rootCommandFrame state channel ppChannel label count).2 ≠ .ok) :
    (rootCommandFrame state channel ppChannel label count).2 ≠ .unset := by
  simp only [rootCommandFrame] at refused ⊢
  split_ifs at refused ⊢ <;> simp_all

theorem toUInt64_toUInt16 (word : UInt16) : word.toUInt64.toUInt16 = word := by
  simp

theorem executedWords_callInput (config : Config) (state : RootState) (call : CtlCall)
    (spec : SpecPageRead) (reads : Reads) :
    executedWords config state (callInput call spec reads) =
      if decisionsOf (rootStep config state (callInput call spec reads)).2 = [] then none
      else some (wordsOf call.args) := rfl

/-- `root_command_frame` of a call of the device. -/
def framedCall (state : RootState) (call : CtlCall) : RootCommandState × CtlResult :=
  rootCommandFrame state.commandState controlPpChannelRoot controlPpChannelRoot
    call.opcode.toUInt64 (.ofNat runtimeCtlWords)

/-- `root_command_decide` of a framed call of the device. -/
def decidedCall (config : Config) (state : RootState) (call : CtlCall) (reads : Reads) :
    RootCommandState × RootCommandDecision :=
  decideCommand config state (framedCall state call).1 call.opcode.toUInt64 (wordsOf call.args)
    reads.entry

theorem rootStep_unframed {config : Config} {state : RootState} {call : CtlCall}
    {spec : SpecPageRead} {reads : Reads} (refused : (framedCall state call).2 ≠ .ok) :
    rootStep config state (callInput call spec reads) =
      ({ state with commandState := (framedCall state call).1 },
        [.reply (framedCall state call).2 {}]) :=
  if_pos refused

theorem rootStep_framed {config : Config} {state : RootState} {call : CtlCall}
    {spec : SpecPageRead} {reads : Reads} (framed : ¬ (framedCall state call).2 ≠ .ok) :
    rootStep config state (callInput call spec reads) =
      performCommand config
        { state with commandState := (decidedCall config state call reads).1 }
        (decidedCall config state call reads).2 spec reads :=
  if_neg framed

theorem acceptedRestart_callInput (config : Config) (state : RootState) (call : CtlCall)
    (spec : SpecPageRead) (reads : Reads) :
    acceptedRestart config state (callInput call spec reads) =
      if (framedCall state call).2 ≠ .ok then none
      else (decidedCall config state call reads).2.action.target := rfl

theorem callCase (config : Config) (state : RootState) (call : CtlCall) (spec : SpecPageRead)
    (reads : Reads) :
    CallCase config state call spec reads
      (rootStep config state (callInput call spec reads)) := by
  cases accepted : acceptedRestart config state (callInput call spec reads) with
  | some child =>
      obtain ⟨command, called⟩ := acceptedRestart_call accepted
      have step : rootStep config state (callInput call spec reads) =
          performCommand config { state with commandState := command }
            (acceptedDecision call.opcode.toUInt64 (wordsOf call.args) child) spec reads :=
        called.performed
      have kind := called.kind
      have wellFormed := called.wellFormed
      rw [toUInt64_toUInt16] at kind wellFormed
      have performed := performCommand_accepted config { state with commandState := command }
        call.opcode.toUInt64 (wordsOf call.args) spec reads called.preconditions.live
      refine .executed _ (by simpa [CtlCall.restarts] using kind) wellFormed ?_
        (by rw [step, performed]; exact List.getLast?_concat ..) ?_
      · have decided := (protectedCall_accepted accepted).decided
        rw [executedWords_callInput, if_neg]
        exact fun idle => List.cons_ne_nil _ _ (decided.symm.trans idle)
      · rw [step, performed]
        simp only [rootCommandComplete, restartReply, acceptedDecision, toUInt64_toUInt16]
  | none =>
      have silent := (protectedCall_unaccepted accepted).2.2
      have words : executedWords config state (callInput call spec reads) = none := by
        rw [executedWords_callInput]
        exact if_pos silent
      rw [acceptedRestart_callInput] at accepted
      split_ifs at accepted with framed
      · exact .answered (framedCall state call).2 {} (rootCommandFrame_refused framed)
          (fun _ => framed) words
          (by rw [rootStep_unframed framed])
          (by rw [rootStep_unframed framed]; exact rootCommandFrame_fence ..)
      · have performed := (rootStep_framed framed).trans
          (performCommand_none config _ spec reads accepted)
        have decided := rootCommandDecide_result accepted
        rw [toUInt64_toUInt16] at decided
        refine .answered (decidedCall config state call reads).2.result
          (decidedCall config state call reads).2.values ?_ (fun restarts => ?_) words
          (by rw [performed]) (by
            rw [performed]
            exact (rootCommandDecide_fence ..).trans (rootCommandFrame_fence ..))
        · simp only [decidedCall, decideCommand, toUInt64_toUInt16]
          exact decided.1
        · simp only [decidedCall, decideCommand, toUInt64_toUInt16]
          exact decided.2 (by simpa [CtlCall.restarts] using restarts)

theorem wordsOf_registers (values : CommandWords) :
    wordsOf #v[values.w0, values.w1, values.w2, values.w3] = values := rfl

/-- The label of a reply names its result. -/
theorem label_ok {result : CtlResult} :
    UInt64.ofNat result.tag = .ofNat CtlResult.ok.tag ↔ result = .ok := by
  cases result <;> decide

/-- Root's answer to a call of the device is a result frame. -/
theorem answer_valid (config : Config) (state : RootState) (call : CtlCall)
    (spec : SpecPageRead) (reads : Reads) :
    replyFrameValid
      (answerOf (rootStep config state (callInput call spec reads)).2).label
      (answerOf (rootStep config state (callInput call spec reads)).2).words = true := by
  have frame : ∀ result : CtlResult, result ≠ .unset →
      replyFrameValid (.ofNat result.tag) (.ofNat rootCommandWords) = true := by
    intro result set
    cases result <;> first | exact absurd rfl set | decide
  cases callCase config state call spec reads with
  | executed values restarts wellFormed words reply fence =>
      simp only [answerOf, reply]
      exact frame .ok (by simp)
  | answered reply values answer refused words acts fence =>
      simp only [answerOf, acts, List.getLast?_singleton]
      exact frame reply answer

/-! ### What the log of a run says -/

/-- The descriptor that has the device open. -/
def sessionOf : List Event → Option Int
  | .opened fd :: _ => some fd
  | .closed _ :: _ | .restarted :: _ => none
  | .called _ _ _ :: rest | .read _ _ :: rest => sessionOf rest
  | [] => none

/-- Root's answer to the command last written, until it is read. -/
def unreadOf : List Event → Option PpcAnswer
  | .called _ _ answer :: _ => some answer
  | _ => none

/-- A reply record carries an answer. -/
def Carries (bytes : Memory) (answer : PpcAnswer) : Prop :=
  checkCtlReply bytes ctlRecordSize = .ok ∧
    ctlLayout.read bytes .kind = answer.label.toNat ∧
    ∀ index : Fin 4, ctlLayout.read bytes (.word index) = (answer.registers.get index).toNat

/-- The device has one owner at a time, each command written is answered with a result, and each
read takes Root's answer to the command its owner last wrote, once. -/
def Lawful : List Event → Prop
  | [] => True
  | .opened _ :: rest => sessionOf rest = none ∧ Lawful rest
  | .called fd _ answer :: rest =>
      sessionOf rest = some fd ∧ unreadOf rest = none ∧
        replyFrameValid answer.label answer.words = true ∧ Lawful rest
  | .read fd bytes :: rest =>
      sessionOf rest = some fd ∧ (∃ answer, unreadOf rest = some answer ∧ Carries bytes answer) ∧
        Lawful rest
  | .closed fd :: rest => sessionOf rest = some fd ∧ Lawful rest
  | .restarted :: rest => Lawful rest

/-- The owner is where the log says. -/
structure Sound (owner : CtlOwner) (log : List Event) : Prop where
  lawful : Lawful log
  session : sessionOf log = if owner.phase = .closed then none else some owner.fd
  settled : owner.phase ≠ .calling
  unread : owner.phase ≠ .replyReady → unreadOf log = none
  ready : owner.phase = .replyReady → ∃ answer, unreadOf log = some answer ∧
    replyFrameValid answer.label answer.words = true ∧
    owner.reply = resultReply answer.label answer.registers

theorem Carries.copyTo {answer : PpcAnswer}
    (valid : replyFrameValid answer.label answer.words = true) (buffer : Memory) :
    Carries ((resultReply answer.label answer.registers).copyTo buffer) answer := by
  have read := copyTo_read (resultReply answer.label answer.registers) buffer
  refine ⟨copyTo_checked answer.registers buffer valid, (read .kind).trans ?_, fun index =>
    (read (.word index)).trans ?_⟩
  · simp only [replyFrameValid, Bool.and_eq_true, decide_eq_true_eq] at valid
    have narrow := valid.1.2
    rw [UInt64.le_iff_toNat_le] at narrow
    change answer.label.toNat ≤ 65535 at narrow
    change answer.label.toUInt16.toNat % 65536 = answer.label.toNat
    rw [UInt64.toNat_toUInt16]
    omega
  · exact Nat.mod_eq_of_lt (answer.registers.get index).toNat_lt

variable {config : Config} {state next : State} {log events : List Event}

theorem Sound.boot : Sound {} [] where
  lawful := trivial
  session := rfl
  settled := by rintro ⟨⟩
  unread := fun _ => rfl
  ready := by rintro ⟨⟩

/-- An owner that is not waiting for its answer to be read. -/
theorem Sound.answered {owner : CtlOwner} (lawful : Lawful log)
    (held : sessionOf log = if owner.phase = .closed then none else some owner.fd)
    (settled : owner.phase ≠ .calling) (unanswered : owner.phase ≠ .replyReady)
    (unread : unreadOf log = none) : Sound owner log :=
  ⟨lawful, held, settled, fun _ => unread, fun ready => absurd ready unanswered⟩

theorem Sound.opens (sound : Sound state.owner log) (readWrite callable : Bool)
    (alloc : Except Nat Int) :
    Sound (step config state (.opens readWrite callable alloc)).1.owner
      ((step config state (.opens readWrite callable alloc)).2 ++ log) := by
  simp only [step, ctlOpen]
  cases readWrite with
  | false => exact sound
  | true =>
      cases callable with
      | false => exact sound
      | true =>
          cases alloc with
          | error errno => exact sound
          | ok fd =>
              by_cases refused : admitEvent state.owner fd .eventOpen ≠ .ok
              · simp only [runtimeCtlOpen, if_pos refused, Bool.not_true, Bool.false_eq_true,
                  if_false]
                exact sound
              · have closed := admitEvent_ok (not_not.mp refused)
                simp only [runtimeCtlOpen, if_neg refused, Bool.not_true, Bool.false_eq_true,
                  if_false, ne_eq, not_true_eq_false]
                have vacant : sessionOf log = none := sound.session.trans (if_pos closed)
                exact .answered ⟨vacant, sound.lawful⟩ rfl (by simp) (by simp) rfl

theorem Sound.reads (sound : Sound state.owner log) (fd : Int) (data : Option Memory)
    (count : Nat) :
    Sound (step config state (.reads fd data count)).1.owner
      ((step config state (.reads fd data count)).2 ++ log) := by
  simp only [step, ctlRead, runtimeCtlRead]
  by_cases refused : admitEvent state.owner fd .eventRead ≠ .ok
  · simp only [if_pos refused]
    exact sound
  obtain ⟨ready, own⟩ := admitEvent_ok (not_not.mp refused)
  simp only [if_neg refused]
  cases data with
  | none => exact sound
  | some buffer =>
      by_cases short : count ≠ ctlRecordSize
      · simp only [if_pos short]
        exact sound
      · simp only [if_neg short]
        obtain ⟨answer, unread, valid, reply⟩ := sound.ready ready
        have held : sessionOf log = some fd := by
          rw [sound.session, ready, own]
          simp
        refine .answered ⟨held, ⟨answer, unread, ?_⟩, sound.lawful⟩ ?_ (by simp) (by simp) rfl
        · rw [reply]
          exact .copyTo valid buffer
        · simp only [List.singleton_append, sessionOf, held, own]
          simp

theorem Sound.closes (sound : Sound state.owner log) (fd : Int) :
    Sound (step config state (.closes fd)).1.owner
      ((step config state (.closes fd)).2 ++ log) := by
  simp only [step, ctlClose, runtimeCtlClose]
  by_cases refused : admitEvent state.owner fd .eventClose ≠ .ok
  · simp only [if_pos refused, if_neg refused]
    exact sound
  · obtain ⟨opened, own⟩ := admitEvent_ok (not_not.mp refused)
    simp only [if_neg refused, if_true]
    have held : sessionOf log = some fd := by
      rw [sound.session, if_neg opened, own]
    exact .answered ⟨held, sound.lawful⟩ rfl (by simp) (by simp) rfl

theorem runtimeCtlWrite_ok {owner : CtlOwner} {fd : Int} {data : Option Memory} {count : Nat}
    {call : CtlCall} (called : (runtimeCtlWrite owner fd data count).2 = .ok call) :
    owner.phase = .idle ∧ owner.fd = fd := by
  unfold runtimeCtlWrite at called
  by_cases refused : admitEvent owner fd .eventWrite ≠ .ok
  · simp [if_pos refused] at called
  · exact admitEvent_ok (not_not.mp refused)

/-- A write that calls Root succeeds, and leaves the answer to be read. -/
theorem ctlWrite_answered {owner : CtlOwner} {fd : Int} {data : Option Memory} {count : Nat}
    {call : CtlCall} {answer : PpcAnswer}
    (called : (runtimeCtlWrite owner fd data count).2 = .ok call)
    (valid : replyFrameValid answer.label answer.words = true) :
    ctlWrite owner fd data count (fun _ => answer) =
      ({ owner with
          phase := .replyReady
          reply := resultReply answer.label answer.registers }, .ok count) := by
  obtain ⟨idle, rfl⟩ := runtimeCtlWrite_ok called
  have full : answer.values = answer.registers := by
    simp only [replyFrameValid, Bool.and_eq_true, beq_iff_eq] at valid
    simp [PpcAnswer.values, valid.1.1.1]
  have made : admitEvent { owner with phase := .calling } owner.fd .eventReply = .ok := by
    simp [admitEvent, gate]
  rcases runtimeCtlWrite_case owner owner.fd data count with ⟨status, refused⟩ | ⟨_, _, calling⟩
  · rw [refused] at called
    cases called
  · simp only [ctlWrite, calling, runtimeCtlReply, made, valid, full, ne_eq, not_true_eq_false,
      Bool.not_true, Bool.false_eq_true, if_false, if_true, resultReply]

/-- A write is refused, or calls Root and holds its answer. -/
theorem Sound.writes (sound : Sound state.owner log) (fd : Int) (data : Option Memory)
    (count : Nat) (spec : SpecPageRead) (reads : Reads) :
    Sound (step config state (.writes fd data count spec reads)).1.owner
      ((step config state (.writes fd data count spec reads)).2 ++ log) := by
  cases called : (runtimeCtlWrite state.owner fd data count).2 with
  | error status =>
      rcases runtimeCtlWrite_case state.owner fd data count with
        ⟨_, refused⟩ | ⟨_, _, calling⟩
      · simp only [step, refused]
        exact sound
      · rw [calling] at called
        cases called
  | ok call =>
      have valid := answer_valid config state.root call spec reads
      obtain ⟨idle, own⟩ := runtimeCtlWrite_ok called
      have held : sessionOf log = some fd := by
        rw [sound.session, idle, own]
        simp
      simp only [step, called]
      rw [ctlWrite_answered called valid]
      exact
        { lawful := ⟨held, sound.unread (by simp [idle]), valid, sound.lawful⟩
          session := by
            simp only [List.singleton_append, sessionOf, held, own]
            simp
          settled := by simp
          unread := fun unready => absurd rfl unready
          ready := fun _ => ⟨_, rfl, valid, rfl⟩ }

theorem Sound.root (sound : Sound state.owner log) (input : RootInput) :
    Sound (step config state (.root input)).1.owner
      ((step config state (.root input)).2 ++ log) := by
  simp only [step]
  split
  · exact sound
  · split_ifs
    · exact .answered sound.lawful rfl (by simp) (by simp) rfl
    · exact sound

theorem Sound.step (sound : Sound state.owner log) (action : Action) :
    Sound (step config state action).1.owner ((step config state action).2 ++ log) := by
  cases action with
  | root input => exact sound.root input
  | opens readWrite callable alloc => exact sound.opens readWrite callable alloc
  | writes fd data count spec reads => exact sound.writes fd data count spec reads
  | reads fd data count => exact sound.reads fd data count
  | closes fd => exact sound.closes fd

theorem Sound.run {actions : List Action} (sound : Sound state.owner log) :
    Sound (run config (state, log) actions).1.owner (run config (state, log) actions).2 := by
  induction actions generalizing state log with
  | nil => exact sound
  | cons action rest induct => exact induct (sound.step action)

end Chrysopolis.Control
