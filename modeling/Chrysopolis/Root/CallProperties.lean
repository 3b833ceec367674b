import Chrysopolis.Root.CommandProperties
import Chrysopolis.Root.MainProperties

/-! What a protected call does as a whole. An accepted command performs one
restart, publishes it, remembers its reply and answers with it; any other call
changes the command state alone. -/

set_option autoImplicit false

namespace Chrysopolis.Root

open Chrysopolis.Abi
open Chrysopolis.Support

theorem rootCommandFrame_ok {state : RootCommandState} {channel ppChannel : UInt32}
    {label count : UInt64}
    (framed : (rootCommandFrame state channel ppChannel label count).2 = .ok) :
    (rootCommandFrame state channel ppChannel label count).1 = state := by
  simp only [rootCommandFrame] at framed ⊢
  split_ifs at framed ⊢ <;> simp_all

/-- The frame check reads the frame alone. -/
theorem rootCommandFrame_result (left right : RootCommandState) (channel ppChannel : UInt32)
    (label count : UInt64) :
    (rootCommandFrame left channel ppChannel label count).2 =
      (rootCommandFrame right channel ppChannel label count).2 := by
  simp only [rootCommandFrame]
  split_ifs <;> rfl

/-- The decision of an accepted command. -/
def acceptedDecision (label : UInt64) (args : CommandWords) (child : RootChild) :
    RootCommandDecision :=
  { result := .ok, action := .restart child, opcode := label.toUInt16, args }

/-- How an accepted command is carried out. -/
structure AcceptedCall (config : Config) (state : RootState) (channel : UInt32)
    (label count : UInt64) (args : CommandWords) (spec : SpecPageRead) (reads : Reads)
    (child : RootChild) (command : RootCommandState) : Prop where
  framed : (rootCommandFrame state.commandState channel controlPpChannelRoot label count).2 = .ok
  kind : (rowOf label.toUInt16.toUInt64).kind = .preconditioned
  wellFormed : malformed (rowOf label.toUInt16.toUInt64) args = false
  preconditions :
    RestartAccepted state.commandState (rootCommandView config state) label.toUInt16 args child
  performed : protectedCall config state channel label count args spec reads =
    performCommand config { state with commandState := command }
      (acceptedDecision label args child) spec reads

theorem acceptedRestart_call {config : Config} {state : RootState} {channel : UInt32}
    {label count : UInt64} {args : CommandWords} {spec : SpecPageRead} {reads : Reads}
    {child : RootChild}
    (accepted : acceptedRestart config state
      ⟨.protectedCall channel label count args, spec, reads⟩ = some child) :
    ∃ command, AcceptedCall config state channel label count args spec reads child command := by
  simp only [acceptedRestart] at accepted
  split_ifs at accepted with refused
  have framed := not_not.mp refused
  rw [rootCommandFrame_ok framed] at accepted
  obtain ⟨kind, preconditions, decision, _⟩ := rootCommandDecide_accepted accepted
  refine ⟨(decideCommand config state state.commandState label args reads.entry).1, framed, kind,
    ?_, preconditions, ?_⟩
  · by_contra bad
    simp only [decideCommand, rootCommandDecide, Bool.not_eq_false] at accepted bad
    rw [if_pos bad] at accepted
    simp [RootCommandAction.target] at accepted
  · simp only [protectedCall, if_neg refused, rootCommandFrame_ok framed]
    rw [show (decideCommand config state state.commandState label args reads.entry).2 =
      acceptedDecision label args child from decision]

/-- A restart of a live child is never ignored. -/
theorem rootRestartChild_acts (config : Config) {state : RootState} {child : RootChild}
    (request : Request) (spec : SpecPageRead) (reads : Reads)
    (live : (state.childRecords child).state ≠ .gone) :
    (rootRestartChild config state child request spec reads).action ≠ .ignoreGone := by
  rw [(rootRestartChild_effect config state child request spec reads).action]
  exact fun ignored => live (rootRestartPlan_ignored.mp ignored)

/-- A performed command publishes, remembers its reply and answers with it. -/
theorem performCommand_accepted (config : Config) (state : RootState) (label : UInt64)
    (args : CommandWords) {child : RootChild} (spec : SpecPageRead) (reads : Reads)
    (live : (state.childRecords child).state ≠ .gone) :
    let restarted := rootRestartChild config state child .ctlRestart spec reads
    let control := controlEvent state child .restartChild args.w2 reads.control
    let published := rootPublish restarted.state child
      (requestEvents restarted child [control] reads) reads.publish
    let answered :=
      restartReply (acceptedDecision label args child) child restarted.action published.1
    performCommand config state (acceptedDecision label args child) spec reads =
      ({ published.1 with commandState := rootCommandComplete published.1.commandState answered },
        restarted.acts ++ published.2 ++ [.reply .ok answered.values]) := by
  intro restarted control published answered
  have acted : ¬ (rootRestartChild config state child .ctlRestart spec reads).action =
      .ignoreGone := rootRestartChild_acts config .ctlRestart spec reads live
  simp only [performCommand, acceptedDecision, rootCommandRestartChild, if_neg acted]
  rfl

/-- A call that is not accepted changes the command state alone. -/
theorem protectedCall_unaccepted_state {config : Config} {state : RootState} {channel : UInt32}
    {label count : UInt64} {args : CommandWords} {spec : SpecPageRead} {reads : Reads}
    (refused : acceptedRestart config state
      ⟨.protectedCall channel label count args, spec, reads⟩ = none) :
    ∃ command, (protectedCall config state channel label count args spec reads).1 =
      { state with commandState := command } := by
  simp only [acceptedRestart] at refused
  split_ifs at refused with framed
  · simp only [protectedCall, if_pos framed]
    exact ⟨_, rfl⟩
  · simp only [protectedCall, if_neg framed, performCommand_none config _ spec reads refused]
    exact ⟨_, rfl⟩

end Chrysopolis.Root
