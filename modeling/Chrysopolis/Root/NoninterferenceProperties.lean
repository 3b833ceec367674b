import Chrysopolis.Root.CommandProperties
import Chrysopolis.Root.MainProperties

/-! Commands are restarts in disguise. Root refines a machine that only sees who
asks for a restart, so an accepted command can be replaced by a direct restart of
its child and every other command deleted. -/

set_option autoImplicit false

namespace Chrysopolis.Root

open Chrysopolis.Abi
open Chrysopolis.Support

/-- What a decision did, without who asked. -/
abbrev DecisionOutcome := RootChild × RootRestartAction × RootSpecResult

/-- The outcomes of the decisions among the acts, in order. -/
def outcomesOf (acts : List RootAct) : List DecisionOutcome :=
  (decisionsOf acts).map fun decision => (decision.child, decision.action, decision.spec)

theorem outcomesOf_append (first second : List RootAct) :
    outcomesOf (first ++ second) = outcomesOf first ++ outcomesOf second := by
  simp [outcomesOf]

/-- The decision machine: a request or nothing. -/
def DecisionState.decide (config : Config) (state : DecisionState) (asked : Option RootChild)
    (spec : SpecPageRead) (read : UInt64) : DecisionState × List DecisionOutcome :=
  match asked with
  | none => (state, [])
  | some child =>
      (state.request config child spec read,
        [(child, (state.plan config child spec read).action, (state.consumed config spec).2)])

/-- Root refines the decision machine on the children its callbacks ask for. -/
theorem rootStep_refines_decide (config : Config) (state : RootState) (input : RootInput) :
    ((rootStep config state input).1.decisions, outcomesOf (rootStep config state input).2) =
      state.decisions.decide config ((requestOf config state input).map Prod.fst) input.spec
        input.reads.observe := by
  cases rootStep_case config state input with
  | requested child request asked effect =>
      simp [asked, DecisionState.decide, effect.decisions, outcomesOf, effect.decided]
  | injected child unasked injection live decisions called decided =>
      simp [unasked, DecisionState.decide, decisions, outcomesOf, decided]
  | quiet unasked uninjected decisions silent =>
      simp [unasked, DecisionState.decide, decisions, outcomesOf, silent.2]

/-- The debug-restart channel of a driver. -/
def directChannel (child : RootChild) : UInt32 :=
  rootChannels.debugFirst + UInt32.ofNat child.val

/-- Every child a command may address has a direct restart. -/
theorem directChannel_routes : ∀ child : RootChild, maskBit rootDriverChildren child.val = true →
    rootNotifyRoute (directChannel child) rootChannels =
      .debugRestart (UInt32.ofNat child.val) ∧
    rootClassChild (UInt32.ofNat child.val) = child := by
  decide

/-- A direct restart in place of an accepted command, at the same moment; every
other command is deleted. -/
def substitute (config : Config) (state : RootState) (input : RootInput) : List RootInput :=
  match input.callback with
  | .protectedCall .. =>
      match acceptedRestart config state input with
      | some child => [{ input with callback := .notified (directChannel child) }]
      | none => []
  | _ => [input]

/-- The substitution along a run. -/
def directRun (config : Config) : RootState → List RootInput → List RootInput
  | _, [] => []
  | state, input :: inputs =>
      substitute config state input ++ directRun config (rootStep config state input).1 inputs

/-- An accepted command addresses a driver. -/
theorem acceptedRestart_driver {config : Config} {state : RootState} {input : RootInput}
    {child : RootChild} (accepted : acceptedRestart config state input = some child) :
    maskBit rootDriverChildren child.val = true := by
  cases callback : input.callback with
  | fault => simp [acceptedRestart, callback] at accepted
  | notified => simp [acceptedRestart, callback] at accepted
  | protectedCall channel label count args =>
      simp only [acceptedRestart, callback] at accepted
      split_ifs at accepted
      exact (rootCommandDecide_accepted accepted).2.1.driver

theorem substitute_step (config : Config) {state other : RootState} (input : RootInput)
    (same : other.decisions = state.decisions) :
    ((rootMachine config).after other (substitute config state input)).decisions =
        (rootStep config state input).1.decisions ∧
      outcomesOf ((rootMachine config).trace other (substitute config state input)) =
        outcomesOf (rootStep config state input).2 := by
  -- One substituted callback asks for the same child as the original one.
  have replaced : ∀ direct : RootInput, direct.spec = input.spec → direct.reads = input.reads →
      (requestOf config other direct).map Prod.fst = (requestOf config state input).map Prod.fst →
      ((rootMachine config).after other [direct]).decisions =
          (rootStep config state input).1.decisions ∧
        outcomesOf ((rootMachine config).trace other [direct]) =
          outcomesOf (rootStep config state input).2 := by
    intro direct spec reads asks
    have original := rootStep_refines_decide config state input
    have changed := rootStep_refines_decide config other direct
    rw [same, spec, reads, asks, ← original] at changed
    obtain ⟨decisions, outcomes⟩ := Prod.mk.inj changed
    refine ⟨decisions, ?_⟩
    rw [Transducer.trace_cons, Transducer.trace_nil, List.append_nil]
    exact outcomes
  cases callback : input.callback with
  | fault =>
      simp only [substitute, callback]
      exact replaced input rfl rfl (by simp [requestOf, callback])
  | notified =>
      simp only [substitute, callback]
      exact replaced input rfl rfl (by simp [requestOf, callback])
  | protectedCall =>
      simp only [substitute, callback]
      cases accepted : acceptedRestart config state input with
      | some child =>
          obtain ⟨routed, driver⟩ := directChannel_routes child (acceptedRestart_driver accepted)
          exact replaced _ rfl rfl (by simp [requestOf, callback, accepted, routed, driver])
      | none =>
          have original := rootStep_refines_decide config state input
          simp only [requestOf, callback, accepted, Option.map_none, DecisionState.decide,
            Prod.mk.injEq] at original
          exact ⟨same.trans original.1.symm, original.2.symm⟩

theorem directRun_same (config : Config) (state : RootState) {other : RootState}
    (inputs : List RootInput)
    (same : other.decisions = state.decisions) :
    ((rootMachine config).after other (directRun config state inputs)).decisions =
        ((rootMachine config).after state inputs).decisions ∧
      outcomesOf ((rootMachine config).trace other (directRun config state inputs)) =
        outcomesOf ((rootMachine config).trace state inputs) := by
  induction inputs generalizing state other with
  | nil => exact ⟨same, rfl⟩
  | cons input inputs ih =>
      obtain ⟨decisions, outcomes⟩ := substitute_step config input same
      obtain ⟨after, trace⟩ := ih _ decisions
      constructor
      · rw [directRun, Transducer.after_append]
        exact after
      · rw [directRun, Transducer.trace_append, outcomesOf_append, outcomes, trace,
          Transducer.trace_cons, outcomesOf_append]
        rfl

/-- Over every run, replacing accepted commands by direct restarts and deleting
the others changes no decision, no record and not the retained policy. -/
theorem commands_are_restarts (config : Config) (boot : Boot) (inputs : List RootInput) :
    outcomesOf (rootTrace config boot (directRun config (rootInit config boot).1 inputs)) =
        outcomesOf (rootTrace config boot inputs) ∧
      (rootAfter config boot (directRun config (rootInit config boot).1 inputs)).childRecords =
        (rootAfter config boot inputs).childRecords ∧
      (rootAfter config boot
          (directRun config (rootInit config boot).1 inputs)).specState.retained =
        (rootAfter config boot inputs).specState.retained := by
  obtain ⟨decisions, outcomes⟩ :=
    directRun_same config (rootInit config boot).1 inputs rfl
  refine ⟨?_, ?_, ?_⟩
  · rw [rootTrace, rootTrace, outcomesOf_append, outcomesOf_append, outcomes]
  · exact congrArg DecisionState.childRecords decisions
  · exact congrArg (fun reached => reached.specState.retained) decisions

end Chrysopolis.Root
