import Chrysopolis.Root.Decisions
import Chrysopolis.Root.RestartPlanProperties

/-! What each function of Root's composition changes and which kernel calls it
makes. A callback is quiet, injects a fault, or passes once through the restart
path, and the restart path acts on the decision half of the state alone. -/

set_option autoImplicit false

namespace Chrysopolis.Root

open Chrysopolis.Abi
open Chrysopolis.Support

@[simp] theorem calls_nil : calls [] = [] := rfl

@[simp] theorem calls_append (first second : List RootAct) :
    calls (first ++ second) = calls first ++ calls second := List.filter_append ..

theorem mem_calls {act : RootAct} {acts : List RootAct} :
    act ∈ calls acts ↔ act ∈ acts ∧ act.isCall = true := List.mem_filter

@[simp] theorem decisionsOf_nil : decisionsOf [] = [] := rfl

@[simp] theorem decisionsOf_append (first second : List RootAct) :
    decisionsOf (first ++ second) = decisionsOf first ++ decisionsOf second :=
  List.filterMap_append ..

/-- Acts that neither call the kernel nor decide. -/
def Silent (acts : List RootAct) : Prop := calls acts = [] ∧ decisionsOf acts = []

theorem Silent.append {first second : List RootAct} (left : Silent first)
    (right : Silent second) : Silent (first ++ second) :=
  ⟨by rw [calls_append, left.1, right.1]; rfl, by rw [decisionsOf_append, left.2, right.2]; rfl⟩

/-! ### Functions that only log and publish -/

theorem reportStatus_silent (state : RootState) : Silent (reportStatus state).2 := by
  simp only [reportStatus]
  split_ifs <;> exact ⟨rfl, rfl⟩

theorem rootPublish_silent (state : RootState) (child : RootChild) (events : List RootEvent)
    (read : UInt64) : Silent (rootPublish state child events read).2 := by
  simp only [rootPublish]
  split_ifs with publishing done
  · exact Silent.append ⟨rfl, rfl⟩ (reportStatus_silent _)
  · exact reportStatus_silent _
  · exact reportStatus_silent _

theorem rootSpecRefresh_silent (config : Config) (state : RootState) (spec : SpecPageRead) :
    Silent (rootSpecRefresh config state spec).2.2 := by
  simp only [rootSpecRefresh]
  split_ifs <;> exact ⟨rfl, rfl⟩

theorem observeClock_silent (state : RootState) (read : UInt64) :
    Silent (observeClock state read).2 := by
  simp only [observeClock]
  split_ifs <;> exact ⟨rfl, rfl⟩

@[simp] theorem rootPublish_decisions (state : RootState) (child : RootChild)
    (events : List RootEvent) (read : UInt64) :
    (rootPublish state child events read).1.decisions = state.decisions := by
  simp only [rootPublish]
  split_ifs <;> rfl

@[simp] theorem rootPublish_commandState (state : RootState) (child : RootChild)
    (events : List RootEvent) (read : UInt64) :
    (rootPublish state child events read).1.commandState = state.commandState := by
  simp only [rootPublish]
  split_ifs <;> rfl

/-! ### The restart path -/

theorem rootGiveup_calls (config : Config) (state : RootState) (child : RootChild)
    (reason : String) (read : UInt64) :
    calls (rootGiveup config state child reason read).2 =
      .pdStop child :: obituary config child := by
  simp only [rootGiveup, obituary]
  split_ifs <;> rfl

theorem rootGiveup_decisionsOf (config : Config) (state : RootState) (child : RootChild)
    (reason : String) (read : UInt64) :
    decisionsOf (rootGiveup config state child reason read).2 = [] := by
  simp only [rootGiveup]
  split_ifs <;> rfl

theorem rootSpecRefresh_state (config : Config) (state : RootState) (spec : SpecPageRead) :
    ∃ status, (rootSpecRefresh config state spec).1 =
      { state with
        specState := (state.decisions.consumed config spec).1
        statusState := status } := by
  simp only [rootSpecRefresh, DecisionState.consumed, RootState.decisions]
  split_ifs <;> exact ⟨_, rfl⟩

theorem observeClock_state (state : RootState) (read : UInt64) :
    (observeClock state read).1 =
      { state with rootClockState := state.decisions.sampled read } := by
  cases available : state.rootClockState.available <;>
    simp only [observeClock, DecisionState.sampled, RootState.decisions, available] <;> rfl

/-- What carrying out a plan changes, publication aside. -/
structure PlanEffect (config : Config) (state : RootState) (child : RootChild)
    (plan : RootRestartPlanResult) (entry : UInt64) (performed : RootState × List RootAct) :
    Prop where
  state : ∃ status, performed.1 =
    { state with
      childRecords := Function.update state.childRecords child plan.next
      statusState := status }
  calls : calls performed.2 = actionCalls config child entry plan.action
  decisions : decisionsOf performed.2 = []

private theorem giveUp_effect (config : Config) {state : RootState} {child : RootChild}
    {plan : RootRestartPlanResult} (entry : UInt64) (reason : String) (read : UInt64)
    (stops : plan.action.GivesUp)
    (next : plan.next = rootRecordGiveUp (state.childRecords child)) :
    PlanEffect config state child plan entry (rootGiveup config state child reason read) := by
  have effect : outcomeOf plan.action = .stop := stops
  refine ⟨?_, ?_, rootGiveup_decisionsOf ..⟩
  · rw [next]
    exact ⟨_, rfl⟩
  · rw [actionCalls, effect, rootGiveup_calls]

private theorem resume_effect (config : Config) (state : RootState) (child : RootChild)
    {plan : RootRestartPlanResult} (request : Request) (entry read : UInt64)
    (resumes : plan.action = .resume) :
    PlanEffect config state child plan entry
      (rootResume config state child request plan.next entry read) := by
  refine ⟨⟨_, rfl⟩, ?_, rfl⟩
  rw [actionCalls, resumes]
  rfl

theorem performPlan_effect (config : Config) (state : RootState) (child : RootChild)
    (request : Request) (plan : RootRestartPlanResult) {ceiling : UInt32} (entry read : UInt64)
    (decided : PlanCase (state.childRecords child) ceiling entry plan) :
    PlanEffect config state child plan entry
      (performPlan config state child request plan entry read) := by
  cases decided with
  | ignored gone action next =>
      refine ⟨⟨state.statusState, ?_⟩, ?_, ?_⟩ <;>
        simp only [performPlan, action, next, Function.update_eq_self, actionCalls, outcomeOf]
      · rfl
      · rfl
  | resumed live action below usable nextLive charged =>
      have effect := resume_effect config state child request entry read action
      simpa only [performPlan, action] using effect
  | gaveUp live stops next =>
      have effect := giveUp_effect config entry (rootRestartGiveupReason plan.action) read
        stops next
      cases action : plan.action with
      | ignoreGone => simp [RootRestartAction.GivesUp, action, outcomeOf] at stops
      | resume => simp [RootRestartAction.GivesUp, action, outcomeOf] at stops
      | _ =>
          rw [action] at effect
          simpa only [performPlan, action] using effect

/-- What deciding a request changes, publication aside. -/
structure DecisionEffect (config : Config) (state : RootState) (child : RootChild)
    (spec : SpecPageRead) (reads : Reads) (decided : Decided) : Prop where
  plan : decided.plan = state.decisions.plan config child spec reads.observe
  entry : decided.entry = rootRestartEntry config child
  result : decided.spec = (state.decisions.consumed config spec).2
  state : ∃ status, decided.state =
    { state with
      specState := (state.decisions.consumed config spec).1
      statusState := status
      rootClockState :=
        (state.decisions.request config child spec reads.observe).rootClockState }
  silent : Silent decided.acts

theorem decideRequest_effect (config : Config) (state : RootState) (child : RootChild)
    (spec : SpecPageRead) (reads : Reads) :
    DecisionEffect config state child spec reads
      (decideRequest config state child spec reads) := by
  obtain ⟨status, refreshed⟩ := rootSpecRefresh_state config state spec
  -- The plan sees the refreshed policy and the sampled clock, nothing of the status.
  have planned : (decideRequest config state child spec reads).plan =
      state.decisions.plan config child spec reads.observe := by
    simp only [decideRequest, refreshed, observeClock_state]
    rfl
  refine ⟨planned, rfl, rfl, ?_, ?_⟩
  · have invalid := congrArg RootRestartPlanResult.policyInvalid planned
    simp only [decideRequest, refreshed, observeClock_state] at invalid ⊢
    rw [invalid]
    refine ⟨status, ?_⟩
    simp only [DecisionState.request]
    cases (state.decisions.plan config child spec reads.observe).policyInvalid <;> rfl
  · have logged : Silent (if (decideRequest config state child spec reads).plan.policyInvalid
        then [.puts .policyInvalid] else []) := by
      split_ifs <;> exact ⟨rfl, rfl⟩
    exact ((rootSpecRefresh_silent ..).append (observeClock_silent ..)).append logged

/-- Everything one pass through the restart path changes, publication aside. -/
structure RestartEffect (config : Config) (state : RootState) (child : RootChild)
    (request : Request) (spec : SpecPageRead) (reads : Reads) (restarted : Restarted) :
    Prop where
  action : restarted.action = (state.decisions.plan config child spec reads.observe).action
  result : restarted.spec = (state.decisions.consumed config spec).2
  decisions : restarted.state.decisions =
    state.decisions.request config child spec reads.observe
  commandState : restarted.state.commandState = state.commandState
  statusPage : restarted.state.statusPage = state.statusPage
  calls : calls restarted.acts =
    actionCalls config child (rootRestartEntry config child) restarted.action
  decided : decisionsOf restarted.acts =
    [{ child, request, action := restarted.action, spec := restarted.spec }]

theorem rootRestartPlan_of_plan (config : Config) (state : DecisionState) (child : RootChild)
    (spec : SpecPageRead) (read : UInt64) :
    PlanCase (state.childRecords child)
      (planCeiling (state.consumed config spec).1 (state.inputs config child read))
      (rootRestartEntry config child) (state.plan config child spec read) :=
  rootRestartPlan_case _ _ (state.inputs config child read)

theorem rootRestartChild_effect (config : Config) (state : RootState) (child : RootChild)
    (request : Request) (spec : SpecPageRead) (reads : Reads) :
    RestartEffect config state child request spec reads
      (rootRestartChild config state child request spec reads) := by
  have decided := decideRequest_effect config state child spec reads
  obtain ⟨status, ready⟩ := decided.state
  have performed := performPlan_effect config
    (decideRequest config state child spec reads).state child request
    (state.decisions.plan config child spec reads.observe)
    (rootRestartEntry config child) reads.outcome
    (by rw [ready]; exact rootRestartPlan_of_plan config state.decisions child spec reads.observe)
  obtain ⟨statusAfter, after⟩ := performed.state
  constructor <;> simp only [rootRestartChild, decided.plan, decided.entry]
  · exact decided.result
  · rw [after, ready]
    rfl
  · rw [after, ready]
  · rw [after, ready]
  · rw [calls_append, calls_append, decided.silent.1, performed.calls, List.nil_append]
    exact List.append_nil _
  · rw [decisionsOf_append, decisionsOf_append, decided.silent.2, performed.decisions]
    rfl

/-! ### Entry points -/

/-- A pass through the restart path, seen from a whole callback. -/
structure Requested (config : Config) (state : DecisionState) (child : RootChild)
    (request : Request) (spec : SpecPageRead) (read : UInt64) (next : RootState)
    (acts : List RootAct) : Prop where
  decisions : next.decisions = state.request config child spec read
  calls : calls acts =
    actionCalls config child (rootRestartEntry config child)
      (state.plan config child spec read).action
  decided : decisionsOf acts =
    [{ child
       request
       action := (state.plan config child spec read).action
       spec := (state.consumed config spec).2 }]

theorem Requested.after {config : Config} {state : DecisionState} {child : RootChild}
    {request : Request} {spec : SpecPageRead} {read : UInt64} {next : RootState}
    {acts : List RootAct} (requested : Requested config state child request spec read next acts)
    {later : RootState} {tail : List RootAct} (decisions : later.decisions = next.decisions)
    (silent : Silent tail) :
    Requested config state child request spec read later (acts ++ tail) := by
  refine ⟨decisions.trans requested.decisions, ?_, ?_⟩
  · rw [calls_append, silent.1, List.append_nil, requested.calls]
  · rw [decisionsOf_append, silent.2, List.append_nil, requested.decided]

theorem Requested.before {config : Config} {state : DecisionState} {child : RootChild}
    {request : Request} {spec : SpecPageRead} {read : UInt64} {next : RootState}
    {acts : List RootAct} (requested : Requested config state child request spec read next acts)
    {head : List RootAct} (silent : Silent head) :
    Requested config state child request spec read next (head ++ acts) := by
  refine ⟨requested.decisions, ?_, ?_⟩
  · rw [calls_append, silent.1, List.nil_append, requested.calls]
  · rw [decisionsOf_append, silent.2, List.nil_append, requested.decided]

theorem rootRestartChild_requested (config : Config) (state : RootState) (child : RootChild)
    (request : Request) (spec : SpecPageRead) (reads : Reads) :
    Requested config state.decisions child request spec reads.observe
      (rootRestartChild config state child request spec reads).state
      (rootRestartChild config state child request spec reads).acts := by
  have effect := rootRestartChild_effect config state child request spec reads
  refine ⟨effect.decisions, ?_, ?_⟩
  · simp only [effect.calls, effect.action]
  · simp only [effect.decided, effect.action, effect.result]

theorem restartAndPublish_requested (config : Config) (state : RootState) (child : RootChild)
    (request : Request) (first : List RootEvent) (spec : SpecPageRead) (reads : Reads) :
    Requested config state.decisions child request spec reads.observe
      (restartAndPublish config state child request first spec reads).1
      (restartAndPublish config state child request first spec reads).2 :=
  (rootRestartChild_requested config state child request spec reads).after
    (rootPublish_decisions ..) (rootPublish_silent ..)

theorem fault_requested {config : Config} {rawChild : UInt32} {child : RootChild}
    (state : RootState) (label count mr0 mr1 : UInt64) (spec : SpecPageRead) (reads : Reads)
    (known : rootChildFromRaw rawChild (rootPresentChildren config) = some child) :
    Requested config state.decisions child .restart spec reads.observe
      (fault config state rawChild label count mr0 mr1 spec reads).1
      (fault config state rawChild label count mr0 mr1 spec reads).2 := by
  have requested := restartAndPublish_requested config
    (noteFault state child label count mr0 mr1 reads.entry) child .restart
    [faultEvent state child label count mr0 mr1 reads.entry] spec reads
  have logged : Silent [.puts (.fault rawChild label (if count ≥ 1 then some mr0 else none)
      (if count ≥ 2 then some mr1 else none))] := ⟨rfl, rfl⟩
  simp only [fault, known]
  exact requested.before logged

theorem rootCommandRestartChild_requested (config : Config) (state : RootState)
    (decision : RootCommandDecision) (child : RootChild) (spec : SpecPageRead) (reads : Reads) :
    Requested config state.decisions child .ctlRestart spec reads.observe
      (rootCommandRestartChild config state decision child spec reads).1
      (rootCommandRestartChild config state decision child spec reads).2.2 := by
  have requested := rootRestartChild_requested config state child .ctlRestart spec reads
  simp only [rootCommandRestartChild]
  by_cases ignored :
    (rootRestartChild config state child .ctlRestart spec reads).action = .ignoreGone
  · simp only [ignored, if_true]
    exact requested
  · simp only [ignored, if_false]
    refine requested.after ?_ (rootPublish_silent ..)
    exact rootPublish_decisions (rootRestartChild config state child .ctlRestart spec reads).state
      child _ _

/-- One case per way a callback can touch the children. -/
inductive StepCase (config : Config) (state : RootState) (input : RootInput)
    (result : RootState × List RootAct) : Prop where
  | requested (child : RootChild) (request : Request)
      (asked : requestOf config state input = some (child, request))
      (effect : Requested config state.decisions child request input.spec input.reads.observe
        result.1 result.2)
  | injected (child : RootChild) (unasked : requestOf config state input = none)
      (injection : injectionOf state input = some child)
      (live : (state.childRecords child).state = .live)
      (decisions : result.1.decisions = state.decisions)
      (calls : calls result.2 = [.pdRestart child 0]) (decided : decisionsOf result.2 = [])
  | quiet (unasked : requestOf config state input = none)
      (uninjected : injectionOf state input = none)
      (decisions : result.1.decisions = state.decisions) (silent : Silent result.2)

theorem performCommand_restart (config : Config) (state : RootState)
    {decision : RootCommandDecision} {child : RootChild} (spec : SpecPageRead) (reads : Reads)
    (accepted : decision.action.target = some child) :
    Requested config state.decisions child .ctlRestart spec reads.observe
      (performCommand config state decision spec reads).1
      (performCommand config state decision spec reads).2 := by
  cases action : decision.action with
  | none => simp [action, RootCommandAction.target] at accepted
  | restart target =>
      obtain rfl : target = child := by simpa [action, RootCommandAction.target] using accepted
      have requested := rootCommandRestartChild_requested config state decision target spec reads
      simp only [performCommand, action]
      exact requested.after rfl ⟨rfl, rfl⟩

theorem performCommand_none (config : Config) (state : RootState)
    {decision : RootCommandDecision} (spec : SpecPageRead) (reads : Reads)
    (refused : decision.action.target = none) :
    performCommand config state decision spec reads =
      (state, [.reply decision.result decision.values]) := by
  cases action : decision.action with
  | none => simp only [performCommand, action]
  | restart target => simp [action, RootCommandAction.target] at refused

theorem protectedCall_accepted {config : Config} {state : RootState} {channel : UInt32}
    {label count : UInt64} {args : CommandWords} {spec : SpecPageRead} {reads : Reads}
    {child : RootChild}
    (accepted : acceptedRestart config state
      ⟨.protectedCall channel label count args, spec, reads⟩ = some child) :
    Requested config state.decisions child .ctlRestart spec reads.observe
      (protectedCall config state channel label count args spec reads).1
      (protectedCall config state channel label count args spec reads).2 := by
  simp only [acceptedRestart] at accepted
  split_ifs at accepted with framed
  have requested := performCommand_restart config
    { state with
      commandState := (decideCommand config state
        (rootCommandFrame state.commandState channel controlPpChannelRoot label count).1
        label args reads.entry).1 }
    spec reads accepted
  simp only [protectedCall, if_neg framed]
  exact requested

theorem protectedCall_unaccepted {config : Config} {state : RootState} {channel : UInt32}
    {label count : UInt64} {args : CommandWords} {spec : SpecPageRead} {reads : Reads}
    (refused : acceptedRestart config state
      ⟨.protectedCall channel label count args, spec, reads⟩ = none) :
    (protectedCall config state channel label count args spec reads).1.decisions =
        state.decisions ∧
      Silent (protectedCall config state channel label count args spec reads).2 := by
  simp only [acceptedRestart] at refused
  split_ifs at refused with framed
  · simp only [protectedCall, if_pos framed]
    exact ⟨rfl, rfl, rfl⟩
  · simp only [protectedCall, if_neg framed, performCommand_none config _ spec reads refused]
    exact ⟨rfl, rfl, rfl⟩

/-- Everything one callback can do to the children. -/
theorem rootStep_case (config : Config) (state : RootState) (input : RootInput) :
    StepCase config state input (rootStep config state input) := by
  obtain ⟨callback, spec, reads⟩ := input
  cases callback with
  | fault rawChild label count mr0 mr1 =>
      cases known : rootChildFromRaw rawChild (rootPresentChildren config) with
      | some child =>
          exact .requested child .restart (by simp [requestOf, known])
            (fault_requested state label count mr0 mr1 spec reads known)
      | none =>
          refine .quiet (by simp [requestOf, known]) rfl ?_ ?_ <;>
            simp only [rootStep, fault, known]
          exact ⟨rfl, rfl⟩
  | notified channel =>
      cases routed : rootNotifyRoute channel rootChannels with
      | debugRestart index =>
          refine .requested (rootClassChild index) .debugRestart (by simp [requestOf, routed]) ?_
          simp only [rootStep, notified, routed]
          exact restartAndPublish_requested ..
      | faultInject index =>
          by_cases gone : (state.childRecords (rootClassChild index)).state = .gone
          · refine .quiet (by simp [requestOf, routed]) (by simp [injectionOf, routed, gone])
              ?_ ?_ <;> simp only [rootStep, notified, routed, gone, if_true]
            exact ⟨rfl, rfl⟩
          · refine .injected (rootClassChild index) (by simp [requestOf, routed])
              (by simp [injectionOf, routed, gone]) (RootChildRecord.live_of_not_gone gone)
              ?_ ?_ ?_ <;> simp only [rootStep, notified, routed, gone, if_false]
            · exact rootPublish_decisions ..
            · rw [calls_append, (rootPublish_silent ..).1]
              rfl
            · rw [decisionsOf_append, (rootPublish_silent ..).2]
              rfl
      | unexpected =>
          refine .quiet (by simp [requestOf, routed]) (by simp [injectionOf, routed]) ?_ ?_ <;>
            simp only [rootStep, notified, routed]
          exact ⟨rfl, rfl⟩
  | protectedCall channel label count args =>
      cases accepted : acceptedRestart config state
          ⟨.protectedCall channel label count args, spec, reads⟩ with
      | some child =>
          refine .requested child .ctlRestart (by simp [requestOf, accepted]) ?_
          exact protectedCall_accepted accepted
      | none =>
          have refused := protectedCall_unaccepted accepted
          exact .quiet (by simp [requestOf, accepted]) rfl refused.1 refused.2

end Chrysopolis.Root
