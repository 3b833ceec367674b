import Chrysopolis.Root.Main

/-! The decision half of Root: what a restart decision reads and changes. It names
no command, no status page and no event, which is what publication and commands
may not leak into. -/

set_option autoImplicit false

namespace Chrysopolis.Root

open Chrysopolis.Support

/-- Everything a restart decision depends on. -/
structure DecisionState where
  childRecords : RootChild → RootChildRecord
  specState : RootSpecState
  specPage : Bool
  rootClockState : RootClock
  rootTestBudget : RootBudgetPolicy

/-- The decision half of Root's state. -/
def RootState.decisions (state : RootState) : DecisionState :=
  { childRecords := state.childRecords
    specState := state.specState
    specPage := state.specPage
    rootClockState := state.rootClockState
    rootTestBudget := state.rootTestBudget }

namespace DecisionState

/-- The spec state and result a refresh reaches. -/
def consumed (config : Config) (state : DecisionState) (spec : SpecPageRead) :
    RootSpecState × RootSpecResult :=
  rootSpecConsume state.specState (sharedSpec state.specPage spec) (rootPresentChildren config)

/-- The clock a decision samples. -/
def sampled (state : DecisionState) (read : UInt64) : RootClock :=
  if state.rootClockState.available then (rootClockObserve state.rootClockState read).1
  else state.rootClockState

/-- What a request is decided with. -/
def inputs (config : Config) (state : DecisionState) (child : RootChild) (read : UInt64) :
    RootRestartInputs :=
  { child
    compiled := rootRestartBudget child
    hardMax := hardBudgetMax
    entry := rootRestartEntry config child
    timed :=
      if config.rootTestBudget then
        { enabled := true, policy := state.rootTestBudget, lifetimeLimit := testLifetimeLimit }
      else {}
    clockAvailable := (state.sampled read).available
    nowTicks := (state.sampled read).lastTicks }

/-- The plan a request gets. -/
def plan (config : Config) (state : DecisionState) (child : RootChild) (spec : SpecPageRead)
    (read : UInt64) : RootRestartPlanResult :=
  rootRestartPlan (state.consumed config spec).1 (state.childRecords child)
    (state.inputs config child read)

/-- The state after a request for a child. -/
def request (config : Config) (state : DecisionState) (child : RootChild) (spec : SpecPageRead)
    (read : UInt64) : DecisionState :=
  let plan := state.plan config child spec read
  { state with
    childRecords := Function.update state.childRecords child plan.next
    specState := (state.consumed config spec).1
    rootClockState :=
      if plan.policyInvalid then { state.sampled read with available := false }
      else state.sampled read }

end DecisionState

/-- One decision: the child, who asked, the action, and what the refresh did. -/
structure Decision where
  child : RootChild
  request : Request
  action : RootRestartAction
  spec : RootSpecResult
  deriving DecidableEq, Repr

/-- The decisions among the acts, in order. -/
def decisionsOf (acts : List RootAct) : List Decision :=
  acts.filterMap fun act =>
    match act with
    | .decided child request action spec => some { child, request, action, spec }
    | _ => none

/-- The acts that reach the kernel. -/
def RootAct.isCall : RootAct → Bool
  | .pdRestart .. | .pdStop _ | .notify _ => true
  | _ => false

/-- The kernel calls among the acts, in order. -/
def calls (acts : List RootAct) : List RootAct := acts.filter RootAct.isCall

/-- The gone notification of a child, when the image wires its channel. -/
def obituary (config : Config) (child : RootChild) : List RootAct :=
  if rootChannelWired config.microkitNotifications (rootGoneChannel child) then
    [.notify (rootGoneChannel child)]
  else []

/-- The kernel calls an action makes. -/
def actionCalls (config : Config) (child : RootChild) (entry : UInt64)
    (action : RootRestartAction) : List RootAct :=
  match outcomeOf action with
  | .none => []
  | .charge => [.pdRestart child entry]
  | .stop => .pdStop child :: obituary config child

/-- The child a command restarts, when it is accepted. -/
def acceptedRestart (config : Config) (state : RootState) (input : RootInput) :
    Option RootChild :=
  match input.callback with
  | .protectedCall channel label count args =>
      let framed := rootCommandFrame state.commandState channel controlPpChannelRoot label count
      if framed.2 ≠ .ok then none
      else (decideCommand config state framed.1 label args input.reads.entry).2.action.target
  | _ => none

/-- The child a callback asks to restart through the shared path, and who asked. -/
def requestOf (config : Config) (state : RootState) (input : RootInput) :
    Option (RootChild × Request) :=
  match input.callback with
  | .fault rawChild .. =>
      (rootChildFromRaw rawChild (rootPresentChildren config)).map fun child => (child, .restart)
  | .notified channel =>
      match rootNotifyRoute channel rootChannels with
      | .debugRestart index => some (rootClassChild index, .debugRestart)
      | _ => none
  | .protectedCall .. =>
      (acceptedRestart config state input).map fun child => (child, .ctlRestart)

/-- The child a callback injects a fault into. -/
def injectionOf (state : RootState) (input : RootInput) : Option RootChild :=
  match input.callback with
  | .notified channel =>
      match rootNotifyRoute channel rootChannels with
      | .faultInject index =>
          if (state.childRecords (rootClassChild index)).state = .gone then none
          else some (rootClassChild index)
      | _ => none
  | _ => none

end Chrysopolis.Root
