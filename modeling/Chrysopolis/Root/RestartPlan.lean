import Chrysopolis.Root.Spec

/-! The decision half of Root's restart path: which ceiling applies, which
selector decides, and the record that results. -/

set_option autoImplicit false

namespace Chrysopolis.Root

/-- The time-based test selector; production passes `enabled := false`. A policy
capacity of 0 means the clock interval was unavailable at init. -/
structure RootRestartTimed where
  enabled : Bool := false
  policy : RootBudgetPolicy := {}
  lifetimeLimit : UInt32 := 0
  deriving DecidableEq, Repr

structure RootRestartInputs where
  child : RootChild
  compiled : UInt32
  hardMax : UInt32
  entry : UInt64
  timed : RootRestartTimed := {}
  clockAvailable : Bool
  nowTicks : UInt64

structure RootRestartPlanResult where
  action : RootRestartAction
  /-- The record to commit before acting. -/
  next : RootChildRecord
  /-- The timed selector rejected the record or the policy. -/
  policyInvalid : Bool := false
  deriving DecidableEq, Repr

/-- What an action does to the child's record. -/
inductive Outcome where
  | none | charge | stop
  deriving DecidableEq, Repr

/-- A gone child absorbs every outcome. -/
def childNext : RootChildState → Outcome → RootChildState
  | .live, .none => .live
  | .live, .charge => .live
  | .live, .stop => .gone
  | .gone, _ => .gone

def outcomeOf : RootRestartAction → Outcome
  | .resume => .charge
  | .giveupBudgetExhausted | .giveupWindowExhausted | .giveupLifetimeExhausted
  | .giveupNoEntry => .stop
  | .ignoreGone => .none

def minU (left right : UInt32) : UInt32 := if left < right then left else right

inductive Selector where
  | lifetime | timed | lifetimeFallback
  deriving DecidableEq, Repr

def selectOf (inputs : RootRestartInputs) : Selector :=
  if !inputs.timed.enabled then .lifetime
  else if inputs.clockAvailable && inputs.timed.policy.capacity ≠ 0 then .timed
  else .lifetimeFallback

/-- The lifetime ceiling status rows publish. -/
def rootRestartCeiling (spec : RootSpecState) (inputs : RootRestartInputs) : UInt32 :=
  let budget := rootSpecBudget spec inputs.child inputs.compiled inputs.hardMax
  if !inputs.timed.enabled then budget
  else
    let limit :=
      if inputs.timed.policy.capacity ≠ 0 then inputs.timed.policy.lifetimeLimit
      else inputs.timed.lifetimeLimit
    minU budget limit

/-- An action of a lifetime selector: the record is charged here on a resume. -/
def lifetimeResult (record : RootChildRecord) (action : RootRestartAction) :
    RootRestartPlanResult :=
  { action
    next :=
      { (if outcomeOf action = .charge then rootRecordCharge record else record) with
        state := childNext record.state (outcomeOf action) } }

/-- The timed selector's action: the record is charged by the timed decision. -/
def timedResult (record : RootChildRecord) (decision : RootTimedDecision) :
    RootRestartPlanResult :=
  if decision.error ≠ .valid then
    { action := .giveupBudgetExhausted
      next := { record with state := childNext record.state .stop }
      policyInvalid := true }
  else
    { action := decision.action
      next :=
        { (if decision.action = .resume then decision.next else record) with
          state := childNext record.state (outcomeOf decision.action) } }

/-- Decides one restart request. -/
def rootRestartPlan (spec : RootSpecState) (record : RootChildRecord)
    (inputs : RootRestartInputs) : RootRestartPlanResult :=
  let budget := rootSpecBudget spec inputs.child inputs.compiled inputs.hardMax
  match selectOf inputs with
  | .lifetime => lifetimeResult record (rootRestartDecide record budget inputs.entry)
  | .lifetimeFallback =>
      lifetimeResult record
        (rootRestartDecide record (minU budget inputs.timed.lifetimeLimit) inputs.entry)
  | .timed =>
      -- The spec may lower the test ceiling, never raise it.
      let policy :=
        { inputs.timed.policy with
          lifetimeLimit := minU inputs.timed.policy.lifetimeLimit budget }
      timedResult record (rootRestartDecideAt record policy inputs.entry inputs.nowTicks)

end Chrysopolis.Root
