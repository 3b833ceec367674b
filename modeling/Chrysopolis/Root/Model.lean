import Chrysopolis.Core.Root
import Chrysopolis.Root.BucketProperties
import Chrysopolis.Root.Decisions
import Chrysopolis.Root.SpecProperties

/-! Root beside its Erlang model: what the model is given of a run, and what the two have to
agree on at every step. -/

set_option autoImplicit false

namespace Chrysopolis.Root

open Chrysopolis.Abi
open Chrysopolis.Support

/-! ### The page as the codec classifies it -/

def codecReason : AbiReject → Core.Reason
  | .torn => .bankTorn
  | .checksum => .bankChecksum
  | _ => .bankMalformed

/-- One value for each row of a policy. -/
def rows (value : RootChild → Nat) : List Nat := (List.finRange childCount).map value

/-- A bank before any comparison with the retained policy. -/
def codecBank (page : Memory) (bank : Nat) (presentMask : UInt64) : Core.Candidate :=
  if specBankSeq page bank = 0 then .empty
  else
    let verdict := checkSpecBank page specPageSize bank
    if verdict ≠ .ok then .rejected (codecReason verdict) 0
    else
      let policy := bankPolicy page bank
      if policy.generation = 0 then .empty
      else if declaresAbsent policy presentMask then
        .rejected .undeclaredChild policy.generation.toNat
      else
        .bank policy.generation.toNat (rows fun child => (policy.budget child).toNat)
          (rows fun child => (policy.desired child).toNat)

/-- What the next refresh reads: no page or a zero header, a bad header, or both banks. -/
def codecPage (mapped : Bool) (page : Memory) (presentMask : UInt64) : Core.Page :=
  if !mapped || page.allZero 0 specHeaderSize then .absent
  else if checkSpecHeader page specPageSize ≠ .ok then .header
  else
    .banks (activeBank page) (codecBank page (specActive page) presentMask)
      (codecBank page (1 - specActive page) presentMask)

/-- The page a refresh of the model reads. -/
def refreshPage (config : Config) (page : Memory) : Core.Page :=
  codecPage (config.orchestratorSpecView == specRootVaddr) page (rootPresentChildren config)

/-! ### Steps of both -/

/-- What both sides are driven by. -/
inductive ModelEvent where
  | fault (child : RootChild) (label count mr0 mr1 : UInt64)
  | debugRestart (index : Fin 4)
  | command (label count : UInt64) (args : CommandWords)
  deriving DecidableEq, Repr

/-- One event, over the spec page as it stands, with the counter samples it takes. -/
structure ModelStep where
  event : ModelEvent
  page : Memory
  reads : Reads

/-- The callback of an event. -/
def ModelEvent.callback : ModelEvent → Callback
  | .fault child label count mr0 mr1 => .fault (UInt32.ofNat child.val) label count mr0 mr1
  | .debugRestart index => .notified (rootChannels.debugFirst + UInt32.ofNat index.val)
  | .command label count args => .protectedCall controlPpChannelRoot label count args

def ModelStep.input (step : ModelStep) : RootInput :=
  { callback := step.event.callback, spec := .still step.page, reads := step.reads }

/-- A faulting child is in the image. -/
def ModelEvent.Present (config : Config) : ModelEvent → Prop
  | .fault child .. => maskBit (rootPresentChildren config) child.val = true
  | _ => True

instance (config : Config) (event : ModelEvent) : Decidable (event.Present config) := by
  unfold ModelEvent.Present
  split <;> infer_instance

/-- The constants the model starts from, as `init` computes them. -/
def modelConfig (config : Config) (boot : Boot) : Core.Config :=
  let started := (rootInit config boot).1
  { mapped := started.statusPage.isSome
    now := boot.command.toNat
    tokens := commandRateTokens.toNat
    refill :=
      match rootClockInterval started.rootClockState commandRateRefillMs with
      | .ok ticks => ticks.toNat
      | .error _ => 0
    hardMax := hardBudgetMax.toNat
    entry := config.restartEntry.toNat
    pp := controlPpChannelRoot.toNat
    beam := childBeam.val
    present := (rootPresentChildren config).toNat
    drivers := rootDriverChildren.toNat
    compiled := rows fun child => (rootRestartBudget child).toNat
    generation := started.statusState.rootGeneration.toNat
    incarnation := started.statusState.beamIncarnation.toNat
    seq := started.statusState.seq.toNat
    abi := abiVersion
    cntfrq := boot.frequency.toNat }

def modelWords (words : CommandWords) : Core.Words :=
  ⟨words.w0.toNat, words.w1.toNat, words.w2.toNat, words.w3.toNat⟩

/-- What the model answers a step with. -/
structure ModelAnswer where
  decided : Option Core.Decided := none
  reply : Option Core.Reply := none
  deriving DecidableEq, Repr

/-- The model over one step, the page classified for it. -/
def modelStep (config : Config) (root : Core.Root) (step : ModelStep) :
    Option (ModelAnswer × Core.Root) :=
  let page := refreshPage config step.page
  let now := step.reads.entry.toNat
  match step.event with
  | .fault child .. =>
      (Core.ChrysoRoot.fault root child.val page now).map fun result =>
        ({ decided := some result.1 }, result.2)
  | .debugRestart index =>
      let child := rootClassChild (UInt32.ofNat index.val)
      (Core.ChrysoRoot.fault root child.val page now).map fun result =>
        ({ decided := some result.1 }, result.2)
  | .command label count args =>
      (Core.ChrysoRoot.command root label.toNat count.toNat (modelWords args) now
        (some page)).map fun result =>
          ({ decided := result.2.1, reply := some result.1 }, result.2.2)

/-- The model over a run: its last answer, and where it stands. -/
def modelAfter (config : Config) (root : Core.Root) (steps : List ModelStep) :
    Option (ModelAnswer × Core.Root) :=
  steps.foldlM (fun held step => modelStep config held.2 step) ({}, root)

/-! ### Agreement -/

def tracedState : Core.ChildState → RootChildState
  | .live => .live
  | .gone => .gone

def tracedAction : Core.Action → RootRestartAction
  | .resume => .resume
  | .giveupBudget => .giveupBudgetExhausted
  | .giveupNoEntry => .giveupNoEntry
  | .ignoreGone => .ignoreGone

def tracedReason : Core.Reason → RootSpecReject
  | .unset => .unset
  | .header => .header
  | .bankTorn => .bankTorn
  | .bankChecksum => .bankChecksum
  | .bankMalformed => .bankMalformed
  | .undeclaredChild => .undeclaredChild
  | .regressed => .regressed
  | .conflict => .conflict
  | .unstableCopy => .unstableCopy

def tracedOutcome : Core.SpecOutcome → RootSpecOutcome
  | .absent => .absent
  | .applied => .applied
  | .unchanged => .unchanged
  | .kept => .kept

def tracedResult : Core.Result → CtlResult
  | .ok => .ok
  | .refused => .refused
  | .rateLimited => .rateLimited
  | .badArg => .badArg
  | .badVersion => .badVersion
  | .alreadyDone => .alreadyDone
  | .stale => .stale

structure SameRecord (record : Core.Record) (held : RootChildRecord) : Prop where
  state : tracedState record.state = held.state
  lifetime : record.lifetime = held.lifetimeCount.toNat

/-- The retained policies; a list that is too short reads as zeros. -/
structure SamePolicy (policy : Core.SpecPolicy) (retained : RootSpecPolicy) : Prop where
  generation : policy.generation = retained.generation.toNat
  bank : policy.bank.val = retained.bank.toNat
  budgets : ∀ child : RootChild,
    policy.budgets.getD child.val 0 = (retained.budget child).toNat
  desired : ∀ child : RootChild,
    policy.desired.getD child.val 0 = (retained.desired child).toNat

structure SameResult (result : Core.SpecResult) (consumed : RootSpecResult) : Prop where
  outcome : tracedOutcome result.outcome = consumed.outcome
  reason : tracedReason result.reason = consumed.reason
  record : result.record = consumed.record

structure SameDecision (decided : Core.Decided) (decision : Decision) (after : RootState) :
    Prop where
  child : decided.child = decision.child.val
  action : tracedAction decided.action = decision.action
  record : SameRecord decided.record (after.childRecords decision.child)
  spec : SameResult decided.spec decision.spec
  retained : SamePolicy decided.retained after.specState.retained
  seq : decided.seq = after.statusState.seq.toNat

/-- The replies among the acts, in order. -/
def repliesOf (acts : List RootAct) : List (CtlResult × CommandWords) :=
  acts.filterMap fun act =>
    match act with
    | .reply result values => some (result, values)
    | _ => none

structure SameReply (reply : Core.Reply) (given : CtlResult × CommandWords)
    (after : RootState) : Prop where
  result : tracedResult reply.result = given.1
  values : reply.values = modelWords given.2
  tokens : ∀ held ∈ reply.tokens, held = after.commandState.tokens.toNat

/-- The two sides after a step: what they decided, what they replied, and what they hold. -/
structure StepAgrees (answer : ModelAnswer) (next : Core.Root) (after : RootState)
    (acts : List RootAct) : Prop where
  decided :
    match answer.decided with
    | none => decisionsOf acts = []
    | some decided => ∃ decision, decisionsOf acts = [decision] ∧
        SameDecision decided decision after
  replied :
    match answer.reply with
    | none => repliesOf acts = []
    | some reply => ∃ given, repliesOf acts = [given] ∧ SameReply reply given after
  records : ∀ child : RootChild, ∃ record, next.records child.val = some record ∧
    SameRecord record (after.childRecords child)
  retained : SamePolicy next.spec.retained after.specState.retained
  seq : next.seq = after.statusState.seq.toNat
  bucket : next.command.bucket = after.commandState.bucket

/-- The two sides agree at every step. -/
def Agree (config : Config) : RootState → Core.Root → List ModelStep → Prop
  | _, _, [] => True
  | state, root, step :: steps =>
      ∃ answer next, modelStep config root step = some (answer, next) ∧
        StepAgrees answer next (rootStep config state step.input).1
          (rootStep config state step.input).2 ∧
        Agree config (rootStep config state step.input).1 next steps

/-! ### What the agreement is about -/

/-- What holds before every step of Root's run. -/
def EveryStep (config : Config) (holds : RootState → ModelStep → Prop) :
    RootState → List ModelStep → Prop
  | _, [] => True
  | state, step :: steps =>
      holds state step ∧ EveryStep config holds (rootStep config state step.input).1 steps

def everyStepDecidable (config : Config) (holds : RootState → ModelStep → Prop)
    [∀ state step, Decidable (holds state step)] :
    ∀ state steps, Decidable (EveryStep config holds state steps)
  | _, [] => inferInstanceAs (Decidable True)
  | state, step :: steps =>
      @instDecidableAnd _ _ _
        (everyStepDecidable config holds (rootStep config state step.input).1 steps)

instance (config : Config) (holds : RootState → ModelStep → Prop)
    [∀ state step, Decidable (holds state step)] (state : RootState) (steps : List ModelStep) :
    Decidable (EveryStep config holds state steps) :=
  everyStepDecidable config holds state steps

/-- One more reply wraps no tally. -/
structure TallyRoom (state : RootCommandState) : Prop where
  accepted : state.accepted ≠ 0xFFFFFFFFFFFFFFFF
  rateLimited : state.rateLimited ≠ 0xFFFFFFFFFFFFFFFF
  rejected : state.rejected ≠ 0xFFFFFFFFFFFFFFFF

/-- The step exhausts no counter: neither of the publisher, which would say so, nor a tally. -/
structure Unexhausted (config : Config) (state : RootState) (step : ModelStep) : Prop where
  publisher : .puts .statusExhausted ∉ (rootStep config state step.input).2
  tallies : TallyRoom state.commandState

instance (config : Config) (state : RootState) (step : ModelStep) :
    Decidable (Unexhausted config state step) :=
  decidable_of_iff
    (.puts .statusExhausted ∉ (rootStep config state step.input).2 ∧
      state.commandState.accepted ≠ 0xFFFFFFFFFFFFFFFF ∧
      state.commandState.rateLimited ≠ 0xFFFFFFFFFFFFFFFF ∧
      state.commandState.rejected ≠ 0xFFFFFFFFFFFFFFFF)
    ⟨fun held => ⟨held.1, ⟨held.2.1, held.2.2.1, held.2.2.2⟩⟩,
      fun room => ⟨room.publisher, room.tallies.accepted, room.tallies.rateLimited,
        room.tallies.rejected⟩⟩

/-- The samples of a run, in the order they are taken. -/
def samplesOf (boot : Boot) (steps : List ModelStep) : List UInt64 :=
  [boot.observe, boot.status, boot.command] ++
    steps.flatMap fun step =>
      [ step.reads.entry, step.reads.control, step.reads.observe, step.reads.outcome,
        step.reads.specEvent, step.reads.publish ]

/-- A run the model stands for. -/
structure Modelled (config : Config) (boot : Boot) (steps : List ModelStep) : Prop where
  selector : config.rootTestBudget = false
  entry : config.beamResetEntry = config.restartEntry
  usable : config.restartEntry ≠ 0
  frequency : clockMinHz ≤ boot.frequency ∧ boot.frequency ≤ clockMaxHz
  clock : (samplesOf boot steps).Pairwise (· ≤ ·)
  present : ∀ step ∈ steps, step.event.Present config
  unexhausted : EveryStep config (Unexhausted config) (rootInit config boot).1 steps

/-- An accepted command names a child with a restart left, under the policy its refresh
retains. -/
def KeepsBelow (config : Config) (state : RootState) (step : ModelStep) : Prop :=
  ∀ child, acceptedRestart config state step.input = some child →
    (state.childRecords child).lifetimeCount <
      rootSpecBudget (state.decisions.consumed config (.still step.page)).1 child
        (rootRestartBudget child) hardBudgetMax

instance (config : Config) (state : RootState) (step : ModelStep) :
    Decidable (KeepsBelow config state step) :=
  inferInstanceAs (Decidable (∀ child, acceptedRestart config state step.input = some child → _))

end Chrysopolis.Root
