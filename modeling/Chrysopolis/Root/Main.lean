import Chrysopolis.Root.Command
import Chrysopolis.Root.RestartPlan
import Chrysopolis.Root.Status
import Chrysopolis.Support.Transducer

/-! Root as `main.c` composes it. Every entry point is a function of the state,
the spec page it reads and the counter samples it takes, and returns the next
state with what it did in order. -/

set_option autoImplicit false

namespace Chrysopolis.Root

open Chrysopolis.Abi
open Chrysopolis.Support

/-! ### Image constants -/

def childSerial : RootChild := ⟨0, by decide⟩
def childTimer : RootChild := ⟨1, by decide⟩
def childBlk : RootChild := ⟨2, by decide⟩
def childEth : RootChild := ⟨3, by decide⟩
def childBeam : RootChild := ⟨5, by decide⟩

/-- The policy-supported children, one bit per child id. -/
def rootKnownChildren : UInt64 := 0x3f

/-- Every known child but the crasher, which production omits. -/
def rootBaseChildren : UInt64 := 0x2f

/-- The children RESTART_CHILD may address, before the presence mask. -/
def rootDriverChildren : UInt64 := 0x0f

def rootChannels : RootChannelLayout := { debugFirst := 0, faultFirst := 4, count := 4 }

def goneChannelBlk : UInt32 := 10
def goneChannelBeam : UInt32 := 12

/-- No channel: at or above the mask width. -/
def goneChannelNone : UInt32 := 255

def controlPpChannelRoot : UInt32 := 11
def restartBudget : UInt32 := 8
def beamRestartBudget : UInt32 := 64
def hardBudgetMax : UInt32 := 64
def clockMinHz : UInt64 := 1000000
def clockMaxHz : UInt64 := 1000000000
def commandRateTokens : UInt32 := 32
def commandRateRefillMs : UInt64 := 1000
def testLeakMs : UInt64 := 2000
def testWindowCapacity : UInt32 := 1
def testLifetimeLimit : UInt32 := 3
def statusRootVaddr : UInt64 := 0x40000000
def specRootVaddr : UInt64 := 0x40004000

/-- The words patched into the image, and which Root it links. -/
structure Config where
  restartEntry : UInt64
  beamResetEntry : UInt64
  presentChildrenMask : UInt64
  rootStatusStart : UInt64
  orchestratorSpecView : UInt64
  microkitNotifications : UInt64
  /-- `ROOT_TEST_BUDGET`: the timed test selector. -/
  rootTestBudget : Bool
  deriving DecidableEq, Repr

structure RootState where
  childRecords : RootChild → RootChildRecord
  commandState : RootCommandState
  statusState : RootStatusState
  statusPage : Option Memory
  specState : RootSpecState
  /-- The spec page is mapped at its ABI address. -/
  specPage : Bool
  rootClockState : RootClock
  rootTestBudget : RootBudgetPolicy

/-- Who asked for a restart, as the console names it. -/
inductive Request where
  | restart | debugRestart | ctlRestart | faultInject
  deriving DecidableEq, Repr

/-- One console line. -/
inductive LogLine where
  | clockUnavailable
  | clockFreq (frequency : UInt64)
  | init (budget beamBudget : UInt32) (entry beamEntry : UInt64)
  | fault (child : UInt32) (label : UInt64) (mr0 mr1 : Option UInt64)
  | reject (child : UInt32)
  | specApplied (generation : UInt64) (bank : UInt32)
  | specReject (reason : String) (generation : UInt64) (bank : UInt32)
  | policyInvalid
  | restarted (request : Request) (child : RootChild) (count : UInt32) (window : Option UInt32)
  | giveup (child : RootChild) (reason : String)
  | ignored (child : RootChild) (request : Request)
  | faultInject (child : RootChild)
  | unexpectedChannel (channel : UInt32)
  | statusExhausted
  | statusInvalidPublish
  deriving DecidableEq, Repr

/-- What Root does, in order. -/
inductive RootAct where
  | puts (line : LogLine)
  | pdRestart (child : RootChild) (entry : UInt64)
  | pdStop (child : RootChild)
  | notify (channel : UInt32)
  /-- What `root_restart_child` returned for a request. -/
  | decided (child : RootChild) (request : Request) (action : RootRestartAction)
      (spec : RootSpecResult)
  /-- A completed publication and the events it put into the ring. -/
  | published (events : List RootEvent)
  | reply (result : CtlResult) (values : CommandWords)
  deriving DecidableEq, Repr

/-- The counter at the places a callback samples it, in that order. -/
structure Reads where
  entry : UInt64
  control : UInt64
  observe : UInt64
  outcome : UInt64
  specEvent : UInt64
  publish : UInt64
  deriving DecidableEq, Repr

inductive Callback where
  | fault (rawChild : UInt32) (label count mr0 mr1 : UInt64)
  | notified (channel : UInt32)
  | protectedCall (channel : UInt32) (label count : UInt64) (args : CommandWords)
  deriving DecidableEq, Repr

/-- One callback with what it reads from outside Root. -/
structure RootInput where
  callback : Callback
  spec : SpecPageRead
  reads : Reads

/-! ### Presence and per-child constants -/

def rootPresenceValid (config : Config) : Bool :=
  config.presentChildrenMask &&& rootBaseChildren == rootBaseChildren &&
    config.presentChildrenMask &&& ~~~rootKnownChildren == 0

def rootPresentChildren (config : Config) : UInt64 :=
  if !rootPresenceValid config then rootBaseChildren else config.presentChildrenMask

def rootGoneChannel (child : RootChild) : UInt32 :=
  if child = childBlk then goneChannelBlk
  else if child = childBeam then goneChannelBeam
  else goneChannelNone

def rootRestartBudget (child : RootChild) : UInt32 :=
  if child = childBeam then beamRestartBudget else restartBudget

def rootRestartEntry (config : Config) (child : RootChild) : UInt64 :=
  if child = childBeam then config.beamResetEntry else config.restartEntry

/-- Driver-class index to child id. -/
def rootClassChild (index : UInt32) : RootChild :=
  [childSerial, childTimer, childBlk, childEth].getD index.toNat childSerial

/-! ### The restart path -/

/-- `root_status_ticks`: a raw counter read, 0 once the clock is lost. -/
def rootStatusTicks (state : RootState) (read : UInt64) : UInt64 :=
  if state.rootClockState.available then read else 0

def rootRestartInputsFor (config : Config) (state : RootState) (child : RootChild) :
    RootRestartInputs :=
  { child
    compiled := rootRestartBudget child
    hardMax := hardBudgetMax
    entry := rootRestartEntry config child
    timed :=
      if config.rootTestBudget then
        { enabled := true, policy := state.rootTestBudget, lifetimeLimit := testLifetimeLimit }
      else {}
    clockAvailable := state.rootClockState.available
    nowTicks := state.rootClockState.lastTicks }

/-- The lifetime ceiling published for a child. -/
def rootStatusBudget (config : Config) (state : RootState) (child : RootChild) : UInt32 :=
  rootRestartCeiling state.specState (rootRestartInputsFor config state child)

def rootStatusGiveup : RootRestartAction → RootGiveupReason
  | .giveupBudgetExhausted => .budgetExhausted
  | .giveupWindowExhausted => .windowExhausted
  | .giveupLifetimeExhausted => .lifetimeExhausted
  | .giveupNoEntry => .noEntry
  | .resume | .ignoreGone => .unset

/-- The restart or give-up event for an action that was not `ignoreGone`. -/
def rootStatusOutcome (state : RootState) (child : RootChild) (action : RootRestartAction) :
    RootEvent :=
  let record := state.childRecords child
  let resumed := action = .resume
  { ticks := if state.rootClockState.available then state.rootClockState.lastTicks else 0
    kind := if resumed then .restart else .giveup
    child := UInt8.ofNat child.val
    detail := if resumed then 0 else UInt32.ofNat (rootStatusGiveup action).tag
    a := record.lifetimeCount.toUInt64
    b := record.windowCount.toUInt64 }

/-- Diagnostics of a publisher that stopped, printed once. -/
def reportStatus (state : RootState) : RootState × List RootAct :=
  ({ state with
      statusState := { state.statusState with exhausted := false, misused := false } },
    (if state.statusState.exhausted then [.puts .statusExhausted] else []) ++
    (if state.statusState.misused then [.puts .statusInvalidPublish] else []))

/-- `root_publish`, called at the tail of a callback. -/
def rootPublish (state : RootState) (child : RootChild) (events : List RootEvent)
    (read : UInt64) : RootState × List RootAct :=
  if state.statusPage.isSome && state.statusState.enabled then
    let (status, page, done) :=
      rootStatusPublish state.statusState state.statusPage child
        (some (state.childRecords child)) (rootStatusTicks state read)
        state.rootClockState.available events
    let (reported, diagnostics) :=
      reportStatus { state with statusState := status, statusPage := page }
    (reported, (if done then [.published events] else []) ++ diagnostics)
  else reportStatus state

/-- The spec page pointer: null unless the page is mapped. -/
def sharedSpec (mapped : Bool) (spec : SpecPageRead) : Option SpecPageRead :=
  if mapped then some spec else none

/-- `root_spec_refresh`: read the spec page before a restart decision. -/
def rootSpecRefresh (config : Config) (state : RootState) (spec : SpecPageRead) :
    RootState × RootSpecResult × List RootAct :=
  let (consumed, result) :=
    rootSpecConsume state.specState (sharedSpec state.specPage spec) (rootPresentChildren config)
  let refreshed := { state with specState := consumed }
  let noted :=
    if result.outcome = .applied then
      { refreshed with
        statusState := rootStatusNotePolicy refreshed.statusState
          consumed.retained.generation consumed.retained.bank
          (rootStatusBudget config refreshed)
          (fun child => rootSpecDesired consumed child 0) }
    else refreshed
  (noted, result,
    (if result.outcome = .applied then
      [.puts (.specApplied consumed.retained.generation consumed.retained.bank)] else []) ++
    (if result.record then
      [.puts (.specReject (rootSpecRejectName result.reason) result.generation result.bank)]
    else []))

/-- The event for a rejection a refresh just recorded. -/
def rootSpecEvent (state : RootState) (result : RootSpecResult) (read : UInt64) : RootEvent :=
  { ticks := rootStatusTicks state read
    kind := .specReject
    child := rootEventNoChild
    detail := UInt32.ofNat result.reason.tag
    a := result.generation
    b := result.bank.toUInt64 }

/-- `root_giveup`: mark gone, stop, tell the dependents, log. -/
def rootGiveup (config : Config) (state : RootState) (child : RootChild) (reason : String)
    (read : UInt64) : RootState × List RootAct :=
  let stopped :=
    { state with
      childRecords := Function.update state.childRecords child
        (rootRecordGiveUp (state.childRecords child)) }
  let noted :=
    { stopped with
      statusState := rootStatusNoteGone stopped.statusState child (rootStatusTicks stopped read)
        stopped.rootClockState.available }
  let gone := rootGoneChannel child
  (noted,
    [.pdStop child] ++
    (if rootChannelWired config.microkitNotifications gone then [.notify gone] else []) ++
    [.puts (.giveup child reason)])

/-- The counter sample the decision uses, through the clock checks. -/
def observeClock (state : RootState) (read : UInt64) : RootState × List RootAct :=
  if state.rootClockState.available then
    let (clock, result) := rootClockObserve state.rootClockState read
    ({ state with rootClockState := clock },
      if result ≠ .ok then [.puts .clockUnavailable] else [])
  else (state, [])

/-- Commit a charged record, resume the child at its entry and note it. -/
def rootResume (config : Config) (state : RootState) (child : RootChild) (request : Request)
    (next : RootChildRecord) (entry read : UInt64) : RootState × List RootAct :=
  let charged :=
    { state with childRecords := Function.update state.childRecords child next }
  let noted :=
    { charged with
      statusState := rootStatusNoteRestart charged.statusState child
        (rootStatusTicks charged read) charged.rootClockState.available
        (child = childBeam) }
  (noted,
    [ .pdRestart child entry,
      .puts (.restarted request child next.lifetimeCount
        (if config.rootTestBudget then some next.windowCount else none)) ])

/-- A rejected record or policy turns the clock off for good. -/
def loseClock (state : RootState) : RootState :=
  { state with rootClockState := { state.rootClockState with available := false } }

/-- Carry a plan out: ignore, resume, or give up. -/
def performPlan (config : Config) (state : RootState) (child : RootChild) (request : Request)
    (plan : RootRestartPlanResult) (entry read : UInt64) : RootState × List RootAct :=
  match plan.action with
  | .ignoreGone => (state, [.puts (.ignored child request)])
  | .resume => rootResume config state child request plan.next entry read
  | action => rootGiveup config state child (rootRestartGiveupReason action) read

/-- A decided request: the state and plan to carry out. -/
structure Decided where
  state : RootState
  plan : RootRestartPlanResult
  entry : UInt64
  spec : RootSpecResult
  acts : List RootAct

/-- The first half of `root_restart_child`: refresh the spec, sample the clock, plan. -/
def decideRequest (config : Config) (state : RootState) (child : RootChild)
    (spec : SpecPageRead) (reads : Reads) : Decided :=
  let refreshed := rootSpecRefresh config state spec
  let sampled := observeClock refreshed.1 reads.observe
  let inputs := rootRestartInputsFor config sampled.1 child
  let plan := rootRestartPlan sampled.1.specState (sampled.1.childRecords child) inputs
  { state := if plan.policyInvalid then loseClock sampled.1 else sampled.1
    plan
    entry := inputs.entry
    spec := refreshed.2.1
    acts := refreshed.2.2 ++ sampled.2 ++
      (if plan.policyInvalid then [.puts .policyInvalid] else []) }

structure Restarted where
  state : RootState
  action : RootRestartAction
  spec : RootSpecResult
  acts : List RootAct

/-- `root_restart_child`: the one path every restart request takes. -/
def rootRestartChild (config : Config) (state : RootState) (child : RootChild)
    (request : Request) (spec : SpecPageRead) (reads : Reads) : Restarted :=
  let decided := decideRequest config state child spec reads
  let performed :=
    performPlan config decided.state child request decided.plan decided.entry reads.outcome
  { state := performed.1
    action := decided.plan.action
    spec := decided.spec
    acts := decided.acts ++ performed.2 ++
      [.decided child request decided.plan.action decided.spec] }

/-! ### Entry points -/

/-- The event of an injected fault or an accepted command. -/
def controlEvent (state : RootState) (child : RootChild) (kind : RootControlKind)
    (a read : UInt64) : RootEvent :=
  { ticks := rootStatusTicks state read
    kind := .control
    child := UInt8.ofNat child.val
    detail := UInt32.ofNat kind.tag
    a }

/-- The events of one request: its own, the spec rejection seen while deciding,
then the outcome. -/
def requestEvents (restarted : Restarted) (child : RootChild) (first : List RootEvent)
    (reads : Reads) : List RootEvent :=
  first ++
  (if restarted.spec.record then
    [rootSpecEvent restarted.state restarted.spec reads.specEvent] else []) ++
  (if restarted.action ≠ .ignoreGone then
    [rootStatusOutcome restarted.state child restarted.action] else [])

/-- Decide a request and publish what came of it. -/
def restartAndPublish (config : Config) (state : RootState) (child : RootChild)
    (request : Request) (first : List RootEvent) (spec : SpecPageRead) (reads : Reads) :
    RootState × List RootAct :=
  let restarted := rootRestartChild config state child request spec reads
  let (published, acts) :=
    rootPublish restarted.state child (requestEvents restarted child first reads) reads.publish
  (published, restarted.acts ++ acts)

def notified (config : Config) (state : RootState) (channel : UInt32) (spec : SpecPageRead)
    (reads : Reads) : RootState × List RootAct :=
  match rootNotifyRoute channel rootChannels with
  | .debugRestart index =>
      restartAndPublish config state (rootClassChild index) .debugRestart [] spec reads
  | .faultInject index =>
      let child := rootClassChild index
      -- A gone child is refused: a restart would also resume it.
      if (state.childRecords child).state = .gone then
        (state, [.puts (.ignored child .faultInject)])
      else
        let event := controlEvent state child .faultInject 0 reads.control
        let (published, acts) := rootPublish state child [event] reads.publish
        (published, [.puts (.faultInject child), .pdRestart child 0] ++ acts)
  | .unexpected => (state, [.puts (.unexpectedChannel channel)])

/-- The reply to an accepted restart, filled after its publication. -/
def restartReply (decision : RootCommandDecision) (child : RootChild)
    (action : RootRestartAction) (published : RootState) : RootCommandDecision :=
  { decision with
    values :=
      { w0 := UInt64.ofNat
          (if action = .resume then RootEventKind.restart else RootEventKind.giveup).tag
        w1 := UInt64.ofNat (rootStatusGiveup action).tag
        w2 := (published.childRecords child).lifetimeCount.toUInt64
        w3 := published.statusState.seq } }

/-- `root_command_restart_child`: perform an accepted restart and fill its reply. -/
def rootCommandRestartChild (config : Config) (state : RootState)
    (decision : RootCommandDecision) (child : RootChild) (spec : SpecPageRead) (reads : Reads) :
    RootState × RootCommandDecision × List RootAct :=
  let control := controlEvent state child .restartChild decision.args.w2 reads.control
  let restarted := rootRestartChild config state child .ctlRestart spec reads
  if restarted.action = .ignoreGone then
    (restarted.state, { decision with result := .refused }, restarted.acts)
  else
    let (published, acts) :=
      rootPublish restarted.state child (requestEvents restarted child [control] reads)
        reads.publish
    let answered := restartReply decision child restarted.action published
    ({ published with commandState := rootCommandComplete published.commandState answered },
      answered, restarted.acts ++ acts)

/-- Root's state as a command sees it. -/
def rootCommandView (config : Config) (state : RootState) : RootCommandView :=
  { abiVersion := UInt64.ofNat abiVersion
    rootGeneration := state.statusState.rootGeneration
    beamIncarnation := state.statusState.beamIncarnation
    cntfrq := state.statusState.frequency
    seq := state.statusState.seq
    publishing := state.statusPage.isSome && state.statusState.enabled
    presentMask := rootPresentChildren config
    driverMask := rootDriverChildren
    records := state.childRecords }

/-- Perform a decided command and reply. -/
def performCommand (config : Config) (state : RootState) (decision : RootCommandDecision)
    (spec : SpecPageRead) (reads : Reads) : RootState × List RootAct :=
  match decision.action with
  | .none => (state, [.reply decision.result decision.values])
  | .restart child =>
      let (performed, answered, acts) :=
        rootCommandRestartChild config state decision child spec reads
      (performed, acts ++ [.reply answered.result answered.values])

/-- The decision on a framed command, counter sampled as for status. -/
def decideCommand (config : Config) (state : RootState) (framed : RootCommandState)
    (label : UInt64) (args : CommandWords) (read : UInt64) :
    RootCommandState × RootCommandDecision :=
  rootCommandDecide framed (rootCommandView config state) label.toUInt16 args
    (rootStatusTicks state read) state.rootClockState.available

/-- `protected`: the frame is checked before any message register is read. -/
def protectedCall (config : Config) (state : RootState) (channel : UInt32) (label count : UInt64)
    (args : CommandWords) (spec : SpecPageRead) (reads : Reads) : RootState × List RootAct :=
  let framed := rootCommandFrame state.commandState channel controlPpChannelRoot label count
  if framed.2 ≠ .ok then
    ({ state with commandState := framed.1 }, [.reply framed.2 {}])
  else
    let decided := decideCommand config state framed.1 label args reads.entry
    performCommand config { state with commandState := decided.1 } decided.2 spec reads

/-- A message register, zero when the message does not carry it. -/
def faultWord (count : UInt64) (index : UInt64) (mr : UInt64) : UInt64 :=
  if count > index then mr else 0

/-- The observation of a fault. -/
def noteFault (state : RootState) (child : RootChild) (label count mr0 mr1 read : UInt64) :
    RootState :=
  { state with
    statusState := rootStatusNoteFault state.statusState child label count
      (faultWord count 0 mr0) (faultWord count 1 mr1) (rootStatusTicks state read)
      state.rootClockState.available }

def faultEvent (state : RootState) (child : RootChild) (label count mr0 mr1 read : UInt64) :
    RootEvent :=
  { ticks := rootStatusTicks state read
    kind := .fault
    child := UInt8.ofNat child.val
    flags := faultWordFlags count
    detail := wireLabel label
    a := faultWord count 0 mr0
    b := faultWord count 1 mr1 }

/-- `fault`: log, check the child, note the fault, decide, publish. -/
def fault (config : Config) (state : RootState) (rawChild : UInt32)
    (label count mr0 mr1 : UInt64) (spec : SpecPageRead) (reads : Reads) :
    RootState × List RootAct :=
  let logged : RootAct :=
    .puts (.fault rawChild label (if count ≥ 1 then some mr0 else none)
      (if count ≥ 2 then some mr1 else none))
  match rootChildFromRaw rawChild (rootPresentChildren config) with
  | none => (state, [logged, .puts (.reject rawChild)])
  | some child =>
      let noted := noteFault state child label count mr0 mr1 reads.entry
      let published := restartAndPublish config noted child .restart
        [faultEvent state child label count mr0 mr1 reads.entry] spec reads
      (published.1, logged :: published.2)

/-- One callback. -/
def rootStep (config : Config) (state : RootState) (input : RootInput) :
    RootState × List RootAct :=
  match input.callback with
  | .fault rawChild label count mr0 mr1 =>
      fault config state rawChild label count mr0 mr1 input.spec input.reads
  | .notified channel => notified config state channel input.spec input.reads
  | .protectedCall channel label count args =>
      protectedCall config state channel label count args input.spec input.reads

/-- Root as a machine over its callbacks. -/
def rootMachine (config : Config) : Transducer RootState RootInput RootAct where
  step := rootStep config

/-! ### Boot -/

/-- The counter frequency, the status memory as it powers up, and the samples
`init` takes, in that order. -/
structure Boot where
  frequency : UInt64
  statusMemory : Memory
  observe : UInt64
  status : UInt64
  command : UInt64

/-- The clock after `init`, and its log line. -/
def bootClock (boot : Boot) : RootClock × LogLine :=
  let (clock, started) := rootClockInit boot.frequency clockMinHz clockMaxHz
  if started ≠ .ok then (clock, .clockUnavailable)
  else
    let (observed, result) := rootClockObserve clock boot.observe
    (observed, if result ≠ .ok then .clockUnavailable else .clockFreq boot.frequency)

/-- The timed test policy, zero when the clock gives no interval. -/
def bootTestBudget (clock : RootClock) : RootBudgetPolicy :=
  match rootClockInterval clock testLeakMs with
  | .ok interval =>
      { capacity := testWindowCapacity
        lifetimeLimit := testLifetimeLimit
        leakIntervalTicks := interval }
  | .error _ => {}

/-- `init`. -/
def rootInit (config : Config) (boot : Boot) : RootState × List RootAct :=
  let (clock, clockLine) := bootClock boot
  let mapped := rootPresenceValid config && config.rootStatusStart == statusRootVaddr
  let blank : RootState :=
    { childRecords := fun _ => {}
      commandState := {}
      statusState := {}
      statusPage := none
      specState := rootSpecInit
      specPage := config.orchestratorSpecView == specRootVaddr
      rootClockState := clock
      rootTestBudget := if config.rootTestBudget then bootTestBudget clock else {} }
  let (status, page) :=
    rootStatusInit (if mapped then some boot.statusMemory else none)
      (rootPresentChildren config) (rootStatusTicks blank boot.status)
      (if clock.available then boot.frequency else 0) (rootStatusBudget config blank)
  let refillTicks :=
    match rootClockInterval clock commandRateRefillMs with
    | .ok ticks => ticks
    | .error _ => 0
  ({ blank with
      statusState := status
      statusPage := page
      commandState := rootCommandInit commandRateTokens refillTicks
        (rootStatusTicks blank boot.command) clock.available },
    [ .puts clockLine,
      .puts (.init restartBudget beamRestartBudget config.restartEntry config.beamResetEntry) ] ++
    (if page.isSome then
      [.published [bootEvent status
        (if status.frequency ≠ 0 then rootStatusTicks blank boot.status else 0)]]
    else []))

/-- Root's state after boot and the inputs. -/
def rootAfter (config : Config) (boot : Boot) (inputs : List RootInput) : RootState :=
  (rootMachine config).after (rootInit config boot).1 inputs

/-- Everything Root does from boot over the inputs. -/
def rootTrace (config : Config) (boot : Boot) (inputs : List RootInput) : List RootAct :=
  (rootInit config boot).2 ++ (rootMachine config).trace (rootInit config boot).1 inputs

/-! ### A concrete image -/

/-- A production image: every base child, both pages mapped, both gone channels wired. -/
def sampleConfig : Config :=
  { restartEntry := 0x200000
    beamResetEntry := 0x200000
    presentChildrenMask := rootBaseChildren
    rootStatusStart := statusRootVaddr
    orchestratorSpecView := specRootVaddr
    microkitNotifications := 0x14ff
    rootTestBudget := false }

def sampleBoot : Boot :=
  { frequency := 62500000
    statusMemory := fun _ => 0xff
    observe := 1
    status := 2
    command := 3 }

def sampleReads : Reads :=
  { entry := 10, control := 11, observe := 12, outcome := 13, specEvent := 14, publish := 15 }

/-- A fault of a child, over a spec page that was never written. -/
def sampleFault (child : RootChild) : RootInput :=
  { callback := .fault (UInt32.ofNat child.val) 6 2 0x1000 0x2000
    spec := .still fun _ => 0
    reads := sampleReads }

end Chrysopolis.Root
