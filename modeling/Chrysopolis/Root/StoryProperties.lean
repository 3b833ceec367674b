import Chrysopolis.Root.AtMostOnceProperties
import Chrysopolis.Root.PolicyProperties

/-! What the console says about restarts and what the event ring says. Each callback
tells one story: the line of a decided request beside its outcome event, the line of
an injection beside its control event, or nothing on either side. -/

set_option autoImplicit false

namespace Chrysopolis.Root

open Chrysopolis.Abi
open Chrysopolis.Support

/-! ### The console -/

/-- The line answers a request or announces an injected fault. -/
def LogLine.tells : LogLine → Bool
  | .restarted .. | .giveup .. | .ignored .. | .faultInject _ => true
  | _ => false

def RootAct.toldLine : RootAct → Option LogLine
  | .puts line => if line.tells then some line else none
  | _ => none

/-- Those lines of the console, in order. -/
def told (acts : List RootAct) : List LogLine := acts.filterMap RootAct.toldLine

theorem told_append (first second : List RootAct) :
    told (first ++ second) = told first ++ told second :=
  List.filterMap_append

/-- The line that answers a planned request. -/
def outcomeLine (config : Config) (child : RootChild) (request : Request)
    (plan : RootRestartPlanResult) : LogLine :=
  match plan.action with
  | .ignoreGone => .ignored child request
  | .resume =>
      .restarted request child plan.next.lifetimeCount
        (if config.rootTestBudget then some plan.next.windowCount else none)
  | action => .giveup child (rootRestartGiveupReason action)

theorem outcomeLine_gaveUp (config : Config) (child : RootChild) (request : Request)
    {plan : RootRestartPlanResult} (stops : plan.action.GivesUp) :
    outcomeLine config child request plan =
      .giveup child (rootRestartGiveupReason plan.action) := by
  simp only [outcomeLine]
  cases action : plan.action with
  | ignoreGone => simp [RootRestartAction.GivesUp, action, outcomeOf] at stops
  | resume => simp [RootRestartAction.GivesUp, action, outcomeOf] at stops
  | _ => rfl

theorem rootGiveup_told (config : Config) (state : RootState) (child : RootChild)
    (reason : String) (read : UInt64) :
    told (rootGiveup config state child reason read).2 = [.giveup child reason] := by
  simp only [rootGiveup]
  split_ifs <;> rfl

theorem performPlan_told (config : Config) (state : RootState) (child : RootChild)
    (request : Request) (plan : RootRestartPlanResult) (entry read : UInt64) :
    told (performPlan config state child request plan entry read).2 =
      [outcomeLine config child request plan] := by
  simp only [performPlan, outcomeLine]
  cases plan.action with
  | ignoreGone => rfl
  | resume => rfl
  | _ => exact rootGiveup_told ..

theorem decideRequest_told (config : Config) (state : RootState) (child : RootChild)
    (spec : SpecPageRead) (reads : Reads) :
    told (decideRequest config state child spec reads).acts = [] := by
  have refreshed : told (rootSpecRefresh config state spec).2.2 = [] := by
    simp only [rootSpecRefresh]
    split_ifs <;> rfl
  have observed : told (observeClock (rootSpecRefresh config state spec).1 reads.observe).2 =
      [] := by
    simp only [observeClock]
    split_ifs <;> rfl
  have invalid : ∀ policyInvalid : Bool,
      told (if policyInvalid then [.puts .policyInvalid] else []) = [] := by
    intro policyInvalid
    cases policyInvalid <;> rfl
  simp only [decideRequest, told_append, refreshed, observed, invalid, List.append_nil]

/-- The restart path answers its request with one line. -/
theorem rootRestartChild_told (config : Config) (state : RootState) (child : RootChild)
    (request : Request) (spec : SpecPageRead) (reads : Reads) :
    told (rootRestartChild config state child request spec reads).acts =
      [outcomeLine config child request
        (state.decisions.plan config child spec reads.observe)] := by
  have planned := (decideRequest_effect config state child spec reads).plan
  simp only [rootRestartChild, told_append, decideRequest_told, performPlan_told, planned]
  rfl

theorem reportStatus_told (state : RootState) : told (reportStatus state).2 = [] := by
  simp only [reportStatus]
  split_ifs <;> rfl

theorem rootPublish_told (state : RootState) (child : RootChild) (events : List RootEvent)
    (read : UInt64) : told (rootPublish state child events read).2 = [] := by
  simp only [rootPublish]
  split_ifs
  · exact reportStatus_told _
  · exact reportStatus_told _
  · exact reportStatus_told _

/-! ### Publications that went through -/

/-- While Root still publishes, what it was given to publish is in the ring. -/
theorem rootPublish_published {state : RootState} {child : RootChild} {events : List RootEvent}
    {read : UInt64}
    (publishing : Publishing (rootPublish state child events read).1.statusState
      (rootPublish state child events read).1.statusPage) :
    publishedOf (rootPublish state child events read).2 = events := by
  have reported : ∀ after : RootState, publishedOf (reportStatus after).2 = [] := by
    intro after
    simp only [reportStatus]
    split_ifs <;> rfl
  by_cases before : (state.statusPage.isSome && state.statusState.enabled) = true
  · obtain ⟨mapped, enabled⟩ := Bool.and_eq_true_iff.mp before
    simp only [rootPublish, if_pos before] at publishing ⊢
    cases checked : publishCheck state.statusState state.statusPage child
        (some (state.childRecords child)) events with
    | disabled =>
        exfalso
        simp only [publishCheck] at checked
        split_ifs at checked with disabled
        simp [enabled, Option.isNone_eq_false_iff.mpr mapped] at disabled
    | misused =>
        simp only [rootStatusPublish, checked] at publishing
        exact absurd publishing.2 Bool.false_ne_true
    | exhausted =>
        simp only [rootStatusPublish, checked] at publishing
        exact absurd publishing.2 Bool.false_ne_true
    | publish =>
        simp only [rootStatusPublish, checked, if_true, publishedOf_append, reported]
        exact (List.append_nil _).trans (List.append_nil _)
  · exfalso
    simp only [rootPublish, if_neg before] at publishing
    exact before (Bool.and_eq_true_iff.mpr publishing)

theorem rootRestartChild_publishedOf (config : Config) (state : RootState) (child : RootChild)
    (request : Request) (spec : SpecPageRead) (reads : Reads) :
    publishedOf (rootRestartChild config state child request spec reads).acts = [] := by
  rw [publishedOf, List.flatMap_eq_nil_iff]
  intro act member
  cases act with
  | published events =>
      exact absurd member
        (rootRestartChild_unpublished config state child request spec reads events)
  | _ => rfl

/-- A writer that publishes now has never stopped. -/
theorem StatusMove.publishing {events : List RootEvent} {state next : RootStatusState}
    {page nextPage : Option Memory} (moved : StatusMove state page events next nextPage)
    (publishing : Publishing next nextPage) : Publishing state page := by
  cases moved with
  | note child change flags =>
      have kept : (observe state child change).enabled = state.enabled := by
        simp only [observe]
        split_ifs <;> rfl
      exact ⟨publishing.1, kept ▸ publishing.2⟩
  | incarnate | policy | report => exact publishing
  | stop => exact absurd publishing.2 Bool.false_ne_true
  | publish child record now clockValid events checked known => exact ⟨rfl, publishing.2⟩

theorem StatusRun.publishing {events : List RootEvent} {state next : RootStatusState}
    {page nextPage : Option Memory} (run : StatusRun state page events next nextPage)
    (publishing : Publishing next nextPage) : Publishing state page := by
  induction run with
  | refl => exact publishing
  | move first _ ih => exact first.publishing (ih publishing)

/-! ### One callback -/

/-- What a request publishes before its outcome: its own event if it has one, then
the spec rejection recorded on the way. -/
inductive Asked (child : RootChild) : Request → List RootEvent → Prop where
  | fault {event : RootEvent} {rejects : List RootEvent} (kind : event.kind = .fault)
      (about : event.child = UInt8.ofNat child.val)
      (others : ∀ reject ∈ rejects, reject.kind = .specReject) :
      Asked child .restart (event :: rejects)
  | debug {rejects : List RootEvent} (others : ∀ reject ∈ rejects, reject.kind = .specReject) :
      Asked child .debugRestart rejects
  | control {event : RootEvent} {rejects : List RootEvent} (kind : event.kind = .control)
      (about : event.child = UInt8.ofNat child.val)
      (detail : event.detail = UInt32.ofNat RootControlKind.restartChild.tag)
      (others : ∀ reject ∈ rejects, reject.kind = .specReject) :
      Asked child .ctlRestart (event :: rejects)

/-- The answer to a request, on the console and in the ring. -/
inductive Answered (child : RootChild) (request : Request) (before : RootChildState)
    (action : RootRestartAction) : List LogLine → List RootEvent → Prop where
  | ignored (gone : before = .gone) {asked : List RootEvent} (first : Asked child request asked) :
      Answered child request before action [.ignored child request] asked
  | restarted (live : before = .live) (count : UInt32) (window : Option UInt32)
      {asked : List RootEvent} {event : RootEvent} (first : Asked child request asked)
      (kind : event.kind = .restart) (about : event.child = UInt8.ofNat child.val)
      (word : event.a = count.toUInt64) :
      Answered child request before action [.restarted request child count window]
        (asked ++ [event])
  | gaveUp (live : before = .live) (stops : action.GivesUp)
      {asked : List RootEvent} {event : RootEvent} (first : Asked child request asked)
      (kind : event.kind = .giveup) (about : event.child = UInt8.ofNat child.val)
      (detail : event.detail = UInt32.ofNat (rootStatusGiveup action).tag) :
      Answered child request before action [.giveup child (rootRestartGiveupReason action)]
        (asked ++ [event])

/-- The events before the outcome, of any publication of the restart path. -/
theorem asked_rejects {child : RootChild} {request : Request} {first : List RootEvent}
    (asked : ∀ rejects : List RootEvent, (∀ reject ∈ rejects, reject.kind = .specReject) →
      Asked child request (first ++ rejects)) (restarted : Restarted) (reads : Reads) :
    Asked child request (first ++ if restarted.spec.record then
      [rootSpecEvent restarted.state restarted.spec reads.specEvent] else []) := by
  apply asked
  intro reject member
  split_ifs at member
  · obtain rfl := List.mem_singleton.mp member
    rfl
  · simp at member

/-- A decided request that Root published tells its outcome on both sides. -/
theorem restart_answered {config : Config} {state : RootState} {child : RootChild}
    {request : Request} {first : List RootEvent} {spec : SpecPageRead} {reads : Reads}
    (asked : ∀ rejects : List RootEvent, (∀ reject ∈ rejects, reject.kind = .specReject) →
      Asked child request (first ++ rejects))
    (publishing :
      let restarted := rootRestartChild config state child request spec reads
      let published := rootPublish restarted.state child
        (requestEvents restarted child first reads) reads.publish
      Publishing published.1.statusState published.1.statusPage) :
    let restarted := rootRestartChild config state child request spec reads
    let published := rootPublish restarted.state child
      (requestEvents restarted child first reads) reads.publish
    Answered child request (state.childRecords child).state
      (state.decisions.plan config child spec reads.observe).action
      (told (restarted.acts ++ published.2)) (publishedOf (restarted.acts ++ published.2)) := by
  intro restarted published
  have effect := rootRestartChild_effect config state child request spec reads
  have before := asked_rejects asked restarted reads
  have lines : told (restarted.acts ++ published.2) = [outcomeLine config child request
      (state.decisions.plan config child spec reads.observe)] := by
    rw [told_append, rootPublish_told, List.append_nil]
    exact rootRestartChild_told ..
  have events : publishedOf (restarted.acts ++ published.2) =
      requestEvents restarted child first reads := by
    rw [publishedOf_append, rootPublish_published publishing]
    simp only [restarted, rootRestartChild_publishedOf, List.nil_append]
  have record : restarted.state.childRecords child =
      (state.decisions.plan config child spec reads.observe).next := by
    have records := congrFun (congrArg DecisionState.childRecords effect.decisions) child
    exact records.trans (Function.update_self ..)
  rw [lines, events]
  have action : restarted.action =
      (state.decisions.plan config child spec reads.observe).action := effect.action
  have outcome : ∀ acted : restarted.action ≠ .ignoreGone,
      requestEvents restarted child first reads =
        (first ++ if restarted.spec.record then
          [rootSpecEvent restarted.state restarted.spec reads.specEvent] else []) ++
          [rootStatusOutcome restarted.state child restarted.action] := fun acted => by
    simp only [requestEvents, if_pos acted]
  cases rootRestartPlan_of_plan config state.decisions child spec reads.observe with
  | ignored gone ignores next =>
      have same : requestEvents restarted child first reads =
          first ++ if restarted.spec.record then
            [rootSpecEvent restarted.state restarted.spec reads.specEvent] else [] := by
        simp only [requestEvents, action, ignores, ne_eq, not_true_eq_false, if_false,
          List.append_nil]
      rw [same, outcomeLine, ignores]
      exact .ignored gone before
  | resumed live resumes below usable stays charged =>
      rw [outcome (by rw [action, resumes]; decide), outcomeLine, resumes]
      have told : (rootStatusOutcome restarted.state child restarted.action).kind = .restart := by
        simp only [rootStatusOutcome, action, resumes, if_true]
      refine .restarted live _ _ before told rfl ?_
      simp only [rootStatusOutcome, record]
  | gaveUp live stops next =>
      have effect : outcomeOf restarted.action = .stop := by rw [action]; exact stops
      have acted : restarted.action ≠ .ignoreGone := by
        intro same
        rw [same] at effect
        exact absurd effect (by decide)
      have notResumed : restarted.action ≠ .resume := by
        intro same
        rw [same] at effect
        exact absurd effect (by decide)
      rw [outcome acted, outcomeLine_gaveUp config child request stops]
      refine .gaveUp live stops before ?_ rfl ?_
      · simp only [rootStatusOutcome, if_neg notResumed]
      · simp only [rootStatusOutcome, if_neg notResumed]
        rw [action]

theorem restartAndPublish_answered {config : Config} {state : RootState} {child : RootChild}
    {request : Request} {first : List RootEvent} {spec : SpecPageRead} {reads : Reads}
    (asked : ∀ rejects : List RootEvent, (∀ reject ∈ rejects, reject.kind = .specReject) →
      Asked child request (first ++ rejects))
    (publishing : Publishing
      (restartAndPublish config state child request first spec reads).1.statusState
      (restartAndPublish config state child request first spec reads).1.statusPage) :
    Answered child request (state.childRecords child).state
      (state.decisions.plan config child spec reads.observe).action
      (told (restartAndPublish config state child request first spec reads).2)
      (publishedOf (restartAndPublish config state child request first spec reads).2) :=
  restart_answered asked publishing

/-- A request's answer, from the state and input it was decided with. -/
def RequestAnswered (config : Config) (state : RootState) (input : RootInput)
    (child : RootChild) (request : Request) : List LogLine → List RootEvent → Prop :=
  Answered child request (state.childRecords child).state
    (state.decisions.plan config child input.spec input.reads.observe).action

/-- What one callback tells, by what it was. -/
inductive Story (config : Config) (state : RootState) (input : RootInput) :
    List LogLine → List RootEvent → Prop where
  | fault {rawChild : UInt32} {label count mr0 mr1 : UInt64} (child : RootChild)
      (callback : input.callback = .fault rawChild label count mr0 mr1)
      (known : rootChildFromRaw rawChild (rootPresentChildren config) = some child)
      {lines : List LogLine} {events : List RootEvent}
      (answered : RequestAnswered config state input child .restart lines events) :
      Story config state input lines events
  | debugRestart {channel index : UInt32} (callback : input.callback = .notified channel)
      (routed : rootNotifyRoute channel rootChannels = .debugRestart index)
      {lines : List LogLine} {events : List RootEvent}
      (answered : RequestAnswered config state input (rootClassChild index) .debugRestart lines
        events) :
      Story config state input lines events
  | refused {channel index : UInt32} (callback : input.callback = .notified channel)
      (routed : rootNotifyRoute channel rootChannels = .faultInject index)
      (gone : (state.childRecords (rootClassChild index)).state = .gone) :
      Story config state input [.ignored (rootClassChild index) .faultInject] []
  | injected {channel index : UInt32} (callback : input.callback = .notified channel)
      (routed : rootNotifyRoute channel rootChannels = .faultInject index)
      (live : (state.childRecords (rootClassChild index)).state = .live) {event : RootEvent}
      (kind : event.kind = .control)
      (about : event.child = UInt8.ofNat (rootClassChild index).val)
      (detail : event.detail = UInt32.ofNat RootControlKind.faultInject.tag) :
      Story config state input [.faultInject (rootClassChild index)] [event]
  | command {channel : UInt32} {label count : UInt64} {args : CommandWords} (child : RootChild)
      (callback : input.callback = .protectedCall channel label count args)
      (live : (state.childRecords child).state ≠ .gone)
      {lines : List LogLine} {events : List RootEvent}
      (answered : RequestAnswered config state input child .ctlRestart lines events) :
      Story config state input lines events
  | unknown {rawChild : UInt32} {label count mr0 mr1 : UInt64}
      (callback : input.callback = .fault rawChild label count mr0 mr1)
      (unknown : rootChildFromRaw rawChild (rootPresentChildren config) = none) :
      Story config state input [] []
  | unexpected {channel : UInt32} (callback : input.callback = .notified channel)
      (routed : rootNotifyRoute channel rootChannels = .unexpected) :
      Story config state input [] []
  | unaccepted {channel : UInt32} {label count : UInt64} {args : CommandWords}
      (callback : input.callback = .protectedCall channel label count args) :
      Story config state input [] []

theorem protectedCall_told {config : Config} {state : RootState} {channel : UInt32}
    {label count : UInt64} {args : CommandWords} {spec : SpecPageRead} {reads : Reads}
    (refused : acceptedRestart config state
      ⟨.protectedCall channel label count args, spec, reads⟩ = none) :
    told (protectedCall config state channel label count args spec reads).2 = [] := by
  simp only [acceptedRestart] at refused
  split_ifs at refused with framed
  · simp only [protectedCall, if_pos framed]
    rfl
  · simp only [protectedCall, if_neg framed, performCommand_none config _ spec reads refused]
    rfl

theorem publishedOf_eq_nil {acts : List RootAct} (unpublished : Unpublished acts) :
    publishedOf acts = [] := by
  rw [publishedOf, List.flatMap_eq_nil_iff]
  intro act member
  cases act with
  | published events => exact absurd member (unpublished events)
  | _ => rfl

/-- Every callback that leaves Root publishing tells one story. -/
theorem rootStep_story (config : Config) (state : RootState) (input : RootInput)
    (publishing : Publishing (rootStep config state input).1.statusState
      (rootStep config state input).1.statusPage) :
    Story config state input (told (rootStep config state input).2)
      (publishedOf (rootStep config state input).2) := by
  obtain ⟨callback, spec, reads⟩ := input
  cases callback with
  | fault rawChild label count mr0 mr1 =>
      simp only [rootStep, fault] at publishing ⊢
      cases known : rootChildFromRaw rawChild (rootPresentChildren config) with
      | none => exact .unknown rfl known
      | some child =>
          simp only [known] at publishing ⊢
          have asked : ∀ rejects : List RootEvent,
              (∀ reject ∈ rejects, reject.kind = .specReject) → Asked child .restart
                ([faultEvent state child label count mr0 mr1 reads.entry] ++ rejects) :=
            fun rejects others => .fault rfl rfl others
          have answered := restartAndPublish_answered asked publishing
          exact .fault child rfl known answered
  | notified channel =>
      simp only [rootStep, notified] at publishing ⊢
      cases routed : rootNotifyRoute channel rootChannels with
      | debugRestart index =>
          simp only [routed] at publishing ⊢
          have asked : ∀ rejects : List RootEvent,
              (∀ reject ∈ rejects, reject.kind = .specReject) →
                Asked (rootClassChild index) .debugRestart ([] ++ rejects) :=
            fun rejects others => .debug others
          have answered := restartAndPublish_answered asked publishing
          exact .debugRestart rfl routed answered
      | faultInject index =>
          simp only [routed] at publishing ⊢
          by_cases gone : (state.childRecords (rootClassChild index)).state = .gone
          · simp only [if_pos gone]
            exact .refused rfl routed gone
          · simp only [if_neg gone] at publishing ⊢
            rw [told_append, rootPublish_told, publishedOf_append, rootPublish_published publishing]
            exact .injected rfl routed (RootChildRecord.live_of_not_gone gone) rfl rfl rfl
      | unexpected => exact .unexpected rfl routed
  | protectedCall channel label count args =>
      cases accepted : acceptedRestart config state
          ⟨.protectedCall channel label count args, spec, reads⟩ with
      | none =>
          simp only [rootStep, protectedCall_told accepted,
            publishedOf_eq_nil (protectedCall_unpublished accepted)]
          exact .unaccepted rfl
      | some child =>
          obtain ⟨command, call⟩ := acceptedRestart_call accepted
          have performed := call.performed
          rw [performCommand_accepted config { state with commandState := command } label args
            spec reads call.preconditions.live] at performed
          simp only [rootStep, performed] at publishing ⊢
          have asked : ∀ rejects : List RootEvent,
              (∀ reject ∈ rejects, reject.kind = .specReject) → Asked child .ctlRestart
                ([controlEvent { state with commandState := command } child .restartChild args.w2
                  reads.control] ++ rejects) :=
            fun rejects others => .control rfl rfl rfl others
          have answered := restart_answered asked publishing
          rw [told_append, publishedOf_append]
          have replied : ∀ values, told [.reply .ok values] = [] ∧
              publishedOf [.reply .ok values] = [] := fun _ => ⟨rfl, rfl⟩
          rw [(replied _).1, (replied _).2, List.append_nil, List.append_nil]
          exact .command child rfl call.preconditions.live answered

/-! ### Both sides of a run -/

/-- The counts on a child's restart, debug-restart and ctl-restart lines. -/
def restartCounts (child : RootChild) (lines : List LogLine) : List UInt64 :=
  lines.filterMap fun line =>
    match line with
    | .restarted _ target count _ => if target = child then some count.toUInt64 else none
    | _ => none

def giveupReasons (child : RootChild) (lines : List LogLine) : List String :=
  lines.filterMap fun line =>
    match line with
    | .giveup target reason => if target = child then some reason else none
    | _ => none

def injections (child : RootChild) (lines : List LogLine) : Nat :=
  lines.count (.faultInject child)

/-- The events of one kind about a child. -/
def eventsAbout (child : RootChild) (kind : RootEventKind) (events : List RootEvent) :
    List RootEvent :=
  events.filter fun event => event.kind = kind ∧ event.child = UInt8.ofNat child.val

/-- The control events of one kind about a child. -/
def controlsAbout (child : RootChild) (control : RootControlKind) (events : List RootEvent) :
    List RootEvent :=
  (eventsAbout child .control events).filter fun event =>
    event.detail = UInt32.ofNat control.tag

/-- The reason on the console is the reason in the ring. -/
def SameReason (reason : String) (event : RootEvent) : Prop :=
  ∃ action : RootRestartAction, action.GivesUp ∧ reason = rootRestartGiveupReason action ∧
    event.detail = UInt32.ofNat (rootStatusGiveup action).tag

/-- The console and the ring say the same about a child. -/
structure ConsoleAgrees (child : RootChild) (lines : List LogLine) (events : List RootEvent) :
    Prop where
  restarts : restartCounts child lines = (eventsAbout child .restart events).map (·.a)
  giveups : List.Forall₂ SameReason (giveupReasons child lines)
    (eventsAbout child .giveup events)
  injected : injections child lines = (controlsAbout child .faultInject events).length

theorem ConsoleAgrees.append {child : RootChild} {lines more : List LogLine}
    {events later : List RootEvent} (first : ConsoleAgrees child lines events)
    (second : ConsoleAgrees child more later) :
    ConsoleAgrees child (lines ++ more) (events ++ later) := by
  refine ⟨?_, ?_, ?_⟩
  · simp only [restartCounts, eventsAbout, List.filterMap_append, List.filter_append,
      List.map_append]
    exact congrArg₂ _ first.restarts second.restarts
  · simp only [giveupReasons, eventsAbout, List.filterMap_append, List.filter_append]
    exact List.rel_append first.giveups second.giveups
  · simp only [injections, controlsAbout, eventsAbout, List.count_append, List.filter_append,
      List.length_append]
    exact congrArg₂ _ first.injected second.injected

/-- Child numbers are distinct bytes. -/
theorem child_byte_inj {left right : RootChild}
    (same : UInt8.ofNat left.val = UInt8.ofNat right.val) : left = right := by
  have bytes := congrArg UInt8.toNat same
  have small := left.isLt
  have smallRight := right.isLt
  simp only [childCount] at small smallRight
  simp only [UInt8.toNat_ofNat'] at bytes
  exact Fin.ext (by omega)

/-- Events of other kinds are no part of the comparison. -/
theorem ConsoleAgrees.unheard {child : RootChild} {events : List RootEvent}
    (other : ∀ event ∈ events, event.kind ≠ .restart ∧ event.kind ≠ .giveup ∧
      ¬ (event.kind = .control ∧ event.detail = UInt32.ofNat RootControlKind.faultInject.tag)) :
    ConsoleAgrees child [] events := by
  have none : ∀ kind ∈ [RootEventKind.restart, .giveup], eventsAbout child kind events = [] := by
    intro kind heard
    rw [eventsAbout, List.filter_eq_nil_iff]
    intro event member
    obtain ⟨notRestart, notGiveup, _⟩ := other event member
    simp only [List.mem_cons, List.not_mem_nil, or_false] at heard
    rcases heard with rfl | rfl <;> simp [notRestart, notGiveup]
  refine ⟨?_, ?_, ?_⟩
  · rw [none _ (by decide)]
    rfl
  · rw [none _ (by decide)]
    exact .nil
  · have silent : controlsAbout child .faultInject events = [] := by
      rw [controlsAbout, List.filter_eq_nil_iff]
      intro event member injects
      obtain ⟨inRing, about⟩ := List.mem_filter.mp member
      simp only [decide_eq_true_eq] at about injects
      exact (other event inRing).2.2 ⟨about.1, injects⟩
    rw [silent]
    rfl

theorem Asked.unheard {asker : RootChild} {request : Request} {asked : List RootEvent}
    (first : Asked asker request asked) (child : RootChild) : ConsoleAgrees child [] asked := by
  have rejected : ∀ reject : RootEvent, reject.kind = .specReject →
      reject.kind ≠ .restart ∧ reject.kind ≠ .giveup ∧
        ¬ (reject.kind = .control ∧
          reject.detail = UInt32.ofNat RootControlKind.faultInject.tag) := by
    intro reject kind
    simp [kind]
  apply ConsoleAgrees.unheard
  cases first with
  | fault kind about others =>
      intro event member
      rcases List.mem_cons.mp member with rfl | member
      · simp [kind]
      · exact rejected event (others event member)
  | debug others => exact fun event member => rejected event (others event member)
  | control kind about detail others =>
      intro event member
      rcases List.mem_cons.mp member with rfl | member
      · simp only [kind, detail]
        decide
      · exact rejected event (others event member)

theorem Answered.agrees {asker : RootChild} {request : Request} {before : RootChildState}
    {action : RootRestartAction} {lines : List LogLine} {events : List RootEvent}
    (answered : Answered asker request before action lines events) (child : RootChild) :
    ConsoleAgrees child lines events := by
  cases answered with
  | ignored gone first =>
      have quiet := first.unheard child
      exact ⟨quiet.restarts, quiet.giveups, quiet.injected⟩
  | @restarted live count window asked event first kind about word =>
      refine (first.unheard child).append ⟨?_, ?_, ?_⟩
      · by_cases same : asker = child
        · subst same
          simp [restartCounts, eventsAbout, kind, about, word]
        · have other : ¬ UInt8.ofNat asker.val = UInt8.ofNat child.val := fun bytes =>
            same (child_byte_inj bytes)
          simp [restartCounts, eventsAbout, about, same, other]
      · simp [giveupReasons, eventsAbout, kind]
      · simp [injections, controlsAbout, eventsAbout, kind]
  | @gaveUp live stops asked event first kind about detail =>
      refine (first.unheard child).append ⟨?_, ?_, ?_⟩
      · simp [restartCounts, eventsAbout, kind]
      · by_cases same : asker = child
        · subst same
          have reason : SameReason (rootRestartGiveupReason action) event :=
            ⟨action, stops, rfl, detail⟩
          simpa [giveupReasons, eventsAbout, kind, about] using reason
        · have other : ¬ UInt8.ofNat asker.val = UInt8.ofNat child.val := fun bytes =>
            same (child_byte_inj bytes)
          simp [giveupReasons, eventsAbout, about, same, other]
      · simp [injections, controlsAbout, eventsAbout, kind]

/-- One callback's lines and events agree about every child. -/
theorem Story.agrees {config : Config} {state : RootState} {input : RootInput}
    {lines : List LogLine} {events : List RootEvent} (story : Story config state input lines events)
    (child : RootChild) : ConsoleAgrees child lines events := by
  cases story with
  | fault asker callback known answered => exact answered.agrees child
  | debugRestart callback routed answered => exact answered.agrees child
  | refused callback routed gone => exact ⟨rfl, .nil, rfl⟩
  | @injected channel index callback routed live event kind about detail =>
      refine ⟨?_, ?_, ?_⟩
      · simp [restartCounts, eventsAbout, kind]
      · simp [giveupReasons, eventsAbout, kind]
      · by_cases same : rootClassChild index = child
        · subst same
          simp [injections, controlsAbout, eventsAbout, kind, about, detail]
        · have other : ¬ UInt8.ofNat (rootClassChild index).val = UInt8.ofNat child.val :=
            fun bytes => same (child_byte_inj bytes)
          simp [injections, controlsAbout, eventsAbout, about, same, other]
  | command asker callback live answered => exact answered.agrees child
  | unknown => exact ⟨rfl, .nil, rfl⟩
  | unexpected => exact ⟨rfl, .nil, rfl⟩
  | unaccepted => exact ⟨rfl, .nil, rfl⟩

theorem rootInit_told (config : Config) (boot : Boot) : told (rootInit config boot).2 = [] := by
  have clock : ∀ line, told [.puts (bootClock boot).2, line] = told [line] := by
    intro line
    simp only [bootClock]
    split_ifs <;> rfl
  simp only [rootInit, told_append, clock]
  split_ifs <;> rfl

/-- While Root publishes, the console and the ring have said the same. -/
theorem rootTrace_agrees (config : Config) (boot : Boot) (inputs : List RootInput)
    (publishing : Publishing (rootAfter config boot inputs).statusState
      (rootAfter config boot inputs).statusPage) (child : RootChild) :
    ConsoleAgrees child (told (rootTrace config boot inputs))
      (publishedOf (rootTrace config boot inputs)) := by
  refine (rootMachine config).trace_invariant
    (fun acts state => Publishing state.statusState state.statusPage →
      ConsoleAgrees child (told acts) (publishedOf acts)) ?_ ?_ inputs publishing
  · intro emitted state input agrees still
    rw [told_append, publishedOf_append]
    exact (agrees ((rootStep_change config state input).publishing still)).append
      ((rootStep_story config state input still).agrees child)
  · intro _
    obtain ⟨bytes, now, frequency, budget, status, page, published⟩ := rootInit_status config boot
    rw [rootInit_told, published]
    refine .unheard fun event member => ?_
    by_cases mapped : (rootInit config boot).1.statusPage.isSome = true
    · simp only [if_pos mapped, List.mem_singleton] at member
      simp [member, bootEvent]
    · simp [if_neg mapped] at member

/-- An accepted injection publishes its control event and nothing else. -/
theorem Story.injection {config : Config} {state : RootState} {input : RootInput}
    {lines : List LogLine} {events : List RootEvent} (story : Story config state input lines events)
    {child : RootChild} (announced : .faultInject child ∈ lines) :
    ∃ event, events = [event] ∧ event.kind = .control ∧
      event.child = UInt8.ofNat child.val ∧
      event.detail = UInt32.ofNat RootControlKind.faultInject.tag := by
  have unanswered : ∀ {asker : RootChild} {request : Request},
      ¬ RequestAnswered config state input asker request lines events := by
    intro asker request answered
    cases answered <;> simp at announced
  cases story with
  | fault asker callback known answered => exact absurd answered unanswered
  | debugRestart callback routed answered => exact absurd answered unanswered
  | refused callback routed gone => simp at announced
  | @injected channel index callback routed live event kind about detail =>
      obtain rfl : child = rootClassChild index := by simpa using announced
      exact ⟨event, rfl, kind, about, detail⟩
  | command asker callback live answered => exact absurd answered unanswered
  | unknown => simp at announced
  | unexpected => simp at announced
  | unaccepted => simp at announced

/-- A request ignored because its child is gone publishes no control, restart or
give-up event. -/
theorem Story.ignored {config : Config} {state : RootState} {input : RootInput}
    {lines : List LogLine} {events : List RootEvent} (story : Story config state input lines events)
    {child : RootChild} {request : Request} (said : .ignored child request ∈ lines) :
    ∀ event ∈ events, event.kind ∉ [RootEventKind.control, .restart, .giveup] := by
  have asked : ∀ {asker : RootChild} {request : Request} {events : List RootEvent},
      request ≠ .ctlRestart → Asked asker request events →
        ∀ event ∈ events, event.kind ∉ [RootEventKind.control, .restart, .giveup] := by
    intro asker request events uncommanded first event member
    cases first with
    | fault kind about others =>
        rcases List.mem_cons.mp member with rfl | member
        · simp [kind]
        · simp [others event member]
    | debug others => simp [others event member]
    | control => exact absurd rfl uncommanded
  have answers : ∀ {asker : RootChild} {request : Request}, request ≠ .ctlRestart →
      RequestAnswered config state input asker request lines events →
        ∀ event ∈ events, event.kind ∉ [RootEventKind.control, .restart, .giveup] := by
    intro asker request uncommanded answered
    cases answered with
    | ignored gone first => exact asked uncommanded first
    | restarted => simp at said
    | gaveUp => simp at said
  cases story with
  | fault asker callback known answered => exact answers (by decide) answered
  | debugRestart callback routed answered => exact answers (by decide) answered
  | refused callback routed gone => simp
  | injected => simp at said
  | command asker callback live answered =>
      cases answered with
      | ignored gone first => exact absurd gone live
      | restarted => simp at said
      | gaveUp => simp at said
  | unknown => simp at said
  | unexpected => simp at said
  | unaccepted => simp at said

theorem mem_told {line : LogLine} {acts : List RootAct} (tells : line.tells = true)
    (member : .puts line ∈ acts) : line ∈ told acts :=
  List.mem_filterMap.mpr ⟨.puts line, member, by simp [RootAct.toldLine, tells]⟩

/-- The control event of an accepted injection, and the silence of an ignored request. -/
structure CallbackAgrees (acts : List RootAct) : Prop where
  injected : ∀ child, .puts (.faultInject child) ∈ acts →
    ∃ event, publishedOf acts = [event] ∧ event.kind = .control ∧
      event.child = UInt8.ofNat child.val ∧
      event.detail = UInt32.ofNat RootControlKind.faultInject.tag
  ignored : ∀ child request, .puts (.ignored child request) ∈ acts →
    ∀ event ∈ publishedOf acts, event.kind ∉ [RootEventKind.control, .restart, .giveup]

theorem rootStep_agrees (config : Config) (state : RootState) (input : RootInput)
    (publishing : Publishing (rootStep config state input).1.statusState
      (rootStep config state input).1.statusPage) :
    CallbackAgrees (rootStep config state input).2 := by
  have story := rootStep_story config state input publishing
  exact ⟨fun child member => story.injection (mem_told rfl member),
    fun child request member => story.ignored (mem_told rfl member)⟩

/-- Root that publishes after some callbacks published before them. -/
theorem after_publishing (config : Config) {state : RootState} (inputs : List RootInput)
    (publishing : Publishing ((rootMachine config).after state inputs).statusState
      ((rootMachine config).after state inputs).statusPage) :
    Publishing state.statusState state.statusPage := by
  induction inputs generalizing state with
  | nil => exact publishing
  | cons input inputs ih =>
      have next : Publishing (rootStep config state input).1.statusState
        (rootStep config state input).1.statusPage := ih publishing
      exact (rootStep_change config state input).publishing next

section Inversion

variable {config : Config} {state : RootState} {input : RootInput} {lines : List LogLine}
  {events : List RootEvent} (story : Story config state input lines events)

include story

theorem Story.of_debugRestart {channel index : UInt32}
    (callback : input.callback = .notified channel)
    (routed : rootNotifyRoute channel rootChannels = .debugRestart index) :
    RequestAnswered config state input (rootClassChild index) .debugRestart lines events := by
  cases story with
  | debugRestart other found answered =>
      cases callback.symm.trans other
      cases routed.symm.trans found
      exact answered
  | refused other found => cases callback.symm.trans other; cases routed.symm.trans found
  | injected other found => cases callback.symm.trans other; cases routed.symm.trans found
  | unexpected other found => cases callback.symm.trans other; cases routed.symm.trans found
  | fault child other => cases callback.symm.trans other
  | command child other => cases callback.symm.trans other
  | unknown other => cases callback.symm.trans other
  | unaccepted other => cases callback.symm.trans other

theorem Story.of_fault {rawChild : UInt32} {label count mr0 mr1 : UInt64} {child : RootChild}
    (callback : input.callback = .fault rawChild label count mr0 mr1)
    (known : rootChildFromRaw rawChild (rootPresentChildren config) = some child) :
    RequestAnswered config state input child .restart lines events := by
  cases story with
  | fault target other found answered =>
      cases callback.symm.trans other
      cases known.symm.trans found
      exact answered
  | unknown other found => cases callback.symm.trans other; cases known.symm.trans found
  | debugRestart other => cases callback.symm.trans other
  | refused other => cases callback.symm.trans other
  | injected other => cases callback.symm.trans other
  | unexpected other => cases callback.symm.trans other
  | command target other => cases callback.symm.trans other
  | unaccepted other => cases callback.symm.trans other

/-- An injection is refused for a gone child and announced for a live one. -/
theorem Story.of_faultInject {channel index : UInt32}
    (callback : input.callback = .notified channel)
    (routed : rootNotifyRoute channel rootChannels = .faultInject index) :
    ((state.childRecords (rootClassChild index)).state = .gone ∧
        lines = [.ignored (rootClassChild index) .faultInject] ∧ events = []) ∨
      ((state.childRecords (rootClassChild index)).state = .live ∧
        lines = [.faultInject (rootClassChild index)] ∧
        ∃ event, events = [event] ∧ event.kind = .control ∧
          event.child = UInt8.ofNat (rootClassChild index).val ∧
          event.detail = UInt32.ofNat RootControlKind.faultInject.tag) := by
  cases story with
  | refused other found gone =>
      cases callback.symm.trans other
      cases routed.symm.trans found
      exact .inl ⟨gone, rfl, rfl⟩
  | injected other found live kind about detail =>
      cases callback.symm.trans other
      cases routed.symm.trans found
      exact .inr ⟨live, rfl, _, rfl, kind, about, detail⟩
  | debugRestart other found => cases callback.symm.trans other; cases routed.symm.trans found
  | unexpected other found => cases callback.symm.trans other; cases routed.symm.trans found
  | fault child other => cases callback.symm.trans other
  | command child other => cases callback.symm.trans other
  | unknown other => cases callback.symm.trans other
  | unaccepted other => cases callback.symm.trans other

end Inversion

end Chrysopolis.Root
