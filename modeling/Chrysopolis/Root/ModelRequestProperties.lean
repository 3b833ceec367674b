import Chrysopolis.Root.ModelCommandProperties
import Chrysopolis.Root.PageProperties

/-! A restart request moves Root and its Erlang model alike, and so does the fault or the debug
notification that asks for one. -/

set_option autoImplicit false

namespace Chrysopolis.Root

open Chrysopolis.Abi
open Chrysopolis.Support

/-! ### The counters of the publisher -/

/-- What a status state publishes under. -/
structure StatusCounters where
  presentMask : UInt64
  rootGeneration : UInt64
  beamIncarnation : UInt64
  frequency : UInt64
  seq : UInt64
  enabled : Bool

def RootStatusState.counters (state : RootStatusState) : StatusCounters :=
  { presentMask := state.presentMask
    rootGeneration := state.rootGeneration
    beamIncarnation := state.beamIncarnation
    frequency := state.frequency
    seq := state.seq
    enabled := state.enabled }

theorem observe_statusCounters (state : RootStatusState) (child : RootChild)
    (change : RootStatusObservation → RootStatusObservation) :
    (observe state child change).counters = state.counters := by
  simp only [observe]
  split_ifs <;> rfl

/-- The counters after a restart of a child, when none ran out. -/
def restartedCounters (counters : StatusCounters) (child : RootChild)
    (action : RootRestartAction) : StatusCounters :=
  { counters with
    beamIncarnation :=
      if child = childBeam ∧ action = .resume then counters.beamIncarnation + 1
      else counters.beamIncarnation }

/-- The counters moved, or the incarnations ran out. -/
def CountersMoved (before after : RootStatusState) (child : RootChild)
    (action : RootRestartAction) : Prop :=
  after.exhausted = true ∨
    after.counters = restartedCounters before.counters child action ∧
      (child = childBeam ∧ action = .resume → before.beamIncarnation ≠ 0xFFFFFFFFFFFFFFFF)

theorem CountersMoved.still {before after : RootStatusState} {child : RootChild}
    {action : RootRestartAction} (same : after.counters = before.counters)
    (other : ¬ (child = childBeam ∧ action = .resume)) :
    CountersMoved before after child action := by
  refine .inr ⟨?_, fun resumed => absurd resumed other⟩
  rw [same, restartedCounters, if_neg other]

theorem rootStatusNoteRestart_counters {state : RootStatusState} {child : RootChild}
    (known : present state child = true) (now : UInt64) (clockValid : Bool) :
    CountersMoved state
      (rootStatusNoteRestart state child now clockValid (child = childBeam)) child .resume := by
  have closed := observe_statusCounters state child fun observation =>
    closeDown { observation with lastRestartTicks := if clockValid then now else 0 } now clockValid
  simp only [rootStatusNoteRestart, if_pos known]
  generalize observe state child _ = noted at closed ⊢
  by_cases beam : child = childBeam
  · by_cases last : state.beamIncarnation = 0xFFFFFFFFFFFFFFFF
    · simp only [beam, last, decide_true, if_true]
      exact .inl rfl
    · simp only [beam, last, decide_true, if_true, if_false]
      refine .inr ⟨?_, fun _ => last⟩
      simp only [restartedCounters, and_self, if_true, ← closed]
      exact congrArg (fun count => { noted.counters with beamIncarnation := count + 1 })
        (congrArg StatusCounters.beamIncarnation closed).symm
  · simp only [beam, decide_false, Bool.false_eq_true, if_false]
    exact .still closed fun resumed => beam resumed.1

theorem performPlan_counters (config : Config) {state : RootState} {child : RootChild}
    (known : present state.statusState child = true) (request : Request)
    (plan : RootRestartPlanResult) (entry read : UInt64) :
    CountersMoved state.statusState
      (performPlan config state child request plan entry read).1.statusState child
      plan.action := by
  simp only [performPlan]
  cases plan.action with
  | ignoreGone => exact .still rfl (by simp)
  | resume => exact rootStatusNoteRestart_counters known _ _
  | _ => exact .still (observe_statusCounters ..) (by simp)

theorem rootSpecRefresh_counters (config : Config) (state : RootState) (spec : SpecPageRead) :
    (rootSpecRefresh config state spec).1.statusState.counters = state.statusState.counters := by
  simp only [rootSpecRefresh]
  split_ifs <;> rfl

theorem decideRequest_counters (config : Config) (state : RootState) (child : RootChild)
    (spec : SpecPageRead) (reads : Reads) :
    (decideRequest config state child spec reads).state.statusState.counters =
      state.statusState.counters := by
  rw [← rootSpecRefresh_counters config state spec]
  simp only [decideRequest]
  split_ifs <;> simp only [loseClock, observeClock_state]

theorem rootRestartChild_counters (config : Config) {state : RootState} {child : RootChild}
    (known : present state.statusState child = true) (request : Request) (spec : SpecPageRead)
    (reads : Reads) :
    CountersMoved state.statusState
      (rootRestartChild config state child request spec reads).state.statusState child
      (rootRestartChild config state child request spec reads).action := by
  have decided := decideRequest_counters config state child spec reads
  have seen : present (decideRequest config state child spec reads).state.statusState child =
      true := by
    rw [← known]
    exact congrArg (fun counters => maskBit counters.presentMask child.val) decided
  have performed := performPlan_counters config seen request
    (decideRequest config state child spec reads).plan
    (decideRequest config state child spec reads).entry reads.outcome
  simp only [CountersMoved, decided] at performed
  have incarnation :
      (decideRequest config state child spec reads).state.statusState.beamIncarnation =
        state.statusState.beamIncarnation := congrArg StatusCounters.beamIncarnation decided
  rw [incarnation] at performed
  exact performed

/-- A publication that reports no exhaustion. -/
structure PublishedOnce (before after : RootState) : Prop where
  sound : before.statusState.exhausted = false
  counters : after.statusState.counters =
    { before.statusState.counters with
      seq := if before.statusPage.isSome && before.statusState.enabled then
        before.statusState.seq + 2 else before.statusState.seq }
  room : (before.statusPage.isSome && before.statusState.enabled) = true →
    (before.statusState.seq + 2).toNat = before.statusState.seq.toNat + 2
  mapped : after.statusPage.isSome = before.statusPage.isSome

theorem reportStatus_reports {state : RootState}
    (quiet : .puts .statusExhausted ∉ (reportStatus state).2) :
    state.statusState.exhausted = false := by
  by_contra exhausted
  exact quiet (by simp [reportStatus, exhausted])

theorem rootPublish_once {state : RootState} {child : RootChild} {events : List RootEvent}
    {read : UInt64} (known : present state.statusState child = true) (few : events.length ≤ 3)
    (quiet : .puts .statusExhausted ∉ (rootPublish state child events read).2) :
    PublishedOnce state (rootPublish state child events read).1 := by
  by_cases publishing : (state.statusPage.isSome && state.statusState.enabled) = true
  · obtain ⟨mapped, enabled⟩ := Bool.and_eq_true_iff.mp publishing
    simp only [rootPublish, if_pos publishing] at quiet ⊢
    have reported := reportStatus_reports (fun told => quiet (List.mem_append_right _ told))
    cases checked : publishCheck state.statusState state.statusPage child
        (some (state.childRecords child)) events with
    | publish =>
        have ready := publishCheck_ready checked
        simp only [rootStatusPublish, checked] at reported ⊢
        refine ⟨reported, ?_, fun _ => ready.seq, Option.isSome_map⟩
        simp only [if_pos publishing]
        rfl
    | exhausted =>
        simp only [rootStatusPublish, checked] at reported
        exact absurd reported (by simp)
    | disabled =>
        simp only [publishCheck] at checked
        split_ifs at checked with disabled
        simp [enabled, Option.isNone_eq_false_iff.mpr mapped] at disabled
    | misused =>
        simp only [publishCheck] at checked
        split_ifs at checked with disabled misused
        simp only [Option.isSome_some, known, Bool.not_true, Bool.and_false, Bool.or_false,
          decide_eq_true_eq] at misused
        omega
  · simp only [rootPublish, if_neg publishing] at quiet ⊢
    refine ⟨reportStatus_reports quiet, ?_, fun on => absurd on publishing, rfl⟩
    simp only [if_neg publishing]
    rfl

/-! ### One request -/

/-- A clock that still counts. -/
structure ClockReady (clock : RootClock) : Prop where
  available : clock.available = true
  scaled : clock.ticksPerMs ≠ 0

/-- The two sides between steps. -/
structure Models (config : Config) (boot : Boot) (root : Core.Root) (state : RootState) :
    Prop where
  constants : root.config = modelConfig config boot
  records : ∀ child : RootChild, ∃ record, root.records child.val = some record ∧
    SameRecord record (state.childRecords child)
  spec : SameSpec root.spec state.specState
  command : SameCommand root.command state.commandState
  seq : root.seq = state.statusState.seq.toNat
  incarnation : root.incarnation = state.statusState.beamIncarnation.toNat
  mapped : state.statusPage.isSome = (rootInit config boot).1.statusPage.isSome
  enabled : state.statusState.enabled = state.statusPage.isSome
  specPage : state.specPage = (config.orchestratorSpecView == specRootVaddr)
  mask : state.statusState.presentMask = rootPresentChildren config
  generation : state.statusState.rootGeneration =
    (rootInit config boot).1.statusState.rootGeneration
  frequency : state.statusState.frequency = boot.frequency
  clock : ClockReady state.rootClockState

theorem ClockReady.sampled (state : DecisionState) (ready : ClockReady state.rootClockState)
    {read : UInt64} (order : state.rootClockState.lastTicks ≤ read) :
    ClockReady (state.sampled read) ∧ (state.sampled read).lastTicks = read := by
  have forward : ¬ read < state.rootClockState.lastTicks := UInt64.not_lt.mpr order
  have kept : state.sampled read =
      { state.rootClockState with seen := true, lastTicks := read } := by
    simp [DecisionState.sampled, rootClockObserve, ready.available, ready.scaled, forward]
  rw [kept]
  exact ⟨⟨ready.available, ready.scaled⟩, rfl⟩

/-- The plan of a lifetime-only Root. -/
theorem plan_lifetime {config : Config} (state : DecisionState) (child : RootChild)
    (spec : SpecPageRead) (read : UInt64) (selector : config.rootTestBudget = false) :
    state.plan config child spec read =
      lifetimeResult (state.childRecords child)
        (rootRestartDecide (state.childRecords child)
          (rootSpecBudget (state.consumed config spec).1 child (rootRestartBudget child)
            hardBudgetMax) (rootRestartEntry config child)) := by
  simp only [DecisionState.plan, rootRestartPlan, DecisionState.inputs, selectOf, selector,
    Bool.false_eq_true, if_false, Bool.not_false, if_true]

theorem rootRestartEntry_common {config : Config}
    (common : config.beamResetEntry = config.restartEntry) (child : RootChild) :
    rootRestartEntry config child = config.restartEntry := by
  simp only [rootRestartEntry]
  split_ifs
  · exact common
  · rfl

/-- The two decisions of a request, the status half aside. -/
structure DecisionPair (config : Config) (root : Core.Root) (state : RootState)
    (child : RootChild) (page : Memory) (read : UInt64) (action : Core.Action)
    (record : Core.Record) : Prop where
  answered : Core.ChrysoRoot.decide root child.val (refreshPage config page) =
    let consumed := Core.Spec.consume (refreshPage config page) root.spec
    let seq := if root.config.mapped then root.seq + 2 else root.seq
    some (
      { child := child.val, action, record, spec := consumed.1
        retained := consumed.2.retained, seq },
      { root with
        records := Function.update root.records child.val (some record)
        spec := consumed.2
        seq
        incarnation :=
          if child = childBeam ∧ action = .resume then root.incarnation + 1
          else root.incarnation })
  action : tracedAction action = (state.decisions.plan config child (.still page) read).action
  record : SameRecord record (state.decisions.plan config child (.still page) read).next
  spec : SameResult (Core.Spec.consume (refreshPage config page) root.spec).1
    (state.decisions.consumed config (.still page)).2
  retained : SameSpec (Core.Spec.consume (refreshPage config page) root.spec).2
    (state.decisions.consumed config (.still page)).1
  valid : (state.decisions.plan config child (.still page) read).policyInvalid = false

theorem decide_pair {config : Config} {boot : Boot} {root : Core.Root} {state : RootState}
    (models : Models config boot root state) (selector : config.rootTestBudget = false)
    (common : config.beamResetEntry = config.restartEntry) (usable : config.restartEntry ≠ 0)
    (child : RootChild) (page : Memory) (read : UInt64) :
    ∃ action record, DecisionPair config root state child page read action record := by
  have planned := plan_lifetime state.decisions child (.still page) read selector
  rw [rootRestartEntry_common common] at planned
  obtain ⟨record, held, traced⟩ := models.records child
  have refreshed : state.decisions.consumed config (.still page) =
      rootSpecConsume state.specState
        (sharedSpec (config.orchestratorSpecView == specRootVaddr) (.still page))
        (rootPresentChildren config) := by
    rw [← models.specPage]
    rfl
  have consumed : _ ∧ _ := consume_same models.spec
    (config.orchestratorSpecView == specRootVaddr) page (rootPresentChildren config)
  rw [← refreshed] at consumed
  have budget := specBudget_same consumed.2 child (rootRestartBudget child) hardBudgetMax
  have stepped := lifetimePlan_same traced
    (rootSpecBudget (state.decisions.consumed config (.still page)).1 child
      (rootRestartBudget child) hardBudgetMax) usable
  have compiled : (modelConfig config boot).compiled[child.val]? =
      some (rootRestartBudget child).toNat := by
    simp [modelConfig, rows]
  have beam : child.val = childBeam.val ↔ child = childBeam := Fin.ext_iff.symm
  rw [← budget] at stepped
  let step := Core.Policy.step record
    (Core.Spec.budget (Core.Spec.consume (refreshPage config page) root.spec).2 child.val
      (rootRestartBudget child).toNat hardBudgetMax.toNat) config.restartEntry.toNat
  refine ⟨step.1, step.2, ?_, ?_, ?_, consumed.1, consumed.2, ?_⟩
  · simp only [Core.ChrysoRoot.decide, models.constants, compiled, held, Option.bind_eq_bind,
      Option.bind_some]
    simp only [modelConfig, beam]
    rfl
  · rw [planned]
    exact stepped.1
  · rw [planned]
    exact stepped.2
  · rw [planned]
    rfl

theorem requestEvents_few {restarted : Restarted} {child : RootChild} {first : List RootEvent}
    (few : first.length ≤ 1) (reads : Reads) :
    (requestEvents restarted child first reads).length ≤ 3 := by
  simp only [requestEvents, List.length_append]
  split_ifs <;> simp only [List.length_cons, List.length_nil] <;> omega

/-- The counters a published request leaves. -/
theorem request_counters {config : Config} {state : RootState} {child : RootChild}
    (known : present state.statusState child = true) {request : Request} {first : List RootEvent}
    (few : first.length ≤ 1) {spec : SpecPageRead} {reads : Reads}
    (quiet : .puts .statusExhausted ∉
      (rootPublish (rootRestartChild config state child request spec reads).state child
        (requestEvents (rootRestartChild config state child request spec reads) child first reads)
        reads.publish).2)
    (enabled : state.statusState.enabled = state.statusPage.isSome) :
    let restarted := rootRestartChild config state child request spec reads
    let after := (rootPublish restarted.state child (requestEvents restarted child first reads)
      reads.publish).1
    after.statusPage.isSome = state.statusPage.isSome ∧
      after.statusState.counters =
        { restartedCounters state.statusState.counters child restarted.action with
          seq := if state.statusPage.isSome then state.statusState.seq + 2
            else state.statusState.seq } ∧
      (state.statusPage.isSome = true →
        (state.statusState.seq + 2).toNat = state.statusState.seq.toNat + 2) ∧
      (child = childBeam ∧ restarted.action = .resume →
        state.statusState.beamIncarnation ≠ 0xFFFFFFFFFFFFFFFF) := by
  intro restarted after
  have page : restarted.state.statusPage = state.statusPage :=
    (rootRestartChild_effect config state child request spec reads).statusPage
  have moved := rootRestartChild_counters config known request spec reads
  change CountersMoved _ restarted.state.statusState _ restarted.action at moved
  have mask : restarted.state.statusState.presentMask = state.statusState.presentMask :=
    StatusRun.invariant (fun _ status _ => status.presentMask = state.statusState.presentMask)
      (fun before step => step.presentMask.trans before) [] rfl
      (rootRestartChild_change config state child request spec reads)
  have seen : present restarted.state.statusState child = true := by
    rw [present, mask]
    exact known
  have once := rootPublish_once seen (requestEvents_few few reads) quiet
  rcases moved with exhausted | ⟨counters, room⟩
  · exact absurd (once.sound.symm.trans exhausted) Bool.false_ne_true
  · have seq : restarted.state.statusState.seq = state.statusState.seq :=
      congrArg StatusCounters.seq counters
    have on : restarted.state.statusState.enabled = state.statusState.enabled :=
      congrArg StatusCounters.enabled counters
    have publishing : (restarted.state.statusPage.isSome && restarted.state.statusState.enabled) =
        state.statusPage.isSome := by
      rw [page, on, enabled, Bool.and_self]
    refine ⟨once.mapped.trans (by rw [page]), ?_, ?_, room⟩
    · rw [once.counters, counters, publishing, seq]
    · intro mapped
      rw [← seq]
      exact once.room (publishing.trans mapped)

/-- One request, decided and published, on both sides. -/
theorem request_same {config : Config} {boot : Boot} {root : Core.Root} {state : RootState}
    (models : Models config boot root state) (selector : config.rootTestBudget = false)
    (common : config.beamResetEntry = config.restartEntry) (usable : config.restartEntry ≠ 0)
    {child : RootChild} (known : maskBit (rootPresentChildren config) child.val = true)
    {request : Request} {first : List RootEvent} (few : first.length ≤ 1) {page : Memory}
    {reads : Reads} (order : state.rootClockState.lastTicks ≤ reads.observe)
    (quiet : .puts .statusExhausted ∉
      (rootPublish (rootRestartChild config state child request (.still page) reads).state child
        (requestEvents (rootRestartChild config state child request (.still page) reads) child
          first reads) reads.publish).2) :
    let restarted := rootRestartChild config state child request (.still page) reads
    let after := (rootPublish restarted.state child (requestEvents restarted child first reads)
      reads.publish).1
    ∃ decided next, Core.ChrysoRoot.decide root child.val (refreshPage config page) =
        some (decided, next) ∧ next.command = root.command ∧
      SameDecision decided ⟨child, request, restarted.action, restarted.spec⟩ after ∧
      Models config boot next after := by
  intro restarted after
  have effect := rootRestartChild_effect config state child request (.still page) reads
  have present : present state.statusState child = true := by
    rw [present, models.mask]
    exact known
  obtain ⟨mapped, counters, room, incarnations⟩ :=
    request_counters present few quiet models.enabled
  obtain ⟨action, record, pair⟩ :=
    decide_pair models selector common usable child page reads.observe
  have acted : tracedAction action = restarted.action := pair.action.trans effect.action.symm
  have decisions : after.decisions =
      state.decisions.request config child (.still page) reads.observe :=
    (rootPublish_decisions ..).trans effect.decisions
  have records : after.childRecords = Function.update state.childRecords child
      (state.decisions.plan config child (.still page) reads.observe).next :=
    congrArg DecisionState.childRecords decisions
  have spec : after.specState = (state.decisions.consumed config (.still page)).1 :=
    congrArg DecisionState.specState decisions
  have command : after.commandState = state.commandState :=
    (rootPublish_commandState ..).trans effect.commandState
  obtain ⟨ready, sampled⟩ := ClockReady.sampled state.decisions models.clock order
  have clock : after.rootClockState = state.decisions.sampled reads.observe := by
    have moved : after.rootClockState = _ := congrArg DecisionState.rootClockState decisions
    rw [moved]
    simp [DecisionState.request, pair.valid]
  have held : after.childRecords child =
      (state.decisions.plan config child (.still page) reads.observe).next := by
    rw [records, Function.update_self]
  have seq : (if root.config.mapped then root.seq + 2 else root.seq) =
      after.statusState.seq.toNat := by
    have counted : after.statusState.seq = _ := congrArg StatusCounters.seq counters
    have published : root.config.mapped = state.statusPage.isSome := by
      rw [models.constants, models.mapped]
      rfl
    rw [counted, published, models.seq]
    by_cases on : state.statusPage.isSome = true
    · simp only [on, if_true, room on]
    · simp only [on, Bool.false_eq_true, if_false]
  have resumed : restarted.action = .resume ↔ action = .resume := by
    rw [← acted]
    cases action <;> simp [tracedAction]
  have incarnation :
      (if child = childBeam ∧ action = .resume then root.incarnation + 1 else root.incarnation) =
        after.statusState.beamIncarnation.toNat := by
    have counted : after.statusState.beamIncarnation = _ :=
      congrArg StatusCounters.beamIncarnation counters
    by_cases beam : child = childBeam ∧ action = .resume
    · have again : child = childBeam ∧ restarted.action = .resume :=
        ⟨beam.1, resumed.mpr beam.2⟩
      have next : after.statusState.beamIncarnation = state.statusState.beamIncarnation + 1 :=
        counted.trans (if_pos again)
      rw [if_pos beam, next, succ_toNat (incarnations again), models.incarnation]
    · have never : ¬ (child = childBeam ∧ restarted.action = .resume) :=
        fun again => beam ⟨again.1, resumed.mp again.2⟩
      have still : after.statusState.beamIncarnation = state.statusState.beamIncarnation :=
        counted.trans (if_neg never)
      rw [if_neg beam, still, models.incarnation]
  refine ⟨_, _, pair.answered, rfl, ?_, ?_⟩
  · refine ⟨rfl, acted, held ▸ pair.record, ?_, spec ▸ pair.retained.retained, seq⟩
    rw [show restarted.spec = _ from effect.result]
    exact pair.spec
  · refine
      { constants := models.constants
        records := ?_
        spec := spec ▸ pair.retained
        command := command ▸ models.command
        seq
        incarnation
        mapped := mapped.trans models.mapped
        enabled := ?_
        specPage := (congrArg DecisionState.specPage decisions).trans models.specPage
        mask := (congrArg StatusCounters.presentMask counters).trans models.mask
        generation := (congrArg StatusCounters.rootGeneration counters).trans models.generation
        frequency := (congrArg StatusCounters.frequency counters).trans models.frequency
        clock := clock ▸ ready }
    · intro other
      rw [records]
      by_cases same : other = child
      · subst same
        exact ⟨record, by simp, by simpa using pair.record⟩
      · have apart : other.val ≠ child.val := fun equal => same (Fin.ext equal)
        simpa [Function.update_of_ne same, Function.update_of_ne apart] using models.records other
    · have on : after.statusState.enabled = state.statusState.enabled :=
        congrArg StatusCounters.enabled counters
      rw [on, mapped]
      exact models.enabled

/-! ### Replies -/

theorem repliesOf_append (first second : List RootAct) :
    repliesOf (first ++ second) = repliesOf first ++ repliesOf second :=
  List.filterMap_append

theorem rootPublish_replies (state : RootState) (child : RootChild) (events : List RootEvent)
    (read : UInt64) : repliesOf (rootPublish state child events read).2 = [] := by
  have reported : ∀ after : RootState, repliesOf (reportStatus after).2 = [] := by
    intro after
    simp only [reportStatus]
    split_ifs <;> rfl
  simp only [rootPublish]
  split_ifs with publishing done
  · rw [repliesOf_append, reported]
    rfl
  · exact reported _
  · exact reported _

theorem performPlan_replies (config : Config) (state : RootState) (child : RootChild)
    (request : Request) (plan : RootRestartPlanResult) (entry read : UInt64) :
    repliesOf (performPlan config state child request plan entry read).2 = [] := by
  have stopped : ∀ reason, repliesOf (rootGiveup config state child reason read).2 = [] := by
    intro reason
    simp only [rootGiveup]
    split_ifs <;> rfl
  simp only [performPlan]
  cases plan.action with
  | ignoreGone => rfl
  | resume => rfl
  | _ => exact stopped _

theorem rootRestartChild_replies (config : Config) (state : RootState) (child : RootChild)
    (request : Request) (spec : SpecPageRead) (reads : Reads) :
    repliesOf (rootRestartChild config state child request spec reads).acts = [] := by
  have refreshed : repliesOf (rootSpecRefresh config state spec).2.2 = [] := by
    simp only [rootSpecRefresh]
    split_ifs <;> rfl
  have observed : repliesOf (observeClock (rootSpecRefresh config state spec).1 reads.observe).2 =
      [] := by
    simp only [observeClock]
    split_ifs <;> rfl
  have invalid : ∀ policyInvalid : Bool,
      repliesOf (if policyInvalid then [.puts .policyInvalid] else []) = [] := by
    intro policyInvalid
    cases policyInvalid <;> rfl
  simp only [rootRestartChild, decideRequest, repliesOf_append, refreshed, observed, invalid,
    performPlan_replies]
  rfl

/-! ### One step -/

theorem Models.agrees {config : Config} {boot : Boot} {answer : ModelAnswer} {next : Core.Root}
    {after : RootState} {acts : List RootAct} (models : Models config boot next after)
    (decided :
      match answer.decided with
      | none => decisionsOf acts = []
      | some decided => ∃ decision, decisionsOf acts = [decision] ∧
          SameDecision decided decision after)
    (replied :
      match answer.reply with
      | none => repliesOf acts = []
      | some reply => ∃ given, repliesOf acts = [given] ∧ SameReply reply given after) :
    StepAgrees answer next after acts :=
  ⟨decided, replied, models.records, models.spec.retained, models.seq, models.command.bucket⟩

/-- A fault or a debug restart. -/
theorem restartAndPublish_agrees {config : Config} {boot : Boot} {root : Core.Root}
    {state : RootState} (models : Models config boot root state)
    (selector : config.rootTestBudget = false)
    (common : config.beamResetEntry = config.restartEntry) (usable : config.restartEntry ≠ 0)
    {child : RootChild} (known : maskBit (rootPresentChildren config) child.val = true)
    {request : Request} {first : List RootEvent} (few : first.length ≤ 1) {page : Memory}
    {reads : Reads} (order : state.rootClockState.lastTicks ≤ reads.observe)
    {earlier : List RootAct} (silent : decisionsOf earlier = [] ∧ repliesOf earlier = [])
    (quiet : .puts .statusExhausted ∉ earlier ++
      (restartAndPublish config state child request first (.still page) reads).2) :
    ∃ decided next, Core.ChrysoRoot.decide root child.val (refreshPage config page) =
        some (decided, next) ∧
      StepAgrees { decided := some decided } next
        (restartAndPublish config state child request first (.still page) reads).1
        (earlier ++ (restartAndPublish config state child request first (.still page) reads).2) ∧
      Models config boot next
        (restartAndPublish config state child request first (.still page) reads).1 := by
  have requested := restartAndPublish_requested config state child request first (.still page) reads
  have effect := rootRestartChild_effect config state child request (.still page) reads
  obtain ⟨decided, next, answered, _, same, following⟩ :=
    request_same models selector common usable known few order
      (fun told => quiet (List.mem_append_right _ (List.mem_append_right _ told)))
  refine ⟨decided, next, answered, following.agrees ?_ ?_, following⟩
  · refine ⟨_, ?_, same⟩
    rw [decisionsOf_append, silent.1, List.nil_append, requested.decided, effect.action,
      effect.result]
  · change repliesOf _ = []
    simp only [restartAndPublish]
    rw [repliesOf_append, silent.2, repliesOf_append, rootRestartChild_replies,
      rootPublish_replies]
    rfl

theorem rootChildFromRaw_known {child : RootChild} {mask : UInt64}
    (known : maskBit mask child.val = true) :
    rootChildFromRaw (UInt32.ofNat child.val) mask = some child := by
  have small : child.val < 2 ^ 32 := Nat.lt_trans child.isLt (by decide)
  have raw : (UInt32.ofNat child.val).toNat = child.val := UInt32.toNat_ofNat_of_lt' small
  simp [rootChildFromRaw, raw, known]

theorem rootChildFromRaw_present {raw : UInt32} {mask : UInt64} {child : RootChild}
    (named : rootChildFromRaw raw mask = some child) : maskBit mask child.val = true := by
  simp only [rootChildFromRaw] at named
  split_ifs at named with bound known
  obtain rfl := Option.some.inj named
  exact known

/-- Every debug-restart channel names a base child. -/
theorem debugRestart_child : ∀ index : Fin 4,
    rootNotifyRoute (rootChannels.debugFirst + UInt32.ofNat index.val) rootChannels =
        .debugRestart (UInt32.ofNat index.val) ∧
      maskBit rootBaseChildren (rootClassChild (UInt32.ofNat index.val)).val = true := by
  decide

/-- The base children are always in the image. -/
theorem rootPresentChildren_base (config : Config) {child : RootChild}
    (base : maskBit rootBaseChildren child.val = true) :
    maskBit (rootPresentChildren config) child.val = true := by
  simp only [rootPresentChildren]
  split_ifs with invalid
  · exact base
  · simp only [rootPresenceValid, Bool.not_eq_true', Bool.not_eq_false, Bool.and_eq_true,
      beq_iff_eq] at invalid
    have masked := congrArg (fun mask => maskBit mask child.val) invalid.1
    simp only [maskBit, UInt64.toNat_and, Nat.testBit_and] at masked base ⊢
    rw [base, Bool.and_true] at masked
    exact masked

theorem Models.noted {config : Config} {boot : Boot} {root : Core.Root} {state : RootState}
    (models : Models config boot root state) (child : RootChild)
    (label count mr0 mr1 read : UInt64) :
    Models config boot root (noteFault state child label count mr0 mr1 read) := by
  have counters : (noteFault state child label count mr0 mr1 read).statusState.counters =
      state.statusState.counters := observe_statusCounters ..
  exact
    { models with
      seq := models.seq.trans (congrArg (·.seq.toNat) counters).symm
      incarnation := models.incarnation.trans (congrArg (·.beamIncarnation.toNat) counters).symm
      enabled := (congrArg StatusCounters.enabled counters).trans models.enabled
      mask := (congrArg StatusCounters.presentMask counters).trans models.mask
      generation := (congrArg StatusCounters.rootGeneration counters).trans models.generation
      frequency := (congrArg StatusCounters.frequency counters).trans models.frequency }

theorem Models.command_moved {config : Config} {boot : Boot} {root : Core.Root} {state : RootState}
    (models : Models config boot root state) {command : Core.CommandState}
    {moved : RootCommandState} (same : SameCommand command moved) :
    Models config boot { root with command } { state with commandState := moved } :=
  { models with command := same }

theorem Models.views {config : Config} {boot : Boot} {root : Core.Root} {state : RootState}
    (models : Models config boot root state) :
    SameView (Core.ChrysoRoot.view root) (rootCommandView config state) := by
  have constants := models.constants
  refine ⟨?_, ?_, models.incarnation, ?_, models.seq, ?_, ?_, ?_, models.records⟩ <;>
    simp only [Core.ChrysoRoot.view, constants, rootCommandView]
  · rfl
  · rw [models.generation]
    rfl
  · rw [models.frequency]
    rfl
  · rw [models.enabled, Bool.and_self, models.mapped]
    rfl
  · rfl
  · rfl

/-- What one step relies on. -/
structure StepReady (config : Config) (state : RootState) (step : ModelStep) : Prop where
  selector : config.rootTestBudget = false
  common : config.beamResetEntry = config.restartEntry
  usable : config.restartEntry ≠ 0
  present : step.event.Present config
  unexhausted : Unexhausted config state step
  order : state.rootClockState.lastTicks ≤ step.reads.observe

/-- Both sides of a step that agrees. -/
def StepHolds (config : Config) (boot : Boot) (root : Core.Root) (state : RootState)
    (step : ModelStep) : Prop :=
  ∃ answer next, modelStep config root step = some (answer, next) ∧
    StepAgrees answer next (rootStep config state step.input).1
      (rootStep config state step.input).2 ∧
    Models config boot next (rootStep config state step.input).1

theorem fault_holds {config : Config} {boot : Boot} {root : Core.Root} {state : RootState}
    (models : Models config boot root state) {child : RootChild}
    {label count mr0 mr1 : UInt64} {page : Memory} {reads : Reads}
    (ready : StepReady config state ⟨.fault child label count mr0 mr1, page, reads⟩) :
    StepHolds config boot root state ⟨.fault child label count mr0 mr1, page, reads⟩ := by
  have known : maskBit (rootPresentChildren config) child.val = true := ready.present
  have raw := rootChildFromRaw_known known
  let logged : RootAct :=
    .puts (.fault (UInt32.ofNat child.val) label (if count ≥ 1 then some mr0 else none)
      (if count ≥ 2 then some mr1 else none))
  have stepped : rootStep config state
      (ModelStep.input ⟨.fault child label count mr0 mr1, page, reads⟩) =
      ((restartAndPublish config (noteFault state child label count mr0 mr1 reads.entry) child
          .restart [faultEvent state child label count mr0 mr1 reads.entry] (.still page) reads).1,
        [logged] ++ (restartAndPublish config
          (noteFault state child label count mr0 mr1 reads.entry) child .restart
          [faultEvent state child label count mr0 mr1 reads.entry] (.still page) reads).2) := by
    simp only [ModelStep.input, ModelEvent.callback, rootStep, fault, raw]
    rfl
  have quiet := ready.unexhausted.publisher
  rw [stepped] at quiet
  have few : [faultEvent state child label count mr0 mr1 reads.entry].length ≤ 1 := Nat.le_refl 1
  obtain ⟨decided, next, answered, agrees, following⟩ :=
    restartAndPublish_agrees (models.noted child label count mr0 mr1 reads.entry) ready.selector
      ready.common ready.usable known few ready.order ⟨rfl, rfl⟩ quiet
  refine ⟨{ decided := some decided }, next, ?_, ?_, ?_⟩
  · simp only [modelStep, Core.ChrysoRoot.fault, answered]
    rfl
  · rw [stepped]
    exact agrees
  · rw [stepped]
    exact following

theorem debugRestart_holds {config : Config} {boot : Boot} {root : Core.Root} {state : RootState}
    (models : Models config boot root state) {index : Fin 4} {page : Memory} {reads : Reads}
    (ready : StepReady config state ⟨.debugRestart index, page, reads⟩) :
    StepHolds config boot root state ⟨.debugRestart index, page, reads⟩ := by
  obtain ⟨routed, base⟩ := debugRestart_child index
  have known := rootPresentChildren_base config base
  have stepped : rootStep config state (ModelStep.input ⟨.debugRestart index, page, reads⟩) =
      ((restartAndPublish config state (rootClassChild (UInt32.ofNat index.val)) .debugRestart []
          (.still page) reads).1,
        [] ++ (restartAndPublish config state (rootClassChild (UInt32.ofNat index.val))
          .debugRestart [] (.still page) reads).2) := by
    simp only [ModelStep.input, ModelEvent.callback, rootStep, notified, routed]
    rfl
  have quiet := ready.unexhausted.publisher
  rw [stepped] at quiet
  have few : ([] : List RootEvent).length ≤ 1 := Nat.zero_le 1
  obtain ⟨decided, next, answered, agrees, following⟩ :=
    restartAndPublish_agrees models ready.selector ready.common ready.usable known few
      ready.order ⟨rfl, rfl⟩ quiet
  refine ⟨{ decided := some decided }, next, ?_, ?_, ?_⟩
  · simp only [modelStep, Core.ChrysoRoot.fault, answered]
    rfl
  · rw [stepped]
    exact agrees
  · rw [stepped]
    exact following

end Chrysopolis.Root
