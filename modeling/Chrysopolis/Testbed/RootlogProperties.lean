import Chrysopolis.Root.SnapshotProperties
import Chrysopolis.Root.StoryProperties
import Chrysopolis.Testbed.Rootlog

/-! The testbed's oracle finds nothing in the runs it was written for: debug restarts
and injected faults, each fault delivered before its child is asked for again. -/

set_option autoImplicit false

namespace Chrysopolis.Testbed

open Chrysopolis.Abi
open Chrysopolis.Support
open Chrysopolis.Root

/-- Such runs; `pending` are the children whose injected fault is still to come. -/
inductive FaultRun (config : Config) : (RootChild → Bool) → RootState → List RootInput → Prop where
  | done {pending : RootChild → Bool} {state : RootState}
      (delivered : ∀ child, pending child = false) : FaultRun config pending state []
  | debugRestart {pending : RootChild → Bool} {state : RootState} {input : RootInput}
      {inputs : List RootInput} {channel index : UInt32}
      (callback : input.callback = .notified channel)
      (routed : rootNotifyRoute channel rootChannels = .debugRestart index)
      (free : pending (rootClassChild index) = false)
      (rest : FaultRun config pending (rootStep config state input).1 inputs) :
      FaultRun config pending state (input :: inputs)
  | faultInject {pending : RootChild → Bool} {state : RootState} {input : RootInput}
      {inputs : List RootInput} {channel index : UInt32}
      (callback : input.callback = .notified channel)
      (routed : rootNotifyRoute channel rootChannels = .faultInject index)
      (free : pending (rootClassChild index) = false)
      (rest : FaultRun config (Function.update pending (rootClassChild index)
          ((state.childRecords (rootClassChild index)).state = .live))
        (rootStep config state input).1 inputs) :
      FaultRun config pending state (input :: inputs)
  | fault {pending : RootChild → Bool} {state : RootState} {input : RootInput}
      {inputs : List RootInput} {rawChild : UInt32} {label count mr0 mr1 : UInt64}
      {child : RootChild} (callback : input.callback = .fault rawChild label count mr0 mr1)
      (known : rootChildFromRaw rawChild (rootPresentChildren config) = some child)
      (awaited : pending child = true)
      (rest : FaultRun config (Function.update pending child false)
        (rootStep config state input).1 inputs) :
      FaultRun config pending state (input :: inputs)

/-! ### Names -/

theorem kindName_tag (kind : RootEventKind) : kindName kind.tag = kind := by
  cases kind <;> rfl

theorem classDriver_child (index : UInt32) :
    (classDriver index).child = rootClassChild index := by
  simp only [classDriver, rootClassChild]
  rcases index.toNat with _ | _ | _ | _ | more <;> rfl

theorem Driver.child_inj {left right : Driver} (same : left.child = right.child) :
    left = right := by
  cases left <;> cases right <;> first | rfl | exact absurd same (by decide)

/-- The events of a run, named from an index on. -/
def named (first : Nat) (events : List RootEvent) : List RootlogEvent :=
  (events.zipIdx first).map fun pair => namedEvent pair.2 pair.1.wire

/-- The named events about a driver. -/
def about (driver : Driver) (first : Nat) (events : List RootEvent) : List RootlogEvent :=
  (named first events).filter fun event => event.child = driver.child.val

theorem about_append (driver : Driver) (first : Nat) (events later : List RootEvent) :
    about driver first (events ++ later) =
      about driver first events ++ about driver (first + events.length) later := by
  simp only [about, named, List.zipIdx_append, List.map_append, List.filter_append]

theorem mem_about {driver : Driver} {first : Nat} {events : List RootEvent}
    {event : RootlogEvent} (member : event ∈ about driver first events) :
    ∃ source ∈ events, event.kind = source.kind ∧
      source.child = UInt8.ofNat driver.child.val ∧ first ≤ event.index := by
  obtain ⟨inNamed, target⟩ := List.mem_filter.mp member
  obtain ⟨⟨source, index⟩, stored, rfl⟩ := List.mem_map.mp inNamed
  obtain ⟨lower, upper, same⟩ := List.mem_zipIdx stored
  have inEvents : source ∈ events := same ▸ List.getElem_mem _
  have bytes : source.child.toNat = driver.child.val := of_decide_eq_true target
  exact ⟨source, inEvents, kindName_tag _, by rw [← bytes, UInt8.ofNat_toNat], lower⟩

theorem about_one {driver : Driver} (first : Nat) {event : RootEvent}
    (target : event.child = UInt8.ofNat driver.child.val) :
    about driver first [event] = [namedEvent first event.wire] := by
  have small := driver.child.isLt
  simp only [childCount] at small
  have bytes : event.child.toNat = driver.child.val := by
    rw [target, UInt8.toNat_ofNat']
    omega
  simp [about, named, namedEvent, RootEvent.wire, bytes]

/-! ### One driver -/

/-- What the oracle compares for a driver whose open injections are `marks`. -/
structure Tallied (said : List (Step × Outcome)) (marks mine : List RootlogEvent) : Prop where
  restarts : consoleRestarts said = (ofKind .restart mine).map (·.a)
  giveups : gaveUps said = (ofKind .giveup mine).length
  reasons : ∀ event ∈ ofKind .giveup mine, event.detail = .budgetExhausted
  injected : injected said = (ofKind .fault mine).length
  paired : List.Forall₂ (fun control fault => control.index ≤ fault.index)
    (marks ++ faultControls mine) (ofKind .fault mine)

theorem Tallied.problems {said : List (Step × Outcome)} {mine : List RootlogEvent}
    (tallied : Tallied said [] mine) (driver : Driver) : driverProblems said mine driver = [] := by
  have paired : List.Forall₂ (fun control fault => control.index ≤ fault.index)
    (faultControls mine) (ofKind .fault mine) := tallied.paired
  have ordered : ¬ ((faultControls mine).zip (ofKind .fault mine)).any fun pair =>
      decide (pair.1.index > pair.2.index) := by
    simp only [List.any_eq_true, decide_eq_true_eq, not_exists, not_and, Nat.not_lt]
    exact fun pair member => List.forall₂_zip paired member
  have reasons : ¬ (ofKind .giveup mine).any fun event =>
      decide (event.detail ≠ .budgetExhausted) := by
    simp only [List.any_eq_true, decide_eq_true_eq, not_exists, not_and, not_not]
    exact tallied.reasons
  simp only [driverProblems, tallied.restarts, tallied.giveups, tallied.injected, paired.length_eq,
    ne_eq, not_true_eq_false, false_or, or_self, if_false, List.nil_append]
  rw [if_neg reasons, if_neg ordered]
  rfl

/-- Events the oracle does not look at. -/
def Unlooked (mine : List RootlogEvent) : Prop :=
  ∀ event ∈ mine, event.kind ∉ [RootEventKind.restart, .giveup, .fault, .control]

theorem Unlooked.filters {mine : List RootlogEvent} (unlooked : Unlooked mine) :
    ofKind .restart mine = [] ∧ ofKind .giveup mine = [] ∧ ofKind .fault mine = [] ∧
      faultControls mine = [] := by
  have none : ∀ kind ∈ [RootEventKind.restart, .giveup, .fault, .control],
      ofKind kind mine = [] := by
    intro kind looked
    rw [ofKind, List.filter_eq_nil_iff]
    intro event member same
    exact unlooked event member (of_decide_eq_true same ▸ looked)
  refine ⟨none _ (by decide), none _ (by decide), none _ (by decide), ?_⟩
  rw [faultControls, List.filter_eq_nil_iff]
  intro event member same
  have control := (of_decide_eq_true same).1
  exact unlooked event member (by rw [control]; decide)

theorem Tallied.unlooked {said : List (Step × Outcome)} {marks mine front : List RootlogEvent}
    (tallied : Tallied said marks mine) (unlooked : Unlooked front) :
    Tallied said marks (front ++ mine) := by
  obtain ⟨restarts, giveups, faults, controls⟩ := unlooked.filters
  have split : ∀ kind, ofKind kind (front ++ mine) = ofKind kind front ++ ofKind kind mine :=
    fun kind => List.filter_append ..
  have splitControls : faultControls (front ++ mine) = faultControls mine := by
    rw [faultControls, List.filter_append, ← faultControls, controls, List.nil_append]
    rfl
  constructor
  · rw [split, restarts]
    exact tallied.restarts
  · rw [split, giveups]
    exact tallied.giveups
  · rw [split, giveups]
    exact tallied.reasons
  · rw [split, faults]
    exact tallied.injected
  · rw [split, faults, splitControls]
    exact tallied.paired

/-- An answer and the event of the same outcome. -/
inductive SameOutcome : Outcome → RootlogEvent → Prop where
  | restarted (path : RestartPath) {event : RootlogEvent} (kind : event.kind = .restart) :
      SameOutcome (.restarted path event.a) event
  | gaveUp (reason : String) {event : RootlogEvent} (kind : event.kind = .giveup)
      (detail : event.detail = .budgetExhausted) : SameOutcome (.gaveUp reason) event

theorem ofKind_cons (kind : RootEventKind) (event : RootlogEvent) (mine : List RootlogEvent) :
    ofKind kind (event :: mine) =
      if event.kind = kind then event :: ofKind kind mine else ofKind kind mine := by
  by_cases same : event.kind = kind <;> simp [ofKind, same]

theorem faultControls_cons_other {event : RootlogEvent} (other : event.kind ≠ .control)
    (mine : List RootlogEvent) : faultControls (event :: mine) = faultControls mine := by
  simp [faultControls, other]

/-- A debug restart answered on both sides. -/
theorem Tallied.restart {driver : Driver} {said : List (Step × Outcome)} {outcome : Outcome}
    {event : RootlogEvent} {mine : List RootlogEvent} (tallied : Tallied said [] mine)
    (same : SameOutcome outcome event) :
    Tallied ((.restart driver, outcome) :: said) [] (event :: mine) := by
  obtain ⟨restarts, giveups, reasons, injected, paired⟩ := tallied
  cases same with
  | restarted path kind =>
      constructor
      · simp only [consoleRestarts, List.filterMap_cons, ofKind_cons, kind, if_true, List.map_cons]
        exact congrArg _ restarts
      · simpa [gaveUps, ofKind_cons, kind] using giveups
      · simpa [ofKind_cons, kind] using reasons
      · simpa [Testbed.injected, ofKind_cons, kind] using injected
      · rw [faultControls_cons_other (by simp [kind]), ofKind_cons, if_neg (by simp [kind])]
        exact paired
  | gaveUp reason kind detail =>
      constructor
      · simpa [consoleRestarts, ofKind_cons, kind] using restarts
      · simpa [gaveUps, ofKind_cons, kind] using giveups
      · simpa [ofKind_cons, kind, detail] using reasons
      · simpa [Testbed.injected, ofKind_cons, kind] using injected
      · rw [faultControls_cons_other (by simp [kind]), ofKind_cons, if_neg (by simp [kind])]
        exact paired

/-- A delivered fault closes its injection. -/
theorem Tallied.delivered {driver : Driver} {said : List (Step × Outcome)} {outcome : Outcome}
    {mark fault event : RootlogEvent} {between mine : List RootlogEvent}
    (tallied : Tallied said [] mine) (kind : fault.kind = .fault) (unlooked : Unlooked between)
    (later : mark.index ≤ fault.index) (same : SameOutcome outcome event) :
    Tallied ((.fault driver, outcome) :: said) [mark] (fault :: between ++ event :: mine) := by
  have answered : Tallied ((.restart driver, outcome) :: said) [] (between ++ event :: mine) :=
    (tallied.restart same).unlooked unlooked
  obtain ⟨restarts, giveups, reasons, injected, paired⟩ := answered
  have accepted : ∀ driver, Testbed.injected ((.fault driver, outcome) :: said) =
      Testbed.injected ((.restart driver, outcome) :: said) + 1 := by
    intro driver
    cases same <;> simp [Testbed.injected, Nat.add_comm]
  constructor
  · rw [List.cons_append, ofKind_cons, if_neg (by simp [kind])]
    exact restarts
  · rw [List.cons_append, ofKind_cons, if_neg (by simp [kind])]
    exact giveups
  · rw [List.cons_append, ofKind_cons, if_neg (by simp [kind])]
    exact reasons
  · rw [List.cons_append, ofKind_cons, if_pos kind, List.length_cons, accepted, injected]
  · have controls : faultControls (fault :: (between ++ event :: mine)) =
        faultControls (between ++ event :: mine) := faultControls_cons_other (by simp [kind]) _
    have faults : ofKind .fault (fault :: (between ++ event :: mine)) =
        fault :: ofKind .fault (between ++ event :: mine) := by rw [ofKind_cons, if_pos kind]
    change List.Forall₂ _ (mark :: faultControls (fault :: (between ++ event :: mine)))
      (ofKind .fault (fault :: (between ++ event :: mine)))
    rw [controls, faults]
    exact .cons later paired

/-- An accepted injection opens a mark for the rest of the run. -/
theorem Tallied.opened {said : List (Step × Outcome)} {control : RootlogEvent}
    {mine : List RootlogEvent} (tallied : Tallied said [control] mine)
    (kind : control.kind = .control) (detail : control.detail = .faultInject) :
    Tallied said [] (control :: mine) := by
  obtain ⟨restarts, giveups, reasons, injected, paired⟩ := tallied
  have controls : faultControls (control :: mine) = control :: faultControls mine := by
    simp [faultControls, kind, detail]
  refine ⟨?_, ?_, ?_, ?_, ?_⟩ <;>
    simp only [ofKind_cons, kind, reduceCtorEq, if_false, controls] <;> assumption

/-- A refused request is answered gone. -/
theorem Tallied.refused {step : Step} {said : List (Step × Outcome)}
    {mine : List RootlogEvent} (tallied : Tallied said [] mine) :
    Tallied ((step, .gone) :: said) [] mine := by
  obtain ⟨restarts, giveups, reasons, injected, paired⟩ := tallied
  exact ⟨by simpa [consoleRestarts] using restarts, by simpa [gaveUps] using giveups, reasons,
    by cases step <;> simpa [Testbed.injected] using injected, paired⟩

/-! ### One callback -/

theorem decision_untold (child : RootChild) {line : LogLine} (untold : line.tells = false) :
    decision child line = none := by
  cases line <;> first | rfl | exact absurd untold (by decide) | simp [LogLine.tells] at untold

/-- The lines the oracle waits for are told ones. -/
theorem rootDecision_told (child : RootChild) (acts : List RootAct) :
    rootDecision child acts = (told acts).findSome? (decision child) := by
  induction acts with
  | nil => rfl
  | cons act acts ih =>
      rw [rootDecision, List.findSome?_cons, ← rootDecision, ih]
      cases act with
      | puts line =>
          cases tells : line.tells with
          | true => simp [told, RootAct.toldLine, tells, actDecision, List.findSome?_cons]
          | false =>
              simp [told, RootAct.toldLine, tells, actDecision, decision_untold child tells]
      | _ => rfl

theorem rootDecision_append (child : RootChild) (acts more : List RootAct) :
    rootDecision child (acts ++ more) =
      (rootDecision child acts).or (rootDecision child more) := by
  simp only [rootDecision, List.findSome?_append]

/-- A give-up of a lifetime selector with an entry to restart at. -/
theorem plan_budget {config : Config} (lifetime : config.rootTestBudget = false)
    {child : RootChild} (entry : rootRestartEntry config child ≠ 0) (state : DecisionState)
    (spec : SpecPageRead) (read : UInt64)
    (stops : (state.plan config child spec read).action.GivesUp) :
    (state.plan config child spec read).action = .giveupBudgetExhausted := by
  have select : selectOf (state.inputs config child read) = .lifetime := by
    simp [selectOf, DecisionState.inputs, lifetime]
  have entrySet : (state.inputs config child read).entry ≠ 0 := entry
  simp only [DecisionState.plan, rootRestartPlan, select, lifetimeResult, rootRestartDecide]
    at stops ⊢
  split_ifs at stops ⊢ with gone spent
  · simp [RootRestartAction.GivesUp, outcomeOf] at stops
  · rfl
  · simp [RootRestartAction.GivesUp, outcomeOf] at stops

/-! ### Answers -/

theorem rejects_unlooked {driver : Driver} {rejects : List RootEvent}
    (others : ∀ reject ∈ rejects, reject.kind = .specReject) (first : Nat) :
    Unlooked (about driver first rejects) := by
  intro event member
  obtain ⟨source, inRejects, kind, _⟩ := mem_about member
  rw [kind, others source inRejects]
  decide

section Answer

variable {config : Config} {state : RootState} {input : RootInput} {asker : RootChild}
  {request : Request} {lines : List LogLine} {events : List RootEvent} {driver : Driver}

/-- The outcome at the end of an answer, for the driver that asked. -/
theorem outcome_same (lifetime : config.rootTestBudget = false)
    (entry : rootRestartEntry config driver.child ≠ 0)
    (answered : RequestAnswered config state input driver.child request lines events)
    (path : request = .restart ∨ request = .debugRestart)
    (live : (state.childRecords driver.child).state = .live) (first : Nat) :
    ∃ asked event outcome, Asked driver.child request asked ∧
      about driver first events = about driver first asked ++ [event] ∧
      lines.findSome? (decision driver.child) = some outcome ∧ SameOutcome outcome event := by
  cases answered with
  | ignored gone front => exact absurd (live.symm.trans gone) (by decide)
  | @restarted live count window asked event front kind target word =>
      have last := about_one (first + asked.length) target
      have named : (namedEvent (first + asked.length) event.wire).kind = .restart :=
        (kindName_tag event.kind).trans kind
      have counted : (namedEvent (first + asked.length) event.wire).a = count.toNat := by
        simp only [namedEvent, RootEvent.wire, word, UInt32.toNat_toUInt64]
      have outcome : ∃ path, decision driver.child (.restarted request driver.child count window) =
          some (.restarted path count.toNat) := by
        rcases path with rfl | rfl
        · exact ⟨.restart, by simp [decision]⟩
        · exact ⟨.debugRestart, by simp [decision]⟩
      obtain ⟨path, said⟩ := outcome
      refine ⟨asked, _, .restarted path count.toNat, front, by rw [about_append, last], ?_, ?_⟩
      · simp [said]
      · rw [← counted]
        exact .restarted path named
  | @gaveUp live stops asked event front kind target detail =>
      have last := about_one (first + asked.length) target
      have named : (namedEvent (first + asked.length) event.wire).kind = .giveup :=
        (kindName_tag event.kind).trans kind
      have reason : (namedEvent (first + asked.length) event.wire).detail = .budgetExhausted := by
        rw [plan_budget lifetime entry state.decisions input.spec input.reads.observe stops]
          at detail
        simp only [namedEvent, RootEvent.wire, kind, detail]
        decide
      refine ⟨asked, _, .gaveUp (rootRestartGiveupReason (state.decisions.plan config driver.child
        input.spec input.reads.observe).action), front, by rw [about_append, last], ?_,
        .gaveUp _ named reason⟩
      simp [decision]

/-- The answer for a child that is gone. -/
theorem ignored_same (gone : (state.childRecords driver.child).state = .gone)
    (answered : RequestAnswered config state input driver.child request lines events) :
    Asked driver.child request events ∧
      lines.findSome? (decision driver.child) = some .gone := by
  cases answered with
  | ignored _ front => exact ⟨front, by simp [decision]⟩
  | restarted live => exact absurd (gone.symm.trans live) (by decide)
  | gaveUp live => exact absurd (gone.symm.trans live) (by decide)

/-- An answer is about its own child. -/
theorem answered_other (answered : RequestAnswered config state input asker request lines events)
    (uncommanded : request ≠ .ctlRestart) (other : driver.child ≠ asker) (first : Nat) :
    lines.findSome? (decision driver.child) = none ∧ Unlooked (about driver first events) := by
  have apart : asker ≠ driver.child := other.symm
  have rejected : ∀ reject : RootEvent, reject.kind = .specReject →
      reject.kind ∉ [RootEventKind.restart, .giveup, .fault, .control] := by
    intro reject kind
    simp [kind]
  have bytes : ∀ event : RootEvent, event.child = UInt8.ofNat asker.val →
      event.child ≠ UInt8.ofNat driver.child.val := fun event target same =>
    apart (child_byte_inj (target.symm.trans same))
  have before : ∀ {asked : List RootEvent}, Asked asker request asked →
      ∀ event ∈ asked, event.child = UInt8.ofNat driver.child.val →
        event.kind ∉ [RootEventKind.restart, .giveup, .fault, .control] := by
    intro asked front event member target
    cases front with
    | fault kind about others =>
        rcases List.mem_cons.mp member with rfl | member
        · exact absurd target (bytes event about)
        · exact rejected event (others event member)
    | debug others => exact rejected event (others event member)
    | control => exact absurd rfl uncommanded
  have unlooked : ∀ {all : List RootEvent}, (∀ event ∈ all,
      event.child = UInt8.ofNat driver.child.val →
        event.kind ∉ [RootEventKind.restart, .giveup, .fault, .control]) →
      Unlooked (about driver first all) := by
    intro all clear event member
    obtain ⟨source, inAll, kind, target, _⟩ := mem_about member
    rw [kind]
    exact clear source inAll target
  cases answered with
  | ignored gone front => exact ⟨by simp [decision, apart], unlooked (before front)⟩
  | @restarted live count window asked event front kind about word =>
      refine ⟨by cases request <;> simp [decision, apart], unlooked fun source member target => ?_⟩
      rcases List.mem_append.mp member with member | member
      · exact before front source member target
      · obtain rfl := List.mem_singleton.mp member
        exact absurd target (bytes source about)
  | @gaveUp live stops asked event front kind about detail =>
      refine ⟨by simp [decision, apart], unlooked fun source member target => ?_⟩
      rcases List.mem_append.mp member with member | member
      · exact before front source member target
      · obtain rfl := List.mem_singleton.mp member
        exact absurd target (bytes source about)

end Answer


/-! ### Runs -/

/-- A callback that decides nothing about a child leaves its record. -/
theorem rootStep_record {config : Config} {state : RootState} {input : RootInput}
    {child : RootChild}
    (unasked : ∀ request, requestOf config state input ≠ some (child, request)) :
    (rootStep config state input).1.childRecords child = state.childRecords child := by
  cases rootStep_case config state input with
  | requested target request asked effect =>
      have apart : child ≠ target := by
        rintro rfl
        exact unasked request asked
      have records := congrFun (congrArg DecisionState.childRecords effect.decisions) child
      exact records.trans (Function.update_of_ne apart ..)
  | injected target none injection live decisions =>
      exact congrFun (congrArg DecisionState.childRecords decisions) child
  | quiet none uninjected decisions =>
      exact congrFun (congrArg DecisionState.childRecords decisions) child

section Run

variable {config : Config} {pending : RootChild → Bool} {state : RootState} {input : RootInput}
  {inputs : List RootInput}

/-- The answer a pending injection waits for. -/
def awaited (config : Config) (pending : RootChild → Bool) (state : RootState)
    (inputs : List RootInput) (driver : Driver) : List (Step × Outcome) :=
  if pending driver.child then
    ((rootDecision driver.child ((rootMachine config).trace state inputs)).map fun outcome =>
      (Step.fault driver, outcome)).toList
  else []

def mineOf (driver : Driver) (answers : List (Step × Outcome)) : List (Step × Outcome) :=
  answers.filter fun answer => answer.1.driver = driver

/-- What the oracle is told about a driver from here on. -/
def saidOf (config : Config) (pending : RootChild → Bool) (state : RootState)
    (inputs : List RootInput) (driver : Driver) : List (Step × Outcome) :=
  awaited config pending state inputs driver ++ mineOf driver (decisions config state inputs)

theorem rootDecision_cons (child : RootChild) :
    rootDecision child ((rootMachine config).trace state (input :: inputs)) =
      ((told (rootStep config state input).2).findSome? (decision child)).or
        (rootDecision child
          ((rootMachine config).trace (rootStep config state input).1 inputs)) := by
  rw [← rootDecision_told, ← rootDecision_append]
  rfl

/-- A callback about other drivers. -/
theorem saidOf_other {next : RootChild → Bool} {driver : Driver}
    (untold : (told (rootStep config state input).2).findSome? (decision driver.child) = none)
    (same : next driver.child = pending driver.child)
    (asked : ∀ step, requestStep input.callback = some step → step.driver ≠ driver) :
    saidOf config pending state (input :: inputs) driver =
      saidOf config next (rootStep config state input).1 inputs driver := by
  have waits : awaited config pending state (input :: inputs) driver =
      awaited config next (rootStep config state input).1 inputs driver := by
    simp only [awaited, same, rootDecision_cons, untold, Option.none_or]
  have mine : mineOf driver (decisions config state (input :: inputs)) =
      mineOf driver (decisions config (rootStep config state input).1 inputs) := by
    simp only [mineOf, decisions, List.filter_append]
    cases found : requestStep input.callback with
    | none => simp
    | some step =>
        have other := asked step found
        cases rootDecision step.driver.child
            ((rootMachine config).trace state (input :: inputs)) <;>
          simp [other]
  rw [saidOf, saidOf, waits, mine]

/-- A request for an idle driver: its answer comes first. -/
theorem saidOf_asked {driver : Driver} {step : Step} (idle : pending driver.child = false)
    (asked : requestStep input.callback = some step) (own : step.driver = driver) :
    saidOf config pending state (input :: inputs) driver =
      ((rootDecision driver.child ((rootMachine config).trace state (input :: inputs))).map
        fun outcome => (step, outcome)).toList ++
        mineOf driver (decisions config (rootStep config state input).1 inputs) := by
  simp only [saidOf, awaited, idle, Bool.false_eq_true, if_false, List.nil_append, mineOf,
    decisions, asked, Option.bind_some, List.filter_append, own]
  congr 1
  cases rootDecision driver.child ((rootMachine config).trace state (input :: inputs)) <;>
    simp [own]

end Run

/-- The open injection of a driver, as the oracle sees the rest of the run. -/
def Marked (pending : RootChild → Bool) (driver : Driver) (first : Nat)
    (marks : List RootlogEvent) : Prop :=
  (pending driver.child = true ∧ ∃ mark, marks = [mark] ∧ mark.index ≤ first) ∨
    (pending driver.child = false ∧ marks = [])

theorem Marked.later {pending next : RootChild → Bool} {driver : Driver} {first : Nat}
    {marks : List RootlogEvent} (marked : Marked pending driver first marks)
    (same : next driver.child = pending driver.child) (count : Nat) :
    Marked next driver (first + count) marks := by
  rcases marked with ⟨waits, mark, rfl, before⟩ | ⟨idle, rfl⟩
  · exact .inl ⟨same.trans waits, mark, rfl, by omega⟩
  · exact .inr ⟨same.trans idle, rfl⟩

theorem Marked.idle {pending : RootChild → Bool} {driver : Driver} {first : Nat}
    {marks : List RootlogEvent} (marked : Marked pending driver first marks)
    (idle : pending driver.child = false) : marks = [] := by
  rcases marked with ⟨waits, _⟩ | ⟨_, rfl⟩
  · exact absurd (idle.symm.trans waits) (by decide)
  · rfl

theorem awaited_idle {config : Config} {pending : RootChild → Bool} {state : RootState}
    {inputs : List RootInput} {driver : Driver} (idle : pending driver.child = false) :
    saidOf config pending state inputs driver = mineOf driver (decisions config state inputs) := by
  simp only [saidOf, awaited, idle, Bool.false_eq_true, if_false, List.nil_append]

section Steps

variable {config : Config} {pending : RootChild → Bool} {state : RootState} {input : RootInput}
  {inputs : List RootInput} {driver : Driver} {first : Nat} {marks : List RootlogEvent}
  {later : List RootEvent}

theorem tallied_debugRestart (lifetime : config.rootTestBudget = false)
    (entry : rootRestartEntry config driver.child ≠ 0) {channel index : UInt32}
    (callback : input.callback = .notified channel)
    (routed : rootNotifyRoute channel rootChannels = .debugRestart index)
    (free : pending (rootClassChild index) = false) (marked : Marked pending driver first marks)
    (story : Story config state input (told (rootStep config state input).2)
      (publishedOf (rootStep config state input).2))
    (next : ∀ count, Tallied (saidOf config pending (rootStep config state input).1 inputs driver)
      marks (about driver (first + count) later)) :
    Tallied (saidOf config pending state (input :: inputs) driver) marks
      (about driver first (publishedOf (rootStep config state input).2 ++ later)) := by
  have answered := story.of_debugRestart callback routed
  have step : requestStep input.callback = some (.restart (classDriver index)) := by
    simp only [callback, requestStep, routed]
  rw [about_append]
  by_cases own : driver.child = rootClassChild index
  · obtain rfl := Driver.child_inj (own.trans (classDriver_child index).symm)
    rw [← own] at answered free
    obtain rfl := marked.idle free
    rw [awaited_idle free] at next
    rw [saidOf_asked free step rfl, rootDecision_cons]
    cases standing : (state.childRecords (classDriver index).child).state with
    | live =>
        obtain ⟨asked, event, outcome, front, split, said, same⟩ :=
          outcome_same lifetime entry answered (.inr rfl) standing first
        rw [split, said, List.append_assoc]
        cases front with
        | debug others => exact ((next _).restart same).unlooked (rejects_unlooked others first)
    | gone =>
        obtain ⟨front, said⟩ := ignored_same standing answered
        rw [said]
        cases front with
        | debug others => exact (next _).refused.unlooked (rejects_unlooked others first)
  · obtain ⟨untold, unlooked⟩ := answered_other answered (by decide) own first
    rw [saidOf_other untold rfl]
    · exact (next _).unlooked unlooked
    · rintro other same rfl
      rw [step] at same
      obtain rfl := Option.some.inj same
      exact own (classDriver_child index)

/-- The pending children once an injection has been asked for. -/
def injectedPending (pending : RootChild → Bool) (state : RootState) (child : RootChild) :
    RootChild → Bool :=
  Function.update pending child ((state.childRecords child).state = .live)

theorem tallied_faultInject {channel index : UInt32}
    (callback : input.callback = .notified channel)
    (routed : rootNotifyRoute channel rootChannels = .faultInject index)
    (free : pending (rootClassChild index) = false) (marked : Marked pending driver first marks)
    (story : Story config state input (told (rootStep config state input).2)
      (publishedOf (rootStep config state input).2))
    (next : ∀ (count : Nat) (marks : List RootlogEvent),
      Marked (injectedPending pending state (rootClassChild index)) driver (first + count) marks →
      Tallied (saidOf config (injectedPending pending state (rootClassChild index))
        (rootStep config state input).1 inputs driver) marks
        (about driver (first + count) later)) :
    Tallied (saidOf config pending state (input :: inputs) driver) marks
      (about driver first (publishedOf (rootStep config state input).2 ++ later)) := by
  have injection := story.of_faultInject callback routed
  have step : requestStep input.callback = some (.fault (classDriver index)) := by
    simp only [callback, requestStep, routed]
  rw [about_append]
  by_cases own : driver.child = rootClassChild index
  · obtain rfl := Driver.child_inj (own.trans (classDriver_child index).symm)
    rw [← own] at injection free next
    obtain rfl := marked.idle free
    rw [saidOf_asked free step rfl, rootDecision_cons]
    rcases injection with ⟨gone, lines, events⟩ |
      ⟨standing, lines, event, events, kind, target, detail⟩
    · have idle : injectedPending pending state (classDriver index).child
          (classDriver index).child = false := by
        simp [injectedPending, gone]
      have rest := next 0 [] (.inr ⟨idle, rfl⟩)
      rw [awaited_idle idle] at rest
      rw [lines, events]
      have said : [LogLine.ignored (classDriver index).child .faultInject].findSome?
          (decision (classDriver index).child) = some .gone := by simp [decision]
      rw [said]
      exact rest.refused
    · have waits : injectedPending pending state (classDriver index).child
          (classDriver index).child = true := by
        simp [injectedPending, standing]
      rw [lines, events, about_one first target]
      have named : (namedEvent first event.wire).kind = .control :=
        (kindName_tag event.kind).trans kind
      have injects : (namedEvent first event.wire).detail = .faultInject := by
        simp only [namedEvent, RootEvent.wire, kind, detail]
        decide
      have rest := next 1 [namedEvent first event.wire]
        (.inl ⟨waits, _, rfl, Nat.le_succ first⟩)
      simp only [saidOf, awaited, waits, if_true] at rest
      exact rest.opened named injects
  · have kept : injectedPending pending state (rootClassChild index) driver.child =
        pending driver.child := Function.update_of_ne own ..
    have rest := fun count => next count marks (marked.later kept count)
    have apart : rootClassChild index ≠ driver.child := fun same => own same.symm
    have quiet : (told (rootStep config state input).2).findSome? (decision driver.child) = none ∧
        Unlooked (about driver first (publishedOf (rootStep config state input).2)) := by
      rcases injection with ⟨gone, lines, events⟩ |
        ⟨standing, lines, event, events, kind, target, detail⟩
      · rw [lines, events]
        exact ⟨by simp [decision, apart], fun event member => absurd member List.not_mem_nil⟩
      · rw [lines, events]
        refine ⟨by simp [decision], fun named member => ?_⟩
        obtain ⟨source, inRing, _, about, _⟩ := mem_about member
        obtain rfl := List.mem_singleton.mp inRing
        exact absurd (child_byte_inj (target.symm.trans about)) apart
    rw [saidOf_other quiet.1 kept]
    · exact (rest _).unlooked quiet.2
    · rintro other same rfl
      rw [step] at same
      obtain rfl := Option.some.inj same
      exact own (classDriver_child index)

theorem tallied_fault (lifetime : config.rootTestBudget = false)
    (entry : rootRestartEntry config driver.child ≠ 0) {rawChild : UInt32}
    {label count mr0 mr1 : UInt64} {child : RootChild}
    (callback : input.callback = .fault rawChild label count mr0 mr1)
    (known : rootChildFromRaw rawChild (rootPresentChildren config) = some child)
    (waits : pending child = true) (live : (state.childRecords child).state = .live)
    (marked : Marked pending driver first marks)
    (story : Story config state input (told (rootStep config state input).2)
      (publishedOf (rootStep config state input).2))
    (next : ∀ (count : Nat) (marks : List RootlogEvent),
      Marked (Function.update pending child false) driver (first + count) marks →
      Tallied (saidOf config (Function.update pending child false)
        (rootStep config state input).1 inputs driver) marks
        (about driver (first + count) later)) :
    Tallied (saidOf config pending state (input :: inputs) driver) marks
      (about driver first (publishedOf (rootStep config state input).2 ++ later)) := by
  have answered := story.of_fault callback known
  have unasked : requestStep input.callback = none := by simp only [callback, requestStep]
  rw [about_append]
  by_cases own : driver.child = child
  · subst own
    obtain ⟨asked, event, outcome, front, split, said, same⟩ :=
      outcome_same lifetime entry answered (.inl rfl) live first
    have idle : Function.update pending driver.child false driver.child = false :=
      Function.update_self ..
    have rest := next (publishedOf (rootStep config state input).2).length [] (.inr ⟨idle, rfl⟩)
    rw [awaited_idle idle] at rest
    rcases marked with ⟨_, mark, rfl, before⟩ | ⟨clear, _⟩
    · have mine : mineOf driver (decisions config state (input :: inputs)) =
          mineOf driver (decisions config (rootStep config state input).1 inputs) := by
        simp [mineOf, decisions, unasked]
      simp only [saidOf, awaited, waits, if_true, rootDecision_cons, said, mine]
      rw [split]
      cases front with
      | @fault asking rejects kind target others =>
          have parts : about driver first (asking :: rejects) =
              namedEvent first asking.wire :: about driver (first + 1) rejects := by
            have split := about_append driver first [asking] rejects
            rw [about_one first target] at split
            exact split
          rw [parts, List.append_assoc]
          exact rest.delivered ((kindName_tag asking.kind).trans kind)
            (rejects_unlooked others _) before same
    · exact absurd (clear.symm.trans waits) (by decide)
  · obtain ⟨untold, unlooked⟩ := answered_other answered (by decide) own first
    have kept : Function.update pending child false driver.child = pending driver.child :=
      Function.update_of_ne own ..
    rw [saidOf_other untold kept]
    · exact (next _ marks (marked.later kept _)).unlooked unlooked
    · intro step same
      rw [unasked] at same
      exact absurd same.symm (Option.some_ne_none step)

end Steps

/-- The rest of such a run, tallied for one driver. -/
theorem faultRun_tallied {config : Config} (lifetime : config.rootTestBudget = false)
    (entries : ∀ driver : Driver, rootRestartEntry config driver.child ≠ 0)
    {pending : RootChild → Bool} {state : RootState} {inputs : List RootInput}
    (run : FaultRun config pending state inputs)
    (publishing : Publishing ((rootMachine config).after state inputs).statusState
      ((rootMachine config).after state inputs).statusPage)
    (live : ∀ child, pending child = true → (state.childRecords child).state = .live)
    (driver : Driver) (first : Nat) (marks : List RootlogEvent)
    (marked : Marked pending driver first marks) :
    Tallied (saidOf config pending state inputs driver) marks
      (about driver first (publishedOf ((rootMachine config).trace state inputs))) := by
  induction run generalizing first marks with
  | done delivered =>
      obtain rfl := marked.idle (delivered _)
      rw [awaited_idle (delivered _)]
      exact ⟨rfl, rfl, fun event member => absurd member List.not_mem_nil, rfl, .nil⟩
  | @debugRestart pending state input inputs channel index callback routed free rest ih =>
      have stays : ∀ child, pending child = true →
          ((rootStep config state input).1.childRecords child).state = .live := by
        intro child waits
        rw [rootStep_record]
        · exact live child waits
        · intro request same
          simp only [requestOf, callback, routed] at same
          obtain rfl := (Prod.mk.inj (Option.some.inj same)).1
          exact absurd (free.symm.trans waits) (by decide)
      rw [(rootMachine config).trace_cons, publishedOf_append]
      exact tallied_debugRestart lifetime (entries driver) callback routed free marked
        (rootStep_story config state input (after_publishing config inputs publishing))
        fun count => ih publishing stays _ marks (marked.later rfl count)
  | @faultInject pending state input inputs channel index callback routed free rest ih =>
      have stays : ∀ child, injectedPending pending state (rootClassChild index) child = true →
          ((rootStep config state input).1.childRecords child).state = .live := by
        intro child waits
        rw [rootStep_record (by simp [requestOf, callback, routed])]
        by_cases same : child = rootClassChild index
        · subst same
          rw [injectedPending, Function.update_self] at waits
          exact of_decide_eq_true waits
        · rw [injectedPending, Function.update_of_ne same] at waits
          exact live child waits
      rw [(rootMachine config).trace_cons, publishedOf_append]
      exact tallied_faultInject callback routed free marked
        (rootStep_story config state input (after_publishing config inputs publishing))
        fun count marks opened => ih publishing stays _ marks opened
  | @fault pending state input inputs rawChild label count mr0 mr1 child callback known waits rest
      ih =>
      have stays : ∀ other, Function.update pending child false other = true →
          ((rootStep config state input).1.childRecords other).state = .live := by
        intro other still
        have apart : other ≠ child := by
          rintro rfl
          rw [Function.update_self] at still
          exact Bool.false_ne_true still
        rw [Function.update_of_ne apart] at still
        rw [rootStep_record]
        · exact live other still
        · intro request same
          simp only [requestOf, callback, known, Option.map_some] at same
          exact apart (Prod.mk.inj (Option.some.inj same)).1.symm
      rw [(rootMachine config).trace_cons, publishedOf_append]
      exact tallied_fault lifetime (entries driver) callback known waits (live child waits) marked
        (rootStep_story config state input (after_publishing config inputs publishing))
        fun count marks closed => ih publishing stays _ marks closed

/-- A ring that has lost nothing reads back what was published. -/
theorem ringEvents_named {published : List RootEvent} {status : RootStatusState} {page : Memory}
    (ok : PageOk published status page) (few : published.length ≤ eventCount) :
    ringEvents page 0 = named 0 published := by
  have start : max 0 (published.length - eventCount) = 0 := by omega
  simp only [ringEvents, ok.head, start, Nat.sub_zero, named]
  apply List.ext_getElem
  · simp
  · intro number left right
    have bound : number < published.length := by simpa using left
    have slot : eventSlot (number % eventCount) = eventSlot number := Fin.ext (Nat.mod_mod _ _)
    have held : eventAt page (eventSlot (number % eventCount)) = published[number].wire :=
      ok.ring number bound (by omega)
    rw [slot] at held
    simp [held]

theorem rootInit_unlooked (config : Config) (boot : Boot) (driver : Driver) :
    Unlooked (about driver 0 (publishedOf (rootInit config boot).2)) := by
  obtain ⟨bytes, now, frequency, budget, status, page, published⟩ := rootInit_status config boot
  intro event member
  obtain ⟨source, inBoot, kind, _⟩ := mem_about member
  rw [published] at inBoot
  by_cases mapped : (rootInit config boot).1.statusPage.isSome = true
  · simp only [if_pos mapped, List.mem_singleton] at inBoot
    have boots : (bootEvent (rootInit config boot).1.statusState
        (if frequency ≠ 0 then now else 0)).kind = .boot := rfl
    rw [kind, inBoot, boots]
    decide
  · simp [if_neg mapped] at inBoot

theorem faultRun_agrees {config : Config} (boot : Boot) {inputs : List RootInput}
    (publishing : Publishing (rootAfter config boot inputs).statusState
      (rootAfter config boot inputs).statusPage)
    (lifetime : config.rootTestBudget = false)
    (entries : ∀ driver : Driver, rootRestartEntry config driver.child ≠ 0)
    (run : FaultRun config (fun _ => false) (rootInit config boot).1 inputs)
    (few : (publishedOf (rootTrace config boot inputs)).length ≤ eventCount) {page : Memory}
    (mapped : (rootAfter config boot inputs).statusPage = some page) (drivers : List Driver) :
    disagreements (decisions config (rootInit config boot).1 inputs) (ringEvents page 0)
      (drivers.map fun driver => (driver, driver.child.val)) = [] := by
  rw [ringEvents_named (rootTrace_published config boot inputs page mapped) few]
  rw [disagreements, List.flatMap_eq_nil_iff]
  intro pair member
  obtain ⟨driver, _, rfl⟩ := List.mem_map.mp member
  have tallied := faultRun_tallied lifetime entries run publishing
    (fun child waits => absurd waits Bool.false_ne_true) driver
    (0 + (publishedOf (rootInit config boot).2).length) [] (.inr ⟨rfl, rfl⟩)
  rw [awaited_idle rfl] at tallied
  have whole := tallied.unlooked (rootInit_unlooked config boot driver)
  rw [← about_append, ← publishedOf_append] at whole
  exact whole.problems driver

/-- While Root publishes, its console and its event ring tell the same story, and the
testbed's oracle finds nothing in the runs it was written for. -/
theorem console_and_ring_agree (config : Config) (boot : Boot) (inputs : List RootInput)
    (publishing : Publishing (rootAfter config boot inputs).statusState
      (rootAfter config boot inputs).statusPage) :
    (∀ child, ConsoleAgrees child (told (rootTrace config boot inputs))
      (publishedOf (rootTrace config boot inputs))) ∧
    (∀ before input after, inputs = before ++ input :: after →
      let acts := (rootStep config (rootAfter config boot before) input).2
      CallbackAgrees acts ∧
        ∃ later, publishedOf (rootTrace config boot inputs) =
          publishedOf (rootTrace config boot before) ++ publishedOf acts ++ later) ∧
    (config.rootTestBudget = false →
      (∀ driver : Driver, rootRestartEntry config driver.child ≠ 0) →
      FaultRun config (fun _ => false) (rootInit config boot).1 inputs →
      (publishedOf (rootTrace config boot inputs)).length ≤ eventCount →
      ∀ page, (rootAfter config boot inputs).statusPage = some page → ∀ drivers : List Driver,
        disagreements (decisions config (rootInit config boot).1 inputs) (ringEvents page 0)
          (drivers.map fun driver => (driver, driver.child.val)) = []) := by
  refine ⟨rootTrace_agrees config boot inputs publishing, ?_, ?_⟩
  · rintro before input after rfl
    intro acts
    have reached : Publishing
        (rootStep config (rootAfter config boot before) input).1.statusState
        (rootStep config (rootAfter config boot before) input).1.statusPage := by
      rw [rootAfter_append] at publishing
      exact after_publishing config after publishing
    refine ⟨rootStep_agrees config _ input reached, ?_⟩
    rw [rootTrace_append, publishedOf_append, (rootMachine config).trace_cons, publishedOf_append,
      ← List.append_assoc]
    exact ⟨_, rfl⟩
  · intro lifetime entries run few page mapped drivers
    exact faultRun_agrees boot publishing lifetime entries run few mapped drivers

/-- The channel of the block driver's injections. -/
def sampleInjection : RootInput :=
  { callback := .notified 6
    spec := .still fun _ => 0
    reads := sampleReads }

/-- An injected fault of the block driver and its delivery. -/
theorem console_and_ring_agree_sample :
    disagreements
      (decisions sampleConfig (rootInit sampleConfig sampleBoot).1
        [sampleInjection, sampleFault childBlk])
      (ringEvents
        ((rootAfter sampleConfig sampleBoot [sampleInjection, sampleFault childBlk]).statusPage.get
          (by decide +kernel)) 0)
      [(.blk, 2)] = [] :=
  (console_and_ring_agree sampleConfig sampleBoot [sampleInjection, sampleFault childBlk]
    ⟨by decide +kernel, by decide +kernel⟩).2.2 rfl (by intro driver; cases driver <;> decide)
    (.faultInject rfl (show rootNotifyRoute 6 rootChannels = .faultInject 2 by decide) rfl
      (.fault rfl (show rootChildFromRaw 2 (rootPresentChildren sampleConfig) = some childBlk by
        decide) (by decide) (.done (by decide))))
    (by decide +kernel) _ (Option.some_get _).symm [.blk]

end Chrysopolis.Testbed
