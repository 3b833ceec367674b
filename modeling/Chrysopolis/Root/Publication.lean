import Chrysopolis.Root.MainProperties
import Chrysopolis.Root.SpecProperties

/-! Publication as a sequence of moves of the status writer. Every callback notes
what it saw, applies at most one policy, and publishes at most once, with events
that name a declared kind, reason and child. -/

set_option autoImplicit false

namespace Chrysopolis.Root

open Chrysopolis.Abi
open Chrysopolis.Support

/-- Flags of a fault word: the second register is never valid without the first. -/
def FaultFlags (flags : UInt16) : Prop := flags = 0 ∨ flags = 1 ∨ flags = 3

/-- An event a callback about `child` may publish. -/
inductive EventOk (child : RootChild) (event : RootEvent) : Prop where
  | fault (kind : event.kind = .fault) (about : event.child = UInt8.ofNat child.val)
      (flags : FaultFlags event.flags)
  | restart (kind : event.kind = .restart) (about : event.child = UInt8.ofNat child.val)
      (flags : event.flags = 0)
  | giveup (reason : RootGiveupReason) (kind : event.kind = .giveup)
      (about : event.child = UInt8.ofNat child.val) (flags : event.flags = 0)
      (detail : event.detail = UInt32.ofNat reason.tag) (set : reason ≠ .unset)
  | control (control : RootControlKind) (kind : event.kind = .control)
      (about : event.child = UInt8.ofNat child.val) (flags : event.flags = 0)
      (detail : event.detail = UInt32.ofNat control.tag) (set : control ≠ .unset)
  | specReject (reason : RootSpecReject) (kind : event.kind = .specReject)
      (about : event.child = rootEventNoChild) (flags : event.flags = 0)
      (detail : event.detail = UInt32.ofNat reason.tag) (set : reason ≠ .unset)

/-- One move of the status writer, with the events it publishes. -/
inductive StatusMove : RootStatusState → Option Memory → List RootEvent → RootStatusState →
    Option Memory → Prop where
  | note {state : RootStatusState} {page : Option Memory} (child : RootChild)
      (change : RootStatusObservation → RootStatusObservation)
      (flags : ∀ observation, FaultFlags observation.faultFlags →
        FaultFlags (change observation).faultFlags) :
      StatusMove state page [] (observe state child change) page
  | incarnate {state : RootStatusState} {page : Option Memory}
      (room : state.beamIncarnation ≠ 0xFFFFFFFFFFFFFFFF) :
      StatusMove state page [] { state with beamIncarnation := state.beamIncarnation + 1 } page
  | policy {state : RootStatusState} {page : Option Memory} (generation : UInt64)
      (bank : UInt32) (budget : RootChild → UInt32) (desired : RootChild → RootDesired)
      (known : bank ≤ 1) :
      StatusMove state page [] (rootStatusNotePolicy state generation bank budget desired) page
  | publish {state : RootStatusState} {page : Memory} (child : RootChild)
      (record : RootChildRecord) (now : UInt64) (clockValid : Bool) (events : List RootEvent)
      (checked : publishCheck state (some page) child (some record) events = .publish)
      (known : ∀ event ∈ events, EventOk child event) :
      StatusMove state (some page) events (publishedState state events)
        (some (publishPage state page child (some record) now clockValid events))
  | stop {state : RootStatusState} {page : Option Memory} (exhausted misused : Bool) :
      StatusMove state page [] { state with enabled := false, exhausted, misused } page
  | report {state : RootStatusState} {page : Option Memory} :
      StatusMove state page [] { state with exhausted := false, misused := false } page

/-- Moves in order. -/
inductive StatusRun : RootStatusState → Option Memory → List RootEvent → RootStatusState →
    Option Memory → Prop where
  | refl (state : RootStatusState) (page : Option Memory) : StatusRun state page [] state page
  | move {state next last : RootStatusState} {page nextPage lastPage : Option Memory}
      {events later : List RootEvent} (first : StatusMove state page events next nextPage)
      (rest : StatusRun next nextPage later last lastPage) :
      StatusRun state page (events ++ later) last lastPage

theorem StatusMove.run {state next : RootStatusState} {page nextPage : Option Memory}
    {events : List RootEvent} (move : StatusMove state page events next nextPage) :
    StatusRun state page events next nextPage :=
  List.append_nil events ▸ .move move (.refl next nextPage)

theorem StatusRun.trans {state next last : RootStatusState}
    {page nextPage lastPage : Option Memory} {events later : List RootEvent}
    (first : StatusRun state page events next nextPage)
    (rest : StatusRun next nextPage later last lastPage) :
    StatusRun state page (events ++ later) last lastPage := by
  induction first with
  | refl => exact rest
  | move head _ ih =>
      rw [List.append_assoc]
      exact .move head (ih rest)

/-- What every move keeps, every run of moves keeps. -/
theorem StatusRun.invariant
    (holds : List RootEvent → RootStatusState → Option Memory → Prop)
    (kept : ∀ {published events state page next nextPage}, holds published state page →
      StatusMove state page events next nextPage → holds (published ++ events) next nextPage)
    {state next : RootStatusState} {page nextPage : Option Memory}
    (published : List RootEvent) {events : List RootEvent} (initial : holds published state page)
    (run : StatusRun state page events next nextPage) :
    holds (published ++ events) next nextPage := by
  induction run generalizing published with
  | refl => simpa using initial
  | move head _ ih =>
      rw [← List.append_assoc]
      exact ih _ (kept initial head)

/-- What the checks of a publication establish. -/
structure PublishReady (state : RootStatusState) (child : RootChild) (events : List RootEvent) :
    Prop where
  known : present state child = true
  few : events.length ≤ 3
  seqRoom : state.seq.toNat + 2 < 2 ^ 64
  headRoom : state.eventHead.toNat + events.length < 2 ^ 64

theorem publishCheck_ready {state : RootStatusState} {page : Option Memory} {child : RootChild}
    {record : RootChildRecord} {events : List RootEvent}
    (checked : publishCheck state page child (some record) events = .publish) :
    PublishReady state child events := by
  simp only [publishCheck] at checked
  split_ifs at checked with disabled misused exhausted
  simp only [Bool.or_eq_true, decide_eq_true_eq, Option.isSome_some, Bool.true_and,
    Bool.not_eq_true', not_or, Bool.not_eq_false] at misused exhausted
  have few : events.length ≤ 3 := by omega
  have count : (UInt64.ofNat events.length).toNat = events.length :=
    UInt64.toNat_ofNat_of_lt' (Nat.lt_of_le_of_lt few (by decide))
  have seq := UInt64.le_iff_toNat_le.mp (UInt64.not_lt.mp exhausted.1)
  have head := UInt64.le_iff_toNat_le.mp (UInt64.not_lt.mp exhausted.2)
  refine ⟨misused.2, few, ?_, ?_⟩
  · have limit : (0xFFFFFFFFFFFFFFFF - 2 : UInt64).toNat = 2 ^ 64 - 3 := by decide
    omega
  · have below : state.eventHead.toNat ≤ (0xFFFFFFFFFFFFFFFF : UInt64).toNat := by
      have := state.eventHead.toNat_lt
      have limit : (0xFFFFFFFFFFFFFFFF : UInt64).toNat = 2 ^ 64 - 1 := by decide
      omega
    rw [count, UInt64.toNat_sub_of_le _ _ (UInt64.le_iff_toNat_le.mpr below)] at head
    have limit : (0xFFFFFFFFFFFFFFFF : UInt64).toNat = 2 ^ 64 - 1 := by decide
    omega

theorem PublishReady.seq {state : RootStatusState} {child : RootChild} {events : List RootEvent}
    (ready : PublishReady state child events) : (state.seq + 2).toNat = state.seq.toNat + 2 := by
  have room := ready.seqRoom
  have two : (2 : UInt64).toNat = 2 := by decide
  rw [UInt64.toNat_add, two]
  omega

theorem PublishReady.head {state : RootStatusState} {child : RootChild}
    {events : List RootEvent} (ready : PublishReady state child events) :
    (state.eventHead + UInt64.ofNat events.length).toNat =
      state.eventHead.toNat + events.length := by
  have room := ready.headRoom
  rw [UInt64.toNat_add,
    UInt64.toNat_ofNat_of_lt' (Nat.lt_of_le_of_lt ready.few (by decide))]
  omega

/-! ### The status half of Root's functions -/

/-- The events the acts published, in order. -/
def publishedOf (acts : List RootAct) : List RootEvent :=
  acts.flatMap fun act =>
    match act with
    | .published events => events
    | _ => []

theorem publishedOf_append (first second : List RootAct) :
    publishedOf (first ++ second) = publishedOf first ++ publishedOf second :=
  List.flatMap_append

/-- The status half of a state change. -/
def StatusChange (before after : RootState) (acts : List RootAct) : Prop :=
  StatusRun before.statusState before.statusPage (publishedOf acts) after.statusState
    after.statusPage

theorem StatusChange.trans {before middle after : RootState} {first second : List RootAct}
    (head : StatusChange before middle first) (tail : StatusChange middle after second) :
    StatusChange before after (first ++ second) := by
  rw [StatusChange, publishedOf_append]
  exact StatusRun.trans head tail

theorem StatusChange.unchanged {before after : RootState} {acts : List RootAct}
    (status : after.statusState = before.statusState)
    (page : after.statusPage = before.statusPage) (quiet : publishedOf acts = []) :
    StatusChange before after acts := by
  rw [StatusChange, status, page, quiet]
  exact .refl _ _

theorem reportStatus_change (state : RootState) :
    StatusChange state (reportStatus state).1 (reportStatus state).2 := by
  have quiet : publishedOf (reportStatus state).2 = [] := by
    simp only [reportStatus]
    split_ifs <;> rfl
  rw [StatusChange, quiet]
  exact StatusMove.report.run

theorem publishCheck_page {state : RootStatusState} {page : Option Memory} {child : RootChild}
    {record : Option RootChildRecord} {events : List RootEvent}
    (checked : publishCheck state page child record events = .publish) :
    ∃ bytes, page = some bytes := by
  cases page with
  | some bytes => exact ⟨bytes, rfl⟩
  | none => simp [publishCheck] at checked

theorem rootStatusPublish_run (state : RootStatusState) (page : Option Memory)
    (child : RootChild) (record : RootChildRecord) (now : UInt64) (clockValid : Bool)
    {events : List RootEvent} (known : ∀ event ∈ events, EventOk child event) :
    StatusRun state page
      (if (rootStatusPublish state page child (some record) now clockValid events).2.2
        then events else [])
      (rootStatusPublish state page child (some record) now clockValid events).1
      (rootStatusPublish state page child (some record) now clockValid events).2.1 := by
  cases checked : publishCheck state page child (some record) events with
  | disabled =>
      simp only [rootStatusPublish, checked, Bool.false_eq_true, if_false]
      exact .refl state page
  | misused =>
      simp only [rootStatusPublish, checked, Bool.false_eq_true, if_false]
      exact (StatusMove.stop state.exhausted true).run
  | exhausted =>
      simp only [rootStatusPublish, checked, Bool.false_eq_true, if_false]
      exact (StatusMove.stop true state.misused).run
  | publish =>
      obtain ⟨bytes, rfl⟩ := publishCheck_page checked
      simp only [rootStatusPublish, checked, if_true, Option.map_some]
      exact (StatusMove.publish child record now clockValid events checked known).run

theorem rootPublish_change (state : RootState) (child : RootChild) {events : List RootEvent}
    (read : UInt64) (known : ∀ event ∈ events, EventOk child event) :
    StatusChange state (rootPublish state child events read).1
      (rootPublish state child events read).2 := by
  by_cases publishing : (state.statusPage.isSome && state.statusState.enabled) = true
  · have run := rootStatusPublish_run state.statusState state.statusPage child
      (state.childRecords child) (rootStatusTicks state read) state.rootClockState.available known
    simp only [rootPublish, if_pos publishing]
    generalize rootStatusPublish state.statusState state.statusPage child
      (some (state.childRecords child)) (rootStatusTicks state read)
      state.rootClockState.available events = attempt at run
    obtain ⟨status, page, done⟩ := attempt
    have published : StatusChange state { state with statusState := status, statusPage := page }
        (if done then [.published events] else []) := by
      cases done <;> simpa [StatusChange, publishedOf] using run
    exact published.trans (reportStatus_change _)
  · simp only [rootPublish, if_neg publishing]
    exact reportStatus_change state

/-! ### Spec refreshes -/

/-- Only a reason is ever recorded. -/
theorem rootSpecConsume_record {state : RootSpecState} {shared : Option SpecPageRead}
    {mask : UInt64} (recorded : (rootSpecConsume state shared mask).2.record = true) :
    (rootSpecConsume state shared mask).2.reason ≠ .unset :=
  ((rootSpecConsume_effect state shared mask).record.mp recorded).1

/-- An applied policy names one of the two banks. -/
theorem rootSpecConsume_bank {state : RootSpecState} {shared : Option SpecPageRead}
    {mask : UInt64} (applied : (rootSpecConsume state shared mask).2.outcome = .applied) :
    (rootSpecConsume state shared mask).1.retained.bank ≤ 1 := by
  rcases rootSpecConsume_read state shared mask with ⟨page, read⟩ | ⟨idle, _⟩
  · rw [read] at applied ⊢
    cases rootSpecConsume_case state page mask with
    | applied bank selected later outcome retained =>
        rw [retained]
        have known : ∀ bank : Bank, UInt32.ofNat bank.val ≤ 1 := by decide
        exact known bank
    | unchanged bank selected equal outcome => simp [outcome] at applied
    | nothing unselected outcome =>
        rcases outcome with outcome | outcome <;> simp [outcome] at applied
  · exact absurd applied idle

theorem rootSpecRefresh_change (config : Config) (state : RootState) (spec : SpecPageRead) :
    StatusChange state (rootSpecRefresh config state spec).1
      (rootSpecRefresh config state spec).2.2 := by
  simp only [rootSpecRefresh]
  split_ifs with applied recorded recorded
  · exact (StatusMove.policy _ _ _ _ (rootSpecConsume_bank applied)).run
  · exact (StatusMove.policy _ _ _ _ (rootSpecConsume_bank applied)).run
  · exact .unchanged rfl rfl rfl
  · exact .unchanged rfl rfl rfl

/-! ### The restart path -/

theorem openDown_faultFlags (observation : RootStatusObservation) (now : UInt64)
    (clockValid : Bool) :
    (openDown observation now clockValid).faultFlags = observation.faultFlags := by
  simp only [openDown]
  split_ifs <;> rfl

theorem closeDown_faultFlags (observation : RootStatusObservation) (now : UInt64)
    (clockValid : Bool) :
    (closeDown observation now clockValid).faultFlags = observation.faultFlags := by
  simp only [closeDown]
  split_ifs <;> rfl

theorem faultWordFlags_ok (count : UInt64) : FaultFlags (faultWordFlags count) := by
  by_cases first : count ≥ 1
  · by_cases second : count ≥ 2
    · exact .inr (.inr (by simp only [faultWordFlags, first, second]; rfl))
    · exact .inr (.inl (by simp only [faultWordFlags, first, second]; rfl))
  · have second : ¬ count ≥ 2 := fun more => first (UInt64.le_trans (by decide) more)
    exact .inl (by simp only [faultWordFlags, first, second]; rfl)

/-- Noting a change of one child's observation. -/
theorem observe_run (state : RootStatusState) (page : Option Memory) (child : RootChild)
    {change : RootStatusObservation → RootStatusObservation}
    (flags : ∀ observation, FaultFlags observation.faultFlags →
      FaultFlags (change observation).faultFlags) :
    StatusRun state page [] (observe state child change) page :=
  (StatusMove.note child change flags).run

theorem observe_beamIncarnation (state : RootStatusState) (child : RootChild)
    (change : RootStatusObservation → RootStatusObservation) :
    (observe state child change).beamIncarnation = state.beamIncarnation := by
  simp only [observe]
  split_ifs <;> rfl

/-- Noting a restart closes the interval, then counts a new BEAM or stops. -/
theorem rootStatusNoteRestart_run (state : RootStatusState) (page : Option Memory)
    (child : RootChild) (now : UInt64) (clockValid beamRestart : Bool) :
    StatusRun state page []
      (rootStatusNoteRestart state child now clockValid beamRestart) page := by
  let close := fun (observation : RootStatusObservation) =>
    closeDown { observation with lastRestartTicks := if clockValid then now else 0 } now clockValid
  have noted : StatusRun state page [] (observe state child close) page :=
    observe_run state page child fun observation flags =>
      (closeDown_faultFlags _ now clockValid).symm ▸ flags
  have kept := observe_beamIncarnation state child close
  simp only [rootStatusNoteRestart]
  change StatusRun state page []
    (if present state child then
      if beamRestart then
        if state.beamIncarnation = 0xFFFFFFFFFFFFFFFF then
          { observe state child close with enabled := false, exhausted := true }
        else
          { observe state child close with beamIncarnation := state.beamIncarnation + 1 }
      else observe state child close
    else state) page
  generalize observe state child close = closed at noted kept ⊢
  split_ifs with declared beam last
  · exact noted.trans (StatusMove.stop true _).run
  · rw [← kept] at last ⊢
    exact noted.trans (StatusMove.incarnate last).run
  · exact noted
  · exact .refl state page

theorem rootStatusNoteGone_run (state : RootStatusState) (page : Option Memory)
    (child : RootChild) (now : UInt64) (clockValid : Bool) :
    StatusRun state page [] (rootStatusNoteGone state child now clockValid) page :=
  observe_run state page child fun observation flags => by
    rw [openDown_faultFlags]
    exact flags

theorem rootStatusNoteFault_run (state : RootStatusState) (page : Option Memory)
    (child : RootChild) (label count mr0 mr1 now : UInt64) (clockValid : Bool) :
    StatusRun state page []
      (rootStatusNoteFault state child label count mr0 mr1 now clockValid) page :=
  observe_run state page child fun observation _ => by
    rw [openDown_faultFlags]
    exact faultWordFlags_ok count

theorem rootGiveup_change (config : Config) (state : RootState) (child : RootChild)
    (reason : String) (read : UInt64) :
    StatusChange state (rootGiveup config state child reason read).1
      (rootGiveup config state child reason read).2 := by
  have quiet : publishedOf (rootGiveup config state child reason read).2 = [] := by
    simp only [rootGiveup]
    split_ifs <;> rfl
  rw [StatusChange, quiet]
  exact rootStatusNoteGone_run ..

theorem performPlan_change (config : Config) (state : RootState) (child : RootChild)
    (request : Request) (plan : RootRestartPlanResult) (entry read : UInt64) :
    StatusChange state (performPlan config state child request plan entry read).1
      (performPlan config state child request plan entry read).2 := by
  simp only [performPlan]
  cases plan.action with
  | ignoreGone => exact .unchanged rfl rfl rfl
  | resume => exact rootStatusNoteRestart_run ..
  | _ => exact rootGiveup_change ..

theorem observeClock_change (state : RootState) (read : UInt64) :
    StatusChange state (observeClock state read).1 (observeClock state read).2 := by
  simp only [observeClock]
  split_ifs <;> exact .unchanged rfl rfl rfl

theorem decideRequest_change (config : Config) (state : RootState) (child : RootChild)
    (spec : SpecPageRead) (reads : Reads) :
    StatusChange state (decideRequest config state child spec reads).state
      (decideRequest config state child spec reads).acts := by
  have refreshed := rootSpecRefresh_change config state spec
  have sampled := observeClock_change (rootSpecRefresh config state spec).1 reads.observe
  refine (refreshed.trans sampled).trans ?_
  simp only [decideRequest]
  split_ifs <;> exact .unchanged rfl rfl rfl

theorem rootRestartChild_change (config : Config) (state : RootState) (child : RootChild)
    (request : Request) (spec : SpecPageRead) (reads : Reads) :
    StatusChange state (rootRestartChild config state child request spec reads).state
      (rootRestartChild config state child request spec reads).acts :=
  ((decideRequest_change ..).trans (performPlan_change ..)).trans (.unchanged rfl rfl rfl)

/-! ### Events -/

theorem controlEvent_ok (state : RootState) (child : RootChild) {kind : RootControlKind}
    (a read : UInt64) (set : kind ≠ .unset) :
    EventOk child (controlEvent state child kind a read) :=
  .control kind rfl rfl rfl rfl set

theorem faultEvent_ok (state : RootState) (child : RootChild)
    (label count mr0 mr1 read : UInt64) :
    EventOk child (faultEvent state child label count mr0 mr1 read) :=
  .fault rfl rfl (faultWordFlags_ok count)

theorem rootStatusOutcome_ok (state : RootState) (child : RootChild)
    {action : RootRestartAction} (acted : action ≠ .ignoreGone) :
    EventOk child (rootStatusOutcome state child action) := by
  cases action with
  | ignoreGone => exact absurd rfl acted
  | resume => exact .restart rfl rfl rfl
  | giveupBudgetExhausted => exact .giveup .budgetExhausted rfl rfl rfl rfl (by decide)
  | giveupWindowExhausted => exact .giveup .windowExhausted rfl rfl rfl rfl (by decide)
  | giveupLifetimeExhausted => exact .giveup .lifetimeExhausted rfl rfl rfl rfl (by decide)
  | giveupNoEntry => exact .giveup .noEntry rfl rfl rfl rfl (by decide)

theorem requestEvents_ok {restarted : Restarted} {child : RootChild} {first : List RootEvent}
    (reads : Reads) (known : ∀ event ∈ first, EventOk child event)
    (recorded : restarted.spec.record = true → restarted.spec.reason ≠ .unset) :
    ∀ event ∈ requestEvents restarted child first reads, EventOk child event := by
  intro event member
  simp only [requestEvents, List.mem_append] at member
  rcases member with (member | member) | member
  · exact known event member
  · split_ifs at member with record
    · obtain rfl := List.mem_singleton.mp member
      exact .specReject _ rfl rfl rfl rfl (recorded record)
    · simp at member
  · split_ifs at member with acted
    · obtain rfl := List.mem_singleton.mp member
      exact rootStatusOutcome_ok _ child acted
    · simp at member

/-! ### Callbacks -/

theorem rootRestartChild_recorded {config : Config} {state : RootState} {child : RootChild}
    {request : Request} {spec : SpecPageRead} {reads : Reads}
    (recorded : (rootRestartChild config state child request spec reads).spec.record = true) :
    (rootRestartChild config state child request spec reads).spec.reason ≠ .unset := by
  rw [(rootRestartChild_effect config state child request spec reads).result] at recorded ⊢
  exact rootSpecConsume_record recorded

theorem restartAndPublish_change (config : Config) (state : RootState) (child : RootChild)
    (request : Request) {first : List RootEvent} (spec : SpecPageRead) (reads : Reads)
    (known : ∀ event ∈ first, EventOk child event) :
    StatusChange state (restartAndPublish config state child request first spec reads).1
      (restartAndPublish config state child request first spec reads).2 := by
  have recorded : (rootRestartChild config state child request spec reads).spec.record = true →
      (rootRestartChild config state child request spec reads).spec.reason ≠ .unset :=
    rootRestartChild_recorded
  have published := rootPublish_change
    (rootRestartChild config state child request spec reads).state child reads.publish
    (requestEvents_ok reads known recorded)
  exact (rootRestartChild_change config state child request spec reads).trans published

theorem notified_change (config : Config) (state : RootState) (channel : UInt32)
    (spec : SpecPageRead) (reads : Reads) :
    StatusChange state (notified config state channel spec reads).1
      (notified config state channel spec reads).2 := by
  simp only [notified]
  cases rootNotifyRoute channel rootChannels with
  | debugRestart index => exact restartAndPublish_change _ _ _ _ _ _ (by simp)
  | faultInject index =>
      dsimp only
      split_ifs with gone
      · exact .unchanged rfl rfl rfl
      · have injected : StatusChange state state
            [.puts (.faultInject (rootClassChild index)),
              .pdRestart (rootClassChild index) 0] := .unchanged rfl rfl rfl
        refine injected.trans (rootPublish_change state _ reads.publish ?_)
        intro event member
        obtain rfl := List.mem_singleton.mp member
        exact controlEvent_ok _ _ _ _ (by decide)
  | unexpected => exact .unchanged rfl rfl rfl

theorem rootCommandRestartChild_change (config : Config) (state : RootState)
    (decision : RootCommandDecision) (child : RootChild) (spec : SpecPageRead) (reads : Reads) :
    StatusChange state (rootCommandRestartChild config state decision child spec reads).1
      (rootCommandRestartChild config state decision child spec reads).2.2 := by
  have restarted := rootRestartChild_change config state child .ctlRestart spec reads
  simp only [rootCommandRestartChild]
  split_ifs with ignored
  · exact restarted
  · refine restarted.trans (rootPublish_change _ child reads.publish
      (requestEvents_ok reads ?_ rootRestartChild_recorded))
    intro event member
    obtain rfl := List.mem_singleton.mp member
    exact controlEvent_ok _ _ _ _ (by decide)

theorem performCommand_change (config : Config) (state : RootState)
    (decision : RootCommandDecision) (spec : SpecPageRead) (reads : Reads) :
    StatusChange state (performCommand config state decision spec reads).1
      (performCommand config state decision spec reads).2 := by
  cases action : decision.action with
  | none =>
      simp only [performCommand, action]
      exact .unchanged rfl rfl rfl
  | restart child =>
      have performed :=
        rootCommandRestartChild_change config state decision child spec reads
      simp only [performCommand, action]
      exact performed.trans (.unchanged rfl rfl rfl)

theorem protectedCall_change (config : Config) (state : RootState) (channel : UInt32)
    (label count : UInt64) (args : CommandWords) (spec : SpecPageRead) (reads : Reads) :
    StatusChange state (protectedCall config state channel label count args spec reads).1
      (protectedCall config state channel label count args spec reads).2 := by
  -- The command's own counters are no part of the status half.
  have counted : ∀ (command : RootCommandState) (decision : RootCommandDecision),
      StatusChange state
        (performCommand config { state with commandState := command } decision spec reads).1
        (performCommand config { state with commandState := command } decision spec reads).2 :=
    fun command decision =>
      performCommand_change config { state with commandState := command } decision spec reads
  simp only [protectedCall]
  split_ifs with framed
  · exact .unchanged rfl rfl rfl
  · exact counted _ _

theorem fault_change (config : Config) (state : RootState) (rawChild : UInt32)
    (label count mr0 mr1 : UInt64) (spec : SpecPageRead) (reads : Reads) :
    StatusChange state (fault config state rawChild label count mr0 mr1 spec reads).1
      (fault config state rawChild label count mr0 mr1 spec reads).2 := by
  simp only [fault]
  cases rootChildFromRaw rawChild (rootPresentChildren config) with
  | none => exact .unchanged rfl rfl rfl
  | some child =>
      have noted : StatusChange state (noteFault state child label count mr0 mr1 reads.entry)
          [.puts (.fault rawChild label (if count ≥ 1 then some mr0 else none)
            (if count ≥ 2 then some mr1 else none))] :=
        rootStatusNoteFault_run ..
      refine noted.trans (restartAndPublish_change config _ child .restart spec reads ?_)
      intro event member
      obtain rfl := List.mem_singleton.mp member
      exact faultEvent_ok ..

/-- Every callback is moves of the status writer. -/
theorem rootStep_change (config : Config) (state : RootState) (input : RootInput) :
    StatusChange state (rootStep config state input).1 (rootStep config state input).2 := by
  obtain ⟨callback, spec, reads⟩ := input
  cases callback with
  | fault rawChild label count mr0 mr1 => exact fault_change ..
  | notified channel => exact notified_change ..
  | protectedCall channel label count args => exact protectedCall_change ..

end Chrysopolis.Root
