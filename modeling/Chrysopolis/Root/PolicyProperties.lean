import Chrysopolis.Root.CallProperties
import Chrysopolis.Root.PageProperties

/-! The policy a published page shows. The writer's rows follow the retained
policy, a publication puts them on the page, and a decision that finds the spec
page unchanged uses exactly what the page shows. -/

set_option autoImplicit false

namespace Chrysopolis.Root

open Chrysopolis.Abi
open Chrysopolis.Support

/-! ### The policy the writer shows -/

/-- The policy of the status state, and the rows it is shown in. -/
def RootStatusState.shown (state : RootStatusState) :
    UInt64 × (RootChild → UInt32) × UInt64 :=
  (state.appliedGeneration, state.effectiveBudget, state.presentMask)

theorem observe_shown (state : RootStatusState) (child : RootChild)
    (change : RootStatusObservation → RootStatusObservation) :
    (observe state child change).shown = state.shown := by
  simp only [observe]
  split_ifs <;> rfl

theorem rootStatusNoteRestart_shown (state : RootStatusState) (child : RootChild)
    (now : UInt64) (clockValid beamRestart : Bool) :
    (rootStatusNoteRestart state child now clockValid beamRestart).shown = state.shown := by
  simp only [rootStatusNoteRestart]
  split_ifs <;> first | rfl | exact observe_shown ..

theorem rootStatusPublish_shown (state : RootStatusState) (page : Option Memory)
    (child : RootChild) (record : Option RootChildRecord) (now : UInt64) (clockValid : Bool)
    (events : List RootEvent) :
    (rootStatusPublish state page child record now clockValid events).1.shown = state.shown := by
  simp only [rootStatusPublish]
  cases publishCheck state page child record events <;> rfl

theorem rootPublish_shown (state : RootState) (child : RootChild) (events : List RootEvent)
    (read : UInt64) :
    (rootPublish state child events read).1.statusState.shown = state.statusState.shown := by
  simp only [rootPublish]
  split_ifs
  · exact rootStatusPublish_shown ..
  · exact rootStatusPublish_shown ..
  · rfl

theorem performPlan_shown (config : Config) (state : RootState) (child : RootChild)
    (request : Request) (plan : RootRestartPlanResult) (entry read : UInt64) :
    (performPlan config state child request plan entry read).1.statusState.shown =
      state.statusState.shown := by
  simp only [performPlan]
  cases plan.action with
  | ignoreGone => rfl
  | resume => exact rootStatusNoteRestart_shown ..
  | _ => exact observe_shown ..

theorem observeClock_status (state : RootState) (read : UInt64) :
    (observeClock state read).1.statusState = state.statusState := by
  rw [observeClock_state]

theorem rootRestartChild_shown (config : Config) (state : RootState) (child : RootChild)
    (request : Request) (spec : SpecPageRead) (reads : Reads) :
    (rootRestartChild config state child request spec reads).state.statusState.shown =
      (rootSpecRefresh config state spec).1.statusState.shown := by
  simp only [rootRestartChild, performPlan_shown]
  simp only [decideRequest]
  split_ifs <;> simp only [loseClock, observeClock_status]

/-- The ceiling a row shows for a child. -/
def shownCeiling (config : Config) (decisions : DecisionState) (child : RootChild) : UInt32 :=
  rootRestartCeiling decisions.specState (decisions.inputs config child 0)

/-- The writer shows the retained policy in every present row. -/
def Shown (config : Config) (status : RootStatusState) (decisions : DecisionState) : Prop :=
  status.appliedGeneration = decisions.specState.retained.generation ∧
    ∀ child, present status child = true →
      status.effectiveBudget child = shownCeiling config decisions child

theorem Shown.congr {config : Config} {before after : RootStatusState}
    {decisions : DecisionState} (shown : Shown config before decisions)
    (same : after.shown = before.shown) : Shown config after decisions := by
  obtain ⟨generation, rest⟩ := Prod.mk.inj same
  obtain ⟨budget, mask⟩ := Prod.mk.inj rest
  refine ⟨generation.trans shown.1, fun child known => ?_⟩
  rw [budget]
  exact shown.2 child (by rw [present, ← mask]; exact known)

/-- A ceiling reads the retained policy and the test policy, nothing else. -/
theorem shownCeiling_congr {config : Config} {left right : DecisionState} (child : RootChild)
    (retained : left.specState.retained = right.specState.retained)
    (test : left.rootTestBudget = right.rootTestBudget) :
    shownCeiling config left child = shownCeiling config right child := by
  simp only [shownCeiling, rootRestartCeiling, DecisionState.inputs, rootSpecBudget, retained, test]
  rfl

theorem Shown.decisions {config : Config} {status : RootStatusState}
    {before after : DecisionState} (shown : Shown config status before)
    (retained : after.specState.retained = before.specState.retained)
    (test : after.rootTestBudget = before.rootTestBudget) : Shown config status after := by
  refine ⟨by rw [retained]; exact shown.1, fun child known => ?_⟩
  rw [shownCeiling_congr child retained test]
  exact shown.2 child known

/-- A refresh that applies a policy shows it. -/
theorem rootSpecRefresh_shown (config : Config) {state : RootState} (spec : SpecPageRead)
    (shown : Shown config state.statusState state.decisions) :
    Shown config (rootSpecRefresh config state spec).1.statusState
      (rootSpecRefresh config state spec).1.decisions := by
  have moved := rootSpecConsume_retained state.specState (sharedSpec state.specPage spec)
    (rootPresentChildren config)
  simp only [rootSpecRefresh]
  split_ifs with applied
  · refine ⟨rfl, fun child known => ?_⟩
    change (if present state.statusState child then _ else 0) = _
    have declared : present state.statusState child = true := known
    rw [if_pos declared]
    rfl
  · have kept := (moved.resolve_left fun both => applied both.1).2
    exact shown.decisions kept rfl

/-- Deciding and carrying out a request keeps the writer showing the policy. -/
theorem rootRestartChild_keeps_shown (config : Config) {state : RootState} (child : RootChild)
    (request : Request) (spec : SpecPageRead) (reads : Reads)
    (shown : Shown config state.statusState state.decisions) :
    Shown config (rootRestartChild config state child request spec reads).state.statusState
      (rootRestartChild config state child request spec reads).state.decisions := by
  have effect := rootRestartChild_effect config state child request spec reads
  have refreshed := (rootSpecRefresh_shown config spec shown).congr
    (rootRestartChild_shown config state child request spec reads)
  rw [effect.decisions]
  refine refreshed.decisions ?_ ?_
  · obtain ⟨status, eq⟩ := rootSpecRefresh_state config state spec
    rw [eq]
    rfl
  · obtain ⟨status, eq⟩ := rootSpecRefresh_state config state spec
    rw [eq]
    rfl

/-- Every callback keeps the writer showing the retained policy. -/
theorem rootStep_shown (config : Config) {state : RootState} (input : RootInput)
    (shown : Shown config state.statusState state.decisions) :
    Shown config (rootStep config state input).1.statusState
      (rootStep config state input).1.decisions := by
  -- A publication after the restart path keeps what the path left.
  have published : ∀ (before : RootState) (child : RootChild) (request : Request)
      (events : List RootEvent) (spec : SpecPageRead) (reads : Reads),
      Shown config before.statusState before.decisions →
      Shown config
        (rootPublish (rootRestartChild config before child request spec reads).state child events
          reads.publish).1.statusState
        (rootPublish (rootRestartChild config before child request spec reads).state child events
          reads.publish).1.decisions := by
    intro before child request events spec reads held
    rw [rootPublish_decisions]
    exact (rootRestartChild_keeps_shown config child request spec reads held).congr
      (rootPublish_shown ..)
  obtain ⟨callback, spec, reads⟩ := input
  cases callback with
  | fault rawChild label count mr0 mr1 =>
      simp only [rootStep, fault]
      cases rootChildFromRaw rawChild (rootPresentChildren config) with
      | none => exact shown
      | some child =>
          refine published (noteFault state child label count mr0 mr1 reads.entry) _ _ _ _ _ ?_
          exact shown.congr (observe_shown ..)
  | notified channel =>
      simp only [rootStep, notified]
      cases rootNotifyRoute channel rootChannels with
      | debugRestart index => exact published state _ _ _ _ _ shown
      | faultInject index =>
          dsimp only
          split_ifs with gone
          · exact shown
          · rw [rootPublish_decisions]
            exact shown.congr (rootPublish_shown ..)
      | unexpected => exact shown
  | protectedCall channel label count args =>
      cases accepted : acceptedRestart config state
          ⟨.protectedCall channel label count args, spec, reads⟩ with
      | none =>
          obtain ⟨command, same⟩ := protectedCall_unaccepted_state accepted
          simp only [rootStep, same]
          exact shown
      | some child =>
          obtain ⟨command, call⟩ := acceptedRestart_call accepted
          simp only [rootStep, call.performed]
          rw [performCommand_accepted config { state with commandState := command } label args
            spec reads call.preconditions.live]
          exact published { state with commandState := command } _ _ _ _ _ shown

theorem rootStatusInit_shown (bytes : Option Memory) (presentMask now frequency : UInt64)
    (budget : RootChild → UInt32) :
    (rootStatusInit bytes presentMask now frequency budget).1.shown =
      (0, fun child => if maskBit presentMask child.val then budget child else 0,
        presentMask) := by
  cases bytes <;> rfl

theorem rootInit_shown (config : Config) (boot : Boot) :
    Shown config (rootInit config boot).1.statusState (rootInit config boot).1.decisions := by
  have shown : (rootInit config boot).1.statusState.shown =
      (0, fun child => if maskBit (rootPresentChildren config) child.val then
          shownCeiling config (rootInit config boot).1.decisions child else 0,
        rootPresentChildren config) := rootStatusInit_shown ..
  obtain ⟨generation, rest⟩ := Prod.mk.inj shown
  obtain ⟨budget, mask⟩ := Prod.mk.inj rest
  refine ⟨generation, fun child known => ?_⟩
  rw [present, mask] at known
  rw [budget]
  exact if_pos known

theorem rootAfter_shown (config : Config) (boot : Boot) (inputs : List RootInput) :
    Shown config (rootAfter config boot inputs).statusState
      (rootAfter config boot inputs).decisions :=
  (rootMachine config).after_invariant
    (fun state => Shown config state.statusState state.decisions)
    (fun _ input shown => rootStep_shown config input shown) (rootInit_shown config boot) inputs

/-! ### The policy on the page -/

/-- The page's rows and header carry the writer's policy. -/
def PolicyOnPage (state : RootStatusState) (page : Memory) : Prop :=
  statusLayout.read page (.header .appliedSpecGeneration) = state.appliedGeneration.toNat ∧
    ∀ child, present state child = true →
      statusLayout.read page (.child child .effectiveBudget) = (state.effectiveBudget child).toNat

/-- The page carries the policy unless the next publication rewrites it. -/
def PolicyKept (state : RootStatusState) (page : Option Memory) : Prop :=
  ∀ bytes, page = some bytes → state.policyDirty = true ∨ PolicyOnPage state bytes

theorem policyStores_header (state : RootStatusState) (child : RootChild)
    (record : Option RootChildRecord) (now : UInt64) (clockValid : Bool)
    (events : List RootEvent) (dirty : state.policyDirty = true) :
    ∃ value, (StatusField.header .appliedSpecGeneration, value) ∈
      publishPayload state child record now clockValid events := by
  refine ⟨state.appliedGeneration.toNat, ?_⟩
  simp only [publishPayload, dirty, if_true, List.mem_append, policyStores]
  exact .inl (.inl (.inr (.inr List.mem_cons_self)))

theorem policyStores_row (state : RootStatusState) (child : RootChild)
    (record : Option RootChildRecord) (now : UInt64) (clockValid : Bool)
    (events : List RootEvent) (dirty : state.policyDirty = true) {index : RootChild}
    (known : present state index = true) :
    ∃ value, (StatusField.child index .effectiveBudget, value) ∈
      publishPayload state child record now clockValid events := by
  refine ⟨(state.effectiveBudget index).toNat, ?_⟩
  simp only [publishPayload, dirty, if_true, List.mem_append, policyStores]
  refine .inl (.inl (.inr (.inl (List.mem_flatMap.mpr ⟨index, ?_, List.mem_cons_self⟩))))
  exact List.mem_filter.mpr ⟨List.mem_finRange index, known⟩

/-- A publication leaves the writer's policy on the page. -/
theorem publishPage_policy {state : RootStatusState} {page : Memory} {child : RootChild}
    (record : RootChildRecord) (now : UInt64) (clockValid : Bool) {events : List RootEvent}
    (ready : PublishReady state child events)
    (kept : state.policyDirty = true ∨ PolicyOnPage state page) :
    PolicyOnPage (publishedState state events)
      (publishPage state page child (some record) now clockValid events) := by
  have header : StatusField.header .appliedSpecGeneration ≠ .header .seq := by decide
  have column : ∀ index : RootChild, StatusField.child index .effectiveBudget ≠ .header .seq :=
    fun _ same => StatusField.noConfusion same
  have generation : state.appliedGeneration.toNat < 256 ^ 8 := UInt64.toNat_lt _
  have budget : ∀ index : RootChild, (state.effectiveBudget index).toNat < 256 ^ 4 :=
    fun _ => UInt32.toNat_lt _
  rcases kept with dirty | ⟨oldGeneration, oldBudget⟩
  · refine ⟨?_, fun index known => ?_⟩
    · rw [publishPage_stored state child (some record) now clockValid page ready.room header
        (policyStores_header state child (some record) now clockValid events dirty)]
      exact Nat.mod_eq_of_lt generation
    · rw [publishPage_stored state child (some record) now clockValid page ready.room
        (column index)
        (policyStores_row state child (some record) now clockValid events dirty known)]
      exact Nat.mod_eq_of_lt (budget index)
  · refine ⟨?_, fun index known => ?_⟩
    · rcases publishPage_cases state child (some record) now clockValid page ready.room header with
        stored | same
      · rw [stored]
        exact Nat.mod_eq_of_lt generation
      · rw [same]
        exact oldGeneration
    · rcases publishPage_cases state child (some record) now clockValid page ready.room
        (column index) with stored | same
      · rw [stored]
        exact Nat.mod_eq_of_lt (budget index)
      · rw [same]
        exact oldBudget index known

theorem PolicyKept.move {events : List RootEvent} {state next : RootStatusState}
    {page nextPage : Option Memory} (kept : PolicyKept state page)
    (moved : StatusMove state page events next nextPage) : PolicyKept next nextPage := by
  intro bytes mapped
  cases moved with
  | note child change flags =>
      have shown := observe_shown state child change
      have dirty : (observe state child change).policyDirty = state.policyDirty := by
        simp only [observe]
        split_ifs <;> rfl
      obtain ⟨generation, rest⟩ := Prod.mk.inj shown
      obtain ⟨budget, mask⟩ := Prod.mk.inj rest
      rw [dirty, PolicyOnPage, generation, budget]
      simp only [present, mask]
      exact kept bytes mapped
  | policy => exact .inl rfl
  | publish child record now clockValid events checked known =>
      obtain rfl := Option.some.inj mapped
      exact .inr (publishPage_policy record now clockValid (publishCheck_ready checked)
        (kept _ rfl))
  | incarnate | stop | report => exact kept bytes mapped

theorem rootStatusInit_policy (bytes : Option Memory) (presentMask now frequency : UInt64)
    (budget : RootChild → UInt32) :
    PolicyKept (rootStatusInit bytes presentMask now frequency budget).1
      (rootStatusInit bytes presentMask now frequency budget).2 := by
  cases bytes with
  | none =>
      intro page mapped
      simp [rootStatusInit] at mapped
  | some bytes =>
      intro page mapped
      obtain rfl := Option.some.inj mapped
      refine .inr ⟨initPage_static _ _ _ (by decide), fun child known => ?_⟩
      have stored := initPage_stored _ (if frequency ≠ 0 then now else 0) bytes
        (fun same => StatusField.noConfusion same)
        (initStores_row _ (if frequency ≠ 0 then now else 0) known
          (by decide : RootChildStatusField.effectiveBudget ∈ _))
      exact stored.trans (Nat.mod_eq_of_lt (UInt32.toNat_lt _))

theorem rootAfter_policyKept (config : Config) (boot : Boot) (inputs : List RootInput) :
    PolicyKept (rootAfter config boot inputs).statusState
      (rootAfter config boot inputs).statusPage := by
  apply (rootMachine config).after_invariant
    (fun state => PolicyKept state.statusState state.statusPage)
  · intro state input kept
    exact StatusRun.invariant (fun _ status page => PolicyKept status page)
      (fun held moved => held.move moved) [] kept (rootStep_change config state input)
  · obtain ⟨bytes, now, frequency, budget, status, page, _⟩ := rootInit_status config boot
    rw [status, page]
    exact rootStatusInit_policy bytes (rootPresentChildren config) now frequency budget

/-! ### Publications -/

/-- No publication among the acts. -/
def Unpublished (acts : List RootAct) : Prop := ∀ events, .published events ∉ acts

theorem Unpublished.append {first second : List RootAct} (left : Unpublished first)
    (right : Unpublished second) : Unpublished (first ++ second) :=
  fun events member => (List.mem_append.mp member).elim (left events) (right events)

theorem rootSpecRefresh_unpublished (config : Config) (state : RootState)
    (spec : SpecPageRead) : Unpublished (rootSpecRefresh config state spec).2.2 := by
  intro events
  simp only [rootSpecRefresh]
  split_ifs <;> simp

theorem observeClock_unpublished (state : RootState) (read : UInt64) :
    Unpublished (observeClock state read).2 := by
  intro events
  simp only [observeClock]
  split_ifs <;> simp

theorem rootGiveup_unpublished (config : Config) (state : RootState) (child : RootChild)
    (reason : String) (read : UInt64) :
    Unpublished (rootGiveup config state child reason read).2 := by
  intro events
  simp only [rootGiveup]
  split_ifs <;> simp

theorem performPlan_unpublished (config : Config) (state : RootState) (child : RootChild)
    (request : Request) (plan : RootRestartPlanResult) (entry read : UInt64) :
    Unpublished (performPlan config state child request plan entry read).2 := by
  simp only [performPlan]
  cases plan.action with
  | ignoreGone => simp [Unpublished]
  | resume => simp [Unpublished, rootResume]
  | _ => exact rootGiveup_unpublished config state child _ read

/-- The restart path itself publishes nothing. -/
theorem rootRestartChild_unpublished (config : Config) (state : RootState) (child : RootChild)
    (request : Request) (spec : SpecPageRead) (reads : Reads) :
    Unpublished (rootRestartChild config state child request spec reads).acts := by
  have invalid : Unpublished (if (decideRequest config state child spec reads).plan.policyInvalid
      then [.puts .policyInvalid] else []) := by
    intro events
    split_ifs <;> simp
  have refreshed := rootSpecRefresh_unpublished config state spec
  have observed := observeClock_unpublished (rootSpecRefresh config state spec).1 reads.observe
  exact (((refreshed.append observed).append invalid).append
    (performPlan_unpublished config _ child request _ _ reads.outcome)).append
    (by simp [Unpublished])

/-- The page is mapped and carries everything the writer has to show. -/
def Written (state : RootState) : Prop :=
  state.statusState.policyDirty = false ∧ state.statusPage.isSome = true

/-- A completed publication has written the policy out. -/
theorem rootPublish_written {state : RootState} {child : RootChild} {events : List RootEvent}
    {read : UInt64} {shown : List RootEvent}
    (published : .published shown ∈ (rootPublish state child events read).2) :
    Written (rootPublish state child events read).1 := by
  have quiet : ∀ after : RootState, .published shown ∉ (reportStatus after).2 := by
    intro after
    simp only [reportStatus]
    split_ifs <;> simp
  by_cases publishing : (state.statusPage.isSome && state.statusState.enabled) = true
  · have mapped := (Bool.and_eq_true_iff.mp publishing).1
    simp only [rootPublish, if_pos publishing] at published ⊢
    cases checked : publishCheck state.statusState state.statusPage child
        (some (state.childRecords child)) events with
    | publish =>
        simp only [rootStatusPublish, checked]
        exact ⟨rfl, by rw [← mapped]; exact Option.isSome_map⟩
    | _ =>
        simp only [rootStatusPublish, checked, Bool.false_eq_true, if_false,
          List.nil_append] at published
        exact absurd published (quiet _)
  · simp only [rootPublish, if_neg publishing] at published
    exact absurd published (quiet _)

theorem protectedCall_unpublished {config : Config} {state : RootState} {channel : UInt32}
    {label count : UInt64} {args : CommandWords} {spec : SpecPageRead} {reads : Reads}
    (refused : acceptedRestart config state
      ⟨.protectedCall channel label count args, spec, reads⟩ = none) :
    Unpublished (protectedCall config state channel label count args spec reads).2 := by
  simp only [acceptedRestart] at refused
  intro events
  split_ifs at refused with framed
  · simp [protectedCall, framed]
  · simp [protectedCall, framed, performCommand_none config _ spec reads refused]

/-- After every publication of a callback the page shows the writer's policy. -/
theorem rootStep_written {config : Config} {state : RootState} {input : RootInput}
    {events : List RootEvent} (published : .published events ∈ (rootStep config state input).2) :
    Written (rootStep config state input).1 := by
  -- The publication is the one after the restart path.
  have restarted : ∀ (before : RootState) (child : RootChild) (request : Request)
      (batch : List RootEvent) (spec : SpecPageRead) (reads : Reads),
      .published events ∈ (rootRestartChild config before child request spec reads).acts ++
          (rootPublish (rootRestartChild config before child request spec reads).state child batch
            reads.publish).2 →
      Written (rootPublish (rootRestartChild config before child request spec reads).state child
        batch reads.publish).1 := by
    intro before child request batch spec reads member
    rcases List.mem_append.mp member with member | member
    · exact absurd member (rootRestartChild_unpublished _ _ _ _ _ _ events)
    · exact rootPublish_written member
  obtain ⟨callback, spec, reads⟩ := input
  cases callback with
  | fault rawChild label count mr0 mr1 =>
      simp only [rootStep, fault] at published ⊢
      cases known : rootChildFromRaw rawChild (rootPresentChildren config) with
      | none => simp [known] at published
      | some child =>
          rw [known] at published
          have beyond : .published events ∈ (restartAndPublish config
              (noteFault state child label count mr0 mr1 reads.entry) child .restart
              [faultEvent state child label count mr0 mr1 reads.entry] spec reads).2 :=
            (List.mem_cons.mp published).resolve_left RootAct.noConfusion
          exact restarted _ child .restart _ spec reads beyond
  | notified channel =>
      simp only [rootStep, notified] at published ⊢
      cases routed : rootNotifyRoute channel rootChannels with
      | debugRestart index =>
          rw [routed] at published
          exact restarted state _ .debugRestart _ spec reads published
      | faultInject index =>
          simp only [routed] at published ⊢
          split_ifs at published ⊢ with gone
          · simp at published
          · have shown : .published events ∈ (rootPublish state (rootClassChild index)
                [controlEvent state (rootClassChild index) .faultInject 0 reads.control]
                reads.publish).2 := by simpa using published
            exact rootPublish_written shown
      | unexpected => simp [routed] at published
  | protectedCall channel label count args =>
      cases accepted : acceptedRestart config state
          ⟨.protectedCall channel label count args, spec, reads⟩ with
      | none =>
          exact absurd published (protectedCall_unpublished accepted events)
      | some child =>
          obtain ⟨command, call⟩ := acceptedRestart_call accepted
          have performed := call.performed
          rw [performCommand_accepted config { state with commandState := command } label args
            spec reads call.preconditions.live] at performed
          simp only [rootStep, performed] at published ⊢
          refine restarted { state with commandState := command } child .ctlRestart _ spec reads
            ((List.mem_append.mp published).resolve_right ?_)
          simp

end Chrysopolis.Root
