import Chrysopolis.Root.CeilingProperties
import Chrysopolis.Root.StatusChannelProperties

/-! Two snapshots of Root's page in order. Every counter the reader compares only
grows, so it never sees a regression, and what it counts as missed is what the ring
of the later page has lost. -/

set_option autoImplicit false

namespace Chrysopolis.Root

open Chrysopolis.Abi
open Chrysopolis.Support

/-! ### Counters in state -/

/-- The time each child is known to have been down. -/
def downTicks (state : RootStatusState) (child : RootChild) : UInt64 :=
  (state.observations child).cumulativeDownTicks

/-- No child's counters went back. -/
structure RowsGrow (before after : RootState) : Prop where
  lifetime : ∀ child, (before.childRecords child).lifetimeCount ≤
    (after.childRecords child).lifetimeCount
  down : ∀ child, downTicks before.statusState child ≤ downTicks after.statusState child

theorem RowsGrow.trans {before between after : RootState} (first : RowsGrow before between)
    (second : RowsGrow between after) : RowsGrow before after :=
  ⟨fun child => UInt32.le_trans (first.lifetime child) (second.lifetime child),
    fun child => UInt64.le_trans (first.down child) (second.down child)⟩

/-- Parts of a callback that touch neither records nor observations. -/
theorem RowsGrow.same {before after : RootState}
    (records : after.childRecords = before.childRecords)
    (observed : after.statusState.observations = before.statusState.observations) :
    RowsGrow before after := by
  refine ⟨fun child => ?_, fun child => ?_⟩
  · rw [records]
    exact UInt32.le_refl _
  · simp only [downTicks, observed]
    exact UInt64.le_refl _

theorem observe_down {state : RootStatusState} {child : RootChild}
    {change : RootStatusObservation → RootStatusObservation}
    (grows : ∀ observation, observation.cumulativeDownTicks ≤
      (change observation).cumulativeDownTicks) (index : RootChild) :
    downTicks state index ≤ downTicks (observe state child change) index := by
  simp only [downTicks, observe]
  split_ifs
  · by_cases same : index = child
    · subst same
      simpa using grows (state.observations index)
    · simp [Function.update_of_ne same]
  · exact UInt64.le_refl _

theorem openDown_down (observation : RootStatusObservation) (now : UInt64) (clockValid : Bool) :
    (openDown observation now clockValid).cumulativeDownTicks =
      observation.cumulativeDownTicks := by
  simp only [openDown]
  split_ifs <;> rfl

/-- A sum with room for its addend does not wrap. -/
theorem le_add_of_room {total elapsed : UInt64}
    (room : ¬ elapsed > 0xFFFFFFFFFFFFFFFF - total) : total ≤ total + elapsed := by
  have below := total.toNat_lt
  have top : (0xFFFFFFFFFFFFFFFF : UInt64).toNat = 2 ^ 64 - 1 := by decide
  have order : total ≤ 0xFFFFFFFFFFFFFFFF := UInt64.le_iff_toNat_le.mpr (by omega)
  have fits := UInt64.le_iff_toNat_le.mp (UInt64.not_lt.mp room)
  rw [UInt64.toNat_sub_of_le _ _ order, top] at fits
  rw [UInt64.le_iff_toNat_le, UInt64.toNat_add, Nat.mod_eq_of_lt (by omega)]
  exact Nat.le_add_right _ _

/-- Closing an interval adds to the sum, or saturates it. -/
theorem closeDown_down (observation : RootStatusObservation) (now : UInt64) (clockValid : Bool) :
    observation.cumulativeDownTicks ≤
      (closeDown observation now clockValid).cumulativeDownTicks := by
  simp only [closeDown]
  split_ifs with opened forward full
  · have below := observation.cumulativeDownTicks.toNat_lt
    have top : (0xFFFFFFFFFFFFFFFF : UInt64).toNat = 2 ^ 64 - 1 := by decide
    exact UInt64.le_iff_toNat_le.mpr (by simp only [top]; omega)
  · exact le_add_of_room full
  · exact UInt64.le_refl _
  · exact UInt64.le_refl _

theorem rootStatusNoteRestart_down (state : RootStatusState) (child : RootChild) (now : UInt64)
    (clockValid beamRestart : Bool) (index : RootChild) :
    downTicks state index ≤
      downTicks (rootStatusNoteRestart state child now clockValid beamRestart) index := by
  let close := fun (observation : RootStatusObservation) =>
    closeDown { observation with lastRestartTicks := if clockValid then now else 0 } now clockValid
  have noted : downTicks state index ≤ downTicks (observe state child close) index :=
    observe_down (fun observation => closeDown_down
      { observation with lastRestartTicks := if clockValid then now else 0 } now clockValid) index
  by_cases declared : present state child = true
  · cases beamRestart with
    | false =>
        simp only [rootStatusNoteRestart, if_pos declared]
        exact noted
    | true =>
        by_cases last : state.beamIncarnation = 0xFFFFFFFFFFFFFFFF
        · simp only [rootStatusNoteRestart, if_pos declared, if_pos last]
          exact noted
        · simp only [rootStatusNoteRestart, if_pos declared, if_neg last]
          exact noted
  · simp only [rootStatusNoteRestart, if_neg declared]
    exact UInt64.le_refl _

theorem performPlan_down (config : Config) (state : RootState) (child : RootChild)
    (request : Request) (plan : RootRestartPlanResult) (entry read : UInt64)
    (index : RootChild) :
    downTicks state.statusState index ≤
      downTicks (performPlan config state child request plan entry read).1.statusState index := by
  have gone : ∀ observation : RootStatusObservation, observation.cumulativeDownTicks ≤
      (openDown observation (rootStatusTicks state read)
        state.rootClockState.available).cumulativeDownTicks := fun observation =>
    UInt64.le_of_eq (openDown_down observation _ _).symm
  simp only [performPlan]
  cases plan.action with
  | ignoreGone => exact UInt64.le_refl _
  | resume => exact rootStatusNoteRestart_down _ _ _ _ _ index
  | _ => exact observe_down gone index

theorem decideRequest_observations (config : Config) (state : RootState) (child : RootChild)
    (spec : SpecPageRead) (reads : Reads) :
    (decideRequest config state child spec reads).state.statusState.observations =
      state.statusState.observations := by
  have refreshed : (rootSpecRefresh config state spec).1.statusState.observations =
      state.statusState.observations := by
    simp only [rootSpecRefresh]
    split_ifs <;> rfl
  simp only [decideRequest]
  split_ifs <;> simp only [loseClock, observeClock_status, refreshed]

/-- A plan never takes a restart back. -/
theorem PlanCase.lifetime {record : RootChildRecord} {ceiling : UInt32} {entry : UInt64}
    {plan : RootRestartPlanResult} (decided : PlanCase record ceiling entry plan) :
    record.lifetimeCount ≤ plan.next.lifetimeCount := by
  cases decided with
  | ignored gone action next =>
      rw [next]
      exact UInt32.le_refl _
  | resumed live action below usable stays charged =>
      have order := UInt32.lt_iff_toNat_lt.mp below
      have small := ceiling.toNat_lt
      have one : (1 : UInt32).toNat = 1 := by decide
      rw [charged, UInt32.le_iff_toNat_le, UInt32.toNat_add, one]
      omega
  | gaveUp live stops next =>
      rw [next]
      exact UInt32.le_refl _

theorem rootRestartChild_grow (config : Config) (state : RootState) (child : RootChild)
    (request : Request) (spec : SpecPageRead) (reads : Reads) :
    RowsGrow state (rootRestartChild config state child request spec reads).state := by
  have effect := rootRestartChild_effect config state child request spec reads
  have records : (rootRestartChild config state child request spec reads).state.childRecords =
      Function.update state.childRecords child
        (state.decisions.plan config child spec reads.observe).next :=
    congrArg DecisionState.childRecords effect.decisions
  refine ⟨fun index => ?_, fun index => ?_⟩
  · rw [records]
    by_cases same : index = child
    · subst same
      rw [Function.update_self]
      exact (rootRestartPlan_of_plan config state.decisions index spec reads.observe).lifetime
    · rw [Function.update_of_ne same]
      exact UInt32.le_refl _
  · have decided := congrFun (decideRequest_observations config state child spec reads) index
    have carried := performPlan_down config (decideRequest config state child spec reads).state
      child request (decideRequest config state child spec reads).plan
      (decideRequest config state child spec reads).entry reads.outcome index
    simp only [downTicks, decided] at carried
    exact carried

theorem noteFault_grow (state : RootState) (child : RootChild)
    (label count mr0 mr1 read : UInt64) :
    RowsGrow state (noteFault state child label count mr0 mr1 read) := by
  refine ⟨fun _ => UInt32.le_refl _, observe_down fun observation => ?_⟩
  rw [openDown_down]
  exact UInt64.le_refl _

/-! ### Counters on the page -/

/-- The columns of a row the reader compares. -/
def countedColumns : List RootChildStatusField := [.lifetimeCount, .cumulativeDownTicks]

/-- What the writer holds for such a column. -/
def rowCounter (state : RootState) (child : RootChild) (field : RootChildStatusField) : Nat :=
  rowValue (state.statusState.observations child) (state.childRecords child) field

theorem RowsGrow.counter {before after : RootState} (grow : RowsGrow before after)
    (child : RootChild) {field : RootChildStatusField} (counted : field ∈ countedColumns) :
    rowCounter before child field ≤ rowCounter after child field := by
  simp only [countedColumns, List.mem_cons, List.not_mem_nil, or_false] at counted
  rcases counted with rfl | rfl
  · exact UInt32.le_iff_toNat_le.mp (grow.lifetime child)
  · exact UInt64.le_iff_toNat_le.mp (grow.down child)

/-- A page none of whose rows is ahead of the writer. -/
def RowsBelow (page : Memory) (state : RootState) : Prop :=
  ∀ child, ∀ field ∈ countedColumns,
    statusLayout.read page (.child child field) ≤ rowCounter state child field

def RowsLater (prior current : Memory) : Prop :=
  ∀ child, ∀ field ∈ countedColumns,
    statusLayout.read prior (.child child field) ≤ statusLayout.read current (.child child field)

/-- What a part of a callback does to the rows of a page and in state. -/
structure RowsMove (before after : RootState) : Prop where
  grow : RowsGrow before after
  page : ∀ current, after.statusPage = some current →
    ∃ prior, before.statusPage = some prior ∧
      (RowsBelow prior before → RowsLater prior current ∧ RowsBelow current after)

theorem RowsMove.trans {before between after : RootState} (first : RowsMove before between)
    (second : RowsMove between after) : RowsMove before after := by
  refine ⟨first.grow.trans second.grow, fun current mapped => ?_⟩
  obtain ⟨middle, middleMapped, moved⟩ := second.page current mapped
  obtain ⟨prior, priorMapped, started⟩ := first.page middle middleMapped
  refine ⟨prior, priorMapped, fun below => ?_⟩
  obtain ⟨early, reached⟩ := started below
  obtain ⟨late, last⟩ := moved reached
  exact ⟨fun child field counted => Nat.le_trans (early child field counted)
    (late child field counted), last⟩

theorem RowsMove.unwritten {before after : RootState} (grow : RowsGrow before after)
    (page : after.statusPage = before.statusPage) : RowsMove before after := by
  refine ⟨grow, fun current mapped => ⟨current, page ▸ mapped, fun below => ?_⟩⟩
  exact ⟨fun _ _ _ => Nat.le_refl _, fun child field counted =>
    Nat.le_trans (below child field counted) (grow.counter child counted)⟩

theorem RowsMove.same {before after : RootState}
    (records : after.childRecords = before.childRecords)
    (observed : after.statusState.observations = before.statusState.observations)
    (page : after.statusPage = before.statusPage) : RowsMove before after :=
  .unwritten (.same records observed) page

/-- A publication stores the counted columns of its own row only. -/
theorem publishPayload_counted (state : RootStatusState) (child : RootChild)
    (record : Option RootChildRecord) (now : UInt64) (clockValid : Bool)
    (events : List RootEvent) {index : RootChild} {field : RootChildStatusField}
    (counted : field ∈ countedColumns) {value : Nat}
    (stored : (StatusField.child index field, value) ∈
      publishPayload state child record now clockValid events) : index = child := by
  have other : field ≠ .effectiveBudget ∧ field ≠ .desired := by
    simp only [countedColumns, List.mem_cons, List.not_mem_nil, or_false] at counted
    rcases counted with rfl | rfl <;> decide
  simp only [publishPayload, List.mem_append] at stored
  rcases stored with ((stored | stored) | stored) | stored
  · cases record with
    | none => simp at stored
    | some record =>
        simp only [rowStores, List.mem_cons, List.not_mem_nil, or_false, Prod.mk.injEq,
          StatusField.child.injEq] at stored
        rcases stored with h | h | h | h | h | h | h | h | h | h | h | h <;> exact h.1.1
  · split_ifs at stored with dirty
    · simp only [policyStores, headerStore, List.mem_append, List.mem_flatMap, List.mem_filter,
        List.mem_cons, List.not_mem_nil, or_false, Prod.mk.injEq] at stored
      rcases stored with ⟨_, _, ⟨same, _⟩ | ⟨same, _⟩⟩ | ⟨same, _⟩ | ⟨same, _⟩
      · exact absurd (StatusField.child.inj same).2 other.1
      · exact absurd (StatusField.child.inj same).2 other.2
      · exact StatusField.noConfusion same
      · exact StatusField.noConfusion same
    · simp at stored
  · obtain ⟨_, _, inSlot⟩ := mem_ringStores.mp stored
    obtain ⟨_, same⟩ := mem_eventStores inSlot
    exact StatusField.noConfusion (congrArg Prod.fst same)
  · simp only [headerStore, List.mem_cons, List.not_mem_nil, or_false, Prod.mk.injEq] at stored
    rcases stored with h | h | h | h | h <;> exact StatusField.noConfusion h.1

section Publish

variable (state : RootStatusState) (page : Memory) (child : RootChild)
  (record : RootChildRecord) (now : UInt64) (clockValid : Bool) {events : List RootEvent}

/-- The counted columns of the published row. -/
theorem publishPage_counter (room : events.length ≤ eventCount) {field : RootChildStatusField}
    (counted : field ∈ countedColumns) :
    statusLayout.read (publishPage state page child (some record) now clockValid events)
      (.child child field) = rowValue (state.observations child) record field := by
  have other : StatusField.child child field ≠ .header .seq := fun same =>
    StatusField.noConfusion same
  have stored : ∃ value, (StatusField.child child field, value) ∈
      publishPayload state child (some record) now clockValid events := by
    refine ⟨rowValue (state.observations child) record field, ?_⟩
    simp only [countedColumns, List.mem_cons, List.not_mem_nil, or_false] at counted
    simp only [publishPayload, List.mem_append]
    refine .inl (.inl (.inl ?_))
    rcases counted with rfl | rfl <;> simp [rowStores, rowValue]
  rw [publishPage_stored state child (some record) now clockValid page room other stored]
  simp only [countedColumns, List.mem_cons, List.not_mem_nil, or_false] at counted
  rcases counted with rfl | rfl
  · exact Nat.mod_eq_of_lt (UInt32.toNat_lt _)
  · exact Nat.mod_eq_of_lt (UInt64.toNat_lt _)

theorem publishPage_counter_other {index : RootChild} (apart : index ≠ child)
    {field : RootChildStatusField} (counted : field ∈ countedColumns) :
    statusLayout.read (publishPage state page child (some record) now clockValid events)
      (.child index field) = statusLayout.read page (.child index field) := by
  have other : StatusField.child index field ≠ .header .seq := fun same =>
    StatusField.noConfusion same
  rw [publishPage_eq, assign_seq_read _ _ other, statusLayout.read_assign_other,
    assign_seq_read _ _ other]
  rintro ⟨target, value⟩ member rfl
  exact apart (publishPayload_counted state child (some record) now clockValid events counted
    member)

end Publish

/-- Publishing brings one row up to date and leaves the others. -/
theorem rootPublish_rows (state : RootState) (child : RootChild) (events : List RootEvent)
    (read : UInt64) : RowsMove state (rootPublish state child events read).1 := by
  by_cases publishing : (state.statusPage.isSome && state.statusState.enabled) = true
  · simp only [rootPublish, if_pos publishing]
    cases checked : publishCheck state.statusState state.statusPage child
        (some (state.childRecords child)) events with
    | publish =>
        simp only [rootStatusPublish, checked]
        refine ⟨.same rfl rfl, fun current mapped => ?_⟩
        obtain ⟨prior, priorMapped, rfl⟩ := Option.map_eq_some_iff.mp mapped
        refine ⟨prior, priorMapped, fun below => ?_⟩
        have room := (publishCheck_ready checked).room
        have updated : ∀ field ∈ countedColumns, _ := fun field counted =>
          publishPage_counter state.statusState prior child (state.childRecords child)
            (rootStatusTicks state read) state.rootClockState.available room counted
        have kept : ∀ index ≠ child, ∀ field ∈ countedColumns,
            statusLayout.read (publishPage state.statusState prior child
              (some (state.childRecords child)) (rootStatusTicks state read)
              state.rootClockState.available events) (.child index field) =
              statusLayout.read prior (.child index field) := fun index apart field counted =>
          publishPage_counter_other state.statusState prior child (state.childRecords child)
            (rootStatusTicks state read) state.rootClockState.available apart counted
        constructor
        · intro index field counted
          by_cases same : index = child
          · subst same
            rw [updated field counted]
            exact below index field counted
          · rw [kept index same field counted]
        · intro index field counted
          by_cases same : index = child
          · subst same
            rw [updated field counted]
            exact Nat.le_refl _
          · rw [kept index same field counted]
            exact below index field counted
    | _ =>
        simp only [rootStatusPublish, checked]
        exact .same rfl rfl rfl
  · simp only [rootPublish, if_neg publishing]
    exact .same rfl rfl rfl

/-- Every callback moves the rows forward. -/
theorem rootStep_rows (config : Config) (state : RootState) (input : RootInput) :
    RowsMove state (rootStep config state input).1 := by
  -- The restart path, then the publication after it.
  have published : ∀ (before : RootState) (child : RootChild) (request : Request)
      (events : List RootEvent) (spec : SpecPageRead) (reads : Reads),
      RowsMove before (rootPublish (rootRestartChild config before child request spec reads).state
        child events reads.publish).1 := by
    intro before child request events spec reads
    have effect := rootRestartChild_effect config before child request spec reads
    exact (RowsMove.unwritten (rootRestartChild_grow ..) effect.statusPage).trans
      (rootPublish_rows ..)
  obtain ⟨callback, spec, reads⟩ := input
  cases callback with
  | fault rawChild label count mr0 mr1 =>
      simp only [rootStep, fault]
      cases rootChildFromRaw rawChild (rootPresentChildren config) with
      | none => exact .same rfl rfl rfl
      | some child =>
          have noted : RowsMove state (noteFault state child label count mr0 mr1 reads.entry) :=
            .unwritten (noteFault_grow ..) rfl
          exact noted.trans (published _ child .restart _ spec reads)
  | notified channel =>
      simp only [rootStep, notified]
      cases rootNotifyRoute channel rootChannels with
      | debugRestart index => exact published state _ _ _ _ _
      | faultInject index =>
          dsimp only
          split_ifs with gone
          · exact .same rfl rfl rfl
          · exact rootPublish_rows ..
      | unexpected => exact .same rfl rfl rfl
  | protectedCall channel label count args =>
      cases accepted : acceptedRestart config state
          ⟨.protectedCall channel label count args, spec, reads⟩ with
      | none =>
          obtain ⟨command, same⟩ := protectedCall_unaccepted_state accepted
          simp only [rootStep, same]
          exact .same rfl rfl rfl
      | some child =>
          obtain ⟨command, call⟩ := acceptedRestart_call accepted
          simp only [rootStep, call.performed]
          rw [performCommand_accepted config { state with commandState := command } label args
            spec reads call.preconditions.live]
          have framed : RowsMove state { state with commandState := command } := .same rfl rfl rfl
          exact (framed.trans (published { state with commandState := command } _ _ _ _ _)).trans
            (.same rfl rfl rfl)

/-! ### Counters in the header -/

/-- What the reader compares in the header. -/
structure HeaderLater (prior current : Memory) : Prop where
  fresh : current = prior ∨
    statusLayout.read prior (.header .seq) < statusLayout.read current (.header .seq)
  generation : statusLayout.read current (.header .rootGeneration) =
    statusLayout.read prior (.header .rootGeneration)
  incarnation : statusLayout.read prior (.header .beamIncarnation) ≤
    statusLayout.read current (.header .beamIncarnation)

theorem HeaderLater.refl (page : Memory) : HeaderLater page page :=
  ⟨.inl rfl, rfl, Nat.le_refl _⟩

/-- The page shows no incarnation the writer has not reached. -/
def IncarnationBelow (state : RootStatusState) (page : Option Memory) : Prop :=
  ∀ bytes, page = some bytes →
    statusLayout.read bytes (.header .beamIncarnation) ≤ state.beamIncarnation.toNat

theorem StatusMove.incarnation {events : List RootEvent} {state next : RootStatusState}
    {page nextPage : Option Memory} (moved : StatusMove state page events next nextPage) :
    state.beamIncarnation.toNat ≤ next.beamIncarnation.toNat := by
  cases moved with
  | note child change => rw [observe_beamIncarnation]
  | incarnate room =>
      have below := state.beamIncarnation.toNat_lt
      have last : state.beamIncarnation.toNat ≠ 2 ^ 64 - 1 := fun same =>
        room (UInt64.toNat_inj.mp same)
      have one : (1 : UInt64).toNat = 1 := by decide
      simp only [UInt64.toNat_add, one]
      omega
  | _ => exact Nat.le_refl _

theorem publishPage_incarnation {state : RootStatusState} {page : Memory} {child : RootChild}
    (record : RootChildRecord) (now : UInt64) (clockValid : Bool) {events : List RootEvent}
    (ready : PublishReady state child events) :
    statusLayout.read (publishPage state page child (some record) now clockValid events)
      (.header .beamIncarnation) = state.beamIncarnation.toNat :=
  publishPage_header record now clockValid ready .beamIncarnation (by decide)

theorem IncarnationBelow.move {events : List RootEvent} {state next : RootStatusState}
    {page nextPage : Option Memory} (below : IncarnationBelow state page)
    (moved : StatusMove state page events next nextPage) : IncarnationBelow next nextPage := by
  intro bytes mapped
  have grows := moved.incarnation
  cases moved with
  | publish child record now clockValid events checked known =>
      obtain rfl := Option.some.inj mapped
      rw [publishPage_incarnation record now clockValid (publishCheck_ready checked)]
      exact grows
  | _ => exact Nat.le_trans (below bytes mapped) grows

/-- Every page a later move leaves comes after the earlier page. -/
def HeadersAfter (prior : Memory) (published : List RootEvent) (state : RootStatusState)
    (page : Option Memory) : Prop :=
  PublishedOk published state page ∧ IncarnationBelow state page ∧
    ∀ current, page = some current → HeaderLater prior current

theorem HeadersAfter.move {prior : Memory} {published events : List RootEvent}
    {state next : RootStatusState} {page nextPage : Option Memory}
    (before : HeadersAfter prior published state page)
    (moved : StatusMove state page events next nextPage) :
    HeadersAfter prior (published ++ events) next nextPage := by
  obtain ⟨ok, below, later⟩ := before
  refine ⟨ok.move moved, below.move moved, fun current mapped => ?_⟩
  cases moved with
  | @publish page child record now clockValid events checked known =>
      obtain rfl := Option.some.inj mapped
      have ready := publishCheck_ready checked
      have was := later page rfl
      have seq : statusLayout.read
          (publishPage state page child (some record) now clockValid events) (.header .seq) =
            state.seq.toNat + 2 :=
        (publishPage_seq ..).trans ready.seq
      refine ⟨.inr ?_, ?_, ?_⟩
      · rw [seq, ← (ok _ rfl).seq]
        rcases was.fresh with same | earlier
        · rw [same]
          omega
        · omega
      · rw [publishPage_kept state child (some record) now clockValid _ ready.room (by decide)]
        · exact was.generation
        · intro target
          cases target with
          | header _ dynamic => exact dynamic (by decide)
      · rw [publishPage_incarnation record now clockValid ready]
        exact Nat.le_trans was.incarnation (below _ rfl)
  | _ => exact later current mapped

/-! ### Runs -/

/-- Nothing the reader compares is behind the earlier page. -/
structure PageLater (prior current : Memory) : Prop where
  header : HeaderLater prior current
  head : statusLayout.read prior (.header .eventHead) ≤
    statusLayout.read current (.header .eventHead)
  rows : RowsLater prior current

theorem initStores_incarnation (state : RootStatusState) (stamp : UInt64) :
    ∃ value, (StatusField.header .beamIncarnation, value) ∈ initStores state stamp :=
  ⟨state.beamIncarnation.toNat, by simp [initStores, headerStore]⟩

theorem rootStatusInit_incarnation (bytes : Option Memory) (presentMask now frequency : UInt64)
    (budget : RootChild → UInt32) :
    IncarnationBelow (rootStatusInit bytes presentMask now frequency budget).1
      (rootStatusInit bytes presentMask now frequency budget).2 := by
  cases bytes with
  | none =>
      intro page mapped
      simp [rootStatusInit] at mapped
  | some bytes =>
      intro page mapped
      obtain rfl := Option.some.inj mapped
      have other : StatusField.header .beamIncarnation ≠ .header .seq := by decide
      exact Nat.le_of_eq (initPage_stored _ _ bytes other (initStores_incarnation _ _))

theorem rootAfter_incarnation (config : Config) (boot : Boot) (inputs : List RootInput) :
    IncarnationBelow (rootAfter config boot inputs).statusState
      (rootAfter config boot inputs).statusPage := by
  apply (rootMachine config).after_invariant
    (fun state => IncarnationBelow state.statusState state.statusPage)
  · intro state input below
    exact StatusRun.invariant (fun _ status page => IncarnationBelow status page)
      (fun before moved => before.move moved) [] below (rootStep_change config state input)
  · obtain ⟨bytes, now, frequency, budget, status, page, _⟩ := rootInit_status config boot
    rw [status, page]
    exact rootStatusInit_incarnation bytes _ now frequency budget

/-- Where the page is after boot its rows count nothing. -/
theorem rootAfter_rowsBelow (config : Config) (boot : Boot) (inputs : List RootInput)
    {page : Memory} (mapped : (rootAfter config boot inputs).statusPage = some page) :
    RowsBelow page (rootAfter config boot inputs) := by
  have invariant : ∀ page, (rootAfter config boot inputs).statusPage = some page →
      RowsBelow page (rootAfter config boot inputs) := by
    apply (rootMachine config).after_invariant
      (fun state => ∀ page, state.statusPage = some page → RowsBelow page state)
    · intro state input below current mapped
      obtain ⟨prior, priorMapped, moved⟩ := (rootStep_rows config state input).page current mapped
      exact (moved (below prior priorMapped)).2
    · intro page mapped child field counted
      obtain ⟨bytes, now, frequency, budget, status, same, _⟩ := rootInit_status config boot
      cases bytes with
      | none => simp [same, rootStatusInit] at mapped
      | some bytes =>
          obtain rfl := Option.some.inj (same.symm.trans mapped)
          have later : field ∉ [RootChildStatusField.state, .desired, .effectiveBudget,
              .bootTicks] := by
            simp only [countedColumns, List.mem_cons, List.not_mem_nil, or_false] at counted
            rcases counted with rfl | rfl <;> decide
          exact (Nat.le_of_eq (initPage_column _ _ bytes child later)).trans (Nat.zero_le _)
  exact invariant page mapped

/-- The moves from an earlier page on. -/
def RowsAfter (prior : Memory) (state : RootState) : Prop :=
  ∀ current, state.statusPage = some current → RowsLater prior current ∧ RowsBelow current state

theorem rootTrace_append (config : Config) (boot : Boot) (first second : List RootInput) :
    rootTrace config boot (first ++ second) =
      rootTrace config boot first ++
        (rootMachine config).trace (rootAfter config boot first) second := by
  rw [rootTrace, (rootMachine config).trace_append, ← List.append_assoc]
  rfl

/-- A page Root has later never goes back. -/
theorem rootAfter_later (config : Config) (boot : Boot) (earlier later : List RootInput)
    {prior current : Memory} (before : (rootAfter config boot earlier).statusPage = some prior)
    (after : (rootAfter config boot (earlier ++ later)).statusPage = some current) :
    PageLater prior current := by
  have published := rootTrace_published config boot earlier prior before
  have header : HeadersAfter prior (publishedOf (rootTrace config boot (earlier ++ later)))
      (rootAfter config boot (earlier ++ later)).statusState
      (rootAfter config boot (earlier ++ later)).statusPage := by
    rw [rootAfter_append, rootTrace_append]
    apply (rootMachine config).trace_invariant (fun acts state =>
      HeadersAfter prior (publishedOf acts) state.statusState state.statusPage)
    · intro emitted state input held
      rw [publishedOf_append]
      exact StatusRun.invariant (HeadersAfter prior) (fun held moved => held.move moved) _ held
        (rootStep_change config state input)
    · refine ⟨rootTrace_published config boot earlier, rootAfter_incarnation config boot earlier,
        fun page mapped => ?_⟩
      obtain rfl := Option.some.inj (before.symm.trans mapped)
      exact .refl prior
  have rows : RowsAfter prior (rootAfter config boot (earlier ++ later)) := by
    rw [rootAfter_append]
    apply (rootMachine config).after_invariant (RowsAfter prior)
    · intro state input held last mapped
      obtain ⟨middle, middleMapped, moved⟩ := (rootStep_rows config state input).page last mapped
      obtain ⟨early, below⟩ := held middle middleMapped
      obtain ⟨late, reached⟩ := moved below
      exact ⟨fun child field counted => Nat.le_trans (early child field counted)
        (late child field counted), reached⟩
    · intro page mapped
      obtain rfl := Option.some.inj (before.symm.trans mapped)
      exact ⟨fun _ _ _ => Nat.le_refl _, rootAfter_rowsBelow config boot earlier before⟩
  refine ⟨header.2.2 current after, ?_, (rows current after).1⟩
  rw [published.head, (header.1 current after).head, rootTrace_append, publishedOf_append,
    List.length_append]
  exact Nat.le_add_right _ _

/-! ### Snapshots -/

/-- What `root_status_read` gives out after these callbacks: a page's bytes over
whatever the buffer held beyond it. -/
def Snapshot (config : Config) (boot : Boot) (inputs : List RootInput) (copy : Memory) : Prop :=
  ∃ page output, (rootAfter config boot inputs).statusPage = some page ∧
    copy = copyOut page output

theorem copyOut_read (page output : Memory) (field : StatusField) :
    statusLayout.read (copyOut page output) field = statusLayout.read page field := by
  refine Memory.load_congr fun position lower upper => if_pos ?_
  have inPage : field.address + field.width ≤ statusTailAt := field.before_tail
  have address : statusLayout.address field = field.address := rfl
  have width : statusLayout.width field = field.width := rfl
  rw [address, width] at upper
  exact Nat.lt_of_lt_of_le upper (Nat.le_trans inPage (by decide))

theorem liveEvents_copyOut (page output : Memory) :
    liveEvents (copyOut page output) = liveEvents page := by
  have slots : RootStatusPage.events.slots (copyOut page output) =
      RootStatusPage.events.slots page :=
    congrArg (Ring.window eventCount) (copyOut_read page output (.header .eventHead))
  simp only [liveEvents, slots, eventAt, copyOut_read]

theorem rootStatusMissed_toNat (previousHead currentHead : UInt64) :
    (rootStatusMissed previousHead currentHead).toNat =
      currentHead.toNat - eventCount - previousHead.toNat := by
  have earliest : (if currentHead > UInt64.ofNat eventCount then
      currentHead - UInt64.ofNat eventCount else 0).toNat = currentHead.toNat - eventCount :=
    droppedEvents_toNat currentHead
  simp only [rootStatusMissed]
  generalize (if currentHead > UInt64.ofNat eventCount then
    currentHead - UInt64.ofNat eventCount else 0) = first at earliest ⊢
  split_ifs with lost
  · rw [UInt64.toNat_sub_of_le _ _ (UInt64.le_of_lt lost), earliest]
  · have order := UInt64.le_iff_toNat_le.mp (UInt64.not_lt.mp lost)
    rw [earliest] at order
    exact (Nat.sub_eq_zero_of_le order).symm

theorem headerWord_copyOut (page output : Memory) (field : RootStatusHeaderField) :
    headerWord (copyOut page output) field = headerWord page field :=
  congrArg UInt64.ofNat (copyOut_read page output (.header field))

theorem samePage_iff {left right : Memory} :
    samePage left right = true ↔
      ∀ position < statusPageSize, left position = right position := by
  simp only [samePage, List.all_eq_true, List.mem_range, beq_iff_eq]

theorem headerWord_toNat (page : Memory) {field : RootStatusHeaderField}
    (wide : field.width ≤ 8) :
    (headerWord page field).toNat = statusLayout.read page (.header field) := by
  refine UInt64.toNat_ofNat_of_lt' ?_
  have bound := statusLayout.read_lt page (.header field)
  have width : statusLayout.width (.header field) = field.width := rfl
  rw [width] at bound
  exact Nat.lt_of_lt_of_le bound (Nat.pow_le_pow_right (by decide) wide)

/-- A reader that holds an earlier and a later page sees no regression. -/
theorem rootStatusRegressed_later {prior current : Memory} (later : PageLater prior current)
    (priorRest currentRest : Memory) :
    rootStatusRegressed (copyOut prior priorRest) (copyOut current currentRest)
      (statusSeq (copyOut prior priorRest)) (statusSeq (copyOut current currentRest)) =
        false := by
  have generation : headerWord current .rootGeneration = headerWord prior .rootGeneration :=
    congrArg UInt64.ofNat later.header.generation
  have ordered : ∀ field : RootStatusHeaderField, field.width ≤ 8 →
      statusLayout.read prior (.header field) ≤ statusLayout.read current (.header field) →
      ¬ headerWord current field < headerWord prior field := by
    intro field wide order less
    have less := UInt64.lt_iff_toNat_lt.mp less
    rw [headerWord_toNat current wide, headerWord_toNat prior wide] at less
    omega
  simp only [rootStatusRegressed, headerWord_copyOut, statusSeq_copyOut, generation,
    UInt64.lt_irrefl, if_false, ne_eq, not_true_eq_false]
  split_ifs with same behind
  · rcases later.header.fresh with equal | fresh
    · subst equal
      have bytes : samePage (copyOut current priorRest) (copyOut current currentRest) = true := by
        rw [samePage_iff]
        intro position inPage
        simp only [copyOut, if_pos inPage]
      rw [bytes]
      rfl
    · have equal := congrArg UInt64.toNat same
      rw [statusSeq_toNat, statusSeq_toNat] at equal
      exact absurd equal (Nat.ne_of_gt fresh)
  · exfalso
    simp only [Bool.or_eq_true, decide_eq_true_eq] at behind
    rcases behind with (behind | behind) | behind
    · refine ordered .seq (by decide) ?_ behind
      rcases later.header.fresh with equal | fresh
      · rw [equal]
      · exact Nat.le_of_lt fresh
    · exact ordered .eventHead (by decide) later.head behind
    · exact ordered .beamIncarnation (by decide) later.header.incarnation behind
  · rw [List.any_eq_false]
    intro child _
    simp only [rowRegressed, copyOut_read, Bool.or_eq_true, decide_eq_true_eq, not_or, Nat.not_lt]
    exact ⟨later.rows child _ (by decide), later.rows child _ (by decide)⟩

/-- Of two snapshots in order the later never looks regressed, equal sequences mean
equal bytes, and the events counted as missed are those published from the earlier
head on that the later ring has lost. -/
theorem snapshots_in_order (config : Config) (boot : Boot) (earlier later : List RootInput)
    {prior current : Memory} (first : Snapshot config boot earlier prior)
    (second : Snapshot config boot (earlier ++ later) current)
    (readerTicks readerFrequency : UInt64) :
    (statusSeq prior = statusSeq current →
        ∀ position < statusPageSize, prior position = current position) ∧
      ∃ out, rootStatusObserve (some prior) (some current) readerTicks readerFrequency =
          .ok out ∧
        ∃ lost, (publishedOf (rootTrace config boot (earlier ++ later))).map RootEvent.wire =
            lost ++ liveEvents current ∧
          out.missedEvents.toNat =
            (lost.drop (statusLayout.read prior (.header .eventHead))).length := by
  obtain ⟨priorPage, priorRest, priorMapped, rfl⟩ := first
  obtain ⟨page, rest, mapped, rfl⟩ := second
  have ordered := rootAfter_later config boot earlier later priorMapped mapped
  have ok := rootTrace_published config boot (earlier ++ later) page mapped
  generalize publishedOf (rootTrace config boot (earlier ++ later)) = published at ok ⊢
  have generation : headerWord page .rootGeneration = headerWord priorPage .rootGeneration :=
    congrArg UInt64.ofNat ordered.header.generation
  constructor
  · intro same position inPage
    simp only [copyOut, if_pos inPage]
    rcases ordered.header.fresh with equal | fresh
    · rw [equal]
    · have equal := congrArg UInt64.toNat same
      simp only [statusSeq_copyOut, statusSeq_toNat] at equal
      exact absurd equal (Nat.ne_of_lt fresh)
  · simp only [rootStatusObserve, Option.any_some, Option.map_some, Option.getD_some,
      rootStatusRegressed_later ordered, Bool.false_eq_true, if_false, headerWord_copyOut,
      generation, beq_self_eq_true, if_true]
    refine ⟨_, rfl, (published.take (published.length - min published.length eventCount)).map
      RootEvent.wire, ?_, ?_⟩
    · rw [liveEvents_copyOut, ok.liveEvents, ← List.map_append, List.take_append_drop]
    · simp only [rootStatusMissed_toNat, copyOut_read, List.length_drop, List.length_map,
        List.length_take]
      rw [headerWord_toNat page (by decide), headerWord_toNat priorPage (by decide), ok.head]
      omega

/-- More faults than the ring has rows. -/
def sampleWrap : List RootInput := List.replicate 130 (sampleFault childBlk)

theorem sample_wrapped :
    (rootAfter sampleConfig sampleBoot ([sampleFault childBlk] ++ sampleWrap)).statusPage.isSome =
      true := by
  decide +kernel

/-- The page after one fault, then the page after the ring has wrapped: ten events are lost. -/
theorem snapshots_in_order_sample : ∃ out,
    rootStatusObserve
        (some (copyOut
          ((rootAfter sampleConfig sampleBoot [sampleFault childBlk]).statusPage.get sample_mapped)
          sampleBoot.statusMemory))
        (some (copyOut
          ((rootAfter sampleConfig sampleBoot
            ([sampleFault childBlk] ++ sampleWrap)).statusPage.get sample_wrapped)
          sampleBoot.statusMemory)) 20 62500000 = .ok out ∧
      out.missedEvents.toNat = 10 := by
  have first := (Option.some_get sample_mapped).symm
  have second := (Option.some_get sample_wrapped).symm
  obtain ⟨-, out, observed, lost, split, missed⟩ :=
    snapshots_in_order sampleConfig sampleBoot [sampleFault childBlk] sampleWrap
      ⟨_, sampleBoot.statusMemory, first, rfl⟩ ⟨_, sampleBoot.statusMemory, second, rfl⟩ 20 62500000
  refine ⟨out, observed, missed.trans ?_⟩
  have few : (publishedOf (rootTrace sampleConfig sampleBoot [sampleFault childBlk])).length =
      3 := by decide +kernel
  have many : (publishedOf (rootTrace sampleConfig sampleBoot
      ([sampleFault childBlk] ++ sampleWrap))).length = 141 := by decide +kernel
  have lengths := congrArg List.length split
  rw [liveEvents_copyOut, (rootTrace_published _ _ _ _ second).liveEvents, List.length_append,
    List.length_map, List.length_map, List.length_drop, many] at lengths
  rw [List.length_drop, copyOut_read, (rootTrace_published _ _ _ _ first).head, few]
  have ring : eventCount = 128 := rfl
  omega

end Chrysopolis.Root
