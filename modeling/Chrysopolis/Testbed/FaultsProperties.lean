import Chrysopolis.Testbed.Faults

/-! The fault model: what a step admits, that no chart refuses what was admitted, a block
driver Root gave up on, and a restart that was not waited for. -/

set_option autoImplicit false

namespace Chrysopolis.Testbed.Faults

open Chrysopolis.Support

/-! ### Expectations -/

section

variable {first second : Expect} {outcome : Outcome}

theorem mem_expect_iff {allowed : Expect} :
    outcome ∈ allowed ↔ allowed.anything = true ∨ outcome ∈ allowed.outcomes := Iff.rfl

@[simp] theorem mem_union_expect :
    outcome ∈ first ∪ second ↔ outcome ∈ first ∨ outcome ∈ second := by
  change
    ((first.anything || second.anything) = true ∨ outcome ∈ first.outcomes ∪ second.outcomes) ↔ _
  rw [Bool.or_eq_true, Finset.mem_union, mem_expect_iff, mem_expect_iff, or_or_or_comm]

@[simp] theorem mem_expectStatus {statuses : Finset Status} :
    outcome ∈ expectStatus statuses ↔ ∃ status ∈ statuses, .status status = outcome := by
  rw [mem_expect_iff, expectStatus, Finset.mem_image]
  simp only [Bool.false_eq_true, false_or]

@[simp] theorem status_mem_expectStatus {statuses : Finset Status} {status : Status} :
    .status status ∈ expectStatus statuses ↔ status ∈ statuses := by
  simp

@[simp] theorem mem_expectOne {only : Outcome} : outcome ∈ expectOne only ↔ outcome = only := by
  rw [mem_expect_iff, expectOne, Finset.mem_singleton]
  simp only [Bool.false_eq_true, false_or]

@[simp] theorem mem_anything : outcome ∈ anything := .inl rfl

end

/-! ### Settling -/

namespace RootModel

variable {root : RootModel} {which : List Driver}

/-- What settling does to the chart of one driver. -/
def settleChart (which : List Driver) (driver : Driver) (chart : DriverLifecycle) :
    DriverLifecycle :=
  if driver ∈ which ∧ chart.state = .recovering then { chart with state := .running } else chart

def settledAll (root : RootModel) (which : List Driver) : RootModel :=
  { root with drivers := fun driver => (root.drivers driver).map (settleChart which driver) }

@[simp] theorem set_drivers_self (driver : Driver) (chart : DriverLifecycle) :
    (root.set driver chart).drivers driver = some chart := Function.update_self ..

theorem set_drivers_of_ne {driver other : Driver} (ne : other ≠ driver) (chart : DriverLifecycle) :
    (root.set driver chart).drivers other = root.drivers other := Function.update_of_ne ne ..

@[simp] theorem set_budget (driver : Driver) (chart : DriverLifecycle) :
    (root.set driver chart).budget = root.budget := rfl

@[simp] theorem chart_set_self (driver : Driver) (chart : DriverLifecycle) :
    (root.set driver chart).chart driver = chart := by
  rw [RootModel.chart, set_drivers_self, Option.getD_some]

theorem chart_set_of_ne {driver other : Driver} (ne : other ≠ driver) (chart : DriverLifecycle) :
    (root.set driver chart).chart other = root.chart other := by
  rw [RootModel.chart, set_drivers_of_ne ne, set_budget, RootModel.chart]

theorem chart_settledAll (root : RootModel) (which : List Driver) (driver : Driver) :
    (root.settledAll which).chart driver = settleChart which driver (root.chart driver) := by
  have fresh : settleChart which driver (.fresh root.budget) = .fresh root.budget :=
    if_neg fun settles => nomatch settles.2
  simp only [RootModel.chart, settledAll]
  cases root.drivers driver with
  | none => exact fresh.symm
  | some chart => rfl

theorem settledAll_nil (root : RootModel) : root.settledAll [] = root := by
  rw [settledAll]
  have none' (driver : Driver) : settleChart [] driver = id := by
    funext chart
    exact if_neg fun settles => List.not_mem_nil settles.1
  simp only [none', Option.map_id, id]

variable [ChartLibrary]

theorem settleOne_eq (root : RootModel) (which : List Driver) (driver : Driver) :
    settleOne which root driver =
      some { root with
        drivers := Function.update root.drivers driver
          ((root.drivers driver).map (settleChart which driver)) } := by
  unfold settleOne
  cases held : root.drivers driver with
  | none =>
      have same : Function.update root.drivers driver none = root.drivers := by
        rw [← held, Function.update_eq_self]
      simp only [Option.map_none, same]
  | some chart =>
      by_cases settles : driver ∈ which ∧ chart.state = .recovering
      · simp only [if_pos settles, DriverLifecycle.evolved_settled settles.2, Option.map_some,
          settleChart]
        rfl
      · simp only [if_neg settles, Option.map_some, settleChart]
        rw [← held, Function.update_eq_self]

/-- Settling never refuses, and does so much to each chart. -/
theorem settled_eq (root : RootModel) (which : List Driver) :
    root.settled which = some (root.settledAll which) := by
  simp only [settled, Faults.drivers, List.foldlM_cons, List.foldlM_nil, settleOne_eq,
    Option.bind_eq_bind, Option.bind_some, Option.pure_def, Option.some.injEq]
  rw [settledAll]
  congr 1
  funext driver
  cases driver <;> simp [Function.update]

end RootModel

section

variable [ChartLibrary]

namespace Model

variable {model : Model} {outcome : Outcome}

theorem settle_eq (model : Model) (step : Step) (next : Model) :
    model.settle step next =
      some { next with root := next.root.settledAll (model.settling step) } := by
  unfold settle
  split
  · rw [RootModel.settled_eq]
    rfl
  · next nobody =>
    rw [Decidable.of_not_not nobody, RootModel.settledAll_nil]
    rfl

theorem after_root (step : RootStep) :
    model.after (.root step) outcome = (model.root.after step outcome).map fun root =>
      { model with root := root.settledAll (model.settling (.root step)) } := by
  change ((model.own outcome (.root step)).bind (model.settle (.root step))) = _
  rw [own]
  cases model.root.after step outcome with
  | none => rfl
  | some root => exact settle_eq ..

theorem after_storage (step : StorageStep) :
    model.after (.storage step) outcome = (model.storage.after step outcome).map fun storage =>
      { model with
        storage
        root := model.root.settledAll (model.settling (.storage step)) } := by
  change ((model.own outcome (.storage step)).bind (model.settle (.storage step))) = _
  rw [own]
  cases model.storage.after step outcome with
  | none => rfl
  | some storage => exact settle_eq ..

theorem after_net (step : NetStep) :
    model.after (.net step) outcome =
      some { model with root := model.root.settledAll (model.settling (.net step)) } :=
  settle_eq ..

theorem after_crashPut (file : FileNumber) (seed : Fin 256) (afterMs : Fin 201) :
    model.after (.crashPut file seed afterMs) outcome =
      (model.storage.crashed file seed).map fun storage => { model with storage }.rebooted := by
  change ((model.storage.crashed file seed).bind _) = _
  cases model.storage.crashed file seed <;> rfl

end Model

/-! ### No chart refuses what was admitted -/

/-- An admitted outcome of a request, and the chart it leaves. -/
theorem RootModel.after_cases {root : RootModel} {step : RootStep} {outcome : Outcome}
    (admitted : outcome ∈ root.expect step) :
    ((root.chart step.driver).state = .gone ∧
        root.after step outcome = some (root.set step.driver (root.chart step.driver))) ∨
      ((root.chart step.driver).state ≠ .gone ∧
        (root.chart step.driver).model.hasBudget = false ∧
        root.after step outcome = some (root.set step.driver
          { state := .gone, model := (root.chart step.driver).model })) ∨
      ((root.chart step.driver).state ≠ .gone ∧
        (root.chart step.driver).model.hasBudget = true ∧
        root.after step outcome = some (root.set step.driver
          { state := if step.settle then .running else .recovering
            model := (root.chart step.driver).model.spend })) := by
  unfold expect at admitted
  simp only at admitted
  rw [after]
  by_cases gone : (root.chart step.driver).state = .gone
  · rw [if_pos gone, mem_expectStatus] at admitted
    obtain ⟨status, -, rfl⟩ := admitted
    refine .inl ⟨gone, ?_⟩
    have named : event step (.status status) = .ignored := rfl
    rw [named, DriverLifecycle.evolved_ignored gone]
    rfl
  rw [if_neg gone] at admitted
  cases budget : (root.chart step.driver).model.hasBudget with
  | false =>
      rw [budget, Bool.not_false, if_pos rfl, mem_expectOne] at admitted
      refine .inr (.inl ⟨gone, rfl, ?_⟩)
      rw [admitted, event, DriverLifecycle.evolved_gaveUp gone budget]
      rfl
  | true =>
      rw [budget, Bool.not_true, if_neg Bool.false_ne_true, mem_expectOne] at admitted
      refine .inr (.inr ⟨gone, rfl, ?_⟩)
      rw [admitted, event]
      cases step.settle with
      | true =>
          simp only [if_true, DriverLifecycle.evolved_restarted gone budget]
          rfl
      | false =>
          simp only [Bool.false_eq_true, if_false,
            DriverLifecycle.evolved_restartedUnsettled gone budget]
          rfl

namespace StorageModel

variable (storage : StorageModel) (step : StorageStep) (outcome : Outcome)

theorem evolveFile_total (number : FileNumber) (event : FileEvent) (data : FileData) :
    ∃ next, storage.evolveFile number event data = some next := by
  obtain ⟨chart, evolved⟩ := FileLifecycle.evolved_total (storage.file number) event data
  exact ⟨_, by rw [evolveFile, evolved]; rfl⟩

omit [ChartLibrary] in
variable {storage} in
theorem state_of_armed {armed : FaultRecord} (held : storage.armed = some armed) :
    storage.fault.state ≠ .disarmed ∧ armed = storage.fault.model := by
  rw [StorageModel.armed] at held
  split at held
  · next active => exact ⟨active, (Option.some.inj held).symm⟩
  · cases held

theorem moved_total (number : FileNumber) : ∃ next, storage.moved number = some next := by
  unfold moved
  cases held : storage.armed with
  | none => exact ⟨_, rfl⟩
  | some armed =>
      simp only
      split
      · exact ⟨_, rfl⟩
      · rw [evolveFault, FaultLifecycle.evolved_moved (state_of_armed held).1]
        exact ⟨_, rfl⟩

theorem spend_total : ∃ next, storage.spend step outcome = some next := by
  unfold spend
  cases held : storage.armed with
  | none => exact ⟨_, rfl⟩
  | some armed =>
      obtain ⟨active, rfl⟩ := state_of_armed held
      simp only
      split
      · exact ⟨_, rfl⟩
      next fires =>
      have once : storage.fault.model.once = true := by
        rw [not_or] at fires
        exact Bool.not_eq_false _ ▸ fires.2
      cases sole : storage.certain storage.fault.model step with
      | true =>
          have aimed : storage.fault.state ≠ .adrift := by
            unfold certain at sole
            exact bne_iff_ne.mp (Bool.and_eq_true _ _ ▸ sole).1
          rw [if_pos rfl, evolveFault, FaultLifecycle.evolved_spent active aimed once]
          exact ⟨_, rfl⟩
      | false =>
          obtain ⟨fault, fired⟩ := FaultLifecycle.evolved_maybeFired active once {}
          rw [if_neg Bool.false_ne_true, evolveFault, fired]
          exact ⟨_, rfl⟩

theorem after_total : ∃ next, storage.after step outcome = some next := by
  obtain ⟨model, spent⟩ := storage.spend_total step outcome
  unfold after
  rw [spent]
  simp only [Option.bind_eq_bind, Option.bind_some]
  cases step with
  | put file seed =>
      simp only
      split
      · obtain ⟨written, evolved⟩ := model.evolveFile_total file .written { seed := seed.val }
        rw [evolved]
        exact written.moved_total file
      · obtain ⟨failed, evolved⟩ := model.evolveFile_total file .writeFailed {}
        obtain ⟨left, moved⟩ := failed.moved_total file
        rw [evolved, Option.bind_some, moved, Option.bind_some, WindowLifecycle.evolved_leftDirty]
        split <;> exact ⟨_, rfl⟩
  | get file => exact ⟨_, rfl⟩
  | arm op region file once =>
      simp only [evolveFault, FaultLifecycle.evolved_aimed, FaultLifecycle.evolved_removed]
      split <;> exact ⟨_, rfl⟩
  | disarm =>
      simp only [evolveFault, FaultLifecycle.evolved_removed]
      exact ⟨_, rfl⟩
  | corrupt region file =>
      simp only
      split
      · split
        · exact model.evolveFile_total file .corrupted {}
        · rw [VolumeLifecycle.evolved_metadataCorrupted]
          exact ⟨_, rfl⟩
      · exact ⟨_, rfl⟩

theorem crashed_total (number : FileNumber) (seed : Fin 256) :
    ∃ next, storage.crashed number seed = some next :=
  storage.evolveFile_total number .cut _

end StorageModel

namespace Model

/-- No chart refuses the event of an admitted outcome. -/
theorem after_total {model : Model} {step : Step} {outcome : Outcome}
    (admitted : outcome ∈ model.expect step) : ∃ next, model.after step outcome = some next := by
  cases step with
  | root step =>
      rw [after_root]
      rcases RootModel.after_cases admitted with ⟨-, after⟩ | ⟨-, -, after⟩ | ⟨-, -, after⟩ <;>
        exact ⟨_, by rw [after]; rfl⟩
  | storage step =>
      obtain ⟨storage, after⟩ := model.storage.after_total step outcome
      exact ⟨_, by rw [after_storage, after]; rfl⟩
  | net step => exact ⟨_, after_net step⟩
  | reset => exact ⟨_, rfl⟩
  | crashPut file seed afterMs =>
      obtain ⟨storage, crashed⟩ := model.storage.crashed_total file seed
      exact ⟨_, by rw [after_crashPut, crashed]; rfl⟩

end Model

end

/-! ### Something is always admitted -/

/-- Some outcome is admitted. -/
def Expect.Nonempty (allowed : Expect) : Prop := ∃ outcome, outcome ∈ allowed

theorem Expect.Nonempty.anything : Expect.Nonempty Faults.anything := ⟨.status .ok, mem_anything⟩

theorem Expect.Nonempty.one (outcome : Outcome) : (expectOne outcome).Nonempty :=
  ⟨outcome, mem_expectOne.mpr rfl⟩

theorem Expect.Nonempty.status {statuses : Finset Status} {status : Status}
    (member : status ∈ statuses) : (expectStatus statuses).Nonempty :=
  ⟨.status status, status_mem_expectStatus.mpr member⟩

theorem Expect.Nonempty.union {first : Expect} (nonempty : first.Nonempty) (second : Expect) :
    (first ∪ second).Nonempty :=
  have ⟨outcome, admitted⟩ := nonempty
  ⟨outcome, mem_union_expect.mpr (.inl admitted)⟩

theorem RootModel.expect_nonempty (root : RootModel) (step : RootStep) :
    (root.expect step).Nonempty := by
  unfold expect
  simp only
  split
  · exact .status (Finset.mem_singleton_self _)
  split
  · exact .one _
  · exact .one _

namespace StorageModel

variable (storage : StorageModel)

theorem present_nonempty (number : FileNumber) : (storage.present number).Nonempty := by
  unfold present
  split
  · exact .anything
  split
  · exact .status (Finset.mem_singleton_self _)
  · exact .status (Finset.mem_insert_self ..)
  · exact .status (Finset.mem_insert_self ..)
  · exact .status (Finset.mem_singleton_self _)

theorem held_nonempty (chart : FileLifecycle) : (held chart).Nonempty := by
  unfold held
  split
  · exact .status (Finset.mem_singleton_self _)
  · exact .anything
  · exact ⟨.status .differs, .inr (Finset.mem_union_right _ (Finset.mem_insert_self ..))⟩
  · exact .status (Finset.mem_singleton_self _)
  · exact .one _

theorem unfaulted_nonempty (step : StorageStep) (up : Bool) :
    (storage.unfaulted step up).Nonempty := by
  cases step with
  | put file seed =>
      simp only [unfaulted]
      split
      · exact .status (Finset.mem_insert_self ..)
      split
      · exact .status (Finset.mem_singleton_self _)
      split
      · exact .status (Finset.mem_singleton_self _)
      · exact .status (Finset.mem_insert_self ..)
  | get file =>
      simp only [unfaulted]
      split
      · exact .status (Finset.mem_insert_self ..)
      split
      · exact (held_nonempty _).union _
      · exact held_nonempty _
  | arm op region file once => exact storage.present_nonempty file
  | disarm => exact .status (Finset.mem_singleton_self _)
  | corrupt region file => exact storage.present_nonempty file

theorem faulted_nonempty (armed : FaultRecord) {base : Expect} (nonempty : base.Nonempty)
    (step : StorageStep) : (storage.faulted armed base step).Nonempty := by
  unfold faulted
  split
  · split
    · split
      · exact nonempty.union _
      split
      · exact .status (Finset.mem_singleton_self _)
      · exact .anything
    split
    · exact nonempty
    split
    · exact nonempty
    · exact nonempty.union _
  · split
    · exact nonempty
    · exact nonempty.union _

theorem expect_nonempty (step : StorageStep) (up : Bool) : (storage.expect step up).Nonempty := by
  have base := storage.unfaulted_nonempty step up
  unfold expect
  simp only
  split
  · split
    · exact .anything
    split
    · exact base
    · exact storage.faulted_nonempty _ base _
  · split
    · exact .anything
    split
    · exact base
    · exact storage.faulted_nonempty _ base _
  · exact base

end StorageModel

theorem Model.expect_nonempty (model : Model) (step : Step) : (model.expect step).Nonempty := by
  cases step with
  | root step => exact model.root.expect_nonempty step
  | storage step =>
      have base := model.storage.expect_nonempty step (model.root.up .blk)
      simp only [expect]
      split
      · split
        · exact base.union _
        · exact base
      · split
        · exact base.union _
        · exact base
      · exact base
  | net step =>
      cases step with
      | ping =>
          simp only [expect, NetModel.expect]
          split
          · split
            · exact (Expect.Nonempty.status (Finset.mem_singleton_self _)).union _
            · exact (Expect.Nonempty.status (Finset.mem_singleton_self _)).union _
          · split
            · exact .status (Finset.mem_singleton_self _)
            · exact .status (Finset.mem_singleton_self _)
      | unplug ms => exact .status (Finset.mem_singleton_self _)
      | pause ms => exact .status (Finset.mem_singleton_self _)
  | reset =>
      simp only [expect]
      split
      · exact .anything
      · exact .status (Finset.mem_singleton_self _)
  | crashPut file seed afterMs =>
      simp only [expect]
      split
      · exact .anything
      · exact .status (Finset.mem_singleton_self _)

end Chrysopolis.Testbed.Faults
