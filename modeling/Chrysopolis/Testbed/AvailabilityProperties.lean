import Chrysopolis.Testbed.FaultsProperties

/-! What Root's hold on a driver means for the steps that need it: a block driver it gave up
on, and a driver it restarted without waiting. -/

set_option autoImplicit false

namespace Chrysopolis.Testbed.Faults

open Chrysopolis.Support

/-- The models of a run whose every outcome was admitted. -/
inductive Reachable [ChartLibrary] (budget : Int) (disk : Expected) : Model → Prop where
  | start : Reachable budget disk (Model.start budget disk)
  | step {model next : Model} {step : Step} {outcome : Outcome}
      (reached : Reachable budget disk model) (admitted : outcome ∈ model.expect step)
      (stepped : model.after step outcome = some next) : Reachable budget disk next

/-! ### A block driver Root gave up on -/

/-- The step is a put or a get. -/
def StorageStep.Access : StorageStep → Prop
  | .put .. | .get _ => True
  | _ => False

/-- Exactly EIO and ERROR are admitted. -/
def FailsOnly (allowed : Expect) : Prop :=
  ∀ outcome, outcome ∈ allowed ↔ outcome = .status .eio ∨ outcome = .status .error

/-- A read fault is aimed at the file's data, and nothing has cast doubt on it. -/
def StrictRead (storage : StorageModel) (file : FileNumber) : Prop :=
  storage.fault.state = .armed ∧ storage.fault.model.op = some .read ∧
    storage.fault.model.region = some .data ∧ storage.fault.model.file = some file

theorem failsOnly_failing : FailsOnly (expectStatus {.eio, .error}) := by
  intro outcome
  simp [eq_comm]

theorem failsOnly_union_eio {allowed : Expect} (fails : FailsOnly allowed) :
    FailsOnly (allowed ∪ expectStatus {.eio}) := by
  intro outcome
  rw [mem_union_expect, fails outcome, mem_expectStatus]
  simp only [Finset.mem_singleton, exists_eq_left]
  constructor
  · rintro (failed | rfl)
    · exact failed
    · exact .inl rfl
  · exact .inl

theorem not_failsOnly_eio : ¬FailsOnly (expectStatus {.eio}) := fun fails => by
  have error := (fails (.status .error)).mpr (.inr rfl)
  simp at error

theorem not_failsOnly_anything : ¬FailsOnly anything := fun fails => by
  rcases (fails (.status .ok)).mp mem_anything with same | same <;> cases same

namespace StorageModel

variable {storage : StorageModel}

/-- A put that finds no driver fails, whatever is armed. -/
theorem expect_put_down (file : FileNumber) (seed : Fin 256) :
    FailsOnly (storage.expect (.put file seed) false) := by
  have base : FailsOnly (storage.unfaulted (.put file seed) false) := failsOnly_failing
  simp only [expect, Bool.false_eq_true, and_false, if_false]
  cases storage.armed with
  | none => exact base
  | some armed =>
      simp only [faulted]
      split
      · exact base
      · exact failsOnly_union_eio base

/-- A get that finds no driver fails unless the armed fault answers first. -/
theorem expect_get_down_iff (file : FileNumber) :
    FailsOnly (storage.expect (.get file) false) ↔ ¬StrictRead storage file := by
  have base : FailsOnly (storage.unfaulted (.get file) false) := failsOnly_failing
  simp only [expect, Bool.false_eq_true, and_false, if_false]
  cases held : storage.armed with
  | none =>
      refine iff_of_true base fun strict => ?_
      rw [armed, strict.1, if_pos (by decide)] at held
      cases held
  | some armed =>
      obtain ⟨active, rfl⟩ := state_of_armed held
      simp only [faulted]
      split
      · next aimed =>
        split
        · next doubtful =>
          refine iff_of_true (failsOnly_union_eio base) fun strict => ?_
          rw [strict.1] at doubtful
          rcases doubtful with other | other <;> cases other
        next sure =>
        have strict : StrictRead storage file := by
          refine ⟨?_, aimed⟩
          cases state : storage.fault.state with
          | disarmed => exact absurd state active
          | armed => rfl
          | maybeSpent => exact absurd (.inl state) sure
          | adrift => exact absurd (.inr state) sure
        split
        · exact iff_of_false not_failsOnly_eio (not_not_intro strict)
        · exact iff_of_false not_failsOnly_anything (not_not_intro strict)
      next other =>
      have lax : ¬StrictRead storage file := fun strict => other strict.2
      split
      · exact iff_of_true base lax
      split
      · exact iff_of_true base lax
      · exact iff_of_true (failsOnly_union_eio base) lax

end StorageModel

/-- A driver Root gave up on is not recovering. -/
theorem RootModel.not_recovering_of_down {root : RootModel} {driver : Driver}
    (gone : root.up driver = false) : root.recovering driver = false := by
  have state : (root.chart driver).state = .gone := bne_eq_false_iff_eq.mp gone
  rw [recovering, state]
  rfl

theorem Model.expect_access_down {model : Model} (gone : model.root.up .blk = false)
    {step : StorageStep} (access : step.Access) :
    model.expect (.storage step) = model.storage.expect step false := by
  cases step with
  | put file seed =>
      simp only [expect, gone, RootModel.not_recovering_of_down gone, Bool.false_eq_true, if_false]
  | get file =>
      simp only [expect, gone, RootModel.not_recovering_of_down gone, Bool.false_eq_true, if_false]
  | arm | disarm | corrupt => exact access.elim

/-- Once Root gave up on the block driver, every put and every get fails exactly when no read
fault is strictly armed on a file's data; a put always does, and a get of any other file. -/
theorem gone_blk_fails_iff (model : Model) (gone : model.root.up .blk = false) :
    ((∀ step : StorageStep, step.Access → FailsOnly (model.expect (.storage step))) ↔
        ∀ file, ¬StrictRead model.storage file) ∧
      (∀ file seed, FailsOnly (model.expect (.storage (.put file seed)))) ∧
      ∀ file, FailsOnly (model.expect (.storage (.get file))) ↔ ¬StrictRead model.storage file := by
  have puts (file : FileNumber) (seed : Fin 256) :
      FailsOnly (model.expect (.storage (.put file seed))) := by
    have access : (StorageStep.put file seed).Access := trivial
    rw [Model.expect_access_down gone access]
    exact StorageModel.expect_put_down file seed
  have gets (file : FileNumber) :
      FailsOnly (model.expect (.storage (.get file))) ↔ ¬StrictRead model.storage file := by
    have access : (StorageStep.get file).Access := trivial
    rw [Model.expect_access_down gone access]
    exact StorageModel.expect_get_down_iff file
  refine ⟨⟨fun every file => (gets file).mp (every (.get file) trivial), ?_⟩, puts, gets⟩
  intro lax step access
  cases step with
  | put file seed => exact puts file seed
  | get file => exact (gets file).mpr (lax file)
  | arm | disarm | corrupt => exact access.elim

/-- With nothing armed every put and every get fails. -/
theorem gone_blk_fails_iff_sample :
    let gone : DriverLifecycle := { state := .gone, model := { budget := 0 } }
    let model : Model := { root := RootModel.set { budget := 0 } .blk gone }
    model.root.up .blk = false ∧
      ∀ step : StorageStep, step.Access → FailsOnly (model.expect (.storage step)) :=
  ⟨rfl, (gone_blk_fails_iff _ rfl).1.mpr fun _ strict => nomatch strict.1⟩

/-- A disk that may fail a write once. -/
def flakyDisk : Expected := { writeFails := true, reads := {.ok} }

section

local instance files_neZero : NeZero files := ⟨by decide⟩

/-- A failed write leaves its file unknown, a read fault is armed on the file's data, and Root,
without budget, gives up on the block driver. -/
def goneProgram : List (Step × Outcome) :=
  [(.storage (.put 0 0), .status .eio), (.storage (.arm .read .data 0 false), .status .present),
    (.root (.fault .blk true), .gaveUp "budget-exhausted")]

end

/-- The models of a program run from a model on outcomes that it admits. -/
inductive Runs [ChartLibrary] : Model → List (Step × Outcome) → Model → Prop where
  | nil {model : Model} : Runs model [] model
  | cons {model next last : Model} {step : Step} {outcome : Outcome}
      {rest : List (Step × Outcome)} (admitted : outcome ∈ model.expect step)
      (stepped : model.after step outcome = some next) (ran : Runs next rest last) :
      Runs model ((step, outcome) :: rest) last

theorem Reachable.runs [ChartLibrary] {budget : Int} {disk : Expected} {model last : Model}
    {program : List (Step × Outcome)} (reached : Reachable budget disk model)
    (ran : Runs model program last) : Reachable budget disk last := by
  induction ran with
  | nil => exact reached
  | cons admitted stepped _ ih => exact ih (reached.step admitted stepped)

section

open scoped ChartLibrary

theorem gone_blk_read_admits_anything :
    ∃ model, Runs (Model.start 0 flakyDisk) goneProgram model ∧ Reachable 0 flakyDisk model ∧
      model.root.up .blk = false ∧ .status .ok ∈ model.expect (.storage (.get 0)) ∧
      ¬FailsOnly (model.expect (.storage (.get 0))) := by
  have ran : ∃ model, Runs (Model.start 0 flakyDisk) goneProgram model ∧
      model.root.up .blk = false ∧ model.expect (.storage (.get 0)) = anything :=
    ⟨_, .cons (.inr (by decide)) rfl (.cons (.inr (by decide)) rfl
      (.cons (.inr (by decide)) rfl .nil)), rfl, rfl⟩
  obtain ⟨model, ran, gone, same⟩ := ran
  refine ⟨model, ran, Reachable.start.runs ran, gone, ?_, ?_⟩
  · rw [same]
    exact mem_anything
  · rw [same]
    exact not_failsOnly_anything

end

/-! ### A restart that was not waited for -/

namespace RootModel

variable {root : RootModel} {which : List Driver} {driver : Driver}

/-- No driver is recovering. -/
def Calm (root : RootModel) : Prop := ∀ driver, root.recovering driver = false

theorem mem_drivers (driver : Driver) : driver ∈ Faults.drivers := by cases driver <;> decide

theorem settledAll_eq_self
    (settled : ∀ other chart, root.drivers other = some chart →
      settleChart which other chart = chart) : root.settledAll which = root := by
  have same : (fun other => (root.drivers other).map (settleChart which other)) = root.drivers := by
    funext other
    cases held : root.drivers other with
    | none => rfl
    | some chart => exact congrArg some (settled other chart held)
  rw [settledAll, same]

/-- Settling a driver that recovers, and no other, makes it run. -/
theorem settledAll_recovering (chosen : driver ∈ which) (alone : ∀ other ∈ which, other = driver)
    {record : DriverRecord}
    (held : root.drivers driver = some { state := .recovering, model := record }) :
    root.settledAll which = root.set driver { state := .running, model := record } := by
  rw [settledAll, set]
  congr 1
  funext other
  rcases eq_or_ne other driver with rfl | ne
  · rw [Function.update_self, held]
    exact congrArg some (if_pos ⟨chosen, rfl⟩)
  · rw [Function.update_of_ne ne]
    cases root.drivers other with
    | none => rfl
    | some chart => exact congrArg some (if_neg fun settles => ne (alone other settles.1))

theorem set_comm {other : Driver} (ne : other ≠ driver) (chart mine : DriverLifecycle) :
    (root.set driver mine).set other chart = (root.set other chart).set driver mine := by
  simp only [set, Function.update_comm ne]

theorem set_set (first second : DriverLifecycle) :
    (root.set driver first).set driver second = root.set driver second := by
  simp only [set, Function.update_idem]

theorem set_chart_of_some {chart : DriverLifecycle} (held : root.drivers driver = some chart) :
    root.set driver chart = root := by
  simp only [set, ← held, Function.update_eq_self]

end RootModel

/-- The model after a restart that was waited for, and after one that was not: the driver runs
in the first, recovers in the second, and nothing else differs. -/
structure Hurried (driver : Driver) (waited hurried : Model) : Prop where
  calm : waited.root.Calm
  same : ∃ record, waited.root.drivers driver = some { state := .running, model := record } ∧
    hurried = { waited with
      root := waited.root.set driver { state := .recovering, model := record } }

namespace Hurried

variable {driver : Driver} {waited hurried : Model}

theorem chart_of_ne (related : Hurried driver waited hurried) {other : Driver}
    (ne : other ≠ driver) : hurried.root.chart other = waited.root.chart other := by
  obtain ⟨record, -, rfl⟩ := related.same
  exact RootModel.chart_set_of_ne ne _

/-- The two charts of the driver. -/
theorem chart_self (related : Hurried driver waited hurried) :
    ∃ record, waited.root.chart driver = { state := .running, model := record } ∧
      hurried.root.chart driver = { state := .recovering, model := record } := by
  obtain ⟨record, held, rfl⟩ := related.same
  exact ⟨record, by rw [RootModel.chart, held]; rfl, RootModel.chart_set_self ..⟩

theorem spent_eq (related : Hurried driver waited hurried) (other : Driver) :
    (waited.root.chart other).model.spent = (hurried.root.chart other).model.spent := by
  rcases eq_or_ne other driver with rfl | ne
  · obtain ⟨record, running, recovering⟩ := related.chart_self
    rw [running, recovering]
  · rw [related.chart_of_ne ne]

theorem up_eq (related : Hurried driver waited hurried) (other : Driver) :
    hurried.root.up other = waited.root.up other := by
  rcases eq_or_ne other driver with rfl | ne
  · obtain ⟨record, running, recovering⟩ := related.chart_self
    rw [RootModel.up, RootModel.up, running, recovering]
    rfl
  · rw [RootModel.up, RootModel.up, related.chart_of_ne ne]

theorem storage_eq (related : Hurried driver waited hurried) :
    hurried.storage = waited.storage := by
  obtain ⟨record, -, rfl⟩ := related.same
  rfl

/-- Root answers the next request alike. -/
theorem root_expect_eq (related : Hurried driver waited hurried) (step : RootStep) :
    hurried.root.expect step = waited.root.expect step := by
  unfold RootModel.expect
  rcases eq_or_ne step.driver driver with rfl | ne
  · obtain ⟨record, running, recovering⟩ := related.chart_self
    simp only [running, recovering]
    rfl
  · rw [related.chart_of_ne ne]

/-- Whatever is admitted with the driver running is admitted while it recovers. -/
theorem expect_subset (related : Hurried driver waited hurried) {step : Step} {outcome : Outcome}
    (admitted : outcome ∈ waited.expect step) : outcome ∈ hurried.expect step := by
  cases step with
  | root step =>
      rw [Model.expect, related.root_expect_eq]
      exact admitted
  | storage step =>
      have calm := related.calm .blk
      cases step with
      | put file seed =>
          simp only [Model.expect, related.up_eq, related.storage_eq, calm, Bool.false_eq_true,
            if_false] at admitted ⊢
          split
          · exact mem_union_expect.mpr (.inl admitted)
          · exact admitted
      | get file =>
          simp only [Model.expect, related.up_eq, related.storage_eq, calm, Bool.false_eq_true,
            if_false] at admitted ⊢
          split
          · exact mem_union_expect.mpr (.inl admitted)
          · exact admitted
      | arm | disarm | corrupt =>
          simp only [Model.expect, related.up_eq, related.storage_eq] at admitted ⊢
          exact admitted
  | net step =>
      have calm := related.calm .eth
      cases step with
      | ping =>
          simp only [Model.expect, related.up_eq, calm, Bool.false_eq_true, if_false]
            at admitted ⊢
          split
          · exact mem_union_expect.mpr (.inl admitted)
          · exact admitted
      | unplug | pause => exact admitted
  | reset | crashPut =>
      simp only [Model.expect, related.storage_eq] at admitted ⊢
      exact admitted

/-- An unsettled request to the driver. -/
def Renews (driver : Driver) : Step → Prop
  | .root step => step.driver = driver ∧ step.settle = false
  | _ => False

end Hurried

/-- Nothing settles after a step that finds nothing recovering. -/
theorem Model.settling_of_calm {model : Model} (calm : model.root.Calm) (step : Step) :
    model.settling step = [] := by
  have none' : drivers.filter model.root.recovering = [] :=
    List.filter_eq_nil_iff.mpr fun driver _ => by rw [calm driver]; exact Bool.false_ne_true
  unfold settling
  rw [none']
  cases step with
  | root step =>
      simp only
      split <;> rfl
  | storage | net | reset | crashPut => rfl

namespace Hurried

variable {driver : Driver} {waited hurried : Model}

theorem recovering_iff (related : Hurried driver waited hurried) (other : Driver) :
    hurried.root.recovering other = true ↔ other = driver := by
  rcases eq_or_ne other driver with rfl | ne
  · obtain ⟨record, -, recovering⟩ := related.chart_self
    refine iff_of_true ?_ rfl
    rw [RootModel.recovering, recovering]
    rfl
  · have calm := related.calm other
    refine iff_of_false ?_ ne
    rw [RootModel.recovering, related.chart_of_ne ne]
    rw [RootModel.recovering] at calm
    rw [calm]
    exact Bool.false_ne_true

/-- The driver, and no other, settles after a step that does not renew the window. -/
theorem mem_settling_iff (related : Hurried driver waited hurried) {step : Step}
    (settles : ¬Renews driver step) (other : Driver) :
    other ∈ hurried.settling step ↔ other = driver := by
  have recovering : other ∈ drivers.filter hurried.root.recovering ↔ other = driver := by
    rw [List.mem_filter, related.recovering_iff]
    exact and_iff_right (RootModel.mem_drivers other)
  cases step with
  | root step =>
      unfold Model.settling
      simp only
      split
      · exact recovering
      next unsettled =>
      rw [List.mem_filter, recovering, bne_iff_ne]
      constructor
      · exact And.left
      · rintro rfl
        exact ⟨rfl, fun same => settles ⟨same.symm, Bool.eq_false_iff.mpr unsettled⟩⟩
  | storage | net | reset | crashPut => exact recovering

/-- The model with the driver settled is the one that was waited for. -/
theorem settledAll_eq (related : Hurried driver waited hurried) {step : Step}
    (settles : ¬Renews driver step) :
    hurried.root.settledAll (hurried.settling step) = waited.root := by
  have which := related.mem_settling_iff settles
  obtain ⟨record, held, rfl⟩ := related.same
  rw [RootModel.settledAll_recovering ((which driver).mpr rfl) (fun other => (which other).mp)
    (RootModel.set_drivers_self ..), RootModel.set_set, RootModel.set_chart_of_some held]

variable [ChartLibrary]

/-- A request that is settled, or goes to another driver, leaves one root model. -/
theorem root_after_eq (related : Hurried driver waited hurried) {step : RootStep}
    {outcome : Outcome} (settles : ¬Renews driver (.root step))
    (admitted : outcome ∈ waited.root.expect step) :
    ∃ waited' hurried', waited.root.after step outcome = some waited' ∧
      hurried.root.after step outcome = some hurried' ∧
      hurried'.settledAll (hurried.settling (.root step)) = waited' := by
  have which := related.mem_settling_iff settles
  have admitted' : outcome ∈ hurried.root.expect step := by
    rw [related.root_expect_eq]
    exact admitted
  rcases eq_or_ne step.driver driver with same | ne
  · have settle : step.settle = true := by
      cases settle : step.settle with
      | true => rfl
      | false => exact absurd ⟨same, settle⟩ settles
    obtain ⟨record, running, recovering⟩ := related.chart_self
    have after := RootModel.after_cases admitted
    have after' := RootModel.after_cases admitted'
    rw [same, running, settle] at after
    rw [same, recovering, settle] at after'
    have done (chart : DriverLifecycle) (calm : chart.state ≠ .recovering) :
        (hurried.root.set driver chart).settledAll (hurried.settling (.root step)) =
          waited.root.set driver chart := by
      obtain ⟨record, -, rfl⟩ := related.same
      rw [RootModel.set_set]
      refine RootModel.settledAll_eq_self fun other held found => if_neg ?_
      rintro ⟨member, recovering⟩
      obtain rfl := (which other).mp member
      rw [RootModel.set_drivers_self] at found
      obtain rfl := Option.some.inj found
      exact calm recovering
    rcases after with ⟨gone, -⟩ | ⟨-, spent, stepped⟩ | ⟨-, budget, stepped⟩
    · cases gone
    · rcases after' with ⟨gone, -⟩ | ⟨-, -, stepped'⟩ | ⟨-, budget, -⟩
      · cases gone
      · exact ⟨_, _, stepped, stepped', done _ nofun⟩
      · exact absurd (spent.symm.trans budget) Bool.false_ne_true
    · rcases after' with ⟨gone, -⟩ | ⟨-, spent, -⟩ | ⟨-, -, stepped'⟩
      · cases gone
      · exact absurd (spent.symm.trans budget) Bool.false_ne_true
      · exact ⟨_, _, stepped, stepped', done _ nofun⟩
  · have stepped : ∃ chart, (waited.root.chart step.driver).evolved (RootModel.event step outcome) =
        some chart := by
      rcases RootModel.after_cases admitted with ⟨-, after⟩ | ⟨-, -, after⟩ | ⟨-, -, after⟩ <;>
      · obtain ⟨chart, evolved, -⟩ := Option.bind_eq_some_iff.mp after
        exact ⟨chart, evolved⟩
    obtain ⟨chart, evolved⟩ := stepped
    refine ⟨waited.root.set step.driver chart, hurried.root.set step.driver chart, ?_, ?_, ?_⟩
    · rw [RootModel.after, evolved]
      rfl
    · rw [RootModel.after, related.chart_of_ne ne, evolved]
      rfl
    · obtain ⟨record, held, rfl⟩ := related.same
      have recovering : ((waited.root.set driver { state := .recovering, model := record }).set
          step.driver chart).drivers driver = some { state := .recovering, model := record } := by
        rw [RootModel.set_drivers_of_ne ne.symm, RootModel.set_drivers_self]
      rw [RootModel.settledAll_recovering ((which driver).mpr rfl) (fun other => (which other).mp)
        recovering, RootModel.set_comm ne, RootModel.set_set, RootModel.set_comm ne.symm,
        RootModel.set_chart_of_some held]

/-- After the next step the two models are one. -/
theorem after_eq (related : Hurried driver waited hurried) {step : Step} {outcome : Outcome}
    (settles : ¬Renews driver step) (admitted : outcome ∈ waited.expect step) :
    hurried.after step outcome = waited.after step outcome := by
  have calm := Model.settling_of_calm related.calm
  cases step with
  | root step =>
      obtain ⟨waited', hurried', stepped, stepped', same⟩ :=
        related.root_after_eq settles admitted
      rw [Model.after_root, Model.after_root, stepped, stepped', Option.map_some, Option.map_some,
        same, calm, RootModel.settledAll_nil]
      obtain ⟨record, -, rfl⟩ := related.same
      rfl
  | storage step =>
      rw [Model.after_storage, Model.after_storage, related.settledAll_eq settles, calm,
        RootModel.settledAll_nil, related.storage_eq]
  | net step =>
      rw [Model.after_net, Model.after_net, related.settledAll_eq settles, calm,
        RootModel.settledAll_nil]
      obtain ⟨record, -, rfl⟩ := related.same
      rfl
  | reset =>
      obtain ⟨record, -, rfl⟩ := related.same
      rfl
  | crashPut file seed afterMs =>
      obtain ⟨record, -, rfl⟩ := related.same
      rfl

end Hurried

/-- The two requests to a driver, waited for or not. -/
def Requests (request : Driver → Bool → RootStep) : Prop :=
  request = RootStep.fault ∨ request = RootStep.restart

/-- Waiting or not, Root answers a request alike. -/
theorem Requests.expect_eq {request : Driver → Bool → RootStep} (kind : Requests request)
    (model : Model) (driver : Driver) :
    model.expect (.root (request driver true)) = model.expect (.root (request driver false)) := by
  rcases kind with rfl | rfl <;> rfl

/-- A request to a calm root leaves one model, or a hurried one beside the waited-for. -/
theorem Requests.after_cases [ChartLibrary] {request : Driver → Bool → RootStep}
    (kind : Requests request) {model : Model} (calm : model.root.Calm) {driver : Driver}
    {seen : Outcome} (admitted : seen ∈ model.expect (.root (request driver true))) :
    ∃ waited hurried, model.after (.root (request driver true)) seen = some waited ∧
      model.after (.root (request driver false)) seen = some hurried ∧
      (hurried = waited ∨ Hurried driver waited hurried) := by
  have driven (settle : Bool) : (request driver settle).driver = driver := by
    rcases kind with rfl | rfl <;> rfl
  have settled (settle : Bool) : (request driver settle).settle = settle := by
    rcases kind with rfl | rfl <;> rfl
  have admitted' := admitted
  rw [kind.expect_eq] at admitted'
  have after := RootModel.after_cases admitted
  have after' := RootModel.after_cases admitted'
  rw [driven, settled] at after after'
  simp only [Model.after_root, Model.settling_of_calm calm, RootModel.settledAll_nil]
  rcases after with ⟨gone, stepped⟩ | ⟨up, spent, stepped⟩ | ⟨up, budget, stepped⟩
  · rcases after' with ⟨-, stepped'⟩ | ⟨up, -⟩ | ⟨up, -⟩
    · exact ⟨_, _, by rw [stepped]; rfl, by rw [stepped']; rfl, .inl rfl⟩
    · exact absurd gone up
    · exact absurd gone up
  · rcases after' with ⟨gone, -⟩ | ⟨-, -, stepped'⟩ | ⟨-, budget, -⟩
    · exact absurd gone up
    · exact ⟨_, _, by rw [stepped]; rfl, by rw [stepped']; rfl, .inl rfl⟩
    · exact absurd (spent.symm.trans budget) Bool.false_ne_true
  · rcases after' with ⟨gone, -⟩ | ⟨-, spent, -⟩ | ⟨-, -, stepped'⟩
    · exact absurd gone up
    · exact absurd (spent.symm.trans budget) Bool.false_ne_true
    · refine ⟨_, _, by rw [stepped]; rfl, by rw [stepped']; rfl, .inr ⟨fun other => ?_, ?_⟩⟩
      · rcases eq_or_ne other driver with rfl | ne
        · rw [RootModel.recovering, RootModel.chart_set_self]
          rfl
        · rw [RootModel.recovering, RootModel.chart_set_of_ne ne]
          exact calm other
      · refine ⟨_, RootModel.set_drivers_self .., ?_⟩
        rw [RootModel.set_set]
        rfl

/-- With nothing recovering, a request that is not waited for admits what a settled one admits
and spends as much. It only widens the next step, and after that step, unless it renews the
window, the two runs are at one model. -/
theorem unsettled_request_widens [ChartLibrary] (model : Model) (calm : model.root.Calm)
    (driver : Driver) (request : Driver → Bool → RootStep) (kind : Requests request) :
    model.expect (.root (request driver true)) = model.expect (.root (request driver false)) ∧
      ∀ seen, seen ∈ model.expect (.root (request driver true)) →
        ∃ waited hurried, model.after (.root (request driver true)) seen = some waited ∧
          model.after (.root (request driver false)) seen = some hurried ∧
          (∀ other, (waited.root.chart other).model.spent =
            (hurried.root.chart other).model.spent) ∧
          ∀ next : Step, ¬Hurried.Renews driver next →
            (∀ outcome, outcome ∈ waited.expect next → outcome ∈ hurried.expect next) ∧
              ∀ outcome, outcome ∈ waited.expect next → outcome ∈ hurried.expect next →
                ∃ after after', waited.after next outcome = some after ∧
                  hurried.after next outcome = some after' ∧ after.key = after'.key := by
  refine ⟨kind.expect_eq model driver, fun seen admitted => ?_⟩
  obtain ⟨waited, hurried, stepped, stepped', same | related⟩ := kind.after_cases calm admitted
  · subst same
    refine ⟨hurried, hurried, stepped, stepped', fun _ => rfl, fun next _ => ?_⟩
    refine ⟨fun _ => id, fun outcome admitted _ => ?_⟩
    obtain ⟨after, stepped⟩ := Model.after_total admitted
    exact ⟨after, after, stepped, stepped, rfl⟩
  · refine ⟨waited, hurried, stepped, stepped', related.spent_eq, fun next settles => ?_⟩
    refine ⟨fun _ => related.expect_subset, fun outcome admitted _ => ?_⟩
    obtain ⟨after, stepped⟩ := Model.after_total admitted
    exact ⟨after, after, stepped, (related.after_eq settles admitted).trans stepped, rfl⟩

section

open scoped ChartLibrary

/-- A fault of the block driver on a fresh model, whose next step may then be refused. -/
theorem unsettled_request_widens_sample :
    (Model.start 3).root.Calm ∧ ∃ waited hurried,
      (Model.start 3).after (.root (.fault .blk true)) (.restarted .restart 1) = some waited ∧
      (Model.start 3).after (.root (.fault .blk false)) (.restarted .restart 1) = some hurried ∧
      ∀ outcome, outcome ∈ waited.expect (.storage (.get 0)) →
        outcome ∈ hurried.expect (.storage (.get 0)) := by
  have calm : (Model.start 3).root.Calm := fun _ => rfl
  obtain ⟨-, answers⟩ := unsettled_request_widens (Model.start 3) calm .blk .fault (.inl rfl)
  obtain ⟨waited, hurried, stepped, stepped', -, next⟩ :=
    answers (.restarted .restart 1) (.inr (by decide))
  exact ⟨calm, waited, hurried, stepped, stepped', (next (.storage (.get 0)) id).1⟩

end

end Chrysopolis.Testbed.Faults
