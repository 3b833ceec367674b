import Chrysopolis.Testbed.AvailabilityProperties
import Chrysopolis.Testbed.ChartObjects
import Mathlib.Data.Option.Basic

/-! The model over chart objects does what the model over charts does, and leaves every chart
that existed as it was. -/

set_option autoImplicit false

namespace Chrysopolis.Testbed.Faults

open Chrysopolis.Support

variable {C α β γ δ : Type} {kind : Kind C} {store later : Store}

/-! ### Stores that grow -/

/-- The later store has the charts of the earlier one, unchanged, and perhaps more. -/
def Store.Grows (store later : Store) : Prop := store.cells <+: later.cells

/-- A cached chart is still fresh. -/
structure Store.Ok (store : Store) : Prop where
  driver : ∀ budget ref, store.freshDriver budget = some ref →
    store.chart? driverKind ref = some (.fresh budget)
  file : ∀ ref, store.freshFile = some ref → store.chart? fileKind ref = some .fresh

theorem Store.Grows.refl (store : Store) : store.Grows store := List.prefix_rfl

theorem Store.Grows.trans {last : Store} (grown : store.Grows later) (more : later.Grows last) :
    store.Grows last :=
  List.IsPrefix.trans grown more

theorem Store.Grows.cell (grown : store.Grows later) {ref : Ref} {cell : Cell}
    (held : store.cells[ref]? = some cell) : later.cells[ref]? = some cell := by
  obtain ⟨more, same⟩ := grown
  rw [← same, List.getElem?_append_left (List.getElem?_eq_some_iff.mp held).1, held]

theorem Store.Grows.chart? (grown : store.Grows later) {ref : Ref} {chart : C}
    (held : store.chart? kind ref = some chart) : later.chart? kind ref = some chart := by
  obtain ⟨cell, found, unwrapped⟩ := Option.bind_eq_some_iff.mp held
  exact Option.bind_eq_some_iff.mpr ⟨cell, grown.cell found, unwrapped⟩

/-- The store with one chart more. -/
def Store.push (store : Store) (cell : Cell) : Store :=
  { store with cells := store.cells ++ [cell] }

theorem Store.grows_push (store : Store) (cell : Cell) : store.Grows (store.push cell) :=
  List.prefix_append ..

theorem Store.chart?_push (store : Store) (kind : Kind C) (chart : C) :
    (store.push (kind.wrap chart)).chart? kind store.cells.length = some chart := by
  rw [Store.chart?, push, List.getElem?_concat_length]
  exact kind.unwrap_wrap chart

theorem Store.Ok.push (ok : store.Ok) (cell : Cell) : (store.push cell).Ok where
  driver budget ref cached := (store.grows_push cell).chart? (ok.driver budget ref cached)
  file ref cached := (store.grows_push cell).chart? (ok.file ref cached)

/-! ### Computations over objects -/

/-- Over an intact store the computation does what the value says: it refuses with it, or ends
in a grown, intact store with a result related to it. -/
def Simulates (store : Store) (program : Objects α) (value : Option β)
    (Related : Store → α → β → Prop) : Prop :=
  store.Ok → match value with
    | none => program store = none
    | some expected => ∃ result later, program store = some (result, later) ∧
        store.Grows later ∧ later.Ok ∧ Related later result expected

section

variable {Related : Store → α → β → Prop} {program : Objects α} {value : Option β}

theorem Simulates.pure {result : α} {expected : β} (related : Related store result expected) :
    Simulates store (pure result) (some expected) Related :=
  fun ok => ⟨result, store, rfl, .refl store, ok, related⟩

/-- A computation with no counterpart in the value. -/
theorem Simulates.bind_left {Next : Store → γ → δ → Prop} {rest : α → Objects γ}
    {next : Option δ} {expected : β}
    (first : Simulates store program (some expected) Related)
    (second : ∀ later result, store.Grows later → Related later result expected →
      Simulates later (rest result) next Next) :
    Simulates store (program >>= rest) next Next := by
  intro ok
  obtain ⟨result, later, ended, grown, ok', related⟩ := first ok
  have continued := second later result grown related ok'
  have unfolded : (program >>= rest) store = rest result later := by
    change (program store).bind _ = _
    rw [ended, Option.bind_some]
  rw [unfolded]
  cases next with
  | none => exact continued
  | some final =>
      obtain ⟨final', last, ended', grown', ok'', related'⟩ := continued
      exact ⟨final', last, ended', grown.trans grown', ok'', related'⟩

theorem Simulates.bind {Next : Store → γ → δ → Prop} {rest : α → Objects γ}
    {continuation : β → Option δ} (first : Simulates store program value Related)
    (second : ∀ later result expected, store.Grows later → Related later result expected →
      Simulates later (rest result) (continuation expected) Next) :
    Simulates store (program >>= rest) (value >>= continuation) Next := by
  cases value with
  | none =>
      intro ok
      change (program store).bind _ = none
      rw [first ok, Option.bind_none]
  | some expected =>
      exact first.bind_left fun later result grown related =>
        second later result expected grown related

theorem Simulates.foldlM {ι : Type} {body : α → ι → Objects α} {step : β → ι → Option β}
    (preserved : ∀ {store result expected} index, Related store result expected →
      Simulates store (body result index) (step expected index) Related)
    (indices : List ι) {result : α} {expected : β} (related : Related store result expected) :
    Simulates store (indices.foldlM body result) (indices.foldlM step expected) Related := by
  induction indices generalizing store result expected with
  | nil => exact .pure related
  | cons index rest ih =>
      exact (preserved index related).bind fun _ _ _ _ related' => ih related'

end

/-! ### Operations -/

section

variable {ref : Ref} {chart : C}

theorem simulates_allocate (kind : Kind C) (chart : C) :
    Simulates store (allocate kind chart) (some chart) fun store ref chart =>
      store.chart? kind ref = some chart :=
  fun ok => ⟨_, _, rfl, store.grows_push _, ok.push _, store.chart?_push kind chart⟩

theorem simulates_read (held : store.chart? kind ref = some chart) :
    Simulates store (read kind ref) (some chart) fun _ => Eq := by
  intro ok
  refine ⟨chart, store, ?_, .refl store, ok, rfl⟩
  rw [read, held, Option.map_some]

theorem bind_apply (program : Objects α) (rest : α → Objects β) (store : Store) :
    (program >>= rest) store = (program store).bind fun ended => rest ended.1 ended.2 := rfl

theorem get_apply (store : Store) : (get : Objects Store) store = some (store, store) := rfl

theorem read_eq (held : store.chart? kind ref = some chart) :
    read kind ref store = some (chart, store) := by
  rw [read, held, Option.map_some]

/-- The twin takes the event, and the chart it was copied from is left alone. -/
theorem evolved_eq {send : C → Option C} (held : store.chart? kind ref = some chart) :
    evolved kind ref send store =
      (send chart).map fun next => (store.cells.length, store.push (kind.wrap next)) := by
  have copied : read kind store.cells.length (store.push (kind.wrap chart)) =
      some (chart, store.push (kind.wrap chart)) := read_eq (store.chart?_push kind chart)
  have allocated : allocate kind chart store =
      some (store.cells.length, store.push (kind.wrap chart)) := rfl
  rw [evolved, bind_apply, read_eq held, Option.bind_some, bind_apply, allocated, Option.bind_some,
    bind_apply, copied, Option.bind_some, bind_apply]
  cases send chart with
  | none => rfl
  | some next =>
      have replaced : (store.cells ++ [kind.wrap chart]).set store.cells.length (kind.wrap next) =
          store.cells ++ [kind.wrap next] := by simp
      change some (store.cells.length, { store with cells := _ }) = _
      rw [Option.map_some, Store.push]
      simp only [Store.push, replaced]

theorem simulates_evolved {send : C → Option C} (held : store.chart? kind ref = some chart) :
    Simulates store (evolved kind ref send) (send chart) fun store ref chart =>
      store.chart? kind ref = some chart := by
  intro ok
  rw [evolved_eq held]
  cases send chart with
  | none => rfl
  | some next =>
      exact ⟨_, _, rfl, store.grows_push _, ok.push _, store.chart?_push kind next⟩

end

theorem simulates_freshDriver (budget : Int) :
    Simulates store (freshDriver budget) (some (.fresh budget)) fun store ref chart =>
      store.chart? driverKind ref = some chart := by
  intro ok
  cases cached : store.freshDriver budget with
  | some ref =>
      have unfolded : freshDriver budget store = some (ref, store) := by
        rw [freshDriver, bind_apply]
        simp only [get_apply, Option.bind_some, cached]
        rfl
      exact ⟨ref, store, unfolded, .refl store, ok, ok.driver budget ref cached⟩
  | none =>
      have unfolded : freshDriver budget store = some (store.cells.length,
          { store.push (.driver (.fresh budget)) with
            freshDriver := Function.update store.freshDriver budget
              (some store.cells.length) }) := by
        rw [freshDriver, bind_apply]
        simp only [get_apply, Option.bind_some, cached]
        rfl
      have ok' := ok.push (.driver (.fresh budget))
      have added := store.chart?_push driverKind (.fresh budget)
      refine ⟨_, _, unfolded, store.grows_push (.driver (.fresh budget)), ⟨?_, ok'.file⟩, added⟩
      intro other ref found
      change Function.update store.freshDriver budget _ other = _ at found
      by_cases same : other = budget
      · subst same
        rw [Function.update_self] at found
        cases found
        exact added
      · rw [Function.update_of_ne same] at found
        exact ok'.driver other ref found

theorem simulates_freshFile :
    Simulates store freshFile (some .fresh) fun store ref chart =>
      store.chart? fileKind ref = some chart := by
  intro ok
  cases cached : store.freshFile with
  | some ref =>
      have unfolded : freshFile store = some (ref, store) := by
        rw [freshFile, bind_apply]
        simp only [get_apply, Option.bind_some, cached]
        rfl
      exact ⟨ref, store, unfolded, .refl store, ok, ok.file ref cached⟩
  | none =>
      have unfolded : freshFile store = some (store.cells.length,
          { store.push (.file .fresh) with freshFile := some store.cells.length }) := by
        rw [freshFile, bind_apply]
        simp only [get_apply, Option.bind_some, cached]
        rfl
      have ok' := ok.push (.file .fresh)
      have added := store.chart?_push fileKind .fresh
      refine ⟨_, _, unfolded, store.grows_push (.file .fresh), ⟨ok'.driver, ?_⟩, added⟩
      intro ref found
      cases found
      exact added

/-! ### What a model says over its charts -/

/-- The object holds no chart where the model has none, and else one that reads so. -/
def Store.Holds (store : Store) (kind : Kind C) (ref : Option Ref) (chart : Option C) : Prop :=
  Option.Rel (fun ref chart => store.chart? kind ref = some chart) ref chart

structure RootObject.Reads (store : Store) (object : RootObject) (root : RootModel) : Prop where
  budget : object.budget = root.budget
  drivers : ∀ driver, store.Holds driverKind (object.drivers driver) (root.drivers driver)

structure StorageObject.Reads (store : Store) (object : StorageObject) (storage : StorageModel) :
    Prop where
  disk : object.disk = storage.disk
  files : ∀ number, store.Holds fileKind (object.files number) (storage.files number)
  fault : store.chart? faultKind object.fault = some storage.fault
  volume : store.chart? volumeKind object.volume = some storage.volume
  window : store.chart? windowKind object.window = some storage.window

structure ModelObject.Reads (store : Store) (object : ModelObject) (model : Model) : Prop where
  root : object.root.Reads store model.root
  storage : object.storage.Reads store model.storage

theorem Store.Holds.grows {ref : Option Ref} {chart : Option C} (held : store.Holds kind ref chart)
    (grown : store.Grows later) : later.Holds kind ref chart := by
  cases held with
  | some read => exact .some (grown.chart? read)
  | none => exact .none

theorem Store.Holds.bind_eq {ref : Option Ref} {chart : Option C}
    (held : store.Holds kind ref chart) : ref.bind (store.chart? kind) = chart := by
  cases held with
  | some read => exact read
  | none => rfl

theorem Store.Holds.update {ι : Type} [DecidableEq ι] {refs : ι → Option Ref}
    {charts : ι → Option C} (held : ∀ index, store.Holds kind (refs index) (charts index))
    {ref : Ref} {chart : C} (read : store.chart? kind ref = some chart) (index other : ι) :
    store.Holds kind (Function.update refs index (some ref) other)
      (Function.update charts index (some chart) other) := by
  by_cases same : other = index
  · subst same
    rw [Function.update_self, Function.update_self]
    exact .some read
  · rw [Function.update_of_ne same, Function.update_of_ne same]
    exact held other

namespace RootObject

variable {object : RootObject} {root : RootModel}

theorem Reads.grows (reads : object.Reads store root) (grown : store.Grows later) :
    object.Reads later root :=
  ⟨reads.budget, fun driver => (reads.drivers driver).grows grown⟩

theorem Reads.set (reads : object.Reads store root) {ref : Ref} {chart : DriverLifecycle}
    (read : store.chart? driverKind ref = some chart) (driver : Driver) :
    (object.set driver ref).Reads store (root.set driver chart) :=
  ⟨reads.budget, Store.Holds.update reads.drivers read driver⟩

theorem Reads.chart (reads : object.Reads store root) (driver : Driver) :
    Simulates store (object.chart driver) (some (root.chart driver)) fun store ref chart =>
      store.chart? driverKind ref = some chart := by
  have held := reads.drivers driver
  unfold RootObject.chart RootModel.chart
  revert held
  generalize object.drivers driver = ref
  generalize root.drivers driver = chart
  intro held
  cases held with
  | some read => exact Simulates.pure read
  | none =>
      rw [reads.budget]
      exact simulates_freshDriver root.budget

variable [ChartLibrary]

theorem Reads.after (reads : object.Reads store root) (step : RootStep) (outcome : Outcome) :
    Simulates store (object.after step outcome) (root.after step outcome) Reads :=
  (reads.chart step.driver).bind_left fun _ _ grown read =>
    (simulates_evolved read).bind fun _ _ _ grown' read' =>
      .pure (((reads.grows grown).grows grown').set read' step.driver)

theorem Reads.settleOne (reads : object.Reads store root) (which : List Driver)
    (driver : Driver) :
    Simulates store (object.settleOne which driver) (root.settleOne which driver) Reads := by
  have held := reads.drivers driver
  unfold RootObject.settleOne RootModel.settleOne
  revert held
  generalize object.drivers driver = ref
  generalize root.drivers driver = chart
  intro held
  cases held with
  | none => exact Simulates.pure reads
  | @some ref chart read =>
      refine (simulates_read read).bind_left fun later result grown same => ?_
      subst same
      by_cases settles : driver ∈ which ∧ result.state = .recovering
      · simp only [if_pos settles, Option.map_eq_bind]
        exact (simulates_evolved (grown.chart? read)).bind fun _ _ _ grown' read' =>
          .pure (((reads.grows grown).grows grown').set read' driver)
      · simp only [if_neg settles]
        exact .pure (reads.grows grown)

theorem Reads.settled (reads : object.Reads store root) (which : List Driver) :
    Simulates store (object.settled which) (root.settled which) Reads :=
  .foldlM (fun driver reads => reads.settleOne which driver) Faults.drivers reads

end RootObject

namespace StorageObject

variable {object : StorageObject} {storage : StorageModel}

theorem Reads.grows (reads : object.Reads store storage) (grown : store.Grows later) :
    object.Reads later storage where
  disk := reads.disk
  files number := (reads.files number).grows grown
  fault := grown.chart? reads.fault
  volume := grown.chart? reads.volume
  window := grown.chart? reads.window

theorem Reads.file (reads : object.Reads store storage) (number : FileNumber) :
    Simulates store (object.file number) (some (storage.file number)) fun store ref chart =>
      store.chart? fileKind ref = some chart := by
  have held := reads.files number
  unfold StorageObject.file StorageModel.file
  revert held
  generalize object.files number = ref
  generalize storage.files number = chart
  intro held
  cases held with
  | some read => exact Simulates.pure read
  | none => exact simulates_freshFile

theorem Reads.armed (reads : object.Reads store storage) :
    Simulates store object.armed (some storage.armed) fun _ => Eq :=
  (simulates_read reads.fault).bind_left fun _ _ _ same => .pure (by rw [same]; rfl)

theorem Reads.certain (reads : object.Reads store storage) (armed : FaultRecord)
    (step : StorageStep) :
    Simulates store (object.certain armed step) (some (storage.certain armed step)) fun _ => Eq :=
  (simulates_read reads.fault).bind_left fun _ _ grown fault =>
    (simulates_read (grown.chart? reads.window)).bind_left fun _ _ _ window =>
      .pure (by rw [fault, window]; rfl)

theorem Reads.rebooted (reads : object.Reads store storage) :
    Simulates store object.rebooted (some storage.rebooted) Reads :=
  (simulates_allocate faultKind .fresh).bind_left fun _ _ grown fault =>
    (simulates_allocate windowKind .fresh).bind_left fun _ _ grown' window =>
      .pure { (reads.grows grown).grows grown' with fault := grown'.chart? fault, window }

/-- A new system's storage, over charts of its own. -/
theorem reads_start (disk : Expected) :
    Simulates store (start disk) (some { disk }) Reads :=
  (simulates_allocate faultKind .fresh).bind_left fun _ _ _ fault =>
    (simulates_allocate volumeKind .fresh).bind_left fun _ _ grown volume =>
      (simulates_allocate windowKind .fresh).bind_left fun _ _ grown' window =>
        .pure
          { disk := rfl
            files _ := .none
            fault := grown'.chart? (grown.chart? fault)
            volume := grown'.chart? volume
            window }

variable [ChartLibrary]

theorem Reads.evolveFile (reads : object.Reads store storage) (number : FileNumber)
    (event : FileEvent) (data : FileData) :
    Simulates store (object.evolveFile number event data) (storage.evolveFile number event data)
      Reads :=
  (reads.file number).bind_left fun _ _ grown read =>
    (simulates_evolved read).bind fun _ _ _ grown' read' =>
      have reads' := (reads.grows grown).grows grown'
      .pure ⟨reads'.disk, Store.Holds.update reads'.files read' number, reads'.fault,
        reads'.volume, reads'.window⟩

theorem Reads.evolveFault (reads : object.Reads store storage) (event : FaultEvent)
    (data : FaultRecord) :
    Simulates store (object.evolveFault event data) (storage.evolveFault event data) Reads :=
  (simulates_evolved reads.fault).bind fun _ _ _ grown read =>
    .pure { reads.grows grown with fault := read }

theorem Reads.moved (reads : object.Reads store storage) (number : FileNumber) :
    Simulates store (object.moved number) (storage.moved number) Reads := by
  refine reads.armed.bind_left fun later result grown same => ?_
  subst same
  unfold StorageModel.moved
  cases storage.armed with
  | none => exact .pure (reads.grows grown)
  | some armed =>
      simp only
      split
      · exact .pure (reads.grows grown)
      · exact (reads.grows grown).evolveFault .moved {}

theorem Reads.spend (reads : object.Reads store storage) (step : StorageStep)
    (outcome : Outcome) :
    Simulates store (object.spend step outcome) (storage.spend step outcome) Reads := by
  refine reads.armed.bind_left fun later result grown same => ?_
  subst same
  unfold StorageModel.spend
  cases storage.armed with
  | none => exact .pure (reads.grows grown)
  | some armed =>
      simp only
      split
      · exact .pure (reads.grows grown)
      · refine ((reads.grows grown).certain armed step).bind_left fun _ _ grown' sole => ?_
        subst sole
        exact ((reads.grows grown).grows grown').evolveFault _ {}

theorem Reads.after (reads : object.Reads store storage) (step : StorageStep)
    (outcome : Outcome) :
    Simulates store (object.after step outcome) (storage.after step outcome) Reads := by
  refine (reads.spend step outcome).bind fun store object model _ reads => ?_
  cases step with
  | get file => exact .pure reads
  | disarm => exact reads.evolveFault .removed {}
  | arm op region file once =>
      simp only
      split
      · exact reads.evolveFault .aimed _
      · exact reads.evolveFault .removed {}
  | corrupt region file =>
      simp only
      split
      · split
        · exact reads.evolveFile file .corrupted {}
        · exact (simulates_evolved reads.volume).bind fun _ _ _ grown read =>
            .pure { reads.grows grown with volume := read }
      · exact .pure reads
  | put file seed =>
      simp only
      split
      · exact (reads.evolveFile file .written _).bind fun _ _ _ _ reads' => reads'.moved file
      · refine reads.armed.bind_left fun _ _ grown same => ?_
        subst same
        refine ((reads.grows grown).evolveFile file .writeFailed {}).bind
          fun _ _ _ _ failed => ?_
        refine (failed.moved file).bind fun _ _ _ _ failed => ?_
        rw [reads.disk]
        split
        · exact (simulates_evolved failed.window).bind fun _ _ _ grown read =>
            .pure { failed.grows grown with window := read }
        · exact .pure failed

theorem Reads.crashed (reads : object.Reads store storage) (number : FileNumber)
    (seed : Fin 256) :
    Simulates store (object.crashed number seed) (storage.crashed number seed) Reads := by
  refine (reads.file number).bind_left fun _ _ grown read => ?_
  refine (simulates_read read).bind_left fun _ _ grown' same => ?_
  subst same
  exact ((reads.grows grown).grows grown').evolveFile number .cut _

end StorageObject

namespace ModelObject

variable {object : ModelObject} {model : Model}

theorem Reads.grows (reads : object.Reads store model) (grown : store.Grows later) :
    object.Reads later model :=
  ⟨reads.root.grows grown, reads.storage.grows grown⟩

theorem Reads.view_eq (reads : object.Reads store model) : object.view store = model := by
  obtain ⟨⟨budget, drivers⟩, disk, files, fault, volume, window⟩ := reads
  have charts : (fun driver => (object.root.drivers driver).bind (store.chart? driverKind)) =
      model.root.drivers := funext fun driver => (drivers driver).bind_eq
  have stored : (fun number => (object.storage.files number).bind (store.chart? fileKind)) =
      model.storage.files := funext fun number => (files number).bind_eq
  rw [view, budget, disk, fault, volume, window, charts, stored]
  rfl

theorem reads_start (budget : Int) (disk : Expected) :
    Simulates store (start budget disk) (some (.start budget disk)) Reads :=
  (StorageObject.reads_start disk).bind_left fun _ _ _ storage =>
    .pure ⟨⟨rfl, fun _ => .none⟩, storage⟩

theorem Reads.rebooted (reads : object.Reads store model) :
    Simulates store object.rebooted (some model.rebooted) Reads :=
  reads.storage.rebooted.bind_left fun _ _ _ storage =>
    .pure ⟨⟨reads.root.budget, fun _ => .none⟩, storage⟩

theorem Reads.settling (reads : object.Reads store model) (step : Step) :
    Simulates store (object.settling step) (some (model.settling step)) fun _ => Eq := by
  intro ok
  refine ⟨_, store, rfl, .refl store, ok, ?_⟩
  rw [reads.view_eq]

variable [ChartLibrary]

theorem Reads.own (reads : object.Reads store model) (outcome : Outcome) (step : Step) :
    Simulates store (object.own outcome step) (model.own outcome step) Reads := by
  cases step with
  | root step =>
      exact (reads.root.after step outcome).bind fun _ _ _ grown root =>
        .pure ⟨root, reads.storage.grows grown⟩
  | storage step =>
      exact (reads.storage.after step outcome).bind fun _ _ _ grown storage =>
        .pure ⟨reads.root.grows grown, storage⟩
  | net step => exact .pure reads
  | reset | crashPut file seed afterMs => exact fun _ => rfl

/-- A step of the objects is the step of the model they read as. -/
theorem Reads.after (reads : object.Reads store model) (step : Step) (outcome : Outcome) :
    Simulates store (object.after step outcome) (model.after step outcome) Reads := by
  have owned (step : Step) :
      Simulates store
        (do
          let recovering ← object.settling step
          let next ← object.own outcome step
          if recovering ≠ [] then do
            let root ← next.root.settled recovering
            return { next with root }
          else return next)
        (model.own outcome step >>= model.settle step) Reads := by
    refine (reads.settling step).bind_left fun _ _ grown same => ?_
    subst same
    refine ((reads.grows grown).own outcome step).bind fun _ _ next _ reads' => ?_
    unfold Model.settle
    split
    · exact (reads'.root.settled _).bind fun _ _ _ grown' root =>
        .pure ⟨root, reads'.storage.grows grown'⟩
    · exact .pure reads'
  cases step with
  | root step => exact owned (.root step)
  | storage step => exact owned (.storage step)
  | net step => exact owned (.net step)
  | reset => exact reads.rebooted
  | crashPut file seed afterMs =>
      exact (reads.storage.crashed file seed).bind fun store _ _ grown storage =>
        Reads.rebooted ⟨reads.root.grows grown, storage⟩

end ModelObject

/-! ### Every run of the models -/

/-- The models made so far, newest first: started, or after a step from any that was made.
What a model says may fill the caches. -/
inductive Made [ChartLibrary] : Store → List ModelObject → Prop where
  | nil : Made {} []
  | freshDriver {store later : Store} {models : List ModelObject} {ref : Ref} (budget : Int)
      (made : Made store models) (ran : Faults.freshDriver budget store = some (ref, later)) :
      Made later models
  | freshFile {store later : Store} {models : List ModelObject} {ref : Ref}
      (made : Made store models) (ran : Faults.freshFile store = some (ref, later)) :
      Made later models
  | start {store later : Store} {models : List ModelObject} {model : ModelObject} (budget : Int)
      (disk : Expected) (made : Made store models)
      (ran : ModelObject.start budget disk store = some (model, later)) :
      Made later (model :: models)
  | after {store later : Store} {models : List ModelObject} {model next : ModelObject}
      (step : Step) (outcome : Outcome) (made : Made store models) (live : model ∈ models)
      (admitted : outcome ∈ (model.view store).expect step)
      (ran : model.after step outcome store = some (next, later)) :
      Made later (next :: models)

/-- Every model made reads as one of the fault model. -/
structure Coherent (store : Store) (models : List ModelObject) : Prop where
  ok : store.Ok
  reads : ∀ model ∈ models, ∃ pure, model.Reads store pure

theorem Coherent.grows {models : List ModelObject} (coherent : Coherent store models)
    (grown : store.Grows later) (ok : later.Ok) : Coherent later models :=
  ⟨ok, fun model live =>
    let ⟨pure, reads⟩ := coherent.reads model live
    ⟨pure, reads.grows grown⟩⟩

theorem Coherent.cons {models : List ModelObject} {model : ModelObject} {pure : Model}
    (coherent : Coherent store models) (reads : model.Reads store pure) :
    Coherent store (model :: models) :=
  ⟨coherent.ok, List.forall_mem_cons.mpr ⟨⟨pure, reads⟩, coherent.reads⟩⟩

/-- What a run that ended says of the value it simulates. -/
theorem Simulates.ended {Related : Store → α → β → Prop} {program : Objects α}
    {value : Option β} {result : α} (simulated : Simulates store program value Related)
    (ok : store.Ok) (ran : program store = some (result, later)) :
    store.Grows later ∧ later.Ok ∧ ∃ expected, value = some expected ∧
      Related later result expected := by
  have known := simulated ok
  cases value with
  | none => cases ran.symm.trans known
  | some expected =>
      obtain ⟨result', later', ended, grown, ok', related⟩ := known
      cases ran.symm.trans ended
      exact ⟨grown, ok', expected, rfl, related⟩

theorem Made.coherent [ChartLibrary] {models : List ModelObject} (made : Made store models) :
    Coherent store models := by
  induction made with
  | nil => exact ⟨⟨fun _ _ => nofun, fun _ => nofun⟩, fun _ => nofun⟩
  | freshDriver budget _ ran ih =>
      obtain ⟨grown, ok, -⟩ := (simulates_freshDriver budget).ended ih.ok ran
      exact ih.grows grown ok
  | freshFile _ ran ih =>
      obtain ⟨grown, ok, -⟩ := simulates_freshFile.ended ih.ok ran
      exact ih.grows grown ok
  | start budget disk _ ran ih =>
      obtain ⟨grown, ok, pure, -, reads⟩ := (ModelObject.reads_start budget disk).ended ih.ok ran
      exact (ih.grows grown ok).cons reads
  | after step outcome _ live _ ran ih =>
      obtain ⟨pure, reads⟩ := ih.reads _ live
      obtain ⟨grown, ok, next, -, reads'⟩ := (reads.after step outcome).ended ih.ok ran
      exact (ih.grows grown ok).cons reads'

/-- Whatever was made before, a system can be started, every model made admits some outcome of
every step and takes each that it admits as the model of its charts does; and every chart that
existed, so every model made before, stays as it was. -/
theorem fault_model_coherent [ChartLibrary] {models : List ModelObject}
    (made : Made store models) :
    (∀ budget disk, ∃ model later, ModelObject.start budget disk store = some (model, later) ∧
      model.view later = .start budget disk) ∧
    ∀ model ∈ models, ∀ step,
      (∃ outcome, outcome ∈ (model.view store).expect step) ∧
      ∀ outcome ∈ (model.view store).expect step, ∃ next later,
        model.after step outcome store = some (next, later) ∧
        (model.view store).after step outcome = some (next.view later) ∧
        store.cells <+: later.cells ∧
        ∀ earlier ∈ models, earlier.view later = earlier.view store := by
  have coherent := made.coherent
  constructor
  · intro budget disk
    obtain ⟨model, later, ran, -, -, reads⟩ :=
      ModelObject.reads_start budget disk coherent.ok
    exact ⟨model, later, ran, reads.view_eq⟩
  intro model live step
  obtain ⟨pure, reads⟩ := coherent.reads model live
  rw [reads.view_eq]
  refine ⟨pure.expect_nonempty step, fun outcome admitted => ?_⟩
  obtain ⟨expected, taken⟩ := Model.after_total admitted
  have simulated := reads.after step outcome coherent.ok
  rw [taken] at simulated
  obtain ⟨next, later, ran, grown, -, reads'⟩ := simulated
  refine ⟨next, later, ran, by rw [taken, reads'.view_eq], grown, fun earlier live' => ?_⟩
  obtain ⟨was, read⟩ := coherent.reads earlier live'
  rw [(read.grows grown).view_eq, read.view_eq]

/-- The objects of the first system started, with three charts of its own. -/
def firstObject : ModelObject where
  root := { budget := 1 }
  storage := { disk := cleanDisk, fault := 0, volume := 1, window := 2 }

def firstStore : Store where
  cells := [.fault .fresh, .volume .fresh, .window .fresh]

section

open scoped ChartLibrary

theorem fault_model_coherent_sample :
    ∃ next later,
      firstObject.after (.root (.fault .blk true)) (.restarted .restart 1) firstStore =
        some (next, later) ∧
      (firstObject.view firstStore).after (.root (.fault .blk true)) (.restarted .restart 1) =
        some (next.view later) ∧
      firstStore.cells <+: later.cells ∧
      ∀ earlier ∈ [firstObject], earlier.view later = earlier.view firstStore :=
  ((fault_model_coherent (.start 1 cleanDisk .nil rfl)).2 firstObject List.mem_cons_self
    (.root (.fault .blk true))).2 (.restarted .restart 1) (mem_expectOne.mpr rfl)

end

end Chrysopolis.Testbed.Faults
