import Chrysopolis.Testbed.Faults

/-! The fault model over chart objects. A model of `faults.py` holds references to charts that
other models and the caches hold too; `evolved` copies the chart and sends the event to the
copy. A computation ends in `none` where a chart refuses an event. -/

set_option autoImplicit false

namespace Chrysopolis.Testbed.Faults

open Chrysopolis.Support

/-! ### Objects -/

inductive Cell where
  | driver (chart : DriverLifecycle)
  | file (chart : FileLifecycle)
  | fault (chart : FaultLifecycle)
  | volume (chart : VolumeLifecycle)
  | window (chart : WindowLifecycle)

/-- The charts of one class among the objects. -/
structure Kind (C : Type) where
  wrap : C → Cell
  unwrap : Cell → Option C
  unwrap_wrap : ∀ chart, unwrap (wrap chart) = some chart

def driverKind : Kind DriverLifecycle where
  wrap := .driver
  unwrap | .driver chart => some chart | _ => none
  unwrap_wrap _ := rfl

def fileKind : Kind FileLifecycle where
  wrap := .file
  unwrap | .file chart => some chart | _ => none
  unwrap_wrap _ := rfl

def faultKind : Kind FaultLifecycle where
  wrap := .fault
  unwrap | .fault chart => some chart | _ => none
  unwrap_wrap _ := rfl

def volumeKind : Kind VolumeLifecycle where
  wrap := .volume
  unwrap | .volume chart => some chart | _ => none
  unwrap_wrap _ := rfl

def windowKind : Kind WindowLifecycle where
  wrap := .window
  unwrap | .window chart => some chart | _ => none
  unwrap_wrap _ := rfl

abbrev Ref := Nat

/-- The charts that exist, and the caches of `_fresh_driver` and `_fresh_file`. -/
structure Store where
  cells : List Cell := []
  freshDriver : Int → Option Ref := fun _ => none
  freshFile : Option Ref := none

abbrev Objects := StateT Store Option

section

variable {C : Type} (kind : Kind C)

/-- The chart at a reference. -/
def Store.chart? (store : Store) (ref : Ref) : Option C := store.cells[ref]?.bind kind.unwrap

def allocate (chart : C) : Objects Ref := fun store =>
  some (store.cells.length, { store with cells := store.cells ++ [kind.wrap chart] })

def read (ref : Ref) : Objects C :=
  fun store => (store.chart? kind ref).map fun chart => (chart, store)

/-- A chart changed in place. -/
def write (ref : Ref) (chart : C) : Objects Unit := fun store =>
  some ((), { store with cells := store.cells.set ref (kind.wrap chart) })

/-- `evolved`: `copy.deepcopy`, then `send` on the twin. -/
def evolved (ref : Ref) (send : C → Option C) : Objects Ref := do
  let twin ← allocate kind (← read kind ref)
  let next ← (send (← read kind twin) : Option C)
  write kind twin next
  return twin

end

/-- `_fresh_driver` -/
def freshDriver (budget : Int) : Objects Ref := do
  match (← get).freshDriver budget with
  | some ref => return ref
  | none => do
      let ref ← allocate driverKind (.fresh budget)
      modify fun store =>
        { store with freshDriver := Function.update store.freshDriver budget (some ref) }
      return ref

/-- `_fresh_file` -/
def freshFile : Objects Ref := do
  match (← get).freshFile with
  | some ref => return ref
  | none => do
      let ref ← allocate fileKind .fresh
      modify fun store => { store with freshFile := some ref }
      return ref

variable [ChartLibrary]

/-! ### `RootModel` -/

structure RootObject where
  budget : Int
  drivers : Driver → Option Ref := fun _ => none

namespace RootObject

def chart (root : RootObject) (driver : Driver) : Objects Ref :=
  match root.drivers driver with
  | some ref => return ref
  | none => freshDriver root.budget

def set (root : RootObject) (driver : Driver) (ref : Ref) : RootObject :=
  { root with drivers := Function.update root.drivers driver (some ref) }

def after (root : RootObject) (step : RootStep) (outcome : Outcome) : Objects RootObject := do
  let chart ← evolved driverKind (← root.chart step.driver)
    (·.evolved (RootModel.event step outcome))
  return root.set step.driver chart

def settleOne (which : List Driver) (root : RootObject) (driver : Driver) :
    Objects RootObject :=
  match root.drivers driver with
  | none => return root
  | some ref => do
      let chart ← read driverKind ref
      if driver ∈ which ∧ chart.state = .recovering then do
        let next ← evolved driverKind ref (·.evolved .settled)
        return root.set driver next
      else return root

def settled (root : RootObject) (which : List Driver) : Objects RootObject :=
  Faults.drivers.foldlM (settleOne which) root

end RootObject

/-! ### `StorageModel` -/

structure StorageObject where
  disk : Expected
  files : FileNumber → Option Ref := fun _ => none
  fault : Ref
  volume : Ref
  window : Ref

namespace StorageObject

/-- A storage model of a new system, with charts of its own. -/
def start (disk : Expected) : Objects StorageObject := do
  let fault ← allocate faultKind .fresh
  let volume ← allocate volumeKind .fresh
  let window ← allocate windowKind .fresh
  return { disk, fault, volume, window }

def file (storage : StorageObject) (number : FileNumber) : Objects Ref :=
  match storage.files number with
  | some ref => return ref
  | none => freshFile

def armed (storage : StorageObject) : Objects (Option FaultRecord) := do
  let fault ← read faultKind storage.fault
  return if fault.state ≠ .disarmed then some fault.model else none

def evolveFile (storage : StorageObject) (number : FileNumber) (event : FileEvent)
    (data : FileData := {}) : Objects StorageObject := do
  let chart ← evolved fileKind (← storage.file number) (·.evolved event data)
  return { storage with files := Function.update storage.files number (some chart) }

def evolveFault (storage : StorageObject) (event : FaultEvent) (data : FaultRecord := {}) :
    Objects StorageObject := do
  let fault ← evolved faultKind storage.fault (·.evolved event data)
  return { storage with fault }

def moved (storage : StorageObject) (number : FileNumber) : Objects StorageObject := do
  match ← storage.armed with
  | none => return storage
  | some armed =>
      if armed.file ≠ some number ∨ armed.region ∉ [some .data, some .fat] then return storage
      else storage.evolveFault .moved

def certain (storage : StorageObject) (armed : FaultRecord) (step : StorageStep) :
    Objects Bool := do
  let fault ← read faultKind storage.fault
  let window ← read windowKind storage.window
  return fault.state != .adrift &&
    match step with
    | .get number =>
        armed.op == some .read && armed.region == some .data && armed.file == some number &&
          !(window.state == .dirty)
    | _ => false

def spend (storage : StorageObject) (step : StorageStep) (outcome : Outcome) :
    Objects StorageObject := do
  match ← storage.armed with
  | none => return storage
  | some armed =>
      if outcome ≠ .status .eio ∨ armed.once = false then return storage
      else do
        let certain ← storage.certain armed step
        storage.evolveFault (if certain then .spent else .maybeFired)

def after (storage : StorageObject) (step : StorageStep) (outcome : Outcome) :
    Objects StorageObject := do
  let model ← storage.spend step outcome
  match step with
  | .arm op region file once =>
      if outcome = .status .present then
        model.evolveFault .aimed { op := some op, region := some region, file := some file, once }
      else model.evolveFault .removed
  | .disarm => model.evolveFault .removed
  | .corrupt region file =>
      if outcome = .status .present then
        if region = .data then model.evolveFile file .corrupted
        else do
          let volume ← evolved volumeKind model.volume (·.evolved .metadataCorrupted)
          return { model with volume }
      else return model
  | .put file seed =>
      if outcome = .status .ok then do
        let written ← model.evolveFile file .written { seed := seed.val }
        written.moved file
      else do
        let armed ← model.armed
        let failed ← model.evolveFile file .writeFailed
        let failed ← failed.moved file
        if ReadReport.error ∈ model.disk.reads ∨
            (armed.any fun armed => armed.op == some .write) = true then do
          let window ← evolved windowKind failed.window (·.evolved .leftDirty)
          return { failed with window }
        else return failed
  | .get _ => return model

def crashed (storage : StorageObject) (number : FileNumber) (seed : Fin 256) :
    Objects StorageObject := do
  let chart ← read fileKind (← storage.file number)
  let before := match chart.state with
    | .absent => Outcome.status .enoent
    | .held => StorageModel.seedOf chart
    | .corrupt => .status .differs
    | .unknown | .torn => .status .error
  storage.evolveFile number .cut { seed := seed.val, before := {before} }

def rebooted (storage : StorageObject) : Objects StorageObject := do
  let fault ← allocate faultKind .fresh
  let window ← allocate windowKind .fresh
  return { storage with fault, window }

end StorageObject

/-! ### `Model` -/

structure ModelObject where
  root : RootObject
  storage : StorageObject

namespace ModelObject

def start (budget : Int) (disk : Expected) : Objects ModelObject := do
  let storage ← StorageObject.start disk
  return { root := { budget }, storage }

/-- What a model says while the store is as it is. Nothing it says changes a chart: one that
the dictionaries lack says what a fresh one does. -/
def view (store : Store) (model : ModelObject) : Model where
  root :=
    { budget := model.root.budget
      drivers := fun driver => (model.root.drivers driver).bind (store.chart? driverKind) }
  storage :=
    { disk := model.storage.disk
      files := fun number => (model.storage.files number).bind (store.chart? fileKind)
      fault := (store.chart? faultKind model.storage.fault).getD .fresh
      volume := (store.chart? volumeKind model.storage.volume).getD .fresh
      window := (store.chart? windowKind model.storage.window).getD .fresh }

def rebooted (model : ModelObject) : Objects ModelObject := do
  let storage ← model.storage.rebooted
  return { root := { budget := model.root.budget }, storage }

def own (model : ModelObject) (outcome : Outcome) : Step → Objects ModelObject
  | .root step => do
      let root ← model.root.after step outcome
      return { model with root }
  | .storage step => do
      let storage ← model.storage.after step outcome
      return { model with storage }
  | .net _ => return model
  | .reset | .crashPut .. => failure

/-- The drivers that settle after a step, read before it. -/
def settling (model : ModelObject) (step : Step) : Objects (List Driver) := do
  return (model.view (← get)).settling step

def after (model : ModelObject) (step : Step) (outcome : Outcome) : Objects ModelObject :=
  match step with
  | .reset => model.rebooted
  | .crashPut file seed _ => do
      let storage ← model.storage.crashed file seed
      { model with storage }.rebooted
  | step => do
      let recovering ← model.settling step
      let next ← model.own outcome step
      if recovering ≠ [] then do
        let root ← next.root.settled recovering
        return { next with root }
      else return next

end ModelObject

end Chrysopolis.Testbed.Faults
