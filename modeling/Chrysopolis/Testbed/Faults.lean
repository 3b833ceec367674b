import Chrysopolis.Testbed.Lifecycles
import Mathlib.Data.Finset.Image
import Mathlib.Logic.Function.Basic

/-! `faults.py`: fault programs and the model that judges them. `expect` is what a step may be
seen to do, and `after` folds in what it did, `none` where a chart refuses the event. -/

set_option autoImplicit false

namespace Chrysopolis.Testbed.Faults

open Chrysopolis.Support

/-! ### Steps -/

/-- `DRIVERS` -/
def drivers : List Driver := [.serial, .timer, .blk, .eth]

abbrev FileNumber := Fin files

/-- `Fault` and `Restart` -/
inductive RootStep where
  | fault (driver : Driver) (settle : Bool)
  | restart (driver : Driver) (settle : Bool)
  deriving DecidableEq, Repr

def RootStep.driver : RootStep → Driver
  | .fault driver _ => driver
  | .restart driver _ => driver

def RootStep.settle : RootStep → Bool
  | .fault _ settle => settle
  | .restart _ settle => settle

inductive StorageStep where
  | put (file : FileNumber) (seed : Fin 256)
  | get (file : FileNumber)
  | arm (op : Op) (region : Region) (file : FileNumber) (once : Bool)
  | disarm
  | corrupt (region : Region) (file : FileNumber)
  deriving DecidableEq, Repr

inductive NetStep where
  | ping
  | unplug (ms : Fin 1501)
  | pause (ms : Fin 1001)
  deriving DecidableEq, Repr

/-- `Step`, by the component that owns it; the last two are the system's. -/
inductive Step where
  | root (step : RootStep)
  | storage (step : StorageStep)
  | net (step : NetStep)
  | reset
  | crashPut (file : FileNumber) (seed : Fin 256) (afterMs : Fin 201)
  deriving DecidableEq, Repr

/-! ### Expectations -/

/-- The outcomes a step may have. `anything` admits every outcome. -/
structure Expect where
  outcomes : Finset Outcome := ∅
  anything : Bool := false
  deriving DecidableEq

instance : Membership Outcome Expect :=
  ⟨fun allowed outcome => allowed.anything = true ∨ outcome ∈ allowed.outcomes⟩

instance : Union Expect :=
  ⟨fun first second => ⟨first.outcomes ∪ second.outcomes, first.anything || second.anything⟩⟩

/-- `expect`, of outcomes that carry nothing else. -/
def expectStatus (statuses : Finset Status) : Expect :=
  { outcomes := statuses.image .status }

def expectOne (outcome : Outcome) : Expect := { outcomes := {outcome} }

/-- `ANYTHING` -/
def anything : Expect := { anything := true }

inductive ReadReport where
  | ok | error
  deriving DecidableEq, Repr

/-- `Expected` of `blkdebug.py`: what the guest may report under a plan. -/
structure Expected where
  writeFails : Bool
  reads : Finset ReadReport
  deriving DecidableEq

/-- `CLEAN_DISK` -/
def cleanDisk : Expected := { writeFails := false, reads := {.ok} }

variable [ChartLibrary]

/-! ### `RootModel` -/

structure RootModel where
  budget : Int
  drivers : Driver → Option DriverLifecycle := fun _ => none

namespace RootModel

def chart (root : RootModel) (driver : Driver) : DriverLifecycle :=
  (root.drivers driver).getD (.fresh root.budget)

def up (root : RootModel) (driver : Driver) : Bool := (root.chart driver).state != .gone

def expect (root : RootModel) (step : RootStep) : Expect :=
  let chart := root.chart step.driver
  if chart.state = .gone then expectStatus {.gone}
  else if !chart.model.hasBudget then expectOne (.gaveUp "budget-exhausted")
  else
    let path := match step with
      | .fault .. => RestartPath.restart
      | .restart .. => RestartPath.debugRestart
    expectOne (.restarted path (chart.model.spent + 1))

/-- `{**self.drivers, driver: chart}` -/
def set (root : RootModel) (driver : Driver) (chart : DriverLifecycle) : RootModel :=
  { root with drivers := Function.update root.drivers driver (some chart) }

/-- The event of an outcome of a request. -/
def event (step : RootStep) : Outcome → DriverEvent
  | .restarted .. => if step.settle then .restarted else .restartedUnsettled
  | .gaveUp _ => .gaveUp
  | _ => .ignored

def after (root : RootModel) (step : RootStep) (outcome : Outcome) : Option RootModel := do
  let chart ← (root.chart step.driver).evolved (event step outcome)
  return root.set step.driver chart

def recovering (root : RootModel) (driver : Driver) : Bool :=
  (root.chart driver).state == .recovering

/-- One chart of `settled`. -/
def settleOne (which : List Driver) (root : RootModel) (driver : Driver) : Option RootModel :=
  match root.drivers driver with
  | none => some root
  | some chart =>
      if driver ∈ which ∧ chart.state = .recovering then
        (chart.evolved .settled).map (root.set driver)
      else some root

def settled (root : RootModel) (which : List Driver) : Option RootModel :=
  Faults.drivers.foldlM (settleOne which) root

/-- The drivers in the order of their names. -/
def key (root : RootModel) : List (Driver × DriverState × Nat) :=
  [.blk, .eth, .serial, .timer].filterMap fun driver =>
    (root.drivers driver).map fun chart => (driver, chart.state, chart.model.spent)

end RootModel

/-! ### `StorageModel` -/

structure StorageModel where
  disk : Expected := cleanDisk
  files : FileNumber → Option FileLifecycle := fun _ => none
  fault : FaultLifecycle := .fresh
  volume : VolumeLifecycle := .fresh
  window : WindowLifecycle := .fresh

namespace StorageModel

def file (storage : StorageModel) (number : FileNumber) : FileLifecycle :=
  (storage.files number).getD .fresh

def armed (storage : StorageModel) : Option FaultRecord :=
  if storage.fault.state ≠ .disarmed then some storage.fault.model else none

def damaged (storage : StorageModel) : Bool := storage.volume.state == .damaged

def suspect (storage : StorageModel) : Bool := storage.window.state == .dirty

/-- `_present`: what locating a file on disk may find. -/
def present (storage : StorageModel) (number : FileNumber) : Expect :=
  if storage.damaged then anything
  else match (storage.file number).state with
    | .absent => expectStatus {.absent}
    | .unknown | .torn => expectStatus {.present, .absent}
    | _ => expectStatus {.present}

/-- `Seed(chart.model.seed or 0)` -/
def seedOf (chart : FileLifecycle) : Outcome := .seed (chart.model.seed.getD 0)

/-- What a file that is read holds. -/
def held (chart : FileLifecycle) : Expect :=
  match chart.state with
  | .absent => expectStatus {.enoent}
  | .unknown => anything
  | .torn => { outcomes := chart.model.before ∪ {.status .differs, seedOf chart} }
  | .corrupt => expectStatus {.differs}
  | .held => expectOne (seedOf chart)

/-- `_unfaulted` -/
def unfaulted (storage : StorageModel) (step : StorageStep) (up : Bool) : Expect :=
  match step with
  | .put .. =>
      if !up then expectStatus {.eio, .error}
      else if !storage.disk.writeFails then expectStatus {.ok}
      -- A permanent rule fails every write, one-shot rules only some.
      else if storage.disk.reads = {.error} then expectStatus {.eio}
      else expectStatus {.ok, .eio}
  | .get number =>
      if !up then expectStatus {.eio, .error}
      else if storage.suspect then held (storage.file number) ∪ expectStatus {.eio}
      else held (storage.file number)
  | .arm _ _ number _ | .corrupt _ number => storage.present number
  | .disarm => expectStatus {.ok}

/-- The match of `expect` on the armed fault, for a put or a get. -/
def faulted (storage : StorageModel) (armed : FaultRecord) (base : Expect) :
    StorageStep → Expect
  | .get number =>
      if armed.op = some .read ∧ armed.region = some .data ∧ armed.file = some number then
        if storage.fault.state = .maybeSpent ∨ storage.fault.state = .adrift then
          base ∪ expectStatus {.eio}
        else if (storage.file number).state = .held ∨ (storage.file number).state = .corrupt then
          expectStatus {.eio}
        else anything
      else if armed.op = some .write then base
      else if armed.op = some .read ∧ armed.region = some .data then base
      else base ∪ expectStatus {.eio}
  | _ =>
      if armed.op = some .read ∧ armed.region = some .data then base
      -- FAT and directory sectors are shared and cached.
      else base ∪ expectStatus {.eio}

/-- `up` is whether Root still runs the block driver. -/
def expect (storage : StorageModel) (step : StorageStep) (up : Bool) : Expect :=
  let base := storage.unfaulted step up
  match step with
  | .put .. | .get _ =>
      if storage.damaged ∧ up then anything
      else match storage.armed with
        | none => base
        | some armed => storage.faulted armed base step
  | _ => base

/-- `_file` -/
def evolveFile (storage : StorageModel) (number : FileNumber) (event : FileEvent)
    (data : FileData := {}) : Option StorageModel := do
  let chart ← (storage.file number).evolved event data
  return { storage with files := Function.update storage.files number (some chart) }

def evolveFault (storage : StorageModel) (event : FaultEvent) (data : FaultRecord := {}) :
    Option StorageModel := do
  let fault ← storage.fault.evolved event data
  return { storage with fault }

/-- `_moved`: a rewrite may take the file's data and FAT entry off the faulted sector. -/
def moved (storage : StorageModel) (number : FileNumber) : Option StorageModel :=
  match storage.armed with
  | none => some storage
  | some armed =>
      if armed.file ≠ some number ∨ armed.region ∉ [some .data, some .fat] then some storage
      else storage.evolveFault .moved

/-- Whether the armed one-shot fault was the sole possible cause of an EIO. -/
def certain (storage : StorageModel) (armed : FaultRecord) (step : StorageStep) : Bool :=
  storage.fault.state != .adrift &&
    match step with
    | .get number =>
        armed.op == some .read && armed.region == some .data && armed.file == some number &&
          !storage.suspect
    | _ => false

/-- `_spend` -/
def spend (storage : StorageModel) (step : StorageStep) (outcome : Outcome) :
    Option StorageModel :=
  match storage.armed with
  | none => some storage
  | some armed =>
      if outcome ≠ .status .eio ∨ armed.once = false then some storage
      else storage.evolveFault (if storage.certain armed step then .spent else .maybeFired)

def after (storage : StorageModel) (step : StorageStep) (outcome : Outcome) :
    Option StorageModel := do
  let model ← storage.spend step outcome
  match step with
  | .arm op region file once =>
      if outcome = .status .present then
        model.evolveFault .aimed { op := some op, region := some region, file := some file, once }
      else model.evolveFault .removed
  | .disarm => model.evolveFault .removed
  | .corrupt region file =>
      if outcome = .status .present then
        if region = .data then model.evolveFile file .corrupted
        else do
          let volume ← model.volume.evolved .metadataCorrupted
          return { model with volume }
      else return model
  | .put file seed =>
      if outcome = .status .ok then do
        let written ← model.evolveFile file .written { seed := seed.val }
        written.moved file
      else do
        let dirty := ReadReport.error ∈ model.disk.reads ∨
          (model.armed.any fun armed => armed.op == some .write) = true
        let failed ← model.evolveFile file .writeFailed
        let failed ← failed.moved file
        if dirty then do
          let window ← failed.window.evolved .leftDirty
          return { failed with window }
        else return failed
  | .get _ => return model

/-- A rewrite of a file cut by a reset. -/
def crashed (storage : StorageModel) (number : FileNumber) (seed : Fin 256) :
    Option StorageModel :=
  let chart := storage.file number
  let before := match chart.state with
    | .absent => Outcome.status .enoent
    | .held => seedOf chart
    | .corrupt => .status .differs
    | .unknown | .torn => .status .error
  storage.evolveFile number .cut { seed := seed.val, before := {before} }

def rebooted (storage : StorageModel) : StorageModel :=
  { storage with fault := .fresh, window := .fresh }

structure Key where
  disk : Expected
  files : List (FileNumber × FileState × Option Int × Finset Outcome)
  fault : FaultState
  armed : Option FaultRecord
  volume : VolumeState
  window : WindowState
  deriving DecidableEq

def key (storage : StorageModel) : Key where
  disk := storage.disk
  files := (List.finRange Faults.files).filterMap fun number =>
    (storage.files number).map fun chart =>
      (number, chart.state, chart.model.seed, chart.model.before)
  fault := storage.fault.state
  armed := storage.armed
  volume := storage.volume.state
  window := storage.window.state

end StorageModel

/-! ### `NetModel` -/

structure NetModel where

namespace NetModel

/-- `up` is whether Root still runs the NIC driver. -/
def expect (_ : NetModel) (step : NetStep) (up : Bool) : Expect :=
  match step with
  | .ping => if up then expectStatus {.ok} else expectStatus {.unreachable}
  | .unplug _ | .pause _ => expectStatus {.ok}

def after (net : NetModel) (_ : NetStep) (_ : Outcome) : NetModel := net

end NetModel

/-! ### `Model` -/

structure Model where
  root : RootModel
  storage : StorageModel := {}
  net : NetModel := {}

namespace Model

def start (budget : Int) (disk : Expected := cleanDisk) : Model :=
  { root := { budget }, storage := { disk } }

/-- Root, every driver and the BEAM start over on the same disk. -/
def rebooted (model : Model) : Model :=
  { model with root := { budget := model.root.budget }, storage := model.storage.rebooted }

/-- The network's key is empty. -/
def key (model : Model) : List (Driver × DriverState × Nat) × StorageModel.Key :=
  (model.root.key, model.storage.key)

def expect (model : Model) : Step → Expect
  | .root step => model.root.expect step
  | .storage step =>
      let allowed := model.storage.expect step (model.root.up .blk)
      match step with
      -- A driver still reconciling may refuse the request.
      | .put .. | .get _ =>
          if model.root.recovering .blk then allowed ∪ expectStatus {.eio, .error} else allowed
      | _ => allowed
  | .net step =>
      let allowed := model.net.expect step (model.root.up .eth)
      match step with
      | .ping =>
          if model.root.recovering .eth then allowed ∪ expectStatus {.unreachable} else allowed
      | _ => allowed
  -- A damaged volume may not mount, and then nothing boots.
  | .reset | .crashPut .. => if model.storage.damaged then anything else expectStatus {.ok}

/-- The step's own effect, of a step that one component owns. -/
def own (model : Model) (outcome : Outcome) : Step → Option Model
  | .root step => do
      let root ← model.root.after step outcome
      return { model with root }
  | .storage step => do
      let storage ← model.storage.after step outcome
      return { model with storage }
  | .net step => some { model with net := model.net.after step outcome }
  | .reset | .crashPut .. => none

/-- The drivers that settle after a step: those recovering before it, less the one an unsettled
request goes to. -/
def settling (model : Model) (step : Step) : List Driver :=
  let recovering := drivers.filter model.root.recovering
  match step with
  | .root step => if step.settle then recovering else recovering.filter (· != step.driver)
  | _ => recovering

/-- The last of `after`: `next` once the drivers that settle after the step have. -/
def settle (model : Model) (step : Step) (next : Model) : Option Model :=
  if model.settling step ≠ [] then do
    let root ← next.root.settled (model.settling step)
    return { next with root }
  else return next

def after (model : Model) (step : Step) (outcome : Outcome) : Option Model :=
  match step with
  | .reset => some model.rebooted
  | .crashPut file seed _ => do
      let storage ← model.storage.crashed file seed
      return { model with storage }.rebooted
  | step => do
      let next ← model.own outcome step
      model.settle step next

end Model

end Chrysopolis.Testbed.Faults
