import Chrysopolis.Testbed.Faults

/-! `trim` of `faults.py`, and `steer.py`: fault programs drawn by simulating the model. A strategy
is the steps that may be drawn from it, and a scenario the steps that it may have drawn from a
model, with the model they lead to and what it draws from next. -/

set_option autoImplicit false

namespace Chrysopolis.Testbed.Faults

open Chrysopolis.Support

abbrev Program := List Step

/-- `KEPT` -/
def keptDrivers : List Driver := [.serial, .timer]

/-- The driver of a request to Root. -/
def Step.request? : Step → Option Driver
  | .root step => some step.driver
  | _ => none

/-- `spent[d] += 1` -/
def counted (spent : Driver → Nat) (driver : Driver) : Driver → Nat :=
  Function.update spent driver (spent driver + 1)

/-- `kept` of `trim`, by the requests that were counted so far. -/
def trimKept (budget : Int) : (Driver → Nat) → Program → Program
  | _, [] => []
  | spent, step :: rest =>
      match step.request? with
      | none => step :: trimKept budget spent rest
      | some driver =>
          if driver ∈ keptDrivers then
            if budget < counted spent driver driver then
              trimKept budget (counted spent driver) rest
            else step :: trimKept budget (counted spent driver) rest
          else step :: trimKept budget spent rest

def trim (program : Program) (budget : Int) : Program := trimKept budget (fun _ => 0) program

namespace Steer

variable [ChartLibrary]

/-- `MAX_STEPS` -/
def maxSteps : Nat := 16

/-! ### Look-ahead -/

/-- `PREFERENCE` -/
def preference : List Status :=
  [.ok, .present, .differs, .enoent, .gone, .unreachable, .eio, .error, .absent]

/-- `Restarted`, `GaveUp` and `Seed` -/
def carries : Outcome → Bool
  | .status _ => false
  | _ => true

/-- `nominal`. A frozenset has no order of its own, so any outcome that carries something may come
first; where nothing is allowed there is an `AssertionError`. -/
def nominals (model : Model) (step : Step) : Finset Outcome :=
  let allowed := model.expect step
  let carried := allowed.outcomes.filter fun outcome => carries outcome
  if allowed.anything then
    match step with
    | .storage (.arm ..) | .storage (.corrupt ..) => {.status .present}
    | _ => {.status .ok}
  else if carried ≠ ∅ then carried
  else
    match preference.find? fun status => .status status ∈ allowed.outcomes with
    | some status => {.status status}
    | none => ∅

/-- `advance`, on the outcome it assumes. -/
structure Advance (model : Model) (step : Step) (outcome : Outcome) (next : Model) : Prop where
  assumed : outcome ∈ nominals model step
  stepped : model.after step outcome = some next

/-! ### Strategies -/

abbrev Toward := Model → Step → Prop

/-- `held` -/
def held (model : Model) : List FileNumber :=
  (List.finRange files).filter fun file =>
    (model.storage.file file).state = .held ∨ (model.storage.file file).state = .corrupt

def requestable (model : Model) : List Driver :=
  drivers.filter fun driver =>
    model.root.up driver = true ∧
      (driver ∉ keptDrivers ∨ (model.root.chart driver).model.spent < model.root.budget)

/-- `enabled`. `_file` weighs the files and leaves out none. -/
inductive Enabled (model : Model) : Step → Prop where
  | put (file : FileNumber) (seed : Fin 256) : Enabled model (.storage (.put file seed))
  | get (file : FileNumber) : Enabled model (.storage (.get file))
  | arm (op : Op) (region : Region) (file : FileNumber) (once : Bool) :
      Enabled model (.storage (.arm op region file once))
  | corrupt (region : Region) (file : FileNumber) : Enabled model (.storage (.corrupt region file))
  | disarm (armed : model.storage.armed ≠ none) : Enabled model (.storage .disarm)
  | fault {driver : Driver} (free : driver ∈ requestable model) (settle : Bool) :
      Enabled model (.root (.fault driver settle))
  | restart {driver : Driver} (free : driver ∈ requestable model) (settle : Bool) :
      Enabled model (.root (.restart driver settle))
  | ping : Enabled model (.net .ping)
  | unplug (ms : Fin 1501) : Enabled model (.net (.unplug ms))
  | pause (ms : Fin 1001) : Enabled model (.net (.pause ms))
  | reset (mounts : model.storage.damaged = false) : Enabled model .reset
  | crashPut (mounts : model.storage.damaged = false) (file : FileNumber) (seed : Fin 256)
      (afterMs : Fin 201) : Enabled model (.crashPut file seed afterMs)

inductive Writes (model : Model) : Step → Prop where
  | put (file : FileNumber) (seed : Fin 256) : Writes model (.storage (.put file seed))

inductive Gets (model : Model) : Step → Prop where
  | get (file : FileNumber) : Gets model (.storage (.get file))

/-- `_workload` -/
def Workload : Toward := fun model step => Gets model step ∨ Writes model step

/-- `_aimed` -/
def Aimed (make : FileNumber → Step → Prop) : Toward := fun model step =>
  if held model ≠ [] then ∃ file ∈ held model, make file step else Writes model step

inductive ReadFault (file : FileNumber) : Step → Prop where
  | arm (once : Bool) : ReadFault file (.storage (.arm .read .data file once))

inductive MetadataWriteFault (file : FileNumber) : Step → Prop where
  | fat (once : Bool) : MetadataWriteFault file (.storage (.arm .write .fat file once))
  | entry (once : Bool) : MetadataWriteFault file (.storage (.arm .write .entry file once))

inductive DataCorruption (file : FileNumber) : Step → Prop where
  | corrupt : DataCorruption file (.storage (.corrupt .data file))

/-- The drivers `faults_to` aims at: those that are up, or all where none is. -/
def live (which : List Driver) (model : Model) : List Driver :=
  let up := which.filter model.root.up
  if up ≠ [] then up else which

def FaultsTo (which : List Driver) (settle : Bool) : Toward := fun model step =>
  ∃ driver ∈ live which model, step = .root (.fault driver settle)

/-- `_in_window` -/
def InWindow : Toward := fun model =>
  let recovering := drivers.filter model.root.recovering
  FaultsTo (if recovering ≠ [] then recovering else [.blk, .eth]) true model

inductive Resets (model : Model) : Step → Prop where
  | reset : Resets model .reset

/-! ### Scenarios -/

/-- Where a scenario is: it has returned, or draws from a strategy next. -/
inductive Point where
  | returned
  | drawing (choose : Toward)

/-- From a model, the steps drawn so far, the model they lead to, and where that is. -/
abbrev Scenario := Model → List Step → Model → Point → Prop
abbrev Goal := Model → Prop

/-- `anything` -/
inductive Anything : Nat → Scenario where
  | stop {left : Nat} {model : Model} : Anything left model [] model .returned
  | draw {left : Nat} {model : Model} : Anything (left + 1) model [] model (.drawing Enabled)
  | step {left : Nat} {model next last : Model} {step : Step} {outcome : Outcome}
      {steps : List Step} {point : Point} (drawn : Enabled model step)
      (advanced : Advance model step outcome next) (rest : Anything left next steps last point) :
      Anything (left + 1) model (step :: steps) last point

inductive Then (choose : Toward) : Scenario where
  | draw {model : Model} : Then choose model [] model (.drawing choose)
  | one {model next : Model} {step : Step} {outcome : Outcome} (drawn : choose model step)
      (advanced : Advance model step outcome next) : Then choose model [step] next .returned

/-- One pass of the outer loop of `reach`, with so many turns left. A turn draws from one of the
strategies. -/
inductive Phase (goal : Goal) (strategies : List Toward) : Nat → Scenario where
  | there {left : Nat} {model : Model} (reached : goal model) :
      Phase goal strategies left model [] model .returned
  | spent {model : Model} : Phase goal strategies 0 model [] model .returned
  | draw {left : Nat} {model : Model} {choose : Toward} (missing : ¬goal model)
      (listed : choose ∈ strategies) :
      Phase goal strategies (left + 1) model [] model (.drawing choose)
  | step {left : Nat} {model next last : Model} {choose : Toward} {step : Step}
      {outcome : Outcome} {steps : List Step} {point : Point} (missing : ¬goal model)
      (listed : choose ∈ strategies) (drawn : choose model step)
      (advanced : Advance model step outcome next)
      (rest : Phase goal strategies left next steps last point) :
      Phase goal strategies (left + 1) model (step :: steps) last point

/-- A mixed turn draws any enabled step, or one from the strategy. -/
def mixed (toward : Toward) : List Toward := [Enabled, toward]

/-- `chain` -/
def chain : List Scenario → Scenario
  | [] => fun model steps last point => steps = [] ∧ last = model ∧ point = .returned
  | part :: parts => fun model steps last point =>
      (∃ choose, part model steps last (.drawing choose) ∧ point = .drawing choose) ∨
        ∃ first mid second, part model first mid .returned ∧
          chain parts mid second last point ∧ steps = first ++ second

/-- `reach`. A goal that the first pass reached ends the second at once. -/
def reach (goal : Goal) (toward : Toward) (bound : Nat) : Scenario :=
  chain [Phase goal (mixed toward) bound, Phase goal [toward] bound]

/-- `_repeat` -/
def repeated (scenario : Scenario) (times : Nat) : Scenario := chain (List.replicate times scenario)

def hasFile : Goal := fun model => held model ≠ []

def gone (driver : Driver) : Goal := fun model => model.root.up driver = false

inductive ScenarioName where
  | latent | corruptHeal | writeFault | recoverThenFault | exhaust | reboot | mixed
  deriving DecidableEq, Repr

/-- `SCENARIOS` -/
def scenarios : ScenarioName → Scenario
  | .latent => chain [reach hasFile Writes 4, Then (Aimed ReadFault), repeated (Then Workload) 3]
  | .corruptHeal =>
      chain [reach hasFile Writes 4, Then (Aimed DataCorruption), Then Gets, Then Writes, Then Gets]
  | .writeFault =>
      chain [reach hasFile Writes 4, Then (Aimed MetadataWriteFault), repeated (Then Workload) 4]
  | .recoverThenFault =>
      chain [Then (FaultsTo [.blk, .eth] false), Then InWindow, Anything 2,
        Then (FaultsTo [.blk, .eth] true), Anything 2]
  | .exhaust => chain [reach (gone .blk) (FaultsTo [.blk] true) 10, repeated (Then Workload) 3]
  | .reboot =>
      chain [reach hasFile Writes 4, repeated (Then (FaultsTo [.blk] true)) 2, Then Resets,
        repeated (Then Workload) 2, Then (FaultsTo [.blk] true)]
  | .mixed => Anything 12

/-- `programs`, of the steps a scenario drew. -/
def programOf (steps : List Step) (budget : Int) : Program := trim (steps.take maxSteps) budget

end Steer

end Chrysopolis.Testbed.Faults
