import Chrysopolis.Testbed.Lineage
import Chrysopolis.Testbed.Steer

/-! `check` of `inject.py`, the rest of `lineage.py`, and `ldfi.py`: run a program, cut each of its
successes, and run what that gives, breadth first. -/

set_option autoImplicit false

namespace Chrysopolis.Testbed.Faults

open Chrysopolis.Support

/-! ### One run -/

/-- Each step that was performed, its outcome and the model before it. -/
abbrev Trace := List (Step × Outcome × Model)

/-- `check` from its `n`-th step on, of what the machine does at each: nothing where the console
failed or a deadline passed. The trace is what `observe` saw, the model the one that is returned. -/
def check [ChartLibrary] (performed : Nat → Option Outcome) :
    Nat → Model → Program → Trace × Option Model
  | _, model, [] => ([], some model)
  | n, model, step :: rest =>
      match performed n with
      | none => ([], none)
      | some seen =>
          if (model.expect step).anything ∨ seen ∈ (model.expect step).outcomes then
            match model.after step seen with
            | none => ([(step, seen, model)], none)
            | some next =>
                let checked := check performed (n + 1) next rest
                ((step, seen, model) :: checked.1, checked.2)
          else ([(step, seen, model)], none)

/-- Why a run failed. -/
inductive Failure where
  /-- The console failed, a deadline passed, or an outcome was not allowed. -/
  | scenario
  /-- Root's ring disagrees with its console. -/
  | ring (problems : List Problem)
  deriving DecidableEq, Repr

structure Run where
  trace : Trace
  failure : Option Failure

/-- What one machine does: whether it comes up as far as its first ring summary, what it performs,
and the events read back after the last step. -/
structure Machine where
  up : Bool
  performed : Nat → Option Outcome
  events : Option (List RootlogEvent)

/-- The answers of Root in a trace. -/
def rootAnswer : Step × Outcome × Model → Option (Testbed.Step × Testbed.Outcome)
  | (.root request, seen, _) => do
      let answer ← match seen with
        | .restarted path count => some (Testbed.Outcome.restarted path count.toNat)
        | .gaveUp reason => some (.gaveUp reason)
        | .status .gone => some .gone
        | _ => none
      return match request with
        | .fault driver _ => (.fault driver, answer)
        | .restart driver _ => (.restart driver, answer)
  | _ => none

namespace Ldfi

/-- `RECOVERABLE` -/
def recoverable : List Driver := [.blk, .eth]

/-- `execute` -/
def execute [ChartLibrary] (driverBudget : Int) (machine : Machine) (program : Program) : Run :=
  if !machine.up then ⟨[], some .scenario⟩
  else
    let (trace, last) := check machine.performed 0 (.start driverBudget) program
    match last, machine.events with
    | some _, some events =>
        let children := recoverable.map fun driver => (driver, driver.child.val)
        match disagreements (trace.filterMap rootAnswer) events children with
        | [] => ⟨trace, none⟩
        | problems => ⟨trace, some (.ring problems)⟩
    | _, _ => ⟨trace, some .scenario⟩

end Ldfi

/-! ### The cuts of a run -/

def succeeded : Step → Outcome → Bool
  | _, .status .ok => true
  | .storage (.get _), .seed _ => true
  | _, _ => false

/-- `edit`, where the program has the step. -/
def edit (program : Program) (index : Nat) (hit : Finset Atom) (model : Model) : Option Program :=
  program[index]?.map fun step =>
    let (before, after) := cut hit step model
    program.take index ++ before ++ step :: after ++ program.drop (index + 1)

/-- `candidates`: for every success in a run, each minimal cut and the program it gives. -/
def candidates (program : Program) (trace : Trace) : List (Nat × Finset Atom × Program) :=
  trace.zipIdx.flatMap fun ((step, seen, before), index) =>
    if succeeded step seen then
      (hittingSets (lineage step before)).filterMap fun hit =>
        if hit = ∅ then none
        else (edit program index hit before).map fun edited => (index, hit, edited)
    else []

namespace Ldfi

/-- `MAX_STEPS` -/
def maxSteps : Nat := 32

/-- `describe`; the second part of the key is `sorted(map(repr, hit))`. -/
def describe (hit : Finset Atom) : String := ", ".intercalate (ofLex (reprKey hit)).2

/-- A program in the queue, the cut that gave it, and the run it was cut from. -/
structure Node where
  program : Program
  cut : String
  parent : Option Nat

/-- A line of `ldfi.jsonl`. -/
structure Record where
  run : Nat
  parent : Option Nat
  cut : String
  program : Program
  outcomes : List (Step × Outcome)
  failure : Option Failure

structure Search where
  queue : List Node
  tried : List Program := []
  report : List Record := []
  corpus : List (String × Program) := []

def seedNode (program : Program) : Node := { program, cut := "seed", parent := none }

/-- What a passing run adds to the queue. -/
def cuts (perRun number : Nat) (program : Program) (trace : Trace) : List Node :=
  ((candidates program trace).take perRun).filterMap fun (_, hit, edited) =>
    if edited.length ≤ maxSteps then
      some { program := edited, cut := describe hit, parent := some number }
    else none

/-- The body of the loop of `explore` for the program it takes. -/
def Search.visit (search : Search) (perRun number : Nat) (node : Node) (rest : List Node)
    (run : Run) : Search :=
  { queue := rest ++ if run.failure.isSome then [] else cuts perRun number node.program run.trace
    tried := node.program :: search.tried
    report := search.report ++ [{
      run := number
      parent := node.parent
      cut := node.cut
      program := node.program
      outcomes := run.trace.map fun (step, seen, _) => (step, seen)
      failure := run.failure }]
    corpus := search.corpus ++ if run.failure.isSome then [(node.cut, node.program)] else [] }

/-- The loop, with so many boots left: what was tried is dropped, and the next program is run. -/
def Search.loop (runs : Nat → Program → Run) (perRun : Nat) : Nat → Nat → Search → Search
  | 0, _, search => search
  | left + 1, number, search =>
      match search.queue.dropWhile fun node => node.program ∈ search.tried with
      | [] => { search with queue := [] }
      | node :: rest =>
          (search.visit perRun number node rest (runs number node.program)).loop runs perRun
            left (number + 1)

/-- `explore`, of what each boot does with the program it is given. -/
def explore (runs : Nat → Program → Run) (boots perRun : Nat) (seeds : List Program) : Search :=
  Search.loop runs perRun boots 0 { queue := seeds.map seedNode }

end Ldfi

end Chrysopolis.Testbed.Faults
