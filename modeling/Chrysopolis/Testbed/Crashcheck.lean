import Chrysopolis.Testbed.Faults
import Mathlib.Data.Finset.Card

/-! `crashcheck.py`: what each file of a workload may hold after a crash at a point in its
write log, and what it must. -/

set_option autoImplicit false

namespace Chrysopolis.Testbed.Crashcheck

open Faults

/-- A step and the stretch of the write log it produced. -/
structure Span where
  step : Faults.Step
  outcome : Faults.Outcome
  start : Nat
  stop : Nat
  deriving DecidableEq

/-- What a crash image holds for one file: a whole file of one seed, no entry, an empty entry,
other bytes, or an entry on clusters the FAT lacks. -/
inductive Content where
  | seed (value : Nat)
  | absent | empty | garbage | broken
  deriving DecidableEq, Repr

/-- `frozenset[Content] | None`, with `none` for anything. -/
abbrev May := Option (Finset Content)

/-- The dictionary `files` of `allowed`. -/
abbrev Files := FileNumber → Option May

/-- `files.get(f, frozenset({"absent"}))` -/
def Files.get (files : Files) (f : FileNumber) : May := (files f).getD (some {.absent})

/-- The write of a span that may be in flight. -/
def inFlight (files : Files) (f : FileNumber) (seed : Fin 256) : May :=
  (files.get f).map (· ∪ {.empty, .seed seed})

/-- One turn of the loop of `allowed`. -/
def allowSpan (stable crash : Nat) (files : Files) (span : Span) : Files :=
  if span.start ≥ crash then files
  else match span.step with
    | .storage (.put f seed) =>
        if span.outcome ≠ .status .ok then Function.update files f (some none)
        else if span.stop ≤ stable then Function.update files f (some (some {.seed seed}))
        else Function.update files f (some (inFlight files f seed))
    | .crashPut f seed _ => Function.update files f (some (inFlight files f seed))
    | _ => files

def allowed (spans : List Span) (stable : Nat) (crash : Option Nat := none) : Files :=
  spans.foldl (allowSpan stable (crash.getD stable)) fun _ => none

theorem unique_of_card {contents : Finset Content} (single : contents.card = 1) :
    ∃! content, content ∈ contents ∧ True := by
  obtain ⟨content, rfl⟩ := Finset.card_eq_one.mp single
  exact ⟨content, ⟨Finset.mem_singleton_self content, trivial⟩, fun _ held =>
    Finset.mem_singleton.mp held.1⟩

/-- `next(iter(may)) if may is not None and len(may) == 1 else None` -/
def only (may : May) : Option Content := do
  let contents ← may
  if single : contents.card = 1 then
    some (contents.choose (fun _ => True) (unique_of_card single))
  else none

/-- `only if isinstance(only, int) else None` -/
def seed? : Content → Option Nat
  | .seed value => some value
  | _ => none

def durable (spans : List Span) (stable : Nat) (crash : Option Nat := none) :
    FileNumber → Option (Option Nat) :=
  fun f => (allowed spans stable crash f).map fun may => (only may).bind seed?

end Chrysopolis.Testbed.Crashcheck
