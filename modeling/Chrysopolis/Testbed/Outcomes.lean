import Chrysopolis.Testbed.Rootlog
import Mathlib.Data.Finset.Basic

/-! `outcomes.py`, and the regions of `fatlayout.py`: what a step of a fault program can be
seen to do. -/

set_option autoImplicit false

namespace Chrysopolis.Testbed.Faults

inductive Status where
  | ok | eio | error | enoent | differs | gone | present | absent | unreachable
  deriving DecidableEq, Repr

inductive Outcome where
  | status (status : Status)
  /-- A file read back whole, every byte `value`. -/
  | seed (value : Int)
  | restarted (path : RestartPath) (count : Int)
  | gaveUp (reason : String)
  deriving DecidableEq, Repr

/-- `Region` and `REGIONS` -/
inductive Region where
  | data | fat | entry
  deriving DecidableEq, Repr

instance region_lawfulBEq : LawfulBEq (Option Region) := inferInstance

def regions : List Region := [.data, .fat, .entry]

/-- The fault's direction, on the guest's reads or writes. -/
inductive Op where
  | read | write
  deriving DecidableEq, Repr

/-- `FILES` -/
abbrev files : Nat := 4

end Chrysopolis.Testbed.Faults
