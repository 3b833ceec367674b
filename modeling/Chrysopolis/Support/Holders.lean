import Mathlib.Logic.Function.Basic
import Mathlib.Logic.ExistsUnique

/-! Names that are each held at one place while they are live. A name is taken when it becomes
live and let go of when it dies. -/

set_option autoImplicit false

namespace Chrysopolis.Support.Holders

variable {Place Name : Type}

/-- The live names are held at one place each, and no other name is. -/
structure Holds (held : Place → Option Name) (live : Name → Prop) : Prop where
  alive : ∀ place name, held place = some name → live name
  covered : ∀ name, live name → ∃ place, held place = some name
  once : ∀ first second name, held first = some name → held second = some name → first = second

variable {held : Place → Option Name} {live after : Name → Prop} {place : Place} {name : Name}

theorem Holds.existsUnique (holds : Holds held live) (alive : live name) :
    ∃! place, held place = some name :=
  let ⟨place, holder⟩ := holds.covered name alive
  ⟨place, holder, fun other same => holds.once other place name same holder⟩

theorem Holds.congr (holds : Holds held live) (same : ∀ other, after other ↔ live other) :
    Holds held after where
  alive place name holder := (same name).mpr (holds.alive place name holder)
  covered name alive := holds.covered name ((same name).mp alive)
  once := holds.once

variable [DecidableEq Place]

/-- A name that becomes live is taken at a vacant place. -/
theorem Holds.take (holds : Holds held live) (vacant : held place = none) (fresh : ¬live name)
    (same : ∀ other, after other ↔ other = name ∨ live other) :
    Holds (Function.update held place (some name)) after := by
  have elsewhere {other : Place} (holder : held other = some name) : False :=
    fresh (holds.alive other name holder)
  refine ⟨fun other value holder => ?_, fun value alive => ?_, fun first second value => ?_⟩
  · rw [Function.update_apply] at holder
    split at holder
    · cases holder
      exact (same name).mpr (.inl rfl)
    · exact (same value).mpr (.inr (holds.alive other value holder))
  · rcases (same value).mp alive with rfl | older
    · exact ⟨place, Function.update_self ..⟩
    · obtain ⟨other, holder⟩ := holds.covered value older
      have apart : other ≠ place := fun same => nomatch (same ▸ holder).symm.trans vacant
      exact ⟨other, (Function.update_of_ne apart ..).trans holder⟩
  · simp only [Function.update_apply]
    intro left right
    split at left <;> split at right
    · next here there => exact here.trans there.symm
    · cases left
      exact (elsewhere right).elim
    · cases right
      exact (elsewhere left).elim
    · exact holds.once first second value left right

/-- A name that dies is let go of where it was held. -/
theorem Holds.release (holds : Holds held live) (holder : held place = some name)
    (same : ∀ other, after other ↔ other ≠ name ∧ live other) :
    Holds (Function.update held place none) after := by
  refine ⟨fun other value kept => ?_, fun value alive => ?_, fun first second value => ?_⟩
  · rw [Function.update_apply] at kept
    split at kept
    · cases kept
    · next apart =>
      refine (same value).mpr ⟨?_, holds.alive other value kept⟩
      rintro rfl
      exact apart (holds.once other place value kept holder)
  · obtain ⟨apart, older⟩ := (same value).mp alive
    obtain ⟨other, kept⟩ := holds.covered value older
    have elsewhere : other ≠ place := by
      rintro rfl
      exact apart (Option.some.inj (kept.symm.trans holder))
    exact ⟨other, (Function.update_of_ne elsewhere ..).trans kept⟩
  · simp only [Function.update_apply]
    intro left right
    split at left
    · cases left
    split at right
    · cases right
    exact holds.once first second value left right

end Chrysopolis.Support.Holders
