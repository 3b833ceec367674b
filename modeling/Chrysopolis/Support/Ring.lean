import Mathlib.Data.List.Basic
import Mathlib.Data.Nat.ModEq

/-! Rings of the newest entries of a log. Entry `number` of the log is kept in
slot `number % capacity` until a later entry takes it, so the slots read oldest
first spell the tail of the log. -/

set_option autoImplicit false

namespace Chrysopolis.Support.Ring

variable {α β : Type}

/-- The slots in use after `length` entries, oldest first. -/
def window (capacity length : Nat) : List Nat :=
  let live := min length capacity
  (List.range live).map fun n => (length - live + n) % capacity

/-- Every entry not yet overwritten is in its slot. -/
def Holds (capacity : Nat) (slotHolds : Nat → α → Prop) (log : List α) : Prop :=
  ∀ (number : Nat) (bound : number < log.length), log.length ≤ number + capacity →
    slotHolds (number % capacity) log[number]

theorem mem_window {capacity length slot : Nat} (member : slot ∈ window capacity length) :
    ∃ number, number < length ∧ length ≤ number + capacity ∧ slot = number % capacity := by
  obtain ⟨n, live, rfl⟩ := List.mem_map.mp member
  rw [List.mem_range] at live
  exact ⟨length - min length capacity + n, by omega, by omega, rfl⟩

/-- A slot in use holds an entry of the log. -/
theorem Holds.of_mem_window {capacity slot : Nat} {slotHolds : Nat → α → Prop} {log : List α}
    (ring : Holds capacity slotHolds log) (member : slot ∈ window capacity log.length) :
    ∃ entry ∈ log, slotHolds slot entry := by
  obtain ⟨number, bound, recent, rfl⟩ := mem_window member
  exact ⟨log[number], List.getElem_mem bound, ring number bound recent⟩

/-- The slots in use, decoded oldest first, are the last entries of the log. -/
theorem Holds.map_window {capacity : Nat} {slotHolds : Nat → α → Prop} {log : List α}
    (ring : Holds capacity slotHolds log) (decode : Nat → β) (encode : α → β)
    (reads : ∀ slot entry, slotHolds slot entry → decode slot = encode entry) :
    (window capacity log.length).map decode =
      (log.drop (log.length - min log.length capacity)).map encode := by
  apply List.ext_getElem
  · simp only [window, List.length_map, List.length_range, List.length_drop]
    omega
  · intro n left right
    simp only [window, List.length_map, List.length_range] at left
    have entry := ring (log.length - min log.length capacity + n) (by omega) (by omega)
    simp only [window, List.getElem_map, List.getElem_range, List.getElem_drop]
    exact reads _ _ entry

/-- Entries less than one turn apart are in different slots. -/
theorem slot_ne {capacity early late : Nat} (order : early < late)
    (turn : late < early + capacity) : late % capacity ≠ early % capacity := by
  intro same
  have apart : (late - early) % capacity = 0 := Nat.sub_mod_eq_zero_of_mod_eq same
  rw [Nat.mod_eq_of_lt (by omega)] at apart
  omega

/-- Appending writes the new entries' slots and keeps the others. -/
theorem Holds.append {capacity : Nat} {before after : Nat → α → Prop} {log new : List α}
    (positive : 0 < capacity) (ring : Holds capacity before log)
    (written : ∀ (index : Nat) (bound : index < new.length),
      new.length ≤ index + capacity → after ((log.length + index) % capacity) new[index])
    (kept : ∀ slot < capacity, ∀ entry,
      (∀ index < new.length, (log.length + index) % capacity ≠ slot) →
        before slot entry → after slot entry) :
    Holds capacity after (log ++ new) := by
  intro number bound recent
  rw [List.length_append] at bound recent
  by_cases old : number < log.length
  · rw [List.getElem_append_left old]
    refine kept _ (Nat.mod_lt _ positive) _ ?_ ?_
    · intro index inNew
      exact slot_ne (by omega) (by omega)
    · exact ring number old (by omega)
  · have place : log.length + (number - log.length) = number := by omega
    have entry := written (number - log.length) (by omega) (by omega)
    rw [List.getElem_append_right (Nat.not_lt.mp old)]
    rw [place] at entry
    exact entry

end Chrysopolis.Support.Ring
