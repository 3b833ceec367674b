import Mathlib.Data.List.Basic

/-! Circular buffers kept as the place of the oldest entry and a count. What they hold, and
what a span written behind it or taken off its front does to it. -/

set_option autoImplicit false

namespace Chrysopolis.Support.Circular

variable {α : Type} {capacity head length count : Nat} {slots : Nat → α}

/-- The entries in use, oldest first. -/
def contents (capacity : Nat) (slots : Nat → α) (head length : Nat) : List α :=
  (List.range length).map fun count => slots ((head + count) % capacity)

@[simp] theorem length_contents : (contents capacity slots head length).length = length := by
  rw [contents, List.length_map, List.length_range]

@[simp] theorem contents_zero : contents capacity slots head 0 = [] := rfl

/-- A span written past the newest entry is appended. -/
theorem contents_append {after : Nat → α} {new : List α}
    (kept : ∀ count < length,
      after ((head + count) % capacity) = slots ((head + count) % capacity))
    (written : ∀ (index : Nat) (bound : index < new.length),
      after ((head + (length + index)) % capacity) = new[index]) :
    contents capacity after head (length + new.length) =
      contents capacity slots head length ++ new := by
  apply List.ext_getElem
  · rw [List.length_append, length_contents, length_contents]
  · intro index left right
    rw [length_contents] at left
    by_cases old : index < length
    · rw [List.getElem_append_left (by rwa [length_contents])]
      simpa [contents] using kept index old
    · have place : length + (index - length) = index := by omega
      have entry := written (index - length) (by omega)
      rw [place] at entry
      rw [List.getElem_append_right (by rw [length_contents]; omega)]
      simpa [contents] using entry

/-- Moving the head past the oldest entries drops them. -/
theorem contents_drop :
    contents capacity slots ((head + count) % capacity) (length - count) =
      (contents capacity slots head length).drop count := by
  apply List.ext_getElem
  · rw [List.length_drop, length_contents, length_contents]
  · intro index left right
    simp only [contents, List.getElem_map, List.getElem_range, List.getElem_drop,
      Nat.mod_add_mod, Nat.add_assoc]

/-- The oldest entries up to the end of the slots lie side by side. -/
theorem contents_take (held : count ≤ length) (flat : head + count ≤ capacity) :
    (contents capacity slots head length).take count =
      (List.range count).map fun place => slots (head + place) := by
  apply List.ext_getElem
  · rw [List.length_take, length_contents, List.length_map, List.length_range]
    exact Nat.min_eq_left held
  · intro index left right
    rw [List.length_map, List.length_range] at right
    simp only [contents, List.getElem_map, List.getElem_range, List.getElem_take]
    rw [Nat.mod_eq_of_lt (by omega)]

end Chrysopolis.Support.Circular
