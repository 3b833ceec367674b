import Mathlib.Data.List.Defs

/-! Items that fill a range of positions, each where the one before it stops. -/

set_option autoImplicit false

namespace Chrysopolis.Support

variable {α : Type} {start length : α → Nat}

/-- The items from a position fill the range up to another. -/
def Tiles (start length : α → Nat) (stop : Nat) : Nat → List α → Prop
  | position, [] => position = stop
  | position, item :: rest =>
      start item = position ∧ Tiles start length stop (position + length item) rest

/-- An item holds a position. -/
def Holds (start length : α → Nat) (position : Nat) (item : α) : Prop :=
  start item ≤ position ∧ position < start item + length item

theorem tiles_map {β : Type} {item : β → α} {stop position : Nat} {items : List β} :
    Tiles start length stop position (items.map item) ↔
      Tiles (fun other => start (item other)) (fun other => length (item other)) stop position
        items := by
  induction items generalizing position with
  | nil => exact Iff.rfl
  | cons other rest ih =>
      rw [List.map_cons, Tiles, Tiles, ih]

namespace Tiles

variable {stop position : Nat} {items : List α}

theorem congr {start' length' : α → Nat}
    (same : ∀ item ∈ items, start item = start' item ∧ length item = length' item) :
    Tiles start length stop position items ↔ Tiles start' length' stop position items := by
  induction items generalizing position with
  | nil => exact Iff.rfl
  | cons item rest ih =>
      obtain ⟨first, others⟩ := List.forall_mem_cons.mp same
      rw [Tiles, Tiles, first.1, first.2, ih others]

theorem le (tiles : Tiles start length stop position items) : position ≤ stop := by
  induction items generalizing position with
  | nil => exact Nat.le_of_eq tiles
  | cons item rest ih => exact Nat.le_trans (Nat.le_add_right position _) (ih tiles.2)

theorem within (tiles : Tiles start length stop position items) {item : α}
    (listed : item ∈ items) :
    position ≤ start item ∧ start item + length item ≤ stop := by
  induction items generalizing position with
  | nil => cases listed
  | cons first rest ih =>
      obtain ⟨placed, tiles⟩ := tiles
      rcases List.mem_cons.mp listed with rfl | later
      · exact ⟨Nat.le_of_eq placed.symm, placed ▸ tiles.le⟩
      · obtain ⟨lower, upper⟩ := ih tiles later
        exact ⟨Nat.le_trans (Nat.le_add_right position _) lower, upper⟩

/-- Every position of the range is held by one item and by no other. -/
theorem holder (tiles : Tiles start length stop position items) {place : Nat}
    (lower : position ≤ place) (upper : place < stop) :
    ∃ before item after, items = before ++ item :: after ∧ Holds start length place item ∧
      ∀ other ∈ before ++ after, ¬Holds start length place other := by
  induction items generalizing position with
  | nil =>
      have same : position = stop := tiles
      omega
  | cons item rest ih =>
      obtain ⟨placed, tiles⟩ := tiles
      by_cases inside : place < position + length item
      · refine ⟨[], item, rest, rfl, ⟨placed ▸ lower, placed ▸ inside⟩, ?_⟩
        intro other listed held
        have later := (tiles.within (by simpa using listed)).1
        have := held.1
        omega
      · obtain ⟨before, owner, after, rfl, held, alone⟩ := ih tiles (Nat.le_of_not_lt inside)
        refine ⟨item :: before, owner, after, rfl, held, ?_⟩
        refine List.forall_mem_cons.mpr ⟨?_, alone⟩
        intro held
        exact inside (placed ▸ held.2)

end Tiles

end Chrysopolis.Support
