import Chrysopolis.Support.ByteMemory

/-! Records at fixed byte spans. A layout places fields that never overlap, so
storing some of them changes exactly those and a batch without contradictory
assignments is coherent. -/

set_option autoImplicit false

namespace Chrysopolis.Support

/-- Disjoint little-endian fields of one record. -/
structure Layout (φ : Type) where
  address : φ → Nat
  width : φ → Nat
  apart : ∀ left right, left ≠ right →
    address left + width left ≤ address right ∨ address right + width right ≤ address left

namespace Layout

variable {φ : Type} (layout : Layout φ)

/-- The number a field holds. -/
def read (memory : Memory) (field : φ) : Nat :=
  memory.load (layout.address field) (layout.width field)

/-- The stores of field assignments, in order. -/
def stores (assignments : List (φ × Nat)) : List Store :=
  assignments.map fun assignment =>
    { address := layout.address assignment.1
      width := layout.width assignment.1
      value := assignment.2 }

/-- Assign fields in order. -/
def assign (memory : Memory) (assignments : List (φ × Nat)) : Memory :=
  memory.store (layout.stores assignments)

/-- No field is assigned two values. -/
def Agree (assignments : List (φ × Nat)) : Prop :=
  ∀ left ∈ assignments, ∀ right ∈ assignments, left.1 = right.1 → left.2 = right.2

@[simp] theorem assign_nil (memory : Memory) : layout.assign memory [] = memory := rfl

theorem stores_append (first second : List (φ × Nat)) :
    layout.stores (first ++ second) = layout.stores first ++ layout.stores second := by
  simp [stores]

theorem assign_append (memory : Memory) (first second : List (φ × Nat)) :
    layout.assign memory (first ++ second) =
      layout.assign (layout.assign memory first) second := by
  simp only [assign, stores_append, Memory.store_append]

theorem stores_coherent {assignments : List (φ × Nat)} (agree : Agree assignments) :
    Memory.Coherent (layout.stores assignments) := by
  intro left leftIn right rightIn
  obtain ⟨first, firstIn, rfl⟩ := List.mem_map.mp leftIn
  obtain ⟨second, secondIn, rfl⟩ := List.mem_map.mp rightIn
  by_cases same : first.1 = second.1
  · exact .inl (by rw [same, agree first firstIn second secondIn same])
  · exact .inr (layout.apart _ _ same)

/-- An assigned field reads back its value. -/
theorem read_assign_of_mem (memory : Memory) {assignments : List (φ × Nat)}
    (agree : Agree assignments) {field : φ} {value : Nat}
    (member : (field, value) ∈ assignments) :
    layout.read (layout.assign memory assignments) field =
      value % 256 ^ layout.width field := by
  have stored : Store.mk (layout.address field) (layout.width field) value ∈
      layout.stores assignments :=
    List.mem_map.mpr ⟨(field, value), member, rfl⟩
  exact Memory.load_store_of_mem memory (layout.stores_coherent agree) stored

/-- A field that is not assigned keeps its value. -/
theorem read_assign_other (memory : Memory) (assignments : List (φ × Nat)) {field : φ}
    (untouched : ∀ assignment ∈ assignments, assignment.1 ≠ field) :
    layout.read (layout.assign memory assignments) field = layout.read memory field := by
  apply Memory.load_store_other
  intro item member
  obtain ⟨assignment, assigned, rfl⟩ := List.mem_map.mp member
  exact layout.apart _ _ (untouched assignment assigned).symm

/-- Every assignment takes its value from one table. -/
def Values (value : φ → Nat) (assignments : List (φ × Nat)) : Prop :=
  ∀ assignment ∈ assignments, assignment.2 = value assignment.1

theorem Values.agree {value : φ → Nat} {assignments : List (φ × Nat)}
    (values : Values value assignments) : Agree assignments := by
  intro left leftIn right rightIn same
  rw [values left leftIn, values right rightIn, same]

/-- A field of a table assigned by a batch reads the table's value. -/
theorem read_assign_value (memory : Memory) {value : φ → Nat} {assignments : List (φ × Nat)}
    (values : Values value assignments) {field : φ}
    (assigned : ∃ stored, (field, stored) ∈ assignments) :
    layout.read (layout.assign memory assignments) field =
      value field % 256 ^ layout.width field := by
  obtain ⟨stored, member⟩ := assigned
  have same : stored = value field := values _ member
  rw [layout.read_assign_of_mem memory values.agree member, same]

/-- A field reads the table's value when assigned, else what it read before. -/
theorem read_assign_cases (memory : Memory) {value : φ → Nat} {assignments : List (φ × Nat)}
    (values : Values value assignments) (field : φ) :
    layout.read (layout.assign memory assignments) field =
        value field % 256 ^ layout.width field ∨
      layout.read (layout.assign memory assignments) field = layout.read memory field := by
  by_cases assigned : ∃ stored, (field, stored) ∈ assignments
  · exact .inl (layout.read_assign_value memory values assigned)
  · refine .inr (layout.read_assign_other memory assignments fun assignment member same => ?_)
    exact assigned ⟨assignment.2, same ▸ member⟩

/-- Bytes outside every assigned field keep their value. -/
theorem assign_other (memory : Memory) (assignments : List (φ × Nat)) (position : Nat)
    (outside : ∀ assignment ∈ assignments, position < layout.address assignment.1 ∨
      layout.address assignment.1 + layout.width assignment.1 ≤ position) :
    layout.assign memory assignments position = memory position := by
  apply Memory.store_other
  intro item member
  obtain ⟨assignment, assigned, rfl⟩ := List.mem_map.mp member
  exact outside assignment assigned

theorem read_lt (memory : Memory) (field : φ) :
    layout.read memory field < 256 ^ layout.width field :=
  memory.load_lt _ _

end Layout

end Chrysopolis.Support
