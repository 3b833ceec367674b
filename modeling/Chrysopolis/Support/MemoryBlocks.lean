import Chrysopolis.Support.ByteMemory

/-! Blocks of memory copied and filled. A block operation decides its own
range and leaves the rest, so ranges that do not meet read as before. -/

set_option autoImplicit false

namespace Chrysopolis.Support.Memory

/-- `count` bytes from `source` copied to `target`; the ranges do not overlap. -/
def copy (memory : Memory) (target source count : Nat) : Memory := fun position =>
  if target ≤ position ∧ position < target + count then memory (source + (position - target))
  else memory position

/-- `count` bytes from `target` set to zero. -/
def clear (memory : Memory) (target count : Nat) : Memory := fun position =>
  if target ≤ position ∧ position < target + count then 0 else memory position

/-- Two memories have the same bytes in `[first, last)`. -/
def SameOn (first last : Nat) (left right : Memory) : Prop :=
  ∀ position, first ≤ position → position < last → left position = right position

/-- Two memories differ at most in `[first, last)`. -/
def SameOutside (first last : Nat) (left right : Memory) : Prop :=
  ∀ position, position < first ∨ last ≤ position → left position = right position

variable {memory left middle right : Memory} {target source count first last position : Nat}

theorem SameOn.symm (same : SameOn first last left right) : SameOn first last right left :=
  fun position lower upper => (same position lower upper).symm

theorem SameOn.trans (early : SameOn first last left middle)
    (late : SameOn first last middle right) : SameOn first last left right :=
  fun position lower upper => (early position lower upper).trans (late position lower upper)

theorem SameOn.mono {low high : Nat} (same : SameOn first last left right)
    (lower : first ≤ low) (upper : high ≤ last) : SameOn low high left right :=
  fun position above below => same position (lower.trans above) (below.trans_le upper)

theorem SameOn.load {address width : Nat} (same : SameOn first last left right)
    (lower : first ≤ address) (upper : address + width ≤ last) :
    left.load address width = right.load address width :=
  load_congr fun position above below => same position (lower.trans above) (below.trans_le upper)

theorem SameOutside.rfl : SameOutside first last memory memory := fun _ _ => Eq.refl _

theorem SameOutside.trans (early : SameOutside first last left middle)
    (late : SameOutside first last middle right) : SameOutside first last left right :=
  fun position outside => (early position outside).trans (late position outside)

theorem SameOutside.mono {low high : Nat} (same : SameOutside first last left right)
    (lower : low ≤ first) (upper : last ≤ high) : SameOutside low high left right :=
  fun position outside => same position (by omega)

/-- A range that the changed one does not meet. -/
theorem SameOutside.sameOn {low high : Nat} (same : SameOutside first last left right)
    (apart : high ≤ first ∨ last ≤ low) : SameOn low high left right :=
  fun position above below => same position (by omega)

theorem copy_inside (lower : target ≤ position) (upper : position < target + count) :
    memory.copy target source count position = memory (source + (position - target)) :=
  if_pos ⟨lower, upper⟩

theorem copy_outside :
    SameOutside target (target + count) (memory.copy target source count) memory :=
  fun _ outside => if_neg (by omega)

theorem copy_within (lower : first ≤ target) (upper : target + count ≤ last) :
    SameOutside first last (memory.copy target source count) memory :=
  copy_outside.mono lower upper

theorem clear_inside (lower : target ≤ position) (upper : position < target + count) :
    memory.clear target count position = 0 :=
  if_pos ⟨lower, upper⟩

theorem clear_outside : SameOutside target (target + count) (memory.clear target count) memory :=
  fun _ outside => if_neg (by omega)

theorem store_outside {stores : List Store}
    (inside : ∀ item ∈ stores, first ≤ item.address ∧ item.address + item.width ≤ last) :
    SameOutside first last (memory.store stores) memory := by
  intro position outside
  apply store_other
  intro item member
  have range := inside item member
  omega

/-- A field of a coherent batch whose value fits its width reads back. -/
theorem load_store_field (memory : Memory) {stores : List Store} {address width value : Nat}
    (coherent : Coherent stores) (member : ⟨address, width, value⟩ ∈ stores)
    (small : value < 256 ^ width) : (memory.store stores).load address width = value :=
  (load_store_of_mem memory coherent member).trans (Nat.mod_eq_of_lt small)

end Chrysopolis.Support.Memory
