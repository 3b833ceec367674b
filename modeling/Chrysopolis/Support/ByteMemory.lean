import Mathlib.Logic.Function.Basic
import Mathlib.Data.List.Perm.Basic
import Mathlib.Data.Nat.ModEq

/-! Byte-addressed memory with little-endian words. A batch of stores whose
fields are pairwise equal or disjoint has one result in every order, and every
field of the batch reads back the value it stored. -/

set_option autoImplicit false

namespace Chrysopolis.Support

/-- Memory as its bytes; accesses outside a page never happen in a model. -/
abbrev Memory := Nat → UInt8

namespace Memory

/-- The little-endian number in `width` bytes from `address`. -/
def load (memory : Memory) (address : Nat) : Nat → Nat
  | 0 => 0
  | width + 1 => (memory address).toNat + 256 * load memory (address + 1) width

/-- True when `count` bytes from `address` are zero. -/
def allZero (memory : Memory) (address : Nat) : Nat → Bool
  | 0 => true
  | count + 1 => memory address == 0 && allZero memory (address + 1) count

/-- The `count` bytes from `address`. -/
def bytes (memory : Memory) (address : Nat) : Nat → List UInt8
  | 0 => []
  | count + 1 => memory address :: bytes memory (address + 1) count

/-- Byte writes in program order. -/
def write (memory : Memory) (writes : List (Nat × UInt8)) : Memory :=
  writes.foldl (fun current byte => Function.update current byte.1 byte.2) memory

theorem load_congr {left right : Memory} {address width : Nat}
    (same : ∀ position, address ≤ position → position < address + width →
      left position = right position) :
    left.load address width = right.load address width := by
  induction width generalizing address with
  | zero => rfl
  | succ width ih =>
      have head := same address (Nat.le_refl _) (by omega)
      have tail : left.load (address + 1) width = right.load (address + 1) width :=
        ih fun position lower upper => same position (by omega) (by omega)
      simp only [load, head, tail]

theorem load_lt (memory : Memory) (address width : Nat) :
    memory.load address width < 256 ^ width := by
  induction width generalizing address with
  | zero => simp [load]
  | succ width ih =>
      have head : (memory address).toNat < 256 := (memory address).toNat_lt
      have tail := ih (address + 1)
      simp only [load, Nat.pow_succ]
      omega

@[simp] theorem bytes_length (memory : Memory) (address count : Nat) :
    (memory.bytes address count).length = count := by
  induction count generalizing address with
  | zero => rfl
  | succ count ih => simp only [bytes, List.length_cons, ih]

theorem bytes_add (memory : Memory) (address first second : Nat) :
    memory.bytes address (first + second) =
      memory.bytes address first ++ memory.bytes (address + first) second := by
  induction first generalizing address with
  | zero => rw [Nat.zero_add]; rfl
  | succ first ih =>
      rw [Nat.succ_add, bytes, ih, bytes, Nat.add_assoc address 1 first, Nat.add_comm 1 first]
      rfl

theorem bytes_take (memory : Memory) (address : Nat) {first count : Nat} (within : first ≤ count) :
    (memory.bytes address count).take first = memory.bytes address first := by
  obtain ⟨second, rfl⟩ := Nat.exists_eq_add_of_le within
  rw [bytes_add, List.take_left' (bytes_length ..)]

theorem bytes_drop (memory : Memory) (address : Nat) {first count : Nat} (within : first ≤ count) :
    (memory.bytes address count).drop first = memory.bytes (address + first) (count - first) := by
  obtain ⟨second, rfl⟩ := Nat.exists_eq_add_of_le within
  rw [bytes_add, List.drop_left' (bytes_length ..), Nat.add_sub_cancel_left]

theorem allZero_iff {memory : Memory} {address count : Nat} :
    memory.allZero address count = true ↔
      ∀ position, address ≤ position → position < address + count →
        memory position = 0 := by
  induction count generalizing address with
  | zero => simp only [allZero, true_iff]; intros; omega
  | succ count ih =>
      simp only [allZero, Bool.and_eq_true, beq_iff_eq, ih]
      constructor
      · intro ⟨head, tail⟩ position lower upper
        rcases Nat.eq_or_lt_of_le lower with rfl | later
        · exact head
        · exact tail position later (by omega)
      · intro zero
        exact ⟨zero address (Nat.le_refl _) (by omega),
          fun position lower upper => zero position (by omega) (by omega)⟩

theorem allZero_congr {left right : Memory} {address count : Nat}
    (same : ∀ position, address ≤ position → position < address + count →
      left position = right position) :
    left.allZero address count = right.allZero address count := by
  rw [Bool.eq_iff_iff, allZero_iff, allZero_iff]
  constructor
  · intro zero position lower upper
    rw [← same position lower upper]
    exact zero position lower upper
  · intro zero position lower upper
    rw [same position lower upper]
    exact zero position lower upper

theorem load_eq_zero_of_allZero {memory : Memory} {address width : Nat}
    (zero : memory.allZero address width = true) : memory.load address width = 0 := by
  induction width generalizing address with
  | zero => rfl
  | succ width ih =>
      simp only [allZero, Bool.and_eq_true, beq_iff_eq] at zero
      simp [load, zero.1, ih zero.2]

theorem allZero_of_load_eq_zero {memory : Memory} {address width : Nat}
    (zero : memory.load address width = 0) : memory.allZero address width = true := by
  induction width generalizing address with
  | zero => rfl
  | succ width ih =>
      simp only [load, Nat.add_eq_zero_iff, Nat.mul_eq_zero] at zero
      have byte : memory address = 0 := UInt8.toNat_inj.mp zero.1
      have rest : memory.load (address + 1) width = 0 := zero.2.resolve_left (by decide)
      simp only [allZero, byte, ih rest, beq_self_eq_true, Bool.and_self]

@[simp] theorem write_nil (memory : Memory) : memory.write [] = memory := rfl

theorem write_cons (memory : Memory) (byte : Nat × UInt8) (writes : List (Nat × UInt8)) :
    memory.write (byte :: writes) =
      write (Function.update memory byte.1 byte.2) writes := rfl

theorem write_append (memory : Memory) (first second : List (Nat × UInt8)) :
    memory.write (first ++ second) = (memory.write first).write second :=
  List.foldl_append

theorem write_other (memory : Memory) (writes : List (Nat × UInt8)) (position : Nat)
    (outside : ∀ byte ∈ writes, byte.1 ≠ position) :
    memory.write writes position = memory position := by
  induction writes generalizing memory with
  | nil => rfl
  | cons byte writes ih =>
      rw [write_cons, ih _ fun later member => outside later (.tail _ member)]
      exact Function.update_of_ne (outside byte (.head _)).symm _ _

/-- Writes to one address never disagree about its byte. -/
def Consistent (writes : List (Nat × UInt8)) : Prop :=
  ∀ left ∈ writes, ∀ right ∈ writes, left.1 = right.1 → left.2 = right.2

theorem write_of_mem (memory : Memory) {writes : List (Nat × UInt8)}
    (consistent : Consistent writes) {byte : Nat × UInt8} (member : byte ∈ writes) :
    memory.write writes byte.1 = byte.2 := by
  induction writes generalizing memory byte with
  | nil => simp at member
  | cons head writes ih =>
      have rest : Consistent writes := fun left leftIn right rightIn =>
        consistent left (.tail _ leftIn) right (.tail _ rightIn)
      by_cases later : ∃ other ∈ writes, other.1 = byte.1
      · obtain ⟨other, otherIn, address⟩ := later
        have value := consistent other (.tail _ otherIn) byte member address
        rw [write_cons, ← address, ← value]
        exact ih _ rest otherIn
      · have last : byte = head := by
          rcases List.mem_cons.mp member with rfl | tail
          · rfl
          · exact absurd ⟨byte, tail, rfl⟩ later
        subst last
        rw [write_cons, write_other _ _ _ fun other otherIn address =>
          later ⟨other, otherIn, address⟩]
        exact Function.update_self ..

/-- Consistent byte writes have one result in every order. -/
theorem write_perm (memory : Memory) {writes reordered : List (Nat × UInt8)}
    (consistent : Consistent writes) (order : reordered.Perm writes) :
    memory.write reordered = memory.write writes := by
  have reorderedConsistent : Consistent reordered := fun left leftIn right rightIn =>
    consistent left (order.mem_iff.mp leftIn) right (order.mem_iff.mp rightIn)
  funext position
  by_cases written : ∃ byte ∈ writes, byte.1 = position
  · obtain ⟨byte, member, rfl⟩ := written
    rw [write_of_mem memory consistent member,
      write_of_mem memory reorderedConsistent (order.mem_iff.mpr member)]
  · rw [write_other _ _ _ fun byte member address => written ⟨byte, member, address⟩,
      write_other _ _ _ fun byte member address =>
        written ⟨byte, order.mem_iff.mp member, address⟩]

end Memory

/-- One little-endian store of the low `width` bytes of `value`. -/
structure Store where
  address : Nat
  width : Nat
  value : Nat
  deriving DecidableEq, Repr

namespace Store

/-- The bytes of a little-endian number, lowest first, from `address` on. -/
def leWrites (address value : Nat) : Nat → List (Nat × UInt8)
  | 0 => []
  | width + 1 => (address, UInt8.ofNat value) :: leWrites (address + 1) (value / 256) width

/-- The byte writes of one store. -/
def writes (store : Store) : List (Nat × UInt8) :=
  leWrites store.address store.value store.width

/-- Two stores touch no common byte. -/
def Disjoint (left right : Store) : Prop :=
  left.address + left.width ≤ right.address ∨ right.address + right.width ≤ left.address

instance (left right : Store) : Decidable (Disjoint left right) :=
  inferInstanceAs (Decidable (_ ∨ _))

theorem mem_leWrites {address value width : Nat} {byte : Nat × UInt8}
    (member : byte ∈ leWrites address value width) :
    ∃ offset < width, byte = (address + offset, UInt8.ofNat (value / 256 ^ offset)) := by
  induction width generalizing address value with
  | zero => simp [leWrites] at member
  | succ width ih =>
      simp only [leWrites, List.mem_cons] at member
      rcases member with rfl | member
      · exact ⟨0, by omega, by simp⟩
      · obtain ⟨offset, small, rfl⟩ := ih member
        refine ⟨offset + 1, by omega, ?_⟩
        rw [Nat.div_div_eq_div_mul, ← Nat.pow_succ', Nat.add_assoc, Nat.add_comm 1 offset]

theorem writes_range {store : Store} {byte : Nat × UInt8} (member : byte ∈ store.writes) :
    store.address ≤ byte.1 ∧ byte.1 < store.address + store.width := by
  obtain ⟨offset, small, rfl⟩ := mem_leWrites member
  exact ⟨Nat.le_add_right _ _, Nat.add_lt_add_left small _⟩

theorem leWrites_consistent (address value width : Nat) :
    Memory.Consistent (leWrites address value width) := by
  intro left leftIn right rightIn same
  obtain ⟨leftOffset, _, rfl⟩ := mem_leWrites leftIn
  obtain ⟨rightOffset, _, rfl⟩ := mem_leWrites rightIn
  have : leftOffset = rightOffset := by simpa using same
  rw [this]

/-- A batch reads `value` in `width` bytes when its writes there are the
store's own. -/
theorem load_write_of_subset {writes : List (Nat × UInt8)} (memory : Memory)
    (consistent : Memory.Consistent writes) {address value width : Nat}
    (included : leWrites address value width ⊆ writes) :
    (memory.write writes).load address width = value % 256 ^ width := by
  induction width generalizing address value with
  | zero => simp [Memory.load, Nat.mod_one]
  | succ width ih =>
      have head : memory.write writes address = UInt8.ofNat value :=
        Memory.write_of_mem memory consistent (included (.head _))
      have tail := ih fun byte member => included (.tail _ member)
      have low : (UInt8.ofNat value).toNat = value % 256 := UInt8.toNat_ofNat'
      rw [Memory.load, head, tail, low, Nat.pow_succ', Nat.mod_mul]

end Store

namespace Memory

/-- Stores in program order. -/
def store (memory : Memory) (stores : List Store) : Memory :=
  memory.write (stores.flatMap Store.writes)

@[simp] theorem store_nil (memory : Memory) : memory.store [] = memory := rfl

theorem store_append (memory : Memory) (first second : List Store) :
    memory.store (first ++ second) = (memory.store first).store second := by
  simp only [store, List.flatMap_append, write_append]

/-- Bytes no store of the batch covers keep their value. -/
theorem store_other (memory : Memory) (stores : List Store) (position : Nat)
    (outside : ∀ item ∈ stores, position < item.address ∨ item.address + item.width ≤ position) :
    memory.store stores position = memory position := by
  apply write_other
  intro byte member same
  obtain ⟨item, itemIn, byteIn⟩ := List.mem_flatMap.mp member
  have range := Store.writes_range byteIn
  have away := outside item itemIn
  omega

theorem load_store_other (memory : Memory) (stores : List Store) (address width : Nat)
    (outside : ∀ item ∈ stores,
      address + width ≤ item.address ∨ item.address + item.width ≤ address) :
    (memory.store stores).load address width = memory.load address width := by
  apply load_congr
  intro position lower upper
  apply store_other
  intro item member
  have away := outside item member
  omega

/-- The stores of a batch are pairwise equal or disjoint. -/
def Coherent (stores : List Store) : Prop :=
  ∀ left ∈ stores, ∀ right ∈ stores, left = right ∨ left.Disjoint right

theorem Coherent.consistent {stores : List Store} (coherent : Coherent stores) :
    Consistent (stores.flatMap Store.writes) := by
  intro left leftIn right rightIn same
  obtain ⟨first, firstIn, leftWrite⟩ := List.mem_flatMap.mp leftIn
  obtain ⟨second, secondIn, rightWrite⟩ := List.mem_flatMap.mp rightIn
  rcases coherent first firstIn second secondIn with rfl | disjoint
  · exact Store.leWrites_consistent _ _ _ left leftWrite right rightWrite same
  · have leftRange := Store.writes_range leftWrite
    have rightRange := Store.writes_range rightWrite
    have apart : first.address + first.width ≤ second.address ∨
        second.address + second.width ≤ first.address := disjoint
    omega

/-- A field of a coherent batch reads back what the batch stored there. -/
theorem load_store_of_mem (memory : Memory) {stores : List Store} (coherent : Coherent stores)
    {item : Store} (member : item ∈ stores) :
    (memory.store stores).load item.address item.width = item.value % 256 ^ item.width :=
  Store.load_write_of_subset memory coherent.consistent
    fun _ byteIn => List.mem_flatMap.mpr ⟨item, member, byteIn⟩

/-- Byte by byte, a coherent batch may be stored in any order. -/
theorem write_perm_store (memory : Memory) {stores : List Store} (coherent : Coherent stores)
    {writes : List (Nat × UInt8)} (order : writes.Perm (stores.flatMap Store.writes)) :
    memory.write writes = memory.store stores :=
  write_perm memory coherent.consistent order

/-- Fields laid out one after another form a coherent batch. -/
theorem Coherent.of_pairwise {stores : List Store}
    (layout : stores.Pairwise fun left right => left.address + left.width ≤ right.address) :
    Coherent stores := by
  induction stores with
  | nil => intro item member; simp at member
  | cons head stores ih =>
      obtain ⟨before, rest⟩ := List.pairwise_cons.mp layout
      intro left leftIn right rightIn
      rcases List.mem_cons.mp leftIn with isHead | leftIn <;>
        rcases List.mem_cons.mp rightIn with alsoHead | rightIn
      · exact .inl (isHead.trans alsoHead.symm)
      · exact .inr (.inl (isHead ▸ before right rightIn))
      · exact .inr (.inr (alsoHead ▸ before left leftIn))
      · exact ih rest left leftIn right rightIn

end Memory

end Chrysopolis.Support
