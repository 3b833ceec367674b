import Mathlib.Data.Fin.Basic
import Mathlib.Data.List.OfFn
import Mathlib.Logic.Function.Basic

/-! Bounded queues in a circular array that keeps one place empty to tell full from
empty. The entries from the tail to the head are what the queue holds. -/

set_option autoImplicit false

namespace Chrysopolis.Support

/-- A ring of `capacity` places: the next entry goes to `head`, the oldest is at `tail`. -/
structure RingQueue (capacity : Nat) (α : Type) where
  slots : Fin capacity → α
  head : Fin capacity
  tail : Fin capacity

namespace RingQueue

variable {capacity : Nat} {α : Type}

/-- The place after another, around the ring. -/
def next (place : Fin capacity) : Fin capacity :=
  ⟨(place + 1) % capacity, Nat.mod_lt _ (Nat.zero_lt_of_lt place.isLt)⟩

def isEmpty (queue : RingQueue capacity α) : Bool := queue.head == queue.tail

/-- Append an entry, unless the ring is full. -/
def push (queue : RingQueue capacity α) (value : α) : Option (RingQueue capacity α) :=
  if next queue.head = queue.tail then none
  else some { queue with
    slots := Function.update queue.slots queue.head value
    head := next queue.head }

/-- Take the oldest entry, if there is one. -/
def pop (queue : RingQueue capacity α) : Option (α × RingQueue capacity α) :=
  if queue.isEmpty then none
  else some (queue.slots queue.tail, { queue with tail := next queue.tail })

/-- The ring with nothing in it. -/
def reset (queue : RingQueue capacity α) : RingQueue capacity α :=
  { queue with head := ⟨0, Nat.zero_lt_of_lt queue.head.isLt⟩
               tail := ⟨0, Nat.zero_lt_of_lt queue.head.isLt⟩ }

/-- How many entries the ring holds. -/
def length (queue : RingQueue capacity α) : Nat :=
  (queue.head + capacity - queue.tail) % capacity

/-- The place `count` steps after the tail. -/
def place (queue : RingQueue capacity α) (count : Nat) : Fin capacity :=
  ⟨(queue.tail + count) % capacity, Nat.mod_lt _ (Nat.zero_lt_of_lt queue.tail.isLt)⟩

/-- The entries, oldest first. -/
def entries (queue : RingQueue capacity α) : List α :=
  (List.range queue.length).map fun count => queue.slots (queue.place count)

theorem next_val (position : Fin capacity) :
    (next position).val = if position.val + 1 = capacity then 0 else position.val + 1 := by
  simp only [next]
  split
  · rename_i full
    rw [full, Nat.mod_self]
  · exact Nat.mod_eq_of_lt (by omega)

theorem length_eq (queue : RingQueue capacity α) :
    queue.length = if (queue.tail : Nat) ≤ queue.head then (queue.head : Nat) - queue.tail
      else queue.head + capacity - queue.tail := by
  have head := queue.head.isLt
  have tail := queue.tail.isLt
  simp only [length]
  split
  · rw [show (queue.head : Nat) + capacity - queue.tail = queue.head - queue.tail + capacity by
      omega, Nat.add_mod_right, Nat.mod_eq_of_lt (by omega)]
  · exact Nat.mod_eq_of_lt (by omega)

theorem place_val (queue : RingQueue capacity α) {count : Nat} (bound : count < capacity) :
    (queue.place count).val =
      if queue.tail.val + count < capacity then queue.tail.val + count
      else queue.tail.val + count - capacity := by
  have tail := queue.tail.isLt
  simp only [place]
  split
  · exact Nat.mod_eq_of_lt (by omega)
  · rw [Nat.mod_eq_sub_mod (by omega), Nat.mod_eq_of_lt (by omega)]

theorem entries_eq_nil_iff {queue : RingQueue capacity α} :
    queue.entries = [] ↔ queue.isEmpty = true := by
  have head := queue.head.isLt
  have tail := queue.tail.isLt
  have length := queue.length_eq
  simp only [entries, List.map_eq_nil_iff, List.range_eq_nil, isEmpty, beq_iff_eq, Fin.ext_iff]
  rw [length]
  split <;> omega

@[simp] theorem entries_reset (queue : RingQueue capacity α) : queue.reset.entries = [] :=
  entries_eq_nil_iff.mpr (by simp [reset, isEmpty])

/-- A push appends its value. -/
theorem entries_push {queue pushed : RingQueue capacity α} {value : α}
    (done : queue.push value = some pushed) : pushed.entries = queue.entries ++ [value] := by
  have head := queue.head.isLt
  have tail := queue.tail.isLt
  unfold push at done
  split at done
  · cases done
  rename_i room
  cases done
  rw [Fin.ext_iff, next_val] at room
  have before := queue.length_eq
  have after : RingQueue.length ⟨Function.update queue.slots queue.head value, next queue.head,
      queue.tail⟩ = queue.length + 1 := by
    simp only [length_eq, next_val]
    split_ifs at room ⊢ <;> omega
  have short : queue.length < capacity := by
    rw [before]
    split <;> omega
  have last : queue.place queue.length = queue.head := by
    rw [Fin.ext_iff, place_val queue short, before]
    split_ifs <;> omega
  simp only [entries]
  rw [after, List.range_succ, List.map_append]
  congr 1
  · apply List.map_congr_left
    intro count member
    have bound : count < queue.length := List.mem_range.mp member
    refine Function.update_of_ne ?_ _ _
    intro same
    have value := place_val queue (bound.trans short)
    rw [show queue.place count = queue.head from same] at value
    rw [before] at bound
    split_ifs at bound value <;> omega
  · simp only [List.map_cons, List.map_nil, List.cons.injEq, and_true]
    exact (congrArg _ last).trans (Function.update_self ..)

/-- A pop takes the first entry. -/
theorem entries_pop {queue popped : RingQueue capacity α} {value : α}
    (done : queue.pop = some (value, popped)) : queue.entries = value :: popped.entries := by
  have head := queue.head.isLt
  have tail := queue.tail.isLt
  unfold pop at done
  split at done
  · cases done
  rename_i some
  cases done
  simp only [isEmpty, beq_iff_eq, Fin.ext_iff] at some
  have before := queue.length_eq
  have after : queue.length =
      RingQueue.length ⟨queue.slots, queue.head, next queue.tail⟩ + 1 := by
    simp only [length_eq, next_val]
    split_ifs <;> omega
  have short : queue.length < capacity := by
    rw [before]
    split <;> omega
  simp only [entries]
  rw [after, List.range_succ_eq_map, List.map_cons, List.map_map]
  congr 1
  · congr 1
    rw [Fin.ext_iff, place_val queue (by omega)]
    split <;> omega
  · apply List.map_congr_left
    intro count member
    have bound := List.mem_range.mp member
    refine congrArg queue.slots (Fin.ext ?_)
    rw [place_val _ (show count < capacity by omega)]
    simp only [Nat.succ_eq_add_one, next_val]
    rw [place_val queue (show count + 1 < capacity by omega)]
    split_ifs <;> omega

theorem isEmpty_of_pop_eq_none {queue : RingQueue capacity α} (done : queue.pop = none) :
    queue.entries = [] := by
  unfold pop at done
  split at done
  · exact entries_eq_nil_iff.mpr ‹_›
  · cases done

end RingQueue

end Chrysopolis.Support
