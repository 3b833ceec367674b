import Mathlib.Data.Finset.Card
import Mathlib.Data.Finset.Union
import Mathlib.Order.Minimal
import Mathlib.Data.Fintype.Order

/-! Minimal hitting sets of a finite family, edge by edge. A minimal hitting set of a family
with one more edge is one of the family's own that meets the edge, or one that misses it with an
atom of the edge put in; neither a bound on the size nor dropping what contains another loses
one. -/

set_option autoImplicit false

namespace Chrysopolis.Support.Transversal

variable {α : Type} [DecidableEq α]

/-- The set meets every edge. -/
def Hits (edges : List (Finset α)) (set : Finset α) : Prop :=
  ∀ edge ∈ edges, (set ∩ edge).Nonempty

/-- The set, or the set with one atom of the edge, for each atom of it. -/
def grow (sets : Finset (Finset α)) (edge : Finset α) : Finset (Finset α) :=
  sets.biUnion fun set =>
    edge.image fun atom => if (set ∩ edge).Nonempty then set else insert atom set

/-- The members that contain no other. -/
def leanest (sets : Finset (Finset α)) : Finset (Finset α) :=
  sets.filter fun set => ¬∃ other ∈ sets, other ⊂ set

variable {edges : List (Finset α)} {edge set : Finset α} {sets : Finset (Finset α)} {size : Int}

theorem hits_concat : Hits (edges ++ [edge]) set ↔ Hits edges set ∧ (set ∩ edge).Nonempty := by
  rw [Hits, List.forall_mem_append, List.forall_mem_singleton]
  rfl

theorem Hits.mono {larger : Finset α} (hits : Hits edges set) (within : set ⊆ larger) :
    Hits edges larger := fun edge member =>
  (hits edge member).mono (Finset.inter_subset_inter_right within)

theorem mem_grow : set ∈ grow sets edge ↔ ∃ smaller ∈ sets, ∃ atom ∈ edge,
    (if (smaller ∩ edge).Nonempty then smaller else insert atom smaller) = set := by
  simp only [grow, Finset.mem_biUnion, Finset.mem_image]

theorem hits_of_mem_grow (sound : ∀ set ∈ sets, Hits edges set) (grown : set ∈ grow sets edge) :
    Hits (edges ++ [edge]) set := by
  obtain ⟨smaller, member, atom, chosen, rfl⟩ := mem_grow.mp grown
  rw [hits_concat]
  split
  · next meets => exact ⟨sound smaller member, meets⟩
  · have inserted := Finset.mem_inter.mpr ⟨Finset.mem_insert_self atom smaller, chosen⟩
    exact ⟨(sound smaller member).mono (Finset.subset_insert ..), ⟨atom, inserted⟩⟩

/-- A minimal set for one more edge comes from a minimal one without it. -/
theorem exists_of_minimal (minimal : Minimal (Hits (edges ++ [edge])) set) :
    ∃ smaller, Minimal (Hits edges) smaller ∧ smaller ⊆ set ∧ set ∈ grow {smaller} edge := by
  obtain ⟨hits, meets⟩ := hits_concat.mp minimal.prop
  obtain ⟨smaller, within, least⟩ := exists_minimal_le_of_wellFoundedLT (Hits edges) set hits
  refine ⟨smaller, least, within, mem_grow.mpr ⟨smaller, Finset.mem_singleton_self _, ?_⟩⟩
  by_cases still : (smaller ∩ edge).Nonempty
  · -- It meets the edge already, so it is the set itself.
    have same : set ⊆ smaller := minimal.le_of_le (hits_concat.mpr ⟨least.prop, still⟩) within
    obtain ⟨atom, shared⟩ := still
    refine ⟨atom, (Finset.mem_inter.mp shared).2, ?_⟩
    rw [if_pos ⟨atom, shared⟩]
    exact within.antisymm same
  · -- It misses the edge, and any shared atom of the set completes it.
    obtain ⟨atom, shared⟩ := meets
    obtain ⟨held, chosen⟩ := Finset.mem_inter.mp shared
    have grown : Hits (edges ++ [edge]) (insert atom smaller) :=
      hits_concat.mpr ⟨least.prop.mono (Finset.subset_insert ..),
        ⟨atom, Finset.mem_inter.mpr ⟨Finset.mem_insert_self .., chosen⟩⟩⟩
    have inside : insert atom smaller ⊆ set := Finset.insert_subset held within
    refine ⟨atom, chosen, ?_⟩
    rw [if_neg still]
    exact inside.antisymm (minimal.le_of_le grown inside)

/-- What `sets` has to hold for an edge to be added: hitting sets only, among them the minimal
ones of the size. -/
structure Covers (size : Int) (edges : List (Finset α)) (sets : Finset (Finset α)) : Prop where
  sound : ∀ set ∈ sets, Hits edges set
  complete : ∀ set, Minimal (Hits edges) set → (set.card : Int) ≤ size → set ∈ sets

/-- One more edge, cut to the size and to what contains nothing else: exactly the minimal
hitting sets of the size. -/
theorem mem_step_iff (covers : Covers size edges sets) :
    set ∈ leanest ((grow sets edge).filter fun set => (set.card : Int) ≤ size) ↔
      Minimal (Hits (edges ++ [edge])) set ∧ (set.card : Int) ≤ size := by
  have kept {set : Finset α} (minimal : Minimal (Hits (edges ++ [edge])) set)
      (small : (set.card : Int) ≤ size) :
      set ∈ (grow sets edge).filter fun set => (set.card : Int) ≤ size := by
    obtain ⟨smaller, least, within, grown⟩ := exists_of_minimal minimal
    have smaller' : (smaller.card : Int) ≤ size :=
      (Int.ofNat_le.mpr (Finset.card_le_card within)).trans small
    obtain ⟨_, only, atom, chosen, same⟩ := mem_grow.mp grown
    obtain rfl := Finset.mem_singleton.mp only
    have member := covers.complete _ least smaller'
    exact Finset.mem_filter.mpr ⟨mem_grow.mpr ⟨_, member, atom, chosen, same⟩, small⟩
  rw [leanest, Finset.mem_filter]
  constructor
  · rintro ⟨member, lean⟩
    obtain ⟨grown, small⟩ := Finset.mem_filter.mp member
    have hits := hits_of_mem_grow covers.sound grown
    refine ⟨⟨hits, fun other hits' within => ?_⟩, small⟩
    obtain ⟨least, below, minimal⟩ := exists_minimal_le_of_wellFoundedLT _ other hits'
    have least' : (least.card : Int) ≤ size :=
      (Int.ofNat_le.mpr (Finset.card_le_card (below.trans within))).trans small
    by_contra larger
    have strictly : least ⊂ set := ⟨below.trans within, fun back => larger (back.trans below)⟩
    exact lean ⟨least, kept minimal least', strictly⟩
  · rintro ⟨minimal, small⟩
    refine ⟨kept minimal small, ?_⟩
    rintro ⟨other, member, below⟩
    have hits := hits_of_mem_grow covers.sound (Finset.mem_filter.mp member).1
    exact below.2 (minimal.le_of_le hits below.1)

theorem Covers.step (covers : Covers size edges sets) (edge : Finset α) :
    Covers size (edges ++ [edge])
      (leanest ((grow sets edge).filter fun set => (set.card : Int) ≤ size)) where
  sound _ member := ((mem_step_iff covers).mp member).1.prop
  complete _ minimal small := (mem_step_iff covers).mpr ⟨minimal, small⟩

theorem minimal_nil_iff : Minimal (Hits []) set ↔ set = ∅ := by
  have free (set : Finset α) : Hits [] set := fun _ member => absurd member List.not_mem_nil
  constructor
  · intro minimal
    exact Finset.subset_empty.mp (minimal.le_of_le (free ∅) (Finset.empty_subset _))
  · rintro rfl
    exact ⟨free ∅, fun other _ _ => Finset.empty_subset other⟩

theorem Covers.nil (size : Int) : Covers size [] ({∅} : Finset (Finset α)) where
  sound _ _ _ member := absurd member List.not_mem_nil
  complete _ minimal _ := Finset.mem_singleton.mpr (minimal_nil_iff.mp minimal)

/-- Every atom of a minimal hitting set meets an edge that needs it. -/
theorem exists_edge_of_minimal (minimal : Minimal (Hits edges) set) {atom : α}
    (member : atom ∈ set) : ∃ edge ∈ edges, set ∩ edge = {atom} := by
  by_contra none'
  have hits : Hits edges (set.erase atom) := by
    intro edge inside
    obtain ⟨other, shared⟩ := minimal.prop edge inside
    obtain ⟨held, chosen⟩ := Finset.mem_inter.mp shared
    by_cases same : other = atom
    · -- Not the atom alone, so another one is left.
      by_contra empty
      refine none' ⟨edge, inside, Finset.eq_singleton_iff_unique_mem.mpr ⟨same ▸ shared, ?_⟩⟩
      intro another found
      by_contra differs
      obtain ⟨held', chosen'⟩ := Finset.mem_inter.mp found
      exact empty ⟨another, Finset.mem_inter.mpr ⟨Finset.mem_erase.mpr ⟨differs, held'⟩, chosen'⟩⟩
    · exact ⟨other, Finset.mem_inter.mpr ⟨Finset.mem_erase.mpr ⟨same, held⟩, chosen⟩⟩
  exact Finset.notMem_erase atom set (minimal.le_of_le hits (Finset.erase_subset ..) member)

/-- An atom of every edge is a minimal hitting set by itself. -/
theorem eq_singleton_of_minimal (minimal : Minimal (Hits edges) set) {atom : α}
    (member : atom ∈ set) (shared : ∀ edge ∈ edges, atom ∈ edge) : set = {atom} := by
  have hits : Hits edges {atom} := fun edge inside =>
    ⟨atom, Finset.mem_inter.mpr ⟨Finset.mem_singleton_self _, shared edge inside⟩⟩
  have within : ({atom} : Finset α) ⊆ set := Finset.singleton_subset_iff.mpr member
  exact (minimal.le_of_le hits within).antisymm within

end Chrysopolis.Support.Transversal
