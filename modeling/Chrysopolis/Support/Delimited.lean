import Mathlib.Data.List.Basic

/-! Lists cut at a separator. Parts without the separator, joined by it, split
back into the same parts, and a split loses nothing but the separators. -/

set_option autoImplicit false

namespace Chrysopolis.Support.Delimited

variable {α : Type} [DecidableEq α]

/-- The first separator cuts a list in two. -/
def splitFirst (separator : α) : List α → Option (List α × List α)
  | [] => none
  | item :: rest =>
      if item = separator then some ([], rest)
      else (splitFirst separator rest).map fun parts => (item :: parts.1, parts.2)

theorem splitFirst_append {separator : α} {first : List α} (absent : separator ∉ first)
    (rest : List α) : splitFirst separator (first ++ separator :: rest) = some (first, rest) := by
  induction first with
  | nil => simp [splitFirst]
  | cons item first ih =>
      rw [List.mem_cons, not_or] at absent
      simp [splitFirst, Ne.symm absent.1, ih absent.2]

theorem splitFirst_some {separator : α} {items first rest : List α}
    (split : splitFirst separator items = some (first, rest)) :
    items = first ++ separator :: rest := by
  induction items generalizing first with
  | nil => cases split
  | cons item items ih =>
      rw [splitFirst] at split
      by_cases same : item = separator
      · rw [if_pos same, Option.some.injEq, Prod.mk.injEq] at split
        rw [← split.1, ← split.2, same, List.nil_append]
      · rw [if_neg same, Option.map_eq_some_iff] at split
        obtain ⟨⟨head, tail⟩, inner, pair⟩ := split
        rw [Prod.mk.injEq] at pair
        obtain ⟨rfl, rfl⟩ := pair
        rw [ih inner, List.cons_append]

/-- Parts each led by the separator split back into the parts. -/
theorem splitOn_append_flatMap {separator : α} {first : List α} {parts : List (List α)}
    (absentFirst : separator ∉ first) (absent : ∀ part ∈ parts, separator ∉ part) :
    (first ++ parts.flatMap (separator :: ·)).splitOn separator = first :: parts := by
  induction parts generalizing first with
  | nil => simpa using List.splitOn_eq_singleton absentFirst
  | cons part parts ih =>
      have tail := ih (absent part List.mem_cons_self)
        fun other member => absent other (List.mem_cons_of_mem _ member)
      rw [List.flatMap_cons, List.cons_append,
        List.splitOn_append_cons_self_of_not_mem absentFirst, tail]

/-- A list is its first part and the others, each led by the separator. -/
theorem eq_append_flatMap_of_splitOn {separator : α} {items first : List α}
    {parts : List (List α)} (split : items.splitOn separator = first :: parts) :
    items = first ++ parts.flatMap (separator :: ·) := by
  induction items generalizing first parts with
  | nil =>
      rw [List.splitOn_nil, List.cons.injEq] at split
      rw [← split.1, ← split.2]
      rfl
  | cons item items ih =>
      cases tail : items.splitOn separator with
      | nil => exact absurd tail (List.splitOn_ne_nil _ _)
      | cons head others =>
          rw [List.splitOn_cons_eq_if_modifyHead, tail] at split
          by_cases same : item = separator
          · simp only [same, beq_self_eq_true, if_true, List.cons.injEq] at split
            rw [← split.1, ← split.2, ih tail, same]
            simp
          · simp only [beq_eq_false_iff_ne.mpr same, Bool.false_eq_true, if_false,
              List.modifyHead_cons, List.cons.injEq] at split
            rw [← split.1, ← split.2, ih tail]
            simp

theorem mem_of_mem_splitOn {separator item : α} {items part : List α}
    (inSplit : part ∈ items.splitOn separator) (member : item ∈ part) : item ∈ items := by
  cases split : items.splitOn separator with
  | nil => exact absurd split (List.splitOn_ne_nil _ _)
  | cons first parts =>
      rw [split, List.mem_cons] at inSplit
      rw [eq_append_flatMap_of_splitOn split, List.mem_append, List.mem_flatMap]
      rcases inSplit with rfl | inParts
      · exact Or.inl member
      · exact Or.inr ⟨part, inParts, List.mem_cons_of_mem _ member⟩

/-- No part holds the separator. -/
theorem not_mem_of_mem_splitOn {separator : α} {items part : List α}
    (member : part ∈ items.splitOn separator) : separator ∉ part := by
  induction items generalizing part with
  | nil =>
      rw [List.splitOn_nil, List.mem_singleton] at member
      simp [member]
  | cons item items ih =>
      cases tail : items.splitOn separator with
      | nil => exact absurd tail (List.splitOn_ne_nil _ _)
      | cons head others =>
          rw [tail] at ih
          rw [List.splitOn_cons_eq_if_modifyHead, tail] at member
          by_cases same : item = separator
          · simp only [same, beq_self_eq_true, if_true, List.mem_cons] at member
            rcases member with rfl | member
            · exact List.not_mem_nil
            · exact ih (List.mem_cons.mpr member)
          · simp only [beq_eq_false_iff_ne.mpr same, Bool.false_eq_true, if_false,
              List.modifyHead_cons, List.mem_cons] at member
            rcases member with rfl | member
            · rw [List.mem_cons, not_or]
              exact ⟨Ne.symm same, ih List.mem_cons_self⟩
            · exact ih (List.mem_cons_of_mem _ member)

/-- A separator is found by how many come after it. -/
theorem eq_of_append_cons_eq {separator : α} {first second left right : List α}
    (same : first ++ separator :: left = second ++ separator :: right)
    (counts : left.count separator = right.count separator) : first = second := by
  -- A longer first part would leave fewer separators behind the cut.
  have shorter {first second left right : List α} {between : List α}
      (longer : first = second ++ between) (counts : left.count separator = right.count separator)
      (rest : separator :: right = between ++ separator :: left) : first = second := by
    cases between with
    | nil => rw [longer, List.append_nil]
    | cons item between =>
        rw [List.cons_append, List.cons.injEq] at rest
        rw [rest.2, List.count_append, List.count_cons_self] at counts
        omega
  rcases List.append_eq_append_iff.mp same with ⟨between, longer, rest⟩ | ⟨between, longer, rest⟩
  · exact (shorter longer counts.symm rest).symm
  · exact shorter longer counts rest

end Chrysopolis.Support.Delimited
