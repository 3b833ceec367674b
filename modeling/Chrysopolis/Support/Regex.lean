import Mathlib.Data.List.Basic

/-! Regular expressions of classes, greedy stars, groups and the end anchor, with the match a
backtracking matcher finds first. A star whose continuation refuses its own class never gives a
symbol back. -/

set_option autoImplicit false

namespace Chrysopolis.Support

inductive Regex (α : Type) where
  | one (accepts : α → Bool)
  | many (accepts : α → Bool)
  | seq (first second : Regex α)
  | optional (inner : Regex α)
  | stop

namespace Regex

variable {α : Type}

/-- A star takes what it can, and gives back until the continuation accepts. -/
def tryMany (accepts : α → Bool) (next : List α → Option (List α)) : List α → Option (List α)
  | [] => next []
  | c :: rest =>
      if accepts c then (tryMany accepts next rest).or (next (c :: rest)) else next (c :: rest)

/-- A match from the start of the text whose rest the continuation accepts. -/
def tryFrom : Regex α → (List α → Option (List α)) → List α → Option (List α)
  | one _, _, [] => none
  | one accepts, next, c :: rest => if accepts c then next rest else none
  | many accepts, next, text => tryMany accepts next text
  | seq first second, next, text => first.tryFrom (second.tryFrom next) text
  | optional inner, next, text => (inner.tryFrom next text).or (next text)
  | stop, next, text => if text.isEmpty then next text else none

/-- What is left behind the match at the start of the text. -/
def matchRest (regex : Regex α) (text : List α) : Option (List α) := regex.tryFrom some text

/-- The start of the leftmost match. -/
def search (regex : Regex α) : List α → Option Nat
  | [] => if (regex.matchRest []).isSome then some 0 else none
  | c :: rest =>
      if (regex.matchRest (c :: rest)).isSome then some 0
      else (regex.search rest).map (· + 1)

/-- The text without its matches, where `skip` symbols still belong to the last one. -/
def removeFrom (regex : Regex α) : Nat → List α → List α
  | _, [] => []
  | skip + 1, _ :: rest => regex.removeFrom skip rest
  | 0, c :: rest =>
      match regex.matchRest (c :: rest) with
      | none => c :: regex.removeFrom 0 rest
      | some left =>
          match rest.length + 1 - left.length with
          | 0 => c :: regex.removeFrom 0 rest
          | taken + 1 => regex.removeFrom taken rest

/-- The text without its matches, leftmost first. -/
def remove (regex : Regex α) (text : List α) : List α := regex.removeFrom 0 text

variable {regex first second : Regex α} {accepts : α → Bool} {c : α} {text rest left : List α}
  {next : List α → Option (List α)}

/-! ### Matching -/

theorem tryMany_eq (refuses : ∀ c rest, accepts c = true → next (c :: rest) = none)
    (text : List α) : tryMany accepts next text = next (text.dropWhile accepts) := by
  induction text with
  | nil => rfl
  | cons c rest ih =>
      cases taken : accepts c with
      | true =>
          rw [tryMany, if_pos taken, ih, refuses c rest taken, Option.or_none,
            List.dropWhile_cons_of_pos taken]
      | false =>
          rw [tryMany, if_neg (Bool.eq_false_iff.mp taken),
            List.dropWhile_cons_of_neg (Bool.eq_false_iff.mp taken)]

/-! ### Removing -/

theorem removeFrom_append (regex : Regex α) (taken rest : List α) :
    regex.removeFrom taken.length (taken ++ rest) = regex.remove rest := by
  induction taken with
  | nil => rfl
  | cons c taken ih => exact ih

theorem remove_cons_of_none (missed : regex.matchRest (c :: rest) = none) :
    regex.remove (c :: rest) = c :: regex.remove rest := by
  rw [remove, removeFrom, missed, remove]

/-- A run without a match at any of its symbols stays. -/
theorem remove_append_of_none {quiet : List α}
    (missed : ∀ before c after, quiet = before ++ c :: after →
      regex.matchRest (c :: after ++ rest) = none) :
    regex.remove (quiet ++ rest) = quiet ++ regex.remove rest := by
  induction quiet with
  | nil => rfl
  | cons c quiet ih =>
      have head : regex.matchRest (c :: (quiet ++ rest)) = none := missed [] c quiet rfl
      rw [List.cons_append, remove_cons_of_none head,
        ih fun before other after split => missed (c :: before) other after (by rw [split]; rfl)]
      rfl

/-- A match is left out. -/
theorem remove_of_match (matched : regex.matchRest (c :: text ++ left) = some left) :
    regex.remove (c :: text ++ left) = regex.remove left := by
  have taken : (text ++ left).length + 1 - left.length = text.length + 1 := by
    rw [List.length_append]
    omega
  rw [List.cons_append] at matched ⊢
  rw [remove, removeFrom, matched]
  simp only [taken]
  exact removeFrom_append regex text left

/-! ### Searching -/

theorem search_of_match (matched : (regex.matchRest text).isSome = true) :
    regex.search text = some 0 := by
  cases text with
  | nil => rw [search, if_pos matched]
  | cons c rest => rw [search, if_pos matched]

/-- The first match lies behind a run without one. -/
theorem search_append_of_none {quiet : List α}
    (missed : ∀ before c after, quiet = before ++ c :: after →
      regex.matchRest (c :: after ++ rest) = none) :
    regex.search (quiet ++ rest) = (regex.search rest).map (quiet.length + ·) := by
  induction quiet with
  | nil =>
      rw [List.nil_append, List.length_nil]
      cases regex.search rest <;> simp
  | cons c quiet ih =>
      have head : regex.matchRest (c :: (quiet ++ rest)) = none := missed [] c quiet rfl
      rw [List.cons_append, search, head, Option.isSome_none, if_neg Bool.false_ne_true,
        ih fun before other after split => missed (c :: before) other after (by rw [split]; rfl),
        Option.map_map, List.length_cons]
      congr 1
      funext place
      simp only [Function.comp_apply]
      omega

end Regex

end Chrysopolis.Support
