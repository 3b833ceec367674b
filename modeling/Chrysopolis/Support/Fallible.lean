import Mathlib.Data.List.Forall2

/-! Computations that fail with an error. A chain of them succeeds when every
link does, and a traversal when every step does. -/

set_option autoImplicit false

namespace Chrysopolis.Support.Fallible

variable {α β ε : Type}

theorem ok_bind (value : α) (next : α → Except ε β) : (.ok value >>= next) = next value := rfl

theorem bind_eq_ok_iff {first : Except ε α} {next : α → Except ε β} {result : β} :
    (first >>= next) = .ok result ↔ ∃ value, first = .ok value ∧ next value = .ok result := by
  cases first with
  | error error =>
      constructor
      · intro failed
        cases failed
      · rintro ⟨value, failed, -⟩
        cases failed
  | ok value =>
      constructor
      · intro continued
        exact ⟨value, rfl, continued⟩
      · rintro ⟨other, same, continued⟩
        obtain rfl := Except.ok.inj same
        exact continued

theorem pure_eq_ok_iff {value result : α} :
    (pure value : Except ε α) = .ok result ↔ result = value := by
  constructor
  · intro same
    exact (Except.ok.inj same).symm
  · rintro rfl
    rfl

/-- A traversal succeeds when every step does, with the steps' results. -/
theorem mapM_eq_ok_iff {f : α → Except ε β} {items : List α} {results : List β} :
    items.mapM f = .ok results ↔
      List.Forall₂ (fun item result => f item = .ok result) items results := by
  induction items generalizing results with
  | nil => rw [List.mapM_nil, List.forall₂_nil_left_iff, pure_eq_ok_iff]
  | cons item items ih =>
      rw [List.mapM_cons, List.forall₂_cons_left_iff]
      simp only [bind_eq_ok_iff, pure_eq_ok_iff, ih]
      constructor
      · rintro ⟨result, head, others, tail, rfl⟩
        exact ⟨result, others, head, tail, rfl⟩
      · rintro ⟨result, others, head, tail, rfl⟩
        exact ⟨result, head, others, tail, rfl⟩

/-- A step that succeeds under a condition, with a value of its own. -/
theorem mapM_eq_ok_iff_map {f : α → Except ε β} {holds : α → Prop} {value : α → β}
    (step : ∀ item result, f item = .ok result ↔ holds item ∧ result = value item)
    {items : List α} {results : List β} :
    items.mapM f = .ok results ↔ (∀ item ∈ items, holds item) ∧ results = items.map value := by
  simp only [mapM_eq_ok_iff, step]
  induction items generalizing results with
  | nil => simp [List.forall₂_nil_left_iff]
  | cons item items ih =>
      rw [List.forall₂_cons_left_iff]
      constructor
      · rintro ⟨result, rest, ⟨head, rfl⟩, tail, rfl⟩
        obtain ⟨all, rfl⟩ := ih.mp tail
        exact ⟨List.forall_mem_cons.mpr ⟨head, all⟩, rfl⟩
      · rintro ⟨all, rfl⟩
        obtain ⟨head, tail⟩ := List.forall_mem_cons.mp all
        exact ⟨value item, items.map value, ⟨head, rfl⟩, ih.mpr ⟨tail, rfl⟩, rfl⟩

/-- A traversal of steps that succeed. -/
theorem mapM_eq_ok_map {f : α → Except ε β} {value : α → β} {items : List α}
    (step : ∀ item ∈ items, f item = .ok (value item)) :
    items.mapM f = .ok (items.map value) := by
  rw [mapM_eq_ok_iff, List.forall₂_map_right_iff, List.forall₂_same]
  exact step

/-- A traversal whose steps fail in one way only, some step failing. -/
theorem mapM_eq_error {f : α → Except ε β} {error : ε} {items : List α}
    (step : ∀ item ∈ items, (∃ value, f item = .ok value) ∨ f item = .error error)
    (failing : ∃ item ∈ items, f item = .error error) :
    items.mapM f = .error error := by
  induction items with
  | nil =>
      obtain ⟨_, member, _⟩ := failing
      cases member
  | cons item items ih =>
      obtain ⟨head, tail⟩ := List.forall_mem_cons.mp step
      rw [List.mapM_cons]
      rcases head with ⟨value, ok⟩ | failed
      · have later : ∃ other ∈ items, f other = .error error := by
          obtain ⟨other, member, failed⟩ := failing
          rcases List.mem_cons.mp member with rfl | member
          · rw [ok] at failed
            cases failed
          · exact ⟨other, member, failed⟩
        rw [ok, ih tail later]
        rfl
      · rw [failed]
        rfl

/-! ### Loops -/

/-- A check before the rest. -/
theorem then_eq_ok_iff {first : Except ε PUnit} {next : Except ε β} {result : β} :
    (first >>= fun _ => next) = .ok result ↔ first = .ok () ∧ next = .ok result := by
  rw [bind_eq_ok_iff]
  constructor
  · intro both
    obtain ⟨_, head, tail⟩ := both
    exact ⟨head, tail⟩
  · intro both
    exact ⟨(), both⟩

/-- A loop in which each step sees the items before its own. -/
def eachAfter (step : List α → α → Except ε Unit) (before : List α) : List α → Except ε Unit
  | [] => .ok ()
  | item :: rest => do
      step before item
      eachAfter step (before ++ [item]) rest

/-- A loop whose steps ask something of an item, and something of it and each one before. -/
theorem eachAfter_eq_ok_iff {step : List α → α → Except ε Unit} {holds : α → Prop}
    {apart : α → α → Prop}
    (asks : ∀ before item,
      step before item = .ok () ↔ holds item ∧ ∀ other ∈ before, apart other item)
    {before items : List α} :
    eachAfter step before items = .ok () ↔
      (∀ item ∈ items, holds item) ∧ items.Pairwise apart ∧
        ∀ other ∈ before, ∀ item ∈ items, apart other item := by
  induction items generalizing before with
  | nil => simp [eachAfter]
  | cons item rest ih =>
      rw [eachAfter, then_eq_ok_iff]
      constructor
      · rintro ⟨head, tail⟩
        obtain ⟨held, earlier⟩ := (asks before item).mp head
        obtain ⟨all, pairs, after⟩ := ih.mp tail
        refine ⟨List.forall_mem_cons.mpr ⟨held, all⟩, List.pairwise_cons.mpr ⟨?_, pairs⟩, ?_⟩
        · exact after item (List.mem_append_right _ (List.mem_singleton.mpr rfl))
        · intro other listed
          exact List.forall_mem_cons.mpr
            ⟨earlier other listed, after other (List.mem_append_left _ listed)⟩
      · rintro ⟨all, pairs, after⟩
        obtain ⟨held, rest'⟩ := List.forall_mem_cons.mp all
        obtain ⟨first, pairs⟩ := List.pairwise_cons.mp pairs
        refine ⟨(asks before item).mpr ⟨held, ?_⟩, ih.mpr ⟨rest', pairs, ?_⟩⟩
        · intro other listed
          exact after other listed item List.mem_cons_self
        · intro other listed
          rcases List.mem_append.mp listed with earlier | same
          · intro next later
            exact after other earlier next (List.mem_cons_of_mem _ later)
          · rw [List.mem_singleton.mp same]
            exact first

/-- A loop whose steps share nothing. -/
theorem forM_eq_ok_iff {step : α → Except ε PUnit} {items : List α} :
    items.forM step = .ok () ↔ ∀ item ∈ items, step item = .ok () := by
  induction items with
  | nil =>
      constructor
      · intro _ item listed
        cases listed
      · intro _
        rfl
  | cons item rest ih =>
      change (step item >>= fun _ => rest.forM step) = .ok () ↔ _
      rw [then_eq_ok_iff, List.forall_mem_cons, ih]

/-- A condition, or else an error. -/
def require (condition : Prop) [Decidable condition] (error : ε) : Except ε Unit :=
  if condition then .ok () else .error error

theorem require_eq_ok_iff {condition : Prop} [Decidable condition] {error : ε} :
    require condition error = .ok () ↔ condition := by
  by_cases holds : condition
  · simp [require, holds]
  · simp [require, holds]

theorem mapError_eq_ok_iff {ε' : Type} {convert : ε → ε'} {first : Except ε α} {result : α} :
    first.mapError convert = .ok result ↔ first = .ok result := by
  cases first with
  | error error =>
      constructor
      · intro failed
        cases failed
      · intro failed
        cases failed
  | ok value => simp [Except.mapError]

/-- A fold whose steps only add to the state: what each step did for its item lasts. -/
theorem foldlM_done {step : β → α → Except ε β} {grows : β → β → Prop} {done : α → β → Prop}
    (refl : ∀ state, grows state state)
    (trans : ∀ first next last, grows first next → grows next last → grows first last)
    (kept : ∀ item first last, done item first → grows first last → done item last)
    (each : ∀ item first last, step first item = .ok last → grows first last ∧ done item last)
    {items : List α} {first last : β} (ran : items.foldlM step first = .ok last) :
    grows first last ∧ ∀ item ∈ items, done item last := by
  induction items generalizing first with
  | nil =>
      rw [List.foldlM_nil, pure_eq_ok_iff] at ran
      subst ran
      exact ⟨refl last, fun item listed => by cases listed⟩
  | cons item rest ih =>
      rw [List.foldlM_cons, bind_eq_ok_iff] at ran
      obtain ⟨next, here, later⟩ := ran
      obtain ⟨grown, did⟩ := each item first next here
      obtain ⟨after, all⟩ := ih later
      exact ⟨trans first next last grown after,
        List.forall_mem_cons.mpr ⟨kept item next last did after, all⟩⟩

theorem foldlM_eq_ok_of_imp {step other : β → α → Except ε β}
    (same : ∀ state item next, step state item = .ok next → other state item = .ok next)
    {items : List α} {first last : β} (ran : items.foldlM step first = .ok last) :
    items.foldlM other first = .ok last := by
  induction items generalizing first with
  | nil => exact ran
  | cons item rest ih =>
      rw [List.foldlM_cons, bind_eq_ok_iff] at ran ⊢
      obtain ⟨next, here, later⟩ := ran
      exact ⟨next, same first item next here, ih later⟩

end Chrysopolis.Support.Fallible
