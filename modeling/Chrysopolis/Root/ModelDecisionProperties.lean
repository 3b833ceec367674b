import Chrysopolis.Root.MainProperties
import Chrysopolis.Root.Model

/-! One decision of Root and of its model. The model classifies each bank and plans each request
as the C does, over unbounded integers that its words never leave. -/

set_option autoImplicit false

namespace Chrysopolis.Root

open Chrysopolis.Abi
open Chrysopolis.Support

/-! ### The retained policy -/

@[simp] theorem rows_length (value : RootChild → Nat) : (rows value).length = childCount := by
  simp [rows]

@[simp] theorem rows_getD (value : RootChild → Nat) (child : RootChild) :
    (rows value).getD child.val 0 = value child := by
  simp [rows, List.getD_eq_getElem?_getD]

/-- A list with one entry for each row is known by its entries. -/
theorem eq_rows_iff {values : List Nat} {value : RootChild → Nat}
    (full : values.length = childCount) :
    rows value = values ↔ ∀ child : RootChild, value child = values.getD child.val 0 := by
  constructor
  · rintro rfl child
    exact (rows_getD value child).symm
  · intro entries
    refine List.ext_getElem (by rw [rows_length, full]) fun index inside held => ?_
    have entry := entries ⟨index, by rwa [rows_length] at inside⟩
    simp only [List.getD_eq_getElem?_getD, List.getElem?_eq_getElem held,
      Option.getD_some] at entry
    rw [← entry]
    simp [rows]

/-- The spec states: the retained policies and the last rejections. -/
structure SameSpec (spec : Core.SpecState) (state : RootSpecState) : Prop where
  retained : SamePolicy spec.retained state.retained
  /-- An applied policy has every row. -/
  full : spec.retained.generation ≠ 0 →
    spec.retained.budgets.length = childCount ∧ spec.retained.desired.length = childCount
  reason : tracedReason spec.last.1 = state.lastReason
  generation : spec.last.2.1 = state.lastGeneration.toNat
  bank : spec.last.2.2.val = state.lastBank.toNat

theorem tracedReason_inj (left right : Core.Reason) :
    tracedReason left = tracedReason right ↔ left = right := by
  constructor
  · cases left <;> cases right <;> simp [tracedReason]
  · rintro rfl
    rfl

theorem tracedReason_unset {reason : Core.Reason} :
    tracedReason reason = .unset ↔ reason = .unset :=
  tracedReason_inj reason .unset

/-- A refresh is reported and remembered alike. -/
theorem finish_same {spec : Core.SpecState} {state : RootSpecState} (same : SameSpec spec state)
    (outcome : Core.SpecOutcome) (reason : Core.Reason) {generation : UInt64} {number : Nat}
    (numbers : number = generation.toNat) {bank : Fin 2} {word : UInt32}
    (banks : bank.val = word.toNat) :
    SameResult (Core.Spec.finish outcome reason number bank spec).1
        (finish state (tracedOutcome outcome) (tracedReason reason) generation word).2 ∧
      SameSpec (Core.Spec.finish outcome reason number bank spec).2
        (finish state (tracedOutcome outcome) (tracedReason reason) generation word).1 := by
  obtain ⟨retained, full, lastReason, lastGeneration, lastBank⟩ := same
  by_cases unset : reason = .unset
  · subst unset
    exact ⟨⟨rfl, rfl, rfl⟩, retained, full, rfl, rfl, rfl⟩
  · have traced : tracedReason reason ≠ .unset := fun none => unset (tracedReason_unset.mp none)
    have recorded : ((reason, number, bank) != spec.last) =
        (tracedReason reason != state.lastReason || generation != state.lastGeneration ||
          word != state.lastBank) := by
      rw [Bool.eq_iff_iff]
      simp only [bne_iff_ne, ne_eq, Bool.or_eq_true, Prod.ext_iff, ← lastReason,
        tracedReason_inj, numbers, lastGeneration, UInt64.toNat_inj, Fin.ext_iff, banks,
        lastBank, UInt32.toNat_inj]
      tauto
    simp only [Core.Spec.finish, finish, if_neg unset, if_neg traced]
    exact ⟨⟨rfl, rfl, recorded⟩, retained, full, rfl, numbers, banks⟩

def tracedKind : Core.Kind → CandidateKind
  | .empty => .empty
  | .rejected => .rejected
  | .same => .same
  | .newer => .newer

/-- One bank, classified by both. -/
structure SameCandidate (classified : Core.Classified) (candidate : Candidate) : Prop where
  kind : tracedKind classified.kind = candidate.kind
  rejected : classified.kind = .rejected →
    tracedReason classified.reason = candidate.reason ∧
      classified.generation = candidate.generation.toNat
  newer : classified.kind = .newer → ∃ policy, classified.policy = some policy ∧
    SamePolicy policy candidate.policy ∧ policy.budgets.length = childCount ∧
    policy.desired.length = childCount

theorem codecReason_traced (verdict : AbiReject) :
    tracedReason (codecReason verdict) = bankReason verdict := by
  cases verdict <;> rfl

/-- The policy of a bank the codec passed. -/
theorem bankPolicy_same (page : Memory) (bank : Fin 2) :
    let policy := bankPolicy page bank.val
    SamePolicy
      { generation := policy.generation.toNat
        bank
        budgets := rows fun child => (policy.budget child).toNat
        desired := rows fun child => (policy.desired child).toNat } policy := by
  intro policy
  refine ⟨rfl, ?_, fun child => rows_getD (fun row => (policy.budget row).toNat) child,
    fun child => rows_getD (fun row => (policy.desired row).toNat) child⟩
  have small : ∀ bank : Fin 2, bank.val = (UInt32.ofNat bank.val).toNat := by decide
  exact small bank

/-- The contents are compared row by row. -/
theorem sameContent_same {policy : RootSpecPolicy} {retained : RootSpecPolicy}
    {held : Core.SpecPolicy} (same : SamePolicy held retained)
    (budgets : held.budgets.length = childCount) (desired : held.desired.length = childCount)
    (generation : Nat) (bank : Fin 2) :
    Core.Spec.sameContent
        { generation, bank
          budgets := rows fun child => (policy.budget child).toNat
          desired := rows fun child => (policy.desired child).toNat } held =
      sameContent policy retained := by
  rw [Bool.eq_iff_iff, sameContent_iff]
  simp only [Core.Spec.sameContent, Bool.and_eq_true, beq_iff_eq, eq_rows_iff budgets,
    eq_rows_iff desired, same.budgets, same.desired, UInt32.toNat_inj, UInt8.toNat_inj]
  exact forall_and.symm

theorem classify_same {spec : Core.SpecState} {state : RootSpecState}
    (same : SameSpec spec state) (page : Memory) (bank : Fin 2) (mask : UInt64) :
    SameCandidate (Core.Spec.classify (codecBank page bank.val mask) bank spec.retained)
      (evaluate page bank.val mask state.retained) := by
  have spelled := bankPolicy_same page bank
  unfold codecBank evaluate
  dsimp only at spelled ⊢
  generalize bankPolicy page bank.val = policy at spelled ⊢
  by_cases unsealed : specBankSeq page bank.val = 0
  · simp only [if_pos unsealed]
    exact ⟨rfl, by simp [Core.Spec.classify], by simp [Core.Spec.classify]⟩
  simp only [if_neg unsealed]
  by_cases broken : checkSpecBank page specPageSize bank.val ≠ .ok
  · simp only [if_pos broken]
    exact ⟨rfl, fun _ => ⟨codecReason_traced _, rfl⟩, by simp [Core.Spec.classify]⟩
  simp only [if_neg broken]
  by_cases zero : policy.generation = 0
  · simp only [if_pos zero]
    exact ⟨rfl, by simp [Core.Spec.classify], by simp [Core.Spec.classify]⟩
  simp only [if_neg zero]
  by_cases absent : declaresAbsent policy mask = true
  · simp only [if_pos absent]
    exact ⟨rfl, fun _ => ⟨rfl, rfl⟩, by simp [Core.Spec.classify]⟩
  simp only [if_neg absent, Core.Spec.classify, same.retained.generation,
    ← UInt64.lt_iff_toNat_lt, UInt64.toNat_inj]
  by_cases older : policy.generation < state.retained.generation
  · simp only [if_pos older]
    exact ⟨rfl, fun _ => ⟨rfl, rfl⟩, by simp⟩
  simp only [if_neg older]
  by_cases equal : policy.generation = state.retained.generation
  · have applied : spec.retained.generation ≠ 0 := by
      rw [same.retained.generation, ← equal]
      exact fun none => zero (UInt64.toNat_inj.mp none)
    obtain ⟨budgets, desired⟩ := same.full applied
    simp only [if_pos equal, sameContent_same same.retained budgets desired]
    split_ifs with content
    · exact ⟨rfl, by simp, by simp⟩
    · exact ⟨rfl, fun _ => ⟨rfl, rfl⟩, by simp⟩
  · simp only [if_neg equal]
    exact ⟨rfl, by simp, fun _ => ⟨_, rfl, spelled, rows_length _, rows_length _⟩⟩

/-- The policy an application retains. -/
structure KeepsPolicy (policy : Core.SpecPolicy) (retained : RootSpecPolicy) : Prop where
  same : SamePolicy policy retained
  full : policy.generation ≠ 0 →
    policy.budgets.length = childCount ∧ policy.desired.length = childCount

theorem SameCandidate.retains {classified : Core.Classified} {candidate : Candidate}
    (same : SameCandidate classified candidate) (newer : classified.kind = .newer)
    (retained : Core.SpecPolicy) :
    KeepsPolicy (classified.policy.getD retained) candidate.policy := by
  obtain ⟨policy, spelled, held, budgets, desired⟩ := same.newer newer
  rw [spelled]
  exact ⟨held, fun _ => ⟨budgets, desired⟩⟩

/-- A page with two banks is decided alike. -/
theorem consume_banks {spec : Core.SpecState} {state : RootSpecState}
    (same : SameSpec spec state) {page : Memory} (mask : UInt64) (header : SpecHeaderOk page) :
    let banks : Core.Page := .banks (activeBank page) (codecBank page (specActive page) mask)
      (codecBank page (1 - specActive page) mask)
    SameResult (Core.Spec.consume banks spec).1 (rootSpecSelect state page mask).2 ∧
      SameSpec (Core.Spec.consume banks spec).2 (rootSpecSelect state page mask).1 := by
  have left := classify_same same page (activeBank page) mask
  have right := classify_same same page (1 - activeBank page) mask
  have active := activeBank_val header
  have other : (1 - activeBank page).val = 1 - specActive page := by
    rw [← active]
    generalize activeBank page = bank
    revert bank
    decide
  have word : (activeBank page).val = (UInt32.ofNat (specActive page)).toNat := by
    rw [← active]
    generalize activeBank page = bank
    revert bank
    decide
  rw [active] at left
  rw [other] at right
  simp only [Core.Spec.consume, rootSpecSelect]
  generalize Core.Spec.classify _ (activeBank page) _ = first at left ⊢
  generalize Core.Spec.classify _ (1 - activeBank page) _ = second at right ⊢
  generalize evaluate page (specActive page) mask state.retained = decided at left ⊢
  generalize evaluate page (1 - specActive page) mask state.retained = spare at right ⊢
  have kept : KeepsPolicy spec.retained state.retained := ⟨same.retained, same.full⟩
  have settled : ∀ {policy : Core.SpecPolicy} {retained : RootSpecPolicy},
      KeepsPolicy policy retained →
        SameSpec { spec with retained := policy } { state with retained } :=
    fun held => ⟨held.same, held.full, same.reason, same.generation, same.bank⟩
  simp only [← left.kind]
  cases kind : first.kind with
  | newer => exact finish_same (settled (left.retains kind _)) .applied .unset rfl word
  | same => exact finish_same (settled kept) .unchanged .unset rfl word
  | empty =>
      simp only [← right.kind, tracedKind, true_or, if_true, Option.map_some]
      cases choice : second.kind with
      | newer => exact finish_same (settled (right.retains choice _)) .applied .unset rfl word
      | same => exact finish_same (settled kept) .unchanged .unset rfl word
      | empty => exact finish_same (settled kept) .absent .unset rfl word
      | rejected => exact finish_same (settled kept) .absent .unset rfl word
  | rejected =>
      obtain ⟨reason, generation⟩ := left.rejected kind
      simp only [← right.kind, tracedKind, or_true, if_true, Option.map_some, ← reason]
      cases choice : second.kind with
      | newer => exact finish_same (settled (right.retains choice _)) .applied _ generation word
      | same => exact finish_same (settled kept) .unchanged _ generation word
      | empty => exact finish_same (settled kept) .kept _ generation word
      | rejected => exact finish_same (settled kept) .kept _ generation word

/-- A refresh of the page does the same on both sides. -/
theorem consume_same {spec : Core.SpecState} {state : RootSpecState} (same : SameSpec spec state)
    (mapped : Bool) (page : Memory) (mask : UInt64) :
    SameResult (Core.Spec.consume (codecPage mapped page mask) spec).1
        (rootSpecConsume state (sharedSpec mapped (.still page)) mask).2 ∧
      SameSpec (Core.Spec.consume (codecPage mapped page mask) spec).2
        (rootSpecConsume state (sharedSpec mapped (.still page)) mask).1 := by
  have number : 0 = (0 : UInt64).toNat := rfl
  have first : (0 : Fin 2).val = (0 : UInt32).toNat := rfl
  cases mapped with
  | false => exact finish_same same .absent .unset number first
  | true =>
      simp only [sharedSpec, if_true, rootSpecConsume_still, codecPage, Bool.not_true,
        Bool.false_or]
      split_ifs with zero broken
      · exact finish_same same .absent .unset number first
      · exact finish_same same .kept .header number first
      · exact consume_banks same mask (checkSpecHeader_ok.mp (not_not.mp broken))

theorem policyBudget_capped {entry : Nat} (set : entry ≠ 0) (compiled hardMax : Nat) :
    Core.Policy.budget (some entry) compiled hardMax = min entry hardMax := by
  cases entry with
  | zero => exact absurd rfl set
  | succ entry => rfl

theorem specBudget_same {spec : Core.SpecState} {state : RootSpecState}
    (same : SameSpec spec state) (child : RootChild) (compiled hardMax : UInt32) :
    Core.Spec.budget spec child.val compiled.toNat hardMax.toNat =
      (rootSpecBudget state child compiled hardMax).toNat := by
  have entry := same.retained.budgets child
  rw [List.getD_eq_getElem?_getD] at entry
  simp only [Core.Spec.budget, rootSpecBudget, same.retained.generation, entry]
  by_cases none : state.retained.generation = 0
  · simp [none, Core.Policy.budget]
  · have applied : state.retained.generation.toNat ≠ 0 :=
      fun zero => none (UInt64.toNat_inj.mp zero)
    simp only [if_neg none, if_neg applied]
    by_cases unset : state.retained.budget child = 0
    · simp [unset, Core.Policy.budget]
    · have named : (state.retained.budget child).toNat ≠ 0 :=
        fun zero => unset (UInt32.toNat_inj.mp zero)
      simp only [if_neg unset, policyBudget_capped named, UInt32.lt_iff_toNat_lt]
      split_ifs with below
      · exact Nat.min_eq_left (Nat.le_of_lt below)
      · exact Nat.min_eq_right (Nat.le_of_not_lt below)

/-- A lifetime plan is the policy's step. -/
theorem lifetimePlan_same {record : Core.Record} {held : RootChildRecord}
    (same : SameRecord record held) (budget : UInt32) {entry : UInt64} (usable : entry ≠ 0) :
    tracedAction (Core.Policy.step record budget.toNat entry.toNat).1 =
        rootRestartDecide held budget entry ∧
      SameRecord (Core.Policy.step record budget.toNat entry.toNat).2
        (lifetimeResult held (rootRestartDecide held budget entry)).next := by
  have reachable : entry.toNat ≠ 0 := fun zero => usable (UInt64.toNat_inj.mp zero)
  obtain ⟨state, lifetime⟩ := same
  obtain ⟨recordState, recordLifetime⟩ := record
  simp only at state lifetime
  subst lifetime
  simp only [Core.Policy.step, rootRestartDecide, if_neg usable, if_neg reachable, ge_iff_le,
    ← UInt32.le_iff_toNat_le]
  cases recordState with
  | gone =>
      have gone : held.state = .gone := state.symm
      simp only [if_true, gone]
      exact ⟨rfl, by simp [lifetimeResult, outcomeOf, childNext, gone, tracedState], rfl⟩
  | live =>
      have live : held.state = .live := state.symm
      simp only [reduceCtorEq, if_false, live]
      split_ifs with spent
      · exact ⟨rfl, by simp [lifetimeResult, outcomeOf, childNext, live, tracedState], rfl⟩
      · have room := UInt32.lt_iff_toNat_lt.mp (UInt32.not_le.mp spent)
        have limit := budget.toNat_lt
        refine ⟨rfl, by simp [lifetimeResult, outcomeOf, childNext, live, tracedState], ?_⟩
        simp only [lifetimeResult, outcomeOf, if_true, rootRecordCharge, UInt32.toNat_add]
        have one : (1 : UInt32).toNat = 1 := rfl
        omega

end Chrysopolis.Root
