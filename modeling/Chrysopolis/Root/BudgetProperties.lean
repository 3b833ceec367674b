import Chrysopolis.Root.PolicyProperties

/-! The restart budget. A child is resumed as often as its record counts, always
strictly below the ceiling in force, and a published row shows the ceiling the
next decision on an unchanged spec page holds the count against. -/

set_option autoImplicit false

namespace Chrysopolis.Root

open Chrysopolis.Abi
open Chrysopolis.Support

/-! ### Resumes and the record -/

/-- The act resumes the child at an entry; an injected fault restarts it at 0. -/
def RootAct.resumes (child : RootChild) : RootAct → Bool
  | .pdRestart target entry => target == child && entry != 0
  | _ => false

/-- How often the acts resume a child. -/
def resumes (child : RootChild) (acts : List RootAct) : Nat :=
  acts.countP (RootAct.resumes child)

theorem resumes_append (child : RootChild) (first second : List RootAct) :
    resumes child (first ++ second) = resumes child first + resumes child second :=
  List.countP_append

/-- Only kernel calls resume. -/
theorem resumes_calls (child : RootChild) (acts : List RootAct) :
    resumes child (calls acts) = resumes child acts := by
  have same : ∀ act : RootAct, (act.resumes child && act.isCall) = act.resumes child := by
    intro act
    cases act <;> simp [RootAct.resumes, RootAct.isCall]
  simp only [resumes, calls, List.countP_filter, same]

theorem obituary_resumes (config : Config) (target child : RootChild) :
    resumes child (obituary config target) = 0 := by
  simp only [obituary]
  split_ifs <;> rfl

theorem actionCalls_resumes (config : Config) (target child : RootChild) {entry : UInt64}
    (usable : entry ≠ 0) (action : RootRestartAction) :
    resumes child (actionCalls config target entry action) =
      if target = child ∧ action = .resume then 1 else 0 := by
  have rest := obituary_resumes config target child
  cases action with
  | resume =>
      by_cases same : target = child <;>
        simp [actionCalls, outcomeOf, resumes, RootAct.resumes, same, usable]
  | ignoreGone => simp [actionCalls, outcomeOf, resumes]
  | _ => simpa [actionCalls, outcomeOf, resumes, RootAct.resumes] using rest

/-- The larger of the compiled limit and the hard maximum. -/
def budgetBound (child : RootChild) : Nat :=
  max (rootRestartBudget child).toNat hardBudgetMax.toNat

theorem rootSpecBudget_le (spec : RootSpecState) (child : RootChild) :
    (rootSpecBudget spec child (rootRestartBudget child) hardBudgetMax).toNat ≤
      budgetBound child := by
  simp only [rootSpecBudget, budgetBound]
  split_ifs with compiled unset below
  · exact Nat.le_max_left _ _
  · exact Nat.le_max_left _ _
  · exact Nat.le_trans (Nat.le_of_lt (UInt32.lt_iff_toNat_lt.mp below)) (Nat.le_max_right _ _)
  · exact Nat.le_max_right _ _

/-- The count is what the acts resumed, within the bound. -/
def Counted (child : RootChild) (acts : List RootAct) (state : RootState) : Prop :=
  resumes child acts = (state.childRecords child).lifetimeCount.toNat ∧
    (state.childRecords child).lifetimeCount.toNat ≤ budgetBound child

/-- One request charges its child's record exactly when it resumes it. -/
theorem plan_counted (config : Config) {child : RootChild} {record : RootChildRecord}
    {ceiling : UInt32} {entry : UInt64} {plan : RootRestartPlanResult}
    (decided : PlanCase record ceiling entry plan) (bound : ceiling.toNat ≤ budgetBound child)
    (within : record.lifetimeCount.toNat ≤ budgetBound child) :
    plan.next.lifetimeCount.toNat =
        record.lifetimeCount.toNat +
          resumes child (actionCalls config child entry plan.action) ∧
      plan.next.lifetimeCount.toNat ≤ budgetBound child := by
  cases decided with
  | ignored gone action next =>
      rw [next, action]
      exact ⟨rfl, within⟩
  | resumed live action below usable stays charged =>
      have order := UInt32.lt_iff_toNat_lt.mp below
      have small := ceiling.toNat_lt
      have next : plan.next.lifetimeCount.toNat = record.lifetimeCount.toNat + 1 := by
        have one : (1 : UInt32).toNat = 1 := by decide
        rw [charged, UInt32.toNat_add, one]
        omega
      rw [actionCalls_resumes config child child usable, if_pos ⟨rfl, action⟩, next]
      exact ⟨rfl, by omega⟩
  | gaveUp live stops next =>
      have effect : outcomeOf plan.action = .stop := stops
      have none : resumes child (actionCalls config child entry plan.action) = 0 := by
        have rest := obituary_resumes config child child
        simpa [actionCalls, effect, resumes, RootAct.resumes] using rest
      rw [next, none]
      exact ⟨rfl, within⟩

theorem actionCalls_resumes_other (config : Config) {target child : RootChild}
    (other : target ≠ child) (entry : UInt64) (action : RootRestartAction) :
    resumes child (actionCalls config target entry action) = 0 := by
  have rest := obituary_resumes config target child
  simp only [actionCalls]
  cases outcomeOf action with
  | none => rfl
  | charge => simp [resumes, RootAct.resumes, other]
  | stop => simpa [resumes, RootAct.resumes] using rest

theorem DecisionState.ceiling_le (config : Config) (state : DecisionState) (child : RootChild)
    (spec : SpecPageRead) (read : UInt64) :
    (planCeiling (state.consumed config spec).1 (state.inputs config child read)).toNat ≤
      budgetBound child :=
  Nat.le_trans (UInt32.le_iff_toNat_le.mp (planCeiling_le_budget _ _))
    (rootSpecBudget_le _ child)

/-- Every callback keeps the count. -/
theorem rootStep_counted (config : Config) {child : RootChild} {acts : List RootAct}
    {state : RootState} (input : RootInput) (counted : Counted child acts state) :
    Counted child (acts ++ (rootStep config state input).2) (rootStep config state input).1 := by
  obtain ⟨count, within⟩ := counted
  rw [Counted, resumes_append, ← resumes_calls child (rootStep config state input).2, count]
  cases rootStep_case config state input with
  | requested target request asked effect =>
      have records : (rootStep config state input).1.childRecords =
          Function.update state.childRecords target
            (state.decisions.plan config target input.spec input.reads.observe).next :=
        congrArg DecisionState.childRecords effect.decisions
      rw [records, effect.calls]
      by_cases same : target = child
      · subst same
        have charged := plan_counted config
          (rootRestartPlan_of_plan config state.decisions target input.spec input.reads.observe)
          (DecisionState.ceiling_le ..) within
        simp only [Function.update_self]
        exact ⟨charged.1.symm, charged.2⟩
      · rw [actionCalls_resumes_other config same, Function.update_of_ne (Ne.symm same)]
        exact ⟨rfl, within⟩
  | injected target unasked injection live decisions called decided =>
      have records : (rootStep config state input).1.childRecords = state.childRecords :=
        congrArg DecisionState.childRecords decisions
      rw [records, called]
      exact ⟨by simp [resumes, RootAct.resumes], within⟩
  | quiet unasked uninjected decisions silent =>
      have records : (rootStep config state input).1.childRecords = state.childRecords :=
        congrArg DecisionState.childRecords decisions
      rw [records, silent.1]
      exact ⟨rfl, within⟩

theorem rootInit_calls (config : Config) (boot : Boot) : calls (rootInit config boot).2 = [] := by
  simp only [rootInit]
  split_ifs <;> rfl

/-- Over every run, a child was resumed as often as its record counts. -/
theorem rootTrace_counted (config : Config) (boot : Boot) (inputs : List RootInput)
    (child : RootChild) :
    Counted child (rootTrace config boot inputs) (rootAfter config boot inputs) := by
  apply (rootMachine config).trace_invariant (Counted child)
  · exact fun emitted state input counted => rootStep_counted config input counted
  · rw [Counted, ← resumes_calls, rootInit_calls]
    exact ⟨rfl, Nat.zero_le _⟩

/-! ### The ceiling in force -/

/-- The lifetime ceiling a policy sets: the compiled limit where it has no budget. -/
def ceilingInForce (retained : RootSpecPolicy) (child : RootChild) : Nat :=
  if retained.budget child = 0 then (rootRestartBudget child).toNat
  else min (retained.budget child).toNat hardBudgetMax.toNat

/-- The compiled-in policy has no budgets. -/
def CompiledEmpty (retained : RootSpecPolicy) : Prop :=
  retained.generation = 0 → ∀ child, retained.budget child = 0

theorem rootSpecBudget_inForce {spec : RootSpecState} (compiled : CompiledEmpty spec.retained)
    (child : RootChild) :
    (rootSpecBudget spec child (rootRestartBudget child) hardBudgetMax).toNat =
      ceilingInForce spec.retained child := by
  simp only [rootSpecBudget, ceilingInForce]
  split_ifs with generation unset set below
  · rfl
  · exact absurd (compiled generation child) unset
  · rfl
  · exact (Nat.min_eq_left (Nat.le_of_lt (UInt32.lt_iff_toNat_lt.mp below))).symm
  · exact (Nat.min_eq_right (UInt32.le_iff_toNat_le.mp (UInt32.not_lt.mp below))).symm

theorem rootSpecConsume_compiled {state : RootSpecState} (shared : Option SpecPageRead)
    (mask : UInt64) (compiled : CompiledEmpty state.retained) :
    CompiledEmpty (rootSpecConsume state shared mask).1.retained := by
  rcases rootSpecConsume_retained state shared mask with ⟨_, later⟩ | ⟨_, same⟩
  · intro zero
    rw [zero] at later
    exact absurd later UInt64.not_lt_zero
  · rw [same]
    exact compiled

/-- What every callback does to the spec state. -/
theorem rootStep_specState (config : Config) (state : RootState) (input : RootInput) :
    (rootStep config state input).1.specState =
        (state.decisions.consumed config input.spec).1 ∨
      (rootStep config state input).1.specState = state.specState := by
  cases rootStep_case config state input with
  | requested target request asked effect =>
      exact .inl (congrArg DecisionState.specState effect.decisions)
  | injected target unasked injection live decisions called decided =>
      exact .inr (congrArg DecisionState.specState decisions)
  | quiet unasked uninjected decisions silent =>
      exact .inr (congrArg DecisionState.specState decisions)

theorem rootAfter_compiled (config : Config) (boot : Boot) (inputs : List RootInput) :
    CompiledEmpty (rootAfter config boot inputs).specState.retained := by
  apply (rootMachine config).after_invariant
    (fun state => CompiledEmpty state.specState.retained)
  · intro state input compiled
    have moved : (rootStep config state input).1.specState = _ ∨ _ :=
      rootStep_specState config state input
    change CompiledEmpty (rootStep config state input).1.specState.retained
    rcases moved with consumed | same
    · rw [consumed]
      exact rootSpecConsume_compiled _ _ compiled
    · rw [same]
      exact compiled
  · intro _ _
    rfl

/-- Only a resume restarts, and it restarts its own child. -/
theorem mem_actionCalls {config : Config} {target child : RootChild} {at_ entry : UInt64}
    {action : RootRestartAction}
    (member : .pdRestart child entry ∈ actionCalls config target at_ action) :
    child = target ∧ entry = at_ ∧ action = .resume := by
  cases action with
  | resume => simpa [actionCalls, outcomeOf] using member
  | ignoreGone => simp [actionCalls, outcomeOf] at member
  | _ =>
      exfalso
      simp only [actionCalls, outcomeOf, obituary] at member
      split_ifs at member <;> simp at member

/-- A resume is at the child's entry, charges one restart, and finds the count
strictly below the ceiling of the policy retained after the refresh. -/
theorem rootStep_resume {config : Config} {state : RootState} {input : RootInput}
    {child : RootChild} {entry : UInt64} (compiled : CompiledEmpty state.specState.retained)
    (resumed : .pdRestart child entry ∈ (rootStep config state input).2) (usable : entry ≠ 0) :
    entry = rootRestartEntry config child ∧
      (state.childRecords child).lifetimeCount.toNat <
        ceilingInForce (rootStep config state input).1.specState.retained child ∧
      ((rootStep config state input).1.childRecords child).lifetimeCount =
        (state.childRecords child).lifetimeCount + 1 := by
  have called : .pdRestart child entry ∈ calls (rootStep config state input).2 :=
    mem_calls.mpr ⟨resumed, rfl⟩
  cases rootStep_case config state input with
  | requested target request asked effect =>
      rw [effect.calls] at called
      obtain ⟨rfl, entryEq, resumes⟩ := mem_actionCalls called
      have specState : (rootStep config state input).1.specState =
          (state.decisions.consumed config input.spec).1 :=
        congrArg DecisionState.specState effect.decisions
      have record : (rootStep config state input).1.childRecords child =
          (state.decisions.plan config child input.spec input.reads.observe).next := by
        have records := congrArg DecisionState.childRecords effect.decisions
        exact (congrFun records child).trans (Function.update_self ..)
      have bound := planCeiling_le_budget (state.decisions.consumed config input.spec).1
        (state.decisions.inputs config child input.reads.observe)
      have force := rootSpecBudget_inForce
        (rootSpecConsume_compiled (sharedSpec state.specPage input.spec)
          (rootPresentChildren config) compiled) child
      cases rootRestartPlan_of_plan config state.decisions child input.spec
          input.reads.observe with
      | ignored gone action => simp [action] at resumes
      | gaveUp live stops => simp [RootRestartAction.GivesUp, resumes, outcomeOf] at stops
      | resumed live action below _ stays charged =>
          refine ⟨entryEq, ?_, ?_⟩
          · rw [specState]
            exact Nat.lt_of_lt_of_le (UInt32.lt_iff_toNat_lt.mp below)
              (Nat.le_trans (UInt32.le_iff_toNat_le.mp bound) (Nat.le_of_eq force))
          · rw [record]
            exact charged
  | injected target unasked injection live decisions calls decided =>
      rw [calls] at called
      simp [usable] at called
  | quiet unasked uninjected decisions silent =>
      rw [silent.1] at called
      simp at called

/-! ### The compiled limit -/

/-- How many requests were decided for a child. -/
def decided (child : RootChild) (acts : List RootAct) : Nat :=
  (decisionsOf acts).countP (fun decision => decision.child == child)

theorem decided_append (child : RootChild) (first second : List RootAct) :
    decided child (first ++ second) = decided child first + decided child second := by
  simp only [decided, decisionsOf_append, List.countP_append]

/-- While no spec was applied, a child of a lifetime-only Root with an entry is
charged for each request up to its compiled limit, and gone past it. -/
def CompiledLimit (child : RootChild) (acts : List RootAct) (state : RootState) : Prop :=
  state.specState.retained.generation = 0 →
    (state.childRecords child).lifetimeCount.toNat =
        min (decided child acts) (rootRestartBudget child).toNat ∧
      ((state.childRecords child).state = .gone ↔
        (rootRestartBudget child).toNat < decided child acts)

/-- The plan of a lifetime-only Root over the compiled policy. -/
theorem plan_compiled {config : Config} {state : DecisionState} {child : RootChild}
    {spec : SpecPageRead} {read : UInt64} (lifetime : config.rootTestBudget = false)
    (unapplied : (state.consumed config spec).1.retained.generation = 0) :
    state.plan config child spec read =
      lifetimeResult (state.childRecords child)
        (rootRestartDecide (state.childRecords child) (rootRestartBudget child)
          (rootRestartEntry config child)) := by
  simp only [DecisionState.plan, rootRestartPlan, DecisionState.inputs, selectOf, lifetime,
    Bool.false_eq_true, if_false, Bool.not_false, if_true, rootSpecBudget, unapplied]

theorem rootSpecConsume_unapplied {state : RootSpecState} {shared : Option SpecPageRead}
    {mask : UInt64} (zero : (rootSpecConsume state shared mask).1.retained.generation = 0) :
    state.retained.generation = 0 := by
  rcases rootSpecConsume_retained state shared mask with ⟨_, later⟩ | ⟨_, same⟩
  · rw [zero] at later
    exact absurd later UInt64.not_lt_zero
  · rwa [same] at zero

/-- One more request against the compiled limit. -/
theorem lifetimeResult_compiled {record : RootChildRecord} {limit : UInt32} {entry : UInt64}
    {asked : Nat} (usable : entry ≠ 0)
    (count : record.lifetimeCount.toNat = min asked limit.toNat)
    (gone : record.state = .gone ↔ limit.toNat < asked) :
    let next := (lifetimeResult record (rootRestartDecide record limit entry)).next
    next.lifetimeCount.toNat = min (asked + 1) limit.toNat ∧
      (next.state = .gone ↔ limit.toNat < asked + 1) := by
  simp only [rootRestartDecide]
  split_ifs with stopped spent
  · have past := gone.mp stopped
    simp only [lifetimeResult, outcomeOf, stopped, childNext]
    refine ⟨?_, fun _ => by omega, fun _ => trivial⟩
    change record.lifetimeCount.toNat = _
    omega
  · have reached := UInt32.le_iff_toNat_le.mp spent
    have within := mt gone.mpr stopped
    have live := RootChildRecord.live_of_not_gone stopped
    simp only [lifetimeResult, outcomeOf, live, childNext]
    refine ⟨?_, fun _ => by omega, fun _ => trivial⟩
    change record.lifetimeCount.toNat = _
    omega
  · have within := mt gone.mpr stopped
    have live := RootChildRecord.live_of_not_gone stopped
    have below := UInt32.lt_iff_toNat_lt.mp (UInt32.not_le.mp spent)
    have small := limit.toNat_lt
    have one : (1 : UInt32).toNat = 1 := by decide
    simp only [lifetimeResult, outcomeOf, live, childNext]
    refine ⟨?_, fun same => RootChildState.noConfusion same, fun past => by omega⟩
    change (record.lifetimeCount + 1).toNat = _
    rw [UInt32.toNat_add, one]
    omega

theorem rootStep_compiledLimit {config : Config} {child : RootChild} {acts : List RootAct}
    {state : RootState} (input : RootInput) (lifetime : config.rootTestBudget = false)
    (usable : rootRestartEntry config child ≠ 0) (limit : CompiledLimit child acts state) :
    CompiledLimit child (acts ++ (rootStep config state input).2)
      (rootStep config state input).1 := by
  intro zero
  rw [decided_append]
  have unmoved : (rootStep config state input).1.decisions = state.decisions →
      decided child (rootStep config state input).2 = 0 →
      ((rootStep config state input).1.childRecords child).lifetimeCount.toNat =
          min (decided child acts + decided child (rootStep config state input).2)
            (rootRestartBudget child).toNat ∧
        (((rootStep config state input).1.childRecords child).state = .gone ↔
          (rootRestartBudget child).toNat <
            decided child acts + decided child (rootStep config state input).2) := by
    intro decisions none
    have specState : (rootStep config state input).1.specState = state.specState :=
      congrArg DecisionState.specState decisions
    have records : (rootStep config state input).1.childRecords = state.childRecords :=
      congrArg DecisionState.childRecords decisions
    rw [specState] at zero
    rw [records, none]
    exact limit zero
  cases rootStep_case config state input with
  | requested target request asked effect =>
      have specState : (rootStep config state input).1.specState =
          (state.decisions.consumed config input.spec).1 :=
        congrArg DecisionState.specState effect.decisions
      have records : (rootStep config state input).1.childRecords =
          Function.update state.childRecords target
            (state.decisions.plan config target input.spec input.reads.observe).next :=
        congrArg DecisionState.childRecords effect.decisions
      rw [specState] at zero
      obtain ⟨count, gone⟩ := limit (rootSpecConsume_unapplied zero)
      rw [records, decided, decided, effect.decided, List.countP_singleton]
      by_cases same : target = child
      · subst same
        rw [Function.update_self, plan_compiled lifetime zero, beq_self_eq_true]
        exact lifetimeResult_compiled usable count gone
      · rw [Function.update_of_ne (Ne.symm same), beq_eq_false_iff_ne.mpr same]
        exact ⟨count, gone⟩
  | injected target unasked injection live decisions calls none =>
      exact unmoved decisions (by rw [decided, none]; rfl)
  | quiet unasked uninjected decisions silent =>
      exact unmoved decisions (by rw [decided, silent.2]; rfl)

theorem rootTrace_compiledLimit {config : Config} (boot : Boot) (inputs : List RootInput)
    {child : RootChild} (lifetime : config.rootTestBudget = false)
    (usable : rootRestartEntry config child ≠ 0) :
    CompiledLimit child (rootTrace config boot inputs) (rootAfter config boot inputs) := by
  apply (rootMachine config).trace_invariant (CompiledLimit child)
  · exact fun acts state input limit => rootStep_compiledLimit input lifetime usable limit
  · intro _
    have none : decided child (rootInit config boot).2 = 0 := by
      simp only [rootInit]
      split_ifs <;> rfl
    rw [none]
    exact ⟨(Nat.zero_min _).symm, fun gone => RootChildState.noConfusion gone,
      fun past => absurd past (Nat.not_lt_zero _)⟩

end Chrysopolis.Root
