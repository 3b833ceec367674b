import Chrysopolis.Root.BudgetProperties

/-! The published ceiling and the next decision. Once Root has consumed a spec
page, consuming it again changes nothing, so the rows a publication shows are the
ceilings every later decision over that page holds the counts against. -/

set_option autoImplicit false

namespace Chrysopolis.Root

open Chrysopolis.Abi
open Chrysopolis.Support

/-! ### A settled page -/

/-- The page has nothing newer than the retained policy. -/
def Settled (page : Memory) (presentMask : UInt64) (retained : RootSpecPolicy) : Prop :=
  ∀ bank, Selected page presentMask retained bank →
    ¬ retained.generation < (bankPolicy page bank.val).generation

theorem settled_consumed (state : RootSpecState) (page : Memory) (mask : UInt64) :
    Settled page mask (rootSpecConsume state (some (.still page)) mask).1.retained := by
  intro bank selected later
  have twice := rootSpecConsume_twice state page mask
  cases rootSpecConsume_case (rootSpecConsume state (some (.still page)) mask).1 page mask with
  | applied _ _ _ outcome => exact twice outcome
  | unchanged second chosen equal =>
      rw [selected.unique chosen, equal] at later
      exact UInt64.lt_irrefl _ later
  | nothing unselected => exact unselected bank selected

theorem Settled.consume {state : RootSpecState} {page : Memory} {mask : UInt64}
    (settled : Settled page mask state.retained) :
    (rootSpecConsume state (some (.still page)) mask).1.retained = state.retained := by
  cases rootSpecConsume_case state page mask with
  | applied bank selected later => exact absurd later (settled bank selected)
  | unchanged bank selected equal outcome retained => exact retained
  | nothing unselected outcome retained => exact retained

/-- The shared page, when Root maps one, is settled. -/
def SettledOn (config : Config) (page : Memory) (state : DecisionState) : Prop :=
  state.specPage = true →
    Settled page (rootPresentChildren config) state.specState.retained

theorem settledOn_consumed (config : Config) (page : Memory) (state : DecisionState) :
    state.specPage = true →
      Settled page (rootPresentChildren config)
        (state.consumed config (.still page)).1.retained := by
  intro mapped
  simp only [DecisionState.consumed, sharedSpec, mapped, if_true]
  exact settled_consumed state.specState page (rootPresentChildren config)

theorem SettledOn.consume {config : Config} {page : Memory} {state : DecisionState}
    (settled : SettledOn config page state) :
    (state.consumed config (.still page)).1.retained = state.specState.retained := by
  simp only [DecisionState.consumed, sharedSpec]
  cases mapped : state.specPage with
  | true => exact Settled.consume (settled mapped)
  | false =>
      have unread := rootSpecConsume_retained state.specState none (rootPresentChildren config)
      exact (unread.resolve_left fun both => by simp [rootSpecConsume] at both).2

theorem rootStep_specPage (config : Config) (state : RootState) (input : RootInput) :
    (rootStep config state input).1.specPage = state.specPage ∧
      (rootStep config state input).1.rootTestBudget = state.rootTestBudget := by
  cases rootStep_case config state input with
  | requested target request asked effect =>
      exact ⟨congrArg DecisionState.specPage effect.decisions,
        congrArg DecisionState.rootTestBudget effect.decisions⟩
  | injected target unasked injection live decisions =>
      exact ⟨congrArg DecisionState.specPage decisions,
        congrArg DecisionState.rootTestBudget decisions⟩
  | quiet unasked uninjected decisions =>
      exact ⟨congrArg DecisionState.specPage decisions,
        congrArg DecisionState.rootTestBudget decisions⟩

/-- A callback over the settled page keeps the policy. -/
theorem rootStep_settled {config : Config} {page : Memory} {state : RootState}
    {input : RootInput} (settled : SettledOn config page state.decisions)
    (still : input.spec = .still page) :
    (rootStep config state input).1.specState.retained = state.specState.retained ∧
      SettledOn config page (rootStep config state input).1.decisions := by
  have same : (rootStep config state input).1.specState.retained = state.specState.retained := by
    rcases rootStep_specState config state input with consumed | kept
    · rw [consumed, still]
      exact settled.consume
    · rw [kept]
  refine ⟨same, fun mapped => ?_⟩
  have unmoved : (rootStep config state input).1.decisions.specPage = state.decisions.specPage :=
    (rootStep_specPage config state input).1
  change Settled _ _ (rootStep config state input).1.specState.retained
  rw [same]
  exact settled (unmoved ▸ mapped)

/-- A callback that decides a request over a page settles it. -/
theorem rootStep_settles {config : Config} {page : Memory} {state : RootState}
    {input : RootInput} {asker : RootChild × Request}
    (asked : requestOf config state input = some asker) (still : input.spec = .still page) :
    SettledOn config page (rootStep config state input).1.decisions := by
  cases rootStep_case config state input with
  | requested target request asked effect =>
      rw [SettledOn, effect.decisions, still]
      exact settledOn_consumed config page state.decisions
  | injected target unasked => simp [unasked] at asked
  | quiet unasked => simp [unasked] at asked

/-- Any callbacks over the settled page keep the policy. -/
theorem after_settled {config : Config} {page : Memory} {state : RootState}
    {inputs : List RootInput} (settled : SettledOn config page state.decisions)
    (still : ∀ input ∈ inputs, input.spec = .still page) :
    ((rootMachine config).after state inputs).specState.retained = state.specState.retained ∧
      SettledOn config page ((rootMachine config).after state inputs).decisions := by
  induction inputs generalizing state with
  | nil => exact ⟨rfl, settled⟩
  | cons input inputs ih =>
      obtain ⟨same, next⟩ := rootStep_settled settled (still input List.mem_cons_self)
      obtain ⟨rest, last⟩ := ih next fun later member => still later (List.mem_cons_of_mem _ member)
      exact ⟨rest.trans same, last⟩

/-- Root decided a request over the page and the page has not changed since. -/
def LastConsumed (config : Config) (boot : Boot) (inputs : List RootInput) (page : Memory) :
    Prop :=
  ∃ before deciding since, inputs = before ++ deciding :: since ∧
    (requestOf config (rootAfter config boot before) deciding).isSome ∧
    ∀ input ∈ deciding :: since, input.spec = .still page

theorem rootAfter_append (config : Config) (boot : Boot) (first second : List RootInput) :
    rootAfter config boot (first ++ second) =
      (rootMachine config).after (rootAfter config boot first) second :=
  (rootMachine config).after_append _ first second

theorem LastConsumed.settled {config : Config} {boot : Boot} {inputs : List RootInput}
    {page : Memory} (consumed : LastConsumed config boot inputs page) :
    SettledOn config page (rootAfter config boot inputs).decisions := by
  obtain ⟨before, deciding, since, rfl, asked, still⟩ := consumed
  obtain ⟨asker, asked⟩ := Option.isSome_iff_exists.mp asked
  rw [rootAfter_append]
  have settles := rootStep_settles asked (still deciding List.mem_cons_self)
  exact (after_settled settles fun input member => still input (List.mem_cons_of_mem _ member)).2

/-! ### The ceiling used -/

/-- A usable timed policy has the timed lifetime limit. -/
def TimedLimit (policy : RootBudgetPolicy) : Prop :=
  policy.capacity ≠ 0 → policy.lifetimeLimit = testLifetimeLimit

/-- With one limit for the timed selector and its fallback, the decision's
ceiling is the shown one, whatever the clock says. -/
theorem planCeiling_eq_ceiling (spec : RootSpecState) (inputs : RootRestartInputs)
    (limit : inputs.timed.policy.capacity ≠ 0 →
      inputs.timed.policy.lifetimeLimit = inputs.timed.lifetimeLimit) :
    planCeiling spec inputs = rootRestartCeiling spec inputs := by
  simp only [planCeiling, rootRestartCeiling, selectOf]
  cases enabled : inputs.timed.enabled with
  | false => simp
  | true =>
      by_cases unset : inputs.timed.policy.capacity = 0
      · simp [unset]
      · cases inputs.clockAvailable with
        | false => simp [unset, limit unset]
        | true => simpa [unset] using minU_comm _ _

/-- The decision's ceiling for a child is the one its row shows. -/
theorem planCeiling_shown (config : Config) (state : DecisionState) (child : RootChild)
    (read : UInt64) (limit : TimedLimit state.rootTestBudget) :
    planCeiling state.specState (state.inputs config child read) =
      shownCeiling config state child := by
  rw [planCeiling_eq_ceiling]
  · rfl
  · simp only [DecisionState.inputs]
    split_ifs with timed
    · exact limit
    · exact fun usable => absurd rfl usable

theorem rootAfter_timedLimit (config : Config) (boot : Boot) (inputs : List RootInput) :
    TimedLimit (rootAfter config boot inputs).rootTestBudget := by
  apply (rootMachine config).after_invariant (fun state => TimedLimit state.rootTestBudget)
  · intro state input limit
    have same : (rootStep config state input).1.rootTestBudget = state.rootTestBudget :=
      (rootStep_specPage config state input).2
    change TimedLimit (rootStep config state input).1.rootTestBudget
    rw [same]
    exact limit
  · change TimedLimit (if config.rootTestBudget then bootTestBudget (bootClock boot).1 else {})
    cases config.rootTestBudget with
    | false => exact fun usable => absurd rfl usable
    | true =>
        simp only [if_true, bootTestBudget]
        cases rootClockInterval (bootClock boot).1 testLeakMs with
        | ok interval => exact fun _ => rfl
        | error _ => exact fun usable => absurd rfl usable

theorem rootAfter_testBudget (config : Config) (boot : Boot) (inputs : List RootInput) :
    (rootAfter config boot inputs).rootTestBudget =
      (rootInit config boot).1.rootTestBudget := by
  apply (rootMachine config).after_invariant
    (fun state => state.rootTestBudget = (rootInit config boot).1.rootTestBudget)
  · exact fun state input same => (rootStep_specPage config state input).2.trans same
  · rfl

/-! ### The budget of a run -/

/-- The page shows a child's ceiling and a policy generation. -/
def ShowsPolicy (state : RootState) (child : RootChild) (ceiling : UInt32)
    (generation : UInt64) : Prop :=
  ∃ page, state.statusPage = some page ∧
    statusLayout.read page (.child child .effectiveBudget) = ceiling.toNat ∧
    statusLayout.read page (.header .appliedSpecGeneration) = generation.toNat

/-- After a publication the page shows the retained policy. -/
theorem rootStep_showsPolicy {config : Config} {boot : Boot} {inputs : List RootInput}
    {publishing : RootInput} {events : List RootEvent} {child : RootChild}
    (known : maskBit (rootPresentChildren config) child.val = true)
    (published : .published events ∈
      (rootStep config (rootAfter config boot inputs) publishing).2) :
    let after := rootAfter config boot (inputs ++ [publishing])
    ShowsPolicy after child (shownCeiling config after.decisions child)
      after.specState.retained.generation := by
  intro after
  have reached : after = (rootStep config (rootAfter config boot inputs) publishing).1 :=
    rootAfter_append config boot inputs [publishing]
  obtain ⟨clean, mapped⟩ := rootStep_written published
  rw [← reached] at clean mapped
  obtain ⟨page, mapped⟩ := Option.isSome_iff_exists.mp mapped
  obtain ⟨generation, budget⟩ := rootAfter_shown config boot (inputs ++ [publishing])
  have row : present after.statusState child = true := by
    rw [present, rootAfter_presentMask]
    exact known
  rcases rootAfter_policyKept config boot (inputs ++ [publishing]) page mapped with dirty | onPage
  · exact absurd (clean.symm.trans dirty) Bool.false_ne_true
  · refine ⟨page, mapped, ?_, ?_⟩
    · rw [onPage.2 child row, budget child row]
    · rw [onPage.1, generation]
      rfl

/-- A decision over the page Root last consumed uses the policy as it was. -/
theorem decision_uses {config : Config} {boot : Boot} {inputs later : List RootInput}
    {page : Memory} (consumed : LastConsumed config boot inputs page)
    (still : ∀ input ∈ later, input.spec = .still page) (child : RootChild) (read : UInt64) :
    let shown := rootAfter config boot inputs
    let deciding := (rootAfter config boot (inputs ++ later)).decisions
    let refreshed := (deciding.consumed config (.still page)).1
    planCeiling refreshed (deciding.inputs config child read) =
        shownCeiling config shown.decisions child ∧
      refreshed.retained.generation = shown.specState.retained.generation := by
  intro shown deciding refreshed
  obtain ⟨kept, settled⟩ := after_settled consumed.settled still
  rw [← rootAfter_append] at kept settled
  have same : refreshed.retained = shown.specState.retained :=
    (SettledOn.consume settled).trans kept
  have limit : TimedLimit deciding.rootTestBudget := rootAfter_timedLimit config boot _
  have test : deciding.rootTestBudget = shown.decisions.rootTestBudget :=
    (rootAfter_testBudget config boot _).trans (rootAfter_testBudget config boot _).symm
  refine ⟨?_, congrArg RootSpecPolicy.generation same⟩
  have used := planCeiling_shown config { deciding with specState := refreshed } child read limit
  exact used.trans (shownCeiling_congr child same test)

/-- What the budget keeps for a child after the inputs and at the next callbacks. -/
structure RestartBudget (config : Config) (boot : Boot) (inputs : List RootInput)
    (child : RootChild) : Prop where
  counted : resumes child (rootTrace config boot inputs) =
    ((rootAfter config boot inputs).childRecords child).lifetimeCount.toNat
  bounded : resumes child (rootTrace config boot inputs) ≤ budgetBound child
  below : ∀ input entry, entry ≠ 0 →
    .pdRestart child entry ∈ (rootStep config (rootAfter config boot inputs) input).2 →
    entry = rootRestartEntry config child ∧
      ((rootAfter config boot inputs).childRecords child).lifetimeCount.toNat <
        ceilingInForce
          (rootStep config (rootAfter config boot inputs) input).1.specState.retained child
  compiled : config.rootTestBudget = false → rootRestartEntry config child ≠ 0 →
    (rootAfter config boot inputs).specState.retained.generation = 0 →
    resumes child (rootTrace config boot inputs) =
        min (decided child (rootTrace config boot inputs)) (rootRestartBudget child).toNat ∧
      (((rootAfter config boot inputs).childRecords child).state = .gone ↔
        (rootRestartBudget child).toNat < decided child (rootTrace config boot inputs))
  shown : ∀ publishing events, maskBit (rootPresentChildren config) child.val = true →
    .published events ∈ (rootStep config (rootAfter config boot inputs) publishing).2 →
    ShowsPolicy (rootAfter config boot (inputs ++ [publishing])) child
      (shownCeiling config (rootAfter config boot (inputs ++ [publishing])).decisions child)
      (rootAfter config boot (inputs ++ [publishing])).specState.retained.generation
  used : ∀ publishing events page later read,
    maskBit (rootPresentChildren config) child.val = true →
    .published events ∈ (rootStep config (rootAfter config boot inputs) publishing).2 →
    LastConsumed config boot (inputs ++ [publishing]) page →
    (∀ input ∈ later, input.spec = .still page) →
    let deciding := (rootAfter config boot (inputs ++ [publishing] ++ later)).decisions
    ShowsPolicy (rootAfter config boot (inputs ++ [publishing])) child
      (planCeiling (deciding.consumed config (.still page)).1 (deciding.inputs config child read))
      (deciding.consumed config (.still page)).1.retained.generation

/-- The restart budget of every child over every run. -/
theorem restart_budget (config : Config) (boot : Boot) (inputs : List RootInput)
    (child : RootChild) : RestartBudget config boot inputs child := by
  obtain ⟨counted, bounded⟩ := rootTrace_counted config boot inputs child
  refine ⟨counted, counted ▸ bounded, ?_, ?_, ?_, ?_⟩
  · intro input entry usable resumed
    obtain ⟨entryEq, below, _⟩ :=
      rootStep_resume (rootAfter_compiled config boot inputs) resumed usable
    exact ⟨entryEq, below⟩
  · intro lifetime usable unapplied
    rw [counted]
    exact rootTrace_compiledLimit boot inputs lifetime usable unapplied
  · intro publishing events known published
    exact rootStep_showsPolicy known published
  · intro publishing events page later read known published consumed still deciding
    obtain ⟨ceiling, generation⟩ := decision_uses consumed still child read
    rw [ceiling, generation]
    exact rootStep_showsPolicy known published

/-- Three runs outside those conditions. Without an entry the first request gives
up; a timed image gives up at its own limit; and boot shows the compiled policy
although the page already holds a later one, which the first decision uses. -/
theorem budget_differs :
    (let run := [sampleFault childBlk]
     let config := { sampleConfig with restartEntry := 0 }
     resumes childBlk (rootTrace config sampleBoot run) = 0 ∧
       ((rootAfter config sampleBoot run).childRecords childBlk).state = .gone ∧
       (rootAfter config sampleBoot run).specState.retained.generation = 0 ∧
       (rootRestartBudget childBlk).toNat ≠ 0) ∧
    (let run := List.replicate 4 (sampleFault childBlk)
     let config := { sampleConfig with rootTestBudget := true }
     resumes childBlk (rootTrace config sampleBoot run) ≠ (rootRestartBudget childBlk).toNat ∧
       ((rootAfter config sampleBoot run).childRecords childBlk).state = .gone ∧
       (rootAfter config sampleBoot run).specState.retained.generation = 0) ∧
    (∃ page, (rootInit sampleConfig sampleBoot).1.statusPage = some page ∧
      (∃ events, .published events ∈ (rootInit sampleConfig sampleBoot).2) ∧
      statusLayout.read page (.header .appliedSpecGeneration) = 0 ∧
      ((rootInit sampleConfig sampleBoot).1.decisions.consumed sampleConfig
        (.still (sealedPage childCount))).1.retained.generation = 1) := by
  refine ⟨by decide +kernel, by decide +kernel, ?_⟩
  obtain ⟨page, mapped⟩ := Option.isSome_iff_exists.mp
    (by decide +kernel : (rootInit sampleConfig sampleBoot).1.statusPage.isSome = true)
  have booted : ∃ events, RootAct.published events ∈ (rootInit sampleConfig sampleBoot).2 := by
    refine ⟨(publishedOf (rootInit sampleConfig sampleBoot).2), ?_⟩
    decide +kernel
  refine ⟨page, mapped, booted, ?_, ?_⟩
  · have read : ((rootInit sampleConfig sampleBoot).1.statusPage.map fun bytes =>
        statusLayout.read bytes (.header .appliedSpecGeneration)) = some 0 := by decide +kernel
    rw [mapped] at read
    exact Option.some.inj read
  · have fresh : (rootInit sampleConfig sampleBoot).1.decisions.specState = rootSpecInit := rfl
    have shared : (rootInit sampleConfig sampleBoot).1.decisions.specPage = true := rfl
    rw [DecisionState.consumed, fresh, shared, sharedSpec, if_pos rfl]
    exact (sealedPage_applied _).2

end Chrysopolis.Root
