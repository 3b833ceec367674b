import Chrysopolis.Root.RestartPlan

/-! What one restart plan can be. A gone record is ignored, a resume charges one
restart strictly below the ceiling, and a give-up only marks the record gone. -/

set_option autoImplicit false

namespace Chrysopolis.Root

/-- The actions that stop a child. -/
def RootRestartAction.GivesUp (action : RootRestartAction) : Prop :=
  outcomeOf action = .stop

instance (action : RootRestartAction) : Decidable action.GivesUp :=
  inferInstanceAs (Decidable (_ = _))

/-- The ceiling the selected decision holds the count against. -/
def planCeiling (spec : RootSpecState) (inputs : RootRestartInputs) : UInt32 :=
  let budget := rootSpecBudget spec inputs.child inputs.compiled inputs.hardMax
  match selectOf inputs with
  | .lifetime => budget
  | .lifetimeFallback => minU budget inputs.timed.lifetimeLimit
  | .timed => minU inputs.timed.policy.lifetimeLimit budget

theorem minU_le_left (left right : UInt32) : minU left right ≤ left := by
  unfold minU
  split <;> grind

theorem minU_le_right (left right : UInt32) : minU left right ≤ right := by
  unfold minU
  split <;> grind

theorem minU_comm (left right : UInt32) : minU left right = minU right left := by
  unfold minU
  split <;> split <;> grind

theorem planCeiling_le_budget (spec : RootSpecState) (inputs : RootRestartInputs) :
    planCeiling spec inputs ≤
      rootSpecBudget spec inputs.child inputs.compiled inputs.hardMax := by
  simp only [planCeiling]
  cases selectOf inputs with
  | lifetime => exact UInt32.le_refl _
  | lifetimeFallback => exact minU_le_left _ _
  | timed => exact minU_le_right _ _

/-- One case per way a request can end. -/
inductive PlanCase (record : RootChildRecord) (ceiling : UInt32) (entry : UInt64)
    (plan : RootRestartPlanResult) : Prop where
  | ignored (state : record.state = .gone) (action : plan.action = .ignoreGone)
      (next : plan.next = record)
  | resumed (state : record.state = .live) (action : plan.action = .resume)
      (below : record.lifetimeCount < ceiling) (usable : entry ≠ 0)
      (live : plan.next.state = .live)
      (charged : plan.next.lifetimeCount = record.lifetimeCount + 1)
  | gaveUp (state : record.state = .live) (action : plan.action.GivesUp)
      (next : plan.next = rootRecordGiveUp record)

theorem RootChildRecord.live_of_not_gone {record : RootChildRecord}
    (notGone : ¬ record.state = .gone) : record.state = .live := by
  cases state : record.state with
  | live => rfl
  | gone => exact absurd state notGone

/-- Stopping a live child through the plan is `rootRecordGiveUp`. -/
private theorem lifetimeResult_gaveUp {record : RootChildRecord} {action : RootRestartAction}
    (live : record.state = .live) (stops : action.GivesUp) :
    (lifetimeResult record action).next = rootRecordGiveUp record := by
  have effect : outcomeOf action = .stop := stops
  simp [lifetimeResult, effect, live, childNext, rootRecordGiveUp]

private theorem lifetimeResult_ignored {record : RootChildRecord} (gone : record.state = .gone) :
    (lifetimeResult record .ignoreGone).next = record := by
  cases record
  simp_all [lifetimeResult, outcomeOf, childNext]

private theorem lifetimeResult_case (record : RootChildRecord) (ceiling : UInt32)
    (entry : UInt64) :
    PlanCase record ceiling entry
      (lifetimeResult record (rootRestartDecide record ceiling entry)) := by
  unfold rootRestartDecide
  split_ifs with gone spent missing
  · exact .ignored gone rfl (lifetimeResult_ignored gone)
  · have live := RootChildRecord.live_of_not_gone gone
    exact .gaveUp live rfl (lifetimeResult_gaveUp live rfl)
  · have live := RootChildRecord.live_of_not_gone gone
    exact .gaveUp live rfl (lifetimeResult_gaveUp live rfl)
  · have live := RootChildRecord.live_of_not_gone gone
    exact .resumed live rfl (UInt32.not_le.mp spent) missing
      (by simp [lifetimeResult, outcomeOf, live, childNext])
      (by simp [lifetimeResult, outcomeOf, rootRecordCharge])

private theorem leakWindow_lifetime (record : RootChildRecord) (policy : RootBudgetPolicy)
    (now : UInt64) : (leakWindow record policy now).lifetimeCount = record.lifetimeCount := by
  simp only [leakWindow]
  split_ifs <;> rfl

private theorem chargeWindow_lifetime (record : RootChildRecord) (now : UInt64) :
    (chargeWindow record now).lifetimeCount = record.lifetimeCount + 1 := by
  simp only [chargeWindow]
  split_ifs <;> rfl

/-- One case per way the timed decision can end. -/
private inductive TimedCase (record : RootChildRecord) (limit : UInt32) (entry : UInt64)
    (decision : RootTimedDecision) : Prop where
  | ignored (state : record.state = .gone) (valid : decision.error = .valid)
      (action : decision.action = .ignoreGone)
  | invalid (state : record.state = .live) (error : decision.error ≠ .valid)
  | gaveUp (state : record.state = .live) (valid : decision.error = .valid)
      (action : decision.action.GivesUp)
  | resumed (state : record.state = .live) (valid : decision.error = .valid)
      (action : decision.action = .resume) (below : record.lifetimeCount < limit)
      (usable : entry ≠ 0) (charged : decision.next.lifetimeCount = record.lifetimeCount + 1)

private theorem rootRestartDecideAt_case (record : RootChildRecord) (policy : RootBudgetPolicy)
    (entry now : UInt64) :
    TimedCase record policy.lifetimeLimit entry
      (rootRestartDecideAt record policy entry now) := by
  simp only [rootRestartDecideAt]
  split_ifs with gone badPolicy badRecord regressed spent full missing
  · exact .ignored gone rfl rfl
  · exact .invalid (RootChildRecord.live_of_not_gone gone) (by simp)
  · exact .invalid (RootChildRecord.live_of_not_gone gone) (by simp)
  · exact .invalid (RootChildRecord.live_of_not_gone gone) (by simp)
  · exact .gaveUp (RootChildRecord.live_of_not_gone gone) rfl rfl
  · exact .gaveUp (RootChildRecord.live_of_not_gone gone) rfl rfl
  · exact .gaveUp (RootChildRecord.live_of_not_gone gone) rfl rfl
  · refine .resumed (RootChildRecord.live_of_not_gone gone) rfl rfl
      (UInt32.not_le.mp spent) missing ?_
    rw [chargeWindow_lifetime, leakWindow_lifetime]

private theorem timedResult_case {record : RootChildRecord} {limit : UInt32} {entry : UInt64}
    {decision : RootTimedDecision} (decided : TimedCase record limit entry decision) :
    PlanCase record limit entry (timedResult record decision) := by
  cases decided with
  | ignored gone valid action =>
      refine .ignored gone (by simp [timedResult, valid, action]) ?_
      cases record
      simp_all [timedResult, outcomeOf, childNext]
  | invalid live error =>
      exact .gaveUp live (by simp [timedResult, error, RootRestartAction.GivesUp, outcomeOf])
        (by simp [timedResult, error, live, childNext, rootRecordGiveUp])
  | gaveUp live valid action =>
      have effect : outcomeOf decision.action = .stop := action
      have notResume : decision.action ≠ .resume := by
        intro resumes
        simp [resumes, outcomeOf] at effect
      refine .gaveUp live ?_ ?_
      · simpa [timedResult, valid] using action
      · simp [timedResult, valid, effect, notResume, live, childNext, rootRecordGiveUp]
  | resumed live valid action below usable charged =>
      refine .resumed live (by simp [timedResult, valid, action]) below usable ?_ ?_
      · simp [timedResult, valid, action, live, outcomeOf, childNext]
      · simp [timedResult, valid, action, charged]

/-- Everything a restart plan can decide, guards included. -/
theorem rootRestartPlan_case (spec : RootSpecState) (record : RootChildRecord)
    (inputs : RootRestartInputs) :
    PlanCase record (planCeiling spec inputs) inputs.entry
      (rootRestartPlan spec record inputs) := by
  simp only [rootRestartPlan, planCeiling]
  cases selectOf inputs with
  | lifetime => exact lifetimeResult_case ..
  | lifetimeFallback => exact lifetimeResult_case ..
  | timed =>
      let budget := rootSpecBudget spec inputs.child inputs.compiled inputs.hardMax
      let policy :=
        { inputs.timed.policy with
          lifetimeLimit := minU inputs.timed.policy.lifetimeLimit budget }
      exact timedResult_case
        (rootRestartDecideAt_case record policy inputs.entry inputs.nowTicks)

/-- Only a gone child is ignored. -/
theorem rootRestartPlan_ignored {spec : RootSpecState} {record : RootChildRecord}
    {inputs : RootRestartInputs} :
    (rootRestartPlan spec record inputs).action = .ignoreGone ↔ record.state = .gone := by
  cases rootRestartPlan_case spec record inputs with
  | ignored state action => simp [state, action]
  | resumed state action => simp [state, action]
  | gaveUp state action =>
      have notIgnored : (rootRestartPlan spec record inputs).action ≠ .ignoreGone := by
        intro ignored
        simp [RootRestartAction.GivesUp, ignored, outcomeOf] at action
      simp [state, notIgnored]

end Chrysopolis.Root
