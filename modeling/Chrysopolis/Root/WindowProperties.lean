import Chrysopolis.Root.RestartPlanProperties
import Chrysopolis.Support.LeakyCount

/-! The timed window over any run of decisions: it is a leaky count, so the resumes
it lets through are bounded by its capacity and the time since the first charge. -/

set_option autoImplicit false

namespace Chrysopolis.Root

open Chrysopolis.Support

/-- A policy the timed selector accepts. -/
structure RootBudgetPolicy.Valid (policy : RootBudgetPolicy) : Prop where
  capacity : policy.capacity ≠ 0
  lifetime : policy.lifetimeLimit ≠ 0
  interval : policy.leakIntervalTicks ≠ 0

/-- A decision asked for at a time, and what the caller keeps when it does not
resume: the record or the decision's, given up or not. -/
structure TimedCall where
  entry : UInt64
  nowTicks : UInt64
  keepNext : Bool
  giveUp : Bool

/-- The record after a decision. -/
def TimedCall.commit (call : TimedCall) (record : RootChildRecord)
    (decision : RootTimedDecision) : RootChildRecord :=
  if decision.action = .resume then decision.next
  else
    let kept := if call.keepNext then decision.next else record
    if call.giveUp then rootRecordGiveUp kept else kept

/-- The times of the resumes so far, and the record. -/
structure TimedState where
  resumes : List UInt64 := []
  record : RootChildRecord := {}

def timedStep (policy : RootBudgetPolicy) (state : TimedState) (call : TimedCall) : TimedState :=
  let decision := rootRestartDecideAt state.record policy call.entry call.nowTicks
  { resumes :=
      if decision.action = .resume then state.resumes ++ [call.nowTicks] else state.resumes
    record := call.commit state.record decision }

/-- The decisions of a child from its fresh record. -/
def timedRun (policy : RootBudgetPolicy) (calls : List TimedCall) : TimedState :=
  calls.foldl (timedStep policy) {}

/-- What a record satisfies from its last decision on. -/
structure WindowOk (policy : RootBudgetPolicy) (record : RootChildRecord) (time : UInt64) :
    Prop where
  window : record.windowCount ≤ policy.capacity
  charged : record.lastChargeValid = (record.windowCount != 0)
  past : record.lastChargeValid = true → record.lastChargeTicks ≤ time

/-- The window as a leaky count. An empty one has leaked up to the present. -/
def RootChildRecord.leaky (record : RootChildRecord) (time : UInt64) : LeakyCount :=
  ⟨record.windowCount.toNat,
    if record.lastChargeValid then record.lastChargeTicks.toNat else time.toNat⟩

/-! ## Words -/

/-- The charges that leaked out by now. -/
def leakedBy (record : RootChildRecord) (policy : RootBudgetPolicy) (now : UInt64) : Nat :=
  (now.toNat - record.lastChargeTicks.toNat) / policy.leakIntervalTicks.toNat

/-- What a decision computes is exact. -/
structure WindowExact (policy : RootBudgetPolicy) (record : RootChildRecord) (now : UInt64) :
    Prop where
  divisor : policy.leakIntervalTicks ≠ 0
  elapsed : record.lastChargeValid = true → record.lastChargeTicks ≤ now
  leaked : record.lastChargeValid = true → leakedBy record policy now < record.windowCount.toNat →
    leakedBy record policy now < 2 ^ 32 ∧
      leakedBy record policy now * policy.leakIntervalTicks.toNat < 2 ^ 64 ∧
      record.lastChargeTicks.toNat + leakedBy record policy now * policy.leakIntervalTicks.toNat <
        2 ^ 64
  charged : (leakWindow record policy now).windowCount < policy.capacity →
    (leakWindow record policy now).windowCount.toNat + 1 < 2 ^ 32
  counted : record.lifetimeCount < policy.lifetimeLimit → record.lifetimeCount.toNat + 1 < 2 ^ 32

variable {policy : RootBudgetPolicy} {record : RootChildRecord} {time now : UInt64}

theorem leakedBy_mul_le (policy : RootBudgetPolicy) (order : record.lastChargeTicks ≤ now) :
    record.lastChargeTicks.toNat + leakedBy record policy now * policy.leakIntervalTicks.toNat ≤
      now.toNat := by
  have whole : leakedBy record policy now * policy.leakIntervalTicks.toNat ≤
      now.toNat - record.lastChargeTicks.toNat := Nat.div_mul_le_self _ _
  rw [UInt64.le_iff_toNat_le] at order
  omega

theorem below_succ {count limit : UInt32} (below : count < limit) : count.toNat + 1 < 2 ^ 32 := by
  have narrow := limit.toNat_lt
  rw [UInt32.lt_iff_toNat_lt] at below
  omega

theorem WindowOk.exact (ok : WindowOk policy record now) (valid : policy.Valid) :
    WindowExact policy record now := by
  refine ⟨valid.interval, ok.past, fun charged few => ?_, below_succ, below_succ⟩
  have sum := leakedBy_mul_le policy (ok.past charged)
  have narrow := record.windowCount.toNat_lt
  have wide := now.toNat_lt
  refine ⟨?_, ?_, ?_⟩ <;> omega

/-- One case per way a window leaks. -/
inductive LeakCase (policy : RootBudgetPolicy) (record : RootChildRecord) (now : UInt64) :
    RootChildRecord → Prop where
  | idle (idle : record.lastChargeValid = false) : LeakCase policy record now record
  | emptied (valid : record.lastChargeValid = true)
      (all : record.windowCount.toNat ≤ leakedBy record policy now) :
      LeakCase policy record now { record with windowCount := 0, lastChargeValid := false }
  | early (valid : record.lastChargeValid = true) (none : leakedBy record policy now = 0) :
      LeakCase policy record now record
  | leaked (valid : record.lastChargeValid = true)
      (few : leakedBy record policy now < record.windowCount.toNat) (window : UInt32)
      (last : UInt64)
      (windowExact : window.toNat = record.windowCount.toNat - leakedBy record policy now)
      (lastExact : last.toNat = record.lastChargeTicks.toNat +
        leakedBy record policy now * policy.leakIntervalTicks.toNat) :
      LeakCase policy record now
        { record with windowCount := window, lastChargeTicks := last }

theorem leakWindow_case (past : record.lastChargeValid = true → record.lastChargeTicks ≤ now) :
    LeakCase policy record now (leakWindow record policy now) := by
  unfold leakWindow
  split_ifs with valid
  · have order := past valid
    have count : ((now - record.lastChargeTicks) / policy.leakIntervalTicks).toNat =
        leakedBy record policy now := by
      rw [UInt64.toNat_div, UInt64.toNat_sub_of_le _ _ order, leakedBy]
    have sum := leakedBy_mul_le policy order
    dsimp only
    generalize (now - record.lastChargeTicks) / policy.leakIntervalTicks = leaked at count ⊢
    rw [← count] at sum
    split_ifs with all some
    · rw [ge_iff_le, UInt64.le_iff_toNat_le, count, UInt32.toNat_toUInt64] at all
      exact .emptied valid all
    · rw [ge_iff_le, UInt64.le_iff_toNat_le, UInt32.toNat_toUInt64, Nat.not_le] at all
      have narrow := record.windowCount.toNat_lt
      have wide := now.toNat_lt
      have cast : leaked.toUInt32.toNat = leaked.toNat := by
        rw [UInt64.toNat_toUInt32, Nat.mod_eq_of_lt (by omega)]
      refine .leaked valid (count ▸ all) _ _ ?_ ?_
      · rw [UInt32.toNat_sub_of_le _ _ (UInt32.le_iff_toNat_le.mpr (by omega)), cast, count]
      · rw [UInt64.toNat_add, UInt64.toNat_mul, Nat.mod_eq_of_lt (by omega : _ * _ < 2 ^ 64),
          Nat.mod_eq_of_lt (by omega), count]
    · rw [not_not] at some
      exact .early valid (by rw [← count, some]; rfl)
  · exact .idle (Bool.not_eq_true _ ▸ valid)

/-! ## One decision -/

theorem WindowOk.mono (ok : WindowOk policy record time) (order : time ≤ now) :
    WindowOk policy record now :=
  ⟨ok.window, ok.charged, fun valid => UInt64.le_trans (ok.past valid) order⟩

/-- The leak keeps the record valid, and drains the window up to the present. -/
theorem WindowOk.leak (ok : WindowOk policy record now) :
    WindowOk policy (leakWindow record policy now) now ∧
      LeakyCount.Drains policy.leakIntervalTicks.toNat (record.leaky now)
        ((leakWindow record policy now).leaky now) ∧
      (leakWindow record policy now).lifetimeCount = record.lifetimeCount ∧
      (leakWindow record policy now).windowCount ≤ record.windowCount := by
  have leaked : LeakCase policy record now (leakWindow record policy now) :=
    leakWindow_case ok.past
  generalize leakWindow record policy now = next at leaked ⊢
  cases leaked with
  | idle idle => exact ⟨ok, .refl _, rfl, UInt32.le_refl _⟩
  | early valid none => exact ⟨ok, .refl _, rfl, UInt32.le_refl _⟩
  | emptied valid all =>
      have order := ok.past valid
      have sum := leakedBy_mul_le policy order
      have paid := Nat.mul_le_mul_right policy.leakIntervalTicks.toNat all
      rw [UInt64.le_iff_toNat_le] at order
      refine ⟨⟨UInt32.zero_le, rfl, fun no => Bool.noConfusion no⟩, ⟨?_, ?_, ?_⟩, rfl,
        UInt32.zero_le⟩
      · exact Nat.zero_le _
      · simpa [RootChildRecord.leaky, valid] using order
      · simp only [RootChildRecord.leaky, valid, if_true, Bool.false_eq_true, if_false,
          UInt32.toNat_zero, Nat.sub_zero]
        omega
  | leaked valid few window last windowExact lastExact =>
      have sum := leakedBy_mul_le policy (ok.past valid)
      have smaller : window ≤ record.windowCount := UInt32.le_iff_toNat_le.mpr (by omega)
      have reached : last ≤ now := UInt64.le_iff_toNat_le.mpr (by omega)
      refine ⟨⟨UInt32.le_trans smaller ok.window, ?_, fun _ => reached⟩,
        ⟨UInt32.le_iff_toNat_le.mp smaller, ?_, ?_⟩, rfl, smaller⟩
      · have nonzero : window ≠ 0 := fun zero => by
          rw [zero, UInt32.toNat_zero] at windowExact
          omega
        simpa [valid] using nonzero
      · simp only [RootChildRecord.leaky, valid, if_true]
        omega
      · have paid : record.windowCount.toNat - window.toNat = leakedBy record policy now := by
          omega
        simp only [RootChildRecord.leaky, valid, if_true, paid]
        omega

theorem RootChildRecord.leaky_mono (record : RootChildRecord) (order : time ≤ now)
    (interval : Nat) : LeakyCount.Drains interval (record.leaky time) (record.leaky now) := by
  rw [UInt64.le_iff_toNat_le] at order
  refine ⟨Nat.le_refl _, ?_, by simp [RootChildRecord.leaky]⟩
  unfold RootChildRecord.leaky
  split_ifs
  · exact Nat.le_refl _
  · exact order

/-- A charge of a window with room. -/
theorem WindowOk.charge (ok : WindowOk policy record now)
    (room : record.windowCount < policy.capacity)
    (below : record.lifetimeCount < policy.lifetimeLimit) :
    WindowOk policy (chargeWindow record now) now ∧
      (chargeWindow record now).leaky now = (record.leaky now).charge ∧
      (chargeWindow record now).lifetimeCount.toNat = record.lifetimeCount.toNat + 1 := by
  have window : (record.windowCount + 1).toNat = record.windowCount.toNat + 1 := by
    rw [UInt32.toNat_add, UInt32.toNat_one, Nat.mod_eq_of_lt (below_succ room)]
  have lifetime : (record.lifetimeCount + 1).toNat = record.lifetimeCount.toNat + 1 := by
    rw [UInt32.toNat_add, UInt32.toNat_one, Nat.mod_eq_of_lt (below_succ below)]
  have nonzero : (record.windowCount + 1 != 0) = true := by
    rw [bne_iff_ne]
    intro zero
    rw [zero, UInt32.toNat_zero] at window
    omega
  have full : record.windowCount + 1 ≤ policy.capacity := by
    rw [UInt32.le_iff_toNat_le, window]
    exact UInt32.lt_iff_toNat_lt.mp room
  have charged := ok.charged
  unfold chargeWindow
  split_ifs with empty
  · rw [empty] at nonzero window full
    simp only [empty] at charged
    refine ⟨⟨?_, ?_, fun _ => UInt64.le_refl _⟩, ?_, lifetime⟩
    · simpa [empty] using full
    · simp [empty]
    · simp [RootChildRecord.leaky, LeakyCount.charge, empty, charged]
  · have valid : record.lastChargeValid = true := charged.trans (bne_iff_ne.mpr empty)
    refine ⟨⟨full, by rw [nonzero]; exact valid, ok.past⟩, ?_, lifetime⟩
    simp only [RootChildRecord.leaky, LeakyCount.charge, valid, if_true, window]

/-- One case per way a valid record is decided. -/
inductive DecideAtCase (policy : RootBudgetPolicy) (record : RootChildRecord) (now : UInt64) :
    RootTimedDecision → Prop where
  | gone (gone : record.state = .gone) :
      DecideAtCase policy record now ⟨.valid, .ignoreGone, record⟩
  | lifetime : DecideAtCase policy record now ⟨.valid, .giveupLifetimeExhausted, record⟩
  | window (full : policy.capacity ≤ (leakWindow record policy now).windowCount) :
      DecideAtCase policy record now
        ⟨.valid, .giveupWindowExhausted, leakWindow record policy now⟩
  | noEntry : DecideAtCase policy record now
      ⟨.valid, .giveupNoEntry, leakWindow record policy now⟩
  | resume (below : record.lifetimeCount < policy.lifetimeLimit)
      (room : (leakWindow record policy now).windowCount < policy.capacity) :
      DecideAtCase policy record now
        ⟨.valid, .resume, chargeWindow (leakWindow record policy now) now⟩

theorem DecideAtCase.error {decision : RootTimedDecision}
    (decided : DecideAtCase policy record now decision) : decision.error = .valid := by
  cases decided <;> rfl

theorem WindowOk.decide (ok : WindowOk policy record now) (valid : policy.Valid) (entry : UInt64) :
    DecideAtCase policy record now (rootRestartDecideAt record policy entry now) := by
  have usable : ¬(policy.capacity = 0 || policy.lifetimeLimit = 0 ||
      policy.leakIntervalTicks = 0) = true := by
    simp [valid.capacity, valid.lifetime, valid.interval]
  have sound : ¬(record.windowCount > policy.capacity ||
      record.lastChargeValid != (record.windowCount != 0)) = true := by
    simp [ok.charged, UInt32.not_lt.mpr ok.window]
  have present : ¬(record.lastChargeValid && now < record.lastChargeTicks) = true := by
    simp only [Bool.and_eq_true, decide_eq_true_eq, not_and, UInt64.not_lt]
    exact ok.past
  unfold rootRestartDecideAt
  dsimp only
  rw [if_neg usable, if_neg sound, if_neg present]
  split_ifs with gone spent full missing
  · exact .gone gone
  · exact .lifetime
  · exact .window full
  · exact .noEntry
  · exact .resume (UInt32.not_le.mp spent) (UInt32.not_le.mp full)

/-! ## One call -/

theorem WindowOk.giveUp (ok : WindowOk policy record time) :
    WindowOk policy (rootRecordGiveUp record) time := ⟨ok.window, ok.charged, ok.past⟩

/-- What a run has come to by a time. -/
structure TimedState.Ok (policy : RootBudgetPolicy) (state : TimedState) (time : UInt64) :
    Prop where
  record : WindowOk policy state.record time
  counted : state.resumes.length = state.record.lifetimeCount.toNat
  limit : state.record.lifetimeCount ≤ policy.lifetimeLimit
  /-- The resumes since the first one charge the window. -/
  charges :
    match state.resumes with
    | [] => state.record.windowCount = 0
    | first :: rest =>
        LeakyCount.Run policy.leakIntervalTicks.toNat ⟨0, first.toNat⟩ (first :: rest).length
          (state.record.leaky time)

variable {state : TimedState}

/-- A step that resumes nothing keeps what a run has come to, as the window drains. -/
theorem TimedState.Ok.drain (ok : state.Ok policy time) {next : RootChildRecord}
    (order : time ≤ now) (sound : WindowOk policy next now)
    (drains : LeakyCount.Drains policy.leakIntervalTicks.toNat (state.record.leaky now)
      (next.leaky now))
    (lifetime : next.lifetimeCount = state.record.lifetimeCount) :
    TimedState.Ok policy { state with record := next } now := by
  refine ⟨sound, lifetime ▸ ok.counted, lifetime ▸ ok.limit, ?_⟩
  have charges := ok.charges
  dsimp only
  split at charges
  · have held := drains.held
    simp only [RootChildRecord.leaky, charges, UInt32.toNat_zero, Nat.le_zero] at held
    exact UInt32.toNat.inj held
  · exact (charges.drain (state.record.leaky_mono order _)).drain drains

theorem TimedState.Ok.mono (ok : state.Ok policy time) (order : time ≤ now) :
    state.Ok policy now :=
  ok.drain order (ok.record.mono order) (.refl _) rfl

/-- A decision that does not resume leaves a record drained at most. -/
theorem TimedState.Ok.keep (ok : state.Ok policy now) (call : TimedCall)
    {decision : RootTimedDecision} (action : decision.action ≠ .resume)
    (next : decision.next = state.record ∨
      decision.next = leakWindow state.record policy now) :
    TimedState.Ok policy { state with record := call.commit state.record decision } now := by
  obtain ⟨leakOk, drains, lifetime, -⟩ := ok.record.leak
  have shown : TimedState.Ok policy { state with record := decision.next } now := by
    rcases next with same | leaked
    · rw [same]
      exact ok
    · rw [leaked]
      exact ok.drain (UInt64.le_refl _) leakOk drains lifetime
  have given {record : RootChildRecord} (kept : TimedState.Ok policy { state with record } now) :
      TimedState.Ok policy { state with record := rootRecordGiveUp record } now :=
    kept.drain (UInt64.le_refl _) kept.record.giveUp (.refl _) rfl
  simp only [TimedCall.commit, action, if_false]
  split_ifs
  · exact given shown
  · exact given ok
  · exact shown
  · exact ok

/-- A resume charges the window the leak left. -/
theorem TimedState.Ok.resume (ok : state.Ok policy now)
    (below : state.record.lifetimeCount < policy.lifetimeLimit)
    (room : (leakWindow state.record policy now).windowCount < policy.capacity) :
    TimedState.Ok policy
      ⟨state.resumes ++ [now], chargeWindow (leakWindow state.record policy now) now⟩ now := by
  obtain ⟨leakOk, drains, lifetime, smaller⟩ := ok.record.leak
  obtain ⟨sound, leaky, more⟩ := leakOk.charge room (lifetime ▸ below)
  rw [lifetime] at more
  have charges := ok.charges
  rw [UInt32.lt_iff_toNat_lt] at below
  refine ⟨sound, ?_, UInt32.le_iff_toNat_le.mpr (more.trans_le below), ?_⟩
  · rw [List.length_append, ok.counted]
    exact more.symm
  · dsimp only
    rw [leaky]
    cases resumed : state.resumes with
    | nil =>
        rw [resumed] at charges
        have empty : (leakWindow state.record policy now).windowCount = 0 := by
          rw [charges] at smaller
          exact UInt32.le_zero_iff.mp smaller
        have fresh : (leakWindow state.record policy now).leaky now = ⟨0, now.toNat⟩ := by
          have charged := leakOk.charged
          rw [empty] at charged
          simp [RootChildRecord.leaky, empty, charged]
        rw [fresh]
        exact .charge .refl
    | cons first rest =>
        rw [resumed] at charges
        have run := (charges.drain drains).charge
        simpa using run

theorem timedStep_ok (ok : state.Ok policy time) (valid : policy.Valid) (call : TimedCall)
    (order : time ≤ call.nowTicks) : (timedStep policy state call).Ok policy call.nowTicks := by
  have now := ok.mono order
  have decided := now.record.decide valid call.entry
  unfold timedStep
  generalize rootRestartDecideAt state.record policy call.entry call.nowTicks = decision
    at decided ⊢
  cases decided with
  | gone => exact now.keep call (by simp) (.inl rfl)
  | lifetime => exact now.keep call (by simp) (.inl rfl)
  | window => exact now.keep call (by simp) (.inr rfl)
  | noEntry => exact now.keep call (by simp) (.inr rfl)
  | resume below room => exact now.resume below room

/-! ## Runs -/

theorem TimedState.Ok.run (ok : state.Ok policy time) (valid : policy.Valid) (order : time ≤ now)
    (calls : List TimedCall)
    (ordered : calls.Pairwise fun earlier later => earlier.nowTicks ≤ later.nowTicks)
    (bounds : ∀ call ∈ calls, time ≤ call.nowTicks ∧ call.nowTicks ≤ now) :
    (calls.foldl (timedStep policy) state).Ok policy now := by
  induction calls generalizing state time with
  | nil => exact ok.mono order
  | cons call calls ih =>
      obtain ⟨first, rest⟩ := List.pairwise_cons.mp ordered
      obtain ⟨early, late⟩ := bounds call List.mem_cons_self
      exact ih (timedStep_ok ok valid call early) late rest fun other mem =>
        ⟨first other mem, (bounds other (List.mem_cons_of_mem _ mem)).2⟩

theorem timedRun_ok (valid : policy.Valid) (calls : List TimedCall)
    (ordered : calls.Pairwise fun earlier later => earlier.nowTicks ≤ later.nowTicks)
    (reached : ∀ call ∈ calls, call.nowTicks ≤ now) : (timedRun policy calls).Ok policy now := by
  have fresh : TimedState.Ok policy {} 0 :=
    ⟨⟨UInt32.zero_le, rfl, fun no => Bool.noConfusion no⟩, rfl, UInt32.zero_le, rfl⟩
  exact fresh.run valid UInt64.zero_le calls ordered fun call mem =>
    ⟨UInt64.zero_le, reached call mem⟩

/-- The resumes of a run are bounded by the capacity and the time since the first. -/
theorem TimedState.Ok.rate (ok : state.Ok policy now) (valid : policy.Valid) :
    ∀ first ∈ state.resumes.head?, state.resumes.length ≤ policy.capacity.toNat +
      (now.toNat - first.toNat) / policy.leakIntervalTicks.toNat := by
  intro first head
  obtain ⟨rest, resumed⟩ := List.head?_eq_some_iff.mp head
  have charges := ok.charges
  rw [resumed] at charges ⊢
  have interval : 0 < policy.leakIntervalTicks.toNat :=
    Nat.pos_of_ne_zero fun zero => valid.interval (UInt64.toNat.inj zero)
  refine charges.rate interval (UInt32.le_iff_toNat_le.mp ok.record.window) ?_
  unfold RootChildRecord.leaky
  split_ifs with charged
  · exact UInt64.le_iff_toNat_le.mp (ok.record.past charged)
  · exact Nat.le_refl _

/-- A give-up keeps the lifetime count, and the window too unless it found no entry. -/
theorem WindowOk.giveUp_counts (ok : WindowOk policy record now) (valid : policy.Valid)
    (entry : UInt64) (stops : (rootRestartDecideAt record policy entry now).action.GivesUp) :
    (rootRestartDecideAt record policy entry now).next.lifetimeCount = record.lifetimeCount ∧
      ((rootRestartDecideAt record policy entry now).action ≠ .giveupNoEntry →
        (rootRestartDecideAt record policy entry now).next.windowCount = record.windowCount) ∧
      ((rootRestartDecideAt record policy entry now).action = .giveupNoEntry →
        (rootRestartDecideAt record policy entry now).next = leakWindow record policy now) := by
  obtain ⟨-, -, lifetime, smaller⟩ := ok.leak
  have decided := ok.decide valid entry
  generalize rootRestartDecideAt record policy entry now = decision at decided stops ⊢
  cases decided with
  | gone => simp [RootRestartAction.GivesUp, outcomeOf] at stops
  | lifetime => exact ⟨rfl, fun _ => rfl, by simp⟩
  | window full =>
      refine ⟨lifetime, fun _ => ?_, by simp⟩
      exact UInt32.le_antisymm smaller (UInt32.le_trans ok.window full)
  | noEntry => exact ⟨lifetime, by simp, fun _ => rfl⟩
  | resume => simp [RootRestartAction.GivesUp, outcomeOf] at stops

theorem resumed_state (record : RootChildRecord) (policy : RootBudgetPolicy) (now : UInt64) :
    (chargeWindow (leakWindow record policy now) now).state = record.state := by
  have leaked : (leakWindow record policy now).state = record.state := by
    unfold leakWindow
    dsimp only
    split_ifs <;> rfl
  unfold chargeWindow
  split_ifs <;> exact leaked

/-- What the restart plan commits is what a call that keeps the record commits. -/
theorem WindowOk.timedResult (ok : WindowOk policy record now) (valid : policy.Valid)
    (entry : UInt64) :
    (Root.timedResult record (rootRestartDecideAt record policy entry now)).next =
      TimedCall.commit ⟨entry, now, false, true⟩ record
        (rootRestartDecideAt record policy entry now) := by
  have decided := ok.decide valid entry
  have stopped : childNext record.state .stop = .gone := by cases record.state <;> rfl
  generalize rootRestartDecideAt record policy entry now = decision at decided ⊢
  cases decided with
  | gone gone => simp [Root.timedResult, TimedCall.commit, rootRecordGiveUp, gone, childNext]
  | lifetime =>
      simp [Root.timedResult, TimedCall.commit, rootRecordGiveUp, outcomeOf, stopped]
  | window =>
      simp [Root.timedResult, TimedCall.commit, rootRecordGiveUp, outcomeOf, stopped]
  | noEntry =>
      simp [Root.timedResult, TimedCall.commit, rootRecordGiveUp, outcomeOf, stopped]
  | resume =>
      have kept : childNext record.state .charge =
          (chargeWindow (leakWindow record policy now) now).state := by
        rw [resumed_state]
        cases record.state <;> rfl
      simp [Root.timedResult, TimedCall.commit, outcomeOf, kept]

/-- The timed window over every run from a fresh record. -/
theorem rootRestartDecideAt_window (valid : policy.Valid) (calls : List TimedCall)
    (ordered : calls.Pairwise fun earlier later => earlier.nowTicks ≤ later.nowTicks)
    (reached : ∀ call ∈ calls, call.nowTicks ≤ now) (entry : UInt64) :
    let run := timedRun policy calls
    let decision := rootRestartDecideAt run.record policy entry now
    WindowOk policy run.record now ∧ decision.error = .valid ∧
      WindowExact policy run.record now ∧
      run.resumes.length ≤ policy.lifetimeLimit.toNat ∧
      (∀ first ∈ run.resumes.head?, run.resumes.length ≤ policy.capacity.toNat +
        (now.toNat - first.toNat) / policy.leakIntervalTicks.toNat) ∧
      (decision.action.GivesUp →
        decision.next.lifetimeCount = run.record.lifetimeCount ∧
          (decision.action ≠ .giveupNoEntry →
            decision.next.windowCount = run.record.windowCount) ∧
          (decision.action = .giveupNoEntry →
            decision.next = leakWindow run.record policy now)) ∧
      (timedResult run.record decision).next =
        TimedCall.commit ⟨entry, now, false, true⟩ run.record decision := by
  intro run decision
  have ok : run.Ok policy now := timedRun_ok valid calls ordered reached
  have lifetime : run.resumes.length ≤ policy.lifetimeLimit.toNat := by
    rw [ok.counted]
    exact UInt32.le_iff_toNat_le.mp ok.limit
  exact ⟨ok.record, (ok.record.decide valid entry).error, ok.record.exact valid, lifetime,
    ok.rate valid,
    ok.record.giveUp_counts valid entry, ok.record.timedResult valid entry⟩

/-- Two charges are held when an interval later a decision finds no entry. -/
theorem rootRestartDecideAt_window_small :
    let run := timedRun ⟨2, 4, 10⟩ [⟨1, 0, false, true⟩, ⟨1, 9, false, true⟩]
    let decision := rootRestartDecideAt run.record ⟨2, 4, 10⟩ 0 10
    WindowOk ⟨2, 4, 10⟩ run.record 10 ∧ run.resumes.length ≤ 2 + (10 - 0) / 10 ∧
      decision.next.lifetimeCount = 2 := by
  obtain ⟨ok, -, -, -, rate, counts, -⟩ := @rootRestartDecideAt_window ⟨2, 4, 10⟩ 10
    ⟨by decide, by decide, by decide⟩ [⟨1, 0, false, true⟩, ⟨1, 9, false, true⟩] (by decide)
    (by decide) 0
  exact ⟨ok, rate 0 (by decide), (counts (by decide)).1⟩

/-- A give-up that finds no entry shows the leaked window. -/
theorem rootRestartDecideAt_noEntry_leaks :
    let policy : RootBudgetPolicy := ⟨2, 4, 10⟩
    let run := timedRun policy [⟨1, 0, false, true⟩, ⟨1, 9, false, true⟩]
    let decision := rootRestartDecideAt run.record policy 0 10
    policy.capacity ≠ 0 ∧ policy.lifetimeLimit ≠ 0 ∧ policy.leakIntervalTicks ≠ 0 ∧
      run.resumes = [0, 9] ∧ decision.error = .valid ∧ decision.action.GivesUp ∧
      decision.next.windowCount ≠ run.record.windowCount := by
  decide

end Chrysopolis.Root
