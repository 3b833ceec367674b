import Chrysopolis.Beam.Timer
import Chrysopolis.Beam.DeadlineProperties

/-! The timer multiplexer loses no deadline: until the next notification is handled the
slot is no later than any deadline offered, and the driver holds a timeout for it. -/

set_option autoImplicit false

namespace Chrysopolis.Beam.Timer

/-- The deadline an arm puts in an empty slot. -/
def Arm.offer (arm : Arm) : Nat :=
  if arm.deadlineNs ≤ arm.nowNs then if arm.nowNs = uint64Max then uint64Max else arm.nowNs + 1
  else arm.deadlineNs

theorem Arm.offer_le (arm : Arm) : arm.offer ≤ max arm.deadlineNs (arm.nowNs + 1) := by
  unfold Arm.offer
  split_ifs <;> omega

theorem Arm.offer_ne_zero (arm : Arm) : arm.offer ≠ 0 := by
  unfold Arm.offer uint64Max
  split_ifs <;> omega

/-- The driver's timeout is the one programmed for the slot's owner. -/
def Programmed (state : State) : Prop :=
  ∃ owner ∈ state.arms, state.slot = owner.offer ∧
    state.timeout = some ((owner.set + (owner.offer - owner.nowNs)) % 2 ^ 64)

/-- From a reading below half the range, no further off than the longest timeout. -/
def Near (nowNs deadlineNs : Nat) : Prop :=
  nowNs < 2 ^ 63 → deadlineNs ≤ nowNs + runtimeTimeoutMaxNs

theorem Near.later {nowNs later deadlineNs : Nat} (near : Near nowNs deadlineNs)
    (le : nowNs ≤ later) : Near later deadlineNs := by
  intro low
  have early := near (Nat.lt_of_le_of_lt le low)
  omega

/-- An arm's reading is past, and its deadline not far off it. -/
structure Arm.Ok (clock : Nat) (arm : Arm) : Prop where
  read : arm.nowNs ≤ arm.set
  past : arm.set ≤ clock
  near : Near arm.nowNs arm.deadlineNs

/-- The programmed timeout is within the longest. -/
theorem Arm.Ok.relative {clock : Nat} {arm : Arm} (ok : arm.Ok clock) (low : arm.nowNs < 2 ^ 63) :
    arm.offer - arm.nowNs ≤ runtimeTimeoutMaxNs := by
  have near := ok.near low
  unfold Arm.offer uint64Max runtimeTimeoutMaxNs at *
  split_ifs <;> omega

structure Wait.Ok (clock : Nat) (wait : Wait) : Prop where
  valid : wait.call.valid = true
  past : wait.begun ≤ clock

structure Inv (raw : Nat) (state : State) : Prop where
  range : state.clock ≤ uint64Max
  slot : ∀ arm ∈ state.arms, state.slot ≠ 0 ∧ state.slot ≤ arm.offer
  owner : state.slot ≠ 0 → state.pending = true ∨ Programmed state
  arms : ∀ arm ∈ state.arms, arm.Ok state.clock
  offered : ∀ deadlineNs, state.call = some (.offered deadlineNs) → Near state.clock deadlineNs
  timed : ∀ deadlineNs nowNs, state.call = some (.timed deadlineNs nowNs) →
    nowNs ≤ state.clock ∧ Near nowNs deadlineNs
  waits : ∀ wait ∈ state.waits, wait.Ok state.clock
  sets : ∀ set ∈ state.sets, set.1 < 2 ^ 63 → set.2 ≤ runtimeTimeoutMaxNs
  timedOut : ∀ out ∈ state.timedOut, out.1.Ok out.2 ∧
    (out.1.call.readsClock = true → out.1.call.expired raw out.1.begun out.2 = true)

variable {raw : Nat} {state next : State}

theorem Inv.boot : Inv raw {} where
  range := Nat.zero_le _
  slot := nofun
  owner := fun occupied => absurd rfl occupied
  arms := nofun
  offered := nofun
  timed := nofun
  waits := nofun
  sets := nofun
  timedOut := nofun

/-! ## The clock and the driver -/

theorem Inv.tick (inv : Inv raw state) {later : Nat} (le : state.clock ≤ later)
    (range : later ≤ uint64Max) : Inv raw { state with clock := later } where
  range := range
  slot := inv.slot
  owner := inv.owner
  arms := fun arm inside =>
    let ok := inv.arms arm inside
    ⟨ok.read, Nat.le_trans ok.past le, ok.near⟩
  offered := fun deadlineNs equal => (inv.offered deadlineNs equal).later le
  timed := fun deadlineNs nowNs equal =>
    let ⟨past, near⟩ := inv.timed deadlineNs nowNs equal
    ⟨Nat.le_trans past le, near⟩
  waits := fun wait inside =>
    let ok := inv.waits wait inside
    ⟨ok.valid, Nat.le_trans ok.past le⟩
  sets := inv.sets
  timedOut := inv.timedOut

/-- A driver drops a timeout only with a notification. -/
theorem Inv.forget (inv : Inv raw state) {pending : Bool}
    (told : state.pending = true ∨ state.timeout ≠ none → pending = true) :
    Inv raw { state with timeout := none, pending } where
  range := inv.range
  slot := inv.slot
  owner := fun occupied => by
    refine .inl (told ((inv.owner occupied).imp_right ?_))
    rintro ⟨_, _, _, armed⟩
    simp [armed]
  arms := inv.arms
  offered := inv.offered
  timed := inv.timed
  waits := inv.waits
  sets := inv.sets
  timedOut := inv.timedOut

/-! ## The arm -/

theorem Inv.timeNow (inv : Inv raw state) {deadlineNs : Nat}
    (offered : state.call = some (.offered deadlineNs)) :
    Inv raw { state with call := some (.timed deadlineNs state.clock) } where
  range := inv.range
  slot := inv.slot
  owner := inv.owner
  arms := inv.arms
  offered := nofun
  timed := fun _ _ equal => by
    cases equal
    exact ⟨Nat.le_refl _, inv.offered deadlineNs offered⟩
  waits := inv.waits
  sets := inv.sets
  timedOut := inv.timedOut

theorem Inv.offer (inv : Inv raw state) {deadlineNs : Nat} (near : Near state.clock deadlineNs) :
    Inv raw { state with call := some (.offered deadlineNs) } where
  range := inv.range
  slot := inv.slot
  owner := inv.owner
  arms := inv.arms
  offered := fun _ equal => by
    cases equal
    exact near
  timed := nofun
  waits := inv.waits
  sets := inv.sets
  timedOut := inv.timedOut

theorem Inv.beamTimerArm (inv : Inv raw state) {deadlineNs nowNs : Nat}
    (timed : state.call = some (.timed deadlineNs nowNs)) :
    Inv raw (beamTimerArm state deadlineNs nowNs) := by
  obtain ⟨past, near⟩ := inv.timed deadlineNs nowNs timed
  let arm : Arm := ⟨deadlineNs, nowNs, state.clock⟩
  have ok : arm.Ok state.clock := ⟨past, Nat.le_refl _, near⟩
  have arms (other : Arm) (inside : other ∈ arm :: state.arms) : other.Ok state.clock := by
    rcases List.mem_cons.mp inside with rfl | inside
    · exact ok
    · exact inv.arms other inside
  have update : runtimeTimerSlotUpdate state.slot nowNs deadlineNs =
      if state.slot ≠ 0 ∧ arm.offer ≥ state.slot then none
      else some (arm.offer, arm.offer - nowNs) := rfl
  simp only [Timer.beamTimerArm, update]
  by_cases kept : state.slot ≠ 0 ∧ arm.offer ≥ state.slot
  · simp only [if_pos kept]
    refine
      { range := inv.range
        slot := fun other inside => ?_
        owner := fun occupied =>
          (inv.owner occupied).imp_right fun ⟨owner, inside, programmed⟩ =>
            ⟨owner, List.mem_cons_of_mem _ inside, programmed⟩
        arms := arms
        offered := nofun
        timed := nofun
        waits := inv.waits
        sets := inv.sets
        timedOut := inv.timedOut }
    rcases List.mem_cons.mp inside with rfl | inside
    · exact kept
    · exact inv.slot other inside
  · simp only [if_neg kept]
    refine
      { range := inv.range
        slot := fun other inside => ⟨arm.offer_ne_zero, ?_⟩
        owner := fun _ => .inr ⟨arm, List.mem_cons_self, rfl, rfl⟩
        arms := arms
        offered := nofun
        timed := nofun
        waits := inv.waits
        sets := fun set inside low => ?_
        timedOut := inv.timedOut }
    · rcases List.mem_cons.mp inside with rfl | inside
      · exact Nat.le_refl _
      · obtain ⟨occupied, le⟩ := inv.slot other inside
        have earlier : arm.offer < state.slot := by
          by_contra later
          exact kept ⟨occupied, Nat.not_lt.mp later⟩
        exact Nat.le_trans (Nat.le_of_lt earlier) le
    · rcases List.mem_cons.mp inside with rfl | inside
      · exact ok.relative (Nat.lt_of_le_of_lt past low)
      · exact inv.sets set inside low

/-! ## The waiters -/

theorem Inv.notified (inv : Inv raw state) :
    Inv raw { state with slot := 0, pending := false, arms := [], pulses := state.pulses + 1 } where
  range := inv.range
  slot := nofun
  owner := fun occupied => absurd rfl occupied
  arms := nofun
  offered := inv.offered
  timed := inv.timed
  waits := inv.waits
  sets := inv.sets
  timedOut := inv.timedOut

/-- Waits come and go, and end after a look at the clock. -/
theorem Inv.wait (inv : Inv raw state) {waits : List Wait} {pulses : Nat}
    {timedOut : List (Wait × Nat)} (ok : ∀ wait ∈ waits, wait.Ok state.clock)
    (out : ∀ out ∈ timedOut, out ∈ state.timedOut ∨ out.1.Ok out.2 ∧
      (out.1.call.readsClock = true → out.1.call.expired raw out.1.begun out.2 = true)) :
    Inv raw { state with waits, pulses, timedOut } where
  range := inv.range
  slot := inv.slot
  owner := inv.owner
  arms := inv.arms
  offered := inv.offered
  timed := inv.timed
  waits := ok
  sets := inv.sets
  timedOut := fun ended inside => (out ended inside).elim (inv.timedOut ended) id

theorem Inv.recheck (inv : Inv raw state) {wait : Wait} (inside : wait ∈ state.waits)
    (changed : Bool) : Inv raw (recheck raw state wait changed) := by
  have ok := inv.waits wait inside
  have rest (other : Wait) (left : other ∈ state.waits.erase wait) : other.Ok state.clock :=
    inv.waits other (List.mem_of_mem_erase left)
  have parks : Inv raw { state with
      waits := { wait with parked := some state.pulses } :: state.waits.erase wait
      call := some (.offered (wait.call.deadline raw wait.begun)) } := by
    have near : Near state.clock (wait.call.deadline raw wait.begun) :=
      Near.later (fun early => Timed.deadline_near ok.valid early) ok.past
    have parked : Inv raw { state with
        waits := { wait with parked := some state.pulses } :: state.waits.erase wait } := by
      refine inv.wait (fun other held => ?_) fun _ kept => .inl kept
      rcases List.mem_cons.mp held with rfl | left
      · exact ⟨ok.valid, ok.past⟩
      · exact rest other left
    exact parked.offer near
  simp only [Timer.recheck]
  split_ifs with done unparked late
  · exact inv.wait rest fun _ kept => .inl kept
  · exact parks
  · refine inv.wait rest fun out held => ?_
    rcases List.mem_cons.mp held with rfl | kept
    · exact .inr ⟨ok, fun _ => late⟩
    · exact .inl kept
  · exact parks

theorem Inv.step (inv : Inv raw state) {action : Action}
    (stepped : step raw state action = some next) : Inv raw next := by
  have mine {chosen : Option State}
      (own : (if state.call ≠ none then none else chosen) = some next) : chosen = some next :=
    (Option.ite_none_left_eq_some.mp own).2
  cases action with
  | tick later =>
      simp only [Timer.step, Option.ite_none_right_eq_some, Option.some.injEq] at stepped
      obtain ⟨⟨le, range⟩, rfl⟩ := stepped
      exact inv.tick le range
  | fire =>
      cases armed : state.timeout with
      | none => simp [Timer.step, armed] at stepped
      | some due =>
          simp only [Timer.step, armed, Option.ite_none_right_eq_some, Option.some.injEq] at stepped
          obtain ⟨_, rfl⟩ := stepped
          exact inv.forget fun _ => rfl
  | restart =>
      simp only [Timer.step, Option.some.injEq] at stepped
      subst stepped
      refine inv.forget fun told => ?_
      simpa [Option.isSome_iff_ne_none] using told
  | timeNow =>
      cases call : state.call with
      | none => simp [Timer.step, call] at stepped
      | some arm =>
          cases arm with
          | timed deadlineNs nowNs => simp [Timer.step, call] at stepped
          | offered deadlineNs =>
              simp only [Timer.step, call, Option.some.injEq] at stepped
              subst stepped
              exact inv.timeNow call
  | setTimeout =>
      cases call : state.call with
      | none => simp [Timer.step, call] at stepped
      | some arm =>
          cases arm with
          | offered deadlineNs => simp [Timer.step, call] at stepped
          | timed deadlineNs nowNs =>
              simp only [Timer.step, call, Option.some.injEq] at stepped
              subst stepped
              exact inv.beamTimerArm call
  | notified =>
      have given := mine stepped
      simp only [Option.ite_none_right_eq_some, Option.some.injEq] at given
      obtain ⟨_, rfl⟩ := given
      exact inv.notified
  | pulse =>
      have given := mine stepped
      cases given
      exact inv.wait inv.waits fun _ kept => .inl kept
  | pump =>
      have given := mine stepped
      cases given
      refine inv.offer fun low => ?_
      have whole := Nat.mod_le (state.clock + netTimeout) (2 ^ 64)
      unfold netTimeout at *
      unfold runtimeTimeoutMaxNs
      omega
  | drain =>
      have given := mine stepped
      cases given
      exact inv.offer fun _ => Nat.le_add_right _ _
  | begin call =>
      have given := mine stepped
      simp only [Option.ite_none_right_eq_some, Option.some.injEq] at given
      obtain ⟨valid, rfl⟩ := given
      refine inv.wait (fun other held => ?_) fun _ kept => .inl kept
      rcases List.mem_cons.mp held with rfl | left
      · exact ⟨valid, Nat.le_refl _⟩
      · exact inv.waits other left
  | recheck wait changed =>
      have given := mine stepped
      simp only [Option.ite_none_right_eq_some, Option.some.injEq] at given
      obtain ⟨⟨inside, _⟩, rfl⟩ := given
      exact inv.recheck inside changed

theorem Inv.run {actions : List Action} (inv : Inv raw state)
    (ran : run raw state actions = some next) : Inv raw next := by
  induction actions generalizing state with
  | nil =>
      cases ran
      exact inv
  | cons action rest ih =>
      simp only [Timer.run, Option.bind_eq_some_iff] at ran
      obtain ⟨middle, stepped, ran⟩ := ran
      exact ih (inv.step stepped) ran

/-! ## Deadlines -/

/-- The loop of a wait that reads the clock gives up exactly from its deadline on, which is
when its timeout is due; a poll call returns at its second look. -/
def Wait.Exact (raw : Nat) (wait : Wait) : Prop :=
  ∀ nowNs,
    if wait.call.readsClock then
      (wait.call.expired raw wait.begun nowNs = true ↔
          wait.call.deadline raw wait.begun ≤ nowNs) ∧
        (wait.begun < 2 ^ 63 →
          (wait.call.deadline raw wait.begun ≤ nowNs ↔ wait.call.Due raw wait.begun nowNs))
    else wait.call.expired raw wait.begun nowNs = true

theorem Wait.Ok.exact {clock : Nat} {wait : Wait} (ok : wait.Ok clock)
    (low : wait.call.exactNs < 2 ^ 63) : wait.Exact raw := by
  intro nowNs
  split_ifs with reads
  · exact ⟨Timed.expired_iff_deadline ok.valid reads low raw wait.begun nowNs,
      fun early => Timed.deadline_le_iff_due low early nowNs⟩
  · cases call : wait.call <;> simp_all [Timed.readsClock, Timed.expired]

structure NoneLost (raw : Nat) (state : State) : Prop where
  arms : ∀ arm ∈ state.arms, state.pending = true ∨
    (state.slot ≠ 0 ∧ state.slot ≤ max arm.deadlineNs (arm.nowNs + 1) ∧ Programmed state)
  armed : state.clock < 2 ^ 63 → Programmed state →
    ∃ due, state.timeout = some due ∧ state.slot ≤ due
  waits : ∀ wait ∈ state.waits, wait.call.exactNs < 2 ^ 63 → wait.Exact raw
  timedOut : ∀ out ∈ state.timedOut, out.1.call.readsClock = true →
    out.1.call.exactNs < 2 ^ 63 → out.1.call.deadline raw out.1.begun ≤ out.2
  sets : ∀ set ∈ state.sets, set.1 < 2 ^ 63 →
    set.2 ≤ runtimeTimeoutMaxNs ∧ set.1 + set.2 < 2 ^ 64

theorem Inv.noneLost (inv : Inv raw state) : NoneLost raw state where
  arms := fun arm inside => by
    obtain ⟨occupied, le⟩ := inv.slot arm inside
    exact (inv.owner occupied).imp_right fun programmed =>
      ⟨occupied, Nat.le_trans le arm.offer_le, programmed⟩
  armed := fun low ⟨owner, inside, slot, timeout⟩ => by
    have ok := inv.arms owner inside
    have short := ok.relative (by have := ok.read; have := ok.past; omega)
    have read := ok.read
    have past := ok.past
    unfold runtimeTimeoutMaxNs at short
    refine ⟨_, timeout, ?_⟩
    rw [Nat.mod_eq_of_lt (by omega)]
    omega
  waits := fun wait inside low => (inv.waits wait inside).exact low
  timedOut := fun out inside reads low => by
    obtain ⟨ok, late⟩ := inv.timedOut out inside
    exact (Timed.expired_iff_deadline ok.valid reads low raw out.1.begun out.2).mp (late reads)
  sets := fun set inside low => by
    have short := inv.sets set inside low
    refine ⟨short, ?_⟩
    unfold runtimeTimeoutMaxNs at short
    omega

/-- In every run of the waiters, the driver and the clock. -/
theorem run_noneLost {actions : List Action} (ran : run raw {} actions = some state) :
    NoneLost raw state :=
  (Inv.boot.run ran).noneLost

/-- The pump arms, a sleep arms an earlier deadline, and the driver restarts. -/
theorem run_noneLost_restarted :
    ∃ state : State, state.slot = 500 ∧ state.pending = true ∧ NoneLost 0 state := by
  let actions : List Action :=
    [.pump, .timeNow, .tick 10, .setTimeout, .begin (.nanosleep .monotonic false ⟨0, 490⟩),
      .recheck ⟨.nanosleep .monotonic false ⟨0, 490⟩, 10, none⟩ false, .timeNow, .setTimeout,
      .restart]
  have ends : (run 0 {} actions).map (fun state => (state.slot, state.pending)) =
      some (500, true) := by decide +kernel
  obtain ⟨state, ran, shown⟩ := Option.map_eq_some_iff.mp ends
  rw [Prod.mk.injEq] at shown
  exact ⟨state, shown.1, shown.2, run_noneLost ran⟩

/-- A poll call of five seconds that another notification wakes returns at once. -/
theorem run_pollEarly :
    ¬ ∀ (raw : Nat) (actions : List Action) (state : State), run raw {} actions = some state →
      ∀ out ∈ state.timedOut, out.1.call.deadline raw out.1.begun ≤ out.2 := by
  intro never
  let wait : Wait := ⟨.epollPwait 5000, 0, none⟩
  let parked : Wait := ⟨.epollPwait 5000, 0, some 0⟩
  let actions : List Action :=
    [.begin wait.call, .recheck wait false, .timeNow, .setTimeout, .tick 3, .pulse,
      .recheck parked false]
  have ends : (run 0 {} actions).map (·.timedOut) = some [(parked, 3)] := by decide +kernel
  obtain ⟨state, ran, shown⟩ := Option.map_eq_some_iff.mp ends
  have held : (parked, 3) ∈ state.timedOut := by
    rw [shown]
    exact List.mem_singleton_self _
  have early := never 0 actions state ran (parked, 3) held
  revert early
  decide

end Chrysopolis.Beam.Timer
