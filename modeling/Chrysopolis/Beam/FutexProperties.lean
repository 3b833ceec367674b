import Chrysopolis.Beam.Futex
import Chrysopolis.Beam.IdleMembersProperties
import Chrysopolis.Beam.TimerProperties

/-! The futex loses no wakeup and no deadline. A cothread parks after its compare and its arm
with nothing of the PD between, so until the next wake its word is as it was or was stored to,
and the timer holds its deadline; a wake reaches every cothread parked before it. -/

set_option autoImplicit false

namespace Chrysopolis.Beam.Futex

open IdleWait (Seated)

/-! ### The invariant -/

/-- A `beam_timer_arm` is under way for a deadline. -/
def Offering (timer : Timer.State) (deadlineNs : Nat) : Prop :=
  timer.call = some (.offered deadlineNs) ∨ ∃ nowNs, timer.call = some (.timed deadlineNs nowNs)

/-- The timeout passed its check, and the timer was read before. -/
def Wait.Begun (clock : Nat) (wait : Wait) : Prop :=
  ∀ call begun, wait.timed = some (call, begun) → call.valid = true ∧ call.readsClock = true ∧
    begun ≤ clock

/-- The word is as the wait's last compare found it, or was stored to since the last wake. -/
def Held (state : State) (wait : Wait) : Prop :=
  state.word wait.uaddr = wait.val ∨ state.unwoken wait.uaddr = true

/-- And the deadline has been offered since the timer's last notification. -/
def Fresh (raw : Nat) (state : State) (wait : Wait) : Prop :=
  Held state wait ∧ ∀ target, wait.target raw = some target →
    ∃ arm ∈ state.timer.arms, arm.deadlineNs = target

/-- The cothread is in the idle wait at that generation. -/
def Sits (state : State) (thread : Nat) (generation : UInt64) : Prop :=
  ⟨thread, generation⟩ ∈ state.idle.members

/-- What holds of a thread where it is. -/
inductive Placed (raw handles : Nat) (state : State) (thread : Nat) : Call → Prop where
  | user (out : ∀ generation, ¬Sits state thread generation) : Placed raw handles state thread .user
  | arming {wait : Wait} {target : Nat} (out : ∀ generation, ¬Sits state thread generation)
      (scheduled : state.scheduled handles thread = true) (begun : wait.Begun state.timer.clock)
      (armer : state.armer = some thread) (held : Held state wait)
      (deadline : wait.target raw = some target) (offering : Offering state.timer target) :
      Placed raw handles state thread (.arming wait)
  | parked {wait : Wait} {generation : UInt64} (inside : Sits state thread generation)
      (scheduled : state.scheduled handles thread = true) (begun : wait.Begun state.timer.clock)
      (fresh : Sits state thread state.idle.ioWakeGeneration → Fresh raw state wait) :
      Placed raw handles state thread (.parked wait)
  | checking {wait : Wait} (out : ∀ generation, ¬Sits state thread generation)
      (scheduled : state.scheduled handles thread = true) (begun : wait.Begun state.timer.clock) :
      Placed raw handles state thread (.checking wait)
  | elsewhere {generation : UInt64} (inside : Sits state thread generation)
      (scheduled : state.scheduled handles thread = true) :
      Placed raw handles state thread .elsewhere

/-- A wait returns after its word changed, or after its deadline. -/
def Returned.Lawful (raw : Nat) (returned : Returned) : Prop :=
  (returned.result = none ∧ returned.word ≠ returned.wait.val) ∨
    returned.result = some .ETIMEDOUT ∧ returned.word = returned.wait.val ∧
      ∃ call begun, returned.wait.timed = some (call, begun) ∧ call.valid = true ∧
        call.readsClock = true ∧ begun ≤ returned.nowNs ∧
        call.deadline raw begun ≤ returned.nowNs

structure Inv (raw handles : Nat) (state : State) : Prop where
  timer : Timer.Inv raw state.timer
  seated : Seated handles state.idle
  placed : ∀ thread, Placed raw handles state thread (state.call thread)
  armer : ∀ thread, state.armer = some thread → ∃ wait, state.call thread = .arming wait
  log : ∀ returned ∈ state.log, returned.Lawful raw

variable {raw handles : Nat} {state next : State}

theorem Inv.boot : Inv raw handles {} where
  timer := .boot
  seated := .fresh
  placed := fun _ => .user fun _ => List.not_mem_nil
  armer := nofun
  log := nofun

/-! ### What a step leaves of the other threads -/

/-- The idle wait, the words and the timer have moved on, and this thread's place in them has
not. -/
structure Moves (raw handles : Nat) (state : State) (thread : Nat) (next : State) : Prop where
  sits : ∀ generation, Sits next thread generation ↔ Sits state thread generation
  scheduled : state.scheduled handles thread = true → next.scheduled handles thread = true
  clock : state.timer.clock ≤ next.timer.clock
  fresh : Sits next thread next.idle.ioWakeGeneration →
    Sits state thread state.idle.ioWakeGeneration ∧
      ∀ wait, Fresh raw state wait → Fresh raw next wait
  arming : state.armer = some thread → next.armer = some thread ∧
    ∀ wait target, Held state wait → Offering state.timer target →
      Held next wait ∧ Offering next.timer target

theorem Wait.Begun.later {wait : Wait} {clock later : Nat} (ok : wait.Begun clock)
    (le : clock ≤ later) : wait.Begun later := fun call begun timed =>
  let ⟨valid, reads, past⟩ := ok call begun timed
  ⟨valid, reads, Nat.le_trans past le⟩

theorem Placed.moves {thread : Nat} {call : Call} (placed : Placed raw handles state thread call)
    (moved : Moves raw handles state thread next) : Placed raw handles next thread call := by
  have outside (out : ∀ generation, ¬Sits state thread generation) (generation : UInt64) :
      ¬Sits next thread generation := fun inside => out generation ((moved.sits _).mp inside)
  cases placed with
  | user out => exact .user (outside out)
  | arming out scheduled begun armer held deadline offering =>
      obtain ⟨armer, kept⟩ := moved.arming armer
      obtain ⟨held, offering⟩ := kept _ _ held offering
      exact .arming (outside out) (moved.scheduled scheduled) (begun.later moved.clock) armer held
        deadline offering
  | parked inside scheduled begun fresh =>
      refine .parked ((moved.sits _).mpr inside) (moved.scheduled scheduled)
        (begun.later moved.clock) fun present => ?_
      obtain ⟨before, kept⟩ := moved.fresh present
      exact kept _ (fresh before)
  | checking out scheduled begun =>
      exact .checking (outside out) (moved.scheduled scheduled) (begun.later moved.clock)
  | elsewhere inside scheduled =>
      exact .elsewhere ((moved.sits _).mpr inside) (moved.scheduled scheduled)

/-- No arm is under way while the PD takes another step. -/
theorem Inv.unarmed (inv : Inv raw handles state) (rest : state.timer.call = none) :
    state.armer = none := by
  cases armer : state.armer with
  | none => rfl
  | some thread =>
      obtain ⟨wait, call⟩ := inv.armer thread armer
      have placed := inv.placed thread
      rw [call] at placed
      cases placed with
      | arming _ _ _ _ _ _ offering =>
          rcases offering with offered | ⟨_, timed⟩
          · rw [rest] at offered
            cases offered
          · rw [rest] at timed
            cases timed

/-! ### The clock, the driver and the arm -/

/-- The timer's own steps, but a notification. -/
theorem Inv.timer_moves (inv : Inv raw handles state) {timer : Timer.State}
    (ok : Timer.Inv raw timer) (clock : state.timer.clock ≤ timer.clock)
    (arms : ∀ arm ∈ state.timer.arms, arm ∈ timer.arms)
    (offering : state.armer ≠ none → ∀ target, Offering state.timer target →
      Offering timer target) : Inv raw handles { state with timer } where
  timer := ok
  seated := inv.seated
  placed := fun thread => (inv.placed thread).moves
    { sits := fun _ => Iff.rfl
      scheduled := id
      clock := clock
      fresh := fun present => ⟨present, fun wait ⟨held, offered⟩ => ⟨held, fun target deadline =>
        let ⟨arm, inside, same⟩ := offered target deadline
        ⟨arm, arms arm inside, same⟩⟩⟩
      arming := fun armer => ⟨armer, fun _ _ held offered =>
        ⟨held, offering (by simp [armer]) _ offered⟩⟩ }
  armer := inv.armer
  log := inv.log

theorem timerStep_some {action : Timer.Action} (stepped : timerStep raw state action = some next) :
    ∃ timer, Timer.step raw state.timer action = some timer ∧ next = { state with timer } := by
  obtain ⟨timer, moved, same⟩ := Option.map_eq_some_iff.mp stepped
  exact ⟨timer, moved, same.symm⟩

theorem Inv.tick (inv : Inv raw handles state) {later : Nat}
    (stepped : timerStep raw state (.tick later) = some next) : Inv raw handles next := by
  obtain ⟨timer, moved, rfl⟩ := timerStep_some stepped
  have ok := inv.timer.step moved
  simp only [Timer.step, Option.ite_none_right_eq_some, Option.some.injEq] at moved
  obtain ⟨⟨le, -⟩, rfl⟩ := moved
  exact inv.timer_moves ok le (fun _ inside => inside) fun _ _ offered => offered

theorem Inv.fire (inv : Inv raw handles state)
    (stepped : timerStep raw state .fire = some next) : Inv raw handles next := by
  obtain ⟨timer, moved, rfl⟩ := timerStep_some stepped
  have ok := inv.timer.step moved
  cases armed : state.timer.timeout with
  | none => simp [Timer.step, armed] at moved
  | some due =>
      simp only [Timer.step, armed, Option.ite_none_right_eq_some, Option.some.injEq] at moved
      obtain ⟨-, rfl⟩ := moved
      exact inv.timer_moves ok (Nat.le_refl _) (fun _ inside => inside) fun _ _ offered => offered

theorem Inv.restart (inv : Inv raw handles state)
    (stepped : timerStep raw state .restart = some next) : Inv raw handles next := by
  obtain ⟨timer, moved, rfl⟩ := timerStep_some stepped
  have ok := inv.timer.step moved
  simp only [Timer.step, Option.some.injEq] at moved
  subst moved
  exact inv.timer_moves ok (Nat.le_refl _) (fun _ inside => inside) fun _ _ offered => offered

theorem timeNow_offered {timer after : Timer.State}
    (moved : Timer.step raw timer .timeNow = some after) : ∃ deadlineNs,
      timer.call = some (.offered deadlineNs) ∧
        after = { timer with call := some (.timed deadlineNs timer.clock) } := by
  cases call : timer.call with
  | none => simp [Timer.step, call] at moved
  | some arm =>
      cases arm with
      | timed deadlineNs nowNs => simp [Timer.step, call] at moved
      | offered deadlineNs =>
          simp only [Timer.step, call, Option.some.injEq] at moved
          exact ⟨deadlineNs, rfl, moved.symm⟩

theorem setTimeout_timed {timer after : Timer.State}
    (moved : Timer.step raw timer .setTimeout = some after) : ∃ deadlineNs nowNs,
      timer.call = some (.timed deadlineNs nowNs) ∧
        after = Timer.beamTimerArm timer deadlineNs nowNs := by
  cases call : timer.call with
  | none => simp [Timer.step, call] at moved
  | some arm =>
      cases arm with
      | offered deadlineNs => simp [Timer.step, call] at moved
      | timed deadlineNs nowNs =>
          simp only [Timer.step, call, Option.some.injEq] at moved
          exact ⟨deadlineNs, nowNs, rfl, moved.symm⟩

theorem Offering.deadline {timer : Timer.State} {target deadlineNs : Nat}
    (offering : Offering timer target) (call : Offering timer deadlineNs) :
    deadlineNs = target := by
  rcases offering with offered | ⟨_, offered⟩ <;> rcases call with call | ⟨_, call⟩ <;>
    rw [call] at offered <;> cases offered <;> rfl

theorem Inv.timeNow (inv : Inv raw handles state)
    (stepped : timerStep raw state .timeNow = some next) : Inv raw handles next := by
  obtain ⟨timer, moved, rfl⟩ := timerStep_some stepped
  have ok := inv.timer.step moved
  obtain ⟨deadlineNs, call, rfl⟩ := timeNow_offered moved
  refine inv.timer_moves ok (Nat.le_refl _) (fun _ inside => inside) fun _ target offering => ?_
  rw [← offering.deadline (.inl call)]
  exact .inr ⟨_, rfl⟩

/-! ### One thread's step -/

/-- The invariant but for the place of a thread that is out of the idle wait. -/
structure Rest (raw handles : Nat) (state : State) (thread : Nat) : Prop where
  timer : Timer.Inv raw state.timer
  seated : Seated handles state.idle
  placed : ∀ other ≠ thread, Placed raw handles state other (state.call other)
  armer : state.armer = none
  log : ∀ returned ∈ state.log, returned.Lawful raw
  out : ∀ generation, ¬Sits state thread generation
  scheduled : state.scheduled handles thread = true

variable {thread : Nat}

/-- What a thread's place depends on is the same. -/
theorem Moves.of_same {other : Nat} (idle : next.idle = state.idle)
    (timer : next.timer = state.timer) (armer : next.armer = state.armer)
    (word : next.word = state.word) (unwoken : next.unwoken = state.unwoken) :
    Moves raw handles state other next where
  sits := fun _ => by rw [Sits, Sits, idle]
  scheduled := by simp only [State.scheduled, idle, imp_self]
  clock := by rw [timer]
  fresh := fun present => by
    refine ⟨by simpa only [Sits, idle] using present, fun wait fresh => ?_⟩
    simpa only [Fresh, Held, word, unwoken, timer] using fresh
  arming := fun armed => by
    refine ⟨by rw [armer, armed], fun wait target held offering => ?_⟩
    simpa only [Held, Offering, word, unwoken, timer] using And.intro held offering

theorem Rest.inv (rest : Rest raw handles state thread) {call : Call}
    (placed : Placed raw handles state thread call) :
    Inv raw handles (state.setCall thread call) where
  timer := rest.timer
  seated := rest.seated
  placed := fun other => by
    by_cases same : other = thread
    · subst same
      simp only [State.setCall, Function.update_self]
      exact placed.moves (.of_same rfl rfl rfl rfl rfl)
    · simp only [State.setCall, Function.update_of_ne same]
      exact (rest.placed other same).moves (.of_same rfl rfl rfl rfl rfl)
  armer := fun other armer => by
    have none := rest.armer
    change state.armer = some other at armer
    rw [none] at armer
    cases armer
  log := rest.log

theorem Rest.finish (rest : Rest raw handles state thread) {wait : Wait} {result : Option Errno}
    (lawful : Returned.Lawful raw
      ⟨thread, wait, state.word wait.uaddr, state.timer.clock, result⟩) :
    Inv raw handles (finish state thread wait result) := by
  have inv := rest.inv (.user rest.out)
  refine
    { timer := inv.timer
      seated := inv.seated
      placed := fun other => (inv.placed other).moves (.of_same rfl rfl rfl rfl rfl)
      armer := inv.armer
      log := fun returned inside => ?_ }
  rcases List.mem_cons.mp inside with rfl | inside
  · exact lawful
  · exact inv.log returned inside

/-- A cothread joins the idle wait at the present generation. -/
theorem Rest.joins (rest : Rest raw handles state thread) (root : thread ≠ 0) {call : Call}
    (placed : ∀ next : State, next.timer = state.timer → next.word = state.word →
      next.unwoken = state.unwoken → next.scheduled handles thread = true →
      Sits next thread next.idle.ioWakeGeneration → Placed raw handles next thread call) :
    Inv raw handles
      ({ state with idle := state.idle.threadIoWait handles thread }.setCall thread call) := by
  have up := rest.scheduled
  simp only [State.scheduled, Bool.or_eq_true, beq_iff_eq, root, false_or, Bool.and_eq_true,
    decide_eq_true_eq] at up
  obtain ⟨low, ready⟩ := up
  rw [IdleWait.threadIoWait_of_scheduled ready root low]
  have joined := IdleWait.members_semaphoreWait state.idle ⟨thread, state.idle.ioWakeGeneration⟩
  have outside (waiter : Waiter) (inside : waiter ∈ state.idle.members) :
      waiter.handle ≠ thread := by
    rintro rfl
    exact rest.out waiter.generation inside
  have sits (other : Nat) (different : other ≠ thread) (generation : UInt64) :
      ⟨other, generation⟩ ∈ (state.idle.semaphoreWait
        ⟨thread, state.idle.ioWakeGeneration⟩).members ↔
        ⟨other, generation⟩ ∈ state.idle.members := by
    rw [joined.mem_iff, List.mem_cons]
    simp [different]
  refine
    { timer := rest.timer
      seated := rest.seated.semaphoreWait ready root low outside
      placed := fun other => ?_
      armer := fun other armer => ?_
      log := rest.log }
  · by_cases same : other = thread
    · subst same
      simp only [State.setCall, Function.update_self]
      exact placed _ rfl rfl rfl rest.scheduled (joined.mem_iff.mpr List.mem_cons_self)
    · simp only [State.setCall, Function.update_of_ne same]
      exact (rest.placed other same).moves
        { sits := sits other same
          scheduled := id
          clock := Nat.le_refl _
          fresh := fun present => ⟨(sits other same _).mp present, fun _ fresh => fresh⟩
          arming := fun armer => ⟨armer, fun _ _ held offering => ⟨held, offering⟩⟩ }
  · have none := rest.armer
    change state.armer = some other at armer
    rw [none] at armer
    cases armer

theorem threadIoWait_root (state : State) (parked resumed : Call) :
    threadIoWait handles state 0 parked resumed = state.setCall 0 resumed := by
  simp [threadIoWait, IdleWait.threadIoWait, State.setCall]

/-- A futex wait parks. -/
theorem Rest.park (rest : Rest raw handles state thread) {wait : Wait}
    (begun : wait.Begun state.timer.clock) (fresh : Fresh raw state wait) :
    Inv raw handles (threadIoWait handles state thread (.parked wait) (.checking wait)) := by
  by_cases root : thread = 0
  · subst root
    rw [threadIoWait_root]
    exact rest.inv (.checking rest.out rest.scheduled begun)
  · simp only [threadIoWait, if_neg root]
    refine rest.joins root fun next timer word unwoken scheduled inside =>
      .parked inside scheduled (timer ▸ begun) fun _ => ?_
    simpa only [Fresh, Held, word, unwoken, timer] using fresh

/-- Another handler parks. -/
theorem Rest.parkElsewhere (rest : Rest raw handles state thread) :
    Inv raw handles (threadIoWait handles state thread .elsewhere .user) := by
  by_cases root : thread = 0
  · subst root
    rw [threadIoWait_root]
    exact rest.inv (.user rest.out)
  · simp only [threadIoWait, if_neg root]
    exact rest.joins root fun next _ _ _ scheduled inside => .elsewhere inside scheduled

theorem beamTimerArm_fields (timer : Timer.State) (deadlineNs nowNs : Nat) :
    (Timer.beamTimerArm timer deadlineNs nowNs).call = none ∧
      (Timer.beamTimerArm timer deadlineNs nowNs).clock = timer.clock ∧
      (Timer.beamTimerArm timer deadlineNs nowNs).arms =
        ⟨deadlineNs, nowNs, timer.clock⟩ :: timer.arms := by
  unfold Timer.beamTimerArm
  dsimp only
  cases Timer.runtimeTimerSlotUpdate timer.slot nowNs deadlineNs with
  | none => exact ⟨rfl, rfl, rfl⟩
  | some update => exact ⟨rfl, rfl, rfl⟩

/-- A timed wait parks once its deadline has been offered. -/
theorem Inv.setTimeout (inv : Inv raw handles state)
    (stepped : timerStep raw state .setTimeout = some next) :
    Inv raw handles (armed handles next) := by
  obtain ⟨timer, moved, rfl⟩ := timerStep_some stepped
  have ok := inv.timer.step moved
  obtain ⟨deadlineNs, nowNs, call, rfl⟩ := setTimeout_timed moved
  obtain ⟨-, clock, arms⟩ := beamTimerArm_fields state.timer deadlineNs nowNs
  have kept (arm : Timer.Arm) (inside : arm ∈ state.timer.arms) :
      arm ∈ (Timer.beamTimerArm state.timer deadlineNs nowNs).arms := by
    rw [arms]
    exact List.mem_cons_of_mem _ inside
  cases armer : state.armer with
  | none =>
      have moves := inv.timer_moves ok (Nat.le_of_eq clock.symm) kept fun busy =>
        absurd armer busy
      simpa only [armed, armer] using moves
  | some thread =>
      obtain ⟨wait, called⟩ := inv.armer thread armer
      simp only [armed, called]
      have placed := inv.placed thread
      rw [called] at placed
      obtain _ | ⟨out, scheduled, begun, _, held, deadline, offering⟩ := placed
      have same := offering.deadline (.inr ⟨nowNs, call⟩)
      have rest : Rest raw handles { state with
          timer := Timer.beamTimerArm state.timer deadlineNs nowNs, armer := none } thread := by
        refine
          { timer := ok
            seated := inv.seated
            placed := fun other different => (inv.placed other).moves
              { sits := fun _ => Iff.rfl
                scheduled := id
                clock := Nat.le_of_eq clock.symm
                fresh := fun present => ⟨present, fun wait ⟨held, offered⟩ =>
                  ⟨held, fun target deadline =>
                    let ⟨arm, inside, same⟩ := offered target deadline
                    ⟨arm, kept arm inside, same⟩⟩⟩
                arming := fun mine => ?_ }
            armer := rfl
            log := inv.log
            out := out
            scheduled := scheduled }
        rw [armer, Option.some.injEq] at mine
        exact absurd mine.symm different
      refine rest.park (begun.later (Nat.le_of_eq clock.symm)) ⟨held, fun target' deadline' => ?_⟩
      rw [deadline, Option.some.injEq] at deadline'
      refine ⟨⟨deadlineNs, nowNs, state.timer.clock⟩, ?_, same.trans deadline'⟩
      change _ ∈ (Timer.beamTimerArm state.timer deadlineNs nowNs).arms
      rw [arms]
      exact List.mem_cons_self

/-- A thread out of the idle wait while no arm is under way. -/
theorem Inv.rest (inv : Inv raw handles state) (unarmed : state.armer = none)
    (out : ∀ generation, ¬Sits state thread generation)
    (scheduled : state.scheduled handles thread = true) : Rest raw handles state thread where
  timer := inv.timer
  seated := inv.seated
  placed := fun other _ => inv.placed other
  armer := unarmed
  log := inv.log
  out := out
  scheduled := scheduled

theorem Inv.rest_user (inv : Inv raw handles state) (rest : state.timer.call = none)
    (user : state.inUser handles thread = true) : Rest raw handles state thread := by
  simp only [State.inUser, Bool.and_eq_true, beq_iff_eq] at user
  have placed := inv.placed thread
  rw [user.2] at placed
  cases placed with
  | user out => exact inv.rest (inv.unarmed rest) out user.1

theorem Wait.Begun.near {wait : Wait} {clock target : Nat} (begun : wait.Begun clock)
    (deadline : wait.target raw = some target) : Timer.Near clock target := by
  obtain ⟨⟨call, start⟩, timed, rfl⟩ := Option.map_eq_some_iff.mp deadline
  obtain ⟨valid, -, past⟩ := begun call start timed
  exact Timer.Near.later (fun early => Timed.deadline_near valid early) past

theorem Wait.Begun.reached {wait : Wait} {clock target : Nat} (begun : wait.Begun clock)
    (deadline : wait.target raw = some target) (late : clock ≥ target) :
    ∃ call start, wait.timed = some (call, start) ∧ call.valid = true ∧
      call.readsClock = true ∧ start ≤ clock ∧ call.deadline raw start ≤ clock := by
  obtain ⟨⟨call, start⟩, timed, rfl⟩ := Option.map_eq_some_iff.mp deadline
  obtain ⟨valid, reads, past⟩ := begun call start timed
  exact ⟨call, start, timed, valid, reads, past, late⟩

/-- The arm of a timed wait begins. -/
theorem Rest.arms (rest : Rest raw handles state thread) {wait : Wait} {target : Nat}
    (begun : wait.Begun state.timer.clock) (held : Held state wait)
    (deadline : wait.target raw = some target) :
    Inv raw handles
      { state.setCall thread (.arming wait) with
        timer := { state.timer with call := some (.offered target) }
        armer := some thread } := by
  refine
    { timer := rest.timer.offer (begun.near deadline)
      seated := rest.seated
      placed := fun other => ?_
      armer := fun other armer => ?_
      log := rest.log }
  · by_cases same : other = thread
    · subst same
      simp only [State.setCall, Function.update_self]
      exact .arming rest.out rest.scheduled begun rfl held deadline (.inl rfl)
    · simp only [State.setCall, Function.update_of_ne same]
      exact (rest.placed other same).moves
        { sits := fun _ => Iff.rfl
          scheduled := id
          clock := Nat.le_refl _
          fresh := fun present => ⟨present, fun _ fresh => fresh⟩
          arming := fun armer => by
            rw [rest.armer] at armer
            cases armer }
  · cases armer
    exact ⟨wait, Function.update_self _ _ _⟩

theorem Rest.compare (rest : Rest raw handles state thread) {wait : Wait}
    (begun : wait.Begun state.timer.clock) :
    Inv raw handles (compare raw handles state thread wait) := by
  unfold Futex.compare
  by_cases changed : state.word wait.uaddr = wait.val
  · rw [if_neg (not_not.mpr changed)]
    cases deadline : wait.target raw with
    | none => exact rest.park begun ⟨.inl changed, by simp [deadline]⟩
    | some target =>
        dsimp only
        split_ifs with late
        · exact rest.finish (.inr ⟨rfl, changed, begun.reached deadline late⟩)
        · exact rest.arms begun (.inl changed) deadline
  · rw [if_pos changed]
    exact rest.finish (.inl ⟨rfl, changed⟩)

/-! ### Steps of the PD -/

/-- A wake lets every waiter compare again, so the words it was parked on no longer matter. -/
theorem Inv.wake (inv : Inv raw handles state) (unarmed : state.armer = none)
    {timer : Timer.State} (ok : Timer.Inv raw timer) (clock : state.timer.clock ≤ timer.clock)
    (bounded : state.idle.threadIoWake.wakes < 2 ^ 64) :
    Inv raw handles (threadIoWake { state with timer }) where
  timer := ok
  seated := inv.seated.threadIoWake bounded
  placed := fun thread => (inv.placed thread).moves
    { sits := fun _ => (IdleWait.members_threadIoWake state.idle).mem_iff
      scheduled := fun up => by
        simpa [State.scheduled, threadIoWake, IdleWait.threadIoWake_ready] using up
      clock := clock
      fresh := fun present => absurd rfl
        (Nat.ne_of_lt (inv.seated.threadIoWake_stale bounded present))
      arming := fun armer => by
        rw [unarmed] at armer
        cases armer }
  armer := fun thread armer => inv.armer thread armer
  log := inv.log

theorem Inv.notified (inv : Inv raw handles state) (rest : state.timer.call = none)
    (stepped : timerStep raw state .notified = some next)
    (bounded : (threadIoWake next).idle.wakes < 2 ^ 64) :
    Inv raw handles (threadIoWake next) := by
  obtain ⟨timer, moved, rfl⟩ := timerStep_some stepped
  have ok := inv.timer.step moved
  refine inv.wake (inv.unarmed rest) ok ?_ bounded
  simp only [Timer.step, rest, ne_eq, not_true_eq_false, if_false,
    Option.ite_none_right_eq_some, Option.some.injEq] at moved
  obtain ⟨-, rfl⟩ := moved
  exact Nat.le_refl _

theorem Inv.pulse (inv : Inv raw handles state) (rest : state.timer.call = none)
    (stepped : timerStep raw state .pulse = some next)
    (bounded : (threadIoWake next).idle.wakes < 2 ^ 64) :
    Inv raw handles (threadIoWake next) := by
  obtain ⟨timer, moved, rfl⟩ := timerStep_some stepped
  have ok := inv.timer.step moved
  refine inv.wake (inv.unarmed rest) ok ?_ bounded
  simp only [Timer.step, rest, ne_eq, not_true_eq_false, if_false, Option.some.injEq] at moved
  subst moved
  exact Nat.le_refl _

/-- The arms of the root. -/
theorem Inv.rootArm (inv : Inv raw handles state) (rest : state.timer.call = none)
    {action : Timer.Action} (root : action = .pump ∨ action = .drain)
    (stepped : timerStep raw state action = some next) : Inv raw handles next := by
  obtain ⟨timer, moved, rfl⟩ := timerStep_some stepped
  have ok := inv.timer.step moved
  rcases root with rfl | rfl <;>
  · simp only [Timer.step, rest, ne_eq, not_true_eq_false, if_false, Option.some.injEq] at moved
    subst moved
    exact inv.timer_moves ok (Nat.le_refl _) (fun _ inside => inside) fun busy =>
      absurd (inv.unarmed rest) busy

theorem Inv.arm (inv : Inv raw handles state) (rest : state.timer.call = none) {call : Timed}
    {begun : Nat} (valid : call.valid = true) (past : begun ≤ state.timer.clock) :
    Inv raw handles { state with
      timer := { state.timer with call := some (.offered (call.deadline raw begun)) } } :=
  inv.timer_moves
    (inv.timer.offer (Timer.Near.later (fun early => Timed.deadline_near valid early) past))
    (Nat.le_refl _) (fun _ inside => inside) fun busy => absurd (inv.unarmed rest) busy

theorem Inv.publish (inv : Inv raw handles state) :
    Inv raw handles { state with idle := { state.idle with ready := true } } where
  timer := inv.timer
  seated := inv.seated.publish
  placed := fun thread => (inv.placed thread).moves
    { sits := fun _ => Iff.rfl
      scheduled := fun up => by
        simp only [State.scheduled, Bool.or_eq_true, Bool.and_eq_true] at up ⊢
        exact up.imp_right fun cothread => ⟨cothread.1, trivial⟩
      clock := Nat.le_refl _
      fresh := fun present => ⟨present, fun _ fresh => fresh⟩
      arming := fun armer => ⟨armer, fun _ _ held offering => ⟨held, offering⟩⟩ }
  armer := inv.armer
  log := inv.log

/-- A store is to a word that a wait compared, or to another. -/
theorem Inv.store (inv : Inv raw handles state) (rest : state.timer.call = none) (uaddr : Nat)
    (value : BitVec 32) :
    Inv raw handles { state with
      word := Function.update state.word uaddr value
      unwoken := Function.update state.unwoken uaddr true } where
  timer := inv.timer
  seated := inv.seated
  placed := fun thread => (inv.placed thread).moves
    { sits := fun _ => Iff.rfl
      scheduled := id
      clock := Nat.le_refl _
      fresh := fun present => ⟨present, fun wait ⟨held, offered⟩ => ⟨by
        by_cases same : wait.uaddr = uaddr
        · exact .inr (by simp only [same, Function.update_self])
        · exact held.imp (by simp only [Function.update_of_ne same, imp_self])
            (by simp only [Function.update_of_ne same, imp_self]), offered⟩⟩
      arming := fun armer => by
        rw [inv.unarmed rest] at armer
        cases armer }
  armer := inv.armer
  log := inv.log

theorem Inv.futex (inv : Inv raw handles state) (rest : state.timer.call = none)
    (user : state.inUser handles thread = true) (uaddr : Nat) (op : UInt32) (val : BitVec 32)
    (timeout : Option Timespec)
    (bounded : (runtimeSysFutex raw handles state thread uaddr op val timeout).1.idle.wakes <
      2 ^ 64) :
    Inv raw handles (runtimeSysFutex raw handles state thread uaddr op val timeout).1 := by
  revert bounded
  unfold runtimeSysFutex
  cases runtimeFutexClassify op with
  | wake => exact fun bounded =>
      inv.wake (inv.unarmed rest) inv.timer (Nat.le_refl _) bounded
  | unsupported => exact fun _ => inv
  | wait =>
      dsimp only
      split_ifs with null invalid changed
      · exact fun _ => inv
      · exact fun _ => inv
      · exact fun _ => inv
      · refine fun _ => (inv.rest_user rest user).compare fun call begun timed => ?_
        obtain ⟨ts, given, same⟩ := Option.map_eq_some_iff.mp timed
        cases same
        have valid : runtimeTimespecValid ts = true := by simpa [given] using invalid
        exact ⟨valid, rfl, Nat.le_refl _⟩

theorem Inv.check (inv : Inv raw handles state) (rest : state.timer.call = none) {wait : Wait}
    (checking : state.call thread = .checking wait) :
    Inv raw handles (compare raw handles state thread wait) := by
  have placed := inv.placed thread
  rw [checking] at placed
  cases placed with
  | checking out scheduled begun =>
      exact (inv.rest (inv.unarmed rest) out scheduled).compare begun

/-- A released cothread waits again where it was, or leaves. -/
theorem Inv.resume (inv : Inv raw handles state) (rest : state.timer.call = none)
    {resumed : Released} (held : resumed ∈ state.idle.released) :
    Inv raw handles (resume state resumed) := by
  have seated := inv.seated.threadIoResume held
  have moved := IdleWait.members_threadIoResume held
  have generation := IdleWait.threadIoResume_generation state.idle resumed
  have ready := IdleWait.threadIoResume_ready state.idle resumed
  have none := inv.unarmed rest
  unfold Futex.resume
  dsimp only
  by_cases present : resumed.waiter.generation = state.idle.ioWakeGeneration
  · rw [if_pos present] at moved ⊢
    refine
      { timer := inv.timer
        seated := seated
        placed := fun thread => (inv.placed thread).moves
          { sits := fun _ => moved.mem_iff
            scheduled := fun up => by simpa only [State.scheduled, ready] using up
            clock := Nat.le_refl _
            fresh := fun inside => ?_
            arming := fun armer => by
              rw [none] at armer
              cases armer }
        armer := inv.armer
        log := inv.log }
    simp only [Sits, generation] at inside
    exact ⟨moved.mem_iff.mp inside, fun _ fresh => fresh⟩
  · rw [if_neg present] at moved ⊢
    have inside : resumed.waiter ∈ state.idle.members :=
      moved.mem_iff.mp List.mem_cons_self
    have once := (moved.map (·.handle)).nodup_iff.mpr inv.seated.once
    rw [List.map_cons, List.nodup_cons] at once
    have sits (other : Nat) (different : other ≠ resumed.waiter.handle) (at_ : UInt64) :
        ⟨other, at_⟩ ∈ (state.idle.threadIoResume resumed).members ↔
          ⟨other, at_⟩ ∈ state.idle.members := by
      rw [← moved.mem_iff, List.mem_cons]
      refine ⟨.inr, fun either => either.resolve_left fun same => different ?_⟩
      rw [← same]
    have left : Rest raw handles
        { state with idle := state.idle.threadIoResume resumed } resumed.waiter.handle := by
      refine
        { timer := inv.timer
          seated := seated
          placed := fun other different => (inv.placed other).moves
            { sits := sits other different
              scheduled := fun up => by simpa only [State.scheduled, ready] using up
              clock := Nat.le_refl _
              fresh := fun inside => ?_
              arming := fun armer => by
                rw [none] at armer
                cases armer }
          armer := none
          log := inv.log
          out := fun at_ stays => once.1 (List.mem_map.mpr ⟨_, stays, rfl⟩)
          scheduled := ?_ }
      · simp only [Sits, generation] at inside
        exact ⟨(sits other different _).mp inside, fun _ fresh => fresh⟩
      · obtain ⟨up, -, low⟩ := inv.seated.up _ inside
        simp [State.scheduled, ready, up, low]
    have placed := inv.placed resumed.waiter.handle
    have out (outside : ∀ generation, ¬Sits state resumed.waiter.handle generation) : False :=
      outside resumed.waiter.generation inside
    cases called : state.call resumed.waiter.handle with
    | user =>
        rw [called] at placed
        cases placed with
        | user outside => exact (out outside).elim
    | arming wait =>
        rw [called] at placed
        cases placed with
        | arming outside => exact (out outside).elim
    | checking wait =>
        rw [called] at placed
        cases placed with
        | checking outside => exact (out outside).elim
    | parked wait =>
        rw [called] at placed
        cases placed with
        | parked _ _ begun => exact left.inv (.checking left.out left.scheduled begun)
    | elsewhere => exact left.inv (.user left.out)

/-- Every step keeps the invariant until the wakes wrap. -/
theorem Inv.step (inv : Inv raw handles state) {action : Action}
    (stepped : step raw handles state action = some next)
    (bounded : next.idle.wakes < 2 ^ 64) : Inv raw handles next := by
  have mine {chosen : Option State}
      (own : (if state.timer.call ≠ none then none else chosen) = some next) :
      state.timer.call = none ∧ chosen = some next := by
    obtain ⟨rest, given⟩ := Option.ite_none_left_eq_some.mp own
    exact ⟨not_not.mp rest, given⟩
  cases action with
  | tick later => exact inv.tick stepped
  | fire => exact inv.fire stepped
  | restart => exact inv.restart stepped
  | timeNow => exact inv.timeNow stepped
  | setTimeout =>
      obtain ⟨middle, moved, rfl⟩ := Option.map_eq_some_iff.mp stepped
      exact inv.setTimeout moved
  | publish =>
      obtain ⟨-, given⟩ := mine stepped
      cases given
      exact inv.publish
  | store thread uaddr value =>
      obtain ⟨rest, given⟩ := mine stepped
      simp only [Option.ite_none_right_eq_some, Option.some.injEq] at given
      obtain ⟨-, rfl⟩ := given
      exact inv.store rest uaddr value
  | futex thread uaddr op val timeout =>
      obtain ⟨rest, given⟩ := mine stepped
      simp only [Option.ite_none_right_eq_some, Option.some.injEq] at given
      obtain ⟨user, rfl⟩ := given
      exact inv.futex rest user uaddr op val timeout bounded
  | park thread =>
      obtain ⟨rest, given⟩ := mine stepped
      simp only [Option.ite_none_right_eq_some, Option.some.injEq] at given
      obtain ⟨user, rfl⟩ := given
      exact (inv.rest_user rest user).parkElsewhere
  | arm thread call begun =>
      obtain ⟨rest, given⟩ := mine stepped
      simp only [Option.ite_none_right_eq_some, Option.some.injEq] at given
      obtain ⟨⟨-, valid, past⟩, rfl⟩ := given
      exact inv.arm rest valid past
  | resume resumed =>
      obtain ⟨rest, given⟩ := mine stepped
      simp only [Option.ite_none_right_eq_some, Option.some.injEq] at given
      obtain ⟨held, rfl⟩ := given
      exact inv.resume rest held
  | check thread =>
      obtain ⟨rest, given⟩ := mine stepped
      cases called : state.call thread with
      | checking wait =>
          simp only [called, Option.some.injEq] at given
          subst given
          exact inv.check rest called
      | _ => simp [called] at given
  | notified =>
      obtain ⟨rest, given⟩ := mine stepped
      obtain ⟨middle, moved, rfl⟩ := Option.map_eq_some_iff.mp given
      exact inv.notified rest moved bounded
  | pulse =>
      obtain ⟨rest, given⟩ := mine stepped
      obtain ⟨middle, moved, rfl⟩ := Option.map_eq_some_iff.mp given
      exact inv.pulse rest moved bounded
  | pump =>
      obtain ⟨rest, given⟩ := mine stepped
      exact inv.rootArm rest (.inl rfl) given
  | drain =>
      obtain ⟨rest, given⟩ := mine stepped
      exact inv.rootArm rest (.inr rfl) given

/-! ### Runs -/

theorem timerStep_idle {action : Timer.Action} (stepped : timerStep raw state action = some next) :
    next.idle = state.idle := by
  obtain ⟨_, -, rfl⟩ := timerStep_some stepped
  rfl

@[simp] theorem setCall_idle (state : State) (thread : Nat) (call : Call) :
    (state.setCall thread call).idle = state.idle := rfl

theorem threadIoWait_wakes (state : State) (thread : Nat) (parked resumed : Call) :
    (threadIoWait handles state thread parked resumed).idle.wakes = state.idle.wakes := by
  simp only [threadIoWait, setCall_idle, IdleWait.threadIoWait]
  split_ifs <;> rfl

theorem compare_wakes (state : State) (thread : Nat) (wait : Wait) :
    (compare raw handles state thread wait).idle.wakes = state.idle.wakes := by
  unfold Futex.compare
  split_ifs
  · rfl
  · cases wait.target raw with
    | none => exact threadIoWait_wakes _ _ _ _
    | some target =>
        dsimp only
        split_ifs <;> rfl

theorem armed_wakes (state : State) : (armed handles state).idle.wakes = state.idle.wakes := by
  unfold armed
  cases state.armer with
  | none => rfl
  | some thread =>
      dsimp only
      cases state.call thread with
      | arming wait => exact threadIoWait_wakes _ _ _ _
      | _ => rfl

theorem resume_wakes (state : State) (resumed : Released) :
    (resume state resumed).idle.wakes = state.idle.wakes := by
  unfold Futex.resume
  dsimp only
  split_ifs <;> exact IdleWait.threadIoResume_wakes state.idle resumed

theorem step_wakes {action : Action} (stepped : step raw handles state action = some next) :
    state.idle.wakes ≤ next.idle.wakes := by
  have mine {chosen : Option State}
      (own : (if state.timer.call ≠ none then none else chosen) = some next) :
      chosen = some next := (Option.ite_none_left_eq_some.mp own).2
  have timed {timerAction : Timer.Action}
      (moved : timerStep raw state timerAction = some next) :
      state.idle.wakes ≤ next.idle.wakes := by rw [timerStep_idle moved]
  have woken {timerAction : Timer.Action}
      (moved : (timerStep raw state timerAction).map threadIoWake = some next) :
      state.idle.wakes ≤ next.idle.wakes := by
    obtain ⟨middle, before, rfl⟩ := Option.map_eq_some_iff.mp moved
    rw [← timerStep_idle before]
    exact IdleWait.threadIoWake_wakes _
  cases action with
  | tick later => exact timed stepped
  | fire => exact timed stepped
  | restart => exact timed stepped
  | timeNow => exact timed stepped
  | setTimeout =>
      obtain ⟨middle, moved, rfl⟩ := Option.map_eq_some_iff.mp stepped
      rw [armed_wakes, timerStep_idle moved]
  | publish =>
      cases mine stepped
      exact Nat.le_refl _
  | store thread uaddr value =>
      obtain ⟨-, rfl⟩ : _ ∧ _ := by simpa using mine stepped
      exact Nat.le_refl _
  | futex thread uaddr op val timeout =>
      obtain ⟨-, rfl⟩ : _ ∧ _ := by simpa using mine stepped
      unfold runtimeSysFutex
      cases runtimeFutexClassify op with
      | wake => exact IdleWait.threadIoWake_wakes _
      | unsupported => exact Nat.le_refl _
      | wait =>
          dsimp only
          split_ifs
          · exact Nat.le_refl _
          · exact Nat.le_refl _
          · exact Nat.le_refl _
          · exact Nat.le_of_eq (compare_wakes _ _ _).symm
  | park thread =>
      obtain ⟨-, rfl⟩ : _ ∧ _ := by simpa using mine stepped
      exact Nat.le_of_eq (threadIoWait_wakes _ _ _ _).symm
  | arm thread call begun =>
      obtain ⟨-, given⟩ := Option.ite_none_right_eq_some.mp (mine stepped)
      cases given
      exact Nat.le_refl _
  | resume resumed =>
      obtain ⟨-, rfl⟩ : _ ∧ _ := by simpa using mine stepped
      exact Nat.le_of_eq (resume_wakes _ _).symm
  | check thread =>
      have given := mine stepped
      cases called : state.call thread with
      | checking wait =>
          simp only [called, Option.some.injEq] at given
          subst given
          exact Nat.le_of_eq (compare_wakes _ _ _).symm
      | _ => simp [called] at given
  | notified => exact woken (mine stepped)
  | pulse => exact woken (mine stepped)
  | pump => exact timed (mine stepped)
  | drain => exact timed (mine stepped)

theorem run_wakes {actions : List Action} (ran : run raw handles state actions = some next) :
    state.idle.wakes ≤ next.idle.wakes := by
  induction actions generalizing state with
  | nil =>
      cases ran
      exact Nat.le_refl _
  | cons action rest ih =>
      obtain ⟨middle, stepped, later⟩ := Option.bind_eq_some_iff.mp ran
      exact Nat.le_trans (step_wakes stepped) (ih later)

theorem Inv.run (inv : Inv raw handles state) {actions : List Action}
    (ran : run raw handles state actions = some next) (bounded : next.idle.wakes < 2 ^ 64) :
    Inv raw handles next := by
  induction actions generalizing state with
  | nil =>
      cases ran
      exact inv
  | cons action rest ih =>
      obtain ⟨middle, stepped, later⟩ := Option.bind_eq_some_iff.mp ran
      exact ih (inv.step stepped (Nat.lt_of_le_of_lt (run_wakes later) bounded)) later

/-! ### None lost -/

/-- No cothread can go on: none is released or about to compare, and no arm is under way. -/
structure Resting (state : State) : Prop where
  arm : state.timer.call = none
  quiet : state.idle.released = []
  compared : ∀ thread wait, thread ≠ 0 → state.call thread ≠ .checking wait

/-- The last wake has reached all: whoever is in the idle wait entered it since. -/
structure Reached (state : State) : Prop where
  present : ∀ waiter ∈ state.idle.members, waiter.generation = state.idle.ioWakeGeneration
  parked : ∀ thread wait, state.call thread = .parked wait →
    Sits state thread state.idle.ioWakeGeneration
  elsewhere : ∀ thread, state.call thread = .elsewhere →
    Sits state thread state.idle.ioWakeGeneration

theorem Inv.reached (inv : Inv raw handles state) (resting : Resting state) : Reached state where
  present := fun _ => inv.seated.present_of_quiet resting.quiet
  parked := fun thread wait parked => by
    have placed := inv.placed thread
    rw [parked] at placed
    obtain _ | _ | ⟨inside, -, -, -⟩ := placed
    have present := inv.seated.present_of_quiet resting.quiet inside
    exact present ▸ inside
  elsewhere := fun thread elsewhere => by
    have placed := inv.placed thread
    rw [elsewhere] at placed
    obtain _ | _ | _ | _ | ⟨inside, -⟩ := placed
    have present := inv.seated.present_of_quiet resting.quiet inside
    exact present ▸ inside

structure Awake (raw : Nat) (state : State) : Prop where
  returned : ∀ returned ∈ state.log,
    (returned.result = none ∧ returned.word ≠ returned.wait.val) ∨
      returned.result = some .ETIMEDOUT ∧ returned.word = returned.wait.val ∧
        ∃ call begun, returned.wait.timed = some (call, begun) ∧
          (call.exactNs < 2 ^ 63 → begun < 2 ^ 63 → call.Due raw begun returned.nowNs)
  woken : Resting state → ∀ thread wait, state.call thread = .parked wait →
    state.word wait.uaddr = wait.val ∨ state.unwoken wait.uaddr = true
  timed : Resting state → ∀ thread wait target, state.call thread = .parked wait →
    wait.target raw = some target →
      state.timer.pending = true ∨ state.timer.slot ≠ 0 ∧
        state.timer.slot ≤ max target (state.timer.clock + 1) ∧ Timer.Programmed state.timer

theorem Inv.fresh (inv : Inv raw handles state) (resting : Resting state) {wait : Wait}
    (parked : state.call thread = .parked wait) : Fresh raw state wait := by
  have placed := inv.placed thread
  rw [parked] at placed
  cases placed with
  | parked _ _ _ fresh => exact fresh ((inv.reached resting).parked thread wait parked)

theorem Inv.awake (inv : Inv raw handles state) : Awake raw state where
  returned := fun returned inside => by
    rcases inv.log returned inside with changed | ⟨late, same, call, begun, timed, rest⟩
    · exact .inl changed
    · obtain ⟨-, -, -, reached⟩ := rest
      exact .inr ⟨late, same, call, begun, timed, fun low early =>
        (Timed.deadline_le_iff_due low early returned.nowNs).mp reached⟩
  woken := fun resting _ _ parked => (inv.fresh resting parked).1
  timed := fun resting _ _ target parked deadline => by
    obtain ⟨arm, inside, rfl⟩ := (inv.fresh resting parked).2 target deadline
    refine (inv.timer.noneLost.arms arm inside).imp_right fun ⟨occupied, le, programmed⟩ =>
      ⟨occupied, Nat.le_trans le ?_, programmed⟩
    have ok := inv.timer.arms arm inside
    have read := Nat.le_trans ok.read ok.past
    omega

/-! ### The scheduler settles -/

/-- The cothreads' own steps. -/
def Action.own : Action → Bool
  | .timeNow | .setTimeout | .resume _ => true
  | .check thread => thread != 0
  | _ => false

def Call.isChecking : Call → Bool
  | .checking _ => true
  | _ => false

/-- A cothread about to compare. -/
def State.compares (state : State) (thread : Nat) : Bool :=
  thread != 0 && (state.call thread).isChecking

/-- The driver's calls that an arm has still to make. -/
def callsLeft (timer : Timer.State) : Nat :=
  match timer.call with
  | none => 0
  | some (.timed _ _) => 1
  | some (.offered _) => 2

/-- A bound on the steps of the cothreads from here. -/
def State.work (handles : Nat) (state : State) : Nat :=
  state.idle.effort + 3 * (List.range handles).countP state.compares + callsLeft state.timer

/-- A thread that compares no more counts no more. -/
theorem countP_compares (low : thread < handles)
    (others : ∀ other ≠ thread, next.call other = state.call other) :
    (List.range handles).countP next.compares + (state.compares thread).toNat =
      (List.range handles).countP state.compares + (next.compares thread).toNat := by
  have mem := List.mem_range.mpr low
  have split := List.perm_cons_erase mem
  have same : ((List.range handles).erase thread).countP next.compares =
      ((List.range handles).erase thread).countP state.compares := by
    refine List.countP_congr fun other inside => ?_
    have different := (List.nodup_range.mem_erase_iff.mp inside).1
    simp only [State.compares, others other different]
  rw [split.countP_eq, split.countP_eq, List.countP_cons, List.countP_cons, same]
  cases state.compares thread <;> cases next.compares thread <;> simp

theorem compares_root (state : State) : state.compares 0 = false := rfl

theorem effort_threadIoWait (idle : IdleWait) (handle : Nat) :
    (idle.threadIoWait handles handle).effort = idle.effort := by
  unfold IdleWait.threadIoWait
  split_ifs
  · rfl
  · exact IdleWait.effort_semaphoreWait idle rfl

theorem threadIoWait_work (low : thread < handles ∨ thread = 0) (wait : Wait) :
    (threadIoWait handles state thread (.parked wait) (.checking wait)).work handles +
      3 * (state.compares thread).toNat = state.work handles := by
  have compared : (threadIoWait handles state thread (.parked wait)
      (.checking wait)).compares thread = false := by
    by_cases root : thread = 0
    · rw [root]
      exact compares_root _
    · simp [State.compares, threadIoWait, State.setCall, root, Call.isChecking]
  have idle : (threadIoWait handles state thread (.parked wait)
      (.checking wait)).idle.effort = state.idle.effort := effort_threadIoWait _ _
  have timer : callsLeft (threadIoWait handles state thread (.parked wait)
      (.checking wait)).timer = callsLeft state.timer := rfl
  have others (other : Nat) (different : other ≠ thread) :
      (threadIoWait handles state thread (.parked wait) (.checking wait)).call other =
        state.call other := Function.update_of_ne different _ _
  simp only [State.work, idle, timer]
  by_cases inside : thread < handles
  · have counted := countP_compares inside others
    rw [compared] at counted
    simp only [Bool.toNat_false] at counted
    omega
  · have root := low.resolve_left inside
    have none : handles = 0 := by omega
    subst none root
    simp [compares_root]

theorem compare_work (low : thread < handles) (resting : state.timer.call = none)
    {wait : Wait} (root : thread ≠ 0) (checking : state.call thread = .checking wait) :
    (compare raw handles state thread wait).work handles < state.work handles := by
  have compared : state.compares thread = true := by
    simp [State.compares, root, checking, Call.isChecking]
  unfold Futex.compare
  have finished (result : Option Errno) :
      (finish state thread wait result).work handles < state.work handles := by
    have others (other : Nat) (different : other ≠ thread) :
        (finish state thread wait result).call other = state.call other :=
      Function.update_of_ne different _ _
    have counted := countP_compares low others
    have user : (finish state thread wait result).compares thread = false := by
      simp [State.compares, finish, State.setCall, Call.isChecking]
    rw [compared, user] at counted
    simp only [Bool.toNat_false, Bool.toNat_true] at counted
    change state.idle.effort + _ + callsLeft state.timer < _
    simp only [State.work]
    omega
  split_ifs
  · exact finished none
  · cases wait.target raw with
    | none =>
        have parks := @threadIoWait_work handles state thread (.inl low) wait
        rw [compared] at parks
        simp only [Bool.toNat_true] at parks
        dsimp only
        omega
    | some target =>
        dsimp only
        split_ifs
        · exact finished (some .ETIMEDOUT)
        · have others (other : Nat) (different : other ≠ thread) :
              (state.setCall thread (.arming wait)).call other = state.call other :=
            Function.update_of_ne different _ _
          have counted := countP_compares low others
          have arming : (state.setCall thread (.arming wait)).compares thread = false := by
            simp [State.compares, State.setCall, Call.isChecking]
          rw [compared, arming] at counted
          simp only [Bool.toNat_false, Bool.toNat_true] at counted
          change state.idle.effort +
            3 * (List.range handles).countP (state.setCall thread (.arming wait)).compares + 2 < _
          simp only [State.work, callsLeft, resting]
          omega

theorem scheduled_low (scheduled : state.scheduled handles thread = true) :
    thread < handles ∨ thread = 0 := by
  simp only [State.scheduled, Bool.or_eq_true, beq_iff_eq, Bool.and_eq_true,
    decide_eq_true_eq] at scheduled
  exact scheduled.elim .inr fun up => .inl up.1

theorem timeNow_work
    (stepped : timerStep raw state .timeNow = some next) :
    next.work handles < state.work handles := by
  obtain ⟨timer, moved, rfl⟩ := timerStep_some stepped
  obtain ⟨deadlineNs, call, rfl⟩ := timeNow_offered moved
  change state.idle.effort + 3 * (List.range handles).countP state.compares + 1 < _
  simp only [State.work, callsLeft, call]
  omega

theorem setTimeout_work (inv : Inv raw handles state)
    (stepped : timerStep raw state .setTimeout = some next) :
    (armed handles next).work handles < state.work handles := by
  obtain ⟨timer, moved, rfl⟩ := timerStep_some stepped
  obtain ⟨deadlineNs, nowNs, call, rfl⟩ := setTimeout_timed moved
  obtain ⟨done, -, -⟩ := beamTimerArm_fields state.timer deadlineNs nowNs
  have before : state.work handles =
      state.idle.effort + 3 * (List.range handles).countP state.compares + 1 := by
    simp only [State.work, callsLeft, call]
  cases armer : state.armer with
  | none =>
      simp only [armed]
      change state.idle.effort + 3 * (List.range handles).countP state.compares +
        callsLeft (Timer.beamTimerArm state.timer deadlineNs nowNs) < _
      simp only [callsLeft, done]
      omega
  | some thread =>
      obtain ⟨wait, called⟩ := inv.armer thread armer
      simp only [armed, called]
      have placed := inv.placed thread
      rw [called] at placed
      obtain _ | ⟨-, scheduled⟩ := placed
      have parks := @threadIoWait_work handles
        { state with
          timer := Timer.beamTimerArm state.timer deadlineNs nowNs, armer := none }
        thread (scheduled_low scheduled) wait
      have after : State.work handles { state with
          timer := Timer.beamTimerArm state.timer deadlineNs nowNs, armer := none } =
          state.idle.effort + 3 * (List.range handles).countP state.compares := by
        simp only [State.work, callsLeft, done, Nat.add_zero]
        rfl
      omega

theorem resume_work (inv : Inv raw handles state) {resumed : Released}
    (held : resumed ∈ state.idle.released) :
    (resume state resumed).work handles < state.work handles := by
  have spent := IdleWait.effort_threadIoResume held
  unfold Futex.resume
  dsimp only
  split_ifs at spent ⊢
  · change (state.idle.threadIoResume resumed).effort +
      3 * (List.range handles).countP state.compares + callsLeft state.timer < _
    simp only [State.work]
    omega
  · have inside : resumed.waiter ∈ state.idle.members :=
      (IdleWait.members_released held).mem_iff.mpr List.mem_cons_self
    have low := (inv.seated.up _ inside).2.2
    have leaves (call : Call) : ({ state with
        idle := state.idle.threadIoResume resumed }.setCall resumed.waiter.handle call).work
          handles < state.work handles := by
      have others (other : Nat) (different : other ≠ resumed.waiter.handle) :
          ({ state with idle := state.idle.threadIoResume resumed }.setCall
            resumed.waiter.handle call).call other = state.call other :=
        Function.update_of_ne different _ _
      have counted := countP_compares low others
      have most := Bool.toNat_le (({ state with
        idle := state.idle.threadIoResume resumed }.setCall
          resumed.waiter.handle call).compares resumed.waiter.handle)
      simp only [State.work, setCall_idle]
      change _ + _ + callsLeft state.timer < _
      omega
    exact leaves _

/-- Each of their steps leaves less to do. -/
theorem own_work (inv : Inv raw handles state) {action : Action} (own : action.own = true)
    (stepped : step raw handles state action = some next) :
    next.work handles < state.work handles ∧ next.idle.wakes = state.idle.wakes := by
  have mine {chosen : Option State}
      (given : (if state.timer.call ≠ none then none else chosen) = some next) :
      state.timer.call = none ∧ chosen = some next := by
    obtain ⟨rest, given⟩ := Option.ite_none_left_eq_some.mp given
    exact ⟨not_not.mp rest, given⟩
  cases action with
  | timeNow =>
      refine ⟨timeNow_work stepped, ?_⟩
      rw [timerStep_idle stepped]
  | setTimeout =>
      obtain ⟨middle, moved, rfl⟩ := Option.map_eq_some_iff.mp stepped
      refine ⟨setTimeout_work inv moved, ?_⟩
      rw [armed_wakes, timerStep_idle moved]
  | resume resumed =>
      obtain ⟨-, given⟩ := mine stepped
      simp only [Option.ite_none_right_eq_some, Option.some.injEq] at given
      obtain ⟨held, rfl⟩ := given
      exact ⟨resume_work inv held, resume_wakes _ _⟩
  | check thread =>
      obtain ⟨rest, given⟩ := mine stepped
      cases called : state.call thread with
      | checking wait =>
          simp only [called, Option.some.injEq] at given
          subst given
          have placed := inv.placed thread
          rw [called] at placed
          obtain _ | _ | _ | ⟨-, scheduled⟩ := placed
          have root := bne_iff_ne.mp own
          have low := (scheduled_low scheduled).resolve_right root
          exact ⟨compare_work low rest root called, compare_wakes _ _ _⟩
      | _ => simp [called] at given
  | _ => cases own

/-- Unless all rest, one of them can go on. -/
theorem own_enabled (busy : ¬Resting state) :
    ∃ action : Action, action.own = true ∧ (step raw handles state action).isSome := by
  cases call : state.timer.call with
  | some arm =>
      cases arm with
      | offered deadlineNs =>
          exact ⟨.timeNow, rfl, by simp [step, timerStep, Timer.step, call]⟩
      | timed deadlineNs nowNs =>
          exact ⟨.setTimeout, rfl, by simp [step, timerStep, Timer.step, call]⟩
  | none =>
      cases released : state.idle.released with
      | cons resumed rest =>
          exact ⟨.resume resumed, rfl, by simp [step, call, released]⟩
      | nil =>
          by_contra stuck
          refine busy ⟨call, released, fun thread wait root checking => stuck ?_⟩
          exact ⟨.check thread, bne_iff_ne.mpr root, by simp [step, call, checking]⟩

/-- With no work left they rest. -/
theorem resting_of_work (inv : Inv raw handles state) (done : state.work handles = 0) :
    Resting state := by
  simp only [State.work, IdleWait.effort, Nat.add_eq_zero_iff, Nat.mul_eq_zero,
    List.length_eq_zero_iff, List.countP_eq_zero] at done
  obtain ⟨⟨⟨⟨-, quiet⟩, -⟩, compared⟩, calls⟩ := done
  refine ⟨?_, quiet, fun thread wait root checking => ?_⟩
  · cases call : state.timer.call with
    | none => rfl
    | some arm => cases arm <;> simp [callsLeft, call] at calls
  · have placed := inv.placed thread
    rw [checking] at placed
    obtain _ | _ | _ | ⟨-, scheduled⟩ := placed
    have low := (scheduled_low scheduled).resolve_right root
    have idle := compared.resolve_left (by decide) thread (List.mem_range.mpr low)
    simp [State.compares, root, checking, Call.isChecking] at idle

theorem settles (inv : Inv raw handles state) {more : List Action}
    (own : ∀ action ∈ more, action.own = true) (ran : run raw handles state more = some next)
    (bounded : state.idle.wakes < 2 ^ 64) :
    next.work handles + more.length ≤ state.work handles ∧ Inv raw handles next := by
  induction more generalizing state with
  | nil =>
      cases ran
      exact ⟨Nat.le_refl _, inv⟩
  | cons action rest ih =>
      obtain ⟨middle, stepped, later⟩ := Option.bind_eq_some_iff.mp ran
      obtain ⟨less, wakes⟩ := own_work inv (own action List.mem_cons_self) stepped
      rw [← wakes] at bounded
      obtain ⟨left, ok⟩ := ih (inv.step stepped bounded)
        (fun other inside => own other (List.mem_cons_of_mem _ inside)) later bounded
      exact ⟨by rw [List.length_cons]; omega, ok⟩

/-- From any state reached, the cothreads' own steps come to rest within its work, in whatever
order they run, and then nobody waits from before the last wake. -/
theorem run_settles {actions more : List Action}
    (ran : run raw handles {} actions = some state) (bounded : state.idle.wakes < 2 ^ 64)
    (own : ∀ action ∈ more, action.own = true) (went : run raw handles state more = some next) :
    more.length ≤ state.work handles ∧ (Resting next → Reached next) ∧
      (Resting next ∨
        ∃ action : Action, action.own = true ∧ (step raw handles next action).isSome) := by
  obtain ⟨left, inv⟩ := settles (Inv.boot.run ran bounded) own went bounded
  refine ⟨by omega, inv.reached, ?_⟩
  by_cases resting : Resting next
  · exact .inl resting
  · exact .inr (own_enabled resting)

/-- A wait and a timed one; another thread stores to the first's word and wakes it. -/
def sampleWoken : List Action :=
  [.publish, .futex 1 100 0 0 none, .futex 2 200 0 0 (some ⟨1, 0⟩), .timeNow, .setTimeout,
    .store 3 100 1, .futex 3 100 1 1 none]

/-- The wake's chain: the first returns, and the second arms and parks again. -/
def sampleChain : List Action :=
  [.resume ⟨⟨1, 0⟩, 0⟩, .check 1, .resume ⟨⟨2, 0⟩, 0⟩, .check 2, .timeNow, .setTimeout]

theorem resting_sample (ran : run 0 8 {} (sampleWoken ++ sampleChain) = some state)
    (woken : state.idle.wakes < 2 ^ 64) (done : state.work 8 = 0) : Resting state :=
  resting_of_work (Inv.boot.run ran woken) done

theorem run_settles_woken : ∃ state next, run 0 8 {} sampleWoken = some state ∧
    run 0 8 state sampleChain = some next ∧ sampleChain.length ≤ state.work 8 ∧
      Resting next ∧ Reached next := by
  have resting := resting_sample rfl (by decide) (by decide +kernel)
  obtain ⟨within, all, -⟩ :=
    @run_settles 0 8 _ _ sampleWoken sampleChain rfl (by decide) (by decide) rfl
  exact ⟨_, _, rfl, rfl, within, resting, all resting⟩

/-- In every run of fewer than `2 ^ 64` wakes: no cothread rests on a word that was changed and
woken, nor past a deadline the timer does not hold, and a wait returns for one of the two. -/
theorem run_awake {actions : List Action} (ran : run raw handles {} actions = some state)
    (bounded : state.idle.wakes < 2 ^ 64) : Awake raw state :=
  (Inv.boot.run ran bounded).awake

theorem run_awake_woken : ∃ state, run 0 8 {} (sampleWoken ++ sampleChain) = some state ∧
    Resting state ∧ Awake 0 state := by
  refine ⟨_, rfl, resting_sample rfl (by decide) (by decide +kernel), ?_⟩
  exact @run_awake 0 8 _ (sampleWoken ++ sampleChain) rfl (by decide)

end Chrysopolis.Beam.Futex
