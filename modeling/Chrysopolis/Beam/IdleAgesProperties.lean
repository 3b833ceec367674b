import Chrysopolis.Beam.IdleMembersProperties
import Mathlib.Data.List.Perm.Subperm

/-! The idle wait loses no wakeup, also once the generation wraps. Each wake takes the head of
the queue, so a waiter is passed by no more wakes than there are cothreads ahead of it. -/

set_option autoImplicit false

namespace Chrysopolis.Beam.IdleWait

variable {handles : Nat} {state next : IdleWait} {waiter : Waiter}

/-! ## Seats -/

/-- A cothread is in the wait once. -/
structure Seats (handles : Nat) (state : IdleWait) : Prop where
  once : (state.members.map (·.handle)).Nodup
  low : ∀ waiter ∈ state.members, waiter.handle ≠ 0 ∧ waiter.handle < handles

theorem Seats.of_perm (seats : Seats handles state)
    (same : next.members.Perm state.members) : Seats handles next where
  once := (same.map _).nodup_iff.mpr seats.once
  low := fun waiter inside => seats.low waiter (same.mem_iff.mp inside)

theorem Seats.length_lt (seats : Seats handles state) (some_ : state.members ≠ []) :
    state.members.length < handles := by
  have within : state.members.map (·.handle) ⊆ List.range' 1 (handles - 1) := by
    intro handle inside
    obtain ⟨waiter, member, rfl⟩ := List.mem_map.mp inside
    obtain ⟨root, low⟩ := seats.low waiter member
    rw [List.mem_range'_1]
    omega
  have fewer := (List.subperm_of_subset seats.once within).length_le
  rw [List.length_map, List.length_range'] at fewer
  have any := List.length_pos_iff.mpr some_
  omega

theorem mem_members_of_parked (free : state.parked waiter.handle = false) :
    waiter.handle ∉ state.members.map (·.handle) := by
  intro inside
  simp only [members, List.map_append, List.mem_append, List.mem_map] at inside
  simp only [parked, Bool.or_eq_false_iff, List.any_eq_false, beq_iff_eq] at free
  obtain ⟨other, queued, same⟩ | ⟨other, ⟨resumed, held, rfl⟩, same⟩ := inside
  · exact free.1 other queued same
  · exact free.2 resumed held same

theorem Seats.semaphoreWait (seats : Seats handles state)
    (free : state.parked waiter.handle = false) (root : waiter.handle ≠ 0)
    (low : waiter.handle < handles) : Seats handles (state.semaphoreWait waiter) := by
  have joined := members_semaphoreWait state waiter
  constructor
  · rw [(joined.map (·.handle)).nodup_iff, List.map_cons, List.nodup_cons]
    exact ⟨mem_members_of_parked free, seats.once⟩
  · intro other inside
    obtain rfl | earlier := List.mem_cons.mp (joined.mem_iff.mp inside)
    · exact ⟨root, low⟩
    · exact seats.low other earlier

theorem Seats.threadIoResume (seats : Seats handles state) {resumed : Released}
    (held : resumed ∈ state.released) : Seats handles (state.threadIoResume resumed) := by
  have moved := members_threadIoResume held
  split_ifs at moved
  · exact seats.of_perm moved
  · constructor
    · have once := (moved.map (·.handle)).nodup_iff.mpr seats.once
      exact (List.nodup_cons.mp once).2
    · intro waiter inside
      exact seats.low waiter (moved.mem_iff.mp (List.mem_cons_of_mem _ inside))

/-! ## Ages -/

/-- The wakes since a cothread captured its generation, modulo `2 ^ 64`. -/
def age (state : IdleWait) (waiter : Waiter) : Nat :=
  (state.ioWakeGeneration - waiter.generation).toNat

theorem age_eq_zero_iff : state.age waiter = 0 ↔ waiter.generation = state.ioWakeGeneration := by
  have generation := waiter.generation.toNat_lt
  have present := state.ioWakeGeneration.toNat_lt
  rw [age, UInt64.toNat_sub, ← UInt64.toNat_inj]
  omega

theorem age_advance {generation : UInt64} (early : state.age waiter + 1 < 2 ^ 64)
    (advanced : generation = state.ioWakeGeneration + 1) :
    (generation - waiter.generation).toNat = state.age waiter + 1 := by
  have captured := waiter.generation.toNat_lt
  have present := state.ioWakeGeneration.toNat_lt
  rw [age, UInt64.toNat_sub] at early ⊢
  rw [advanced, UInt64.toNat_sub, UInt64.toNat_add, UInt64.toNat_one]
  omega

def OldestFirst (state : IdleWait) : Prop :=
  state.ioWakeupSem.waiters.Pairwise fun head later => state.age later ≤ state.age head

/-- The oldest waiters are ahead, and a waiter has seen no more wakes than cothreads left from
ahead of it. -/
structure Aging (handles : Nat) (state : IdleWait) : Prop where
  seats : Seats handles state
  ordered : OldestFirst state
  soon : ∀ place waiter, state.ioWakeupSem.waiters[place]? = some waiter →
    state.age waiter + place + 1 < handles
  passedOn : ∀ waiter ∈ state.ioWakeupSem.waiters,
    waiter.generation ≠ state.ioWakeGeneration → ∃ resumed, PassesOn state resumed

theorem Aging.fresh : Aging handles {} where
  seats := ⟨.nil, fun _ inside => absurd inside List.not_mem_nil⟩
  ordered := .nil
  soon := fun _ _ found => by simp at found
  passedOn := fun _ inside => absurd inside List.not_mem_nil

/-- A waiter of the present generation joins the tail. -/
theorem Aging.semaphoreWait (seats : Seats handles (state.semaphoreWait waiter))
    (ordered : OldestFirst state)
    (soon : ∀ place waiter, state.ioWakeupSem.waiters[place]? = some waiter →
      state.age waiter + place + 1 < handles)
    (passedOn : ∀ waiter ∈ state.ioWakeupSem.waiters,
      waiter.generation ≠ state.ioWakeGeneration → ∃ resumed, PassesOn state resumed)
    (present : waiter.generation = state.ioWakeGeneration) :
    Aging handles (state.semaphoreWait waiter) := by
  have new : state.age waiter = 0 := age_eq_zero_iff.mpr present
  have joined := members_semaphoreWait state waiter
  have room := seats.length_lt (List.ne_nil_of_mem (joined.mem_iff.mpr List.mem_cons_self))
  rw [joined.length_eq, List.length_cons] at room
  have queued : state.ioWakeupSem.waiters.length ≤ state.members.length := by
    rw [members, List.length_append]
    exact Nat.le_add_right ..
  revert seats
  unfold IdleWait.semaphoreWait
  cases latched : state.ioWakeupSem.latched with
  | some chain =>
      simp only [Support.Semaphore.wait, latched, Option.toList, List.map]
      intro seats
      refine ⟨seats, ordered, soon, fun older inside stale => ?_⟩
      obtain ⟨resumed, held, behind⟩ := passedOn older inside stale
      exact ⟨resumed, List.mem_append_left _ held, behind⟩
  | none =>
      simp only [Support.Semaphore.wait, latched, Option.toList, List.map, List.append_nil]
      intro seats
      refine ⟨seats, ?_, fun place other found => ?_, fun older inside stale => ?_⟩
      · rw [OldestFirst, List.pairwise_append]
        refine ⟨ordered, List.pairwise_singleton _ _, fun older _ last tail => ?_⟩
        rw [List.mem_singleton.mp tail]
        exact Nat.le_trans (Nat.le_of_eq new) (Nat.zero_le _)
      · by_cases earlier : place < state.ioWakeupSem.waiters.length
        · rw [List.getElem?_append_left earlier] at found
          exact soon place other found
        · rw [List.getElem?_append_right (Nat.not_lt.mp earlier)] at found
          obtain ⟨last, same⟩ := List.getElem?_eq_some_iff.mp found
          rw [List.length_singleton] at last
          have tail : other = waiter := by
            rw [← same]
            exact List.getElem_singleton ..
          rw [tail]
          change state.age waiter + place + 1 < handles
          omega
      · obtain earlier | last := List.mem_append.mp inside
        · exact passedOn older earlier stale
        · rw [List.mem_singleton.mp last] at stale
          exact absurd present stale

/-- The head of the queue is the oldest, so it passes a signal on to any that is not present. -/
theorem Aging.semaphoreSignal (seats : Seats handles state)
    (ordered : OldestFirst state)
    (soon : ∀ place waiter, state.ioWakeupSem.waiters[place]? = some waiter →
      state.age waiter + place < handles) (chain : Nat) :
    Aging handles (state.semaphoreSignal chain) := by
  have kept := seats.of_perm (members_semaphoreSignal state chain)
  cases waiters : state.ioWakeupSem.waiters with
  | nil =>
      rw [semaphoreSignal_nil waiters] at kept ⊢
      refine ⟨kept, ordered, fun place other found => ?_, fun other inside => ?_⟩
      · simp [waiters] at found
      · simp [waiters] at inside
  | cons head rest =>
      rw [OldestFirst, waiters] at ordered
      rw [waiters] at soon
      rw [semaphoreSignal_cons waiters] at kept ⊢
      obtain ⟨first, later⟩ := List.pairwise_cons.mp ordered
      refine ⟨kept, later, fun place other found => ?_, fun other inside stale => ?_⟩
      · have behind := soon (place + 1) other (by simpa using found)
        change state.age other + place + 1 < handles
        omega
      · refine ⟨⟨head, chain⟩, List.mem_append_right _ List.mem_cons_self, fun same => stale ?_⟩
        have none_ := age_eq_zero_iff.mpr same
        have older := first other inside
        exact age_eq_zero_iff.mp (Nat.le_zero.mp (none_ ▸ older))

theorem Aging.threadIoResume (aging : Aging handles state) {resumed : Released}
    (held : resumed ∈ state.released) : Aging handles (state.threadIoResume resumed) := by
  have seats := aging.seats.threadIoResume held
  unfold IdleWait.threadIoResume at seats ⊢
  dsimp only at seats ⊢
  split_ifs at seats ⊢ with present waiting
  · refine Aging.semaphoreWait seats aging.ordered aging.soon (fun older inside stale => ?_) present
    obtain ⟨other, among, behind⟩ := aging.passedOn older inside stale
    have different : other ≠ resumed := fun same => behind (same ▸ present)
    exact ⟨other, (List.mem_erase_of_ne different).mpr among, behind⟩
  · have left : Seats handles { state with released := state.released.erase resumed } :=
      seats.of_perm (members_semaphoreSignal _ resumed.chain).symm
    exact Aging.semaphoreSignal left aging.ordered
      (fun place waiter found => Nat.lt_of_succ_lt (aging.soon place waiter found)) resumed.chain
  · refine ⟨seats, aging.ordered, aging.soon, fun older inside => ?_⟩
    simp only [Bool.not_eq_true, Bool.not_eq_false', Support.Semaphore.isQueueEmpty,
      List.isEmpty_iff] at waiting
    rw [waiting] at inside
    exact absurd inside List.not_mem_nil

theorem Aging.threadIoWake (aging : Aging handles state) (few : handles ≤ 2 ^ 64) :
    Aging handles state.threadIoWake := by
  have seats := aging.seats.of_perm (members_threadIoWake state)
  unfold IdleWait.threadIoWake at seats ⊢
  split_ifs at seats ⊢ with ready
  · have older {place : Nat} {waiter : Waiter}
        (found : state.ioWakeupSem.waiters[place]? = some waiter) :
        (state.ioWakeGeneration + 1 - waiter.generation).toNat = state.age waiter + 1 :=
      age_advance (by have := aging.soon place waiter found; omega) rfl
    refine Aging.semaphoreSignal
      (seats.of_perm (members_semaphoreSignal _ state.wakes).symm) ?_ ?_ state.wakes
    · refine aging.ordered.imp_of_mem fun first second order => ?_
      obtain ⟨_, one⟩ := List.getElem?_of_mem first
      obtain ⟨_, two⟩ := List.getElem?_of_mem second
      change (state.ioWakeGeneration + 1 - _).toNat ≤ (state.ioWakeGeneration + 1 - _).toNat
      rw [older one, older two]
      exact Nat.succ_le_succ order
    · intro place waiter found
      have before := aging.soon place waiter found
      change (state.ioWakeGeneration + 1 - waiter.generation).toNat + place < handles
      rw [older found]
      omega
  · exact aging

theorem Aging.step (aging : Aging handles state) (few : handles ≤ 2 ^ 64) {taken : Step}
    (stepped : state.step handles taken = some next) : Aging handles next := by
  cases taken with
  | publish =>
      cases stepped
      exact ⟨⟨aging.seats.once, aging.seats.low⟩, aging.ordered, aging.soon, aging.passedOn⟩
  | wait handle =>
      simp only [IdleWait.step, Option.ite_none_left_eq_some, Option.some.injEq,
        Bool.not_eq_true] at stepped
      obtain ⟨free, rfl⟩ := stepped
      rw [threadIoWait]
      split_ifs with idle
      · exact aging
      · simp only [Bool.or_eq_true, Bool.not_eq_true', decide_eq_true_eq, decide_eq_false_iff_not,
          not_or, Bool.not_eq_false, not_not] at idle
        have seats := aging.seats.semaphoreWait
          (show state.parked (Waiter.mk handle state.ioWakeGeneration).handle = false from free)
          idle.2 idle.1.2
        exact Aging.semaphoreWait seats aging.ordered aging.soon aging.passedOn rfl
  | resume resumed =>
      simp only [IdleWait.step, Option.ite_none_right_eq_some, Option.some.injEq] at stepped
      rw [← stepped.2]
      exact aging.threadIoResume stepped.1
  | wake =>
      cases stepped
      exact aging.threadIoWake few

theorem Aging.run (aging : Aging handles state) (few : handles ≤ 2 ^ 64) {steps : List Step}
    (ran : state.run handles steps = some next) : Aging handles next := by
  induction steps generalizing state with
  | nil =>
      cases ran
      exact aging
  | cons first rest ih =>
      obtain ⟨middle, stepped, later⟩ := Option.bind_eq_some_iff.mp ran
      exact ih (aging.step few stepped) later

/-! ## None lost -/

/-- Over every run of fewer than `2 ^ 64` wakes the waiters queue in the order of their
generations. Over that, and over every run of at most `2 ^ 64` cothreads, no older waiter is left
without a cothread that passes the signal on. Over every run a wake's chain of releases sends at
most one cothread back to waiting. -/
theorem idleWait_wakes {steps : List Step} (ran : run handles {} steps = some state) :
    (state.wakes < 2 ^ 64 → state.ioWakeupSem.waiters.Pairwise fun head later =>
      head.generation ≤ later.generation) ∧
    (state.wakes < 2 ^ 64 ∨ handles ≤ 2 ^ 64 →
      ∀ waiter ∈ state.ioWakeupSem.waiters, waiter.generation ≠ state.ioWakeGeneration →
        ∃ resumed ∈ state.released, ∃ head rest, state.ioWakeupSem.waiters = head :: rest ∧
          state.threadIoResume resumed =
            { state with
              ioWakeupSem := { state.ioWakeupSem with waiters := rest }
              released := state.released.erase resumed ++ [⟨head, resumed.chain⟩] }) ∧
      ∀ chain, state.wentBack.count chain ≤ 1 := by
  refine ⟨fun bounded => (Awaited.fresh.run ran bounded).ordered, fun limit => ?_, fun chain => ?_⟩
  · intro waiter mem stale
    obtain ⟨resumed, passes⟩ : ∃ resumed, PassesOn state resumed := by
      obtain bounded | few := limit
      · exact (Awaited.fresh.run ran bounded).passedOn waiter mem stale
      · exact (Aging.fresh.run few ran).passedOn waiter mem stale
    obtain ⟨head, rest, waiters⟩ := List.exists_cons_of_ne_nil (List.ne_nil_of_mem mem)
    exact ⟨resumed, passes.1, head, rest, waiters, threadIoResume_passesOn passes waiters⟩
  · have fresh : Chained {} := ⟨fun _ => Nat.zero_le _, fun _ _ => rfl⟩
    have single := (fresh.run ran).single chain
    unfold links at single
    omega

/-- Two waiters and one wake: the one released still has to reach the other. -/
theorem idleWait_wakes_small : ∃ state,
    run 4 {} [.publish, .wait 1, .wait 2, .wake] = some state ∧
      state.ioWakeupSem.waiters ≠ [] ∧ state.released ≠ [] := by
  refine ⟨_, rfl, by decide, ?_⟩
  obtain ⟨-, passedOn, -⟩ := @idleWait_wakes 4 _ [.publish, .wait 1, .wait 2, .wake] rfl
  obtain ⟨resumed, held, -⟩ := passedOn (.inr (by decide)) ⟨2, 0⟩ (by decide) (by decide)
  exact List.ne_nil_of_mem held

/-! ### The generation wraps -/

theorem run_append (state : IdleWait) (first second : List Step) :
    state.run handles (first ++ second) =
      (state.run handles first).bind fun middle => middle.run handles second := by
  induction first generalizing state with
  | nil => rfl
  | cons head rest ih =>
      simp only [List.cons_append, run, Option.bind_assoc]
      exact congrArg _ (funext fun middle => ih middle)

/-- The state after so many wakes and one more, with nobody waiting. -/
def wakened (count : Nat) : IdleWait :=
  { ready := true, ioWakeGeneration := .ofNat (count + 1),
    ioWakeupSem := { latched := some count }, wakes := count + 1 }

theorem run_wakened (count more : Nat) :
    (wakened count).run 4 (List.replicate more .wake) = some (wakened (count + more)) := by
  induction more generalizing count with
  | zero => rfl
  | succ more ih =>
      have woken : (wakened count).threadIoWake = wakened (count + 1) := by
        simp [wakened, threadIoWake, semaphoreSignal, Support.Semaphore.signal, UInt64.ofNat_add]
      rw [List.replicate_succ, run, step, woken, Option.bind_some, ih, Nat.add_assoc,
        Nat.add_comm 1 more]

/-- Of so many waiters of generation 0 the wakes so far have released the first, and others came
late. -/
def passed (count woken : Nat) (late : List Waiter) : IdleWait :=
  { ready := true
    ioWakeGeneration := .ofNat woken
    ioWakeupSem :=
      { waiters := (List.range' (woken + 1) (count - woken)).map (⟨·, 0⟩) ++ late }
    released := (List.range woken).map fun chain => ⟨⟨chain + 1, 0⟩, chain⟩
    wakes := woken }

theorem run_waits (count : Nat) (low : count < handles) :
    run handles { ready := true } ((List.range' 1 count).map .wait) = some (passed count 0 []) := by
  induction count with
  | zero => rfl
  | succ count ih =>
      have free : (passed count 0 []).parked (count + 1) = false := by
        simp [parked, passed, List.mem_range'_1]
        omega
      have entered :
          (passed count 0 []).threadIoWait handles (count + 1) = passed (count + 1) 0 [] := by
        simp [threadIoWait, passed, low, semaphoreWait, Support.Semaphore.wait,
          List.range'_1_concat, Nat.add_comm 1 count]
      rw [List.range'_1_concat, List.map_append, run_append, ih (Nat.lt_of_succ_lt low)]
      simp only [Option.bind_some, List.map_cons, List.map_nil, run, step, Nat.add_comm 1 count,
        free, entered, Bool.false_eq_true, if_false]

theorem run_wakes_passed {count woken : Nat} (late : List Waiter) (more : Nat)
    (within : woken + more ≤ count) :
    (passed count woken late).run handles (List.replicate more .wake) =
      some (passed count (woken + more) late) := by
  induction more generalizing woken with
  | zero => rfl
  | succ more ih =>
      have waiting : count - woken = count - (woken + 1) + 1 := by omega
      have stepped : (passed count woken late).threadIoWake = passed count (woken + 1) late := by
        simp [passed, threadIoWake, semaphoreSignal, Support.Semaphore.signal, waiting,
          List.range'_succ, List.range_succ, UInt64.ofNat_add]
      rw [List.replicate_succ, run, step, stepped, Option.bind_some, ih (by omega)]
      congr 2
      omega

/-- All wait before the first wake but one cothread, which waits after it. -/
def outnumber (count : Nat) : List Step :=
  [.publish] ++ (List.range' 1 count).map .wait ++ List.replicate 1 .wake ++ [.wait (count + 1)] ++
    List.replicate (count - 1) .wake

theorem run_outnumber {count : Nat} (some_ : 0 < count) (low : count + 1 < handles) :
    run handles {} (outnumber count) = some (passed count count [⟨count + 1, 1⟩]) := by
  have published : run handles {} [.publish] = some { ready := true } := rfl
  have late : run handles (passed count 1 []) [.wait (count + 1)] =
      some (passed count 1 [⟨count + 1, 1⟩]) := by
    have free : (passed count 1 []).parked (count + 1) = false := by
      simp [parked, passed, List.mem_range'_1]
      exact ⟨fun _ _ _ => by omega, by omega⟩
    have entered : (passed count 1 []).threadIoWait handles (count + 1) =
        passed count 1 [⟨count + 1, 1⟩] := by
      simp [threadIoWait, passed, low, semaphoreWait, Support.Semaphore.wait]
    simp only [run, step, free, entered, Bool.false_eq_true, if_false, Option.bind_some]
  rw [outnumber, run_append, run_append, run_append, run_append, published, Option.bind_some,
    run_waits count (Nat.lt_of_succ_lt low), Option.bind_some,
    run_wakes_passed [] 1 (by omega), Option.bind_some, late, Option.bind_some,
    run_wakes_passed _ (count - 1) (by omega), Nat.add_sub_cancel' some_]

theorem passed_lost {count : Nat} (wrapped : UInt64.ofNat count = 0) :
    ∃ waiter ∈ (passed count count [⟨count + 1, 1⟩]).ioWakeupSem.waiters,
      waiter.generation ≠ (passed count count [⟨count + 1, 1⟩]).ioWakeGeneration ∧
        ∀ resumed ∈ (passed count count [⟨count + 1, 1⟩]).released,
          resumed.waiter.generation = (passed count count [⟨count + 1, 1⟩]).ioWakeGeneration := by
  refine ⟨⟨count + 1, 1⟩, List.mem_append_right _ List.mem_cons_self, ?_, fun resumed held => ?_⟩
  · rw [passed, wrapped]
    exact (by decide : (1 : UInt64) ≠ 0)
  · obtain ⟨chain, -, rfl⟩ := List.mem_map.mp held
    exact wrapped.symm

/-- After `2 ^ 64` wakes the captured generations decrease along the queue, and with more
cothreads than that a waiter can be left with nobody to pass the signal on. -/
theorem idleWait_wraps :
    (∃ state, run 4 {} ([.publish, .wake] ++ List.replicate (2 ^ 64 - 2) .wake ++
        [.wait 1, .resume ⟨⟨1, 0xFFFFFFFFFFFFFFFF⟩, 2 ^ 64 - 2⟩, .wait 2, .wake, .wait 3]) =
      some state ∧
      ¬ state.ioWakeupSem.waiters.Pairwise fun head later =>
        head.generation ≤ later.generation) ∧
    ∃ state, run (2 ^ 64 + 2) {} (outnumber (2 ^ 64)) = some state ∧
      ∃ waiter ∈ state.ioWakeupSem.waiters, waiter.generation ≠ state.ioWakeGeneration ∧
        ∀ resumed ∈ state.released, resumed.waiter.generation = state.ioWakeGeneration := by
  constructor
  · have first : run 4 {} [.publish, .wake] = some (wakened 0) := rfl
    rw [run_append, run_append, first, Option.bind_some, run_wakened, Option.bind_some]
    exact ⟨_, rfl, by decide⟩
  · exact ⟨_, run_outnumber (by decide) (by decide), passed_lost (by decide)⟩

end Chrysopolis.Beam.IdleWait
