import Chrysopolis.Beam.IdleWait
import Mathlib.Algebra.Group.Nat.Defs
import Mathlib.Data.List.Count
import Mathlib.Data.List.Perm.Basic

/-! The idle wait loses no wakeup. Waiters queue in the order of their generations, so a
signal that starts at the head reaches every older one, and each wake's chain of
releases has one end. -/

set_option autoImplicit false

namespace Chrysopolis.Beam.IdleWait

open Chrysopolis.Support

variable {handles : Nat} {state next : IdleWait} {waiter : Waiter}

/-! ## Order -/

/-- Until the generation wraps, every waiter captured it no later than those behind. -/
structure Queued (state : IdleWait) : Prop where
  semaphore : state.ioWakeupSem.Ok
  generation : state.ioWakeGeneration.toNat = state.wakes
  captured : ∀ waiter ∈ state.ioWakeupSem.waiters, waiter.generation ≤ state.ioWakeGeneration
  ordered : state.ioWakeupSem.waiters.Pairwise fun head later =>
    head.generation ≤ later.generation

theorem Queued.kept (ok : Queued state) (released : List Released) (wentBack : List Nat) :
    Queued { state with released, wentBack } :=
  ⟨ok.semaphore, ok.generation, ok.captured, ok.ordered⟩

/-- A released cothread that passes the signal on. -/
def PassesOn (state : IdleWait) (resumed : Released) : Prop :=
  resumed ∈ state.released ∧ resumed.waiter.generation ≠ state.ioWakeGeneration

/-- And no older waiter is left without one. -/
structure Awaited (state : IdleWait) : Prop extends Queued state where
  passedOn : ∀ waiter ∈ state.ioWakeupSem.waiters,
    waiter.generation ≠ state.ioWakeGeneration → ∃ resumed, PassesOn state resumed

theorem Awaited.fresh : Awaited {} :=
  ⟨⟨.empty, rfl, fun _ mem => absurd mem List.not_mem_nil, .nil⟩,
    fun _ mem => absurd mem List.not_mem_nil⟩

/-- A waiter of the present generation joins the tail. -/
theorem Awaited.semaphoreWait (ok : Awaited state)
    (present : waiter.generation = state.ioWakeGeneration) :
    Awaited (state.semaphoreWait waiter) := by
  have semaphore := ok.semaphore.wait waiter
  unfold IdleWait.semaphoreWait
  cases latched : state.ioWakeupSem.latched with
  | some chain =>
      simp only [Semaphore.wait, latched, Option.toList, List.map] at semaphore ⊢
      refine ⟨⟨semaphore, ok.generation, ok.captured, ok.ordered⟩, fun older mem stale => ?_⟩
      obtain ⟨resumed, held, behind⟩ := ok.passedOn older mem stale
      exact ⟨resumed, List.mem_append_left _ held, behind⟩
  | none =>
      simp only [Semaphore.wait, latched, Option.toList, List.map, List.append_nil] at semaphore ⊢
      refine ⟨⟨semaphore, ok.generation, fun older mem => ?_, ?_⟩, fun older mem stale => ?_⟩
      · rcases List.mem_append.mp mem with earlier | last
        · exact ok.captured older earlier
        · rw [List.mem_singleton.mp last, present]
          exact UInt64.le_refl _
      · rw [List.pairwise_append]
        refine ⟨ok.ordered, List.pairwise_singleton _ _, fun older mem last tail => ?_⟩
        rw [List.mem_singleton.mp tail, present]
        exact ok.captured older mem
      · rcases List.mem_append.mp mem with earlier | last
        · exact ok.passedOn older earlier stale
        · rw [List.mem_singleton.mp last] at stale
          exact absurd present stale

theorem semaphoreSignal_cons {head : Waiter} {rest : List Waiter}
    (waiters : state.ioWakeupSem.waiters = head :: rest) (chain : Nat) :
    state.semaphoreSignal chain =
      { state with
        ioWakeupSem := { state.ioWakeupSem with waiters := rest }
        released := state.released ++ [⟨head, chain⟩] } := by
  simp only [semaphoreSignal, Semaphore.signal, waiters]
  rfl

theorem semaphoreSignal_nil (waiters : state.ioWakeupSem.waiters = []) (chain : Nat) :
    state.semaphoreSignal chain =
      { state with ioWakeupSem := { state.ioWakeupSem with latched := some chain } } := by
  simp [semaphoreSignal, Semaphore.signal, waiters]

theorem semaphoreSignal_wakes (state : IdleWait) (chain : Nat) :
    (state.semaphoreSignal chain).wakes = state.wakes := by
  cases waiters : state.ioWakeupSem.waiters with
  | nil => rw [semaphoreSignal_nil waiters]
  | cons head rest => rw [semaphoreSignal_cons waiters]

/-- The head of the queue is the oldest, so it passes a signal on to any older waiter. -/
theorem Queued.semaphoreSignal (ok : Queued state) (chain : Nat) :
    Awaited (state.semaphoreSignal chain) := by
  have semaphore := ok.semaphore.signal chain
  cases waiters : state.ioWakeupSem.waiters with
  | nil =>
      rw [semaphoreSignal_nil waiters]
      have none {waiter : Waiter} (mem : waiter ∈ state.ioWakeupSem.waiters) : False := by
        rw [waiters] at mem
        exact absurd mem List.not_mem_nil
      exact ⟨⟨fun _ => waiters, ok.generation, ok.captured, ok.ordered⟩,
        fun _ mem => (none mem).elim⟩
  | cons head rest =>
      have captured := ok.captured
      have ordered := ok.ordered
      simp only [Semaphore.signal, waiters] at semaphore
      rw [waiters] at captured ordered
      rw [semaphoreSignal_cons waiters]
      obtain ⟨first, later⟩ := List.pairwise_cons.mp ordered
      refine ⟨⟨semaphore, ok.generation, fun waiter mem =>
        captured waiter (List.mem_cons_of_mem head mem), later⟩, fun waiter mem stale => ?_⟩
      refine ⟨⟨head, chain⟩, List.mem_append_right _ List.mem_cons_self, fun same => stale ?_⟩
      have earlier := first waiter mem
      rw [same] at earlier
      exact UInt64.le_antisymm (captured waiter (List.mem_cons_of_mem head mem)) earlier

theorem Awaited.threadIoResume (ok : Awaited state) (resumed : Released) :
    Awaited (state.threadIoResume resumed) := by
  unfold IdleWait.threadIoResume
  dsimp only
  split_ifs with present waiting
  · have dropped : Awaited { state with
        released := state.released.erase resumed
        wentBack := state.wentBack ++ [resumed.chain] } := by
      refine ⟨ok.kept _ _, fun older mem stale => ?_⟩
      obtain ⟨other, held, behind⟩ := ok.passedOn older mem stale
      have different : other ≠ resumed := fun same => behind (same ▸ present)
      exact ⟨other, (List.mem_erase_of_ne different).mpr held, behind⟩
    exact dropped.semaphoreWait present
  · exact (ok.kept _ state.wentBack).semaphoreSignal resumed.chain
  · refine ⟨ok.kept _ state.wentBack, fun older mem => ?_⟩
    simp only [Bool.not_eq_true, Bool.not_eq_false', Semaphore.isQueueEmpty, List.isEmpty_iff]
      at waiting
    rw [waiting] at mem
    exact absurd mem List.not_mem_nil

theorem Awaited.threadIoWake (ok : Awaited state)
    (bounded : state.threadIoWake.wakes < 2 ^ 64) : Awaited state.threadIoWake := by
  unfold IdleWait.threadIoWake at bounded ⊢
  split_ifs at bounded ⊢ with ready
  · rw [semaphoreSignal_wakes] at bounded
    have advanced : Queued { state with
        ioWakeGeneration := state.ioWakeGeneration + 1
        wakes := state.wakes + 1 } := by
      have generation : (state.ioWakeGeneration + 1).toNat = state.wakes + 1 := by
        rw [UInt64.toNat_add, ok.generation, UInt64.toNat_one, Nat.mod_eq_of_lt bounded]
      refine ⟨ok.semaphore, generation, fun waiter mem => ?_, ok.ordered⟩
      have captured := ok.captured waiter mem
      rw [UInt64.le_iff_toNat_le] at captured ⊢
      rw [generation, ← ok.generation]
      exact Nat.le_succ_of_le captured
    exact advanced.semaphoreSignal state.wakes
  · exact ok

/-- One step keeps every older waiter awaited. -/
theorem Awaited.step (ok : Awaited state) {taken : Step}
    (stepped : state.step handles taken = some next) (bounded : next.wakes < 2 ^ 64) :
    Awaited next := by
  cases taken with
  | publish =>
      cases stepped
      exact ⟨⟨ok.semaphore, ok.generation, ok.captured, ok.ordered⟩, ok.passedOn⟩
  | wait handle =>
      simp only [IdleWait.step, Option.ite_none_left_eq_some, Option.some.injEq] at stepped
      rw [← stepped.2, threadIoWait]
      split_ifs
      · exact ok
      · exact ok.semaphoreWait rfl
  | resume resumed =>
      simp only [IdleWait.step, Option.ite_none_right_eq_some, Option.some.injEq] at stepped
      rw [← stepped.2]
      exact ok.threadIoResume resumed
  | wake =>
      cases stepped
      exact ok.threadIoWake bounded

/-! ## Chains -/

/-- What is left of a wake's chain: its released or latched signal, and the cothreads
it sent back to waiting. -/
def links (state : IdleWait) (chain : Nat) : Nat :=
  state.released.countP (·.chain = chain) +
    (if state.ioWakeupSem.latched = some chain then 1 else 0) + state.wentBack.count chain

/-- A chain has one end, and no chain is older than its wake. -/
structure Chained (state : IdleWait) : Prop where
  single : ∀ chain, links state chain ≤ 1
  later : ∀ chain, state.wakes ≤ chain → links state chain = 0

theorem links_semaphoreWait (state : IdleWait) (waiter : Waiter) (chain : Nat) :
    links (state.semaphoreWait waiter) chain = links state chain := by
  unfold links semaphoreWait Semaphore.wait
  cases state.ioWakeupSem.latched with
  | none => simp
  | some held =>
      simp only [Option.toList, List.map, List.countP_append, List.countP_singleton]
      simp

theorem links_semaphoreSignal (state : IdleWait) (signal chain : Nat) :
    links (state.semaphoreSignal signal) chain ≤
      links state chain + if signal = chain then 1 else 0 := by
  unfold links
  cases waiters : state.ioWakeupSem.waiters with
  | nil =>
      rw [semaphoreSignal_nil waiters]
      simp only [Option.some.injEq]
      omega
  | cons head rest =>
      rw [semaphoreSignal_cons waiters]
      simp only [List.countP_append, List.countP_singleton, decide_eq_true_eq]
      omega

theorem countP_erase_add {resumed : Released} (mem : resumed ∈ state.released) (chain : Nat) :
    state.released.countP (·.chain = chain) =
      (state.released.erase resumed).countP (·.chain = chain) +
        if resumed.chain = chain then 1 else 0 := by
  rw [(List.perm_cons_erase mem).countP_eq, List.countP_cons]
  simp

theorem links_threadIoResume {resumed : Released} (mem : resumed ∈ state.released) (chain : Nat) :
    links (state.threadIoResume resumed) chain ≤ links state chain := by
  have erased := countP_erase_add mem chain
  unfold threadIoResume
  dsimp only
  split_ifs
  · rw [links_semaphoreWait]
    simp only [links, List.count_append, List.count_singleton, beq_iff_eq]
    omega
  · refine Nat.le_trans (links_semaphoreSignal _ _ _) ?_
    simp only [links]
    omega
  · simp only [links]
    omega

theorem threadIoResume_wakes (state : IdleWait) (resumed : Released) :
    (state.threadIoResume resumed).wakes = state.wakes := by
  unfold threadIoResume
  dsimp only
  split_ifs
  · rfl
  · exact semaphoreSignal_wakes _ _
  · rfl

theorem Chained.of_le (ok : Chained state) (wakes : next.wakes = state.wakes)
    (fewer : ∀ chain, links next chain ≤ links state chain) : Chained next := by
  refine ⟨fun chain => Nat.le_trans (fewer chain) (ok.single chain), fun chain later => ?_⟩
  rw [wakes] at later
  exact Nat.le_zero.mp (ok.later chain later ▸ fewer chain)

theorem Chained.step (ok : Chained state) {taken : Step}
    (stepped : state.step handles taken = some next) : Chained next := by
  cases taken with
  | publish =>
      cases stepped
      exact ⟨ok.single, ok.later⟩
  | wait handle =>
      simp only [IdleWait.step, Option.ite_none_left_eq_some, Option.some.injEq] at stepped
      rw [← stepped.2, threadIoWait]
      split_ifs
      · exact ok
      · exact ok.of_le rfl fun chain => Nat.le_of_eq (links_semaphoreWait state _ chain)
  | resume resumed =>
      simp only [IdleWait.step, Option.ite_none_right_eq_some, Option.some.injEq] at stepped
      rw [← stepped.2]
      exact ok.of_le (threadIoResume_wakes state resumed) (links_threadIoResume stepped.1)
  | wake =>
      cases stepped
      unfold threadIoWake
      split_ifs
      · have more (chain : Nat) : links ({ state with
            ioWakeGeneration := state.ioWakeGeneration + 1
            wakes := state.wakes + 1 }.semaphoreSignal state.wakes) chain ≤
              links state chain + if state.wakes = chain then 1 else 0 :=
          links_semaphoreSignal _ _ _
        refine ⟨fun chain => ?_, fun chain later => ?_⟩
        · have single := ok.single chain
          have fresh := ok.later chain
          have bound := more chain
          split_ifs at bound with same <;> omega
        · rw [semaphoreSignal_wakes] at later
          change state.wakes + 1 ≤ chain at later
          have fresh := ok.later chain (Nat.le_of_succ_le later)
          have bound := more chain
          rw [if_neg (by omega)] at bound
          exact Nat.le_zero.mp (fresh ▸ bound)
      · exact ok

/-! ## Runs -/

theorem step_wakes {taken : Step} (stepped : state.step handles taken = some next) :
    state.wakes ≤ next.wakes := by
  cases taken with
  | publish =>
      cases stepped
      exact Nat.le_refl _
  | wait handle =>
      simp only [IdleWait.step, Option.ite_none_left_eq_some, Option.some.injEq] at stepped
      rw [← stepped.2, threadIoWait]
      split_ifs <;> exact Nat.le_refl _
  | resume resumed =>
      simp only [IdleWait.step, Option.ite_none_right_eq_some, Option.some.injEq] at stepped
      exact Nat.le_of_eq (by rw [← stepped.2, threadIoResume_wakes])
  | wake =>
      cases stepped
      unfold threadIoWake
      split_ifs
      · rw [semaphoreSignal_wakes]
        exact Nat.le_succ _
      · exact Nat.le_refl _

theorem run_wakes {steps : List Step} (ran : state.run handles steps = some next) :
    state.wakes ≤ next.wakes := by
  induction steps generalizing state with
  | nil =>
      cases ran
      exact Nat.le_refl _
  | cons first rest ih =>
      obtain ⟨middle, stepped, later⟩ := Option.bind_eq_some_iff.mp ran
      exact Nat.le_trans (step_wakes stepped) (ih later)

theorem Awaited.run (ok : Awaited state) {steps : List Step}
    (ran : state.run handles steps = some next) (bounded : next.wakes < 2 ^ 64) :
    Awaited next := by
  induction steps generalizing state with
  | nil =>
      cases ran
      exact ok
  | cons first rest ih =>
      obtain ⟨middle, stepped, later⟩ := Option.bind_eq_some_iff.mp ran
      exact ih (ok.step stepped (Nat.lt_of_le_of_lt (run_wakes later) bounded)) later

theorem Chained.run (ok : Chained state) {steps : List Step}
    (ran : state.run handles steps = some next) : Chained next := by
  induction steps generalizing state with
  | nil =>
      cases ran
      exact ok
  | cons first rest ih =>
      obtain ⟨middle, stepped, later⟩ := Option.bind_eq_some_iff.mp ran
      exact ih (ok.step stepped) later

/-- What the step of a released cothread that passes the signal on does. -/
theorem threadIoResume_passesOn {resumed : Released} (passes : PassesOn state resumed)
    {head : Waiter} {rest : List Waiter} (waiters : state.ioWakeupSem.waiters = head :: rest) :
    state.threadIoResume resumed =
      { state with
        ioWakeupSem := { state.ioWakeupSem with waiters := rest }
        released := state.released.erase resumed ++ [⟨head, resumed.chain⟩] } := by
  have waiting : (!state.ioWakeupSem.isQueueEmpty) = true := by
    simp [Semaphore.isQueueEmpty, waiters]
  unfold threadIoResume
  dsimp only
  rw [if_neg passes.2, if_pos waiting]
  exact @semaphoreSignal_cons { state with released := state.released.erase resumed } head rest
    waiters resumed.chain

end Chrysopolis.Beam.IdleWait
