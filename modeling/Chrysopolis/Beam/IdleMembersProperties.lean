import Chrysopolis.Beam.IdleWaitProperties

/-! Who is in the idle wait, and what a wake still owes them. -/

set_option autoImplicit false

namespace Chrysopolis.Beam.IdleWait

/-- The cothreads in the idle wait. -/
def members (idle : IdleWait) : List Waiter :=
  idle.ioWakeupSem.waiters ++ idle.released.map (·.waiter)

theorem members_semaphoreWait (idle : IdleWait) (waiter : Waiter) :
    (idle.semaphoreWait waiter).members.Perm (waiter :: idle.members) := by
  unfold members semaphoreWait Support.Semaphore.wait
  cases idle.ioWakeupSem.latched with
  | none =>
      simp only [Option.toList, List.map_nil, List.append_nil, List.append_assoc,
        List.singleton_append]
      exact List.perm_middle
  | some chain =>
      simp only [Option.toList, List.map_cons, List.map_nil, List.map_append, ← List.append_assoc]
      exact List.perm_append_singleton _ _

theorem members_semaphoreSignal (idle : IdleWait) (chain : Nat) :
    (idle.semaphoreSignal chain).members.Perm idle.members := by
  cases waiters : idle.ioWakeupSem.waiters with
  | nil =>
      rw [semaphoreSignal_nil waiters]
      simp only [members, waiters]
      exact .refl _
  | cons head rest =>
      rw [semaphoreSignal_cons waiters]
      simp only [members, waiters, List.map_append, List.map_cons, List.map_nil,
        ← List.append_assoc, List.cons_append]
      exact List.perm_append_singleton _ _

theorem members_threadIoWake (idle : IdleWait) : idle.threadIoWake.members.Perm idle.members := by
  unfold threadIoWake
  split_ifs
  · exact members_semaphoreSignal _ _
  · exact .refl _

theorem members_released {idle : IdleWait} {resumed : Released}
    (held : resumed ∈ idle.released) :
    idle.members.Perm
      (resumed.waiter :: members { idle with released := idle.released.erase resumed }) := by
  unfold members
  have erased := (List.perm_cons_erase held).map (·.waiter)
  exact (erased.append_left _).trans List.perm_middle

/-- A released cothread goes back to waiting, or leaves. -/
theorem members_threadIoResume {idle : IdleWait} {resumed : Released}
    (held : resumed ∈ idle.released) :
    (if resumed.waiter.generation = idle.ioWakeGeneration then
        (idle.threadIoResume resumed).members
      else resumed.waiter :: (idle.threadIoResume resumed).members).Perm idle.members := by
  have inside := members_released held
  unfold threadIoResume
  dsimp only
  split_ifs
  · exact (members_semaphoreWait _ _).trans inside.symm
  · exact ((members_semaphoreSignal _ _).cons _).trans inside.symm
  · exact inside.symm

@[simp] theorem semaphoreSignal_generation (idle : IdleWait) (chain : Nat) :
    (idle.semaphoreSignal chain).ioWakeGeneration = idle.ioWakeGeneration := rfl

@[simp] theorem semaphoreSignal_ready (idle : IdleWait) (chain : Nat) :
    (idle.semaphoreSignal chain).ready = idle.ready := rfl

@[simp] theorem semaphoreWait_generation (idle : IdleWait) (waiter : Waiter) :
    (idle.semaphoreWait waiter).ioWakeGeneration = idle.ioWakeGeneration := rfl

@[simp] theorem semaphoreWait_ready (idle : IdleWait) (waiter : Waiter) :
    (idle.semaphoreWait waiter).ready = idle.ready := rfl

theorem threadIoResume_generation (idle : IdleWait) (resumed : Released) :
    (idle.threadIoResume resumed).ioWakeGeneration = idle.ioWakeGeneration := by
  unfold threadIoResume
  dsimp only
  split_ifs <;> rfl

theorem threadIoResume_ready (idle : IdleWait) (resumed : Released) :
    (idle.threadIoResume resumed).ready = idle.ready := by
  unfold threadIoResume
  dsimp only
  split_ifs <;> rfl

theorem threadIoWake_ready (idle : IdleWait) : idle.threadIoWake.ready = idle.ready := by
  unfold threadIoWake
  split_ifs <;> rfl

theorem threadIoWake_wakes (idle : IdleWait) : idle.wakes ≤ idle.threadIoWake.wakes := by
  unfold threadIoWake
  split_ifs
  · rw [semaphoreSignal_wakes]
    exact Nat.le_succ _
  · exact Nat.le_refl _

/-- Each cothread of the running scheduler is in the wait once, at a generation not ahead. -/
structure Seated (handles : Nat) (idle : IdleWait) : Prop where
  awaited : idle.Awaited
  once : (idle.members.map (·.handle)).Nodup
  captured : ∀ waiter ∈ idle.members, waiter.generation ≤ idle.ioWakeGeneration
  up : ∀ waiter ∈ idle.members,
    idle.ready = true ∧ waiter.handle ≠ 0 ∧ waiter.handle < handles

variable {handles : Nat} {idle : IdleWait}

theorem Seated.fresh : Seated handles {} where
  awaited := .fresh
  once := .nil
  captured := nofun
  up := nofun

theorem Seated.publish (ok : Seated handles idle) : Seated handles { idle with ready := true } where
  awaited := ⟨⟨ok.awaited.semaphore, ok.awaited.generation, ok.awaited.captured,
    ok.awaited.ordered⟩, ok.awaited.passedOn⟩
  once := ok.once
  captured := ok.captured
  up := fun waiter inside => ⟨rfl, (ok.up waiter inside).2⟩

theorem threadIoWait_of_scheduled {handle : Nat} (ready : idle.ready = true) (root : handle ≠ 0)
    (low : handle < handles) :
    idle.threadIoWait handles handle = idle.semaphoreWait ⟨handle, idle.ioWakeGeneration⟩ := by
  simp [threadIoWait, ready, root, low]

theorem Seated.semaphoreWait (ok : Seated handles idle) {handle : Nat}
    (ready : idle.ready = true) (root : handle ≠ 0) (low : handle < handles)
    (outside : ∀ waiter ∈ idle.members, waiter.handle ≠ handle) :
    Seated handles (idle.semaphoreWait ⟨handle, idle.ioWakeGeneration⟩) := by
  have joined := members_semaphoreWait idle ⟨handle, idle.ioWakeGeneration⟩
  refine ⟨ok.awaited.semaphoreWait rfl, ?_, fun waiter inside => ?_, fun waiter inside => ?_⟩
  · rw [(joined.map (·.handle)).nodup_iff, List.map_cons, List.nodup_cons]
    refine ⟨fun inside => ?_, ok.once⟩
    obtain ⟨waiter, held, same⟩ := List.mem_map.mp inside
    exact outside waiter held same
  · rcases List.mem_cons.mp (joined.mem_iff.mp inside) with rfl | inside
    · exact UInt64.le_refl _
    · exact ok.captured waiter inside
  · rcases List.mem_cons.mp (joined.mem_iff.mp inside) with rfl | inside
    · exact ⟨ready, root, low⟩
    · exact ok.up waiter inside

theorem Seated.threadIoResume (ok : Seated handles idle) {resumed : Released}
    (held : resumed ∈ idle.released) : Seated handles (idle.threadIoResume resumed) := by
  have moved := members_threadIoResume held
  have inside {waiter : Waiter} (left : waiter ∈ (idle.threadIoResume resumed).members) :
      waiter ∈ idle.members := by
    refine moved.mem_iff.mp ?_
    split_ifs
    · exact left
    · exact List.mem_cons_of_mem _ left
  refine ⟨ok.awaited.threadIoResume resumed, ?_, fun waiter left => ?_, fun waiter left => ?_⟩
  · have once := ((moved.map (·.handle)).nodup_iff).mpr ok.once
    split_ifs at once
    · exact once
    · exact (List.nodup_cons.mp once).2
  · rw [threadIoResume_generation]
    exact ok.captured waiter (inside left)
  · rw [threadIoResume_ready]
    exact ok.up waiter (inside left)

/-- A wake leaves every member behind. -/
theorem Seated.threadIoWake_stale (ok : Seated handles idle)
    (bounded : idle.threadIoWake.wakes < 2 ^ 64) {waiter : Waiter}
    (inside : waiter ∈ idle.threadIoWake.members) :
    waiter.generation.toNat < idle.threadIoWake.ioWakeGeneration.toNat := by
  have held := (members_threadIoWake idle).mem_iff.mp inside
  have ready := (ok.up waiter held).1
  have captured := UInt64.le_iff_toNat_le.mp (ok.captured waiter held)
  simp only [threadIoWake, ready, if_true, semaphoreSignal_wakes] at bounded ⊢
  rw [semaphoreSignal_generation, UInt64.toNat_add, ok.awaited.generation, UInt64.toNat_one,
    Nat.mod_eq_of_lt bounded]
  rw [ok.awaited.generation] at captured
  omega

theorem Seated.threadIoWake (ok : Seated handles idle)
    (bounded : idle.threadIoWake.wakes < 2 ^ 64) : Seated handles idle.threadIoWake := by
  have same := members_threadIoWake idle
  refine ⟨ok.awaited.threadIoWake bounded, ?_, fun waiter inside => ?_, fun waiter inside => ?_⟩
  · rw [(same.map (·.handle)).nodup_iff]
    exact ok.once
  · rw [UInt64.le_iff_toNat_le]
    exact Nat.le_of_lt (ok.threadIoWake_stale bounded inside)
  · rw [threadIoWake_ready]
    exact ok.up waiter (same.mem_iff.mp inside)

/-- With nothing released, nobody waits at an older generation. -/
theorem Seated.present_of_quiet (ok : Seated handles idle) (quiet : idle.released = [])
    {waiter : Waiter} (inside : waiter ∈ idle.members) :
    waiter.generation = idle.ioWakeGeneration := by
  simp only [members, quiet, List.map_nil, List.append_nil] at inside
  by_contra stale
  obtain ⟨resumed, held, -⟩ := ok.awaited.passedOn waiter inside stale
  rw [quiet] at held
  exact List.not_mem_nil held

/-! ### What is left to run -/

/-- The releases a wake still owes: a member behind it, its releases and its latch. -/
def effort (idle : IdleWait) : Nat :=
  4 * idle.members.countP (fun waiter => waiter.generation != idle.ioWakeGeneration) +
    idle.released.length + idle.ioWakeupSem.latched.toList.length

/-- A wait at the present generation owes nothing. -/
theorem effort_semaphoreWait (idle : IdleWait) {waiter : Waiter}
    (present : waiter.generation = idle.ioWakeGeneration) :
    (idle.semaphoreWait waiter).effort = idle.effort := by
  have joined := (members_semaphoreWait idle waiter).countP_eq
    fun waiter => waiter.generation != idle.ioWakeGeneration
  simp only [List.countP_cons, present, bne_self_eq_false, Bool.false_eq_true, if_false,
    Nat.add_zero] at joined
  simp only [effort, semaphoreWait_generation, joined]
  unfold semaphoreWait Support.Semaphore.wait
  cases idle.ioWakeupSem.latched with
  | none => simp
  | some chain => simp [Nat.add_assoc]

theorem effort_semaphoreSignal (idle : IdleWait) (chain : Nat) :
    (idle.semaphoreSignal chain).effort ≤ idle.effort + 1 := by
  have same := (members_semaphoreSignal idle chain).countP_eq
    fun waiter => waiter.generation != idle.ioWakeGeneration
  simp only [effort, semaphoreSignal_generation, same]
  cases waiters : idle.ioWakeupSem.waiters with
  | nil =>
      rw [semaphoreSignal_nil waiters]
      simp only [Option.toList, List.length_singleton]
      omega
  | cons head rest =>
      rw [semaphoreSignal_cons waiters]
      simp only [List.length_append, List.length_singleton]
      omega

/-- A release that runs owes one less, and four less when the cothread leaves. -/
theorem effort_threadIoResume {idle : IdleWait} {resumed : Released}
    (held : resumed ∈ idle.released) :
    (idle.threadIoResume resumed).effort +
      (if resumed.waiter.generation = idle.ioWakeGeneration then 1 else 4) ≤ idle.effort := by
  have erased := (members_released held).countP_eq
    fun waiter => waiter.generation != idle.ioWakeGeneration
  have shorter := List.length_erase_of_mem held
  have some_ := List.length_pos_of_mem held
  rw [List.countP_cons] at erased
  have before : effort { idle with released := idle.released.erase resumed } +
      (if resumed.waiter.generation = idle.ioWakeGeneration then 1 else 5) = idle.effort := by
    simp only [effort, erased, shorter, bne_iff_ne, ne_eq]
    split_ifs <;> omega
  unfold threadIoResume
  dsimp only
  by_cases present : resumed.waiter.generation = idle.ioWakeGeneration
  · rw [if_pos present] at before ⊢
    rw [if_pos present, ← before]
    have waits := effort_semaphoreWait
      { idle with
        released := idle.released.erase resumed
        wentBack := idle.wentBack ++ [resumed.chain] } present
    exact Nat.le_of_eq (congrArg (· + 1) waits)
  · rw [if_neg present] at before ⊢
    rw [if_neg present, ← before]
    split_ifs
    · have signalled := effort_semaphoreSignal
        { idle with released := idle.released.erase resumed } resumed.chain
      omega
    · omega

end Chrysopolis.Beam.IdleWait
