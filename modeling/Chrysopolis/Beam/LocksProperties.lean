import Chrysopolis.Beam.Locks
import Chrysopolis.Beam.SelfProperties
import Mathlib.Data.Fintype.Fin

/-! Who holds a mutex. The owner word speaks of a slot; it speaks of a thread as long as no
slot that an owner word names is given to a new thread. -/

set_option autoImplicit false

namespace Chrysopolis.Beam.Locks

open Pthread (Live pthreadSelf)

variable {mutexes : Nat}

/-! ## Histories -/

/-- The successful locks of a mutex by a thread, less its successful unlocks. -/
def held (place : Fin mutexes) (thread : Nat) : List (Event mutexes) → Int
  | [] => 0
  | .locked other token :: rest =>
      held place thread rest + if other = place ∧ token = thread then 1 else 0
  | .unlocked other token :: rest =>
      held place thread rest - if other = place ∧ token = thread then 1 else 0

/-- A lock finds no other thread to hold the mutex, and an unlock finds its own thread to. -/
def Lawful : List (Event mutexes) → Prop
  | [] => True
  | .locked place token :: rest =>
      (∀ other, other ≠ token → held place other rest ≤ 0) ∧ Lawful rest
  | .unlocked place token :: rest => 0 < held place token rest ∧ Lawful rest

/-- No thread is created in a slot that an owner word names. -/
def spares (state : State mutexes) : Action mutexes → Bool
  | .thread (.create call) =>
      match Pthread.pthreadCreate state.threads call, call.spawn with
      | some (_, .ok _), some handle =>
          (List.finRange mutexes).all fun place => (state.mutex place).owner ≠ handle + 1
      | _, _ => true
  | _ => true

def sparing : State mutexes → List (Nat × Action mutexes) → Bool
  | _, [] => true
  | state, (slot, action) :: rest =>
      spares state action &&
        match step state slot action with
        | none => true
        | some next => sparing next rest

theorem held_locked {place other : Fin mutexes} {thread token : Nat}
    {log : List (Event mutexes)} (apart : other ≠ place ∨ token ≠ thread) :
    held place thread (.locked other token :: log) = held place thread log := by
  rw [held, if_neg (not_and_or.mpr apart), Int.add_zero]

theorem held_locked_self {place : Fin mutexes} {thread : Nat} {log : List (Event mutexes)} :
    held place thread (.locked place thread :: log) = held place thread log + 1 := by
  rw [held, if_pos ⟨rfl, rfl⟩]

theorem held_unlocked {place other : Fin mutexes} {thread token : Nat}
    {log : List (Event mutexes)} (apart : other ≠ place ∨ token ≠ thread) :
    held place thread (.unlocked other token :: log) = held place thread log := by
  rw [held, if_neg (not_and_or.mpr apart), Int.sub_zero]

theorem held_unlocked_self {place : Fin mutexes} {thread : Nat} {log : List (Event mutexes)} :
    held place thread (.unlocked place thread :: log) = held place thread log - 1 := by
  rw [held, if_pos ⟨rfl, rfl⟩]

/-! ## One mutex -/

theorem mutexTryAcquire_cases (mutex : Mutex) (owner : Nat) :
    (∃ errno, mutexTryAcquire mutex owner = (mutex, some errno)) ∨
      owner ≠ 0 ∧ (mutex.owner = 0 ∧
          mutexTryAcquire mutex owner = ({ mutex with owner, depth := 1 }, none) ∨
        mutex.owner = owner ∧ mutex.type = .recursive ∧ mutex.depth ≠ intMax ∧
          mutexTryAcquire mutex owner = ({ mutex with depth := mutex.depth + 1 }, none)) := by
  unfold mutexTryAcquire
  split_ifs with unknown free own full
  · exact .inl ⟨_, rfl⟩
  · exact .inr ⟨unknown, .inl ⟨free, rfl⟩⟩
  · cases mutex.type <;> exact .inl ⟨_, rfl⟩
  · cases mutex.type with
    | recursive => exact .inr ⟨unknown, .inr ⟨own, rfl, full, rfl⟩⟩
    | errorcheck => exact .inl ⟨_, rfl⟩
    | normal => exact .inl ⟨_, rfl⟩
  · exact .inl ⟨_, rfl⟩

theorem mutexTrylock_fst (mutex : Mutex) (owner : Nat) :
    (mutexTrylock mutex owner).1 = (mutexTryAcquire mutex owner).1 := rfl

theorem mutexTrylock_snd (mutex : Mutex) (owner : Nat) :
    (mutexTrylock mutex owner).2 = none ↔ (mutexTryAcquire mutex owner).2 = none := by
  simp only [mutexTrylock]
  split_ifs with deadlock
  · simp [deadlock]
  · rfl

theorem mutexUnlock_cases (mutex : Mutex) (owner : Nat) :
    (∃ errno, mutexUnlock mutex owner = (mutex, some errno)) ∨
      owner ≠ 0 ∧ mutex.owner = owner ∧ (1 < mutex.depth ∧
          mutexUnlock mutex owner = ({ mutex with depth := mutex.depth - 1 }, none) ∨
        mutex.depth = 1 ∧
          mutexUnlock mutex owner = ({ mutex with depth := 0, owner := 0 }, none)) := by
  unfold mutexUnlock
  split_ifs with stranger empty deep
  · exact .inl ⟨_, rfl⟩
  · exact .inl ⟨_, rfl⟩
  · obtain ⟨known, own⟩ := not_or.mp stranger
    exact .inr ⟨known, not_not.mp own, .inl ⟨deep, rfl⟩⟩
  · obtain ⟨known, own⟩ := not_or.mp stranger
    exact .inr ⟨known, not_not.mp own, .inr ⟨by omega, rfl⟩⟩

/-- Nobody holds the mutex. -/
structure Free (log : List (Event mutexes)) (place : Fin mutexes) (mutex : Mutex) : Prop where
  owner : mutex.owner = 0
  depth : mutex.depth = 0
  held : ∀ thread, held place thread log = 0

/-- A thread holds the mutex: the thread of the slot in the owner word, if that slot is still
live. -/
structure Owned (threads : Pthread.State) (log : List (Event mutexes)) (place : Fin mutexes)
    (mutex : Mutex) (handle thread : Nat) : Prop where
  owner : mutex.owner = handle + 1
  depth : 0 < mutex.depth
  held : held place thread log = mutex.depth
  alone : ∀ other, other ≠ thread → Locks.held place other log = 0
  runs : Live threads handle → pthreadSelf threads handle = some thread

def Sound (threads : Pthread.State) (log : List (Event mutexes)) (place : Fin mutexes)
    (mutex : Mutex) : Prop :=
  Free log place mutex ∨ ∃ handle thread, Owned threads log place mutex handle thread

variable {threads : Pthread.State} {log : List (Event mutexes)} {place : Fin mutexes}
  {mutex : Mutex} {slot thread : Nat}

/-- A call on another mutex is no matter. -/
theorem Sound.congr {more : List (Event mutexes)} (sound : Sound threads log place mutex)
    (same : ∀ thread, held place thread more = held place thread log) :
    Sound threads more place mutex :=
  sound.imp
    (fun free => ⟨free.owner, free.depth, fun thread => (same thread).trans (free.held thread)⟩)
    fun ⟨handle, thread, owned⟩ => ⟨handle, thread, owned.owner, owned.depth,
      (same thread).trans owned.held, fun other apart => (same other).trans
        (owned.alone other apart), owned.runs⟩

/-- A successful lock by the thread of a live slot. -/
theorem Sound.locked (sound : Sound threads log place mutex) (live : Live threads slot)
    (self : pthreadSelf threads slot = some thread) {after : Mutex}
    (taken : mutexTryAcquire mutex (slot + 1) = (after, none)) :
    Sound threads (.locked place thread :: log) place after ∧
      ∀ other, other ≠ thread → held place other log ≤ 0 := by
  obtain ⟨errno, fails⟩ | ⟨-, ⟨free, takes⟩ | ⟨own, -, -, takes⟩⟩ :=
    mutexTryAcquire_cases mutex (slot + 1)
  · cases fails.symm.trans taken
  · cases takes.symm.trans taken
    obtain free | ⟨handle, holder, owned⟩ := sound
    · refine ⟨.inr ⟨slot, thread, rfl, Nat.one_pos, ?_, fun other apart => ?_, fun _ => self⟩,
        fun other _ => Int.le_of_eq (free.held other)⟩
      · rw [held_locked_self, free.held]
        rfl
      · rw [held_locked (.inr (Ne.symm apart)), free.held]
    · rw [owned.owner] at free
      cases free
  · cases takes.symm.trans taken
    obtain free | ⟨handle, holder, owned⟩ := sound
    · rw [free.owner] at own
      cases own
    · obtain rfl : handle = slot := Nat.succ.inj (owned.owner.symm.trans own)
      obtain rfl : holder = thread := Option.some.inj ((owned.runs live).symm.trans self)
      refine ⟨.inr ⟨handle, holder, owned.owner, Nat.succ_pos _, ?_, fun other apart => ?_,
        owned.runs⟩, fun other apart => Int.le_of_eq (owned.alone other apart)⟩
      · rw [held_locked_self, owned.held]
        rfl
      · rw [held_locked (.inr (Ne.symm apart)), owned.alone other apart]

/-- A successful unlock by the thread of a live slot. -/
theorem Sound.unlocked (sound : Sound threads log place mutex) (live : Live threads slot)
    (self : pthreadSelf threads slot = some thread) {after : Mutex}
    (left : mutexUnlock mutex (slot + 1) = (after, none)) :
    Sound threads (.unlocked place thread :: log) place after ∧ 0 < held place thread log := by
  obtain ⟨errno, fails⟩ | ⟨-, own, leaves⟩ := mutexUnlock_cases mutex (slot + 1)
  · cases fails.symm.trans left
  obtain free | ⟨handle, holder, owned⟩ := sound
  · rw [free.owner] at own
    cases own
  obtain rfl : handle = slot := Nat.succ.inj (owned.owner.symm.trans own)
  obtain rfl : holder = thread := Option.some.inj ((owned.runs live).symm.trans self)
  have holds : 0 < held place holder log := by
    rw [owned.held]
    exact Int.natCast_pos.mpr owned.depth
  refine ⟨?_, holds⟩
  have others (other : Nat) (apart : other ≠ holder) :
      held place other (.unlocked place holder :: log) = 0 := by
    rw [held_unlocked (.inr (Ne.symm apart)), owned.alone other apart]
  obtain ⟨deep, leaves⟩ | ⟨last, leaves⟩ := leaves
  · cases leaves.symm.trans left
    refine .inr ⟨handle, holder, owned.owner, Nat.sub_pos_of_lt deep, ?_, others, owned.runs⟩
    rw [held_unlocked_self, owned.held]
    dsimp only
    omega
  · cases leaves.symm.trans left
    refine .inl ⟨rfl, rfl, fun other => ?_⟩
    by_cases same : other = holder
    · rw [same, held_unlocked_self, owned.held, last]
      rfl
    · exact others other same

/-! ## Runs -/

/-- The words of every mutex speak of the threads that hold it. -/
structure Inv (state : State mutexes) : Prop where
  threads : Pthread.Inv state.threads
  swept : Pthread.Swept state.threads
  cold : Pthread.Cold state.threads
  mutex : ∀ place, Sound state.threads state.log place (state.mutex place)
  lawful : Lawful state.log

variable {state next : State mutexes}

theorem Inv.boot (types : Fin mutexes → MutexType) : Inv (boot types) where
  threads := Pthread.Inv.boot
  swept := nofun
  cold := by
    rintro - slot ⟨control, here, -⟩
    by_contra apart
    rw [Locks.boot, Pthread.boot] at here
    dsimp only at here
    rw [if_neg apart] at here
    cases here
  mutex := fun _ => .inl ⟨rfl, rfl, fun _ => rfl⟩
  lawful := trivial

theorem Inv.self (inv : Inv state) (slot : Nat) :
    pthreadSelf state.threads slot = some (token state slot) := by
  cases self : pthreadSelf state.threads slot with
  | none => exact absurd self (inv.threads.pthreadSelf slot)
  | some thread => rw [token, self, Option.getD_some]

/-- The owner word of a live slot, if its handle is a valid one. -/
theorem Inv.currentOwner (inv : Inv state) (live : Live state.threads slot) :
    currentOwner state slot = 0 ∨ currentOwner state slot = slot + 1 := by
  have here : Pthread.runtimeCoCurrent state.threads slot = slot := by
    unfold Pthread.runtimeCoCurrent
    split_ifs with ready
    · rfl
    · exact (inv.cold (Bool.eq_false_iff.mpr ready) slot live).symm
  unfold Locks.currentOwner
  rw [here]
  dsimp only
  split_ifs
  · exact .inr rfl
  · exact .inl rfl

theorem live_of_running (runs : running state slot = true) : Live state.threads slot := by
  unfold running at runs
  split at runs
  · rename_i here
    exact ⟨_, here, nofun⟩
  · cases runs

theorem live_of_inUser (user : inUser state slot = true) : Live state.threads slot :=
  live_of_running (Bool.and_eq_true_iff.mp user).1

/-- A call that settles one mutex and records what it did. -/
theorem Inv.settle (inv : Inv state) {called : Mutex × Option Errno} {event : Event mutexes}
    (place : Fin mutexes)
    (fails : called.2 ≠ none → called.1 = state.mutex place)
    (done : called.2 = none →
      Sound state.threads (event :: state.log) place called.1 ∧ Lawful (event :: state.log) ∧
        ∀ other, other ≠ place → ∀ thread,
          held other thread (event :: state.log) = held other thread state.log) :
    Inv (settle state place called event) := by
  obtain ⟨after, result⟩ := called
  cases result with
  | some errno =>
      have same : Function.update state.mutex place after = state.mutex := by
        rw [show after = state.mutex place from fails nofun, Function.update_eq_self]
      refine
        { inv with
          mutex := fun other => ?_
          lawful := inv.lawful }
      change Sound state.threads state.log other (Function.update state.mutex place after other)
      rw [same]
      exact inv.mutex other
  | none =>
      obtain ⟨sound, lawful, others⟩ := done rfl
      refine
        { inv with
          mutex := fun other => ?_
          lawful }
      change Sound state.threads (event :: state.log) other
        (Function.update state.mutex place after other)
      by_cases same : other = place
      · subst same
        rw [Function.update_self]
        exact sound
      · rw [Function.update_of_ne same]
        exact (inv.mutex other).congr (others other same)

/-- A lock that has not yielded. -/
theorem Inv.acquire (inv : Inv state) (live : Live state.threads slot) (place : Fin mutexes)
    {called : Mutex × Option Errno}
    (after : called.1 = (mutexTryAcquire (state.mutex place) (Locks.currentOwner state slot)).1)
    (result : called.2 = none ↔
      (mutexTryAcquire (state.mutex place) (Locks.currentOwner state slot)).2 = none) :
    Inv (Locks.settle state place called (.locked place (token state slot))) := by
  refine inv.settle place (fun fails => ?_) fun done => ?_
  · obtain ⟨errno, same⟩ | ⟨-, ⟨-, taken⟩ | ⟨-, -, -, taken⟩⟩ :=
      mutexTryAcquire_cases (state.mutex place) (Locks.currentOwner state slot)
    · rw [after, same]
    · exact absurd (result.mpr (congrArg Prod.snd taken)) fails
    · exact absurd (result.mpr (congrArg Prod.snd taken)) fails
  · obtain unknown | own := inv.currentOwner live
    · rw [unknown] at result
      cases result.mp done
    · rw [own] at after result
      obtain ⟨sound, alone⟩ := (inv.mutex place).locked live (inv.self slot)
        (Prod.ext after.symm (result.mp done))
      exact ⟨sound, ⟨alone, inv.lawful⟩, fun other apart thread =>
        held_locked (.inl (Ne.symm apart))⟩

theorem Inv.release (inv : Inv state) (live : Live state.threads slot) (place : Fin mutexes) :
    Inv (Locks.settle state place
      (mutexUnlock (state.mutex place) (Locks.currentOwner state slot))
      (.unlocked place (token state slot))) := by
  refine inv.settle place (fun fails => ?_) fun done => ?_
  · obtain ⟨errno, same⟩ | ⟨-, -, ⟨-, left⟩ | ⟨-, left⟩⟩ :=
      mutexUnlock_cases (state.mutex place) (Locks.currentOwner state slot)
    · rw [same]
    · exact absurd (congrArg Prod.snd left) fails
    · exact absurd (congrArg Prod.snd left) fails
  · obtain unknown | own := inv.currentOwner live
    · rw [unknown] at done
      cases done
    · rw [own] at done ⊢
      obtain ⟨sound, holds⟩ := (inv.mutex place).unlocked live (inv.self slot)
        (Prod.ext rfl done)
      exact ⟨sound, ⟨holds, inv.lawful⟩, fun other apart thread =>
        held_unlocked (.inl (Ne.symm apart))⟩

theorem Inv.lockPass (inv : Inv state) (live : Live state.threads slot) (place : Fin mutexes) :
    Inv (lockPass state slot place) :=
  { inv.acquire live place rfl Iff.rfl with }

/-- A step of the threads, where no owner word names the slot of a thread it creates. -/
theorem Inv.outside (inv : Inv state) {action : Pthread.Action} {threads : Pthread.State}
    (stepped : Pthread.step state.threads slot action = some threads)
    (spared : spares state (.thread action) = true) : Inv { state with threads } := by
  obtain ⟨kept, clean⟩ := inv.threads.step inv.swept stepped
  refine
    { inv with
      threads := kept
      swept := clean
      cold := inv.threads.step_cold inv.swept inv.cold stepped
      mutex := fun place => ?_ }
  refine (inv.mutex place).imp_right fun ⟨handle, thread, owned⟩ =>
    ⟨handle, thread, { owned with runs := fun live => ?_ }⟩
  obtain ⟨call, token, rfl, created, spawn⟩ | ⟨before, same⟩ :=
    inv.threads.step_self inv.swept inv.cold stepped live
  · simp only [spares, created, spawn, List.all_eq_true, List.mem_finRange, true_implies,
      decide_eq_true_eq] at spared
    exact absurd owned.owner (spared place)
  · rw [same]
    exact owned.runs before

theorem Inv.step (inv : Inv state) {action : Action mutexes}
    (stepped : step state slot action = some next) (spared : spares state action = true) :
    Inv next := by
  cases action with
  | thread action =>
      simp only [Locks.step, Option.ite_none_right_eq_some, Option.map_eq_some_iff] at stepped
      obtain ⟨-, threads, stepped, rfl⟩ := stepped
      exact inv.outside stepped spared
  | lock mutex =>
      cases mutex with
      | none =>
          simp only [Locks.step, Option.ite_none_right_eq_some, Option.some.injEq] at stepped
          exact stepped.2 ▸ inv
      | some place =>
          simp only [Locks.step, Option.ite_none_right_eq_some, Option.some.injEq] at stepped
          exact stepped.2 ▸ inv.lockPass (live_of_inUser stepped.1) place
  | trylock mutex =>
      cases mutex with
      | none =>
          simp only [Locks.step, Option.ite_none_right_eq_some, Option.some.injEq] at stepped
          exact stepped.2 ▸ inv
      | some place =>
          simp only [Locks.step, Option.ite_none_right_eq_some, Option.some.injEq] at stepped
          exact stepped.2 ▸ inv.acquire (live_of_inUser stepped.1) place
            (mutexTrylock_fst ..) (mutexTrylock_snd ..)
  | unlock mutex =>
      cases mutex with
      | none =>
          simp only [Locks.step, Option.ite_none_right_eq_some, Option.some.injEq] at stepped
          exact stepped.2 ▸ inv
      | some place =>
          simp only [Locks.step, Option.ite_none_right_eq_some, Option.some.injEq] at stepped
          exact stepped.2 ▸ inv.release (live_of_inUser stepped.1) place
  | retry =>
      simp only [Locks.step, Option.ite_none_right_eq_some, Option.map_eq_some_iff] at stepped
      obtain ⟨runs, place, -, rfl⟩ := stepped
      exact inv.lockPass (live_of_running runs) place

theorem Inv.run (inv : Inv state) {steps : List (Nat × Action mutexes)}
    (ran : run state steps = some next) (spared : sparing state steps = true) : Inv next := by
  induction steps generalizing state with
  | nil =>
      cases ran
      exact inv
  | cons first rest ih =>
      obtain ⟨slot, action⟩ := first
      simp only [Locks.run, Option.bind_eq_some_iff] at ran
      obtain ⟨middle, stepped, ran⟩ := ran
      simp only [sparing, stepped, Bool.and_eq_true] at spared
      exact ih (inv.step stepped spared.1) ran spared.2

/-- In a run that gives no slot away that an owner word names, locks exclude each other,
unlocks are their holder's, and the depth of a mutex counts its holder's locks. -/
theorem run_ownership {types : Fin mutexes → MutexType} {steps : List (Nat × Action mutexes)}
    (ran : run (boot types) steps = some state) (spared : sparing (boot types) steps = true) :
    Lawful state.log ∧ ∀ place,
      (∀ thread, 0 < held place thread state.log →
        held place thread state.log = (state.mutex place).depth) ∧
      ((∀ thread, held place thread state.log ≤ 0) → (state.mutex place).depth = 0) := by
  have inv := (Inv.boot types).run ran spared
  refine ⟨inv.lawful, fun place => ?_⟩
  obtain free | ⟨handle, holder, owned⟩ := inv.mutex place
  · refine ⟨fun thread holds => ?_, fun _ => free.depth⟩
    rw [free.held] at holds
    exact absurd holds (Int.lt_irrefl 0)
  · refine ⟨fun thread holds => ?_, fun none => ?_⟩
    · by_cases same : thread = holder
      · rw [same, owned.held]
      · rw [owned.alone thread same] at holds
        exact absurd holds (Int.lt_irrefl 0)
    · have some := none holder
      rw [owned.held] at some
      exact absurd (Int.natCast_pos.mpr owned.depth) (Int.not_lt.mpr some)

/-- The root waits for a thread that has locked a recursive mutex twice. -/
theorem run_ownership_contended :
    ∃ state : State 1, state.log = [.locked 0 1, .unlocked 0 33, .unlocked 0 33, .locked 0 33,
        .locked 0 33] ∧ Lawful state.log := by
  let steps : List (Nat × Action 1) :=
    [(0, .thread .threadInit),
      (0, .thread (.create { start := 5, arg := 9, malloc := some 100, spawn := some 1 })),
      (1, .thread .resume), (1, .lock (some 0)), (1, .trylock (some 0)), (0, .lock (some 0)),
      (1, .unlock (some 0)), (0, .retry), (1, .unlock (some 0)), (0, .retry)]
  have ends : (run (boot fun _ => .recursive) steps).map (·.log) =
      some [.locked 0 1, .unlocked 0 33, .unlocked 0 33, .locked 0 33, .locked 0 33] := by
    decide +kernel
  obtain ⟨state, ran, shown⟩ := Option.map_eq_some_iff.mp ends
  exact ⟨state, shown, (run_ownership ran (by decide +kernel)).1⟩

/-- A thread exits with a recursive mutex locked; the next thread of its slot locks and unlocks
the mutex as its own. -/
theorem recycled_slot_unlawful :
    ∃ state : State 1, ∃ steps, run (boot fun _ => .recursive) steps = some state ∧
      state.log = [.unlocked 0 34, .locked 0 34, .locked 0 33] ∧ ¬ Lawful state.log := by
  let steps : List (Nat × Action 1) :=
    [(0, .thread .threadInit),
      (0, .thread (.create { start := 5, arg := 9, malloc := some 100, spawn := some 1 })),
      (1, .thread .resume), (1, .lock (some 0)), (1, .thread (.leave 0))] ++
    List.replicate 66 (1, .thread .resume) ++
    [(0, .thread (.create { start := 5, arg := 9, malloc := some 200, spawn := some 1 })),
      (1, .thread .resume), (1, .trylock (some 0)), (1, .unlock (some 0))]
  have ends : (run (boot fun _ => .recursive) steps).map (·.log) =
      some [.unlocked 0 34, .locked 0 34, .locked 0 33] := by decide +kernel
  obtain ⟨state, ran, shown⟩ := Option.map_eq_some_iff.mp ends
  refine ⟨state, steps, ran, shown, fun lawful => ?_⟩
  rw [shown] at lawful
  exact absurd (lawful.2.1 33 (by decide)) (by decide)

end Chrysopolis.Beam.Locks
