import Chrysopolis.Beam.Cond
import Chrysopolis.Beam.DeadlineProperties
import Chrysopolis.Beam.LocksProperties

/-! Condition waits end with their mutex as it was, and park only before a signal; a once
control's routine runs once, before any call returns. -/

set_option autoImplicit false

namespace Chrysopolis.Beam.Cond

open Locks (Mutex MutexType Errno mutexTryAcquire mutexTrylock mutexUnlock mutexTryAcquire_cases
  mutexUnlock_cases)

variable {mutexes conds controls : Nat}

/-! ## What the events are to say -/

/-- No wait parks after a signal. A wait returns with its mutex as the call found it, its
caller's; with `ETIMEDOUT` no earlier than its clock reaches the deadline, and with zero, if it
has a deadline, no earlier than a signal. A `pthread_once` returns zero, after the one run. -/
def Event.Lawful (raw : Nat) : Event mutexes conds controls → Prop
  | .parked _ wait signals => signals = wait.begun
  | .returned thread wait result after signals nowNs =>
      after.owner = thread + 1 ∧ after = wait.before ∧
        (∀ abstime ∈ wait.abstime, (result = some .ETIMEDOUT →
            (Timed.condTimedwait abstime).Due raw 0 nowNs) ∧
          (result = none → wait.begun < signals))
  | .onced _ _ result completed => result = none ∧ completed = 1

/-- Fewer than `2 ^ 32` signals have come since the last check of a wait that checks now. -/
def spaced (state : State mutexes conds controls) (thread : Nat) :
    Action mutexes conds controls → Bool
  | .resume _ =>
      match state.call thread with
      | .checking wait _ => state.signals wait.cond - wait.checked < 2 ^ 32
      | _ => true
  | _ => true

def spacing (raw : Nat) :
    State mutexes conds controls → List (Nat × Action mutexes conds controls) → Bool
  | _, [] => true
  | state, (thread, action) :: rest =>
      spaced state thread action &&
        match step raw state thread action with
        | none => true
        | some next => spacing raw next rest

/-! ## Mutexes under a wait -/

/-- Only a recursive mutex is locked more than once. -/
structure Sound (mutex : Mutex) : Prop where
  recursive : 1 < mutex.depth → mutex.type = .recursive
  bounded : mutex.depth ≤ Locks.intMax

/-- What the calls of one thread can make of a mutex. -/
structure Touched (thread : Nat) (mutex after : Mutex) : Prop where
  type : after.type = mutex.type
  others : mutex.owner ≠ 0 → mutex.owner ≠ thread + 1 → after = mutex
  owner : after = mutex ∨ after.owner = 0 ∨ after.owner = thread + 1
  sound : Sound mutex → Sound after

theorem Touched.refl (thread : Nat) (mutex : Mutex) : Touched thread mutex mutex :=
  ⟨rfl, fun _ _ => rfl, .inl rfl, id⟩

theorem Touched.acquire (thread : Nat) (mutex : Mutex) :
    Touched thread mutex (mutexTryAcquire mutex (thread + 1)).1 := by
  obtain ⟨errno, fails⟩ | ⟨-, ⟨free, taken⟩ | ⟨own, recursive, full, taken⟩⟩ :=
    mutexTryAcquire_cases mutex (thread + 1)
  · rw [fails]
    exact .refl thread mutex
  · rw [taken]
    exact ⟨rfl, fun some _ => absurd free some, .inr (.inr rfl),
      fun _ => ⟨fun more => absurd more (Nat.lt_irrefl 1), show 1 ≤ Locks.intMax by decide⟩⟩
  · rw [taken]
    exact ⟨rfl, fun _ other => absurd own other, .inr (.inr own),
      fun sound => ⟨fun _ => recursive, Nat.lt_of_le_of_ne sound.bounded full⟩⟩

theorem Touched.release (thread : Nat) (mutex : Mutex) :
    Touched thread mutex (mutexUnlock mutex (thread + 1)).1 := by
  obtain ⟨errno, fails⟩ | ⟨-, own, ⟨deep, left⟩ | ⟨last, left⟩⟩ :=
    mutexUnlock_cases mutex (thread + 1)
  · rw [fails]
    exact .refl thread mutex
  · rw [left]
    exact ⟨rfl, fun _ other => absurd own other, .inr (.inr own), fun sound =>
      ⟨fun _ => sound.recursive deep, (Nat.sub_le ..).trans sound.bounded⟩⟩
  · rw [left]
    exact ⟨rfl, fun _ other => absurd own other, .inr (.inl rfl),
      fun _ => ⟨fun more => absurd more (Nat.not_lt_zero 1), Nat.zero_le _⟩⟩

/-- A mutex that a wait of its owner has unlocked once. -/
structure Released (thread : Nat) (before mutex : Mutex) : Prop where
  owner : before.owner = thread + 1
  depth : 0 < before.depth
  sound : Sound before
  type : mutex.type = before.type
  left : 1 < before.depth → mutex.owner = thread + 1 ∧ mutex.depth = before.depth - 1
  free : before.depth = 1 → mutex.owner ≠ thread + 1

variable {thread other : Nat} {before mutex after : Mutex}

theorem Released.of_unlock (sound : Sound mutex)
    (unlocked : (mutexUnlock mutex (thread + 1)).2 = none) :
    Released thread mutex (mutexUnlock mutex (thread + 1)).1 := by
  obtain ⟨errno, fails⟩ | ⟨-, own, ⟨deep, left⟩ | ⟨last, left⟩⟩ :=
    mutexUnlock_cases mutex (thread + 1)
  · rw [fails] at unlocked
    cases unlocked
  · rw [left]
    exact ⟨own, Nat.zero_lt_of_lt deep, sound, rfl, fun _ => ⟨own, rfl⟩, fun one => by omega⟩
  · rw [left]
    exact ⟨own, by omega, sound, rfl, fun more => by omega, fun _ => (Nat.succ_ne_zero _).symm⟩

/-- Another thread leaves it released. -/
theorem Released.touched (released : Released thread before mutex) (apart : other ≠ thread)
    (touched : Touched other mutex after) : Released thread before after := by
  refine { released with type := touched.type.trans released.type, left := ?_, free := ?_ }
  · intro deep
    obtain ⟨own, depth⟩ := released.left deep
    rw [touched.others (by omega) (by omega)]
    exact ⟨own, depth⟩
  · intro one own
    obtain same | free | taken := touched.owner
    · exact released.free one (same ▸ own)
    · omega
    · omega

/-- The lock that ends the wait restores it, or finds it busy. -/
theorem Released.relock (released : Released thread before mutex) :
    mutexTryAcquire mutex (thread + 1) = (before, none) ∨
      mutexTryAcquire mutex (thread + 1) = (mutex, some .EBUSY) := by
  have bounded := released.sound.bounded
  obtain ⟨owner, depth, type⟩ := before
  obtain ⟨word, count, kind⟩ := mutex
  obtain rfl : kind = type := released.type
  obtain rfl : owner = thread + 1 := released.owner
  unfold mutexTryAcquire
  rw [if_neg (Nat.succ_ne_zero thread)]
  by_cases deep : 1 < depth
  · obtain ⟨rfl, rfl⟩ := released.left deep
    obtain rfl : kind = .recursive := released.sound.recursive deep
    dsimp only at bounded ⊢
    rw [if_neg (Nat.succ_ne_zero thread), if_pos rfl, if_neg (by omega)]
    left
    rw [Nat.sub_add_cancel (Nat.le_of_lt deep)]
  · have one : depth = 1 := Nat.le_antisymm (Nat.not_lt.mp deep) released.depth
    subst one
    have apart : word ≠ thread + 1 := released.free rfl
    dsimp only
    split_ifs
    · exact .inl rfl
    · exact .inr rfl

/-! ## The invariant -/

theorem condAdvance_eq (old : BitVec 32) : condAdvance old = old + 1 := by
  unfold condAdvance
  split
  · rename_i top
    rw [top]
    decide
  · rfl

theorem ofNat_eq_iff {signals begun : Nat} (order : begun ≤ signals)
    (near : signals - begun < 2 ^ 32) :
    BitVec.ofNat 32 signals = BitVec.ofNat 32 begun ↔ signals = begun := by
  refine ⟨fun same => ?_, congrArg _⟩
  have value := congrArg BitVec.toNat same
  simp only [BitVec.toNat_ofNat] at value
  omega

/-- A wait between its unlock and its relock. -/
structure Waiting (state : State mutexes conds controls) (thread : Nat)
    (wait : Wait mutexes conds) : Prop where
  released : Released thread wait.before (state.mutex wait.mutex)
  generation : wait.generation = BitVec.ofNat 32 wait.begun
  order : wait.begun ≤ state.signals wait.cond
  valid : ∀ abstime ∈ wait.abstime, (Timed.condTimedwait abstime).valid = true

/-- What a wait is to return. -/
structure Relocking (raw : Nat) (state : State mutexes conds controls) (thread : Nat)
    (wait : Wait mutexes conds) (result : Option Errno) : Prop where
  released : Released thread wait.before (state.mutex wait.mutex)
  answer : ∀ abstime ∈ wait.abstime, (result = some .ETIMEDOUT →
      (Timed.condTimedwait abstime).Due raw 0 state.nowNs) ∧
    (result = none → wait.begun < state.signals wait.cond)

def Call.Holds (raw : Nat) (state : State mutexes conds controls) (thread : Nat) :
    Call mutexes conds controls → Prop
  | .idle wait _ _ | .checking wait _ => Waiting state thread wait ∧ wait.checked = wait.begun
  | .relocking wait result => Relocking raw state thread wait result
  | _ => True

/-- The runs of a once control that its word speaks of. -/
def Ran (word : Int) (began completed : Nat) : Prop :=
  word = 0 ∧ began = 0 ∧ completed = 0 ∨ word = 1 ∧ began = 1 ∧ completed = 0 ∨
    word = 2 ∧ began = 1 ∧ completed = 1

structure Onces (state : State mutexes conds controls) : Prop where
  ran : ∀ control, Ran (state.control control) (state.began control) (state.completed control)
  running : ∀ thread, ∀ control ∈ state.inside thread, state.control control = 1
  nodup : ∀ thread, (state.inside thread).Nodup
  alone : ∀ first second control, control ∈ state.inside first →
    control ∈ state.inside second → first = second

/-- A step that leaves the once controls and their routines leaves them in order. -/
theorem Onces.of_eq {state next : State mutexes conds controls} (onces : Onces state)
    (control : next.control = state.control) (inside : next.inside = state.inside)
    (began : next.began = state.began) (completed : next.completed = state.completed) :
    Onces next where
  ran := by rw [control, began, completed]; exact onces.ran
  running := by rw [control, inside]; exact onces.running
  nodup := by rw [inside]; exact onces.nodup
  alone := by rw [inside]; exact onces.alone

/-- What holds but for the call of one thread. -/
structure Rest (raw thread : Nat) (state : State mutexes conds controls) : Prop where
  mutexes : ∀ place, Sound (state.mutex place)
  counted : ∀ cond, state.generation cond = BitVec.ofNat 32 (state.signals cond)
  others : ∀ other, other ≠ thread → (state.call other).Holds raw state other
  onces : Onces state
  lawful : ∀ event ∈ state.log, event.Lawful raw

structure Inv (raw : Nat) (state : State mutexes conds controls) : Prop where
  rest : ∀ thread, Rest raw thread state
  calls : ∀ thread, (state.call thread).Holds raw state thread

variable {raw : Nat} {state next : State mutexes conds controls} {wait : Wait mutexes conds}

theorem Rest.inv (rest : Rest raw thread state)
    (own : (state.call thread).Holds raw state thread) : Inv raw state := by
  have calls (other : Nat) : (state.call other).Holds raw state other := by
    by_cases same : other = thread
    · exact same ▸ own
    · exact rest.others other same
  exact ⟨fun _ => { rest with others := fun other _ => calls other }, calls⟩

theorem Inv.boot (types : Fin mutexes → MutexType) :
    Inv raw (boot types : State mutexes conds controls) := by
  have rest : Rest raw 0 (Cond.boot types : State mutexes conds controls) :=
    { mutexes := fun _ => ⟨nofun, Nat.zero_le _⟩
      counted := fun _ => rfl
      others := fun _ _ => trivial
      onces := ⟨fun _ => .inl ⟨rfl, rfl, rfl⟩, nofun, fun _ => List.nodup_nil, nofun⟩
      lawful := fun _ member => absurd member List.not_mem_nil }
  exact rest.inv trivial

/-! ## What a thread's step leaves of the others -/

/-- A step of one thread. -/
structure Moves (thread : Nat) (state next : State mutexes conds controls) : Prop where
  call : ∀ other, other ≠ thread → next.call other = state.call other
  mutex : ∀ place, Touched thread (state.mutex place) (next.mutex place)
  signals : ∀ cond, state.signals cond ≤ next.signals cond
  nowNs : state.nowNs ≤ next.nowNs

theorem Timed.due_mono {abstime : Timespec} {early late : Nat} (order : early ≤ late)
    (due : (Timed.condTimedwait abstime).Due raw 0 early) :
    (Timed.condTimedwait abstime).Due raw 0 late := by
  simp only [Timed.Due, Timed.timeline] at due ⊢
  split_ifs at due ⊢ <;> dsimp only at due ⊢ <;> omega

/-- The loop's own test of the clock. -/
theorem Timed.due_of_expired {abstime : Timespec} {nowNs : Nat}
    (valid : (Timed.condTimedwait abstime).valid = true)
    (expired : (Timed.condTimedwait abstime).expired raw 0 nowNs = true) :
    (Timed.condTimedwait abstime).Due raw 0 nowNs := by
  have reached := (clockGettime_reached valid).mp expired
  simp only [Timed.Due, Timed.timeline, Timed.exactNs]
  split_ifs at reached ⊢ <;> exact reached

theorem Moves.holds (moves : Moves thread state next) (apart : other ≠ thread)
    {call : Call mutexes conds controls} (holds : call.Holds raw state other) :
    call.Holds raw next other := by
  have waiting (wait : Wait mutexes conds) (waits : Waiting state other wait) :
      Waiting next other wait :=
    { waits with
      released := waits.released.touched (Ne.symm apart) (moves.mutex wait.mutex)
      order := waits.order.trans (moves.signals wait.cond) }
  cases call with
  | idle wait pulses ioWakes => exact ⟨waiting wait holds.1, holds.2⟩
  | checking wait pulses => exact ⟨waiting wait holds.1, holds.2⟩
  | relocking wait result =>
      refine ⟨holds.released.touched (Ne.symm apart) (moves.mutex wait.mutex),
        fun abstime timed => ⟨fun expired => ?_, fun zero => ?_⟩⟩
      · exact Timed.due_mono moves.nowNs ((holds.answer abstime timed).1 expired)
      · exact ((holds.answer abstime timed).2 zero).trans_le (moves.signals wait.cond)
  | user => trivial
  | locking place => trivial
  | onceIdle control ioWakes => trivial
  | onceChecking control => trivial

/-- The rest holds after a step that counts its signals, keeps the once controls in order and
logs lawful events. -/
theorem Rest.moves (rest : Rest raw thread state) (moves : Moves thread state next)
    (counted : ∀ cond, next.generation cond = BitVec.ofNat 32 (next.signals cond))
    (onces : Onces next) (lawful : ∀ event ∈ next.log, event.Lawful raw) :
    Rest raw thread next where
  mutexes := fun place => (moves.mutex place).sound (rest.mutexes place)
  counted := counted
  others := fun other apart => by
    rw [moves.call other apart]
    exact moves.holds apart (rest.others other apart)
  onces := onces
  lawful := lawful

theorem Moves.setMutex {place : Fin mutexes} (touched : Touched thread (state.mutex place) after) :
    Moves thread state (state.setMutex place after) where
  call := fun _ _ => rfl
  mutex := fun other => by
    change Touched thread (state.mutex other) (Function.update state.mutex place after other)
    by_cases same : other = place
    · rw [same, Function.update_self]
      exact touched
    · rw [Function.update_of_ne same]
      exact .refl thread _
  signals := fun _ => Nat.le_refl _
  nowNs := Nat.le_refl _

theorem Moves.setCall (call : Call mutexes conds controls) :
    Moves thread state (state.setCall thread call) where
  call := fun _ apart => Function.update_of_ne apart ..
  mutex := fun _ => .refl thread _
  signals := fun _ => Nat.le_refl _
  nowNs := Nat.le_refl _

theorem Moves.record (event : Event mutexes conds controls) :
    Moves thread state (state.record event) where
  call := fun _ _ => rfl
  mutex := fun _ => .refl thread _
  signals := fun _ => Nat.le_refl _
  nowNs := Nat.le_refl _

theorem Rest.setMutex (rest : Rest raw thread state) {place : Fin mutexes}
    (touched : Touched thread (state.mutex place) after) :
    Rest raw thread (state.setMutex place after) :=
  rest.moves (.setMutex touched) rest.counted
    (rest.onces.of_eq rfl rfl rfl rfl) rest.lawful

theorem Rest.setCall (rest : Rest raw thread state) (call : Call mutexes conds controls) :
    Rest raw thread (state.setCall thread call) :=
  rest.moves (.setCall call) rest.counted
    (rest.onces.of_eq rfl rfl rfl rfl) rest.lawful

theorem Rest.record (rest : Rest raw thread state) {event : Event mutexes conds controls}
    (lawful : event.Lawful raw) : Rest raw thread (state.record event) :=
  rest.moves (.record event) rest.counted
    (rest.onces.of_eq rfl rfl rfl rfl)
    (List.forall_mem_cons.mpr ⟨lawful, rest.lawful⟩)

@[simp] theorem setCall_call (call : Call mutexes conds controls) :
    (state.setCall thread call).call thread = call := Function.update_self ..

/-! ## Waits -/

theorem Rest.relock (rest : Rest raw thread state) {result : Option Errno}
    (relocking : Relocking raw state thread wait result) :
    Inv raw (relock state thread wait result) := by
  unfold Cond.relock currentOwner
  obtain restored | busy := relocking.released.relock
  · simp only [restored, reduceCtorEq, if_false, if_true]
    have touched := Touched.acquire thread (state.mutex wait.mutex)
    rw [restored] at touched
    refine Rest.inv ((rest.setMutex touched).setCall .user |>.record ?_) ?_
    · exact ⟨relocking.released.owner, rfl, relocking.answer⟩
    · change Call.Holds raw _ thread ((State.setCall _ thread .user).call thread)
      rw [setCall_call]
      trivial
  · have same : state.setMutex wait.mutex (state.mutex wait.mutex) = state := by
      rw [State.setMutex, Function.update_eq_self]
    simp only [busy, if_true, same]
    refine (rest.setCall (.relocking wait result)).inv ?_
    rw [setCall_call]
    exact ⟨relocking.released, relocking.answer⟩

/-- A wait parks only if no signal has come. -/
theorem Rest.park (rest : Rest raw thread state) (waiting : Waiting state thread wait)
    (silent : state.signals wait.cond = wait.begun) (pulses : Nat) :
    Inv raw (park state thread wait pulses) := by
  unfold Cond.park
  refine Rest.inv ((rest.setCall _).record silent) ?_
  change Call.Holds raw _ thread ((state.setCall thread _).call thread)
  rw [setCall_call]
  exact ⟨⟨waiting.released, waiting.generation, waiting.order, waiting.valid⟩, silent⟩

theorem Waiting.relocking (waiting : Waiting state thread wait) {result : Option Errno}
    (expired : result = some .ETIMEDOUT → ∀ abstime ∈ wait.abstime,
      (Timed.condTimedwait abstime).Due raw 0 state.nowNs)
    (signalled : result = none → ∀ abstime ∈ wait.abstime,
      wait.begun < state.signals wait.cond) :
    Relocking raw state thread wait result :=
  ⟨waiting.released, fun abstime timed =>
    ⟨fun late => expired late abstime timed, fun zero => signalled zero abstime timed⟩⟩

theorem Rest.check (rest : Rest raw thread state) (waiting : Waiting state thread wait)
    (near : state.signals wait.cond - wait.begun < 2 ^ 32) (pulses : Nat) (clock : Bool) :
    Inv raw (check raw state thread wait pulses clock) := by
  have same : state.generation wait.cond = wait.generation ↔
      state.signals wait.cond = wait.begun := by
    rw [rest.counted, waiting.generation]
    exact ofNat_eq_iff waiting.order near
  have later (differs : state.generation wait.cond ≠ wait.generation) :
      wait.begun < state.signals wait.cond :=
    Nat.lt_of_le_of_ne waiting.order fun equal => differs (same.mpr equal.symm)
  unfold Cond.check
  split
  · rename_i untimed
    split_ifs with parks
    · exact rest.park waiting (same.mp parks.2) pulses
    · refine rest.relock (waiting.relocking nofun fun _ abstime timed => ?_)
      rw [untimed] at timed
      cases timed
  · rename_i abstime timed
    split_ifs with differs unreadable expired
    · exact rest.relock (waiting.relocking nofun fun _ _ _ => later differs)
    · exact rest.relock (waiting.relocking nofun nofun)
    · refine rest.relock (waiting.relocking (fun _ other known => ?_) nofun)
      obtain rfl : abstime = other := Option.some.inj (timed.symm.trans known)
      exact Timed.due_of_expired (waiting.valid abstime timed) expired
    · have armed : Rest raw thread { state with
          armed := (Timed.condTimedwait abstime).deadline raw 0 :: state.armed } :=
        rest.moves ⟨fun _ _ => rfl, fun _ => .refl thread _, fun _ => Nat.le_refl _,
          Nat.le_refl _⟩ rest.counted
          (rest.onces.of_eq rfl rfl rfl rfl) rest.lawful
      exact armed.park
        ⟨waiting.released, waiting.generation, waiting.order, waiting.valid⟩
        (same.mp (not_not.mp differs)) pulses

/-- A wait from its call on. -/
theorem Inv.condWait (inv : Inv raw state) (cond : Fin conds) (mutex : Fin mutexes)
    (abstime : Option Timespec) (clock : Bool)
    (valid : ∀ deadline ∈ abstime, (Timed.condTimedwait deadline).valid = true) :
    Inv raw (Cond.wait raw state thread cond mutex abstime clock) := by
  unfold Cond.wait currentOwner
  dsimp only
  split_ifs with unlocked
  · have rest := inv.rest thread
    refine (rest.setMutex (.release thread _)).check ⟨?_, rest.counted cond, Nat.le_refl _, valid⟩
      ?_ 0 clock
    · change Released thread (state.mutex mutex) (Function.update state.mutex mutex _ mutex)
      rw [Function.update_self]
      exact .of_unlock (rest.mutexes mutex) unlocked
    · simp [State.setMutex]
  · exact inv

/-! ## Locks and signals -/

theorem Inv.lockPass (inv : Inv raw state) (place : Fin mutexes) :
    Inv raw (lockPass state thread place) := by
  unfold Cond.lockPass currentOwner
  refine (((inv.rest thread).setMutex (.acquire thread _)).setCall _).inv ?_
  rw [setCall_call]
  split <;> trivial

/-- A call of user code that has returned. -/
theorem Rest.user (rest : Rest raw thread state) (user : state.call thread = .user) :
    Inv raw state := by
  refine rest.inv ?_
  rw [user]
  trivial

theorem Rest.condSignal (rest : Rest raw thread state) (cond : Fin conds) :
    Rest raw thread (condSignal state cond) := by
  refine rest.moves ⟨fun _ _ => rfl, fun _ => .refl thread _, fun other => ?_, Nat.le_refl _⟩
    (fun other => ?_)
    (rest.onces.of_eq rfl rfl rfl rfl) rest.lawful
  · change state.signals other ≤ Function.update state.signals cond _ other
    by_cases same : other = cond
    · rw [same, Function.update_self]
      exact Nat.le_succ _
    · rw [Function.update_of_ne same]
  · change Function.update state.generation cond _ other =
      BitVec.ofNat 32 (Function.update state.signals cond _ other)
    by_cases same : other = cond
    · rw [same, Function.update_self, Function.update_self, condAdvance_eq, rest.counted]
      exact (BitVec.ofNat_add ..).symm
    · rw [Function.update_of_ne same, Function.update_of_ne same]
      exact rest.counted other

/-! ## Once -/

theorem Ran.of_one {began completed : Nat} (ran : Ran 1 began completed) :
    began = 1 ∧ completed = 0 := by
  obtain ⟨word, -⟩ | ⟨-, once⟩ | ⟨word, -⟩ := ran
  · cases word
  · exact once
  · cases word

theorem Onces.begin (onces : Onces state) {control : Fin controls}
    (fresh : state.control control = 0) (thread : Nat) :
    Onces { state.setCall thread .user with
      control := Function.update state.control control 1
      inside := Function.update state.inside thread (control :: state.inside thread)
      began := Function.update state.began control (state.began control + 1) } := by
  have absent (other : Nat) : control ∉ state.inside other := by
    intro inside
    have word := onces.running other control inside
    rw [fresh] at word
    cases word
  have inside (other : Nat) (entry : Fin controls)
      (member : entry ∈
          Function.update state.inside thread (control :: state.inside thread) other) :
      entry = control ∧ other = thread ∨ entry ≠ control ∧ entry ∈ state.inside other := by
    by_cases same : other = thread
    · subst same
      rw [Function.update_self, List.mem_cons] at member
      exact member.imp (⟨·, rfl⟩) fun known => ⟨fun equal => absent other (equal ▸ known), known⟩
    · rw [Function.update_of_ne same] at member
      exact .inr ⟨fun equal => absent other (equal ▸ member), member⟩
  refine ⟨fun entry => ?_, fun other entry member => ?_, fun other => ?_,
    fun first second entry early late => ?_⟩
  · change Ran (Function.update state.control control 1 entry)
      (Function.update state.began control (state.began control + 1) entry)
      (state.completed entry)
    by_cases same : entry = control
    · subst same
      rw [Function.update_self, Function.update_self]
      have ran := onces.ran entry
      rw [fresh] at ran
      obtain ⟨-, began, completed⟩ | ⟨word, -⟩ | ⟨word, -⟩ := ran
      · exact .inr (.inl ⟨rfl, by rw [began], completed⟩)
      · cases word
      · cases word
    · rw [Function.update_of_ne same, Function.update_of_ne same]
      exact onces.ran entry
  · change Function.update state.control control 1 entry = 1
    obtain ⟨rfl, -⟩ | ⟨apart, known⟩ := inside other entry member
    · exact Function.update_self ..
    · rw [Function.update_of_ne apart]
      exact onces.running other entry known
  · change (Function.update state.inside thread (control :: state.inside thread) other).Nodup
    by_cases same : other = thread
    · rw [same, Function.update_self]
      exact List.nodup_cons.mpr ⟨absent thread, onces.nodup thread⟩
    · rw [Function.update_of_ne same]
      exact onces.nodup other
  · obtain ⟨here, rfl⟩ | ⟨apart, known⟩ := inside first entry early
    · obtain ⟨-, same⟩ | ⟨apart, -⟩ := inside second entry late
      · exact same.symm
      · exact absurd here apart
    · obtain ⟨here, -⟩ | ⟨-, other⟩ := inside second entry late
      · exact absurd here apart
      · exact onces.alone first second entry known other

theorem Onces.finish (onces : Onces state) {control : Fin controls} {rest : List (Fin controls)}
    (inside : state.inside thread = control :: rest) :
    Onces (threadIoWake { state with
      control := Function.update state.control control 2
      inside := Function.update state.inside thread rest
      completed := Function.update state.completed control (state.completed control + 1) }) := by
  have here : control ∈ state.inside thread := inside ▸ List.mem_cons_self
  have once := onces.nodup thread
  rw [inside, List.nodup_cons] at once
  have left (other : Nat) (entry : Fin controls)
      (member : entry ∈ Function.update state.inside thread rest other) :
      entry ≠ control ∧ entry ∈ state.inside other := by
    by_cases same : other = thread
    · rw [same, Function.update_self] at member
      refine ⟨fun equal => once.1 (equal ▸ member), ?_⟩
      rw [same, inside]
      exact List.mem_cons_of_mem _ member
    · rw [Function.update_of_ne same] at member
      exact ⟨fun equal => same (onces.alone other thread control (equal ▸ member) here), member⟩
  refine ⟨fun entry => ?_, fun other entry member => ?_, fun other => ?_,
    fun first second entry early late => ?_⟩
  · change Ran (Function.update state.control control 2 entry) (state.began entry)
      (Function.update state.completed control (state.completed control + 1) entry)
    by_cases same : entry = control
    · subst same
      rw [Function.update_self, Function.update_self]
      have ran := onces.ran entry
      rw [onces.running thread entry here] at ran
      obtain ⟨began, completed⟩ := ran.of_one
      exact .inr (.inr ⟨rfl, began, by rw [completed]⟩)
    · rw [Function.update_of_ne same, Function.update_of_ne same]
      exact onces.ran entry
  · change Function.update state.control control 2 entry = 1
    obtain ⟨apart, known⟩ := left other entry member
    rw [Function.update_of_ne apart]
    exact onces.running other entry known
  · change (Function.update state.inside thread rest other).Nodup
    by_cases same : other = thread
    · rw [same, Function.update_self]
      exact once.2
    · rw [Function.update_of_ne same]
      exact onces.nodup other
  · exact onces.alone first second entry (left first entry early).2 (left second entry late).2

theorem Inv.oncePass (inv : Inv raw state) (control : Fin controls) :
    Inv raw (oncePass state thread control) := by
  have rest := inv.rest thread
  have ran := rest.onces.ran control
  unfold Cond.oncePass
  split_ifs with done fresh busy
  · rw [done] at ran
    obtain ⟨word, -⟩ | ⟨word, -⟩ | ⟨-, -, completed⟩ := ran
    · cases word
    · cases word
    · have lawful : (Event.onced thread control none (state.completed control) :
          Event mutexes conds controls).Lawful raw := ⟨rfl, completed⟩
      exact ((rest.setCall .user).record lawful).user (setCall_call _)
  · have moves := @Moves.setCall _ _ _ thread state .user
    refine (?_ : Rest raw thread _).user (setCall_call _)
    exact rest.moves ⟨moves.call, moves.mutex, moves.signals, moves.nowNs⟩ rest.counted
      (rest.onces.begin fresh thread) rest.lawful
  · refine (rest.setCall (.onceIdle control state.ioWakes)).inv ?_
    rw [setCall_call]
    trivial
  · obtain ⟨word, -⟩ | ⟨word, -⟩ | ⟨word, -⟩ := ran
    · exact absurd word fresh
    · exact absurd word busy
    · exact absurd word done

theorem Inv.onceDone (inv : Inv raw state) {control : Fin controls} {rest : List (Fin controls)}
    (inside : state.inside thread = control :: rest) (user : state.call thread = .user) :
    Inv raw (onceDone state thread control rest) := by
  have others := inv.rest thread
  have here : control ∈ state.inside thread := inside ▸ List.mem_cons_self
  have ran := others.onces.ran control
  rw [others.onces.running thread control here] at ran
  unfold Cond.onceDone
  have finished : Rest raw thread (threadIoWake { state with
      control := Function.update state.control control 2
      inside := Function.update state.inside thread rest
      completed := Function.update state.completed control (state.completed control + 1) }) :=
    others.moves ⟨fun _ _ => rfl, fun _ => .refl thread _, fun _ => Nat.le_refl _, Nat.le_refl _⟩
      others.counted (others.onces.finish inside) others.lawful
  have lawful : (Event.onced thread control none (state.completed control + 1) :
      Event mutexes conds controls).Lawful raw := ⟨rfl, by rw [ran.of_one.2]⟩
  exact (finished.record lawful).user user

/-! ## Runs -/

theorem Inv.call (inv : Inv raw state) (user : state.call thread = .user)
    {action : Action mutexes conds controls}
    (called : call raw state thread action = some next) : Inv raw next := by
  have rest := inv.rest thread
  unfold Cond.call at called
  split at called
  next place => exact Option.some.inj called ▸ inv.lockPass place
  next place =>
    cases called
    exact (rest.setMutex (.acquire thread _)).user user
  next place =>
    cases called
    exact (rest.setMutex (.release thread _)).user user
  next cond mutex => exact Option.some.inj called ▸ inv.condWait cond mutex none true nofun
  next cond mutex abstime clock =>
    cases called
    split_ifs with valid
    · refine inv.condWait cond mutex (some abstime) clock fun deadline known => ?_
      exact Option.some.inj known ▸ valid
    · exact inv
  next cond =>
    cases called
    exact (rest.condSignal cond).user user
  next cond =>
    cases called
    exact (rest.condSignal cond).user user
  next control => exact Option.some.inj called ▸ inv.oncePass control
  next =>
    split at called
    · cases called
    · rename_i inside
      exact Option.some.inj called ▸ inv.onceDone inside user
  next => cases called
  next => cases called
  next => cases called
  next => exact Option.some.inj called ▸ inv

theorem Inv.resume (inv : Inv raw state) {clock : Bool}
    (near : spaced state thread (.resume clock) = true)
    (resumed : resume raw state thread clock = some next) : Inv raw next := by
  have rest := inv.rest thread
  have holds := inv.calls thread
  simp only [spaced] at near
  unfold Cond.resume at resumed
  split at resumed
  next => cases resumed
  next place locking => exact Option.some.inj resumed ▸ inv.lockPass place
  next wait pulses ioWakes idle =>
    rw [idle] at holds
    split_ifs at resumed
    cases resumed
    refine (rest.setCall (.checking wait (pulses + 1))).inv ?_
    rw [setCall_call]
    exact ⟨⟨holds.1.released, holds.1.generation, holds.1.order, holds.1.valid⟩, holds.2⟩
  next wait pulses checking =>
    rw [checking] at holds near
    cases resumed
    exact rest.check holds.1 (by simpa [holds.2] using near) pulses clock
  next wait result relocking =>
    rw [relocking] at holds
    exact Option.some.inj resumed ▸ rest.relock holds
  next control ioWakes idle =>
    split_ifs at resumed
    cases resumed
    refine (rest.setCall (.onceChecking control)).inv ?_
    rw [setCall_call]
    trivial
  next control checking => exact Option.some.inj resumed ▸ inv.oncePass control

theorem Inv.elapse (inv : Inv raw state) (thread ns : Nat) :
    Inv raw { state with nowNs := state.nowNs + ns } := by
  have moves (thread : Nat) : Moves thread state { state with nowNs := state.nowNs + ns } :=
    ⟨fun _ _ => rfl, fun _ => .refl thread _, fun _ => Nat.le_refl _, Nat.le_add_right ..⟩
  have rest := inv.rest thread
  refine Rest.inv (rest.moves (moves thread) rest.counted
    (rest.onces.of_eq rfl rfl rfl rfl) rest.lawful) ?_
  exact (moves (thread + 1)).holds (Nat.ne_of_lt (Nat.lt_succ_self thread)) (inv.calls thread)

theorem Inv.wake (inv : Inv raw state) (thread : Nat) : Inv raw (threadIoWake state) := by
  have moves (thread : Nat) : Moves thread state (threadIoWake state) :=
    ⟨fun _ _ => rfl, fun _ => .refl thread _, fun _ => Nat.le_refl _, Nat.le_refl _⟩
  have rest := inv.rest thread
  refine Rest.inv (rest.moves (moves thread) rest.counted
    (rest.onces.of_eq rfl rfl rfl rfl) rest.lawful) ?_
  exact (moves (thread + 1)).holds (Nat.ne_of_lt (Nat.lt_succ_self thread)) (inv.calls thread)

theorem Inv.step (inv : Inv raw state) {action : Action mutexes conds controls}
    (near : spaced state thread action = true)
    (stepped : step raw state thread action = some next) : Inv raw next := by
  unfold Cond.step at stepped
  split at stepped
  next ns => exact Option.some.inj stepped ▸ inv.elapse thread ns
  next => exact Option.some.inj stepped ▸ inv.wake thread
  next clock => exact inv.resume near stepped
  next =>
    split_ifs at stepped with user
    exact inv.call user stepped

theorem Inv.run (inv : Inv raw state) {steps : List (Nat × Action mutexes conds controls)}
    (near : spacing raw state steps = true) (ran : run raw state steps = some next) :
    Inv raw next := by
  induction steps generalizing state with
  | nil =>
      cases ran
      exact inv
  | cons first rest ih =>
      obtain ⟨thread, action⟩ := first
      simp only [Cond.run, Option.bind_eq_some_iff] at ran
      obtain ⟨middle, stepped, ran⟩ := ran
      simp only [spacing, stepped, Bool.and_eq_true] at near
      exact ih (inv.step near.1 stepped) near.2 ran

/-- In every run of any threads, with fewer than `2 ^ 32` signals between two checks of a
wait, the waits and the once calls do as they are to, and no routine begins twice. -/
theorem run_lawful {types : Fin mutexes → MutexType}
    {steps : List (Nat × Action mutexes conds controls)}
    (near : spacing raw (boot types : State mutexes conds controls) steps = true)
    (ran : run raw (boot types) steps = some state) :
    (∀ event ∈ state.log, event.Lawful raw) ∧
      ∀ control, state.completed control ≤ state.began control ∧ state.began control ≤ 1 := by
  have rest := ((Inv.boot types).run near ran).rest 0
  refine ⟨rest.lawful, fun control => ?_⟩
  obtain ⟨-, began, completed⟩ | ⟨-, began, completed⟩ | ⟨-, began, completed⟩ :=
    rest.onces.ran control
  · rw [began, completed]
    exact ⟨Nat.le_refl 0, Nat.zero_le 1⟩
  · rw [began, completed]
    exact ⟨Nat.zero_le 1, Nat.le_refl 1⟩
  · rw [began, completed]
    exact ⟨Nat.le_refl 1, Nat.le_refl 1⟩

/-- A signal under the mutex, a relock that yields once, a timed wait that other handlers wake
before and after its deadline, and a once control that two threads call. -/
theorem run_lawful_sample :
    ∃ state : State 1 1 1, state.log.length = 7 ∧
      (∀ event ∈ state.log, event.Lawful 0) ∧ ∀ control, state.began control ≤ 1 := by
  let steps : List (Nat × Action 1 1 1) :=
    [(1, .lock (some 0)), (1, .condWait (some 0) (some 0)), (2, .lock (some 0)),
      (2, .signal (some 0)), (1, .resume true), (1, .resume true), (2, .unlock (some 0)),
      (1, .resume true), (1, .condTimedwait (some 0) (some 0) (some ⟨0, 5⟩) true),
      (2, .elapse 3), (0, .wake), (1, .resume true), (1, .resume true), (2, .elapse 4), (0, .wake),
      (1, .resume true), (1, .resume true), (2, .once (some 0) true), (3, .once (some 0) true),
      (2, .routineReturns), (3, .resume true), (3, .resume true)]
  have ends : (run 0 (boot fun _ => .normal) steps).map (·.log.length) = some 7 := by
    decide +kernel
  obtain ⟨state, ran, shown⟩ := Option.map_eq_some_iff.mp ends
  obtain ⟨lawful, once⟩ := run_lawful (by decide +kernel) ran
  exact ⟨state, shown, lawful, fun control => (once control).2⟩

end Chrysopolis.Beam.Cond
