import Chrysopolis.Beam.Deadline
import Chrysopolis.Beam.Locks

/-! `runtime_pthread_cond.c` and `pthread_once`: condition variables and once controls over
the shared idle wait, with the scheduler up. A step runs one thread from where it was switched
in to its next yield or idle wait. A cothread in the idle wait goes on once `thread_io_wake`
has been called since it entered: by a signal or a finished routine, by `notified`, as for the
timer that a wait has armed, or by another call. The root only yields there. -/

set_option autoImplicit false

namespace Chrysopolis.Beam.Cond

open Locks (Mutex MutexType Errno mutexTryAcquire mutexTrylock mutexUnlock)

/-- `INT_MAX` and `INT_MIN` -/
def intMax : BitVec 32 := 0x7FFFFFFF
def intMin : BitVec 32 := 0x80000000

variable {mutexes conds controls : Nat}

/-- The locals of a `pthread_cond_wait`, or of a `pthread_cond_timedwait` with its deadline,
that has released its mutex. History: the mutex as the call found it, and the signals of the
condition at the call and at the last check of the generation. -/
structure Wait (mutexes conds : Nat) where
  cond : Fin conds
  mutex : Fin mutexes
  abstime : Option Timespec
  generation : BitVec 32
  before : Mutex
  begun : Nat
  checked : Nat
  deriving DecidableEq, Repr

/-- What a thread does next. -/
inductive Call (mutexes conds controls : Nat) where
  | user
  /-- Yielded in `pthread_mutex_lock`. -/
  | locking (mutex : Fin mutexes)
  /-- In the idle wait of a condition wait, and the wakes when it entered. -/
  | idle (wait : Wait mutexes conds) (pulses ioWakes : Nat)
  /-- Out of the idle wait, before the check of the generation. -/
  | checking (wait : Wait mutexes conds) (pulses : Nat)
  /-- Yielded in the lock that ends a condition wait, with what it is to return. -/
  | relocking (wait : Wait mutexes conds) (result : Option Errno)
  /-- In the idle wait of `pthread_once`. -/
  | onceIdle (control : Fin controls) (ioWakes : Nat)
  | onceChecking (control : Fin controls)
  deriving DecidableEq, Repr

/-- What is seen of the waits and the once calls, with the state they saw. -/
inductive Event (mutexes conds controls : Nat) where
  /-- Entered the idle wait, after so many signals of the condition. -/
  | parked (thread : Nat) (wait : Wait mutexes conds) (signals : Nat)
  | returned (thread : Nat) (wait : Wait mutexes conds) (result : Option Errno) (after : Mutex)
      (signals nowNs : Nat)
  /-- A `pthread_once` past its argument check returned, after so many completed runs. -/
  | onced (thread : Nat) (control : Fin controls) (result : Option Errno) (completed : Nat)
  deriving DecidableEq, Repr

structure State (mutexes conds controls : Nat) where
  mutex : Fin mutexes → Mutex
  generation : Fin conds → BitVec 32 := fun _ => 0
  control : Fin controls → Int := fun _ => 0
  ioWakes : Nat := 0
  nowNs : Nat := 0
  /-- The deadlines given to `beam_timer_arm`. -/
  armed : List Nat := []
  call : Nat → Call mutexes conds controls := fun _ => .user
  /-- The controls whose routines a thread is running, the innermost first. -/
  inside : Nat → List (Fin controls) := fun _ => []
  /-- History: the signals of each condition, the runs of each control's routine that began
  and that completed, and the events. -/
  signals : Fin conds → Nat := fun _ => 0
  began : Fin controls → Nat := fun _ => 0
  completed : Fin controls → Nat := fun _ => 0
  log : List (Event mutexes conds controls) := []

def boot (types : Fin mutexes → MutexType) : State mutexes conds controls where
  mutex := fun place => { type := types place }

namespace State

def setCall (state : State mutexes conds controls) (thread : Nat)
    (call : Call mutexes conds controls) : State mutexes conds controls :=
  { state with call := Function.update state.call thread call }

def setMutex (state : State mutexes conds controls) (place : Fin mutexes) (mutex : Mutex) :
    State mutexes conds controls :=
  { state with mutex := Function.update state.mutex place mutex }

def record (state : State mutexes conds controls) (event : Event mutexes conds controls) :
    State mutexes conds controls :=
  { state with log := event :: state.log }

end State

/-- `current_owner` -/
def currentOwner (thread : Nat) : Nat := thread + 1

def threadIoWake (state : State mutexes conds controls) : State mutexes conds controls :=
  { state with ioWakes := state.ioWakes + 1 }

/-! ## Conditions -/

/-- `cond_advance` on the generation word. -/
def condAdvance (old : BitVec 32) : BitVec 32 := if old = intMax then intMin else old + 1

/-- `pthread_cond_signal` and `pthread_cond_broadcast` -/
def condSignal (state : State mutexes conds controls) (cond : Fin conds) :
    State mutexes conds controls :=
  threadIoWake { state with
    generation := Function.update state.generation cond (condAdvance (state.generation cond))
    signals := Function.update state.signals cond (state.signals cond + 1) }

/-- The end of a wait: one try of `pthread_mutex_lock`, which yields while the mutex is
busy. -/
def relock (state : State mutexes conds controls) (thread : Nat) (wait : Wait mutexes conds)
    (result : Option Errno) : State mutexes conds controls :=
  let tried := mutexTryAcquire (state.mutex wait.mutex) (currentOwner thread)
  let after := state.setMutex wait.mutex tried.1
  if tried.2 = some .EBUSY then after.setCall thread (.relocking wait result)
  else
    let answer := if tried.2 = none then result else tried.2
    (after.setCall thread .user).record
      (.returned thread wait answer tried.1 (state.signals wait.cond) state.nowNs)

/-- `thread_io_wait` of a condition wait. -/
def park (state : State mutexes conds controls) (thread : Nat) (wait : Wait mutexes conds)
    (pulses : Nat) : State mutexes conds controls :=
  let signals := state.signals wait.cond
  let wait := { wait with checked := signals }
  (state.setCall thread (.idle wait pulses state.ioWakes)).record (.parked thread wait signals)

-- The bytes from which `rng_init` draws the offset of the realtime clock.
variable (raw : Nat)

/-- The loops of the two waits, from a check of the generation on; `clock` is whether the sDDF
clock can be read. -/
def check (state : State mutexes conds controls) (thread : Nat) (wait : Wait mutexes conds)
    (pulses : Nat) (clock : Bool) : State mutexes conds controls :=
  match wait.abstime with
  | none =>
      if pulses < 64 ∧ state.generation wait.cond = wait.generation then
        park state thread wait pulses
      else relock state thread wait none
  | some abstime =>
      if state.generation wait.cond ≠ wait.generation then relock state thread wait none
      else if clock = false then relock state thread wait (some Errno.EIO)
      else if (Timed.condTimedwait abstime).expired raw 0 state.nowNs then
        relock state thread wait (some .ETIMEDOUT)
      else
        park { state with
          armed := (Timed.condTimedwait abstime).deadline raw 0 :: state.armed } thread wait pulses

/-- A wait whose arguments have been checked. A failed unlock ends it. -/
def wait (state : State mutexes conds controls) (thread : Nat) (cond : Fin conds)
    (mutex : Fin mutexes) (abstime : Option Timespec) (clock : Bool) :
    State mutexes conds controls :=
  let unlocked := mutexUnlock (state.mutex mutex) (currentOwner thread)
  if unlocked.2 = none then
    check raw (state.setMutex mutex unlocked.1) thread
      { cond, mutex, abstime
        generation := state.generation cond
        before := state.mutex mutex
        begun := state.signals cond
        checked := state.signals cond } 0 clock
  else state

/-! ## Once -/

/-- One pass of the loop of `pthread_once`, to the routine, the idle wait or the return. -/
def oncePass (state : State mutexes conds controls) (thread : Nat) (control : Fin controls) :
    State mutexes conds controls :=
  if state.control control = 2 then
    (state.setCall thread .user).record (.onced thread control none (state.completed control))
  else if state.control control = 0 then
    { state.setCall thread .user with
      control := Function.update state.control control 1
      inside := Function.update state.inside thread (control :: state.inside thread)
      began := Function.update state.began control (state.began control + 1) }
  else if state.control control = 1 then
    state.setCall thread (.onceIdle control state.ioWakes)
  else
    (state.setCall thread .user).record
      (.onced thread control (some .EINVAL) (state.completed control))

/-- The routine of a control returns to its `pthread_once`, which returns. -/
def onceDone (state : State mutexes conds controls) (thread : Nat) (control : Fin controls)
    (rest : List (Fin controls)) : State mutexes conds controls :=
  let completed := state.completed control + 1
  (threadIoWake { state with
    control := Function.update state.control control 2
    inside := Function.update state.inside thread rest
    completed := Function.update state.completed control completed }).record
      (.onced thread control none completed)

/-! ## Steps -/

/-- What a thread calls, with null pointers for `none`, or how it goes on. -/
inductive Action (mutexes conds controls : Nat) where
  | lock (mutex : Option (Fin mutexes))
  | trylock (mutex : Option (Fin mutexes))
  | unlock (mutex : Option (Fin mutexes))
  | condWait (cond : Option (Fin conds)) (mutex : Option (Fin mutexes))
  | condTimedwait (cond : Option (Fin conds)) (mutex : Option (Fin mutexes))
      (abstime : Option Timespec) (clock : Bool)
  | signal (cond : Option (Fin conds))
  | broadcast (cond : Option (Fin conds))
  | once (control : Option (Fin controls)) (routine : Bool)
  | routineReturns
  /-- A thread outside user code goes on. -/
  | resume (clock : Bool)
  /-- Time passes. -/
  | elapse (ns : Nat)
  /-- `notified`, or a call that is not modelled here, calls `thread_io_wake`. -/
  | wake
  deriving DecidableEq, Repr

def lockPass (state : State mutexes conds controls) (thread : Nat) (place : Fin mutexes) :
    State mutexes conds controls :=
  let tried := mutexTryAcquire (state.mutex place) (currentOwner thread)
  (state.setMutex place tried.1).setCall thread
    (if tried.2 = some .EBUSY then .locking place else .user)

/-- A call from user code. -/
def call (state : State mutexes conds controls) (thread : Nat) :
    Action mutexes conds controls → Option (State mutexes conds controls)
  | .lock (some place) => some (lockPass state thread place)
  | .trylock (some place) =>
      some (state.setMutex place (mutexTrylock (state.mutex place) (currentOwner thread)).1)
  | .unlock (some place) =>
      some (state.setMutex place (mutexUnlock (state.mutex place) (currentOwner thread)).1)
  | .condWait (some cond) (some mutex) => some (wait raw state thread cond mutex none true)
  | .condTimedwait (some cond) (some mutex) (some abstime) clock =>
      some (if (Timed.condTimedwait abstime).valid then
        wait raw state thread cond mutex (some abstime) clock else state)
  | .signal (some cond) | .broadcast (some cond) => some (condSignal state cond)
  | .once (some control) true => some (oncePass state thread control)
  | .routineReturns =>
      match state.inside thread with
      | [] => none
      | control :: rest => some (onceDone state thread control rest)
  | .resume _ | .elapse _ | .wake => none
  | _ => some state

/-- A thread goes on; from the idle wait only after a wake. -/
def resume (state : State mutexes conds controls) (thread : Nat) (clock : Bool) :
    Option (State mutexes conds controls) :=
  match state.call thread with
  | .user => none
  | .locking place => some (lockPass state thread place)
  | .idle wait pulses ioWakes =>
      if thread = 0 ∨ ioWakes < state.ioWakes then
        some (state.setCall thread (.checking wait (pulses + 1)))
      else none
  | .checking wait pulses => some (check raw state thread wait pulses clock)
  | .relocking wait result => some (relock state thread wait result)
  | .onceIdle control ioWakes =>
      if thread = 0 ∨ ioWakes < state.ioWakes then
        some (state.setCall thread (.onceChecking control))
      else none
  | .onceChecking control => some (oncePass state thread control)

def step (state : State mutexes conds controls) (thread : Nat)
    (action : Action mutexes conds controls) : Option (State mutexes conds controls) :=
  match action with
  | .elapse ns => some { state with nowNs := state.nowNs + ns }
  | .wake => some (threadIoWake state)
  | .resume clock => resume raw state thread clock
  | action => if state.call thread = .user then call raw state thread action else none

/-- A run: the thread that takes each step, and the step. -/
def run : State mutexes conds controls → List (Nat × Action mutexes conds controls) →
    Option (State mutexes conds controls)
  | state, [] => some state
  | state, (thread, action) :: rest =>
      (step raw state thread action).bind fun next => run next rest

end Chrysopolis.Beam.Cond
