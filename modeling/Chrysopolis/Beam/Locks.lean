import Chrysopolis.Beam.Pthread

/-! `runtime_pthread_locks.c`: mutexes whose owner word names a cothread slot, under the
threads that come and go in these slots. The cothreads switch at any step here, so more often
than a contended lock, which yields before it tries again, lets them. -/

set_option autoImplicit false

namespace Chrysopolis.Beam.Locks

open Pthread (maxCothreads runtimeCoCurrent pthreadSelf pthreadNull)

inductive Errno where
  | EINVAL | EAGAIN | EDEADLK | EBUSY | EPERM | ETIMEDOUT | EIO
  deriving DecidableEq, Repr

/-- `INT_MAX` -/
def intMax : Nat := 2 ^ 31 - 1

/-! ## Mutexes -/

inductive MutexType where
  | normal | recursive | errorcheck
  deriving DecidableEq, Repr

/-- The words of `pthread_mutex_t` in use: the owner's slot plus one, the recursion depth and
the type. -/
structure Mutex where
  owner : Nat := 0
  depth : Nat := 0
  type : MutexType := .normal
  deriving DecidableEq, Repr

/-- `mutex_try_acquire`, for the caller's `current_owner`. -/
def mutexTryAcquire (mutex : Mutex) (owner : Nat) : Mutex × Option Errno :=
  if owner = 0 then (mutex, some .EINVAL)
  else if mutex.owner = 0 then ({ mutex with owner, depth := 1 }, none)
  else if mutex.owner = owner then
    match mutex.type with
    | .recursive =>
        if mutex.depth = intMax then (mutex, some .EAGAIN)
        else ({ mutex with depth := mutex.depth + 1 }, none)
    | .errorcheck => (mutex, some .EDEADLK)
    | .normal => (mutex, some .EBUSY)
  else (mutex, some .EBUSY)

/-- `pthread_mutex_trylock` -/
def mutexTrylock (mutex : Mutex) (owner : Nat) : Mutex × Option Errno :=
  let (mutex, result) := mutexTryAcquire mutex owner
  (mutex, if result = some .EDEADLK then some .EBUSY else result)

/-- `pthread_mutex_unlock` -/
def mutexUnlock (mutex : Mutex) (owner : Nat) : Mutex × Option Errno :=
  if owner = 0 ∨ mutex.owner ≠ owner then (mutex, some .EPERM)
  else if mutex.depth ≤ 0 then (mutex, some .EINVAL)
  else if mutex.depth > 1 then ({ mutex with depth := mutex.depth - 1 }, none)
  else ({ mutex with depth := 0, owner := 0 }, none)

/-! ## Threads that lock -/

/-- The successful calls on a mutex, by the token of the thread that made them. -/
inductive Event (mutexes : Nat) where
  | locked (mutex : Fin mutexes) (token : Nat)
  | unlocked (mutex : Fin mutexes) (token : Nat)
  deriving DecidableEq, Repr

structure State (mutexes : Nat) where
  threads : Pthread.State
  mutex : Fin mutexes → Mutex
  /-- The mutex that a slot's call of `pthread_mutex_lock` has yielded for. -/
  locking : Nat → Option (Fin mutexes) := fun _ => none
  /-- History: the newest event first. -/
  log : List (Event mutexes) := []

variable {mutexes : Nat}

/-- Mutexes as `pthread_mutex_init` leaves them. -/
def boot (types : Fin mutexes → MutexType) : State mutexes where
  threads := Pthread.boot
  mutex := fun place => { type := types place }

/-- `current_owner` -/
def currentOwner (state : State mutexes) (slot : Nat) : Nat :=
  let handle := runtimeCoCurrent state.threads slot
  if handle < maxCothreads then handle + 1 else 0

/-- The thread that a slot runs. -/
def token (state : State mutexes) (slot : Nat) : Nat :=
  (pthreadSelf state.threads slot).getD pthreadNull

/-- The words after a call on one mutex, and the event of a call that succeeded. -/
def settle (state : State mutexes) (place : Fin mutexes) (called : Mutex × Option Errno)
    (event : Event mutexes) : State mutexes :=
  { state with
    mutex := Function.update state.mutex place called.1
    log := if called.2 = none then event :: state.log else state.log }

/-- One pass of the loop of `pthread_mutex_lock`. -/
def lockPass (state : State mutexes) (slot : Nat) (place : Fin mutexes) : State mutexes :=
  let tried := mutexTryAcquire (state.mutex place) (currentOwner state slot)
  let after := settle state place tried (.locked place (token state slot))
  { after with
    locking := Function.update state.locking slot
      (if tried.2 = some .EBUSY then some place else none) }

inductive Action (mutexes : Nat) where
  /-- A step outside the locks. -/
  | thread (action : Pthread.Action)
  /-- The calls take a null pointer too. -/
  | lock (mutex : Option (Fin mutexes))
  | trylock (mutex : Option (Fin mutexes))
  | unlock (mutex : Option (Fin mutexes))
  /-- A lock that yielded tries again. -/
  | retry
  deriving DecidableEq, Repr

/-- The cothread of a slot is in user code, or in a lock that user code has called. -/
def running (state : State mutexes) (slot : Nat) : Bool :=
  match state.threads.cothreads slot with
  | some (.running _) => true
  | _ => false

def inUser (state : State mutexes) (slot : Nat) : Bool :=
  running state slot && (state.locking slot).isNone

def step (state : State mutexes) (slot : Nat) : Action mutexes → Option (State mutexes)
  | .thread action =>
      if (state.locking slot).isNone then
        (Pthread.step state.threads slot action).map fun threads => { state with threads }
      else none
  | .lock none | .trylock none | .unlock none => if inUser state slot then some state else none
  | .lock (some place) => if inUser state slot then some (lockPass state slot place) else none
  | .trylock (some place) =>
      if inUser state slot then
        some (settle state place (mutexTrylock (state.mutex place) (currentOwner state slot))
          (.locked place (token state slot)))
      else none
  | .unlock (some place) =>
      if inUser state slot then
        some (settle state place (mutexUnlock (state.mutex place) (currentOwner state slot))
          (.unlocked place (token state slot)))
      else none
  | .retry => if running state slot then (state.locking slot).map (lockPass state slot) else none

/-- A run: the slot that takes each step, and the step. -/
def run : State mutexes → List (Nat × Action mutexes) → Option (State mutexes)
  | state, [] => some state
  | state, (slot, action) :: rest => (step state slot action).bind fun next => run next rest

end Chrysopolis.Beam.Locks
