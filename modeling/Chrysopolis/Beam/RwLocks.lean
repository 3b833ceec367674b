import Chrysopolis.Beam.Locks

/-! `runtime_pthread_locks.c`: read-write locks. An owner is the `current_owner` of the cothread
that calls, and the cothreads switch between any two passes. -/

set_option autoImplicit false

namespace Chrysopolis.Beam.RwLocks

open Locks (Errno intMax)

/-- The words of `pthread_rwlock_t` in use, as `pthread_rwlock_init` leaves them. The state is -1
with a writer, else the number of readers. -/
structure RwLock where
  state : Int := 0
  writer : Nat := 0
  deriving DecidableEq, Repr

def rwTryRead (rw : RwLock) : RwLock × Option Errno :=
  if rw.state < 0 then (rw, some .EBUSY)
  else if rw.state = intMax then (rw, some .EAGAIN)
  else ({ rw with state := rw.state + 1 }, none)

def rwTryWrite (rw : RwLock) (owner : Nat) : RwLock × Option Errno :=
  if rw.state = 0 then ({ state := -1, writer := owner }, none) else (rw, some .EBUSY)

/-- `pthread_rwlock_unlock`: a reader's is not asked who it is. -/
def rwlockUnlock (rw : RwLock) (owner : Nat) : RwLock × Option Errno :=
  if rw.state = -1 then
    if rw.writer = owner then ({ state := 0, writer := 0 }, none) else (rw, some .EPERM)
  else if rw.state ≤ 0 then (rw, some .EPERM)
  else ({ rw with state := rw.state - 1 }, none)

/-! ## Calls -/

inductive Want where
  | read | write
  deriving DecidableEq, Repr

def attempt (rw : RwLock) (owner : Nat) : Want → RwLock × Option Errno
  | .read => rwTryRead rw
  | .write => rwTryWrite rw owner

/-- The calls that succeeded. -/
inductive Event where
  | locked (owner : Nat) (want : Want)
  | unlocked (owner : Nat)
  deriving DecidableEq, Repr

structure State where
  rw : RwLock := {}
  /-- What an owner's call has yielded for. -/
  waiting : Nat → Option Want := fun _ => none
  /-- History: the newest event first. -/
  log : List Event := []

inductive Call where
  /-- `pthread_rwlock_rdlock`, `pthread_rwlock_wrlock` -/
  | lock (want : Want)
  /-- `pthread_rwlock_tryrdlock`, `pthread_rwlock_trywrlock` -/
  | trylock (want : Want)
  | unlock
  /-- A lock that yielded tries again. -/
  | retry
  deriving DecidableEq, Repr

/-- The state after an attempt, which a blocking call repeats while the lock is busy. -/
def pass (state : State) (owner : Nat) (want : Want) (blocking : Bool) : State :=
  let tried := attempt state.rw owner want
  { rw := tried.1
    waiting := Function.update state.waiting owner
      (if blocking && tried.2 == some .EBUSY then some want else none)
    log := if tried.2 = none then .locked owner want :: state.log else state.log }

def release (state : State) (owner : Nat) : State :=
  let called := rwlockUnlock state.rw owner
  { state with
    rw := called.1
    log := if called.2 = none then .unlocked owner :: state.log else state.log }

def step (state : State) (owner : Nat) : Call → Option State
  | .lock want =>
      if (state.waiting owner).isNone then some (pass state owner want true) else none
  | .trylock want =>
      if (state.waiting owner).isNone then some (pass state owner want false) else none
  | .unlock => if (state.waiting owner).isNone then some (release state owner) else none
  | .retry => (state.waiting owner).map fun want => pass state owner want true

end Chrysopolis.Beam.RwLocks
