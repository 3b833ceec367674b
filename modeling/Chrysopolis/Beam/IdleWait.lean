import Chrysopolis.Support.Semaphore

/-! `runtime_wait.c`: the shared idle wait. A step runs one cothread from where it was
switched in to where it is switched out, or to the end of the call. -/

set_option autoImplicit false

namespace Chrysopolis.Beam

open Chrysopolis.Support

/-- A cothread in the wait, and the generation it captured. -/
structure Waiter where
  handle : Nat
  generation : UInt64
  deriving DecidableEq, Repr

/-- A cothread a signal released. History: the wake its chain started with. -/
structure Released where
  waiter : Waiter
  chain : Nat
  deriving DecidableEq, Repr

structure IdleWait where
  ready : Bool := false
  ioWakeGeneration : UInt64 := 0
  ioWakeupSem : Semaphore Waiter Nat := {}
  /-- Released cothreads that have not run since. -/
  released : List Released := []
  /-- History: the wakes so far. -/
  wakes : Nat := 0
  /-- History: the chain of each cothread that went back to waiting. -/
  wentBack : List Nat := []

namespace IdleWait

/-- A wait on the shared semaphore; taking a latch leaves the cothread runnable. -/
def semaphoreWait (waiter : Waiter) (state : IdleWait) : IdleWait :=
  let (taken, semaphore) := state.ioWakeupSem.wait waiter
  { state with
    ioWakeupSem := semaphore
    released := state.released ++ taken.toList.map fun chain => ⟨waiter, chain⟩ }

def semaphoreSignal (chain : Nat) (state : IdleWait) : IdleWait :=
  let (head, semaphore) := state.ioWakeupSem.signal chain
  { state with
    ioWakeupSem := semaphore
    released := state.released ++ head.toList.map fun waiter => ⟨waiter, chain⟩ }

/-- `thread_io_wait` to its first switch. The root and unknown handles only yield. -/
def threadIoWait (handles handle : Nat) (state : IdleWait) : IdleWait :=
  if !state.ready || !(handle < handles) || handle = 0 then state
  else state.semaphoreWait ⟨handle, state.ioWakeGeneration⟩

/-- `thread_io_wait` from a release: wait again at the same generation, else pass the
signal on. -/
def threadIoResume (resumed : Released) (state : IdleWait) : IdleWait :=
  let state := { state with released := state.released.erase resumed }
  if resumed.waiter.generation = state.ioWakeGeneration then
    { state with wentBack := state.wentBack ++ [resumed.chain] }.semaphoreWait resumed.waiter
  else if !state.ioWakeupSem.isQueueEmpty then state.semaphoreSignal resumed.chain
  else state

def threadIoWake (state : IdleWait) : IdleWait :=
  if state.ready then
    { state with
      ioWakeGeneration := state.ioWakeGeneration + 1
      wakes := state.wakes + 1 }.semaphoreSignal state.wakes
  else state

/-- The cothread is in the wait. -/
def parked (state : IdleWait) (handle : Nat) : Bool :=
  state.ioWakeupSem.waiters.any (·.handle == handle) ||
    state.released.any (·.waiter.handle == handle)

inductive Step where
  /-- The scheduler becomes ready. -/
  | publish
  | wait (handle : Nat)
  | resume (resumed : Released)
  | wake

/-- A cothread outside the wait may enter it, and a released one may run. -/
def step (handles : Nat) (state : IdleWait) : Step → Option IdleWait
  | .publish => some { state with ready := true }
  | .wait handle =>
      if state.parked handle then none else some (state.threadIoWait handles handle)
  | .resume resumed =>
      if resumed ∈ state.released then some (state.threadIoResume resumed) else none
  | .wake => some state.threadIoWake

/-- The state after the steps, in any order the cothreads run. -/
def run (handles : Nat) : IdleWait → List Step → Option IdleWait
  | state, [] => some state
  | state, first :: rest => (state.step handles first).bind fun next => run handles next rest

end IdleWait

end Chrysopolis.Beam
