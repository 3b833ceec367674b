import Chrysopolis.Beam.IdleWait
import Chrysopolis.Beam.Timer

/-! `runtime_sys_sync.c`: the futex over the shared idle wait and the timer multiplexer, beside
the root's notifications, the other handlers that wait, the clock and the timer driver. A step
runs one thread from where it was switched in to where it is switched out, and a
`beam_timer_arm` is two calls of the driver, which acts between them. -/

set_option autoImplicit false

namespace Chrysopolis.Beam.Futex

inductive Errno where
  | ENOSYS | EFAULT | EINVAL | EAGAIN | ETIMEDOUT
  deriving DecidableEq, Repr

def runtimeFutexOpWait : UInt32 := 0
def runtimeFutexOpWake : UInt32 := 1
def runtimeFutexOpWakeBitset : UInt32 := 10

inductive Cmd where
  | wait | wake | unsupported
  deriving DecidableEq, Repr

/-- `runtime_futex_classify` -/
def runtimeFutexClassify (op : UInt32) : Cmd :=
  let number := op &&& runtimeFutexCmdMask
  if number = runtimeFutexOpWait ∨ number = runtimeFutexOpWaitBitset then .wait
  else if number = runtimeFutexOpWake ∨ number = runtimeFutexOpWakeBitset then .wake
  else .unsupported

/-- The locals of a wait past its checks: the word, the value it waits on, and the timed call
with the timer's reading its deadline is computed from. -/
structure Wait where
  uaddr : Nat
  val : BitVec 32
  timed : Option (Timed × Nat)
  deriving DecidableEq, Repr

/-- `target` -/
def Wait.target (raw : Nat) (wait : Wait) : Option Nat :=
  wait.timed.map fun (call, begun) => call.deadline raw begun

/-- What a thread does next. -/
inductive Call where
  | user
  /-- In the `beam_timer_arm` of a timed wait. -/
  | arming (wait : Wait)
  /-- In `thread_io_wait`. -/
  | parked (wait : Wait)
  /-- Out of it, before the loop compares again. -/
  | checking (wait : Wait)
  /-- In the `thread_io_wait` of another handler. -/
  | elsewhere
  deriving DecidableEq, Repr

/-- A wait that returned: the word and the timer as it last read them, and its result. -/
structure Returned where
  thread : Nat
  wait : Wait
  word : BitVec 32
  nowNs : Nat
  result : Option Errno
  deriving DecidableEq, Repr

structure State where
  timer : Timer.State := {}
  idle : IdleWait := {}
  word : Nat → BitVec 32 := fun _ => 0
  call : Nat → Call := fun _ => .user
  /-- The thread whose arm is under way. -/
  armer : Option Nat := none
  /-- History: the words stored to since the last wake, and the waits that returned. -/
  unwoken : Nat → Bool := fun _ => false
  log : List Returned := []

inductive Action where
  /-- `thread_init` ends. -/
  | publish
  | store (thread uaddr : Nat) (value : BitVec 32)
  | futex (thread uaddr : Nat) (op : UInt32) (val : BitVec 32) (timeout : Option Timespec)
  /-- Another handler's `thread_io_wait`, and its arm. -/
  | park (thread : Nat)
  | arm (thread : Nat) (call : Timed) (begun : Nat)
  | resume (resumed : Released)
  | check (thread : Nat)
  /-- A notification from the timer, and any other. -/
  | notified
  | pulse
  /-- The arms of the network's pump and of `drain_cothreads`. -/
  | pump
  | drain
  | timeNow
  | setTimeout
  /-- The clock runs, and the driver fires or restarts. -/
  | tick (later : Nat)
  | fire
  | restart
  deriving DecidableEq, Repr

-- The bytes from which `rng_init` draws the offset of the realtime clock, and the cothreads.
variable (raw handles : Nat)

namespace State

def setCall (state : State) (thread : Nat) (call : Call) : State :=
  { state with call := Function.update state.call thread call }

/-- The root, or a cothread of the running scheduler. -/
def scheduled (state : State) (thread : Nat) : Bool :=
  thread == 0 || (thread < handles && state.idle.ready)

/-- A thread in user code. -/
def inUser (state : State) (thread : Nat) : Bool :=
  state.scheduled handles thread && state.call thread == .user

end State

def threadIoWake (state : State) : State :=
  { state with idle := state.idle.threadIoWake, unwoken := fun _ => false }

/-- `thread_io_wait` of the root returns after a yield. -/
def threadIoWait (state : State) (thread : Nat) (parked resumed : Call) : State :=
  { state with idle := state.idle.threadIoWait handles thread }.setCall thread
    (if thread = 0 then resumed else parked)

def finish (state : State) (thread : Nat) (wait : Wait) (result : Option Errno) : State :=
  { state.setCall thread .user with
    log := ⟨thread, wait, state.word wait.uaddr, state.timer.clock, result⟩ :: state.log }

/-- The loop of a wait, from its compare to its next switch. -/
def compare (state : State) (thread : Nat) (wait : Wait) : State :=
  if state.word wait.uaddr ≠ wait.val then finish state thread wait none
  else
    match wait.target raw with
    | none => threadIoWait handles state thread (.parked wait) (.checking wait)
    | some target =>
        if state.timer.clock ≥ target then finish state thread wait (some .ETIMEDOUT)
        else
          { state.setCall thread (.arming wait) with
            timer := { state.timer with call := some (.offered target) }
            armer := some thread }

/-- `runtime_sys_futex`, and what it returns unless it waits. -/
def runtimeSysFutex (state : State) (thread uaddr : Nat) (op : UInt32) (val : BitVec 32)
    (timeout : Option Timespec) : State × Option (Option Errno) :=
  match runtimeFutexClassify op with
  | .wake => (threadIoWake state, some none)
  | .unsupported => (state, some (some .ENOSYS))
  | .wait =>
      if uaddr = 0 then (state, some (some .EFAULT))
      else if timeout.any (fun ts => !runtimeTimespecValid ts) then (state, some (some .EINVAL))
      else if state.word uaddr ≠ val then (state, some (some .EAGAIN))
      else
        let timed := timeout.map fun ts => (Timed.futex op ts, state.timer.clock)
        (compare raw handles state thread ⟨uaddr, val, timed⟩, none)

/-- The end of the arm of a timed wait, which goes on to the idle wait. -/
def armed (state : State) : State :=
  match state.armer with
  | none => state
  | some thread =>
      match state.call thread with
      | .arming wait =>
          threadIoWait handles { state with armer := none } thread (.parked wait) (.checking wait)
      | _ => { state with armer := none }

/-- A cothread that a signal released runs. It waits again, or leaves `thread_io_wait`. -/
def resume (state : State) (resumed : Released) : State :=
  let thread := resumed.waiter.handle
  let after := { state with idle := state.idle.threadIoResume resumed }
  if resumed.waiter.generation = state.idle.ioWakeGeneration then after
  else
    after.setCall thread
      (match state.call thread with
      | .parked wait => .checking wait
      | _ => .user)

/-- What the timer's own model does at a step. -/
def timerStep (state : State) (action : Timer.Action) : Option State :=
  (Timer.step raw state.timer action).map fun timer => { state with timer }

/-- The steps of the PD, which come one at a time. -/
def step (state : State) (action : Action) : Option State :=
  match action with
  | .tick later => timerStep raw state (.tick later)
  | .fire => timerStep raw state .fire
  | .restart => timerStep raw state .restart
  | .timeNow => timerStep raw state .timeNow
  | .setTimeout => (timerStep raw state .setTimeout).map (armed handles)
  | action =>
      if state.timer.call ≠ none then none
      else
        match action with
        | .publish => some { state with idle := { state.idle with ready := true } }
        | .store thread uaddr value =>
            if state.inUser handles thread then
              some { state with
                word := Function.update state.word uaddr value
                unwoken := Function.update state.unwoken uaddr true }
            else none
        | .futex thread uaddr op val timeout =>
            if state.inUser handles thread then
              some (runtimeSysFutex raw handles state thread uaddr op val timeout).1
            else none
        | .park thread =>
            if state.inUser handles thread then
              some (threadIoWait handles state thread .elsewhere .user)
            else none
        | .arm thread call begun =>
            if state.inUser handles thread ∧ call.valid ∧ begun ≤ state.timer.clock then
              some { state with
                timer := { state.timer with call := some (.offered (call.deadline raw begun)) } }
            else none
        | .resume resumed =>
            if resumed ∈ state.idle.released then some (resume state resumed) else none
        | .check thread =>
            match state.call thread with
            | .checking wait => some (compare raw handles state thread wait)
            | _ => none
        | .notified => (timerStep raw state .notified).map threadIoWake
        | .pulse => (timerStep raw state .pulse).map threadIoWake
        | .pump => timerStep raw state .pump
        | .drain => timerStep raw state .drain
        | _ => none

def run : State → List Action → Option State
  | state, [] => some state
  | state, action :: rest => (step raw handles state action).bind fun next => run next rest

end Chrysopolis.Beam.Futex
