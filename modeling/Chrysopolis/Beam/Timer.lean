import Chrysopolis.Beam.Deadline

/-! The timer multiplexer: one sDDF timeout for every waiter of the PD, beside a driver
that fires it, or restarts and forgets it. -/

set_option autoImplicit false

namespace Chrysopolis.Beam.Timer

/-- `NET_TIMEOUT` -/
def netTimeout : Nat := 100 * 1000000

/-- The deadline that owns the slot, and the timeout to program. A slot of zero is empty. -/
def runtimeTimerSlotUpdate (slot nowNs deadlineNs : Nat) : Option (Nat × Nat) :=
  let deadlineNs :=
    if deadlineNs ≤ nowNs then if nowNs = uint64Max then uint64Max else nowNs + 1
    else deadlineNs
  if slot ≠ 0 ∧ deadlineNs ≥ slot then none else some (deadlineNs, deadlineNs - nowNs)

/-- A timed call under way, and the pulse count when it last parked. -/
structure Wait where
  call : Timed
  begun : Nat
  parked : Option Nat := none
  deriving DecidableEq, Repr

/-- A `beam_timer_arm` under way: the deadline is known, then the timer is read. -/
inductive Call where
  | offered (deadlineNs : Nat)
  | timed (deadlineNs nowNs : Nat)
  deriving DecidableEq, Repr

/-- A `beam_timer_arm` that has returned, and the driver's clock when it did. -/
structure Arm where
  deadlineNs : Nat
  nowNs : Nat
  set : Nat
  deriving DecidableEq, Repr

structure State where
  clock : Nat := 0
  /-- `beam_timer_deadline` -/
  slot : Nat := 0
  /-- The driver's `timeouts` entry for this client, on its clock. -/
  timeout : Option Nat := none
  /-- A timer notification that the root has not handled. -/
  pending : Bool := false
  pulses : Nat := 0
  call : Option Call := none
  waits : List Wait := []
  /-- The arms since the last notification handled. -/
  arms : List Arm := []
  /-- The clock and the relative timeout of everything the driver was given. -/
  sets : List (Nat × Nat) := []
  /-- The waits that returned for their timeout, and when. -/
  timedOut : List (Wait × Nat) := []
  deriving DecidableEq, Repr

inductive Action where
  | tick (later : Nat)
  | fire
  | restart
  /-- The root handles the timer's notification, or is woken otherwise. -/
  | notified
  | pulse
  | pump
  | drain
  | begin (call : Timed)
  /-- A wait looks again: at its word, generation or descriptors, and then at the clock. -/
  | recheck (wait : Wait) (changed : Bool)
  /-- The two timer calls of `beam_timer_arm`. -/
  | timeNow
  | setTimeout
  deriving DecidableEq, Repr

/-- The driver stores the sum without a check. -/
def driverSetTimeout (state : State) (relativeNs : Nat) : State :=
  { state with
    timeout := some ((state.clock + relativeNs) % 2 ^ 64)
    sets := (state.clock, relativeNs) :: state.sets }

/-- `beam_timer_arm`, from the timer's reading on. -/
def beamTimerArm (state : State) (deadlineNs nowNs : Nat) : State :=
  let state := { state with
    call := none
    arms := ⟨deadlineNs, nowNs, state.clock⟩ :: state.arms }
  match runtimeTimerSlotUpdate state.slot nowNs deadlineNs with
  | none => state
  | some (slot, relativeNs) => driverSetTimeout { state with slot } relativeNs

/-- One look of a wait's loop. A poll call arms and parks at first, and returns after one
pulse whatever it finds. -/
def recheck (raw : Nat) (state : State) (wait : Wait) (changed : Bool) : State :=
  let waits := state.waits.erase wait
  let park : State := { state with
    waits := { wait with parked := some state.pulses } :: waits
    call := some (.offered (wait.call.deadline raw wait.begun)) }
  if changed then { state with waits }
  else if wait.call.readsClock = false ∧ wait.parked = none then park
  else if wait.call.expired raw wait.begun state.clock then
    { state with waits, timedOut := (wait, state.clock) :: state.timedOut }
  else park

/-- The clock runs and the driver acts at any time; the PD's own steps come one at a time,
and none while an arm is under way. -/
def step (raw : Nat) (state : State) : Action → Option State
  | .tick later =>
      if state.clock ≤ later ∧ later ≤ uint64Max then some { state with clock := later }
      else none
  | .fire =>
      match state.timeout with
      | none => none
      | some due =>
          if due ≤ state.clock then some { state with timeout := none, pending := true } else none
  | .restart =>
      some { state with timeout := none, pending := state.pending || state.timeout.isSome }
  | .timeNow =>
      match state.call with
      | some (.offered deadlineNs) =>
          some { state with call := some (.timed deadlineNs state.clock) }
      | _ => none
  | .setTimeout =>
      match state.call with
      | some (.timed deadlineNs nowNs) => some (beamTimerArm state deadlineNs nowNs)
      | _ => none
  | action =>
      if state.call ≠ none then none
      else
        match action with
        | .notified =>
            if state.pending then
              some { state with
                slot := 0
                pending := false
                arms := []
                pulses := state.pulses + 1 }
            else none
        | .pulse => some { state with pulses := state.pulses + 1 }
        | .pump => some { state with call := some (.offered ((state.clock + netTimeout) % 2 ^ 64)) }
        | .drain => some { state with call := some (.offered state.clock) }
        | .begin call =>
            if call.valid then
              some { state with waits := { call, begun := state.clock } :: state.waits }
            else none
        | .recheck wait changed =>
            if wait ∈ state.waits ∧ wait.parked.all (· < state.pulses) then
              some (recheck raw state wait changed)
            else none
        | _ => none

def run (raw : Nat) : State → List Action → Option State
  | state, [] => some state
  | state, action :: rest => (step raw state action).bind fun next => run raw next rest

end Chrysopolis.Beam.Timer
