import Mathlib.Data.Fintype.Fin

/-! The ARM timer driver as patched for restarts. Init tells the clients whose timeouts are
lost and then forgets them; a restart begins init anew with `.bss` as it was. -/

set_option autoImplicit false

namespace Chrysopolis.ArmTimer

/-- `UINT64_MAX`, the entry of a channel without a timeout. -/
def unarmed : UInt64 := 0xFFFFFFFFFFFFFFFF

-- `MAX_TIMEOUTS`
variable {maxTimeouts : Nat}

/-- Where the driver's thread stands. -/
inductive Phase where
  /-- At the entry of `init`. -/
  | entry
  /-- In the loop of `init` that notifies lost timeouts, before this index. -/
  | telling (index : Nat)
  /-- Before `initialised = true`. -/
  | marking
  /-- In the loop of `init` that clears the entries, before this index. -/
  | clearing (index : Nat)
  /-- In the rest of `init`: the compare register, the frequency and the IRQ. -/
  | enabling
  /-- In the receive loop. -/
  | idle
  /-- In `process_timeouts`, before this index. -/
  | processing (index : Nat) (now : UInt64)
  /-- In `process_timeouts`, between a notification and the clear of its entry. -/
  | notified (index : Nat) (now : UInt64)
  deriving DecidableEq, Repr

/-- What clients see of the driver: a timeout it took, and a notification of it. -/
inductive Event (maxTimeouts : Nat) where
  | accepted (channel : Fin maxTimeouts) (deadline : UInt64)
  | notified (channel : Fin maxTimeouts)
  deriving DecidableEq, Repr

structure State (maxTimeouts : Nat) where
  timeouts : Fin maxTimeouts → UInt64
  initialised : Bool
  phase : Phase
  /-- The events since the cold boot, the newest first. -/
  log : List (Event maxTimeouts)

/-- Zeroed memory, and `init` not begun. -/
def boot : State maxTimeouts where
  timeouts := fun _ => 0
  initialised := false
  phase := .entry
  log := []

inductive Action (maxTimeouts : Nat) where
  /-- The driver's thread takes its next step. -/
  | advance
  /-- A timer interrupt: `notified` on the driver's IRQ channel. -/
  | interrupt (now : UInt64)
  /-- A client's call: `protected` with `SDDF_TIMER_SET_TIMEOUT`. -/
  | setTimeout (channel : Fin maxTimeouts) (deadline now : UInt64)
  /-- Root restarts the driver, wherever it stands. -/
  | restart
  deriving DecidableEq, Repr

/-- `timeouts[channel] = deadline` -/
def State.store (state : State maxTimeouts) (channel : Fin maxTimeouts) (deadline : UInt64) :
    State maxTimeouts :=
  { state with timeouts := Function.update state.timeouts channel deadline }

/-- `sddf_notify(channel)` -/
def State.notify (state : State maxTimeouts) (channel : Fin maxTimeouts) : State maxTimeouts :=
  { state with log := .notified channel :: state.log }

-- Whether `process_timeouts` finds an entry due at a time.
variable (due : UInt64 → UInt64 → Bool)

/-- One step of the driver's thread, by where it stands. -/
def advance (state : State maxTimeouts) : Option (State maxTimeouts) :=
  match state.phase with
  | .entry =>
      some { state with phase := if state.initialised then .telling 0 else .marking }
  | .telling index =>
      if bound : index < maxTimeouts then
        let told := if state.timeouts ⟨index, bound⟩ ≠ unarmed then state.notify ⟨index, bound⟩
          else state
        some { told with phase := .telling (index + 1) }
      else some { state with phase := .marking }
  | .marking => some { state with initialised := true, phase := .clearing 0 }
  | .clearing index =>
      if bound : index < maxTimeouts then
        some { state.store ⟨index, bound⟩ unarmed with phase := .clearing (index + 1) }
      else some { state with phase := .enabling }
  | .enabling => some { state with phase := .idle }
  | .idle => none
  | .processing index now =>
      if bound : index < maxTimeouts then
        if due (state.timeouts ⟨index, bound⟩) now then
          some { state.notify ⟨index, bound⟩ with phase := .notified index now }
        else some { state with phase := .processing (index + 1) now }
      else some { state with phase := .idle }
  | .notified index now =>
      if bound : index < maxTimeouts then
        some { state.store ⟨index, bound⟩ unarmed with phase := .processing (index + 1) now }
      else none

/-- Interrupts and calls are taken in the receive loop, a restart anywhere. -/
def step (state : State maxTimeouts) : Action maxTimeouts → Option (State maxTimeouts)
  | .advance => advance due state
  | .interrupt now =>
      if state.phase = .idle then some { state with phase := .processing 0 now } else none
  | .setTimeout channel deadline now =>
      if state.phase = .idle then
        some { state.store channel deadline with
          phase := .processing 0 now
          log := .accepted channel deadline :: state.log }
      else none
  | .restart => some { state with phase := .entry }

def run : State maxTimeouts → List (Action maxTimeouts) → Option (State maxTimeouts)
  | state, [] => some state
  | state, action :: rest => (step due state action).bind fun next => run next rest

end Chrysopolis.ArmTimer
