import Chrysopolis.Beam.CtlDevice
import Chrysopolis.Root.Main

/-! The control path: `/dev/chrysoctl` in BEAM over Root's protected procedure. A write is one
synchronous call, and a restart of BEAM zeroes the owner of the device. -/

set_option autoImplicit false

namespace Chrysopolis.Control

open Chrysopolis.Abi
open Chrysopolis.Support
open Chrysopolis.Root
open Chrysopolis.Beam

/-! ### The call -/

/-- The message registers as `protected` reads them. -/
def wordsOf (args : Vector UInt64 4) : CommandWords := ⟨args[0], args[1], args[2], args[3]⟩

/-- `root_command_reply` of what Root did last. -/
def answerOf (acts : List RootAct) : PpcAnswer :=
  match acts.getLast? with
  | some (.reply result values) =>
      { label := .ofNat result.tag
        words := .ofNat rootCommandWords
        registers := #v[values.w0, values.w1, values.w2, values.w3] }
  | _ => { label := 0, words := 0, registers := .replicate 4 0 }

/-- What a call of the device asks Root, with the spec page and the counter it reads. -/
def callInput (call : CtlCall) (spec : SpecPageRead) (reads : Reads) : RootInput :=
  { callback := .protectedCall controlPpChannelRoot call.opcode.toUInt64 (.ofNat runtimeCtlWords)
      (wordsOf call.args)
    spec
    reads }

/-! ### The system -/

structure State where
  root : RootState
  owner : CtlOwner

inductive Action where
  /-- A callback of Root that BEAM does not make. -/
  | root (input : RootInput)
  | opens (readWrite callable : Bool) (alloc : Except Nat Int)
  | writes (fd : Int) (data : Option Memory) (count : Nat) (spec : SpecPageRead) (reads : Reads)
  | reads (fd : Int) (data : Option Memory) (count : Nat)
  | closes (fd : Int)

/-- What happened on the device. -/
inductive Event where
  | opened (fd : Int)
  | called (fd : Int) (call : CtlCall) (answer : PpcAnswer)
  /-- The bytes a read left in its buffer. -/
  | read (fd : Int) (bytes : Memory)
  | closed (fd : Int)
  /-- Root has resumed BEAM at its reset entry. -/
  | restarted

/-- Root resumed BEAM, which starts over. -/
def restartsBeam (acts : List RootAct) : Bool :=
  acts.any fun
    | .pdRestart child entry => child = childBeam ∧ entry ≠ 0
    | _ => false

/-- One step: the state it leaves, with what happened, if anything. -/
def step (config : Config) (state : State) : Action → State × List Event
  | .root input =>
      match input.callback with
      -- The device is the one caller of the protected procedure.
      | .protectedCall .. => (state, [])
      | _ =>
          let (root, acts) := rootStep config state.root input
          if restartsBeam acts then ({ root, owner := {} }, [.restarted])
          else ({ state with root }, [])
  | .opens readWrite callable alloc =>
      match ctlOpen state.owner readWrite callable alloc with
      | (owner, .ok fd) => ({ state with owner }, [.opened fd])
      | (owner, .error _) => ({ state with owner }, [])
  | .writes fd data count spec reads =>
      match (runtimeCtlWrite state.owner fd data count).2 with
      | .error _ => ({ state with owner := (runtimeCtlWrite state.owner fd data count).1 }, [])
      | .ok call =>
          let (root, acts) := rootStep config state.root (callInput call spec reads)
          let owner := (ctlWrite state.owner fd data count fun _ => answerOf acts).1
          ({ root, owner }, [.called fd call (answerOf acts)])
  | .reads fd data count =>
      match ctlRead state.owner fd data count with
      | (owner, .ok (_, bytes)) => ({ state with owner }, [.read fd bytes])
      | (owner, .error _) => ({ state with owner }, [])
  | .closes fd =>
      ({ state with owner := ctlClose state.owner fd },
        if (runtimeCtlClose state.owner fd).2 = .ok then [.closed fd] else [])

/-- The state after a run, with what happened, the newest event first. -/
def run (config : Config) : State × List Event → List Action → State × List Event
  | (state, log), [] => (state, log)
  | (state, log), action :: rest =>
      let (next, events) := step config state action
      run config (next, events ++ log) rest

/-- The system once Root has started. -/
def boot (config : Config) (start : Boot) : State × List Event :=
  ({ root := (rootInit config start).1, owner := {} }, [])

end Chrysopolis.Control
