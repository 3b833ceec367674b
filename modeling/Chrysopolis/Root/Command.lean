import Chrysopolis.Root.Policy

/-! Root's command decisions: frame checks, the token bucket, retry fencing and
reply values. A decision is pure; the caller performs an accepted restart and
then completes it. -/

set_option autoImplicit false

namespace Chrysopolis.Root

open Chrysopolis.Abi

def rootCommandWords : Nat := 4

/-- The four words of a command or a reply. -/
structure CommandWords where
  w0 : UInt64 := 0
  w1 : UInt64 := 0
  w2 : UInt64 := 0
  w3 : UInt64 := 0
  deriving DecidableEq, Repr

def CommandWords.toList (words : CommandWords) : List UInt64 :=
  [words.w0, words.w1, words.w2, words.w3]

inductive RootCommandAction where
  | none
  /-- Restart the child through the shared budget path. -/
  | restart (child : RootChild)
  deriving DecidableEq, Repr

/-- The child an action restarts. -/
def RootCommandAction.target : RootCommandAction → Option RootChild
  | .none => Option.none
  | .restart child => some child

inductive RootCommandRefill where
  | running
  /-- Absorbing: only tokens already held are spent. -/
  | off
  deriving DecidableEq, Repr

inductive RootCommandFence where
  | empty
  | completed (opcode : UInt16) (args values : CommandWords)
  deriving DecidableEq, Repr

structure RootCommandState where
  refill : RootCommandRefill := .off
  capacity : UInt32 := 0
  tokens : UInt32 := 0
  intervalTicks : UInt64 := 0
  lastTicks : UInt64 := 0
  fence : RootCommandFence := .empty
  /-- Reply tallies SYNC reports. -/
  accepted : UInt64 := 0
  rateLimited : UInt64 := 0
  rejected : UInt64 := 0
  deriving DecidableEq, Repr

/-- Root's state as the command sees it. -/
structure RootCommandView where
  abiVersion : UInt64
  rootGeneration : UInt64
  beamIncarnation : UInt64
  cntfrq : UInt64
  seq : UInt64
  publishing : Bool
  presentMask : UInt64
  driverMask : UInt64
  records : RootChild → RootChildRecord

structure RootCommandDecision where
  result : CtlResult
  action : RootCommandAction := .none
  opcode : UInt16
  args : CommandWords
  values : CommandWords := {}
  deriving DecidableEq, Repr

inductive OpcodeClass where
  /-- Not a declared opcode. -/
  | invalid
  | handshake
  | barrier
  | preconditioned
  /-- Refused until pool slots are declared. -/
  | slot
  deriving DecidableEq, Repr

structure OpcodeRow where
  kind : OpcodeClass := .invalid
  /-- Words a well-formed request leaves zero, one bit per word. -/
  unused : Nat := 0
  deriving DecidableEq, Repr

def opcodeRow : PpOpcode → OpcodeRow
  | .unset => {}
  | .hello => ⟨.handshake, 0xe⟩
  | .restartChild => ⟨.preconditioned, 0⟩
  | .startSlot | .stopChild | .resumeChild | .reclaimSlot => ⟨.slot, 0⟩
  | .sync => ⟨.barrier, 0xf⟩

def opcodeRows : List OpcodeRow :=
  [PpOpcode.unset, .hello, .restartChild, .startSlot, .stopChild, .resumeChild, .reclaimSlot,
    .sync].map opcodeRow

def rowOf (label : UInt64) : OpcodeRow := opcodeRows.getD label.toNat {}

def rootCommandInit (capacity : UInt32) (refillTicks now : UInt64) (nowValid : Bool) :
    RootCommandState :=
  let full : RootCommandState := { capacity, tokens := capacity, lastTicks := now }
  if capacity ≠ 0 && refillTicks ≠ 0 && nowValid then
    -- Rounded up so tokens never arrive faster than the configured rate.
    { full with
      intervalTicks := refillTicks / capacity.toUInt64 +
        (if refillTicks % capacity.toUInt64 ≠ 0 then 1 else 0)
      refill := .running }
  else full

/-- Checks the transport before any message register is read. -/
def rootCommandFrame (state : RootCommandState) (channel ppChannel : UInt32)
    (label count : UInt64) : RootCommandState × CtlResult :=
  let result :=
    if channel ≠ ppChannel then .refused
    else if count ≠ UInt64.ofNat rootCommandWords ∨ (rowOf label).kind = .invalid then .badArg
    else .ok
  if result ≠ .ok then ({ state with rejected := state.rejected + 1 }, result)
  else (state, result)

/-- One clock sample through the refill machine. -/
def refillStep (state : RootCommandState) (now : UInt64) (nowValid : Bool) : RootCommandState :=
  match state.refill with
  | .off => state
  | .running =>
      if !nowValid || now < state.lastTicks then { state with refill := .off }
      else
        let due := (now - state.lastTicks) / state.intervalTicks
        if due = 0 then state
        else
          let room := (state.capacity - state.tokens).toUInt64
          if due ≥ room then { state with tokens := state.capacity, lastTicks := now }
          else
            { state with
              tokens := state.tokens + due.toUInt32
              lastTicks := state.lastTicks + due * state.intervalTicks }

/-- The stored values when the fence holds exactly this command. -/
def fenceRepeats (state : RootCommandState) (opcode : UInt16) (args : CommandWords) :
    Option CommandWords :=
  match state.fence with
  | .empty => none
  | .completed memoOpcode memoArgs memoValues =>
      if memoOpcode = opcode ∧ memoArgs = args then some memoValues else none

def decideRestart (state : RootCommandState) (view : RootCommandView)
    (decision : RootCommandDecision) : RootCommandDecision :=
  match fenceRepeats state decision.opcode decision.args with
  | some values => { decision with result := .alreadyDone, values }
  | none =>
      if decision.args.w0 > 0xFFFFFFFF then { decision with result := .badArg }
      else
        match rootChildFromRaw decision.args.w0.toUInt32 view.presentMask with
        | none => { decision with result := .badArg }
        | some child =>
            let record := view.records child
            if !maskBit view.driverMask child.val || record.state = .gone || !view.publishing then
              { decision with result := .refused }
            else if decision.args.w1 ≠ view.rootGeneration ∨ decision.args.w2 ≠ view.seq ∨
                decision.args.w3 ≠ record.lifetimeCount.toUInt64 then
              { decision with
                result := .stale
                values := ⟨view.rootGeneration, view.seq, record.lifetimeCount.toUInt64, 0⟩ }
            else { decision with result := .ok, action := .restart child }

def tally (state : RootCommandState) : CtlResult → RootCommandState
  | .ok | .alreadyDone => { state with accepted := state.accepted + 1 }
  | .rateLimited => { state with rateLimited := state.rateLimited + 1 }
  | _ => { state with rejected := state.rejected + 1 }

/-- Some word the opcode does not use is nonzero, or the opcode is not declared. -/
def malformed (row : OpcodeRow) (args : CommandWords) : Bool :=
  row.kind == .invalid ||
    args.toList.zipIdx.any fun word => row.unused.testBit word.2 && word.1 != 0

/-- The opcode's preconditions, after a token was spent. -/
def decideOpcode (state : RootCommandState) (view : RootCommandView) (kind : OpcodeClass)
    (decision : RootCommandDecision) : RootCommandState × RootCommandDecision :=
  match kind with
  | .handshake =>
      let decided :=
        { decision with
          result := if decision.args.w0 = view.abiVersion then .ok else .badVersion
          values := ⟨view.abiVersion, view.rootGeneration, view.beamIncarnation, view.cntfrq⟩ }
      (tally state decided.result, decided)
  | .barrier =>
      if !view.publishing then (tally state .refused, { decision with result := .refused })
      else
        -- Counted first so the reply includes this SYNC.
        let counted := tally state .ok
        (counted, { decision with
          result := .ok
          values := ⟨view.seq, counted.accepted, counted.rateLimited, counted.rejected⟩ })
  | .preconditioned =>
      let decided := decideRestart state view decision
      (tally state decided.result, decided)
  | .slot | .invalid => (tally state .refused, { decision with result := .refused })

/-- Decides a framed command: unused words, then one token, then the opcode. -/
def rootCommandDecide (state : RootCommandState) (view : RootCommandView) (opcode : UInt16)
    (args : CommandWords) (now : UInt64) (nowValid : Bool) :
    RootCommandState × RootCommandDecision :=
  let decision : RootCommandDecision := { result := .unset, opcode, args }
  let row := rowOf opcode.toUInt64
  if malformed row args then (tally state .badArg, { decision with result := .badArg })
  else
    let refilled := refillStep state now nowValid
    if refilled.tokens = 0 then
      (tally refilled .rateLimited, { decision with result := .rateLimited })
    else
      decideOpcode { refilled with tokens := refilled.tokens - 1 } view row.kind decision

/-- Records a performed action's reply so an identical retry is already done. -/
def rootCommandComplete (state : RootCommandState) (decision : RootCommandDecision) :
    RootCommandState :=
  match decision.action with
  | .none => state
  | .restart _ =>
      { state with fence := .completed decision.opcode decision.args decision.values }

end Chrysopolis.Root
