import Chrysopolis.Core.Bucket
import Chrysopolis.Core.Spec

/-! `chryso_root_command.erl`: frame checks, the token bucket, the retry fence and the reply
values. A map or clause the source fails on is `none`. -/

set_option autoImplicit false

namespace Chrysopolis.Core

/-- A reply result, as `CtlResult` names it. -/
inductive Result where
  | ok | refused | rateLimited | badArg | badVersion | alreadyDone | stale
  deriving DecidableEq, Repr

/-- The four words of a command or a reply. -/
structure Words where
  w0 : Nat := 0
  w1 : Nat := 0
  w2 : Nat := 0
  w3 : Nat := 0
  deriving DecidableEq, Repr

def Words.toList (words : Words) : List Nat := [words.w0, words.w1, words.w2, words.w3]

/-- Root's state as a command sees it, sampled per call. -/
structure View where
  abi : Nat
  generation : Nat
  incarnation : Nat
  cntfrq : Nat
  seq : Nat
  publishing : Bool
  present : Nat
  drivers : Nat
  records : Nat → Option Record

/-- One decided command, with the child an accepted restart names. -/
structure CommandDecision where
  result : Result
  action : Option Nat := none
  opcode : Nat
  args : Words
  values : Words := {}
  deriving DecidableEq, Repr

inductive OpcodeClass where
  | invalid | handshake | barrier | preconditioned | slot
  deriving DecidableEq, Repr

inductive Fence where
  | empty
  | completed (opcode : Nat) (args values : Words)
  deriving DecidableEq, Repr

/-- Bucket, fence and tallies. `new/1` is the default around a bucket. -/
structure CommandState where
  bucket : Bucket
  fence : Fence := .empty
  accepted : Nat := 0
  rateLimited : Nat := 0
  rejected : Nat := 0
  deriving DecidableEq, Repr

namespace Command

def words : Nat := 4
def childCount : Nat := 62
def maskBits : Nat := 64

/-- `class/1` -/
def classOf (opcode : Nat) : OpcodeClass :=
  if opcode = 1 then .handshake
  else if opcode = 2 then .preconditioned
  else if 3 ≤ opcode ∧ opcode ≤ 6 then .slot
  else if opcode = 7 then .barrier
  else .invalid

/-- `unused/1`: the words each opcode leaves zero, bit i for word i. -/
def unused (opcode : Nat) : Nat :=
  if opcode = 1 then 0b1110 else if opcode = 7 then 0b1111 else 0

/-- `malformed/2` -/
def malformed (opcode : Nat) (args : Words) : Bool :=
  classOf opcode == .invalid ||
    args.toList.zipIdx.any fun word => (unused opcode).testBit word.2 && word.1 != 0

/-- `valid_child/2` -/
def validChild (raw present : Nat) : Bool :=
  raw < childCount && raw < maskBits && present.testBit raw

/-- `is_driver/2` -/
def isDriver (child drivers : Nat) : Bool := drivers.testBit child

/-- `tally/2` -/
def tally (result : Result) (state : CommandState) : CommandState :=
  match result with
  | .ok | .alreadyDone => { state with accepted := state.accepted + 1 }
  | .rateLimited => { state with rateLimited := state.rateLimited + 1 }
  | _ => { state with rejected := state.rejected + 1 }

/-- `reply/2` -/
def reply (decision : CommandDecision) (state : CommandState) : CommandDecision × CommandState :=
  (decision, tally decision.result state)

/-- `frame/5`: transport checks before any word is read. -/
def frame (state : CommandState) (channel ppChannel label count : Nat) : Result × CommandState :=
  if channel ≠ ppChannel then (.refused, { state with rejected := state.rejected + 1 })
  else if count = words ∧ classOf label ≠ .invalid then (.ok, state)
  else (.badArg, { state with rejected := state.rejected + 1 })

/-- The stored values when the fence holds exactly this command. -/
def repeats (fence : Fence) (opcode : Nat) (args : Words) : Option Words :=
  match fence with
  | .empty => none
  | .completed memoOpcode memoArgs values =>
      if memoOpcode = opcode ∧ memoArgs = args then some values else none

/-- A live driver, while Root publishes. -/
def usable (raw : Nat) (record : Record) (view : View) : Bool :=
  isDriver raw view.drivers && record.state == .live && view.publishing

/-- The words name what Root publishes. -/
def fresh (args : Words) (record : Record) (view : View) : Bool :=
  args.w1 == view.generation && args.w2 == view.seq && args.w3 == record.lifetime

/-- `restart/3` -/
def restart (decision : CommandDecision) (state : CommandState) (view : View) :
    Option CommandDecision :=
  match repeats state.fence decision.opcode decision.args with
  | some values => some { decision with result := .alreadyDone, values }
  | none =>
      let raw := decision.args.w0
      if !(raw ≤ 0xFFFFFFFF && validChild raw view.present) then
        some { decision with result := .badArg }
      else do
        let record ← view.records raw
        return match usable raw record view, fresh decision.args record view with
          | false, _ => { decision with result := .refused }
          | true, false =>
              { decision with
                result := .stale
                values := ⟨view.generation, view.seq, record.lifetime, 0⟩ }
          | true, true => { decision with result := .ok, action := some raw }

/-- `by_class/4` -/
def byClass (kind : OpcodeClass) (decision : CommandDecision) (state : CommandState)
    (view : View) : Option (CommandDecision × CommandState) :=
  match kind with
  | .handshake =>
      some (reply
        { decision with
          result := if decision.args.w0 = view.abi then .ok else .badVersion
          values := ⟨view.abi, view.generation, view.incarnation, view.cntfrq⟩ } state)
  | .barrier =>
      if !view.publishing then some (reply { decision with result := .refused } state)
      else
        -- Counted first so the reply includes this SYNC.
        let counted := tally .ok state
        some ({ decision with
          result := .ok
          values := ⟨view.seq, counted.accepted, counted.rateLimited, counted.rejected⟩ }, counted)
  | .preconditioned => (restart decision state view).map (reply · state)
  | .slot => some (reply { decision with result := .refused } state)
  | .invalid => none

/-- `decide/6`: a framed command at a clock sample. -/
def decide (state : CommandState) (view : View) (opcode : Nat) (args : Words) (now : Nat)
    (nowValid : Bool) : Option (CommandDecision × CommandState) :=
  let decision : CommandDecision := { result := .ok, opcode, args }
  if malformed opcode args then some (reply { decision with result := .badArg } state)
  else
    let taken := state.bucket.take ⟨now, nowValid⟩
    if !taken.1 then
      some (reply { decision with result := .rateLimited } { state with bucket := taken.2 })
    else byClass (classOf opcode) decision { state with bucket := taken.2 } view

/-- `complete/2`: an identical retry of a performed action is already done. -/
def complete (state : CommandState) (decision : CommandDecision) : CommandState :=
  match decision.action with
  | none => state
  | some _ =>
      { state with fence := .completed decision.opcode decision.args decision.values }

end Command

end Chrysopolis.Core
