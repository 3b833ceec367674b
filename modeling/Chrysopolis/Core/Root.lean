import Chrysopolis.Core.Command

/-! `chryso_root.erl`: Root as one Mealy machine, composed of the policy, the spec and the
command the way `main.c` composes the C units. -/

set_option autoImplicit false

namespace Chrysopolis.Core

/-- The image constants a Root starts from. -/
structure Config where
  mapped : Bool
  now : Nat
  tokens : Nat
  refill : Nat
  hardMax : Nat
  entry : Nat
  pp : Nat
  beam : Nat
  present : Nat
  drivers : Nat
  compiled : List Nat
  generation : Nat
  incarnation : Nat
  seq : Nat
  abi : Nat
  cntfrq : Nat
  deriving DecidableEq, Repr

/-- One refresh-and-decide, as Root publishes it. -/
structure Decided where
  child : Nat
  action : Action
  record : Record
  spec : SpecResult
  retained : SpecPolicy
  seq : Nat
  deriving DecidableEq, Repr

/-- One command's reply; a refused frame tells no tokens. -/
structure Reply where
  result : Result
  values : Words
  tokens : Option Nat := none
  deriving DecidableEq, Repr

/-- Root's whole modelled state. -/
structure Root where
  config : Config
  records : Nat → Option Record
  spec : SpecState
  command : CommandState
  seq : Nat
  incarnation : Nat

def kindRestart : Nat := 3
def kindGiveup : Nat := 5

namespace ChrysoRoot

/-- `new/1`: every child live, the compiled policy, a full bucket. -/
def new (config : Config) : Root :=
  { config
    records := fun child => if child < config.compiled.length then some {} else none
    spec := {}
    command := { bucket := .new config.tokens config.refill config.now true }
    seq := config.seq
    incarnation := config.incarnation }

/-- `view/1` -/
def view (root : Root) : View :=
  { abi := root.config.abi
    generation := root.config.generation
    incarnation := root.incarnation
    cntfrq := root.config.cntfrq
    seq := root.seq
    publishing := root.config.mapped
    present := root.config.present
    drivers := root.config.drivers
    records := root.records }

/-- `decide/3`: refresh the spec, plan, commit, publish. -/
def decide (root : Root) (child : Nat) (page : Page) : Option (Decided × Root) := do
  let compiled ← root.config.compiled[child]?
  let held ← root.records child
  let consumed := Spec.consume page root.spec
  let budget := Spec.budget consumed.2 child compiled root.config.hardMax
  let (action, record) := Policy.step held budget root.config.entry
  -- Every decision publishes while the status page is mapped.
  let seq := if root.config.mapped then root.seq + 2 else root.seq
  return (
    { child, action, record, spec := consumed.1, retained := consumed.2.retained, seq },
    { root with
      records := Function.update root.records child (some record)
      spec := consumed.2
      seq
      -- A resumed BEAM is a new BEAM incarnation.
      incarnation :=
        if child = root.config.beam ∧ action = .resume then root.incarnation + 1
        else root.incarnation })

/-- `fault/4` -/
def fault (root : Root) (child : Nat) (page : Page) (_now : Nat) : Option (Decided × Root) :=
  decide root child page

/-- The reply to an accepted restart that was carried out. -/
def answered (decision : CommandDecision) (decided : Decided) : CommandDecision :=
  { decision with
    values :=
      { w0 := if decided.action = .resume then kindRestart else kindGiveup
        w1 := decision.values.w1
        w2 := decided.record.lifetime
        w3 := decided.seq } }

/-- `act/3`: an accepted restart without a page is an error. -/
def act (decision : CommandDecision) (root : Root) (page : Option Page) :
    Option (Reply × Option Decided × Root) :=
  match decision.action with
  | none => some (⟨decision.result, decision.values, some root.command.bucket.tokens⟩, none, root)
  | some child => do
      let (decided, next) ← decide root child (← page)
      if decided.action = .ignoreGone then
        return (⟨.refused, decision.values, some next.command.bucket.tokens⟩, some decided, next)
      else
        let reply := answered decision decided
        let completed := Command.complete next.command reply
        return (⟨.ok, reply.values, some completed.bucket.tokens⟩, some decided,
          { next with command := completed })

/-- `command/6` -/
def command (root : Root) (op count : Nat) (args : Words) (now : Nat) (page : Option Page) :
    Option (Reply × Option Decided × Root) :=
  let framed := Command.frame root.command root.config.pp root.config.pp op count
  if framed.1 = .ok then do
    let decided ← Command.decide framed.2 (view root) op args now true
    act decided.1 { root with command := decided.2 } page
  else return ({ result := framed.1, values := {} }, none, { root with command := framed.2 })

end ChrysoRoot

end Chrysopolis.Core
