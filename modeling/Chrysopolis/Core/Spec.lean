import Mathlib.Algebra.GroupWithZero.Nat

/-! `chryso_root_policy.erl` and `chryso_root_spec.erl`: the fault policy of one child, and which
committed spec Root uses. The page arrives as the codec classifies it. -/

set_option autoImplicit false

namespace Chrysopolis.Core

/-! ### One child -/

inductive ChildState where
  | live
  | gone
  deriving DecidableEq, Repr

/-- One child's restart record. `new/0` is the default. -/
structure Record where
  state : ChildState := .live
  lifetime : Nat := 0
  deriving DecidableEq, Repr

/-- What Root does with a fault or an accepted restart request. -/
inductive Action where
  | resume
  | giveupBudget
  | giveupNoEntry
  | ignoreGone
  deriving DecidableEq, Repr

namespace Policy

/-- `budget/3`: the compiled ceiling without a spec or for its entry 0, else the entry capped. -/
def budget : Option Nat → Nat → Nat → Nat
  | none, compiled, _ => compiled
  | some 0, compiled, _ => compiled
  | some specBudget, _, hardMax => min specBudget hardMax

/-- `step/3`: gone, then the budget, then the entry. -/
def step (record : Record) (budget entry : Nat) : Action × Record :=
  if record.state = .gone then (.ignoreGone, record)
  else if record.lifetime ≥ budget then (.giveupBudget, { record with state := .gone })
  else if entry = 0 then (.giveupNoEntry, { record with state := .gone })
  else (.resume, { record with lifetime := record.lifetime + 1 })

end Policy

/-! ### The spec page -/

local instance bank_neZero : NeZero 2 := ⟨by decide⟩

/-- Why a header or bank was not used. -/
inductive Reason where
  | unset | header | bankTorn | bankChecksum | bankMalformed | undeclaredChild | regressed
  | conflict | unstableCopy
  deriving DecidableEq, Repr

/-- One bank as the codec sees it: never sealed, rejected by the checker, or a sealed
generation with its per-child budgets and desired states. -/
inductive Candidate where
  | empty
  | rejected (reason : Reason) (generation : Nat)
  | bank (generation : Nat) (budgets desired : List Nat)
  deriving DecidableEq, Repr

/-- Unmapped or zero, a bad header, or the active bank and the other one. -/
inductive Page where
  | absent
  | header
  | banks (active : Fin 2) (activeBank otherBank : Candidate)
  deriving DecidableEq, Repr

inductive SpecOutcome where
  | absent | applied | unchanged | kept
  deriving DecidableEq, Repr

/-- A policy Root applied. Generation 0 is the compiled-in policy. -/
structure SpecPolicy where
  generation : Nat := 0
  bank : Fin 2 := 0
  budgets : List Nat := []
  desired : List Nat := []
  deriving DecidableEq, Repr

/-- The retained policy and the last reported rejection. `new/0` is the default. -/
structure SpecState where
  retained : SpecPolicy := {}
  last : Reason × Nat × Fin 2 := (.unset, 0, 0)
  deriving DecidableEq, Repr

structure SpecResult where
  outcome : SpecOutcome
  reason : Reason
  record : Bool
  deriving DecidableEq, Repr

/-- What a bank read is; one not read (`skipped`) has none. -/
inductive Kind where
  | empty | rejected | same | newer
  deriving DecidableEq, Repr

structure Classified where
  kind : Kind
  reason : Reason := .unset
  generation : Nat := 0
  policy : Option SpecPolicy := none
  deriving DecidableEq, Repr

inductive Choice where
  | none | active | other
  deriving DecidableEq, Repr

namespace Spec

def sameContent (left right : SpecPolicy) : Bool :=
  left.budgets == right.budgets && left.desired == right.desired

/-- `classify/3` -/
def classify (candidate : Candidate) (bank : Fin 2) (retained : SpecPolicy) : Classified :=
  match candidate with
  | .empty => { kind := .empty }
  | .rejected reason generation => { kind := .rejected, reason, generation }
  | .bank generation budgets desired =>
      let policy : SpecPolicy := { generation, bank, budgets, desired }
      if generation < retained.generation then
        { kind := .rejected, reason := .regressed, generation }
      else if generation = retained.generation then
        if sameContent policy retained then { kind := .same, generation, policy := some policy }
        else { kind := .rejected, reason := .conflict, generation }
      else { kind := .newer, generation, policy := some policy }

/-- `select/2` -/
def select : Kind → Option Kind → SpecOutcome × Choice
  | .newer, _ => (.applied, .active)
  | .same, _ => (.unchanged, .active)
  | .empty, some .same => (.unchanged, .other)
  | .empty, some .newer => (.applied, .other)
  | .empty, _ => (.absent, .none)
  | .rejected, some .same => (.unchanged, .other)
  | .rejected, some .newer => (.applied, .other)
  | .rejected, _ => (.kept, .none)

/-- `finish/5` -/
def finish (outcome : SpecOutcome) (reason : Reason) (generation : Nat) (bank : Fin 2)
    (state : SpecState) : SpecResult × SpecState :=
  if reason = .unset then
    ({ outcome, reason := .unset, record := false }, { state with last := (.unset, 0, 0) })
  else
    let key := (reason, generation, bank)
    ({ outcome, reason, record := key != state.last }, { state with last := key })

/-- `consume/2`: one refresh of the page. -/
def consume (page : Page) (state : SpecState) : SpecResult × SpecState :=
  match page with
  | .absent => finish .absent .unset 0 0 state
  | .header => finish .kept .header 0 0 state
  | .banks active activeBank otherBank =>
      let first := classify activeBank active state.retained
      let second :=
        if first.kind = .empty ∨ first.kind = .rejected then
          some (classify otherBank (1 - active) state.retained)
        else none
      let pick := select first.kind (second.map (·.kind))
      -- Only a newer bank is applied, and it carries its policy.
      let retained :=
        match pick with
        | (.applied, .active) => first.policy.getD state.retained
        | (.applied, .other) => (second.bind (·.policy)).getD state.retained
        | _ => state.retained
      let rejection :=
        if first.kind = .rejected then (first.reason, first.generation) else (.unset, 0)
      finish pick.1 rejection.1 rejection.2 active { state with retained }

/-- `budget/4`: the lifetime ceiling the retained policy gives a child. -/
def budget (state : SpecState) (child compiled hardMax : Nat) : Nat :=
  if state.retained.generation = 0 then Policy.budget none compiled hardMax
  else Policy.budget (some (state.retained.budgets[child]?.getD 0)) compiled hardMax

end Spec

end Chrysopolis.Core
