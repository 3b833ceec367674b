import Chrysopolis.Codegen.Validate

/-! The coverage that validation asks of a list of check tables: it leaves no reserved byte of a
record and no publication sequence unchecked. -/

set_option autoImplicit false

namespace Chrysopolis.Codegen.CheckTable

open Chrysopolis.Support
open Chrysopolis.Support.Fallible (require eachAfter)
open Chrysopolis.Abi (Span IntAt)

def isReservedName (name : String) : Bool :=
  "reserved".toList.isPrefixOf name.toList || "pad".toList.isPrefixOf name.toList

/-- A field of `reservedLeaves`, with the walk over a record nested there. -/
def fieldLeaves (description : Description)
    (walk : Record → Nat → List Span → Except (Option Error) (List Span)) (base : Nat)
    (out : List Span) (field : Field) : Except (Option Error) (List Span) :=
  if field.isRecord then
    (findRecord description.records field.element).elim (.error (some .unknownCheckedRecord))
      fun nested => walk nested (base + field.offset) out
  else if isReservedName field.name then
    if out.length = 64 then .error (some .tooManyReservedLeaves)
    else .ok (out ++ [⟨base + field.offset, field.size⟩])
  else .ok out

/-- The reserved and padding leaves of a record, in the first instance of each row. Records nest
down to a depth; a walk that is deeper stops without an error, as the stack does. -/
def reservedLeaves (description : Description) :
    Nat → Record → Nat → List Span → Except (Option Error) (List Span)
  | 0, _, _, _ => .error none
  | depth + 1, record, base, out =>
      record.fields.foldlM (fieldLeaves description (reservedLeaves description depth) base) out

/-- The scalar leaf at an offset of the first instance of its rows. -/
def fieldAt (description : Description) : Nat → Record → Nat → Option String
  | 0, _, _ => none
  | depth + 1, record, offset => do
      let field ← record.fields.find? fun field =>
        decide (field.offset ≤ offset ∧ offset < field.offset + field.size)
      if !field.isRecord then
        if offset = field.offset then some field.name else none
      else
        let nested ← findRecord description.records field.element
        fieldAt description depth nested ((offset - field.offset) % (field.size / field.count))

def Check.zeroSpan : Check → Option Span
  | zero span => some span
  | _ => none

def Check.seqlockAt : Check → Option IntAt
  | seqlock int => some int
  | _ => none

/-- Whether a zero rule of a record's checkers covers a span. -/
def covered (list : List Checker) (record : String) (leaf : Span) : Bool :=
  list.any fun other => other.record == record && other.rules.any fun rule =>
    rule.check.zeroSpan.any fun span =>
      (scopeExtent other rule.scope).1 + span.offset == leaf.offset && span.len == leaf.len

/-- Acks, the bank index and the journal head are counters, not seqlocks. -/
def isCounter (field : String) : Bool :=
  "_ack".toList.isSuffixOf field.toList || field == "active_bank" || field == "published_seq"

/-- Whether a seqlock rule reads a field of this name. -/
def sequenced (depth : Nat) (list : List Checker) (description : Description) (name : String) :
    Bool :=
  list.any fun checker => checker.rules.any fun rule => rule.check.seqlockAt.any fun int =>
    (findRecord description.records checker.record).any fun record =>
      fieldAt description depth record ((scopeExtent checker rule.scope).1 + int.offset) ==
        some name

def validateReserved (depth : Nat) (list : List Checker) (description : Description)
    (checker : Checker) : Except (Option Rejection) Unit := do
  let record ← (findRecord description.records checker.record).elim
    (.error (some ⟨checker.name, "checked record exists", .unknownCheckedRecord⟩)) .ok
  let leaves ← (reservedLeaves description depth record 0 []).mapError fun stopped =>
    stopped.map fun error => ⟨checker.record, "reserved fields are enumerable", error⟩
  leaves.forM fun leaf =>
    require (covered list checker.record leaf = true)
      (some ⟨checker.record, "every reserved span has a zero rule", .uncoveredReserved⟩)

/-- Every reserved span has a zero rule, every publication sequence a seqlock rule. -/
def validateCoverage (depth : Nat) (list : List Checker) (description : Description) :
    Except (Option Rejection) Unit := do
  list.forM (validateReserved depth list description)
  Layout.atomicNames.forM fun atomic =>
    require (isCounter atomic.field = true ∨
        sequenced depth list description atomic.field = true)
      (some ⟨atomic.record, "publication sequence has a seqlock rule", .missingSeqlockRule⟩)

/-- A round of the loop of `validateChecks`. -/
def validateNamed (description : Description) (before : List Checker) (checker : Checker) :
    Except (Option Rejection) Unit := do
  require (∀ prior ∈ before, prior.name ≠ checker.name)
    (some ⟨checker.name, "unique checker names", .duplicateChecker⟩)
  (validateChecker checker description).mapError some

def validateChecks (depth : Nat) (list : List Checker) (description : Description) :
    Except (Option Rejection) Unit := do
  eachAfter (validateNamed description) [] list
  validateCoverage depth list description

end Chrysopolis.Codegen.CheckTable
