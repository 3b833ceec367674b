import Chrysopolis.Abi.Checks
import Chrysopolis.Root.Policy

/-! Reader side of the BEAM's spec page. Root copies the page once, validates the
copy, and commits a new policy in one assignment. -/

set_option autoImplicit false

namespace Chrysopolis.Root

open Chrysopolis.Abi
open Chrysopolis.Support

/-- The last policy Root applied. Generation 0 is the compiled-in policy. Budgets
and desired states are the raw bank values, zero for absent children. -/
structure RootSpecPolicy where
  generation : UInt64 := 0
  bank : UInt32 := 0
  crc32 : UInt32 := 0
  budget : RootChild → UInt32 := fun _ => 0
  desired : RootChild → UInt8 := fun _ => 0

inductive RootSpecOutcome where
  | absent | applied | unchanged | kept
  deriving DecidableEq, Repr

structure RootSpecResult where
  outcome : RootSpecOutcome
  /-- A rejection the caller has not been told about. -/
  record : Bool := false
  reason : RootSpecReject := .unset
  generation : UInt64 := 0
  bank : UInt32 := 0
  deriving DecidableEq, Repr

structure RootSpecState where
  retained : RootSpecPolicy := {}
  /-- The last recorded rejection, so a page that stays bad is reported once. -/
  lastReason : RootSpecReject := .unset
  lastGeneration : UInt64 := 0
  lastBank : UInt32 := 0

/-- What one read of the shared page sees: the marker words before the copy, the
copied bytes, and the marker words after it. -/
structure SpecPageRead where
  before : Memory
  copied : Memory
  after : Memory

/-- A read no write overlaps, the only kind the one-core image has. -/
def SpecPageRead.still (page : Memory) : SpecPageRead := ⟨page, page, page⟩

inductive CandidateKind where
  /-- `bank_seq` 0, or a sealed generation 0: nothing to apply, nothing wrong. -/
  | empty
  | rejected
  | same
  | newer
  /-- The other bank is not read once the active bank decides. -/
  | skipped
  deriving DecidableEq, Repr

inductive Choice where
  | none | active | other
  deriving DecidableEq, Repr

/-- What Root does for each (active bank, other bank) pair. -/
def selections : CandidateKind → CandidateKind → RootSpecOutcome × Choice
  | .empty, .empty => (.absent, .none)
  | .empty, .rejected => (.absent, .none)
  | .empty, .same => (.unchanged, .other)
  | .empty, .newer => (.applied, .other)
  | .empty, .skipped => (.absent, .none)
  | .rejected, .empty => (.kept, .none)
  | .rejected, .rejected => (.kept, .none)
  | .rejected, .same => (.unchanged, .other)
  | .rejected, .newer => (.applied, .other)
  | .rejected, .skipped => (.kept, .none)
  | .same, _ => (.unchanged, .active)
  | .newer, _ => (.applied, .active)
  -- The active bank is always read.
  | .skipped, _ => (.kept, .none)

structure Candidate where
  kind : CandidateKind
  reason : RootSpecReject := .unset
  generation : UInt64 := 0
  policy : RootSpecPolicy := {}

/-- `root_spec_init`: the compiled-in policy. -/
def rootSpecInit : RootSpecState := {}

def specBankAt (bank : Nat) : Nat := specHeaderSize + bank * specBankSize

def specActive (page : Memory) : Nat := page.load SpecHeaderField.activeBank.offset 4

def specBankSeq (page : Memory) (bank : Nat) : Nat :=
  page.load (specBankAt bank + SpecBankField.bankSeq.offset) 4

/-- The three marker words agree between two views of the page. -/
def sameMarkers (left right : Memory) : Bool :=
  specActive left == specActive right && specBankSeq left 0 == specBankSeq right 0 &&
    specBankSeq left 1 == specBankSeq right 1

/-- True when the markers were stable across the copy and the copy holds them. -/
def snapshot (shared : SpecPageRead) : Bool :=
  sameMarkers shared.after shared.before && sameMarkers shared.copied shared.before

/-- The policy a bank's bytes spell. -/
def bankPolicy (page : Memory) (bank : Nat) : RootSpecPolicy :=
  let at_ := specBankAt bank
  { generation := UInt64.ofNat (page.load (at_ + SpecBankField.generation.offset) 8)
    bank := UInt32.ofNat bank
    crc32 := UInt32.ofNat (page.load (at_ + SpecBankField.crc32.offset) 4)
    budget := fun child => UInt32.ofNat (page.load (at_ + (SpecBankField.budget child).offset) 4)
    desired := fun child => UInt8.ofNat (page.load (at_ + (SpecBankField.desired child).offset) 1) }

def sameContent (left right : RootSpecPolicy) : Bool :=
  (List.finRange childCount).all fun child =>
    left.budget child == right.budget child && left.desired child == right.desired child

def rejected (reason : RootSpecReject) (generation : UInt64) : Candidate :=
  { kind := .rejected, reason, generation }

def bankReason : AbiReject → RootSpecReject
  | .torn => .bankTorn
  | .checksum => .bankChecksum
  | _ => .bankMalformed

/-- The bank says something about a child that is not in the image. -/
def declaresAbsent (policy : RootSpecPolicy) (presentMask : UInt64) : Bool :=
  (List.finRange childCount).any fun child =>
    !maskBit presentMask child.val && (policy.budget child != 0 || policy.desired child != 0)

/-- Classifies one bank of the validated copy against the retained policy. -/
def evaluate (page : Memory) (bank : Nat) (presentMask : UInt64) (retained : RootSpecPolicy) :
    Candidate :=
  if specBankSeq page bank = 0 then { kind := .empty }
  else
    let verdict := checkSpecBank page specPageSize bank
    if verdict ≠ .ok then rejected (bankReason verdict) 0
    else
      let policy := bankPolicy page bank
      let generation := policy.generation
      if generation = 0 then { kind := .empty }
      else if declaresAbsent policy presentMask then rejected .undeclaredChild generation
      else if generation < retained.generation then rejected .regressed generation
      else if generation = retained.generation then
        if sameContent policy retained then { kind := .same, generation, policy }
        else rejected .conflict generation
      else { kind := .newer, generation, policy }

/-- Reports a reason once per (reason, generation, bank); no reason clears it. -/
def finish (state : RootSpecState) (outcome : RootSpecOutcome) (reason : RootSpecReject)
    (generation : UInt64) (bank : UInt32) : RootSpecState × RootSpecResult :=
  if reason = .unset then
    ({ state with lastReason := .unset, lastGeneration := 0, lastBank := 0 },
      { outcome, reason, generation, bank })
  else
    ({ state with lastReason := reason, lastGeneration := generation, lastBank := bank },
      { outcome
        record := reason != state.lastReason || generation != state.lastGeneration ||
          bank != state.lastBank
        reason, generation, bank })

/-- The decision on a validated copy whose header passed its check. -/
def rootSpecSelect (state : RootSpecState) (scratch : Memory) (presentMask : UInt64) :
    RootSpecState × RootSpecResult :=
  let active := specActive scratch
  let first := evaluate scratch active presentMask state.retained
  let second :=
    if first.kind = .empty ∨ first.kind = .rejected then
      evaluate scratch (1 - active) presentMask state.retained
    else { kind := .skipped }
  let pick := selections first.kind second.kind
  let reason := if first.kind = .rejected then first.reason else .unset
  let generation := if first.kind = .rejected then first.generation else 0
  let retained :=
    if pick.1 = .applied then
      if pick.2 = .active then first.policy else second.policy
    else state.retained
  finish { state with retained } pick.1 reason generation (UInt32.ofNat active)

/-- `root_spec_consume`: read the shared page once and decide which policy Root
uses. `none` is an unmapped page. -/
def rootSpecConsume (state : RootSpecState) (shared : Option SpecPageRead)
    (presentMask : UInt64) : RootSpecState × RootSpecResult :=
  match shared with
  | none => finish state .absent .unset 0 0
  | some page =>
      if !snapshot page then finish state .kept .unstableCopy 0 0
      else if page.copied.allZero 0 specHeaderSize then finish state .absent .unset 0 0
      else if checkSpecHeader page.copied specPageSize ≠ .ok then finish state .kept .header 0 0
      else rootSpecSelect state page.copied presentMask

/-- The lifetime ceiling for a child. -/
def rootSpecBudget (state : RootSpecState) (child : RootChild) (compiled hardMax : UInt32) :
    UInt32 :=
  if state.retained.generation = 0 then compiled
  else
    let budget := state.retained.budget child
    if budget = 0 then compiled
    else if budget < hardMax then budget else hardMax

/-- The desired state Root reports for a child. -/
def rootSpecDesired (state : RootSpecState) (child : RootChild) (slotMask : UInt64) :
    RootDesired :=
  if !maskBit slotMask child.val || state.retained.generation = 0 then .running
  else if (state.retained.desired child).toNat = RootDesired.stopped.tag then .stopped
  else .running

/-- A stable lower-case name for logs. -/
def rootSpecRejectName : RootSpecReject → String
  | .unset => "unset"
  | .header => "header"
  | .bankTorn => "bank-torn"
  | .bankChecksum => "bank-checksum"
  | .bankMalformed => "bank-malformed"
  | .undeclaredChild => "undeclared-child"
  | .regressed => "regressed"
  | .conflict => "conflict"
  | .unstableCopy => "unstable-copy"

end Chrysopolis.Root
