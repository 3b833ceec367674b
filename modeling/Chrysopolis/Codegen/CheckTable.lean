import Chrysopolis.Abi.Checks
import Chrysopolis.Codegen.Model
import Chrysopolis.Codegen.Checksum

/-! Tables of ordered checks over any described record: their validation, which runs before
anything is generated from them, and the verdict that every generated checker must reach. A load
or a slice outside the record is illegal, and has no result. -/

set_option autoImplicit false

namespace Chrysopolis.Codegen.CheckTable

open Chrysopolis.Support
open Chrysopolis.Abi (AbiReject Span IntAt Rows crc32Update crc32Zeros crc32Final)

/-! ### Tables -/

def precedence : List AbiReject :=
  [.size, .magic, .version, .torn, .checksum, .reserved, .unknownKind, .range]

/-- The place of a class in `precedence`; `ok` has none. -/
def rank (reject : AbiReject) : Option Nat := precedence.findIdx? (· == reject)

inductive WindowMode where
  /-- Indexes `[head - min(head, capacity), head)`, slot `i % capacity`. -/
  | ring
  /-- Sequences `(head - min(head, capacity), head]`, slot `(s - 1) % capacity`. -/
  | journal
  deriving DecidableEq, Repr

structure Window where
  /-- From the start of the record. -/
  headOffset : Nat
  base : Nat
  stride : Nat
  capacity : Nat
  mode : WindowMode

inductive Scope where
  | whole
  | rows (rows : Rows)
  /-- Only the published rows. -/
  | window (window : Window)
  /-- The row that the caller picks. -/
  | selected (rows : Rows)

def Scope.isSelected : Scope → Bool
  | selected _ => true
  | whole | rows _ | window _ => false

structure Member where
  int : IntAt
  enumeration : String
  rejectZero : Bool

inductive Check where
  | magic (int : IntAt) (value : Nat)
  | version (int : IntAt) (value : Nat)
  | seqlock (int : IntAt)
  | nonzero (int : IntAt)
  | crc32 (span : Span) (crc : IntAt) (zeroed : List Span)
  | zero (span : Span)
  | member (member : Member)
  | kindMember (kind : IntAt) (value : Nat) (member : Member)
  | equal (int : IntAt) (value : Nat)
  | atMost (int : IntAt) (value : Nat)
  | ringDropped (head dropped : IntAt) (capacity : Nat)
  | eventChild (kind child : IntAt) (sentinel : Nat) (global : List Nat) (targets : Rows)
      (targetState : IntAt)
  | implies (int : IntAt) (when requires : Nat)
  | onlyForKind (int kind : IntAt) (value : Nat)
  | zeroWhenUnset (int : IntAt) (span : Span)
  /-- A live entry repeats the header's generation and its own sequence. -/
  | entryIdentity (headerGeneration : Nat) (generation sequence : IntAt)
  /-- The payload is zero after `min(length, payload.len)` bytes. -/
  | payloadTail (length : IntAt) (payload : Span)

structure Rule where
  reject : AbiReject
  scope : Scope
  check : Check

structure Checker where
  name : String
  record : String
  size : Nat
  selector : Option Rows := none
  rules : List Rule

structure Enum where
  name : String
  width : Nat
  wire : Bool
  values : List Nat

/-- What the tables refer to of a description of the contract. -/
structure Description where
  abiVersion : Nat
  magics : List Nat
  records : List Record
  enums : List Enum

def findEnum (description : Description) (name : String) : Option Enum :=
  description.enums.find? fun enumeration => enumeration.name == name

/-! ### Validation -/

inductive Error where
  | unknownCheckedRecord | invalidCheckerSize | invalidCheckScope | ruleOrder | ruleClass
  | unknownRuleEnum | unknownRuleMagic | invalidRuleField | duplicateChecker | uncoveredReserved
  | missingSeqlockRule | tooManyReservedLeaves
  deriving DecidableEq, Repr

/-- An error, with what the diagnostic says. -/
structure Rejection where
  path : String
  invariant : String
  error : Error
  deriving DecidableEq, Repr

/-- The first-instance base and length of a scope. -/
def scopeExtent (checker : Checker) : Scope → Nat × Nat
  | .whole => (0, checker.size)
  | .rows rows | .selected rows => (rows.base, rows.stride)
  | .window window => (window.base, window.stride)

/-- False when the end overflows a `usize`. -/
def fits (offset len extent : Nat) : Bool :=
  offset + len < 2 ^ 64 && len != 0 && offset + len ≤ extent

def rowsFit (checker : Checker) (base stride count : Nat) : Bool :=
  stride * count < 2 ^ 64 && fits base (stride * count) checker.size

def scopeFits (checker : Checker) : Scope → Bool
  | .whole => true
  | .rows rows | .selected rows =>
      rows.stride != 0 && rows.count != 0 && rowsFit checker rows.base rows.stride rows.count
  | .window window =>
      window.stride != 0 && window.capacity != 0 && fits window.headOffset 8 checker.size &&
        rowsFit checker window.base window.stride window.capacity

/-- The widths that can be loaded. -/
def loadable (width : Nat) : Bool := width == 1 || width == 2 || width == 4 || width == 8

def intFits (int : IntAt) (extent : Nat) : Bool :=
  loadable int.width && fits int.offset int.width extent

def valueFits (value width : Nat) : Bool := 8 ≤ width || value < 2 ^ (width * 8)

/-- The class of the rules that make a check. -/
def classOf : Check → AbiReject
  | .magic .. => .magic
  | .version .. => .version
  | .seqlock _ | .nonzero _ | .entryIdentity .. => .torn
  | .crc32 .. => .checksum
  | .zero _ | .payloadTail .. => .reserved
  | .member _ | .kindMember .. => .unknownKind
  | .equal .. | .atMost .. | .ringDropped .. | .eventChild .. | .implies .. | .onlyForKind ..
  | .zeroWhenUnset .. => .range

/-- The spans follow one another up to `stop`. -/
def zeroedFit (stop : Nat) : Nat → List Span → Bool
  | _, [] => true
  | last, zeroed :: rest =>
      last ≤ zeroed.offset && fits zeroed.offset zeroed.len stop &&
        zeroedFit stop (zeroed.offset + zeroed.len) rest

/-- The enumeration of a member check, which records may hold. -/
def wireEnum (name : String) (description : Description) (enumeration : String) :
    Except Rejection Enum :=
  match findEnum description enumeration with
  | none => .error ⟨name, "member rule names a wire enum", .unknownRuleEnum⟩
  | some found =>
      if found.wire then .ok found
      else .error ⟨name, "member rule names a wire enum", .unknownRuleEnum⟩

/-- Whether the fields of a rule fit its scope and width. -/
def ruleFits (checker : Checker) (description : Description) (rule : Rule) :
    Except Rejection Bool :=
  let extent := (scopeExtent checker rule.scope).2
  match rule.check with
  | .magic int value =>
      if description.magics.contains value then .ok (int.width == 8 && intFits int extent)
      else .error ⟨checker.name, "magic rule names a declared magic", .unknownRuleMagic⟩
  | .version int value => .ok (value == description.abiVersion && intFits int extent)
  | .equal int value | .atMost int value => .ok (intFits int extent && valueFits value int.width)
  | .ringDropped head dropped capacity =>
      .ok (intFits head extent && intFits dropped extent && head.width == 8 &&
        dropped.width == 8 && capacity != 0)
  | .eventChild kind child sentinel global targets targetState =>
      .ok (intFits kind extent && intFits child extent && kind.width == 1 && child.width == 1 &&
        valueFits sentinel 1 && scopeFits checker (.rows targets) && targetState.width == 1 &&
        intFits targetState targets.stride && targets.count ≤ sentinel &&
        global.all fun kind => valueFits kind 1)
  | .implies int when requires =>
      .ok (intFits int extent && when != 0 && requires != 0 && valueFits when int.width &&
        valueFits requires int.width)
  | .onlyForKind int kind value =>
      .ok (intFits int extent && intFits kind extent && valueFits value kind.width)
  | .zeroWhenUnset int span => .ok (intFits int extent && fits span.offset span.len extent)
  | .kindMember kind value member => do
      let enumeration ← wireEnum checker.name description member.enumeration
      .ok (intFits kind extent && valueFits value kind.width && intFits member.int extent &&
        enumeration.width == member.int.width)
  | .seqlock int | .nonzero int => .ok (intFits int extent)
  | .zero span => .ok (fits span.offset span.len extent)
  | .crc32 span crc zeroed =>
      .ok (crc.width == 4 && fits span.offset span.len extent && span.offset ≤ crc.offset &&
        fits crc.offset 4 (span.offset + span.len) &&
        zeroedFit (span.offset + span.len) (crc.offset + 4) zeroed)
  | .member member => do
      let enumeration ← wireEnum checker.name description member.enumeration
      .ok (intFits member.int extent && enumeration.width == member.int.width)
  | .entryIdentity headerGeneration generation sequence =>
      match rule.scope with
      | .window window =>
          .ok (window.mode == .journal && generation.width == 8 && sequence.width == 8 &&
            intFits generation extent && intFits sequence extent &&
            fits headerGeneration 8 checker.size)
      | .whole | .rows _ | .selected _ => .ok false
  | .payloadTail length payload =>
      .ok (intFits length extent && fits payload.offset payload.len extent)

/-- One rule, after rules of classes up to `previous`; the answer is the place of its class. -/
def validateRule (checker : Checker) (description : Description) (previous : Nat) (rule : Rule) :
    Except Rejection Nat := do
  let order ← (rank rule.reject).elim
    (.error ⟨checker.name, "rules follow class precedence", .ruleOrder⟩) .ok
  if rule.reject = .size ∨ order < previous then
    .error ⟨checker.name, "rules follow class precedence", .ruleOrder⟩
  if !scopeFits checker rule.scope then
    .error ⟨checker.name, "rule scope fits the record", .invalidCheckScope⟩
  if rule.scope.isSelected ≠ checker.selector.isSome then
    .error ⟨checker.name, "selected scope matches the selector", .invalidCheckScope⟩
  if classOf rule.check ≠ rule.reject then
    .error ⟨checker.name, "check kind matches its class", .ruleClass⟩
  if !(← ruleFits checker description rule) then
    .error ⟨checker.name, "rule field fits its scope and width", .invalidRuleField⟩
  .ok order

def validateRules (checker : Checker) (description : Description) :
    Nat → List Rule → Except Rejection Unit
  | _, [] => .ok ()
  | previous, rule :: rest => do
      let order ← validateRule checker description previous rule
      validateRules checker description order rest

def validateChecker (checker : Checker) (description : Description) : Except Rejection Unit := do
  let record ← (findRecord description.records checker.record).elim
    (.error ⟨checker.name, "checked record exists", .unknownCheckedRecord⟩) .ok
  if record.size ≠ checker.size then
    .error ⟨checker.name, "checker size is the record size", .invalidCheckerSize⟩
  if checker.selector.any fun selector => !scopeFits checker (.selected selector) then
    .error ⟨checker.name, "selector rows fit the record", .invalidCheckScope⟩
  validateRules checker description 0 checker.rules

/-! ### The verdict -/

/-- `bytes[start..stop]`, read as memory. -/
def slice {α : Type} (bytes : Bytes) (start stop : Nat) (read : Memory → α) : Option α :=
  if start ≤ stop ∧ stop ≤ bytes.length then some (read fun position => bytes.getD position 0)
  else none

def load (bytes : Bytes) (offset width : Nat) : Option Nat :=
  if loadable width then slice bytes offset (offset + width) (·.load offset width) else none

def allZero (bytes : Bytes) (start len : Nat) : Option Bool :=
  slice bytes start (start + len) (·.allZero start len)

/-- The running CRC and the cursor after the spans read as zero. -/
def crcSpans (bytes : Bytes) (base : Nat) : List Span → UInt32 × Nat → Option (UInt32 × Nat)
  | [], state => some state
  | zeroed :: rest, (crc, cursor) => do
      let read ← slice bytes (base + cursor) (base + zeroed.offset) fun memory =>
        crc32Update crc memory (base + cursor) (zeroed.offset - cursor)
      crcSpans bytes base rest (crc32Zeros read zeroed.len, zeroed.offset + zeroed.len)

def crcOf (bytes : Bytes) (base : Nat) (span : Span) (crc : IntAt) (zeroed : List Span) :
    Option UInt32 := do
  let (read, cursor) ←
    crcSpans bytes base (⟨crc.offset, crc.width⟩ :: zeroed) (0xFFFFFFFF, span.offset)
  let stop := span.offset + span.len
  slice bytes (base + cursor) (base + stop) fun memory =>
    crc32Final (crc32Update read memory (base + cursor) (stop - cursor))

def Member.holds (description : Description) (member : Member) (bytes : Bytes) (base : Nat) :
    Option Bool := do
  let raw ← load bytes (base + member.int.offset) member.int.width
  if member.rejectZero && raw == 0 then some false
  else (findEnum description member.enumeration).map fun found => found.values.contains raw

/-- Whether one check holds for the scope instance at `base`. -/
def Check.holds (description : Description) (check : Check) (bytes : Bytes)
    (base sequence : Nat) : Option Bool :=
  let value := fun (int : IntAt) => load bytes (base + int.offset) int.width
  match check with
  | magic int expected | version int expected | equal int expected => do
      some ((← value int) == expected)
  | atMost int limit => do some (decide ((← value int) ≤ limit))
  | ringDropped head dropped capacity => do
      let head ← load bytes (base + head.offset) 8
      let dropped ← load bytes (base + dropped.offset) 8
      some (dropped == if head > capacity then head - capacity else 0)
  | eventChild kind child sentinel global targets targetState => do
      let kind ← load bytes (base + kind.offset) 1
      let child ← load bytes (base + child.offset) 1
      if global.contains kind then some (child == sentinel)
      else if child < targets.count then do
        let state ← load bytes (targets.base + child * targets.stride + targetState.offset) 1
        some (state != 0)
      else some false
  | onlyForKind int kind expected => do
      if (← value int) = 0 then some true else some ((← value kind) == expected)
  | implies int when requires => do
      let raw ← value int
      some (raw &&& when == 0 || raw &&& requires == requires)
  | zeroWhenUnset int span => do
      if (← value int) ≠ 0 then some true else allZero bytes (base + span.offset) span.len
  | kindMember kind expected tags => do
      if (← value kind) ≠ expected then some true else tags.holds description bytes base
  | seqlock int => do
      let seq ← value int
      some (seq != 0 && seq % 2 == 0)
  | nonzero int => do some ((← value int) != 0)
  | zero span => allZero bytes (base + span.offset) span.len
  | member tags => tags.holds description bytes base
  | crc32 span crc zeroed => do
      let computed ← crcOf bytes base span crc zeroed
      some (computed.toNat == (← load bytes (base + crc.offset) 4))
  | entryIdentity headerGeneration generation sequenceAt => do
      let generation ← load bytes (base + generation.offset) 8
      if generation = (← load bytes headerGeneration 8) then
        some ((← load bytes (base + sequenceAt.offset) 8) == sequence)
      else some false
  | payloadTail length payload => do
      let kept := min (← value length) payload.len
      allZero bytes (base + payload.offset + kept) (payload.len - kept)

/-- The indexes a window publishes, oldest first. -/
def Window.live (window : Window) (head : Nat) : List Nat :=
  let live := min head window.capacity
  (List.range live).map fun n => head - live + n

/-- The bases of the instances of a scope, with their sequences. -/
def Scope.instances (scope : Scope) (bytes : Bytes) (selected : Nat) : Option (List (Nat × Nat)) :=
  match scope with
  | .whole => some [(0, 0)]
  | .selected _ => some [(selected, 0)]
  | .rows table =>
      some ((List.range table.count).map fun row => (table.base + row * table.stride, 0))
  | .window ring => do
      let head ← load bytes ring.headOffset 8
      some ((ring.live head).map fun index =>
        (ring.base + index % ring.capacity * ring.stride, index + 1))

/-- Whether a check holds everywhere, up to where it first does not. -/
def holdsAt (description : Description) (check : Check) (bytes : Bytes) :
    List (Nat × Nat) → Option Bool
  | [] => some true
  | (base, sequence) :: rest => do
      if ← check.holds description bytes base sequence then
        holdsAt description check bytes rest
      else some false

/-- `ruleHolds` -/
def Rule.holds (description : Description) (rule : Rule) (bytes : Bytes) (selected : Nat) :
    Option Bool := do
  holdsAt description rule.check bytes (← rule.scope.instances bytes selected)

/-- The class of the first rule that fails. -/
def firstFailure (description : Description) (bytes : Bytes) (selected : Nat) :
    List Rule → Option AbiReject
  | [] => some .ok
  | rule :: rest => do
      if ← rule.holds description bytes selected then
        firstFailure description bytes selected rest
      else some rule.reject

/-- Where the caller's bank starts; without a selector there is none. -/
def Checker.selected (checker : Checker) (bank : Nat) : Nat :=
  checker.selector.elim 0 fun rows => rows.base + bank * rows.stride

/-- The reference that the generated checkers are held to. -/
def verdict (description : Description) (checker : Checker) (bytes : Bytes) (bank : Nat) :
    Option AbiReject :=
  if bytes.length ≠ checker.size then some .size
  else if checker.selector.any fun rows => bank ≥ rows.count then some .range
  else firstFailure description bytes (checker.selected bank) checker.rules

end Chrysopolis.Codegen.CheckTable
