import Chrysopolis.Abi.Wire
import Chrysopolis.Abi.Crc32

/-! The ordered snapshot checks. A checker is a table of rules over little-endian
integers and byte spans; its verdict is `size`, then an invalid selector (`range`),
then the class of the first rule that fails. -/

set_option autoImplicit false

namespace Chrysopolis.Abi

open Chrysopolis.Support

inductive AbiReject where
  | ok | magic | version | size | checksum | reserved | unknownKind | range | torn
  deriving DecidableEq, Repr

/-- A byte span relative to the rule's scope. -/
structure Span where
  offset : Nat
  len : Nat

/-- An unsigned little-endian integer relative to the rule's scope. -/
structure IntAt where
  offset : Nat
  width : Nat

structure Rows where
  base : Nat
  stride : Nat
  count : Nat

/-- Only the published rows of a ring: indexes `[head - min(head, capacity), head)`. -/
structure Window where
  headOffset : Nat
  base : Nat
  stride : Nat
  capacity : Nat

inductive Scope where
  | whole
  | rows (rows : Rows)
  | window (window : Window)
  | selected (rows : Rows)

/-- Tags an enumeration declares. -/
structure Member where
  int : IntAt
  enumeration : List Nat
  rejectZero : Bool

inductive Check where
  | magic (int : IntAt) (value : Nat)
  | version (int : IntAt) (value : Nat)
  | seqlock (int : IntAt)
  | crc32 (span : Span) (crc : IntAt) (zeroed : List Span)
  | zero (span : Span)
  | member (member : Member)
  | kindMember (kind : IntAt) (value : Nat) (member : Member)
  | equal (int : IntAt) (value : Nat)
  | atMost (int : IntAt) (value : Nat)
  | ringDropped (head dropped : IntAt) (capacity : Nat)
  | eventChild (kind child : IntAt) (sentinel : Nat) (global : List Nat) (targets : Rows)
      (targetState : IntAt)
  | implies (int : IntAt) (when requires : Nat)
  | onlyForKind (int kind : IntAt) (value : Nat)
  | zeroWhenUnset (int : IntAt) (span : Span)

structure Rule where
  reject : AbiReject
  scope : Scope
  check : Check

structure Checker where
  size : Nat
  selector : Option Rows := none
  rules : List Rule

/-- The running CRC and the cursor after the spans read as zero. -/
def crcSpans (bytes : Memory) (base : Nat) : List Span → UInt32 × Nat → UInt32 × Nat
  | [], state => state
  | zeroed :: rest, (crc, cursor) =>
      let read := crc32Update crc bytes (base + cursor) (zeroed.offset - cursor)
      crcSpans bytes base rest (crc32Zeros read zeroed.len, zeroed.offset + zeroed.len)

/-- The CRC of a span with the stored CRC and `zeroed` read as zero. -/
def crcOf (bytes : Memory) (base : Nat) (span : Span) (crc : IntAt) (zeroed : List Span) :
    UInt32 :=
  let (read, cursor) :=
    crcSpans bytes base (⟨crc.offset, crc.width⟩ :: zeroed) (0xFFFFFFFF, span.offset)
  crc32Final (crc32Update read bytes (base + cursor) (span.offset + span.len - cursor))

def Member.holds (member : Member) (bytes : Memory) (base : Nat) : Bool :=
  let raw := bytes.load (base + member.int.offset) member.int.width
  !(member.rejectZero && raw == 0) && member.enumeration.contains raw

/-- Whether one check holds for the scope instance at `base`. -/
def Check.holds (check : Check) (bytes : Memory) (base : Nat) : Bool :=
  let value := fun (int : IntAt) => bytes.load (base + int.offset) int.width
  match check with
  | magic int expected | version int expected | equal int expected => value int == expected
  | atMost int limit => value int ≤ limit
  | ringDropped head dropped capacity =>
      value dropped == if value head > capacity then value head - capacity else 0
  | eventChild kind child sentinel global targets targetState =>
      if global.contains (value kind) then value child == sentinel
      else
        decide (value child < targets.count) &&
          bytes.load (targets.base + value child * targets.stride + targetState.offset) 1 != 0
  | onlyForKind int kind expected => value int == 0 || value kind == expected
  | implies int when requires =>
      value int &&& when == 0 || value int &&& requires == requires
  | zeroWhenUnset int span => value int != 0 || bytes.allZero (base + span.offset) span.len
  | kindMember kind expected tags => value kind != expected || tags.holds bytes base
  | seqlock int => value int != 0 && value int % 2 == 0
  | zero span => bytes.allZero (base + span.offset) span.len
  | member tags => tags.holds bytes base
  | crc32 span crc zeroed => (crcOf bytes base span crc zeroed).toNat == value crc

/-- Rows a window publishes, oldest first. -/
def Window.slots (window : Window) (bytes : Memory) : List Nat :=
  let head := bytes.load window.headOffset 8
  let live := min head window.capacity
  (List.range live).map fun n => (head - live + n) % window.capacity

def Rule.holds (rule : Rule) (bytes : Memory) (selected : Nat) : Bool :=
  match rule.scope with
  | .whole => rule.check.holds bytes 0
  | .selected _ => rule.check.holds bytes selected
  | .rows rows =>
      (List.range rows.count).all fun row => rule.check.holds bytes (rows.base + row * rows.stride)
  | .window window =>
      (window.slots bytes).all fun slot =>
        rule.check.holds bytes (window.base + slot * window.stride)

/-- Class of the first rule that fails. -/
def firstReject (bytes : Memory) (selected : Nat) : List Rule → AbiReject
  | [] => .ok
  | rule :: rules =>
      if rule.holds bytes selected then firstReject bytes selected rules else rule.reject

/-- The verdict of the generated checkers; `bank` is ignored without a selector. -/
def Checker.verdict (checker : Checker) (bytes : Memory) (length bank : Nat) : AbiReject :=
  if length ≠ checker.size then .size
  else
    match checker.selector with
    | none => firstReject bytes 0 checker.rules
    | some rows =>
        if bank ≥ rows.count then .range
        else firstReject bytes (rows.base + bank * rows.stride) checker.rules

/-! ### Tables -/

namespace RootStatusPage

def header (field : RootStatusHeaderField) : IntAt := ⟨field.offset, field.width⟩
def row (field : RootChildStatusField) : IntAt := ⟨field.offset, field.width⟩
def event (field : RootEventField) : IntAt := ⟨field.offset, field.width⟩

def rows : Rows := ⟨childrenAt, childStatusSize, childCount⟩

def events : Window :=
  { headOffset := RootStatusHeaderField.eventHead.offset
    base := eventsAt
    stride := eventSize
    capacity := eventCount }

def childStates : List Nat :=
  [RootChildWireState.unset, .live, .stopped, .gone, .quarantined].map RootChildWireState.tag

def desiredStates : List Nat :=
  [RootDesired.unset, .running, .stopped].map RootDesired.tag

def eventKinds : List Nat :=
  [RootEventKind.unset, .boot, .fault, .restart, .stop, .giveup, .quarantine, .reclaim, .control,
    .specReject].map RootEventKind.tag

def giveupReasons : List Nat :=
  [RootGiveupReason.unset, .budgetExhausted, .windowExhausted, .lifetimeExhausted,
    .noEntry].map RootGiveupReason.tag

def controlKinds : List Nat :=
  [RootControlKind.unset, .faultInject, .restartChild].map RootControlKind.tag

def specRejects : List Nat :=
  [RootSpecReject.unset, .header, .bankTorn, .bankChecksum, .bankMalformed, .undeclaredChild,
    .regressed, .conflict, .unstableCopy].map RootSpecReject.tag

def globalEventKinds : List Nat := [RootEventKind.boot.tag, RootEventKind.specReject.tag]

def faultWords : Nat := (faultMr0Valid ||| faultMr1Valid).toNat

/-- `detail` of events of one kind names a declared nonzero tag. -/
def detailMember (kind : RootEventKind) (enumeration : List Nat) : Check :=
  .kindMember (event .kind) kind.tag ⟨event .detail, enumeration, true⟩

def rules : List Rule :=
  [ ⟨.magic, .whole, .magic (header .magic) magicStatus⟩,
    ⟨.version, .whole, .version (header .abiVersion) abiVersion⟩,
    ⟨.torn, .whole, .seqlock (header .seq)⟩,
    ⟨.reserved, .whole, .zero ⟨84, 4⟩⟩,
    ⟨.reserved, .rows rows, .zero ⟨76, 4⟩⟩,
    ⟨.reserved, .whole, .zero ⟨statusTailAt, statusPageSize - statusTailAt⟩⟩,
    ⟨.unknownKind, .rows rows, .member ⟨row .state, childStates, false⟩⟩,
    ⟨.unknownKind, .rows rows, .member ⟨row .desired, desiredStates, false⟩⟩,
    ⟨.unknownKind, .window events, .member ⟨event .kind, eventKinds, true⟩⟩,
    ⟨.unknownKind, .window events, detailMember .giveup giveupReasons⟩,
    ⟨.unknownKind, .window events, detailMember .control controlKinds⟩,
    ⟨.unknownKind, .window events, detailMember .specReject specRejects⟩,
    ⟨.range, .whole, .equal (header .childCount) childCount⟩,
    ⟨.range, .whole, .atMost (header .appliedBank) 1⟩,
    ⟨.range, .rows rows, .atMost (row .flags) (faultWords ||| downIntervalOpen.toNat)⟩,
    ⟨.range, .rows rows, .implies (row .flags) faultMr1Valid.toNat faultMr0Valid.toNat⟩,
    ⟨.range, .rows rows, .zeroWhenUnset (row .state) ⟨0, childStatusSize⟩⟩,
    ⟨.range, .window events, .atMost (event .flags) faultWords⟩,
    ⟨.range, .window events, .implies (event .flags) faultMr1Valid.toNat faultMr0Valid.toNat⟩,
    ⟨.range, .window events, .onlyForKind (event .flags) (event .kind) RootEventKind.fault.tag⟩,
    ⟨.range, .window events, .eventChild (event .kind) (event .child) rootEventNoChild.toNat
      globalEventKinds rows (row .state)⟩,
    ⟨.range, .whole, .ringDropped (header .eventHead) (header .eventDropped) eventCount⟩ ]

end RootStatusPage

/-- `chryso_check_root_status_page`. -/
def checkRootStatusPage (bytes : Memory) (length : Nat) : AbiReject :=
  { size := statusPageSize, rules := RootStatusPage.rules : Checker }.verdict bytes length 0

namespace SpecPage

def header (field : SpecHeaderField) : IntAt := ⟨field.offset, field.width⟩
def bank (field : SpecBankField) : IntAt := ⟨field.offset, field.width⟩
def banks : Rows := ⟨specHeaderSize, specBankSize, 2⟩

def headerRules : List Rule :=
  [ ⟨.magic, .whole, .magic (header .magic) magicSpec⟩,
    ⟨.version, .whole, .version (header .abiVersion) abiVersion⟩,
    ⟨.reserved, .whole, .zero ⟨16, 48⟩⟩,
    ⟨.range, .whole, .atMost (header .activeBank) 1⟩ ]

def bankRules : List Rule :=
  [ ⟨.torn, .selected banks, .seqlock (bank .bankSeq)⟩,
    ⟨.checksum, .selected banks, .crc32 ⟨0, specBankSize⟩ (bank .crc32) [⟨20, 4⟩]⟩,
    ⟨.reserved, .selected banks, .zero ⟨334, 1682⟩⟩,
    ⟨.range, .selected banks, .equal (bank .length) specBankSize⟩,
    ⟨.range, .selected banks, .equal (bank .recordCount) childCount⟩ ]

end SpecPage

/-- `chryso_check_spec_header`. -/
def checkSpecHeader (bytes : Memory) (length : Nat) : AbiReject :=
  { size := specPageSize, rules := SpecPage.headerRules : Checker }.verdict bytes length 0

/-- `chryso_check_spec_bank`. -/
def checkSpecBank (bytes : Memory) (length bank : Nat) : AbiReject :=
  { size := specPageSize, selector := some SpecPage.banks, rules := SpecPage.bankRules
    : Checker }.verdict bytes length bank

end Chrysopolis.Abi
