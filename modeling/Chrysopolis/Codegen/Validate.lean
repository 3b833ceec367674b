import Chrysopolis.Codegen.LayoutDigest
import Chrysopolis.Codegen.Checkers
import Chrysopolis.Support.Fallible

/-! The checks of `model.zig` on a description, which every generator makes before it reads one,
and the description of the contract. -/

set_option autoImplicit false

namespace Chrysopolis.Codegen.Layout

open Chrysopolis.Support
open Chrysopolis.Support.Fallible (eachAfter)
open Chrysopolis.Abi

/-! ### The contract -/

def asciiBytes (text : String) : Bytes := text.toList.map fun letter => UInt8.ofNat letter.toNat

theorem nil_fits {α : Type} : ([] : List α).length < 2 ^ 64 := Nat.two_pow_pos 64

/-- A slice of some items, unless they are too many. -/
def sliceOf {α : Type} (items : List α) : Slice α :=
  if fits : items.length < 2 ^ 64 then ⟨items, fits⟩ else ⟨[], nil_fits⟩

def constants : Constants where
  childCount := .ofNat childCount
  eventCount := .ofNat eventCount
  journalCapacity := .ofNat journalCapacity
  journalPayloadSize := .ofNat journalPayloadSize
  rootEventNoChild := rootEventNoChild
  faultMr0Valid := faultMr0Valid
  faultMr1Valid := faultMr1Valid
  downIntervalOpen := downIntervalOpen

/-- An entry of the interface's `atomic_fields`. -/
structure AtomicName where
  record : String
  field : String
  width : UInt8
  deriving DecidableEq, Repr

def atomicNames : List AtomicName :=
  [ ⟨"RootStatusHeader", "seq", 8⟩, ⟨"SpecHeader", "active_bank", 4⟩, ⟨"SpecBank", "bank_seq", 4⟩,
    ⟨"WorkerIdentityHeader", "completion_ack", 8⟩, ⟨"WorkerStatusHeader", "request_ack", 8⟩,
    ⟨"WorkerStatusHeader", "status_seq", 8⟩, ⟨"JournalHeader", "published_seq", 8⟩ ]

def AtomicName.entry (atomic : AtomicName) : AtomicField :=
  { record := asciiBytes atomic.record, field := asciiBytes atomic.field, width := atomic.width }

def atomicFields : List AtomicField := atomicNames.map AtomicName.entry

def magicOf (name ascii : String) : Magic :=
  { name := asciiBytes name
    bytes := asciiBytes ascii
    value := .ofNat (CheckTable.wireMagic ascii) }

def magics : List Magic :=
  [ magicOf "status" "CHRYSTA1", magicOf "spec" "CHRYSPE1", magicOf "command" "CHRYCMD1",
    magicOf "reply" "CHRYREP1", magicOf "worker_identity" "CHRYWID1",
    magicOf "worker_status" "CHRYWST1", magicOf "request" "CHRYREQ1",
    magicOf "completion" "CHRYCMP1" ]

/-- `@typeName` of a field's type; a struct's starts with its module. -/
def typeName (field : Codegen.Field) : String :=
  let child := if field.isRecord then "orchestrator_abi." ++ field.element else field.element
  if field.count = 1 then child else "[" ++ toString field.count ++ "]" ++ child

def fieldOf (field : Codegen.Field) : Field where
  name := asciiBytes field.name
  offset := .ofNat field.offset
  size := .ofNat field.size
  type := asciiBytes (typeName field)
  element := asciiBytes field.element
  count := .ofNat field.count
  isRecord := field.isRecord

def recordOf (record : Codegen.Record) : Record where
  name := asciiBytes record.name
  size := .ofNat record.size
  alignment := .ofNat record.alignment
  fields := sliceOf (record.fields.map fieldOf)

def enumOf (name : String) (width : UInt64) (wire : Bool) (values : List (String × UInt64)) :
    Enum where
  name := asciiBytes name
  width
  wire
  values := sliceOf (values.map fun (name, value) => { name := asciiBytes name, value })

def enums : List Enum :=
  [ enumOf "RootChildWireState" 1 true
      [("unset", 0), ("live", 1), ("stopped", 2), ("gone", 3), ("quarantined", 4)],
    enumOf "RootDesired" 1 true [("unset", 0), ("running", 1), ("stopped", 2)],
    enumOf "RootEventKind" 1 true
      [("unset", 0), ("boot", 1), ("fault", 2), ("restart", 3), ("stop", 4), ("giveup", 5),
        ("quarantine", 6), ("reclaim", 7), ("control", 8), ("spec_reject", 9)],
    enumOf "RootGiveupReason" 4 true
      [("unset", 0), ("budget_exhausted", 1), ("window_exhausted", 2), ("lifetime_exhausted", 3),
        ("no_entry", 4)],
    enumOf "RootControlKind" 4 true [("unset", 0), ("fault_inject", 1), ("restart_child", 2)],
    enumOf "RootSpecReject" 4 true
      [("unset", 0), ("header", 1), ("bank_torn", 2), ("bank_checksum", 3),
        ("bank_malformed", 4), ("undeclared_child", 5), ("regressed", 6), ("conflict", 7),
        ("unstable_copy", 8)],
    enumOf "PpOpcode" 2 true
      [("unset", 0), ("hello", 1), ("restart_child", 2), ("start_slot", 3), ("stop_child", 4),
        ("resume_child", 5), ("reclaim_slot", 6), ("sync", 7)],
    enumOf "CtlResult" 2 true
      [("unset", 0), ("ok", 1), ("refused", 2), ("ignored", 3), ("rate_limited", 4),
        ("bad_arg", 5), ("bad_version", 6), ("internal_error", 7), ("already_done", 8),
        ("stale", 9)],
    enumOf "WorkerHealth" 4 true [("unknown", 0), ("healthy", 1), ("unhealthy", 2)],
    enumOf "RequestKind" 4 true [("work", 1), ("drain", 2), ("cancel", 3)],
    enumOf "CompletionKind" 4 true [("work", 0x8001), ("drained", 0x8002), ("rejected", 0x8003)],
    enumOf "CompletionStatus" 4 true
      [("ok", 0), ("bad_request", 1), ("stale_generation", 2), ("unsupported", 3),
        ("deadline_expired", 4), ("draining", 5), ("internal_error", 6)],
    enumOf "SlotPhase" 4 true
      [("unset", 0), ("unassigned", 1), ("staging", 2), ("starting", 3), ("ready", 4),
        ("draining", 5), ("stopping", 6), ("backoff", 7), ("quarantined", 8), ("gone", 9)],
    enumOf "SlotEvent" 1 false
      [("prepare", 1), ("assign", 2), ("identity_committed", 3), ("matching_readiness", 4),
        ("scale_down", 5), ("drain_complete", 6), ("root_stopped", 7), ("timeout", 8),
        ("fault", 9), ("retry", 10), ("window_exhausted", 11), ("reclaim", 12),
        ("lifetime_exhausted", 13)],
    enumOf "AbiReject" 1 false
      [("ok", 0), ("magic", 1), ("version", 2), ("size", 3), ("checksum", 4), ("reserved", 5),
        ("unknown_kind", 6), ("range", 7), ("torn", 8)] ]

/-- `slot_transitions` -/
def slotTransitions : List (String × String × String) :=
  [ ("unassigned", "staging", "prepare"), ("unassigned", "starting", "assign"),
    ("staging", "starting", "identity_committed"), ("starting", "ready", "matching_readiness"),
    ("ready", "draining", "scale_down"), ("draining", "stopping", "drain_complete"),
    ("stopping", "unassigned", "root_stopped"), ("starting", "backoff", "timeout"),
    ("starting", "backoff", "fault"), ("ready", "backoff", "fault"),
    ("draining", "backoff", "timeout"), ("draining", "backoff", "fault"),
    ("backoff", "starting", "retry"), ("backoff", "quarantined", "window_exhausted"),
    ("quarantined", "unassigned", "reclaim"), ("backoff", "gone", "lifetime_exhausted"),
    ("quarantined", "gone", "lifetime_exhausted") ]

/-- `description` -/
def contract : Description where
  abiVersion := .ofNat abiVersion
  magics := sliceOf magics
  constants
  records := sliceOf (records.map recordOf)
  enums := sliceOf enums
  transitions := sliceOf (slotTransitions.map fun («from», «to», event) =>
    { «from» := asciiBytes «from», «to» := asciiBytes «to», event := asciiBytes event })
  atomicFields := sliceOf atomicFields

/-! ### Validation -/

inductive ValidationError where
  | invalidModelConstants | incompleteModel | invalidRecordOffset | invalidRecordSize
  | invalidEnumWidth | enumValueOutOfRange | duplicateEnumValue | invalidAtomicField
  | unknownAtomicField | duplicateAtomicField | missingAtomicField | invalidMagic
  | duplicateMagic
  deriving DecidableEq, Repr

/-- An error with its diagnostic. -/
structure Rejection where
  error : ValidationError
  path : Bytes
  invariant : String
  deriving DecidableEq

def require (condition : Prop) [Decidable condition] (error : ValidationError) (path : Bytes)
    (invariant : String) : Except Rejection Unit :=
  Fallible.require condition ⟨error, path, invariant⟩

/-- The loop of `validateRecord`; the answer is where the last field ends. -/
def validateFields (record : Bytes) (nextOffset : Nat) : List Field → Except Rejection Nat
  | [] => .ok nextOffset
  | field :: rest => do
      require (field.offset.toNat = nextOffset) .invalidRecordOffset record
        "no implicit field padding"
      require (nextOffset + field.size.toNat < 2 ^ 64) .invalidRecordSize record
        "field extent does not overflow"
      validateFields record (nextOffset + field.size.toNat) rest

def validateRecord (record : Record) : Except Rejection Unit := do
  let nextOffset ← validateFields record.name 0 record.fields.items
  require (nextOffset = record.size.toNat) .invalidRecordSize record.name "exact record size"

/-- A round of the loop of `validateEnum`. -/
def validateValue (enumeration : Enum) (before : List EnumValue) (value : EnumValue) :
    Except Rejection Unit := do
  require (enumeration.width < 8 → value.value.toNat < 2 ^ (enumeration.width.toNat * 8))
    .enumValueOutOfRange enumeration.name "value fits declared width"
  require (∀ prior ∈ before, value.value ≠ prior.value ∧ value.name ≠ prior.name)
    .duplicateEnumValue enumeration.name "unique enum name and value"

def validateEnum (enumeration : Enum) : Except Rejection Unit := do
  require (enumeration.width = 1 ∨ enumeration.width = 2 ∨ enumeration.width = 4 ∨
      enumeration.width = 8)
    .invalidEnumWidth enumeration.name "supported enum width"
  eachAfter (validateValue enumeration) [] enumeration.values.items

/-- The fields that an entry names, each with its record. -/
def named (recordList : List Record) (atomic : AtomicField) : List (Record × Field) :=
  (recordList.filter fun record => atomic.record = record.name).flatMap fun record =>
    (record.fields.items.filter fun field => atomic.field = field.name).map (record, ·)

/-- An atomic field is a word of its width, naturally aligned. -/
def Aligned (atomic : AtomicField) (record : Record) (field : Field) : Prop :=
  (atomic.width = 4 ∨ atomic.width = 8) ∧ field.size.toNat = atomic.width.toNat ∧
    field.offset.toNat % atomic.width.toNat = 0 ∧
      record.alignment.toNat % atomic.width.toNat = 0

instance (atomic : AtomicField) (record : Record) (field : Field) :
    Decidable (Aligned atomic record field) := by
  unfold Aligned
  infer_instance

/-- A round of the loop of `validateAtomicFields`. -/
def validateAtomicField (recordList : List Record) (before : List AtomicField)
    (atomic : AtomicField) : Except Rejection Unit := do
  require (∀ found ∈ named recordList atomic, Aligned atomic found.1 found.2)
    .invalidAtomicField atomic.record "atomic width and alignment"
  require (named recordList atomic ≠ []) .unknownAtomicField atomic.record "atomic field exists"
  require (∀ prior ∈ before, ¬(atomic.record = prior.record ∧ atomic.field = prior.field))
    .duplicateAtomicField atomic.record "unique atomic field"

def validateAtomicFields (fields : List AtomicField) (recordList : List Record) :
    Except Rejection Unit :=
  eachAfter (validateAtomicField recordList) [] fields

/-- A round of the last loop of `validateDescription`. -/
def validateMagic (before : List Magic) (magic : Magic) : Except Rejection Unit := do
  require (magic.bytes.length = 8) .invalidMagic magic.name "eight magic bytes"
  require (∀ prior ∈ before, magic.value ≠ prior.value) .duplicateMagic magic.name
    "distinct magics"

/-- An entry of `atomic_fields` that a description has to list. -/
def validateRequired (fields : List AtomicField) (required : AtomicField) :
    Except Rejection Unit :=
  require (∃ field ∈ fields, field.record = required.record ∧ field.field = required.field ∧
      field.width = required.width)
    .missingAtomicField required.record "required publication field and width"

def validateDescription (value : Description) : Except Rejection Unit := do
  require (value.abiVersion = .ofNat abiVersion ∧ value.constants = constants)
    .invalidModelConstants (asciiBytes "constants") "typed ABI version and capacities"
  require (value.records.items.length = 16 ∧ value.enums.items.length = 15 ∧
      value.magics.items.length = 8 ∧ value.transitions.items.length = slotTransitions.length)
    .incompleteModel (asciiBytes "description") "complete wire metadata"
  value.records.items.forM validateRecord
  value.enums.items.forM validateEnum
  require (value.atomicFields.items.length = 7) .missingAtomicField (asciiBytes "atomic_fields")
    "all publication fields listed"
  validateAtomicFields value.atomicFields.items value.records.items
  atomicFields.forM (validateRequired value.atomicFields.items)
  eachAfter validateMagic [] value.magics.items

end Chrysopolis.Codegen.Layout
