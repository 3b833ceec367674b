import Chrysopolis.Abi.Wire

/-! The wire contract as the generators read it: every extern struct reflected to a
record of fields with offsets, sizes and element types. -/

set_option autoImplicit false

namespace Chrysopolis.Codegen

open Chrysopolis.Abi (childCount eventCount)

/-- An unsigned integer by its bytes, or a struct by its short name. -/
inductive ElementType where
  | int (width : Nat)
  | struct (name : String)
  deriving Repr

/-- The type of a wire field; an array of arrays does not compile. -/
inductive WireType where
  | single (child : ElementType)
  | array (child : ElementType) (len : Nat)
  deriving Repr

/-- An extern struct of the contract. -/
structure Struct where
  name : String
  fields : List (String × WireType)

structure Field where
  name : String
  offset : Nat
  size : Nat
  /-- A scalar name or a record's short name, repeated `count` times. -/
  element : String
  count : Nat
  isRecord : Bool
  deriving DecidableEq, Repr

structure Record where
  name : String
  size : Nat
  alignment : Nat
  fields : List Field
  deriving DecidableEq, Repr

/-! ### Reflection -/

def findRecord (records : List Record) (name : String) : Option Record :=
  records.find? fun record => record.name == name

def ElementType.size (records : List Record) : ElementType → Nat
  | int width => width
  | struct name => ((findRecord records name).map Record.size).getD 0

def ElementType.alignment (records : List Record) : ElementType → Nat
  | int width => width
  | struct name => ((findRecord records name).map Record.alignment).getD 1

def ElementType.name : ElementType → String
  | int width => "u" ++ toString (8 * width)
  | struct name => name

def ElementType.isRecord : ElementType → Bool
  | int _ => false
  | struct _ => true

def WireType.elementType : WireType → ElementType
  | single child => child
  | array child _ => child

def WireType.count : WireType → Nat
  | single _ => 1
  | array _ len => len

def WireType.size (records : List Record) (type : WireType) : Nat :=
  type.count * type.elementType.size records

def alignUp (offset alignment : Nat) : Nat := (offset + alignment - 1) / alignment * alignment

/-- The fields of an extern struct from an offset: each at the next multiple of its alignment. -/
def placeFields (records : List Record) (offset : Nat) : List (String × WireType) → List Field
  | [] => []
  | (name, type) :: rest =>
      let start := alignUp offset (type.elementType.alignment records)
      { name
        offset := start
        size := type.size records
        element := type.elementType.name
        count := type.count
        isRecord := type.elementType.isRecord } ::
        placeFields records (start + type.size records) rest

/-- `describeRecord`, with the records of the structs it nests. -/
def describeRecord (records : List Record) (type : Struct) : Record :=
  let fields := placeFields records 0 type.fields
  let alignment := type.fields.foldl
    (fun widest field => max widest (field.2.elementType.alignment records)) 1
  let stop := fields.foldl (fun _ field => field.offset + field.size) 0
  { name := type.name, size := alignUp stop alignment, alignment, fields }

/-- The described structs, latest first. -/
def describe : List Struct → List Record → List Record
  | [], records => records
  | type :: rest, records => describe rest (describeRecord records type :: records)

inductive ModelError where
  | invalidRecordOffset | invalidRecordSize
  deriving DecidableEq, Repr

/-- The fields follow one another without padding; the answer is where the last one ends. -/
def validateFields (nextOffset : Nat) : List Field → Except ModelError Nat
  | [] => .ok nextOffset
  | field :: rest =>
      if field.offset ≠ nextOffset then .error .invalidRecordOffset
      else if nextOffset + field.size ≥ 2 ^ 64 then .error .invalidRecordSize
      else validateFields (nextOffset + field.size) rest

def validateRecord (record : Record) : Except ModelError Unit := do
  let nextOffset ← validateFields 0 record.fields
  if nextOffset ≠ record.size then .error .invalidRecordSize else .ok ()

/-! ### The contract -/

def journalCapacity : Nat := 15
def journalPayloadSize : Nat := 192

namespace Contract

private def u8 : WireType := .single (.int 1)
private def u16 : WireType := .single (.int 2)
private def u32 : WireType := .single (.int 4)
private def u64 : WireType := .single (.int 8)
private def octets (len : Nat) : WireType := .array (.int 1) len
private def one (name : String) : WireType := .single (.struct name)

def RootStatusHeader : Struct where
  name := "RootStatusHeader"
  fields :=
    [ ("magic", u64), ("abi_version", u32), ("child_count", u32), ("seq", u64),
      ("root_generation", u64), ("beam_incarnation", u64), ("now_ticks", u64), ("cntfrq", u64),
      ("event_head", u64), ("event_dropped", u64), ("applied_spec_generation", u64),
      ("applied_bank", u32), ("reserved0", u32) ]

def RootChildStatus : Struct where
  name := "RootChildStatus"
  fields :=
    [ ("state", u8), ("desired", u8), ("flags", u16), ("lifetime_count", u32),
      ("effective_budget", u32), ("fault_label", u32), ("fault_mr0", u64), ("fault_mr1", u64),
      ("last_fault_ticks", u64), ("last_restart_ticks", u64), ("boot_ticks", u64),
      ("cumulative_down_ticks", u64), ("slot_generation", u64), ("window_count", u32),
      ("reserved", u32) ]

def RootEvent : Struct where
  name := "RootEvent"
  fields :=
    [ ("ticks", u64), ("kind", u8), ("child", u8), ("flags", u16), ("detail", u32), ("a", u64),
      ("b", u64) ]

def RootStatusPage : Struct where
  name := "RootStatusPage"
  fields :=
    [ ("header", one "RootStatusHeader"),
      ("children", .array (.struct "RootChildStatus") childCount),
      ("events", .array (.struct "RootEvent") eventCount), ("reserved_tail", octets 7240) ]

def SpecHeader : Struct where
  name := "SpecHeader"
  fields := [("magic", u64), ("abi_version", u32), ("active_bank", u32), ("reserved", octets 48)]

def SpecBank : Struct where
  name := "SpecBank"
  fields :=
    [ ("generation", u64), ("length", u32), ("crc32", u32), ("record_count", u32),
      ("bank_seq", u32), ("budget", .array (.int 4) childCount), ("desired", octets childCount),
      ("reserved_tail", octets 1682) ]

def SpecPage : Struct where
  name := "SpecPage"
  fields := [("header", one "SpecHeader"), ("banks", .array (.struct "SpecBank") 2)]

def CtlCommand : Struct where
  name := "CtlCommand"
  fields :=
    [ ("magic", u64), ("version", u16), ("opcode", u16), ("reserved0", u32),
      ("args", .array (.int 8) 4), ("reserved", octets 16) ]

def CtlReply : Struct where
  name := "CtlReply"
  fields :=
    [ ("magic", u64), ("version", u16), ("result", u16), ("reserved0", u32),
      ("values", .array (.int 8) 4), ("reserved", octets 16) ]

def WorkerIdentityHeader : Struct where
  name := "WorkerIdentityHeader"
  fields :=
    [ ("magic", u64), ("abi_version", u32), ("slot", u16), ("class", u16), ("generation", u64),
      ("workload_ref", u64), ("desired_phase", u32), ("reserved0", u32), ("completion_ack", u64),
      ("reserved", octets 16) ]

def WorkerIdentity : Struct where
  name := "WorkerIdentity"
  fields := [("header", one "WorkerIdentityHeader"), ("reserved_tail", octets 4032)]

def WorkerStatusHeader : Struct where
  name := "WorkerStatusHeader"
  fields :=
    [ ("magic", u64), ("abi_version", u32), ("slot", u16), ("class", u16), ("generation", u64),
      ("phase", u32), ("health", u32), ("request_ack", u64), ("heartbeat_ticks", u64),
      ("accepted_count", u64), ("completed_count", u64), ("queue_depth", u32),
      ("reserved0", u32), ("failed_count", u64), ("status_seq", u64) ]

def WorkerStatus : Struct where
  name := "WorkerStatus"
  fields := [("header", one "WorkerStatusHeader"), ("reserved_tail", octets 4008)]

def JournalHeader : Struct where
  name := "JournalHeader"
  fields :=
    [ ("magic", u64), ("abi_version", u32), ("slot", u16), ("reserved0", u16),
      ("generation", u64), ("published_seq", u64), ("capacity", u32), ("entry_size", u32),
      ("reserved", octets 216) ]

def JournalEntry : Struct where
  name := "JournalEntry"
  fields :=
    [ ("generation", u64), ("sequence", u64), ("request_id", u64), ("workload_id", u64),
      ("deadline_ticks", u64), ("kind", u32), ("status", u32), ("payload_length", u16),
      ("flags", u16), ("reserved0", u32), ("payload", octets journalPayloadSize),
      ("reserved1", octets 8) ]

def JournalPage : Struct where
  name := "JournalPage"
  fields :=
    [("header", one "JournalHeader"), ("entries", .array (.struct "JournalEntry") journalCapacity)]

end Contract

open Contract in
def structs : List Struct :=
  [ RootStatusHeader, RootChildStatus, RootEvent, RootStatusPage, SpecHeader, SpecBank, SpecPage,
    CtlCommand, CtlReply, WorkerIdentityHeader, WorkerIdentity, WorkerStatusHeader, WorkerStatus,
    JournalHeader, JournalEntry, JournalPage ]

/-- The records of `model.description`, in declared order. -/
def records : List Record := (describe structs []).reverse

/-- The sizes the contract's tests name, and no field after padding. -/
example : records.map Record.size =
    [88, 80, 32, 16384, 64, 2016, 4096, 64, 64, 64, 4096, 88, 4096, 256, 256, 4096] ∧
    ∀ record ∈ records, (validateRecord record).isOk := by
  decide +kernel

end Chrysopolis.Codegen
