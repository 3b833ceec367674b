import Chrysopolis.Abi.CtlRecords
import Chrysopolis.Codegen.CheckTable

/-! The tables of the contract: every check of every record, placed by the record's fields. -/

set_option autoImplicit false

namespace Chrysopolis.Codegen.CheckTable

open Chrysopolis.Abi

/-! ### Description -/

/-- The ascii of a magic as a little-endian word. -/
def wireMagic (ascii : String) : Nat :=
  ascii.toList.foldr (fun letter rest => letter.toNat + 256 * rest) 0

def magicWorkerIdentity : Nat := wireMagic "CHRYWID1"
def magicWorkerStatus : Nat := wireMagic "CHRYWST1"
def magicRequest : Nat := wireMagic "CHRYREQ1"
def magicCompletion : Nat := wireMagic "CHRYCMP1"

def magics : List Nat :=
  [magicStatus, magicSpec, magicCommand, magicReply, magicWorkerIdentity, magicWorkerStatus,
    magicRequest, magicCompletion]

/-- `RequestKind.work` -/
def requestWork : Nat := 1

/-- The enumerations by name, width and tags; a slot event or a reject is never in a record. -/
def enums : List Enum :=
  [ ⟨"RootChildWireState", 1, true, RootStatusPage.childStates⟩,
    ⟨"RootDesired", 1, true, RootStatusPage.desiredStates⟩,
    ⟨"RootEventKind", 1, true, RootStatusPage.eventKinds⟩,
    ⟨"RootGiveupReason", 4, true, RootStatusPage.giveupReasons⟩,
    ⟨"RootControlKind", 4, true, RootStatusPage.controlKinds⟩,
    ⟨"RootSpecReject", 4, true, RootStatusPage.specRejects⟩,
    ⟨"PpOpcode", 2, true, ppOpcodes⟩,
    ⟨"CtlResult", 2, true, ctlResults⟩,
    ⟨"WorkerHealth", 4, true, [0, 1, 2]⟩,
    ⟨"RequestKind", 4, true, [requestWork, 2, 3]⟩,
    ⟨"CompletionKind", 4, true, [0x8001, 0x8002, 0x8003]⟩,
    ⟨"CompletionStatus", 4, true, [0, 1, 2, 3, 4, 5, 6]⟩,
    ⟨"SlotPhase", 4, true, [0, 1, 2, 3, 4, 5, 6, 7, 8, 9]⟩,
    ⟨"SlotEvent", 1, false, [1, 2, 3, 4, 5, 6, 7, 8, 9, 10, 11, 12, 13]⟩,
    ⟨"AbiReject", 1, false, [0, 1, 2, 3, 4, 5, 6, 7, 8]⟩ ]

def description : Description where
  abiVersion := abiVersion
  magics := magics
  records := records
  enums := enums

/-! ### Places -/

def fieldOf (type name : String) : Option Field :=
  (findRecord records type).bind fun record => record.fields.find? fun field => field.name == name

/-- The offset of a field path, and the last field of it. -/
def place (type : String) : List String → Nat × Option Field
  | [] => (0, none)
  | name :: rest =>
      match fieldOf type name with
      | none => (0, none)
      | some field =>
          let (offset, last) := place field.element rest
          (field.offset + offset, last.or (some field))

/-- `at` -/
def offsetOf (type : String) (path : List String) : Nat := (place type path).1

def sizeOf (type : String) (path : List String) : Nat := ((place type path).2.map Field.size).getD 0

def int (type : String) (path : List String) : IntAt := ⟨offsetOf type path, sizeOf type path⟩
def span (type : String) (path : List String) : Span := ⟨offsetOf type path, sizeOf type path⟩

def rowsOf (type : String) (path : List String) : Rows :=
  match (place type path).2 with
  | none => ⟨0, 0, 0⟩
  | some field => ⟨offsetOf type path, field.size / field.count, field.count⟩

def windowOf (type : String) (path head : List String) (mode : WindowMode) : Window :=
  let rows := rowsOf type path
  { headOffset := offsetOf type head, base := rows.base, stride := rows.stride
    capacity := rows.count, mode }

/-- The size of a record; the tables give each checker its own. -/
def recordSize (type : String) : Nat := ((findRecord records type).map Record.size).getD 0

/-! ### Rules -/

private def status (path : List String) : IntAt := int "RootStatusPage" path
private def child (name : String) : IntAt := int "RootChildStatus" [name]
private def event (name : String) : IntAt := int "RootEvent" [name]

def statusTable : Rows := rowsOf "RootStatusPage" ["children"]
def statusRows : Scope := .rows statusTable
def statusEvents : Scope :=
  .window (windowOf "RootStatusPage" ["events"] ["header", "event_head"] .ring)

def faultWords : Nat := RootStatusPage.faultWords

/-- Events of one kind name a declared nonzero tag. -/
def detailMember (kind : RootEventKind) (enumeration : String) : Rule :=
  ⟨.unknownKind, statusEvents,
    .kindMember (event "kind") kind.tag ⟨event "detail", enumeration, true⟩⟩

def rootStatusRules : List Rule :=
  [ ⟨.magic, .whole, .magic (status ["header", "magic"]) magicStatus⟩,
    ⟨.version, .whole, .version (status ["header", "abi_version"]) abiVersion⟩,
    ⟨.torn, .whole, .seqlock (status ["header", "seq"])⟩,
    ⟨.reserved, .whole, .zero (span "RootStatusPage" ["header", "reserved0"])⟩,
    ⟨.reserved, statusRows, .zero (span "RootChildStatus" ["reserved"])⟩,
    ⟨.reserved, .whole, .zero (span "RootStatusPage" ["reserved_tail"])⟩,
    ⟨.unknownKind, statusRows, .member ⟨child "state", "RootChildWireState", false⟩⟩,
    ⟨.unknownKind, statusRows, .member ⟨child "desired", "RootDesired", false⟩⟩,
    ⟨.unknownKind, statusEvents, .member ⟨event "kind", "RootEventKind", true⟩⟩,
    detailMember .giveup "RootGiveupReason",
    detailMember .control "RootControlKind",
    detailMember .specReject "RootSpecReject",
    ⟨.range, .whole, .equal (status ["header", "child_count"]) childCount⟩,
    ⟨.range, .whole, .atMost (status ["header", "applied_bank"]) 1⟩,
    ⟨.range, statusRows, .atMost (child "flags") (faultWords ||| downIntervalOpen.toNat)⟩,
    ⟨.range, statusRows, .implies (child "flags") faultMr1Valid.toNat faultMr0Valid.toNat⟩,
    ⟨.range, statusRows, .zeroWhenUnset (child "state") ⟨0, recordSize "RootChildStatus"⟩⟩,
    ⟨.range, statusEvents, .atMost (event "flags") faultWords⟩,
    ⟨.range, statusEvents, .implies (event "flags") faultMr1Valid.toNat faultMr0Valid.toNat⟩,
    ⟨.range, statusEvents, .onlyForKind (event "flags") (event "kind") RootEventKind.fault.tag⟩,
    ⟨.range, statusEvents,
      .eventChild (event "kind") (event "child") rootEventNoChild.toNat
        RootStatusPage.globalEventKinds statusTable (child "state")⟩,
    ⟨.range, .whole,
      .ringDropped (status ["header", "event_head"]) (status ["header", "event_dropped"])
        eventCount⟩ ]

private def spec (path : List String) : IntAt := int "SpecPage" path

def specHeaderRules : List Rule :=
  [ ⟨.magic, .whole, .magic (spec ["header", "magic"]) magicSpec⟩,
    ⟨.version, .whole, .version (spec ["header", "abi_version"]) abiVersion⟩,
    ⟨.reserved, .whole, .zero (span "SpecPage" ["header", "reserved"])⟩,
    ⟨.range, .whole, .atMost (spec ["header", "active_bank"]) 1⟩ ]

def specBank : Scope := .selected (rowsOf "SpecPage" ["banks"])
private def bank (name : String) : IntAt := int "SpecBank" [name]

def specBankRules : List Rule :=
  [ ⟨.torn, specBank, .seqlock (bank "bank_seq")⟩,
    ⟨.checksum, specBank,
      .crc32 ⟨0, recordSize "SpecBank"⟩ (bank "crc32") [span "SpecBank" ["bank_seq"]]⟩,
    ⟨.reserved, specBank, .zero (span "SpecBank" ["reserved_tail"])⟩,
    ⟨.range, specBank, .equal (bank "length") (recordSize "SpecBank")⟩,
    ⟨.range, specBank, .equal (bank "record_count") childCount⟩ ]

/-- The checks of a command and of a reply. -/
def ctlRules (type : String) (magic : Nat) (kind enumeration : String) : List Rule :=
  [ ⟨.magic, .whole, .magic (int type ["magic"]) magic⟩,
    ⟨.version, .whole, .version (int type ["version"]) abiVersion⟩,
    ⟨.reserved, .whole, .zero (span type ["reserved0"])⟩,
    ⟨.reserved, .whole, .zero (span type ["reserved"])⟩,
    ⟨.unknownKind, .whole, .member ⟨int type [kind], enumeration, true⟩⟩ ]

private def identity (path : List String) : IntAt := int "WorkerIdentity" path

def workerIdentityRules : List Rule :=
  [ ⟨.magic, .whole, .magic (identity ["header", "magic"]) magicWorkerIdentity⟩,
    ⟨.version, .whole, .version (identity ["header", "abi_version"]) abiVersion⟩,
    ⟨.torn, .whole, .nonzero (identity ["header", "generation"])⟩,
    ⟨.reserved, .whole, .zero (span "WorkerIdentity" ["header", "reserved0"])⟩,
    ⟨.reserved, .whole, .zero (span "WorkerIdentity" ["header", "reserved"])⟩,
    ⟨.reserved, .whole, .zero (span "WorkerIdentity" ["reserved_tail"])⟩,
    ⟨.unknownKind, .whole, .member ⟨identity ["header", "desired_phase"], "SlotPhase", true⟩⟩ ]

private def worker (path : List String) : IntAt := int "WorkerStatus" path

def workerStatusRules : List Rule :=
  [ ⟨.magic, .whole, .magic (worker ["header", "magic"]) magicWorkerStatus⟩,
    ⟨.version, .whole, .version (worker ["header", "abi_version"]) abiVersion⟩,
    ⟨.torn, .whole, .seqlock (worker ["header", "status_seq"])⟩,
    ⟨.reserved, .whole, .zero (span "WorkerStatus" ["header", "reserved0"])⟩,
    ⟨.reserved, .whole, .zero (span "WorkerStatus" ["reserved_tail"])⟩,
    ⟨.unknownKind, .whole, .member ⟨worker ["header", "phase"], "SlotPhase", false⟩⟩,
    ⟨.unknownKind, .whole, .member ⟨worker ["header", "health"], "WorkerHealth", false⟩⟩ ]

private def journal (path : List String) : IntAt := int "JournalPage" path
private def entry (name : String) : IntAt := int "JournalEntry" [name]

def journalWindow : Window :=
  windowOf "JournalPage" ["entries"] ["header", "published_seq"] .journal

def journalEntries : Scope := .window journalWindow

/-- The checks of a journal; only completions carry a status. -/
def journalRules (magic : Nat) (completion : Bool) : List Rule :=
  [ ⟨.magic, .whole, .magic (journal ["header", "magic"]) magic⟩,
    ⟨.version, .whole, .version (journal ["header", "abi_version"]) abiVersion⟩,
    ⟨.torn, .whole, .nonzero (journal ["header", "generation"])⟩,
    ⟨.torn, journalEntries,
      .entryIdentity (offsetOf "JournalPage" ["header", "generation"]) (entry "generation")
        (entry "sequence")⟩,
    ⟨.reserved, .whole, .zero (span "JournalPage" ["header", "reserved0"])⟩,
    ⟨.reserved, .whole, .zero (span "JournalPage" ["header", "reserved"])⟩,
    ⟨.reserved, journalEntries, .zero (span "JournalEntry" ["flags"])⟩,
    ⟨.reserved, journalEntries, .zero (span "JournalEntry" ["reserved0"])⟩,
    ⟨.reserved, journalEntries, .zero (span "JournalEntry" ["reserved1"])⟩ ] ++
  (if completion then []
    else [⟨.reserved, journalEntries, .zero (span "JournalEntry" ["status"])⟩]) ++
  [ ⟨.reserved, journalEntries,
      .payloadTail (entry "payload_length") (span "JournalEntry" ["payload"])⟩ ] ++
  (if completion then
    [ ⟨.unknownKind, journalEntries, .member ⟨entry "kind", "CompletionKind", false⟩⟩,
      ⟨.unknownKind, journalEntries, .member ⟨entry "status", "CompletionStatus", false⟩⟩ ]
    else [⟨.unknownKind, journalEntries, .member ⟨entry "kind", "RequestKind", false⟩⟩]) ++
  [ ⟨.range, .whole, .equal (journal ["header", "capacity"]) journalCapacity⟩,
    ⟨.range, .whole, .equal (journal ["header", "entry_size"]) (recordSize "JournalEntry")⟩,
    ⟨.range, journalEntries, .atMost (entry "payload_length") journalPayloadSize⟩ ]

/-! ### Checkers -/

private def checkerOf (name record : String) (rules : List Rule)
    (selector : Option Rows := none) : Checker :=
  { name, record, size := recordSize record, selector, rules }

def rootStatusPage : Checker := checkerOf "root_status_page" "RootStatusPage" rootStatusRules
def specHeader : Checker := checkerOf "spec_header" "SpecPage" specHeaderRules
def specBankChecker : Checker :=
  checkerOf "spec_bank" "SpecPage" specBankRules (some (rowsOf "SpecPage" ["banks"]))
def ctlCommand : Checker :=
  checkerOf "ctl_command" "CtlCommand" (ctlRules "CtlCommand" magicCommand "opcode" "PpOpcode")
def ctlReply : Checker :=
  checkerOf "ctl_reply" "CtlReply" (ctlRules "CtlReply" magicReply "result" "CtlResult")
def workerIdentity : Checker := checkerOf "worker_identity" "WorkerIdentity" workerIdentityRules
def workerStatus : Checker := checkerOf "worker_status" "WorkerStatus" workerStatusRules
def requestJournal : Checker :=
  checkerOf "request_journal" "JournalPage" (journalRules magicRequest false)
def completionJournal : Checker :=
  checkerOf "completion_journal" "JournalPage" (journalRules magicCompletion true)

def checkers : List Checker :=
  [rootStatusPage, specHeader, specBankChecker, ctlCommand, ctlReply, workerIdentity,
    workerStatus, requestJournal, completionJournal]

/-- The tables are valid, and lie where the contract's tests say. -/
example : (∀ checker ∈ checkers, validateChecker checker description = .ok ()) ∧
    offsetOf "RootStatusPage" ["events"] = 5048 ∧ (rowsOf "SpecPage" ["banks"]).base = 64 ∧
    (rowsOf "SpecPage" ["banks"]).stride = 2016 ∧ offsetOf "SpecBank" ["bank_seq"] = 20 := by
  decide +kernel

end Chrysopolis.Codegen.CheckTable
