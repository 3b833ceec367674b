import Chrysopolis.Abi.ChecksProperties

/-! Writer side of the spec page, one store group a call so that a commit can stop
after any step: open, write, seal, close, flip. -/

set_option autoImplicit false

namespace Chrysopolis.Abi

open Chrysopolis.Support

inductive SpecWriterPhase where
  | idle
  /-- The target bank's sequence is odd. -/
  | opened
  | written
  | sealed
  /-- The target bank's sequence is the next even value. -/
  | closed
  /-- The header selects the target bank; begin may start the next commit. -/
  | flipped
  deriving DecidableEq, Repr

inductive SpecWriteResult where
  | ok | badState | badPage | exhausted
  deriving DecidableEq, Repr

/-- What a commit says. -/
structure Commit where
  generation : UInt64
  budget : ChildIndex → UInt32
  desired : ChildIndex → UInt8

structure SpecWriter where
  /-- The writer has a page; it gets one from begin. -/
  page : Bool := false
  phase : SpecWriterPhase := .idle
  bank : Bank := 0
  /-- The odd value open stores; close stores its successor. -/
  openSeq : UInt32 := 0
  commit : Commit := ⟨0, fun _ => 0, fun _ => 0⟩

/-- `spec_writer_init`. -/
def specWriterInit : SpecWriter := {}

/-- The bank the next commit goes to: the one the header does not name. -/
def targetBank (active : Nat) : Bank := ⟨1 - active, by omega⟩

/-- The header begin gives a zero page. -/
def freshHeader : List (SpecField × Nat) :=
  [(.header .magic, magicSpec), (.header .abiVersion, abiVersion), (.header .activeBank, 0)]

/-- The next odd value of a bank's sequence. -/
def nextOdd (seq : Nat) : Nat := seq + if seq % 2 ≠ 0 then 2 else 1

/-- `spec_writer_begin`; no page stands for a null or misaligned pointer. -/
def specWriterBegin (writer : SpecWriter) (page : Option Memory) (commit : Commit) :
    SpecWriter × Option Memory × SpecWriteResult :=
  if writer.phase ≠ .idle ∧ writer.phase ≠ .flipped then (writer, page, .badState)
  else
    match page with
    | none => (writer, none, .badPage)
    | some bytes =>
        let fresh := bytes.allZero 0 specHeaderSize
        if !fresh ∧ checkSpecHeader bytes specPageSize ≠ .ok then
          (writer, some bytes, .badPage)
        else
          let active := if fresh then 0 else specLayout.read bytes (.header .activeBank)
          let bank := targetBank active
          let seq := specLayout.read bytes (.bank bank .bankSeq)
          -- The next odd value, then the even one after it, must both fit.
          let openSeq := nextOdd seq
          if openSeq ≥ 2 ^ 32 ∨ openSeq + 1 ≥ 2 ^ 32 then (writer, some bytes, .exhausted)
          else
            ({ page := true, phase := .idle, bank, openSeq := UInt32.ofNat openSeq, commit },
              some (if fresh then specLayout.assign bytes freshHeader else bytes), .ok)

/-- The protocol steps, in commit order. -/
inductive SpecWriterStepKind where
  | stepOpen | stepWrite | stepSeal | stepClose | stepFlip
  deriving DecidableEq, Repr

/-- Each step runs from exactly one phase. -/
def transitions : SpecWriterStepKind → SpecWriterPhase × SpecWriterPhase
  | .stepOpen => (.idle, .opened)
  | .stepWrite => (.opened, .written)
  | .stepSeal => (.written, .sealed)
  | .stepClose => (.sealed, .closed)
  | .stepFlip => (.closed, .flipped)

/-- `write_payload`. -/
def writePayload (writer : SpecWriter) : List (SpecField × Nat) :=
  [ (.bank writer.bank .generation, writer.commit.generation.toNat),
    (.bank writer.bank .length, specBankSize), (.bank writer.bank .recordCount, childCount) ] ++
  (List.finRange childCount).flatMap (fun child =>
    [ (.bank writer.bank (.budget child), (writer.commit.budget child).toNat),
      (.bank writer.bank (.desired child), (writer.commit.desired child).toNat) ]) ++
  [(.bank writer.bank .reservedTail, 0)]

def bankAddress (bank : Bank) : Nat := specHeaderSize + bank.val * specBankSize

/-- The CRC `seal` computes: the stored CRC and the sequence count as zero. -/
def sealCrc (page : Memory) (bank : Bank) : UInt32 :=
  let base := bankAddress bank
  crc32Final (crc32Update (crc32Zeros (crc32Update (crc32Zeros
    (crc32Update 0xFFFFFFFF page base 12) 4) page (base + 16) 4) 4) page (base + 24) 1992)

/-- The stores of one step. -/
def actStores (writer : SpecWriter) (page : Memory) : SpecWriterStepKind → List (SpecField × Nat)
  | .stepOpen => [(.bank writer.bank .bankSeq, writer.openSeq.toNat)]
  | .stepWrite => writePayload writer
  | .stepSeal => [(.bank writer.bank .crc32, (sealCrc page writer.bank).toNat)]
  | .stepClose => [(.bank writer.bank .bankSeq, (writer.openSeq + 1).toNat)]
  | .stepFlip => [(.header .activeBank, writer.bank.val)]

/-- `spec_writer_step`, on the page the writer was given. -/
def specWriterStep (writer : SpecWriter) (page : Memory) (step : SpecWriterStepKind) :
    SpecWriter × Memory × SpecWriteResult :=
  if !writer.page ∨ writer.phase ≠ (transitions step).1 then (writer, page, .badState)
  else
    ({ writer with phase := (transitions step).2 },
      specLayout.assign page (actStores writer page step), .ok)

def commitSteps : List SpecWriterStepKind :=
  [.stepOpen, .stepWrite, .stepSeal, .stepClose, .stepFlip]

/-- Steps until the first refusal. -/
def runSteps (writer : SpecWriter) (page : Memory) :
    List SpecWriterStepKind → SpecWriter × Memory × SpecWriteResult
  | [] => (writer, page, .ok)
  | step :: steps =>
      let next := specWriterStep writer page step
      if next.2.2 = .ok then runSteps next.1 next.2.1 steps else next

/-- `spec_writer_commit`: begin, then every step. -/
def specWriterCommit (writer : SpecWriter) (page : Option Memory) (commit : Commit) :
    SpecWriter × Option Memory × SpecWriteResult :=
  match specWriterBegin writer page commit with
  | (begun, some bytes, .ok) =>
      let done := runSteps begun bytes commitSteps
      (done.1, some done.2.1, done.2.2)
  | refused => refused

/-! ### Individual stores -/

/-- One store of the machine: the bytes it writes at once. -/
abbrev UnitStore := List (Nat × UInt8)

/-- Stores made a byte at a time. -/
def byteUnits (stores : List (SpecField × Nat)) : List UnitStore :=
  ((specLayout.stores stores).flatMap Store.writes).map fun byte => [byte]

/-- Stores made a word at a time. -/
def wordUnits (stores : List (SpecField × Nat)) : List UnitStore :=
  (specLayout.stores stores).map Store.writes

/-- Magic and version go byte by byte, the selector is one word. -/
def beginUnits (page : Memory) : List UnitStore :=
  if page.allZero 0 specHeaderSize then
    byteUnits [(.header .magic, magicSpec), (.header .abiVersion, abiVersion)] ++
      wordUnits [(.header .activeBank, 0)]
  else []

/-- Sequence and selector words are atomic, payload and CRC go byte by byte. -/
def stepUnits (writer : SpecWriter) (page : Memory) (step : SpecWriterStepKind) :
    List UnitStore :=
  match step with
  | .stepWrite | .stepSeal => byteUnits (actStores writer page step)
  | _ => wordUnits (actStores writer page step)

def runUnits (writer : SpecWriter) (page : Memory) : List SpecWriterStepKind → List UnitStore
  | [] => []
  | step :: steps =>
      let next := specWriterStep writer page step
      if next.2.2 = .ok then stepUnits writer page step ++ runUnits next.1 next.2.1 steps else []

/-- Every store of one commit by a fresh writer, in order. -/
def commitUnits (page : Memory) (commit : Commit) : List UnitStore :=
  match specWriterBegin specWriterInit (some page) commit with
  | (begun, some bytes, .ok) => beginUnits page ++ runUnits begun bytes commitSteps
  | _ => []

/-- The page when the writer is cut off after so many stores. -/
def cutCommit (page : Memory) (commit : Commit) (count : Nat) : Memory :=
  page.write ((commitUnits page commit).take count).flatten

end Chrysopolis.Abi
