import Chrysopolis.Beam.Layout
import Chrysopolis.Support.MemoryBlocks

/-! `beam_snapshot_codec.c`: the nonzero runs of `.bss` recorded one after another,
read back one at a time, and the checks of a whole snapshot before a restore. -/

set_option autoImplicit false

namespace Chrysopolis.Beam

open Chrysopolis.Support

/-- `beam_snapshot_magic` -/
def SNAPSHOT_MAGIC : Nat := 0x43485259534E5031

def UINT64_MAX : Nat := 2 ^ 64 - 1

/-- `word_bytes` -/
def WORD_BYTES : Nat := 8

/-- `header_bytes` -/
def HEADER_BYTES : Nat := 8

/-- `beam_snapshot_status` -/
inductive SnapshotStatus where
  | ok
  | survivorOverflow
  | bssTooLarge
  | notCaptured
  | badGeneration
  | dataLengthMismatch
  | survivorLengthTooLarge
  | badStackPointer
  | survivorTruncated
  | survivorOutOfBounds
  | survivorEmpty
  | survivorMisaligned
  | survivorOutOfOrder
  deriving Repr, DecidableEq

/-- `beam_snapshot_status_name` -/
def snapshotStatusName : SnapshotStatus → String
  | .ok => "ok"
  | .survivorOverflow => "survivor-area-overflow"
  | .bssTooLarge => "bss-too-large"
  | .notCaptured => "reset-without-snapshot"
  | .badGeneration => "bad-generation"
  | .dataLengthMismatch => "data-length-mismatch"
  | .survivorLengthTooLarge => "survivor-length-too-large"
  | .badStackPointer => "bad-stack-pointer"
  | .survivorTruncated => "survivor-truncated"
  | .survivorOutOfBounds => "survivor-out-of-bounds"
  | .survivorEmpty => "survivor-empty"
  | .survivorMisaligned => "survivor-misaligned"
  | .survivorOutOfOrder => "survivor-out-of-order"

/-! ## Encoding -/

/-- `load_word` -/
def loadWord (memory : Memory) (bss index : Nat) : Nat :=
  memory.load (bss + index * WORD_BYTES) WORD_BYTES

/-- `append_run`: one record appended, or nothing when it does not fit. -/
def appendRun (memory : Memory) (bss offset len out capacity used : Nat) :
    Option (Memory × Nat) :=
  if capacity - used < HEADER_BYTES ∨ capacity - used - HEADER_BYTES < len then none
  else
    let headed := memory.store [⟨out + used, 4, offset⟩, ⟨out + used + 4, 4, len⟩]
    some (headed.copy (out + used + HEADER_BYTES) (bss + offset) len, used + HEADER_BYTES + len)

/-- The loop that extends a run while the next nonzero word is near. It answers
where the scan goes on and the last nonzero word. -/
def extendRun (memory : Memory) (bss nwords gapWords i last : Nat) : Nat × Nat :=
  if i < nwords ∧ i - last ≤ gapWords then
    extendRun memory bss nwords gapWords (i + 1) (if loadWord memory bss i ≠ 0 then i else last)
  else (i, last)
termination_by nwords - i

theorem le_extendRun (memory : Memory) (bss nwords gapWords i last : Nat) :
    i ≤ (extendRun memory bss nwords gapWords i last).1 := by
  induction i, last using extendRun.induct memory bss nwords gapWords with
  | case1 i last more ih =>
      rw [extendRun, if_pos more]
      exact (Nat.le_succ i).trans ih
  | case2 i last done =>
      rw [extendRun, if_neg done]

/-- The scan of the whole words from `i` on. -/
def encodeWords (memory : Memory) (bss nwords gapWords out capacity i used : Nat) :
    Memory × Option Nat :=
  if _more : i < nwords then
    if loadWord memory bss i = 0 then
      encodeWords memory bss nwords gapWords out capacity (i + 1) used
    else
      let run := extendRun memory bss nwords gapWords (i + 1) i
      match appendRun memory bss (i * WORD_BYTES) ((run.2 - i + 1) * WORD_BYTES) out capacity
        used with
      | none => (memory, none)
      | some (appended, used) => encodeWords appended bss nwords gapWords out capacity run.1 used
  else (memory, some used)
termination_by nwords - i
decreasing_by
  · omega
  · exact Nat.sub_lt_sub_left _more (le_extendRun memory bss nwords _ (i + 1) i)

/-- The bytes after the last whole word: one record when any of them is nonzero. -/
def encodeTail (memory : Memory) (bss bssLen out capacity used : Nat) : Memory × Option Nat :=
  let tailOffset := bssLen / WORD_BYTES * WORD_BYTES
  if memory.allZero (bss + tailOffset) (bssLen - tailOffset) then (memory, some used)
  else match appendRun memory bss tailOffset (bssLen - tailOffset) out capacity used with
    | none => (memory, none)
    | some (appended, used) => (appended, some used)

/-- `beam_survivors_encode`, with the memory as it is left. -/
def survivorsEncode (memory : Memory) (bss bssLen gapWords out capacity : Nat) :
    Memory × Except SnapshotStatus Nat :=
  if bssLen > UINT32_MAX then (memory, .error .bssTooLarge)
  else match encodeWords memory bss (bssLen / WORD_BYTES) gapWords out capacity 0 0 with
    | (scanned, none) => (scanned, .error .survivorOverflow)
    | (scanned, some written) =>
        match encodeTail scanned bss bssLen out capacity written with
        | (finished, none) => (finished, .error .survivorOverflow)
        | (finished, some used) => (finished, .ok used)

/-! ## Reading -/

/-- `beam_survivor_hdr_t` -/
structure SurvivorHdr where
  offset : Nat
  len : Nat
  deriving Repr, DecidableEq

/-- `beam_survivor_read_status`, with what a record writes. -/
inductive SurvivorRead where
  | record (run : SurvivorHdr) (payload cursor : Nat)
  | finished
  | truncated
  | outOfBounds
  deriving Repr, DecidableEq

/-- The header of the record at an address. -/
def survivorHdr (memory : Memory) (address : Nat) : SurvivorHdr where
  offset := memory.load address 4
  len := memory.load (address + 4) 4

/-- `beam_survivor_read` -/
def survivorRead (memory : Memory) (area len bssLen cursor : Nat) : SurvivorRead :=
  if cursor = len then .finished
  else if cursor > len ∨ len - cursor < HEADER_BYTES then .truncated
  else
    let hdr := survivorHdr memory (area + cursor)
    if len - cursor - HEADER_BYTES < hdr.len then .truncated
    else if hdr.offset + hdr.len > bssLen then .outOfBounds
    else .record hdr (area + cursor + HEADER_BYTES) (cursor + HEADER_BYTES + hdr.len)

theorem cursor_of_survivorRead {memory : Memory} {area len bssLen cursor payload next : Nat}
    {run : SurvivorHdr}
    (read : survivorRead memory area len bssLen cursor = .record run payload next) :
    cursor < next ∧ next ≤ len := by
  unfold survivorRead at read
  split at read
  · cases read
  split at read
  · cases read
  rename_i inside
  dsimp only at read
  split at read
  · cases read
  rename_i fits
  split at read
  · cases read
  cases read
  simp only [HEADER_BYTES] at inside fits ⊢
  omega

/-! ## Validation -/

/-- `beam_snapshot_hdr_t`, the header at offset 0 of the snapshot region. -/
structure SnapshotHdr where
  magic : Nat
  generation : Nat
  savedSp : Nat
  dataBytes : Nat
  survivorBytes : Nat
  deriving Repr, DecidableEq

def snapshotHdr (memory : Memory) (base : Nat) : SnapshotHdr where
  magic := memory.load base 8
  generation := memory.load (base + 8) 8
  savedSp := memory.load (base + 16) 8
  dataBytes := memory.load (base + 24) 8
  survivorBytes := memory.load (base + 32) 8

/-- `beam_snapshot_captured` -/
def snapshotCaptured (magic : Nat) : Bool := magic == SNAPSHOT_MAGIC

/-- `stack_top_is_valid` -/
def stackTopIsValid (sp : Nat) (layout : RestartLayout) : Bool :=
  sp != 0 && sp % 16 == 0 && !rangeHoldsStackTop layout.snapshotBase layout.snapshotSize sp &&
    !rangeHoldsStackTop layout.segmentStart (layout.bssEnd - layout.segmentStart) sp

/-- The loop of `beam_snapshot_validate` over the records from `cursor` on. -/
def validateRecords (memory : Memory) (area used bssLen cursor previousEnd : Nat) :
    SnapshotStatus :=
  match _read : survivorRead memory area used bssLen cursor with
  | .finished => .ok
  | .truncated => .survivorTruncated
  | .outOfBounds => .survivorOutOfBounds
  | .record run _ next =>
      if run.len = 0 then .survivorEmpty
      else
        let tailOffset := bssLen - bssLen % WORD_BYTES
        let isTail := run.offset == tailOffset && run.offset + run.len == bssLen
        if run.offset % WORD_BYTES ≠ 0 ∨ (run.len % WORD_BYTES ≠ 0 ∧ !isTail) then
          .survivorMisaligned
        else if run.offset < previousEnd then .survivorOutOfOrder
        else validateRecords memory area used bssLen next (run.offset + run.len)
termination_by used - cursor
decreasing_by
  have later := cursor_of_survivorRead _read
  omega

/-- `beam_snapshot_validate` -/
def snapshotValidate (memory : Memory) (hdr : SnapshotHdr) (survivors survivorsSize : Nat)
    (layout : RestartLayout) : SnapshotStatus :=
  if !snapshotCaptured hdr.magic then .notCaptured
  else if hdr.generation = 0 ∨ hdr.generation = UINT64_MAX then .badGeneration
  else if hdr.dataBytes ≠ layout.bssStart - layout.segmentStart then .dataLengthMismatch
  else if hdr.survivorBytes > survivorsSize then .survivorLengthTooLarge
  else if !stackTopIsValid hdr.savedSp layout then .badStackPointer
  else
    validateRecords memory survivors hdr.survivorBytes (layout.bssEnd - layout.bssStart) 0 0

end Chrysopolis.Beam
