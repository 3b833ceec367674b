import Chrysopolis.Beam.SnapshotCodec

/-! `restart.c`: the capture of the writable segment at the cold boot and its
restore at every reset. Memory is one address space; the linker symbols and the
offsets of the snapshot region are parameters under the file's static asserts. -/

set_option autoImplicit false

namespace Chrysopolis.Beam

open Chrysopolis.Support

/-- `beam_survivor_gap_words` -/
def SURVIVOR_GAP_WORDS : Nat := 8

/-- The linked image: its symbols and the sizes and offsets it was built with. -/
structure Image where
  /-- `__init_array_start`, `_bss` and `_bss_end` -/
  segmentStart : Nat
  bssStart : Nat
  bssEnd : Nat
  /-- `&beam_snapshot_start`, a pointer in `.bss` the Microkit tool patches -/
  snapshotStart : Nat
  snapshotSize : Nat
  resetStackOff : Nat
  resetStackSize : Nat
  survivorsOff : Nat
  survivorsSize : Nat
  dataOff : Nat
  exitFaultBase : Nat
  exitFaultSize : Nat
  addresses : bssEnd < UINTPTR_END
  patched : bssStart ≤ snapshotStart ∧ snapshotStart + 8 ≤ bssEnd
  header : 5 * 8 ≤ resetStackOff
  stack : resetStackOff + resetStackSize ≤ survivorsOff
  survivors : survivorsOff + survivorsSize ≤ dataOff
  data : dataOff < snapshotSize

/-- `snapshot_base` -/
def snapshotBase (image : Image) (memory : Memory) : Nat := memory.load image.snapshotStart 8

/-- `current_layout` -/
def currentLayout (image : Image) (base : Nat) : RestartLayout where
  snapshotBase := base
  snapshotSize := image.snapshotSize
  dataOff := image.dataOff
  segmentStart := image.segmentStart
  bssStart := image.bssStart
  bssEnd := image.bssEnd
  exitFaultBase := image.exitFaultBase
  exitFaultSize := image.exitFaultSize

/-- How `beam_boot_capture` ends. `restart_fail` faults, so `failed` is final. -/
inductive CaptureOutcome where
  | unavailable
  | alreadyCaptured
  | failed (why : String)
  | captured
  deriving Repr, DecidableEq

/-- `capture_survivors` -/
def captureSurvivors (image : Image) (base : Nat) (memory : Memory) :
    Memory × Except SnapshotStatus Nat :=
  survivorsEncode memory image.bssStart (image.bssEnd - image.bssStart) SURVIVOR_GAP_WORDS
    (base + image.survivorsOff) image.survivorsSize

/-- `beam_boot_capture` -/
def bootCapture (image : Image) (sp : Nat) (memory : Memory) : Memory × CaptureOutcome :=
  let base := snapshotBase image memory
  if base = 0 then (memory, .unavailable)
  else if snapshotCaptured (snapshotHdr memory base).magic then (memory, .alreadyCaptured)
  else
    let layout := currentLayout image base
    let layoutStatus := restartLayoutCheck layout
    if layoutStatus ≠ .ok then (memory, .failed (layoutStatusName layoutStatus))
    else
      let dataLen := layout.bssStart - layout.segmentStart
      let copied := memory.copy (base + image.dataOff) image.segmentStart dataLen
      let described := copied.store [⟨base + 16, 8, sp⟩, ⟨base + 24, 8, dataLen⟩]
      match captureSurvivors image base described with
      | (encoded, .error status) => (encoded, .failed (snapshotStatusName status))
      | (encoded, .ok used) =>
          (encoded.store [⟨base + 32, 8, used⟩, ⟨base + 8, 8, 1⟩, ⟨base, 8, SNAPSHOT_MAGIC⟩],
            .captured)

/-- The replay loop: every record copied back into `.bss`. -/
def replaySurvivors (memory : Memory) (area used bss bssLen cursor : Nat) : Memory :=
  match _read : survivorRead memory area used bssLen cursor with
  | .record run payload next =>
      replaySurvivors (memory.copy (bss + run.offset) payload run.len) area used bss bssLen next
  | _ => memory
termination_by used - cursor
decreasing_by
  have later := cursor_of_survivorRead _read
  omega

/-- `beam_reset_restore`: the stack pointer to go on with, or the reason it faults. -/
def resetRestore (image : Image) (memory : Memory) : Memory × Except String Nat :=
  let base := snapshotBase image memory
  let layout := currentLayout image base
  let layoutStatus := restartLayoutCheck layout
  if layoutStatus ≠ .ok then (memory, .error (layoutStatusName layoutStatus))
  else
    let hdr := snapshotHdr memory base
    let survivors := base + image.survivorsOff
    let status := snapshotValidate memory hdr survivors image.survivorsSize layout
    if status ≠ .ok then (memory, .error (snapshotStatusName status))
    else
      let bssLen := layout.bssEnd - layout.bssStart
      let restored := memory.copy image.segmentStart (base + image.dataOff) hdr.dataBytes
      let zeroed := restored.clear image.bssStart bssLen
      let replayed := replaySurvivors zeroed survivors hdr.survivorBytes image.bssStart bssLen 0
      let generation := replayed.load (base + 8) 8
      (replayed.store [⟨base + 8, 8, generation + 1⟩], .ok hdr.savedSp)

end Chrysopolis.Beam
