import Mathlib.Algebra.Group.Nat.Defs
import Mathlib.Data.Nat.Basic

/-! `beam_restart_layout.h`: the address checks before a capture or a restore of
`beam_server`'s writable segment. Addresses and sizes are 64-bit words. -/

set_option autoImplicit false

namespace Chrysopolis.Beam

/-- One past the last address. -/
def UINTPTR_END : Nat := 2 ^ 64

def UINT32_MAX : Nat := 2 ^ 32 - 1

/-- `beam_restart_layout` -/
structure RestartLayout where
  snapshotBase : Nat
  snapshotSize : Nat
  dataOff : Nat
  segmentStart : Nat
  bssStart : Nat
  bssEnd : Nat
  exitFaultBase : Nat
  exitFaultSize : Nat
  deriving Repr, DecidableEq

/-- `beam_restart_layout_status` -/
inductive LayoutStatus where
  | ok
  | zeroBase
  | rangeWraps
  | segmentOrder
  | bssTooLarge
  | dataOverflow
  | snapshotOverlapsSegment
  | exitFaultOverlaps
  deriving Repr, DecidableEq

/-- `beam_range_fits` -/
def rangeFits (start size : Nat) : Bool := start + size < UINTPTR_END

/-- `beam_ranges_overlap` -/
def rangesOverlap (a aSize b bSize : Nat) : Bool :=
  aSize != 0 && bSize != 0 && a < b + bSize && b < a + aSize

/-- `beam_range_holds_stack_top` -/
def rangeHoldsStackTop (start size sp : Nat) : Bool := sp > start && sp - start ≤ size

/-- `beam_restart_layout_check` -/
def restartLayoutCheck (layout : RestartLayout) : LayoutStatus :=
  if layout.snapshotBase = 0 then .zeroBase
  else if !rangeFits layout.snapshotBase layout.snapshotSize ||
      !rangeFits layout.exitFaultBase layout.exitFaultSize then .rangeWraps
  else if layout.segmentStart > layout.bssStart ∨ layout.bssStart > layout.bssEnd then
    .segmentOrder
  else if layout.bssEnd - layout.bssStart > UINT32_MAX then .bssTooLarge
  else if layout.dataOff > layout.snapshotSize ∨
      layout.bssStart - layout.segmentStart > layout.snapshotSize - layout.dataOff then
    .dataOverflow
  else
    let segmentSize := layout.bssEnd - layout.segmentStart
    if rangesOverlap layout.snapshotBase layout.snapshotSize layout.segmentStart segmentSize then
      .snapshotOverlapsSegment
    else if rangesOverlap layout.exitFaultBase layout.exitFaultSize layout.snapshotBase
          layout.snapshotSize ||
        rangesOverlap layout.exitFaultBase layout.exitFaultSize layout.segmentStart
          segmentSize then .exitFaultOverlaps
    else .ok

/-- `beam_restart_layout_status_name` -/
def layoutStatusName : LayoutStatus → String
  | .ok => "ok"
  | .zeroBase => "no-snapshot-region"
  | .rangeWraps => "range-wraps"
  | .segmentOrder => "segment-order"
  | .bssTooLarge => "bss-too-large"
  | .dataOverflow => "data-area-overflow"
  | .snapshotOverlapsSegment => "snapshot-overlaps-segment"
  | .exitFaultOverlaps => "exit-fault-mapped"

/-- A layout the restart may work on: both ranges are ordered and apart, and the
data fits its area. -/
structure SoundLayout (layout : RestartLayout) : Prop where
  based : layout.snapshotBase ≠ 0
  fits : layout.snapshotBase + layout.snapshotSize < UINTPTR_END
  dataOrder : layout.segmentStart ≤ layout.bssStart
  bssOrder : layout.bssStart ≤ layout.bssEnd
  bssSize : layout.bssEnd - layout.bssStart ≤ UINT32_MAX
  dataArea : layout.dataOff + (layout.bssStart - layout.segmentStart) ≤ layout.snapshotSize
  apart : layout.snapshotSize = 0 ∨ layout.bssEnd = layout.segmentStart ∨
    layout.snapshotBase + layout.snapshotSize ≤ layout.segmentStart ∨
      layout.bssEnd ≤ layout.snapshotBase

theorem soundLayout_of_check {layout : RestartLayout}
    (passed : restartLayoutCheck layout = .ok) : SoundLayout layout := by
  unfold restartLayoutCheck at passed
  split at passed
  · cases passed
  rename_i based
  split at passed
  · cases passed
  rename_i fits
  simp only [rangeFits, Bool.or_eq_true, Bool.not_eq_true', decide_eq_false_iff_not] at fits
  split at passed
  · cases passed
  rename_i order
  split at passed
  · cases passed
  rename_i bssSize
  split at passed
  · cases passed
  rename_i data
  dsimp only at passed
  split at passed
  · cases passed
  rename_i apart
  simp only [rangesOverlap, Bool.and_eq_true, bne_iff_ne, decide_eq_true_eq] at apart
  refine ⟨based, ?_, ?_, ?_, ?_, ?_, ?_⟩ <;> omega

end Chrysopolis.Beam
