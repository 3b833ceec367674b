import Chrysopolis.Support.Layout

/-! The wire contract of Root's status page and the BEAM's spec page: constants,
enumerations with their tags, and the field layouts of both pages. -/

set_option autoImplicit false

namespace Chrysopolis.Abi

open Chrysopolis.Support

def abiVersion : Nat := 1
def childCount : Nat := 62
def eventCount : Nat := 128

/-- "CHRYSTA1" as a little-endian word. -/
def magicStatus : Nat := 0x3141545359524843

/-- "CHRYSPE1" as a little-endian word. -/
def magicSpec : Nat := 0x3145505359524843

def faultMr0Valid : UInt16 := 1
def faultMr1Valid : UInt16 := 2
def downIntervalOpen : UInt16 := 4

/-- The child byte of an event about no child. -/
def rootEventNoChild : UInt8 := 255

/-- A child row index. -/
abbrev ChildIndex := Fin childCount

inductive RootChildWireState where
  | unset | live | stopped | gone | quarantined
  deriving DecidableEq, Repr

def RootChildWireState.tag : RootChildWireState → Nat
  | unset => 0 | live => 1 | stopped => 2 | gone => 3 | quarantined => 4

inductive RootDesired where
  | unset | running | stopped
  deriving DecidableEq, Repr

def RootDesired.tag : RootDesired → Nat
  | unset => 0 | running => 1 | stopped => 2

inductive RootEventKind where
  | unset | boot | fault | restart | stop | giveup | quarantine | reclaim | control | specReject
  deriving DecidableEq, Repr

def RootEventKind.tag : RootEventKind → Nat
  | unset => 0 | boot => 1 | fault => 2 | restart => 3 | stop => 4 | giveup => 5
  | quarantine => 6 | reclaim => 7 | control => 8 | specReject => 9

inductive RootGiveupReason where
  | unset | budgetExhausted | windowExhausted | lifetimeExhausted | noEntry
  deriving DecidableEq, Repr

def RootGiveupReason.tag : RootGiveupReason → Nat
  | unset => 0 | budgetExhausted => 1 | windowExhausted => 2 | lifetimeExhausted => 3
  | noEntry => 4

inductive RootControlKind where
  | unset | faultInject | restartChild
  deriving DecidableEq, Repr

def RootControlKind.tag : RootControlKind → Nat
  | unset => 0 | faultInject => 1 | restartChild => 2

inductive RootSpecReject where
  | unset | header | bankTorn | bankChecksum | bankMalformed | undeclaredChild | regressed
  | conflict | unstableCopy
  deriving DecidableEq, Repr

def RootSpecReject.tag : RootSpecReject → Nat
  | unset => 0 | header => 1 | bankTorn => 2 | bankChecksum => 3 | bankMalformed => 4
  | undeclaredChild => 5 | regressed => 6 | conflict => 7 | unstableCopy => 8

inductive PpOpcode where
  | unset | hello | restartChild | startSlot | stopChild | resumeChild | reclaimSlot | sync
  deriving DecidableEq, Repr

def PpOpcode.tag : PpOpcode → Nat
  | unset => 0 | hello => 1 | restartChild => 2 | startSlot => 3 | stopChild => 4
  | resumeChild => 5 | reclaimSlot => 6 | sync => 7

inductive CtlResult where
  | unset | ok | refused | ignored | rateLimited | badArg | badVersion | internalError
  | alreadyDone | stale
  deriving DecidableEq, Repr

/-- One event of the status ring. -/
structure RootEvent where
  ticks : UInt64
  kind : RootEventKind
  child : UInt8
  flags : UInt16 := 0
  detail : UInt32 := 0
  a : UInt64 := 0
  b : UInt64 := 0
  deriving DecidableEq, Repr

/-! ### Status page -/

inductive RootStatusHeaderField where
  | magic | abiVersion | childCount | seq | rootGeneration | beamIncarnation | nowTicks | cntfrq
  | eventHead | eventDropped | appliedSpecGeneration | appliedBank | reserved0
  deriving DecidableEq

namespace RootStatusHeaderField

def offset : RootStatusHeaderField → Nat
  | magic => 0 | abiVersion => 8 | childCount => 12 | seq => 16 | rootGeneration => 24
  | beamIncarnation => 32 | nowTicks => 40 | cntfrq => 48 | eventHead => 56
  | eventDropped => 64 | appliedSpecGeneration => 72 | appliedBank => 80 | reserved0 => 84

def width : RootStatusHeaderField → Nat
  | abiVersion | childCount | appliedBank | reserved0 => 4
  | _ => 8

end RootStatusHeaderField

inductive RootChildStatusField where
  | state | desired | flags | lifetimeCount | effectiveBudget | faultLabel | faultMr0 | faultMr1
  | lastFaultTicks | lastRestartTicks | bootTicks | cumulativeDownTicks | slotGeneration
  | windowCount | reserved
  deriving DecidableEq

namespace RootChildStatusField

def offset : RootChildStatusField → Nat
  | state => 0 | desired => 1 | flags => 2 | lifetimeCount => 4 | effectiveBudget => 8
  | faultLabel => 12 | faultMr0 => 16 | faultMr1 => 24 | lastFaultTicks => 32
  | lastRestartTicks => 40 | bootTicks => 48 | cumulativeDownTicks => 56
  | slotGeneration => 64 | windowCount => 72 | reserved => 76

def width : RootChildStatusField → Nat
  | state | desired => 1
  | flags => 2
  | lifetimeCount | effectiveBudget | faultLabel | windowCount | reserved => 4
  | _ => 8

end RootChildStatusField

inductive RootEventField where
  | ticks | kind | child | flags | detail | a | b
  deriving DecidableEq

namespace RootEventField

def offset : RootEventField → Nat
  | ticks => 0 | kind => 8 | child => 9 | flags => 10 | detail => 12 | a => 16 | b => 24

def width : RootEventField → Nat
  | kind | child => 1
  | flags => 2
  | detail => 4
  | _ => 8

end RootEventField

def statusPageSize : Nat := 16384
def statusHeaderSize : Nat := 88
def childStatusSize : Nat := 80
def childrenAt : Nat := statusHeaderSize
def eventSize : Nat := 32
def eventsAt : Nat := 5048
def statusTailAt : Nat := 9144

/-- The ring slot of event number `head`. -/
def eventSlot (head : Nat) : Fin eventCount := ⟨head % eventCount, Nat.mod_lt _ (by decide)⟩

inductive StatusField where
  | header (field : RootStatusHeaderField)
  | child (index : ChildIndex) (field : RootChildStatusField)
  | event (slot : Fin eventCount) (field : RootEventField)
  deriving DecidableEq

namespace StatusField

def address : StatusField → Nat
  | header field => field.offset
  | child index field => childrenAt + index.val * childStatusSize + field.offset
  | event slot field => eventsAt + slot.val * eventSize + field.offset

def width : StatusField → Nat
  | header field => field.width
  | child _ field => field.width
  | event _ field => field.width

private theorem header_end (field : RootStatusHeaderField) :
    field.offset + field.width ≤ statusHeaderSize := by
  cases field <;> decide

private theorem child_end (field : RootChildStatusField) :
    field.offset + field.width ≤ childStatusSize := by
  cases field <;> decide

private theorem event_end (field : RootEventField) :
    field.offset + field.width ≤ eventSize := by
  cases field <;> decide

private theorem header_apart (left right : RootStatusHeaderField) (different : left ≠ right) :
    left.offset + left.width ≤ right.offset ∨ right.offset + right.width ≤ left.offset := by
  cases left <;> cases right <;> first | exact absurd rfl different | decide

private theorem child_apart (left right : RootChildStatusField) (different : left ≠ right) :
    left.offset + left.width ≤ right.offset ∨ right.offset + right.width ≤ left.offset := by
  cases left <;> cases right <;> first | exact absurd rfl different | decide

private theorem event_apart (left right : RootEventField) (different : left ≠ right) :
    left.offset + left.width ≤ right.offset ∨ right.offset + right.width ≤ left.offset := by
  cases left <;> cases right <;> first | exact absurd rfl different | decide

/-- Records of one array do not overlap. -/
private theorem rows_apart {stride left right leftOffset rightOffset leftWidth rightWidth : Nat}
    (leftEnd : leftOffset + leftWidth ≤ stride) (rightEnd : rightOffset + rightWidth ≤ stride)
    (different : left ≠ right) :
    left * stride + leftOffset + leftWidth ≤ right * stride + rightOffset ∨
      right * stride + rightOffset + rightWidth ≤ left * stride + leftOffset := by
  rcases Nat.lt_or_gt_of_ne different with before | after
  · have : (left + 1) * stride ≤ right * stride := Nat.mul_le_mul_right _ before
    rw [Nat.succ_mul] at this
    omega
  · have : (right + 1) * stride ≤ left * stride := Nat.mul_le_mul_right _ after
    rw [Nat.succ_mul] at this
    omega

theorem apart (left right : StatusField) (different : left ≠ right) :
    left.address + left.width ≤ right.address ∨
      right.address + right.width ≤ left.address := by
  cases left with
  | header first =>
      have firstEnd := header_end first
      cases right with
      | header second =>
          exact header_apart first second fun same => different (same ▸ rfl)
      | child index second => simp only [address, width, childrenAt]; omega
      | event slot second =>
          simp only [address, width, eventsAt, statusHeaderSize] at *; omega
  | child index first =>
      have firstEnd := child_end first
      cases right with
      | header second =>
          have secondEnd := header_end second
          simp only [address, width, childrenAt]; omega
      | child other second =>
          have secondEnd := child_end second
          simp only [address, width]
          by_cases same : index = other
          · subst same
            have := child_apart first second fun equal => different (equal ▸ rfl)
            omega
          · have := rows_apart firstEnd secondEnd fun equal => same (Fin.ext equal)
            omega
      | event slot second =>
          have := index.isLt
          simp only [address, width, childrenAt, statusHeaderSize, childStatusSize, eventsAt,
            childCount] at *
          omega
  | event slot first =>
      have firstEnd := event_end first
      cases right with
      | header second =>
          have secondEnd := header_end second
          simp only [address, width, eventsAt, statusHeaderSize] at *; omega
      | child index second =>
          have secondEnd := child_end second
          have := index.isLt
          simp only [address, width, childrenAt, statusHeaderSize, childStatusSize, eventsAt,
            childCount] at *
          omega
      | event other second =>
          have secondEnd := event_end second
          simp only [address, width]
          by_cases same : slot = other
          · subst same
            have := event_apart first second fun equal => different (equal ▸ rfl)
            omega
          · have := rows_apart firstEnd secondEnd fun equal => same (Fin.ext equal)
            omega

/-- No field reaches the reserved tail. -/
theorem before_tail (field : StatusField) : field.address + field.width ≤ statusTailAt := by
  cases field with
  | header field =>
      have := header_end field
      simp only [address, width, statusTailAt, statusHeaderSize] at *; omega
  | child index field =>
      have := child_end field
      have := index.isLt
      simp only [address, width, statusTailAt, childrenAt, statusHeaderSize, childStatusSize,
        childCount] at *
      omega
  | event slot field =>
      have := event_end field
      have := slot.isLt
      simp only [address, width, statusTailAt, eventsAt, eventSize, eventCount] at *
      omega

/-- A field of no row, or of another, does not reach into a row. -/
theorem outside_row (index : ChildIndex) (field : StatusField)
    (elsewhere : ∀ column, field ≠ .child index column) :
    field.address + field.width ≤ childrenAt + index.val * childStatusSize ∨
      childrenAt + index.val * childStatusSize + childStatusSize ≤ field.address := by
  cases field with
  | header field =>
      have := header_end field
      simp only [address, width, childrenAt]; omega
  | child other field =>
      have := child_end field
      have different : other.val ≠ index.val := fun same =>
        elsewhere field (Fin.ext same ▸ rfl)
      simp only [address, width, childStatusSize] at *
      omega
  | event slot field =>
      have := index.isLt
      simp only [address, childrenAt, statusHeaderSize, childStatusSize, eventsAt,
        childCount] at *
      omega

end StatusField

def statusLayout : Layout StatusField where
  address := StatusField.address
  width := StatusField.width
  apart := StatusField.apart

/-! ### Spec page -/

inductive SpecHeaderField where
  | magic | abiVersion | activeBank
  deriving DecidableEq

namespace SpecHeaderField

def offset : SpecHeaderField → Nat
  | magic => 0 | abiVersion => 8 | activeBank => 12

def width : SpecHeaderField → Nat
  | magic => 8
  | _ => 4

end SpecHeaderField

inductive SpecBankField where
  | generation | length | crc32 | recordCount | bankSeq
  | budget (index : ChildIndex)
  | desired (index : ChildIndex)
  | reservedTail
  deriving DecidableEq

namespace SpecBankField

def offset : SpecBankField → Nat
  | generation => 0 | length => 8 | crc32 => 12 | recordCount => 16 | bankSeq => 20
  | budget index => 24 + index.val * 4
  | desired index => 272 + index.val
  | reservedTail => 334

def width : SpecBankField → Nat
  | generation => 8
  | desired _ => 1
  | reservedTail => 1682
  | _ => 4

end SpecBankField

def specPageSize : Nat := 4096
def specHeaderSize : Nat := 64
def specBankSize : Nat := 2016

/-- Bank index, 0 or 1. -/
abbrev Bank := Fin 2

inductive SpecField where
  | header (field : SpecHeaderField)
  | bank (index : Bank) (field : SpecBankField)
  deriving DecidableEq

namespace SpecField

def address : SpecField → Nat
  | header field => field.offset
  | bank index field => specHeaderSize + index.val * specBankSize + field.offset

def width : SpecField → Nat
  | header field => field.width
  | bank _ field => field.width

private theorem header_apart (left right : SpecHeaderField) (different : left ≠ right) :
    left.offset + left.width ≤ right.offset ∨ right.offset + right.width ≤ left.offset := by
  cases left <;> cases right <;> first | exact absurd rfl different | decide

theorem bank_end (field : SpecBankField) : field.offset + field.width ≤ specBankSize := by
  cases field with
  | budget index =>
      have := index.isLt
      simp only [SpecBankField.offset, SpecBankField.width, specBankSize, childCount] at *; omega
  | desired index =>
      have := index.isLt
      simp only [SpecBankField.offset, SpecBankField.width, specBankSize, childCount] at *; omega
  | _ => decide

private theorem bank_apart (left right : SpecBankField) (different : left ≠ right) :
    left.offset + left.width ≤ right.offset ∨ right.offset + right.width ≤ left.offset := by
  cases left <;> cases right <;>
    simp only [SpecBankField.offset, SpecBankField.width, ne_eq, SpecBankField.budget.injEq,
      SpecBankField.desired.injEq, Fin.ext_iff, childCount, not_true_eq_false] at * <;> omega

theorem apart (left right : SpecField) (different : left ≠ right) :
    left.address + left.width ≤ right.address ∨
      right.address + right.width ≤ left.address := by
  cases left with
  | header first =>
      have firstEnd : first.offset + first.width ≤ 16 := by cases first <;> decide
      cases right with
      | header second => exact header_apart first second fun same => different (same ▸ rfl)
      | bank index second => simp only [address, width, specHeaderSize]; omega
  | bank index first =>
      have firstEnd := bank_end first
      cases right with
      | header second =>
          have secondEnd : second.offset + second.width ≤ 16 := by cases second <;> decide
          simp only [address, width, specHeaderSize]; omega
      | bank other second =>
          have secondEnd := bank_end second
          simp only [address, width]
          by_cases same : index = other
          · subst same
            have := bank_apart first second fun equal => different (equal ▸ rfl)
            omega
          · have := index.isLt
            have := other.isLt
            have : index.val ≠ other.val := fun equal => same (Fin.ext equal)
            simp only [specBankSize] at *
            omega

end SpecField

def specLayout : Layout SpecField where
  address := SpecField.address
  width := SpecField.width
  apart := SpecField.apart

end Chrysopolis.Abi
