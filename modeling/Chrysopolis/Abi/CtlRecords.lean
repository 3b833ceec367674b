import Chrysopolis.Abi.Checks

/-! The device framing of one control call: a command and its reply share one layout,
and the generated checks of both are one table. -/

set_option autoImplicit false

namespace Chrysopolis.Abi

open Chrysopolis.Support

def ctlRecordSize : Nat := 64

/-- "CHRYCMD1" as a little-endian word. -/
def magicCommand : Nat := 0x31444d4359524843

/-- "CHRYREP1" as a little-endian word. -/
def magicReply : Nat := 0x3150455259524843

/-- `kind` is the opcode of a command and the result of a reply, and a word is an
argument or a value. -/
inductive CtlField where
  | magic | version | kind | reserved0
  | word (index : Fin 4)
  | reserved (index : Fin 16)
  deriving DecidableEq

namespace CtlField

def address : CtlField → Nat
  | magic => 0 | version => 8 | kind => 10 | reserved0 => 12
  | word index => 16 + 8 * index.val
  | reserved index => 48 + index.val

def width : CtlField → Nat
  | magic | word _ => 8
  | version | kind => 2
  | reserved0 => 4
  | reserved _ => 1

theorem apart (left right : CtlField) (different : left ≠ right) :
    left.address + left.width ≤ right.address ∨ right.address + right.width ≤ left.address := by
  cases left <;> cases right <;>
    first
    | exact absurd rfl different
    | (simp only [ne_eq, word.injEq, reserved.injEq, reduceCtorEq, not_false_eq_true, Fin.ext_iff]
        at different
       simp only [address, width]
       omega)

end CtlField

def ctlLayout : Layout CtlField where
  address := CtlField.address
  width := CtlField.width
  apart := CtlField.apart

def CtlResult.tag : CtlResult → Nat
  | unset => 0 | ok => 1 | refused => 2 | ignored => 3 | rateLimited => 4 | badArg => 5
  | badVersion => 6 | internalError => 7 | alreadyDone => 8 | stale => 9

def ppOpcodes : List Nat :=
  [PpOpcode.unset, .hello, .restartChild, .startSlot, .stopChild, .resumeChild, .reclaimSlot,
    .sync].map PpOpcode.tag

def ctlResults : List Nat :=
  [CtlResult.unset, .ok, .refused, .ignored, .rateLimited, .badArg, .badVersion, .internalError,
    .alreadyDone, .stale].map CtlResult.tag

def ctlField (field : CtlField) : IntAt := ⟨field.address, field.width⟩

/-- `ctlRules` -/
def ctlRules (magic : Nat) (enumeration : List Nat) : List Rule :=
  [ ⟨.magic, .whole, .magic (ctlField .magic) magic⟩,
    ⟨.version, .whole, .version (ctlField .version) abiVersion⟩,
    ⟨.reserved, .whole, .zero ⟨12, 4⟩⟩,
    ⟨.reserved, .whole, .zero ⟨48, 16⟩⟩,
    ⟨.unknownKind, .whole, .member ⟨ctlField .kind, enumeration, true⟩⟩ ]

/-- `chryso_check_ctl_command`. -/
def checkCtlCommand (bytes : Memory) (length : Nat) : AbiReject :=
  { size := ctlRecordSize, rules := ctlRules magicCommand ppOpcodes : Checker }.verdict
    bytes length 0

/-- `chryso_check_ctl_reply`. -/
def checkCtlReply (bytes : Memory) (length : Nat) : AbiReject :=
  { size := ctlRecordSize, rules := ctlRules magicReply ctlResults : Checker }.verdict
    bytes length 0

/-- `chryso_ctl_result_is_member`. -/
def ctlResultIsMember (value : UInt16) : Bool := ctlResults.contains value.toNat

/-- `chryso_ctl_reply` -/
structure CtlReply where
  magic : UInt64 := 0
  version : UInt16 := 0
  result : UInt16 := 0
  reserved0 : UInt32 := 0
  values : Vector UInt64 4 := .replicate 4 0
  reserved : Vector UInt8 16 := .replicate 16 0
  deriving DecidableEq, Repr

/-- The number a field of a reply holds. -/
def CtlReply.value (reply : CtlReply) : CtlField → Nat
  | .magic => reply.magic.toNat
  | .version => reply.version.toNat
  | .kind => reply.result.toNat
  | .reserved0 => reply.reserved0.toNat
  | .word index => reply.values[index].toNat
  | .reserved index => reply.reserved[index].toNat

def ctlFields : List CtlField :=
  [.magic, .version, .kind, .reserved0] ++ (List.finRange 4).map .word ++
    (List.finRange 16).map .reserved

/-- The bytes of a reply, as copied over a buffer. -/
def CtlReply.copyTo (reply : CtlReply) (buffer : Memory) : Memory :=
  ctlLayout.assign buffer (ctlFields.map fun field => (field, reply.value field))

end Chrysopolis.Abi
