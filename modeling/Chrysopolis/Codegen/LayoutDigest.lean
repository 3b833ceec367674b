import Chrysopolis.Codegen.Checksum

/-! The digest of the wire contract that every generated codec carries. Names are any bytes here,
and sizes any `usize`. -/

set_option autoImplicit false

namespace Chrysopolis.Codegen.Layout

open Chrysopolis.Support
open Chrysopolis.Abi

/-! ### Descriptions -/

/-- A slice; its length is a `usize`. -/
structure Slice (α : Type) where
  items : List α
  fits : items.length < 2 ^ 64

def Slice.len {α : Type} (slice : Slice α) : UInt64 := UInt64.ofNat slice.items.length

structure Field where
  name : Bytes
  offset : UInt64
  size : UInt64
  type : Bytes
  element : Bytes
  count : UInt64
  isRecord : Bool
  deriving DecidableEq, Repr

structure Record where
  name : Bytes
  size : UInt64
  alignment : UInt64
  fields : Slice Field

structure EnumValue where
  name : Bytes
  value : UInt64
  deriving DecidableEq, Repr

structure Enum where
  name : Bytes
  width : UInt64
  wire : Bool
  values : Slice EnumValue

structure Transition where
  «from» : Bytes
  «to» : Bytes
  event : Bytes
  deriving DecidableEq, Repr

structure Magic where
  name : Bytes
  bytes : Bytes
  value : UInt64
  deriving DecidableEq, Repr

structure Constants where
  childCount : UInt64
  eventCount : UInt64
  journalCapacity : UInt64
  journalPayloadSize : UInt64
  rootEventNoChild : UInt8
  faultMr0Valid : UInt16
  faultMr1Valid : UInt16
  downIntervalOpen : UInt16
  deriving DecidableEq, Repr

structure AtomicField where
  record : Bytes
  field : Bytes
  width : UInt8
  deriving DecidableEq, Repr

structure Description where
  abiVersion : UInt32
  magics : Slice Magic
  constants : Constants
  records : Slice Record
  enums : Slice Enum
  transitions : Slice Transition
  atomicFields : Slice AtomicField

/-- The fields of `Constants` in declared order, each widened to `u64`. -/
def Constants.fields (constants : Constants) : List UInt64 :=
  [ constants.childCount, constants.eventCount, constants.journalCapacity,
    constants.journalPayloadSize, constants.rootEventNoChild.toUInt64,
    constants.faultMr0Valid.toUInt64, constants.faultMr1Valid.toUInt64,
    constants.downIntervalOpen.toUInt64 ]

/-! ### The digest -/

section

variable {σ : Type} (update : σ → Bytes → σ)

/-- `Digest.text` -/
def text (digest : σ) (bytes : Bytes) : σ := update (update digest bytes) [0]

/-- `Digest.number` -/
def number (digest : σ) (value : UInt64) : σ := update digest (leBytes 8 value.toNat)

def feedMagic (digest : σ) (magic : Magic) : σ :=
  number update (text update digest magic.name) magic.value

def feedField (digest : σ) (field : Field) : σ :=
  let digest := text update digest field.name
  let digest := number update digest field.offset
  let digest := number update digest field.size
  let digest := text update digest field.element
  number update digest field.count

def feedRecord (digest : σ) (record : Record) : σ :=
  let digest := text update digest record.name
  let digest := number update digest record.size
  let digest := number update digest record.alignment
  let digest := number update digest record.fields.len
  record.fields.items.foldl (feedField update) digest

def feedEnumValue (digest : σ) (item : EnumValue) : σ :=
  number update (text update digest item.name) item.value

def feedEnum (digest : σ) (enumeration : Enum) : σ :=
  let digest := text update digest enumeration.name
  let digest := number update digest enumeration.width
  let digest := number update digest enumeration.values.len
  enumeration.values.items.foldl (feedEnumValue update) digest

def feedTransition (digest : σ) (transition : Transition) : σ :=
  text update (text update (text update digest transition.«from») transition.«to») transition.event

def feedAtomicField (digest : σ) (atomic : AtomicField) : σ :=
  number update (text update (text update digest atomic.record) atomic.field)
    atomic.width.toUInt64

/-- The body of `layoutDigest`, over what a hasher keeps of the bytes it is given. -/
def feedDescription (digest : σ) (value : Description) : σ :=
  let digest := number update digest value.abiVersion.toUInt64
  let digest := value.constants.fields.foldl (number update) digest
  let digest := number update digest value.magics.len
  let digest := value.magics.items.foldl (feedMagic update) digest
  let digest := number update digest value.records.len
  let digest := value.records.items.foldl (feedRecord update) digest
  let digest := number update digest value.enums.len
  let digest := value.enums.items.foldl (feedEnum update) digest
  let digest := number update digest value.transitions.len
  let digest := value.transitions.items.foldl (feedTransition update) digest
  let digest := number update digest value.atomicFields.len
  value.atomicFields.items.foldl (feedAtomicField update) digest

end

/-- The bytes that the digest is fed. -/
def canonical (value : Description) : Bytes := feedDescription (· ++ ·) [] value

def layoutDigest (value : Description) : UInt32 :=
  crc32Final (feedDescription crcFeed 0xFFFFFFFF value)

end Chrysopolis.Codegen.Layout
