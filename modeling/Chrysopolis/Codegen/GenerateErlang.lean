import Chrysopolis.Codegen.Model
import Chrysopolis.Codegen.Erlang
import Chrysopolis.Abi.Checks

/-! The Erlang generator: the record codecs of the wire model, and the seal and the
condition of a CRC rule. -/

set_option autoImplicit false

namespace Chrysopolis.Codegen

open Chrysopolis.Abi (Span IntAt Check Rule)

/-! ### Spellings -/

def snakeChars (first : Bool) : List Char → List Char
  | [] => []
  | char :: rest =>
      (if char.isUpper then (if first then [] else ['_']) ++ [char.toLower] else [char]) ++
        snakeChars false rest

/-- `RootStatusPage` to `root_status_page`. -/
def snake (name : String) : String := .ofList (snakeChars true name.toList)

def camelChars (capital : Bool) : List Char → List Char
  | [] => []
  | char :: rest =>
      if char = '_' then camelChars true rest
      else (if capital then char.toUpper else char) :: camelChars false rest

/-- `abi_version` to `AbiVersion`, an Erlang variable. -/
def camel (name : String) : String := .ofList (camelChars true name.toList)

example : snake "RootStatusPage" = "root_status_page" ∧ camel "abi_version" = "AbiVersion" := by
  decide +kernel

/-! ### Fields -/

def isReserved (name : String) : Bool :=
  "reserved".toList.isPrefixOf name.toList || "pad".toList.isPrefixOf name.toList

def Field.isMagic (field : Field) : Bool := field.name == "magic"

def Field.elementBits (field : Field) : Nat := field.size / field.count * 8

/-- The fields that maps have. -/
def keptFields (fields : List Field) : List Field :=
  fields.filter fun field => !isReserved field.name

def Record.kept (record : Record) : List Field := keptFields record.fields

/-! ### Record codecs -/

/-- The head segment of a field in `from_binary`. -/
def Field.pattern (field : Field) : BinaryPattern :=
  if isReserved field.name then .skip field.size
  else if field.isMagic || field.isRecord || field.count > 1 then
    .binary (camel field.name) field.size
  else .little (camel field.name) field.elementBits

/-- The value of a field in `from_binary`. -/
def Field.decodeExpr (field : Field) : DecodeExpr :=
  let v := camel field.name
  if field.isMagic then .var v
  else if field.isRecord && field.count == 1 then .fromBinary (snake field.element) v
  else if field.isRecord then .fromBinaries (snake field.element) (field.size / field.count) v
  else if field.count > 1 && field.elementBits == 8 then .copy v
  else if field.count > 1 then .littles field.elementBits v
  else .var v

def writeFromBinary (record : Record) : FromBinary where
  name := snake record.name
  head := record.fields.map Field.pattern
  entries := record.kept.map fun field => (field.name, field.decodeExpr)

/-- The segment of a field in `to_binary`. -/
def Field.encodeSegment (field : Field) : EncodeSegment :=
  let v := camel field.name
  if isReserved field.name then .zero (field.size * 8)
  else if field.isMagic then .bytes v 8
  else if field.isRecord && field.count == 1 then .toBinary (snake field.element) v
  else if field.isRecord then .rows (snake field.element) v field.count
  else if field.count > 1 && field.elementBits == 8 then .bytes v field.count
  else if field.count > 1 then .uints v field.count field.elementBits
  else .uint v field.elementBits

def writeToBinary (record : Record) : ToBinary where
  name := snake record.name
  head := record.kept.map fun field => (field.name, camel field.name)
  segments := record.fields.map Field.encodeSegment

/-- The record functions of `writeCodec`. -/
def writeCodec (records : List Record) : Module where
  fromBinaries := records.map writeFromBinary
  toBinaries := records.map writeToBinary

/-! ### CRC rules -/

inductive PieceKind where
  | keep | crc | zeroed
  deriving DecidableEq, Repr

structure Piece where
  offset : Nat
  len : Nat
  kind : PieceKind
  deriving Repr

/-- The pieces between the spans and the spans themselves, in offset order. -/
def piecesFrom (cursor stop : Nat) : List (Span × PieceKind) → List Piece
  | [] => if stop > cursor then [⟨cursor, stop - cursor, .keep⟩] else []
  | (span, kind) :: rest =>
      (if span.offset > cursor then [⟨cursor, span.offset - cursor, .keep⟩] else []) ++
        ⟨span.offset, span.len, kind⟩ :: piecesFrom (span.offset + span.len) stop rest

/-- The pieces of a CRC rule: the stored CRC, then the spans read as zero. -/
def crcPieces (span : Span) (crc : IntAt) (zeroed : List Span) : List Piece :=
  piecesFrom span.offset (span.offset + span.len)
    ((⟨crc.offset, crc.width⟩, .crc) :: zeroed.map fun span => (span, .zeroed))

def Piece.pattern (piece : Piece) (index : Nat) : SealPattern :=
  match piece.kind with
  | .crc => .skip (piece.len * 8)
  | .keep | .zeroed => .piece index piece.len

def Piece.part (piece : Piece) (index : Nat) : SealPart :=
  match piece.kind with
  | .keep => .piece index
  | .crc | .zeroed => .zero (piece.len * 8)

def Piece.segment (piece : Piece) (index : Nat) : SealSegment :=
  match piece.kind with
  | .crc => .crc (piece.len * 8)
  | .keep | .zeroed => .piece index

/-- The function over pieces, which the generator counts from zero. -/
def sealFunction (name : String) (pieces : List Piece) : SealFunction where
  name
  head := pieces.zipIdx.map fun piece => piece.1.pattern piece.2
  parts := pieces.zipIdx.map fun piece => piece.1.part piece.2
  segments := pieces.zipIdx.map fun piece => piece.1.segment piece.2

inductive RenderError where
  | unknownRecord | unknownField
  deriving DecidableEq, Repr

def Record.fieldAt (record : Record) (offset : Nat) : Except RenderError Field :=
  (record.fields.find? fun field => field.offset == offset).elim (.error .unknownField) .ok

def findChecked (records : List Record) (name : String) : Except RenderError Record :=
  (findRecord records name).elim (.error .unknownRecord) .ok

/-- `writeSeal` for one rule of the checker of `page`: a CRC rule, whose scope selects a bank,
has a seal. -/
def writeSealRule (records : List Record) (page : Record) (rule : Rule) :
    Except RenderError (List SealFunction) :=
  match rule.check, rule.scope with
  | .crc32 span crc zeroed, .selected rows => do
      let bank ← findChecked records (← page.fieldAt rows.base).element
      return [sealFunction (snake bank.name) (crcPieces span crc zeroed)]
  | _, _ => .ok []

def writeSeal (records : List Record) (page : String) (rules : List Rule) :
    Except RenderError (List SealFunction) := do
  let page ← findChecked records page
  return (← rules.mapM (writeSealRule records page)).flatten

def crcSources (cursor stop : Nat) : List Span → List CrcSource
  | [] => if stop > cursor then [.part cursor (stop - cursor)] else []
  | span :: rest =>
      (if span.offset > cursor then [.part cursor (span.offset - cursor)] else []) ++
        .zero (span.len * 8) :: crcSources (span.offset + span.len) stop rest

/-- `writeCondition` of a CRC check. -/
def writeCrcCondition : Check → Option CrcCondition
  | .crc32 span crc zeroed => some
      { sources :=
          crcSources span.offset (span.offset + span.len) (⟨crc.offset, crc.width⟩ :: zeroed)
        offset := crc.offset
        bits := crc.width * 8 }
  | _ => none

end Chrysopolis.Codegen
