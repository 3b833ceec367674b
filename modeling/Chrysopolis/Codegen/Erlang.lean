import Chrysopolis.Support.WireFormat
import Chrysopolis.Abi.Crc32

/-! The Erlang the generated codec consists of: its terms, the functions the generator
emits as syntax, the helpers every module ends with, and evaluation. -/

set_option autoImplicit false

namespace Chrysopolis.Codegen

open Chrysopolis.Support
open Chrysopolis.Abi (crc32Byte crc32Final)

inductive Term where
  | integer (value : Int)
  | binary (bytes : Bytes)
  | list (items : List Term)
  /-- A map from atoms. -/
  | map (entries : String → Option Term)
  /-- Any other term: an atom, a tuple, an improper list. -/
  | other

/-- What a call raises. -/
inductive Raised where
  | badarg
  | functionClause
  | badmatch
  | badGenerator
  /-- No such function or variable; such a module does not compile. -/
  | undef
  /-- Calls nest deeper than the evaluation follows them. -/
  | tooDeep
  deriving DecidableEq, Repr

abbrev Outcome := Except Raised

/-- The variables a function head binds. -/
abbrev Bindings := String → Option Term

def Bindings.get (bindings : Bindings) (var : String) : Outcome Term :=
  (bindings var).elim (.error .undef) .ok

/-! ### Helpers -/

/-- `Value:Bits/little` in a construction; every width emitted is in whole bytes. -/
def little (value : Int) (bits : Nat) : Bytes := leBytes (bits / 8) (value % 2 ^ bits).toNat

namespace Helper

/-- `u(Bin, Offset, Bits)`. -/
def u (bin : Bytes) (offset bits : Nat) : Outcome Nat :=
  if offset + bits / 8 ≤ bin.length then .ok (leNumber ((bin.drop offset).take (bits / 8)))
  else .error .badmatch

def uint (value : Term) (bits : Nat) : Outcome Int :=
  match value with
  | .integer value => if 0 ≤ value ∧ value < 2 ^ bits then .ok value else .error .badarg
  | _ => .error .badarg

def bytes (value : Term) (size : Nat) : Outcome Bytes :=
  match value with
  | .binary bytes => if bytes.length = size then .ok bytes else .error .badarg
  | _ => .error .badarg

def uints (values : Term) (count bits : Nat) : Outcome Bytes :=
  match values with
  | .list items =>
      if items.length = count then do
        let words ← items.mapM fun item => do return little (← uint item bits) bits
        return words.flatten
      else .error .badarg
  | _ => .error .badarg

def rows (encode : Term → Outcome Bytes) (values : Term) (count : Nat) : Outcome Bytes :=
  match values with
  | .list items =>
      if items.length = count then do
        let rows ← items.mapM encode
        return rows.flatten
      else .error .badarg
  | _ => .error .badarg

end Helper

/-! ### Decoding functions -/

/-- A segment of a binary pattern. -/
inductive BinaryPattern where
  /-- `_:Size/binary` -/
  | skip (size : Nat)
  /-- `Var:Size/binary` -/
  | binary (var : String) (size : Nat)
  /-- `Var:Bits/little` -/
  | little (var : String) (bits : Nat)
  deriving Repr

def BinaryPattern.size : BinaryPattern → Nat
  | skip size => size
  | binary _ size => size
  | little _ bits => bits / 8

/-- The variable a matched segment binds. Heads bind each variable once. -/
def BinaryPattern.bind (bytes : Bytes) (bindings : Bindings) : BinaryPattern → Bindings
  | skip _ => bindings
  | binary var _ => Function.update bindings var (some (.binary bytes))
  | little var _ => Function.update bindings var (some (.integer (leNumber bytes)))

/-- A binary pattern matches the whole binary. -/
def matchBinary (bindings : Bindings) : List BinaryPattern → Bytes → Option Bindings
  | [], bytes => if bytes.isEmpty then some bindings else none
  | pattern :: rest, bytes =>
      if pattern.size ≤ bytes.length then
        matchBinary (pattern.bind (bytes.take pattern.size) bindings) rest
          (bytes.drop pattern.size)
      else none

/-- The value of a field in a decoded map. -/
inductive DecodeExpr where
  /-- `Var` -/
  | var (var : String)
  /-- `record_from_binary(Var)` -/
  | fromBinary (record var : String)
  /-- `[record_from_binary(E) || <<E:Size/binary>> <= Var]` -/
  | fromBinaries (record : String) (size : Nat) (var : String)
  /-- `binary:copy(Var)` -/
  | copy (var : String)
  /-- `[E || <<E:Bits/little>> <= Var]` -/
  | littles (bits : Nat) (var : String)
  deriving Repr

/-- `<<E:Size/binary>> <= Binary`: the pieces, up to the first that does not match. -/
def generate (size : Nat) : Term → Outcome (List Bytes)
  | .binary bytes => .ok (chunks size (bytes.length / size) bytes)
  | _ => .error .badGenerator

def DecodeExpr.eval (call : String → Term → Outcome Term) (bindings : Bindings) :
    DecodeExpr → Outcome Term
  | var name => bindings.get name
  | fromBinary record name => do call record (← bindings.get name)
  | fromBinaries record size name => do
      let pieces ← generate size (← bindings.get name)
      return .list (← pieces.mapM fun piece => call record (.binary piece))
  | copy name => do
      match ← bindings.get name with
      | .binary bytes => return .binary bytes
      | _ => .error .badarg
  | littles bits name => do
      let pieces ← generate (bits / 8) (← bindings.get name)
      return .list (pieces.map fun piece => .integer (leNumber piece))

/-- `name_from_binary(<<Head>>) -> #{Entries}.` -/
structure FromBinary where
  name : String
  head : List BinaryPattern
  entries : List (String × DecodeExpr)
  deriving Repr

/-- `#{Key => Value, ...}`: the last entry for a key counts. -/
def mapOf : List (String × Term) → String → Option Term
  | [], _ => none
  | (key, value) :: rest, name => (mapOf rest name).or (if key = name then some value else none)

def FromBinary.apply (call : String → Term → Outcome Term) (function : FromBinary) :
    Term → Outcome Term
  | .binary bytes =>
      match matchBinary (fun _ => none) function.head bytes with
      | none => .error .functionClause
      | some bindings => do
          let entries ← function.entries.mapM fun entry => do
            return (entry.1, ← entry.2.eval call bindings)
          return .map (mapOf entries)
  | _ => .error .functionClause

/-! ### Encoding functions -/

/-- A segment of the binary an encoder constructs. -/
inductive EncodeSegment where
  /-- `0:Bits` -/
  | zero (bits : Nat)
  /-- `(bytes(Var, Size))/binary` -/
  | bytes (var : String) (size : Nat)
  /-- `(record_to_binary(Var))/binary` -/
  | toBinary (record var : String)
  /-- `(rows(fun record_to_binary/1, Var, Count))/binary` -/
  | rows (record var : String) (count : Nat)
  /-- `(uints(Var, Count, Bits))/binary` -/
  | uints (var : String) (count bits : Nat)
  /-- `(uint(Var, Bits)):Bits/little` -/
  | uint (var : String) (bits : Nat)
  deriving Repr

def EncodeSegment.eval (call : String → Term → Outcome Bytes) (bindings : Bindings) :
    EncodeSegment → Outcome Bytes
  | zero bits => .ok (List.replicate (bits / 8) 0)
  | bytes name size => do Helper.bytes (← bindings.get name) size
  | toBinary record name => do call record (← bindings.get name)
  | rows record name count => do Helper.rows (call record) (← bindings.get name) count
  | uints name count bits => do Helper.uints (← bindings.get name) count bits
  | uint name bits => do return little (← Helper.uint (← bindings.get name) bits) bits

/-- `name_to_binary(#{Key := Var, ...}) -> <<Segments>>.` -/
structure ToBinary where
  name : String
  head : List (String × String)
  segments : List EncodeSegment
  deriving Repr

/-- A map pattern matches when the map has every key. -/
def matchMap (entries : String → Option Term) : List (String × String) → Option Bindings
  | [] => some fun _ => none
  | (key, var) :: rest => do
      let value ← entries key
      let bindings ← matchMap entries rest
      return Function.update bindings var (some value)

def ToBinary.apply (call : String → Term → Outcome Bytes) (function : ToBinary) :
    Term → Outcome Bytes
  | .map entries =>
      match matchMap entries function.head with
      | none => .error .functionClause
      | some bindings => do
          let segments ← function.segments.mapM (EncodeSegment.eval call bindings)
          return segments.flatten
  | _ => .error .functionClause

/-! ### Modules -/

/-- The record functions of a module. -/
structure Module where
  fromBinaries : List FromBinary
  toBinaries : List ToBinary

/-- `name_from_binary(Argument)`, following so many nested calls. -/
def Module.fromBinary (module : Module) : Nat → String → Term → Outcome Term
  | 0, _, _ => .error .tooDeep
  | depth + 1, name, argument =>
      match module.fromBinaries.find? fun function => function.name == name with
      | none => .error .undef
      | some function => function.apply (module.fromBinary depth) argument

/-- `name_to_binary(Argument)`, following so many nested calls. -/
def Module.toBinary (module : Module) : Nat → String → Term → Outcome Bytes
  | 0, _, _ => .error .tooDeep
  | depth + 1, name, argument =>
      match module.toBinaries.find? fun function => function.name == name with
      | none => .error .undef
      | some function => function.apply (module.toBinary depth) argument

/-! ### Checksums -/

/-- `erlang:crc32/1`: CRC-32 as IEEE 802.3 has it. -/
def erlangCrc32 (bytes : Bytes) : UInt32 :=
  crc32Final (bytes.foldl (fun crc byte => crc32Byte (crc ^^^ byte.toUInt32)) 0xFFFFFFFF)

/-- A segment of the head of a sealing function. -/
inductive SealPattern where
  /-- `_:Bits` -/
  | skip (bits : Nat)
  /-- `P<Index>:Size/binary` -/
  | piece (index size : Nat)
  deriving Repr

/-- An element of the list a sealing function checksums. -/
inductive SealPart where
  /-- `<<0:Bits>>` -/
  | zero (bits : Nat)
  /-- `P<Index>` -/
  | piece (index : Nat)
  deriving Repr

/-- A segment of the sealed binary. -/
inductive SealSegment where
  /-- `Crc:Bits/little` -/
  | crc (bits : Nat)
  /-- `P<Index>/binary` -/
  | piece (index : Nat)
  deriving Repr

/-- `seal_name(<<Head>>) -> Crc = erlang:crc32([Parts]), <<Segments>>.` -/
structure SealFunction where
  name : String
  head : List SealPattern
  parts : List SealPart
  segments : List SealSegment
  deriving Repr

/-- The pieces a sealing head binds, by index. -/
abbrev Pieces := Nat → Option Bytes

def Pieces.get (pieces : Pieces) (index : Nat) : Outcome Bytes :=
  (pieces index).elim (.error .undef) .ok

def matchPieces (pieces : Pieces) : List SealPattern → Bytes → Option Pieces
  | [], bytes => if bytes.isEmpty then some pieces else none
  | .skip bits :: rest, bytes =>
      if bits / 8 ≤ bytes.length then matchPieces pieces rest (bytes.drop (bits / 8)) else none
  | .piece index size :: rest, bytes =>
      if size ≤ bytes.length then
        matchPieces (Function.update pieces index (some (bytes.take size))) rest (bytes.drop size)
      else none

def SealPart.eval (pieces : Pieces) : SealPart → Outcome Bytes
  | zero bits => .ok (List.replicate (bits / 8) 0)
  | piece index => pieces.get index

def SealSegment.eval (pieces : Pieces) (crc : UInt32) : SealSegment → Outcome Bytes
  | SealSegment.crc bits => .ok (little crc.toNat bits)
  | piece index => pieces.get index

def SealFunction.apply (function : SealFunction) : Term → Outcome Bytes
  | .binary bytes =>
      match matchPieces (fun _ => none) function.head bytes with
      | none => .error .functionClause
      | some pieces => do
          let parts ← function.parts.mapM (SealPart.eval pieces)
          let segments ← function.segments.mapM
            (SealSegment.eval pieces (erlangCrc32 parts.flatten))
          return segments.flatten
  | _ => .error .functionClause

/-- An element of the list a checker checksums. -/
inductive CrcSource where
  /-- `binary:part(Bin, At + Offset, Size)` -/
  | part (offset size : Nat)
  /-- `<<0:Bits>>` -/
  | zero (bits : Nat)
  deriving Repr

def CrcSource.eval (bin : Bytes) (start : Nat) : CrcSource → Outcome Bytes
  | part offset size =>
      if start + offset + size ≤ bin.length then .ok ((bin.drop (start + offset)).take size)
      else .error .badarg
  | zero bits => .ok (List.replicate (bits / 8) 0)

/-- `erlang:crc32([Sources]) =:= u(Bin, At + Offset, Bits)` -/
structure CrcCondition where
  sources : List CrcSource
  offset : Nat
  bits : Nat
  deriving Repr

def CrcCondition.eval (condition : CrcCondition) (bin : Bytes) (start : Nat) : Outcome Bool := do
  let sources ← condition.sources.mapM (CrcSource.eval bin start)
  let stored ← Helper.u bin (start + condition.offset) condition.bits
  return (erlangCrc32 sources.flatten).toNat == stored

end Chrysopolis.Codegen
