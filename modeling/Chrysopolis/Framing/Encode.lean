import Chrysopolis.Abi.Crc32
import Chrysopolis.Support.Decimal

/-! The writing half of `chryso_frame.erl`: values rendered as text, escaped and
sealed with their length and CRC, one frame a record and then the verdict. -/

set_option autoImplicit false

namespace Chrysopolis.Framing

open Chrysopolis.Support

abbrev Bytes := List UInt8

/-- The bytes of an ASCII text. -/
def ascii (text : String) : Bytes := text.toList.map fun c => UInt8.ofNat c.toNat

/-- `?MARKER` -/
def MARKER : Bytes := ascii "@@CHRYSO|"

/-- `?MAX_BODY` -/
def MAX_BODY : Nat := 1024

/-- `?MAX_RUN` -/
def MAX_RUN : Nat := 48

/-- The bytes the grammar gives a meaning: `%`, `|`, `@` and `=`. -/
def PERCENT : UInt8 := 0x25

def BAR : UInt8 := 0x7C

def AT : UInt8 := 0x40

def EQUALS : UInt8 := 0x3D

structure Atom where
  characters : List Char
  deriving Repr, DecidableEq

/-- The terms `render` tells apart. A term that is no integer, atom, binary or
list is known only to the formatter of `io_lib`. -/
inductive Term where
  | integer (value : Int)
  | atom (name : Atom)
  | binary (bytes : Bytes)
  | nil
  | cons (head tail : Term)
  | other (identity : Nat)
  deriving Repr, DecidableEq

/-- A record: its kind and its fields, keys from a closed set in source. -/
structure Record where
  kind : Atom
  fields : List (Atom × Term)
  deriving Repr, DecidableEq

/-- A run name as it is given, a binary or a string of code points. -/
inductive RunName where
  | binary (bytes : Bytes)
  | string (characters : List Char)
  deriving Repr, DecidableEq

/-- What the encoder raises. -/
inductive EncodeError where
  | badRunName (run : Bytes)
  | reservedKey (key : Atom)
  | badName (name : Atom)
  | frameTooLarge (run : Bytes) (n size : Nat)
  deriving Repr, DecidableEq

/-- `unicode:characters_to_binary` -/
def charactersToBinary (characters : List Char) : Bytes :=
  characters.flatMap String.utf8EncodeChar

/-- `atom_to_binary(A, utf8)` -/
def atomToBinary (atom : Atom) : Bytes := charactersToBinary atom.characters

/-- `integer_to_binary` -/
def integerToBinary (value : Int) : Bytes :=
  if value < 0 then 0x2D :: Decimal.write value.natAbs else Decimal.write value.natAbs

/-- A code point `io_lib:printable_unicode_list` accepts. -/
def printableCode (code : Int) : Bool :=
  (0x20 ≤ code && code ≤ 0x7E) || (0xA0 ≤ code && code < 0xD800) ||
    (0xDFFF < code && code < 0xFFFE) || (0xFFFF < code && code ≤ 0x10FFFF) ||
    [10, 13, 9, 11, 8, 12, 27].contains code

/-- `io_lib:printable_unicode_list`, with the characters it passed over. -/
def printableUnicodeList : Term → Option (List Char)
  | .nil => some []
  | .cons (.integer code) tail =>
      if printableCode code then
        (printableUnicodeList tail).map (Char.ofNat code.toNat :: ·)
      else none
  | _ => none

section Encoding

-- `format/1` is what `io_lib:format("~0tp", [V])` prints, in UTF-8.
variable (format : Term → Bytes)

/-- `render/1` -/
def render : Term → Bytes
  | .integer value => integerToBinary value
  | .atom name => atomToBinary name
  | .binary bytes => bytes
  | .nil => charactersToBinary []
  | .cons head tail =>
      match printableUnicodeList (.cons head tail) with
      | some characters => charactersToBinary characters
      | none => format (.cons head tail)
  | .other identity => format (.other identity)

def isNameByte (c : UInt8) : Bool :=
  (0x61 ≤ c && c ≤ 0x7A) || (0x30 ≤ c && c ≤ 0x39) || c == 0x5F

def isName (bytes : Bytes) : Bool := bytes != [] && bytes.all isNameByte

def isRunByte (c : UInt8) : Bool :=
  (0x41 ≤ c && c ≤ 0x5A) || (0x30 ≤ c && c ≤ 0x39) || c == 0x5F || c == 0x2E

def isRun (bytes : Bytes) : Bool :=
  1 ≤ bytes.length && bytes.length ≤ MAX_RUN && bytes.all isRunByte

/-- `run/1` -/
def run : RunName → Except EncodeError Bytes
  | .binary bytes => if isRun bytes then .ok bytes else .error (.badRunName bytes)
  | .string characters =>
      let bytes := charactersToBinary characters
      if isRun bytes then .ok bytes else .error (.badRunName bytes)

/-- `name/1` -/
def name (atom : Atom) : Except EncodeError Bytes :=
  let bytes := atomToBinary atom
  if isName bytes then .ok bytes else .error (.badName atom)

/-- The keys the reader takes for its own. -/
def reserved : List Atom :=
  [⟨"n".toList⟩, ⟨"k".toList⟩, ⟨"len".toList⟩, ⟨"crc".toList⟩]

/-- `key/1` -/
def key (atom : Atom) : Except EncodeError Bytes :=
  if reserved.contains atom then .error (.reservedKey atom) else name atom

/-- A byte that stands for itself in a value. -/
def plainByte (c : UInt8) : Bool :=
  0x21 ≤ c && c ≤ 0x7E && c != PERCENT && c != BAR && c != AT && c != EQUALS

/-- One uppercase hexadecimal digit. -/
def upperHex (value : Nat) : UInt8 :=
  UInt8.ofNat (if value < 10 then 0x30 + value else 0x37 + value)

/-- `escape_byte/1` -/
def escapeByte (c : UInt8) : Bytes :=
  if plainByte c then [c] else [PERCENT, upperHex (c.toNat / 16), upperHex (c.toNat % 16)]

/-- `escape/1` -/
def escape (bytes : Bytes) : Bytes := bytes.flatMap escapeByte

/-- `erlang:crc32/1` -/
def crc32 (bytes : Bytes) : UInt32 :=
  Abi.crc32Final (bytes.foldl (fun crc c => Abi.crc32Byte (crc ^^^ c.toUInt32)) 0xFFFFFFFF)

/-- `hex8/1` -/
def hex8 (value : UInt32) : Bytes := Decimal.writeHex 8 value.toNat

/-- `seal/1`: a prefix plus its length and CRC. -/
def sealed (lead : Bytes) : Bytes :=
  let covered := lead ++ ascii "|len=" ++ Decimal.write lead.length
  covered ++ ascii "|crc=" ++ hex8 (crc32 covered)

/-- One field as it stands in a frame. -/
def fieldText (field : Atom × Term) : Except EncodeError Bytes := do
  let keyText ← key field.1
  pure (BAR :: keyText ++ EQUALS :: escape (render format field.2))

/-- The body of a frame up to its length. -/
def bodyPrefix (runText : Bytes) (n : Nat) (record : Record) : Except EncodeError Bytes := do
  let kindText ← name record.kind
  let fieldTexts ← record.fields.mapM (fieldText format)
  pure (runText ++ ascii "|n=" ++ Decimal.write n ++ ascii "|k=" ++ kindText ++
    fieldTexts.flatten)

/-- `frame/3` -/
def frame (runText : Bytes) (n : Nat) (record : Record) : Except EncodeError Bytes := do
  let lead ← bodyPrefix format runText n record
  let body := sealed lead
  if body.length ≤ MAX_BODY then pure (MARKER ++ body ++ ascii "@@\n")
  else throw (.frameTooLarge runText n body.length)

/-- The record of the verdict frame. -/
def verdictRecord (count unexpected : Nat) : Record where
  kind := ⟨"verdict".toList⟩
  fields := [(⟨"frames".toList⟩, .integer count), (⟨"unexpected".toList⟩, .integer unexpected)]

/-- `encode_run/3`: the frames of a run, in the order they are printed. -/
def encodeRun (runName : RunName) (records : List Record) (unexpected : Nat) :
    Except EncodeError (List Bytes) := do
  let runText ← run runName
  let verdict := verdictRecord records.length unexpected
  (records ++ [verdict]).zipIdx.mapM fun (record, n) => frame format runText n record

end Encoding

end Chrysopolis.Framing
