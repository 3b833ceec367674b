import Chrysopolis.Framing.Read

/-! The grammar of a frame's body, apart from the parser: what each piece is as text,
and what it stands for. -/

set_option autoImplicit false

namespace Chrysopolis.Framing

open Chrysopolis.Support

/-- Any byte that neither ends a field nor begins an escape. -/
def printableByte (c : UInt8) : Bool := bodyByte c && c != PERCENT && c != BAR

section Text

-- The bytes that stand for themselves in a value.
variable (literal : UInt8 → Bool)

/-- The text of a value. An escape may stand for any byte. -/
inductive ValueText : Bytes → Bytes → Prop where
  | nil : ValueText [] []
  | literal {c : UInt8} {value text : Bytes} : literal c = true → ValueText value text →
      ValueText (c :: value) (c :: text)
  | escape {c : UInt8} {value text : Bytes} : ValueText value text →
      ValueText (c :: value)
        (PERCENT :: upperHex (c.toNat / 16) :: upperHex (c.toNat % 16) :: text)

/-- The text of a field, after its separator. -/
inductive FieldText : Bytes × Bytes → Bytes → Prop where
  | mk {key value text : Bytes} : isName key = true → ValueText literal value text →
      FieldText (key, value) (key ++ EQUALS :: text)

/-- The text of a frame up to its length: `run|n=N|k=kind(|key=value)*`. -/
structure LeadText (frame : Frame) (lead : Bytes) : Prop where
  run : isRun frame.run = true
  kind : isName frame.kind = true
  number : frame.n < 10 ^ 10
  fields : ∃ texts, List.Forall₂ (FieldText literal) frame.fields texts ∧
    lead = frame.run ++ ascii "|n=" ++ Decimal.write frame.n ++ ascii "|k=" ++ frame.kind ++
      texts.flatMap (BAR :: ·)

/-- The text of a body: a lead, and a length and a CRC of the right form. -/
structure BodyText (frame : Frame) (lead : Bytes) (length : Nat) (crc body : Bytes) : Prop where
  written : LeadText literal frame lead
  digits : length < 10 ^ 10
  hex : isHex8 crc = true
  body : body = lead ++ ascii "|len=" ++ Decimal.write length ++ ascii "|crc=" ++ crc

end Text

/-! ## The parser with its exceptions -/

/-- `binary:part/3`. It raises `badarg` for a part that is not in the binary. -/
def binaryPart (bytes : Bytes) (start count : Int) : Option Bytes :=
  let first := min start (start + count)
  let last := max start (start + count)
  if 0 ≤ first ∧ last ≤ bytes.length then
    some ((bytes.drop first.toNat).take (last - first).toNat)
  else none

/-- `parse/1` where a part may raise. The other calls are total on binaries, and the `else`
of its `maybe` has a clause for each value that may fall through. -/
def parseRaising (body : Bytes) : Option (Except Reason Frame) :=
  match shape body with
  | none => some (.error .syntaxError)
  | some parts => do
      let covered : Int := body.length - (ascii "|crc=").length - 8
      let lead ← binaryPart body 0
        (covered - (ascii "|len=").length - parts.lengthText.length)
      if lead.length ≠ parts.length then pure (.error .length)
      else do
        let counted ← binaryPart body 0 covered
        if hex8 (crc32 counted) ≠ parts.crc then pure (.error .crc)
        else pure (.ok parts.frame)

end Chrysopolis.Framing
