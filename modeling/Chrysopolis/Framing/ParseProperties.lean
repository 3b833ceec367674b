import Chrysopolis.Framing.EncodeProperties
import Chrysopolis.Framing.Read

/-! The grammar reads back what the encoder seals: a sealed body has no `@`,
splits into its own parts, and passes every check of `parse/1` as long as its
number has at most ten digits. -/

set_option autoImplicit false

namespace Chrysopolis.Framing

open Chrysopolis.Support

variable (format : Term → Bytes)

/-! ## Bytes between separators -/

/-- A byte that may stand between two separators of a body. -/
def partByte (c : UInt8) : Bool := bodyByte c && c != AT && c != BAR

theorem partByte_iff {c : UInt8} :
    partByte c = true ↔ 0x21 ≤ c.toNat ∧ c.toNat ≤ 0x7E ∧ c.toNat ≠ 0x40 ∧ c.toNat ≠ 0x7C := by
  simp [partByte, bodyByte, AT, BAR, UInt8.le_iff_toNat_le, ← UInt8.toNat_inj, and_assoc]

theorem partByte_of_isNameByte {c : UInt8} (valid : isNameByte c = true) :
    partByte c = true ∧ c ≠ EQUALS := by
  rw [partByte_iff]
  simp only [isNameByte, Bool.or_eq_true, Bool.and_eq_true, decide_eq_true_eq, beq_iff_eq,
    UInt8.le_iff_toNat_le, ← UInt8.toNat_inj, EQUALS, ne_eq] at valid ⊢
  simp at valid ⊢
  omega

theorem partByte_of_isRunByte {c : UInt8} (valid : isRunByte c = true) :
    partByte c = true := by
  rw [partByte_iff]
  simp only [isRunByte, Bool.or_eq_true, Bool.and_eq_true, decide_eq_true_eq, beq_iff_eq,
    UInt8.le_iff_toNat_le, ← UInt8.toNat_inj] at valid
  simp at valid
  omega

theorem partByte_of_isDigit {c : UInt8} (valid : Decimal.isDigit c = true) :
    partByte c = true := by
  rw [partByte_iff]
  rw [Decimal.isDigit_iff] at valid
  omega

theorem partByte_of_plainByte {c : UInt8} (plain : plainByte c = true) :
    partByte c = true ∧ c ≠ PERCENT ∧ c ≠ EQUALS := by
  rw [partByte_iff]
  simp only [plainByte, Bool.and_eq_true, decide_eq_true_eq, bne_iff_ne, UInt8.le_iff_toNat_le,
    ← UInt8.toNat_inj, PERCENT, EQUALS, BAR, AT, ne_eq] at plain ⊢
  simp at plain ⊢
  omega

theorem partByte_upperHex : ∀ value < 16, partByte (upperHex value) = true := by decide

theorem partByte_hexDigit : ∀ value < 16, partByte (Decimal.hexDigit value) = true := by decide

theorem isHex8Byte_hexDigit : ∀ value < 16, isHex8Byte (Decimal.hexDigit value) = true := by
  decide

theorem hex_upperHex : ∀ value < 16, hex (upperHex value) = some value := by decide

theorem all_isName {bytes : Bytes} (valid : isName bytes = true) :
    ∀ c ∈ bytes, isNameByte c = true := by
  rw [isName, Bool.and_eq_true, List.all_eq_true] at valid
  exact valid.2

theorem all_isRun {bytes : Bytes} (valid : isRun bytes = true) :
    ∀ c ∈ bytes, isRunByte c = true := by
  rw [isRun, Bool.and_eq_true, List.all_eq_true] at valid
  exact valid.2

theorem partByte_of_mem_escape {bytes : Bytes} {c : UInt8} (member : c ∈ escape bytes) :
    partByte c = true := by
  obtain ⟨source, -, inEscape⟩ := List.mem_flatMap.mp member
  have bound := source.toNat_lt
  rw [escapeByte] at inEscape
  by_cases plain : plainByte source = true
  · rw [if_pos plain, List.mem_singleton] at inEscape
    exact inEscape ▸ (partByte_of_plainByte plain).1
  · rw [if_neg plain] at inEscape
    simp only [List.mem_cons, List.not_mem_nil, or_false] at inEscape
    rcases inEscape with rfl | rfl | rfl
    · decide
    · exact partByte_upperHex _ (by omega)
    · exact partByte_upperHex _ (by omega)

theorem partByte_of_mem_fieldBytes {field : Atom × Term} (valid : ValidKey field.1) {c : UInt8}
    (member : c ∈ fieldBytes format field) : partByte c = true := by
  rw [fieldBytes, List.mem_append, List.mem_cons] at member
  rcases member with inKey | rfl | inValue
  · exact (partByte_of_isNameByte (all_isName valid.2 c inKey)).1
  · decide
  · exact partByte_of_mem_escape inValue

theorem partByte_of_mem_parts {n : Nat} {record : Record} (valid : ValidRecord record)
    {part : Bytes} (inParts : part ∈ parts format n record) {c : UInt8} (member : c ∈ part) :
    partByte c = true := by
  have literals : ∀ c ∈ ascii "n=" ++ ascii "k=", partByte c = true := by decide +kernel
  rw [parts, List.mem_cons, List.mem_cons, List.mem_map] at inParts
  rcases inParts with rfl | rfl | ⟨field, inFields, rfl⟩
  · rcases List.mem_append.mp member with inLiteral | inNumber
    · exact literals c (List.mem_append_left _ inLiteral)
    · exact partByte_of_isDigit (Decimal.isDigit_of_mem_write inNumber)
  · rcases List.mem_append.mp member with inLiteral | inKind
    · exact literals c (List.mem_append_right _ inLiteral)
    · exact (partByte_of_isNameByte (all_isName valid.kind c inKind)).1
  · exact partByte_of_mem_fieldBytes format (valid.keys field inFields) member

/-! ## Sealed bodies -/

/-- The trailer of a body: its length and CRC fields. -/
def trailer (lead : Bytes) : List Bytes :=
  [ascii "len=" ++ Decimal.write lead.length,
    ascii "crc=" ++ hex8 (crc32 (lead ++ ascii "|len=" ++ Decimal.write lead.length))]

theorem sealed_eq (lead : Bytes) : sealed lead = lead ++ (trailer lead).flatMap (BAR :: ·) := by
  have first : ascii "|len=" = BAR :: ascii "len=" := by decide
  have second : ascii "|crc=" = BAR :: ascii "crc=" := by decide
  simp [sealed, trailer, first, second]

@[simp] theorem length_hex8 (value : UInt32) : (hex8 value).length = 8 := by simp [hex8]

theorem isHex8_hex8 (value : UInt32) : isHex8 (hex8 value) = true := by
  rw [isHex8, Bool.and_eq_true, List.all_eq_true]
  refine ⟨by simp, fun c member => ?_⟩
  obtain ⟨digit, bound, rfl⟩ := Decimal.mem_writeHex member
  exact isHex8Byte_hexDigit digit bound

theorem partByte_of_mem_trailer {lead part : Bytes} (inTrailer : part ∈ trailer lead)
    {c : UInt8} (member : c ∈ part) : partByte c = true := by
  have literals : ∀ c ∈ ascii "len=" ++ ascii "crc=", partByte c = true := by decide +kernel
  rw [trailer, List.mem_cons, List.mem_singleton] at inTrailer
  rcases inTrailer with rfl | rfl
  · rcases List.mem_append.mp member with inLiteral | inNumber
    · exact literals c (List.mem_append_left _ inLiteral)
    · exact partByte_of_isDigit (Decimal.isDigit_of_mem_write inNumber)
  · rcases List.mem_append.mp member with inLiteral | inCrc
    · exact literals c (List.mem_append_right _ inLiteral)
    · obtain ⟨digit, bound, rfl⟩ := Decimal.mem_writeHex inCrc
      exact partByte_hexDigit digit bound

/-- The parts of a sealed body after its run. -/
def sealedParts (runText : Bytes) (n : Nat) (record : Record) : List Bytes :=
  parts format n record ++ trailer (leadBytes format runText n record)

theorem sealed_leadBytes (runText : Bytes) (n : Nat) (record : Record) :
    sealed (leadBytes format runText n record) =
      runText ++ (sealedParts format runText n record).flatMap (BAR :: ·) := by
  rw [sealed_eq, sealedParts, List.flatMap_append, ← List.append_assoc, ← leadBytes]

theorem partByte_of_mem_sealedParts {runText : Bytes} {n : Nat} {record : Record}
    (valid : ValidRecord record) {part : Bytes}
    (inParts : part ∈ sealedParts format runText n record) {c : UInt8} (member : c ∈ part) :
    partByte c = true := by
  rcases List.mem_append.mp inParts with inLead | inTrailer
  · exact partByte_of_mem_parts format valid inLead member
  · exact partByte_of_mem_trailer inTrailer member

/-- A sealed body is printable and holds no `@`. -/
theorem of_mem_sealed {runText : Bytes} {n : Nat} {record : Record}
    (validRun : isRun runText = true) (valid : ValidRecord record) {c : UInt8}
    (member : c ∈ sealed (leadBytes format runText n record)) :
    bodyByte c = true ∧ c ≠ AT := by
  have split : ∀ c, partByte c = true → bodyByte c = true ∧ c ≠ AT := by
    intro c inPart
    simp only [partByte, Bool.and_eq_true, bne_iff_ne] at inPart
    exact inPart.1
  rw [sealed_leadBytes, List.mem_append, List.mem_flatMap] at member
  rcases member with inRun | ⟨part, inParts, inPart⟩
  · exact split c (partByte_of_isRunByte (all_isRun validRun c inRun))
  · rcases List.mem_cons.mp inPart with rfl | inPart
    · decide
    · exact split c (partByte_of_mem_sealedParts format valid inParts inPart)

theorem bar_not_mem {part : Bytes} (all : ∀ c ∈ part, partByte c = true) : BAR ∉ part := by
  intro member
  exact absurd (all BAR member) (by decide)

/-- A sealed body splits into its run and its parts. -/
theorem splitOn_sealed {runText : Bytes} {n : Nat} {record : Record}
    (validRun : isRun runText = true) (valid : ValidRecord record) :
    (sealed (leadBytes format runText n record)).splitOn BAR =
      runText :: sealedParts format runText n record := by
  rw [sealed_leadBytes]
  apply Delimited.splitOn_append_flatMap
  · exact bar_not_mem fun c member => partByte_of_isRunByte (all_isRun validRun c member)
  · intro part inParts
    exact bar_not_mem fun c member => partByte_of_mem_sealedParts format valid inParts member

/-! ## Fields read back -/

theorem isPrefixOf?_append (lead rest : Bytes) : lead.isPrefixOf? (lead ++ rest) = some rest := by
  induction lead with
  | nil => cases rest <;> rfl
  | cons c lead ih => simp [List.isPrefixOf?, ih]

theorem digits_write (n : Nat) :
    digits (Decimal.write n) = if n < 10 ^ 10 then some n else none := by
  by_cases zero : n = 0
  · subst zero
    decide
  · obtain ⟨c, rest, text, low, high⟩ := Decimal.head_write zero
    have allDigits : (c :: rest).all Decimal.isDigit = true := by
      rw [List.all_eq_true, ← text]
      exact fun d member => Decimal.isDigit_of_mem_write member
    have notZero : c :: rest ≠ [0x30] := by
      intro same
      rw [List.cons.injEq] at same
      rw [same.1] at low
      exact absurd low (by decide)
    have width : (Decimal.write n).length ≤ 10 ↔ n < 10 ^ 10 :=
      Decimal.length_write_le_iff (by decide)
    have back := Decimal.read_write n
    rw [text] at width back ⊢
    rw [digits.eq_2 _ _ (fun first second => notZero (by rw [first, second]))]
    by_cases small : n < 10 ^ 10
    · rw [if_pos ⟨low, high, width.mpr small⟩, if_pos allDigits, if_pos small, back]
    · rw [if_neg (fun bounds => small (width.mp bounds.2.2)), if_neg small]

/-- Only a number's own text reads as the number. -/
theorem eq_write_of_digits {text : Bytes} {n : Nat} (reads : digits text = some n) :
    text = Decimal.write n ∧ n < 10 ^ 10 := by
  unfold digits at reads
  split at reads
  · cases reads
    exact ⟨by decide, by decide⟩
  · rename_i c rest _
    by_cases leading : 0x31 ≤ c ∧ c ≤ 0x39 ∧ (c :: rest).length ≤ 10
    · rw [if_pos leading] at reads
      by_cases allDigits : (c :: rest).all Decimal.isDigit = true
      · rw [if_pos allDigits, Option.some.injEq] at reads
        have canonical := Decimal.write_read leading.1 (List.all_eq_true.mp allDigits)
        rw [reads] at canonical
        have width : (Decimal.write n).length ≤ 10 ↔ n < 10 ^ 10 :=
          Decimal.length_write_le_iff (by decide)
        rw [canonical] at width
        exact ⟨canonical.symm, width.mp leading.2.2⟩
      · rw [if_neg allDigits] at reads
        cases reads
    · rw [if_neg leading] at reads
      cases reads
  · cases reads

theorem unescapeInto_escapeByte (c : UInt8) (rest acc : Bytes) :
    unescapeInto (escapeByte c ++ rest) acc = unescapeInto rest (acc ++ [c]) := by
  rw [escapeByte]
  by_cases plain : plainByte c = true
  · have apart := partByte_of_plainByte plain
    have notAt : c ≠ AT := by
      rintro rfl
      exact absurd plain (by decide)
    rw [if_pos plain, List.singleton_append, unescapeInto.eq_3]
    · rw [if_neg (by simp [apart.2.1, apart.2.2, notAt])]
    · intro high low tail same
      exact absurd same apart.2.1
  · have bound := c.toNat_lt
    have high := hex_upperHex (c.toNat / 16) (by omega)
    have low := hex_upperHex (c.toNat % 16) (by omega)
    rw [if_neg plain]
    change unescapeInto (0x25 :: upperHex (c.toNat / 16) :: upperHex (c.toNat % 16) :: rest) acc = _
    rw [unescapeInto.eq_2, high, low]
    simp [Nat.div_add_mod']

theorem unescapeInto_escape (bytes acc : Bytes) :
    unescapeInto (escape bytes) acc = some (acc ++ bytes) := by
  induction bytes generalizing acc with
  | nil => simp [escape, unescapeInto]
  | cons c bytes ih =>
      have step := unescapeInto_escapeByte c (escape bytes) acc
      rw [escape, List.flatMap_cons, ← escape, step, ih, List.append_assoc, List.singleton_append]

/-- A field as the reader returns it: the key and the rendered value. -/
def renderedField (field : Atom × Term) : Bytes × Bytes :=
  (atomToBinary field.1, render format field.2)

theorem fieldsInto_map_fieldBytes {fields : List (Atom × Term)}
    (valid : ∀ field ∈ fields, ValidKey field.1) (acc : List (Bytes × Bytes)) :
    fieldsInto (fields.map (fieldBytes format)) acc =
      some (acc.reverse ++ fields.map (renderedField format)) := by
  induction fields generalizing acc with
  | nil => simp [fieldsInto]
  | cons field fields ih =>
      have keyValid := valid field List.mem_cons_self
      have noEquals : EQUALS ∉ atomToBinary field.1 := fun member =>
        (partByte_of_isNameByte (all_isName keyValid.2 _ member)).2 rfl
      have tail := ih (fun other member => valid other (List.mem_cons_of_mem _ member))
        (renderedField format field :: acc)
      rw [List.map_cons, fieldsInto, fieldBytes, Delimited.splitFirst_append noEquals]
      simp only [keyValid.2, if_true, unescape, unescapeInto_escape, List.nil_append]
      rw [← renderedField, tail]
      simp

/-! ## What the syntax checks accept -/

theorem isPrefixOf?_eq_some_iff {lead field rest : Bytes} :
    lead.isPrefixOf? field = some rest ↔ field = lead ++ rest := by
  constructor
  · intro stripped
    induction lead generalizing field with
    | nil =>
        cases field <;> exact Option.some.inj stripped
    | cons c lead ih =>
        cases field with
        | nil => cases stripped
        | cons d field =>
            rw [List.isPrefixOf?] at stripped
            by_cases same : (c == d) = true
            · rw [if_pos same] at stripped
              rw [ih stripped, eq_of_beq same, List.cons_append]
            · rw [if_neg same] at stripped
              cases stripped
  · rintro rfl
    exact isPrefixOf?_append lead rest

/-- The form of a body that passes the syntax checks, and what they read in it. -/
structure Shaped (body : Bytes) (parts : Shape) (nText : Bytes) (raw : List Bytes) : Prop where
  printable : body.all bodyByte = true
  split : body.splitOn BAR = parts.frame.run :: (ascii "n=" ++ nText) ::
    (ascii "k=" ++ parts.frame.kind) ::
      (raw ++ [ascii "len=" ++ parts.lengthText, ascii "crc=" ++ parts.crc])
  run : isRun parts.frame.run = true
  kind : isName parts.frame.kind = true
  crc : isHex8 parts.crc = true
  number : digits nText = some parts.frame.n
  length : digits parts.lengthText = some parts.length
  fields : fieldsInto raw [] = some parts.frame.fields

theorem shape_of_shaped {body : Bytes} {parts : Shape} {nText : Bytes} {raw : List Bytes}
    (shaped : Shaped body parts nText raw) : shape body = some parts := by
  rw [shape, shaped.printable, shaped.split]
  simp [isPrefixOf?_append, shaped.run, shaped.kind, shaped.crc, shaped.number, shaped.length,
    shaped.fields, guard]

theorem shaped_of_shape {body : Bytes} {parts : Shape} (passed : shape body = some parts) :
    ∃ nText raw, Shaped body parts nText raw := by
  rw [shape, Option.bind_eq_bind, Option.bind_eq_some_iff] at passed
  obtain ⟨_, printable, passed⟩ := passed
  split at passed
  · rename_i runText nField kField rest split
    simp only [Option.bind_eq_bind, Option.bind_eq_some_iff] at passed
    obtain ⟨nText, nForm, kind, kForm, passed⟩ := passed
    split at passed
    · rename_i crcField lenField revFields reversed
      simp only [Option.bind_eq_some_iff, Option.pure_def, Option.some.injEq] at passed
      obtain ⟨crcText, crcForm, lengthText, lengthForm, _, checks, n, number, length, lengthRead,
        fields, fieldsRead, rfl⟩ := passed
      have forward : rest = revFields.reverse ++ [lenField, crcField] := by
        rw [← List.reverse_reverse rest, reversed]
        simp
      simp only [Option.guard_eq_some', Bool.and_eq_true] at printable checks
      rw [isPrefixOf?_eq_some_iff] at nForm kForm crcForm lengthForm
      rw [forward, nForm, kForm, crcForm, lengthForm] at split
      exact ⟨nText, revFields.reverse, {
        printable
        split
        run := checks.1.1
        kind := checks.1.2
        crc := checks.2
        number
        length := lengthRead
        fields := fieldsRead }⟩
    · cases passed
  · cases passed

/-! ## Sealed bodies read back -/

/-- The frame a reader should return for a record. -/
def frameOf (runText : Bytes) (n : Nat) (record : Record) : Frame where
  run := runText
  n := n
  kind := atomToBinary record.kind
  fields := record.fields.map (renderedField format)

theorem digits_length_sealed {lead : Bytes} (fits : (sealed lead).length ≤ MAX_BODY) :
    digits (Decimal.write lead.length) = some lead.length := by
  have bound : lead.length < 10 ^ 10 := by
    rw [sealed_eq, List.length_append, MAX_BODY] at fits
    omega
  rw [digits_write, if_pos bound]

/-- The record a sealed body is read as. -/
def sealedShape (runText : Bytes) (n : Nat) (record : Record) : Shape where
  frame := frameOf format runText n record
  lengthText := Decimal.write (leadBytes format runText n record).length
  length := (leadBytes format runText n record).length
  crc := hex8 (crc32 (leadBytes format runText n record ++ ascii "|len=" ++
    Decimal.write (leadBytes format runText n record).length))

theorem shape_sealed {runText : Bytes} {n : Nat} {record : Record}
    (validRun : isRun runText = true) (accepted : Accepted format runText n record) :
    shape (sealed (leadBytes format runText n record)) =
      if n < 10 ^ 10 then some (sealedShape format runText n record) else none := by
  have printable : (sealed (leadBytes format runText n record)).all bodyByte = true :=
    List.all_eq_true.mpr fun c member => (of_mem_sealed format validRun accepted.valid member).1
  have fields := fieldsInto_map_fieldBytes format accepted.valid.keys []
  have split := splitOn_sealed format (n := n) validRun accepted.valid
  by_cases small : n < 10 ^ 10
  · rw [if_pos small]
    exact @shape_of_shaped _ _ (Decimal.write n) (record.fields.map (fieldBytes format)) {
      printable
      split
      run := validRun
      kind := accepted.valid.kind
      crc := isHex8_hex8 _
      number := by rw [digits_write, if_pos small]; rfl
      length := digits_length_sealed accepted.fits
      fields }
  · rw [if_neg small]
    cases passed : shape (sealed (leadBytes format runText n record)) with
    | none => rfl
    | some parts =>
        obtain ⟨nText, raw, shaped⟩ := shaped_of_shape passed
        have second := congrArg (fun pieces => pieces[1]?) (split.symm.trans shaped.split)
        have texts : ascii "n=" ++ Decimal.write n = ascii "n=" ++ nText := Option.some.inj second
        have number := shaped.number
        rw [← List.append_cancel_left texts, digits_write, if_neg small] at number
        cases number

/-- The two checks after the syntax ones compare the length and the CRC a body ends in. -/
theorem parse_of_shape {body lead : Bytes} {parts : Shape} (passed : shape body = some parts)
    (laidOut : body = lead ++ ascii "|len=" ++ parts.lengthText ++ ascii "|crc=" ++ parts.crc)
    (crcWidth : parts.crc.length = 8) :
    parse body =
      if lead.length ≠ parts.length then .error .length
      else if hex8 (crc32 (lead ++ ascii "|len=" ++ parts.lengthText)) ≠ parts.crc then
        .error .crc
      else .ok parts.frame := by
  set covered := lead ++ ascii "|len=" ++ parts.lengthText with coveredDef
  have literals : (ascii "|len=").length = 5 ∧ (ascii "|crc=").length = 5 := by decide
  have widths := congrArg List.length laidOut
  have coveredWidth := congrArg List.length coveredDef
  simp only [List.length_append] at widths coveredWidth
  have coveredLength : body.length - (ascii "|crc=").length - 8 = covered.length := by omega
  have leadLength : covered.length - (ascii "|len=").length - parts.lengthText.length =
      lead.length := by omega
  have takeCovered : body.take covered.length = covered := by
    rw [laidOut, List.append_assoc covered, List.take_left]
  have takeLead : body.take lead.length = lead := by
    rw [laidOut, coveredDef]
    simp only [List.append_assoc, List.take_left]
  rw [parse, passed]
  simp only [coveredLength, leadLength, takeCovered, takeLead]

/-- A sealed body parses to its own frame, unless its number is too long. -/
theorem parse_sealed {runText : Bytes} {n : Nat} {record : Record}
    (validRun : isRun runText = true) (accepted : Accepted format runText n record) :
    parse (sealed (leadBytes format runText n record)) =
      if n < 10 ^ 10 then .ok (frameOf format runText n record) else .error .syntaxError := by
  have shaped := shape_sealed format (n := n) validRun accepted
  by_cases small : n < 10 ^ 10
  · rw [if_pos small] at shaped ⊢
    rw [parse_of_shape shaped rfl (length_hex8 _), if_neg (by simp [sealedShape]),
      if_neg (by simp [sealedShape])]
    rfl
  · rw [if_neg small] at shaped ⊢
    rw [parse, shaped]

/-! ## Widths -/

/-- The width of a value in a frame: three bytes for each that is escaped. -/
def escapedWidth (bytes : Bytes) : Nat :=
  (bytes.map fun c => if plainByte c then 1 else 3).sum

/-- The width of a body up to its length, from the record. -/
def leadWidth (runText : Bytes) (n : Nat) (record : Record) : Nat :=
  runText.length + 3 + (Decimal.write n).length + 3 + (atomToBinary record.kind).length +
    (record.fields.map fun field =>
      (atomToBinary field.1).length + 2 + escapedWidth (render format field.2)).sum

theorem length_escape (bytes : Bytes) : (escape bytes).length = escapedWidth bytes := by
  rw [escape, List.length_flatMap, escapedWidth]
  congr 1
  refine List.map_congr_left fun c _ => ?_
  rw [escapeByte]
  split <;> rfl

theorem length_leadBytes (runText : Bytes) (n : Nat) (record : Record) :
    (leadBytes format runText n record).length = leadWidth format runText n record := by
  have fields : ((record.fields.map (fieldBytes format)).flatMap (BAR :: ·)).length =
      (record.fields.map fun field =>
        (atomToBinary field.1).length + 2 + escapedWidth (render format field.2)).sum := by
    rw [List.length_flatMap, List.map_map]
    congr 1
    refine List.map_congr_left fun field _ => ?_
    simp only [Function.comp_apply, fieldBytes, List.length_cons, List.length_append,
      length_escape]
    omega
  have numberWidth : (ascii "n=").length = 2 := by decide
  have kindWidth : (ascii "k=").length = 2 := by decide
  rw [leadBytes, parts, List.length_append, List.flatMap_cons, List.flatMap_cons,
    List.length_append, List.length_append, fields, leadWidth]
  simp only [List.length_cons, List.length_append]
  omega

theorem length_sealed (lead : Bytes) :
    (sealed lead).length = lead.length + 18 + (Decimal.write lead.length).length := by
  have lenWidth : (ascii "|len=").length = 5 := by decide
  have crcWidth : (ascii "|crc=").length = 5 := by decide
  simp only [sealed, List.length_append, length_hex8]
  omega

/-- The encoder's limit on a body is 1002 bytes before the trailer, and only at
that width does the body have exactly the size at which the reader gives up. -/
theorem length_sealed_le_iff {lead : Bytes} :
    (sealed lead).length ≤ MAX_BODY ↔ lead.length ≤ 1002 := by
  have three : (Decimal.write lead.length).length ≤ 3 ↔ lead.length < 10 ^ 3 :=
    Decimal.length_write_le_iff (by decide)
  have four : (Decimal.write lead.length).length ≤ 4 ↔ lead.length < 10 ^ 4 :=
    Decimal.length_write_le_iff (by decide)
  rw [length_sealed, MAX_BODY]
  omega

theorem length_sealed_eq_iff {lead : Bytes} :
    (sealed lead).length = MAX_BODY ↔ lead.length = 1002 := by
  have three : (Decimal.write lead.length).length ≤ 3 ↔ lead.length < 10 ^ 3 :=
    Decimal.length_write_le_iff (by decide)
  have four : (Decimal.write lead.length).length ≤ 4 ↔ lead.length < 10 ^ 4 :=
    Decimal.length_write_le_iff (by decide)
  rw [length_sealed, MAX_BODY]
  omega

theorem accepted_iff {runText : Bytes} {n : Nat} {record : Record} :
    Accepted format runText n record ↔
      ValidRecord record ∧ leadWidth format runText n record ≤ 1002 := by
  rw [← length_leadBytes, ← length_sealed_le_iff]
  exact ⟨fun accepted => ⟨accepted.valid, accepted.fits⟩, fun facts => ⟨facts.1, facts.2⟩⟩

end Chrysopolis.Framing
