import Chrysopolis.Framing.Grammar
import Chrysopolis.Framing.ParseProperties

/-! The parser accepts exactly the grammar. A body that passes the syntax checks is the text
of one frame, its length and a CRC; the two checks after them compare the last two. -/

set_option autoImplicit false

namespace Chrysopolis.Framing

open Chrysopolis.Support

/-! ## Values -/

/-- Only an uppercase digit reads as a digit. -/
theorem eq_upperHex_of_hex {c : UInt8} {value : Nat} (reads : hex c = some value) :
    c = upperHex value ∧ value < 16 := by
  have bound := c.toNat_lt
  unfold hex at reads
  simp only [UInt8.le_iff_toNat_le] at reads
  split_ifs at reads with decimal letter
  · obtain rfl := Option.some.inj reads
    simp at decimal
    refine ⟨UInt8.toNat.inj ?_, by omega⟩
    rw [upperHex, if_pos (by omega), UInt8.toNat_ofNat']
    omega
  · obtain rfl := Option.some.inj reads
    simp at letter
    refine ⟨UInt8.toNat.inj ?_, by omega⟩
    rw [upperHex, if_neg (by omega), UInt8.toNat_ofNat']
    omega

theorem unescapeInto_of_valueText {value text : Bytes} (written : ValueText plainByte value text)
    (acc : Bytes) : unescapeInto text acc = some (acc ++ value) := by
  induction written generalizing acc with
  | nil => rw [unescapeInto, List.append_nil]
  | @literal c value text plain _ ih =>
      have escaped : escapeByte c = [c] := if_pos plain
      have step := unescapeInto_escapeByte c text acc
      rw [escaped, List.singleton_append] at step
      rw [step, ih, List.append_assoc, List.singleton_append]
  | @escape c value text _ ih =>
      have bound := c.toNat_lt
      have high := hex_upperHex (c.toNat / 16) (by omega)
      have low := hex_upperHex (c.toNat % 16) (by omega)
      change unescapeInto (0x25 :: upperHex (c.toNat / 16) :: upperHex (c.toNat % 16) :: text) acc
        = _
      rw [unescapeInto.eq_2, high, low]
      simp [Nat.div_add_mod', ih]

theorem valueText_of_unescapeInto {text acc decoded : Bytes}
    (all : ∀ c ∈ text, bodyByte c = true ∧ c ≠ BAR)
    (reads : unescapeInto text acc = some decoded) :
    ∃ value, decoded = acc ++ value ∧ ValueText plainByte value text := by
  induction text, acc using unescapeInto.induct with
  | case1 acc =>
      rw [unescapeInto, Option.some.injEq] at reads
      exact ⟨[], by rw [reads, List.append_nil], .nil⟩
  | case2 h l rest acc high low hexLow hexHigh ih =>
      rw [unescapeInto.eq_2, hexHigh, hexLow] at reads
      obtain ⟨value, rfl, written⟩ := ih (fun c member => all c (by simp [member])) reads
      obtain ⟨rfl, highBound⟩ := eq_upperHex_of_hex hexHigh
      obtain ⟨rfl, lowBound⟩ := eq_upperHex_of_hex hexLow
      refine ⟨UInt8.ofNat (high * 16 + low) :: value, by simp, ?_⟩
      have byte : (UInt8.ofNat (high * 16 + low)).toNat = high * 16 + low :=
        by rw [UInt8.toNat_ofNat', Nat.mod_eq_of_lt (by omega)]
      have text := @ValueText.escape plainByte (UInt8.ofNat (high * 16 + low)) _ _ written
      rw [byte] at text
      rw [show (high * 16 + low) / 16 = high by omega,
        show (high * 16 + low) % 16 = low by omega] at text
      exact text
  | case3 h l rest acc bad =>
      rw [unescapeInto.eq_2] at reads
      split at reads
      · exact absurd (by assumption) (bad _ _ (by assumption))
      · cases reads
  | case4 c rest acc notPair reserved =>
      rw [unescapeInto.eq_3 _ _ _ notPair, if_pos reserved] at reads
      cases reads
  | case5 c rest acc notPair plain ih =>
      rw [unescapeInto.eq_3 _ _ _ notPair, if_neg plain] at reads
      obtain ⟨value, rfl, written⟩ :=
        ih (fun other member => all other (List.mem_cons_of_mem _ member)) reads
      refine ⟨c :: value, by simp, .literal ?_ written⟩
      obtain ⟨printable, apart⟩ := all c List.mem_cons_self
      simp only [not_or] at plain
      simp only [bodyByte, Bool.and_eq_true] at printable
      simp only [plainByte, Bool.and_eq_true, bne_iff_ne]
      exact ⟨⟨⟨⟨printable, plain.1⟩, apart⟩, plain.2.1⟩, plain.2.2⟩

theorem partByte_of_valueText {value text : Bytes} (written : ValueText plainByte value text) :
    ∀ c ∈ text, partByte c = true := by
  induction written with
  | nil => simp
  | literal plain _ ih =>
      exact List.forall_mem_cons.mpr ⟨(partByte_of_plainByte plain).1, ih⟩
  | @escape c value text _ ih =>
      have bound := c.toNat_lt
      have percent : partByte PERCENT = true := by decide
      exact List.forall_mem_cons.mpr ⟨percent, List.forall_mem_cons.mpr
        ⟨partByte_upperHex _ (by omega), List.forall_mem_cons.mpr
          ⟨partByte_upperHex _ (by omega), ih⟩⟩⟩

/-! ## Fields -/

theorem partByte_of_fieldText {field : Bytes × Bytes} {text : Bytes}
    (written : FieldText plainByte field text) : ∀ c ∈ text, partByte c = true := by
  obtain ⟨validKey, value⟩ := written
  have equals : partByte EQUALS = true := by decide
  intro c member
  rcases List.mem_append.mp member with inKey | inRest
  · exact (partByte_of_isNameByte (all_isName validKey c inKey)).1
  · rcases List.mem_cons.mp inRest with rfl | inText
    · exact equals
    · exact partByte_of_valueText value c inText

theorem partByte_of_fieldTexts {fields : List (Bytes × Bytes)} {texts : List Bytes}
    (written : List.Forall₂ (FieldText plainByte) fields texts) :
    ∀ text ∈ texts, ∀ c ∈ text, partByte c = true := by
  induction written with
  | nil => simp
  | cons head _ ih => exact List.forall_mem_cons.mpr ⟨partByte_of_fieldText head, ih⟩

theorem fieldsInto_of_fieldTexts {fields : List (Bytes × Bytes)} {texts : List Bytes}
    (written : List.Forall₂ (FieldText plainByte) fields texts) (acc : List (Bytes × Bytes)) :
    fieldsInto texts acc = some (acc.reverse ++ fields) := by
  induction written generalizing acc with
  | nil => rw [fieldsInto, List.append_nil]
  | cons head _ ih =>
      obtain @⟨key, value, text, validKey, written⟩ := head
      have noEquals : EQUALS ∉ key := fun member =>
        (partByte_of_isNameByte (all_isName validKey _ member)).2 rfl
      rw [fieldsInto, Delimited.splitFirst_append noEquals]
      simp only [validKey, if_true, unescape, unescapeInto_of_valueText written, List.nil_append]
      rw [ih, List.reverse_cons, List.append_assoc, List.singleton_append]

theorem fieldTexts_of_fieldsInto {raw : List Bytes} {acc decoded : List (Bytes × Bytes)}
    (all : ∀ text ∈ raw, ∀ c ∈ text, bodyByte c = true ∧ c ≠ BAR)
    (reads : fieldsInto raw acc = some decoded) :
    ∃ fields, decoded = acc.reverse ++ fields ∧
      List.Forall₂ (FieldText plainByte) fields raw := by
  induction raw generalizing acc with
  | nil =>
      rw [fieldsInto, Option.some.injEq] at reads
      exact ⟨[], by rw [← reads, List.append_nil], .nil⟩
  | cons text raw ih =>
      rw [fieldsInto] at reads
      cases split : Delimited.splitFirst EQUALS text with
      | none =>
          rw [split] at reads
          cases reads
      | some pieces =>
          obtain ⟨key, valueText⟩ := pieces
          simp only [split] at reads
          split_ifs at reads with validKey
          cases unescaped : unescape valueText with
          | none =>
              rw [unescaped] at reads
              cases reads
          | some value =>
              simp only [unescaped] at reads
              obtain ⟨fields, rfl, written⟩ :=
                ih (fun other member => all other (List.mem_cons_of_mem _ member)) reads
              have form := Delimited.splitFirst_some split
              have inValue : ∀ c ∈ valueText, bodyByte c = true ∧ c ≠ BAR := fun c member =>
                all text List.mem_cons_self c (by rw [form]; simp [member])
              obtain ⟨decoded, same, spelled⟩ := valueText_of_unescapeInto inValue unescaped
              rw [List.nil_append] at same
              subst same
              rw [form]
              exact ⟨(key, value) :: fields, by simp, .cons (.mk validKey spelled) written⟩

/-! ## Bodies -/

/-- The parts of a body text between its separators. -/
theorem bodyText_parts {frame : Frame} {length : Nat} {crc : Bytes} (texts : List Bytes) :
    frame.run ++ ascii "|n=" ++ Decimal.write frame.n ++ ascii "|k=" ++ frame.kind ++
        texts.flatMap (BAR :: ·) ++ ascii "|len=" ++ Decimal.write length ++ ascii "|crc=" ++ crc =
      frame.run ++ ((ascii "n=" ++ Decimal.write frame.n) :: (ascii "k=" ++ frame.kind) ::
        (texts ++ [ascii "len=" ++ Decimal.write length, ascii "crc=" ++ crc])).flatMap
          (BAR :: ·) := by
  have numberField : ascii "|n=" = BAR :: ascii "n=" := by decide
  have kindField : ascii "|k=" = BAR :: ascii "k=" := by decide
  have lengthField : ascii "|len=" = BAR :: ascii "len=" := by decide
  have crcField : ascii "|crc=" = BAR :: ascii "crc=" := by decide
  rw [numberField, kindField, lengthField, crcField]
  simp

theorem partByte_of_isHex8Byte {c : UInt8} (valid : isHex8Byte c = true) :
    partByte c = true := by
  rw [partByte_iff]
  simp only [isHex8Byte, Bool.or_eq_true, Bool.and_eq_true, decide_eq_true_eq,
    UInt8.le_iff_toNat_le] at valid
  simp at valid
  omega

theorem all_isHex8 {bytes : Bytes} (valid : isHex8 bytes = true) :
    bytes.length = 8 ∧ ∀ c ∈ bytes, isHex8Byte c = true := by
  rw [isHex8, Bool.and_eq_true, beq_iff_eq, List.all_eq_true] at valid
  exact valid

variable {frame : Frame} {lead crc body : Bytes} {length : Nat}

/-- What the syntax checks read in a body text. -/
theorem shape_of_bodyText (text : BodyText plainByte frame lead length crc body) :
    shape body = some
      { frame, lengthText := Decimal.write length, length, crc } := by
  obtain ⟨⟨validRun, validKind, small, texts, written, rfl⟩, short, validCrc, rfl⟩ := text
  have inTexts := partByte_of_fieldTexts written
  have literals : ∀ c ∈ ascii "n=" ++ ascii "k=" ++ ascii "len=" ++ ascii "crc=",
      partByte c = true := by decide +kernel
  simp only [List.mem_append, or_imp, forall_and] at literals
  obtain ⟨⟨⟨numberLiteral, kindLiteral⟩, lengthLiteral⟩, crcLiteral⟩ := literals
  have inParts : ∀ part ∈ (ascii "n=" ++ Decimal.write frame.n) ::
      (ascii "k=" ++ frame.kind) ::
        (texts ++ [ascii "len=" ++ Decimal.write length, ascii "crc=" ++ crc]),
      ∀ c ∈ part, partByte c = true := by
    have digit (n : Nat) : ∀ c ∈ Decimal.write n, partByte c = true := fun c member =>
      partByte_of_isDigit (Decimal.isDigit_of_mem_write member)
    have inKind : ∀ c ∈ frame.kind, partByte c = true := fun c member =>
      (partByte_of_isNameByte (all_isName validKind c member)).1
    have inCrc : ∀ c ∈ crc, partByte c = true := fun c member =>
      partByte_of_isHex8Byte ((all_isHex8 validCrc).2 c member)
    simp only [List.forall_mem_cons, List.forall_mem_append]
    exact ⟨⟨numberLiteral, digit _⟩, ⟨kindLiteral, inKind⟩, inTexts, ⟨lengthLiteral, digit _⟩,
      ⟨crcLiteral, inCrc⟩, by simp⟩
  have inRun : ∀ c ∈ frame.run, partByte c = true := fun c member =>
    partByte_of_isRunByte (all_isRun validRun c member)
  have inBody (c : UInt8) (valid : partByte c = true) : bodyByte c = true := by
    simp only [partByte, Bool.and_eq_true] at valid
    exact valid.1.1
  rw [bodyText_parts]
  refine @shape_of_shaped _ _ (Decimal.write frame.n) texts {
    printable := List.all_eq_true.mpr fun c member => ?_
    split := Delimited.splitOn_append_flatMap (bar_not_mem inRun)
      fun part member => bar_not_mem (inParts part member)
    run := validRun
    kind := validKind
    crc := validCrc
    number := by rw [digits_write, if_pos small]
    length := by rw [digits_write, if_pos short]
    fields := fieldsInto_of_fieldTexts written [] }
  rcases List.mem_append.mp member with inRunText | inRest
  · exact inBody c (inRun c inRunText)
  · obtain ⟨part, member, inPart⟩ := List.mem_flatMap.mp inRest
    rcases List.mem_cons.mp inPart with rfl | inPart
    · decide
    · exact inBody c (inParts part member c inPart)

/-- A body that passes the syntax checks is a body text. -/
theorem bodyText_of_shape {parts : Shape} (passed : shape body = some parts) :
    parts.lengthText = Decimal.write parts.length ∧
      ∃ lead, BodyText plainByte parts.frame lead parts.length parts.crc body := by
  obtain ⟨nText, raw, shaped⟩ := shaped_of_shape passed
  obtain ⟨rfl, small⟩ := eq_write_of_digits shaped.number
  obtain ⟨lengthText, short⟩ := eq_write_of_digits shaped.length
  have inRaw : ∀ text ∈ raw, ∀ c ∈ text, bodyByte c = true ∧ c ≠ BAR := by
    intro text member c inText
    have inSplit : text ∈ body.splitOn BAR := by
      rw [shaped.split]
      simp [member]
    refine ⟨List.all_eq_true.mp shaped.printable c
      (Delimited.mem_of_mem_splitOn inSplit inText), ?_⟩
    rintro rfl
    exact Delimited.not_mem_of_mem_splitOn inSplit inText
  obtain ⟨fields, same, written⟩ := fieldTexts_of_fieldsInto inRaw shaped.fields
  rw [List.reverse_nil, List.nil_append] at same
  have laidOut := Delimited.eq_append_flatMap_of_splitOn shaped.split
  rw [lengthText, ← bodyText_parts raw] at laidOut
  refine ⟨lengthText, _, ⟨shaped.run, shaped.kind, small, raw, ?_, rfl⟩, short, shaped.crc,
    laidOut⟩
  rw [same]
  exact written

/-- The checks of a body text after its syntax: its length, then its CRC. -/
theorem parse_of_bodyText (text : BodyText plainByte frame lead length crc body) :
    parse body =
      if lead.length ≠ length then .error .length
      else if hex8 (crc32 (lead ++ ascii "|len=" ++ Decimal.write length)) ≠ crc then
        .error .crc
      else .ok frame :=
  parse_of_shape (shape_of_bodyText text) text.body (all_isHex8 text.hex).1

/-- A body that is not a body text fails its syntax, whatever else is wrong with it. -/
theorem parse_eq_syntax_iff :
    parse body = .error .syntaxError ↔
      ¬ ∃ frame lead length crc, BodyText plainByte frame lead length crc body := by
  constructor
  · rintro failed ⟨frame, lead, length, crc, text⟩
    rw [parse_of_bodyText text] at failed
    split_ifs at failed <;> cases failed
  · intro none
    cases passed : shape body with
    | none => rw [parse, passed]
    | some parts =>
        obtain ⟨-, lead, text⟩ := bodyText_of_shape passed
        exact absurd ⟨_, _, _, _, text⟩ none

/-- Any other answer is about the one text the body is. -/
theorem bodyText_of_parse {answer : Except Reason Frame} (answered : parse body = answer)
    (passed : answer ≠ .error .syntaxError) :
    ∃ frame lead length crc, BodyText plainByte frame lead length crc body := by
  by_contra none
  exact passed (answered.symm.trans (parse_eq_syntax_iff.mpr none))

theorem parse_eq_length_iff :
    parse body = .error .length ↔
      ∃ frame lead length crc,
        BodyText plainByte frame lead length crc body ∧ lead.length ≠ length := by
  constructor
  · intro failed
    obtain ⟨frame, lead, length, crc, text⟩ := bodyText_of_parse failed nofun
    refine ⟨frame, lead, length, crc, text, fun same => ?_⟩
    rw [parse_of_bodyText text, if_neg (not_not_intro same)] at failed
    split_ifs at failed
    cases failed
  · rintro ⟨frame, lead, length, crc, text, differ⟩
    rw [parse_of_bodyText text, if_pos differ]

theorem parse_eq_crc_iff :
    parse body = .error .crc ↔
      ∃ frame lead crc, BodyText plainByte frame lead lead.length crc body ∧
        hex8 (crc32 (lead ++ ascii "|len=" ++ Decimal.write lead.length)) ≠ crc := by
  constructor
  · intro failed
    obtain ⟨frame, lead, length, crc, text⟩ := bodyText_of_parse failed nofun
    rw [parse_of_bodyText text] at failed
    split_ifs at failed with miscounted checked
    · cases failed
    · obtain rfl := not_not.mp miscounted
      exact ⟨frame, lead, crc, text, checked⟩
  · rintro ⟨frame, lead, crc, text, differ⟩
    rw [parse_of_bodyText text, if_neg (not_not_intro rfl), if_pos differ]

/-- A sealed lead is a body text. -/
theorem bodyText_sealed (written : LeadText plainByte frame lead) (short : lead.length < 10 ^ 10) :
    BodyText plainByte frame lead lead.length
      (hex8 (crc32 (lead ++ ascii "|len=" ++ Decimal.write lead.length))) (sealed lead) :=
  ⟨written, short, isHex8_hex8 _, rfl⟩

theorem parse_eq_ok_iff :
    parse body = .ok frame ↔
      ∃ lead, LeadText plainByte frame lead ∧ lead.length < 10 ^ 10 ∧ body = sealed lead := by
  constructor
  · intro accepted
    obtain ⟨other, lead, length, crc, text⟩ := bodyText_of_parse accepted nofun
    rw [parse_of_bodyText text] at accepted
    split_ifs at accepted with miscounted differ
    obtain rfl := Except.ok.inj accepted
    obtain rfl := not_not.mp miscounted
    obtain rfl := not_not.mp differ
    exact ⟨lead, text.written, text.digits, text.body⟩
  · rintro ⟨lead, written, short, rfl⟩
    rw [parse_of_bodyText (bodyText_sealed written short), if_neg (not_not_intro rfl),
      if_neg (not_not_intro rfl)]

/-! ## No exceptions -/

theorem binaryPart_zero {bytes : Bytes} {count : Nat} (inside : count ≤ bytes.length) :
    binaryPart bytes 0 count = some (bytes.take count) := by
  simp only [binaryPart, Int.zero_add]
  rw [if_pos (by omega)]
  simp

/-- The parts that the parser takes are in the body. -/
theorem parseRaising_eq (body : Bytes) : parseRaising body = some (parse body) := by
  rw [parseRaising, parse]
  cases passed : shape body with
  | none => rfl
  | some parts =>
      obtain ⟨lengthText, lead, text⟩ := bodyText_of_shape passed
      have literals : (ascii "|len=").length = 5 ∧ (ascii "|crc=").length = 5 := by decide
      have widths := congrArg List.length text.body
      have crcWidth := (all_isHex8 text.hex).1
      rw [← lengthText] at widths
      simp only [List.length_append] at widths
      have covered : ((body.length : Int) - (ascii "|crc=").length - 8) =
          (body.length - (ascii "|crc=").length - 8 : Nat) := by omega
      have counted : ((body.length - (ascii "|crc=").length - 8 : Nat) : Int) -
          (ascii "|len=").length - parts.lengthText.length =
          (body.length - (ascii "|crc=").length - 8 - (ascii "|len=").length -
            parts.lengthText.length : Nat) := by omega
      simp only [covered, counted]
      rw [binaryPart_zero (by omega), binaryPart_zero (by omega)]
      simp only [Option.bind_eq_bind, Option.bind_some]
      split_ifs <;> rfl

/-- The parser answers every body, accepts exactly the sealed leads, and names the first of
syntax, length and CRC that fails. -/
theorem parse_grammar (body : Bytes) :
    parseRaising body = some (parse body) ∧
      (∀ frame, parse body = .ok frame ↔
        ∃ lead, LeadText plainByte frame lead ∧ lead.length < 10 ^ 10 ∧ body = sealed lead) ∧
      (parse body = .error .syntaxError ↔
        ¬ ∃ frame lead length crc, BodyText plainByte frame lead length crc body) ∧
      (parse body = .error .length ↔
        ∃ frame lead length crc,
          BodyText plainByte frame lead length crc body ∧ lead.length ≠ length) ∧
      (parse body = .error .crc ↔
        ∃ frame lead crc, BodyText plainByte frame lead lead.length crc body ∧
          hex8 (crc32 (lead ++ ascii "|len=" ++ Decimal.write lead.length)) ≠ crc) ∧
      parse body ≠ .error .oversize := by
  refine ⟨parseRaising_eq body, fun _ => parse_eq_ok_iff, parse_eq_syntax_iff,
    parse_eq_length_iff, parse_eq_crc_iff, fun failed => ?_⟩
  obtain ⟨frame, lead, length, crc, text⟩ := bodyText_of_parse failed nofun
  rw [parse_of_bodyText text] at failed
  split_ifs at failed <;> cases failed

/-- A bare `=` in a value is printable, and refused. -/
theorem parse_refuses_equals :
    ¬ ∀ (body : Bytes) (frame : Frame), parse body = .ok frame ↔
      ∃ lead, LeadText printableByte frame lead ∧ lead.length < 10 ^ 10 ∧
        body = sealed lead := by
  intro all
  have value : ValueText printableByte (ascii "a=b") (ascii "a=b") :=
    .literal (by decide) (.literal (by decide) (.literal (by decide) .nil))
  have written : LeadText printableByte ⟨ascii "A", 0, ascii "step", [(ascii "x", ascii "a=b")]⟩
      (ascii "A|n=0|k=step|x=a=b") :=
    ⟨by decide, by decide, by decide, _, .cons (.mk (by decide) value) .nil, by decide⟩
  have accepted := (all (sealed (ascii "A|n=0|k=step|x=a=b")) _).mpr ⟨_, written, by decide, rfl⟩
  have refused : parse (sealed (ascii "A|n=0|k=step|x=a=b")) = .error .syntaxError := by
    decide +kernel
  rw [refused] at accepted
  cases accepted

end Chrysopolis.Framing
