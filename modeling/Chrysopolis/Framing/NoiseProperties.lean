import Chrysopolis.Framing.GrammarProperties
import Chrysopolis.Framing.RoundTripProperties

/-! Noise inside a frame. It is caught by the syntax or the length, unless it completes a
length field of its own behind the one the encoder wrote. -/

set_option autoImplicit false

namespace Chrysopolis.Framing

open Chrysopolis.Support

/-- The frame around a body is reported damaged once, and not by its CRC alone. -/
def Caught (body : Bytes) : Prop :=
  ∃ guessed reason, collect (MARKER ++ body ++ ascii "@@\n") = [.damaged guessed reason] ∧
    (reason = .syntaxError ∨ reason = .length ∨ reason = .oversize ∧ MAX_BODY < body.length)

/-- The noise holds a separator, comes after the one of the encoder's length field, and the
body it makes ends in a length field that counts what is before it. -/
structure Forges (lead before noise after : Bytes) : Prop where
  place : lead.length < before.length
  separator : BAR ∈ noise
  text : ∃ frame forged crc,
    BodyText plainByte frame forged forged.length crc (before ++ noise ++ after)

/-! ## One body between its marker and its end -/

theorem collect_body {body : Bytes} (quiet : AT ∉ body) :
    collect (MARKER ++ body ++ ascii "@@\n") =
      [if body.length < MAX_BODY then close body
        else .damaged (guess (body.take MAX_BODY)) .oversize] := by
  rw [List.append_assoc]
  exact (Reads.marker.append (Reads.closed quiet)).collect

/-- A body that the reader has room for is caught unless its length is right. -/
theorem caught_iff {body : Bytes} (quiet : AT ∉ body) :
    Caught body ↔ body.length ≠ MAX_BODY ∧
      ¬ (body.length < MAX_BODY ∧
        ∃ frame lead crc, BodyText plainByte frame lead lead.length crc body) := by
  rw [Caught, collect_body quiet]
  by_cases room : body.length < MAX_BODY
  · simp only [if_pos room, List.cons.injEq, and_true]
    by_cases shaped : ∃ frame lead length crc, BodyText plainByte frame lead length crc body
    · obtain ⟨frame, lead, length, crc, text⟩ := shaped
      have parsed := parse_of_bodyText text
      by_cases counted : lead.length = length
      · subst counted
        refine iff_of_false ?_ fun kept => kept.2 ⟨room, frame, lead, crc, text⟩
        rintro ⟨guessed, reason, closed, named⟩
        rw [if_neg (not_not_intro rfl)] at parsed
        rw [close, parsed] at closed
        split_ifs at closed
        cases closed
        rcases named with named | named | ⟨named, -⟩ <;> cases named
      · rw [if_pos counted] at parsed
        refine iff_of_true ⟨guess body, .length, by rw [close, parsed], .inr (.inl rfl)⟩
          ⟨room.ne, ?_⟩
        rintro ⟨-, frame', lead', crc', text'⟩
        have other := parse_of_bodyText text'
        rw [if_neg (not_not_intro rfl), parsed] at other
        split_ifs at other
        cases other
    · have parsed := parse_eq_syntax_iff.mpr shaped
      refine iff_of_true ⟨guess body, .syntaxError, by rw [close, parsed], .inl rfl⟩
        ⟨room.ne, ?_⟩
      rintro ⟨-, frame, lead, crc, text⟩
      exact shaped ⟨frame, lead, _, crc, text⟩
  · simp only [if_neg room, List.cons.injEq, and_true, Event.damaged.injEq]
    constructor
    · rintro ⟨guessed, reason, ⟨-, rfl⟩, named | named | ⟨-, long⟩⟩
      · cases named
      · cases named
      · exact ⟨long.ne', fun kept => room kept.1⟩
    · rintro ⟨apart, -⟩
      exact ⟨_, _, ⟨rfl, rfl⟩, .inr (.inr ⟨rfl, by omega⟩)⟩

/-! ## What a forged length field needs -/

/-- The bytes after the first separator of a body's trailer hold one separator more. -/
theorem count_trailer {length : Nat} {crc : Bytes} (valid : isHex8 crc = true) :
    (ascii "len=" ++ Decimal.write length ++ ascii "|crc=" ++ crc).count BAR = 1 := by
  have noDigits : (Decimal.write length).count BAR = 0 := List.count_eq_zero.mpr
    (bar_not_mem fun c member => partByte_of_isDigit (Decimal.isDigit_of_mem_write member))
  have noHex : crc.count BAR = 0 := List.count_eq_zero.mpr
    (bar_not_mem fun c member => partByte_of_isHex8Byte ((all_isHex8 valid).2 c member))
  have literals : (ascii "len=").count BAR = 0 ∧ (ascii "|crc=").count BAR = 1 := by decide
  simp only [List.count_append]
  omega

/-- A body text cut at the separator of its length field. -/
theorem BodyText.cut {frame : Frame} {lead crc body : Bytes} {length : Nat}
    (text : BodyText plainByte frame lead length crc body) :
    body = lead ++ BAR :: (ascii "len=" ++ Decimal.write length ++ ascii "|crc=" ++ crc) := by
  have literal : ascii "|len=" = BAR :: ascii "len=" := by decide
  rw [text.body, literal]
  simp

/-- The width of a body text, by its lead. -/
theorem BodyText.width {frame : Frame} {lead crc body : Bytes} {length : Nat}
    (text : BodyText plainByte frame lead length crc body) :
    body.length = lead.length + 18 + (Decimal.write length).length := by
  have literals : (ascii "|len=").length = 5 ∧ (ascii "|crc=").length = 5 := by decide
  have crcWidth := (all_isHex8 text.hex).1
  rw [text.body]
  simp only [List.length_append]
  omega

/-- A sealed body cut at the separator of its length field. -/
theorem sealed_cut (lead : Bytes) :
    sealed lead = lead ++ BAR :: (ascii "len=" ++ Decimal.write lead.length ++ ascii "|crc=" ++
      hex8 (crc32 (lead ++ ascii "|len=" ++ Decimal.write lead.length))) := by
  have literal : ascii "|len=" = BAR :: ascii "len=" := by decide
  simp only [sealed, literal]
  simp

variable {lead before noise after : Bytes}

/-- Noise in the lead leaves the encoder's own length field, which then counts too little. -/
theorem place_of_text (split : sealed lead = before ++ after) (nonempty : noise ≠ [])
    {frame : Frame} {forged crc : Bytes}
    (text : BodyText plainByte frame forged forged.length crc (before ++ noise ++ after)) :
    lead.length < before.length := by
  by_contra early
  have honest := sealed_cut lead
  have validCrc := isHex8_hex8 (crc32 (lead ++ ascii "|len=" ++ Decimal.write lead.length))
  set ownCrc := hex8 (crc32 (lead ++ ascii "|len=" ++ Decimal.write lead.length))
  rw [split] at honest
  obtain ⟨rest, leadForm, afterForm⟩ : ∃ rest, lead = before ++ rest ∧ after = rest ++
      BAR :: (ascii "len=" ++ Decimal.write lead.length ++ ascii "|crc=" ++ ownCrc) := by
    rcases List.append_eq_append_iff.mp honest with ⟨rest, leadForm, tail⟩ | ⟨rest, form, tail⟩
    · exact ⟨rest, leadForm, tail⟩
    · have width := congrArg List.length form
      rw [List.length_append] at width
      obtain rfl : rest = [] := List.eq_nil_of_length_eq_zero (by omega)
      exact ⟨[], by simpa using form.symm, by simpa using tail.symm⟩
  have cut := text.cut
  rw [afterForm, ← List.append_assoc] at cut
  have same := Delimited.eq_of_append_cons_eq cut
    ((count_trailer validCrc).trans (count_trailer text.hex).symm)
  rw [same] at cut
  have trailers := (List.cons.inj (List.append_cancel_left cut)).2
  simp only [List.append_assoc, List.append_cancel_left_eq] at trailers
  have literal : ascii "|crc=" = BAR :: ascii "crc=" := by decide
  have noHex {hexText : Bytes} (valid : isHex8 hexText = true) :
      (ascii "crc=" ++ hexText).count BAR = 0 := by
    have noDigits : hexText.count BAR = 0 := List.count_eq_zero.mpr
      (bar_not_mem fun c member => partByte_of_isHex8Byte ((all_isHex8 valid).2 c member))
    have none : (ascii "crc=").count BAR = 0 := by decide
    rw [List.count_append]
    omega
  rw [literal, List.cons_append, List.cons_append] at trailers
  have numbers := Delimited.eq_of_append_cons_eq trailers
    ((noHex validCrc).trans (noHex text.hex).symm)
  have equal := congrArg Decimal.read numbers
  rw [Decimal.read_write, Decimal.read_write, ← same, leadForm] at equal
  have positive := List.length_pos_iff.mpr nonempty
  simp only [List.length_append] at equal
  omega

/-- Noise without a separator leaves the number of fields, so the lead is the encoder's. -/
theorem separator_of_text (split : sealed lead = before ++ after) (nonempty : noise ≠ [])
    (place : lead.length < before.length) {frame : Frame} {forged crc : Bytes}
    (text : BodyText plainByte frame forged forged.length crc (before ++ noise ++ after)) :
    BAR ∈ noise := by
  by_contra absent
  have cut := sealed_cut lead
  have width := length_sealed lead
  rw [split] at cut width
  obtain ⟨rest, beforeForm, tail⟩ : ∃ rest, before = lead ++ BAR :: rest ∧
      rest ++ after = ascii "len=" ++ Decimal.write lead.length ++ ascii "|crc=" ++
        hex8 (crc32 (lead ++ ascii "|len=" ++ Decimal.write lead.length)) := by
    rcases List.append_eq_append_iff.mp cut with ⟨rest, leadForm, -⟩ | ⟨rest, form, tail⟩
    · have shorter := congrArg List.length leadForm
      rw [List.length_append] at shorter
      omega
    · cases rest with
      | nil =>
          rw [form, List.append_nil] at place
          omega
      | cons c rest =>
          rw [List.cons_append, List.cons.injEq] at tail
          exact ⟨rest, by rw [form, tail.1], tail.2.symm⟩
  have counts := @count_trailer lead.length _
    (isHex8_hex8 (crc32 (lead ++ ascii "|len=" ++ Decimal.write lead.length)))
  rw [← tail, List.count_append] at counts
  have noisy := text.cut
  rw [beforeForm, List.append_assoc, List.append_assoc, List.cons_append] at noisy
  have same := Delimited.eq_of_append_cons_eq noisy (by
    rw [count_trailer text.hex, List.count_append, List.count_append,
      List.count_eq_zero.mpr absent]
    omega)
  have noisyWidth := text.width
  have positive := List.length_pos_iff.mpr nonempty
  rw [← same] at noisyWidth
  simp only [List.length_append] at width noisyWidth
  omega

theorem forges_iff (split : sealed lead = before ++ after) (nonempty : noise ≠ []) :
    Forges lead before noise after ↔ ∃ frame forged crc,
      BodyText plainByte frame forged forged.length crc (before ++ noise ++ after) := by
  constructor
  · exact Forges.text
  · rintro ⟨frame, forged, crc, text⟩
    have place := place_of_text split nonempty text
    exact ⟨place, separator_of_text split nonempty place text, frame, forged, crc, text⟩

/-! ## Noise in an encoded frame -/

variable (format : Term → Bytes)

theorem quiet_of_encoded {runName : RunName} {records : List Record} {unexpected : Nat}
    {frames : List Bytes} (encoded : encodeRun format runName records unexpected = .ok frames)
    {body : Bytes} (printed : MARKER ++ body ++ ascii "@@\n" ∈ frames) : AT ∉ body := by
  obtain ⟨validRun, accepted, rfl⟩ := (encodeRun_eq_ok_iff format).mp encoded
  obtain ⟨entry, member, same⟩ := List.mem_map.mp printed
  rw [frameBytes, List.append_assoc, List.append_assoc, List.append_cancel_left_eq,
    List.append_cancel_right_eq] at same
  rw [← same]
  exact fun inBody => (of_mem_sealed format validRun (accepted entry member).valid inBody).2 rfl

/-- Noise in a printed frame is caught unless it brings a length field that is right, or
fills the body to exactly the size of the reader's buffer. -/
theorem noise_caught_iff {runName : RunName} {records : List Record} {unexpected : Nat}
    {frames : List Bytes} (encoded : encodeRun format runName records unexpected = .ok frames)
    (printed : MARKER ++ sealed lead ++ ascii "@@\n" ∈ frames)
    (split : sealed lead = before ++ after) (nonempty : noise ≠ []) (quiet : AT ∉ noise) :
    Caught (before ++ noise ++ after) ↔ (before ++ noise ++ after).length ≠ MAX_BODY ∧
      ¬ ((before ++ noise ++ after).length < MAX_BODY ∧ Forges lead before noise after) := by
  have quietBody := quiet_of_encoded format encoded printed
  rw [split, List.mem_append, not_or] at quietBody
  have quietNoisy : AT ∉ before ++ noise ++ after := by
    simp only [List.mem_append, not_or]
    exact ⟨⟨quietBody.1, quiet⟩, quietBody.2⟩
  rw [caught_iff quietNoisy, forges_iff split nonempty]

theorem noise_caught_iff_sample :
    Caught (ascii "A|n=0|k=step|x=" ++ ascii "zz" ++ ascii "1|len=16|crc=6f70189a") ↔
      (ascii "A|n=0|k=step|x=" ++ ascii "zz" ++ ascii "1|len=16|crc=6f70189a").length ≠ MAX_BODY ∧
        ¬ ((ascii "A|n=0|k=step|x=" ++ ascii "zz" ++
            ascii "1|len=16|crc=6f70189a").length < MAX_BODY ∧
          Forges (ascii "A|n=0|k=step|x=1") (ascii "A|n=0|k=step|x=") (ascii "zz")
            (ascii "1|len=16|crc=6f70189a")) :=
  noise_caught_iff (fun _ => []) encodeRun_sampleFrames (by decide +kernel) (by decide +kernel)
    (by decide) (by decide)

/-- A second length and CRC behind the first make a longer frame of the whole body. -/
theorem noise_accepted :
    encodeRun (fun _ => []) (.binary (ascii "A")) [sampleRecord (.integer 1)] 0 =
        .ok sampleFrames ∧
      MARKER ++ ascii "A|n=0|k=step|x=1|len=16|crc=6f70189a" ++ ascii "@@\n" ∈ sampleFrames ∧
      AT ∉ ascii "|len=36|crc=4461ef71" ∧
      collect (MARKER ++ (ascii "A|n=0|k=step|x=1|len=16|crc=6f70189a" ++
          ascii "|len=36|crc=4461ef71") ++ ascii "@@\n") =
        [.frame ⟨ascii "A", 0, ascii "step",
          [(ascii "x", ascii "1"), (ascii "len", ascii "16"), (ascii "crc", ascii "6f70189a")]⟩] ∧
      ¬ Caught (ascii "A|n=0|k=step|x=1|len=16|crc=6f70189a" ++ ascii "|len=36|crc=4461ef71") := by
  have accepted : collect (MARKER ++ (ascii "A|n=0|k=step|x=1|len=16|crc=6f70189a" ++
      ascii "|len=36|crc=4461ef71") ++ ascii "@@\n") =
        [.frame ⟨ascii "A", 0, ascii "step",
          [(ascii "x", ascii "1"), (ascii "len", ascii "16"),
            (ascii "crc", ascii "6f70189a")]⟩] := by
    decide +kernel
  refine ⟨encodeRun_sampleFrames, by decide +kernel, by decide, accepted, ?_⟩
  rintro ⟨guessed, reason, damaged, -⟩
  rw [accepted] at damaged
  cases damaged

end Chrysopolis.Framing
