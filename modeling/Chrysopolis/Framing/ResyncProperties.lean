import Chrysopolis.Framing.RoundTripProperties

/-! A frame after a cut one. The cut body and the noise after it are one open
body to the reader, which the next marker closes, unless that body has exactly
the size of the buffer: then the marker's first byte is the one dropped. -/

set_option autoImplicit false

namespace Chrysopolis.Framing

open Chrysopolis.Support

variable (format : Term → Bytes)

/-! ## The width of a parsed body -/

/-- The width a frame has at least, however its values were escaped. -/
def frameWidth (frame : Frame) : Nat :=
  frame.run.length + 3 + (Decimal.write frame.n).length + 3 + frame.kind.length +
    (frame.fields.map fun field => field.1.length + 2 + escapedWidth field.2).sum

theorem frameWidth_frameOf (runText : Bytes) (n : Nat) (record : Record) :
    frameWidth (frameOf format runText n record) = leadWidth format runText n record := by
  simp [frameWidth, frameOf, leadWidth, renderedField, List.map_map, Function.comp_def]

theorem escapedWidth_append (first second : Bytes) :
    escapedWidth (first ++ second) = escapedWidth first + escapedWidth second := by
  simp [escapedWidth]

theorem escapedWidth_singleton (c : UInt8) :
    escapedWidth [c] = if plainByte c then 1 else 3 := by
  simp [escapedWidth]

theorem escapedWidth_le_of_unescapeInto {text acc value : Bytes}
    (all : ∀ c ∈ text, bodyByte c = true ∧ c ≠ BAR) (decoded : unescapeInto text acc = some value) :
    escapedWidth value ≤ escapedWidth acc + text.length := by
  induction text, acc using unescapeInto.induct with
  | case1 acc =>
      rw [unescapeInto, Option.some.injEq] at decoded
      rw [← decoded]
      exact Nat.le_add_right _ _
  | case2 h l rest acc high low hexLow hexHigh ih =>
      rw [unescapeInto.eq_2, hexHigh, hexLow] at decoded
      have tail := ih (fun c member => all c (by simp [member])) decoded
      have one := escapedWidth_singleton (UInt8.ofNat (high * 16 + low))
      rw [escapedWidth_append] at tail
      simp only [List.length_cons]
      split at one <;> omega
  | case3 h l rest acc bad =>
      rw [unescapeInto.eq_2] at decoded
      split at decoded
      · exact absurd (by assumption) (bad _ _ (by assumption))
      · cases decoded
  | case4 c rest acc notPair reserved =>
      rw [unescapeInto.eq_3 _ _ _ notPair, if_pos reserved] at decoded
      cases decoded
  | case5 c rest acc notPair plain ih =>
      rw [unescapeInto.eq_3 _ _ _ notPair, if_neg plain] at decoded
      have tail := ih (fun other member => all other (List.mem_cons_of_mem _ member)) decoded
      have self : plainByte c = true := by
        obtain ⟨printable, apart⟩ := all c List.mem_cons_self
        simp only [not_or] at plain
        simp only [bodyByte, Bool.and_eq_true] at printable
        simp only [plainByte, Bool.and_eq_true, bne_iff_ne]
        exact ⟨⟨⟨⟨printable, plain.1⟩, apart⟩, plain.2.1⟩, plain.2.2⟩
      have one := escapedWidth_singleton c
      rw [if_pos self] at one
      rw [escapedWidth_append] at tail
      rw [List.length_cons]
      omega

/-- The width of decoded fields, each with its separators. -/
def fieldsWidth (fields : List (Bytes × Bytes)) : Nat :=
  (fields.map fun field => field.1.length + 2 + escapedWidth field.2).sum

theorem fieldsWidth_le_of_fieldsInto {raw : List Bytes} {acc fields : List (Bytes × Bytes)}
    (all : ∀ field ∈ raw, ∀ c ∈ field, bodyByte c = true ∧ c ≠ BAR)
    (decoded : fieldsInto raw acc = some fields) :
    fieldsWidth fields ≤ fieldsWidth acc + (raw.flatMap (BAR :: ·)).length := by
  induction raw generalizing acc with
  | nil =>
      rw [fieldsInto, Option.some.injEq] at decoded
      rw [← decoded, fieldsWidth, List.map_reverse, List.sum_reverse]
      exact Nat.le_add_right _ _
  | cons field raw ih =>
      rw [fieldsInto] at decoded
      cases split : Delimited.splitFirst EQUALS field with
      | none =>
          rw [split] at decoded
          cases decoded
      | some pieces =>
          obtain ⟨keyText, valueText⟩ := pieces
          simp only [split] at decoded
          by_cases keyValid : isName keyText = true
          · rw [if_pos keyValid] at decoded
            cases unescaped : unescape valueText with
            | none =>
                rw [unescaped] at decoded
                cases decoded
            | some value =>
                simp only [unescaped] at decoded
                have tail := ih (fun other member => all other (List.mem_cons_of_mem _ member))
                  decoded
                have form := Delimited.splitFirst_some split
                have inValue : ∀ c ∈ valueText, bodyByte c = true ∧ c ≠ BAR := fun c member =>
                  all field List.mem_cons_self c (by rw [form]; simp [member])
                have value := escapedWidth_le_of_unescapeInto inValue unescaped
                have fieldLength : field.length = keyText.length + 1 + valueText.length := by
                  rw [form, List.length_append, List.length_cons]
                  omega
                simp only [fieldsWidth, List.map_cons, List.sum_cons, List.flatMap_cons,
                  List.cons_append, List.length_cons, List.length_append] at tail ⊢
                simp only [escapedWidth, List.map_nil, List.sum_nil] at value tail ⊢
                omega
          · rw [if_neg keyValid] at decoded
            cases decoded

/-- A body that parses is at least as long as its frame sealed anew. -/
theorem frameWidth_lt_of_parse {body : Bytes} {frame : Frame} (parsed : parse body = .ok frame)
    (short : body.length < MAX_BODY) : frameWidth frame < 1002 ∧ frame.n < 10 ^ 10 := by
  rw [parse] at parsed
  cases passed : shape body with
  | none =>
      rw [passed] at parsed
      cases parsed
  | some parts =>
      obtain ⟨nText, raw, shaped⟩ := shaped_of_shape passed
      have inRaw : ∀ field ∈ raw, ∀ c ∈ field, bodyByte c = true ∧ c ≠ BAR := by
        intro field member c inField
        have inSplit : field ∈ body.splitOn BAR := by
          rw [shaped.split]
          simp [member]
        refine ⟨List.all_eq_true.mp shaped.printable c
          (Delimited.mem_of_mem_splitOn inSplit inField), ?_⟩
        rintro rfl
        exact Delimited.not_mem_of_mem_splitOn inSplit inField
      have fields := fieldsWidth_le_of_fieldsInto inRaw shaped.fields
      obtain ⟨numberText, small⟩ := eq_write_of_digits shaped.number
      obtain ⟨lengthText, -⟩ := eq_write_of_digits shaped.length
      have laidOut := congrArg List.length (Delimited.eq_append_flatMap_of_splitOn shaped.split)
      have crcWidth : parts.crc.length = 8 := by
        have valid := shaped.crc
        rw [isHex8, Bool.and_eq_true, beq_iff_eq] at valid
        exact valid.1
      have literals : (ascii "n=").length = 2 ∧ (ascii "k=").length = 2 ∧
          (ascii "len=").length = 4 ∧ (ascii "crc=").length = 4 ∧
          (ascii "|len=").length = 5 ∧ (ascii "|crc=").length = 5 := by decide
      simp only [List.length_append, List.flatMap_cons, List.flatMap_append, List.flatMap_nil,
        List.length_cons, List.length_nil] at laidOut
      have lengthWidth := congrArg List.length lengthText
      have numberWidth := congrArg List.length numberText
      simp only [passed] at parsed
      split at parsed
      · cases parsed
      · rename_i lengthChecked
        split at parsed
        · cases parsed
        · obtain rfl := Except.ok.inj parsed
          rw [not_not, List.length_take] at lengthChecked
          have three : (Decimal.write parts.length).length ≤ 3 ↔ parts.length < 10 ^ 3 :=
            Decimal.length_write_le_iff (by decide)
          have four : (Decimal.write parts.length).length ≤ 4 ↔ parts.length < 10 ^ 4 :=
            Decimal.length_write_le_iff (by decide)
          rw [MAX_BODY] at short
          refine ⟨?_, small⟩
          simp only [frameWidth, fieldsWidth, List.map_nil, List.sum_nil] at fields ⊢
          omega

/-! ## The frame after an open body -/

/-- The events of an open body and a printed frame. -/
def resyncEvents (opened : Bytes) (next : Event) : List Event :=
  if opened.length < MAX_BODY then [close opened, next]
  else if opened.length = MAX_BODY then [.damaged (guess opened) .oversize]
  else [.damaged (guess (opened.take MAX_BODY)) .oversize, next]

/-- The next marker closes a body below the cap and opens the frame; it follows a
body beyond the cap; at the cap its first byte is dropped and the rest is noise. -/
theorem collect_open_frame {opened runText : Bytes} {n : Nat} {record : Record}
    (quiet : AT ∉ opened) (validRun : isRun runText = true)
    (accepted : Accepted format runText n record) :
    collect (MARKER ++ opened ++ frameBytes format runText n record) =
      resyncEvents opened (frameEvent format runText n record) := by
  have rest := reads_sealed format validRun accepted
  have bodyQuiet : AT ∉ sealed (leadBytes format runText n record) := fun member =>
    (of_mem_sealed format validRun accepted.valid member).2 rfl
  have closing : frameBytes format runText n record = ascii "@@" ++ (MARKER.drop 2 ++
      (sealed (leadBytes format runText n record) ++ ascii "@@\n")) := by
    rw [frameBytes, List.append_assoc]
    rfl
  have dropping : frameBytes format runText n record = [AT] ++ (MARKER.drop 1 ++
      (sealed (leadBytes format runText n record) ++ ascii "@@\n")) := by
    rw [frameBytes, List.append_assoc]
    rfl
  rw [resyncEvents, List.append_assoc]
  by_cases below : opened.length < MAX_BODY
  · have bodyRead := @Reads.body [] _ quiet (by simpa using Nat.le_of_lt below)
    have closed := (Reads.close below).append (Reads.markerRest.append rest)
    rw [if_pos below, closing]
    exact (Reads.marker.append (bodyRead.append closed)).collect
  · rw [if_neg below]
    by_cases full : opened.length = MAX_BODY
    · have bodyRead := @Reads.body [] _ quiet (by simpa using le_of_eq full)
      have lost := Reads.markerCut.append ((Reads.noise bodyQuiet).append Reads.closing)
      have dropped := (Reads.oversize (le_of_eq full.symm) .plain AT).append lost
      rw [if_pos full, dropping]
      exact (Reads.marker.append (bodyRead.append dropped)).collect
    · rw [if_neg full]
      obtain ⟨c, later, split⟩ : ∃ c later, opened.drop MAX_BODY = c :: later :=
        List.exists_cons_of_length_pos (by rw [List.length_drop]; omega)
      have cut : opened = opened.take MAX_BODY ++ ([c] ++ later) := by
        rw [List.singleton_append, ← split, List.take_append_drop]
      have atCap : (opened.take MAX_BODY).length = MAX_BODY := by
        rw [List.length_take]
        omega
      have inCut : ∀ d, d ∈ opened.take MAX_BODY ∨ d ∈ later → d ∈ opened := by
        intro d member
        rw [cut]
        rcases member with early | late
        · exact List.mem_append_left _ early
        · exact List.mem_append_right _ (List.mem_append_right _ late)
      have bodyRead := @Reads.body [] _ (fun member => quiet (inCut _ (Or.inl member)))
        (by simp)
      have noise := Reads.noise fun member => quiet (inCut _ (Or.inr member))
      have dropped := (Reads.oversize (le_of_eq atCap.symm) .plain c).append noise
      have frame := Reads.marker.append ((bodyRead.append dropped).append
        (reads_frameBytes format validRun accepted))
      conv_lhs => rw [cut]
      exact frame.collect

/-- A frame is the last event after an open body, unless the body fills the buffer. -/
theorem frame_mem_collect_iff {opened runText : Bytes} {n : Nat} {record : Record}
    (quiet : AT ∉ opened) (validRun : isRun runText = true)
    (accepted : Accepted format runText n record) :
    Event.frame (frameOf format runText n record) ∈
        collect (MARKER ++ opened ++ frameBytes format runText n record) ↔
      opened.length ≠ MAX_BODY ∧ Readable format runText n record := by
  rw [collect_open_frame format quiet validRun accepted, resyncEvents]
  by_cases readable : Readable format runText n record
  · rw [frameEvent_of_readable format readable]
    by_cases below : opened.length < MAX_BODY
    · simp [below, Nat.ne_of_lt below, readable]
    · by_cases full : opened.length = MAX_BODY
      · simp [full]
      · simp [below, full, readable]
  · obtain ⟨reason, damaged⟩ := frameEvent_of_not_readable format readable
    have notClosed : opened.length < MAX_BODY →
        Event.frame (frameOf format runText n record) ≠ close opened := by
      intro short same
      rw [close] at same
      cases parsed : parse opened with
      | error reason =>
          rw [parsed] at same
          cases same
      | ok frame =>
          simp only [parsed, Event.frame.injEq] at same
          have bounds := frameWidth_lt_of_parse parsed short
          rw [← same, frameWidth_frameOf] at bounds
          exact readable ⟨Nat.ne_of_lt bounds.1, bounds.2⟩
    rw [damaged]
    by_cases below : opened.length < MAX_BODY
    · simp [below, readable, notClosed below]
    · by_cases full : opened.length = MAX_BODY
      · simp [full]
      · simp [below, full, readable]

/-- A cut inside a body leaves a marker and bytes of the body, none of them `@`. -/
theorem quiet_of_cut {runText cut rest : Bytes} {n : Nat} {record : Record}
    (validRun : isRun runText = true)
    (printed : frame format runText n record = .ok (MARKER ++ cut ++ rest))
    (inside : (ascii "@@\n").length ≤ rest.length) : AT ∉ cut := by
  obtain ⟨accepted, same⟩ := (frame_eq_ok_iff format).mp printed
  rw [frameBytes, List.append_assoc, List.append_assoc, List.append_cancel_left_eq] at same
  have shorter : cut.length ≤ (sealed (leadBytes format runText n record)).length := by
    have lengths := congrArg List.length same
    rw [List.length_append, List.length_append] at lengths
    omega
  have inBody : cut <+: sealed (leadBytes format runText n record) :=
    List.prefix_of_prefix_length_le (same ▸ List.prefix_append cut rest)
      (List.prefix_append _ _) shorter
  intro member
  exact (of_mem_sealed format validRun accepted.valid (inBody.subset member)).2 rfl

/-- After a frame cut in its body and noise free of `@`, a complete frame is
reported exactly when the open bytes before it are not as many as the buffer
holds, and the frame itself is within reach of the reader. -/
theorem resync_after_cut {cutRun runText cut rest noise complete : Bytes} {cutN n : Nat}
    {cutRecord record : Record} (validCut : isRun cutRun = true)
    (printedCut : frame format cutRun cutN cutRecord = .ok (MARKER ++ cut ++ rest))
    (inside : (ascii "@@\n").length ≤ rest.length) (quiet : AT ∉ noise)
    (validRun : isRun runText = true) (printed : frame format runText n record = .ok complete) :
    Event.frame (frameOf format runText n record) ∈
        collect (MARKER ++ cut ++ noise ++ complete) ↔
      cut.length + noise.length ≠ MAX_BODY ∧ Readable format runText n record := by
  obtain ⟨accepted, rfl⟩ := (frame_eq_ok_iff format).mp printed
  have quietCut := quiet_of_cut format validCut printedCut inside
  have quietOpen : AT ∉ cut ++ noise := by
    rw [List.mem_append, not_or]
    exact ⟨quietCut, quiet⟩
  have reported := frame_mem_collect_iff format quietOpen validRun accepted
  rwa [List.length_append, ← List.append_assoc] at reported

/-- A printed frame cut after its number. -/
theorem printed_cut : frame (fun _ => []) (ascii "A") 0 (sampleRecord (.integer 1)) =
    .ok (MARKER ++ ascii "A|n=0" ++ ascii "|k=step|x=1|len=16|crc=6f70189a@@\n") := by
  decide +kernel

theorem printed_complete : frame (fun _ => []) (ascii "A") 1 (sampleRecord (.integer 1)) =
    .ok (ascii "@@CHRYSO|A|n=1|k=step|x=1|len=16|crc=b89298c2@@\n") := by
  decide +kernel

theorem resync_after_cut_sample :
    Event.frame (frameOf (fun _ => []) (ascii "A") 1 (sampleRecord (.integer 1))) ∈
        collect (MARKER ++ ascii "A|n=0" ++ ascii "rx=3\n" ++
          ascii "@@CHRYSO|A|n=1|k=step|x=1|len=16|crc=b89298c2@@\n") ↔
      (ascii "A|n=0").length + (ascii "rx=3\n").length ≠ MAX_BODY ∧
        Readable (fun _ => []) (ascii "A") 1 (sampleRecord (.integer 1)) :=
  resync_after_cut (fun _ => []) (by decide) printed_cut (by decide) (by decide) (by decide)
    printed_complete

/-- Five bytes of a body and 1019 of noise hide the complete frame after them. -/
theorem resync_lost_at_cap :
    frame (fun _ => []) (ascii "A") 0 (sampleRecord (.integer 1)) =
        .ok (MARKER ++ ascii "A|n=0" ++ ascii "|k=step|x=1|len=16|crc=6f70189a@@\n") ∧
      AT ∉ List.replicate 1019 (0x78 : UInt8) ∧
      frame (fun _ => []) (ascii "A") 1 (sampleRecord (.integer 1)) =
        .ok (ascii "@@CHRYSO|A|n=1|k=step|x=1|len=16|crc=b89298c2@@\n") ∧
      Event.frame (frameOf (fun _ => []) (ascii "A") 1 (sampleRecord (.integer 1))) ∉
        collect (MARKER ++ ascii "A|n=0" ++ List.replicate 1019 0x78 ++
          ascii "@@CHRYSO|A|n=1|k=step|x=1|len=16|crc=b89298c2@@\n") := by
  have quiet : AT ∉ ascii "A|n=0" ++ List.replicate 1019 (0x78 : UInt8) := by
    rw [List.mem_append, List.mem_replicate]
    decide
  have full : (ascii "A|n=0" ++ List.replicate 1019 (0x78 : UInt8)).length = MAX_BODY := by
    rw [List.length_append, List.length_replicate]
    decide
  obtain ⟨accepted, complete⟩ := (frame_eq_ok_iff _).mp printed_complete
  have reported := frame_mem_collect_iff _ quiet (by decide) accepted
  rw [← complete, ← List.append_assoc] at reported
  refine ⟨printed_cut, ?_, printed_complete, fun member => (reported.mp member).1 full⟩
  rw [List.mem_replicate]
  decide

end Chrysopolis.Framing
