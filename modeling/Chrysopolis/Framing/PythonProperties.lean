import Chrysopolis.Framing.ObserveProperties
import Chrysopolis.Framing.Python
import Mathlib.Data.List.TakeWhile

/-! The two readers of one log. They report the same events on every log; their
outcomes differ only at the run's verdict frame, where one takes the first field
of a name and the other the last, and where only one needs a readable count of
unexpected results to name what is missing. -/

set_option autoImplicit false

namespace Chrysopolis.Framing.Python

open Chrysopolis.Support

/-! ## Closed bodies -/

/-- What holds of the 256 bytes holds of every byte. -/
theorem forall_byte {holds : UInt8 → Prop} (all : ∀ value < 256, holds (UInt8.ofNat value))
    (c : UInt8) : holds c := by
  have self := all c.toNat c.toNat_lt
  rwa [UInt8.ofNat_toNat] at self

/-- `count` consecutive bytes. -/
def alphabet (first count : Nat) : Bytes :=
  (List.range count).map fun place => UInt8.ofNat (first + place)

theorem contains_alphabet {first count : Nat} (bound : first + count ≤ 256) (c : UInt8) :
    (alphabet first count).contains c = (first ≤ c.toNat && c.toNat < first + count) := by
  have below := c.toNat_lt
  rw [Bool.eq_iff_iff, List.contains_iff_mem, alphabet, List.mem_map]
  simp only [List.mem_range, Bool.and_eq_true, decide_eq_true_eq]
  constructor
  · rintro ⟨place, inRange, rfl⟩
    rw [UInt8.toNat_ofNat', Nat.mod_eq_of_lt (by omega)]
    omega
  · rintro ⟨low, high⟩
    refine ⟨c.toNat - first, by omega, ?_⟩
    rw [Nat.add_sub_cancel' low, UInt8.ofNat_toNat]

theorem contains_digit (c : UInt8) : (ascii "0123456789").contains c = Decimal.isDigit c := by
  have spelled : ascii "0123456789" = alphabet 0x30 10 := by decide
  rw [spelled, contains_alphabet (by decide), Bool.eq_iff_iff, Decimal.isDigit_iff]
  simp
  omega

theorem contains_leading (c : UInt8) :
    (ascii "123456789").contains c = decide ((0x31 : UInt8) ≤ c ∧ c ≤ 0x39) := by
  have spelled : ascii "123456789" = alphabet 0x31 9 := by decide
  rw [spelled, contains_alphabet (by decide), Bool.eq_iff_iff]
  simp [UInt8.le_iff_toNat_le]
  omega

theorem contains_hex8 (c : UInt8) : (ascii "0123456789abcdef").contains c = isHex8Byte c := by
  have spelled : ascii "0123456789abcdef" = alphabet 0x30 10 ++ alphabet 0x61 6 := by decide
  rw [spelled, List.contains_append, contains_alphabet (by decide), contains_alphabet (by decide),
    Bool.eq_iff_iff]
  simp [isHex8Byte, UInt8.le_iff_toNat_le]
  omega

theorem contains_run (c : UInt8) :
    (ascii "ABCDEFGHIJKLMNOPQRSTUVWXYZ0123456789_.").contains c = isRunByte c := by
  have spelled : ascii "ABCDEFGHIJKLMNOPQRSTUVWXYZ0123456789_." =
      alphabet 0x41 26 ++ alphabet 0x30 10 ++ [0x5F, 0x2E] := by decide
  rw [spelled, List.contains_append, List.contains_append, contains_alphabet (by decide),
    contains_alphabet (by decide), Bool.eq_iff_iff]
  simp [isRunByte, UInt8.le_iff_toNat_le, ← UInt8.toNat_inj]
  omega

theorem contains_name (c : UInt8) :
    (ascii "abcdefghijklmnopqrstuvwxyz0123456789_").contains c = isNameByte c := by
  have spelled : ascii "abcdefghijklmnopqrstuvwxyz0123456789_" =
      alphabet 0x61 26 ++ alphabet 0x30 10 ++ [0x5F] := by decide
  rw [spelled, List.contains_append, List.contains_append, contains_alphabet (by decide),
    contains_alphabet (by decide), Bool.eq_iff_iff]
  simp [isNameByte, UInt8.le_iff_toNat_le, ← UInt8.toNat_inj]
  omega

theorem hex_eq_idxOf :
    ∀ c, hex c = if upperDigits.contains c then some (upperDigits.idxOf c) else none :=
  forall_byte (by decide +kernel)

theorem contains_refused (c : UInt8) :
    (ascii "@=").contains c = decide (c = AT ∨ c = EQUALS) := by
  have spelled : ascii "@=" = [AT, EQUALS] := by decide
  rw [spelled, Bool.eq_iff_iff]
  simp

theorem isHex8_eq (b : Bytes) : isHex8 b = Framing.isHex8 b := by
  simp only [isHex8, Framing.isHex8, contains_hex8]

theorem isRun_eq (b : Bytes) : isRun b = Framing.isRun b := by
  simp only [isRun, Framing.isRun, contains_run]

theorem isName_eq (b : Bytes) : isName b = Framing.isName b := by
  simp only [isName, Framing.isName, contains_name]
  cases b <;> simp

theorem guess_eq (body : Bytes) : guess body = Framing.guess body := by
  simp only [guess, Framing.guess, isRun_eq]

theorem digits_eq (text : Bytes) : digits text = Framing.digits text := by
  have zero : ascii "0" = [0x30] := by decide
  rw [digits, zero]
  by_cases isZero : text = [0x30]
  · subst isZero
    rfl
  · rw [if_neg isZero]
    cases text with
    | nil => rfl
    | cons c rest =>
        rw [Framing.digits.eq_2 _ _ fun first second => isZero (by rw [first, second])]
        simp only [List.head?_cons, Option.any_some, contains_leading, contains_digit]
        by_cases leading : 0x31 ≤ c ∧ c ≤ 0x39 ∧ (c :: rest).length ≤ 10
        · by_cases all : (c :: rest).all Decimal.isDigit = true
          · rw [if_pos leading, if_pos all, if_pos]
            exact ⟨by simp, leading.2.2, decide_eq_true ⟨leading.1, leading.2.1⟩, all⟩
          · rw [if_pos leading, if_neg all, if_neg]
            exact fun facts => all facts.2.2.2
        · rw [if_neg leading, if_neg]
          rintro ⟨-, short, first, -⟩
          have bounds := of_decide_eq_true first
          exact leading ⟨bounds.1, bounds.2, short⟩

theorem unescapeFrom_eq (value out : Bytes) : unescapeFrom out value = unescapeInto value out := by
  induction value, out using unescapeInto.induct with
  | case1 out => rfl
  | case2 h l rest out high low hexLow hexHigh ih =>
      rw [unescapeFrom.eq_def, unescapeInto.eq_2, hexHigh, hexLow]
      rw [hex_eq_idxOf] at hexHigh hexLow
      split at hexHigh
      · rename_i inHigh
        split at hexLow
        · rename_i inLow
          obtain rfl := Option.some.inj hexHigh
          obtain rfl := Option.some.inj hexLow
          simp only [PERCENT, if_true, inHigh, inLow]
          exact ih
        · cases hexLow
      · cases hexHigh
  | case3 h l rest out bad =>
      rw [unescapeFrom.eq_def, unescapeInto.eq_2]
      have refused : (!upperDigits.contains h || !upperDigits.contains l) = true := by
        by_contra both
        simp only [Bool.or_eq_true, Bool.not_eq_true', not_or, Bool.not_eq_false] at both
        have high := hex_eq_idxOf h
        have low := hex_eq_idxOf l
        rw [if_pos both.1] at high
        rw [if_pos both.2] at low
        exact bad _ _ high low
      simp only [PERCENT, if_true, refused]
  | case4 c rest out notPair reserved =>
      rw [unescapeFrom.eq_def, unescapeInto.eq_3 _ _ _ notPair, if_pos reserved]
      by_cases escaped : c = PERCENT
      · simp only [if_pos escaped]
        cases rest with
        | nil => rfl
        | cons h rest =>
            cases rest with
            | nil => rfl
            | cons l rest => exact (notPair h l rest escaped rfl).elim
      · have inSet : (ascii "@=").contains c = true := by
          rw [contains_refused]
          exact decide_eq_true (reserved.resolve_left escaped)
        simp only [if_neg escaped, if_pos inSet]
  | case5 c rest out notPair plain ih =>
      rw [unescapeFrom.eq_def, unescapeInto.eq_3 _ _ _ notPair, if_neg plain]
      rw [not_or] at plain
      have notInSet : ¬ (ascii "@=").contains c = true := by
        rw [contains_refused]
        exact fun inSet => plain.2 (of_decide_eq_true inSet)
      simp only [if_neg plain.1, if_neg notInSet]
      exact ih

theorem fieldsFrom_eq (raw : List Bytes) (out : List (Bytes × Bytes)) :
    fieldsFrom out raw = fieldsInto raw out.reverse := by
  induction raw generalizing out with
  | nil => simp [fieldsFrom, fieldsInto]
  | cons field raw ih =>
      rw [fieldsFrom, fieldsInto, partition]
      cases split : Delimited.splitFirst EQUALS field with
      | none =>
          simp only [Bool.not_false, Bool.true_or, if_true]
          cases unescape [] <;> rfl
      | some pieces =>
          obtain ⟨keyText, valueText⟩ := pieces
          simp only [unescape, Framing.unescape, unescapeFrom_eq, isName_eq, Bool.not_true,
            Bool.false_or]
          cases unescapeInto valueText [] with
          | none =>
              by_cases valid : Framing.isName keyText = true
              · simp [valid]
              · simp [valid]
          | some value =>
              by_cases valid : Framing.isName keyText = true
              · simp only [valid, Bool.not_true, Bool.false_eq_true, if_false, if_true]
                rw [ih, List.reverse_append]
                rfl
              · simp [valid]

theorem fields_eq (raw : List Bytes) : fields raw = fieldsInto raw [] := fieldsFrom_eq raw []

theorem isPrefixOf?_eq (lead field : Bytes) :
    lead.isPrefixOf? field =
      if lead.isPrefixOf field then some (field.drop lead.length) else none := by
  induction lead generalizing field with
  | nil => cases field <;> rfl
  | cons c lead ih =>
      cases field with
      | nil => rfl
      | cons d field =>
          rw [List.isPrefixOf?, List.isPrefixOf]
          by_cases same : (c == d) = true
          · rw [if_pos same, ih, same]
            rfl
          · simp [same]

theorem printable_eq (body : Bytes) :
    (body.any fun c => c < 0x21 || 0x7E < c) = !body.all bodyByte := by
  rw [List.not_all_eq_any_not]
  refine congrArg body.any (funext fun c => ?_)
  simp [bodyByte, Bool.not_and, ← UInt8.not_le]

theorem isPrefixOf_append (lead rest : Bytes) : lead.isPrefixOf (lead ++ rest) = true := by
  have stripped := isPrefixOf?_append lead rest
  rw [isPrefixOf?_eq] at stripped
  by_contra bad
  rw [if_neg bad] at stripped
  cases stripped

theorem eq_append_of_isPrefixOf {lead field : Bytes} (leads : lead.isPrefixOf field = true) :
    field = lead ++ field.drop lead.length := by
  have stripped := isPrefixOf?_eq lead field
  rw [if_pos leads, isPrefixOf?_eq_some_iff] at stripped
  exact stripped

/-- What passes the syntax checks of one parser gets to the length check of the other. -/
theorem parse_of_shaped {body : Bytes} {parts : Shape} {nText : Bytes} {raw : List Bytes}
    (shaped : Shaped body parts nText raw) : parse body = Framing.parse body := by
  have tail : (raw ++ [ascii "len=" ++ parts.lengthText, ascii "crc=" ++ parts.crc]).reverse =
      (ascii "crc=" ++ parts.crc) :: (ascii "len=" ++ parts.lengthText) :: raw.reverse := by
    simp
  have long : ¬ (body.splitOn BAR).length < 5 := by
    rw [shaped.split]
    simp only [List.length_cons, List.length_append, List.length_nil]
    omega
  have two : (ascii "n=" ++ nText).drop 2 = nText := List.drop_left' (by decide)
  have kindText : (ascii "k=" ++ parts.frame.kind).drop 2 = parts.frame.kind :=
    List.drop_left' (by decide)
  have crcText : (ascii "crc=" ++ parts.crc).drop 4 = parts.crc := List.drop_left' (by decide)
  have lenText : (ascii "len=" ++ parts.lengthText).drop 4 = parts.lengthText :=
    List.drop_left' (by decide)
  have lenWidth : (ascii "len=" ++ parts.lengthText).length - 4 = parts.lengthText.length := by
    rw [List.length_append, show (ascii "len=").length = 4 by decide]
    omega
  rw [Framing.parse, shape_of_shaped shaped, parse, printable_eq, shaped.printable]
  simp only [Bool.not_true, Bool.false_eq_true, if_false, if_neg long]
  simp only [shaped.split, List.drop_succ_cons, List.drop_zero, tail, isPrefixOf_append,
    Bool.and_self, Bool.not_true, Bool.false_eq_true, if_false, two, kindText, crcText, lenText,
    lenWidth, digits_eq, fields_eq, List.reverse_reverse, shaped.number, shaped.length,
    shaped.fields, isRun_eq, isName_eq, isHex8_eq, shaped.run, shaped.kind, shaped.crc]
  rw [List.length_take, Nat.min_eq_left (by omega)]

/-- Both parsers take the same fields and make the same checks. -/
theorem parse_eq (body : Bytes) : parse body = Framing.parse body := by
  cases passed : shape body with
  | some parts =>
      obtain ⟨nText, raw, shaped⟩ := shaped_of_shape passed
      exact parse_of_shaped shaped
  | none =>
      rw [Framing.parse, passed, parse, printable_eq]
      split
      · rfl
      · rename_i printable
        dsimp only
        split
        · rfl
        · split
          · rename_i runText nField kField more crcField lenField revRest split reversed
            split
            · rfl
            · rename_i prefixes
              split
              · rename_i n declared decoded number length fields
                split
                · rfl
                · rename_i checks
                  exfalso
                  simp only [Bool.not_eq_true', Bool.not_eq_false, Bool.and_eq_true,
                    isRun_eq, isName_eq, isHex8_eq] at printable prefixes checks
                  have more_eq : more = revRest.reverse ++ [lenField, crcField] := by
                    rw [split, List.drop_succ_cons, List.drop_succ_cons, List.drop_succ_cons,
                      List.drop_zero] at reversed
                    rw [← List.reverse_reverse more, reversed]
                    simp
                  have nForm : nField = ascii "n=" ++ nField.drop 2 :=
                    eq_append_of_isPrefixOf prefixes.1.1.1
                  have kForm : kField = ascii "k=" ++ kField.drop 2 :=
                    eq_append_of_isPrefixOf prefixes.1.1.2
                  have lenForm : lenField = ascii "len=" ++ lenField.drop 4 :=
                    eq_append_of_isPrefixOf prefixes.1.2
                  have crcForm : crcField = ascii "crc=" ++ crcField.drop 4 :=
                    eq_append_of_isPrefixOf prefixes.2
                  have shaped : Shaped body
                      { frame := { run := runText, n, kind := kField.drop 2, fields := decoded }
                        lengthText := lenField.drop 4
                        length := declared
                        crc := crcField.drop 4 } (nField.drop 2) revRest.reverse := {
                    printable
                    split := by
                      rw [split, more_eq, ← nForm, ← kForm, ← lenForm, ← crcForm]
                    run := checks.1.1
                    kind := checks.1.2
                    crc := checks.2
                    number := by rw [← digits_eq]; exact number
                    length := by rw [← digits_eq]; exact length
                    fields := by rw [← fields_eq]; exact fields }
                  rw [shape_of_shaped shaped] at passed
                  cases passed
              · rfl
          · rfl

theorem close_eq (body : Bytes) : close body = Framing.close body := by
  cases parsed : Framing.parse body with
  | ok frame => simp only [close, Framing.close, parse_eq, parsed]
  | error reason => simp only [close, Framing.close, parse_eq, guess_eq, parsed]

/-! ## The machine -/

theorem advance_eq (matched : Nat) (c : UInt8) : advance matched c = Framing.advance matched c := by
  have width : MARKER.length = 9 := by decide
  rw [advance, Framing.advance, width, ← List.head?_filter]
  refine congrArg (fun found => (List.head? found).getD 0) ?_
  refine List.filter_congr fun k member => ?_
  have bound : k ≤ min (matched + 1) 9 := by
    rw [List.mem_reverse, List.mem_range] at member
    omega
  have seenLength : (MARKER.take matched ++ [c]).length = min matched 9 + 1 := by
    rw [List.length_append, List.length_take, width, List.length_singleton]
  have takenLength : (MARKER.take k).length = k := by
    rw [List.length_take, width]
    omega
  rw [Bool.eq_iff_iff, isSuffix, beq_iff_eq, List.isSuffixOf_iff_suffix, List.suffix_iff_eq_drop,
    takenLength, eq_comm]

theorem step_eq (c : UInt8) (state : State) : step c state = Framing.step c state := by
  have width : MARKER.length = 9 := by decide
  cases state with
  | outside matched =>
      rw [step, Framing.step, advance_eq, width]
      by_cases whole : Framing.advance matched c = 9
      · simp [whole]
      · simp [whole]
  | inside body after =>
      have literal : body ++ ascii "@" ++ [c] = body ++ [AT, c] := by
        rw [List.append_assoc]
        rfl
      cases after with
      | plain => rw [step, Framing.step, guess_eq]
      | atSign => rw [step, Framing.step, guess_eq, close_eq, literal]

theorem not_mem_takeWhile (data : Bytes) : AT ∉ data.takeWhile (· ≠ AT) := by
  intro member
  exact absurd (List.mem_takeWhile_imp member) (by decide)

/-- One byte of the log, as both readers take it. -/
theorem feed_step (events : List Event) (c : UInt8) (rest : Bytes) (state : State) :
    (events ++ (step c state).1 ++ reader.trace (step c state).2 rest,
        reader.after (step c state).2 rest) =
      (events ++ reader.trace state (c :: rest), reader.after state (c :: rest)) := by
  rw [step_eq, Transducer.trace_cons, Transducer.after_cons, List.append_assoc]
  rfl

/-- Bytes that yield no event may be taken at once. -/
theorem feed_quiet (events : List Event) {quiet : Bytes} (rest : Bytes) {state reached : State}
    (reads : Reads state quiet [] reached) :
    (events ++ reader.trace reached rest, reader.after reached rest) =
      (events ++ reader.trace state (quiet ++ rest), reader.after state (quiet ++ rest)) := by
  rw [Transducer.trace_append, Transducer.after_append, reads.trace, reads.after, List.nil_append]

/-- Skipping what cannot change the state reads the same as going byte by byte. -/
theorem feedFrom_eq (events : List Event) (data : Bytes) (state : State) :
    feedFrom events data state =
      (events ++ reader.trace state data, reader.after state data) := by
  induction events, data, state using feedFrom.induct with
  | case1 events state => simp [feedFrom]
  | case2 events c rest absent =>
      have whole := List.takeWhile_append_dropWhile (p := (· ≠ AT)) (l := c :: rest)
      rw [absent, List.append_nil] at whole
      have quiet := Reads.noise (whole ▸ not_mem_takeWhile (c :: rest))
      rw [feedFrom, quiet.trace, quiet.after, List.append_nil]
      split
      · rfl
      · rename_i found
        rw [absent] at found
        cases found
  | case3 events c rest next later found ih =>
      have whole := List.takeWhile_append_dropWhile (p := (· ≠ AT)) (l := c :: rest)
      have quiet := Reads.noise (not_mem_takeWhile (c :: rest))
      have skipped := feed_quiet events (next :: later) quiet
      rw [found] at whole
      rw [whole, ← feed_step, ← ih] at skipped
      rw [feedFrom, ← skipped]
      split
      · rename_i absent
        rw [found] at absent
        cases absent
      · rename_i other tail split
        rw [found, List.cons.injEq] at split
        rw [split.1, split.2]
  | case4 events c rest body taken ih =>
      set chunk := slice body (c :: rest) with chunkDef
      have room : body.length + chunk.length ≤ MAX_BODY := by
        have short := (List.takeWhile_sublist (· ≠ AT)
          (l := (c :: rest).take (MAX_BODY - body.length))).length_le
        rw [List.length_take] at short
        rw [chunkDef, slice]
        omega
      have whole : chunk ++ (c :: rest).drop chunk.length = c :: rest := by
        have leads : chunk <+: c :: rest :=
          (List.takeWhile_prefix _).trans (List.take_prefix _ _)
        exact List.prefix_append_drop leads |>.symm
      have absent : AT ∉ chunk := not_mem_takeWhile _
      have quiet := Reads.body absent room
      have skipped := feed_quiet events ((c :: rest).drop chunk.length) quiet
      rw [whole] at skipped
      rw [feedFrom, dif_pos taken, ih]
      exact skipped
  | case5 events c rest body stepped ih =>
      rw [feedFrom, dif_neg stepped, ih, feed_step]
  | case6 events state c rest notOutside notPlain ih =>
      rw [feedFrom, ih, feed_step]
      · exact notOutside
      · exact notPlain

theorem feedBytewiseFrom_eq (events : List Event) (data : Bytes) (state : State) :
    feedBytewiseFrom events data state =
      (events ++ reader.trace state data, reader.after state data) := by
  induction data generalizing events state with
  | nil => simp [feedBytewiseFrom]
  | cons c data ih =>
      rw [feedBytewiseFrom]
      exact (ih _ _).trans (feed_step events c data state)

/-- The bulk reader is the bytewise one, in any state and on any data. -/
theorem feed_eq_feedBytewise (data : Bytes) (state : State) :
    feed data state = feedBytewise data state := by
  rw [feed, feedBytewise, feedFrom_eq, feedBytewiseFrom_eq]

theorem collect_eq (log : Bytes) : collect log = Framing.collect log := by
  rw [collect, feed, feedFrom_eq, Framing.collect_eq, List.nil_append]
  rfl

/-! ## The probe verdict -/

/-- The outcome of the Erlang reader in the words of the Python one. -/
def told : Verdict → Outcome
  | .pending => .pending
  | .pass frames unexpected => .pass frames unexpected
  | .damaged guessed reason => .fail .damaged guessed (reasonText reason)
  | .lost runText missing => .fail .lost runText (missingText missing)

/-- The verdict frame says the same by the first as by the last field of each name:
either the same pass, or no pass and the same list of missing frames. -/
def SameReading (final : Frame) (got : List Nat) : Prop :=
  let first := count final.fields
  let last := count final.fields.reverse
  let frames := ascii "frames"
  let unexpected := ascii "unexpected"
  if got = List.range final.n then
    (first frames = some final.n ∧ last frames = some final.n ∧
      (first unexpected).isSome ∧ first unexpected = last unexpected) ∨
    (¬ (first frames = some final.n ∧ (first unexpected).isSome) ∧
      ¬ (last frames = some final.n ∧ (last unexpected).isSome) ∧
      (last frames = some final.n → final.n = 0))
  else
    (first frames = some final.n ∧ (first unexpected).isSome ↔ last frames = some final.n) ∨
      ∀ n < final.n, n ∉ got

theorem digits_lastField (fields : List (Bytes × Bytes)) (key : Bytes) :
    digits (lastField fields key) = count fields.reverse key := by
  rw [digits_eq, lastField, count]
  cases fields.reverse.lookup key <;> rfl

theorem missingText_injective : Function.Injective missingText := by
  have space : ascii " " = [0x20] := by decide
  have piece_ne (n : Nat) : ascii "n=" ++ Decimal.write n ≠ [] := by
    have literal : ascii "n=" = [0x6E, 0x3D] := by decide
    rw [literal]
    simp
  have noSpace (missing : List Nat) :
      ∀ piece ∈ missing.map fun n => ascii "n=" ++ Decimal.write n, (0x20 : UInt8) ∉ piece := by
    intro piece member inPiece
    obtain ⟨n, -, rfl⟩ := List.mem_map.mp member
    rcases List.mem_append.mp inPiece with inLiteral | inNumber
    · exact absurd inLiteral (by decide)
    · exact absurd (Decimal.isDigit_of_mem_write inNumber) (by decide)
  have pieces (missing : List Nat) (nonempty : missing ≠ []) :
      (missingText missing).splitOn 0x20 =
        missing.map fun n => ascii "n=" ++ Decimal.write n := by
    rw [missingText, space]
    exact List.splitOn_intercalate _ (noSpace missing) (by simpa using nonempty)
  have empty (missing : List Nat) (same : missingText [] = missingText missing) :
      missing = [] := by
    by_contra nonempty
    have split := pieces missing nonempty
    rw [← same] at split
    cases missing with
    | nil => exact nonempty rfl
    | cons n missing =>
        rw [List.map_cons] at split
        exact piece_ne n (List.cons.inj split).1.symm
  intro first second same
  by_cases firstEmpty : first = []
  · subst firstEmpty
    exact (empty second same).symm
  · by_cases secondEmpty : second = []
    · subst secondEmpty
      exact empty first same.symm
    · have firstSplit := pieces first firstEmpty
      rw [same, pieces second secondEmpty] at firstSplit
      refine (List.map_injective_iff.mpr fun n m written => ?_) firstSplit.symm
      have texts := List.append_cancel_left written
      rw [← Decimal.read_write n, texts, Decimal.read_write]

theorem filter_not_contains (expected got : List Nat) (nodup : expected.Nodup) :
    (expected.filter fun n => !got.contains n) = expected.diff got := by
  rw [nodup.sdiff_eq_filter]
  refine List.filter_congr fun n _ => ?_
  simp

theorem diff_eq_self_iff (count : Nat) (got : List Nat) :
    (List.range count).diff got = List.range count ↔ ∀ n < count, n ∉ got := by
  rw [List.nodup_range.sdiff_eq_filter, List.filter_eq_self]
  simp

section Verdicts

variable {final : Frame} {runText : Bytes} {seen : List Frame} {unexpected : Nat}

theorem erlang_vouched (counts : count final.fields (ascii "frames") = some final.n)
    (reads : count final.fields (ascii "unexpected") = some unexpected) :
    Framing.verdict final runText seen =
      if seen.map Frame.n = List.range final.n then .pass seen unexpected
      else .lost runText ((List.range final.n).diff (seen.map Frame.n)) := by
  rw [Framing.verdict, counts, reads]
  exact if_pos rfl

theorem erlang_refused (refused : ¬ (count final.fields (ascii "frames") = some final.n ∧
    (count final.fields (ascii "unexpected")).isSome)) :
    Framing.verdict final runText seen = .lost runText (List.range final.n) := by
  rw [Framing.verdict]
  cases counts : count final.fields (ascii "frames") with
  | none => rfl
  | some counted =>
      cases reads : count final.fields (ascii "unexpected") with
      | none => rfl
      | some unexpected =>
          have other : counted ≠ final.n := by
            rintro rfl
            exact refused ⟨counts, by rw [reads]; rfl⟩
          exact if_neg other

theorem python_vouched (counts : count final.fields.reverse (ascii "frames") = some final.n)
    (reads : count final.fields.reverse (ascii "unexpected") = some unexpected) :
    verdict final runText seen =
      if seen.map Frame.n = List.range final.n then .pass seen unexpected
      else .fail .lost runText (missingText ((List.range final.n).diff (seen.map Frame.n))) := by
  rw [verdict, digits_lastField, digits_lastField, counts, reads,
    filter_not_contains _ _ List.nodup_range]
  simp

theorem python_counted (counts : count final.fields.reverse (ascii "frames") = some final.n)
    (unread : count final.fields.reverse (ascii "unexpected") = none) :
    verdict final runText seen =
      .fail .lost runText (missingText ((List.range final.n).diff (seen.map Frame.n))) := by
  rw [verdict, digits_lastField, digits_lastField, counts, unread,
    filter_not_contains _ _ List.nodup_range]
  simp

theorem python_refused (refused : count final.fields.reverse (ascii "frames") ≠ some final.n) :
    verdict final runText seen = .fail .lost runText (missingText (List.range final.n)) := by
  rw [verdict, digits_lastField, digits_lastField]
  cases count final.fields.reverse (ascii "unexpected") <;> simp [refused]

theorem fail_lost_eq_told_iff {first second : List Nat} :
    Outcome.fail .lost runText (missingText first) = told (.lost runText second) ↔
      first = second := by
  rw [told, Outcome.fail.injEq, and_iff_right rfl, and_iff_right rfl, missingText_injective.eq_iff]

/-- All frames arrived: the verdicts agree on a pass, or both refuse it. -/
theorem verdict_eq_told_iff_of_whole (whole : seen.map Frame.n = List.range final.n) :
    verdict final runText seen = told (Framing.verdict final runText seen) ↔
      SameReading final (seen.map Frame.n) := by
  have nothing : (List.range final.n).diff (seen.map Frame.n) = [] := by
    rw [List.nodup_range.sdiff_eq_filter, whole, List.filter_eq_nil_iff]
    simp
  have empty : [] = List.range final.n ↔ final.n = 0 := by
    rw [eq_comm, List.range_eq_nil]
  simp only [SameReading, if_pos whole]
  by_cases first : count final.fields (ascii "frames") = some final.n ∧
      (count final.fields (ascii "unexpected")).isSome
  · obtain ⟨firstUnexpected, firstReads⟩ := Option.isSome_iff_exists.mp first.2
    rw [erlang_vouched first.1 firstReads, if_pos whole]
    by_cases lastCounts : count final.fields.reverse (ascii "frames") = some final.n
    · cases lastReads : count final.fields.reverse (ascii "unexpected") with
      | none =>
          rw [python_counted lastCounts lastReads]
          simp [told, first.1, firstReads]
      | some lastUnexpected =>
          rw [python_vouched lastCounts lastReads, if_pos whole]
          simp [told, first.1, firstReads, lastCounts, eq_comm]
    · rw [python_refused lastCounts]
      simp [told, first.1, firstReads, lastCounts]
  · rw [erlang_refused first]
    by_cases lastCounts : count final.fields.reverse (ascii "frames") = some final.n
    · cases lastReads : count final.fields.reverse (ascii "unexpected") with
      | none =>
          rw [python_counted lastCounts lastReads, fail_lost_eq_told_iff, nothing, empty]
          constructor
          · exact fun zero => Or.inr ⟨first, by simp, fun _ => zero⟩
          · rintro (⟨counts, -, reads, -⟩ | ⟨-, -, zero⟩)
            · exact absurd ⟨counts, reads⟩ first
            · exact zero lastCounts
      | some lastUnexpected =>
          rw [python_vouched lastCounts lastReads, if_pos whole]
          constructor
          · intro same
            cases same
          · rintro (⟨counts, -, reads, -⟩ | ⟨-, refused, -⟩)
            · exact absurd ⟨counts, reads⟩ first
            · exact absurd ⟨lastCounts, rfl⟩ refused
    · rw [python_refused lastCounts, fail_lost_eq_told_iff, iff_true_left rfl]
      exact Or.inr ⟨first, fun counted => lastCounts counted.1,
        fun counts => absurd counts lastCounts⟩

/-- Frames are missing: the verdicts agree on which, or none of the run arrived. -/
theorem verdict_eq_told_iff_of_not_whole (incomplete : seen.map Frame.n ≠ List.range final.n) :
    verdict final runText seen = told (Framing.verdict final runText seen) ↔
      SameReading final (seen.map Frame.n) := by
  have untouched := diff_eq_self_iff final.n (seen.map Frame.n)
  simp only [SameReading, if_neg incomplete]
  have python : verdict final runText seen = .fail .lost runText (missingText
      (if count final.fields.reverse (ascii "frames") = some final.n then
        (List.range final.n).diff (seen.map Frame.n) else List.range final.n)) := by
    by_cases lastCounts : count final.fields.reverse (ascii "frames") = some final.n
    · rw [if_pos lastCounts]
      cases lastReads : count final.fields.reverse (ascii "unexpected") with
      | none => exact python_counted lastCounts lastReads
      | some lastUnexpected => rw [python_vouched lastCounts lastReads, if_neg incomplete]
    · rw [if_neg lastCounts, python_refused lastCounts]
  rw [python]
  by_cases first : count final.fields (ascii "frames") = some final.n ∧
      (count final.fields (ascii "unexpected")).isSome
  · obtain ⟨firstUnexpected, firstReads⟩ := Option.isSome_iff_exists.mp first.2
    rw [erlang_vouched first.1 firstReads, if_neg incomplete, fail_lost_eq_told_iff]
    by_cases lastCounts : count final.fields.reverse (ascii "frames") = some final.n
    · simp [lastCounts, first]
    · simp only [first, lastCounts, ← untouched]
      simp [eq_comm]
  · rw [erlang_refused first, fail_lost_eq_told_iff]
    by_cases lastCounts : count final.fields.reverse (ascii "frames") = some final.n
    · simp only [first, lastCounts, ← untouched]
      simp
    · simp [lastCounts, first]

end Verdicts

/-- The two verdicts on one verdict frame. -/
theorem verdict_eq_told_iff (final : Frame) (runText : Bytes) (seen : List Frame) :
    verdict final runText seen = told (Framing.verdict final runText seen) ↔
      SameReading final (seen.map Frame.n) := by
  by_cases whole : seen.map Frame.n = List.range final.n
  · exact verdict_eq_told_iff_of_whole whole
  · exact verdict_eq_told_iff_of_not_whole whole

/-- The run's verdict frame, if one decides the run, reads the same to both. -/
def SameVerdict (runText : Bytes) (events : List Event) (seen : List Frame) : Prop :=
  ∀ before final after, events = before ++ .frame final :: after →
    (∀ event ∈ before, PassedOver runText event) → Event.pending ∉ before →
    final.run = runText → final.kind = ascii "verdict" →
      SameReading final ((seen ++ runFrames runText before).map Frame.n)

/-- The two walks over one list of events. -/
theorem observeFrom_eq_told_iff (runText : Bytes) (events : List Event) (seen : List Frame) :
    observeFrom runText seen events = told (decideEvents events runText seen.reverse) ↔
      SameVerdict runText events seen := by
  have snoc (frame : Frame) (seen : List Frame) :
      frame :: seen.reverse = (seen ++ [frame]).reverse := by simp
  refine @atVerdict_iff runText (fun final seen => SameReading final (seen.map Frame.n))
    events seen
    (fun events seen =>
      observeFrom runText seen events = told (decideEvents events runText seen.reverse))
    (fun _ => rfl) (fun _ _ => rfl) (fun _ _ _ _ => rfl) ?_ ?_ ?_
  · intro final events seen own kind
    rw [observeFrom, decideEvents, if_pos ⟨kind, own⟩, if_pos own, if_pos kind,
      List.reverse_reverse, verdict_eq_told_iff]
  · intro frame events seen own kind
    rw [observeFrom, decideEvents, if_neg (fun both => kind both.1), if_pos own, if_pos own,
      if_neg kind, snoc]
  · intro frame events seen own
    rw [observeFrom, decideEvents, if_neg (fun both => own both.2), if_neg own, if_neg own]

/-- Both readers report the same events on every log, and the same outcome exactly
when the verdict frame that decides the run reads the same to both. -/
theorem collect_observe_agree {log : Bytes} {runName : RunName} {outcome : Verdict}
    (observed : Framing.observe log runName = .ok outcome) :
    collect log = Framing.collect log ∧
      (observe (collect log) runName.bytes = told outcome ↔
        SameVerdict runName.bytes (Framing.collect log) []) := by
  obtain ⟨-, rfl⟩ := observe_eq_ok_iff.mp observed
  refine ⟨collect_eq log, ?_⟩
  rw [collect_eq]
  exact observeFrom_eq_told_iff runName.bytes (Framing.collect log) []

theorem collect_observe_agree_sample :
    let outcome : Verdict :=
      .pass [frameOf (fun _ => []) (ascii "A") 0 (sampleRecord (.integer 1))] 0
    collect sampleFrames.flatten = Framing.collect sampleFrames.flatten ∧
      (observe (collect sampleFrames.flatten) (ascii "A") = told outcome ↔
        SameVerdict (ascii "A") (Framing.collect sampleFrames.flatten) []) := by
  have observed : Framing.observe sampleFrames.flatten (.binary (ascii "A")) =
      .ok (.pass [frameOf (fun _ => []) (ascii "A") 0 (sampleRecord (.integer 1))] 0) := by
    decide +kernel
  exact collect_observe_agree observed

/-- A verdict without a count of unexpected results: one reader names every frame
as lost, the other none, though all of them arrived. -/
theorem observe_disagree :
    let log := ascii "@@CHRYSO|A|n=0|k=step|x=1|len=16|crc=6f70189a@@\n" ++
      ascii "@@CHRYSO|A|n=1|k=verdict|frames=1|len=24|crc=29fee0c2@@\n"
    Framing.observe log (.binary (ascii "A")) = .ok (.lost (ascii "A") [0]) ∧
      observe (collect log) (ascii "A") = .fail .lost (ascii "A") [] ∧
      observe (collect log) (ascii "A") ≠ told (.lost (ascii "A") [0]) := by
  intro log
  have observed : observe (Framing.collect log) (ascii "A") = .fail .lost (ascii "A") [] := by
    decide +kernel
  rw [collect_eq, observed]
  exact ⟨by decide +kernel, rfl, by decide⟩

end Chrysopolis.Framing.Python
