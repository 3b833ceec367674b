import Chrysopolis.Framing.ParseProperties
import Chrysopolis.Support.Transducer

/-! What the byte machine does with the pieces of a log: markers, bodies up to
and at the cap, closing bytes and noise. A printed frame yields one event and
leaves the machine where it started. -/

set_option autoImplicit false

namespace Chrysopolis.Framing

open Chrysopolis.Support

/-- The reader as a machine that emits events. -/
def reader : Transducer State UInt8 Event where
  step state c := ((step c state).2, (step c state).1)

theorem feedInto_eq (bytes : Bytes) (state : State) (acc : List Event) :
    feedInto bytes state acc =
      ((reader.trace state bytes).reverse ++ acc, reader.after state bytes) := by
  induction bytes generalizing state acc with
  | nil => rfl
  | cons c bytes ih =>
      rw [feedInto, ih, Transducer.trace_cons, Transducer.after_cons, List.reverse_append,
        List.append_assoc]
      rfl

theorem feed_eq (bytes : Bytes) (state : State) :
    feed bytes state = (reader.trace state bytes, reader.after state bytes) := by
  simp [feed, feedInto_eq]

theorem collect_eq (log : Bytes) :
    collect log =
      reader.trace (.outside 0) log ++ finish (reader.after (.outside 0) log) := by
  simp [collect, feed_eq]

/-- Reading the bytes takes one state to the other and yields the events. -/
structure Reads (start : State) (bytes : Bytes) (events : List Event) (stop : State) : Prop where
  trace : reader.trace start bytes = events
  after : reader.after start bytes = stop

namespace Reads

theorem append {start middle stop : State} {first second : Bytes} {early late : List Event}
    (head : Reads start first early middle) (tail : Reads middle second late stop) :
    Reads start (first ++ second) (early ++ late) stop where
  trace := by rw [Transducer.trace_append, head.trace, head.after, tail.trace]
  after := by rw [Transducer.after_append, head.after, tail.after]

theorem cons {start stop : State} {c : UInt8} {rest : Bytes} {events : List Event}
    (tail : Reads (step c start).2 rest events stop) :
    Reads start (c :: rest) ((step c start).1 ++ events) stop where
  trace := by rw [Transducer.trace_cons, ← tail.trace]; rfl
  after := by rw [Transducer.after_cons, ← tail.after]; rfl

/-- A log read whole, from outside a frame back to outside. -/
theorem collect {log : Bytes} {events : List Event} {matched : Nat}
    (whole : Reads (.outside 0) log events (.outside matched)) : collect log = events := by
  rw [collect_eq, whole.trace, whole.after, finish, List.append_nil]

theorem marker : Reads (.outside 0) MARKER [] (.inside [] .plain) := ⟨by decide, by decide⟩

/-- The rest of a marker whose `@@` closed a body. -/
theorem markerRest : Reads (.outside 2) (MARKER.drop 2) [] (.inside [] .plain) :=
  ⟨by decide, by decide⟩

/-- A marker without its first byte is noise. -/
theorem markerCut : Reads (.outside 0) (MARKER.drop 1) [] (.outside 0) :=
  ⟨by decide, by decide⟩

theorem newline : Reads (.outside 2) (ascii "\n") [] (.outside 0) := ⟨by decide, by decide⟩

/-- The closing bytes outside a frame, with and without the first. -/
theorem closingRest : Reads (.outside 0) (ascii "@\n") [] (.outside 0) :=
  ⟨by decide, by decide⟩

theorem closing : Reads (.outside 0) (ascii "@@\n") [] (.outside 0) := ⟨by decide, by decide⟩

theorem advance_of_ne {c : UInt8} (quiet : c ≠ AT) : advance 0 c = 0 := by
  have different : ([c] == ascii "@") = false :=
    beq_eq_false_iff_ne.mpr fun same => quiet (List.cons.inj same).1
  have marked : MARKER.take 1 = ascii "@" := by decide
  have candidates : (List.range (min (0 + 1) 9 + 1)).reverse = [1, 0] := by decide
  have one : isSuffix [c] 1 = false := by
    rw [isSuffix, marked]
    exact different
  have zero : isSuffix [c] 0 = true := by simp [isSuffix]
  simp only [advance, candidates, List.take_zero, List.nil_append, List.filter_cons, one, zero]
  rfl

theorem noise {bytes : Bytes} (quiet : AT ∉ bytes) :
    Reads (.outside 0) bytes [] (.outside 0) := by
  induction bytes with
  | nil => exact ⟨rfl, rfl⟩
  | cons c bytes ih =>
      rw [List.mem_cons, not_or] at quiet
      have moved : step c (.outside 0) = ([], .outside 0) := by
        rw [step, advance_of_ne (Ne.symm quiet.1), if_neg (by decide)]
      have next := ih quiet.2
      have whole := @Reads.cons (.outside 0) _ c _ _ (by rw [moved]; exact next)
      rwa [moved] at whole

/-- A body grows up to the cap. -/
theorem body {body bytes : Bytes} (quiet : AT ∉ bytes)
    (room : body.length + bytes.length ≤ MAX_BODY) :
    Reads (.inside body .plain) bytes [] (.inside (body ++ bytes) .plain) := by
  induction bytes generalizing body with
  | nil => rw [List.append_nil]; exact ⟨rfl, rfl⟩
  | cons c bytes ih =>
      rw [List.mem_cons, not_or] at quiet
      rw [List.length_cons] at room
      have moved : step c (.inside body .plain) = ([], .inside (body ++ [c]) .plain) := by
        rw [step, if_neg (by omega)]
        exact if_neg (Ne.symm quiet.1)
      have next := @ih (body ++ [c]) quiet.2
        (by rw [List.length_append, List.length_singleton]; omega)
      rw [List.append_assoc, List.singleton_append] at next
      have whole := @Reads.cons (.inside body .plain) _ c _ _ (by rw [moved]; exact next)
      rwa [moved] at whole

/-- Below the cap, `@@` closes the body. -/
theorem close {body : Bytes} (room : body.length < MAX_BODY) :
    Reads (.inside body .plain) (ascii "@@") [close body] (.outside 2) := by
  have first : step AT (.inside body .plain) = ([], .inside body .atSign) := by
    rw [step, if_neg (by omega)]
    exact if_pos rfl
  have second : step AT (.inside body .atSign) = ([Framing.close body], .outside 2) := by
    rw [step, if_neg (by omega)]
    exact if_pos rfl
  have literal : ascii "@@" = [AT, AT] := by decide
  have last : Reads (.inside body .atSign) [AT] [Framing.close body] (.outside 2) := by
    have whole := @Reads.cons (.inside body .atSign) _ AT _ _
      (by rw [second]; exact (⟨rfl, rfl⟩ : Reads (.outside 2) [] [] (.outside 2)))
    rwa [second] at whole
  have whole := @Reads.cons (.inside body .plain) _ AT _ _ (by rw [first]; exact last)
  rw [literal]
  rwa [first] at whole

/-- At the cap any byte is the end of the body, and is not looked at. -/
theorem oversize {body : Bytes} (full : MAX_BODY ≤ body.length) (after : After) (c : UInt8) :
    Reads (.inside body after) [c] [.damaged (guess body) .oversize] (.outside 0) := by
  have moved : step c (.inside body after) =
      ([.damaged (guess body) .oversize], .outside 0) := if_pos full
  have whole := @Reads.cons (.inside body after) _ c _ _
    (by rw [moved]; exact (⟨rfl, rfl⟩ : Reads (.outside 0) [] [] (.outside 0)))
  rwa [moved] at whole

/-- A body without `@` and the bytes that should close it are one event, whatever its size. -/
theorem closed {body : Bytes} (quiet : AT ∉ body) :
    Reads (.inside [] .plain) (body ++ ascii "@@\n")
      [if body.length < MAX_BODY then Framing.close body
        else .damaged (guess (body.take MAX_BODY)) .oversize] (.outside 0) := by
  have literal : ascii "@@\n" = ascii "@@" ++ ascii "\n" := by decide
  have cut : ascii "@@\n" = [AT] ++ ascii "@\n" := by decide
  by_cases room : body.length < MAX_BODY
  · have opened := @Reads.body [] _ quiet (by simp; omega)
    rw [List.nil_append] at opened
    rw [if_pos room, literal]
    exact opened.append ((Reads.close room).append newline)
  · have kept : (body.take MAX_BODY).length = MAX_BODY := by
      rw [List.length_take]
      omega
    have opened := @Reads.body [] (body.take MAX_BODY)
      (fun member => quiet (List.mem_of_mem_take member)) (by simp [kept])
    rw [List.nil_append] at opened
    rw [if_neg room]
    conv =>
      arg 2
      rw [← List.take_append_drop MAX_BODY body, List.append_assoc]
    cases later : body.drop MAX_BODY with
    | nil =>
        rw [List.nil_append, cut]
        exact opened.append ((oversize (le_of_eq kept.symm) .plain AT).append closingRest)
    | cons c rest =>
        have quietRest : AT ∉ rest := fun member => quiet
          (List.mem_of_mem_drop (later ▸ List.mem_cons_of_mem c member))
        rw [List.cons_append, ← List.singleton_append]
        exact opened.append ((oversize (le_of_eq kept.symm) .plain c).append
          ((noise quietRest).append closing))

end Reads

/-! ## Printed frames -/

variable (format : Term → Bytes)

/-- The reader takes the frame of a record, and returns it. -/
structure Readable (runText : Bytes) (n : Nat) (record : Record) : Prop where
  belowCap : leadWidth format runText n record ≠ 1002
  number : n < 10 ^ 10

instance (runText : Bytes) (n : Nat) (record : Record) :
    Decidable (Readable format runText n record) :=
  decidable_of_iff (leadWidth format runText n record ≠ 1002 ∧ n < 10 ^ 10)
    ⟨fun facts => ⟨facts.1, facts.2⟩, fun readable => ⟨readable.belowCap, readable.number⟩⟩

/-- What a printed frame makes the reader report. -/
def frameEvent (runText : Bytes) (n : Nat) (record : Record) : Event :=
  if leadWidth format runText n record = 1002 then .damaged runText .oversize
  else if n < 10 ^ 10 then .frame (frameOf format runText n record)
  else .damaged runText .syntaxError

theorem frameEvent_of_readable {runText : Bytes} {n : Nat} {record : Record}
    (readable : Readable format runText n record) :
    frameEvent format runText n record = .frame (frameOf format runText n record) := by
  rw [frameEvent, if_neg readable.belowCap, if_pos readable.number]

/-- A frame that is not read is reported damaged, under its own run. -/
theorem frameEvent_of_not_readable {runText : Bytes} {n : Nat} {record : Record}
    (unreadable : ¬ Readable format runText n record) :
    ∃ reason, frameEvent format runText n record = .damaged runText reason := by
  rw [frameEvent]
  by_cases full : leadWidth format runText n record = 1002
  · exact ⟨.oversize, if_pos full⟩
  · rw [if_neg full]
    by_cases small : n < 10 ^ 10
    · exact absurd ⟨full, small⟩ unreadable
    · exact ⟨.syntaxError, if_neg small⟩

theorem frameEvent_eq_frame_iff {runText : Bytes} {n : Nat} {record : Record} :
    frameEvent format runText n record = .frame (frameOf format runText n record) ↔
      Readable format runText n record := by
  constructor
  · intro same
    by_contra unreadable
    obtain ⟨reason, damaged⟩ := frameEvent_of_not_readable format unreadable
    rw [damaged] at same
    cases same
  · exact frameEvent_of_readable format

/-- The first field of a sealed body is its run. -/
theorem guess_sealed {runText : Bytes} {n : Nat} {record : Record}
    (validRun : isRun runText = true) :
    guess (sealed (leadBytes format runText n record)) = runText := by
  have quiet : ∀ c ∈ runText, decide (c ≠ BAR) = true := by
    intro c member
    rw [decide_eq_true_eq]
    rintro rfl
    exact absurd (partByte_of_isRunByte (all_isRun validRun _ member)) (by decide)
  have first : (sealed (leadBytes format runText n record)).takeWhile (· ≠ BAR) = runText := by
    rw [sealed_leadBytes, sealedParts, parts, List.cons_append, List.flatMap_cons,
      List.cons_append, List.takeWhile_append_of_pos quiet, List.takeWhile_cons]
    simp
  rw [guess, first]
  exact if_pos validRun

/-- The rest of a frame after its marker. -/
theorem reads_sealed {runText : Bytes} {n : Nat} {record : Record}
    (validRun : isRun runText = true) (accepted : Accepted format runText n record) :
    Reads (.inside [] .plain) (sealed (leadBytes format runText n record) ++ ascii "@@\n")
      [frameEvent format runText n record] (.outside 0) := by
  set body := sealed (leadBytes format runText n record) with bodyDef
  have whole := @Reads.closed body fun member =>
    (of_mem_sealed format validRun accepted.valid member).2 rfl
  have atCap : body.length = MAX_BODY ↔ leadWidth format runText n record = 1002 := by
    rw [bodyDef, length_sealed_eq_iff, length_leadBytes]
  have fits : body.length ≤ MAX_BODY := accepted.fits
  by_cases full : leadWidth format runText n record = 1002
  · have width := atCap.mpr full
    rw [if_neg (by omega), ← width, List.take_length, bodyDef, guess_sealed format validRun,
      ← bodyDef] at whole
    rw [frameEvent, if_pos full]
    exact whole
  · have room : body.length < MAX_BODY := Nat.lt_of_le_of_ne fits (full ∘ atCap.mp)
    have parsed := parse_sealed format (n := n) validRun accepted
    rw [← bodyDef] at parsed
    rw [if_pos room, Framing.close, parsed] at whole
    rw [frameEvent, if_neg full]
    by_cases small : n < 10 ^ 10
    · rw [if_pos small] at whole ⊢
      exact whole
    · rw [if_neg small, bodyDef, guess_sealed format validRun, ← bodyDef] at whole
      rw [if_neg small]
      exact whole

/-- One printed frame is one event. -/
theorem reads_frameBytes {runText : Bytes} {n : Nat} {record : Record}
    (validRun : isRun runText = true) (accepted : Accepted format runText n record) :
    Reads (.outside 0) (frameBytes format runText n record)
      [frameEvent format runText n record] (.outside 0) := by
  rw [frameBytes, List.append_assoc]
  exact Reads.marker.append (reads_sealed format validRun accepted)

/-- Any accepted frames, printed one after the other, are their events. -/
theorem reads_frames {runText : Bytes} (validRun : isRun runText = true)
    {entries : List (Record × Nat)}
    (accepted : ∀ entry ∈ entries, Accepted format runText entry.2 entry.1) :
    Reads (.outside 0) (entries.map fun entry => frameBytes format runText entry.2 entry.1).flatten
      (entries.map fun entry => frameEvent format runText entry.2 entry.1) (.outside 0) := by
  induction entries with
  | nil => exact ⟨rfl, rfl⟩
  | cons entry entries ih =>
      have head := reads_frameBytes format validRun (accepted entry List.mem_cons_self)
      have tail := ih fun other member => accepted other (List.mem_cons_of_mem _ member)
      exact head.append tail

end Chrysopolis.Framing
