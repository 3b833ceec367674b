import Chrysopolis.Testbed.Console
import Chrysopolis.Framing.PythonProperties

/-! Stripping by chunks against stripping the whole stream. The stripper is a machine that holds
the bytes of an open escape sequence; the console holds the same bytes at the end of a chunk, as
long as they are few. -/

set_option autoImplicit false

namespace Chrysopolis.Testbed.Console

open Chrysopolis.Support (Regex Transducer)
open Chrysopolis.Framing (Bytes)

variable {Hit : Type}

/-! ## An open sequence -/

/-- Where an escape sequence stands that may still be completed. -/
inductive Phase where
  | begun | parameters | intermediates
  deriving DecidableEq

/-- What the next byte makes of an open sequence. -/
inductive Turn where
  | more (phase : Phase)
  | done
  | broken
  deriving DecidableEq

def Phase.next : Phase → UInt8 → Turn
  | .begun, c => if c = bracket then .more .parameters else .broken
  | .parameters, c =>
      if isParameter c then .more .parameters
      else if isIntermediate c then .more .intermediates
      else if isFinal c then .done else .broken
  | .intermediates, c =>
      if isIntermediate c then .more .intermediates
      else if isFinal c then .done else .broken

/-- The phase behind bytes that keep the sequence open. -/
def Phase.after : Phase → Bytes → Option Phase
  | phase, [] => some phase
  | phase, c :: text =>
      match phase.next c with
      | .more later => later.after text
      | .done | .broken => none

/-- What is left of the text behind the sequence. -/
def Phase.rest : Phase → Bytes → Option Bytes
  | _, [] => none
  | phase, c :: text =>
      match phase.next c with
      | .more later => later.rest text
      | .done => some text
      | .broken => none

variable {phase later : Phase} {c : UInt8} {text taken left : Bytes}

theorem Phase.after_append (kept : phase.after taken = some later) (text : Bytes) :
    phase.after (taken ++ text) = later.after text := by
  induction taken generalizing phase with
  | nil =>
      cases kept
      rfl
  | cons c taken ih =>
      rw [Phase.after] at kept
      rw [List.cons_append, Phase.after]
      cases turn : phase.next c with
      | more middle =>
          rw [turn] at kept
          exact ih kept
      | done | broken => simp [turn] at kept

theorem Phase.rest_append (kept : phase.after taken = some later) (text : Bytes) :
    phase.rest (taken ++ text) = later.rest text := by
  induction taken generalizing phase with
  | nil =>
      cases kept
      rfl
  | cons c taken ih =>
      rw [Phase.after] at kept
      rw [List.cons_append, Phase.rest]
      cases turn : phase.next c with
      | more middle =>
          rw [turn] at kept
          exact ih kept
      | done | broken => simp [turn] at kept

theorem Phase.rest_done (kept : phase.after taken = some later) (done : later.next c = .done)
    (left : Bytes) : phase.rest (taken ++ c :: left) = some left := by
  rw [Phase.rest_append kept, Phase.rest, done]

theorem Phase.rest_broken (kept : phase.after taken = some later)
    (broken : later.next c = .broken) (left : Bytes) : phase.rest (taken ++ c :: left) = none := by
  rw [Phase.rest_append kept, Phase.rest, broken]

theorem Phase.rest_open (kept : phase.after taken = some later) : phase.rest taken = none := by
  rw [← List.append_nil taken, Phase.rest_append kept]
  rfl

/-- An open sequence stays open, ends with a byte or breaks at one. -/
theorem Phase.fate (phase : Phase) (text : Bytes) :
    (∃ later, phase.after text = some later) ∨
      ∃ taken c left later, text = taken ++ c :: left ∧ phase.after taken = some later ∧
        (later.next c = .done ∨ later.next c = .broken) := by
  induction text generalizing phase with
  | nil => exact .inl ⟨phase, rfl⟩
  | cons c text ih =>
      cases turn : phase.next c with
      | more middle =>
          have first : phase.after [c] = some middle := by
            rw [Phase.after, turn]
            rfl
          rcases ih middle with ⟨later, kept⟩ | ⟨taken, d, left, later, rfl, kept, ends⟩
          · exact .inl ⟨later, (Phase.after_append first text).trans kept⟩
          · exact .inr ⟨c :: taken, d, left, later, rfl,
              (Phase.after_append first taken).trans kept, ends⟩
      | done => exact .inr ⟨[], c, text, phase, rfl, rfl, .inl turn⟩
      | broken => exact .inr ⟨[], c, text, phase, rfl, rfl, .inr turn⟩

theorem next_escape (phase : Phase) : phase.next escape = .broken := by
  cases phase <;> decide

/-- No second escape byte lies in an open sequence. -/
theorem Phase.not_mem_of_after (kept : phase.after taken = some later) : escape ∉ taken := by
  induction taken generalizing phase with
  | nil => exact List.not_mem_nil
  | cons c taken ih =>
      rw [Phase.after] at kept
      cases turn : phase.next c with
      | more middle =>
          rw [turn] at kept
          have apart : escape ≠ c := by
            rintro rfl
            rw [next_escape] at turn
            cases turn
          exact List.not_mem_cons_of_ne_of_not_mem apart (ih kept)
      | done | broken => simp [turn] at kept

theorem ne_escape_of_done (done : phase.next c = .done) : c ≠ escape := by
  rintro rfl
  rw [next_escape] at done
  cases done

/-! ### The patterns by phases -/

/-- No byte is in two ranges that lie apart. -/
theorem not_between_of_between {low high low' high' : UInt8} (apart : high < low' ∨ high' < low)
    (holds : (low ≤ c && c ≤ high) = true) : (low' ≤ c && c ≤ high') = false := by
  rw [Bool.and_eq_true, decide_eq_true_eq, decide_eq_true_eq] at holds
  rw [Bool.and_eq_false_iff, decide_eq_false_iff_not, decide_eq_false_iff_not]
  simp only [UInt8.le_iff_toNat_le, UInt8.lt_iff_toNat_lt] at apart holds ⊢
  omega

/-- The star of one class and the star of the next, in a body without a bracket. -/
def afterStars (body : Bytes) : Bytes := (body.dropWhile isParameter).dropWhile isIntermediate

theorem tryMany_stars {next : Bytes → Option Bytes}
    (parameters : ∀ c rest, isParameter c = true → next (c :: rest) = none)
    (intermediates : ∀ c rest, isIntermediate c = true → next (c :: rest) = none)
    (body : Bytes) :
    Regex.tryMany isParameter (Regex.tryMany isIntermediate next) body =
      next (afterStars body) := by
  have inner := Regex.tryMany_eq intermediates
  rw [Regex.tryMany_eq fun c rest holds => ?_, inner, afterStars]
  have apart : isIntermediate c = false := not_between_of_between (.inr (by decide)) holds
  rw [inner, List.dropWhile_cons_of_neg (Bool.eq_false_iff.mp apart)]
  exact parameters c rest holds

theorem afterStars_parameter (holds : isParameter c = true) (body : Bytes) :
    afterStars (c :: body) = afterStars body := by
  rw [afterStars, List.dropWhile_cons_of_pos holds, afterStars]

theorem dropWhile_of_not_parameter (holds : isParameter c = false) (body : Bytes) :
    afterStars (c :: body) = (c :: body).dropWhile isIntermediate := by
  rw [afterStars, List.dropWhile_cons_of_neg (Bool.eq_false_iff.mp holds)]

/-- The end of a sequence, once its stars are through. -/
def final : Bytes → Option Bytes
  | [] => none
  | c :: rest => if isFinal c then some rest else none

theorem rest_intermediates (body : Bytes) :
    Phase.intermediates.rest body = final (body.dropWhile isIntermediate) := by
  induction body with
  | nil => rfl
  | cons c body ih =>
      rw [Phase.rest, Phase.next]
      by_cases held : isIntermediate c = true
      · rw [if_pos held, List.dropWhile_cons_of_pos held]
        exact ih
      · rw [if_neg held, List.dropWhile_cons_of_neg held, final]
        by_cases last : isFinal c = true
        · rw [if_pos last, if_pos last]
        · rw [if_neg last, if_neg last]

theorem rest_parameters (body : Bytes) : Phase.parameters.rest body = final (afterStars body) := by
  induction body with
  | nil => rfl
  | cons c body ih =>
      by_cases held : isParameter c = true
      · rw [afterStars_parameter held, Phase.rest, Phase.next, if_pos held]
        exact ih
      · -- Behind the parameters the two phases read alike.
        have same : Phase.parameters.next c = Phase.intermediates.next c := if_neg held
        rw [dropWhile_of_not_parameter (Bool.not_eq_true _ ▸ held), ← rest_intermediates,
          Phase.rest, Phase.rest, same]

theorem isSome_after_intermediates (body : Bytes) :
    (Phase.intermediates.after body).isSome = (body.dropWhile isIntermediate).isEmpty := by
  induction body with
  | nil => rfl
  | cons c body ih =>
      rw [Phase.after, Phase.next]
      by_cases held : isIntermediate c = true
      · rw [if_pos held, List.dropWhile_cons_of_pos held]
        exact ih
      · rw [if_neg held, List.dropWhile_cons_of_neg held]
        by_cases last : isFinal c = true
        · rw [if_pos last]
          rfl
        · rw [if_neg last]
          rfl

theorem isSome_after_parameters (body : Bytes) :
    (Phase.parameters.after body).isSome = (afterStars body).isEmpty := by
  induction body with
  | nil => rfl
  | cons c body ih =>
      by_cases held : isParameter c = true
      · rw [afterStars_parameter held, Phase.after, Phase.next, if_pos held]
        exact ih
      · have same : Phase.parameters.next c = Phase.intermediates.next c := if_neg held
        rw [dropWhile_of_not_parameter (Bool.not_eq_true _ ▸ held), ← isSome_after_intermediates,
          Phase.after, Phase.after, same]

/-- `CSI` matches what the phases complete. -/
theorem matchRest_CSI (c : UInt8) (text : Bytes) :
    CSI.matchRest (c :: text) = if c = escape then Phase.begun.rest text else none := by
  have last (c : UInt8) (rest : Bytes) :
      (Regex.one isFinal).tryFrom some (c :: rest) = final (c :: rest) := rfl
  have stars (body : Bytes) :
      Regex.tryMany isParameter (Regex.tryMany isIntermediate ((Regex.one isFinal).tryFrom some))
        body = final (afterStars body) := by
    rw [tryMany_stars]
    · cases afterStars body <;> rfl
    · intro c rest holds
      have apart : isFinal c = false := not_between_of_between (.inl (by decide)) holds
      rw [last, final, apart, if_neg Bool.false_ne_true]
    · intro c rest holds
      have apart : isFinal c = false := not_between_of_between (.inl (by decide)) holds
      rw [last, final, apart, if_neg Bool.false_ne_true]
  simp only [Regex.matchRest, CSI, Regex.tryFrom, beq_iff_eq]
  split
  · cases text with
    | nil => rfl
    | cons d body =>
        simp only [Regex.tryFrom, beq_iff_eq, Phase.rest, Phase.next]
        by_cases opens : d = bracket
        · rw [if_pos opens, if_pos opens]
          exact (stars body).trans (rest_parameters body).symm
        · rw [if_neg opens, if_neg opens]
  · rfl

/-- `CSI_OPEN` matches what the phases leave open. -/
theorem matchRest_CSI_OPEN (c : UInt8) (text : Bytes) :
    (CSI_OPEN.matchRest (c :: text)).isSome =
      (decide (c = escape) && (Phase.begun.after text).isSome) := by
  have stop (c : UInt8) (rest : Bytes) : Regex.stop.tryFrom some (c :: rest) = none := rfl
  have stars (body : Bytes) :
      (Regex.tryMany isParameter (Regex.tryMany isIntermediate (Regex.stop.tryFrom some))
        body).isSome = (afterStars body).isEmpty := by
    rw [tryMany_stars (fun c rest _ => stop c rest) fun c rest _ => stop c rest]
    cases afterStars body <;> rfl
  simp only [Regex.matchRest, CSI_OPEN, Regex.tryFrom, beq_iff_eq]
  by_cases begins : c = escape
  · rw [if_pos begins, decide_eq_true begins, Bool.true_and]
    cases text with
    | nil => rfl
    | cons d body =>
        simp only [Regex.tryFrom, beq_iff_eq, Phase.after, Phase.next]
        by_cases opens : d = bracket
        · rw [if_pos opens, if_pos opens]
          change ((Regex.tryMany isParameter (Regex.tryMany isIntermediate
            (Regex.stop.tryFrom some)) body).or none).isSome = (Phase.parameters.after body).isSome
          rw [Option.or_none, stars, isSome_after_parameters]
        · rw [if_neg opens, if_neg opens]
          rfl
  · rw [if_neg begins, decide_eq_false begins, Bool.false_and]
    rfl

/-! ## The stripper -/

/-- A byte outside an escape sequence. -/
def outside (c : UInt8) : Option (Phase × Bytes) × Bytes :=
  if c = escape then (some (.begun, [c]), []) else (none, [c])

/-- Strips one byte at a time, holding the bytes of an open sequence. -/
def stripper : Transducer (Option (Phase × Bytes)) UInt8 UInt8 where
  step
    | none, c => outside c
    | some (phase, held), c =>
        match phase.next c with
        | .more later => (some (later, held ++ [c]), [])
        | .done => (none, [])
        | .broken => ((outside c).1, held ++ (outside c).2)

/-- The open sequence a text ends inside. -/
def heldAfter (text : Bytes) : Bytes := ((stripper.after none text).map Prod.snd).getD []

/-- What is known to be text, whatever follows. -/
def stripped (text : Bytes) : Bytes := stripper.trace none text

/-- A text by its first byte or escape sequence. -/
@[elab_as_elim]
theorem bytes_induction {motive : Bytes → Prop} (nil : motive [])
    (plain : ∀ c text, c ≠ escape → motive text → motive (c :: text))
    (sequence : ∀ taken c left later, Phase.begun.after taken = some later →
      later.next c = .done → motive left → motive (escape :: (taken ++ c :: left)))
    (broken : ∀ taken c left later, Phase.begun.after taken = some later →
      later.next c = .broken → motive (c :: left) → motive (escape :: (taken ++ c :: left)))
    (unfinished : ∀ taken later, Phase.begun.after taken = some later → motive (escape :: taken))
    (text : Bytes) : motive text := by
  induction length : text.length using Nat.strong_induction_on generalizing text with
  | _ size ih =>
      cases text with
      | nil => exact nil
      | cons c text =>
          rw [List.length_cons] at length
          by_cases begins : c = escape
          · subst begins
            rcases Phase.begun.fate text with
              ⟨later, kept⟩ | ⟨taken, c, left, later, rfl, kept, done | breaks⟩
            · exact unfinished text later kept
            · rw [List.length_append, List.length_cons] at length
              exact sequence taken c left later kept done (ih left.length (by omega) left rfl)
            · rw [List.length_append, List.length_cons] at length
              exact broken taken c left later kept breaks
                (ih (left.length + 1) (by omega) (c :: left) rfl)
          · exact plain c text begins (ih text.length (by omega) text rfl)

/-! ### Runs of the stripper -/

theorem run_more (held : Bytes) (kept : phase.after taken = some later) :
    stripper.after (some (phase, held)) taken = some (later, held ++ taken) ∧
      stripper.trace (some (phase, held)) taken = [] := by
  induction taken generalizing phase held with
  | nil =>
      cases kept
      rw [List.append_nil]
      exact ⟨rfl, rfl⟩
  | cons c taken ih =>
      rw [Phase.after] at kept
      cases turn : phase.next c with
      | more middle =>
          rw [turn] at kept
          obtain ⟨after, trace⟩ := ih (held ++ [c]) kept
          have step : stripper.step (some (phase, held)) c = (some (middle, held ++ [c]), []) := by
            simp only [stripper, turn]
          rw [Transducer.after_cons, Transducer.trace_cons, step, after, trace, List.append_assoc]
          exact ⟨rfl, rfl⟩
      | done | broken => simp [turn] at kept

theorem run_done (held : Bytes) (kept : phase.after taken = some later)
    (done : later.next c = .done) (left : Bytes) :
    stripper.after (some (phase, held)) (taken ++ c :: left) = stripper.after none left ∧
      stripper.trace (some (phase, held)) (taken ++ c :: left) = stripped left := by
  obtain ⟨after, trace⟩ := run_more held kept
  have step : stripper.step (some (later, held ++ taken)) c = (none, []) := by
    simp only [stripper, done]
  rw [Transducer.after_append, Transducer.trace_append, after, trace, Transducer.after_cons,
    Transducer.trace_cons, step]
  exact ⟨rfl, rfl⟩

theorem run_broken (held : Bytes) (kept : phase.after taken = some later)
    (broken : later.next c = .broken) (left : Bytes) :
    stripper.after (some (phase, held)) (taken ++ c :: left) = stripper.after none (c :: left) ∧
      stripper.trace (some (phase, held)) (taken ++ c :: left) =
        held ++ taken ++ stripped (c :: left) := by
  obtain ⟨after, trace⟩ := run_more held kept
  have step : stripper.step (some (later, held ++ taken)) c =
      ((outside c).1, held ++ taken ++ (outside c).2) := by
    simp only [stripper, broken]
  rw [Transducer.after_append, Transducer.trace_append, after, trace, Transducer.after_cons,
    Transducer.trace_cons, step, List.nil_append]
  exact ⟨rfl, List.append_assoc ..⟩

/-- Bytes without an escape go through. -/
theorem run_quiet {quiet : Bytes} (absent : escape ∉ quiet) :
    stripper.after none quiet = none ∧ stripped quiet = quiet := by
  induction quiet with
  | nil => exact ⟨rfl, rfl⟩
  | cons c quiet ih =>
      obtain ⟨apart, absent⟩ := List.ne_and_not_mem_of_not_mem_cons absent
      obtain ⟨after, trace⟩ := ih absent
      have step : stripper.step none c = (none, [c]) := if_neg apart.symm
      rw [stripped] at trace
      rw [stripped, Transducer.after_cons, Transducer.trace_cons, step, after, trace]
      exact ⟨rfl, rfl⟩

theorem step_escape (state : Option (Phase × Bytes)) :
    (stripper.step state escape).1 = some (.begun, [escape]) := by
  cases state with
  | none => rfl
  | some sequence =>
      obtain ⟨phase, held⟩ := sequence
      simp only [stripper, next_escape]
      rfl

/-- Whatever came before, an open sequence is held. -/
theorem after_append_open (before : Bytes) (kept : Phase.begun.after taken = some later) :
    stripper.after none (before ++ escape :: taken) = some (later, escape :: taken) := by
  rw [Transducer.after_append, Transducer.after_cons, step_escape, (run_more [escape] kept).1]
  rfl

theorem after_escape (text : Bytes) :
    stripper.after none (escape :: text) = stripper.after (some (.begun, [escape])) text := rfl

theorem after_plain (plain : c ≠ escape) (text : Bytes) :
    stripper.after none (c :: text) = stripper.after none text := by
  have step : stripper.step none c = (none, [c]) := if_neg plain
  rw [Transducer.after_cons, step]

theorem stripped_plain (plain : c ≠ escape) (text : Bytes) :
    stripped (c :: text) = c :: stripped text := by
  have step : stripper.step none c = (none, [c]) := if_neg plain
  rw [stripped, Transducer.trace_cons, step]
  rfl

/-- What is held is an open sequence at the end of the text. -/
theorem held_spec (text : Bytes) :
    stripper.after none text = none ∨
      ∃ before taken later, text = before ++ escape :: taken ∧
        Phase.begun.after taken = some later ∧
          stripper.after none text = some (later, escape :: taken) := by
  induction text using bytes_induction with
  | nil => exact .inl rfl
  | plain c text plain ih =>
      rw [after_plain plain]
      exact ih.imp_right fun ⟨before, taken, later, same, rest⟩ =>
        ⟨c :: before, taken, later, by rw [same]; rfl, rest⟩
  | sequence taken c left later kept done ih =>
      rw [after_escape, (run_done [escape] kept done left).1]
      exact ih.imp_right fun ⟨before, rest, last, same, others⟩ =>
        ⟨escape :: (taken ++ c :: before), rest, last, by rw [same]; simp, others⟩
  | broken taken c left later kept broken ih =>
      rw [after_escape, (run_broken [escape] kept broken left).1]
      exact ih.imp_right fun ⟨before, rest, last, same, others⟩ =>
        ⟨escape :: (taken ++ before), rest, last, by rw [same]; simp, others⟩
  | unfinished taken later kept =>
      exact .inr ⟨[], taken, later, rfl, kept, after_append_open [] kept⟩

/-! ### Against the patterns -/

theorem matchRest_plain (plain : c ≠ escape) (text : Bytes) :
    CSI.matchRest (c :: text) = none ∧ CSI_OPEN.matchRest (c :: text) = none := by
  refine ⟨by rw [matchRest_CSI, if_neg plain], ?_⟩
  rw [← Option.isNone_iff_eq_none, ← Option.not_isSome, matchRest_CSI_OPEN,
    decide_eq_false plain]
  rfl

theorem matchRest_escape (text : Bytes) :
    CSI.matchRest (escape :: text) = Phase.begun.rest text := by
  rw [matchRest_CSI, if_pos rfl]

/-- No match begins inside an open sequence. -/
theorem quiet_of_not_mem {regex : Regex UInt8} {quiet : Bytes} (absent : escape ∉ quiet)
    (missed : ∀ c text, c ≠ escape → regex.matchRest (c :: text) = none) (rest : Bytes) :
    ∀ before c after, quiet = before ++ c :: after →
      regex.matchRest (c :: after ++ rest) = none := by
  rintro before c after rfl
  refine missed c (after ++ rest) ?_
  rintro rfl
  exact absent (List.mem_append_right _ List.mem_cons_self)

theorem remove_missed (missed : CSI.matchRest (escape :: (taken ++ left)) = none)
    (absent : escape ∉ taken) :
    CSI.remove (escape :: (taken ++ left)) = escape :: (taken ++ CSI.remove left) := by
  rw [Regex.remove_cons_of_none missed, Regex.remove_append_of_none
    (quiet_of_not_mem absent (fun c text plain => (matchRest_plain plain text).1) left)]

theorem remove_sequence (kept : Phase.begun.after taken = some later)
    (done : later.next c = .done) (left : Bytes) :
    CSI.remove (escape :: (taken ++ c :: left)) = CSI.remove left := by
  have matched : CSI.matchRest (escape :: (taken ++ [c]) ++ left) = some left := by
    rw [List.cons_append, List.append_assoc, List.singleton_append, matchRest_escape,
      Phase.rest_done kept done]
  have removed := Regex.remove_of_match matched
  rwa [List.cons_append, List.append_assoc, List.singleton_append] at removed

theorem remove_broken (kept : Phase.begun.after taken = some later)
    (broken : later.next c = .broken) (left : Bytes) :
    CSI.remove (escape :: (taken ++ c :: left)) = escape :: (taken ++ CSI.remove (c :: left)) :=
  remove_missed (by rw [matchRest_escape, Phase.rest_broken kept broken])
    (Phase.not_mem_of_after kept)

theorem remove_open (kept : Phase.begun.after taken = some later) :
    CSI.remove (escape :: taken) = escape :: taken := by
  have missed : CSI.matchRest (escape :: (taken ++ [])) = none := by
    rw [List.append_nil, matchRest_escape, Phase.rest_open kept]
  have removed := remove_missed missed (Phase.not_mem_of_after kept)
  rwa [List.append_nil, show CSI.remove [] = [] from rfl, List.append_nil] at removed

theorem remove_plain (plain : c ≠ escape) (text : Bytes) :
    CSI.remove (c :: text) = c :: CSI.remove text :=
  Regex.remove_cons_of_none (matchRest_plain plain text).1

/-! ### What is held and what is text -/

theorem heldAfter_eq {rest : Bytes} (same : stripper.after none text = stripper.after none rest) :
    heldAfter text = heldAfter rest := by
  rw [heldAfter, same, heldAfter]

theorem plain_spec (plain : c ≠ escape) (text : Bytes) :
    heldAfter (c :: text) = heldAfter text ∧ stripped (c :: text) = c :: stripped text :=
  ⟨heldAfter_eq (after_plain plain text), stripped_plain plain text⟩

theorem sequence_spec (kept : Phase.begun.after taken = some later) (done : later.next c = .done)
    (left : Bytes) :
    heldAfter (escape :: (taken ++ c :: left)) = heldAfter left ∧
      stripped (escape :: (taken ++ c :: left)) = stripped left := by
  obtain ⟨after, trace⟩ := run_done [escape] kept done left
  exact ⟨heldAfter_eq after, trace⟩

theorem broken_spec (kept : Phase.begun.after taken = some later)
    (broken : later.next c = .broken) (left : Bytes) :
    heldAfter (escape :: (taken ++ c :: left)) = heldAfter (c :: left) ∧
      stripped (escape :: (taken ++ c :: left)) = escape :: (taken ++ stripped (c :: left)) := by
  obtain ⟨after, trace⟩ := run_broken [escape] kept broken left
  exact ⟨heldAfter_eq after, trace.trans (List.append_assoc ..)⟩

theorem open_spec (kept : Phase.begun.after taken = some later) :
    heldAfter (escape :: taken) = escape :: taken ∧ stripped (escape :: taken) = [] := by
  obtain ⟨after, trace⟩ := run_more [escape] kept
  exact ⟨congrArg (fun state => (state.map Prod.snd).getD []) after, trace⟩

/-- `CSI.sub` keeps what is known to be text and what is held. -/
theorem remove_eq (text : Bytes) : CSI.remove text = stripped text ++ heldAfter text := by
  induction text using bytes_induction with
  | nil => rfl
  | plain c text plain ih =>
      obtain ⟨held, clean⟩ := plain_spec plain text
      rw [remove_plain plain, held, clean, ih, List.cons_append]
  | sequence taken c left later kept done ih =>
      obtain ⟨held, clean⟩ := sequence_spec kept done left
      rw [remove_sequence kept done, held, clean, ih]
  | broken taken c left later kept broken ih =>
      obtain ⟨held, clean⟩ := broken_spec kept broken left
      rw [remove_broken kept broken, held, clean, ih, List.cons_append, List.append_assoc]
  | unfinished taken later kept =>
      obtain ⟨held, clean⟩ := open_spec kept
      rw [remove_open kept, held, clean, List.nil_append]

/-- In front of what is held nothing changes when it is cut off. -/
theorem remove_before_held (text : Bytes) :
    ∃ before, text = before ++ heldAfter text ∧ CSI.remove before = stripped text := by
  induction text using bytes_induction with
  | nil => exact ⟨[], rfl, rfl⟩
  | plain c text plain ih =>
      obtain ⟨before, same, removed⟩ := ih
      obtain ⟨held, clean⟩ := plain_spec plain text
      rw [held, clean]
      refine ⟨c :: before, ?_, by rw [remove_plain plain, removed]⟩
      rw [List.cons_append, ← same]
  | sequence taken c left later kept done ih =>
      obtain ⟨before, same, removed⟩ := ih
      obtain ⟨held, clean⟩ := sequence_spec kept done left
      rw [held, clean]
      refine ⟨escape :: (taken ++ c :: before), ?_, by rw [remove_sequence kept done, removed]⟩
      rw [List.cons_append, List.append_assoc, List.cons_append, ← same]
  | broken taken c left later kept broken ih =>
      obtain ⟨before, same, removed⟩ := ih
      obtain ⟨held, clean⟩ := broken_spec kept broken left
      rw [held, clean]
      refine ⟨escape :: (taken ++ before), ?_, ?_⟩
      · rw [List.cons_append, List.append_assoc, ← same]
      · -- The sequence breaks at the cut as it does at the byte behind it.
        have missed : CSI.matchRest (escape :: (taken ++ before)) = none := by
          rw [matchRest_escape, Phase.rest_append kept]
          cases before with
          | nil => rfl
          | cons d before =>
              have first : c = d := (List.cons.inj same).1
              rw [Phase.rest, ← first, broken]
        rw [remove_missed missed (Phase.not_mem_of_after kept), removed]
  | unfinished taken later kept =>
      obtain ⟨held, clean⟩ := open_spec kept
      rw [held, clean]
      exact ⟨[], rfl, rfl⟩

theorem search_plain (plain : c ≠ escape) (text : Bytes) :
    CSI_OPEN.search (c :: text) = (CSI_OPEN.search text).map (· + 1) := by
  rw [Regex.search, (matchRest_plain plain text).2]
  rfl

theorem search_escape {text : Bytes} (closed : Phase.begun.after (taken ++ text) = none)
    (absent : escape ∉ taken) :
    CSI_OPEN.search (escape :: (taken ++ text)) =
      (CSI_OPEN.search text).map (taken.length + 1 + ·) := by
  have missed : (CSI_OPEN.matchRest (escape :: (taken ++ text))).isSome = false := by
    rw [matchRest_CSI_OPEN, closed]
    rfl
  rw [Regex.search, missed, if_neg Bool.false_ne_true, Regex.search_append_of_none
    (quiet_of_not_mem absent (fun c text plain => (matchRest_plain plain text).2) text),
    Option.map_map]
  congr 1
  funext place
  simp only [Function.comp_apply]
  omega

/-- `CSI_OPEN.search` finds where the held bytes start. -/
theorem search_eq (text : Bytes) :
    CSI_OPEN.search text =
      if heldAfter text = [] then none else some (text.length - (heldAfter text).length) := by
  have bound (text : Bytes) : (heldAfter text).length ≤ text.length := by
    obtain ⟨before, same, -⟩ := remove_before_held text
    have length := congrArg List.length same
    rw [List.length_append] at length
    omega
  induction text using bytes_induction with
  | nil => rfl
  | plain c text plain ih =>
      have := bound text
      rw [search_plain plain, ih, (plain_spec plain text).1]
      split
      · rfl
      · rw [Option.map_some, List.length_cons]
        congr 1
        omega
  | sequence taken c left later kept done ih =>
      have := bound left
      have closed : Phase.begun.after (taken ++ [c] ++ left) = none := by
        rw [List.append_assoc, Phase.after_append kept, List.singleton_append, Phase.after, done]
      have absent : escape ∉ taken ++ [c] := by
        rw [List.mem_append, List.mem_singleton]
        rintro (within | last)
        · exact Phase.not_mem_of_after kept within
        · exact ne_escape_of_done done last.symm
      have found := search_escape closed absent
      rw [List.append_assoc, List.singleton_append] at found
      rw [found, ih, (sequence_spec kept done left).1]
      split
      · rfl
      · simp only [Option.map_some, List.length_cons, List.length_append, List.length_nil]
        congr 1
        omega
  | broken taken c left later kept broken ih =>
      have := bound (c :: left)
      have closed : Phase.begun.after (taken ++ c :: left) = none := by
        rw [Phase.after_append kept, Phase.after, broken]
      rw [search_escape closed (Phase.not_mem_of_after kept), ih,
        (broken_spec kept broken left).1]
      split
      · rfl
      · simp only [Option.map_some, List.length_cons, List.length_append] at this ⊢
        congr 1
        omega
  | unfinished taken later kept =>
      have opens : (CSI_OPEN.matchRest (escape :: taken)).isSome = true := by
        rw [matchRest_CSI_OPEN, kept]
        rfl
      rw [Regex.search_of_match opens, (open_spec kept).1, if_neg (List.cons_ne_nil _ _),
        Nat.sub_self]

/-! ## One chunk -/

/-- What a chunk that ends with these bytes held adds to the log at once. -/
def spill (held : Bytes) : Bytes := if held.length ≤ CSI_LONGEST then [] else held

/-- What is left of them to the next chunk. -/
def kept (held : Bytes) : Bytes := if held.length ≤ CSI_LONGEST then held else []

theorem spill_nil : spill [] = [] := rfl

/-- The console reads to the open sequence, or to the end when that is too long. -/
theorem cutOf_spec (data : Bytes) :
    CSI.remove (data.take (cutOf data)) = stripped data ++ spill (heldAfter data) ∧
      data.drop (cutOf data) = kept (heldAfter data) := by
  obtain ⟨before, same, removed⟩ := remove_before_held data
  have lengths := congrArg List.length same
  rw [List.length_append] at lengths
  unfold cutOf spill kept
  rw [search_eq]
  by_cases empty : heldAfter data = []
  · rw [if_pos empty, empty]
    simp only [List.length_nil, Nat.zero_le, if_true, List.take_length, List.drop_length]
    rw [remove_eq, empty]
    exact ⟨rfl, trivial⟩
  · have start : data.length - (heldAfter data).length = before.length := by omega
    have back : data.length - before.length = (heldAfter data).length := by omega
    simp only [if_neg empty, start, back]
    by_cases short : (heldAfter data).length ≤ CSI_LONGEST
    · simp only [if_pos short, List.append_nil]
      rw [← removed]
      generalize heldAfter data = held at same
      subst same
      exact ⟨congrArg CSI.remove (List.take_left' rfl), List.drop_left' rfl⟩
    · simp only [if_neg short, List.take_length, List.drop_length]
      exact ⟨remove_eq data, trivial⟩

/-- What is held, read alone, is held and nothing else. -/
theorem after_held (text : Bytes) :
    stripper.after none (heldAfter text) = stripper.after none text ∧
      stripped (heldAfter text) = [] := by
  rcases held_spec text with empty | ⟨before, taken, later, -, kept, reached⟩
  · rw [heldAfter, empty]
    exact ⟨rfl, rfl⟩
  · rw [heldAfter, reached]
    exact ⟨after_append_open [] kept, (open_spec kept).2⟩

theorem stripped_append (first second : Bytes) :
    stripped (first ++ second) =
      stripped first ++ stripper.trace (stripper.after none first) second :=
  Transducer.trace_append ..

/-- A chunk behind what was held is read as behind the whole stream. -/
theorem chunk_behind_held (stream chunk : Bytes) :
    heldAfter (heldAfter stream ++ chunk) = heldAfter (stream ++ chunk) ∧
      stripped (stream ++ chunk) = stripped stream ++ stripped (heldAfter stream ++ chunk) := by
  obtain ⟨after, clean⟩ := after_held stream
  constructor
  · exact heldAfter_eq (by rw [Transducer.after_append, after, Transducer.after_append])
  · rw [stripped_append, stripped_append, clean, after, List.nil_append]

/-- The state of a stream that ends inside a sequence. -/
theorem held_open {stream : Bytes} (held : heldAfter stream ≠ []) :
    ∃ taken phase, heldAfter stream = escape :: taken ∧
      Phase.begun.after taken = some phase ∧
        stripper.after none stream = some (phase, heldAfter stream) := by
  rcases held_spec stream with empty | ⟨before, taken, phase, -, kept, reached⟩
  · rw [heldAfter, empty] at held
    exact absurd rfl held
  · have same : heldAfter stream = escape :: taken := by
      rw [heldAfter, reached]
      rfl
    exact ⟨taken, phase, same, kept, by rw [same, reached]⟩

/-- The chunk completes a sequence of which more than `CSI_LONGEST` bytes came before it. -/
def Late (stream chunk : Bytes) : Prop :=
  CSI_LONGEST < (heldAfter stream).length ∧ (CSI.matchRest (heldAfter stream ++ chunk)).isSome

/-- An open sequence and the chunk behind it: it stays open, breaks, or is completed. -/
theorem chunk_behind_open {stream : Bytes} (held : heldAfter stream ≠ []) (chunk : Bytes) :
    (heldAfter (stream ++ chunk) = heldAfter stream ++ chunk ∧
        stripped (stream ++ chunk) = stripped stream ∧
          heldAfter chunk = [] ∧ stripped chunk = chunk ∧
            CSI.matchRest (heldAfter stream ++ chunk) = none) ∨
      heldAfter (stream ++ chunk) = heldAfter chunk ∧
        (stripped (stream ++ chunk) = stripped stream ++ heldAfter stream ++ stripped chunk ∧
            (∀ rest, CSI.matchRest (heldAfter stream ++ chunk ++ rest) = none) ∨
          ∃ taken left, chunk = taken ++ left ∧ taken ≠ [] ∧
            stripped chunk = taken ++ stripped left ∧
              stripped (stream ++ chunk) = stripped stream ++ stripped left ∧
                ∀ rest,
                  CSI.matchRest (heldAfter stream ++ chunk ++ rest) = some (left ++ rest)) := by
  obtain ⟨taken₀, phase, same, kept, reached⟩ := held_open held
  have whole (rest : Bytes) :
      CSI.matchRest (heldAfter stream ++ rest) = phase.rest rest := by
    rw [same, List.cons_append, matchRest_escape, Phase.rest_append kept]
  have after : stripper.after none (stream ++ chunk) =
      stripper.after (some (phase, heldAfter stream)) chunk := by
    rw [Transducer.after_append, reached]
  have clean : stripped (stream ++ chunk) =
      stripped stream ++ stripper.trace (some (phase, heldAfter stream)) chunk := by
    rw [stripped_append, reached]
  rcases phase.fate chunk with
    ⟨later, stays⟩ | ⟨taken, c, left, later, rfl, stays, ends⟩
  · obtain ⟨afterChunk, traceChunk⟩ := run_more (heldAfter stream) stays
    obtain ⟨quietAfter, quietClean⟩ := run_quiet (Phase.not_mem_of_after stays)
    refine .inl ⟨?_, ?_, ?_, quietClean, ?_⟩
    · rw [heldAfter, after, afterChunk]
      rfl
    · rw [clean, traceChunk, List.append_nil]
    · rw [heldAfter, quietAfter]
      rfl
    · rw [whole, Phase.rest_open stays]
  · obtain ⟨quietAfter, quietClean⟩ := run_quiet (Phase.not_mem_of_after stays)
    refine .inr ?_
    rcases ends with done | broken
    · obtain ⟨afterChunk, traceChunk⟩ := run_done (heldAfter stream) stays done left
      have plain : escape ∉ taken ++ [c] := by
        rw [List.mem_append, List.mem_singleton]
        rintro (within | last)
        · exact Phase.not_mem_of_after stays within
        · exact ne_escape_of_done done last.symm
      obtain ⟨alone, text⟩ := run_quiet plain
      have split : taken ++ c :: left = taken ++ [c] ++ left := by simp
      refine ⟨heldAfter_eq ?_, .inr ⟨taken ++ [c], left, split, by simp, ?_, ?_, fun rest => ?_⟩⟩
      · rw [after, afterChunk, split, Transducer.after_append, alone]
      · rw [split, stripped_append, text, alone]
        rfl
      · rw [clean, traceChunk]
      · rw [List.append_assoc, whole, List.append_assoc, List.cons_append,
          Phase.rest_done stays done]
    · obtain ⟨afterChunk, traceChunk⟩ := run_broken (heldAfter stream) stays broken left
      refine ⟨heldAfter_eq ?_, .inl ⟨?_, fun rest => ?_⟩⟩
      · rw [after, afterChunk, Transducer.after_append, quietAfter]
      · rw [clean, traceChunk, stripped_append, quietClean, quietAfter, List.append_assoc,
          List.append_assoc]
        rfl
      · rw [List.append_assoc, whole, List.append_assoc, List.cons_append,
          Phase.rest_broken stays broken]

/-! ## Every chunk -/

theorem feed_eq (data : Bytes) (state : Framing.State) :
    Framing.Python.feed data state =
      (Framing.reader.trace state data, Framing.reader.after state data) := by
  rw [Framing.Python.feed, Framing.Python.feedFrom_eq, List.nil_append]

/-- The fields of a console against the stream it was given and its own log. -/
structure Follows (console : Console Hit) (stream : Bytes) : Prop where
  raw : console.raw = stream
  carry : console.carry = kept (heldAfter stream)
  events : console.events = Framing.reader.trace (.outside 0) console.log
  state : console.state = Framing.reader.after (.outside 0) console.log

/-- What the log is of a stream of which no completed sequence was let through. -/
def expected (stream : Bytes) : Bytes := stripped stream ++ spill (heldAfter stream)

variable {console : Console Hit} {stream : Bytes}

theorem append_log (console : Console Hit) (chunk : Bytes) :
    (console.append chunk).log = console.log ++ expected (console.carry ++ chunk) :=
  congrArg (console.log ++ ·) (cutOf_spec (console.carry ++ chunk)).1

theorem append_carry (console : Console Hit) (chunk : Bytes) :
    (console.append chunk).carry = kept (heldAfter (console.carry ++ chunk)) :=
  (cutOf_spec (console.carry ++ chunk)).2

theorem kept_of_short (short : (heldAfter stream).length ≤ CSI_LONGEST) :
    kept (heldAfter stream) = heldAfter stream ∧ spill (heldAfter stream) = [] :=
  ⟨if_pos short, if_pos short⟩

theorem kept_of_long (long : CSI_LONGEST < (heldAfter stream).length) :
    kept (heldAfter stream) = [] ∧ spill (heldAfter stream) = heldAfter stream :=
  ⟨if_neg (Nat.not_le.mpr long), if_neg (Nat.not_le.mpr long)⟩

/-- A chunk leaves the same carry as the stream does, and the same text unless it is late. -/
theorem chunk_expected (stream chunk : Bytes) :
    kept (heldAfter (kept (heldAfter stream) ++ chunk)) = kept (heldAfter (stream ++ chunk)) ∧
      (¬Late stream chunk → expected stream ++ expected (kept (heldAfter stream) ++ chunk) =
        expected (stream ++ chunk)) ∧
      (Late stream chunk → (expected (stream ++ chunk)).length <
        (expected stream ++ expected (kept (heldAfter stream) ++ chunk)).length) := by
  unfold expected
  rcases Nat.lt_or_ge CSI_LONGEST (heldAfter stream).length with long | short
  · obtain ⟨carry, spilled⟩ := kept_of_long long
    have held : heldAfter stream ≠ [] := by
      intro empty
      rw [empty] at long
      cases long
    rw [carry, spilled, List.nil_append]
    rcases chunk_behind_open held chunk with ⟨heldNow, clean, quiet, text, missed⟩ |
      ⟨heldNow, ⟨clean, missed⟩ | ⟨taken, left, split, nonempty, text, clean, matched⟩⟩
    · have longer : CSI_LONGEST < (heldAfter (stream ++ chunk)).length := by
        rw [heldNow, List.length_append]
        omega
      obtain ⟨carry', spilled'⟩ := kept_of_long longer
      refine ⟨?_, fun _ => ?_, fun late => ?_⟩
      · rw [carry', quiet]
        rfl
      · rw [spilled', heldNow, clean, quiet, text, spill_nil, List.append_nil, List.append_assoc]
      · have found := late.2
        rw [missed] at found
        cases found
    · refine ⟨by rw [heldNow], fun _ => ?_, fun late => ?_⟩
      · rw [heldNow, clean, List.append_assoc, List.append_assoc, List.append_assoc]
      · have found := late.2
        rw [← List.append_nil (heldAfter stream ++ chunk), missed []] at found
        cases found
    · have late : Late stream chunk := by
        refine ⟨long, ?_⟩
        rw [← List.append_nil (heldAfter stream ++ chunk), matched []]
        rfl
      refine ⟨by rw [heldNow], fun early => absurd late early, fun _ => ?_⟩
      rw [heldNow, clean, text]
      simp only [List.length_append]
      omega
  · obtain ⟨carry, spilled⟩ := kept_of_short short
    obtain ⟨heldNow, clean⟩ := chunk_behind_held stream chunk
    rw [carry, spilled, List.append_nil]
    refine ⟨by rw [heldNow], fun _ => ?_, fun late => absurd late.1 (Nat.not_lt.mpr short)⟩
    rw [heldNow, clean, List.append_assoc]

theorem Follows.append (follows : Follows console stream) (chunk : Bytes) :
    Follows (console.append chunk) (stream ++ chunk) := by
  have log := append_log console chunk
  have clean : CSI.remove ((console.carry ++ chunk).take (cutOf (console.carry ++ chunk))) =
      expected (console.carry ++ chunk) := (cutOf_spec (console.carry ++ chunk)).1
  refine ⟨?_, ?_, ?_, ?_⟩
  · exact congrArg (· ++ chunk) follows.raw
  · rw [append_carry, follows.carry, (chunk_expected stream chunk).1]
  · rw [log, Transducer.trace_append, ← follows.events, ← follows.state, ← clean]
    exact congrArg (console.events ++ ·) (congrArg Prod.fst (feed_eq _ console.state))
  · rw [log, Transducer.after_append, ← follows.state, ← clean]
    exact congrArg Prod.snd (feed_eq _ console.state)

/-- Some chunk of them is late. -/
def SomeLate (chunks : List Bytes) : Prop :=
  ∃ early chunk late, chunks = early ++ chunk :: late ∧ Late early.flatten chunk

theorem someLate_concat {chunks : List Bytes} {chunk : Bytes} :
    SomeLate (chunks ++ [chunk]) ↔ SomeLate chunks ∨ Late chunks.flatten chunk := by
  constructor
  · rintro ⟨early, other, late, split, isLate⟩
    rcases List.eq_nil_or_concat late with rfl | ⟨init, last, rfl⟩
    · obtain ⟨rfl, same⟩ := List.append_inj' split rfl
      cases same
      exact .inr isLate
    · rw [List.concat_eq_append, ← List.cons_append, ← List.append_assoc] at split
      exact .inl ⟨early, other, init, (List.append_inj' split rfl).1, isLate⟩
  · rintro (⟨early, other, late, rfl, isLate⟩ | isLate)
    · exact ⟨early, other, late ++ [chunk], by simp, isLate⟩
    · exact ⟨chunks, chunk, [], rfl, isLate⟩

/-- The log of a run: as expected while no chunk is late, and too long from then on. -/
theorem pump_spec (failures : List (Scan Hit)) (chunks : List Bytes) :
    Follows (pump failures chunks) chunks.flatten ∧
      (¬SomeLate chunks → (pump failures chunks).log = expected chunks.flatten) ∧
      (SomeLate chunks →
        (expected chunks.flatten).length < (pump failures chunks).log.length) := by
  induction chunks using List.reverseRecOn with
  | nil =>
      refine ⟨⟨rfl, rfl, rfl, rfl⟩, fun _ => rfl, fun ⟨early, chunk, late, split, _⟩ => ?_⟩
      cases early <;> cases split
  | append_singleton chunks chunk ih =>
      obtain ⟨follows, asExpected, tooLong⟩ := ih
      have run : pump failures (chunks ++ [chunk]) = (pump failures chunks).append chunk := by
        rw [pump, List.foldl_append]
        rfl
      have flat : (chunks ++ [chunk]).flatten = chunks.flatten ++ chunk := by simp
      obtain ⟨-, onTime, late⟩ := chunk_expected chunks.flatten chunk
      rw [run, flat, someLate_concat, append_log, follows.carry]
      refine ⟨follows.append chunk, fun inTime => ?_, fun isLate => ?_⟩
      · rw [not_or] at inTime
        rw [asExpected inTime.1, onTime inTime.2]
      · by_cases before : SomeLate chunks
        · have longer := tooLong before
          by_cases now : Late chunks.flatten chunk
          · have := late now
            rw [List.length_append] at this ⊢
            omega
          · rw [← onTime now, List.length_append, List.length_append]
            omega
        · rw [asExpected before]
          exact late (isLate.resolve_left before)

/-! ## Every way of cutting -/

/-- A chunk ends more than `CSI_LONGEST` bytes into a sequence that the stream completes. -/
def CutLate (chunks : List Bytes) : Prop :=
  ∃ early late before sequence more after, chunks = early ++ late ∧
    early.flatten = before ++ sequence ∧ late.flatten = more ++ after ∧
      CSI_LONGEST < sequence.length ∧ more ≠ [] ∧
        CSI.matchRest (sequence ++ more ++ after) = some after

/-- The front of a sequence that ends behind it is open. -/
theorem open_of_matchRest {sequence more after : Bytes} (nonempty : sequence ≠ [])
    (goesOn : more ≠ []) (matched : CSI.matchRest (sequence ++ more ++ after) = some after) :
    ∃ taken phase, sequence = escape :: taken ∧ Phase.begun.after taken = some phase := by
  obtain ⟨c, taken, rfl⟩ := List.exists_cons_of_ne_nil nonempty
  rw [List.append_assoc, List.cons_append, matchRest_CSI] at matched
  by_cases begins : c = escape
  · rw [if_pos begins] at matched
    subst begins
    rcases Phase.begun.fate taken with
      ⟨phase, kept⟩ | ⟨early, d, left, phase, rfl, kept, done | broken⟩
    · exact ⟨taken, phase, rfl, kept⟩
    · rw [List.append_assoc, List.cons_append, Phase.rest_done kept done] at matched
      have length := congrArg List.length (Option.some.inj matched)
      have positive := List.length_pos_iff.mpr goesOn
      simp only [List.length_append] at length
      omega
    · rw [List.append_assoc, List.cons_append, Phase.rest_broken kept broken] at matched
      cases matched
  · rw [if_neg begins] at matched
    cases matched

/-- The sequence is completed in one of the chunks behind the cut. -/
theorem exists_late {late : List Bytes} (early : List Bytes)
    (long : CSI_LONGEST < (heldAfter early.flatten).length)
    (found : (CSI.matchRest (heldAfter early.flatten ++ late.flatten)).isSome) :
    SomeLate (early ++ late) := by
  have held : heldAfter early.flatten ≠ [] := by
    intro empty
    rw [empty] at long
    cases long
  induction late generalizing early with
  | nil =>
      obtain ⟨taken, phase, same, kept, -⟩ := held_open held
      rw [List.flatten_nil, List.append_nil, same, matchRest_escape, Phase.rest_open kept] at found
      cases found
  | cons chunk late ih =>
      cases now : CSI.matchRest (heldAfter early.flatten ++ chunk) with
      | some left => exact ⟨early, chunk, late, rfl, long, by rw [now]; rfl⟩
      | none =>
          have flat : (early ++ [chunk]).flatten = early.flatten ++ chunk := by simp
          rw [List.flatten_cons, ← List.append_assoc] at found
          rcases chunk_behind_open held chunk with ⟨heldNow, -⟩ |
            ⟨-, ⟨-, missed⟩ | ⟨taken, left, -, -, -, -, matched⟩⟩
          · have rest := ih (early ++ [chunk])
            rw [flat, heldNow, List.append_assoc early] at rest
            refine rest ?_ found ?_
            · rw [List.length_append]
              omega
            · exact fun empty => held (List.append_eq_nil_iff.mp empty).1
          · rw [missed] at found
            cases found
          · have matchedNow := matched []
            rw [List.append_nil, now] at matchedNow
            cases matchedNow

theorem cutLate_iff (chunks : List Bytes) : CutLate chunks ↔ SomeLate chunks := by
  constructor
  · rintro ⟨early, late, before, sequence, more, after, rfl, front, behind, long, goesOn, matched⟩
    have nonempty : sequence ≠ [] := by
      rintro rfl
      cases long
    obtain ⟨taken, phase, rfl, kept⟩ := open_of_matchRest nonempty goesOn matched
    have held : heldAfter early.flatten = escape :: taken := by
      rw [heldAfter, front, after_append_open before kept]
      rfl
    refine exists_late early (held ▸ long) ?_
    rw [held, behind, ← List.append_assoc, matched]
    rfl
  · rintro ⟨early, chunk, late, rfl, long, found⟩
    have held : heldAfter early.flatten ≠ [] := by
      intro empty
      rw [empty] at long
      cases long
    obtain ⟨before, front, -⟩ := remove_before_held early.flatten
    rcases chunk_behind_open held chunk with ⟨-, -, -, -, missed⟩ |
      ⟨-, ⟨-, missed⟩ | ⟨taken, left, split, nonempty, -, -, matched⟩⟩
    · rw [missed] at found
      cases found
    · rw [← List.append_nil (heldAfter early.flatten ++ chunk), missed []] at found
      cases found
    · refine ⟨early, chunk :: late, before, heldAfter early.flatten, taken, left ++ late.flatten,
        rfl, front, ?_, long, nonempty, ?_⟩
      · rw [List.flatten_cons, split, List.append_assoc]
      · have whole := matched late.flatten
        rw [split] at whole
        simpa only [List.append_assoc] using whole

/-- The raw log is the stream and the events are those of the text, and the text is the stripped
stream exactly when no sequence is cut late. -/
theorem pump_strips (failures : List (Scan Hit)) (chunks : List Bytes)
    (closed : CSI_OPEN.search chunks.flatten = none) :
    (pump failures chunks).raw = chunks.flatten ∧
      (pump failures chunks).events =
        (Framing.Python.feed (pump failures chunks).log (.outside 0)).1 ∧
      ((pump failures chunks).log = CSI.remove chunks.flatten ↔ ¬CutLate chunks) := by
  obtain ⟨follows, asExpected, tooLong⟩ := pump_spec failures chunks
  refine ⟨follows.raw, follows.events.trans (congrArg Prod.fst (feed_eq _ _)).symm, ?_⟩
  have ended : heldAfter chunks.flatten = [] := by
    rw [search_eq] at closed
    split at closed
    · next empty => exact empty
    · cases closed
  have whole : expected chunks.flatten = CSI.remove chunks.flatten := by
    rw [expected, remove_eq, ended, spill_nil]
  rw [cutLate_iff, ← whole]
  constructor
  · intro same isLate
    have longer := tooLong isLate
    rw [same] at longer
    exact Nat.lt_irrefl _ longer
  · exact asExpected

/-- A colour cut after each of its bytes. -/
def cutColour : List Bytes := [[0x41, 0x1B], [0x5B], [0x33], [0x31, 0x6D, 0x42]]

theorem pump_strips_colour :
    CSI_OPEN.search cutColour.flatten = none ∧
      (pump ([] : List (Scan Unit)) cutColour).raw = cutColour.flatten ∧
      (pump ([] : List (Scan Unit)) cutColour).events =
        (Framing.Python.feed (pump ([] : List (Scan Unit)) cutColour).log (.outside 0)).1 ∧
      ((pump ([] : List (Scan Unit)) cutColour).log = CSI.remove cutColour.flatten ↔
        ¬CutLate cutColour) :=
  ⟨by rfl, pump_strips [] cutColour (by rfl)⟩

/-- A sequence of 34 bytes, cut before its last. -/
def cutLong : List Bytes := [escape :: bracket :: List.replicate 31 0x30, [0x6D]]

theorem pump_keeps_cut_sequence :
    CSI_OPEN.search cutLong.flatten = none ∧
      (pump ([] : List (Scan Unit)) cutLong).log ≠ CSI.remove cutLong.flatten := by
  have kept : (pump ([] : List (Scan Unit)) cutLong).log = cutLong.flatten := by rfl
  have gone : CSI.remove cutLong.flatten = [] := by rfl
  refine ⟨by rfl, ?_⟩
  rw [kept, gone]
  exact List.cons_ne_nil _ _

end Chrysopolis.Testbed.Console
