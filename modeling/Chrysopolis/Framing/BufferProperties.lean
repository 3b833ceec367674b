import Chrysopolis.Framing.PrefixProperties

/-! How much of a body the reader holds. The cap is tested before a byte is read, and a byte
after a lone `@` brings that `@` with it. -/

set_option autoImplicit false

namespace Chrysopolis.Framing

open Chrysopolis.Support

/-- The body bytes a reader holds. -/
def State.held : State → Nat
  | .outside _ => 0
  | .inside body _ => body.length

/-- One byte short of the cap, the reader has an `@` pending and reads no second one. -/
def Overruns (state : State) (c : UInt8) : Prop :=
  ∃ body, state = .inside body .atSign ∧ body.length + 1 = MAX_BODY ∧ c ≠ AT

/-- A step passes the cap in one way, whatever state it starts in. -/
theorem held_step_le_iff (c : UInt8) (state : State) :
    (step c state).2.held ≤ MAX_BODY ↔ ¬ Overruns state c := by
  cases state with
  | outside matched =>
      refine iff_of_true ?_ (by rintro ⟨_, impossible, _⟩; cases impossible)
      rw [step]
      split_ifs <;> exact Nat.zero_le _
  | inside body after =>
      rw [step.eq_def]
      dsimp only
      by_cases full : MAX_BODY ≤ body.length
      · rw [if_pos full]
        refine iff_of_true (Nat.zero_le _) ?_
        rintro ⟨_, same, short, -⟩
        cases same
        omega
      · rw [if_neg full]
        cases after with
        | plain =>
            refine iff_of_true ?_ (by rintro ⟨_, impossible, _⟩; cases impossible)
            dsimp only
            split_ifs
            · exact Nat.le_of_not_le full
            · rw [State.held, List.length_append, List.length_singleton]
              omega
        | atSign =>
            dsimp only
            by_cases closes : c = AT
            · rw [if_pos closes]
              refine iff_of_true (Nat.zero_le _) ?_
              rintro ⟨_, -, -, open_⟩
              exact open_ closes
            · rw [if_neg closes, State.held, List.length_append]
              simp only [List.length_cons, List.length_nil]
              constructor
              · rintro held ⟨_, same, short, -⟩
                cases same
                omega
              · intro within
                have short : body.length + 1 ≠ MAX_BODY := fun short =>
                  within ⟨body, rfl, short, closes⟩
                omega

theorem feed_append_singleton (before : Bytes) (c : UInt8) (state : State) :
    (feed (before ++ [c]) state).2 = (step c (feed before state).2).2 := by
  rw [feed_append, feed_eq [c], Transducer.after_cons, Transducer.after_nil]
  rfl

/-- Whatever the chunks, the reader holds no more than the cap as long as no byte but a second
`@` follows an `@` that is pending one byte short of it. -/
theorem held_le_iff (log : Bytes) :
    (∀ chunks : List Bytes, chunks.flatten <+: log →
        (feedChunks chunks (.outside 0)).2.held ≤ MAX_BODY) ↔
      ∀ before c after, log = before ++ c :: after →
        ¬ Overruns (feed before (.outside 0)).2 c := by
  simp only [feedChunks_eq]
  constructor
  · intro held before c after split
    rw [← held_step_le_iff, ← feed_append_singleton]
    have cut : [before ++ [c]].flatten <+: log := ⟨after, by simp [split]⟩
    simpa using held [before ++ [c]] cut
  · rintro within chunks ⟨after, split⟩
    generalize chunks.flatten = read at split
    cases read using List.reverseRecOn with
    | nil => exact Nat.zero_le _
    | append_singleton before c =>
        rw [feed_append_singleton, held_step_le_iff]
        exact within before c after (by simp [← split])

/-- One byte past the cap is the most the reader ever holds. -/
theorem held_le (chunks : List Bytes) :
    (feedChunks chunks (.outside 0)).2.held ≤ MAX_BODY + 1 := by
  rw [feedChunks_eq]
  cases chunks.flatten using List.reverseRecOn with
  | nil => exact Nat.zero_le _
  | append_singleton before c =>
      rw [feed_append_singleton]
      generalize (feed before (.outside 0)).2 = state
      cases state with
      | outside matched =>
          rw [step]
          split_ifs <;> exact Nat.zero_le _
      | inside body after =>
          rw [step.eq_def]
          cases after <;> dsimp only <;> split_ifs <;>
            simp only [State.held, List.length_append, List.length_cons, List.length_nil] <;>
            omega

/-- A marker, a body one byte short of the cap, and an `@` before another byte. -/
def overrunLog : Bytes := MARKER ++ List.replicate 1023 0x61 ++ [AT, 0x61]

theorem held_overrunLog :
    ¬ ∀ chunks : List Bytes, chunks.flatten <+: overrunLog →
      (feedChunks chunks (.outside 0)).2.held ≤ MAX_BODY := by
  rw [held_le_iff]
  intro within
  have quiet : AT ∉ List.replicate 1023 (0x61 : UInt8) := fun member =>
    absurd (List.eq_of_mem_replicate member) (by decide)
  have width : (List.replicate 1023 (0x61 : UInt8)).length = 1023 := List.length_replicate
  have opened := Reads.marker.append (@Reads.body [] _ quiet (by rw [width]; decide))
  rw [List.nil_append] at opened
  have reached : (feed (MARKER ++ List.replicate 1023 0x61 ++ [AT]) (.outside 0)).2 =
      .inside (List.replicate 1023 0x61) .atSign := by
    rw [feed_append_singleton, feed_eq, opened.after, step,
      if_neg (by rw [List.nil_append, width]; decide)]
    rfl
  refine within (MARKER ++ List.replicate 1023 0x61 ++ [AT]) 0x61 [] ?_ ?_
  · rw [overrunLog, List.append_assoc _ [AT]]
    rfl
  · rw [reached]
    exact ⟨_, rfl, by rw [width]; rfl, by decide⟩

end Chrysopolis.Framing
