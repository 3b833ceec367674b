import Chrysopolis.Framing.ObserveProperties

/-! Reading a log as it grows. Chunks may be cut anywhere, since the reader
carries all it needs; an outcome decided on a prefix is the outcome of every
longer log. -/

set_option autoImplicit false

namespace Chrysopolis.Framing

open Chrysopolis.Support

/-! ## Chunks -/

/-- A log fed in chunks, the reader carried from each to the next. -/
def feedChunks : List Bytes → State → List Event × State
  | [], state => ([], state)
  | chunk :: chunks, state =>
      let (events, reached) := feed chunk state
      let (later, stop) := feedChunks chunks reached
      (events ++ later, stop)

theorem feed_append (first second : Bytes) (state : State) :
    feed (first ++ second) state =
      ((feed first state).1 ++ (feed second (feed first state).2).1,
        (feed second (feed first state).2).2) := by
  simp only [feed_eq, Transducer.trace_append, Transducer.after_append]

theorem feedChunks_eq (chunks : List Bytes) (state : State) :
    feedChunks chunks state = feed chunks.flatten state := by
  induction chunks generalizing state with
  | nil => rfl
  | cons chunk chunks ih =>
      rw [List.flatten_cons, feed_append]
      simp only [feedChunks, ih]

/-! ## Prefixes -/

/-- What more of the log can do to an outcome: nothing, unless the outcome is
pending, and an open frame leaves it so. -/
def Settled (events : List Event) (runText : Bytes) (seen : List Frame) : Prop :=
  (∀ later, decideEvents (events ++ later) runText seen = decideEvents events runText seen) ∨
    (decideEvents events runText seen = .pending ∧
      decideEvents (events ++ [.pending]) runText seen = .pending)

/-- Events without an open frame settle the outcome, frame by frame. -/
theorem settled_of_closed {events : List Event} (closed : Event.pending ∉ events)
    (runText : Bytes) (seen : List Frame) : Settled events runText seen := by
  induction events generalizing seen with
  | nil => exact .inr ⟨rfl, rfl⟩
  | cons event events ih =>
      rw [List.mem_cons, not_or] at closed
      cases event with
      | pending => exact absurd rfl closed.1
      | damaged guessed reason => exact .inl fun _ => rfl
      | frame frame =>
          simp only [Settled, List.cons_append, decideEvents]
          by_cases own : frame.run = runText
          · by_cases kind : frame.kind = ascii "verdict"
            · simp [own, kind]
            · simp only [own, kind, if_true, if_false]
              exact ih closed.2 (frame :: seen)
          · simp only [own, if_false]
            exact ih closed.2 seen

/-- An outcome other than pending outlives every later byte. -/
theorem decideEvents_prefix (first rest : Bytes) (runText : Bytes) :
    decideEvents (collect first) runText [] = .pending ∨
      decideEvents (collect first) runText [] =
        decideEvents (collect (first ++ rest)) runText [] := by
  set read := reader.trace (.outside 0) first with readDef
  have whole : collect (first ++ rest) =
      read ++ (reader.trace (reader.after (.outside 0) first) rest ++
        finish (reader.after (.outside 0) (first ++ rest))) := by
    rw [collect_eq, Transducer.trace_append, List.append_assoc]
  rcases settled_of_closed (pending_not_mem_trace first (.outside 0)) runText [] with
    decided | ⟨undecided, stays⟩
  · right
    rw [whole, collect_eq, decided, decided]
  · left
    rw [collect_eq]
    cases reader.after (.outside 0) first with
    | outside matched => rw [finish, List.append_nil, undecided]
    | inside body after => exact stays

/-- Every outcome of a prefix is pending or final, and no cut of a log is seen. -/
theorem observe_prefix_and_chunks :
    (∀ (first rest : Bytes) (runName : RunName),
        observe first runName = .ok .pending ∨
          observe first runName = observe (first ++ rest) runName) ∧
      ∀ (chunks : List Bytes) (state : State),
        feedChunks chunks state = feed chunks.flatten state := by
  refine ⟨fun first rest runName => ?_, feedChunks_eq⟩
  simp only [observe]
  cases run runName with
  | error error => exact .inr rfl
  | ok runText =>
      rcases decideEvents_prefix first rest runText with undecided | final
      · exact .inl (congrArg Except.ok undecided)
      · exact .inr (congrArg Except.ok final)

end Chrysopolis.Framing
