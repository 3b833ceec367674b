import Chrysopolis.Framing.RoundTripProperties
import Mathlib.Data.Finset.Range
import Mathlib.Data.List.Nodup

/-! The outcome of a run over a log. A run passes when its frames arrived once
each and in order before its verdict; a clean run with frames deleted is lost
with the deleted numbers, as long as its verdict still reads. -/

set_option autoImplicit false

namespace Chrysopolis.Framing

open Chrysopolis.Support

/-! ## The deciding event -/

/-- The frame of an event, if it is one of the run. -/
def ownFrame (runText : Bytes) : Event → Option Frame
  | .frame frame => if frame.run = runText then some frame else none
  | _ => none

/-- The frames of a run among the events, in order. -/
def runFrames (runText : Bytes) (events : List Event) : List Frame :=
  events.filterMap (ownFrame runText)

/-- An event before the deciding one: no damaged frame and no verdict of the run. -/
def PassedOver (runText : Bytes) : Event → Prop
  | .frame frame => frame.run = runText → frame.kind ≠ ascii "verdict"
  | .damaged _ _ => False
  | .pending => True

/-- The frames of the run arrived once each and in order, and then its verdict,
which counts them. -/
structure ArrivedAt (runText : Bytes) (frames : List Frame) (unexpected : Nat)
    (before : List Event) (final : Frame) : Prop where
  passed : ∀ event ∈ before, PassedOver runText event
  own : final.run = runText
  kind : final.kind = ascii "verdict"
  arrived : runFrames runText before = frames
  order : frames.map Frame.n = List.range final.n
  counted : count final.fields (ascii "frames") = some final.n
  unexpected : count final.fields (ascii "unexpected") = some unexpected

/-- The events hold the whole run before anything damaged. -/
def Arrived (runText : Bytes) (frames : List Frame) (unexpected : Nat)
    (events : List Event) : Prop :=
  ∃ before final after, events = before ++ .frame final :: after ∧
    ArrivedAt runText frames unexpected before final

theorem verdict_eq_pass_iff {final : Frame} {runText : Bytes} {seen frames : List Frame}
    {unexpected : Nat} :
    verdict final runText seen = .pass frames unexpected ↔
      count final.fields (ascii "frames") = some final.n ∧
        count final.fields (ascii "unexpected") = some unexpected ∧
        seen.map Frame.n = List.range final.n ∧ seen = frames := by
  rw [verdict]
  cases count final.fields (ascii "frames") with
  | none => simp
  | some counted =>
      cases count final.fields (ascii "unexpected") with
      | none => simp
      | some others =>
          by_cases agrees : counted = final.n
          · by_cases inOrder : seen.map Frame.n = List.range final.n
            · simp [agrees, inOrder, and_comm]
            · simp [agrees, inOrder]
          · simp [agrees]

/-- Events that are passed over only add the run's frames to those seen. -/
theorem decideEvents_append {runText : Bytes} {before : List Event}
    (passed : ∀ event ∈ before, PassedOver runText event) (closed : Event.pending ∉ before)
    (rest : List Event) (seen : List Frame) :
    decideEvents (before ++ rest) runText seen =
      decideEvents rest runText ((runFrames runText before).reverse ++ seen) := by
  induction before generalizing seen with
  | nil => rfl
  | cons event before ih =>
      obtain ⟨head, tail⟩ := List.forall_mem_cons.mp passed
      rw [List.mem_cons, not_or] at closed
      have next := ih tail closed.2
      cases event with
      | pending => exact absurd rfl closed.1
      | damaged guessed reason => exact head.elim
      | frame frame =>
          rw [List.cons_append, decideEvents]
          by_cases own : frame.run = runText
          · rw [if_pos own, if_neg (head own), next]
            simp [runFrames, ownFrame, own]
          · rw [if_neg own, next]
            simp [runFrames, ownFrame, own]

theorem decideEvents_verdict {runText : Bytes} {final : Frame} (own : final.run = runText)
    (kind : final.kind = ascii "verdict") (after : List Event) (seen : List Frame) :
    decideEvents (.frame final :: after) runText seen = verdict final runText seen.reverse := by
  rw [decideEvents, if_pos own, if_pos kind]

/-- A passing outcome was decided at a verdict of the run. -/
theorem decideEvents_pass {runText : Bytes} {events : List Event} {seen frames : List Frame}
    {unexpected : Nat} (passes : decideEvents events runText seen = .pass frames unexpected) :
    ∃ before final after, events = before ++ .frame final :: after ∧
      (∀ event ∈ before, PassedOver runText event) ∧ final.run = runText ∧
      final.kind = ascii "verdict" ∧
      verdict final runText (seen.reverse ++ runFrames runText before) =
        .pass frames unexpected := by
  induction events generalizing seen with
  | nil => cases passes
  | cons event events ih =>
      cases event with
      | pending => cases passes
      | damaged guessed reason => cases passes
      | frame frame =>
          rw [decideEvents] at passes
          by_cases own : frame.run = runText
          · rw [if_pos own] at passes
            by_cases kind : frame.kind = ascii "verdict"
            · rw [if_pos kind] at passes
              refine ⟨[], frame, events, rfl, fun _ member => absurd member List.not_mem_nil,
                own, kind, ?_⟩
              simpa [runFrames] using passes
            · rw [if_neg kind] at passes
              obtain ⟨before, final, after, rfl, passed, finalOwn, finalKind, decided⟩ := ih passes
              refine ⟨.frame frame :: before, final, after, rfl,
                List.forall_mem_cons.mpr ⟨fun _ => kind, passed⟩, finalOwn, finalKind, ?_⟩
              simpa [runFrames, ownFrame, own] using decided
          · rw [if_neg own] at passes
            obtain ⟨before, final, after, rfl, passed, finalOwn, finalKind, decided⟩ := ih passes
            refine ⟨.frame frame :: before, final, after, rfl,
              List.forall_mem_cons.mpr ⟨fun same => absurd same own, passed⟩, finalOwn,
              finalKind, ?_⟩
            simpa [runFrames, ownFrame, own] using decided

/-- What holds of the verdict frame that decides the run, if one does, and of the run's
frames seen by then. -/
def AtVerdict (runText : Bytes) (holds : Frame → List Frame → Prop) (events : List Event)
    (seen : List Frame) : Prop :=
  ∀ before final after, events = before ++ .frame final :: after →
    (∀ event ∈ before, PassedOver runText event) → Event.pending ∉ before →
    final.run = runText → final.kind = ascii "verdict" →
      holds final (seen ++ runFrames runText before)

section Walks

variable {runText : Bytes} {holds : Frame → List Frame → Prop} {events : List Event}
  {seen : List Frame}

/-- An event that decides without a verdict frame leaves none to reach. -/
theorem atVerdict_of_stop {event : Event} (notFrame : ∀ frame, event ≠ .frame frame)
    (stops : PassedOver runText event → event = .pending) :
    AtVerdict runText holds (event :: events) seen := by
  intro before final after split passed closed own kind
  cases before with
  | nil => exact absurd (List.cons.inj split).1 (notFrame final)
  | cons first before =>
      obtain rfl := (List.cons.inj split).1
      have pending := stops (passed event List.mem_cons_self)
      exact absurd (pending ▸ List.mem_cons_self) closed

theorem atVerdict_cons_iff {frame : Frame} (passedOver : PassedOver runText (.frame frame)) :
    AtVerdict runText holds (.frame frame :: events) seen ↔
      AtVerdict runText holds events (seen ++ runFrames runText [.frame frame]) := by
  have shift (before : List Event) :
      seen ++ runFrames runText (.frame frame :: before) =
        seen ++ runFrames runText [.frame frame] ++ runFrames runText before := by
    rw [List.append_assoc]
    rw [runFrames, runFrames, runFrames, ← List.filterMap_append, List.singleton_append]
  constructor
  · intro same before final after split passed closed own kind
    have reading := same (.frame frame :: before) final after (by rw [split]; rfl)
      (List.forall_mem_cons.mpr ⟨passedOver, passed⟩) (by simpa using closed) own kind
    rwa [shift] at reading
  · intro same before final after split passed closed own kind
    cases before with
    | nil =>
        have head := Event.frame.inj (List.cons.inj split).1
        rw [head] at passedOver
        exact absurd kind (passedOver own)
    | cons event before =>
        obtain ⟨rfl, tail⟩ := List.cons.inj split
        rw [shift]
        exact same before final after tail (List.forall_mem_cons.mp passed).2
          (fun member => closed (List.mem_cons_of_mem _ member)) own kind

theorem atVerdict_verdict_iff {final : Frame} (own : final.run = runText)
    (kind : final.kind = ascii "verdict") :
    AtVerdict runText holds (.frame final :: events) seen ↔ holds final seen := by
  constructor
  · intro same
    have reading := same [] final events rfl (by simp) (by simp) own kind
    rwa [runFrames, List.filterMap_nil, List.append_nil] at reading
  · intro reading before other after split passed closed _ _
    cases before with
    | nil =>
        obtain rfl := Event.frame.inj (List.cons.inj split).1
        rwa [runFrames, List.filterMap_nil, List.append_nil]
    | cons first before =>
        obtain rfl := (List.cons.inj split).1
        exact absurd kind (passed _ List.mem_cons_self own)

/-- A walk over the events that keeps the run's frames and stops at the first other event or
at the run's verdict says what it says there. -/
theorem atVerdict_iff {walk : List Event → List Frame → Prop} (nil : ∀ seen, walk [] seen)
    (pending : ∀ events seen, walk (.pending :: events) seen)
    (damaged : ∀ guessed reason events seen, walk (.damaged guessed reason :: events) seen)
    (verdict : ∀ final events seen, final.run = runText → final.kind = ascii "verdict" →
      (walk (.frame final :: events) seen ↔ holds final seen))
    (mine : ∀ frame events seen, frame.run = runText → frame.kind ≠ ascii "verdict" →
      (walk (.frame frame :: events) seen ↔ walk events (seen ++ [frame])))
    (other : ∀ frame events seen, frame.run ≠ runText →
      (walk (.frame frame :: events) seen ↔ walk events seen)) :
    walk events seen ↔ AtVerdict runText holds events seen := by
  induction events generalizing seen with
  | nil =>
      refine iff_of_true (nil seen) ?_
      intro before final after split
      cases before <;> cases split
  | cons event events ih =>
      cases event with
      | pending =>
          exact iff_of_true (pending ..) (atVerdict_of_stop (by simp) fun _ => rfl)
      | damaged guessed reason =>
          exact iff_of_true (damaged ..)
            (atVerdict_of_stop (by simp) fun impossible => impossible.elim)
      | frame frame =>
          by_cases own : frame.run = runText
          · by_cases kind : frame.kind = ascii "verdict"
            · rw [verdict frame events seen own kind, atVerdict_verdict_iff own kind]
            · have ownFrames : runFrames runText [.frame frame] = [frame] := by
                simp [runFrames, ownFrame, own]
              rw [mine frame events seen own kind, ih, atVerdict_cons_iff (fun _ => kind),
                ownFrames]
          · have noFrames : runFrames runText [.frame frame] = [] := by
              simp [runFrames, ownFrame, own]
            rw [other frame events seen own, ih, atVerdict_cons_iff (fun same => absurd same own),
              noFrames, List.append_nil]

end Walks

/-! ## Open frames are last -/

theorem pending_not_mem_step (c : UInt8) (state : State) : Event.pending ∉ (step c state).1 := by
  have closedBody (body : Bytes) : close body ≠ .pending := by
    rw [close]
    split <;> simp
  cases state with
  | outside matched =>
      rw [step]
      split <;> simp
  | inside body after =>
      cases after with
      | plain =>
          rw [step]
          split
          · simp
          · split <;> simp
      | atSign =>
          rw [step]
          split
          · simp
          · split
            · simpa using (closedBody body).symm
            · simp

theorem pending_not_mem_trace (bytes : Bytes) (state : State) :
    Event.pending ∉ reader.trace state bytes := by
  induction bytes generalizing state with
  | nil => exact List.not_mem_nil
  | cons c bytes ih =>
      rw [Transducer.trace_cons, List.mem_append, not_or]
      exact ⟨pending_not_mem_step c state, ih _⟩

theorem pending_not_mem_before {log : Bytes} {before after : List Event} {frame : Frame}
    (split : collect log = before ++ .frame frame :: after) : Event.pending ∉ before := by
  intro member
  have inInit : Event.pending ∈ (collect log).dropLast := by
    rw [split, List.dropLast_append_of_ne_nil (List.cons_ne_nil _ _)]
    exact List.mem_append_left _ member
  have traced : Event.pending ∈ reader.trace (.outside 0) log := by
    rw [collect_eq] at inInit
    cases reached : reader.after (.outside 0) log with
    | outside matched =>
        rw [reached, finish, List.append_nil] at inInit
        exact List.mem_of_mem_dropLast inInit
    | inside body after =>
        rw [reached, finish, List.dropLast_concat] at inInit
        exact inInit
  exact pending_not_mem_trace log _ traced

theorem observe_eq_ok_iff {log : Bytes} {runName : RunName} {outcome : Verdict} :
    observe log runName = .ok outcome ↔
      isRun runName.bytes = true ∧ outcome = decideEvents (collect log) runName.bytes [] := by
  simp only [observe, Fallible.bind_eq_ok_iff, Fallible.pure_eq_ok_iff, run_eq_ok_iff]
  constructor
  · rintro ⟨runText, ⟨validRun, rfl⟩, decided⟩
    exact ⟨validRun, decided⟩
  · rintro ⟨validRun, decided⟩
    exact ⟨_, ⟨validRun, rfl⟩, decided⟩

/-- A run passes exactly when it arrived whole before anything damaged. -/
theorem observe_pass_iff {log : Bytes} {runName : RunName} {frames : List Frame}
    {unexpected : Nat} :
    observe log runName = .ok (.pass frames unexpected) ↔
      isRun runName.bytes = true ∧ Arrived runName.bytes frames unexpected (collect log) := by
  rw [observe_eq_ok_iff]
  refine and_congr_right fun _ => ?_
  constructor
  · intro passes
    obtain ⟨before, final, after, split, passed, own, kind, decided⟩ :=
      decideEvents_pass passes.symm
    rw [List.reverse_nil, List.nil_append, verdict_eq_pass_iff] at decided
    obtain ⟨counted, others, order, rfl⟩ := decided
    exact ⟨before, final, after, split, passed, own, kind, rfl, order, counted, others⟩
  · rintro ⟨before, final, after, split, arrived⟩
    have closed := pending_not_mem_before split
    rw [split, decideEvents_append arrived.passed closed,
      decideEvents_verdict arrived.own arrived.kind, List.append_nil, List.reverse_reverse,
      arrived.arrived]
    exact (verdict_eq_pass_iff.mpr
      ⟨arrived.counted, arrived.unexpected, arrived.order, rfl⟩).symm

/-! ## Deleted frames -/

section Deleted

variable (format : Term → Bytes)

/-- The printed frames of a run without those of the deleted numbers. -/
def keep (deleted : Finset Nat) (frames : List Bytes) : List Bytes :=
  (frames.zipIdx.filter fun frame => frame.2 ∉ deleted).map Prod.fst

/-- The entries of a run that are left. -/
def kept (deleted : Finset Nat) (records : List Record) (unexpected : Nat) :
    List (Record × Nat) :=
  (numbered records unexpected).filter fun entry => entry.2 ∉ deleted

/-- The deleted numbers of a run, in order. -/
def missing (count : Nat) (deleted : Finset Nat) : List Nat :=
  (List.range count).filter fun n => n ∈ deleted

theorem keep_map_zipIdx {α : Type} (deleted : Finset Nat) (items : List α)
    (printed : α × Nat → Bytes) :
    keep deleted (items.zipIdx.map printed) =
      (items.zipIdx.filter fun entry => entry.2 ∉ deleted).map printed := by
  have offset (start : Nat) :
      (((items.zipIdx start).map printed).zipIdx start).filter (fun frame => frame.2 ∉ deleted) =
        ((items.zipIdx start).filter fun entry => entry.2 ∉ deleted).map
          fun entry => (printed entry, entry.2) := by
    induction items generalizing start with
    | nil => rfl
    | cons item items ih =>
        have tail := ih (start + 1)
        by_cases member : start ∈ deleted
        · simpa [List.zipIdx_cons, member] using tail
        · simpa [List.zipIdx_cons, member] using tail
  rw [keep, offset, List.map_map]
  rfl

theorem kept_eq {deleted : Finset Nat} {records : List Record} {unexpected : Nat}
    (inRecords : deleted ⊆ Finset.range records.length) :
    kept deleted records unexpected =
      (records.zipIdx.filter fun entry => entry.2 ∉ deleted) ++
        [(verdictRecord records.length unexpected, records.length)] := by
  have verdictKept : records.length ∉ deleted := fun member =>
    absurd (Finset.mem_range.mp (inRecords member)) (Nat.lt_irrefl _)
  rw [kept, numbered_eq, List.filter_append]
  simp [verdictKept]

/-- The events of what is left of a run. -/
theorem collect_keep {runName : RunName} {records : List Record} {unexpected : Nat}
    {frames : List Bytes} (encoded : encodeRun format runName records unexpected = .ok frames)
    (deleted : Finset Nat) :
    collect (keep deleted frames).flatten = (kept deleted records unexpected).map fun entry =>
      frameEvent format runName.bytes entry.2 entry.1 := by
  obtain ⟨validRun, accepted, rfl⟩ := (encodeRun_eq_ok_iff format).mp encoded
  rw [numbered, keep_map_zipIdx]
  exact (reads_frames format validRun fun entry member =>
    accepted entry (List.mem_of_mem_filter member)).collect

/-- The first frame out of reach decides, and reports damage. -/
theorem decideEvents_damaged {runText : Bytes} {entries : List (Record × Nat)}
    {verdictEntry : Record × Nat}
    (kinds : ∀ entry ∈ entries, atomToBinary entry.1.kind ≠ ascii "verdict")
    (unreadable : ¬ ∀ entry ∈ entries ++ [verdictEntry],
      Readable format runText entry.2 entry.1) (seen : List Frame) :
    ∃ reason, decideEvents ((entries ++ [verdictEntry]).map fun entry =>
      frameEvent format runText entry.2 entry.1) runText seen = .damaged runText reason := by
  induction entries generalizing seen with
  | nil =>
      rw [List.nil_append, List.forall_mem_singleton] at unreadable
      obtain ⟨reason, damaged⟩ := frameEvent_of_not_readable format unreadable
      refine ⟨reason, ?_⟩
      rw [List.nil_append, List.map_singleton, damaged]
      rfl
  | cons entry entries ih =>
      rw [List.cons_append, List.map_cons]
      by_cases readable : Readable format runText entry.2 entry.1
      · have rest : ¬ ∀ entry ∈ entries ++ [verdictEntry],
            Readable format runText entry.2 entry.1 := fun all =>
          unreadable (List.forall_mem_cons.mpr ⟨readable, all⟩)
        obtain ⟨kind, others⟩ := List.forall_mem_cons.mp kinds
        rw [frameEvent_of_readable format readable, decideEvents,
          if_pos (show (frameOf format runText entry.2 entry.1).run = runText from rfl),
          if_neg (show (frameOf format runText entry.2 entry.1).kind ≠ _ from kind)]
        exact ih others rest _
      · obtain ⟨reason, damaged⟩ := frameEvent_of_not_readable format readable
        exact ⟨reason, by rw [damaged]; rfl⟩

/-- What is left of the run is within reach of the reader, and so is the count
of its verdict, unless nothing of the run is left to be told apart. -/
structure ReadableRest (runText : Bytes) (records : List Record) (unexpected : Nat)
    (deleted : Finset Nat) : Prop where
  belowCap : ∀ entry ∈ kept deleted records unexpected,
    leadWidth format runText entry.2 entry.1 ≠ 1002
  number : records.length < 10 ^ 10
  vouched : unexpected < 10 ^ 10 ∨ deleted = Finset.range records.length

theorem readable_kept_iff {runText : Bytes} {records : List Record} {unexpected : Nat}
    {deleted : Finset Nat} (inRecords : deleted ⊆ Finset.range records.length) :
    (∀ entry ∈ kept deleted records unexpected, Readable format runText entry.2 entry.1) ↔
      (∀ entry ∈ kept deleted records unexpected,
        leadWidth format runText entry.2 entry.1 ≠ 1002) ∧ records.length < 10 ^ 10 := by
  constructor
  · intro readable
    have last : (verdictRecord records.length unexpected, records.length) ∈
        kept deleted records unexpected := by
      rw [kept_eq inRecords]
      exact List.mem_append_right _ (List.mem_singleton.mpr rfl)
    exact ⟨fun entry member => (readable entry member).belowCap, (readable _ last).number⟩
  · rintro ⟨belowCap, number⟩ entry member
    have bound := number_lt_of_mem_numbered (List.mem_of_mem_filter member)
    exact ⟨belowCap entry member, Nat.lt_of_le_of_lt bound number⟩

theorem count_frames (runText : Bytes) (counted unexpected : Nat) :
    count (verdictFrame runText counted unexpected).fields (ascii "frames") =
      digits (Decimal.write counted) := by
  simp [count, verdictFrame]

theorem count_unexpected (runText : Bytes) (counted unexpected : Nat) :
    count (verdictFrame runText counted unexpected).fields (ascii "unexpected") =
      digits (Decimal.write unexpected) := by
  have apart : (ascii "unexpected" == ascii "frames") = false := by decide
  simp [count, verdictFrame, List.lookup_cons, apart]

theorem map_snd_zipIdx_filter {α : Type} (items : List α) (holds : Nat → Bool) :
    (items.zipIdx.filter fun entry => holds entry.2).map Prod.snd =
      (List.range items.length).filter holds := by
  have numbers : items.zipIdx.map Prod.snd = List.range items.length := by
    rw [List.zipIdx_map_snd, List.range_eq_range']
  rw [← numbers, List.filter_map]
  rfl

/-- Taking the numbers that are left from all numbers leaves the deleted ones. -/
theorem diff_kept (count : Nat) (deleted : Finset Nat) :
    (List.range count).diff ((List.range count).filter fun n => n ∉ deleted) =
      missing count deleted := by
  rw [List.nodup_range.sdiff_eq_filter, missing]
  refine List.filter_congr fun n member => ?_
  rw [decide_eq_decide, List.mem_filter, decide_eq_true_eq, not_and, not_not]
  exact ⟨fun removed => removed member, fun inDeleted _ => inDeleted⟩

theorem missing_eq_range_iff {count : Nat} {deleted : Finset Nat}
    (inRange : deleted ⊆ Finset.range count) :
    missing count deleted = List.range count ↔ deleted = Finset.range count := by
  rw [missing, List.filter_eq_self]
  constructor
  · intro all
    refine Finset.Subset.antisymm inRange fun n member => ?_
    exact of_decide_eq_true (all n (List.mem_range.mpr (Finset.mem_range.mp member)))
  · rintro rfl n member
    exact decide_eq_true (Finset.mem_range.mpr (List.mem_range.mp member))

/-- With every frame left in reach, the verdict decides. -/
theorem decideEvents_kept {runText : Bytes} {records : List Record} {unexpected : Nat}
    {deleted : Finset Nat} (inRecords : deleted ⊆ Finset.range records.length)
    (kinds : ∀ record ∈ records, atomToBinary record.kind ≠ ascii "verdict")
    (readable : ∀ entry ∈ kept deleted records unexpected,
      Readable format runText entry.2 entry.1) :
    decideEvents ((kept deleted records unexpected).map fun entry =>
        frameEvent format runText entry.2 entry.1) runText [] =
      verdict (verdictFrame runText records.length unexpected) runText
        ((records.zipIdx.filter fun entry => entry.2 ∉ deleted).map fun entry =>
          frameOf format runText entry.2 entry.1) := by
  set left := records.zipIdx.filter fun entry => entry.2 ∉ deleted with leftDef
  have events : (kept deleted records unexpected).map
      (fun entry => frameEvent format runText entry.2 entry.1) =
      (left.map fun entry => Event.frame (frameOf format runText entry.2 entry.1)) ++
        [.frame (verdictFrame runText records.length unexpected)] := by
    have read : ∀ entry ∈ kept deleted records unexpected,
        frameEvent format runText entry.2 entry.1 =
          .frame (frameOf format runText entry.2 entry.1) := fun entry member =>
      frameEvent_of_readable format (readable entry member)
    rw [List.map_congr_left read, kept_eq inRecords, List.map_append, List.map_singleton,
      frameOf_verdictRecord]
  have passed : ∀ event ∈ left.map fun entry =>
      Event.frame (frameOf format runText entry.2 entry.1), PassedOver runText event := by
    intro event member
    obtain ⟨entry, inLeft, rfl⟩ := List.mem_map.mp member
    exact fun _ => kinds entry.1 (List.fst_mem_of_mem_zipIdx (List.mem_of_mem_filter inLeft))
  have closed : Event.pending ∉ left.map fun entry =>
      Event.frame (frameOf format runText entry.2 entry.1) := by
    simp
  have frames : runFrames runText (left.map fun entry =>
      Event.frame (frameOf format runText entry.2 entry.1)) =
      left.map fun entry => frameOf format runText entry.2 entry.1 := by
    rw [runFrames, List.filterMap_map]
    exact List.filterMap_eq_map_iff_forall_eq_some.mpr fun entry _ => if_pos rfl
  have own : (verdictFrame runText records.length unexpected).run = runText := rfl
  rw [events, decideEvents_append passed closed, frames, decideEvents_verdict own rfl,
    List.append_nil, List.reverse_reverse]

/-- What the verdict says of the frames that are left. -/
theorem verdict_kept {runText : Bytes} {records : List Record} {unexpected : Nat}
    {deleted : Finset Nat} (inRecords : deleted ⊆ Finset.range records.length)
    (some : deleted.Nonempty) (number : records.length < 10 ^ 10) :
    verdict (verdictFrame runText records.length unexpected) runText
        ((records.zipIdx.filter fun entry => entry.2 ∉ deleted).map fun entry =>
          frameOf format runText entry.2 entry.1) =
      .lost runText (if unexpected < 10 ^ 10 then missing records.length deleted
        else List.range records.length) := by
  have got : ((records.zipIdx.filter fun entry => entry.2 ∉ deleted).map fun entry =>
      frameOf format runText entry.2 entry.1).map Frame.n =
      (List.range records.length).filter fun n => n ∉ deleted := by
    rw [List.map_map, ← map_snd_zipIdx_filter records fun n => decide (n ∉ deleted)]
    rfl
  have incomplete : ((List.range records.length).filter fun n => n ∉ deleted) ≠
      List.range records.length := by
    obtain ⟨n, member⟩ := some
    intro same
    have all := List.filter_eq_self.mp same n
      (List.mem_range.mpr (Finset.mem_range.mp (inRecords member)))
    exact of_decide_eq_true all member
  have counted : (verdictFrame runText records.length unexpected).n = records.length := rfl
  rw [verdict, count_frames, count_unexpected, digits_write, digits_write, if_pos number, got,
    counted]
  by_cases small : unexpected < 10 ^ 10
  · simp only [if_pos small]
    rw [if_pos trivial, if_neg incomplete, diff_kept]
  · simp only [if_neg small]

/-- A run with frames deleted is lost with the deleted numbers exactly when what
is left of it is within reach of the reader. -/
theorem observe_deleted_iff {runName : RunName} {records : List Record} {unexpected : Nat}
    {frames : List Bytes} {deleted : Finset Nat}
    (encoded : encodeRun format runName records unexpected = .ok frames)
    (kinds : ∀ record ∈ records, atomToBinary record.kind ≠ ascii "verdict")
    (inRecords : deleted ⊆ Finset.range records.length) (some : deleted.Nonempty) :
    observe (keep deleted frames).flatten runName =
        .ok (.lost runName.bytes (missing records.length deleted)) ↔
      ReadableRest format runName.bytes records unexpected deleted := by
  have validRun := ((encodeRun_eq_ok_iff format).mp encoded).1
  rw [observe_eq_ok_iff, collect_keep format encoded, and_iff_right validRun]
  by_cases readable : ∀ entry ∈ kept deleted records unexpected,
      Readable format runName.bytes entry.2 entry.1
  · obtain ⟨belowCap, number⟩ := (readable_kept_iff format inRecords).mp readable
    rw [decideEvents_kept format inRecords kinds readable,
      verdict_kept format inRecords some number, Verdict.lost.injEq, and_iff_right rfl]
    have same := missing_eq_range_iff inRecords
    constructor
    · intro told
      refine ⟨belowCap, number, ?_⟩
      by_cases small : unexpected < 10 ^ 10
      · exact Or.inl small
      · rw [if_neg small, same] at told
        exact Or.inr told
    · intro rest
      by_cases small : unexpected < 10 ^ 10
      · rw [if_pos small]
      · rw [if_neg small, same]
        exact rest.vouched.resolve_left small
  · have unreadable := readable
    rw [kept_eq inRecords] at unreadable
    obtain ⟨reason, damaged⟩ := decideEvents_damaged format
      (fun entry member =>
        kinds entry.1 (List.fst_mem_of_mem_zipIdx (List.mem_of_mem_filter member)))
      unreadable []
    rw [kept_eq inRecords, damaged]
    constructor
    · intro told
      cases told
    · intro rest
      exact absurd ((readable_kept_iff format inRecords).mpr ⟨rest.belowCap, rest.number⟩) readable

/-- `observe` passes a run exactly when it arrived whole, and tells which frames
of a clean run were deleted exactly when it can read what is left. -/
theorem observe_sound_and_complete :
    (∀ (log : Bytes) (runName : RunName) (frames : List Frame) (unexpected : Nat),
      observe log runName = .ok (.pass frames unexpected) ↔
        isRun runName.bytes = true ∧ Arrived runName.bytes frames unexpected (collect log)) ∧
    ∀ (runName : RunName) (records : List Record) (unexpected : Nat) (frames : List Bytes)
      (deleted : Finset Nat),
      encodeRun format runName records unexpected = .ok frames →
      (∀ record ∈ records, atomToBinary record.kind ≠ ascii "verdict") →
      deleted ⊆ Finset.range records.length → deleted.Nonempty →
        (observe (keep deleted frames).flatten runName =
            .ok (.lost runName.bytes (missing records.length deleted)) ↔
          ReadableRest format runName.bytes records unexpected deleted) :=
  ⟨fun _ _ _ _ => observe_pass_iff, fun _ _ _ _ _ => observe_deleted_iff format⟩

theorem observe_sound_and_complete_sample :
    observe (keep {0} sampleFrames).flatten (.binary (ascii "A")) =
        .ok (.lost (ascii "A") (missing 1 {0})) ↔
      ReadableRest (fun _ => []) (ascii "A") [sampleRecord (.integer 1)] 0 {0} :=
  (observe_sound_and_complete fun _ => []).2 (.binary (ascii "A")) [sampleRecord (.integer 1)] 0
    sampleFrames {0} encodeRun_sampleFrames (by decide) (by decide) (by decide)

/-- Deleting the first of two records, the second of which fills its body, is
reported as damage. -/
theorem observe_deleted_full_body :
    ∃ frames,
      encodeRun (fun _ => []) (.binary (ascii "A")) [sampleRecord (.integer 1), fullRecord] 0 =
        .ok frames ∧
      observe (keep {0} frames).flatten (.binary (ascii "A")) ≠
        .ok (.lost (ascii "A") (missing 2 {0})) := by
  have entries : numbered [sampleRecord (.integer 1), fullRecord] 0 =
      [(sampleRecord (.integer 1), 0), (fullRecord, 1), (verdictRecord 2 0, 2)] := rfl
  have full : leadWidth (fun _ => []) (ascii "A") 1 fullRecord = 1002 := by decide +kernel
  have accepted : ∀ entry ∈ numbered [sampleRecord (.integer 1), fullRecord] 0,
      Accepted (fun _ => []) (ascii "A") entry.2 entry.1 := by
    rw [entries]
    refine List.forall_mem_cons.mpr ⟨?_, List.forall_mem_cons.mpr
      ⟨?_, List.forall_mem_singleton.mpr ?_⟩⟩
    · exact (accepted_iff _).mpr ⟨by decide +kernel, by decide +kernel⟩
    · exact (accepted_iff _).mpr ⟨by decide +kernel, le_of_eq full⟩
    · exact (accepted_iff _).mpr ⟨by decide +kernel, by decide +kernel⟩
  have encoded := (encodeRun_eq_ok_iff (fun _ => [])).mpr
    ⟨(by decide : isRun (RunName.binary (ascii "A")).bytes = true), accepted, rfl⟩
  have left : kept {0} [sampleRecord (.integer 1), fullRecord] 0 =
      [(fullRecord, 1), (verdictRecord 2 0, 2)] := rfl
  have lost : frameEvent (fun _ => []) (ascii "A") 1 fullRecord =
      .damaged (ascii "A") .oversize := if_pos full
  refine ⟨_, encoded, fun told => ?_⟩
  have decided := (observe_eq_ok_iff.mp told).2
  rw [collect_keep _ encoded, left, List.map_cons, RunName.bytes, lost] at decided
  cases decided

end Deleted

end Chrysopolis.Framing
