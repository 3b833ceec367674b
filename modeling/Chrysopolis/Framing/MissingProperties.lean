import Chrysopolis.Framing.PythonProperties

/-! How many missing numbers a verdict frame makes the readers list. The number is the
verdict's own, so the size of the log bounds it only when the log's frames do. -/

set_option autoImplicit false

namespace Chrysopolis.Framing

open Chrysopolis.Support

/-- The numbers below the verdict's that the run's frames before it carry. -/
def arrivedNumbers (final : Frame) (seen : List Frame) : Finset Nat :=
  (seen.map Frame.n).toFinset.filter (· < final.n)

/-- The verdict's number exceeds the size of the log by no more than the frames it vouches
for have covered. -/
def Justified (vouched : Frame → Bool) (size : Nat) (final : Frame) (seen : List Frame) : Prop :=
  final.n ≤ size + if vouched final then (arrivedNumbers final seen).card else 0

/-- The Erlang reader takes a verdict's count when both its fields read. -/
def vouchedBoth (final : Frame) : Bool :=
  count final.fields (ascii "frames") = some final.n &&
    (count final.fields (ascii "unexpected")).isSome

/-- The Python reader takes it whatever the other field says, and takes the last one. -/
def vouchedLast (final : Frame) : Bool :=
  count final.fields.reverse (ascii "frames") = some final.n

/-- The numbers a vouched verdict misses are the ones that have not arrived. -/
theorem length_diff_add_card (final : Frame) (seen : List Frame) :
    ((List.range final.n).diff (seen.map Frame.n)).length + (arrivedNumbers final seen).card =
      final.n := by
  set got := seen.map Frame.n
  have missing : (List.range final.n).diff got =
      (List.range final.n).filter fun n => decide (n ∉ got) :=
    List.nodup_range.sdiff_eq_filter
  have arrived : (arrivedNumbers final seen).card =
      ((List.range final.n).filter fun n => decide (n ∈ got)).length := by
    rw [← List.toFinset_card_of_nodup (List.nodup_range.filter _)]
    congr 1
    ext n
    simp [arrivedNumbers, got, and_comm]
  have split := List.length_eq_length_filter_add (l := List.range final.n)
    (fun n => decide (n ∈ got))
  rw [List.length_range] at split
  rw [missing, arrived]
  simp only [decide_not] at split ⊢
  omega

section Verdicts

variable {final : Frame} {runText : Bytes} {seen : List Frame} {size : Nat}

theorem verdict_justified_iff :
    (∀ text missing, verdict final runText seen = .lost text missing →
        missing.length ≤ size) ↔ Justified vouchedBoth size final seen := by
  have counted := length_diff_add_card final seen
  by_cases vouched : vouchedBoth final = true
  · rw [Justified, if_pos vouched]
    simp only [vouchedBoth, Bool.and_eq_true, decide_eq_true_eq] at vouched
    obtain ⟨unexpected, reads⟩ := Option.isSome_iff_exists.mp vouched.2
    rw [Python.erlang_vouched vouched.1 reads]
    by_cases whole : seen.map Frame.n = List.range final.n
    · rw [if_pos whole]
      have none : (List.range final.n).diff (List.range final.n) = [] := by
        rw [List.nodup_range.sdiff_eq_filter]
        exact List.filter_eq_nil_iff.mpr (by simp)
      rw [whole, none, List.length_nil] at counted
      exact iff_of_true nofun (by omega)
    · rw [if_neg whole]
      simp only [Verdict.lost.injEq, and_imp, forall_apply_eq_imp_iff, forall_eq']
      omega
  · rw [Justified, if_neg vouched]
    simp only [vouchedBoth, Bool.and_eq_true, decide_eq_true_eq] at vouched
    rw [Python.erlang_refused vouched]
    simp only [Verdict.lost.injEq, and_imp, forall_apply_eq_imp_iff, forall_eq']
    rw [List.length_range, Nat.add_zero]

theorem python_justified_iff :
    (∀ missing, Python.verdict final runText seen =
        .fail .lost runText (Python.missingText missing) → missing.length ≤ size) ↔
      Justified vouchedLast size final seen := by
  have counted := length_diff_add_card final seen
  have only {listed : List Nat} :
      (∀ missing, Python.Outcome.fail .lost runText (Python.missingText listed) =
          .fail .lost runText (Python.missingText missing) → missing.length ≤ size) ↔
        listed.length ≤ size := by
    constructor
    · exact fun bounded => bounded listed rfl
    · intro bounded missing same
      rwa [← Python.missingText_injective (Python.Outcome.fail.inj same).2.2]
  by_cases vouched : vouchedLast final = true
  · rw [Justified, if_pos vouched]
    simp only [vouchedLast, decide_eq_true_eq] at vouched
    cases reads : count final.fields.reverse (ascii "unexpected") with
    | none =>
        rw [Python.python_counted vouched reads, only]
        omega
    | some unexpected =>
        rw [Python.python_vouched vouched reads]
        by_cases whole : seen.map Frame.n = List.range final.n
        · rw [if_pos whole]
          refine iff_of_true nofun ?_
          have none : (List.range final.n).diff (List.range final.n) = [] := by
            rw [List.nodup_range.sdiff_eq_filter]
            exact List.filter_eq_nil_iff.mpr (by simp)
          rw [whole, none, List.length_nil] at counted
          omega
        · rw [if_neg whole, only]
          omega
  · rw [Justified, if_neg vouched]
    simp only [vouchedLast, decide_eq_true_eq] at vouched
    rw [Python.python_refused vouched, only, List.length_range, Nat.add_zero]

end Verdicts

/-! ## Whole logs -/

/-- What a walk has seen, newest first, and one frame more. -/
theorem cons_reverse (frame : Frame) (seen : List Frame) :
    frame :: seen.reverse = (seen ++ [frame]).reverse := by simp

variable (runText : Bytes) (size : Nat) (events : List Event) (seen : List Frame)

theorem decideEvents_justified_iff :
    (∀ text missing, decideEvents events runText seen.reverse = .lost text missing →
        missing.length ≤ size) ↔
      AtVerdict runText (Justified vouchedBoth size) events seen := by
  refine @atVerdict_iff runText _ events seen
    (fun events seen => ∀ text missing, decideEvents events runText seen.reverse =
      .lost text missing → missing.length ≤ size)
    (fun _ => nofun) (fun _ _ => nofun) (fun _ _ _ _ => nofun) ?_ ?_ ?_
  · intro final events seen own kind
    rw [decideEvents, if_pos own, if_pos kind, List.reverse_reverse]
    exact verdict_justified_iff
  · intro frame events seen own kind
    rw [decideEvents, if_pos own, if_neg kind, cons_reverse]
  · intro frame events seen own
    rw [decideEvents, if_neg own]

theorem observeFrom_justified_iff :
    (∀ missing, Python.observeFrom runText seen events =
        .fail .lost runText (Python.missingText missing) → missing.length ≤ size) ↔
      AtVerdict runText (Justified vouchedLast size) events seen := by
  refine @atVerdict_iff runText _ events seen
    (fun events seen => ∀ missing, Python.observeFrom runText seen events =
      .fail .lost runText (Python.missingText missing) → missing.length ≤ size)
    (fun _ => nofun) (fun _ _ => nofun) (fun _ _ _ _ => nofun) ?_ ?_ ?_
  · intro final events seen own kind
    rw [Python.observeFrom, if_pos ⟨kind, own⟩]
    exact python_justified_iff
  · intro frame events seen own kind
    rw [Python.observeFrom, if_neg (fun both => kind both.1), if_pos own]
  · intro frame events seen own
    rw [Python.observeFrom, if_neg (fun both => own both.2), if_neg own]

/-- Each reader's list of missing numbers is within the size of the log exactly when the
verdict that decides the run is justified by the size and by the frames before it. -/
theorem observe_missing_iff (log : Bytes) (runName : RunName) :
    ((∀ text missing, observe log runName = .ok (.lost text missing) →
        missing.length ≤ log.length) ↔
      (isRun runName.bytes = true →
        AtVerdict runName.bytes (Justified vouchedBoth log.length) (collect log) [])) ∧
    ((∀ missing, Python.observe (Python.collect log) runName.bytes =
        .fail .lost runName.bytes (Python.missingText missing) →
          missing.length ≤ log.length) ↔
      AtVerdict runName.bytes (Justified vouchedLast log.length) (collect log) []) := by
  constructor
  · rw [← decideEvents_justified_iff]
    simp only [observe_eq_ok_iff]
    constructor
    · intro bounded validRun text missing lost
      exact bounded text missing ⟨validRun, lost.symm⟩
    · rintro bounded text missing ⟨validRun, lost⟩
      exact bounded validRun text missing lost.symm
  · rw [Python.collect_eq]
    exact observeFrom_justified_iff runName.bytes log.length (collect log) []

/-- A log of 86 bytes whose only frame is a verdict over ten thousand million frames. -/
def forgedLog : Bytes :=
  ascii "@@CHRYSO|A|n=9999999999|k=verdict|frames=9999999999|unexpected=0|len=55|crc=2267d467@@"

def forgedVerdict : Frame :=
  ⟨ascii "A", 9999999999, ascii "verdict",
    [(ascii "frames", ascii "9999999999"), (ascii "unexpected", ascii "0")]⟩

theorem not_justified_forgedVerdict (vouched : Frame → Bool) :
    ¬ AtVerdict (ascii "A") (Justified vouched 86) [.frame forgedVerdict] [] := by
  rw [atVerdict_verdict_iff (by decide) (by decide), Justified]
  simp [arrivedNumbers, forgedVerdict]

theorem observe_forgedLog :
    (¬ ∀ text missing, observe forgedLog (.binary (ascii "A")) = .ok (.lost text missing) →
        missing.length ≤ forgedLog.length) ∧
      ¬ ∀ missing, Python.observe (Python.collect forgedLog) (ascii "A") =
        .fail .lost (ascii "A") (Python.missingText missing) →
          missing.length ≤ forgedLog.length := by
  have read : collect forgedLog = [.frame forgedVerdict] := by decide +kernel
  have size : forgedLog.length = 86 := by decide
  constructor
  · intro bounded
    have justified := (decideEvents_justified_iff (ascii "A") 86 (collect forgedLog) []).mp
      fun text missing lost => size ▸ bounded text missing
        (observe_eq_ok_iff.mpr ⟨by decide, lost.symm⟩)
    rw [read] at justified
    exact not_justified_forgedVerdict _ justified
  · rw [Python.collect_eq]
    intro bounded
    have justified := (observeFrom_justified_iff (ascii "A") 86 (collect forgedLog) []).mp
      fun missing lost => size ▸ bounded missing lost
    rw [read] at justified
    exact not_justified_forgedVerdict _ justified

end Chrysopolis.Framing
