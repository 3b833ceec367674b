import Chrysopolis.Testbed.CrashStateProperties
import Chrysopolis.Testbed.Crashcheck

/-! What a crash may leave of a file shrinks as more is stable and grows as more is in flight,
and what it must keep is the last write that finished ok. -/

set_option autoImplicit false

namespace Chrysopolis.Testbed.Crashcheck

open Faults

variable {stable crash : Nat} {files : Files} {f : FileNumber} {span : Span}

/-! ### Contents -/

/-- `wide` allows everything `narrow` does. -/
def Covers (wide narrow : May) : Prop :=
  ∀ contents, wide = some contents → ∃ fewer, narrow = some fewer ∧ fewer ⊆ contents

theorem Covers.refl (may : May) : Covers may may := fun contents held =>
  ⟨contents, held, Finset.Subset.refl contents⟩

theorem Covers.anything (narrow : May) : Covers none narrow := fun _ => nofun

theorem Covers.inFlight {wide narrow : Files} (covers : Covers (wide.get f) (narrow.get f))
    (seed : Fin 256) : Covers (inFlight wide f seed) (inFlight narrow f seed) := by
  intro contents held
  obtain ⟨before, was, rfl⟩ := Option.map_eq_some_iff.mp held
  obtain ⟨fewer, less, within⟩ := covers before was
  have unchanged : Crashcheck.inFlight narrow f seed = some (fewer ∪ {.empty, .seed seed}) := by
    rw [Crashcheck.inFlight, less, Option.map_some]
  exact ⟨_, unchanged, Finset.union_subset_union_left within⟩

theorem Covers.inFlight_of_get {wide : Files} {narrow : May} (covers : Covers (wide.get f) narrow)
    (seed : Fin 256) : Covers (Crashcheck.inFlight wide f seed) narrow := by
  intro contents held
  obtain ⟨before, was, rfl⟩ := Option.map_eq_some_iff.mp held
  obtain ⟨fewer, less, within⟩ := covers before was
  exact ⟨fewer, less, within.trans Finset.subset_union_left⟩

theorem Covers.inFlight_seed (wide : Files) (seed : Fin 256) :
    Covers (Crashcheck.inFlight wide f seed) (some {.seed seed}) := by
  intro contents held
  obtain ⟨before, -, rfl⟩ := Option.map_eq_some_iff.mp held
  exact ⟨_, rfl, by simp⟩

/-! ### The fold over the spans -/

/-- The file a step writes, and the seed. -/
def written : Faults.Step → Option (FileNumber × Fin 256)
  | .storage (.put f seed) => some (f, seed)
  | .crashPut f seed _ => some (f, seed)
  | _ => none

/-- The span of a finished put is not empty. -/
def Span.TakesSpace (span : Span) : Prop :=
  ∀ f seed, span.step = .storage (.put f seed) → span.start < span.stop

/-- What one turn leaves of a file. -/
inductive Turn (stable crash : Nat) (files : Files) (span : Span) (f : FileNumber) :
    Option May → Prop where
  | skipped (other : crash ≤ span.start ∨ ∀ seed, written span.step ≠ some (f, seed)) :
      Turn stable crash files span f (files f)
  | failed {seed : Fin 256} (started : span.start < crash)
      (put : span.step = .storage (.put f seed)) (failure : span.outcome ≠ .status .ok) :
      Turn stable crash files span f (some none)
  | finished {seed : Fin 256} (started : span.start < crash)
      (put : span.step = .storage (.put f seed)) (ok : span.outcome = .status .ok)
      (kept : span.stop ≤ stable) :
      Turn stable crash files span f (some (some {.seed seed}))
  | cut {seed : Fin 256} (started : span.start < crash)
      (writes : written span.step = some (f, seed))
      (late : ∀ seed, span.step = .storage (.put f seed) →
        span.outcome = .status .ok ∧ stable < span.stop) :
      Turn stable crash files span f (some (inFlight files f seed))

theorem allowSpan_turn (stable crash : Nat) (files : Files) (span : Span) (f : FileNumber) :
    Turn stable crash files span f (allowSpan stable crash files span f) := by
  obtain ⟨step, outcome, start, stop⟩ := span
  unfold allowSpan
  by_cases started : start ≥ crash
  · rw [if_pos started]
    exact .skipped (.inl started)
  rw [if_neg started]
  have started : start < crash := Nat.lt_of_not_ge started
  have unwritten (step : Faults.Step) (other : ∀ seed, written step ≠ some (f, seed)) :
      Turn stable crash files ⟨step, outcome, start, stop⟩ f (files f) := .skipped (.inr other)
  cases step with
  | root step => exact unwritten _ fun _ => nofun
  | net step => exact unwritten _ fun _ => nofun
  | reset => exact unwritten _ fun _ => nofun
  | crashPut file seed afterMs =>
      simp only
      by_cases same : f = file
      · subst same
        rw [Function.update_self]
        exact .cut started rfl fun _ => nofun
      · rw [Function.update_of_ne same]
        exact unwritten _ fun _ wrote => same (congrArg Prod.fst (Option.some.inj wrote)).symm
  | storage step =>
      cases step with
      | get file => exact unwritten _ fun _ => nofun
      | arm op region file once => exact unwritten _ fun _ => nofun
      | disarm => exact unwritten _ fun _ => nofun
      | corrupt region file => exact unwritten _ fun _ => nofun
      | put file seed =>
          simp only
          by_cases same : f = file
          · subst same
            by_cases failure : outcome ≠ .status .ok
            · rw [if_pos failure, Function.update_self]
              exact .failed started rfl failure
            rw [if_neg failure]
            have ok := Decidable.of_not_not failure
            by_cases kept : stop ≤ stable
            · rw [if_pos kept, Function.update_self]
              exact .finished started rfl ok kept
            · rw [if_neg kept, Function.update_self]
              exact .cut started rfl fun _ _ => ⟨ok, Nat.lt_of_not_ge kept⟩
          · have other (value : Fin 256) : written (.storage (.put file seed)) ≠ some (f, value) :=
              fun wrote => same (congrArg Prod.fst (Option.some.inj wrote)).symm
            split
            · rw [Function.update_of_ne same]
              exact unwritten _ other
            split <;>
              · rw [Function.update_of_ne same]
                exact unwritten _ other

/-- An earlier stable point and a later crash keep every content that was allowed. -/
theorem allowSpan_covers {less more early late : Nat} {wide narrow : Files}
    (stabler : less ≤ more) (later : early ≤ late) (ordered : more ≤ early)
    (space : span.TakesSpace) (covers : Covers (wide.get f) (narrow.get f)) :
    Covers ((allowSpan less late wide span).get f) ((allowSpan more early narrow span).get f) := by
  have first := allowSpan_turn less late wide span f
  have second := allowSpan_turn more early narrow span f
  unfold Files.get at covers ⊢
  generalize allowSpan less late wide span f = after at first ⊢
  generalize allowSpan more early narrow span f = before at second ⊢
  cases second with
  | skipped other =>
      cases first with
      | skipped => exact covers
      | failed => exact .anything _
      | finished started put ok kept =>
          rcases other with late | unwritten
          · have := space _ _ put
            omega
          · exact absurd (by rw [put]; rfl) (unwritten _)
      | cut => exact covers.inFlight_of_get _
  | failed started put failure =>
      cases first with
      | skipped other =>
          rcases other with past | unwritten
          · omega
          · exact absurd (by rw [put]; rfl) (unwritten _)
      | failed => exact .refl _
      | finished _ _ ok => exact absurd ok failure
      | cut _ _ whole => exact absurd (whole _ put).1 failure
  | finished started put ok kept =>
      cases first with
      | skipped other =>
          rcases other with past | unwritten
          · omega
          · exact absurd (by rw [put]; rfl) (unwritten _)
      | failed => exact .anything _
      | finished _ put' =>
          cases put.symm.trans put'
          exact .refl _
      | cut _ writes =>
          rw [put] at writes
          cases writes
          exact .inFlight_seed _ _
  | cut started writes whole =>
      cases first with
      | skipped other =>
          rcases other with past | unwritten
          · omega
          · exact absurd writes (unwritten _)
      | failed => exact .anything _
      | finished _ put _ kept =>
          have := (whole _ put).2
          omega
      | cut _ writes' =>
          cases writes.symm.trans writes'
          exact covers.inFlight _

theorem allowed_concat (spans : List Span) (last : Span) (stable crash : Nat) :
    allowed (spans ++ [last]) stable (some crash) =
      allowSpan stable crash (allowed spans stable (some crash)) last :=
  List.foldl_concat ..

/-- Over a history of spans. -/
theorem allowed_covers {less more early late : Nat} {spans : List Span} (stabler : less ≤ more)
    (later : early ≤ late) (ordered : more ≤ early) (space : ∀ span ∈ spans, span.TakesSpace)
    (f : FileNumber) :
    Covers ((allowed spans less (some late)).get f) ((allowed spans more (some early)).get f) := by
  induction spans using List.reverseRecOn with
  | nil => exact .refl _
  | append_singleton spans last ih =>
      rw [List.forall_mem_append, List.forall_mem_singleton] at space
      rw [allowed_concat, allowed_concat]
      exact allowSpan_covers stabler later ordered space.2 (ih space.1)

/-! ### What must be kept -/

/-- The last write of the file that started before the crash. -/
def lastWrite (spans : List Span) (crash : Nat) (f : FileNumber) : Option Span :=
  (spans.filter fun span =>
    decide (span.start < crash) && (written span.step).any (·.1 == f)).getLast?

theorem lastWrite_concat_of_writes {spans : List Span} {last : Span} {seed : Fin 256}
    (started : last.start < crash) (writes : written last.step = some (f, seed)) :
    lastWrite (spans ++ [last]) crash f = some last := by
  have chosen : (decide (last.start < crash) && (written last.step).any (·.1 == f)) = true := by
    rw [decide_eq_true started, writes, Option.any_some, beq_self_eq_true, Bool.and_self]
  rw [lastWrite, List.filter_append, List.filter_singleton, chosen, cond_true, List.getLast?_concat]

theorem lastWrite_concat_of_skipped {spans : List Span} {last : Span}
    (other : crash ≤ last.start ∨ ∀ seed, written last.step ≠ some (f, seed)) :
    lastWrite (spans ++ [last]) crash f = lastWrite spans crash f := by
  have passed : (decide (last.start < crash) && (written last.step).any (·.1 == f)) = false := by
    rcases other with past | unwritten
    · rw [decide_eq_false (Nat.not_lt_of_ge past), Bool.false_and]
    · cases wrote : written last.step with
      | none => rw [Option.any_none, Bool.and_false]
      | some write =>
          obtain ⟨file, seed⟩ := write
          have differs : file ≠ f := fun same => unwritten seed (by rw [wrote, same])
          rw [Option.any_some, beq_eq_false_iff_ne.mpr differs, Bool.and_false]
  rw [lastWrite, List.filter_append, List.filter_singleton, passed, cond_false, List.append_nil,
    lastWrite]

/-- The last write that started is a put of the seed that finished ok while it was stable. -/
def Kept (spans : List Span) (stable crash : Nat) (f : FileNumber) (value : Nat) : Prop :=
  ∃ last seed, lastWrite spans crash f = some last ∧ last.step = .storage (.put f seed) ∧
    seed.val = value ∧ last.outcome = .status .ok ∧ last.stop ≤ stable

theorem allowed_singleton_iff (spans : List Span) (stable crash : Nat) (f : FileNumber)
    (value : Nat) :
    allowed spans stable (some crash) f = some (some {.seed value}) ↔
      Kept spans stable crash f value := by
  induction spans using List.reverseRecOn with
  | nil =>
      refine iff_of_false nofun ?_
      rintro ⟨last, seed, found, -⟩
      cases found
  | append_singleton spans last ih =>
      rw [allowed_concat]
      have turned := allowSpan_turn stable crash (allowed spans stable (some crash)) last f
      generalize allowSpan stable crash _ last f = after at turned ⊢
      unfold Kept
      cases turned with
      | skipped other => rw [ih, lastWrite_concat_of_skipped other, Kept]
      | failed started put failure =>
          rw [lastWrite_concat_of_writes started (by rw [put]; rfl)]
          refine iff_of_false nofun ?_
          rintro ⟨_, _, ⟨⟩, -, -, ok, -⟩
          exact failure ok
      | @finished seed started put ok kept =>
          rw [lastWrite_concat_of_writes started (by rw [put]; rfl)]
          constructor
          · intro held
            have same := Finset.singleton_injective (Option.some.inj (Option.some.inj held))
            exact ⟨last, seed, rfl, put, Content.seed.inj same, ok, kept⟩
          · rintro ⟨_, _, ⟨⟩, put', rfl, -⟩
            cases put.symm.trans put'
            rfl
      | cut started writes whole =>
          rw [lastWrite_concat_of_writes started writes]
          refine iff_of_false ?_ ?_
          · intro held
            obtain ⟨before, -, same⟩ := Option.map_eq_some_iff.mp (Option.some.inj held)
            have empty : Content.empty ∈ ({.seed value} : Finset Content) := by
              rw [← same]
              exact Finset.mem_union_right _ (Finset.mem_insert_self ..)
            cases Finset.mem_singleton.mp empty
          · rintro ⟨_, _, ⟨⟩, put, -, -, kept⟩
            have := (whole _ put).2
            omega

theorem only_eq_some_iff {may : May} {content : Content} :
    only may = some content ↔ may = some {content} := by
  cases may with
  | none => exact iff_of_false nofun nofun
  | some contents =>
      change (if single : contents.card = 1 then _ else none) = some content ↔ _
      by_cases single : contents.card = 1
      · rw [dif_pos single, Option.some.injEq, Option.some.injEq]
        have chosen := Finset.choose_mem (fun _ => True) contents (unique_of_card single)
        obtain ⟨sole, rfl⟩ := Finset.card_eq_one.mp single
        rw [Finset.mem_singleton.mp chosen, Finset.singleton_inj]
      · rw [dif_neg single]
        refine iff_of_false nofun fun same => single ?_
        rw [Option.some.inj same, Finset.card_singleton]

theorem durable_iff (spans : List Span) (stable crash : Nat) (f : FileNumber) (value : Nat) :
    durable spans stable (some crash) f = some (some value) ↔ Kept spans stable crash f value := by
  rw [← allowed_singleton_iff, durable, Option.map_eq_some_iff]
  constructor
  · rintro ⟨may, held, sole⟩
    obtain ⟨content, alone, number⟩ := Option.bind_eq_some_iff.mp sole
    cases content with
    | seed found =>
        cases number
        rw [held, only_eq_some_iff.mp alone]
    | absent | empty | garbage | broken => cases number
  · intro held
    exact ⟨_, held, by rw [only_eq_some_iff.mpr rfl]; rfl⟩

/-! ### Crash states and what they may hold -/

/-- The states a crash may leave of a parsed log keep what was stable and nothing after the
crash; and what a file may hold follows the two points, whatever lies between the spans. -/
theorem crash_states_keep_promises {raw : Support.Bytes} {log : Crashlog.Log}
    (returned : Crashlog.Returns raw (.ok log)) {epoch : Nat} {writes : List Nat}
    (found : log.epochs[epoch]? = some writes) (subset : Finset Nat) {spans : List Span}
    (space : ∀ span ∈ spans, span.TakesSpace) {stable crash : Nat} (ordered : stable ≤ crash)
    (f : FileNumber) :
    (∃ kept point crashed, Crashlog.state log epoch subset = some kept ∧
      Crashlog.stable log epoch = some point ∧
      Crashlog.crashedAt log epoch subset = some crashed ∧
      (∀ index entry, log.entries[index]? = some entry → entry.write = true →
        entry.stop ≤ point → index ∈ kept) ∧
      (∀ index ∈ kept, ∃ entry, log.entries[index]? = some entry ∧ entry.write = true ∧
        entry.stop ≤ crashed) ∧
      point ≤ crashed ∧
      ∀ more later, Crashlog.state log (epoch + 1) more = some later → kept ⊆ later) ∧
    (∀ late, crash ≤ late →
      Covers ((allowed spans stable (some late)).get f)
        ((allowed spans stable (some crash)).get f)) ∧
    (∀ more, stable ≤ more → more ≤ crash →
      Covers ((allowed spans stable (some crash)).get f)
        ((allowed spans more (some crash)).get f)) ∧
    ∀ value, durable spans stable (some crash) f = some (some value) ↔
      Kept spans stable crash f value := by
  refine ⟨?_, fun late later => ?_, fun more stabler within => ?_, fun value => ?_⟩
  · obtain ⟨kept, point, crashed, stated, stabled, fell, held, ended, order⟩ :=
      Crashlog.crash_state returned found subset
    exact ⟨kept, point, crashed, stated, stabled, fell, held, ended, order,
      fun more later grown => Crashlog.state_mono stated grown⟩
  · exact allowed_covers (Nat.le_refl _) later ordered space f
  · exact allowed_covers stabler (Nat.le_refl _) within space f
  · exact durable_iff spans stable crash f value

/-- One request of a log of 32 byte sectors, its data all of one byte. -/
def requestBytes (sector count flags : Nat) : Support.Bytes :=
  Support.leBytes 8 sector ++ Support.leBytes 8 count ++ Support.leBytes 8 flags ++
    Support.leBytes 8 0 ++ List.replicate (32 * count) 7

/-- Two writes and a flush, twice, and one write more. -/
def workloadLog : Support.Bytes :=
  Support.leBytes 8 Crashlog.magic ++ Support.leBytes 8 Crashlog.version ++
    Support.leBytes 8 7 ++ Support.leBytes 4 32 ++ Support.leBytes 4 0 ++
    requestBytes 1 1 0 ++ requestBytes 2 1 Crashlog.flagFua ++
    requestBytes 0 0 Crashlog.flagFlush ++ requestBytes 3 1 0 ++ requestBytes 4 2 0 ++
    requestBytes 0 0 Crashlog.flagFlush ++ requestBytes 5 1 0

def workload : Crashlog.Log where
  sectorsize := 32
  entries :=
    [ { start := 32, stop := 96, sector := 1, nrSectors := 1, flags := 0
        data := List.replicate 32 7 },
      { start := 96, stop := 160, sector := 2, nrSectors := 1, flags := Crashlog.flagFua
        data := List.replicate 32 7 },
      { start := 160, stop := 192, sector := 0, nrSectors := 0, flags := Crashlog.flagFlush
        data := [] },
      { start := 192, stop := 256, sector := 3, nrSectors := 1, flags := 0
        data := List.replicate 32 7 },
      { start := 256, stop := 352, sector := 4, nrSectors := 2, flags := 0
        data := List.replicate 64 7 },
      { start := 352, stop := 384, sector := 0, nrSectors := 0, flags := Crashlog.flagFlush
        data := [] },
      { start := 384, stop := 448, sector := 5, nrSectors := 1, flags := 0
        data := List.replicate 32 7 } ]

theorem returns_workloadLog : Crashlog.Returns workloadLog (.ok workload) :=
  ⟨8, by decide +kernel⟩

/-- A file is written and flushed, another is in flight, and the first is rewritten after the
crash. -/
def workloadSpans (file other : FileNumber) (first second last : Fin 256) : List Span :=
  [⟨.storage (.put file first), .status .ok, 32, 192⟩,
    ⟨.storage (.put other second), .status .ok, 192, 384⟩,
    ⟨.storage (.put file last), .status .ok, 384, 448⟩]

/-- Of the second epoch only the later write lands: file 1 is kept, file 2 is promised to nobody. -/
theorem crash_states_keep_promises_sample :
    (Crashlog.state workload 1 {4} = some {0, 1, 4} ∧ Crashlog.stable workload 1 = some 192 ∧
      Crashlog.crashedAt workload 1 {4} = some 352 ∧
      ∀ more later, Crashlog.state workload 2 more = some later → {0, 1, 4} ⊆ later) ∧
    durable (workloadSpans 1 2 5 7 9) 192 (some 352) 1 = some (some 5) ∧
    durable (workloadSpans 1 2 5 7 9) 192 (some 352) 2 ≠ some (some 7) ∧
    Covers ((allowed (workloadSpans 1 2 5 7 9) 192 (some 448)).get 1)
      ((allowed (workloadSpans 1 2 5 7 9) 192 (some 352)).get 1) := by
  have space : ∀ span ∈ workloadSpans 1 2 5 7 9, span.TakesSpace := by
    intro span member f seed _
    have each : ∀ span ∈ workloadSpans 1 2 5 7 9, span.start < span.stop := by decide
    exact each span member
  have epoch : workload.epochs[1]? = some [3, 4] := by decide
  have promised := crash_states_keep_promises returns_workloadLog epoch {4} space
    (by decide : 192 ≤ 352)
  obtain ⟨⟨kept, point, crashed, stated, stabled, fell, -, -, -, grown⟩, later, -, first⟩ :=
    promised 1
  obtain ⟨-, -, -, second⟩ := promised 2
  have state : Crashlog.state workload 1 {4} = some {0, 1, 4} := by decide +kernel
  obtain rfl := Option.some.inj (stated.symm.trans state)
  refine ⟨⟨state, by decide, by decide +kernel, grown⟩, (first 5).mpr ?_, fun held => ?_,
    later 448 (by decide)⟩
  · exact ⟨_, 5, rfl, rfl, rfl, rfl, by decide⟩
  · obtain ⟨last, seed, found, put, same, ok, stop⟩ := (second 7).mp held
    cases found
    exact absurd stop (by decide)

end Chrysopolis.Testbed.Crashcheck
