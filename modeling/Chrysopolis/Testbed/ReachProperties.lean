import Chrysopolis.Testbed.SteerProperties

/-! `reach` reaches its goal where its strategy makes progress; the scenarios that aim hit a file
that is there, and the one that exhausts loses its driver. -/

set_option autoImplicit false

namespace Chrysopolis.Testbed.Faults

open Chrysopolis.Support

/-! ### What a step keeps of the disk -/

section

variable [ChartLibrary]

theorem FileLifecycle.evolved_written (chart : FileLifecycle) (data : FileData) :
    chart.evolved .written data = some { state := .held, model := chart.model.keep data } := by
  rw [evolved_eq]
  obtain ⟨state, model⟩ := chart
  cases state <;> rfl

namespace StorageModel

variable {storage next : StorageModel} {step : StorageStep} {outcome : Outcome}

theorem evolveFile_frame {number : FileNumber} {event : FileEvent} {data : FileData}
    (evolved : storage.evolveFile number event data = some next) :
    ∃ chart, (storage.file number).evolved event data = some chart ∧
      next = { storage with files := Function.update storage.files number (some chart) } := by
  obtain ⟨chart, sent, same⟩ := Option.bind_eq_some_iff.mp evolved
  exact ⟨chart, sent, (Option.some.inj same).symm⟩

theorem moved_frame {number : FileNumber} (moved : storage.moved number = some next) :
    ∃ fault, next = { storage with fault } := by
  unfold StorageModel.moved at moved
  split at moved
  · exact ⟨_, (Option.some.inj moved).symm⟩
  · split at moved
    · exact ⟨_, (Option.some.inj moved).symm⟩
    · exact evolveFault_frame moved

theorem after_disk (stepped : storage.after step outcome = some next) :
    next.disk = storage.disk := by
  obtain ⟨spent, spending, rest⟩ := Option.bind_eq_some_iff.mp stepped
  obtain ⟨fault, rfl⟩ := spend_frame spending
  cases step with
  | put file seed =>
      simp only at rest
      split at rest
      · obtain ⟨written, evolved, rest⟩ := Option.bind_eq_some_iff.mp rest
        obtain ⟨chart, -, rfl⟩ := evolveFile_frame evolved
        obtain ⟨fault, rfl⟩ := moved_frame rest
        rfl
      · obtain ⟨failed, evolved, rest⟩ := Option.bind_eq_some_iff.mp rest
        obtain ⟨chart, -, rfl⟩ := evolveFile_frame evolved
        obtain ⟨left, moved, rest⟩ := Option.bind_eq_some_iff.mp rest
        obtain ⟨fault, rfl⟩ := moved_frame moved
        split at rest
        · obtain ⟨window, -, rest⟩ := Option.bind_eq_some_iff.mp rest
          cases rest
          rfl
        · cases rest
          rfl
  | get file =>
      cases rest
      rfl
  | arm op region file once =>
      simp only at rest
      split at rest <;> obtain ⟨fault, rfl⟩ := evolveFault_frame rest <;> rfl
  | disarm =>
      obtain ⟨fault, rfl⟩ := evolveFault_frame rest
      rfl
  | corrupt region file =>
      simp only at rest
      split at rest
      · split at rest
        · obtain ⟨chart, -, rfl⟩ := evolveFile_frame rest
          rfl
        · obtain ⟨volume, -, rest⟩ := Option.bind_eq_some_iff.mp rest
          cases rest
          rfl
      · cases rest
        rfl

/-- A put that was reported ok leaves its file on disk. -/
theorem after_put_ok {file : FileNumber} {seed : Fin 256}
    (stepped : storage.after (.put file seed) (.status .ok) = some next) :
    (next.file file).state = .held := by
  obtain ⟨spent, spending, rest⟩ := Option.bind_eq_some_iff.mp stepped
  simp only [if_true] at rest
  obtain ⟨written, evolved, rest⟩ := Option.bind_eq_some_iff.mp rest
  obtain ⟨chart, sent, rfl⟩ := evolveFile_frame evolved
  obtain ⟨fault, rfl⟩ := moved_frame rest
  have state : chart.state = .held := by
    rw [FileLifecycle.evolved_written] at sent
    exact congrArg Chart.state (Option.some.inj sent).symm
  simpa [StorageModel.file] using state

end StorageModel

theorem Model.after_disk {model next : Model} {step : Step} {outcome : Outcome}
    (stepped : model.after step outcome = some next) : next.storage.disk = model.storage.disk := by
  cases step with
  | reset =>
      cases stepped
      rfl
  | crashPut file seed afterMs =>
      rw [Model.after_crashPut] at stepped
      obtain ⟨storage, crashed, rfl⟩ := Option.map_eq_some_iff.mp stepped
      obtain ⟨chart, -, rfl⟩ := StorageModel.evolveFile_frame crashed
      rfl
  | net step =>
      rw [Model.after_net] at stepped
      cases stepped
      rfl
  | storage step =>
      rw [Model.after_storage] at stepped
      obtain ⟨storage, after, rfl⟩ := Option.map_eq_some_iff.mp stepped
      exact StorageModel.after_disk after
  | root request =>
      rw [Model.after_root] at stepped
      obtain ⟨root, -, rfl⟩ := Option.map_eq_some_iff.mp stepped
      rfl

end

namespace Steer

variable {model next last : Model} {step : Step} {outcome : Outcome} {steps : List Step}
variable {goal : Goal} {strategies : List Toward} {toward : Toward} {point : Point}
variable {bound left : Nat}

/-! ### `reach` -/

section

variable [ChartLibrary]

theorem phase_length (drawn : Phase goal strategies left model steps last point) :
    steps.length ≤ left := by
  induction drawn with
  | there | spent | draw => exact Nat.zero_le _
  | step _ _ _ _ _ ih => exact Nat.succ_le_succ ih

/-- A pass reaches the goal, or keeps by each of its turns what the turns keep. -/
theorem phase_keeps (keeps : Nat → Model → Prop)
    (turn : ∀ {left model choose step outcome next}, keeps (left + 1) model → ¬goal model →
      choose ∈ strategies → choose model step → Advance model step outcome next →
        keeps left next)
    (drawn : Phase goal strategies left model steps last point) (whole : point = .returned)
    (start : keeps left model) : goal last ∨ keeps 0 last := by
  induction drawn with
  | there reached => exact .inl reached
  | spent => exact .inr start
  | draw => cases whole
  | step missing listed drawn advanced _ ih =>
      exact ih whole (turn start missing listed drawn advanced)

omit [ChartLibrary] in
/-- What a chain that has returned drew of its first part and of the rest. -/
theorem chain_returned {part : Scenario} {parts : List Scenario}
    (drawn : chain (part :: parts) model steps last .returned) :
    ∃ first mid second, part model first mid .returned ∧
      chain parts mid second last .returned ∧ steps = first ++ second := by
  obtain ⟨_, _, same⟩ | whole := drawn
  · cases same
  · exact whole

theorem reach_inv (drawn : reach goal toward bound model steps last .returned) :
    ∃ first mid second, Phase goal (mixed toward) bound model first mid .returned ∧
      Phase goal [toward] bound mid second last .returned ∧ steps = first ++ second := by
  obtain ⟨first, mid, rest, mixes, later, rfl⟩ := chain_returned drawn
  obtain ⟨second, final, nothing, focused, ⟨rfl, rfl, -⟩, rfl⟩ := chain_returned later
  exact ⟨first, mid, second, mixes, focused, by rw [List.append_nil]⟩

/-- Where the strategy comes nearer to the goal with each step, and the mixed steps leave it no
farther than the bound, the goal is reached. -/
theorem reach_reaches (keeps : Nat → Model → Prop) (ready : Model → Prop) (far : Model → Nat)
    (turn : ∀ {left model step outcome next}, keeps (left + 1) model →
      Advance model step outcome next → keeps left next)
    (ends : ∀ {model}, keeps 0 model → ready model ∧ far model ≤ bound)
    (nearer : ∀ {model step outcome next}, ready model → ¬goal model → toward model step →
      Advance model step outcome next → ready next ∧ far next < far model)
    (near : ∀ {model}, ready model → far model = 0 → goal model)
    (drawn : reach goal toward bound model steps last .returned) (start : keeps bound model) :
    goal last ∧ steps.length ≤ 2 * bound := by
  obtain ⟨first, mid, second, mixes, focuses, rfl⟩ := reach_inv drawn
  have lengths : (first ++ second).length ≤ 2 * bound := by
    have := phase_length mixes
    have := phase_length focuses
    rw [List.length_append]
    omega
  refine ⟨?_, lengths⟩
  have turned := phase_keeps keeps (fun kept _ _ _ advanced => turn kept advanced) mixes rfl start
  rcases turned with reached | ended
  · cases focuses with
    | there | spent => exact reached
    | step missing => exact absurd reached missing
  · have close : ready mid ∧ far mid ≤ bound := ends ended
    have nearing {left : Nat} {model : Model} {choose : Toward} {step : Step} {outcome : Outcome}
        {next : Model} (here : ready model ∧ far model ≤ left + 1) (missing : ¬goal model)
        (listed : choose ∈ [toward]) (chosen : choose model step)
        (advanced : Advance model step outcome next) : ready next ∧ far next ≤ left := by
      rw [List.mem_singleton.mp listed] at chosen
      obtain ⟨there, less⟩ := nearer here.1 missing chosen advanced
      exact ⟨there, by omega⟩
    obtain reached | ⟨still, zero⟩ :=
      phase_keeps (fun left model => ready model ∧ far model ≤ left) nearing focuses rfl close
    · exact reached
    · exact near still (Nat.le_zero.mp zero)

/-! ### A driver is exhausted -/

/-- The charts of a driver count against the budget of Root. -/
structure Counts (budget : Int) (driver : Driver) (model : Model) : Prop where
  total : model.root.budget = budget
  record : (model.root.chart driver).model.budget = budget

theorem Counts.after {budget : Int} {driver : Driver} (counts : Counts budget driver model)
    (admitted : outcome ∈ model.expect step) (stepped : model.after step outcome = some next) :
    Counts budget driver next := by
  obtain ⟨total, moved⟩ := Model.after_driver admitted stepped driver
  refine ⟨total.trans counts.total, ?_⟩
  rcases moved with ⟨-, fresh⟩ | ⟨-, record, -⟩ | ⟨-, answered⟩
  · rw [fresh]
    exact counts.total
  · rw [record]
    exact counts.record
  · cases answered with
    | gone _ _ record | gaveUp _ _ _ record =>
        rw [record]
        exact counts.record
    | restarted _ _ _ record =>
        rw [record]
        exact counts.record

/-- The requests until Root gives up on a driver. -/
def untilGone (budget : Int) (driver : Driver) (model : Model) : Nat :=
  if model.root.up driver then (budget - (model.root.chart driver).model.spent).toNat + 1 else 0

omit [ChartLibrary] in
theorem untilGone_le (budget : Int) (driver : Driver) (model : Model) :
    untilGone budget driver model ≤ budget.toNat + 1 := by
  unfold untilGone
  split <;> omega

theorem untilGone_fault {budget : Int} {driver : Driver} {settle : Bool}
    (counts : Counts budget driver model) (up : model.root.up driver = true)
    (admitted : outcome ∈ model.expect (.root (.fault driver settle)))
    (stepped : model.after (.root (.fault driver settle)) outcome = some next) :
    untilGone budget driver next < untilGone budget driver model := by
  have state := up
  simp only [RootModel.up, bne_iff_ne] at state
  unfold untilGone
  rw [if_pos up]
  rcases (Model.after_driver admitted stepped driver).2 with ⟨other, -⟩ | ⟨other, -⟩ |
    ⟨-, answered⟩
  · cases other
  · exact absurd rfl other
  · cases answered with
    | gone was => exact absurd was state
    | gaveUp _ _ is => simp [RootModel.up, is]
    | restarted _ more is record =>
        rw [DriverRecord.hasBudget, decide_eq_true_eq, counts.record] at more
        rw [if_pos (by simpa [RootModel.up] using is), record, DriverRecord.spend]
        push_cast
        omega

/-- The budget and one fault more is all that a driver takes. -/
theorem reach_gone {budget : Int} {driver : Driver} (enough : budget.toNat < bound)
    (counts : Counts budget driver model)
    (drawn : reach (gone driver) (FaultsTo [driver] true) bound model steps last .returned) :
    gone driver last ∧ steps.length ≤ 2 * bound := by
  have keeps {model next : Model} {step : Step} {outcome : Outcome}
      (counts : Counts budget driver model) (advanced : Advance model step outcome next) :
      Counts budget driver next :=
    counts.after (nominals_admitted advanced.assumed) advanced.stepped
  refine reach_reaches (fun _ => Counts budget driver) (Counts budget driver)
    (untilGone budget driver) (fun counts advanced => keeps counts advanced)
    (fun {model} counts => ⟨counts, ?_⟩) ?_ ?_ drawn counts
  · exact (untilGone_le budget driver model).trans enough
  · intro model step outcome next counts missing aimed advanced
    have up : model.root.up driver = true := by simpa [gone] using missing
    obtain ⟨which, listed, rfl⟩ := aimed
    have only : which = driver := by simpa [live, up] using listed
    subst only
    exact ⟨keeps counts advanced,
      untilGone_fault counts up (nominals_admitted advanced.assumed) advanced.stepped⟩
  · intro model _ zero
    unfold untilGone at zero
    split at zero
    · cases zero
    · next down => simpa [gone] using down

end

/-! ### A file is written -/

/-- A plan under which some write can be reported ok. -/
def TakesWrites (disk : Expected) : Prop := disk.writeFails = true → disk.reads ≠ {.error}

/-- Nothing of it carries a value. -/
def Plain (allowed : Expect) : Prop := ∀ outcome ∈ allowed.outcomes, carries outcome = false

theorem plain_expectStatus (statuses : Finset Status) : Plain (expectStatus statuses) := by
  intro outcome inside
  obtain ⟨status, -, rfl⟩ := Finset.mem_image.mp inside
  rfl

theorem Plain.union {first second : Expect} (plain : Plain first) (plain' : Plain second) :
    Plain (first ∪ second) := fun outcome inside =>
  (Finset.mem_union.mp inside).elim (plain outcome) (plain' outcome)

/-- A step that may go well is assumed to. -/
theorem nominals_ok (plain : Plain (model.expect step))
    (admitted : .status .ok ∈ model.expect step)
    (other : nominals model step = {.status .ok} ∨ (model.expect step).anything = false) :
    nominals model step = {.status .ok} := by
  refine other.elim id fun certain => ?_
  have inside : .status .ok ∈ (model.expect step).outcomes :=
    admitted.resolve_left (by simp [certain])
  have none_ : (model.expect step).outcomes.filter (fun outcome => carries outcome) = ∅ := by
    rw [Finset.filter_eq_empty_iff]
    intro outcome among
    simp [plain outcome among]
  unfold nominals
  simp [certain, none_, preference, inside]

/-- Root runs the block driver, and the disk takes writes. -/
structure Writable (model : Model) : Prop where
  up : model.root.up .blk = true
  takes : TakesWrites model.storage.disk

theorem Writable.expect_put (writable : Writable model) (file : FileNumber) (seed : Fin 256) :
    Plain (model.expect (.storage (.put file seed))) ∧
      .status .ok ∈ model.expect (.storage (.put file seed)) := by
  have base : Plain (model.storage.unfaulted (.put file seed) true) ∧
      .status .ok ∈ model.storage.unfaulted (.put file seed) true := by
    unfold StorageModel.unfaulted
    simp only [Bool.not_true, Bool.false_eq_true, if_false]
    split_ifs with takes bad
    · exact ⟨plain_expectStatus _, by simp⟩
    · exact absurd bad (writable.takes (by simpa using takes))
    · exact ⟨plain_expectStatus _, by simp⟩
  have more {allowed : Expect} (statuses : Finset Status)
      (holds : Plain allowed ∧ .status .ok ∈ allowed) :
      Plain (allowed ∪ expectStatus statuses) ∧ .status .ok ∈ allowed ∪ expectStatus statuses :=
    ⟨holds.1.union (plain_expectStatus _), mem_union_expect.mpr (.inl holds.2)⟩
  have stored : Plain (model.storage.expect (.put file seed) true) ∧
      .status .ok ∈ model.storage.expect (.put file seed) true := by
    unfold StorageModel.expect
    simp only
    split_ifs
    · exact ⟨fun _ inside => absurd inside (Finset.notMem_empty _), mem_anything⟩
    · split
      · exact base
      · simp only [StorageModel.faulted]
        split_ifs
        · exact base
        · exact more _ base
  simp only [Model.expect, writable.up]
  split_ifs
  · exact more _ stored
  · exact stored

section

variable [ChartLibrary]

theorem Writable.advance_put (writable : Writable model) {file : FileNumber} {seed : Fin 256}
    (advanced : Advance model (.storage (.put file seed)) outcome next) :
    outcome = .status .ok ∧ hasFile next := by
  have ok : outcome = .status .ok := by
    obtain ⟨plain, admitted⟩ := writable.expect_put file seed
    have assumed := advanced.assumed
    rw [nominals_ok plain admitted ?_] at assumed
    · exact Finset.mem_singleton.mp assumed
    · cases certain : (model.expect (.storage (.put file seed))).anything with
      | true => exact .inl (by simp [nominals, certain])
      | false => exact .inr rfl
  refine ⟨ok, ?_⟩
  have stepped := advanced.stepped
  rw [ok, Model.after_storage] at stepped
  obtain ⟨storage, after, rfl⟩ := Option.map_eq_some_iff.mp stepped
  have state := StorageModel.after_put_ok after
  have listed : file ∈ List.finRange files := List.mem_finRange file
  exact List.ne_nil_of_mem (List.mem_filter.mpr ⟨listed, by simp [state]⟩)

theorem Writable.after_put (writable : Writable model) {file : FileNumber} {seed : Fin 256}
    (admitted : outcome ∈ model.expect (.storage (.put file seed)))
    (stepped : model.after (.storage (.put file seed)) outcome = some next) : Writable next where
  takes := Model.after_disk stepped ▸ writable.takes
  up := by
    have up := writable.up
    simp only [RootModel.up, bne_iff_ne] at up ⊢
    rcases (Model.after_driver admitted stepped .blk).2 with ⟨-, fresh⟩ | ⟨-, untouched⟩ |
      ⟨request, -⟩
    · rw [fresh]
      simp [DriverLifecycle.fresh]
    · exact fun gone => up (untouched.gone.mp gone)
    · cases request

/-- So many steps more, whatever they are, leave the driver up. -/
structure Ample (budget : Int) (left : Nat) (model : Model) : Prop where
  writable : Writable model
  counts : Counts budget .blk model
  room : ((model.root.chart .blk).model.spent + left : Int) ≤ budget

theorem Ample.after {budget : Int} (ample : Ample budget (left + 1) model)
    (admitted : outcome ∈ model.expect step) (stepped : model.after step outcome = some next) :
    Ample budget left next := by
  obtain ⟨writable, counts, room⟩ := ample
  have up := writable.up
  simp only [RootModel.up, bne_iff_ne] at up
  have kept : (next.root.chart .blk).state ≠ .gone ∧
      ((next.root.chart .blk).model.spent + left : Int) ≤ budget := by
    push_cast at room
    rcases (Model.after_driver admitted stepped .blk).2 with ⟨-, fresh⟩ | ⟨-, untouched⟩ |
      ⟨-, answered⟩
    · rw [fresh]
      refine ⟨by simp [DriverLifecycle.fresh], ?_⟩
      have none_ : (DriverLifecycle.fresh model.root.budget).model.spent = 0 := rfl
      rw [none_]
      omega
    · rw [untouched.record]
      exact ⟨fun gone => up (untouched.gone.mp gone), by omega⟩
    · cases answered with
      | gone was => exact absurd was up
      | gaveUp _ broke =>
          rw [DriverRecord.hasBudget, decide_eq_false_iff_not, counts.record] at broke
          omega
      | restarted _ _ is record =>
          rw [record, DriverRecord.spend]
          refine ⟨is, ?_⟩
          push_cast
          omega
  exact ⟨⟨by simpa [RootModel.up] using kept.1, Model.after_disk stepped ▸ writable.takes⟩,
    counts.after admitted stepped, kept.2⟩

omit [ChartLibrary] in
theorem ample_start {budget : Int} {disk : Expected} (takes : TakesWrites disk)
    (enough : (left : Int) ≤ budget) : Ample budget left (Model.start budget disk) where
  writable := ⟨rfl, takes⟩
  counts := ⟨rfl, rfl⟩
  room := by
    have none_ : ((Model.start budget disk).root.chart .blk).model.spent = 0 := rfl
    rw [none_]
    omega

/-- Whatever is mixed in, a file is on disk in the end. -/
theorem reach_file {budget : Int} (some_ : 0 < bound) (ample : Ample budget bound model)
    (drawn : reach hasFile Writes bound model steps last .returned) :
    hasFile last ∧ steps.length ≤ 2 * bound := by
  have away {model : Model} (present : hasFile model) : (if held model = [] then 1 else 0) = 0 :=
    if_neg present
  refine reach_reaches (fun left => Ample budget left) Writable
    (fun model => if held model = [] then 1 else 0) ?_ ?_ ?_ ?_ drawn ample
  · intro left model step outcome next ample advanced
    exact ample.after (nominals_admitted advanced.assumed) advanced.stepped
  · intro model ample
    refine ⟨ample.writable, ?_⟩
    split <;> omega
  · rintro model _ outcome next writable missing ⟨file, seed⟩ advanced
    refine ⟨writable.after_put (nominals_admitted advanced.assumed) advanced.stepped, ?_⟩
    rw [away (writable.advance_put advanced).2, if_pos (not_not.mp missing)]
    exact Nat.one_pos
  · intro model _ zero
    by_contra missing
    rw [if_pos (not_not.mp missing)] at zero
    cases zero

end

/-! ### The scenarios -/

theorem mem_trimKept {budget : Int} {spent : Driver → Nat} {program : Program}
    (free : step.request? = none) (listed : step ∈ program) :
    step ∈ trimKept budget spent program := by
  fun_induction trimKept budget spent program with
  | case1 => cases listed
  | case2 _ _ _ _ ih | case4 _ _ _ _ _ _ _ ih | case5 _ _ _ _ _ _ ih =>
      rcases List.mem_cons.mp listed with rfl | later
      · exact List.mem_cons_self
      · exact List.mem_cons_of_mem _ (ih later)
  | case3 _ _ _ _ request _ _ ih =>
      rcases List.mem_cons.mp listed with rfl | later
      · rw [free] at request
        cases request
      · exact ih later

/-- A step aimed at a file. -/
inductive AimsAt (file : FileNumber) (aimed : Step) : Prop where
  | read (fault : ReadFault file aimed)
  | write (fault : MetadataWriteFault file aimed)
  | corrupt (corruption : DataCorruption file aimed)

theorem AimsAt.free {file : FileNumber} (aims : AimsAt file step) : step.request? = none := by
  rcases aims with ⟨⟨_⟩⟩ | ⟨⟨_⟩ | ⟨_⟩⟩ | ⟨⟨⟩⟩ <;> rfl

/-- A file that is there is found. -/
theorem AimsAt.finds {file : FileNumber} (aims : AimsAt file step) (listed : file ∈ held model) :
    model.storage.damaged = true ∨ model.expect step = expectStatus {.present} := by
  have present : model.storage.damaged = true ∨
      model.storage.present file = expectStatus {.present} := by
    have state := (List.mem_filter.mp listed).2
    rw [decide_eq_true_eq] at state
    cases damaged : model.storage.damaged with
    | true => exact .inl rfl
    | false =>
        right
        rcases state with state | state <;> simp [StorageModel.present, damaged, state]
  rcases aims with ⟨⟨_⟩⟩ | ⟨⟨_⟩ | ⟨_⟩⟩ | ⟨⟨⟩⟩ <;> exact present

section

variable [ChartLibrary]

/-- A draw that a run of the model leads up to a step of the program aimed at a file that is
there, which the model says is found unless the volume is damaged. -/
def Hits (budget : Int) (disk : Expected) (steps : List Step) : Prop :=
  ∃ run mid file aimed, Runs (Model.start budget disk) run mid ∧
    run.map Prod.fst ++ [aimed] <+: steps ∧ aimed ∈ programOf steps budget ∧
    file ∈ held mid ∧ AimsAt file aimed ∧
    (mid.storage.damaged = true ∨ mid.expect aimed = expectStatus {.present})

theorem hits_chain {budget : Int} {disk : Expected} (takes : TakesWrites disk)
    (enough : 4 ≤ budget) {make : FileNumber → Step → Prop}
    (aims : ∀ file step, make file step → AimsAt file step) {parts : List Scenario}
    (drawn : chain (reach hasFile Writes 4 :: Then (Aimed make) :: parts)
      (Model.start budget disk) steps last .returned) : Hits budget disk steps := by
  obtain ⟨first, mid, rest, reached, later, rfl⟩ := chain_returned drawn
  obtain ⟨_, next, more, _ | ⟨choice, -⟩, -, rfl⟩ := chain_returned later
  obtain ⟨present, length⟩ := reach_file (by decide) (ample_start takes enough) reached
  obtain ⟨run, ran, rfl⟩ := simulates_reach hasFile Writes 4 _ _ _ _ reached
  have short : (run.map Prod.fst).length ≤ 8 := length
  have present : held mid ≠ [] := present
  rw [Aimed, if_pos present] at choice
  obtain ⟨file, listed, made⟩ := choice
  have aimed := aims file _ made
  refine ⟨run, mid, file, _, ran, ?_, mem_trimKept aimed.free ?_, listed, aimed,
    aimed.finds listed⟩
  · rw [List.singleton_append, List.prefix_append_right_inj]
    exact ⟨more, rfl⟩
  · rw [List.take_append]
    refine List.mem_append_right _ ?_
    obtain ⟨room, fits⟩ : ∃ room, maxSteps - (run.map Prod.fst).length = room + 1 :=
      ⟨maxSteps - (run.map Prod.fst).length - 1, by unfold maxSteps; omega⟩
    rw [fits]
    exact List.mem_cons_self

/-- With a disk that takes writes and budget for four restarts every draw that aims hits; with a
budget below ten every draw that exhausts has its driver gone within twenty steps. -/
theorem scenarios_hit (budget : Int) (disk : Expected) :
    (TakesWrites disk → 4 ≤ budget →
      ∀ name ∈ [ScenarioName.latent, .corruptHeal, .writeFault], ∀ steps last,
        scenarios name (Model.start budget disk) steps last .returned →
          Hits budget disk steps) ∧
    (budget < 10 → ∀ steps last,
      scenarios .exhaust (Model.start budget disk) steps last .returned →
      ∃ run mid, Runs (Model.start budget disk) run mid ∧ run.map Prod.fst <+: steps ∧
        run.length ≤ 20 ∧ mid.root.up .blk = false) := by
  constructor
  · intro takes enough name aiming steps last drawn
    simp only [List.mem_cons, List.not_mem_nil, or_false] at aiming
    rcases aiming with rfl | rfl | rfl
    · exact hits_chain takes enough (fun _ _ => .read) drawn
    · exact hits_chain takes enough (fun _ _ => .corrupt) drawn
    · exact hits_chain takes enough (fun _ _ => .write) drawn
  · intro few steps last drawn
    obtain ⟨first, mid, rest, reached, -, rfl⟩ := chain_returned drawn
    have enough : budget.toNat < 10 := by omega
    obtain ⟨exhausted, length⟩ := reach_gone enough ⟨rfl, rfl⟩ reached
    obtain ⟨run, ran, rfl⟩ := simulates_reach _ _ 10 _ _ _ _ reached
    rw [List.length_map] at length
    exact ⟨run, mid, ran, List.prefix_append .., length, exhausted⟩

end

section

open scoped ChartLibrary

/-- Four restarts are enough to aim and too few for `exhaust`, with reads that fail at times. -/
theorem scenarios_hit_four : ∃ disk aimed exhausted last final,
    scenarios .latent (Model.start 4 disk) aimed last .returned ∧ Hits 4 disk aimed ∧
    scenarios .exhaust (Model.start 4 disk) exhausted final .returned ∧
      ∃ run mid, Runs (Model.start 4 disk) run mid ∧ run.map Prod.fst <+: exhausted ∧
        run.length ≤ 20 ∧ mid.root.up .blk = false := by
  let disk : Expected := { writeFails := true, reads := {.ok, .error} }
  have takes : TakesWrites disk := fun _ => by decide
  obtain ⟨aims, exhausts⟩ := scenarios_hit 4 disk
  obtain ⟨aimed, last, latent⟩ := (draws_scenarios .latent).returns (Model.start 4 disk)
  obtain ⟨exhausted, final, exhaust⟩ := (draws_scenarios .exhaust).returns (Model.start 4 disk)
  have hits := aims takes (by decide) .latent (by decide) aimed last latent
  exact ⟨disk, aimed, exhausted, last, final, latent, hits, exhaust,
    exhausts (by decide) exhausted final exhaust⟩

end

end Steer

end Chrysopolis.Testbed.Faults
