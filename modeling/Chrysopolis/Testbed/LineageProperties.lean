import Chrysopolis.Testbed.AvailabilityProperties
import Chrysopolis.Testbed.Lineage
import Mathlib.Tactic.FinCases

/-! Hitting sets are the minimal ones, and a cut lets the step it is placed before fail. -/

set_option autoImplicit false

namespace Chrysopolis.Testbed.Faults

open Chrysopolis.Support

/-! ### Hitting sets -/

/-- After the first support the transversals are exactly the minimal ones of the size. -/
theorem mem_foldl_addSupport_iff {supports : List (Finset Atom)} (some' : supports ≠ [])
    {maxSize : Int} {set : Finset Atom} :
    set ∈ supports.foldl (addSupport maxSize) {∅} ↔
      Minimal (Transversal.Hits supports) set ∧ (set.card : Int) ≤ maxSize := by
  have covers (supports : List (Finset Atom)) :
      Transversal.Covers maxSize supports (supports.foldl (addSupport maxSize) {∅}) := by
    induction supports using List.reverseRecOn with
    | nil => exact .nil maxSize
    | append_singleton supports support ih =>
        rw [List.foldl_append]
        exact ih.step support
  obtain ⟨supports, support, rfl⟩ : ∃ front last, supports = front ++ [last] :=
    ⟨_, _, (List.dropLast_append_getLast some').symm⟩
  rw [List.foldl_append]
  exact Transversal.mem_step_iff (covers supports)

theorem mem_hittingSets {supports : List (Finset Atom)} {maxSize : Int} {set : Finset Atom} :
    set ∈ hittingSets supports maxSize ↔ set ∈ supports.foldl (addSupport maxSize) {∅} :=
  Finset.mem_sort _

/-- The answer holds exactly the minimal hitting sets of the size, each once. -/
def ExactHittingSets (supports : List (Finset Atom)) (maxSize : Int) : Prop :=
  (hittingSets supports maxSize).Nodup ∧
    ∀ set, set ∈ hittingSets supports maxSize ↔
      Minimal (Transversal.Hits supports) set ∧ (set.card : Int) ≤ maxSize

/-- `hitting_sets` is exact unless there is nothing to hit and the size excludes even the empty
set, which no turn of the loop then cuts. -/
theorem hittingSets_exact_iff (supports : List (Finset Atom)) (maxSize : Int) :
    ExactHittingSets supports maxSize ↔ supports ≠ [] ∨ 0 ≤ maxSize := by
  have nodup : (hittingSets supports maxSize).Nodup := Finset.sort_nodup _ _
  rcases eq_or_ne supports [] with rfl | some'
  · have members (set : Finset Atom) : set ∈ hittingSets [] maxSize ↔ set = ∅ :=
      mem_hittingSets.trans Finset.mem_singleton
    constructor
    · rintro ⟨-, exact'⟩
      have empty := (exact' ∅).mp ((members ∅).mpr rfl)
      exact .inr empty.2
    · rintro (other | size)
      · exact absurd rfl other
      · refine ⟨nodup, fun set => ?_⟩
        rw [members, Transversal.minimal_nil_iff]
        constructor
        · rintro rfl
          exact ⟨rfl, size⟩
        · exact And.left
  · refine iff_of_true ⟨nodup, fun set => ?_⟩ (.inl some')
    rw [mem_hittingSets, mem_foldl_addSupport_iff some']

theorem hittingSets_negative_not_exact :
    ∅ ∈ hittingSets [] (-1) ∧ ¬ExactHittingSets [] (-1) := by
  have member : ∅ ∈ hittingSets [] (-1) := mem_hittingSets.mpr (Finset.mem_singleton_self _)
  refine ⟨member, fun exact' => ?_⟩
  have small := ((exact'.2 ∅).mp member).2
  rw [Finset.card_empty] at small
  exact absurd small (by decide)

/-! ### Cuts -/

/-- A failure is admitted. -/
def AdmitsFailure (allowed : Expect) : Prop :=
  .status .eio ∈ allowed ∨ .status .error ∈ allowed ∨ .status .unreachable ∈ allowed

theorem AdmitsFailure.union {first second : Expect} (fails : AdmitsFailure second) :
    AdmitsFailure (first ∪ second) := by
  simp only [AdmitsFailure, mem_union_expect]
  rcases fails with eio | error | unreachable
  · exact .inl (.inr eio)
  · exact .inr (.inl (.inr error))
  · exact .inr (.inr (.inr unreachable))

theorem AdmitsFailure.anything : AdmitsFailure Faults.anything := .inl mem_anything

theorem AdmitsFailure.eio : AdmitsFailure (expectStatus {.eio}) :=
  .inl (status_mem_expectStatus.mpr (Finset.mem_singleton_self _))

theorem AdmitsFailure.failing : AdmitsFailure (expectStatus {.eio, .error}) :=
  .inl (status_mem_expectStatus.mpr (Finset.mem_insert_self ..))

theorem AdmitsFailure.unreachable : AdmitsFailure (expectStatus {.unreachable}) :=
  .inr (.inr (status_mem_expectStatus.mpr (Finset.mem_singleton_self _)))

/-- The driver a put, a get or a ping goes through. -/
inductive GoesThrough : Step → Driver → Prop where
  | put (file : FileNumber) (seed : Fin 256) : GoesThrough (.storage (.put file seed)) .blk
  | get (file : FileNumber) : GoesThrough (.storage (.get file)) .blk
  | ping : GoesThrough (.net .ping) .eth

variable {model last : Model} {step : Step} {driver : Driver}

theorem GoesThrough.paths_eq (through : GoesThrough step driver) : paths step = [driver] := by
  cases through <;> rfl

/-- While the driver recovers the step may fail. -/
theorem GoesThrough.fails_recovering (through : GoesThrough step driver)
    (recovering : model.root.recovering driver = true) : AdmitsFailure (model.expect step) := by
  cases through with
  | put file seed | get file =>
      simp only [Model.expect, if_pos recovering]
      exact AdmitsFailure.failing.union
  | ping =>
      simp only [Model.expect, if_pos recovering]
      exact AdmitsFailure.unreachable.union

/-- A storage step that finds no driver may fail. -/
theorem StorageModel.expect_down_fails (storage : StorageModel) {step : StorageStep}
    (access : step.Access) : AdmitsFailure (storage.expect step false) := by
  cases step with
  | put file seed => exact .inl ((storage.expect_put_down file seed _).mpr (.inl rfl))
  | get file =>
      by_cases strict : StrictRead storage file
      · have armed : storage.armed = some storage.fault.model := by
          rw [StorageModel.armed, strict.1, if_pos (by decide)]
        simp only [expect, Bool.false_eq_true, and_false, if_false, armed, faulted,
          if_pos strict.2, strict.1]
        rw [if_neg (by decide)]
        split
        · exact .eio
        · exact .anything
      · exact .inl (((storage.expect_get_down_iff file).mpr strict _).mpr (.inl rfl))
  | arm | disarm | corrupt => exact access.elim

/-- Once Root gave up on the driver the step may fail. -/
theorem GoesThrough.fails_down (through : GoesThrough step driver)
    (gone : model.root.up driver = false) : AdmitsFailure (model.expect step) := by
  cases through with
  | put file seed =>
      have access : (StorageStep.put file seed).Access := trivial
      rw [Model.expect_access_down gone access]
      exact model.storage.expect_down_fails access
  | get file =>
      have access : (StorageStep.get file).Access := trivial
      rw [Model.expect_access_down gone access]
      exact model.storage.expect_down_fails access
  | ping =>
      simp only [Model.expect, NetModel.expect, gone, RootModel.not_recovering_of_down gone,
        Bool.false_eq_true, if_false]
      exact .unreachable

/-! ### Faults on the driver -/

section

variable [ChartLibrary]

/-- An admitted step of the root, in the model. -/
theorem Model.after_request {request : RootStep} {outcome : Outcome}
    (stepped : model.after (.root request) outcome = some last) :
    ∃ root, model.root.after request outcome = some root ∧
      last.root = root.settledAll (model.settling (.root request)) := by
  rw [Model.after_root] at stepped
  obtain ⟨root, after, rfl⟩ := Option.map_eq_some_iff.mp stepped
  exact ⟨root, after, rfl⟩

/-- A driver Root gave up on stays so. -/
theorem Model.after_request_gone {request : RootStep} {outcome : Outcome}
    (admitted : outcome ∈ model.expect (.root request))
    (stepped : model.after (.root request) outcome = some last)
    (gone : model.root.up request.driver = false) : last.root.up request.driver = false := by
  obtain ⟨root, after, same⟩ := Model.after_request stepped
  have state : (model.root.chart request.driver).state = .gone := bne_eq_false_iff_eq.mp gone
  rcases RootModel.after_cases admitted with ⟨-, after'⟩ | ⟨up, -⟩ | ⟨up, -⟩
  · obtain rfl := Option.some.inj (after.symm.trans after')
    rw [RootModel.up, same, RootModel.chart_settledAll, RootModel.chart_set_self,
      RootModel.settleChart, state, if_neg (by rintro ⟨-, other⟩; cases other), state]
    rfl
  · exact absurd state up
  · exact absurd state up

/-- What a settled fault leaves of a driver: gone, or running with one more restart spent. -/
theorem Model.after_fault {outcome : Outcome}
    (admitted : outcome ∈ model.expect (.root (.fault driver true)))
    (stepped : model.after (.root (.fault driver true)) outcome = some last) :
    last.root.up driver = false ∨
      (model.root.chart driver).model.hasBudget = true ∧
        (last.root.chart driver).model = (model.root.chart driver).model.spend := by
  have driven : (RootStep.fault driver true).driver = driver := rfl
  have calm (chart : DriverLifecycle) (which : List Driver) (state : chart.state ≠ .recovering) :
      RootModel.settleChart which driver chart = chart :=
    if_neg fun settles => state settles.2
  obtain ⟨root, after, same⟩ := Model.after_request stepped
  rcases RootModel.after_cases admitted with ⟨gone, -⟩ | ⟨-, -, after'⟩ | ⟨-, budget, after'⟩
  · left
    exact Model.after_request_gone admitted stepped (bne_eq_false_iff_eq.mpr gone)
  · obtain rfl := Option.some.inj (after.symm.trans after')
    left
    rw [RootModel.up, same, RootModel.chart_settledAll, driven, RootModel.chart_set_self, calm]
    · rfl
    · simp
  · obtain rfl := Option.some.inj (after.symm.trans after')
    right
    refine ⟨budget, ?_⟩
    rw [same, RootModel.chart_settledAll, driven, RootModel.chart_set_self, calm]
    change DriverState.running ≠ .recovering
    simp

/-- An unsettled fault leaves the driver gone or recovering. -/
theorem Model.after_unsettled {outcome : Outcome}
    (admitted : outcome ∈ model.expect (.root (.fault driver false)))
    (stepped : model.after (.root (.fault driver false)) outcome = some last) :
    last.root.up driver = false ∨ last.root.recovering driver = true := by
  have driven : (RootStep.fault driver false).driver = driver := rfl
  have apart : driver ∉ model.settling (.root (.fault driver false)) := by
    unfold Model.settling
    simp only [RootStep.settle, Bool.false_eq_true, if_false, List.mem_filter, driven,
      bne_self_eq_false, and_false, not_false_eq_true]
  have kept (chart : DriverLifecycle) :
      RootModel.settleChart (model.settling (.root (.fault driver false))) driver chart = chart :=
    if_neg fun settles => apart settles.1
  obtain ⟨root, after, same⟩ := Model.after_request stepped
  rcases RootModel.after_cases admitted with ⟨gone, -⟩ | ⟨-, -, after'⟩ | ⟨-, budget, after'⟩
  · left
    exact Model.after_request_gone admitted stepped (bne_eq_false_iff_eq.mpr gone)
  · obtain rfl := Option.some.inj (after.symm.trans after')
    left
    rw [RootModel.up, same, RootModel.chart_settledAll, driven, RootModel.chart_set_self, kept]
    rfl
  · obtain rfl := Option.some.inj (after.symm.trans after')
    right
    rw [RootModel.recovering, same, RootModel.chart_settledAll, driven, RootModel.chart_set_self,
      kept]
    rfl

theorem runs_faults_gone {count : Nat} {program : List (Step × Outcome)}
    (faults : program.map Prod.fst = List.replicate count (.root (.fault driver true)))
    (ran : Runs model program last) (gone : model.root.up driver = false) :
    last.root.up driver = false := by
  induction ran generalizing count with
  | nil => exact gone
  | cons admitted stepped _ ih =>
      cases count with
      | zero => cases faults
      | succ count =>
          obtain ⟨rfl, rest⟩ := List.cons.inj faults
          exact ih rest (Model.after_request_gone admitted stepped gone)

/-- One fault more than the budget left, and Root gives up. -/
theorem runs_faults_exhaust {count : Nat} {program : List (Step × Outcome)}
    (faults : program.map Prod.fst = List.replicate (count + 1) (.root (.fault driver true)))
    (ran : Runs model program last)
    (left : (model.root.chart driver).model.budget - (model.root.chart driver).model.spent ≤
      count) : last.root.up driver = false := by
  induction count generalizing model program with
  | zero =>
      cases ran with
      | nil => cases faults
      | cons admitted stepped ran =>
          obtain ⟨rfl, rest⟩ := List.cons.inj faults
          rcases Model.after_fault admitted stepped with gone | ⟨budget, -⟩
          · exact runs_faults_gone rest ran gone
          · rw [DriverRecord.hasBudget, decide_eq_true_eq] at budget
            omega
  | succ count ih =>
      cases ran with
      | nil => cases faults
      | cons admitted stepped ran =>
          obtain ⟨rfl, rest⟩ := List.cons.inj faults
          rcases Model.after_fault admitted stepped with gone | ⟨-, spent⟩
          · exact runs_faults_gone rest ran gone
          · refine ih rest ran ?_
            rw [spent, DriverRecord.spend]
            push_cast at left ⊢
            omega

end

/-! ### A fault on the file's sectors -/

namespace StorageModel

variable {storage next : StorageModel}

section

variable [ChartLibrary]

theorem evolveFault_frame {event : FaultEvent} {data : FaultRecord}
    (evolved : storage.evolveFault event data = some next) :
    ∃ fault, next = { storage with fault } := by
  obtain ⟨fault, -, same⟩ := Option.bind_eq_some_iff.mp evolved
  exact ⟨fault, (Option.some.inj same).symm⟩

theorem spend_frame {step : StorageStep} {outcome : Outcome}
    (spent : storage.spend step outcome = some next) : ∃ fault, next = { storage with fault } := by
  unfold spend at spent
  split at spent
  · exact ⟨_, (Option.some.inj spent).symm⟩
  · split at spent
    · exact ⟨_, (Option.some.inj spent).symm⟩
    · exact evolveFault_frame spent

/-- Arming touches the fault alone, and aims it when the file was found. -/
theorem after_arm {op : Op} {region : Region} {file : FileNumber} {once : Bool}
    {outcome : Outcome} (stepped : storage.after (.arm op region file once) outcome = some next) :
    ∃ fault, next = { storage with fault } ∧ (outcome = .status .present →
      fault = { state := .armed
                model := { op := some op, region := some region, file := some file, once } }) := by
  obtain ⟨spent, spending, rest⟩ := Option.bind_eq_some_iff.mp stepped
  obtain ⟨fault, rfl⟩ := spend_frame spending
  simp only [evolveFault, FaultLifecycle.evolved_aimed, FaultLifecycle.evolved_removed] at rest
  split at rest
  · exact ⟨_, (Option.some.inj rest).symm, fun _ => rfl⟩
  · next missing => exact ⟨_, (Option.some.inj rest).symm, fun found => absurd found missing⟩

end

/-- A put or get of a file may fail under a fault aimed at one of its regions. -/
theorem expect_aimed_fails {fault : FaultLifecycle} {region : Region} {file : FileNumber}
    {step : StorageStep} {op : Op} {up : Bool}
    (accesses : (∃ seed, step = .put file seed ∧ op = .write) ∨ (step = .get file ∧ op = .read))
    (aimed : fault = { state := .armed, model :=
      { op := some op, region := some region, file := some file, once := false } }) :
    AdmitsFailure ({ storage with fault }.expect step up) := by
  subst aimed
  rcases accesses with ⟨seed, rfl, rfl⟩ | ⟨rfl, rfl⟩
  · simp only [expect, armed]
    split
    · exact .anything
    · rw [if_pos (by simp)]
      simp only [faulted]
      rw [if_neg (by rintro ⟨other, -⟩; cases other)]
      exact AdmitsFailure.eio.union
  · simp only [expect, armed]
    split
    · exact .anything
    rw [if_pos (by simp)]
    simp only [faulted]
    split
    · rw [if_neg (by rintro (other | other) <;> cases other)]
      split
      · exact .eio
      · exact .anything
    next elsewhere =>
    rw [if_neg (by simp), if_neg]
    · exact AdmitsFailure.eio.union
    · rintro ⟨-, same⟩
      exact elsewhere ⟨trivial, same, trivial⟩

end StorageModel

/-! ### The hit and its cut -/

theorem mem_stepSectors {atom : Atom} (member : atom ∈ stepSectors step model) :
    ∃ region file, atom = .sectors region file ∧
      ((∃ seed, step = .storage (.put file seed)) ∨ step = .storage (.get file)) := by
  unfold stepSectors at member
  split at member
  · next file seed =>
    split at member
    · obtain ⟨region, -, rfl⟩ := List.mem_map.mp (List.mem_toFinset.mp member)
      exact ⟨region, file, rfl, .inl ⟨seed, rfl⟩⟩
    · exact absurd member (Finset.notMem_empty _)
  · next file =>
    split at member
    · obtain ⟨region, -, rfl⟩ := List.mem_map.mp (List.mem_toFinset.mp member)
      exact ⟨region, file, rfl, .inr rfl⟩
    · exact absurd member (Finset.notMem_empty _)
  · exact absurd member (Finset.notMem_empty _)

/-- The supports of a step through one driver: each alternative with the step's sectors. -/
theorem GoesThrough.lineage_eq (through : GoesThrough step driver) (model : Model) :
    lineage step model =
      (driverAlternatives model driver).map (stepSectors step model ∪ ·) := by
  rw [lineage, through.paths_eq, List.map_singleton, product, product]
  simp only [List.map_singleton, List.map_flatMap, List.foldl_cons, List.foldl_nil]
  induction driverAlternatives model driver with
  | nil => rfl
  | cons first rest ih => rw [List.flatMap_cons, List.map_cons, ih]; rfl

/-- An atom of an alternative is the driver's, and no region. -/
theorem driver?_of_mem_alternative {alternative : Finset Atom} {atom : Atom}
    (listed : alternative ∈ driverAlternatives model driver) (member : atom ∈ alternative) :
    atom.driver? = some driver ∧
      (atom = .instanceOf driver (model.root.chart driver).model.spent ∨
        (model.root.chart driver).model.hasBudget = true) := by
  unfold driverAlternatives at listed
  simp only [List.mem_cons] at listed
  rcases listed with rfl | listed
  · obtain rfl := Finset.mem_singleton.mp member
    exact ⟨rfl, .inl rfl⟩
  · split at listed
    · next budget =>
      obtain rfl := List.mem_singleton.mp listed
      rcases Finset.mem_insert.mp member with rfl | single
      · exact ⟨rfl, .inr budget⟩
      · obtain rfl := Finset.mem_singleton.mp single
        exact ⟨rfl, .inr budget⟩
    · exact absurd listed List.not_mem_nil

/-- The steps a cut inserts for a region of a file that is put. -/
theorem cut_put_sectors (model : Model) (region : Region) (file : FileNumber) (seed : Fin 256) :
    (cut {.sectors region file} (.storage (.put file seed)) model).1 =
      [.storage (.arm .write region file false)] := by
  cases region <;> fin_cases file <;> rfl

theorem cut_get_sectors (model : Model) (region : Region) (file : FileNumber) :
    (cut {.sectors region file} (.storage (.get file)) model).1 =
      [.storage (.arm .read region file false)] := by
  cases region <;> fin_cases file <;> rfl

/-- The steps a cut inserts for atoms of one driver. -/
theorem cut_driver {hit : Finset Atom} (alone : ∀ atom ∈ hit, atom.driver? = some driver)
    (some' : hit.Nonempty) : (cut hit step model).1 = cutDriver hit model driver := by
  have chosen (other : Driver) :
      (∃ atom ∈ hit, atom.driver? = some other) ↔ other = driver := by
    constructor
    · rintro ⟨atom, member, found⟩
      exact Option.some.inj (found.symm.trans (alone atom member))
    · rintro rfl
      obtain ⟨atom, member⟩ := some'
      exact ⟨atom, member, alone atom member⟩
  have regionless (region : Region) :
      (List.finRange files).flatMap (cutSectors hit step region) = [] := by
    refine List.flatMap_eq_nil_iff.mpr fun file _ => if_neg fun member => ?_
    cases alone _ member
  have one : ([Driver.blk, .eth, .serial, .timer].filter fun other =>
      decide (other = driver)) = [driver] := by
    cases driver <;> rfl
  simp only [cut, chosen, regionless, one, List.flatMap_cons, List.flatMap_nil, List.append_nil]

section

variable [ChartLibrary]

/-- After one armed region of its file the step may fail. -/
theorem arm_lets_fail {region : Region} {file : FileNumber} {step : StorageStep} {op : Op}
    {outcome : Outcome}
    (accesses : (∃ seed, step = .put file seed ∧ op = .write) ∨ (step = .get file ∧ op = .read))
    (admitted : outcome ∈ model.expect (.storage (.arm op region file false)))
    (stepped : model.after (.storage (.arm op region file false)) outcome = some last)
    (data : (model.storage.file file).state = .held ∨ (model.storage.file file).state = .corrupt) :
    AdmitsFailure (last.expect (.storage step)) := by
  have through : GoesThrough (.storage step) .blk := by
    rcases accesses with ⟨seed, rfl, -⟩ | ⟨rfl, -⟩
    · exact .put file seed
    · exact .get file
  cases up : last.root.up .blk with
  | false => exact through.fails_down up
  | true =>
  rw [Model.after_storage] at stepped
  obtain ⟨storage, after, rfl⟩ := Option.map_eq_some_iff.mp stepped
  obtain ⟨fault, rfl, aimed⟩ := StorageModel.after_arm after
  have fails : AdmitsFailure ({ model.storage with fault }.expect step true) := by
    by_cases damaged : model.storage.damaged = true
    · have anything' : { model.storage with fault }.expect step true = anything := by
        rcases accesses with ⟨seed, rfl, -⟩ | ⟨rfl, -⟩ <;> exact if_pos ⟨damaged, rfl⟩
      rw [anything']
      exact .anything
    · have found : outcome = .status .present := by
        have present : model.expect (.storage (.arm op region file false)) =
            expectStatus {.present} := by
          simp only [Model.expect, StorageModel.expect, StorageModel.unfaulted,
            StorageModel.present, if_neg damaged]
          rcases data with state | state <;> rw [state]
        rw [present, mem_expectStatus] at admitted
        obtain ⟨status, member, rfl⟩ := admitted
        rw [Finset.mem_singleton.mp member]
      exact StorageModel.expect_aimed_fails accesses (aimed found)
  rcases accesses with ⟨seed, rfl, -⟩ | ⟨rfl, -⟩
  · simp only [Model.expect, up]
    split
    · exact AdmitsFailure.failing.union
    · exact fails
  · simp only [Model.expect, up]
    split
    · exact AdmitsFailure.failing.union
    · exact fails

/-- The one admitted step of a run of one step. -/
theorem runs_one {program : List (Step × Outcome)} {inserted : Step}
    (one : program.map Prod.fst = [inserted]) (ran : Runs model program last) :
    ∃ outcome, outcome ∈ model.expect inserted ∧ model.after inserted outcome = some last := by
  cases ran with
  | nil => cases one
  | cons admitted stepped ran =>
      obtain ⟨rfl, none'⟩ := List.cons.inj one
      obtain rfl := List.map_eq_nil_iff.mp none'
      cases ran
      exact ⟨_, admitted, stepped⟩

/-- A region that belongs to every support is the whole of a minimal hit, and arming it lets
the step fail. -/
theorem sectors_cut_fails (through : GoesThrough step driver) {hit : Finset Atom}
    (minimal : Minimal (Transversal.Hits (lineage step model)) hit) {region : Region}
    {file : FileNumber} (member : .sectors region file ∈ stepSectors step model)
    (struck : .sectors region file ∈ hit) {program : List (Step × Outcome)}
    (inserted : program.map Prod.fst = (cut hit step model).1) (ran : Runs model program last) :
    AdmitsFailure (last.expect step) := by
  have shared : ∀ support ∈ lineage step model, Atom.sectors region file ∈ support := by
    rw [through.lineage_eq]
    intro support listed
    obtain ⟨alternative, -, rfl⟩ := List.mem_map.mp listed
    exact Finset.mem_union_left _ member
  obtain rfl := Transversal.eq_singleton_of_minimal minimal struck shared
  obtain ⟨_, _, same, accesses⟩ := mem_stepSectors member
  obtain ⟨rfl, rfl⟩ := Atom.sectors.inj same
  have data (number : FileNumber)
      (held : Atom.sectors region number ∈
        if (model.storage.file number).state = .held ∨ (model.storage.file number).state = .corrupt
        then (regions.map fun region => Atom.sectors region number).toFinset else ∅) :
      (model.storage.file number).state = .held ∨ (model.storage.file number).state = .corrupt := by
    by_contra bare
    rw [if_neg bare] at held
    exact absurd held (Finset.notMem_empty _)
  rcases accesses with ⟨seed, rfl⟩ | rfl
  · rw [cut_put_sectors] at inserted
    obtain ⟨outcome, admitted, stepped⟩ := runs_one inserted ran
    exact arm_lets_fail (.inl ⟨seed, rfl, rfl⟩) admitted stepped (data _ member)
  · rw [cut_get_sectors] at inserted
    obtain ⟨outcome, admitted, stepped⟩ := runs_one inserted ran
    exact arm_lets_fail (.inr ⟨rfl, rfl⟩) admitted stepped (data _ member)

/-- Faults on the driver that break its instance and its recovery let the step fail. -/
theorem driver_cut_fails (through : GoesThrough step driver) {hit : Finset Atom}
    (listed : .budget driver ∈ hit → (model.root.chart driver).model.hasBudget = true)
    (broken : (model.root.chart driver).model.hasBudget = true → .budget driver ∈ hit ∨
      ∃ atom ∈ hit, atom.driver? = some driver ∧ (atom matches .recovered ..) = true)
    {program : List (Step × Outcome)}
    (inserted : program.map Prod.fst = cutDriver hit model driver)
    (ran : Runs model program last) : AdmitsFailure (last.expect step) := by
  unfold cutDriver at inserted
  simp only at inserted
  split at inserted
  · next struck =>
    -- One fault more than the budget left, so Root gives up.
    have budget := listed struck
    rw [DriverRecord.hasBudget, decide_eq_true_eq] at budget
    obtain ⟨count, left⟩ := Int.eq_ofNat_of_zero_le (Int.le_of_lt (Int.sub_pos.mpr budget))
    rw [left, show ((count : Int) + 1).toNat = count + 1 from rfl] at inserted
    exact through.fails_down (runs_faults_exhaust inserted ran left.le)
  split at inserted
  · cases ran with
    | nil => cases inserted
    | cons admitted stepped ran =>
        obtain ⟨rfl, rest⟩ := List.cons.inj inserted
        obtain ⟨outcome, admitted', stepped'⟩ := runs_one rest ran
        rcases Model.after_unsettled admitted' stepped' with gone | recovering
        · exact through.fails_down gone
        · exact through.fails_recovering recovering
  · next unbroken unrecovered =>
    obtain ⟨outcome, admitted, stepped⟩ := runs_one inserted ran
    rcases Model.after_fault admitted stepped with gone | ⟨budget, -⟩
    · exact through.fails_down gone
    · rcases broken budget with struck | struck
      · exact absurd struck unbroken
      · exact absurd struck unrecovered

/-- Whatever the model, after the steps that a cut of a minimal hitting set of a step's lineage
inserts before it, on any outcomes the model admits for them, the step may fail. -/
theorem cut_lets_fail {model last : Model} {step : Step} {driver : Driver}
    (through : GoesThrough step driver) {hit : Finset Atom}
    (hits : hit ∈ hittingSets (lineage step model)) {program : List (Step × Outcome)}
    (inserted : program.map Prod.fst = (cut hit step model).1) (ran : Runs model program last) :
    hit.Nonempty ∧ AdmitsFailure (last.expect step) := by
  have some' : lineage step model ≠ [] := by
    rw [through.lineage_eq, Ne, List.map_eq_nil_iff]
    exact List.cons_ne_nil _ _
  obtain ⟨minimal, -⟩ := (mem_foldl_addSupport_iff some').mp (mem_hittingSets.mp hits)
  have supports := through.lineage_eq model
  have nonempty : hit.Nonempty := by
    obtain ⟨support, rest, same⟩ := List.exists_cons_of_ne_nil some'
    obtain ⟨atom, shared⟩ := minimal.prop support (same ▸ List.mem_cons_self)
    exact ⟨atom, (Finset.mem_inter.mp shared).1⟩
  refine ⟨nonempty, ?_⟩
  -- Every atom of the hit is the step's region or one of the driver's.
  have kinds (atom : Atom) (member : atom ∈ hit) : atom ∈ stepSectors step model ∨
      ∃ alternative ∈ driverAlternatives model driver, atom ∈ alternative := by
    obtain ⟨support, supported, only⟩ := Transversal.exists_edge_of_minimal minimal member
    rw [supports] at supported
    obtain ⟨alternative, listed, rfl⟩ := List.mem_map.mp supported
    have held := (Finset.mem_inter.mp (only ▸ Finset.mem_singleton_self atom)).2
    exact (Finset.mem_union.mp held).imp id fun held => ⟨alternative, listed, held⟩
  by_cases struck : ∃ atom ∈ hit, atom ∈ stepSectors step model
  · obtain ⟨atom, member, sector⟩ := struck
    obtain ⟨region, file, rfl, -⟩ := mem_stepSectors sector
    exact sectors_cut_fails through minimal sector member inserted ran
  have driven (atom : Atom) (member : atom ∈ hit) :
      ∃ alternative ∈ driverAlternatives model driver, atom ∈ alternative :=
    (kinds atom member).resolve_left fun sector => struck ⟨atom, member, sector⟩
  have alone (atom : Atom) (member : atom ∈ hit) : atom.driver? = some driver := by
    obtain ⟨alternative, listed, held⟩ := driven atom member
    exact (driver?_of_mem_alternative listed held).1
  rw [cut_driver alone nonempty] at inserted
  refine driver_cut_fails through (fun member => ?_) (fun budget => ?_) inserted ran
  · obtain ⟨alternative, listed, held⟩ := driven _ member
    rcases (driver?_of_mem_alternative listed held).2 with other | budget
    · cases other
    · exact budget
  · -- The recovery is a support of its own, so the hit meets it.
    have listed : stepSectors step model ∪
        {.recovered driver ((model.root.chart driver).model.spent + 1), .budget driver} ∈
          lineage step model := by
      rw [supports, List.mem_map]
      refine ⟨_, ?_, rfl⟩
      unfold driverAlternatives
      simp only [if_pos budget]
      exact List.mem_cons_of_mem _ (List.mem_singleton_self _)
    obtain ⟨atom, shared⟩ := minimal.prop _ listed
    obtain ⟨member, held⟩ := Finset.mem_inter.mp shared
    rcases Finset.mem_union.mp held with sector | pair
    · exact absurd ⟨atom, member, sector⟩ struck
    rcases Finset.mem_insert.mp pair with rfl | single
    · exact .inr ⟨_, member, rfl, rfl⟩
    · obtain rfl := Finset.mem_singleton.mp single
      exact .inl member

end

section

open scoped ChartLibrary

/-- One file written, and one restart left. -/
def writtenModel (file : FileNumber) (seed : Fin 256) : Model :=
  ((Model.start 1).after (.storage (.put file seed)) (.status .ok)).getD (Model.start 1)

/-- Its read would succeed. One more fault than the budget allows cuts it, and so does a read
fault on its data. -/
theorem cut_lets_fail_sample :
    Runs (Model.start 1) [(.storage (.put 1 5), .status .ok)] (writtenModel 1 5) ∧
      (writtenModel 1 5).expect (.storage (.get 1)) = expectOne (.seed 5) ∧
      (∃ last, Runs (writtenModel 1 5) [(.root (.fault .blk false), .restarted .restart 1),
          (.root (.fault .blk false), .gaveUp "budget-exhausted")] last ∧
        AdmitsFailure (last.expect (.storage (.get 1)))) ∧
      ∃ last, Runs (writtenModel 1 5)
          [(.storage (.arm .read .data 1 false), .status .present)] last ∧
        AdmitsFailure (last.expect (.storage (.get 1))) := by
  have driver : {Atom.instanceOf .blk 0, .recovered .blk 1} ∈
      hittingSets (lineage (.storage (.get 1)) (writtenModel 1 5)) :=
    mem_hittingSets.mpr (by decide +kernel)
  have sector : {Atom.sectors .data 1} ∈
      hittingSets (lineage (.storage (.get 1)) (writtenModel 1 5)) :=
    mem_hittingSets.mpr (by decide +kernel)
  have faulted : ∃ last, Runs (writtenModel 1 5)
      [(.root (.fault .blk false), .restarted .restart 1),
        (.root (.fault .blk false), .gaveUp "budget-exhausted")] last :=
    ⟨_, .cons (.inr (by decide +kernel)) rfl (.cons (.inr (by decide +kernel)) rfl .nil)⟩
  have armed : ∃ last, Runs (writtenModel 1 5)
      [(.storage (.arm .read .data 1 false), .status .present)] last :=
    ⟨_, .cons (.inr (by decide +kernel)) rfl .nil⟩
  obtain ⟨stopped, faulted⟩ := faulted
  obtain ⟨aimed, armed⟩ := armed
  exact ⟨.cons (.inr (by decide +kernel)) rfl .nil, by decide +kernel,
    ⟨stopped, faulted, (cut_lets_fail (.get 1) driver (by decide +kernel) faulted).2⟩,
    aimed, armed, (cut_lets_fail (.get 1) sector (by decide +kernel) armed).2⟩

end

end Chrysopolis.Testbed.Faults
