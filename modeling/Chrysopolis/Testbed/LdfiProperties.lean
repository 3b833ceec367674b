import Chrysopolis.Support.BreadthFirst
import Chrysopolis.Testbed.Ldfi
import Chrysopolis.Testbed.SteerProperties

/-! The search of `ldfi.py`: it spends no more runs than it has and none twice, goes breadth first
and misses nothing it has runs for, and every program it runs is a seed or a minimal cut of a
success that the model admits. -/

set_option autoImplicit false

namespace Chrysopolis.Testbed.Faults

open Chrysopolis.Support

/-! ### One run -/

section

variable {model last before : Model} {step : Step} {seen : Outcome} {program : Program}
variable {shown : Trace}

/-- A program that was checked to its end is a run of the model, and the trace shows where each of
its steps was taken. -/
theorem check_runs [ChartLibrary] {performed : Nat → Option Outcome} {n : Nat}
    (checked : check performed n model program = (shown, some last)) :
    shown.map Prod.fst = program ∧
      ∀ index step seen before, shown[index]? = some (step, seen, before) →
        seen ∈ before.expect step ∧ ∃ run, Runs model run before ∧
          run.map Prod.fst = program.take index := by
  induction program generalizing n model shown with
  | nil =>
      cases checked
      exact ⟨rfl, fun index _ _ _ found => by simp at found⟩
  | cons head rest ih =>
      unfold check at checked
      split at checked
      · cases checked
      · next seen' _ =>
        split at checked
        · next admitted =>
          split at checked
          · cases checked
          · next next stepped =>
            obtain ⟨rfl, ended⟩ := Prod.mk.inj checked
            obtain ⟨steps, shows⟩ := ih (Prod.ext rfl ended)
            refine ⟨by rw [List.map_cons, steps], fun index step seen before found => ?_⟩
            cases index with
            | zero =>
                cases found
                exact ⟨admitted, [], .nil, rfl⟩
            | succ index =>
                obtain ⟨allowed, run, ran, taken⟩ := shows index _ _ _ found
                exact ⟨allowed, _, .cons admitted stepped ran, by
                  rw [List.map_cons, taken, List.take_succ_cons]⟩
        · cases checked

namespace Ldfi

/-- What passes was checked to its end. -/
theorem execute_passed [ChartLibrary] {budget : Int} {machine : Machine}
    (passed : (execute budget machine program).failure = none) :
    ∃ last, check machine.performed 0 (.start budget) program =
      ((execute budget machine program).trace, some last) := by
  unfold execute at passed ⊢
  split at passed
  · cases passed
  · next up =>
    rw [if_neg up]
    cases checked : check machine.performed 0 (.start budget) program with
    | mk shown last =>
        simp only [checked] at passed ⊢
        cases last with
        | none => cases passed
        | some last =>
            cases read : machine.events with
            | none => simp [read] at passed
            | some events =>
                simp only [read] at passed ⊢
                split at passed
                · exact ⟨last, rfl⟩
                · cases passed

end Ldfi

/-! ### Cuts -/

/-- A hit that cuts anything is minimal and small, and of a step that goes through a driver. -/
theorem hit_of_mem {hit : Finset Atom} (listed : hit ∈ hittingSets (lineage step model))
    (some_ : hit ≠ ∅) : (∃ driver, GoesThrough step driver) ∧
      Minimal (Transversal.Hits (lineage step model)) hit ∧ hit.card ≤ 2 := by
  have supported : lineage step model ≠ [] := by
    intro none_
    rw [none_, mem_hittingSets] at listed
    exact some_ (Finset.mem_singleton.mp listed)
  obtain ⟨minimal, small⟩ := (mem_foldl_addSupport_iff supported).mp (mem_hittingSets.mp listed)
  refine ⟨?_, minimal, by exact_mod_cast small⟩
  -- Nothing meets the empty support of a step that goes through none.
  have meets (same : lineage step model = [∅]) : False := by
    obtain ⟨atom, inside⟩ := minimal.prop ∅ (by rw [same]; exact List.mem_singleton_self _)
    rw [Finset.inter_empty] at inside
    cases inside
  cases step with
  | root | reset | crashPut => exact (meets rfl).elim
  | storage step =>
      cases step with
      | put file seed => exact ⟨.blk, .put file seed⟩
      | get file => exact ⟨.blk, .get file⟩
      | arm | disarm | corrupt => exact (meets rfl).elim
  | net step =>
      cases step with
      | ping => exact ⟨.eth, .ping⟩
      | unplug | pause => exact (meets rfl).elim

theorem driver_of_hit {hit : Finset Atom} {driver other : Driver}
    (through : GoesThrough step driver)
    (minimal : Minimal (Transversal.Hits (lineage step model)) hit) {atom : Atom}
    (member : atom ∈ hit) (named : atom.driver? = some other) : other = driver := by
  obtain ⟨support, supported, only⟩ := Transversal.exists_edge_of_minimal minimal member
  rw [through.lineage_eq] at supported
  obtain ⟨alternative, listed, rfl⟩ := List.mem_map.mp supported
  have held := (Finset.mem_inter.mp (only ▸ Finset.mem_singleton_self atom)).2
  rcases Finset.mem_union.mp held with sector | held
  · obtain ⟨region, file, rfl, -⟩ := mem_stepSectors sector
    cases named
  · exact Option.some.inj (named.symm.trans (driver?_of_mem_alternative listed held).1)

/-- A cut inserts requests to no driver but the one the step goes through. -/
theorem request_of_cut {hit : Finset Atom} {driver other : Driver}
    (through : GoesThrough step driver)
    (minimal : Minimal (Transversal.Hits (lineage step model)) hit) {inserted : Step}
    (listed : inserted ∈ (cut hit step model).1 ∨ inserted ∈ (cut hit step model).2)
    (request : inserted.request? = some other) : other = driver := by
  have free {region : Region} {file : FileNumber}
      (armed : inserted ∈ cutSectors hit step region file) : inserted.request? = none := by
    unfold cutSectors at armed
    dsimp only at armed
    split_ifs at armed
    · obtain rfl := List.mem_singleton.mp armed
      rfl
    · cases armed
  simp only [cut, List.mem_append, List.mem_map, List.mem_flatMap, List.mem_filter,
    decide_eq_true_eq] at listed
  rcases listed with (⟨chosen, ⟨-, atom, member, named⟩, listed⟩ | ⟨region, -, file, -, armed⟩) |
    ⟨_, -, rfl⟩
  · obtain rfl := driver_of_hit through minimal member named
    have faults : inserted.request? = some chosen := by
      unfold cutDriver at listed
      dsimp only at listed
      split_ifs at listed
      · rw [List.eq_of_mem_replicate listed]
        rfl
      · rcases List.mem_pair.mp listed with rfl | rfl <;> rfl
      · rw [List.mem_singleton.mp listed]
        rfl
    exact (Option.some.inj (faults.symm.trans request)).symm
  · rw [free armed] at request
    cases request
  · cases request

/-- A program with a success of it cut: where the step stands the model admits it, from the boot
on, and the hit is a minimal one of its supports. -/
structure CutOf [ChartLibrary] (budget : Int) (program edited : Program) (hit : Finset Atom) :
    Prop where
  cut : ∃ index step seen driver before run,
    Runs (Model.start budget) run before ∧ run.map Prod.fst = program.take index ∧
    program[index]? = some step ∧ seen ∈ before.expect step ∧ succeeded step seen = true ∧
    GoesThrough step driver ∧ Minimal (Transversal.Hits (lineage step before)) hit ∧
    edited = program.take index ++ (cut hit step before).1 ++ step :: (cut hit step before).2 ++
      program.drop (index + 1)
  small : hit.card ≤ 2
  short : edited.length ≤ Ldfi.maxSteps

/-- What passed is cut where the model admits it. -/
theorem cutOf_candidates [ChartLibrary] {budget : Int} {machine : Machine}
    (passed : (Ldfi.execute budget machine program).failure = none) {index : Nat}
    {hit : Finset Atom} {edited : Program}
    (listed : (index, hit, edited) ∈
      candidates program (Ldfi.execute budget machine program).trace)
    (short : edited.length ≤ Ldfi.maxSteps) : CutOf budget program edited hit := by
  obtain ⟨last, checked⟩ := Ldfi.execute_passed passed
  obtain ⟨⟨⟨step, seen, before⟩, place⟩, found, listed⟩ := List.mem_flatMap.mp listed
  have shows := List.mk_mem_zipIdx_iff_getElem?.mp found
  dsimp only at listed
  split at listed
  · next success =>
    obtain ⟨candidate, hits, listed⟩ := List.mem_filterMap.mp listed
    split at listed
    · cases listed
    · next some_ =>
      obtain ⟨program', edits, same⟩ := Option.map_eq_some_iff.mp listed
      cases same
      obtain ⟨steps, trail⟩ := check_runs checked
      obtain ⟨admitted, run, ran, taken⟩ := trail _ _ _ _ shows
      have here : program[index]? = some step := by
        rw [← steps, List.getElem?_map, shows]
        rfl
      rw [edit, here, Option.map_some] at edits
      obtain ⟨⟨driver, through⟩, minimal, small⟩ := hit_of_mem hits some_
      exact ⟨⟨index, step, seen, driver, before, run, ran, taken, here, admitted, success,
        through, minimal, (Option.some.inj edits).symm⟩, small, short⟩
  · cases listed

/-- The console and the clock are asked nothing more by a cut. -/
theorem CutOf.requests [ChartLibrary] {budget : Int} {edited : Program} {hit : Finset Atom}
    (cutOf : CutOf budget program edited hit) {driver : Driver} (kept : driver ∈ keptDrivers) :
    requests driver edited = requests driver program := by
  obtain ⟨index, step, seen, other, before, run, -, -, here, -, -, through, minimal, rfl⟩ :=
    cutOf.cut
  have apart : driver ≠ other := by
    rintro rfl
    cases through <;> simp [keptDrivers] at kept
  have none_ {inserted : List Step} (listed : ∀ added ∈ inserted,
      added ∈ (Faults.cut hit step before).1 ∨ added ∈ (Faults.cut hit step before).2) :
      inserted.countP (fun step => step.request? = some driver) = 0 := by
    rw [List.countP_eq_zero]
    intro added member
    rw [decide_eq_true_eq]
    exact fun request => apart (request_of_cut through minimal (listed added member) request)
  have inside := (List.getElem?_eq_some_iff.mp here).1
  have split : program = program.take index ++ step :: program.drop (index + 1) := by
    rw [← (List.getElem?_eq_some_iff.mp here).2, List.getElem_cons_drop, List.take_append_drop]
  conv_rhs => rw [split]
  simp only [Faults.requests, List.countP_append, List.countP_cons,
    none_ fun _ listed => .inl listed, none_ fun _ listed => .inr listed]
  omega

end

/-! ### The search -/

namespace Ldfi

open BreadthFirst (Entry Searched)

/-- A program with the cut that gave it; they are told apart by the program. -/
abbrev Item := Program × String

def Node.entry (node : Node) : Entry Item := ⟨(node.program, node.cut), node.parent⟩

def Record.entry (record : Record) : Entry Item := ⟨(record.program, record.cut), record.parent⟩

variable {runs : Nat → Program → Run} {perRun : Nat}

/-- What a run adds to the queue. -/
def expand (runs : Nat → Program → Run) (perRun number : Nat) (item : Item) : List Item :=
  if (runs number item.1).failure.isSome then []
  else (cuts perRun number item.1 (runs number item.1).trace).map fun node =>
    (node.program, node.cut)

/-- The report tells of each run in turn, and the corpus of those that failed. -/
structure Recorded (runs : Nat → Program → Run) (search : Search) : Prop where
  record : ∀ number record, search.report[number]? = some record → record.run = number ∧
    record.failure = (runs number record.program).failure
  corpus : search.corpus = (search.report.filter fun record => record.failure.isSome).map
    fun record => (record.cut, record.program)
  tried : ∀ program, program ∈ search.tried ↔ program ∈ search.report.map (·.program)

theorem Recorded.visit {search : Search} (recorded : Recorded runs search) (perRun : Nat)
    (node : Node) (rest : List Node) :
    Recorded runs (search.visit perRun search.report.length node rest
      (runs search.report.length node.program)) where
  record := fun number record found => by
    dsimp only [Search.visit] at found
    rcases Nat.lt_or_ge number search.report.length with inside | outside
    · rw [List.getElem?_append_left inside] at found
      exact recorded.record number record found
    · rw [List.getElem?_append_right outside, List.getElem?_singleton] at found
      split at found
      · next same =>
        have here : number = search.report.length := by omega
        cases found
        exact ⟨here.symm, by rw [here]⟩
      · cases found
  corpus := by
    simp only [Search.visit, recorded.corpus, List.filter_append, List.map_append,
      List.filter_singleton]
    cases (runs search.report.length node.program).failure <;> rfl
  tried := fun program => by
    simp only [Search.visit, List.mem_cons, recorded.tried, List.map_append, List.mem_append,
      List.map_cons, List.map_nil, List.not_mem_nil, or_false]
    exact or_comm

theorem cuts_parent {number : Nat} {program : Program} {shown : Trace} {node : Node}
    (listed : node ∈ cuts perRun number program shown) : node.parent = some number := by
  obtain ⟨⟨_, hit, edited⟩, -, made⟩ := List.mem_filterMap.mp listed
  dsimp only at made
  split at made
  · cases made
    rfl
  · cases made

theorem Recorded.waiting {search : Search} (recorded : Recorded runs search) :
    BreadthFirst.waiting Prod.fst (search.report.map Record.entry) (search.queue.map Node.entry) =
      (search.queue.dropWhile fun node => node.program ∈ search.tried).map Node.entry := by
  rw [BreadthFirst.waiting, List.dropWhile_map]
  congr 2
  funext node
  rw [Function.comp_apply, decide_eq_decide, recorded.tried, BreadthFirst.keys, List.map_map]
  rfl

theorem expansion_visit (visited : List Record) (node : Node) :
    BreadthFirst.expansion (expand runs perRun) (visited.map Record.entry) node.entry =
      (if (runs visited.length node.program).failure.isSome then []
        else cuts perRun visited.length node.program
          (runs visited.length node.program).trace).map Node.entry := by
  rw [BreadthFirst.expansion, List.length_map, expand]
  have same : node.entry.item.1 = node.program := rfl
  rw [same]
  split
  · rfl
  · rw [List.map_map]
    exact List.map_congr_left fun added listed => by
      rw [Function.comp_apply, Node.entry, cuts_parent listed]

/-- The loop is a breadth-first search. -/
theorem loop_search {search : Search} (recorded : Recorded runs search) (perRun left : Nat) :
    Recorded runs (search.loop runs perRun left search.report.length) ∧
      (search.loop runs perRun left search.report.length).report.map Record.entry =
        BreadthFirst.search Prod.fst (expand runs perRun) left
          (search.report.map Record.entry) (search.queue.map Node.entry) := by
  induction left generalizing search with
  | zero => exact ⟨recorded, rfl⟩
  | succ left ih =>
      unfold Search.loop BreadthFirst.search
      rw [recorded.waiting]
      cases search.queue.dropWhile fun node => node.program ∈ search.tried with
      | nil => exact ⟨⟨recorded.record, recorded.corpus, recorded.tried⟩, rfl⟩
      | cons node rest =>
          have later := ih (recorded.visit perRun node rest)
          have length : (search.visit perRun search.report.length node rest
              (runs search.report.length node.program)).report.length =
                search.report.length + 1 := by
            simp [Search.visit]
          rw [length] at later
          refine ⟨later.1, later.2.trans ?_⟩
          simp only [Search.visit, List.map_append, List.map_cons, List.map_nil]
          rw [expansion_visit]
          rfl

theorem mem_expand {number : Nat} {parent item : Item} :
    item ∈ expand runs perRun number parent ↔
      (runs number parent.1).failure = none ∧ ∃ candidate ∈
        (candidates parent.1 (runs number parent.1).trace).take perRun,
          candidate.2.2.length ≤ maxSteps ∧ (candidate.2.2, describe candidate.2.1) = item := by
  unfold expand cuts
  cases (runs number parent.1).failure with
  | some failure => simp
  | none =>
      simp only [Option.isSome_none, Bool.false_eq_true, if_false, List.mem_map,
        List.mem_filterMap, true_and]
      constructor
      · rintro ⟨node, ⟨candidate, listed, made⟩, rfl⟩
        split at made
        · next short =>
          cases made
          exact ⟨candidate, listed, short, rfl⟩
        · cases made
      · rintro ⟨candidate, listed, short, rfl⟩
        exact ⟨_, ⟨candidate, listed, if_pos short⟩, rfl⟩

/-- What a search found, of what each boot's machine does. -/
structure Explored [ChartLibrary] (budget : Int) (machines : Nat → Machine) (boots perRun : Nat)
    (seeds : List Program) (found : Search) : Prop where
  spent : found.report.length ≤ boots
  record : ∀ number record, found.report[number]? = some record → record.run = number ∧
    record.failure = (execute budget (machines number) record.program).failure
  once : (found.report.map (·.program)).Nodup
  origin : ∀ record ∈ found.report,
    (record.parent = none ∧ record.cut = "seed" ∧ record.program ∈ seeds) ∨
      ∃ parent ∈ found.report, record.parent = some parent.run ∧ parent.run < record.run ∧
        parent.failure = none ∧ ∃ hit, record.cut = describe hit ∧
          CutOf budget parent.program record.program hit
  /-- How many cuts lie behind a run never falls from one run to the next. -/
  breadth : ∀ generation : Nat → Nat, (∀ record ∈ found.report, generation record.run =
      record.parent.elim 0 fun parent => generation parent + 1) →
    ∀ first ∈ found.report, ∀ second ∈ found.report, first.run ≤ second.run →
      generation first.run ≤ generation second.run
  corpus : found.corpus = (found.report.filter fun record => record.failure.isSome).map
    fun record => (record.cut, record.program)
  /-- A search that stops early ran every seed and, of every run that passed, every cut. -/
  exhausted : found.report.length < boots →
    (∀ seed ∈ seeds, seed ∈ found.report.map (·.program)) ∧
      ∀ record ∈ found.report, record.failure = none →
        ∀ cut ∈ (candidates record.program
          (execute budget (machines record.run) record.program).trace).take perRun,
            cut.2.2.length ≤ maxSteps → cut.2.2 ∈ found.report.map (·.program)
  /-- Whatever the model admits of them, no program loses the console or the clock if no seed
  asks for more than the budget. -/
  survives : (∀ seed ∈ seeds, trim seed budget = seed) → ∀ record ∈ found.report,
    ∀ disk run last, Runs (Model.start budget disk) run last →
      run.map Prod.fst <+: record.program → ∀ driver ∈ keptDrivers, last.root.up driver = true

variable {budget : Int} {machines : Nat → Machine} {boots : Nat} {seeds : List Program}

/-- The search as the loop leaves it. -/
theorem explore_search (runs : Nat → Program → Run) (boots perRun : Nat) (seeds : List Program) :
    Recorded runs (explore runs boots perRun seeds) ∧
      Searched Prod.fst (expand runs perRun) (seeds.map fun seed => (seed, "seed")) boots
        ((explore runs boots perRun seeds).report.map Record.entry) := by
  have start : Recorded runs { queue := seeds.map seedNode } := {
    record := fun _ _ found => nomatch found
    corpus := rfl
    tried := fun _ => .rfl }
  obtain ⟨recorded, report⟩ := loop_search start perRun boots
  refine ⟨recorded, ?_⟩
  have searched := (BreadthFirst.searching_start Prod.fst (expand runs perRun)
    (seeds.map fun seed => (seed, "seed"))).searched boots
  rw [List.length_nil, Nat.zero_add, List.map_map] at searched
  have same : (explore runs boots perRun seeds).report.map Record.entry = _ := report
  rw [same, List.map_map]
  exact searched

section

variable {found : Search} (recorded : Recorded runs found)
  (searched : Searched Prod.fst (expand runs perRun) (seeds.map fun seed => (seed, "seed")) boots
    (found.report.map Record.entry))

include recorded in
theorem Recorded.mem {record : Record} (listed : record ∈ found.report) :
    found.report[record.run]? = some record := by
  obtain ⟨number, at_⟩ := List.mem_iff_getElem?.mp listed
  rwa [(recorded.record number record at_).1]

include recorded searched in
/-- Where a record comes from. -/
theorem Recorded.origin {record : Record} (listed : record ∈ found.report) :
    (record.parent = none ∧ record.cut = "seed" ∧ record.program ∈ seeds) ∨
      ∃ parent ∈ found.report, record.parent = some parent.run ∧ parent.run < record.run ∧
        parent.failure = none ∧ (record.program, record.cut) ∈
          expand runs perRun parent.run (parent.program, parent.cut) := by
  have here := recorded.mem listed
  have entry : (found.report.map Record.entry)[record.run]? = some record.entry := by
    rw [List.getElem?_map, here]
    rfl
  rcases searched.visits record.run _ entry with ⟨root, seeded⟩ |
    ⟨number, parent, parented, found_, child⟩
  · obtain ⟨seed, seeded, same⟩ := List.mem_map.mp seeded
    obtain ⟨rfl, cut⟩ : seed = record.program ∧ "seed" = record.cut := Prod.mk.inj same
    exact .inl ⟨root, cut.symm, seeded⟩
  · rw [← List.map_take, List.getElem?_map, List.getElem?_take] at found_
    split at found_
    · next before =>
      obtain ⟨older, at_, rfl⟩ := Option.map_eq_some_iff.mp found_
      obtain ⟨run, failure⟩ := recorded.record number older at_
      refine .inr ⟨older, List.mem_of_getElem? at_, by rw [run]; exact parented,
        by rwa [run], ?_, by rw [run]; exact child⟩
      rw [failure]
      exact (mem_expand.mp child).1
    · cases found_

end

/-- Whatever the machines do. -/
theorem explore_explored [ChartLibrary] (budget : Int) (machines : Nat → Machine)
    (boots perRun : Nat) (seeds : List Program) : Explored budget machines boots perRun seeds
      (explore (fun number => execute budget (machines number)) boots perRun seeds) := by
  obtain ⟨recorded, searched⟩ :=
    explore_search (fun number => execute budget (machines number)) boots perRun seeds
  generalize explore (fun number => execute budget (machines number)) boots perRun seeds = found
    at recorded searched
  have keys : BreadthFirst.keys Prod.fst (found.report.map Record.entry) =
      found.report.map (·.program) := by
    rw [BreadthFirst.keys, List.map_map]
    rfl
  have origin (record : Record) (listed : record ∈ found.report) :
      (record.parent = none ∧ record.cut = "seed" ∧ record.program ∈ seeds) ∨
        ∃ parent ∈ found.report, record.parent = some parent.run ∧ parent.run < record.run ∧
          parent.failure = none ∧ ∃ hit, record.cut = describe hit ∧
            CutOf budget parent.program record.program hit := by
    refine (recorded.origin searched listed).imp id ?_
    rintro ⟨parent, older, parented, before, passed, child⟩
    refine ⟨parent, older, parented, before, passed, ?_⟩
    obtain ⟨passes, ⟨index, hit, edited⟩, candidate, short, same⟩ := mem_expand.mp child
    obtain ⟨rfl, cut⟩ : edited = record.program ∧ describe hit = record.cut := Prod.mk.inj same
    exact ⟨hit, cut.symm, cutOf_candidates passes (List.mem_of_mem_take candidate) short⟩
  exact {
    spent := by simpa using searched.spent
    record := recorded.record
    once := keys ▸ searched.once
    origin
    breadth := fun generation counts first one second two order => by
      refine searched.generations (fun number entry at_ => ?_) order ?_
      · rw [List.getElem?_map] at at_
        obtain ⟨record, here, rfl⟩ := Option.map_eq_some_iff.mp at_
        rw [← (recorded.record number record here).1]
        exact counts record (List.mem_of_getElem? here)
      · rw [List.length_map]
        exact (List.getElem?_eq_some_iff.mp (recorded.mem two)).1
    corpus := recorded.corpus
    exhausted := fun early => by
      obtain ⟨roots, expanded⟩ := searched.exhausted (by rwa [List.length_map])
      rw [keys] at roots expanded
      refine ⟨fun seed seeded => roots (seed, "seed") (List.mem_map_of_mem seeded),
        fun record listed passed cut candidate short => ?_⟩
      have here := recorded.mem listed
      have entry : (found.report.map Record.entry)[record.run]? = some record.entry := by
        rw [List.getElem?_map, here]
        rfl
      refine expanded record.run _ entry (cut.2.2, describe cut.2.1) (mem_expand.mpr ⟨?_, cut,
        candidate, short, rfl⟩)
      rw [← passed, (recorded.record record.run record here).2]
      rfl
    survives := fun trimmed => by
      have within (number : Nat) : ∀ record ∈ found.report, record.run = number →
          trim record.program budget = record.program := by
        induction number using Nat.strongRecOn with
        | _ number ih =>
            intro record listed here
            rcases origin record listed with ⟨-, -, seeded⟩ |
              ⟨parent, older, -, before, -, hit, -, cutOf⟩
            · exact trimmed _ seeded
            · have kept := trim_eq_self_iff.mp (ih parent.run (here ▸ before) parent older rfl)
              refine trim_eq_self_iff.mpr fun driver stays => ?_
              rw [cutOf.requests stays]
              exact kept driver stays
      intro record listed disk run last ran inside
      rw [← within record.run record listed rfl] at inside
      exact trim_survives ran inside }

end Ldfi

end Chrysopolis.Testbed.Faults
