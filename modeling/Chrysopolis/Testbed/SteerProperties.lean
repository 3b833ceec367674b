import Chrysopolis.Testbed.LineageProperties
import Chrysopolis.Testbed.Steer

/-! Steered generation: what is drawn is a run that the model admits, no program loses the console
or the clock whatever the model admits of it, and a scenario that aims finds its target. -/

set_option autoImplicit false

namespace Chrysopolis.Testbed.Faults

open Chrysopolis.Support

/-! ### `trim` -/

/-- The requests of a program to one driver. -/
def requests (driver : Driver) (program : Program) : Nat :=
  program.countP fun step => step.request? = some driver

@[simp] theorem counted_self (spent : Driver → Nat) (driver : Driver) :
    counted spent driver driver = spent driver + 1 := Function.update_self ..

theorem counted_of_ne {driver asked : Driver} (ne : driver ≠ asked) (spent : Driver → Nat) :
    counted spent asked driver = spent driver := Function.update_of_ne ne ..

theorem requests_cons_self {driver : Driver} {step : Step} (request : step.request? = some driver)
    (rest : Program) : requests driver (step :: rest) = requests driver rest + 1 :=
  List.countP_cons_of_pos (by simpa using request)

theorem requests_cons_of_ne {driver : Driver} {step : Step} (other : step.request? ≠ some driver)
    (rest : Program) : requests driver (step :: rest) = requests driver rest :=
  List.countP_cons_of_neg (by simpa using other)

theorem trimKept_sublist (budget : Int) (spent : Driver → Nat) (program : Program) :
    (trimKept budget spent program).Sublist program := by
  fun_induction trimKept budget spent program with
  | case1 => exact .refl _
  | case2 _ _ _ _ ih => exact ih.cons_cons _
  | case3 _ _ _ _ _ _ _ ih => exact ih.cons _
  | case4 _ _ _ _ _ _ _ ih => exact ih.cons_cons _
  | case5 _ _ _ _ _ _ ih => exact ih.cons_cons _

/-- No more requests are kept than the budget has room for. -/
theorem requests_trimKept_le {budget : Int} {driver : Driver} (kept : driver ∈ keptDrivers)
    (spent : Driver → Nat) (program : Program) :
    requests driver (trimKept budget spent program) = 0 ∨
      (spent driver + requests driver (trimKept budget spent program) : Int) ≤ budget := by
  fun_induction trimKept budget spent program with
  | case1 => exact .inl rfl
  | case2 spent step rest other ih =>
      rwa [requests_cons_of_ne (by rw [other]; exact nofun)]
  | case3 spent step rest asked request aimed past ih =>
      by_cases same : driver = asked
      · subst same
        rw [counted_self] at ih past
        omega
      · rwa [counted_of_ne same] at ih
  | case4 spent step rest asked request aimed past ih =>
      by_cases same : driver = asked
      · subst same
        rw [counted_self] at ih past
        rw [requests_cons_self request]
        omega
      · rw [counted_of_ne same] at ih
        rwa [requests_cons_of_ne (by rw [request]; simpa using Ne.symm same)]
  | case5 spent step rest asked request free ih =>
      rwa [requests_cons_of_ne (by rw [request]; rintro ⟨⟩; exact free kept)]

/-- A program within the budget loses nothing. -/
theorem trimKept_eq_self {budget : Int} {spent : Driver → Nat} {program : Program}
    (within : ∀ driver ∈ keptDrivers, requests driver program = 0 ∨
      (spent driver + requests driver program : Int) ≤ budget) :
    trimKept budget spent program = program := by
  fun_induction trimKept budget spent program with
  | case1 => rfl
  | case2 spent step rest other ih =>
      rw [ih fun driver kept => ?_]
      have room := within driver kept
      rwa [requests_cons_of_ne (by rw [other]; exact nofun)] at room
  | case3 spent step rest asked request aimed past ih =>
      exfalso
      have room := within asked aimed
      rw [requests_cons_self request] at room
      rw [counted_self] at past
      omega
  | case4 spent step rest asked request aimed past ih =>
      rw [ih fun driver kept => ?_]
      have room := within driver kept
      by_cases same : driver = asked
      · subst same
        rw [requests_cons_self request] at room
        rw [counted_self]
        omega
      · rw [counted_of_ne same]
        rwa [requests_cons_of_ne (by rw [request]; simpa using Ne.symm same)] at room
  | case5 spent step rest asked request free ih =>
      rw [ih fun driver kept => ?_]
      have room := within driver kept
      rwa [requests_cons_of_ne (by rw [request]; rintro ⟨⟩; exact free kept)] at room

theorem requests_trim_le {driver : Driver} (kept : driver ∈ keptDrivers) (program : Program)
    (budget : Int) : requests driver (trim program budget) = 0 ∨
      (requests driver (trim program budget) : Int) ≤ budget := by
  unfold trim
  have within : _ ∨ _ ≤ budget := requests_trimKept_le kept (fun _ => 0) program
  simpa using within

theorem trim_eq_self_iff {program : Program} {budget : Int} :
    trim program budget = program ↔ ∀ driver ∈ keptDrivers,
      requests driver program = 0 ∨ (requests driver program : Int) ≤ budget := by
  constructor
  · intro same driver kept
    have within := requests_trim_le kept program budget
    rwa [same] at within
  · exact fun within => trimKept_eq_self fun driver kept => by simpa using within driver kept

theorem trim_trim (program : Program) (budget : Int) :
    trim (trim program budget) budget = trim program budget :=
  trim_eq_self_iff.mpr fun _ kept => requests_trim_le kept program budget

/-! ### What a step does to a driver -/

section

variable {model next last : Model} {step : Step} {outcome : Outcome}

/-- What a step that is no request to a driver leaves of its chart. -/
structure Untouched (before after : DriverLifecycle) : Prop where
  record : after.model = before.model
  gone : after.state = .gone ↔ before.state = .gone

theorem untouched_settleChart (which : List Driver) (driver : Driver) (chart : DriverLifecycle) :
    Untouched chart (RootModel.settleChart which driver chart) := by
  unfold RootModel.settleChart
  split
  · next settles =>
    refine ⟨rfl, ?_⟩
    rw [settles.2]
    simp
  · exact ⟨rfl, .rfl⟩

/-- What Root's answer to a request leaves of the chart of its driver. -/
inductive Answered (before after : DriverLifecycle) : Prop where
  | gone (was : before.state = .gone) (is : after.state = .gone)
      (record : after.model = before.model)
  | gaveUp (was : before.state ≠ .gone) (broke : before.model.hasBudget = false)
      (is : after.state = .gone) (record : after.model = before.model)
  | restarted (was : before.state ≠ .gone) (budget : before.model.hasBudget = true)
      (is : after.state ≠ .gone) (record : after.model = before.model.spend)

theorem Answered.untouched {first second third : DriverLifecycle} (before : Answered first second)
    (after : Untouched second third) : Answered first third := by
  obtain ⟨record', gone'⟩ := after
  cases before with
  | gone was is record => exact .gone was (gone'.mpr is) (record'.trans record)
  | gaveUp was broke is record => exact .gaveUp was broke (gone'.mpr is) (record'.trans record)
  | restarted was budget is record =>
      exact .restarted was budget (fun gone => is (gone'.mp gone)) (record'.trans record)

variable [ChartLibrary]

/-- All that an admitted step does to the chart of a driver. -/
theorem Model.after_driver (admitted : outcome ∈ model.expect step)
    (stepped : model.after step outcome = some next) (driver : Driver) :
    next.root.budget = model.root.budget ∧
      (step.request? = none ∧ next.root.chart driver = .fresh model.root.budget ∨
        step.request? ≠ some driver ∧
          Untouched (model.root.chart driver) (next.root.chart driver) ∨
        step.request? = some driver ∧
          Answered (model.root.chart driver) (next.root.chart driver)) := by
  cases step with
  | reset =>
      cases stepped
      exact ⟨rfl, .inl ⟨rfl, rfl⟩⟩
  | crashPut file seed afterMs =>
      rw [Model.after_crashPut] at stepped
      obtain ⟨storage, -, rfl⟩ := Option.map_eq_some_iff.mp stepped
      exact ⟨rfl, .inl ⟨rfl, rfl⟩⟩
  | net step =>
      rw [Model.after_net] at stepped
      cases stepped
      refine ⟨rfl, .inr (.inl ⟨nofun, ?_⟩)⟩
      rw [RootModel.chart_settledAll]
      exact untouched_settleChart ..
  | storage step =>
      rw [Model.after_storage] at stepped
      obtain ⟨storage, -, rfl⟩ := Option.map_eq_some_iff.mp stepped
      refine ⟨rfl, .inr (.inl ⟨nofun, ?_⟩)⟩
      rw [RootModel.chart_settledAll]
      exact untouched_settleChart ..
  | root request =>
      obtain ⟨root, after, same⟩ := Model.after_request stepped
      have settles := untouched_settleChart (model.settling (.root request)) driver
        (root.chart driver)
      rw [← RootModel.chart_settledAll, ← same] at settles
      have budget : next.root.budget = root.budget := by rw [same]; rfl
      have answered : root.budget = model.root.budget ∧
          (∀ other ≠ request.driver, root.chart other = model.root.chart other) ∧
          Answered (model.root.chart request.driver) (root.chart request.driver) := by
        rcases RootModel.after_cases admitted with ⟨was, after'⟩ | ⟨was, broke, after'⟩ |
          ⟨was, more, after'⟩ <;> obtain rfl := Option.some.inj (after.symm.trans after') <;>
          refine ⟨rfl, fun other ne => RootModel.chart_set_of_ne ne _, ?_⟩ <;>
          rw [RootModel.chart_set_self]
        · exact .gone was was rfl
        · exact .gaveUp was broke rfl rfl
        · refine .restarted was more ?_ rfl
          dsimp only
          split <;> simp
      obtain ⟨kept, others, mine⟩ := answered
      refine ⟨budget.trans kept, .inr ?_⟩
      by_cases asked : request.driver = driver
      · subst asked
        exact .inr ⟨rfl, mine.untouched settles⟩
      · rw [others driver fun equal => asked equal.symm] at settles
        exact .inl ⟨by simpa [Step.request?] using asked, settles⟩

/-! ### The console and the clock survive -/

/-- The drivers that are kept are up, and the restarts they spent are counted. -/
structure Survives (budget : Int) (spent : Driver → Nat) (model : Model) : Prop where
  total : model.root.budget = budget
  up : ∀ driver ∈ keptDrivers, model.root.up driver = true
  record : ∀ driver ∈ keptDrivers, (model.root.chart driver).model.budget = budget ∧
    (model.root.chart driver).model.spent ≤ spent driver

variable {budget : Int} {spent : Driver → Nat}

omit [ChartLibrary] in
theorem Survives.start (budget : Int) (disk : Expected) (spent : Driver → Nat) :
    Survives budget spent (Model.start budget disk) where
  total := rfl
  up := fun _ _ => rfl
  record := fun _ _ => ⟨rfl, Nat.zero_le _⟩

omit [ChartLibrary] in
theorem Survives.mono (survives : Survives budget spent model) {more : Driver → Nat}
    (counted : ∀ driver, spent driver ≤ more driver) : Survives budget more model :=
  { survives with
    record := fun driver kept => ⟨(survives.record driver kept).1,
      (survives.record driver kept).2.trans (counted driver)⟩ }

/-- A step whose request, if it is one to a kept driver, is counted and within the budget. -/
theorem Survives.after (survives : Survives budget spent model)
    (admitted : outcome ∈ model.expect step) (stepped : model.after step outcome = some next)
    {more : Driver → Nat} (counted : ∀ driver, spent driver ≤ more driver)
    (within : ∀ driver ∈ keptDrivers, step.request? = some driver →
      spent driver + 1 ≤ more driver ∧ (more driver : Int) ≤ budget) :
    Survives budget more next := by
  have each (driver : Driver) (kept : driver ∈ keptDrivers) :
      next.root.up driver = true ∧ (next.root.chart driver).model.budget = budget ∧
        (next.root.chart driver).model.spent ≤ more driver := by
    obtain ⟨total, spentAt⟩ := survives.record driver kept
    have up := survives.up driver kept
    simp only [RootModel.up, bne_iff_ne] at up ⊢
    rcases (Model.after_driver admitted stepped driver).2 with ⟨-, fresh⟩ | ⟨-, record, gone⟩ |
      ⟨request, answered⟩
    · rw [fresh, survives.total]
      exact ⟨by simp [DriverLifecycle.fresh], rfl, Nat.zero_le _⟩
    · rw [record]
      exact ⟨fun down => up (gone.mp down), total, spentAt.trans (counted driver)⟩
    · have room := within driver kept request
      cases answered with
      | gone was => exact absurd was up
      | gaveUp _ broke =>
          rw [DriverRecord.hasBudget, decide_eq_false_iff_not, total] at broke
          omega
      | restarted _ _ is record =>
          rw [record]
          exact ⟨is, total, (Nat.succ_le_succ spentAt).trans room.1⟩
  exact ⟨((Model.after_driver admitted stepped .serial).1).trans survives.total,
    fun driver kept => (each driver kept).1, fun driver kept => (each driver kept).2⟩

/-- A run along a program is over, or takes its next step. -/
theorem Runs.along {run : List (Step × Outcome)} {rest : Program} (ran : Runs model run last)
    (inside : run.map Prod.fst <+: step :: rest) :
    last = model ∨ ∃ outcome next run', outcome ∈ model.expect step ∧
      model.after step outcome = some next ∧ Runs next run' last ∧
        run'.map Prod.fst <+: rest := by
  cases ran with
  | nil => exact .inl rfl
  | cons admitted stepped ran =>
      obtain ⟨rfl, along⟩ := List.cons_prefix_cons.mp inside
      exact .inr ⟨_, _, _, admitted, stepped, ran, along⟩

theorem Runs.append {middle : Model} {run more : List (Step × Outcome)}
    (ran : Runs model run middle) (ran' : Runs middle more last) :
    Runs model (run ++ more) last := by
  induction ran with
  | nil => exact ran'
  | cons admitted stepped _ ih => exact .cons admitted stepped (ih ran')

theorem trimKept_survives {program : Program} (survives : Survives budget spent model)
    {run : List (Step × Outcome)} (ran : Runs model run last)
    (inside : run.map Prod.fst <+: trimKept budget spent program) :
    ∀ driver ∈ keptDrivers, last.root.up driver = true := by
  have counts (asked driver : Driver) : spent driver ≤ counted spent asked driver := by
    by_cases same : driver = asked
    · subst same
      simp
    · rw [counted_of_ne same]
  induction program generalizing spent model run with
  | nil =>
      have ended : run = [] := List.map_eq_nil_iff.mp (List.prefix_nil.mp inside)
      subst ended
      cases ran
      exact survives.up
  | cons step rest ih =>
      unfold trimKept at inside
      split at inside
      · next other =>
        rcases ran.along inside with rfl | ⟨outcome, next, run, admitted, stepped, ran, inside⟩
        · exact survives.up
        · refine ih (survives.after admitted stepped (fun _ => le_rfl) ?_) ran inside counts
          intro driver _ request
          rw [other] at request
          cases request
      · next asked asks =>
        split_ifs at inside with aimed past
        · refine ih (survives.mono (counts asked)) ran inside fun other driver => ?_
          by_cases same : driver = other
          · subst same
            simp
          · rw [counted_of_ne same]
        · rcases ran.along inside with rfl | ⟨outcome, next, run, admitted, stepped, ran, inside⟩
          · exact survives.up
          · refine ih (survives.after admitted stepped (counts asked) ?_) ran inside
              fun other driver => ?_
            · intro driver _ request
              obtain rfl := Option.some.inj (asks.symm.trans request)
              exact ⟨le_of_eq (counted_self ..).symm, Int.not_lt.mp past⟩
            · by_cases same : driver = other
              · subst same
                simp
              · rw [counted_of_ne same]
        · rcases ran.along inside with rfl | ⟨outcome, next, run, admitted, stepped, ran, inside⟩
          · exact survives.up
          · refine ih (survives.after admitted stepped (fun _ => le_rfl) ?_) ran inside counts
            intro driver kept request
            obtain rfl := Option.some.inj (asks.symm.trans request)
            exact absurd kept aimed

/-- Whatever the model admits of a trimmed program, the kept drivers stay up all along. -/
theorem trim_survives {program : Program} {disk : Expected} {run : List (Step × Outcome)}
    (ran : Runs (Model.start budget disk) run last)
    (inside : run.map Prod.fst <+: trim program budget) :
    ∀ driver ∈ keptDrivers, last.root.up driver = true :=
  trimKept_survives (.start budget disk _) ran inside

end

/-! ### What generation assumes -/

namespace Steer

variable {model next last : Model} {step : Step} {outcome : Outcome}

theorem nominals_admitted (assumed : outcome ∈ nominals model step) :
    outcome ∈ model.expect step := by
  unfold nominals at assumed
  dsimp only at assumed
  split_ifs at assumed with anything carried
  · exact .inl anything
  · exact .inr (Finset.mem_filter.mp assumed).1
  · right
    cases found : preference.find? fun status => .status status ∈ (model.expect step).outcomes with
    | none => simp [found] at assumed
    | some status =>
        rw [found] at assumed
        obtain rfl := Finset.mem_singleton.mp assumed
        simpa using List.find?_some found

/-- There is always an outcome to assume. -/
theorem nominals_nonempty (model : Model) (step : Step) : (nominals model step).Nonempty := by
  unfold nominals
  dsimp only
  split_ifs with anything carried
  · split <;> exact Finset.singleton_nonempty _
  · exact Finset.nonempty_iff_ne_empty.mpr carried
  · obtain ⟨outcome, admitted⟩ := model.expect_nonempty step
    have inside : outcome ∈ (model.expect step).outcomes := admitted.resolve_left anything
    have plain : carries outcome = false := by
      rw [ne_eq, not_not, Finset.filter_eq_empty_iff] at carried
      simpa using carried inside
    cases outcome with
    | status status =>
        have listed : status ∈ preference := by cases status <;> decide
        have found : (preference.find? fun status =>
            .status status ∈ (model.expect step).outcomes).isSome := by
          rw [List.find?_isSome]
          exact ⟨status, listed, by simpa using inside⟩
        obtain ⟨first, found⟩ := Option.isSome_iff_exists.mp found
        rw [found]
        exact Finset.singleton_nonempty _
    | seed | restarted | gaveUp => cases plain

/-! ### No strategy is empty -/

theorem enabled_some (model : Model) : ∃ step, Enabled model step := ⟨_, .ping⟩

theorem writes_some (model : Model) : ∃ step, Writes model step :=
  ⟨_, .put (⟨0, by decide⟩) 0⟩

theorem gets_some (model : Model) : ∃ step, Gets model step := ⟨_, .get ⟨0, by decide⟩⟩

theorem aimed_some {make : FileNumber → Step → Prop} (some_ : ∀ file, ∃ step, make file step)
    (model : Model) : ∃ step, Aimed make model step := by
  by_cases present : held model = []
  · obtain ⟨step, writes⟩ := writes_some model
    exact ⟨step, by rwa [Aimed, if_neg (not_not.mpr present)]⟩
  · obtain ⟨file, listed⟩ := List.exists_mem_of_ne_nil _ present
    obtain ⟨step, made⟩ := some_ file
    exact ⟨step, by rw [Aimed, if_pos present]; exact ⟨file, listed, made⟩⟩

theorem faultsTo_some {which : List Driver} (some_ : which ≠ []) (settle : Bool) (model : Model) :
    ∃ step, FaultsTo which settle model step := by
  have aims : live which model ≠ [] := by
    unfold live
    dsimp only
    split_ifs with up
    · exact up
    · exact some_
  obtain ⟨driver, listed⟩ := List.exists_mem_of_ne_nil _ aims
  exact ⟨_, driver, listed, rfl⟩

theorem inWindow_some (model : Model) : ∃ step, InWindow model step := by
  unfold InWindow
  refine faultsTo_some ?_ true model
  split_ifs with recovering
  · exact recovering
  · exact List.cons_ne_nil _ _

section

variable [ChartLibrary]

/-- Every step can be looked past. -/
theorem exists_advance (model : Model) (step : Step) :
    ∃ outcome next, Advance model step outcome next := by
  obtain ⟨outcome, assumed⟩ := nominals_nonempty model step
  obtain ⟨next, stepped⟩ := Model.after_total (nominals_admitted assumed)
  exact ⟨outcome, next, assumed, stepped⟩

/-! ### What is drawn is a run -/

/-- The steps a scenario has drawn are a run to the model they lead to. -/
def Simulates (scenario : Scenario) : Prop :=
  ∀ model steps last point, scenario model steps last point →
    ∃ run, Runs model run last ∧ run.map Prod.fst = steps

/-- A scenario can be drawn from any model, and wherever it draws next there is a step to draw. -/
structure Draws (scenario : Scenario) : Prop where
  returns : ∀ model, ∃ steps last, scenario model steps last .returned
  offers : ∀ model steps last choose, scenario model steps last (.drawing choose) →
    ∃ step, choose last step

theorem Advance.run_cons (advanced : Advance model step outcome next) {steps : List Step}
    (rest : ∃ run, Runs next run last ∧ run.map Prod.fst = steps) :
    ∃ run, Runs model run last ∧ run.map Prod.fst = step :: steps := by
  obtain ⟨run, ran, same⟩ := rest
  exact ⟨_, .cons (nominals_admitted advanced.assumed) advanced.stepped ran, by
    rw [List.map_cons, same]⟩

theorem simulates_anything (left : Nat) : Simulates (Anything left) := by
  intro model steps last point drawn
  induction drawn with
  | stop | draw => exact ⟨[], .nil, rfl⟩
  | step _ advanced _ ih => exact advanced.run_cons ih

theorem simulates_phase (goal : Goal) (strategies : List Toward) (left : Nat) :
    Simulates (Phase goal strategies left) := by
  intro model steps last point drawn
  induction drawn with
  | there | spent | draw => exact ⟨[], .nil, rfl⟩
  | step _ _ _ advanced _ ih => exact advanced.run_cons ih

theorem simulates_then (choose : Toward) : Simulates (Then choose) := by
  intro model steps last point drawn
  cases drawn with
  | draw => exact ⟨[], .nil, rfl⟩
  | one _ advanced => exact advanced.run_cons ⟨[], .nil, rfl⟩

theorem simulates_chain {parts : List Scenario} (each : ∀ part ∈ parts, Simulates part) :
    Simulates (chain parts) := by
  induction parts with
  | nil =>
      intro model _ _ _ ended
      obtain ⟨rfl, rfl, -⟩ := ended
      exact ⟨[], .nil, rfl⟩
  | cons part parts ih =>
      have here := each part List.mem_cons_self
      have later := ih fun other listed => each other (List.mem_cons_of_mem _ listed)
      intro model _ last point come
      rcases come with ⟨choose, drawing, -⟩ | ⟨first, mid, second, drawn, rest, rfl⟩
      · exact here _ _ _ _ drawing
      · obtain ⟨run, ran, rfl⟩ := here _ _ _ _ drawn
        obtain ⟨run', ran', rfl⟩ := later _ _ _ _ rest
        exact ⟨run ++ run', ran.append ran', List.map_append⟩

theorem simulates_reach (goal : Goal) (toward : Toward) (bound : Nat) :
    Simulates (reach goal toward bound) :=
  simulates_chain (by simp [simulates_phase])

theorem simulates_repeated {scenario : Scenario} (simulates : Simulates scenario) (times : Nat) :
    Simulates (repeated scenario times) :=
  simulates_chain fun _ listed => List.eq_of_mem_replicate listed ▸ simulates

theorem simulates_scenarios (name : ScenarioName) : Simulates (scenarios name) := by
  cases name with
  | latent | corruptHeal | writeFault | recoverThenFault | exhaust | reboot =>
      refine simulates_chain ?_
      simp [simulates_reach, simulates_repeated, simulates_then, simulates_anything]
  | mixed => exact simulates_anything 12

theorem draws_anything (left : Nat) : Draws (Anything left) where
  returns := fun model => ⟨[], model, .stop⟩
  offers := by
    have offered (point : Point) {model last : Model} {steps : List Step}
        (drawn : Anything left model steps last point) :
        ∀ choose, point = .drawing choose → ∃ step, choose last step := by
      induction drawn with
      | stop =>
          intro choose same
          cases same
      | draw =>
          intro choose same
          cases same
          exact enabled_some _
      | step _ _ _ ih => exact ih
    exact fun model steps last choose drawn => offered _ drawn choose rfl

theorem draws_then {choose : Toward} (some_ : ∀ model, ∃ step, choose model step) :
    Draws (Then choose) where
  returns := fun model => by
    obtain ⟨step, drawn⟩ := some_ model
    obtain ⟨outcome, next, advanced⟩ := exists_advance model step
    exact ⟨[step], next, .one drawn advanced⟩
  offers := fun model steps last next drawn => by
    cases drawn
    exact some_ model

theorem draws_phase (goal : Goal) {strategies : List Toward} (listed : strategies ≠ [])
    (some_ : ∀ choose ∈ strategies, ∀ model, ∃ step, choose model step) (left : Nat) :
    Draws (Phase goal strategies left) where
  returns := by
    obtain ⟨choose, among⟩ := List.exists_mem_of_ne_nil _ listed
    induction left with
    | zero => exact fun model => ⟨[], model, .spent⟩
    | succ left ih =>
        intro model
        by_cases reached : goal model
        · exact ⟨[], model, .there reached⟩
        · obtain ⟨step, drawn⟩ := some_ choose among model
          obtain ⟨outcome, next, advanced⟩ := exists_advance model step
          obtain ⟨steps, last, rest⟩ := ih next
          exact ⟨step :: steps, last, .step reached among drawn advanced rest⟩
  offers := by
    have offered (point : Point) {model last : Model} {steps : List Step}
        (drawn : Phase goal strategies left model steps last point) :
        ∀ choose, point = .drawing choose → ∃ step, choose last step := by
      induction drawn with
      | there | spent =>
          intro choose same
          cases same
      | draw _ among =>
          intro choose same
          cases same
          exact some_ _ among _
      | step _ _ _ _ _ ih => exact ih
    exact fun model steps last choose drawn => offered _ drawn choose rfl

omit [ChartLibrary] in
theorem draws_chain {parts : List Scenario} (each : ∀ part ∈ parts, Draws part) :
    Draws (chain parts) := by
  induction parts with
  | nil =>
      constructor
      · exact fun model => ⟨[], model, rfl, rfl, rfl⟩
      · intro model steps last choose ended
        obtain ⟨-, -, same⟩ := ended
        cases same
  | cons part parts ih =>
      have here := each part List.mem_cons_self
      have later := ih fun other listed => each other (List.mem_cons_of_mem _ listed)
      constructor
      · intro model
        obtain ⟨first, mid, drawn⟩ := here.returns model
        obtain ⟨second, last, rest⟩ := later.returns mid
        exact ⟨first ++ second, last, .inr ⟨first, mid, second, drawn, rest, rfl⟩⟩
      · intro model steps last choose come
        rcases come with ⟨next, drawing, same⟩ | ⟨first, mid, second, -, rest, -⟩
        · cases same
          exact here.offers _ _ _ _ drawing
        · exact later.offers _ _ _ _ rest

theorem draws_reach (goal : Goal) {toward : Toward} (some_ : ∀ model, ∃ step, toward model step)
    (bound : Nat) : Draws (reach goal toward bound) := by
  have turns := draws_phase goal (List.cons_ne_nil Enabled [toward])
    (by simpa using ⟨enabled_some, some_⟩) bound
  have focused := draws_phase goal (List.cons_ne_nil toward []) (by simpa using some_) bound
  exact draws_chain (by simpa [mixed] using ⟨turns, focused⟩)

omit [ChartLibrary] in
theorem draws_repeated {scenario : Scenario} (draws : Draws scenario) (times : Nat) :
    Draws (repeated scenario times) :=
  draws_chain fun _ listed => List.eq_of_mem_replicate listed ▸ draws

/-- `sampled_from` is never given nothing to choose from. -/
theorem draws_scenarios (name : ScenarioName) : Draws (scenarios name) := by
  have workload : Draws (Then Workload) := draws_then fun model =>
    (gets_some model).imp fun _ gets => .inl gets
  have file := draws_reach hasFile writes_some 4
  have fault (which : List Driver) (some_ : which ≠ []) (settle : Bool) :
      Draws (Then (FaultsTo which settle)) := draws_then (faultsTo_some some_ settle)
  cases name with
  | latent =>
      have armed (file : FileNumber) : ∃ step, ReadFault file step := ⟨_, .arm true⟩
      have aimed := draws_then (aimed_some armed)
      exact draws_chain (by simp [file, aimed, draws_repeated workload])
  | corruptHeal =>
      have corrupted (file : FileNumber) : ∃ step, DataCorruption file step := ⟨_, .corrupt⟩
      have aimed := draws_then (aimed_some corrupted)
      exact draws_chain (by
        simp [file, aimed, draws_then gets_some, draws_then writes_some])
  | writeFault =>
      have armed (file : FileNumber) : ∃ step, MetadataWriteFault file step := ⟨_, .fat true⟩
      have aimed := draws_then (aimed_some armed)
      exact draws_chain (by simp [file, aimed, draws_repeated workload])
  | recoverThenFault =>
      exact draws_chain (by
        simp [fault, draws_then inWindow_some, draws_anything])
  | exhaust =>
      have gone := draws_reach (gone .blk) (faultsTo_some (List.cons_ne_nil .blk []) true) 10
      exact draws_chain (by simp [gone, draws_repeated workload])
  | reboot =>
      have resets : Draws (Then Resets) := draws_then fun _ => ⟨_, .reset⟩
      exact draws_chain (by simp [file, fault, resets, draws_repeated, workload])
  | mixed => exact draws_anything 12

/-- Wherever a scenario draws from the start, there is a step to draw and an outcome to assume,
and each is admitted and leads on. A whole draw is a run that the model admits, and the program
made of it is as long as allowed, within the budget, and keeps the console and the clock in
everything the model admits of it. -/
theorem programs_survive (name : ScenarioName) (budget : Int) (disk : Expected) :
    (∀ steps mid choose, scenarios name (Model.start budget disk) steps mid (.drawing choose) →
      (∃ run, Runs (Model.start budget disk) run mid ∧ run.map Prod.fst = steps) ∧
        (∃ step, choose mid step) ∧ ∀ step, choose mid step → (nominals mid step).Nonempty ∧
          ∀ outcome ∈ nominals mid step, outcome ∈ mid.expect step ∧
            ∃ next, mid.after step outcome = some next) ∧
      (∃ steps last, scenarios name (Model.start budget disk) steps last .returned) ∧
      ∀ steps last, scenarios name (Model.start budget disk) steps last .returned →
        (∃ run, Runs (Model.start budget disk) run last ∧ run.map Prod.fst = steps) ∧
        (programOf steps budget).length ≤ maxSteps ∧ (programOf steps budget).Sublist steps ∧
        trim (programOf steps budget) budget = programOf steps budget ∧
        ∀ run last, Runs (Model.start budget disk) run last →
          run.map Prod.fst <+: programOf steps budget →
            ∀ driver ∈ keptDrivers, last.root.up driver = true := by
  have draws := draws_scenarios name
  refine ⟨?_, draws.returns _, ?_⟩
  · intro steps mid choose drawing
    refine ⟨simulates_scenarios name _ _ _ _ drawing, draws.offers _ _ _ _ drawing, ?_⟩
    intro step _
    refine ⟨nominals_nonempty mid step, fun outcome assumed => ?_⟩
    have admitted := nominals_admitted assumed
    exact ⟨admitted, Model.after_total admitted⟩
  · intro steps last drawn
    have sublist : (programOf steps budget).Sublist (steps.take maxSteps) := trimKept_sublist ..
    refine ⟨simulates_scenarios name _ _ _ _ drawn, ?_, sublist.trans (List.take_sublist ..),
      trim_trim .., fun run last ran inside => trim_survives ran inside⟩
    exact sublist.length_le.trans (List.length_take_le ..)

end

end Steer

end Chrysopolis.Testbed.Faults
