import Chrysopolis.Beam.Tls
import Mathlib.Data.List.Basic

/-! Thread-specific data belongs to the thread that set it, under the key it was set with, and
an exit hands each value over at most once. -/

set_option autoImplicit false

namespace Chrysopolis.Beam.Pthread

variable {state next : State} {slot key : Nat} {past : List Event}

section

variable (state : State) (slot : Nat) (control : Control) (row : Nat → Nat)

@[simp] theorem State.setControl_coTsd : (state.setControl slot control).coTsd = state.coTsd := rfl

@[simp] theorem State.setControl_keyTable :
    (state.setControl slot control).keyTable = state.keyTable := rfl

@[simp] theorem State.setControl_cothreads :
    (state.setControl slot control).cothreads =
      Function.update state.cothreads slot (some control) := rfl

@[simp] theorem State.setRow_coTsd :
    (state.setRow slot row).coTsd = Function.update state.coTsd slot row := rfl

@[simp] theorem State.setRow_cothreads : (state.setRow slot row).cothreads = state.cothreads := rfl

end

/-! ## The past with one event more -/

@[simp] theorem lastTouch_cons (event : Event) :
    lastTouch (event :: past) slot key =
      if event.touches slot key then some event else lastTouch past slot key := by
  rw [lastTouch, List.find?_cons]
  cases event.touches slot key <;> rfl

/-- What an event leaves in the cells it touches. -/
def Event.leaves : Event → Nat
  | .set _ _ value => value
  | _ => 0

theorem lastSet_cons (event : Event) :
    lastSet (event :: past) slot key =
      if event.touches slot key then event.leaves else lastSet past slot key := by
  rw [lastSet, lastTouch_cons]
  by_cases touched : event.touches slot key = true
  · rw [if_pos touched, if_pos touched]
    cases event <;> rfl
  · rw [if_neg touched, if_neg touched, lastSet]

theorem lastKey_keyCreated (past : List Event) (created destructor key : Nat) :
    lastKey (.keyCreated created destructor :: past) key =
      Function.update (lastKey past) created { destructor, used := true } key := by
  by_cases same : key = created
  · subst same
    simp [lastKey, Event.ofKey]
  · have other : (key == created) = false := beq_eq_false_iff_ne.mpr same
    simp [lastKey, Event.ofKey, other, Function.update_of_ne same]

theorem lastKey_keyDeleted (past : List Event) (deleted key : Nat) :
    lastKey (.keyDeleted deleted :: past) key =
      Function.update (lastKey past) deleted {} key := by
  by_cases same : key = deleted
  · subst same
    simp [lastKey, Event.ofKey]
  · have other : (key == deleted) = false := beq_eq_false_iff_ne.mpr same
    simp [lastKey, Event.ofKey, other, Function.update_of_ne same]

theorem lastKey_of_not_ofKey {event : Event} (apart : event.ofKey key = false) :
    lastKey (event :: past) key = lastKey past key := by
  rw [lastKey, List.find?_cons, apart, lastKey]

/-- What is set was set by the slot, for the key. -/
theorem lastTouch_of_lastSet (held : lastSet past slot key ≠ 0) :
    lastTouch past slot key = some (.set slot key (lastSet past slot key)) := by
  unfold lastSet at held ⊢
  cases touch : lastTouch past slot key with
  | none => simp [touch] at held
  | some event =>
      have touched : event.touches slot key = true := List.find?_some touch
      cases event with
      | set other otherKey value =>
          obtain ⟨rfl, rfl⟩ : slot = other ∧ key = otherKey := by
            simpa [Event.touches] using touched
          rfl
      | _ => simp [touch] at held

theorem rounds_cons {event : Event} (onward : event ≠ .exited slot) :
    rounds (event :: past) slot =
      rounds past slot + if event == .round slot then 1 else 0 := by
  rw [rounds, List.takeWhile_cons, if_pos (bne_iff_ne.mpr onward), List.count_cons, rounds]

def Event.paces : Event → Bool
  | .exited _ | .round _ => true
  | _ => false

theorem rounds_of_quiet {event : Event} (quiet : event.paces = false) :
    rounds (event :: past) slot = rounds past slot := by
  have onward : event ≠ .exited slot := by
    rintro rfl
    cases quiet
  have apart : event ≠ .round slot := by
    rintro rfl
    cases quiet
  rw [rounds_cons onward, beq_eq_false_iff_ne.mpr apart, if_neg Bool.false_ne_true, Nat.add_zero]

theorem rounds_round (past : List Event) (slot other : Nat) :
    rounds (.round slot :: past) other = rounds past other + if other = slot then 1 else 0 := by
  have onward : Event.round slot ≠ .exited other := nofun
  rw [rounds_cons onward]
  by_cases same : other = slot
  · rw [same, beq_self_eq_true, if_pos rfl, if_pos rfl]
  · have apart : Event.round slot ≠ .round other := fun round => same (Event.round.inj round).symm
    rw [beq_eq_false_iff_ne.mpr apart, if_neg Bool.false_ne_true, if_neg same]

theorem rounds_exited (past : List Event) (slot other : Nat) :
    rounds (.exited slot :: past) other = if other = slot then 0 else rounds past other := by
  by_cases same : other = slot
  · rw [if_pos same, rounds, List.takeWhile_cons, same, bne_self_eq_false,
      if_neg Bool.false_ne_true, List.count_nil]
  · have onward : Event.exited slot ≠ .exited other := fun exited =>
      same (Event.exited.inj exited).symm
    have quiet : Event.exited slot ≠ .round other := nofun
    rw [if_neg same, rounds_cons onward, beq_eq_false_iff_ne.mpr quiet,
      if_neg Bool.false_ne_true, Nat.add_zero]

/-! ## What a step does to thread-specific data -/

/-- The walk of the row that a cothread is in, or that its user code goes back to. -/
def Control.walk : Control → Option Finish
  | .running (finish :: _) | .joining _ (finish :: _) | .finishing finish _ => some finish
  | _ => none

/-- No thread that has begun is in the slot, or the one there has finished its row. -/
def Idle : Option Control → Prop
  | none | some .waking | some (.spawned _) => True
  | _ => False

/-- A cothread that went on without a new walk or round. -/
structure Onward (before after : Option Control) : Prop where
  live : after ≠ none → before ≠ none
  walk : ∀ finish, after.bind Control.walk = some finish →
    ∃ was, before.bind Control.walk = some was ∧ was.pass = finish.pass
  idle : Idle after → Idle before

theorem Onward.refl (control : Option Control) : Onward control control :=
  ⟨id, fun finish walks => ⟨finish, walks, rfl⟩, id⟩

/-- What a step of the cothread of `slot` does to keys and rows, with its events. -/
inductive Touch (state : State) (slot : Nat) (next : State) : List Event → Prop where
  | kept (coTsd : next.coTsd = state.coTsd) (keyTable : next.keyTable = state.keyTable)
      (ready : state.ready = true → next.ready = true)
      (onward : ∀ other, Onward (state.cothreads other) (next.cothreads other)) :
      Touch state slot next []
  | threadCreated {handle address : Nat} (vacant : state.cothreads handle = none)
      (ready : state.ready = true) (ready' : next.ready = true)
      (coTsd : next.coTsd = Function.update state.coTsd handle fun _ => 0)
      (keyTable : next.keyTable = state.keyTable)
      (cothreads : next.cothreads =
        Function.update state.cothreads handle (some (.spawned address))) :
      Touch state slot next [.threadCreated handle]
  | keyCreated {key destructor : Nat} (within : key < maxKeys)
      (same : next = { state with
        coTsd := fun handle => Function.update (state.coTsd handle) key 0
        keyTable := Function.update state.keyTable key { destructor, used := true } }) :
      Touch state slot next [.keyCreated key destructor]
  | keyDeleted {key : Nat}
      (same : next = { state with
        coTsd := fun handle => Function.update (state.coTsd handle) key 0
        keyTable := Function.update state.keyTable key {} }) :
      Touch state slot next [.keyDeleted key]
  | set {key value : Nat} {stack : List Finish}
      (running : state.cothreads slot = some (.running stack))
      (used : (state.keyTable key).used = true)
      (same : next = state.setRow (runtimeCoCurrent state slot)
        (Function.update (state.coTsd (runtimeCoCurrent state slot)) key value)) :
      Touch state slot next [.set slot key value]
  | exited {finish : Finish} {stack rest : List Finish}
      (running : state.cothreads slot = some (.running stack)) (first : finish.pass = 0)
      (same : next = state.setControl slot (.finishing finish rest)) :
      Touch state slot next [.round slot, .exited slot]
  | handed {finish : Finish} {stack : List Finish}
      (finishing : state.cothreads slot = some (.finishing finish stack))
      (used : (state.keyTable finish.key).used = true)
      (value : state.coTsd slot finish.key ≠ 0)
      (destructor : (state.keyTable finish.key).destructor ≠ 0)
      (same : next = (state.setRow slot
        (Function.update (state.coTsd slot) finish.key 0)).setControl slot
          (.running ({ finish with key := finish.key + 1, called := true } :: stack))) :
      Touch state slot next [.handed slot finish.key (state.coTsd slot finish.key)
        (state.keyTable finish.key).destructor]
  | round {finish : Finish} {stack : List Finish}
      (finishing : state.cothreads slot = some (.finishing finish stack))
      (more : finish.pass + 1 < tsdDestructorPasses)
      (same : next = state.setControl slot
        (.finishing { finish with pass := finish.pass + 1, key := 0, called := false } stack)) :
      Touch state slot next [.round slot]
  | cleared {finish : Finish} {stack : List Finish}
      (finishing : state.cothreads slot = some (.finishing finish stack))
      (ready : next.ready = state.ready)
      (coTsd : next.coTsd = Function.update state.coTsd slot fun _ => 0)
      (keyTable : next.keyTable = state.keyTable)
      (cothreads : next.cothreads = Function.update state.cothreads slot (some .waking)) :
      Touch state slot next [.cleared slot]

/-! ### Calls that touch records only -/

/-- Keys, rows, readiness and cothreads are those of before. -/
structure Apart (state next : State) : Prop where
  coTsd : next.coTsd = state.coTsd
  keyTable : next.keyTable = state.keyTable
  ready : next.ready = state.ready
  cothreads : next.cothreads = state.cothreads

theorem Apart.refl (state : State) : Apart state state := ⟨rfl, rfl, rfl, rfl⟩

theorem Apart.trans {last : State} (first : Apart state next) (second : Apart next last) :
    Apart state last :=
  ⟨second.coTsd.trans first.coTsd, second.keyTable.trans first.keyTable,
    second.ready.trans first.ready, second.cothreads.trans first.cothreads⟩

theorem Apart.touch (apart : Apart state next) : Touch state slot next [] :=
  .kept apart.coTsd apart.keyTable (fun ready => by rw [apart.ready, ready])
    fun other => by rw [apart.cothreads]; exact .refl _

theorem Apart.setControl (apart : Apart state next) (slot : Nat) (control : Control) :
    Apart (state.setControl slot control) (next.setControl slot control) :=
  ⟨apart.coTsd, apart.keyTable, apart.ready, by
    rw [State.setControl, State.setControl, apart.cothreads]⟩

theorem apart_removeRecord (state : State) (address : Nat) :
    Apart state (removeRecord state address) := by
  unfold removeRecord
  split
  · split <;> exact ⟨rfl, rfl, rfl, rfl⟩
  · exact .refl state

theorem Apart.removeRecord (apart : Apart state next) (address : Nat) :
    Apart state (removeRecord next address) :=
  apart.trans (apart_removeRecord next address)

theorem apart_pthreadDetach (state : State) (thread : Nat) :
    Apart state (pthreadDetach state thread).1 := by
  unfold pthreadDetach
  split
  · exact .refl state
  · split
    · exact .refl state
    · simp only
      split
      · refine Apart.removeRecord ?_ _
        exact ⟨rfl, rfl, rfl, rfl⟩
      · exact ⟨rfl, rfl, rfl, rfl⟩

/-- What a finish does behind its row. -/
theorem finishDone_fields (state : State) (slot : Nat) (finish : Finish) :
    Apart (state.setControl slot .waking) (finishDone state slot finish) := by
  unfold finishDone
  simp only
  split
  · exact ⟨rfl, rfl, rfl, rfl⟩
  · split
    · exact ⟨rfl, rfl, rfl, rfl⟩
    · split
      · refine Apart.removeRecord ?_ _
        exact ⟨rfl, rfl, rfl, rfl⟩
      · exact ⟨rfl, rfl, rfl, rfl⟩

theorem onward_update {after : Option Control} (onward : Onward (state.cothreads slot) after)
    (other : Nat) :
    Onward (state.cothreads other) (Function.update state.cothreads slot after other) := by
  by_cases same : other = slot
  · subst same
    rwa [Function.update_self]
  · rw [Function.update_of_ne same]
    exact .refl _

/-- A cothread goes on where its calls leave keys and rows alone. -/
theorem touch_onward {after : Option Control}
    (apart : Apart { state with cothreads := Function.update state.cothreads slot after } next)
    (onward : Onward (state.cothreads slot) after) : Touch state slot next [] :=
  .kept apart.coTsd apart.keyTable (fun ready => apart.ready.trans ready) fun other => by
    rw [apart.cothreads]
    exact onward_update onward other

/-! ### Every step -/

theorem touch_exit {stack : List Finish} (running : state.cothreads slot = some (.running stack))
    (result : Nat) (rest : List Finish) :
    Touch state slot (finishCurrent state slot result rest) (exitEvents state slot) := by
  unfold finishCurrent exitEvents
  simp only
  split
  · exact touch_onward (.refl _) (by rw [running]; exact ⟨nofun, nofun, nofun⟩)
  · exact .exited running rfl rfl

theorem touch_walk {finish : Finish} {stack : List Finish}
    (finishing : state.cothreads slot = some (.finishing finish stack)) :
    Touch state slot (finishStep state slot finish stack) (walkEvents state slot finish) := by
  unfold finishStep walkEvents
  split
  · simp only
    split
    · next due =>
      exact .handed finishing due.1 due.2.1 due.2.2 rfl
    · exact touch_onward (.refl _) (by
        rw [finishing]
        exact ⟨nofun, fun _ walks => ⟨finish, rfl, by cases walks; rfl⟩, nofun⟩)
  · split
    · next more => exact .round finishing more.2 rfl
    · have after := finishDone_fields (state.setRow slot fun _ => 0) slot finish
      exact .cleared finishing after.ready after.coTsd after.keyTable after.cothreads

theorem touch_create {call : Create} (answered : answers state call = true)
    {result : State × Except Errno Nat} (created : pthreadCreate state call = some result) :
    Touch state slot result.1 (createEvents state call) := by
  unfold createEvents
  rw [created]
  unfold pthreadCreate at created
  split at created
  · cases created
    exact (Apart.refl state).touch
  split at created
  · cases created
    exact (Apart.refl state).touch
  next ready =>
  split at created
  · cases created
    exact (Apart.refl state).touch
  split at created
  · cases created
    exact (Apart.refl state).touch
  split at created
  · cases created
    exact (Apart.refl state).touch
  next token tokens _ =>
  split at created
  · cases created
    exact Apart.touch ⟨rfl, rfl, rfl, rfl⟩
  next handle spawned =>
  split at created
  · cases created
  cases created
  have vacant : state.cothreads handle = none := by
    have free := (Bool.and_eq_true _ _ ▸ answered).2
    rw [spawned, Option.all_some, Bool.and_eq_true] at free
    exact Option.isNone_iff_eq_none.mp free.2
  rw [spawned]
  exact .threadCreated vacant (Bool.not_eq_false _ ▸ ready) (Bool.not_eq_false _ ▸ ready)
    rfl rfl rfl

theorem onward_running {control : Control} {stack : List Finish}
    (walk : control.walk = (Control.running stack).walk) (busy : ¬Idle (some control)) :
    Onward (some control) (some (.running stack)) ∧
      Onward (some (.running stack)) (some control) :=
  ⟨⟨nofun, fun finish walks => ⟨finish, walk.trans walks, rfl⟩, nofun⟩,
    ⟨nofun, fun finish walks => ⟨finish, walk.symm.trans walks, rfl⟩, fun idle => absurd idle busy⟩⟩

theorem touch_join {thread : Nat} {result : State × Except Errno Nat}
    (joined : pthreadJoin state slot thread = some result) :
    Apart state result.1 := by
  unfold pthreadJoin at joined
  split at joined
  · cases joined
    exact .refl state
  split at joined
  · cases joined
    exact .refl state
  split at joined
  · cases joined
  split at joined
  · cases joined
    exact .refl state
  split at joined
  · cases joined
    exact .refl state
  · cases joined
    exact ⟨rfl, rfl, rfl, rfl⟩

theorem step_touch {action : Action} (stepped : step state slot action = some next) :
    Touch state slot next (events state slot action) := by
  unfold step at stepped
  split at stepped
  · cases stepped
  unfold events
  split at stepped
  next stack running =>
    split at stepped
    · cases stepped
      simp only [running]
      exact .kept rfl rfl (fun _ => rfl) fun _ => .refl _
    · cases stepped
  next stack call running =>
    split at stepped
    next answered =>
      simp only [running]
      split at stepped
      next aborted =>
        cases stepped
        simp only [createEvents, aborted]
        exact Apart.touch ⟨rfl, rfl, rfl, rfl⟩
      next created =>
        cases stepped
        exact touch_create answered created
    · cases stepped
  next stack thread running =>
    simp only [running]
    split at stepped
    · cases stepped
      exact Apart.touch ⟨rfl, rfl, rfl, rfl⟩
    next joined =>
      cases stepped
      exact (touch_join joined).touch
    next claimed address joined =>
      cases stepped
      have apart : Apart state claimed := touch_join joined
      refine touch_onward (apart.setControl slot _) ?_
      rw [running]
      exact (onward_running (by cases stack <;> rfl) id).2
  next stack thread running =>
    cases stepped
    simp only [running]
    exact (apart_pthreadDetach state thread).touch
  next stack destructor running =>
    cases stepped
    simp only [running]
    unfold pthreadKeyCreate
    split
    · exact (Apart.refl state).touch
    next key found =>
      exact .keyCreated (List.mem_range.mp (List.mem_of_find?_eq_some found)) rfl
  next stack key running =>
    cases stepped
    simp only [running]
    unfold pthreadKeyDelete
    split
    · exact .keyDeleted rfl
    · exact (Apart.refl state).touch
  next stack key value running =>
    cases stepped
    simp only [running]
    unfold pthreadSetspecific
    split
    next valid => exact .set running (Bool.and_eq_true _ _ ▸ valid).2 rfl
    · exact (Apart.refl state).touch
  next stack result running =>
    cases stepped
    simp only [running]
    exact touch_exit running result stack
  next stack result running =>
    simp only [running]
    cases stack with
    | nil =>
        simp only [returned, Option.ite_none_left_eq_some, Option.some.injEq] at stepped
        obtain ⟨_, rfl⟩ := stepped
        exact touch_exit running result []
    | cons finish stack =>
        cases stepped
        refine touch_onward (.refl _) ?_
        rw [running]
        exact (onward_running (by rfl) id).2
  next address spawned =>
    simp only [spawned]
    split at stepped
    · cases stepped
      exact Apart.touch ⟨rfl, rfl, rfl, rfl⟩
    · cases stepped
      refine touch_onward (.refl _) ?_
      rw [spawned]
      exact ⟨nofun, nofun, fun _ => trivial⟩
  next address stack waiting =>
    cases stepped
    simp only [waiting]
    unfold joinCheck
    split
    · exact Apart.touch ⟨rfl, rfl, rfl, rfl⟩
    split
    · have onward : Onward (state.cothreads slot) (some (.running stack)) := by
        rw [waiting]
        exact (onward_running (by cases stack <;> rfl) id).1
      refine touch_onward (Apart.removeRecord ?_ _) onward
      exact ⟨rfl, rfl, rfl, rfl⟩
    · exact (Apart.refl state).touch
  next finish stack finishing =>
    cases stepped
    simp only [finishing]
    exact touch_walk finishing
  next waking =>
    cases stepped
    simp only [waking]
    refine touch_onward (.refl _) ?_
    rw [waking]
    exact ⟨fun live => absurd rfl live, nofun, fun _ => trivial⟩
  · cases stepped

/-! ## The invariant -/

/-- Every value handed over so far was due. -/
def Due (past : List Event) : Prop :=
  ∀ newer older slot key value destructor,
    past = newer ++ .handed slot key value destructor :: older →
      HandsOver older slot key value destructor

structure Tls (state : State) (past : List Event) : Prop where
  ready : ∀ slot, state.cothreads slot ≠ none → slot = 0 ∨ state.ready = true
  cell : ∀ slot key, state.coTsd slot key = lastSet past slot key
  table : ∀ key, state.keyTable key = lastKey past key
  unused : ∀ slot key, (state.keyTable key).used = false → state.coTsd slot key = 0
  beyond : ∀ key, maxKeys ≤ key → (state.keyTable key).used = false
  idle : ∀ slot key, Idle (state.cothreads slot) → state.coTsd slot key = 0
  walk : ∀ slot finish, (state.cothreads slot).bind Control.walk = some finish →
    rounds past slot = finish.pass + 1
  rounds : ∀ slot, rounds past slot ≤ tsdDestructorPasses
  due : Due past

theorem Due.cons_of_ne {event : Event} (due : Due past)
    (other : ∀ slot key value destructor, event ≠ .handed slot key value destructor) :
    Due (event :: past) := by
  intro newer older slot key value destructor split
  cases newer with
  | nil => exact absurd (List.cons.inj split).1 (other _ _ _ _)
  | cons head newer => exact due newer older slot key value destructor (List.cons.inj split).2

theorem Due.handed {value destructor : Nat} (due : Due past)
    (hands : HandsOver past slot key value destructor) :
    Due (.handed slot key value destructor :: past) := by
  intro newer older slot key value destructor split
  cases newer with
  | nil =>
      cases split
      exact hands
  | cons head newer => exact due newer older slot key value destructor (List.cons.inj split).2

section

variable {events : List Event}

theorem Tls.ready_touch (tls : Tls state past) (touched : Touch state slot next events)
    (other : Nat) (live : next.cothreads other ≠ none) : other = 0 ∨ next.ready = true := by
  have moved {control : Control} (active : state.cothreads slot ≠ none)
      (live : Function.update state.cothreads slot (some control) other ≠ none) :
      other = 0 ∨ state.ready = true := by
    by_cases same : other = slot
    · subst same
      exact tls.ready other active
    · rw [Function.update_of_ne same] at live
      exact tls.ready other live
  cases touched with
  | kept coTsd keyTable ready onward =>
      exact (tls.ready other ((onward other).live live)).imp id ready
  | threadCreated vacant ready ready' => exact .inr ready'
  | keyCreated unused same | keyDeleted same | set running used same =>
      subst same
      exact tls.ready other live
  | exited running first same =>
      subst same
      exact moved (by rw [running]; nofun) live
  | handed finishing used value destructor same | round finishing more same =>
      subst same
      exact moved (by rw [finishing]; nofun) live
  | cleared finishing ready coTsd keyTable cothreads =>
      rw [cothreads] at live
      rw [ready]
      exact moved (by rw [finishing]; nofun) live

/-- A cothread that is there reads and writes its own row. -/
theorem Tls.current {control : Control} (tls : Tls state past)
    (active : state.cothreads slot = some control) : runtimeCoCurrent state slot = slot := by
  unfold runtimeCoCurrent
  split
  · rfl
  next unready =>
    rcases tls.ready slot (by rw [active]; nofun) with root | ready
    · exact root.symm
    · exact absurd ready unready

theorem update_cell (rows : Nat → Nat → Nat) (slot key value other otherKey : Nat) :
    Function.update rows slot (Function.update (rows slot) key value) other otherKey =
      if other = slot ∧ otherKey = key then value else rows other otherKey := by
  by_cases same : other = slot
  · subst same
    simp only [Function.update_self, Function.update_apply, true_and]
  · simp only [Function.update_of_ne same, same, false_and, if_false]

theorem Tls.cell_touch (tls : Tls state past) (touched : Touch state slot next events)
    (other key : Nat) : next.coTsd other key = lastSet (events ++ past) other key := by
  have held := tls.cell other key
  cases touched with
  | kept coTsd => rw [coTsd, held, List.nil_append]
  | threadCreated _ _ _ coTsd | cleared _ _ coTsd =>
      rw [coTsd, List.singleton_append, lastSet_cons, ← held, Function.update_apply]
      simp only [Event.touches, Event.leaves, beq_iff_eq]
      split <;> rfl
  | keyCreated _ same | keyDeleted same =>
      subst same
      simp only [List.singleton_append, lastSet_cons, Event.touches, Event.leaves, ← held,
        Function.update_apply, beq_iff_eq]
  | set running _ same =>
      subst same
      rw [tls.current running, State.setRow_coTsd, List.singleton_append, lastSet_cons, ← held]
      simp only [Event.touches, Event.leaves, update_cell, Bool.and_eq_true, beq_iff_eq]
  | exited _ _ same | round _ _ same =>
      subst same
      simpa [lastSet_cons, Event.touches] using held
  | handed _ _ _ _ same =>
      subst same
      rw [State.setControl_coTsd, State.setRow_coTsd, List.singleton_append, lastSet_cons, ← held]
      simp only [Event.touches, Event.leaves, update_cell, Bool.and_eq_true, beq_iff_eq]

theorem Tls.table_touch (tls : Tls state past) (touched : Touch state slot next events)
    (key : Nat) : next.keyTable key = lastKey (events ++ past) key := by
  have held := tls.table key
  have tables : state.keyTable = lastKey past := funext tls.table
  cases touched with
  | kept _ keyTable => rw [keyTable, held, List.nil_append]
  | threadCreated _ _ _ _ keyTable | cleared _ _ _ keyTable =>
      rw [keyTable, held, List.singleton_append, lastKey_of_not_ofKey rfl]
  | keyCreated _ same =>
      subst same
      rw [List.singleton_append, lastKey_keyCreated, ← tables]
  | keyDeleted same =>
      subst same
      rw [List.singleton_append, lastKey_keyDeleted, ← tables]
  | set _ _ same =>
      subst same
      rw [List.singleton_append, lastKey_of_not_ofKey rfl]
      exact held
  | exited _ _ same =>
      subst same
      change _ = lastKey (.round slot :: .exited slot :: past) key
      rw [lastKey_of_not_ofKey rfl, lastKey_of_not_ofKey rfl]
      exact held
  | handed _ _ _ _ same | round _ _ same =>
      subst same
      rw [List.singleton_append, lastKey_of_not_ofKey rfl]
      exact held

/-- The column of a key that is not in use is null. -/
theorem Tls.unused_touch (tls : Tls state past) (touched : Touch state slot next events)
    (other key : Nat) (unused : (next.keyTable key).used = false) : next.coTsd other key = 0 := by
  have held := tls.unused other key
  cases touched with
  | kept coTsd keyTable =>
      rw [keyTable] at unused
      rw [coTsd, held unused]
  | threadCreated _ _ _ coTsd keyTable | cleared _ _ coTsd keyTable =>
      rw [keyTable] at unused
      rw [coTsd, Function.update_apply]
      split
      · rfl
      · exact held unused
  | keyCreated _ same | keyDeleted same =>
      subst same
      simp only [Function.update_apply] at unused ⊢
      split
      · rfl
      next apart => exact held (by rwa [if_neg apart] at unused)
  | @set changed value _ running used same =>
      subst same
      have apart : key ≠ changed := by
        rintro rfl
        exact absurd (used.symm.trans unused) (by decide)
      rw [tls.current running, State.setRow_coTsd, update_cell, if_neg fun both => apart both.2]
      exact held unused
  | exited _ _ same | round _ _ same =>
      subst same
      exact held unused
  | handed _ _ _ _ same =>
      subst same
      rw [State.setControl_coTsd, State.setRow_coTsd, update_cell]
      split
      · rfl
      · exact held unused

theorem Tls.beyond_touch (tls : Tls state past) (touched : Touch state slot next events)
    (key : Nat) (past' : maxKeys ≤ key) : (next.keyTable key).used = false := by
  have held := tls.beyond key past'
  cases touched with
  | kept _ keyTable | threadCreated _ _ _ _ keyTable | cleared _ _ _ keyTable => rwa [keyTable]
  | keyCreated within same =>
      subst same
      simp only [Function.update_apply]
      rwa [if_neg (by omega)]
  | keyDeleted same =>
      subst same
      simp only [Function.update_apply]
      split
      · rfl
      · exact held
  | set _ _ same | exited _ _ same | round _ _ same | handed _ _ _ _ same =>
      subst same
      exact held

theorem update_cases {cothreads : Nat → Option Control} {slot other : Nat}
    {after control : Option Control}
      (moved : Function.update cothreads slot after other = control) :
    (other = slot ∧ control = after) ∨ (other ≠ slot ∧ control = cothreads other) := by
  by_cases same : other = slot
  · exact .inl ⟨same, by rw [← moved, same, Function.update_self]⟩
  · exact .inr ⟨same, by rw [← moved, Function.update_of_ne same]⟩

theorem Tls.idle_touch (tls : Tls state past) (touched : Touch state slot next events)
    (other key : Nat) (idle : Idle (next.cothreads other)) : next.coTsd other key = 0 := by
  have held := tls.idle other key
  cases touched with
  | kept coTsd _ _ onward => rw [coTsd, held ((onward other).idle idle)]
  | threadCreated _ _ _ coTsd _ cothreads | cleared _ _ coTsd _ cothreads =>
      rw [cothreads] at idle
      generalize moved : Function.update _ _ _ other = control at idle
      rw [coTsd]
      rcases update_cases moved with ⟨rfl, -⟩ | ⟨apart, rfl⟩
      · rw [Function.update_self]
      · rw [Function.update_of_ne apart, held idle]
  | keyCreated _ same | keyDeleted same =>
      subst same
      simp only [Function.update_apply]
      split
      · rfl
      · exact held idle
  | set running _ same =>
      subst same
      have apart : other ≠ slot := by
        rintro rfl
        rw [State.setRow_cothreads, running] at idle
        exact idle
      rw [tls.current running, State.setRow_coTsd, Function.update_of_ne apart]
      exact held idle
  | exited _ _ same | round _ _ same =>
      subst same
      rw [State.setControl_cothreads] at idle
      generalize moved : Function.update _ _ _ other = control at idle
      rcases update_cases moved with ⟨-, rfl⟩ | ⟨-, rfl⟩
      · exact idle.elim
      · exact held idle
  | handed _ _ _ _ same =>
      subst same
      rw [State.setControl_cothreads] at idle
      generalize moved : Function.update _ _ _ other = control at idle
      rw [State.setControl_coTsd, State.setRow_coTsd]
      rcases update_cases moved with ⟨-, rfl⟩ | ⟨apart, rfl⟩
      · exact idle.elim
      · rw [Function.update_of_ne apart]
        exact held idle

theorem Tls.walk_touch (tls : Tls state past) (touched : Touch state slot next events)
    (other : Nat) {finish : Finish}
    (walks : (next.cothreads other).bind Control.walk = some finish) :
    Pthread.rounds (events ++ past) other = finish.pass + 1 := by
  cases touched with
  | kept _ _ _ onward =>
      obtain ⟨was, walked, pass⟩ := (onward other).walk finish walks
      rw [List.nil_append, tls.walk other was walked, pass]
  | threadCreated _ _ _ _ _ cothreads | cleared _ _ _ _ cothreads =>
      rw [cothreads] at walks
      generalize moved : Function.update _ _ _ other = control at walks
      rw [List.singleton_append, rounds_of_quiet rfl]
      rcases update_cases moved with ⟨-, rfl⟩ | ⟨-, rfl⟩
      · cases walks
      · exact tls.walk other finish walks
  | keyCreated _ same | keyDeleted same | set _ _ same =>
      subst same
      rw [List.singleton_append, rounds_of_quiet rfl]
      exact tls.walk other finish walks
  | exited running first same =>
      subst same
      rw [State.setControl_cothreads] at walks
      generalize moved : Function.update _ _ _ other = control at walks
      rw [List.cons_append, List.singleton_append, rounds_round, rounds_exited]
      rcases update_cases moved with ⟨same, rfl⟩ | ⟨apart, rfl⟩
      · cases walks
        rw [if_pos same, if_pos same, first]
      · rw [if_neg apart, if_neg apart]
        exact tls.walk other finish walks
  | @handed was _ finishing _ _ _ same =>
      subst same
      rw [State.setControl_cothreads] at walks
      generalize moved : Function.update _ _ _ other = control at walks
      rw [List.singleton_append, rounds_of_quiet rfl]
      rcases update_cases moved with ⟨rfl, rfl⟩ | ⟨-, rfl⟩
      · cases walks
        exact tls.walk other was (by rw [finishing]; rfl)
      · exact tls.walk other finish walks
  | round finishing more same =>
      subst same
      rw [State.setControl_cothreads] at walks
      generalize moved : Function.update _ _ _ other = control at walks
      rw [List.singleton_append, rounds_round]
      rcases update_cases moved with ⟨rfl, rfl⟩ | ⟨apart, rfl⟩
      · cases walks
        rw [if_pos rfl, tls.walk other _ (by rw [finishing]; rfl)]
      · rw [if_neg apart]
        exact tls.walk other finish walks

theorem Tls.rounds_touch (tls : Tls state past) (touched : Touch state slot next events)
    (other : Nat) : Pthread.rounds (events ++ past) other ≤ tsdDestructorPasses := by
  have held := tls.rounds other
  cases touched with
  | kept => exact held
  | threadCreated | keyCreated | keyDeleted | set | handed | cleared =>
      rwa [List.singleton_append, rounds_of_quiet rfl]
  | exited =>
      rw [List.cons_append, List.singleton_append, rounds_round, rounds_exited]
      split
      · decide
      · exact held
  | @round finish stack finishing more =>
      rw [List.singleton_append, rounds_round]
      split
      next same =>
        rw [same, tls.walk slot finish (by rw [finishing]; rfl)]
        omega
      · exact held

theorem Tls.due_touch (tls : Tls state past) (touched : Touch state slot next events) :
    Due (events ++ past) := by
  cases touched with
  | kept => exact tls.due
  | threadCreated | keyCreated | keyDeleted | set | round | cleared =>
      exact tls.due.cons_of_ne fun _ _ _ _ => nofun
  | exited =>
      have exited : Due (.exited slot :: past) := tls.due.cons_of_ne fun _ _ _ _ => nofun
      exact exited.cons_of_ne fun _ _ _ _ => nofun
  | @handed finish stack finishing used value destructor =>
      refine tls.due.handed ⟨?_, value, ?_, destructor⟩
      · rw [tls.cell] at value ⊢
        exact lastTouch_of_lastSet value
      · rw [← tls.table, ← used]

end

theorem Tls.boot : Tls boot [] where
  ready slot live := by
    by_cases root : slot = 0
    · exact .inl root
    · exact absurd (if_neg root) live
  cell _ _ := rfl
  table _ := rfl
  unused _ _ _ := rfl
  beyond _ _ := rfl
  idle _ _ _ := rfl
  walk slot finish walks := by
    change (if slot = 0 then some (Control.running []) else none).bind Control.walk = _ at walks
    split at walks <;> cases walks
  rounds _ := Nat.zero_le _
  due newer _ _ _ _ _ split := by cases newer <;> cases split

theorem Tls.touch {events : List Event} (tls : Tls state past)
    (touched : Touch state slot next events) : Tls next (events ++ past) where
  ready := tls.ready_touch touched
  cell := tls.cell_touch touched
  table := tls.table_touch touched
  unused := tls.unused_touch touched
  beyond := tls.beyond_touch touched
  idle := tls.idle_touch touched
  walk _ _ := tls.walk_touch touched _
  rounds := tls.rounds_touch touched
  due := tls.due_touch touched

theorem Tls.run {steps : List (Nat × Action)} (tls : Tls state past)
    (ran : run state steps = some next) : Tls next (history state past steps) := by
  induction steps generalizing state past with
  | nil =>
      cases ran
      exact tls
  | cons first rest ih =>
      obtain ⟨slot, action⟩ := first
      obtain ⟨middle, stepped, ran⟩ := Option.bind_eq_some_iff.mp ran
      rw [history, stepped]
      exact ih (tls.touch (step_touch stepped)) ran

/-! ## Runs -/

/-- Only a thread that runs user code asks. -/
theorem Tls.getspecific {stack : List Finish} (tls : Tls state past)
    (running : state.cothreads slot = some (.running stack)) (key : Nat) :
    pthreadGetspecific state slot key = lastSet past slot key := by
  rw [pthreadGetspecific, tls.current running]
  split
  · exact tls.cell slot key
  next invalid =>
    have unused : (state.keyTable key).used = false := by
      rcases Nat.lt_or_ge key maxKeys with within | beyond
      · rw [keyValid, decide_eq_true within, Bool.true_and] at invalid
        exact Bool.eq_false_iff.mpr invalid
      · exact tls.beyond key beyond
    rw [← tls.cell, tls.unused slot key unused]

/-- After every run of key calls, thread creations and exits, switching at any step: a thread
reads what it last set under the key as it is; no exit began more than the fixed number of
rounds; each value handed to a destructor was the last its thread had set, and the destructor
its key's; and the row of a slot whose thread is gone, or has not begun, is null. -/
theorem run_tls {steps : List (Nat × Action)} (ran : run boot steps = some state) :
    let past := history boot [] steps
    (∀ slot stack key, state.cothreads slot = some (.running stack) →
      pthreadGetspecific state slot key = lastSet past slot key) ∧
    (∀ slot, rounds past slot ≤ tsdDestructorPasses) ∧
    Due past ∧
    ∀ slot key, Idle (state.cothreads slot) → state.coTsd slot key = 0 := by
  have tls := Tls.boot.run ran
  exact ⟨fun _ _ key running => tls.getspecific running key, tls.rounds, tls.due, tls.idle⟩

/-- The root and a thread each set a value for one key, and each reads its own. -/
def sharedKey : List (Nat × Action) :=
  [(0, .threadInit), (0, .create { start := 5, arg := 9, malloc := some 100, spawn := some 1 }),
    (1, .resume), (0, .keyCreate 7), (0, .setspecific 0 3), (1, .setspecific 0 5)]

theorem run_tls_shared :
    ∃ state, run boot sharedKey = some state ∧
      pthreadGetspecific state 0 0 = lastSet (history boot [] sharedKey) 0 0 ∧
      pthreadGetspecific state 1 0 = lastSet (history boot [] sharedKey) 1 0 ∧
      rounds (history boot [] sharedKey) 1 ≤ tsdDestructorPasses := by
  obtain ⟨state, ran⟩ : ∃ state, run boot sharedKey = some state := ⟨_, rfl⟩
  have first : state.cothreads 0 = some (.running []) := by
    cases ran
    rfl
  have second : state.cothreads 1 = some (.running []) := by
    cases ran
    rfl
  obtain ⟨get, paced, -⟩ := run_tls ran
  exact ⟨state, ran, get 0 [] 0 first, get 1 [] 0 second, paced 1⟩

example : lastSet (history boot [] sharedKey) 1 0 = 5 := by decide

end Chrysopolis.Beam.Pthread
