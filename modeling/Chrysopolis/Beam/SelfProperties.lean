import Chrysopolis.Beam.PthreadProperties

/-! The thread that a slot runs: `pthread_self` answers the same in a slot from the creation of
its thread to the end of its start routine and destructors. -/

set_option autoImplicit false

namespace Chrysopolis.Beam.Pthread

variable {state next : State} {slot other address : Nat} {record : Record}

/-- The cothread of the slot can still run code of its thread. -/
def Live (state : State) (slot : Nat) : Prop :=
  ∃ control, state.cothreads slot = some control ∧ control ≠ .waking

/-- Before the scheduler is ready only the root runs. -/
def Cold (state : State) : Prop :=
  state.ready = false → ∀ slot, Live state slot → slot = 0

/-- The slot keeps its record, and the record its token. -/
structure Same (state next : State) (slot : Nat) : Prop where
  byHandle : next.byHandle slot = state.byHandle slot
  token : ∀ address, state.byHandle slot = some address →
    (next.heap address).map (·.token) = (state.heap address).map (·.token)

theorem Same.refl (state : State) (slot : Nat) : Same state state slot := ⟨rfl, fun _ _ => rfl⟩

theorem Same.trans {middle : State} (first : Same state middle slot)
    (second : Same middle next slot) : Same state next slot where
  byHandle := second.byHandle.trans first.byHandle
  token := fun address named =>
    (second.token address (first.byHandle.trans named)).trans (first.token address named)

theorem Same.of_eq (byHandle : next.byHandle = state.byHandle) (heap : next.heap = state.heap)
    (slot : Nat) : Same state next slot where
  byHandle := congrFun byHandle slot
  token := fun _ _ => by rw [heap]

/-- A record is rewritten with its token. -/
theorem Same.setRecord (found : state.heap address = some record) {rewritten : Record}
    (token : rewritten.token = record.token) (slot : Nat) :
    Same state (state.setRecord address rewritten) slot where
  byHandle := rfl
  token := fun named _ => by
    by_cases same : named = address
    · subst same
      rw [found]
      exact (congrArg _ (Function.update_self ..)).trans (congrArg some token)
    · exact congrArg _ (Function.update_of_ne same ..)

/-- A record that the slot does not name may be freed. -/
theorem Same.removeRecord (apart : state.byHandle slot ≠ some address) :
    Same state (removeRecord state address) slot := by
  unfold Pthread.removeRecord
  split_ifs
  · split
    · exact ⟨rfl, fun _ _ => rfl⟩
    · refine ⟨rfl, fun named names => congrArg _ (Function.update_of_ne ?_ ..)⟩
      rintro rfl
      exact apart names
  · exact .refl state slot

theorem Same.pthreadSelf (same : Same state next slot) (ready : next.ready = state.ready) :
    pthreadSelf next slot = pthreadSelf state slot := by
  unfold Pthread.pthreadSelf runtimeCoCurrent
  rw [ready]
  by_cases up : state.ready = true
  · simp only [up, if_true, same.byHandle]
    cases named : state.byHandle slot with
    | none => rfl
    | some address => simp only [same.token address named]
  · simp only [up, Bool.false_eq_true, if_false, if_true]

/-! ## Steps -/

theorem live_update {cothreads : Nat → Option Control} {control : Control}
    (acts : cothreads slot = some control) (active : control ≠ .waking) {cell : Option Control}
    {found : Control} (live : Function.update cothreads slot cell other = some found)
    (awake : found ≠ .waking) : ∃ before, cothreads other = some before ∧ before ≠ .waking := by
  by_cases same : other = slot
  · subst same
    exact ⟨control, acts, active⟩
  · exact ⟨found, (Function.update_of_ne same ..).symm.trans live, awake⟩

/-- What a step leaves of a slot that is live after it. -/
def Kept (state next : State) : Prop :=
  next.ready = state.ready ∧ ∀ slot, Live next slot → Live state slot ∧ Same state next slot

theorem Kept.refl (state : State) : Kept state state :=
  ⟨rfl, fun slot live => ⟨live, .refl state slot⟩⟩

/-- A step of one cothread that keeps the records of the others. -/
theorem Kept.of_update {control : Control} (acts : state.cothreads slot = some control)
    (active : control ≠ .waking) {cell : Option Control}
    (cothreads : next.cothreads = Function.update state.cothreads slot cell)
    (ready : next.ready = state.ready)
    (same : ∀ other, Live next other → Same state next other) : Kept state next := by
  refine ⟨ready, fun other live => ⟨?_, same other live⟩⟩
  obtain ⟨found, here, awake⟩ := live
  rw [cothreads] at here
  exact live_update acts active here awake

theorem Kept.of_eq (cothreads : next.cothreads = state.cothreads)
    (ready : next.ready = state.ready) (same : ∀ other, Same state next other) :
    Kept state next := by
  refine ⟨ready, fun other live => ⟨?_, same other⟩⟩
  obtain ⟨found, here, awake⟩ := live
  rw [cothreads] at here
  exact ⟨found, here, awake⟩

/-- A complete record is in no slot. -/
theorem Inv.unnamed (inv : Inv state) (found : state.heap address = some record)
    (complete : record.complete = true) (slot : Nat) : state.byHandle slot ≠ some address := by
  intro named
  obtain ⟨held, was, running, -⟩ := (inv.live slot address).mp named
  rw [found, Option.some.injEq] at was
  subst was
  rw [complete] at running
  cases running

theorem removeRecord_cothreads (state : State) (address : Nat) :
    (removeRecord state address).cothreads = state.cothreads := by
  unfold removeRecord
  split_ifs
  · split <;> rfl
  · rfl

theorem removeRecord_ready (state : State) (address : Nat) :
    (removeRecord state address).ready = state.ready := by
  unfold removeRecord
  split_ifs
  · split <;> rfl
  · rfl

/-- A create that fails leaves the slots alone; one that succeeds fills the slot it was given
and a free place of the heap. -/
theorem pthreadCreate_cases {call : Create} {result : Except Errno Nat}
    (created : pthreadCreate state call = some (next, result)) :
    next.ready = state.ready ∧
      (next.cothreads = state.cothreads ∧ next.heap = state.heap ∧
          next.byHandle = state.byHandle ∨
        ∃ token address handle record, state.ready = true ∧ result = .ok token ∧
          call.malloc = some address ∧ call.spawn = some handle ∧
          next.cothreads = Function.update state.cothreads handle (some (.spawned address)) ∧
          next.heap = Function.update state.heap address (some record) ∧
          next.byHandle = Function.update state.byHandle handle (some address)) := by
  unfold pthreadCreate at created
  split_ifs at created with missing cold
  · cases created
    exact ⟨rfl, .inl ⟨rfl, rfl, rfl⟩⟩
  · cases created
    exact ⟨rfl, .inl ⟨rfl, rfl, rfl⟩⟩
  have ready := Bool.of_not_eq_false cold
  split at created
  · cases created
    exact ⟨rfl, .inl ⟨rfl, rfl, rfl⟩⟩
  split at created
  · cases created
    exact ⟨rfl, .inl ⟨rfl, rfl, rfl⟩⟩
  next address malloc =>
    split at created
    · cases created
      exact ⟨rfl, .inl ⟨rfl, rfl, rfl⟩⟩
    split at created
    · cases created
      exact ⟨rfl, .inl ⟨rfl, rfl, rfl⟩⟩
    next handle spawn =>
      split_ifs at created
      cases created
      exact ⟨rfl, .inr ⟨_, address, handle, _, ready, rfl, malloc, spawn, rfl, rfl, rfl⟩⟩

/-- The slot of a new thread is the only one whose thread is another than before. -/
theorem Inv.create_self (inv : Inv state) {call : Create} {result : Except Errno Nat}
    (answered : answers state call = true)
    (created : Pthread.pthreadCreate state call = some (next, result)) (live : Live next other) :
    (∃ token, result = .ok token ∧ call.spawn = some other) ∨
      Live state other ∧ Pthread.pthreadSelf next other = Pthread.pthreadSelf state other := by
  obtain ⟨ready, kept | ⟨token, address, handle, record, -, made, malloc, spawn, cothreads,
    heap, byHandle⟩⟩ := pthreadCreate_cases created
  · have before : Live state other := by
      obtain ⟨found, here, awake⟩ := live
      exact ⟨found, kept.1 ▸ here, awake⟩
    exact .inr ⟨before, (Same.of_eq kept.2.2 kept.2.1 other).pthreadSelf ready⟩
  · by_cases same : other = handle
    · exact .inl ⟨token, made, same ▸ spawn⟩
    · right
      simp only [answers, malloc, Option.all_some, Bool.and_eq_true,
        Option.isNone_iff_eq_none] at answered
      obtain ⟨found, here, awake⟩ := live
      rw [cothreads, Function.update_of_ne same] at here
      refine ⟨⟨found, here, awake⟩, Same.pthreadSelf ⟨?_, fun named names => ?_⟩ ready⟩
      · rw [byHandle, Function.update_of_ne same]
      · obtain ⟨held, was, -⟩ := (inv.live other named).mp names
        have apart : named ≠ address := by
          rintro rfl
          rw [answered.1] at was
          cases was
        rw [heap, Function.update_of_ne apart]

/-- A slot names its record alone. -/
theorem Inv.named_apart (inv : Inv state) (named : state.byHandle slot = some address)
    (apart : other ≠ slot) : state.byHandle other ≠ some address := by
  intro names
  obtain ⟨record, found, -, handle⟩ := (inv.live slot address).mp named
  obtain ⟨held, was, -, same⟩ := (inv.live other address).mp names
  rw [found, Option.some.injEq] at was
  subst was
  exact apart (same.symm.trans handle)

theorem Inv.finishDone_kept (inv : Inv state) {finish : Finish} {control : Control}
    (owns : finish.record = state.byHandle slot) (acts : state.cothreads slot = some control)
    (active : control ≠ .waking) : Kept state (Pthread.finishDone state slot finish) := by
  have asleep {next : State} {other : Nat}
      (cothreads : next.cothreads = Function.update state.cothreads slot (some .waking))
      (live : Live next other) : other ≠ slot := by
    rintro rfl
    obtain ⟨found, here, awake⟩ := live
    rw [cothreads, Function.update_self, Option.some.injEq] at here
    exact awake here.symm
  let left : State := { state.setControl slot .waking with
    byHandle := Function.update state.byHandle slot none }
  have named (other : Nat) (apart : other ≠ slot) : Same state left other :=
    ⟨Function.update_of_ne apart .., fun _ _ => rfl⟩
  cases holds : finish.record with
  | none =>
      simp only [Pthread.finishDone, holds]
      exact .of_update acts active rfl rfl fun other live => named other (asleep rfl live)
  | some address =>
      have names : state.byHandle slot = some address := owns ▸ holds
      obtain ⟨record, found, -⟩ := (inv.live slot address).mp names
      let ended : Record := { record with result := finish.result, complete := true }
      let life := state.life record.token
      let complete := (left.setRecord address ended).setLife record.token
        { life with results := life.results ++ [finish.result] }
      have unfolded : Pthread.finishDone state slot finish =
          if record.detached then Pthread.removeRecord complete address else complete := by
        simp only [Pthread.finishDone, holds, State.setControl, found, complete, left, ended, life]
      have written (other : Nat) (apart : other ≠ slot) : Same state complete other := by
        have rewritten : Same left (left.setRecord address ended) other :=
          @Same.setRecord left address record found ended rfl other
        exact (named other apart).trans ⟨rewritten.byHandle, rewritten.token⟩
      rw [unfolded]
      split_ifs
      · refine .of_update acts active (removeRecord_cothreads ..) (removeRecord_ready ..)
          fun other live => ?_
        have apart := asleep (removeRecord_cothreads ..) live
        refine (written other apart).trans (.removeRecord ?_)
        rw [show complete.byHandle other = state.byHandle other from
          Function.update_of_ne apart ..]
        exact inv.named_apart names apart
      · exact .of_update acts active rfl rfl fun other live => written other (asleep rfl live)

theorem Inv.finishStep_kept (inv : Inv state) {finish : Finish} {stack : List Finish}
    (finishing : state.cothreads slot = some (.finishing finish stack)) :
    Kept state (Pthread.finishStep state slot finish stack) := by
  simp only [Pthread.finishStep]
  split_ifs
  · exact .of_update finishing (by simp) rfl rfl fun _ _ => ⟨rfl, fun _ _ => rfl⟩
  · exact .of_update finishing (by simp) rfl rfl fun _ _ => ⟨rfl, fun _ _ => rfl⟩
  · exact .of_update finishing (by simp) rfl rfl fun _ _ => ⟨rfl, fun _ _ => rfl⟩
  · have owns : finish.record = state.byHandle slot :=
      inv.owns slot (.finishing finish stack) finishing finish List.mem_cons_self
    obtain ⟨ready, kept⟩ := (inv.clearRow finishing).finishDone_kept owns finishing (by simp)
    exact ⟨ready, fun other live => ⟨(kept other live).1, ⟨(kept other live).2.byHandle,
      (kept other live).2.token⟩⟩⟩

theorem finishCurrent_kept {control : Control} (acts : state.cothreads slot = some control)
    (active : control ≠ .waking) (result : Nat) (stack : List Finish) :
    Kept state (finishCurrent state slot result stack) := by
  simp only [finishCurrent]
  split_ifs
  · exact .of_update acts active rfl rfl fun _ _ => ⟨rfl, fun _ _ => rfl⟩
  · exact .of_update acts active rfl rfl fun _ _ => ⟨rfl, fun _ _ => rfl⟩

theorem Inv.joinCheck_kept (inv : Inv state) {stack : List Finish}
    (waiting : state.cothreads slot = some (.joining address stack)) :
    Kept state (Pthread.joinCheck state slot address stack) := by
  obtain ⟨record, found, -⟩ := inv.claimed slot address ⟨stack, waiting⟩
  simp only [Pthread.joinCheck, found]
  split_ifs with complete
  · refine .of_update waiting (by simp) (removeRecord_cothreads ..) (removeRecord_ready ..)
      fun other _ => ?_
    have freed := @Same.removeRecord ((state.setControl slot (.running stack)).setLife record.token
      { state.life record.token with
        joins := (state.life record.token).joins ++ [record.result] }) other address
      (inv.unnamed found complete other)
    exact ⟨freed.byHandle, freed.token⟩
  · exact .refl state

theorem Inv.pthreadDetach_kept (inv : Inv state) (thread : Nat) :
    Kept state (Pthread.pthreadDetach state thread).1 := by
  unfold Pthread.pthreadDetach
  cases search : findRecord state thread with
  | none => exact .refl state
  | some pair =>
      obtain ⟨address, record⟩ := pair
      obtain ⟨found, -⟩ := findRecord_some search
      dsimp only
      split_ifs with taken complete
      · exact .refl state
      · let marked := (state.setRecord address { record with detached := true }).setLife
          record.token { state.life record.token with
            detached := true, detaches := (state.life record.token).detaches + 1 }
        refine .of_eq (removeRecord_cothreads ..) (removeRecord_ready ..) fun other => ?_
        have written := @Same.setRecord state address record found
          { record with detached := true } rfl other
        have freed := @Same.removeRecord marked other address (inv.unnamed found complete other)
        exact (show Same state marked other from ⟨written.byHandle, written.token⟩).trans freed
      · have written := @Same.setRecord state address record found
          { record with detached := true } rfl
        exact .of_eq rfl rfl fun other => ⟨(written other).byHandle, (written other).token⟩

/-- What a step does to the slots: the scheduler becomes ready, a create asks for a slot, or
every slot that stays live keeps its thread. -/
theorem Inv.step_kept (inv : Inv state) (swept : Swept state) {action : Action}
    (stepped : Pthread.step state slot action = some next) :
    Kept state next ∨ next = { state with ready := true } ∨
      ∃ call result, action = .create call ∧ answers state call = true ∧
        Pthread.pthreadCreate state call = some (next, result) := by
  have intact : ¬ (state.fault = true ∨ state.aborted = true) := by
    simp [inv.intact.1, inv.intact.2]
  unfold Pthread.step at stepped
  rw [if_neg intact] at stepped
  split at stepped
  next stack running =>
    split_ifs at stepped
    cases stepped
    exact .inr (.inl rfl)
  next stack call running =>
    split_ifs at stepped with answered
    obtain ⟨created, result, equal, -, -⟩ := inv.pthreadCreate swept answered
    simp only [equal, Option.some.injEq] at stepped
    subst stepped
    exact .inr (.inr ⟨call, result, rfl, answered, equal⟩)
  next stack thread running =>
    cases joined : Pthread.pthreadJoin state slot thread with
    | none => exact absurd joined (inv.pthreadJoin slot thread)
    | some pair =>
        obtain ⟨claimed, errno | address⟩ := pair
        · simp only [joined, Option.some.injEq] at stepped
          obtain rfl := pthreadJoin_error joined
          subst stepped
          exact .inl (.refl _)
        · simp only [joined, Option.some.injEq] at stepped
          subst stepped
          obtain ⟨record, found, -, -, rfl⟩ := pthreadJoin_ok joined
          have written := @Same.setRecord state address record found
            { record with joinClaimed := true } rfl
          exact .inl (.of_update running (by simp) rfl rfl fun other _ =>
            ⟨(written other).byHandle, (written other).token⟩)
  next stack thread running =>
    cases stepped
    exact .inl (inv.pthreadDetach_kept thread)
  next stack destructor running =>
    cases stepped
    refine .inl ?_
    unfold pthreadKeyCreate
    split
    · exact .refl state
    · exact .of_eq rfl rfl fun _ => ⟨rfl, fun _ _ => rfl⟩
  next stack key running =>
    cases stepped
    refine .inl ?_
    unfold pthreadKeyDelete
    split_ifs
    · exact .of_eq rfl rfl fun _ => ⟨rfl, fun _ _ => rfl⟩
    · exact .refl state
  next stack key value running =>
    cases stepped
    refine .inl ?_
    unfold pthreadSetspecific
    split_ifs
    · exact .of_eq rfl rfl fun _ => ⟨rfl, fun _ _ => rfl⟩
    · exact .refl state
  next stack result running =>
    cases stepped
    exact .inl (finishCurrent_kept running (by simp) _ _)
  next stack result running =>
    cases stack with
    | nil =>
        simp only [returned, Option.ite_none_left_eq_some, Option.some.injEq] at stepped
        obtain ⟨-, rfl⟩ := stepped
        exact .inl (finishCurrent_kept running (by simp) _ _)
    | cons finish rest =>
        cases stepped
        exact .inl (.of_update running (by simp) rfl rfl fun _ _ => ⟨rfl, fun _ _ => rfl⟩)
  next address spawned =>
    have named : state.byHandle slot = some address := inv.owns slot (.spawned address) spawned
    obtain ⟨record, found, -⟩ := (inv.live slot address).mp named
    simp only [found, Option.some.injEq] at stepped
    subst stepped
    exact .inl (.of_update spawned (by simp) rfl rfl fun _ _ => ⟨rfl, fun _ _ => rfl⟩)
  next address stack waiting =>
    cases stepped
    exact .inl (inv.joinCheck_kept waiting)
  next finish stack finishing =>
    cases stepped
    exact .inl (inv.finishStep_kept finishing)
  next waking =>
    cases stepped
    refine .inl ⟨rfl, fun other live => ⟨?_, ⟨rfl, fun _ _ => rfl⟩⟩⟩
    obtain ⟨found, here, awake⟩ := live
    have apart : other ≠ slot := by
      rintro rfl
      exact Option.some_ne_none _ (here.symm.trans (Function.update_self ..))
    exact ⟨found, (Function.update_of_ne apart ..).symm.trans here, awake⟩
  · cases stepped

theorem Inv.step_cold (inv : Inv state) (swept : Swept state) (cold : Cold state)
    {action : Action} (stepped : Pthread.step state slot action = some next) : Cold next := by
  intro down other live
  obtain kept | rfl | ⟨call, result, -, -, created⟩ := inv.step_kept swept stepped
  · exact cold (kept.1 ▸ down) other (kept.2 other live).1
  · cases down
  · obtain ⟨ready, ⟨cothreads, -, -⟩ | ⟨_, _, _, _, up, -⟩⟩ := pthreadCreate_cases created
    · obtain ⟨found, here, awake⟩ := live
      exact cold (ready ▸ down) other ⟨found, cothreads ▸ here, awake⟩
    · rw [ready, up] at down
      cases down

/-- A step gives no slot another thread, but for the slot of a thread it creates. -/
theorem Inv.step_self (inv : Inv state) (swept : Swept state) (cold : Cold state)
    {action : Action} (stepped : Pthread.step state slot action = some next)
    (live : Live next other) :
    (∃ call token, action = .create call ∧
        Pthread.pthreadCreate state call = some (next, .ok token) ∧ call.spawn = some other) ∨
      Live state other ∧ Pthread.pthreadSelf next other = Pthread.pthreadSelf state other := by
  obtain kept | rfl | ⟨call, result, creates, answered, created⟩ := inv.step_kept swept stepped
  · exact .inr ⟨(kept.2 other live).1, (kept.2 other live).2.pthreadSelf kept.1⟩
  · refine .inr ⟨live, ?_⟩
    by_cases up : state.ready = true
    · exact Same.pthreadSelf ⟨rfl, fun _ _ => rfl⟩ up.symm
    · have first : other = 0 := cold (Bool.eq_false_iff.mpr up) other live
      simp [Pthread.pthreadSelf, runtimeCoCurrent, first]
  · exact (inv.create_self answered created live).imp_left
      fun ⟨token, made, spawn⟩ => ⟨call, token, creates, made ▸ created, spawn⟩

end Chrysopolis.Beam.Pthread
