import Chrysopolis.ArmTimer.Driver

/-! Restarts of the timer driver lose no timeout, and invent none unless one strikes the cold
boot's init after it has set its flag and before it has cleared the zeroed entries. -/

set_option autoImplicit false

namespace Chrysopolis.ArmTimer

variable {maxTimeouts : Nat}

/-- The deadline a channel waits for: its latest accepted timeout, if no notification came
after it. -/
def outstanding (channel : Fin maxTimeouts) : List (Event maxTimeouts) → Option UInt64
  | [] => none
  | .accepted other deadline :: rest =>
      if other = channel then some deadline else outstanding channel rest
  | .notified other :: rest => if other = channel then none else outstanding channel rest

/-- The channel has set a timeout since the cold boot. -/
def hasSet (log : List (Event maxTimeouts)) (channel : Fin maxTimeouts) : Bool :=
  log.any fun
    | .accepted other _ => other = channel
    | .notified _ => false

/-- Each notification goes to a channel that has set a timeout before it. -/
def Invited : List (Event maxTimeouts) → Prop
  | [] => True
  | .accepted _ _ :: rest => Invited rest
  | .notified channel :: rest => hasSet rest channel = true ∧ Invited rest

/-- The flag is set, and an entry that no client has set is not cleared yet. -/
def State.halfBooted (state : State maxTimeouts) : Bool :=
  state.initialised && (List.finRange maxTimeouts).any fun channel =>
    state.timeouts channel ≠ unarmed && !hasSet state.log channel

/-- No restart of a run strikes a half-booted driver. -/
def restartsSafe (due : UInt64 → UInt64 → Bool) :
    State maxTimeouts → List (Action maxTimeouts) → Bool
  | _, [] => true
  | state, action :: rest =>
      (action != .restart || !state.halfBooted) &&
        match step due state action with
        | none => true
        | some next => restartsSafe due next rest

@[simp] theorem outstanding_notified (channel other : Fin maxTimeouts)
    (log : List (Event maxTimeouts)) :
    outstanding channel (.notified other :: log) =
      if other = channel then none else outstanding channel log := rfl

@[simp] theorem outstanding_accepted (channel other : Fin maxTimeouts) (deadline : UInt64)
    (log : List (Event maxTimeouts)) :
    outstanding channel (.accepted other deadline :: log) =
      if other = channel then some deadline else outstanding channel log := rfl

@[simp] theorem hasSet_notified (channel other : Fin maxTimeouts)
    (log : List (Event maxTimeouts)) :
    hasSet (.notified other :: log) channel = hasSet log channel := rfl

@[simp] theorem hasSet_accepted (channel other : Fin maxTimeouts) (deadline : UInt64)
    (log : List (Event maxTimeouts)) :
    hasSet (.accepted other deadline :: log) channel =
      (decide (other = channel) || hasSet log channel) := rfl

/-! ## What holds in each phase -/

/-- Where an entry may still be the zero of the cold boot. -/
def Phase.Uncleared (initialised : Bool) (channel : Nat) : Phase → Prop
  | .entry | .marking => initialised = false
  | .clearing index => index ≤ channel
  | _ => False

/-- What a channel waits for where init may soon forget it: nothing that it has been told of,
and in the end nothing but the deadline that an unarmed entry stands for. -/
def Phase.Told (channel : Nat) (waits : Option UInt64) : Phase → Prop
  | .telling index => channel < index → ∀ deadline ∈ waits, deadline = unarmed
  | .marking | .clearing _ => ∀ deadline ∈ waits, deadline = unarmed
  | .notified index _ => channel = index → waits = none
  | _ => True

/-- The entries hold what clients wait for in every run, and notify no one else as long as the
restarts have spared half-booted drivers. -/
structure Inv (spared : Prop) (state : State maxTimeouts) : Prop where
  kept : ∀ channel, ∀ deadline ∈ outstanding channel state.log,
    state.timeouts channel = deadline
  told : ∀ channel : Fin maxTimeouts, state.phase.Told channel (outstanding channel state.log)
  cold : state.initialised = false →
    state.log = [] ∧ (state.phase = .entry ∨ state.phase = .marking)
  armed : spared → ∀ channel, state.timeouts channel ≠ unarmed →
    hasSet state.log channel = true ∨ state.phase.Uncleared state.initialised channel
  invited : spared → Invited state.log

variable {spared : Prop} {due : UInt64 → UInt64 → Bool} {state next : State maxTimeouts}

theorem Inv.boot : Inv spared (boot : State maxTimeouts) where
  kept := nofun
  told := fun _ => trivial
  cold := fun _ => ⟨rfl, .inl rfl⟩
  armed := fun _ _ _ => .inr rfl
  invited := fun _ => trivial

/-- A step that moves the thread alone. -/
theorem Inv.move (inv : Inv spared state) (phase : Phase)
    (told : ∀ channel : Fin maxTimeouts, phase.Told channel (outstanding channel state.log))
    (begun : state.initialised = true ∨ phase = .marking)
    (armed : ∀ channel : Fin maxTimeouts, state.timeouts channel ≠ unarmed →
      state.phase.Uncleared state.initialised channel →
        hasSet state.log channel = true ∨ phase.Uncleared state.initialised channel) :
    Inv spared { state with phase } :=
  { inv with
    told
    cold := fun fresh => ⟨(inv.cold fresh).1,
      .inr (begun.resolve_left (Bool.eq_false_iff.mp fresh))⟩
    armed := fun safe channel entry =>
      (inv.armed safe channel entry).elim .inl (armed channel entry) }

/-- A notification of an armed channel, where every armed entry is one that a client set. -/
theorem Inv.notify (inv : Inv spared state) (channel : Fin maxTimeouts) (phase : Phase)
    (begun : state.initialised = true)
    (cleared : ∀ channel : Nat, ¬ state.phase.Uncleared state.initialised channel)
    (entry : state.timeouts channel ≠ unarmed)
    (told : ∀ other : Fin maxTimeouts,
      phase.Told other (outstanding other (state.notify channel).log)) :
    Inv spared { state.notify channel with phase } where
  kept := fun other deadline waits => by
    simp only [State.notify, outstanding_notified] at waits
    split_ifs at waits with same
    · cases waits
    · exact inv.kept other deadline waits
  told := told
  cold := fun fresh => absurd begun (Bool.eq_false_iff.mp fresh)
  armed := fun safe other armed =>
    .inl ((inv.armed safe other armed).resolve_right (cleared other))
  invited := fun safe =>
    ⟨(inv.armed safe channel entry).resolve_right (cleared channel), inv.invited safe⟩

/-- The clear of an entry that nobody waits for. -/
theorem Inv.clear (inv : Inv spared state) (channel : Fin maxTimeouts) (phase : Phase)
    (begun : state.initialised = true)
    (idle : ∀ deadline ∈ outstanding channel state.log, deadline = unarmed)
    (told : ∀ other : Fin maxTimeouts, phase.Told other (outstanding other state.log))
    (armed : ∀ other : Fin maxTimeouts, other ≠ channel →
      state.phase.Uncleared state.initialised other →
        phase.Uncleared state.initialised other) :
    Inv spared { state.store channel unarmed with phase } :=
  { inv with
    kept := fun other deadline waits => by
      by_cases same : other = channel
      · subst same
        rw [idle deadline waits]
        exact Function.update_self ..
      · exact (Function.update_of_ne same ..).trans (inv.kept other deadline waits)
    told
    cold := fun fresh => absurd begun (Bool.eq_false_iff.mp fresh)
    armed := fun safe other entry => by
      have apart : other ≠ channel := by
        rintro rfl
        exact entry (Function.update_self ..)
      have before : state.timeouts other ≠ unarmed :=
        fun same => entry ((Function.update_of_ne apart ..).trans same)
      exact (inv.armed safe other before).imp_right (armed other apart) }

/-! ## Steps -/

theorem Inv.advance (never : ∀ now, due unarmed now = false) (inv : Inv spared state)
    (stepped : advance due state = some next) : Inv spared next := by
  have told := inv.told
  have begun (phase : state.phase ≠ .entry) (later : state.phase ≠ .marking) :
      state.initialised = true :=
    Bool.eq_true_of_not_eq_false fun fresh => (inv.cold fresh).2.elim phase later
  obtain ⟨timeouts, initialised, phase, log⟩ := state
  unfold ArmTimer.advance at stepped
  cases phase with
  | entry =>
      obtain rfl := Option.some.inj stepped
      dsimp only
      cases initialised with
      | true =>
          exact inv.move (.telling 0) (fun _ early => absurd early (Nat.not_lt_zero _)) (.inl rfl)
            nofun
      | false =>
          refine inv.move .marking (fun channel deadline waits => ?_) (.inr rfl)
            fun _ _ fresh => .inr fresh
          rw [(inv.cold rfl).1] at waits
          cases waits
  | telling index =>
      dsimp only at stepped
      split_ifs at stepped with bound entry
      · obtain rfl := Option.some.inj stepped
        refine inv.notify ⟨index, bound⟩ (.telling (index + 1)) (begun nofun nofun)
          (fun _ => id) entry ?_
        intro other early deadline waits
        simp only [State.notify, outstanding_notified] at waits
        split_ifs at waits with same
        · cases waits
        · refine told other ?_ deadline waits
          have apart : other.val ≠ index := fun equal => same (Fin.ext equal.symm)
          omega
      · obtain rfl := Option.some.inj stepped
        refine inv.move (.telling (index + 1)) (fun other early deadline waits => ?_)
          (.inl (begun nofun nofun)) nofun
        by_cases same : other = ⟨index, bound⟩
        · subst same
          exact (inv.kept _ deadline waits).symm.trans (not_not.mp entry)
        · refine told other ?_ deadline waits
          have apart : other.val ≠ index := fun equal => same (Fin.ext equal)
          omega
      · obtain rfl := Option.some.inj stepped
        exact inv.move .marking
          (fun other => told other (Nat.lt_of_lt_of_le other.isLt (Nat.le_of_not_lt bound)))
          (.inr rfl) nofun
  | marking =>
      obtain rfl := Option.some.inj stepped
      exact
        { inv with
          cold := nofun
          armed := fun _ _ _ => .inr (Nat.zero_le _) }
  | clearing index =>
      dsimp only at stepped
      split_ifs at stepped with bound
      · obtain rfl := Option.some.inj stepped
        refine inv.clear ⟨index, bound⟩ (.clearing (index + 1)) (begun nofun nofun) (told _)
          told ?_
        intro other apart uncleared
        exact Nat.lt_of_le_of_ne uncleared fun equal => apart (Fin.ext equal.symm)
      · obtain rfl := Option.some.inj stepped
        refine inv.move .enabling (fun _ => trivial) (.inl (begun nofun nofun))
          fun channel _ uncleared => ?_
        exact absurd (Nat.lt_of_le_of_lt uncleared channel.isLt) bound
  | enabling =>
      obtain rfl := Option.some.inj stepped
      exact inv.move .idle (fun _ => trivial) (.inl (begun nofun nofun)) nofun
  | idle => cases stepped
  | processing index now =>
      dsimp only at stepped
      split_ifs at stepped with bound reached
      · obtain rfl := Option.some.inj stepped
        have entry : timeouts ⟨index, bound⟩ ≠ unarmed := by
          intro same
          rw [same, never now] at reached
          cases reached
        refine inv.notify ⟨index, bound⟩ (.notified index now) (begun nofun nofun)
          (fun _ => id) entry ?_
        rintro other rfl
        exact if_pos rfl
      · obtain rfl := Option.some.inj stepped
        exact inv.move (.processing (index + 1) now) (fun _ => trivial)
          (.inl (begun nofun nofun)) nofun
      · obtain rfl := Option.some.inj stepped
        exact inv.move .idle (fun _ => trivial) (.inl (begun nofun nofun)) nofun
  | notified index now =>
      dsimp only at stepped
      split_ifs at stepped with bound
      obtain rfl := Option.some.inj stepped
      refine inv.clear ⟨index, bound⟩ (.processing (index + 1) now) (begun nofun nofun)
        ?_ (fun _ => trivial) nofun
      rw [told ⟨index, bound⟩ rfl]
      nofun

theorem Inv.setTimeout (inv : Inv spared state) (idle : state.phase = .idle)
    (channel : Fin maxTimeouts) (deadline now : UInt64) :
    Inv spared { state.store channel deadline with
      phase := .processing 0 now
      log := .accepted channel deadline :: state.log } where
  kept := fun other latest waits => by
    simp only [outstanding_accepted] at waits
    split_ifs at waits with same
    · subst same
      exact (Function.update_self ..).trans (Option.some.inj waits)
    · exact (Function.update_of_ne (Ne.symm same) ..).trans (inv.kept other latest waits)
  told := fun _ => trivial
  cold := fun fresh => by
    have early := (inv.cold fresh).2
    rw [idle] at early
    rcases early with impossible | impossible <;> cases impossible
  armed := fun safe other entry => by
    rw [hasSet_accepted, Bool.or_eq_true, decide_eq_true_eq]
    by_cases same : channel = other
    · exact .inl (.inl same)
    · have before : state.timeouts other ≠ unarmed :=
        fun empty => entry ((Function.update_of_ne (Ne.symm same) ..).trans empty)
      have known := inv.armed safe other before
      rw [idle] at known
      exact .inl (.inr (known.resolve_right id))
  invited := inv.invited

theorem Inv.restart (inv : Inv spared state) :
    Inv (spared ∧ state.halfBooted = false) { state with phase := .entry } where
  kept := inv.kept
  told := fun _ => trivial
  cold := fun fresh => ⟨(inv.cold fresh).1, .inl rfl⟩
  armed := fun ⟨_, whole⟩ channel entry => by
    by_cases fresh : state.initialised = false
    · exact .inr fresh
    · left
      simp only [State.halfBooted, Bool.eq_true_of_not_eq_false fresh, Bool.true_and,
        List.any_eq_false, Bool.and_eq_true, decide_eq_true_eq, Bool.not_eq_true'] at whole
      exact Bool.eq_true_of_not_eq_false fun none =>
        whole channel (List.mem_finRange channel) ⟨entry, none⟩
  invited := fun ⟨safe, _⟩ => inv.invited safe

/-- One step, and what a restart asks of the state it strikes. -/
theorem Inv.step (never : ∀ now, due unarmed now = false) (inv : Inv spared state)
    {action : Action maxTimeouts} (stepped : step due state action = some next) :
    Inv (spared ∧ (action ≠ .restart ∨ state.halfBooted = false)) next := by
  have weaken {state : State maxTimeouts} (inv : Inv spared state) (more : Prop) :
      Inv (spared ∧ more) state :=
    { inv with armed := fun safe => inv.armed safe.1, invited := fun safe => inv.invited safe.1 }
  cases action with
  | advance => exact weaken (inv.advance never stepped) _
  | interrupt now =>
      simp only [ArmTimer.step] at stepped
      split_ifs at stepped with idle
      obtain rfl := Option.some.inj stepped
      refine weaken (inv.move (.processing 0 now) (fun _ => trivial) (.inl ?_) ?_) _
      · refine Bool.eq_true_of_not_eq_false fun fresh => ?_
        have early := (inv.cold fresh).2
        rw [idle] at early
        rcases early with impossible | impossible <;> cases impossible
      · rw [idle]
        nofun
  | setTimeout channel deadline now =>
      simp only [ArmTimer.step] at stepped
      split_ifs at stepped with idle
      obtain rfl := Option.some.inj stepped
      exact weaken (inv.setTimeout idle channel deadline now) _
  | restart =>
      obtain rfl := Option.some.inj stepped
      have restarted := inv.restart
      exact { restarted with
        armed := fun ⟨safe, whole⟩ => restarted.armed ⟨safe, whole.resolve_left (· rfl)⟩
        invited := fun ⟨safe, whole⟩ => restarted.invited ⟨safe, whole.resolve_left (· rfl)⟩ }

theorem Inv.run (never : ∀ now, due unarmed now = false) (inv : Inv spared state)
    {actions : List (Action maxTimeouts)} (ran : run due state actions = some next) :
    Inv (spared ∧ restartsSafe due state actions = true) next := by
  induction actions generalizing spared state with
  | nil =>
      cases ran
      exact { inv with
        armed := fun safe => inv.armed safe.1
        invited := fun safe => inv.invited safe.1 }
  | cons action rest ih =>
      simp only [ArmTimer.run, Option.bind_eq_some_iff] at ran
      obtain ⟨middle, stepped, ran⟩ := ran
      have later := ih (inv.step never stepped) ran
      have unfolded (safe : restartsSafe due state (action :: rest) = true) :
          (action ≠ .restart ∨ state.halfBooted = false) ∧
            restartsSafe due middle rest = true := by
        simpa [restartsSafe, stepped] using safe
      exact { later with
        armed := fun ⟨safe, spares⟩ =>
          later.armed ⟨⟨safe, (unfolded spares).1⟩, (unfolded spares).2⟩
        invited := fun ⟨safe, spares⟩ =>
          later.invited ⟨⟨safe, (unfolded spares).1⟩, (unfolded spares).2⟩ }

/-- In every run a channel that waits for an accepted timeout has its entry, and in every run
whose restarts spare half-booted drivers no other channel is notified. -/
theorem run_timeouts (never : ∀ now, due unarmed now = false)
    {actions : List (Action maxTimeouts)} (ran : run due boot actions = some state) :
    (∀ channel, ∀ deadline ∈ outstanding channel state.log,
        state.timeouts channel = deadline) ∧
      (restartsSafe due boot actions = true → Invited state.log) := by
  have inv : Inv (True ∧ restartsSafe due boot actions = true) state := Inv.boot.run never ran
  exact ⟨inv.kept, fun safe => inv.invited ⟨trivial, safe⟩⟩

-- The comparison of the unpatched driver, at the times before the last.
/-- A client arms channel 3, its interrupt is cut short by a restart between the notification
and the clear, and init tells it once more. -/
theorem run_timeouts_interrupted :
    ∃ state : State 4, ∃ actions,
      run (fun entry now => entry ≤ now && entry != unarmed) boot actions = some state ∧
      .notified 3 ∈ state.log ∧ Invited state.log := by
  have told : (run (fun entry now => entry ≤ now && entry != unarmed) (boot : State 4)
      (List.replicate 8 .advance ++ [.setTimeout 3 10 5] ++ List.replicate 5 .advance ++
        [.interrupt 12] ++ List.replicate 4 .advance ++ [.restart] ++
        List.replicate 5 .advance)).any (.notified 3 ∈ ·.log) = true := by decide +kernel
  obtain ⟨state, ran, notified⟩ := (Option.any_eq_true ..).mp told
  exact ⟨state, _, ran, of_decide_eq_true notified,
    (run_timeouts (by simp [unarmed]) ran).2 (by decide +kernel)⟩

/-- A restart between the flag and the first clear: the zero of channel 0 passes for a timeout
that the restart lost. -/
theorem restart_invents_timeout :
    ∃ state : State 64,
      run (fun entry now => entry ≤ now && entry != unarmed) boot
        [.advance, .advance, .restart, .advance, .advance] = some state ∧
      state.log = [.notified 0] ∧ ¬ Invited state.log :=
  ⟨_, rfl, rfl, fun invited => Bool.false_ne_true invited.1⟩

end Chrysopolis.ArmTimer
