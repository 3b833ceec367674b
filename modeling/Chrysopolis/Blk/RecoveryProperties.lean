import Chrysopolis.Blk.VirtProperties

/-! What block recovery promises over whole runs, and the one race it leaves open: a request
passed on to a driver that has restarted before the virtualiser sees its generation. -/

set_option autoImplicit false

namespace Chrysopolis.Blk

variable {buffers clients depth : Nat} {room : Fin clients → Nat}

/-! ### The race -/

/-- The driver discards the queue no more, and the virtualiser has yet to see that it
restarted. -/
def State.unnoticed (state : State buffers clients) : Bool :=
  match state.driver with
  | .bumping => true
  | .readying | .announcing | .serving => state.generation != state.lastSeenGeneration
  | .dead | .entry | .discarding | .stopped => false

/-- The next step passes a request on to a driver not seen to have restarted. -/
def State.enqueuesUnnoticed (state : State buffers clients) : Bool :=
  match state.phase with
  | .enqueueing _ _ => state.unnoticed
  | _ => false

/-- No step of a run passes a request on to a driver not seen to have restarted. -/
def enqueuesNoticed (depth : Nat) (room : Fin clients → Nat) :
    State buffers clients → List (Action buffers clients) → Bool
  | _, [] => true
  | state, action :: rest =>
      (action != .advance || !state.enqueuesUnnoticed) &&
        match step depth room state action with
        | none => true
        | some next => enqueuesNoticed depth room next rest

/-- The thread has seen the driver restart, and drains its responses. -/
def Phase.reconcilesRestarted : Phase buffers clients → Bool
  | .draining .restarted | .matching .restarted _ | .forwarding .restarted _ _ _ => true
  | _ => false

/-- The driver has nothing to answer. -/
def State.Idle (state : State buffers clients) : Prop :=
  state.requests = [] ∧ state.held = []

/-- What is so when each restart is seen before a request is passed on. -/
structure Noticed (state : State buffers clients) : Prop where
  unnoticed : state.initialised = true → state.unnoticed = true → state.Idle
  restarted : state.phase.reconcilesRestarted = true → state.driver.lost = false → state.Idle
  gone : state.phase.reconcilesGone = true → state.driver = .stopped
  pending : state.pending .gone = true → state.driver = .stopped
  held : state.driver.lost = true → state.held = []

variable {state next : State buffers clients}

theorem Noticed.boot (zeroed : Request clients) :
    Noticed (boot zeroed : State buffers clients) where
  unnoticed := fun initialised => by cases initialised
  restarted := fun reconciles => by cases reconciles
  gone := fun reconciles => by cases reconciles
  pending := fun waiting => by cases waiting
  held := fun _ => rfl

/-- A step of the virtualiser that has nothing to do with the driver. -/
structure Undriven (state next : State buffers clients) : Prop where
  driver : next.driver = state.driver
  requests : next.requests = state.requests
  held : next.held = state.held
  generation : next.generation = state.generation
  lastSeenGeneration : next.lastSeenGeneration = state.lastSeenGeneration
  initialised : next.initialised = state.initialised
  pending : next.pending = state.pending
  restarted : next.phase.reconcilesRestarted = true → state.phase.reconcilesRestarted = true
  gone : next.phase.reconcilesGone = true → state.phase.reconcilesGone = true

theorem Undriven.go (state : State buffers clients) (phase : Phase buffers clients)
    (restarted : phase.reconcilesRestarted = true → state.phase.reconcilesRestarted = true)
    (gone : phase.reconcilesGone = true → state.phase.reconcilesGone = true) :
    Undriven state { state with phase } :=
  ⟨rfl, rfl, rfl, rfl, rfl, rfl, rfl, restarted, gone⟩

/-- A phase with nothing to reconcile. -/
theorem Undriven.leave (state : State buffers clients) (phase : Phase buffers clients)
    (restarted : phase.reconcilesRestarted = false) (gone : phase.reconcilesGone = false) :
    Undriven state { state with phase } :=
  .go state phase (fun reconciles => by cases restarted.symm.trans reconciles)
    fun reconciles => by cases gone.symm.trans reconciles

theorem Undriven.idle (undriven : Undriven state next) : next.Idle ↔ state.Idle := by
  simp only [State.Idle, undriven.requests, undriven.held]

theorem Undriven.unnoticed (undriven : Undriven state next) :
    next.unnoticed = state.unnoticed := by
  simp only [State.unnoticed, undriven.driver, undriven.generation, undriven.lastSeenGeneration]

theorem Noticed.undriven (noticed : Noticed state) (undriven : Undriven state next) :
    Noticed next where
  unnoticed := by
    rw [undriven.initialised, undriven.unnoticed, undriven.idle]
    exact noticed.unnoticed
  restarted := fun reconciles live => by
    rw [undriven.driver] at live
    exact undriven.idle.mpr (noticed.restarted (undriven.restarted reconciles) live)
  gone := fun reconciles => undriven.driver.trans (noticed.gone (undriven.gone reconciles))
  pending := by
    rw [undriven.driver, undriven.pending]
    exact noticed.pending
  held := by
    rw [undriven.driver, undriven.held]
    exact noticed.held

/-- The driver's instance is lost. -/
theorem Noticed.lose (noticed : Noticed state) (driver : DriverPhase)
    (running : state.driver ≠ .stopped) (lost : driver.lost = true) :
    Noticed (state.lose driver) where
  unnoticed := fun _ missed => by
    cases driver <;> simp [State.unnoticed, State.lose, DriverPhase.lost] at missed lost
  restarted := fun _ live => by cases live.symm.trans lost
  gone := fun reconciles => absurd (noticed.gone reconciles) running
  pending := fun waiting => absurd (noticed.pending waiting) running
  held := fun _ => rfl

theorem Noticed.driverInit (noticed : Noticed state) (stepped : driverInit state = some next) :
    Noticed next := by
  cases at_ : state.driver with
  | entry =>
      simp only [Blk.driverInit, at_, Option.some.injEq] at stepped
      subst stepped
      exact
        { unnoticed := fun _ missed => by cases missed
          restarted := fun _ live => by cases live
          gone := fun reconciles => by cases at_.symm.trans (noticed.gone reconciles)
          pending := fun waiting => by cases at_.symm.trans (noticed.pending waiting)
          held := fun _ => noticed.held (by rw [at_]; rfl) }
  | discarding =>
      have held := noticed.held (by rw [at_]; rfl)
      cases waiting : state.requests with
      | nil =>
          simp only [Blk.driverInit, at_, waiting, Option.some.injEq] at stepped
          subst stepped
          exact
            { unnoticed := fun _ _ => ⟨rfl, held⟩
              restarted := fun _ _ => ⟨rfl, held⟩
              gone := fun reconciles => by cases at_.symm.trans (noticed.gone reconciles)
              pending := fun waiting => by cases at_.symm.trans (noticed.pending waiting)
              held := fun lost => by cases lost }
      | cons entry rest =>
          simp only [Blk.driverInit, at_, waiting, Option.some.injEq] at stepped
          subst stepped
          exact
            { unnoticed := fun _ missed => by cases missed
              restarted := fun _ live => by cases live
              gone := fun reconciles => by cases at_.symm.trans (noticed.gone reconciles)
              pending := fun waiting => by cases at_.symm.trans (noticed.pending waiting)
              held := fun _ => held }
  | bumping =>
      simp only [Blk.driverInit, at_, Option.some.injEq] at stepped
      subst stepped
      have missed : state.unnoticed = true := by simp [State.unnoticed, at_]
      exact
        { unnoticed := fun initialised _ => noticed.unnoticed initialised missed
          restarted := fun reconciles _ =>
            noticed.restarted reconciles (by rw [at_]; rfl)
          gone := fun reconciles => by cases at_.symm.trans (noticed.gone reconciles)
          pending := fun waiting => by cases at_.symm.trans (noticed.pending waiting)
          held := fun lost => by cases lost }
  | readying | announcing =>
      simp only [Blk.driverInit, at_, Option.some.injEq] at stepped
      subst stepped
      exact
        { unnoticed := fun initialised missed => noticed.unnoticed initialised (by
            simpa only [State.unnoticed, at_] using missed)
          restarted := fun reconciles _ =>
            noticed.restarted reconciles (by rw [at_]; rfl)
          gone := fun reconciles => by cases at_.symm.trans (noticed.gone reconciles)
          pending := fun waiting => by
            cases at_.symm.trans (noticed.pending (by simpa using waiting))
          held := fun lost => by cases lost }
  | dead | serving | stopped => simp [Blk.driverInit, at_] at stepped

/-! ### The virtualiser's steps -/

theorem Undriven.proceed (state : State buffers clients) : Undriven state state.proceed := by
  refine .leave state (if state.initialised then .dispatching else .scanning) ?_ ?_ <;>
    split_ifs <;> rfl

/-- A client is answered, or an assertion fails. -/
theorem Undriven.respond (state : State buffers clients) (request : Request clients)
    (status : Status) (source : Option (Owner clients)) (phase : Phase buffers clients)
    (restarted : phase.reconcilesRestarted = true → state.phase.reconcilesRestarted = true)
    (gone : phase.reconcilesGone = true → state.phase.reconcilesGone = true) :
    Undriven state (state.assert ((state.respond room request status source).map fun next =>
      { next with phase })) := by
  simp only [State.respond]
  split_ifs
  · exact ⟨rfl, rfl, rfl, rfl, rfl, rfl, rfl, restarted, gone⟩
  · exact .leave state .faulted rfl rfl

theorem Undriven.handleDriver {why : Drain} (at_ : state.phase = .draining why) :
    Undriven state (handleDriver state why) := by
  simp only [Blk.handleDriver]
  split
  · refine ⟨rfl, rfl, rfl, rfl, rfl, rfl, rfl, ?_, ?_⟩ <;> rw [at_] <;> cases why <;> exact id
  · refine .go state (if why = .notified then .dispatching else .sweeping why 0) ?_ ?_ <;>
      rw [at_] <;> cases why <;> simp [Phase.reconcilesRestarted, Phase.reconcilesGone]

theorem Undriven.matchResponse {why : Drain} {completion : Completion buffers clients}
    (at_ : state.phase = .matching why completion) :
    Undriven state (matchResponse state why completion) := by
  simp only [Blk.matchResponse]
  split_ifs
  · refine ⟨rfl, rfl, rfl, rfl, rfl, rfl, rfl, ?_, ?_⟩ <;> rw [at_] <;> cases why <;> exact id
  · exact ⟨rfl, rfl, rfl, rfl, rfl, rfl, rfl, by rintro ⟨⟩, by rintro ⟨⟩⟩

theorem Undriven.blkReconcileOutstanding {why : Drain} {position : Nat}
    (at_ : state.phase = .sweeping why position) :
    Undriven state (blkReconcileOutstanding room state why position) := by
  have gone : (Phase.sweeping why (position + 1) : Phase buffers clients).reconcilesGone = true →
      state.phase.reconcilesGone = true := by
    rw [at_]
    cases why <;> exact id
  simp only [Blk.blkReconcileOutstanding, Blk.reconcileId, State.respond]
  split_ifs
  · exact ⟨rfl, rfl, rfl, rfl, rfl, rfl, rfl, by rintro ⟨⟩, gone⟩
  · exact .leave state .faulted rfl rfl
  · exact ⟨rfl, rfl, rfl, rfl, rfl, rfl, rfl, by rintro ⟨⟩, gone⟩
  · exact ⟨rfl, rfl, rfl, rfl, rfl, rfl, rfl, by rintro ⟨⟩, gone⟩
  · exact .leave state .idle rfl rfl
  · exact .leave state .dispatching rfl rfl

theorem Undriven.handleClient (state : State buffers clients) (client : Fin clients) :
    Undriven state (handleClient depth room state client) := by
  have done := Undriven.leave state .dispatching rfl rfl
  simp only [Blk.handleClient]
  split
  · exact done
  · split_ifs
    · exact ⟨rfl, rfl, rfl, rfl, rfl, rfl, rfl, by rintro ⟨⟩, by rintro ⟨⟩⟩
    · exact done
    · exact ⟨rfl, rfl, rfl, rfl, rfl, rfl, rfl, by rintro ⟨⟩, by rintro ⟨⟩⟩
    · exact done

/-- A request is passed on to a driver that is not one that restarted unseen. -/
theorem Noticed.enqueue (noticed : Noticed state) (entry : Entry buffers clients)
    (seen : state.initialised = true → state.unnoticed = false) (scan : Option (Fin buffers))
    (phase : Phase buffers clients) (restarted : phase.reconcilesRestarted = false)
    (gone : phase.reconcilesGone = false) :
    Noticed { state with requests := state.requests ++ [entry], scan, phase } where
  unnoticed := fun initialised missed => by cases (seen initialised).symm.trans missed
  restarted := fun reconciles => by cases restarted.symm.trans reconciles
  gone := fun reconciles => by cases gone.symm.trans reconciles
  pending := noticed.pending
  held := noticed.held

/-- The thread reads the generation, and drains if it is a new one. -/
theorem Noticed.compare (noticed : Noticed state) (at_ : state.phase = .comparing)
    (stepped : advance depth room state = some next) : Noticed next := by
  simp only [advance, at_] at stepped
  split at stepped
  · next changed =>
      have missed : state.driver.lost = false → state.unnoticed = true := by
        cases driver : state.driver <;> simp [State.unnoticed, driver, DriverPhase.lost, changed]
      -- What is seen now was unseen before, or the driver has yet to count its restart.
      have seen : Noticed { state with lastSeenGeneration := state.generation } :=
        { noticed with
          unnoticed := fun initialised bumping => noticed.unnoticed initialised (missed (by
            cases driver : state.driver <;>
              simp_all [State.unnoticed, DriverPhase.lost])) }
      split_ifs at stepped with initialised <;> cases stepped
      · exact
          { unnoticed := seen.unnoticed
            restarted := fun _ live => noticed.unnoticed initialised (missed live)
            gone := fun reconciles => by cases reconciles
            pending := seen.pending
            held := seen.held }
      · exact seen.undriven (.proceed _)
  · cases stepped
    exact noticed.undriven (.proceed state)

theorem Noticed.advance (noticed : Noticed state) (inv : Inv state)
    (seen : state.enqueuesUnnoticed = false)
    (stepped : advance depth room state = some next) : Noticed next := by
  cases at_ : state.phase with
  | booting =>
      simp only [Blk.advance, at_] at stepped
      split_ifs at stepped
      cases stepped
      exact noticed.undriven (.leave state .sampling rfl rfl)
  | sampling =>
      have new := (inv.sound_at at_ (by rintro ⟨⟩)).phase
      simp only [Blk.advance, at_, Option.some.injEq] at stepped new
      subst stepped
      exact
        { unnoticed := fun initialised => by cases new.symm.trans initialised
          restarted := fun reconciles => by cases reconciles
          gone := fun reconciles => by cases reconciles
          pending := noticed.pending
          held := noticed.held }
  | checking =>
      simp only [Blk.advance, at_, Option.some.injEq] at stepped
      subst stepped
      split
      · exact noticed.undriven (.leave state .comparing rfl rfl)
      · exact noticed.undriven (.proceed state)
  | comparing => exact noticed.compare at_ stepped
  | draining why =>
      simp only [Blk.advance, at_, Option.some.injEq] at stepped
      subst stepped
      exact noticed.undriven (.handleDriver at_)
  | matching why completion =>
      simp only [Blk.advance, at_, Option.some.injEq] at stepped
      subst stepped
      exact noticed.undriven (.matchResponse at_)
  | forwarding why owner status reqbk =>
      simp only [Blk.advance, at_, Option.some.injEq] at stepped
      subst stepped
      refine noticed.undriven (.respond state reqbk status (some owner) (.draining why) ?_ ?_) <;>
        rw [at_] <;> cases why <;> exact id
  | sweeping why position =>
      simp only [Blk.advance, at_, Option.some.injEq] at stepped
      subst stepped
      exact noticed.undriven (.blkReconcileOutstanding at_)
  | polling client =>
      simp only [Blk.advance, at_, Option.some.injEq] at stepped
      subst stepped
      exact noticed.undriven (.handleClient state client)
  | enqueueing request id =>
      simp only [Blk.advance, at_, Option.some.injEq] at stepped
      subst stepped
      simp only [State.enqueuesUnnoticed, at_] at seen
      split
      · exact noticed.enqueue ⟨id, .client request⟩ (fun _ => seen) state.scan
          (.polling request.client) rfl rfl
      · exact noticed.undriven (.leave state .faulted rfl rfl)
  | refusing request status =>
      simp only [Blk.advance, at_, Option.some.injEq] at stepped
      subst stepped
      exact noticed.undriven (.respond state request status none (.polling request.client)
        (fun reconciles => by cases reconciles) fun reconciles => by cases reconciles)
  | scanning | idle | dispatching | taken request | faulted =>
      simp [Blk.advance, at_] at stepped

theorem Noticed.notified (noticed : Noticed state) (channel : Channel clients)
    (waiting : state.pending channel = true) : Noticed (notified state channel) := by
  have unset : Function.update state.pending channel false .gone = true →
      state.pending .gone = true := by
    rw [Function.update_apply]
    split_ifs
    · rintro ⟨⟩
    · exact id
  have taken : Noticed { state with pending := Function.update state.pending channel false } :=
    { noticed with
      unnoticed := noticed.unnoticed
      pending := fun set => noticed.pending (unset set) }
  cases channel with
  | driver => exact taken.undriven (.leave _ .checking rfl rfl)
  | gone =>
      simp only [Blk.notified]
      split_ifs
      · exact
          { unnoticed := taken.unnoticed
            restarted := fun reconciles => by cases reconciles
            gone := fun _ => noticed.pending waiting
            pending := taken.pending
            held := taken.held }
      · exact taken
  | client client => exact taken.undriven (.proceed _)

/-- Once the scan is over, nothing is in flight. -/
theorem Noticed.scanDone (noticed : Noticed state) (inv : Inv state)
    (at_ : state.phase = .scanning) (finished : state.scan = none) :
    Noticed { state with initialised := true, phase := .dispatching } where
  unnoticed := fun _ missed => by
    have sound := inv.sound_at at_ (by rintro ⟨⟩)
    have new := sound.phase
    rw [at_] at new
    have live : state.driver.lost = false := by
      cases driver : state.driver <;> simp_all [State.unnoticed, DriverPhase.lost]
    have nothing : ∀ entry, entry ∉ state.flight state.phase.inHand := by
      intro entry member
      have owner := sound.ids.owned entry member
      have used : state.inUse entry.id = true :=
        State.ownerOf_isSome.mp (by rw [owner]; rintro ⟨⟩)
      have scanned : state.ownerOf entry.id = some .scan := by
        simp [State.ownerOf, used, sound.fresh new]
      cases finished.symm.trans (sound.ids.scan _ scanned)
    have empty := List.eq_nil_iff_forall_not_mem.mpr nothing
    simp only [State.flight, live, Bool.false_eq_true, if_false, List.append_eq_nil_iff] at empty
    exact ⟨empty.1.1.1, empty.1.1.2⟩
  restarted := fun reconciles => by cases reconciles
  gone := fun reconciles => by cases reconciles
  pending := noticed.pending
  held := noticed.held

theorem Noticed.step (noticed : Noticed state) (inv : Inv state)
    {action : Action buffers clients}
    (seen : action = .advance → state.enqueuesUnnoticed = false)
    (stepped : step depth room state action = some next) : Noticed next := by
  cases action with
  | advance => exact noticed.advance inv (seen rfl) stepped
  | scanAsk id =>
      simp only [Blk.step] at stepped
      split_ifs at stepped with at_
      have new := (inv.sound_at at_ (by rintro ⟨⟩)).phase
      rw [at_] at new
      simp only [Blk.scanAsk] at stepped
      split_ifs at stepped
      cases stepped
      exact
        { unnoticed := fun initialised => by cases new.symm.trans initialised
          restarted := fun reconciles => by simp [State.allocate, at_,
            Phase.reconcilesRestarted] at reconciles
          gone := noticed.gone
          pending := noticed.pending
          held := noticed.held }
  | scanAnswer =>
      simp only [Blk.step] at stepped
      split_ifs at stepped with at_
      simp only [Blk.scanAnswer] at stepped
      split at stepped
      · cases stepped
      · cases stepped
        split_ifs
        · exact noticed.undriven ⟨rfl, rfl, rfl, rfl, rfl, rfl, rfl, id, id⟩
        · exact noticed.undriven ⟨rfl, rfl, rfl, rfl, rfl, rfl, rfl, by rintro ⟨⟩, by rintro ⟨⟩⟩
  | scanDone =>
      simp only [Blk.step] at stepped
      split_ifs at stepped with at_
      cases stepped
      exact noticed.scanDone inv at_.1 at_.2
  | scanWait =>
      simp only [Blk.step] at stepped
      split_ifs at stepped
      cases stepped
      exact noticed.undriven (.leave state .idle rfl rfl)
  | deliver channel =>
      simp only [Blk.step] at stepped
      split_ifs at stepped with waiting
      cases stepped
      exact noticed.notified channel waiting.2
  | drain =>
      simp only [Blk.step] at stepped
      split_ifs at stepped
      cases stepped
      exact noticed.undriven (.leave state (.draining .notified) rfl rfl)
  | serve client =>
      simp only [Blk.step] at stepped
      split_ifs at stepped
      cases stepped
      exact noticed.undriven (.leave state (.polling client) rfl rfl)
  | finish =>
      simp only [Blk.step] at stepped
      split_ifs at stepped
      cases stepped
      exact noticed.undriven (.leave state .idle rfl rfl)
  | allocate id =>
      cases at_ : state.phase with
      | taken request =>
          simp only [Blk.step, at_] at stepped
          split_ifs at stepped
          cases stepped
          exact noticed.undriven ⟨rfl, rfl, rfl, rfl, rfl, rfl, rfl, by rintro ⟨⟩, by rintro ⟨⟩⟩
      | _ => simp [Blk.step, at_] at stepped
  | refuse status =>
      cases at_ : state.phase with
      | taken request =>
          simp only [Blk.step, at_, Option.some.injEq] at stepped
          subst stepped
          exact noticed.undriven (.leave state _ rfl rfl)
      | _ => simp [Blk.step, at_] at stepped
  | driverInit => exact noticed.driverInit stepped
  | take =>
      cases serving : state.driver with
      | serving =>
          cases waiting : state.requests with
          | nil => simp [Blk.step, serving, waiting] at stepped
          | cons entry rest =>
              have busy : ¬ state.Idle := by simp [State.Idle, waiting]
              simp only [Blk.step, serving, waiting, Option.some.injEq] at stepped
              subst stepped
              exact
                { unnoticed := fun initialised missed => absurd (noticed.unnoticed initialised
                    (by simpa only [State.unnoticed, serving] using missed)) busy
                  restarted := fun reconciles _ => absurd (noticed.restarted reconciles
                    (by rw [serving]; rfl)) busy
                  gone := fun reconciles => by cases serving.symm.trans (noticed.gone reconciles)
                  pending := fun set => by cases serving.symm.trans (noticed.pending set)
                  held := fun lost => by cases lost }
      | _ => simp [Blk.step, serving] at stepped
  | answer completion =>
      simp only [Blk.step] at stepped
      split_ifs at stepped with taken
      obtain ⟨serving, taken⟩ := taken
      have busy : ¬ state.Idle := fun idle => by
        rw [idle.2] at taken
        cases taken
      cases stepped
      exact
        { unnoticed := fun initialised missed =>
            absurd (noticed.unnoticed initialised missed) busy
          restarted := fun reconciles live => absurd (noticed.restarted reconciles live) busy
          gone := noticed.gone
          pending := fun set => noticed.pending (by simpa using set)
          held := fun lost => by simp [serving, DriverPhase.lost] at lost }
  | fault =>
      simp only [Blk.step] at stepped
      split_ifs at stepped with running
      cases stepped
      exact noticed.lose .dead running rfl
  | restart =>
      simp only [Blk.step] at stepped
      split_ifs at stepped with running
      cases stepped
      exact noticed.lose .entry running rfl
  | stop =>
      simp only [Blk.step] at stepped
      split_ifs at stepped with running
      cases stepped
      have lost := noticed.lose .stopped running rfl
      exact
        { lost with
          unnoticed := fun _ missed => by cases missed
          gone := fun _ => rfl
          pending := fun _ => rfl }
  | ask client reqId =>
      cases stepped
      exact
        { noticed with
          unnoticed := noticed.unnoticed
          pending := fun set => noticed.pending (by simpa using set) }
  | collect client =>
      cases waiting : state.clientResponses client with
      | nil => simp [Blk.step, waiting] at stepped
      | cons response rest =>
          simp only [Blk.step, waiting, Option.some.injEq] at stepped
          subst stepped
          exact noticed.undriven ⟨rfl, rfl, rfl, rfl, rfl, rfl, rfl, id, id⟩

/-! ### Assertions -/

/-- No assertion has failed, and a request in hand fits in the driver's queue. -/
def State.Fits (depth : Nat) (state : State buffers clients) : Prop :=
  match state.phase with
  | .taken _ | .enqueueing _ _ => state.requests.length < depth
  | .faulted => False
  | _ => True

/-- The client still takes responses. -/
def State.roomy (room : Fin clients → Nat) (state : State buffers clients) : Bool :=
  decide (∀ client, (state.clientResponses client).length < room client)

/-- No client's response queue is full before a step of a run. -/
def staysRoomy (depth : Nat) (room : Fin clients → Nat) :
    State buffers clients → List (Action buffers clients) → Bool
  | _, [] => true
  | state, action :: rest =>
      state.roomy room &&
        match step depth room state action with
        | none => true
        | some next => staysRoomy depth room next rest

/-- Another party leaves the thread where it is, with no more in the driver's queue. -/
theorem State.Fits.environment (fits : state.Fits depth) (phase : next.phase = state.phase)
    (requests : next.requests.length ≤ state.requests.length) : next.Fits depth := by
  simp only [State.Fits, phase] at fits ⊢
  split at fits <;> first | exact fits | exact Nat.lt_of_le_of_lt requests fits

theorem State.Fits.driverInit (fits : state.Fits depth) (stepped : driverInit state = some next) :
    next.Fits depth := by
  simp only [Blk.driverInit] at stepped
  split at stepped
  · cases stepped
    exact fits.environment rfl le_rfl
  · split at stepped <;> cases stepped
    · exact fits.environment rfl le_rfl
    · next waiting => exact fits.environment rfl (by simp [waiting])
  · cases stepped
    exact fits.environment rfl le_rfl
  · cases stepped
    exact fits.environment rfl le_rfl
  · cases stepped
    exact fits.environment rfl le_rfl
  · cases stepped

theorem State.respond_roomy (roomy : state.roomy room = true) (request : Request clients)
    (status : Status) (source : Option (Owner clients)) :
    ∃ answered, state.respond room request status source = some answered := by
  have space := of_decide_eq_true roomy request.client
  rw [State.respond, if_pos space]
  exact ⟨_, rfl⟩

theorem State.Fits.reconcile (roomy : state.roomy room = true) {why : Drain} {position : Nat} :
    (blkReconcileOutstanding room state why position).Fits depth := by
  simp only [Blk.blkReconcileOutstanding]
  split
  · next bound =>
      simp only [reconcileId]
      split_ifs
      · obtain ⟨answered, responded⟩ :=
          State.respond_roomy roomy (state.reqsbk ⟨position, bound⟩) .errUnspec none
        rw [responded]
        trivial
      · trivial
      · trivial
  · simp only [State.Fits]
    split_ifs <;> trivial

theorem State.Fits.advance (fits : state.Fits depth) (inv : Inv state)
    (roomy : state.roomy room = true) (stepped : advance depth room state = some next) :
    next.Fits depth := by
  cases at_ : state.phase with
  | booting =>
      simp only [Blk.advance, at_] at stepped
      split_ifs at stepped
      cases stepped
      trivial
  | sampling =>
      simp only [Blk.advance, at_, Option.some.injEq] at stepped
      subst stepped
      trivial
  | checking =>
      simp only [Blk.advance, at_, Option.some.injEq] at stepped
      subst stepped
      simp only [State.proceed, State.Fits]
      split_ifs <;> trivial
  | comparing =>
      simp only [Blk.advance, at_] at stepped
      split_ifs at stepped <;> cases stepped <;> simp only [State.proceed, State.Fits] <;>
        split_ifs <;> trivial
  | draining why =>
      simp only [Blk.advance, at_, Option.some.injEq] at stepped
      subst stepped
      simp only [Blk.handleDriver]
      split
      · trivial
      · simp only [State.Fits]
        split_ifs <;> trivial
  | matching why completion =>
      -- The response's id is allocated to its owner.
      have sound := inv.sound_at at_ (by rintro ⟨⟩)
      have ids := sound.ids
      rw [at_] at ids
      have owned := ids.owned completion.entry
        (List.mem_append_right _ (List.mem_singleton.mpr rfl))
      have used : state.inUse completion.entry.id = true :=
        State.ownerOf_isSome.mp (by rw [owned]; rintro ⟨⟩)
      simp only [Blk.advance, at_, Blk.matchResponse, used, if_true, Option.some.injEq] at stepped
      subst stepped
      trivial
  | forwarding why owner status reqbk =>
      obtain ⟨answered, responded⟩ := State.respond_roomy roomy reqbk status (some owner)
      simp only [Blk.advance, at_, responded, Option.map_some, State.assert, Option.getD_some,
        Option.some.injEq] at stepped
      subst stepped
      trivial
  | sweeping why position =>
      simp only [Blk.advance, at_, Option.some.injEq] at stepped
      subst stepped
      exact .reconcile roomy
  | polling client =>
      simp only [Blk.advance, at_, Option.some.injEq] at stepped
      subst stepped
      simp only [Blk.handleClient]
      split
      · trivial
      · split_ifs with _ _ able
        · trivial
        · trivial
        · exact able.1
        · trivial
  | enqueueing request id =>
      simp only [State.Fits, at_] at fits
      simp only [Blk.advance, at_, fits, if_true, Option.some.injEq] at stepped
      subst stepped
      trivial
  | refusing request status =>
      obtain ⟨answered, responded⟩ := State.respond_roomy roomy request status none
      simp only [Blk.advance, at_, responded, Option.map_some, State.assert, Option.getD_some,
        Option.some.injEq] at stepped
      subst stepped
      trivial
  | scanning | idle | dispatching | taken request | faulted =>
      simp [Blk.advance, at_] at stepped

theorem State.Fits.step (fits : state.Fits depth) (inv : Inv state)
    (roomy : state.roomy room = true) {action : Action buffers clients}
    (stepped : step depth room state action = some next) : next.Fits depth := by
  cases action with
  | advance => exact fits.advance inv roomy stepped
  | scanAsk id =>
      simp only [Blk.step, Blk.scanAsk] at stepped
      split_ifs at stepped with at_
      cases stepped
      simp only [State.Fits, State.allocate, at_]
  | scanAnswer =>
      simp only [Blk.step] at stepped
      split_ifs at stepped with at_
      have sound := inv.sound_at at_ (by rintro ⟨⟩)
      cases waiting : state.responses with
      | nil => simp [Blk.scanAnswer, waiting] at stepped
      | cons completion rest =>
          have owned := sound.ids.owned completion.entry (by simp [State.flight, waiting])
          have used : state.inUse completion.entry.id = true :=
            State.ownerOf_isSome.mp (by rw [owned]; rintro ⟨⟩)
          simp only [Blk.scanAnswer, waiting, used, if_true, Option.some.injEq] at stepped
          subst stepped
          simp only [State.Fits, State.free, at_]
  | deliver channel =>
      simp only [Blk.step] at stepped
      split_ifs at stepped with idle
      cases stepped
      cases channel with
      | driver => trivial
      | gone =>
          simp only [Blk.notified]
          split_ifs
          · trivial
          · simp only [State.Fits, idle.1]
      | client client =>
          simp only [Blk.notified, State.proceed, State.Fits]
          split_ifs <;> trivial
  | scanDone | scanWait | drain | serve | finish =>
      simp only [Blk.step] at stepped
      split_ifs at stepped
      cases stepped
      trivial
  | allocate id =>
      cases at_ : state.phase with
      | taken request =>
          simp only [State.Fits, at_] at fits
          simp only [Blk.step, at_] at stepped
          split_ifs at stepped
          cases stepped
          exact fits
      | _ => simp [Blk.step, at_] at stepped
  | refuse status =>
      cases at_ : state.phase with
      | taken request =>
          simp only [Blk.step, at_, Option.some.injEq] at stepped
          subst stepped
          trivial
      | _ => simp [Blk.step, at_] at stepped
  | driverInit => exact fits.driverInit stepped
  | take =>
      cases serving : state.driver with
      | serving =>
          cases waiting : state.requests with
          | nil => simp [Blk.step, serving, waiting] at stepped
          | cons entry rest =>
              simp only [Blk.step, serving, waiting, Option.some.injEq] at stepped
              subst stepped
              exact fits.environment rfl (by simp [waiting])
      | _ => simp [Blk.step, serving] at stepped
  | answer completion =>
      simp only [Blk.step] at stepped
      split_ifs at stepped
      cases stepped
      exact fits.environment rfl le_rfl
  | fault | restart | stop =>
      simp only [Blk.step] at stepped
      split_ifs at stepped
      cases stepped
      exact fits.environment rfl le_rfl
  | ask client reqId =>
      cases stepped
      exact fits.environment rfl le_rfl
  | collect client =>
      simp only [Blk.step] at stepped
      split at stepped <;> cases stepped
      exact fits.environment rfl le_rfl

theorem State.Fits.run {actions : List (Action buffers clients)} (fits : state.Fits depth)
    (inv : Inv state) (dead : sweepsDead depth room state actions = true)
    (roomy : staysRoomy depth room state actions = true)
    (ran : run depth room state actions = some next) : next.Fits depth := by
  induction actions generalizing state with
  | nil =>
      cases ran
      exact fits
  | cons action rest induct =>
      simp only [Blk.run] at ran
      cases stepped : Blk.step depth room state action with
      | none => simp [stepped] at ran
      | some mid =>
          simp only [stepped, Option.bind_some] at ran
          simp only [Blk.sweepsDead, stepped, Bool.and_eq_true, Bool.or_eq_true, bne_iff_ne,
            Bool.not_eq_true'] at dead
          simp only [staysRoomy, stepped, Bool.and_eq_true] at roomy
          exact induct (fits.step inv roomy.1 stepped)
            (inv.step (fun same => dead.1.resolve_left (absurd same)) stepped) dead.2 roomy.2 ran

/-! ### Runs -/

/-- A restart that is seen before anything is passed on leaves nothing for a sweep to fail
early. -/
theorem Noticed.sweepsLive (noticed : Noticed state) : state.sweepsLive = false := by
  cases at_ : state.phase with
  | draining why =>
      cases lost : state.driver.lost with
      | true => simp [State.sweepsLive, at_, lost]
      | false =>
          cases why with
          | notified => simp [State.sweepsLive, at_]
          | restarted =>
              obtain ⟨requests, held⟩ := noticed.restarted (by rw [at_]; rfl) lost
              simp [State.sweepsLive, at_, requests, held]
          | gone =>
              rw [noticed.gone (by rw [at_]; rfl)] at lost
              cases lost
  | _ => simp [State.sweepsLive, at_]

theorem Noticed.sweepsDead {actions : List (Action buffers clients)} (noticed : Noticed state)
    (inv : Inv state) (seen : enqueuesNoticed depth room state actions = true) :
    sweepsDead depth room state actions = true := by
  induction actions generalizing state with
  | nil => rfl
  | cons action rest induct =>
      have dead := noticed.sweepsLive
      cases stepped : Blk.step depth room state action with
      | none => simp [Blk.sweepsDead, stepped, dead]
      | some next =>
          simp only [enqueuesNoticed, stepped, Bool.and_eq_true, Bool.or_eq_true, bne_iff_ne,
            Bool.not_eq_true'] at seen
          simp only [Blk.sweepsDead, stepped, dead, Bool.not_false, Bool.or_true, Bool.true_and]
          exact induct (noticed.step inv (fun same => seen.1.resolve_left (absurd same)) stepped)
            (inv.step (fun _ => dead) stepped) seen.2

variable {actions : List (Action buffers clients)} {zeroed : Request clients}

/-- While no sweep starts before the driver has answered all it can, ids are matched and freed
by their owners alone, no request is answered twice, and none is lost or doubled. -/
theorem answers_once (dead : sweepsDead depth room (boot zeroed) actions = true)
    (ran : run depth room (boot zeroed) actions = some state) :
    Lawful state.log ∧
      (state.phase ≠ .faulted → ∀ serial, ∃! place, state.At serial place) :=
  have inv := (Inv.boot zeroed).run dead ran
  ⟨inv.lawful, fun running => (inv.sound.resolve_left running).located⟩

/-- A boot, then a request the driver loses by a restart, which the virtualiser sees. -/
def restartActions : List (Action 1 1) :=
  [.driverInit, .driverInit, .driverInit, .driverInit, .driverInit, .advance, .advance, .scanDone,
    .ask 0 7, .serve 0, .advance, .allocate 0, .advance, .advance, .finish,
    .restart, .driverInit, .driverInit, .driverInit, .driverInit, .driverInit, .driverInit,
    .deliver .driver, .advance, .advance, .advance, .advance, .advance]

theorem answers_once_restart :
    Lawful ((run 1 (fun _ => 1) (boot ⟨0, 0, 0⟩) restartActions).get (by decide)).log :=
  (answers_once (by decide) (Option.some_get _).symm).1

/-- It is enough that each restart is seen before a request is passed on. -/
theorem seen_restarts_sweep_dead
    (seen : enqueuesNoticed depth room (boot zeroed) actions = true) :
    sweepsDead depth room (boot zeroed) actions = true :=
  (Noticed.boot zeroed).sweepsDead (.boot zeroed) seen

theorem seen_restarts_sweep_dead_restart :
    sweepsDead 1 (fun _ => 1) (boot ⟨0, 0, 0⟩) restartActions = true :=
  seen_restarts_sweep_dead (by decide)

/-- The race: the driver restarts between `ialloc_alloc` and `blk_enqueue_req`. -/
def raceActions : List (Action 1 1) :=
  [.driverInit, .driverInit, .driverInit, .driverInit, .driverInit, .advance, .advance, .scanDone,
    .ask 0 7, .serve 0, .advance, .allocate 0,
    .restart, .driverInit, .driverInit, .driverInit, .driverInit, .driverInit,
    .advance, .advance, .finish, .deliver .driver, .advance, .advance, .advance,
    .take, .answer ⟨⟨0, .client ⟨0, 7, 0⟩⟩, .reported 0 1⟩, .advance, .advance, .drain, .advance,
    .advance]

-- The new instance answers a request the sweep has failed, and the virtualiser asserts.
example : (run 1 (fun _ => 1) (boot ⟨0, 0, 0⟩) raceActions).map (·.phase) = some .faulted := by
  decide

/-- No assertion of the virtualiser fails while its clients leave room in their response
queues. -/
theorem no_assertion_fails (dead : sweepsDead depth room (boot zeroed) actions = true)
    (roomy : staysRoomy depth room (boot zeroed) actions = true)
    (ran : run depth room (boot zeroed) actions = some state) : state.phase ≠ .faulted := by
  have start : State.Fits depth (boot zeroed : State buffers clients) := trivial
  have fits := start.run (.boot zeroed) dead roomy ran
  intro faulted
  simp only [State.Fits, faulted] at fits

theorem no_assertion_fails_restart :
    ((run 1 (fun _ => 2) (boot ⟨0, 0, 0⟩) restartActions).get (by decide)).phase ≠ .faulted :=
  no_assertion_fails (by decide) (by decide) (Option.some_get _).symm

/-- Once the final stop is reconciled, what was asked has been answered, or waits in its
client's queue or in the thread's hand. -/
theorem answered_after_stop (dead : sweepsDead depth room (boot zeroed) actions = true)
    (ran : run depth room (boot zeroed) actions = some state)
    (running : state.phase ≠ .faulted) (gone : state.driverGone = true)
    (reconciled : state.phase.reconcilesGone = false) :
    (∀ id, state.inUse id = false) ∧ ∀ serial < state.nextSerial,
      Answered serial state.log ∨ state.At serial .hand ∨ ∃ client, state.At serial (.queued client)
    := by
  have sound := ((Inv.boot zeroed).run dead ran).sound.resolve_left running
  have unused := (sound.gone gone).2.resolve_left (by simp [reconciled])
  refine ⟨unused, fun serial asked => ?_⟩
  obtain ⟨place, here, _⟩ := sound.located serial
  cases place with
  | unborn => exact absurd asked (Nat.not_lt.mpr here)
  | queued client => exact .inr (.inr ⟨client, here⟩)
  | hand => exact .inr (.inl here)
  | entry id =>
      obtain ⟨request, owner, _⟩ := here
      simp [State.ownerOf, unused id] at owner
  | answered => exact .inl here

/-- The driver loses a request as Root stops it for good. -/
def stopActions : List (Action 1 1) :=
  [.driverInit, .driverInit, .driverInit, .driverInit, .driverInit, .advance, .advance, .scanDone,
    .ask 0 7, .serve 0, .advance, .allocate 0, .advance, .advance, .finish,
    .stop, .deliver .gone, .advance, .advance, .advance]

def stopped : State 1 1 :=
  (run 1 (fun _ => 1) (boot ⟨0, 0, 0⟩) stopActions).get (by decide)

theorem answered_after_stop_stopped :
    (∀ id, stopped.inUse id = false) ∧ ∀ serial < stopped.nextSerial,
      Answered serial stopped.log ∨ stopped.At serial .hand ∨
        ∃ client, stopped.At serial (.queued client) :=
  have ran : run 1 (fun _ => 1) (boot ⟨0, 0, 0⟩) stopActions = some stopped :=
    (Option.some_get _).symm
  answered_after_stop (by decide) ran (by decide) (by decide) (by decide)

end Chrysopolis.Blk
