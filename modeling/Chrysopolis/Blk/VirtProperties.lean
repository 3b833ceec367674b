import Chrysopolis.Blk.Virt
import Mathlib.Data.List.Nodup
import Mathlib.Data.List.Perm.Subperm

/-! Block recovery answers each request once and matches each response with the request it was
made for, as long as no sweep starts while a live driver holds what it would fail. -/

set_option autoImplicit false

namespace Chrysopolis.Blk

variable {buffers clients : Nat}

/-! ### What a log says -/

/-- Whom an id is allocated to. -/
def holder (id : Fin buffers) : List (Event buffers clients) → Option (Owner clients)
  | [] => none
  | .allocated other owner :: rest => if other = id then some owner else holder id rest
  | .freed other :: rest => if other = id then none else holder id rest
  | .matched _ _ :: rest => holder id rest
  | .answered _ _ _ :: rest => holder id rest

/-- A request has been answered. -/
def Answered (serial : Nat) (log : List (Event buffers clients)) : Prop :=
  ∃ request status source, .answered request status source ∈ log ∧ request.serial = serial

@[simp] theorem answered_allocated (serial : Nat) (id : Fin buffers) (owner : Owner clients)
    (log : List (Event buffers clients)) :
    Answered serial (.allocated id owner :: log) ↔ Answered serial log := by
  simp [Answered]

@[simp] theorem answered_matched (serial : Nat) (id : Fin buffers) (owner : Owner clients)
    (log : List (Event buffers clients)) :
    Answered serial (.matched id owner :: log) ↔ Answered serial log := by
  simp [Answered]

@[simp] theorem answered_freed (serial : Nat) (id : Fin buffers)
    (log : List (Event buffers clients)) :
    Answered serial (.freed id :: log) ↔ Answered serial log := by
  simp [Answered]

@[simp] theorem answered_answered (serial : Nat) (request : Request clients) (status : Status)
    (source : Option (Owner clients)) (log : List (Event buffers clients)) :
    Answered serial (.answered request status source :: log) ↔
      request.serial = serial ∨ Answered serial log := by
  simp only [Answered, List.mem_cons]
  constructor
  · rintro ⟨other, _, _, here | there, same⟩
    · cases here
      exact .inl same
    · exact .inr ⟨other, _, _, there, same⟩
  · rintro (same | ⟨other, _, _, there, same⟩)
    · exact ⟨request, status, source, .inl rfl, same⟩
    · exact ⟨other, _, _, .inr there, same⟩

/-- Ids are freed and matched only while they are allocated, each response is for the owner of
its id, and each request is answered once. -/
def Lawful : List (Event buffers clients) → Prop
  | [] => True
  | .allocated id _ :: rest => holder id rest = none ∧ Lawful rest
  | .matched id owner :: rest => holder id rest = some owner ∧ Lawful rest
  | .freed id :: rest => holder id rest ≠ none ∧ Lawful rest
  | .answered request _ source :: rest =>
      ¬ Answered request.serial rest ∧ (∀ owner ∈ source, owner = .client request) ∧ Lawful rest

/-- The driver's instance will take nothing more from the request queue. -/
def DriverPhase.lost : DriverPhase → Bool
  | .dead | .entry | .discarding | .stopped => true
  | .bumping | .readying | .announcing | .serving => false

/-- The next step starts a sweep while the driver still has requests to answer. -/
def State.sweepsLive (state : State buffers clients) : Bool :=
  match state.phase with
  | .draining why =>
      why ≠ .notified && state.responses.isEmpty && !state.driver.lost &&
        !(state.requests.isEmpty && state.held.isEmpty)
  | _ => false

/-- No sweep of a run starts while the driver still has requests to answer. -/
def sweepsDead (depth : Nat) (room : Fin clients → Nat) :
    State buffers clients → List (Action buffers clients) → Bool
  | _, [] => true
  | state, action :: rest =>
      (action != .advance || !state.sweepsLive) &&
        match step depth room state action with
        | none => true
        | some next => sweepsDead depth room next rest

/-! ### Ids -/

/-- Whom the virtualiser's tables say an id is allocated to. -/
def State.ownerOf (state : State buffers clients) (id : Fin buffers) : Option (Owner clients) :=
  if state.inUse id then
    some (if state.reqsbkValid id then .client (state.reqsbk id) else .scan)
  else none

/-- Every request that may still be matched with a response. -/
def State.flight (state : State buffers clients) (hand : List (Entry buffers clients)) :
    List (Entry buffers clients) :=
  (if state.driver.lost then [] else state.requests ++ state.held) ++
    state.responses.map (·.entry) ++ hand

/-- What the ids in flight have to do with the tables and the log. -/
structure Ids (state : State buffers clients) (hand : List (Entry buffers clients)) : Prop where
  owned : ∀ entry ∈ state.flight hand, state.ownerOf entry.id = some entry.owner
  apart : ((state.flight hand).map (·.id)).Nodup
  holder : ∀ id, holder id state.log = state.ownerOf id
  held : state.driver.lost = true → state.held = []
  cleared : ∀ id, state.inUse id = false → state.reqsbkValid id = false
  scan : ∀ id, state.ownerOf id = some .scan → state.scan = some id
  done : state.initialised = true → state.scan = none

variable {state next : State buffers clients} {hand after : List (Entry buffers clients)}

/-- The tables and the log are the same. -/
structure SameTables (state next : State buffers clients) : Prop where
  inUse : next.inUse = state.inUse
  reqsbk : next.reqsbk = state.reqsbk
  reqsbkValid : next.reqsbkValid = state.reqsbkValid
  log : next.log = state.log
  scan : next.scan = state.scan

theorem State.ownerOf_congr {id : Fin buffers} (inUse : next.inUse id = state.inUse id)
    (reqsbk : next.reqsbk id = state.reqsbk id)
    (reqsbkValid : next.reqsbkValid id = state.reqsbkValid id) :
    next.ownerOf id = state.ownerOf id := by
  simp only [State.ownerOf, inUse, reqsbk, reqsbkValid]

theorem SameTables.ownerOf (same : SameTables state next) : next.ownerOf = state.ownerOf := by
  funext id
  simp only [State.ownerOf, same.inUse, same.reqsbk, same.reqsbkValid]

/-- What is left of a flight has ids of its own. -/
theorem apart_of_subperm {flight left : List (Entry buffers clients)}
    (apart : (flight.map (·.id)).Nodup) (fewer : left.Subperm flight) :
    (left.map (·.id)).Nodup := by
  obtain ⟨kept, perm, sublist⟩ := fewer
  exact (perm.map (·.id)).nodup_iff.mp (apart.sublist (sublist.map (·.id)))

/-- Entries of the flight move, or are lost. -/
theorem Ids.moved (ids : Ids state hand) (same : SameTables state next)
    (initialised : next.initialised = true → state.scan = none)
    (held : next.driver.lost = true → next.held = [])
    (fewer : (next.flight after).Subperm (state.flight hand)) : Ids next after where
  owned := fun entry member => by
    rw [same.ownerOf]
    exact ids.owned entry (fewer.subset member)
  apart := apart_of_subperm ids.apart fewer
  holder := fun id => by
    rw [same.log, same.ownerOf]
    exact ids.holder id
  held := held
  cleared := fun id free => by
    rw [same.reqsbkValid]
    exact ids.cleared id (same.inUse ▸ free)
  scan := fun id owner => by
    rw [same.scan]
    exact ids.scan id (same.ownerOf ▸ owner)
  done := fun finished => same.scan.trans (initialised finished)

theorem State.ownerOf_isSome {id : Fin buffers} :
    state.ownerOf id ≠ none ↔ state.inUse id = true := by
  simp only [State.ownerOf]
  split_ifs with used <;> simp [used]

theorem State.ownerOf_free (state : State buffers clients) (freed id : Fin buffers) :
    (state.free freed).ownerOf id = if freed = id then none else state.ownerOf id := by
  by_cases same : freed = id
  · subst same
    simp [State.ownerOf, State.free]
  · have other : id ≠ freed := fun equal => same equal.symm
    simp [State.ownerOf, State.free, Function.update_of_ne other, same]

/-- An id is freed that nothing left in flight names. -/
theorem Ids.free (ids : Ids state hand) (freed : Fin buffers)
    (fewer : (state.flight after).Subperm (state.flight hand))
    (absent : ∀ entry ∈ state.flight after, entry.id ≠ freed) : Ids (state.free freed) after where
  owned := fun entry member => by
    rw [State.ownerOf_free, if_neg fun same => absent entry member same.symm]
    exact ids.owned entry (fewer.subset member)
  apart := apart_of_subperm ids.apart fewer
  holder := fun id => by
    rw [State.ownerOf_free, ← ids.holder id]
    rfl
  held := ids.held
  cleared := fun id free => by
    simp only [State.free, Function.update_apply] at free ⊢
    split_ifs at free ⊢ with same
    · rfl
    · exact ids.cleared id free
  scan := fun id owner => by
    rw [State.ownerOf_free] at owner
    split_ifs at owner with same
    exact ids.scan id owner
  done := ids.done

/-- The id of what is in hand is freed. -/
theorem Ids.freeHand {entry : Entry buffers clients} (ids : Ids state [entry]) :
    Ids (state.free entry.id) [] := by
  refine ids.free entry.id ?_ fun other member => ?_
  · simp only [State.flight, List.append_nil]
    exact (List.sublist_append_left ..).subperm
  · have apart := ids.apart
    simp only [State.flight, List.map_append, List.map_cons, List.map_nil, List.append_nil,
      List.nodup_append, List.mem_singleton] at apart member
    exact apart.2.2 _ (by
      simpa only [List.map_append] using List.mem_map.mpr ⟨other, member, rfl⟩) _ rfl

/-- Nothing in flight names a free id. -/
theorem Ids.absent (ids : Ids state hand) {id : Fin buffers} (free : state.ownerOf id = none) :
    ∀ entry ∈ state.flight hand, entry.id ≠ id := by
  rintro entry member rfl
  rw [ids.owned entry member] at free
  cases free

/-- A free id is allocated. -/
theorem Ids.allocated (ids : Ids state hand) {id : Fin buffers} {owner : Owner clients}
    (free : state.inUse id = false)
    (inUse : next.inUse = Function.update state.inUse id true)
    (cleared : ∀ other, other ≠ id → next.reqsbkValid other = state.reqsbkValid other)
    (owners : ∀ other, next.ownerOf other = if id = other then some owner else state.ownerOf other)
    (log : next.log = .allocated id owner :: state.log)
    (scan : ∀ other, next.ownerOf other = some .scan → next.scan = some other)
    (done : next.initialised = true → next.scan = none)
    (driver : next.driver = state.driver) (held : next.held = state.held)
    (flight : next.flight after = state.flight hand) : Ids next after where
  owned := fun entry member => by
    rw [flight] at member
    have unowned : state.ownerOf id = none := by simp [State.ownerOf, free]
    rw [owners, if_neg fun same => ids.absent unowned entry member same.symm]
    exact ids.owned entry member
  apart := by
    rw [flight]
    exact ids.apart
  holder := fun other => by
    rw [log, owners, ← ids.holder other]
    rfl
  held := by
    rw [driver, held]
    exact ids.held
  cleared := fun other unused => by
    rw [inUse, Function.update_apply] at unused
    split_ifs at unused with same
    rw [cleared other same]
    exact ids.cleared other unused
  scan := scan
  done := done

/-- An entry is enqueued under an id of its owner that nothing in flight names. -/
theorem Ids.enqueued (ids : Ids state hand) (entry : Entry buffers clients)
    (owner : state.ownerOf entry.id = some entry.owner)
    (absent : ∀ other ∈ state.flight hand, other.id ≠ entry.id) (same : SameTables state next)
    (initialised : next.initialised = true → state.scan = none)
    (held : next.driver.lost = true → next.held = [])
    (more : (next.flight after).Subperm (entry :: state.flight hand)) : Ids next after where
  owned := fun other member => by
    rw [same.ownerOf]
    rcases List.mem_cons.mp (more.subset member) with rfl | older
    · exact owner
    · exact ids.owned other older
  apart := by
    refine apart_of_subperm ?_ more
    rw [List.map_cons, List.nodup_cons]
    refine ⟨fun member => ?_, ids.apart⟩
    obtain ⟨other, older, equal⟩ := List.mem_map.mp member
    exact absent other older equal
  holder := fun id => by
    rw [same.log, same.ownerOf]
    exact ids.holder id
  held := held
  cleared := fun id free => by
    rw [same.reqsbkValid]
    exact ids.cleared id (same.inUse ▸ free)
  scan := fun id owner => by
    rw [same.scan]
    exact ids.scan id (same.ownerOf ▸ owner)
  done := fun finished => same.scan.trans (initialised finished)

/-- An entry at the back of the request queue is in flight, unless the driver is lost. -/
theorem flight_enqueued (state : State buffers clients) (entry : Entry buffers clients)
    (scan : Option (Fin buffers)) (phase : Phase buffers clients) :
    ({ state with requests := state.requests ++ [entry], scan, phase } :
      State buffers clients).flight [] |>.Subperm (entry :: state.flight []) := by
  simp only [State.flight]
  split_ifs
  · exact (List.sublist_cons_self ..).subperm
  · refine List.Perm.subperm (List.perm_iff_count.mpr fun other => ?_)
    simp only [List.count_append, List.count_cons, List.count_nil]
    omega

/-! ### Requests -/

/-- Where a request may be. -/
inductive Place (buffers clients : Nat) where
  | unborn
  | queued (client : Fin clients)
  | hand
  | entry (id : Fin buffers)
  | answered

/-- What the virtualiser's thread has in hand. -/
def Phase.inHand : Phase buffers clients → List (Entry buffers clients)
  | .matching _ completion => [completion.entry]
  | _ => []

/-- The request its thread has in hand. -/
def Phase.request : Phase buffers clients → Option (Request clients)
  | .forwarding _ _ _ reqbk => some reqbk
  | .taken request => some request
  | .refusing request _ => some request
  | _ => none

def State.At (state : State buffers clients) (serial : Nat) : Place buffers clients → Prop
  | .unborn => state.nextSerial ≤ serial
  | .queued client => ∃ request ∈ state.clientRequests client, request.serial = serial
  | .hand => ∃ request, state.phase.request = some request ∧ request.serial = serial
  | .entry id => ∃ request, state.ownerOf id = some (.client request) ∧ request.serial = serial
  | .answered => Answered serial state.log

/-- Each request is at one place. -/
def State.Located (state : State buffers clients) : Prop :=
  ∀ serial, ∃! place, state.At serial place

theorem State.Located.same (located : state.Located)
    (same : ∀ serial place, next.At serial place ↔ state.At serial place) : next.Located := by
  intro serial
  simp only [same]
  exact located serial

/-- One request moves from a place to another. -/
theorem State.Located.move (located : state.Located) {moved : Nat}
    (source destination : Place buffers clients) (was : state.At moved source)
    (leaves : ¬ next.At moved source) (arrives : next.At moved destination)
    (same : ∀ serial place, serial ≠ moved ∨ place ≠ source ∧ place ≠ destination →
      (next.At serial place ↔ state.At serial place)) : next.Located := by
  intro serial
  by_cases other : serial = moved
  · subst other
    refine ⟨destination, arrives, fun place here => ?_⟩
    by_contra elsewhere
    by_cases back : place = source
    · exact leaves (back ▸ here)
    · exact back ((located serial).unique
        ((same serial place (.inr ⟨back, elsewhere⟩)).mp here) was)
  · obtain ⟨place, here, only⟩ := located serial
    exact ⟨place, (same serial place (.inl other)).mpr here,
      fun found there => only found ((same serial found (.inl other)).mp there)⟩

theorem State.Located.eq (located : state.Located) {serial : Nat}
    (first second : Place buffers clients) (one : state.At serial first)
    (two : state.At serial second) : first = second :=
  (located serial).unique one two

/-! ### What holds in every state -/

/-- What a phase of the virtualiser's thread takes for granted. -/
def State.PhaseOk (state : State buffers clients) : Phase buffers clients → Prop
  | .booting | .sampling | .scanning => state.initialised = false
  | .idle | .checking | .comparing | .faulted => True
  | .dispatching | .draining _ | .matching _ _ | .polling _ | .refusing _ _ =>
      state.initialised = true
  | .forwarding _ owner _ reqbk => state.initialised = true ∧ owner = .client reqbk
  | .sweeping _ next =>
      state.initialised = true ∧ state.flight [] = [] ∧
        ∀ id : Fin buffers, id < next → state.inUse id = false
  | .taken _ => state.initialised = true ∧ state.driverGone = false
  | .enqueueing request id =>
      state.initialised = true ∧ state.driverGone = false ∧
        state.ownerOf id = some (.client request) ∧ ∀ entry ∈ state.flight [], entry.id ≠ id

/-- The thread is on its way through the reconciliation after the final stop. -/
def Phase.reconcilesGone : Phase buffers clients → Bool
  | .draining .gone | .matching .gone _ | .forwarding .gone _ _ _ | .sweeping .gone _ => true
  | _ => false

structure Sound (state : State buffers clients) : Prop where
  ids : Ids state state.phase.inHand
  located : state.Located
  distinct : ∀ client, ((state.clientRequests client).map (·.serial)).Nodup
  phase : state.PhaseOk state.phase
  gone : state.driverGone = true → state.initialised = true ∧
    (state.phase.reconcilesGone = true ∨ ∀ id, state.inUse id = false)
  fresh : state.initialised = false → ∀ id, state.reqsbkValid id = false

/-- The log is lawful, and the tables are sound unless an assertion has failed. -/
structure Inv (state : State buffers clients) : Prop where
  lawful : Lawful state.log
  sound : state.phase = .faulted ∨ Sound state

theorem Inv.faulted (lawful : Lawful next.log) (phase : next.phase = .faulted) : Inv next :=
  ⟨lawful, .inl phase⟩

theorem Inv.boot (zeroed : Request clients) : Inv (boot zeroed : State buffers clients) where
  lawful := trivial
  sound := .inr
    { ids :=
        { owned := fun entry member => by cases member
          apart := List.nodup_nil
          holder := fun _ => rfl
          held := fun _ => rfl
          cleared := fun _ _ => rfl
          scan := fun id owner => by cases owner
          done := fun _ => rfl }
      located := fun serial => by
        refine ⟨.unborn, Nat.zero_le serial, fun place other => ?_⟩
        cases place with
        | unborn => rfl
        | queued client => simp [State.At, Blk.boot] at other
        | hand => simp [State.At, Blk.boot, Phase.request] at other
        | entry id => simp [State.At, Blk.boot, State.ownerOf] at other
        | answered => simp [State.At, Blk.boot, Answered] at other
      distinct := fun _ => List.nodup_nil
      phase := rfl
      gone := fun gone => by cases gone
      fresh := fun _ _ => rfl }

/-! ### The driver and the clients -/

/-- The virtualiser's own state is the same. -/
structure SameVirt (state next : State buffers clients) : Prop extends SameTables state next where
  initialised : next.initialised = state.initialised
  driverGone : next.driverGone = state.driverGone
  phase : next.phase = state.phase
  clientRequests : next.clientRequests = state.clientRequests
  nextSerial : next.nextSerial = state.nextSerial

theorem SameTables.at_iff (same : SameTables state next)
    (clientRequests : next.clientRequests = state.clientRequests)
    (nextSerial : next.nextSerial = state.nextSerial)
    (request : next.phase.request = state.phase.request) (serial : Nat)
    (place : Place buffers clients) : next.At serial place ↔ state.At serial place := by
  cases place <;>
    simp only [State.At, same.ownerOf, same.log, clientRequests, nextSerial, request]

/-- A step of another party leaves the invariant, as it only shrinks what is in flight. -/
theorem Inv.environment (inv : Inv state) (same : SameVirt state next)
    (held : (state.driver.lost = true → state.held = []) → next.driver.lost = true →
      next.held = [])
    (fewer : (state.driver.lost = true → state.held = []) →
      ∀ hand, (next.flight hand).Subperm (state.flight hand)) : Inv next where
  lawful := by
    rw [same.log]
    exact inv.lawful
  sound := by
    rw [same.phase]
    refine inv.sound.imp_right fun sound => ?_
    have ids : Ids next state.phase.inHand :=
      sound.ids.moved same.toSameTables (fun finished => sound.ids.done
        (same.initialised ▸ finished)) (held sound.ids.held) (fewer sound.ids.held _)
    refine ⟨same.phase ▸ ids, sound.located.same (same.at_iff same.clientRequests
      same.nextSerial (congrArg Phase.request same.phase)), ?_, ?_, ?_, ?_⟩
    · rw [same.clientRequests]
      exact sound.distinct
    · have ok := sound.phase
      rw [same.phase]
      generalize state.phase = phase at ok ⊢
      cases phase <;> simp only [State.PhaseOk, same.initialised, same.driverGone, same.inUse,
        same.ownerOf] at ok ⊢ <;> try exact ok
      · refine ⟨ok.1, ?_, ok.2.2⟩
        have none := fewer sound.ids.held []
        rw [ok.2.1] at none
        exact List.subperm_nil.mp none
      · exact ⟨ok.1, ok.2.1, ok.2.2.1, fun entry member =>
          ok.2.2.2 entry ((fewer sound.ids.held []).subset member)⟩
    · rw [same.driverGone, same.initialised, same.phase, same.inUse]
      exact sound.gone
    · rw [same.initialised, same.reqsbkValid]
      exact sound.fresh

theorem Inv.driverInit (inv : Inv state) (stepped : driverInit state = some next) : Inv next := by
  cases at_ : state.driver with
  | entry =>
      simp only [Blk.driverInit, at_, Option.some.injEq] at stepped
      subst stepped
      refine inv.environment ⟨⟨rfl, rfl, rfl, rfl, rfl⟩, rfl, rfl, rfl, rfl, rfl⟩ ?_ ?_
      · exact fun held _ => held (by rw [at_]; rfl)
      · intro _ hand
        simp [State.flight, at_, DriverPhase.lost, List.Subperm.refl]
  | discarding =>
      cases waiting : state.requests with
      | nil =>
          simp only [Blk.driverInit, at_, waiting, Option.some.injEq] at stepped
          subst stepped
          refine inv.environment ⟨⟨rfl, rfl, rfl, rfl, rfl⟩, rfl, rfl, rfl, rfl, rfl⟩ ?_ ?_
          · intro _ lost
            cases lost
          · intro held hand
            have empty := held (by rw [at_]; rfl)
            simp [State.flight, at_, DriverPhase.lost, empty, List.Subperm.refl]
      | cons entry rest =>
          simp only [Blk.driverInit, at_, waiting, Option.some.injEq] at stepped
          subst stepped
          refine inv.environment ⟨⟨rfl, rfl, rfl, rfl, rfl⟩, rfl, rfl, rfl, rfl, rfl⟩ ?_ ?_
          · exact fun held _ => held (by rw [at_]; rfl)
          · intro _ hand
            simp [State.flight, at_, DriverPhase.lost, List.Subperm.refl]
  | bumping | readying | announcing =>
      simp only [Blk.driverInit, at_, Option.some.injEq] at stepped
      subst stepped
      refine inv.environment ⟨⟨rfl, rfl, rfl, rfl, rfl⟩, rfl, rfl, rfl, rfl, rfl⟩ ?_ ?_
      · intro _ lost
        cases lost
      · intro _ hand
        simp [State.flight, at_, DriverPhase.lost, List.Subperm.refl]
  | dead | serving | stopped => simp [Blk.driverInit, at_] at stepped

/-- The driver's instance is lost, whatever else a step marks as pending. -/
theorem Inv.lose (inv : Inv state) {driver : DriverPhase} (lost : driver.lost = true)
    (pending : Channel clients → Bool) : Inv { state.lose driver with pending } := by
  refine inv.environment ⟨⟨rfl, rfl, rfl, rfl, rfl⟩, rfl, rfl, rfl, rfl, rfl⟩
    (fun _ _ => rfl) fun _ hand => ?_
  simp only [State.flight, State.lose, lost, if_true, List.nil_append]
  rw [List.append_assoc]
  exact (List.sublist_append_right ..).subperm

theorem Inv.take (inv : Inv state) (serving : state.driver = .serving)
    {entry : Entry buffers clients} {rest : List (Entry buffers clients)}
    (waiting : state.requests = entry :: rest) :
    Inv { state with requests := rest, held := entry :: state.held } := by
  refine inv.environment ⟨⟨rfl, rfl, rfl, rfl, rfl⟩, rfl, rfl, rfl, rfl, rfl⟩ ?_ ?_
  · intro _ lost
    rw [serving] at lost
    cases lost
  · intro _ hand
    simp only [State.flight, serving, DriverPhase.lost, waiting, Bool.false_eq_true, if_false]
    exact ((List.perm_middle.append_right _).append_right _).subperm

theorem Inv.answer (inv : Inv state) (serving : state.driver = .serving)
    {completion : Completion buffers clients} (taken : completion.entry ∈ state.held)
    (pending : Channel clients → Bool) :
    Inv { state with
      held := state.held.erase completion.entry
      responses := state.responses ++ [completion]
      pending } := by
  refine inv.environment ⟨⟨rfl, rfl, rfl, rfl, rfl⟩, rfl, rfl, rfl, rfl, rfl⟩ ?_ ?_
  · intro _ lost
    rw [serving] at lost
    cases lost
  · intro _ hand
    simp only [State.flight, serving, DriverPhase.lost, Bool.false_eq_true, if_false,
      List.map_append, List.map_cons, List.map_nil]
    refine List.Perm.subperm (List.Perm.append_right hand ?_)
    have split := List.perm_cons_erase taken
    refine List.perm_iff_count.mpr fun entry => ?_
    have count := split.count_eq entry
    simp only [List.count_append, List.count_cons, List.count_nil] at count ⊢
    omega

theorem Inv.collect (inv : Inv state) (clientResponses : Fin clients → List Response) :
    Inv { state with clientResponses } :=
  inv.environment ⟨⟨rfl, rfl, rfl, rfl, rfl⟩, rfl, rfl, rfl, rfl, rfl⟩ (fun held => held)
    fun _ _ => List.Subperm.refl _

theorem Inv.ask (inv : Inv state) (client : Fin clients) (reqId : UInt32)
    (pending : Channel clients → Bool) :
    Inv { state with
      clientRequests := Function.update state.clientRequests client
        (state.clientRequests client ++ [⟨client, reqId, state.nextSerial⟩])
      pending
      nextSerial := state.nextSerial + 1 } where
  lawful := inv.lawful
  sound := inv.sound.imp_right fun sound =>
    { ids := sound.ids.moved ⟨rfl, rfl, rfl, rfl, rfl⟩ sound.ids.done sound.ids.held
        (List.Subperm.refl _)
      located := by
        refine sound.located.move .unborn (.queued client)
          (Nat.le_refl state.nextSerial) (Nat.not_succ_le_self _)
          ⟨⟨client, reqId, state.nextSerial⟩, by simp, rfl⟩ fun serial place apart => ?_
        cases place with
        | unborn =>
            have other := apart.resolve_right (fun both => both.1 rfl)
            simp only [State.At]
            omega
        | queued queue =>
            by_cases same : queue = client
            · subst same
              have other := apart.resolve_right (fun both => both.2 rfl)
              simp only [State.At, Function.update_self, List.mem_append, List.mem_singleton,
                or_and_right, exists_or, exists_eq_left, or_iff_left_iff_imp]
              exact fun equal => absurd equal.symm other
            · simp only [State.At, Function.update_of_ne same]
        | hand | entry id | answered => exact Iff.rfl
      distinct := fun queue => by
        by_cases same : queue = client
        · subst same
          simp only [Function.update_self, List.map_append, List.map_cons, List.map_nil]
          refine (sound.distinct queue).append (List.nodup_singleton _) ?_
          rw [List.disjoint_singleton]
          intro member
          obtain ⟨request, queued, equal⟩ := List.mem_map.mp member
          cases sound.located.eq (.queued queue) .unborn
            ⟨request, queued, equal⟩ (Nat.le_refl state.nextSerial)
        · simp only [Function.update_of_ne same]
          exact sound.distinct queue
      phase := by
        have ok := sound.phase
        generalize state.phase = phase at ok ⊢
        cases phase <;> exact ok
      gone := sound.gone
      fresh := sound.fresh }

/-! ### The virtualiser -/

theorem Inv.sound_at (inv : Inv state) {phase : Phase buffers clients}
    (at_ : state.phase = phase) (running : phase ≠ .faulted) : Sound state :=
  inv.sound.resolve_left fun faulted => running (at_.symm.trans faulted)

/-- The thread goes on with nothing else changed. -/
theorem Sound.go (sound : Sound state) (phase : Phase buffers clients)
    (hand : phase.inHand = state.phase.inHand) (request : phase.request = state.phase.request)
    (ok : state.PhaseOk phase)
    (gone : state.phase.reconcilesGone = true → phase.reconcilesGone = true ∨
      ∀ id, state.inUse id = false) : Sound { state with phase } where
  ids := by
    have ids := sound.ids
    rw [← hand] at ids
    exact ids.moved ⟨rfl, rfl, rfl, rfl, rfl⟩ sound.ids.done sound.ids.held (List.Subperm.refl _)
  located := sound.located.same
    (SameTables.at_iff ⟨rfl, rfl, rfl, rfl, rfl⟩ rfl rfl request)
  distinct := sound.distinct
  phase := by
    cases phase <;> exact ok
  gone := fun stopped =>
    have ⟨initialised, done⟩ := sound.gone stopped
    ⟨initialised, done.elim gone .inr⟩
  fresh := sound.fresh

/-- A response moves from the queue to the thread's hand. -/
theorem Sound.dequeue (sound : Sound state) {why : Drain} (at_ : state.phase = .draining why)
    {completion : Completion buffers clients} {rest : List (Completion buffers clients)}
    (waiting : state.responses = completion :: rest) :
    Sound { state with responses := rest, phase := .matching why completion } where
  ids := by
    refine sound.ids.moved ⟨rfl, rfl, rfl, rfl, rfl⟩ sound.ids.done sound.ids.held ?_
    refine List.Perm.subperm (List.perm_iff_count.mpr fun entry => ?_)
    simp only [State.flight, at_, Phase.inHand, waiting, List.count_append, List.count_cons,
      List.count_nil, List.map_cons]
    omega
  located := sound.located.same
    (SameTables.at_iff ⟨rfl, rfl, rfl, rfl, rfl⟩ rfl rfl (by rw [at_]; rfl))
  distinct := sound.distinct
  phase := by
    have ok := sound.phase
    rw [at_] at ok
    exact ok
  gone := fun stopped => by
    have gone := sound.gone stopped
    rw [at_] at gone
    cases why <;> exact gone
  fresh := sound.fresh

theorem Inv.handleDriver (inv : Inv state) {why : Drain} (at_ : state.phase = .draining why)
    (dead : state.sweepsLive = false) : Inv (handleDriver state why) where
  lawful := by
    simp only [Blk.handleDriver]
    split <;> exact inv.lawful
  sound := by
    have sound := inv.sound_at at_ (by rintro ⟨⟩)
    have initialised : state.initialised = true := by
      have ok := sound.phase
      rwa [at_] at ok
    refine .inr ?_
    simp only [Blk.handleDriver]
    split
    · next completion rest waiting => exact sound.dequeue at_ waiting
    · next waiting =>
        refine sound.go (if why = .notified then .dispatching else .sweeping why 0) ?_ ?_ ?_ ?_
        · rw [at_]
          split_ifs <;> rfl
        · rw [at_]
          split_ifs <;> rfl
        · split_ifs with served
          · exact initialised
          · have none : state.flight [] = [] := by
              simp only [State.sweepsLive, at_, waiting] at dead
              cases lost : state.driver.lost <;>
                simp_all [State.flight]
            exact ⟨initialised, none, fun _ below => absurd below (Nat.not_lt_zero _)⟩
        · rw [at_]
          cases why <;> simp [Phase.reconcilesGone]

theorem Ids.matched (ids : Ids state hand) (id : Fin buffers) (owner : Owner clients) :
    Ids { state with log := .matched id owner :: state.log } hand :=
  { ids with holder := ids.holder }

theorem Ids.go (ids : Ids state hand) (phase : Phase buffers clients) :
    Ids { state with phase } hand :=
  { ids with owned := ids.owned }

theorem Inv.matchResponse (inv : Inv state) {why : Drain} {completion : Completion buffers clients}
    (at_ : state.phase = .matching why completion) :
    Inv (matchResponse state why completion) := by
  have sound := inv.sound_at at_ (by rintro ⟨⟩)
  obtain ⟨⟨id, owner⟩, status⟩ := completion
  have ids := sound.ids
  rw [at_] at ids
  have initialised : state.initialised = true := by
    have ok := sound.phase
    rwa [at_] at ok
  have owned : state.ownerOf id = some owner :=
    ids.owned ⟨id, owner⟩ (List.mem_append_right _ (List.mem_singleton.mpr rfl))
  have used : state.inUse id = true := State.ownerOf_isSome.mp (by rw [owned]; rintro ⟨⟩)
  have made : owner = .client (state.reqsbk id) := by
    cases valid : state.reqsbkValid id
    · have scanned : state.ownerOf id = some .scan := by simp [State.ownerOf, used, valid]
      cases (ids.scan id scanned).symm.trans (ids.done initialised)
    · simpa [State.ownerOf, used, valid] using owned.symm
  subst made
  have holds : holder id state.log = some (.client (state.reqsbk id)) := by
    rw [ids.holder id, owned]
  simp only [Blk.matchResponse, used, if_true]
  refine ⟨⟨?_, holds, inv.lawful⟩, .inr ?_⟩
  · exact fun free => nomatch holds.symm.trans free
  exact
    { ids := ((ids.matched id (.client (state.reqsbk id))).freeHand).go _
      located := by
        refine sound.located.move (.entry id) .hand
          ⟨state.reqsbk id, owned, rfl⟩ ?_ ⟨state.reqsbk id, rfl, rfl⟩ fun serial place apart => ?_
        · rintro ⟨request, left, _⟩
          simp [State.ownerOf, State.free] at left
        cases place with
        | unborn | queued client => exact Iff.rfl
        | hand =>
            have other := apart.resolve_right fun both => both.2 rfl
            simp only [State.At, Phase.request, at_]
            constructor
            · rintro ⟨request, ⟨⟩, same⟩
              exact absurd same.symm other
            · rintro ⟨request, ⟨⟩, _⟩
        | entry place =>
            simp only [State.At]
            change (∃ request, (State.free _ id).ownerOf place = some (.client request) ∧ _) ↔ _
            rw [State.ownerOf_free]
            split_ifs with same
            · subst same
              have other := apart.resolve_right fun both => both.1 rfl
              constructor
              · rintro ⟨request, ⟨⟩, _⟩
              · rintro ⟨request, held, equal⟩
                rw [owned] at held
                cases held
                exact absurd equal.symm other
            · exact Iff.rfl
        | answered =>
            simp only [State.At, State.free, answered_freed, answered_matched]
      distinct := sound.distinct
      phase := ⟨initialised, rfl⟩
      gone := fun stopped => by
        obtain ⟨_, done⟩ := sound.gone stopped
        refine ⟨initialised, done.imp (fun reconciles => ?_) fun unused => ?_⟩
        · rw [at_] at reconciles
          cases why <;> simp [Phase.reconcilesGone] at reconciles ⊢
        · cases (unused id).symm.trans used
      fresh := fun new => by cases initialised.symm.trans new }

variable {depth : Nat} {room : Fin clients → Nat}

/-- The thread answers the request it has in hand, unless the client's queue is full. -/
theorem Inv.respond (inv : Inv state) (sound : Sound state) {request : Request clients}
    (inHand : state.phase.request = some request) (noEntry : state.phase.inHand = [])
    (status : Status) {source : Option (Owner clients)}
    (made : ∀ owner ∈ source, owner = .client request) {phase : Phase buffers clients}
    (hand : phase.inHand = []) (left : phase.request = none) (ok : state.PhaseOk phase)
    (gone : state.phase.reconcilesGone = true → phase.reconcilesGone = true ∨
      ∀ id, state.inUse id = false) :
    Inv (state.assert ((state.respond room request status source).map fun next =>
      { next with phase })) := by
  by_cases fits : (state.clientResponses request.client).length < room request.client
  · have located : ¬ Answered request.serial state.log := by
      intro answered
      cases sound.located.eq .answered .hand answered
        ⟨request, inHand, rfl⟩
    simp only [State.respond, if_pos fits, Option.map_some, State.assert, Option.getD_some]
    refine ⟨⟨located, made, inv.lawful⟩, .inr ?_⟩
    have ids := sound.ids
    rw [noEntry, ← hand] at ids
    exact
      { ids := { ids with owned := ids.owned, holder := ids.holder }
        located := by
          refine sound.located.move .hand .answered
            ⟨request, inHand, rfl⟩ ?_ ((answered_answered ..).mpr (.inl rfl))
            fun serial place apart => ?_
          · rintro ⟨other, held, _⟩
            cases left.symm.trans held
          cases place with
          | unborn | queued client | entry id => exact Iff.rfl
          | hand =>
              have other := apart.resolve_right fun both => both.1 rfl
              simp only [State.At, left, inHand]
              constructor
              · rintro ⟨request, ⟨⟩, _⟩
              · rintro ⟨request, ⟨⟩, same⟩
                exact absurd same.symm other
          | answered =>
              have other := apart.resolve_right fun both => both.2 rfl
              simp only [State.At, answered_answered, or_iff_right_iff_imp]
              exact fun same => absurd same.symm other
        distinct := sound.distinct
        phase := by
          cases phase <;> exact ok
        gone := fun stopped =>
          have ⟨initialised, done⟩ := sound.gone stopped
          ⟨initialised, done.elim gone .inr⟩
        fresh := sound.fresh }
  · simp only [State.respond, if_neg fits, Option.map_none, State.assert, Option.getD_none]
    exact .faulted inv.lawful rfl

/-- The sweep fails the request of an id and frees it. -/
theorem Inv.failed (inv : Inv state) (sound : Sound state) {why : Drain} {position : Nat}
    (at_ : state.phase = .sweeping why position) {bound : position < buffers}
    (used : state.inUse ⟨position, bound⟩ = true)
    (valid : state.reqsbkValid ⟨position, bound⟩ = true) (initialised : state.initialised = true)
    (quiet : state.flight [] = [])
    (below : ∀ id : Fin buffers, id < position → state.inUse id = false)
    (reconciles : state.phase.reconcilesGone = true →
      (Phase.sweeping why (position + 1) : Phase buffers clients).reconcilesGone = true)
    (clientResponses : Fin clients → List Response) :
    Inv { State.free { state with
        clientResponses
        log := .answered (state.reqsbk ⟨position, bound⟩) .errUnspec none :: state.log }
          ⟨position, bound⟩ with phase := .sweeping why (position + 1) } := by
  have ids := sound.ids
  rw [at_] at ids
  have owned : state.ownerOf ⟨position, bound⟩ =
      some (.client (state.reqsbk ⟨position, bound⟩)) := by
    simp [State.ownerOf, used, valid]
  have unanswered : ¬ Answered (state.reqsbk ⟨position, bound⟩).serial state.log := by
    intro answered
    cases sound.located.eq .answered (.entry ⟨position, bound⟩) answered
      ⟨_, owned, rfl⟩
  have logged : Ids { state with
      clientResponses
      log := .answered (state.reqsbk ⟨position, bound⟩) .errUnspec none :: state.log } [] :=
    { ids with owned := ids.owned, holder := ids.holder }
  refine ⟨⟨fun free => ?_, unanswered, by simp, inv.lawful⟩, .inr ?_⟩
  · exact nomatch (ids.holder ⟨position, bound⟩).symm.trans free |>.symm.trans owned
  have freed := (logged.free ⟨position, bound⟩ (List.Subperm.refl _) fun entry member => by
    have none : entry ∈ state.flight [] := member
    rw [quiet] at none
    cases none)
  exact
    { ids := freed.go _
      located := by
        refine sound.located.move (.entry ⟨position, bound⟩) .answered
          ⟨_, owned, rfl⟩ ?_ (by simp [State.At, State.free]) fun serial place apart => ?_
        · rintro ⟨request, left, _⟩
          simp [State.ownerOf, State.free] at left
        cases place with
        | unborn | queued client => exact Iff.rfl
        | hand => simp only [State.At, Phase.request, at_]
        | entry place =>
            change (∃ request, (State.free _ ⟨position, bound⟩).ownerOf place =
              some (.client request) ∧ _) ↔ _
            rw [State.ownerOf_free]
            split_ifs with same
            · subst same
              have other := apart.resolve_right fun both => both.1 rfl
              constructor
              · rintro ⟨request, ⟨⟩, _⟩
              · rintro ⟨request, held, equal⟩
                rw [owned] at held
                cases held
                exact absurd equal.symm other
            · exact Iff.rfl
        | answered =>
            have other := apart.resolve_right fun both => both.2 rfl
            simp only [State.At, State.free, answered_freed, answered_answered,
              or_iff_right_iff_imp]
            exact fun same => absurd same.symm other
      distinct := sound.distinct
      phase := by
        refine ⟨initialised, quiet, fun id small => ?_⟩
        simp only [State.free, Function.update_apply]
        split_ifs with same
        · rfl
        · refine below id (Nat.lt_of_le_of_ne (Nat.lt_succ_iff.mp small) fun equal => ?_)
          exact same (Fin.ext equal)
      gone := fun stopped => by
        obtain ⟨_, done⟩ := sound.gone stopped
        refine ⟨initialised, done.imp reconciles fun unused id => ?_⟩
        simp only [State.free, Function.update_apply]
        split_ifs
        · rfl
        · exact unused id
      fresh := fun new => by cases initialised.symm.trans new }

/-- The sweep fails one id, or frees one that no client waits for. -/
theorem Inv.reconcileId (inv : Inv state) {why : Drain} {position : Nat}
    (at_ : state.phase = .sweeping why position) (bound : position < buffers) :
    Inv (state.assert ((reconcileId room state ⟨position, bound⟩).map fun swept =>
      { swept with phase := .sweeping why (position + 1) })) := by
  have sound := inv.sound_at at_ (by rintro ⟨⟩)
  obtain ⟨initialised, quiet, below⟩ : state.PhaseOk (.sweeping why position) := by
    have ok := sound.phase
    rwa [at_] at ok
  have ids := sound.ids
  rw [at_] at ids
  have reconciles : state.phase.reconcilesGone = true →
      (Phase.sweeping why (position + 1) : Phase buffers clients).reconcilesGone = true := by
    rw [at_]
    cases why <;> simp [Phase.reconcilesGone]
  cases used : state.inUse ⟨position, bound⟩ with
  | false =>
      simp only [Blk.reconcileId, used, Bool.false_eq_true, if_false, Option.map_some,
        State.assert, Option.getD_some]
      refine ⟨inv.lawful, .inr (sound.go _ (by rw [at_]; rfl) (by rw [at_]; rfl)
        ⟨initialised, quiet, fun id small => ?_⟩ fun was => .inl (reconciles was))⟩
      rcases Nat.lt_succ_iff_lt_or_eq.mp small with smaller | equal
      · exact below id smaller
      · rwa [show id = ⟨position, bound⟩ from Fin.ext equal]
  | true =>
      have valid : state.reqsbkValid ⟨position, bound⟩ = true := by
        by_contra invalid
        have scanned : state.ownerOf ⟨position, bound⟩ = some .scan := by
          simp [State.ownerOf, used, invalid]
        cases (ids.scan _ scanned).symm.trans (ids.done initialised)
      simp only [Blk.reconcileId, used, valid, if_true]
      by_cases fits : (state.clientResponses (state.reqsbk ⟨position, bound⟩).client).length <
          room (state.reqsbk ⟨position, bound⟩).client
      · simp only [State.respond, if_pos fits, Option.map_some, State.assert, Option.getD_some]
        exact inv.failed sound at_ used valid initialised quiet below reconciles _
      · simp only [State.respond, if_neg fits, Option.map_none, State.assert, Option.getD_none]
        exact .faulted inv.lawful rfl

theorem Inv.blkReconcileOutstanding (inv : Inv state) {why : Drain} {position : Nat}
    (at_ : state.phase = .sweeping why position) :
    Inv (blkReconcileOutstanding room state why position) := by
  have sound := inv.sound_at at_ (by rintro ⟨⟩)
  obtain ⟨initialised, quiet, below⟩ : state.PhaseOk (.sweeping why position) := by
    have ok := sound.phase
    rwa [at_] at ok
  simp only [Blk.blkReconcileOutstanding]
  split
  · next bound => exact inv.reconcileId at_ bound
  · next all =>
      have unused : ∀ id, state.inUse id = false := fun id =>
        below id (Nat.lt_of_lt_of_le id.isLt (Nat.not_lt.mp all))
      refine ⟨inv.lawful, .inr (sound.go (if why = .gone then .idle else .dispatching)
        ?_ ?_ ?_ fun _ => .inr unused)⟩
      · rw [at_]
        split_ifs <;> rfl
      · rw [at_]
        split_ifs <;> rfl
      · split_ifs
        · trivial
        · exact initialised

/-- A request moves from its client's queue to the thread's hand. -/
theorem Sound.dequeueRequest (sound : Sound state) {client : Fin clients}
    (at_ : state.phase = .polling client) {request : Request clients}
    {rest : List (Request clients)} (waiting : state.clientRequests client = request :: rest)
    {phase : Phase buffers clients} (hand : phase.inHand = [])
    (inHand : phase.request = some request) (ok : state.PhaseOk phase) :
    Sound { state with
      clientRequests := Function.update state.clientRequests client rest
      phase } where
  ids := by
    have ids := sound.ids
    rw [at_] at ids
    rw [hand]
    exact { ids with owned := ids.owned }
  located := by
    refine sound.located.move (.queued client) .hand
      ⟨request, by simp [waiting], rfl⟩ ?_ ⟨request, inHand, rfl⟩ fun serial place apart => ?_
    · rintro ⟨other, member, same⟩
      have distinct := sound.distinct client
      rw [waiting, List.map_cons, List.nodup_cons] at distinct
      simp only [Function.update_self] at member
      exact distinct.1 (List.mem_map.mpr ⟨other, member, same⟩)
    cases place with
    | unborn | entry id | answered => exact Iff.rfl
    | queued queue =>
        by_cases same : queue = client
        · subst same
          have other := apart.resolve_right fun both => both.1 rfl
          simp only [State.At, Function.update_self, waiting, List.mem_cons, or_and_right,
            exists_or, exists_eq_left]
          exact (or_iff_right fun equal => other equal.symm).symm
        · simp only [State.At, Function.update_of_ne same]
    | hand =>
        have other := apart.resolve_right fun both => both.2 rfl
        have empty : state.phase.request = none := by
          rw [at_]
          rfl
        simp only [State.At, inHand, empty]
        constructor
        · rintro ⟨_, ⟨⟩, same⟩
          exact absurd same.symm other
        · rintro ⟨_, ⟨⟩, _⟩
  distinct := fun queue => by
    by_cases same : queue = client
    · subst same
      have distinct := sound.distinct queue
      rw [waiting, List.map_cons, List.nodup_cons] at distinct
      simpa only [Function.update_self] using distinct.2
    · simp only [Function.update_of_ne same]
      exact sound.distinct queue
  phase := by
    cases phase <;> exact ok
  gone := fun stopped => by
    obtain ⟨initialised, done⟩ := sound.gone stopped
    rw [at_] at done
    exact ⟨initialised, .inr (done.resolve_left (by simp [Phase.reconcilesGone]))⟩
  fresh := sound.fresh

theorem Inv.handleClient (inv : Inv state) {client : Fin clients}
    (at_ : state.phase = .polling client) : Inv (handleClient depth room state client) where
  lawful := by
    simp only [Blk.handleClient]
    split <;> (try split_ifs) <;> exact inv.lawful
  sound := by
    have sound := inv.sound_at at_ (by rintro ⟨⟩)
    have initialised : state.initialised = true := by
      have ok := sound.phase
      rwa [at_] at ok
    have leaves : Sound { state with phase := .dispatching } :=
      sound.go _ (by rw [at_]; rfl) (by rw [at_]; rfl) initialised
        (by rw [at_]; simp [Phase.reconcilesGone])
    refine .inr ?_
    simp only [Blk.handleClient]
    split
    · exact leaves
    · next request rest waiting =>
        split_ifs with gone
        · exact sound.dequeueRequest at_ waiting rfl rfl initialised
        · exact leaves
        · exact sound.dequeueRequest at_ waiting rfl rfl
            ⟨initialised, Bool.eq_false_iff.mpr gone⟩
        · exact leaves

theorem Inv.allocate (inv : Inv state) {request : Request clients}
    (at_ : state.phase = .taken request) {id : Fin buffers} (free : state.inUse id = false) :
    Inv { state.allocate id (.client request) with
      reqsbk := Function.update state.reqsbk id request
      reqsbkValid := Function.update state.reqsbkValid id true
      phase := .enqueueing request id } := by
  have sound := inv.sound_at at_ (by rintro ⟨⟩)
  obtain ⟨initialised, serving⟩ : state.PhaseOk (.taken request) := by
    have ok := sound.phase
    rwa [at_] at ok
  have ids := sound.ids
  rw [at_] at ids
  have unowned : state.ownerOf id = none := by simp [State.ownerOf, free]
  have owners : ∀ other, State.ownerOf { state.allocate id (.client request) with
      reqsbk := Function.update state.reqsbk id request
      reqsbkValid := Function.update state.reqsbkValid id true
      phase := .enqueueing request id } other =
        if id = other then some (.client request) else state.ownerOf other := by
    intro other
    by_cases same : id = other
    · subst same
      simp [State.ownerOf, State.allocate]
    · have apart : other ≠ id := fun equal => same equal.symm
      simp [State.ownerOf, State.allocate, Function.update_of_ne apart, same]
  refine ⟨⟨(ids.holder id).trans unowned, inv.lawful⟩, .inr ?_⟩
  exact
    { ids := ids.allocated free rfl (fun other apart => Function.update_of_ne apart ..) owners rfl
        (fun other owner => by
          rw [owners] at owner
          split_ifs at owner
          · cases owner
          · exact ids.scan other owner)
        ids.done rfl rfl rfl
      located := by
        refine sound.located.move .hand (.entry id)
          ⟨request, by rw [at_]; rfl, rfl⟩ ?_ ⟨request, by simp [owners], rfl⟩
          fun serial place apart => ?_
        · rintro ⟨other, ⟨⟩, _⟩
        cases place with
        | unborn | queued client => exact Iff.rfl
        | hand =>
            have other := apart.resolve_right fun both => both.1 rfl
            simp only [State.At, Phase.request, at_]
            constructor
            · rintro ⟨_, ⟨⟩, _⟩
            · rintro ⟨_, ⟨⟩, same⟩
              exact absurd same.symm other
        | entry place =>
            simp only [State.At, owners]
            split_ifs with same
            · subst same
              have other := apart.resolve_right fun both => both.2 rfl
              constructor
              · rintro ⟨_, ⟨⟩, same⟩
                exact absurd same.symm other
              · rintro ⟨_, held, _⟩
                cases unowned.symm.trans held
            · exact Iff.rfl
        | answered => simp only [State.At, State.allocate, answered_allocated]
      distinct := sound.distinct
      phase := ⟨initialised, serving, by simp [owners], ids.absent unowned⟩
      gone := fun stopped => by cases serving.symm.trans stopped
      fresh := fun new => by cases initialised.symm.trans new }

theorem Inv.enqueue (inv : Inv state) {request : Request clients} {id : Fin buffers}
    (at_ : state.phase = .enqueueing request id) :
    Inv { state with
      requests := state.requests ++ [⟨id, .client request⟩]
      phase := .polling request.client } := by
  have sound := inv.sound_at at_ (by rintro ⟨⟩)
  obtain ⟨initialised, serving, owner, absent⟩ : state.PhaseOk (.enqueueing request id) := by
    have ok := sound.phase
    rwa [at_] at ok
  have ids := sound.ids
  rw [at_] at ids
  refine ⟨inv.lawful, .inr ?_⟩
  exact
    { ids := ids.enqueued ⟨id, .client request⟩ owner absent
        ⟨rfl, rfl, rfl, rfl, rfl⟩ ids.done ids.held (flight_enqueued ..)
      located := sound.located.same
        (SameTables.at_iff ⟨rfl, rfl, rfl, rfl, rfl⟩ rfl rfl (by rw [at_]; rfl))
      distinct := sound.distinct
      phase := initialised
      gone := fun stopped => by cases serving.symm.trans stopped
      fresh := fun new => by cases initialised.symm.trans new }

/-- What moves neither an id nor a request in the virtualiser's own state, then goes on. -/
theorem Sound.proceed (sound : Sound state) (hand : state.phase.inHand = [])
    (request : state.phase.request = none) (gone : state.phase.reconcilesGone = false) :
    Sound state.proceed := by
  refine sound.go (if state.initialised then .dispatching else .scanning) ?_ ?_ ?_ ?_
  · rw [hand]
    split_ifs <;> rfl
  · rw [request]
    split_ifs <;> rfl
  · split_ifs with initialised
    · exact initialised
    · exact Bool.eq_false_iff.mpr initialised
  · rw [gone]
    rintro ⟨⟩

/-- The virtualiser reads the generation, or a notification is taken. -/
theorem Sound.noted (sound : Sound state) (lastSeenGeneration : UInt64)
    (pending : Channel clients → Bool) :
    Sound { state with lastSeenGeneration, pending } where
  ids := { sound.ids with owned := sound.ids.owned }
  located := sound.located.same
    (SameTables.at_iff ⟨rfl, rfl, rfl, rfl, rfl⟩ rfl rfl rfl)
  distinct := sound.distinct
  phase := by
    have ok := sound.phase
    generalize state.phase = phase at ok ⊢
    cases phase <;> exact ok
  gone := sound.gone
  fresh := sound.fresh

theorem Inv.compare (inv : Inv state) (at_ : state.phase = .comparing)
    (stepped : advance depth room state = some next) : Inv next := by
  have sound := inv.sound_at at_ (by rintro ⟨⟩)
  have proceed : Inv state.proceed :=
    ⟨inv.lawful, .inr (sound.proceed (by rw [at_]; rfl) (by rw [at_]; rfl) (by rw [at_]; rfl))⟩
  simp only [advance, at_] at stepped
  split at stepped
  · have seen := sound.noted state.generation state.pending
    split_ifs at stepped with initialised <;> cases stepped
    · refine ⟨inv.lawful, .inr (seen.go (.draining .restarted) ?_ ?_ initialised ?_)⟩
      · simp only [at_]
        rfl
      · simp only [at_]
        rfl
      · simp only [at_]
        rintro ⟨⟩
    · exact ⟨inv.lawful, .inr (seen.proceed (by simp only [at_]; rfl) (by simp only [at_]; rfl)
        (by simp only [at_]; rfl))⟩
  · cases stepped
    exact proceed

theorem Inv.advance (inv : Inv state) (dead : state.sweepsLive = false)
    (stepped : advance depth room state = some next) : Inv next := by
  cases at_ : state.phase with
  | booting =>
      have sound := inv.sound_at at_ (by rintro ⟨⟩)
      have ok := sound.phase
      simp only [Blk.advance, at_] at stepped ok
      split_ifs at stepped
      cases stepped
      exact ⟨inv.lawful, .inr (sound.go _ (by rw [at_]; rfl) (by rw [at_]; rfl) ok
        (by rw [at_]; rintro ⟨⟩))⟩
  | sampling =>
      have sound := inv.sound_at at_ (by rintro ⟨⟩)
      have ok := sound.phase
      simp only [Blk.advance, at_, Option.some.injEq] at stepped ok
      subst stepped
      refine ⟨inv.lawful, .inr ((sound.noted state.generation state.pending).go .scanning
        ?_ ?_ ok ?_)⟩
      · simp only [at_]
        rfl
      · simp only [at_]
        rfl
      · simp only [at_]
        rintro ⟨⟩
  | checking =>
      have sound := inv.sound_at at_ (by rintro ⟨⟩)
      simp only [Blk.advance, at_, Option.some.injEq] at stepped
      subst stepped
      split
      · exact ⟨inv.lawful, .inr (sound.go .comparing (by rw [at_]; rfl) (by rw [at_]; rfl) trivial
          (by rw [at_]; rintro ⟨⟩))⟩
      · exact ⟨inv.lawful, .inr (sound.proceed (by rw [at_]; rfl) (by rw [at_]; rfl)
          (by rw [at_]; rfl))⟩
  | comparing => exact inv.compare at_ stepped
  | draining why =>
      simp only [Blk.advance, at_, Option.some.injEq] at stepped
      subst stepped
      exact inv.handleDriver at_ dead
  | matching why completion =>
      simp only [Blk.advance, at_, Option.some.injEq] at stepped
      subst stepped
      exact inv.matchResponse at_
  | forwarding why owner status reqbk =>
      have sound := inv.sound_at at_ (by rintro ⟨⟩)
      have ok := sound.phase
      simp only [Blk.advance, at_, Option.some.injEq] at stepped ok
      subst stepped
      obtain ⟨initialised, made⟩ := ok
      refine inv.respond sound (by rw [at_]; rfl) (by rw [at_]; rfl) status ?_ rfl rfl initialised
        ?_
      · rintro _ ⟨⟩
        exact made
      · rw [at_]
        cases why <;> simp [Phase.reconcilesGone]
  | sweeping why position =>
      simp only [Blk.advance, at_, Option.some.injEq] at stepped
      subst stepped
      exact inv.blkReconcileOutstanding at_
  | polling client =>
      simp only [Blk.advance, at_, Option.some.injEq] at stepped
      subst stepped
      exact inv.handleClient at_
  | enqueueing request id =>
      simp only [Blk.advance, at_, Option.some.injEq] at stepped
      subst stepped
      split
      · exact inv.enqueue at_
      · exact .faulted inv.lawful rfl
  | refusing request status =>
      have sound := inv.sound_at at_ (by rintro ⟨⟩)
      have ok := sound.phase
      simp only [Blk.advance, at_, Option.some.injEq] at stepped ok
      subst stepped
      exact inv.respond sound (by rw [at_]; rfl) (by rw [at_]; rfl) status
        (by rintro _ ⟨⟩) rfl rfl ok (by rw [at_]; rintro ⟨⟩)
  | scanning | idle | dispatching | taken request | faulted =>
      simp [Blk.advance, at_] at stepped

/-! ### The partition scan -/

theorem Inv.scanAsk (inv : Inv state) (at_ : state.phase = .scanning) {id : Fin buffers}
    (stepped : scanAsk depth state id = some next) : Inv next := by
  have sound := inv.sound_at at_ (by rintro ⟨⟩)
  have new : state.initialised = false := by
    have ok := sound.phase
    rwa [at_] at ok
  have ids := sound.ids
  rw [at_] at ids
  simp only [Blk.scanAsk] at stepped
  split_ifs at stepped with able
  obtain ⟨scan, free, _⟩ := able
  cases stepped
  have unowned : state.ownerOf id = none := by simp [State.ownerOf, free]
  have owners : ∀ other, State.ownerOf { state.allocate id .scan with scan := some id } other =
      if id = other then some .scan else state.ownerOf other := by
    intro other
    by_cases same : id = other
    · subst same
      simp [State.ownerOf, State.allocate, ids.cleared id free]
    · have apart : other ≠ id := fun equal => same equal.symm
      rw [if_neg same]
      exact State.ownerOf_congr (Function.update_of_ne apart ..) rfl rfl
  have allocated : Ids { state.allocate id .scan with scan := some id } [] :=
    ids.allocated free rfl (fun _ _ => rfl) owners rfl
      (fun other owner => by
        rw [owners] at owner
        split_ifs at owner with same
        · exact congrArg some same
        · cases scan.symm.trans (ids.scan other owner))
      (fun done => by cases new.symm.trans done) rfl rfl rfl
  refine ⟨⟨(ids.holder id).trans unowned, inv.lawful⟩, .inr ?_⟩
  exact
    { ids := by
        simp only [State.allocate, at_]
        exact allocated.enqueued ⟨id, .scan⟩ (by simp [owners]) (ids.absent unowned)
          ⟨rfl, rfl, rfl, rfl, rfl⟩ (fun done => by cases new.symm.trans done) ids.held
          (flight_enqueued { state.allocate id .scan with scan := some id } ..)
      located := sound.located.same fun serial place => by
        cases place with
        | unborn | queued client | hand => exact Iff.rfl
        | entry place =>
            change (∃ request,
              State.ownerOf { state.allocate id .scan with scan := some id } place =
                some (.client request) ∧ _) ↔ _
            rw [owners]
            split_ifs with same
            · subst same
              simp [State.At, unowned]
            · exact Iff.rfl
        | answered => simp only [State.At, State.allocate, answered_allocated]
      distinct := sound.distinct
      phase := by
        simp only [State.allocate, at_]
        exact new
      gone := fun stopped => by cases new.symm.trans (sound.gone stopped).1
      fresh := sound.fresh }

theorem Inv.scanAnswer (inv : Inv state) (at_ : state.phase = .scanning)
    (stepped : scanAnswer state = some next) : Inv next := by
  have sound := inv.sound_at at_ (by rintro ⟨⟩)
  have new : state.initialised = false := by
    have ok := sound.phase
    rwa [at_] at ok
  have ids : Ids state [] := by
    have ids := sound.ids
    rw [at_] at ids
    exact ids
  cases waiting : state.responses with
  | nil => simp [Blk.scanAnswer, waiting] at stepped
  | cons completion rest =>
  obtain ⟨⟨id, owner⟩, status⟩ := completion
  have member : ⟨id, owner⟩ ∈ state.flight [] := by simp [State.flight, waiting]
  have owned : state.ownerOf id = some owner := ids.owned _ member
  have used : state.inUse id = true := State.ownerOf_isSome.mp (by rw [owned]; rintro ⟨⟩)
  have made : owner = .scan := by
    simpa [State.ownerOf, used, sound.fresh new id] using owned.symm
  subst made
  simp only [Blk.scanAnswer, waiting, used, if_true, Option.some.injEq] at stepped
  subst stepped
  have holds : holder id state.log = some .scan := by rw [ids.holder id, owned]
  have mine : state.scan = some id := ids.scan id owned
  have moved : Ids { state with responses := rest } [⟨id, .scan⟩] := by
    refine ids.moved ⟨rfl, rfl, rfl, rfl, rfl⟩ ids.done ids.held ?_
    refine List.Perm.subperm (List.perm_iff_count.mpr fun entry => ?_)
    simp only [State.flight, waiting, List.map_cons, List.count_append, List.count_cons,
      List.count_nil]
    omega
  have freed := (moved.matched id .scan).freeHand
  refine ⟨⟨?_, holds, inv.lawful⟩, .inr ?_⟩
  · exact fun free => nomatch holds.symm.trans free
  exact
    { ids := by
        simp only [State.free, at_]
        exact
          { freed with
            owned := freed.owned
            scan := fun other owner => by
              have left := (State.ownerOf_free _ id other).symm.trans owner
              split_ifs at left with same
              exact absurd (mine.symm.trans (ids.scan other left)) (by simpa using same)
            done := fun _ => rfl }
      located := sound.located.same fun serial place => by
        cases place with
        | unborn | queued client | hand => exact Iff.rfl
        | entry place =>
            change (∃ request, (State.free _ id).ownerOf place = some (.client request) ∧ _) ↔ _
            rw [State.ownerOf_free]
            split_ifs with same
            · subst same
              simp [State.At, owned]
            · exact Iff.rfl
        | answered => simp only [State.At, State.free, answered_freed, answered_matched]
      distinct := sound.distinct
      phase := by
        simp only [State.free, at_]
        exact new
      gone := fun stopped => by cases new.symm.trans (sound.gone stopped).1
      fresh := fun _ other => by
        simp only [State.free, Function.update_apply]
        split_ifs
        · rfl
        · exact sound.fresh new other }

theorem Inv.scanDone (inv : Inv state) (at_ : state.phase = .scanning)
    (finished : state.scan = none) :
    Inv { state with initialised := true, phase := .dispatching } := by
  have sound := inv.sound_at at_ (by rintro ⟨⟩)
  have ids := sound.ids
  rw [at_] at ids
  refine ⟨inv.lawful, .inr ?_⟩
  exact
    { ids := { ids with owned := ids.owned, done := fun _ => finished }
      located := sound.located.same
        (SameTables.at_iff ⟨rfl, rfl, rfl, rfl, rfl⟩ rfl rfl (by rw [at_]; rfl))
      distinct := sound.distinct
      phase := rfl
      gone := fun stopped => by
        have ok := sound.phase
        rw [at_] at ok
        cases ok.symm.trans (sound.gone stopped).1
      fresh := fun new => by cases new }

/-! ### Steps -/

theorem Inv.notified (inv : Inv state) (at_ : state.phase = .idle) (channel : Channel clients) :
    Inv (notified state channel) := by
  have sound := inv.sound_at at_ (by rintro ⟨⟩)
  have taken := sound.noted state.lastSeenGeneration (Function.update state.pending channel false)
  cases channel with
  | driver =>
      refine ⟨inv.lawful, .inr (taken.go .checking ?_ ?_ trivial ?_)⟩
      · simp only [at_]
        rfl
      · simp only [at_]
        rfl
      · simp only [at_]
        rintro ⟨⟩
  | gone =>
      simp only [Blk.notified]
      split_ifs with initialised
      · refine ⟨inv.lawful, .inr ?_⟩
        have ids := taken.ids
        simp only [at_] at ids
        exact
          { ids := { ids with owned := ids.owned }
            located := sound.located.same
              (SameTables.at_iff ⟨rfl, rfl, rfl, rfl, rfl⟩ rfl rfl (by rw [at_]; rfl))
            distinct := sound.distinct
            phase := initialised
            gone := fun _ => ⟨initialised, .inl rfl⟩
            fresh := sound.fresh }
      · exact ⟨inv.lawful, .inr taken⟩
  | client client =>
      exact ⟨inv.lawful, .inr (taken.proceed (by simp only [at_]; rfl) (by simp only [at_]; rfl)
        (by simp only [at_]; rfl))⟩

/-- A step that only moves the thread between phases with nothing in hand. -/
theorem Inv.go (inv : Inv state) {was : Phase buffers clients} (at_ : state.phase = was)
    (running : was ≠ .faulted) (phase : Phase buffers clients)
    (hand : phase.inHand = was.inHand) (request : phase.request = was.request)
    (ok : Sound state → state.PhaseOk phase) (gone : was.reconcilesGone = false) :
    Inv { state with phase } := by
  have sound := inv.sound_at at_ running
  refine ⟨inv.lawful, .inr (sound.go phase (at_ ▸ hand) (at_ ▸ request) (ok sound) ?_)⟩
  rw [at_, gone]
  rintro ⟨⟩

theorem Inv.step (inv : Inv state) {action : Action buffers clients}
    (dead : action = .advance → state.sweepsLive = false)
    (stepped : step depth room state action = some next) : Inv next := by
  cases action with
  | advance => exact inv.advance (dead rfl) stepped
  | scanAsk id =>
      simp only [Blk.step] at stepped
      split_ifs at stepped with at_
      exact inv.scanAsk at_ stepped
  | scanAnswer =>
      simp only [Blk.step] at stepped
      split_ifs at stepped with at_
      exact inv.scanAnswer at_ stepped
  | scanDone =>
      simp only [Blk.step] at stepped
      split_ifs at stepped with at_
      cases stepped
      exact inv.scanDone at_.1 at_.2
  | scanWait =>
      simp only [Blk.step] at stepped
      split_ifs at stepped with at_
      cases stepped
      exact inv.go at_ (by rintro ⟨⟩) .idle rfl rfl (fun _ => trivial) rfl
  | deliver channel =>
      simp only [Blk.step] at stepped
      split_ifs at stepped with at_
      cases stepped
      exact inv.notified at_.1 channel
  | drain =>
      simp only [Blk.step] at stepped
      split_ifs at stepped with at_
      cases stepped
      refine inv.go at_ (by rintro ⟨⟩) (.draining .notified) rfl rfl (fun sound => ?_) rfl
      have ok := sound.phase
      rwa [at_] at ok
  | serve client =>
      simp only [Blk.step] at stepped
      split_ifs at stepped with at_
      cases stepped
      refine inv.go at_ (by rintro ⟨⟩) (.polling client) rfl rfl (fun sound => ?_) rfl
      have ok := sound.phase
      rwa [at_] at ok
  | finish =>
      simp only [Blk.step] at stepped
      split_ifs at stepped with at_
      cases stepped
      exact inv.go at_ (by rintro ⟨⟩) .idle rfl rfl (fun _ => trivial) rfl
  | allocate id =>
      cases at_ : state.phase with
      | taken request =>
          simp only [Blk.step, at_] at stepped
          split_ifs at stepped with used
          cases stepped
          exact inv.allocate at_ (Bool.eq_false_iff.mpr used)
      | _ => simp [Blk.step, at_] at stepped
  | refuse status =>
      cases at_ : state.phase with
      | taken request =>
          simp only [Blk.step, at_, Option.some.injEq] at stepped
          subst stepped
          refine inv.go at_ (by rintro ⟨⟩) (.refusing request (.reported status 0)) rfl rfl
            (fun sound => ?_) rfl
          have ok := sound.phase
          rw [at_] at ok
          exact ok.1
      | _ => simp [Blk.step, at_] at stepped
  | driverInit => exact inv.driverInit stepped
  | take =>
      cases serving : state.driver with
      | serving =>
          cases waiting : state.requests with
          | nil => simp [Blk.step, serving, waiting] at stepped
          | cons entry rest =>
              simp only [Blk.step, serving, waiting, Option.some.injEq] at stepped
              subst stepped
              have taken := inv.take serving waiting
              rwa [serving] at taken
      | _ => simp [Blk.step, serving] at stepped
  | answer completion =>
      simp only [Blk.step] at stepped
      split_ifs at stepped with taken
      cases stepped
      exact inv.answer taken.1 taken.2 _
  | fault =>
      simp only [Blk.step] at stepped
      split_ifs at stepped
      cases stepped
      exact inv.lose rfl state.pending
  | restart =>
      simp only [Blk.step] at stepped
      split_ifs at stepped
      cases stepped
      exact inv.lose rfl state.pending
  | stop =>
      simp only [Blk.step] at stepped
      split_ifs at stepped
      cases stepped
      exact inv.lose rfl _
  | ask client reqId =>
      cases stepped
      exact inv.ask client reqId _
  | collect client =>
      cases waiting : state.clientResponses client with
      | nil => simp [Blk.step, waiting] at stepped
      | cons response rest =>
          simp only [Blk.step, waiting, Option.some.injEq] at stepped
          subst stepped
          exact inv.collect _

/-- The invariant holds along a run whose sweeps all start with nothing left to answer. -/
theorem Inv.run {actions : List (Action buffers clients)} (inv : Inv state)
    (dead : sweepsDead depth room state actions = true)
    (ran : run depth room state actions = some next) : Inv next := by
  induction actions generalizing state with
  | nil =>
      cases ran
      exact inv
  | cons action rest induct =>
      simp only [Blk.run] at ran
      cases stepped : Blk.step depth room state action with
      | none => simp [stepped] at ran
      | some mid =>
          simp only [stepped, Option.bind_some] at ran
          simp only [sweepsDead, stepped, Bool.and_eq_true, Bool.or_eq_true, bne_iff_ne,
            Bool.not_eq_true'] at dead
          exact induct (inv.step (fun same => dead.1.resolve_left (absurd same)) stepped)
            dead.2 ran

end Chrysopolis.Blk
