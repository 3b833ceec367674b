import Chrysopolis.Tcp.SocketProperties
import Mathlib.Data.List.Nodup

/-! The ownership of the socket slots, one call or callback at a time: which slots own a
PCB and which wait in a backlog. It holds in every run. -/

set_option autoImplicit false

namespace Chrysopolis.Tcp

open Chrysopolis.Support Net

/-- What a slot's PCB must be for the slot's state. -/
structure Fits (state : SocketState) (pcb : Pcb) : Prop where
  receives : state = .connected ∨ state = .closing ∨ state = .closedByPeer → pcb.receives = true
  listening : pcb.listening = true ↔ state = .listening
  connecting : pcb.connecting = true → state = .connecting

/-- A PCB that reaches a slot: its receive callback is called in these states only. -/
structure Attached (state : SocketState) (pcb : Pcb) : Prop extends Fits state pcb where
  receiving : pcb.receives = true →
    state = .connected ∨ state = .closing ∨ state = .closedByPeer

/-- One slot with its PCB and its references; `pending` when a backlog has it. Where the
holders are not kept, a closing slot may have lost its PCB and a slot its last holder. -/
structure SlotOwn (kept : Prop) (net : Net) (id : SocketId) (pending : Prop) : Prop where
  owned : (net.sockets id).state ≠ .unallocated → (net.sockets id).state ≠ .error →
    ((net.sockets id).state = .closing → kept) → ∃ address pcb,
      (net.sockets id).sockTpcb = some address ∧ net.pcbs address = some pcb ∧ pcb.arg = some id
  bare : (net.sockets id).state = .unallocated ∨ (net.sockets id).state = .error →
    (net.sockets id).sockTpcb = none
  attached : ∀ address pcb, net.pcbs address = some pcb → pcb.arg = some id →
    (net.sockets id).sockTpcb = some address ∧ Attached (net.sockets id).state pcb
  unused : (net.sockets id).state = .unallocated ∨ (net.sockets id).state = .closing →
    net.refcount id = 0
  counted : 0 ≤ net.refcount id
  held : kept → (net.sockets id).state ≠ .unallocated → (net.sockets id).state ≠ .closing →
    1 ≤ net.refcount id ∨ pending
  waiting : pending → net.refcount id = 0 ∧ ((net.sockets id).state = .connected ∨
    (net.sockets id).state = .closedByPeer ∨ (net.sockets id).state = .error)

/-- Some backlog has the slot. -/
def Net.Pending (net : Net) (id : SocketId) : Prop := ∃ listener, id ∈ net.backlog listener

/-- The ownership of all slots. A listener that fails has no backlog where the holders are
kept. -/
structure Own (kept : Prop) (net : Net) : Prop where
  slots : ∀ id, SlotOwn kept net id (net.Pending id)
  listening : ∀ listener, net.backlog listener ≠ [] → (net.sockets listener).state = .listening ∨
    ¬ kept ∧ (net.sockets listener).state = .error
  once : ∀ listener, (net.backlog listener).Nodup
  apart : ∀ left right id, id ∈ net.backlog left → id ∈ net.backlog right → left = right
  expected : net.unexpected = []

theorem initial_backlog (listener : SocketId) : Net.initial.backlog listener = [] :=
  RingQueue.entries_eq_nil_iff.mpr rfl

theorem Own.initial (kept : Prop) : Own kept Net.initial where
  slots id :=
    { owned := fun used => absurd rfl used
      bare := fun _ => rfl
      attached := fun _ _ live => by cases live
      unused := fun _ => rfl
      counted := Int.le_refl 0
      held := fun _ used => absurd rfl used
      waiting := fun ⟨listener, member⟩ => by
        rw [initial_backlog] at member
        cases member }
  listening listener some := absurd (initial_backlog listener) some
  once listener := by
    rw [initial_backlog]
    exact List.nodup_nil
  apart left _ _ member := by
    rw [initial_backlog] at member
    cases member
  expected := rfl

/-- Only the slot, its count and the PCBs attached to it matter. -/
theorem SlotOwn.congr {kept : Prop} {net next : Net} {id : SocketId} {pending later : Prop}
    (own : SlotOwn kept net id pending)
    (state : (next.sockets id).state = (net.sockets id).state)
    (sockTpcb : (next.sockets id).sockTpcb = (net.sockets id).sockTpcb)
    (refcount : next.refcount id = net.refcount id)
    (pcbs : ∀ place, ((net.pcbs place).bind (·.arg) = some id ∨
      (next.pcbs place).bind (·.arg) = some id) → next.pcbs place = net.pcbs place)
    (fewer : later → pending) (more : kept → pending → later) :
    SlotOwn kept next id later := by
  refine ⟨?_, ?_, ?_, ?_, ?_, ?_, ?_⟩
  · rw [state, sockTpcb]
    intro used live opened
    obtain ⟨address, pcb, owns, found, arg⟩ := own.owned used live opened
    refine ⟨address, pcb, owns, ?_, arg⟩
    rw [pcbs address (.inl (by rw [found]; exact arg)), found]
  · rw [state, sockTpcb]
    exact own.bare
  · intro address pcb found arg
    rw [sockTpcb, state]
    rw [pcbs address (.inr (by rw [found]; exact arg))] at found
    exact own.attached address pcb found arg
  · rw [state, refcount]
    exact own.unused
  · rw [refcount]
    exact own.counted
  · rw [state, refcount]
    exact fun keeps used opened => (own.held keeps used opened).imp_right (more keeps)
  · rw [state, refcount]
    exact fun pending => own.waiting (fewer pending)

/-- A step that changes one slot, its PCB and its references, and no backlog but to empty
the slot's own where the holders are not kept. -/
theorem Own.update {kept : Prop} {net next : Net} (own : Own kept net) (id : SocketId)
    (sockets : ∀ other, other ≠ id → next.sockets other = net.sockets other)
    (refcount : ∀ other, other ≠ id → next.refcount other = net.refcount other)
    (pcbs : ∀ address other, other ≠ id →
      ((net.pcbs address).bind (·.arg) = some other ∨
        (next.pcbs address).bind (·.arg) = some other) → next.pcbs address = net.pcbs address)
    (backlog : next.backlog id = net.backlog id ∨ ¬ kept ∧ next.backlog id = [])
    (listening : next.backlog id ≠ [] → (next.sockets id).state = .listening ∨
      ¬ kept ∧ (next.sockets id).state = .error)
    (expected : next.unexpected = net.unexpected)
    (slot : SlotOwn kept next id (net.Pending id)) : Own kept next := by
  have elsewhere : ∀ listener, listener ≠ id → next.backlog listener = net.backlog listener :=
    fun listener away => by rw [Net.backlog, sockets listener away, Net.backlog]
  have inside : ∀ listener slot, slot ∈ next.backlog listener → slot ∈ net.backlog listener := by
    intro listener slot member
    by_cases same : listener = id
    · subst same
      rcases backlog with stays | ⟨_, empty⟩
      · exact stays ▸ member
      · rw [empty] at member
        cases member
    · exact elsewhere listener same ▸ member
  have outside : kept → ∀ listener slot, slot ∈ net.backlog listener →
      slot ∈ next.backlog listener := by
    intro keeps listener slot member
    by_cases same : listener = id
    · subst same
      rcases backlog with stays | ⟨lost, _⟩
      · exact stays ▸ member
      · exact absurd keeps lost
    · exact (elsewhere listener same).symm ▸ member
  refine ⟨fun other => ?_, fun listener some => ?_, fun listener => ?_, ?_, ?_⟩
  · have fewer : next.Pending other → net.Pending other :=
      Exists.imp fun listener => inside listener other
    have more : kept → net.Pending other → next.Pending other :=
      fun keeps => Exists.imp fun listener => outside keeps listener other
    by_cases same : other = id
    · subst same
      exact slot.congr rfl rfl rfl (fun _ _ => rfl) fewer more
    · have stays := sockets other same
      exact (own.slots other).congr (congrArg _ stays) (congrArg _ stays) (refcount other same)
        (fun place => pcbs place other same) fewer more
  · by_cases same : listener = id
    · subst same
      exact listening some
    · rw [elsewhere listener same] at some
      rw [sockets listener same]
      exact own.listening listener some
  · by_cases same : listener = id
    · subst same
      rcases backlog with stays | ⟨_, empty⟩
      · rw [stays]
        exact own.once listener
      · rw [empty]
        exact List.nodup_nil
    · rw [elsewhere listener same]
      exact own.once listener
  · intro left right other inLeft inRight
    exact own.apart left right other (inside left other inLeft) (inside right other inRight)
  · rw [expected]
    exact own.expected

section Steps

variable {kept : Prop} {net : Net} {id : SocketId}

/-- A slot that a PCB reaches is in use and owns it. -/
theorem Own.live_of_arg (own : Own kept net) {address : Nat} {pcb : Pcb}
    (found : net.pcbs address = some pcb) (arg : pcb.arg = some id) :
    (net.sockets id).sockTpcb = some address ∧ (net.sockets id).state ≠ .unallocated ∧
      (net.sockets id).state ≠ .error ∧ Attached (net.sockets id).state pcb := by
  have ok := own.slots id
  obtain ⟨owns, attached⟩ := ok.attached address pcb found arg
  refine ⟨owns, fun none => ?_, fun none => ?_, attached⟩
  · rw [ok.bare (.inl none)] at owns
    cases owns
  · rw [ok.bare (.inr none)] at owns
    cases owns

/-- A PCB that a slot owns is live and has it as its argument, unless the slot waits for
lwIP to close it. -/
theorem Own.arg_of_owns (own : Own kept net) {address : Nat}
    (owns : (net.sockets id).sockTpcb = some address)
    (opened : (net.sockets id).state = .closing → kept) :
    ∃ pcb, net.pcbs address = some pcb ∧ pcb.arg = some id ∧
      Attached (net.sockets id).state pcb := by
  have ok := own.slots id
  have used : (net.sockets id).state ≠ .unallocated := by
    intro none
    rw [ok.bare (.inl none)] at owns
    cases owns
  have live : (net.sockets id).state ≠ .error := by
    intro none
    rw [ok.bare (.inr none)] at owns
    cases owns
  obtain ⟨place, pcb, owns', found, arg⟩ := ok.owned used live opened
  rw [owns] at owns'
  cases owns'
  exact ⟨pcb, found, arg, (ok.attached address pcb found arg).2⟩

/-- Only a listening slot, or one that failed while it listened, has a backlog. -/
theorem Own.empty (own : Own kept net) (notListening : (net.sockets id).state ≠ .listening)
    (live : (net.sockets id).state ≠ .error) : net.backlog id = [] := by
  by_contra some
  rcases own.listening id some with listens | ⟨_, failed⟩
  · exact notListening listens
  · exact live failed

/-- Only its state changes, between states that have a PCB. -/
theorem Own.setState (own : Own kept net) {target : SocketState}
    (allowed : tcpStateTransitionAllowed (net.sockets id).state target = true)
    (owned : ∃ address pcb, (net.sockets id).sockTpcb = some address ∧
      net.pcbs address = some pcb ∧ pcb.arg = some id)
    (stays : target ≠ .unallocated ∧ target ≠ .error)
    (attached : ∀ pcb, Attached (net.sockets id).state pcb → Attached target pcb)
    (empty : net.backlog id = [])
    (unused : target = .closing → net.refcount id = 0)
    (held : kept → target ≠ .closing → 1 ≤ net.refcount id ∨ net.Pending id)
    (waiting : net.Pending id → net.refcount id = 0 ∧
      (target = .connected ∨ target = .closedByPeer ∨ target = .error)) :
    Own kept (net.socketSetState id target) := by
  have ok := own.slots id
  refine own.update id (fun other away => by simp [away]) (fun other away => by simp)
    (fun address other away some => by simp) (.inl (by simp [Net.backlog]))
    (fun some => absurd empty (by simpa [Net.backlog] using some))
    (net.socketSetState_unexpected id target allowed) ⟨?_, ?_, ?_, ?_, ?_, ?_, ?_⟩
  · intro _ _ _
    obtain ⟨address, pcb, owns, found, arg⟩ := owned
    exact ⟨address, pcb, by simpa using owns, by simpa using found, arg⟩
  · simp [stays]
  · intro address pcb found arg
    simp only [socketSetState_pcbs] at found
    obtain ⟨owns, fits⟩ := ok.attached address pcb found arg
    exact ⟨by simpa using owns, by simpa using attached pcb fits⟩
  · simpa [stays] using unused
  · simpa using ok.counted
  · simpa [stays] using held
  · simpa using waiting

theorem Own.bind (own : Own kept net) (index : Int) (available : Bool) (answer : Option Err) :
    Own kept (net.tcpSocketBind index available answer).1 := by
  unfold tcpSocketBind
  split
  · exact own
  rename_i id _
  split
  · exact own
  rename_i allowed
  split
  · exact own
  split
  · exact own
  simp only [tcpBindAllowed, Bool.not_eq_true', decide_eq_false_iff_not, not_not] at allowed
  have ok := own.slots id
  refine own.setState ?_ ?_ ?_ ?_ ?_ ?_ ?_ ?_
  · rw [allowed]
    rfl
  · exact ok.owned (by simp [allowed]) (by simp [allowed]) (by simp [allowed])
  · simp
  · rw [allowed]
    exact fun pcb fits => ⟨⟨by simp, by simpa using fits.listening,
      fun connecting => by simpa using fits.connecting connecting⟩,
      fun receives => by simpa using fits.receiving receives⟩
  · exact own.empty (by simp [allowed]) (by simp [allowed])
  · simp
  · exact fun keeps _ => ok.held keeps (by simp [allowed]) (by simp [allowed])
  · intro pending
    have state := ok.waiting pending
    simp [allowed] at state

theorem Own.dup (own : Own kept net) (index : Int) : Own kept (net.tcpSocketDup index).1 := by
  unfold tcpSocketDup
  split
  · exact own
  rename_i id _
  split
  · exact own
  rename_i refs acquired
  simp only [tcpRefAcquire] at acquired
  split at acquired
  · cases acquired
  rename_i held
  cases acquired
  have ok := own.slots id
  refine own.update id (fun other away => rfl) (fun other away => by simp [away])
    (fun address other away some => rfl) (.inl rfl) (own.listening id) rfl
    ⟨ok.owned, ok.bare, ok.attached, ?_, ?_, ?_, ?_⟩
  · intro unused
    have zero := ok.unused unused
    omega
  · simp only [setRefs_refcount, if_true]
    omega
  · intro _ _ _
    simp only [setRefs_refcount, if_true]
    omega
  · intro pending
    have zero := (ok.waiting pending).1
    omega

/-- A store to a slot's receive ring. -/
theorem Own.setRing (own : Own kept net) (id : SocketId) (ring : ReceiveRing → ReceiveRing) :
    Own kept (net.setSocket id fun socket => { socket with rx := ring socket.rx }) := by
  have ok := own.slots id
  refine own.update id (fun other away => by simp [away]) (fun other away => rfl)
    (fun address other away some => rfl) (.inl (by simp [Net.backlog]))
    (fun some => by simpa using own.listening id (by simpa [Net.backlog] using some)) rfl
    ⟨?_, ?_, ?_, ?_, ?_, ?_, ?_⟩
  · simpa using ok.owned
  · simpa using ok.bare
  · simpa using ok.attached
  · simpa using ok.unused
  · simpa using ok.counted
  · simpa using ok.held
  · simpa using ok.waiting

theorem Own.recv (own : Own kept net) (index : Int) (len : Nat) (nonblock : Bool) :
    Own kept (net.tcpSocketRecv index len nonblock).1 := by
  unfold tcpSocketRecv
  split
  · exact own
  rename_i id _
  dsimp only
  split
  case h_5 => exact own.setRing id fun _ => _
  all_goals exact own

/-- A change to the PCB of a slot is no change to another slot's. -/
theorem apart_of_reaches {next : Net} {address : Nat}
    (reaches : (net.pcbs address).bind (·.arg) = some id)
    (pcbs : ∀ place, place ≠ address → next.pcbs place = net.pcbs place)
    (mine : ∀ pcb other, next.pcbs address = some pcb → pcb.arg = some other → other = id)
    (place : Nat) (other : SocketId) (away : other ≠ id)
    (arg : (net.pcbs place).bind (·.arg) = some other ∨
      (next.pcbs place).bind (·.arg) = some other) :
    next.pcbs place = net.pcbs place := by
  by_cases same : place = address
  · subst same
    rcases arg with arg | arg
    · exact absurd (Option.some.inj (arg.symm.trans reaches)) away
    · obtain ⟨pcb, found, arg⟩ := Option.bind_eq_some_iff.mp arg
      exact absurd (mine pcb other found arg) away
  · exact pcbs place same

/-- A PCB without an argument is no slot's. -/
theorem Own.detached (own : Own kept net) {next : Net} (sockets : next.sockets = net.sockets)
    (refcount : next.refcount = net.refcount)
    (pcbs : ∀ place, next.pcbs place = net.pcbs place ∨
      (net.pcbs place).bind (·.arg) = none ∧ (next.pcbs place).bind (·.arg) = none)
    (expected : next.unexpected = net.unexpected) : Own kept next := by
  have backlogs : ∀ listener, next.backlog listener = net.backlog listener := fun listener => by
    rw [Net.backlog, sockets, Net.backlog]
  refine ⟨fun id => ?_, ?_, ?_, ?_, ?_⟩
  · have pending : next.Pending id = net.Pending id := by simp only [Net.Pending, backlogs]
    rw [pending]
    refine (own.slots id).congr (by rw [sockets]) (by rw [sockets]) (by rw [refcount]) ?_
      (fun same => same) (fun _ same => same)
    intro place arg
    rcases pcbs place with same | ⟨before, after⟩
    · exact same
    · rcases arg with arg | arg
      · exact absurd (before.symm.trans arg) (by simp)
      · exact absurd (after.symm.trans arg) (by simp)
  · intro listener
    rw [backlogs, sockets]
    exact own.listening listener
  · intro listener
    rw [backlogs]
    exact own.once listener
  · intro left right id
    rw [backlogs, backlogs]
    exact own.apart left right id
  · rw [expected]
    exact own.expected

/-- A slot returns to the pool with its PCB freed or detached. -/
theorem Own.release (own : Own kept net) {middle : Net} (sockets : middle.sockets = net.sockets)
    (refcount : ∀ other, other ≠ id → middle.refcount other = net.refcount other)
    (pcbs : ∀ place, (net.sockets id).sockTpcb ≠ some place →
      middle.pcbs place = net.pcbs place)
    (reaches : ∀ place, (net.sockets id).sockTpcb = some place →
      (net.pcbs place).bind (·.arg) = some id)
    (gone : ∀ place, (net.sockets id).sockTpcb = some place →
      (middle.pcbs place).bind (·.arg) = none)
    (expected : middle.unexpected = net.unexpected)
    (allowed : tcpStateTransitionAllowed (net.sockets id).state .unallocated = true)
    (idle : ¬ net.Pending id) (empty : kept → net.backlog id = []) :
    Own kept (middle.socketRelease id) := by
  have ok := own.slots id
  have released : (middle.socketRelease id).backlog id = [] := by simp [Net.backlog]
  refine own.update id (fun other away => by simp [away, sockets])
    (fun other away => by simp [away, refcount other away]) ?_ ?_
    (fun some => absurd released some) ?_ ⟨?_, ?_, ?_, ?_, ?_, ?_, ?_⟩
  · intro place other away arg
    simp only [socketRelease_pcbs] at arg ⊢
    cases owns : (net.sockets id).sockTpcb with
    | none => exact pcbs place (by simp [owns])
    | some address =>
        refine apart_of_reaches (reaches address owns) (fun place away => pcbs place ?_) ?_ place
          other away arg
        · rw [owns]
          exact fun same => away (Option.some.inj same).symm
        · intro pcb other found arg
          have none := gone address owns
          rw [found] at none
          exact absurd (none.symm.trans arg) (by simp)
  · by_cases keeps : kept
    · exact .inl (released.trans (empty keeps).symm)
    · exact .inr ⟨keeps, released⟩
  · rw [socketRelease_unexpected _ _ (by rw [sockets]; exact allowed), expected]
  · simp
  · simp
  · intro address pcb found arg
    simp only [socketRelease_pcbs] at found
    by_cases owns : (net.sockets id).sockTpcb = some address
    · have none := gone address owns
      rw [found] at none
      exact absurd (none.symm.trans arg) (by simp)
    · rw [pcbs address owns] at found
      exact absurd (ok.attached address pcb found arg).1 owns
  · simp
  · simp
  · simp
  · exact fun pending => absurd pending idle

theorem Own.connect (own : Own kept net) (index : Int) (answer : Option Err) :
    Own kept (net.tcpSocketConnect index answer).1 := by
  unfold tcpSocketConnect
  split
  · exact own
  rename_i id _
  split
  · exact own
  · exact own
  · exact own
  rename_i gate
  have state : (net.sockets id).state = .allocated ∨ (net.sockets id).state = .bound := by
    unfold tcpConnectGate at gate
    split at gate <;> simp_all
  split
  · exact own
  have ok := own.slots id
  obtain ⟨address, pcb, owns, found, arg⟩ :=
    ok.owned (by rcases state with state | state <;> simp [state])
      (by rcases state with state | state <;> simp [state])
      (by rcases state with state | state <;> simp [state])
  obtain ⟨_, fits⟩ := ok.attached address pcb found arg
  have silent : pcb.receives = false := by
    rw [← Bool.not_eq_true]
    intro receives
    have busy := fits.receiving receives
    rcases state with state | state <;> simp [state] at busy
  have empty : net.backlog id = [] :=
    own.empty (by rcases state with state | state <;> simp [state])
      (by rcases state with state | state <;> simp [state])
  rw [owns]
  refine own.update id (fun other away => by simp [away]) (fun other away => by simp)
    (apart_of_reaches (by rw [found]; exact arg) (fun place away => by simp [away]) ?_)
    (.inl (by simp [Net.backlog])) (fun some => absurd empty (by simpa [Net.backlog] using some))
    ?_ ⟨?_, ?_, ?_, ?_, ?_, ?_, ?_⟩
  · intro changed other found' arg'
    simp only [socketSetState_pcbs, setPcb_pcbs, if_true, found, Option.map_some,
      Option.some.injEq] at found'
    subst found'
    exact Option.some.inj (arg'.symm.trans arg)
  · rw [socketSetState_unexpected, setPcb_unexpected]
    rw [setPcb_sockets]
    rcases state with state | state <;> rw [state] <;> rfl
  · intro _ _ _
    exact ⟨address, { pcb with connecting := true }, by simpa using owns, by simp [found], arg⟩
  · simp
  · intro place other found' arg'
    simp only [socketSetState_pcbs, setPcb_pcbs] at found'
    split at found'
    · rename_i same
      rw [found] at found'
      cases found'
      refine ⟨by simpa [same] using owns, ⟨⟨by simp, ?_, by simp⟩, by simp [silent]⟩⟩
      have plain := fits.listening
      rcases state with state | state <;> simpa [state] using plain
    · rename_i away
      have mine := (ok.attached place other found' arg').1
      rw [owns] at mine
      exact absurd (Option.some.inj mine).symm away
  · simp
  · simpa using ok.counted
  · intro keeps _ _
    simpa using ok.held keeps (by rcases state with state | state <;> simp [state])
      (by rcases state with state | state <;> simp [state])
  · intro pending
    have waits := ok.waiting pending
    rcases state with state | state <;> simp [state] at waits

theorem Own.connected (own : Own kept net) {address : Nat} {pcb : Pcb}
    (found : net.pcbs address = some pcb) (pendingConnect : pcb.connecting = true) :
    Own kept ((net.setPcb (some address) fun pcb =>
      { pcb with connecting := false }).socketConnected pcb.arg address) := by
  cases arg : pcb.arg with
  | none =>
      refine own.detached (by simp [socketConnected]) (by simp [socketConnected])
        (fun place => ?_) (by simp [socketConnected])
      by_cases same : place = address
      · rw [same]
        exact .inr (by simp [socketConnected, found, arg])
      · exact .inl (by simp [socketConnected, same])
  | some id =>
      have ok := own.slots id
      obtain ⟨owns, used, live, fits⟩ := own.live_of_arg found arg
      have state := fits.connecting pendingConnect
      have plain := fits.listening
      rw [state] at plain
      have empty : net.backlog id = [] := own.empty (by simp [state]) live
      simp only [socketConnected, tcpRecv]
      refine own.update id (fun other away => by simp [away]) (fun other away => by simp)
        (apart_of_reaches (by rw [found]; exact arg) (fun place away => by simp [away]) ?_)
        (.inl (by simp [Net.backlog]))
        (fun some => absurd empty (by simpa [Net.backlog] using some)) ?_
        ⟨?_, ?_, ?_, ?_, ?_, ?_, ?_⟩
      · intro changed other found' arg'
        simp only [socketSetState_pcbs, setPcb_pcbs, if_true, found, Option.map_some,
          Option.some.injEq] at found'
        subst found'
        exact Option.some.inj (arg'.symm.trans arg)
      · rw [setPcb_unexpected, socketSetState_unexpected _ _ _ (by simp [state]; rfl),
          setPcb_unexpected]
      · intro _ _ _
        exact ⟨address, { pcb with connecting := false, receives := true }, by simpa using owns,
          by simp [found], arg⟩
      · simp
      · intro place other found' arg'
        simp only [setPcb_pcbs, socketSetState_pcbs] at found'
        split at found'
        · rename_i same
          simp only [if_true, found, Option.map_some, Option.some.injEq] at found'
          subst found'
          exact ⟨by simpa [same] using owns, ⟨⟨by simp, by simpa using plain, by simp⟩, by simp⟩⟩
        · rename_i away
          have mine := (ok.attached place other found' arg').1
          rw [owns] at mine
          exact absurd (Option.some.inj mine).symm away
      · simp
      · simpa using ok.counted
      · intro keeps _ _
        simpa using ok.held keeps (by simp [state]) (by simp [state])
      · intro pending
        have waits := ok.waiting pending
        simp [state] at waits

theorem Own.received (own : Own kept net) {address : Nat} {pcb : Pcb}
    (found : net.pcbs address = some pcb) (arg : pcb.arg = some id)
    (p : Option (List UInt8)) : Own kept (net.socketRecvCallback id p).1 := by
  have ok := own.slots id
  obtain ⟨owns, used, live, fits⟩ := own.live_of_arg found arg
  unfold socketRecvCallback
  dsimp only
  split
  case h_1 state =>
    split
    · split
      · exact own.setRing id fun ring => ring.fill SOCKET_BUF_SIZE _
      · exact own
    · refine own.setState ?_ ⟨address, pcb, owns, found, arg⟩ (by simp) ?_ ?_ (by simp) ?_ ?_
      · rw [state]
        rfl
      · rw [state]
        exact fun pcb fits => ⟨⟨fun _ => fits.receives (.inl rfl), by simpa using fits.listening,
          fun connecting => by cases fits.connecting connecting⟩, by simp⟩
      · exact own.empty (by simp [state]) live
      · exact fun keeps _ => ok.held keeps used (by simp [state])
      · exact fun pending => ⟨(ok.waiting pending).1, by simp⟩
  case h_4 => exact own
  all_goals
    rename_i state
    split
    · exact own
    · have idle : ¬ net.Pending id := by
        intro pending
        have waits := ok.waiting pending
        simp [state] at waits
      rw [owns]
      refine own.release (by simp [tcpArg]) (fun other away => by simp [tcpArg]) ?_ ?_ ?_
        (by simp [tcpArg]) (by rw [state]; rfl) idle fun _ => own.empty (by simp [state]) live
      · intro place away
        simp only [tcpArg, setPcb_pcbs]
        rw [if_neg]
        intro same
        rw [same] at away
        exact away owns
      · intro place mine
        rw [owns] at mine
        cases mine
        rw [found]
        exact arg
      · intro place mine
        rw [owns] at mine
        cases mine
        simp [tcpArg, found]

/-- Every state with a PCB may fail. -/
theorem transition_error {state : SocketState} (used : state ≠ .unallocated)
    (live : state ≠ .error) : tcpStateTransitionAllowed state .error = true := by
  cases state <;> first | rfl | contradiction

/-- The error callback keeps the holders where the slot has another one. -/
theorem Own.failed (own : Own kept net) {address : Nat} {pcb : Pcb}
    (found : net.pcbs address = some pcb)
    (keeps : kept → ∀ id, pcb.arg = some id →
      (net.sockets id).state ≠ .closing ∧ net.backlog id = [])
    (err : Err) : Own kept ((net.freePcb address).socketErrFunc pcb.arg err) := by
  cases arg : pcb.arg with
  | none =>
      refine own.detached (by simp [socketErrFunc]) (by simp [socketErrFunc])
        (fun place => ?_) (by simp [socketErrFunc])
      by_cases same : place = address
      · rw [same]
        exact .inr (by simp [socketErrFunc, found, arg])
      · exact .inl (by simp [socketErrFunc, same])
  | some id =>
      have ok := own.slots id
      obtain ⟨owns, used, live, fits⟩ := own.live_of_arg found arg
      simp only [socketErrFunc]
      refine own.update id (fun other away => by simp [away]) (fun other away => by simp)
        (apart_of_reaches (by rw [found]; exact arg) (fun place away => by simp [away]) (by simp))
        (.inl (by simp [Net.backlog])) ?_ ?_ ⟨?_, ?_, ?_, ?_, ?_, ?_, ?_⟩
      · intro some
        refine .inr ⟨fun keeping => ?_, by simp⟩
        exact absurd (keeps keeping id arg).2 (by simpa [Net.backlog] using some)
      · rw [setSocket_unexpected, socketSetState_unexpected, freePcb_unexpected]
        exact transition_error used live
      · simp
      · simp
      · intro place other found' arg'
        simp only [setSocket_pcbs, socketSetState_pcbs, freePcb_pcbs] at found'
        split at found'
        · cases found'
        · rename_i away
          have mine := (ok.attached place other found' arg').1
          rw [owns] at mine
          exact absurd (Option.some.inj mine).symm away
      · simp
      · simpa using ok.counted
      · intro keeping _ _
        simpa using ok.held keeping used (keeps keeping id arg).1
      · intro pending
        simpa using (ok.waiting pending).1

theorem socketLookup_val (id : SocketId) : socketLookup (id.val : Int) = some id := by
  have bound := id.isLt
  rw [socketLookup, dif_pos (by omega)]
  rfl

theorem Net.freeSocket_unallocated (free : net.freeSocket = some id) :
    (net.sockets id).state = .unallocated := by
  simpa using List.find?_some free

/-- An unallocated slot is in no backlog and has none. -/
theorem Own.unallocated (own : Own kept net) (state : (net.sockets id).state = .unallocated) :
    ¬ net.Pending id ∧ net.backlog id = [] ∧
      ∀ place pcb, net.pcbs place = some pcb → pcb.arg ≠ some id := by
  have ok := own.slots id
  refine ⟨fun pending => ?_, own.empty (by simp [state]) (by simp [state]),
    fun place pcb found arg => ?_⟩
  · have waits := ok.waiting pending
    simp [state] at waits
  · exact (own.live_of_arg found arg).2.1 state

theorem Own.socket (own : Own kept net) {tpcb : Option Nat} (fresh : net.fresh tpcb = true) :
    Own kept (net.socket tpcb).1 := by
  unfold Net.socket socketAllocate
  cases free : net.freeSocket with
  | none => exact own
  | some id =>
      have state := freeSocket_unallocated free
      obtain ⟨idle, empty, unattached⟩ := own.unallocated state
      have allocated : ((net.socketClear id).socketSetState id .allocated).unexpected =
          net.unexpected := by
        rw [socketSetState_unexpected, socketClear_unexpected]
        simp [state]
        rfl
      dsimp only
      unfold tcpSocketInit
      rw [if_neg (by simp)]
      cases tpcb with
      | none =>
          dsimp only
          unfold tcpSocketClose
          rw [socketLookup_val]
          simp only [setSocket_refcount, socketSetState_refcount, socketClear_refcount, if_true,
            tcpRefRelease, Int.le_refl, setSocket_sockets, socketSetState_sockets,
            reduceCtorEq, if_false]
          unfold tcpSocketCloseInt
          simp only [setSocket_sockets, socketSetState_sockets, if_true, tcpCloseAction]
          refine own.update id (fun other away => by simp [away]) (fun other away => by simp [away])
            (fun place other away arg => by simp) (.inl (by rw [empty]; simp [Net.backlog]))
            (fun some => absurd (by simp [Net.backlog]) some) ?_
            ⟨?_, ?_, ?_, ?_, ?_, ?_, ?_⟩
          · rw [socketRelease_unexpected, setSocket_unexpected, allocated]
            simp
            rfl
          · simp
          · simp
          · intro place pcb found arg
            exact absurd arg (unattached place pcb (by simpa using found))
          · simp
          · simp
          · simp
          · exact fun pending => absurd pending idle
      | some address =>
          have absent : net.pcbs address = none := by simpa [Net.fresh] using fresh
          simp only [tcpArg]
          refine own.update id (fun other away => by simp [away]) (fun other away => by simp [away])
            ?_ (.inl (by rw [empty]; simp [Net.backlog]))
            (fun some => absurd (by simp [Net.backlog]) some) ?_
            ⟨?_, ?_, ?_, ?_, ?_, ?_, ?_⟩
          · intro place other away arg
            by_cases same : place = address
            · subst same
              simp [absent] at arg
              exact absurd arg.symm away
            · simp [same]
          · simp only [setRefs_unexpected, setPcb_unexpected, setSocket_unexpected,
              newPcb_unexpected, allocated]
          · intro _ _ _
            exact ⟨address, ⟨some id, false, false, false⟩, by simp, by simp, rfl⟩
          · simp
          · intro place pcb found arg
            simp only [setRefs_pcbs, setPcb_pcbs, setSocket_pcbs, newPcb_pcbs,
              socketSetState_pcbs, socketClear_pcbs] at found
            split at found
            · rename_i same
              simp only [if_true, Option.map_some, Option.some.injEq] at found
              subst found
              exact ⟨by simp [same], ⟨⟨by simp, by simp, by simp⟩, by simp⟩⟩
            · rename_i away
              exact absurd arg (unattached place pcb (by simpa [away] using found))
          · simp
          · simp
          · simp
          · exact fun pending => absurd pending idle

theorem Own.listen (own : Own kept net) (index : Int) {answer : Option Nat}
    (fresh : net.fresh answer = true) : Own kept (net.tcpSocketListen index answer).1 := by
  unfold tcpSocketListen
  split
  · exact own
  rename_i id _
  split
  · exact own
  rename_i allowed
  have state : (net.sockets id).state = .allocated ∨ (net.sockets id).state = .bound :=
    Decidable.or_iff_not_imp_left.mpr (by simpa [tcpListenAllowed] using allowed)
  split
  case h_2 => exact own
  rename_i old address owns
  have ok := own.slots id
  obtain ⟨pcb, found, arg, fits⟩ :=
    own.arg_of_owns owns (by rcases state with state | state <;> simp [state])
  have absent : net.pcbs address = none := by simpa [Net.fresh] using fresh
  have differs : address ≠ old := by
    intro same
    rw [same, found] at absent
    cases absent
  dsimp only
  rw [found]
  refine own.update id (fun other away => by simp [away]) (fun other away => by simp) ?_
    (.inl (by simp [Net.backlog])) (fun _ => .inl (by simp)) ?_ ⟨?_, ?_, ?_, ?_, ?_, ?_, ?_⟩
  · intro place other away arg'
    simp only [socketSetState_pcbs, setSocket_pcbs, newPcb_pcbs, freePcb_pcbs] at arg' ⊢
    by_cases new : place = address
    · subst new
      simp [absent, arg] at arg'
      exact absurd arg'.symm away
    · by_cases freed : place = old
      · subst freed
        simp [new, found, arg] at arg'
        exact absurd arg'.symm away
      · simp [new, freed]
  · rw [socketSetState_unexpected, setSocket_unexpected, newPcb_unexpected, freePcb_unexpected]
    rcases state with state | state <;> simp [state] <;> rfl
  · intro _ _ _
    exact ⟨address, ⟨some id, true, false, false⟩, by simp, by simp [arg], rfl⟩
  · simp
  · intro place other found' arg'
    simp only [socketSetState_pcbs, setSocket_pcbs, newPcb_pcbs, freePcb_pcbs] at found'
    split at found'
    · rename_i same
      cases found'
      exact ⟨by simp [same], ⟨⟨by simp, by simp, by simp⟩, by simp⟩⟩
    · split at found'
      · cases found'
      · rename_i away
        have mine := (ok.attached place other found' arg').1
        rw [owns] at mine
        exact absurd (Option.some.inj mine).symm away
  · simp
  · simpa using ok.counted
  · intro keeps _ _
    simpa using ok.held keeps (by rcases state with state | state <;> simp [state])
      (by rcases state with state | state <;> simp [state])
  · intro pending
    have waits := ok.waiting pending
    rcases state with state | state <;> simp [state] at waits

/-- The oldest entry of a backlog waits no more, and the others do. -/
theorem Own.pop_pending (own : Own kept net) {listener : SocketId}
    {queue : RingQueue MAX_LISTEN_BACKLOG SocketId}
    (popped : (net.sockets listener).acceptQueue.pop = some (id, queue)) (other : SocketId) :
    (net.setSocket listener fun socket => { socket with acceptQueue := queue }).Pending other ↔
      net.Pending other ∧ other ≠ id := by
  have entries : net.backlog listener = id :: queue.entries := RingQueue.entries_pop popped
  have nodup := own.once listener
  rw [entries, List.nodup_cons] at nodup
  generalize result : (net.setSocket listener fun socket =>
    { socket with acceptQueue := queue }) = next
  have mine : next.backlog listener = queue.entries := by simp [← result, Net.backlog]
  have others : ∀ place, place ≠ listener → next.backlog place = net.backlog place := by
    intro place away
    simp [← result, Net.backlog, away]
  constructor
  · rintro ⟨place, queued⟩
    by_cases same : place = listener
    · rw [same, mine] at queued
      refine ⟨⟨listener, by simp [entries, queued]⟩, ?_⟩
      rintro rfl
      exact nodup.1 queued
    · rw [others place same] at queued
      refine ⟨⟨place, queued⟩, ?_⟩
      rintro rfl
      exact same (own.apart place listener other queued (by simp [entries]))
  · rintro ⟨⟨place, queued⟩, away⟩
    refine ⟨place, ?_⟩
    by_cases same : place = listener
    · rw [same, entries, List.mem_cons] at queued
      rw [same, mine]
      exact queued.resolve_left away
    · rw [others place same]
      exact queued

/-- The oldest entry leaves its backlog with a reference, or without one where the holders
are not kept. -/
theorem Own.pop (own : Own kept net) {listener : SocketId}
    {queue : RingQueue MAX_LISTEN_BACKLOG SocketId} {refs : Int}
    (popped : (net.sockets listener).acceptQueue.pop = some (id, queue)) (counted : 0 ≤ refs)
    (held : kept → 1 ≤ refs) :
    Own kept ((net.setSocket listener fun socket =>
      { socket with acceptQueue := queue }).setRefs id refs) := by
  have entries : net.backlog listener = id :: queue.entries := RingQueue.entries_pop popped
  have waits := (own.slots id).waiting ⟨listener, by simp [entries]⟩
  have nodup := own.once listener
  rw [entries, List.nodup_cons] at nodup
  have pending := own.pop_pending popped
  generalize result : (net.setSocket listener fun socket =>
    { socket with acceptQueue := queue }).setRefs id refs = next
  have backlogs : ∀ other, next.backlog other =
      if other = listener then queue.entries else net.backlog other := by
    intro other
    by_cases same : other = listener <;> simp [← result, Net.backlog, same]
  have inside : ∀ other slot, slot ∈ next.backlog other → slot ∈ net.backlog other := by
    intro other slot
    rw [backlogs]
    split
    · rename_i same
      rw [same, entries]
      exact List.mem_cons_of_mem id
    · exact fun some => some
  have waiting : ∀ other, next.Pending other ↔ net.Pending other ∧ other ≠ id := by
    rw [← result]
    exact pending
  have sockTpcb : ∀ other, (next.sockets other).sockTpcb = (net.sockets other).sockTpcb := by
    intro other
    by_cases same : other = listener <;> simp [← result, same]
  have states : ∀ other, (next.sockets other).state = (net.sockets other).state := by
    intro other
    by_cases same : other = listener <;> simp [← result, same]
  have refcount : next.refcount id = refs := by simp [← result]
  have pcbs : next.pcbs = net.pcbs := by simp [← result]
  refine ⟨fun other => ?_, ?_, ?_, ?_, ?_⟩
  · have ok := own.slots other
    by_cases same : other = id
    · subst same
      refine ⟨?_, ?_, ?_, ?_, ?_, ?_, fun queued => absurd rfl ((waiting other).mp queued).2⟩
      · rw [states, sockTpcb, pcbs]
        exact ok.owned
      · rw [states, sockTpcb]
        exact ok.bare
      · rw [states, sockTpcb, pcbs]
        exact ok.attached
      · rw [states]
        rcases waits.2 with state | state | state <;> simp [state]
      · rw [refcount]
        exact counted
      · intro keeps _ _
        rw [refcount]
        exact .inl (held keeps)
    · exact ok.congr (states other) (sockTpcb other) (by simp [← result, same])
        (fun place _ => by rw [pcbs]) (fun queued => ((waiting other).mp queued).1)
        fun _ queued => (waiting other).mpr ⟨queued, same⟩
  · intro other some
    rw [states]
    obtain ⟨slot, queued⟩ := List.exists_mem_of_ne_nil _ some
    exact own.listening other (List.ne_nil_of_mem (inside other slot queued))
  · intro other
    rw [backlogs]
    split
    · exact nodup.2
    · exact own.once other
  · intro left right slot inLeft inRight
    exact own.apart left right slot (inside left slot inLeft) (inside right slot inRight)
  · rw [← result]
    exact own.expected

theorem Own.acceptPending (own : Own kept net) (listener : SocketId) :
    Own kept (net.acceptPending listener).1 := by
  unfold Net.acceptPending
  split
  · exact own
  · rename_i popped
    exact own.pop popped (by decide) fun _ => Int.le_refl 1

theorem Own.accept (own : Own kept net) (index : Int) (nonblock : Bool) :
    Own kept (net.tcpSocketAccept index nonblock).1 := by
  unfold tcpSocketAccept
  split
  · exact own
  split
  · exact own
  split
  · exact own
  · exact own.acceptPending _

/-- What the accept callback has done to a free slot before it queues it. -/
structure Wires (start wired : Net) (id : SocketId) (newpcb : Nat) : Prop where
  sockets : ∀ other, other ≠ id → wired.sockets other = start.sockets other
  refcount : ∀ other, wired.refcount other = if other = id then 0 else start.refcount other
  state : (wired.sockets id).state = .connected
  owns : (wired.sockets id).sockTpcb = some newpcb
  cleared : wired.backlog id = []
  wiredPcb : wired.pcbs newpcb = some ⟨some id, false, false, true⟩
  pcbs : ∀ place, place ≠ newpcb → wired.pcbs place = start.pcbs place
  expected : wired.unexpected = start.unexpected

theorem Wires.of_free {newpcb : Nat}
    (made : net.pcbs newpcb = some ⟨none, false, false, false⟩)
    (unused : (net.sockets id).state = .unallocated) :
    Wires net ((((((net.socketClear id).socketSetState id .allocated).setSocket id
      (fun socket => { socket with sockTpcb := some newpcb })).socketSetState id
        .connected).tcpArg (some newpcb) (some id)).tcpRecv (some newpcb) true) id newpcb where
  sockets other away := by simp [tcpRecv, tcpArg, away]
  refcount other := by simp [tcpRecv, tcpArg]
  state := by simp [tcpRecv, tcpArg]
  owns := by simp [tcpRecv, tcpArg]
  cleared := by simp [tcpRecv, tcpArg, Net.backlog]
  wiredPcb := by simp [tcpRecv, tcpArg, made]
  pcbs place away := by simp [tcpRecv, tcpArg, away]
  expected := by
    have first : tcpStateTransitionAllowed ((net.socketClear id).sockets id).state .allocated =
        true := by
      simp [unused]
      rfl
    have second : tcpStateTransitionAllowed ((((net.socketClear id).socketSetState id
        .allocated).setSocket id fun socket =>
          { socket with sockTpcb := some newpcb }).sockets id).state .connected = true := by
      simp
      rfl
    rw [tcpRecv, tcpArg, setPcb_unexpected, setPcb_unexpected,
      socketSetState_unexpected _ _ _ second, setSocket_unexpected,
      socketSetState_unexpected _ _ _ first, socketClear_unexpected]

/-- The accept callback refuses at once, or wires a free slot and queues it unless the
backlog is full. -/
theorem tcpSocketAcceptCb_cases {newpcb : Nat} {arg : Option SocketId} {err : Option Err}
    {next : Net} {answer : Option Err}
    (made : net.pcbs newpcb = some ⟨none, false, false, false⟩)
    (ran : net.tcpSocketAcceptCb arg newpcb err = (next, answer)) :
    (next = net ∧ answer ≠ none) ∨ ∃ listener id wired, arg = some listener ∧
      net.freeSocket = some id ∧ (net.sockets listener).state = .listening ∧
      Wires net wired id newpcb ∧
      ((next = (wired.socketDetachPcb (some newpcb)).socketRelease id ∧ answer ≠ none) ∨
        ∃ queue, (wired.sockets listener).acceptQueue.push id = some queue ∧ answer = none ∧
          next = wired.setSocket listener fun socket => { socket with acceptQueue := queue }) := by
  unfold tcpSocketAcceptCb at ran
  split at ran
  · cases ran
    exact .inl ⟨rfl, nofun⟩
  rename_i listener
  split at ran
  · cases ran
    exact .inl ⟨rfl, nofun⟩
  rename_i allowed
  split at ran
  · cases ran
    exact .inl ⟨rfl, nofun⟩
  unfold socketAllocate at ran
  cases free : net.freeSocket with
  | none =>
      rw [free] at ran
      cases ran
      exact .inl ⟨rfl, nofun⟩
  | some id =>
      rw [free] at ran
      dsimp only at ran
      have listens : (net.sockets listener).state = .listening := by
        simpa [tcpAcceptAllowed] using allowed
      have wires := @Wires.of_free _ id _ made (freeSocket_unallocated free)
      generalize Net.tcpRecv _ (some newpcb) true = wired at wires ran
      refine .inr ⟨listener, id, wired, rfl, rfl, listens, wires, ?_⟩
      split at ran
      · cases ran
        exact .inl ⟨rfl, nofun⟩
      · rename_i queue pushed
        cases ran
        exact .inr ⟨queue, pushed, rfl, rfl⟩

/-- The backlog is full: the slot is free again and the PCB nobody's. -/
theorem Own.unqueued (own : Own kept net) {wired : Net} {newpcb : Nat}
    (wires : Wires net wired id newpcb) (made : net.pcbs newpcb = some ⟨none, false, false, false⟩)
    (unused : (net.sockets id).state = .unallocated) :
    Own kept ((wired.socketDetachPcb (some newpcb)).socketRelease id) ∧
      (((wired.socketDetachPcb (some newpcb)).socketRelease id).pcbs newpcb).bind (·.arg) =
        none := by
  obtain ⟨idle, empty, bare⟩ := own.unallocated unused
  have detached : (wired.socketDetachPcb (some newpcb)).pcbs newpcb =
      some ⟨none, false, false, false⟩ := by
    simp [socketDetachPcb, tcpArg, tcpRecv, wires.wiredPcb]
  have same : ((wired.socketDetachPcb (some newpcb)).socketRelease id).pcbs = net.pcbs := by
    funext place
    rw [socketRelease_pcbs]
    by_cases new : place = newpcb
    · rw [new, detached, made]
    · simp [socketDetachPcb, tcpArg, tcpRecv, new, wires.pcbs place new]
  refine ⟨?_, by rw [same, made]; rfl⟩
  refine own.update id (fun other away => ?_) (fun other away => ?_)
    (fun place other away arg => congrFun same place) (.inl ?_)
    (fun some => absurd (by simp [Net.backlog]) some) ?_ ⟨?_, ?_, ?_, ?_, ?_, ?_, ?_⟩
  · simp [socketDetachPcb, tcpArg, tcpRecv, away, wires.sockets other away]
  · simp [socketDetachPcb, tcpArg, tcpRecv, away, wires.refcount other]
  · rw [empty]
    simp [Net.backlog]
  · rw [socketRelease_unexpected]
    · simp [socketDetachPcb, tcpArg, tcpRecv, wires.expected]
    · simp [socketDetachPcb, tcpArg, tcpRecv, wires.state]
      rfl
  · simp
  · simp
  · intro place pcb found arg
    rw [same] at found
    exact absurd arg (bare place pcb found)
  · simp
  · simp
  · simp
  · exact fun pending => absurd pending idle

/-- The entries of the backlogs once the new slot is queued. -/
theorem Own.queued_backlog (own : Own kept net) {wired : Net} {newpcb : Nat}
    {listener : SocketId} {queue : RingQueue MAX_LISTEN_BACKLOG SocketId}
    (wires : Wires net wired id newpcb) (unused : (net.sockets id).state = .unallocated)
    (listens : (net.sockets listener).state = .listening)
    (pushed : (wired.sockets listener).acceptQueue.push id = some queue) (other : SocketId) :
    (wired.setSocket listener fun socket => { socket with acceptQueue := queue }).backlog other =
      if other = listener then net.backlog listener ++ [id] else net.backlog other := by
  have differs : listener ≠ id := by
    intro same
    rw [same, unused] at listens
    cases listens
  by_cases same : other = listener
  · rw [if_pos same, same, Net.backlog, setSocket_sockets, if_pos rfl,
      RingQueue.entries_push pushed, wires.sockets listener differs, Net.backlog]
  · rw [if_neg same, Net.backlog, setSocket_sockets, if_neg same]
    by_cases mine : other = id
    · rw [mine, (own.unallocated unused).2.1]
      exact wires.cleared
    · rw [wires.sockets other mine, Net.backlog]

/-- The backlog takes the slot, which has no reference yet. -/
theorem Own.queued (own : Own kept net) {wired : Net} {newpcb : Nat} {listener : SocketId}
    {queue : RingQueue MAX_LISTEN_BACKLOG SocketId}
    (wires : Wires net wired id newpcb) (made : net.pcbs newpcb = some ⟨none, false, false, false⟩)
    (unused : (net.sockets id).state = .unallocated)
    (listens : (net.sockets listener).state = .listening)
    (pushed : (wired.sockets listener).acceptQueue.push id = some queue) :
    Own kept (wired.setSocket listener fun socket => { socket with acceptQueue := queue }) := by
  obtain ⟨idle, empty, bare⟩ := own.unallocated unused
  have differs : listener ≠ id := by
    intro same
    rw [same, unused] at listens
    cases listens
  have backlogs := own.queued_backlog wires unused listens pushed
  generalize result : (wired.setSocket listener fun socket =>
    { socket with acceptQueue := queue }) = next at backlogs
  have member : ∀ other slot, slot ∈ next.backlog other ↔
      slot ∈ net.backlog other ∨ other = listener ∧ slot = id := by
    intro other slot
    rw [backlogs]
    by_cases same : other = listener <;> simp [same]
  have state : ∀ other, other ≠ id → (next.sockets other).state = (net.sockets other).state := by
    intro other away
    by_cases same : other = listener
    · simp [← result, same, wires.sockets listener differs]
    · simp [← result, same, wires.sockets other away]
  have sockTpcb : ∀ other, other ≠ id →
      (next.sockets other).sockTpcb = (net.sockets other).sockTpcb := by
    intro other away
    by_cases same : other = listener
    · simp [← result, same, wires.sockets listener differs]
    · simp [← result, same, wires.sockets other away]
  have ownState : (next.sockets id).state = .connected := by
    simp [← result, differs.symm, wires.state]
  have ownPcb : (next.sockets id).sockTpcb = some newpcb := by
    simp [← result, differs.symm, wires.owns]
  have ownRefs : next.refcount id = 0 := by
    simp [← result, wires.refcount id]
  have pcbs : next.pcbs = wired.pcbs := by simp [← result]
  refine ⟨fun other => ?_, ?_, ?_, ?_, ?_⟩
  · by_cases same : other = id
    · subst same
      refine ⟨?_, ?_, ?_, ?_, ?_, ?_, ?_⟩
      · intro _ _ _
        exact ⟨newpcb, _, ownPcb, by rw [pcbs, wires.wiredPcb], rfl⟩
      · simp [ownState]
      · intro place pcb found arg
        rw [pcbs] at found
        by_cases new : place = newpcb
        · rw [new, wires.wiredPcb] at found
          cases found
          rw [ownPcb, new, ownState]
          exact ⟨rfl, ⟨⟨by simp, by simp, by simp⟩, by simp⟩⟩
        · rw [wires.pcbs place new] at found
          exact absurd arg (bare place pcb found)
      · simp [ownState]
      · rw [ownRefs]
      · exact fun _ _ _ => .inr ⟨listener, (member listener other).mpr (.inr ⟨rfl, rfl⟩)⟩
      · exact fun _ => ⟨ownRefs, .inl ownState⟩
    · refine (own.slots other).congr (state other same) (sockTpcb other same) ?_ ?_ ?_ ?_
      · simp [← result, wires.refcount other, same]
      · intro place arg
        rw [pcbs] at arg ⊢
        by_cases new : place = newpcb
        · rw [new, made, wires.wiredPcb] at arg
          simp at arg
          exact absurd arg.symm same
        · exact wires.pcbs place new
      · rintro ⟨place, queued⟩
        rcases (member place other).mp queued with queued | ⟨_, new⟩
        · exact ⟨place, queued⟩
        · exact absurd new same
      · rintro _ ⟨place, queued⟩
        exact ⟨place, (member place other).mpr (.inl queued)⟩
  · intro other some
    by_cases same : other = listener
    · rw [same, state listener differs]
      exact .inl listens
    · rw [backlogs, if_neg same] at some
      rw [state other fun mine => some (mine ▸ empty)]
      exact own.listening other some
  · intro other
    rw [backlogs]
    split
    · rw [List.nodup_append]
      refine ⟨own.once listener, List.nodup_singleton id, ?_⟩
      intro slot queued last mine equal
      rw [List.mem_singleton.mp mine] at equal
      exact idle ⟨listener, equal ▸ queued⟩
    · exact own.once other
  · intro left right slot inLeft inRight
    rcases (member left slot).mp inLeft with inLeft | ⟨isLeft, mine⟩ <;>
      rcases (member right slot).mp inRight with inRight | ⟨isRight, also⟩
    · exact own.apart left right slot inLeft inRight
    · exact absurd ⟨left, also ▸ inLeft⟩ idle
    · exact absurd ⟨right, mine ▸ inRight⟩ idle
    · rw [isLeft, isRight]
  · rw [← result, setSocket_unexpected, wires.expected]
    exact own.expected

/-- lwIP has made a PCB for a connection, which is nobody's yet. -/
theorem Own.made (own : Own kept net) {newpcb : Nat} (fresh : net.pcbs newpcb = none) :
    Own kept (net.newPcb newpcb ⟨none, false, false, false⟩) := by
  refine own.detached (by simp) (by simp) (fun place => ?_) (by simp)
  by_cases same : place = newpcb
  · exact .inr (by simp [same, fresh])
  · exact .inl (by simp [same])

/-- A connection is wired to a free slot and queued, or refused with nothing left of it. -/
theorem Own.incoming (own : Own kept net) {newpcb : Nat} (fresh : net.pcbs newpcb = none)
    {arg : Option SocketId} {err : Option Err} {next : Net} {answer : Option Err}
    (ran : (net.newPcb newpcb ⟨none, false, false, false⟩).tcpSocketAcceptCb arg newpcb err =
      (next, answer)) :
    Own kept (if answer = none then next else next.tcpAbort (some newpcb)) := by
  have made := own.made fresh
  have unattached : (net.newPcb newpcb ⟨none, false, false, false⟩).pcbs newpcb =
      some ⟨none, false, false, false⟩ := by simp
  have aborted {last : Net} (ok : Own kept last)
      (none : (last.pcbs newpcb).bind (·.arg) = none) : Own kept (last.tcpAbort (some newpcb)) := by
    refine ok.detached ?_ ?_ (fun place => ?_) ?_
    · simp [tcpAbort, none, socketErrFunc]
    · simp [tcpAbort, none, socketErrFunc]
    · by_cases same : place = newpcb
      · exact .inr ⟨by rw [same, none], by simp [tcpAbort, none, socketErrFunc, same]⟩
      · exact .inl (by simp [tcpAbort, none, socketErrFunc, same])
    · simp [tcpAbort, none, socketErrFunc]
  rcases tcpSocketAcceptCb_cases unattached ran with ⟨rfl, refused⟩ |
    ⟨listener, id, wired, _, free, listens, wires, ⟨rfl, refused⟩ | ⟨queue, pushed, accepted, rfl⟩⟩
  · rw [if_neg refused]
    exact aborted made (by rw [unattached]; rfl)
  · rw [if_neg refused]
    obtain ⟨released, none⟩ := made.unqueued wires unattached (freeSocket_unallocated free)
    exact aborted released none
  · rw [if_pos accepted]
    exact made.queued wires unattached (freeSocket_unallocated free) listens pushed

/-- The PCB of a slot that is not queued, closed and detached, and the slot released. -/
theorem Own.closeRelease (own : Own kept net) (refs : Int)
    (opened : (net.sockets id).state ≠ .closing)
    (allowed : tcpStateTransitionAllowed (net.sockets id).state .unallocated = true)
    (idle : ¬ net.Pending id) (empty : kept → net.backlog id = []) (answer : Closed) :
    Own kept (((net.setRefs id refs).socketClosePcb (net.sockets id).sockTpcb
      answer).socketRelease id) := by
  have reaches : ∀ place, (net.sockets id).sockTpcb = some place →
      (net.pcbs place).bind (·.arg) = some id := by
    intro place owns
    obtain ⟨pcb, found, arg, _⟩ := own.arg_of_owns owns fun closing => absurd closing opened
    rw [found]
    exact arg
  cases owns : (net.sockets id).sockTpcb with
  | none =>
      refine own.release ?_ ?_ ?_ reaches ?_ ?_ allowed idle empty
      · rfl
      · exact fun other away => by
          simp [socketClosePcb, socketDetachPcb, tcpArg, tcpRecv, tcpClose, tcpAbort, away]
      · exact fun place away => rfl
      · intro place mine
        rw [owns] at mine
        cases mine
      · rfl
  | some address =>
      obtain ⟨sockets, refcount, pcbs, gone, expected⟩ :=
        socketClosePcb_spec (net.setRefs id refs) address answer
      refine own.release sockets ?_ ?_ reaches ?_ expected allowed idle empty
      · exact fun other away => by simp [refcount, away]
      · intro place away
        refine pcbs place fun same => ?_
        rw [same] at away
        exact away owns
      · intro place mine
        rw [owns] at mine
        cases mine
        exact gone

theorem Net.setRefs_of_eq {refs : Int} (same : net.refcount id = refs) :
    net.setRefs id refs = net := by
  rw [Net.setRefs, ← same, Function.update_eq_self]

/-- A queued connection that has left the backlog is closed and its slot released. -/
theorem Own.dropPending (own : Own kept net) (idle : ¬ net.Pending id)
    (waited : (net.sockets id).state = .connected ∨ (net.sockets id).state = .closedByPeer ∨
      (net.sockets id).state = .error) (lost : ¬ kept) (answer : Nat → Closed) :
    Own kept (net.dropPending id answer) := by
  have closed := own.closeRelease (net.refcount id)
    (by rcases waited with state | state | state <;> simp [state])
    (by rcases waited with state | state | state <;> rw [state] <;> rfl) idle
    (fun keeps => absurd keeps lost) (((net.sockets id).sockTpcb.map answer).getD .pending)
  rw [setRefs_of_eq rfl] at closed
  unfold Net.dropPending
  cases owns : (net.sockets id).sockTpcb with
  | none =>
      rw [owns] at closed
      exact closed
  | some address =>
      rw [owns] at closed
      exact closed

/-- One turn of the drain: the oldest connection leaves the backlog and its slot is
released. -/
theorem Own.dropNext (own : Own kept net) {listener slot : SocketId}
    {queue : RingQueue MAX_LISTEN_BACKLOG SocketId} (lost : ¬ kept)
    (listens : (net.sockets listener).state = .listening)
    (popped : (net.sockets listener).acceptQueue.pop = some (slot, queue))
    (answer : Nat → Closed) {next : Net}
    (dropped : (net.setSocket listener fun socket =>
      { socket with acceptQueue := queue }).dropPending slot answer = next) :
    Own kept next ∧ next.backlog listener = queue.entries ∧
      (next.sockets listener).state = .listening ∧
      (next.sockets listener).sockTpcb = (net.sockets listener).sockTpcb ∧
      next.refcount = net.refcount ∧ slot ≠ listener ∧
      (next.sockets slot).state = .unallocated ∧
      ∀ other, other ≠ listener → other ≠ slot → next.sockets other = net.sockets other := by
  have entries : net.backlog listener = slot :: queue.entries := RingQueue.entries_pop popped
  have waits := (own.slots slot).waiting ⟨listener, by simp [entries]⟩
  have differs : slot ≠ listener := by
    intro same
    rw [same, listens] at waits
    simp at waits
  have taken := own.pop popped (Int.le_refl 0) fun keeps => absurd keeps lost
  have idle : ¬ (net.setSocket listener fun socket =>
      { socket with acceptQueue := queue }).Pending slot :=
    fun pending => ((own.pop_pending popped slot).mp pending).2 rfl
  generalize result : (net.setSocket listener fun socket =>
    { socket with acceptQueue := queue }) = middle at taken idle dropped
  have unreferenced : middle.refcount slot = 0 := by
    rw [← result]
    exact waits.1
  rw [setRefs_of_eq unreferenced] at taken
  have state : (middle.sockets slot).state = (net.sockets slot).state := by
    simp [← result, differs]
  have released := taken.dropPending idle (by rw [state]; exact waits.2) lost answer
  obtain ⟨others, refcount, _, _, _, free⟩ := middle.dropPending_spec slot answer
  have zero := middle.dropPending_refcount slot answer
  rw [dropped] at released others refcount free zero
  have mine := others listener differs.symm
  refine ⟨released, ?_, ?_, ?_, ?_, differs, free, fun other away out => ?_⟩
  · rw [Net.backlog, mine, ← result]
    simp
  · rw [mine, ← result]
    simpa using listens
  · rw [mine, ← result]
    simp
  · funext other
    by_cases same : other = slot
    · rw [same, waits.1, zero]
    · rw [refcount other same, ← result]
      rfl
  · rw [others other out, ← result]
    simp [away]

/-- Draining a backlog releases all of its slots and touches neither its listener nor
another slot. -/
theorem Own.drain (own : Own kept net) {listener : SocketId} (lost : ¬ kept)
    (listens : (net.sockets listener).state = .listening) (answer : Nat → Closed) (fuel : Nat)
    (enough : (net.backlog listener).length ≤ fuel) {after : Net}
    (drained : net.socketDrainBacklog listener answer fuel = after) :
    Own kept after ∧ after.backlog listener = [] ∧
      (after.sockets listener).state = .listening ∧
      (after.sockets listener).sockTpcb = (net.sockets listener).sockTpcb ∧
      after.refcount = net.refcount ∧
      (∀ other ∈ net.backlog listener, (after.sockets other).state = .unallocated) ∧
      ∀ other, other ≠ listener → other ∉ net.backlog listener →
        after.sockets other = net.sockets other := by
  induction fuel generalizing net with
  | zero =>
      have none := List.length_eq_zero_iff.mp (Nat.le_zero.mp enough)
      cases drained
      refine ⟨own, none, listens, rfl, rfl, ?_, fun _ _ _ => rfl⟩
      rw [none]
      simp
  | succ fuel ih =>
      unfold socketDrainBacklog at drained
      split at drained
      · rename_i popped
        have none : net.backlog listener = [] := RingQueue.isEmpty_of_pop_eq_none popped
        cases drained
        refine ⟨own, none, listens, rfl, rfl, ?_, fun _ _ _ => rfl⟩
        rw [none]
        simp
      · rename_i slot queue popped
        have entries : net.backlog listener = slot :: queue.entries := RingQueue.entries_pop popped
        have once := own.once listener
        rw [entries, List.nodup_cons] at once
        obtain ⟨released, rest, stays, owned, zero, differs, free, others⟩ :=
          own.dropNext lost listens popped answer rfl
        generalize Net.dropPending _ slot answer = next at *
        obtain ⟨last, empty, listens', owns, refs, freed, elsewhere⟩ := ih released stays
          (by rw [rest]; rw [entries] at enough; simpa using enough) drained
        rw [rest] at freed elsewhere
        refine ⟨last, empty, listens', owns.trans owned, refs.trans zero, fun other member => ?_,
          fun other away out => ?_⟩
        · rw [entries, List.mem_cons] at member
          rcases member with rfl | member
          · rw [elsewhere other differs once.1, free]
          · exact freed other member
        · rw [entries, List.mem_cons, not_or] at out
          rw [elsewhere other away out.2, others other away out.1]

/-- A reference is dropped where the holders are not kept. -/
theorem Own.unref (own : Own kept net) (lost : ¬ kept) : Own kept (net.setRefs id 0) := by
  have ok := own.slots id
  exact own.update id (fun other away => rfl) (fun other away => by simp [away])
    (fun address other away some => rfl) (.inl rfl) (own.listening id) rfl
    ⟨ok.owned, ok.bare, ok.attached, fun _ => by simp, by simp, fun keeps => absurd keeps lost,
      fun pending => ⟨by simp, (ok.waiting pending).2⟩⟩

/-- A slot begins to close and loses its PCB at once, so that nothing returns it. -/
theorem Own.closed (own : Own kept net) {address : Nat} {pcb : Pcb} (lost : ¬ kept)
    (owns : (net.sockets id).sockTpcb = some address) (found : net.pcbs address = some pcb)
    (arg : pcb.arg = some id)
    (allowed : tcpStateTransitionAllowed (net.sockets id).state .closing = true)
    (unreferenced : net.refcount id = 0) (idle : ¬ net.Pending id) (empty : net.backlog id = []) :
    Own kept ((net.socketSetState id .closing).freePcb address) := by
  have ok := own.slots id
  refine own.update id (fun other away => by simp [away]) (fun other away => by simp)
    (apart_of_reaches (by rw [found]; exact arg) (fun place away => by simp [away]) (by simp))
    (.inl (by simp [Net.backlog])) (fun some => absurd empty (by simpa [Net.backlog] using some))
    (net.socketSetState_unexpected id _ allowed) ⟨?_, ?_, ?_, ?_, ?_, ?_, ?_⟩
  · simp [lost]
  · simp
  · intro place other found' arg'
    simp only [socketSetState_pcbs, freePcb_pcbs] at found'
    split at found'
    · cases found'
    · rename_i away
      have mine := (ok.attached place other found' arg').1
      rw [owns] at mine
      exact absurd (Option.some.inj mine).symm away
  · simp [unreferenced]
  · simp [unreferenced]
  · exact fun keeps => absurd keeps lost
  · exact fun pending => absurd pending idle

theorem backlog_length (listener : SocketId) :
    (net.backlog listener).length ≤ MAX_LISTEN_BACKLOG := by
  have bound : (net.sockets listener).acceptQueue.length < MAX_LISTEN_BACKLOG :=
    Nat.mod_lt _ (by decide)
  simp only [Net.backlog, RingQueue.entries, List.length_map, List.length_range]
  exact Nat.le_of_lt bound

/-- The teardown of a listening slot drains its backlog and frees its PCB. -/
theorem Own.closeListening (own : Own kept net) (lost : ¬ kept)
    (state : (net.sockets id).state = .listening) (answer : Nat → Closed) :
    ∃ after address pcb, Own kept after ∧
      after = net.socketDrainBacklog id answer MAX_LISTEN_BACKLOG ∧
      after.backlog id = [] ∧ (after.sockets id).state = .listening ∧
      (after.sockets id).sockTpcb = some address ∧ after.pcbs address = some pcb ∧
      pcb.arg = some id ∧ after.refcount = net.refcount ∧ ¬ after.Pending id ∧
      (∀ other ∈ net.backlog id, (after.sockets other).state = .unallocated) ∧
      (∀ other, other ≠ id → other ∉ net.backlog id → after.sockets other = net.sockets other) ∧
      (net.tcpSocketCloseInt id answer).1 = (after.socketSetState id .closing).freePcb address := by
  obtain ⟨drained, empty, listens, owns, refcount, freed, elsewhere⟩ :=
    own.drain lost state answer MAX_LISTEN_BACKLOG (backlog_length id) rfl
  obtain ⟨address, pcb, owns', found, arg⟩ := (drained.slots id).owned (by simp [listens])
    (by simp [listens]) (by simp [listens])
  have attached := ((drained.slots id).attached address pcb found arg).2
  rw [listens] at attached
  refine ⟨_, address, pcb, drained, rfl, empty, listens, owns', found, arg, refcount, ?_,
    freed, elsewhere, ?_⟩
  · intro pending
    have waits := (drained.slots id).waiting pending
    simp [listens] at waits
  · unfold tcpSocketCloseInt
    simp only [state, if_true, tcpCloseAction]
    rw [← owns, owns']
    unfold tcpClose
    simp only [socketSetState_pcbs, found, Option.any_some, attached.listening.mpr rfl, if_true]

/-- The teardown of a slot that no reference holds keeps the holders unless the slot
listens, or lwIP frees at once a PCB that it waits for. -/
theorem Own.closeInt (own : Own kept net) (idle : ¬ net.Pending id)
    (used : (net.sockets id).state ≠ .unallocated) (answer : Nat → Closed)
    (keeps : kept → (net.sockets id).state ≠ .listening ∧
      ((net.sockets id).state = .connected → ∀ address,
        (net.sockets id).sockTpcb = some address → answer address ≠ .freed)) :
    Own kept ((net.setRefs id 0).tcpSocketCloseInt id answer).1 := by
  have ok := own.slots id
  by_cases listening : (net.sockets id).state = .listening
  · have lost : ¬ kept := fun keeping => (keeps keeping).1 listening
    obtain ⟨after, address, pcb, drained, _, empty, listens, owns, found, arg, refcount, idle, _,
      _, closed⟩ := (@Own.unref kept net id own lost).closeListening lost listening answer
    rw [closed]
    exact drained.closed lost owns found arg (by rw [listens]; rfl) (by rw [refcount]; simp) idle
      empty
  have idleClose (answered : Closed) (opened : (net.sockets id).state ≠ .closing)
      (allowed : tcpStateTransitionAllowed (net.sockets id).state .unallocated = true)
      (empty : kept → net.backlog id = []) :
      Own kept ((if (net.sockets id).sockTpcb = none then net.setRefs id 0
        else (net.setRefs id 0).socketClosePcb (net.sockets id).sockTpcb
          answered).socketRelease id) := by
    have closed := own.closeRelease 0 opened allowed idle empty answered
    cases owns : (net.sockets id).sockTpcb with
    | none =>
        rw [owns] at closed
        exact closed
    | some address =>
        rw [owns] at closed
        exact closed
  unfold tcpSocketCloseInt
  simp only [setRefs_sockets]
  obtain ⟨current, state⟩ : ∃ current, (net.sockets id).state = current := ⟨_, rfl⟩
  simp only [state]
  cases current with
  | unallocated => exact absurd state used
  | closing =>
      simp only [tcpCloseAction, setRefs_of_eq (ok.unused (.inr state))]
      exact own
  | allocated =>
      exact idleClose _ (by simp [state]) (by rw [state]; rfl) fun _ =>
        own.empty (by simp [state]) (by simp [state])
  | bound =>
      exact idleClose _ (by simp [state]) (by rw [state]; rfl) fun _ =>
        own.empty (by simp [state]) (by simp [state])
  | error =>
      refine idleClose _ (by simp [state]) (by rw [state]; rfl) fun keeping => ?_
      by_contra some
      rcases own.listening id some with listens | ⟨lost, _⟩
      · simp [state] at listens
      · exact lost keeping
  | closedByPeer =>
      exact own.closeRelease _ (by simp [state]) (by rw [state]; rfl) idle
        (fun _ => own.empty (by simp [state]) (by simp [state])) _
  | connecting =>
      obtain ⟨address, pcb, owns, found, arg⟩ :=
        ok.owned (by simp [state]) (by simp [state]) (by simp [state])
      simp only [tcpCloseAction, owns]
      have gone : (((net.setRefs id 0).tcpArg (some address) none).pcbs address).bind
          (·.arg) = none := by simp [tcpArg, found]
      have aborted : ((net.setRefs id 0).tcpArg (some address) none).tcpAbort (some address) =
          ((net.setRefs id 0).tcpArg (some address) none).freePcb address := by
        simp only [tcpAbort, gone, socketErrFunc]
      rw [aborted]
      refine own.release ?_ ?_ ?_ ?_ ?_ ?_ (by rw [state]; rfl) idle
        fun _ => own.empty (by simp [state]) (by simp [state])
      · simp [tcpArg]
      · exact fun other away => by simp [tcpArg, away]
      · intro place away
        rw [owns] at away
        have differs : place ≠ address := fun same => away (congrArg some same).symm
        simp [tcpArg, differs]
      · intro place mine
        rw [owns] at mine
        cases mine
        rw [found]
        exact arg
      · intro place mine
        rw [owns] at mine
        cases mine
        simp
      · simp [tcpArg]
  | listening => exact absurd state listening
  | connected =>
      obtain ⟨address, pcb, owns, found, arg⟩ :=
        ok.owned (by simp [state]) (by simp [state]) (by simp [state])
      have fits := (ok.attached address pcb found arg).2
      have plain : pcb.listening = false := by
        simpa [state] using fits.listening
      have empty : net.backlog id = [] := own.empty (by simp [state]) (by simp [state])
      have closing : Own kept ((net.setRefs id 0).socketSetState id .closing) := by
        refine own.update id (fun other away => by simp [away]) (fun other away => by simp [away])
          (fun place other away arg => by simp) (.inl (by simp [Net.backlog]))
          (fun some => absurd empty (by simpa [Net.backlog] using some)) ?_
          ⟨?_, ?_, ?_, ?_, ?_, ?_, ?_⟩
        · rw [socketSetState_unexpected, setRefs_unexpected]
          rw [setRefs_sockets, state]
          rfl
        · intro _ _ _
          exact ⟨address, pcb, by simpa using owns, by simpa using found, arg⟩
        · simp
        · intro place other found' arg'
          simp only [socketSetState_pcbs, setRefs_pcbs] at found'
          obtain ⟨owns', fits'⟩ := ok.attached place other found' arg'
          rw [state] at fits'
          refine ⟨by simpa using owns', ⟨⟨fun _ => fits'.receives (.inl rfl), ?_, ?_⟩, by simp⟩⟩
          · simpa using fits'.listening
          · exact fun connecting => by cases fits'.connecting connecting
        · simp
        · simp
        · simp
        · exact fun pending => absurd pending idle
      simp only [tcpCloseAction, reduceCtorEq, if_false, owns, Option.map_some, Option.getD_some]
      unfold tcpClose
      simp only [socketSetState_pcbs, setRefs_pcbs, found, Option.any_some, plain,
        Bool.false_eq_true, if_false]
      cases answered : answer address with
      | refused err => exact closing
      | pending => exact closing
      | freed =>
          have lost : ¬ kept := fun keeping => (keeps keeping).2 state address owns answered
          exact (own.unref lost).closed lost owns found arg
            (by rw [setRefs_sockets, state]; rfl) (by simp) idle empty

/-- A slot that the application may close waits in no backlog. -/
theorem not_pending_of_unseen {index : Int} (unseen : net.unseen index = false)
    (found : socketLookup index = some id) : ¬ net.Pending id := by
  rintro ⟨listener, queued⟩
  have seen : net.unseen index = true := by
    simp only [Net.unseen, found, List.any_eq_true, decide_eq_true_eq]
    exact ⟨listener, List.mem_finRange _, queued⟩
  rw [seen] at unseen
  cases unseen

/-- A close keeps the holders unless it takes the last reference of a listening slot, or
lwIP frees at once a PCB that the slot waits for. -/
theorem Own.close (own : Own kept net) (index : Int) (answer : Nat → Closed)
    (unseen : net.unseen index = false)
    (keeps : kept → ∀ id, socketLookup index = some id → net.refcount id = 1 →
      (net.sockets id).state ≠ .listening ∧
        ((net.sockets id).state = .connected → ∀ address,
          (net.sockets id).sockTpcb = some address → answer address ≠ .freed)) :
    Own kept (net.tcpSocketClose index answer).1 := by
  unfold tcpSocketClose
  split
  · exact own
  rename_i id found
  have ok := own.slots id
  have idle : ¬ net.Pending id := not_pending_of_unseen unseen found
  have counted := ok.counted
  unfold tcpRefRelease
  by_cases none : net.refcount id ≤ 0
  · rw [if_pos none]
    dsimp only
    split
    · exact own
    · rename_i used
      have zero : net.refcount id = 0 := by omega
      have torn := own.closeInt idle used answer
      rw [setRefs_of_eq zero] at torn
      refine torn fun keeping => ?_
      have closing : (net.sockets id).state = .closing := by
        by_contra opened
        rcases ok.held keeping used opened with held | pending
        · omega
        · exact idle pending
      exact ⟨by simp [closing], by simp [closing]⟩
  rw [if_neg none]
  by_cases last : net.refcount id - 1 = 0
  · rw [if_pos last, last]
    refine own.closeInt idle ?_ answer fun keeping => keeps keeping id found (by omega)
    intro state
    have zero := ok.unused (.inl state)
    omega
  · rw [if_neg last]
    refine own.update id (fun other away => rfl) (fun other away => by simp [away])
      (fun place other away arg => rfl) (.inl rfl) (own.listening id) rfl
      ⟨ok.owned, ok.bare, ok.attached, ?_, ?_, ?_, ?_⟩
    · intro unused
      have zero := ok.unused unused
      omega
    · simp only [setRefs_refcount, if_true]
      omega
    · intro _ _ _
      simp only [setRefs_refcount, if_true]
      omega
    · exact fun pending => absurd pending idle

/-- What one step preserves. -/
theorem Own.step {next : Net} (own : Own kept net) {event : Event}
    (ran : net.step event = some next) (keeps : kept → net.KeepsHolders event) : Own kept next := by
  cases event with
  | socket tpcb =>
      simp only [Net.step] at ran
      split at ran
      · rename_i fresh
        cases ran
        exact own.socket fresh
      · cases ran
  | bind index available answer =>
      cases ran
      exact own.bind index available answer
  | connect index answer =>
      cases ran
      exact own.connect index answer
  | listen index answer =>
      simp only [Net.step] at ran
      split at ran
      · rename_i fresh
        cases ran
        exact own.listen index fresh
      · cases ran
  | accept index nonblock =>
      cases ran
      exact own.accept index nonblock
  | acceptWoken listener =>
      cases ran
      exact own.acceptPending listener
  | dup index =>
      cases ran
      exact own.dup index
  | close index answer =>
      simp only [Net.step] at ran
      split at ran
      · cases ran
      · rename_i unseen
        cases ran
        exact own.close index answer (Bool.eq_false_iff.mpr unseen) keeps
  | recv index len nonblock =>
      cases ran
      exact own.recv index len nonblock
  | connected address =>
      simp only [Net.step] at ran
      obtain ⟨pcb, found, ran⟩ := Option.bind_eq_some_iff.mp ran
      split at ran
      · rename_i pendingConnect
        cases ran
        exact own.connected found pendingConnect
      · cases ran
  | received address p =>
      simp only [Net.step] at ran
      obtain ⟨pcb, found, ran⟩ := Option.bind_eq_some_iff.mp ran
      obtain ⟨id, arg, ran⟩ := Option.bind_eq_some_iff.mp ran
      split at ran
      · cases ran
        exact own.received found arg p
      · cases ran
  | failed address err =>
      simp only [Net.step] at ran
      obtain ⟨pcb, found, ran⟩ := Option.bind_eq_some_iff.mp ran
      cases ran
      exact own.failed found (fun keeping => keeps keeping pcb found) err
  | incoming address newpcb err =>
      simp only [Net.step] at ran
      obtain ⟨pcb, found, ran⟩ := Option.bind_eq_some_iff.mp ran
      split at ran
      · rename_i guard
        have fresh : net.pcbs newpcb = none := by
          simpa [Net.fresh] using (Bool.and_eq_true_iff.mp guard).2
        split at ran
        · rename_i called
          cases ran
          exact own.incoming fresh called
        · rename_i called
          cases ran
          exact own.incoming fresh called
      · cases ran

end Steps

end Chrysopolis.Tcp
