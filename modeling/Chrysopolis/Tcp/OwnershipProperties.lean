import Chrysopolis.Tcp.Ownership
import Chrysopolis.Tcp.SlotProperties

/-! The ownership of the socket slots over whole runs: each queued connection leaves its
backlog once, to an accept or to the drain, and each last reference is torn down once. -/

set_option autoImplicit false

namespace Chrysopolis.Tcp

open Chrysopolis.Support Net

variable {net next : Net} {id : SocketId}

/-! ## The slots that wait -/

theorem mem_waiting : id ∈ net.waiting ↔ net.Pending id := by
  simp [Net.waiting, Net.Pending, List.mem_finRange]

theorem Own.waiting_nodup {kept : Prop} (own : Own kept net) : net.waiting.Nodup := by
  refine List.nodup_flatMap.mpr ⟨fun listener _ => own.once listener, ?_⟩
  refine (List.nodup_finRange MAX_SOCKETS).imp ?_
  intro left right differs slot inLeft inRight
  exact differs (own.apart left right slot inLeft inRight)

theorem waiting_count (once : net.waiting.Nodup) (id : SocketId) :
    (net.waiting.count id = 1 ∧ net.Pending id) ∨
      (net.waiting.count id = 0 ∧ ¬ net.Pending id) := by
  by_cases pending : net.Pending id
  · exact .inl ⟨List.count_eq_one_of_mem once (mem_waiting.mpr pending), pending⟩
  · exact .inr ⟨List.count_eq_zero.mpr (mt mem_waiting.mp pending), pending⟩

theorem Own.owned {kept : Prop} (own : Own kept net) : net.Owned where
  expected := own.expected
  distinct := own.waiting_nodup
  waiting id member := (own.slots id).waiting (mem_waiting.mp member)
  bare id state := by
    refine ⟨(own.slots id).bare state.symm, fun address pcb found arg => ?_⟩
    obtain ⟨_, used, live, _⟩ := own.live_of_arg found arg
    exact state.elim live used
  counted id := (own.slots id).counted

/-- Only listening slots have a backlog: no listener has failed. -/
def Net.Listens (net : Net) : Prop :=
  ∀ listener, net.backlog listener ≠ [] → (net.sockets listener).state = .listening

theorem Net.Listens.empty (listens : net.Listens)
    (state : (net.sockets id).state ≠ .listening) : net.backlog id = [] := by
  by_contra some
  exact state (listens id some)

/-- A step that moves no queued connection. -/
structure Calm (net next : Net) : Prop where
  backlog : ∀ listener, next.backlog listener = net.backlog listener
  listens : next.Listens
  stays : ∀ id, net.Pending id → (next.sockets id).sockTpcb = (net.sockets id).sockTpcb ∨
    (next.sockets id).state = .error

/-- A step that leaves the states, the PCBs and the queues of the slots. -/
theorem Calm.of_same (listens : net.Listens)
    (state : ∀ id, (next.sockets id).state = (net.sockets id).state)
    (sockTpcb : ∀ id, (next.sockets id).sockTpcb = (net.sockets id).sockTpcb)
    (backlog : ∀ id, next.backlog id = net.backlog id) : Calm net next := by
  refine ⟨backlog, fun listener some => ?_, fun id _ => .inl (sockTpcb id)⟩
  rw [backlog] at some
  rw [state]
  exact listens listener some

theorem Calm.refl (listens : net.Listens) : Calm net net :=
  .of_same listens (fun _ => rfl) (fun _ => rfl) fun _ => rfl

/-- A step that changes one slot, which has no backlog. -/
theorem Calm.of_slot (listens : net.Listens) (id : SocketId)
    (sockets : ∀ other, other ≠ id → next.sockets other = net.sockets other)
    (empty : net.backlog id = []) (stillEmpty : next.backlog id = [])
    (stays : net.Pending id → (next.sockets id).sockTpcb = (net.sockets id).sockTpcb ∨
      (next.sockets id).state = .error) : Calm net next := by
  have backlog : ∀ listener, next.backlog listener = net.backlog listener := by
    intro listener
    by_cases same : listener = id
    · rw [same, empty, stillEmpty]
    · rw [Net.backlog, sockets listener same, Net.backlog]
  refine ⟨backlog, fun listener some => ?_, fun other pending => ?_⟩
  · rw [backlog] at some
    by_cases same : listener = id
    · exact absurd empty (same ▸ some)
    · rw [sockets listener same]
      exact listens listener some
  · by_cases same : other = id
    · rw [same] at pending ⊢
      exact stays pending
    · exact .inl (by rw [sockets other same])

theorem Calm.waiting (calm : Calm net next) : next.waiting = net.waiting := by
  simp only [Net.waiting, funext calm.backlog]

/-! ## The calls and callbacks that move none -/

section Calm

variable {kept : Prop}

theorem calm_socket (own : Own kept net) (listens : net.Listens) (tpcb : Option Nat) :
    Calm net (net.socket tpcb).1 := by
  unfold Net.socket socketAllocate
  cases free : net.freeSocket with
  | none => exact .refl listens
  | some id =>
      obtain ⟨idle, empty, _⟩ := own.unallocated (freeSocket_unallocated free)
      dsimp only
      unfold tcpSocketInit
      rw [if_neg (by simp)]
      cases tpcb with
      | none =>
          dsimp only
          unfold tcpSocketClose
          rw [socketLookup_val]
          simp only [setSocket_refcount, socketSetState_refcount, socketClear_refcount, if_true,
            tcpRefRelease, Int.le_refl, setSocket_sockets, socketSetState_sockets,
            reduceCtorEq, if_false]
          unfold tcpSocketCloseInt
          simp only [setSocket_sockets, socketSetState_sockets, if_true, tcpCloseAction]
          exact .of_slot listens id (fun other away => by simp [away]) empty
            (by simp [Net.backlog]) fun pending => absurd pending idle
      | some address =>
          exact .of_slot listens id (fun other away => by simp [tcpArg, away]) empty
            (by simp [tcpArg, Net.backlog]) fun pending => absurd pending idle

theorem calm_bind (listens : net.Listens) (index : Int) (available : Bool)
    (answer : Option Err) : Calm net (net.tcpSocketBind index available answer).1 := by
  unfold tcpSocketBind
  split
  · exact .refl listens
  rename_i id _
  split
  · exact .refl listens
  rename_i allowed
  split
  · exact .refl listens
  split
  · exact .refl listens
  simp only [tcpBindAllowed, Bool.not_eq_true', decide_eq_false_iff_not, not_not] at allowed
  have empty : net.backlog id = [] := listens.empty (by simp [allowed])
  exact .of_slot listens id (fun other away => by simp [away]) empty
    (by simpa [Net.backlog] using empty) fun _ => .inl (by simp)

theorem calm_connect (listens : net.Listens) (index : Int) (answer : Option Err) :
    Calm net (net.tcpSocketConnect index answer).1 := by
  unfold tcpSocketConnect
  split
  · exact .refl listens
  rename_i id _
  split
  · exact .refl listens
  · exact .refl listens
  · exact .refl listens
  rename_i gate
  split
  · exact .refl listens
  have empty : net.backlog id = [] := by
    refine listens.empty fun state => ?_
    rw [state] at gate
    cases gate
  exact .of_slot listens id (fun other away => by simp [away]) empty
    (by simpa [Net.backlog] using empty) fun _ => .inl (by simp)

theorem calm_listen (own : Own kept net) (listens : net.Listens) (index : Int)
    (answer : Option Nat) : Calm net (net.tcpSocketListen index answer).1 := by
  unfold tcpSocketListen
  split
  · exact .refl listens
  rename_i id _
  split
  · exact .refl listens
  rename_i allowed
  have state : (net.sockets id).state = .allocated ∨ (net.sockets id).state = .bound :=
    Decidable.or_iff_not_imp_left.mpr (by simpa [tcpListenAllowed] using allowed)
  split
  case h_2 => exact .refl listens
  have empty : net.backlog id = [] :=
    listens.empty (by rcases state with state | state <;> simp [state])
  refine .of_slot listens id (fun other away => by simp [away]) empty
    (by simpa [Net.backlog] using empty) fun pending => ?_
  have waits := (own.slots id).waiting pending
  rcases state with state | state <;> simp [state] at waits

theorem calm_dup (listens : net.Listens) (index : Int) :
    Calm net (net.tcpSocketDup index).1 := by
  unfold tcpSocketDup
  split
  · exact .refl listens
  split
  · exact .refl listens
  · exact .of_same listens (fun _ => rfl) (fun _ => rfl) fun _ => rfl

/-- A store to a receive ring. -/
theorem calm_setRing (listens : net.Listens) (id : SocketId) (ring : ReceiveRing → ReceiveRing) :
    Calm net (net.setSocket id fun socket => { socket with rx := ring socket.rx }) := by
  refine .of_same listens (fun other => ?_) (fun other => ?_) fun other => ?_
  all_goals by_cases same : other = id <;> simp [Net.backlog, same]

theorem calm_recv (listens : net.Listens) (index : Int) (len : Nat) (nonblock : Bool) :
    Calm net (net.tcpSocketRecv index len nonblock).1 := by
  unfold tcpSocketRecv
  split
  · exact .refl listens
  rename_i id _
  dsimp only
  split
  case h_5 => exact calm_setRing listens id fun _ => _
  all_goals exact .refl listens

theorem calm_connected (own : Own kept net) (listens : net.Listens) {address : Nat} {pcb : Pcb}
    (found : net.pcbs address = some pcb) (pendingConnect : pcb.connecting = true) :
    Calm net ((net.setPcb (some address) fun pcb =>
      { pcb with connecting := false }).socketConnected pcb.arg address) := by
  cases arg : pcb.arg with
  | none =>
      exact .of_same listens (fun _ => by simp [socketConnected])
        (fun _ => by simp [socketConnected]) fun _ => by simp [socketConnected, Net.backlog]
  | some id =>
      obtain ⟨_, _, _, fits⟩ := own.live_of_arg found arg
      have state := fits.connecting pendingConnect
      have empty : net.backlog id = [] := listens.empty (by simp [state])
      exact .of_slot listens id (fun other away => by simp [socketConnected, tcpRecv, away]) empty
        (by simpa [socketConnected, tcpRecv, Net.backlog] using empty)
        fun _ => .inl (by simp [socketConnected, tcpRecv])

theorem calm_received (own : Own kept net) (listens : net.Listens) (id : SocketId)
    (p : Option (List UInt8)) : Calm net (net.socketRecvCallback id p).1 := by
  unfold socketRecvCallback
  dsimp only
  split
  case h_1 state =>
    split
    · split
      · exact calm_setRing listens id fun ring => ring.fill SOCKET_BUF_SIZE _
      · exact .refl listens
    · have empty : net.backlog id = [] := listens.empty (by simp [state])
      exact .of_slot listens id (fun other away => by simp [away]) empty
        (by simpa [Net.backlog] using empty) fun _ => .inl (by simp)
  case h_4 => exact .refl listens
  all_goals
    rename_i state
    split
    · exact .refl listens
    · refine .of_slot listens id (fun other away => by simp [tcpArg, away])
        (listens.empty (by simp [state])) (by simp [Net.backlog]) fun pending => ?_
      have waits := (own.slots id).waiting pending
      simp [state] at waits

theorem calm_failed (listens : net.Listens) {address : Nat} {pcb : Pcb}
    (found : net.pcbs address = some pcb) (err : Err)
    (unstruck : Unstruck (net.entries (.failed address err))) :
    Calm net ((net.freePcb address).socketErrFunc pcb.arg err) := by
  cases arg : pcb.arg with
  | none =>
      exact .of_same listens (fun _ => by simp [socketErrFunc])
        (fun _ => by simp [socketErrFunc]) fun _ => by simp [socketErrFunc, Net.backlog]
  | some id =>
      have empty : net.backlog id = [] := by
        refine listens.empty fun state => unstruck id ?_
        simp [Net.entries, found, arg, state]
      exact .of_slot listens id (fun other away => by simp [socketErrFunc, away]) empty
        (by simpa [socketErrFunc, Net.backlog] using empty)
        fun _ => .inr (by simp [socketErrFunc])

end Calm

/-! ## The calls and callbacks that move one -/

/-- A step with what it does with queued connections. -/
structure Moves (net : Net) (log : List Entry) (next : Net) : Prop where
  listens : next.Listens
  counts : ∀ id, net.waiting.count id + log.count (.queued id) =
    next.waiting.count id + log.count (.handed id) + log.count (.drained id)
  keeps : ∀ id, net.Pending id → .handed id ∈ log ∨ .drained id ∈ log ∨
    next.Pending id ∧ ((next.sockets id).sockTpcb = (net.sockets id).sockTpcb ∨
      (next.sockets id).state = .error)

theorem Calm.moves (calm : Calm net next) : Moves net [] next where
  listens := calm.listens
  counts id := by simp [calm.waiting]
  keeps id pending := by
    refine .inr (.inr ⟨?_, calm.stays id pending⟩)
    rwa [← mem_waiting, calm.waiting, mem_waiting]

section Moves

variable {kept : Prop}

theorem waiting_count_congr (once : net.waiting.Nodup) (later : next.waiting.Nodup)
    (same : next.Pending id ↔ net.Pending id) : next.waiting.count id = net.waiting.count id := by
  rcases waiting_count once id with ⟨before, queued⟩ | ⟨before, idle⟩ <;>
    rcases waiting_count later id with ⟨later, queued'⟩ | ⟨later, idle'⟩
  · rw [before, later]
  · exact absurd (same.mpr queued) idle'
  · exact absurd (same.mp queued') idle
  · rw [before, later]

theorem Own.moves_acceptPending (own : Own kept net) (listens : net.Listens)
    (listener : SocketId) :
    Moves net (match (net.acceptPending listener).2 with
      | .ok id => [.handed id]
      | .error _ => []) (net.acceptPending listener).1 := by
  have after := own.acceptPending listener
  unfold Net.acceptPending at after ⊢
  split at after
  · exact (Calm.refl listens).moves
  rename_i id queue popped
  dsimp only
  have pending := own.pop_pending popped
  have waited : net.Pending id := by
    refine ⟨listener, ?_⟩
    rw [Net.backlog, RingQueue.entries_pop popped]
    exact List.mem_cons_self
  generalize result : (net.setSocket listener fun socket =>
    { socket with acceptQueue := queue }).setRefs id 1 = next at after
  have waiting : ∀ other, next.Pending other ↔ net.Pending other ∧ other ≠ id := by
    rw [← result]
    exact pending
  have state : ∀ other, (next.sockets other).state = (net.sockets other).state ∧
      (next.sockets other).sockTpcb = (net.sockets other).sockTpcb := by
    intro other
    by_cases same : other = listener <;> simp [← result, same]
  have backlog : ∀ other, next.backlog other ≠ [] → net.backlog other ≠ [] := by
    intro other some none
    by_cases same : other = listener
    · rw [same, Net.backlog, RingQueue.entries_pop popped] at none
      cases none
    · exact some (by simpa [← result, Net.backlog, same] using none)
  refine ⟨fun other some => ?_, fun other => ?_, fun other queued => ?_⟩
  · rw [(state other).1]
    exact listens other (backlog other some)
  · by_cases same : other = id
    · subst same
      rcases waiting_count own.waiting_nodup other with ⟨before, _⟩ | ⟨_, idle⟩
      · rcases waiting_count after.waiting_nodup other with ⟨_, queued⟩ | ⟨later, _⟩
        · exact absurd rfl ((waiting other).mp queued).2
        · simp [before, later]
      · exact absurd waited idle
    · have count := waiting_count_congr own.waiting_nodup after.waiting_nodup
        (by simp [waiting, same] : next.Pending other ↔ net.Pending other)
      simp [count, Ne.symm same]
  · by_cases same : other = id
    · exact .inl (by simp [same])
    · exact .inr (.inr ⟨(waiting other).mpr ⟨queued, same⟩, .inl (state other).2⟩)

theorem Own.moves_accept (own : Own kept net) (listens : net.Listens) (index : Int)
    (nonblock : Bool) :
    Moves net (net.entries (.accept index nonblock)) (net.tcpSocketAccept index nonblock).1 := by
  simp only [Net.entries, tcpSocketAccept]
  cases socketLookup index with
  | none => exact (Calm.refl listens).moves
  | some listener =>
      dsimp only
      by_cases allowed : tcpAcceptAllowed (net.sockets listener).state
      · by_cases empty : (net.sockets listener).acceptQueue.isEmpty
        · cases nonblock
          · simpa [allowed, empty] using (Calm.refl listens).moves
          · simpa [allowed, empty] using (Calm.refl listens).moves
        · have moves := own.moves_acceptPending listens listener
          simp only [allowed, empty, Bool.not_true, Bool.false_eq_true, if_false]
          cases answer : (net.acceptPending listener).2 with
          | ok id =>
              rw [answer] at moves
              exact moves
          | error errno =>
              rw [answer] at moves
              exact moves
      · simpa [allowed] using (Calm.refl listens).moves

/-- The backlog takes the slot that the accept callback wired. -/
theorem Own.moves_queued (own : Own kept net) (listens : net.Listens) {wired : Net}
    {newpcb : Nat} {listener : SocketId} {queue : RingQueue MAX_LISTEN_BACKLOG SocketId}
    (wires : Wires net wired id newpcb) (made : net.pcbs newpcb = some ⟨none, false, false, false⟩)
    (unused : (net.sockets id).state = .unallocated)
    (listening : (net.sockets listener).state = .listening)
    (pushed : (wired.sockets listener).acceptQueue.push id = some queue) :
    Moves net [.queued id]
      (wired.setSocket listener fun socket => { socket with acceptQueue := queue }) := by
  have after := own.queued wires made unused listening pushed
  have backlogs := own.queued_backlog wires unused listening pushed
  obtain ⟨idle, empty, _⟩ := own.unallocated unused
  have sockets : ∀ other, other ≠ id →
      ((wired.setSocket listener fun socket =>
        { socket with acceptQueue := queue }).sockets other).state = (net.sockets other).state ∧
      ((wired.setSocket listener fun socket =>
        { socket with acceptQueue := queue }).sockets other).sockTpcb =
          (net.sockets other).sockTpcb := by
    intro other away
    by_cases same : other = listener
    · subst same
      simp [wires.sockets other away]
    · simp [same, wires.sockets other away]
  generalize (wired.setSocket listener fun socket =>
    { socket with acceptQueue := queue }) = next at after backlogs sockets ⊢
  have waiting : ∀ other, next.Pending other ↔ net.Pending other ∨ other = id := by
    intro other
    constructor
    · rintro ⟨place, queued⟩
      rw [backlogs] at queued
      split at queued
      · rcases List.mem_append.mp queued with queued | queued
        · exact .inl ⟨listener, queued⟩
        · exact .inr (List.mem_singleton.mp queued)
      · exact .inl ⟨place, queued⟩
    · rintro (⟨place, queued⟩ | rfl)
      · refine ⟨place, ?_⟩
        rw [backlogs]
        split
        · rename_i same
          exact List.mem_append_left _ (same ▸ queued)
        · exact queued
      · exact ⟨listener, by simp [backlogs]⟩
  refine ⟨fun other some => ?_, fun other => ?_, fun other queued => ?_⟩
  · rw [backlogs] at some
    split at some
    · rename_i same
      subst same
      rw [(sockets other fun same => ?_).1]
      · exact listening
      · rw [same, unused] at listening
        cases listening
    · rw [(sockets other fun same => some (same ▸ empty)).1]
      exact listens other some
  · by_cases same : other = id
    · subst same
      rcases waiting_count own.waiting_nodup other with ⟨_, queued⟩ | ⟨before, _⟩
      · exact absurd queued idle
      · rcases waiting_count after.waiting_nodup other with ⟨later, _⟩ | ⟨_, idle'⟩
        · simp [before, later]
        · exact absurd ((waiting other).mpr (.inr rfl)) idle'
    · have count := waiting_count_congr own.waiting_nodup after.waiting_nodup
        (by simp [waiting, same] : next.Pending other ↔ net.Pending other)
      simp [count, Ne.symm same]
  · have away : other ≠ id := fun same => idle (same ▸ queued)
    exact .inr (.inr ⟨(waiting other).mpr (.inl queued), .inl (sockets other away).2⟩)

/-- The abort of a PCB that reaches no slot. -/
theorem tcpAbort_frame (tpcb : Option Nat) (none : ∀ address, tpcb = some address →
    (net.pcbs address).bind (·.arg) = none) :
    (net.tcpAbort tpcb).sockets = net.sockets ∧ (net.tcpAbort tpcb).refcount = net.refcount := by
  cases tpcb with
  | none => exact ⟨rfl, rfl⟩
  | some address => simp [tcpAbort, none address rfl, socketErrFunc]

theorem Own.moves_incoming (own : Own kept net) (listens : net.Listens) {address newpcb : Nat}
    {pcb : Pcb} (found : net.pcbs address = some pcb) (fresh : net.pcbs newpcb = none)
    {err : Option Err} {answer : Option Err}
    (ran : (net.newPcb newpcb ⟨none, false, false, false⟩).tcpSocketAcceptCb pcb.arg newpcb err =
      (next, answer)) :
    Moves net (net.entries (.incoming address newpcb err))
      (if answer = none then next else next.tcpAbort (some newpcb)) := by
  have made := own.made fresh
  have unattached : (net.newPcb newpcb ⟨none, false, false, false⟩).pcbs newpcb =
      some ⟨none, false, false, false⟩ := by simp
  simp only [Net.entries, found, queuedSlot, ran]
  rcases tcpSocketAcceptCb_cases unattached ran with ⟨rfl, refused⟩ |
    ⟨listener, id, wired, _, free, listening, wires, ⟨rfl, refused⟩ |
      ⟨queue, pushed, rfl, rfl⟩⟩
  · obtain ⟨cause, rfl⟩ := Option.ne_none_iff_exists'.mp refused
    rw [if_neg refused]
    obtain ⟨sockets, _⟩ := @tcpAbort_frame (net.newPcb newpcb ⟨none, false, false, false⟩)
      (some newpcb) (by simp)
    refine (Calm.of_same listens ?_ ?_ ?_).moves
    all_goals simp [sockets, Net.backlog]
  · obtain ⟨cause, rfl⟩ := Option.ne_none_iff_exists'.mp refused
    rw [if_neg refused]
    have unused := freeSocket_unallocated free
    obtain ⟨idle, empty, _⟩ := own.unallocated unused
    obtain ⟨_, gone⟩ := made.unqueued wires unattached unused
    obtain ⟨sockets, _⟩ := @tcpAbort_frame
      ((wired.socketDetachPcb (some newpcb)).socketRelease id) (some newpcb)
      (fun place same => by cases same; exact gone)
    refine (Calm.of_slot listens id (fun other away => ?_) empty ?_
      fun pending => absurd pending idle).moves
    · rw [sockets]
      simp [socketDetachPcb, tcpArg, tcpRecv, away, wires.sockets other away]
    · simp [sockets, Net.backlog]
  · rw [if_pos rfl]
    dsimp only
    rw [free]
    have moves := made.moves_queued listens wires unattached (freeSocket_unallocated free)
      listening pushed
    exact ⟨moves.listens, moves.counts, moves.keeps⟩

end Moves

/-! ## Closes -/

section Closes

theorem socketClosePcb_frame (tpcb : Option Nat) (answer : Closed) :
    (net.socketClosePcb tpcb answer).sockets = net.sockets ∧
      (net.socketClosePcb tpcb answer).refcount = net.refcount := by
  cases tpcb with
  | none => exact ⟨rfl, rfl⟩
  | some address =>
      obtain ⟨sockets, refcount, _⟩ := net.socketClosePcb_spec address answer
      exact ⟨sockets, refcount⟩

theorem tcpClose_frame (tpcb : Option Nat) (answer : Closed) :
    (net.tcpClose tpcb answer).1.sockets = net.sockets ∧
      (net.tcpClose tpcb answer).1.refcount = net.refcount := by
  unfold tcpClose
  cases tpcb with
  | none => exact ⟨rfl, rfl⟩
  | some address =>
      dsimp only
      split
      · exact ⟨rfl, rfl⟩
      · cases answer <;> exact ⟨rfl, rfl⟩

/-- The teardown of a slot that does not listen touches no other. -/
theorem closeInt_frame (answer : Nat → Closed)
    (notListening : (net.sockets id).state ≠ .listening) :
    (∀ other, other ≠ id →
      (net.tcpSocketCloseInt id answer).1.sockets other = net.sockets other) ∧
    (∀ other, net.refcount other = 0 ∨ other ≠ id →
      (net.tcpSocketCloseInt id answer).1.refcount other = net.refcount other) ∧
    (net.backlog id = [] → (net.tcpSocketCloseInt id answer).1.backlog id = []) := by
  have released : ∀ middle : Net, middle.sockets = net.sockets → middle.refcount = net.refcount →
      (∀ other, other ≠ id → (middle.socketRelease id).sockets other = net.sockets other) ∧
      (∀ other, net.refcount other = 0 ∨ other ≠ id →
        (middle.socketRelease id).refcount other = net.refcount other) ∧
      (net.backlog id = [] → (middle.socketRelease id).backlog id = []) := by
    intro middle sockets refcount
    refine ⟨fun other away => by simp [away, sockets], fun other apart => ?_,
      fun _ => by simp [Net.backlog]⟩
    rw [socketRelease_refcount, refcount]
    split
    · rename_i same
      exact (apart.resolve_right fun away => away same).symm
    · rfl
  unfold tcpSocketCloseInt
  obtain ⟨current, state⟩ : ∃ current, (net.sockets id).state = current := ⟨_, rfl⟩
  simp only [state]
  have idle : ∀ answered, (∀ other, other ≠ id → ((if (net.sockets id).sockTpcb = none then net
      else net.socketClosePcb (net.sockets id).sockTpcb answered).socketRelease id).sockets other =
        net.sockets other) ∧
      (∀ other, net.refcount other = 0 ∨ other ≠ id →
        ((if (net.sockets id).sockTpcb = none then net else net.socketClosePcb
          (net.sockets id).sockTpcb answered).socketRelease id).refcount other =
            net.refcount other) ∧
      (net.backlog id = [] → ((if (net.sockets id).sockTpcb = none then net
        else net.socketClosePcb (net.sockets id).sockTpcb answered).socketRelease id).backlog id =
          []) := by
    intro answered
    obtain ⟨sockets, refcount⟩ := @socketClosePcb_frame net (net.sockets id).sockTpcb answered
    split
    · exact released net rfl rfl
    · exact released _ sockets refcount
  cases current with
  | unallocated => exact ⟨fun _ _ => rfl, fun _ _ => rfl, fun empty => empty⟩
  | closing => exact ⟨fun _ _ => rfl, fun _ _ => rfl, fun empty => empty⟩
  | listening => exact absurd state notListening
  | allocated => exact idle _
  | bound => exact idle _
  | error => exact idle _
  | closedByPeer =>
      obtain ⟨sockets, refcount⟩ := @socketClosePcb_frame net (net.sockets id).sockTpcb
        (((net.sockets id).sockTpcb.map answer).getD .pending)
      exact released _ sockets refcount
  | connecting =>
      obtain ⟨sockets, refcount⟩ := @tcpAbort_frame (net.tcpArg (net.sockets id).sockTpcb none)
        (net.sockets id).sockTpcb fun address owns => by
          rw [owns]
          cases found : net.pcbs address <;> simp [tcpArg, found]
      refine released _ ?_ ?_
      · rw [sockets]
        simp [tcpArg]
      · rw [refcount]
        simp [tcpArg]
  | connected =>
      simp only [tcpCloseAction, reduceCtorEq, if_false]
      obtain ⟨sockets, refcount⟩ := @tcpClose_frame (net.socketSetState id .closing)
        (net.sockets id).sockTpcb (((net.sockets id).sockTpcb.map answer).getD .pending)
      split <;> rename_i closed
      all_goals
        rw [closed] at sockets refcount
        dsimp only at sockets refcount ⊢
        refine ⟨fun other away => by simp [sockets, away], fun other _ => by simp [refcount],
          fun empty => ?_⟩
        simpa [sockets, Net.backlog] using empty

/-- The drain pops the backlog in its order. -/
theorem Own.drainedSlots_eq {kept : Prop} (own : Own kept net) {listener : SocketId}
    (lost : ¬ kept) (listening : (net.sockets listener).state = .listening)
    (answer : Nat → Closed) (fuel : Nat) (enough : (net.backlog listener).length ≤ fuel) :
    net.drainedSlots listener answer fuel = net.backlog listener := by
  induction fuel generalizing net with
  | zero => exact (List.length_eq_zero_iff.mp (Nat.le_zero.mp enough)).symm
  | succ fuel ih =>
      unfold drainedSlots
      split
      · rename_i popped
        exact (RingQueue.isEmpty_of_pop_eq_none popped).symm
      · rename_i slot queue popped
        have entries : net.backlog listener = slot :: queue.entries := RingQueue.entries_pop popped
        obtain ⟨released, rest, stays, _⟩ := own.dropNext lost listening popped answer rfl
        rw [ih released stays (by rw [rest]; rw [entries] at enough; simpa using enough), rest,
          entries]

theorem count_drained (slots : List SocketId) (id : SocketId) :
    (slots.map Entry.drained).count (.queued id) = 0 ∧
      (slots.map Entry.drained).count (.handed id) = 0 ∧
      (slots.map Entry.drained).count (.drained id) = slots.count id := by
  induction slots with
  | nil => exact ⟨rfl, rfl, rfl⟩
  | cons slot rest ih =>
      obtain ⟨queued, handed, drained⟩ := ih
      simp [List.count_cons, queued, handed, drained]

/-- The teardown of a slot drops its whole backlog. -/
theorem Own.moves_closeInt (own : Own False net) (listens : net.Listens)
    (idle : ¬ net.Pending id) (answer : Nat → Closed) :
    Moves net ((net.closeIntSlots id answer).map .drained)
      (net.tcpSocketCloseInt id answer).1 := by
  by_cases listening : (net.sockets id).state = .listening
  · obtain ⟨after, address, pcb, drained, _, empty, listens', _, _, _, _, _, freed, elsewhere,
      closed⟩ := own.closeListening not_false listening answer
    rw [closeIntSlots, if_pos listening, own.drainedSlots_eq not_false listening answer
      MAX_LISTEN_BACKLOG (backlog_length id), closed]
    have sockets : ∀ other, other ≠ id → other ∉ net.backlog id →
        ((after.socketSetState id .closing).freePcb address).sockets other =
          net.sockets other := by
      intro other away out
      simp [away, elsewhere other away out]
    have backlogs : ∀ other, ((after.socketSetState id .closing).freePcb address).backlog other =
        after.backlog other := by
      intro other
      by_cases same : other = id <;> simp [Net.backlog, same]
    generalize (after.socketSetState id .closing).freePcb address = next at sockets backlogs ⊢
    -- a slot of the backlog has none itself, before and after it is released
    have backlog : ∀ other, next.backlog other = if other = id then [] else net.backlog other := by
      intro other
      rw [backlogs]
      split
      · rename_i same
        rw [same, empty]
      · rename_i away
        by_cases queued : other ∈ net.backlog id
        · have state := freed other queued
          have waits := (own.slots other).waiting ⟨id, queued⟩
          rw [drained.empty (by simp [state]) (by simp [state]), listens.empty]
          intro busy
          simp [busy] at waits
        · rw [Net.backlog, elsewhere other away queued, Net.backlog]
    have waiting : ∀ other, next.Pending other ↔ net.Pending other ∧ other ∉ net.backlog id := by
      intro other
      constructor
      · rintro ⟨place, queued⟩
        rw [backlog] at queued
        split at queued
        · cases queued
        · rename_i away
          exact ⟨⟨place, queued⟩, fun mine => away (own.apart place id other queued mine)⟩
      · rintro ⟨⟨place, queued⟩, out⟩
        refine ⟨place, ?_⟩
        rw [backlog, if_neg]
        · exact queued
        · rintro rfl
          exact out queued
    have after' : next.waiting.Nodup := by
      have same : next.waiting = after.waiting := by simp only [Net.waiting, funext backlogs]
      rw [same]
      exact drained.waiting_nodup
    refine ⟨fun other some => ?_, fun other => ?_, fun other queued => ?_⟩
    · rw [backlog] at some
      split at some
      · exact absurd rfl some
      · rename_i away
        have state := listens other some
        rw [sockets other away, state]
        intro queued
        have waits := (own.slots other).waiting ⟨id, queued⟩
        simp [state] at waits
    · obtain ⟨none, none', dropped⟩ := count_drained (net.backlog id) other
      rw [none, none', dropped]
      by_cases mine : other ∈ net.backlog id
      · rcases waiting_count own.waiting_nodup other with ⟨before, _⟩ | ⟨_, idle⟩
        · rcases waiting_count after' other with ⟨_, queued⟩ | ⟨later, _⟩
          · exact absurd mine ((waiting other).mp queued).2
          · rw [before, later, List.count_eq_one_of_mem (own.once id) mine]
        · exact absurd ⟨id, mine⟩ idle
      · have count := waiting_count_congr own.waiting_nodup after' (by simp [waiting, mine] :
          next.Pending other ↔ net.Pending other)
        rw [count, List.count_eq_zero.mpr mine]
    · by_cases mine : other ∈ net.backlog id
      · exact .inr (.inl (List.mem_map.mpr ⟨other, mine, rfl⟩))
      · have away : other ≠ id := fun same => idle (same ▸ queued)
        exact .inr (.inr ⟨(waiting other).mpr ⟨queued, mine⟩,
          .inl (by rw [sockets other away mine])⟩)
  · obtain ⟨sockets, _, empty⟩ := closeInt_frame answer listening
    rw [closeIntSlots, if_neg listening]
    have none := listens.empty listening
    exact (Calm.of_slot listens id sockets none (empty none)
      fun pending => absurd pending idle).moves

theorem Own.moves_close (own : Own False net) (listens : net.Listens) (index : Int)
    (answer : Nat → Closed) (unseen : net.unseen index = false) :
    Moves net (net.entries (.close index answer)) (net.tcpSocketClose index answer).1 := by
  simp only [Net.entries, closeSlots, tcpSocketClose]
  cases found : socketLookup index with
  | none => exact (Calm.refl listens).moves
  | some id =>
      have idle := not_pending_of_unseen unseen found
      have torn := (@Own.unref False net id own not_false).moves_closeInt listens idle answer
      have counted := (own.slots id).counted
      dsimp only
      unfold tcpRefRelease
      by_cases none : net.refcount id ≤ 0
      · rw [if_pos none]
        dsimp only
        rw [setRefs_of_eq (by omega)] at torn
        split
        · rename_i unused
          simpa [closeIntSlots, unused] using (Calm.refl listens).moves
        · exact torn
      rw [if_neg none]
      by_cases last : net.refcount id - 1 = 0
      · rw [if_pos last, last]
        exact ⟨torn.listens, torn.counts, torn.keeps⟩
      · rw [if_neg last]
        have calm : Calm net (net.setRefs id (net.refcount id - 1)) :=
          .of_same listens (fun _ => rfl) (fun _ => rfl) fun _ => rfl
        exact calm.moves

/-- What one step does with queued connections, in a run that no error callback of a
listening PCB is part of. -/
theorem Own.moves (own : Own False net) (listens : net.Listens) {event : Event}
    (ran : net.step event = some next) (unstruck : Unstruck (net.entries event)) :
    Moves net (net.entries event) next := by
  cases event with
  | socket tpcb =>
      simp only [Net.step] at ran
      split at ran
      · cases ran
        exact (calm_socket own listens tpcb).moves
      · cases ran
  | bind index available answer =>
      cases ran
      exact (calm_bind listens index available answer).moves
  | connect index answer =>
      cases ran
      exact (calm_connect listens index answer).moves
  | listen index answer =>
      simp only [Net.step] at ran
      split at ran
      · cases ran
        exact (calm_listen own listens index answer).moves
      · cases ran
  | accept index nonblock =>
      cases ran
      exact own.moves_accept listens index nonblock
  | acceptWoken listener =>
      cases ran
      exact own.moves_acceptPending listens listener
  | dup index =>
      cases ran
      exact (calm_dup listens index).moves
  | close index answer =>
      simp only [Net.step] at ran
      split at ran
      · cases ran
      · rename_i unseen
        cases ran
        exact own.moves_close listens index answer (Bool.eq_false_iff.mpr unseen)
  | recv index len nonblock =>
      cases ran
      exact (calm_recv listens index len nonblock).moves
  | connected address =>
      simp only [Net.step] at ran
      obtain ⟨pcb, found, ran⟩ := Option.bind_eq_some_iff.mp ran
      split at ran
      · rename_i pendingConnect
        cases ran
        exact (calm_connected own listens found pendingConnect).moves
      · cases ran
  | received address p =>
      simp only [Net.step] at ran
      obtain ⟨pcb, found, ran⟩ := Option.bind_eq_some_iff.mp ran
      obtain ⟨id, arg, ran⟩ := Option.bind_eq_some_iff.mp ran
      split at ran
      · cases ran
        exact (calm_received own listens id p).moves
      · cases ran
  | failed address err =>
      simp only [Net.step] at ran
      obtain ⟨pcb, found, ran⟩ := Option.bind_eq_some_iff.mp ran
      cases ran
      have calm := calm_failed listens found err unstruck
      have none : net.entries (.failed address err) = [] := by
        simp only [Net.entries] at unstruck ⊢
        split
        · rename_i id arg
          rw [arg] at unstruck
          dsimp only at unstruck
          split
          · rename_i state
            rw [if_pos state] at unstruck
            exact absurd List.mem_cons_self (unstruck id)
          · rfl
        · rfl
      rw [none]
      exact calm.moves
  | incoming address newpcb err =>
      simp only [Net.step] at ran
      obtain ⟨pcb, found, ran⟩ := Option.bind_eq_some_iff.mp ran
      split at ran
      · rename_i guard
        have fresh : net.pcbs newpcb = none := by
          simpa [Net.fresh] using (Bool.and_eq_true_iff.mp guard).2
        split at ran
        · rename_i called
          cases ran
          exact own.moves_incoming listens found fresh called
        · rename_i called
          cases ran
          exact own.moves_incoming listens found fresh called
      · cases ran

end Closes

/-! ## References -/

section References

variable {kept : Prop}

theorem refcount_socket (own : Own kept net) (tpcb : Option Nat) (held : net.refcount id ≠ 0) :
    (net.socket tpcb).1.refcount id ≠ 0 := by
  unfold Net.socket socketAllocate
  cases free : net.freeSocket with
  | none => exact held
  | some slot =>
      have unused := (own.slots slot).unused (.inl (freeSocket_unallocated free))
      have away : id ≠ slot := by
        rintro rfl
        exact held unused
      dsimp only
      unfold tcpSocketInit
      rw [if_neg (by simp)]
      cases tpcb with
      | none =>
          dsimp only
          unfold tcpSocketClose
          rw [socketLookup_val]
          simp only [setSocket_refcount, socketSetState_refcount, socketClear_refcount, if_true,
            tcpRefRelease, Int.le_refl, setSocket_sockets, socketSetState_sockets,
            reduceCtorEq, if_false]
          unfold tcpSocketCloseInt
          simpa [tcpCloseAction, away] using held
      | some address => simpa [tcpArg, away] using held

theorem refcount_bind (index : Int) (available : Bool) (answer : Option Err) :
    (net.tcpSocketBind index available answer).1.refcount = net.refcount := by
  unfold tcpSocketBind
  split
  · rfl
  split_ifs
  · rfl
  · rfl
  · split <;> simp

theorem refcount_connect (index : Int) (answer : Option Err) :
    (net.tcpSocketConnect index answer).1.refcount = net.refcount := by
  unfold tcpSocketConnect
  split
  · rfl
  split
  · rfl
  · rfl
  · rfl
  · split <;> simp

theorem refcount_listen (index : Int) (answer : Option Nat) :
    (net.tcpSocketListen index answer).1.refcount = net.refcount := by
  unfold tcpSocketListen
  split
  · rfl
  split_ifs
  · rfl
  · split <;> simp

theorem refcount_acceptPending (listener : SocketId) (held : net.refcount id ≠ 0) :
    (net.acceptPending listener).1.refcount id ≠ 0 := by
  unfold Net.acceptPending
  split
  · exact held
  · simp only [setRefs_refcount, setSocket_refcount]
    split
    · decide
    · exact held

theorem refcount_accept (index : Int) (nonblock : Bool) (held : net.refcount id ≠ 0) :
    (net.tcpSocketAccept index nonblock).1.refcount id ≠ 0 := by
  unfold tcpSocketAccept
  split
  · exact held
  split_ifs
  · exact held
  · exact held
  · exact held
  · exact refcount_acceptPending _ held

theorem refcount_dup (index : Int) (held : net.refcount id ≠ 0) :
    (net.tcpSocketDup index).1.refcount id ≠ 0 := by
  unfold tcpSocketDup
  split
  · exact held
  split
  · exact held
  rename_i refs acquired
  simp only [tcpRefAcquire] at acquired
  split at acquired
  · cases acquired
  cases acquired
  simp only [setRefs_refcount]
  split
  · omega
  · exact held

theorem refcount_recv (index : Int) (len : Nat) (nonblock : Bool) :
    (net.tcpSocketRecv index len nonblock).1.refcount = net.refcount := by
  unfold tcpSocketRecv
  split
  · rfl
  · dsimp only
    split <;> rfl

theorem refcount_received (own : Own kept net) {address : Nat} {pcb : Pcb} {slot : SocketId}
    (found : net.pcbs address = some pcb) (arg : pcb.arg = some slot)
    (receives : pcb.receives = true) (p : Option (List UInt8)) (held : net.refcount id ≠ 0) :
    (net.socketRecvCallback slot p).1.refcount id ≠ 0 := by
  obtain ⟨_, _, _, fits⟩ := own.live_of_arg found arg
  have state := fits.receiving receives
  unfold socketRecvCallback
  dsimp only
  split
  case h_1 =>
    split
    · split <;> exact held
    · simpa using held
  case h_4 => exact held
  all_goals
    rename_i current
    split
    · exact held
  · simp [current] at state
  · have unused := (own.slots slot).unused (.inr current)
    have away : id ≠ slot := by
      rintro rfl
      exact held unused
    simpa [tcpArg, away] using held

theorem refcount_incoming (own : Own kept net) {newpcb : Nat} (fresh : net.pcbs newpcb = none)
    {arg : Option SocketId} {err : Option Err} {answer : Option Err}
    (ran : (net.newPcb newpcb ⟨none, false, false, false⟩).tcpSocketAcceptCb arg newpcb err =
      (next, answer)) (held : net.refcount id ≠ 0) :
    (if answer = none then next else next.tcpAbort (some newpcb)).refcount id ≠ 0 := by
  have made := own.made fresh
  have unattached : (net.newPcb newpcb ⟨none, false, false, false⟩).pcbs newpcb =
      some ⟨none, false, false, false⟩ := by simp
  rcases tcpSocketAcceptCb_cases unattached ran with ⟨rfl, refused⟩ |
    ⟨listener, slot, wired, _, free, _, wires, cases⟩
  · rw [if_neg refused]
    obtain ⟨_, refcount⟩ := @tcpAbort_frame (net.newPcb newpcb ⟨none, false, false, false⟩)
      (some newpcb) (by simp)
    rw [refcount]
    exact held
  · have unused := (own.slots slot).unused (.inl (freeSocket_unallocated free))
    have away : id ≠ slot := by
      rintro rfl
      exact held unused
    have wired' : wired.refcount id ≠ 0 := by
      rw [wires.refcount, if_neg away]
      exact held
    rcases cases with ⟨rfl, refused⟩ | ⟨queue, _, accepted, rfl⟩
    · rw [if_neg refused]
      obtain ⟨_, gone⟩ := made.unqueued wires unattached (freeSocket_unallocated free)
      obtain ⟨_, refcount⟩ := @tcpAbort_frame
        ((wired.socketDetachPcb (some newpcb)).socketRelease slot) (some newpcb)
        (fun place same => by cases same; exact gone)
      rw [refcount]
      simpa [socketDetachPcb, tcpArg, tcpRecv, away] using wired'
    · rw [if_pos accepted]
      exact wired'

/-- Only a close takes the last reference of a slot. -/
theorem Own.refcount_step (own : Own kept net) {event : Event}
    (ran : net.step event = some next) (other : ∀ index answer, event ≠ .close index answer)
    (held : net.refcount id ≠ 0) : next.refcount id ≠ 0 := by
  cases event with
  | close index answer => exact absurd rfl (other index answer)
  | socket tpcb =>
      simp only [Net.step] at ran
      split at ran
      · cases ran
        exact refcount_socket own tpcb held
      · cases ran
  | bind index available answer =>
      cases ran
      rw [refcount_bind]
      exact held
  | connect index answer =>
      cases ran
      rw [refcount_connect]
      exact held
  | listen index answer =>
      simp only [Net.step] at ran
      split at ran
      · cases ran
        rw [refcount_listen]
        exact held
      · cases ran
  | accept index nonblock =>
      cases ran
      exact refcount_accept index nonblock held
  | acceptWoken listener =>
      cases ran
      exact refcount_acceptPending listener held
  | dup index =>
      cases ran
      exact refcount_dup index held
  | recv index len nonblock =>
      cases ran
      rw [refcount_recv]
      exact held
  | connected address =>
      simp only [Net.step] at ran
      obtain ⟨pcb, found, ran⟩ := Option.bind_eq_some_iff.mp ran
      split at ran
      · cases ran
        cases arg : pcb.arg <;> simpa [socketConnected, tcpRecv] using held
      · cases ran
  | received address p =>
      simp only [Net.step] at ran
      obtain ⟨pcb, found, ran⟩ := Option.bind_eq_some_iff.mp ran
      obtain ⟨slot, arg, ran⟩ := Option.bind_eq_some_iff.mp ran
      split at ran
      · rename_i receives
        cases ran
        exact refcount_received own found arg receives p held
      · cases ran
  | failed address err =>
      simp only [Net.step] at ran
      obtain ⟨pcb, found, ran⟩ := Option.bind_eq_some_iff.mp ran
      cases ran
      cases arg : pcb.arg <;> simpa [socketErrFunc] using held
  | incoming address newpcb err =>
      simp only [Net.step] at ran
      obtain ⟨pcb, found, ran⟩ := Option.bind_eq_some_iff.mp ran
      split at ran
      · rename_i guard
        have fresh : net.pcbs newpcb = none := by
          simpa [Net.fresh] using (Bool.and_eq_true_iff.mp guard).2
        split at ran
        · rename_i called
          cases ran
          exact refcount_incoming own fresh called held
        · rename_i called
          cases ran
          exact refcount_incoming own fresh called held
      · cases ran

/-- The teardown of a slot without references leaves every count. -/
theorem Own.refcount_closeInt (own : Own False net) (answer : Nat → Closed)
    (unreferenced : net.refcount id = 0) :
    (net.tcpSocketCloseInt id answer).1.refcount = net.refcount := by
  by_cases listening : (net.sockets id).state = .listening
  · obtain ⟨after, _, _, _, _, _, _, _, _, _, refcount, _, _, _, closed⟩ :=
      own.closeListening not_false listening answer
    rw [closed, freePcb_refcount, socketSetState_refcount, refcount]
  · obtain ⟨_, refcount, _⟩ := closeInt_frame answer listening
    funext other
    refine refcount other ?_
    by_cases same : other = id
    · exact .inl (same ▸ unreferenced)
    · exact .inr same

/-- What a close does, by the references it finds. -/
theorem tcpSocketClose_cases {index : Int} (answer : Nat → Closed)
    (found : socketLookup index = some id) :
    (net.refcount id = 1 → (net.tcpSocketClose index answer).1 =
        ((net.setRefs id 0).tcpSocketCloseInt id answer).1) ∧
      (1 < net.refcount id → (net.tcpSocketClose index answer).1 =
        net.setRefs id (net.refcount id - 1)) ∧
      (net.refcount id ≤ 0 → (net.tcpSocketClose index answer).1 = net ∨
        (net.tcpSocketClose index answer).1 = (net.tcpSocketCloseInt id answer).1) := by
  unfold tcpSocketClose
  rw [found]
  dsimp only
  unfold tcpRefRelease
  refine ⟨fun last => ?_, fun shared => ?_, fun none => ?_⟩
  · simp [last]
  · rw [if_neg (by omega), if_neg (by omega)]
  · rw [if_pos none]
    dsimp only
    split
    · exact .inl rfl
    · exact .inr rfl

theorem Own.tearsDown (own : Own False net) {event : Event}
    (ran : net.step event = some next) : net.TearsDown event next := by
  have closed : ∀ index answer, event = .close index answer →
      next = (net.tcpSocketClose index answer).1 := by
    rintro index answer rfl
    simp only [Net.step] at ran
    split at ran
    · cases ran
    · exact (Option.some.inj ran).symm
  have torn : ∀ id answer,
      ((net.setRefs id 0).tcpSocketCloseInt id answer).1.refcount = (net.setRefs id 0).refcount :=
    fun id answer => (@Own.unref False net id own not_false).refcount_closeInt answer (by simp)
  refine ⟨fun id held zero => ?_, fun index answer id same found last => ?_,
    fun index answer id same found shared => ?_⟩
  · by_cases close : ∃ index answer, event = .close index answer
    · obtain ⟨index, answer, same⟩ := close
      cases found : socketLookup index with
      | none =>
          rw [closed index answer same] at zero
          simp only [tcpSocketClose, found] at zero
          exact absurd zero held
      | some slot =>
          obtain ⟨last, shared, none⟩ := @tcpSocketClose_cases net slot index answer found
          have counted := (own.slots slot).counted
          rw [closed index answer same] at zero
          rcases Int.lt_trichotomy (net.refcount slot) 1 with few | one | more
          · have unreferenced : net.refcount slot = 0 := by omega
            rcases none (by omega) with stays | stays
            · rw [stays] at zero
              exact absurd zero held
            · rw [stays, own.refcount_closeInt answer unreferenced] at zero
              exact absurd zero held
          · rw [last one, torn, setRefs_refcount] at zero
            split at zero
            · rename_i mine
              exact ⟨mine ▸ one, index, answer, same, mine ▸ found⟩
            · exact absurd zero held
          · rw [shared more, setRefs_refcount] at zero
            split at zero
            · omega
            · exact absurd zero held
    · refine absurd zero (own.refcount_step ran (fun index answer same => ?_) held)
      exact close ⟨index, answer, same⟩
  · have result := (@tcpSocketClose_cases net id index answer found).1 last
    rw [closed index answer same, result]
    exact ⟨rfl, by rw [torn]; simp⟩
  · rw [closed index answer same]
    exact (@tcpSocketClose_cases net id index answer found).2.1 shared

end References

/-! ## Runs -/

theorem Runs.own {log : List Entry} (runs : Runs log net) : Own False net := by
  induction runs with
  | initial => exact Own.initial False
  | step _ ran ih => exact ih.step ran (fun lost => lost.elim)

theorem Net.Listens.initial : Net.initial.Listens :=
  fun listener some => absurd (initial_backlog listener) some

/-- The run so far has moved each queued connection once. -/
theorem Runs.moved {log : List Entry} (runs : Runs log net) (unstruck : Unstruck log) :
    net.Listens ∧ ∀ id, log.count (.queued id) =
      log.count (.handed id) + log.count (.drained id) + net.waiting.count id := by
  induction runs with
  | initial =>
      refine ⟨Net.Listens.initial, fun id => ?_⟩
      have none : Net.initial.waiting = [] := by
        simp [Net.waiting, initial_backlog]
      simp [none]
  | @step log net next event runs ran ih =>
      obtain ⟨listens, counts⟩ := ih fun listener member =>
        unstruck listener (List.mem_append_left _ member)
      have moves := runs.own.moves listens ran fun listener member =>
        unstruck listener (List.mem_append_right _ member)
      refine ⟨moves.listens, fun id => ?_⟩
      have before := counts id
      have step := moves.counts id
      simp only [List.count_append]
      omega

/-- In every run the transitions are allowed, the slots that wait are distinct and
unreferenced, a failed slot owns no PCB and a last reference is torn down once. While no
error callback reaches a listening PCB, each queued connection is accepted once, drained
once, or waits still, and keeps its slot until then. -/
theorem runs_ownership {log : List Entry} {net : Net} (runs : Runs log net) :
    net.Owned ∧ (∀ event next, net.step event = some next → net.TearsDown event next) ∧
      (Unstruck log →
        (∀ id, log.count (.queued id) =
          log.count (.handed id) + log.count (.drained id) + net.waiting.count id) ∧
        ∀ event next, net.step event = some next → Unstruck (net.entries event) →
          net.Keeps event next) := by
  refine ⟨runs.own.owned, fun event next ran => runs.own.tearsDown ran, fun unstruck => ?_⟩
  obtain ⟨listens, counts⟩ := runs.moved unstruck
  refine ⟨counts, fun event next ran calm id waits => ?_⟩
  have moves := runs.own.moves listens ran calm
  rcases moves.keeps id (mem_waiting.mp waits) with handed | drained | ⟨pending, stays⟩
  · exact .inl handed
  · exact .inr (.inl drained)
  · exact .inr (.inr ⟨mem_waiting.mpr pending, stays⟩)

/-- Of two connections queued one is accepted, and the close of the listening socket drains
the other. -/
theorem runs_ownership_drained :
    ∃ log net, Runs log net ∧ log = [.queued 1, .queued 2, .handed 1, .drained 2] ∧
      net.Owned ∧ log.count (.queued 2) =
        log.count (.handed 2) + log.count (.drained 2) + net.waiting.count 2 := by
  have runs : Runs _ _ := .step (.step (.step (.step (.step (.step .initial
    (rfl : Net.initial.step (.socket (some 1)) = _))
    (rfl : Net.step _ (.listen 0 (some 2)) = _)) (rfl : Net.step _ (.incoming 2 3 none) = _))
    (rfl : Net.step _ (.incoming 2 4 none) = _)) (rfl : Net.step _ (.accept 0 false) = _))
    (rfl : Net.step _ (.close 0 fun _ => .pending) = _)
  obtain ⟨log, net, runs, same⟩ : ∃ log net, Runs log net ∧
    log = [.queued 1, .queued 2, .handed 1, .drained 2] := ⟨_, _, runs, rfl⟩
  have owned := runs_ownership runs
  refine ⟨log, net, runs, same, owned.1, (owned.2.2 fun listener => ?_).1 2⟩
  simp [same]

end Chrysopolis.Tcp
