import Chrysopolis.Tcp.OwnershipProperties
import Chrysopolis.Tcp.Readiness
import Chrysopolis.Tcp.ReceiveRingProperties

/-! Readiness is honest: in every run what a socket is reported ready for is what its next call
finds. A socket that has never been connected has nothing buffered, and one in error has the
error that put it there. -/

set_option autoImplicit false

namespace Chrysopolis.Tcp

open Chrysopolis.Support
open Net

/-- Nothing is received before a connection is made. -/
def SocketState.unread : SocketState → Bool
  | .unallocated | .allocated | .bound | .connecting | .listening => true
  | .connected | .closing | .closedByPeer | .error => false

/-- What a slot's state says of its ring and its error. -/
structure Socket.Tells (socket : Socket) : Prop where
  ring : socket.rx.Valid SOCKET_BUF_SIZE
  unread : socket.state.unread = true → socket.rx.len = 0
  failed : socket.state = .error → socket.lastError.isSome = true

def Net.Tells (net : Net) : Prop := ∀ id, (net.sockets id).Tells

variable {net next : Net} {id : SocketId}

theorem Net.Tells.of_sockets (tells : net.Tells) (same : next.sockets = net.sockets) :
    next.Tells := fun id => by
  rw [same]
  exact tells id

/-- A store to one slot. -/
theorem Net.Tells.setSocket (tells : net.Tells) {f : Socket → Socket}
    (slot : (f (net.sockets id)).Tells) : (net.setSocket id f).Tells := fun other => by
  rw [setSocket_sockets]
  split
  · exact slot
  · exact tells other

/-- A store of what neither a read nor an error looks at. -/
theorem Net.Tells.setOther (tells : net.Tells) {f : Socket → Socket}
    (state : ∀ socket, (f socket).state = socket.state) (rx : ∀ socket, (f socket).rx = socket.rx)
    (lastError : ∀ socket, (f socket).lastError = socket.lastError) :
    (net.setSocket id f).Tells := by
  obtain ⟨ring, unread, failed⟩ := tells id
  refine tells.setSocket ⟨?_, ?_, ?_⟩
  · rw [rx]
    exact ring
  · rw [state, rx]
    exact unread
  · rw [state, lastError]
    exact failed

theorem Net.Tells.setPcb (tells : net.Tells) (tpcb : Option Nat) (g : Pcb → Pcb) :
    (net.setPcb tpcb g).Tells := tells.of_sockets (setPcb_sockets net g tpcb)

theorem Net.Tells.setState (tells : net.Tells) {target : SocketState}
    (unread : target.unread = true → (net.sockets id).state.unread = true)
    (running : target ≠ .error) : (net.socketSetState id target).Tells := fun other => by
  rw [socketSetState_sockets]
  split
  · exact ⟨(tells id).ring, fun quiet => (tells id).unread (unread quiet),
      fun failed => absurd failed running⟩
  · exact tells other

theorem Net.Tells.release (tells : net.Tells) (id : SocketId) : (net.socketRelease id).Tells :=
  fun other => by
    rw [socketRelease_sockets]
    split
    · exact ⟨⟨(by decide : 0 < SOCKET_BUF_SIZE), Nat.zero_le _⟩, fun _ => rfl, nofun⟩
    · exact tells other

/-! ### lwIP -/

/-- An error callback leaves its error with the slot. -/
theorem Net.Tells.errFunc (tells : net.Tells) (arg : Option SocketId) (err : Err) :
    (net.socketErrFunc arg err).Tells := by
  cases arg with
  | none => exact tells
  | some id =>
      intro other
      simp only [socketErrFunc, setSocket_sockets, socketSetState_sockets, if_true]
      split
      · refine ⟨(tells id).ring, fun connecting => ?_, fun _ => rfl⟩
        cases connecting
      · exact tells other

theorem Net.Tells.abort (tells : net.Tells) (tpcb : Option Nat) : (net.tcpAbort tpcb).Tells := by
  cases tpcb with
  | none => exact tells
  | some address => exact (tells.of_sockets (freePcb_sockets net address)).errFunc _ _

theorem Net.Tells.tcpClose (tells : net.Tells) (tpcb : Option Nat) (answer : Closed) :
    (net.tcpClose tpcb answer).1.Tells :=
  tells.of_sockets (tcpClose_frame tpcb answer).1

theorem Net.Tells.detach (tells : net.Tells) (tpcb : Option Nat) :
    (net.socketDetachPcb tpcb).Tells :=
  tells.of_sockets (by simp only [socketDetachPcb, tcpArg, tcpRecv, setPcb_sockets])

theorem Net.Tells.closePcb (tells : net.Tells) (tpcb : Option Nat) (answer : Closed) :
    (net.socketClosePcb tpcb answer).Tells := by
  have closed := (tells.detach tpcb).tcpClose tpcb answer
  unfold socketClosePcb
  cases ran : (net.socketDetachPcb tpcb).tcpClose tpcb answer with
  | mk after refused =>
      rw [ran] at closed
      cases refused with
      | none => exact closed
      | some err => exact closed.abort tpcb

/-- A connection that is queued starts on a slot that was cleared. -/
theorem Net.Tells.accepted (tells : net.Tells) (arg : Option SocketId) (newpcb : Nat)
    (err : Option Err) : (net.tcpSocketAcceptCb arg newpcb err).1.Tells := by
  unfold tcpSocketAcceptCb
  cases arg with
  | none => exact tells
  | some listener =>
      dsimp only
      split
      · exact tells
      · cases err with
        | some err => exact tells
        | none =>
            unfold socketAllocate
            cases free : net.freeSocket with
            | none => exact tells
            | some id =>
                have cleared : ((net.socketClear id).socketSetState id .allocated).Tells := by
                  intro other
                  simp only [socketSetState_sockets, socketClear_sockets, if_true]
                  split
                  · exact ⟨⟨(by decide : 0 < SOCKET_BUF_SIZE), Nat.zero_le _⟩, fun _ => rfl,
                      nofun⟩
                  · exact tells other
                have owned := @Net.Tells.setOther _ id cleared
                  (fun socket => { socket with sockTpcb := some newpcb })
                  (fun _ => rfl) (fun _ => rfl) fun _ => rfl
                have wired := ((@Net.Tells.setState _ id owned .connected nofun nofun).setPcb
                  (some newpcb) fun pcb => { pcb with arg := some id }).setPcb (some newpcb)
                    fun pcb => { pcb with receives := true }
                dsimp only
                cases RingQueue.push _ _ with
                | none => exact (wired.detach (some newpcb)).release id
                | some queue =>
                    exact @Net.Tells.setOther _ listener wired
                      (fun socket => { socket with acceptQueue := queue })
                      (fun _ => rfl) (fun _ => rfl) fun _ => rfl

theorem Net.Tells.received (tells : net.Tells) (id : SocketId) (p : Option (List UInt8)) :
    (net.socketRecvCallback id p).1.Tells := by
  unfold socketRecvCallback
  dsimp only
  split
  · rename_i connected
    cases p with
    | none => exact tells.setState nofun nofun
    | some bytes =>
        dsimp only
        split
        · rename_i room
          have held := (tells id).ring
          have fits := (tcpRxCanAccept_eq_true_iff held.len).mp room
          dsimp only
          refine tells.setSocket ?_
          refine ⟨(held.fill fits).1, fun unread => ?_, fun failed => ?_⟩
          · rw [connected] at unread
            cases unread
          · rw [connected] at failed
            cases failed
        · exact tells
  · cases p with
    | none => exact (tells.setPcb _ _).release id
    | some bytes => exact tells
  · cases p with
    | none => exact (tells.setPcb _ _).release id
    | some bytes => exact tells
  · exact tells

/-! ### Socket calls -/

theorem Net.Tells.recv (tells : net.Tells) (index : Int) (len : Nat) (nonblock : Bool) :
    (net.tcpSocketRecv index len nonblock).1.Tells := by
  unfold tcpSocketRecv
  cases socketLookup index with
  | none => exact tells
  | some id =>
      dsimp only
      cases gate : tcpRecvGate (net.sockets id).state ((net.sockets id).rx.len != 0) nonblock with
      | copy =>
          have open_ : (net.sockets id).state = .connected ∨
              (net.sockets id).state = .closedByPeer := by
            by_contra closed
            rw [not_or] at closed
            simp only [tcpRecvGate, if_pos closed] at gate
            cases gate
          dsimp only
          refine tells.setSocket ?_
          refine ⟨((tells id).ring.drain len).1, fun unread => ?_, fun failed => ?_⟩
          · rcases open_ with state | state <;> rw [state] at unread <;> cases unread
          · rcases open_ with state | state <;> rw [state] at failed <;> cases failed
      | _ => exact tells

theorem Net.Tells.acceptPending (tells : net.Tells) (listener : SocketId) :
    (net.acceptPending listener).1.Tells := by
  unfold Net.acceptPending
  cases (net.sockets listener).acceptQueue.pop with
  | none => exact tells
  | some popped =>
      have taken := @Net.Tells.setOther _ listener tells
        (fun socket => { socket with acceptQueue := popped.2 })
        (fun _ => rfl) (fun _ => rfl) fun _ => rfl
      exact taken.of_sockets rfl

theorem Net.Tells.accept (tells : net.Tells) (index : Int) (nonblock : Bool) :
    (net.tcpSocketAccept index nonblock).1.Tells := by
  unfold tcpSocketAccept
  cases socketLookup index with
  | none => exact tells
  | some listener =>
      dsimp only
      split_ifs
      · exact tells
      · exact tells
      · exact tells
      · exact tells.acceptPending listener

theorem Net.Tells.bind (tells : net.Tells) (index : Int) (available : Bool)
    (answer : Option Err) : (net.tcpSocketBind index available answer).1.Tells := by
  unfold tcpSocketBind
  cases socketLookup index with
  | none => exact tells
  | some id =>
      dsimp only
      split_ifs with shut
      · exact tells
      · exact tells
      · cases answer with
        | some err => exact tells
        | none =>
            refine tells.setState (fun _ => ?_) nofun
            simp only [tcpBindAllowed, Bool.not_eq_true', decide_eq_false_iff_not,
              not_not] at shut
            rw [shut]
            rfl

theorem Net.Tells.connect (tells : net.Tells) (index : Int) (answer : Option Err) :
    (net.tcpSocketConnect index answer).1.Tells := by
  unfold tcpSocketConnect
  cases socketLookup index with
  | none => exact tells
  | some id =>
      dsimp only
      cases gate : tcpConnectGate (net.sockets id).state with
      | start =>
          cases answer with
          | some err => exact tells
          | none =>
              refine (tells.setPcb _ _).setState (fun _ => ?_) nofun
              rw [setPcb_sockets]
              cases state : (net.sockets id).state <;> rw [state] at gate <;> cases gate <;> rfl
      | _ => exact tells

theorem Net.Tells.listen (tells : net.Tells) (index : Int) (answer : Option Nat) :
    (net.tcpSocketListen index answer).1.Tells := by
  unfold tcpSocketListen
  cases socketLookup index with
  | none => exact tells
  | some id =>
      dsimp only
      split_ifs with shut
      · exact tells
      · split
        · rename_i old address owns
          have made := (tells.of_sockets (freePcb_sockets net old)).of_sockets
            (newPcb_sockets (net.freePcb old) address
              { arg := (net.pcbs old).bind (·.arg), listening := true, connecting := false
                receives := false })
          have held := @Net.Tells.setOther _ id made
            (fun socket => { socket with sockTpcb := some address })
            (fun _ => rfl) (fun _ => rfl) fun _ => rfl
          refine held.setState (fun _ => ?_) nofun
          simp only [tcpListenAllowed, Bool.not_eq_true', Bool.or_eq_false_iff,
            decide_eq_false_iff_not, not_and_or, not_not] at shut
          simp only [setSocket_sockets, if_true, newPcb_sockets, freePcb_sockets]
          rcases shut with state | state <;> rw [state] <;> rfl
        · exact tells

theorem Net.Tells.dup (tells : net.Tells) (index : Int) : (net.tcpSocketDup index).1.Tells := by
  unfold tcpSocketDup
  cases socketLookup index with
  | none => exact tells
  | some id =>
      dsimp only
      cases tcpRefAcquire (net.refcount id) with
      | none => exact tells
      | some refs => exact tells.of_sockets rfl

theorem Net.Tells.drain (tells : net.Tells) (listener : SocketId) (answer : Nat → Closed)
    (fuel : Nat) : (net.socketDrainBacklog listener answer fuel).Tells := by
  induction fuel generalizing net with
  | zero => exact tells
  | succ fuel ih =>
      unfold socketDrainBacklog
      cases (net.sockets listener).acceptQueue.pop with
      | none => exact tells
      | some popped =>
          have taken := @Net.Tells.setOther _ listener tells
            (fun socket => { socket with acceptQueue := popped.2 })
            (fun _ => rfl) (fun _ => rfl) fun _ => rfl
          refine ih ?_
          unfold dropPending
          dsimp only
          split
          · exact taken.release popped.1
          · exact (taken.closePcb _ _).release popped.1

theorem Net.Tells.closeInt (tells : net.Tells) (id : SocketId) (answer : Nat → Closed) :
    (net.tcpSocketCloseInt id answer).1.Tells := by
  unfold tcpSocketCloseInt
  dsimp only
  cases tcpCloseAction (net.sockets id).state with
  | begin =>
      have drained : (if (net.sockets id).state = .listening then
          net.socketDrainBacklog id answer MAX_LISTEN_BACKLOG else net).Tells := by
        split
        · exact tells.drain id answer MAX_LISTEN_BACKLOG
        · exact tells
      have closed := (@Net.Tells.setState _ id drained .closing nofun nofun).tcpClose
        (net.sockets id).sockTpcb (((net.sockets id).sockTpcb.map answer).getD .pending)
      dsimp only
      split <;>
      · rename_i after ran
        rw [ran] at closed
        exact closed
  | abortConnecting => exact ((tells.setPcb _ _).abort _).release id
  | releasePeerClosed => exact (tells.closePcb _ _).release id
  | releaseIdle =>
      dsimp only
      split
      · exact tells.release id
      · exact (tells.closePcb _ _).release id
  | invalid => exact tells

theorem Net.Tells.close (tells : net.Tells) (index : Int) (answer : Nat → Closed) :
    (net.tcpSocketClose index answer).1.Tells := by
  unfold tcpSocketClose
  cases socketLookup index with
  | none => exact tells
  | some id =>
      dsimp only
      have counted (refs : Int) : (net.setRefs id refs).Tells := tells.of_sockets rfl
      cases tcpRefRelease (net.refcount id) with
      | mk release refs =>
          cases release with
          | shared => exact counted refs
          | last => exact (counted refs).closeInt id answer
          | underflow =>
              dsimp only
              split_ifs
              · exact tells
              · exact tells.closeInt id answer

theorem Net.Tells.socket (tells : net.Tells) (tpcb : Option Nat) : (net.socket tpcb).1.Tells := by
  unfold Net.socket socketAllocate
  cases free : net.freeSocket with
  | none => exact tells
  | some id =>
      dsimp only
      have cleared : ((net.socketClear id).socketSetState id .allocated).Tells := by
        intro other
        simp only [socketSetState_sockets, socketClear_sockets, if_true]
        split
        · exact ⟨⟨(by decide : 0 < SOCKET_BUF_SIZE), Nat.zero_le _⟩, fun _ => rfl, nofun⟩
        · exact tells other
      have initialised : (((net.socketClear id).socketSetState id .allocated).tcpSocketInit
          id tpcb).1.Tells := by
        unfold tcpSocketInit
        split_ifs
        · exact cleared
        · have owned := @Net.Tells.setOther _ id cleared
            (fun socket => { socket with sockTpcb := tpcb })
            (fun _ => rfl) (fun _ => rfl) fun _ => rfl
          cases tpcb with
          | none => exact owned
          | some address =>
              have ready := @Net.Tells.setOther _ id (owned.of_sockets (newPcb_sockets _ address
                { arg := none, listening := false, connecting := false, receives := false }))
                (fun socket => { socket with acceptQueue := socket.acceptQueue.reset })
                (fun _ => rfl) (fun _ => rfl) fun _ => rfl
              exact (ready.setPcb (some address) fun pcb =>
                { pcb with arg := some id }).of_sockets rfl
      revert initialised
      generalize tcpSocketInit _ id tpcb = after
      intro initialised
      obtain ⟨after, result⟩ := after
      cases result with
      | ok => exact initialised
      | error errno => exact initialised.close _ _

/-! ### Runs -/

theorem Net.Tells.connected (tells : net.Tells) (arg : Option SocketId) (address : Nat) :
    (net.socketConnected arg address).Tells := by
  cases arg with
  | none => exact tells
  | some id =>
      exact (@Net.Tells.setState _ id tells .connected nofun nofun).setPcb (some address)
        fun pcb => { pcb with receives := true }

/-- Every call and callback keeps what the slots tell. -/
theorem Net.Tells.step (tells : net.Tells) {event : Event} (stepped : net.step event = some next) :
    next.Tells := by
  cases event with
  | socket tpcb =>
      obtain ⟨-, rfl⟩ : _ ∧ _ := by simpa [Net.step] using stepped
      exact tells.socket tpcb
  | bind index available answer =>
      cases stepped
      exact tells.bind index available answer
  | connect index answer =>
      cases stepped
      exact tells.connect index answer
  | listen index answer =>
      obtain ⟨-, rfl⟩ : _ ∧ _ := by simpa [Net.step] using stepped
      exact tells.listen index answer
  | accept index nonblock =>
      cases stepped
      exact tells.accept index nonblock
  | acceptWoken listener =>
      cases stepped
      exact tells.acceptPending listener
  | dup index =>
      cases stepped
      exact tells.dup index
  | close index answer =>
      obtain ⟨-, rfl⟩ : _ ∧ _ := by simpa [Net.step] using stepped
      exact tells.close index answer
  | recv index len nonblock =>
      cases stepped
      exact tells.recv index len nonblock
  | connected address =>
      simp only [Net.step, Option.bind_eq_bind, Option.bind_eq_some_iff,
        Option.ite_none_right_eq_some, Option.some.injEq] at stepped
      obtain ⟨pcb, -, -, rfl⟩ := stepped
      exact (tells.setPcb _ _).connected pcb.arg address
  | received address p =>
      simp only [Net.step, Option.bind_eq_bind, Option.bind_eq_some_iff,
        Option.ite_none_right_eq_some, Option.some.injEq] at stepped
      obtain ⟨pcb, -, id, -, -, rfl⟩ := stepped
      exact tells.received id p
  | failed address err =>
      simp only [Net.step, Option.bind_eq_bind, Option.bind_eq_some_iff,
        Option.some.injEq] at stepped
      obtain ⟨pcb, -, rfl⟩ := stepped
      exact (tells.of_sockets (freePcb_sockets net address)).errFunc pcb.arg err
  | incoming address newpcb err =>
      simp only [Net.step, Option.bind_eq_bind, Option.bind_eq_some_iff,
        Option.ite_none_right_eq_some] at stepped
      obtain ⟨pcb, -, -, ran⟩ := stepped
      have accepted := (tells.of_sockets (newPcb_sockets net newpcb
        { arg := none, listening := false, connecting := false, receives := false })).accepted
          pcb.arg newpcb err
      split at ran
      · rename_i after taken
        cases ran
        rw [taken] at accepted
        exact accepted
      · rename_i after refused taken
        cases ran
        rw [taken] at accepted
        exact accepted.abort _

theorem Net.Tells.initial : Net.initial.Tells := fun _ =>
  ⟨⟨(by decide : 0 < SOCKET_BUF_SIZE), Nat.zero_le _⟩, fun _ => rfl, nofun⟩

theorem Runs.tells {log : List Entry} (runs : Runs log net) : net.Tells := by
  induction runs with
  | initial => exact .initial
  | step _ stepped ih => exact ih.step stepped

/-! ### Honesty -/

/-- Neither readable, nor hung up, nor failed. -/
def Net.Quiet (net : Net) (index : Int) : Prop :=
  net.tcpSocketReadable index = 0 ∧ net.tcpSocketHup index = false ∧ net.tcpSocketErr index = none

/-- What is reported of a slot against what its calls answer. -/
structure Net.Honest (net : Net) (txPoolFree : Bool) (index : Int) (state : SocketState) :
    Prop where
  /-- a read waits, or answers `EAGAIN`, exactly on a connected socket that is quiet -/
  recv : ∀ len, ((net.tcpSocketRecv index len false).2 = none ↔
      state = .connected ∧ net.Quiet index) ∧
    ((net.tcpSocketRecv index len true).2 = some (.error .EAGAIN) ↔
      state = .connected ∧ net.Quiet index)
  /-- an accept on a listening one -/
  accept : ((net.tcpSocketAccept index false).2 = none ↔ state = .listening ∧ net.Quiet index) ∧
    ((net.tcpSocketAccept index true).2 = some (.error .EAGAIN) ↔
      state = .listening ∧ net.Quiet index)
  pending : ∀ nonblock, state = .listening → net.tcpSocketReadable index ≠ 0 →
    ∃ id, (net.tcpSocketAccept index nonblock).2 = some (.ok id)
  bytes : ∀ len nonblock, state = .connected ∨ state = .closedByPeer →
    net.tcpSocketReadable index ≠ 0 → ∃ bytes : List UInt8,
      (net.tcpSocketRecv index len nonblock).2 = some (.ok bytes) ∧
        bytes.length = min len (net.tcpSocketReadable index)
  hup : ∀ len nonblock, net.tcpSocketHup index = true → net.tcpSocketReadable index = 0 →
    (net.tcpSocketRecv index len nonblock).2 = some (.ok [])
  /-- a write that is reported ready sends, or tells the error -/
  write : net.tcpSocketWritable txPoolFree index = true → ∀ len nonblock sndbuf, 0 < sndbuf →
    (txPoolFree = true ∧ net.tcpSocketWrite index len nonblock sndbuf none =
        some (.ok (tcpWriteChunk len sndbuf))) ∨ net.tcpSocketErr index ≠ none
  connecting : state = .connecting → net.Quiet index ∧
    net.tcpSocketWritable txPoolFree index = false
  /-- `SO_ERROR` and the write tell one error, the one lwIP gave -/
  error : ∀ errno, net.tcpSocketErr index = some errno ↔ state = .error ∧
    ∀ len nonblock sndbuf answer, net.tcpSocketWrite index len nonblock sndbuf answer =
      some (.error errno)

variable {index : Int}

theorem readable_of_state (found : socketLookup index = some id)
    (state : (net.sockets id).state ≠ .listening) :
    net.tcpSocketReadable index = (net.sockets id).rx.len := by
  simp only [tcpSocketReadable, found, if_neg state]

theorem readable_listening (found : socketLookup index = some id)
    (state : (net.sockets id).state = .listening) :
    net.tcpSocketReadable index = 0 ↔ (net.sockets id).acceptQueue.isEmpty = true := by
  simp only [tcpSocketReadable, found, state, if_true]
  cases (net.sockets id).acceptQueue.isEmpty <;> simp

theorem quiet_of_state (found : socketLookup index = some id)
    (open_ : (net.sockets id).state ≠ .closedByPeer) (well : (net.sockets id).state ≠ .error) :
    net.Quiet index ↔ net.tcpSocketReadable index = 0 := by
  simp [Net.Quiet, tcpSocketHup, tcpSocketErr, found, tcpStateHup, open_, well]

theorem recv_of_gate (found : socketLookup index = some id) (len : Nat) (nonblock : Bool) :
    (net.tcpSocketRecv index len nonblock).2 =
      match tcpRecvGate (net.sockets id).state ((net.sockets id).rx.len != 0) nonblock with
      | .eof => some (.ok [])
      | .wouldBlock => some (.error .EAGAIN)
      | .notConnected => some (.error .ENOTCONN)
      | .block => none
      | .copy => some (.ok ((net.sockets id).rx.drain SOCKET_BUF_SIZE len).1) := by
  simp only [tcpSocketRecv, found]
  cases tcpRecvGate (net.sockets id).state ((net.sockets id).rx.len != 0) nonblock <;> rfl

/-- A read waits on an empty ring of a connected socket. -/
theorem recv_waits_iff (found : socketLookup index = some id) (len : Nat) :
    ((net.tcpSocketRecv index len false).2 = none ↔
      (net.sockets id).state = .connected ∧ (net.sockets id).rx.len = 0) ∧
    ((net.tcpSocketRecv index len true).2 = some (.error .EAGAIN) ↔
      (net.sockets id).state = .connected ∧ (net.sockets id).rx.len = 0) := by
  rw [recv_of_gate found, recv_of_gate found]
  cases (net.sockets id).state <;> by_cases empty : (net.sockets id).rx.len = 0 <;>
    simp [tcpRecvGate, empty]

theorem honest_recv (found : socketLookup index = some id) (len : Nat) :
    ((net.tcpSocketRecv index len false).2 = none ↔
      (net.sockets id).state = .connected ∧ net.Quiet index) ∧
    ((net.tcpSocketRecv index len true).2 = some (.error .EAGAIN) ↔
      (net.sockets id).state = .connected ∧ net.Quiet index) := by
  have quiet (state : (net.sockets id).state = .connected) :
      (net.sockets id).rx.len = 0 ↔ net.Quiet index := by
    rw [quiet_of_state found (by simp [state]) (by simp [state]),
      readable_of_state found (by simp [state])]
  obtain ⟨waits, again⟩ := recv_waits_iff found len
  exact ⟨waits.trans (and_congr_right quiet), again.trans (and_congr_right quiet)⟩

theorem honest_accept (found : socketLookup index = some id) :
    ((net.tcpSocketAccept index false).2 = none ↔
      (net.sockets id).state = .listening ∧ net.Quiet index) ∧
    ((net.tcpSocketAccept index true).2 = some (.error .EAGAIN) ↔
      (net.sockets id).state = .listening ∧ net.Quiet index) := by
  have quiet (state : (net.sockets id).state = .listening) :
      (net.sockets id).acceptQueue.isEmpty = true ↔ net.Quiet index := by
    rw [quiet_of_state found (by simp [state]) (by simp [state]), readable_listening found state]
  have never (accepted : Except Errno SocketId) (pending : accepted = (net.acceptPending id).2) :
      accepted ≠ .error .EAGAIN := by
    subst pending
    unfold Net.acceptPending
    cases (net.sockets id).acceptQueue.pop <;> simp
  by_cases state : (net.sockets id).state = .listening
  · have pending := never _ rfl
    rw [← quiet state]
    cases empty : (net.sockets id).acceptQueue.isEmpty <;>
      simp [tcpSocketAccept, found, tcpAcceptAllowed, state, empty, pending]
  · simp [tcpSocketAccept, found, tcpAcceptAllowed, state]

theorem honest_pending (found : socketLookup index = some id) (nonblock : Bool)
    (state : (net.sockets id).state = .listening) (ready : net.tcpSocketReadable index ≠ 0) :
    ∃ slot, (net.tcpSocketAccept index nonblock).2 = some (.ok slot) := by
  rw [ne_eq, readable_listening found state, Bool.not_eq_true] at ready
  simp only [tcpSocketAccept, found, tcpAcceptAllowed, state, decide_true, Bool.not_true,
    Bool.false_eq_true, if_false, ready]
  unfold Net.acceptPending RingQueue.pop
  rw [ready]
  exact ⟨_, rfl⟩

theorem Net.Tells.honest_bytes (tells : net.Tells) (found : socketLookup index = some id)
    (len : Nat) (nonblock : Bool)
    (state : (net.sockets id).state = .connected ∨ (net.sockets id).state = .closedByPeer)
    (ready : net.tcpSocketReadable index ≠ 0) : ∃ bytes : List UInt8,
      (net.tcpSocketRecv index len nonblock).2 = some (.ok bytes) ∧
        bytes.length = min len (net.tcpSocketReadable index) := by
  have quiet : (net.sockets id).state ≠ .listening := by
    rcases state with state | state <;> rw [state] <;> decide
  rw [readable_of_state found quiet] at ready ⊢
  have copies : tcpRecvGate (net.sockets id).state ((net.sockets id).rx.len != 0) nonblock =
      .copy := by
    rcases state with state | state <;> simp [tcpRecvGate, state, ready]
  refine ⟨((net.sockets id).rx.drain SOCKET_BUF_SIZE len).1, ?_, ?_⟩
  · rw [recv_of_gate found, copies]
  · rw [((tells id).ring.drain len).2.1, List.length_take, ReceiveRing.contents,
      Circular.length_contents]

theorem honest_hup (found : socketLookup index = some id) (len : Nat) (nonblock : Bool)
    (hup : net.tcpSocketHup index = true) (empty : net.tcpSocketReadable index = 0) :
    (net.tcpSocketRecv index len nonblock).2 = some (.ok []) := by
  have state : (net.sockets id).state = .closedByPeer := by
    simpa [tcpSocketHup, found, tcpStateHup] using hup
  rw [readable_of_state found (by simp [state])] at empty
  rw [recv_of_gate found]
  simp [tcpRecvGate, state, empty]

theorem honest_write (found : socketLookup index = some id) {txPoolFree : Bool}
    (ready : net.tcpSocketWritable txPoolFree index = true) (len : Nat) (nonblock : Bool)
    {sndbuf : Nat} (room : 0 < sndbuf) :
    (txPoolFree = true ∧ net.tcpSocketWrite index len nonblock sndbuf none =
        some (.ok (tcpWriteChunk len sndbuf))) ∨ net.tcpSocketErr index ≠ none := by
  have some_ : sndbuf ≠ 0 := Nat.ne_of_gt room
  simp only [tcpSocketWritable, found] at ready
  cases state : (net.sockets id).state <;> rw [state] at ready <;>
    simp_all [tcpStateWritable, tcpSocketWrite, tcpWriteGate, tcpSocketErr]

theorem Net.Tells.honest_connecting (tells : net.Tells) (found : socketLookup index = some id)
    (txPoolFree : Bool) (state : (net.sockets id).state = .connecting) :
    net.Quiet index ∧ net.tcpSocketWritable txPoolFree index = false := by
  constructor
  · rw [quiet_of_state found (by simp [state]) (by simp [state]),
      readable_of_state found (by simp [state])]
    exact (tells id).unread (by rw [state]; rfl)
  · simp [tcpSocketWritable, found, tcpStateWritable, state]

theorem Net.Tells.honest_error (tells : net.Tells) (found : socketLookup index = some id)
    (errno : Errno) :
    net.tcpSocketErr index = some errno ↔ (net.sockets id).state = .error ∧
      ∀ len nonblock sndbuf answer, net.tcpSocketWrite index len nonblock sndbuf answer =
        some (.error errno) := by
  by_cases state : (net.sockets id).state = .error
  · obtain ⟨cause, given⟩ := Option.isSome_iff_exists.mp ((tells id).failed state)
    simp [tcpSocketErr, tcpSocketWrite, tcpWriteGate, found, state, given]
  · simp [tcpSocketErr, found, state]

theorem Net.Tells.honest (tells : net.Tells) (txPoolFree : Bool)
    (found : socketLookup index = some id) :
    net.Honest txPoolFree index (net.sockets id).state where
  recv := honest_recv found
  accept := honest_accept found
  pending := honest_pending found
  bytes := tells.honest_bytes found
  hup := honest_hup found
  write := fun ready len nonblock _ => honest_write found ready len nonblock
  connecting := tells.honest_connecting found txPoolFree
  error := tells.honest_error found

/-- In every run. -/
theorem runs_honest {log : List Entry} (runs : Runs log net) (txPoolFree : Bool)
    (found : socketLookup index = some id) :
    net.Honest txPoolFree index (net.sockets id).state :=
  runs.tells.honest txPoolFree found

/-- A connection that was accepted is reset. -/
theorem runs_honest_reset :
    ∃ log net, Runs log net ∧ net.tcpSocketErr 1 = some .ECONNRESET ∧
      ∀ len nonblock sndbuf answer,
        net.tcpSocketWrite 1 len nonblock sndbuf answer = some (.error .ECONNRESET) := by
  have runs : Runs _ _ := .step (.step (.step (.step (.step .initial
    (rfl : Net.initial.step (.socket (some 1)) = _))
    (rfl : Net.step _ (.listen 0 (some 2)) = _)) (rfl : Net.step _ (.incoming 2 3 none) = _))
    (rfl : Net.step _ (.accept 0 false) = _)) (rfl : Net.step _ (.failed 3 .rst) = _)
  have told := (runs_honest runs true (rfl : socketLookup 1 = some 1)).error .ECONNRESET
  exact ⟨_, _, runs, rfl, (told.mp rfl).2⟩

end Chrysopolis.Tcp
