import Chrysopolis.Tcp.Socket

/-! Runs of the socket layer: calls of the application and callbacks of lwIP, in any
order. A callback runs between two calls, or while a call is parked. -/

set_option autoImplicit false

namespace Chrysopolis.Tcp

open Net

/-- One call or callback, with the answers of lwIP that it gets. -/
inductive Event where
  | socket (tpcb : Option Nat)
  | bind (index : Int) (available : Bool) (answer : Option Err)
  | connect (index : Int) (answer : Option Err)
  | listen (index : Int) (answer : Option Nat)
  | accept (index : Int) (nonblock : Bool)
  /-- an accept that was parked goes on -/
  | acceptWoken (listener : SocketId)
  | dup (index : Int)
  | close (index : Int) (answer : Nat → Closed)
  | recv (index : Int) (len : Nat) (nonblock : Bool)
  /-- the connect of a PCB is done -/
  | connected (address : Nat)
  /-- bytes for a PCB, or the peer's FIN -/
  | received (address : Nat) (p : Option (List UInt8))
  /-- lwIP frees a PCB and calls its error callback -/
  | failed (address : Nat) (err : Err)
  /-- a connection for a listening PCB -/
  | incoming (address newpcb : Nat) (err : Option Err)

/-- The slots that wait in the backlog of a listening socket, oldest first. -/
def Net.backlog (net : Net) (listener : SocketId) : List SocketId :=
  (net.sockets listener).acceptQueue.entries

/-- The application never saw the index of a queued connection, so it does not close one. -/
def Net.unseen (net : Net) (index : Int) : Bool :=
  match socketLookup index with
  | none => false
  | some id => (List.finRange MAX_SOCKETS).any fun listener => id ∈ net.backlog listener

/-- A PCB that lwIP makes is none of those it still has. -/
def Net.fresh (net : Net) (address : Option Nat) : Bool :=
  address.all fun address => (net.pcbs address).isNone

/-- One step, or nothing where it cannot be taken. -/
def Net.step (net : Net) : Event → Option Net
  | .socket tpcb => if net.fresh tpcb then some (net.socket tpcb).1 else none
  | .bind index available answer => some (net.tcpSocketBind index available answer).1
  | .connect index answer => some (net.tcpSocketConnect index answer).1
  | .listen index answer =>
      if net.fresh answer then some (net.tcpSocketListen index answer).1 else none
  | .accept index nonblock => some (net.tcpSocketAccept index nonblock).1
  | .acceptWoken listener => some (net.acceptPending listener).1
  | .dup index => some (net.tcpSocketDup index).1
  | .close index answer =>
      if net.unseen index then none else some (net.tcpSocketClose index answer).1
  | .recv index len nonblock => some (net.tcpSocketRecv index len nonblock).1
  | .connected address => do
      let pcb ← net.pcbs address
      if pcb.connecting then
        some ((net.setPcb (some address) fun pcb =>
          { pcb with connecting := false }).socketConnected pcb.arg address)
      else none
  | .received address p => do
      let pcb ← net.pcbs address
      let id ← pcb.arg
      if pcb.receives then some (net.socketRecvCallback id p).1 else none
  | .failed address err => do
      let pcb ← net.pcbs address
      some ((net.freePcb address).socketErrFunc pcb.arg err)
  | .incoming address newpcb err => do
      let pcb ← net.pcbs address
      if pcb.listening && net.fresh (some newpcb) then
        let made := net.newPcb newpcb
          { arg := none, listening := false, connecting := false, receives := false }
        match made.tcpSocketAcceptCb pcb.arg newpcb err with
        | (accepted, none) => some accepted
        | (refused, some _) => some (refused.tcpAbort (some newpcb))
      else none

/-- `sockets` and `socket_refcount` as the image has them; lwIP has no PCB. -/
def Net.initial : Net where
  sockets := fun _ =>
    { sockTpcb := none
      state := .unallocated
      lastError := none
      rx := { buf := fun _ => 0, head := 0, len := 0 }
      acceptQueue := { slots := fun _ => 0, head := 0, tail := 0 } }
  refcount := fun _ => 0
  pcbs := fun _ => none
  unexpected := []

/-- The states that steps reach when each step meets a condition on the state before it. -/
inductive Reaches (condition : Net → Event → Prop) : Net → Prop where
  | initial : Reaches condition Net.initial
  | step {net next : Net} {event : Event} :
      Reaches condition net → condition net event → net.step event = some next →
      Reaches condition next

/-- No step takes away what holds a slot: the last reference to a listening socket is not
closed, no close of a connected one frees its PCB at once, and the error callback reaches
no closing slot and no listening one with a backlog. -/
def Net.KeepsHolders (net : Net) : Event → Prop
  | .close index answer => ∀ id, socketLookup index = some id → net.refcount id = 1 →
      (net.sockets id).state ≠ .listening ∧
        ((net.sockets id).state = .connected → ∀ address,
          (net.sockets id).sockTpcb = some address → answer address ≠ .freed)
  | .failed address _ => ∀ pcb, net.pcbs address = some pcb → ∀ id, pcb.arg = some id →
      (net.sockets id).state ≠ .closing ∧ net.backlog id = []
  | _ => True

/-- Queued in the backlog of one listening socket, and once. -/
def Net.Queued (net : Net) (id : SocketId) : Prop :=
  ∃ listener, (net.sockets listener).state = .listening ∧ (net.backlog listener).count id = 1 ∧
    ∀ other, id ∈ net.backlog other → other = listener

/-- Closing with a live PCB whose callbacks reach the slot. -/
def Net.Finishing (net : Net) (id : SocketId) : Prop :=
  (net.sockets id).state = .closing ∧ ∃ address pcb, (net.sockets id).sockTpcb = some address ∧
    net.pcbs address = some pcb ∧ pcb.arg = some id ∧ pcb.receives = true

/-- Every slot in use is held by a reference, by a backlog or by a PCB that will return it. -/
def Net.NoLeak (net : Net) : Prop :=
  ∀ id, (net.sockets id).state ≠ .unallocated →
    1 ≤ net.refcount id ∨ net.Queued id ∨ net.Finishing id

end Chrysopolis.Tcp
