import Chrysopolis.Tcp.Run

/-! What becomes of each connection that the accept callback queues, step by step, and
what a step owes to the slots that wait. -/

set_option autoImplicit false

namespace Chrysopolis.Tcp

open Net

inductive Entry where
  /-- the accept callback has queued a slot -/
  | queued (id : SocketId)
  /-- an accept has handed it to the application -/
  | handed (id : SocketId)
  /-- `socket_drain_backlog` has dropped it -/
  | drained (id : SocketId)
  /-- the error callback has reached a listening slot -/
  | struck (listener : SocketId)
  deriving Repr, DecidableEq

namespace Net

/-- The slots that `socket_drain_backlog` pops, in its order. -/
def drainedSlots (net : Net) (listener : SocketId) (answer : Nat → Closed) : Nat → List SocketId
  | 0 => []
  | fuel + 1 =>
      match (net.sockets listener).acceptQueue.pop with
      | none => []
      | some (id, queue) =>
          id :: drainedSlots (dropPending (net.setSocket listener fun socket =>
            { socket with acceptQueue := queue }) id answer) listener answer fuel

/-- What `tcp_socket_close_int` drains. -/
def closeIntSlots (net : Net) (id : SocketId) (answer : Nat → Closed) : List SocketId :=
  if (net.sockets id).state = .listening then net.drainedSlots id answer MAX_LISTEN_BACKLOG
  else []

/-- What `tcp_socket_close` drains. -/
def closeSlots (net : Net) (index : Int) (answer : Nat → Closed) : List SocketId :=
  match socketLookup index with
  | none => []
  | some id =>
      match tcpRefRelease (net.refcount id) with
      | (.last, refs) => (net.setRefs id refs).closeIntSlots id answer
      | (.shared, _) => []
      | (.underflow, _) => net.closeIntSlots id answer

/-- The slot that the accept callback queues. -/
def queuedSlot (net : Net) (arg : Option SocketId) (newpcb : Nat) (err : Option Err) :
    Option SocketId :=
  match (net.tcpSocketAcceptCb arg newpcb err).2 with
  | none => net.freeSocket
  | some _ => none

/-- What one step does with queued connections. -/
def entries (net : Net) : Event → List Entry
  | .accept index nonblock =>
      match (net.tcpSocketAccept index nonblock).2 with
      | some (.ok id) => [.handed id]
      | _ => []
  | .acceptWoken listener =>
      match (net.acceptPending listener).2 with
      | .ok id => [.handed id]
      | .error _ => []
  | .close index answer => (net.closeSlots index answer).map .drained
  | .failed address _ =>
      match (net.pcbs address).bind (·.arg) with
      | some id => if (net.sockets id).state = .listening then [.struck id] else []
      | none => []
  | .incoming address newpcb err =>
      match net.pcbs address with
      | none => []
      | some pcb =>
          let made := net.newPcb newpcb
            { arg := none, listening := false, connecting := false, receives := false }
          (made.queuedSlot pcb.arg newpcb err).toList.map .queued
  | _ => []

/-- The slots of all backlogs. -/
def waiting (net : Net) : List SocketId := (List.finRange MAX_SOCKETS).flatMap net.backlog

end Net

/-- The states that runs reach, with what each run did with queued connections. -/
inductive Runs : List Entry → Net → Prop where
  | initial : Runs [] Net.initial
  | step {log : List Entry} {net next : Net} {event : Event} :
      Runs log net → net.step event = some next → Runs (log ++ net.entries event) next

/-- lwIP has no error callback for a listening PCB: none of a run reaches one. -/
def Unstruck (log : List Entry) : Prop := ∀ listener, Entry.struck listener ∉ log

/-- Who owns what in one state. -/
structure Net.Owned (net : Net) : Prop where
  /-- every change of state was one that `tcp_state_transition_allowed` permits -/
  expected : net.unexpected = []
  distinct : net.waiting.Nodup
  waiting : ∀ id ∈ net.waiting, net.refcount id = 0 ∧ ((net.sockets id).state = .connected ∨
    (net.sockets id).state = .closedByPeer ∨ (net.sockets id).state = .error)
  bare : ∀ id, (net.sockets id).state = .error ∨ (net.sockets id).state = .unallocated →
    (net.sockets id).sockTpcb = none ∧
      ∀ address pcb, net.pcbs address = some pcb → pcb.arg ≠ some id
  counted : ∀ id, 0 ≤ net.refcount id

/-- Only a close takes the last reference, and runs the teardown then. -/
structure Net.TearsDown (net : Net) (event : Event) (next : Net) : Prop where
  zeroed : ∀ id, net.refcount id ≠ 0 → next.refcount id = 0 → net.refcount id = 1 ∧
    ∃ index answer, event = .close index answer ∧ socketLookup index = some id
  last : ∀ index answer id, event = .close index answer → socketLookup index = some id →
    net.refcount id = 1 →
      next = ((net.setRefs id 0).tcpSocketCloseInt id answer).1 ∧ next.refcount id = 0
  shared : ∀ index answer id, event = .close index answer → socketLookup index = some id →
    1 < net.refcount id → next = net.setRefs id (net.refcount id - 1)

/-- A slot that waits is handed over, dropped, or waits on with the PCB it had. -/
def Net.Keeps (net : Net) (event : Event) (next : Net) : Prop :=
  ∀ id ∈ net.waiting, .handed id ∈ net.entries event ∨ .drained id ∈ net.entries event ∨
    id ∈ next.waiting ∧ ((next.sockets id).sockTpcb = (net.sockets id).sockTpcb ∨
      (next.sockets id).state = .error)

end Chrysopolis.Tcp
