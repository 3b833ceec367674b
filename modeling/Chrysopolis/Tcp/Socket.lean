import Chrysopolis.Support.RingQueue
import Chrysopolis.Tcp.ReceiveRing
import Chrysopolis.Tcp.State

/-! `tcp.c`: the socket slots, the socket calls and the lwIP callbacks. What lwIP answers
is a parameter of the call that asks it. Semaphores only wake parked calls, which read
the slot again, so a call that parks is one that is made again or goes on later. -/

set_option autoImplicit false

namespace Chrysopolis.Tcp

open Chrysopolis.Support

/-- `err_t`, apart from `ERR_OK`. -/
inductive Err where
  | mem | buf | timeout | rte | inprogress | val | wouldblock | use | already | isconn | conn
  | netif | abrt | rst | clsd | arg
  /-- a value the table has no entry for -/
  | unknown
  deriving Repr, DecidableEq

inductive Errno where
  | EADDRINUSE | EADDRNOTAVAIL | EAGAIN | EALREADY | EBADF | ECONNABORTED | ECONNRESET
  | EHOSTUNREACH | EINPROGRESS | EINVAL | EIO | EISCONN | ENOBUFS | ENODEV | ENOMEM | ENOTCONN
  | ETIMEDOUT
  deriving Repr, DecidableEq

/-- `lwip_errno` with the table `lwip_err_to_errno`. -/
def lwipErrno : Err → Errno
  | .mem => .ENOMEM
  | .buf => .ENOBUFS
  | .timeout => .ETIMEDOUT
  | .rte => .EHOSTUNREACH
  | .inprogress => .EINPROGRESS
  | .val => .EINVAL
  | .wouldblock => .EAGAIN
  | .use => .EADDRINUSE
  | .already => .EALREADY
  | .isconn => .EISCONN
  | .conn => .ENOTCONN
  | .netif => .ENODEV
  | .abrt => .ECONNABORTED
  | .rst => .ECONNRESET
  | .clsd => .ENOTCONN
  | .arg => .EINVAL
  | .unknown => Errno.EIO

abbrev MAX_SOCKETS : Nat := 10

abbrev MAX_LISTEN_BACKLOG : Nat := 10

abbrev SocketId := Fin MAX_SOCKETS

/-- `socket_t` -/
structure Socket where
  sockTpcb : Option Nat
  state : SocketState
  lastError : Option Errno
  rx : ReceiveRing
  acceptQueue : RingQueue MAX_LISTEN_BACKLOG SocketId

/-- What a live `tcp_pcb` has of this file: its argument and its callbacks. -/
structure Pcb where
  arg : Option SocketId
  listening : Bool
  /-- a connect was taken and `socket_connected` not called yet -/
  connecting : Bool
  /-- `tcp_recv` has registered `socket_recv_callback` -/
  receives : Bool
  deriving Repr, DecidableEq

/-- The slots, their reference counts and the PCBs that lwIP has not freed, by address. -/
structure Net where
  sockets : SocketId → Socket
  refcount : SocketId → Int
  pcbs : Nat → Option Pcb
  /-- the transitions reported as unexpected -/
  unexpected : List (SocketId × SocketState × SocketState)

/-- `socket_lookup` -/
def socketLookup (index : Int) : Option SocketId :=
  if valid : 0 ≤ index ∧ index < MAX_SOCKETS then some ⟨index.toNat, by omega⟩ else none

namespace Net

/-- A store to the fields of one slot. -/
def setSocket (net : Net) (id : SocketId) (f : Socket → Socket) : Net :=
  { net with sockets := Function.update net.sockets id (f (net.sockets id)) }

/-- A store to one reference count. -/
def setRefs (net : Net) (id : SocketId) (refs : Int) : Net :=
  { net with refcount := Function.update net.refcount id refs }

/-! ## lwIP -/

/-- A store to a PCB. lwIP ignores a null one. -/
def setPcb (net : Net) (tpcb : Option Nat) (f : Pcb → Pcb) : Net :=
  match tpcb with
  | none => net
  | some address =>
      { net with pcbs := Function.update net.pcbs address ((net.pcbs address).map f) }

/-- lwIP frees a PCB. -/
def freePcb (net : Net) (address : Nat) : Net :=
  { net with pcbs := Function.update net.pcbs address none }

/-- lwIP makes a PCB. -/
def newPcb (net : Net) (address : Nat) (pcb : Pcb) : Net :=
  { net with pcbs := Function.update net.pcbs address (some pcb) }

/-- `tcp_arg` -/
def tcpArg (net : Net) (tpcb : Option Nat) (arg : Option SocketId) : Net :=
  net.setPcb tpcb fun pcb => { pcb with arg := arg }

/-- `tcp_recv` -/
def tcpRecv (net : Net) (tpcb : Option Nat) (receives : Bool) : Net :=
  net.setPcb tpcb fun pcb => { pcb with receives := receives }

/-- How `tcp_close` ends. A listening PCB is freed whatever the answer. -/
inductive Closed where
  | refused (err : Err)
  /-- taken: the PCB closes in its own time, its callbacks as they were -/
  | pending
  /-- taken, and the PCB is gone with no further callback -/
  | freed
  deriving Repr, DecidableEq

/-- `tcp_close` -/
def tcpClose (net : Net) (tpcb : Option Nat) (answer : Closed) : Net × Option Err :=
  match tpcb with
  | none => (net, some .arg)
  | some address =>
      if (net.pcbs address).any (·.listening) then (net.freePcb address, none)
      else match answer with
        | .refused err => (net, some err)
        | .pending => (net, none)
        | .freed => (net.freePcb address, none)

/-! ## Slots -/

/-- `socket_set_state` -/
def socketSetState (net : Net) (id : SocketId) (target : SocketState) : Net :=
  let source := (net.sockets id).state
  let set := net.setSocket id fun socket => { socket with state := target }
  if tcpStateTransitionAllowed source target then set
  else { set with unexpected := (id, source, target) :: set.unexpected }

/-- `socket_clear` -/
def socketClear (net : Net) (id : SocketId) : Net :=
  (net.setSocket id fun socket => { socket with
    sockTpcb := none
    rx := { socket.rx with head := 0, len := 0 }
    lastError := none
    acceptQueue := socket.acceptQueue.reset }).setRefs id 0

/-- `socket_release` -/
def socketRelease (net : Net) (id : SocketId) : Net :=
  (net.socketSetState id .unallocated).socketClear id

/-- `socket_err_func` -/
def socketErrFunc (net : Net) (arg : Option SocketId) (err : Err) : Net :=
  match arg with
  | none => net
  | some id =>
      (net.socketSetState id .error).setSocket id fun socket =>
        { socket with lastError := some (lwipErrno err), sockTpcb := none }

/-- `tcp_abort`: the PCB is freed and its error callback called. -/
def tcpAbort (net : Net) (tpcb : Option Nat) : Net :=
  match tpcb with
  | none => net
  | some address =>
      (net.freePcb address).socketErrFunc ((net.pcbs address).bind (·.arg)) .abrt

/-- `socket_detach_pcb` -/
def socketDetachPcb (net : Net) (tpcb : Option Nat) : Net :=
  (net.tcpArg tpcb none).tcpRecv tpcb false

/-- `socket_close_pcb` -/
def socketClosePcb (net : Net) (tpcb : Option Nat) (answer : Closed) : Net :=
  match (net.socketDetachPcb tpcb).tcpClose tpcb answer with
  | (closed, none) => closed
  | (refused, some _) => refused.tcpAbort tpcb

/-! ## Callbacks -/

/-- `socket_recv_callback`: a pbuf's bytes, or none for the peer's FIN. -/
def socketRecvCallback (net : Net) (id : SocketId) (p : Option (List UInt8)) :
    Net × Option Err :=
  let socket := net.sockets id
  match socket.state with
  | .connected =>
      match p with
      | some bytes =>
          if tcpRxCanAccept socket.rx.len bytes.length SOCKET_BUF_SIZE then
            (net.setSocket id fun socket =>
              { socket with rx := socket.rx.fill SOCKET_BUF_SIZE bytes }, none)
          else (net, some .mem)
      | none => (net.socketSetState id .closedByPeer, none)
  | .allocated | .closing =>
      match p with
      | some _ => (net, none)
      | none => ((net.tcpArg socket.sockTpcb none).socketRelease id, none)
  | _ => (net, some .arg)

/-- `socket_connected` -/
def socketConnected (net : Net) (arg : Option SocketId) (address : Nat) : Net :=
  match arg with
  | none => net
  | some id => (net.socketSetState id .connected).tcpRecv (some address) true

/-- The free slot that `socket_allocate` takes: the first. -/
def freeSocket (net : Net) : Option SocketId :=
  (List.finRange MAX_SOCKETS).find? fun id => (net.sockets id).state = .unallocated

/-- `socket_allocate` -/
def socketAllocate (net : Net) : Net × Except Errno SocketId :=
  match net.freeSocket with
  | none => (net, .error .ENOMEM)
  | some id => ((net.socketClear id).socketSetState id .allocated, .ok id)

/-- `tcp_socket_accept_cb` for a connection lwIP has just made a PCB for. -/
def tcpSocketAcceptCb (net : Net) (arg : Option SocketId) (newpcb : Nat) (err : Option Err) :
    Net × Option Err :=
  match arg with
  | none => (net, some .arg)
  | some listener =>
      if !tcpAcceptAllowed (net.sockets listener).state then (net, some .arg)
      else match err with
        | some err => (net, some err)
        | none =>
            match net.socketAllocate with
            | (full, .error _) => (full, some .mem)
            | (allocated, .ok id) =>
                let owned := allocated.setSocket id fun socket =>
                  { socket with sockTpcb := some newpcb }
                let wired := ((owned.socketSetState id .connected).tcpArg (some newpcb)
                  (some id)).tcpRecv (some newpcb) true
                match (wired.sockets listener).acceptQueue.push id with
                | none => ((wired.socketDetachPcb (some newpcb)).socketRelease id, some .mem)
                | some queued =>
                    (wired.setSocket listener fun socket =>
                      { socket with acceptQueue := queued }, none)

/-! ## Socket calls -/

/-- `tcp_socket_init` of a slot just allocated, with the PCB `tcp_new_ip_type` gave. -/
def tcpSocketInit (net : Net) (id : SocketId) (tpcb : Option Nat) : Net × Except Errno Unit :=
  if (net.sockets id).state ≠ .allocated then (net, .error .EINVAL)
  else
    let owned := net.setSocket id fun socket => { socket with sockTpcb := tpcb }
    match tpcb with
    | none => (owned, .error .ENOMEM)
    | some address =>
        let made := owned.newPcb address
          { arg := none, listening := false, connecting := false, receives := false }
        let ready := made.setSocket id fun socket =>
          { socket with acceptQueue := socket.acceptQueue.reset }
        ((ready.tcpArg tpcb (some id)).setRefs id 1, .ok ())

/-- `tcp_socket_bind`; `available` is whether the address is a local interface's or any. -/
def tcpSocketBind (net : Net) (index : Int) (available : Bool) (answer : Option Err) :
    Net × Except Errno Unit :=
  match socketLookup index with
  | none => (net, .error .EBADF)
  | some id =>
      if !tcpBindAllowed (net.sockets id).state then (net, .error .EINVAL)
      else if !available then (net, .error .EADDRNOTAVAIL)
      else match answer with
        | some err => (net, .error (lwipErrno err))
        | none => (net.socketSetState id .bound, .ok ())

/-- `tcp_socket_connect` up to where a blocking call parks; a call that does not block
answers `EINPROGRESS`. -/
def tcpSocketConnect (net : Net) (index : Int) (answer : Option Err) : Net × Except Errno Unit :=
  match socketLookup index with
  | none => (net, .error .EBADF)
  | some id =>
      match tcpConnectGate (net.sockets id).state with
      | .alreadyConnected => (net, .error .EISCONN)
      | .inProgress => (net, .error .EALREADY)
      | .invalid => (net, .error .EINVAL)
      | .start =>
          match answer with
          | some err => (net, .error (lwipErrno err))
          | none =>
              ((net.setPcb (net.sockets id).sockTpcb fun pcb =>
                { pcb with connecting := true }).socketSetState id .connecting,
                .error .EINPROGRESS)

/-- `tcp_socket_listen`, with what `tcp_listen_with_backlog` gave. lwIP frees the old PCB
and the listening one has its argument. -/
def tcpSocketListen (net : Net) (index : Int) (answer : Option Nat) : Net × Except Errno Unit :=
  match socketLookup index with
  | none => (net, .error .EBADF)
  | some id =>
      if !tcpListenAllowed (net.sockets id).state then (net, .error .EINVAL)
      else match (net.sockets id).sockTpcb, answer with
        | some old, some address =>
            let arg := (net.pcbs old).bind (·.arg)
            let listening := (net.freePcb old).newPcb address
              { arg := arg, listening := true, connecting := false, receives := false }
            ((listening.setSocket id fun socket =>
              { socket with sockTpcb := some address }).socketSetState id .listening, .ok ())
        | _, _ => (net, .error .ENOMEM)

/-- The end of `tcp_socket_accept`: the oldest connection of the backlog. -/
def acceptPending (net : Net) (listener : SocketId) : Net × Except Errno SocketId :=
  match (net.sockets listener).acceptQueue.pop with
  | none => (net, .error .ENOMEM)
  | some (id, queue) =>
      ((net.setSocket listener fun socket => { socket with acceptQueue := queue }).setRefs id 1,
        .ok id)

/-- `tcp_socket_accept`; a call that would park has done nothing yet and answers `none`. -/
def tcpSocketAccept (net : Net) (index : Int) (nonblock : Bool) :
    Net × Option (Except Errno SocketId) :=
  match socketLookup index with
  | none => (net, some (.error .EBADF))
  | some listener =>
      if !tcpAcceptAllowed (net.sockets listener).state then (net, some (.error .EINVAL))
      else if (net.sockets listener).acceptQueue.isEmpty then
        (net, if nonblock then some (.error .EAGAIN) else none)
      else
        let accepted := net.acceptPending listener
        (accepted.1, some accepted.2)

/-- `tcp_socket_recv`; a call that would park has done nothing yet and answers `none`. -/
def tcpSocketRecv (net : Net) (index : Int) (len : Nat) (nonblock : Bool) :
    Net × Option (Except Errno (List UInt8)) :=
  match socketLookup index with
  | none => (net, some (.error .EBADF))
  | some id =>
      let socket := net.sockets id
      match tcpRecvGate socket.state (socket.rx.len != 0) nonblock with
      | .eof => (net, some (.ok []))
      | .wouldBlock => (net, some (.error .EAGAIN))
      | .notConnected => (net, some (.error .ENOTCONN))
      | .block => (net, none)
      | .copy =>
          let drained := socket.rx.drain SOCKET_BUF_SIZE len
          (net.setSocket id fun socket => { socket with rx := drained.2 }, some (.ok drained.1))

/-- One queued connection of `socket_drain_backlog`. -/
def dropPending (net : Net) (id : SocketId) (answer : Nat → Closed) : Net :=
  let closed := match (net.sockets id).sockTpcb with
    | none => net
    | some address => net.socketClosePcb (some address) (answer address)
  closed.socketRelease id

/-- `socket_drain_backlog`; `answer` is what `tcp_close` says of each PCB. -/
def socketDrainBacklog (net : Net) (listener : SocketId) (answer : Nat → Closed) (fuel : Nat) :
    Net :=
  match fuel with
  | 0 => net
  | fuel + 1 =>
      match (net.sockets listener).acceptQueue.pop with
      | none => net
      | some (id, queue) =>
          socketDrainBacklog
            (dropPending (net.setSocket listener fun socket =>
              { socket with acceptQueue := queue }) id answer) listener answer fuel

/-- `tcp_socket_close_int` -/
def tcpSocketCloseInt (net : Net) (id : SocketId) (answer : Nat → Closed) :
    Net × Except Errno Unit :=
  let tpcb := (net.sockets id).sockTpcb
  let answered := (tpcb.map answer).getD .pending
  match tcpCloseAction (net.sockets id).state with
  | .begin =>
      let drained :=
        if (net.sockets id).state = .listening then
          net.socketDrainBacklog id answer MAX_LISTEN_BACKLOG
        else net
      match (drained.socketSetState id .closing).tcpClose tpcb answered with
      | (closed, some err) => (closed, .error (lwipErrno err))
      | (closed, none) => (closed, .ok ())
  | .abortConnecting => (((net.tcpArg tpcb none).tcpAbort tpcb).socketRelease id, .ok ())
  | .releasePeerClosed => ((net.socketClosePcb tpcb answered).socketRelease id, .ok ())
  | .releaseIdle =>
      ((if tpcb = none then net else net.socketClosePcb tpcb answered).socketRelease id, .ok ())
  | .invalid => (net, .error .EBADF)

/-- `tcp_socket_close` -/
def tcpSocketClose (net : Net) (index : Int) (answer : Nat → Closed) : Net × Except Errno Unit :=
  match socketLookup index with
  | none => (net, .error .EBADF)
  | some id =>
      match tcpRefRelease (net.refcount id) with
      | (.last, refs) => (net.setRefs id refs).tcpSocketCloseInt id answer
      | (.shared, refs) => (net.setRefs id refs, .ok ())
      | (.underflow, _) =>
          if (net.sockets id).state = .unallocated then (net, .error .EBADF)
          else net.tcpSocketCloseInt id answer

/-- `tcp_socket_dup` -/
def tcpSocketDup (net : Net) (index : Int) : Net × Except Errno Unit :=
  match socketLookup index with
  | none => (net, .error .EBADF)
  | some id =>
      match tcpRefAcquire (net.refcount id) with
      | none => (net, .error .EBADF)
      | some refs => (net.setRefs id refs, .ok ())

/-- `socket()` of the libc layer: allocate, initialise, and close what failed to. -/
def socket (net : Net) (tpcb : Option Nat) : Net × Except Errno SocketId :=
  match net.socketAllocate with
  | (full, .error errno) => (full, .error errno)
  | (allocated, .ok id) =>
      match allocated.tcpSocketInit id tpcb with
      | (ready, .ok _) => (ready, .ok id)
      | (failed, .error errno) =>
          ((failed.tcpSocketClose id.val fun _ => .pending).1, .error errno)

end Net

end Chrysopolis.Tcp
