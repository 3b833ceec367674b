import Chrysopolis.Tcp.Run

/-! `tcp.c`: what the socket layer says of readiness, and the write it speaks of. The transmit
pool and lwIP's send buffer are parameters of the call that looks at them. -/

set_option autoImplicit false

namespace Chrysopolis.Tcp

/-- `tcp_write_gate_t` -/
inductive WriteGate where
  | send
  | wouldBlock
  | pendingError
  | notConnected
  deriving Repr, DecidableEq

/-- `tcp_write_gate` -/
def tcpWriteGate (state : SocketState) (nonblock : Bool) : WriteGate :=
  if state = .connecting ∧ nonblock then .wouldBlock
  else if state = .connected ∨ state = .closedByPeer then .send
  else if state = .error then .pendingError
  else .notConnected

/-- `tcp_state_writable` -/
def tcpStateWritable (state : SocketState) (txPoolFree : Bool) : Bool :=
  match state with
  | .connected | .closedByPeer => txPoolFree
  | .error => true
  | .unallocated | .allocated | .bound | .connecting | .closing | .listening => false

/-- `tcp_state_hup` -/
def tcpStateHup (state : SocketState) : Bool := state = .closedByPeer

/-- `tcp_write_chunk` -/
def tcpWriteChunk (want sndbuf : Nat) : Nat := if want < sndbuf then want else sndbuf

namespace Net

/-- `tcp_socket_readable` -/
def tcpSocketReadable (net : Net) (index : Int) : Nat :=
  match socketLookup index with
  | none => 0
  | some id =>
      let socket := net.sockets id
      if socket.state = .listening then (!socket.acceptQueue.isEmpty).toNat else socket.rx.len

/-- `tcp_socket_writable` -/
def tcpSocketWritable (net : Net) (txPoolFree : Bool) (index : Int) : Bool :=
  match socketLookup index with
  | none => false
  | some id => tcpStateWritable (net.sockets id).state txPoolFree

/-- `tcp_socket_hup` -/
def tcpSocketHup (net : Net) (index : Int) : Bool :=
  match socketLookup index with
  | none => false
  | some id => tcpStateHup (net.sockets id).state

/-- `tcp_socket_err`, what `SO_ERROR` answers. -/
def tcpSocketErr (net : Net) (index : Int) : Option Errno :=
  match socketLookup index with
  | none => none
  | some id =>
      if (net.sockets id).state = .error then
        some ((net.sockets id).lastError.getD .ECONNRESET)
      else none

/-- `tcp_socket_write` of a slot whose send buffer has `sndbuf` bytes free; `answer` is what
`tcp_write` and `tcp_output` say. A call that would park has done nothing yet and answers
`none`. -/
def tcpSocketWrite (net : Net) (index : Int) (len : Nat) (nonblock : Bool) (sndbuf : Nat)
    (answer : Option Err) : Option (Except Errno Nat) :=
  match socketLookup index with
  | none => some (.error .EBADF)
  | some id =>
      let socket := net.sockets id
      match tcpWriteGate socket.state nonblock with
      | .wouldBlock => some (.error .EAGAIN)
      | .pendingError => some (.error (socket.lastError.getD .ENOTCONN))
      | .notConnected => some (.error .ENOTCONN)
      | .send =>
          if sndbuf = 0 then if nonblock then some (.error .EAGAIN) else none
          else
            match answer with
            | some err => some (.error (lwipErrno err))
            | none => some (.ok (tcpWriteChunk len sndbuf))

end Net

end Chrysopolis.Tcp
