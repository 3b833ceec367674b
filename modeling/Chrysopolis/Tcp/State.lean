import Mathlib.Data.Nat.Basic

/-! `runtime_tcp_state.h`: the socket lifecycle, what an entry point owes a caller in a
state, and the reference count of a socket. -/

set_option autoImplicit false

namespace Chrysopolis.Tcp

/-- `socket_state_t` -/
inductive SocketState where
  | unallocated
  | allocated
  | bound
  | connecting
  | connected
  | closing
  | closedByPeer
  | error
  | listening
  deriving Repr, DecidableEq

/-- `tcp_state_transition_allowed` -/
def tcpStateTransitionAllowed (source target : SocketState) : Bool :=
  if target = .error then
    match source with
    | .allocated | .bound | .connecting | .connected | .closing | .closedByPeer | .listening =>
        true
    | .unallocated | .error => false
  else match source with
    | .unallocated => target = .allocated
    | .allocated =>
        target = .bound || target = .connecting || target = .connected || target = .listening ||
          target = .unallocated
    | .bound => target = .connecting || target = .listening || target = .unallocated
    | .connecting => target = .connected || target = .unallocated
    | .connected => target = .closedByPeer || target = .closing || target = .unallocated
    | .closing => target = .unallocated
    | .closedByPeer => target = .unallocated
    | .error => target = .unallocated
    | .listening => target = .closing || target = .unallocated

/-- `tcp_connect_gate_t` -/
inductive ConnectGate where
  | start
  | alreadyConnected
  | inProgress
  | invalid
  deriving Repr, DecidableEq

/-- `tcp_connect_gate` -/
def tcpConnectGate : SocketState → ConnectGate
  | .connected => .alreadyConnected
  | .connecting => .inProgress
  | .allocated | .bound => .start
  | .unallocated | .closing | .closedByPeer | .error | .listening => .invalid

/-- `tcp_listen_allowed` -/
def tcpListenAllowed (state : SocketState) : Bool := state = .allocated || state = .bound

/-- `tcp_bind_allowed` -/
def tcpBindAllowed (state : SocketState) : Bool := state = .allocated

/-- `tcp_accept_allowed` -/
def tcpAcceptAllowed (state : SocketState) : Bool := state = .listening

/-- `tcp_recv_gate_t` -/
inductive RecvGate where
  | copy
  | eof
  | wouldBlock
  | block
  | notConnected
  deriving Repr, DecidableEq

/-- `tcp_recv_gate` -/
def tcpRecvGate (state : SocketState) (buffered nonblock : Bool) : RecvGate :=
  if state ≠ .connected ∧ state ≠ .closedByPeer then .notConnected
  else if buffered then .copy
  else if state = .closedByPeer then .eof
  else if nonblock then .wouldBlock
  else .block

/-- `tcp_ref_acquire`: the count with one reference more, when there is one to share. -/
def tcpRefAcquire (refs : Int) : Option Int := if refs ≤ 0 then none else some (refs + 1)

/-- `tcp_ref_release_t` -/
inductive RefRelease where
  | shared
  | last
  | underflow
  deriving Repr, DecidableEq

/-- `tcp_ref_release`, with the count it leaves. -/
def tcpRefRelease (refs : Int) : RefRelease × Int :=
  if refs ≤ 0 then (.underflow, refs)
  else if refs - 1 = 0 then (.last, refs - 1)
  else (.shared, refs - 1)

/-- `tcp_close_action_t` -/
inductive CloseAction where
  | begin
  | abortConnecting
  | releasePeerClosed
  | releaseIdle
  | invalid
  deriving Repr, DecidableEq

/-- `tcp_close_action` -/
def tcpCloseAction : SocketState → CloseAction
  | .listening | .connected => .begin
  | .connecting => .abortConnecting
  | .closedByPeer => .releasePeerClosed
  | .allocated | .bound | .error => .releaseIdle
  | .unallocated | .closing => .invalid

end Chrysopolis.Tcp
