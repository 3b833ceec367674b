import Mathlib.Algebra.Group.Nat.Defs
import Mathlib.Logic.Function.Basic

/-! `runtime_tcp_logic.h` and the two copy loops of `tcp.c`: the bytes a socket has
received and the application has not read. The loops stand here twice, as functions of the
bytes they move and pass by pass as C runs them. -/

set_option autoImplicit false

namespace Chrysopolis.Tcp

/-- `SOCKET_BUF_SIZE` -/
def SOCKET_BUF_SIZE : Nat := 0x200000

/-- `rx_buf`, `rx_head` and `rx_len` of a socket. -/
structure ReceiveRing where
  buf : Nat → UInt8
  head : Nat
  len : Nat

/-- `tcp_rx_tail` -/
def tcpRxTail (head len capacity : Nat) : Nat := (head + len) % capacity

/-- `tcp_rx_free_span` -/
def tcpRxFreeSpan (head len capacity : Nat) : Nat :=
  let tail := tcpRxTail head len capacity
  capacity - (if len > tail then len else tail)

/-- `tcp_rx_read_span` -/
def tcpRxReadSpan (head len capacity : Nat) : Nat := min len (capacity - head)

/-- `tcp_rx_advance` -/
def tcpRxAdvance (head count capacity : Nat) : Nat := (head + count) % capacity

/-- `tcp_rx_can_accept` -/
def tcpRxCanAccept (len incoming capacity : Nat) : Bool :=
  len ≤ capacity && incoming ≤ capacity - len

/-- `pbuf_copy_partial` and `memcpy`: bytes written from a place of the buffer on. -/
def copyIn (buf : Nat → UInt8) (place : Nat) (bytes : List UInt8) : Nat → UInt8 := fun position =>
  if position < place then buf position
  else bytes.getD (position - place) (buf position)

/-- The loop of the receive callback: the pbuf's bytes into the ring. A step that has no
room to copy to would not end in C; `tcp_rx_can_accept` rules it out. -/
def ReceiveRing.fill (ring : ReceiveRing) (capacity : Nat) (remaining : List UInt8) :
    ReceiveRing :=
  let toCopy := min remaining.length (tcpRxFreeSpan ring.head ring.len capacity)
  if _more : toCopy = 0 then ring
  else
    fill { ring with
      buf := copyIn ring.buf (tcpRxTail ring.head ring.len capacity) (remaining.take toCopy)
      len := ring.len + toCopy } capacity (remaining.drop toCopy)
termination_by remaining.length
decreasing_by
  simp only [List.length_drop]
  omega

/-- The loop of `tcp_socket_recv`: up to `wanted` bytes out of the ring. -/
def ReceiveRing.drain (ring : ReceiveRing) (capacity wanted : Nat) : List UInt8 × ReceiveRing :=
  let toCopy := min wanted (tcpRxReadSpan ring.head ring.len capacity)
  if _more : toCopy = 0 then ([], ring)
  else
    let rest := drain { ring with
      head := tcpRxAdvance ring.head toCopy capacity
      len := ring.len - toCopy } capacity (wanted - toCopy)
    ((List.range toCopy).map (fun place => ring.buf (ring.head + place)) ++ rest.1, rest.2)
termination_by wanted
decreasing_by omega

/-! ## The loops pass by pass -/

/-- What the receive callback reads of a pbuf. `tot_len` is a `u16_t`. -/
structure Pbuf where
  payload : List UInt8
  short : payload.length < 2 ^ 16

/-- The ring and the counters of the callback's loop. -/
structure Receiving where
  ring : ReceiveRing
  copied : Nat
  remaining : Nat

/-- One pass of the callback's loop. `pbuf_copy_partial` takes a length and an offset of
type `u16_t`. -/
def Receiving.pass (capacity : Nat) (p : Pbuf) (loop : Receiving) : Receiving :=
  let rxTail := tcpRxTail loop.ring.head loop.ring.len capacity
  let toCopy := min loop.remaining (tcpRxFreeSpan loop.ring.head loop.ring.len capacity)
  { ring := { loop.ring with
      buf := copyIn loop.ring.buf rxTail
        ((p.payload.drop (loop.copied % 2 ^ 16)).take (toCopy % 2 ^ 16))
      len := loop.ring.len + toCopy }
    copied := loop.copied + toCopy
    remaining := loop.remaining - toCopy }

/-- `while (remaining != 0)`; `none` if it has not ended within the fuel. -/
def Receiving.run (capacity : Nat) (p : Pbuf) : Nat → Receiving → Option ReceiveRing
  | 0, _ => none
  | fuel + 1, loop =>
      if loop.remaining = 0 then some loop.ring
      else Receiving.run capacity p fuel (loop.pass capacity p)

/-- The ring and the buffer of the loop of `tcp_socket_recv`. -/
structure Reading where
  ring : ReceiveRing
  copied : List UInt8

/-- `while (copied != len)` with its `break`; `none` if it has not ended within the fuel. -/
def Reading.run (capacity len : Nat) : Nat → Reading → Option Reading
  | 0, _ => none
  | fuel + 1, loop =>
      if loop.copied.length = len then some loop
      else
        let toCopy := min (len - loop.copied.length)
          (tcpRxReadSpan loop.ring.head loop.ring.len capacity)
        if toCopy = 0 then some loop
        else Reading.run capacity len fuel
          { ring := { loop.ring with
              head := tcpRxAdvance loop.ring.head toCopy capacity
              len := loop.ring.len - toCopy }
            copied := loop.copied ++
              (List.range toCopy).map fun place => loop.ring.buf (loop.ring.head + place) }

/-- `tcp_recved_chunk` -/
def tcpRecvedChunk (remaining : Nat) : Nat := if remaining > 0xFFFF then 0xFFFF else remaining

/-- The loop that reopens the receive window: the lengths it hands to `tcp_recved`. -/
def recvedRun : Nat → Nat → Option (List Nat)
  | 0, _ => none
  | fuel + 1, remaining =>
      if remaining = 0 then some []
      else
        let chunk := tcpRecvedChunk remaining
        (recvedRun fuel (remaining - chunk)).map (chunk :: ·)

/-- What the stack and the application do to the ring of a connected socket. -/
inductive RxEvent where
  | receive (p : Pbuf)
  | recv (len : Nat)

inductive RxOutcome where
  | received (p : Pbuf)
  /-- `ERR_MEM`: lwIP keeps the pbuf. -/
  | refused (p : Pbuf)
  /-- The bytes read, and the window updates made for them. -/
  | read (len : Nat) (bytes : List UInt8) (recved : List Nat)

/-- `socket_recv_callback` and the end of `tcp_socket_recv`, each loop within the fuel. -/
def ReceiveRing.step (ring : ReceiveRing) (capacity fuel : Nat) :
    RxEvent → Option (RxOutcome × ReceiveRing)
  | .receive p =>
      if tcpRxCanAccept ring.len p.payload.length capacity then
        (Receiving.run capacity p fuel
          { ring, copied := 0, remaining := p.payload.length }).map fun after =>
            (.received p, after)
      else some (.refused p, ring)
  | .recv len => do
      let read ← Reading.run capacity len fuel { ring, copied := [] }
      let recved ← recvedRun fuel read.copied.length
      some (.read len read.copied recved, read.ring)

/-- One event of a run: the ring before it and after it. -/
structure RxTurn where
  before : ReceiveRing
  outcome : RxOutcome
  after : ReceiveRing

def ReceiveRing.run (capacity fuel : Nat) :
    ReceiveRing → List RxEvent → Option (List RxTurn × ReceiveRing)
  | ring, [] => some ([], ring)
  | ring, event :: rest => do
      let (outcome, after) ← ring.step capacity fuel event
      let (turns, final) ← ReceiveRing.run capacity fuel after rest
      some ({ before := ring, outcome, after } :: turns, final)

end Chrysopolis.Tcp
