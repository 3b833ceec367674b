import Chrysopolis.Support.CircularBuffer
import Chrysopolis.Support.Ring
import Chrysopolis.Tcp.SocketProperties
import Mathlib.Data.List.GetD

/-! The receive ring is a queue of bytes: the callback appends what it accepts, a read takes
from the front, and every loop of theirs ends. -/

set_option autoImplicit false

namespace Chrysopolis.Tcp

open Chrysopolis.Support

/-- What every helper of the ring requires. No sum they compute passes twice the capacity. -/
structure ReceiveRing.Valid (capacity : Nat) (ring : ReceiveRing) : Prop where
  head : ring.head < capacity
  len : ring.len ≤ capacity

/-- The bytes received and not read, oldest first. -/
def ReceiveRing.contents (capacity : Nat) (ring : ReceiveRing) : List UInt8 :=
  Circular.contents capacity ring.buf ring.head ring.len

variable {capacity fuel : Nat} {ring : ReceiveRing}

/-! ## One span -/

/-- The free span is short only where it ends the buffer or the free bytes. -/
theorem ReceiveRing.Valid.freeSpan_le (valid : ring.Valid capacity) :
    tcpRxFreeSpan ring.head ring.len capacity ≤ capacity - ring.len ∧
      tcpRxTail ring.head ring.len capacity + tcpRxFreeSpan ring.head ring.len capacity ≤
        capacity := by
  have inside : tcpRxTail ring.head ring.len capacity < capacity :=
    Nat.mod_lt _ (Nat.zero_lt_of_lt valid.head)
  have len := valid.len
  unfold tcpRxFreeSpan
  dsimp only
  split <;> omega

theorem ReceiveRing.Valid.freeSpan_pos (valid : ring.Valid capacity)
    (room : ring.len < capacity) : 0 < tcpRxFreeSpan ring.head ring.len capacity := by
  have inside : tcpRxTail ring.head ring.len capacity < capacity :=
    Nat.mod_lt _ (Nat.zero_lt_of_lt valid.head)
  unfold tcpRxFreeSpan
  dsimp only
  split <;> omega

theorem ReceiveRing.Valid.readSpan_le (valid : ring.Valid capacity) :
    tcpRxReadSpan ring.head ring.len capacity ≤ ring.len ∧
      ring.head + tcpRxReadSpan ring.head ring.len capacity ≤ capacity := by
  have head := valid.head
  unfold tcpRxReadSpan
  omega

theorem ReceiveRing.Valid.readSpan_pos (valid : ring.Valid capacity) (some : 0 < ring.len) :
    0 < tcpRxReadSpan ring.head ring.len capacity := by
  have head := valid.head
  unfold tcpRxReadSpan
  omega

theorem copyIn_of_lt {buf : Nat → UInt8} {place position : Nat} {bytes : List UInt8}
    (below : position < place) : copyIn buf place bytes position = buf position := by
  rw [copyIn, if_pos below]

theorem copyIn_of_le {buf : Nat → UInt8} {place position : Nat} {bytes : List UInt8}
    (above : place + bytes.length ≤ position) : copyIn buf place bytes position = buf position := by
  rw [copyIn, if_neg (by omega), List.getD_eq_default _ _ (by omega)]

theorem copyIn_of_mem {buf : Nat → UInt8} {place index : Nat} {bytes : List UInt8}
    (bound : index < bytes.length) : copyIn buf place bytes (place + index) = bytes[index] := by
  rw [copyIn, if_neg (by omega), Nat.add_sub_cancel_left, List.getD_eq_getElem _ _ bound]

/-- The callback's store of one span. -/
def ReceiveRing.store (ring : ReceiveRing) (capacity : Nat) (span : List UInt8) : ReceiveRing :=
  { ring with
    buf := copyIn ring.buf (tcpRxTail ring.head ring.len capacity) span
    len := ring.len + span.length }

/-- A span no longer than the free one is appended. -/
theorem ReceiveRing.Valid.store (valid : ring.Valid capacity) {span : List UInt8}
    (fits : span.length ≤ tcpRxFreeSpan ring.head ring.len capacity) :
    (ring.store capacity span).Valid capacity ∧
      (ring.store capacity span).contents capacity = ring.contents capacity ++ span := by
  obtain ⟨free, flat⟩ := valid.freeSpan_le
  have head := valid.head
  have len := valid.len
  refine ⟨⟨head, by simp only [ReceiveRing.store]; omega⟩, ?_⟩
  have place (index : Nat) (bound : index < span.length) :
      (ring.head + (ring.len + index)) % capacity =
        tcpRxTail ring.head ring.len capacity + index := by
    rw [← Nat.add_assoc, ← Nat.mod_add_mod]
    exact Nat.mod_eq_of_lt (show tcpRxTail ring.head ring.len capacity + index < _ by omega)
  apply Circular.contents_append
  · intro count old
    change copyIn ring.buf (tcpRxTail ring.head ring.len capacity) span
      ((ring.head + count) % capacity) = ring.buf ((ring.head + count) % capacity)
    set position := (ring.head + count) % capacity with positioned
    by_cases below : position < tcpRxTail ring.head ring.len capacity
    · exact copyIn_of_lt below
    · refine copyIn_of_le (Nat.not_lt.mp fun within => ?_)
      -- A place in use that the span covers would be the place of a byte of the span.
      have index : position - tcpRxTail ring.head ring.len capacity < span.length := by omega
      have same := place _ index
      rw [show tcpRxTail ring.head ring.len capacity +
        (position - tcpRxTail ring.head ring.len capacity) = position by omega, positioned] at same
      exact Ring.slot_ne (by omega) (by omega) same
  · intro index bound
    change copyIn ring.buf (tcpRxTail ring.head ring.len capacity) span
      ((ring.head + (ring.len + index)) % capacity) = span[index]
    rw [place index bound]
    exact copyIn_of_mem bound

/-- The read's step over one span. -/
def ReceiveRing.skip (ring : ReceiveRing) (capacity count : Nat) : ReceiveRing :=
  { ring with
    head := tcpRxAdvance ring.head count capacity
    len := ring.len - count }

theorem ReceiveRing.Valid.skip (valid : ring.Valid capacity) (count : Nat) :
    (ring.skip capacity count).Valid capacity ∧
      (ring.skip capacity count).contents capacity = (ring.contents capacity).drop count :=
  ⟨⟨Nat.mod_lt _ (Nat.zero_lt_of_lt valid.head), (Nat.sub_le ..).trans valid.len⟩,
    Circular.contents_drop⟩

/-! ## The loops -/

theorem ReceiveRing.fill_eq_store {bytes : List UInt8}
    (moves : min bytes.length (tcpRxFreeSpan ring.head ring.len capacity) ≠ 0) :
    ring.fill capacity bytes =
      (ring.store capacity
        (bytes.take (min bytes.length (tcpRxFreeSpan ring.head ring.len capacity)))).fill capacity
        (bytes.drop (min bytes.length (tcpRxFreeSpan ring.head ring.len capacity))) := by
  rw [ReceiveRing.fill, dif_neg moves, ReceiveRing.store,
    List.length_take_of_le (Nat.min_le_left ..)]

/-- Accepted bytes are appended whole. -/
theorem ReceiveRing.Valid.fill (valid : ring.Valid capacity) {bytes : List UInt8}
    (fits : ring.len + bytes.length ≤ capacity) :
    (ring.fill capacity bytes).Valid capacity ∧
      (ring.fill capacity bytes).contents capacity = ring.contents capacity ++ bytes := by
  induction ring, bytes using ReceiveRing.fill.induct capacity with
  | case1 ring bytes toCopy stuck =>
      rw [ReceiveRing.fill, dif_pos stuck]
      have empty : bytes = [] := by
        by_contra more
        have count := List.length_pos_iff.mpr more
        have room := valid.freeSpan_pos (by omega)
        omega
      rw [empty, List.append_nil]
      exact ⟨valid, rfl⟩
  | case2 ring bytes toCopy moves ih =>
      have span : (bytes.take toCopy).length = toCopy := List.length_take_of_le (Nat.min_le_left ..)
      obtain ⟨stored, appended⟩ := valid.store (span.trans_le (Nat.min_le_right ..))
      have next : { ring with
          buf := copyIn ring.buf (tcpRxTail ring.head ring.len capacity) (bytes.take toCopy)
          len := ring.len + toCopy } = ring.store capacity (bytes.take toCopy) := by
        rw [ReceiveRing.store, span]
      rw [next] at ih
      obtain ⟨after, filled⟩ := ih stored (by
        rw [ReceiveRing.store, List.length_drop, span]
        dsimp only
        omega)
      rw [ReceiveRing.fill_eq_store moves]
      refine ⟨after, filled.trans ?_⟩
      rw [appended, List.append_assoc, List.take_append_drop]

/-- A read takes as much as it wants of the front. -/
theorem ReceiveRing.Valid.drain (valid : ring.Valid capacity) (wanted : Nat) :
    (ring.drain capacity wanted).2.Valid capacity ∧
      (ring.drain capacity wanted).1 = (ring.contents capacity).take wanted ∧
      (ring.drain capacity wanted).2.contents capacity =
        (ring.contents capacity).drop wanted := by
  induction ring, wanted using ReceiveRing.drain.induct capacity with
  | case1 ring wanted toCopy stuck =>
      rw [ReceiveRing.drain, dif_pos stuck]
      rcases Nat.eq_zero_or_pos wanted with none | more
      · rw [none]
        exact ⟨valid, rfl, rfl⟩
      · have empty : ring.len = 0 := by
          by_contra some
          have span := valid.readSpan_pos (Nat.pos_of_ne_zero some)
          omega
        have nothing : ring.contents capacity = [] := by
          rw [ReceiveRing.contents, empty, Circular.contents_zero]
        rw [nothing, List.take_nil, List.drop_nil]
        exact ⟨valid, rfl, rfl⟩
  | case2 ring wanted toCopy moves ih =>
      obtain ⟨held, flat⟩ := valid.readSpan_le
      have first : (ring.contents capacity).take toCopy =
          (List.range toCopy).map fun place => ring.buf (ring.head + place) :=
        Circular.contents_take (by omega) (by omega)
      obtain ⟨skipped, dropped⟩ := valid.skip toCopy
      obtain ⟨after, read, left⟩ := ih skipped
      have whole : toCopy + (wanted - toCopy) = wanted := by omega
      rw [ReceiveRing.drain, dif_neg moves]
      refine ⟨after, ?_, ?_⟩
      · change _ ++ _ = _
        rw [← first]
        refine (congrArg _ (read.trans (congrArg _ dropped))).trans ?_
        rw [← List.take_add, whole]
      · refine left.trans ((congrArg _ dropped).trans ?_)
        rw [List.drop_drop, whole]

/-- The callback's loop ends, having stored what is left of the pbuf. -/
theorem Receiving.run_eq_fill {p : Pbuf} {loop : Receiving} (valid : loop.ring.Valid capacity)
    (whole : loop.copied + loop.remaining = p.payload.length)
    (fits : loop.ring.len + loop.remaining ≤ capacity) (enough : loop.remaining < fuel) :
    Receiving.run capacity p fuel loop =
      some (loop.ring.fill capacity (p.payload.drop loop.copied)) := by
  induction fuel generalizing loop with
  | zero => exact absurd enough (Nat.not_lt_zero _)
  | succ fuel ih =>
      have short := p.short
      have left : (p.payload.drop loop.copied).length = loop.remaining := by
        rw [List.length_drop]
        omega
      rw [Receiving.run]
      by_cases done : loop.remaining = 0
      · rw [if_pos done, ReceiveRing.fill, dif_pos (by rw [left, done, Nat.zero_min])]
      · have room := valid.freeSpan_pos (by omega)
        have moves : min (p.payload.drop loop.copied).length
            (tcpRxFreeSpan loop.ring.head loop.ring.len capacity) ≠ 0 := by
          rw [left]
          omega
        rw [if_neg done, ReceiveRing.fill_eq_store moves, left]
        set toCopy := min loop.remaining (tcpRxFreeSpan loop.ring.head loop.ring.len capacity)
          with counted
        have span : ((p.payload.drop loop.copied).take toCopy).length = toCopy :=
          List.length_take_of_le (by omega)
        have passed : loop.pass capacity p =
            { ring := loop.ring.store capacity ((p.payload.drop loop.copied).take toCopy)
              copied := loop.copied + toCopy
              remaining := loop.remaining - toCopy } := by
          rw [Receiving.pass, ReceiveRing.store, span, ← counted,
            Nat.mod_eq_of_lt (by omega : loop.copied < 2 ^ 16),
            Nat.mod_eq_of_lt (by omega : toCopy < 2 ^ 16)]
        rw [passed, ih (valid.store (by omega)).1 (by dsimp only; omega)
          (by simp only [ReceiveRing.store, span]; omega) (by dsimp only; omega), List.drop_drop]

/-- The loop of a read ends, having taken what it still wants. -/
theorem Reading.run_eq_drain {len : Nat} {loop : Reading} (valid : loop.ring.Valid capacity)
    (within : loop.copied.length ≤ len) (enough : loop.ring.len < fuel) :
    Reading.run capacity len fuel loop =
      some { ring := (loop.ring.drain capacity (len - loop.copied.length)).2
             copied := loop.copied ++
               (loop.ring.drain capacity (len - loop.copied.length)).1 } := by
  induction fuel generalizing loop with
  | zero => exact absurd enough (Nat.not_lt_zero _)
  | succ fuel ih =>
      obtain ⟨held, flat⟩ := valid.readSpan_le
      rw [Reading.run, ReceiveRing.drain]
      dsimp only
      set toCopy := min (len - loop.copied.length)
        (tcpRxReadSpan loop.ring.head loop.ring.len capacity) with counted
      by_cases stuck : toCopy = 0
      · rw [dif_pos stuck, if_pos stuck, ite_self, List.append_nil]
      · rw [dif_neg stuck, if_neg stuck, if_neg (by omega)]
        have grown : (loop.copied ++ (List.range toCopy).map fun place =>
            loop.ring.buf (loop.ring.head + place)).length = loop.copied.length + toCopy := by
          rw [List.length_append, List.length_map, List.length_range]
        rw [ih (valid.skip toCopy).1 (by rw [grown]; omega) (by dsimp only; omega), grown,
          List.append_assoc, Nat.sub_add_eq]

/-- The window updates end and add up to what was read. -/
theorem recvedRun_sum {remaining : Nat} (enough : remaining < fuel) :
    ∃ chunks, recvedRun fuel remaining = some chunks ∧ chunks.sum = remaining ∧
      ∀ chunk ∈ chunks, chunk < 2 ^ 16 := by
  induction fuel generalizing remaining with
  | zero => exact absurd enough (Nat.not_lt_zero _)
  | succ fuel ih =>
      rw [recvedRun]
      by_cases done : remaining = 0
      · exact ⟨[], by rw [if_pos done], done.symm, nofun⟩
      · have chunk : 0 < tcpRecvedChunk remaining ∧ tcpRecvedChunk remaining ≤ remaining ∧
            tcpRecvedChunk remaining < 2 ^ 16 := by
          unfold tcpRecvedChunk
          split <;> omega
        obtain ⟨chunks, ran, sum, short⟩ := ih (show remaining - tcpRecvedChunk remaining < fuel by
          omega)
        refine ⟨tcpRecvedChunk remaining :: chunks, ?_, ?_, ?_⟩
        · rw [if_neg done]
          dsimp only
          rw [ran]
          rfl
        · rw [List.sum_cons, sum]
          omega
        · exact List.forall_mem_cons.mpr ⟨chunk.2.2, short⟩

/-! ## Runs -/

/-- The event that an outcome answers. -/
def RxOutcome.event : RxOutcome → RxEvent
  | .received p | .refused p => .receive p
  | .read len _ _ => .recv len

/-- The bytes an event put into the stream. -/
def RxOutcome.accepted : RxOutcome → List UInt8
  | .received p => p.payload
  | _ => []

/-- The bytes an event handed to the application. -/
def RxOutcome.delivered : RxOutcome → List UInt8
  | .read _ bytes _ => bytes
  | _ => []

/-- The ring stays a ring; a refusal, for want of room alone, leaves it as it was; the window
updates of a read are `u16_t` and add up to the bytes read. -/
structure RxTurn.Sound (capacity : Nat) (turn : RxTurn) : Prop where
  valid : turn.after.Valid capacity
  refused : ∀ p, turn.outcome = .refused p →
    turn.after = turn.before ∧ capacity < turn.before.len + p.payload.length
  recved : ∀ len bytes chunks, turn.outcome = .read len bytes chunks →
    bytes.length = min len turn.before.len ∧ chunks.sum = bytes.length ∧
      ∀ chunk ∈ chunks, chunk < 2 ^ 16

theorem tcpRxCanAccept_eq_true_iff {len incoming : Nat} (within : len ≤ capacity) :
    tcpRxCanAccept len incoming capacity = true ↔ len + incoming ≤ capacity := by
  simp only [tcpRxCanAccept, Bool.and_eq_true, decide_eq_true_eq]
  omega

theorem ReceiveRing.Valid.step_receive (valid : ring.Valid capacity) (enough : capacity < fuel)
    {p : Pbuf} (fits : ring.len + p.payload.length ≤ capacity) :
    ring.step capacity fuel (.receive p) = some (.received p, ring.fill capacity p.payload) := by
  rw [ReceiveRing.step, if_pos ((tcpRxCanAccept_eq_true_iff valid.len).mpr fits),
    Receiving.run_eq_fill valid (Nat.zero_add _) fits (by dsimp only; omega)]
  rfl

theorem ReceiveRing.Valid.step_recv (valid : ring.Valid capacity) (enough : capacity < fuel)
    (wanted : Nat) :
    ∃ chunks,
      ring.step capacity fuel (.recv wanted) =
        some (.read wanted (ring.drain capacity wanted).1 chunks,
          (ring.drain capacity wanted).2) ∧
      (ring.drain capacity wanted).1.length = min wanted ring.len ∧
      chunks.sum = (ring.drain capacity wanted).1.length ∧ ∀ chunk ∈ chunks, chunk < 2 ^ 16 := by
  have len := valid.len
  have count : (ring.drain capacity wanted).1.length = min wanted ring.len := by
    rw [(valid.drain wanted).2.1, List.length_take, ReceiveRing.contents,
      Circular.length_contents]
  obtain ⟨chunks, ran, sum, short⟩ :=
    @recvedRun_sum fuel (ring.drain capacity wanted).1.length (by omega)
  have ended := @Reading.run_eq_drain capacity fuel wanted { ring, copied := [] } valid
    (Nat.zero_le _) (by dsimp only; omega)
  rw [List.nil_append, List.length_nil, Nat.sub_zero] at ended
  refine ⟨chunks, ?_, count, sum, short⟩
  rw [ReceiveRing.step, ended]
  simp only [Option.bind_eq_bind, Option.bind_some, ran]

/-- What one event does, given fuel for the bytes of a full ring. -/
theorem ReceiveRing.Valid.step (valid : ring.Valid capacity) (enough : capacity < fuel)
    (event : RxEvent) :
    ∃ outcome after, ring.step capacity fuel event = some (outcome, after) ∧
      outcome.event = event ∧ RxTurn.Sound capacity { before := ring, outcome, after } ∧
      outcome.delivered ++ after.contents capacity =
        ring.contents capacity ++ outcome.accepted := by
  cases event with
  | receive p =>
      by_cases fits : ring.len + p.payload.length ≤ capacity
      · obtain ⟨filled, appended⟩ := valid.fill fits
        exact ⟨.received p, ring.fill capacity p.payload, valid.step_receive enough fits, rfl,
          { valid := filled, refused := nofun, recved := nofun }, appended⟩
      · have refused := mt (tcpRxCanAccept_eq_true_iff valid.len).mp fits
        refine ⟨.refused p, ring, by rw [ReceiveRing.step, if_neg refused], rfl, ?_,
          (List.append_nil _).symm⟩
        refine { valid, refused := ?_, recved := nofun }
        rintro _ ⟨⟩
        exact ⟨rfl, Nat.lt_of_not_le fits⟩
  | recv wanted =>
      obtain ⟨drained, read, left⟩ := valid.drain wanted
      obtain ⟨chunks, stepped, count, sum, short⟩ := valid.step_recv enough wanted
      refine ⟨_, _, stepped, rfl, ?_, ?_⟩
      · refine { valid := drained, refused := nofun, recved := ?_ }
        rintro _ _ _ ⟨⟩
        exact ⟨count, sum, short⟩
      · change (ring.drain capacity wanted).1 ++ _ = _ ++ []
        rw [read, left, List.take_append_drop, List.append_nil]

/-- A run from any ring: what it delivers and what it leaves is what there was and what it
accepted. -/
theorem ReceiveRing.Valid.run (valid : ring.Valid capacity) (enough : capacity < fuel)
    (events : List RxEvent) :
    ∃ turns final, ReceiveRing.run capacity fuel ring events = some (turns, final) ∧
      turns.map (·.outcome.event) = events ∧ final.Valid capacity ∧
      (∀ turn ∈ turns, turn.Sound capacity) ∧
      turns.flatMap (·.outcome.delivered) ++ final.contents capacity =
        ring.contents capacity ++ turns.flatMap (·.outcome.accepted) := by
  induction events generalizing ring with
  | nil => exact ⟨[], ring, rfl, rfl, valid, nofun, (List.append_nil _).symm⟩
  | cons event rest ih =>
      obtain ⟨outcome, after, stepped, answers, sound, conserved⟩ := valid.step enough event
      obtain ⟨turns, final, ran, answered, ended, all, kept⟩ := ih sound.valid
      refine ⟨{ before := ring, outcome, after } :: turns, final, ?_, ?_, ended, ?_, ?_⟩
      · rw [ReceiveRing.run, stepped]
        simp only [Option.bind_eq_bind, Option.bind_some, ran]
      · rw [List.map_cons, answers, answered]
      · exact List.forall_mem_cons.mpr ⟨sound, all⟩
      · rw [List.flatMap_cons, List.flatMap_cons, List.append_assoc, kept, ← List.append_assoc,
          conserved, List.append_assoc]

/-- From an empty ring of any capacity every run of callbacks and reads comes to an end, and
delivers the accepted bytes in their order, all but those the ring still holds. -/
theorem receive_ring_fifo (positive : 0 < capacity) (buf : Nat → UInt8) (enough : capacity < fuel)
    (events : List RxEvent) :
    ∃ turns final,
      ReceiveRing.run capacity fuel { buf, head := 0, len := 0 } events = some (turns, final) ∧
      turns.map (·.outcome.event) = events ∧ final.Valid capacity ∧
      (∀ turn ∈ turns, turn.Sound capacity) ∧
      turns.flatMap (·.outcome.delivered) ++ final.contents capacity =
        turns.flatMap (·.outcome.accepted) := by
  have valid : ReceiveRing.Valid capacity { buf, head := 0, len := 0 } :=
    ⟨positive, Nat.zero_le _⟩
  exact valid.run enough events

/-- The ring of three bytes wraps on both sides, and refuses what does not fit. -/
theorem receive_ring_fifo_wraps :
    ∃ turns final,
      ReceiveRing.run 3 4 { buf := fun _ => 0, head := 0, len := 0 }
        [.receive ⟨[1, 2], by decide⟩, .recv 1, .receive ⟨[3, 4], by decide⟩,
          .receive ⟨[5], by decide⟩, .recv 2] = some (turns, final) ∧
      turns.flatMap (·.outcome.delivered) = [1, 2, 3] ∧
      turns.flatMap (·.outcome.accepted) = [1, 2, 3] ++ final.contents 3 := by
  obtain ⟨turns, final, ran, answered, valid, sound, kept⟩ :=
    @receive_ring_fifo 3 4 (by decide) (fun _ => 0) (by decide)
      [.receive ⟨[1, 2], by decide⟩, .recv 1, .receive ⟨[3, 4], by decide⟩,
        .receive ⟨[5], by decide⟩, .recv 2]
  have delivered : (ReceiveRing.run 3 4 { buf := fun _ => 0, head := 0, len := 0 }
      [.receive ⟨[1, 2], by decide⟩, .recv 1, .receive ⟨[3, 4], by decide⟩,
        .receive ⟨[5], by decide⟩, .recv 2]).map
      (fun outcome => outcome.1.flatMap (·.outcome.delivered)) = some [1, 2, 3] := by decide
  rw [ran, Option.map_some, Option.some.injEq] at delivered
  exact ⟨turns, final, ran, delivered, by rw [← kept, delivered]⟩

/-! ## The socket's ring -/

/-- The receive callback of a connected socket is the ring's. -/
theorem Net.socketRecvCallback_ring {net : Net} {id : SocketId} (p : Pbuf)
    (connected : (net.sockets id).state = .connected)
    (valid : (net.sockets id).rx.Valid SOCKET_BUF_SIZE) (enough : SOCKET_BUF_SIZE < fuel) :
    ∃ outcome,
      (net.sockets id).rx.step SOCKET_BUF_SIZE fuel (.receive p) =
        some (outcome, ((net.socketRecvCallback id (some p.payload)).1.sockets id).rx) := by
  unfold socketRecvCallback
  simp only [connected]
  split
  · rename_i room
    exact ⟨.received p, by
      simpa using valid.step_receive enough ((tcpRxCanAccept_eq_true_iff valid.len).mp room)⟩
  · rename_i refused
    exact ⟨.refused p, by rw [ReceiveRing.step, if_neg refused]⟩

/-- A read that copies is the ring's. -/
theorem Net.tcpSocketRecv_ring {net : Net} {index : Int} {id : SocketId} {len : Nat}
    {nonblock : Bool} (found : socketLookup index = some id)
    (gate : tcpRecvGate (net.sockets id).state ((net.sockets id).rx.len != 0) nonblock = .copy)
    (valid : (net.sockets id).rx.Valid SOCKET_BUF_SIZE) (enough : SOCKET_BUF_SIZE < fuel) :
    ∃ bytes chunks,
      (net.tcpSocketRecv index len nonblock).2 = some (.ok bytes) ∧
      (net.sockets id).rx.step SOCKET_BUF_SIZE fuel (.recv len) =
        some (.read len bytes chunks,
          ((net.tcpSocketRecv index len nonblock).1.sockets id).rx) := by
  obtain ⟨chunks, stepped, -, -, -⟩ := valid.step_recv enough len
  unfold tcpSocketRecv
  simp only [found, gate]
  exact ⟨_, chunks, rfl, by simpa using stepped⟩

end Chrysopolis.Tcp
