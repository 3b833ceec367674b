import Chrysopolis.Beam.Descriptors
import Chrysopolis.Support.WireFormat
import Mathlib.Data.Int.Init

/-! The wake-path trace of a traced build: `runtime_trace_ring.c`, the device of `runtime_trace.c`
that copies it out, and `chryso_trace.erl`, which decodes the copy. -/

set_option autoImplicit false

namespace Chrysopolis.Beam.Trace

open Support (Bytes leBytes leNumber chunks)

/-! ## The ring -/

/-- `runtime_trace_event` -/
inductive TraceEvent where
  | futexWait | futexTimeout | futexWake | park | resume | epollEnter | epollExit | notified
  | drainRearm
  deriving DecidableEq, Repr, Inhabited

def TraceEvent.tag : TraceEvent → UInt8
  | futexWait => 0
  | futexTimeout => 1
  | futexWake => 2
  | park => 3
  | resume => 4
  | epollEnter => 5
  | epollExit => 6
  | notified => 7
  | drainRearm => 8

/-- `runtime_trace_record`; its reserved bytes are zero. -/
structure Record where
  ticks : UInt64
  a : Int64
  b : Int64
  event : TraceEvent
  cothread : Int8
  deriving DecidableEq, Inhabited

inductive RingState where
  | off | armed | full
  deriving DecidableEq, Repr

def RingState.tag : RingState → UInt8
  | off => 0
  | armed => 1
  | full => 2

structure Ring where
  state : RingState := .off
  length : UInt32 := 0
  dropped : UInt32 := 0

def runtimeTraceRingArm : Ring := { state := .armed }

def runtimeTraceRingDisarm (ring : Ring) : Ring := { ring with state := .off }

def runtimeTraceRingPush (ring : Ring) (records : Nat → Record) (capacity : Nat)
    (record : Record) : Ring × (Nat → Record) :=
  match ring.state with
  | .off => (ring, records)
  | .armed =>
      if ring.length.toNat < capacity then
        ({ ring with length := ring.length + 1 },
          Function.update records ring.length.toNat record)
      else ({ ring with state := .full, dropped := 1 }, records)
  | .full =>
      if ring.dropped.toNat ≠ 2 ^ 32 - 1 then
        ({ ring with dropped := ring.dropped + 1 }, records)
      else (ring, records)

/-! ## The device -/

inductive Errno where
  | EACCES | EBADF | EINVAL | EMFILE | EMSGSIZE
  deriving DecidableEq, Repr

def traceHeaderSize : Nat := 32
def traceRecordSize : Nat := 32

/-- A full snapshot is 64 KiB. -/
def traceCapacity : Nat := (65536 - traceHeaderSize) / traceRecordSize

/-- The ring with its storage, and the position of each open descriptor. -/
structure Device where
  ring : Ring := {}
  records : Nat → Record := fun _ => default
  fds : FdTable Int := fun _ => none

/-- `"CHTRACE1"` -/
def traceMagic : Bytes := [67, 72, 84, 82, 65, 67, 69, 49]

/-- A record as it lies in memory. -/
def Record.bytes (record : Record) : Bytes :=
  leBytes 8 record.ticks.toNat ++ leBytes 8 record.a.toUInt64.toNat ++
    leBytes 8 record.b.toUInt64.toNat ++ [record.event.tag, record.cothread.toUInt8] ++
    List.replicate 6 0

def headerBytes (ring : Ring) (frequency : UInt64) : Bytes :=
  traceMagic ++ leBytes 8 frequency.toNat ++ leBytes 4 ring.length.toNat ++
    leBytes 4 ring.dropped.toNat ++ [ring.state.tag] ++ List.replicate 7 0

/-- The hook, with the counter and the handle that it reads. -/
def runtimeTraceStore (device : Device) (event : TraceEvent) (a b : Int64) (ticks : UInt64)
    (cothread : Int8) : Device :=
  let (ring, records) := runtimeTraceRingPush device.ring device.records traceCapacity
    { ticks, a, b, event, cothread }
  { device with ring, records }

def runtimeTraceOpen (device : Device) (readWrite : Bool) (answer : FdAnswer) :
    Device × Except Errno Int :=
  if !readWrite then (device, .error .EACCES)
  else
    match runtimeFdAllocOps device.fds 0 answer with
    | (fds, .ok fd) => ({ device with fds }, .ok fd)
    | (fds, .error _) => ({ device with fds }, .error .EMFILE)

def traceRead (device : Device) (count : Nat) (fd : Int) (frequency : UInt64) :
    Device × Except Errno Bytes :=
  match device.fds fd with
  | none => (device, .error .EBADF)
  | some filePtr =>
      if filePtr < 0 then (device, .error .EBADF)
      else if filePtr ≠ 0 then (device, .ok [])
      else
        let total := traceHeaderSize + device.ring.length.toNat * traceRecordSize
        if count < total then (device, .error .EMSGSIZE)
        else
          ({ device with fds := Function.update device.fds fd (some total) },
            .ok (headerBytes device.ring frequency ++
              ((List.range device.ring.length.toNat).map device.records).flatMap Record.bytes))

/-- `trace_write` of some bytes. -/
def traceWrite (device : Device) (data : Bytes) : Device × Except Errno Nat :=
  match data with
  | [] => (device, .ok 0)
  | first :: _ =>
      if first = 49 then ({ device with ring := runtimeTraceRingArm }, .ok data.length)
      else if first = 48 then
        ({ device with ring := runtimeTraceRingDisarm device.ring }, .ok data.length)
      else (device, .error .EINVAL)

def traceClose (device : Device) (fd : Int) : Device :=
  { device with fds := runtimeFdClose device.fds fd }

/-! ## Runs -/

inductive Action where
  | hook (event : TraceEvent) (a b : Int64) (ticks : UInt64) (cothread : Int8)
  | opens (readWrite : Bool) (answer : FdAnswer)
  | writes (fd : Int) (data : Bytes)
  | reads (fd : Int) (count : Nat) (frequency : UInt64)
  | closes (fd : Int)

/-- What a run did to the trace, and what it took from it. -/
inductive Event where
  | hooked (record : Record)
  | armed
  | disarmed
  | opened (fd : Int)
  | copied (fd : Int) (frequency : UInt64) (bytes : Bytes)
  | closed (fd : Int)

/-- What a write of the device does. -/
def writeEvents : Bytes → List Event
  | [] => []
  | first :: _ => if first = 49 then [.armed] else if first = 48 then [.disarmed] else []

def step (device : Device) : Action → Option (Device × List Event)
  | .hook event a b ticks cothread =>
      some (runtimeTraceStore device event a b ticks cothread,
        [.hooked { ticks, a, b, event, cothread }])
  | .opens readWrite answer =>
      if answer.Fits device.fds then
        let (device, result) := runtimeTraceOpen device readWrite answer
        some (device, result.toOption.toList.map Event.opened)
      else none
  | .writes fd data =>
      if (device.fds fd).isSome then some ((traceWrite device data).1, writeEvents data) else none
  | .reads fd count frequency =>
      match traceRead device count fd frequency with
      | (device, .ok (byte :: rest)) => some (device, [.copied fd frequency (byte :: rest)])
      | (device, _) => some (device, [])
  | .closes fd => if (device.fds fd).isSome then some (traceClose device fd, [.closed fd]) else none

/-- The state after some actions, with what they did, the newest event first. -/
def run : Device × List Event → List Action → Option (Device × List Event)
  | reached, [] => some reached
  | (device, log), action :: rest => do
      let (next, events) ← step device action
      run (next, events ++ log) rest

/-! ## The Erlang reader -/

/-- A record as Erlang has it. -/
structure Decoded where
  ticks : Nat
  event : Nat
  cothread : Int
  a : Int
  b : Int
  deriving DecidableEq, Repr

structure Snapshot where
  frequency : Nat
  records : List Decoded
  dropped : Nat
  deriving DecidableEq, Repr

/-- A `little-signed` integer of some bytes. -/
def signedNumber (bytes : Bytes) : Int :=
  let bound : Nat := 256 ^ bytes.length
  if 2 * leNumber bytes < bound then leNumber bytes else leNumber bytes - (bound : Int)

/-- The pattern of a record. -/
def decodeRecord (bytes : Bytes) : Decoded where
  ticks := leNumber (bytes.take 8)
  a := signedNumber ((bytes.drop 8).take 8)
  b := signedNumber ((bytes.drop 16).take 8)
  event := leNumber ((bytes.drop 24).take 1)
  cothread := signedNumber ((bytes.drop 25).take 1)

/-- `decode`, `none` for `bad_snapshot`. -/
def decode (bytes : Bytes) : Option Snapshot :=
  let body := bytes.drop 32
  if 32 ≤ bytes.length ∧ bytes.take 8 = traceMagic ∧
      body.length = leNumber ((bytes.drop 16).take 4) * 32 then
    some {
      frequency := leNumber ((bytes.drop 8).take 8)
      records := (chunks 32 (body.length / 32) body).map decodeRecord
      dropped := leNumber ((bytes.drop 20).take 4) }
  else none

inductive SnapshotError where
  | posix (errno : Errno)
  | eof
  | badSnapshot
  deriving DecidableEq, Repr

/-- `snapshot`: the device opened, read once and closed. -/
def snapshot (device : Device) (answer : FdAnswer) (frequency : UInt64) :
    Device × Except SnapshotError Snapshot :=
  match runtimeTraceOpen device true answer with
  | (device, .error errno) => (device, .error (.posix errno))
  | (device, .ok fd) =>
      let (device, result) := traceRead device 65536 fd frequency
      (traceClose device fd,
        match result with
        | .error errno => .error (.posix errno)
        | .ok bytes =>
            if bytes = [] then .error .eof
            else (decode bytes).elim (.error .badSnapshot) .ok)

/-- `event` -/
def eventText : Nat → String
  | 0 => "futex_wait"
  | 1 => "futex_timeout"
  | 2 => "futex_wake"
  | 3 => "park"
  | 4 => "resume"
  | 5 => "epoll_enter"
  | 6 => "epoll_exit"
  | 7 => "notified"
  | 8 => "drain_rearm"
  | number => toString number

/-- A `TRACE` line. -/
structure Line where
  us : Int
  ev : String
  co : Int
  a : Int
  b : Int
  deriving DecidableEq, Repr

/-- The lines of `dump`, before it logs how many records there are and were dropped. -/
def dumpLines (snapshot : Snapshot) : List Line :=
  let start := (snapshot.records.head?.map Decoded.ticks).getD 0
  snapshot.records.map fun record =>
    { us := ((record.ticks - start : Int) * 1000000).tdiv (max 1 snapshot.frequency)
      ev := eventText record.event
      co := record.cothread
      a := record.a
      b := record.b }

end Chrysopolis.Beam.Trace
