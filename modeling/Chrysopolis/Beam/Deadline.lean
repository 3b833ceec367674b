import Mathlib.Data.Int.Basic
import Mathlib.Data.UInt

/-! Timeout arithmetic of the timed waits: the deadline each arms on the timer's clock,
and the clock test its own loop makes. -/

set_option autoImplicit false

namespace Chrysopolis.Beam

def uint64Max : Nat := 2 ^ 64 - 1

/-- `INT64_MAX`, the longest relative timeout. -/
def runtimeTimeoutMaxNs : Nat := 2 ^ 63 - 1

def runtimeNsPerSec : Nat := 1000000000

/-- `struct timespec` -/
structure Timespec where
  tvSec : Int
  tvNsec : Int
  deriving DecidableEq, Repr

def runtimeTimespecValid (ts : Timespec) : Bool :=
  0 ≤ ts.tvSec && 0 ≤ ts.tvNsec && ts.tvNsec.toNat < runtimeNsPerSec

/-- Capped at `runtimeTimeoutMaxNs`. -/
def runtimeTimespecNs (ts : Timespec) : Nat :=
  let sec := ts.tvSec.toNat
  let nsec := ts.tvNsec.toNat
  if sec > (runtimeTimeoutMaxNs - nsec) / runtimeNsPerSec then runtimeTimeoutMaxNs
  else sec * runtimeNsPerSec + nsec

def runtimeDeadlineAfter (nowNs timeoutNs : Nat) : Nat :=
  let timeoutNs := if timeoutNs > runtimeTimeoutMaxNs then runtimeTimeoutMaxNs else timeoutNs
  if timeoutNs > uint64Max - nowNs then uint64Max else nowNs + timeoutNs

def runtimeTimeoutMsNs (ms : Int) : Nat :=
  if ms ≤ 0 then 0 else ms.toNat * 1000000

def runtimeDeadlineIsRealtime (ts : Timespec) (epochSec : Nat) : Bool :=
  ts.tvSec.toNat ≥ epochSec

/-- The epoch in nanoseconds saturates. -/
def runtimeRealtimeToMonotonicNs (realtimeNs epochSec : Nat) : Nat :=
  let product := epochSec * runtimeNsPerSec
  let epochNs := if product > uint64Max then uint64Max else product
  if realtimeNs > epochNs then realtimeNs - epochNs else 0

/-! ## Clocks -/

/-- `RNG_REALTIME_BASE_EPOCH` -/
def rngRealtimeBaseEpoch : Nat := 1767225600

/-- The offset `rng_init` derives from the bytes it draws. -/
def rngRealtimeOffset (raw : Nat) : Nat := raw % 900

/-- The realtime clock's lead, given those bytes. -/
def epochSec (raw : Nat) : Nat := rngRealtimeBaseEpoch + rngRealtimeOffset raw

inductive ClockId where
  | realtime | monotonic
  deriving DecidableEq, Repr

/-- `runtime_sys_clock_gettime`, over libc's handler, which reads the sDDF timer for every
clock. -/
def clockGettime (raw : Nat) (clock : ClockId) (nowNs : Nat) : Timespec :=
  let tp : Timespec := ⟨(nowNs / runtimeNsPerSec : Nat), (nowNs % runtimeNsPerSec : Nat)⟩
  if clock = .realtime then { tp with tvSec := tp.tvSec + (epochSec raw : Nat) } else tp

/-! ## Waits -/

def runtimeFutexOpWaitBitset : UInt32 := 9
def runtimeFutexCmdMask : UInt32 := 0x7f
def runtimeFutexClockRealtime : UInt32 := 256

def runtimeFutexDeadline (op : UInt32) (timeoutNs nowNs epochSec : Nat) : Nat :=
  if op &&& runtimeFutexCmdMask ≠ runtimeFutexOpWaitBitset then
    runtimeDeadlineAfter nowNs timeoutNs
  else if op &&& runtimeFutexClockRealtime ≠ 0 then
    runtimeRealtimeToMonotonicNs timeoutNs epochSec
  else timeoutNs

/-- A call that waits with a timeout, with the arguments its deadline is computed from. -/
inductive Timed where
  | futex (op : UInt32) (timeout : Timespec)
  | nanosleep (clock : ClockId) (absolute : Bool) (req : Timespec)
  | condTimedwait (abstime : Timespec)
  | epollPwait (timeout : Int)
  | ppoll (tmo : Timespec)
  | pselect6 (timeout : Timespec)
  deriving DecidableEq, Repr

namespace Timed

/-- The timeouts a call accepts, and waits for. -/
def valid : Timed → Bool
  | .futex _ timeout => runtimeTimespecValid timeout
  | .nanosleep _ _ req => runtimeTimespecValid req
  | .condTimedwait abstime => runtimeTimespecValid abstime
  | .epollPwait timeout => 0 < timeout
  | .ppoll tmo => runtimeTimespecValid tmo && tmo != ⟨0, 0⟩
  | .pselect6 timeout => runtimeTimespecValid timeout && timeout != ⟨0, 0⟩

/-- The clock a condition wait reads. -/
def condClock (abstime : Timespec) : ClockId :=
  if runtimeDeadlineIsRealtime abstime rngRealtimeBaseEpoch then .realtime else .monotonic

/-- The deadline a call that reads the timer at `nowNs` arms. -/
def deadline (raw nowNs : Nat) : Timed → Nat
  | .futex op timeout => runtimeFutexDeadline op (runtimeTimespecNs timeout) nowNs (epochSec raw)
  | .nanosleep clock absolute req =>
      let reqns := runtimeTimespecNs req
      if absolute then
        if clock = .realtime then runtimeRealtimeToMonotonicNs reqns (epochSec raw) else reqns
      else runtimeDeadlineAfter nowNs reqns
  | .condTimedwait abstime =>
      let deadlineNs := runtimeTimespecNs abstime
      if condClock abstime = .realtime then
        runtimeRealtimeToMonotonicNs deadlineNs (epochSec raw)
      else deadlineNs
  | .epollPwait timeout => runtimeDeadlineAfter nowNs (runtimeTimeoutMsNs timeout)
  | .ppoll tmo => runtimeDeadlineAfter nowNs (runtimeTimespecNs tmo)
  | .pselect6 timeout => runtimeDeadlineAfter nowNs (runtimeTimespecNs timeout)

/-- The poll calls park for one pulse and read no clock. -/
def readsClock : Timed → Bool
  | .futex .. | .nanosleep .. | .condTimedwait _ => true
  | .epollPwait _ | .ppoll _ | .pselect6 _ => false

/-- Whether the loop of a call that began at `begun` gives up when the timer reads
`nowNs`. -/
def expired (raw begun nowNs : Nat) : Timed → Bool
  | .futex op timeout => nowNs ≥ deadline raw begun (.futex op timeout)
  | .nanosleep clock absolute req => !(nowNs < deadline raw begun (.nanosleep clock absolute req))
  | .condTimedwait abstime =>
      let now := clockGettime raw (condClock abstime) nowNs
      now.tvSec > abstime.tvSec || (now.tvSec == abstime.tvSec && now.tvNsec ≥ abstime.tvNsec)
  | .epollPwait _ | .ppoll _ | .pselect6 _ => true

/-- The timeout in nanoseconds, uncapped. -/
def exactNs : Timed → Nat
  | .futex _ timeout | .nanosleep _ _ timeout | .condTimedwait timeout
  | .ppoll timeout | .pselect6 timeout =>
      timeout.tvSec.toNat * runtimeNsPerSec + timeout.tvNsec.toNat
  | .epollPwait timeout => runtimeTimeoutMsNs timeout

/-- The timeline of a call's timeout. -/
inductive Timeline where
  | relative | monotonic | realtime
  deriving DecidableEq, Repr

def timeline : Timed → Timeline
  | .futex op _ =>
      if op &&& runtimeFutexCmdMask ≠ runtimeFutexOpWaitBitset then .relative
      else if op &&& runtimeFutexClockRealtime ≠ 0 then .realtime
      else .monotonic
  | .nanosleep clock absolute _ =>
      if absolute then if clock = .realtime then .realtime else .monotonic else .relative
  | .condTimedwait abstime => if condClock abstime = .realtime then .realtime else .monotonic
  | .epollPwait _ | .ppoll _ | .pselect6 _ => .relative

/-- What the timeout asks for: the time since the call began, or a reading of a clock. -/
def Due (raw begun nowNs : Nat) (timed : Timed) : Prop :=
  match timed.timeline with
  | .relative => begun + timed.exactNs ≤ nowNs
  | .monotonic => timed.exactNs ≤ nowNs
  | .realtime => timed.exactNs ≤ nowNs + epochSec raw * runtimeNsPerSec

end Timed

end Chrysopolis.Beam
