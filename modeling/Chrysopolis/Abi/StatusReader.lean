import Chrysopolis.Abi.Checks

/-! The reader of the status page. One attempt loads the sequence, copies the page
byte by byte into the scratch buffer, loads the sequence again and validates; each
load of the shared page is one step. -/

set_option autoImplicit false

namespace Chrysopolis.Abi

open Chrysopolis.Support

inductive RootStatusReadResult where
  | ok | torn | invalid | size
  deriving DecidableEq, Repr

/-- The arguments of `root_status_read`: buffers by address, none for null. -/
structure ReadArgs where
  shared : Option Nat
  scratch : Option Nat
  output : Option Nat
  len : Nat
  attempts : UInt32

/-- Where a call of `root_status_read` stands. -/
inductive ReadPhase where
  /-- The next attempt, if any of these is left. -/
  | attempt (left : Nat)
  /-- Copying under a sequence, so many bytes done. -/
  | copying (left : Nat) (seq : UInt64) (count : Nat)
  | done (result : RootStatusReadResult)
  deriving DecidableEq, Repr

structure Reader where
  scratch : Memory
  output : Memory
  phase : ReadPhase

/-- The sequence word of a page. -/
def statusSeq (page : Memory) : UInt64 := UInt64.ofNat (statusLayout.read page (.header .seq))

/-- The checks `root_status_read` makes before the first attempt. -/
def rootStatusRead (args : ReadArgs) : ReadPhase :=
  if args.shared.isNone || args.scratch.isNone || args.output.isNone ||
      args.scratch = args.output || args.scratch = args.shared || args.output = args.shared ||
      args.len ≠ statusPageSize then
    .done .size
  else .attempt args.attempts.toNat

/-- The sequence load of `root_status_copy_begin`. -/
def rootStatusCopyBegin (page : Memory) (left : Nat) : ReadPhase :=
  let before := statusSeq page
  if before = 0 || before &&& 1 ≠ 0 then .attempt left else .copying left before 0

/-- The buffer copy at the end of a successful attempt. -/
def copyOut (scratch output : Memory) : Memory :=
  fun position => if position < statusPageSize then scratch position else output position

/-- `root_status_copy_finish`; a torn attempt is retried. -/
def rootStatusCopyFinish (page : Memory) (reader : Reader) (left : Nat) (seq : UInt64) :
    Reader :=
  if statusSeq page ≠ seq then { reader with phase := .attempt left }
  else if statusSeq reader.scratch ≠ seq ||
      checkRootStatusPage reader.scratch statusPageSize ≠ .ok then
    { reader with phase := .done .invalid }
  else { reader with output := copyOut reader.scratch reader.output, phase := .done .ok }

/-- The reader's next step against the shared page. -/
def readStep (page : Memory) (reader : Reader) : Reader :=
  match reader.phase with
  | .attempt 0 => { reader with phase := .done .torn }
  | .attempt (left + 1) => { reader with phase := rootStatusCopyBegin page left }
  | .copying left seq count =>
      if count < statusPageSize then
        { reader with
          scratch := Function.update reader.scratch count (page count)
          phase := .copying left seq (count + 1) }
      else rootStatusCopyFinish page reader left seq
  | .done _ => reader

/-! ### Comparing two copies -/

def headerWord (page : Memory) (field : RootStatusHeaderField) : UInt64 :=
  UInt64.ofNat (statusLayout.read page (.header field))

/-- `memcmp` of two pages. -/
def samePage (left right : Memory) : Bool :=
  (List.range statusPageSize).all fun position => left position == right position

/-- `root_status_missed`. -/
def rootStatusMissed (previousHead currentHead : UInt64) : UInt64 :=
  let count := UInt64.ofNat eventCount
  let earliest := if currentHead > count then currentHead - count else 0
  if earliest > previousHead then earliest - previousHead else 0

/-- A row whose counters went backwards. -/
def rowRegressed (prior current : Memory) (child : ChildIndex) : Bool :=
  statusLayout.read current (.child child .lifetimeCount) <
      statusLayout.read prior (.child child .lifetimeCount) ||
    statusLayout.read current (.child child .cumulativeDownTicks) <
      statusLayout.read prior (.child child .cumulativeDownTicks)

/-- `root_status_regressed`. -/
def rootStatusRegressed (prior current : Memory) (priorSeq currentSeq : UInt64) : Bool :=
  if headerWord current .rootGeneration < headerWord prior .rootGeneration then true
  else if headerWord current .rootGeneration ≠ headerWord prior .rootGeneration then false
  -- Root bumps the sequence for every change.
  else if currentSeq = priorSeq then !samePage prior current
  else if currentSeq < priorSeq ||
      headerWord current .eventHead < headerWord prior .eventHead ||
      headerWord current .beamIncarnation < headerWord prior .beamIncarnation then true
  else (List.finRange childCount).any (rowRegressed prior current)

structure RootStatusFreshness where
  missedEvents : UInt64
  ageTicks : UInt64
  ageKnown : Bool
  changed : Bool
  deriving DecidableEq, Repr

inductive RootStatusObserveResult where
  | ok (out : RootStatusFreshness)
  | regressed
  deriving DecidableEq, Repr

/-- `root_status_observe`; a null output is excluded by the type of the result. -/
def rootStatusObserve (prior current : Option Memory) (readerTicks readerFrequency : UInt64) :
    RootStatusObserveResult :=
  match current with
  | none => .regressed
  | some current =>
      let currentSeq := statusSeq current
      let priorSeq := (prior.map statusSeq).getD 0
      if prior.any fun prior => rootStatusRegressed prior current priorSeq currentSeq then
        .regressed
      else
        let sameGeneration := prior.any fun prior =>
          headerWord current .rootGeneration == headerWord prior .rootGeneration
        let ageKnown := headerWord current .cntfrq ≠ 0 &&
          headerWord current .cntfrq = readerFrequency &&
          readerTicks ≥ headerWord current .nowTicks
        .ok
          { missedEvents :=
              if sameGeneration then
                rootStatusMissed ((prior.map fun prior => headerWord prior .eventHead).getD 0)
                  (headerWord current .eventHead)
              else 0
            ageTicks := if ageKnown then readerTicks - headerWord current .nowTicks else 0
            ageKnown
            changed := !sameGeneration || currentSeq ≠ priorSeq }

end Chrysopolis.Abi
