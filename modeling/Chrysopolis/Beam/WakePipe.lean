import Chrysopolis.Beam.Descriptors
import Mathlib.Algebra.Group.Nat.Defs
import Mathlib.Data.List.Basic

/-! Byte-counting pipes, their descriptors, and the events a run of `pipe2`, `read`, `write` and
`close` leaves. The cothreads switch at any call; a blocking read parks and looks again. -/

set_option autoImplicit false

namespace Chrysopolis.Beam.WakePipe

/-! ## The pipe table -/

inductive PipeState where
  | free | empty | readable
  deriving DecidableEq, Repr

inductive Status where
  | ok | wouldBlock | eof | broken | noSlot | unknownFd
  deriving DecidableEq, Repr

/-- `runtime_pipe_slot`; `pending` is a `uint32_t`. -/
structure PipeSlot where
  state : PipeState := .free
  readOpen : Bool := false
  writeOpen : Bool := false
  readFd : Int := 0
  writeFd : Int := 0
  pending : Nat := 0
  deriving DecidableEq, Repr

abbrev Pipes := List PipeSlot

/-- `runtime_pipe_capacity` -/
def pipeCapacity : Nat := 4096

def isRead (fd : Int) (slot : PipeSlot) : Bool :=
  slot.state != .free && slot.readOpen && slot.readFd == fd

def isWrite (fd : Int) (slot : PipeSlot) : Bool :=
  slot.state != .free && slot.writeOpen && slot.writeFd == fd

/-- The place of the slot; a null pointer is `none`. -/
def slotOfRead (pipes : Pipes) (fd : Int) : Option Nat := pipes.findIdx? (isRead fd)

def slotOfWrite (pipes : Pipes) (fd : Int) : Option Nat := pipes.findIdx? (isWrite fd)

def freePlace (pipes : Pipes) : Option Nat := pipes.findIdx? fun slot => slot.state == .free

def pipeOpen (pipes : Pipes) (readFd writeFd : Int) : Pipes × Status :=
  match freePlace pipes with
  | none => (pipes, .noSlot)
  | some place =>
      (pipes.set place
        { state := .empty, readOpen := true, writeOpen := true, readFd, writeFd }, .ok)

/-- What a write does to its slot, and how many bytes it takes. -/
def slotWrite (slot : PipeSlot) (bytes : Nat) : PipeSlot × Status × Nat :=
  if slot.readOpen = false then (slot, .broken, 0)
  else
    let room := (pipeCapacity + 2 ^ 32 - slot.pending) % 2 ^ 32
    if bytes ≠ 0 ∧ room = 0 then (slot, .wouldBlock, 0)
    else
      let take := if bytes < room then bytes else room
      let pending := (slot.pending + take) % 2 ^ 32
      ({ slot with pending, state := if pending ≠ 0 then .readable else slot.state }, .ok, take)

def slotRead (slot : PipeSlot) (bytes : Nat) : PipeSlot × Status × Nat :=
  if slot.state = .empty then (slot, if slot.writeOpen then .wouldBlock else .eof, 0)
  else
    let take := if bytes < slot.pending then bytes else slot.pending
    let pending := slot.pending - take
    ({ slot with pending, state := if pending = 0 then .empty else slot.state }, .ok, take)

/-- The slot with one end closed, freed with its last. -/
def slotClose (slot : PipeSlot) : PipeSlot :=
  if slot.readOpen = false ∧ slot.writeOpen = false then {} else slot

def pipeWrite (pipes : Pipes) (fd : Int) (bytes : Nat) : Pipes × Status × Nat :=
  match slotOfWrite pipes fd with
  | none => (pipes, .unknownFd, 0)
  | some place =>
      let slot := pipes[place]?.getD {}
      (pipes.set place (slotWrite slot bytes).1, (slotWrite slot bytes).2)

def pipeRead (pipes : Pipes) (fd : Int) (bytes : Nat) : Pipes × Status × Nat :=
  match slotOfRead pipes fd with
  | none => (pipes, .unknownFd, 0)
  | some place =>
      let slot := pipes[place]?.getD {}
      (pipes.set place (slotRead slot bytes).1, (slotRead slot bytes).2)

def pipeReady (pipes : Pipes) (fd : Int) : Bool :=
  match pipes.find? (isRead fd) with
  | none => false
  | some slot => slot.state == .readable || !slot.writeOpen

def pipeClose (pipes : Pipes) (fd : Int) : Pipes × Status :=
  match slotOfRead pipes fd, slotOfWrite pipes fd with
  | some place, _ =>
      (pipes.modify place fun slot => slotClose { slot with readOpen := false }, .ok)
  | none, some place =>
      (pipes.modify place fun slot => slotClose { slot with writeOpen := false }, .ok)
  | none, none => (pipes, .unknownFd)

/-! ## Descriptors -/

inductive Kind where
  | pipeRead | pipeWrite | socketpair | other
  deriving DecidableEq, Repr

/-- An entry of the libc table, by its callbacks, and whether it has `O_NONBLOCK`. -/
structure FdOps where
  kind : Kind
  nonblock : Bool := true
  deriving DecidableEq, Repr

def pipeSlots : Nat := 8

/-- A cothread parked in a blocking read. -/
structure Wait where
  fd : Int
  count : Nat
  deriving DecidableEq, Repr

structure State where
  pipes : Pipes := List.replicate pipeSlots {}
  fds : FdTable FdOps := fun _ => none
  waits : Nat → Option Wait := fun _ => none

def boot : State := {}

def pipeErrno (bytes : Nat) : Status → Except FdErrno Nat
  | .ok => .ok bytes
  | .wouldBlock => .error .EAGAIN
  | .eof => .ok 0
  | .broken => .error .EPIPE
  | .noSlot => .error .ENFILE
  | .unknownFd => .error .EBADF

/-- One turn of `pipe_read`; `none` where it parks. -/
def pipeReadTurn (state : State) (fd : Int) (count : Nat) : State × Option (Except FdErrno Nat) :=
  let (pipes, status, taken) := pipeRead state.pipes fd count
  let state : State := { state with pipes }
  if status ≠ .wouldBlock ∨ (state.fds fd).any (·.nonblock) = true then
    (state, some (pipeErrno taken status))
  else (state, none)

def pipeWriteCall (state : State) (fd : Int) (count : Nat) : State × Except FdErrno Nat :=
  let (pipes, status, accepted) := pipeWrite state.pipes fd count
  ({ state with pipes }, pipeErrno accepted status)

def pipeCloseCall (state : State) (fd : Int) : State :=
  { state with
    pipes := (pipeClose state.pipes fd).1
    fds := runtimeFdClose state.fds fd }

/-- `runtime_fd_alloc_pair`, where `out` is the caller's array. -/
def fdAllocPair {Table : Type} (alloc : Table → Nat → Table × Except FdErrno Int)
    (close : Table → Int → Table) (table : Table) (out : Int × Int) :
    Table × (Int × Int) × Except FdErrno Unit :=
  match alloc table 0 with
  | (table, .error errno) => (table, out, .error errno)
  | (table, .ok first) =>
      match alloc table 1 with
      | (table, .error errno) => (close table first, out, .error errno)
      | (table, .ok second) => (table, (first, second), .ok ())

/-- What the libc table answers to the two allocations of a pair. -/
structure PairAnswers where
  first : FdAnswer
  second : FdAnswer
  deriving DecidableEq, Repr

def PairAnswers.of (answers : PairAnswers) (which : Nat) : FdAnswer :=
  if which = 0 then answers.first else answers.second

def pipeAlloc (nonblock : Bool) (answers : PairAnswers) (fds : FdTable FdOps) (which : Nat) :
    FdTable FdOps × Except FdErrno Int :=
  runtimeFdAllocOps fds
    (if which = 0 then { kind := .pipeRead, nonblock } else { kind := .pipeWrite, nonblock })
    (answers.of which)

def socketpairAlloc (answers : PairAnswers) (fds : FdTable FdOps) (which : Nat) :
    FdTable FdOps × Except FdErrno Int :=
  runtimeFdAllocOps fds { kind := .socketpair } (answers.of which)

/-- `pipefd` is the caller's array; a null pointer is `none`. -/
def sysPipe2 (state : State) (pipefd : Option (Int × Int)) (nonblock : Bool)
    (answers : PairAnswers) : State × Option (Int × Int) × Except FdErrno Unit :=
  match pipefd with
  | none => (state, none, .error .EFAULT)
  | some array =>
      match fdAllocPair (pipeAlloc nonblock answers) runtimeFdClose state.fds (0, 0) with
      | (fds, _, .error errno) => ({ state with fds }, some array, .error errno)
      | (fds, (first, second), .ok ()) =>
          match pipeOpen state.pipes first second with
          | (pipes, .ok) => ({ state with fds, pipes }, some (first, second), .ok ())
          | (pipes, _) =>
              ({ state with
                fds := runtimeFdClose (runtimeFdClose fds first) second
                pipes }, some array, .error .ENFILE)

def sysSocketpair (state : State) (sv : Option (Int × Int)) (answers : PairAnswers) :
    State × Option (Int × Int) × Except FdErrno Unit :=
  match sv with
  | none => (state, none, .error .EFAULT)
  | some array =>
      let (fds, array, result) :=
        fdAllocPair (socketpairAlloc answers) runtimeFdClose state.fds array
      ({ state with fds }, some array, result)

/-! ## Steps -/

inductive Action where
  | pipe2 (pipefd : Option (Int × Int)) (nonblock : Bool) (answers : PairAnswers)
  | socketpair (sv : Option (Int × Int)) (answers : PairAnswers)
  | read (fd : Int) (count : Nat)
  | write (fd : Int) (count : Nat)
  | close (fd : Int)
  /-- A parked read looks again. -/
  | resume
  /-- Some other descriptor is opened. -/
  | open (fd : Int)
  deriving DecidableEq, Repr

/-- The libc table answers each allocation with a number that is not open then. -/
def PairAnswers.Fit (answers : PairAnswers) (alloc : FdTable FdOps → Nat →
    FdTable FdOps × Except FdErrno Int) (fds : FdTable FdOps) : Prop :=
  answers.first.Fits fds ∧ answers.second.Fits (alloc fds 0).1

instance (answers : PairAnswers) (alloc : FdTable FdOps → Nat →
    FdTable FdOps × Except FdErrno Int) (fds : FdTable FdOps) :
    Decidable (answers.Fit alloc fds) := by
  unfold PairAnswers.Fit
  infer_instance

def readStep (state : State) (cothread : Nat) (fd : Int) (count : Nat) : State :=
  let (state, result) := pipeReadTurn state fd count
  { state with
    waits := Function.update state.waits cothread
      (if result.isNone then some { fd, count } else none) }

def closeStep (state : State) (fd : Int) (ops : FdOps) : State :=
  match ops.kind with
  | .pipeRead | .pipeWrite => pipeCloseCall state fd
  | .socketpair | .other => { state with fds := runtimeFdClose state.fds fd }

/-- One step of a cothread. -/
def step (state : State) (cothread : Nat) (action : Action) : Option State :=
  match state.waits cothread, action with
  | none, .pipe2 pipefd nonblock answers =>
      if answers.Fit (pipeAlloc nonblock answers) state.fds then
        some (sysPipe2 state pipefd nonblock answers).1
      else none
  | none, .socketpair sv answers =>
      if answers.Fit (socketpairAlloc answers) state.fds then
        some (sysSocketpair state sv answers).1
      else none
  | none, .read fd count =>
      some (if (state.fds fd).any (·.kind == .pipeRead) then readStep state cothread fd count
        else state)
  | none, .write fd count =>
      some (if (state.fds fd).any (·.kind == .pipeWrite) then (pipeWriteCall state fd count).1
        else state)
  | none, .close fd =>
      match state.fds fd with
      | none => some state
      | some ops => some (closeStep state fd ops)
  | none, .open fd =>
      if 0 ≤ fd ∧ state.fds fd = none then
        some { state with fds := Function.update state.fds fd (some { kind := .other }) }
      else none
  | some wait, .resume => some (readStep state cothread wait.fd wait.count)
  | _, _ => none

def run : State → List (Nat × Action) → Option State
  | state, [] => some state
  | state, (cothread, action) :: rest =>
      (step state cothread action).bind fun next => run next rest

/-! ## Events -/

/-- What the callers are told of a slot. -/
inductive Event where
  | opened (place : Nat)
  | accepted (place bytes : Nat)
  | taken (place bytes : Nat)
  deriving DecidableEq, Repr

def readEvents (state : State) (fd : Int) (count : Nat) : List Event :=
  match slotOfRead state.pipes fd, (pipeReadTurn state fd count).2 with
  | some place, some (.ok bytes) => [.taken place bytes]
  | _, _ => []

def writeEvents (state : State) (fd : Int) (count : Nat) : List Event :=
  match slotOfWrite state.pipes fd, (pipeWriteCall state fd count).2 with
  | some place, .ok bytes => [.accepted place bytes]
  | _, _ => []

def pipe2Events (state : State) (pipefd : Option (Int × Int)) (nonblock : Bool)
    (answers : PairAnswers) : List Event :=
  match freePlace state.pipes, (sysPipe2 state pipefd nonblock answers).2.2 with
  | some place, .ok () => [.opened place]
  | _, _ => []

/-- The events of a step. -/
def events (state : State) (cothread : Nat) (action : Action) : List Event :=
  match state.waits cothread, action with
  | none, .pipe2 pipefd nonblock answers => pipe2Events state pipefd nonblock answers
  | none, .read fd count =>
      if (state.fds fd).any (·.kind == .pipeRead) then readEvents state fd count else []
  | none, .write fd count =>
      if (state.fds fd).any (·.kind == .pipeWrite) then writeEvents state fd count else []
  | some wait, .resume => readEvents state wait.fd wait.count
  | _, _ => []

/-- The events of a run before `past`, newest first. -/
def history : State → List Event → List (Nat × Action) → List Event
  | _, past, [] => past
  | state, past, (cothread, action) :: rest =>
      match step state cothread action with
      | none => past
      | some next => history next (events state cothread action ++ past) rest

/-- The bytes accepted into a slot since it was opened. -/
def acceptedBytes : List Event → Nat → Nat
  | [], _ => 0
  | .opened other :: past, place => if other = place then 0 else acceptedBytes past place
  | .accepted other bytes :: past, place =>
      acceptedBytes past place + if other = place then bytes else 0
  | .taken _ _ :: past, place => acceptedBytes past place

/-- The bytes taken from a slot since it was opened. -/
def takenBytes : List Event → Nat → Nat
  | [], _ => 0
  | .opened other :: past, place => if other = place then 0 else takenBytes past place
  | .accepted _ _ :: past, place => takenBytes past place
  | .taken other bytes :: past, place =>
      takenBytes past place + if other = place then bytes else 0

end Chrysopolis.Beam.WakePipe
