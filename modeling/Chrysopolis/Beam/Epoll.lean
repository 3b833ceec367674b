import Chrysopolis.Beam.Descriptors
import Mathlib.Data.List.FinRange

/-! The epoll tables and calls of the poll adapter, and the events a run of them leaves. The
cothreads switch at any call; a `pwait` may park between its two scans, and what is ready is
given with each scan. -/

set_option autoImplicit false

namespace Chrysopolis.Beam.Epoll

def epollIn : BitVec 32 := 0x001
def epollErr : BitVec 32 := 0x008
def epollHup : BitVec 32 := 0x010
def epollOneshot : BitVec 32 := 1 <<< 30

/-! ## Tables -/

structure Entry where
  fd : Int := 0
  events : BitVec 32 := 0
  data : BitVec 64 := 0
  active : Bool := false
  armed : Bool := false
  isSock : Bool := false
  sockHandle : Int := 0
  deriving DecidableEq, Repr

abbrev Table := List Entry

inductive Status where
  | ok | noSpace
  deriving DecidableEq, Repr

/-- The place of the entry; a null pointer is `none`. -/
def findEntry (table : Table) (fd : Int) : Option Nat :=
  table.findIdx? fun entry => entry.active && entry.fd == fd

/-- The entry of `fd`, or the first that is inactive. -/
def placeFor (table : Table) (fd : Int) : Option Nat :=
  (findEntry table fd).or (table.findIdx? (!·.active))

def newEntry (fd : Int) (events : BitVec 32) (data : BitVec 64) (sock : Option Int) : Entry :=
  { fd, events, data, active := true, armed := true, isSock := sock.isSome
    sockHandle := sock.getD (-1) }

/-- `runtime_epoll_table_set`; a socket is given by its handle. -/
def tableSet (table : Table) (fd : Int) (events : BitVec 32) (data : BitVec 64)
    (sock : Option Int) : Table × Status :=
  match placeFor table fd with
  | none => (table, .noSpace)
  | some index => (table.set index (newEntry fd events data sock), .ok)

/-- `runtime_epoll_table_remove` -/
def tableRemove (table : Table) (fd : Int) : Table :=
  match findEntry table fd with
  | none => table
  | some index => table.modify index fun entry => { entry with active := false }

structure Report where
  events : BitVec 32
  data : BitVec 64
  deriving DecidableEq, Repr

/-- The conditions an entry may report. -/
def conditions (readiness : Entry → BitVec 32) (entry : Entry) : BitVec 32 :=
  readiness entry &&& (entry.events ||| epollErr ||| epollHup)

/-- `runtime_epoll_table_scan`, with `left` reports still to make. -/
def tableScan (readiness : Entry → BitVec 32) : Nat → Table → Table × List Report
  | 0, table => (table, [])
  | _, [] => ([], [])
  | left + 1, entry :: rest =>
      if entry.active = false ∨ entry.armed = false ∨ conditions readiness entry = 0 then
        let (rest, reports) := tableScan readiness (left + 1) rest
        (entry :: rest, reports)
      else
        let (rest, reports) := tableScan readiness left rest
        let entry' :=
          if entry.events &&& epollOneshot ≠ 0 then { entry with armed := false } else entry
        (entry' :: rest, { events := conditions readiness entry, data := entry.data } :: reports)

/-! ## Instances -/

def epollMaxFds : Nat := 64
abbrev epollInstances : Nat := 4

/-- `epoll_instance`, free with -1. -/
structure Instance where
  epfd : Int := -1
  table : Table := List.replicate epollMaxFds {}

inductive Ops where
  | epoll | other
  deriving DecidableEq, Repr

/-- A cothread parked in `epoll_pwait`, with the table it holds a pointer to. -/
structure Wait where
  slot : Fin epollInstances
  maxevents : Nat
  deriving DecidableEq, Repr

structure State where
  epolls : Fin epollInstances → Instance := fun _ => {}
  fds : FdTable Ops := fun _ => none
  waits : Nat → Option Wait := fun _ => none

def boot : State := {}

def State.setTable (state : State) (slot : Fin epollInstances) (table : Table) : State :=
  { state with epolls := Function.update state.epolls slot { state.epolls slot with table } }

/-- `epoll_table_of`, a place among the instances. -/
def epollTableOf (state : State) (epfd : Int) : Option (Fin epollInstances) :=
  (List.finRange epollInstances).find? fun slot => (state.epolls slot).epfd == epfd && 0 ≤ epfd

def freeSlot (state : State) : Option (Fin epollInstances) :=
  (List.finRange epollInstances).find? fun slot => (state.epolls slot).epfd < 0

def epollClose (state : State) (fd : Int) : State :=
  { state with
    epolls := fun slot => if (state.epolls slot).epfd = fd then {} else state.epolls slot
    fds := runtimeFdClose state.fds fd }

def sysEpollCreate1 (state : State) (answer : FdAnswer) : State × Except FdErrno Int :=
  match freeSlot state with
  | none => (state, .error .EMFILE)
  | some slot =>
      match runtimeFdAllocOps state.fds .epoll answer with
      | (fds, .error errno) => ({ state with fds }, .error errno)
      | (fds, .ok fd) =>
          ({ state with fds, epolls := Function.update state.epolls slot { epfd := fd } }, .ok fd)

inductive CtlOp where
  | add | mod | del | other
  deriving DecidableEq, Repr

structure EpollEvent where
  events : BitVec 32
  data : BitVec 64
  deriving DecidableEq, Repr

/-- The arguments of `epoll_ctl`, and what `fd_is_socket` and `socket_index_of_fd` say. -/
structure Ctl where
  epfd : Int
  op : CtlOp
  fd : Int
  event : Option EpollEvent
  sock : Option Int
  deriving DecidableEq, Repr

def sysEpollCtl (state : State) (call : Ctl) : State × Except FdErrno Unit :=
  match epollTableOf state call.epfd with
  | none => (state, .error .EBADF)
  | some slot =>
      let table := (state.epolls slot).table
      match call.op, call.event with
      | .add, none | .mod, none => (state, .error .EFAULT)
      | .add, some event | .mod, some event =>
          if state.fds call.fd = none then (state, .error .EBADF)
          else
            match tableSet table call.fd event.events event.data call.sock with
            | (table, .noSpace) => (state.setTable slot table, .error .ENOSPC)
            | (table, .ok) => (state.setTable slot table, .ok ())
      | .del, _ => (state.setTable slot (tableRemove table call.fd), .ok ())
      | .other, _ => (state, .ok ())

/-- The arguments of `epoll_pwait`, and what is ready at its first scan. -/
structure Pwait where
  epfd : Int
  events : Bool
  maxevents : Int
  timeout : Int
  readiness : Entry → BitVec 32

def epollScan (state : State) (slot : Fin epollInstances) (maxevents : Nat)
    (readiness : Entry → BitVec 32) : State × List Report :=
  let (table, reports) := tableScan readiness maxevents (state.epolls slot).table
  (state.setTable slot table, reports)

/-- The table that a `pwait` scans, or its error. -/
def pwaitSlot (state : State) (call : Pwait) : Except FdErrno (Fin epollInstances) :=
  if call.events = false ∨ call.maxevents ≤ 0 then .error .EINVAL
  else
    match epollTableOf state call.epfd with
    | none => .error .EBADF
    | some slot => .ok slot

/-- `epoll_pwait` of a cothread, to its return or to where it parks (`none`). -/
def sysEpollPwait (state : State) (cothread : Nat) (call : Pwait) :
    State × Option (Except FdErrno (List Report)) :=
  match pwaitSlot state call with
  | .error errno => (state, some (.error errno))
  | .ok slot =>
      let (state, reports) := epollScan state slot call.maxevents.toNat call.readiness
      if reports = [] ∧ call.timeout ≠ 0 then
        ({ state with
          waits := Function.update state.waits cothread
            (some { slot, maxevents := call.maxevents.toNat }) }, none)
      else (state, some (.ok reports))

/-- The rest of a parked `epoll_pwait`. -/
def pwaitResume (state : State) (cothread : Nat) (wait : Wait) (readiness : Entry → BitVec 32) :
    State × List Report :=
  let (state, reports) := epollScan state wait.slot wait.maxevents readiness
  ({ state with waits := Function.update state.waits cothread none }, reports)

/-! ## Steps -/

inductive Action where
  | create1 (answer : FdAnswer)
  | ctl (call : Ctl)
  | pwait (call : Pwait)
  | resume (readiness : Entry → BitVec 32)
  | close (fd : Int)
  /-- Some other descriptor is opened. -/
  | open (fd : Int)

/-- `close` of an open descriptor. -/
def sysClose (state : State) (fd : Int) : Ops → State
  | .epoll => epollClose state fd
  | .other => { state with fds := runtimeFdClose state.fds fd }

/-- One step of a cothread. -/
def step (state : State) (cothread : Nat) (action : Action) : Option State :=
  match state.waits cothread, action with
  | none, .create1 answer =>
      if answer.Fits state.fds then some (sysEpollCreate1 state answer).1 else none
  | none, .ctl call => some (sysEpollCtl state call).1
  | none, .pwait call => some (sysEpollPwait state cothread call).1
  | none, .close fd => (state.fds fd).map (sysClose state fd)
  | none, .open fd =>
      if 0 ≤ fd ∧ state.fds fd = none then
        some { state with fds := Function.update state.fds fd (some .other) }
      else none
  | some wait, .resume readiness => some (pwaitResume state cothread wait readiness).1
  | _, _ => none

def run : State → List (Nat × Action) → Option State
  | state, [] => some state
  | state, (cothread, action) :: rest =>
      (step state cothread action).bind fun next => run next rest

/-! ## Events -/

inductive Event where
  | opened (slot : Fin epollInstances)
  | closed (slot : Fin epollInstances)
  | set (slot : Fin epollInstances) (index : Nat) (entry : Entry)
  | removed (slot : Fin epollInstances) (index : Nat)
  /-- A `pwait` of the cothread took the pointer to the table. -/
  | called (cothread : Nat) (slot : Fin epollInstances)
  | reported (cothread : Nat) (slot : Fin epollInstances) (index : Nat) (report : Report)
  deriving DecidableEq

/-- What a scan looks for. -/
def Ready (readiness : Entry → BitVec 32) (entry : Entry) : Bool :=
  entry.active && entry.armed && conditions readiness entry != 0

def reportOf (readiness : Entry → BitVec 32) (entry : Entry) : Report :=
  { events := conditions readiness entry, data := entry.data }

/-- The first `left` ready entries, with their places from `start` on. -/
def readyFrom (readiness : Entry → BitVec 32) (left : Nat) (table : Table) (start : Nat) :
    List (Entry × Nat) :=
  ((table.zipIdx start).filter fun item => Ready readiness item.1).take left

/-- The reports of a scan, newest first. -/
def reportEvents (readiness : Entry → BitVec 32) (cothread : Nat) (slot : Fin epollInstances)
    (hits : List (Entry × Nat)) : List Event :=
  (hits.map fun hit => .reported cothread slot hit.2 (reportOf readiness hit.1)).reverse

def scanEvents (state : State) (cothread : Nat) (slot : Fin epollInstances) (maxevents : Nat)
    (readiness : Entry → BitVec 32) : List Event :=
  reportEvents readiness cothread slot
    (readyFrom readiness maxevents (state.epolls slot).table 0)

def createEvents (state : State) (answer : FdAnswer) : List Event :=
  match freeSlot state, answer with
  | some slot, .listed _ => [.opened slot]
  | _, _ => []

def ctlEvents (state : State) (call : Ctl) : List Event :=
  match epollTableOf state call.epfd with
  | none => []
  | some slot =>
      match call.op, call.event with
      | .add, some event | .mod, some event =>
          if state.fds call.fd = none then []
          else
            ((placeFor (state.epolls slot).table call.fd).map fun index =>
              .set slot index (newEntry call.fd event.events event.data call.sock)).toList
      | .del, _ =>
          ((findEntry (state.epolls slot).table call.fd).map fun index =>
            .removed slot index).toList
      | _, _ => []

def pwaitEvents (state : State) (cothread : Nat) (call : Pwait) : List Event :=
  match pwaitSlot state call with
  | .error _ => []
  | .ok slot =>
      scanEvents state cothread slot call.maxevents.toNat call.readiness ++ [.called cothread slot]

def closeEvents (state : State) (fd : Int) : List Event :=
  if state.fds fd = some .epoll then
    ((List.finRange epollInstances).filter fun slot => (state.epolls slot).epfd = fd).map .closed
  else []

def events (state : State) (cothread : Nat) (action : Action) : List Event :=
  match state.waits cothread, action with
  | none, .create1 answer => createEvents state answer
  | none, .ctl call => ctlEvents state call
  | none, .pwait call => pwaitEvents state cothread call
  | none, .close fd => closeEvents state fd
  | some wait, .resume readiness => scanEvents state cothread wait.slot wait.maxevents readiness
  | _, _ => []

/-- The events of a run, newest first. -/
def history (state : State) (past : List Event) : List (Nat × Action) → List Event
  | [] => past
  | (cothread, action) :: rest =>
      match step state cothread action with
      | none => past
      | some next => history next (events state cothread action ++ past) rest

/-! ## What the past says -/

/-- The event replaces what a place of a table holds. -/
def Event.touches (slot : Fin epollInstances) (index : Nat) : Event → Bool
  | .opened other | .closed other => slot == other
  | .set other place _ | .removed other place => slot == other && index == place
  | .called .. | .reported .. => false

def Event.reports (slot : Fin epollInstances) (index : Nat) : Event → Bool
  | .reported _ other place _ => slot == other && index == place
  | _ => false

/-- The event ends what a `pwait` of the cothread may say of the slot. -/
def Event.recalls (cothread : Nat) (slot : Fin epollInstances) : Event → Bool
  | .opened other | .closed other => slot == other
  | .called other _ => cothread == other
  | _ => false

def lastTouch (past : List Event) (slot : Fin epollInstances) (index : Nat) : Option Event :=
  past.find? (·.touches slot index)

def lastCall (past : List Event) (cothread : Nat) (slot : Fin epollInstances) : Option Event :=
  past.find? (·.recalls cothread slot)

/-- How often a place has been reported since it was last replaced. -/
def reportsSince (past : List Event) (slot : Fin epollInstances) (index : Nat) : Nat :=
  (past.takeWhile fun event => !event.touches slot index).countP (·.reports slot index)

/-- A report is of a registration made since the slot was opened and not removed, says nothing
it was not asked for but error and hangup, and is the only one of a one-shot registration. -/
structure Registered (older : List Event) (slot : Fin epollInstances) (index : Nat)
    (report : Report) : Prop where
  entry : ∃ entry, lastTouch older slot index = some (.set slot index entry) ∧
    report.data = entry.data ∧ report.events ≠ 0 ∧
    report.events &&& (entry.events ||| epollErr ||| epollHup) = report.events ∧
    (entry.events &&& epollOneshot ≠ 0 → reportsSince older slot index = 0)

/-- A report goes to a `pwait` that was called on the slot since it was last opened, while it
has not been closed. -/
def Own (older : List Event) (cothread : Nat) (slot : Fin epollInstances) : Prop :=
  lastCall older cothread slot = some (.called cothread slot)

end Chrysopolis.Beam.Epoll
