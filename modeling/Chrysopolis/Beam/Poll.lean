import Chrysopolis.Beam.Deadline
import Chrysopolis.Beam.Epoll
import Chrysopolis.Beam.WakePipe
import Chrysopolis.Tcp.Readiness

/-! `runtime_sys_poll.c`: `ppoll` and `pselect6`, and the readiness that they and `epoll_pwait`
scan. A call scans what is ready when it comes, and where it parks what is ready when it is
woken. -/

set_option autoImplicit false

namespace Chrysopolis.Beam.Poll

open Chrysopolis.Tcp

def epollOut : BitVec 32 := 0x004

/-- Everything a scan looks at: the serial queue, the descriptors that are sockets, with their
handles, the socket layer and its transmit pool, and the pipes. -/
structure Now where
  console : Bool
  sock : Int → Option Int
  net : Net
  txPoolFree : Bool
  pipes : WakePipe.Pipes

/-- `socket_revents` -/
def socketRevents (now : Now) (handle : Int) : BitVec 32 :=
  (if now.net.tcpSocketReadable handle ≠ 0 then Epoll.epollIn else 0) |||
    (if now.net.tcpSocketWritable now.txPoolFree handle then epollOut else 0) |||
    (if now.net.tcpSocketHup handle then Epoll.epollHup else 0) |||
    (if (now.net.tcpSocketErr handle).isSome then Epoll.epollErr else 0)

/-! ## epoll -/

/-- `epoll_readiness` -/
def epollReadiness (now : Now) (entry : Epoll.Entry) : BitVec 32 :=
  if entry.isSock then socketRevents now entry.sockHandle
  else if entry.fd = 0 then if now.console then Epoll.epollIn else 0
  else if WakePipe.pipeReady now.pipes entry.fd then Epoll.epollIn else 0

/-! ## poll -/

/-- `struct pollfd` -/
structure Pollfd where
  fd : Int
  events : BitVec 16
  revents : BitVec 16 := 0
  deriving DecidableEq, Repr

def pollIn : BitVec 16 := 0x001
def pollOut : BitVec 16 := 0x004

/-- `runtime_poll_wanted_mask` -/
def runtimePollWantedMask (requested : BitVec 32) : BitVec 32 :=
  requested &&& (Epoll.epollIn ||| epollOut) ||| Epoll.epollHup ||| Epoll.epollErr

/-- What one entry of a `poll_scan` reports. -/
def pollRevents (now : Now) (fd : Int) (events : BitVec 16) : BitVec 16 :=
  if fd < 0 then 0
  else if fd = 0 then if events &&& pollIn ≠ 0 ∧ now.console then pollIn else 0
  else
    match now.sock fd with
    | some handle =>
        (socketRevents now handle &&& runtimePollWantedMask (events.signExtend 32)).setWidth 16
    | none =>
        if events &&& pollIn ≠ 0 ∧ WakePipe.pipeReady now.pipes fd then pollIn else 0

/-- `poll_scan`, with the entries that are ready counted. -/
def pollScan (now : Now) : List Pollfd → List Pollfd × Nat
  | [] => ([], 0)
  | entry :: rest =>
      let revents := pollRevents now entry.fd entry.events
      let (scanned, ready) := pollScan now rest
      ({ entry with revents } :: scanned, if revents ≠ 0 then ready + 1 else ready)

/-- `runtime_timespec_is_zero` -/
def runtimeTimespecIsZero (ts : Timespec) : Bool := ts.tvSec == 0 && ts.tvNsec == 0

/-- `runtime_fd_limit` -/
def runtimeFdLimit : Nat := 1024

/-- `runtime_sys_ppoll` of `nfds` entries; `woken` is what is ready once it has parked. -/
def runtimeSysPpoll (now woken : Now) (fds : Option (List Pollfd)) (nfds : Nat)
    (tmo : Option Timespec) : Except FdErrno (List Pollfd × Nat) :=
  if fds = none ∧ nfds > 0 then .error .EFAULT
  else if nfds > runtimeFdLimit then .error .EINVAL
  else if tmo.any (fun ts => !runtimeTimespecValid ts) then .error .EINVAL
  else
    let first := pollScan now ((fds.getD []).take nfds)
    if first.2 = 0 ∧ tmo.any runtimeTimespecIsZero = false then .ok (pollScan woken first.1)
    else .ok first

/-! ## select -/

/-- `runtime_select_ready`; nothing is ever exceptional. -/
structure SelectReady where
  read : Bool := false
  write : Bool := false
  except : Bool := false
  deriving DecidableEq, Repr

/-- `runtime_select_from_revents` -/
def runtimeSelectFromRevents (revents : BitVec 32) : SelectReady :=
  let failed := revents &&& (Epoll.epollErr ||| Epoll.epollHup) != 0
  { read := revents &&& Epoll.epollIn != 0 || failed
    write := revents &&& epollOut != 0 || failed }

/-- `FD_SETSIZE` -/
def fdSetsize : Int := 1024

/-- `fd_set` -/
abbrev FdSet := Nat → Bool

/-- `select_request`: a copy of the sets that are watched. -/
structure SelectRequest where
  read : FdSet := fun _ => false
  write : FdSet := fun _ => false
  watchRead : Bool := false
  watchWrite : Bool := false

/-- `select_request_of` -/
def selectRequestOf (nfds : Int) (readfds writefds : Option FdSet) : SelectRequest :=
  let watchRead := 0 < nfds && readfds.isSome
  let watchWrite := 0 < nfds && writefds.isSome
  { watchRead, watchWrite
    read := if watchRead then readfds.getD fun _ => false else fun _ => false
    write := if watchWrite then writefds.getD fun _ => false else fun _ => false }

/-- The sets and the count of a `select_scan` as far as it has come. -/
structure SelectSets where
  readfds : Option FdSet
  writefds : Option FdSet
  ready : Nat := 0

def fdSet (fd : Nat) (set : FdSet) : FdSet := Function.update set fd true

/-- The readiness of one descriptor, or none to say of it. -/
def selectState (now : Now) (fd : Nat) : Option SelectReady :=
  if fd = 0 then some { read := now.console }
  else
    match now.sock fd with
    | some handle => some (runtimeSelectFromRevents (socketRevents now handle))
    | none => if WakePipe.pipeReady now.pipes fd then some { read := true } else none

/-- One turn of the loop of `select_scan`. -/
def selectStep (now : Now) (req : SelectRequest) (sets : SelectSets) (fd : Nat) : SelectSets :=
  let wantRead := req.watchRead && req.read fd
  let wantWrite := req.watchWrite && req.write fd
  if !wantRead && !wantWrite then sets
  else
    match selectState now fd with
    | none => sets
    | some state =>
        let sets :=
          if wantRead && state.read then
            { sets with readfds := sets.readfds.map (fdSet fd), ready := sets.ready + 1 }
          else sets
        if wantWrite && state.write then
          { sets with writefds := sets.writefds.map (fdSet fd), ready := sets.ready + 1 }
        else sets

/-- `select_scan`, which empties the caller's sets first. -/
def selectScan (now : Now) (nfds : Int) (req : SelectRequest) (readfds writefds : Option FdSet) :
    SelectSets :=
  (List.range nfds.toNat).foldl (selectStep now req)
    { readfds := readfds.map fun _ _ => false, writefds := writefds.map fun _ _ => false }

/-- `runtime_sys_pselect6`, and the exception set it answers. -/
def runtimeSysPselect6 (now woken : Now) (nfds : Int) (readfds writefds exceptfds : Option FdSet)
    (timeout : Option Timespec) : Except FdErrno (SelectSets × Option FdSet) :=
  if nfds < 0 ∨ fdSetsize < nfds then .error .EINVAL
  else if timeout.any (fun ts => !runtimeTimespecValid ts) then .error .EINVAL
  else
    let req := selectRequestOf nfds readfds writefds
    let first := selectScan now nfds req readfds writefds
    let last :=
      if first.ready = 0 ∧ timeout.any runtimeTimespecIsZero = false then
        selectScan woken nfds req first.readfds first.writefds
      else first
    .ok (last, exceptfds.map fun _ _ => false)

end Chrysopolis.Beam.Poll
