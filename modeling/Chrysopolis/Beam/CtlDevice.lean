import Chrysopolis.Abi.CtlRecords

/-! `/dev/chrysoctl`: the session of its one owner, and the device calls that write a
command, carry it to Root and read the reply. -/

set_option autoImplicit false

namespace Chrysopolis.Beam

open Chrysopolis.Abi
open Chrysopolis.Support

def runtimeCtlWords : Nat := 4

inductive CtlPhase where
  | closed | idle | calling | replyReady
  deriving DecidableEq, Repr

/-- Zeroed memory is closed. -/
structure CtlOwner where
  phase : CtlPhase := .closed
  fd : Int := 0
  reply : CtlReply := {}
  deriving DecidableEq, Repr

inductive CtlStatus where
  | ok | busy | size
  /-- Fails the generated command check. -/
  | malformed
  | noReply
  /-- Root's answer is not a result frame. -/
  | unavailable
  | notOwner
  /-- A reply with no call in flight. -/
  | outOfOrder
  deriving DecidableEq, Repr

/-- The call to make on Root. -/
structure CtlCall where
  opcode : UInt16
  args : Vector UInt64 4
  deriving DecidableEq, Repr

inductive CtlEventKind where
  | eventOpen | eventWrite | eventReply | eventRead | eventClose
  deriving DecidableEq, Repr

/-- `ok` admits the event; anything else is the rejection. -/
def gate : CtlPhase → CtlEventKind → CtlStatus
  | .closed, .eventOpen => .ok
  | .closed, _ => .notOwner
  | .idle, .eventOpen => .busy
  | .idle, .eventWrite => .ok
  | .idle, .eventReply => .outOfOrder
  | .idle, .eventRead => .noReply
  | .idle, .eventClose => .ok
  | .calling, .eventReply | .calling, .eventClose => .ok
  | .calling, _ => .busy
  | .replyReady, .eventReply => .outOfOrder
  | .replyReady, .eventRead | .replyReady, .eventClose => .ok
  | .replyReady, _ => .busy

/-- Outside closed only the owner's descriptor may act, and open names a new one. -/
def admitEvent (owner : CtlOwner) (fd : Int) (event : CtlEventKind) : CtlStatus :=
  if owner.phase ≠ .closed ∧ event ≠ .eventOpen ∧ owner.fd ≠ fd then .notOwner
  else gate owner.phase event

def runtimeCtlOpen (owner : CtlOwner) (fd : Int) : CtlOwner × CtlStatus :=
  let admitted := admitEvent owner fd .eventOpen
  if admitted ≠ .ok then (owner, admitted) else ({ phase := .idle, fd }, .ok)

/-- A null buffer is `none`. -/
def runtimeCtlWrite (owner : CtlOwner) (fd : Int) (buf : Option Memory) (count : Nat) :
    CtlOwner × Except CtlStatus CtlCall :=
  let admitted := admitEvent owner fd .eventWrite
  if admitted ≠ .ok then (owner, .error admitted)
  else
    match buf with
    | none => (owner, .error .size)
    | some bytes =>
        if count ≠ ctlRecordSize then (owner, .error .size)
        else if checkCtlCommand bytes count ≠ .ok then (owner, .error .malformed)
        else
          ({ owner with phase := .calling },
            .ok
              { opcode := .ofNat (ctlLayout.read bytes .kind)
                args := .ofFn fun index => .ofNat (ctlLayout.read bytes (.word index)) })

/-- Label 0 is also the answer to an undeclared call. -/
def replyFrameValid (label count : UInt64) : Bool :=
  count.toNat == runtimeCtlWords && label != 0 && label ≤ 0xFFFF &&
    ctlResultIsMember label.toUInt16

def runtimeCtlReply (owner : CtlOwner) (fd : Int) (label count : UInt64)
    (values : Vector UInt64 4) : CtlOwner × CtlStatus :=
  let admitted := admitEvent owner fd .eventReply
  if admitted ≠ .ok then (owner, admitted)
  else if !replyFrameValid label count then ({ owner with phase := .idle }, .unavailable)
  else
    ({ owner with
        reply :=
          { magic := .ofNat magicReply
            version := .ofNat abiVersion
            result := label.toUInt16
            values }
        phase := .replyReady }, .ok)

/-- The buffer after the reply was copied over it. -/
def runtimeCtlRead (owner : CtlOwner) (fd : Int) (buf : Option Memory) (count : Nat) :
    CtlOwner × Except CtlStatus Memory :=
  let admitted := admitEvent owner fd .eventRead
  if admitted ≠ .ok then (owner, .error admitted)
  else
    match buf with
    | none => (owner, .error .size)
    | some bytes =>
        if count ≠ ctlRecordSize then (owner, .error .size)
        else ({ owner with reply := {}, phase := .idle }, .ok (owner.reply.copyTo bytes))

def runtimeCtlClose (owner : CtlOwner) (fd : Int) : CtlOwner × CtlStatus :=
  let admitted := admitEvent owner fd .eventClose
  if admitted ≠ .ok then (owner, admitted) else ({}, .ok)

/-! ### Device calls -/

inductive CtlErrno where
  | EACCES | EBADF | EBADMSG | EBUSY | EIO | EMSGSIZE | ENODATA | ENODEV
  /-- Of the descriptor table. -/
  | table (errno : Nat)
  deriving DecidableEq, Repr

/-- `ctl_errno` of a status other than ok. -/
def ctlErrno : CtlStatus → CtlErrno
  | .busy => .EBUSY
  | .size => .EMSGSIZE
  | .malformed => .EBADMSG
  | .noReply => .ENODATA
  | .notOwner => .EBADF
  | .ok | .unavailable | .outOfOrder => CtlErrno.EIO

/-- Root's answer to a call: its label, its word count and the message registers. -/
structure PpcAnswer where
  label : UInt64
  words : UInt64
  registers : Vector UInt64 4
  deriving DecidableEq, Repr

/-- Registers are read only from a full frame. -/
def PpcAnswer.values (answer : PpcAnswer) : Vector UInt64 4 :=
  if answer.words.toNat = runtimeCtlWords then answer.registers else .replicate 4 0

/-- `alloc` is the descriptor table's answer; a refused descriptor is closed again. -/
def ctlOpen (owner : CtlOwner) (readWrite callable : Bool) (alloc : Except Nat Int) :
    CtlOwner × Except CtlErrno Int :=
  if !readWrite then (owner, .error .EACCES)
  else if !callable then (owner, .error .ENODEV)
  else
    match alloc with
    | .error errno => (owner, .error (.table errno))
    | .ok fd =>
        let (next, opened) := runtimeCtlOpen owner fd
        if opened ≠ .ok then (next, .error (ctlErrno opened)) else (next, .ok fd)

/-- One synchronous call: nothing else runs between the write and Root's answer. -/
def ctlWrite (owner : CtlOwner) (fd : Int) (data : Option Memory) (count : Nat)
    (root : CtlCall → PpcAnswer) : CtlOwner × Except CtlErrno Nat :=
  match runtimeCtlWrite owner fd data count with
  | (next, .error rejected) => (next, .error (ctlErrno rejected))
  | (calling, .ok call) =>
      let answer := root call
      let (next, replied) := runtimeCtlReply calling fd answer.label answer.words answer.values
      if replied = .ok then (next, .ok count) else (next, .error (ctlErrno replied))

def ctlRead (owner : CtlOwner) (fd : Int) (data : Option Memory) (count : Nat) :
    CtlOwner × Except CtlErrno (Nat × Memory) :=
  match runtimeCtlRead owner fd data count with
  | (next, .error rejected) => (next, .error (ctlErrno rejected))
  | (next, .ok bytes) => (next, .ok (count, bytes))

/-- The descriptor is released even when the owner check fails. -/
def ctlClose (owner : CtlOwner) (fd : Int) : CtlOwner := (runtimeCtlClose owner fd).1

def ctlDup3 (owner : CtlOwner) : CtlOwner × CtlErrno := (owner, .EBUSY)

end Chrysopolis.Beam
