import Mathlib.Logic.Function.Basic

/-! Synthetic descriptors over the libc descriptor table, which answers with the numbers. -/

set_option autoImplicit false

namespace Chrysopolis.Beam

inductive FdErrno where
  | EAGAIN | EBADF | EFAULT | EINVAL | EMFILE | ENFILE | ENOSPC | EPIPE
  deriving DecidableEq, Repr

/-- The open descriptors and what their entries call. -/
abbrev FdTable (Ops : Type) := Int → Option Ops

/-- What `posix_fd_allocate` answers, and whether the number it gives has an entry. -/
inductive FdAnswer where
  | full
  | unlisted (fd : Int)
  | listed (fd : Int)
  deriving DecidableEq, Repr

section

variable {Ops : Type}

/-- The table answers with a number that is not open. -/
def FdAnswer.Fits (fds : FdTable Ops) : FdAnswer → Prop
  | .full => True
  | .unlisted fd | .listed fd => 0 ≤ fd ∧ fds fd = none

instance (fds : FdTable Ops) (answer : FdAnswer) : Decidable (answer.Fits fds) := by
  cases answer <;> unfold FdAnswer.Fits <;> infer_instance

/-- `posix_fd_deallocate`, which is all that `runtime_fd_close` calls. -/
def runtimeFdClose (fds : FdTable Ops) (fd : Int) : FdTable Ops := Function.update fds fd none

def runtimeFdAllocOps (fds : FdTable Ops) (ops : Ops) :
    FdAnswer → FdTable Ops × Except FdErrno Int
  | .full => (fds, .error .EMFILE)
  | .unlisted fd => (runtimeFdClose fds fd, .error .EMFILE)
  | .listed fd => (Function.update fds fd (some ops), .ok fd)

theorem runtimeFdClose_of_none {fds : FdTable Ops} {fd : Int} (unopened : fds fd = none) :
    runtimeFdClose fds fd = fds := by
  rw [runtimeFdClose, ← unopened, Function.update_eq_self]

/-- A descriptor opened and closed again leaves the table as it was. -/
theorem runtimeFdClose_update {fds : FdTable Ops} {fd : Int} (unopened : fds fd = none)
    (ops : Ops) : runtimeFdClose (Function.update fds fd (some ops)) fd = fds := by
  rw [runtimeFdClose, Function.update_idem, ← unopened, Function.update_eq_self]

theorem runtimeFdClose_comm (fds : FdTable Ops) (first second : Int) :
    runtimeFdClose (runtimeFdClose fds first) second =
      runtimeFdClose (runtimeFdClose fds second) first := by
  rcases eq_or_ne first second with rfl | apart
  · rfl
  · exact Function.update_comm apart ..

/-- A failed allocation leaves the table as it was. -/
theorem runtimeFdAllocOps_error {fds next : FdTable Ops} {ops : Ops} {answer : FdAnswer}
    {errno : FdErrno} (fits : answer.Fits fds)
    (failed : runtimeFdAllocOps fds ops answer = (next, .error errno)) :
    next = fds ∧ errno = .EMFILE := by
  cases answer with
  | full =>
      cases failed
      exact ⟨rfl, rfl⟩
  | unlisted fd =>
      cases failed
      exact ⟨runtimeFdClose_of_none fits.2, rfl⟩
  | listed fd => cases failed

theorem runtimeFdAllocOps_ok {fds next : FdTable Ops} {ops : Ops} {answer : FdAnswer} {fd : Int}
    (fits : answer.Fits fds) (opened : runtimeFdAllocOps fds ops answer = (next, .ok fd)) :
    0 ≤ fd ∧ fds fd = none ∧ next = Function.update fds fd (some ops) := by
  cases answer with
  | full | unlisted => cases opened
  | listed answered =>
      cases opened
      exact ⟨fits.1, fits.2, rfl⟩

end

end Chrysopolis.Beam
