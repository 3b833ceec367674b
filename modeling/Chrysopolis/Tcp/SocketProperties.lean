import Chrysopolis.Tcp.Run

/-! What the slot and lwIP operations leave in each field. -/

set_option autoImplicit false

namespace Chrysopolis.Tcp.Net

open Chrysopolis.Support

variable (net : Net) (id other : SocketId) (f : Socket → Socket) (refs : Int)
  (target : SocketState) (address place : Nat) (g : Pcb → Pcb) (pcb : Pcb)

section Fields

@[simp] theorem setSocket_sockets :
    (net.setSocket id f).sockets other = if other = id then f (net.sockets id) else
      net.sockets other := by
  simp only [setSocket, Function.update_apply]

@[simp] theorem setSocket_refcount : (net.setSocket id f).refcount = net.refcount := rfl

@[simp] theorem setSocket_pcbs : (net.setSocket id f).pcbs = net.pcbs := rfl

@[simp] theorem setRefs_sockets : (net.setRefs id refs).sockets = net.sockets := rfl

@[simp] theorem setRefs_refcount :
    (net.setRefs id refs).refcount other = if other = id then refs else net.refcount other := by
  simp only [setRefs, Function.update_apply]

@[simp] theorem setRefs_pcbs : (net.setRefs id refs).pcbs = net.pcbs := rfl

@[simp] theorem setPcb_sockets (tpcb : Option Nat) : (net.setPcb tpcb g).sockets = net.sockets := by
  cases tpcb <;> rfl

@[simp] theorem setPcb_refcount (tpcb : Option Nat) :
    (net.setPcb tpcb g).refcount = net.refcount := by
  cases tpcb <;> rfl

@[simp] theorem setPcb_pcbs :
    (net.setPcb (some address) g).pcbs place =
      if place = address then (net.pcbs address).map g else net.pcbs place := by
  simp only [setPcb, Function.update_apply]

@[simp] theorem setPcb_none : net.setPcb none g = net := rfl

@[simp] theorem freePcb_sockets : (net.freePcb address).sockets = net.sockets := rfl

@[simp] theorem freePcb_refcount : (net.freePcb address).refcount = net.refcount := rfl

@[simp] theorem freePcb_pcbs :
    (net.freePcb address).pcbs place = if place = address then none else net.pcbs place := by
  simp only [freePcb, Function.update_apply]

@[simp] theorem newPcb_sockets : (net.newPcb address pcb).sockets = net.sockets := rfl

@[simp] theorem newPcb_refcount : (net.newPcb address pcb).refcount = net.refcount := rfl

@[simp] theorem newPcb_pcbs :
    (net.newPcb address pcb).pcbs place =
      if place = address then some pcb else net.pcbs place := by
  simp only [newPcb, Function.update_apply]

@[simp] theorem socketSetState_sockets :
    (net.socketSetState id target).sockets other =
      if other = id then { net.sockets id with state := target } else net.sockets other := by
  unfold socketSetState
  dsimp only
  split <;> simp

@[simp] theorem socketSetState_refcount :
    (net.socketSetState id target).refcount = net.refcount := by
  unfold socketSetState
  dsimp only
  split <;> rfl

@[simp] theorem socketSetState_pcbs : (net.socketSetState id target).pcbs = net.pcbs := by
  unfold socketSetState
  dsimp only
  split <;> rfl

@[simp] theorem socketClear_sockets :
    (net.socketClear id).sockets other =
      if other = id then { net.sockets id with
        sockTpcb := none
        rx := { (net.sockets id).rx with head := 0, len := 0 }
        lastError := none
        acceptQueue := (net.sockets id).acceptQueue.reset } else net.sockets other := by
  simp only [socketClear, setRefs_sockets, setSocket_sockets]

@[simp] theorem socketClear_refcount :
    (net.socketClear id).refcount other = if other = id then 0 else net.refcount other := by
  simp only [socketClear, setRefs_refcount, setSocket_refcount]

@[simp] theorem socketClear_pcbs : (net.socketClear id).pcbs = net.pcbs := rfl

@[simp] theorem socketRelease_sockets :
    (net.socketRelease id).sockets other =
      if other = id then { net.sockets id with
        state := .unallocated
        sockTpcb := none
        rx := { (net.sockets id).rx with head := 0, len := 0 }
        lastError := none
        acceptQueue := (net.sockets id).acceptQueue.reset } else net.sockets other := by
  simp only [socketRelease, socketClear_sockets, socketSetState_sockets, if_true]
  split <;> rfl

@[simp] theorem socketRelease_refcount :
    (net.socketRelease id).refcount other = if other = id then 0 else net.refcount other := by
  simp only [socketRelease, socketClear_refcount, socketSetState_refcount]

@[simp] theorem socketRelease_pcbs : (net.socketRelease id).pcbs = net.pcbs := by
  simp only [socketRelease, socketClear_pcbs, socketSetState_pcbs]

@[simp] theorem setSocket_unexpected : (net.setSocket id f).unexpected = net.unexpected := rfl

@[simp] theorem setRefs_unexpected : (net.setRefs id refs).unexpected = net.unexpected := rfl

@[simp] theorem setPcb_unexpected (tpcb : Option Nat) :
    (net.setPcb tpcb g).unexpected = net.unexpected := by
  cases tpcb <;> rfl

@[simp] theorem freePcb_unexpected : (net.freePcb address).unexpected = net.unexpected := rfl

@[simp] theorem newPcb_unexpected : (net.newPcb address pcb).unexpected = net.unexpected := rfl

@[simp] theorem socketClear_unexpected : (net.socketClear id).unexpected = net.unexpected := rfl

theorem socketSetState_unexpected
    (allowed : tcpStateTransitionAllowed (net.sockets id).state target = true) :
    (net.socketSetState id target).unexpected = net.unexpected := by
  simp only [socketSetState, allowed, if_true, setSocket_unexpected]

theorem socketRelease_unexpected
    (allowed : tcpStateTransitionAllowed (net.sockets id).state .unallocated = true) :
    (net.socketRelease id).unexpected = net.unexpected := by
  simp only [socketRelease, socketClear_unexpected, net.socketSetState_unexpected id _ allowed]

end Fields

/-- Closing a PCB that is detached first touches no slot, and leaves the PCB detached
or freed. -/
theorem socketClosePcb_spec (answer : Closed) :
    (net.socketClosePcb (some address) answer).sockets = net.sockets ∧
      (net.socketClosePcb (some address) answer).refcount = net.refcount ∧
      (∀ place, place ≠ address →
        (net.socketClosePcb (some address) answer).pcbs place = net.pcbs place) ∧
      ((net.socketClosePcb (some address) answer).pcbs address).bind (·.arg) = none ∧
      (net.socketClosePcb (some address) answer).unexpected = net.unexpected := by
  have detached : ((net.socketDetachPcb (some address)).pcbs address).bind (·.arg) = none := by
    simp only [socketDetachPcb, tcpArg, tcpRecv, setPcb_pcbs, if_true]
    cases net.pcbs address <;> rfl
  have sockets : (net.socketDetachPcb (some address)).sockets = net.sockets := by
    simp only [socketDetachPcb, tcpArg, tcpRecv, setPcb_sockets]
  have refcount : (net.socketDetachPcb (some address)).refcount = net.refcount := by
    simp only [socketDetachPcb, tcpArg, tcpRecv, setPcb_refcount]
  have pcbs : ∀ place, place ≠ address →
      (net.socketDetachPcb (some address)).pcbs place = net.pcbs place := by
    intro place away
    simp only [socketDetachPcb, tcpArg, tcpRecv, setPcb_pcbs, if_neg away]
  have unexpected : (net.socketDetachPcb (some address)).unexpected = net.unexpected := by
    simp only [socketDetachPcb, tcpArg, tcpRecv, setPcb_unexpected]
  unfold socketClosePcb tcpClose
  generalize net.socketDetachPcb (some address) = start at *
  have freed : (start.freePcb address).sockets = net.sockets ∧
      (start.freePcb address).refcount = net.refcount ∧
      (∀ place, place ≠ address → (start.freePcb address).pcbs place = net.pcbs place) ∧
      ((start.freePcb address).pcbs address).bind (·.arg) = none ∧
      (start.freePcb address).unexpected = net.unexpected := by
    refine ⟨sockets, refcount, fun place away => ?_, ?_, unexpected⟩
    · simp only [freePcb_pcbs, if_neg away, pcbs place away]
    · simp
  dsimp only
  split_ifs
  · exact freed
  · cases answer with
    | freed => exact freed
    | pending => exact ⟨sockets, refcount, pcbs, detached, unexpected⟩
    | refused err =>
        simp only [tcpAbort, detached, socketErrFunc]
        exact freed

/-- A queued connection that is dropped leaves no reference. -/
theorem dropPending_refcount (answer : Nat → Closed) :
    (net.dropPending id answer).refcount id = 0 := by
  simp [dropPending]

/-- Dropping a queued connection frees its slot and touches no other. -/
theorem dropPending_spec (answer : Nat → Closed) :
    (∀ other, other ≠ id → (net.dropPending id answer).sockets other = net.sockets other) ∧
      (∀ other, other ≠ id → (net.dropPending id answer).refcount other = net.refcount other) ∧
      (∀ place, (net.sockets id).sockTpcb ≠ some place →
        (net.dropPending id answer).pcbs place = net.pcbs place) ∧
      (net.dropPending id answer).backlog id = [] ∧
      ((net.dropPending id answer).sockets id).sockTpcb = none ∧
      ((net.dropPending id answer).sockets id).state = .unallocated := by
  unfold dropPending
  cases owns : (net.sockets id).sockTpcb with
  | none =>
      refine ⟨fun other away => ?_, fun other away => ?_, fun place away => ?_, ?_, ?_, ?_⟩
      · simp [away]
      · simp [away]
      · simp
      · simp [Net.backlog]
      · simp
      · simp
  | some address =>
      obtain ⟨sockets, refcount, pcbs, _⟩ := net.socketClosePcb_spec address (answer address)
      refine ⟨fun other away => ?_, fun other away => ?_, fun place away => ?_, ?_, ?_, ?_⟩
      · simp [away, sockets]
      · simp [away, refcount]
      · rw [socketRelease_pcbs]
        exact pcbs place fun same => away (congrArg some same.symm)
      · simp [Net.backlog]
      · simp
      · simp

end Chrysopolis.Tcp.Net
