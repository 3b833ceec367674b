import Chrysopolis.Beam.WakePipe
import Chrysopolis.Support.Holders
import Mathlib.Data.List.Infix

/-! The pipe table and the descriptors agree in every run of the calls, and what a slot counts is
what its callers were told. -/

set_option autoImplicit false

namespace Chrysopolis.Beam.WakePipe

open Support.Holders

variable {pipes : Pipes} {slot : PipeSlot} {fds : FdTable FdOps} {state next : State}
  {past : List Event} {fd : Int} {place count bytes accepted taken : Nat}

/-! ## Ends -/

inductive Side where
  | read | write
  deriving DecidableEq

def Side.kind : Side → Kind
  | .read => .pipeRead
  | .write => .pipeWrite

theorem Side.kind_injective : Function.Injective Side.kind := by
  intro first second same
  cases first <;> cases second <;> first | rfl | cases same

variable {side other : Side}

/-- The descriptor of an end that is open. -/
def PipeSlot.openEnd (slot : PipeSlot) : Side → Option Int
  | .read => if slot.readOpen then some slot.readFd else none
  | .write => if slot.writeOpen then some slot.writeFd else none

theorem openEnd_read_eq_none_iff : slot.openEnd .read = none ↔ slot.readOpen = false := by
  simp [PipeSlot.openEnd]

theorem openEnd_write_eq_none_iff : slot.openEnd .write = none ↔ slot.writeOpen = false := by
  simp [PipeSlot.openEnd]

/-- The open ends of one side, by the place of their slot. -/
def openEnds (pipes : Pipes) (side : Side) (place : Nat) : Option Int :=
  pipes[place]?.bind fun slot => slot.openEnd side

theorem openEnds_eq_some_iff :
    openEnds pipes side place = some fd ↔
      ∃ slot, pipes[place]? = some slot ∧ slot.openEnd side = some fd :=
  Option.bind_eq_some_iff

theorem openEnds_of_held (held : pipes[place]? = some slot) :
    openEnds pipes side place = slot.openEnd side := by
  rw [openEnds, held, Option.bind_some]

theorem getElem?_set_of_held (held : pipes[place]? = some slot) (after : PipeSlot) (index : Nat) :
    (pipes.set place after)[index]? = if index = place then some after else pipes[index]? := by
  have within := (List.getElem?_eq_some_iff.mp held).1
  rw [List.getElem?_set]
  by_cases here : index = place
  · rw [if_pos here, if_pos here.symm, if_pos (here ▸ within)]
  · rw [if_neg here, if_neg (Ne.symm here)]

theorem openEnds_set (held : pipes[place]? = some slot) (after : PipeSlot) (side : Side) :
    openEnds (pipes.set place after) side =
      Function.update (openEnds pipes side) place (after.openEnd side) := by
  funext index
  rw [openEnds, getElem?_set_of_held held, Function.update_apply]
  by_cases here : index = place
  · rw [if_pos here, if_pos here, Option.bind_some]
  · rw [if_neg here, if_neg here, openEnds]

/-- A slot that keeps its ends leaves those of the table. -/
theorem openEnds_set_of_same (held : pipes[place]? = some slot) {after : PipeSlot}
    (same : after.openEnd side = slot.openEnd side) :
    openEnds (pipes.set place after) side = openEnds pipes side := by
  rw [openEnds_set held, same, ← openEnds_of_held held, Function.update_eq_self]

theorem set_of_held (held : pipes[place]? = some slot) : pipes.set place slot = pipes := by
  refine List.ext_getElem? fun index => ?_
  rw [getElem?_set_of_held held]
  split
  · next here => rw [here, held]
  · rfl

/-! ## One slot -/

/-- A slot against the bytes that were accepted into it and taken from it. -/
structure Cell (slot : PipeSlot) (accepted taken : Nat) : Prop where
  free : slot.state = .free ↔ slot.readOpen = false ∧ slot.writeOpen = false
  readable : slot.state = .readable ↔ slot.pending ≠ 0
  bound : slot.pending ≤ pipeCapacity
  account : slot.state ≠ .free → slot.pending + taken = accepted

theorem Cell.free_iff (cell : Cell slot accepted taken) :
    slot.state = .free ↔ ∀ side, slot.openEnd side = none := by
  rw [cell.free, ← openEnd_read_eq_none_iff, ← openEnd_write_eq_none_iff]
  exact ⟨fun ⟨reader, writer⟩ side => by cases side <;> assumption,
    fun closed => ⟨closed .read, closed .write⟩⟩

theorem Cell.not_free (cell : Cell slot accepted taken) (opened : slot.openEnd side = some fd) :
    slot.state ≠ .free :=
  fun free => nomatch (cell.free_iff.mp free side).symm.trans opened

/-- What a slot becomes with more bytes in it. -/
def PipeSlot.fill (slot : PipeSlot) (bytes : Nat) : PipeSlot :=
  { slot with
    pending := slot.pending + bytes
    state := if slot.pending + bytes ≠ 0 then .readable else slot.state }

/-- What a slot becomes with fewer bytes in it. -/
def PipeSlot.drain (slot : PipeSlot) (bytes : Nat) : PipeSlot :=
  { slot with
    pending := slot.pending - bytes
    state := if slot.pending - bytes = 0 then .empty else slot.state }

def PipeSlot.shut (slot : PipeSlot) : Side → PipeSlot
  | .read => { slot with readOpen := false }
  | .write => { slot with writeOpen := false }

@[simp] theorem openEnd_fill (slot : PipeSlot) (bytes : Nat) (side : Side) :
    (slot.fill bytes).openEnd side = slot.openEnd side := by
  cases side <;> rfl

@[simp] theorem openEnd_drain (slot : PipeSlot) (bytes : Nat) (side : Side) :
    (slot.drain bytes).openEnd side = slot.openEnd side := by
  cases side <;> rfl

theorem openEnd_slotClose (slot : PipeSlot) (side other : Side) :
    (slotClose (slot.shut side)).openEnd other =
      if other = side then none else slot.openEnd other := by
  obtain ⟨state, reader, writer, readFd, writeFd, pending⟩ := slot
  cases reader <;> cases writer <;> cases side <;> cases other <;> rfl

theorem slotWrite_cases (count : Nat) (bound : slot.pending ≤ pipeCapacity) :
    (∃ status, slotWrite slot count = (slot, status, 0) ∧
        (status = .broken ∨ status = .wouldBlock)) ∨
      ∃ bytes, slotWrite slot count = (slot.fill bytes, .ok, bytes) ∧
        slot.pending + bytes ≤ pipeCapacity := by
  unfold slotWrite
  split
  · exact .inl ⟨.broken, rfl, .inl rfl⟩
  have room : (pipeCapacity + 2 ^ 32 - slot.pending) % 2 ^ 32 = pipeCapacity - slot.pending := by
    unfold pipeCapacity at bound ⊢
    omega
  rw [room]
  simp only
  split
  · exact .inl ⟨.wouldBlock, rfl, .inr rfl⟩
  refine .inr ⟨if count < pipeCapacity - slot.pending then count
    else pipeCapacity - slot.pending, ?_, ?_⟩
  · have small : slot.pending + (if count < pipeCapacity - slot.pending then count
        else pipeCapacity - slot.pending) < 2 ^ 32 := by
      unfold pipeCapacity at bound ⊢
      split <;> omega
    rw [Nat.mod_eq_of_lt small]
    rfl
  · split <;> omega

theorem slotRead_cases (slot : PipeSlot) (count : Nat) (idle : slot.state = .empty →
    slot.pending = 0) :
    slotRead slot count = (slot, .wouldBlock, 0) ∨
      ∃ status bytes, slotRead slot count = (slot.drain bytes, status, bytes) ∧
        (status = .ok ∨ status = .eof ∧ bytes = 0) ∧ bytes ≤ slot.pending := by
  unfold slotRead
  split
  · next isEmpty =>
    cases slot.writeOpen with
    | true => exact .inl rfl
    | false =>
        have same : slot.drain 0 = slot := by
          rw [PipeSlot.drain, Nat.sub_zero, idle isEmpty, if_pos rfl, ← isEmpty, ← idle isEmpty]
        refine .inr ⟨.eof, 0, ?_, .inr ⟨rfl, rfl⟩, Nat.zero_le _⟩
        rw [same]
        rfl
  · refine .inr ⟨.ok, if count < slot.pending then count else slot.pending, rfl, .inl rfl, ?_⟩
    split <;> omega

theorem Cell.boot : Cell {} accepted taken :=
  ⟨by decide, by decide, Nat.zero_le _, fun apart => absurd rfl apart⟩

theorem Cell.idle (cell : Cell slot accepted taken) (isEmpty : slot.state = .empty) :
    slot.pending = 0 := by
  by_contra unread
  rw [cell.readable.mpr unread] at isEmpty
  cases isEmpty

theorem Cell.open (readFd writeFd : Int) :
    Cell { state := .empty, readOpen := true, writeOpen := true, readFd, writeFd } 0 0 :=
  ⟨by simp, by simp, Nat.zero_le _, fun _ => rfl⟩

theorem fill_not_free (apart : slot.state ≠ .free) (bytes : Nat) :
    (slot.fill bytes).state ≠ .free := by
  unfold PipeSlot.fill
  simp only
  split
  · exact nofun
  · exact apart

theorem drain_not_free (apart : slot.state ≠ .free) (bytes : Nat) :
    (slot.drain bytes).state ≠ .free := by
  unfold PipeSlot.drain
  simp only
  split
  · exact nofun
  · exact apart

theorem Cell.fill (cell : Cell slot accepted taken) (opened : slot.openEnd side = some fd)
    (fits : slot.pending + bytes ≤ pipeCapacity) :
    Cell (slot.fill bytes) (accepted + bytes) taken := by
  have apart := cell.not_free opened
  refine ⟨iff_of_false (fill_not_free apart bytes) fun closed => apart (cell.free.mpr closed),
    ?_, fits, fun _ => ?_⟩
  · by_cases unread : slot.pending + bytes = 0
    · have before : slot.state ≠ .readable := fun readable => by
        have := cell.readable.mp readable
        omega
      simp [PipeSlot.fill, unread, before]
    · exact iff_of_true (if_pos unread) unread
  · have account := cell.account apart
    change slot.pending + bytes + taken = accepted + bytes
    omega

theorem Cell.drain (cell : Cell slot accepted taken) (opened : slot.openEnd side = some fd)
    (within : bytes ≤ slot.pending) : Cell (slot.drain bytes) accepted (taken + bytes) := by
  have apart := cell.not_free opened
  refine ⟨iff_of_false (drain_not_free apart bytes) fun closed => apart (cell.free.mpr closed),
    ?_, (Nat.sub_le ..).trans cell.bound, fun _ => ?_⟩
  · by_cases unread : slot.pending - bytes = 0
    · simp [PipeSlot.drain, unread]
    · have before : slot.state = .readable := cell.readable.mpr (by omega)
      simp [PipeSlot.drain, unread, before]
  · have account := cell.account apart
    change slot.pending - bytes + (taken + bytes) = accepted
    omega

theorem Cell.close (cell : Cell slot accepted taken) (opened : slot.openEnd side = some fd) :
    Cell (slotClose (slot.shut side)) accepted taken := by
  unfold slotClose
  split
  · exact .boot
  next closed =>
    have apart := cell.not_free opened
    cases side <;> exact ⟨iff_of_false apart closed, cell.readable, cell.bound, cell.account⟩

/-- A close frees a slot exactly when the other end is closed. -/
theorem slotClose_free_iff (apart : slot.state ≠ .free) (side : Side) :
    (slotClose (slot.shut side)).state = .free ↔ ∀ other ≠ side, slot.openEnd other = none := by
  have free : (slotClose (slot.shut side)).state = .free ↔
      (slot.shut side).readOpen = false ∧ (slot.shut side).writeOpen = false := by
    unfold slotClose
    split
    · next closed => exact iff_of_true rfl closed
    · next closed => exact iff_of_false (by cases side <;> exact apart) closed
  rw [free]
  cases side with
  | read =>
      refine ⟨fun closed other different => ?_, fun closed => ⟨rfl, ?_⟩⟩
      · cases other with
        | read => exact absurd rfl different
        | write => exact openEnd_write_eq_none_iff.mpr closed.2
      · exact openEnd_write_eq_none_iff.mp (closed .write nofun)
  | write =>
      refine ⟨fun closed other different => ?_, fun closed => ⟨?_, rfl⟩⟩
      · cases other with
        | read => exact openEnd_read_eq_none_iff.mpr closed.1
        | write => exact absurd rfl different
      · exact openEnd_read_eq_none_iff.mp (closed .read nofun)

/-! ### The slot of a descriptor -/

def slotOf (pipes : Pipes) (fd : Int) : Side → Option Nat
  | .read => slotOfRead pipes fd
  | .write => slotOfWrite pipes fd

theorem isRead_iff : isRead fd slot = true ↔ slot.state ≠ .free ∧ slot.openEnd .read = some fd := by
  simp only [isRead, PipeSlot.openEnd, Bool.and_eq_true, bne_iff_ne, beq_iff_eq, and_assoc,
    Option.ite_none_right_eq_some, Option.some.injEq]

theorem isWrite_iff :
    isWrite fd slot = true ↔ slot.state ≠ .free ∧ slot.openEnd .write = some fd := by
  simp only [isWrite, PipeSlot.openEnd, Bool.and_eq_true, bne_iff_ne, beq_iff_eq, and_assoc,
    Option.ite_none_right_eq_some, Option.some.injEq]

theorem slotOf_some (side : Side) (found : slotOf pipes fd side = some place) :
    ∃ slot, pipes[place]? = some slot ∧ slot.openEnd side = some fd := by
  cases side with
  | read =>
      obtain ⟨within, chosen, -⟩ := List.findIdx?_eq_some_iff_getElem.mp found
      exact ⟨pipes[place], List.getElem?_eq_getElem within, (isRead_iff.mp chosen).2⟩
  | write =>
      obtain ⟨within, chosen, -⟩ := List.findIdx?_eq_some_iff_getElem.mp found
      exact ⟨pipes[place], List.getElem?_eq_getElem within, (isWrite_iff.mp chosen).2⟩

theorem slotOf_none (absent : slotOf pipes fd side = none) (held : pipes[place]? = some slot)
    (opened : slot.openEnd side = some fd) : slot.state = .free := by
  have member := List.mem_of_getElem? held
  by_contra apart
  cases side with
  | read =>
      have missed := List.findIdx?_eq_none_iff.mp absent slot member
      rw [isRead_iff.mpr ⟨apart, opened⟩] at missed
      cases missed
  | write =>
      have missed := List.findIdx?_eq_none_iff.mp absent slot member
      rw [isWrite_iff.mpr ⟨apart, opened⟩] at missed
      cases missed

theorem freePlace_some (found : freePlace pipes = some place) :
    ∃ slot, pipes[place]? = some slot ∧ slot.state = .free := by
  obtain ⟨within, chosen, -⟩ := List.findIdx?_eq_some_iff_getElem.mp found
  exact ⟨pipes[place], List.getElem?_eq_getElem within, beq_iff_eq.mp chosen⟩

/-! ## Descriptors -/

/-- The kind of an open descriptor. -/
def kindAt (fds : FdTable FdOps) (fd : Int) : Option Kind := (fds fd).map (·.kind)

theorem kindAt_ne_of_none (unopened : fds fd = none) (kind : Kind) :
    kindAt fds fd ≠ some kind := by
  rw [kindAt, unopened, Option.map_none]
  exact nofun

theorem kindAt_update (fds : FdTable FdOps) (fd : Int) (entry : Option FdOps) (other : Int) :
    kindAt (Function.update fds fd entry) other =
      if other = fd then entry.map (·.kind) else kindAt fds other := by
  rw [kindAt, Function.update_apply]
  split <;> rfl

/-- A descriptor of another kind, opened or closed, leaves those of a kind. -/
theorem kindAt_update_of_ne {kind : Kind} {entry : Option FdOps}
    (before : kindAt fds fd ≠ some kind) (after : entry.map (·.kind) ≠ some kind) (other : Int) :
    kindAt (Function.update fds fd entry) other = some kind ↔ kindAt fds other = some kind := by
  rw [kindAt_update]
  split
  · next here => exact iff_of_false after (here ▸ before)
  · rfl

/-! ### Pairs -/

section

variable {answers : PairAnswers} {after : FdTable FdOps}
  {out array : Int × Int} {errno : FdErrno} {first second : Int}

def pairAlloc (ops : Nat → FdOps) (answers : PairAnswers) (fds : FdTable FdOps) (which : Nat) :
    FdTable FdOps × Except FdErrno Int :=
  runtimeFdAllocOps fds (ops which) (answers.of which)

/-- A pair that fails at either allocation leaves the descriptors and the array. -/
theorem fdAllocPair_error (ops : Nat → FdOps) (fit : answers.Fit (pairAlloc ops answers) fds)
    (failed : fdAllocPair (pairAlloc ops answers) runtimeFdClose fds out =
      (after, array, .error errno)) : after = fds ∧ array = out := by
  unfold fdAllocPair at failed
  split at failed
  next table refused result =>
    cases failed
    exact ⟨(runtimeFdAllocOps_error fit.1 result).1, rfl⟩
  next table first result =>
    have fitSecond : answers.second.Fits table := by
      have fits := fit.2
      rwa [result] at fits
    obtain ⟨-, unopened, rfl⟩ := runtimeFdAllocOps_ok fit.1 result
    split at failed
    next again refused result' =>
      cases failed
      rw [(runtimeFdAllocOps_error fitSecond result').1]
      exact ⟨runtimeFdClose_update unopened _, rfl⟩
    next => cases failed

theorem fdAllocPair_ok (ops : Nat → FdOps) (fit : answers.Fit (pairAlloc ops answers) fds)
    (done : fdAllocPair (pairAlloc ops answers) runtimeFdClose fds out =
      (after, (first, second), .ok ())) :
    fds first = none ∧ fds second = none ∧ first ≠ second ∧
      after = Function.update (Function.update fds first (some (ops 0))) second
        (some (ops 1)) := by
  unfold fdAllocPair at done
  split at done
  next => cases done
  next table opened result =>
    have fitSecond : answers.second.Fits table := by
      have fits := fit.2
      rwa [result] at fits
    obtain ⟨-, unopened, rfl⟩ := runtimeFdAllocOps_ok fit.1 result
    split at done
    next => cases done
    next again other result' =>
      cases done
      obtain ⟨-, unopened', rfl⟩ := runtimeFdAllocOps_ok fitSecond result'
      have apart : first ≠ second := by
        rintro rfl
        rw [Function.update_self] at unopened'
        cases unopened'
      rw [Function.update_of_ne apart.symm] at unopened'
      exact ⟨unopened, unopened', apart, rfl⟩

/-- The entries of the two ends of a pipe. -/
def pipeOps (nonblock : Bool) (which : Nat) : FdOps :=
  if which = 0 then { kind := .pipeRead, nonblock } else { kind := .pipeWrite, nonblock }

/-- What a `pipe2` did that succeeded. -/
structure Piped (state : State) (nonblock : Bool) (next : State) (place : Nat)
    (first second : Int) : Prop where
  free : freePlace state.pipes = some place
  firstNew : state.fds first = none
  secondNew : state.fds second = none
  apart : first ≠ second
  pipes : next.pipes = state.pipes.set place
    { state := .empty, readOpen := true, writeOpen := true, readFd := first, writeFd := second }
  fds : next.fds = Function.update (Function.update state.fds first (some (pipeOps nonblock 0)))
    second (some (pipeOps nonblock 1))

theorem sysPipe2_cases (pipefd : Option (Int × Int)) {nonblock : Bool}
    (fit : answers.Fit (pipeAlloc nonblock answers) state.fds) :
    (∃ errno, sysPipe2 state pipefd nonblock answers = (state, pipefd, .error errno)) ∨
      ∃ next place first second, Piped state nonblock next place first second ∧
        sysPipe2 state pipefd nonblock answers = (next, some (first, second), .ok ()) := by
  unfold sysPipe2
  split
  · exact .inl ⟨.EFAULT, rfl⟩
  split
  · next array _ fds _ errno failed =>
    rw [(fdAllocPair_error (pipeOps nonblock) fit failed).1]
    exact .inl ⟨errno, rfl⟩
  · next array _ fds first second done =>
    obtain ⟨unopened, unopened', apart, same⟩ :=
      fdAllocPair_ok (pipeOps nonblock) fit done
    unfold pipeOpen
    cases found : freePlace state.pipes with
    | none =>
        -- The two descriptors are closed again, and no slot was touched.
        have kept :
            (Function.update state.fds first (some (pipeOps nonblock 0))) second = none := by
          rwa [Function.update_of_ne apart.symm]
        refine .inl ⟨.ENFILE, ?_⟩
        simp only
        rw [same, runtimeFdClose_comm _ first second, runtimeFdClose_update kept,
          runtimeFdClose_update unopened]
    | some place =>
        exact .inr ⟨_, place, first, second,
          ⟨found, unopened, unopened', apart, rfl, same⟩, rfl⟩

theorem sysSocketpair_cases (sv : Option (Int × Int))
    (fit : answers.Fit (socketpairAlloc answers) state.fds) :
    (∃ errno, sysSocketpair state sv answers = (state, sv, .error errno)) ∨
      ∃ first second, state.fds first = none ∧ state.fds second = none ∧
        sysSocketpair state sv answers =
          ({ state with
            fds := Function.update (Function.update state.fds first
              (some { kind := .socketpair })) second (some { kind := .socketpair }) },
            some (first, second), .ok ()) := by
  unfold sysSocketpair
  split
  · exact .inl ⟨.EFAULT, rfl⟩
  next array =>
    obtain ⟨⟨after, answered, result⟩, run⟩ :
        ∃ outcome, fdAllocPair (socketpairAlloc answers) runtimeFdClose state.fds array =
          outcome := ⟨_, rfl⟩
    rw [run]
    cases result with
    | error errno =>
        obtain ⟨rfl, rfl⟩ :=
          fdAllocPair_error (fun _ => { kind := .socketpair }) fit run
        exact .inl ⟨errno, rfl⟩
    | ok done =>
        obtain ⟨unopened, unopened', -, rfl⟩ :=
          fdAllocPair_ok (fun _ => { kind := .socketpair }) fit run
        exact .inr ⟨answered.1, answered.2, unopened, unopened', rfl⟩

end

/-! ## The invariant -/

/-- In no past were more bytes taken from a slot than accepted into it. -/
def Within (past : List Event) : Prop :=
  ∀ older, older <:+ past → ∀ place, takenBytes older place ≤ acceptedBytes older place

structure Inv (state : State) (past : List Event) : Prop where
  ends : ∀ side, Holds (openEnds state.pipes side) fun fd => kindAt state.fds fd = some side.kind
  cell : ∀ place slot, state.pipes[place]? = some slot →
    Cell slot (acceptedBytes past place) (takenBytes past place)
  within : Within past

/-- What a step does to the table and the descriptors, with its events. -/
inductive Touch (state : State) : Action → State → List Event → Prop where
  | quiet {action : Action} {next : State} (pipes : next.pipes = state.pipes)
      (kinds : ∀ (side : Side) fd,
        kindAt next.fds fd = some side.kind ↔ kindAt state.fds fd = some side.kind)
      (apart : ∀ (side : Side) fd, action = .close fd → kindAt state.fds fd ≠ some side.kind) :
      Touch state action next []
  | opened {pipefd : Option (Int × Int)} {nonblock : Bool} {answers : PairAnswers} {next : State}
      {place : Nat} {first second : Int} (piped : Piped state nonblock next place first second) :
      Touch state (.pipe2 pipefd nonblock answers) next [.opened place]
  | wrote {fd : Int} {count : Nat} {next : State} {place : Nat} {slot : PipeSlot} {bytes : Nat}
      (held : state.pipes[place]? = some slot) (opened : slot.openEnd .write = some fd)
      (fits : slot.pending + bytes ≤ pipeCapacity)
      (pipes : next.pipes = state.pipes.set place (slot.fill bytes))
      (fds : next.fds = state.fds) : Touch state (.write fd count) next [.accepted place bytes]
  | took {action : Action} {fd : Int} {next : State} {place : Nat} {slot : PipeSlot} {bytes : Nat}
      (onward : ∀ other, action ≠ .close other) (held : state.pipes[place]? = some slot)
      (opened : slot.openEnd .read = some fd) (within : bytes ≤ slot.pending)
      (pipes : next.pipes = state.pipes.set place (slot.drain bytes))
      (fds : next.fds = state.fds) : Touch state action next [.taken place bytes]
  | closed {fd : Int} {next : State} {side : Side} {place : Nat} {slot : PipeSlot}
      (held : state.pipes[place]? = some slot) (opened : slot.openEnd side = some fd)
      (pipes : next.pipes = state.pipes.set place (slotClose (slot.shut side)))
      (fds : next.fds = runtimeFdClose state.fds fd) : Touch state (.close fd) next []

theorem Inv.boot : Inv boot [] := by
  have slots (place : Nat) (slot : PipeSlot) (held : WakePipe.boot.pipes[place]? = some slot) :
      slot = {} :=
    List.eq_of_mem_replicate (List.mem_of_getElem? held)
  have vacant {side : Side} {place : Nat} {fd : Int}
      (holder : openEnds WakePipe.boot.pipes side place = some fd) : False := by
    obtain ⟨slot, held, opened⟩ := openEnds_eq_some_iff.mp holder
    rw [slots place slot held] at opened
    cases side <;> cases opened
  refine ⟨fun side => ⟨fun _ _ holder => (vacant holder).elim, nofun,
    fun _ _ _ holder => (vacant holder).elim⟩, fun place slot held => ?_,
    fun older suffix place => ?_⟩
  · rw [slots place slot held]
    exact .boot
  · rw [List.suffix_nil.mp suffix]
    exact Nat.le_refl 0

theorem Inv.slotOf_kind (inv : Inv state past) (side : Side)
    (found : slotOf state.pipes fd side = some place) :
    kindAt state.fds fd = some side.kind :=
  (inv.ends side).alive place fd (openEnds_eq_some_iff.mpr (slotOf_some side found))

/-- The slot of an open descriptor is found. -/
theorem Inv.slotOf_eq (inv : Inv state past) (kind : kindAt state.fds fd = some side.kind) :
    ∃ place, slotOf state.pipes fd side = some place := by
  cases found : slotOf state.pipes fd side with
  | some place => exact ⟨place, rfl⟩
  | none =>
      obtain ⟨place, holder⟩ := (inv.ends side).covered fd kind
      obtain ⟨slot, held, opened⟩ := openEnds_eq_some_iff.mp holder
      exact absurd (slotOf_none found held opened) ((inv.cell place slot held).not_free opened)

/-! ### Every step -/

theorem readStep_pipes (state : State) (cothread : Nat) (fd : Int) (count : Nat) :
    (readStep state cothread fd count).pipes = (pipeRead state.pipes fd count).1 := by
  unfold readStep pipeReadTurn
  simp only
  split <;> rfl

theorem readStep_fds (state : State) (cothread : Nat) (fd : Int) (count : Nat) :
    (readStep state cothread fd count).fds = state.fds := by
  unfold readStep pipeReadTurn
  simp only
  split <;> rfl

/-- A turn that finds nothing to read leaves no event, whether it parks or not. -/
theorem readEvents_wouldBlock (waits : (pipeRead state.pipes fd count).2 = (.wouldBlock, 0)) :
    readEvents state fd count = [] := by
  unfold readEvents pipeReadTurn
  simp only [waits]
  split
  · next told =>
    split at told <;> cases told
  · rfl

theorem readEvents_taken {status : Status} (found : slotOfRead state.pipes fd = some place)
    (read : (pipeRead state.pipes fd count).2 = (status, bytes))
    (done : status = .ok ∨ status = .eof ∧ bytes = 0) :
    readEvents state fd count = [.taken place bytes] := by
  unfold readEvents pipeReadTurn
  simp only [read, found]
  rcases done with rfl | ⟨rfl, rfl⟩ <;> rfl

theorem touch_read {action : Action} (inv : Inv state past)
    (onward : ∀ other, action ≠ .close other) (cothread : Nat) (fd : Int) (count : Nat) :
    Touch state action (readStep state cothread fd count) (readEvents state fd count) := by
  have same (side : Side) (other : Int) :
      kindAt (readStep state cothread fd count).fds other = some side.kind ↔
        kindAt state.fds other = some side.kind := by
    rw [readStep_fds]
  cases found : slotOfRead state.pipes fd with
  | none =>
      have events : readEvents state fd count = [] := by
        unfold readEvents
        rw [found]
      have pipes : (pipeRead state.pipes fd count).1 = state.pipes := by
        unfold pipeRead
        rw [found]
      rw [events]
      exact .quiet ((readStep_pipes ..).trans pipes) same fun _ other closes =>
        absurd closes (onward other)
  | some place =>
      obtain ⟨slot, held, opened⟩ := slotOf_some .read found
      have read : pipeRead state.pipes fd count =
          (state.pipes.set place (slotRead slot count).1, (slotRead slot count).2) := by
        unfold pipeRead
        simp only [found, held, Option.getD_some]
      rcases slotRead_cases slot count (inv.cell place slot held).idle with
        waits | ⟨status, bytes, taken, done, within⟩
      · rw [waits] at read
        rw [readEvents_wouldBlock (by rw [read])]
        refine .quiet ?_ same fun _ other closes => absurd closes (onward other)
        rw [readStep_pipes, read]
        exact set_of_held held
      · rw [taken] at read
        rw [readEvents_taken found (by rw [read]) done]
        exact .took onward held opened within (by rw [readStep_pipes, read]) (readStep_fds ..)

theorem touch_write (inv : Inv state past) (fd : Int) (count : Nat) :
    Touch state (.write fd count) (pipeWriteCall state fd count).1
      (writeEvents state fd count) := by
  unfold writeEvents pipeWriteCall
  cases found : slotOfWrite state.pipes fd with
  | none =>
      have same : pipeWrite state.pipes fd count = (state.pipes, .unknownFd, 0) := by
        unfold pipeWrite
        rw [found]
      rw [same]
      exact .quiet rfl (fun _ _ => Iff.rfl) nofun
  | some place =>
      obtain ⟨slot, held, opened⟩ := slotOf_some .write found
      have wrote : pipeWrite state.pipes fd count =
          (state.pipes.set place (slotWrite slot count).1, (slotWrite slot count).2) := by
        unfold pipeWrite
        simp only [found, held, Option.getD_some]
      rw [wrote]
      rcases slotWrite_cases count (inv.cell place slot held).bound with
        ⟨status, refused, why⟩ | ⟨bytes, accepted, fits⟩
      · rw [refused]
        rcases why with rfl | rfl <;>
          exact .quiet (set_of_held held) (fun _ _ => Iff.rfl) nofun
      · rw [accepted]
        exact .wrote held opened fits rfl rfl

theorem modify_of_held (held : pipes[place]? = some slot) (change : PipeSlot → PipeSlot) :
    pipes.modify place change = pipes.set place (change slot) := by
  refine List.ext_getElem? fun index => ?_
  rw [getElem?_set_of_held held, List.getElem?_modify]
  by_cases here : index = place
  · rw [if_pos here, here, held]
    exact congrArg some (if_pos rfl)
  · rw [if_neg here]
    simp [Ne.symm here]

/-- A close of a pipe's descriptor closes its end. -/
theorem pipeClose_eq (inv : Inv state past) (kind : kindAt state.fds fd = some side.kind) :
    ∃ place slot, state.pipes[place]? = some slot ∧ slot.openEnd side = some fd ∧
      (pipeClose state.pipes fd).1 = state.pipes.set place (slotClose (slot.shut side)) := by
  obtain ⟨place, found⟩ := inv.slotOf_eq kind
  obtain ⟨slot, held, opened⟩ := slotOf_some side found
  refine ⟨place, slot, held, opened, ?_⟩
  unfold pipeClose
  cases side with
  | read =>
      rw [show slotOfRead state.pipes fd = some place from found]
      exact modify_of_held held _
  | write =>
      have absent : slotOfRead state.pipes fd = none := by
        by_contra present
        obtain ⟨other, chosen⟩ := Option.ne_none_iff_exists'.mp present
        have reads := inv.slotOf_kind .read chosen
        cases kind.symm.trans reads
      rw [absent, show slotOfWrite state.pipes fd = some place from found]
      exact modify_of_held held _

theorem touch_close (inv : Inv state past) {ops : FdOps} (entry : state.fds fd = some ops) :
    Touch state (.close fd) (closeStep state fd ops) [] := by
  have kind : kindAt state.fds fd = some ops.kind := by
    rw [kindAt, entry, Option.map_some]
  have ofSide (side : Side) (same : ops.kind = side.kind) :
      Touch state (.close fd) (pipeCloseCall state fd) [] := by
    obtain ⟨place, slot, held, opened, pipes⟩ := pipeClose_eq inv (kind.trans (congrArg some same))
    exact .closed held opened pipes rfl
  have ofOther (different : ∀ side : Side, ops.kind ≠ side.kind) :
      Touch state (.close fd) { state with fds := runtimeFdClose state.fds fd } [] := by
    have apart (side : Side) : kindAt state.fds fd ≠ some side.kind := fun same =>
      different side (Option.some.inj (kind.symm.trans same))
    refine .quiet rfl (fun side => kindAt_update_of_ne (apart side) nofun) fun side other same => ?_
    cases same
    exact apart side
  obtain ⟨kind', nonblock⟩ := ops
  cases kind' with
  | pipeRead => exact ofSide .read rfl
  | pipeWrite => exact ofSide .write rfl
  | socketpair | other => exact ofOther fun side => by cases side <;> exact nofun

theorem step_touch {cothread : Nat} {action : Action} (inv : Inv state past)
    (stepped : step state cothread action = some next) :
    Touch state action next (events state cothread action) := by
  have idle (stays : ∀ fd, action ≠ .close fd) : Touch state action state [] :=
    .quiet rfl (fun _ _ => Iff.rfl) fun _ fd closes => absurd closes (stays fd)
  unfold step at stepped
  unfold events
  cases waiting : state.waits cothread with
  | some wait =>
      cases action with
      | resume =>
          simp only [waiting] at stepped ⊢
          cases stepped
          have onward (other : Int) : Action.resume ≠ .close other := nofun
          exact touch_read inv onward cothread wait.fd wait.count
      | _ => simp [waiting] at stepped
  | none =>
      cases action with
      | pipe2 pipefd nonblock answers =>
          simp only [waiting] at stepped ⊢
          obtain ⟨fit, same⟩ := Option.ite_none_right_eq_some.mp stepped
          cases same
          unfold pipe2Events
          rcases sysPipe2_cases pipefd fit with
            ⟨errno, failed⟩ | ⟨next, place, first, second, piped, done⟩
          · simp only [failed]
            split
            · next told => cases told
            · exact idle fun _ => nofun
          · simp only [done, piped.free]
            exact .opened piped
      | socketpair sv answers =>
          simp only [waiting] at stepped ⊢
          obtain ⟨fit, same⟩ := Option.ite_none_right_eq_some.mp stepped
          cases same
          rcases sysSocketpair_cases sv fit with
            ⟨errno, failed⟩ | ⟨first, second, unopened, unopened', done⟩
          · rw [failed]
            exact idle fun _ => nofun
          · rw [done]
            refine .quiet rfl (fun side fd => ?_) nofun
            have apart : (some ({ kind := .socketpair } : FdOps)).map (·.kind) ≠
                some side.kind := by cases side <;> exact nofun
            have middle : ∀ other, kindAt (Function.update state.fds first
                (some { kind := .socketpair })) other = some side.kind ↔
                  kindAt state.fds other = some side.kind :=
              kindAt_update_of_ne (kindAt_ne_of_none unopened side.kind) apart
            have last := (middle second).not.mpr (kindAt_ne_of_none unopened' side.kind)
            exact (kindAt_update_of_ne last apart fd).trans (middle fd)
      | read fd count =>
          simp only [waiting] at stepped ⊢
          cases stepped
          split
          · have onward (other : Int) : Action.read fd count ≠ .close other := nofun
            exact touch_read inv onward cothread fd count
          · exact idle fun _ => nofun
      | write fd count =>
          simp only [waiting] at stepped ⊢
          cases stepped
          split
          · exact touch_write inv fd count
          · exact idle fun _ => nofun
      | close fd =>
          simp only [waiting] at stepped ⊢
          cases entry : state.fds fd with
          | none =>
            rw [entry] at stepped
            cases stepped
            refine .quiet rfl (fun _ _ => Iff.rfl) fun side other same => ?_
            cases same
            exact kindAt_ne_of_none entry side.kind
          | some ops =>
            rw [entry] at stepped
            cases stepped
            exact touch_close inv entry
      | resume => simp [waiting] at stepped
      | «open» fd =>
          simp only [waiting] at stepped ⊢
          obtain ⟨⟨-, unopened⟩, same⟩ := Option.ite_none_right_eq_some.mp stepped
          cases same
          refine .quiet rfl (fun side =>
            kindAt_update_of_ne (kindAt_ne_of_none unopened side.kind) ?_) nofun
          cases side <;> exact nofun

/-! ### What a step keeps -/

theorem kindAt_update_new {entry : FdOps} {kind : Kind} (same : entry.kind = kind) (other : Int) :
    kindAt (Function.update fds fd (some entry)) other = some kind ↔
      other = fd ∨ kindAt fds other = some kind := by
  rw [kindAt_update]
  by_cases here : other = fd
  · rw [if_pos here, Option.map_some, same]
    exact iff_of_true rfl (.inl here)
  · rw [if_neg here, or_iff_right here]

theorem kindAt_close (fds : FdTable FdOps) (fd : Int) (kind : Kind) (other : Int) :
    kindAt (runtimeFdClose fds fd) other = some kind ↔
      other ≠ fd ∧ kindAt fds other = some kind := by
  rw [runtimeFdClose, kindAt_update]
  by_cases here : other = fd
  · rw [if_pos here]
    exact iff_of_false (Option.some_ne_none kind).symm fun kept => kept.1 here
  · rw [if_neg here, and_iff_right here]

theorem Piped.kinds {nonblock : Bool} {first second : Int}
    (piped : Piped state nonblock next place first second) (other : Int) :
    (kindAt next.fds other = some .pipeRead ↔
        other = first ∨ kindAt state.fds other = some .pipeRead) ∧
      (kindAt next.fds other = some .pipeWrite ↔
        other = second ∨ kindAt state.fds other = some .pipeWrite) := by
  rw [piped.fds]
  constructor
  · have before : kindAt (Function.update state.fds first (some (pipeOps nonblock 0))) second ≠
        some .pipeRead := by
      rw [kindAt_update, if_neg piped.apart.symm]
      exact kindAt_ne_of_none piped.secondNew .pipeRead
    exact (kindAt_update_of_ne before (by simp [pipeOps]) other).trans
      (kindAt_update_new rfl other)
  · have before := kindAt_ne_of_none piped.firstNew .pipeWrite
    exact (kindAt_update_new rfl other).trans
      (or_congr_right (kindAt_update_of_ne before (by simp [pipeOps]) other))

/-- A slot changes with the bytes that are told of it, and no other does. -/
theorem Inv.cell_set {events : List Event} (inv : Inv state past)
    (held : state.pipes[place]? = some slot) {after : PipeSlot}
    (here : Cell after (acceptedBytes (events ++ past) place) (takenBytes (events ++ past) place))
    (elsewhere : ∀ index ≠ place, acceptedBytes (events ++ past) index = acceptedBytes past index ∧
      takenBytes (events ++ past) index = takenBytes past index)
    (pipes : next.pipes = state.pipes.set place after) (index : Nat) (other : PipeSlot)
    (there : next.pipes[index]? = some other) :
    Cell other (acceptedBytes (events ++ past) index) (takenBytes (events ++ past) index) := by
  rw [pipes, getElem?_set_of_held held] at there
  split at there
  · next same =>
    cases there
    rwa [same]
  · next apart =>
    obtain ⟨accepted, taken⟩ := elsewhere index apart
    rw [accepted, taken]
    exact inv.cell index other there

theorem Within.cons {event : Event} (within : Within past)
    (now : ∀ place, takenBytes (event :: past) place ≤ acceptedBytes (event :: past) place) :
    Within (event :: past) := by
  intro older suffix
  rcases List.suffix_cons_iff.mp suffix with rfl | suffix
  · exact now
  · exact within older suffix

theorem Inv.taken_le (inv : Inv state past) (place : Nat) :
    takenBytes past place ≤ acceptedBytes past place :=
  inv.within past (List.suffix_refl past) place

theorem Inv.touch {action : Action} {events : List Event} (inv : Inv state past)
    (touched : Touch state action next events) : Inv next (events ++ past) := by
  cases touched with
  | quiet pipes kinds =>
      refine ⟨fun side => ?_, fun place slot held => ?_, inv.within⟩
      · rw [pipes]
        exact (inv.ends side).congr (kinds side)
      · rw [pipes] at held
        exact inv.cell place slot held
  | @opened pipefd nonblock answers _ place first second piped =>
      obtain ⟨slot, held, isFree⟩ := freePlace_some piped.free
      have vacant (side : Side) : openEnds state.pipes side place = none :=
        (openEnds_of_held held).trans ((inv.cell place slot held).free_iff.mp isFree side)
      refine ⟨fun side => ?_, inv.cell_set held ?_ (fun index apart => ?_) piped.pipes,
        inv.within.cons fun index => ?_⟩
      · rw [piped.pipes, openEnds_set held]
        cases side with
        | read =>
            exact (inv.ends .read).take (vacant .read) (kindAt_ne_of_none piped.firstNew _)
              fun other => (piped.kinds other).1
        | write =>
            exact (inv.ends .write).take (vacant .write) (kindAt_ne_of_none piped.secondNew _)
              fun other => (piped.kinds other).2
      · rw [List.singleton_append, acceptedBytes, takenBytes, if_pos rfl, if_pos rfl]
        exact .open first second
      · rw [List.singleton_append, acceptedBytes, takenBytes, if_neg apart.symm, if_neg apart.symm]
        exact ⟨rfl, rfl⟩
      · rw [acceptedBytes, takenBytes]
        split
        · exact Nat.le_refl 0
        · exact inv.taken_le index
  | @wrote fd count _ place slot bytes held opened fits pipes fds =>
      refine ⟨fun side => ?_, inv.cell_set held ?_ (fun index apart => ?_) pipes,
        inv.within.cons fun index => ?_⟩
      · rw [pipes, openEnds_set_of_same held (openEnd_fill slot bytes side), fds]
        exact inv.ends side
      · rw [List.singleton_append, acceptedBytes, takenBytes, if_pos rfl]
        exact (inv.cell place slot held).fill opened fits
      · rw [List.singleton_append, acceptedBytes, takenBytes, if_neg apart.symm]
        exact ⟨rfl, rfl⟩
      · rw [acceptedBytes, takenBytes]
        exact (inv.taken_le index).trans (Nat.le_add_right ..)
  | @took _ fd _ place slot bytes onward held opened within pipes fds =>
      have cell := (inv.cell place slot held).drain opened within
      refine ⟨fun side => ?_, inv.cell_set held ?_ (fun index apart => ?_) pipes,
        inv.within.cons fun index => ?_⟩
      · rw [pipes, openEnds_set_of_same held (openEnd_drain slot bytes side), fds]
        exact inv.ends side
      · rw [List.singleton_append, acceptedBytes, takenBytes, if_pos rfl]
        exact cell
      · rw [List.singleton_append, acceptedBytes, takenBytes, if_neg apart.symm]
        exact ⟨rfl, rfl⟩
      · rw [acceptedBytes, takenBytes]
        split
        · next here =>
          have account := (inv.cell place slot held).account
            ((inv.cell place slot held).not_free opened)
          rw [← here]
          omega
        · exact inv.taken_le index
  | @closed fd _ side place slot held opened pipes fds =>
      have kind : kindAt state.fds fd = some side.kind :=
        (inv.ends side).alive place fd (openEnds_eq_some_iff.mpr ⟨slot, held, opened⟩)
      refine ⟨fun other => ?_, inv.cell_set held ((inv.cell place slot held).close opened)
        (fun _ _ => ⟨rfl, rfl⟩) pipes, inv.within⟩
      rw [pipes, openEnds_set held, openEnd_slotClose, fds]
      by_cases same : other = side
      · subst same
        rw [if_pos rfl]
        exact (inv.ends other).release ((openEnds_of_held held).trans opened)
          (kindAt_close state.fds fd other.kind)
      · have apart : kindAt state.fds fd ≠ some other.kind := fun also =>
          same (Side.kind_injective (Option.some.inj (also.symm.trans kind)))
        rw [if_neg same, ← openEnds_of_held held, Function.update_eq_self]
        exact (inv.ends other).congr (kindAt_update_of_ne apart nofun)

theorem Inv.run {steps : List (Nat × Action)} (inv : Inv state past)
    (ran : run state steps = some next) : Inv next (history state past steps) := by
  induction steps generalizing state past with
  | nil =>
      cases ran
      exact inv
  | cons first rest ih =>
      obtain ⟨cothread, action⟩ := first
      obtain ⟨middle, stepped, ran⟩ := Option.bind_eq_some_iff.mp ran
      rw [history, stepped]
      exact ih (inv.touch (step_touch inv stepped)) ran

/-! ## Readiness and freeing -/

/-- A read end is looked up in its own slot. -/
theorem pipeReady_iff (inv : Inv state past) (held : state.pipes[place]? = some slot)
    (opened : slot.openEnd .read = some fd) :
    pipeReady state.pipes fd = true ↔
      takenBytes past place < acceptedBytes past place ∨ slot.openEnd .write = none := by
  have cell := inv.cell place slot held
  have apart := cell.not_free opened
  have found : state.pipes.find? (isRead fd) = some slot := by
    cases chosen : state.pipes.find? (isRead fd) with
    | none =>
        have missed := List.find?_eq_none.mp chosen slot (List.mem_of_getElem? held)
        exact absurd (isRead_iff.mpr ⟨apart, opened⟩) missed
    | some other =>
        obtain ⟨index, there⟩ := List.getElem?_of_mem (List.mem_of_find?_eq_some chosen)
        have reads := (isRead_iff.mp (List.find?_some chosen)).2
        have same : index = place := (inv.ends .read).once index place fd
          (openEnds_eq_some_iff.mpr ⟨other, there, reads⟩)
          (openEnds_eq_some_iff.mpr ⟨slot, held, opened⟩)
        rw [same, held] at there
        exact there.symm
  have account := cell.account apart
  have unread : takenBytes past place < acceptedBytes past place ↔ slot.pending ≠ 0 := by omega
  rw [pipeReady, found, unread, ← cell.readable, openEnd_write_eq_none_iff]
  simp only [Bool.or_eq_true, beq_iff_eq, Bool.not_eq_true']

/-- Bytes that were accepted stay unread until a read takes the last of them. -/
theorem drained_by_read {newer older : List Event}
    (within : Within (newer ++ .accepted place bytes :: older)) (nonempty : bytes ≠ 0)
    (still : .opened place ∉ newer)
    (drained : acceptedBytes (newer ++ .accepted place bytes :: older) place =
      takenBytes (newer ++ .accepted place bytes :: older) place) :
    ∃ later amount earlier, newer = later ++ .taken place amount :: earlier ∧
      acceptedBytes (.taken place amount :: earlier ++ .accepted place bytes :: older) place =
        takenBytes (.taken place amount :: earlier ++ .accepted place bytes :: older) place := by
  induction newer with
  | nil =>
      have before := within older ⟨[.accepted place bytes], rfl⟩ place
      simp only [List.nil_append, acceptedBytes, takenBytes, ↓reduceIte] at drained
      omega
  | cons event rest ih =>
      have inner : Within (rest ++ .accepted place bytes :: older) := fun past suffix =>
        within past (suffix.trans (List.suffix_cons event _))
      have step (same : acceptedBytes (rest ++ .accepted place bytes :: older) place =
          takenBytes (rest ++ .accepted place bytes :: older) place) :
          ∃ later amount earlier, event :: rest = later ++ .taken place amount :: earlier ∧
            acceptedBytes (.taken place amount :: earlier ++ .accepted place bytes :: older) place =
              takenBytes (.taken place amount :: earlier ++ .accepted place bytes :: older)
                place := by
        obtain ⟨later, amount, earlier, rfl, last⟩ :=
          ih inner (fun member => still (List.mem_cons_of_mem _ member)) same
        exact ⟨event :: later, amount, earlier, rfl, last⟩
      have bound := inner _ (List.suffix_refl _) place
      cases event with
      | opened other =>
          have apart : other ≠ place := fun same => still (same ▸ List.mem_cons_self)
          simp only [List.cons_append, acceptedBytes, takenBytes, if_neg apart] at drained
          exact step drained
      | accepted other amount =>
          simp only [List.cons_append, acceptedBytes, takenBytes] at drained
          exact step (by omega)
      | taken other amount =>
          by_cases same : other = place
          · subst same
            exact ⟨[], amount, rest, rfl, drained⟩
          · simp only [List.cons_append, acceptedBytes, takenBytes, if_neg same] at drained
            exact step drained

/-- The descriptor names the one end of the slot that is open. -/
def LastEnd (slot : PipeSlot) (fd : Int) : Prop :=
  ∃ side, slot.openEnd side = some fd ∧ ∀ other ≠ side, slot.openEnd other = none

theorem freed_iff {action : Action} {events : List Event} (inv : Inv state past)
    (touched : Touch state action next events) (held : state.pipes[place]? = some slot)
    (taken : slot.state ≠ .free) :
    (next.pipes[place]?.map (·.state) = some .free) ↔
      ∃ fd, action = .close fd ∧ LastEnd slot fd := by
  have stays (same : ∃ after, next.pipes[place]? = some after ∧ after.state ≠ .free)
      (onward : ∀ fd, action = .close fd → ∀ side, slot.openEnd side ≠ some fd) :
      (next.pipes[place]?.map (·.state) = some .free) ↔
        ∃ fd, action = .close fd ∧ LastEnd slot fd := by
    obtain ⟨after, there, apart⟩ := same
    refine iff_of_false ?_ ?_
    · rw [there, Option.map_some]
      exact fun free => apart (Option.some.inj free)
    · rintro ⟨fd, closes, side, opened, -⟩
      exact onward fd closes side opened
  have kind {side : Side} {fd : Int} (opened : slot.openEnd side = some fd) :
      kindAt state.fds fd = some side.kind :=
    (inv.ends side).alive place fd (openEnds_eq_some_iff.mpr ⟨slot, held, opened⟩)
  -- A slot that is set in the table is this one or leaves it alone.
  have set {index : Nat} {was after : PipeSlot} (there : state.pipes[index]? = some was)
      (pipes : next.pipes = state.pipes.set index after) :
      next.pipes[place]? = if place = index then some after else some slot := by
    rw [pipes, getElem?_set_of_held there, held]
  cases touched with
  | quiet pipes _ apart =>
      rw [pipes] at stays ⊢
      exact stays ⟨slot, held, taken⟩ fun fd closes side opened =>
        apart side fd closes (kind opened)
  | @opened _ _ _ _ index _ _ piped =>
      obtain ⟨was, there, free⟩ := freePlace_some piped.free
      have apart : place ≠ index := by
        rintro rfl
        cases held.symm.trans there
        exact taken free
      exact stays ⟨slot, (set there piped.pipes).trans (if_neg apart), taken⟩ nofun
  | @wrote _ _ _ index was bytes there _ _ pipes =>
      refine stays ?_ nofun
      rw [set there pipes]
      split
      · next here =>
        rw [← here, held] at there
        cases there
        exact ⟨_, rfl, fill_not_free taken bytes⟩
      · exact ⟨slot, rfl, taken⟩
  | @took _ _ _ index was bytes onward there _ _ pipes =>
      refine stays ?_ fun fd closes => absurd closes (onward fd)
      rw [set there pipes]
      split
      · next here =>
        rw [← here, held] at there
        cases there
        exact ⟨_, rfl, drain_not_free taken bytes⟩
      · exact ⟨slot, rfl, taken⟩
  | @closed fd _ side index was there opened pipes =>
      have named : kindAt state.fds fd = some side.kind :=
        (inv.ends side).alive index fd (openEnds_eq_some_iff.mpr ⟨was, there, opened⟩)
      by_cases here : place = index
      · subst here
        cases held.symm.trans there
        rw [set there pipes, if_pos rfl, Option.map_some, Option.some.injEq,
          slotClose_free_iff taken]
        constructor
        · exact fun closed => ⟨fd, rfl, side, opened, closed⟩
        · rintro ⟨_, same, last, isLast, closed⟩
          cases same
          have equal : last = side :=
            Side.kind_injective (Option.some.inj ((kind isLast).symm.trans named))
          exact equal ▸ closed
      · refine stays ⟨slot, (set there pipes).trans (if_neg here), taken⟩ ?_
        intro other same last isLast
        cases same
        have equal : last = side :=
          Side.kind_injective (Option.some.inj ((kind isLast).symm.trans named))
        subst equal
        exact here ((inv.ends last).once place index fd
          (openEnds_eq_some_iff.mpr ⟨slot, held, isLast⟩)
          (openEnds_eq_some_iff.mpr ⟨was, there, opened⟩))

/-! ## Runs -/

/-- What any run of the calls keeps. -/
structure Sound (state : State) (past : List Event) : Prop where
  covered : ∀ (side : Side) fd, kindAt state.fds fd = some side.kind →
    ∃! place, openEnds state.pipes side place = some fd
  owned : ∀ (side : Side) (place : Nat) slot fd, state.pipes[place]? = some slot →
    slot.openEnd side = some fd → slot.state ≠ .free ∧ kindAt state.fds fd = some side.kind
  count : ∀ (place : Nat) slot, state.pipes[place]? = some slot →
    slot.pending ≤ pipeCapacity ∧
      (slot.state ≠ .free → slot.pending + takenBytes past place = acceptedBytes past place)
  ready : ∀ (place : Nat) slot fd, state.pipes[place]? = some slot →
    slot.openEnd .read = some fd →
      (pipeReady state.pipes fd = true ↔
        takenBytes past place < acceptedBytes past place ∨ slot.openEnd .write = none)
  kept : ∀ newer older (place bytes : Nat) slot fd,
    past = newer ++ .accepted place bytes :: older → bytes ≠ 0 → .opened place ∉ newer →
      state.pipes[place]? = some slot → slot.openEnd .read = some fd →
        pipeReady state.pipes fd = false →
          ∃ later amount earlier, newer = later ++ .taken place amount :: earlier ∧
            acceptedBytes (.taken place amount :: earlier ++ .accepted place bytes :: older) place =
              takenBytes (.taken place amount :: earlier ++ .accepted place bytes :: older) place
  free : ∀ (place : Nat) slot, state.pipes[place]? = some slot →
    (slot.state = .free ↔ ∀ side, slot.openEnd side = none)
  freed : ∀ cothread action next, step state cothread action = some next →
    ∀ (place : Nat) slot, state.pipes[place]? = some slot → slot.state ≠ .free →
      (next.pipes[place]?.map (·.state) = some .free ↔
        ∃ fd, action = .close fd ∧ LastEnd slot fd)
  pipe2 : ∀ pipefd nonblock answers errno,
    PairAnswers.Fit answers (pipeAlloc nonblock answers) state.fds →
      (sysPipe2 state pipefd nonblock answers).2.2 = .error errno →
        sysPipe2 state pipefd nonblock answers = (state, pipefd, .error errno)
  socketpair : ∀ sv answers errno,
    PairAnswers.Fit answers (socketpairAlloc answers) state.fds →
      (sysSocketpair state sv answers).2.2 = .error errno →
        sysSocketpair state sv answers = (state, sv, .error errno)

theorem Inv.sound (inv : Inv state past) : Sound state past where
  covered side _ kind := (inv.ends side).existsUnique kind
  owned side place slot fd held opened :=
    ⟨(inv.cell place slot held).not_free opened,
      (inv.ends side).alive place fd (openEnds_eq_some_iff.mpr ⟨slot, held, opened⟩)⟩
  count place slot held := ⟨(inv.cell place slot held).bound, (inv.cell place slot held).account⟩
  ready place slot fd held opened := pipeReady_iff inv held opened
  kept newer older place bytes slot fd split nonempty still held opened unready := by
    subst split
    refine drained_by_read inv.within nonempty still (Nat.le_antisymm ?_ (inv.taken_le place))
    by_contra unread
    rw [(pipeReady_iff inv held opened).mpr (.inl (Nat.lt_of_not_le unread))] at unready
    cases unready
  free place slot held := (inv.cell place slot held).free_iff
  freed cothread action next stepped place slot held taken :=
    freed_iff inv (step_touch inv stepped) held taken
  pipe2 pipefd nonblock answers errno fit failed := by
    rcases sysPipe2_cases pipefd fit with ⟨other, same⟩ | ⟨next, place, first, second, -, done⟩
    · rw [same] at failed
      cases failed
      exact same
    · rw [done] at failed
      cases failed
  socketpair sv answers errno fit failed := by
    rcases sysSocketpair_cases sv fit with ⟨other, same⟩ | ⟨first, second, -, -, done⟩
    · rw [same] at failed
      cases failed
      exact same
    · rw [done] at failed
      cases failed

/-- Every run of `pipe2`, `socketpair`, `read`, `write` and `close` keeps the pipes sound. -/
theorem run_wakePipes {steps : List (Nat × Action)} (ran : run boot steps = some state) :
    Sound state (history boot [] steps) :=
  (Inv.boot.run ran).sound

/-- A read parks until a write, the pipe is closed, and its numbers come back the other way. -/
def reusedPipe : List (Nat × Action) :=
  [(1, .pipe2 (some (0, 0)) false { first := .listed 3, second := .listed 4 }), (2, .read 3 8),
    (1, .write 4 5), (2, .resume), (1, .close 4), (1, .close 3),
    (1, .pipe2 (some (0, 0)) true { first := .listed 4, second := .listed 3 }),
    (1, .write 3 5000)]

theorem run_wakePipes_reused :
    ∃ state, run boot reusedPipe = some state ∧ Sound state (history boot [] reusedPipe) := by
  obtain ⟨state, ran⟩ : ∃ state, run boot reusedPipe = some state := ⟨_, rfl⟩
  exact ⟨state, ran, run_wakePipes ran⟩

/-- The numbers of an earlier pipe, and a write that fills the new one. -/
example : (run boot reusedPipe).map (fun state =>
    (pipeReady state.pipes 4, acceptedBytes (history boot [] reusedPipe) 0)) =
      some (true, 4096) := by
  rfl

end Chrysopolis.Beam.WakePipe
