import Mathlib.Algebra.Group.Nat.Defs
import Mathlib.Data.List.Basic
import Mathlib.Logic.Function.Basic

/-! Thread lifetime over recyclable cothread slots. A record outlives its slot until the
thread is joined or detached. The cothreads switch at any step here, so more often than
the cooperative scheduler lets them; what a step does the source does between two yields. -/

set_option autoImplicit false

namespace Chrysopolis.Beam.Pthread

/-- `LIBMICROKITCO_MAX_COTHREADS`; slot zero is the root. -/
def maxCothreads : Nat := 32

/-- `RUNTIME_CO_STACK_SIZE` -/
def coStackSize : Nat := 512 * 1024

def uintptrMax : Nat := 2 ^ 64 - 1

inductive Errno where
  | EINVAL | EAGAIN | ESRCH | EDEADLK
  deriving DecidableEq, Repr

/-! ## Tokens -/

/-- `PTHREAD_NULL` -/
def pthreadNull : Nat := 0

def runtimeThreadRootToken : Nat := 1

structure TokenCounter where
  next : Nat
  deriving DecidableEq, Repr

def runtimeTokenCounterNext (counter : TokenCounter) : Option (Nat × TokenCounter) :=
  if counter.next = uintptrMax then none else some (counter.next, ⟨counter.next + 1⟩)

/-- One for the root, and up to `maxCothreads` for cothreads without a record. -/
def bootTokens : TokenCounter := ⟨maxCothreads + 1⟩

/-! ## State -/

/-- `runtime_thread_record`, at a heap address; null pointers are zero. -/
structure Record where
  start : Nat
  arg : Nat
  result : Nat := 0
  token : Nat
  handle : Nat
  detached : Bool
  joinClaimed : Bool := false
  complete : Bool := false
  deriving DecidableEq, Repr

/-- `runtime_key_slot` -/
structure KeySlot where
  destructor : Nat := 0
  used : Bool := false
  deriving DecidableEq, Repr

/-- `RUNTIME_MAX_KEYS` and `RUNTIME_TSD_DESTRUCTOR_PASSES` -/
def maxKeys : Nat := 64
def tsdDestructorPasses : Nat := 4

/-- The locals of a `finish_current` under way. -/
structure Finish where
  record : Option Nat
  result : Nat
  pass : Nat := 0
  key : Nat := 0
  called : Bool := false
  deriving DecidableEq, Repr

/-- What a cothread does next. User code is the start routine, or a destructor called by
the first of the finishes on its stack. -/
inductive Control where
  | spawned (record : Nat)
  | running (stack : List Finish)
  | joining (record : Nat) (stack : List Finish)
  | finishing (finish : Finish) (stack : List Finish)
  | waking
  | parked
  deriving DecidableEq, Repr

/-- What has happened to the thread of a token. -/
structure Life where
  created : Nat := 0
  detached : Bool := false
  detaches : Nat := 0
  results : List Nat := []
  joins : List Nat := []
  frees : Nat := 0
  deriving DecidableEq, Repr

structure State where
  ready : Bool := false
  heap : Nat → Option Record := fun _ => none
  threadRecords : List Nat := []
  byHandle : Nat → Option Nat := fun _ => none
  tokens : TokenCounter := bootTokens
  keyTable : Nat → KeySlot := fun _ => {}
  coTsd : Nat → Nat → Nat := fun _ _ => 0
  /-- The live slots. -/
  cothreads : Nat → Option Control := fun slot => if slot = 0 then some (.running []) else none
  /-- A freed record was read or written. -/
  fault : Bool := false
  aborted : Bool := false
  life : Nat → Life := fun _ => {}

def boot : State := {}

namespace State

def setControl (state : State) (slot : Nat) (control : Control) : State :=
  { state with cothreads := Function.update state.cothreads slot (some control) }

def setRecord (state : State) (address : Nat) (record : Record) : State :=
  { state with heap := Function.update state.heap address (some record) }

def setLife (state : State) (token : Nat) (life : Life) : State :=
  { state with life := Function.update state.life token life }

def setRow (state : State) (handle : Nat) (row : Nat → Nat) : State :=
  { state with coTsd := Function.update state.coTsd handle row }

end State

/-! ## Records -/

def runtimeCoCurrent (state : State) (slot : Nat) : Nat :=
  if state.ready then slot else 0

def findRecord (state : State) (token : Nat) : Option (Nat × Record) :=
  state.threadRecords.findSome? fun address =>
    (state.heap address).bind fun record =>
      if record.token = token then some (address, record) else none

/-- Unlinks and frees a record of the list; any other is left alone. -/
def removeRecord (state : State) (address : Nat) : State :=
  if address ∈ state.threadRecords then
    match state.heap address with
    | none => { state with fault := true }
    | some record =>
        let life := state.life record.token
        { state.setLife record.token { life with frees := life.frees + 1 } with
          threadRecords := state.threadRecords.erase address
          heap := Function.update state.heap address none }
  else state

/-- `none` when the by-handle table names a freed record. -/
def pthreadSelf (state : State) (slot : Nat) : Option Nat :=
  let handle := runtimeCoCurrent state slot
  if handle = 0 then some runtimeThreadRootToken
  else
    match state.byHandle handle with
    | none => some (handle + 1)
    | some address => (state.heap address).map (·.token)

/-! ## Exit -/

/-- `finish_current`, to the destructors. -/
def finishCurrent (state : State) (slot result : Nat) (stack : List Finish) : State :=
  let handle := runtimeCoCurrent state slot
  if handle = 0 then state.setControl slot .parked
  else
    state.setControl slot (.finishing { record := state.byHandle handle, result } stack)

/-- `finish_current`, from the destructors to `thread_io_wake`. -/
def finishDone (state : State) (slot : Nat) (finish : Finish) : State :=
  let state := { state.setControl slot .waking with
    byHandle := Function.update state.byHandle slot none }
  match finish.record with
  | none => state
  | some address =>
      match state.heap address with
      | none => { state with fault := true }
      | some record =>
          let life := state.life record.token
          let state := (state.setRecord address
            { record with result := finish.result, complete := true }).setLife record.token
              { life with results := life.results ++ [finish.result] }
          if record.detached then removeRecord state address else state

/-- One step of `runtime_tls_finish_row`: a key, or the end of a pass. -/
def finishStep (state : State) (slot : Nat) (finish : Finish) (stack : List Finish) : State :=
  if finish.key < maxKeys then
    let value := state.coTsd slot finish.key
    let key := state.keyTable finish.key
    let next := { finish with key := finish.key + 1 }
    if key.used ∧ value ≠ 0 ∧ key.destructor ≠ 0 then
      (state.setRow slot (Function.update (state.coTsd slot) finish.key 0)).setControl slot
        (.running ({ next with called := true } :: stack))
    else state.setControl slot (.finishing next stack)
  else if finish.called ∧ finish.pass + 1 < tsdDestructorPasses then
    state.setControl slot
      (.finishing { finish with pass := finish.pass + 1, key := 0, called := false } stack)
  else finishDone (state.setRow slot fun _ => 0) slot finish

/-! ## Calls -/

/-- The words of `pthread_attr_t` that are read. -/
structure Attr where
  detachState : Int
  stackSize : Nat
  deriving DecidableEq, Repr

def pthreadCreateJoinable : Int := 0
def pthreadCreateDetached : Int := 1

def attrDetached : Option Attr → Except Errno Bool
  | none => .ok false
  | some attr =>
      if attr.detachState ≠ pthreadCreateJoinable ∧ attr.detachState ≠ pthreadCreateDetached then
        .error .EINVAL
      else if coStackSize < attr.stackSize then .error .EINVAL
      else .ok (attr.detachState == pthreadCreateDetached)

/-- The arguments of `pthread_create`, and what `malloc` and the cothread library answer. -/
structure Create where
  nullThread : Bool := false
  attr : Option Attr := none
  start : Nat
  arg : Nat
  malloc : Option Nat
  spawn : Option Nat
  deriving DecidableEq, Repr

/-- The token of the new thread, or `none` after an abort. -/
def pthreadCreate (state : State) (call : Create) : Option (State × Except Errno Nat) :=
  if call.nullThread ∨ call.start = 0 then some (state, .error .EINVAL)
  else if state.ready = false then some (state, .error .EAGAIN)
  else
    match attrDetached call.attr with
    | .error errno => some (state, .error errno)
    | .ok detached =>
        match call.malloc with
        | none => some (state, .error .EAGAIN)
        | some address =>
            match runtimeTokenCounterNext state.tokens with
            | none => some (state, .error .EAGAIN)
            | some (token, tokens) =>
                match call.spawn with
                | none => some ({ state with tokens }, .error .EAGAIN)
                | some handle =>
                    if ¬ handle < maxCothreads ∨ handle = 0 ∨ (state.byHandle handle).isSome then
                      none
                    else
                      let record : Record :=
                        { start := call.start, arg := call.arg, token, handle, detached }
                      let life := state.life token
                      let state := (((state.setControl handle (.spawned address)).setRecord
                        address record).setRow handle fun _ => 0).setLife token
                          { life with created := life.created + 1, detached }
                      some ({ state with
                        tokens
                        threadRecords := address :: state.threadRecords
                        byHandle := Function.update state.byHandle handle (some address) },
                        .ok token)

/-- `pthread_join`, to the wait; `none` when it reads a freed record. -/
def pthreadJoin (state : State) (slot thread : Nat) : Option (State × Except Errno Nat) :=
  if thread = pthreadNull ∨ thread = runtimeThreadRootToken then some (state, .error .ESRCH)
  else
    match findRecord state thread with
    | none => some (state, .error .ESRCH)
    | some (address, record) =>
        match pthreadSelf state slot with
        | none => none
        | some self =>
            if thread = self then some (state, .error .EDEADLK)
            else if record.detached ∨ record.joinClaimed then some (state, .error .EINVAL)
            else some (state.setRecord address { record with joinClaimed := true }, .ok address)

/-- One look of the wait; a joiner of a complete thread takes its result and frees it. -/
def joinCheck (state : State) (slot address : Nat) (stack : List Finish) : State :=
  match state.heap address with
  | none => { state with fault := true }
  | some record =>
      if record.complete then
        let life := state.life record.token
        removeRecord ((state.setControl slot (.running stack)).setLife record.token
          { life with joins := life.joins ++ [record.result] }) address
      else state

def pthreadDetach (state : State) (thread : Nat) : State × Except Errno Unit :=
  match findRecord state thread with
  | none => (state, .error .ESRCH)
  | some (address, record) =>
      if record.detached ∨ record.joinClaimed then (state, .error .EINVAL)
      else
        let life := state.life record.token
        let state := (state.setRecord address { record with detached := true }).setLife
          record.token { life with detached := true, detaches := life.detaches + 1 }
        (if record.complete then removeRecord state address else state, .ok ())

def pthreadKeyCreate (state : State) (destructor : Nat) : State × Except Errno Nat :=
  match (List.range maxKeys).find? fun key => !(state.keyTable key).used with
  | none => (state, .error .EAGAIN)
  | some key =>
      ({ state with
        coTsd := fun handle => Function.update (state.coTsd handle) key 0
        keyTable := Function.update state.keyTable key { destructor, used := true } }, .ok key)

def keyValid (state : State) (key : Nat) : Bool :=
  key < maxKeys && (state.keyTable key).used

def pthreadKeyDelete (state : State) (key : Nat) : State × Except Errno Unit :=
  if keyValid state key then
    ({ state with
      keyTable := Function.update state.keyTable key {}
      coTsd := fun handle => Function.update (state.coTsd handle) key 0 }, .ok ())
  else (state, .error .EINVAL)

def pthreadSetspecific (state : State) (slot key value : Nat) : State × Except Errno Unit :=
  if keyValid state key then
    let handle := runtimeCoCurrent state slot
    (state.setRow handle (Function.update (state.coTsd handle) key value), .ok ())
  else (state, .error .EINVAL)

/-! ## Steps -/

inductive Action where
  | threadInit
  | create (call : Create)
  | join (thread : Nat)
  | detach (thread : Nat)
  | keyCreate (destructor : Nat)
  | keyDelete (key : Nat)
  | setspecific (key value : Nat)
  | exit (result : Nat)
  /-- The user code returns: the start routine to the trampoline, a destructor to its walk. -/
  | leave (result : Nat)
  /-- A cothread goes on where it stopped outside user code. -/
  | resume
  deriving DecidableEq, Repr

/-- `malloc` answers with memory that is not in use, and the library with a slot that is
not. -/
def answers (state : State) (call : Create) : Bool :=
  (call.malloc.all fun address => (state.heap address).isNone) &&
    call.spawn.all fun handle =>
      0 < handle && handle < maxCothreads && (state.cothreads handle).isNone

def returned (slot result : Nat) (state : State) : List Finish → Option State
  | [] => if slot = 0 then none else some (finishCurrent state slot result [])
  | finish :: stack => some (state.setControl slot (.finishing finish stack))

/-- One step of the cothread of a slot. -/
def step (state : State) (slot : Nat) (action : Action) : Option State :=
  if state.fault ∨ state.aborted then none
  else
    match state.cothreads slot, action with
    | some (.running _), .threadInit => if slot = 0 then some { state with ready := true } else none
    | some (.running _), .create call =>
        if answers state call then
          match pthreadCreate state call with
          | none => some { state with aborted := true }
          | some (next, _) => some next
        else none
    | some (.running stack), .join thread =>
        match pthreadJoin state slot thread with
        | none => some { state with fault := true }
        | some (next, .error _) => some next
        | some (next, .ok address) => some (next.setControl slot (.joining address stack))
    | some (.running _), .detach thread => some (pthreadDetach state thread).1
    | some (.running _), .keyCreate destructor => some (pthreadKeyCreate state destructor).1
    | some (.running _), .keyDelete key => some (pthreadKeyDelete state key).1
    | some (.running _), .setspecific key value => some (pthreadSetspecific state slot key value).1
    | some (.running stack), .exit result => some (finishCurrent state slot result stack)
    | some (.running stack), .leave result => returned slot result state stack
    | some (.spawned address), .resume =>
        match state.heap address with
        | none => some { state with fault := true }
        | some _ => some (state.setControl slot (.running []))
    | some (.joining address stack), .resume => some (joinCheck state slot address stack)
    | some (.finishing finish stack), .resume => some (finishStep state slot finish stack)
    | some .waking, .resume =>
        some { state with cothreads := Function.update state.cothreads slot none }
    | _, _ => none

/-- A run: the slot that takes each step, and the step. -/
def run : State → List (Nat × Action) → Option State
  | state, [] => some state
  | state, (slot, action) :: rest => (step state slot action).bind fun next => run next rest

end Chrysopolis.Beam.Pthread
