import Chrysopolis.Beam.Pthread

/-! What a run leaves in the key table and the value rows, told by its events. A past is
newest first. -/

set_option autoImplicit false

namespace Chrysopolis.Beam.Pthread

def pthreadGetspecific (state : State) (slot key : Nat) : Nat :=
  if keyValid state key then state.coTsd (runtimeCoCurrent state slot) key else 0

/-! ## Events -/

/-- What a step does to keys, rows and exits. -/
inductive Event where
  | threadCreated (slot : Nat)
  | keyCreated (key destructor : Nat)
  | keyDeleted (key : Nat)
  | set (slot key value : Nat)
  /-- `finish_current` is called, and a round of destructors begins. -/
  | exited (slot : Nat)
  | round (slot : Nat)
  /-- A value is cleared and passed to its key's destructor. -/
  | handed (slot key value destructor : Nat)
  /-- The row is nulled behind the last round. -/
  | cleared (slot : Nat)
  deriving DecidableEq, Repr

def exitEvents (state : State) (slot : Nat) : List Event :=
  if runtimeCoCurrent state slot = 0 then [] else [.round slot, .exited slot]

def walkEvents (state : State) (slot : Nat) (finish : Finish) : List Event :=
  if finish.key < maxKeys then
    let value := state.coTsd slot finish.key
    let key := state.keyTable finish.key
    if key.used ∧ value ≠ 0 ∧ key.destructor ≠ 0 then
      [.handed slot finish.key value key.destructor]
    else []
  else if finish.called ∧ finish.pass + 1 < tsdDestructorPasses then [.round slot]
  else [.cleared slot]

def createEvents (state : State) (call : Create) : List Event :=
  match pthreadCreate state call, call.spawn with
  | some (_, .ok _), some handle => [.threadCreated handle]
  | _, _ => []

/-- The events of a call that went well. -/
def okEvents {α : Type} (event : α → Event) : Except Errno α → List Event
  | .ok result => [event result]
  | .error _ => []

def events (state : State) (slot : Nat) (action : Action) : List Event :=
  match state.cothreads slot, action with
  | some (.running _), .create call => createEvents state call
  | some (.running _), .keyCreate destructor =>
      okEvents (.keyCreated · destructor) (pthreadKeyCreate state destructor).2
  | some (.running _), .keyDelete key =>
      okEvents (fun _ => .keyDeleted key) (pthreadKeyDelete state key).2
  | some (.running _), .setspecific key value =>
      okEvents (fun _ => .set slot key value) (pthreadSetspecific state slot key value).2
  | some (.running _), .exit _ => exitEvents state slot
  | some (.running []), .leave _ => exitEvents state slot
  | some (.finishing finish _), .resume => walkEvents state slot finish
  | _, _ => []

def history (state : State) (past : List Event) : List (Nat × Action) → List Event
  | [] => past
  | (slot, action) :: rest =>
      match step state slot action with
      | none => past
      | some next => history next (events state slot action ++ past) rest

/-! ## What the past says -/

/-- The event ends what a thread's slot held for a key. -/
def Event.touches (slot key : Nat) : Event → Bool
  | .threadCreated other | .cleared other => slot == other
  | .keyCreated other _ | .keyDeleted other => key == other
  | .set other otherKey _ | .handed other otherKey .. => slot == other && key == otherKey
  | .exited _ | .round _ => false

def Event.ofKey (key : Nat) : Event → Bool
  | .keyCreated other _ | .keyDeleted other => key == other
  | _ => false

def lastTouch (past : List Event) (slot key : Nat) : Option Event :=
  past.find? (·.touches slot key)

/-- The value last set by the thread now in the slot, under the key as last created, and not
yet taken by the thread's own exit; null if there is none. -/
def lastSet (past : List Event) (slot key : Nat) : Nat :=
  match lastTouch past slot key with
  | some (.set _ _ value) => value
  | _ => 0

/-- The key as last created or deleted. -/
def lastKey (past : List Event) (key : Nat) : KeySlot :=
  match past.find? (·.ofKey key) with
  | some (.keyCreated _ destructor) => { destructor, used := true }
  | _ => {}

/-- The rounds of destructors since the last exit from the slot. -/
def rounds (past : List Event) (slot : Nat) : Nat :=
  (past.takeWhile (· != .exited slot)).count (.round slot)

/-- The value a destructor gets: the last thing that happened to it is that the thread set it,
and the destructor is the one its key was last created with. -/
structure HandsOver (past : List Event) (slot key value destructor : Nat) : Prop where
  set : lastTouch past slot key = some (.set slot key value)
  value : value ≠ 0
  key : lastKey past key = { destructor, used := true }
  destructor : destructor ≠ 0

end Chrysopolis.Beam.Pthread
