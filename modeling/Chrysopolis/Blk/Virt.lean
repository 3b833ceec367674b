import Mathlib.Logic.Function.Basic
import Mathlib.Data.List.FinRange

/-! The block virtualiser as patched for driver restarts, over a driver whose init discards the
request queue and Root, which restarts that driver and may stop it for good. The driver outranks
the virtualiser, so it may run between any two of the virtualiser's steps. -/

set_option autoImplicit false

namespace Chrysopolis.Blk

-- `DRIVER_MAX_NUM_BUFFERS` and `config.num_clients`
variable {buffers clients : Nat}

/-- A client's request. Its serial number tells requests apart and is history. -/
structure Request (clients : Nat) where
  client : Fin clients
  reqId : UInt32
  serial : Nat
  deriving DecidableEq, Repr

/-- Who allocated an id: the partition scan, or `handle_client` for a request. -/
inductive Owner (clients : Nat) where
  | scan
  | client (request : Request clients)
  deriving DecidableEq, Repr

/-- An entry of the driver's request queue. The owner it was enqueued for is history. -/
structure Entry (buffers clients : Nat) where
  id : Fin buffers
  owner : Owner clients
  deriving DecidableEq, Repr

/-- The status of a response with its count of blocks, or `BLK_RESP_ERR_UNSPEC` with none. -/
inductive Status where
  | reported (status : UInt32) (successCount : UInt16)
  | errUnspec
  deriving DecidableEq, Repr

/-- An entry of the driver's response queue. -/
structure Completion (buffers clients : Nat) where
  entry : Entry buffers clients
  status : Status
  deriving DecidableEq, Repr

/-- What a client's response queue holds. -/
structure Response where
  reqId : UInt32
  status : Status
  deriving DecidableEq, Repr

/-- Where the driver stands. -/
inductive DriverPhase where
  /-- It has faulted, and Root has not restarted it. -/
  | dead
  /-- At the entry of `init`, before ready is cleared. -/
  | entry
  /-- In the loop that discards the request queue. -/
  | discarding
  /-- The device is initialised, before the generation is advanced. -/
  | bumping
  /-- Before ready is set. -/
  | readying
  /-- Before the virtualiser is notified. -/
  | announcing
  | serving
  /-- Root has stopped it for good. -/
  | stopped
  deriving DecidableEq, Repr

/-- Why `handle_driver` drains the response queue. -/
inductive Drain where
  | notified
  | restarted
  | gone
  deriving DecidableEq, Repr

/-- Where the virtualiser's thread stands. -/
inductive Phase (buffers clients : Nat) where
  /-- In the loop of `init` that waits for ready. -/
  | booting
  /-- Before `init` samples the generation. -/
  | sampling
  /-- In the partition scan. -/
  | scanning
  | idle
  /-- In `notified` on the driver's channel, before ready is read. -/
  | checking
  /-- Before the generation is read. -/
  | comparing
  /-- In `notified`, past what the patch adds. -/
  | dispatching
  /-- At the head of the loop of `handle_driver`. -/
  | draining (why : Drain)
  /-- A response is dequeued, before its id is freed. -/
  | matching (why : Drain) (completion : Completion buffers clients)
  /-- Its id is freed, before the client's response is enqueued. -/
  | forwarding (why : Drain) (owner : Owner clients) (status : Status) (reqbk : Request clients)
  /-- In the sweep of `blk_reconcile_outstanding`, before this id. -/
  | sweeping (why : Drain) (next : Nat)
  /-- At the head of a loop of `handle_client`. -/
  | polling (client : Fin clients)
  /-- A request is dequeued, before it is checked. -/
  | taken (request : Request clients)
  /-- It has an id, before it is enqueued for the driver. -/
  | enqueueing (request : Request clients) (id : Fin buffers)
  /-- It is failed, before the response is enqueued. -/
  | refusing (request : Request clients) (status : Status)
  /-- An assertion has failed. -/
  | faulted
  deriving DecidableEq, Repr

inductive Channel (clients : Nat) where
  | driver
  /-- `BLK_VIRT_DRIVER_GONE_CH` -/
  | gone
  | client (client : Fin clients)
  deriving DecidableEq, Repr

/-- What happens to ids and to requests. -/
inductive Event (buffers clients : Nat) where
  | allocated (id : Fin buffers) (owner : Owner clients)
  /-- A response of the driver for this id is dequeued. -/
  | matched (id : Fin buffers) (owner : Owner clients)
  | freed (id : Fin buffers)
  /-- A client is answered, on behalf of the owner a forwarded response was made for. -/
  | answered (request : Request clients) (status : Status) (source : Option (Owner clients))
  deriving DecidableEq, Repr

structure State (buffers clients : Nat) where
  /-- The driver's request queue, and its response queue. -/
  requests : List (Entry buffers clients)
  responses : List (Completion buffers clients)
  ready : Bool
  generation : UInt64
  driver : DriverPhase
  /-- What this instance of the driver has dequeued and not answered. -/
  held : List (Entry buffers clients)
  clientRequests : Fin clients → List (Request clients)
  clientResponses : Fin clients → List Response
  /-- `ialloc_in_use` -/
  inUse : Fin buffers → Bool
  reqsbk : Fin buffers → Request clients
  reqsbkValid : Fin buffers → Bool
  lastSeenGeneration : UInt64
  driverGone : Bool
  initialised : Bool
  /-- The id of the partition scan's outstanding request. -/
  scan : Option (Fin buffers)
  phase : Phase buffers clients
  pending : Channel clients → Bool
  /-- The serial number of the next request. -/
  nextSerial : Nat
  /-- The events since boot, the newest first. -/
  log : List (Event buffers clients)

/-- The system at boot, with what `.bss` holds for a request. -/
def boot (zeroed : Request clients) : State buffers clients where
  requests := []
  responses := []
  ready := false
  generation := 0
  driver := .entry
  held := []
  clientRequests := fun _ => []
  clientResponses := fun _ => []
  inUse := fun _ => false
  reqsbk := fun _ => zeroed
  reqsbkValid := fun _ => false
  lastSeenGeneration := 0
  driverGone := false
  initialised := false
  scan := none
  phase := .booting
  pending := fun _ => false
  nextSerial := 0
  log := []

inductive Action (buffers clients : Nat) where
  /-- The virtualiser's thread takes its next step. -/
  | advance
  /-- The partition scan sends a request, under a free id. -/
  | scanAsk (id : Fin buffers)
  /-- It takes a response. -/
  | scanAnswer
  | scanDone
  | scanWait
  | deliver (channel : Channel clients)
  /-- `notified` calls `handle_driver`, `handle_client`, or returns. -/
  | drain
  | serve (client : Fin clients)
  | finish
  /-- `handle_client` passes a request on under a free id, or refuses it. -/
  | allocate (id : Fin buffers)
  | refuse (status : UInt32)
  /-- The driver takes the next step of its `init`. -/
  | driverInit
  /-- It dequeues a request, answers one, or faults. -/
  | take
  | answer (completion : Completion buffers clients)
  | fault
  /-- Root restarts the driver, or stops it for good. -/
  | restart
  | stop
  /-- A client sends a request, or takes a response. -/
  | ask (client : Fin clients) (reqId : UInt32)
  | collect (client : Fin clients)
  deriving DecidableEq, Repr

-- The capacities of the driver's request queue and of the clients' response queues.
variable (depth : Nat) (room : Fin clients → Nat)

/-! ### The driver and Root -/

/-- One step of the patched `init`. -/
def driverInit (state : State buffers clients) : Option (State buffers clients) :=
  match state.driver with
  | .entry => some { state with ready := false, driver := .discarding }
  | .discarding =>
      match state.requests with
      | [] => some { state with driver := .bumping }
      | _ :: rest => some { state with requests := rest }
  | .bumping => some { state with generation := state.generation + 1, driver := .readying }
  | .readying => some { state with ready := true, driver := .announcing }
  | .announcing =>
      some { state with
        driver := .serving
        pending := Function.update state.pending .driver true }
  | _ => none

/-- The driver's instance is lost, with what it holds. -/
def State.lose (state : State buffers clients) (driver : DriverPhase) : State buffers clients :=
  { state with driver, held := [] }

/-! ### The virtualiser -/

/-- `blk_enqueue_resp` on a client's queue; none when it is full. -/
def State.respond (state : State buffers clients) (request : Request clients) (status : Status)
    (source : Option (Owner clients)) : Option (State buffers clients) :=
  if (state.clientResponses request.client).length < room request.client then
    some { state with
      clientResponses := Function.update state.clientResponses request.client
        (state.clientResponses request.client ++ [⟨request.reqId, status⟩])
      log := .answered request status source :: state.log }
  else none

/-- `assert(!err)` -/
def State.assert (state : State buffers clients) (next : Option (State buffers clients)) :
    State buffers clients :=
  next.getD { state with phase := .faulted }

def State.allocate (state : State buffers clients) (id : Fin buffers) (owner : Owner clients) :
    State buffers clients :=
  { state with
    inUse := Function.update state.inUse id true
    log := .allocated id owner :: state.log }

/-- `ialloc_free`, with the entry of `reqsbk_valid` cleared. -/
def State.free (state : State buffers clients) (id : Fin buffers) : State buffers clients :=
  { state with
    inUse := Function.update state.inUse id false
    reqsbkValid := Function.update state.reqsbkValid id false
    log := .freed id :: state.log }

/-- Where `notified` goes on after the checks of the patch. -/
def State.proceed (state : State buffers clients) : State buffers clients :=
  { state with phase := if state.initialised then .dispatching else .scanning }

/-- The head of the loop of `handle_driver`. -/
def handleDriver (state : State buffers clients) (why : Drain) : State buffers clients :=
  match state.responses with
  | completion :: rest => { state with responses := rest, phase := .matching why completion }
  | [] =>
      { state with phase := if why = .notified then .dispatching else .sweeping why 0 }

/-- `ialloc_free` of a response's id, which fails on a free one. -/
def matchResponse (state : State buffers clients) (why : Drain)
    (completion : Completion buffers clients) : State buffers clients :=
  let entry := completion.entry
  let matched := { state with log := .matched entry.id entry.owner :: state.log }
  if state.inUse entry.id then
    { matched.free entry.id with
      phase := .forwarding why entry.owner completion.status (state.reqsbk entry.id) }
  else { matched with phase := .faulted }

/-- One id of the sweep of `blk_reconcile_outstanding`. -/
def reconcileId (state : State buffers clients) (id : Fin buffers) :
    Option (State buffers clients) :=
  if state.inUse id then
    if state.reqsbkValid id then
      (state.respond room (state.reqsbk id) .errUnspec none).map (·.free id)
    else some (state.free id)
  else some state

/-- The sweep. The notified clients look on their own. -/
def blkReconcileOutstanding (state : State buffers clients) (why : Drain) (next : Nat) :
    State buffers clients :=
  if bound : next < buffers then
    state.assert ((reconcileId room state ⟨next, bound⟩).map fun swept =>
      { swept with phase := .sweeping why (next + 1) })
  else { state with phase := if why = .gone then .idle else .dispatching }

/-- The head of both loops of `handle_client`. -/
def handleClient (state : State buffers clients) (client : Fin clients) : State buffers clients :=
  match state.clientRequests client with
  | [] => { state with phase := .dispatching }
  | request :: rest =>
      let dequeued :=
        { state with clientRequests := Function.update state.clientRequests client rest }
      if state.driverGone then
        if (state.clientResponses client).length < room client then
          { dequeued with phase := .refusing request .errUnspec }
        else { state with phase := .dispatching }
      else if state.requests.length < depth ∧ ∃ id, state.inUse id = false then
        { dequeued with phase := .taken request }
      else { state with phase := .dispatching }

/-- One step of the virtualiser's thread, by where it stands. -/
def advance (state : State buffers clients) : Option (State buffers clients) :=
  match state.phase with
  | .booting => if state.ready then some { state with phase := .sampling } else none
  | .sampling =>
      some { state with lastSeenGeneration := state.generation, phase := .scanning }
  | .checking =>
      some (if state.ready then { state with phase := .comparing } else state.proceed)
  | .comparing =>
      if state.generation ≠ state.lastSeenGeneration then
        let seen := { state with lastSeenGeneration := state.generation }
        some (if state.initialised then { seen with phase := .draining .restarted }
          else seen.proceed)
      else some state.proceed
  | .draining why => some (handleDriver state why)
  | .matching why completion => some (matchResponse state why completion)
  | .forwarding why owner status reqbk =>
      some (state.assert ((state.respond room reqbk status (some owner)).map fun next =>
        { next with phase := .draining why }))
  | .sweeping why next => some (blkReconcileOutstanding room state why next)
  | .polling client => some (handleClient depth room state client)
  | .enqueueing request id =>
      some (if state.requests.length < depth then
          { state with
            requests := state.requests ++ [⟨id, .client request⟩]
            phase := .polling request.client }
        else { state with phase := .faulted })
  | .refusing request status =>
      some (state.assert ((state.respond room request status none).map fun next =>
        { next with phase := .polling request.client }))
  | .scanning | .idle | .dispatching | .taken _ | .faulted => none

/-! ### The partition scan -/

/-- `virt_partition_init` sends one request at a time. -/
def scanAsk (state : State buffers clients) (id : Fin buffers) : Option (State buffers clients) :=
  if state.scan = none ∧ state.inUse id = false ∧ state.requests.length < depth then
    some { state.allocate id .scan with
      requests := state.requests ++ [⟨id, .scan⟩]
      scan := some id }
  else none

/-- It takes the response and frees its id. -/
def scanAnswer (state : State buffers clients) : Option (State buffers clients) :=
  match state.responses with
  | [] => none
  | completion :: rest =>
      let entry := completion.entry
      let matched :=
        { state with responses := rest, log := .matched entry.id entry.owner :: state.log }
      some (if state.inUse entry.id then { matched.free entry.id with scan := none }
        else { matched with phase := .faulted })

/-! ### Steps -/

/-- The start of `notified` on a channel. -/
def notified (state : State buffers clients) (channel : Channel clients) :
    State buffers clients :=
  let taken := { state with pending := Function.update state.pending channel false }
  match channel with
  | .gone =>
      if state.initialised then { taken with driverGone := true, phase := .draining .gone }
      else taken
  | .driver => { taken with phase := .checking }
  | .client _ => taken.proceed

def step (state : State buffers clients) :
    Action buffers clients → Option (State buffers clients)
  | .advance => advance depth room state
  | .scanAsk id => if state.phase = .scanning then scanAsk depth state id else none
  | .scanAnswer => if state.phase = .scanning then scanAnswer state else none
  | .scanDone =>
      if state.phase = .scanning ∧ state.scan = none then
        some { state with initialised := true, phase := .dispatching }
      else none
  | .scanWait => if state.phase = .scanning then some { state with phase := .idle } else none
  | .deliver channel =>
      if state.phase = .idle ∧ state.pending channel = true then some (notified state channel)
      else none
  | .drain =>
      if state.phase = .dispatching then some { state with phase := .draining .notified }
      else none
  | .serve client =>
      if state.phase = .dispatching then some { state with phase := .polling client } else none
  | .finish => if state.phase = .dispatching then some { state with phase := .idle } else none
  | .allocate id =>
      match state.phase with
      | .taken request =>
          if state.inUse id then none
          else some { state.allocate id (.client request) with
            reqsbk := Function.update state.reqsbk id request
            reqsbkValid := Function.update state.reqsbkValid id true
            phase := .enqueueing request id }
      | _ => none
  | .refuse status =>
      match state.phase with
      | .taken request => some { state with phase := .refusing request (.reported status 0) }
      | _ => none
  | .driverInit => driverInit state
  | .take =>
      match state.driver, state.requests with
      | .serving, entry :: rest =>
          some { state with requests := rest, held := entry :: state.held }
      | _, _ => none
  | .answer completion =>
      if state.driver = .serving ∧ completion.entry ∈ state.held then
        some { state with
          held := state.held.erase completion.entry
          responses := state.responses ++ [completion]
          pending := Function.update state.pending .driver true }
      else none
  | .fault => if state.driver = .stopped then none else some (state.lose .dead)
  | .restart => if state.driver = .stopped then none else some (state.lose .entry)
  | .stop =>
      if state.driver = .stopped then none
      else some { state.lose .stopped with
        pending := Function.update state.pending .gone true }
  | .ask client reqId =>
      some { state with
        clientRequests := Function.update state.clientRequests client
          (state.clientRequests client ++ [⟨client, reqId, state.nextSerial⟩])
        pending := Function.update state.pending (.client client) true
        nextSerial := state.nextSerial + 1 }
  | .collect client =>
      match state.clientResponses client with
      | [] => none
      | _ :: rest =>
          some { state with
            clientResponses := Function.update state.clientResponses client rest }

def run : State buffers clients → List (Action buffers clients) → Option (State buffers clients)
  | state, [] => some state
  | state, action :: rest => (step depth room state action).bind fun next => run next rest

end Chrysopolis.Blk
