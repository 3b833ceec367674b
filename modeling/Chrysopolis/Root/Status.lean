import Chrysopolis.Root.Policy

/-! Writer side of Root's status page. Observations are recorded in state and
reach the page in one publication between an odd and the next even sequence. -/

set_option autoImplicit false

namespace Chrysopolis.Root

open Chrysopolis.Abi
open Chrysopolis.Support

structure RootStatusObservation where
  faultLabel : UInt32 := 0
  faultFlags : UInt16 := 0
  faultMr0 : UInt64 := 0
  faultMr1 : UInt64 := 0
  lastFaultTicks : UInt64 := 0
  lastRestartTicks : UInt64 := 0
  bootTicks : UInt64 := 0
  cumulativeDownTicks : UInt64 := 0
  downSinceTicks : UInt64 := 0
  downOpen : Bool := false
  deriving DecidableEq, Repr

structure RootStatusState where
  observations : RootChild → RootStatusObservation := fun _ => {}
  presentMask : UInt64 := 0
  seq : UInt64 := 0
  eventHead : UInt64 := 0
  rootGeneration : UInt64 := 0
  beamIncarnation : UInt64 := 0
  frequency : UInt64 := 0
  /-- The policy rows publish. -/
  effectiveBudget : RootChild → UInt32 := fun _ => 0
  desired : RootChild → RootDesired := fun _ => .unset
  appliedGeneration : UInt64 := 0
  appliedBank : UInt32 := 0
  /-- The next publish rewrites every row. -/
  policyDirty : Bool := false
  enabled : Bool := false
  /-- Set when publication stops: a counter would wrap, or invalid arguments. -/
  exhausted : Bool := false
  misused : Bool := false

/-- A store of one status page field. -/
abbrev StatusStore := StatusField × Nat

def present (state : RootStatusState) (child : RootChild) : Bool :=
  maskBit state.presentMask child.val

def faultWordFlags (count : UInt64) : UInt16 :=
  (if count ≥ 1 then faultMr0Valid else 0) ||| (if count ≥ 2 then faultMr1Valid else 0)

/-- Every byte of the page except the sequence word. -/
def clearPage (page : Memory) : Memory := fun position =>
  if position < statusPageSize ∧ ¬ (16 ≤ position ∧ position < 24) then 0 else page position

/-- The stores of a header field. -/
def headerStore (field : RootStatusHeaderField) (value : Nat) : StatusStore :=
  (.header field, value)

/-- One event slot. -/
def eventStores (slot : Fin eventCount) (event : RootEvent) : List StatusStore :=
  [ (.event slot .ticks, event.ticks.toNat), (.event slot .kind, event.kind.tag),
    (.event slot .child, event.child.toNat), (.event slot .flags, event.flags.toNat),
    (.event slot .detail, event.detail.toNat), (.event slot .a, event.a.toNat),
    (.event slot .b, event.b.toNat) ]

/-- The boot event is the first event of every page. -/
def bootEvent (state : RootStatusState) (stamp : UInt64) : RootEvent :=
  { ticks := stamp
    kind := .boot
    child := rootEventNoChild
    a := state.rootGeneration
    b := state.beamIncarnation }

/-- The stores `root_status_init` makes after clearing the page, in order. -/
def initStores (state : RootStatusState) (stamp : UInt64) : List StatusStore :=
  [ headerStore .magic magicStatus, headerStore .abiVersion abiVersion,
    headerStore .childCount childCount,
    headerStore .rootGeneration state.rootGeneration.toNat,
    headerStore .beamIncarnation state.beamIncarnation.toNat,
    headerStore .nowTicks stamp.toNat, headerStore .cntfrq state.frequency.toNat ] ++
  ((List.finRange childCount).filter (present state)).flatMap (fun child =>
    [ (.child child .state, RootChildWireState.live.tag),
      (.child child .desired, (state.desired child).tag),
      (.child child .effectiveBudget, (state.effectiveBudget child).toNat),
      (.child child .bootTicks, stamp.toNat) ]) ++
  eventStores (eventSlot 0) (bootEvent state stamp) ++
  [ headerStore .eventHead 1 ]

/-- `root_status_init`: the reset state, and the cleared and filled page when one
is mapped. -/
def rootStatusInit (page : Option Memory) (presentMask now frequency : UInt64)
    (budget : RootChild → UInt32) : RootStatusState × Option Memory :=
  let declared := fun (child : RootChild) => maskBit presentMask child.val
  let reset : RootStatusState :=
    { presentMask
      effectiveBudget := fun child => if declared child then budget child else 0
      desired := fun child => if declared child then .running else .unset
      -- Root is not restartable in this topology.
      rootGeneration := 1
      beamIncarnation := 1
      frequency }
  match page with
  | none => (reset, none)
  | some bytes =>
      let stamp := if frequency ≠ 0 then now else 0
      let cleared := clearPage (statusLayout.assign bytes [headerStore .seq 0])
      let filled := statusLayout.assign cleared (initStores reset stamp)
      ({ reset with
        observations := fun child => { bootTicks := if declared child then stamp else 0 }
        eventHead := 1
        seq := 2
        enabled := true },
        some (statusLayout.assign filled [headerStore .seq 2]))

/-- The observation of one present child changes. -/
def observe (state : RootStatusState) (child : RootChild)
    (change : RootStatusObservation → RootStatusObservation) : RootStatusState :=
  if present state child then
    { state with
      observations := Function.update state.observations child
        (change (state.observations child)) }
  else state

/-- A down interval opens unless one is open or the clock is lost. -/
def openDown (observation : RootStatusObservation) (now : UInt64) (clockValid : Bool) :
    RootStatusObservation :=
  if clockValid && !observation.downOpen then
    { observation with downSinceTicks := now, downOpen := true }
  else observation

/-- A fault label in the 32-bit wire field; zero records an unrepresentable one. -/
def wireLabel (label : UInt64) : UInt32 := if label ≤ 0xFFFFFFFF then label.toUInt32 else 0

def rootStatusNoteFault (state : RootStatusState) (child : RootChild)
    (label count mr0 mr1 now : UInt64) (clockValid : Bool) : RootStatusState :=
  observe state child fun observation =>
    openDown
      { observation with
        faultLabel := wireLabel label
        faultFlags := faultWordFlags count
        faultMr0 := if count ≥ 1 then mr0 else 0
        faultMr1 := if count ≥ 2 then mr1 else 0
        lastFaultTicks := if clockValid then now else 0 }
      now clockValid

/-- An open down interval closes; a counter that went backwards adds nothing. -/
def closeDown (observation : RootStatusObservation) (now : UInt64) (clockValid : Bool) :
    RootStatusObservation :=
  if observation.downOpen then
    { observation with
      cumulativeDownTicks :=
        if clockValid && now ≥ observation.downSinceTicks then
          let elapsed := now - observation.downSinceTicks
          if elapsed > 0xFFFFFFFFFFFFFFFF - observation.cumulativeDownTicks then
            0xFFFFFFFFFFFFFFFF
          else observation.cumulativeDownTicks + elapsed
        else observation.cumulativeDownTicks
      downOpen := false }
  else observation

def rootStatusNoteRestart (state : RootStatusState) (child : RootChild) (now : UInt64)
    (clockValid beamRestart : Bool) : RootStatusState :=
  if present state child then
    let noted := observe state child fun observation =>
      closeDown { observation with lastRestartTicks := if clockValid then now else 0 }
        now clockValid
    if beamRestart then
      if state.beamIncarnation = 0xFFFFFFFFFFFFFFFF then
        { noted with enabled := false, exhausted := true }
      else { noted with beamIncarnation := state.beamIncarnation + 1 }
    else noted
  else state

def rootStatusNoteGone (state : RootStatusState) (child : RootChild) (now : UInt64)
    (clockValid : Bool) : RootStatusState :=
  observe state child fun observation => openDown observation now clockValid

def rootStatusNotePolicy (state : RootStatusState) (generation : UInt64) (bank : UInt32)
    (budget : RootChild → UInt32) (desired : RootChild → RootDesired) : RootStatusState :=
  { state with
    effectiveBudget := fun child => if present state child then budget child else 0
    desired := fun child => if present state child then desired child else .unset
    appliedGeneration := generation
    appliedBank := bank
    policyDirty := true }

/-- The wire state of a record. -/
def wireState (record : RootChildRecord) : RootChildWireState :=
  if record.state = .gone then .gone else .live

def rowFlags (observation : RootStatusObservation) : UInt16 :=
  observation.faultFlags ||| (if observation.downOpen then downIntervalOpen else 0)

/-- The row of a child with a record. -/
def rowStores (state : RootStatusState) (child : RootChild) (record : RootChildRecord) :
    List StatusStore :=
  let observation := state.observations child
  [ (.child child .state, (wireState record).tag),
    (.child child .desired, (state.desired child).tag),
    (.child child .flags, (rowFlags observation).toNat),
    (.child child .lifetimeCount, record.lifetimeCount.toNat),
    (.child child .effectiveBudget, (state.effectiveBudget child).toNat),
    (.child child .faultLabel, observation.faultLabel.toNat),
    (.child child .faultMr0, observation.faultMr0.toNat),
    (.child child .faultMr1, observation.faultMr1.toNat),
    (.child child .lastFaultTicks, observation.lastFaultTicks.toNat),
    (.child child .lastRestartTicks, observation.lastRestartTicks.toNat),
    (.child child .cumulativeDownTicks, observation.cumulativeDownTicks.toNat),
    (.child child .windowCount, record.windowCount.toNat) ]

/-- Every present row's budget and desired state, and the applied policy. -/
def policyStores (state : RootStatusState) : List StatusStore :=
  ((List.finRange childCount).filter (present state)).flatMap (fun child =>
    [ (.child child .effectiveBudget, (state.effectiveBudget child).toNat),
      (.child child .desired, (state.desired child).tag) ]) ++
  [ headerStore .appliedSpecGeneration state.appliedGeneration.toNat,
    headerStore .appliedBank state.appliedBank.toNat ]

/-- Events into the ring from slot `head` on. -/
def ringStores (head : Nat) : List RootEvent → List StatusStore
  | [] => []
  | event :: events => eventStores (eventSlot head) event ++ ringStores (head + 1) events

/-- The events a page with this head has overwritten. -/
def droppedEvents (head : UInt64) : UInt64 :=
  if head > UInt64.ofNat eventCount then head - UInt64.ofNat eventCount else 0

/-- Everything `root_status_publish` stores between the two sequence stores. -/
def publishPayload (state : RootStatusState) (child : RootChild)
    (record : Option RootChildRecord) (now : UInt64) (clockValid : Bool)
    (events : List RootEvent) : List StatusStore :=
  let head := state.eventHead + UInt64.ofNat events.length
  (match record with
    | none => []
    | some record => rowStores state child record) ++
  (if state.policyDirty then policyStores state else []) ++
  ringStores state.eventHead.toNat events ++
  [ headerStore .eventHead head.toNat,
    headerStore .eventDropped (droppedEvents head).toNat,
    headerStore .beamIncarnation state.beamIncarnation.toNat,
    headerStore .nowTicks (if clockValid then now else 0).toNat,
    headerStore .cntfrq (if clockValid then state.frequency else 0).toNat ]

inductive PublishCheck where
  | disabled | misused | exhausted | publish
  deriving DecidableEq, Repr

/-- The checks of `root_status_publish`, in order. -/
def publishCheck (state : RootStatusState) (page : Option Memory) (child : RootChild)
    (record : Option RootChildRecord) (events : List RootEvent) : PublishCheck :=
  if !state.enabled || page.isNone then .disabled
  else if events.length > 3 || (record.isSome && !present state child) then .misused
  else if state.seq > 0xFFFFFFFFFFFFFFFF - 2 ||
      UInt64.ofNat events.length > 0xFFFFFFFFFFFFFFFF - state.eventHead then .exhausted
  else .publish

/-- The state after a publication. -/
def publishedState (state : RootStatusState) (events : List RootEvent) : RootStatusState :=
  { state with
    policyDirty := false
    eventHead := state.eventHead + UInt64.ofNat events.length
    seq := state.seq + 2 }

/-- One publication: odd sequence, payload, even sequence. -/
def publishPage (state : RootStatusState) (page : Memory) (child : RootChild)
    (record : Option RootChildRecord) (now : UInt64) (clockValid : Bool)
    (events : List RootEvent) : Memory :=
  statusLayout.assign page
    ([headerStore .seq (state.seq + 1).toNat] ++
      publishPayload state child record now clockValid events ++
      [headerStore .seq (state.seq + 2).toNat])

/-- `root_status_publish`. A child outside the page's rows is excluded by its type. -/
def rootStatusPublish (state : RootStatusState) (page : Option Memory) (child : RootChild)
    (record : Option RootChildRecord) (now : UInt64) (clockValid : Bool)
    (events : List RootEvent) : RootStatusState × Option Memory × Bool :=
  match publishCheck state page child record events with
  | .disabled => (state, page, false)
  | .misused => ({ state with enabled := false, misused := true }, page, false)
  | .exhausted => ({ state with enabled := false, exhausted := true }, page, false)
  | .publish =>
      (publishedState state events,
        page.map fun bytes => publishPage state bytes child record now clockValid events, true)

end Chrysopolis.Root
