import Chrysopolis.Abi.StatusPage
import Chrysopolis.Root.Main

/-! The testbed's oracle: what Root answered on the console beside the events read
back from its ring. -/

set_option autoImplicit false

namespace Chrysopolis.Testbed

open Chrysopolis.Abi
open Chrysopolis.Support
open Chrysopolis.Root

inductive Driver where
  | serial | timer | blk | eth
  deriving DecidableEq, Repr

/-- The ABI's child id of a driver. -/
def Driver.child : Driver → RootChild
  | .serial => childSerial
  | .timer => childTimer
  | .blk => childBlk
  | .eth => childEth

/-- The steps that ask Root for something. -/
inductive Step where
  | fault (driver : Driver)
  | restart (driver : Driver)
  deriving DecidableEq, Repr

def Step.driver : Step → Driver
  | .fault driver => driver
  | .restart driver => driver

inductive RestartPath where
  | restart | debugRestart
  deriving DecidableEq, Repr

inductive Outcome where
  | restarted (path : RestartPath) (count : Nat)
  | gaveUp (reason : String)
  | gone
  deriving DecidableEq, Repr

/-! ### The console -/

/-- `decision`: a line about a child as an outcome. -/
def decision (child : RootChild) : LogLine → Option Outcome
  | .restarted .restart target count _ =>
      if target = child then some (.restarted .restart count.toNat) else none
  | .restarted .debugRestart target count _ =>
      if target = child then some (.restarted .debugRestart count.toNat) else none
  | .giveup target reason => if target = child then some (.gaveUp reason) else none
  | .ignored target _ => if target = child then some .gone else none
  | _ => none

def actDecision (child : RootChild) : RootAct → Option Outcome
  | .puts line => decision child line
  | _ => none

/-- `root_decision`: the first answer about a child from a mark on. -/
def rootDecision (child : RootChild) (acts : List RootAct) : Option Outcome :=
  acts.findSome? (actDecision child)

/-- The driver a debug channel belongs to. -/
def classDriver (index : UInt32) : Driver :=
  [Driver.serial, .timer, .blk, .eth].getD index.toNat .serial

/-- The step a callback answers to. -/
def requestStep (callback : Callback) : Option Step :=
  match callback with
  | .notified channel =>
      match rootNotifyRoute channel rootChannels with
      | .debugRestart index => some (.restart (classDriver index))
      | .faultInject index => some (.fault (classDriver index))
      | .unexpected => none
  | _ => none

/-- The requests of a run in order, each with the first answer printed from it on. -/
def decisions (config : Config) : RootState → List RootInput → List (Step × Outcome)
  | _, [] => []
  | state, input :: inputs =>
      let acts := (rootMachine config).trace state (input :: inputs)
      let answered := (requestStep input.callback).bind fun step =>
        (rootDecision step.driver.child acts).map fun outcome => (step, outcome)
      answered.toList ++ decisions config (rootStep config state input).1 inputs

/-! ### The ring -/

/-- A detail as the probe names it. -/
inductive EventDetail where
  | budgetExhausted | faultInject | restartChild
  | number (detail : Nat)
  deriving DecidableEq, Repr

structure RootlogEvent where
  index : Nat
  ticks : Nat
  kind : RootEventKind
  child : Nat
  detail : EventDetail
  a : Nat
  b : Nat
  deriving DecidableEq, Repr

/-- `kind_name`. -/
def kindName (kind : Nat) : RootEventKind :=
  ([RootEventKind.boot, .fault, .restart, .stop, .giveup, .quarantine, .reclaim, .control,
    .specReject].find? fun name => name.tag == kind).getD .unset

/-- `detail_name`. -/
def detailName (kind detail : Nat) : EventDetail :=
  if kind = RootEventKind.giveup.tag ∧ detail = RootGiveupReason.budgetExhausted.tag then
    .budgetExhausted
  else if kind = RootEventKind.control.tag ∧ detail = RootControlKind.faultInject.tag then
    .faultInject
  else if kind = RootEventKind.control.tag ∧ detail = RootControlKind.restartChild.tag then
    .restartChild
  else .number detail

/-- `named_event`. -/
def namedEvent (index : Nat) (event : WireEvent) : RootlogEvent :=
  { index
    ticks := event.ticks
    kind := kindName event.kind
    child := event.child
    detail := detailName event.kind event.detail
    a := event.a
    b := event.b }

/-- `events`: the ring's events from an index on. -/
def ringEvents (page : Memory) (since : Nat) : List RootlogEvent :=
  let head := statusLayout.read page (.header .eventHead)
  let first := max since (head - eventCount)
  (List.range' first (head - first)).map fun index =>
    namedEvent index (eventAt page (eventSlot index))

/-! ### The oracle -/

/-- A disagreement, with what its message shows. -/
inductive Problem where
  | restarts (driver : Driver) (console ring : List Nat)
  | gaveUp (driver : Driver) (console : Nat) (ring : List RootlogEvent)
  | injections (driver : Driver) (accepted controls faults : Nat)
  | faultFirst (driver : Driver)
  deriving DecidableEq, Repr

/-- The counts of the restarts among the answers. -/
def consoleRestarts (said : List (Step × Outcome)) : List Nat :=
  said.filterMap fun answer =>
    match answer.2 with
    | .restarted _ count => some count
    | _ => none

def gaveUps (said : List (Step × Outcome)) : Nat :=
  said.countP fun answer =>
    match answer.2 with
    | .gaveUp _ => true
    | _ => false

/-- The injections Root took. -/
def injected (said : List (Step × Outcome)) : Nat :=
  said.countP fun answer =>
    match answer with
    | (.fault _, .restarted ..) | (.fault _, .gaveUp _) => true
    | _ => false

def ofKind (kind : RootEventKind) (mine : List RootlogEvent) : List RootlogEvent :=
  mine.filter fun event => event.kind = kind

/-- The injection events of a child. -/
def faultControls (mine : List RootlogEvent) : List RootlogEvent :=
  mine.filter fun event => event.kind = .control ∧ event.detail = .faultInject

/-- What `disagreements` reports for one driver. -/
def driverProblems (said : List (Step × Outcome)) (mine : List RootlogEvent)
    (driver : Driver) : List Problem :=
  let published := (ofKind .restart mine).map (·.a)
  let giveups := ofKind .giveup mine
  let controls := faultControls mine
  let faults := ofKind .fault mine
  (if consoleRestarts said ≠ published then [.restarts driver (consoleRestarts said) published]
    else []) ++
  (if gaveUps said ≠ giveups.length ∨ giveups.any fun event => event.detail ≠ .budgetExhausted then
    [.gaveUp driver (gaveUps said) giveups]
    else []) ++
  (if injected said ≠ controls.length ∨ injected said ≠ faults.length then
    [.injections driver (injected said) controls.length faults.length]
    else if (controls.zip faults).any fun pair => pair.1.index > pair.2.index then
      [.faultFirst driver]
    else [])

/-- `disagreements`. -/
def disagreements (answers : List (Step × Outcome)) (events : List RootlogEvent)
    (children : List (Driver × Nat)) : List Problem :=
  children.flatMap fun (driver, child) =>
    driverProblems (answers.filter fun answer => answer.1.driver = driver)
      (events.filter fun event => event.child = child) driver

end Chrysopolis.Testbed
