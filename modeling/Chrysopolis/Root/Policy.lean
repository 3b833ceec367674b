import Chrysopolis.Abi.Wire

/-! Root's restart and notification decisions: child ids, restart records, the
lifetime and the timed decision, the clock, and the channel layout. -/

set_option autoImplicit false

namespace Chrysopolis.Root

open Chrysopolis.Abi

/-- Bit `index` of a 64-bit mask. -/
def maskBit (mask : UInt64) (index : Nat) : Bool := mask.toNat.testBit index

/-- A validated child id. `ROOT_MAX_CHILDREN` is the page's child count. -/
abbrev RootChild := ChildIndex

/-- Accept a raw id below the child count whose bit is set in `knownMask`. -/
def rootChildFromRaw (raw : UInt32) (knownMask : UInt64) : Option RootChild :=
  if bound : raw.toNat < childCount then
    if maskBit knownMask raw.toNat then some ⟨raw.toNat, bound⟩ else none
  else none

inductive RootChildState where
  | live
  /-- Root stopped the child for good. -/
  | gone
  deriving DecidableEq, Repr

/-- Per-child restart accounting; the default is a live child never restarted. -/
structure RootChildRecord where
  lifetimeCount : UInt32 := 0
  windowCount : UInt32 := 0
  lastChargeTicks : UInt64 := 0
  lastChargeValid : Bool := false
  state : RootChildState := .live
  deriving DecidableEq, Repr

inductive RootRestartAction where
  | resume
  | giveupBudgetExhausted
  | giveupWindowExhausted
  | giveupLifetimeExhausted
  | giveupNoEntry
  | ignoreGone
  deriving DecidableEq, Repr

/-- Gone, then the budget, then the entry. -/
def rootRestartDecide (record : RootChildRecord) (budget : UInt32) (entry : UInt64) :
    RootRestartAction :=
  if record.state = .gone then .ignoreGone
  else if record.lifetimeCount ≥ budget then .giveupBudgetExhausted
  else if entry = 0 then .giveupNoEntry
  else .resume

def rootRecordCharge (record : RootChildRecord) : RootChildRecord :=
  { record with lifetimeCount := record.lifetimeCount + 1 }

def rootRecordGiveUp (record : RootChildRecord) : RootChildRecord :=
  { record with state := .gone }

/-- The reason logged for a give-up action. -/
def rootRestartGiveupReason : RootRestartAction → String
  | .giveupBudgetExhausted => "budget-exhausted"
  | .giveupWindowExhausted => "window-exhausted"
  | .giveupLifetimeExhausted => "lifetime-exhausted"
  | .giveupNoEntry => "no-restart-entry"
  | .resume | .ignoreGone => ""

/-! ### Clock -/

inductive RootClockResult where
  | ok | badFrequency | regressed | badInterval | intervalOverflow
  deriving DecidableEq, Repr

structure RootClock where
  ticksPerMs : UInt64 := 0
  lastTicks : UInt64 := 0
  seen : Bool := false
  available : Bool := false
  deriving DecidableEq, Repr

def rootClockInit (frequencyHz minimumHz maximumHz : UInt64) : RootClock × RootClockResult :=
  if minimumHz < 1000 || minimumHz > maximumHz || frequencyHz < minimumHz ||
      frequencyHz > maximumHz then
    ({}, .badFrequency)
  else
    -- Rounded up so a window never refills earlier than requested.
    ({ ticksPerMs := frequencyHz / 1000 + (if frequencyHz % 1000 ≠ 0 then 1 else 0)
       available := true }, .ok)

def rootClockObserve (clock : RootClock) (ticks : UInt64) : RootClock × RootClockResult :=
  if !clock.available then (clock, .badFrequency)
  else if clock.ticksPerMs = 0 then ({ clock with available := false }, .badFrequency)
  else if clock.seen && ticks < clock.lastTicks then
    ({ clock with available := false }, .regressed)
  else ({ clock with seen := true, lastTicks := ticks }, .ok)

def rootClockInterval (clock : RootClock) (milliseconds : UInt64) :
    Except RootClockResult UInt64 :=
  if !clock.available || clock.ticksPerMs = 0 then .error .badFrequency
  else if milliseconds = 0 then .error .badInterval
  else if milliseconds > 0xFFFFFFFFFFFFFFFF / clock.ticksPerMs then .error .intervalOverflow
  else .ok (milliseconds * clock.ticksPerMs)

/-! ### Timed decision -/

structure RootBudgetPolicy where
  capacity : UInt32 := 0
  lifetimeLimit : UInt32 := 0
  leakIntervalTicks : UInt64 := 0
  deriving DecidableEq, Repr

inductive RootTimedError where
  | valid | invalidPolicy | invalidRecord | clockRegressed
  deriving DecidableEq, Repr

structure RootTimedDecision where
  error : RootTimedError
  action : RootRestartAction
  next : RootChildRecord
  deriving DecidableEq, Repr

/-- The window charges that leaked out since the last charge. -/
def leakWindow (record : RootChildRecord) (policy : RootBudgetPolicy) (nowTicks : UInt64) :
    RootChildRecord :=
  if record.lastChargeValid then
    let leaked := (nowTicks - record.lastChargeTicks) / policy.leakIntervalTicks
    if leaked ≥ record.windowCount.toUInt64 then
      { record with windowCount := 0, lastChargeValid := false }
    else if leaked ≠ 0 then
      { record with
        windowCount := record.windowCount - leaked.toUInt32
        lastChargeTicks := record.lastChargeTicks + leaked * policy.leakIntervalTicks }
    else record
  else record

/-- One window and one lifetime token. -/
def chargeWindow (record : RootChildRecord) (nowTicks : UInt64) : RootChildRecord :=
  let stamped :=
    if record.windowCount = 0 then
      { record with lastChargeTicks := nowTicks, lastChargeValid := true }
    else record
  { stamped with
    windowCount := stamped.windowCount + 1
    lifetimeCount := stamped.lifetimeCount + 1 }

def rootRestartDecideAt (record : RootChildRecord) (policy : RootBudgetPolicy)
    (entry nowTicks : UInt64) : RootTimedDecision :=
  let unchanged : RootTimedDecision :=
    { error := .valid, action := .ignoreGone, next := record }
  if record.state = .gone then unchanged
  else if policy.capacity = 0 || policy.lifetimeLimit = 0 || policy.leakIntervalTicks = 0 then
    { unchanged with error := .invalidPolicy }
  else if record.windowCount > policy.capacity ||
      record.lastChargeValid != (record.windowCount != 0) then
    { unchanged with error := .invalidRecord }
  else if record.lastChargeValid && nowTicks < record.lastChargeTicks then
    { unchanged with error := .clockRegressed }
  else if record.lifetimeCount ≥ policy.lifetimeLimit then
    { unchanged with action := .giveupLifetimeExhausted }
  else
    let leaked := leakWindow record policy nowTicks
    if leaked.windowCount ≥ policy.capacity then
      { unchanged with action := .giveupWindowExhausted, next := leaked }
    else if entry = 0 then
      { unchanged with action := .giveupNoEntry, next := leaked }
    else
      { unchanged with action := .resume, next := chargeWindow leaked nowTicks }

/-! ### Channels -/

/-- A group of debug-restart and a group of fault-injection channels, in
driver-class order. -/
structure RootChannelLayout where
  debugFirst : UInt32
  faultFirst : UInt32
  count : UInt32

/-- The image declares `channel` for Root. -/
def rootChannelWired (mask : UInt64) (channel : UInt32) : Bool :=
  channel < 64 && maskBit mask channel.toNat

def rootChannelInGroup (channel first count : UInt32) : Bool :=
  channel ≥ first && channel - first < count

inductive RootNotify where
  | debugRestart (index : UInt32)
  | faultInject (index : UInt32)
  | unexpected
  deriving DecidableEq, Repr

def rootNotifyRoute (channel : UInt32) (layout : RootChannelLayout) : RootNotify :=
  if rootChannelInGroup channel layout.debugFirst layout.count then
    .debugRestart (channel - layout.debugFirst)
  else if rootChannelInGroup channel layout.faultFirst layout.count then
    .faultInject (channel - layout.faultFirst)
  else .unexpected

end Chrysopolis.Root
