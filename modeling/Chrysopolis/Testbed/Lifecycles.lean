import Chrysopolis.Support.StateChart
import Chrysopolis.Testbed.Outcomes

/-! `lifecycles.py`: the charts the fault model tracks. `evolved` is the copy that took the
event, `none` where the chart refuses it. -/

set_option autoImplicit false

namespace Chrysopolis.Testbed.Faults

open Chrysopolis.Support

/-! ### Drivers -/

structure DriverRecord where
  budget : Int
  spent : Nat := 0
  deriving DecidableEq, Repr

inductive DriverState where
  | running | recovering | gone
  deriving DecidableEq, Repr

inductive DriverEvent where
  | restarted | restartedUnsettled | gaveUp | settled | ignored
  deriving DecidableEq, Repr

abbrev DriverLifecycle := Chart DriverState DriverRecord

def DriverRecord.hasBudget (record : DriverRecord) : Bool := record.spent < record.budget

def DriverRecord.spend (record : DriverRecord) : DriverRecord :=
  { record with spent := record.spent + 1 }

def driverTransitions : List (Transition DriverState DriverEvent Unit DriverRecord) :=
  @Transition.ofMany DriverState DriverEvent Unit DriverRecord [.running, .recovering] .running
      .restarted (·.hasBudget) (fun _ => DriverRecord.spend) ++
    @Transition.ofMany DriverState DriverEvent Unit DriverRecord [.running, .recovering]
      .recovering .restartedUnsettled (·.hasBudget) (fun _ => DriverRecord.spend) ++
    @Transition.ofMany DriverState DriverEvent Unit DriverRecord [.running, .recovering] .gone
      .gaveUp (!·.hasBudget) (fun _ => id) ++
    [{ source := .recovering, target := .running, event := .settled },
      { source := .gone, target := .gone, event := .ignored }]

def DriverLifecycle.fresh (budget : Int) : DriverLifecycle :=
  { state := .running, model := { budget } }

def DriverLifecycle.evolved [ChartLibrary] (chart : DriverLifecycle) (event : DriverEvent) :
    Option DriverLifecycle :=
  ChartLibrary.send driverTransitions chart event ()

/-! ### Files -/

structure FileRecord where
  seed : Option Int := none
  /-- What a torn file read as before. -/
  before : Finset Outcome := ∅
  deriving DecidableEq

inductive FileState where
  | absent | held | unknown | corrupt | torn
  deriving DecidableEq, Repr

inductive FileEvent where
  | written | writeFailed | cut | corrupted
  deriving DecidableEq, Repr

abbrev FileLifecycle := Chart FileState FileRecord

/-- What is sent with an event of a file, as far as the event has it. -/
structure FileData where
  seed : Int := 0
  before : Finset Outcome := ∅

def FileRecord.keep (data : FileData) (record : FileRecord) : FileRecord :=
  { record with seed := some data.seed }

def FileRecord.tear (data : FileData) (_ : FileRecord) : FileRecord :=
  { seed := some data.seed, before := data.before }

def fileTransitions : List (Transition FileState FileEvent FileData FileRecord) :=
  @Transition.ofMany FileState FileEvent FileData FileRecord
      [.absent, .held, .unknown, .corrupt, .torn] .held .written (fun _ => true)
      FileRecord.keep ++
    @Transition.ofMany FileState FileEvent FileData FileRecord
      [.absent, .held, .unknown, .corrupt, .torn] .unknown .writeFailed
      (fun _ => true) (fun _ => id) ++
    @Transition.ofMany FileState FileEvent FileData FileRecord [.absent, .held, .corrupt] .torn
      .cut (fun _ => true) FileRecord.tear ++
    @Transition.ofMany FileState FileEvent FileData FileRecord [.unknown, .torn] .unknown
      .cut (fun _ => true) (fun _ => id) ++
    @Transition.ofMany FileState FileEvent FileData FileRecord [.held, .corrupt] .corrupt
      .corrupted (fun _ => true) (fun _ => id) ++
    @Transition.ofMany FileState FileEvent FileData FileRecord [.unknown, .absent, .torn] .unknown
      .corrupted (fun _ => true) (fun _ => id)

def FileLifecycle.fresh : FileLifecycle := { state := .absent, model := {} }

def FileLifecycle.evolved [ChartLibrary] (chart : FileLifecycle) (event : FileEvent)
    (data : FileData := {}) : Option FileLifecycle :=
  ChartLibrary.send fileTransitions chart event data

/-! ### The armed fault -/

structure FaultRecord where
  op : Option Op := none
  region : Option Region := none
  file : Option (Fin files) := none
  once : Bool := false
  deriving DecidableEq, Repr

inductive FaultState where
  | disarmed | armed | maybeSpent | adrift
  deriving DecidableEq, Repr

inductive FaultEvent where
  | aimed | removed | spent | maybeFired | moved
  deriving DecidableEq, Repr

abbrev FaultLifecycle := Chart FaultState FaultRecord

/-- `aim` takes the record it sets; the other events send nothing. -/
def faultTransitions : List (Transition FaultState FaultEvent FaultRecord FaultRecord) :=
  @Transition.ofMany FaultState FaultEvent FaultRecord FaultRecord
      [.disarmed, .armed, .maybeSpent, .adrift] .armed .aimed (fun _ => true)
      (fun aimed _ => aimed) ++
    @Transition.ofMany FaultState FaultEvent FaultRecord FaultRecord
      [.disarmed, .armed, .maybeSpent, .adrift] .disarmed .removed (fun _ => true)
      (fun _ => id) ++
    @Transition.ofMany FaultState FaultEvent FaultRecord FaultRecord [.armed, .maybeSpent]
      .disarmed .spent (·.once) (fun _ => id) ++
    [{ source := .armed, target := .maybeSpent, event := .maybeFired, cond := (·.once) },
      { source := .maybeSpent, target := .maybeSpent, event := .maybeFired },
      { source := .adrift, target := .adrift, event := .maybeFired }] ++
    @Transition.ofMany FaultState FaultEvent FaultRecord FaultRecord
      [.armed, .maybeSpent, .adrift] .adrift .moved (fun _ => true) (fun _ => id)

def FaultLifecycle.fresh : FaultLifecycle := { state := .disarmed, model := {} }

def FaultLifecycle.evolved [ChartLibrary] (chart : FaultLifecycle) (event : FaultEvent)
    (data : FaultRecord := {}) : Option FaultLifecycle :=
  ChartLibrary.send faultTransitions chart event data

/-! ### The volume's metadata and FatFs's sector window -/

inductive VolumeState where
  | intact | damaged
  deriving DecidableEq, Repr

inductive VolumeEvent where
  | metadataCorrupted
  deriving DecidableEq, Repr

abbrev VolumeLifecycle := Chart VolumeState Unit

def volumeTransitions : List (Transition VolumeState VolumeEvent Unit Unit) :=
  Transition.ofMany [.intact, .damaged] .damaged .metadataCorrupted (fun _ => true) (fun _ => id)

def VolumeLifecycle.fresh : VolumeLifecycle := { state := .intact, model := () }

def VolumeLifecycle.evolved [ChartLibrary] (chart : VolumeLifecycle) (event : VolumeEvent) :
    Option VolumeLifecycle :=
  ChartLibrary.send volumeTransitions chart event ()

inductive WindowState where
  | clean | dirty
  deriving DecidableEq, Repr

inductive WindowEvent where
  | leftDirty
  deriving DecidableEq, Repr

abbrev WindowLifecycle := Chart WindowState Unit

def windowTransitions : List (Transition WindowState WindowEvent Unit Unit) :=
  Transition.ofMany [.clean, .dirty] .dirty .leftDirty (fun _ => true) (fun _ => id)

def WindowLifecycle.fresh : WindowLifecycle := { state := .clean, model := () }

def WindowLifecycle.evolved [ChartLibrary] (chart : WindowLifecycle) (event : WindowEvent) :
    Option WindowLifecycle :=
  ChartLibrary.send windowTransitions chart event ()

/-! ### What each event does -/

theorem driverTransitions_deterministic : Deterministic driverTransitions := by
  intro chart event
  obtain ⟨state, model⟩ := chart
  cases state <;> cases event <;> cases budget : model.hasBudget <;>
    simp [Chart.enabled, driverTransitions, Transition.ofMany, Transition.enabled, budget]

theorem fileTransitions_deterministic : Deterministic fileTransitions := by
  intro chart event
  obtain ⟨state, model⟩ := chart
  cases state <;> cases event <;> exact Nat.le_refl 1

theorem faultTransitions_deterministic : Deterministic faultTransitions := by
  intro chart event
  obtain ⟨state, model⟩ := chart
  cases state <;> cases event <;> cases once : model.once <;>
    simp [Chart.enabled, faultTransitions, Transition.ofMany, Transition.enabled, once]

theorem volumeTransitions_deterministic : Deterministic volumeTransitions := by
  intro chart event
  obtain ⟨state, model⟩ := chart
  cases state <;> cases event <;> exact Nat.le_refl 1

theorem windowTransitions_deterministic : Deterministic windowTransitions := by
  intro chart event
  obtain ⟨state, model⟩ := chart
  cases state <;> cases event <;> exact Nat.le_refl 1

variable [ChartLibrary]

theorem DriverLifecycle.evolved_eq (chart : DriverLifecycle) (event : DriverEvent) :
    chart.evolved event = chart.first driverTransitions event () :=
  ChartLibrary.send_eq driverTransitions_deterministic chart event ()

theorem FileLifecycle.evolved_eq (chart : FileLifecycle) (event : FileEvent) (data : FileData) :
    chart.evolved event data = chart.first fileTransitions event data :=
  ChartLibrary.send_eq fileTransitions_deterministic chart event data

theorem FaultLifecycle.evolved_eq (chart : FaultLifecycle) (event : FaultEvent)
    (data : FaultRecord) : chart.evolved event data = chart.first faultTransitions event data :=
  ChartLibrary.send_eq faultTransitions_deterministic chart event data

theorem VolumeLifecycle.evolved_eq (chart : VolumeLifecycle) (event : VolumeEvent) :
    chart.evolved event = chart.first volumeTransitions event () :=
  ChartLibrary.send_eq volumeTransitions_deterministic chart event ()

theorem WindowLifecycle.evolved_eq (chart : WindowLifecycle) (event : WindowEvent) :
    chart.evolved event = chart.first windowTransitions event () :=
  ChartLibrary.send_eq windowTransitions_deterministic chart event ()

section

variable {chart : DriverLifecycle}

theorem DriverLifecycle.evolved_restarted (up : chart.state ≠ .gone)
    (budget : chart.model.hasBudget = true) :
    chart.evolved .restarted = some { state := .running, model := chart.model.spend } := by
  obtain ⟨state, model⟩ := chart
  cases state with
  | gone => exact absurd rfl up
  | running | recovering =>
      simp [evolved_eq, Chart.first, Chart.enabled, Chart.take, driverTransitions,
        Transition.ofMany, Transition.enabled, budget]

theorem DriverLifecycle.evolved_restartedUnsettled (up : chart.state ≠ .gone)
    (budget : chart.model.hasBudget = true) :
    chart.evolved .restartedUnsettled =
      some { state := .recovering, model := chart.model.spend } := by
  obtain ⟨state, model⟩ := chart
  cases state with
  | gone => exact absurd rfl up
  | running | recovering =>
      simp [evolved_eq, Chart.first, Chart.enabled, Chart.take, driverTransitions,
        Transition.ofMany, Transition.enabled, budget]

theorem DriverLifecycle.evolved_gaveUp (up : chart.state ≠ .gone)
    (budget : chart.model.hasBudget = false) :
    chart.evolved .gaveUp = some { state := .gone, model := chart.model } := by
  obtain ⟨state, model⟩ := chart
  cases state with
  | gone => exact absurd rfl up
  | running | recovering =>
      simp [evolved_eq, Chart.first, Chart.enabled, Chart.take, driverTransitions,
        Transition.ofMany, Transition.enabled, budget]

theorem DriverLifecycle.evolved_settled (recovering : chart.state = .recovering) :
    chart.evolved .settled = some { state := .running, model := chart.model } := by
  simp [evolved_eq, Chart.first, Chart.enabled, Chart.take, driverTransitions,
    Transition.ofMany, Transition.enabled, recovering]

theorem DriverLifecycle.evolved_ignored (gone : chart.state = .gone) :
    chart.evolved .ignored = some chart := by
  rw [evolved_eq]
  obtain ⟨state, model⟩ := chart
  obtain rfl : state = .gone := gone
  rfl

end

/-- A file takes every event in every state. -/
theorem FileLifecycle.evolved_total (chart : FileLifecycle) (event : FileEvent) (data : FileData) :
    ∃ next, chart.evolved event data = some next := by
  rw [evolved_eq]
  obtain ⟨state, model⟩ := chart
  cases event <;> cases state <;> exact ⟨_, rfl⟩

section

variable {chart : FaultLifecycle}

theorem FaultLifecycle.evolved_aimed (chart : FaultLifecycle) (data : FaultRecord) :
    chart.evolved .aimed data = some { state := .armed, model := data } := by
  rw [evolved_eq]
  obtain ⟨state, model⟩ := chart
  cases state <;> rfl

theorem FaultLifecycle.evolved_removed (chart : FaultLifecycle) (data : FaultRecord) :
    chart.evolved .removed data = some { state := .disarmed, model := chart.model } := by
  rw [evolved_eq]
  obtain ⟨state, model⟩ := chart
  cases state <;> rfl

theorem FaultLifecycle.evolved_moved (armed : chart.state ≠ .disarmed) (data : FaultRecord) :
    chart.evolved .moved data = some { state := .adrift, model := chart.model } := by
  rw [evolved_eq]
  obtain ⟨state, model⟩ := chart
  cases state with
  | disarmed => exact absurd rfl armed
  | armed | maybeSpent | adrift => rfl

/-- Only a fault that may be on its sector can be spent. -/
theorem FaultLifecycle.evolved_spent (armed : chart.state ≠ .disarmed)
    (aimed : chart.state ≠ .adrift) (once : chart.model.once = true) (data : FaultRecord) :
    chart.evolved .spent data = some { state := .disarmed, model := chart.model } := by
  rw [evolved_eq]
  obtain ⟨state, model⟩ := chart
  cases state with
  | disarmed => exact absurd rfl armed
  | adrift => exact absurd rfl aimed
  | armed | maybeSpent =>
      simpa [Chart.first, Chart.enabled, Chart.take, faultTransitions,
        Transition.ofMany, Transition.enabled] using once

theorem FaultLifecycle.evolved_maybeFired (armed : chart.state ≠ .disarmed)
    (once : chart.model.once = true) (data : FaultRecord) :
    ∃ next, chart.evolved .maybeFired data = some next := by
  rw [evolved_eq]
  obtain ⟨state, model⟩ := chart
  cases state with
  | disarmed => exact absurd rfl armed
  | armed =>
      simpa [Chart.first, Chart.enabled, Chart.take, faultTransitions,
        Transition.ofMany, Transition.enabled] using once
  | maybeSpent | adrift => exact ⟨_, rfl⟩

end

theorem VolumeLifecycle.evolved_metadataCorrupted (chart : VolumeLifecycle) :
    chart.evolved .metadataCorrupted = some { state := .damaged, model := () } := by
  rw [evolved_eq]
  obtain ⟨state, model⟩ := chart
  cases state <;> rfl

theorem WindowLifecycle.evolved_leftDirty (chart : WindowLifecycle) :
    chart.evolved .leftDirty = some { state := .dirty, model := () } := by
  rw [evolved_eq]
  obtain ⟨state, model⟩ := chart
  cases state <;> rfl

end Chrysopolis.Testbed.Faults
