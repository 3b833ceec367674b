import Mathlib.Data.Option.Basic

/-! State charts: guarded transitions between named states, over a record that they read
and write. A chart refuses an event for which it has no enabled transition. -/

set_option autoImplicit false

namespace Chrysopolis.Support

/-- A transition; `on` gets what was sent with the event. -/
structure Transition (S E D R : Type) where
  source : S
  target : S
  event : E
  cond : R → Bool := fun _ => true
  on : D → R → R := fun _ record => record

/-- A chart in one of its states, with its record. -/
structure Chart (S R : Type) where
  state : S
  model : R
  deriving DecidableEq, Repr

/-- One transition for each of the sources. -/
def Transition.ofMany {S E D R : Type} (sources : List S) (target : S) (event : E)
    (cond : R → Bool) (on : D → R → R) : List (Transition S E D R) :=
  sources.map fun source => { source, target, event, cond, on }

section

variable {S E D R : Type} [DecidableEq S] [DecidableEq E]

def Transition.enabled (transition : Transition S E D R) (chart : Chart S R) (event : E) : Bool :=
  transition.source == chart.state && transition.event == event && transition.cond chart.model

/-- The chart after a transition. -/
def Chart.take (chart : Chart S R) (data : D) (transition : Transition S E D R) : Chart S R :=
  { state := transition.target, model := transition.on data chart.model }

/-- The transitions that are enabled. -/
def Chart.enabled (chart : Chart S R) (transitions : List (Transition S E D R)) (event : E) :
    List (Transition S E D R) :=
  transitions.filter (·.enabled chart event)

end

/-- A library of charts, as far as it is documented: it takes the enabled transition, and refuses
an event that has none. -/
class ChartLibrary where
  send {S E D R : Type} [DecidableEq S] [DecidableEq E] :
    List (Transition S E D R) → Chart S R → E → D → Option (Chart S R)
  takes {S E D R : Type} [DecidableEq S] [DecidableEq E]
    {transitions : List (Transition S E D R)} {chart : Chart S R} {event : E}
    {transition : Transition S E D R} (enabled : chart.enabled transitions event = [transition])
    (data : D) : send transitions chart event data = some (chart.take data transition)
  refuses {S E D R : Type} [DecidableEq S] [DecidableEq E]
    {transitions : List (Transition S E D R)} {chart : Chart S R} {event : E}
    (disabled : chart.enabled transitions event = []) (data : D) :
    send transitions chart event data = none

variable {S E D R : Type} [DecidableEq S] [DecidableEq E]

/-- The chart after its first enabled transition. -/
def Chart.first (transitions : List (Transition S E D R)) (chart : Chart S R) (event : E)
    (data : D) : Option (Chart S R) :=
  (chart.enabled transitions event).head?.map (chart.take data)

/-- No two transitions are enabled at once. -/
def Deterministic (transitions : List (Transition S E D R)) : Prop :=
  ∀ (chart : Chart S R) (event : E), (chart.enabled transitions event).length ≤ 1

/-- Where no two transitions are enabled at once, every library takes the first. -/
theorem ChartLibrary.send_eq [ChartLibrary] {transitions : List (Transition S E D R)}
    (single : Deterministic transitions) (chart : Chart S R) (event : E) (data : D) :
    send transitions chart event data = chart.first transitions event data := by
  have few := single chart event
  rw [Chart.first]
  cases enabled : chart.enabled transitions event with
  | nil => exact refuses enabled data
  | cons transition rest =>
      rw [enabled, List.length_cons, Nat.succ_le_succ_iff, Nat.le_zero,
        List.length_eq_zero_iff] at few
      subst few
      exact takes enabled data

namespace ChartLibrary

/-- A library that takes the first of the enabled transitions. -/
scoped instance inOrder : ChartLibrary where
  send := Chart.first
  takes enabled data := by rw [Chart.first, enabled]; rfl
  refuses disabled data := by rw [Chart.first, disabled]; rfl

end ChartLibrary

end Chrysopolis.Support
