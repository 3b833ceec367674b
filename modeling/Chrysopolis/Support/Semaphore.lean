import Mathlib.Data.List.Basic

/-! A latching semaphore with waiters in order. A signal releases the waiter at the
head, or latches when there is none, and a wait takes a latch or joins the tail. A
signal carries a tag, so that a history can follow it. -/

set_option autoImplicit false

namespace Chrysopolis.Support

structure Semaphore (ω τ : Type) where
  waiters : List ω := []
  latched : Option τ := none

namespace Semaphore

variable {ω τ : Type}

/-- The waiter the signal released. -/
def signal (tag : τ) (semaphore : Semaphore ω τ) : Option ω × Semaphore ω τ :=
  match semaphore.waiters with
  | [] => (none, { semaphore with latched := some tag })
  | head :: rest => (some head, { semaphore with waiters := rest })

/-- The latched signal the waiter took. -/
def wait (waiter : ω) (semaphore : Semaphore ω τ) : Option τ × Semaphore ω τ :=
  match semaphore.latched with
  | some tag => (some tag, { semaphore with latched := none })
  | none => (none, { semaphore with waiters := semaphore.waiters ++ [waiter] })

def isQueueEmpty (semaphore : Semaphore ω τ) : Bool := semaphore.waiters.isEmpty

/-- A latch is set only while nobody waits. -/
def Ok (semaphore : Semaphore ω τ) : Prop := semaphore.latched ≠ none → semaphore.waiters = []

theorem Ok.empty : Ok ({} : Semaphore ω τ) := fun latched => absurd rfl latched

theorem Ok.signal {semaphore : Semaphore ω τ} (ok : semaphore.Ok) (tag : τ) :
    (semaphore.signal tag).2.Ok := by
  obtain ⟨waiters, latched⟩ := semaphore
  cases waiters with
  | nil => exact fun _ => rfl
  | cons head rest => exact fun held => absurd (ok held) (List.cons_ne_nil head rest)

theorem Ok.wait {semaphore : Semaphore ω τ} (ok : semaphore.Ok) (waiter : ω) :
    (semaphore.wait waiter).2.Ok := by
  obtain ⟨waiters, latched⟩ := semaphore
  cases latched with
  | none => exact fun held => absurd rfl held
  | some tag => exact fun held => absurd rfl held

end Semaphore

end Chrysopolis.Support
