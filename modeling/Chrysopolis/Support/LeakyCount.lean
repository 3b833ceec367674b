import Mathlib.Algebra.Order.Ring.Nat

/-! Counts that leak. Charges are held until they leak out, one whole interval of
the clock for each, so a bounded count bounds the rate of charges over any run. -/

set_option autoImplicit false

namespace Chrysopolis.Support

/-- The charges held, and the tick up to which leaks have been taken. -/
structure LeakyCount where
  held : Nat
  drained : Nat

namespace LeakyCount

/-- Some charges leak out, and the clock pays an interval for each. -/
structure Drains (interval : Nat) (before after : LeakyCount) : Prop where
  held : after.held ≤ before.held
  order : before.drained ≤ after.drained
  paid : (before.held - after.held) * interval ≤ after.drained - before.drained

/-- One more charge. -/
def charge (count : LeakyCount) : LeakyCount := { count with held := count.held + 1 }

/-- A run of drains and so many charges. -/
inductive Run (interval : Nat) (start : LeakyCount) : Nat → LeakyCount → Prop where
  | refl : Run interval start 0 start
  | drain {charges : Nat} {middle stop : LeakyCount} :
      Run interval start charges middle → Drains interval middle stop →
      Run interval start charges stop
  | charge {charges : Nat} {middle : LeakyCount} :
      Run interval start charges middle → Run interval start (charges + 1) middle.charge

variable {interval charges : Nat} {start middle stop before after : LeakyCount}

theorem Drains.refl (count : LeakyCount) : Drains interval count count :=
  ⟨Nat.le_refl _, Nat.le_refl _, by simp⟩

/-- What a drain takes from the potential of a count it gives to its clock. -/
theorem Drains.potential (drains : Drains interval before after) :
    before.held * interval + before.drained ≤ after.held * interval + after.drained := by
  have paid := drains.paid
  have split : (before.held - after.held) * interval + after.held * interval =
      before.held * interval := by
    rw [← Nat.add_mul, Nat.sub_add_cancel drains.held]
  have order := drains.order
  omega

theorem Run.trans {later : Nat} (first : Run interval start charges middle)
    (second : Run interval middle later stop) : Run interval start (charges + later) stop := by
  induction second with
  | refl => exact first
  | drain _ drains ih => exact ih.drain drains
  | charge _ ih => exact ih.charge

theorem Run.order (run : Run interval start charges stop) : start.drained ≤ stop.drained := by
  induction run with
  | refl => exact Nat.le_refl _
  | drain _ drains ih => exact ih.trans drains.order
  | charge _ ih => exact ih

theorem Run.potential (run : Run interval start charges stop) :
    charges * interval + start.held * interval + start.drained ≤
      stop.held * interval + stop.drained := by
  induction run with
  | refl => simp
  | drain _ drains ih => exact ih.trans drains.potential
  | charge _ ih =>
      simp only [LeakyCount.charge, Nat.add_mul, Nat.one_mul]
      omega

/-- A count that never holds more than its capacity takes no more charges than
that and one for each interval that went by. -/
theorem Run.rate {capacity now : Nat} (run : Run interval start charges stop)
    (positive : 0 < interval) (bounded : stop.held ≤ capacity) (reached : stop.drained ≤ now) :
    charges ≤ capacity + (now - start.drained) / interval := by
  have potential := run.potential
  have order := run.order
  have full : stop.held * interval ≤ capacity * interval := Nat.mul_le_mul_right _ bounded
  have paid : (charges - capacity) * interval ≤ now - start.drained := by
    rw [Nat.sub_mul]
    omega
  have shared := (Nat.le_div_iff_mul_le positive).mpr paid
  omega

end LeakyCount

end Chrysopolis.Support
