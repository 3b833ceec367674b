import Chrysopolis.Beam.Deadline

/-! The clock test of each timed wait agrees with the deadline it arms, on every
timeline. -/

set_option autoImplicit false

namespace Chrysopolis.Beam

theorem runtimeTimespecValid_iff {ts : Timespec} : runtimeTimespecValid ts = true ↔
    0 ≤ ts.tvSec ∧ 0 ≤ ts.tvNsec ∧ ts.tvNsec.toNat < runtimeNsPerSec := by
  simp [runtimeTimespecValid, and_assoc]

theorem runtimeTimespecNs_le (ts : Timespec) (valid : ts.tvNsec.toNat < runtimeNsPerSec) :
    runtimeTimespecNs ts ≤ runtimeTimeoutMaxNs := by
  simp only [runtimeTimespecNs]
  split_ifs
  all_goals simp only [runtimeNsPerSec, runtimeTimeoutMaxNs] at *
  all_goals omega

/-- A timeout below the cap is not capped. -/
theorem runtimeTimespecNs_exact {ts : Timespec}
    (low : ts.tvSec.toNat * runtimeNsPerSec + ts.tvNsec.toNat < 2 ^ 63) :
    runtimeTimespecNs ts = ts.tvSec.toNat * runtimeNsPerSec + ts.tvNsec.toNat := by
  simp only [runtimeTimespecNs]
  split_ifs
  all_goals simp only [runtimeNsPerSec, runtimeTimeoutMaxNs] at *
  all_goals omega

/-- A deadline after a reading below the cap neither saturates nor goes far. -/
theorem runtimeDeadlineAfter_le {now timeout : Nat} (low : now < 2 ^ 63) :
    runtimeDeadlineAfter now timeout ≤ now + runtimeTimeoutMaxNs := by
  simp only [runtimeDeadlineAfter]
  split_ifs
  all_goals simp only [uint64Max, runtimeTimeoutMaxNs] at *
  all_goals omega

theorem runtimeDeadlineAfter_exact {now timeout : Nat} (low : now < 2 ^ 63)
    (short : timeout < 2 ^ 63) : runtimeDeadlineAfter now timeout = now + timeout := by
  simp only [runtimeDeadlineAfter]
  split_ifs
  all_goals simp only [uint64Max, runtimeTimeoutMaxNs] at *
  all_goals omega

theorem rngRealtimeOffset_lt (raw : Nat) : rngRealtimeOffset raw < 900 :=
  Nat.mod_lt raw (by decide)

/-- The epoch fits in nanoseconds. -/
theorem runtimeRealtimeToMonotonicNs_epoch (realtime raw : Nat) :
    runtimeRealtimeToMonotonicNs realtime (epochSec raw) =
      realtime - epochSec raw * runtimeNsPerSec := by
  have offset := rngRealtimeOffset_lt raw
  simp only [runtimeRealtimeToMonotonicNs]
  split_ifs
  all_goals simp only [epochSec, rngRealtimeBaseEpoch, runtimeNsPerSec, uint64Max] at *
  all_goals omega

/-- The comparison of a condition wait, in nanoseconds. -/
theorem clockGettime_reached {raw now : Nat} {clock : ClockId} {abstime : Timespec}
    (valid : runtimeTimespecValid abstime = true) :
    (let tp := clockGettime raw clock now
     tp.tvSec > abstime.tvSec || (tp.tvSec == abstime.tvSec && tp.tvNsec ≥ abstime.tvNsec)) =
        true ↔
      abstime.tvSec.toNat * runtimeNsPerSec + abstime.tvNsec.toNat ≤
        now + if clock = .realtime then epochSec raw * runtimeNsPerSec else 0 := by
  obtain ⟨sec, nsec, small⟩ := runtimeTimespecValid_iff.mp valid
  cases clock <;>
    simp only [clockGettime, runtimeNsPerSec, Bool.or_eq_true, Bool.and_eq_true, beq_iff_eq,
      decide_eq_true_eq, reduceCtorEq, if_true, if_false] at small ⊢ <;>
    omega

namespace Timed

/-- A wait that reads the clock gives up exactly from the deadline it arms on. -/
theorem expired_iff_deadline {timed : Timed} (valid : timed.valid = true)
    (reads : timed.readsClock = true) (low : timed.exactNs < 2 ^ 63) (raw begun now : Nat) :
    timed.expired raw begun now = true ↔ timed.deadline raw begun ≤ now := by
  cases timed with
  | futex op timeout => simp [expired]
  | nanosleep clock absolute req => simp [expired]
  | condTimedwait abstime =>
      have reached := @clockGettime_reached raw now (condClock abstime) abstime valid
      have exact := @runtimeTimespecNs_exact abstime low
      simp only [expired, deadline, exact, runtimeRealtimeToMonotonicNs_epoch]
      refine reached.trans ?_
      split_ifs <;> omega
  | epollPwait _ | ppoll _ | pselect6 _ => cases reads

/-- The deadline a call arms is when its timeout is due. -/
theorem deadline_le_iff_due {timed : Timed} (low : timed.exactNs < 2 ^ 63) {raw begun : Nat}
    (early : begun < 2 ^ 63) (now : Nat) :
    timed.deadline raw begun ≤ now ↔ timed.Due raw begun now := by
  cases timed with
  | futex op timeout =>
      simp only [exactNs] at low
      have exact := @runtimeTimespecNs_exact timeout low
      simp only [deadline, Due, timeline, runtimeFutexDeadline, exact, exactNs]
      split_ifs
      · rw [runtimeDeadlineAfter_exact early low]
      · rw [runtimeRealtimeToMonotonicNs_epoch]
        exact Nat.sub_le_iff_le_add
      · rfl
  | nanosleep clock absolute req =>
      simp only [exactNs] at low
      have exact := @runtimeTimespecNs_exact req low
      simp only [deadline, Due, timeline, exact, exactNs]
      split_ifs
      · rw [runtimeRealtimeToMonotonicNs_epoch]
        exact Nat.sub_le_iff_le_add
      · rfl
      · rw [runtimeDeadlineAfter_exact early low]
  | condTimedwait abstime =>
      simp only [exactNs] at low
      have exact := @runtimeTimespecNs_exact abstime low
      simp only [deadline, Due, timeline, exact, exactNs]
      split_ifs
      · rw [runtimeRealtimeToMonotonicNs_epoch]
        exact Nat.sub_le_iff_le_add
      · rfl
  | epollPwait timeout =>
      simp only [exactNs] at low
      simp only [deadline, Due, timeline, exactNs, runtimeDeadlineAfter_exact early low]
  | ppoll tmo =>
      simp only [exactNs] at low
      have exact := @runtimeTimespecNs_exact tmo low
      simp only [deadline, Due, timeline, exact, exactNs, runtimeDeadlineAfter_exact early low]
  | pselect6 timeout =>
      simp only [exactNs] at low
      have exact := @runtimeTimespecNs_exact timeout low
      simp only [deadline, Due, timeline, exact, exactNs, runtimeDeadlineAfter_exact early low]

/-- No call arms a deadline further off than the longest timeout. -/
theorem deadline_near {timed : Timed} (valid : timed.valid = true) {raw begun : Nat}
    (early : begun < 2 ^ 63) : timed.deadline raw begun ≤ begun + runtimeTimeoutMaxNs := by
  have after (timeout : Nat) := @runtimeDeadlineAfter_le begun timeout early
  have capped (ts : Timespec) (ok : runtimeTimespecValid ts = true) :
      runtimeTimespecNs ts ≤ begun + runtimeTimeoutMaxNs :=
    Nat.le_add_left_of_le (runtimeTimespecNs_le ts (runtimeTimespecValid_iff.mp ok).2.2)
  have shifted (ts : Timespec) (ok : runtimeTimespecValid ts = true) :
      runtimeRealtimeToMonotonicNs (runtimeTimespecNs ts) (epochSec raw) ≤
        begun + runtimeTimeoutMaxNs := by
    rw [runtimeRealtimeToMonotonicNs_epoch]
    exact Nat.le_trans (Nat.sub_le _ _) (capped ts ok)
  cases timed with
  | futex op timeout =>
      simp only [deadline, runtimeFutexDeadline]
      split_ifs
      · exact after _
      · exact shifted timeout valid
      · exact capped timeout valid
  | nanosleep clock absolute req =>
      simp only [deadline]
      split_ifs
      · exact shifted req valid
      · exact capped req valid
      · exact after _
  | condTimedwait abstime =>
      simp only [deadline]
      split_ifs
      · exact shifted abstime valid
      · exact capped abstime valid
  | epollPwait timeout => exact after _
  | ppoll tmo => exact after _
  | pselect6 timeout => exact after _

end Timed

end Chrysopolis.Beam
