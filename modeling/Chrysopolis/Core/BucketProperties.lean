import Chrysopolis.Core.Bucket

/-! How fast a bucket grants tokens. The tokens it lacks are a leaky count: a refill
drains it by whole intervals of the clock and a grant charges it. -/

set_option autoImplicit false

namespace Chrysopolis.Core

open Chrysopolis.Support

/-! ## Times -/

theorem latest_cons (start : Nat) (sample : Sample) (samples : List Sample) :
    latest start (sample :: samples) =
      latest (if sample.valid then max start sample.now else start) samples := rfl

theorem le_latest (start : Nat) (samples : List Sample) : start ≤ latest start samples := by
  induction samples generalizing start with
  | nil => exact Nat.le_refl _
  | cons sample samples ih =>
      rw [latest_cons]
      refine Nat.le_trans ?_ (ih _)
      split
      · exact Nat.le_max_left _ _
      · exact Nat.le_refl _

theorem latest_mono {early late : Nat} (order : early ≤ late) (samples : List Sample) :
    latest early samples ≤ latest late samples := by
  induction samples generalizing early late with
  | nil => exact order
  | cons sample samples ih =>
      rw [latest_cons, latest_cons]
      apply ih
      split <;> omega

namespace Bucket

/-- No more tokens than the capacity, and an interval while they are refilled. -/
structure Ok (bucket : Bucket) : Prop where
  tokens : bucket.tokens ≤ bucket.capacity
  interval : bucket.refill = .running → 0 < bucket.interval

/-- The tokens the bucket lacks. -/
def lacking (bucket : Bucket) : LeakyCount := ⟨bucket.capacity - bucket.tokens, bucket.last⟩

variable {bucket : Bucket}

theorem new_capacity (capacity refillTicks now : Nat) (nowValid : Bool) :
    (new capacity refillTicks now nowValid).capacity = capacity ∧
      (new capacity refillTicks now nowValid).last = now := by
  unfold new
  dsimp only
  split_ifs <;> exact ⟨rfl, rfl⟩

theorem new_ok (capacity refillTicks now : Nat) (nowValid : Bool) :
    (new capacity refillTicks now nowValid).Ok := by
  unfold new
  split_ifs with given
  · have bound : 0 < refillTicks / capacity ∨ 0 < refillTicks % capacity := by
      by_contra neither
      rw [not_or, Nat.not_lt, Nat.le_zero, Nat.not_lt, Nat.le_zero] at neither
      have whole := Nat.div_add_mod refillTicks capacity
      rw [neither.1, neither.2, Nat.mul_zero] at whole
      exact given.2.1 whole.symm
    refine ⟨Nat.le_refl _, fun _ => ?_⟩
    rcases bound with quotient | remainder
    · exact Nat.add_pos_left quotient _
    · exact Nat.add_pos_right _ (Nat.lt_min.mpr ⟨Nat.one_pos, remainder⟩)
  · exact ⟨Nat.le_refl _, fun running => Refill.noConfusion running⟩

/-! ## One sample -/

/-- One case per way a sample is taken. -/
inductive RefillCase (sample : Sample) (bucket : Bucket) : Bucket → Prop where
  | off (off : bucket.refill = .off) : RefillCase sample bucket bucket
  | stop (running : bucket.refill = .running)
      (bad : sample.valid = false ∨ sample.now < bucket.last) :
      RefillCase sample bucket { bucket with refill := .off }
  | early (running : bucket.refill = .running) (valid : sample.valid = true)
      (order : bucket.last ≤ sample.now)
      (due : (sample.now - bucket.last) / bucket.interval = 0) : RefillCase sample bucket bucket
  | full (running : bucket.refill = .running) (valid : sample.valid = true)
      (order : bucket.last ≤ sample.now)
      (due : (sample.now - bucket.last) / bucket.interval ≠ 0)
      (room : bucket.capacity - bucket.tokens ≤ (sample.now - bucket.last) / bucket.interval) :
      RefillCase sample bucket { bucket with tokens := bucket.capacity, last := sample.now }
  | more (running : bucket.refill = .running) (valid : sample.valid = true)
      (order : bucket.last ≤ sample.now)
      (due : (sample.now - bucket.last) / bucket.interval ≠ 0)
      (room : (sample.now - bucket.last) / bucket.interval < bucket.capacity - bucket.tokens) :
      RefillCase sample bucket
        { bucket with
          tokens := bucket.tokens + (sample.now - bucket.last) / bucket.interval
          last := bucket.last +
            (sample.now - bucket.last) / bucket.interval * bucket.interval }

theorem refillAt_case (sample : Sample) (bucket : Bucket) :
    RefillCase sample bucket (bucket.refillAt sample) := by
  obtain ⟨refill, capacity, tokens, interval, last⟩ := bucket
  cases refill with
  | off => exact .off rfl
  | running =>
      unfold refillAt
      dsimp only
      split_ifs with bad due room
      · simp only [Bool.or_eq_true, Bool.not_eq_true', decide_eq_true_eq] at bad
        exact .stop rfl bad
      all_goals
        simp only [Bool.or_eq_true, Bool.not_eq_true', decide_eq_true_eq, not_or,
          Bool.not_eq_false, Nat.not_lt] at bad
      · exact .early rfl bad.1 bad.2 due
      · exact .full rfl bad.1 bad.2 due room
      · exact .more rfl bad.1 bad.2 due (Nat.not_le.mp room)

theorem refillAt_capacity (sample : Sample) (bucket : Bucket) :
    (bucket.refillAt sample).capacity = bucket.capacity := by
  have refilled := refillAt_case sample bucket
  generalize bucket.refillAt sample = next at refilled ⊢
  cases refilled <;> rfl

theorem refillAt_interval (sample : Sample) (bucket : Bucket) :
    (bucket.refillAt sample).interval = bucket.interval := by
  have refilled := refillAt_case sample bucket
  generalize bucket.refillAt sample = next at refilled ⊢
  cases refilled <;> rfl

theorem Ok.refillAt (ok : bucket.Ok) (sample : Sample) : (bucket.refillAt sample).Ok := by
  obtain ⟨tokens, interval⟩ := ok
  have refilled := refillAt_case sample bucket
  generalize bucket.refillAt sample = next at refilled ⊢
  cases refilled with
  | off => exact ⟨tokens, interval⟩
  | stop => exact ⟨tokens, fun running => Refill.noConfusion running⟩
  | early => exact ⟨tokens, interval⟩
  | full => exact ⟨Nat.le_refl _, interval⟩
  | more running valid order due room => exact ⟨by dsimp only; omega, interval⟩

/-- A refill drains what the bucket lacks, up to the latest time told. -/
theorem Ok.drains (ok : bucket.Ok) (sample : Sample) :
    LeakyCount.Drains bucket.interval bucket.lacking (bucket.refillAt sample).lacking ∧
      (bucket.refillAt sample).last ≤ latest bucket.last [sample] := by
  obtain ⟨tokens, interval⟩ := ok
  have whole := Nat.div_mul_le_self (sample.now - bucket.last) bucket.interval
  have refilled := refillAt_case sample bucket
  generalize bucket.refillAt sample = next at refilled ⊢
  cases refilled with
  | off => exact ⟨.refl _, le_latest _ _⟩
  | stop => exact ⟨.refl _, le_latest _ _⟩
  | early => exact ⟨.refl _, le_latest _ _⟩
  | full running valid order due room =>
      refine ⟨⟨?_, order, ?_⟩, ?_⟩
      · simp [lacking]
      · simp only [lacking, Nat.sub_self, Nat.sub_zero]
        exact (Nat.mul_le_mul_right _ room).trans whole
      · simp [latest, valid]
  | more running valid order due room =>
      generalize (sample.now - bucket.last) / bucket.interval = count at whole due room ⊢
      refine ⟨⟨?_, Nat.le_add_right _ _, ?_⟩, ?_⟩
      · simp only [lacking]
        omega
      · have paid : bucket.capacity - bucket.tokens -
            (bucket.capacity - (bucket.tokens + count)) = count := by omega
        simp only [lacking, paid, Nat.add_sub_cancel_left, Nat.le_refl]
      · simp only [latest, List.foldl_cons, List.foldl_nil, valid, if_true]
        exact Nat.le_trans (by omega) (Nat.le_max_right _ _)

/-- What a sample has refilled it refills once. -/
theorem Ok.refillAt_again (ok : bucket.Ok) (sample : Sample) :
    (bucket.refillAt sample).refillAt sample = bucket.refillAt sample := by
  have settled {next : Bucket} (running : next.refill = .running) (valid : sample.valid = true)
      (order : next.last ≤ sample.now) (due : (sample.now - next.last) / next.interval = 0) :
      next.refillAt sample = next := by
    simp [Bucket.refillAt, running, valid, Nat.not_lt.mpr order, due]
  have refilled := refillAt_case sample bucket
  generalize bucket.refillAt sample = next at refilled ⊢
  cases refilled with
  | off off => simp [Bucket.refillAt, off]
  | stop => rfl
  | early running valid order due => exact settled running valid order due
  | full running valid order due room =>
      exact settled running valid (Nat.le_refl _) (by simp)
  | more running valid order due room =>
      have whole := Nat.div_mul_le_self (sample.now - bucket.last) bucket.interval
      have rest : (sample.now - bucket.last) % bucket.interval < bucket.interval :=
        Nat.mod_lt _ (ok.interval running)
      have split := Nat.div_add_mod (sample.now - bucket.last) bucket.interval
      rw [Nat.mul_comm] at split
      refine settled running valid (by dsimp only; omega) (Nat.div_eq_of_lt ?_)
      dsimp only
      omega

/-- A bucket still running has taken the sample, and is refilled to within an interval. -/
theorem Ok.near (ok : bucket.Ok) {sample : Sample}
    (running : (bucket.refillAt sample).refill = .running) :
    sample.valid = true ∧ (bucket.refillAt sample).last ≤ sample.now ∧
      sample.now - (bucket.refillAt sample).last < bucket.interval := by
  have refilled := refillAt_case sample bucket
  have whole := Nat.div_add_mod (sample.now - bucket.last) bucket.interval
  generalize bucket.refillAt sample = next at refilled running ⊢
  have rest (active : bucket.refill = .running) :
      (sample.now - bucket.last) % bucket.interval < bucket.interval :=
    Nat.mod_lt _ (ok.interval active)
  rw [Nat.mul_comm] at whole
  cases refilled with
  | off off => cases off.symm.trans running
  | stop => cases running
  | early active valid order due =>
      rw [due, Nat.zero_mul, Nat.zero_add] at whole
      exact ⟨valid, order, whole ▸ rest active⟩
  | full active valid order due room =>
      exact ⟨valid, Nat.le_refl _, by simpa using ok.interval active⟩
  | more active valid order due room =>
      have below := rest active
      exact ⟨valid, by dsimp only; omega, by dsimp only; omega⟩

/-! ## Runs -/

theorem take_capacity (sample : Sample) (bucket : Bucket) :
    (bucket.take sample).2.capacity = bucket.capacity := by
  unfold take
  dsimp only
  split_ifs <;> exact refillAt_capacity sample bucket

theorem take_interval (sample : Sample) (bucket : Bucket) :
    (bucket.take sample).2.interval = bucket.interval := by
  unfold take
  dsimp only
  split_ifs <;> exact refillAt_interval sample bucket

theorem Ok.take (ok : bucket.Ok) (sample : Sample) : (bucket.take sample).2.Ok := by
  have refilled := ok.refillAt sample
  unfold Bucket.take
  dsimp only
  split_ifs
  · exact refilled
  · exact ⟨(Nat.sub_le _ _).trans refilled.tokens, refilled.interval⟩

/-- A sample drains the count, and a grant charges it. -/
theorem Ok.take_run (ok : bucket.Ok) (sample : Sample) :
    LeakyCount.Run bucket.interval bucket.lacking ([(bucket.take sample).1].count true)
        (bucket.take sample).2.lacking ∧
      (bucket.take sample).2.last ≤ latest bucket.last [sample] := by
  obtain ⟨drains, told⟩ := ok.drains sample
  have refilled := (ok.refillAt sample).tokens
  unfold Bucket.take
  dsimp only
  split_ifs with empty
  · exact ⟨.drain .refl drains, told⟩
  · refine ⟨?_, told⟩
    have charged : Bucket.lacking { bucket.refillAt sample with
        tokens := (bucket.refillAt sample).tokens - 1 } =
          (bucket.refillAt sample).lacking.charge := by
      simp only [lacking, LeakyCount.charge, LeakyCount.mk.injEq, and_true]
      omega
    rw [charged]
    exact .charge (.drain .refl drains)

theorem Ok.takes_run (ok : bucket.Ok) (samples : List Sample) :
    (takes samples bucket).2.Ok ∧ (takes samples bucket).2.capacity = bucket.capacity ∧
      LeakyCount.Run bucket.interval bucket.lacking ((takes samples bucket).1.count true)
        (takes samples bucket).2.lacking ∧
      (takes samples bucket).2.last ≤ latest bucket.last samples := by
  induction samples generalizing bucket with
  | nil => exact ⟨ok, rfl, .refl, Nat.le_refl _⟩
  | cons sample samples ih =>
      obtain ⟨run, told⟩ := ok.take_run sample
      obtain ⟨laterOk, capacity, laterRun, laterTold⟩ := ih (ok.take sample)
      rw [take_interval] at laterRun
      refine ⟨laterOk, capacity.trans (take_capacity _ _), ?_,
        laterTold.trans (latest_mono told samples)⟩
      have both := run.trans laterRun
      rwa [← List.count_append] at both

theorem takes_interval (samples : List Sample) (bucket : Bucket) :
    (takes samples bucket).2.interval = bucket.interval := by
  induction samples generalizing bucket with
  | nil => rfl
  | cons sample samples ih => exact (ih _).trans (take_interval sample bucket)

/-- Once off, a bucket grants the tokens it holds and no more. -/
theorem takes_off (off : bucket.refill = .off) (samples : List Sample) :
    (takes samples bucket).1.count true ≤ bucket.tokens := by
  induction samples generalizing bucket with
  | nil => exact Nat.zero_le _
  | cons sample samples ih =>
      have same : bucket.refillAt sample = bucket := by simp [refillAt, off]
      simp only [takes, take, same]
      split_ifs with empty
      · have later := ih off
        simpa [empty] using later
      · have later := @ih { bucket with tokens := bucket.tokens - 1 } off
        simp only [List.count_cons_self]
        dsimp only at later
        omega

/-- The off state is absorbing. -/
theorem takes_refill_off (off : bucket.refill = .off) (samples : List Sample) :
    (takes samples bucket).2.refill = .off := by
  induction samples generalizing bucket with
  | nil => exact off
  | cons sample samples ih =>
      have same : bucket.refillAt sample = bucket := by simp [refillAt, off]
      simp only [takes, take, same]
      split_ifs <;> exact ih off

/-- A bucket still running is refilled no further than its last sample. -/
theorem Ok.takes_running (ok : bucket.Ok) (samples : List Sample)
    (running : (takes samples bucket).2.refill = .running) :
    (takes samples bucket).2.last ≤ (samples.getLast?.map (·.now)).getD bucket.last := by
  induction samples generalizing bucket with
  | nil => exact Nat.le_refl _
  | cons sample samples ih =>
      have later := ih (ok.take sample) running
      rw [List.getLast?_cons]
      cases last : samples.getLast? with
      | some other =>
          rw [last] at later
          exact later
      | none =>
          rw [List.getLast?_eq_none_iff] at last
          subst last
          have kept : (bucket.take sample).2.refill = (bucket.refillAt sample).refill ∧
              (bucket.take sample).2.last = (bucket.refillAt sample).last := by
            unfold Bucket.take
            dsimp only
            split_ifs <;> exact ⟨rfl, rfl⟩
          change (bucket.take sample).2.refill = .running at running
          rw [kept.1] at running
          exact kept.2 ▸ (ok.near running).2.1

theorem Ok.takes_reached (ok : bucket.Ok) (samples : List Sample) :
    (takes samples bucket).2.last ≤ (takes samples bucket).2.reached bucket.last samples := by
  unfold reached
  split
  · next running => exact ok.takes_running samples running
  · exact (ok.takes_run samples).2.2.2

/-- The grants of a run: the capacity, and one for each interval the clock told. -/
theorem Ok.rate (ok : bucket.Ok) (samples : List Sample) :
    (takes samples bucket).1.count true ≤ bucket.capacity +
      ((takes samples bucket).2.reached bucket.last samples - bucket.last) / bucket.interval := by
  cases running : bucket.refill with
  | off => exact ((takes_off running samples).trans ok.tokens).trans (Nat.le_add_right _ _)
  | running =>
      obtain ⟨stopOk, capacity, run, told⟩ := ok.takes_run samples
      refine run.rate (ok.interval running) ?_ (ok.takes_reached samples)
      rw [← capacity]
      exact Nat.sub_le _ _

/-- A run starts where its first sample refills to, at most an interval ago. -/
theorem Ok.window (ok : bucket.Ok) (first : Sample) (rest : List Sample) :
    (takes (first :: rest) bucket).1.count true ≤ bucket.capacity +
      ((takes (first :: rest) bucket).2.reached first.now rest - first.now) / bucket.interval +
      1 := by
  have same : bucket.take first = (bucket.refillAt first).take first := by
    simp only [Bucket.take, ok.refillAt_again first]
  have again : takes (first :: rest) bucket = takes (first :: rest) (bucket.refillAt first) := by
    rw [takes, takes, same]
  have refilledOk := ok.refillAt first
  have rate := refilledOk.rate (first :: rest)
  rw [again]
  rw [refillAt_capacity, refillAt_interval] at rate
  cases running : (bucket.refillAt first).refill with
  | off =>
      have spent := (takes_off running (first :: rest)).trans refilledOk.tokens
      rw [refillAt_capacity] at spent
      exact (spent.trans (Nat.le_add_right _ _)).trans (Nat.le_succ _)
  | running =>
      obtain ⟨valid, order, near⟩ := ok.near running
      generalize takes (first :: rest) (bucket.refillAt first) = result at rate ⊢
      have told : result.2.reached (bucket.refillAt first).last (first :: rest) =
          result.2.reached first.now rest := by
        unfold reached
        split
        · rw [List.getLast?_cons]
          cases rest.getLast? <;> rfl
        · rw [latest_cons, if_pos valid, Nat.max_eq_right order]
      rw [told] at rate
      generalize result.2.reached first.now rest = time at rate ⊢
      have positive := refilledOk.interval running
      rw [refillAt_interval] at positive
      have longer : (time - (bucket.refillAt first).last) / bucket.interval ≤
          (time - first.now + bucket.interval) / bucket.interval :=
        Nat.div_le_div_right (by omega)
      rw [Nat.add_div_right _ positive] at longer
      exact rate.trans (by omega)

end Bucket

end Chrysopolis.Core
