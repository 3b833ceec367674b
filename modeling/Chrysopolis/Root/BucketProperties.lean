import Chrysopolis.Root.CommandProperties
import Chrysopolis.Core.BucketProperties

/-! Root's token bucket over any sequence of calls: it is the unbounded one, no
machine word wraps, and so the rate bounds hold of the commands it lets in. -/

set_option autoImplicit false

namespace Chrysopolis.Root

open Chrysopolis.Abi Chrysopolis.Core

/-- A call Root makes on its command state. -/
inductive CommandCall where
  | frame (channel ppChannel : UInt32) (label count : UInt64)
  | decide (view : RootCommandView) (opcode : UInt16) (args : CommandWords) (now : UInt64)
      (nowValid : Bool)
  | complete (decision : RootCommandDecision)

namespace CommandCall

def perform (state : RootCommandState) : CommandCall → RootCommandState
  | .frame channel ppChannel label count =>
      (rootCommandFrame state channel ppChannel label count).1
  | .decide view opcode args now nowValid =>
      (rootCommandDecide state view opcode args now nowValid).1
  | .complete decision => rootCommandComplete state decision

/-- The clock sample of a well-formed command. -/
def sample : CommandCall → Option Sample
  | .decide _ opcode args now nowValid =>
      if malformed (rowOf opcode.toUInt64) args then none else some ⟨now.toNat, nowValid⟩
  | _ => none

/-- Whether a well-formed command was admitted. -/
def admitted (state : RootCommandState) : CommandCall → Option Bool
  | .decide view opcode args now nowValid =>
      if malformed (rowOf opcode.toUInt64) args then none
      else some ((rootCommandDecide state view opcode args now nowValid).2.result != .rateLimited)
  | _ => none

end CommandCall

/-- Whether each well-formed command was admitted, and the state after the calls. -/
def serve : RootCommandState → List CommandCall → List Bool × RootCommandState
  | state, [] => ([], state)
  | state, call :: calls =>
      let (later, stop) := serve (call.perform state) calls
      ((call.admitted state).toList ++ later, stop)

def RootCommandRefill.toCore : RootCommandRefill → Refill
  | .running => .running
  | .off => .off

/-- The bucket of a command state. -/
def RootCommandState.bucket (state : RootCommandState) : Bucket :=
  ⟨state.refill.toCore, state.capacity.toNat, state.tokens.toNat, state.intervalTicks.toNat,
    state.lastTicks.toNat⟩

/-! ## Words -/

/-- `root_command_init` computes its interval exactly. -/
def InitExact (capacity : UInt32) (refillTicks : UInt64) : Prop :=
  refillTicks.toNat / capacity.toNat + min 1 (refillTicks.toNat % capacity.toNat) < 2 ^ 64

/-- What `refill_step` computes from a sample it takes is exact. -/
structure RefillExact (state : RootCommandState) (now : UInt64) : Prop where
  divisor : state.intervalTicks ≠ 0
  elapsed : state.lastTicks ≤ now
  room : state.tokens ≤ state.capacity
  due : (now - state.lastTicks) / state.intervalTicks < (state.capacity - state.tokens).toUInt64 →
    let due := (now.toNat - state.lastTicks.toNat) / state.intervalTicks.toNat
    due < 2 ^ 32 ∧ state.tokens.toNat + due < 2 ^ 32 ∧ due * state.intervalTicks.toNat < 2 ^ 64 ∧
      state.lastTicks.toNat + due * state.intervalTicks.toNat < 2 ^ 64

theorem initExact {capacity : UInt32} (refillTicks : UInt64) (nonzero : capacity ≠ 0) :
    InitExact capacity refillTicks := by
  have positive : 0 < capacity.toNat :=
    Nat.pos_of_ne_zero fun zero => nonzero (UInt32.toNat.inj zero)
  have whole := Nat.div_add_mod refillTicks.toNat capacity.toNat
  have grown := Nat.le_mul_of_pos_left (refillTicks.toNat / capacity.toNat) positive
  have bound := refillTicks.toNat_lt
  unfold InitExact
  generalize refillTicks.toNat / capacity.toNat = quotient at whole grown ⊢
  omega

theorem RootCommandState.refillExact {state : RootCommandState} {now : UInt64}
    (ok : state.bucket.Ok) (running : state.refill = .running) (order : state.lastTicks ≤ now) :
    RefillExact state now := by
  have interval : 0 < state.intervalTicks.toNat := ok.interval (by simp [bucket, running,
    RootCommandRefill.toCore])
  have room : state.tokens.toNat ≤ state.capacity.toNat := ok.tokens
  refine ⟨fun zero => ?_, order, room, fun due => ?_⟩
  · rw [zero] at interval
    exact Nat.lt_irrefl 0 interval
  · have whole := Nat.div_mul_le_self (now.toNat - state.lastTicks.toNat)
      state.intervalTicks.toNat
    rw [UInt64.lt_iff_toNat_lt, UInt64.toNat_div, UInt64.toNat_sub_of_le _ _ order,
      UInt32.toNat_toUInt64, UInt32.toNat_sub_of_le _ _ room] at due
    rw [UInt64.le_iff_toNat_le] at order
    have wide := now.toNat_lt
    have narrow := state.capacity.toNat_lt
    generalize (now.toNat - state.lastTicks.toNat) / state.intervalTicks.toNat = count
      at whole due ⊢
    refine ⟨?_, ?_, ?_, ?_⟩ <;> omega

theorem RefillExact.due_toNat {state : RootCommandState} {now : UInt64}
    (exact : RefillExact state now) :
    ((now - state.lastTicks) / state.intervalTicks).toNat =
      (now.toNat - state.lastTicks.toNat) / state.intervalTicks.toNat := by
  rw [UInt64.toNat_div, UInt64.toNat_sub_of_le _ _ exact.elapsed]

theorem RefillExact.room_toNat {state : RootCommandState} {now : UInt64}
    (exact : RefillExact state now) :
    (state.capacity - state.tokens).toUInt64.toNat =
      state.capacity.toNat - state.tokens.toNat := by
  rw [UInt32.toNat_toUInt64, UInt32.toNat_sub_of_le _ _ exact.room]

theorem RefillExact.sums {state : RootCommandState} {now : UInt64} (exact : RefillExact state now)
    (few : (now - state.lastTicks) / state.intervalTicks <
      (state.capacity - state.tokens).toUInt64) :
    (state.tokens + ((now - state.lastTicks) / state.intervalTicks).toUInt32).toNat =
        state.tokens.toNat + (now.toNat - state.lastTicks.toNat) / state.intervalTicks.toNat ∧
      (state.lastTicks +
          (now - state.lastTicks) / state.intervalTicks * state.intervalTicks).toNat =
        state.lastTicks.toNat + (now.toNat - state.lastTicks.toNat) /
          state.intervalTicks.toNat * state.intervalTicks.toNat := by
  obtain ⟨narrow, tokens, product, last⟩ := exact.due few
  rw [← exact.due_toNat] at narrow tokens product last ⊢
  constructor
  · rw [UInt32.toNat_add, UInt64.toNat_toUInt32, Nat.mod_eq_of_lt narrow, Nat.mod_eq_of_lt tokens]
  · rw [UInt64.toNat_add, UInt64.toNat_mul, Nat.mod_eq_of_lt product, Nat.mod_eq_of_lt last]

/-! ## One call -/

/-- The rounding of the refill interval. -/
theorem carry_toNat (refillTicks : UInt64) (capacity : UInt32) :
    (if refillTicks % capacity.toUInt64 ≠ 0 then (1 : UInt64) else 0).toNat =
      min 1 (refillTicks.toNat % capacity.toNat) := by
  have part : (refillTicks % capacity.toUInt64).toNat = refillTicks.toNat % capacity.toNat := by
    rw [UInt64.toNat_mod, UInt32.toNat_toUInt64]
  have none : refillTicks % capacity.toUInt64 = 0 ↔ refillTicks.toNat % capacity.toNat = 0 := by
    rw [← UInt64.toNat_inj, part, UInt64.toNat_zero]
  split_ifs with rest
  · have positive := none.not.mp rest
    rw [UInt64.toNat_one]
    omega
  · rw [none.mp (not_not.mp rest)]
    rfl

theorem rootCommandInit_bucket (capacity : UInt32) (refillTicks now : UInt64) (nowValid : Bool) :
    (rootCommandInit capacity refillTicks now nowValid).bucket =
      Bucket.new capacity.toNat refillTicks.toNat now.toNat nowValid := by
  have zero : capacity = 0 ↔ capacity.toNat = 0 := UInt32.toNat_inj.symm
  have still : refillTicks = 0 ↔ refillTicks.toNat = 0 := UInt64.toNat_inj.symm
  by_cases given : capacity ≠ 0 ∧ refillTicks ≠ 0 ∧ nowValid = true
  · have exact : (refillTicks / capacity.toUInt64 +
        (if refillTicks % capacity.toUInt64 ≠ 0 then 1 else 0)).toNat =
          refillTicks.toNat / capacity.toNat + min 1 (refillTicks.toNat % capacity.toNat) := by
      rw [UInt64.toNat_add, carry_toNat, UInt64.toNat_div, UInt32.toNat_toUInt64,
        Nat.mod_eq_of_lt (initExact refillTicks given.1)]
    have counted : capacity.toNat ≠ 0 ∧ refillTicks.toNat ≠ 0 ∧ nowValid = true :=
      ⟨zero.not.mp given.1, still.not.mp given.2.1, given.2.2⟩
    have running : (capacity ≠ 0 && refillTicks ≠ 0 && nowValid) = true := by
      simpa [and_assoc] using given
    rw [rootCommandInit, if_pos running, Bucket.new, if_pos counted, ← exact]
    rfl
  · have counted : ¬(capacity.toNat ≠ 0 ∧ refillTicks.toNat ≠ 0 ∧ nowValid = true) := by
      rwa [ne_eq, ← zero, ne_eq, ← still]
    have off : ¬(capacity ≠ 0 && refillTicks ≠ 0 && nowValid) = true := by
      simpa [and_assoc] using given
    rw [rootCommandInit, if_neg off, Bucket.new, if_neg counted]
    rfl

theorem refillStep_bucketAt {state : RootCommandState} (ok : state.bucket.Ok) (now : UInt64)
    (nowValid : Bool) :
    (refillStep state now nowValid).bucket = state.bucket.refillAt ⟨now.toNat, nowValid⟩ := by
  cases running : state.refill with
  | off => simp [refillStep, Bucket.refillAt, RootCommandState.bucket, running,
      RootCommandRefill.toCore]
  | running =>
      have active : state.bucket.refill = .running := by
        simp [RootCommandState.bucket, running, RootCommandRefill.toCore]
      unfold refillStep Bucket.refillAt
      simp only [running, active]
      by_cases stopped : (!nowValid || decide (now < state.lastTicks)) = true
      · rw [if_pos stopped, if_pos (show (!nowValid || decide (now.toNat < state.bucket.last)) =
          true from stopped)]
        rfl
      · rw [if_neg stopped, if_neg (show ¬(!nowValid || decide (now.toNat < state.bucket.last)) =
          true from stopped)]
        simp only [Bool.or_eq_true, Bool.not_eq_true', decide_eq_true_eq, not_or,
          Bool.not_eq_false, UInt64.not_lt] at stopped
        have words := RootCommandState.refillExact ok running stopped.2
        have counted : ((now - state.lastTicks) / state.intervalTicks).toNat =
            (now.toNat - state.bucket.last) / state.bucket.interval := words.due_toNat
        have roomy : (state.capacity - state.tokens).toUInt64.toNat =
            state.bucket.capacity - state.bucket.tokens := words.room_toNat
        have none : (now - state.lastTicks) / state.intervalTicks = 0 ↔
            (now.toNat - state.bucket.last) / state.bucket.interval = 0 := by
          rw [← counted, ← UInt64.toNat_inj, UInt64.toNat_zero]
        have most : (now - state.lastTicks) / state.intervalTicks ≥
              (state.capacity - state.tokens).toUInt64 ↔
            (now.toNat - state.bucket.last) / state.bucket.interval ≥
              state.bucket.capacity - state.bucket.tokens := by
          rw [← counted, ← roomy, ge_iff_le, ge_iff_le, UInt64.le_iff_toNat_le]
        simp only [none, most]
        split_ifs with early full
        · rfl
        · rfl
        · obtain ⟨tokens, last⟩ := words.sums (UInt64.not_le.mp (most.not.mpr full))
          simp only [RootCommandState.bucket, tokens, last]
          rfl

/-- The bucket of a command state is left alone. -/
theorem tally_bucket (state : RootCommandState) (result : CtlResult) :
    (tally state result).bucket = state.bucket := by
  cases result <;> rfl

/-- A command that has spent its token is admitted, and its answer spends no other. -/
theorem decideOpcode_bucket (state : RootCommandState) (view : RootCommandView)
    (kind : OpcodeClass) (decision : RootCommandDecision) :
    (decideOpcode state view kind decision).1.bucket = state.bucket ∧
      (decideOpcode state view kind decision).2.result ≠ .rateLimited := by
  cases kind with
  | handshake =>
      refine ⟨tally_bucket _ _, ?_⟩
      simp only [decideOpcode]
      split_ifs <;> decide
  | barrier =>
      simp only [decideOpcode]
      split_ifs
      · exact ⟨tally_bucket _ _, by simp⟩
      · exact ⟨tally_bucket _ _, by simp⟩
  | preconditioned =>
      refine ⟨tally_bucket _ _, ?_⟩
      simp only [decideOpcode]
      cases decideRestart_case state view decision with
      | repeated values same result => simp [result]
      | refused result values unrepeated negative answered =>
          rcases negative with rfl | rfl | rfl <;> simp [answered]
      | accepted target preconditions answered => simp [answered]
  | slot => exact ⟨tally_bucket _ _, by simp [decideOpcode]⟩
  | invalid => exact ⟨tally_bucket _ _, by simp [decideOpcode]⟩

/-- A call without a clock sample leaves the bucket alone, and any other takes one. -/
theorem CommandCall.perform_bucket {state : RootCommandState} (ok : state.bucket.Ok)
    (call : CommandCall) :
    match call.sample with
    | none => (call.perform state).bucket = state.bucket ∧ call.admitted state = none
    | some sample =>
        (call.perform state).bucket = (state.bucket.take sample).2 ∧
          call.admitted state = some (state.bucket.take sample).1 := by
  cases call with
  | frame channel ppChannel label count =>
      refine ⟨?_, rfl⟩
      simp only [perform, rootCommandFrame]
      split_ifs <;> rfl
  | complete decision =>
      refine ⟨?_, rfl⟩
      simp only [perform, rootCommandComplete]
      split <;> rfl
  | decide view opcode args now nowValid =>
      cases bad : malformed (rowOf opcode.toUInt64) args with
      | true =>
          simp only [sample, admitted, perform, rootCommandDecide, bad, if_true]
          exact ⟨tally_bucket _ _, trivial⟩
      | false =>
          have refilled := refillStep_bucketAt ok now nowValid
          have tokens : (refillStep state now nowValid).tokens = 0 ↔
              (state.bucket.refillAt ⟨now.toNat, nowValid⟩).tokens = 0 := by
            rw [← refilled, ← UInt32.toNat_inj]
            rfl
          simp only [sample, admitted, perform, rootCommandDecide, bad, Bool.false_eq_true,
            if_false]
          by_cases empty : (refillStep state now nowValid).tokens = 0
          · rw [if_pos empty, Bucket.take, if_pos (tokens.mp empty)]
            exact ⟨(tally_bucket _ _).trans refilled, rfl⟩
          · rw [if_neg empty, Bucket.take, if_neg (tokens.not.mp empty)]
            obtain ⟨spent, admits⟩ := decideOpcode_bucket
              { refillStep state now nowValid with
                tokens := (refillStep state now nowValid).tokens - 1 } view
              (rowOf opcode.toUInt64).kind { result := .unset, opcode, args }
            refine ⟨?_, by simpa using admits⟩
            rw [spent, ← refilled]
            have one : 1 ≤ (refillStep state now nowValid).tokens := by
              rw [UInt32.le_iff_toNat_le]
              exact Nat.pos_of_ne_zero fun zero => empty (UInt32.toNat.inj zero)
            simp only [RootCommandState.bucket, UInt32.toNat_sub_of_le _ _ one]
            rfl

/-! ## Runs -/

theorem serve_bucket {state : RootCommandState} (ok : state.bucket.Ok)
    (calls : List CommandCall) :
    ((serve state calls).1, (serve state calls).2.bucket) =
      Bucket.takes (calls.filterMap CommandCall.sample) state.bucket := by
  induction calls generalizing state with
  | nil => rfl
  | cons call calls ih =>
      have step := call.perform_bucket ok
      cases sampled : call.sample with
      | none =>
          rw [sampled] at step
          have later := @ih (call.perform state) (step.1 ▸ ok)
          rw [step.1] at later
          simpa [serve, List.filterMap_cons, sampled, step.2] using later
      | some sample =>
          rw [sampled] at step
          have later := @ih (call.perform state) (step.1 ▸ ok.take sample)
          rw [step.1] at later
          simp only [serve, List.filterMap_cons, sampled, step.2, Bucket.takes, ← later]
          rfl

/-- Nothing refills a bucket that is off. -/
theorem serve_off {state : RootCommandState} (ok : state.bucket.Ok) (off : state.refill = .off)
    (calls : List CommandCall) :
    (serve state calls).2.refill = .off ∧
      (serve state calls).1.count true ≤ state.tokens.toNat := by
  have same := serve_bucket ok calls
  have stopped : state.bucket.refill = .off := by
    simp [RootCommandState.bucket, off, RootCommandRefill.toCore]
  have stays := Bucket.takes_refill_off stopped (calls.filterMap CommandCall.sample)
  have spent := Bucket.takes_off stopped (calls.filterMap CommandCall.sample)
  rw [← same] at stays spent
  refine ⟨?_, spent⟩
  cases stop : (serve state calls).2.refill with
  | off => rfl
  | running => simp [RootCommandState.bucket, stop, RootCommandRefill.toCore] at stays

/-- The command bucket over every run of calls: it is the unbounded bucket and its
arithmetic is exact, it never holds more than its capacity or refills once off, and
what it admits is bounded by the time the clock told, from the start and over any window. -/
theorem rootCommand_bucket (capacity : UInt32) (refillTicks now : UInt64) (nowValid : Bool)
    (calls : List CommandCall) :
    let start := rootCommandInit capacity refillTicks now nowValid
    let run := serve start calls
    let samples := calls.filterMap CommandCall.sample
    (run.1, run.2.bucket) =
        Bucket.takes samples (.new capacity.toNat refillTicks.toNat now.toNat nowValid) ∧
      (capacity ≠ 0 → InitExact capacity refillTicks) ∧
      (∀ sample : UInt64, run.2.refill = .running → run.2.lastTicks ≤ sample →
        RefillExact run.2 sample) ∧
      run.2.tokens ≤ capacity ∧
      (run.2.refill = .off → ∀ later, (serve run.2 later).2.refill = .off ∧
        (serve run.2 later).1.count true ≤ run.2.tokens.toNat) ∧
      run.1.count true ≤ capacity.toNat +
        (run.2.bucket.reached now.toNat samples - now.toNat) / start.intervalTicks.toNat ∧
      ∀ window : List CommandCall,
        let after := serve run.2 window
        match window.filterMap CommandCall.sample with
        | [] => after.1.count true = 0
        | first :: rest =>
            after.1.count true ≤ capacity.toNat +
              (after.2.bucket.reached first.now rest - first.now) / start.intervalTicks.toNat +
              1 := by
  intro start run samples
  have fresh := rootCommandInit_bucket capacity refillTicks now nowValid
  have ok : start.bucket.Ok := fresh ▸ Bucket.new_ok _ _ _ _
  have same : (run.1, run.2.bucket) = Bucket.takes samples start.bucket := serve_bucket ok calls
  obtain ⟨stopOk, full, -, -⟩ := ok.takes_run samples
  have interval := Bucket.takes_interval samples start.bucket
  have rate := ok.rate samples
  rw [← same] at stopOk full interval rate
  have capacityStart : start.bucket.capacity = capacity.toNat := fresh ▸ (Bucket.new_capacity ..).1
  have lastStart : start.bucket.last = now.toNat := fresh ▸ (Bucket.new_capacity ..).2
  rw [capacityStart] at full rate
  rw [lastStart] at rate
  refine ⟨by rw [← fresh, same], initExact refillTicks, fun sample running order =>
    RootCommandState.refillExact stopOk running order, ?_, serve_off stopOk, rate, fun window => ?_⟩
  · have bound := stopOk.tokens
    rw [full] at bound
    exact UInt32.le_iff_toNat_le.mpr bound
  · have later := serve_bucket stopOk window
    dsimp only at later ⊢
    split
    · next none =>
        rw [none] at later
        rw [congrArg Prod.fst later]
        rfl
    · next first rest some =>
        have bound := Bucket.Ok.window stopOk first rest
        rw [some] at later
        rw [full, interval, ← later] at bound
        exact bound

end Chrysopolis.Root
