import Chrysopolis.Root.Command

/-! What a command decision can be. Only RESTART_CHILD acts, only when every
precondition holds, and no other answer carries an action. -/

set_option autoImplicit false

namespace Chrysopolis.Root

open Chrysopolis.Abi

/-- The preconditions of an accepted restart. -/
structure RestartAccepted (state : RootCommandState) (view : RootCommandView)
    (opcode : UInt16) (args : CommandWords) (child : RootChild) : Prop where
  unrepeated : fenceRepeats state opcode args = none
  word : args.w0 ≤ 0xFFFFFFFF
  target : rootChildFromRaw args.w0.toUInt32 view.presentMask = some child
  driver : maskBit view.driverMask child.val = true
  live : (view.records child).state ≠ .gone
  publishing : view.publishing = true
  generation : args.w1 = view.rootGeneration
  seq : args.w2 = view.seq
  count : args.w3 = (view.records child).lifetimeCount.toUInt64

/-- One case per way the restart preconditions can be answered. -/
inductive DecideRestartCase (state : RootCommandState) (view : RootCommandView)
    (decision answer : RootCommandDecision) : Prop where
  | repeated (values : CommandWords)
      (same : fenceRepeats state decision.opcode decision.args = some values)
      (result : answer = { decision with result := .alreadyDone, values })
  | refused (result : CtlResult) (values : CommandWords)
      (unrepeated : fenceRepeats state decision.opcode decision.args = none)
      (negative : result = .badArg ∨ result = .refused ∨ result = .stale)
      (answered : answer = { decision with result, values })
  | accepted (child : RootChild)
      (preconditions : RestartAccepted state view decision.opcode decision.args child)
      (answered : answer = { decision with result := .ok, action := .restart child })

theorem decideRestart_case (state : RootCommandState) (view : RootCommandView)
    (decision : RootCommandDecision) :
    DecideRestartCase state view decision (decideRestart state view decision) := by
  unfold decideRestart
  cases repeated : fenceRepeats state decision.opcode decision.args with
  | some values => exact .repeated values repeated rfl
  | none =>
      dsimp only
      split_ifs with wide
      · exact .refused .badArg decision.values repeated (.inl rfl) rfl
      · cases target : rootChildFromRaw decision.args.w0.toUInt32 view.presentMask with
        | none => exact .refused .badArg decision.values repeated (.inl rfl) rfl
        | some child =>
            dsimp only
            split_ifs with unusable outdated
            · exact .refused .refused decision.values repeated (.inr (.inl rfl)) rfl
            · exact .refused .stale _ repeated (.inr (.inr rfl)) rfl
            · simp only [Bool.or_eq_true, Bool.not_eq_true', decide_eq_true_eq, not_or,
                Bool.not_eq_false] at unusable
              simp only [not_or, not_not] at outdated
              exact .accepted child
                { unrepeated := repeated
                  word := UInt64.not_lt.mp wide
                  target
                  driver := unusable.1.1
                  live := unusable.1.2
                  publishing := unusable.2
                  generation := outdated.1
                  seq := outdated.2.1
                  count := outdated.2.2 } rfl

theorem refillStep_fence (state : RootCommandState) (now : UInt64) (nowValid : Bool) :
    (refillStep state now nowValid).fence = state.fence := by
  unfold refillStep
  cases state.refill with
  | off => rfl
  | running =>
      dsimp only
      split_ifs <;> rfl

theorem tally_fence (state : RootCommandState) (result : CtlResult) :
    (tally state result).fence = state.fence := by
  cases result <;> rfl

/-- The fence only depends on the remembered command. -/
theorem fenceRepeats_congr {left right : RootCommandState} (same : left.fence = right.fence)
    (opcode : UInt16) (args : CommandWords) :
    fenceRepeats left opcode args = fenceRepeats right opcode args := by
  simp only [fenceRepeats, same]

/-- The opcode classes other than RESTART_CHILD's never act. -/
theorem decideOpcode_action {state : RootCommandState} {view : RootCommandView}
    {kind : OpcodeClass} {decision : RootCommandDecision} (idle : decision.action = .none)
    (other : kind ≠ .preconditioned) :
    (decideOpcode state view kind decision).2.action = .none := by
  cases kind with
  | preconditioned => exact absurd rfl other
  | barrier =>
      simp only [decideOpcode]
      split_ifs <;> exact idle
  | _ => exact idle

/-- A command with an action is an accepted RESTART_CHILD, and it leaves the
remembered command alone. -/
theorem rootCommandDecide_accepted {state : RootCommandState} {view : RootCommandView}
    {opcode : UInt16} {args : CommandWords} {now : UInt64} {nowValid : Bool} {child : RootChild}
    (accepted :
      (rootCommandDecide state view opcode args now nowValid).2.action.target = some child) :
    (rowOf opcode.toUInt64).kind = .preconditioned ∧
      RestartAccepted state view opcode args child ∧
      (rootCommandDecide state view opcode args now nowValid).2 =
        { result := .ok, action := .restart child, opcode, args } ∧
      (rootCommandDecide state view opcode args now nowValid).1.fence = state.fence := by
  simp only [rootCommandDecide] at accepted ⊢
  split_ifs at accepted ⊢ with bad limited
  · simp [RootCommandAction.target] at accepted
  · simp [RootCommandAction.target] at accepted
  · by_cases kind : (rowOf opcode.toUInt64).kind = .preconditioned
    · rw [kind] at accepted ⊢
      simp only [decideOpcode] at accepted ⊢
      cases decideRestart_case
          { refillStep state now nowValid with
            tokens := (refillStep state now nowValid).tokens - 1 } view
          { result := .unset, opcode, args } with
      | repeated values same result =>
          rw [result] at accepted
          simp [RootCommandAction.target] at accepted
      | refused result values unrepeated negative answered =>
          rw [answered] at accepted
          simp [RootCommandAction.target] at accepted
      | accepted target preconditions answered =>
          rw [answered] at accepted ⊢
          obtain rfl : target = child := by
            simpa [RootCommandAction.target] using accepted
          refine ⟨trivial, { preconditions with unrepeated := ?_ }, rfl, ?_⟩
          · rw [← preconditions.unrepeated]
            exact fenceRepeats_congr (refillStep_fence state now nowValid).symm opcode args
          · exact (tally_fence _ _).trans (refillStep_fence state now nowValid)
    · rw [decideOpcode_action rfl kind] at accepted
      simp [RootCommandAction.target] at accepted

end Chrysopolis.Root
