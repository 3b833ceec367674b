import Chrysopolis.Root.CallProperties
import Chrysopolis.Root.Publication

/-! Commands execute at most once. An accepted command names the current status
sequence; afterwards the sequence has moved past it, or Root has stopped
publishing and accepts nothing. -/

set_option autoImplicit false

namespace Chrysopolis.Root

open Chrysopolis.Abi
open Chrysopolis.Support

/-! ### The sequence never comes back -/

/-- Root accepts commands only while it publishes. -/
def Publishing (state : RootStatusState) (page : Option Memory) : Prop :=
  page.isSome = true ∧ state.enabled = true

/-- A writer that still publishes has reached `bound`. -/
def SeqReached (bound : Nat) (state : RootStatusState) (page : Option Memory) : Prop :=
  Publishing state page → bound ≤ state.seq.toNat

theorem SeqReached.move {bound : Nat} {events : List RootEvent} {state next : RootStatusState}
    {page nextPage : Option Memory} (reached : SeqReached bound state page)
    (moved : StatusMove state page events next nextPage) : SeqReached bound next nextPage := by
  intro publishing
  cases moved with
  | note child change flags =>
      have kept : (observe state child change).enabled = state.enabled ∧
          (observe state child change).seq = state.seq := by
        simp only [observe]
        split_ifs <;> exact ⟨rfl, rfl⟩
      rw [kept.2]
      exact reached ⟨publishing.1, kept.1 ▸ publishing.2⟩
  | incarnate | policy | report => exact reached publishing
  | stop => exact absurd publishing.2 Bool.false_ne_true
  | publish child record now clockValid events checked known =>
      have ready := publishCheck_ready checked
      have before := reached ⟨rfl, publishing.2⟩
      simp only [publishedState, ready.seq]
      omega

theorem SeqReached.change {bound : Nat} {before after : RootState} {acts : List RootAct}
    (reached : SeqReached bound before.statusState before.statusPage)
    (changed : StatusChange before after acts) :
    SeqReached bound after.statusState after.statusPage :=
  StatusRun.invariant (fun _ state page => SeqReached bound state page)
    (fun held moved => held.move moved) [] reached changed

/-- A publication that leaves Root publishing has moved the sequence on. -/
theorem rootPublish_seq {bound : Nat} {state : RootState} (child : RootChild)
    (events : List RootEvent) (read : UInt64)
    (reached : SeqReached bound state.statusState state.statusPage) :
    SeqReached (bound + 1) (rootPublish state child events read).1.statusState
      (rootPublish state child events read).1.statusPage := by
  by_cases publishing : (state.statusPage.isSome && state.statusState.enabled) = true
  · simp only [rootPublish, if_pos publishing]
    obtain ⟨mapped, enabled⟩ := Bool.and_eq_true_iff.mp publishing
    cases checked : publishCheck state.statusState state.statusPage child
        (some (state.childRecords child)) events with
    | disabled =>
        exfalso
        simp only [publishCheck] at checked
        split_ifs at checked with disabled
        simp [enabled, Option.isNone_eq_false_iff.mpr mapped] at disabled
    | misused =>
        simp only [rootStatusPublish, checked]
        exact fun later => absurd later.2 Bool.false_ne_true
    | exhausted =>
        simp only [rootStatusPublish, checked]
        exact fun later => absurd later.2 Bool.false_ne_true
    | publish =>
        have ready := publishCheck_ready checked
        have before := reached ⟨mapped, enabled⟩
        simp only [rootStatusPublish, checked, reportStatus, publishedState]
        intro _
        rw [ready.seq]
        omega
  · simp only [rootPublish, if_neg publishing]
    intro later
    exact absurd (Bool.and_eq_true_iff.mpr ⟨later.1, later.2⟩) publishing

/-! ### Executions -/

/-- The words of a command that ran the restart path. -/
def executedWords (config : Config) (state : RootState) (input : RootInput) :
    Option CommandWords :=
  match input.callback with
  | .protectedCall _ _ _ args =>
      if decisionsOf (rootStep config state input).2 = [] then none else some args
  | _ => none

/-- The words of every command that ran the restart path, in order. -/
def executions (config : Config) : RootState → List RootInput → List CommandWords
  | _, [] => []
  | state, input :: inputs =>
      (executedWords config state input).toList ++
        executions config (rootStep config state input).1 inputs

/-- Only an accepted command runs the restart path. -/
theorem executedWords_accepted {config : Config} {state : RootState} {input : RootInput}
    {args : CommandWords} (executed : executedWords config state input = some args) :
    ∃ channel label count child, input.callback = .protectedCall channel label count args ∧
      acceptedRestart config state
        ⟨.protectedCall channel label count args, input.spec, input.reads⟩ = some child := by
  obtain ⟨callback, spec, reads⟩ := input
  cases callback with
  | fault => simp [executedWords] at executed
  | notified => simp [executedWords] at executed
  | protectedCall channel label count words =>
      simp only [executedWords] at executed
      split_ifs at executed with idle
      obtain rfl := Option.some.inj executed
      cases accepted : acceptedRestart config state
          ⟨.protectedCall channel label count words, spec, reads⟩ with
      | some child => exact ⟨channel, label, count, child, rfl, accepted⟩
      | none => exact absurd (protectedCall_unaccepted accepted).2.2 idle

/-- An executed command names the sequence Root publishes under, and leaves it behind. -/
theorem executedWords_seq {config : Config} {state : RootState} {input : RootInput}
    {args : CommandWords} (executed : executedWords config state input = some args) :
    Publishing state.statusState state.statusPage ∧ args.w2 = state.statusState.seq ∧
      SeqReached (args.w2.toNat + 1) (rootStep config state input).1.statusState
        (rootStep config state input).1.statusPage := by
  obtain ⟨channel, label, count, child, callback, accepted⟩ := executedWords_accepted executed
  obtain ⟨command, call⟩ := acceptedRestart_call accepted
  have publishing := Bool.and_eq_true_iff.mp call.preconditions.publishing
  have seq : args.w2 = state.statusState.seq := call.preconditions.seq
  refine ⟨publishing, seq, ?_⟩
  have step : rootStep config state input =
      performCommand config { state with commandState := command }
        (acceptedDecision label args child) input.spec input.reads := by
    simp only [rootStep, callback]
    exact call.performed
  rw [step, performCommand_accepted config { state with commandState := command } label args
    input.spec input.reads call.preconditions.live]
  have reached : SeqReached args.w2.toNat state.statusState state.statusPage :=
    fun _ => seq ▸ Nat.le_refl _
  have decided := SeqReached.change reached
    (rootRestartChild_change config { state with commandState := command } child .ctlRestart
      input.spec input.reads)
  exact rootPublish_seq child _ _ decided

/-- Every execution names a sequence the writer had reached. -/
theorem executions_reached {config : Config} {bound : Nat} {state : RootState}
    (inputs : List RootInput) (reached : SeqReached bound state.statusState state.statusPage) :
    ∀ words ∈ executions config state inputs, bound ≤ words.w2.toNat := by
  induction inputs generalizing state with
  | nil => simp [executions]
  | cons input inputs ih =>
      intro words member
      rcases List.mem_append.mp member with now | later
      · obtain ⟨publishing, seq, _⟩ := executedWords_seq (Option.mem_toList.mp now)
        exact seq ▸ reached publishing
      · exact ih (reached.change (rootStep_change config state input)) words later

theorem executions_nodup (config : Config) (state : RootState) (inputs : List RootInput) :
    (executions config state inputs).Nodup := by
  induction inputs generalizing state with
  | nil => exact List.nodup_nil
  | cons input inputs ih =>
      cases executed : executedWords config state input with
      | none =>
          simp only [executions, executed, Option.toList_none, List.nil_append]
          exact ih _
      | some args =>
          simp only [executions, executed, Option.toList_some, List.singleton_append,
            List.nodup_cons]
          refine ⟨fun again => ?_, ih _⟩
          have later := executions_reached inputs (executedWords_seq executed).2.2 args again
          omega

/-! ### Retries -/

/-- A refill moves the bucket alone. -/
theorem refillStep_bucket (state : RootCommandState) (now : UInt64) (nowValid : Bool) :
    ∃ refill tokens lastTicks,
      refillStep state now nowValid = { state with refill, tokens, lastTicks } := by
  unfold refillStep
  cases state.refill with
  | off => exact ⟨_, _, _, rfl⟩
  | running =>
      dsimp only
      split_ifs <;> exact ⟨_, _, _, rfl⟩

/-- A token is left when a command samples the clock in this state. -/
def TokenLeft (state : RootState) (read : UInt64) : Prop :=
  (refillStep state.commandState (rootStatusTicks state read)
    state.rootClockState.available).tokens ≠ 0

/-- A command the fence remembers is answered from it. -/
theorem rootCommandDecide_repeated {state : RootCommandState} (view : RootCommandView)
    {opcode : UInt16} {args values : CommandWords} {now : UInt64} {nowValid : Bool}
    (kind : (rowOf opcode.toUInt64).kind = .preconditioned)
    (wellFormed : malformed (rowOf opcode.toUInt64) args = false)
    (fence : state.fence = .completed opcode args values)
    (token : (refillStep state now nowValid).tokens ≠ 0) :
    ∃ refill tokens lastTicks,
      rootCommandDecide state view opcode args now nowValid =
        ({ state with refill, tokens, lastTicks, accepted := state.accepted + 1 },
          { result := .alreadyDone, opcode, args, values }) := by
  obtain ⟨refill, tokens, lastTicks, refilled⟩ := refillStep_bucket state now nowValid
  refine ⟨refill, tokens - 1, lastTicks, ?_⟩
  rw [refilled] at token
  simp only [rootCommandDecide, wellFormed, refilled, token, kind, decideOpcode, decideRestart,
    fenceRepeats, fence, and_self, if_true, if_false, Bool.false_eq_true, tally]

/-- A framed command the fence remembers is answered from it. -/
theorem protectedCall_repeated {config : Config} {state : RootState} {channel : UInt32}
    {label count : UInt64} {args values : CommandWords} (spec : SpecPageRead) {reads : Reads}
    (framed : (rootCommandFrame state.commandState channel controlPpChannelRoot label count).2 =
      .ok)
    (kind : (rowOf label.toUInt16.toUInt64).kind = .preconditioned)
    (wellFormed : malformed (rowOf label.toUInt16.toUInt64) args = false)
    (fence : state.commandState.fence = .completed label.toUInt16 args values)
    (token : TokenLeft state reads.entry) :
    ∃ refill tokens lastTicks,
      protectedCall config state channel label count args spec reads =
        ({ state with
            commandState :=
              { state.commandState with
                refill, tokens, lastTicks
                accepted := state.commandState.accepted + 1 } },
          [.reply .alreadyDone values]) := by
  obtain ⟨refill, tokens, lastTicks, decided⟩ :=
    rootCommandDecide_repeated (rootCommandView config state) kind wellFormed fence token
  refine ⟨refill, tokens, lastTicks, ?_⟩
  simp only [protectedCall, framed, ne_eq, not_true_eq_false, if_false,
    rootCommandFrame_ok framed, decideCommand, decided, performCommand]

/-- An identical retry right after an executed command answers with its values
and moves nothing but the bucket and the tally of accepted commands. -/
theorem executed_retry {config : Config} {state : RootState} {input retry : RootInput}
    {args : CommandWords} (executed : executedWords config state input = some args)
    (same : retry.callback = input.callback)
    (token : TokenLeft (rootStep config state input).1 retry.reads.entry) :
    ∃ values refill tokens lastTicks,
      (rootStep config state input).2.getLast? = some (.reply .ok values) ∧
        rootStep config (rootStep config state input).1 retry =
          ({ (rootStep config state input).1 with
              commandState :=
                { (rootStep config state input).1.commandState with
                  refill, tokens, lastTicks
                  accepted := (rootStep config state input).1.commandState.accepted + 1 } },
            [.reply .alreadyDone values]) := by
  obtain ⟨channel, label, count, child, callback, accepted⟩ := executedWords_accepted executed
  obtain ⟨command, call⟩ := acceptedRestart_call accepted
  have step : rootStep config state input =
      performCommand config { state with commandState := command }
        (acceptedDecision label args child) input.spec input.reads := by
    simp only [rootStep, callback]
    exact call.performed
  obtain ⟨values, fence, answer⟩ : ∃ values,
      (rootStep config state input).1.commandState.fence =
          .completed label.toUInt16 args values ∧
        (rootStep config state input).2.getLast? = some (.reply .ok values) := by
    rw [step, performCommand_accepted config { state with commandState := command } label args
      input.spec input.reads call.preconditions.live]
    exact ⟨_, rfl, by simp⟩
  obtain ⟨refill, tokens, lastTicks, repeated⟩ := protectedCall_repeated retry.spec
    ((rootCommandFrame_result _ _ _ _ _ _).trans call.framed) call.kind call.wellFormed fence token
  refine ⟨values, refill, tokens, lastTicks, answer, ?_⟩
  simp only [rootStep, same, callback] at repeated ⊢
  exact repeated

/-! ### Refusals -/

/-- Every call that runs the restart path is answered ok. -/
theorem protectedCall_refused {config : Config} {state : RootState} {channel : UInt32}
    {label count : UInt64} {args values : CommandWords} {result : CtlResult}
    {spec : SpecPageRead} {reads : Reads}
    (answer : (protectedCall config state channel label count args spec reads).2.getLast? =
      some (.reply result values)) (refused : result ≠ .ok) :
    Silent (protectedCall config state channel label count args spec reads).2 := by
  cases accepted : acceptedRestart config state
      ⟨.protectedCall channel label count args, spec, reads⟩ with
  | none => exact (protectedCall_unaccepted accepted).2
  | some child =>
      obtain ⟨command, call⟩ := acceptedRestart_call accepted
      rw [call.performed, performCommand_accepted config { state with commandState := command }
        label args spec reads call.preconditions.live] at answer
      simp only [List.getLast?_append, List.getLast?_singleton, Option.some_or,
        Option.some.injEq, RootAct.reply.injEq] at answer
      exact absurd answer.1.symm refused

/-- From every state and over every run: equal words run the restart path at most
once, an identical retry is answered from the fence, and a command answered
stale, refused, rate limited or bad argument never reaches the restart path. -/
theorem commands_at_most_once (config : Config) (state : RootState) :
    (∀ inputs, (executions config state inputs).Nodup) ∧
    (∀ input retry args, executedWords config state input = some args →
      retry.callback = input.callback →
      TokenLeft (rootStep config state input).1 retry.reads.entry →
      ∃ values refill tokens lastTicks,
        (rootStep config state input).2.getLast? = some (.reply .ok values) ∧
          rootStep config (rootStep config state input).1 retry =
            ({ (rootStep config state input).1 with
                commandState :=
                  { (rootStep config state input).1.commandState with
                    refill, tokens, lastTicks
                    accepted := (rootStep config state input).1.commandState.accepted + 1 } },
              [.reply .alreadyDone values])) ∧
    (∀ channel label count args spec reads result values,
      (protectedCall config state channel label count args spec reads).2.getLast? =
        some (.reply result values) →
      result ∈ [.stale, .refused, .rateLimited, .badArg] →
      Silent (protectedCall config state channel label count args spec reads).2) := by
  refine ⟨executions_nodup config state, ?_, ?_⟩
  · intro input retry args executed same token
    exact executed_retry executed same token
  · intro channel label count args spec reads result values answer negative
    refine protectedCall_refused answer ?_
    rintro rfl
    exact absurd negative (by decide)

/-- A RESTART_CHILD call for the serial driver of a freshly booted Root. -/
def sampleRestart : RootInput :=
  { callback := .protectedCall controlPpChannelRoot 2 4 ⟨0, 1, 2, 0⟩
    spec := .still fun _ => 0
    reads := sampleReads }

/-- The retry is answered already done, and it counts as one more accepted command. -/
theorem retry_counted :
    (executedWords sampleConfig (rootInit sampleConfig sampleBoot).1 sampleRestart =
        some ⟨0, 1, 2, 0⟩) ∧
      (rootStep sampleConfig (rootAfter sampleConfig sampleBoot [sampleRestart])
          sampleRestart).2 = [.reply .alreadyDone ⟨3, 0, 1, 4⟩] ∧
      (rootAfter sampleConfig sampleBoot [sampleRestart, sampleRestart]).commandState.accepted ≠
        (rootAfter sampleConfig sampleBoot [sampleRestart]).commandState.accepted := by
  decide +kernel

end Chrysopolis.Root
