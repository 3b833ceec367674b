import Chrysopolis.Root.MainProperties

/-! Gone is terminal. Over every run, the kernel calls about one child are
restarts, then at most one stop followed by its gone notification, and nothing
after that. -/

set_option autoImplicit false

namespace Chrysopolis.Root

open Chrysopolis.Abi
open Chrysopolis.Support

/-- The act is about the child or signals its gone channel. -/
def RootAct.touches (child : RootChild) : RootAct → Bool
  | .pdRestart target _ | .pdStop target => target == child
  | .notify channel => channel == rootGoneChannel child
  | _ => false

/-- The acts about one child, in order. -/
def childActs (child : RootChild) (acts : List RootAct) : List RootAct :=
  acts.filter (RootAct.touches child)

theorem childActs_append (child : RootChild) (first second : List RootAct) :
    childActs child (first ++ second) = childActs child first ++ childActs child second :=
  List.filter_append ..

theorem mem_childActs {child : RootChild} {act : RootAct} {acts : List RootAct} :
    act ∈ childActs child acts ↔ act ∈ acts ∧ act.touches child = true := List.mem_filter

/-- Only kernel calls touch a child. -/
theorem childActs_calls (child : RootChild) (acts : List RootAct) :
    childActs child (calls acts) = childActs child acts := by
  have same : ∀ act : RootAct, (act.touches child && act.isCall) = act.touches child := by
    intro act
    cases act <;> simp [RootAct.touches, RootAct.isCall]
  simp only [childActs, calls, List.filter_filter, same]

/-- Children that share a wired gone channel are one child. -/
theorem rootGoneChannel_inj {mask : UInt64} {left right : RootChild}
    (wired : rootChannelWired mask (rootGoneChannel left) = true)
    (same : rootGoneChannel left = rootGoneChannel right) : left = right := by
  have small : rootGoneChannel left < 64 := by
    simp only [rootChannelWired, Bool.and_eq_true, decide_eq_true_eq] at wired
    exact wired.1
  simp only [rootGoneChannel] at same small
  split_ifs at same small <;> simp_all [goneChannelBlk, goneChannelBeam, goneChannelNone]

theorem obituary_touches (config : Config) (child : RootChild) :
    childActs child (obituary config child) = obituary config child := by
  simp only [obituary]
  split_ifs
  · simp [childActs, RootAct.touches]
  · rfl

theorem obituary_other (config : Config) {target child : RootChild} (other : target ≠ child) :
    childActs child (obituary config target) = [] := by
  simp only [obituary]
  split_ifs with wired
  · have apart : rootGoneChannel target ≠ rootGoneChannel child :=
      fun same => other (rootGoneChannel_inj wired same)
    simp [childActs, RootAct.touches, apart]
  · rfl

theorem actionCalls_other {config : Config} {target child : RootChild} (other : target ≠ child)
    (entry : UInt64) (action : RootRestartAction) :
    childActs child (actionCalls config target entry action) = [] := by
  simp only [actionCalls]
  cases outcomeOf action with
  | none => rfl
  | charge => simp [childActs, RootAct.touches, other]
  | stop =>
      have rest := obituary_other config other
      simpa [childActs, RootAct.touches, other] using rest

/-- What one callback can do to one child. -/
inductive ChildStep (config : Config) (child : RootChild) (before after : RootChildRecord) :
    List RootAct → Prop where
  | kept (same : after = before) : ChildStep config child before after []
  | restarted (entry : UInt64) (live : before.state = .live) (stays : after.state = .live) :
      ChildStep config child before after [.pdRestart child entry]
  | stopped (live : before.state = .live) (gone : after = rootRecordGiveUp before) :
      ChildStep config child before after (.pdStop child :: obituary config child)

private theorem plan_childStep {config : Config} {child : RootChild} {record : RootChildRecord}
    {ceiling : UInt32} {entry : UInt64} {plan : RootRestartPlanResult}
    (decided : PlanCase record ceiling entry plan) :
    ChildStep config child record plan.next
      (childActs child (actionCalls config child entry plan.action)) := by
  cases decided with
  | ignored gone action next =>
      rw [action]
      exact .kept next
  | resumed live action below usable stays charged =>
      rw [action]
      have acts : childActs child (actionCalls config child entry .resume) =
          [.pdRestart child entry] := by
        simp [actionCalls, outcomeOf, childActs, RootAct.touches]
      rw [acts]
      exact .restarted entry live stays
  | gaveUp live stops next =>
      have effect : outcomeOf plan.action = .stop := stops
      have acts : childActs child (actionCalls config child entry plan.action) =
          .pdStop child :: obituary config child := by
        have rest := obituary_touches config child
        simp only [actionCalls, effect]
        simpa [childActs, RootAct.touches] using rest
      rw [acts]
      exact .stopped live next

/-- Every callback takes one such step for every child. -/
theorem rootStep_childStep (config : Config) (state : RootState) (input : RootInput)
    (child : RootChild) :
    ChildStep config child (state.childRecords child)
      ((rootStep config state input).1.childRecords child)
      (childActs child (rootStep config state input).2) := by
  rw [← childActs_calls]
  cases rootStep_case config state input with
  | requested target request asked effect =>
      have records : (rootStep config state input).1.childRecords =
          (state.decisions.request config target input.spec input.reads.observe).childRecords :=
        congrArg DecisionState.childRecords effect.decisions
      rw [effect.calls, records]
      simp only [DecisionState.request]
      by_cases same : target = child
      · subst same
        rw [Function.update_self]
        exact plan_childStep (rootRestartPlan_of_plan config state.decisions target input.spec
          input.reads.observe)
      · rw [Function.update_of_ne (Ne.symm same), actionCalls_other same]
        exact .kept rfl
  | injected target unasked injection live decisions called decided =>
      have records := congrArg DecisionState.childRecords decisions
      have same : (rootStep config state input).1.childRecords child =
          state.childRecords child := congrFun records child
      rw [called, same]
      by_cases hit : target = child
      · subst hit
        have acts : childActs target [.pdRestart target 0] = [.pdRestart target 0] := by
          simp [childActs, RootAct.touches]
        rw [acts]
        exact .restarted 0 live live
      · have acts : childActs child [.pdRestart target 0] = [] := by
          simp [childActs, RootAct.touches, hit]
        rw [acts]
        exact .kept rfl
  | quiet unasked uninjected decisions silent =>
      have records := congrArg DecisionState.childRecords decisions
      rw [silent.1]
      exact .kept (congrFun records child)

/-! ### Runs -/

/-- The acts about a child so far: restarts, then the stop and the notification
exactly when its record is gone. -/
structure ChildHistory (config : Config) (child : RootChild) (acts : List RootAct)
    (record : RootChildRecord) : Prop where
  shape : ∃ restarts, (∀ act ∈ restarts, ∃ entry, act = .pdRestart child entry) ∧
    childActs child acts =
      restarts ++ if record.state = .gone then .pdStop child :: obituary config child else []

theorem ChildHistory.step {config : Config} {child : RootChild} {emitted acts : List RootAct}
    {before after : RootChildRecord} (history : ChildHistory config child emitted before)
    (step : ChildStep config child before after (childActs child acts)) :
    ChildHistory config child (emitted ++ acts) after := by
  obtain ⟨restarts, onlyRestarts, shape⟩ := history.shape
  constructor
  rw [childActs_append, shape]
  generalize childActs child acts = taken at step
  cases step with
  | kept same =>
      refine ⟨restarts, onlyRestarts, ?_⟩
      rw [same, List.append_nil]
  | restarted entry live stays =>
      refine ⟨restarts ++ [.pdRestart child entry], ?_, ?_⟩
      · intro act member
        rcases List.mem_append.mp member with earlier | latest
        · exact onlyRestarts act earlier
        · exact ⟨entry, List.mem_singleton.mp latest⟩
      · simp [live, stays]
  | stopped live gone =>
      refine ⟨restarts, onlyRestarts, ?_⟩
      simp [live, gone, rootRecordGiveUp]

theorem rootInit_decisions (config : Config) (boot : Boot) :
    (rootInit config boot).1.childRecords = fun _ => {} := by
  simp only [rootInit]

theorem rootInit_silent (config : Config) (boot : Boot) : Silent (rootInit config boot).2 := by
  simp only [rootInit]
  split_ifs <;> exact ⟨rfl, rfl⟩

theorem rootTrace_history (config : Config) (boot : Boot) (inputs : List RootInput)
    (child : RootChild) :
    ChildHistory config child (rootTrace config boot inputs)
      ((rootAfter config boot inputs).childRecords child) := by
  have initial : ChildHistory config child (rootInit config boot).2
      ((rootInit config boot).1.childRecords child) := by
    refine ⟨[], by simp, ?_⟩
    rw [← childActs_calls, (rootInit_silent config boot).1, rootInit_decisions]
    rfl
  exact (rootMachine config).trace_invariant
    (fun emitted state => ChildHistory config child emitted (state.childRecords child))
    (fun emitted state input history =>
      history.step (rootStep_childStep config state input child))
    initial inputs

/-- In a list with one marked element, what follows an occurrence of the mark
follows the mark. -/
private theorem mem_after_mark {α : Type} {mark item : α} {before after restarts rest : List α}
    (split : before ++ mark :: after = restarts ++ mark :: rest) (fresh : mark ∉ restarts)
    (member : item ∈ after) : item ∈ rest := by
  induction restarts generalizing before with
  | nil =>
      cases before with
      | nil =>
          obtain ⟨-, rfl⟩ := List.cons.inj split
          exact member
      | cons head before =>
          obtain ⟨-, rfl⟩ := List.cons.inj split
          exact List.mem_append_right _ (.tail _ member)
  | cons head restarts ih =>
      cases before with
      | nil =>
          obtain ⟨rfl, -⟩ := List.cons.inj split
          exact absurd (.head _) fresh
      | cons first before =>
          obtain ⟨-, split⟩ := List.cons.inj split
          exact ih split fun later => fresh (.tail _ later)

/-- What is neither before the mark nor the mark comes after it. -/
private theorem mark_before {α : Type} {mark item : α} {before after restarts rest : List α}
    (split : before ++ item :: after = restarts ++ mark :: rest) (fresh : item ∉ restarts)
    (different : item ≠ mark) : mark ∈ before := by
  induction restarts generalizing before with
  | nil =>
      cases before with
      | nil =>
          obtain ⟨same, -⟩ := List.cons.inj split
          exact absurd same different
      | cons head before =>
          obtain ⟨rfl, -⟩ := List.cons.inj split
          exact .head _
  | cons head restarts ih =>
      cases before with
      | nil =>
          obtain ⟨rfl, -⟩ := List.cons.inj split
          exact absurd (.head _) fresh
      | cons first before =>
          obtain ⟨-, split⟩ := List.cons.inj split
          exact .tail _ (ih split fun later => fresh (.tail _ later))

section History

variable {config : Config} {child : RootChild} {acts : List RootAct} {record : RootChildRecord}

/-- A child that was stopped is gone. -/
theorem ChildHistory.gone_of_stopped (history : ChildHistory config child acts record)
    (stopped : .pdStop child ∈ acts) : record.state = .gone := by
  obtain ⟨restarts, onlyRestarts, shape⟩ := history.shape
  have member : .pdStop child ∈ childActs child acts :=
    mem_childActs.mpr ⟨stopped, by simp [RootAct.touches]⟩
  rw [shape] at member
  by_contra live
  rw [if_neg live, List.append_nil] at member
  obtain ⟨entry, restart⟩ := onlyRestarts _ member
  cases restart

theorem obituary_mem {act : RootAct} (member : act ∈ obituary config child) :
    act = .notify (rootGoneChannel child) := by
  simp only [obituary] at member
  split_ifs at member
  · exact List.mem_singleton.mp member
  · simp at member

/-- Each child is stopped at most once. -/
theorem ChildHistory.stop_once (history : ChildHistory config child acts record) :
    acts.count (.pdStop child) ≤ 1 := by
  obtain ⟨restarts, onlyRestarts, shape⟩ := history.shape
  have early : restarts.count (.pdStop child) = 0 := by
    refine List.count_eq_zero.mpr fun member => ?_
    obtain ⟨entry, restart⟩ := onlyRestarts _ member
    cases restart
  have late : (obituary config child).count (.pdStop child) = 0 := by
    refine List.count_eq_zero.mpr fun member => ?_
    cases obituary_mem member
  have counted : (childActs child acts).count (.pdStop child) = acts.count (.pdStop child) :=
    List.count_filter (by simp [RootAct.touches])
  rw [← counted, shape, List.count_append, early]
  split_ifs <;> simp [late]

/-- Its gone channel is notified at most once. -/
theorem ChildHistory.notify_once (history : ChildHistory config child acts record) :
    acts.count (.notify (rootGoneChannel child)) ≤ 1 := by
  obtain ⟨restarts, onlyRestarts, shape⟩ := history.shape
  have early : restarts.count (.notify (rootGoneChannel child)) = 0 := by
    refine List.count_eq_zero.mpr fun member => ?_
    obtain ⟨entry, restart⟩ := onlyRestarts _ member
    cases restart
  have late : (obituary config child).count (.notify (rootGoneChannel child)) ≤ 1 := by
    simp only [obituary]
    split_ifs <;> simp
  have counted : (childActs child acts).count (.notify (rootGoneChannel child)) =
      acts.count (.notify (rootGoneChannel child)) :=
    List.count_filter (by simp [RootAct.touches])
  rw [← counted, shape, List.count_append, early]
  split_ifs with gone
  · simpa using late
  · simp

/-- The stop precedes the notification. -/
theorem ChildHistory.stop_first (history : ChildHistory config child acts record)
    {before after : List RootAct}
    (split : acts = before ++ .notify (rootGoneChannel child) :: after) :
    .pdStop child ∈ before := by
  obtain ⟨restarts, onlyRestarts, shape⟩ := history.shape
  have taken : childActs child acts = childActs child before ++
      .notify (rootGoneChannel child) :: childActs child after := by
    rw [split, childActs_append]
    simp [childActs, RootAct.touches]
  have fresh : .notify (rootGoneChannel child) ∉ restarts := by
    intro member
    obtain ⟨entry, restart⟩ := onlyRestarts _ member
    cases restart
  rw [shape] at taken
  by_cases gone : record.state = .gone
  · rw [if_pos gone] at taken
    exact (mem_childActs.mp (mark_before taken.symm fresh (by simp))).1
  · rw [if_neg gone, List.append_nil] at taken
    exact absurd (taken ▸ List.mem_append_right _ (.head _)) fresh

/-- After the stop only the notification is left. -/
theorem ChildHistory.after_stop (history : ChildHistory config child acts record)
    {before after : List RootAct} (split : acts = before ++ .pdStop child :: after)
    {act : RootAct} (member : act ∈ after) (touches : act.touches child = true) :
    act = .notify (rootGoneChannel child) := by
  obtain ⟨restarts, onlyRestarts, shape⟩ := history.shape
  have gone := history.gone_of_stopped (split ▸ List.mem_append_right _ (.head _))
  have taken : childActs child acts = childActs child before ++
      .pdStop child :: childActs child after := by
    rw [split, childActs_append]
    simp [childActs, RootAct.touches]
  have fresh : .pdStop child ∉ restarts := by
    intro member
    obtain ⟨entry, restart⟩ := onlyRestarts _ member
    cases restart
  rw [shape, if_pos gone] at taken
  exact obituary_mem (mem_after_mark taken.symm fresh (mem_childActs.mpr ⟨member, touches⟩))

end History

/-- A gone child is left alone by every callback. -/
theorem rootStep_gone (config : Config) {state : RootState} (input : RootInput)
    {child : RootChild} (gone : (state.childRecords child).state = .gone) :
    (rootStep config state input).1.childRecords child = state.childRecords child ∧
      childActs child (rootStep config state input).2 = [] := by
  have step := rootStep_childStep config state input child
  generalize childActs child (rootStep config state input).2 = taken at step
  cases step with
  | kept same => exact ⟨same, rfl⟩
  | restarted entry live => simp [gone] at live
  | stopped live => simp [gone] at live

/-- A gone child is left alone by every run. -/
theorem rootRun_gone (config : Config) {state : RootState} (inputs : List RootInput)
    {child : RootChild} (gone : (state.childRecords child).state = .gone) :
    ((rootMachine config).after state inputs).childRecords child = state.childRecords child ∧
      childActs child ((rootMachine config).trace state inputs) = [] := by
  induction inputs generalizing state with
  | nil => exact ⟨rfl, rfl⟩
  | cons input inputs ih =>
      obtain ⟨same, taken⟩ := rootStep_gone config input gone
      have next : ((rootStep config state input).1.childRecords child).state = .gone := by
        rw [same]; exact gone
      obtain ⟨rest, later⟩ := ih next
      refine ⟨rest.trans same, ?_⟩
      rw [Transducer.trace_cons, childActs_append]
      exact List.append_eq_nil_iff.mpr ⟨taken, later⟩

/-- What it means that giving a child up is final, over every run from boot. A
give-up is the only place that stops a child. -/
structure GoneTerminal (config : Config) (boot : Boot) (child : RootChild) : Prop where
  /-- A give-up leaves the record gone. -/
  marked : ∀ state input, .pdStop child ∈ (rootStep config state input).2 →
    (rootStep config state input).1.childRecords child =
      rootRecordGiveUp (state.childRecords child)
  /-- No later callback touches the child or its record. -/
  final : ∀ before after, .pdStop child ∈ rootTrace config boot before →
    (∀ act ∈ (rootMachine config).trace (rootAfter config boot before) after,
      act.touches child = false) ∧
    (rootAfter config boot (before ++ after)).childRecords child =
      (rootAfter config boot before).childRecords child
  /-- Nor does the rest of the callback that gave up, its notification aside. -/
  last : ∀ inputs before after,
    rootTrace config boot inputs = before ++ .pdStop child :: after →
    ∀ act ∈ after, act.touches child = true → act = .notify (rootGoneChannel child)
  stopOnce : ∀ inputs, (rootTrace config boot inputs).count (.pdStop child) ≤ 1
  notifyOnce : ∀ inputs,
    (rootTrace config boot inputs).count (.notify (rootGoneChannel child)) ≤ 1
  stopFirst : ∀ inputs before after,
    rootTrace config boot inputs = before ++ .notify (rootGoneChannel child) :: after →
    .pdStop child ∈ before

theorem gone_terminal (config : Config) (boot : Boot) (child : RootChild) :
    GoneTerminal config boot child where
  marked state input stopped := by
    have member : .pdStop child ∈ childActs child (rootStep config state input).2 :=
      mem_childActs.mpr ⟨stopped, by simp [RootAct.touches]⟩
    have step := rootStep_childStep config state input child
    generalize childActs child (rootStep config state input).2 = taken at step member
    cases step with
    | kept same => simp at member
    | restarted entry live stays => simp at member
    | stopped live gone => exact gone
  final before after stopped := by
    have gone := (rootTrace_history config boot before child).gone_of_stopped stopped
    obtain ⟨same, taken⟩ := rootRun_gone config after gone
    refine ⟨fun act member => ?_, ?_⟩
    · by_contra touched
      have present : act ∈ childActs child
          ((rootMachine config).trace (rootAfter config boot before) after) :=
        mem_childActs.mpr ⟨member, by simpa using touched⟩
      simp [taken] at present
    · rw [rootAfter, Transducer.after_append]
      exact same
  last inputs before after split act member touches :=
    (rootTrace_history config boot inputs child).after_stop split member touches
  stopOnce inputs := (rootTrace_history config boot inputs child).stop_once
  notifyOnce inputs := (rootTrace_history config boot inputs child).notify_once
  stopFirst inputs before after split :=
    (rootTrace_history config boot inputs child).stop_first split

end Chrysopolis.Root
