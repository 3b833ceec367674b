import Mathlib.Data.List.Nodup
import Mathlib.Tactic.IntervalCases
import Chrysopolis.Control.SystemProperties

/-! Restarts over the device: a restart is performed once however often it is written, and one
whose reply is lost, to a close or to a restart of BEAM, is answered again by the same words. -/

set_option autoImplicit false

namespace Chrysopolis.Control

open Chrysopolis.Abi
open Chrysopolis.Support
open Chrysopolis.Root
open Chrysopolis.Beam

/-- A restart that Root performed. -/
def Event.restarted? : Event → Option (CtlCall × PpcAnswer)
  | .called _ call answer =>
      if CtlCall.restarts call = true ∧ answer.label = .ofNat CtlResult.ok.tag then
        some (call, answer)
      else none
  | _ => none

/-- The words of the restarts Root performed, the newest first. -/
def restartWords (log : List Event) : List CommandWords :=
  log.filterMap fun event => event.restarted?.map fun performed => wordsOf performed.1.args

/-- The restart Root performed last. -/
def lastRestart (log : List Event) : Option (CtlCall × PpcAnswer) :=
  log.findSome? Event.restarted?

/-- The callback that a step makes of Root, if any. -/
def inputOf (state : State) : Action → Option RootInput
  | .root input =>
      match input.callback with
      | .protectedCall .. => none
      | _ => some input
  | .writes fd data count spec reads =>
      match (runtimeCtlWrite state.owner fd data count).2 with
      | .error _ => none
      | .ok call => some (callInput call spec reads)
  | _ => none

/-- The callbacks of Root that a run makes. -/
def inputsOf (config : Config) : State → List Action → List RootInput
  | _, [] => []
  | state, action :: rest =>
      (inputOf state action).toList ++ inputsOf config (step config state action).1 rest

/-- What Root remembers is the restart it performed last. -/
inductive Recalls : RootCommandFence → Option (CtlCall × PpcAnswer) → Prop where
  | empty : Recalls .empty none
  | completed {call : CtlCall} {answer : PpcAnswer} (restarts : CtlCall.restarts call = true)
      (wellFormed : malformed (rowOf call.opcode.toUInt64) (wordsOf call.args) = false) :
      Recalls (.completed call.opcode (wordsOf call.args) (wordsOf answer.registers))
        (some (call, answer))

/-- What one step of the system is to Root. -/
structure RootMove (config : Config) (state next : State) (events : List Event)
    (input : Option RootInput) : Prop where
  root : next.root =
    (input.map fun input => (rootStep config state.root input).1).getD state.root
  words : restartWords events =
    (input.bind fun input => executedWords config state.root input).toList
  recalls : ∀ last, Recalls state.root.commandState.fence last →
    Recalls next.root.commandState.fence ((lastRestart events).or last)

variable {config : Config} {state next : State} {log events : List Event}

/-! ### Steps -/

theorem restartAndPublish_commandState (config : Config) (state : RootState) (child : RootChild)
    (request : Request) (first : List RootEvent) (spec : SpecPageRead) (reads : Reads) :
    (restartAndPublish config state child request first spec reads).1.commandState =
      state.commandState :=
  (rootPublish_commandState ..).trans
    (rootRestartChild_effect config state child request spec reads).commandState

/-- Faults and notifications have nothing to do with commands. -/
theorem rootStep_commandState (config : Config) (state : RootState) (input : RootInput)
    (other : ∀ channel label count args, input.callback ≠ .protectedCall channel label count args) :
    (rootStep config state input).1.commandState = state.commandState := by
  obtain ⟨callback, spec, reads⟩ := input
  cases callback with
  | fault rawChild label count mr0 mr1 =>
      simp only [rootStep, fault]
      split
      · rfl
      · exact restartAndPublish_commandState ..
  | notified channel =>
      simp only [rootStep, notified]
      split
      · exact restartAndPublish_commandState ..
      · split_ifs
        · rfl
        · exact rootPublish_commandState ..
      · rfl
  | protectedCall channel label count args => exact absurd rfl (other channel label count args)

theorem executedWords_other (config : Config) (state : RootState) (input : RootInput)
    (other : ∀ channel label count args, input.callback ≠ .protectedCall channel label count args) :
    executedWords config state input = none := by
  obtain ⟨callback, spec, reads⟩ := input
  cases callback with
  | fault | notified => rfl
  | protectedCall channel label count args => exact absurd rfl (other channel label count args)

theorem lastRestart_silent (silent : ∀ event ∈ events, event.restarted? = none) :
    lastRestart events = none :=
  List.findSome?_eq_none_iff.mpr silent

theorem restartWords_silent (silent : ∀ event ∈ events, event.restarted? = none) :
    restartWords events = [] := by
  refine List.filterMap_eq_nil_iff.mpr fun event member => ?_
  rw [silent event member]
  rfl

/-- A step that Root has no part in. -/
theorem RootMove.aside (root : next.root = state.root)
    (silent : ∀ event ∈ events, event.restarted? = none) :
    RootMove config state next events none where
  root := root
  words := restartWords_silent silent
  recalls := fun last remembered => by
    rw [lastRestart_silent silent, Option.none_or, root]
    exact remembered

/-- A callback that is no command. -/
theorem RootMove.other {input : RootInput}
    (other : ∀ channel label count args, input.callback ≠ .protectedCall channel label count args)
    (root : next.root = (rootStep config state.root input).1)
    (silent : ∀ event ∈ events, event.restarted? = none) :
    RootMove config state next events (some input) where
  root := root
  words := by
    rw [restartWords_silent silent, Option.bind_some, executedWords_other _ _ _ other]
    rfl
  recalls := fun last remembered => by
    rw [lastRestart_silent silent, Option.none_or, root,
      rootStep_commandState config state.root input other]
    exact remembered

/-- A command, performed or only answered. -/
theorem RootMove.called (config : Config) (state : State) (owner : CtlOwner) (fd : Int)
    (call : CtlCall) (spec : SpecPageRead) (reads : Reads) :
    RootMove config state
      { root := (rootStep config state.root (callInput call spec reads)).1, owner }
      [.called fd call (answerOf (rootStep config state.root (callInput call spec reads)).2)]
      (some (callInput call spec reads)) := by
  cases callCase config state.root call spec reads with
  | executed values restarts wellFormed words reply fence =>
      have performed : (Event.called fd call
          (answerOf (rootStep config state.root (callInput call spec reads)).2)).restarted? =
            some (call, answerOf (rootStep config state.root (callInput call spec reads)).2) := by
        simp only [Event.restarted?, restarts, answerOf, reply, and_self, if_true]
      refine ⟨rfl, ?_, fun last _ => ?_⟩
      · simp [restartWords, performed, words]
      · rw [lastRestart, List.findSome?_cons_of_isSome (by rw [performed]; rfl), performed, fence]
        rw [Option.some_or]
        have answered : values = wordsOf
            (answerOf (rootStep config state.root (callInput call spec reads)).2).registers := by
          simp only [answerOf, reply, wordsOf_registers]
        nth_rewrite 1 [answered]
        exact .completed restarts wellFormed
  | answered reply values answer refused words acts fence =>
      have silent : (Event.called fd call
          (answerOf (rootStep config state.root (callInput call spec reads)).2)).restarted? =
            none := by
        simp only [Event.restarted?, answerOf, acts, List.getLast?_singleton, label_ok]
        exact if_neg fun both => refused both.1 both.2
      have quiet := lastRestart_silent (List.forall_mem_singleton.mpr silent)
      refine ⟨rfl, ?_, fun last remembered => ?_⟩
      · rw [restartWords_silent (List.forall_mem_singleton.mpr silent), Option.bind_some, words]
        rfl
      · rw [quiet, Option.none_or, fence]
        exact remembered

theorem step_root (config : Config) (state : State) (input : RootInput) :
    RootMove config state (step config state (.root input)).1 (step config state (.root input)).2
      (inputOf state (.root input)) := by
  obtain ⟨callback, spec, reads⟩ := input
  cases callback with
  | protectedCall channel label count args => exact .aside rfl (by simp [step])
  | fault rawChild label count mr0 mr1 =>
      simp only [step, inputOf]
      split_ifs
      · exact .other (by simp) rfl (by simp [Event.restarted?])
      · exact .other (by simp) rfl (by simp)
  | notified channel =>
      simp only [step, inputOf]
      split_ifs
      · exact .other (by simp) rfl (by simp [Event.restarted?])
      · exact .other (by simp) rfl (by simp)

theorem step_rootMove (config : Config) (state : State) (action : Action) :
    RootMove config state (step config state action).1 (step config state action).2
      (inputOf state action) := by
  cases action with
  | root input => exact step_root ..
  | opens readWrite callable alloc =>
      simp only [step, inputOf]
      split
      · exact .aside rfl (by simp [Event.restarted?])
      · exact .aside rfl (by simp)
  | writes fd data count spec reads =>
      cases called : (runtimeCtlWrite state.owner fd data count).2 with
      | error status =>
          simp only [step, inputOf, called]
          exact .aside rfl (by simp)
      | ok call =>
          simp only [step, inputOf, called]
          exact .called ..
  | reads fd data count =>
      simp only [step, inputOf]
      split
      · exact .aside rfl (by simp [Event.restarted?])
      · exact .aside rfl (by simp)
  | closes fd =>
      simp only [step, inputOf]
      split_ifs
      · exact .aside rfl (by simp [Event.restarted?])
      · exact .aside rfl (by simp)

/-! ### Runs -/

theorem restartWords_append (events log : List Event) :
    restartWords (events ++ log) = restartWords events ++ restartWords log :=
  List.filterMap_append ..

theorem lastRestart_append (events log : List Event) :
    lastRestart (events ++ log) = (lastRestart events).or (lastRestart log) :=
  List.findSome?_append ..

theorem executions_toList (config : Config) (root : RootState) (input : Option RootInput)
    (inputs : List RootInput) :
    executions config root (input.toList ++ inputs) =
      (input.bind fun input => executedWords config root input).toList ++
        executions config
          ((input.map fun input => (rootStep config root input).1).getD root) inputs := by
  cases input <;> rfl

/-- The restarts of a run are the commands that Root executed. -/
theorem run_restartWords (config : Config) (state : State) (log : List Event)
    (actions : List Action) :
    restartWords (run config (state, log) actions).2 =
      (executions config state.root (inputsOf config state actions)).reverse ++
        restartWords log := by
  induction actions generalizing state log with
  | nil => rfl
  | cons action rest induct =>
      have move := step_rootMove config state action
      have single : restartWords (step config state action).2 =
          (restartWords (step config state action).2).reverse := by
        rw [move.words]
        cases (inputOf state action).bind fun input => executedWords config state.root input <;> rfl
      calc restartWords (run config (state, log) (action :: rest)).2
          = (executions config (step config state action).1.root
              (inputsOf config (step config state action).1 rest)).reverse ++
              restartWords ((step config state action).2 ++ log) := induct ..
        _ = (executions config state.root (inputsOf config state (action :: rest))).reverse ++
              restartWords log := by
            rw [restartWords_append, inputsOf, executions_toList, ← move.words, ← move.root,
              List.reverse_append, List.append_assoc, ← single]

theorem run_recalls (config : Config) {state : State} {log : List Event} (actions : List Action)
    (remembered : Recalls state.root.commandState.fence (lastRestart log)) :
    Recalls (run config (state, log) actions).1.root.commandState.fence
      (lastRestart (run config (state, log) actions).2) := by
  induction actions generalizing state log with
  | nil => exact remembered
  | cons action rest induct =>
      refine induct ?_
      rw [lastRestart_append]
      exact (step_rootMove config state action).recalls _ remembered

/-- Root takes the calls of a restart as frames. -/
theorem framedCall_restarts (state : RootState) {call : CtlCall}
    (restarts : CtlCall.restarts call = true) : (framedCall state call).2 = .ok := by
  have kind : (rowOf call.opcode.toUInt64).kind = .preconditioned := by
    simpa [CtlCall.restarts] using restarts
  simp [framedCall, rootCommandFrame, kind, runtimeCtlWords, rootCommandWords]

theorem registers_wordsOf (registers : Vector UInt64 4) :
    #v[(wordsOf registers).w0, (wordsOf registers).w1, (wordsOf registers).w2,
      (wordsOf registers).w3] = registers := by
  refine Vector.ext fun index bound => ?_
  interval_cases index <;> rfl

/-- A restart that Root remembers is answered from what it remembers. -/
theorem again_answered {call : CtlCall} {answer : PpcAnswer} {fd : Int} {data : Option Memory}
    {count : Nat} (spec : SpecPageRead) {reads : Reads}
    (again : (runtimeCtlWrite state.owner fd data count).2 = .ok call)
    (restarts : CtlCall.restarts call = true)
    (wellFormed : malformed (rowOf call.opcode.toUInt64) (wordsOf call.args) = false)
    (fence : state.root.commandState.fence =
      .completed call.opcode (wordsOf call.args) (wordsOf answer.registers))
    (token : TokenLeft state.root reads.entry) :
    ∃ refill tokens lastTicks,
      (step config state (.writes fd data count spec reads)).1.root =
          { state.root with
            commandState :=
              { state.root.commandState with
                refill, tokens, lastTicks
                accepted := state.root.commandState.accepted + 1 } } ∧
        (step config state (.writes fd data count spec reads)).2 =
          [.called fd call
            { label := .ofNat CtlResult.alreadyDone.tag
              words := .ofNat rootCommandWords
              registers := answer.registers }] := by
  have kind : (rowOf call.opcode.toUInt64).kind = .preconditioned := by
    simpa [CtlCall.restarts] using restarts
  rw [← toUInt64_toUInt16 call.opcode] at kind wellFormed fence
  obtain ⟨refill, tokens, lastTicks, repeated⟩ :=
    protectedCall_repeated spec (framedCall_restarts state.root restarts) kind wellFormed fence
      token
  have answered : rootStep config state.root (callInput call spec reads) = _ := repeated
  refine ⟨refill, tokens, lastTicks, ?_, ?_⟩
  · simp only [step, again, answered]
  · simp only [step, again, answered, answerOf, List.getLast?_singleton, registers_wordsOf]

/-- The device has one owner at a time, each command written in its session is answered with a
result, and each read takes Root's answer to the command last written, whatever closes and
restarts of BEAM come between. -/
theorem device_lawful (config : Config) (start : Boot) (actions : List Action) :
    Lawful (run config (boot config start) actions).2 :=
  (Sound.run Sound.boot).lawful

/-- A restart is performed once. While it is the last one performed, to write it again, in any
session, is answered by its words, and moves nothing in Root but the bucket and a tally. -/
theorem restart_performed_once (config : Config) (start : Boot) (actions : List Action)
    {state : State} {log : List Event}
    (reached : run config (boot config start) actions = (state, log)) :
    (restartWords log).Nodup ∧
      ∀ {call : CtlCall} {answer : PpcAnswer} {fd : Int} {data : Option Memory} {count : Nat}
        (spec : SpecPageRead) {reads : Reads},
        lastRestart log = some (call, answer) →
        (runtimeCtlWrite state.owner fd data count).2 = .ok call →
        TokenLeft state.root reads.entry →
        ∃ refill tokens lastTicks,
          (step config state (.writes fd data count spec reads)).1.root =
              { state.root with
                commandState :=
                  { state.root.commandState with
                    refill, tokens, lastTicks
                    accepted := state.root.commandState.accepted + 1 } } ∧
            (step config state (.writes fd data count spec reads)).2 =
              [.called fd call
                { label := .ofNat CtlResult.alreadyDone.tag
                  words := .ofNat rootCommandWords
                  registers := answer.registers }] := by
  have begun : (run config ((boot config start).1, []) actions) = (state, log) := reached
  constructor
  · have words := run_restartWords config (boot config start).1 [] actions
    rw [begun] at words
    rw [words, restartWords, List.filterMap_nil, List.append_nil]
    exact List.nodup_reverse.mpr (executions_nodup ..)
  · intro call answer fd data count spec reads last again token
    have fresh : Recalls (boot config start).1.root.commandState.fence (lastRestart []) := by
      rw [show (boot config start).1.root.commandState.fence = .empty from
        (rootInit_fresh config start).1]
      exact .empty
    have remembered := run_recalls config actions fresh
    rw [begun, last] at remembered
    generalize fence : state.root.commandState.fence = stored at remembered
    cases remembered with
    | completed restarts wellFormed =>
        exact again_answered spec again restarts wellFormed fence token

/-- RESTART_CHILD for the serial driver of a freshly booted Root, as a command record. -/
def sampleRecord : Memory :=
  ctlLayout.assign (fun _ => 0)
    ([(.magic, magicCommand), (.version, abiVersion), (.kind, 2)] ++
      (List.finRange 4).map fun word => (.word word, word.val % 3))

/-- The restart is written, and BEAM is restarted before its reply is read. -/
def lostReply : List Action :=
  [ .opens true true (.ok 3),
    .writes 3 (some sampleRecord) ctlRecordSize (.still fun _ => 0) sampleReads,
    .root (sampleFault childBeam),
    .opens true true (.ok 4) ]

def sampleCall : CtlCall := { opcode := 2, args := #v[0, 1, 2, 0] }

/-- BEAM asks again after its restart, and reads what it asked for before. -/
theorem restart_performed_once_lost :
    (restartWords (run sampleConfig (boot sampleConfig sampleBoot) lostReply).2).Nodup ∧
      (step sampleConfig (run sampleConfig (boot sampleConfig sampleBoot) lostReply).1
          (.writes 4 (some sampleRecord) ctlRecordSize (.still fun _ => 0) sampleReads)).2 =
        [.called 4 sampleCall
          { label := .ofNat CtlResult.alreadyDone.tag
            words := .ofNat rootCommandWords
            registers := #v[3, 0, 1, 4] }] := by
  have reached := restart_performed_once sampleConfig sampleBoot lostReply rfl
  have last : lastRestart (run sampleConfig (boot sampleConfig sampleBoot) lostReply).2 =
      some (sampleCall,
        { label := .ofNat CtlResult.ok.tag
          words := .ofNat rootCommandWords
          registers := #v[3, 0, 1, 4] }) := by
    decide +kernel
  obtain ⟨refill, tokens, lastTicks, moved, answered⟩ :=
    reached.2 (.still fun _ => 0) last
      (by decide +kernel : (runtimeCtlWrite
        (run sampleConfig (boot sampleConfig sampleBoot) lostReply).1.owner 4
        (some sampleRecord) ctlRecordSize).2 = .ok sampleCall)
      (by decide +kernel : (refillStep _ (rootStatusTicks _ sampleReads.entry) _).tokens ≠ 0)
  exact ⟨reached.1, answered⟩

end Chrysopolis.Control
