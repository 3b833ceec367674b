import Chrysopolis.Root.ModelRequestProperties

/-! Root beside its Erlang model over a whole run. A request moves both alike, and so does every
command but one: the model leaves reply word 1 of a restart that gives up at zero. -/

set_option autoImplicit false

namespace Chrysopolis.Root

open Chrysopolis.Abi
open Chrysopolis.Support

/-! ### One command -/

/-- A carried out restart of a live child resumes it exactly below its ceiling. -/
theorem rootRestartChild_resumes {config : Config} {state : RootState} {child : RootChild}
    (selector : config.rootTestBudget = false)
    (common : config.beamResetEntry = config.restartEntry) (usable : config.restartEntry ≠ 0)
    (live : (state.childRecords child).state ≠ .gone) (request : Request) (page : Memory)
    (reads : Reads) :
    (rootRestartChild config state child request (.still page) reads).action = .resume ↔
      (state.childRecords child).lifetimeCount <
        rootSpecBudget (state.decisions.consumed config (.still page)).1 child
          (rootRestartBudget child) hardBudgetMax := by
  rw [(rootRestartChild_effect config state child request (.still page) reads).action,
    plan_lifetime state.decisions child (.still page) reads.observe selector,
    rootRestartEntry_common common]
  change rootRestartDecide (state.childRecords child) _ _ = .resume ↔ _
  simp only [rootRestartDecide, if_neg live, if_neg usable]
  split_ifs with spent
  · exact ⟨fun never => absurd never (by decide),
      fun below => absurd spent (UInt32.not_le.mpr below)⟩
  · exact ⟨fun _ => UInt32.not_le.mp spent, fun _ => rfl⟩

/-- Reply word 1 of the model to a carried out restart. -/
theorem answered_w1 {label : UInt64} {args : CommandWords} {child : RootChild}
    {decided : Core.CommandDecision}
    (agreed : SameCommandDecision decided (acceptedDecision label args child))
    (told : Core.Decided) : (Core.ChrysoRoot.answered decided told).values.w1 = 0 := by
  change decided.values.w1 = 0
  rw [agreed.values]
  rfl

/-- The replies to a restart that resumed its child. -/
theorem answered_same {label : UInt64} {args : CommandWords} {child : RootChild}
    {decided : Core.CommandDecision}
    (agreed : SameCommandDecision decided (acceptedDecision label args child))
    {told : Core.Decided} {published : RootState} (acted : told.action = .resume)
    (record : SameRecord told.record (published.childRecords child))
    (seq : told.seq = published.statusState.seq.toNat) :
    SameCommandDecision (Core.ChrysoRoot.answered decided told)
      (restartReply (acceptedDecision label args child) child .resume published) := by
  refine ⟨agreed.result, agreed.action, agreed.opcode, agreed.args, ?_⟩
  have first := answered_w1 agreed told
  simp only [Core.ChrysoRoot.answered, acted, if_true] at first ⊢
  rw [first, record.lifetime, seq, ← UInt32.toNat_toUInt64]
  rfl

/-- The reason of a restart that gave up is in the C's reply alone. -/
theorem answered_differs {label : UInt64} {args : CommandWords} {child : RootChild}
    {decided : Core.CommandDecision}
    (agreed : SameCommandDecision decided (acceptedDecision label args child))
    (told : Core.Decided) {action : RootRestartAction} (stops : action.GivesUp)
    (published : RootState) :
    (Core.ChrysoRoot.answered decided told).values ≠
      modelWords (restartReply (acceptedDecision label args child) child action
        published).values := by
  intro same
  have first := congrArg Core.Words.w1 same
  rw [answered_w1 agreed told] at first
  cases action <;>
    simp [RootRestartAction.GivesUp, outcomeOf, restartReply, modelWords, rootStatusGiveup,
      RootGiveupReason.tag] at stops first

/-- The decision on a framed command. -/
def framedDecision (config : Config) (state : RootState) (label : UInt64) (args : CommandWords)
    (now : UInt64) : RootCommandState × RootCommandDecision :=
  rootCommandDecide state.commandState (rootCommandView config state) label.toUInt16 args now true

theorem decideCommand_framed {config : Config} {boot : Boot} {root : Core.Root} {state : RootState}
    (models : Models config boot root state) {label count : UInt64} (args : CommandWords)
    (now : UInt64)
    (framed : (rootCommandFrame state.commandState controlPpChannelRoot controlPpChannelRoot label
      count).2 = .ok) :
    decideCommand config state (rootCommandFrame state.commandState controlPpChannelRoot
        controlPpChannelRoot label count).1 label args now =
      framedDecision config state label args now := by
  rw [rootCommandFrame_ok framed]
  simp only [decideCommand, framedDecision, rootStatusTicks, models.clock.available, if_true]

theorem frame_declared {state : RootCommandState} {channel : UInt32} {label count : UInt64}
    (framed : (rootCommandFrame state channel channel label count).2 = .ok) :
    (rowOf label).kind ≠ .invalid := by
  intro invalid
  simp [rootCommandFrame, invalid] at framed

/-- A frame the C refuses. -/
theorem refusedFrame_holds {config : Config} {boot : Boot} {root : Core.Root} {state : RootState}
    (models : Models config boot root state) {label count : UInt64} {args : CommandWords}
    {page : Memory} {reads : Reads} (room : TallyRoom state.commandState)
    (refused : (rootCommandFrame state.commandState controlPpChannelRoot controlPpChannelRoot label
      count).2 ≠ .ok) :
    StepHolds config boot root state ⟨.command label count args, page, reads⟩ := by
  obtain ⟨result, command⟩ := frame_same models.command room controlPpChannelRoot label count
  have rejected : (Core.Command.frame root.command controlPpChannelRoot.toNat
      controlPpChannelRoot.toNat label.toNat count.toNat).1 ≠ .ok := by
    intro framed
    rw [framed] at result
    exact refused result.symm
  have pp : root.config.pp = controlPpChannelRoot.toNat := by
    rw [models.constants]
    rfl
  have following := models.command_moved command
  have stepped : rootStep config state (ModelStep.input ⟨.command label count args, page, reads⟩) =
      ({ state with
          commandState := (rootCommandFrame state.commandState controlPpChannelRoot
            controlPpChannelRoot label count).1 },
        [.reply (rootCommandFrame state.commandState controlPpChannelRoot controlPpChannelRoot label
          count).2 {}]) := by
    simp only [ModelStep.input, ModelEvent.callback, rootStep, protectedCall, if_pos refused]
  unfold StepHolds
  rw [stepped]
  let reply : Core.Reply :=
    { result := (Core.Command.frame root.command controlPpChannelRoot.toNat
        controlPpChannelRoot.toNat label.toNat count.toNat).1
      values := {} }
  refine ⟨{ reply := some reply }, _, ?_, following.agrees rfl ⟨_, rfl, result, rfl, ?_⟩,
    following⟩
  · simp only [modelStep, Core.ChrysoRoot.command, pp, if_neg rejected]
    rfl
  · simp [reply]

theorem coreFrame_ok {command : Core.CommandState} {channel ppChannel label count : Nat}
    (framed : (Core.Command.frame command channel ppChannel label count).1 = .ok) :
    (Core.Command.frame command channel ppChannel label count).2 = command := by
  simp only [Core.Command.frame] at framed ⊢
  split_ifs at framed ⊢
  rfl

/-- What the model does with a framed command. -/
structure FramedCommand (config : Config) (boot : Boot) (root : Core.Root) (state : RootState)
    (label count : UInt64) (args : CommandWords) (page : Memory) (reads : Reads)
    (answer : Core.CommandDecision) (command : Core.CommandState) : Prop where
  stepped : modelStep config root ⟨.command label count args, page, reads⟩ =
    (Core.ChrysoRoot.act answer { root with command } (some (refreshPage config page))).map
      fun result => ({ decided := result.2.1, reply := some result.1 }, result.2.2)
  agreed : SameCommandDecision answer (framedDecision config state label args reads.entry).2
  models : Models config boot { root with command }
    { state with commandState := (framedDecision config state label args reads.entry).1 }

theorem modelStep_framed {config : Config} {boot : Boot} {root : Core.Root} {state : RootState}
    (models : Models config boot root state) {label count : UInt64} (args : CommandWords)
    (page : Memory) (reads : Reads) (room : TallyRoom state.commandState)
    (framed : (rootCommandFrame state.commandState controlPpChannelRoot controlPpChannelRoot label
      count).2 = .ok) :
    ∃ answer command,
      FramedCommand config boot root state label count args page reads answer command := by
  obtain ⟨result, _⟩ := frame_same models.command room controlPpChannelRoot label count
  have passed : (Core.Command.frame root.command controlPpChannelRoot.toNat
      controlPpChannelRoot.toNat label.toNat count.toNat).1 = .ok := by
    rw [framed] at result
    generalize (Core.Command.frame root.command _ _ _ _).1 = told at result ⊢
    cases told <;> simp [tracedResult] at result ⊢
  have pp : root.config.pp = controlPpChannelRoot.toNat := by
    rw [models.constants]
    rfl
  obtain ⟨answer, command, decided, agreed, same⟩ := commandDecide_same models.command room
    models.views (frame_declared framed) args reads.entry
  refine ⟨answer, command, ?_, agreed, models.command_moved same⟩
  simp only [modelStep, Core.ChrysoRoot.command, pp, if_pos passed, coreFrame_ok passed, decided]
  rfl

/-- A command that carries no action. -/
theorem idleCommand_holds {config : Config} {boot : Boot} {root : Core.Root} {state : RootState}
    (models : Models config boot root state) {label count : UInt64} {args : CommandWords}
    {page : Memory} {reads : Reads} (room : TallyRoom state.commandState)
    (framed : (rootCommandFrame state.commandState controlPpChannelRoot controlPpChannelRoot label
      count).2 = .ok)
    (idle : (framedDecision config state label args reads.entry).2.action = .none) :
    StepHolds config boot root state ⟨.command label count args, page, reads⟩ := by
  obtain ⟨answer, command, answered, agreed, following⟩ :=
    modelStep_framed models args page reads room framed
  have quiet : answer.action = none := by
    rw [agreed.action, idle]
    rfl
  have stepped : rootStep config state (ModelStep.input ⟨.command label count args, page, reads⟩) =
      ({ state with commandState := (framedDecision config state label args reads.entry).1 },
        [.reply (framedDecision config state label args reads.entry).2.result
          (framedDecision config state label args reads.entry).2.values]) := by
    simp only [ModelStep.input, ModelEvent.callback, rootStep, protectedCall,
      if_neg (not_not.mpr framed), decideCommand_framed models args reads.entry framed,
      performCommand, idle]
  unfold StepHolds
  rw [stepped, answered]
  simp only [Core.ChrysoRoot.act, quiet]
  refine ⟨_, _, rfl, following.agrees rfl ⟨_, rfl, agreed.result, agreed.values, ?_⟩, following⟩
  rintro _ ⟨⟩
  exact congrArg Core.Bucket.tokens following.command.bucket

/-- What carrying out an accepted command does on both sides. -/
structure AcceptedPair (config : Config) (boot : Boot) (root : Core.Root) (state : RootState)
    (label count : UInt64) (args : CommandWords) (page : Memory) (reads : Reads)
    (child : RootChild) (answer : Core.CommandDecision) (told : Core.Decided) (next : Core.Root)
    (restarted : Restarted) (published : RootState × List RootAct) : Prop where
  agreed : SameCommandDecision answer (acceptedDecision label args child)
  model : modelStep config root ⟨.command label count args, page, reads⟩ =
    some (
      { decided := some told
        reply := some
          { result := .ok
            values := (Core.ChrysoRoot.answered answer told).values
            tokens := some (Core.Command.complete next.command
              (Core.ChrysoRoot.answered answer told)).bucket.tokens } },
      { next with
        command := Core.Command.complete next.command (Core.ChrysoRoot.answered answer told) })
  stepped : rootStep config state (ModelStep.input ⟨.command label count args, page, reads⟩) =
    ({ published.1 with
        commandState := rootCommandComplete published.1.commandState
          (restartReply (acceptedDecision label args child) child restarted.action published.1) },
      restarted.acts ++ published.2 ++
        [.reply .ok
          (restartReply (acceptedDecision label args child) child restarted.action
            published.1).values])
  same : SameDecision told ⟨child, .ctlRestart, restarted.action, restarted.spec⟩ published.1
  models : Models config boot next published.1
  decisions : decisionsOf (restarted.acts ++ published.2) =
    [⟨child, .ctlRestart, restarted.action, restarted.spec⟩]
  replies : repliesOf (restarted.acts ++ published.2) = []
  acted : restarted.action ≠ .ignoreGone
  resumes : restarted.action = .resume ↔
    (state.childRecords child).lifetimeCount <
      rootSpecBudget (state.decisions.consumed config (.still page)).1 child
        (rootRestartBudget child) hardBudgetMax

theorem acceptedCommand_pair {config : Config} {boot : Boot} {root : Core.Root} {state : RootState}
    (models : Models config boot root state) {label count : UInt64} {args : CommandWords}
    {page : Memory} {reads : Reads}
    (ready : StepReady config state ⟨.command label count args, page, reads⟩)
    (framed : (rootCommandFrame state.commandState controlPpChannelRoot controlPpChannelRoot label
      count).2 = .ok) {child : RootChild}
    (accepted : (framedDecision config state label args reads.entry).2.action.target = some child) :
    ∃ answer told next restarted published,
      AcceptedPair config boot root state label count args page reads child answer told next
        restarted published := by
  obtain ⟨answer, command, answered, agreed, following⟩ :=
    modelStep_framed models args page reads ready.unexhausted.tallies framed
  obtain ⟨_, preconditions, decision, _⟩ := rootCommandDecide_accepted accepted
  rw [show (framedDecision config state label args reads.entry).2 =
    acceptedDecision label args child from decision] at agreed
  let before : RootState :=
    { state with commandState := (framedDecision config state label args reads.entry).1 }
  let restarted := rootRestartChild config before child .ctlRestart (.still page) reads
  let control := [controlEvent before child .restartChild args.w2 reads.control]
  let published := rootPublish restarted.state child (requestEvents restarted child control reads)
    reads.publish
  have live : (before.childRecords child).state ≠ .gone := preconditions.live
  have known : maskBit (rootPresentChildren config) child.val = true :=
    rootChildFromRaw_present preconditions.target
  have stepped : rootStep config state (ModelStep.input ⟨.command label count args, page, reads⟩) =
      ({ published.1 with
          commandState := rootCommandComplete published.1.commandState
            (restartReply (acceptedDecision label args child) child restarted.action
              published.1) },
        restarted.acts ++ published.2 ++
          [.reply .ok
            (restartReply (acceptedDecision label args child) child restarted.action
              published.1).values]) := by
    have performed := performCommand_accepted config before label args (.still page) reads live
    simp only [ModelStep.input, ModelEvent.callback, rootStep, protectedCall,
      if_neg (not_not.mpr framed), decideCommand_framed models args reads.entry framed]
    rw [show (framedDecision config state label args reads.entry).2 =
      acceptedDecision label args child from decision]
    exact performed
  have quiet := ready.unexhausted.publisher
  rw [stepped] at quiet
  have few : control.length ≤ 1 := Nat.le_refl 1
  obtain ⟨told, next, decided, command, same, settled⟩ :=
    request_same following ready.selector ready.common ready.usable known few ready.order
      (fun told => quiet (List.mem_append_left _ (List.mem_append_right _ told)))
  have acted := rootRestartChild_acts config .ctlRestart (.still page) reads live
  refine ⟨answer, told, next, restarted, published, agreed, ?_, stepped, same, settled, ?_, ?_,
    acted, rootRestartChild_resumes ready.selector ready.common ready.usable live .ctlRestart page
      reads⟩
  · have action : answer.action = some child.val := agreed.action
    have carried : told.action ≠ .ignoreGone := by
      intro ignored
      have traced : tracedAction told.action = restarted.action := same.action
      rw [ignored] at traced
      exact acted traced.symm
    rw [answered]
    simp only [Core.ChrysoRoot.act, action, decided, Option.bind_eq_bind, Option.bind_some,
      if_neg carried]
    rfl
  · have requested := rootRestartChild_requested config before child .ctlRestart (.still page) reads
    have effect := rootRestartChild_effect config before child .ctlRestart (.still page) reads
    rw [decisionsOf_append, requested.decided, (rootPublish_silent ..).2,
      show restarted.action = _ from effect.action, show restarted.spec = _ from effect.result]
    rfl
  · rw [repliesOf_append, rootRestartChild_replies, rootPublish_replies]
    rfl

theorem SameDecision.congr {told : Core.Decided} {decision : Decision} {before after : RootState}
    (same : SameDecision told decision before) (records : after.childRecords = before.childRecords)
    (spec : after.specState = before.specState) (status : after.statusState = before.statusState) :
    SameDecision told decision after := by
  refine ⟨same.child, same.action, ?_, same.spec, ?_, ?_⟩
  · rw [records]
    exact same.record
  · rw [spec]
    exact same.retained
  · rw [status]
    exact same.seq

/-- A command that resumes its child. -/
theorem AcceptedPair.holds {config : Config} {boot : Boot} {root next : Core.Root}
    {state : RootState} {label count : UInt64} {args : CommandWords} {page : Memory} {reads : Reads}
    {child : RootChild} {answer : Core.CommandDecision} {told : Core.Decided}
    {restarted : Restarted} {published : RootState × List RootAct}
    (pair : AcceptedPair config boot root state label count args page reads child answer told next
      restarted published) (resumed : restarted.action = .resume) :
    StepHolds config boot root state ⟨.command label count args, page, reads⟩ := by
  have acted : told.action = .resume := by
    have traced : tracedAction told.action = .resume := pair.same.action.trans resumed
    cases action : told.action <;> simp [tracedAction, action] at traced
    rfl
  have replied := answered_same pair.agreed acted pair.same.record pair.same.seq
  have completed := complete_same pair.models.command replied
  have following := pair.models.command_moved completed
  unfold StepHolds
  rw [pair.stepped, pair.model, resumed]
  refine ⟨_, _, rfl, following.agrees ?_ ?_, following⟩
  · refine ⟨_, ?_, pair.same.congr rfl rfl rfl⟩
    rw [decisionsOf_append, pair.decisions]
    rfl
  · refine ⟨(.ok, (restartReply (acceptedDecision label args child) child .resume
      published.1).values), ?_, rfl, replied.values, ?_⟩
    · rw [repliesOf_append, pair.replies]
      rfl
    · rintro _ ⟨⟩
      exact congrArg Core.Bucket.tokens following.command.bucket

/-- A command that gives its child up: the replies differ in word 1. -/
theorem AcceptedPair.differs {config : Config} {boot : Boot} {root next : Core.Root}
    {state : RootState} {label count : UInt64} {args : CommandWords} {page : Memory} {reads : Reads}
    {child : RootChild} {answer : Core.CommandDecision} {told : Core.Decided}
    {restarted : Restarted} {published : RootState × List RootAct}
    (pair : AcceptedPair config boot root state label count args page reads child answer told next
      restarted published) (stopped : restarted.action ≠ .resume)
    {reply : ModelAnswer} {later : Core.Root}
    (answered : modelStep config root ⟨.command label count args, page, reads⟩ =
      some (reply, later)) :
    ¬ StepAgrees reply later
      (rootStep config state (ModelStep.input ⟨.command label count args, page, reads⟩)).1
      (rootStep config state (ModelStep.input ⟨.command label count args, page, reads⟩)).2 := by
  intro agrees
  have stops : restarted.action.GivesUp := by
    have acted := pair.acted
    cases action : restarted.action <;> simp_all [RootRestartAction.GivesUp, outcomeOf]
  rw [pair.model] at answered
  obtain ⟨rfl, rfl⟩ := Prod.mk.inj (Option.some.inj answered)
  rw [pair.stepped] at agrees
  obtain ⟨given, replies, same⟩ := agrees.replied
  rw [repliesOf_append, pair.replies] at replies
  obtain rfl := List.cons.inj replies |>.1
  exact answered_differs pair.agreed told stops published.1 same.values

/-- A step agrees exactly when it keeps below the ceiling. -/
theorem step_agrees {config : Config} {boot : Boot} {root : Core.Root} {state : RootState}
    (models : Models config boot root state) {step : ModelStep}
    (ready : StepReady config state step) :
    (KeepsBelow config state step → StepHolds config boot root state step) ∧
      (¬ KeepsBelow config state step → ∀ answer next,
        modelStep config root step = some (answer, next) →
          ¬ StepAgrees answer next (rootStep config state step.input).1
            (rootStep config state step.input).2) := by
  obtain ⟨event, page, reads⟩ := step
  cases event with
  | fault child label count mr0 mr1 =>
      have below : KeepsBelow config state ⟨.fault child label count mr0 mr1, page, reads⟩ :=
        fun child accepted => absurd accepted (by simp [acceptedRestart, ModelStep.input,
          ModelEvent.callback])
      exact ⟨fun _ => fault_holds models ready, fun above => absurd below above⟩
  | debugRestart index =>
      have below : KeepsBelow config state ⟨.debugRestart index, page, reads⟩ :=
        fun child accepted => absurd accepted (by simp [acceptedRestart, ModelStep.input,
          ModelEvent.callback])
      exact ⟨fun _ => debugRestart_holds models ready, fun above => absurd below above⟩
  | command label count args =>
      by_cases framed : (rootCommandFrame state.commandState controlPpChannelRoot
          controlPpChannelRoot label count).2 = .ok
      · have asked : acceptedRestart config state
            (ModelStep.input ⟨.command label count args, page, reads⟩) =
              (framedDecision config state label args reads.entry).2.action.target := by
          simp only [acceptedRestart, ModelStep.input, ModelEvent.callback,
            if_neg (not_not.mpr framed), decideCommand_framed models args reads.entry framed]
        cases target : (framedDecision config state label args reads.entry).2.action.target with
        | none =>
            have idle : (framedDecision config state label args reads.entry).2.action = .none := by
              cases action : (framedDecision config state label args reads.entry).2.action with
              | none => rfl
              | restart child => simp [action, RootCommandAction.target] at target
            have below : KeepsBelow config state ⟨.command label count args, page, reads⟩ :=
              fun child accepted => absurd (asked.symm.trans accepted) (by simp [target])
            exact ⟨fun _ => idleCommand_holds models ready.unexhausted.tallies framed idle,
              fun above => absurd below above⟩
        | some child =>
            obtain ⟨answer, told, next, restarted, published, pair⟩ :=
              acceptedCommand_pair models ready framed target
            have below : KeepsBelow config state ⟨.command label count args, page, reads⟩ ↔
                restarted.action = .resume := by
              rw [pair.resumes]
              constructor
              · exact fun keeps => keeps child (asked.trans target)
              · intro less other accepted
                obtain rfl := Option.some.inj ((asked.trans target).symm.trans accepted)
                exact less
            exact ⟨fun keeps => pair.holds (below.mp keeps),
              fun above _ _ answered => pair.differs (fun resumed => above (below.mpr resumed))
                answered⟩
      · have below : KeepsBelow config state ⟨.command label count args, page, reads⟩ :=
          fun child accepted => absurd accepted (by simp [acceptedRestart, ModelStep.input,
            ModelEvent.callback, framed])
        exact ⟨fun _ => refusedFrame_holds models ready.unexhausted.tallies framed,
          fun above => absurd below above⟩

/-! ### Runs -/

theorem sampled_lastTicks (state : DecisionState) (read : UInt64) :
    (state.sampled read).lastTicks = state.rootClockState.lastTicks ∨
      (state.sampled read).lastTicks = read := by
  simp only [DecisionState.sampled, rootClockObserve]
  split_ifs <;> simp

/-- The clock Root decides with moves to a sample of the step, or stays. -/
theorem rootStep_lastTicks (config : Config) (state : RootState) (input : RootInput) :
    (rootStep config state input).1.rootClockState.lastTicks = state.rootClockState.lastTicks ∨
      (rootStep config state input).1.rootClockState.lastTicks = input.reads.observe := by
  have still : ∀ after : RootState, after.decisions = state.decisions →
      after.rootClockState.lastTicks = state.rootClockState.lastTicks :=
    fun _ same => congrArg (·.rootClockState.lastTicks) same
  cases rootStep_case config state input with
  | requested child request asked effect =>
      have moved : (rootStep config state input).1.rootClockState.lastTicks =
          (state.decisions.sampled input.reads.observe).lastTicks := by
        refine (congrArg (·.rootClockState.lastTicks) effect.decisions).trans ?_
        simp only [DecisionState.request]
        split_ifs <;> rfl
      rw [moved]
      exact sampled_lastTicks state.decisions input.reads.observe
  | injected child unasked injection live decisions => exact .inl (still _ decisions)
  | quiet unasked uninjected decisions => exact .inl (still _ decisions)

/-- The samples the clock checks see. -/
def observed (steps : List ModelStep) : List UInt64 := steps.map (·.reads.observe)

theorem observed_sublist (boot : Boot) (steps : List ModelStep) :
    (boot.observe :: observed steps).Sublist (samplesOf boot steps) := by
  have later : (observed steps).Sublist (steps.flatMap fun step =>
      [ step.reads.entry, step.reads.control, step.reads.observe, step.reads.outcome,
        step.reads.specEvent, step.reads.publish ]) := by
    induction steps with
    | nil => exact List.Sublist.refl _
    | cons step steps ih =>
        have one : [step.reads.observe].Sublist
            [ step.reads.entry, step.reads.control, step.reads.observe, step.reads.outcome,
              step.reads.specEvent, step.reads.publish ] := by
          simp
        exact one.append ih
  have first : [boot.observe].Sublist [boot.observe, boot.status, boot.command] := by simp
  exact first.append later

/-- From related states, the two sides agree exactly while no command gives a child up. -/
theorem agree_iff {config : Config} {boot : Boot} (selector : config.rootTestBudget = false)
    (common : config.beamResetEntry = config.restartEntry) (usable : config.restartEntry ≠ 0)
    {root : Core.Root} {state : RootState} (models : Models config boot root state)
    (steps : List ModelStep)
    (clock : (state.rootClockState.lastTicks :: observed steps).Pairwise (· ≤ ·))
    (present : ∀ step ∈ steps, step.event.Present config)
    (unexhausted : EveryStep config (Unexhausted config) state steps) :
    Agree config state root steps ↔ EveryStep config (KeepsBelow config) state steps := by
  induction steps generalizing root state with
  | nil => exact Iff.rfl
  | cons step steps ih =>
      have order := List.rel_of_pairwise_cons clock (List.mem_cons_self ..)
      have ready : StepReady config state step :=
        ⟨selector, common, usable, present step (List.mem_cons_self ..), unexhausted.1, order⟩
      obtain ⟨holds, differs⟩ := step_agrees models ready
      have later : ((rootStep config state step.input).1.rootClockState.lastTicks ::
          observed steps).Pairwise (· ≤ ·) := by
        rcases rootStep_lastTicks config state step.input with same | moved
        · rw [same]
          exact clock.sublist ((List.sublist_cons_self _ _).cons_cons _)
        · rw [moved]
          exact clock.sublist (List.sublist_cons_self _ _)
      have rest : ∀ {next}, Models config boot next (rootStep config state step.input).1 →
          (Agree config (rootStep config state step.input).1 next steps ↔
            EveryStep config (KeepsBelow config) (rootStep config state step.input).1 steps) :=
        fun following => ih following later
          (fun step member => present step (List.mem_cons_of_mem _ member)) unexhausted.2
      constructor
      · rintro ⟨answer, next, answered, agrees, tail⟩
        have below : KeepsBelow config state step :=
          by_contra fun above => differs above answer next answered agrees
        obtain ⟨_, _, again, _, following⟩ := holds below
        obtain ⟨rfl, rfl⟩ := Prod.mk.inj (Option.some.inj (answered.symm.trans again))
        exact ⟨below, (rest following).mp tail⟩
      · rintro ⟨below, tail⟩
        obtain ⟨answer, next, answered, agrees, following⟩ := holds below
        exact ⟨answer, next, answered, agrees, (rest following).mpr tail⟩

/-! ### Boot -/

theorem bootClock_ready {boot : Boot}
    (frequency : clockMinHz ≤ boot.frequency ∧ boot.frequency ≤ clockMaxHz) :
    ClockReady (bootClock boot).1 ∧ (bootClock boot).1.lastTicks = boot.observe := by
  obtain ⟨slow, fast⟩ := frequency
  have within : (clockMinHz < 1000 || clockMinHz > clockMaxHz || boot.frequency < clockMinHz ||
      boot.frequency > clockMaxHz) = false := by
    simp [UInt64.not_lt.mpr slow, UInt64.not_lt.mpr fast]
    decide
  have scaled : boot.frequency / 1000 + (if boot.frequency % 1000 ≠ 0 then 1 else 0) ≠ 0 := by
    intro zero
    have whole := congrArg UInt64.toNat zero
    have hertz : 1000000 ≤ boot.frequency.toNat := UInt64.le_iff_toNat_le.mp slow
    have limit := boot.frequency.toNat_lt
    have carried : (if boot.frequency % 1000 ≠ 0 then (1 : UInt64) else 0).toNat ≤ 1 := by
      split_ifs <;> decide
    have thousand : (1000 : UInt64).toNat = 1000 := rfl
    rw [UInt64.toNat_add, UInt64.toNat_div, thousand, UInt64.toNat_zero] at whole
    omega
  simp only [bootClock, rootClockInit, within, Bool.false_eq_true, if_false, ne_eq,
    not_true_eq_false, rootClockObserve, Bool.not_true, scaled, Bool.false_and]
  exact ⟨⟨rfl, scaled⟩, trivial⟩

/-- The bucket of a booted Root. -/
theorem rootInit_bucket (config : Config) {boot : Boot}
    (ready : (bootClock boot).1.available = true) :
    (rootInit config boot).1.commandState.bucket =
      .new (modelConfig config boot).tokens (modelConfig config boot).refill
        (modelConfig config boot).now true := by
  cases interval : rootClockInterval (bootClock boot).1 commandRateRefillMs with
  | ok ticks =>
      have started : (rootInit config boot).1.commandState =
          rootCommandInit commandRateTokens ticks boot.command true := by
        simp [rootInit, rootStatusTicks, ready, interval]
      have refill : (modelConfig config boot).refill = ticks.toNat := by
        simp [modelConfig, rootInit, interval]
      rw [started, refill]
      exact rootCommandInit_bucket ..
  | error _ =>
      have started : (rootInit config boot).1.commandState =
          rootCommandInit commandRateTokens 0 boot.command true := by
        simp [rootInit, rootStatusTicks, ready, interval]
      have refill : (modelConfig config boot).refill = (0 : UInt64).toNat := by
        simp [modelConfig, rootInit, interval]
      rw [started, refill]
      exact rootCommandInit_bucket ..

/-- A booted Root has retained no fence and answered nothing. -/
theorem rootInit_fresh (config : Config) (boot : Boot) :
    let fresh := (rootInit config boot).1.commandState
    fresh.fence = .empty ∧ fresh.accepted = 0 ∧ fresh.rateLimited = 0 ∧ fresh.rejected = 0 := by
  simp only [rootInit, rootCommandInit]
  split_ifs <;> exact ⟨rfl, rfl, rfl, rfl⟩

theorem rootStatusInit_enabled (bytes : Option Memory) (presentMask now frequency : UInt64)
    (budget : RootChild → UInt32) :
    (rootStatusInit bytes presentMask now frequency budget).1.enabled =
      (rootStatusInit bytes presentMask now frequency budget).2.isSome := by
  cases bytes <;> rfl

theorem models_boot {config : Config} {boot : Boot}
    (frequency : clockMinHz ≤ boot.frequency ∧ boot.frequency ≤ clockMaxHz) :
    Models config boot (Core.ChrysoRoot.new (modelConfig config boot))
      (rootInit config boot).1 := by
  obtain ⟨ready, _⟩ := bootClock_ready frequency
  refine
    { constants := rfl
      records := ?_
      spec := ?_
      command := ?_
      seq := rfl
      incarnation := rfl
      mapped := rfl
      enabled := ?_
      specPage := rfl
      mask := ?_
      generation := rfl
      frequency := ?_
      clock := ready }
  · intro child
    have inside : child.val < (modelConfig config boot).compiled.length := by
      simp [modelConfig]
    exact ⟨{}, if_pos inside, rfl, rfl⟩
  · exact ⟨⟨rfl, rfl, fun _ => rfl, fun _ => rfl⟩, fun applied => absurd rfl applied, rfl, rfl,
      rfl⟩
  · have bucket := rootInit_bucket config ready.available
    obtain ⟨fence, accepted, rateLimited, rejected⟩ := rootInit_fresh config boot
    exact ⟨bucket.symm, bucket ▸ Core.Bucket.new_ok .., fence ▸ rfl, accepted ▸ rfl,
      rateLimited ▸ rfl, rejected ▸ rfl⟩
  · exact rootStatusInit_enabled ..
  · exact (rootStatusInit_fields ..).2
  · refine (rootStatusInit_fields ..).1.trans (if_pos ready.available)

/-- The model and Root agree along a run exactly while no command of it asks for the restart
of a child at its ceiling. -/
theorem model_agrees {config : Config} {boot : Boot} {steps : List ModelStep}
    (modelled : Modelled config boot steps) :
    Agree config (rootInit config boot).1 (Core.ChrysoRoot.new (modelConfig config boot)) steps ↔
      EveryStep config (KeepsBelow config) (rootInit config boot).1 steps := by
  have booted : (rootInit config boot).1.rootClockState.lastTicks = boot.observe :=
    (bootClock_ready modelled.frequency).2
  refine agree_iff modelled.selector modelled.entry modelled.usable
    (models_boot modelled.frequency) steps ?_ modelled.present modelled.unexhausted
  rw [booted]
  exact modelled.clock.sublist (observed_sublist boot steps)

/-- A step over a spec page that was never written, its samples all alike. -/
def stillStep (event : ModelEvent) : ModelStep :=
  { event
    page := fun _ => 0
    reads := { entry := 10, control := 10, observe := 10, outcome := 10, specEvent := 10,
               publish := 10 } }

theorem model_agrees_sample :
    Agree sampleConfig (rootInit sampleConfig sampleBoot).1
      (Core.ChrysoRoot.new (modelConfig sampleConfig sampleBoot))
      [ stillStep (.fault childBlk 6 2 0x1000 0x2000), stillStep (.command 2 4 ⟨0, 1, 4, 0⟩) ] :=
  (model_agrees
    { selector := rfl
      entry := rfl
      usable := by decide
      frequency := by decide
      clock := by decide
      present := by decide
      unexhausted := by decide +kernel }).mpr (by decide +kernel)

/-- Eight faults spend the restarts of the serial driver, and a command asks for one more. -/
def giveupSteps : List ModelStep :=
  List.replicate 8 (stillStep (.fault childSerial 6 2 0x1000 0x2000)) ++
    [stillStep (.command 2 4 ⟨0, 1, 18, 8⟩)]

/-- Root gives the reason in reply word 1 where the model leaves a zero. -/
theorem giveup_reply_differs :
    Modelled sampleConfig sampleBoot giveupSteps ∧
      repliesOf (rootTrace sampleConfig sampleBoot (giveupSteps.map ModelStep.input)) =
        [(.ok, ⟨5, 1, 8, 20⟩)] ∧
      (modelAfter sampleConfig (Core.ChrysoRoot.new (modelConfig sampleConfig sampleBoot))
        giveupSteps).bind (·.1.reply) = some ⟨.ok, ⟨5, 0, 8, 20⟩, some 31⟩ ∧
      ¬ Agree sampleConfig (rootInit sampleConfig sampleBoot).1
        (Core.ChrysoRoot.new (modelConfig sampleConfig sampleBoot)) giveupSteps := by
  have modelled : Modelled sampleConfig sampleBoot giveupSteps :=
    { selector := rfl
      entry := rfl
      usable := by decide
      frequency := by decide
      clock := by decide
      present := by decide
      unexhausted := by decide +kernel }
  refine ⟨modelled, by decide +kernel, by decide +kernel, fun agrees => ?_⟩
  have below := (agree_iff modelled.selector modelled.entry modelled.usable
    (models_boot modelled.frequency) giveupSteps (by decide +kernel) modelled.present
    modelled.unexhausted).mp agrees
  exact absurd below (by decide +kernel)

end Chrysopolis.Root
