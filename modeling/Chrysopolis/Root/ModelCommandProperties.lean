import Chrysopolis.Root.AtMostOnceProperties
import Chrysopolis.Root.ModelDecisionProperties

/-! One command of Root and of its model: the frame, the token, the fence and the reply words
agree, and no word of the C wraps while its tallies have room. -/

set_option autoImplicit false

namespace Chrysopolis.Root

open Chrysopolis.Abi
open Chrysopolis.Support

def modelFence : RootCommandFence → Core.Fence
  | .empty => .empty
  | .completed opcode args values =>
      .completed opcode.toNat (modelWords args) (modelWords values)

/-- The command states. -/
structure SameCommand (command : Core.CommandState) (state : RootCommandState) : Prop where
  bucket : command.bucket = state.bucket
  ok : state.bucket.Ok
  fence : command.fence = modelFence state.fence
  accepted : command.accepted = state.accepted.toNat
  rateLimited : command.rateLimited = state.rateLimited.toNat
  rejected : command.rejected = state.rejected.toNat

/-- What a command sees of both. -/
structure SameView (view : Core.View) (seen : RootCommandView) : Prop where
  abi : view.abi = seen.abiVersion.toNat
  generation : view.generation = seen.rootGeneration.toNat
  incarnation : view.incarnation = seen.beamIncarnation.toNat
  cntfrq : view.cntfrq = seen.cntfrq.toNat
  seq : view.seq = seen.seq.toNat
  publishing : view.publishing = seen.publishing
  present : view.present = seen.presentMask.toNat
  drivers : view.drivers = seen.driverMask.toNat
  records : ∀ child : RootChild, ∃ record, view.records child.val = some record ∧
    SameRecord record (seen.records child)

/-- The decided commands. -/
structure SameCommandDecision (decided : Core.CommandDecision) (decision : RootCommandDecision) :
    Prop where
  result : tracedResult decided.result = decision.result
  action : decided.action = decision.action.target.map Fin.val
  opcode : decided.opcode = decision.opcode.toNat
  args : decided.args = modelWords decision.args
  values : decided.values = modelWords decision.values

@[simp] theorem modelWords_w0 (words : CommandWords) :
    (modelWords words).w0 = words.w0.toNat := rfl

theorem modelWords_inj {left right : CommandWords} :
    modelWords left = modelWords right ↔ left = right := by
  obtain ⟨a, b, c, d⟩ := left
  obtain ⟨a', b', c', d'⟩ := right
  simp only [modelWords, Core.Words.mk.injEq, CommandWords.mk.injEq, UInt64.toNat_inj]

/-! ### Tallies and frames -/

theorem succ_toNat {count : UInt64} (room : count ≠ 0xFFFFFFFFFFFFFFFF) :
    (count + 1).toNat = count.toNat + 1 := by
  have small := count.toNat_lt
  have last : count.toNat ≠ (0xFFFFFFFFFFFFFFFF : UInt64).toNat :=
    fun equal => room (UInt64.toNat_inj.mp equal)
  have limit : (0xFFFFFFFFFFFFFFFF : UInt64).toNat = 2 ^ 64 - 1 := by decide
  have one : (1 : UInt64).toNat = 1 := rfl
  rw [UInt64.toNat_add, one]
  omega

theorem tally_same {command : Core.CommandState} {state : RootCommandState}
    (same : SameCommand command state) (room : TallyRoom state) (result : Core.Result) :
    SameCommand (Core.Command.tally result command) (tally state (tracedResult result)) := by
  obtain ⟨bucket, ok, fence, accepted, limited, rejected⟩ := same
  cases result <;>
    exact ⟨bucket, ok, fence, by simp [Core.Command.tally, tally, tracedResult, accepted,
        succ_toNat room.accepted],
      by simp [Core.Command.tally, tally, tracedResult, limited, succ_toNat room.rateLimited],
      by simp [Core.Command.tally, tally, tracedResult, rejected, succ_toNat room.rejected]⟩

def tracedClass : Core.OpcodeClass → OpcodeClass
  | .invalid => .invalid
  | .handshake => .handshake
  | .barrier => .barrier
  | .preconditioned => .preconditioned
  | .slot => .slot

theorem tracedClass_inj (left right : Core.OpcodeClass) :
    tracedClass left = tracedClass right ↔ left = right := by
  constructor
  · cases left <;> cases right <;> simp [tracedClass]
  · rintro rfl
    rfl

/-- The two opcode tables. -/
theorem classOf_row (label : UInt64) :
    tracedClass (Core.Command.classOf label.toNat) = (rowOf label).kind ∧
      Core.Command.unused label.toNat = (rowOf label).unused := by
  unfold rowOf
  generalize label.toNat = opcode
  by_cases declared : opcode < 8
  · have table : ∀ opcode : Fin 8,
        tracedClass (Core.Command.classOf opcode.val) = (opcodeRows.getD opcode.val {}).kind ∧
          Core.Command.unused opcode.val = (opcodeRows.getD opcode.val {}).unused := by decide
    exact table ⟨opcode, declared⟩
  · have past : opcodeRows.getD opcode {} = {} := by
      have length : opcodeRows.length ≤ opcode := Nat.not_lt.mp declared
      rw [List.getD_eq_getElem?_getD, List.getElem?_eq_none length]
      rfl
    have undeclared : Core.Command.classOf opcode = .invalid := by
      simp only [Core.Command.classOf]
      split_ifs <;> first | rfl | omega
    have free : Core.Command.unused opcode = 0 := by
      simp only [Core.Command.unused]
      split_ifs <;> first | rfl | omega
    rw [past, undeclared, free]
    exact ⟨rfl, rfl⟩

theorem classOf_invalid (label : UInt64) :
    Core.Command.classOf label.toNat = .invalid ↔ (rowOf label).kind = .invalid := by
  rw [← (classOf_row label).1]
  exact (tracedClass_inj _ .invalid).symm

theorem frame_same {command : Core.CommandState} {state : RootCommandState}
    (same : SameCommand command state) (room : TallyRoom state) (channel : UInt32)
    (label count : UInt64) :
    tracedResult
        (Core.Command.frame command channel.toNat channel.toNat label.toNat count.toNat).1 =
        (rootCommandFrame state channel channel label count).2 ∧
      SameCommand
        (Core.Command.frame command channel.toNat channel.toNat label.toNat count.toNat).2
        (rootCommandFrame state channel channel label count).1 := by
  have words : count = UInt64.ofNat rootCommandWords ↔ count.toNat = Core.Command.words :=
    UInt64.toNat_inj.symm
  have refused : SameCommand { command with rejected := command.rejected + 1 }
      { state with rejected := state.rejected + 1 } := tally_same same room .badArg
  simp only [Core.Command.frame, rootCommandFrame, ne_eq, not_true_eq_false, if_false, words,
    ← classOf_invalid]
  by_cases framed : count.toNat = Core.Command.words ∧
      ¬ Core.Command.classOf label.toNat = .invalid
  · have good : ¬ (¬ count.toNat = Core.Command.words ∨
        Core.Command.classOf label.toNat = .invalid) := by tauto
    simp only [if_pos framed, if_neg good, not_true_eq_false, if_false]
    exact ⟨rfl, same⟩
  · have bad : ¬ count.toNat = Core.Command.words ∨
        Core.Command.classOf label.toNat = .invalid := by tauto
    simp only [if_neg framed, if_pos bad, reduceCtorEq, not_false_eq_true, if_true]
    exact ⟨rfl, refused⟩

theorem malformed_same (label : UInt64) (args : CommandWords) :
    Core.Command.malformed label.toNat (modelWords args) = malformed (rowOf label) args := by
  obtain ⟨kind, unused⟩ := classOf_row label
  have invalid : (Core.Command.classOf label.toNat == .invalid) =
      ((rowOf label).kind == .invalid) := by
    rw [Bool.eq_iff_iff, beq_iff_eq, beq_iff_eq, classOf_invalid]
  have set : ∀ word : UInt64, (word.toNat != 0) = (word != 0) := by
    intro word
    rw [Bool.eq_iff_iff, bne_iff_ne, bne_iff_ne, ne_eq, ne_eq, ← UInt64.toNat_inj]
    rfl
  simp only [Core.Command.malformed, malformed, invalid, unused, modelWords, Core.Words.toList,
    CommandWords.toList, List.zipIdx_cons, List.zipIdx_nil, List.any_cons, List.any_nil, set]

/-! ### Decisions -/

/-- The command state once a sample was taken and a token spent, if there is one. -/
theorem take_same {command : Core.CommandState} {state : RootCommandState}
    (same : SameCommand command state) (room : TallyRoom state) (now : UInt64) :
    let taken := command.bucket.take ⟨now.toNat, true⟩
    let refilled := refillStep state now true
    let spent := if refilled.tokens = 0 then refilled
      else { refilled with tokens := refilled.tokens - 1 }
    taken.1 = !(refilled.tokens = 0 : Bool) ∧
      SameCommand { command with bucket := taken.2 } spent ∧ TallyRoom spent := by
  intro taken refilled spent
  have bucket := refillStep_bucketAt same.ok now true
  have ok := same.ok.refillAt ⟨now.toNat, true⟩
  have empty : refilled.tokens = 0 ↔ (state.bucket.refillAt ⟨now.toNat, true⟩).tokens = 0 := by
    rw [← bucket, ← UInt32.toNat_inj]
    rfl
  obtain ⟨refill, tokens, lastTicks, moved⟩ := refillStep_bucket state now true
  have kept : ∀ after : RootCommandState, after.fence = state.fence →
      after.accepted = state.accepted → after.rateLimited = state.rateLimited →
      after.rejected = state.rejected → after.bucket = taken.2 → taken.2.Ok →
      SameCommand { command with bucket := taken.2 } after ∧ TallyRoom after := by
    intro after fence accepted limited rejected bucket ok
    refine ⟨⟨bucket.symm, bucket ▸ ok, ?_, ?_, ?_, ?_⟩, ?_⟩
    · rw [fence]
      exact same.fence
    · rw [accepted]
      exact same.accepted
    · rw [limited]
      exact same.rateLimited
    · rw [rejected]
      exact same.rejected
    · exact ⟨accepted ▸ room.accepted, limited ▸ room.rateLimited, rejected ▸ room.rejected⟩
  have next : taken = state.bucket.take ⟨now.toNat, true⟩ := by
    simp only [taken, same.bucket]
  have taken_ok : taken.2.Ok := next ▸ same.ok.take ⟨now.toNat, true⟩
  by_cases none : refilled.tokens = 0
  · have still : taken = (false, refilled.bucket) := by
      rw [next, Core.Bucket.take, if_pos (empty.mp none), ← bucket]
    have unspent : spent = refilled := if_pos none
    rw [unspent]
    refine ⟨by simp [still, none], kept refilled ?_ ?_ ?_ ?_ (by rw [still]) taken_ok⟩ <;>
      simp only [refilled, moved]
  · have one : 1 ≤ refilled.tokens := by
      rw [UInt32.le_iff_toNat_le]
      exact Nat.pos_of_ne_zero fun zero => none (UInt32.toNat.inj zero)
    have granted : spent = { refilled with tokens := refilled.tokens - 1 } := if_neg none
    have charged : taken = (true, spent.bucket) := by
      rw [next, Core.Bucket.take, if_neg (empty.not.mp none), ← bucket, granted]
      simp only [RootCommandState.bucket, UInt32.toNat_sub_of_le _ _ one]
      rfl
    rw [granted] at charged ⊢
    refine ⟨by simp [charged, none], kept _ ?_ ?_ ?_ ?_ (by rw [charged]) taken_ok⟩ <;>
      simp only [refilled, moved]

theorem repeats_same {command : Core.CommandState} {state : RootCommandState}
    (same : SameCommand command state) (opcode : UInt16) (args : CommandWords) :
    Core.Command.repeats command.fence opcode.toNat (modelWords args) =
      (fenceRepeats state opcode args).map modelWords := by
  rw [same.fence, fenceRepeats]
  cases state.fence with
  | empty => rfl
  | completed memoOpcode memoArgs values =>
      simp only [modelFence, Core.Command.repeats, UInt16.toNat_inj, modelWords_inj]
      split_ifs <;> rfl

/-- A raw word names the same child. -/
theorem validChild_same {raw : UInt64} (mask : UInt64) (narrow : raw ≤ 0xFFFFFFFF) :
    match rootChildFromRaw raw.toUInt32 mask with
    | none => Core.Command.validChild raw.toNat mask.toNat = false
    | some child =>
        Core.Command.validChild raw.toNat mask.toNat = true ∧ raw.toNat = child.val := by
  have limit : (0xFFFFFFFF : UInt64).toNat = 2 ^ 32 - 1 := by decide
  have small := UInt64.le_iff_toNat_le.mp narrow
  have word : raw.toUInt32.toNat = raw.toNat := by
    rw [UInt64.toNat_toUInt32]
    omega
  simp only [rootChildFromRaw, word, maskBit, Core.Command.validChild, Core.Command.childCount,
    Core.Command.maskBits, childCount]
  split_ifs with bound declared
  · have wide : raw.toNat < 64 := by omega
    simp [bound, wide, declared]
  · simp [declared]
  · simp [bound]

theorem usable_same {view : Core.View} {seen : RootCommandView} (views : SameView view seen)
    {child : RootChild} {record : Core.Record} (traced : SameRecord record (seen.records child)) :
    Core.Command.usable child.val record view =
      !(!maskBit seen.driverMask child.val || decide ((seen.records child).state = .gone) ||
        !seen.publishing) := by
  have driver : Core.Command.isDriver child.val view.drivers =
      maskBit seen.driverMask child.val := by
    rw [views.drivers]
    rfl
  rw [Core.Command.usable, driver, views.publishing, ← traced.state]
  cases record.state <;> simp [tracedState]

theorem fresh_same {view : Core.View} {seen : RootCommandView} (views : SameView view seen)
    {args : CommandWords} {child : RootChild} {record : Core.Record}
    (traced : SameRecord record (seen.records child)) :
    Core.Command.fresh (modelWords args) record view =
      !decide (args.w1 ≠ seen.rootGeneration ∨ args.w2 ≠ seen.seq ∨
        args.w3 ≠ (seen.records child).lifetimeCount.toUInt64) := by
  rw [Bool.eq_iff_iff]
  simp only [Core.Command.fresh, modelWords, views.generation, views.seq, traced.lifetime,
    ← UInt32.toNat_toUInt64, Bool.and_eq_true, beq_iff_eq, UInt64.toNat_inj, Bool.not_eq_true',
    decide_eq_false_iff_not]
  tauto

/-- The preconditions of RESTART_CHILD. -/
theorem restart_same {command : Core.CommandState} {state : RootCommandState}
    (same : SameCommand command state) {view : Core.View} {seen : RootCommandView}
    (views : SameView view seen) (opcode : UInt16) (args : CommandWords) :
    ∃ answer,
      Core.Command.restart { result := .ok, opcode := opcode.toNat, args := modelWords args }
          command view = some answer ∧
        SameCommandDecision answer
          (decideRestart state seen { result := .unset, opcode, args }) := by
  have remembered := repeats_same same opcode args
  simp only [Core.Command.restart, decideRestart, remembered]
  cases fenceRepeats state opcode args with
  | some given => exact ⟨_, rfl, rfl, rfl, rfl, rfl, rfl⟩
  | none =>
      have limit : (0xFFFFFFFF : UInt64).toNat = 0xFFFFFFFF := by decide
      simp only [Option.map_none]
      by_cases wide : args.w0 > 0xFFFFFFFF
      · have far : ¬ args.w0.toNat ≤ 0xFFFFFFFF := by
          rw [← limit]
          exact Nat.not_le.mpr (UInt64.lt_iff_toNat_lt.mp wide)
        simp only [if_pos wide, modelWords_w0, far, decide_false, Bool.false_and, Bool.not_false,
          if_true]
        exact ⟨_, rfl, rfl, rfl, rfl, rfl, rfl⟩
      · have narrow : args.w0 ≤ 0xFFFFFFFF := UInt64.not_lt.mp wide
        have near : args.w0.toNat ≤ 0xFFFFFFFF := by
          rw [← limit]
          exact UInt64.le_iff_toNat_le.mp narrow
        have named := validChild_same seen.presentMask narrow
        rw [← views.present] at named
        simp only [if_neg wide, modelWords_w0, near, decide_true, Bool.true_and]
        cases target : rootChildFromRaw args.w0.toUInt32 seen.presentMask with
        | none =>
            rw [target] at named
            simp only [named, Bool.not_false, if_true]
            exact ⟨_, rfl, rfl, rfl, rfl, rfl, rfl⟩
        | some child =>
            rw [target] at named
            obtain ⟨valid, raw⟩ := named
            obtain ⟨record, held, traced⟩ := views.records child
            rw [← raw] at held
            have usable : Core.Command.usable args.w0.toNat record view =
                !(!maskBit seen.driverMask child.val ||
                  decide ((seen.records child).state = .gone) || !seen.publishing) := by
              rw [raw]
              exact usable_same views traced
            simp only [valid, Bool.not_true, Bool.false_eq_true, if_false, held,
              Option.bind_eq_bind, Option.bind_some, usable, fresh_same views traced]
            split_ifs with refused outdated
            · simp only [refused, Bool.not_true]
              exact ⟨_, rfl, rfl, rfl, rfl, rfl, rfl⟩
            · simp only [refused, outdated, Bool.not_false, Bool.not_true, decide_true]
              refine ⟨_, rfl, rfl, rfl, rfl, rfl, ?_⟩
              simp only [modelWords, views.generation, views.seq, traced.lifetime,
                UInt32.toNat_toUInt64]
              rfl
            · simp only [refused, outdated, Bool.not_false, decide_false]
              exact ⟨_, rfl, rfl, congrArg some raw, rfl, rfl, rfl⟩

/-- What both decide after a token was spent. -/
theorem byClass_same {command : Core.CommandState} {state : RootCommandState}
    (same : SameCommand command state) (room : TallyRoom state) {view : Core.View}
    {seen : RootCommandView} (views : SameView view seen) {kind : Core.OpcodeClass}
    (declared : kind ≠ .invalid) (opcode : UInt16) (args : CommandWords) :
    ∃ answer next,
      Core.Command.byClass kind
          { result := .ok, opcode := opcode.toNat, args := modelWords args } command view =
        some (answer, next) ∧
        SameCommandDecision answer
          (decideOpcode state seen (tracedClass kind) { result := .unset, opcode, args }).2 ∧
        SameCommand next
          (decideOpcode state seen (tracedClass kind) { result := .unset, opcode, args }).1 := by
  cases kind with
  | invalid => exact absurd rfl declared
  | handshake =>
      have known : (modelWords args).w0 = view.abi ↔ args.w0 = seen.abiVersion := by
        rw [modelWords_w0, views.abi, UInt64.toNat_inj]
      have told : (⟨view.abi, view.generation, view.incarnation, view.cntfrq⟩ : Core.Words) =
          modelWords ⟨seen.abiVersion, seen.rootGeneration, seen.beamIncarnation, seen.cntfrq⟩ := by
        simp only [modelWords, views.abi, views.generation, views.incarnation, views.cntfrq]
      simp only [Core.Command.byClass, tracedClass, decideOpcode, Core.Command.reply, known, told]
      split_ifs
      · exact ⟨_, _, rfl, ⟨rfl, rfl, rfl, rfl, rfl⟩, tally_same same room .ok⟩
      · exact ⟨_, _, rfl, ⟨rfl, rfl, rfl, rfl, rfl⟩, tally_same same room .badVersion⟩
  | barrier =>
      have counted := tally_same same room .ok
      simp only [Core.Command.byClass, tracedClass, decideOpcode, Core.Command.reply,
        views.publishing]
      split_ifs
      · exact ⟨_, _, rfl, ⟨rfl, rfl, rfl, rfl, rfl⟩, tally_same same room .refused⟩
      · refine ⟨_, _, rfl, ⟨rfl, rfl, rfl, rfl, ?_⟩, counted⟩
        simp only [modelWords, views.seq, counted.accepted, counted.rateLimited,
          counted.rejected]
        rfl
  | preconditioned =>
      obtain ⟨answer, decided, agreed⟩ := restart_same same views opcode args
      simp only [Core.Command.byClass, tracedClass, decideOpcode, Core.Command.reply, decided,
        Option.map_some]
      refine ⟨_, _, rfl, agreed, ?_⟩
      rw [← agreed.result]
      exact tally_same same room answer.result
  | slot => exact ⟨_, _, rfl, ⟨rfl, rfl, rfl, rfl, rfl⟩, tally_same same room .refused⟩

/-- A framed command is decided alike. -/
theorem commandDecide_same {command : Core.CommandState} {state : RootCommandState}
    (same : SameCommand command state) (room : TallyRoom state) {view : Core.View}
    {seen : RootCommandView} (views : SameView view seen) {label : UInt64}
    (declared : (rowOf label).kind ≠ .invalid) (args : CommandWords) (now : UInt64) :
    ∃ answer next,
      Core.Command.decide command view label.toNat (modelWords args) now.toNat true =
        some (answer, next) ∧
        SameCommandDecision answer
          (rootCommandDecide state seen label.toUInt16 args now true).2 ∧
        SameCommand next (rootCommandDecide state seen label.toUInt16 args now true).1 := by
  have small : label.toNat < 8 := by
    by_contra past
    refine declared ((classOf_invalid label).mp ?_)
    simp only [Core.Command.classOf]
    split_ifs <;> first | rfl | omega
  have opcode : label.toUInt16.toNat = label.toNat := by
    rw [UInt64.toNat_toUInt16]
    omega
  have word : label.toUInt16.toUInt64 = label := by
    rw [← UInt64.toNat_inj, UInt16.toNat_toUInt64, opcode]
  have wellFormed : Core.Command.malformed label.toUInt16.toNat (modelWords args) =
      malformed (rowOf label) args := by
    rw [opcode, malformed_same]
  have kind : tracedClass (Core.Command.classOf label.toUInt16.toNat) = (rowOf label).kind := by
    rw [opcode, (classOf_row label).1]
  have listed : Core.Command.classOf label.toUInt16.toNat ≠ .invalid := by
    rw [opcode, ne_eq, classOf_invalid]
    exact declared
  obtain ⟨granted, spent, left⟩ := take_same same room now
  rw [← opcode]
  simp only [Core.Command.decide, rootCommandDecide, word, wellFormed, granted, Bool.not_not,
    decide_eq_true_eq, ← kind]
  by_cases bad : malformed (rowOf label) args = true
  · simp only [if_pos bad]
    exact ⟨_, _, rfl, ⟨rfl, rfl, rfl, rfl, rfl⟩, tally_same same room .badArg⟩
  · simp only [if_neg bad]
    by_cases empty : (refillStep state now true).tokens = 0
    · simp only [if_pos empty] at spent left ⊢
      exact ⟨_, _, rfl, ⟨rfl, rfl, rfl, rfl, rfl⟩, tally_same spent left .rateLimited⟩
    · simp only [if_neg empty] at spent left ⊢
      exact byClass_same spent left views listed label.toUInt16 args

/-- A performed command is remembered alike. -/
theorem complete_same {command : Core.CommandState} {state : RootCommandState}
    (same : SameCommand command state) {decided : Core.CommandDecision}
    {decision : RootCommandDecision} (agreed : SameCommandDecision decided decision) :
    SameCommand (Core.Command.complete command decided) (rootCommandComplete state decision) := by
  obtain ⟨bucket, ok, fence, accepted, limited, rejected⟩ := same
  obtain ⟨result, action, opcode, args, values⟩ := agreed
  simp only [Core.Command.complete, rootCommandComplete, action]
  cases decision.action with
  | none => exact ⟨bucket, ok, fence, accepted, limited, rejected⟩
  | restart child =>
      refine ⟨bucket, ok, ?_, accepted, limited, rejected⟩
      simp only [opcode, args, values, modelFence]
      rfl

end Chrysopolis.Root
