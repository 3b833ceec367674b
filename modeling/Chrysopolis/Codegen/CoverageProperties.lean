import Chrysopolis.Codegen.CheckersProperties
import Chrysopolis.Codegen.Coverage

/-! What an accepted list of tables covers: a record that a checker passes has zeros in its
reserved bytes and stable publication sequences, wherever the checker's rules look. -/

set_option autoImplicit false

namespace Chrysopolis.Codegen.CheckTable

open Chrysopolis.Support
open Chrysopolis.Support.Fallible
open Chrysopolis.Abi (AbiReject Span IntAt Rows)

variable {description : Description} {list : List Checker} {checker : Checker} {depth : Nat}

/-! ### Reserved leaves -/

/-- A reserved leaf of a record placed at a base, or of one nested in it. -/
inductive Reserved (description : Description) : Record → Nat → Span → Prop where
  | leaf {record : Record} {base : Nat} {field : Field} (member : field ∈ record.fields)
      (scalar : field.isRecord = false) (named : isReservedName field.name = true) :
      Reserved description record base ⟨base + field.offset, field.size⟩
  | nested {record inner : Record} {base : Nat} {field : Field} {span : Span}
      (member : field ∈ record.fields) (isRecord : field.isRecord = true)
      (found : findRecord description.records field.element = some inner)
      (reserved : Reserved description inner (base + field.offset) span) :
      Reserved description record base span

/-- The leaves of one field are listed. -/
structure FieldListed (description : Description) (base : Nat) (field : Field)
    (leaves : List Span) : Prop where
  leaf : field.isRecord = false → isReservedName field.name = true →
    ⟨base + field.offset, field.size⟩ ∈ leaves
  nested : field.isRecord = true → ∀ inner span,
    findRecord description.records field.element = some inner →
      Reserved description inner (base + field.offset) span → span ∈ leaves

theorem FieldListed.subset {base : Nat} {field : Field} {first last : List Span}
    (listed : FieldListed description base field first) (grows : first ⊆ last) :
    FieldListed description base field last where
  leaf scalar named := grows (listed.leaf scalar named)
  nested isRecord inner span found reserved :=
    grows (listed.nested isRecord inner span found reserved)

/-- A field's leaves join those before it, when the walk lists those of a nested record. -/
theorem fieldLeaves_listed
    {walk : Record → Nat → List Span → Except (Option Error) (List Span)}
    (complete : ∀ record base out leaves, walk record base out = .ok leaves →
      out ⊆ leaves ∧ ∀ span, Reserved description record base span → span ∈ leaves)
    {base : Nat} {field : Field} {out leaves : List Span}
    (step : fieldLeaves description walk base out field = .ok leaves) :
    out ⊆ leaves ∧ FieldListed description base field leaves := by
  rw [fieldLeaves] at step
  split_ifs at step with isRecord named full
  · have scalar : field.isRecord ≠ false := by
      rw [isRecord]
      exact Bool.noConfusion
    cases found : findRecord description.records field.element with
    | none =>
        rw [found] at step
        cases step
    | some inner =>
        rw [found] at step
        obtain ⟨grows, all⟩ := complete inner _ out leaves step
        refine ⟨grows, ⟨fun other => absurd other scalar, ?_⟩⟩
        intro _ other span same reserved
        rw [found] at same
        obtain rfl := Option.some.inj same
        exact all span reserved
  · obtain rfl := Except.ok.inj step
    refine ⟨List.subset_append_left out _, ⟨fun _ _ => ?_, fun other => absurd other isRecord⟩⟩
    exact List.mem_append_right _ (List.mem_singleton.mpr rfl)
  · obtain rfl := Except.ok.inj step
    exact ⟨List.Subset.refl _,
      ⟨fun _ other => absurd other named, fun other => absurd other isRecord⟩⟩

theorem reservedLeaves_complete {record : Record} {base : Nat} {out leaves : List Span}
    (walked : reservedLeaves description depth record base out = .ok leaves) :
    out ⊆ leaves ∧ ∀ span, Reserved description record base span → span ∈ leaves := by
  induction depth generalizing record base out leaves with
  | zero => cases walked
  | succ depth ih =>
      have trans (first next last : List Span) (grown : first ⊆ next) (after : next ⊆ last) :
          first ⊆ last := List.Subset.trans grown after
      have kept (field : Field) (first last : List Span)
          (listed : FieldListed description base field first) (grows : first ⊆ last) :
          FieldListed description base field last := listed.subset grows
      have each (field : Field) (first last : List Span)
          (step : fieldLeaves description (reservedLeaves description depth) base first field =
            .ok last) :
          first ⊆ last ∧ FieldListed description base field last :=
        fieldLeaves_listed (fun _ _ _ _ inner => ih inner) step
      obtain ⟨grows, all⟩ := foldlM_done List.Subset.refl trans kept each walked
      refine ⟨grows, ?_⟩
      intro span reserved
      cases reserved with
      | leaf member scalar named => exact (all _ member).leaf scalar named
      | nested member isRecord found inner => exact (all _ member).nested isRecord _ _ found inner

/-! ### The depth of nesting -/

theorem fieldLeaves_of_imp
    {walk other : Record → Nat → List Span → Except (Option Error) (List Span)}
    (same : ∀ record base out leaves, walk record base out = .ok leaves →
      other record base out = .ok leaves) {base : Nat} {out leaves : List Span} {field : Field}
    (step : fieldLeaves description walk base out field = .ok leaves) :
    fieldLeaves description other base out field = .ok leaves := by
  rw [fieldLeaves] at step ⊢
  cases kind : field.isRecord with
  | false => simpa [kind] using step
  | true =>
      rw [if_pos kind] at step
      rw [if_pos rfl]
      cases found : findRecord description.records field.element with
      | none =>
          rw [found] at step
          cases step
      | some inner =>
          rw [found] at step
          exact same inner _ out leaves step

theorem reservedLeaves_deeper {record : Record} {base : Nat} {out leaves : List Span}
    (walked : reservedLeaves description depth record base out = .ok leaves) :
    reservedLeaves description (depth + 1) record base out = .ok leaves := by
  induction depth generalizing record base out leaves with
  | zero => cases walked
  | succ depth ih =>
      have same (state : List Span) (field : Field) (next : List Span)
          (step : fieldLeaves description (reservedLeaves description depth) base state field =
            .ok next) :
          fieldLeaves description (reservedLeaves description (depth + 1)) base state field =
            .ok next :=
        fieldLeaves_of_imp (fun _ _ _ _ inner => ih inner) step
      exact foldlM_eq_ok_of_imp same walked

theorem fieldAt_deeper {record : Record} {offset : Nat} {name : String}
    (found : fieldAt description depth record offset = some name) :
    fieldAt description (depth + 1) record offset = some name := by
  induction depth generalizing record offset with
  | zero => cases found
  | succ depth ih =>
      rw [fieldAt, Option.bind_eq_bind, Option.bind_eq_some_iff] at found ⊢
      obtain ⟨field, here, found⟩ := found
      refine ⟨field, here, ?_⟩
      cases kind : field.isRecord with
      | false => simpa [kind] using found
      | true =>
          simp only [kind, Bool.not_true, Bool.false_eq_true, if_false, Option.bind_eq_bind,
            Option.bind_eq_some_iff] at found ⊢
          obtain ⟨inner, nested, found⟩ := found
          exact ⟨inner, nested, ih found⟩

/-! ### What an accepted record satisfies -/

theorem firstFailure_ok {previous selected : Nat} {rules : List Rule} {bytes : Bytes}
    (valid : RulesValid checker description previous rules)
    (passed : firstFailure description bytes selected rules = some .ok) :
    ∀ rule ∈ rules, rule.holds description bytes selected = some true := by
  induction valid with
  | nil =>
      intro rule listed
      cases listed
  | @cons previous level rule rest head tail ih =>
      rw [firstFailure] at passed
      cases here : rule.holds description bytes selected with
      | none => simp [here] at passed
      | some held =>
          cases held with
          | false =>
              have failed : rule.reject = .ok := by simpa [here] using passed
              have ranked := head.ranked
              rw [failed] at ranked
              cases ranked
          | true =>
              refine List.forall_mem_cons.mpr ⟨here, ih ?_⟩
              simpa [here] using passed

theorem holdsAt_true {check : Check} {bytes : Bytes} {instances : List (Nat × Nat)}
    (held : holdsAt description check bytes instances = some true) :
    ∀ place ∈ instances, check.holds description bytes place.1 place.2 = some true := by
  induction instances with
  | nil =>
      intro place listed
      cases listed
  | cons place rest ih =>
      rw [holdsAt] at held
      cases here : check.holds description bytes place.1 place.2 with
      | none => simp [here] at held
      | some answer =>
          cases answer with
          | false => simp [here] at held
          | true =>
              refine List.forall_mem_cons.mpr ⟨here, ih ?_⟩
              simpa [here] using held

/-- A rule of a valid checker holds in every instance of its scope in a record that passes. -/
theorem verdict_ok_holds {bytes : Bytes} {bank : Nat} {rule : Rule}
    (valid : validateChecker checker description = .ok ()) (member : rule ∈ checker.rules)
    (passed : verdict description checker bytes bank = some .ok) :
    ∃ instances, rule.scope.instances bytes (checker.selected bank) = some instances ∧
      ∀ place ∈ instances, rule.check.holds description bytes place.1 place.2 = some true := by
  rw [verdict] at passed
  split_ifs at passed with long outside
  · cases passed
  · cases passed
  have held := firstFailure_ok (validateChecker_ok valid).2 passed rule member
  rw [Rule.holds] at held
  cases listed : rule.scope.instances bytes (checker.selected bank) with
  | none => simp [listed] at held
  | some instances =>
      refine ⟨instances, rfl, holdsAt_true ?_⟩
      simpa [listed] using held

theorem allZero_eq_true {bytes : Bytes} {start len : Nat}
    (zero : allZero bytes start len = some true) {place : Nat} (inside : place < len) :
    bytes[start + place]? = some 0 := by
  rw [allZero, slice] at zero
  split_ifs at zero with within
  have zeros := Memory.allZero_iff.mp (Option.some.inj zero) (start + place) (by omega) (by omega)
  have bound : start + place < bytes.length := by omega
  rw [List.getElem?_eq_getElem bound]
  simpa [List.getD_eq_getElem?_getD, bound] using zeros

/-! ### Accepted lists -/

theorem validateNamed_eq_ok_iff (before : List Checker) (checker : Checker) :
    validateNamed description before checker = .ok () ↔
      validateChecker checker description = .ok () ∧
        ∀ prior ∈ before, prior.name ≠ checker.name := by
  rw [validateNamed, then_eq_ok_iff, require_eq_ok_iff, mapError_eq_ok_iff, and_comm]

theorem validateChecks_ok (valid : validateChecks depth list description = .ok ()) :
    (∀ checker ∈ list, validateChecker checker description = .ok ()) ∧
      list.Pairwise (fun earlier later => earlier.name ≠ later.name) ∧
        validateCoverage depth list description = .ok () := by
  rw [validateChecks, then_eq_ok_iff, eachAfter_eq_ok_iff validateNamed_eq_ok_iff] at valid
  exact ⟨valid.1.1, valid.1.2.1, valid.2⟩

theorem covered_iff {record : String} {leaf : Span} :
    covered list record leaf = true ↔
      ∃ other ∈ list, other.record = record ∧ ∃ rule ∈ other.rules, ∃ span,
        rule.check.zeroSpan = some span ∧
          (scopeExtent other rule.scope).1 + span.offset = leaf.offset ∧ span.len = leaf.len := by
  simp [covered, Option.any_eq_true]

theorem sequenced_iff {name : String} :
    sequenced depth list description name = true ↔
      ∃ checker ∈ list, ∃ rule ∈ checker.rules, ∃ int, rule.check.seqlockAt = some int ∧
        ∃ record, findRecord description.records checker.record = some record ∧
          fieldAt description depth record ((scopeExtent checker rule.scope).1 + int.offset) =
            some name := by
  simp [sequenced, Option.any_eq_true]

theorem zeroSpan_eq_some {check : Check} {span : Span} (zero : check.zeroSpan = some span) :
    check = .zero span := by
  cases check with
  | zero other => exact congrArg Check.zero (Option.some.inj zero)
  | _ => cases zero

theorem seqlockAt_eq_some {check : Check} {int : IntAt} (seqlock : check.seqlockAt = some int) :
    check = .seqlock int := by
  cases check with
  | seqlock other => exact congrArg Check.seqlock (Option.some.inj seqlock)
  | _ => cases seqlock

theorem sequenced_deeper {name : String}
    (found : sequenced depth list description name = true) :
    sequenced (depth + 1) list description name = true := by
  obtain ⟨checker, listed, rule, inRules, int, seqlock, record, same, read⟩ :=
    sequenced_iff.mp found
  exact sequenced_iff.mpr
    ⟨checker, listed, rule, inRules, int, seqlock, record, same, fieldAt_deeper read⟩

theorem validateReserved_deeper
    (valid : validateReserved depth list description checker = .ok ()) :
    validateReserved (depth + 1) list description checker = .ok () := by
  rw [validateReserved, bind_eq_ok_iff] at valid ⊢
  obtain ⟨record, found, rest⟩ := valid
  rw [bind_eq_ok_iff] at rest
  obtain ⟨leaves, walked, checked⟩ := rest
  refine ⟨record, found, bind_eq_ok_iff.mpr ⟨leaves, ?_, checked⟩⟩
  exact mapError_eq_ok_iff.mpr (reservedLeaves_deeper (mapError_eq_ok_iff.mp walked))

/-- A list accepted within some depth is accepted within every greater one. -/
theorem validateChecks_deeper {more : Nat} (within : depth ≤ more)
    (valid : validateChecks depth list description = .ok ()) :
    validateChecks more list description = .ok () := by
  induction within with
  | refl => exact valid
  | step _ ih =>
      rw [validateChecks, then_eq_ok_iff, validateCoverage, then_eq_ok_iff, forM_eq_ok_iff,
        forM_eq_ok_iff] at ih ⊢
      obtain ⟨checked, leaves, sequences⟩ := ih
      refine ⟨checked, ?_, ?_⟩
      · intro checker listed
        exact validateReserved_deeper (leaves checker listed)
      · intro atomic listed
        have held := require_eq_ok_iff.mp (sequences atomic listed)
        exact require_eq_ok_iff.mpr (held.imp_right sequenced_deeper)

/-- Each reserved leaf of a checked record is read by a zero rule. -/
theorem zeroRule_of_reserved (valid : validateChecks depth list description = .ok ())
    (listed : checker ∈ list) {record : Record}
    (found : findRecord description.records checker.record = some record) {leaf : Span}
    (reserved : Reserved description record 0 leaf) :
    ∃ other ∈ list, other.record = checker.record ∧ ∃ rule ∈ other.rules, ∃ span,
      rule.check = .zero span ∧
        (scopeExtent other rule.scope).1 + span.offset = leaf.offset ∧ span.len = leaf.len := by
  obtain ⟨-, -, coverage⟩ := validateChecks_ok valid
  rw [validateCoverage, then_eq_ok_iff, forM_eq_ok_iff] at coverage
  have leaves := coverage.1 checker listed
  rw [validateReserved, found, Option.elim_some, ok_bind, bind_eq_ok_iff] at leaves
  obtain ⟨all, walked, checked⟩ := leaves
  have walked := mapError_eq_ok_iff.mp walked
  have member := (reservedLeaves_complete walked).2 leaf reserved
  have isCovered := require_eq_ok_iff.mp (forM_eq_ok_iff.mp checked leaf member)
  obtain ⟨other, inList, same, rule, inRules, span, zero, placed⟩ := covered_iff.mp isCovered
  exact ⟨other, inList, same, rule, inRules, span, zeroSpan_eq_some zero, placed⟩

theorem zeroRule_zero {bytes : Bytes} {bank : Nat} {rule : Rule} {span : Span}
    (valid : validateChecker checker description = .ok ()) (member : rule ∈ checker.rules)
    (zero : rule.check = .zero span)
    (passed : verdict description checker bytes bank = some .ok) :
    ∃ instances, rule.scope.instances bytes (checker.selected bank) = some instances ∧
      ∀ place ∈ instances, ∀ i < span.len, bytes[place.1 + span.offset + i]? = some 0 := by
  obtain ⟨instances, here, holds⟩ := verdict_ok_holds valid member passed
  refine ⟨instances, here, ?_⟩
  intro place placed i inside
  have zeros := holds place placed
  rw [zero, Check.holds] at zeros
  exact allZero_eq_true zeros inside

/-- Each reserved leaf of a checked record is read by a zero rule, and every record that passes
the rule's checker has zeros there, in every instance of the rule's scope. -/
theorem validateChecks_covers (valid : validateChecks depth list description = .ok ())
    (listed : checker ∈ list) {record : Record}
    (found : findRecord description.records checker.record = some record) {leaf : Span}
    (reserved : Reserved description record 0 leaf) :
    ∃ other ∈ list, other.record = checker.record ∧ ∃ rule ∈ other.rules, ∃ span,
      rule.check = .zero span ∧
        (scopeExtent other rule.scope).1 + span.offset = leaf.offset ∧ span.len = leaf.len ∧
          ∀ bytes bank, verdict description other bytes bank = some .ok →
            ∃ instances, rule.scope.instances bytes (other.selected bank) = some instances ∧
              ∀ place ∈ instances, ∀ i < leaf.len,
                bytes[place.1 + span.offset + i]? = some 0 := by
  obtain ⟨other, inList, same, rule, inRules, span, zero, offset, len⟩ :=
    zeroRule_of_reserved valid listed found reserved
  refine ⟨other, inList, same, rule, inRules, span, zero, offset, len, ?_⟩
  intro bytes bank passed
  rw [← len]
  exact zeroRule_zero ((validateChecks_ok valid).1 other inList) inRules zero passed

theorem checkers_valid : validateChecks 3 checkers CheckTable.description = .ok () := by
  decide +kernel

/-- A command has a reserved field. -/
theorem command_reserved :
    ∃ record, findRecord CheckTable.description.records "CtlCommand" = some record ∧
      ∃ leaf : Span, 0 < leaf.len ∧ Reserved CheckTable.description record 0 leaf := by
  have fields : ∃ record, findRecord CheckTable.description.records "CtlCommand" = some record ∧
      ∃ field ∈ record.fields, field.isRecord = false ∧ isReservedName field.name = true ∧
        0 < field.size := by
    decide +kernel
  obtain ⟨record, found, field, member, scalar, named, size⟩ := fields
  exact ⟨record, found, ⟨0 + field.offset, field.size⟩, size, .leaf member scalar named⟩

/-- The reserved words of a command. -/
theorem validateChecks_covers_command :
    ∃ leaf : Span, 0 < leaf.len ∧ ∃ other ∈ checkers, other.record = "CtlCommand" ∧
      ∃ rule ∈ other.rules, ∃ span, rule.check = .zero span ∧ span.len = leaf.len := by
  obtain ⟨record, found, leaf, size, reserved⟩ := command_reserved
  have listed : ctlCommand ∈ checkers := by simp [checkers]
  obtain ⟨other, inList, same, rule, inRules, span, zero, -, len, -⟩ :=
    validateChecks_covers checkers_valid listed found reserved
  exact ⟨leaf, size, other, inList, same, rule, inRules, span, zero, len⟩

/-- Each publication sequence, the counters apart, is read by a seqlock rule, and is even and set
in every record that passes the rule's checker, in every instance of the rule's scope. -/
theorem validateChecks_publishes (valid : validateChecks depth list description = .ok ())
    {atomic : Layout.AtomicName} (listed : atomic ∈ Layout.atomicNames)
    (sequence : isCounter atomic.field = false) :
    ∃ checker ∈ list, ∃ rule ∈ checker.rules, ∃ int, rule.check = .seqlock int ∧
      (∃ record, findRecord description.records checker.record = some record ∧
        fieldAt description depth record ((scopeExtent checker rule.scope).1 + int.offset) =
          some atomic.field) ∧
        ∀ bytes bank, verdict description checker bytes bank = some .ok →
          ∃ instances, rule.scope.instances bytes (checker.selected bank) = some instances ∧
            ∀ place ∈ instances, ∃ seq,
              load bytes (place.1 + int.offset) int.width = some seq ∧ 0 < seq ∧ seq % 2 = 0 := by
  obtain ⟨each, -, coverage⟩ := validateChecks_ok valid
  rw [validateCoverage, then_eq_ok_iff, forM_eq_ok_iff, forM_eq_ok_iff] at coverage
  have checked := require_eq_ok_iff.mp (coverage.2 atomic listed)
  rw [sequence, or_iff_right Bool.false_ne_true] at checked
  obtain ⟨checker, inList, rule, inRules, int, seqlock, read⟩ := sequenced_iff.mp checked
  have check := seqlockAt_eq_some seqlock
  refine ⟨checker, inList, rule, inRules, int, check, read, ?_⟩
  intro bytes bank passed
  obtain ⟨instances, here, holds⟩ := verdict_ok_holds (each checker inList) inRules passed
  refine ⟨instances, here, ?_⟩
  intro place placed
  have held := holds place placed
  rw [check, Check.holds] at held
  cases loaded : load bytes (place.1 + int.offset) int.width with
  | none => simp [loaded] at held
  | some seq =>
      have stable : seq ≠ 0 ∧ seq % 2 = 0 := by simpa [loaded] using held
      exact ⟨seq, rfl, Nat.pos_of_ne_zero stable.1, stable.2⟩

/-- The sequence of a bank. -/
theorem validateChecks_publishes_bank :
    ∃ checker ∈ checkers, ∃ rule ∈ checker.rules, ∃ int, rule.check = .seqlock int ∧
      ∃ record, findRecord CheckTable.description.records checker.record = some record ∧
        fieldAt CheckTable.description 3 record
          ((scopeExtent checker rule.scope).1 + int.offset) = some "bank_seq" := by
  have listed : (⟨"SpecBank", "bank_seq", 4⟩ : Layout.AtomicName) ∈ Layout.atomicNames := by
    decide +kernel
  obtain ⟨checker, inList, rule, inRules, int, check, read, -⟩ :=
    validateChecks_publishes checkers_valid listed (by decide +kernel)
  exact ⟨checker, inList, rule, inRules, int, check, read⟩

/-! ### The checkers of Root and BEAM -/

theorem checkers_eq :
    checkers = restated.map Prod.fst ++
      [workerIdentity, workerStatus, requestJournal, completionJournal] := rfl

theorem restated_listed {pair : Checker × Abi.Checker} (member : pair ∈ restated) :
    pair.1 ∈ checkers := by
  rw [checkers_eq]
  exact List.mem_append_left _ (List.mem_map_of_mem member)

/-- Every checker of a record that Root and BEAM check is restated. -/
theorem restated_of_record {pair : Checker × Abi.Checker} (member : pair ∈ restated)
    {other : Checker} (listed : other ∈ checkers) (same : other.record = pair.1.record) :
    ∃ restatement, (other, restatement) ∈ restated := by
  have apart : ∀ other ∈ [workerIdentity, workerStatus, requestJournal, completionJournal],
      ∀ pair ∈ restated, other.record ≠ pair.1.record := by
    decide +kernel
  rw [checkers_eq] at listed
  rcases List.mem_append.mp listed with here | later
  · obtain ⟨found, isRestated, rfl⟩ := List.mem_map.mp here
    exact ⟨found.2, isRestated⟩
  · exact absurd same (apart other later pair member)

/-- Each reserved leaf of a record of the status, spec and command pages is zero in every record
that one of their checkers passes, in every row that the checker looks at. -/
theorem restated_reserved {pair : Checker × Abi.Checker} (member : pair ∈ restated)
    {record : Record}
    (found : findRecord CheckTable.description.records pair.1.record = some record) {leaf : Span}
    (reserved : Reserved CheckTable.description record 0 leaf) :
    ∃ other ∈ restated, other.1.record = pair.1.record ∧ ∃ rule ∈ other.1.rules, ∃ span,
      rule.check = .zero span ∧
        (scopeExtent other.1 rule.scope).1 + span.offset = leaf.offset ∧
          ∀ bytes bank, other.2.verdict (memoryOf bytes) bytes.length bank = .ok →
            ∃ instances, rule.scope.instances bytes (other.1.selected bank) = some instances ∧
              ∀ place ∈ instances, ∀ i < leaf.len,
                bytes[place.1 + span.offset + i]? = some 0 := by
  obtain ⟨other, listed, same, rule, inRules, span, zero, offset, len⟩ :=
    zeroRule_of_reserved checkers_valid (restated_listed member) found reserved
  obtain ⟨restatement, isRestated⟩ := restated_of_record member listed same
  refine ⟨(other, restatement), isRestated, same, rule, inRules, span, zero, offset, ?_⟩
  intro bytes bank passed
  have restates := restated_restates (other, restatement) isRestated
  rw [← len]
  apply zeroRule_zero restates.valid inRules zero
  rw [restates.verdict bytes bank, passed]

/-- The reserved words of a command that Root accepts. -/
theorem restated_reserved_command :
    ∃ leaf : Span, 0 < leaf.len ∧ ∃ other ∈ restated, other.1.record = "CtlCommand" ∧
      ∃ rule ∈ other.1.rules, ∃ span, rule.check = .zero span := by
  obtain ⟨record, found, leaf, size, reserved⟩ := command_reserved
  have listed : (ctlCommand,
      { size := Abi.ctlRecordSize
        rules := Abi.ctlRules Abi.magicCommand Abi.ppOpcodes : Abi.Checker }) ∈ restated := by
    simp [restated]
  obtain ⟨other, isRestated, same, rule, inRules, span, zero, -⟩ :=
    restated_reserved listed found reserved
  exact ⟨leaf, size, other, isRestated, same, rule, inRules, span, zero⟩

end Chrysopolis.Codegen.CheckTable
