import Mathlib.Tactic.Ring
import Chrysopolis.Codegen.Checkers

/-! A table that validation accepts is read within its record, and its verdict is the class of
highest precedence that is violated anywhere in the record. -/

set_option autoImplicit false

namespace Chrysopolis.Codegen.CheckTable

open Chrysopolis.Support
open Chrysopolis.Abi (AbiReject Span IntAt Rows crc32Update crc32Zeros crc32Final)

/-! ### What validation accepts -/

/-- A rule that validation accepts. -/
structure RuleValid (checker : Checker) (description : Description) (previous : Nat)
    (rule : Rule) (level : Nat) : Prop where
  ranked : rank rule.reject = some level
  sorted : previous ≤ level
  scope : scopeFits checker rule.scope = true
  selects : rule.scope.isSelected = checker.selector.isSome
  fields : ruleFits checker description rule = .ok true

variable {checker : Checker} {description : Description} {rule : Rule} {bytes : Bytes}

theorem validateRule_ok {previous level : Nat}
    (valid : validateRule checker description previous rule = .ok level) :
    RuleValid checker description previous rule level := by
  simp only [validateRule, bind, Except.bind] at valid
  cases ranked : rank rule.reject with
  | none => simp [ranked] at valid
  | some found =>
      simp only [ranked, Option.elim_some] at valid
      split_ifs at valid with early scope selects kind
      cases fields : ruleFits checker description rule with
      | error rejection => simp [fields] at valid
      | ok held =>
          cases held with
          | false => simp [fields] at valid
          | true =>
              simp only [fields, Bool.not_true, Bool.false_eq_true, if_false, Except.ok.injEq]
                at valid
              obtain rfl := valid
              exact
                { ranked
                  sorted := by omega
                  scope := by simpa using scope
                  selects := not_not.mp selects
                  fields }

/-- The rules of a valid checker, in order of their classes from `previous` on. -/
inductive RulesValid (checker : Checker) (description : Description) : Nat → List Rule → Prop where
  | nil {previous : Nat} : RulesValid checker description previous []
  | cons {previous level : Nat} {rule : Rule} {rest : List Rule}
      (head : RuleValid checker description previous rule level)
      (tail : RulesValid checker description level rest) :
      RulesValid checker description previous (rule :: rest)

theorem validateRules_ok {rules : List Rule} {previous : Nat}
    (valid : validateRules checker description previous rules = .ok ()) :
    RulesValid checker description previous rules := by
  induction rules generalizing previous with
  | nil => exact .nil
  | cons rule rest induct =>
      simp only [validateRules, bind, Except.bind] at valid
      cases first : validateRule checker description previous rule with
      | error rejection => simp [first] at valid
      | ok level =>
          simp only [first] at valid
          exact .cons (validateRule_ok first) (induct valid)

theorem validateChecker_ok (valid : validateChecker checker description = .ok ()) :
    (∀ selector, checker.selector = some selector →
        scopeFits checker (.selected selector) = true) ∧
      RulesValid checker description 0 checker.rules := by
  simp only [validateChecker, bind, Except.bind] at valid
  cases found : findRecord description.records checker.record with
  | none => simp [found] at valid
  | some record =>
      simp only [found, Option.elim_some] at valid
      split_ifs at valid with size selector
      refine ⟨fun rows selected => ?_, validateRules_ok valid⟩
      simpa [selected] using selector

/-- Every rule is valid, and comes after no rule of a later class. -/
theorem RulesValid.mem {previous : Nat} {rules : List Rule}
    (valid : RulesValid checker description previous rules) (member : rule ∈ rules) :
    ∃ before level, previous ≤ before ∧ RuleValid checker description before rule level := by
  induction valid with
  | nil => cases member
  | cons head tail induct =>
      rcases List.mem_cons.mp member with rfl | later
      · exact ⟨_, _, Nat.le_refl _, head⟩
      · obtain ⟨before, level, after, rest⟩ := induct later
        exact ⟨before, level, head.sorted.trans after, rest⟩

/-! ### Reads -/

theorem fits_iff {offset len extent : Nat} :
    fits offset len extent = true ↔
      offset + len < 2 ^ 64 ∧ len ≠ 0 ∧ offset + len ≤ extent := by
  simp [fits, and_assoc]

theorem intFits_iff {int : IntAt} {extent : Nat} :
    intFits int extent = true ↔
      loadable int.width = true ∧ int.offset + int.width < 2 ^ 64 ∧
        int.offset + int.width ≤ extent := by
  simp only [intFits, Bool.and_eq_true, fits_iff]
  constructor
  · rintro ⟨wide, small, -, within⟩
    exact ⟨wide, small, within⟩
  · rintro ⟨wide, small, within⟩
    refine ⟨wide, small, ?_, within⟩
    rintro zero
    simp [loadable, zero] at wide

theorem slice_eq {α : Type} {start stop : Nat} (read : Memory → α) (ordered : start ≤ stop)
    (within : stop ≤ bytes.length) :
    slice bytes start stop read = some (read fun position => bytes.getD position 0) :=
  if_pos ⟨ordered, within⟩

theorem load_eq {offset width : Nat} (wide : loadable width = true)
    (within : offset + width ≤ bytes.length) :
    load bytes offset width =
      some (Memory.load (fun position => bytes.getD position 0) offset width) := by
  rw [load, if_pos wide, slice_eq _ (Nat.le_add_right ..) within]

theorem load_int {int : IntAt} {base extent : Nat} (fit : intFits int extent = true)
    (within : base + extent ≤ bytes.length) :
    load bytes (base + int.offset) int.width =
      some (Memory.load (fun position => bytes.getD position 0) (base + int.offset) int.width) := by
  obtain ⟨wide, -, inside⟩ := intFits_iff.mp fit
  exact load_eq wide (by omega)

theorem allZero_eq {start len : Nat} (within : start + len ≤ bytes.length) :
    allZero bytes start len =
      some (Memory.allZero (fun position => bytes.getD position 0) start len) :=
  slice_eq _ (Nat.le_add_right ..) within

theorem zeroedFit_cons {stop last : Nat} {zeroed : Span} {rest : List Span} :
    zeroedFit stop last (zeroed :: rest) = true ↔
      last ≤ zeroed.offset ∧ zeroed.offset + zeroed.len ≤ stop ∧
        fits zeroed.offset zeroed.len stop = true ∧
        zeroedFit stop (zeroed.offset + zeroed.len) rest = true := by
  simp only [zeroedFit, Bool.and_eq_true, decide_eq_true_eq]
  constructor
  · rintro ⟨⟨after, fit⟩, later⟩
    exact ⟨after, (fits_iff.mp fit).2.2, fit, later⟩
  · rintro ⟨after, -, fit, later⟩
    exact ⟨⟨after, fit⟩, later⟩

/-- The zeroed spans are read in order, up to the end of the span. -/
theorem crcSpans_isSome {base stop cursor : Nat} {zeroed : List Span} (crc : UInt32)
    (fit : zeroedFit stop cursor zeroed = true) (bounded : cursor ≤ stop)
    (within : base + stop ≤ bytes.length) :
    ∃ read last, crcSpans bytes base zeroed (crc, cursor) = some (read, last) ∧ last ≤ stop := by
  induction zeroed generalizing crc cursor with
  | nil => exact ⟨crc, cursor, rfl, bounded⟩
  | cons span rest induct =>
      obtain ⟨after, inside, -, later⟩ := zeroedFit_cons.mp fit
      simp only [crcSpans]
      rw [slice_eq _ (by omega) (by omega)]
      exact induct _ later inside

theorem crcOf_isSome {base extent : Nat} {span : Span} {crc : IntAt} {zeroed : List Span}
    (wide : crc.width = 4) (fit : fits span.offset span.len extent = true)
    (after : span.offset ≤ crc.offset)
    (inside : fits crc.offset 4 (span.offset + span.len) = true)
    (apart : zeroedFit (span.offset + span.len) (crc.offset + 4) zeroed = true)
    (within : base + extent ≤ bytes.length) :
    ∃ value, crcOf bytes base span crc zeroed = some value := by
  have ends := (fits_iff.mp fit).2.2
  have stored : zeroedFit (span.offset + span.len) span.offset (⟨crc.offset, crc.width⟩ :: zeroed) =
      true := by
    refine zeroedFit_cons.mpr ⟨after, ?_, ?_, ?_⟩
    · rw [wide]
      exact (fits_iff.mp inside).2.2
    · rwa [wide]
    · rwa [wide]
  obtain ⟨read, last, spans, bounded⟩ :=
    crcSpans_isSome 0xFFFFFFFF stored (Nat.le_add_right ..) (by omega : base + _ ≤ bytes.length)
  simp only [crcOf, spans, Option.bind_eq_bind, Option.bind_some]
  rw [slice_eq _ (by omega) (by omega)]
  exact ⟨_, rfl⟩

/-! ### Scopes -/

/-- Each row lies within the record. -/
theorem rowsFit_row {base stride count row : Nat} (fit : rowsFit checker base stride count = true)
    (inside : row < count) : base + row * stride + stride ≤ checker.size := by
  simp only [rowsFit, Bool.and_eq_true, fits_iff] at fit
  have ends := fit.2.2.2
  calc base + row * stride + stride = base + stride * (row + 1) := by ring
    _ ≤ base + stride * count := by
      have : stride * (row + 1) ≤ stride * count := Nat.mul_le_mul_left stride inside
      omega
    _ ≤ checker.size := ends

theorem scopeFits_rows {rows : Rows} (fit : scopeFits checker (.rows rows) = true) :
    rowsFit checker rows.base rows.stride rows.count = true := by
  simp only [scopeFits, Bool.and_eq_true] at fit
  exact fit.2

/-! ### Checks -/

theorem member_isSome {tags : Member} {base extent : Nat} {name : String} {enumeration : Enum}
    (found : wireEnum name description tags.enumeration = .ok enumeration)
    (fit : intFits tags.int extent = true) (within : base + extent ≤ bytes.length) :
    ∃ held, tags.holds description bytes base = some held := by
  have declared : findEnum description tags.enumeration = some enumeration := by
    simp only [wireEnum] at found
    split at found
    · cases found
    · next declared =>
      split_ifs at found
      rw [declared, Except.ok.inj found]
  simp only [Member.holds, load_int fit within, Option.bind_eq_bind, Option.bind_some, declared,
    Option.map_some]
  split_ifs <;> exact ⟨_, rfl⟩

/-- A check of a valid rule reads within its instance of the scope, or within the record. -/
theorem holds_isSome {base sequence : Nat} (fields : ruleFits checker description rule = .ok true)
    (sized : bytes.length = checker.size)
    (within : base + (scopeExtent checker rule.scope).2 ≤ checker.size) :
    ∃ held, rule.check.holds description bytes base sequence = some held := by
  rw [← sized] at within
  obtain ⟨reject, scope, check⟩ := rule
  change base + (scopeExtent checker scope).2 ≤ bytes.length at within
  cases check with
  | magic int value =>
      simp only [ruleFits] at fields
      split_ifs at fields
      simp only [Except.ok.injEq, Bool.and_eq_true] at fields
      exact ⟨_, by simp only [Check.holds, load_int fields.2 within]; rfl⟩
  | version int value =>
      simp only [ruleFits, Except.ok.injEq, Bool.and_eq_true] at fields
      exact ⟨_, by simp only [Check.holds, load_int fields.2 within]; rfl⟩
  | equal int value | atMost int value =>
      simp only [ruleFits, Except.ok.injEq, Bool.and_eq_true] at fields
      exact ⟨_, by simp only [Check.holds, load_int fields.1 within]; rfl⟩
  | seqlock int | nonzero int =>
      simp only [ruleFits, Except.ok.injEq] at fields
      exact ⟨_, by simp only [Check.holds, load_int fields within]; rfl⟩
  | implies int when requires =>
      simp only [ruleFits, Except.ok.injEq, Bool.and_eq_true] at fields
      exact ⟨_, by simp only [Check.holds, load_int fields.1.1.1.1 within]; rfl⟩
  | zero span =>
      simp only [ruleFits, Except.ok.injEq, fits_iff] at fields
      exact ⟨_, allZero_eq (by omega)⟩
  | member tags =>
      simp only [ruleFits, bind, Except.bind] at fields
      cases found : wireEnum checker.name description tags.enumeration with
      | error rejection => simp [found] at fields
      | ok enumeration =>
          simp only [found, Except.ok.injEq, Bool.and_eq_true] at fields
          exact member_isSome found fields.1 within
  | kindMember kind value tags =>
      simp only [ruleFits, bind, Except.bind] at fields
      cases found : wireEnum checker.name description tags.enumeration with
      | error rejection => simp [found] at fields
      | ok enumeration =>
          simp only [found, Except.ok.injEq, Bool.and_eq_true] at fields
          simp only [Check.holds, load_int fields.1.1.1 within, Option.bind_eq_bind,
            Option.bind_some]
          split_ifs
          · exact ⟨_, rfl⟩
          · exact member_isSome found fields.1.2 within
  | ringDropped head dropped capacity =>
      simp only [ruleFits, Except.ok.injEq, Bool.and_eq_true, beq_iff_eq] at fields
      have first := load_int fields.1.1.1.1 within
      have second := load_int fields.1.1.1.2 within
      rw [fields.1.1.2] at first
      rw [fields.1.2] at second
      exact ⟨_, by simp only [Check.holds, first, second]; rfl⟩
  | onlyForKind int kind value =>
      simp only [ruleFits, Except.ok.injEq, Bool.and_eq_true] at fields
      simp only [Check.holds, load_int fields.1.1 within, load_int fields.1.2 within,
        Option.bind_eq_bind, Option.bind_some]
      split_ifs <;> exact ⟨_, rfl⟩
  | zeroWhenUnset int span =>
      simp only [ruleFits, Except.ok.injEq, Bool.and_eq_true, fits_iff] at fields
      simp only [Check.holds, load_int fields.1 within, Option.bind_eq_bind, Option.bind_some]
      split_ifs
      · exact ⟨_, rfl⟩
      · exact ⟨_, allZero_eq (by omega)⟩
  | payloadTail length payload =>
      simp only [ruleFits, Except.ok.injEq, Bool.and_eq_true, fits_iff] at fields
      simp only [Check.holds, load_int fields.1 within, Option.bind_eq_bind, Option.bind_some]
      exact ⟨_, allZero_eq (by omega)⟩
  | crc32 span crc zeroed =>
      simp only [ruleFits, Except.ok.injEq, Bool.and_eq_true, beq_iff_eq, decide_eq_true_eq]
        at fields
      obtain ⟨⟨⟨⟨wide, fit⟩, after⟩, inside⟩, apart⟩ := fields
      obtain ⟨value, computed⟩ := crcOf_isSome wide fit after inside apart within
      have ends := (fits_iff.mp fit).2.2
      have stored := (fits_iff.mp inside).2.2
      simp only [Check.holds, computed, load_eq (by decide : loadable 4 = true)
        (by omega : base + crc.offset + 4 ≤ bytes.length), Option.bind_eq_bind, Option.bind_some]
      exact ⟨_, rfl⟩
  | entryIdentity headerGeneration generation sequence =>
      cases scope with
      | whole | rows | selected => simp [ruleFits] at fields
      | window window =>
          simp only [ruleFits, Except.ok.injEq, Bool.and_eq_true, beq_iff_eq] at fields
          obtain ⟨⟨⟨⟨⟨-, first⟩, second⟩, generationFit⟩, sequenceFit⟩, header⟩ := fields
          have generationAt := load_int generationFit within
          have sequenceAt := load_int sequenceFit within
          rw [first] at generationAt
          rw [second] at sequenceAt
          have headerEnds := (fits_iff.mp header).2.2
          simp only [Check.holds, generationAt, sequenceAt, load_eq (by decide : loadable 8 = true)
            (by omega : headerGeneration + 8 ≤ bytes.length), Option.bind_eq_bind,
            Option.bind_some]
          split_ifs <;> exact ⟨_, rfl⟩
  | eventChild kind child sentinel global targets targetState =>
      simp only [ruleFits, Except.ok.injEq, Bool.and_eq_true, beq_iff_eq, decide_eq_true_eq]
        at fields
      obtain ⟨⟨⟨⟨⟨⟨⟨⟨⟨kindFit, childFit⟩, kindWidth⟩, childWidth⟩, -⟩, rows⟩, stateWidth⟩,
        stateFit⟩, -⟩, -⟩ := fields
      have kindAt := load_int kindFit within
      have childAt := load_int childFit within
      rw [kindWidth] at kindAt
      rw [childWidth] at childAt
      simp only [Check.holds, kindAt, childAt, Option.bind_eq_bind, Option.bind_some]
      split_ifs with global known
      · exact ⟨_, rfl⟩
      · have row := rowsFit_row (scopeFits_rows rows) known
        have stateEnds := (intFits_iff.mp stateFit).2.2
        rw [load_eq (by decide) (by omega)]
        exact ⟨_, rfl⟩
      · exact ⟨_, rfl⟩

/-! ### Rules -/

/-- The row a rule selects is no longer than the selector's. -/
def Scope.within (selector : Rows) : Scope → Bool
  | selected table => table.stride ≤ selector.stride
  | whole | rows _ | window _ => true

/-- Validation does not compare the rows of selecting rules with the selector's. -/
def Checker.selectsWithin (checker : Checker) : Bool :=
  checker.selector.all fun selector => checker.rules.all fun rule => rule.scope.within selector

/-- The caller's bank is one of the selector's rows. -/
def Checker.picks (checker : Checker) (bank : Nat) : Prop :=
  ∀ selector, checker.selector = some selector → bank < selector.count

/-- Every instance of the scope of a valid rule lies within the record. -/
theorem instances_within {previous level bank : Nat}
    (valid : RuleValid checker description previous rule level)
    (selector : ∀ rows, checker.selector = some rows →
      scopeFits checker (.selected rows) = true ∧ rule.scope.within rows = true)
    (picked : checker.picks bank) (sized : bytes.length = checker.size) :
    ∃ instances, rule.scope.instances bytes (checker.selected bank) = some instances ∧
      ∀ place ∈ instances, place.1 + (scopeExtent checker rule.scope).2 ≤ checker.size := by
  have scope := valid.scope
  have selects := valid.selects
  cases kind : rule.scope with
  | whole =>
      refine ⟨_, rfl, fun place member => ?_⟩
      rw [List.mem_singleton.mp member]
      simp [scopeExtent]
  | rows rows =>
      rw [kind] at scope
      refine ⟨_, rfl, fun place member => ?_⟩
      obtain ⟨row, inside, rfl⟩ := List.mem_map.mp member
      exact rowsFit_row (scopeFits_rows scope) (List.mem_range.mp inside)
  | window window =>
      rw [kind] at scope
      simp only [scopeFits, Bool.and_eq_true, bne_iff_ne] at scope
      obtain ⟨⟨⟨-, capacity⟩, head⟩, rows⟩ := scope
      have headEnds := (fits_iff.mp head).2.2
      simp only [Scope.instances, load_eq (by decide : loadable 8 = true)
        (by omega : window.headOffset + 8 ≤ bytes.length), Option.bind_eq_bind, Option.bind_some]
      refine ⟨_, rfl, fun place member => ?_⟩
      obtain ⟨index, -, rfl⟩ := List.mem_map.mp member
      exact rowsFit_row rows (Nat.mod_lt _ (Nat.pos_of_ne_zero capacity))
  | selected rows =>
      rw [kind] at selects
      obtain ⟨table, picks⟩ := Option.isSome_iff_exists.mp selects.symm
      obtain ⟨fit, within⟩ := selector table picks
      rw [kind] at within
      refine ⟨_, rfl, fun place member => ?_⟩
      rw [List.mem_singleton.mp member]
      have row := rowsFit_row (scopeFits_rows fit) (picked table picks)
      have shorter : rows.stride ≤ table.stride := by simpa [Scope.within] using within
      simp only [Checker.selected, picks, Option.elim_some, scopeExtent]
      omega

theorem holdsAt_isSome {check : Check} {instances : List (Nat × Nat)}
    (each : ∀ place ∈ instances,
      ∃ held, check.holds description bytes place.1 place.2 = some held) :
    ∃ held, holdsAt description check bytes instances = some held := by
  induction instances with
  | nil => exact ⟨_, rfl⟩
  | cons place rest induct =>
      obtain ⟨held, here⟩ := each place List.mem_cons_self
      simp only [holdsAt, here, Option.bind_eq_bind, Option.bind_some]
      cases held with
      | true => exact induct fun later member => each later (List.mem_cons_of_mem _ member)
      | false => exact ⟨_, rfl⟩

/-- Every rule of a valid table holds or does not: no read of it is illegal. -/
theorem rule_isSome {bank : Nat} (valid : validateChecker checker description = .ok ())
    (within : checker.selectsWithin = true) (picked : checker.picks bank)
    (sized : bytes.length = checker.size) (member : rule ∈ checker.rules) :
    ∃ held, rule.holds description bytes (checker.selected bank) = some held := by
  obtain ⟨selector, rules⟩ := validateChecker_ok valid
  obtain ⟨before, level, -, accepted⟩ := rules.mem member
  have reach : ∀ rows, checker.selector = some rows →
      scopeFits checker (.selected rows) = true ∧ rule.scope.within rows = true := by
    intro rows picks
    refine ⟨selector rows picks, ?_⟩
    simp only [Checker.selectsWithin, picks, Option.all_some, List.all_eq_true] at within
    exact within rule member
  obtain ⟨instances, listed, inside⟩ := instances_within accepted reach picked sized
  simp only [Rule.holds, listed, Option.bind_eq_bind, Option.bind_some]
  exact holdsAt_isSome fun place member =>
    holds_isSome accepted.fields sized (inside place member)

/-! ### Verdicts -/

/-- A rule of the class is violated, and no rule of a class before it. -/
structure FirstViolated (description : Description) (bytes : Bytes) (selected : Nat)
    (rules : List Rule) (reject : AbiReject) (level : Nat) : Prop where
  ranked : rank reject = some level
  found : ∃ rule ∈ rules, rule.reject = reject ∧
    rule.holds description bytes selected = some false
  first : ∀ rule ∈ rules, rule.holds description bytes selected = some false →
    ∃ later, rank rule.reject = some later ∧ level ≤ later

/-- What a verdict says of a record. -/
inductive Judges (description : Description) (checker : Checker) (bytes : Bytes) (bank : Nat) :
    AbiReject → Prop where
  | size (length : bytes.length ≠ checker.size) : Judges description checker bytes bank .size
  | range (length : bytes.length = checker.size) (outside : ¬ checker.picks bank) :
      Judges description checker bytes bank .range
  | ok (length : bytes.length = checker.size) (picked : checker.picks bank)
      (each : ∀ rule ∈ checker.rules,
        rule.holds description bytes (checker.selected bank) = some true) :
      Judges description checker bytes bank .ok
  | violated {reject : AbiReject} {level : Nat} (length : bytes.length = checker.size)
      (picked : checker.picks bank)
      (violated : FirstViolated description bytes (checker.selected bank) checker.rules reject
        level) :
      Judges description checker bytes bank reject

/-- The first rule that fails is of the first class, since the classes are in order. -/
theorem firstFailure_judges {previous selected : Nat} {rules : List Rule}
    (valid : RulesValid checker description previous rules)
    (each : ∀ rule ∈ rules, ∃ held, rule.holds description bytes selected = some held) :
    ∃ reject, firstFailure description bytes selected rules = some reject ∧
      ((reject = .ok ∧ ∀ rule ∈ rules, rule.holds description bytes selected = some true) ∨
        ∃ level, previous ≤ level ∧
          FirstViolated description bytes selected rules reject level) := by
  induction valid with
  | nil => exact ⟨.ok, rfl, .inl ⟨rfl, by simp⟩⟩
  | @cons previous level rule rest head tail induct =>
      obtain ⟨held, here⟩ := each rule List.mem_cons_self
      simp only [firstFailure, here, Option.bind_eq_bind, Option.bind_some]
      cases held with
      | false =>
          refine ⟨rule.reject, rfl, .inr ⟨level, head.sorted, head.ranked,
            ⟨rule, List.mem_cons_self, rfl, here⟩, fun other member failed => ?_⟩⟩
          rcases List.mem_cons.mp member with rfl | later
          · exact ⟨level, head.ranked, Nat.le_refl _⟩
          · obtain ⟨before, after, above, accepted⟩ := tail.mem later
            exact ⟨after, accepted.ranked, above.trans accepted.sorted⟩
      | true =>
          obtain ⟨reject, reached, verdict⟩ :=
            induct fun other member => each other (List.mem_cons_of_mem _ member)
          refine ⟨reject, reached, ?_⟩
          rcases verdict with ⟨rfl, rest⟩ | ⟨found, above, violated⟩
          · exact .inl ⟨rfl, List.forall_mem_cons.mpr ⟨here, rest⟩⟩
          · obtain ⟨other, member, failed⟩ := violated.found
            refine .inr ⟨found, head.sorted.trans above, violated.ranked,
              ⟨other, List.mem_cons_of_mem _ member, failed⟩, fun other member failed => ?_⟩
            rcases List.mem_cons.mp member with rfl | later
            · rw [here] at failed
              cases failed
            · exact violated.first other later failed

theorem rank_injective {left right : AbiReject} {level : Nat} (first : rank left = some level)
    (second : rank right = some level) : left = right := by
  have ranks : ∀ left right : AbiReject, rank left = rank right → rank left ≠ none →
      left = right := by
    intro left right
    cases left <;> cases right <;> decide
  exact ranks left right (first.trans second.symm) (by rw [first]; simp)

/-- A record has one judgement. -/
theorem Judges.unique {bank : Nat} {left right : AbiReject}
    (first : Judges description checker bytes bank left)
    (second : Judges description checker bytes bank right) : left = right := by
  cases first with
  | size length =>
      cases second with
      | size => rfl
      | range sized | ok sized | violated sized => exact absurd sized length
  | range sized outside =>
      cases second with
      | size length => exact absurd sized length
      | range => rfl
      | ok _ picked | violated _ picked => exact absurd picked outside
  | ok sized picked each =>
      cases second with
      | size length => exact absurd sized length
      | range _ outside => exact absurd picked outside
      | ok => rfl
      | violated _ _ violated =>
          obtain ⟨rule, member, -, failed⟩ := violated.found
          rw [each rule member] at failed
          cases failed
  | @violated _ level sized picked violated =>
      cases second with
      | size length => exact absurd sized length
      | range _ outside => exact absurd picked outside
      | ok _ _ each =>
          obtain ⟨rule, member, -, failed⟩ := violated.found
          rw [each rule member] at failed
          cases failed
      | @violated _ other _ _ again =>
          obtain ⟨rule, member, rfl, failed⟩ := violated.found
          obtain ⟨late, lateMember, rfl, lateFailed⟩ := again.found
          obtain ⟨below, ranked, least⟩ := violated.first late lateMember lateFailed
          obtain ⟨under, rankedAgain, leastAgain⟩ := again.first rule member failed
          obtain rfl := Option.some.inj (ranked.symm.trans again.ranked)
          obtain rfl := Option.some.inj (rankedAgain.symm.trans violated.ranked)
          exact rank_injective violated.ranked
            (again.ranked.trans (congrArg some (Nat.le_antisymm leastAgain least)))

theorem verdict_isSome (valid : validateChecker checker description = .ok ())
    (within : checker.selectsWithin = true) (bytes : Bytes) (bank : Nat) :
    ∃ reject, verdict description checker bytes bank = some reject ∧
      Judges description checker bytes bank reject := by
  by_cases length : bytes.length ≠ checker.size
  · exact ⟨.size, if_pos length, .size length⟩
  have sized := not_not.mp length
  rw [verdict, if_neg length]
  by_cases outside : checker.selector.any (fun rows => bank ≥ rows.count) = true
  · refine ⟨.range, if_pos outside, .range sized fun picked => ?_⟩
    obtain ⟨rows, picks, beyond⟩ := (Option.any_eq_true _ _).mp outside
    exact absurd (picked rows picks) (Nat.not_lt.mpr (of_decide_eq_true beyond))
  have picked : checker.picks bank := fun rows picks => by
    rw [picks] at outside
    simpa using outside
  rw [if_neg outside]
  obtain ⟨reject, reached, verdict⟩ := firstFailure_judges (validateChecker_ok valid).2
    fun rule member => rule_isSome valid within picked sized member
  refine ⟨reject, reached, ?_⟩
  rcases verdict with ⟨rfl, each⟩ | ⟨level, -, violated⟩
  · exact .ok sized picked each
  · exact .violated sized picked violated

/-- An accepted table judges every record and every bank, without a read outside the record: by
its size, then the bank, then the class of highest precedence that is violated anywhere. -/
theorem verdict_judges (valid : validateChecker checker description = .ok ())
    (within : checker.selectsWithin = true) (bytes : Bytes) (bank : Nat) :
    ∃ reject, verdict description checker bytes bank = some reject ∧
      ∀ other, Judges description checker bytes bank other ↔ other = reject := by
  obtain ⟨reject, reached, judged⟩ := verdict_isSome valid within bytes bank
  refine ⟨reject, reached, fun other => ⟨fun again => again.unique judged, ?_⟩⟩
  rintro rfl
  exact judged

/-- A spec page whose second bank is open and has no length. -/
def openBank : Bytes := List.replicate 2100 0 ++ 3 :: List.replicate 1995 0

/-- The open bank is torn before it is out of range. -/
theorem verdict_judges_spec :
    verdict CheckTable.description specBankChecker openBank 1 = some .torn ∧
      ∀ other, Judges CheckTable.description specBankChecker openBank 1 other ↔ other = .torn := by
  have valid : validateChecker specBankChecker CheckTable.description = .ok () := by decide +kernel
  obtain ⟨reject, reached, judged⟩ := verdict_judges valid (by decide +kernel) openBank 1
  have torn : verdict CheckTable.description specBankChecker openBank 1 = some .torn := by
    decide +kernel
  obtain rfl := Option.some.inj (reached.symm.trans torn)
  exact ⟨torn, judged⟩

/-- A rule that selects a longer row than the selector's: accepted, and read past the record. -/
example :
    let wide : Checker :=
      { specBankChecker with
        rules := [⟨.reserved, .selected ⟨0, 4096, 1⟩, .zero ⟨0, 4096⟩⟩] }
    validateChecker wide CheckTable.description = .ok () ∧ wide.selectsWithin = false ∧
      verdict CheckTable.description wide (List.replicate 4096 0) 0 = none := by
  decide +kernel

/-- Every checker of the contract selects rows as its selector does. -/
example : ∀ checker ∈ checkers, checker.selectsWithin = true := by
  decide +kernel

end Chrysopolis.Codegen.CheckTable
