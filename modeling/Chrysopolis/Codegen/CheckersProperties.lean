import Chrysopolis.Codegen.CheckTableProperties

/-! The checkers of the status page, the spec page and the control records are the tables of the
contract: what holds of the verdicts of the tables holds of theirs. -/

set_option autoImplicit false

namespace Chrysopolis.Codegen.CheckTable

open Chrysopolis.Support
open Chrysopolis.Abi (AbiReject Span IntAt Rows)

deriving instance DecidableEq for Abi.Span, Abi.IntAt, Abi.Rows, Abi.Window, Abi.Scope,
  Abi.Member, Abi.Check, Abi.Rule

/-! ### Rules over memory -/

def Member.toAbi (description : Description) (member : Member) : Option Abi.Member :=
  (findEnum description member.enumeration).map fun found =>
    ⟨member.int, found.values, member.rejectZero⟩

/-- The check with its enumeration at hand; only journals have the checks that are left out. -/
def Check.toAbi (description : Description) : Check → Option Abi.Check
  | magic int value => some (.magic int value)
  | version int value => some (.version int value)
  | seqlock int => some (.seqlock int)
  | crc32 span crc zeroed => some (.crc32 span crc zeroed)
  | zero span => some (.zero span)
  | member tags => (tags.toAbi description).map .member
  | kindMember kind value tags => (tags.toAbi description).map (.kindMember kind value)
  | equal int value => some (.equal int value)
  | atMost int value => some (.atMost int value)
  | ringDropped head dropped capacity => some (.ringDropped head dropped capacity)
  | eventChild kind child sentinel global targets targetState =>
      some (.eventChild kind child sentinel global targets targetState)
  | implies int when requires => some (.implies int when requires)
  | onlyForKind int kind value => some (.onlyForKind int kind value)
  | zeroWhenUnset int span => some (.zeroWhenUnset int span)
  | nonzero _ | entryIdentity .. | payloadTail .. => none

def Scope.toAbi : Scope → Option Abi.Scope
  | whole => some .whole
  | rows table => some (.rows table)
  | selected table => some (.selected table)
  | window ring =>
      match ring.mode with
      | .ring => some (.window ⟨ring.headOffset, ring.base, ring.stride, ring.capacity⟩)
      | .journal => none

def Rule.toAbi (description : Description) (rule : Rule) : Option Abi.Rule := do
  some ⟨rule.reject, ← rule.scope.toAbi, ← rule.check.toAbi description⟩

def memoryOf (bytes : Bytes) : Memory := fun position => bytes.getD position 0

variable {description : Description} {bytes : Bytes}

theorem slice_memory {α : Type} {start stop : Nat} {read : Memory → α} {value : α}
    (taken : slice bytes start stop read = some value) : read (memoryOf bytes) = value := by
  rw [slice] at taken
  split_ifs at taken
  exact Option.some.inj taken

theorem load_memory {offset width value : Nat} (loaded : load bytes offset width = some value) :
    (memoryOf bytes).load offset width = value := by
  rw [load] at loaded
  split_ifs at loaded
  exact slice_memory loaded

theorem allZero_memory {start len : Nat} {value : Bool}
    (read : allZero bytes start len = some value) :
    (memoryOf bytes).allZero start len = value :=
  slice_memory read

theorem crcSpans_memory {base : Nat} {zeroed : List Span} {state result : UInt32 × Nat}
    (read : crcSpans bytes base zeroed state = some result) :
    Abi.crcSpans (memoryOf bytes) base zeroed state = result := by
  induction zeroed generalizing state with
  | nil => exact Option.some.inj read
  | cons span rest induct =>
      obtain ⟨crc, cursor⟩ := state
      simp only [crcSpans, Option.bind_eq_bind, Option.bind_eq_some_iff] at read
      obtain ⟨fed, taken, later⟩ := read
      simp only [Abi.crcSpans, slice_memory taken]
      exact induct later

theorem crcOf_memory {base : Nat} {span : Span} {crc : IntAt} {zeroed : List Span}
    {value : UInt32} (read : crcOf bytes base span crc zeroed = some value) :
    Abi.crcOf (memoryOf bytes) base span crc zeroed = value := by
  simp only [crcOf, Option.bind_eq_bind, Option.bind_eq_some_iff] at read
  obtain ⟨⟨fed, cursor⟩, spans, taken⟩ := read
  simp only [Abi.crcOf, crcSpans_memory spans]
  exact slice_memory taken

theorem Member.holds_memory {member : Member} {tags : Abi.Member} {base : Nat} {held : Bool}
    (same : member.toAbi description = some tags)
    (read : member.holds description bytes base = some held) :
    tags.holds (memoryOf bytes) base = held := by
  simp only [Member.toAbi, Option.map_eq_some_iff] at same
  obtain ⟨found, declared, rfl⟩ := same
  simp only [Member.holds, Option.bind_eq_bind, Option.bind_eq_some_iff] at read
  obtain ⟨raw, loaded, read⟩ := read
  simp only [Abi.Member.holds, load_memory loaded]
  split_ifs at read with zero
  · simp only [Option.some.injEq] at read
    rw [zero, ← read]
    rfl
  · rw [declared, Option.map_some, Option.some.injEq] at read
    rw [Bool.eq_false_of_not_eq_true zero, read]
    rfl

/-- A check of a valid rule reads the same in memory. -/
theorem Check.holds_memory {checker : Checker} {rule : Rule} {same : Abi.Check}
    {base sequence : Nat} {held : Bool} (fields : ruleFits checker description rule = .ok true)
    (abi : rule.check.toAbi description = some same)
    (read : rule.check.holds description bytes base sequence = some held) :
    same.holds (memoryOf bytes) base = held := by
  obtain ⟨reject, scope, check⟩ := rule
  cases check with
  | magic int value | version int value | equal int value | atMost int value | seqlock int =>
      obtain rfl := Option.some.inj abi
      simp only [Check.holds, Option.bind_eq_bind, Option.bind_eq_some_iff] at read
      obtain ⟨loaded, int, held⟩ := read
      simpa only [Abi.Check.holds, load_memory int] using Option.some.inj held
  | zero span =>
      obtain rfl := Option.some.inj abi
      exact allZero_memory read
  | member tags =>
      obtain ⟨found, same, rfl⟩ := Option.map_eq_some_iff.mp abi
      exact tags.holds_memory same read
  | kindMember kind value tags =>
      obtain ⟨found, same, rfl⟩ := Option.map_eq_some_iff.mp abi
      simp only [Check.holds, Option.bind_eq_bind, Option.bind_eq_some_iff] at read
      obtain ⟨loaded, int, read⟩ := read
      simp only [Abi.Check.holds, load_memory int]
      by_cases other : loaded ≠ value
      · rw [if_pos other, Option.some.injEq] at read
        simp [other, ← read]
      · rw [if_neg other] at read
        rw [tags.holds_memory same read]
        simp [not_not.mp other]
  | implies int when requires =>
      obtain rfl := Option.some.inj abi
      simp only [Check.holds, Option.bind_eq_bind, Option.bind_eq_some_iff] at read
      obtain ⟨loaded, int, held⟩ := read
      simpa only [Abi.Check.holds, load_memory int] using Option.some.inj held
  | onlyForKind int kind value =>
      obtain rfl := Option.some.inj abi
      simp only [Check.holds, Option.bind_eq_bind, Option.bind_eq_some_iff] at read
      obtain ⟨loaded, int, read⟩ := read
      simp only [Abi.Check.holds, load_memory int]
      by_cases zero : loaded = 0
      · rw [if_pos zero, Option.some.injEq] at read
        simp [zero, ← read]
      · rw [if_neg zero, Option.bind_eq_some_iff] at read
        obtain ⟨tag, kind, held⟩ := read
        rw [load_memory kind, ← Option.some.inj held]
        simp [zero]
  | zeroWhenUnset int span =>
      obtain rfl := Option.some.inj abi
      simp only [Check.holds, Option.bind_eq_bind, Option.bind_eq_some_iff] at read
      obtain ⟨loaded, int, read⟩ := read
      simp only [Abi.Check.holds, load_memory int]
      by_cases set : loaded ≠ 0
      · rw [if_pos set, Option.some.injEq] at read
        simp [set, ← read]
      · rw [if_neg set] at read
        rw [allZero_memory read]
        simp [not_not.mp set]
  | ringDropped head dropped capacity =>
      obtain rfl := Option.some.inj abi
      simp only [ruleFits, Except.ok.injEq, Bool.and_eq_true, beq_iff_eq] at fields
      simp only [Check.holds, Option.bind_eq_bind, Option.bind_eq_some_iff] at read
      obtain ⟨newest, headAt, lost, droppedAt, held⟩ := read
      simpa only [Abi.Check.holds, fields.1.1.2, fields.1.2, load_memory headAt,
        load_memory droppedAt] using Option.some.inj held
  | crc32 span crc zeroed =>
      obtain rfl := Option.some.inj abi
      simp only [ruleFits, Except.ok.injEq, Bool.and_eq_true, beq_iff_eq] at fields
      simp only [Check.holds, Option.bind_eq_bind, Option.bind_eq_some_iff] at read
      obtain ⟨computed, fed, stored, loaded, held⟩ := read
      simpa only [Abi.Check.holds, fields.1.1.1.1, crcOf_memory fed, load_memory loaded]
        using Option.some.inj held
  | eventChild kind child sentinel global targets targetState =>
      obtain rfl := Option.some.inj abi
      simp only [ruleFits, Except.ok.injEq, Bool.and_eq_true, beq_iff_eq] at fields
      obtain ⟨⟨⟨⟨⟨⟨⟨⟨-, kindWidth⟩, childWidth⟩, -⟩, -⟩, -⟩, -⟩, -⟩, -⟩ := fields
      simp only [Check.holds, Option.bind_eq_bind, Option.bind_eq_some_iff] at read
      obtain ⟨tag, kindAt, index, childAt, read⟩ := read
      simp only [Abi.Check.holds, kindWidth, childWidth, load_memory kindAt, load_memory childAt]
      split_ifs at read with everywhere known
      · rw [if_pos everywhere]
        exact Option.some.inj read
      · rw [Option.bind_eq_some_iff] at read
        obtain ⟨state, stateAt, held⟩ := read
        rw [if_neg everywhere, load_memory stateAt, ← Option.some.inj held]
        simp [known]
      · rw [if_neg everywhere, ← Option.some.inj read]
        simp [known]
  | nonzero | entryIdentity | payloadTail => cases abi

theorem holdsAt_memory {checker : Checker} {rule : Rule} {same : Abi.Check} {held : Bool}
    {instances : List (Nat × Nat)} (fields : ruleFits checker description rule = .ok true)
    (abi : rule.check.toAbi description = some same)
    (read : holdsAt description rule.check bytes instances = some held) :
    instances.all (fun place => same.holds (memoryOf bytes) place.1) = held := by
  induction instances with
  | nil => exact Option.some.inj read
  | cons place rest induct =>
      obtain ⟨base, sequence⟩ := place
      simp only [holdsAt, Option.bind_eq_bind, Option.bind_eq_some_iff] at read
      obtain ⟨here, first, read⟩ := read
      rw [List.all_cons, Check.holds_memory fields abi first]
      cases here with
      | true => exact induct read
      | false => exact Option.some.inj read

/-- A valid rule holds of the bytes as it does of the memory. -/
theorem Rule.holds_memory {checker : Checker} {rule : Rule} {same : Abi.Rule} {selected : Nat}
    {held : Bool} (fields : ruleFits checker description rule = .ok true)
    (abi : rule.toAbi description = some same)
    (read : rule.holds description bytes selected = some held) :
    same.reject = rule.reject ∧ same.holds (memoryOf bytes) selected = held := by
  simp only [Rule.toAbi, Option.bind_eq_bind, Option.bind_eq_some_iff] at abi
  obtain ⟨scope, scopeAbi, check, checkAbi, whole⟩ := abi
  obtain rfl := Option.some.inj whole
  simp only [Rule.holds, Option.bind_eq_bind, Option.bind_eq_some_iff] at read
  obtain ⟨instances, listed, read⟩ := read
  have each := holdsAt_memory fields checkAbi read
  refine ⟨rfl, ?_⟩
  cases kind : rule.scope with
  | whole | selected =>
      rw [kind] at scopeAbi listed
      obtain rfl := Option.some.inj scopeAbi
      obtain rfl := Option.some.inj listed
      simpa [Abi.Rule.holds] using each
  | rows table =>
      rw [kind] at scopeAbi listed
      obtain rfl := Option.some.inj scopeAbi
      obtain rfl := Option.some.inj listed
      simpa [Abi.Rule.holds, List.all_map, Function.comp_def] using each
  | window ring =>
      rw [kind] at scopeAbi listed
      obtain ⟨headOffset, base, stride, capacity, mode⟩ := ring
      cases mode with
      | journal => cases scopeAbi
      | ring =>
          obtain rfl := Option.some.inj scopeAbi
          simp only [Scope.instances, Option.bind_eq_bind, Option.bind_eq_some_iff] at listed
          obtain ⟨head, loaded, listed⟩ := listed
          obtain rfl := Option.some.inj listed
          simpa [Abi.Rule.holds, Abi.Window.slots, Window.live, load_memory loaded, List.all_map,
            Function.comp_def] using each

theorem firstFailure_memory {checker : Checker} {rules : List Rule} {same : List Abi.Rule}
    {selected : Nat} {reject : AbiReject}
    (fields : ∀ rule ∈ rules, ruleFits checker description rule = .ok true)
    (abi : rules.map (Rule.toAbi description) = same.map some)
    (read : firstFailure description bytes selected rules = some reject) :
    Abi.firstReject (memoryOf bytes) selected same = reject := by
  induction rules generalizing same with
  | nil =>
      obtain rfl := List.map_eq_nil_iff.mp abi.symm
      exact Option.some.inj read
  | cons rule rest induct =>
      obtain ⟨twin, twins, rfl, head, tail⟩ := List.map_eq_cons_iff.mp abi.symm
      simp only [firstFailure, Option.bind_eq_bind, Option.bind_eq_some_iff] at read
      obtain ⟨held, first, read⟩ := read
      obtain ⟨class', holds⟩ :=
        Rule.holds_memory (fields rule List.mem_cons_self) head.symm first
      simp only [Abi.firstReject, holds]
      cases held with
      | true =>
          exact induct (fun rule member => fields rule (List.mem_cons_of_mem _ member)) tail.symm
            read
      | false => exact class'.trans (Option.some.inj read)

/-- The checker that a table makes over memory. -/
structure Restates (checker : Checker) (same : Abi.Checker) : Prop where
  valid : validateChecker checker CheckTable.description = .ok ()
  within : checker.selectsWithin = true
  size : same.size = checker.size
  selector : same.selector = checker.selector
  rules : checker.rules.map (Rule.toAbi CheckTable.description) = same.rules.map some

/-- A table and the checker that restates it have the same verdicts. -/
theorem Restates.verdict {checker : Checker} {same : Abi.Checker}
    (restates : Restates checker same) (bytes : Bytes) (bank : Nat) :
    verdict CheckTable.description checker bytes bank =
      some (same.verdict (memoryOf bytes) bytes.length bank) := by
  obtain ⟨reject, reached, -⟩ := verdict_isSome restates.valid restates.within bytes bank
  rw [reached]
  congr 1
  have fields : ∀ rule ∈ checker.rules,
      ruleFits checker CheckTable.description rule = .ok true := by
    intro rule member
    obtain ⟨_, _, -, accepted⟩ := (validateChecker_ok restates.valid).2.mem member
    exact accepted.fields
  simp only [CheckTable.verdict] at reached
  simp only [Abi.Checker.verdict, restates.size, restates.selector]
  by_cases length : bytes.length ≠ checker.size
  · rw [if_pos length] at reached ⊢
    exact (Option.some.inj reached).symm
  · rw [if_neg length] at reached ⊢
    cases selector : checker.selector with
    | none =>
        simp only [selector, Option.any_none, Bool.false_eq_true, if_false] at reached
        simp only [Checker.selected, selector, Option.elim_none] at reached
        exact (firstFailure_memory fields restates.rules reached).symm
    | some rows =>
        simp only [selector, Option.any_some, decide_eq_true_eq] at reached
        by_cases outside : bank ≥ rows.count
        · rw [if_pos outside] at reached
          exact ((if_pos outside).trans (Option.some.inj reached)).symm
        · rw [if_neg outside] at reached
          simp only [Checker.selected, selector, Option.elim_some] at reached
          exact ((if_neg outside).trans
            (firstFailure_memory fields restates.rules reached)).symm

/-! ### The contract -/

/-- The checkers over memory, with the tables they restate. -/
def restated : List (Checker × Abi.Checker) :=
  [ (rootStatusPage, { size := Abi.statusPageSize, rules := Abi.RootStatusPage.rules }),
    (specHeader, { size := Abi.specPageSize, rules := Abi.SpecPage.headerRules }),
    (specBankChecker,
      { size := Abi.specPageSize
        selector := some Abi.SpecPage.banks
        rules := Abi.SpecPage.bankRules }),
    (ctlCommand,
      { size := Abi.ctlRecordSize, rules := Abi.ctlRules Abi.magicCommand Abi.ppOpcodes }),
    (ctlReply,
      { size := Abi.ctlRecordSize, rules := Abi.ctlRules Abi.magicReply Abi.ctlResults }) ]

theorem restated_restates : ∀ pair ∈ restated, Restates pair.1 pair.2 := by
  have checked : ∀ pair ∈ restated,
      validateChecker pair.1 CheckTable.description = .ok () ∧ pair.1.selectsWithin = true ∧
        pair.2.size = pair.1.size ∧ pair.2.selector = pair.1.selector ∧
        pair.1.rules.map (Rule.toAbi CheckTable.description) = pair.2.rules.map some := by
    decide +kernel
  intro pair member
  obtain ⟨valid, within, size, selector, rules⟩ := checked pair member
  exact { valid, within, size, selector, rules }

/-- The checkers of Root and BEAM answer with the class of highest precedence, too. -/
theorem restated_judges {pair : Checker × Abi.Checker} (member : pair ∈ restated) (bytes : Bytes)
    (bank : Nat) (reject : AbiReject) :
    Judges CheckTable.description pair.1 bytes bank reject ↔
      reject = pair.2.verdict (memoryOf bytes) bytes.length bank := by
  have restates := restated_restates pair member
  obtain ⟨found, reached, judged⟩ := verdict_isSome restates.valid restates.within bytes bank
  have same := Option.some.inj (reached.symm.trans (restates.verdict bytes bank))
  rw [← same]
  constructor
  · intro other
    exact other.unique judged
  · intro other
    rw [other]
    exact judged

end Chrysopolis.Codegen.CheckTable
