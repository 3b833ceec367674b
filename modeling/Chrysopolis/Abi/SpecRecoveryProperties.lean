import Chrysopolis.Abi.SpecWriterProperties

/-! Recovery of the spec page after a writer is cut off between two stores. Bank
stores and the selector never spoil a header, so only a cut inside the header that
begin gives a zero page leaves a page the next begin refuses. -/

set_option autoImplicit false

namespace Chrysopolis.Abi

open Chrysopolis.Support

/-! ### The units are the stores -/

theorem byteUnits_flatten (stores : List (SpecField × Nat)) :
    (byteUnits stores).flatten = (specLayout.stores stores).flatMap Store.writes := by
  rw [byteUnits, ← List.flatMap_def]
  exact List.flatMap_singleton' _

theorem wordUnits_flatten (stores : List (SpecField × Nat)) :
    (wordUnits stores).flatten = (specLayout.stores stores).flatMap Store.writes :=
  List.flatMap_def.symm

theorem stepUnits_flatten (writer : SpecWriter) (page : Memory) (step : SpecWriterStepKind) :
    page.write (stepUnits writer page step).flatten =
      specLayout.assign page (actStores writer page step) := by
  cases step <;> simp only [stepUnits, byteUnits_flatten, wordUnits_flatten] <;> rfl

theorem beginUnits_flatten {page : Memory} (zero : page.allZero 0 specHeaderSize = true) :
    page.write (beginUnits page).flatten = specLayout.assign page freshHeader := by
  simp only [beginUnits, zero, if_true, List.flatten_append, byteUnits_flatten,
    wordUnits_flatten]
  rfl

/-- All the units of the steps write what the steps write. -/
theorem runUnits_flatten (steps : List SpecWriterStepKind) (writer : SpecWriter)
    (page : Memory) :
    page.write (runUnits writer page steps).flatten = (runSteps writer page steps).2.1 := by
  induction steps generalizing writer page with
  | nil => rfl
  | cons step steps ih =>
      simp only [runUnits, runSteps]
      by_cases refused : (!writer.page) = true ∨ writer.phase ≠ (transitions step).1
      · simp only [specWriterStep, if_pos refused, reduceCtorEq, if_false]
        rfl
      · simp only [specWriterStep, if_neg refused, if_true, List.flatten_append,
          Memory.write_append, stepUnits_flatten]
        exact ih _ _

/-- The units of a whole commit write what the commit writes. -/
theorem commitUnits_flatten (page : Memory) (commit : Commit) :
    some (page.write (commitUnits page commit).flatten) =
      (specWriterCommit specWriterInit (some page) commit).2.1 := by
  have decided := specWriterBegin_case specWriterInit page commit
  simp only [commitUnits, specWriterCommit]
  generalize specWriterBegin specWriterInit (some page) commit = begun at decided
  obtain ⟨writer, bytes, result⟩ := begun
  cases decided with
  | refused same kept failed =>
      obtain rfl : bytes = some page := kept
      cases result with
      | ok => exact absurd rfl failed
      | _ => rfl
  | fresh openSeq odd room zero same kept ok =>
      obtain rfl : bytes = some _ := kept
      obtain rfl : result = .ok := ok
      simp only [List.flatten_append, Memory.write_append, beginUnits_flatten zero,
        runUnits_flatten]
  | next openSeq odd room header same kept ok =>
      obtain rfl : bytes = some _ := kept
      obtain rfl : result = .ok := ok
      have started : beginUnits page = [] := if_neg fun zero => zero_header zero header
      simp only [started, List.nil_append, runUnits_flatten]

/-! ### The header after a prefix -/

/-- Every byte of the units lies in the banks. -/
def BeyondHeader (units : List UnitStore) : Prop :=
  ∀ unit ∈ units, ∀ byte ∈ unit, specHeaderSize ≤ byte.1

theorem BeyondHeader.keeps {units : List UnitStore} (beyond : BeyondHeader units)
    (page : Memory) : SameHeader (page.write units.flatten) page := by
  intro position below
  refine Memory.write_other _ _ _ fun byte member same => ?_
  obtain ⟨unit, unitIn, byteIn⟩ := List.mem_flatten.mp member
  have inBank := beyond unit unitIn byte byteIn
  omega

theorem InBank.beyond {bank : Bank} {stores : List (SpecField × Nat)}
    (inBank : InBank bank stores) :
    ∀ byte ∈ (specLayout.stores stores).flatMap Store.writes, specHeaderSize ≤ byte.1 := by
  intro byte member
  obtain ⟨store, stored, inStore⟩ := List.mem_flatMap.mp member
  obtain ⟨assignment, assigned, rfl⟩ := List.mem_map.mp stored
  obtain ⟨field, target⟩ := inBank assignment assigned
  have lower : specLayout.address assignment.1 ≤ byte.1 := (Store.writes_range inStore).1
  have address : specLayout.address (.bank bank field) =
    specHeaderSize + bank.val * specBankSize + field.offset := rfl
  rw [target, address] at lower
  omega

theorem byteUnits_beyond {bank : Bank} {stores : List (SpecField × Nat)}
    (inBank : InBank bank stores) : BeyondHeader (byteUnits stores) := by
  intro unit unitIn byte byteIn
  obtain ⟨source, member, rfl⟩ := List.mem_map.mp unitIn
  obtain rfl := List.mem_singleton.mp byteIn
  exact inBank.beyond byte member

theorem wordUnits_beyond {bank : Bank} {stores : List (SpecField × Nat)}
    (inBank : InBank bank stores) : BeyondHeader (wordUnits stores) := by
  intro unit unitIn byte byteIn
  obtain ⟨store, stored, rfl⟩ := List.mem_map.mp unitIn
  exact inBank.beyond byte (List.mem_flatMap.mpr ⟨store, stored, byteIn⟩)

/-- Every step but the flip stores to the writer's bank. -/
theorem stepUnits_beyond (writer : SpecWriter) (page : Memory) {step : SpecWriterStepKind}
    (bank : step ≠ .stepFlip) : BeyondHeader (stepUnits writer page step) := by
  cases step with
  | stepOpen => exact wordUnits_beyond (single_inBank _ _ _)
  | stepWrite => exact byteUnits_beyond (writePayload_inBank writer)
  | stepSeal => exact byteUnits_beyond (single_inBank _ _ _)
  | stepClose => exact wordUnits_beyond (single_inBank _ _ _)
  | stepFlip => exact absurd rfl bank

/-- An allowed step contributes its units. -/
theorem runUnits_step (writer : SpecWriter) (page : Memory) (step : SpecWriterStepKind)
    (steps : List SpecWriterStepKind) (attached : writer.page = true)
    (phase : writer.phase = (transitions step).1) :
    runUnits writer page (step :: steps) =
      stepUnits writer page step ++
        runUnits { writer with phase := (transitions step).2 }
          (specLayout.assign page (actStores writer page step)) steps := by
  have allowed : ¬ ((!writer.page) = true ∨ writer.phase ≠ (transitions step).1) := by
    simp [attached, phase]
  simp only [runUnits, specWriterStep, if_neg allowed, if_true]

/-- The steps of a begun writer: bank stores, then the selector word. -/
theorem runUnits_shape {writer : SpecWriter} (page : Memory) (attached : writer.page = true)
    (idle : writer.phase = .idle) :
    ∃ bankUnits, BeyondHeader bankUnits ∧
      runUnits writer page commitSteps =
        bankUnits ++ wordUnits [(.header .activeBank, writer.bank.val)] := by
  rw [commitSteps, runUnits_step writer page .stepOpen _ attached idle,
    runUnits_step { writer with phase := (transitions .stepOpen).2 } _ .stepWrite _ attached rfl,
    runUnits_step { writer with phase := (transitions .stepWrite).2 } _ .stepSeal _ attached rfl,
    runUnits_step { writer with phase := (transitions .stepSeal).2 } _ .stepClose _ attached rfl,
    runUnits_step { writer with phase := (transitions .stepClose).2 } _ .stepFlip _ attached rfl]
  simp only [← List.append_assoc, runUnits, List.append_nil]
  refine ⟨_, ?_, rfl⟩
  intro unit member
  simp only [List.mem_append] at member
  rcases member with ((member | member) | member) | member
  · exact stepUnits_beyond _ _ (by decide) unit member
  · exact stepUnits_beyond _ _ (by decide) unit member
  · exact stepUnits_beyond _ _ (by decide) unit member
  · exact stepUnits_beyond _ _ (by decide) unit member

theorem sameHeader_symm {left right : Memory} (same : SameHeader left right) :
    SameHeader right left :=
  fun position below => (same position below).symm

/-- Past a valid header every cut leaves a valid header. -/
theorem cut_header {page : Memory} (header : SpecHeaderOk page) {bankUnits : List UnitStore}
    (beyond : BeyondHeader bankUnits) (bank : Bank) (count : Nat) :
    SpecHeaderOk (page.write (((bankUnits ++
      wordUnits [(.header .activeBank, bank.val)]).take count).flatten)) := by
  rw [List.take_append]
  have cut : BeyondHeader (bankUnits.take count) := fun unit member =>
    beyond unit (List.mem_of_mem_take member)
  have kept : SpecHeaderOk (page.write (bankUnits.take count).flatten) :=
    (sameHeader_symm (cut.keeps page)).ok header
  rw [List.flatten_append, Memory.write_append]
  cases remaining : count - bankUnits.length with
  | zero => simpa using kept
  | succ more =>
      have whole : (wordUnits [(SpecField.header .activeBank, bank.val)]).take (more + 1) =
          wordUnits [(.header .activeBank, bank.val)] :=
        List.take_of_length_le (by simp [wordUnits, Layout.stores])
      rw [whole, wordUnits_flatten]
      exact (flip_header kept bank).1

/-- A page whose header is zero or valid. -/
def HeaderSound (page : Memory) : Prop :=
  page.allZero 0 specHeaderSize = true ∨ SpecHeaderOk page

/-- The stores that give a zero page its header. -/
def headerUnits : List UnitStore :=
  byteUnits [(.header .magic, magicSpec), (.header .abiVersion, abiVersion)] ++
    wordUnits [(.header .activeBank, 0)]

/-- Writes agree wherever the memories did. -/
theorem write_sameHeader {left right : Memory} (same : SameHeader left right)
    (writes : List (Nat × UInt8)) : SameHeader (left.write writes) (right.write writes) := by
  induction writes generalizing left right with
  | nil => exact same
  | cons byte writes ih =>
      rw [Memory.write_cons, Memory.write_cons]
      refine ih fun position below => ?_
      by_cases here : position = byte.1
      · subst here
        simp only [Function.update_self]
      · rw [Function.update_of_ne here, Function.update_of_ne here]
        exact same position below

def blankPage : Memory := fun _ => 0

/-- Cut inside a fresh header: sound with none of its stores, or with at least the
eight bytes of the magic and the first of the version. -/
theorem headerUnits_cut : ∀ count : Fin 14,
    ((blankPage.write (headerUnits.take count).flatten).allZero 0 specHeaderSize = true ∨
      checkSpecHeader (blankPage.write (headerUnits.take count).flatten) specPageSize = .ok) ↔
        count.val = 0 ∨ 9 ≤ count.val := by
  decide +kernel

/-! ### Recovery -/

/-- No bank has run out of sequence numbers. -/
def Roomy (page : Memory) : Prop :=
  ∀ bank : Bank, nextOdd (specLayout.read page (.bank bank .bankSeq)) + 1 < 2 ^ 32

instance (page : Memory) : Decidable (Roomy page) :=
  inferInstanceAs (Decidable (∀ _ : Bank, _))

/-- Any writer free to begin can commit to the page. -/
def Recovers (page : Memory) : Prop :=
  ∀ (writer : SpecWriter) (commit : Commit), writer.phase = .idle ∨ writer.phase = .flipped →
    (specWriterBegin writer (some page) commit).2.2 = .ok ∧
      (specWriterCommit writer (some page) commit).2.2 = .ok

/-- The cut is not inside the header of a page that was still zero. -/
def SafeCut (page : Memory) (count : Nat) : Prop :=
  page.allZero 0 specHeaderSize = true → count = 0 ∨ 9 ≤ count

/-- Pages writers leave, each cut off anywhere safe or not at all. -/
inductive ReachedPage : Memory → Prop where
  | zero {page : Memory} : page.allZero 0 specPageSize = true → ReachedPage page
  | cut {page : Memory} (commit : Commit) (count : Nat) : ReachedPage page →
      SafeCut page count → ReachedPage (cutCommit page commit count)

/-- With sequence numbers left, begin looks at the header only. -/
theorem roomy_begin {page : Memory} (roomy : Roomy page) {writer : SpecWriter}
    (free : writer.phase = .idle ∨ writer.phase = .flipped) (commit : Commit) :
    (specWriterBegin writer (some page) commit).2.2 = .ok ↔ HeaderSound page := by
  have idle : ¬ (writer.phase ≠ .idle ∧ writer.phase ≠ .flipped) := fun busy =>
    free.elim busy.1 busy.2
  have header : ¬ ((!page.allZero 0 specHeaderSize) = true ∧
      checkSpecHeader page specPageSize ≠ .ok) ↔ HeaderSound page := by
    rw [HeaderSound, ← checkSpecHeader_ok]
    cases page.allZero 0 specHeaderSize <;> simp
  rw [← header]
  simp only [specWriterBegin, if_neg idle]
  split_ifs with bad zero full full
  · simp [bad]
  · exact absurd full (by have := roomy (targetBank 0); omega)
  · exact iff_of_true rfl bad
  · exact absurd full (by
      have := roomy (targetBank (specLayout.read page (.header .activeBank)))
      omega)
  · exact iff_of_true rfl bad

theorem runSteps_step (writer : SpecWriter) (page : Memory) (step : SpecWriterStepKind)
    (steps : List SpecWriterStepKind) (attached : writer.page = true)
    (phase : writer.phase = (transitions step).1) :
    runSteps writer page (step :: steps) =
      runSteps { writer with phase := (transitions step).2 }
        (specLayout.assign page (actStores writer page step)) steps := by
  have allowed : ¬ ((!writer.page) = true ∨ writer.phase ≠ (transitions step).1) := by
    simp [attached, phase]
  simp only [runSteps, specWriterStep, if_neg allowed, if_true]

/-- A begun commit cannot fail. -/
theorem runSteps_ok {writer : SpecWriter} (page : Memory) (attached : writer.page = true)
    (idle : writer.phase = .idle) : (runSteps writer page commitSteps).2.2 = .ok := by
  rw [commitSteps, runSteps_step writer page .stepOpen _ attached idle,
    runSteps_step { writer with phase := (transitions .stepOpen).2 } _ .stepWrite _ attached rfl,
    runSteps_step { writer with phase := (transitions .stepWrite).2 } _ .stepSeal _ attached rfl,
    runSteps_step { writer with phase := (transitions .stepSeal).2 } _ .stepClose _ attached rfl,
    runSteps_step { writer with phase := (transitions .stepClose).2 } _ .stepFlip _ attached rfl]
  rfl

theorem specWriterCommit_ok {writer : SpecWriter} {page : Memory} {commit : Commit}
    (began : (specWriterBegin writer (some page) commit).2.2 = .ok) :
    (specWriterCommit writer (some page) commit).2.2 = .ok := by
  have decided := specWriterBegin_case writer page commit
  simp only [specWriterCommit]
  generalize specWriterBegin writer (some page) commit = begun at decided began
  obtain ⟨started, bytes, result⟩ := begun
  obtain rfl : result = .ok := began
  cases decided with
  | refused same kept failed => exact absurd rfl failed
  | fresh openSeq odd room zero same kept ok =>
      obtain rfl : bytes = some _ := kept
      obtain rfl : started = _ := same
      exact runSteps_ok _ rfl rfl
  | next openSeq odd room header same kept ok =>
      obtain rfl : bytes = some _ := kept
      obtain rfl : started = _ := same
      exact runSteps_ok _ rfl rfl

theorem roomy_recovers {page : Memory} (roomy : Roomy page) :
    Recovers page ↔ HeaderSound page := by
  constructor
  · intro recovers
    have free : specWriterInit.phase = .idle ∨ specWriterInit.phase = .flipped := .inl rfl
    exact (roomy_begin roomy free ⟨0, fun _ => 0, fun _ => 0⟩).mp (recovers _ _ free).1
  · intro sound writer commit free
    have began := (roomy_begin roomy free commit).mpr sound
    exact ⟨began, specWriterCommit_ok began⟩

theorem SameHeader.sound {left right : Memory} (same : SameHeader left right) :
    HeaderSound left ↔ HeaderSound right := by
  have zero : left.allZero 0 specHeaderSize = right.allZero 0 specHeaderSize :=
    Memory.allZero_congr fun position _ below => same position below
  rw [HeaderSound, HeaderSound, zero]
  exact or_congr_right ⟨same.ok, (sameHeader_symm same).ok⟩

/-- A zero header cut while begin fills it. -/
theorem fresh_cut {page : Memory} (zero : page.allZero 0 specHeaderSize = true) {count : Nat}
    (inside : count < 14) :
    HeaderSound (page.write (headerUnits.take count).flatten) ↔ count = 0 ∨ 9 ≤ count := by
  have blank : SameHeader page blankPage := fun position below =>
    Memory.allZero_iff.mp zero position (Nat.zero_le _) below
  rw [(write_sameHeader blank _).sound, HeaderSound, ← checkSpecHeader_ok]
  exact headerUnits_cut ⟨count, inside⟩

/-- What a cut does to the header: nothing when begin refused the commit, and else
only a cut inside a fresh header spoils it. -/
theorem cutCommit_sound (page : Memory) (commit : Commit) (count : Nat) :
    ((specWriterBegin specWriterInit (some page) commit).2.2 ≠ .ok ∧
        cutCommit page commit count = page) ∨
      (HeaderSound (cutCommit page commit count) ↔ SafeCut page count) := by
  have decided := specWriterBegin_case specWriterInit page commit
  simp only [cutCommit, commitUnits]
  generalize specWriterBegin specWriterInit (some page) commit = begun at decided
  obtain ⟨writer, bytes, result⟩ := begun
  cases decided with
  | refused same kept failed =>
      refine .inl ⟨failed, ?_⟩
      obtain rfl : bytes = some page := kept
      cases result with
      | ok => exact absurd rfl failed
      | _ => simp [Memory.write]
  | fresh openSeq odd room zero same kept ok =>
      obtain rfl : bytes = some _ := kept
      obtain rfl : result = .ok := ok
      have started : beginUnits page = headerUnits := if_pos zero
      obtain ⟨bankUnits, beyond, shape⟩ := runUnits_shape (specLayout.assign page freshHeader)
        (congrArg SpecWriter.page same) (congrArg SpecWriter.phase same)
      have short : headerUnits.length = 13 := by decide
      right
      simp only [started, shape]
      by_cases inside : count < 14
      · have cut : (headerUnits ++ (bankUnits ++
            wordUnits [(.header .activeBank, writer.bank.val)])).take count =
              headerUnits.take count := by
          rw [List.take_append_of_le_length]
          omega
        rw [cut, fresh_cut zero inside]
        exact ⟨fun safe _ => safe, fun safe => safe zero⟩
      · have whole : page.write headerUnits.flatten = specLayout.assign page freshHeader := by
          rw [← started, beginUnits_flatten zero]
        rw [List.take_append, List.take_of_length_le (by omega), List.flatten_append,
          Memory.write_append, whole]
        exact iff_of_true (.inr (cut_header (freshHeader_ok zero).1 beyond _ _))
          fun _ => .inr (by omega)
  | next openSeq odd room header same kept ok =>
      obtain rfl : bytes = some _ := kept
      obtain rfl : result = .ok := ok
      have started : beginUnits page = [] := if_neg fun zero => zero_header zero header
      obtain ⟨bankUnits, beyond, shape⟩ := runUnits_shape page
        (congrArg SpecWriter.page same) (congrArg SpecWriter.phase same)
      right
      simp only [started, shape, List.nil_append]
      exact iff_of_true (.inr (cut_header header beyond _ count))
        fun zero => absurd header (zero_header zero)

theorem ReachedPage.sound {page : Memory} (reached : ReachedPage page) : HeaderSound page := by
  induction reached with
  | zero empty =>
      refine .inl (Memory.allZero_iff.mpr fun position lower upper => ?_)
      exact Memory.allZero_iff.mp empty position lower
        (Nat.lt_of_lt_of_le upper (by decide))
  | cut commit count _ safe ih =>
      rcases cutCommit_sound _ commit count with ⟨_, kept⟩ | exact
      · rw [kept]
        exact ih
      · exact exact.mpr safe

/-- A page a cut-off commit leaves takes the next commit exactly when the cut is not
inside the header of a page that was still zero. -/
theorem spec_page_recovers {page : Memory} (reached : ReachedPage page) (commit : Commit)
    (count : Nat) (roomy : Roomy (cutCommit page commit count)) :
    Recovers (cutCommit page commit count) ↔ SafeCut page count := by
  rw [roomy_recovers roomy]
  rcases cutCommit_sound page commit count with ⟨failed, kept⟩ | exact
  · rw [kept] at roomy
    exact absurd ((roomy_begin roomy (.inl rfl) commit).mpr reached.sound) failed
  · exact exact

def noCommit : Commit := ⟨1, fun _ => 0, fun _ => 1⟩

/-- Cut inside the first payload. -/
theorem spec_page_recovers_sample : Recovers (cutCommit blankPage noCommit 40) :=
  (spec_page_recovers (.zero (by decide +kernel)) noCommit 40 (by decide +kernel)).mpr
    fun _ => .inr (by decide)

/-- One byte of the magic, and no later begin accepts the page. -/
theorem spec_page_stuck : ReachedPage blankPage ∧ Roomy (cutCommit blankPage noCommit 1) ∧
    (specWriterBegin specWriterInit (some (cutCommit blankPage noCommit 1)) noCommit).2.2 =
      .badPage ∧ ¬ Recovers (cutCommit blankPage noCommit 1) := by
  have roomy : Roomy (cutCommit blankPage noCommit 1) := by decide +kernel
  have refused : (specWriterBegin specWriterInit
      (some (cutCommit blankPage noCommit 1)) noCommit).2.2 = .badPage := by decide +kernel
  refine ⟨.zero (by decide +kernel), roomy, refused, fun recovers => ?_⟩
  have began := (recovers specWriterInit noCommit (.inl rfl)).1
  rw [refused] at began
  exact SpecWriteResult.noConfusion began

end Chrysopolis.Abi
