import Chrysopolis.Abi.ChecksProperties
import Chrysopolis.Root.Spec
import Chrysopolis.Support.Transducer

/-! The rule a spec page is consumed by. The active bank decides when it is
usable, else the other one does, and only a strictly newer generation is ever
applied. -/

set_option autoImplicit false

namespace Chrysopolis.Root

open Chrysopolis.Abi
open Chrysopolis.Support

/-! ### The declarative rule -/

/-- The bank the header names. -/
def activeBank (page : Memory) : Bank := ⟨specActive page % 2, Nat.mod_lt _ (by decide)⟩

def otherBank (bank : Bank) : Bank := ⟨1 - bank.val, by omega⟩

def SameContent (left right : RootSpecPolicy) : Prop :=
  ∀ child, left.budget child = right.budget child ∧ left.desired child = right.desired child

/-- No budget and no desired state for an absent child. -/
def DeclaresPresent (policy : RootSpecPolicy) (presentMask : UInt64) : Prop :=
  ∀ child : RootChild, maskBit presentMask child.val = false →
    policy.budget child = 0 ∧ policy.desired child = 0

/-- A bank Root may take its policy from. -/
structure BankUsable (page : Memory) (bank : Bank) (presentMask : UInt64)
    (retained : RootSpecPolicy) : Prop where
  intact : SpecBankSealed page bank
  generation : (bankPolicy page bank.val).generation ≠ 0
  present : DeclaresPresent (bankPolicy page bank.val) presentMask
  admissible : retained.generation < (bankPolicy page bank.val).generation ∨
    (bankPolicy page bank.val).generation = retained.generation ∧
      SameContent (bankPolicy page bank.val) retained

/-- The bank that decides: the active one when usable, else the other. -/
inductive Selected (page : Memory) (presentMask : UInt64) (retained : RootSpecPolicy) :
    Bank → Prop where
  | active (header : SpecHeaderOk page)
      (usable : BankUsable page (activeBank page) presentMask retained) :
      Selected page presentMask retained (activeBank page)
  | other (header : SpecHeaderOk page)
      (unusable : ¬ BankUsable page (activeBank page) presentMask retained)
      (usable : BankUsable page (otherBank (activeBank page)) presentMask retained) :
      Selected page presentMask retained (otherBank (activeBank page))

theorem Selected.usable {page : Memory} {mask : UInt64} {retained : RootSpecPolicy} {bank : Bank}
    (selected : Selected page mask retained bank) : BankUsable page bank mask retained := by
  cases selected <;> assumption

theorem Selected.header {page : Memory} {mask : UInt64} {retained : RootSpecPolicy} {bank : Bank}
    (selected : Selected page mask retained bank) : SpecHeaderOk page := by
  cases selected <;> assumption

theorem Selected.unique {page : Memory} {mask : UInt64} {retained : RootSpecPolicy}
    {left right : Bank} (first : Selected page mask retained left)
    (second : Selected page mask retained right) : left = right := by
  cases first with
  | active header usable =>
      cases second with
      | active => rfl
      | other header unusable other => exact absurd usable unusable
  | other header unusable other =>
      cases second with
      | active header usable => exact absurd usable unusable
      | other => rfl

/-- The first check that a bank fails, with the generation it is reported under. A bank that is
empty, with sequence 0 or intact with generation 0, fails none. -/
inductive BankFails (page : Memory) (bank : Bank) (presentMask : UInt64)
    (retained : RootSpecPolicy) : RootSpecReject → UInt64 → Prop where
  | torn (odd : specLayout.read page (.bank bank .bankSeq) % 2 = 1) :
      BankFails page bank presentMask retained .bankTorn 0
  | checksum (published : specLayout.read page (.bank bank .bankSeq) ≠ 0)
      (even : specLayout.read page (.bank bank .bankSeq) % 2 = 0)
      (differs : (bankCrc page (specHeaderSize + bank.val * specBankSize)).toNat ≠
        specLayout.read page (.bank bank .crc32)) :
      BankFails page bank presentMask retained .bankChecksum 0
  | malformed (published : specLayout.read page (.bank bank .bankSeq) ≠ 0)
      (even : specLayout.read page (.bank bank .bankSeq) % 2 = 0)
      (checksum : (bankCrc page (specHeaderSize + bank.val * specBankSize)).toNat =
        specLayout.read page (.bank bank .crc32))
      (malformed : ¬ SpecBankSealed page bank) :
      BankFails page bank presentMask retained .bankMalformed 0
  | undeclared (intact : SpecBankSealed page bank)
      (generation : (bankPolicy page bank.val).generation ≠ 0)
      (absent : ¬ DeclaresPresent (bankPolicy page bank.val) presentMask) :
      BankFails page bank presentMask retained .undeclaredChild
        (bankPolicy page bank.val).generation
  | regressed (intact : SpecBankSealed page bank)
      (generation : (bankPolicy page bank.val).generation ≠ 0)
      (present : DeclaresPresent (bankPolicy page bank.val) presentMask)
      (older : (bankPolicy page bank.val).generation < retained.generation) :
      BankFails page bank presentMask retained .regressed (bankPolicy page bank.val).generation
  | conflict (intact : SpecBankSealed page bank)
      (generation : (bankPolicy page bank.val).generation ≠ 0)
      (present : DeclaresPresent (bankPolicy page bank.val) presentMask)
      (equal : (bankPolicy page bank.val).generation = retained.generation)
      (differs : ¬ SameContent (bankPolicy page bank.val) retained) :
      BankFails page bank presentMask retained .conflict (bankPolicy page bank.val).generation

/-- What a page is rejected for: a header that was written and is not valid, or the failing check
of the active bank. The other bank's is never reported. -/
inductive PageFails (page : Memory) (presentMask : UInt64) (retained : RootSpecPolicy) :
    RootSpecReject × UInt64 × UInt32 → Prop where
  | header (written : page.allZero 0 specHeaderSize = false) (bad : ¬ SpecHeaderOk page) :
      PageFails page presentMask retained (.header, 0, 0)
  | active (header : SpecHeaderOk page) {reason : RootSpecReject} {generation : UInt64}
      (fails : BankFails page (activeBank page) presentMask retained reason generation) :
      PageFails page presentMask retained
        (reason, generation, UInt32.ofNat (activeBank page).val)

/-! ### One bank -/

theorem sameContent_iff {left right : RootSpecPolicy} :
    sameContent left right = true ↔ SameContent left right := by
  simp [sameContent, SameContent]

theorem declaresAbsent_iff {policy : RootSpecPolicy} {mask : UInt64} :
    declaresAbsent policy mask = false ↔ DeclaresPresent policy mask := by
  simp [declaresAbsent, DeclaresPresent]

/-- One case per way a bank is classified. -/
inductive EvaluateCase (page : Memory) (bank : Bank) (mask : UInt64) (retained : RootSpecPolicy)
    (candidate : Candidate) : Prop where
  | newer (usable : BankUsable page bank mask retained)
      (later : retained.generation < (bankPolicy page bank.val).generation)
      (kind : candidate.kind = .newer) (policy : candidate.policy = bankPolicy page bank.val)
  | same (usable : BankUsable page bank mask retained)
      (equal : (bankPolicy page bank.val).generation = retained.generation)
      (kind : candidate.kind = .same)
  | unusable (unusable : ¬ BankUsable page bank mask retained)
      (kind : candidate.kind = .empty ∨ candidate.kind = .rejected)

theorem evaluate_case (page : Memory) (bank : Bank) (mask : UInt64) (retained : RootSpecPolicy) :
    EvaluateCase page bank mask retained (evaluate page bank.val mask retained) := by
  simp only [evaluate]
  split_ifs with unpublished broken empty absent regressed equal content
  · exact .unusable (fun usable => usable.intact.published unpublished) (.inl rfl)
  · exact .unusable (fun usable => broken (checkSpecBank_ok.mpr usable.intact)) (.inr rfl)
  · exact .unusable (fun usable => usable.generation empty) (.inl rfl)
  · refine .unusable (fun usable => ?_) (.inr rfl)
    rw [declaresAbsent_iff.mpr usable.present] at absent
    exact Bool.false_ne_true absent
  · refine .unusable (fun usable => ?_) (.inr rfl)
    rcases usable.admissible with later | ⟨equal, content⟩
    · exact UInt64.lt_asymm later regressed
    · exact UInt64.ne_of_lt regressed equal
  · have intact := checkSpecBank_ok.mp (not_not.mp broken)
    have present := declaresAbsent_iff.mp (Bool.eq_false_iff.mpr absent)
    exact .same ⟨intact, empty, present, .inr ⟨equal, sameContent_iff.mp content⟩⟩ equal rfl
  · refine .unusable (fun usable => ?_) (.inr rfl)
    rcases usable.admissible with later | ⟨equal, same⟩
    · exact UInt64.ne_of_lt later equal.symm
    · exact content (sameContent_iff.mpr same)
  · have intact := checkSpecBank_ok.mp (not_not.mp broken)
    have present := declaresAbsent_iff.mp (Bool.eq_false_iff.mpr absent)
    have later : retained.generation < (bankPolicy page bank.val).generation :=
      UInt64.lt_of_le_of_ne (UInt64.not_lt.mp regressed) (Ne.symm equal)
    exact .newer ⟨intact, empty, present, .inl later⟩ later rfl rfl

/-- The classes of a bank's check, in the order of its rules. -/
theorem checkSpecBank_eq (page : Memory) (bank : Bank) :
    checkSpecBank page specPageSize bank.val =
      if ¬ (specLayout.read page (.bank bank .bankSeq) ≠ 0 ∧
          specLayout.read page (.bank bank .bankSeq) % 2 = 0) then .torn
      else if (bankCrc page (specHeaderSize + bank.val * specBankSize)).toNat ≠
          specLayout.read page (.bank bank .crc32) then .checksum
      else if page.allZero (specHeaderSize + bank.val * specBankSize + 334) 1682 = false then
        .reserved
      else if specLayout.read page (.bank bank .length) ≠ specBankSize then .range
      else if specLayout.read page (.bank bank .recordCount) ≠ childCount then .range
      else .ok := by
  have known : ¬ bank.val ≥ SpecPage.banks.count := Nat.not_le.mpr bank.isLt
  simp only [checkSpecBank, Checker.verdict, ne_eq, not_true_eq_false, if_false, if_neg known,
    SpecPage.bankRules, firstReject, Rule.holds, Check.holds, Bool.and_eq_true, bne_iff_ne,
    beq_iff_eq, ite_not, Bool.eq_false_iff]
  rfl

theorem checkSpecBank_fails {page : Memory} {bank : Bank} (mask : UInt64)
    (retained : RootSpecPolicy)
    (published : specLayout.read page (.bank bank .bankSeq) ≠ 0)
    (broken : checkSpecBank page specPageSize bank.val ≠ .ok) :
    BankFails page bank mask retained
      (bankReason (checkSpecBank page specPageSize bank.val)) 0 := by
  have unsealed : ¬ SpecBankSealed page bank := fun intact => broken (checkSpecBank_ok.mpr intact)
  rw [checkSpecBank_eq] at broken ⊢
  by_cases even : specLayout.read page (.bank bank .bankSeq) % 2 = 0
  · rw [if_neg (not_not.mpr ⟨published, even⟩)] at broken ⊢
    by_cases checksum : (bankCrc page (specHeaderSize + bank.val * specBankSize)).toNat =
        specLayout.read page (.bank bank .crc32)
    · rw [if_neg (not_not.mpr checksum)] at broken ⊢
      have malformed : BankFails page bank mask retained .bankMalformed 0 :=
        .malformed published even checksum unsealed
      split_ifs at broken ⊢
      · exact malformed
      · exact malformed
      · exact malformed
      · exact absurd rfl broken
    · rw [if_pos checksum]
      exact .checksum published even checksum
  · rw [if_pos fun both => even both.2]
    exact .torn (by omega)

theorem BankFails.reported {page : Memory} {bank : Bank} {mask : UInt64}
    {retained : RootSpecPolicy} {reason : RootSpecReject} {generation : UInt64}
    (fails : BankFails page bank mask retained reason generation) : reason ≠ .unset := by
  cases fails <;> decide

/-- A bank fails one check first. -/
theorem BankFails.unique {page : Memory} {bank : Bank} {mask : UInt64}
    {retained : RootSpecPolicy} {reason other : RootSpecReject} {generation later : UInt64}
    (first : BankFails page bank mask retained reason generation)
    (second : BankFails page bank mask retained other later) :
    reason = other ∧ generation = later := by
  cases first with
  | torn odd =>
      cases second with
      | torn => exact ⟨rfl, rfl⟩
      | checksum _ even | malformed _ even => omega
      | undeclared intact | regressed intact | conflict intact =>
          have even := intact.even
          omega
  | checksum _ even differs =>
      cases second with
      | torn odd => omega
      | checksum => exact ⟨rfl, rfl⟩
      | malformed _ _ same => exact absurd same differs
      | undeclared intact | regressed intact | conflict intact =>
          exact absurd intact.checksum differs
  | malformed _ even same broken =>
      cases second with
      | torn odd => omega
      | checksum _ _ differs => exact absurd same differs
      | malformed => exact ⟨rfl, rfl⟩
      | undeclared intact | regressed intact | conflict intact => exact absurd intact broken
  | undeclared intact _ absent =>
      cases second with
      | torn odd =>
          have even := intact.even
          omega
      | checksum _ _ differs => exact absurd intact.checksum differs
      | malformed _ _ _ broken => exact absurd intact broken
      | undeclared => exact ⟨rfl, rfl⟩
      | regressed _ _ present | conflict _ _ present => exact absurd present absent
  | regressed intact _ present older =>
      cases second with
      | torn odd =>
          have even := intact.even
          omega
      | checksum _ _ differs => exact absurd intact.checksum differs
      | malformed _ _ _ broken => exact absurd intact broken
      | undeclared _ _ absent => exact absurd present absent
      | regressed => exact ⟨rfl, rfl⟩
      | conflict _ _ _ equal => exact absurd equal (UInt64.ne_of_lt older)
  | conflict intact _ present equal =>
      cases second with
      | torn odd =>
          have even := intact.even
          omega
      | checksum _ _ differs => exact absurd intact.checksum differs
      | malformed _ _ _ broken => exact absurd intact broken
      | undeclared _ _ absent => exact absurd present absent
      | regressed _ _ _ older => exact absurd equal (UInt64.ne_of_lt older)
      | conflict => exact ⟨rfl, rfl⟩

/-- A bank that has published nothing fails no check. -/
theorem BankFails.published {page : Memory} {bank : Bank} {mask : UInt64}
    {retained : RootSpecPolicy} {reason : RootSpecReject} {generation : UInt64}
    (fails : BankFails page bank mask retained reason generation) :
    specLayout.read page (.bank bank .bankSeq) ≠ 0 := by
  cases fails with
  | torn odd => omega
  | checksum published | malformed published => exact published
  | undeclared intact | regressed intact | conflict intact => exact intact.published

/-- An intact bank that fails a check declares a policy, which is refused. -/
theorem BankFails.refused {page : Memory} {bank : Bank} {mask : UInt64}
    {retained : RootSpecPolicy} {reason : RootSpecReject} {generation : UInt64}
    (fails : BankFails page bank mask retained reason generation)
    (intact : SpecBankSealed page bank) :
    (bankPolicy page bank.val).generation ≠ 0 ∧ ¬ BankUsable page bank mask retained := by
  cases fails with
  | torn odd =>
      have even := intact.even
      omega
  | checksum _ _ differs => exact absurd intact.checksum differs
  | malformed _ _ _ broken => exact absurd intact broken
  | undeclared _ declared absent => exact ⟨declared, fun usable => absent usable.present⟩
  | regressed _ declared _ older =>
      refine ⟨declared, fun usable => ?_⟩
      rcases usable.admissible with later | ⟨equal, _⟩
      · exact UInt64.lt_asymm later older
      · exact UInt64.ne_of_lt older equal
  | conflict _ declared _ equal differs =>
      refine ⟨declared, fun usable => ?_⟩
      rcases usable.admissible with later | ⟨_, same⟩
      · exact UInt64.ne_of_lt later equal.symm
      · exact differs same

/-- The candidate of a bank carries the check that it fails. -/
structure EvaluateReport (page : Memory) (bank : Bank) (mask : UInt64)
    (retained : RootSpecPolicy) (candidate : Candidate) : Prop where
  rejected : candidate.kind = .rejected →
    BankFails page bank mask retained candidate.reason candidate.generation
  accepted : candidate.kind ≠ .rejected →
    ∀ reason generation, ¬ BankFails page bank mask retained reason generation

theorem evaluate_report (page : Memory) (bank : Bank) (mask : UInt64)
    (retained : RootSpecPolicy) :
    EvaluateReport page bank mask retained (evaluate page bank.val mask retained) := by
  have accept {candidate : Candidate} (kind : candidate.kind ≠ .rejected)
      (passes : ∀ reason generation, ¬ BankFails page bank mask retained reason generation) :
      EvaluateReport page bank mask retained candidate :=
    ⟨fun rejected => absurd rejected kind, fun _ => passes⟩
  have reject {candidate : Candidate} (kind : candidate.kind = .rejected)
      (fails : BankFails page bank mask retained candidate.reason candidate.generation) :
      EvaluateReport page bank mask retained candidate :=
    ⟨fun _ => fails, fun other => absurd kind other⟩
  have intact (passed : ¬ checkSpecBank page specPageSize bank.val ≠ .ok) :
      SpecBankSealed page bank := checkSpecBank_ok.mp (not_not.mp passed)
  have present (declared : ¬ declaresAbsent (bankPolicy page bank.val) mask = true) :
      DeclaresPresent (bankPolicy page bank.val) mask :=
    declaresAbsent_iff.mp (Bool.eq_false_iff.mpr declared)
  simp only [evaluate]
  split_ifs with unpublished broken empty absent regressed equal content
  · exact accept (by decide) fun reason generation fails => fails.published unpublished
  · exact reject rfl (checkSpecBank_fails mask retained unpublished broken)
  · exact accept (by decide) fun reason generation fails =>
      (fails.refused (intact broken)).1 empty
  · refine reject rfl (.undeclared (intact broken) empty fun present => ?_)
    rw [declaresAbsent_iff.mpr present] at absent
    exact Bool.false_ne_true absent
  · exact reject rfl (.regressed (intact broken) empty (present absent) regressed)
  · refine accept (by simp) fun reason generation fails => ?_
    exact (fails.refused (intact broken)).2
      ⟨intact broken, empty, present absent, .inr ⟨equal, sameContent_iff.mp content⟩⟩
  · refine reject rfl (.conflict (intact broken) empty (present absent) equal fun same => ?_)
    exact content (sameContent_iff.mpr same)
  · refine accept (by simp) fun reason generation fails => ?_
    have later : retained.generation < (bankPolicy page bank.val).generation :=
      UInt64.lt_of_le_of_ne (UInt64.not_lt.mp regressed) (Ne.symm equal)
    exact (fails.refused (intact broken)).2
      ⟨intact broken, empty, present absent, .inl later⟩

/-! ### One page -/

/-- One case per way a page is decided. -/
inductive ConsumeCase (page : Memory) (mask : UInt64) (state : RootSpecState)
    (result : RootSpecState × RootSpecResult) : Prop where
  | applied (bank : Bank) (selected : Selected page mask state.retained bank)
      (later : state.retained.generation < (bankPolicy page bank.val).generation)
      (outcome : result.2.outcome = .applied)
      (retained : result.1.retained = bankPolicy page bank.val)
  | unchanged (bank : Bank) (selected : Selected page mask state.retained bank)
      (equal : (bankPolicy page bank.val).generation = state.retained.generation)
      (outcome : result.2.outcome = .unchanged) (retained : result.1.retained = state.retained)
  | nothing (unselected : ∀ bank, ¬ Selected page mask state.retained bank)
      (outcome : result.2.outcome = .absent ∨ result.2.outcome = .kept)
      (retained : result.1.retained = state.retained)

@[simp] theorem finish_outcome (state : RootSpecState) (outcome : RootSpecOutcome)
    (reason : RootSpecReject) (generation : UInt64) (bank : UInt32) :
    (finish state outcome reason generation bank).2.outcome = outcome := by
  simp only [finish]
  split_ifs <;> rfl

@[simp] theorem finish_retained (state : RootSpecState) (outcome : RootSpecOutcome)
    (reason : RootSpecReject) (generation : UInt64) (bank : UInt32) :
    (finish state outcome reason generation bank).1.retained = state.retained := by
  simp only [finish]
  split_ifs <;> rfl

theorem activeBank_val {page : Memory} (header : SpecHeaderOk page) :
    (activeBank page).val = specActive page :=
  Nat.mod_eq_of_lt (Nat.lt_succ_of_le header.active)

/-- The active bank that does not decide leaves the choice to the other. -/
private theorem selections_other {first : CandidateKind}
    (unusable : first = .empty ∨ first = .rejected) (second : CandidateKind) :
    (second = .newer → selections first second = (.applied, .other)) ∧
      (second = .same → selections first second = (.unchanged, .other)) ∧
      (second = .empty ∨ second = .rejected →
        (selections first second).1 = .absent ∨ (selections first second).1 = .kept) := by
  rcases unusable with rfl | rfl <;> cases second <;> simp [selections]

theorem rootSpecSelect_case (state : RootSpecState) {page : Memory} (mask : UInt64)
    (header : SpecHeaderOk page) :
    ConsumeCase page mask state (rootSpecSelect state page mask) := by
  have first := evaluate_case page (activeBank page) mask state.retained
  have second := evaluate_case page (otherBank (activeBank page)) mask state.retained
  have other : (otherBank (activeBank page)).val = 1 - specActive page := by
    simp only [otherBank, activeBank_val header]
  rw [activeBank_val header] at first
  rw [other] at second
  simp only [rootSpecSelect]
  cases first with
  | newer usable later kind policy =>
      refine .applied _ (.active header usable) later ?_ ?_ <;> simp [kind, selections, policy]
  | same usable equal kind =>
      refine .unchanged _ (.active header usable) equal ?_ ?_ <;> simp [kind, selections]
  | unusable unusable kind =>
      obtain ⟨newer, same, rest⟩ := selections_other kind
        (evaluate page (1 - specActive page) mask state.retained).kind
      simp only [if_pos kind]
      cases second with
      | newer usable later secondKind policy =>
          refine .applied _ (.other header unusable usable) later ?_ ?_ <;>
            simp [newer secondKind, policy]
      | same usable equal secondKind =>
          refine .unchanged _ (.other header unusable usable) equal ?_ ?_ <;>
            simp [same secondKind]
      | unusable otherUnusable secondKind =>
          have outcome := rest secondKind
          have idle : (selections (evaluate page (specActive page) mask state.retained).kind
              (evaluate page (1 - specActive page) mask state.retained).kind).1 ≠ .applied := by
            intro applied
            rw [applied] at outcome
            simp at outcome
          refine .nothing ?_ ?_ ?_
          · intro bank selected
            cases selected with
            | active _ usable => exact unusable usable
            | other _ _ usable => exact otherUnusable usable
          · simpa using outcome
          · simp [idle]

theorem snapshot_still (page : Memory) : snapshot (.still page) = true := by
  simp [snapshot, sameMarkers, SpecPageRead.still]

/-- A read no write overlaps decides by the page alone. -/
theorem rootSpecConsume_still (state : RootSpecState) (page : Memory) (mask : UInt64) :
    rootSpecConsume state (some (.still page)) mask =
      if page.allZero 0 specHeaderSize then finish state .absent .unset 0 0
      else if checkSpecHeader page specPageSize ≠ .ok then finish state .kept .header 0 0
      else rootSpecSelect state page mask := by
  simp only [rootSpecConsume, snapshot_still]
  rfl

theorem rootSpecConsume_case (state : RootSpecState) (page : Memory) (mask : UInt64) :
    ConsumeCase page mask state (rootSpecConsume state (some (.still page)) mask) := by
  have noHeader : ¬ SpecHeaderOk page → ∀ bank, ¬ Selected page mask state.retained bank :=
    fun bad _ selected => bad selected.header
  rw [rootSpecConsume_still]
  split_ifs with zero broken
  · exact .nothing (noHeader (zero_header zero)) (by simp) (by simp)
  · exact .nothing (noHeader fun header => broken (checkSpecHeader_ok.mpr header)) (by simp)
      (by simp)
  · exact rootSpecSelect_case state mask (checkSpecHeader_ok.mp (not_not.mp broken))

/-- Only a rejected active bank gives a reason. -/
theorem rootSpecSelect_accepted {state : RootSpecState} {page : Memory} {mask : UInt64}
    (accepted : (evaluate page (specActive page) mask state.retained).kind ≠ .rejected) :
    (rootSpecSelect state page mask).2.record = false ∧
      (rootSpecSelect state page mask).2.reason = .unset := by
  simp only [rootSpecSelect, if_neg accepted, finish, if_true, and_self]

/-- What identifies a rejection. -/
def RootSpecResult.rejection (result : RootSpecResult) : RootSpecReject × UInt64 × UInt32 :=
  (result.reason, result.generation, result.bank)

/-- A page is rejected for one thing. -/
theorem PageFails.unique {page : Memory} {mask : UInt64} {retained : RootSpecPolicy}
    {left right : RootSpecReject × UInt64 × UInt32}
    (first : PageFails page mask retained left) (second : PageFails page mask retained right) :
    left = right := by
  cases first with
  | header _ bad =>
      cases second with
      | header => rfl
      | active header => exact absurd header bad
  | active header fails =>
      cases second with
      | header _ bad => exact absurd header bad
      | active _ other =>
          obtain ⟨rfl, rfl⟩ := fails.unique other
          rfl

/-- A result's reason is what the page fails. -/
structure ReasonRule (page : Memory) (mask : UInt64) (retained : RootSpecPolicy)
    (result : RootSpecResult) : Prop where
  fails : result.reason ≠ .unset → PageFails page mask retained result.rejection
  passes : result.reason = .unset → ∀ rejection, ¬ PageFails page mask retained rejection

@[simp] theorem finish_rejection (state : RootSpecState) (outcome : RootSpecOutcome)
    (reason : RootSpecReject) (generation : UInt64) (bank : UInt32) :
    (finish state outcome reason generation bank).2.rejection = (reason, generation, bank) := by
  simp only [finish]
  split_ifs <;> rfl

theorem ReasonRule.of_rejection {page : Memory} {mask : UInt64} {retained : RootSpecPolicy}
    {result : RootSpecResult} {rejection : RootSpecReject × UInt64 × UInt32}
    (given : result.rejection = rejection)
    (fails : rejection.1 ≠ .unset → PageFails page mask retained rejection)
    (passes : rejection.1 = .unset → ∀ other, ¬ PageFails page mask retained other) :
    ReasonRule page mask retained result := by
  subst given
  exact ⟨fails, passes⟩

theorem ReasonRule.iff {page : Memory} {mask : UInt64} {retained : RootSpecPolicy}
    {result : RootSpecResult} (rule : ReasonRule page mask retained result)
    {rejection : RootSpecReject × UInt64 × UInt32} :
    PageFails page mask retained rejection ↔
      result.reason ≠ .unset ∧ result.rejection = rejection := by
  constructor
  · intro fails
    have set : result.reason ≠ .unset := fun unset => rule.passes unset rejection fails
    exact ⟨set, (rule.fails set).unique fails⟩
  · intro given
    rw [← given.2]
    exact rule.fails given.1

/-- Only the active bank's failing check is reported. -/
theorem rootSpecSelect_reason (state : RootSpecState) {page : Memory} (mask : UInt64)
    (header : SpecHeaderOk page) :
    ReasonRule page mask state.retained (rootSpecSelect state page mask).2 := by
  have report := evaluate_report page (activeBank page) mask state.retained
  have named := activeBank_val header
  by_cases rejected : (evaluate page (activeBank page).val mask state.retained).kind = .rejected
  · have fails := report.rejected rejected
    have given : (rootSpecSelect state page mask).2.rejection =
        ((evaluate page (activeBank page).val mask state.retained).reason,
          (evaluate page (activeBank page).val mask state.retained).generation,
          UInt32.ofNat (activeBank page).val) := by
      rw [named] at rejected ⊢
      simp only [rootSpecSelect, finish_rejection, if_pos rejected]
    refine .of_rejection given (fun _ => .active header fails) (fun unset => ?_)
    exact absurd unset fails.reported
  · have given := rejected
    rw [named] at given
    obtain ⟨-, unset⟩ := rootSpecSelect_accepted given
    refine ⟨fun set => absurd unset set, ?_⟩
    intro _ other fails
    cases fails with
    | header _ bad => exact bad header
    | active _ fails => exact report.accepted rejected _ _ fails

theorem rootSpecConsume_reason (state : RootSpecState) (page : Memory) (mask : UInt64) :
    ReasonRule page mask state.retained (rootSpecConsume state (some (.still page)) mask).2 := by
  rw [rootSpecConsume_still]
  split_ifs with zero broken
  · refine .of_rejection (finish_rejection ..) (fun set => absurd rfl set) ?_
    intro _ other fails
    cases fails with
    | header written =>
        rw [zero] at written
        cases written
    | active header => exact zero_header zero header
  · have bad : ¬ SpecHeaderOk page := fun header => broken (checkSpecHeader_ok.mpr header)
    refine .of_rejection (finish_rejection ..) (fun _ => ?_) (fun unset => ?_)
    · exact .header (Bool.eq_false_iff.mpr zero) bad
    · cases unset
  · exact rootSpecSelect_reason state mask (checkSpecHeader_ok.mp (not_not.mp broken))

/-! ### Retention -/

/-- A read whose markers moved keeps the policy; any other is its copy's page. -/
theorem rootSpecConsume_read (state : RootSpecState) (shared : Option SpecPageRead)
    (mask : UInt64) :
    (∃ page, rootSpecConsume state shared mask =
        rootSpecConsume state (some (.still page)) mask) ∨
      (rootSpecConsume state shared mask).2.outcome ≠ .applied ∧
        (rootSpecConsume state shared mask).1.retained = state.retained := by
  cases shared with
  | none => exact .inr (by simp [rootSpecConsume])
  | some read =>
      cases stable : snapshot read with
      | true =>
          refine .inl ⟨read.copied, ?_⟩
          rw [rootSpecConsume_still]
          simp only [rootSpecConsume, stable, Bool.not_true, Bool.false_eq_true, if_false]
      | false => exact .inr (by simp [rootSpecConsume, stable])

/-- The retained policy moves only by an application, to a later generation. -/
theorem rootSpecConsume_retained (state : RootSpecState) (shared : Option SpecPageRead)
    (mask : UInt64) :
    (rootSpecConsume state shared mask).2.outcome = .applied ∧
        state.retained.generation <
          (rootSpecConsume state shared mask).1.retained.generation ∨
      (rootSpecConsume state shared mask).2.outcome ≠ .applied ∧
        (rootSpecConsume state shared mask).1.retained = state.retained := by
  rcases rootSpecConsume_read state shared mask with ⟨page, read⟩ | kept
  · rw [read]
    cases rootSpecConsume_case state page mask with
    | applied bank selected later outcome retained =>
        exact .inl ⟨outcome, retained ▸ later⟩
    | unchanged bank selected equal outcome retained =>
        exact .inr ⟨by simp [outcome], retained⟩
    | nothing unselected outcome retained =>
        exact .inr ⟨by rcases outcome with outcome | outcome <;> simp [outcome], retained⟩
  · exact .inr kept

/-- A bank usable against a later policy is newer than an earlier one. -/
theorem BankUsable.earlier {page : Memory} {bank : Bank} {mask : UInt64}
    {earlier later : RootSpecPolicy} (usable : BankUsable page bank mask later)
    (order : earlier.generation < later.generation) : BankUsable page bank mask earlier := by
  refine ⟨usable.intact, usable.generation, usable.present, .inl ?_⟩
  rcases usable.admissible with newer | ⟨equal, _⟩
  · exact UInt64.lt_trans order newer
  · rw [equal]
    exact order

/-- The bank a page was applied from is the one it selects again. -/
theorem Selected.again {page : Memory} {mask : UInt64} {retained : RootSpecPolicy} {bank : Bank}
    (selected : Selected page mask retained bank)
    (later : retained.generation < (bankPolicy page bank.val).generation) :
    Selected page mask (bankPolicy page bank.val) bank := by
  have usable : BankUsable page bank mask (bankPolicy page bank.val) :=
    ⟨selected.usable.intact, selected.usable.generation, selected.usable.present,
      .inr ⟨rfl, fun _ => ⟨rfl, rfl⟩⟩⟩
  cases selected with
  | active header _ => exact .active header usable
  | other header unusable _ =>
      exact .other header (fun active => unusable (active.earlier later)) usable

/-- The same page twice in a row is applied at most once. -/
theorem rootSpecConsume_twice (state : RootSpecState) (page : Memory) (mask : UInt64) :
    (rootSpecConsume (rootSpecConsume state (some (.still page)) mask).1
      (some (.still page)) mask).2.outcome ≠ .applied := by
  intro again
  cases rootSpecConsume_case (rootSpecConsume state (some (.still page)) mask).1 page mask with
  | unchanged bank selected equal outcome => simp [outcome] at again
  | nothing unselected outcome => rcases outcome with outcome | outcome <;> simp [outcome] at again
  | applied bank selected later =>
      cases rootSpecConsume_case state page mask with
      | applied first firstSelected firstLater outcome retained =>
          rw [retained] at selected later
          have same := selected.unique (firstSelected.again firstLater)
          rw [same] at later
          exact absurd later (UInt64.lt_irrefl _)
      | unchanged first firstSelected equal outcome retained =>
          rw [retained] at selected later
          have same := selected.unique firstSelected
          rw [same, equal] at later
          exact absurd later (UInt64.lt_irrefl _)
      | nothing unselected outcome retained =>
          rw [retained] at selected
          exact unselected bank selected

/-! ### Recorded once -/

/-- Root's page consumption as a machine over the reads. -/
def specMachine (presentMask : UInt64) :
    Transducer RootSpecState (Option SpecPageRead) RootSpecResult where
  step := fun state shared =>
    let consumed := rootSpecConsume state shared presentMask
    (consumed.1, [consumed.2])

/-- The state remembers the rejection of the last result. -/
def Remembers (results : List RootSpecResult) (state : RootSpecState) : Prop :=
  ∀ rejection : RootSpecReject × UInt64 × UInt32, rejection.1 ≠ .unset →
    ((state.lastReason, state.lastGeneration, state.lastBank) = rejection ↔
      results.getLast?.map RootSpecResult.rejection = some rejection)

/-- What `finish` records and remembers. -/
structure FinishEffect (state : RootSpecState) (result : RootSpecState × RootSpecResult) :
    Prop where
  record : result.2.record = true ↔ result.2.reason ≠ .unset ∧
    (state.lastReason, state.lastGeneration, state.lastBank) ≠ result.2.rejection
  remembers : ∀ earlier, Remembers (earlier ++ [result.2]) result.1

theorem finish_effect (state : RootSpecState) (outcome : RootSpecOutcome)
    (reason : RootSpecReject) (generation : UInt64) (bank : UInt32) :
    FinishEffect state (finish state outcome reason generation bank) := by
  simp only [finish]
  split_ifs with unset
  · refine ⟨by simp [unset], fun earlier rejection set => ?_⟩
    constructor
    · intro same
      exact absurd (congrArg Prod.fst same).symm set
    · intro same
      simp only [List.getLast?_append, List.getLast?_singleton, Option.some_or, Option.map_some,
        RootSpecResult.rejection, Option.some.injEq] at same
      exact absurd (unset ▸ (congrArg Prod.fst same).symm) set
  · constructor
    · simp only [Bool.or_eq_true, bne_iff_ne, RootSpecResult.rejection, ne_eq, Prod.mk.injEq]
      grind
    · intro earlier rejection _
      simp [RootSpecResult.rejection]

theorem rootSpecSelect_effect (state : RootSpecState) (page : Memory) (mask : UInt64) :
    FinishEffect state (rootSpecSelect state page mask) :=
  ⟨(finish_effect ..).record, (finish_effect ..).remembers⟩

theorem rootSpecConsume_effect (state : RootSpecState) (shared : Option SpecPageRead)
    (mask : UInt64) : FinishEffect state (rootSpecConsume state shared mask) := by
  cases shared with
  | none => exact finish_effect ..
  | some page =>
      simp only [rootSpecConsume]
      split_ifs
      · exact finish_effect ..
      · exact finish_effect ..
      · exact finish_effect ..
      · exact rootSpecSelect_effect ..

theorem specMachine_remembers (mask : UInt64) (reads : List (Option SpecPageRead)) :
    Remembers ((specMachine mask).trace rootSpecInit reads)
      ((specMachine mask).after rootSpecInit reads) := by
  have initial : Remembers [] rootSpecInit := by
    intro rejection set
    constructor
    · intro same
      exact absurd (congrArg Prod.fst same).symm set
    · intro same
      simp at same
  have reached := (specMachine mask).trace_invariant Remembers
    (fun emitted state shared _ => (rootSpecConsume_effect state shared mask).remembers emitted)
    initial reads
  simpa using reached

/-- The rule one page is consumed by: the selected bank is applied when newer
and already retained when equal, nothing else moves the policy, a page that fails is
rejected for its first failing check, and a rejection is recorded when it differs from
the last result's. -/
structure ConsumeRule (page : Memory) (mask : UInt64) (state : RootSpecState)
    (last : Option (RootSpecReject × UInt64 × UInt32))
    (result : RootSpecState × RootSpecResult) : Prop where
  newer : ∀ bank, Selected page mask state.retained bank →
    state.retained.generation < (bankPolicy page bank.val).generation →
    result.2.outcome = .applied ∧ result.1.retained = bankPolicy page bank.val
  equal : ∀ bank, Selected page mask state.retained bank →
    (bankPolicy page bank.val).generation = state.retained.generation →
    result.2.outcome = .unchanged ∧ result.1.retained = state.retained
  nothing : (∀ bank, ¬ Selected page mask state.retained bank) →
    (result.2.outcome = .absent ∨ result.2.outcome = .kept) ∧
      result.1.retained = state.retained
  changed : result.1.retained ≠ state.retained → result.2.outcome = .applied
  later : result.2.outcome = .applied →
    state.retained.generation < result.1.retained.generation
  twice : (rootSpecConsume result.1 (some (.still page)) mask).2.outcome ≠ .applied
  reason : ∀ rejection, PageFails page mask state.retained rejection ↔
    result.2.reason ≠ .unset ∧ result.2.rejection = rejection
  recorded : result.2.record = true ↔
    result.2.reason ≠ .unset ∧ last ≠ some result.2.rejection

theorem ConsumeRule.of_remembers {state : RootSpecState} {results : List RootSpecResult}
    (page : Memory) (mask : UInt64) (remembers : Remembers results state) :
    ConsumeRule page mask state (results.getLast?.map RootSpecResult.rejection)
      (rootSpecConsume state (some (.still page)) mask) := by
  have decided := rootSpecConsume_case state page mask
  have moved := rootSpecConsume_retained state (some (.still page)) mask
  have effect := rootSpecConsume_effect state (some (.still page)) mask
  have twice := rootSpecConsume_twice state page mask
  have reason := rootSpecConsume_reason state page mask
  generalize rootSpecConsume state (some (.still page)) mask = result at *
  refine ⟨?_, ?_, ?_, ?_, ?_, twice, fun rejection => reason.iff, ?_⟩
  · intro bank selected later
    cases decided with
    | applied first firstSelected _ outcome retained =>
        rw [selected.unique firstSelected]
        exact ⟨outcome, retained⟩
    | unchanged first firstSelected equal =>
        rw [selected.unique firstSelected, equal] at later
        exact absurd later (UInt64.lt_irrefl _)
    | nothing unselected => exact absurd selected (unselected bank)
  · intro bank selected equal
    cases decided with
    | applied first firstSelected later =>
        rw [← selected.unique firstSelected, equal] at later
        exact absurd later (UInt64.lt_irrefl _)
    | unchanged first firstSelected _ outcome retained => exact ⟨outcome, retained⟩
    | nothing unselected => exact absurd selected (unselected bank)
  · intro unselected
    cases decided with
    | applied bank selected => exact absurd selected (unselected bank)
    | unchanged bank selected => exact absurd selected (unselected bank)
    | nothing _ outcome retained => exact ⟨outcome, retained⟩
  · intro changed
    rcases moved with ⟨applied, _⟩ | ⟨_, same⟩
    · exact applied
    · exact absurd same changed
  · intro applied
    rcases moved with ⟨_, later⟩ | ⟨idle, _⟩
    · exact later
    · exact absurd applied idle
  · rw [effect.record]
    constructor
    · intro ⟨set, changed⟩
      exact ⟨set, fun same => changed ((remembers _ set).mpr same)⟩
    · intro ⟨set, changed⟩
      exact ⟨set, fun same => changed ((remembers _ set).mp same)⟩

/-- Every page follows the rule after every sequence of reads. -/
theorem rootSpecConsume_rule (mask : UInt64) (reads : List (Option SpecPageRead))
    (page : Memory) :
    ConsumeRule page mask ((specMachine mask).after rootSpecInit reads)
      (((specMachine mask).trace rootSpecInit reads).getLast?.map RootSpecResult.rejection)
      (rootSpecConsume ((specMachine mask).after rootSpecInit reads) (some (.still page))
        mask) :=
  .of_remembers page mask (specMachine_remembers mask reads)

/-! ### A page with one sealed bank -/

section

local instance specBank_neZero : NeZero 2 := ⟨by decide⟩

/-- The fields of bank 0 in generation 1, all budgets and desired states zero. -/
def soleBank (count : Nat) : List (SpecField × Nat) :=
  [ (.header .magic, magicSpec), (.header .abiVersion, abiVersion), (.bank 0 .generation, 1),
    (.bank 0 .length, specBankSize), (.bank 0 .recordCount, count), (.bank 0 .bankSeq, 2) ]

def filledPage (count : Nat) : Memory := specLayout.assign (fun _ => 0) (soleBank count)

/-- The same page with its own CRC. -/
def sealedPage (count : Nat) : Memory :=
  specLayout.assign (filledPage count)
    [(.bank 0 .crc32, (bankCrc (filledPage count) specHeaderSize).toNat)]

end

theorem soleBank_agree (count : Nat) : Layout.Agree (soleBank count) := by
  simp [Layout.Agree, soleBank]

theorem sealedPage_read (count : Nat) {field : SpecField} (notCrc : field ≠ .bank 0 .crc32) :
    specLayout.read (sealedPage count) field = specLayout.read (filledPage count) field :=
  specLayout.read_assign_other _ _ (by simpa using notCrc.symm)

/-- A stored field of the page. -/
theorem sealedPage_stored (count : Nat) (field : SpecField) (value : Nat)
    (notCrc : field ≠ .bank 0 .crc32) (stored : (field, value) ∈ soleBank count) :
    specLayout.read (sealedPage count) field = value % 256 ^ specLayout.width field :=
  (sealedPage_read count notCrc).trans
    (specLayout.read_assign_of_mem _ (soleBank_agree count) stored)

/-- Every other field of the page is zero. -/
theorem sealedPage_zero (count : Nat) (field : SpecField) (notCrc : field ≠ .bank 0 .crc32)
    (unstored : ∀ assignment ∈ soleBank count, assignment.1 ≠ field) :
    specLayout.read (sealedPage count) field = 0 := by
  rw [sealedPage_read count notCrc, filledPage, specLayout.read_assign_other _ _ unstored]
  exact Memory.load_eq_zero_of_allZero (Memory.allZero_iff.mpr fun _ _ _ => rfl)

theorem sealedPage_zeros (recordCount : Nat) {address count : Nat}
    (between : 16 ≤ address ∧ address + count ≤ 64 ∨ 98 ≤ address) :
    (sealedPage recordCount).allZero address count = true := by
  rw [Memory.allZero_iff]
  intro position lower upper
  rw [sealedPage, specLayout.assign_other, filledPage, specLayout.assign_other]
  all_goals
    simp only [soleBank, List.forall_mem_cons, List.not_mem_nil, false_imp_iff, implies_true,
      and_true, specLayout, SpecField.address, SpecField.width, SpecHeaderField.offset,
      SpecHeaderField.width, SpecBankField.offset, SpecBankField.width, specHeaderSize,
      Fin.val_zero, Nat.zero_mul]
    omega

/-- The CRC the page stores is its own. -/
theorem sealedPage_crc (count : Nat) :
    (bankCrc (sealedPage count) specHeaderSize).toNat =
      specLayout.read (sealedPage count) (.bank 0 .crc32) :=
  bankCrc_stored (filledPage count) 0

theorem sealedPage_header (count : Nat) : SpecHeaderOk (sealedPage count) where
  magic := sealedPage_stored count _ magicSpec (by decide) (by simp [soleBank])
  version := sealedPage_stored count _ abiVersion (by decide) (by simp [soleBank])
  reserved := sealedPage_zeros count (by decide)
  active := (sealedPage_zero count _ (by decide) (by simp [soleBank])).le.trans (Nat.zero_le 1)

theorem sealedPage_active (count : Nat) : activeBank (sealedPage count) = 0 :=
  Fin.ext (congrArg (· % 2)
    (sealedPage_zero count (.header .activeBank) (by decide) (by simp [soleBank])))

theorem sealedPage_generation (count : Nat) : (bankPolicy (sealedPage count) 0).generation = 1 :=
  congrArg UInt64.ofNat
    (sealedPage_stored count (.bank 0 .generation) 1 (by decide) (by simp [soleBank]))

theorem sealedPage_present (count : Nat) (mask : UInt64) :
    DeclaresPresent (bankPolicy (sealedPage count) 0) mask := by
  intro child _
  have budget :=
    sealedPage_zero count (.bank 0 (.budget child)) (by simp) (by simp [soleBank])
  have desired :=
    sealedPage_zero count (.bank 0 (.desired child)) (by simp) (by simp [soleBank])
  exact ⟨congrArg UInt32.ofNat budget, congrArg UInt8.ofNat desired⟩

/-- With the layout's record count, bank 0 is intact. -/
theorem sealedPage_intact : SpecBankSealed (sealedPage childCount) 0 where
  published := by
    rw [sealedPage_stored _ _ 2 (by decide) (by simp [soleBank])]
    decide
  even := by
    rw [sealedPage_stored _ _ 2 (by decide) (by simp [soleBank])]
    decide
  checksum := sealedPage_crc childCount
  tail := sealedPage_zeros childCount (by decide)
  length := sealedPage_stored _ _ specBankSize (by decide) (by simp [soleBank])
  recordCount := sealedPage_stored _ _ childCount (by decide) (by simp [soleBank])

/-- That page is applied over the compiled policy. -/
theorem sealedPage_applied (mask : UInt64) :
    (rootSpecConsume rootSpecInit (some (.still (sealedPage childCount))) mask).2.outcome =
        .applied ∧
      (rootSpecConsume rootSpecInit (some (.still (sealedPage childCount)))
        mask).1.retained.generation
        = 1 := by
  have generation := sealedPage_generation childCount
  have later : rootSpecInit.retained.generation <
      (bankPolicy (sealedPage childCount) (0 : Bank).val).generation :=
    generation.symm ▸ (by decide : (0 : UInt64) < 1)
  have usable : BankUsable (sealedPage childCount) 0 mask rootSpecInit.retained :=
    ⟨sealedPage_intact, generation.symm ▸ by decide, sealedPage_present childCount mask, .inl later⟩
  have selected : Selected (sealedPage childCount) mask rootSpecInit.retained 0 := by
    have active := sealedPage_active childCount
    have chosen := Selected.active (sealedPage_header childCount) (active.symm ▸ usable)
    rw [active] at chosen
    exact chosen
  have remembers : Remembers [] rootSpecInit := specMachine_remembers mask []
  have rule := ConsumeRule.of_remembers (sealedPage childCount) mask remembers
  obtain ⟨outcome, retained⟩ := rule.newer 0 selected later
  refine ⟨outcome, ?_⟩
  rw [retained]
  exact generation

/-- Everything but the record count is right, and the page is not applied. -/
theorem uncountedPage_rejected :
    SpecHeaderOk (sealedPage 0) ∧
      activeBank (sealedPage 0) = 0 ∧
      specLayout.read (sealedPage 0) (.bank 0 .bankSeq) = 2 ∧
      specLayout.read (sealedPage 0) (.bank 0 .length) = specBankSize ∧
      (sealedPage 0).allZero (specHeaderSize + 334) 1682 = true ∧
      (bankCrc (sealedPage 0) specHeaderSize).toNat =
        specLayout.read (sealedPage 0) (.bank 0 .crc32) ∧
      (bankPolicy (sealedPage 0) 0).generation = 1 ∧
      DeclaresPresent (bankPolicy (sealedPage 0) 0) 0x2f ∧
      rootSpecInit.retained.generation = 0 ∧
      (rootSpecConsume rootSpecInit (some (.still (sealedPage 0))) 0x2f).2.outcome ≠
        .applied := by
  refine ⟨sealedPage_header 0, sealedPage_active 0,
    sealedPage_stored 0 _ 2 (by decide) (by simp [soleBank]),
    sealedPage_stored 0 _ specBankSize (by decide) (by simp [soleBank]),
    sealedPage_zeros 0 (by decide), sealedPage_crc 0, sealedPage_generation 0,
    sealedPage_present 0 _, rfl, ?_⟩
  intro applied
  cases rootSpecConsume_case rootSpecInit (sealedPage 0) 0x2f with
  | unchanged bank selected equal outcome => simp [outcome] at applied
  | nothing unselected outcome =>
      rcases outcome with outcome | outcome <;> simp [outcome] at applied
  | applied bank selected =>
      cases selected with
      | active _ usable =>
          rw [sealedPage_active] at usable
          have stored := sealedPage_stored 0 (.bank 0 .recordCount) 0 (by decide)
            (by simp [soleBank])
          have count := stored.symm.trans usable.intact.recordCount
          exact absurd count (by decide)
      | other _ _ usable =>
          rw [sealedPage_active] at usable
          have published := usable.intact.published
          exact published (sealedPage_zero 0 _ (by decide) (by simp [soleBank]; decide))

end Chrysopolis.Root
