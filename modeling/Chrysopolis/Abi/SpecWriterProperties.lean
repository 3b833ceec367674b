import Chrysopolis.Abi.SpecWriter

/-! What the writer's steps do to a page. A step stores to its own bank or to the
header's selector, and the four steps up to close leave a sealed bank that says
exactly what the commit says. -/

set_option autoImplicit false

namespace Chrysopolis.Abi

open Chrysopolis.Support

/-! ### Frames -/

/-- The pages have the same bytes in a bank. -/
def SameBank (left right : Memory) (bank : Bank) : Prop :=
  ∀ position, bankAddress bank ≤ position → position < bankAddress bank + specBankSize →
    left position = right position

def SameHeader (left right : Memory) : Prop :=
  ∀ position, position < specHeaderSize → left position = right position

theorem SameBank.read {left right : Memory} {bank : Bank} (same : SameBank left right bank)
    (field : SpecBankField) :
    specLayout.read left (.bank bank field) = specLayout.read right (.bank bank field) := by
  apply Memory.load_congr
  intro position lower upper
  have inBank := SpecField.bank_end field
  have address : specLayout.address (.bank bank field) = bankAddress bank + field.offset := rfl
  have width : specLayout.width (.bank bank field) = field.width := rfl
  rw [address] at lower upper
  rw [width] at upper
  exact same position (by omega) (by omega)

theorem SameBank.sealed {left right : Memory} {bank : Bank} (same : SameBank left right bank)
    (intact : SpecBankSealed left bank) : SpecBankSealed right bank := by
  have crc : bankCrc left (bankAddress bank) = bankCrc right (bankAddress bank) :=
    bankCrc_congr fun position lower upper _ _ => same position lower upper
  refine ⟨?_, ?_, ?_, ?_, ?_, ?_⟩
  · rw [← same.read]
    exact intact.published
  · rw [← same.read]
    exact intact.even
  · rw [← same.read]
    exact crc ▸ intact.checksum
  · rw [← intact.tail]
    refine (Memory.allZero_congr fun position lower upper => ?_).symm
    have base : bankAddress bank = specHeaderSize + bank.val * specBankSize := rfl
    have size : specBankSize = 2016 := rfl
    exact same position (by omega) (by omega)
  · rw [← same.read]
    exact intact.length
  · rw [← same.read]
    exact intact.recordCount

theorem SameHeader.ok {left right : Memory} (same : SameHeader left right)
    (header : SpecHeaderOk left) : SpecHeaderOk right := by
  have word : ∀ address count, address + count ≤ specHeaderSize →
      left.load address count = right.load address count := fun address count within =>
    Memory.load_congr fun position _ upper => same position (by omega)
  refine ⟨(word 0 8 (by decide)).symm.trans header.magic,
    (word 8 4 (by decide)).symm.trans header.version, ?_,
    Nat.le_trans (Nat.le_of_eq (word 12 4 (by decide)).symm) header.active⟩
  rw [← header.reserved]
  exact (Memory.allZero_congr fun position _ upper => same position upper).symm

/-- Stores outside a bank leave it alone. -/
theorem assign_sameBank (page : Memory) {stores : List (SpecField × Nat)} {bank : Bank}
    (outside : ∀ assignment ∈ stores, ∀ field, assignment.1 ≠ .bank bank field) :
    SameBank (specLayout.assign page stores) page bank := by
  intro position lower upper
  apply specLayout.assign_other
  intro assignment member
  have base : bankAddress bank = specHeaderSize + bank.val * specBankSize := rfl
  have size : specBankSize = 2016 := rfl
  have head : specHeaderSize = 64 := rfl
  cases target : assignment.1 with
  | header field =>
      have address : specLayout.address (.header field) = field.offset := rfl
      have width : specLayout.width (.header field) = field.width := rfl
      have short : field.offset + field.width ≤ 16 := by cases field <;> decide
      rw [address, width]
      omega
  | bank other field =>
      have address : specLayout.address (.bank other field) =
        specHeaderSize + other.val * specBankSize + field.offset := rfl
      have width : specLayout.width (.bank other field) = field.width := rfl
      have inBank := SpecField.bank_end field
      have different : other.val ≠ bank.val := fun same =>
        outside assignment member field (target.trans (by rw [Fin.ext same]))
      have := other.isLt
      have := bank.isLt
      rw [address, width]
      rw [size] at base upper inBank ⊢
      omega

/-- Stores to a bank leave the header alone. -/
theorem assign_sameHeader (page : Memory) {stores : List (SpecField × Nat)}
    (outside : ∀ assignment ∈ stores, ∀ field, assignment.1 ≠ .header field) :
    SameHeader (specLayout.assign page stores) page := by
  intro position upper
  apply specLayout.assign_other
  intro assignment member
  cases target : assignment.1 with
  | header field => exact absurd target (outside assignment member field)
  | bank other field =>
      have address : specLayout.address (.bank other field) =
        specHeaderSize + other.val * specBankSize + field.offset := rfl
      rw [address]
      omega

theorem sameBank_symm {left right : Memory} {bank : Bank} (same : SameBank left right bank) :
    SameBank right left bank :=
  fun position lower upper => (same position lower upper).symm

/-- Every store goes to the bank. -/
def InBank (bank : Bank) (stores : List (SpecField × Nat)) : Prop :=
  ∀ assignment ∈ stores, ∃ field, assignment.1 = .bank bank field

theorem InBank.header {bank : Bank} {stores : List (SpecField × Nat)} (inBank : InBank bank stores)
    (page : Memory) : SameHeader (specLayout.assign page stores) page := by
  refine assign_sameHeader page fun assignment member field same => ?_
  obtain ⟨stored, target⟩ := inBank assignment member
  exact SpecField.noConfusion (target.symm.trans same)

theorem InBank.other {bank : Bank} {stores : List (SpecField × Nat)} (inBank : InBank bank stores)
    (page : Memory) {other : Bank} (apart : other ≠ bank) :
    SameBank (specLayout.assign page stores) page other := by
  refine assign_sameBank page fun assignment member field same => ?_
  obtain ⟨stored, target⟩ := inBank assignment member
  cases target.symm.trans same
  exact apart rfl

/-! ### The bank being written -/

/-- The bank says what the commit says. -/
structure BankWritten (page : Memory) (bank : Bank) (commit : Commit) : Prop where
  generation : specLayout.read page (.bank bank .generation) = commit.generation.toNat
  length : specLayout.read page (.bank bank .length) = specBankSize
  recordCount : specLayout.read page (.bank bank .recordCount) = childCount
  budget : ∀ child, specLayout.read page (.bank bank (.budget child)) =
    (commit.budget child).toNat
  desired : ∀ child, specLayout.read page (.bank bank (.desired child)) =
    (commit.desired child).toNat
  tail : specLayout.read page (.bank bank .reservedTail) = 0

theorem BankWritten.congr {left right : Memory} {bank : Bank} {commit : Commit}
    (written : BankWritten left bank commit)
    (same : ∀ field, field ≠ .crc32 → field ≠ .bankSeq →
      specLayout.read right (.bank bank field) = specLayout.read left (.bank bank field)) :
    BankWritten right bank commit where
  generation := (same _ (by decide) (by decide)).trans written.generation
  length := (same _ (by decide) (by decide)).trans written.length
  recordCount := (same _ (by decide) (by decide)).trans written.recordCount
  budget child := (same _ (fun eq => by cases eq) fun eq => by cases eq).trans
    (written.budget child)
  desired child := (same _ (fun eq => by cases eq) fun eq => by cases eq).trans
    (written.desired child)
  tail := (same _ (by decide) (by decide)).trans written.tail

/-- Storing the CRC or the sequence keeps the payload. -/
theorem BankWritten.store {page : Memory} {bank : Bank} {commit : Commit}
    (written : BankWritten page bank commit) {field : SpecBankField} (value : Nat)
    (word : field = .crc32 ∨ field = .bankSeq) :
    BankWritten (specLayout.assign page [(.bank bank field, value)]) bank commit := by
  refine written.congr fun other notCrc notSeq => specLayout.read_assign_other _ _ ?_
  intro assignment member
  obtain rfl := List.mem_singleton.mp member
  rintro ⟨⟩
  exact word.elim notCrc notSeq

/-- What the payload stores in each field. -/
def payloadTable (commit : Commit) : SpecField → Nat
  | .bank _ .generation => commit.generation.toNat
  | .bank _ .length => specBankSize
  | .bank _ .recordCount => childCount
  | .bank _ (.budget child) => (commit.budget child).toNat
  | .bank _ (.desired child) => (commit.desired child).toNat
  | _ => 0

theorem writePayload_values (writer : SpecWriter) :
    Layout.Values (payloadTable writer.commit) (writePayload writer) := by
  intro assignment member
  simp only [writePayload, List.mem_append, List.mem_cons, List.not_mem_nil, or_false,
    List.mem_flatMap] at member
  rcases member with ((rfl | rfl | rfl) | ⟨child, _, rfl | rfl⟩) | rfl <;> rfl

theorem writePayload_inBank (writer : SpecWriter) : InBank writer.bank (writePayload writer) := by
  intro assignment member
  simp only [writePayload, List.mem_append, List.mem_cons, List.not_mem_nil, or_false,
    List.mem_flatMap] at member
  rcases member with ((rfl | rfl | rfl) | ⟨child, _, rfl | rfl⟩) | rfl <;> exact ⟨_, rfl⟩

theorem single_inBank (bank : Bank) (field : SpecBankField) (value : Nat) :
    InBank bank [(.bank bank field, value)] := by
  intro assignment member
  obtain rfl := List.mem_singleton.mp member
  exact ⟨field, rfl⟩

theorem writePayload_written (writer : SpecWriter) (page : Memory) :
    BankWritten (specLayout.assign page (writePayload writer)) writer.bank writer.commit := by
  have read : ∀ field, (∃ value, (SpecField.bank writer.bank field, value) ∈ writePayload writer) →
      specLayout.read (specLayout.assign page (writePayload writer)) (.bank writer.bank field) =
        payloadTable writer.commit (.bank writer.bank field) %
          256 ^ specLayout.width (.bank writer.bank field) := fun field stored =>
    specLayout.read_assign_value page (writePayload_values writer) stored
  have row : ∀ (child : ChildIndex) (assignment : SpecField × Nat),
      assignment ∈ [(SpecField.bank writer.bank (.budget child),
          (writer.commit.budget child).toNat),
        (.bank writer.bank (.desired child), (writer.commit.desired child).toNat)] →
      assignment ∈ writePayload writer := fun child assignment member =>
    List.mem_append_left _ (List.mem_append_right _
      (List.mem_flatMap.mpr ⟨child, List.mem_finRange child, member⟩))
  refine ⟨?_, ?_, ?_, fun child => ?_, fun child => ?_, ?_⟩
  · rw [read _ ⟨_, by simp [writePayload]; rfl⟩]
    exact Nat.mod_eq_of_lt writer.commit.generation.toNat_lt
  · rw [read _ ⟨specBankSize, by simp [writePayload]⟩]
    rfl
  · rw [read _ ⟨childCount, by simp [writePayload]⟩]
    rfl
  · rw [read _ ⟨_, row child _ (by simp; rfl)⟩]
    exact Nat.mod_eq_of_lt (writer.commit.budget child).toNat_lt
  · rw [read _ ⟨_, row child _ (by simp; rfl)⟩]
    exact Nat.mod_eq_of_lt (writer.commit.desired child).toNat_lt
  · rw [read _ ⟨0, by simp [writePayload]⟩]
    exact Nat.zero_mod _

/-- A bank Root can take the commit from. -/
structure BankHolds (page : Memory) (bank : Bank) (commit : Commit) : Prop where
  written : BankWritten page bank commit
  intact : SpecBankSealed page bank

theorem BankHolds.congr {left right : Memory} {bank : Bank} {commit : Commit}
    (holds : BankHolds left bank commit) (same : SameBank left right bank) :
    BankHolds right bank commit :=
  ⟨holds.written.congr fun field _ _ => (same.read field).symm, same.sealed holds.intact⟩

/-- Closing a written bank with its CRC publishes it. -/
theorem close_holds {page : Memory} {bank : Bank} {commit : Commit} {seq : UInt32}
    (written : BankWritten page bank commit)
    (checksum : (bankCrc page (bankAddress bank)).toNat = specLayout.read page (.bank bank .crc32))
    (positive : seq.toNat ≠ 0) (even : seq.toNat % 2 = 0) :
    BankHolds (specLayout.assign page [(.bank bank .bankSeq, seq.toNat)]) bank commit := by
  have next := written.store seq.toNat (.inr rfl)
  have agree : Layout.Agree [(SpecField.bank bank .bankSeq, seq.toNat)] := by
    simp [Layout.Agree]
  have stored : specLayout.read (specLayout.assign page [(.bank bank .bankSeq, seq.toNat)])
      (.bank bank .bankSeq) = seq.toNat :=
    (specLayout.read_assign_of_mem page agree (List.mem_singleton.mpr rfl)).trans
      (Nat.mod_eq_of_lt seq.toNat_lt)
  refine ⟨next, ?_, ?_, ?_, Memory.allZero_of_load_eq_zero next.tail, next.length,
    next.recordCount⟩
  · rw [stored]
    exact positive
  · rw [stored]
    exact even
  · rw [bankCrc_seq, specLayout.read_assign_other _ _ (by simp)]
    exact checksum

/-! ### Begin -/

/-- One case per way begin can end. -/
inductive BeginCase (writer : SpecWriter) (page : Memory) (commit : Commit)
    (result : SpecWriter × Option Memory × SpecWriteResult) : Prop where
  | refused (writer : result.1 = writer) (page : result.2.1 = some page)
      (failed : result.2.2 ≠ .ok)
  | fresh (openSeq : UInt32) (odd : openSeq.toNat % 2 = 1) (room : openSeq.toNat + 1 < 2 ^ 32)
      (zero : page.allZero 0 specHeaderSize = true)
      (writer : result.1 =
        { page := true, phase := .idle, bank := targetBank 0, openSeq, commit })
      (page : result.2.1 = some (specLayout.assign page freshHeader)) (ok : result.2.2 = .ok)
  | next (openSeq : UInt32) (odd : openSeq.toNat % 2 = 1) (room : openSeq.toNat + 1 < 2 ^ 32)
      (header : SpecHeaderOk page)
      (writer : result.1 =
        { page := true
          phase := .idle
          bank := targetBank (specLayout.read page (.header .activeBank))
          openSeq
          commit })
      (page : result.2.1 = some page) (ok : result.2.2 = .ok)

/-- The sequence open stores, when its pair fits. -/
theorem openSeq_odd {seq : Nat} (fits : ¬ (nextOdd seq ≥ 2 ^ 32 ∨ nextOdd seq + 1 ≥ 2 ^ 32)) :
    (UInt32.ofNat (nextOdd seq)).toNat % 2 = 1 ∧
      (UInt32.ofNat (nextOdd seq)).toNat + 1 < 2 ^ 32 := by
  have same : (UInt32.ofNat (nextOdd seq)).toNat = nextOdd seq :=
    UInt32.toNat_ofNat_of_lt' (by rw [UInt32.size]; omega)
  have odd : nextOdd seq % 2 = 1 := by
    simp only [nextOdd]
    split_ifs <;> omega
  rw [same]
  exact ⟨odd, by omega⟩

theorem specWriterBegin_case (writer : SpecWriter) (page : Memory) (commit : Commit) :
    BeginCase writer page commit (specWriterBegin writer (some page) commit) := by
  simp only [specWriterBegin]
  split_ifs with busy bad zero full full
  · exact .refused rfl rfl (by simp)
  · exact .refused rfl rfl (by simp)
  · exact .refused rfl rfl (by simp)
  · obtain ⟨odd, room⟩ := openSeq_odd full
    exact .fresh _ odd room zero rfl rfl rfl
  · exact .refused rfl rfl (by simp)
  · obtain ⟨odd, room⟩ := openSeq_odd full
    refine .next _ odd room (checkSpecHeader_ok.mp ?_) rfl rfl rfl
    by_contra rejected
    exact bad ⟨by simp [zero], rejected⟩

/-- The header once it selects a bank. -/
theorem flip_header {page : Memory} (header : SpecHeaderOk page) (bank : Bank) :
    SpecHeaderOk (specLayout.assign page [(.header .activeBank, bank.val)]) ∧
      specLayout.read (specLayout.assign page [(.header .activeBank, bank.val)])
        (.header .activeBank) = bank.val := by
  have agree : Layout.Agree [(SpecField.header .activeBank, bank.val)] := by simp [Layout.Agree]
  have selector : specLayout.read (specLayout.assign page [(.header .activeBank, bank.val)])
      (.header .activeBank) = bank.val :=
    (specLayout.read_assign_of_mem page agree (List.mem_singleton.mpr rfl)).trans
      (Nat.mod_eq_of_lt (Nat.lt_trans bank.isLt (by decide)))
  have below := bank.isLt
  refine ⟨⟨(specLayout.read_assign_other _ _ (by simp)).trans header.magic,
    (specLayout.read_assign_other _ _ (by simp)).trans header.version, ?_, ?_⟩, selector⟩
  · rw [← header.reserved]
    refine Memory.allZero_congr fun position lower _ => specLayout.assign_other _ _ _ ?_
    intro assignment member
    obtain rfl := List.mem_singleton.mp member
    exact .inr lower
  · rw [selector]
    omega

/-- The header begin makes. -/
theorem freshHeader_ok {page : Memory} (zero : page.allZero 0 specHeaderSize = true) :
    SpecHeaderOk (specLayout.assign page freshHeader) ∧
      specLayout.read (specLayout.assign page freshHeader) (.header .activeBank) = 0 := by
  have agree : Layout.Agree freshHeader := by simp [Layout.Agree, freshHeader]
  have stored : ∀ field value, (SpecField.header field, value) ∈ freshHeader →
      specLayout.read (specLayout.assign page freshHeader) (.header field) =
        value % 256 ^ field.width := fun _ _ member =>
    specLayout.read_assign_of_mem page agree member
  have active := stored .activeBank 0 (by simp [freshHeader])
  refine ⟨⟨stored .magic magicSpec (by simp [freshHeader]),
    stored .abiVersion abiVersion (by simp [freshHeader]), ?_,
    Nat.le_trans (Nat.le_of_eq active) (Nat.zero_le 1)⟩, active⟩
  rw [Memory.allZero_iff]
  intro position lower upper
  have untouched : specLayout.assign page freshHeader position = page position := by
    apply specLayout.assign_other
    intro assignment member
    simp only [freshHeader, List.mem_cons, List.not_mem_nil, or_false] at member
    rcases member with rfl | rfl | rfl <;>
      simp only [specLayout, SpecField.address, SpecField.width, SpecHeaderField.offset,
        SpecHeaderField.width] <;> omega
  rw [untouched]
  exact Memory.allZero_iff.mp zero position (Nat.zero_le _) (by simp only [specHeaderSize]; omega)

end Chrysopolis.Abi
