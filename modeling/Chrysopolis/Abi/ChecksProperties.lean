import Chrysopolis.Abi.Checks

/-! What the spec page checks accept, field by field, and which bytes a bank's
CRC covers. -/

set_option autoImplicit false

namespace Chrysopolis.Abi

open Chrysopolis.Support

/-- A verdict is ok exactly when every rule holds. -/
theorem firstReject_ok {bytes : Memory} {selected : Nat} {rules : List Rule}
    (classes : ∀ rule ∈ rules, rule.reject ≠ .ok) :
    firstReject bytes selected rules = .ok ↔
      ∀ rule ∈ rules, rule.holds bytes selected = true := by
  induction rules with
  | nil => simp [firstReject]
  | cons rule rules ih =>
      have rest := ih fun later member => classes later (.tail _ member)
      have head := classes rule (.head _)
      simp only [firstReject, List.forall_mem_cons]
      split_ifs with holds
      · rw [rest]
        exact ⟨fun later => ⟨holds, later⟩, fun both => both.2⟩
      · exact ⟨fun rejected => absurd rejected head, fun both => absurd both.1 holds⟩

/-- The bytes a spec header check accepts. -/
structure SpecHeaderOk (page : Memory) : Prop where
  magic : specLayout.read page (.header .magic) = magicSpec
  version : specLayout.read page (.header .abiVersion) = abiVersion
  reserved : page.allZero 16 48 = true
  active : specLayout.read page (.header .activeBank) ≤ 1

/-- A zero header is not a valid one. -/
theorem zero_header {page : Memory} (zero : page.allZero 0 specHeaderSize = true) :
    ¬ SpecHeaderOk page := by
  intro header
  have empty : specLayout.read page (.header .magic) = 0 :=
    Memory.load_eq_zero_of_allZero (Memory.allZero_iff.mpr fun position lower upper =>
      Memory.allZero_iff.mp zero position lower (Nat.lt_of_lt_of_le upper (by decide)))
  exact absurd (header.magic.symm.trans empty) (by decide)

theorem checkSpecHeader_ok {page : Memory} :
    checkSpecHeader page specPageSize = .ok ↔ SpecHeaderOk page := by
  simp only [checkSpecHeader, Checker.verdict, ne_eq, not_true_eq_false, if_false]
  rw [firstReject_ok (by decide)]
  simp only [SpecPage.headerRules, List.forall_mem_cons, List.not_mem_nil, false_imp_iff,
    implies_true, and_true, Rule.holds, Check.holds, beq_iff_eq, decide_eq_true_eq,
    SpecPage.header, Nat.zero_add]
  constructor
  · intro ⟨magic, version, reserved, active⟩
    exact ⟨magic, version, reserved, active⟩
  · intro ⟨magic, version, reserved, active⟩
    exact ⟨magic, version, reserved, active⟩

/-- The CRC a bank's bytes have with the stored CRC and the sequence read as zero. -/
def bankCrc (page : Memory) (base : Nat) : UInt32 :=
  crcOf page base ⟨0, specBankSize⟩ (SpecPage.bank .crc32) [⟨20, 4⟩]

/-- The bytes a spec bank check accepts: a published sequence, the bank's own
CRC, a zero tail, and the layout's length and record count. -/
structure SpecBankSealed (page : Memory) (bank : Bank) : Prop where
  published : specLayout.read page (.bank bank .bankSeq) ≠ 0
  even : specLayout.read page (.bank bank .bankSeq) % 2 = 0
  checksum : (bankCrc page (specHeaderSize + bank.val * specBankSize)).toNat =
    specLayout.read page (.bank bank .crc32)
  tail : page.allZero (specHeaderSize + bank.val * specBankSize + 334) 1682 = true
  length : specLayout.read page (.bank bank .length) = specBankSize
  recordCount : specLayout.read page (.bank bank .recordCount) = childCount

theorem checkSpecBank_ok {page : Memory} {bank : Bank} :
    checkSpecBank page specPageSize bank.val = .ok ↔ SpecBankSealed page bank := by
  have known : ¬ bank.val ≥ SpecPage.banks.count := Nat.not_le.mpr bank.isLt
  simp only [checkSpecBank, Checker.verdict, ne_eq, not_true_eq_false, if_false, if_neg known]
  rw [firstReject_ok (by decide)]
  simp only [SpecPage.bankRules, List.forall_mem_cons, List.not_mem_nil, false_imp_iff,
    implies_true, and_true, Rule.holds, Check.holds, Bool.and_eq_true, bne_iff_ne, beq_iff_eq]
  constructor
  · intro ⟨⟨published, even⟩, checksum, tail, length, recordCount⟩
    exact ⟨published, even, checksum, tail, length, recordCount⟩
  · intro ⟨published, even, checksum, tail, length, recordCount⟩
    exact ⟨⟨published, even⟩, checksum, tail, length, recordCount⟩

/-- The CRC of a bank as three reads around the two words read as zero. -/
theorem bankCrc_eq (page : Memory) (base : Nat) :
    bankCrc page base =
      crc32Final (crc32Update (crc32Zeros (crc32Update (crc32Zeros
        (crc32Update 0xFFFFFFFF page base 12) 4) page (base + 16) 4) 4)
          page (base + 24) 1992) := rfl

/-- The CRC of a bank reads neither the stored CRC nor the sequence. -/
theorem bankCrc_congr {left right : Memory} {base : Nat}
    (same : ∀ position, base ≤ position → position < base + specBankSize →
      ¬ (base + 12 ≤ position ∧ position < base + 16) →
      ¬ (base + 20 ≤ position ∧ position < base + 24) → left position = right position) :
    bankCrc left base = bankCrc right base := by
  -- The three spans the CRC reads avoid both words.
  have span : ∀ address count crc, base ≤ address →
      address + count ≤ base + specBankSize →
      (∀ position, address ≤ position → position < address + count →
        ¬ (base + 12 ≤ position ∧ position < base + 16) ∧
          ¬ (base + 20 ≤ position ∧ position < base + 24)) →
      crc32Update crc left address count = crc32Update crc right address count := by
    intro address count crc start stop outside
    apply crc32Update_congr
    intro position lower upper
    obtain ⟨crcWord, seqWord⟩ := outside position lower upper
    exact same position (by omega) (by omega) crcWord seqWord
  rw [bankCrc_eq, bankCrc_eq,
    span base 12 _ (by omega) (by simp only [specBankSize]; omega) (by omega),
    span (base + 16) 4 _ (by omega) (by simp only [specBankSize]; omega) (by omega),
    span (base + 24) 1992 _ (by omega) (by simp only [specBankSize]; omega) (by omega)]

/-- A bank that stores its own CRC has that CRC. -/
theorem bankCrc_stored (page : Memory) (bank : Bank) :
    let base := specHeaderSize + bank.val * specBankSize
    let stored := specLayout.assign page [(.bank bank .crc32, (bankCrc page base).toNat)]
    (bankCrc stored base).toNat = specLayout.read stored (.bank bank .crc32) := by
  intro base stored
  have agree : Layout.Agree [(SpecField.bank bank .crc32, (bankCrc page base).toNat)] := by
    simp [Layout.Agree]
  have small : (bankCrc page base).toNat < 256 ^ specLayout.width (.bank bank .crc32) :=
    (bankCrc page base).toNat_lt
  have read := specLayout.read_assign_of_mem page agree (List.mem_singleton.mpr rfl)
  rw [Nat.mod_eq_of_lt small] at read
  refine Eq.trans ?_ read.symm
  refine congrArg UInt32.toNat (bankCrc_congr fun position lower upper crcWord _ => ?_)
  apply specLayout.assign_other
  intro assignment member
  obtain rfl := List.mem_singleton.mp member
  have address : specLayout.address (.bank bank .crc32) = base + 12 := rfl
  have width : specLayout.width (.bank bank .crc32) = 4 := rfl
  simp only [address, width]
  omega

/-- The sequence of a bank is not under its CRC. -/
theorem bankCrc_seq (page : Memory) (bank : Bank) (value : Nat) :
    let base := specHeaderSize + bank.val * specBankSize
    bankCrc (specLayout.assign page [(.bank bank .bankSeq, value)]) base = bankCrc page base := by
  intro base
  refine bankCrc_congr fun position lower upper _ seqWord => ?_
  apply specLayout.assign_other
  intro assignment member
  obtain rfl := List.mem_singleton.mp member
  have address : specLayout.address (.bank bank .bankSeq) = base + 20 := rfl
  have width : specLayout.width (.bank bank .bankSeq) = 4 := rfl
  simp only [address, width]
  omega

end Chrysopolis.Abi
