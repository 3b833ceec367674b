import Mathlib.Data.Nat.Digits.Lemmas

/-! Numbers as ASCII text, in decimal without leading zeros and in fixed-width
hexadecimal. Reading inverts writing, and only written text reads. -/

set_option autoImplicit false

namespace Chrysopolis.Support.Decimal

/-- The ASCII digit of a number below ten. -/
def digit (value : Nat) : UInt8 := UInt8.ofNat (0x30 + value)

def isDigit (c : UInt8) : Bool := 0x30 ≤ c && c ≤ 0x39

/-- The decimal text of a number. -/
def write (n : Nat) : List UInt8 :=
  if n = 0 then [0x30] else (Nat.digits 10 n).reverse.map digit

/-- The number a decimal text spells. -/
def read (text : List UInt8) : Nat :=
  text.foldl (fun value c => value * 10 + (c.toNat - 0x30)) 0

theorem toNat_digit {value : Nat} (bound : value < 10) :
    (digit value).toNat = 0x30 + value := by
  simp only [digit, UInt8.toNat_ofNat']
  omega

theorem isDigit_iff {c : UInt8} : isDigit c = true ↔ 0x30 ≤ c.toNat ∧ c.toNat ≤ 0x39 := by
  simp [isDigit, UInt8.le_iff_toNat_le]

theorem isDigit_digit {value : Nat} (bound : value < 10) : isDigit (digit value) = true := by
  rw [isDigit_iff, toNat_digit bound]
  omega

theorem write_zero : write 0 = [0x30] := rfl

theorem write_of_ne {n : Nat} (nonzero : n ≠ 0) :
    write n = (Nat.digits 10 n).reverse.map digit := if_neg nonzero

theorem isDigit_of_mem_write {n : Nat} {c : UInt8} (member : c ∈ write n) :
    isDigit c = true := by
  by_cases zero : n = 0
  · subst zero
    rw [write_zero, List.mem_singleton] at member
    subst member
    decide
  · rw [write_of_ne zero] at member
    obtain ⟨value, inDigits, rfl⟩ := List.mem_map.mp member
    exact isDigit_digit (Nat.digits_lt_base (by decide) (List.mem_reverse.mp inDigits))

theorem read_map_digit {values : List Nat} (bounds : ∀ value ∈ values, value < 10) :
    read (values.reverse.map digit) = Nat.ofDigits 10 values := by
  rw [read, List.foldl_map, List.foldl_reverse, Nat.ofDigits_eq_foldr]
  induction values with
  | nil => rfl
  | cons value values ih =>
      have place := toNat_digit (bounds value List.mem_cons_self)
      have tail := ih fun other member => bounds other (List.mem_cons_of_mem _ member)
      simp only [List.foldr_cons, tail, place, Nat.cast_id]
      omega

@[simp] theorem read_write (n : Nat) : read (write n) = n := by
  by_cases zero : n = 0
  · subst zero
    rfl
  · rw [write_of_ne zero, read_map_digit, Nat.ofDigits_digits]
    intro value member
    exact Nat.digits_lt_base (by decide) member

/-- A number has at most `count` digits exactly when it is below `10 ^ count`. -/
theorem length_write_le_iff {n count : Nat} (positive : 0 < count) :
    (write n).length ≤ count ↔ n < 10 ^ count := by
  by_cases zero : n = 0
  · subst zero
    have power : 0 < 10 ^ count := Nat.pow_pos (by decide)
    simp only [write_zero, List.length_singleton]
    omega
  · rw [write_of_ne zero, List.length_map, List.length_reverse,
      Nat.digits_length_le_iff (by decide)]

/-- Only zero is written with a leading zero. -/
theorem head_write {n : Nat} (nonzero : n ≠ 0) :
    ∃ c rest, write n = c :: rest ∧ 0x31 ≤ c ∧ c ≤ 0x39 := by
  have positive : Nat.digits 10 n ≠ [] := Nat.digits_ne_nil_iff_ne_zero.mpr nonzero
  have last := Nat.getLast_digit_ne_zero 10 nonzero
  have bound : (Nat.digits 10 n).getLast positive < 10 :=
    Nat.digits_lt_base (by decide) (List.getLast_mem positive)
  have place := toNat_digit bound
  refine ⟨digit ((Nat.digits 10 n).getLast positive),
    (Nat.digits 10 n).dropLast.reverse.map digit, ?_, ?_, ?_⟩
  · rw [write_of_ne nonzero]
    conv_lhs => rw [← List.dropLast_append_getLast positive]
    simp
  · rw [UInt8.le_iff_toNat_le, place]
    simp
    omega
  · rw [UInt8.le_iff_toNat_le, place]
    simp
    omega

/-- Digits without a leading zero are the text of the number they spell. -/
theorem write_read {c : UInt8} {rest : List UInt8} (leading : 0x31 ≤ c)
    (allDigits : ∀ d ∈ c :: rest, isDigit d = true) :
    write (read (c :: rest)) = c :: rest := by
  set values := ((c :: rest).map fun d => d.toNat - 0x30).reverse with valuesDef
  have back : values.reverse.map digit = c :: rest := by
    rw [valuesDef, List.reverse_reverse, List.map_map]
    conv_rhs => rw [← List.map_id (c :: rest)]
    refine List.map_congr_left fun d member => ?_
    have range := isDigit_iff.mp (allDigits d member)
    apply UInt8.toNat.inj
    simp only [Function.comp_apply, id_eq, toNat_digit (show d.toNat - 0x30 < 10 by omega)]
    omega
  have bounds : ∀ value ∈ values, value < 10 := by
    intro value member
    rw [valuesDef, List.mem_reverse] at member
    obtain ⟨d, inText, rfl⟩ := List.mem_map.mp member
    have range := isDigit_iff.mp (allDigits d inText)
    omega
  have spelled : read (c :: rest) = Nat.ofDigits 10 values := by
    rw [← back, read_map_digit bounds]
  have lastNonzero : ∀ nonempty : values ≠ [], values.getLast nonempty ≠ 0 := by
    intro nonempty
    have head : values.getLast nonempty = c.toNat - 0x30 := by simp [valuesDef]
    rw [UInt8.le_iff_toNat_le] at leading
    rw [head]
    simp at leading
    omega
  have digits := Nat.digits_ofDigits 10 (by decide) values bounds lastNonzero
  have nonzero : read (c :: rest) ≠ 0 := by
    intro zero
    rw [← spelled, zero, Nat.digits_zero] at digits
    rw [← digits] at back
    simp at back
  rw [write_of_ne nonzero, spelled, digits, back]

/-- One lowercase hexadecimal digit. -/
def hexDigit (value : Nat) : UInt8 :=
  UInt8.ofNat (if value < 10 then 0x30 + value else 0x57 + value)

/-- `width` hexadecimal digits of a number, the most significant first. -/
def writeHex (width n : Nat) : List UInt8 :=
  ((List.range width).map fun place => hexDigit (n / 16 ^ place % 16)).reverse

@[simp] theorem length_writeHex (width n : Nat) : (writeHex width n).length = width := by
  simp [writeHex]

theorem mem_writeHex {width n : Nat} {c : UInt8} (member : c ∈ writeHex width n) :
    ∃ value < 16, c = hexDigit value := by
  rw [writeHex, List.mem_reverse] at member
  obtain ⟨place, -, rfl⟩ := List.mem_map.mp member
  exact ⟨_, Nat.mod_lt _ (by decide), rfl⟩

end Chrysopolis.Support.Decimal
