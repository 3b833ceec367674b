import Mathlib.Data.List.Perm.Subperm
import Chrysopolis.Codegen.Validate
import Chrysopolis.Support.Tiling

/-! A description passes validation exactly when it is well formed: its records are packed, its
enumerations and magics are distinct, and its publication words are aligned. -/

set_option autoImplicit false

namespace Chrysopolis.Codegen.Layout

open Chrysopolis.Support
open Chrysopolis.Support.Fallible (bind_eq_ok_iff then_eq_ok_iff forM_eq_ok_iff eachAfter_eq_ok_iff)
open Chrysopolis.Abi

/-! ### What a well-formed description is -/

def Field.start (field : Field) : Nat := field.offset.toNat

def Field.length (field : Field) : Nat := field.size.toNat

/-- The fields of a record fill it, without padding. -/
def Record.Packed (record : Record) : Prop :=
  Tiles Field.start Field.length record.size.toNat 0 record.fields.items

/-- The values of an enumeration fit its width, and none has another's name or number. -/
structure Enum.Distinct (enumeration : Enum) : Prop where
  width : enumeration.width = 1 ∨ enumeration.width = 2 ∨ enumeration.width = 4 ∨
    enumeration.width = 8
  fits : ∀ item ∈ enumeration.values.items,
    item.value.toNat < 2 ^ (enumeration.width.toNat * 8)
  apart : enumeration.values.items.Pairwise fun earlier later =>
    earlier.value ≠ later.value ∧ earlier.name ≠ later.name

/-- A publication word is a field of some record, and every field of its name is aligned. -/
structure AtomicField.Located (records : List Record) (atomic : AtomicField) : Prop where
  named : ∃ record ∈ records, ∃ field ∈ record.fields.items,
    atomic.record = record.name ∧ atomic.field = field.name
  aligned : ∀ record ∈ records, ∀ field ∈ record.fields.items,
    atomic.record = record.name → atomic.field = field.name → Aligned atomic record field

structure WellFormed (value : Description) : Prop where
  version : value.abiVersion = .ofNat abiVersion
  constants : value.constants = Layout.constants
  recordCount : value.records.items.length = 16
  enumCount : value.enums.items.length = 15
  magicCount : value.magics.items.length = 8
  transitionCount : value.transitions.items.length = slotTransitions.length
  packed : ∀ record ∈ value.records.items, record.Packed
  distinct : ∀ enumeration ∈ value.enums.items, enumeration.Distinct
  published : value.atomicFields.items.Perm atomicFields
  located : ∀ atomic ∈ value.atomicFields.items, atomic.Located value.records.items
  magicBytes : ∀ magic ∈ value.magics.items, magic.bytes.length = 8
  magicApart : value.magics.items.Pairwise fun earlier later => earlier.value ≠ later.value

/-! ### Each check -/

theorem require_eq_ok_iff {condition : Prop} [Decidable condition] {error : ValidationError}
    {path : Bytes} {invariant : String} :
    require condition error path invariant = .ok () ↔ condition :=
  Fallible.require_eq_ok_iff

theorem validateFields_eq_ok_iff {record : Bytes} {fields : List Field} {position stop : Nat}
    (bound : stop < 2 ^ 64) :
    validateFields record position fields = .ok stop ↔
      Tiles Field.start Field.length stop position fields := by
  induction fields generalizing position with
  | nil => simp [validateFields, Tiles]
  | cons field rest ih =>
      rw [validateFields, Tiles]
      simp only [then_eq_ok_iff, require_eq_ok_iff, ih, Field.start, Field.length]
      constructor
      · intro checked
        exact ⟨checked.1, checked.2.2⟩
      · intro tiles
        exact ⟨tiles.1, Nat.lt_of_le_of_lt tiles.2.le bound, tiles.2⟩

theorem validateRecord_eq_ok_iff {record : Record} :
    validateRecord record = .ok () ↔ record.Packed := by
  have bound : record.size.toNat < 2 ^ 64 := record.size.toNat_lt
  rw [validateRecord, bind_eq_ok_iff]
  simp only [require_eq_ok_iff]
  constructor
  · intro checked
    obtain ⟨stop, placed, rfl⟩ := checked
    exact (validateFields_eq_ok_iff bound).mp placed
  · intro packed
    exact ⟨_, (validateFields_eq_ok_iff bound).mpr packed, rfl⟩

theorem validateValue_eq_ok_iff {enumeration : Enum} (before : List EnumValue)
    (value : EnumValue) :
    validateValue enumeration before value = .ok () ↔
      (enumeration.width < 8 → value.value.toNat < 2 ^ (enumeration.width.toNat * 8)) ∧
        ∀ prior ∈ before, value.value ≠ prior.value ∧ value.name ≠ prior.name := by
  simp only [validateValue, then_eq_ok_iff, require_eq_ok_iff]

theorem validateEnum_eq_ok_iff {enumeration : Enum} :
    validateEnum enumeration = .ok () ↔ enumeration.Distinct := by
  simp only [validateEnum, then_eq_ok_iff, require_eq_ok_iff,
    eachAfter_eq_ok_iff validateValue_eq_ok_iff]
  constructor
  · intro checked
    obtain ⟨width, fits, apart, -⟩ := checked
    refine ⟨width, ?_, apart.imp fun both => ⟨both.1.symm, both.2.symm⟩⟩
    intro item listed
    rcases width with narrow | narrow | narrow | wide
    · exact fits item listed (by rw [narrow]; decide)
    · exact fits item listed (by rw [narrow]; decide)
    · exact fits item listed (by rw [narrow]; decide)
    · rw [wide]
      exact item.value.toNat_lt
  · intro distinct
    refine ⟨distinct.width, ?_, distinct.apart.imp fun both => ⟨both.1.symm, both.2.symm⟩, ?_⟩
    · intro item listed _
      exact distinct.fits item listed
    · intro other listed
      cases listed

theorem mem_named {records : List Record} {atomic : AtomicField} {record : Record} {field : Field} :
    (record, field) ∈ named records atomic ↔
      record ∈ records ∧ field ∈ record.fields.items ∧ atomic.record = record.name ∧
        atomic.field = field.name := by
  simp only [named, List.mem_flatMap, List.mem_filter, List.mem_map, decide_eq_true_eq,
    Prod.mk.injEq]
  constructor
  · intro found
    obtain ⟨_, ⟨listed, sameRecord⟩, _, ⟨member, sameField⟩, rfl, rfl⟩ := found
    exact ⟨listed, member, sameRecord, sameField⟩
  · intro found
    obtain ⟨listed, member, sameRecord, sameField⟩ := found
    exact ⟨record, ⟨listed, sameRecord⟩, field, ⟨member, sameField⟩, rfl, rfl⟩

theorem located_iff {records : List Record} {atomic : AtomicField} :
    atomic.Located records ↔
      (∀ found ∈ named records atomic, Aligned atomic found.1 found.2) ∧
        named records atomic ≠ [] := by
  constructor
  · intro located
    obtain ⟨record, listed, field, member, sameRecord, sameField⟩ := located.named
    constructor
    · intro found isNamed
      obtain ⟨listed, member, sameRecord, sameField⟩ := mem_named.mp isNamed
      exact located.aligned found.1 listed found.2 member sameRecord sameField
    · exact List.ne_nil_of_mem (mem_named.mpr ⟨listed, member, sameRecord, sameField⟩)
  · intro checked
    obtain ⟨aligned, found⟩ := checked
    constructor
    · obtain ⟨⟨record, field⟩, isNamed⟩ := List.exists_mem_of_ne_nil _ found
      obtain ⟨listed, member, sameRecord, sameField⟩ := mem_named.mp isNamed
      exact ⟨record, listed, field, member, sameRecord, sameField⟩
    · intro record listed field member sameRecord sameField
      exact aligned (record, field) (mem_named.mpr ⟨listed, member, sameRecord, sameField⟩)

theorem validateAtomicField_eq_ok_iff {records : List Record} (before : List AtomicField)
    (atomic : AtomicField) :
    validateAtomicField records before atomic = .ok () ↔
      atomic.Located records ∧
        ∀ prior ∈ before, ¬(atomic.record = prior.record ∧ atomic.field = prior.field) := by
  simp [validateAtomicField, then_eq_ok_iff, require_eq_ok_iff, located_iff, and_assoc]

theorem validateAtomicFields_eq_ok_iff {fields : List AtomicField} {records : List Record} :
    validateAtomicFields fields records = .ok () ↔
      (∀ atomic ∈ fields, atomic.Located records) ∧
        fields.Pairwise fun earlier later =>
          ¬(later.record = earlier.record ∧ later.field = earlier.field) := by
  rw [validateAtomicFields, eachAfter_eq_ok_iff validateAtomicField_eq_ok_iff]
  simp

theorem atomicFields_apart :
    atomicFields.Pairwise fun earlier later =>
      ¬(later.record = earlier.record ∧ later.field = earlier.field) := by
  decide +kernel

theorem atomicFields_nodup : atomicFields.Nodup := by
  apply atomicFields_apart.imp
  intro earlier later apart same
  exact apart ⟨congrArg AtomicField.record same.symm, congrArg AtomicField.field same.symm⟩

/-- The entries of a list are those of the contract when there are as many, each required
one among them. -/
theorem published_iff {fields : List AtomicField} :
    fields.Perm atomicFields ↔
      fields.length = 7 ∧
        (fields.Pairwise fun earlier later =>
          ¬(later.record = earlier.record ∧ later.field = earlier.field)) ∧
        ∀ required ∈ atomicFields, ∃ field ∈ fields, field.record = required.record ∧
          field.field = required.field ∧ field.width = required.width := by
  constructor
  · intro perm
    refine ⟨perm.length_eq, ?_, fun required listed => ?_⟩
    · refine (perm.pairwise_iff ?_).mpr atomicFields_apart
      intro earlier later apart same
      exact apart ⟨same.1.symm, same.2.symm⟩
    · exact ⟨required, perm.mem_iff.mpr listed, rfl, rfl, rfl⟩
  · intro listed
    obtain ⟨count, -, required⟩ := listed
    have subset : atomicFields ⊆ fields := by
      intro entry listed
      obtain ⟨field, member, record, name, width⟩ := required entry listed
      have same : field = entry := by
        cases field
        cases entry
        simp_all
      exact same ▸ member
    have fewer : fields.length ≤ atomicFields.length := Nat.le_of_eq count
    exact ((List.subperm_of_subset atomicFields_nodup subset).perm_of_length_le fewer).symm

theorem validateMagic_eq_ok_iff (before : List Magic) (magic : Magic) :
    validateMagic before magic = .ok () ↔
      magic.bytes.length = 8 ∧ ∀ prior ∈ before, magic.value ≠ prior.value := by
  simp [validateMagic, then_eq_ok_iff, require_eq_ok_iff]

/-! ### Descriptions -/

/-- What the rounds of the loops of `validateDescription` ask. -/
theorem validateDescription_checks {value : Description} :
    validateDescription value = .ok () ↔
      (value.abiVersion = .ofNat abiVersion ∧ value.constants = constants) ∧
        (value.records.items.length = 16 ∧ value.enums.items.length = 15 ∧
          value.magics.items.length = 8 ∧
            value.transitions.items.length = slotTransitions.length) ∧
        (∀ record ∈ value.records.items, record.Packed) ∧
        (∀ enumeration ∈ value.enums.items, enumeration.Distinct) ∧
        (∀ atomic ∈ value.atomicFields.items, atomic.Located value.records.items) ∧
        value.atomicFields.items.Perm atomicFields ∧
        (∀ magic ∈ value.magics.items, magic.bytes.length = 8) ∧
        value.magics.items.Pairwise fun earlier later => later.value ≠ earlier.value := by
  simp only [validateDescription, then_eq_ok_iff, require_eq_ok_iff, forM_eq_ok_iff,
    eachAfter_eq_ok_iff validateMagic_eq_ok_iff, validateRecord_eq_ok_iff,
    validateEnum_eq_ok_iff, validateAtomicFields_eq_ok_iff, validateRequired, published_iff]
  constructor
  · intro checked
    obtain ⟨version, counts, packed, distinct, count, ⟨located, apart⟩, required, bytes, magics,
      -⟩ := checked
    exact ⟨version, counts, packed, distinct, located, ⟨count, apart, required⟩, bytes, magics⟩
  · intro checked
    obtain ⟨version, counts, packed, distinct, located, ⟨count, apart, required⟩, bytes,
      magics⟩ := checked
    exact ⟨version, counts, packed, distinct, count, ⟨located, apart⟩, required, bytes, magics,
      by simp⟩

theorem validateDescription_eq_ok_iff (value : Description) :
    validateDescription value = .ok () ↔ WellFormed value := by
  rw [validateDescription_checks]
  constructor
  · intro checked
    obtain ⟨⟨version, constants⟩, ⟨records, enums, magics, transitions⟩, packed, distinct, located,
      published, magicBytes, magicApart⟩ := checked
    exact ⟨version, constants, records, enums, magics, transitions, packed, distinct, published,
      located, magicBytes, magicApart.imp Ne.symm⟩
  · intro formed
    exact ⟨⟨formed.version, formed.constants⟩,
      ⟨formed.recordCount, formed.enumCount, formed.magicCount, formed.transitionCount⟩,
      formed.packed, formed.distinct, formed.located, formed.published, formed.magicBytes,
      formed.magicApart.imp Ne.symm⟩

theorem contract_valid : validateDescription contract = .ok () := by
  decide +kernel

/-- The check tables read the same enumerations. -/
example : ∀ enumeration ∈ CheckTable.enums, ∃ item ∈ contract.enums.items,
    item.name = asciiBytes enumeration.name ∧ item.width.toNat = enumeration.width ∧
      item.wire = enumeration.wire ∧
        item.values.items.map (fun value => value.value.toNat) = enumeration.values := by
  decide +kernel

/-! ### What validation promises -/

theorem Aligned.address {atomic : AtomicField} {record : Record} {field : Field}
    (aligned : Aligned atomic record field) {base : Nat}
    (placed : base % record.alignment.toNat = 0) :
    (base + field.start) % field.length = 0 := by
  obtain ⟨-, size, offset, alignment⟩ := aligned
  rw [Field.start, Field.length, size]
  have whole : atomic.width.toNat ∣ base :=
    Nat.dvd_trans (Nat.dvd_of_mod_eq_zero alignment) (Nat.dvd_of_mod_eq_zero placed)
  exact Nat.mod_eq_zero_of_dvd (Nat.dvd_add whole (Nat.dvd_of_mod_eq_zero offset))

theorem Aligned.word {atomic : AtomicField} {record : Record} {field : Field}
    (aligned : Aligned atomic record field) : field.length = 4 ∨ field.length = 8 := by
  obtain ⟨width, size, -, -⟩ := aligned
  rw [Field.length, size]
  rcases width with four | eight
  · exact .inl (by rw [four]; rfl)
  · exact .inr (by rw [eight]; rfl)

/-- Every byte of a valid record belongs to one field, and a publication word is stored at an
address that its size divides. -/
theorem validated_whole {value : Description} (valid : validateDescription value = .ok ())
    {record : Record} (listed : record ∈ value.records.items) :
    (∀ place < record.size.toNat, ∃ before field after,
      record.fields.items = before ++ field :: after ∧
        Holds Field.start Field.length place field ∧
          ∀ other ∈ before ++ after, ¬Holds Field.start Field.length place other) ∧
      ∀ atomic ∈ value.atomicFields.items, ∀ field ∈ record.fields.items,
        atomic.record = record.name → atomic.field = field.name →
          (field.length = 4 ∨ field.length = 8) ∧
            ∀ base, base % record.alignment.toNat = 0 →
              (base + field.start) % field.length = 0 := by
  obtain ⟨-, -, packed, -, located, -⟩ := validateDescription_checks.mp valid
  constructor
  · intro place inside
    exact (packed record listed).holder (Nat.zero_le place) inside
  · intro atomic published field member sameRecord sameField
    have aligned :=
      (located atomic published).aligned record listed field member sameRecord sameField
    refine ⟨aligned.word, ?_⟩
    intro base placed
    exact aligned.address placed

/-- The sequence of a bank in the contract. -/
theorem validated_whole_bank :
    ∃ record ∈ contract.records.items, record.name = asciiBytes "SpecBank" ∧
      (∃ field ∈ record.fields.items, Holds Field.start Field.length 2015 field) ∧
        ∃ field ∈ record.fields.items, field.name = asciiBytes "bank_seq" ∧
          ∀ base, base % 8 = 0 → (base + field.start) % field.length = 0 := by
  have found : ∃ record ∈ contract.records.items, record.name = asciiBytes "SpecBank" ∧
      record.size = 2016 ∧ record.alignment = 8 ∧
        ∃ atomic ∈ contract.atomicFields.items, atomic.record = record.name ∧
          ∃ field ∈ record.fields.items, field.name = asciiBytes "bank_seq" ∧
            atomic.field = field.name := by
    decide +kernel
  obtain ⟨record, listed, name, size, alignment, atomic, published, sameRecord, field, member,
    fieldName, sameField⟩ := found
  obtain ⟨covered, words⟩ := validated_whole contract_valid listed
  obtain ⟨before, owner, after, fields, held, -⟩ := covered 2015 (by rw [size]; decide)
  refine ⟨record, listed, name, ⟨owner, by simp [fields], held⟩, field, member, fieldName, ?_⟩
  intro base placed
  exact (words atomic published field member sameRecord sameField).2 base
    (by rw [alignment]; exact placed)

/-! ### The records that the generators read -/

theorem codegen_validateFields_eq_ok_iff {fields : List Codegen.Field} {position stop : Nat}
    (bound : stop < 2 ^ 64) :
    Codegen.validateFields position fields = .ok stop ↔
      Tiles Codegen.Field.offset Codegen.Field.size stop position fields := by
  induction fields generalizing position with
  | nil => simp [Codegen.validateFields, Tiles]
  | cons field rest ih =>
      rw [Codegen.validateFields, Tiles]
      split
      · next moved => simp [moved]
      · next placed =>
          split
          · next long =>
              constructor
              · intro failed
                cases failed
              · intro tiles
                have := tiles.2.le
                omega
          · next fits =>
              rw [ih, and_iff_right (Decidable.not_not.mp placed)]

theorem sliceOf_items {α : Type} {items : List α} (fits : items.length < 2 ^ 64) :
    (sliceOf items).items = items := by
  rw [sliceOf, dif_pos fits]

/-- A record is packed in both readings, the generators' and the digest's. -/
theorem validateRecord_recordOf {record : Codegen.Record} (size : record.size < 2 ^ 64)
    (count : record.fields.length < 2 ^ 64)
    (fields : ∀ field ∈ record.fields, field.offset < 2 ^ 64 ∧ field.size < 2 ^ 64) :
    validateRecord (recordOf record) = .ok () ↔ Codegen.validateRecord record = .ok () := by
  have items : (recordOf record).fields.items = record.fields.map fieldOf :=
    sliceOf_items (by rw [List.length_map]; exact count)
  have total : (recordOf record).size.toNat = record.size := UInt64.toNat_ofNat_of_lt' size
  have same : ∀ field ∈ record.fields,
      (fieldOf field).start = field.offset ∧ (fieldOf field).length = field.size := by
    intro field listed
    obtain ⟨offset, length⟩ := fields field listed
    exact ⟨UInt64.toNat_ofNat_of_lt' offset, UInt64.toNat_ofNat_of_lt' length⟩
  rw [validateRecord_eq_ok_iff, Record.Packed, items, total, tiles_map, Tiles.congr same,
    ← codegen_validateFields_eq_ok_iff size, Codegen.validateRecord]
  cases Codegen.validateFields 0 record.fields with
  | error error => simp [Except.bind, bind]
  | ok stop =>
      simp only [Fallible.ok_bind]
      split <;> simp_all

end Chrysopolis.Codegen.Layout
