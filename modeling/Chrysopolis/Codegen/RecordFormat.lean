import Chrysopolis.Codegen.GenerateErlang
import Mathlib.Tactic.MkIffOfInductiveProp

/-! What a record's binary stands for: the wire format of the map type the generator
declares for it. A contract has one when its records are laid out without padding and
nest only records described before them. -/

set_option autoImplicit false

namespace Chrysopolis.Codegen

open Chrysopolis.Support

/-! ### Formats of terms -/

namespace Term

def toWord : Term → Option Nat
  | integer value => if 0 ≤ value then some value.toNat else none
  | _ => none

def toBytes : Term → Option Bytes
  | binary bytes => some bytes
  | _ => none

def toItems : Term → Option (List Term)
  | list items => some items
  | _ => none

def toEntries : Term → Option (String → Option Term)
  | map entries => some entries
  | _ => none

theorem toWord_eq {term : Term} {value : Nat} :
    term.toWord = some value ↔ term = integer value := by
  cases term with
  | integer number =>
      simp only [toWord, integer.injEq]
      split
      · rw [Option.some.injEq]; omega
      · constructor
        · intro absurd; cases absurd
        · omega
  | _ => constructor <;> intro same <;> cases same

theorem toBytes_eq {term : Term} {bytes : Bytes} :
    term.toBytes = some bytes ↔ term = binary bytes := by
  cases term <;> simp [toBytes]

theorem toItems_eq {term : Term} {items : List Term} :
    term.toItems = some items ↔ term = list items := by
  cases term <;> simp [toItems]

theorem toEntries_eq {term : Term} {entries : String → Option Term} :
    term.toEntries = some entries ↔ term = map entries := by
  cases term <;> simp [toEntries]

end Term

/-- `0..2^(8 * width) - 1` -/
def wordFormat (width : Nat) : WireFormat Term :=
  (WireFormat.uint width).embed (fun value => .integer value) Term.toWord Term.toWord_eq
    (fun _ => True) fun _ => trivial

/-- `binary()`, of one size. -/
def binaryFormat (size : Nat) : WireFormat Term :=
  (WireFormat.raw size).embed .binary Term.toBytes Term.toBytes_eq (fun _ => True) fun _ => trivial

/-- `[element]`, of one length. -/
def listFormat (count : Nat) (format : WireFormat Term) : WireFormat Term :=
  (WireFormat.array count format).embed .list Term.toItems Term.toItems_eq
    (fun term => ∀ items, term = .list items → (WireFormat.array count format).Shaped items)
    fun shaped _ same => Term.list.inj same ▸ shaped

/-- `#{key := value, ...}`, with no other key. -/
def mapFormat (slots : List (WireSlot String Term)) (distinct : (WireSlot.keysOf slots).Nodup) :
    WireFormat Term :=
  (WireFormat.record slots distinct).embed .map Term.toEntries Term.toEntries_eq
    (fun term => ∃ entries, term = .map entries ∧ (WireFormat.record slots distinct).Shaped entries)
    fun shaped => ⟨_, rfl, shaped⟩

/-! ### Formats of records -/

/-- `writeFieldType`: the type of a field in its record's map. -/
def Field.format (nested : String → WireFormat Term) (field : Field) : WireFormat Term :=
  if field.isMagic then binaryFormat 8
  else if field.isRecord then
    if field.count = 1 then nested (snake field.element)
    else listFormat field.count (nested (snake field.element))
  else if field.count > 1 then
    if field.elementBits = 8 then binaryFormat field.count
    else listFormat field.count (wordFormat (field.elementBits / 8))
  else wordFormat (field.elementBits / 8)

/-- Maps omit the reserved fields. -/
def Field.slot (nested : String → WireFormat Term) (field : Field) : WireSlot String Term :=
  if isReserved field.name then .gap field.size else .field field.name (field.format nested)

/-- A field the reflection of a struct can give: a magic is one word, and the rows of a
record have that record's size. -/
@[mk_iff]
structure Field.Valid (earlier : List Record) (field : Field) : Prop where
  count_pos : 0 < field.count
  size_eq : field.size = field.count * (field.size / field.count)
  width_pos : 0 < field.size / field.count
  magic : field.isMagic → field.size = 8
  nested : field.isRecord → ∃ record ∈ earlier,
    snake record.name = snake field.element ∧ record.size = field.size / field.count

@[mk_iff]
structure Record.Valid (earlier : List Record) (record : Record) : Prop where
  contiguous : (validateRecord record).isOk
  /-- No two fields share a variable. -/
  vars : (record.kept.map fun field => camel field.name).Nodup
  fields : ∀ field ∈ record.fields, field.Valid earlier

instance (earlier : List Record) (field : Field) : Decidable (field.Valid earlier) :=
  decidable_of_iff _ (Field.valid_iff earlier field).symm

instance (earlier : List Record) (record : Record) : Decidable (record.Valid earlier) :=
  decidable_of_iff _ (Record.valid_iff earlier record).symm

/-- Records, latest first, each valid over the ones before it and with a spelling of its own. -/
def Ordered : List Record → Prop
  | [] => True
  | record :: earlier =>
      record.Valid earlier ∧ (∀ other ∈ earlier, snake other.name ≠ snake record.name) ∧
        Ordered earlier

instance : (records : List Record) → Decidable (Ordered records)
  | [] => .isTrue trivial
  | record :: earlier =>
      have : Decidable (Ordered earlier) := instDecidableOrdered earlier
      inferInstanceAs (Decidable (record.Valid earlier ∧
        (∀ other ∈ earlier, snake other.name ≠ snake record.name) ∧ Ordered earlier))

theorem keptFields_reserved {field : Field} (reserved : isReserved field.name)
    (rest : List Field) : keptFields (field :: rest) = keptFields rest := by
  simp [keptFields, reserved]

theorem keptFields_kept {field : Field} (kept : ¬ isReserved field.name)
    (rest : List Field) : keptFields (field :: rest) = field :: keptFields rest := by
  simp [keptFields, kept]

theorem keysOf_slots (nested : String → WireFormat Term) (fields : List Field) :
    WireSlot.keysOf (fields.map (Field.slot nested)) = (keptFields fields).map Field.name := by
  rw [WireSlot.keysOf, List.flatMap_map]
  induction fields with
  | nil => rfl
  | cons field rest ih =>
      rw [List.flatMap_cons, ih]
      by_cases reserved : isReserved field.name
      · rw [keptFields_reserved reserved, Field.slot, if_pos reserved]
        rfl
      · rw [keptFields_kept reserved, Field.slot, if_neg reserved]
        rfl

theorem Record.Valid.distinct {earlier : List Record} {record : Record}
    (valid : record.Valid earlier) (nested : String → WireFormat Term) :
    (WireSlot.keysOf (record.fields.map (Field.slot nested))).Nodup := by
  rw [keysOf_slots]
  refine List.Nodup.of_map camel ?_
  rw [List.map_map]
  exact valid.vars

/-- The format of each record by its spelling. -/
def formats : (records : List Record) → Ordered records → String → WireFormat Term
  | [], _, _ => binaryFormat 0
  | record :: earlier, ordered, name =>
      let nested := formats earlier ordered.2.2
      if snake record.name = name then
        mapFormat (record.fields.map (Field.slot nested)) (ordered.1.distinct nested)
      else nested name

theorem formats_latest {record : Record} {earlier : List Record}
    (ordered : Ordered (record :: earlier)) :
    formats (record :: earlier) ordered (snake record.name) =
      mapFormat (record.fields.map (Field.slot (formats earlier ordered.2.2)))
        (ordered.1.distinct (formats earlier ordered.2.2)) :=
  if_pos rfl

theorem formats_earlier {record : Record} {earlier : List Record}
    (ordered : Ordered (record :: earlier)) {name : String} (differ : snake record.name ≠ name) :
    formats (record :: earlier) ordered name = formats earlier ordered.2.2 name :=
  if_neg differ

/-- The contract is laid out as the generator needs it. -/
theorem records_ordered : Ordered records.reverse := by decide +kernel

/-- The format of a record of the contract. -/
def recordFormat (record : Record) : WireFormat Term :=
  formats records.reverse records_ordered (snake record.name)

end Chrysopolis.Codegen
