import Chrysopolis.Codegen.RecordFormat
import Chrysopolis.Support.Fallible

/-! The emitted record functions implement the format of their record, over every
contract laid out in order: fields one by one, then the functions of one record, then
the module. -/

set_option autoImplicit false

namespace Chrysopolis.Codegen

open Chrysopolis.Support

/-- An encoder packs what is in range and refuses any other value of the right shape. -/
structure Encodes (format : WireFormat Term) (encode : Term → Outcome Bytes) : Prop where
  packs : ∀ {value}, format.InRange value → encode value = .ok (format.pack value)
  refuses : ∀ {value}, format.Shaped value → ¬ format.InRange value →
    encode value = .error .badarg

/-- A decoder and an encoder of a format. -/
structure Implements (format : WireFormat Term) (decode : Term → Outcome Term)
    (encode : Term → Outcome Bytes) : Prop extends Encodes format encode where
  unpacks : ∀ {bytes : Bytes}, bytes.length = format.size →
    decode (.binary bytes) = .ok (format.unpack bytes)

/-- Decoding and encoding undo each other up to the reserved bytes, and encoding refuses
exactly what is out of range. -/
structure CodecLaws (format : WireFormat Term) (size : Nat) (decode : Term → Outcome Term)
    (encode : Term → Outcome Bytes) : Prop where
  decode_encode : ∀ {value}, format.InRange value →
    ∃ bytes, encode value = .ok bytes ∧ bytes.length = size ∧ decode (.binary bytes) = .ok value
  encode_decode : ∀ {bytes : Bytes}, bytes.length = size →
    ∃ value, decode (.binary bytes) = .ok value ∧
      encode value = .ok (zeroed format.reserved bytes)
  badarg_iff : ∀ {value}, format.Shaped value →
    (encode value = .error .badarg ↔ ¬ format.InRange value)

theorem Implements.laws {format : WireFormat Term} {decode : Term → Outcome Term}
    {encode : Term → Outcome Bytes} (implements : Implements format decode encode) :
    CodecLaws format format.size decode encode where
  decode_encode range :=
    ⟨_, implements.packs range, format.pack_length range, by
      rw [implements.unpacks (format.pack_length range), format.unpack_pack range]⟩
  encode_decode length :=
    ⟨_, implements.unpacks length, by
      rw [implements.packs (format.inRange_unpack length), format.pack_unpack length]⟩
  badarg_iff {value} shaped := by
    constructor
    · intro refused range
      rw [implements.packs range] at refused
      cases refused
    · exact implements.refuses shaped

/-! ### Helpers -/

theorem uint_of_lt {number bits : Nat} (small : number < 2 ^ bits) :
    Helper.uint (.integer number) bits = .ok (number : Int) :=
  if_pos ⟨Int.natCast_nonneg _, by exact_mod_cast small⟩

theorem uint_of_outside {value : Term} {bits : Nat}
    (outside : ¬ ∃ number : Nat, value = .integer number ∧ number < 2 ^ bits) :
    Helper.uint value bits = .error .badarg := by
  cases value with
  | integer value =>
      refine if_neg fun range => outside ⟨value.toNat, ?_, ?_⟩
      · rw [Int.toNat_of_nonneg range.1]
      · have whole : (value.toNat : Int) = value := Int.toNat_of_nonneg range.1
        exact_mod_cast whole ▸ range.2
  | _ => rfl

theorem little_natCast {number width : Nat} (small : number < 2 ^ (width * 8)) :
    little (number : Int) (width * 8) = leBytes width number := by
  have fits : ((number : Int) % 2 ^ (width * 8)).toNat = number := by
    exact_mod_cast congrArg Int.toNat (congrArg Int.ofNat (Nat.mod_eq_of_lt small))
  rw [little, fits, Nat.mul_div_cancel width (by decide)]

theorem word_encodes (width : Nat) :
    Encodes (wordFormat width) fun value => do
      return little (← Helper.uint value (width * 8)) (width * 8) := by
  have power : 256 ^ width = 2 ^ (width * 8) := by rw [Nat.mul_comm, Nat.pow_mul]
  constructor
  · rintro _ ⟨number, rfl, small⟩
    have small : number < 2 ^ (width * 8) := power ▸ (show number < 256 ^ width from small)
    have packed : (wordFormat width).pack (.integer number) = leBytes width number := by
      change ((Term.integer number).toWord).elim [] (leBytes width) = _
      rw [Term.toWord_eq.mpr rfl]
      rfl
    rw [packed, uint_of_lt small]
    exact congrArg Except.ok (little_natCast small)
  · intro value _ outside
    have refused : Helper.uint value (width * 8) = .error .badarg := by
      refine uint_of_outside fun ⟨number, same, small⟩ => outside ⟨number, same, ?_⟩
      exact (power ▸ small : number < 256 ^ width)
    rw [refused]
    rfl

theorem binary_encodes (size : Nat) :
    Encodes (binaryFormat size) fun value => Helper.bytes value size := by
  constructor
  · rintro _ ⟨bytes, rfl, length⟩
    exact if_pos length
  · intro value _ outside
    cases value with
    | binary bytes => exact if_neg fun length => outside ⟨bytes, rfl, length⟩
    | _ => rfl

theorem rows_encodes {format : WireFormat Term} {encode : Term → Outcome Bytes}
    (encodes : Encodes format encode) (count : Nat) :
    Encodes (listFormat count format) fun value => Helper.rows encode value count := by
  constructor
  · rintro _ ⟨items, rfl, length, range⟩
    have each := Fallible.mapM_eq_ok_map fun item member => encodes.packs (range item member)
    simp only [Helper.rows, if_pos length, each]
    rfl
  · intro value shaped outside
    cases value with
    | list items =>
        by_cases length : items.length = count
        · have shapes := shaped items rfl length
          have failing : ∃ item ∈ items, ¬ format.InRange item := by
            by_contra all
            push Not at all
            exact outside ⟨items, rfl, length, all⟩
          have failed : items.mapM encode = .error .badarg := by
            refine Fallible.mapM_eq_error (fun item member => ?_) ?_
            · by_cases range : format.InRange item
              · exact .inl ⟨_, encodes.packs range⟩
              · exact .inr (encodes.refuses (shapes item member) range)
            · obtain ⟨item, member, range⟩ := failing
              exact ⟨item, member, encodes.refuses (shapes item member) range⟩
          simp only [Helper.rows, if_pos length, failed]
          rfl
        · exact if_neg length
    | _ => rfl

theorem uints_eq_rows (value : Term) (count bits : Nat) :
    Helper.uints value count bits =
      Helper.rows (fun item => do return little (← Helper.uint item bits) bits) value count := by
  cases value <;> rfl

/-! ### Fields -/

/-- The term a head binds a field's variable to. -/
def Field.bound (field : Field) (bytes : Bytes) : Term :=
  if field.isMagic || field.isRecord || field.count > 1 then .binary bytes
  else .integer (leNumber bytes)

/-- The nested records of a field are implemented at the field's element size. -/
structure Nested (nested : String → WireFormat Term) (decode : String → Term → Outcome Term)
    (encode : String → Term → Outcome Bytes) (field : Field) : Prop where
  implements : field.isRecord → Implements (nested (snake field.element))
    (decode (snake field.element)) (encode (snake field.element))
  size : field.isRecord → (nested (snake field.element)).size = field.size / field.count

section Fields

variable {earlier : List Record} {field : Field} {nested : String → WireFormat Term}
  {decode : String → Term → Outcome Term} {encode : String → Term → Outcome Bytes}

theorem Field.elementBytes (field : Field) :
    field.elementBits / 8 = field.size / field.count :=
  Nat.mul_div_cancel _ (by decide)

theorem Field.Valid.format_size (valid : field.Valid earlier)
    (inner : Nested nested decode encode field) : (field.format nested).size = field.size := by
  have size := valid.size_eq
  unfold Field.format
  split
  · next magic => exact (valid.magic magic).symm
  split
  · next isRecord =>
      have element := inner.size isRecord
      split
      · next single => rw [element, single, Nat.div_one]
      · exact (congrArg (field.count * ·) element).trans size.symm
  split
  · split
    · next byte =>
        have width : field.size / field.count = 1 := by
          rw [Field.elementBits] at byte
          omega
        rw [size, width, Nat.mul_one]
        rfl
    · change field.count * (field.elementBits / 8) = field.size
      rw [Field.elementBytes, ← size]
  · have single : field.count = 1 := by have := valid.count_pos; omega
    change field.elementBits / 8 = field.size
    rw [Field.elementBytes, single, Nat.div_one]

theorem Field.Valid.slot_size (valid : field.Valid earlier)
    (inner : Nested nested decode encode field) : (field.slot nested).size = field.size := by
  unfold Field.slot
  split
  · rfl
  · exact valid.format_size inner

theorem Field.Valid.pattern_size (valid : field.Valid earlier) :
    field.pattern.size = field.size := by
  unfold Field.pattern
  split
  · rfl
  split
  · rfl
  · next plain =>
      have single : field.count = 1 := by
        have := valid.count_pos
        simp only [Bool.or_eq_true, decide_eq_true_eq, not_or] at plain
        omega
      change field.elementBits / 8 = field.size
      rw [Field.elementBytes, single, Nat.div_one]

theorem Field.pattern_bind (kept : ¬ isReserved field.name) (bytes : Bytes)
    (bindings : Bindings) : field.pattern.bind bytes bindings =
      Function.update bindings (camel field.name) (some (field.bound bytes)) := by
  unfold Field.pattern Field.bound
  rw [if_neg kept]
  split <;> rfl

theorem Bindings.get_of_eq {bindings : Bindings} {var : String} {term : Term}
    (found : bindings var = some term) : bindings.get var = .ok term := by
  rw [Bindings.get, found]
  rfl

/-- A generator over a whole number of pieces yields them all. -/
theorem generate_eq {size count : Nat} {bytes : Bytes} (positive : 0 < size)
    (length : bytes.length = count * size) :
    generate size (.binary bytes) = .ok (chunks size count bytes) := by
  rw [generate, length, Nat.mul_div_cancel _ positive]

theorem fromBinaries_eval {bindings : Bindings} {var record : String} {bytes : Bytes}
    {format : WireFormat Term} {count : Nat}
    (get : bindings.get var = .ok (.binary bytes)) (positive : 0 < format.size)
    (length : bytes.length = count * format.size)
    (unpacks : ∀ {piece : Bytes}, piece.length = format.size →
      decode record (.binary piece) = .ok (format.unpack piece)) :
    (DecodeExpr.fromBinaries record format.size var).eval decode bindings =
      .ok ((listFormat count format).unpack bytes) := by
  have each : (chunks format.size count bytes).mapM
      (fun piece => decode record (.binary piece)) =
      .ok ((chunks format.size count bytes).map format.unpack) :=
    Fallible.mapM_eq_ok_map fun piece member => unpacks (length_of_mem_chunks length member)
  rw [DecodeExpr.eval, get, Fallible.ok_bind, generate_eq positive length, Fallible.ok_bind, each]
  rfl

theorem littles_eval {bindings : Bindings} {var : String} {bytes : Bytes} {bits width count : Nat}
    (whole : bits / 8 = width) (get : bindings.get var = .ok (.binary bytes))
    (positive : 0 < width) (length : bytes.length = count * width) :
    (DecodeExpr.littles bits var).eval decode bindings =
      .ok ((listFormat count (wordFormat width)).unpack bytes) := by
  have words : (listFormat count (wordFormat width)).unpack bytes =
      .list ((chunks width count bytes).map fun piece => .integer (leNumber piece)) := rfl
  rw [DecodeExpr.eval, get, whole, Fallible.ok_bind, generate_eq positive length, words]
  rfl

/-- A field decodes to what its bytes stand for. -/
theorem Field.Valid.decode_eval (valid : field.Valid earlier)
    (inner : Nested nested decode encode field) {bindings : Bindings} {bytes : Bytes}
    (found : bindings (camel field.name) = some (field.bound bytes))
    (length : bytes.length = field.size) :
    field.decodeExpr.eval decode bindings = .ok ((field.format nested).unpack bytes) := by
  have get := Bindings.get_of_eq found
  have pieces : bytes.length = field.count * (field.size / field.count) :=
    length.trans valid.size_eq
  by_cases magic : field.isMagic
  · have expr : field.decodeExpr = .var (camel field.name) := by simp [Field.decodeExpr, magic]
    have format : field.format nested = binaryFormat 8 := by simp [Field.format, magic]
    have bound : field.bound bytes = .binary bytes := by simp [Field.bound, magic]
    rw [expr, format, DecodeExpr.eval, get, bound]
    rfl
  by_cases isRecord : field.isRecord
  · have element := inner.size isRecord
    have implements := inner.implements isRecord
    have bound : field.bound bytes = .binary bytes := by simp [Field.bound, isRecord]
    by_cases single : field.count = 1
    · have expr : field.decodeExpr = .fromBinary (snake field.element) (camel field.name) := by
        simp [Field.decodeExpr, magic, isRecord, single]
      have format : field.format nested = nested (snake field.element) := by
        simp [Field.format, magic, isRecord, single]
      rw [expr, format, DecodeExpr.eval, get, bound]
      exact implements.unpacks (by rw [element, length, single, Nat.div_one])
    · have expr : field.decodeExpr =
          .fromBinaries (snake field.element) (field.size / field.count) (camel field.name) := by
        simp [Field.decodeExpr, magic, isRecord, single]
      have format : field.format nested =
          listFormat field.count (nested (snake field.element)) := by
        simp [Field.format, magic, isRecord, single]
      rw [expr, format, ← element]
      rw [← element] at pieces
      exact fromBinaries_eval (bound ▸ get) (element ▸ valid.width_pos) pieces implements.unpacks
  by_cases many : field.count > 1
  · have bound : field.bound bytes = .binary bytes := by simp [Field.bound, many]
    by_cases byte : field.elementBits = 8
    · have expr : field.decodeExpr = .copy (camel field.name) := by
        simp [Field.decodeExpr, magic, isRecord, many, byte]
      have format : field.format nested = binaryFormat field.count := by
        simp [Field.format, magic, isRecord, many, byte]
      rw [expr, format, DecodeExpr.eval, get, bound]
      rfl
    · have expr : field.decodeExpr = .littles field.elementBits (camel field.name) := by
        simp [Field.decodeExpr, magic, isRecord, many, byte]
      have format : field.format nested =
          listFormat field.count (wordFormat (field.size / field.count)) := by
        simp [Field.format, magic, isRecord, many, byte, Field.elementBytes]
      rw [expr, format]
      exact littles_eval field.elementBytes (bound ▸ get) valid.width_pos pieces
  · have expr : field.decodeExpr = .var (camel field.name) := by
      simp [Field.decodeExpr, magic, isRecord, many]
    have format : field.format nested = wordFormat (field.elementBits / 8) := by
      simp [Field.format, magic, isRecord, many]
    have bound : field.bound bytes = .integer (leNumber bytes) := by
      simp [Field.bound, magic, isRecord, many]
    rw [expr, format, DecodeExpr.eval, get, bound]
    rfl

/-- The segment of a field packs the field's value. -/
theorem Field.encode_eval (kept : ¬ isReserved field.name)
    (inner : Nested nested decode encode field) :
    ∃ packed, Encodes (field.format nested) packed ∧ ∀ {bindings : Bindings} {value : Term},
      bindings (camel field.name) = some value →
        field.encodeSegment.eval encode bindings = packed value := by
  by_cases magic : field.isMagic
  · have segment : field.encodeSegment = .bytes (camel field.name) 8 := by
      simp [Field.encodeSegment, kept, magic]
    have format : field.format nested = binaryFormat 8 := by simp [Field.format, magic]
    rw [segment, format]
    refine ⟨_, binary_encodes 8, fun found => ?_⟩
    rw [EncodeSegment.eval, Bindings.get_of_eq found]
    rfl
  by_cases isRecord : field.isRecord
  · have encodes := (inner.implements isRecord).toEncodes
    by_cases single : field.count = 1
    · have segment : field.encodeSegment =
          .toBinary (snake field.element) (camel field.name) := by
        simp [Field.encodeSegment, kept, magic, isRecord, single]
      have format : field.format nested = nested (snake field.element) := by
        simp [Field.format, magic, isRecord, single]
      rw [segment, format]
      refine ⟨_, encodes, fun found => ?_⟩
      rw [EncodeSegment.eval, Bindings.get_of_eq found]
      rfl
    · have segment : field.encodeSegment =
          .rows (snake field.element) (camel field.name) field.count := by
        simp [Field.encodeSegment, kept, magic, isRecord, single]
      have format : field.format nested =
          listFormat field.count (nested (snake field.element)) := by
        simp [Field.format, magic, isRecord, single]
      rw [segment, format]
      refine ⟨_, rows_encodes encodes field.count, fun found => ?_⟩
      rw [EncodeSegment.eval, Bindings.get_of_eq found]
      rfl
  by_cases many : field.count > 1
  · by_cases byte : field.elementBits = 8
    · have segment : field.encodeSegment = .bytes (camel field.name) field.count := by
        simp [Field.encodeSegment, kept, magic, isRecord, many, byte]
      have format : field.format nested = binaryFormat field.count := by
        simp [Field.format, magic, isRecord, many, byte]
      rw [segment, format]
      refine ⟨_, binary_encodes field.count, fun found => ?_⟩
      rw [EncodeSegment.eval, Bindings.get_of_eq found]
      rfl
    · have segment : field.encodeSegment =
          .uints (camel field.name) field.count field.elementBits := by
        simp [Field.encodeSegment, kept, magic, isRecord, many, byte]
      have format : field.format nested =
          listFormat field.count (wordFormat (field.size / field.count)) := by
        simp [Field.format, magic, isRecord, many, byte, Field.elementBytes]
      rw [segment, format]
      refine ⟨_, rows_encodes (word_encodes _) field.count, fun found => ?_⟩
      rw [EncodeSegment.eval, Bindings.get_of_eq found]
      exact uints_eq_rows _ _ _
  · have segment : field.encodeSegment = .uint (camel field.name) field.elementBits := by
      simp [Field.encodeSegment, kept, magic, isRecord, many]
    have format : field.format nested = wordFormat (field.size / field.count) := by
      simp [Field.format, magic, isRecord, many, Field.elementBytes]
    rw [segment, format]
    refine ⟨_, word_encodes _, fun found => ?_⟩
    rw [EncodeSegment.eval, Bindings.get_of_eq found]
    rfl

end Fields

/-! ### Record functions -/

section Records

variable {earlier : List Record} {nested : String → WireFormat Term}
  {decode : String → Term → Outcome Term} {encode : String → Term → Outcome Bytes}

/-- The head of a decoder binds every kept field to its bytes, and the entries are what
the record's format unpacks. -/
theorem matchBinary_fields {fields : List Field} (valid : ∀ field ∈ fields, field.Valid earlier)
    (inner : ∀ field ∈ fields, Nested nested decode encode field)
    (vars : ((keptFields fields).map fun field => camel field.name).Nodup) {bytes : Bytes}
    (length : bytes.length = (fields.map Field.size).sum) (bindings : Bindings) :
    ∃ bound, matchBinary bindings (fields.map Field.pattern) bytes = some bound ∧
      (∀ var, var ∉ (keptFields fields).map (fun field => camel field.name) →
        bound var = bindings var) ∧
      ∃ values, (keptFields fields).mapM (fun field => do
          return (field.name, ← field.decodeExpr.eval decode bound)) = .ok values ∧
        mapOf values = WireSlot.unpackAll (fields.map (Field.slot nested)) bytes := by
  induction fields generalizing bytes bindings with
  | nil =>
      obtain rfl := List.length_eq_zero_iff.mp length
      exact ⟨bindings, rfl, fun _ _ => rfl, [], rfl, rfl⟩
  | cons field rest ih =>
      obtain ⟨fieldValid, restValid⟩ := List.forall_mem_cons.mp valid
      obtain ⟨fieldInner, restInner⟩ := List.forall_mem_cons.mp inner
      rw [List.map_cons, List.sum_cons] at length
      have patternSize := fieldValid.pattern_size
      have head : (bytes.take field.size).length = field.size := by rw [List.length_take]; omega
      have tail : (bytes.drop field.size).length = (rest.map Field.size).sum := by
        rw [List.length_drop]; omega
      have step : matchBinary bindings ((field :: rest).map Field.pattern) bytes =
          matchBinary (field.pattern.bind (bytes.take field.size) bindings)
            (rest.map Field.pattern) (bytes.drop field.size) := by
        rw [List.map_cons, matchBinary, patternSize, if_pos (by omega)]
      by_cases reserved : isReserved field.name
      · rw [keptFields_reserved reserved] at vars ⊢
        have unbound : field.pattern.bind (bytes.take field.size) bindings = bindings := by
          simp [Field.pattern, reserved, BinaryPattern.bind]
        have slot : field.slot nested = .gap field.size := if_pos reserved
        obtain ⟨bound, matched, frame, values, evaluated, unpacked⟩ :=
          ih restValid restInner vars tail bindings
        refine ⟨bound, by rw [step, unbound, matched], frame, values, evaluated, ?_⟩
        rw [unpacked, List.map_cons, slot]
        rfl
      · rw [keptFields_kept reserved, List.map_cons, List.nodup_cons] at vars
        obtain ⟨fresh, vars⟩ := vars
        rw [keptFields_kept reserved]
        obtain ⟨bound, matched, frame, values, evaluated, unpacked⟩ :=
          ih restValid restInner vars tail (field.pattern.bind (bytes.take field.size) bindings)
        have here : bound (camel field.name) = some (field.bound (bytes.take field.size)) := by
          rw [frame _ fresh, Field.pattern_bind reserved, Function.update_self]
        have value := fieldValid.decode_eval fieldInner here head
        refine ⟨bound, by rw [step, matched], ?_,
          (field.name, (field.format nested).unpack (bytes.take field.size)) :: values, ?_, ?_⟩
        · intro var absent
          rw [List.map_cons, List.mem_cons, not_or] at absent
          rw [frame var absent.2, Field.pattern_bind reserved,
            Function.update_of_ne absent.1]
        · rw [List.mapM_cons, value, evaluated]
          rfl
        · have slot : field.slot nested = .field field.name (field.format nested) :=
            if_neg reserved
          have absent : field.name ∉ WireSlot.keysOf (rest.map (Field.slot nested)) := by
            rw [keysOf_slots]
            intro member
            obtain ⟨other, kept, same⟩ := List.mem_map.mp member
            exact fresh (List.mem_map.mpr ⟨other, kept, congrArg camel same⟩)
          have size := fieldValid.format_size fieldInner
          funext key
          rw [mapOf, unpacked, List.map_cons, slot, WireSlot.unpackAll, size]
          by_cases same : field.name = key
          · subst same
            rw [WireSlot.unpackAll_of_not_mem absent, if_pos rfl, Function.update_self]
            rfl
          · rw [if_neg same, Function.update_of_ne (Ne.symm same), Option.or_none]

/-- The head of an encoder binds every field to the map's value. -/
theorem matchMap_fields {fields : List Field} {entries : String → Option Term}
    (present : ∀ field ∈ fields, ∃ value, entries field.name = some value)
    (vars : (fields.map fun field => camel field.name).Nodup) :
    ∃ bindings, matchMap entries (fields.map fun field => (field.name, camel field.name)) =
        some bindings ∧
      ∀ field ∈ fields, bindings (camel field.name) = entries field.name := by
  induction fields with
  | nil => exact ⟨_, rfl, fun _ member => absurd member List.not_mem_nil⟩
  | cons field rest ih =>
      obtain ⟨⟨value, found⟩, others⟩ := List.forall_mem_cons.mp present
      rw [List.map_cons, List.nodup_cons] at vars
      obtain ⟨fresh, vars⟩ := vars
      obtain ⟨bindings, matched, bound⟩ := ih others vars
      refine ⟨Function.update bindings (camel field.name) (some value), ?_, ?_⟩
      · rw [List.map_cons, matchMap, found, matched]
        rfl
      · refine List.forall_mem_cons.mpr ⟨?_, fun other member => ?_⟩
        · rw [Function.update_self, found]
        · have differ : camel other.name ≠ camel field.name := fun same =>
            fresh (List.mem_map.mpr ⟨other, member, same⟩)
          rw [Function.update_of_ne differ, bound other member]

/-- The segment of a slot packs the slot or, from a value out of range, refuses. -/
theorem segment_eval {field : Field} (inner : Nested nested decode encode field)
    {entries : String → Option Term} {bindings : Bindings}
    (bound : ¬ isReserved field.name → bindings (camel field.name) = entries field.name) :
    ((field.slot nested).InRange entries →
        field.encodeSegment.eval encode bindings = .ok ((field.slot nested).pack entries)) ∧
      ((field.slot nested).Shaped entries → ¬ (field.slot nested).InRange entries →
        field.encodeSegment.eval encode bindings = .error .badarg) := by
  by_cases reserved : isReserved field.name
  · have slot : field.slot nested = .gap field.size := if_pos reserved
    have segment : field.encodeSegment = .zero (field.size * 8) := by
      simp [Field.encodeSegment, reserved]
    rw [slot, segment, EncodeSegment.eval, Nat.mul_div_cancel _ (by decide)]
    exact ⟨fun _ => rfl, fun _ outside => absurd trivial outside⟩
  · have slot : field.slot nested = .field field.name (field.format nested) := if_neg reserved
    obtain ⟨packed, encodes, evaluated⟩ := Field.encode_eval reserved inner
    rw [slot]
    constructor
    · rintro ⟨value, found, range⟩
      rw [evaluated ((bound reserved).trans found), encodes.packs range, WireSlot.pack, found]
      rfl
    · rintro ⟨value, found, shaped⟩ outside
      rw [evaluated ((bound reserved).trans found)]
      exact encodes.refuses shaped fun range => outside ⟨value, found, range⟩

theorem validateFields_sum {fields : List Field} {nextOffset stop : Nat}
    (contiguous : validateFields nextOffset fields = .ok stop) :
    stop = nextOffset + (fields.map Field.size).sum := by
  induction fields generalizing nextOffset with
  | nil => exact (Except.ok.inj contiguous).symm
  | cons field rest ih =>
      rw [validateFields] at contiguous
      split at contiguous
      · cases contiguous
      split at contiguous
      · cases contiguous
      · rw [ih contiguous, List.map_cons, List.sum_cons, Nat.add_assoc]

theorem Record.Valid.size_eq {record : Record} (valid : record.Valid earlier) :
    (record.fields.map Field.size).sum = record.size := by
  have contiguous := valid.contiguous
  rw [validateRecord] at contiguous
  cases placed : validateFields 0 record.fields with
  | error error =>
      rw [placed] at contiguous
      cases contiguous
  | ok stop =>
      rw [placed, Fallible.ok_bind] at contiguous
      have stopEq := validateFields_sum placed
      by_cases exact : stop = record.size
      · omega
      · rw [if_pos exact] at contiguous
        cases contiguous

/-- The functions of a record implement its format, given those of the records it nests. -/
theorem Record.Valid.implements {record : Record} (valid : record.Valid earlier)
    (inner : ∀ field ∈ record.fields, Nested nested decode encode field) :
    Implements (mapFormat (record.fields.map (Field.slot nested)) (valid.distinct nested))
        ((writeFromBinary record).apply decode) ((writeToBinary record).apply encode) ∧
      (mapFormat (record.fields.map (Field.slot nested)) (valid.distinct nested)).size =
        record.size := by
  have size : WireSlot.totalSize (record.fields.map (Field.slot nested)) =
      (record.fields.map Field.size).sum := by
    rw [WireSlot.totalSize, List.map_map]
    exact congrArg List.sum (List.map_congr_left fun field member =>
      (valid.fields field member).slot_size (inner field member))
  -- A map with every key binds every field, so the segments evaluate one by one.
  have bound : ∀ {entries : String → Option Term},
      (∀ slot ∈ record.fields.map (Field.slot nested), slot.Shaped entries) →
      ∃ bindings, matchMap entries (writeToBinary record).head = some bindings ∧
        ∀ field ∈ record.fields, ¬ isReserved field.name →
          bindings (camel field.name) = entries field.name := by
    intro entries shaped
    have present : ∀ field ∈ record.kept, ∃ value, entries field.name = some value := by
      intro field member
      obtain ⟨member, kept⟩ := List.mem_filter.mp member
      have slot := shaped _ (List.mem_map_of_mem member)
      rw [Field.slot, if_neg (by simpa using kept)] at slot
      obtain ⟨value, found, -⟩ := slot
      exact ⟨value, found⟩
    obtain ⟨bindings, matched, binds⟩ := matchMap_fields present valid.vars
    refine ⟨bindings, matched, fun field member kept => binds field ?_⟩
    exact List.mem_filter.mpr ⟨member, by simpa using kept⟩
  refine ⟨⟨⟨?_, ?_⟩, ?_⟩, size.trans valid.size_eq⟩
  · rintro _ ⟨entries, rfl, range, -⟩
    obtain ⟨bindings, matched, binds⟩ :=
      bound fun slot member => WireSlot.shaped_of_inRange (range slot member)
    have segments : (writeToBinary record).segments.mapM (EncodeSegment.eval encode bindings) =
        .ok (record.fields.map fun field => (field.slot nested).pack entries) := by
      change (record.fields.map Field.encodeSegment).mapM _ = _
      rw [List.mapM_map]
      refine Fallible.mapM_eq_ok_map fun field member => ?_
      exact (segment_eval (inner field member) (binds field member)).1
        (range _ (List.mem_map_of_mem member))
    simp only [ToBinary.apply, matched, segments, Fallible.ok_bind]
    change Except.ok (record.fields.map _).flatten =
      Except.ok ((record.fields.map (Field.slot nested)).flatMap (WireSlot.pack entries))
    rw [List.flatMap_map, List.flatMap]
  · rintro _ ⟨entries, rfl, shaped, exact⟩ outside
    obtain ⟨bindings, matched, binds⟩ := bound shaped
    have failing : ∃ field ∈ record.fields, ¬ (field.slot nested).InRange entries := by
      by_contra all
      push Not at all
      exact outside ⟨entries, rfl, List.forall_mem_map.mpr all, exact⟩
    have segments : (writeToBinary record).segments.mapM (EncodeSegment.eval encode bindings) =
        .error .badarg := by
      change (record.fields.map Field.encodeSegment).mapM _ = _
      rw [List.mapM_map]
      refine Fallible.mapM_eq_error (fun field member => ?_) ?_
      · have evaluated := segment_eval (inner field member) (binds field member)
        by_cases range : (field.slot nested).InRange entries
        · exact .inl ⟨_, evaluated.1 range⟩
        · exact .inr (evaluated.2 (shaped _ (List.mem_map_of_mem member)) range)
      · obtain ⟨field, member, range⟩ := failing
        exact ⟨field, member, (segment_eval (inner field member) (binds field member)).2
          (shaped _ (List.mem_map_of_mem member)) range⟩
    simp only [ToBinary.apply, matched, segments]
    rfl
  · intro bytes length
    obtain ⟨bindings, matched, -, values, evaluated, unpacked⟩ :=
      matchBinary_fields valid.fields inner valid.vars (length.trans size) fun _ => none
    have entries : (writeFromBinary record).entries.mapM (fun entry => do
        return (entry.1, ← entry.2.eval decode bindings)) = .ok values := by
      change (record.kept.map fun field => (field.name, field.decodeExpr)).mapM _ = _
      rw [List.mapM_map]
      exact evaluated
    have head : matchBinary (fun _ => none) (writeFromBinary record).head bytes =
        some bindings := matched
    simp only [FromBinary.apply, head, entries, Fallible.ok_bind]
    exact congrArg (fun entries => Except.ok (Term.map entries)) unpacked

end Records

/-! ### Modules -/

theorem Ordered.eq_of_snake {records : List Record} (ordered : Ordered records)
    {left right : Record} (leftMember : left ∈ records) (rightMember : right ∈ records)
    (same : snake left.name = snake right.name) : left = right := by
  induction records with
  | nil => cases leftMember
  | cons record earlier ih =>
      obtain ⟨-, apart, ordered⟩ := ordered
      rcases List.mem_cons.mp leftMember with rfl | leftEarlier <;>
        rcases List.mem_cons.mp rightMember with rfl | rightEarlier
      · rfl
      · exact absurd same.symm (apart right rightEarlier)
      · exact absurd same (apart left leftEarlier)
      · exact ih ordered leftEarlier rightEarlier

/-- A record's function is the one of its name. -/
theorem find?_written {F : Type} {records : List Record} (ordered : Ordered records.reverse)
    {record : Record} (member : record ∈ records) (write : Record → F) (name : F → String)
    (named : ∀ record, name (write record) = snake record.name) :
    (records.map write).find? (fun function => name function == snake record.name) =
      some (write record) := by
  rw [List.find?_map]
  cases found : records.find? ((fun function => name function == snake record.name) ∘ write) with
  | none =>
      have differ := List.find?_eq_none.mp found record member
      simp [named] at differ
  | some other =>
      have same : snake other.name = snake record.name := by
        have hit := List.find?_some found
        simpa [named] using hit
      have otherMember := List.mem_of_find?_eq_some found
      obtain rfl := ordered.eq_of_snake (List.mem_reverse.mpr otherMember)
        (List.mem_reverse.mpr member) same
      rfl

/-- The functions of a module that has the functions of ordered records implement the
records' formats. -/
theorem module_implements {module : Module} {records : List Record} (ordered : Ordered records)
    (froms : ∀ record ∈ records, module.fromBinaries.find?
      (fun function => function.name == snake record.name) = some (writeFromBinary record))
    (tos : ∀ record ∈ records, module.toBinaries.find?
      (fun function => function.name == snake record.name) = some (writeToBinary record))
    {record : Record} (member : record ∈ records) {depth : Nat}
    (enough : records.length ≤ depth) :
    Implements (formats records ordered (snake record.name))
        (module.fromBinary depth (snake record.name))
        (module.toBinary depth (snake record.name)) ∧
      (formats records ordered (snake record.name)).size = record.size := by
  induction records generalizing record depth with
  | nil => cases member
  | cons latest earlier ih =>
      have ⟨valid, apart, rest⟩ := ordered
      have nested : ∀ {record}, record ∈ earlier → ∀ {depth}, earlier.length ≤ depth → _ :=
        fun member _ enough => ih rest
          (fun record member => froms record (List.mem_cons_of_mem _ member))
          (fun record member => tos record (List.mem_cons_of_mem _ member)) member enough
      rcases List.mem_cons.mp member with rfl | earlierMember
      · obtain ⟨depth, rfl⟩ : ∃ rest, depth = rest + 1 :=
          ⟨depth - 1, by rw [List.length_cons] at enough; omega⟩
        have enough : earlier.length ≤ depth := Nat.le_of_succ_le_succ enough
        have decode : module.fromBinary (depth + 1) (snake record.name) =
            (writeFromBinary record).apply (module.fromBinary depth) := by
          funext argument
          rw [Module.fromBinary, froms record List.mem_cons_self]
        have encode : module.toBinary (depth + 1) (snake record.name) =
            (writeToBinary record).apply (module.toBinary depth) := by
          funext argument
          rw [Module.toBinary, tos record List.mem_cons_self]
        rw [decode, encode, formats_latest ordered]
        refine valid.implements fun field fieldMember => ⟨fun isRecord => ?_, fun isRecord => ?_⟩
        · obtain ⟨inner, innerMember, same, -⟩ := (valid.fields field fieldMember).nested isRecord
          rw [← same]
          exact (nested innerMember enough).1
        · obtain ⟨inner, innerMember, same, size⟩ :=
            (valid.fields field fieldMember).nested isRecord
          rw [← same, ← size]
          exact (nested innerMember enough).2
      · rw [formats_earlier ordered (apart record earlierMember).symm]
        exact nested earlierMember (Nat.le_of_succ_le enough)

/-- The emitted module implements the format of every record of an ordered contract. -/
theorem writeCodec_implements {records : List Record} (ordered : Ordered records.reverse)
    {record : Record} (member : record ∈ records) {depth : Nat}
    (enough : records.length ≤ depth) :
    Implements (formats records.reverse ordered (snake record.name))
        ((writeCodec records).fromBinary depth (snake record.name))
        ((writeCodec records).toBinary depth (snake record.name)) ∧
      (formats records.reverse ordered (snake record.name)).size = record.size := by
  refine module_implements ordered (fun record member => ?_) (fun record member => ?_)
    (List.mem_reverse.mpr member) (by rwa [List.length_reverse])
  · exact find?_written ordered (List.mem_reverse.mp member) writeFromBinary FromBinary.name
      fun _ => rfl
  · exact find?_written ordered (List.mem_reverse.mp member) writeToBinary ToBinary.name
      fun _ => rfl

end Chrysopolis.Codegen
