import Mathlib.Algebra.GroupWithZero.Nat
import Mathlib.Logic.Function.Basic
import Mathlib.Data.List.Nodup
import Mathlib.Data.List.Flatten

/-! Wire formats of fixed size. A format packs every value in range and unpacks every
string of its size, and the two undo each other up to the reserved bytes, which are
packed as zero. Words, byte strings, arrays and records of formats are formats. -/

set_option autoImplicit false

namespace Chrysopolis.Support

abbrev Bytes := List UInt8

/-! ### Little-endian words -/

/-- The low `width` bytes of a number, least first. -/
def leBytes : Nat → Nat → Bytes
  | 0, _ => []
  | width + 1, value => UInt8.ofNat value :: leBytes width (value / 256)

def leNumber : Bytes → Nat
  | [] => 0
  | byte :: rest => byte.toNat + 256 * leNumber rest

@[simp] theorem leBytes_length (width value : Nat) : (leBytes width value).length = width := by
  induction width generalizing value with
  | zero => rfl
  | succ width ih => simp only [leBytes, List.length_cons, ih]

theorem leNumber_lt (bytes : Bytes) : leNumber bytes < 256 ^ bytes.length := by
  induction bytes with
  | nil => simp [leNumber]
  | cons byte rest ih =>
      have low : byte.toNat < 256 := byte.toNat_lt
      simp only [leNumber, List.length_cons, Nat.pow_succ]
      omega

theorem leNumber_leBytes {width value : Nat} (small : value < 256 ^ width) :
    leNumber (leBytes width value) = value := by
  induction width generalizing value with
  | zero => simp only [leBytes, leNumber]; omega
  | succ width ih =>
      have high : value / 256 < 256 ^ width := by
        rw [Nat.pow_succ] at small
        exact Nat.div_lt_of_lt_mul (by omega)
      have low : (UInt8.ofNat value).toNat = value % 256 := rfl
      simp only [leBytes, leNumber, ih high, low]
      omega

theorem leBytes_leNumber (bytes : Bytes) : leBytes bytes.length (leNumber bytes) = bytes := by
  induction bytes with
  | nil => rfl
  | cons byte rest ih =>
      have low : byte.toNat < 256 := byte.toNat_lt
      have high : (byte.toNat + 256 * leNumber rest) / 256 = leNumber rest := by omega
      have byteEq : UInt8.ofNat (byte.toNat + 256 * leNumber rest) = byte := by
        apply UInt8.toNat_inj.mp
        have : (UInt8.ofNat (byte.toNat + 256 * leNumber rest)).toNat =
          (byte.toNat + 256 * leNumber rest) % 256 := rfl
        omega
      simp only [List.length_cons, leBytes, leNumber, high, ih, byteEq]

/-! ### Consecutive pieces of one size -/

/-- The first `count` pieces of `size` bytes. -/
def chunks (size : Nat) : Nat → Bytes → List Bytes
  | 0, _ => []
  | count + 1, bytes => bytes.take size :: chunks size count (bytes.drop size)

@[simp] theorem chunks_length (size count : Nat) (bytes : Bytes) :
    (chunks size count bytes).length = count := by
  induction count generalizing bytes with
  | zero => rfl
  | succ count ih => simp only [chunks, List.length_cons, ih]

theorem length_of_mem_chunks {size count : Nat} {bytes piece : Bytes}
    (length : bytes.length = count * size) (member : piece ∈ chunks size count bytes) :
    piece.length = size := by
  induction count generalizing bytes with
  | zero => cases member
  | succ count ih =>
      rw [Nat.succ_mul] at length
      rcases List.mem_cons.mp member with rfl | later
      · rw [List.length_take]; omega
      · exact ih (by rw [List.length_drop]; omega) later

theorem chunks_flatten {size : Nat} {pieces : List Bytes}
    (sized : ∀ piece ∈ pieces, piece.length = size) :
    chunks size pieces.length pieces.flatten = pieces := by
  induction pieces with
  | nil => rfl
  | cons piece pieces ih =>
      obtain ⟨head, tail⟩ := List.forall_mem_cons.mp sized
      simp only [List.length_cons, List.flatten_cons, chunks, List.take_left' head,
        List.drop_left' head, ih tail]

/-! ### Reserved bytes -/

/-- The bytes with the reserved ones as zero. -/
def zeroed (reserved : List Bool) (bytes : Bytes) : Bytes :=
  List.zipWith (fun skipped byte => if skipped then 0 else byte) reserved bytes

theorem zeroed_append {first : List Bool} (second : List Bool) {bytes : Bytes}
    (length : first.length ≤ bytes.length) :
    zeroed (first ++ second) bytes =
      zeroed first (bytes.take first.length) ++ zeroed second (bytes.drop first.length) := by
  conv_lhs => rw [zeroed, ← List.take_append_drop first.length bytes]
  exact List.zipWith_append (by rw [List.length_take]; omega)

theorem zeroed_replicate_false (bytes : Bytes) :
    zeroed (List.replicate bytes.length false) bytes = bytes := by
  induction bytes with
  | nil => rfl
  | cons byte rest ih =>
      simp only [List.length_cons, List.replicate_succ, zeroed, List.zipWith_cons_cons] at ih ⊢
      rw [ih]
      rfl

theorem zeroed_replicate_true (bytes : Bytes) :
    zeroed (List.replicate bytes.length true) bytes = List.replicate bytes.length 0 := by
  induction bytes with
  | nil => rfl
  | cons byte rest ih =>
      simp only [List.length_cons, List.replicate_succ, zeroed, List.zipWith_cons_cons] at ih ⊢
      rw [ih]
      rfl

/-! ### Formats -/

/-- A format of fixed size with its laws. -/
structure WireFormat (V : Type) where
  size : Nat
  /-- The bytes no field uses. -/
  reserved : List Bool
  InRange : V → Prop
  /-- Values of the right shape, in range or not: a field may be too large but none is missing. -/
  Shaped : V → Prop
  pack : V → Bytes
  unpack : Bytes → V
  reserved_length : reserved.length = size
  shaped_of_inRange : ∀ {value}, InRange value → Shaped value
  pack_length : ∀ {value}, InRange value → (pack value).length = size
  unpack_pack : ∀ {value}, InRange value → unpack (pack value) = value
  inRange_unpack : ∀ {bytes : Bytes}, bytes.length = size → InRange (unpack bytes)
  pack_unpack : ∀ {bytes : Bytes}, bytes.length = size →
    pack (unpack bytes) = zeroed reserved bytes

namespace WireFormat

variable {V W K : Type}

/-- Unsigned little-endian words. -/
def uint (width : Nat) : WireFormat Nat where
  size := width
  reserved := List.replicate width false
  InRange value := value < 256 ^ width
  Shaped _ := True
  pack := leBytes width
  unpack := leNumber
  reserved_length := List.length_replicate
  shaped_of_inRange _ := trivial
  pack_length _ := leBytes_length _ _
  unpack_pack := leNumber_leBytes
  inRange_unpack length := length ▸ leNumber_lt _
  pack_unpack length := by subst length; rw [leBytes_leNumber, zeroed_replicate_false]

/-- Byte strings of one length. -/
def raw (size : Nat) : WireFormat Bytes where
  size
  reserved := List.replicate size false
  InRange bytes := bytes.length = size
  Shaped _ := True
  pack bytes := bytes
  unpack bytes := bytes
  reserved_length := List.length_replicate
  shaped_of_inRange _ := trivial
  pack_length length := length
  unpack_pack _ := rfl
  inRange_unpack length := length
  pack_unpack length := by subst length; rw [zeroed_replicate_false]

/-- Values of a larger type, packed as what they stand for. -/
def embed (format : WireFormat V) (wrap : V → W) (unwrap : W → Option V)
    (unwrap_eq : ∀ {outer inner}, unwrap outer = some inner ↔ outer = wrap inner)
    (Shaped : W → Prop) (shaped_wrap : ∀ {inner}, format.Shaped inner → Shaped (wrap inner)) :
    WireFormat W where
  size := format.size
  reserved := format.reserved
  InRange outer := ∃ inner, outer = wrap inner ∧ format.InRange inner
  Shaped
  pack outer := (unwrap outer).elim [] format.pack
  unpack bytes := wrap (format.unpack bytes)
  reserved_length := format.reserved_length
  shaped_of_inRange := by
    rintro _ ⟨inner, rfl, range⟩
    exact shaped_wrap (format.shaped_of_inRange range)
  pack_length := by
    rintro _ ⟨inner, rfl, range⟩
    rw [unwrap_eq.mpr rfl]
    exact format.pack_length range
  unpack_pack := by
    rintro _ ⟨inner, rfl, range⟩
    rw [unwrap_eq.mpr rfl]
    exact congrArg wrap (format.unpack_pack range)
  inRange_unpack length := ⟨_, rfl, format.inRange_unpack length⟩
  pack_unpack length := by
    rw [unwrap_eq.mpr rfl]
    exact format.pack_unpack length

/-- So many values of one format, back to back. -/
def array (count : Nat) (format : WireFormat V) : WireFormat (List V) where
  size := count * format.size
  reserved := (List.replicate count format.reserved).flatten
  InRange items := items.length = count ∧ ∀ item ∈ items, format.InRange item
  Shaped items := items.length = count → ∀ item ∈ items, format.Shaped item
  pack items := (items.map format.pack).flatten
  unpack bytes := (chunks format.size count bytes).map format.unpack
  reserved_length := by
    simp only [List.length_flatten, List.map_replicate, format.reserved_length,
      List.sum_replicate_nat]
  shaped_of_inRange range _ item member := format.shaped_of_inRange (range.2 item member)
  pack_length := by
    rintro items ⟨rfl, range⟩
    have lengths : items.map (List.length ∘ format.pack) = items.map fun _ => format.size :=
      List.map_congr_left fun item member => format.pack_length (range item member)
    rw [List.length_flatten, List.map_map, lengths, List.map_const', List.sum_replicate_nat]
  unpack_pack := by
    rintro items ⟨rfl, range⟩
    have sized : ∀ piece ∈ items.map format.pack, piece.length = format.size := by
      rw [List.forall_mem_map]
      exact fun item member => format.pack_length (range item member)
    have split := chunks_flatten sized
    rw [List.length_map] at split
    rw [split, List.map_map]
    exact (List.map_congr_left fun item member => format.unpack_pack (range item member)).trans
      (List.map_id _)
  inRange_unpack length := by
    rw [List.length_map, chunks_length]
    refine ⟨rfl, ?_⟩
    rw [List.forall_mem_map]
    exact fun piece member => format.inRange_unpack (length_of_mem_chunks length member)
  pack_unpack := by
    induction count with
    | zero =>
        intro bytes length
        obtain rfl := List.length_eq_zero_iff.mp (length.trans (Nat.zero_mul _))
        rfl
    | succ count ih =>
        intro bytes length
        rw [Nat.succ_mul] at length
        have head : (bytes.take format.size).length = format.size := by
          rw [List.length_take]; omega
        have tail : (bytes.drop format.size).length = count * format.size := by
          rw [List.length_drop]; omega
        rw [List.replicate_succ, List.flatten_cons,
          zeroed_append _ (by rw [format.reserved_length]; omega), format.reserved_length,
          ← format.pack_unpack head, ← ih tail]
        rfl

end WireFormat

/-! ### Records -/

/-- A part of a record: reserved bytes, or a keyed value. -/
inductive WireSlot (K V : Type) where
  | gap (size : Nat)
  | field (key : K) (format : WireFormat V)

namespace WireSlot

variable {K V : Type}

def size : WireSlot K V → Nat
  | gap size => size
  | field _ format => format.size

def keys : WireSlot K V → List K
  | gap _ => []
  | field key _ => [key]

def reserved : WireSlot K V → List Bool
  | gap size => List.replicate size true
  | field _ format => format.reserved

def InRange (entries : K → Option V) : WireSlot K V → Prop
  | gap _ => True
  | field key format => ∃ value, entries key = some value ∧ format.InRange value

def Shaped (entries : K → Option V) : WireSlot K V → Prop
  | gap _ => True
  | field key format => ∃ value, entries key = some value ∧ format.Shaped value

def pack (entries : K → Option V) : WireSlot K V → Bytes
  | gap size => List.replicate size 0
  | field key format => (entries key).elim [] format.pack

/-- The keys of a record's slots, in order. -/
def keysOf (slots : List (WireSlot K V)) : List K := slots.flatMap keys

def totalSize (slots : List (WireSlot K V)) : Nat := (slots.map size).sum

def reservedOf (slots : List (WireSlot K V)) : List Bool := slots.flatMap reserved

def packAll (slots : List (WireSlot K V)) (entries : K → Option V) : Bytes :=
  slots.flatMap (pack entries)

def unpackAll [DecidableEq K] : List (WireSlot K V) → Bytes → K → Option V
  | [], _ => fun _ => none
  | gap size :: rest, bytes => unpackAll rest (bytes.drop size)
  | field key format :: rest, bytes =>
      Function.update (unpackAll rest (bytes.drop format.size)) key
        (some (format.unpack (bytes.take format.size)))

theorem reserved_length (slot : WireSlot K V) : slot.reserved.length = slot.size := by
  cases slot with
  | gap size => exact List.length_replicate
  | field key format => exact format.reserved_length

theorem reservedOf_length (slots : List (WireSlot K V)) :
    (reservedOf slots).length = totalSize slots := by
  rw [reservedOf, List.length_flatMap, totalSize,
    List.map_congr_left fun slot _ => slot.reserved_length]

theorem shaped_of_inRange {slot : WireSlot K V} {entries : K → Option V}
    (range : slot.InRange entries) : slot.Shaped entries := by
  cases slot with
  | gap size => trivial
  | field key format =>
      obtain ⟨value, found, range⟩ := range
      exact ⟨value, found, format.shaped_of_inRange range⟩

theorem pack_length {slot : WireSlot K V} {entries : K → Option V}
    (range : slot.InRange entries) : (slot.pack entries).length = slot.size := by
  cases slot with
  | gap size => exact List.length_replicate
  | field key format =>
      obtain ⟨value, found, range⟩ := range
      rw [pack, found]
      exact format.pack_length range

theorem pack_congr {slot : WireSlot K V} {left right : K → Option V}
    (same : ∀ key ∈ slot.keys, left key = right key) : slot.pack left = slot.pack right := by
  cases slot with
  | gap size => rfl
  | field key format => rw [pack, pack, same key List.mem_cons_self]

theorem inRange_congr {slot : WireSlot K V} {left right : K → Option V}
    (same : ∀ key ∈ slot.keys, left key = right key) :
    slot.InRange left ↔ slot.InRange right := by
  cases slot with
  | gap size => rfl
  | field key format => rw [InRange, InRange, same key List.mem_cons_self]

theorem packAll_congr {slots : List (WireSlot K V)} {left right : K → Option V}
    (same : ∀ key ∈ keysOf slots, left key = right key) :
    packAll slots left = packAll slots right :=
  List.flatMap_congr fun _ member =>
    pack_congr fun key inside => same key (List.mem_flatMap.mpr ⟨_, member, inside⟩)

variable [DecidableEq K]

theorem unpackAll_of_not_mem {slots : List (WireSlot K V)} {bytes : Bytes} {key : K}
    (absent : key ∉ keysOf slots) : unpackAll slots bytes key = none := by
  induction slots generalizing bytes with
  | nil => rfl
  | cons slot rest ih =>
      rw [keysOf, List.flatMap_cons, List.mem_append, not_or] at absent
      cases slot with
      | gap size => exact ih absent.2
      | field other format =>
          have differ : key ≠ other := fun same => absent.1 (by simp [keys, same])
          rw [unpackAll, Function.update_of_ne differ]
          exact ih absent.2

/-- Unpacking a packed record gives back the entries the slots name. -/
theorem unpackAll_packAll {slots : List (WireSlot K V)} {entries : K → Option V}
    (range : ∀ slot ∈ slots, slot.InRange entries) {key : K} (member : key ∈ keysOf slots) :
    unpackAll slots (packAll slots entries) key = entries key := by
  induction slots with
  | nil => cases member
  | cons slot rest ih =>
      obtain ⟨head, tail⟩ := List.forall_mem_cons.mp range
      rw [packAll, List.flatMap_cons]
      rw [keysOf, List.flatMap_cons, List.mem_append] at member
      cases slot with
      | gap size =>
          have length : (pack entries (gap size)).length = size := pack_length head
          rw [unpackAll, List.drop_left' length]
          exact ih tail (member.resolve_left List.not_mem_nil)
      | field other format =>
          have length : (pack entries (field other format)).length = format.size :=
            pack_length head
          rw [unpackAll, List.drop_left' length, List.take_left' length]
          by_cases same : key = other
          · subst same
            obtain ⟨value, found, range⟩ := head
            rw [Function.update_self, pack, found]
            exact congrArg some (format.unpack_pack range)
          · rw [Function.update_of_ne same]
            refine ih tail (member.resolve_left fun here => same ?_)
            exact List.mem_singleton.mp here

/-- What a string of the record's size unpacks to is in range, and packs back to the
string with its reserved bytes as zero. -/
theorem unpackAll_spec {slots : List (WireSlot K V)} (distinct : (keysOf slots).Nodup)
    {bytes : Bytes} (length : bytes.length = totalSize slots) :
    (∀ slot ∈ slots, slot.InRange (unpackAll slots bytes)) ∧
      packAll slots (unpackAll slots bytes) = zeroed (reservedOf slots) bytes := by
  induction slots generalizing bytes with
  | nil => exact ⟨fun _ member => absurd member List.not_mem_nil, rfl⟩
  | cons slot rest ih =>
      rw [keysOf, List.flatMap_cons, List.nodup_append] at distinct
      obtain ⟨-, distinct, apart⟩ := distinct
      rw [totalSize, List.map_cons, List.sum_cons] at length
      have tail : (bytes.drop slot.size).length = totalSize rest := by
        rw [List.length_drop, totalSize]; omega
      have head : (bytes.take slot.size).length = slot.size := by
        rw [List.length_take]; omega
      have split : zeroed (reservedOf (slot :: rest)) bytes =
          zeroed slot.reserved (bytes.take slot.size) ++
            zeroed (reservedOf rest) (bytes.drop slot.size) := by
        rw [reservedOf, List.flatMap_cons, zeroed_append _ (by rw [reserved_length]; omega),
          reserved_length]
        rfl
      obtain ⟨range, packed⟩ := ih distinct tail
      rw [split, ← packed]
      cases slot with
      | gap size =>
          refine ⟨List.forall_mem_cons.mpr ⟨trivial, range⟩, ?_⟩
          have zero := zeroed_replicate_true (bytes.take size)
          rw [show (bytes.take size).length = size from head] at zero
          exact congrArg (· ++ _) zero.symm
      | field key format =>
          -- The keys are distinct, so the rest does not see this field.
          have same : ∀ other ∈ keysOf rest,
              unpackAll (field key format :: rest) bytes other =
                unpackAll rest (bytes.drop format.size) other := by
            intro other member
            have differ : other ≠ key := (apart key List.mem_cons_self other member).symm
            rw [unpackAll, Function.update_of_ne differ]
          have here : unpackAll (field key format :: rest) bytes key =
              some (format.unpack (bytes.take format.size)) := Function.update_self ..
          refine ⟨List.forall_mem_cons.mpr ⟨⟨_, here, format.inRange_unpack head⟩, ?_⟩, ?_⟩
          · intro other member
            refine (inRange_congr fun inner inside => ?_).mpr (range other member)
            exact same inner (List.mem_flatMap.mpr ⟨other, member, inside⟩)
          · rw [packAll, List.flatMap_cons, pack, here]
            exact congrArg₂ (· ++ ·) (format.pack_unpack head) (packAll_congr same)

end WireSlot

/-- Maps with exactly the slots' keys, packed in the slots' order. -/
def WireFormat.record {K V : Type} [DecidableEq K] (slots : List (WireSlot K V))
    (distinct : (WireSlot.keysOf slots).Nodup) : WireFormat (K → Option V) where
  size := WireSlot.totalSize slots
  reserved := WireSlot.reservedOf slots
  InRange entries := (∀ slot ∈ slots, slot.InRange entries) ∧
    ∀ key, key ∉ WireSlot.keysOf slots → entries key = none
  Shaped entries := (∀ slot ∈ slots, slot.Shaped entries) ∧
    ∀ key, key ∉ WireSlot.keysOf slots → entries key = none
  pack := WireSlot.packAll slots
  unpack := WireSlot.unpackAll slots
  reserved_length := WireSlot.reservedOf_length slots
  shaped_of_inRange range :=
    ⟨fun slot member => WireSlot.shaped_of_inRange (range.1 slot member), range.2⟩
  pack_length range := by
    rw [WireSlot.packAll, List.length_flatMap, WireSlot.totalSize,
      List.map_congr_left fun slot member => WireSlot.pack_length (range.1 slot member)]
  unpack_pack := by
    intro entries range
    funext key
    by_cases member : key ∈ WireSlot.keysOf slots
    · exact WireSlot.unpackAll_packAll range.1 member
    · rw [WireSlot.unpackAll_of_not_mem member, range.2 key member]
  inRange_unpack length :=
    ⟨(WireSlot.unpackAll_spec distinct length).1,
      fun _ absent => WireSlot.unpackAll_of_not_mem absent⟩
  pack_unpack length := (WireSlot.unpackAll_spec distinct length).2

end Chrysopolis.Support
