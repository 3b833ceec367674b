import Chrysopolis.Codegen.LayoutDigest
import Chrysopolis.Support.PrefixCode

/-! The canonical bytes of a description tell everything of it that reaches the wire. -/

set_option autoImplicit false

namespace Chrysopolis.Codegen.Layout

open Chrysopolis.Support
open Chrysopolis.Support.PrefixCode
open Chrysopolis.Abi

/-! ## Canonical bytes -/

def textWord (bytes : Bytes) : Bytes := bytes ++ [0]

def numberWord (value : UInt64) : Bytes := leBytes 8 value.toNat

def sliceWord {α : Type} (word : α → Bytes) (slice : Slice α) : Bytes :=
  numberWord slice.len ++ slice.items.flatMap word

def Magic.word (magic : Magic) : Bytes := textWord magic.name ++ numberWord magic.value

def Field.word (field : Field) : Bytes :=
  textWord field.name ++ (numberWord field.offset ++ (numberWord field.size ++
    (textWord field.element ++ numberWord field.count)))

def Record.word (record : Record) : Bytes :=
  textWord record.name ++ (numberWord record.size ++ (numberWord record.alignment ++
    sliceWord Field.word record.fields))

def EnumValue.word (item : EnumValue) : Bytes := textWord item.name ++ numberWord item.value

def Enum.word (enumeration : Enum) : Bytes :=
  textWord enumeration.name ++ (numberWord enumeration.width ++
    sliceWord EnumValue.word enumeration.values)

def Transition.word (transition : Transition) : Bytes :=
  textWord transition.«from» ++ (textWord transition.«to» ++ textWord transition.event)

def AtomicField.word (atomic : AtomicField) : Bytes :=
  textWord atomic.record ++ (textWord atomic.field ++ numberWord atomic.width.toUInt64)

def Constants.word (constants : Constants) : Bytes := constants.fields.flatMap numberWord

def Description.word (value : Description) : Bytes :=
  numberWord value.abiVersion.toUInt64 ++ (value.constants.word ++
    (sliceWord Magic.word value.magics ++ (sliceWord Record.word value.records ++
      (sliceWord Enum.word value.enums ++ (sliceWord Transition.word value.transitions ++
        sliceWord AtomicField.word value.atomicFields)))))

section

variable {σ : Type} {update : σ → Bytes → σ}

/-- A hasher that is fed piece by piece as it is fed at once. -/
def Chunked (update : σ → Bytes → σ) : Prop :=
  ∀ digest first second, update (update digest first) second = update digest (first ++ second)

variable (chunked : Chunked update)

include chunked

theorem text_eq (digest : σ) (bytes : Bytes) :
    text update digest bytes = update digest (textWord bytes) := chunked digest bytes [0]

omit chunked in
theorem number_eq (digest : σ) (value : UInt64) :
    number update digest value = update digest (numberWord value) := rfl

/-- A loop over items feeds their words. -/
theorem foldl_eq {α : Type} {feed : σ → α → σ} {word : α → Bytes}
    (one : ∀ digest item, feed digest item = update digest (word item)) (items : List α)
    (before : Bytes) (digest : σ) :
    items.foldl feed (update digest before) = update digest (before ++ items.flatMap word) := by
  induction items generalizing before with
  | nil => rw [List.foldl_nil, List.flatMap_nil, List.append_nil]
  | cons item items ih =>
      rw [List.foldl_cons, one, chunked, ih, List.flatMap_cons, List.append_assoc]

theorem feedMagic_eq (digest : σ) (magic : Magic) :
    feedMagic update digest magic = update digest magic.word := by
  rw [feedMagic, text_eq chunked, number_eq, chunked, Magic.word]

theorem feedField_eq (digest : σ) (field : Field) :
    feedField update digest field = update digest field.word := by
  simp only [feedField, text_eq chunked, number_eq, chunked _ _ _, Field.word, List.append_assoc]

theorem feedRecord_eq (digest : σ) (record : Record) :
    feedRecord update digest record = update digest record.word := by
  simp only [feedRecord, text_eq chunked, number_eq, chunked _ _ _,
    foldl_eq chunked (feedField_eq chunked), Record.word, sliceWord, List.append_assoc]

theorem feedEnumValue_eq (digest : σ) (item : EnumValue) :
    feedEnumValue update digest item = update digest item.word := by
  rw [feedEnumValue, text_eq chunked, number_eq, chunked, EnumValue.word]

theorem feedEnum_eq (digest : σ) (enumeration : Enum) :
    feedEnum update digest enumeration = update digest enumeration.word := by
  simp only [feedEnum, text_eq chunked, number_eq, chunked _ _ _,
    foldl_eq chunked (feedEnumValue_eq chunked), Enum.word, sliceWord, List.append_assoc]

theorem feedTransition_eq (digest : σ) (transition : Transition) :
    feedTransition update digest transition = update digest transition.word := by
  simp only [feedTransition, text_eq chunked, chunked _ _ _, Transition.word, List.append_assoc]

theorem feedAtomicField_eq (digest : σ) (atomic : AtomicField) :
    feedAtomicField update digest atomic = update digest atomic.word := by
  simp only [feedAtomicField, text_eq chunked, number_eq, chunked _ _ _, AtomicField.word,
    List.append_assoc]

theorem feedDescription_eq (digest : σ) (value : Description) :
    feedDescription update digest value = update digest value.word := by
  simp only [feedDescription, number_eq, foldl_eq chunked number_eq, chunked _ _ _,
    foldl_eq chunked (feedMagic_eq chunked), foldl_eq chunked (feedRecord_eq chunked),
    foldl_eq chunked (feedEnum_eq chunked), foldl_eq chunked (feedTransition_eq chunked),
    foldl_eq chunked (feedAtomicField_eq chunked), Description.word, Constants.word, sliceWord,
    List.append_assoc]

end

theorem canonical_eq (value : Description) : canonical value = value.word :=
  (feedDescription_eq (fun _ _ _ => List.append_assoc ..) [] value).trans (List.nil_append _)

/-- The digest is the checksum of the canonical bytes. -/
theorem layoutDigest_eq (value : Description) :
    layoutDigest value = crc32Final (crcFeed 0xFFFFFFFF (canonical value)) := by
  have chunked : Chunked crcFeed := fun crc first second =>
    (crcFeed_append crc first second).symm
  rw [layoutDigest, feedDescription_eq chunked, canonical_eq]

/-! ## What the words tell -/

theorem numberWord_injective {first second : UInt64} (same : numberWord first = numberWord second) :
    first = second := by
  have small (value : UInt64) : value.toNat < 256 ^ 8 := value.toNat_lt
  have numbers := congrArg leNumber same
  rw [numberWord, numberWord, leNumber_leBytes (small first), leNumber_leBytes (small second)]
    at numbers
  exact UInt64.toNat_inj.mp numbers

theorem numberCode : Unambiguous (fun _ => True) numberWord id :=
  of_length (fun _ => leBytes_length ..) fun _ _ _ _ => numberWord_injective

theorem textCode : Unambiguous (0 ∉ ·) textWord id := terminated 0

/-- The length in front of a slice. -/
theorem lengthCode :
    Unambiguous (· < 2 ^ 64) (fun length : Nat => numberWord (UInt64.ofNat length)) id :=
  of_length (fun _ => leBytes_length ..) fun first second firstFits secondFits same => by
    have numbers := congrArg UInt64.toNat (numberWord_injective same)
    rwa [UInt64.toNat_ofNat_of_lt' firstFits, UInt64.toNat_ofNat_of_lt' secondFits] at numbers

theorem sliceCode {α γ : Type} {valid : α → Prop} {word : α → Bytes} {view : α → γ}
    (code : Unambiguous valid word view) :
    Unambiguous (fun slice : Slice α => ∀ item ∈ slice.items, valid item) (sliceWord word)
      fun slice => slice.items.map view :=
  ((lengthCode.counted code).comap Slice.items).mono fun slice items => ⟨slice.fits, items⟩

/-! ### The parts of a description -/

def Magic.NulFree (magic : Magic) : Prop := 0 ∉ magic.name

def Field.NulFree (field : Field) : Prop := 0 ∉ field.name ∧ 0 ∉ field.element

def Record.NulFree (record : Record) : Prop :=
  0 ∉ record.name ∧ ∀ field ∈ record.fields.items, field.NulFree

def EnumValue.NulFree (item : EnumValue) : Prop := 0 ∉ item.name

def Enum.NulFree (enumeration : Enum) : Prop :=
  0 ∉ enumeration.name ∧ ∀ item ∈ enumeration.values.items, item.NulFree

def Transition.NulFree (transition : Transition) : Prop :=
  0 ∉ transition.«from» ∧ 0 ∉ transition.«to» ∧ 0 ∉ transition.event

def AtomicField.NulFree (atomic : AtomicField) : Prop := 0 ∉ atomic.record ∧ 0 ∉ atomic.field

/-- No name of the description has a NUL. -/
structure Description.NulFree (value : Description) : Prop where
  magics : ∀ magic ∈ value.magics.items, magic.NulFree
  records : ∀ record ∈ value.records.items, record.NulFree
  enums : ∀ enumeration ∈ value.enums.items, enumeration.NulFree
  transitions : ∀ transition ∈ value.transitions.items, transition.NulFree
  atomicFields : ∀ atomic ∈ value.atomicFields.items, atomic.NulFree

def Magic.layout (magic : Magic) : Bytes × UInt64 := (magic.name, magic.value)

def Field.layout (field : Field) : Bytes × UInt64 × UInt64 × Bytes × UInt64 :=
  (field.name, field.offset, field.size, field.element, field.count)

def Record.layout (record : Record) :
    Bytes × UInt64 × UInt64 × List (Bytes × UInt64 × UInt64 × Bytes × UInt64) :=
  (record.name, record.size, record.alignment, record.fields.items.map Field.layout)

def Enum.layout (enumeration : Enum) : Bytes × UInt64 × List EnumValue :=
  (enumeration.name, enumeration.width, enumeration.values.items)

theorem magicCode : Unambiguous Magic.NulFree Magic.word Magic.layout :=
  ((textCode.comap Magic.name).append (numberCode.comap Magic.value)).mono
    fun _ free => ⟨free, trivial⟩

theorem fieldCode : Unambiguous Field.NulFree Field.word Field.layout :=
  ((textCode.comap Field.name).append ((numberCode.comap Field.offset).append
    ((numberCode.comap Field.size).append ((textCode.comap Field.element).append
      (numberCode.comap Field.count))))).mono
    fun _ free => ⟨free.1, trivial, trivial, free.2, trivial⟩

theorem recordCode : Unambiguous Record.NulFree Record.word Record.layout :=
  ((textCode.comap Record.name).append ((numberCode.comap Record.size).append
    ((numberCode.comap Record.alignment).append
      ((sliceCode fieldCode).comap Record.fields)))).mono
    fun _ free => ⟨free.1, trivial, trivial, free.2⟩

theorem enumValueCode : Unambiguous EnumValue.NulFree EnumValue.word id :=
  (((textCode.comap EnumValue.name).append (numberCode.comap EnumValue.value)).map
    fun view => EnumValue.mk view.1 view.2).mono fun _ free => ⟨free, trivial⟩

theorem enumCode : Unambiguous Enum.NulFree Enum.word Enum.layout := by
  have values : Unambiguous (fun slice : Slice EnumValue => ∀ item ∈ slice.items, item.NulFree)
      (sliceWord EnumValue.word) Slice.items := by
    have code := sliceCode enumValueCode
    simp only [List.map_id] at code
    exact code
  exact ((textCode.comap Enum.name).append ((numberCode.comap Enum.width).append
    (values.comap Enum.values))).mono fun _ free => ⟨free.1, trivial, free.2⟩

theorem transitionCode : Unambiguous Transition.NulFree Transition.word id :=
  ((textCode.comap Transition.«from»).append ((textCode.comap Transition.«to»).append
    (textCode.comap Transition.event))).map fun view => Transition.mk view.1 view.2.1 view.2.2

theorem atomicFieldCode : Unambiguous AtomicField.NulFree AtomicField.word id := by
  have widths :
      Unambiguous (fun _ : UInt8 => True) (fun width => numberWord width.toUInt64) id := by
    have code := (numberCode.comap UInt8.toUInt64).map UInt64.toUInt8
    simp only [id, UInt8.toUInt8_toUInt64] at code
    exact code
  exact (((textCode.comap AtomicField.record).append ((textCode.comap AtomicField.field).append
    (widths.comap AtomicField.width))).map
      fun view => AtomicField.mk view.1 view.2.1 view.2.2).mono
    fun _ free => ⟨free.1, free.2, trivial⟩

theorem fields_injective {first second : Constants} (same : first.fields = second.fields) :
    first = second := by
  simp only [Constants.fields, List.cons.injEq, UInt8.toUInt64_inj, UInt16.toUInt64_inj,
    and_true] at same
  obtain ⟨children, events, capacity, payload, noChild, mr0, mr1, down⟩ := same
  cases first
  cases second
  simp_all

theorem constantsCode : Unambiguous (fun _ => True) Constants.word id := by
  intro first second _ _ rest rest' same
  have words : first.fields.flatMap numberWord ++ rest =
      second.fields.flatMap numberWord ++ rest' := same
  have lengths : first.fields.length = second.fields.length := rfl
  obtain ⟨fields, rests⟩ :=
    numberCode.flatMap (fun _ _ => trivial) (fun _ _ => trivial) lengths words
  rw [List.map_id, List.map_id] at fields
  exact ⟨fields_injective fields, rests⟩

/-! ## Descriptions -/

/-- Two descriptions say the same of the wire. -/
structure Agree (first second : Description) : Prop where
  abiVersion : first.abiVersion = second.abiVersion
  constants : first.constants = second.constants
  magics : first.magics.items.map Magic.layout = second.magics.items.map Magic.layout
  records : first.records.items.map Record.layout = second.records.items.map Record.layout
  enums : first.enums.items.map Enum.layout = second.enums.items.map Enum.layout
  transitions : first.transitions.items = second.transitions.items
  atomicFields : first.atomicFields.items = second.atomicFields.items

/-- Descriptions with the same canonical bytes agree. -/
theorem canonical_agree {first second : Description} (firstFree : first.NulFree)
    (secondFree : second.NulFree) (same : canonical first = canonical second) :
    Agree first second := by
  have code := (numberCode.comap fun value : Description => value.abiVersion.toUInt64).append
    ((constantsCode.comap Description.constants).append
      (((sliceCode magicCode).comap Description.magics).append
        (((sliceCode recordCode).comap Description.records).append
          (((sliceCode enumCode).comap Description.enums).append
            (((sliceCode transitionCode).comap Description.transitions).append
              ((sliceCode atomicFieldCode).comap Description.atomicFields))))))
  have valid (value : Description) (free : value.NulFree) :=
    And.intro trivial (And.intro trivial (And.intro free.magics (And.intro free.records
      (And.intro free.enums (And.intro free.transitions free.atomicFields)))))
  rw [canonical_eq, canonical_eq] at same
  have views := code.view_eq (valid first firstFree) (valid second secondFree) same
  simp only [Prod.mk.injEq, List.map_id, id, UInt32.toUInt64_inj] at views
  obtain ⟨version, constants, magics, records, enums, transitions, atomics⟩ := views
  exact ⟨version, constants, magics, records, enums, transitions, atomics⟩

def sampleField (type : Bytes) : Field :=
  { name := [0x66], offset := 0, size := 4, type, element := [0x75], count := 1, isRecord := false }

def sampleRecord (type : Bytes) : Record :=
  { name := [0x52], size := 4, alignment := 4, fields := ⟨[sampleField type], by simp⟩ }

def sampleEnum (wire : Bool) : Enum :=
  { name := [0x45], width := 1, wire
    values := ⟨[{ name := [0x61], value := 0 }], by decide⟩ }

/-- One item of each kind; the digest reads no type text, magic bytes or `wire`. -/
def sample (wire : Bool) (type bytes : Bytes) : Description where
  abiVersion := 1
  magics := ⟨[{ name := [0x6D], bytes, value := 7 }], by simp⟩
  constants :=
    { childCount := 62, eventCount := 128, journalCapacity := 15, journalPayloadSize := 192
      rootEventNoChild := 255, faultMr0Valid := 1, faultMr1Valid := 2, downIntervalOpen := 4 }
  records := ⟨[sampleRecord type], by simp⟩
  enums := ⟨[sampleEnum wire], by simp⟩
  transitions := ⟨[{ «from» := [0x61], «to» := [0x62], event := [0x63] }], by decide⟩
  atomicFields := ⟨[{ record := [0x52], field := [0x66], width := 4 }], by decide⟩

theorem canonical_agree_sample :
    Agree (sample true [0x75] [0x4D]) (sample false [] []) := by
  have free (wire : Bool) (type bytes : Bytes) : (sample wire type bytes).NulFree := by
    constructor <;> simp [sample, sampleRecord, sampleField, sampleEnum, Magic.NulFree,
      Record.NulFree, Field.NulFree, Enum.NulFree, EnumValue.NulFree, Transition.NulFree,
      AtomicField.NulFree]
  exact canonical_agree (free _ _ _) (free _ _ _) (by rfl)

end Chrysopolis.Codegen.Layout
