import Chrysopolis.Framing.Encode
import Chrysopolis.Support.Fallible

/-! What the encoder accepts and what it then prints: an accepted record is
one marker, one body of known width free of `@`, and the closing bytes. -/

set_option autoImplicit false

namespace Chrysopolis.Framing

open Chrysopolis.Support

variable (format : Term → Bytes)

/-! ## The text of a record -/

/-- An atom that is a field key of a probe. -/
def ValidKey (atom : Atom) : Prop :=
  atom ∉ reserved ∧ isName (atomToBinary atom) = true

instance (atom : Atom) : Decidable (ValidKey atom) :=
  inferInstanceAs (Decidable (atom ∉ reserved ∧ isName (atomToBinary atom) = true))

/-- The names of a record are well formed. -/
structure ValidRecord (record : Record) : Prop where
  kind : isName (atomToBinary record.kind) = true
  keys : ∀ field ∈ record.fields, ValidKey field.1

instance (record : Record) : Decidable (ValidRecord record) :=
  decidable_of_iff
    (isName (atomToBinary record.kind) = true ∧ ∀ field ∈ record.fields, ValidKey field.1)
    ⟨fun facts => ⟨facts.1, facts.2⟩, fun valid => ⟨valid.kind, valid.keys⟩⟩

/-- One field as it stands in a frame, after its separator. -/
def fieldBytes (field : Atom × Term) : Bytes :=
  atomToBinary field.1 ++ EQUALS :: escape (render format field.2)

/-- The parts of a body between its separators, from the record number on. -/
def parts (n : Nat) (record : Record) : List Bytes :=
  (ascii "n=" ++ Decimal.write n) :: (ascii "k=" ++ atomToBinary record.kind) ::
    record.fields.map (fieldBytes format)

/-- The body of a valid record up to its length. -/
def leadBytes (runText : Bytes) (n : Nat) (record : Record) : Bytes :=
  runText ++ (parts format n record).flatMap (BAR :: ·)

/-- A frame as it is printed. -/
def frameBytes (runText : Bytes) (n : Nat) (record : Record) : Bytes :=
  MARKER ++ sealed (leadBytes format runText n record) ++ ascii "@@\n"

/-- The encoder frames the record. -/
structure Accepted (runText : Bytes) (n : Nat) (record : Record) : Prop where
  valid : ValidRecord record
  fits : (sealed (leadBytes format runText n record)).length ≤ MAX_BODY

theorem name_eq_ok_iff {atom : Atom} {text : Bytes} :
    name atom = .ok text ↔ isName (atomToBinary atom) = true ∧ text = atomToBinary atom := by
  rw [name]
  by_cases valid : isName (atomToBinary atom) = true
  · simp [valid, eq_comm]
  · simp [valid]

theorem key_eq_ok_iff {atom : Atom} {text : Bytes} :
    key atom = .ok text ↔ ValidKey atom ∧ text = atomToBinary atom := by
  rw [key, ValidKey]
  by_cases taken : atom ∈ reserved
  · simp [taken]
  · simp [taken, name_eq_ok_iff]

theorem fieldText_eq_ok_iff {field : Atom × Term} {text : Bytes} :
    fieldText format field = .ok text ↔
      ValidKey field.1 ∧ text = BAR :: fieldBytes format field := by
  simp only [fieldText, Fallible.bind_eq_ok_iff, Fallible.pure_eq_ok_iff, key_eq_ok_iff]
  constructor
  · rintro ⟨keyText, ⟨valid, rfl⟩, rfl⟩
    exact ⟨valid, rfl⟩
  · rintro ⟨valid, rfl⟩
    exact ⟨_, ⟨valid, rfl⟩, rfl⟩

theorem fieldTexts_eq_ok_iff {fields : List (Atom × Term)} {texts : List Bytes} :
    fields.mapM (fieldText format) = .ok texts ↔
      (∀ field ∈ fields, ValidKey field.1) ∧
        texts = fields.map fun field => BAR :: fieldBytes format field :=
  Fallible.mapM_eq_ok_iff_map fun _ _ => fieldText_eq_ok_iff format

/-- The body as the source concatenates it. -/
theorem leadBytes_eq (runText : Bytes) (n : Nat) (record : Record) :
    leadBytes format runText n record =
      runText ++ ascii "|n=" ++ Decimal.write n ++ ascii "|k=" ++ atomToBinary record.kind ++
        (record.fields.map fun field => BAR :: fieldBytes format field).flatten := by
  have first : ascii "|n=" = BAR :: ascii "n=" := by decide
  have second : ascii "|k=" = BAR :: ascii "k=" := by decide
  simp [leadBytes, parts, first, second, List.flatMap_def, List.map_map, Function.comp_def]

theorem bodyPrefix_eq_ok_iff {runText : Bytes} {n : Nat} {record : Record} {lead : Bytes} :
    bodyPrefix format runText n record = .ok lead ↔
      ValidRecord record ∧ lead = leadBytes format runText n record := by
  simp only [bodyPrefix, Fallible.bind_eq_ok_iff, Fallible.pure_eq_ok_iff, name_eq_ok_iff,
    fieldTexts_eq_ok_iff, leadBytes_eq]
  constructor
  · rintro ⟨kindText, ⟨kindValid, rfl⟩, texts, ⟨keysValid, rfl⟩, rfl⟩
    exact ⟨⟨kindValid, keysValid⟩, rfl⟩
  · rintro ⟨valid, rfl⟩
    exact ⟨_, ⟨valid.kind, rfl⟩, _, ⟨valid.keys, rfl⟩, rfl⟩

theorem frame_eq_ok_iff {runText : Bytes} {n : Nat} {record : Record} {bytes : Bytes} :
    frame format runText n record = .ok bytes ↔
      Accepted format runText n record ∧ bytes = frameBytes format runText n record := by
  simp only [frame, Fallible.bind_eq_ok_iff, bodyPrefix_eq_ok_iff]
  constructor
  · rintro ⟨lead, ⟨valid, rfl⟩, printed⟩
    by_cases fits : (sealed (leadBytes format runText n record)).length ≤ MAX_BODY
    · rw [if_pos fits, Fallible.pure_eq_ok_iff] at printed
      exact ⟨⟨valid, fits⟩, printed⟩
    · rw [if_neg fits] at printed
      cases printed
  · rintro ⟨accepted, rfl⟩
    refine ⟨_, ⟨accepted.valid, rfl⟩, ?_⟩
    rw [if_pos accepted.fits]
    rfl

/-- The bytes of a run name, well formed or not. -/
def RunName.bytes : RunName → Bytes
  | .binary bytes => bytes
  | .string characters => charactersToBinary characters

theorem run_eq_ok_iff {runName : RunName} {runText : Bytes} :
    run runName = .ok runText ↔ isRun runName.bytes = true ∧ runText = runName.bytes := by
  have checked : run runName =
      if isRun runName.bytes then .ok runName.bytes else .error (.badRunName runName.bytes) := by
    cases runName <;> rfl
  rw [checked]
  by_cases valid : isRun runName.bytes = true
  · simp [valid, eq_comm]
  · simp [valid]

/-- The records of a run with their numbers, the verdict last. -/
def numbered (records : List Record) (unexpected : Nat) : List (Record × Nat) :=
  (records ++ [verdictRecord records.length unexpected]).zipIdx

/-- What the encoder accepts, and what it prints then. -/
theorem encodeRun_eq_ok_iff {runName : RunName} {records : List Record} {unexpected : Nat}
    {frames : List Bytes} :
    encodeRun format runName records unexpected = .ok frames ↔
      isRun runName.bytes = true ∧
        (∀ entry ∈ numbered records unexpected,
          Accepted format runName.bytes entry.2 entry.1) ∧
        frames = (numbered records unexpected).map fun entry =>
          frameBytes format runName.bytes entry.2 entry.1 := by
  have traversal : ∀ runText, (numbered records unexpected).mapM
      (fun entry => frame format runText entry.2 entry.1) = .ok frames ↔ _ :=
    fun runText => Fallible.mapM_eq_ok_iff_map fun entry _ =>
      @frame_eq_ok_iff format runText entry.2 entry.1 _
  simp only [encodeRun, Fallible.bind_eq_ok_iff, run_eq_ok_iff]
  constructor
  · rintro ⟨runText, ⟨validRun, rfl⟩, printed⟩
    exact ⟨validRun, (traversal _).mp printed⟩
  · rintro ⟨validRun, printed⟩
    exact ⟨_, ⟨validRun, rfl⟩, (traversal _).mpr printed⟩

end Chrysopolis.Framing
