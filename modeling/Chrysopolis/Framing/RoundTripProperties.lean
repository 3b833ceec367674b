import Chrysopolis.Framing.ReadProperties

/-! Collecting an encoded run. The encoder prints bodies of up to 1024 bytes, but
the reader gives a body up at the byte after the 1024th without looking whether
it closes the frame, so a run reads back exactly when no body has that size. -/

set_option autoImplicit false

namespace Chrysopolis.Framing

open Chrysopolis.Support

variable (format : Term → Bytes)

/-- The verdict frame of a run. -/
def verdictFrame (runText : Bytes) (count unexpected : Nat) : Frame where
  run := runText
  n := count
  kind := ascii "verdict"
  fields := [(ascii "frames", Decimal.write count), (ascii "unexpected", Decimal.write unexpected)]

/-- What a run should read back as: a frame for each record, then the verdict. -/
def expectedFrames (runText : Bytes) (records : List Record) (unexpected : Nat) : List Frame :=
  (records.zipIdx.map fun entry => frameOf format runText entry.2 entry.1) ++
    [verdictFrame runText records.length unexpected]

/-- The frames of a run are each within reach of the reader. -/
structure ReadableRun (runText : Bytes) (records : List Record) (unexpected : Nat) : Prop where
  belowCap : ∀ entry ∈ numbered records unexpected,
    leadWidth format runText entry.2 entry.1 ≠ 1002
  number : records.length < 10 ^ 10

theorem frameOf_verdictRecord (runText : Bytes) (count unexpected : Nat) :
    frameOf format runText count (verdictRecord count unexpected) =
      verdictFrame runText count unexpected := by
  have kind : atomToBinary ⟨"verdict".toList⟩ = ascii "verdict" := by decide
  have frames : atomToBinary ⟨"frames".toList⟩ = ascii "frames" := by decide
  have others : atomToBinary ⟨"unexpected".toList⟩ = ascii "unexpected" := by decide
  have number (n : Nat) : integerToBinary n = Decimal.write n := by
    rw [integerToBinary, if_neg (by omega), Int.natAbs_natCast]
  rw [frameOf, verdictFrame, Frame.mk.injEq]
  refine ⟨rfl, rfl, kind, ?_⟩
  exact congrArg₂ (fun first second => [first, second])
    (Prod.ext frames (number count)) (Prod.ext others (number unexpected))

theorem numbered_eq (records : List Record) (unexpected : Nat) :
    numbered records unexpected =
      records.zipIdx ++ [(verdictRecord records.length unexpected, records.length)] := by
  simp [numbered, List.zipIdx_append]

theorem map_frameOf_numbered (runText : Bytes) (records : List Record) (unexpected : Nat) :
    (numbered records unexpected).map (fun entry => frameOf format runText entry.2 entry.1) =
      expectedFrames format runText records unexpected := by
  rw [numbered_eq, List.map_append, List.map_singleton, frameOf_verdictRecord, expectedFrames]

theorem number_lt_of_mem_numbered {records : List Record} {unexpected : Nat}
    {entry : Record × Nat} (member : entry ∈ numbered records unexpected) :
    entry.2 ≤ records.length := by
  have bound := List.snd_lt_of_mem_zipIdx member
  simp only [List.length_append, List.length_singleton] at bound
  omega

/-- The last number is the longest, so it decides for all. -/
theorem readableRun_iff {runText : Bytes} {records : List Record} {unexpected : Nat} :
    ReadableRun format runText records unexpected ↔
      ∀ entry ∈ numbered records unexpected, Readable format runText entry.2 entry.1 := by
  constructor
  · intro readable entry member
    have bound := number_lt_of_mem_numbered member
    exact ⟨readable.belowCap entry member, Nat.lt_of_le_of_lt bound readable.number⟩
  · intro readable
    have last : (verdictRecord records.length unexpected, records.length) ∈
        numbered records unexpected := by
      rw [numbered_eq]
      exact List.mem_append_right _ (List.mem_singleton.mpr rfl)
    exact ⟨fun entry member => (readable entry member).belowCap, (readable _ last).number⟩

/-- The events of an encoded run, whatever its widths. -/
theorem collect_encodeRun {runName : RunName} {records : List Record} {unexpected : Nat}
    {frames : List Bytes} (encoded : encodeRun format runName records unexpected = .ok frames) :
    collect frames.flatten = (numbered records unexpected).map fun entry =>
      frameEvent format runName.bytes entry.2 entry.1 := by
  obtain ⟨validRun, accepted, rfl⟩ := (encodeRun_eq_ok_iff format).mp encoded
  exact (reads_frames format validRun accepted).collect

/-- A run reads back as its records and its verdict, and as nothing else, exactly
when no frame fills the reader's buffer and the numbers have at most ten digits. -/
theorem encodeRun_round_trip {runName : RunName} {records : List Record} {unexpected : Nat}
    {frames : List Bytes} (encoded : encodeRun format runName records unexpected = .ok frames) :
    collect frames.flatten =
        (expectedFrames format runName.bytes records unexpected).map Event.frame ↔
      ReadableRun format runName.bytes records unexpected := by
  rw [collect_encodeRun format encoded, ← map_frameOf_numbered, List.map_map, readableRun_iff,
    List.map_inj_left]
  refine forall_congr' fun entry => imp_congr_right fun _ => ?_
  exact frameEvent_eq_frame_iff format

/-- A record of kind `step` with one field. -/
def sampleRecord (value : Term) : Record := ⟨⟨"step".toList⟩, [(⟨"x".toList⟩, value)]⟩

/-- The frames of a run of one record. -/
def sampleFrames : List Bytes :=
  [ascii "@@CHRYSO|A|n=0|k=step|x=1|len=16|crc=6f70189a@@\n",
    ascii "@@CHRYSO|A|n=1|k=verdict|frames=1|unexpected=0|len=37|crc=d25c77b9@@\n"]

theorem encodeRun_sampleFrames :
    encodeRun (fun _ => []) (.binary (ascii "A")) [sampleRecord (.integer 1)] 0 =
      .ok sampleFrames := by
  decide +kernel

theorem encodeRun_round_trip_sample :
    collect sampleFrames.flatten =
        (expectedFrames (fun _ => []) (ascii "A") [sampleRecord (.integer 1)] 0).map Event.frame ↔
      ReadableRun (fun _ => []) (ascii "A") [sampleRecord (.integer 1)] 0 :=
  encodeRun_round_trip (fun _ => []) encodeRun_sampleFrames

/-- A value of 987 bytes fills the body to the encoder's limit. -/
def fullRecord : Record := sampleRecord (.binary (List.replicate 987 0x61))

/-- A body of exactly 1024 bytes is printed and then lost. -/
theorem encodeRun_full_body :
    ∃ frames, encodeRun (fun _ => []) (.binary (ascii "A")) [fullRecord] 0 = .ok frames ∧
      collect frames.flatten ≠
        (expectedFrames (fun _ => []) (ascii "A") [fullRecord] 0).map Event.frame := by
  have entries : numbered [fullRecord] 0 = [(fullRecord, 0), (verdictRecord 1 0, 1)] := rfl
  have full : leadWidth (fun _ => []) (ascii "A") 0 fullRecord = 1002 := by decide +kernel
  have accepted : ∀ entry ∈ numbered [fullRecord] 0,
      Accepted (fun _ => []) (ascii "A") entry.2 entry.1 := by
    rw [entries]
    refine List.forall_mem_cons.mpr ⟨?_, List.forall_mem_singleton.mpr ?_⟩
    · exact (accepted_iff _).mpr ⟨by decide +kernel, le_of_eq full⟩
    · exact (accepted_iff _).mpr ⟨by decide +kernel, by decide +kernel⟩
  have encoded := (encodeRun_eq_ok_iff (fun _ => [])).mpr
    ⟨(by decide : isRun (RunName.binary (ascii "A")).bytes = true), accepted, rfl⟩
  refine ⟨_, encoded, ?_⟩
  have lost : frameEvent (fun _ => []) (ascii "A") 0 fullRecord =
      .damaged (ascii "A") .oversize := if_pos full
  rw [collect_encodeRun _ encoded, entries, List.map_cons, RunName.bytes, lost]
  intro same
  cases same

end Chrysopolis.Framing
