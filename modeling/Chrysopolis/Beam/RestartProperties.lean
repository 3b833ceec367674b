import Chrysopolis.Beam.SnapshotCodecProperties

/-! The snapshot region holds the boot image from the capture on. Every reset gives
the segment back from it and leaves it in place for the next one. -/

set_option autoImplicit false

namespace Chrysopolis.Beam

open Chrysopolis.Support

/-- The snapshot region holds a capture of `original`. -/
structure HoldsCapture (image : Image) (base sp generation : Nat) (original memory : Memory) :
    Prop where
  magic : memory.load base 8 = SNAPSHOT_MAGIC
  generation : memory.load (base + 8) 8 = generation
  savedSp : memory.load (base + 16) 8 = sp
  dataBytes : memory.load (base + 24) 8 = image.bssStart - image.segmentStart
  data : ∀ place < image.bssStart - image.segmentStart,
    memory (base + image.dataOff + place) = original (image.segmentStart + place)
  used : memory.load (base + 32) 8 ≤ image.survivorsSize
  survivors : Describes memory (base + image.survivorsOff) (memory.load (base + 32) 8)
    (image.bssEnd - image.bssStart) (fun place => original (image.bssStart + place)) 0 0

section Region

variable {image : Image} {base sp generation : Nat} {original memory : Memory}

/-- The region and the segment do not meet, and the region keeps its order. -/
theorem region_of_check (passed : restartLayoutCheck (currentLayout image base) = .ok) :
    base ≠ 0 ∧ base + image.snapshotSize < UINTPTR_END ∧
      image.segmentStart ≤ image.bssStart ∧
      image.dataOff + (image.bssStart - image.segmentStart) ≤ image.snapshotSize ∧
      (base + image.snapshotSize ≤ image.segmentStart ∨ image.bssEnd ≤ base) := by
  have sound := soundLayout_of_check passed
  have apart := sound.apart
  have patched := image.patched
  have inside := image.data
  have order := sound.dataOrder
  simp only [currentLayout] at apart order
  exact ⟨sound.based, sound.fits, order, sound.dataArea, by omega⟩

/-- Only the snapshot region matters. -/
theorem HoldsCapture.congr (holds : HoldsCapture image base sp generation original memory)
    {other : Memory} (same : other.SameOn base (base + image.snapshotSize) memory)
    (area : image.dataOff + (image.bssStart - image.segmentStart) ≤ image.snapshotSize) :
    HoldsCapture image base sp generation original other := by
  have header := image.header
  have stack := image.stack
  have survivorsRoom := image.survivors
  have used := holds.used
  have word {offset : Nat} (inside : offset + 8 ≤ image.snapshotSize) :
      other.load (base + offset) 8 = memory.load (base + offset) 8 :=
    same.load (by omega) (by omega)
  have usedWord := word (show 32 + 8 ≤ image.snapshotSize by omega)
  refine ⟨?_, ?_, ?_, ?_, ?_, ?_, ?_⟩
  · exact (word (show 0 + 8 ≤ image.snapshotSize by omega)).trans holds.magic
  · exact (word (by omega)).trans holds.generation
  · exact (word (by omega)).trans holds.savedSp
  · exact (word (by omega)).trans holds.dataBytes
  · intro place inside
    rw [same _ (by omega) (by omega)]
    exact holds.data place inside
  · exact usedWord.trans_le used
  · rw [usedWord]
    exact holds.survivors.congr (same.mono (by omega) (by omega))

end Region

section Capture

variable {image : Image} {sp : Nat} {original : Memory}

/-- The memory that the survivors are taken from: the data copied, the header begun. -/
def described (image : Image) (sp : Nat) (memory : Memory) : Memory :=
  let base := snapshotBase image memory
  let dataLen := image.bssStart - image.segmentStart
  (memory.copy (base + image.dataOff) image.segmentStart dataLen).store
    [⟨base + 16, 8, sp⟩, ⟨base + 24, 8, dataLen⟩]

theorem described_outside (sp : Nat)
    (passed : restartLayoutCheck (currentLayout image (snapshotBase image original)) = .ok) :
    Memory.SameOutside (snapshotBase image original + 16)
      (snapshotBase image original + image.snapshotSize)
      (described image sp original) original := by
  obtain ⟨_, _, _, area, _⟩ := region_of_check passed
  have header := image.header
  have stack := image.stack
  have survivorsRoom := image.survivors
  refine (Memory.store_outside ?_).trans (Memory.copy_within (by omega) (by omega))
  simp only [List.mem_cons, List.not_mem_nil, or_false, forall_eq_or_imp, forall_eq]
  omega

theorem described_data (image : Image) (sp : Nat) (original : Memory) :
    ∀ place < image.bssStart - image.segmentStart,
      described image sp original (snapshotBase image original + image.dataOff + place) =
        original (image.segmentStart + place) := by
  intro place inside
  have header := image.header
  have stack := image.stack
  have survivorsRoom := image.survivors
  unfold described
  rw [Memory.store_other, Memory.copy_inside (by omega) (by omega), Nat.add_sub_cancel_left]
  simp only [List.mem_cons, List.not_mem_nil, or_false, forall_eq_or_imp, forall_eq]
  omega

theorem described_header (image : Image) (original : Memory) (word : sp < 2 ^ 64) :
    (described image sp original).load (snapshotBase image original + 16) 8 = sp ∧
      (described image sp original).load (snapshotBase image original + 24) 8 =
        image.bssStart - image.segmentStart := by
  have addresses := image.addresses
  have patched := image.patched
  simp only [UINTPTR_END] at addresses
  have coherent : Memory.Coherent [⟨snapshotBase image original + 16, 8, sp⟩,
      ⟨snapshotBase image original + 24, 8, image.bssStart - image.segmentStart⟩] :=
    Memory.Coherent.of_pairwise (by simp)
  unfold described
  exact ⟨Memory.load_store_field _ coherent List.mem_cons_self (by omega),
    Memory.load_store_field _ coherent (.tail _ List.mem_cons_self) (by omega)⟩

/-- The survivors fit or not whatever the capture wrote before it counts them. -/
theorem captureSurvivors_described (sp : Nat)
    (passed : restartLayoutCheck (currentLayout image (snapshotBase image original)) = .ok) :
    (captureSurvivors image (snapshotBase image original) (described image sp original)).2 =
      (captureSurvivors image (snapshotBase image original) original).2 := by
  obtain ⟨_, _, order, area, apart⟩ := region_of_check passed
  have patched := image.patched
  have survivorsRoom := image.survivors
  exact survivorsEncode_congr (by omega) ((described_outside sp passed).sameOn (by omega))

/-- A capture that starts: the region is there, unused, and its layout is sound. -/
theorem bootCapture_eq
    (fresh : snapshotCaptured (snapshotHdr original (snapshotBase image original)).magic = false)
    (passed : restartLayoutCheck (currentLayout image (snapshotBase image original)) = .ok) :
    bootCapture image sp original =
      match captureSurvivors image (snapshotBase image original) (described image sp original) with
      | (encoded, .error status) => (encoded, .failed (snapshotStatusName status))
      | (encoded, .ok used) =>
          (encoded.store [⟨snapshotBase image original + 32, 8, used⟩,
            ⟨snapshotBase image original + 8, 8, 1⟩,
            ⟨snapshotBase image original, 8, SNAPSHOT_MAGIC⟩], .captured) := by
  have based := (region_of_check passed).1
  unfold bootCapture
  rw [if_neg based, fresh, if_neg Bool.false_ne_true, if_neg (not_not.mpr passed)]
  rfl

/-- The header as the capture ends it: the generation, then the magic. -/
theorem finished_header (base : Nat) (encoded : Memory) {used : Nat} (small : used < 2 ^ 64) :
    let finished := encoded.store
      [⟨base + 32, 8, used⟩, ⟨base + 8, 8, 1⟩, ⟨base, 8, SNAPSHOT_MAGIC⟩]
    finished.load base 8 = SNAPSHOT_MAGIC ∧ finished.load (base + 8) 8 = 1 ∧
      finished.load (base + 32) 8 = used := by
  have coherent : Memory.Coherent
      [⟨base + 32, 8, used⟩, ⟨base + 8, 8, 1⟩, ⟨base, 8, SNAPSHOT_MAGIC⟩] := by
    intro left leftIn right rightIn
    simp only [List.mem_cons, List.not_mem_nil, or_false] at leftIn rightIn
    rcases leftIn with rfl | rfl | rfl <;> rcases rightIn with rfl | rfl | rfl <;>
      simp only [Store.Disjoint, true_or] <;> omega
  exact ⟨Memory.load_store_field _ coherent (.tail _ (.tail _ List.mem_cons_self)) (by decide),
    Memory.load_store_field _ coherent (.tail _ List.mem_cons_self) (by decide),
    Memory.load_store_field _ coherent List.mem_cons_self (by omega)⟩

/-- The capture holds what was in the segment, and writes only to its region. -/
theorem bootCapture_holds {used : Nat} (word : sp < 2 ^ 64)
    (fresh : snapshotCaptured (snapshotHdr original (snapshotBase image original)).magic = false)
    (passed : restartLayoutCheck (currentLayout image (snapshotBase image original)) = .ok)
    (fit : (captureSurvivors image (snapshotBase image original) original).2 = .ok used) :
    (bootCapture image sp original).2 = .captured ∧
      HoldsCapture image (snapshotBase image original) sp 1 original
        (bootCapture image sp original).1 ∧
      Memory.SameOutside (snapshotBase image original)
        (snapshotBase image original + image.snapshotSize) (bootCapture image sp original).1
        original := by
  obtain ⟨_, wrap, order, area, apart⟩ := region_of_check passed
  have header := image.header
  have stack := image.stack
  have survivorsRoom := image.survivors
  have patched := image.patched
  have copied := described_data image sp original
  have begun := described_header image original word
  have outside := described_outside sp passed
  have ran := (captureSurvivors_described sp passed).trans fit
  rw [bootCapture_eq fresh passed]
  generalize described image sp original = start at *
  generalize snapshotBase image original = base at *
  simp only [UINTPTR_END] at wrap
  obtain ⟨encoded, result⟩ : ∃ encoded, captureSurvivors image base start = (encoded, .ok used) :=
    ⟨_, Prod.ext rfl ran⟩
  obtain ⟨room, encodedFrame, spelled⟩ := describes_of_survivorsEncode result (by omega)
    fun place inside => outside (image.bssStart + place) (by omega)
  rw [result]
  obtain ⟨magic, generation, usedWord⟩ :=
    finished_header base encoded (show used < 2 ^ 64 by omega)
  have kept {address : Nat}
      (away : base + 16 ≤ address ∧ address < base + 32 ∨ base + 40 ≤ address ∨ address < base) :
      encoded.store [⟨base + 32, 8, used⟩, ⟨base + 8, 8, 1⟩, ⟨base, 8, SNAPSHOT_MAGIC⟩] address =
        encoded address := by
    apply Memory.store_other
    simp only [List.mem_cons, List.not_mem_nil, or_false, forall_eq_or_imp, forall_eq]
    omega
  dsimp only
  generalize encoded.store _ = finished at *
  have early : finished.SameOn (base + 16) (base + 32) start :=
    (Memory.SameOn.trans fun position lower upper => kept (.inl ⟨lower, upper⟩))
      (encodedFrame.sameOn (.inl (by omega)))
  refine ⟨rfl, ⟨magic, generation, ?_, ?_, ?_, ?_, ?_⟩, ?_⟩
  · exact (early.load (by omega) (by omega)).trans begun.1
  · exact (early.load (by omega) (by omega)).trans begun.2
  · intro place inside
    rw [kept (.inr (.inl (by omega))), encodedFrame _ (.inr (by omega))]
    exact copied place inside
  · exact usedWord.trans_le room
  · rw [usedWord]
    exact spelled.congr fun position lower upper => kept (.inr (.inl (by omega)))
  · intro position away
    rw [kept (by omega), encodedFrame _ (by omega)]
    exact outside _ (by omega)

/-- A capture that fails wrote nothing when the layout is unsound, and otherwise only
what follows the generation in its region. -/
theorem bootCapture_failed {why : String}
    (failed : (bootCapture image sp original).2 = .failed why) :
    (restartLayoutCheck (currentLayout image (snapshotBase image original)) ≠ .ok →
        (bootCapture image sp original).1 = original) ∧
      Memory.SameOutside (snapshotBase image original + 16)
        (snapshotBase image original + image.snapshotSize) (bootCapture image sp original).1
        original := by
  cases fresh : snapshotCaptured (snapshotHdr original (snapshotBase image original)).magic with
  | true =>
      unfold bootCapture at failed
      dsimp only at failed
      rw [fresh] at failed
      split at failed <;> cases failed
  | false =>
      by_cases passed : restartLayoutCheck (currentLayout image (snapshotBase image original)) = .ok
      · refine ⟨fun unsound => absurd passed unsound, ?_⟩
        obtain ⟨_, _, _, area, _⟩ := region_of_check passed
        have header := image.header
        have stack := image.stack
        have survivorsRoom := image.survivors
        have outside := described_outside sp passed
        rw [bootCapture_eq fresh passed] at failed ⊢
        have encoded : Memory.SameOutside (snapshotBase image original + image.survivorsOff)
            (snapshotBase image original + image.survivorsOff + image.survivorsSize)
            (captureSurvivors image (snapshotBase image original)
              (described image sp original)).1 _ := survivorsEncode_outside
        split
        · rename_i result
          rw [result] at encoded
          exact (encoded.mono (by omega) (by omega)).trans outside
        · rename_i result
          rw [result] at failed
          cases failed
      · have unchanged : (bootCapture image sp original).1 = original := by
          unfold bootCapture
          dsimp only
          rw [fresh, if_neg Bool.false_ne_true, if_pos passed]
          split <;> rfl
        exact ⟨fun _ => unchanged, by rw [unchanged]; exact Memory.SameOutside.rfl⟩

end Capture

section Restore

variable {image : Image} {base sp generation : Nat} {original memory : Memory}

/-- The validator accepts a held capture, whose records the encoder wrote, except for
the stack pointer and the generation, which it judges. -/
theorem snapshotValidate_of_holds
    (holds : HoldsCapture image base sp generation original memory)
    (live : generation ≠ 0) :
    snapshotValidate memory (snapshotHdr memory base) (base + image.survivorsOff)
        image.survivorsSize (currentLayout image base) =
      if generation = UINT64_MAX then .badGeneration
      else if stackTopIsValid sp (currentLayout image base) then .ok
      else .badStackPointer := by
  have records := validateRecords_of_describes holds.survivors
  unfold snapshotValidate
  by_cases valid : stackTopIsValid sp (currentLayout image base) = true
  all_goals
    simp only [currentLayout] at valid
    simp [snapshotHdr, snapshotCaptured, holds.magic, holds.generation, holds.dataBytes,
      holds.savedSp, live, Nat.not_lt.mpr holds.used, currentLayout, records, valid]

/-- Counting the reset leaves the rest of the capture. -/
theorem HoldsCapture.count (holds : HoldsCapture image base sp generation original memory)
    {next : Nat} (word : next < 2 ^ 64) :
    HoldsCapture image base sp next original (memory.store [⟨base + 8, 8, next⟩]) := by
  have header := image.header
  have stackRoom := image.stack
  have survivorsRoom := image.survivors
  have frame : Memory.SameOutside (base + 8) (base + 16) (memory.store [⟨base + 8, 8, next⟩])
      memory := Memory.store_outside (by simp)
  have counted : (memory.store [⟨base + 8, 8, next⟩]).load (base + 8) 8 = next :=
    Memory.load_store_field memory (Memory.Coherent.of_pairwise (by simp)) List.mem_cons_self
      (by omega)
  generalize memory.store _ = counting at *
  have first : counting.SameOn base (base + 8) memory := frame.sameOn (.inl (Nat.le_refl _))
  have later {high : Nat} : counting.SameOn (base + 16) high memory :=
    frame.sameOn (.inr (Nat.le_refl _))
  have usedWord : counting.load (base + 32) 8 = memory.load (base + 32) 8 :=
    later.load (by omega) (Nat.le_refl _)
  refine ⟨?_, counted, ?_, ?_, ?_, ?_, ?_⟩
  · exact (first.load (Nat.le_refl _) (Nat.le_refl _)).trans holds.magic
  · exact (later.load (Nat.le_refl _) (Nat.le_refl _)).trans holds.savedSp
  · exact (later.load (by omega) (Nat.le_refl _)).trans holds.dataBytes
  · intro place inside
    rw [frame _ (.inr (by omega))]
    exact holds.data place inside
  · exact usedWord.trans_le holds.used
  · rw [usedWord]
    exact holds.survivors.congr (later.mono (by omega) (Nat.le_refl _))

/-- The data copied back, `.bss` zeroed and the survivors replayed: the segment as it was. -/
theorem replayed_segment (holds : HoldsCapture image base sp generation original memory)
    (passed : restartLayoutCheck (currentLayout image base) = .ok) :
    let zeroed := (memory.copy image.segmentStart (base + image.dataOff)
      (image.bssStart - image.segmentStart)).clear image.bssStart (image.bssEnd - image.bssStart)
    let replayed := replaySurvivors zeroed (base + image.survivorsOff)
      (memory.load (base + 32) 8) image.bssStart (image.bssEnd - image.bssStart) 0
    replayed.SameOn image.segmentStart image.bssEnd original ∧
      Memory.SameOutside image.segmentStart image.bssEnd replayed memory := by
  obtain ⟨_, wrap, order, area, apart⟩ := region_of_check passed
  have header := image.header
  have stackRoom := image.stack
  have survivorsRoom := image.survivors
  have patched := image.patched
  have room := holds.used
  intro zeroed replayed
  have copied : Memory.SameOutside image.segmentStart image.bssEnd
      (memory.copy image.segmentStart (base + image.dataOff)
        (image.bssStart - image.segmentStart)) memory :=
    Memory.copy_within (Nat.le_refl _) (by omega)
  have cleared : Memory.SameOutside image.bssStart image.bssEnd zeroed
      (memory.copy image.segmentStart (base + image.dataOff)
        (image.bssStart - image.segmentStart)) :=
    Memory.clear_outside.mono (Nat.le_refl _) (by omega)
  have untouched : Memory.SameOutside image.segmentStart image.bssEnd zeroed memory :=
    (cleared.mono (by omega) (Nat.le_refl _)).trans copied
  obtain ⟨frame, bytes⟩ : Memory.SameOutside image.bssStart
        (image.bssStart + (image.bssEnd - image.bssStart)) replayed zeroed ∧ _ :=
    replaySurvivors_of_describes holds.survivors (untouched.sameOn (by omega)) (by omega)
      (fun place below => absurd below (Nat.not_lt_zero _))
      fun place _ inside => Memory.clear_inside (Nat.le_add_right _ _) (by omega)
  constructor
  · intro position lower upper
    by_cases data : position < image.bssStart
    · rw [frame _ (.inl data), cleared _ (.inl data), Memory.copy_inside lower (by omega),
        holds.data _ (by omega), Nat.add_sub_cancel' lower]
    · have late := Nat.not_lt.mp data
      have byte := bytes (position - image.bssStart) (by omega)
      rwa [Nat.add_sub_cancel' late] at byte
  · exact (frame.mono (by omega) (by omega)).trans untouched

/-- A reset of a segment that its capture may restore. -/
theorem resetRestore_holds (holds : HoldsCapture image base sp generation original memory)
    (region : snapshotBase image memory = base)
    (passed : restartLayoutCheck (currentLayout image base) = .ok)
    (stack : stackTopIsValid sp (currentLayout image base) = true)
    (live : generation ≠ 0) (more : generation < UINT64_MAX) :
    (resetRestore image memory).2 = .ok sp ∧
      (resetRestore image memory).1.SameOn image.segmentStart image.bssEnd original ∧
      HoldsCapture image base sp (generation + 1) original (resetRestore image memory).1 := by
  obtain ⟨_, wrap, order, area, apart⟩ := region_of_check passed
  have header := image.header
  have stackRoom := image.stack
  have survivorsRoom := image.survivors
  have valid := snapshotValidate_of_holds holds live
  rw [if_neg (Nat.ne_of_lt more), if_pos stack] at valid
  obtain ⟨segment, outside⟩ := replayed_segment holds passed
  unfold resetRestore
  rw [region]
  dsimp only
  rw [if_neg (not_not.mpr passed), if_neg (not_not.mpr valid)]
  simp only [snapshotHdr, holds.dataBytes, holds.savedSp, currentLayout]
  generalize replaySurvivors _ _ _ _ _ _ = replayed at *
  have kept := holds.congr (outside.sameOn (by omega)) area
  have word : generation + 1 < 2 ^ 64 := by
    simp only [UINT64_MAX] at more
    omega
  rw [kept.generation]
  refine ⟨trivial, ?_, kept.count word⟩
  have counted : Memory.SameOutside (base + 8) (base + 16)
      (replayed.store [⟨base + 8, 8, generation + 1⟩]) replayed :=
    Memory.store_outside (by simp)
  exact (counted.sameOn (by omega)).trans segment

/-- A reset that fails has written nothing. -/
theorem resetRestore_failed {why : String} (failed : (resetRestore image memory).2 = .error why) :
    (resetRestore image memory).1 = memory := by
  unfold resetRestore at failed ⊢
  dsimp only at failed ⊢
  split at failed
  · rename_i refused
    rw [if_pos refused]
  · rename_i sound
    rw [if_neg sound]
    split at failed
    · rename_i refused
      rw [if_pos refused]
    · cases failed

end Restore

section Runs

variable {image : Image} {sp : Nat} {original : Memory}

/-- What an instance does to the memory between two resets: it writes its own segment,
but keeps the pointer to the snapshot region. -/
structure Overwrites (image : Image) (before after : Memory) : Prop where
  outside : Memory.SameOutside image.segmentStart image.bssEnd after before
  pointer : snapshotBase image after = snapshotBase image before

/-- The memory after so many resets, each of a segment overwritten since the last. -/
inductive Resets (image : Image) (captured : Memory) : Nat → Memory → Prop where
  | none : Resets image captured 0 captured
  | reset {count : Nat} {memory overwritten : Memory} :
      Resets image captured count memory → Overwrites image memory overwritten →
      Resets image captured (count + 1) (resetRestore image overwritten).1

theorem HoldsCapture.overwrites {base generation : Nat} {memory overwritten : Memory}
    (holds : HoldsCapture image base sp generation original memory)
    (overwrites : Overwrites image memory overwritten)
    (passed : restartLayoutCheck (currentLayout image base) = .ok) :
    HoldsCapture image base sp generation original overwritten := by
  obtain ⟨_, _, _, area, apart⟩ := region_of_check passed
  exact holds.congr (overwrites.outside.sameOn (by omega)) area

/-- Every run of resets keeps the capture, under a generation that counts them. -/
theorem Resets.holds {base : Nat} {captured memory : Memory} {count : Nat}
    (resets : Resets image captured count memory)
    (start : HoldsCapture image base sp 1 original captured)
    (region : snapshotBase image captured = base) (pointer : snapshotBase image original = base)
    (passed : restartLayoutCheck (currentLayout image base) = .ok)
    (stack : stackTopIsValid sp (currentLayout image base) = true)
    (bound : count < UINT64_MAX) :
    HoldsCapture image base sp (count + 1) original memory ∧ snapshotBase image memory = base := by
  induction resets with
  | none => exact ⟨start, region⟩
  | @reset count memory overwritten earlier overwrites ih =>
      obtain ⟨holds, here⟩ := ih (Nat.lt_of_succ_lt bound)
      obtain ⟨_, segment, held⟩ := resetRestore_holds (holds.overwrites overwrites passed)
        (overwrites.pointer.trans here) passed stack (Nat.succ_ne_zero count) bound
      have order := (region_of_check passed).2.2.1
      have patched := image.patched
      refine ⟨held, ?_⟩
      rw [← pointer]
      exact segment.load (by omega) patched.2

/-- Warm restart restores the boot image: after a capture, every reset of a run gives the
saved stack pointer and the segment as it was captured, and counts itself once. -/
theorem resetRestore_boot_image {used : Nat} (word : sp < 2 ^ 64)
    (fresh : snapshotCaptured (snapshotHdr original (snapshotBase image original)).magic = false)
    (passed : restartLayoutCheck (currentLayout image (snapshotBase image original)) = .ok)
    (fit : (captureSurvivors image (snapshotBase image original) original).2 = .ok used)
    (stack : stackTopIsValid sp (currentLayout image (snapshotBase image original)) = true) :
    let base := snapshotBase image original
    let captured := (bootCapture image sp original).1
    (bootCapture image sp original).2 = .captured ∧
      snapshotValidate captured (snapshotHdr captured base) (base + image.survivorsOff)
        image.survivorsSize (currentLayout image base) = .ok ∧
      (∀ (count : Nat) (memory overwritten : Memory), count + 1 < UINT64_MAX →
        Resets image captured count memory → Overwrites image memory overwritten →
          (resetRestore image overwritten).2 = .ok sp ∧
            (resetRestore image overwritten).1.SameOn image.segmentStart image.bssEnd original ∧
            (snapshotHdr (resetRestore image overwritten).1 base).generation =
              (snapshotHdr overwritten base).generation + 1) ∧
      (∀ (memory : Memory) (why : String), (resetRestore image memory).2 = .error why →
        (resetRestore image memory).1 = memory) ∧
      (∀ (top : Nat) (memory : Memory) (why : String),
        (bootCapture image top memory).2 = .failed why →
          (restartLayoutCheck (currentLayout image (snapshotBase image memory)) ≠ .ok →
              (bootCapture image top memory).1 = memory) ∧
            Memory.SameOutside (snapshotBase image memory + 16)
              (snapshotBase image memory + image.snapshotSize) (bootCapture image top memory).1
              memory) ∧
      ∀ (memory final : Memory) (bss bssLen gapWords out capacity written : Nat),
        survivorsEncode memory bss bssLen gapWords out capacity = (final, .ok written) →
        (out + capacity ≤ bss ∨ bss + bssLen ≤ out) →
          validateRecords final out written bssLen 0 0 = .ok ∧
            (replaySurvivors (final.clear bss bssLen) out written bss bssLen 0).SameOn bss
              (bss + bssLen) memory := by
  intro base captured
  obtain ⟨outcome, holds, outside⟩ := bootCapture_holds word fresh passed fit
  have patched := image.patched
  obtain ⟨_, _, order, _, apart⟩ := region_of_check passed
  have region : snapshotBase image captured = base :=
    (outside.sameOn (by omega)).load (Nat.le_refl _) (Nat.le_refl _)
  refine ⟨outcome, ?_, ?_, fun _ _ => resetRestore_failed, fun _ _ _ => bootCapture_failed,
    fun _ _ _ _ _ _ _ _ => survivorsEncode_round_trip⟩
  · rw [snapshotValidate_of_holds holds Nat.one_ne_zero, if_neg (by simp [UINT64_MAX]),
      if_pos stack]
  · intro count memory overwritten more resets overwrites
    obtain ⟨held, here⟩ := resets.holds holds region rfl passed stack (Nat.lt_of_succ_lt more)
    have found := held.overwrites overwrites passed
    obtain ⟨returned, segment, counted⟩ := resetRestore_holds found
      (overwrites.pointer.trans here) passed stack (Nat.succ_ne_zero count) more
    refine ⟨returned, segment, ?_⟩
    simp only [snapshotHdr]
    rw [counted.generation, found.generation]

/-- A run of any length, its instances writing nothing. -/
theorem exists_resets (image : Image) (captured : Memory) (count : Nat) :
    ∃ memory, Resets image captured count memory := by
  induction count with
  | zero => exact ⟨captured, .none⟩
  | succ count ih =>
      obtain ⟨memory, resets⟩ := ih
      exact ⟨_, resets.reset ⟨Memory.SameOutside.rfl, rfl⟩⟩

end Runs

/-! ## A small image -/

/-- One word of data, then `.bss` with the pointer, a spare word and two bytes. -/
def smallImage : Image where
  segmentStart := 0x100
  bssStart := 0x108
  bssEnd := 0x11a
  snapshotStart := 0x108
  snapshotSize := 4096
  resetStackOff := 48
  resetStackSize := 16
  survivorsOff := 64
  survivorsSize := 32
  dataOff := 96
  exitFaultBase := 0x10000
  exitFaultSize := 256
  addresses := by decide
  patched := by decide
  header := by decide
  stack := by decide
  survivors := by decide
  data := by decide

/-- The region is at `0x2000`; the data and the last byte of `.bss` are not zero. -/
def smallMemory : Memory := fun position =>
  if position = 0x100 then 7
  else if position = 0x109 then 0x20
  else if position = 0x119 then 5
  else 0

/-- The region already has the magic. -/
def staleMemory : Memory := smallMemory.store [⟨0x2000, 8, SNAPSHOT_MAGIC⟩]

/-- The spare word survives too, which is too much. -/
def crowdedMemory : Memory := smallMemory.store [⟨0x110, 1, 1⟩]

theorem smallImage_fresh :
    snapshotCaptured (snapshotHdr smallMemory (snapshotBase smallImage smallMemory)).magic =
      false := by decide +kernel

theorem smallImage_passed :
    restartLayoutCheck (currentLayout smallImage (snapshotBase smallImage smallMemory)) = .ok := by
  decide +kernel

theorem smallImage_fit :
    (captureSurvivors smallImage (snapshotBase smallImage smallMemory) smallMemory).2 = .ok 26 := by
  decide +kernel

theorem smallImage_stack :
    stackTopIsValid 0x8000 (currentLayout smallImage (snapshotBase smallImage smallMemory)) =
      true := by decide +kernel

theorem resetRestore_boot_image_small :
    let captured := (bootCapture smallImage 0x8000 smallMemory).1
    let overwritten := captured.store [⟨0x100, 8, 99⟩, ⟨0x110, 8, 99⟩]
    (resetRestore smallImage overwritten).2 = .ok 0x8000 ∧
      (resetRestore smallImage overwritten).1.SameOn 0x100 0x11a smallMemory := by
  intro captured overwritten
  have overwrites : Overwrites smallImage captured overwritten :=
    ⟨Memory.store_outside (by decide), Memory.load_store_other _ _ _ _ (by decide)⟩
  obtain ⟨returned, segment, _⟩ := (resetRestore_boot_image (show 0x8000 < 2 ^ 64 by decide)
    smallImage_fresh smallImage_passed smallImage_fit smallImage_stack).2.2.1 0 captured overwritten
      (by simp [UINT64_MAX]) .none overwrites
  exact ⟨returned, segment⟩

/-- A pointer that the instance overwrote, a stack pointer that the capture takes and the
restore refuses, a generation that has no successor, a magic that the boot finds already
there, and survivors that do not fit: none of these restores, and the last leaves what
the capture wrote before it found out. -/
theorem resetRestore_refuses :
    ((bootCapture smallImage 0x8000 smallMemory).2 = .captured ∧
      ∃ overwritten, Memory.SameOutside smallImage.segmentStart smallImage.bssEnd overwritten
          (bootCapture smallImage 0x8000 smallMemory).1 ∧
        (resetRestore smallImage overwritten).2 = .error "no-snapshot-region") ∧
    ((bootCapture smallImage 0 smallMemory).2 = .captured ∧
      (resetRestore smallImage (bootCapture smallImage 0 smallMemory).1).2 =
        .error "bad-stack-pointer") ∧
    (∃ memory, Resets smallImage (bootCapture smallImage 0x8000 smallMemory).1 (UINT64_MAX - 1)
        memory ∧
      (resetRestore smallImage memory).2 = .error "bad-generation") ∧
    ((bootCapture smallImage 0x8000 staleMemory).2 = .alreadyCaptured ∧
      (resetRestore smallImage staleMemory).2 = .error "bad-generation") ∧
    ((bootCapture smallImage 0x8000 crowdedMemory).2 = .failed "survivor-area-overflow" ∧
      (bootCapture smallImage 0x8000 crowdedMemory).1 0x2060 ≠ crowdedMemory 0x2060) := by
  refine ⟨⟨by decide +kernel, ?_⟩, by decide +kernel, ?_, by decide +kernel, by decide +kernel⟩
  · refine ⟨(bootCapture smallImage 0x8000 smallMemory).1.store [⟨0x108, 8, 0⟩],
      Memory.store_outside (by decide), by decide +kernel⟩
  · obtain ⟨_, holds, outside⟩ := bootCapture_holds (show 0x8000 < 2 ^ 64 by decide)
      smallImage_fresh smallImage_passed smallImage_fit
    obtain ⟨memory, resets⟩ := exists_resets smallImage
      (bootCapture smallImage 0x8000 smallMemory).1 (UINT64_MAX - 1)
    have region : snapshotBase smallImage (bootCapture smallImage 0x8000 smallMemory).1 =
        snapshotBase smallImage smallMemory := by decide +kernel
    obtain ⟨held, here⟩ := resets.holds holds region rfl smallImage_passed smallImage_stack
      (by simp [UINT64_MAX])
    have status := snapshotValidate_of_holds held (Nat.succ_ne_zero _)
    rw [if_pos (by simp [UINT64_MAX])] at status
    refine ⟨memory, resets, ?_⟩
    unfold resetRestore
    rw [here]
    dsimp only
    rw [if_neg (not_not.mpr smallImage_passed), status]
    rfl

end Chrysopolis.Beam
