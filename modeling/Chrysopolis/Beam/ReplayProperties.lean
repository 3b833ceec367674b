import Chrysopolis.Beam.RestartProperties

/-! What a validated snapshot can do. The validator reads each record once; the
replay loop reads the same records again and copies no byte outside `.bss`,
whatever the snapshot region holds. -/

set_option autoImplicit false

namespace Chrysopolis.Beam

open Chrysopolis.Support

/-! ## The validator's loop -/

/-- The body of the loop of `beam_snapshot_validate`: the status it returns, or
the cursor and the end of the run it goes on with. -/
def validateBody (memory : Memory) (area used bssLen cursor previousEnd : Nat) :
    SnapshotStatus ⊕ Nat × Nat :=
  match survivorRead memory area used bssLen cursor with
  | .finished => .inl .ok
  | .truncated => .inl .survivorTruncated
  | .outOfBounds => .inl .survivorOutOfBounds
  | .record run _ next =>
      if run.len = 0 then .inl .survivorEmpty
      else
        let tailOffset := bssLen - bssLen % WORD_BYTES
        let isTail := run.offset == tailOffset && run.offset + run.len == bssLen
        if run.offset % WORD_BYTES ≠ 0 ∨ (run.len % WORD_BYTES ≠ 0 ∧ !isTail) then
          .inl .survivorMisaligned
        else if run.offset < previousEnd then .inl .survivorOutOfOrder
        else .inr (next, run.offset + run.len)

/-- The loop cut off after so many iterations. -/
def validateWithin (memory : Memory) (area used bssLen : Nat) :
    Nat → Nat → Nat → Option SnapshotStatus
  | 0, _, _ => none
  | fuel + 1, cursor, previousEnd =>
      match validateBody memory area used bssLen cursor previousEnd with
      | .inl status => some status
      | .inr (next, runEnd) => validateWithin memory area used bssLen fuel next runEnd

section Records

variable {memory : Memory} {area used bssLen cursor previousEnd : Nat}

theorem header_of_survivorRead {payload next : Nat} {run : SurvivorHdr}
    (read : survivorRead memory area used bssLen cursor = .record run payload next) :
    survivorHdr memory (area + cursor) = run ∧ payload = area + cursor + HEADER_BYTES ∧
      next = cursor + HEADER_BYTES + run.len ∧ next ≤ used ∧ run.offset + run.len ≤ bssLen := by
  have later := cursor_of_survivorRead read
  unfold survivorRead at read
  split at read
  · cases read
  split at read
  · cases read
  dsimp only at read
  split at read
  · cases read
  split at read
  · cases read
  rename_i inside
  cases read
  exact ⟨rfl, rfl, rfl, later.2, Nat.not_lt.mp inside⟩

theorem cursor_of_finished (read : survivorRead memory area used bssLen cursor = .finished) :
    cursor = used := by
  by_contra more
  simp only [survivorRead, if_neg more] at read
  split at read
  · cases read
  split at read
  · cases read
  split at read <;> cases read

/-- Every iteration but the last reads a header, so the loop ends. -/
theorem validateWithin_eq {fuel : Nat} (enough : (used - cursor) / HEADER_BYTES < fuel) :
    validateWithin memory area used bssLen fuel cursor previousEnd =
      some (validateRecords memory area used bssLen cursor previousEnd) := by
  induction fuel generalizing cursor previousEnd with
  | zero => exact absurd enough (Nat.not_lt_zero _)
  | succ fuel ih =>
      rw [validateWithin, validateRecords, validateBody]
      cases read : survivorRead memory area used bssLen cursor with
      | finished => rfl
      | truncated => rfl
      | outOfBounds => rfl
      | record run payload next =>
          obtain ⟨_, _, moved, bound, _⟩ := header_of_survivorRead read
          dsimp only
          by_cases empty : run.len = 0
          · simp only [empty, if_true]
          · simp only [empty, if_false]
            split_ifs
            · rfl
            · rfl
            · refine ih ?_
              simp only [HEADER_BYTES] at moved enough ⊢
              omega

/-! ## Validated records -/

/-- The records from `cursor` to `used` are these runs with their payloads:
nonempty, aligned, in order after `previousEnd`, and inside `.bss`. -/
inductive Recorded (memory : Memory) (area used bssLen : Nat) :
    Nat → Nat → List (SurvivorHdr × Nat) → Prop where
  | finished {previousEnd : Nat} : Recorded memory area used bssLen used previousEnd []
  | record {cursor previousEnd : Nat} {run : SurvivorHdr} {rest : List (SurvivorHdr × Nat)}
      (header : survivorHdr memory (area + cursor) = run)
      (room : cursor + HEADER_BYTES + run.len ≤ used)
      (nonempty : run.len ≠ 0)
      (aligned : run.offset % WORD_BYTES = 0)
      (whole : run.len % WORD_BYTES = 0 ∨ run.offset + run.len = bssLen)
      (ordered : previousEnd ≤ run.offset)
      (inside : run.offset + run.len ≤ bssLen)
      (later : Recorded memory area used bssLen (cursor + HEADER_BYTES + run.len)
        (run.offset + run.len) rest) :
      Recorded memory area used bssLen cursor previousEnd
        ((run, area + cursor + HEADER_BYTES) :: rest)

theorem recorded_of_validateWithin {fuel : Nat}
    (valid : validateWithin memory area used bssLen fuel cursor previousEnd = some .ok) :
    ∃ runs, Recorded memory area used bssLen cursor previousEnd runs := by
  induction fuel generalizing cursor previousEnd with
  | zero => cases valid
  | succ fuel ih =>
      rw [validateWithin, validateBody] at valid
      cases read : survivorRead memory area used bssLen cursor with
      | finished =>
          obtain rfl := cursor_of_finished read
          exact ⟨[], .finished⟩
      | truncated => simp [read] at valid
      | outOfBounds => simp [read] at valid
      | record run payload next =>
          obtain ⟨header, rfl, rfl, bound, inside⟩ := header_of_survivorRead read
          simp only [read] at valid
          split_ifs at valid with empty misaligned unordered
          · cases valid
          · cases valid
          · cases valid
          · obtain ⟨rest, later⟩ := ih valid
            simp only [not_or, not_and, not_not, Bool.not_eq_true', Bool.and_eq_false_iff,
              beq_eq_false_iff_ne] at misaligned
            refine ⟨_, .record header bound empty misaligned.1 ?_ (Nat.not_lt.mp unordered) inside
              later⟩
            by_cases words : run.len % WORD_BYTES = 0
            · exact .inl words
            · exact .inr (misaligned.2 words).2

/-- The validator accepts only such records. -/
theorem recorded_of_validateRecords
    (valid : validateRecords memory area used bssLen cursor previousEnd = .ok) :
    ∃ runs, Recorded memory area used bssLen cursor previousEnd runs :=
  recorded_of_validateWithin
    ((validateWithin_eq (Nat.lt_succ_self _)).trans (congrArg some valid))

/-- Runs in order are apart, and each starts after the one before it ends. -/
theorem Recorded.ascending {runs : List (SurvivorHdr × Nat)}
    (recorded : Recorded memory area used bssLen cursor previousEnd runs) :
    (∀ run ∈ runs, previousEnd ≤ run.1.offset) ∧
      runs.Pairwise fun early late => early.1.offset + early.1.len ≤ late.1.offset := by
  induction recorded with
  | finished => simp
  | record header room nonempty aligned whole ordered inside later ih =>
      refine ⟨?_, List.pairwise_cons.mpr ih⟩
      intro other member
      rcases List.mem_cons.mp member with rfl | member
      · exact ordered
      · exact (ordered.trans (Nat.le_add_right _ _)).trans (ih.1 other member)

/-- What the validator checked of one run. -/
structure RunOk (area used bssLen : Nat) (run : SurvivorHdr × Nat) : Prop where
  nonempty : run.1.len ≠ 0
  aligned : run.1.offset % WORD_BYTES = 0
  whole : run.1.len % WORD_BYTES = 0 ∨ run.1.offset + run.1.len = bssLen
  inside : run.1.offset + run.1.len ≤ bssLen
  /-- The payload lies in the survivor area. -/
  source : area ≤ run.2 ∧ run.2 + run.1.len ≤ area + used

theorem Recorded.runOk {runs : List (SurvivorHdr × Nat)}
    (recorded : Recorded memory area used bssLen cursor previousEnd runs) :
    ∀ run ∈ runs, RunOk area used bssLen run := by
  induction recorded with
  | finished => simp
  | record header room nonempty aligned whole ordered inside later ih =>
      exact List.forall_mem_cons.mpr
        ⟨⟨nonempty, aligned, whole, inside, by dsimp only; omega⟩, ih⟩

/-! ## The replay loop -/

/-- A run of the replay loop: the copies it makes, the cursor it stops at, the
read that stops it, and the memory it leaves. -/
structure Replay where
  runs : List (SurvivorHdr × Nat)
  stop : Nat
  answer : SurvivorRead
  memory : Memory

/-- `replaySurvivors` with every copy told. -/
def replayTrace (memory : Memory) (area used bss bssLen cursor : Nat) : Replay :=
  match _read : survivorRead memory area used bssLen cursor with
  | .record run payload next =>
      let rest := replayTrace (memory.copy (bss + run.offset) payload run.len) area used bss
        bssLen next
      { rest with runs := (run, payload) :: rest.runs }
  | answer => ⟨[], cursor, answer, memory⟩
termination_by used - cursor
decreasing_by
  have later := cursor_of_survivorRead _read
  omega

theorem replayTrace_record {bss payload next : Nat} {run : SurvivorHdr}
    (read : survivorRead memory area used bssLen cursor = .record run payload next) :
    replayTrace memory area used bss bssLen cursor =
      let rest := replayTrace (memory.copy (bss + run.offset) payload run.len) area used bss
        bssLen next
      { rest with runs := (run, payload) :: rest.runs } := by
  rw [replayTrace]
  split
  · rename_i taken
    rw [read] at taken
    cases taken
    rfl
  · rename_i other
    exact absurd read (other run payload next)

theorem replayTrace_stopped {bss : Nat}
    (stopped : ∀ run payload next,
      survivorRead memory area used bssLen cursor ≠ .record run payload next) :
    replayTrace memory area used bss bssLen cursor =
      ⟨[], cursor, survivorRead memory area used bssLen cursor, memory⟩ := by
  rw [replayTrace]
  split
  · rename_i run payload next taken
    exact absurd taken (stopped run payload next)
  · rfl

theorem replayTrace_memory (memory : Memory) (area used bss bssLen cursor : Nat) :
    (replayTrace memory area used bss bssLen cursor).memory =
      replaySurvivors memory area used bss bssLen cursor := by
  induction memory, cursor using replayTrace.induct area used bss bssLen with
  | case1 memory cursor run payload next read ih =>
      rw [replaySurvivors_record read, ← ih, replayTrace_record read]
  | case2 memory cursor stopped =>
      rw [replayTrace_stopped stopped, replaySurvivors]
      split
      · rename_i run payload next taken
        exact absurd taken (stopped run payload next)
      · rfl

/-- Over a segment apart from the records the loop makes exactly the validated
copies, and stops at their end. -/
theorem replayTrace_of_recorded {bss : Nat} {current : Memory} {runs : List (SurvivorHdr × Nat)}
    (recorded : Recorded memory area used bssLen cursor previousEnd runs)
    (same : current.SameOn (area + cursor) (area + used) memory)
    (apart : area + used ≤ bss ∨ bss + bssLen ≤ area) :
    let replay := replayTrace current area used bss bssLen cursor
    replay.runs = runs ∧ replay.stop = used ∧ replay.answer = .finished ∧
      Memory.SameOutside bss (bss + bssLen) replay.memory current := by
  induction recorded generalizing current with
  | finished =>
      have read : survivorRead current area used bssLen used = .finished := survivorRead_finished
      rw [replayTrace_stopped (by simp [read]), read]
      exact ⟨rfl, rfl, rfl, Memory.SameOutside.rfl⟩
  | @record cursor previousEnd run rest header room nonempty aligned whole ordered
      inside later ih =>
      have read := survivorRead_record (survivorHdr_congr same header room) room inside
      have copied : Memory.SameOutside bss (bss + bssLen)
          (current.copy (bss + run.offset) (area + cursor + HEADER_BYTES) run.len) current :=
        Memory.copy_within (Nat.le_add_right _ _) (by omega)
      have kept : (current.copy (bss + run.offset) (area + cursor + HEADER_BYTES) run.len).SameOn
          (area + (cursor + HEADER_BYTES + run.len)) (area + used) memory :=
        (copied.sameOn (by omega)).trans (same.mono (by omega) (Nat.le_refl _))
      obtain ⟨runs, stop, answer, frame⟩ := ih kept
      rw [replayTrace_record read]
      exact ⟨congrArg _ runs, stop, answer, frame.trans copied⟩

end Records

/-! ## The restore -/

/-- The memory the replay loop starts from: the data copied back, `.bss` zeroed. -/
def zeroedSegment (image : Image) (memory : Memory) : Memory :=
  let base := snapshotBase image memory
  (memory.copy image.segmentStart (base + image.dataOff) (snapshotHdr memory base).dataBytes).clear
    image.bssStart (image.bssEnd - image.bssStart)

/-- The replay loop of `beam_reset_restore`. -/
def restoreReplay (image : Image) (memory : Memory) : Replay :=
  let base := snapshotBase image memory
  replayTrace (zeroedSegment image memory) (base + image.survivorsOff)
    (snapshotHdr memory base).survivorBytes image.bssStart (image.bssEnd - image.bssStart) 0

/-- What a restore may do with the header it validated. -/
structure SafeReplay (image : Image) (base : Nat) (hdr : SnapshotHdr) (replay : Replay) :
    Prop where
  stop : replay.stop = hdr.survivorBytes
  answer : replay.answer = .finished
  runs : ∀ run ∈ replay.runs,
    RunOk (base + image.survivorsOff) hdr.survivorBytes (image.bssEnd - image.bssStart) run
  inside : ∀ run ∈ replay.runs, image.bssStart + run.1.offset + run.1.len ≤ image.bssEnd
  ascending : replay.runs.Pairwise fun early late =>
    early.1.offset + early.1.len ≤ late.1.offset
  data : image.segmentStart + hdr.dataBytes = image.bssStart
  dataArea : image.dataOff + hdr.dataBytes ≤ image.snapshotSize
  /-- The stack grows down from its top, so it may start where the segment does. -/
  stack : hdr.savedSp ≤ image.segmentStart ∨ image.bssEnd < hdr.savedSp
  resetStack : hdr.savedSp ≤ base ∨ base + image.snapshotSize < hdr.savedSp
  generation : replay.memory.load (base + 8) 8 = hdr.generation
  counted : hdr.generation + 1 < 2 ^ 64

theorem snapshotValidate_ok {memory : Memory} {hdr : SnapshotHdr} {survivors survivorsSize : Nat}
    {layout : RestartLayout}
    (valid : snapshotValidate memory hdr survivors survivorsSize layout = .ok) :
    (hdr.generation ≠ 0 ∧ hdr.generation ≠ UINT64_MAX) ∧
      hdr.dataBytes = layout.bssStart - layout.segmentStart ∧
      hdr.survivorBytes ≤ survivorsSize ∧ stackTopIsValid hdr.savedSp layout = true ∧
      validateRecords memory survivors hdr.survivorBytes (layout.bssEnd - layout.bssStart) 0 0 =
        .ok := by
  unfold snapshotValidate at valid
  split_ifs at valid with captured generation data survivorBytes stack
  rw [not_or] at generation
  rw [Bool.not_eq_true', Bool.not_eq_false] at stack
  exact ⟨generation, not_not.mp data, Nat.not_lt.mp survivorBytes, stack, valid⟩

section Restore

variable {image : Image} {memory : Memory}

theorem zeroedSegment_outside {base : Nat} (region : snapshotBase image memory = base)
    (passed : restartLayoutCheck (currentLayout image base) = .ok)
    (data : (snapshotHdr memory base).dataBytes = image.bssStart - image.segmentStart) :
    Memory.SameOutside image.segmentStart image.bssEnd (zeroedSegment image memory) memory := by
  have patched := image.patched
  obtain ⟨_, _, order, _, _⟩ := region_of_check passed
  unfold zeroedSegment
  dsimp only
  rw [region, data]
  exact (Memory.clear_outside.mono order (by omega)).trans
    (Memory.copy_within (Nat.le_refl _) (by omega))

theorem safeReplay
    (passed : restartLayoutCheck (currentLayout image (snapshotBase image memory)) = .ok)
    (valid : snapshotValidate memory (snapshotHdr memory (snapshotBase image memory))
      (snapshotBase image memory + image.survivorsOff) image.survivorsSize
      (currentLayout image (snapshotBase image memory)) = .ok) :
    SafeReplay image (snapshotBase image memory)
      (snapshotHdr memory (snapshotBase image memory)) (restoreReplay image memory) := by
  set base := snapshotBase image memory with baseDef
  set hdr := snapshotHdr memory base with hdrDef
  obtain ⟨_, wrap, order, area, apart⟩ := region_of_check passed
  have header := image.header
  have stackRoom := image.stack
  have survivorsRoom := image.survivors
  have patched := image.patched
  obtain ⟨generation, data, used, stack, records⟩ := snapshotValidate_ok valid
  simp only [currentLayout] at data stack records
  obtain ⟨runs, recorded⟩ := recorded_of_validateRecords records
  have outside := zeroedSegment_outside baseDef.symm passed data
  have same : (zeroedSegment image memory).SameOn (base + image.survivorsOff + 0)
      (base + image.survivorsOff + hdr.survivorBytes) memory := outside.sameOn (by omega)
  have areaApart : base + image.survivorsOff + hdr.survivorBytes ≤ image.bssStart ∨
      image.bssStart + (image.bssEnd - image.bssStart) ≤ base + image.survivorsOff := by omega
  obtain ⟨copied, stop, answer, frame⟩ := replayTrace_of_recorded recorded same areaApart
  have replayed : restoreReplay image memory = replayTrace (zeroedSegment image memory)
      (base + image.survivorsOff) hdr.survivorBytes image.bssStart
      (image.bssEnd - image.bssStart) 0 := rfl
  rw [← replayed] at copied stop answer frame
  have runsOk := recorded.runOk
  simp only [stackTopIsValid, rangeHoldsStackTop, Bool.and_eq_true, bne_iff_ne, beq_iff_eq,
    Bool.not_eq_true', Bool.and_eq_false_iff, decide_eq_false_iff_not] at stack
  have bound := Memory.load_lt memory (base + 8) 8
  exact
    { stop
      answer
      runs := copied ▸ runsOk
      inside := by
        intro run member
        have ok := (runsOk run (copied ▸ member)).inside
        omega
      ascending := copied ▸ recorded.ascending.2
      data := by omega
      dataArea := by omega
      stack := by omega
      resetStack := by omega
      generation := by
        have kept := (frame.mono order (by omega)).trans outside
        exact (kept.sameOn (by omega)).load (Nat.le_refl _) (Nat.le_refl _)
      counted := by
        simp only [UINT64_MAX] at generation
        change hdr.generation < 256 ^ 8 at bound
        omega }

/-- A snapshot that passes the checks is restored by its validated copies alone. -/
theorem resetRestore_eq
    (passed : restartLayoutCheck (currentLayout image (snapshotBase image memory)) = .ok)
    (valid : snapshotValidate memory (snapshotHdr memory (snapshotBase image memory))
      (snapshotBase image memory + image.survivorsOff) image.survivorsSize
      (currentLayout image (snapshotBase image memory)) = .ok) :
    resetRestore image memory =
      ((restoreReplay image memory).memory.store
        [⟨snapshotBase image memory + 8, 8,
          (snapshotHdr memory (snapshotBase image memory)).generation + 1⟩],
        .ok (snapshotHdr memory (snapshotBase image memory)).savedSp) := by
  have safe := safeReplay passed valid
  have replayed : (restoreReplay image memory).memory = _ := replayTrace_memory ..
  unfold resetRestore
  dsimp only
  rw [if_neg (not_not.mpr passed), if_neg (not_not.mpr valid), ← safe.generation, replayed]
  rfl

/-- Validation ends after one record header an iteration, whatever the header and
the records hold, and a snapshot it accepts under a sound layout is safe to restore. -/
theorem resetRestore_safe (image : Image) (memory : Memory) :
    (∀ area used bssLen, validateWithin memory area used bssLen (used / HEADER_BYTES + 1) 0 0 =
      some (validateRecords memory area used bssLen 0 0)) ∧
    (restartLayoutCheck (currentLayout image (snapshotBase image memory)) = .ok →
      snapshotValidate memory (snapshotHdr memory (snapshotBase image memory))
        (snapshotBase image memory + image.survivorsOff) image.survivorsSize
        (currentLayout image (snapshotBase image memory)) = .ok →
      SafeReplay image (snapshotBase image memory)
          (snapshotHdr memory (snapshotBase image memory)) (restoreReplay image memory) ∧
        resetRestore image memory =
          ((restoreReplay image memory).memory.store
            [⟨snapshotBase image memory + 8, 8,
              (snapshotHdr memory (snapshotBase image memory)).generation + 1⟩],
            .ok (snapshotHdr memory (snapshotBase image memory)).savedSp)) :=
  ⟨fun _ _ _ => validateWithin_eq (Nat.lt_succ_self _),
    fun passed valid => ⟨safeReplay passed valid, resetRestore_eq passed valid⟩⟩

end Restore

/-- The capture of a small image, restored. -/
theorem resetRestore_safe_small :
    let captured := (bootCapture smallImage 0x8000 smallMemory).1
    SafeReplay smallImage (snapshotBase smallImage captured)
        (snapshotHdr captured (snapshotBase smallImage captured))
        (restoreReplay smallImage captured) ∧
      (restoreReplay smallImage captured).runs.map Prod.fst = [⟨0, 8⟩, ⟨16, 2⟩] := by
  intro captured
  have safe := ((resetRestore_safe smallImage captured).2 (by decide +kernel)
    (by decide +kernel)).1
  exact ⟨safe, by decide +kernel⟩

end Chrysopolis.Beam
