import Chrysopolis.Beam.Restart

/-! The survivor records describe the bytes of `.bss`. The encoder writes such
records, the validator accepts them, and replaying them over zeros gives the
bytes back, gaps, tail and all. -/

set_option autoImplicit false

namespace Chrysopolis.Beam

open Chrysopolis.Support

/-- The records from `cursor` to `used` spell the bytes from `previousEnd` on:
what no record covers is zero. -/
inductive Describes (memory : Memory) (area used bssLen : Nat) (bytes : Nat → UInt8) :
    Nat → Nat → Prop where
  | finished {previousEnd : Nat}
      (zero : ∀ place, previousEnd ≤ place → place < bssLen → bytes place = 0) :
      Describes memory area used bssLen bytes used previousEnd
  | record {cursor previousEnd : Nat} {hdr : SurvivorHdr}
      (header : survivorHdr memory (area + cursor) = hdr)
      (room : cursor + HEADER_BYTES + hdr.len ≤ used)
      (nonempty : hdr.len ≠ 0)
      (aligned : hdr.offset % WORD_BYTES = 0)
      (whole : hdr.len % WORD_BYTES = 0 ∨
        hdr.offset = bssLen - bssLen % WORD_BYTES ∧ hdr.offset + hdr.len = bssLen)
      (ordered : previousEnd ≤ hdr.offset)
      (inside : hdr.offset + hdr.len ≤ bssLen)
      (zero : ∀ place, previousEnd ≤ place → place < hdr.offset → bytes place = 0)
      (payload : ∀ place < hdr.len,
        memory (area + cursor + HEADER_BYTES + place) = bytes (hdr.offset + place))
      (rest : Describes memory area used bssLen bytes (cursor + HEADER_BYTES + hdr.len)
        (hdr.offset + hdr.len)) :
      Describes memory area used bssLen bytes cursor previousEnd

section Records

variable {memory : Memory} {area used bssLen cursor previousEnd : Nat} {bytes : Nat → UInt8}

theorem survivorRead_finished : survivorRead memory area used bssLen used = .finished :=
  if_pos rfl

theorem survivorRead_record {hdr : SurvivorHdr} (header : survivorHdr memory (area + cursor) = hdr)
    (room : cursor + HEADER_BYTES + hdr.len ≤ used)
    (inside : hdr.offset + hdr.len ≤ bssLen) :
    survivorRead memory area used bssLen cursor =
      .record hdr (area + cursor + HEADER_BYTES) (cursor + HEADER_BYTES + hdr.len) := by
  simp only [HEADER_BYTES] at room
  rw [survivorRead, if_neg (by omega), if_neg (by simp only [HEADER_BYTES]; omega)]
  dsimp only
  rw [header, if_neg (by simp only [HEADER_BYTES]; omega), if_neg (by omega)]

/-- The validator accepts records that describe bytes. -/
theorem validateRecords_of_describes
    (describes : Describes memory area used bssLen bytes cursor previousEnd) :
    validateRecords memory area used bssLen cursor previousEnd = .ok := by
  induction describes with
  | finished zero => rw [validateRecords, survivorRead_finished]
  | @record cursor previousEnd hdr header room nonempty aligned whole ordered inside zero payload
      rest ih =>
      have read := survivorRead_record header room inside
      rw [validateRecords]
      split
      · rfl
      · rename_i failed
        rw [read] at failed
        cases failed
      · rename_i failed
        rw [read] at failed
        cases failed
      · rename_i run _ next taken
        rw [read] at taken
        cases taken
        have accepted : ¬ (hdr.offset % WORD_BYTES ≠ 0 ∨ (hdr.len % WORD_BYTES ≠ 0 ∧
            (!(hdr.offset == bssLen - bssLen % WORD_BYTES &&
              hdr.offset + hdr.len == bssLen)) = true)) := by
          rcases whole with words | ⟨start, stop⟩
          · simp [aligned, words]
          · simp [aligned, ← start, stop]
        rw [if_neg nonempty]
        dsimp only
        rw [if_neg accepted, if_neg (Nat.not_lt.mpr ordered)]
        exact ih

/-- Bytes before the next record that are zero may belong to the gap. -/
theorem Describes.earlier (describes : Describes memory area used bssLen bytes cursor previousEnd)
    {start : Nat} (order : start ≤ previousEnd)
    (gap : ∀ place, start ≤ place → place < previousEnd → bytes place = 0) :
    Describes memory area used bssLen bytes cursor start := by
  have join {stop : Nat} (zero : ∀ place, previousEnd ≤ place → place < stop → bytes place = 0) :
      ∀ place, start ≤ place → place < stop → bytes place = 0 := by
    intro place lower upper
    by_cases early : place < previousEnd
    · exact gap place lower early
    · exact zero place (Nat.not_lt.mp early) upper
  cases describes with
  | finished zero => exact .finished (join zero)
  | record header room nonempty aligned whole ordered inside zero payload rest =>
      exact .record header room nonempty aligned whole (order.trans ordered) inside (join zero)
        payload rest

theorem survivorHdr_congr {other : Memory} {hdr : SurvivorHdr}
    (same : other.SameOn (area + cursor) (area + used) memory)
    (header : survivorHdr memory (area + cursor) = hdr)
    (room : cursor + HEADER_BYTES + hdr.len ≤ used) :
    survivorHdr other (area + cursor) = hdr := by
  simp only [HEADER_BYTES] at room
  rw [← header, survivorHdr, survivorHdr, same.load (by omega) (by omega),
    same.load (by omega) (by omega)]

/-- Only the bytes of the records matter. -/
theorem Describes.congr (describes : Describes memory area used bssLen bytes cursor previousEnd)
    {other : Memory} (same : other.SameOn (area + cursor) (area + used) memory) :
    Describes other area used bssLen bytes cursor previousEnd := by
  induction describes with
  | finished zero => exact .finished zero
  | @record cursor previousEnd hdr header room nonempty aligned whole ordered inside zero payload
      rest ih =>
      refine .record (survivorHdr_congr same header room) room nonempty aligned whole ordered
        inside zero ?_ (ih (same.mono (by omega) (Nat.le_refl _)))
      intro place bound
      rw [same _ (by omega) (by omega)]
      exact payload place bound

theorem replaySurvivors_finished {bss : Nat} :
    replaySurvivors memory area used bss bssLen used = memory := by
  rw [replaySurvivors, survivorRead_finished]

theorem replaySurvivors_record {bss payload next : Nat} {run : SurvivorHdr}
    (read : survivorRead memory area used bssLen cursor = .record run payload next) :
    replaySurvivors memory area used bss bssLen cursor =
      replaySurvivors (memory.copy (bss + run.offset) payload run.len) area used bss bssLen
        next := by
  rw [replaySurvivors]
  split
  · rename_i taken
    rw [read] at taken
    cases taken
    rfl
  · rename_i other
    exact absurd read (other run payload next)

/-- Replaying the records over zeros gives the bytes back and writes nothing else. -/
theorem replaySurvivors_of_describes {bss : Nat} {current : Memory}
    (describes : Describes memory area used bssLen bytes cursor previousEnd)
    (same : current.SameOn (area + cursor) (area + used) memory)
    (apart : area + used ≤ bss ∨ bss + bssLen ≤ area)
    (restored : ∀ place < previousEnd, place < bssLen → current (bss + place) = bytes place)
    (cleared : ∀ place, previousEnd ≤ place → place < bssLen → current (bss + place) = 0) :
    Memory.SameOutside bss (bss + bssLen) (replaySurvivors current area used bss bssLen cursor)
        current ∧
      ∀ place < bssLen,
        replaySurvivors current area used bss bssLen cursor (bss + place) = bytes place := by
  induction describes generalizing current with
  | @finished previousEnd zero =>
      rw [replaySurvivors_finished]
      refine ⟨Memory.SameOutside.rfl, fun place bound => ?_⟩
      by_cases early : place < previousEnd
      · exact restored place early bound
      · have late := Nat.not_lt.mp early
        rw [cleared place late bound, zero place late bound]
  | @record cursor previousEnd hdr header room nonempty aligned whole ordered inside zero payload
      rest ih =>
      have read := survivorRead_record (survivorHdr_congr same header room) room inside
      have copied : Memory.SameOutside (bss + hdr.offset) (bss + hdr.offset + hdr.len)
          (current.copy (bss + hdr.offset) (area + cursor + HEADER_BYTES) hdr.len) current :=
        Memory.copy_outside
      have copiedBss := copied.mono (Nat.le_add_right bss hdr.offset)
        (show bss + hdr.offset + hdr.len ≤ bss + bssLen by omega)
      rw [replaySurvivors_record read]
      have later := ih
        ((copiedBss.sameOn (by omega)).trans (same.mono (by omega) (Nat.le_refl _))) ?before ?after
      · exact ⟨later.1.trans copiedBss, later.2⟩
      case before =>
        intro place below bound
        by_cases run : hdr.offset ≤ place
        · have byte := payload (place - hdr.offset) (by omega)
          rw [Nat.add_sub_cancel' run] at byte
          rw [Memory.copy_inside (by omega) (by omega), Nat.add_sub_add_left,
            same _ (by omega) (by omega), byte]
        · rw [copied _ (.inl (by omega))]
          by_cases early : place < previousEnd
          · exact restored place early bound
          · have late := Nat.not_lt.mp early
            rw [cleared place late bound, zero place late (by omega)]
      case after =>
        intro place above bound
        rw [copied _ (.inr (by omega))]
        exact cleared place (by omega) bound

end Records

/-! ## The encoder -/

theorem Describes.cursor_le {memory : Memory} {area used bssLen cursor previousEnd : Nat}
    {bytes : Nat → UInt8}
    (describes : Describes memory area used bssLen bytes cursor previousEnd) : cursor ≤ used := by
  cases describes with
  | finished => exact Nat.le_refl _
  | record header room => omega

theorem bytes_of_loadWord_eq_zero {memory : Memory} {bss index : Nat}
    (zero : loadWord memory bss index = 0) {place : Nat} (lower : index * WORD_BYTES ≤ place)
    (upper : place < (index + 1) * WORD_BYTES) : memory (bss + place) = 0 := by
  rw [Nat.succ_mul] at upper
  exact Memory.allZero_iff.mp (Memory.allZero_of_load_eq_zero zero) _ (by omega) (by omega)

/-- Where the extension stops and what it skipped: only zero words follow the last
word it keeps. -/
theorem extendRun_spec {memory : Memory} {bss nwords gapWords i last : Nat} (order : last < i)
    (bound : i ≤ nwords)
    (zero : ∀ index, last < index → index < i → loadWord memory bss index = 0) :
    let run := extendRun memory bss nwords gapWords i last
    last ≤ run.2 ∧ run.2 < run.1 ∧ run.1 ≤ nwords ∧
      ∀ index, run.2 < index → index < run.1 → loadWord memory bss index = 0 := by
  induction i, last using extendRun.induct memory bss nwords gapWords with
  | case1 i last more ih =>
      rw [extendRun, if_pos more]
      simp only [dite_eq_ite] at ih
      by_cases word : loadWord memory bss i = 0
      · rw [if_neg (not_not.mpr word)] at ih ⊢
        apply ih (order.trans (Nat.lt_succ_self i)) more.1
        intro index above below
        rcases Nat.lt_succ_iff_lt_or_eq.mp below with early | rfl
        · exact zero index above early
        · exact word
      · rw [if_pos word] at ih ⊢
        have later := ih (Nat.lt_succ_self i) more.1 fun index above below => by omega
        exact ⟨order.le.trans later.1, later.2⟩
  | case2 i last done =>
      rw [extendRun, if_neg done]
      exact ⟨Nat.le_refl _, order, bound, zero⟩

section Encoder

variable {memory : Memory} {bss bssLen nwords gapWords out capacity used : Nat}
  {bytes : Nat → UInt8}

theorem appendRun_bounds {offset len : Nat} {appended : Memory} {written : Nat}
    (ran : appendRun memory bss offset len out capacity used = some (appended, written)) :
    written = used + HEADER_BYTES + len ∧ written ≤ capacity ∧
      Memory.SameOutside (out + used) (out + written) appended memory := by
  unfold appendRun at ran
  split at ran
  · cases ran
  rename_i room
  cases ran
  simp only [HEADER_BYTES] at room ⊢
  refine ⟨trivial, by omega, ?_⟩
  refine (Memory.copy_within (by omega) (by omega)).trans (Memory.store_outside ?_)
  simp only [List.mem_cons, List.not_mem_nil, or_false, forall_eq_or_imp, forall_eq]
  omega

/-- The record just appended reads back. -/
theorem appendRun_record {offset len : Nat} {appended : Memory} {written : Nat}
    (ran : appendRun memory bss offset len out capacity used = some (appended, written))
    (apart : out + capacity ≤ bss + offset ∨ bss + offset + len ≤ out)
    (offsetWord : offset ≤ UINT32_MAX) (lenWord : len ≤ UINT32_MAX) :
    survivorHdr appended (out + used) = ⟨offset, len⟩ ∧
      ∀ place < len,
        appended (out + used + HEADER_BYTES + place) = memory (bss + offset + place) := by
  have bounds := appendRun_bounds ran
  unfold appendRun at ran
  split at ran
  · cases ran
  rename_i room
  cases ran
  simp only [HEADER_BYTES, UINT32_MAX] at room bounds offsetWord lenWord ⊢
  have coherent : Memory.Coherent [⟨out + used, 4, offset⟩, ⟨out + used + 4, 4, len⟩] :=
    Memory.Coherent.of_pairwise (by simp)
  have offsetRead := Memory.load_store_field memory coherent List.mem_cons_self
    (show offset < 256 ^ 4 by omega)
  have lenRead := Memory.load_store_field memory coherent
    (.tail _ List.mem_cons_self) (show len < 256 ^ 4 by omega)
  constructor
  · generalize memory.store _ = headed at offsetRead lenRead ⊢
    have kept : Memory.SameOn (out + used) (out + used + 8)
        (headed.copy (out + used + 8) (bss + offset) len) headed :=
      Memory.copy_outside.sameOn (.inl (Nat.le_refl _))
    rw [survivorHdr, kept.load (by omega) (by omega), kept.load (by omega) (by omega),
      offsetRead, lenRead]
  · intro place bound
    rw [Memory.copy_inside (by omega) (by omega), Nat.add_sub_cancel_left]
    apply Memory.store_other
    simp only [List.mem_cons, List.not_mem_nil, or_false, forall_eq_or_imp, forall_eq]
    omega

/-- A run of words between zero words and what the rest spells make one record more. -/
theorem Describes.appendRun {offset len previousEnd total : Nat} {appended final later : Memory}
    {written finished : Nat}
    (ran : Beam.appendRun memory bss offset len out capacity used = some (appended, written))
    (apart : out + capacity ≤ bss ∨ bss + bssLen ≤ out) (small : bssLen ≤ UINT32_MAX)
    (nonempty : len ≠ 0) (aligned : offset % WORD_BYTES = 0)
    (whole : len % WORD_BYTES = 0 ∨
      offset = bssLen - bssLen % WORD_BYTES ∧ offset + len = bssLen)
    (ordered : previousEnd ≤ offset) (inside : offset + len ≤ bssLen)
    (spelled : ∀ place < bssLen, memory (bss + place) = bytes place)
    (zero : ∀ place, previousEnd ≤ place → place < offset → bytes place = 0)
    (frame : Memory.SameOutside (out + written) (out + finished) final appended)
    (order : written ≤ finished)
    (same : later.SameOn (out + used) (out + finished) final)
    (rest : Describes later out total bssLen bytes written (offset + len)) :
    Describes later out total bssLen bytes used previousEnd := by
  have bounds := appendRun_bounds ran
  have record := appendRun_record ran (by omega) (by omega) (by omega)
  have kept : later.SameOn (out + used) (out + written) appended :=
    (same.mono (Nat.le_refl _) (by omega)).trans (frame.sameOn (.inl (Nat.le_refl _)))
  have header : survivorHdr later (out + used) = ⟨offset, len⟩ :=
    survivorHdr_congr kept record.1 (Nat.le_of_eq bounds.1.symm)
  refine .record header ?_ nonempty aligned whole ordered inside zero ?_ ?_
  · rw [← bounds.1]
    exact rest.cursor_le
  · intro place bound
    rw [kept _ (by omega) (by rw [bounds.1]; dsimp only at bound; omega),
      record.2 place bound, Nat.add_assoc]
    exact spelled _ (by dsimp only at bound; omega)
  · rw [← bounds.1]
    exact rest

/-- What the scan writes spells the words from `i` on, whatever follows them. -/
theorem encodeWords_spec {final : Memory} {i written : Nat}
    (ran : encodeWords memory bss nwords gapWords out capacity i used = (final, some written))
    (room : used ≤ capacity) (bound : i ≤ nwords) (words : nwords * WORD_BYTES ≤ bssLen)
    (apart : out + capacity ≤ bss ∨ bss + bssLen ≤ out) (small : bssLen ≤ UINT32_MAX)
    (spelled : ∀ place < bssLen, memory (bss + place) = bytes place) :
    used ≤ written ∧ written ≤ capacity ∧
      Memory.SameOutside (out + used) (out + written) final memory ∧
      ∀ (later : Memory) (total : Nat), later.SameOn (out + used) (out + written) final →
        Describes later out total bssLen bytes written (nwords * WORD_BYTES) →
        Describes later out total bssLen bytes used (i * WORD_BYTES) := by
  induction memory, i, used using encodeWords.induct bss nwords gapWords out capacity with
  | case1 memory i used more zero ih =>
      rw [encodeWords, dif_pos more, if_pos zero] at ran
      obtain ⟨order, fits, frame, spells⟩ := ih ran room more spelled
      refine ⟨order, fits, frame, fun later total same rest => ?_⟩
      refine (spells later total same rest).earlier (Nat.mul_le_mul_right _ (Nat.le_succ i)) ?_
      intro place lower upper
      have inside : (i + 1) * WORD_BYTES ≤ nwords * WORD_BYTES := Nat.mul_le_mul_right _ more
      rw [← spelled place (by omega)]
      exact bytes_of_loadWord_eq_zero zero lower upper
  | case2 memory i used more nonzero run failed =>
      rw [encodeWords, dif_pos more, if_neg nonzero] at ran
      simp only [run] at failed
      simp only [failed] at ran
      cases ran
  | case3 memory i used more nonzero run appended next success ih =>
      rw [encodeWords, dif_pos more, if_neg nonzero] at ran
      simp only [run] at success ih
      simp only [success] at ran
      obtain ⟨above, ahead, stop, skipped⟩ :=
        extendRun_spec (Nat.lt_succ_self i) more fun index above below => absurd below (by omega)
      generalize extendRun memory bss nwords gapWords (i + 1) i = run at *
      have bounds := appendRun_bounds success
      have unmoved : ∀ place < bssLen, appended (bss + place) = memory (bss + place) :=
        fun place inside => bounds.2.2 _ (by omega)
      obtain ⟨order, fits, frame, spells⟩ := ih ran bounds.2.1 stop
        fun place inside => (unmoved place inside).trans (spelled place inside)
      have length : i * WORD_BYTES + (run.2 - i + 1) * WORD_BYTES = (run.2 + 1) * WORD_BYTES := by
        rw [← Nat.add_mul]
        congr 1
        omega
      have inside : run.1 * WORD_BYTES ≤ nwords * WORD_BYTES := Nat.mul_le_mul_right _ stop
      have upTo : (run.2 + 1) * WORD_BYTES ≤ run.1 * WORD_BYTES := Nat.mul_le_mul_right _ ahead
      refine ⟨by omega, fits,
        (frame.mono (by omega) (Nat.le_refl _)).trans
          (bounds.2.2.mono (Nat.le_refl _) (by omega)), fun later total same rest => ?_⟩
      refine Describes.appendRun success apart small (by simp [WORD_BYTES]) (Nat.mul_mod_left _ _)
        (.inl (Nat.mul_mod_left _ _)) (Nat.le_refl _) (by omega) spelled
        (fun place lower upper => absurd upper (Nat.not_lt.mpr lower)) frame order same ?_
      rw [length]
      refine (spells later total (same.mono (by omega) (Nat.le_refl _)) rest).earlier upTo ?_
      intro place lower upper
      have word : place / WORD_BYTES * WORD_BYTES ≤ place ∧
          place < (place / WORD_BYTES + 1) * WORD_BYTES := by
        simp only [WORD_BYTES]
        omega
      rw [← spelled place (by omega)]
      apply bytes_of_loadWord_eq_zero (skipped (place / WORD_BYTES) ?_ ?_) word.1 word.2
      · simp only [WORD_BYTES] at lower ⊢
        omega
      · simp only [WORD_BYTES] at upper ⊢
        omega
  | case4 memory i used done =>
      rw [encodeWords, dif_neg done] at ran
      cases ran
      have last : i = nwords := Nat.le_antisymm bound (Nat.not_lt.mp done)
      subst last
      exact ⟨Nat.le_refl _, room, Memory.SameOutside.rfl, fun _ _ _ rest => rest⟩

/-- The scan writes only to its output, also when the output is too small. -/
theorem encodeWords_outside {i : Nat} :
    Memory.SameOutside out (out + capacity)
      (encodeWords memory bss nwords gapWords out capacity i used).1 memory := by
  induction memory, i, used using encodeWords.induct bss nwords gapWords out capacity with
  | case1 memory i used more zero ih =>
      rw [encodeWords, dif_pos more, if_pos zero]
      exact ih
  | case2 memory i used more nonzero run failed =>
      rw [encodeWords, dif_pos more, if_neg nonzero]
      simp only [run] at failed
      simp only [failed]
      exact Memory.SameOutside.rfl
  | case3 memory i used more nonzero run appended next success ih =>
      rw [encodeWords, dif_pos more, if_neg nonzero]
      simp only [run] at success ih
      simp only [success]
      have bounds := appendRun_bounds success
      exact ih.trans (bounds.2.2.mono (by omega) (by omega))
  | case4 memory i used done =>
      rw [encodeWords, dif_neg done]
      exact Memory.SameOutside.rfl

/-- The tail's record, when it needs one, spells what is left of the bytes. -/
theorem encodeTail_spec {final : Memory} {written : Nat}
    (ran : encodeTail memory bss bssLen out capacity used = (final, some written))
    (room : used ≤ capacity) (apart : out + capacity ≤ bss ∨ bss + bssLen ≤ out)
    (small : bssLen ≤ UINT32_MAX)
    (spelled : ∀ place < bssLen, memory (bss + place) = bytes place) :
    used ≤ written ∧ written ≤ capacity ∧
      Memory.SameOutside (out + used) (out + written) final memory ∧
      Describes final out written bssLen bytes used (bssLen / WORD_BYTES * WORD_BYTES) := by
  unfold encodeTail at ran
  dsimp only at ran
  have floor : bssLen / WORD_BYTES * WORD_BYTES ≤ bssLen := Nat.div_mul_le_self _ _
  split at ran
  · rename_i zero
    cases ran
    refine ⟨Nat.le_refl _, room, Memory.SameOutside.rfl, .finished fun place lower upper => ?_⟩
    rw [← spelled place upper]
    exact Memory.allZero_iff.mp zero _ (by omega) (by omega)
  · rename_i nonzero
    split at ran
    · cases ran
    rename_i appended next success
    cases ran
    have bounds := appendRun_bounds success
    have left : bssLen - bssLen / WORD_BYTES * WORD_BYTES ≠ 0 := by
      intro none
      rw [none] at nonzero
      exact nonzero rfl
    refine ⟨by omega, bounds.2.1, bounds.2.2, ?_⟩
    refine Describes.appendRun success apart small left (Nat.mul_mod_left _ _)
      (.inr ⟨?_, by omega⟩) (Nat.le_refl _) (by omega) spelled
      (fun place lower upper => absurd upper (Nat.not_lt.mpr lower)) Memory.SameOutside.rfl
      (Nat.le_refl _) (fun _ _ _ => rfl) (.finished fun place lower upper => by omega)
    simp only [WORD_BYTES]
    omega

theorem encodeTail_outside :
    Memory.SameOutside out (out + capacity)
      (encodeTail memory bss bssLen out capacity used).1 memory := by
  unfold encodeTail
  dsimp only
  split
  · exact Memory.SameOutside.rfl
  · split
    · exact Memory.SameOutside.rfl
    · rename_i success
      have bounds := appendRun_bounds success
      exact bounds.2.2.mono (by omega) (by omega)

/-- The encoder's output spells `.bss`. -/
theorem describes_of_survivorsEncode {final : Memory} {written : Nat}
    (ran : survivorsEncode memory bss bssLen gapWords out capacity = (final, .ok written))
    (apart : out + capacity ≤ bss ∨ bss + bssLen ≤ out)
    (spelled : ∀ place < bssLen, memory (bss + place) = bytes place) :
    written ≤ capacity ∧ Memory.SameOutside out (out + written) final memory ∧
      Describes final out written bssLen bytes 0 0 := by
  unfold survivorsEncode at ran
  split at ran
  · cases ran
  rename_i small
  split at ran
  · cases ran
  rename_i scanned used scan
  split at ran
  · cases ran
  rename_i tail
  cases ran
  have bound : bssLen ≤ UINT32_MAX := Nat.not_lt.mp small
  obtain ⟨_, scanRoom, scanFrame, spells⟩ := encodeWords_spec scan (Nat.zero_le _) (Nat.zero_le _)
    (Nat.div_mul_le_self _ _) apart bound spelled
  obtain ⟨order, room, tailFrame, rest⟩ := encodeTail_spec tail scanRoom apart bound
    fun place inside => (scanFrame _ (by omega)).trans (spelled place inside)
  refine ⟨room, (tailFrame.mono (by omega) (Nat.le_refl _)).trans
    (scanFrame.mono (Nat.le_refl _) (by omega)), ?_⟩
  have whole := spells final written (tailFrame.sameOn (.inl (Nat.le_refl _))) rest
  rwa [Nat.zero_mul] at whole

/-- What the encoder wrote passes the validator, and replaying it over zeros gives
`.bss` back. -/
theorem survivorsEncode_round_trip {final : Memory} {written : Nat}
    (ran : survivorsEncode memory bss bssLen gapWords out capacity = (final, .ok written))
    (apart : out + capacity ≤ bss ∨ bss + bssLen ≤ out) :
    validateRecords final out written bssLen 0 0 = .ok ∧
      (replaySurvivors (final.clear bss bssLen) out written bss bssLen 0).SameOn bss
        (bss + bssLen) memory := by
  obtain ⟨room, _, describes⟩ := describes_of_survivorsEncode ran apart fun _ _ => rfl
  refine ⟨validateRecords_of_describes describes, fun position lower upper => ?_⟩
  have cleared : Memory.SameOutside bss (bss + bssLen) (final.clear bss bssLen) final :=
    Memory.clear_outside
  have replayed := (replaySurvivors_of_describes describes (cleared.sameOn (by omega))
    (show out + written ≤ bss ∨ bss + bssLen ≤ out by omega)
    (fun place below => absurd below (Nat.not_lt_zero _))
    fun place _ inside => Memory.clear_inside (Nat.le_add_right _ _) (by omega)).2
    (position - bss) (by omega)
  rwa [Nat.add_sub_cancel' lower] at replayed

theorem survivorsEncode_outside :
    Memory.SameOutside out (out + capacity)
      (survivorsEncode memory bss bssLen gapWords out capacity).1 memory := by
  unfold survivorsEncode
  split
  · exact Memory.SameOutside.rfl
  have scan : Memory.SameOutside out (out + capacity)
      (encodeWords memory bss (bssLen / WORD_BYTES) gapWords out capacity 0 0).1 memory :=
    encodeWords_outside
  split
  · rename_i scanned ran
    rw [ran] at scan
    exact scan
  · rename_i scanned written ran
    rw [ran] at scan
    have tail : Memory.SameOutside out (out + capacity)
        (encodeTail scanned bss bssLen out capacity written).1 scanned := encodeTail_outside
    split
    · rename_i ended
      rw [ended] at tail
      exact tail.trans scan
    · rename_i ended
      rw [ended] at tail
      exact tail.trans scan

/-! ### What the outcome depends on -/

variable {other : Memory}

theorem extendRun_congr {i last : Nat}
    (same : ∀ index < nwords, loadWord other bss index = loadWord memory bss index) :
    extendRun other bss nwords gapWords i last = extendRun memory bss nwords gapWords i last := by
  induction i, last using extendRun.induct memory bss nwords gapWords with
  | case1 i last more ih =>
      simp only [dite_eq_ite] at ih
      rw [extendRun, extendRun.eq_def memory, if_pos more, if_pos more, same i more.1]
      exact ih
  | case2 i last done =>
      rw [extendRun, extendRun.eq_def memory, if_neg done, if_neg done]

/-- Whether a record fits does not depend on the bytes. -/
theorem appendRun_congr {offset len : Nat} {result : Option (Memory × Nat)}
    (ran : appendRun memory bss offset len out capacity used = result) :
    (appendRun other bss offset len out capacity used).map Prod.snd = result.map Prod.snd := by
  rw [← ran]
  unfold appendRun
  split
  · rfl
  · rw [Option.map_some, Option.map_some]

/-- Whether the records fit, and their size, depends on the bytes of `.bss` only. -/
theorem encodeWords_congr {i : Nat} (words : nwords * WORD_BYTES ≤ bssLen)
    (apart : out + capacity ≤ bss ∨ bss + bssLen ≤ out)
    (same : other.SameOn bss (bss + bssLen) memory) :
    (encodeWords other bss nwords gapWords out capacity i used).2 =
      (encodeWords memory bss nwords gapWords out capacity i used).2 := by
  have sameWords {left right : Memory} (agree : left.SameOn bss (bss + bssLen) right) :
      ∀ index < nwords, loadWord left bss index = loadWord right bss index := by
    intro index below
    have inside : (index + 1) * WORD_BYTES ≤ nwords * WORD_BYTES := Nat.mul_le_mul_right _ below
    rw [Nat.succ_mul] at inside
    exact agree.load (Nat.le_add_right _ _) (by omega)
  induction memory, i, used using encodeWords.induct bss nwords gapWords out capacity
    generalizing other with
  | case1 memory i used more zero ih =>
      rw [encodeWords, encodeWords.eq_def memory, dif_pos more, dif_pos more,
        sameWords same i more, if_pos zero, if_pos zero]
      exact ih same
  | case2 memory i used more nonzero run =>
      rename_i failed
      rw [encodeWords, encodeWords.eq_def memory, dif_pos more, dif_pos more,
        sameWords same i more, if_neg nonzero, if_neg nonzero]
      dsimp only
      rw [extendRun_congr (sameWords same)]
      simp only [run] at failed
      simp only [failed, Option.map_eq_none_iff.mp (appendRun_congr failed)]
  | case3 memory i used more nonzero run appended next =>
      rename_i success ih
      rw [encodeWords, encodeWords.eq_def memory, dif_pos more, dif_pos more,
        sameWords same i more, if_neg nonzero, if_neg nonzero]
      dsimp only
      rw [extendRun_congr (sameWords same)]
      have alsoRan : (appendRun other bss _ _ out capacity used).map _ = _ :=
        appendRun_congr success
      obtain ⟨⟨otherAppended, written⟩, otherSuccess, rfl⟩ := Option.map_eq_some_iff.mp alsoRan
      simp only [run] at success otherSuccess ih
      simp only [success, otherSuccess]
      apply ih
      have kept := (appendRun_bounds success).2.2
      have otherKept := (appendRun_bounds otherSuccess).2.2
      have room := (appendRun_bounds success).2.1
      exact (otherKept.sameOn (by omega)).trans (same.trans (kept.sameOn (by omega)).symm)
  | case4 memory i used done =>
      rw [encodeWords, encodeWords.eq_def memory, dif_neg done, dif_neg done]

theorem encodeTail_congr (same : other.SameOn bss (bss + bssLen) memory) :
    (encodeTail other bss bssLen out capacity used).2 =
      (encodeTail memory bss bssLen out capacity used).2 := by
  have floor : bssLen / WORD_BYTES * WORD_BYTES ≤ bssLen := Nat.div_mul_le_self _ _
  unfold encodeTail
  dsimp only
  rw [Memory.allZero_congr fun position lower upper =>
    same position (by omega) (by omega)]
  split
  · rfl
  · cases success : appendRun memory bss (bssLen / WORD_BYTES * WORD_BYTES)
        (bssLen - bssLen / WORD_BYTES * WORD_BYTES) out capacity used with
    | none => rw [Option.map_eq_none_iff.mp (appendRun_congr success)]
    | some appended =>
        have alsoRan : (appendRun other bss _ _ out capacity used).map _ = _ :=
          appendRun_congr success
        obtain ⟨otherAppended, otherSuccess, written⟩ := Option.map_eq_some_iff.mp alsoRan
        rw [otherSuccess]
        exact congrArg some written

theorem survivorsEncode_congr (apart : out + capacity ≤ bss ∨ bss + bssLen ≤ out)
    (same : other.SameOn bss (bss + bssLen) memory) :
    (survivorsEncode other bss bssLen gapWords out capacity).2 =
      (survivorsEncode memory bss bssLen gapWords out capacity).2 := by
  have scan : (encodeWords other bss (bssLen / WORD_BYTES) gapWords out capacity 0 0).2 =
      (encodeWords memory bss (bssLen / WORD_BYTES) gapWords out capacity 0 0).2 :=
    encodeWords_congr (Nat.div_mul_le_self _ _) apart same
  have kept (start : Memory) : (encodeWords start bss (bssLen / WORD_BYTES) gapWords out capacity
      0 0).1.SameOn bss (bss + bssLen) start :=
    encodeWords_outside.sameOn (by omega)
  have scanned := ((kept other).trans same).trans (kept memory).symm
  unfold survivorsEncode
  split
  · rfl
  generalize encodeWords other bss (bssLen / WORD_BYTES) gapWords out capacity 0 0 = left at *
  generalize encodeWords memory bss (bssLen / WORD_BYTES) gapWords out capacity 0 0 = right at *
  obtain ⟨leftMemory, leftWritten⟩ := left
  obtain ⟨rightMemory, rightWritten⟩ := right
  dsimp only at scan scanned
  subst scan
  cases leftWritten with
  | none => rfl
  | some written =>
      dsimp only
      have tail : (encodeTail leftMemory bss bssLen out capacity written).2 =
          (encodeTail rightMemory bss bssLen out capacity written).2 := encodeTail_congr scanned
      generalize encodeTail leftMemory bss bssLen out capacity written = left at *
      generalize encodeTail rightMemory bss bssLen out capacity written = right at *
      obtain ⟨leftMemory, leftUsed⟩ := left
      obtain ⟨rightMemory, rightUsed⟩ := right
      dsimp only at tail
      subst tail
      cases leftUsed <;> rfl

end Encoder

end Chrysopolis.Beam
