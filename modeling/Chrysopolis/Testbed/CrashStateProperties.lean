import Chrysopolis.Testbed.CrashlogProperties
import Mathlib.Data.List.ModifyLast

/-! Epochs and flushes in the order of the entries, and what a crash state holds of the
writes on either side of a point in the log. -/

set_option autoImplicit false

namespace Chrysopolis.Testbed.Crashlog

/-- The entry at `index` is a write. -/
def WriteAt (entries : List Entry) (index : Nat) : Prop :=
  ∃ entry, entries[index]? = some entry ∧ entry.write = true

/-- How many flushes come before `index`. -/
def flushesBefore (entries : List Entry) (index : Nat) : Nat :=
  (entries.take index).countP (·.flush)

theorem not_flush_of_write {entry : Entry} (write : entry.write = true) : entry.flush = false := by
  have clear : entry.flags &&& (flagFlush ||| flagDiscard) = 0 := beq_iff_eq.mp write
  rw [Nat.and_or_distrib_left, Nat.or_eq_zero_iff] at clear
  exact bne_eq_false_iff_eq.mpr clear.1

theorem WriteAt.lt {entries : List Entry} {index : Nat} (write : WriteAt entries index) :
    index < entries.length :=
  have ⟨_, found, _⟩ := write
  (List.getElem?_eq_some_iff.mp found).1

/-! ### Epochs -/

theorem writeAt_concat {entries : List Entry} {last : Entry} {index epoch : Nat} :
    (WriteAt (entries ++ [last]) index ∧ flushesBefore (entries ++ [last]) index = epoch) ↔
      (WriteAt entries index ∧ flushesBefore entries index = epoch) ∨
        (index = entries.length ∧ last.write = true ∧ entries.countP (·.flush) = epoch) := by
  rcases Nat.lt_trichotomy index entries.length with before | rfl | after
  · have same : (entries ++ [last])[index]? = entries[index]? := List.getElem?_append_left before
    have taken : (entries ++ [last]).take index = entries.take index :=
      List.take_append_of_le_length before.le
    simp only [WriteAt, flushesBefore, same, taken, Nat.ne_of_lt before, false_and, or_false]
  · have none' : ¬WriteAt entries entries.length := fun write => Nat.lt_irrefl _ write.lt
    have last' : WriteAt (entries ++ [last]) entries.length ↔ last.write = true := by
      simp only [WriteAt, List.getElem?_concat_length, Option.some.injEq, exists_eq_left']
    simp only [none', last', false_and, false_or, true_and, flushesBefore, List.take_left']
  · have none' : ¬WriteAt entries index := fun write => Nat.lt_asymm write.lt after
    have absent : ¬WriteAt (entries ++ [last]) index := fun write => by
      have := write.lt
      rw [List.length_append, List.length_singleton] at this
      omega
    simp only [none', absent, Nat.ne_of_gt after, false_and, or_false]

/-- The epoch holds the entry at `index`. -/
def InEpoch (epochs : List (List Nat)) (epoch index : Nat) : Prop :=
  ∃ writes, epochs[epoch]? = some writes ∧ index ∈ writes

theorem inEpoch_concat {closed : List (List Nat)} {current : List Nat} {epoch index : Nat} :
    InEpoch (closed ++ [current]) epoch index ↔
      InEpoch closed epoch index ∨ epoch = closed.length ∧ index ∈ current := by
  rcases Nat.lt_trichotomy epoch closed.length with before | rfl | after
  · simp only [InEpoch, List.getElem?_append_left before, Nat.ne_of_lt before, false_and, or_false]
  · have none' : ¬InEpoch closed closed.length index := by
      rintro ⟨writes, found, -⟩
      exact Nat.lt_irrefl _ (List.getElem?_eq_some_iff.mp found).1
    have last : InEpoch (closed ++ [current]) closed.length index ↔ index ∈ current := by
      simp only [InEpoch, List.getElem?_concat_length, Option.some.injEq, exists_eq_left']
    simp only [none', last, false_or, true_and]
  · have none' : ¬InEpoch closed epoch index := by
      rintro ⟨writes, found, -⟩
      exact Nat.lt_asymm after (List.getElem?_eq_some_iff.mp found).1
    have absent : ¬InEpoch (closed ++ [current]) epoch index := by
      rintro ⟨writes, found, -⟩
      have within := (List.getElem?_eq_some_iff.mp found).1
      rw [List.length_append, List.length_singleton] at within
      omega
    simp only [none', absent, Nat.ne_of_gt after, false_and, or_false]

/-- The epochs of a log are one more than its flushes, and an epoch holds the writes with as
many flushes before them. -/
theorem epochs_spec (entries : List Entry) :
    ∃ closed current, entries.zipIdx.foldl addEntry [[]] = closed ++ [current] ∧
      closed.length = entries.countP (·.flush) ∧
      ∀ epoch index, InEpoch (closed ++ [current]) epoch index ↔
        WriteAt entries index ∧ flushesBefore entries index = epoch := by
  induction entries using List.reverseRecOn with
  | nil =>
      refine ⟨[], [], rfl, rfl, fun epoch index => iff_of_false ?_ ?_⟩
      · rw [inEpoch_concat]
        rintro (⟨_, found, -⟩ | ⟨-, member⟩)
        · cases found
        · cases member
      · rintro ⟨⟨_, found, -⟩, -⟩
        cases found
  | append_singleton entries last ih =>
      obtain ⟨closed, current, folded, length, members⟩ := ih
      have turned : (entries ++ [last]).zipIdx.foldl addEntry [[]] =
          addEntry (closed ++ [current]) (last, entries.length) := by
        rw [List.zipIdx_append, List.foldl_append, folded, Nat.zero_add]
        rfl
      have count : (entries ++ [last]).countP (·.flush) =
          closed.length + if last.flush then 1 else 0 := by
        rw [List.countP_append, length, List.countP_singleton]
      rw [turned, count]
      simp only [writeAt_concat, ← members, ← length]
      cases flushed : last.flush with
      | true =>
          have unwritten : ¬last.write = true := fun write => by
            rw [not_flush_of_write write] at flushed
            cases flushed
          refine ⟨closed ++ [current], [], by rw [addEntry, if_pos flushed],
            List.length_append, fun epoch index => ?_⟩
          rw [inEpoch_concat]
          simp only [List.not_mem_nil, unwritten, Bool.false_eq_true, false_and, and_false,
            or_false]
      | false =>
          by_cases write : last.write = true
          · refine ⟨closed, current ++ [entries.length], ?_, rfl, fun epoch index => ?_⟩
            · simp only [addEntry, flushed, write, Bool.false_eq_true, if_false, if_true,
                List.modifyLast_concat]
            · simp only [inEpoch_concat, List.mem_append, List.mem_singleton, write, true_and]
              constructor
              · rintro (older | ⟨rfl, held | rfl⟩)
                · exact .inl (.inl older)
                · exact .inl (.inr ⟨rfl, held⟩)
                · exact .inr ⟨rfl, rfl⟩
              · rintro ((older | ⟨rfl, held⟩) | ⟨rfl, rfl⟩)
                · exact .inl older
                · exact .inr ⟨rfl, .inl held⟩
                · exact .inr ⟨rfl, .inr rfl⟩
          · refine ⟨closed, current, ?_, rfl, fun epoch index => ?_⟩
            · simp only [addEntry, flushed, write, Bool.false_eq_true, if_false]
            · simp only [write, Bool.false_eq_true, false_and, and_false, or_false]

variable {log : Log}

theorem epochs_length (log : Log) : log.epochs.length = log.flushes.length + 1 := by
  obtain ⟨closed, current, folded, length, -⟩ := epochs_spec log.entries
  rw [Log.epochs, folded, List.length_append, length, Log.flushes, List.countP_eq_length_filter]
  rfl

theorem inEpoch_iff {epoch index : Nat} :
    InEpoch log.epochs epoch index ↔
      WriteAt log.entries index ∧ flushesBefore log.entries index = epoch := by
  obtain ⟨closed, current, folded, -, members⟩ := epochs_spec log.entries
  rw [Log.epochs, folded, members]

/-- What the epochs before `epoch` hold. -/
theorem mem_take_epochs {epoch index : Nat} :
    index ∈ (log.epochs.take epoch).flatten ↔
      WriteAt log.entries index ∧ flushesBefore log.entries index < epoch ∧
        flushesBefore log.entries index < log.epochs.length := by
  rw [List.mem_flatten]
  constructor
  · rintro ⟨writes, taken, member⟩
    obtain ⟨place, within, rfl⟩ := List.mem_take_iff_getElem.mp taken
    obtain ⟨write, before⟩ :=
      inEpoch_iff.mp ⟨log.epochs[place], List.getElem?_eq_getElem (by omega), member⟩
    exact ⟨write, by omega, by omega⟩
  · rintro ⟨write, before, within⟩
    obtain ⟨writes, found, member⟩ := inEpoch_iff.mpr ⟨write, rfl⟩
    obtain ⟨_, same⟩ := List.getElem?_eq_some_iff.mp found
    exact ⟨writes, List.mem_take_iff_getElem.mpr ⟨_, by omega, same⟩, member⟩

/-! ### Places in the log -/

section

variable {size limit position : Nat} {entries : List Entry}

theorem Contiguous.le_stop (contiguous : Contiguous size limit position entries) {index : Nat}
    {entry : Entry} (found : entries[index]? = some entry) : position + size ≤ entry.stop := by
  induction entries generalizing position index with
  | nil => cases found
  | cons head rest ih =>
      obtain ⟨-, progress, -, next⟩ := contiguous
      cases index with
      | zero =>
          obtain rfl := Option.some.inj found
          exact progress
      | succ index =>
          have later := ih next found
          omega

theorem Contiguous.stop_lt (contiguous : Contiguous size limit position entries)
    (positive : 0 < size) {first second : Nat} (order : first < second) {before after : Entry}
    (found : entries[first]? = some before) (other : entries[second]? = some after) :
    before.stop < after.stop := by
  induction entries generalizing position first second with
  | nil => cases found
  | cons head rest ih =>
      obtain ⟨-, -, -, next⟩ := contiguous
      obtain ⟨second, rfl⟩ := Nat.exists_eq_succ_of_ne_zero (Nat.ne_zero_of_lt order)
      cases first with
      | zero =>
          obtain rfl := Option.some.inj found
          have later := next.le_stop other
          omega
      | succ first => exact ih next (Nat.lt_of_succ_lt_succ order) found other

theorem flushesBefore_mono {first second : Nat} (order : first ≤ second) :
    flushesBefore entries first ≤ flushesBefore entries second :=
  (List.take_sublist_take_left order).countP_le

theorem flushesBefore_lt {first second : Nat} (order : first < second) {entry : Entry}
    (found : entries[first]? = some entry) (flush : entry.flush = true) :
    flushesBefore entries first < flushesBefore entries second := by
  have next : flushesBefore entries (first + 1) = flushesBefore entries first + 1 := by
    rw [flushesBefore, List.take_add_one, found, Option.toList_some, List.countP_append,
      List.countP_singleton, if_pos flush]
    rfl
  have later : flushesBefore entries (first + 1) ≤ flushesBefore entries second :=
    flushesBefore_mono order
  omega

/-- Where a flush of the log lies. -/
theorem exists_flush {count : Nat} {flush : Entry}
    (found : (entries.filter (·.flush))[count]? = some flush) :
    ∃ index, entries[index]? = some flush ∧ flush.flush = true ∧
      flushesBefore entries index = count := by
  induction entries generalizing count with
  | nil => cases found
  | cons head rest ih =>
      cases flushed : head.flush with
      | true =>
          rw [List.filter_cons_of_pos flushed] at found
          cases count with
          | zero =>
              obtain rfl := Option.some.inj found
              exact ⟨0, rfl, flushed, rfl⟩
          | succ count =>
              obtain ⟨index, place, flush, before⟩ := ih found
              refine ⟨index + 1, place, flush, ?_⟩
              rw [flushesBefore, List.take_succ_cons, List.countP_cons_of_pos flushed]
              exact congrArg (· + 1) before
      | false =>
          have unflushed : ¬head.flush = true := Bool.eq_false_iff.mp flushed
          rw [List.filter_cons_of_neg unflushed] at found
          obtain ⟨index, place, flush, before⟩ := ih found
          refine ⟨index + 1, place, flush, ?_⟩
          rw [flushesBefore, List.take_succ_cons, List.countP_cons_of_neg unflushed]
          exact before

end

/-- Before the stable point lie exactly the writes of the epochs before. -/
theorem stop_le_stable_iff {epoch point : Nat}
    (contiguous : ∃ limit, Contiguous log.sectorsize limit log.sectorsize log.entries)
    (positive : 0 < log.sectorsize) (stabled : stable log epoch = some point) {index : Nat}
    {entry : Entry} (found : log.entries[index]? = some entry) (write : entry.write = true) :
    entry.stop ≤ point ↔ flushesBefore log.entries index < epoch := by
  obtain ⟨limit, contiguous⟩ := contiguous
  have past := contiguous.le_stop found
  cases epoch with
  | zero =>
      obtain rfl := Option.some.inj stabled
      exact iff_of_false (by omega) (Nat.not_lt_zero _)
  | succ epoch =>
      obtain ⟨flush, closing, rfl⟩ := Option.map_eq_some_iff.mp stabled
      obtain ⟨place, held, flushed, before⟩ := exists_flush closing
      rw [Nat.add_sub_cancel] at before
      have other : index ≠ place := by
        rintro rfl
        obtain rfl := Option.some.inj (found.symm.trans held)
        rw [not_flush_of_write write] at flushed
        cases flushed
      rcases Nat.lt_or_gt_of_ne other with earlier | later
      · have stops := contiguous.stop_lt positive earlier found held
        have counts : flushesBefore log.entries index ≤ flushesBefore log.entries place :=
          flushesBefore_mono earlier.le
        exact iff_of_true stops.le (by omega)
      · have stops := contiguous.stop_lt positive later held found
        have counts := flushesBefore_lt later held flushed
        exact iff_of_false (by omega) (by omega)

/-! ### Crash states -/

theorem mem_state {epoch index : Nat} {subset kept : Finset Nat}
    (stated : state log epoch subset = some kept) :
    index ∈ kept ↔ WriteAt log.entries index ∧
      (flushesBefore log.entries index < epoch ∨
        index ∈ subset ∧ flushesBefore log.entries index = epoch) := by
  obtain ⟨writes, found, same⟩ := Option.bind_eq_some_iff.mp stated
  obtain rfl := Option.some.inj same
  have within : epoch < log.epochs.length := (List.getElem?_eq_some_iff.mp found).1
  have current : index ∈ writes ↔
      WriteAt log.entries index ∧ flushesBefore log.entries index = epoch := by
    rw [← inEpoch_iff, InEpoch, found]
    simp only [Option.some.injEq, exists_eq_left']
  rw [Finset.mem_union, Finset.mem_inter, List.mem_toFinset, List.mem_toFinset, mem_take_epochs,
    current]
  constructor
  · rintro (⟨write, before, -⟩ | ⟨chosen, write, before⟩)
    · exact ⟨write, .inl before⟩
    · exact ⟨write, .inr ⟨chosen, before⟩⟩
  · rintro ⟨write, before | ⟨chosen, before⟩⟩
    · exact .inl ⟨write, before, by omega⟩
    · exact .inr ⟨chosen, write, before⟩

theorem state_mono {epoch : Nat} {subset more kept later : Finset Nat}
    (stated : state log epoch subset = some kept)
    (grown : state log (epoch + 1) more = some later) : kept ⊆ later := by
  intro index member
  obtain ⟨write, before⟩ := (mem_state stated).mp member
  refine (mem_state grown).mpr ⟨write, .inl ?_⟩
  rcases before with before | ⟨-, before⟩ <;> omega

/-- An epoch of the log has a stable point. -/
theorem exists_stable {epoch : Nat} (within : epoch < log.epochs.length) :
    ∃ point, stable log epoch = some point := by
  cases epoch with
  | zero => exact ⟨_, rfl⟩
  | succ epoch =>
      rw [epochs_length] at within
      refine ⟨log.flushes[epoch].stop, ?_⟩
      rw [stable, if_neg (Nat.succ_ne_zero _), Nat.add_sub_cancel,
        List.getElem?_eq_getElem (by omega)]
      rfl

theorem stopOf_of_getElem? {index : Nat} {entry : Entry}
    (found : log.entries[index]? = some entry) : log.stopOf index = entry.stop := by
  rw [Log.stopOf, found]
  rfl

/-- The crash falls at the stable point when nothing of the epoch is kept, else at the end of
the last kept write. -/
theorem crashedAt_spec {epoch point : Nat} {writes : List Nat}
    (found : log.epochs[epoch]? = some writes) (stabled : stable log epoch = some point)
    (subset : Finset Nat) :
    ∃ crash, crashedAt log epoch subset = some crash ∧
      (∀ index ∈ subset ∩ writes.toFinset, log.stopOf index ≤ crash) ∧
      (crash = point ∨ ∃ index ∈ subset ∩ writes.toFinset, crash = log.stopOf index) := by
  refine ⟨((subset ∩ writes.toFinset).image log.stopOf).max.unbotD point, ?_, ?_, ?_⟩
  · rw [crashedAt, found]
    simp only [stabled]
    rfl
  · intro index member
    obtain ⟨last, top⟩ := Finset.max_of_mem (Finset.mem_image_of_mem log.stopOf member)
    rw [top]
    exact Finset.le_max_of_eq (Finset.mem_image_of_mem log.stopOf member) top
  · cases top : ((subset ∩ writes.toFinset).image log.stopOf).max with
    | bot => exact .inl rfl
    | coe last =>
        obtain ⟨index, member, rfl⟩ := Finset.mem_image.mp (Finset.mem_of_max top)
        exact .inr ⟨index, member, rfl⟩

/-- What a crash during an epoch keeps of a parsed log. -/
theorem crash_state {raw : Support.Bytes} (returned : Returns raw (.ok log)) {epoch : Nat}
    {writes : List Nat} (found : log.epochs[epoch]? = some writes) (subset : Finset Nat) :
    ∃ kept point crash, state log epoch subset = some kept ∧ stable log epoch = some point ∧
      crashedAt log epoch subset = some crash ∧
      (∀ index entry, log.entries[index]? = some entry → entry.write = true →
        entry.stop ≤ point → index ∈ kept) ∧
      (∀ index ∈ kept, ∃ entry, log.entries[index]? = some entry ∧ entry.write = true ∧
        entry.stop ≤ crash) ∧
      point ≤ crash := by
  have contiguous := returns_contiguous returned
  have positive := sectorsize_pos returned
  have within : epoch < log.epochs.length := (List.getElem?_eq_some_iff.mp found).1
  obtain ⟨point, stabled⟩ := exists_stable within
  obtain ⟨crash, crashed, above, reached⟩ := crashedAt_spec found stabled subset
  have stated : state log epoch subset =
      some ((log.epochs.take epoch).flatten.toFinset ∪ (subset ∩ writes.toFinset)) := by
    rw [state, found]
    rfl
  have current {index : Nat} (member : index ∈ writes) :
      ∃ entry, log.entries[index]? = some entry ∧ point < entry.stop := by
    obtain ⟨⟨entry, held, write⟩, before⟩ := inEpoch_iff.mp ⟨writes, found, member⟩
    have past := stop_le_stable_iff ⟨_, contiguous⟩ positive stabled held write
    exact ⟨entry, held, by omega⟩
  have later : point ≤ crash := by
    rcases reached with rfl | ⟨index, member, rfl⟩
    · exact Nat.le_refl _
    · obtain ⟨entry, held, past⟩ :=
        current (List.mem_toFinset.mp (Finset.mem_inter.mp member).2)
      rw [stopOf_of_getElem? held]
      exact past.le
  refine ⟨_, point, crash, stated, stabled, crashed, ?_, ?_, later⟩
  · intro index entry held write ended
    have before := (stop_le_stable_iff ⟨_, contiguous⟩ positive stabled held write).mp ended
    exact (mem_state stated).mpr ⟨⟨entry, held, write⟩, .inl before⟩
  · intro index member
    obtain ⟨⟨entry, held, write⟩, before | ⟨chosen, before⟩⟩ := (mem_state stated).mp member
    · have ended := (stop_le_stable_iff ⟨_, contiguous⟩ positive stabled held write).mpr before
      exact ⟨entry, held, write, ended.trans later⟩
    · obtain ⟨_, other, written⟩ := inEpoch_iff.mpr ⟨⟨entry, held, write⟩, before⟩
      obtain rfl := Option.some.inj (found.symm.trans other)
      have ended := above index
        (Finset.mem_inter.mpr ⟨chosen, List.mem_toFinset.mpr written⟩)
      rw [stopOf_of_getElem? held] at ended
      exact ⟨entry, held, write, ended⟩

end Chrysopolis.Testbed.Crashlog
