import Chrysopolis.Testbed.Crashlog

/-! The walk of `parse`: where it ends, what a cut log keeps of it, and how epochs and
flushes lie in the entries. -/

set_option autoImplicit false

namespace Chrysopolis.Testbed.Crashlog

open Chrysopolis.Support

/-- The bytes of a superblock. -/
def superSize : Nat := 28

/-- Entries one after another from `position` on, within `limit` bytes, each with at least
the `size` bytes of its header's sector. -/
def Contiguous (size limit : Nat) : Nat → List Entry → Prop
  | _, [] => True
  | position, entry :: entries =>
      entry.start = position ∧ position + size ≤ entry.stop ∧ entry.stop ≤ limit ∧
        Contiguous size limit entry.stop entries

/-! ### One turn -/

theorem field_take (raw : Bytes) {offset width kept : Nat} (within : offset + width ≤ kept) :
    field (raw.take kept) offset width = field raw offset width := by
  rw [field, field, List.drop_take, List.take_take, Nat.min_eq_left (by omega)]

theorem unpackHeader_of_le {raw : Bytes} {pos : Nat} (within : pos + 32 ≤ raw.length) :
    unpackHeader raw pos = .ok (field raw pos 8, field raw (pos + 8) 8, field raw (pos + 16) 8,
      field raw (pos + 24) 8) :=
  if_neg (by omega)

theorem unpackHeader_of_lt {raw : Bytes} {pos : Nat} (short : raw.length < pos + 32) :
    unpackHeader raw pos = .error .structError :=
  if_pos short

/-- Where an entry with these header fields ends. -/
def entryStop (sectorsize pos nrSectors flags : Nat) : Nat :=
  pos + sectorsize + if flags &&& (flagFlush ||| flagDiscard) ≠ 0 then 0 else nrSectors * sectorsize

/-- A turn in full, over the fields of a header that is there. -/
theorem visit_of_le {raw : Bytes} {sectorsize pos : Nat} (within : pos + sectorsize ≤ raw.length)
    (header : pos + 32 ≤ raw.length) :
    visit raw sectorsize pos =
      if (field raw pos 8, field raw (pos + 8) 8, field raw (pos + 16) 8) = (0, 0, 0) then .ok none
      else if field raw (pos + 16) 8 &&& flagMask ≠ field raw (pos + 16) 8 then
        .error (.unknownFlags (field raw (pos + 16) 8) pos)
      else if raw.length <
          entryStop sectorsize pos (field raw (pos + 8) 8) (field raw (pos + 16) 8) then .ok none
      else .ok (some
        { start := pos
          stop := entryStop sectorsize pos (field raw (pos + 8) 8) (field raw (pos + 16) 8)
          sector := field raw pos 8
          nrSectors := field raw (pos + 8) 8
          flags := field raw (pos + 16) 8
          data := (raw.drop (pos + sectorsize)).take
            (entryStop sectorsize pos (field raw (pos + 8) 8) (field raw (pos + 16) 8) -
              (pos + sectorsize)) }) := by
  rw [visit, if_pos within, unpackHeader_of_le header]
  rfl

theorem visit_of_gt {raw : Bytes} {sectorsize pos : Nat} (past : raw.length < pos + sectorsize) :
    visit raw sectorsize pos = .ok none :=
  if_neg (by omega)

theorem visit_of_short {raw : Bytes} {sectorsize pos : Nat} (within : pos + sectorsize ≤ raw.length)
    (short : raw.length < pos + 32) : visit raw sectorsize pos = .error .structError := by
  rw [visit, if_pos within, unpackHeader_of_lt short]
  rfl

/-- An entry starts where the walk stands, has its header's sector and lies in the log. -/
theorem visit_bounds {raw : Bytes} {sectorsize pos : Nat} {entry : Entry}
    (visited : visit raw sectorsize pos = .ok (some entry)) :
    entry.start = pos ∧ pos + sectorsize ≤ entry.stop ∧ entry.stop ≤ raw.length := by
  rcases Nat.lt_or_ge raw.length (pos + sectorsize) with past | within
  · rw [visit_of_gt past] at visited
    cases visited
  rcases Nat.lt_or_ge raw.length (pos + 32) with short | header
  · rw [visit_of_short within short] at visited
    cases visited
  rw [visit_of_le within header] at visited
  split at visited
  · cases visited
  split at visited
  · cases visited
  split at visited
  · cases visited
  next fits =>
    obtain rfl := Option.some.inj (Except.ok.inj visited)
    exact ⟨rfl, Nat.le_add_right .., Nat.le_of_not_lt fits⟩

/-- A turn on a cut log does what it does on the whole one, ends the walk, or meets a header
that the cut splits. -/
theorem visit_take {raw : Bytes} {sectorsize pos kept : Nat} {visited : Option Entry}
    (whole : visit raw sectorsize pos = .ok visited) (shorter : kept ≤ raw.length) :
    visit (raw.take kept) sectorsize pos = .ok visited ∨
      visit (raw.take kept) sectorsize pos = .ok none ∨
      visit (raw.take kept) sectorsize pos = .error .structError ∧
        pos + sectorsize ≤ kept ∧ kept < pos + 32 := by
  have length : (raw.take kept).length = kept := List.length_take_of_le shorter
  rcases Nat.lt_or_ge kept (pos + sectorsize) with past | within
  · exact .inr (.inl (visit_of_gt (by omega)))
  rcases Nat.lt_or_ge kept (pos + 32) with short | header
  · exact .inr (.inr ⟨visit_of_short (by omega) (by omega), within, short⟩)
  rw [visit_of_le (by omega) (by omega)] at whole
  rw [visit_of_le (by omega) (by omega), length]
  simp only [field_take raw (show pos + 8 ≤ kept by omega),
    field_take raw (show pos + 8 + 8 ≤ kept by omega),
    field_take raw (show pos + 16 + 8 ≤ kept by omega)]
  split at whole
  · next zero => exact .inl (by rw [if_pos zero, ← whole])
  next nonzero =>
  rw [if_neg nonzero]
  split at whole
  · cases whole
  next known =>
  rw [if_neg known]
  split
  · exact .inr (.inl rfl)
  next fits =>
  rw [if_neg (by omega)] at whole
  refine .inl ?_
  rw [← whole, List.drop_take, List.take_take, Nat.min_eq_left (by omega)]

/-! ### The walk -/

/-- The walk from `pos` ends with `result`. -/
def Walks (raw : Bytes) (sectorsize pos : Nat) (result : Except Refusal (List Entry)) : Prop :=
  ∃ fuel, walk raw sectorsize fuel pos = some result

section

variable {raw : Bytes} {sectorsize pos : Nat}

theorem Walks.refused {refusal : Refusal} (visited : visit raw sectorsize pos = .error refusal) :
    Walks raw sectorsize pos (.error refusal) :=
  ⟨1, by rw [walk, visited]⟩

theorem Walks.ended (visited : visit raw sectorsize pos = .ok none) :
    Walks raw sectorsize pos (.ok []) :=
  ⟨1, by rw [walk, visited]⟩

theorem Walks.step {entry : Entry} {result : Except Refusal (List Entry)}
    (visited : visit raw sectorsize pos = .ok (some entry))
    (rest : Walks raw sectorsize entry.stop result) :
    Walks raw sectorsize pos (result.map (entry :: ·)) := by
  obtain ⟨fuel, walked⟩ := rest
  exact ⟨fuel + 1, by simp only [walk, visited, walked, Option.map_some]⟩

/-- The walks that end with entries, by their first turn. -/
theorem walks_ok_cases {entries : List Entry} (walked : Walks raw sectorsize pos (.ok entries)) :
    (visit raw sectorsize pos = .ok none ∧ entries = []) ∨
      ∃ entry rest, visit raw sectorsize pos = .ok (some entry) ∧ entries = entry :: rest ∧
        Walks raw sectorsize entry.stop (.ok rest) := by
  obtain ⟨fuel, walked⟩ := walked
  cases fuel with
  | zero => cases walked
  | succ fuel =>
      rw [walk] at walked
      split at walked
      · cases walked
      · next visited => exact .inl ⟨visited, (Except.ok.inj (Option.some.inj walked)).symm⟩
      · next entry visited =>
        obtain ⟨result, continued, mapped⟩ := Option.map_eq_some_iff.mp walked
        cases result with
        | error refusal => cases mapped
        | ok rest =>
            exact .inr ⟨entry, rest, visited, (Except.ok.inj mapped).symm, fuel, continued⟩

/-- With a positive sector size every turn moves on, so the walk ends. -/
theorem walks_total (positive : 0 < sectorsize) (raw : Bytes) (pos : Nat) :
    ∃ result, Walks raw sectorsize pos result := by
  induction left : raw.length - pos using Nat.strong_induction_on generalizing pos with
  | _ left ih =>
      cases visited : visit raw sectorsize pos with
      | error refusal => exact ⟨_, .refused visited⟩
      | ok next =>
          cases next with
          | none => exact ⟨_, .ended visited⟩
          | some entry =>
              obtain ⟨-, progress, within⟩ := visit_bounds visited
              obtain ⟨result, rest⟩ := ih (raw.length - entry.stop) (by omega) entry.stop rfl
              exact ⟨_, .step visited rest⟩

/-- A turn that comes back to where it stands goes on for ever. -/
theorem not_walks_of_loop {entry : Entry} (visited : visit raw sectorsize pos = .ok (some entry))
    (back : entry.stop = pos) (result : Except Refusal (List Entry)) :
    ¬Walks raw sectorsize pos result := by
  have stuck (fuel : Nat) : walk raw sectorsize fuel pos = none := by
    induction fuel with
    | zero => rfl
    | succ fuel ih => simp only [walk, visited, back, ih, Option.map_none]
  rintro ⟨fuel, walked⟩
  rw [stuck] at walked
  cases walked

theorem walks_contiguous {entries : List Entry} (walked : Walks raw sectorsize pos (.ok entries)) :
    Contiguous sectorsize raw.length pos entries := by
  induction entries generalizing pos with
  | nil => trivial
  | cons entry rest ih =>
      rcases walks_ok_cases walked with ⟨-, none⟩ | ⟨first, tail, visited, same, continued⟩
      · cases none
      · obtain ⟨rfl, rfl⟩ := List.cons.inj same
        obtain ⟨start, progress, within⟩ := visit_bounds visited
        exact ⟨start, progress, within, ih continued⟩

/-- The walk of a cut log ends with the first of the entries, unless the cut splits a header
that is longer than a sector. -/
theorem walks_take {entries : List Entry} (walked : Walks raw sectorsize pos (.ok entries))
    {kept : Nat} (shorter : kept ≤ raw.length) :
    (∃ first, first <+: entries ∧ Walks (raw.take kept) sectorsize pos (.ok first)) ∨
      Walks (raw.take kept) sectorsize pos (.error .structError) ∧
        pos + sectorsize ≤ kept ∧ sectorsize < 32 := by
  induction entries generalizing pos with
  | nil =>
      rcases walks_ok_cases walked with ⟨visited, -⟩ | ⟨first, tail, -, same, -⟩
      · rcases visit_take visited shorter with none | none | ⟨split, within, header⟩
        · exact .inl ⟨[], List.prefix_rfl, .ended none⟩
        · exact .inl ⟨[], List.prefix_rfl, .ended none⟩
        · exact .inr ⟨.refused split, within, by omega⟩
      · cases same
  | cons entry rest ih =>
      rcases walks_ok_cases walked with ⟨-, none⟩ | ⟨first, tail, visited, same, continued⟩
      · cases none
      obtain ⟨rfl, rfl⟩ := List.cons.inj same
      rcases visit_take visited shorter with turned | none | ⟨split, within, header⟩
      · obtain ⟨-, progress, -⟩ := visit_bounds visited
        rcases ih continued with ⟨first, prefixed, rest⟩ | ⟨refused, within, short⟩
        · exact .inl ⟨entry :: first, List.cons_prefix_cons.mpr ⟨rfl, prefixed⟩, .step turned rest⟩
        · exact .inr ⟨.step turned refused, by omega, short⟩
      · exact .inl ⟨[], List.nil_prefix, .ended none⟩
      · exact .inr ⟨.refused split, within, by omega⟩

end

/-! ### `parse` -/

theorem returns_nil {result : Except Refusal Log} :
    Returns [] result ↔ result = .ok { sectorsize := 512, entries := [] } := by
  constructor
  · rintro ⟨fuel, parsed⟩
    exact (Option.some.inj parsed).symm
  · rintro rfl
    exact ⟨0, rfl⟩

theorem returns_refused {raw : Bytes} {refusal : Refusal} (some' : raw ≠ [])
    (refused : superSectorsize raw = .error refusal) {result : Except Refusal Log} :
    Returns raw result ↔ result = .error refusal := by
  simp only [Returns, parse, if_neg some', refused, Option.some.injEq, exists_const, eq_comm]

theorem returns_walked {raw : Bytes} {sectorsize : Nat} (some' : raw ≠ [])
    (opened : superSectorsize raw = .ok sectorsize) {result : Except Refusal Log} :
    Returns raw result ↔ ∃ walked, Walks raw sectorsize sectorsize walked ∧
      result = walked.map fun entries => { sectorsize, entries } := by
  simp only [Returns, parse, if_neg some', opened, Option.map_eq_some_iff, Walks]
  constructor
  · rintro ⟨fuel, walked, ended, rfl⟩
    exact ⟨walked, ⟨fuel, ended⟩, rfl⟩
  · rintro ⟨walked, ⟨fuel, ended⟩, rfl⟩
    exact ⟨fuel, walked, ended, rfl⟩

theorem returns_ok_walked {raw : Bytes} {sectorsize : Nat} (some' : raw ≠ [])
    (opened : superSectorsize raw = .ok sectorsize) {log : Log} :
    Returns raw (.ok log) ↔
      log.sectorsize = sectorsize ∧ Walks raw sectorsize sectorsize (.ok log.entries) := by
  rw [returns_walked some' opened]
  constructor
  · rintro ⟨walked, ended, same⟩
    cases walked with
    | error refusal => cases same
    | ok entries =>
        obtain rfl := Except.ok.inj same
        exact ⟨rfl, ended⟩
  · rintro ⟨rfl, ended⟩
    exact ⟨_, ended, rfl⟩

section

variable {raw : Bytes} {sectorsize : Nat}

theorem unpackSuper_of_le (whole : superSize ≤ raw.length) :
    unpackSuper raw = .ok (field raw 0 8, field raw 8 8, field raw 16 8, field raw 24 4) :=
  if_neg (Nat.not_lt.mpr whole)

theorem superSectorsize_of_le (whole : superSize ≤ raw.length) :
    superSectorsize raw =
      if (field raw 0 8, field raw 8 8) = (0, 0) then .ok 512
      else if field raw 0 8 ≠ magic ∨ field raw 8 8 ≠ version then
        .error (.notALog (field raw 0 8) (field raw 8 8))
      else .ok (field raw 24 4) := by
  rw [superSectorsize, unpackSuper_of_le whole]
  rfl

theorem superSize_le (opened : superSectorsize raw = .ok sectorsize) : superSize ≤ raw.length := by
  by_contra short
  have cut : unpackSuper raw = .error .structError := if_pos (by rw [superSize] at short; omega)
  rw [superSectorsize, cut] at opened
  cases opened

theorem superSectorsize_take {kept : Nat} (whole : superSize ≤ kept) (shorter : kept ≤ raw.length) :
    superSectorsize (raw.take kept) = superSectorsize raw := by
  have length : (raw.take kept).length = kept := List.length_take_of_le shorter
  rw [superSize] at whole
  have inside : superSize ≤ (raw.take kept).length := by
    rw [length, superSize]
    omega
  rw [superSectorsize_of_le inside,
    superSectorsize_of_le (show superSize ≤ raw.length by rw [superSize]; omega),
    field_take raw (show 0 + 8 ≤ kept by omega), field_take raw (show 8 + 8 ≤ kept by omega),
    field_take raw (show 24 + 4 ≤ kept by omega)]

/-- A sector size of 0 is one the superblock itself records. -/
theorem field_of_superSectorsize_zero (opened : superSectorsize raw = .ok 0) :
    field raw 0 8 = magic := by
  rw [superSectorsize_of_le (superSize_le opened)] at opened
  split at opened
  · cases opened
  split at opened
  · cases opened
  next known => exact Decidable.of_not_not fun other => known (.inl other)

end

/-- The superblock records sectors of no bytes and, in the place of the first header's flags,
a count of entries that reads as flags. -/
def Endless (raw : Bytes) : Prop :=
  superSectorsize raw = .ok 0 ∧ 32 ≤ raw.length ∧ field raw 16 8 &&& flagMask = field raw 16 8

/-- The superblock records sectors shorter than a header, and the log holds one after it. -/
def ShortSectors (raw : Bytes) : Prop :=
  ∃ sectorsize, superSectorsize raw = .ok sectorsize ∧ sectorsize < 32 ∧
    2 * sectorsize ≤ raw.length

/-- What the walk of a log without sectors does at the superblock. -/
theorem visit_zero {raw : Bytes} (opened : superSectorsize raw = .ok 0) :
    (Endless raw → ∃ entry, visit raw 0 0 = .ok (some entry) ∧ entry.stop = 0) ∧
      (¬Endless raw → ∃ refusal, visit raw 0 0 = .error refusal) := by
  rcases Nat.lt_or_ge raw.length 32 with short | header
  · exact ⟨fun endless => absurd endless.2.1 (by omega),
      fun _ => ⟨_, visit_of_short (Nat.zero_le _) (by omega)⟩⟩
  have magical : (field raw 0 8, field raw (0 + 8) 8, field raw (0 + 16) 8) ≠ (0, 0, 0) := by
    rw [field_of_superSectorsize_zero opened]
    exact fun same => absurd (show magic = 0 from congrArg Prod.fst same) (by decide)
  have stop (nrSectors flags : Nat) : entryStop 0 0 nrSectors flags = 0 := by
    simp only [entryStop, Nat.mul_zero, ite_self]
  have turn := visit_of_le (show 0 + 0 ≤ raw.length from Nat.zero_le _) (by omega)
  rw [if_neg magical, stop] at turn
  constructor
  · intro endless
    rw [if_neg (not_not_intro endless.2.2), if_neg (by omega)] at turn
    exact ⟨_, turn, rfl⟩
  · intro ends
    rw [if_pos fun known => ends ⟨opened, header, known⟩] at turn
    exact ⟨_, turn⟩

theorem returns_total_iff (raw : Bytes) : (∃ result, Returns raw result) ↔ ¬Endless raw := by
  rcases eq_or_ne raw [] with rfl | some'
  · refine iff_of_true ⟨_, returns_nil.mpr rfl⟩ fun endless => ?_
    exact absurd endless.2.1 (by decide)
  cases opened : superSectorsize raw with
  | error refusal =>
      refine iff_of_true ⟨_, (returns_refused some' opened).mpr rfl⟩ fun endless => ?_
      rw [endless.1] at opened
      cases opened
  | ok sectorsize =>
      rcases Nat.eq_zero_or_pos sectorsize with rfl | positive
      · constructor
        · rintro ⟨result, returned⟩ endless
          obtain ⟨walked, ended, -⟩ := (returns_walked some' opened).mp returned
          obtain ⟨entry, visited, back⟩ := (visit_zero opened).1 endless
          exact not_walks_of_loop visited back walked ended
        · intro ends
          obtain ⟨refusal, visited⟩ := (visit_zero opened).2 ends
          exact ⟨_, (returns_walked some' opened).mpr ⟨_, .refused visited, rfl⟩⟩
      · obtain ⟨walked, ended⟩ := walks_total positive raw sectorsize
        refine iff_of_true ⟨_, (returns_walked some' opened).mpr ⟨walked, ended, rfl⟩⟩
          fun endless => ?_
        rw [endless.1] at opened
        cases opened
        exact absurd positive (Nat.lt_irrefl 0)

theorem sectorsize_pos {raw : Bytes} {log : Log} (returned : Returns raw (.ok log)) :
    0 < log.sectorsize := by
  rcases eq_or_ne raw [] with rfl | some'
  · obtain rfl := Except.ok.inj (returns_nil.mp returned)
    exact Nat.succ_pos _
  cases opened : superSectorsize raw with
  | error refusal => cases (returns_refused some' opened).mp returned
  | ok sectorsize =>
      have ends := (returns_total_iff raw).mp ⟨_, returned⟩
      obtain ⟨rfl, walked⟩ := (returns_ok_walked some' opened).mp returned
      rcases Nat.eq_zero_or_pos log.sectorsize with zero | positive
      · rw [zero] at opened walked
        obtain ⟨refusal, visited⟩ := (visit_zero opened).2 ends
        rcases walks_ok_cases walked with ⟨other, -⟩ | ⟨_, _, other, -⟩
        · rw [visited] at other
          cases other
        · rw [visited] at other
          cases other
      · exact positive

theorem returns_contiguous {raw : Bytes} {log : Log} (returned : Returns raw (.ok log)) :
    Contiguous log.sectorsize raw.length log.sectorsize log.entries := by
  rcases eq_or_ne raw [] with rfl | some'
  · obtain rfl := Except.ok.inj (returns_nil.mp returned)
    trivial
  cases opened : superSectorsize raw with
  | error refusal => cases (returns_refused some' opened).mp returned
  | ok sectorsize =>
      obtain ⟨rfl, walked⟩ := (returns_ok_walked some' opened).mp returned
      exact walks_contiguous walked

/-! ### Cut logs -/

/-- A cut of an accepted log that keeps the superblock gives the first of its entries, unless
it splits a header that is longer than a sector. -/
theorem returns_take {raw : Bytes} {log : Log} (returned : Returns raw (.ok log)) {kept : Nat}
    (whole : superSize ≤ kept) :
    (∃ cut, Returns (raw.take kept) (.ok cut) ∧ cut.entries <+: log.entries) ∨
      Returns (raw.take kept) (.error .structError) ∧ ShortSectors raw := by
  rcases Nat.lt_or_ge raw.length kept with past | shorter
  · rw [List.take_of_length_le past.le]
    exact .inl ⟨log, returned, List.prefix_rfl⟩
  rcases eq_or_ne raw [] with rfl | some'
  · rw [superSize] at whole
    exact absurd shorter (by rw [List.length_nil]; omega)
  have cutSome : raw.take kept ≠ [] := by
    rw [← List.length_pos_iff, List.length_take_of_le shorter]
    rw [superSize] at whole
    omega
  cases opened : superSectorsize raw with
  | error refusal => cases (returns_refused some' opened).mp returned
  | ok sectorsize =>
      have cutOpened := (superSectorsize_take whole shorter).trans opened
      obtain ⟨-, walked⟩ := (returns_ok_walked some' opened).mp returned
      rcases walks_take walked shorter with ⟨first, prefixed, ended⟩ | ⟨refused, within, short⟩
      · exact .inl ⟨⟨sectorsize, first⟩, (returns_ok_walked cutSome cutOpened).mpr ⟨rfl, ended⟩,
          prefixed⟩
      · exact .inr ⟨(returns_walked cutSome cutOpened).mpr ⟨_, refused, rfl⟩, sectorsize, opened,
          short, by omega⟩

/-- More fuel does not change the end of a walk. -/
theorem walk_add {raw : Bytes} {sectorsize fuel pos : Nat} {result : Except Refusal (List Entry)}
    (walked : walk raw sectorsize fuel pos = some result) (extra : Nat) :
    walk raw sectorsize (fuel + extra) pos = some result := by
  induction fuel generalizing pos result with
  | zero => cases walked
  | succ fuel ih =>
      rw [walk] at walked
      rw [Nat.succ_add, walk]
      cases visited : visit raw sectorsize pos with
      | error refusal => rwa [visited] at walked
      | ok next =>
          rw [visited] at walked
          cases next with
          | none => exact walked
          | some entry =>
              obtain ⟨rest, continued, same⟩ := Option.map_eq_some_iff.mp walked
              exact Option.map_eq_some_iff.mpr ⟨rest, ih continued, same⟩

theorem parse_add {raw : Bytes} {fuel : Nat} {result : Except Refusal Log}
    (parsed : parse fuel raw = some result) (extra : Nat) :
    parse (fuel + extra) raw = some result := by
  rw [parse] at parsed ⊢
  rcases eq_or_ne raw [] with rfl | some'
  · exact parsed
  rw [if_neg some'] at parsed ⊢
  cases opened : superSectorsize raw with
  | error refusal => rwa [opened] at parsed
  | ok sectorsize =>
      rw [opened] at parsed
      obtain ⟨walked, ended, same⟩ := Option.map_eq_some_iff.mp parsed
      exact Option.map_eq_some_iff.mpr ⟨walked, walk_add ended extra, same⟩

theorem returns_unique {raw : Bytes} {first second : Except Refusal Log}
    (one : Returns raw first) (other : Returns raw second) : first = second := by
  obtain ⟨fuel, parsed⟩ := one
  obtain ⟨more, again⟩ := other
  have left := parse_add parsed more
  rw [Nat.add_comm, parse_add again fuel] at left
  exact (Option.some.inj left).symm

/-- A log with sectors shorter than a header has a cut that splits one. -/
theorem exists_split {raw : Bytes} {log : Log} (returned : Returns raw (.ok log))
    (short : ShortSectors raw) :
    ∃ kept, superSize ≤ kept ∧ Returns (raw.take kept) (.error .structError) := by
  obtain ⟨sectorsize, opened, below, within⟩ := short
  have whole := superSize_le opened
  have positive := sectorsize_pos returned
  have some' : raw ≠ [] := by
    rintro rfl
    exact absurd whole (by decide)
  obtain ⟨same, -⟩ := (returns_ok_walked some' opened).mp returned
  rw [superSize] at whole
  rw [same] at positive
  have shorter : max superSize (2 * sectorsize) ≤ raw.length := by rw [superSize]; omega
  have length := List.length_take_of_le shorter
  refine ⟨max superSize (2 * sectorsize), le_max_left .., ?_⟩
  have cutSome : raw.take (max superSize (2 * sectorsize)) ≠ [] := by
    rw [← List.length_pos_iff, length, superSize]
    omega
  have cutOpened :=
    (superSectorsize_take (le_max_left superSize (2 * sectorsize)) shorter).trans opened
  have split : visit (raw.take (max superSize (2 * sectorsize))) sectorsize sectorsize =
      .error .structError :=
    visit_of_short (by rw [length]; omega) (by rw [length, superSize]; omega)
  exact (returns_walked cutSome cutOpened).mpr ⟨_, .refused split, rfl⟩

/-- `parse` ends with a log or a refusal, the entries of a log follow one another from the
first sector on, and every cut that keeps the superblock gives the first of them. -/
def Sound (raw : Bytes) : Prop :=
  (∃ result, Returns raw result) ∧
    ∀ log, Returns raw (.ok log) →
      Contiguous log.sectorsize raw.length log.sectorsize log.entries ∧
        ∀ kept, superSize ≤ kept →
          ∃ cut, Returns (raw.take kept) (.ok cut) ∧ cut.entries <+: log.entries

/-- `parse` runs for ever on exactly the logs without sectors. Whatever it accepts is
contiguous, and whatever it accepts of a cut log comes first in the whole; it refuses a cut of
an accepted log exactly where a header is longer than a sector. -/
theorem parse_sound_iff (raw : Bytes) :
    (Sound raw ↔ ¬Endless raw ∧ ((∃ log, Returns raw (.ok log)) → ¬ShortSectors raw)) ∧
      ((∃ result, Returns raw result) ↔ ¬Endless raw) ∧
      ∀ log, Returns raw (.ok log) →
        Contiguous log.sectorsize raw.length log.sectorsize log.entries ∧
          ∀ kept cut, superSize ≤ kept → Returns (raw.take kept) (.ok cut) →
            cut.entries <+: log.entries := by
  refine ⟨⟨?_, ?_⟩, returns_total_iff raw, fun log returned => ⟨returns_contiguous returned, ?_⟩⟩
  · rintro ⟨total, accepted⟩
    refine ⟨(returns_total_iff raw).mp total, ?_⟩
    rintro ⟨log, returned⟩ short
    obtain ⟨kept, whole, refused⟩ := exists_split returned short
    obtain ⟨cut, parsed, -⟩ := (accepted log returned).2 kept whole
    cases returns_unique refused parsed
  · rintro ⟨ends, long⟩
    refine ⟨(returns_total_iff raw).mpr ends, fun log returned => ⟨returns_contiguous returned, ?_⟩⟩
    intro kept whole
    rcases returns_take returned whole with prefixed | ⟨-, short⟩
    · exact prefixed
    · exact absurd short (long ⟨log, returned⟩)
  · intro kept cut whole parsed
    rcases returns_take returned whole with ⟨first, other, prefixed⟩ | ⟨refused, -⟩
    · obtain rfl := Except.ok.inj (returns_unique parsed other)
      exact prefixed
    · cases returns_unique parsed refused

/-- A superblock of no sectors and no entries, with padding up to a header. -/
def endlessLog : Bytes :=
  leBytes 8 magic ++ leBytes 8 version ++ leBytes 8 0 ++ leBytes 4 0 ++ leBytes 4 0

theorem endlessLog_not_sound : ¬Sound endlessLog := by
  have endless : Endless endlessLog := ⟨by rfl, by decide, by decide⟩
  exact fun sound => (returns_total_iff endlessLog).mp sound.1 endless

end Chrysopolis.Testbed.Crashlog
