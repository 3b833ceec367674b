import Chrysopolis.Beam.Pthread
import Mathlib.Data.List.Nodup

/-! Thread lifetime: the invariant that ties records, slots and the history of every
token, and what it gives for whole runs. -/

set_option autoImplicit false

namespace Chrysopolis.Beam.Pthread

/-! ## Histories -/

/-- The history of a thread whose record is in the heap. -/
structure Alive (record : Record) (life : Life) : Prop where
  created : life.created = 1
  detached : life.detached = record.detached
  detaches : life.detaches ≤ if record.detached then 1 else 0
  results : life.results = if record.complete then [record.result] else []
  joins : life.joins = []
  frees : life.frees = 0

/-- The history of a thread whose record was freed. -/
structure Gone (life : Life) : Prop where
  created : life.created = 1
  frees : life.frees = 1
  ended : ∃ result, life.results = [result] ∧
    (life.detached = true ∧ life.detaches ≤ 1 ∧ life.joins = [] ∨
      life.detached = false ∧ life.detaches = 0 ∧ life.joins = [result])

/-- A detached thread that is complete may be freed. -/
theorem Alive.detach {record : Record} {life : Life} (alive : Alive record life)
    (complete : record.complete = true) (detached : record.detached = true) :
    Gone { life with frees := life.frees + 1 } := by
  refine ⟨alive.created, by simp [alive.frees], record.result, ?_, .inl ⟨?_, ?_, alive.joins⟩⟩
  · simp [alive.results, complete]
  · simp [alive.detached, detached]
  · simpa [detached] using alive.detaches

/-- A thread that is complete and not detached may be joined. -/
theorem Alive.join {record : Record} {life : Life} (alive : Alive record life)
    (complete : record.complete = true) (detached : record.detached = false) :
    Gone { life with joins := life.joins ++ [record.result], frees := life.frees + 1 } := by
  refine ⟨alive.created, by simp [alive.frees], record.result, ?_, .inr ⟨?_, ?_, ?_⟩⟩
  · simp [alive.results, complete]
  · simp [alive.detached, detached]
  · simpa [detached] using alive.detaches
  · simp [alive.joins]

/-! ## The invariant -/

/-- The record a cothread finishes, wherever it has read it, is the one its slot names. -/
def Control.Owns (named : Option Nat) : Control → Prop
  | .spawned address => named = some address
  | .running stack => ∀ finish ∈ stack, finish.record = named
  | .joining _ stack => ∀ finish ∈ stack, finish.record = named
  | .finishing finish stack => ∀ other ∈ finish :: stack, other.record = named
  | .waking => named = none
  | .parked => True

def Joins (state : State) (slot address : Nat) : Prop :=
  ∃ stack, state.cothreads slot = some (.joining address stack)

structure Inv (state : State) : Prop where
  intact : state.fault = false ∧ state.aborted = false
  counter : maxCothreads < state.tokens.next
  linked : state.threadRecords.Nodup
  listed : ∀ address, address ∈ state.threadRecords ↔ ∃ record, state.heap address = some record
  token : ∀ address record, state.heap address = some record →
    maxCothreads < record.token ∧ record.token < state.tokens.next
  distinct : ∀ first second record other, state.heap first = some record →
    state.heap second = some other → record.token = other.token → first = second
  live : ∀ handle address, state.byHandle handle = some address ↔
    ∃ record, state.heap address = some record ∧ record.complete = false ∧ record.handle = handle
  owns : ∀ slot control, state.cothreads slot = some control → control.Owns (state.byHandle slot)
  vacant : ∀ slot, state.cothreads slot = none → state.byHandle slot = none
  claimed : ∀ slot address, Joins state slot address → ∃ record,
    state.heap address = some record ∧ record.joinClaimed = true ∧ record.detached = false
  joiner : ∀ first second address, Joins state first address → Joins state second address →
    first = second
  alive : ∀ address record, state.heap address = some record →
    Alive record (state.life record.token)
  gone : ∀ token, (∀ address record, state.heap address = some record → record.token ≠ token) →
    state.life token = {} ∨ Gone (state.life token)
  fresh : ∀ token, token ≤ maxCothreads ∨ state.tokens.next ≤ token → state.life token = {}

/-- No complete record is left detached. -/
def Swept (state : State) : Prop :=
  ∀ address record, state.heap address = some record → record.complete = true →
    record.detached = false

/-- A step that touches no record. -/
structure Frame (state next : State) : Prop where
  heap : next.heap = state.heap
  threadRecords : next.threadRecords = state.threadRecords
  byHandle : next.byHandle = state.byHandle
  tokens : next.tokens = state.tokens
  life : next.life = state.life
  fault : next.fault = state.fault
  aborted : next.aborted = state.aborted

variable {state next : State} {slot address : Nat} {record : Record}

theorem Frame.swept (frame : Frame state next) (swept : Swept state) : Swept next := by
  unfold Swept
  rw [frame.heap]
  exact swept

theorem owns_update {cothreads : Nat → Option Control} {byHandle : Nat → Option Nat}
    (each : ∀ slot control, cothreads slot = some control → control.Owns (byHandle slot))
    {control : Control} {named : Option Nat} (owns : control.Owns named) {other : Nat}
    {held : Control} (found : Function.update cothreads slot (some control) other = some held) :
    held.Owns (Function.update byHandle slot named other) := by
  by_cases same : other = slot
  · subst same
    rw [Function.update_self, Option.some.injEq] at found
    rw [Function.update_self]
    exact found ▸ owns
  · rw [Function.update_of_ne same] at found ⊢
    exact each other held found

theorem vacant_update {cothreads : Nat → Option Control} {byHandle : Nat → Option Nat}
    (each : ∀ slot, cothreads slot = none → byHandle slot = none) {control : Control}
    {named : Option Nat} {other : Nat}
    (empty : Function.update cothreads slot (some control) other = none) :
    Function.update byHandle slot named other = none := by
  by_cases same : other = slot
  · subst same
    simp at empty
  · rw [Function.update_of_ne same] at empty ⊢
    exact each other empty

/-- A slot that does not begin to wait adds no joiner. -/
theorem Joins.back {other address : Nat} (joining : Joins next other address) (state : State)
    {control : Control}
    (cothreads : next.cothreads = Function.update state.cothreads slot (some control))
    (elsewhere : ∀ address stack, control ≠ .joining address stack) :
    Joins state other address := by
  obtain ⟨stack, joining⟩ := joining
  rw [cothreads] at joining
  by_cases same : other = slot
  · subst same
    rw [Function.update_self, Option.some.injEq] at joining
    exact absurd joining (elsewhere address stack)
  · rw [Function.update_of_ne same] at joining
    exact ⟨stack, joining⟩

/-- A cothread moves on, and joins only what it alone has claimed. -/
theorem Inv.control (inv : Inv state) (slot : Nat) (control : Control) (frame : Frame state next)
    (cothreads : next.cothreads = Function.update state.cothreads slot (some control))
    (owns : control.Owns (state.byHandle slot))
    (joins : ∀ address stack, control = .joining address stack →
      (∃ record, state.heap address = some record ∧ record.joinClaimed = true ∧
        record.detached = false) ∧
      ∀ other, Joins state other address → other = slot) : Inv next := by
  have joined {other address : Nat} (joining : Joins next other address) :
      other = slot ∧ (∃ stack, control = .joining address stack) ∨
        other ≠ slot ∧ Joins state other address := by
    obtain ⟨stack, joining⟩ := joining
    rw [cothreads] at joining
    by_cases same : other = slot
    · subst same
      rw [Function.update_self, Option.some.injEq] at joining
      exact .inl ⟨rfl, stack, joining⟩
    · rw [Function.update_of_ne same] at joining
      exact .inr ⟨same, stack, joining⟩
  obtain ⟨heap, threadRecords, byHandle, tokens, life, fault, aborted⟩ := frame
  refine
    { intact := by rw [fault, aborted]; exact inv.intact
      counter := by rw [tokens]; exact inv.counter
      linked := by rw [threadRecords]; exact inv.linked
      listed := by rw [threadRecords, heap]; exact inv.listed
      token := by rw [heap, tokens]; exact inv.token
      distinct := by rw [heap]; exact inv.distinct
      live := by rw [byHandle, heap]; exact inv.live
      owns := fun other held found => ?_
      vacant := fun other empty => ?_
      claimed := fun other address joining => ?_
      joiner := fun first second address one two => ?_
      alive := by rw [heap, life]; exact inv.alive
      gone := by rw [heap, life]; exact inv.gone
      fresh := by rw [tokens, life]; exact inv.fresh }
  · rw [cothreads] at found
    rw [byHandle, ← Function.update_eq_self slot state.byHandle]
    exact owns_update inv.owns owns found
  · rw [cothreads] at empty
    rw [byHandle, ← Function.update_eq_self slot state.byHandle]
    exact vacant_update inv.vacant empty
  · rw [heap]
    rcases joined joining with ⟨_, stack, equal⟩ | ⟨_, joining⟩
    · exact (joins address stack equal).1
    · exact inv.claimed other address joining
  · rcases joined one with ⟨rfl, stack, equal⟩ | ⟨_, one⟩
    · rcases joined two with ⟨rfl, _⟩ | ⟨_, two⟩
      · rfl
      · exact ((joins address stack equal).2 second two).symm
    · rcases joined two with ⟨rfl, stack, equal⟩ | ⟨_, two⟩
      · exact (joins address stack equal).2 first one
      · exact inv.joiner first second address one two

/-- A step of user code that touches no record. -/
theorem Inv.frame (inv : Inv state) (frame : Frame state next)
    (cothreads : next.cothreads = state.cothreads) {stack : List Finish}
    (running : state.cothreads slot = some (.running stack)) : Inv next := by
  refine inv.control slot (.running stack) frame ?_
    (inv.owns slot _ running) nofun
  rw [cothreads, ← running, Function.update_eq_self]

/-- The other records of a heap with one cell rewritten. -/
theorem heap_update {heap : Nat → Option Record} {address other : Nat} {cell : Option Record}
    {record : Record} (found : Function.update heap address cell other = some record) :
    other = address ∧ cell = some record ∨ other ≠ address ∧ heap other = some record := by
  by_cases same : other = address
  · subst same
    rw [Function.update_self] at found
    exact .inl ⟨rfl, found⟩
  · rw [Function.update_of_ne same] at found
    exact .inr ⟨same, found⟩

/-! ### One record rewritten -/

section Rewritten

variable {changed held : Record} {other : Nat}

/-- What the rewritten record has kept, no record of the new heap has changed. -/
theorem rewritten_back {β : Type} (kept : Record → β) (found : state.heap address = some record)
    (same : kept changed = kept record)
    (now : Function.update state.heap address (some changed) other = some held) :
    ∃ before, state.heap other = some before ∧ kept held = kept before := by
  rcases heap_update now with ⟨rfl, equal⟩ | ⟨_, before⟩
  · rw [Option.some.injEq] at equal
    subst equal
    exact ⟨record, found, same⟩
  · exact ⟨held, before, rfl⟩

theorem rewritten_forth {β : Type} (kept : Record → β) (found : state.heap address = some record)
    (same : kept changed = kept record) (was : state.heap other = some held) :
    ∃ now, Function.update state.heap address (some changed) other = some now ∧
      kept now = kept held := by
  by_cases here : other = address
  · subst here
    rw [found, Option.some.injEq] at was
    subst was
    exact ⟨changed, Function.update_self .., same⟩
  · exact ⟨held, by rw [Function.update_of_ne here, was], rfl⟩

theorem Inv.rewritten_listed (inv : Inv state) (found : state.heap address = some record) :
    other ∈ state.threadRecords ↔
      ∃ now, Function.update state.heap address (some changed) other = some now := by
  rw [inv.listed]
  constructor
  · rintro ⟨before, was⟩
    obtain ⟨now, held, -⟩ := rewritten_forth (fun _ => ()) found rfl was
    exact ⟨now, held⟩
  · rintro ⟨now, held⟩
    obtain ⟨before, was, -⟩ := rewritten_back (fun _ => ()) found rfl held
    exact ⟨before, was⟩

theorem Inv.rewritten_token (inv : Inv state) (found : state.heap address = some record)
    (token : changed.token = record.token)
    (now : Function.update state.heap address (some changed) other = some held) :
    maxCothreads < held.token ∧ held.token < state.tokens.next := by
  obtain ⟨before, was, same⟩ := rewritten_back Record.token found token now
  rw [same]
  exact inv.token other before was

theorem Inv.rewritten_distinct (inv : Inv state) (found : state.heap address = some record)
    (token : changed.token = record.token) {second : Nat} {also : Record}
    (one : Function.update state.heap address (some changed) other = some held)
    (two : Function.update state.heap address (some changed) second = some also)
    (equal : held.token = also.token) : other = second := by
  obtain ⟨before, one, same⟩ := rewritten_back Record.token found token one
  obtain ⟨again, two, alike⟩ := rewritten_back Record.token found token two
  exact inv.distinct other second before again one two (by rw [← same, equal, alike])

/-- Only the history of one record's token moves, so the others keep theirs. -/
theorem Inv.alive_elsewhere (inv : Inv state) (found : state.heap address = some record)
    (life : Life) (apart : other ≠ address) (was : state.heap other = some held) :
    Alive held (Function.update state.life record.token life held.token) := by
  rw [Function.update_of_ne]
  · exact inv.alive other held was
  · exact fun equal => apart (inv.distinct other address held record was found equal)

theorem Inv.rewritten_alive (inv : Inv state) (found : state.heap address = some record)
    (token : changed.token = record.token) {life : Life} (alive : Alive changed life)
    (now : Function.update state.heap address (some changed) other = some held) :
    Alive held (Function.update state.life record.token life held.token) := by
  rcases heap_update now with ⟨_, equal⟩ | ⟨apart, was⟩
  · rw [Option.some.injEq] at equal
    subst equal
    rw [token, Function.update_self]
    exact alive
  · exact inv.alive_elsewhere found life apart was

theorem Inv.rewritten_gone (inv : Inv state) (found : state.heap address = some record)
    (token : changed.token = record.token) (life : Life) {thread : Nat}
    (none : ∀ other held, Function.update state.heap address (some changed) other = some held →
      held.token ≠ thread) :
    Function.update state.life record.token life thread = {} ∨
      Gone (Function.update state.life record.token life thread) := by
  have before (other : Nat) (held : Record) (was : state.heap other = some held) :
      held.token ≠ thread := by
    obtain ⟨now, held, same⟩ := rewritten_forth Record.token found token was
    exact same ▸ none other now held
  rw [Function.update_of_ne (before address record found).symm]
  exact inv.gone thread before

/-- A token that is not handed out yet is not the token of a record. -/
theorem Inv.fresh_update (inv : Inv state) (found : state.heap address = some record)
    (life : Life) {thread : Nat} (late : thread ≤ maxCothreads ∨ state.tokens.next ≤ thread) :
    Function.update state.life record.token life thread = {} := by
  rw [Function.update_of_ne]
  · exact inv.fresh thread late
  · have range := inv.token address record found
    omega

end Rewritten

/-- A flag of a record changes. -/
theorem Inv.rewrite (inv : Inv state) (found : state.heap address = some record)
    (changed : Record) (token : changed.token = record.token)
    (handle : changed.handle = record.handle) (complete : changed.complete = record.complete)
    (life : Life) (alive : Alive changed life)
    (joins : ∀ slot, Joins state slot address →
      changed.joinClaimed = true ∧ changed.detached = false)
    (next : State) (heap : next.heap = Function.update state.heap address (some changed))
    (lives : next.life = Function.update state.life record.token life)
    (rest : Frame { state with heap := next.heap, life := next.life } next)
    (cothreads : next.cothreads = state.cothreads) : Inv next := by
  obtain ⟨-, threadRecords, byHandle, tokens, -, fault, aborted⟩ := rest
  simp only at threadRecords byHandle tokens fault aborted
  let kept := fun held : Record => (held.handle, held.complete)
  have unchanged : kept changed = kept record := Prod.ext handle complete
  have joined {other address : Nat} : Joins next other address ↔ Joins state other address := by
    simp only [Joins, cothreads]
  refine
    { intact := by rw [fault, aborted]; exact inv.intact
      counter := by rw [tokens]; exact inv.counter
      linked := by rw [threadRecords]; exact inv.linked
      listed := fun other => by rw [threadRecords, heap]; exact inv.rewritten_listed found
      token := fun other held now => by
        rw [tokens]; exact inv.rewritten_token found token (heap ▸ now)
      distinct := fun first second held also one two equal =>
        inv.rewritten_distinct found token (heap ▸ one) (heap ▸ two) equal
      live := fun slot other => ?_
      owns := by rw [byHandle, cothreads]; exact inv.owns
      vacant := by rw [byHandle, cothreads]; exact inv.vacant
      claimed := fun slot other joining => ?_
      joiner := fun first second other one two =>
        inv.joiner first second other (joined.mp one) (joined.mp two)
      alive := fun other held now => by
        rw [lives]; exact inv.rewritten_alive found token alive (heap ▸ now)
      gone := fun thread none => by
        rw [lives]; exact inv.rewritten_gone found token life (heap ▸ none)
      fresh := fun thread late => by
        rw [lives]; exact inv.fresh_update found life (tokens ▸ late) }
  · rw [byHandle, inv.live, heap]
    constructor
    · rintro ⟨before, was, running, at_⟩
      obtain ⟨now, held, same⟩ := rewritten_forth kept found unchanged was
      obtain ⟨sameHandle, sameComplete⟩ := Prod.ext_iff.mp same
      exact ⟨now, held, sameComplete.trans running, sameHandle.trans at_⟩
    · rintro ⟨now, held, running, at_⟩
      obtain ⟨before, was, same⟩ := rewritten_back kept found unchanged held
      obtain ⟨sameHandle, sameComplete⟩ := Prod.ext_iff.mp same
      exact ⟨before, was, sameComplete.symm.trans running, sameHandle.symm.trans at_⟩
  · obtain ⟨before, was, claimed, attached⟩ := inv.claimed slot other (joined.mp joining)
    by_cases same : other = address
    · subst same
      exact ⟨changed, by rw [heap, Function.update_self], joins slot (joined.mp joining)⟩
    · exact ⟨before, by rw [heap, Function.update_of_ne same, was], claimed, attached⟩

/-- A complete record that nobody waits for is unlinked and freed. -/
theorem Inv.release (inv : Inv state) (found : state.heap address = some record)
    (complete : record.complete = true) (unjoined : ∀ slot, ¬ Joins state slot address)
    {life : Life} (gone : Gone life)
    (next : State) (heap : next.heap = Function.update state.heap address none)
    (threadRecords : next.threadRecords = state.threadRecords.erase address)
    (lives : next.life = Function.update state.life record.token life)
    (rest : Frame { state with
      heap := next.heap, life := next.life, threadRecords := next.threadRecords } next)
    (cothreads : next.cothreads = state.cothreads) : Inv next := by
  obtain ⟨-, -, byHandle, tokens, -, fault, aborted⟩ := rest
  simp only at byHandle tokens fault aborted
  have back {other : Nat} {held : Record} (now : next.heap other = some held) :
      other ≠ address ∧ state.heap other = some held := by
    rw [heap] at now
    rcases heap_update now with ⟨_, impossible⟩ | kept
    · cases impossible
    · exact kept
  have forth {other : Nat} {held : Record} (was : state.heap other = some held)
      (apart : other ≠ address) : next.heap other = some held := by
    rw [heap, Function.update_of_ne apart, was]
  have joined {other address : Nat} : Joins next other address ↔ Joins state other address := by
    simp only [Joins, cothreads]
  refine
    { intact := by rw [fault, aborted]; exact inv.intact
      counter := by rw [tokens]; exact inv.counter
      linked := by rw [threadRecords]; exact inv.linked.erase address
      listed := fun other => ?_
      token := fun other held now => ?_
      distinct := fun first second held also one two equal =>
        inv.distinct first second held also (back one).2 (back two).2 equal
      live := fun slot other => ?_
      owns := by rw [byHandle, cothreads]; exact inv.owns
      vacant := by rw [byHandle, cothreads]; exact inv.vacant
      claimed := fun slot other joining => ?_
      joiner := fun first second other one two =>
        inv.joiner first second other (joined.mp one) (joined.mp two)
      alive := fun other held now => by
        rw [lives]; exact inv.alive_elsewhere found life (back now).1 (back now).2
      gone := fun thread none => ?_
      fresh := fun thread late => by
        rw [lives]; exact inv.fresh_update found life (tokens ▸ late) }
  · rw [threadRecords, inv.linked.mem_erase_iff, inv.listed]
    constructor
    · rintro ⟨apart, held, was⟩
      exact ⟨held, forth was apart⟩
    · rintro ⟨held, now⟩
      exact ⟨(back now).1, held, (back now).2⟩
  · rw [tokens]
    exact inv.token other held (back now).2
  · rw [byHandle, inv.live]
    constructor
    · rintro ⟨held, was, running, at_⟩
      refine ⟨held, forth was ?_, running, at_⟩
      rintro rfl
      rw [found, Option.some.injEq] at was
      subst was
      simp [complete] at running
    · rintro ⟨held, now, running, at_⟩
      exact ⟨held, (back now).2, running, at_⟩
  · obtain ⟨held, was, claimed⟩ := inv.claimed slot other (joined.mp joining)
    refine ⟨held, forth was ?_, claimed⟩
    rintro rfl
    exact unjoined slot (joined.mp joining)
  · rw [lives]
    by_cases same : thread = record.token
    · subst same
      rw [Function.update_self]
      exact .inr gone
    · rw [Function.update_of_ne same]
      refine inv.gone thread fun other held was equal => ?_
      refine none other held (forth was ?_) equal
      rintro rfl
      rw [found, Option.some.injEq] at was
      exact same (by rw [← equal, was])

/-- A thread completes: its slot names no record any more. -/
theorem Inv.complete (inv : Inv state) (found : state.heap address = some record)
    (named : state.byHandle slot = some address) (result : Nat)
    (next : State)
    (heap : next.heap = Function.update state.heap address
      (some { record with result, complete := true }))
    (lives : next.life = Function.update state.life record.token
      { state.life record.token with results := (state.life record.token).results ++ [result] })
    (byHandle : next.byHandle = Function.update state.byHandle slot none)
    (cothreads : next.cothreads = Function.update state.cothreads slot (some .waking))
    (rest : Frame { state with heap := next.heap, life := next.life, byHandle := next.byHandle }
      next) : Inv next := by
  obtain ⟨-, threadRecords, -, tokens, -, fault, aborted⟩ := rest
  simp only at threadRecords tokens fault aborted
  obtain ⟨_, held, running, atSlot⟩ := (inv.live slot address).mp named
  rw [found, Option.some.injEq] at held
  subst held
  have back {other : Nat} {held : Record} (now : next.heap other = some held) :
      other = address ∧ held = { record with result, complete := true } ∨
        other ≠ address ∧ state.heap other = some held := by
    rw [heap] at now
    rcases heap_update now with ⟨same, equal⟩ | kept
    · rw [Option.some.injEq] at equal
      exact .inl ⟨same, equal.symm⟩
    · exact .inr kept
  let kept := fun held : Record => (held.joinClaimed, held.detached)
  have unchanged : kept { record with result, complete := true } = kept record := rfl
  have joined {other address : Nat} (joining : Joins next other address) :
      Joins state other address :=
    joining.back state cothreads nofun
  have token : ({ record with result, complete := true } : Record).token = record.token := rfl
  have alive : Alive { record with result, complete := true }
      { state.life record.token with
        results := (state.life record.token).results ++ [result] } := by
    obtain ⟨created, detached, detaches, results, joins, frees⟩ := inv.alive address record found
    exact ⟨created, detached, detaches, by simp [results, running], joins, frees⟩
  refine
    { intact := by rw [fault, aborted]; exact inv.intact
      counter := by rw [tokens]; exact inv.counter
      linked := by rw [threadRecords]; exact inv.linked
      listed := fun other => by rw [threadRecords, heap]; exact inv.rewritten_listed found
      token := fun other held now => by
        rw [tokens]; exact inv.rewritten_token found token (heap ▸ now)
      distinct := fun first second held also one two equal =>
        inv.rewritten_distinct found token (heap ▸ one) (heap ▸ two) equal
      live := fun handle other => ?_
      owns := fun other control found => ?_
      vacant := fun other empty => ?_
      claimed := fun other at_ joining => ?_
      joiner := fun first second other one two =>
        inv.joiner first second other (joined one) (joined two)
      alive := fun other held now => by
        rw [lives]; exact inv.rewritten_alive found token alive (heap ▸ now)
      gone := fun thread none => by
        rw [lives]; exact inv.rewritten_gone found token _ (heap ▸ none)
      fresh := fun thread late => by
        rw [lives]; exact inv.fresh_update found _ (tokens ▸ late) }
  · rw [byHandle]
    constructor
    · intro names
      by_cases same : handle = slot
      · subst same
        simp at names
      · rw [Function.update_of_ne same] at names
        obtain ⟨held, before, lives, at_⟩ := (inv.live handle other).mp names
        refine ⟨held, ?_, lives, at_⟩
        rw [heap, Function.update_of_ne, before]
        rintro rfl
        rw [found, Option.some.injEq] at before
        exact same (by rw [← at_, ← before, atSlot])
    · rintro ⟨held, now, lives, at_⟩
      rcases back now with ⟨_, rfl⟩ | ⟨apart, before⟩
      · cases lives
      · have names := (inv.live handle other).mpr ⟨held, before, lives, at_⟩
        rw [Function.update_of_ne, names]
        rintro rfl
        rw [named, Option.some.injEq] at names
        exact apart names.symm
  · rw [cothreads] at found
    rw [byHandle]
    have own : Control.waking.Owns none := rfl
    exact owns_update inv.owns own found
  · rw [cothreads] at empty
    rw [byHandle]
    exact vacant_update inv.vacant empty
  · obtain ⟨before, held, claims, attached⟩ := inv.claimed other at_ (joined joining)
    obtain ⟨now, held, same⟩ := rewritten_forth kept found unchanged held
    obtain ⟨sameClaim, sameDetach⟩ := Prod.ext_iff.mp same
    exact ⟨now, heap ▸ held, sameClaim.trans claims, sameDetach.trans attached⟩

/-- A new thread is published under the next token, in a slot nobody holds. -/
theorem Inv.publish (inv : Inv state) (created : Record)
    (unused : state.heap address = none) (empty : state.cothreads slot = none)
    (token : created.token = state.tokens.next) (placed : created.handle = slot)
    (running : created.complete = false) {life : Life} (alive : Alive created life)
    (next : State) (heap : next.heap = Function.update state.heap address (some created))
    (threadRecords : next.threadRecords = address :: state.threadRecords)
    (lives : next.life = Function.update state.life created.token life)
    (byHandle : next.byHandle = Function.update state.byHandle slot (some address))
    (tokens : next.tokens.next = state.tokens.next + 1)
    (cothreads : next.cothreads = Function.update state.cothreads slot (some (.spawned address)))
    (fault : next.fault = state.fault) (aborted : next.aborted = state.aborted) : Inv next := by
  have forth {other : Nat} {held : Record} (was : state.heap other = some held) :
      other ≠ address ∧ next.heap other = some held := by
    have apart : other ≠ address := by
      rintro rfl
      simp [unused] at was
    exact ⟨apart, by rw [heap, Function.update_of_ne apart, was]⟩
  have back {other : Nat} {held : Record} (now : next.heap other = some held) :
      other = address ∧ held = created ∨ other ≠ address ∧ state.heap other = some held := by
    rw [heap] at now
    rcases heap_update now with ⟨same, equal⟩ | kept
    · rw [Option.some.injEq] at equal
      exact .inl ⟨same, equal.symm⟩
    · exact .inr kept
  have joined {other address : Nat} (joining : Joins next other address) :
      Joins state other address :=
    joining.back state cothreads nofun
  have unlisted : address ∉ state.threadRecords := by
    rw [inv.listed]
    rintro ⟨held, was⟩
    simp [unused] at was
  refine
    { intact := by rw [fault, aborted]; exact inv.intact
      counter := by rw [tokens]; exact Nat.lt_succ_of_lt inv.counter
      linked := by rw [threadRecords]; exact List.nodup_cons.mpr ⟨unlisted, inv.linked⟩
      listed := fun other => ?_
      token := fun other held now => ?_
      distinct := fun first second held also one two equal => ?_
      live := fun handle other => ?_
      owns := fun other control found => ?_
      vacant := fun other vacant => ?_
      claimed := fun other at_ joining => ?_
      joiner := fun first second other one two =>
        inv.joiner first second other (joined one) (joined two)
      alive := fun other held now => ?_
      gone := fun thread none => ?_
      fresh := fun thread late => ?_ }
  · rw [threadRecords, List.mem_cons, inv.listed]
    constructor
    · rintro (rfl | ⟨held, was⟩)
      · exact ⟨created, by rw [heap, Function.update_self]⟩
      · exact ⟨held, (forth was).2⟩
    · rintro ⟨held, now⟩
      rcases back now with ⟨same, _⟩ | ⟨_, was⟩
      · exact .inl same
      · exact .inr ⟨held, was⟩
  · rw [tokens]
    rcases back now with ⟨_, rfl⟩ | ⟨_, was⟩
    · rw [token]
      exact ⟨inv.counter, Nat.lt_succ_self _⟩
    · obtain ⟨high, low⟩ := inv.token other held was
      exact ⟨high, Nat.lt_succ_of_lt low⟩
  · rcases back one with ⟨rfl, rfl⟩ | ⟨_, one⟩
    · rcases back two with ⟨rfl, _⟩ | ⟨_, two⟩
      · rfl
      · have low := (inv.token second also two).2
        omega
    · rcases back two with ⟨rfl, rfl⟩ | ⟨_, two⟩
      · have low := (inv.token first held one).2
        omega
      · exact inv.distinct first second held also one two equal
  · rw [byHandle]
    by_cases same : handle = slot
    · subst same
      rw [Function.update_self, Option.some.injEq]
      constructor
      · rintro rfl
        exact ⟨created, by rw [heap, Function.update_self], running, placed⟩
      · rintro ⟨held, now, lives, at_⟩
        rcases back now with ⟨same, _⟩ | ⟨_, was⟩
        · exact same.symm
        · have names := (inv.live handle other).mpr ⟨held, was, lives, at_⟩
          simp [inv.vacant handle empty] at names
    · rw [Function.update_of_ne same, inv.live]
      constructor
      · rintro ⟨held, was, kept⟩
        exact ⟨held, (forth was).2, kept⟩
      · rintro ⟨held, now, lives, at_⟩
        rcases back now with ⟨_, rfl⟩ | ⟨_, was⟩
        · exact absurd (at_.symm.trans placed) same
        · exact ⟨held, was, lives, at_⟩
  · rw [cothreads] at found
    rw [byHandle]
    have own : (Control.spawned address).Owns (some address) := rfl
    exact owns_update inv.owns own found
  · rw [cothreads] at vacant
    rw [byHandle]
    exact vacant_update inv.vacant vacant
  · obtain ⟨held, was, claimed⟩ := inv.claimed other at_ (joined joining)
    exact ⟨held, (forth was).2, claimed⟩
  · rw [lives]
    rcases back now with ⟨_, rfl⟩ | ⟨_, was⟩
    · rw [Function.update_self]
      exact alive
    · rw [Function.update_of_ne]
      · exact inv.alive other held was
      · have low := (inv.token other held was).2
        omega
  · have apart : created.token ≠ thread := none address created (by rw [heap, Function.update_self])
    rw [lives, Function.update_of_ne apart.symm]
    exact inv.gone thread fun other held was => none other held (forth was).2
  · rw [tokens] at late
    rw [lives, Function.update_of_ne]
    · exact inv.fresh thread (late.imp_right Nat.le_of_succ_le)
    · have high := inv.counter
      omega

/-- A slot that names no record is given back. -/
theorem Inv.destroy (inv : Inv state) (waking : state.cothreads slot = some .waking) :
    Inv { state with cothreads := Function.update state.cothreads slot none } := by
  have named : state.byHandle slot = none := inv.owns slot .waking waking
  have kept {other : Nat} {control : Control}
      (found : Function.update state.cothreads slot none other = some control) :
      state.cothreads other = some control := by
    by_cases same : other = slot
    · subst same
      simp at found
    · rwa [Function.update_of_ne same] at found
  have joined {other address : Nat}
      (joining : Joins { state with cothreads := Function.update state.cothreads slot none } other
        address) : Joins state other address := by
    obtain ⟨stack, joining⟩ := joining
    exact ⟨stack, kept joining⟩
  refine
    { intact := inv.intact
      counter := inv.counter
      linked := inv.linked
      listed := inv.listed
      token := inv.token
      distinct := inv.distinct
      live := inv.live
      owns := fun other control found => inv.owns other control (kept found)
      vacant := fun other empty => ?_
      claimed := fun other address joining => inv.claimed other address (joined joining)
      joiner := fun first second address one two =>
        inv.joiner first second address (joined one) (joined two)
      alive := inv.alive
      gone := inv.gone
      fresh := inv.fresh }
  by_cases same : other = slot
  · exact same ▸ named
  · refine inv.vacant other ?_
    simpa only [Function.update_of_ne same] using empty

/-! ## Calls -/

theorem findRecord_some {thread : Nat}
    (found : findRecord state thread = some (address, record)) :
    state.heap address = some record ∧ record.token = thread := by
  unfold findRecord at found
  obtain ⟨other, _, held⟩ := List.exists_of_findSome?_eq_some found
  obtain ⟨candidate, read, matched⟩ := Option.bind_eq_some_iff.mp held
  split_ifs at matched with same
  cases matched
  exact ⟨read, same⟩

theorem removeRecord_eq (listed : address ∈ state.threadRecords)
    (found : state.heap address = some record) :
    removeRecord state address =
      { state.setLife record.token
          { state.life record.token with frees := (state.life record.token).frees + 1 } with
        threadRecords := state.threadRecords.erase address
        heap := Function.update state.heap address none } := by
  simp only [removeRecord, listed, if_true, found]

theorem Inv.found_listed (inv : Inv state) (found : state.heap address = some record) :
    address ∈ state.threadRecords := (inv.listed address).mpr ⟨record, found⟩

/-- A record that is not claimed has no joiner. -/
theorem Inv.unjoined (inv : Inv state) (found : state.heap address = some record)
    (free : record.joinClaimed = false ∨ record.detached = true) (slot : Nat) :
    ¬ Joins state slot address := by
  intro joining
  obtain ⟨held, was, claimed, attached⟩ := inv.claimed slot address joining
  rw [found, Option.some.injEq] at was
  subst was
  simp [claimed, attached] at free

/-- A complete detached record is freed by whoever finds it so. -/
theorem Inv.removeRecord (inv : Inv state) (found : state.heap address = some record)
    (complete : record.complete = true) (detached : record.detached = true) :
    Inv (removeRecord state address) := by
  rw [removeRecord_eq (inv.found_listed found) found]
  exact inv.release found complete (inv.unjoined found (.inr detached))
    ((inv.alive address record found).detach complete detached) _ rfl rfl rfl
    ⟨rfl, rfl, rfl, rfl, rfl, rfl, rfl⟩ rfl

/-- Swept but for one record. -/
def SweptBut (address : Nat) (state : State) : Prop :=
  ∀ other record, state.heap other = some record → other ≠ address → record.complete = true →
    record.detached = false

theorem SweptBut.removeRecord (swept : SweptBut address state)
    (listed : address ∈ state.threadRecords) (found : state.heap address = some record) :
    Swept (removeRecord state address) := by
  rw [removeRecord_eq listed found]
  intro other held now complete
  rcases heap_update now with ⟨_, impossible⟩ | ⟨apart, was⟩
  · cases impossible
  · exact swept other held was apart complete

theorem SweptBut.swept (swept : SweptBut address state)
    (found : state.heap address = some record)
    (kept : record.complete = true → record.detached = false) : Swept state := by
  intro other held now complete
  by_cases same : other = address
  · subst same
    rw [found, Option.some.injEq] at now
    subst now
    exact kept complete
  · exact swept other held now same complete

theorem Swept.setRecord (swept : Swept state) (address : Nat) (record : Record) :
    SweptBut address (state.setRecord address record) := by
  intro other held now apart
  rcases heap_update now with ⟨same, _⟩ | ⟨_, was⟩
  · exact absurd same apart
  · exact swept other held was

/-- A waiting joiner looks at its record. -/
theorem Inv.joinCheck (inv : Inv state) (swept : Swept state) {stack : List Finish}
    (waiting : state.cothreads slot = some (.joining address stack)) :
    Inv (joinCheck state slot address stack) ∧ Swept (joinCheck state slot address stack) := by
  obtain ⟨record, found, claimed, attached⟩ := inv.claimed slot address ⟨stack, waiting⟩
  simp only [Pthread.joinCheck, found]
  split_ifs with complete
  · have own : (Control.running stack).Owns (state.byHandle slot) :=
      inv.owns slot (.joining address stack) waiting
    have left : Inv (state.setControl slot (.running stack)) :=
      inv.control slot _ ⟨rfl, rfl, rfl, rfl, rfl, rfl, rfl⟩ rfl own nofun
    have unjoined (other : Nat) :
        ¬ Joins (state.setControl slot (.running stack)) other address := by
      intro joining
      have before := joining.back state rfl nofun
      obtain rfl := inv.joiner other slot address before ⟨stack, waiting⟩
      obtain ⟨_, running⟩ := joining
      simp [State.setControl] at running
    let life := state.life record.token
    let taken := (state.setControl slot (.running stack)).setLife record.token
      { life with joins := life.joins ++ [record.result] }
    have freed := @removeRecord_eq taken address record (inv.found_listed found) found
    rw [freed]
    constructor
    · refine left.release found complete unjoined
        ((inv.alive address record found).join complete attached) _ rfl rfl ?_
        ⟨rfl, rfl, rfl, rfl, rfl, rfl, rfl⟩ rfl
      simp only [taken, life, State.setLife, State.setControl, Function.update_self,
        Function.update_idem]
    · intro other held now done
      rcases heap_update now with ⟨_, impossible⟩ | ⟨_, was⟩
      · cases impossible
      · exact swept other held was done
  · exact ⟨inv, swept⟩

/-- A claim or a detach that succeeds finds a record that is neither. -/
theorem not_taken (free : ¬ (record.detached = true ∨ record.joinClaimed = true)) :
    record.detached = false ∧ record.joinClaimed = false := by
  simpa [not_or] using free

theorem Inv.pthreadDetach (inv : Inv state) (swept : Swept state) (thread : Nat) :
    Inv (pthreadDetach state thread).1 ∧ Swept (pthreadDetach state thread).1 := by
  unfold Pthread.pthreadDetach
  cases search : findRecord state thread with
  | none => exact ⟨inv, swept⟩
  | some pair =>
      obtain ⟨address, record⟩ := pair
      obtain ⟨found, _⟩ := findRecord_some search
      simp only
      by_cases free : record.detached = true ∨ record.joinClaimed = true
      · rw [if_pos free]
        exact ⟨inv, swept⟩
      · rw [if_neg free]
        obtain ⟨attached, unclaimed⟩ := not_taken free
        have alive := inv.alive address record found
        let life := state.life record.token
        let detached := (state.setRecord address { record with detached := true }).setLife
          record.token { life with detached := true, detaches := life.detaches + 1 }
        have none : life.detaches = 0 := by simpa [attached] using alive.detaches
        have marked : Inv detached := by
          refine inv.rewrite found { record with detached := true } rfl rfl rfl _ ?_
            (fun slot joining => absurd joining (inv.unjoined found (.inl unclaimed) slot))
            detached rfl rfl ⟨rfl, rfl, rfl, rfl, rfl, rfl, rfl⟩ rfl
          exact ⟨alive.created, rfl, by simp [none], alive.results, alive.joins, alive.frees⟩
        have now : detached.heap address = some { record with detached := true } :=
          Function.update_self ..
        have but : SweptBut address detached := swept.setRecord address _
        by_cases complete : record.complete = true
        · rw [if_pos complete]
          exact ⟨marked.removeRecord now complete rfl,
            but.removeRecord (marked.found_listed now) now⟩
        · rw [if_neg complete]
          exact ⟨marked, but.swept now fun done => absurd done complete⟩

/-- A join that goes on to wait has claimed a record that was free to claim. -/
theorem pthreadJoin_ok {thread : Nat}
    (claims : pthreadJoin state slot thread = some (next, .ok address)) :
    ∃ record, state.heap address = some record ∧ record.detached = false ∧
      record.joinClaimed = false ∧
      next = state.setRecord address { record with joinClaimed := true } := by
  unfold pthreadJoin at claims
  split_ifs at claims with special
  · simp at claims
  cases search : findRecord state thread with
  | none => simp [search] at claims
  | some pair =>
      obtain ⟨other, record⟩ := pair
      obtain ⟨found, _⟩ := findRecord_some search
      simp only [search] at claims
      cases self : pthreadSelf state slot with
      | none => simp [self] at claims
      | some token =>
          simp only [self] at claims
          split_ifs at claims with own free
          · simp at claims
          · simp at claims
          · simp only [Option.some.injEq, Prod.mk.injEq, Except.ok.injEq] at claims
            obtain ⟨rfl, rfl⟩ := claims
            obtain ⟨attached, unclaimed⟩ := not_taken free
            exact ⟨record, found, attached, unclaimed, rfl⟩

/-- A join that fails changes nothing. -/
theorem pthreadJoin_error {thread : Nat} {errno : Errno}
    (fails : pthreadJoin state slot thread = some (next, .error errno)) : next = state := by
  unfold pthreadJoin at fails
  split_ifs at fails with special
  · simp_all
  cases search : findRecord state thread with
  | none => simp_all
  | some pair =>
      simp only [search] at fails
      cases self : pthreadSelf state slot with
      | none => simp [self] at fails
      | some token =>
          simp only [self] at fails
          split_ifs at fails <;> simp_all

/-- The by-handle table names records in the heap, so that a join reads none that is
freed. -/
theorem Inv.pthreadSelf (inv : Inv state) (slot : Nat) : pthreadSelf state slot ≠ none := by
  unfold Pthread.pthreadSelf
  simp only
  split_ifs
  · simp
  · cases named : state.byHandle (runtimeCoCurrent state slot) with
    | none => simp
    | some address =>
        obtain ⟨record, found, _⟩ := (inv.live _ address).mp named
        simp [found]

theorem Inv.pthreadJoin (inv : Inv state) (slot thread : Nat) :
    pthreadJoin state slot thread ≠ none := by
  unfold Pthread.pthreadJoin
  split_ifs
  · simp
  · cases findRecord state thread with
    | none => simp
    | some pair =>
        cases self : Pthread.pthreadSelf state slot with
        | none => exact absurd self (inv.pthreadSelf slot)
        | some token =>
            simp only
            split_ifs <;> simp

theorem Inv.claim (inv : Inv state) (swept : Swept state) {stack : List Finish}
    (running : state.cothreads slot = some (.running stack))
    (found : state.heap address = some record) (attached : record.detached = false)
    (unclaimed : record.joinClaimed = false) (claimed : State)
    (marks : claimed = state.setRecord address { record with joinClaimed := true }) :
    Inv (claimed.setControl slot (.joining address stack)) ∧
      Swept (claimed.setControl slot (.joining address stack)) := by
  subst marks
  have alive := inv.alive address record found
  let claimed := state.setRecord address { record with joinClaimed := true }
  have now : claimed.heap address = some { record with joinClaimed := true } :=
    Function.update_self ..
  have unjoined (other : Nat) : ¬ Joins claimed other address :=
    inv.unjoined found (.inl unclaimed) other
  have marked : Inv claimed := by
    refine inv.rewrite found { record with joinClaimed := true } rfl rfl rfl
      (state.life record.token) ?_
      (fun slot joining => absurd joining (inv.unjoined found (.inl unclaimed) slot)) claimed rfl
      (Function.update_eq_self ..).symm ⟨rfl, rfl, rfl, rfl, rfl, rfl, rfl⟩ rfl
    exact ⟨alive.created, alive.detached, alive.detaches, alive.results, alive.joins, alive.frees⟩
  constructor
  · refine marked.control slot _ ⟨rfl, rfl, rfl, rfl, rfl, rfl, rfl⟩ rfl
      (inv.owns slot (.running stack) running) fun other frames equal => ?_
    cases equal
    exact ⟨⟨_, now, rfl, attached⟩, fun waiting joining => absurd joining (unjoined waiting)⟩
  · exact (swept.setRecord address _).swept now fun _ => attached

theorem runtimeTokenCounterNext_some {counter after : TokenCounter} {token : Nat}
    (given : runtimeTokenCounterNext counter = some (token, after)) :
    token = counter.next ∧ after.next = counter.next + 1 := by
  unfold runtimeTokenCounterNext at given
  split_ifs at given
  cases given
  exact ⟨rfl, rfl⟩

/-- A token that goes to no thread is spent all the same. -/
theorem Inv.spend (inv : Inv state) {tokens : TokenCounter}
    (after : tokens.next = state.tokens.next + 1) : Inv { state with tokens } := by
  refine
    { intact := inv.intact
      counter := by simpa [after] using Nat.lt_succ_of_lt inv.counter
      linked := inv.linked
      listed := inv.listed
      token := fun address record found => ?_
      distinct := inv.distinct
      live := inv.live
      owns := inv.owns
      vacant := inv.vacant
      claimed := inv.claimed
      joiner := inv.joiner
      alive := inv.alive
      gone := inv.gone
      fresh := fun token late => inv.fresh token ?_ }
  · obtain ⟨high, low⟩ := inv.token address record found
    exact ⟨high, by simpa [after] using Nat.lt_succ_of_lt low⟩
  · simp only [after] at late
    exact late.imp_right Nat.le_of_succ_le

/-- A create never aborts: the library's free slots are those the table leaves empty. -/
theorem Inv.pthreadCreate (inv : Inv state) (swept : Swept state) {call : Create}
    (answered : answers state call = true) :
    ∃ next result, pthreadCreate state call = some (next, result) ∧ Inv next ∧ Swept next := by
  unfold Pthread.pthreadCreate
  split_ifs
  · exact ⟨state, _, rfl, inv, swept⟩
  · exact ⟨state, _, rfl, inv, swept⟩
  cases attrDetached call.attr with
  | error errno => exact ⟨state, _, rfl, inv, swept⟩
  | ok detached =>
      cases malloc : call.malloc with
      | none => exact ⟨state, _, rfl, inv, swept⟩
      | some address =>
          cases given : runtimeTokenCounterNext state.tokens with
          | none => exact ⟨state, _, rfl, inv, swept⟩
          | some pair =>
              obtain ⟨token, tokens⟩ := pair
              obtain ⟨rfl, after⟩ := runtimeTokenCounterNext_some given
              cases spawn : call.spawn with
              | none => exact ⟨_, _, rfl, inv.spend after, swept⟩
              | some handle =>
                  simp only [answers, malloc, spawn, Option.all_some, Bool.and_eq_true,
                    decide_eq_true_eq, Option.isNone_iff_eq_none] at answered
                  obtain ⟨unused, ⟨high, low⟩, empty⟩ := answered
                  have named := inv.vacant handle empty
                  have sound : ¬ (¬ handle < maxCothreads ∨ handle = 0 ∨
                      (state.byHandle handle).isSome = true) := by
                    simp only [named, Option.isSome_none, Bool.false_eq_true, or_false, not_or,
                      not_not]
                    exact ⟨low, Nat.ne_of_gt high⟩
                  dsimp only
                  rw [if_neg sound]
                  let created : Record :=
                    { start := call.start, arg := call.arg, token := state.tokens.next
                      handle := handle, detached }
                  refine ⟨_, _, rfl, ?_, fun other held now complete => ?_⟩
                  · refine inv.publish created unused empty rfl rfl rfl ?_ _ rfl rfl rfl rfl
                      after rfl rfl rfl
                    have idle := inv.fresh state.tokens.next (.inr (Nat.le_refl _))
                    exact ⟨by simp [idle], rfl, by simp [idle], by simp [idle, created],
                      by simp [idle], by simp [idle]⟩
                  · rcases heap_update now with ⟨_, equal⟩ | ⟨_, was⟩
                    · rw [Option.some.injEq] at equal
                      subst equal
                      cases complete
                    · exact swept other held was complete

/-! ## Exit -/

theorem Inv.finishCurrent (inv : Inv state) {result : Nat} {stack : List Finish}
    (owns : ∀ finish ∈ stack, finish.record = state.byHandle slot) :
    Inv (finishCurrent state slot result stack) := by
  simp only [Pthread.finishCurrent]
  split_ifs with root
  · exact inv.control slot _ ⟨rfl, rfl, rfl, rfl, rfl, rfl, rfl⟩ rfl trivial nofun
  · refine inv.control slot (.finishing
      { record := state.byHandle (runtimeCoCurrent state slot), result } stack)
      ⟨rfl, rfl, rfl, rfl, rfl, rfl, rfl⟩ rfl (fun finish inside => ?_)
      nofun
    have here : runtimeCoCurrent state slot = slot := by
      unfold runtimeCoCurrent at root ⊢
      split_ifs at root ⊢ with ready
      · rfl
      · exact absurd rfl root
    rcases List.mem_cons.mp inside with rfl | inside
    · simp only [here]
    · exact owns finish inside

theorem Swept.finishCurrent (swept : Swept state) (slot result : Nat) (stack : List Finish) :
    Swept (finishCurrent state slot result stack) := by
  unfold Pthread.finishCurrent
  simp only
  split_ifs <;> exact swept

theorem Inv.finishDone (inv : Inv state) (swept : Swept state) {finish : Finish}
    (owns : finish.record = state.byHandle slot) :
    Inv (finishDone state slot finish) ∧ Swept (finishDone state slot finish) := by
  cases named : finish.record with
  | none =>
      have same : Function.update state.byHandle slot none = state.byHandle := by
        rw [← named, owns, Function.update_eq_self]
      simp only [Pthread.finishDone, named]
      exact ⟨inv.control slot _ ⟨rfl, rfl, same, rfl, rfl, rfl, rfl⟩ rfl (owns ▸ named)
        nofun, swept⟩
  | some address =>
      have names : state.byHandle slot = some address := owns ▸ named
      obtain ⟨record, found, _, _⟩ := (inv.live slot address).mp names
      let ended : Record := { record with result := finish.result, complete := true }
      let life := state.life record.token
      let complete := (({ state.setControl slot .waking with
        byHandle := Function.update state.byHandle slot none }).setRecord address ended).setLife
          record.token { life with results := life.results ++ [finish.result] }
      have unfolded : Pthread.finishDone state slot finish =
          if record.detached then Pthread.removeRecord complete address else complete := by
        simp only [Pthread.finishDone, named, State.setControl, found, complete, ended, life]
      have done : Inv complete :=
        inv.complete found names finish.result complete rfl rfl rfl rfl
          ⟨rfl, rfl, rfl, rfl, rfl, rfl, rfl⟩
      have now : complete.heap address = some ended := Function.update_self ..
      have but : SweptBut address complete := swept.setRecord address ended
      rw [unfolded]
      by_cases detached : record.detached = true
      · rw [if_pos detached]
        exact ⟨done.removeRecord now rfl detached,
          but.removeRecord (done.found_listed now) now⟩
      · rw [if_neg detached]
        exact ⟨done, but.swept now fun _ => Bool.eq_false_iff.mpr detached⟩

/-- The row of a slot is cleared under its finish. -/
theorem Inv.clearRow (inv : Inv state) {finish : Finish} {stack : List Finish}
    (finishing : state.cothreads slot = some (.finishing finish stack)) :
    Inv (state.setRow slot fun _ => 0) := by
  refine inv.control slot (.finishing finish stack) ⟨rfl, rfl, rfl, rfl, rfl, rfl, rfl⟩ ?_
    (inv.owns slot _ finishing) nofun
  rw [← finishing, Function.update_eq_self]
  rfl

theorem Inv.finishStep (inv : Inv state) (swept : Swept state) {finish : Finish}
    {stack : List Finish} (finishing : state.cothreads slot = some (.finishing finish stack)) :
    Inv (finishStep state slot finish stack) ∧ Swept (finishStep state slot finish stack) := by
  have owns : ∀ other ∈ finish :: stack, other.record = state.byHandle slot :=
    inv.owns slot (.finishing finish stack) finishing
  have own := owns finish List.mem_cons_self
  have later (other : Finish) (inside : other ∈ stack) : other.record = state.byHandle slot :=
    owns other (List.mem_cons_of_mem finish inside)
  have moved (next : Finish) (same : next.record = finish.record) :
      ∀ other ∈ next :: stack, other.record = state.byHandle slot := by
    intro other inside
    rcases List.mem_cons.mp inside with rfl | inside
    · rw [same, own]
    · exact later other inside
  simp only [Pthread.finishStep]
  split_ifs with more calls again
  · exact ⟨inv.control slot (.running _) ⟨rfl, rfl, rfl, rfl, rfl, rfl, rfl⟩ rfl
      (moved _ rfl) nofun, swept⟩
  · exact ⟨inv.control slot (.finishing _ stack) ⟨rfl, rfl, rfl, rfl, rfl, rfl, rfl⟩ rfl
      (moved _ rfl) nofun, swept⟩
  · exact ⟨inv.control slot (.finishing _ stack) ⟨rfl, rfl, rfl, rfl, rfl, rfl, rfl⟩ rfl
      (moved _ rfl) nofun, swept⟩
  · exact (inv.clearRow finishing).finishDone swept own

/-! ## Runs -/

theorem Inv.boot : Inv boot := by
  refine
    { intact := ⟨rfl, rfl⟩
      counter := Nat.lt_succ_self maxCothreads
      linked := List.nodup_nil
      listed := fun _ => by simp [Pthread.boot]
      token := nofun
      distinct := nofun
      live := fun _ _ => by simp [Pthread.boot]
      owns := fun slot control found => ?_
      vacant := fun _ _ => rfl
      claimed := ?_
      joiner := ?_
      alive := nofun
      gone := fun _ _ => .inl rfl
      fresh := fun _ _ => rfl }
  · simp only [Pthread.boot, Option.ite_none_right_eq_some, Option.some.injEq] at found
    obtain ⟨_, rfl⟩ := found
    exact nofun
  · rintro slot address ⟨stack, joining⟩
    simp [Pthread.boot] at joining
  · rintro slot other address ⟨stack, joining⟩
    simp [Pthread.boot] at joining

/-- What one step of any cothread preserves. -/
theorem Inv.step (inv : Inv state) (swept : Swept state) {action : Action}
    (stepped : step state slot action = some next) : Inv next ∧ Swept next := by
  have intact : ¬ (state.fault = true ∨ state.aborted = true) := by
    simp [inv.intact.1, inv.intact.2]
  unfold Pthread.step at stepped
  rw [if_neg intact] at stepped
  split at stepped
  next stack running =>
    split_ifs at stepped
    cases stepped
    exact ⟨inv.frame ⟨rfl, rfl, rfl, rfl, rfl, rfl, rfl⟩ rfl running, swept⟩
  next stack call running =>
    split_ifs at stepped with answered
    obtain ⟨created, result, equal, kept, clean⟩ := inv.pthreadCreate swept answered
    simp only [equal, Option.some.injEq] at stepped
    subst stepped
    exact ⟨kept, clean⟩
  next stack thread running =>
    cases joined : Pthread.pthreadJoin state slot thread with
    | none => exact absurd joined (inv.pthreadJoin slot thread)
    | some pair =>
        obtain ⟨claimed, errno | address⟩ := pair
        · simp only [joined, Option.some.injEq] at stepped
          obtain rfl := pthreadJoin_error joined
          subst stepped
          exact ⟨inv, swept⟩
        · simp only [joined, Option.some.injEq] at stepped
          subst stepped
          obtain ⟨record, found, attached, unclaimed, marks⟩ := pthreadJoin_ok joined
          exact inv.claim swept running found attached unclaimed claimed marks
  next stack thread running =>
    cases stepped
    exact inv.pthreadDetach swept thread
  next stack destructor running =>
    cases stepped
    unfold pthreadKeyCreate
    split
    · exact ⟨inv, swept⟩
    · exact ⟨inv.frame ⟨rfl, rfl, rfl, rfl, rfl, rfl, rfl⟩ rfl running, swept⟩
  next stack key running =>
    cases stepped
    unfold pthreadKeyDelete
    split_ifs
    · exact ⟨inv.frame ⟨rfl, rfl, rfl, rfl, rfl, rfl, rfl⟩ rfl running, swept⟩
    · exact ⟨inv, swept⟩
  next stack key value running =>
    cases stepped
    unfold pthreadSetspecific
    split_ifs
    · exact ⟨inv.frame ⟨rfl, rfl, rfl, rfl, rfl, rfl, rfl⟩ rfl running, swept⟩
    · exact ⟨inv, swept⟩
  next stack result running =>
    cases stepped
    exact ⟨inv.finishCurrent (inv.owns slot (.running stack) running), swept.finishCurrent _ _ _⟩
  next stack result running =>
    have owns := inv.owns slot (.running stack) running
    cases stack with
    | nil =>
        simp only [returned, Option.ite_none_left_eq_some, Option.some.injEq] at stepped
        obtain ⟨_, rfl⟩ := stepped
        exact ⟨inv.finishCurrent owns, swept.finishCurrent _ _ _⟩
    | cons finish rest =>
        cases stepped
        exact ⟨inv.control slot _ ⟨rfl, rfl, rfl, rfl, rfl, rfl, rfl⟩ rfl owns nofun, swept⟩
  next address spawned =>
    have named : state.byHandle slot = some address := inv.owns slot (.spawned address) spawned
    obtain ⟨record, found, _⟩ := (inv.live slot address).mp named
    simp only [found, Option.some.injEq] at stepped
    subst stepped
    exact ⟨inv.control slot _ ⟨rfl, rfl, rfl, rfl, rfl, rfl, rfl⟩ rfl nofun nofun, swept⟩
  next address stack waiting =>
    cases stepped
    exact inv.joinCheck swept waiting
  next finish stack finishing =>
    cases stepped
    exact inv.finishStep swept finishing
  next waking =>
    cases stepped
    exact ⟨inv.destroy waking, swept⟩
  · cases stepped

theorem Inv.run {steps : List (Nat × Action)} (inv : Inv state) (swept : Swept state)
    (ran : run state steps = some next) : Inv next ∧ Swept next := by
  induction steps generalizing state with
  | nil =>
      cases ran
      exact ⟨inv, swept⟩
  | cons first rest ih =>
      obtain ⟨slot, action⟩ := first
      simp only [Pthread.run, Option.bind_eq_some_iff] at ran
      obtain ⟨middle, stepped, ran⟩ := ran
      obtain ⟨kept, clean⟩ := inv.step swept stepped
      exact ih kept clean ran

/-! ## Lifetimes -/

/-- What the history of a token can be. -/
structure Lifetime (life : Life) : Prop where
  created : life.created ≤ 1
  completed : life.results.length ≤ 1
  freed : life.frees ≤ 1
  exactly : life.frees = 1 ↔ life.results ≠ [] ∧ (life.detached = true ∨ life.joins ≠ [])
  joined : life.joins.length ≤ 1
  result : ∀ result ∈ life.joins, life.results = [result]
  exclusive : life.joins ≠ [] → life.detaches = 0

theorem Lifetime.none : Lifetime {} :=
  ⟨by simp, by simp, by simp, by simp, by simp, by simp, by simp⟩

theorem Gone.lifetime {life : Life} (gone : Gone life) : Lifetime life := by
  obtain ⟨created, frees, result, results, ⟨detached, _, joins⟩ | ⟨_, detaches, joins⟩⟩ := gone
  · exact ⟨by simp [created], by simp [results], by simp [frees],
      by simp [frees, results, detached],
      by simp [joins], by simp [joins], by simp [joins]⟩
  · exact ⟨by simp [created], by simp [results], by simp [frees], by simp [frees, results, joins],
      by simp [joins], by simp [joins, results], by simp [detaches]⟩

theorem Alive.lifetime {life : Life} (alive : Alive record life)
    (kept : record.complete = true → record.detached = false) : Lifetime life := by
  obtain ⟨created, detached, _, results, joins, frees⟩ := alive
  refine ⟨by simp [created], ?_, by simp [frees], ?_, by simp [joins], by simp [joins],
    by simp [joins]⟩
  · rw [results]
    split_ifs <;> simp
  · cases complete : record.complete with
    | false => simp [frees, results, complete]
    | true => simp [frees, joins, detached, kept complete]

/-- A token is created once and counted from the first that no cothread without a record
answers to; its record is in the heap from its creation until it is freed; and the
by-handle table names the threads that have not completed, by the slots that run them. -/
structure Lifetimes (state : State) : Prop where
  intact : state.fault = false ∧ state.aborted = false
  lifetime : ∀ token, Lifetime (state.life token)
  reserved : ∀ token ≤ maxCothreads, state.life token = {}
  unused : ∀ token, state.tokens.next ≤ token → state.life token = {}
  record : ∀ token,
    (∃ address record, state.heap address = some record ∧ record.token = token) ↔
      (state.life token).created = 1 ∧ (state.life token).frees = 0
  byHandle : ∀ handle address, state.byHandle handle = some address ↔
    ∃ record, state.heap address = some record ∧ record.handle = handle ∧
      (state.life record.token).results = []
  occupied : ∀ handle, state.cothreads handle = none → state.byHandle handle = none

theorem Inv.lifetimes (inv : Inv state) (swept : Swept state) : Lifetimes state := by
  have cases (token : Nat) :
      (∃ address record, state.heap address = some record ∧ record.token = token) ∨
        state.life token = {} ∨ Gone (state.life token) := by
    by_cases held : ∃ address record, state.heap address = some record ∧ record.token = token
    · exact .inl held
    · exact .inr (inv.gone token fun address record found equal =>
        held ⟨address, record, found, equal⟩)
  refine
    { intact := inv.intact
      lifetime := fun token => ?_
      reserved := fun token low => inv.fresh token (.inl low)
      unused := fun token high => inv.fresh token (.inr high)
      record := fun token => ?_
      byHandle := fun handle address => ?_
      occupied := inv.vacant }
  · rcases cases token with ⟨address, record, found, rfl⟩ | idle | gone
    · exact (inv.alive address record found).lifetime (swept address record found)
    · rw [idle]
      exact Lifetime.none
    · exact gone.lifetime
  · constructor
    · rintro ⟨address, record, found, rfl⟩
      have alive := inv.alive address record found
      exact ⟨alive.created, alive.frees⟩
    · rintro ⟨created, frees⟩
      rcases cases token with held | idle | gone
      · exact held
      · simp [idle] at created
      · simp [gone.frees] at frees
  · rw [inv.live]
    refine exists_congr fun record => and_congr_right fun found => ?_
    rw [(inv.alive address record found).results, and_comm]
    cases record.complete <;> simp

/-- After every run of the threads' calls, exits and switches. -/
theorem run_lifetimes {steps : List (Nat × Action)} (ran : run boot steps = some state) :
    Lifetimes state := by
  obtain ⟨inv, swept⟩ := Inv.boot.run nofun ran
  exact inv.lifetimes swept

/-- A thread whose destructor asks in vain to be detached, joined by the root. -/
theorem run_lifetimes_joined :
    ∃ state : State, state.life 33 =
        { created := 1, results := [42], joins := [42], frees := 1 } ∧ Lifetimes state := by
  let begins : List (Nat × Action) :=
    [(0, .threadInit),
      (0, .create { start := 5, arg := 9, malloc := some 100, spawn := some 1 }),
      (0, .join 33), (1, .resume), (1, .keyCreate 7), (1, .setspecific 0 3), (1, .leave 42),
      (1, .resume), (1, .detach 33), (1, .leave 0)]
  let steps := begins ++ List.replicate 130 (1, .resume) ++ [(0, .resume)]
  have ends : (run boot steps).map (fun state => state.life 33) =
      some { created := 1, results := [42], joins := [42], frees := 1 } := by decide +kernel
  obtain ⟨state, ran, shown⟩ := Option.map_eq_some_iff.mp ends
  exact ⟨state, shown, run_lifetimes ran⟩

end Chrysopolis.Beam.Pthread
