import Chrysopolis.Virtio.Ethernet
import Mathlib.Data.List.Count
import Mathlib.Data.List.Nodup

/-! Network buffers survive driver restarts. A buffer is in one queue, one in-use
descriptor pair or the virtualiser's hands in every state, as long as no restart strikes
an init that has put a buffer back and not yet reset the allocator that names it. -/

set_option autoImplicit false

namespace Chrysopolis.Virtio

/-! ## Lists -/

/-- One position of a list that starts to map adds its value to what the list maps to. -/
theorem count_filterMap_update {positions : List Nat} (distinct : positions.Nodup) {at_ : Nat}
    (mem : at_ ∈ positions) {before after : Nat → Option Nat} {value : Nat}
    (none : before at_ = none) (some : after at_ = some value)
    (same : ∀ other, other ≠ at_ → after other = before other) (address : Nat) :
    (positions.filterMap after).count address =
      (positions.filterMap before).count address + if value = address then 1 else 0 := by
  have split := List.perm_cons_erase mem
  have rest : (positions.erase at_).filterMap after = (positions.erase at_).filterMap before :=
    List.filterMap_congr fun other inside =>
      same other fun equal => (List.Nodup.mem_erase_iff distinct).mp inside |>.1 equal
  rw [(split.filterMap after).count_eq, (split.filterMap before).count_eq,
    List.filterMap_cons_some some, List.filterMap_cons_none none, rest, List.count_cons]
  simp

namespace Direction

variable (config : Config) (direction : Direction)

/-- The buffer an in-use header carries. -/
def flightAt (id : Nat) : Option Nat :=
  if direction.isHeader config id then
    some (direction.desc (direction.packetOf config id)).addr
  else none

/-- The buffers in flight, without those of ids an init has put back. -/
def flight (walked : Nat) : List Nat :=
  (List.range' walked (direction.capacity - walked)).filterMap (direction.flightAt config)

/-- Every place a buffer of the pool can be. -/
def places (walked : Nat) : List Nat :=
  direction.free.map (·.ioOrOffset) ++ direction.active.map (·.ioOrOffset) ++
    direction.flight config walked ++ direction.held.map (·.ioOrOffset)

/-- In-use headers name packets of their own. -/
structure Paired : Prop where
  fits : direction.capacity ≤ config.num
  used : ∀ id, direction.inUse id = true → id < direction.capacity
  packet : ∀ header, direction.isHeader config header = true →
    direction.inUse (direction.packetOf config header) = true ∧
      direction.isHeader config (direction.packetOf config header) = false
  own : ∀ first second, direction.isHeader config first = true →
    direction.isHeader config second = true →
    direction.packetOf config first = direction.packetOf config second → first = second

/-- What holds of a direction with this many ids put back by an init. -/
structure Ok (dir : Dir) (walked reclaimed : Nat) : Prop extends Paired config direction where
  conserved : ∀ address, (direction.places config walked).count address =
    (config.pool dir).count address
  untouched : reclaimed = 0 → ∀ id < walked, direction.isHeader config id = false

variable {config direction}

theorem isHeader_used {id : Nat} (header : direction.isHeader config id = true) :
    direction.inUse id = true := by
  simp only [isHeader, Bool.and_eq_true] at header
  exact header.1.1

theorem flight_idle (idle : ∀ id, direction.inUse id = false) (walked : Nat) :
    direction.flight config walked = [] := by
  refine List.filterMap_eq_nil_iff.mpr fun id _ => ?_
  simp [flightAt, isHeader, idle id]

theorem flight_walked {walked : Nat} (all : direction.capacity ≤ walked) :
    direction.flight config walked = [] := by
  simp [flight, Nat.sub_eq_zero_of_le all]

theorem flight_cons {walked : Nat} (more : walked < direction.capacity) :
    direction.flight config walked =
      (direction.flightAt config walked).toList ++ direction.flight config (walked + 1) := by
  have split : direction.capacity - walked = direction.capacity - (walked + 1) + 1 := by omega
  rw [flight, split, List.range'_succ, List.filterMap_cons]
  cases direction.flightAt config walked <;> rfl

/-- Ids without headers are no part of the flight. -/
theorem flight_untouched {walked : Nat}
    (none : ∀ id < walked, direction.isHeader config id = false) :
    direction.flight config 0 = direction.flight config walked := by
  induction walked with
  | zero => rfl
  | succ walked ih =>
      rw [ih fun id small => none id (Nat.lt_succ_of_lt small)]
      by_cases more : walked < direction.capacity
      · rw [flight_cons more, flightAt, none walked (Nat.lt_succ_self _)]
        rfl
      · rw [flight_walked (Nat.not_lt.mp more), flight_walked (by omega)]

/-- The places hold the pool, each buffer as often. -/
theorem Ok.perm {dir : Dir} {walked reclaimed : Nat}
    (ok : direction.Ok config dir walked reclaimed) :
    (direction.places config walked).Perm (config.pool dir) :=
  List.perm_iff_count.mpr ok.conserved

/-! ## Queues -/

@[simp] theorem setInput_input (dir : Dir) (queue : List NetBuffDesc) :
    (direction.setInput dir queue).input dir = queue := by cases dir <;> rfl

@[simp] theorem setInput_output (dir : Dir) (queue : List NetBuffDesc) :
    (direction.setInput dir queue).output dir = direction.output dir := by cases dir <;> rfl

@[simp] theorem setOutput_input (dir : Dir) (queue : List NetBuffDesc) :
    (direction.setOutput dir queue).input dir = direction.input dir := by cases dir <;> rfl

@[simp] theorem setOutput_output (dir : Dir) (queue : List NetBuffDesc) :
    (direction.setOutput dir queue).output dir = queue := by cases dir <;> rfl

@[simp] theorem input_held (held : List NetBuffDesc) (dir : Dir) :
    ({ direction with held } : Direction).input dir = direction.input dir := by cases dir <;> rfl

@[simp] theorem output_held (held : List NetBuffDesc) (dir : Dir) :
    ({ direction with held } : Direction).output dir = direction.output dir := by cases dir <;> rfl

/-- The places by what the driver does with their queues. -/
theorem count_places (direction : Direction) (dir : Dir) (walked address : Nat) :
    (direction.places config walked).count address =
      ((direction.input dir).map (·.ioOrOffset)).count address +
        ((direction.output dir).map (·.ioOrOffset)).count address +
        (direction.flight config walked).count address +
        (direction.held.map (·.ioOrOffset)).count address := by
  cases dir <;> simp only [places, List.count_append, input, output]
  omega

theorem enqueue_some {dir : Dir} {queue next : List NetBuffDesc} {buffer : NetBuffDesc}
    (queued : enqueue config dir queue buffer = some next) : next = queue ++ [buffer] := by
  simp only [enqueue, Option.ite_none_right_eq_some, Option.some.injEq] at queued
  exact queued.2.symm

/-! ## Providing and returning -/

variable {dir : Dir} {walked reclaimed : Nat} {next : Direction}

/-- The ring and the allocator after a provide. -/
theorem Paired.provided (ok : direction.Paired config) {header packet : Nat}
    (apart : header ≠ packet) (headerId : header < direction.capacity)
    (packetId : packet < direction.capacity) (headerFree : direction.inUse header = false)
    (packetFree : direction.inUse packet = false) (buffer : NetBuffDesc)
    (capacity : next.capacity = direction.capacity)
    (inUse : next.inUse =
      Function.update (Function.update direction.inUse header true) packet true)
    (desc : next.desc = Function.update (Function.update direction.desc header
      (headerDesc config dir header packet)) packet (packetDesc config dir buffer)) :
    next.Paired config ∧
      ∀ address, (next.flight config 0).count address =
        (direction.flight config 0).count address +
          if buffer.ioOrOffset = address then 1 else 0 := by
  have named : next.packetOf config header = packet := by
    have small : packet < config.num := Nat.lt_of_lt_of_le packetId ok.fits
    simp [packetOf, desc, apart, headerDesc, Nat.mod_eq_of_lt small]
  have isNew : next.isHeader config header = true := by
    cases dir <;> simp [isHeader, inUse, desc, apart, headerDesc] <;> decide
  have isPacket : next.isHeader config packet = false := by
    have clear : virtqDescFWrite &&& virtqDescFNext = 0 := by decide
    cases dir <;> simp [isHeader, desc, packetDesc, clear]
  have others {id : Nat} (notHeader : id ≠ header) (notPacket : id ≠ packet) :
      next.isHeader config id = direction.isHeader config id ∧
        next.packetOf config id = direction.packetOf config id := by
    simp [isHeader, packetOf, inUse, desc, notHeader, notPacket]
  have wasFree {id : Nat} (free : direction.inUse id = false) :
      direction.isHeader config id = false := by
    simp [isHeader, free]
  have old {id : Nat} (was : direction.isHeader config id = true) :
      id ≠ header ∧ id ≠ packet ∧ direction.packetOf config id ≠ header ∧
        direction.packetOf config id ≠ packet := by
    have used := isHeader_used was
    have named := (ok.packet id was).1
    refine ⟨?_, ?_, ?_, ?_⟩ <;> rintro rfl <;> simp_all
  have header_cases {id : Nat} (is : next.isHeader config id = true) :
      id = header ∨ direction.isHeader config id = true := by
    by_cases same : id = header
    · exact .inl same
    · have notPacket : id ≠ packet := by
        rintro rfl
        simp [isPacket] at is
      exact .inr ((others same notPacket).1 ▸ is)
  have kept {id : Nat} (was : direction.isHeader config id = true) :
      next.packetOf config id = direction.packetOf config id :=
    (others (old was).1 (old was).2.1).2
  refine ⟨⟨capacity ▸ ok.fits, fun id used => ?_, fun id is => ?_,
    fun first second is also same => ?_⟩,
    fun address => ?_⟩
  · rw [capacity]
    by_cases isHeader : id = header
    · exact isHeader ▸ headerId
    · by_cases isPacket : id = packet
      · exact isPacket ▸ packetId
      · exact ok.used id (by simpa [inUse, isHeader, isPacket] using used)
  · rcases header_cases is with rfl | was
    · rw [named]
      exact ⟨by simp [inUse], isPacket⟩
    · obtain ⟨-, -, notHeader, notPacket⟩ := old was
      obtain ⟨used, plain⟩ := ok.packet id was
      rw [kept was, (others notHeader notPacket).1]
      exact ⟨by simp [inUse, notHeader, notPacket, used], plain⟩
  · rcases header_cases is with rfl | was <;> rcases header_cases also with rfl | wasToo
    · rfl
    · rw [named, kept wasToo] at same
      exact absurd same.symm (old wasToo).2.2.2
    · rw [named, kept was] at same
      exact absurd same (old was).2.2.2
    · rw [kept was, kept wasToo] at same
      exact ok.own first second was wasToo same
  · have positions : header ∈ List.range' 0 direction.capacity := by
      simpa [List.mem_range'_1] using headerId
    rw [flight, flight, capacity, Nat.sub_zero]
    refine count_filterMap_update (List.nodup_range' ..) positions ?_ ?_ (fun id other => ?_)
      address
    · simp [flightAt, wasFree headerFree]
    · simp [flightAt, isNew, named, desc, packetDesc]
    · unfold flightAt
      by_cases isPacket' : id = packet
      · subst isPacket'
        simp [isPacket, wasFree packetFree]
      · rw [(others other isPacket').1]
        split_ifs with was
        · obtain ⟨-, -, notHeader, notPacket⟩ := old was
          simp [kept was, desc, notHeader, notPacket]
        · rfl

/-- A buffer moves from the input queue to a pair of descriptors. -/
theorem Ok.provided (ok : direction.Ok config dir 0 reclaimed) {header packet : Nat}
    (apart : header ≠ packet) (headerId : header < direction.capacity)
    (packetId : packet < direction.capacity) (headerFree : direction.inUse header = false)
    (packetFree : direction.inUse packet = false) {buffer : NetBuffDesc}
    {rest : List NetBuffDesc} (waiting : direction.input dir = buffer :: rest)
    (capacity : next.capacity = direction.capacity)
    (inUse : next.inUse =
      Function.update (Function.update direction.inUse header true) packet true)
    (desc : next.desc = Function.update (Function.update direction.desc header
      (headerDesc config dir header packet)) packet (packetDesc config dir buffer))
    (input : next.input dir = rest) (output : next.output dir = direction.output dir)
    (held : next.held = direction.held) : next.Ok config dir 0 reclaimed := by
  obtain ⟨paired, flight⟩ := ok.toPaired.provided apart headerId packetId headerFree packetFree
    buffer capacity inUse desc
  refine ⟨paired, fun address => ?_, fun _ _ small => absurd small (Nat.not_lt_zero _)⟩
  have before := ok.conserved address
  rw [count_places _ dir, waiting, List.map_cons, List.count_cons] at before
  rw [count_places _ dir, flight address, input, output, held, ← before]
  simp only [beq_iff_eq]
  omega

theorem Ok.provide (ok : direction.Ok config dir 0 reclaimed) {header packet : Nat}
    (provided : direction.provide config dir header packet = some next) :
    next.Ok config dir 0 reclaimed := by
  unfold Direction.provide at provided
  split_ifs at provided with guards
  simp only [not_or, not_not, Bool.not_eq_true] at guards
  obtain ⟨apart, headerId, packetId, headerFree, packetFree⟩ := guards
  cases waiting : direction.input dir with
  | nil => simp [waiting] at provided
  | cons buffer rest =>
      simp only [waiting, Option.some.injEq] at provided
      subst provided
      exact ok.provided apart headerId packetId headerFree packetFree waiting
        (by cases dir <;> rfl) rfl rfl (by cases dir <;> rfl) (by cases dir <;> rfl)
        (by cases dir <;> rfl)

/-- The ring and the allocator after a return. -/
theorem Paired.returned (ok : direction.Paired config) {header : Nat}
    (headerId : header < direction.capacity)
    (isHeader : direction.isHeader config header = true)
    (capacity : next.capacity = direction.capacity)
    (inUse : next.inUse = Function.update (Function.update direction.inUse header false)
      (direction.packetOf config header) false)
    (desc : next.desc = direction.desc) :
    next.Paired config ∧
      ∀ address, (direction.flight config 0).count address =
        (next.flight config 0).count address +
          if (direction.desc (direction.packetOf config header)).addr = address then 1 else 0 := by
  obtain ⟨-, plain⟩ := ok.packet header isHeader
  have named (id : Nat) : next.packetOf config id = direction.packetOf config id := by
    simp [packetOf, desc]
  have freed {id : Nat} (was : id = header ∨ id = direction.packetOf config header) :
      next.isHeader config id = false := by
    have unused : next.inUse id = false := by
      rw [inUse]
      rcases was with rfl | rfl <;> simp [Function.update_apply]
    simp [Direction.isHeader, unused]
  have others {id : Nat} (notHeader : id ≠ header)
      (notPacket : id ≠ direction.packetOf config header) :
      next.isHeader config id = direction.isHeader config id := by
    simp [Direction.isHeader, inUse, desc, notHeader, notPacket]
  have was {id : Nat} (is : next.isHeader config id = true) :
      direction.isHeader config id = true ∧ id ≠ header := by
    have kept : id ≠ header ∧ id ≠ direction.packetOf config header := by
      rw [← not_or]
      intro gone
      simp [freed gone] at is
    exact ⟨(others kept.1 kept.2) ▸ is, kept.1⟩
  refine ⟨⟨capacity ▸ ok.fits, fun id used => ?_, fun id is => ?_,
    fun first second is also same => ?_⟩, fun address => ?_⟩
  · have before : direction.inUse id = true := by
      rw [inUse] at used
      by_contra unused
      simp only [Function.update_apply] at used
      split_ifs at used
      exact unused used
    exact capacity ▸ ok.used id before
  · obtain ⟨header', different⟩ := was is
    obtain ⟨used, plain'⟩ := ok.packet id header'
    have notPacket : direction.packetOf config id ≠ direction.packetOf config header :=
      fun same => different (ok.own id header header' isHeader same)
    have notHeader : direction.packetOf config id ≠ header := by
      intro same
      rw [same, isHeader] at plain'
      cases plain'
    rw [named, others notHeader notPacket]
    exact ⟨by simp [inUse, notHeader, notPacket, used], plain'⟩
  · rw [named, named] at same
    exact ok.own first second (was is).1 (was also).1 same
  · have positions : header ∈ List.range' 0 direction.capacity := by
      simpa [List.mem_range'_1] using headerId
    rw [flight, flight, capacity, Nat.sub_zero]
    refine count_filterMap_update (List.nodup_range' ..) positions ?_ ?_ (fun id other => ?_)
      address
    · simp [flightAt, freed (.inl rfl)]
    · simp [flightAt, isHeader]
    · unfold flightAt
      by_cases isPacket : id = direction.packetOf config header
      · have before : direction.isHeader config id = false := isPacket ▸ plain
        simp [freed (.inr isPacket), before]
      · simp [others other isPacket, named, desc]

/-- A buffer moves from a pair of descriptors to the output queue. -/
theorem Ok.returned (ok : direction.Ok config dir 0 reclaimed) {header : Nat}
    (headerId : header < direction.capacity)
    (isHeader : direction.isHeader config header = true) (len : Nat)
    (capacity : next.capacity = direction.capacity)
    (inUse : next.inUse = Function.update (Function.update direction.inUse header false)
      (direction.packetOf config header) false)
    (desc : next.desc = direction.desc) (input : next.input dir = direction.input dir)
    (output : next.output dir = direction.output dir ++
      [⟨(direction.desc (direction.packetOf config header)).addr, len⟩])
    (held : next.held = direction.held) : next.Ok config dir 0 reclaimed := by
  obtain ⟨paired, flight⟩ := ok.toPaired.returned headerId isHeader capacity inUse desc
  refine ⟨paired, fun address => ?_, fun _ _ small => absurd small (Nat.not_lt_zero _)⟩
  have before := ok.conserved address
  rw [count_places _ dir, flight address] at before
  rw [count_places _ dir, input, output, held, ← before, List.map_append, List.count_append,
    List.map_singleton, List.count_singleton]
  simp only [beq_iff_eq]
  omega

theorem Ok.giveBack (ok : direction.Ok config dir 0 reclaimed) {header len : Nat}
    (returned : direction.giveBack config dir header len = some next) :
    next.Ok config dir 0 reclaimed := by
  unfold Direction.giveBack at returned
  split_ifs at returned with guards
  simp only [not_or, not_not, Bool.not_eq_false] at guards
  obtain ⟨headerId, isHeader⟩ := guards
  simp only [Option.map_eq_some_iff] at returned
  obtain ⟨queue, queued, rfl⟩ := returned
  have output := enqueue_some queued
  subst output
  exact ok.returned headerId isHeader (match dir with | .rx => len | .tx => 0)
    (by cases dir <;> rfl) rfl (by cases dir <;> rfl) (by cases dir <;> rfl)
    (by cases dir <;> rfl) (by cases dir <;> rfl)

/-! ## The virtualiser -/

/-- A change of the queues and the virtualiser's hands that keeps every buffer. -/
theorem Ok.moved (ok : direction.Ok config dir walked reclaimed)
    (capacity : next.capacity = direction.capacity) (inUse : next.inUse = direction.inUse)
    (desc : next.desc = direction.desc)
    (kept : ∀ address,
      ((next.input dir).map (·.ioOrOffset)).count address +
          ((next.output dir).map (·.ioOrOffset)).count address +
          (next.held.map (·.ioOrOffset)).count address =
        ((direction.input dir).map (·.ioOrOffset)).count address +
          ((direction.output dir).map (·.ioOrOffset)).count address +
          (direction.held.map (·.ioOrOffset)).count address) :
    next.Ok config dir walked reclaimed := by
  have same (id : Nat) : next.isHeader config id = direction.isHeader config id := by
    simp [isHeader, inUse, desc]
  have named (id : Nat) : next.packetOf config id = direction.packetOf config id := by
    simp [packetOf, desc]
  have flight : next.flight config walked = direction.flight config walked := by
    rw [Direction.flight, Direction.flight, capacity]
    exact List.filterMap_congr fun id _ => by simp [flightAt, same, named, desc]
  refine ⟨⟨capacity ▸ ok.fits, fun id used => ?_, fun id is => ?_, fun first second is also equal =>
    ?_⟩, fun address => ?_, fun untouched id small => ?_⟩
  · exact capacity ▸ ok.used id (inUse ▸ used)
  · rw [same] at is
    rw [named, same, inUse]
    exact ok.packet id is
  · rw [same] at is also
    rw [named, named] at equal
    exact ok.own first second is also equal
  · have before := ok.conserved address
    have sum := kept address
    rw [count_places _ dir] at before ⊢
    rw [flight]
    omega
  · rw [same]
    exact ok.untouched untouched id small

theorem Ok.take (ok : direction.Ok config dir walked reclaimed)
    (taken : direction.take dir = some next) : next.Ok config dir walked reclaimed := by
  unfold Direction.take at taken
  cases waiting : direction.output dir with
  | nil => simp [waiting] at taken
  | cons buffer rest =>
      simp only [waiting, Option.some.injEq] at taken
      subst taken
      refine ok.moved (by cases dir <;> rfl) (by cases dir <;> rfl) (by cases dir <;> rfl)
        fun address => ?_
      simp only [input_held, setOutput_input, output_held, setOutput_output, waiting,
        List.map_append, List.map_cons, List.map_nil, List.count_append, List.count_cons,
        List.count_nil]
      omega

theorem Ok.give (ok : direction.Ok config dir walked reclaimed) {buffer : NetBuffDesc} {len : Nat}
    (given : direction.give config dir buffer len = some next) :
    next.Ok config dir walked reclaimed := by
  simp only [Direction.give, Option.ite_none_right_eq_some, Option.map_eq_some_iff] at given
  obtain ⟨holds, queue, queued, rfl⟩ := given
  have grown := enqueue_some queued
  subst grown
  refine ok.moved (by cases dir <;> rfl) (by cases dir <;> rfl) (by cases dir <;> rfl)
    fun address => ?_
  have held := ((List.perm_cons_erase holds).map (·.ioOrOffset)).count_eq address
  simp only [List.map_cons, List.count_cons] at held
  simp only [input_held, setInput_input, output_held, setInput_output, held, List.map_append,
    List.map_cons, List.map_nil, List.count_append, List.count_cons, List.count_nil]
  omega

theorem provide_capacity {header packet : Nat}
    (provided : direction.provide config dir header packet = some next) :
    next.capacity = direction.capacity := by
  unfold Direction.provide at provided
  split_ifs at provided
  cases waiting : direction.input dir with
  | nil => simp [waiting] at provided
  | cons buffer rest =>
      simp only [waiting, Option.some.injEq] at provided
      subst provided
      cases dir <;> rfl

theorem giveBack_capacity {header len : Nat}
    (returned : direction.giveBack config dir header len = some next) :
    next.capacity = direction.capacity := by
  unfold Direction.giveBack at returned
  split_ifs at returned
  simp only [Option.map_eq_some_iff] at returned
  obtain ⟨queue, _, rfl⟩ := returned
  cases dir <;> rfl

theorem take_frame (taken : direction.take dir = some next) :
    next.capacity = direction.capacity ∧ next.inUse = direction.inUse := by
  unfold Direction.take at taken
  cases waiting : direction.output dir with
  | nil => simp [waiting] at taken
  | cons buffer rest =>
      simp only [waiting, Option.some.injEq] at taken
      subst taken
      cases dir <;> exact ⟨rfl, rfl⟩

theorem give_frame {buffer : NetBuffDesc} {len : Nat}
    (given : direction.give config dir buffer len = some next) :
    next.capacity = direction.capacity ∧ next.inUse = direction.inUse := by
  simp only [Direction.give, Option.ite_none_right_eq_some, Option.map_eq_some_iff] at given
  obtain ⟨_, queue, _, rfl⟩ := given
  cases dir <;> exact ⟨rfl, rfl⟩

/-! ## The init -/

/-- A header in flight leaves room for its buffer in the free queue. -/
theorem Ok.room (ok : direction.Ok config dir walked reclaimed) (more : walked < direction.capacity)
    (isHeader : direction.isHeader config walked = true) :
    direction.free.length < (config.pool dir).length := by
  have length := ok.perm.length_eq
  simp only [places, List.length_append, List.length_map, flight_cons more, flightAt, isHeader,
    if_true, Option.toList, List.length_singleton] at length
  omega

/-- The walk puts the buffer of an in-use header on the free queue. -/
theorem Ok.reclaimOne (ok : direction.Ok config dir walked reclaimed)
    (more : walked < direction.capacity) :
    (direction.reclaimOne config dir walked).1.Ok config dir (walked + 1)
      (reclaimed + if (direction.reclaimOne config dir walked).2 then 1 else 0) := by
  cases isHeader : direction.isHeader config walked with
  | false =>
      have same : direction.reclaimOne config dir walked = (direction, false) := by
        simp [Direction.reclaimOne, isHeader]
      rw [same]
      refine ⟨ok.toPaired, fun address => ?_, fun none id small => ?_⟩
      · have before := ok.conserved address
        rw [count_places _ dir, flight_cons more, flightAt, isHeader] at before
        rw [count_places _ dir]
        simpa using before
      · rcases Nat.lt_succ_iff_lt_or_eq.mp small with earlier | rfl
        · exact ok.untouched none id earlier
        · exact isHeader
  | true =>
      have put : direction.reclaimOne config dir walked =
          ({ direction with free := direction.free ++
              [⟨(direction.desc (direction.packetOf config walked)).addr, 0⟩] }, true) := by
        simp [Direction.reclaimOne, isHeader, enqueue, ok.room more isHeader]
      rw [put]
      refine ⟨⟨ok.fits, ok.used, ok.packet, ok.own⟩, fun address => ?_,
        fun none => absurd none (Nat.succ_ne_zero _)⟩
      have before := ok.conserved address
      simp only [places, flight_cons more, flightAt, isHeader, if_true, Option.toList,
        List.count_append, List.count_singleton] at before
      simp only [places, List.map_append, List.map_cons, List.map_nil, List.count_append,
        List.count_singleton]
      have same : Direction.flight config { direction with free := direction.free ++
          [⟨(direction.desc (direction.packetOf config walked)).addr, 0⟩] } (walked + 1) =
            direction.flight config (walked + 1) := rfl
      rw [same]
      omega

/-- A walk that has passed every id has passed them all. -/
theorem Ok.passed (ok : direction.Ok config dir walked reclaimed)
    (all : direction.capacity ≤ walked) :
    direction.Ok config dir direction.capacity reclaimed := by
  refine ⟨ok.toPaired, fun address => ?_, fun none id small =>
    ok.untouched none id (Nat.lt_of_lt_of_le small all)⟩
  have before := ok.conserved address
  rw [count_places _ dir, flight_walked all] at before
  rw [count_places _ dir, flight_walked (Nat.le_refl _)]
  exact before

/-- Without descriptors in use, only the queues and the virtualiser hold buffers. -/
theorem Ok.reset (ok : direction.Ok config dir walked reclaimed) {resetTo : Nat}
    (empty : direction.flight config walked = [])
    (fits : next.capacity ≤ config.num) (idle : ∀ id, next.inUse id = false)
    (free : next.free = direction.free) (active : next.active = direction.active)
    (held : next.held = direction.held) : next.Ok config dir resetTo reclaimed := by
  have none (id : Nat) : next.isHeader config id = false := by simp [isHeader, idle id]
  refine ⟨⟨fits, fun id used => ?_, fun id is => ?_, fun first _ is => ?_⟩, fun address => ?_,
    fun _ id _ => none id⟩
  · simp [idle id] at used
  · simp [none id] at is
  · simp [none first] at is
  · have before := ok.conserved address
    simp only [places, empty] at before
    simpa only [places, flight_idle idle, free, active, held] using before

/-- A walk that has put nothing back can begin again. -/
theorem Ok.again (ok : direction.Ok config dir walked reclaimed)
    (untouched : walked = 0 ∨ reclaimed = 0) (count : Nat) : direction.Ok config dir 0 count := by
  have same : direction.flight config 0 = direction.flight config walked := by
    rcases untouched with rfl | none
    · rfl
    · exact flight_untouched (ok.untouched none)
  refine ⟨ok.toPaired, fun address => ?_, fun _ _ small => absurd small (Nat.not_lt_zero _)⟩
  have before := ok.conserved address
  rw [count_places _ dir, ← same] at before
  rw [count_places _ dir]
  exact before

end Direction

/-! ## The driver -/

/-- The ids an init has put back in a direction whose allocator it has not reset. -/
def Phase.walked (phase : Phase) (dir : Dir) (capacity : Nat) : Nat :=
  match phase, dir with
  | .reclaim .rx id, .rx => id
  | .reclaim .tx _, .rx => capacity
  | .reclaim .tx id, .tx => id
  | .resetAllocator .rx, _ => capacity
  | .resetAllocator .tx, .tx => capacity
  | _, _ => 0

/-- An init may have put buffers back and has not reset the allocator. -/
def Phase.unreset (phase : Phase) (dir : Dir) : Bool :=
  match phase, dir with
  | .reclaim .rx _, .rx | .reclaim .tx _, _ | .resetAllocator .rx, _
  | .resetAllocator .tx, .tx => true
  | _, _ => false

/-- An init has reset the allocator and not yet provided again. -/
def Phase.emptied (phase : Phase) (dir : Dir) : Bool :=
  match phase, dir with
  | .resetAllocator .tx, .rx | .resetCursors, _ | .clearRing _ _, _ => true
  | _, _ => false

namespace Driver

variable {config : Config} {driver next : Driver}

/-- A restart that strikes no init between a buffer it put back and the allocator's reset. -/
def restartSafe (driver : Driver) : Bool :=
  (!driver.phase.unreset .rx || driver.reclaimedRx == 0) &&
    (!driver.phase.unreset .tx || driver.reclaimedTx == 0)

structure Ok (config : Config) (driver : Driver) : Prop where
  direction : ∀ dir, (driver.direction dir).Ok config dir
    (driver.phase.walked dir (driver.direction dir).capacity) (driver.reclaimed dir)
  emptied : ∀ dir, driver.phase.emptied dir = true → ∀ id, (driver.direction dir).inUse id = false

theorem Ok.restart (ok : Ok config driver) (safe : driver.restartSafe = true) :
    Ok config driver.restart := by
  simp only [restartSafe, Bool.and_eq_true, Bool.or_eq_true, Bool.not_eq_true', beq_iff_eq] at safe
  have untouched (dir : Dir) (kept : driver.phase.unreset dir = false ∨ driver.reclaimed dir = 0) :
      driver.phase.walked dir (driver.direction dir).capacity = 0 ∨ driver.reclaimed dir = 0 := by
    rcases kept with reset | none
    · refine .inl ?_
      cases phase : driver.phase with
      | reclaim side id => cases side <;> cases dir <;> simp_all [Phase.unreset, Phase.walked]
      | resetAllocator side => cases side <;> cases dir <;> simp_all [Phase.unreset, Phase.walked]
      | _ => rfl
    · exact .inr none
  refine ⟨fun dir => ?_, fun dir emptied => by cases emptied⟩
  cases dir with
  | rx => exact (ok.direction .rx).again (untouched .rx safe.1) 0
  | tx => exact (ok.direction .tx).again (untouched .tx safe.2) 0

/-- A step of one direction alone. -/
theorem Ok.setDirection (ok : Ok config driver) {dir : Dir} {direction : Direction}
    (capacity : direction.capacity = (driver.direction dir).capacity)
    (inUse : driver.phase = .running ∨ direction.inUse = (driver.direction dir).inUse)
    (sound : direction.Ok config dir
      (driver.phase.walked dir (driver.direction dir).capacity) (driver.reclaimed dir)) :
    Ok config (driver.setDirection dir direction) := by
  have idle (emptied : driver.phase.emptied dir = true) (id : Nat) :
      direction.inUse id = false := by
    rcases inUse with running | same
    · simp [running, Phase.emptied] at emptied
    · rw [same]
      exact ok.emptied dir emptied id
  rw [← capacity] at sound
  cases dir with
  | rx =>
      refine ⟨fun dir => ?_, fun dir emptied => ?_⟩ <;> cases dir
      · exact sound
      · exact ok.direction .tx
      · exact idle emptied
      · exact ok.emptied .tx emptied
  | tx =>
      refine ⟨fun dir => ?_, fun dir emptied => ?_⟩ <;> cases dir
      · exact ok.direction .rx
      · exact sound
      · exact ok.emptied .rx emptied
      · exact idle emptied

theorem Ok.reclaim (ok : Ok config driver) {dir : Dir} {id : Nat}
    (phase : driver.phase = .reclaim dir id) (stepped : driver.initStep config = some next) :
    Ok config next := by
  have rx := ok.direction .rx
  have tx := ok.direction .tx
  rw [phase] at rx tx
  simp only [Driver.initStep, phase] at stepped
  by_cases more : id < (driver.direction dir).capacity
  · rw [if_pos more, Option.some.injEq] at stepped
    subst stepped
    refine ⟨fun side => ?_, fun side emptied => by cases dir <;> cases side <;> cases emptied⟩
    cases dir with
    | rx =>
        cases side with
        | rx => exact rx.reclaimOne more
        | tx => exact tx
    | tx =>
        cases side with
        | rx => exact rx
        | tx => exact tx.reclaimOne more
  · rw [if_neg more, Option.some.injEq] at stepped
    subst stepped
    refine ⟨fun side => ?_, fun side emptied => by cases dir <;> cases side <;> cases emptied⟩
    cases dir with
    | rx =>
        cases side with
        | rx => exact rx.passed (Nat.not_lt.mp more)
        | tx => exact tx
    | tx =>
        cases side with
        | rx => exact rx
        | tx => exact tx.passed (Nat.not_lt.mp more)

theorem Ok.resetAllocator (ok : Ok config driver) {dir : Dir}
    (phase : driver.phase = .resetAllocator dir) (stepped : driver.initStep config = some next) :
    Ok config next := by
  have rx := ok.direction .rx
  have tx := ok.direction .tx
  have emptied := ok.emptied .rx
  simp only [Driver.initStep, phase, Option.some.injEq] at stepped
  subst stepped
  rw [phase] at rx tx emptied
  cases dir with
  | rx =>
      refine ⟨fun dir => ?_, fun dir emptied => ?_⟩ <;> cases dir
      · exact rx.reset (Direction.flight_walked (Nat.le_refl _)) config.fits (fun _ => rfl) rfl rfl
          rfl
      · exact tx
      · exact fun _ => rfl
      · cases emptied
  | tx =>
      refine ⟨fun dir => ?_, fun dir _ => ?_⟩ <;> cases dir
      · exact rx
      · exact tx.reset (Direction.flight_walked (Nat.le_refl _)) config.fits (fun _ => rfl) rfl rfl
          rfl
      · exact emptied rfl
      · exact fun _ => rfl

/-- Steps between the resets and the first provide: no descriptor is in use. -/
theorem Ok.idle (ok : Ok config driver) (emptied : ∀ dir, driver.phase.emptied dir = true)
    (phase : ∀ dir capacity, next.phase.walked dir capacity = 0)
    (reclaimed : ∀ dir, next.reclaimed dir = driver.reclaimed dir)
    (capacity : ∀ dir, (next.direction dir).capacity = (driver.direction dir).capacity)
    (inUse : ∀ dir, (next.direction dir).inUse = (driver.direction dir).inUse)
    (free : ∀ dir, (next.direction dir).free = (driver.direction dir).free)
    (active : ∀ dir, (next.direction dir).active = (driver.direction dir).active)
    (held : ∀ dir, (next.direction dir).held = (driver.direction dir).held) : Ok config next := by
  have none (dir : Dir) (id : Nat) : (driver.direction dir).inUse id = false :=
    ok.emptied dir (emptied dir) id
  refine ⟨fun dir => ?_, fun dir _ id => by rw [inUse, none]⟩
  rw [phase, reclaimed]
  exact (ok.direction dir).reset (Direction.flight_idle (none dir) _)
    (capacity dir ▸ (ok.direction dir).fits) (fun id => by rw [inUse, none]) (free dir)
    (active dir) (held dir)

theorem Ok.initStep (ok : Ok config driver) (stepped : driver.initStep config = some next) :
    Ok config next := by
  cases phase : driver.phase with
  | reclaim dir id => exact ok.reclaim phase stepped
  | resetAllocator dir => exact ok.resetAllocator phase stepped
  | resetCursors =>
      simp only [Driver.initStep, phase, Option.some.injEq] at stepped
      subst stepped
      exact ok.idle (fun dir => by rw [phase]; cases dir <;> rfl)
        (fun dir _ => by cases dir <;> rfl)
        (fun dir => by cases dir <;> rfl) (fun dir => by cases dir <;> rfl)
        (fun dir => by cases dir <;> rfl) (fun dir => by cases dir <;> rfl)
        (fun dir => by cases dir <;> rfl) (fun dir => by cases dir <;> rfl)
  | clearRing side id =>
      have emptied (dir : Dir) : driver.phase.emptied dir = true := by rw [phase]; cases dir <;> rfl
      simp only [Driver.initStep, phase] at stepped
      by_cases more : id < config.num
      · rw [if_pos more, Option.some.injEq] at stepped
        subst stepped
        refine ok.idle emptied ?_ ?_ ?_ ?_ ?_ ?_ ?_ <;> cases side <;> intro dir <;> cases dir <;>
          intros <;> rfl
      · rw [if_neg more, Option.some.injEq] at stepped
        subst stepped
        refine ok.idle emptied ?_ ?_ ?_ ?_ ?_ ?_ ?_ <;> cases side <;> intro dir <;> cases dir <;>
          intros <;> rfl
  | running => simp [Driver.initStep, phase] at stepped

/-- What one step preserves, with the restarts that strike no buffer put back. -/
theorem Ok.step (ok : Ok config driver) {action : Action}
    (safe : action = .restart → driver.restartSafe = true)
    (stepped : driver.step config action = some next) : Ok config next := by
  have running (phase : driver.phase = .running) (dir : Dir) :
      (driver.direction dir).Ok config dir 0 (driver.reclaimed dir) := by
    have sound := ok.direction dir
    rw [phase] at sound
    cases dir <;> exact sound
  cases action with
  | provide dir header packet =>
      simp only [Driver.step, Option.ite_none_right_eq_some, Option.map_eq_some_iff] at stepped
      obtain ⟨phase, direction, provided, rfl⟩ := stepped
      refine ok.setDirection (Direction.provide_capacity provided) (.inl phase) ?_
      have sound := (running phase dir).provide provided
      rw [phase]
      cases dir <;> exact sound
  | giveBack dir header len =>
      simp only [Driver.step, Option.ite_none_right_eq_some, Option.map_eq_some_iff] at stepped
      obtain ⟨phase, direction, returned, rfl⟩ := stepped
      refine ok.setDirection (Direction.giveBack_capacity returned) (.inl phase) ?_
      have sound := (running phase dir).giveBack returned
      rw [phase]
      cases dir <;> exact sound
  | take dir =>
      simp only [Driver.step, Option.map_eq_some_iff] at stepped
      obtain ⟨direction, taken, rfl⟩ := stepped
      obtain ⟨capacity, inUse⟩ := Direction.take_frame taken
      exact ok.setDirection capacity (.inr inUse) ((ok.direction dir).take taken)
  | give dir buffer len =>
      simp only [Driver.step, Option.map_eq_some_iff] at stepped
      obtain ⟨direction, given, rfl⟩ := stepped
      obtain ⟨capacity, inUse⟩ := Direction.give_frame given
      exact ok.setDirection capacity (.inr inUse) ((ok.direction dir).give given)
  | init => exact ok.initStep stepped
  | restart =>
      cases stepped
      exact ok.restart (safe rfl)

theorem Ok.boot (config : Config) : Ok config (boot config) := by
  have cold (dir : Dir) (direction : Direction) (capacity : direction.capacity = 0)
      (idle : ∀ id, direction.inUse id = false)
      (empty : direction.free = [] ∧ direction.active = [])
      (held : direction.held = (config.pool dir).map fun address => ⟨address, 0⟩) :
      direction.Ok config dir 0 0 := by
    have none (id : Nat) : direction.isHeader config id = false := by
      simp [Direction.isHeader, idle id]
    refine ⟨⟨by simp [capacity], fun id used => ?_, fun id is => ?_, fun first _ is => ?_⟩,
      fun address => ?_, fun _ id _ => none id⟩
    · simp [idle id] at used
    · simp [none id] at is
    · simp [none first] at is
    · simp [Direction.places, Direction.flight_idle idle, empty.1, empty.2, held,
        Function.comp_def]
  refine ⟨fun dir => ?_, fun dir emptied => by cases dir <;> cases emptied⟩
  cases dir with
  | rx => exact cold .rx _ rfl (fun _ => rfl) ⟨rfl, rfl⟩ rfl
  | tx => exact cold .tx _ rfl (fun _ => rfl) ⟨rfl, rfl⟩ rfl

/-- No restart of a run strikes an init between a buffer it put back and the reset of that
buffer's allocator. -/
def restartsSafe (config : Config) : Driver → List Action → Bool
  | _, [] => true
  | driver, action :: rest =>
      (action != .restart || driver.restartSafe) &&
        match driver.step config action with
        | none => true
        | some next => restartsSafe config next rest

theorem Ok.run {actions : List Action} (ok : Ok config driver)
    (safe : restartsSafe config driver actions = true)
    (ran : driver.run config actions = some next) : Ok config next := by
  induction actions generalizing driver with
  | nil =>
      cases ran
      exact ok
  | cons action rest ih =>
      simp only [Driver.run, Option.bind_eq_some_iff] at ran
      obtain ⟨middle, stepped, ran⟩ := ran
      simp only [restartsSafe, stepped, Bool.and_eq_true, Bool.or_eq_true, bne_iff_ne] at safe
      refine ih (ok.step (fun equal => ?_) stepped) safe.2 ran
      exact safe.1.resolve_left fun other => other equal

/-- In every run whose restarts are safe the free queue, the active queue, the in-use headers
the init has yet to put back and the virtualiser hold each buffer of a direction once; and
once the init is done no header is left out. -/
theorem run_conserves (config : Config) (actions : List Action)
    (safe : restartsSafe config (boot config) actions = true)
    (ran : (boot config).run config actions = some driver) (dir : Dir) :
    let direction := driver.direction dir
    let places := direction.places config (driver.phase.walked dir direction.capacity)
    places.Nodup ∧ places.Perm (config.pool dir) ∧
      (driver.phase = .running → (direction.places config 0).Perm (config.pool dir)) := by
  have sound := ((Ok.boot config).run safe ran).direction dir
  refine ⟨sound.perm.nodup_iff.mpr (config.distinct dir), sound.perm, fun running => ?_⟩
  have done := sound.perm
  rw [running] at done
  cases dir <;> exact done

/-- A device of four descriptors with two receive buffers. -/
def twoBuffers : Config where
  num := 4
  driverCapacity := 4
  fits := Nat.le_refl 4
  headerLen := 12
  headerAddr := fun _ id => id
  netBufferSize := 2048
  pool := fun
    | .rx => [7, 8]
    | .tx => []
  distinct := fun dir => by cases dir <;> decide

/-- The cold init, then a buffer given and provided. -/
def provideOne : List Action :=
  List.replicate 15 .init ++ [.give .rx ⟨7, 0⟩ 0, .provide .rx 0 1]

/-- One restart puts the provided buffer back once. -/
theorem run_conserves_restarted :
    ∃ driver : Driver,
      driver.phase = .running ∧ driver.rx.free.map (·.ioOrOffset) = [7] ∧
        (driver.rx.places twoBuffers 0).Perm [7, 8] := by
  let actions := provideOne ++ [.restart] ++ List.replicate 23 .init
  have ends : ((boot twoBuffers).run twoBuffers actions).map
      (fun driver => (driver.phase, driver.rx.free.map (·.ioOrOffset))) =
        some (.running, [7]) := by decide +kernel
  obtain ⟨driver, ran, shown⟩ := Option.map_eq_some_iff.mp ends
  rw [Prod.mk.injEq] at shown
  exact ⟨driver, shown.1, shown.2,
    (run_conserves twoBuffers actions (by decide +kernel) ran .rx).2.2 shown.1⟩

/-- A second restart that strikes after the first walk put the buffer back puts it back
again: the free queue holds it twice. -/
theorem run_duplicates :
    ¬ ∀ (config : Config) (actions : List Action) (driver : Driver),
      (boot config).run config actions = some driver → driver.phase = .running →
        ∀ dir, ((driver.direction dir).places config 0).Nodup := by
  intro once
  let actions := provideOne ++ [.restart, .init, .restart] ++ List.replicate 23 .init
  have ends : ((boot twoBuffers).run twoBuffers actions).map
      (fun driver => (driver.phase, driver.rx.free.map (·.ioOrOffset))) =
        some (.running, [7, 7]) := by decide +kernel
  obtain ⟨driver, ran, shown⟩ := Option.map_eq_some_iff.mp ends
  rw [Prod.mk.injEq] at shown
  have places := once twoBuffers actions driver ran shown.1 .rx
  simp only [Direction.places, Driver.direction, shown.2] at places
  simp at places

end Driver

end Chrysopolis.Virtio
