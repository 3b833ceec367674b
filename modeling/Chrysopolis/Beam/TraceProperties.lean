import Chrysopolis.Beam.Trace

/-! What the trace has kept after every run, and that its reader gets back what it kept. -/

set_option autoImplicit false

namespace Chrysopolis.Beam.Trace

open Support (Bytes leBytes leNumber chunks leNumber_leBytes chunks_flatten)

/-! ## Histories -/

def isArmed : List Event → Bool
  | [] => false
  | .armed :: _ => true
  | .disarmed :: _ => false
  | _ :: rest => isArmed rest

/-- What the hooks saw while the trace was last armed. -/
def recorded : List Event → List Record
  | [] => []
  | .armed :: _ => []
  | .hooked record :: rest => if isArmed rest then recorded rest ++ [record] else recorded rest
  | _ :: rest => recorded rest

/-- How often a descriptor was copied to since it was opened. -/
def copies (fd : Int) : List Event → Nat
  | [] => 0
  | .opened other :: rest => if other = fd then 0 else copies fd rest
  | .copied other _ _ :: rest => copies fd rest + if other = fd then 1 else 0
  | _ :: rest => copies fd rest

/-- The window that is kept: the oldest records. -/
def captured (log : List Event) : List Record := (recorded log).take traceCapacity

def missed (log : List Event) : Nat :=
  min ((recorded log).length - traceCapacity) (2 ^ 32 - 1)

def Record.shown (record : Record) : Decoded where
  ticks := record.ticks.toNat
  event := record.event.tag.toNat
  cothread := record.cothread.toInt
  a := record.a.toInt
  b := record.b.toInt

/-- What a reader is to see. -/
def view (frequency : UInt64) (log : List Event) : Snapshot where
  frequency := frequency.toNat
  records := (captured log).map Record.shown
  dropped := missed log

/-- Every copy decodes to what was kept when it was taken. -/
def Faithful : List Event → Prop
  | [] => True
  | .copied _ frequency bytes :: rest => decode bytes = some (view frequency rest) ∧ Faithful rest
  | _ :: rest => Faithful rest

/-- The enumerator without its prefix. -/
def TraceEvent.text : TraceEvent → String
  | futexWait => "futex_wait"
  | futexTimeout => "futex_timeout"
  | futexWake => "futex_wake"
  | park => "park"
  | resume => "resume"
  | epollEnter => "epoll_enter"
  | epollExit => "epoll_exit"
  | notified => "notified"
  | drainRearm => "drain_rearm"

/-! ## The copy and its decoder -/

theorem take_drop_middle {bytes : Bytes} (first middle last : Bytes) {start count : Nat}
    (parts : bytes = first ++ (middle ++ last)) (before : first.length = start)
    (width : middle.length = count) : (bytes.drop start).take count = middle := by
  rw [parts, List.drop_left' before, List.take_left' width]

theorem signedNumber_int64 (value : Int64) :
    signedNumber (leBytes 8 value.toUInt64.toNat) = value.toInt := by
  have small : value.toUInt64.toNat < 256 ^ 8 := value.toUInt64.toNat_lt
  have same : value.toUInt64.toNat = value.toBitVec.toNat := rfl
  simp only [signedNumber, Support.leBytes_length, leNumber_leBytes small]
  rw [Int64.toInt, BitVec.toInt_eq_toNat_cond, same]
  rfl

theorem signedNumber_int8 (value : Int8) : signedNumber [value.toUInt8] = value.toInt := by
  have number : leNumber [value.toUInt8] = value.toBitVec.toNat := by
    rw [leNumber, leNumber, Nat.mul_zero, Nat.add_zero]
    rfl
  rw [signedNumber, number, Int8.toInt, BitVec.toInt_eq_toNat_cond]
  rfl

theorem Record.bytes_length (record : Record) : record.bytes.length = 32 := by
  simp [Record.bytes]

theorem headerBytes_length (ring : Ring) (frequency : UInt64) :
    (headerBytes ring frequency).length = 32 := by
  simp [headerBytes, traceMagic]

theorem decodeRecord_bytes (record : Record) : decodeRecord record.bytes = record.shown := by
  let ticks := leBytes 8 record.ticks.toNat
  let a := leBytes 8 record.a.toUInt64.toNat
  let b := leBytes 8 record.b.toUInt64.toNat
  let pad : Bytes := List.replicate 6 0
  have parts : record.bytes =
      ticks ++ (a ++ (b ++ ([record.event.tag] ++ ([record.cothread.toUInt8] ++ pad)))) := by
    simp [Record.bytes, ticks, a, b, pad]
  have wide (value : Nat) : (leBytes 8 value).length = 8 := Support.leBytes_length ..
  have ticksAt : record.bytes.take 8 = ticks := by rw [parts, List.take_left' (wide _)]
  have aAt : (record.bytes.drop 8).take 8 = a := take_drop_middle ticks a _ parts (wide _) (wide _)
  have bAt : (record.bytes.drop 16).take 8 = b :=
    take_drop_middle (ticks ++ a) b _ (by rw [parts, List.append_assoc]) (by simp [ticks, a])
      (wide _)
  have eventAt : (record.bytes.drop 24).take 1 = [record.event.tag] :=
    take_drop_middle (ticks ++ a ++ b) [record.event.tag] ([record.cothread.toUInt8] ++ pad)
      (by rw [parts]; simp) (by simp [ticks, a, b]) rfl
  have cothreadAt : (record.bytes.drop 25).take 1 = [record.cothread.toUInt8] :=
    take_drop_middle (ticks ++ a ++ b ++ [record.event.tag]) [record.cothread.toUInt8] pad
      (by rw [parts]; simp) (by simp [ticks, a, b]) rfl
  rw [decodeRecord, ticksAt, aAt, bAt, eventAt, cothreadAt, signedNumber_int64,
    signedNumber_int64, signedNumber_int8, leNumber_leBytes record.ticks.toNat_lt]
  simp [Record.shown, leNumber]

/-- A copy decodes to the records it was made of. -/
theorem decode_copy {ring : Ring} {records : List Record} (frequency : UInt64)
    (length : ring.length.toNat = records.length) :
    decode (headerBytes ring frequency ++ records.flatMap Record.bytes) = some {
      frequency := frequency.toNat
      records := records.map Record.shown
      dropped := ring.dropped.toNat } := by
  let header := headerBytes ring frequency
  let body := records.flatMap Record.bytes
  let freq := leBytes 8 frequency.toNat
  let len := leBytes 4 ring.length.toNat
  let dropped := leBytes 4 ring.dropped.toNat
  let tail : Bytes := [ring.state.tag] ++ (List.replicate 7 0 ++ body)
  have parts : header ++ body = traceMagic ++ (freq ++ (len ++ (dropped ++ tail))) := by
    simp [header, headerBytes, freq, len, dropped, tail]
  have wide (width value : Nat) : (leBytes width value).length = width :=
    Support.leBytes_length ..
  have magicAt : (header ++ body).take 8 = traceMagic := by
    rw [parts]
    exact List.take_left' rfl
  have freqAt : ((header ++ body).drop 8).take 8 = freq :=
    take_drop_middle traceMagic freq _ parts rfl (wide ..)
  have lenAt : ((header ++ body).drop 16).take 4 = len :=
    take_drop_middle (traceMagic ++ freq) len _ (by rw [parts, List.append_assoc])
      (by simp [freq, traceMagic]) (wide ..)
  have droppedAt : ((header ++ body).drop 20).take 4 = dropped :=
    take_drop_middle (traceMagic ++ freq ++ len) dropped tail (by rw [parts]; simp)
      (by simp [freq, len, traceMagic]) (wide ..)
  have bodyAt : (header ++ body).drop 32 = body := List.drop_left' (headerBytes_length ..)
  have bodyLength : body.length = records.length * 32 := by
    rw [List.length_flatMap, List.map_congr_left fun record _ => record.bytes_length]
    simp
  have bodyChunks : chunks 32 (body.length / 32) body = records.map Record.bytes := by
    have sized : ∀ bytes ∈ records.map Record.bytes, bytes.length = 32 :=
      List.forall_mem_map.mpr fun record _ => record.bytes_length
    rw [bodyLength, Nat.mul_div_cancel _ (by decide), ← List.length_map Record.bytes]
    exact chunks_flatten sized
  have lenValue : leNumber len = records.length := by
    rw [← length]
    exact leNumber_leBytes ring.length.toNat_lt
  change decode (header ++ body) = _
  rw [decode, bodyAt, magicAt, lenAt, freqAt, droppedAt, bodyChunks, lenValue, if_pos]
  · simp only [List.map_map, Option.some.injEq, Snapshot.mk.injEq]
    refine ⟨leNumber_leBytes frequency.toNat_lt, ?_, leNumber_leBytes ring.dropped.toNat_lt⟩
    exact List.map_congr_left fun record _ => decodeRecord_bytes record
  · exact ⟨by rw [List.length_append, headerBytes_length]; omega, rfl, bodyLength⟩

/-! ## What is kept -/

/-- The ring holds what was recorded up to its capacity, and counts what was not. -/
structure Kept (device : Device) (log : List Event) : Prop where
  length : device.ring.length.toNat = min (recorded log).length traceCapacity
  records : (List.range device.ring.length.toNat).map device.records = captured log
  dropped : device.ring.dropped.toNat = missed log
  state : device.ring.state =
    if isArmed log then
      if traceCapacity < (recorded log).length then .full else .armed
    else .off

variable {device next : Device} {log events : List Event}

theorem Kept.boot : Kept {} [] where
  length := rfl
  records := rfl
  dropped := rfl
  state := rfl

theorem map_range_update {α : Type} (records : Nat → α) (count : Nat) (added : α) :
    (List.range (count + 1)).map (Function.update records count added) =
      (List.range count).map records ++ [added] := by
  rw [List.range_succ, List.map_append, List.map_singleton, Function.update_self]
  congr 1
  refine List.map_congr_left fun place inside => Function.update_of_ne ?_ ..
  exact Nat.ne_of_lt (List.mem_range.mp inside)

section

variable {ring : Ring} {records : Nat → Record} {capacity : Nat} {record : Record}

theorem push_off (off : ring.state = .off) :
    runtimeTraceRingPush ring records capacity record = (ring, records) := by
  rw [runtimeTraceRingPush, off]

theorem push_room (armed : ring.state = .armed) (room : ring.length.toNat < capacity) :
    runtimeTraceRingPush ring records capacity record =
      ({ ring with length := ring.length + 1 },
        Function.update records ring.length.toNat record) := by
  simp only [runtimeTraceRingPush, armed, if_pos room]

theorem push_last (armed : ring.state = .armed) (spent : ¬ ring.length.toNat < capacity) :
    runtimeTraceRingPush ring records capacity record =
      ({ ring with state := .full, dropped := 1 }, records) := by
  simp only [runtimeTraceRingPush, armed, if_neg spent]

theorem push_full (records : Nat → Record) (capacity : Nat) (record : Record)
    (full : ring.state = .full) :
    ∃ dropped : UInt32, dropped.toNat = min (ring.dropped.toNat + 1) (2 ^ 32 - 1) ∧
      runtimeTraceRingPush ring records capacity record = ({ ring with dropped }, records) := by
  have bound := ring.dropped.toNat_lt
  unfold runtimeTraceRingPush
  rw [full]
  dsimp only
  split
  · refine ⟨ring.dropped + 1, ?_, rfl⟩
    rw [UInt32.toNat_add]
    have one : (1 : UInt32).toNat = 1 := rfl
    omega
  · refine ⟨ring.dropped, by omega, ?_⟩
    rw [← full]

end

theorem isArmed_hooked (record : Record) : isArmed (.hooked record :: log) = isArmed log := rfl

theorem recorded_off (off : isArmed log = false) (record : Record) :
    recorded (.hooked record :: log) = recorded log := by
  rw [recorded, off]
  rfl

theorem recorded_armed (armed : isArmed log = true) (record : Record) :
    recorded (.hooked record :: log) = recorded log ++ [record] := by
  rw [recorded, armed]
  rfl

theorem Kept.push (kept : Kept device log) (record : Record) :
    Kept { device with
      ring := (runtimeTraceRingPush device.ring device.records traceCapacity record).1
      records := (runtimeTraceRingPush device.ring device.records traceCapacity record).2 }
      (.hooked record :: log) := by
  have state := kept.state
  have length := kept.length
  have dropped := kept.dropped
  have window := kept.records
  have small : traceCapacity < 2 ^ 32 - 1 := by decide
  cases on : isArmed log with
  | false =>
      rw [on] at state
      have same := recorded_off on record
      rw [push_off state]
      exact {
        length := by rw [same]; exact length
        records := by rw [captured, same]; exact window
        dropped := by rw [missed, same]; exact dropped
        state := by rw [isArmed_hooked, on]; exact state }
  | true =>
      rw [on, if_pos rfl] at state
      have grown := recorded_armed on record
      have more : (recorded (.hooked record :: log)).length = (recorded log).length + 1 := by
        rw [grown, List.length_append, List.length_singleton]
      -- Room for the record, the first one that finds none, and those after it.
      rcases Nat.lt_trichotomy (recorded log).length traceCapacity with room | last | past
      · rw [if_neg (Nat.not_lt_of_gt room)] at state
        rw [Nat.min_eq_left (Nat.le_of_lt room)] at length
        rw [push_room state (length ▸ room)]
        have next : (device.ring.length + 1).toNat = (recorded log).length + 1 := by
          rw [UInt32.toNat_add, length]
          have one : (1 : UInt32).toNat = 1 := rfl
          omega
        rw [length, captured, List.take_of_length_le (Nat.le_of_lt room)] at window
        exact {
          length := by rw [more, next]; omega
          records := by
            dsimp only
            rw [next, length, map_range_update, window, captured, grown,
              List.take_of_length_le (by rw [List.length_append]; exact room)]
          dropped := by
            rw [missed] at dropped ⊢
            dsimp only
            omega
          state := by
            rw [isArmed_hooked, on, if_pos rfl, more, if_neg (by omega)]
            exact state }
      · rw [if_neg (last ▸ Nat.lt_irrefl _)] at state
        rw [last, Nat.min_self] at length
        rw [push_last state (by omega)]
        exact {
          length := by rw [more]; dsimp only; omega
          records := by
            rw [captured, grown, List.take_append_of_le_length (Nat.le_of_eq last.symm)]
            exact window
          dropped := by
            rw [missed, more, last]
            rfl
          state := by rw [isArmed_hooked, on, if_pos rfl, more, if_pos (by omega)] }
      · rw [if_pos past] at state
        obtain ⟨count, counted, pushed⟩ := push_full device.records traceCapacity record state
        rw [pushed]
        rw [missed] at dropped
        exact {
          length := by rw [more]; dsimp only; omega
          records := by
            rw [captured, grown, List.take_append_of_le_length (Nat.le_of_lt past)]
            exact window
          dropped := by
            rw [missed, more]
            dsimp only
            omega
          state := by
            rw [isArmed_hooked, on, if_pos rfl, more, if_pos (by omega)]
            exact state }

theorem Kept.arm : Kept { device with ring := runtimeTraceRingArm } (.armed :: log) where
  length := rfl
  records := List.take_nil.symm
  dropped := by rw [missed, recorded, List.length_nil, Nat.zero_sub, Nat.zero_min]; rfl
  state := rfl

theorem Kept.disarm (kept : Kept device log) :
    Kept { device with ring := runtimeTraceRingDisarm device.ring } (.disarmed :: log) where
  length := kept.length
  records := kept.records
  dropped := kept.dropped
  state := rfl

theorem Kept.decode (kept : Kept device log) (frequency : UInt64) :
    decode (headerBytes device.ring frequency ++
      ((List.range device.ring.length.toNat).map device.records).flatMap Record.bytes) =
        some (view frequency log) := by
  rw [decode_copy frequency (by simp), kept.records, kept.dropped]
  rfl

/-! ## Runs -/

/-- The device after a run, with what the run did. -/
structure Inv (device : Device) (log : List Event) : Prop where
  kept : Kept device log
  once : ∀ fd, copies fd log ≤ 1
  place : ∀ fd filePtr, device.fds fd = some filePtr →
    0 ≤ filePtr ∧ (filePtr = 0 ↔ copies fd log = 0)
  faithful : Faithful log

theorem runtimeTraceOpen_cases {answer : FdAnswer} (fits : answer.Fits device.fds)
    (readWrite : Bool) :
    (∃ errno, runtimeTraceOpen device readWrite answer = (device, .error errno)) ∨
      ∃ fd, 0 ≤ fd ∧ device.fds fd = none ∧ runtimeTraceOpen device readWrite answer =
        ({ device with fds := Function.update device.fds fd (some 0) }, .ok fd) := by
  unfold runtimeTraceOpen
  cases readWrite with
  | false => exact .inl ⟨_, rfl⟩
  | true =>
      cases opened : runtimeFdAllocOps device.fds 0 answer with
      | mk fds result =>
          cases result with
          | error errno =>
              obtain ⟨rfl, -⟩ := runtimeFdAllocOps_error fits opened
              exact .inl ⟨_, rfl⟩
          | ok fd =>
              obtain ⟨positive, unopened, rfl⟩ := runtimeFdAllocOps_ok fits opened
              exact .inr ⟨fd, positive, unopened, rfl⟩

/-- The copy of a read that takes one, which has bytes. -/
theorem copy_cons (device : Device) (frequency : UInt64) :
    ∃ byte rest, headerBytes device.ring frequency ++
      ((List.range device.ring.length.toNat).map device.records).flatMap Record.bytes =
        byte :: rest := ⟨_, _, rfl⟩

theorem traceRead_cases (device : Device) (count : Nat) (fd : Int) (frequency : UInt64) :
    (∃ errno, traceRead device count fd frequency = (device, .error errno)) ∨
      traceRead device count fd frequency = (device, .ok []) ∨
      device.fds fd = some 0 ∧ traceRead device count fd frequency =
        ({ device with
            fds := Function.update device.fds fd
              (some (traceHeaderSize + device.ring.length.toNat * traceRecordSize : Nat)) },
          .ok (headerBytes device.ring frequency ++
            ((List.range device.ring.length.toNat).map device.records).flatMap Record.bytes)) := by
  unfold traceRead
  cases place : device.fds fd with
  | none => exact .inl ⟨_, rfl⟩
  | some filePtr =>
      dsimp only
      split_ifs with negative moved short
      · exact .inl ⟨_, rfl⟩
      · exact .inr (.inl rfl)
      · exact .inl ⟨_, rfl⟩
      · exact .inr (.inr ⟨by rw [not_not.mp moved], rfl⟩)

theorem Inv.boot : Inv {} [] where
  kept := .boot
  once := fun _ => Nat.zero_le 1
  place := fun _ _ opened => nomatch opened
  faithful := trivial

theorem Inv.opened (inv : Inv device log) {fd : Int} :
    Inv { device with fds := Function.update device.fds fd (some 0) } (.opened fd :: log) where
  kept := ⟨inv.kept.length, inv.kept.records, inv.kept.dropped, inv.kept.state⟩
  once := fun other => by
    unfold copies
    split
    · exact Nat.zero_le 1
    · exact inv.once other
  place := fun other filePtr here => by
    unfold copies
    dsimp only at here
    by_cases same : fd = other
    · subst same
      rw [Function.update_self] at here
      cases here
      simp
    · rw [Function.update_of_ne (Ne.symm same)] at here
      rw [if_neg same]
      exact inv.place other filePtr here
  faithful := inv.faithful

theorem Inv.copied (inv : Inv device log) {fd total : Int} {frequency : UInt64} {bytes : Bytes}
    (fresh : device.fds fd = some 0) (positive : 0 < total)
    (decoded : decode bytes = some (view frequency log)) :
    Inv { device with fds := Function.update device.fds fd (some total) }
      (.copied fd frequency bytes :: log) where
  kept := ⟨inv.kept.length, inv.kept.records, inv.kept.dropped, inv.kept.state⟩
  once := fun other => by
    unfold copies
    split
    · next same =>
      subst same
      exact Nat.le_of_eq (congrArg (· + 1) ((inv.place fd 0 fresh).2.mp rfl))
    · exact inv.once other
  place := fun other filePtr here => by
    unfold copies
    dsimp only at here
    by_cases same : fd = other
    · subst same
      rw [Function.update_self] at here
      cases here
      exact ⟨Int.le_of_lt positive, by simp [Int.ne_of_gt positive]⟩
    · rw [Function.update_of_ne (Ne.symm same)] at here
      rw [if_neg same]
      exact inv.place other filePtr here
  faithful := ⟨decoded, inv.faithful⟩

theorem Inv.closed (inv : Inv device log) (fd : Int) :
    Inv (traceClose device fd) (.closed fd :: log) where
  kept := ⟨inv.kept.length, inv.kept.records, inv.kept.dropped, inv.kept.state⟩
  once := inv.once
  place := fun other filePtr here => by
    dsimp only [traceClose, runtimeFdClose] at here
    by_cases same : other = fd
    · subst same
      rw [Function.update_self] at here
      cases here
    · rw [Function.update_of_ne same] at here
      exact inv.place other filePtr here
  faithful := inv.faithful

theorem Inv.written (inv : Inv device log) (data : Bytes) :
    Inv (traceWrite device data).1 (writeEvents data ++ log) := by
  unfold traceWrite writeEvents
  cases data with
  | nil => exact inv
  | cons first rest =>
      dsimp only
      split_ifs with arms disarms
      · exact ⟨.arm, inv.once, inv.place, inv.faithful⟩
      · exact ⟨inv.kept.disarm, inv.once, inv.place, inv.faithful⟩
      · exact inv

theorem Inv.step (inv : Inv device log) {action : Action}
    (stepped : step device action = some (next, events)) : Inv next (events ++ log) := by
  cases action with
  | hook event a b ticks cothread =>
      cases stepped
      exact ⟨inv.kept.push { ticks, a, b, event, cothread }, inv.once, inv.place, inv.faithful⟩
  | opens readWrite answer =>
      simp only [Trace.step, Option.ite_none_right_eq_some] at stepped
      obtain ⟨fits, stepped⟩ := stepped
      obtain ⟨errno, failed⟩ | ⟨fd, -, -, opened⟩ := runtimeTraceOpen_cases fits readWrite
      · rw [failed] at stepped
        cases stepped
        exact inv
      · rw [opened] at stepped
        cases stepped
        exact inv.opened
  | writes fd data =>
      simp only [Trace.step, Option.ite_none_right_eq_some] at stepped
      obtain ⟨-, stepped⟩ := stepped
      cases stepped
      exact inv.written data
  | reads fd count frequency =>
      simp only [Trace.step] at stepped
      obtain ⟨errno, failed⟩ | empty | ⟨fresh, taken⟩ := traceRead_cases device count fd frequency
      · rw [failed] at stepped
        cases stepped
        exact inv
      · rw [empty] at stepped
        cases stepped
        exact inv
      · obtain ⟨byte, rest, shape⟩ := copy_cons device frequency
        rw [taken, shape] at stepped
        cases stepped
        refine inv.copied fresh ?_ ?_
        · exact Int.natCast_pos.mpr (Nat.add_pos_left (by decide) _)
        · rw [← shape]
          exact inv.kept.decode frequency
  | closes fd =>
      simp only [Trace.step, Option.ite_none_right_eq_some] at stepped
      obtain ⟨-, stepped⟩ := stepped
      cases stepped
      exact inv.closed fd

theorem Inv.run (inv : Inv device log) {actions : List Action}
    {reached : Device × List Event} (ran : run (device, log) actions = some reached) :
    Inv reached.1 reached.2 := by
  induction actions generalizing device log with
  | nil =>
      cases ran
      exact inv
  | cons action rest ih =>
      simp only [Trace.run, Option.bind_eq_bind, Option.bind_eq_some_iff] at ran
      obtain ⟨⟨middle, events⟩, stepped, ran⟩ := ran
      exact ih (inv.step stepped) ran

/-- The Erlang reader sees what the trace kept, and leaves the device as it was. -/
theorem Inv.snapshot (inv : Inv device log) {fd : Int} (unopened : device.fds fd = none)
    (frequency : UInt64) :
    snapshot device (.listed fd) frequency = (device, .ok (view frequency log)) := by
  have bound : device.ring.length.toNat ≤ traceCapacity :=
    inv.kept.length ▸ Nat.min_le_right ..
  have room : ¬ 65536 < traceHeaderSize + device.ring.length.toNat * traceRecordSize :=
    Nat.not_lt_of_le (Nat.add_le_add_left (Nat.mul_le_mul_right traceRecordSize bound) _)
  obtain ⟨byte, rest, shape⟩ := copy_cons device frequency
  have decoded := inv.kept.decode frequency
  rw [shape] at decoded
  have back (place : Option Int) :
      runtimeFdClose (Function.update (Function.update device.fds fd (some 0)) fd place) fd =
        device.fds := by
    rw [runtimeFdClose, Function.update_idem, Function.update_idem, ← unopened,
      Function.update_eq_self]
  have opened : runtimeTraceOpen device true (.listed fd) =
      ({ device with fds := Function.update device.fds fd (some 0) }, .ok fd) := rfl
  unfold Trace.snapshot
  rw [opened]
  simp only [traceRead, Function.update_self, if_neg room, Int.lt_irrefl, if_false, ne_eq,
    not_true_eq_false, traceClose, back, shape, decoded, Option.elim_some, reduceCtorEq]

theorem eventText_tag (event : TraceEvent) : eventText event.tag.toNat = event.text := by
  cases event <;> rfl

/-- The lines name the hooks. -/
theorem dumpLines_ev (frequency : UInt64) (log : List Event) :
    (dumpLines (view frequency log)).map Line.ev =
      (captured log).map fun record => record.event.text := by
  rw [dumpLines, List.map_map, view, List.map_map]
  exact List.map_congr_left fun record _ => eventText_tag record.event

theorem tdiv_mono {first second scale : Int} (positive : 0 < scale) (start : 0 ≤ first)
    (later : first ≤ second) : first.tdiv scale ≤ second.tdiv scale := by
  rw [Int.tdiv_eq_ediv_of_nonneg start, Int.tdiv_eq_ediv_of_nonneg (Int.le_trans start later)]
  exact Int.ediv_le_ediv positive later

/-- The times count from the first record. -/
theorem dumpLines_head {snapshot : Snapshot} :
    ∀ line ∈ (dumpLines snapshot).head?, line.us = 0 := by
  intro line first
  unfold dumpLines at first
  cases window : snapshot.records with
  | nil => simp [window] at first
  | cons earliest rest =>
      simp only [window, List.map_cons, List.head?_cons, Option.map_some, Option.getD_some,
        Option.mem_some_iff] at first
      rw [← first]
      simp

/-- Where the counter never fell they count up. -/
theorem dumpLines_sorted {frequency : UInt64} {log : List Event}
    (clock : (captured log).Pairwise fun first second => first.ticks ≤ second.ticks) :
    (dumpLines (view frequency log)).Pairwise (fun first second => first.us ≤ second.us) ∧
      ∀ line ∈ dumpLines (view frequency log), 0 ≤ line.us := by
  have positive : (0 : Int) < max 1 (frequency.toNat : Int) := by omega
  unfold dumpLines view
  cases window : captured log with
  | nil => exact ⟨List.Pairwise.nil, fun _ listed => nomatch listed⟩
  | cons earliest rest =>
      rw [window] at clock
      have start : ∀ record ∈ earliest :: rest, earliest.ticks.toNat ≤ record.ticks.toNat := by
        intro record listed
        cases listed with
        | head => exact Nat.le_refl _
        | tail _ later => exact (List.pairwise_cons.mp clock).1 record later
      dsimp only
      rw [List.map_map]
      constructor
      · apply List.pairwise_map.mpr
        refine clock.imp_of_mem ?_
        intro first second listed _ later
        have begun := start first listed
        have ordered : first.ticks.toNat ≤ second.ticks.toNat := later
        refine tdiv_mono positive ?_ ?_
        · change (0 : Int) ≤ (first.ticks.toNat - earliest.ticks.toNat) * 1000000
          omega
        · change ((first.ticks.toNat : Int) - earliest.ticks.toNat) * 1000000 ≤
            (second.ticks.toNat - earliest.ticks.toNat) * 1000000
          omega
      · intro line listed
        obtain ⟨record, within, rfl⟩ := List.mem_map.mp listed
        have begun := start record within
        refine Int.tdiv_nonneg ?_ (Int.le_of_lt positive)
        change (0 : Int) ≤ (record.ticks.toNat - earliest.ticks.toNat) * 1000000
        omega

/-- Over every run of a traced build: every copy of the trace decodes to the oldest records since
it was armed, up to its capacity, with the count of the others; a descriptor gives one copy; and a
reader that comes now gets the same, leaves the trace as it was, and prints it in order. -/
theorem run_traced {actions : List Action} (ran : run ({}, []) actions = some (device, log)) :
    Faithful log ∧ (∀ fd, copies fd log ≤ 1) ∧
      ∀ fd frequency, device.fds fd = none →
        snapshot device (.listed fd) frequency = (device, .ok (view frequency log)) ∧
        (dumpLines (view frequency log)).map Line.ev =
          (captured log).map (fun record => record.event.text) ∧
        (∀ line ∈ (dumpLines (view frequency log)).head?, line.us = 0) ∧
        ((captured log).Pairwise (fun first second => first.ticks ≤ second.ticks) →
          (dumpLines (view frequency log)).Pairwise (fun first second => first.us ≤ second.us) ∧
            ∀ line ∈ dumpLines (view frequency log), 0 ≤ line.us) := by
  have inv : Inv device log := Inv.boot.run ran
  exact ⟨inv.faithful, inv.once, fun fd frequency unopened =>
    ⟨inv.snapshot unopened frequency, dumpLines_ev frequency log, dumpLines_head,
      dumpLines_sorted⟩⟩

/-- A record before the trace is armed is lost; what follows is read back with its signs. -/
theorem run_traced_read : ∃ device : Device, snapshot device (.listed 4) 62500000 =
    (device, .ok {
      frequency := 62500000
      records := [{ ticks := 100, event := 0, cothread := -1, a := -7, b := 3 },
        { ticks := 180, event := 4, cothread := 2, a := 0, b := -1 }]
      dropped := 0 }) := by
  let actions : List Action := [.hook .park 1 1 50 0, .opens true (.listed 3), .writes 3 [49],
    .hook .futexWait (-7) 3 100 (-1), .hook .resume 0 (-1) 180 2, .reads 3 65536 1]
  have ends : (run ({}, []) actions).map (fun reached =>
      (view 62500000 reached.2, reached.1.fds 4)) = some ({
        frequency := 62500000
        records := [{ ticks := 100, event := 0, cothread := -1, a := -7, b := 3 },
          { ticks := 180, event := 4, cothread := 2, a := 0, b := -1 }]
        dropped := 0 }, none) := by decide +kernel
  obtain ⟨⟨device, log⟩, ran, seen⟩ := Option.map_eq_some_iff.mp ends
  obtain ⟨shown, unopened⟩ := Prod.mk.inj seen
  have read := ((run_traced ran).2.2 4 62500000 unopened).1
  rw [shown] at read
  exact ⟨device, read⟩

end Chrysopolis.Beam.Trace
