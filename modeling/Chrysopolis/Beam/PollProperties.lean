import Chrysopolis.Beam.EpollProperties
import Chrysopolis.Beam.Poll
import Chrysopolis.Tcp.ReadinessProperties

/-! `epoll_pwait`, `ppoll` and `pselect6` agree: over one look at the console, the sockets and
the pipes, what each of them says of a descriptor is what the others say, and what a read of the
descriptor then finds. -/

set_option autoImplicit false

namespace Chrysopolis.Beam.Poll

open Chrysopolis.Tcp

variable {now : Now}

/-! ### Masks -/

/-- The bits that `socket_revents` can set. -/
theorem bit_of_socketRevents (now : Now) (handle : Int) {place : Nat}
    (set : (socketRevents now handle).getLsbD place = true) :
    place = 0 ∨ place = 2 ∨ place = 3 ∨ place = 4 := by
  have all : ∀ place < 32, (socketRevents now handle).getLsbD place = true →
      place = 0 ∨ place = 2 ∨ place = 3 ∨ place = 4 := by
    unfold socketRevents
    split_ifs <;> decide
  exact all place (BitVec.lt_of_getLsbD set) set

/-- Two masks that agree on those bits take the same of it. -/
theorem socketRevents_and (now : Now) (handle : Int) {left right : BitVec 32}
    (same : ∀ place, place = 0 ∨ place = 2 ∨ place = 3 ∨ place = 4 →
      left.getLsbD place = right.getLsbD place) :
    socketRevents now handle &&& left = socketRevents now handle &&& right := by
  refine BitVec.eq_of_getLsbD_eq fun place _ => ?_
  rw [BitVec.getLsbD_and, BitVec.getLsbD_and]
  cases set : (socketRevents now handle).getLsbD place with
  | false => rfl
  | true => rw [same place (bit_of_socketRevents now handle set)]

/-- The conditions a socket's epoll entry may report are those poll may. -/
theorem socketRevents_conditions (now : Now) (handle : Int) (events : BitVec 32) :
    socketRevents now handle &&& (events ||| Epoll.epollErr ||| Epoll.epollHup) =
      ((socketRevents now handle &&&
        runtimePollWantedMask ((events.setWidth 16).signExtend 32)).setWidth 16).setWidth 32 := by
  have kept (mask : BitVec 32) :
      ((socketRevents now handle &&& mask).setWidth 16).setWidth 32 =
        socketRevents now handle &&& mask := by
    refine BitVec.eq_of_getLsbD_eq fun place low => ?_
    rw [BitVec.getLsbD_setWidth, BitVec.getLsbD_setWidth, BitVec.getLsbD_and]
    cases set : (socketRevents now handle).getLsbD place with
    | false => simp
    | true =>
        have small : place < 16 := by
          rcases bit_of_socketRevents now handle set with rfl | rfl | rfl | rfl <;> decide
        simp [low, small]
  rw [kept]
  refine socketRevents_and now handle fun place one => ?_
  rcases one with rfl | rfl | rfl | rfl <;>
    simp [runtimePollWantedMask, Epoll.epollErr, Epoll.epollHup, Epoll.epollIn, epollOut,
      BitVec.getElem_signExtend]

/-! ### epoll and poll -/

/-- An entry whose registration is of the descriptor as it is open now; descriptor 0 is the
console. -/
structure Current (now : Now) (entry : Epoll.Entry) : Prop where
  open_ : 0 ≤ entry.fd
  console : now.sock 0 = none
  sock : now.sock entry.fd = if entry.isSock then some entry.sockHandle else none

theorem and_pollIn (events : BitVec 32) :
    events.setWidth 16 &&& pollIn = if events.getLsbD 0 then pollIn else 0 := by
  refine BitVec.eq_of_getLsbD_eq fun place low => ?_
  have one : pollIn = 1#16 := rfl
  rw [one, BitVec.getLsbD_and, BitVec.getLsbD_one, BitVec.getLsbD_setWidth]
  by_cases first : place = 0
  · subst first
    cases events.getLsbD 0 <;> rfl
  · cases events.getLsbD 0 <;> simp [first]

theorem epollIn_and (events : BitVec 32) :
    Epoll.epollIn &&& (events ||| Epoll.epollErr ||| Epoll.epollHup) =
      if events.getLsbD 0 then Epoll.epollIn else 0 := by
  refine BitVec.eq_of_getLsbD_eq fun place low => ?_
  have one : Epoll.epollIn = 1#32 := rfl
  rw [BitVec.getLsbD_and, one, BitVec.getLsbD_one]
  by_cases first : place = 0
  · subst first
    rw [BitVec.getLsbD_or, BitVec.getLsbD_or]
    cases events.getLsbD 0 <;> rfl
  · cases events.getLsbD 0 <;> simp [first]

/-- Readability without a socket. -/
theorem input_conditions (events : BitVec 32) (ready : Bool) :
    (if ready then Epoll.epollIn else 0) &&& (events ||| Epoll.epollErr ||| Epoll.epollHup) =
      (if events.setWidth 16 &&& pollIn ≠ 0 ∧ ready = true then pollIn else 0).setWidth 32 := by
  rw [and_pollIn]
  cases ready with
  | false => simp
  | true =>
      simp only [if_true, epollIn_and]
      cases events.getLsbD 0 <;> decide

/-- What epoll reports of an entry is what poll answers for its descriptor and events. -/
theorem conditions_eq_poll {entry : Epoll.Entry} (current : Current now entry) :
    Epoll.conditions (epollReadiness now) entry =
      (pollRevents now entry.fd (entry.events.setWidth 16)).setWidth 32 := by
  have opened : ¬entry.fd < 0 := Int.not_lt.mpr current.open_
  have sock := current.sock
  unfold Epoll.conditions epollReadiness pollRevents
  rw [if_neg opened]
  by_cases isSock : entry.isSock = true
  · have elsewhere : entry.fd ≠ 0 := by
      intro console
      rw [console, current.console, if_pos isSock] at sock
      cases sock
    rw [if_pos isSock] at sock ⊢
    rw [if_neg elsewhere, sock]
    exact socketRevents_conditions now entry.sockHandle entry.events
  · rw [if_neg isSock] at sock ⊢
    by_cases console : entry.fd = 0
    · rw [if_pos console, if_pos console]
      exact input_conditions entry.events now.console
    · rw [if_neg console, if_neg console, sock]
      exact input_conditions entry.events (WakePipe.pipeReady now.pipes entry.fd)

/-- What `ppoll` is asked for the registrations that are open. -/
def pollfdOf (entry : Epoll.Entry) : Pollfd :=
  { fd := entry.fd, events := entry.events.setWidth 16 }

def scanned (now : Now) (entry : Pollfd) : Pollfd :=
  { entry with revents := pollRevents now entry.fd entry.events }

theorem pollScan_eq (now : Now) (fds : List Pollfd) :
    pollScan now fds =
      (fds.map (scanned now), fds.countP fun entry => (scanned now entry).revents != 0) := by
  induction fds with
  | nil => rfl
  | cons entry rest ih =>
      simp only [pollScan, ih, List.map_cons, List.countP_cons, scanned, bne_iff_ne]
      split_ifs <;> rfl

theorem setWidth_eq_zero_iff (revents : BitVec 16) : revents.setWidth 32 = 0 ↔ revents = 0 := by
  have low := revents.isLt
  rw [← BitVec.toNat_inj, ← BitVec.toNat_inj, BitVec.toNat_setWidth]
  simp only [BitVec.ofNat_eq_ofNat, BitVec.toNat_ofNat, Nat.zero_mod]
  omega

/-- A scan of an epoll table reports what `ppoll` answers for the armed registrations, in order
and up to its limit. -/
theorem tableScan_eq_poll {table : Epoll.Table}
    (current : ∀ entry ∈ table, entry.active = true → Current now entry) (left : Nat) :
    (Epoll.tableScan (epollReadiness now) left table).2 =
      (((table.filter fun entry => entry.active && entry.armed).filter fun entry =>
        (scanned now (pollfdOf entry)).revents != 0).take left).map fun entry =>
          { events := (scanned now (pollfdOf entry)).revents.setWidth 32, data := entry.data } := by
  rw [Epoll.tableScan_reports, List.filter_filter]
  have same (entry : Epoll.Entry) (inside : entry ∈ table) :
      Epoll.Ready (epollReadiness now) entry =
        ((scanned now (pollfdOf entry)).revents != 0 && (entry.active && entry.armed)) := by
    unfold Epoll.Ready
    cases active : entry.active with
    | false => simp
    | true =>
        rw [conditions_eq_poll (current entry inside active), Bool.and_comm (_ != _)]
        congr 1
        rw [Bool.eq_iff_iff, bne_iff_ne, bne_iff_ne, ne_eq, ne_eq, setWidth_eq_zero_iff]
        rfl
  rw [List.filter_congr same]
  refine List.map_congr_left fun entry taken => ?_
  obtain ⟨inside, chosen⟩ := List.mem_filter.mp (List.mem_of_mem_take taken)
  simp only [Bool.and_eq_true] at chosen
  simp only [Epoll.reportOf, conditions_eq_poll (current entry inside chosen.2.1)]
  rfl

/-! ### select and poll -/

theorem select_socket (now : Now) (handle : Int) :
    ((runtimeSelectFromRevents (socketRevents now handle)).read = true ↔
      (socketRevents now handle &&&
        runtimePollWantedMask (pollIn.signExtend 32)).setWidth 16 ≠ 0) ∧
    ((runtimeSelectFromRevents (socketRevents now handle)).write = true ↔
      (socketRevents now handle &&&
        runtimePollWantedMask (pollOut.signExtend 32)).setWidth 16 ≠ 0) := by
  unfold socketRevents
  split_ifs <;> decide

/-- What `select` says of a descriptor that is watched for reading, or for writing. -/
theorem selectState_eq_poll (now : Now) (fd : Nat) :
    (selectState now fd).any (·.read) = (pollRevents now fd pollIn != 0) ∧
      (selectState now fd).any (·.write) = (pollRevents now fd pollOut != 0) := by
  have opened : ¬((fd : Int) < 0) := Int.not_lt.mpr (Int.natCast_nonneg fd)
  unfold selectState pollRevents
  rw [if_neg opened, if_neg opened]
  by_cases console : fd = 0
  · have here : (fd : Int) = 0 := Int.natCast_eq_zero.mpr console
    rw [if_pos console, if_pos here, if_pos here]
    cases now.console <;> decide
  · have elsewhere : (fd : Int) ≠ 0 := Int.natCast_ne_zero.mpr console
    rw [if_neg console, if_neg elsewhere, if_neg elsewhere]
    cases now.sock fd with
    | some handle =>
        obtain ⟨read, write⟩ := select_socket now handle
        exact ⟨Bool.eq_iff_iff.mpr (read.trans bne_iff_ne.symm),
          Bool.eq_iff_iff.mpr (write.trans bne_iff_ne.symm)⟩
    | none =>
        dsimp only
        cases WakePipe.pipeReady now.pipes fd <;> decide

/-- The descriptors below `count` that are asked for and ready. -/
def answered (now : Now) (req : SelectRequest) (readfds writefds : Option FdSet) (count : Nat) :
    SelectSets where
  readfds := readfds.map fun _ fd => decide (fd < count) && (req.watchRead && req.read fd &&
    pollRevents now fd pollIn != 0)
  writefds := writefds.map fun _ fd => decide (fd < count) && (req.watchWrite && req.write fd &&
    pollRevents now fd pollOut != 0)
  ready :=
    ((List.range count).countP fun fd => req.watchRead && req.read fd &&
      pollRevents now fd pollIn != 0) +
    (List.range count).countP fun fd => req.watchWrite && req.write fd &&
      pollRevents now fd pollOut != 0

/-- The set of one descriptor more. -/
theorem map_below_succ (set : Option FdSet) (asked : Nat → Bool) (fd : Nat) :
    (set.map fun _ other => decide (other < fd + 1) && asked other) =
      if asked fd then (set.map fun _ other => decide (other < fd) && asked other).map (fdSet fd)
      else set.map fun _ other => decide (other < fd) && asked other := by
  cases set with
  | none => simp
  | some bits =>
      have later (other : Nat) (apart : other ≠ fd) :
          decide (other < fd + 1) = decide (other < fd) := decide_eq_decide.mpr (by omega)
      cases chosen : asked fd with
      | true =>
          simp only [if_true, Option.map_some, Option.some.injEq]
          funext other
          by_cases same : other = fd
          · simp [fdSet, same, chosen]
          · rw [later other same, fdSet, Function.update_of_ne same]
      | false =>
          simp only [Bool.false_eq_true, if_false, Option.map_some, Option.some.injEq]
          funext other
          by_cases same : other = fd
          · simp [same, chosen]
          · rw [later other same]

/-- One turn of the loop answers one descriptor more. -/
theorem selectStep_answered (now : Now) (req : SelectRequest) (readfds writefds : Option FdSet)
    (fd : Nat) :
    selectStep now req (answered now req readfds writefds fd) fd =
      answered now req readfds writefds (fd + 1) := by
  obtain ⟨read, write⟩ := selectState_eq_poll now fd
  simp only [answered, map_below_succ, List.range_succ, List.countP_append, List.countP_singleton,
    ← read, ← write]
  unfold selectStep
  cases selectState now fd with
  | none => simp
  | some state =>
      obtain ⟨canRead, canWrite, except⟩ := state
      cases req.watchRead && req.read fd <;> cases req.watchWrite && req.write fd <;>
        cases canRead <;> cases canWrite <;> simp <;> omega

/-- The loop answers each descriptor below the bound once. -/
theorem selectScan_eq (now : Now) (nfds : Int) (req : SelectRequest)
    (readfds writefds : Option FdSet) :
    selectScan now nfds req readfds writefds = answered now req readfds writefds nfds.toNat := by
  have scans (count : Nat) : (List.range count).foldl (selectStep now req)
      { readfds := readfds.map fun _ _ => false, writefds := writefds.map fun _ _ => false } =
        answered now req readfds writefds count := by
    induction count with
    | zero => simp [answered]
    | succ count ih =>
        rw [List.range_succ, List.foldl_append, ih]
        exact selectStep_answered now req readfds writefds count
  exact scans nfds.toNat

/-! ### The calls -/

/-- What a `ppoll` of one descriptor answers is all that the others say of it: an epoll table
reports its armed registrations as `ppoll` would answer them, in order and up to its limit, and
`pselect6` sets the bits of the descriptors that `ppoll` finds readable, or writable. -/
structure Agree (now : Now) : Prop where
  epoll : ∀ (table : Epoll.Table) (left : Nat),
    (∀ entry ∈ table, entry.active = true → Current now entry) →
      let armed := table.filter fun entry => entry.active && entry.armed
      let polled := pollScan now (armed.map pollfdOf)
      (Epoll.tableScan (epollReadiness now) left table).2 =
          (((armed.zip polled.1).filter fun answer => answer.2.revents != 0).take left).map
            (fun answer => { events := answer.2.revents.setWidth 32, data := answer.1.data }) ∧
        (Epoll.tableScan (epollReadiness now) left table).2.length = min left polled.2
  select : ∀ (nfds : Int) (readfds writefds : Option FdSet),
    let req := selectRequestOf nfds readfds writefds
    let sets := selectScan now nfds req readfds writefds
    (∀ read ∈ sets.readfds, ∀ fd, read fd = true ↔ (fd : Int) < nfds ∧
      (∃ asked ∈ readfds, asked fd = true) ∧ pollRevents now fd pollIn ≠ 0) ∧
    (∀ write ∈ sets.writefds, ∀ fd, write fd = true ↔ (fd : Int) < nfds ∧
      (∃ asked ∈ writefds, asked fd = true) ∧ pollRevents now fd pollOut ≠ 0) ∧
    sets.ready =
      (List.range nfds.toNat).countP (fun fd => (sets.readfds.getD fun _ => false) fd) +
        (List.range nfds.toNat).countP fun fd => (sets.writefds.getD fun _ => false) fd

theorem agree_epoll {table : Epoll.Table}
    (current : ∀ entry ∈ table, entry.active = true → Current now entry) (left : Nat) :
    let armed := table.filter fun entry => entry.active && entry.armed
    let polled := pollScan now (armed.map pollfdOf)
    (Epoll.tableScan (epollReadiness now) left table).2 =
        (((armed.zip polled.1).filter fun answer => answer.2.revents != 0).take left).map
          (fun answer => { events := answer.2.revents.setWidth 32, data := answer.1.data }) ∧
      (Epoll.tableScan (epollReadiness now) left table).2.length = min left polled.2 := by
  intro armed polled
  have polls : polled = pollScan now (armed.map pollfdOf) := rfl
  rw [pollScan_eq, List.map_map] at polls
  rw [tableScan_eq_poll current left, polls]
  constructor
  · have paired : armed.zip (armed.map (scanned now ∘ pollfdOf)) =
        armed.map fun entry => (entry, scanned now (pollfdOf entry)) := by
      simpa using (List.zip_map' :
        (armed.map id).zip (armed.map (scanned now ∘ pollfdOf)) = _)
    rw [paired, List.filter_map, ← List.map_take, List.map_map]
    rfl
  · rw [List.length_map, List.length_take, ← List.countP_eq_length_filter, List.countP_map]
    rfl

theorem asked_iff (nfds : Int) (set : Option FdSet) (fd : Nat) (low : (fd : Int) < nfds) :
    ((0 < nfds && set.isSome) &&
      (if (0 < nfds && set.isSome) = true then set.getD fun _ => false else fun _ => false) fd) =
        true ↔ ∃ asked ∈ set, asked fd = true := by
  have some_ : 0 < nfds := Int.lt_of_le_of_lt (Int.natCast_nonneg fd) low
  cases set <;> simp [some_]

theorem agree_select (now : Now) (nfds : Int) (readfds writefds : Option FdSet) :
    let req := selectRequestOf nfds readfds writefds
    let sets := selectScan now nfds req readfds writefds
    (∀ read ∈ sets.readfds, ∀ fd, read fd = true ↔ (fd : Int) < nfds ∧
      (∃ asked ∈ readfds, asked fd = true) ∧ pollRevents now fd pollIn ≠ 0) ∧
    (∀ write ∈ sets.writefds, ∀ fd, write fd = true ↔ (fd : Int) < nfds ∧
      (∃ asked ∈ writefds, asked fd = true) ∧ pollRevents now fd pollOut ≠ 0) ∧
    sets.ready =
      (List.range nfds.toNat).countP (fun fd => (sets.readfds.getD fun _ => false) fd) +
        (List.range nfds.toNat).countP fun fd => (sets.writefds.getD fun _ => false) fd := by
  intro req sets
  have same : sets = answered now req readfds writefds nfds.toNat := selectScan_eq ..
  rw [same]
  have bit (set : Option FdSet) (events : BitVec 16) (fd : Nat) :
      (decide (fd < nfds.toNat) && ((0 < nfds && set.isSome) &&
        (if (0 < nfds && set.isSome) = true then set.getD fun _ => false
          else fun _ => false) fd && pollRevents now fd events != 0)) = true ↔
      (fd : Int) < nfds ∧ (∃ asked ∈ set, asked fd = true) ∧ pollRevents now fd events ≠ 0 := by
    rw [Bool.and_eq_true, Bool.and_eq_true, decide_eq_true_eq, bne_iff_ne, Int.lt_toNat]
    exact and_congr_right fun low => and_congr_left' (asked_iff nfds set fd low)
  refine ⟨fun read set fd => ?_, fun write set fd => ?_, ?_⟩
  · obtain ⟨_, _, rfl⟩ := Option.map_eq_some_iff.mp set
    exact bit readfds pollIn fd
  · obtain ⟨_, _, rfl⟩ := Option.map_eq_some_iff.mp set
    exact bit writefds pollOut fd
  · have counts (set : Option FdSet) (asked : Nat → Bool)
        (unset : set = none → ∀ fd, asked fd = false) :
        (List.range nfds.toNat).countP asked = (List.range nfds.toNat).countP fun fd =>
          ((set.map fun _ other => decide (other < nfds.toNat) && asked other).getD
            fun _ => false) fd := by
      refine List.countP_congr fun fd inside => ?_
      have low := List.mem_range.mp inside
      cases set with
      | none => simp [unset rfl fd]
      | some bits => simp [Int.lt_toNat.mp low]
    simp only [answered]
    rw [← counts readfds _ ?_, ← counts writefds _ ?_]
    · rintro rfl fd
      simp [req, selectRequestOf]
    · rintro rfl fd
      simp [req, selectRequestOf]

/-- The look a call answers with: the one it comes with, unless it found nothing there and was to
wait. -/
def look (now woken : Now) (ready : Nat) (timeout : Option Timespec) : Now :=
  if ready = 0 ∧ timeout.any runtimeTimespecIsZero = false then woken else now

/-- The calls whose arguments pass scan one look for what the caller asked, also after the park,
when their own first answer lies in the caller's memory. -/
structure Rescans (now woken : Now) : Prop where
  ppoll : ∀ fds nfds timeout answer,
    let asked := (fds.getD []).take nfds
    runtimeSysPpoll now woken fds nfds timeout = .ok answer ↔
      (fds = none → nfds = 0) ∧ nfds ≤ runtimeFdLimit ∧
        (∀ ts ∈ timeout, runtimeTimespecValid ts = true) ∧
        answer = pollScan (look now woken (pollScan now asked).2 timeout) asked
  pselect6 : ∀ nfds readfds writefds exceptfds timeout answer,
    let scan := fun now =>
      selectScan now nfds (selectRequestOf nfds readfds writefds) readfds writefds
    runtimeSysPselect6 now woken nfds readfds writefds exceptfds timeout = .ok answer ↔
      0 ≤ nfds ∧ nfds ≤ fdSetsize ∧ (∀ ts ∈ timeout, runtimeTimespecValid ts = true) ∧
        answer = (scan (look now woken (scan now).ready timeout), exceptfds.map fun _ _ => false)

/-- What an earlier scan left in the entries is overwritten. -/
theorem pollScan_again (now woken : Now) (fds : List Pollfd) :
    pollScan woken (pollScan now fds).1 = pollScan woken fds := by
  rw [pollScan_eq, pollScan_eq, pollScan_eq, List.map_map, List.countP_map]
  rfl

theorem selectScan_again (now woken : Now) (nfds : Int) (req : SelectRequest)
    (readfds writefds : Option FdSet) :
    selectScan woken nfds req (selectScan now nfds req readfds writefds).readfds
      (selectScan now nfds req readfds writefds).writefds =
        selectScan woken nfds req readfds writefds := by
  rw [selectScan_eq, selectScan_eq, selectScan_eq]
  simp only [answered, Option.map_map]
  rfl

theorem all_valid_iff (timeout : Option Timespec) :
    timeout.any (fun ts => !runtimeTimespecValid ts) = false ↔
      ∀ ts ∈ timeout, runtimeTimespecValid ts = true := by
  cases timeout <;> simp

theorem runtimeSysPpoll_eq (now woken : Now) (fds : Option (List Pollfd)) (nfds : Nat)
    (timeout : Option Timespec) : runtimeSysPpoll now woken fds nfds timeout =
      let asked := (fds.getD []).take nfds
      if fds = none ∧ nfds > 0 then .error .EFAULT
      else if nfds > runtimeFdLimit then .error .EINVAL
      else if timeout.any (fun ts => !runtimeTimespecValid ts) then .error .EINVAL
      else .ok (pollScan (look now woken (pollScan now asked).2 timeout) asked) := by
  unfold runtimeSysPpoll look
  simp only [pollScan_again]
  congr 3
  split_ifs <;> rfl

theorem runtimeSysPselect6_eq (now woken : Now) (nfds : Int)
    (readfds writefds exceptfds : Option FdSet) (timeout : Option Timespec) :
    runtimeSysPselect6 now woken nfds readfds writefds exceptfds timeout =
      let scan := fun now =>
        selectScan now nfds (selectRequestOf nfds readfds writefds) readfds writefds
      if nfds < 0 ∨ fdSetsize < nfds then .error .EINVAL
      else if timeout.any (fun ts => !runtimeTimespecValid ts) then .error .EINVAL
      else .ok (scan (look now woken (scan now).ready timeout),
        exceptfds.map fun _ _ => false) := by
  unfold runtimeSysPselect6 look
  simp only [selectScan_again]
  congr 4
  split_ifs <;> rfl

theorem rescans (now woken : Now) : Rescans now woken where
  ppoll := fun fds nfds timeout answer => by
    rw [← all_valid_iff, runtimeSysPpoll_eq]
    generalize pollScan (look _ _ _ _) _ = scan
    dsimp only
    split_ifs with null many invalid
    · simp [null.1, Nat.ne_of_gt null.2]
    · simp [Nat.not_le.mpr many]
    · simp [invalid]
    · have given : fds = none → nfds = 0 := fun none_ =>
        Nat.eq_zero_of_not_pos fun more => null ⟨none_, more⟩
      have checked := Bool.eq_false_iff.mpr invalid
      rw [Except.ok.injEq, eq_comm]
      exact ⟨fun same => ⟨given, Nat.not_lt.mp many, checked, same⟩, fun passed => passed.2.2.2⟩
  pselect6 := fun nfds readfds writefds exceptfds timeout answer => by
    rw [← all_valid_iff, runtimeSysPselect6_eq]
    generalize selectScan (look _ _ _ _) _ _ _ _ = scan
    dsimp only
    split_ifs with range invalid
    · have outside : ¬(0 ≤ nfds ∧ nfds ≤ fdSetsize) := by omega
      simp only [false_iff]
      exact fun passed => outside ⟨passed.1, passed.2.1⟩
    · simp [invalid]
    · have checked := Bool.eq_false_iff.mpr invalid
      rw [Except.ok.injEq, eq_comm]
      exact ⟨fun same => ⟨by omega, by omega, checked, same⟩, fun passed => passed.2.2.2⟩

/-- The three calls agree over every look, and each answers with one. -/
theorem calls_agree (now woken : Now) : Agree now ∧ Rescans now woken := by
  refine ⟨⟨fun _ left current => agree_epoll current left, agree_select now⟩, rescans now woken⟩

/-- Nothing is ready. -/
def sampleQuiet : Now where
  console := false
  sock := fun fd => if fd = 5 then some 1 else none
  net := .initial
  txPoolFree := true
  pipes := [{ state := .empty, readOpen := true, writeOpen := true, readFd := 4, writeFd := 6 }]

/-- A line on the console, a reset connection and a wakeup. -/
def sampleWoken : Now :=
  { sampleQuiet with
    console := true
    net := Net.initial.setSocket ⟨1, by decide⟩ fun socket =>
      { socket with state := .error, lastError := some .ECONNRESET }
    pipes :=
      [{ state := .readable, readOpen := true, writeOpen := true, readFd := 4, writeFd := 6 }] }

def sampleTable : Epoll.Table :=
  [{ fd := 0, events := Epoll.epollIn, data := 7, active := true, armed := true },
    { fd := 4, events := Epoll.epollIn, data := 8, active := true },
    { fd := 5, events := epollOut, data := 9, active := true, armed := true, isSock := true,
      sockHandle := 1 }]

def samplePolled : List Pollfd :=
  [{ fd := 0, events := pollIn }, { fd := 4, events := pollIn }, { fd := 5, events := pollOut }]

/-- The table's disarmed entry is not reported; `ppoll` and `pselect6` park and find all three. -/
theorem calls_agree_sample :
    (Epoll.tableScan (epollReadiness sampleWoken) 4 sampleTable).2 =
      [{ events := Epoll.epollIn, data := 7 },
        { events := epollOut ||| Epoll.epollErr, data := 9 }] ∧
    runtimeSysPpoll sampleQuiet sampleWoken (some samplePolled) 3 none =
      .ok (pollScan sampleWoken samplePolled) ∧
    (pollScan sampleWoken samplePolled).2 = 3 ∧
    ∃ answer, runtimeSysPselect6 sampleQuiet sampleWoken 6 (some fun _ => true) none none none =
      .ok answer ∧ answer.1.ready = 3 := by
  obtain ⟨-, calls⟩ := calls_agree sampleQuiet sampleWoken
  obtain ⟨agree, -⟩ := calls_agree sampleWoken sampleWoken
  have current (entry : Epoll.Entry) (inside : entry ∈ sampleTable) (_ : entry.active = true) :
      Current sampleWoken entry := by
    simp only [sampleTable, List.mem_cons, List.not_mem_nil, or_false] at inside
    obtain rfl | rfl | rfl := inside <;> exact ⟨by decide, rfl, rfl⟩
  refine ⟨(agree.epoll sampleTable 4 current).1.trans (by decide), ?_, by decide, ?_⟩
  · exact (calls.ppoll _ _ _ _).mpr ⟨by decide, by decide, by decide, rfl⟩
  · exact ⟨_, (calls.pselect6 _ _ _ _ _ _).mpr ⟨by decide, by decide, by decide, rfl⟩, by decide⟩

/-! ### What the socket calls then find -/

theorem pollRevents_socket {fd : Int} (open_ : 0 < fd) {index : Int}
    (sock : now.sock fd = some index) (events : BitVec 16) :
    pollRevents now fd events = (socketRevents now index &&&
      runtimePollWantedMask (events.signExtend 32)).setWidth 16 := by
  rw [pollRevents, if_neg (Int.not_lt.mpr (Int.le_of_lt open_)), if_neg (Int.ne_of_gt open_), sock]

/-- A poll for input is silent exactly on a quiet socket. -/
theorem polled_quiet_iff {fd : Int} (open_ : 0 < fd) {index : Int}
    (sock : now.sock fd = some index) :
    pollRevents now fd pollIn = 0 ↔ now.net.Quiet index := by
  rw [pollRevents_socket open_ sock, Net.Quiet, ← Bool.not_eq_true, ← Option.not_isSome_iff_eq_none]
  unfold socketRevents
  split_ifs with readable writable hup failed <;> simp_all <;> decide

/-- What a socket is polled for is what its next call finds: a read of it parks if it is connected
and was not reported, and an accept if it listens and was not. -/
theorem polled_waits {log : List Entry} (runs : Runs log now.net) {fd : Int} (open_ : 0 < fd)
    {index : Int} (sock : now.sock fd = some index) {id : SocketId}
    (found : socketLookup index = some id) (len : Nat) :
    ((now.net.tcpSocketRecv index len false).2 = none ↔
      (now.net.sockets id).state = .connected ∧ pollRevents now fd pollIn = 0) ∧
    ((now.net.tcpSocketAccept index false).2 = none ↔
      (now.net.sockets id).state = .listening ∧ pollRevents now fd pollIn = 0) := by
  have honest := runs.tells.honest now.txPoolFree found
  rw [polled_quiet_iff open_ sock]
  exact ⟨(honest.recv len).1, honest.accept.1⟩

end Chrysopolis.Beam.Poll
