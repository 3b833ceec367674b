import Chrysopolis.Beam.Epoll
import Mathlib.Data.List.Induction
import Mathlib.Data.List.Nodup

/-! The epoll tables: what registering and scanning do to a table, and what holds in every run
of the calls. -/

set_option autoImplicit false

namespace Chrysopolis.Beam.Epoll

variable {table : Table} {fd : Int} {index left start : Nat} {readiness : Entry → BitVec 32}

/-! ## One table -/

/-- At most one active entry a descriptor. -/
def Unique (table : Table) : Prop :=
  ∀ (first second : Nat) (entry other : Entry), table[first]? = some entry →
    table[second]? = some other → entry.active = true → other.active = true →
      entry.fd = other.fd → first = second

theorem findEntry_eq_none_iff :
    findEntry table fd = none ↔ ∀ entry ∈ table, entry.active = true → entry.fd ≠ fd := by
  rw [findEntry, List.findIdx?_eq_none_iff]
  simp only [Bool.and_eq_false_imp, beq_eq_false_iff_ne]

theorem findEntry_some (found : findEntry table fd = some index) :
    ∃ entry, table[index]? = some entry ∧ entry.active = true ∧ entry.fd = fd := by
  obtain ⟨within, chosen, -⟩ := List.findIdx?_eq_some_iff_getElem.mp found
  rw [Bool.and_eq_true, beq_iff_eq] at chosen
  exact ⟨table[index], List.getElem?_eq_getElem within, chosen⟩

theorem placeFor_eq_none_iff :
    placeFor table fd = none ↔
      (∀ entry ∈ table, entry.active = true) ∧ ∀ entry ∈ table, entry.fd ≠ fd := by
  rw [placeFor, Option.or_eq_none_iff, findEntry_eq_none_iff, List.findIdx?_eq_none_iff]
  simp only [Bool.not_eq_false']
  constructor
  · rintro ⟨absent, full⟩
    exact ⟨full, fun entry member => absent entry member (full entry member)⟩
  · rintro ⟨full, absent⟩
    exact ⟨fun entry member _ => absent entry member, full⟩

/-- The place that is given is the descriptor's own, or inactive while it has none. -/
theorem placeFor_some (found : placeFor table fd = some index) :
    ∃ entry, table[index]? = some entry ∧
      ((entry.active = true ∧ entry.fd = fd) ∨
        (entry.active = false ∧ ∀ other ∈ table, other.active = true → other.fd ≠ fd)) := by
  rw [placeFor, Option.or_eq_some_iff] at found
  rcases found with own | ⟨absent, inactive⟩
  · obtain ⟨entry, held, active, same⟩ := findEntry_some own
    exact ⟨entry, held, .inl ⟨active, same⟩⟩
  · obtain ⟨within, chosen, -⟩ := List.findIdx?_eq_some_iff_getElem.mp inactive
    exact ⟨table[index], List.getElem?_eq_getElem within,
      .inr ⟨Bool.not_eq_true' _ ▸ chosen, findEntry_eq_none_iff.mp absent⟩⟩

/-- Out of space is said exactly of a full table without the descriptor, and changes nothing. -/
theorem tableSet_noSpace_iff (table : Table) (fd : Int) (events : BitVec 32) (data : BitVec 64)
    (sock : Option Int) :
    ((tableSet table fd events data sock).2 = .noSpace ↔
        (∀ entry ∈ table, entry.active = true) ∧ ∀ entry ∈ table, entry.fd ≠ fd) ∧
      ((tableSet table fd events data sock).2 = .noSpace →
        (tableSet table fd events data sock).1 = table) := by
  rw [← placeFor_eq_none_iff, tableSet]
  cases placeFor table fd with
  | none => exact ⟨iff_of_true rfl rfl, fun _ => rfl⟩
  | some index => exact ⟨iff_of_false nofun nofun, nofun⟩

theorem Unique.set (unique : Unique table) (found : placeFor table fd = some index)
    {entry : Entry} (same : entry.fd = fd) : Unique (table.set index entry) := by
  obtain ⟨was, held, own⟩ := placeFor_some found
  -- Another active entry of the descriptor would be the one the place was chosen for.
  have alone {place : Nat} {other : Entry} (apart : place ≠ index)
      (there : table[place]? = some other) (active : other.active = true) : other.fd ≠ fd := by
    rcases own with ⟨wasActive, wasSame⟩ | ⟨-, absent⟩
    · exact fun sameFd => apart (unique place index other was there held active wasActive
        (sameFd.trans wasSame.symm))
    · exact absent other (List.mem_of_getElem? there) active
  intro first second left right atFirst atSecond leftActive rightActive equal
  rw [List.getElem?_set] at atFirst atSecond
  by_cases leftHere : index = first <;> by_cases rightHere : index = second
  · exact leftHere.symm.trans rightHere
  · rw [if_neg rightHere] at atSecond
    rw [if_pos leftHere] at atFirst
    have : left = entry := by
      split at atFirst
      · exact (Option.some.inj atFirst).symm
      · cases atFirst
    subst this
    exact absurd (equal.symm.trans same) (alone (Ne.symm rightHere) atSecond rightActive)
  · rw [if_neg leftHere] at atFirst
    rw [if_pos rightHere] at atSecond
    have : right = entry := by
      split at atSecond
      · exact (Option.some.inj atSecond).symm
      · cases atSecond
    subst this
    exact absurd (equal.trans same) (alone (Ne.symm leftHere) atFirst leftActive)
  · rw [if_neg leftHere] at atFirst
    rw [if_neg rightHere] at atSecond
    exact unique first second left right atFirst atSecond leftActive rightActive equal

/-- Entries that only lose what they had stay unique. -/
theorem Unique.of_map (unique : Unique table) {next : Table}
    (kept : ∀ (place : Nat) (entry : Entry), next[place]? = some entry → entry.active = true →
      ∃ was, table[place]? = some was ∧ was.active = true ∧ was.fd = entry.fd) : Unique next := by
  intro first second left right atFirst atSecond leftActive rightActive equal
  obtain ⟨was, held, active, same⟩ := kept first left atFirst leftActive
  obtain ⟨other, held', active', same'⟩ := kept second right atSecond rightActive
  exact unique first second was other held held' active active'
    (same.trans (equal.trans same'.symm))

/-! ### A scan -/

theorem ready_iff {entry : Entry} :
    Ready readiness entry = true ↔
      entry.active = true ∧ entry.armed = true ∧ conditions readiness entry ≠ 0 := by
  rw [Ready, Bool.and_eq_true, Bool.and_eq_true, bne_iff_ne, and_assoc]

theorem not_ready_iff {entry : Entry} :
    (entry.active = false ∨ entry.armed = false ∨ conditions readiness entry = 0) ↔
      Ready readiness entry = false := by
  rw [← Bool.not_eq_true (Ready readiness entry), ready_iff]
  simp only [← Bool.not_eq_true, not_and_or, Decidable.not_not, Ne]

/-- An entry as a scan leaves it once it reported it. -/
def spent (entry : Entry) : Entry :=
  if entry.events &&& epollOneshot ≠ 0 then { entry with armed := false } else entry

theorem tableScan_ready {entry : Entry} {rest : Table} (ready : Ready readiness entry = true) :
    tableScan readiness (left + 1) (entry :: rest) =
      (spent entry :: (tableScan readiness left rest).1,
        reportOf readiness entry :: (tableScan readiness left rest).2) := by
  have due : ¬(entry.active = false ∨ entry.armed = false ∨ conditions readiness entry = 0) := by
    rw [not_ready_iff, ready]
    decide
  rw [tableScan, if_neg due]
  rfl

theorem tableScan_skip {entry : Entry} {rest : Table} (ready : Ready readiness entry = false) :
    tableScan readiness (left + 1) (entry :: rest) =
      (entry :: (tableScan readiness (left + 1) rest).1,
        (tableScan readiness (left + 1) rest).2) := by
  rw [tableScan, if_pos (not_ready_iff.mpr ready)]

/-- A scan reports the first ready entries in the order of the table. -/
theorem tableScan_reports (readiness : Entry → BitVec 32) (left : Nat) (table : Table) :
    (tableScan readiness left table).2 =
      ((table.filter (Ready readiness)).take left).map (reportOf readiness) := by
  induction table generalizing left with
  | nil => cases left <;> rfl
  | cons entry rest ih =>
      cases left with
      | zero => simp [tableScan]
      | succ left =>
          cases ready : Ready readiness entry with
          | true =>
              rw [tableScan_ready ready, List.filter_cons_of_pos ready, ih, List.take_succ_cons,
                List.map_cons]
          | false =>
              rw [tableScan_skip ready, ih, List.filter_cons_of_neg (by rw [ready]; decide)]

theorem readyFrom_ready {entry : Entry} {rest : Table} (ready : Ready readiness entry = true) :
    readyFrom readiness (left + 1) (entry :: rest) start =
      (entry, start) :: readyFrom readiness left rest (start + 1) := by
  simp [readyFrom, List.zipIdx_cons, ready]

theorem readyFrom_skip {entry : Entry} {rest : Table} (ready : Ready readiness entry = false) :
    readyFrom readiness left (entry :: rest) start = readyFrom readiness left rest (start + 1) := by
  simp [readyFrom, List.zipIdx_cons, ready]

theorem mem_readyFrom {entry : Entry} {place : Nat}
    (hit : (entry, place) ∈ readyFrom readiness left table start) :
    start ≤ place ∧ table[place - start]? = some entry ∧ Ready readiness entry = true := by
  obtain ⟨numbered, ready⟩ := List.mem_filter.mp (List.mem_of_mem_take hit)
  obtain ⟨after, found⟩ := List.mk_mem_zipIdx_iff_le_and_getElem?_sub.mp numbered
  exact ⟨after, found, ready⟩

/-- No place is reported twice in a scan. -/
theorem readyFrom_nodup (readiness : Entry → BitVec 32) (left : Nat) (table : Table)
    (start : Nat) : ((readyFrom readiness left table start).map Prod.snd).Nodup := by
  have numbers : ((table.zipIdx start).map Prod.snd).Nodup := by
    rw [List.zipIdx_map_snd]
    exact List.nodup_range'
  exact numbers.sublist (((List.take_sublist _ _).trans List.filter_sublist).map _)

/-- What a scan leaves at a place. -/
theorem getElem?_tableScan (readiness : Entry → BitVec 32) (left : Nat) (table : Table)
    (start index : Nat) :
    (tableScan readiness left table).1[index]? = table[index]?.map fun entry =>
      if (entry, start + index) ∈ readyFrom readiness left table start then spent entry
      else entry := by
  induction table generalizing left start index with
  | nil => cases left <;> rfl
  | cons entry rest ih =>
      cases left with
      | zero => simp [tableScan, readyFrom]
      | succ left =>
          cases ready : Ready readiness entry with
          | true =>
              rw [tableScan_ready ready, readyFrom_ready ready]
              cases index with
              | zero => simp
              | succ index =>
                  have apart (other : Entry) : (other, start + (index + 1)) ≠ (entry, start) :=
                    fun same => by
                      have := congrArg Prod.snd same
                      simp at this
                  simp only [List.getElem?_cons_succ, ih left (start + 1) index, List.mem_cons,
                    apart, false_or, Nat.add_assoc, Nat.add_comm 1]
          | false =>
              rw [tableScan_skip ready, readyFrom_skip ready]
              cases index with
              | zero =>
                  have absent : (entry, start) ∉ readyFrom readiness (left + 1) rest (start + 1) :=
                    fun hit => by
                      have := (mem_readyFrom hit).1
                      omega
                  simp [absent]
              | succ index =>
                  simp only [List.getElem?_cons_succ, ih (left + 1) (start + 1) index,
                    Nat.add_assoc, Nat.add_comm 1]

/-- The places of a scan's hits, and what it reports of them. -/
theorem reports_eq_readyFrom (readiness : Entry → BitVec 32) (left : Nat) (table : Table)
    (start : Nat) :
    (tableScan readiness left table).2 =
      (readyFrom readiness left table start).map fun hit => reportOf readiness hit.1 := by
  induction table generalizing left start with
  | nil => cases left <;> rfl
  | cons entry rest ih =>
      cases left with
      | zero => simp [tableScan, readyFrom]
      | succ left =>
          cases ready : Ready readiness entry with
          | true => rw [tableScan_ready ready, readyFrom_ready ready, ih left (start + 1),
              List.map_cons]
          | false => rw [tableScan_skip ready, readyFrom_skip ready, ih (left + 1) (start + 1)]

/-! ## Pasts -/

section

variable {past : List Event} {slot other : Fin epollInstances} {place cothread : Nat}
  {event : Event} {hits : List (Entry × Nat)}

theorem lastTouch_cons : lastTouch (event :: past) slot index =
    if event.touches slot index then some event else lastTouch past slot index := by
  rw [lastTouch, List.find?_cons]
  cases event.touches slot index <;> rfl

theorem lastCall_cons : lastCall (event :: past) cothread slot =
    if event.recalls cothread slot then some event else lastCall past cothread slot := by
  rw [lastCall, List.find?_cons]
  cases event.recalls cothread slot <;> rfl

theorem reportsSince_of_touches (touched : event.touches slot index = true) :
    reportsSince (event :: past) slot index = 0 := by
  rw [reportsSince, List.takeWhile_cons, touched, Bool.not_true, if_neg Bool.false_ne_true,
    List.countP_nil]

theorem reportsSince_cons (apart : event.touches slot index = false) :
    reportsSince (event :: past) slot index =
      reportsSince past slot index + if event.reports slot index then 1 else 0 := by
  rw [reportsSince, List.takeWhile_cons, apart, Bool.not_false, if_pos rfl, List.countP_cons,
    reportsSince]

/-- Events that are not about a place leave what the past says of it. -/
theorem past_append (past : List Event) {events : List Event}
    (apart : ∀ event ∈ events,
      event.touches slot index = false ∧ event.reports slot index = false) :
    lastTouch (events ++ past) slot index = lastTouch past slot index ∧
      reportsSince (events ++ past) slot index = reportsSince past slot index := by
  induction events with
  | nil => exact ⟨rfl, rfl⟩
  | cons event events ih =>
      obtain ⟨⟨untouched, unreported⟩, apart⟩ := List.forall_mem_cons.mp apart
      obtain ⟨touch, count⟩ := ih apart
      rw [List.cons_append, lastTouch_cons, reportsSince_cons untouched, untouched, unreported,
        touch, count]
      exact ⟨rfl, rfl⟩

theorem reportEvents_concat (readiness : Entry → BitVec 32) (cothread : Nat)
    (slot : Fin epollInstances) (hits : List (Entry × Nat)) (hit : Entry × Nat) :
    reportEvents readiness cothread slot (hits ++ [hit]) =
      .reported cothread slot hit.2 (reportOf readiness hit.1) ::
        reportEvents readiness cothread slot hits := by
  simp [reportEvents]

/-- Reports replace nothing and take no pointer, and count for their places. -/
theorem past_reports (readiness : Entry → BitVec 32) (cothread : Nat) (slot : Fin epollInstances)
    (hits : List (Entry × Nat)) (past : List Event) (other : Fin epollInstances)
    (place caller : Nat) :
    let after := reportEvents readiness cothread slot hits ++ past
    lastTouch after other place = lastTouch past other place ∧
      lastCall after caller other = lastCall past caller other ∧
      reportsSince after other place =
        reportsSince past other place +
          if other = slot then (hits.map Prod.snd).count place else 0 := by
  induction hits using List.reverseRecOn with
  | nil => simp [reportEvents]
  | append_singleton hits hit ih =>
      obtain ⟨touch, call, count⟩ := ih
      simp only at touch call count ⊢
      rw [reportEvents_concat, List.cons_append, lastTouch_cons, lastCall_cons,
        reportsSince_cons rfl, touch, call, count]
      refine ⟨rfl, rfl, ?_⟩
      rw [List.map_append, List.count_append, List.map_singleton, List.count_singleton]
      simp only [Event.reports, Bool.and_eq_true, beq_iff_eq]
      by_cases same : other = slot
      · simp only [same, true_and, if_true, Nat.add_assoc, eq_comm]
      · simp only [same, false_and, if_false]

end

/-! ## What a step does -/

section

variable {state next : State} {slot : Fin epollInstances} {cothread : Nat} {past : List Event}

/-- What a step of a cothread does to tables, descriptors and waits, with its events. -/
inductive Touch (state : State) (cothread : Nat) (action : Action) (next : State) :
    List Event → Prop where
  | quiet (epolls : next.epolls = state.epolls) (waits : next.waits = state.waits)
      (fds : ∀ fd, state.fds fd = some .epoll → next.fds fd = some .epoll) :
      Touch state cothread action next []
  | opened {slot : Fin epollInstances} {fd : Int} (create : action = .create1 (.listed fd))
      (free : freeSlot state = some slot)
      (valid : 0 ≤ fd) (unopened : state.fds fd = none)
      (same : next = { state with
        fds := Function.update state.fds fd (some .epoll)
        epolls := Function.update state.epolls slot { epfd := fd } }) :
      Touch state cothread action next [.opened slot]
  | set {slot : Fin epollInstances} {fd : Int} {index : Nat} {entry : Entry}
      (live : 0 ≤ (state.epolls slot).epfd)
      (placed : placeFor (state.epolls slot).table fd = some index)
      (own : entry.fd = fd) (active : entry.active = true) (armed : entry.armed = true)
      (same : next = state.setTable slot ((state.epolls slot).table.set index entry)) :
      Touch state cothread action next [.set slot index entry]
  | removed {slot : Fin epollInstances} {index : Nat} (live : 0 ≤ (state.epolls slot).epfd)
      (same : next = state.setTable slot ((state.epolls slot).table.modify index fun entry =>
        { entry with active := false })) :
      Touch state cothread action next [.removed slot index]
  | called {slot : Fin epollInstances} {maxevents : Nat} {readiness : Entry → BitVec 32}
      {waits : Nat → Option Wait} (idle : state.waits cothread = none)
      (live : 0 ≤ (state.epolls slot).epfd)
      (parks : waits = state.waits ∨
        waits = Function.update state.waits cothread (some { slot, maxevents }))
      (same : next = { (epollScan state slot maxevents readiness).1 with waits }) :
      Touch state cothread action next
        (scanEvents state cothread slot maxevents readiness ++ [.called cothread slot])
  | resumed {wait : Wait} {readiness : Entry → BitVec 32}
      (parked : state.waits cothread = some wait)
      (same : next = { (epollScan state wait.slot wait.maxevents readiness).1 with
        waits := Function.update state.waits cothread none }) :
      Touch state cothread action next
        (scanEvents state cothread wait.slot wait.maxevents readiness)
  | closed {fd : Int} (opened : state.fds fd = some .epoll) (same : next = epollClose state fd) :
      Touch state cothread action next
        (((List.finRange epollInstances).filter fun slot =>
          (state.epolls slot).epfd = fd).map .closed)

theorem live_of_epollTableOf {epfd : Int} (found : epollTableOf state epfd = some slot) :
    (state.epolls slot).epfd = epfd ∧ 0 ≤ (state.epolls slot).epfd := by
  have chosen := List.find?_some found
  rw [Bool.and_eq_true, beq_iff_eq, decide_eq_true_iff] at chosen
  exact ⟨chosen.1, chosen.1 ▸ chosen.2⟩

theorem setTable_self (state : State) (slot : Fin epollInstances) :
    state.setTable slot (state.epolls slot).table = state := by
  rw [State.setTable, Function.update_eq_self]

theorem Touch.refl (state : State) (cothread : Nat) (action : Action) :
    Touch state cothread action state [] :=
  .quiet rfl rfl fun _ opened => opened

theorem touch_create1 {answer : FdAnswer} (fits : answer.Fits state.fds) :
    Touch state cothread (.create1 answer) (sysEpollCreate1 state answer).1
      (createEvents state answer) := by
  unfold sysEpollCreate1 createEvents
  cases free : freeSlot state with
  | none => exact .refl state cothread _
  | some slot =>
      cases answer with
      | full => exact .refl state cothread _
      | unlisted fd =>
          have same : runtimeFdClose state.fds fd = state.fds := runtimeFdClose_of_none fits.2
          simp only [runtimeFdAllocOps, same]
          exact .refl state cothread _
      | listed fd => exact .opened rfl free fits.1 fits.2 rfl

/-- What `EPOLL_CTL_ADD` and `EPOLL_CTL_MOD` do with an event. -/
def registered (state : State) (slot : Fin epollInstances) (fd : Int) (event : EpollEvent)
    (sock : Option Int) : State × Except FdErrno Unit :=
  if state.fds fd = none then (state, .error .EBADF)
  else
    match tableSet (state.epolls slot).table fd event.events event.data sock with
    | (table, .noSpace) => (state.setTable slot table, .error .ENOSPC)
    | (table, .ok) => (state.setTable slot table, .ok ())

theorem touch_registered (live : 0 ≤ (state.epolls slot).epfd) (fd : Int) (event : EpollEvent)
    (sock : Option Int) {action : Action} :
    Touch state cothread action (registered state slot fd event sock).1
      (if state.fds fd = none then []
        else ((placeFor (state.epolls slot).table fd).map fun index =>
          .set slot index (newEntry fd event.events event.data sock)).toList) := by
  unfold registered
  split
  · exact .refl state cothread _
  · rw [tableSet]
    cases placed : placeFor (state.epolls slot).table fd with
    | none =>
        simp only [setTable_self]
        exact .refl state cothread _
    | some index => exact .set live placed rfl rfl rfl rfl

theorem registered_noSpace {fd : Int} {event : EpollEvent} {sock : Option Int}
    (failed : (registered state slot fd event sock).2 = .error .ENOSPC) :
    (∀ entry ∈ (state.epolls slot).table, entry.active = true ∧ entry.fd ≠ fd) ∧
      (registered state slot fd event sock).1 = state := by
  unfold registered at failed ⊢
  split at failed
  · cases failed
  next opened =>
    obtain ⟨full, same⟩ := tableSet_noSpace_iff (state.epolls slot).table fd event.events
      event.data sock
    rw [if_neg opened]
    split at failed
    next table result =>
      rw [result] at full same
      obtain ⟨active, absent⟩ := full.mp rfl
      have unchanged : table = (state.epolls slot).table := same rfl
      refine ⟨fun entry member => ⟨active entry member, absent entry member⟩, ?_⟩
      change state.setTable slot table = state
      rw [unchanged, setTable_self]
    · cases failed

theorem touch_ctl (call : Ctl) {action : Action} :
    Touch state cothread action (sysEpollCtl state call).1 (ctlEvents state call) := by
  obtain ⟨epfd, op, fd, event, sock⟩ := call
  unfold sysEpollCtl ctlEvents
  cases found : epollTableOf state epfd with
  | none => exact .refl state cothread _
  | some slot =>
      obtain ⟨-, live⟩ := live_of_epollTableOf found
      cases op with
      | add | mod =>
          cases event with
          | none => exact .refl state cothread _
          | some event => exact touch_registered live fd event sock
      | del =>
          have removes : Touch state cothread action
              (state.setTable slot (tableRemove (state.epolls slot).table fd))
              ((findEntry (state.epolls slot).table fd).map fun index =>
                .removed slot index).toList := by
            rw [tableRemove]
            cases findEntry (state.epolls slot).table fd with
            | none =>
                simp only [setTable_self]
                exact .refl state cothread _
            | some index => exact .removed live rfl
          cases event <;> exact removes
      | other => cases event <;> exact .refl state cothread _

theorem touch_pwait (call : Pwait) (idle : state.waits cothread = none) {action : Action} :
    Touch state cothread action (sysEpollPwait state cothread call).1
      (pwaitEvents state cothread call) := by
  unfold sysEpollPwait pwaitEvents
  cases called : pwaitSlot state call with
  | error errno => exact .refl state cothread _
  | ok slot =>
      have live : 0 ≤ (state.epolls slot).epfd := by
        unfold pwaitSlot at called
        split at called
        · cases called
        · split at called
          · cases called
          next found =>
            cases called
            exact (live_of_epollTableOf found).2
      simp only
      split
      · exact .called idle live (.inr rfl) rfl
      · exact .called idle live (.inl rfl) rfl

theorem step_touch {action : Action} (stepped : step state cothread action = some next) :
    Touch state cothread action next (events state cothread action) := by
  unfold step at stepped
  unfold events
  split at stepped
  next answer waits =>
    split at stepped
    next fits =>
      cases stepped
      simp only [waits]
      exact touch_create1 fits
    · cases stepped
  next call waits =>
    cases stepped
    simp only [waits]
    exact touch_ctl call
  next call waits =>
    cases stepped
    simp only [waits]
    exact touch_pwait call waits
  next fd waits =>
    simp only [waits]
    obtain ⟨ops, opened, closed⟩ := Option.map_eq_some_iff.mp stepped
    unfold closeEvents
    cases ops with
    | epoll =>
        rw [if_pos opened]
        exact .closed opened closed.symm
    | other =>
        have apart : state.fds fd ≠ some .epoll := by
          rw [opened]
          nofun
        rw [if_neg apart]
        subst closed
        refine .quiet rfl rfl fun other held => ?_
        have differs : other ≠ fd := fun same => apart (same ▸ held)
        exact (Function.update_of_ne differs ..).trans held
  next fd waits =>
    split at stepped
    next fits =>
      cases stepped
      simp only [waits]
      refine .quiet rfl rfl fun other held => ?_
      have differs : other ≠ fd := by
        rintro rfl
        rw [fits.2] at held
        cases held
      exact (Function.update_of_ne differs ..).trans held
    · cases stepped
  next wait readiness waits =>
    cases stepped
    simp only [waits]
    exact .resumed waits rfl
  · cases stepped

/-! ## What holds in every run -/

/-- An active entry is as it was last registered, and a one-shot is silent once reported. -/
structure Cell (past : List Event) (slot : Fin epollInstances) (index : Nat) (entry : Entry) :
    Prop where
  set : lastTouch past slot index = some (.set slot index { entry with armed := true })
  oneshot : entry.events &&& epollOneshot ≠ 0 →
    reportsSince past slot index = if entry.armed then 0 else 1
  level : entry.events &&& epollOneshot = 0 → entry.armed = true

/-- Of every report so far, with the events before it. -/
def EachReport (holds : List Event → Nat → Fin epollInstances → Nat → Report → Prop)
    (past : List Event) : Prop :=
  ∀ newer older cothread slot index report,
    past = newer ++ .reported cothread slot index report :: older →
      holds older cothread slot index report

/-- Every report was of a registration that stood. -/
def Due : List Event → Prop :=
  EachReport fun older _ slot index report => Registered older slot index report

structure Inv (state : State) (past : List Event) : Prop where
  owner : ∀ slot, 0 ≤ (state.epolls slot).epfd →
    state.fds (state.epolls slot).epfd = some .epoll
  distinct : ∀ first second, 0 ≤ (state.epolls first).epfd →
    (state.epolls first).epfd = (state.epolls second).epfd → first = second
  unique : ∀ slot, Unique (state.epolls slot).table
  free : ∀ slot, (state.epolls slot).epfd < 0 →
    ∀ entry ∈ (state.epolls slot).table, entry.active = false
  cell : ∀ slot index entry, (state.epolls slot).table[index]? = some entry →
    entry.active = true → Cell past slot index entry
  due : Due past

theorem Cell.append {events : List Event} {index : Nat} {entry : Entry}
    (cell : Cell past slot index entry)
    (apart : ∀ event ∈ events,
      event.touches slot index = false ∧ event.reports slot index = false) :
    Cell (events ++ past) slot index entry := by
  obtain ⟨touch, count⟩ := past_append past apart
  exact ⟨by rw [touch, cell.set], by rw [count]; exact cell.oneshot, cell.level⟩

theorem Cell.registered {index : Nat} {entry : Entry} {readiness : Entry → BitVec 32}
    (cell : Cell past slot index entry) (ready : Ready readiness entry = true) :
    Registered past slot index (reportOf readiness entry) := by
  obtain ⟨-, armed, some'⟩ := ready_iff.mp ready
  refine ⟨_, cell.set, rfl, some', ?_, fun oneshot => ?_⟩
  · simp only [reportOf, conditions]
    rw [BitVec.and_assoc, BitVec.and_self]
  · rw [cell.oneshot oneshot, if_pos armed]

section

variable {holds : List Event → Nat → Fin epollInstances → Nat → Report → Prop}

theorem EachReport.cons {event : Event} (each : EachReport holds past)
    (reported : ∀ cothread slot index report, event = .reported cothread slot index report →
      holds past cothread slot index report) : EachReport holds (event :: past) := by
  intro newer older cothread slot index report split
  cases newer with
  | nil =>
      obtain ⟨rfl, rfl⟩ := List.cons.inj split
      exact reported cothread slot index report rfl
  | cons head newer => exact each newer older cothread slot index report (List.cons.inj split).2

theorem EachReport.append_reports {readiness : Entry → BitVec 32} {hits : List (Entry × Nat)}
    (each : EachReport holds past)
    (reported : ∀ before hit after, hits = before ++ hit :: after →
      holds (reportEvents readiness cothread slot before ++ past) cothread slot hit.2
        (reportOf readiness hit.1)) :
    EachReport holds (reportEvents readiness cothread slot hits ++ past) := by
  induction hits using List.reverseRecOn with
  | nil => exact each
  | append_singleton hits hit ih =>
      rw [reportEvents_concat, List.cons_append]
      refine (ih fun before earlier after split =>
        reported before earlier (after ++ [hit]) (by rw [split]; simp)).cons ?_
      rintro _ _ _ _ ⟨⟩
      exact reported hits hit [] rfl

end

theorem Due.append_reports {readiness : Entry → BitVec 32} {hits : List (Entry × Nat)}
    (due : Due past) (once : (hits.map Prod.snd).Nodup)
    (registered : ∀ hit ∈ hits, Registered past slot hit.2 (reportOf readiness hit.1)) :
    Due (reportEvents readiness cothread slot hits ++ past) := by
  refine EachReport.append_reports due fun before hit after split => ?_
  subst split
  obtain ⟨entry, set, data, some', asked, first⟩ :=
    (registered hit (List.mem_append_right _ List.mem_cons_self)).entry
  obtain ⟨touch, -, count⟩ := past_reports readiness cothread slot before past slot hit.2 cothread
  have unreported : (before.map Prod.snd).count hit.2 = 0 := by
    rw [List.map_append, List.map_cons, List.nodup_append] at once
    exact List.count_eq_zero_of_not_mem fun member =>
      once.2.2 hit.2 member hit.2 List.mem_cons_self rfl
  refine ⟨entry, by rw [touch, set], data, some', asked, fun oneshot => ?_⟩
  rw [count, if_pos rfl, unreported, first oneshot]

/-! ### Tables -/

theorem setTable_epolls (state : State) (slot : Fin epollInstances) (table : Table) :
    (state.setTable slot table).epolls =
      Function.update state.epolls slot { state.epolls slot with table } := rfl

@[simp] theorem setTable_epfd (state : State) (slot other : Fin epollInstances) (table : Table) :
    ((state.setTable slot table).epolls other).epfd = (state.epolls other).epfd := by
  by_cases same : other = slot
  · subst same
    rw [setTable_epolls, Function.update_self]
  · rw [setTable_epolls, Function.update_of_ne same]

theorem setTable_table (state : State) (slot : Fin epollInstances) (table : Table) :
    ((state.setTable slot table).epolls slot).table = table := by
  rw [setTable_epolls, Function.update_self]

theorem setTable_table_of_ne {other : Fin epollInstances} (apart : other ≠ slot) (table : Table) :
    ((state.setTable slot table).epolls other).table = (state.epolls other).table := by
  rw [setTable_epolls, Function.update_of_ne apart]

/-- A change of one table, told by events that are not about the others. -/
theorem Inv.setTable {events : List Event} {table : Table} (inv : Inv state past)
    (unique : Unique table)
    (free : (state.epolls slot).epfd < 0 → ∀ entry ∈ table, entry.active = false)
    (cell : ∀ index entry, table[index]? = some entry → entry.active = true →
      Cell (events ++ past) slot index entry)
    (others : ∀ other index, other ≠ slot → ∀ event ∈ events,
      event.touches other index = false ∧ event.reports other index = false)
    (due : Due (events ++ past)) : Inv (state.setTable slot table) (events ++ past) where
  owner other valid := by
    rw [setTable_epfd] at valid ⊢
    exact inv.owner other valid
  distinct first second valid same := by
    rw [setTable_epfd] at valid same
    rw [setTable_epfd] at same
    exact inv.distinct first second valid same
  unique other := by
    by_cases same : other = slot
    · subst same
      rwa [setTable_table]
    · rw [setTable_table_of_ne same]
      exact inv.unique other
  free other closed := by
    rw [setTable_epfd] at closed
    by_cases same : other = slot
    · subst same
      rw [setTable_table]
      exact free closed
    · rw [setTable_table_of_ne same]
      exact inv.free other closed
  cell other index entry held active := by
    by_cases same : other = slot
    · subst same
      rw [setTable_table] at held
      exact cell index entry held active
    · rw [setTable_table_of_ne same] at held
      exact (inv.cell other index entry held active).append (others other index same)
  due := due

theorem spent_of_oneshot {entry : Entry} (oneshot : entry.events &&& epollOneshot ≠ 0) :
    spent entry = { entry with armed := false } := if_pos oneshot

theorem spent_of_level {entry : Entry} (level : entry.events &&& epollOneshot = 0) :
    spent entry = entry := if_neg fun oneshot => oneshot level

@[simp] theorem spent_active (entry : Entry) : (spent entry).active = entry.active := by
  unfold spent
  split <;> rfl

@[simp] theorem spent_fd (entry : Entry) : (spent entry).fd = entry.fd := by
  unfold spent
  split <;> rfl

theorem getElem?_scanned {entry : Entry} {maxevents : Nat}
    (held : (tableScan readiness maxevents table).1[index]? = some entry) :
    ∃ was, table[index]? = some was ∧ entry.active = was.active ∧ entry.fd = was.fd ∧
      (((was, index) ∈ readyFrom readiness maxevents table 0 ∧ entry = spent was) ∨
        (index ∉ (readyFrom readiness maxevents table 0).map Prod.snd ∧ entry = was)) := by
  rw [getElem?_tableScan readiness maxevents table 0 index, Option.map_eq_some_iff] at held
  obtain ⟨was, there, same⟩ := held
  rw [Nat.zero_add] at same
  by_cases hit : (was, index) ∈ readyFrom readiness maxevents table 0
  · rw [if_pos hit] at same
    subst same
    exact ⟨was, there, spent_active was, spent_fd was, .inl ⟨hit, rfl⟩⟩
  · rw [if_neg hit] at same
    subst same
    refine ⟨was, there, rfl, rfl, .inr ⟨fun numbered => hit ?_, rfl⟩⟩
    obtain ⟨⟨other, place⟩, member, rfl⟩ := List.mem_map.mp numbered
    have found := (mem_readyFrom member).2.1
    rw [Nat.sub_zero] at found
    cases there.symm.trans found
    exact member

/-- What a scan leaves of the tables. -/
theorem Inv.scanned (inv : Inv state past) (cothread : Nat) (slot : Fin epollInstances)
    (maxevents : Nat) (readiness : Entry → BitVec 32) :
    Inv (epollScan state slot maxevents readiness).1
      (scanEvents state cothread slot maxevents readiness ++ past) := by
  have once := readyFrom_nodup readiness maxevents (state.epolls slot).table 0
  refine inv.setTable ?_ ?_ ?_ ?_ ?_
  · refine (inv.unique slot).of_map fun place entry held active => ?_
    obtain ⟨was, there, sameActive, sameFd, -⟩ := getElem?_scanned held
    exact ⟨was, there, sameActive ▸ active, sameFd.symm⟩
  · intro closed entry member
    obtain ⟨place, held⟩ := List.mem_iff_getElem?.mp member
    obtain ⟨was, there, sameActive, -⟩ := getElem?_scanned held
    rw [sameActive]
    exact inv.free slot closed was (List.mem_of_getElem? there)
  · intro index entry held active
    obtain ⟨was, there, sameActive, -, left⟩ := getElem?_scanned held
    obtain ⟨set, oneshot, level⟩ := inv.cell slot index was there (sameActive ▸ active)
    obtain ⟨touch, -, count⟩ := past_reports readiness cothread slot
      (readyFrom readiness maxevents (state.epolls slot).table 0) past slot index cothread
    simp only [if_true] at touch count
    rcases left with ⟨hit, rfl⟩ | ⟨missed, rfl⟩
    · have armed := (ready_iff.mp (mem_readyFrom hit).2.2).2.1
      have counted := List.count_eq_one_of_mem once (List.mem_map_of_mem hit)
      by_cases single : was.events &&& epollOneshot = 0
      · rw [spent_of_level single]
        exact ⟨touch.trans set, fun both => absurd single both, level⟩
      · rw [spent_of_oneshot single]
        refine ⟨touch.trans set, fun _ => ?_, fun both => absurd both single⟩
        rw [scanEvents, count, counted, oneshot single, if_pos armed]
        rfl
    · have counted := List.count_eq_zero_of_not_mem missed
      refine ⟨touch.trans set, fun single => ?_, level⟩
      rw [scanEvents, count, counted, Nat.add_zero]
      exact oneshot single
  · intro other place apart event member
    obtain ⟨hit, -, rfl⟩ := List.mem_map.mp (List.mem_reverse.mp member)
    exact ⟨rfl, by simp [Event.reports, apart]⟩
  · refine inv.due.append_reports once fun hit member => ?_
    obtain ⟨-, there, ready⟩ := mem_readyFrom member
    exact (inv.cell slot hit.2 hit.1 there (ready_iff.mp ready).1).registered ready

theorem inactive_fresh (epfd : Int) :
    ∀ entry ∈ ({ epfd } : Instance).table, entry.active = false :=
  fun _ member => by rw [List.eq_of_mem_replicate member]

theorem Unique.of_inactive (inactive : ∀ entry ∈ table, entry.active = false) : Unique table := by
  intro first second entry other held _ active
  rw [inactive entry (List.mem_of_getElem? held)] at active
  cases active

theorem Inv.opened {fd : Int} (inv : Inv state past) (valid : 0 ≤ fd)
    (unopened : state.fds fd = none) :
    Inv { state with
        fds := Function.update state.fds fd (some .epoll)
        epolls := Function.update state.epolls slot { epfd := fd } }
      (.opened slot :: past) := by
  -- No instance has a descriptor that is not open.
  have apart (other : Fin epollInstances) (live : 0 ≤ (state.epolls other).epfd) :
      (state.epolls other).epfd ≠ fd := fun same => by
    have opened := inv.owner other live
    rw [same, unopened] at opened
    cases opened
  have here : Function.update state.epolls slot { epfd := fd } slot = { epfd := fd } :=
    Function.update_self ..
  have there {other : Fin epollInstances} (same : other ≠ slot) :
      Function.update state.epolls slot { epfd := fd } other = state.epolls other :=
    Function.update_of_ne same ..
  refine ⟨fun other live => ?_, fun first second live same => ?_, fun other => ?_,
    fun other closed => ?_, fun other index entry held active => ?_, ?_⟩
  · by_cases same : other = slot
    · subst same
      simp only [here, Function.update_self]
    · simp only [there same] at live ⊢
      rw [Function.update_of_ne (apart other live)]
      exact inv.owner other live
  · by_cases atFirst : first = slot <;> by_cases atSecond : second = slot
    · exact atFirst.trans atSecond.symm
    · subst atFirst
      simp only [here, there atSecond] at live same
      exact absurd same.symm (apart second (same ▸ valid))
    · subst atSecond
      simp only [here, there atFirst] at live same
      exact absurd same (apart first live)
    · simp only [there atFirst, there atSecond] at live same
      exact inv.distinct first second live same
  · by_cases same : other = slot
    · subst same
      simp only [here]
      exact .of_inactive (inactive_fresh fd)
    · simp only [there same]
      exact inv.unique other
  · by_cases same : other = slot
    · subst same
      simp only [here] at closed
      omega
    · simp only [there same] at closed ⊢
      exact inv.free other closed
  · by_cases same : other = slot
    · subst same
      simp only [here] at held
      rw [inactive_fresh fd entry (List.mem_of_getElem? held)] at active
      cases active
    · simp only [there same] at held
      have quiet : ∀ event ∈ [Event.opened slot],
          event.touches other index = false ∧ event.reports other index = false := by
        intro event member
        cases List.mem_singleton.mp member
        exact ⟨beq_eq_false_iff_ne.mpr same, rfl⟩
      exact (inv.cell other index entry held active).append quiet
  · exact EachReport.cons inv.due nofun

theorem Inv.closed (inv : Inv state past) (fd : Int) :
    Inv (epollClose state fd)
      (((List.finRange epollInstances).filter fun slot =>
        (state.epolls slot).epfd = fd).map .closed ++ past) := by
  have here {slot : Fin epollInstances} (same : (state.epolls slot).epfd = fd) :
      (epollClose state fd).epolls slot = {} := if_pos same
  have there {slot : Fin epollInstances} (same : (state.epolls slot).epfd ≠ fd) :
      (epollClose state fd).epolls slot = state.epolls slot := if_neg same
  have kept {slot : Fin epollInstances} (live : 0 ≤ ((epollClose state fd).epolls slot).epfd) :
      (state.epolls slot).epfd ≠ fd := fun same => by
    rw [here same] at live
    exact absurd live (by decide)
  refine ⟨fun slot live => ?_, fun first second live same => ?_, fun slot => ?_,
    fun slot closed => ?_, fun slot index entry held active => ?_, ?_⟩
  · have apart := kept live
    rw [there apart] at live ⊢
    exact (Function.update_of_ne apart ..).trans (inv.owner slot live)
  · have other := kept (same ▸ live)
    have apart := kept live
    rw [there apart] at live same
    rw [there other] at same
    exact inv.distinct first second live same
  · by_cases same : (state.epolls slot).epfd = fd
    · rw [here same]
      exact .of_inactive (inactive_fresh _)
    · rw [there same]
      exact inv.unique slot
  · by_cases same : (state.epolls slot).epfd = fd
    · rw [here same]
      exact inactive_fresh _
    · rw [there same] at closed ⊢
      exact inv.free slot closed
  · by_cases same : (state.epolls slot).epfd = fd
    · rw [here same] at held
      rw [inactive_fresh _ entry (List.mem_of_getElem? held)] at active
      cases active
    · rw [there same] at held
      refine (inv.cell slot index entry held active).append fun event member => ?_
      obtain ⟨other, chosen, rfl⟩ := List.mem_map.mp member
      have named := of_decide_eq_true (List.mem_filter.mp chosen).2
      exact ⟨beq_eq_false_iff_ne.mpr fun equal => same (equal ▸ named), rfl⟩
  · generalize (List.finRange epollInstances).filter _ = slots
    induction slots with
    | nil => exact inv.due
    | cons slot slots ih => exact EachReport.cons ih nofun

theorem Inv.waits (inv : Inv state past) (waits : Nat → Option Wait) :
    Inv { state with waits } past :=
  ⟨inv.owner, inv.distinct, inv.unique, inv.free, inv.cell, inv.due⟩

theorem Inv.registered {fd : Int} {entry : Entry} (inv : Inv state past)
    (live : 0 ≤ (state.epolls slot).epfd)
    (placed : placeFor (state.epolls slot).table fd = some index) (own : entry.fd = fd)
    (armed : entry.armed = true) :
    Inv (state.setTable slot ((state.epolls slot).table.set index entry))
      ([.set slot index entry] ++ past) := by
  refine inv.setTable ((inv.unique slot).set placed own) (fun closed => by omega)
    (fun place other held active => ?_) (fun other place apart event member => ?_)
    (EachReport.cons inv.due nofun)
  · rw [List.getElem?_set] at held
    by_cases same : index = place
    · rw [if_pos same] at held
      split at held
      · cases held
        have touched : (Event.set slot index entry).touches slot place = true := by
          simp [Event.touches, same]
        rw [List.singleton_append]
        refine ⟨?_, fun _ => ?_, fun _ => armed⟩
        · rw [lastTouch_cons, if_pos touched, same, ← armed]
        · rw [reportsSince_of_touches touched, if_pos armed]
      · cases held
    · rw [if_neg same] at held
      have quiet : ∀ event ∈ [Event.set slot index entry],
          event.touches slot place = false ∧ event.reports slot place = false := by
        intro event member
        cases List.mem_singleton.mp member
        exact ⟨by simp [Event.touches, Ne.symm same], rfl⟩
      exact (inv.cell slot place other held active).append quiet
  · cases List.mem_singleton.mp member
    exact ⟨by simp [Event.touches, apart], rfl⟩

theorem Inv.removed (inv : Inv state past) (live : 0 ≤ (state.epolls slot).epfd) :
    Inv (state.setTable slot ((state.epolls slot).table.modify index fun entry =>
        { entry with active := false }))
      ([.removed slot index] ++ past) := by
  have kept (place : Nat) (entry : Entry)
      (held : ((state.epolls slot).table.modify index fun entry =>
        { entry with active := false })[place]? = some entry) (active : entry.active = true) :
      index ≠ place ∧ (state.epolls slot).table[place]? = some entry := by
    rw [List.getElem?_modify] at held
    obtain ⟨was, there, same⟩ := Option.map_eq_some_iff.mp held
    by_cases here : index = place
    · rw [if_pos here] at same
      subst same
      cases active
    · rw [if_neg here] at same
      exact ⟨here, same ▸ there⟩
  refine inv.setTable ((inv.unique slot).of_map fun place entry held active => ?_)
    (fun closed => by omega) (fun place other held active => ?_)
    (fun other place apart event member => ?_) (EachReport.cons inv.due nofun)
  · exact ⟨entry, (kept place entry held active).2, active, rfl⟩
  · obtain ⟨differs, held⟩ := kept place other held active
    have quiet : ∀ event ∈ [Event.removed slot index],
        event.touches slot place = false ∧ event.reports slot place = false := by
      intro event member
      cases List.mem_singleton.mp member
      exact ⟨by simp [Event.touches, Ne.symm differs], rfl⟩
    exact (inv.cell slot place other held active).append quiet
  · cases List.mem_singleton.mp member
    exact ⟨by simp [Event.touches, apart], rfl⟩

theorem Inv.called (inv : Inv state past) (cothread : Nat) (slot : Fin epollInstances) :
    Inv state (.called cothread slot :: past) := by
  refine ⟨inv.owner, inv.distinct, inv.unique, inv.free, fun other index entry held active => ?_,
    EachReport.cons inv.due nofun⟩
  have quiet : ∀ event ∈ [Event.called cothread slot],
      event.touches other index = false ∧ event.reports other index = false := by
    intro event member
    cases List.mem_singleton.mp member
    exact ⟨rfl, rfl⟩
  exact (inv.cell other index entry held active).append quiet

theorem Inv.touch {events : List Event} {action : Action} (inv : Inv state past)
    (touched : Touch state cothread action next events) : Inv next (events ++ past) := by
  cases touched with
  | quiet epolls waits fds =>
      refine ⟨?_, ?_, ?_, ?_, ?_, inv.due⟩ <;> rw [epolls]
      · exact fun slot live => fds _ (inv.owner slot live)
      · exact inv.distinct
      · exact inv.unique
      · exact inv.free
      · exact inv.cell
  | opened create free valid unopened same =>
      subst same
      exact inv.opened valid unopened
  | set live placed own active armed same =>
      subst same
      exact inv.registered live placed own armed
  | removed live same =>
      subst same
      exact inv.removed live
  | @called slot maxevents readiness waits idle live parks same =>
      subst same
      rw [List.append_assoc, List.singleton_append]
      exact ((inv.called cothread slot).scanned cothread slot maxevents readiness).waits waits
  | @resumed wait readiness parked same =>
      subst same
      exact (inv.scanned cothread wait.slot wait.maxevents readiness).waits _
  | closed opened same =>
      subst same
      exact inv.closed _

theorem Inv.boot : Inv boot [] where
  owner _ live := absurd (show (0 : Int) ≤ -1 from live) (by decide)
  distinct _ _ live := absurd (show (0 : Int) ≤ -1 from live) (by decide)
  unique _ := .of_inactive (inactive_fresh (-1))
  free _ _ := inactive_fresh (-1)
  cell slot index entry held active := by
    rw [inactive_fresh (-1) entry (List.mem_of_getElem? held)] at active
    cases active
  due newer _ _ _ _ _ split := by cases newer <;> cases split

theorem Inv.run {steps : List (Nat × Action)} (inv : Inv state past)
    (ran : run state steps = some next) : Inv next (history state past steps) := by
  induction steps generalizing state past with
  | nil =>
      cases ran
      exact inv
  | cons first rest ih =>
      obtain ⟨cothread, action⟩ := first
      obtain ⟨middle, stepped, ran⟩ := Option.bind_eq_some_iff.mp ran
      rw [history, stepped]
      exact ih (inv.touch (step_touch stepped)) ran

/-! ## Whose registrations a wait reports -/

/-- The step opens no instance in a slot that a parked `pwait` points into. -/
def Undisturbed (state : State) : Action → Prop
  | .create1 (.listed _) =>
      ∀ cothread wait, state.waits cothread = some wait → freeSlot state ≠ some wait.slot
  | _ => True

/-- Every step of a run is undisturbing where it is taken. -/
def AllUndisturbed : State → List (Nat × Action) → Prop
  | _, [] => True
  | state, (cothread, action) :: rest =>
      Undisturbed state action ∧
        ∀ next, step state cothread action = some next → AllUndisturbed next rest

def OwnReports : List Event → Prop :=
  EachReport fun older cothread slot _ _ => Own older cothread slot

/-- A parked wait points into the instance it was called on, unless that is closed. -/
def Held (state : State) (past : List Event) : Prop :=
  ∀ cothread wait, state.waits cothread = some wait →
    Own past cothread wait.slot ∨ (state.epolls wait.slot).epfd < 0

theorem Own.cons_iff {event : Event} (apart : event.recalls cothread slot = false) :
    Own (event :: past) cothread slot ↔ Own past cothread slot := by
  rw [Own, lastCall_cons, apart, if_neg Bool.false_ne_true, Own]

theorem Own.called (past : List Event) (cothread : Nat) (slot : Fin epollInstances) :
    Own (.called cothread slot :: past) cothread slot := by
  have recalls : (Event.called cothread slot).recalls cothread slot = true :=
    beq_self_eq_true cothread
  rw [Own, lastCall_cons, if_pos recalls]

theorem Own.scanned {readiness : Entry → BitVec 32} {maxevents : Nat} {caller : Nat}
    {other : Fin epollInstances} :
    Own (scanEvents state cothread slot maxevents readiness ++ past) caller other ↔
      Own past caller other := by
  rw [Own, Own, scanEvents, (past_reports readiness cothread slot _ past other 0 caller).2.1]

theorem OwnReports.scanned {readiness : Entry → BitVec 32} {maxevents : Nat}
    (own : OwnReports past)
    (held : Own past cothread slot ∨ ∀ entry ∈ (state.epolls slot).table, entry.active = false) :
    OwnReports (scanEvents state cothread slot maxevents readiness ++ past) := by
  refine EachReport.append_reports own fun before hit after split => ?_
  rcases held with held | inactive
  · rwa [Own, (past_reports readiness cothread slot before past slot 0 cothread).2.1]
  · have member : hit ∈ readyFrom readiness maxevents (state.epolls slot).table 0 := by
      rw [split]
      exact List.mem_append_right _ List.mem_cons_self
    obtain ⟨-, there, ready⟩ := mem_readyFrom member
    have active := (ready_iff.mp ready).1
    rw [inactive hit.1 (List.mem_of_getElem? there)] at active
    cases active

/-- Events that recall no parked pointer, and a step that leaves the waits and every instance
in its slot. -/
theorem Held.append {events : List Event} (held : Held state past)
    (waits : ∀ cothread wait, next.waits cothread = some wait → state.waits cothread = some wait ∧
      ((state.epolls wait.slot).epfd < 0 → (next.epolls wait.slot).epfd < 0) ∧
      ((next.epolls wait.slot).epfd < 0 ∨
        ∀ event ∈ events, event.recalls cothread wait.slot = false)) :
    Held next (events ++ past) := by
  intro cothread wait parked
  obtain ⟨was, closed, quiet⟩ := waits cothread wait parked
  rcases quiet with free | quiet
  · exact .inr free
  · refine (held cothread wait was).imp (fun own => ?_) closed
    induction events with
    | nil => exact own
    | cons event events ih =>
        obtain ⟨apart, rest⟩ := List.forall_mem_cons.mp quiet
        exact (Own.cons_iff apart).mpr (ih (fun cothread wait parked =>
          have ⟨was, closed, quiet⟩ := waits cothread wait parked
          ⟨was, closed, quiet.imp id fun quiet event member =>
            quiet event (List.mem_cons_of_mem _ member)⟩) rest)

theorem scanned_epfd (state : State) (slot other : Fin epollInstances) (maxevents : Nat)
    (readiness : Entry → BitVec 32) :
    ((epollScan state slot maxevents readiness).1.epolls other).epfd =
      (state.epolls other).epfd :=
  setTable_epfd state slot other _

theorem recalls_report {readiness : Entry → BitVec 32} {maxevents caller : Nat}
    {other : Fin epollInstances} {event : Event}
    (member : event ∈ scanEvents state cothread slot maxevents readiness) :
    event.recalls caller other = false := by
  obtain ⟨hit, -, rfl⟩ := List.mem_map.mp (List.mem_reverse.mp member)
  rfl

theorem Held.touch {events : List Event} {action : Action} (inv : Inv state past)
    (held : Held state past) (own : OwnReports past) (undisturbed : Undisturbed state action)
    (touched : Touch state cothread action next events) :
    Held next (events ++ past) ∧ OwnReports (events ++ past) := by
  cases touched with
  | quiet epolls waits fds =>
      refine ⟨held.append fun caller wait parked => ?_, own⟩
      rw [waits] at parked
      rw [epolls]
      exact ⟨parked, id, .inr nofun⟩
  | @opened slot fd create free valid unopened same =>
      subst same create
      refine ⟨held.append fun caller wait parked => ?_, EachReport.cons own nofun⟩
      have apart : wait.slot ≠ slot := fun same => undisturbed caller wait parked (same ▸ free)
      simp only [Function.update_of_ne apart]
      refine ⟨parked, id, .inr fun event member => ?_⟩
      cases List.mem_singleton.mp member
      exact beq_eq_false_iff_ne.mpr apart
  | set live placed own' active armed same | removed live same =>
      subst same
      refine ⟨held.append fun caller wait parked => ?_, EachReport.cons own nofun⟩
      rw [setTable_epfd]
      refine ⟨parked, id, .inr fun event member => ?_⟩
      cases List.mem_singleton.mp member
      rfl
  | @called slot maxevents readiness waits idle live parks same =>
      subst same
      rw [List.append_assoc, List.singleton_append]
      have called : OwnReports (.called cothread slot :: past) := EachReport.cons own nofun
      refine ⟨fun caller wait waiting => ?_,
        called.scanned (.inl (Own.called past cothread slot))⟩
      rw [scanned_epfd, Own.scanned]
      have other (apart : caller ≠ cothread) (was : state.waits caller = some wait) :
          Own (.called cothread slot :: past) caller wait.slot ∨
            (state.epolls wait.slot).epfd < 0 := by
        have quiet : (Event.called cothread slot).recalls caller wait.slot = false :=
          beq_eq_false_iff_ne.mpr apart
        exact (held caller wait was).imp (Own.cons_iff quiet).mpr id
      rcases parks with rfl | rfl
      · exact other (fun same => nomatch (same ▸ waiting).symm.trans idle) waiting
      · by_cases same : caller = cothread
        · subst same
          cases (Function.update_self ..).symm.trans waiting
          exact .inl (Own.called past caller slot)
        · exact other same ((Function.update_of_ne same ..).symm.trans waiting)
  | @resumed wait readiness parked same =>
      subst same
      refine ⟨held.append fun caller other waiting => ?_,
        own.scanned ((held cothread wait parked).imp id (inv.free wait.slot))⟩
      rw [scanned_epfd]
      rcases eq_or_ne caller cothread with rfl | apart
      · cases (Function.update_self ..).symm.trans waiting
      · exact ⟨(Function.update_of_ne apart ..).symm.trans waiting, id,
          .inr fun event member => recalls_report member⟩
  | @closed fd opened same =>
      subst same
      refine ⟨held.append fun caller wait parked => ?_, ?_⟩
      · by_cases named : (state.epolls wait.slot).epfd = fd
        · have free : ((epollClose state fd).epolls wait.slot).epfd < 0 := by
            rw [show (epollClose state fd).epolls wait.slot = {} from if_pos named]
            decide
          exact ⟨parked, fun _ => free, .inl free⟩
        · have kept : (epollClose state fd).epolls wait.slot = state.epolls wait.slot :=
            if_neg named
          rw [kept]
          refine ⟨parked, id, .inr fun event member => ?_⟩
          obtain ⟨other, chosen, rfl⟩ := List.mem_map.mp member
          have closes := of_decide_eq_true (List.mem_filter.mp chosen).2
          exact beq_eq_false_iff_ne.mpr fun equal => named (equal ▸ closes)
      · generalize (List.finRange epollInstances).filter _ = slots
        induction slots with
        | nil => exact own
        | cons slot slots ih => exact EachReport.cons ih nofun

theorem OwnReports.run {steps : List (Nat × Action)} (inv : Inv state past)
    (held : Held state past) (own : OwnReports past) (undisturbed : AllUndisturbed state steps)
    (ran : run state steps = some next) : OwnReports (history state past steps) := by
  induction steps generalizing state past with
  | nil =>
      cases ran
      exact own
  | cons first rest ih =>
      obtain ⟨cothread, action⟩ := first
      obtain ⟨middle, stepped, ran⟩ := Option.bind_eq_some_iff.mp ran
      obtain ⟨clear, rest'⟩ := undisturbed
      have touched := step_touch stepped
      obtain ⟨held', own'⟩ := held.touch inv own clear touched
      rw [history, stepped]
      exact ih (inv.touch touched) held' own' (rest' middle stepped) ran

/-! ## Runs -/

/-- What any run of the calls keeps, whatever is ready when. -/
structure Sound (state : State) (past : List Event) : Prop where
  unique : ∀ slot, Unique (state.epolls slot).table
  distinct : ∀ first second, 0 ≤ (state.epolls first).epfd →
    (state.epolls first).epfd = (state.epolls second).epfd → first = second
  full : ∀ (call : Ctl) (slot : Fin epollInstances), epollTableOf state call.epfd = some slot →
    (sysEpollCtl state call).2 = .error .ENOSPC →
      (∀ entry ∈ (state.epolls slot).table, entry.active = true ∧ entry.fd ≠ call.fd) ∧
        (sysEpollCtl state call).1 = state
  scan : ∀ slot maxevents readiness,
    (epollScan state slot maxevents readiness).2 =
      (((state.epolls slot).table.filter (Ready readiness)).take maxevents).map
        (reportOf readiness)
  told : ∀ slot maxevents readiness,
    (epollScan state slot maxevents readiness).2 =
      (readyFrom readiness maxevents (state.epolls slot).table 0).map fun hit =>
        reportOf readiness hit.1
  reports : Due past
  silent : ∀ slot (index : Nat) (entry : Entry), (state.epolls slot).table[index]? = some entry →
    entry.active = true → entry.armed = false →
      entry.events &&& epollOneshot ≠ 0 ∧ reportsSince past slot index = 1

theorem sysEpollCtl_noSpace {call : Ctl} (found : epollTableOf state call.epfd = some slot)
    (failed : (sysEpollCtl state call).2 = .error .ENOSPC) :
    (∀ entry ∈ (state.epolls slot).table, entry.active = true ∧ entry.fd ≠ call.fd) ∧
      (sysEpollCtl state call).1 = state := by
  obtain ⟨epfd, op, fd, event, sock⟩ := call
  unfold sysEpollCtl at failed ⊢
  simp only [found] at failed ⊢
  cases op with
  | add | mod =>
      cases event with
      | none => cases failed
      | some event => exact registered_noSpace failed
  | del | other => cases event <;> cases failed

theorem Inv.sound (inv : Inv state past) : Sound state past where
  unique := inv.unique
  distinct := inv.distinct
  full _ _ := sysEpollCtl_noSpace
  scan slot maxevents readiness := tableScan_reports readiness maxevents (state.epolls slot).table
  told slot maxevents readiness :=
    reports_eq_readyFrom readiness maxevents (state.epolls slot).table 0
  reports := inv.due
  silent slot index entry held active silent := by
    have cell := inv.cell slot index entry held active
    have oneshot : entry.events &&& epollOneshot ≠ 0 := fun level => by
      rw [cell.level level] at silent
      cases silent
    exact ⟨oneshot, by rw [cell.oneshot oneshot, silent]; rfl⟩

/-- Every run keeps the tables and their one-shots sound, and while no slot is opened under a
parked wait, every report goes to a wait that was called on the instance it is of. -/
theorem run_epoll {steps : List (Nat × Action)} (ran : run boot steps = some state) :
    Sound state (history boot [] steps) ∧
      (AllUndisturbed boot steps → OwnReports (history boot [] steps)) :=
  ⟨(Inv.boot.run ran).sound, fun undisturbed =>
    OwnReports.run .boot (fun _ _ => nofun) (fun newer _ _ _ _ _ split => by
      cases newer <;> cases split) undisturbed ran⟩

def nothingReady : Entry → BitVec 32 := fun _ => 0
def allReadable : Entry → BitVec 32 := fun _ => epollIn

def addReadable (epfd fd : Int) (data : BitVec 64) : Action :=
  .ctl { epfd, op := .add, fd, event := some { events := epollIn, data }, sock := none }

def waitOnce (epfd : Int) (readiness : Entry → BitVec 32) : Action :=
  .pwait { epfd, events := true, maxevents := 1, timeout := -1, readiness }

/-- A wait parks, its descriptor is closed, and a second instance takes the slot. -/
def staleWait : List (Nat × Action) :=
  [(1, .open 3), (1, .open 4), (1, .create1 (.listed 5)), (1, addReadable 5 3 30),
    (1, waitOnce 5 nothingReady), (2, .close 5), (2, .create1 (.listed 5)),
    (2, addReadable 5 4 40), (1, .resume allReadable)]

/-- Its events before the last step. -/
def stalePast : List Event :=
  [.set 0 0 (newEntry 4 epollIn 40 none), .opened 0, .closed 0, .called 1 0,
    .set 0 0 (newEntry 3 epollIn 30 none), .opened 0]

/-- The first wait reports the registration of the second instance. -/
theorem stale_wait_reports_other :
    (run boot staleWait).isSome = true ∧ ¬OwnReports (history boot [] staleWait) := by
  have told : history boot [] staleWait =
      .reported 1 0 0 { events := epollIn, data := 40 } :: stalePast := by rfl
  refine ⟨by rfl, fun own => ?_⟩
  have recalled : lastCall stalePast 1 0 = some (.called 1 0) := own [] stalePast 1 0 0 _ told
  exact absurd recalled (by decide)

/-- A wait that parks and comes back to its own registration. -/
def ownWait : List (Nat × Action) :=
  [(1, .open 3), (1, .create1 (.listed 5)), (1, addReadable 5 3 30), (1, waitOnce 5 nothingReady),
    (1, .resume allReadable)]

theorem run_epoll_parked :
    ∃ state, run boot ownWait = some state ∧ Sound state (history boot [] ownWait) ∧
      OwnReports (history boot [] ownWait) := by
  obtain ⟨state, ran⟩ : ∃ state, run boot ownWait = some state := ⟨_, rfl⟩
  obtain ⟨sound, own⟩ := run_epoll ran
  -- Nobody waits when the one instance is opened.
  have undisturbed : AllUndisturbed boot ownWait :=
    ⟨trivial, fun _ first => by
      cases first
      exact ⟨fun _ _ => nofun, fun _ _ => ⟨trivial, fun _ _ => ⟨trivial, fun _ _ =>
        ⟨trivial, fun _ _ => trivial⟩⟩⟩⟩⟩
  exact ⟨state, ran, sound, own undisturbed⟩

end

end Chrysopolis.Beam.Epoll
