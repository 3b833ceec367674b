import Chrysopolis.Abi.StatusPage
import Chrysopolis.Root.Status

/-! What one publication stores. Its payload takes every field from one table, so
the order of its stores does not matter, and each field of the page afterwards
reads the table's value or what it read before. -/

set_option autoImplicit false

namespace Chrysopolis.Root

open Chrysopolis.Abi
open Chrysopolis.Support

/-! ### The table of a payload -/

def eventValue (event : RootEvent) : RootEventField → Nat
  | .ticks => event.ticks.toNat
  | .kind => event.kind.tag
  | .child => event.child.toNat
  | .flags => event.flags.toNat
  | .detail => event.detail.toNat
  | .a => event.a.toNat
  | .b => event.b.toNat

/-- The new event a slot takes. -/
def slotEvent (head : Nat) (events : List RootEvent) (slot : Fin eventCount) :
    Option RootEvent :=
  events[(slot.val + eventCount - head % eventCount) % eventCount]?

/-- The columns a record and an observation determine. -/
def rowValue (observation : RootStatusObservation) (record : RootChildRecord) :
    RootChildStatusField → Nat
  | .state => (wireState record).tag
  | .flags => (rowFlags observation).toNat
  | .lifetimeCount => record.lifetimeCount.toNat
  | .faultLabel => observation.faultLabel.toNat
  | .faultMr0 => observation.faultMr0.toNat
  | .faultMr1 => observation.faultMr1.toNat
  | .lastFaultTicks => observation.lastFaultTicks.toNat
  | .lastRestartTicks => observation.lastRestartTicks.toNat
  | .cumulativeDownTicks => observation.cumulativeDownTicks.toNat
  | .windowCount => record.windowCount.toNat
  | _ => 0

/-- What a publication stores in each field it stores. -/
def payloadValue (state : RootStatusState) (child : RootChild) (record : Option RootChildRecord)
    (now : UInt64) (clockValid : Bool) (events : List RootEvent) : StatusField → Nat
  | .header .eventHead => (state.eventHead + UInt64.ofNat events.length).toNat
  | .header .eventDropped => (droppedEvents (state.eventHead + UInt64.ofNat events.length)).toNat
  | .header .beamIncarnation => state.beamIncarnation.toNat
  | .header .nowTicks => (if clockValid then now else 0).toNat
  | .header .cntfrq => (if clockValid then state.frequency else 0).toNat
  | .header .appliedSpecGeneration => state.appliedGeneration.toNat
  | .header .appliedBank => state.appliedBank.toNat
  | .header _ => 0
  | .child index .desired => (state.desired index).tag
  | .child index .effectiveBudget => (state.effectiveBudget index).toNat
  | .child _ field => (record.map fun record =>
      rowValue (state.observations child) record field).getD 0
  | .event slot field => ((slotEvent state.eventHead.toNat events slot).map fun event =>
      eventValue event field).getD 0

theorem slotEvent_eventSlot {head index : Nat} {events : List RootEvent}
    (room : events.length ≤ eventCount) (bound : index < events.length) :
    slotEvent head events (eventSlot (head + index)) = some events[index] := by
  have place : ((head + index) % eventCount + eventCount - head % eventCount) % eventCount =
      index := by
    simp only [eventCount] at *
    omega
  simp only [slotEvent, eventSlot, place, List.getElem?_eq_getElem bound]

theorem mem_eventStores {slot : Fin eventCount} {event : RootEvent} {assignment : StatusStore}
    (member : assignment ∈ eventStores slot event) :
    ∃ field, assignment = (.event slot field, eventValue event field) := by
  simp only [eventStores, List.mem_cons, List.not_mem_nil, or_false] at member
  rcases member with rfl | rfl | rfl | rfl | rfl | rfl | rfl <;> exact ⟨_, rfl⟩

theorem eventStores_mem (slot : Fin eventCount) (event : RootEvent) (field : RootEventField) :
    (StatusField.event slot field, eventValue event field) ∈ eventStores slot event := by
  cases field <;> simp [eventStores, eventValue]

theorem mem_ringStores {head : Nat} {events : List RootEvent} {assignment : StatusStore} :
    assignment ∈ ringStores head events ↔
      ∃ (index : Nat) (bound : index < events.length),
        assignment ∈ eventStores (eventSlot (head + index)) events[index] := by
  induction events generalizing head with
  | nil => simp [ringStores]
  | cons event events ih =>
      simp only [ringStores, List.mem_append, ih]
      constructor
      · rintro (first | ⟨index, bound, later⟩)
        · exact ⟨0, by simp, first⟩
        · refine ⟨index + 1, by simpa using bound, ?_⟩
          rw [show head + (index + 1) = head + 1 + index by omega]
          exact later
      · rintro ⟨index, bound, member⟩
        cases index with
        | zero => exact .inl member
        | succ index =>
            refine .inr ⟨index, by simpa using bound, ?_⟩
            rw [show head + 1 + index = head + (index + 1) by omega]
            exact member

/-- Where a payload stores. -/
inductive PayloadTarget (state : RootStatusState) (child : RootChild)
    (record : Option RootChildRecord) (events : List RootEvent) : StatusField → Prop where
  | header (field : RootStatusHeaderField) (dynamic : field ∉
      [.magic, .abiVersion, .childCount, .seq, .rootGeneration, .reserved0]) :
      PayloadTarget state child record events (.header field)
  | row (index : RootChild) (field : RootChildStatusField)
      (known : record.isSome ∧ index = child ∨ present state index = true)
      (dynamic : field ∉ [.bootTicks, .slotGeneration, .reserved]) :
      PayloadTarget state child record events (.child index field)
  | event (index : Nat) (field : RootEventField) (new : index < events.length) :
      PayloadTarget state child record events
        (.event (eventSlot (state.eventHead.toNat + index)) field)

section Payload

variable (state : RootStatusState) (child : RootChild) (record : Option RootChildRecord)
  (now : UInt64) (clockValid : Bool) {events : List RootEvent}

/-- Every store of a payload goes to such a field and takes the table's value. -/
theorem publishPayload_store (room : events.length ≤ eventCount) {assignment : StatusStore}
    (member : assignment ∈ publishPayload state child record now clockValid events) :
    PayloadTarget state child record events assignment.1 ∧
      assignment.2 = payloadValue state child record now clockValid events assignment.1 := by
  simp only [publishPayload, List.mem_append] at member
  rcases member with ((member | member) | member) | member
  · cases record with
    | none => simp at member
    | some record =>
        simp only [rowStores, List.mem_cons, List.not_mem_nil, or_false] at member
        rcases member with rfl | rfl | rfl | rfl | rfl | rfl | rfl | rfl | rfl | rfl | rfl | rfl <;>
          exact ⟨.row child _ (.inl ⟨rfl, rfl⟩) (by decide), rfl⟩
  · split_ifs at member with dirty
    · simp only [policyStores, headerStore, List.mem_append, List.mem_flatMap, List.mem_filter,
        List.mem_cons, List.not_mem_nil, or_false] at member
      rcases member with ⟨index, ⟨_, known⟩, rfl | rfl⟩ | rfl | rfl
      · exact ⟨.row index _ (.inr known) (by decide), rfl⟩
      · exact ⟨.row index _ (.inr known) (by decide), rfl⟩
      · exact ⟨.header _ (by decide), rfl⟩
      · exact ⟨.header _ (by decide), rfl⟩
    · simp at member
  · obtain ⟨index, bound, stored⟩ := mem_ringStores.mp member
    obtain ⟨field, rfl⟩ := mem_eventStores stored
    refine ⟨.event index field bound, ?_⟩
    simp only [payloadValue, slotEvent_eventSlot room bound, Option.map_some, Option.getD_some]
  · simp only [headerStore, List.mem_cons, List.not_mem_nil, or_false] at member
    rcases member with rfl | rfl | rfl | rfl | rfl <;> exact ⟨.header _ (by decide), rfl⟩

theorem publishPayload_values (room : events.length ≤ eventCount) :
    Layout.Values (payloadValue state child record now clockValid events)
      (publishPayload state child record now clockValid events) :=
  fun _ member => (publishPayload_store state child record now clockValid room member).2

/-! ### The page after a publication -/

/-- Storing the sequence changes no other field. -/
theorem assign_seq_read (page : Memory) (value : Nat) {field : StatusField}
    (other : field ≠ .header .seq) :
    statusLayout.read (statusLayout.assign page [headerStore .seq value]) field =
      statusLayout.read page field :=
  statusLayout.read_assign_other _ _ (by simpa [headerStore] using other.symm)

theorem publishPage_eq (page : Memory) :
    publishPage state page child record now clockValid events =
      statusLayout.assign
        (statusLayout.assign
          (statusLayout.assign page [headerStore .seq (state.seq + 1).toNat])
          (publishPayload state child record now clockValid events))
        [headerStore .seq (state.seq + 2).toNat] := by
  simp only [publishPage, Layout.assign_append]

theorem publishPage_seq (page : Memory) :
    statusLayout.read (publishPage state page child record now clockValid events)
      (.header .seq) = (state.seq + 2).toNat := by
  have agree : Layout.Agree [headerStore .seq (state.seq + 2).toNat] := by
    simp [Layout.Agree]
  have stored := statusLayout.read_assign_of_mem
    (statusLayout.assign (statusLayout.assign page [headerStore .seq (state.seq + 1).toNat])
      (publishPayload state child record now clockValid events)) agree
    (List.mem_singleton.mpr rfl)
  rw [publishPage_eq, stored]
  exact Nat.mod_eq_of_lt (state.seq + 2).toNat_lt

/-- A stored field reads the table. -/
theorem publishPage_stored (page : Memory) (room : events.length ≤ eventCount)
    {field : StatusField} (other : field ≠ .header .seq)
    (stored : ∃ value, (field, value) ∈
      publishPayload state child record now clockValid events) :
    statusLayout.read (publishPage state page child record now clockValid events) field =
      payloadValue state child record now clockValid events field %
        256 ^ statusLayout.width field := by
  rw [publishPage_eq, assign_seq_read _ _ other]
  exact statusLayout.read_assign_value _
    (publishPayload_values state child record now clockValid room) stored

/-- A field reads the table or what it read before. -/
theorem publishPage_cases (page : Memory) (room : events.length ≤ eventCount)
    {field : StatusField} (other : field ≠ .header .seq) :
    statusLayout.read (publishPage state page child record now clockValid events) field =
        payloadValue state child record now clockValid events field %
          256 ^ statusLayout.width field ∨
      statusLayout.read (publishPage state page child record now clockValid events) field =
        statusLayout.read page field := by
  rw [publishPage_eq, assign_seq_read _ _ other, ← assign_seq_read page _ other]
  exact statusLayout.read_assign_cases _
    (publishPayload_values state child record now clockValid room) field

/-- A field no store goes to reads what it read before. -/
theorem publishPage_kept (page : Memory) (room : events.length ≤ eventCount)
    {field : StatusField} (other : field ≠ .header .seq)
    (unstored : ¬ PayloadTarget state child record events field) :
    statusLayout.read (publishPage state page child record now clockValid events) field =
      statusLayout.read page field := by
  have elsewhere : ∀ assignment ∈ publishPayload state child record now clockValid events,
      assignment.1 ≠ field := by
    rintro assignment member rfl
    exact unstored (publishPayload_store state child record now clockValid room member).1
  rw [publishPage_eq, assign_seq_read _ _ other, statusLayout.read_assign_other _ _ elsewhere,
    assign_seq_read _ _ other]

/-- Bytes outside the sequence and every stored field keep their value. -/
theorem publishPage_outside (page : Memory) (room : events.length ≤ eventCount) (position : Nat)
    (outside : ∀ field, field = .header .seq ∨ PayloadTarget state child record events field →
      position < field.address ∨ field.address + field.width ≤ position) :
    publishPage state page child record now clockValid events position = page position := by
  have away : ∀ value, ∀ assignment ∈ [headerStore .seq value],
      position < statusLayout.address assignment.1 ∨
        statusLayout.address assignment.1 + statusLayout.width assignment.1 ≤ position := by
    intro value assignment member
    obtain rfl := List.mem_singleton.mp member
    exact outside _ (.inl rfl)
  rw [publishPage_eq, statusLayout.assign_other _ _ _ (away _),
    statusLayout.assign_other _ _ _ fun assignment member => outside _
      (.inr (publishPayload_store state child record now clockValid room member).1),
    statusLayout.assign_other _ _ _ (away _)]

/-- The tail is never stored to. -/
theorem publishPage_tail (page : Memory) (room : events.length ≤ eventCount) (count : Nat) :
    (publishPage state page child record now clockValid events).allZero statusTailAt count =
      page.allZero statusTailAt count := by
  apply Memory.allZero_congr
  intro position lower _
  apply publishPage_outside state child record now clockValid page room
  intro field _
  have := field.before_tail
  omega

/-- A row that is neither the child's nor a present one keeps its bytes. -/
theorem publishPage_row (page : Memory) (room : events.length ≤ eventCount) (index : RootChild)
    (unrecorded : record.isSome → index ≠ child) (absent : present state index = false) :
    (publishPage state page child record now clockValid events).allZero
        (childrenAt + index.val * childStatusSize) childStatusSize =
      page.allZero (childrenAt + index.val * childStatusSize) childStatusSize := by
  apply Memory.allZero_congr
  intro position lower upper
  apply publishPage_outside state child record now clockValid page room
  intro field stored
  have elsewhere : ∀ column, field ≠ .child index column := by
    rintro column rfl
    rcases stored with seq | target
    · exact StatusField.noConfusion seq
    · cases target with
      | row _ _ known _ =>
          rcases known with ⟨recorded, same⟩ | known
          · exact unrecorded recorded same
          · rw [absent] at known
            exact Bool.noConfusion known
  have outside := StatusField.outside_row index field elsewhere
  omega

/-- Every column of a new event is stored. -/
theorem publishPayload_event {index : Nat} (new : index < events.length)
    (field : RootEventField) :
    ∃ value, (StatusField.event (eventSlot (state.eventHead.toNat + index)) field, value) ∈
      publishPayload state child record now clockValid events := by
  refine ⟨eventValue events[index] field, ?_⟩
  simp only [publishPayload, List.mem_append]
  exact .inl (.inr (mem_ringStores.mpr ⟨index, new, eventStores_mem _ _ field⟩))

theorem eventAt_congr {left right : Memory} {slot : Fin eventCount}
    (same : ∀ field, statusLayout.read left (.event slot field) =
      statusLayout.read right (.event slot field)) : eventAt left slot = eventAt right slot := by
  simp only [eventAt, same]

theorem kind_tag_lt (kind : RootEventKind) : kind.tag < 256 ^ 1 := by
  cases kind <;> decide

/-- A column's value fits its width. -/
theorem eventValue_lt (event : RootEvent) (slot : Fin eventCount) (field : RootEventField) :
    eventValue event field < 256 ^ statusLayout.width (.event slot field) := by
  cases field with
  | ticks => exact event.ticks.toNat_lt
  | kind => exact kind_tag_lt event.kind
  | child => exact event.child.toNat_lt
  | flags => exact event.flags.toNat_lt
  | detail => exact event.detail.toNat_lt
  | a => exact event.a.toNat_lt
  | b => exact event.b.toNat_lt

/-- A slot whose columns read an event's values holds the event. -/
theorem eventAt_of_values {page : Memory} {slot : Fin eventCount} {event : RootEvent}
    (values : ∀ field, statusLayout.read page (.event slot field) = eventValue event field) :
    eventAt page slot = event.wire := by
  simp only [eventAt, values, eventValue, RootEvent.wire]

/-- A new event stands in its slot. -/
theorem publishPage_new (page : Memory) (room : events.length ≤ eventCount) {index : Nat}
    (new : index < events.length) :
    eventAt (publishPage state page child record now clockValid events)
      (eventSlot (state.eventHead.toNat + index)) = events[index].wire := by
  apply eventAt_of_values
  intro field
  rw [publishPage_stored state child record now clockValid page room
      (fun same => StatusField.noConfusion same)
      (publishPayload_event state child record now clockValid new field)]
  simp only [payloadValue, slotEvent_eventSlot room new, Option.map_some, Option.getD_some]
  exact Nat.mod_eq_of_lt (eventValue_lt _ _ _)

/-- Every other slot keeps its event. -/
theorem publishPage_old (page : Memory) (room : events.length ≤ eventCount)
    {slot : Fin eventCount}
    (old : ∀ index < events.length, eventSlot (state.eventHead.toNat + index) ≠ slot) :
    eventAt (publishPage state page child record now clockValid events) slot =
      eventAt page slot := by
  apply eventAt_congr
  intro field
  apply publishPage_kept state child record now clockValid page room
    (fun same => StatusField.noConfusion same)
  intro target
  cases target with
  | event index _ new => exact old index new rfl

end Payload

/-! ### The page after `root_status_init` -/

/-- What initialisation stores in each field it stores. -/
def initValue (state : RootStatusState) (stamp : UInt64) : StatusField → Nat
  | .header .magic => magicStatus
  | .header .abiVersion => abiVersion
  | .header .childCount => childCount
  | .header .rootGeneration => state.rootGeneration.toNat
  | .header .beamIncarnation => state.beamIncarnation.toNat
  | .header .nowTicks => stamp.toNat
  | .header .cntfrq => state.frequency.toNat
  | .header .eventHead => 1
  | .header _ => 0
  | .child _ .state => RootChildWireState.live.tag
  | .child index .desired => (state.desired index).tag
  | .child index .effectiveBudget => (state.effectiveBudget index).toNat
  | .child _ .bootTicks => stamp.toNat
  | .child _ _ => 0
  | .event _ field => eventValue (bootEvent state stamp) field

/-- Where initialisation stores. -/
inductive InitTarget (state : RootStatusState) : StatusField → Prop where
  | header (field : RootStatusHeaderField) (first : field ∉
      [.seq, .eventDropped, .appliedSpecGeneration, .appliedBank, .reserved0]) :
      InitTarget state (.header field)
  | row (index : RootChild) (field : RootChildStatusField) (known : present state index = true)
      (first : field ∈ [.state, .desired, .effectiveBudget, .bootTicks]) :
      InitTarget state (.child index field)
  | event (field : RootEventField) : InitTarget state (.event (eventSlot 0) field)

/-- The page once cleared, filled and sealed with sequence 2. -/
def initPage (state : RootStatusState) (stamp : UInt64) (page : Memory) : Memory :=
  statusLayout.assign
    (statusLayout.assign (clearPage (statusLayout.assign page [headerStore .seq 0]))
      (initStores state stamp))
    [headerStore .seq 2]

theorem initStores_store (state : RootStatusState) (stamp : UInt64) {assignment : StatusStore}
    (member : assignment ∈ initStores state stamp) :
    InitTarget state assignment.1 ∧ assignment.2 = initValue state stamp assignment.1 := by
  simp only [initStores, headerStore, List.mem_append, List.mem_flatMap, List.mem_filter,
    List.mem_cons, List.not_mem_nil, or_false] at member
  rcases member with ((member | member) | member) | member
  · rcases member with rfl | rfl | rfl | rfl | rfl | rfl | rfl <;>
      exact ⟨.header _ (by decide), rfl⟩
  · obtain ⟨index, ⟨_, known⟩, member⟩ := member
    rcases member with rfl | rfl | rfl | rfl <;> exact ⟨.row index _ known (by decide), rfl⟩
  · obtain ⟨field, rfl⟩ := mem_eventStores member
    exact ⟨.event field, rfl⟩
  · subst member
    exact ⟨.header _ (by decide), rfl⟩

theorem initStores_values (state : RootStatusState) (stamp : UInt64) :
    Layout.Values (initValue state stamp) (initStores state stamp) :=
  fun _ member => (initStores_store state stamp member).2

/-- A cleared page reads zero outside the sequence. -/
theorem clearPage_read (page : Memory) {field : StatusField} (other : field ≠ .header .seq) :
    statusLayout.read (clearPage page) field = 0 := by
  apply Memory.load_eq_zero_of_allZero
  rw [Memory.allZero_iff]
  intro position lower upper
  have inPage := field.before_tail
  have apart := statusLayout.apart field (.header .seq) other
  have cleared : position < statusPageSize ∧ ¬ (16 ≤ position ∧ position < 24) := by
    have seqAt : statusLayout.address (.header .seq) = 16 := rfl
    have seqWidth : statusLayout.width (.header .seq) = 8 := rfl
    have fieldAt : statusLayout.address field = field.address := rfl
    have fieldWidth : statusLayout.width field = field.width := rfl
    simp only [statusPageSize, statusTailAt] at *
    omega
  simp only [clearPage, if_pos cleared]

section Init

variable (state : RootStatusState) (stamp : UInt64) (page : Memory)

theorem initPage_seq : statusLayout.read (initPage state stamp page) (.header .seq) = 2 := by
  have agree : Layout.Agree [headerStore .seq 2] := by simp [Layout.Agree]
  exact statusLayout.read_assign_of_mem _ agree (List.mem_singleton.mpr rfl)

theorem initPage_stored {field : StatusField} (other : field ≠ .header .seq)
    (stored : ∃ value, (field, value) ∈ initStores state stamp) :
    statusLayout.read (initPage state stamp page) field =
      initValue state stamp field % 256 ^ statusLayout.width field := by
  rw [initPage, assign_seq_read _ _ other]
  exact statusLayout.read_assign_value _ (initStores_values state stamp) stored

theorem initPage_kept {field : StatusField} (other : field ≠ .header .seq)
    (unstored : ∀ assignment ∈ initStores state stamp, assignment.1 ≠ field) :
    statusLayout.read (initPage state stamp page) field = 0 := by
  rw [initPage, assign_seq_read _ _ other, statusLayout.read_assign_other _ _ unstored,
    clearPage_read _ other]

/-- Bytes of the page initialisation never stores to are zero. -/
theorem initPage_zero {address count : Nat} (first : 24 ≤ address)
    (inPage : address + count ≤ statusPageSize)
    (outside : ∀ field, InitTarget state field →
      field.address + field.width ≤ address ∨ address + count ≤ field.address) :
    (initPage state stamp page).allZero address count = true := by
  rw [Memory.allZero_iff]
  intro position lower upper
  rw [initPage, statusLayout.assign_other, statusLayout.assign_other]
  · have cleared : position < statusPageSize ∧ ¬ (16 ≤ position ∧ position < 24) := by omega
    simp only [clearPage, if_pos cleared]
  · intro assignment member
    have away := outside _ (initStores_store state stamp member).1
    exact away.elim (fun before => .inr (Nat.le_trans before lower))
      (fun after => .inl (Nat.lt_of_lt_of_le upper after))
  · intro assignment member
    obtain rfl := List.mem_singleton.mp member
    exact .inr (Nat.le_trans (by decide) (Nat.le_trans first lower))

end Init

end Chrysopolis.Root
