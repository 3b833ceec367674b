import Chrysopolis.Root.Publication
import Chrysopolis.Root.StatusProperties

/-! Every page Root publishes is well formed and complete. The moves of the status
writer keep one relation between the events published so far, the writer's state
and the page, and the relation is more than the generated check asks for. -/

set_option autoImplicit false

namespace Chrysopolis.Root

open Chrysopolis.Abi
open Chrysopolis.Support

/-- An event the ring may hold: the boot event, or one about a present child. -/
inductive RingEvent (state : RootStatusState) (event : RootEvent) : Prop where
  | boot (kind : event.kind = .boot) (about : event.child = rootEventNoChild)
      (flags : event.flags = 0)
  | callback (child : RootChild) (known : present state child = true)
      (ok : EventOk child event)

/-- The columns of a present row the check looks at. -/
structure RowOk (page : Memory) (child : RootChild) : Prop where
  state : statusLayout.read page (.child child .state) ∈
    [RootChildWireState.live.tag, RootChildWireState.gone.tag]
  desired : statusLayout.read page (.child child .desired) ∈ RootStatusPage.desiredStates
  flags : FlagsOk (RootStatusPage.faultWords ||| downIntervalOpen.toNat)
    (statusLayout.read page (.child child .flags))
  reserved : statusLayout.read page (.child child .reserved) = 0

def rowZero (page : Memory) (child : RootChild) : Bool :=
  page.allZero (childrenAt + child.val * childStatusSize) childStatusSize

/-- The page holds what was published, and the writer's state matches it. -/
structure PageOk (published : List RootEvent) (state : RootStatusState) (page : Memory) :
    Prop where
  magic : statusLayout.read page (.header .magic) = magicStatus
  version : statusLayout.read page (.header .abiVersion) = abiVersion
  childCount : statusLayout.read page (.header .childCount) = childCount
  seq : statusLayout.read page (.header .seq) = state.seq.toNat
  even : state.seq.toNat % 2 = 0
  positive : state.seq.toNat ≠ 0
  reserved : statusLayout.read page (.header .reserved0) = 0
  tail : page.allZero statusTailAt (statusPageSize - statusTailAt) = true
  bank : statusLayout.read page (.header .appliedBank) ≤ 1
  rows : ∀ child, present state child = true → RowOk page child
  absent : ∀ child, present state child = false → rowZero page child = true
  head : statusLayout.read page (.header .eventHead) = published.length
  count : state.eventHead.toNat = published.length
  dropped : statusLayout.read page (.header .eventDropped) = published.length - eventCount
  ring : Ring.Holds eventCount (fun slot event => eventAt page (eventSlot slot) = event.wire)
    published
  events : ∀ event ∈ published, RingEvent state event
  observed : ∀ child, FaultFlags (state.observations child).faultFlags
  applied : state.appliedBank ≤ 1

/-! ### What the relation gives a reader -/

theorem rowZero_read {page : Memory} {child : RootChild} (zero : rowZero page child = true)
    (field : RootChildStatusField) :
    statusLayout.read page (.child child field) = 0 := by
  have within : field.offset + field.width ≤ childStatusSize := by cases field <;> decide
  apply Memory.load_eq_zero_of_allZero
  rw [Memory.allZero_iff]
  intro position lower upper
  have span : statusLayout.address (.child child field) =
      childrenAt + child.val * childStatusSize + field.offset := rfl
  have width : statusLayout.width (.child child field) = field.width := rfl
  exact Memory.allZero_iff.mp zero position (by omega) (by omega)

theorem FaultFlags.ok {flags : UInt16} (fault : FaultFlags flags) :
    FlagsOk RootStatusPage.faultWords flags.toNat := by
  rcases fault with rfl | rfl | rfl <;> exact ⟨by decide, by decide⟩

/-- The tags an event's detail is drawn from, where its kind asks for one. -/
def detailTags : RootEventKind → Option (List Nat)
  | .giveup => some RootStatusPage.giveupReasons
  | .control => some RootStatusPage.controlKinds
  | .specReject => some RootStatusPage.specRejects
  | _ => none

theorem kind_tag_inj {left right : RootEventKind} (same : left.tag = right.tag) :
    left = right := by
  cases left <;> cases right <;> first | rfl | exact absurd same (by decide)

/-- The event rules, for an event of a known kind. -/
theorem statusEventOk_of_kind {page : Memory} {event : RootEvent} {kind : RootEventKind}
    (is : event.kind = kind) (set : kind ≠ .unset) (flags : FaultFlags event.flags)
    (faultOnly : event.flags = 0 ∨ kind = .fault)
    (detail : ∀ tags, detailTags kind = some tags →
      event.detail.toNat ≠ 0 ∧ event.detail.toNat ∈ tags)
    (target : EventTarget page event.wire) : StatusEventOk page event.wire := by
  have tag : event.wire.kind = kind.tag := congrArg RootEventKind.tag is
  have asked : ∀ {asks : RootEventKind} {tags : List Nat}, detailTags asks = some tags →
      DetailOk event.wire asks tags := by
    intro asks tags declared same
    obtain rfl : kind = asks := kind_tag_inj (tag.symm.trans same)
    exact detail tags declared
  refine ⟨?_, ?_, asked rfl, asked rfl, asked rfl, flags.ok, ?_, target⟩
  · rw [tag]
    intro zero
    exact set (kind_tag_inj zero)
  · rw [tag]
    cases kind <;> decide
  · rcases faultOnly with zero | fault
    · exact .inl (congrArg UInt16.toNat zero)
    · exact .inr (tag.trans (congrArg RootEventKind.tag fault))

/-- Zero flags are within every limit. -/
theorem flagsOk_zero (limit : Nat) : FlagsOk limit 0 :=
  ⟨Nat.zero_le _, .inl (Nat.zero_and _)⟩

theorem eventTarget_row {page : Memory} {event : RootEvent} {child : RootChild}
    (row : statusLayout.read page (.child child .state) ≠ 0)
    (about : event.child = UInt8.ofNat child.val)
    (kind : event.kind.tag ∉ RootStatusPage.globalEventKinds) :
    EventTarget page event.wire := by
  have small : (UInt8.ofNat child.val).toNat = child.val := by
    have := child.isLt
    simp only [childCount] at this
    simp only [UInt8.toNat_ofNat']
    omega
  refine .row child kind ?_ row
  simp only [RootEvent.wire, about, small]

/-- An event of a global kind names the no-child sentinel. -/
theorem eventTarget_none {page : Memory} {event : RootEvent}
    (about : event.child = rootEventNoChild)
    (kind : event.kind.tag ∈ RootStatusPage.globalEventKinds) :
    EventTarget page event.wire :=
  .none kind (congrArg UInt8.toNat about)

/-- A ring event satisfies every rule about events. -/
theorem RingEvent.statusEventOk {state : RootStatusState} {page : Memory} {event : RootEvent}
    (rows : ∀ child, present state child = true →
      statusLayout.read page (.child child .state) ≠ 0)
    (ring : RingEvent state event) : StatusEventOk page event.wire := by
  cases ring with
  | boot kind about flags =>
      exact statusEventOk_of_kind kind (by decide) (.inl flags) (.inl flags) (by simp [detailTags])
        (eventTarget_none about (kind ▸ by decide))
  | callback child known ok =>
      have row := rows child known
      cases ok with
      | fault kind about flags =>
          exact statusEventOk_of_kind kind (by decide) flags (.inr rfl) (by simp [detailTags])
            (eventTarget_row row about (kind ▸ by decide))
      | restart kind about flags =>
          exact statusEventOk_of_kind kind (by decide) (.inl flags) (.inl flags)
            (by simp [detailTags]) (eventTarget_row row about (kind ▸ by decide))
      | giveup reason kind about flags detail set =>
          refine statusEventOk_of_kind kind (by decide) (.inl flags) (.inl flags) ?_
            (eventTarget_row row about (kind ▸ by decide))
          intro tags declared
          obtain rfl := Option.some.inj declared
          rw [detail]
          cases reason <;> first | exact absurd rfl set | decide
      | control control kind about flags detail set =>
          refine statusEventOk_of_kind kind (by decide) (.inl flags) (.inl flags) ?_
            (eventTarget_row row about (kind ▸ by decide))
          intro tags declared
          obtain rfl := Option.some.inj declared
          rw [detail]
          cases control <;> first | exact absurd rfl set | decide
      | specReject reason kind about flags detail set =>
          refine statusEventOk_of_kind kind (by decide) (.inl flags) (.inl flags) ?_
            (eventTarget_none about (kind ▸ by decide))
          intro tags declared
          obtain rfl := Option.some.inj declared
          rw [detail]
          cases reason <;> first | exact absurd rfl set | decide

theorem PageOk.row_state {published : List RootEvent} {state : RootStatusState} {page : Memory}
    (ok : PageOk published state page) {child : RootChild} (known : present state child = true) :
    statusLayout.read page (.child child .state) ≠ 0 := by
  intro zero
  have member := (ok.rows child known).state
  rw [zero] at member
  exact absurd member (by decide)

theorem PageOk.row {published : List RootEvent} {state : RootStatusState} {page : Memory}
    (ok : PageOk published state page) (child : RootChild) : StatusRowOk page child := by
  cases known : present state child with
  | true =>
      have row := ok.rows child known
      refine ⟨?_, row.desired, row.flags, row.reserved, fun unset =>
        absurd unset (ok.row_state known)⟩
      have tags : ∀ tag ∈ [RootChildWireState.live.tag, RootChildWireState.gone.tag],
          tag ∈ RootStatusPage.childStates := by decide
      exact tags _ row.state
  | false =>
      have zero := ok.absent child known
      have reads := rowZero_read zero
      constructor
      · rw [reads]
        decide
      · rw [reads]
        decide
      · rw [reads]
        exact ⟨by decide, by decide⟩
      · exact reads _
      · exact fun _ => zero

theorem PageOk.slots {published : List RootEvent} {state : RootStatusState} {page : Memory}
    (ok : PageOk published state page) :
    RootStatusPage.events.slots page = Ring.window eventCount published.length :=
  congrArg (Ring.window eventCount) ok.head

/-- The relation is more than the check asks for. -/
theorem PageOk.statusPageOk {published : List RootEvent} {state : RootStatusState}
    {page : Memory} (ok : PageOk published state page) : StatusPageOk page where
  magic := ok.magic
  version := ok.version
  published := ok.seq ▸ ok.positive
  even := ok.seq ▸ ok.even
  reserved := ok.reserved
  tail := ok.tail
  childCount := ok.childCount
  bank := ok.bank
  rows := ok.row
  events := by
    intro slot live
    rw [ok.slots] at live
    obtain ⟨event, member, holds⟩ := ok.ring.of_mem_window live
    rw [holds]
    exact (ok.events event member).statusEventOk fun _ known => ok.row_state known
  dropped := by rw [ok.dropped, ok.head]

/-- The decoder returns the last events published, oldest first. -/
theorem PageOk.liveEvents {published : List RootEvent} {state : RootStatusState}
    {page : Memory} (ok : PageOk published state page) :
    liveEvents page =
      (published.drop (published.length - min published.length eventCount)).map
        RootEvent.wire := by
  rw [Abi.liveEvents, ok.slots]
  exact ok.ring.map_window _ _ fun _ _ holds => holds

/-! ### What the moves keep -/

theorem RingEvent.congr {before : RootStatusState} (after : RootStatusState)
    (mask : after.presentMask = before.presentMask) {event : RootEvent}
    (ring : RingEvent before event) : RingEvent after event := by
  cases ring with
  | boot kind about flags => exact .boot kind about flags
  | callback child known ok => exact .callback child (by rw [present, mask]; exact known) ok

/-- A move that leaves the page alone keeps the relation with any writer state
that agrees on the counters and has sound observations. -/
theorem PageOk.writer {published : List RootEvent} {before after : RootStatusState}
    {page : Memory} (ok : PageOk published before page)
    (mask : after.presentMask = before.presentMask) (seq : after.seq = before.seq)
    (head : after.eventHead = before.eventHead)
    (observed : ∀ child, FaultFlags (after.observations child).faultFlags)
    (applied : after.appliedBank ≤ 1) : PageOk published after page where
  magic := ok.magic
  version := ok.version
  childCount := ok.childCount
  seq := by rw [seq]; exact ok.seq
  even := by rw [seq]; exact ok.even
  positive := by rw [seq]; exact ok.positive
  reserved := ok.reserved
  tail := ok.tail
  bank := ok.bank
  rows := fun child known => ok.rows child (by rw [present, ← mask]; exact known)
  absent := fun child known => ok.absent child (by rw [present, ← mask]; exact known)
  head := ok.head
  count := by rw [head]; exact ok.count
  dropped := ok.dropped
  ring := ok.ring
  events := fun event member => (ok.events event member).congr after mask
  observed := observed
  applied := applied

theorem droppedEvents_toNat (head : UInt64) :
    (droppedEvents head).toNat = head.toNat - eventCount := by
  have count : (UInt64.ofNat eventCount).toNat = eventCount := by decide
  simp only [droppedEvents]
  split_ifs with past
  · have order := UInt64.lt_iff_toNat_lt.mp past
    rw [UInt64.toNat_sub_of_le _ _ (UInt64.le_iff_toNat_le.mpr (Nat.le_of_lt order)), count]
  · have order := UInt64.le_iff_toNat_le.mp (UInt64.not_lt.mp past)
    rw [count] at order
    exact (Nat.sub_eq_zero_of_le order).symm

theorem PublishReady.room {state : RootStatusState} {child : RootChild}
    {events : List RootEvent} (ready : PublishReady state child events) :
    events.length ≤ eventCount := Nat.le_trans ready.few (by decide)

/-- The header words every publication stores. -/
theorem publishPayload_trailer (state : RootStatusState) (child : RootChild)
    (record : Option RootChildRecord) (now : UInt64) (clockValid : Bool)
    (events : List RootEvent) {field : RootStatusHeaderField}
    (trailer : field ∈ [.eventHead, .eventDropped, .beamIncarnation, .nowTicks, .cntfrq]) :
    ∃ value, (StatusField.header field, value) ∈
      publishPayload state child record now clockValid events := by
  refine ⟨payloadValue state child record now clockValid events (.header field), ?_⟩
  simp only [List.mem_cons, List.not_mem_nil, or_false] at trailer
  simp only [publishPayload, List.mem_append]
  refine .inr ?_
  rcases trailer with rfl | rfl | rfl | rfl | rfl <;> simp [headerStore, payloadValue]

theorem desired_tag_known (desired : RootDesired) (width : Nat) (byte : width = 1) :
    desired.tag % 256 ^ width ∈ RootStatusPage.desiredStates := by
  subst byte
  cases desired <;> decide

theorem rowFlags_ok {observation : RootStatusObservation}
    (fault : FaultFlags observation.faultFlags) :
    FlagsOk (RootStatusPage.faultWords ||| downIntervalOpen.toNat)
      (rowFlags observation).toNat := by
  simp only [rowFlags]
  rcases fault with flags | flags | flags <;> rw [flags] <;> cases observation.downOpen <;>
    exact ⟨by decide, by decide⟩

section Publish

variable {published events : List RootEvent} {state : RootStatusState} {page : Memory}
  {child : RootChild} (record : RootChildRecord) (now : UInt64) (clockValid : Bool)

/-- A publication leaves every present row well formed. -/
theorem publishPage_rowOk (ok : PageOk published state page)
    (ready : PublishReady state child events) {index : RootChild}
    (known : present state index = true) :
    RowOk (publishPage state page child (some record) now clockValid events) index := by
  have before := ok.rows index known
  have column : ∀ field, StatusField.child index field ≠ .header .seq :=
    fun _ same => StatusField.noConfusion same
  have reads := fun field =>
    publishPage_cases state child (some record) now clockValid page ready.room (column field)
  constructor
  · rcases reads .state with stored | kept
    · rw [stored]
      change (wireState record).tag % 256 ∈ _
      simp only [wireState]
      split_ifs <;> decide
    · rw [kept]
      exact before.state
  · rcases reads .desired with stored | kept
    · rw [stored]
      exact desired_tag_known (state.desired index) _ rfl
    · rw [kept]
      exact before.desired
  · rcases reads .flags with stored | kept
    · have small : (rowFlags (state.observations child)).toNat < 256 ^ 2 := UInt16.toNat_lt _
      rw [stored]
      change FlagsOk _ ((rowFlags (state.observations child)).toNat % 256 ^ 2)
      rw [Nat.mod_eq_of_lt small]
      exact rowFlags_ok (ok.observed child)
    · rw [kept]
      exact before.flags
  · rw [publishPage_kept state child (some record) now clockValid page ready.room (column _)]
    · exact before.reserved
    · intro target
      cases target with
      | row _ _ _ dynamic => exact dynamic (by decide)

/-- The ring holds the new events after the old ones. -/
theorem publishPage_ring (ok : PageOk published state page)
    (ready : PublishReady state child events) :
    Ring.Holds eventCount (fun slot event =>
      eventAt (publishPage state page child (some record) now clockValid events)
        (eventSlot slot) = event.wire) (published ++ events) := by
  -- A slot number already reduced names its own slot.
  have reduced : ∀ number, eventSlot (number % eventCount) = eventSlot number :=
    fun number => Fin.ext (Nat.mod_mod _ _)
  refine ok.ring.append (by decide) ?_ ?_
  · intro index bound _
    rw [reduced, ← ok.count]
    exact publishPage_new state child (some record) now clockValid page ready.room bound
  · intro slot small event others holds
    rw [publishPage_old state child (some record) now clockValid page ready.room]
    · exact holds
    · intro index new same
      apply others index new
      rw [← ok.count, ← Nat.mod_eq_of_lt small]
      exact congrArg Fin.val same

/-- The header words of a published page. -/
theorem publishPage_header (ready : PublishReady state child events)
    (field : RootStatusHeaderField)
    (trailer : field ∈ [.eventHead, .eventDropped, .beamIncarnation, .nowTicks, .cntfrq]) :
    statusLayout.read (publishPage state page child (some record) now clockValid events)
        (.header field) =
      payloadValue state child (some record) now clockValid events (.header field) := by
  have other : StatusField.header field ≠ .header .seq := by
    intro same
    rw [StatusField.header.inj same] at trailer
    exact absurd trailer (by decide)
  rw [publishPage_stored state child (some record) now clockValid page ready.room other
    (publishPayload_trailer state child (some record) now clockValid events trailer)]
  apply Nat.mod_eq_of_lt
  simp only [List.mem_cons, List.not_mem_nil, or_false] at trailer
  rcases trailer with rfl | rfl | rfl | rfl | rfl <;> exact UInt64.toNat_lt _

/-- A publication keeps the relation. -/
theorem PageOk.publish (ok : PageOk published state page)
    (checked : publishCheck state (some page) child (some record) events = .publish)
    (known : ∀ event ∈ events, EventOk child event) :
    PageOk (published ++ events) (publishedState state events)
      (publishPage state page child (some record) now clockValid events) := by
  have ready := publishCheck_ready checked
  have kept : ∀ field, field ∈ [RootStatusHeaderField.magic, .abiVersion, .childCount,
      .reserved0] →
      statusLayout.read (publishPage state page child (some record) now clockValid events)
        (.header field) = statusLayout.read page (.header field) := by
    intro field static
    apply publishPage_kept state child (some record) now clockValid page ready.room
    · intro same
      rw [StatusField.header.inj same] at static
      exact absurd static (by decide)
    · intro target
      cases target with
      | header _ dynamic =>
          simp only [List.mem_cons, List.not_mem_nil, or_false] at static
          rcases static with rfl | rfl | rfl | rfl <;> exact dynamic (by decide)
  have count : (state.eventHead + UInt64.ofNat events.length).toNat =
      (published ++ events).length := by
    rw [ready.head, ok.count, List.length_append]
  constructor
  · rw [kept _ (by decide)]
    exact ok.magic
  · rw [kept _ (by decide)]
    exact ok.version
  · rw [kept _ (by decide)]
    exact ok.childCount
  · exact publishPage_seq ..
  · rw [publishedState, ready.seq]
    have := ok.even
    omega
  · rw [publishedState, ready.seq]
    omega
  · rw [kept _ (by decide)]
    exact ok.reserved
  · rw [publishPage_tail _ _ _ _ _ _ ready.room]
    exact ok.tail
  · have other : StatusField.header .appliedBank ≠ .header .seq := by decide
    rcases publishPage_cases state child (some record) now clockValid page ready.room other with
      stored | same
    · rw [stored]
      exact Nat.le_trans (Nat.mod_le _ _) (UInt32.le_iff_toNat_le.mp ok.applied)
    · rw [same]
      exact ok.bank
  · exact fun index present => publishPage_rowOk record now clockValid ok ready present
  · intro index absent
    have unrecorded : index ≠ child := by
      rintro rfl
      exact Bool.false_ne_true (absent.symm.trans ready.known)
    have bytes := publishPage_row state child (some record) now clockValid page ready.room index
      (fun _ => unrecorded) absent
    exact bytes.trans (ok.absent index absent)
  · rw [publishPage_header record now clockValid ready .eventHead (by decide)]
    exact count
  · exact count
  · rw [publishPage_header record now clockValid ready .eventDropped (by decide)]
    simp only [payloadValue]
    rw [droppedEvents_toNat, count]
  · exact publishPage_ring record now clockValid ok ready
  · intro event member
    rcases List.mem_append.mp member with old | new
    · have mask : (publishedState state events).presentMask = state.presentMask := rfl
      exact (ok.events event old).congr _ mask
    · exact .callback child ready.known (known event new)
  · exact ok.observed
  · exact ok.applied

end Publish

/-- The relation over a page that may not be mapped. -/
def PublishedOk (published : List RootEvent) (state : RootStatusState) (page : Option Memory) :
    Prop :=
  ∀ bytes, page = some bytes → PageOk published state bytes

theorem observe_counters (state : RootStatusState) (child : RootChild)
    (change : RootStatusObservation → RootStatusObservation) :
    (observe state child change).presentMask = state.presentMask ∧
      (observe state child change).seq = state.seq ∧
      (observe state child change).eventHead = state.eventHead ∧
      (observe state child change).appliedBank = state.appliedBank := by
  simp only [observe]
  split_ifs <;> exact ⟨rfl, rfl, rfl, rfl⟩

theorem observe_faultFlags {state : RootStatusState}
    (observed : ∀ child, FaultFlags (state.observations child).faultFlags) (child : RootChild)
    {change : RootStatusObservation → RootStatusObservation}
    (flags : ∀ observation, FaultFlags observation.faultFlags →
      FaultFlags (change observation).faultFlags) (index : RootChild) :
    FaultFlags ((observe state child change).observations index).faultFlags := by
  simp only [observe]
  split_ifs
  · by_cases same : index = child
    · subst same
      simpa using flags _ (observed index)
    · simpa [Function.update_of_ne same] using observed index
  · exact observed index

/-- Every move of the status writer keeps the relation. -/
theorem PublishedOk.move {published events : List RootEvent} {state next : RootStatusState}
    {page nextPage : Option Memory} (ok : PublishedOk published state page)
    (moved : StatusMove state page events next nextPage) :
    PublishedOk (published ++ events) next nextPage := by
  intro bytes mapped
  cases moved with
  | note child change flags =>
      have before := ok bytes mapped
      obtain ⟨mask, seq, head, bank⟩ := observe_counters state child change
      rw [List.append_nil]
      exact before.writer mask seq head (observe_faultFlags before.observed child flags)
        (bank ▸ before.applied)
  | incarnate room =>
      have before := ok bytes mapped
      rw [List.append_nil]
      exact before.writer rfl rfl rfl before.observed before.applied
  | policy generation bank budget desired known =>
      have before := ok bytes mapped
      rw [List.append_nil]
      exact before.writer rfl rfl rfl before.observed known
  | publish child record now clockValid events checked known =>
      obtain rfl := Option.some.inj mapped
      exact (ok _ rfl).publish record now clockValid checked known
  | stop exhausted misused =>
      have before := ok bytes mapped
      rw [List.append_nil]
      exact before.writer rfl rfl rfl before.observed before.applied
  | report =>
      have before := ok bytes mapped
      rw [List.append_nil]
      exact before.writer rfl rfl rfl before.observed before.applied

/-! ### The first page -/

/-- Every present row and every column of the boot event is stored at init. -/
theorem initStores_header (state : RootStatusState) (stamp : UInt64)
    {field : RootStatusHeaderField}
    (first : field ∈ [.magic, .abiVersion, .childCount, .eventHead]) :
    ∃ value, (StatusField.header field, value) ∈ initStores state stamp := by
  refine ⟨initValue state stamp (.header field), ?_⟩
  simp only [List.mem_cons, List.not_mem_nil, or_false] at first
  rcases first with rfl | rfl | rfl | rfl <;> simp [initStores, headerStore, initValue]

theorem initStores_row (state : RootStatusState) (stamp : UInt64) {child : RootChild}
    (known : present state child = true) {field : RootChildStatusField}
    (first : field ∈ [.state, .desired, .effectiveBudget]) :
    ∃ value, (StatusField.child child field, value) ∈ initStores state stamp := by
  refine ⟨initValue state stamp (.child child field), ?_⟩
  simp only [initStores, List.mem_append]
  refine .inl (.inl (.inr (List.mem_flatMap.mpr ⟨child, ?_, ?_⟩)))
  · exact List.mem_filter.mpr ⟨List.mem_finRange child, known⟩
  · simp only [List.mem_cons, List.not_mem_nil, or_false] at first
    rcases first with rfl | rfl | rfl <;> simp [initValue]

theorem initStores_event (state : RootStatusState) (stamp : UInt64) (field : RootEventField) :
    ∃ value, (StatusField.event (eventSlot 0) field, value) ∈ initStores state stamp := by
  refine ⟨eventValue (bootEvent state stamp) field, ?_⟩
  simp only [initStores, List.mem_append]
  exact .inl (.inr (eventStores_mem _ _ _))

section FirstPage

variable (state : RootStatusState) (stamp : UInt64) (page : Memory)

theorem initPage_header {field : RootStatusHeaderField}
    (first : field ∈ [.magic, .abiVersion, .childCount, .eventHead]) :
    statusLayout.read (initPage state stamp page) (.header field) =
      initValue state stamp (.header field) := by
  have other : StatusField.header field ≠ .header .seq := by
    intro same
    rw [StatusField.header.inj same] at first
    exact absurd first (by decide)
  rw [initPage_stored state stamp page other (initStores_header state stamp first)]
  simp only [List.mem_cons, List.not_mem_nil, or_false] at first
  rcases first with rfl | rfl | rfl | rfl <;> rfl

theorem initPage_static {field : RootStatusHeaderField}
    (static : field ∈ [.reserved0, .appliedBank, .eventDropped, .appliedSpecGeneration]) :
    statusLayout.read (initPage state stamp page) (.header field) = 0 := by
  apply initPage_kept
  · intro same
    rw [StatusField.header.inj same] at static
    exact absurd static (by decide)
  · rintro assignment member same
    have target := (initStores_store state stamp member).1
    rw [same] at target
    cases target with
    | header _ first =>
        simp only [List.mem_cons, List.not_mem_nil, or_false] at static
        rcases static with rfl | rfl | rfl | rfl <;> exact first (by decide)

/-- Columns no store of init goes to. -/
theorem initPage_column (child : RootChild) {field : RootChildStatusField}
    (later : field ∉ [.state, .desired, .effectiveBudget, .bootTicks]) :
    statusLayout.read (initPage state stamp page) (.child child field) = 0 := by
  apply initPage_kept
  · exact fun same => StatusField.noConfusion same
  · rintro assignment member same
    have target := (initStores_store state stamp member).1
    rw [same] at target
    cases target with
    | row _ _ _ first => exact later first

theorem initPage_row {child : RootChild} (known : present state child = true) :
    RowOk (initPage state stamp page) child := by
  have column : ∀ field, StatusField.child child field ≠ .header .seq :=
    fun _ same => StatusField.noConfusion same
  constructor
  · rw [initPage_stored state stamp page (column _)
      (initStores_row state stamp known (by decide))]
    exact List.mem_cons_self
  · rw [initPage_stored state stamp page (column _)
      (initStores_row state stamp known (by decide))]
    exact desired_tag_known (state.desired child) _ rfl
  · rw [initPage_column state stamp page child (by decide)]
    exact flagsOk_zero _
  · exact initPage_column state stamp page child (by decide)

theorem initPage_event :
    eventAt (initPage state stamp page) (eventSlot 0) = (bootEvent state stamp).wire := by
  apply eventAt_of_values
  intro field
  rw [initPage_stored state stamp page (fun same => StatusField.noConfusion same)
    (initStores_event state stamp field)]
  exact Nat.mod_eq_of_lt (eventValue_lt _ (eventSlot 0) field)

theorem initPage_absent {child : RootChild} (absent : present state child = false) :
    rowZero (initPage state stamp page) child = true := by
  have bound := child.isLt
  apply initPage_zero
  · simp only [childrenAt, statusHeaderSize]
    omega
  · simp only [childrenAt, statusHeaderSize, childStatusSize, statusPageSize, childCount] at *
    omega
  · intro field target
    have elsewhere : ∀ column, field ≠ .child child column := by
      rintro column rfl
      cases target with
      | row _ _ known => exact Bool.false_ne_true (absent.symm.trans known)
    exact StatusField.outside_row child field elsewhere

theorem initPage_tail :
    (initPage state stamp page).allZero statusTailAt (statusPageSize - statusTailAt) = true := by
  apply initPage_zero
  · decide
  · decide
  · intro field _
    exact .inl field.before_tail

end FirstPage

/-- The page `root_status_init` leaves holds the boot event alone. -/
theorem rootStatusInit_ok (bytes : Option Memory) (presentMask now frequency : UInt64)
    (budget : RootChild → UInt32) :
    PublishedOk
      [bootEvent (rootStatusInit bytes presentMask now frequency budget).1
        (if frequency ≠ 0 then now else 0)]
      (rootStatusInit bytes presentMask now frequency budget).1
      (rootStatusInit bytes presentMask now frequency budget).2 := by
  cases bytes with
  | none =>
      intro page mapped
      simp [rootStatusInit] at mapped
  | some bytes =>
      intro page mapped
      obtain rfl := Option.some.inj mapped
      constructor
      · exact initPage_header _ _ _ (by decide)
      · exact initPage_header _ _ _ (by decide)
      · exact initPage_header _ _ _ (by decide)
      · exact initPage_seq ..
      · exact (rfl : (2 : UInt64).toNat % 2 = 0)
      · exact Nat.two_pos.ne'
      · exact initPage_static _ _ _ (by decide)
      · exact initPage_tail ..
      · exact (initPage_static _ _ _ (by decide)).le.trans (Nat.zero_le 1)
      · exact fun child known => initPage_row _ _ _ known
      · exact fun child absent => initPage_absent _ _ _ absent
      · exact initPage_header _ _ _ (by decide)
      · rfl
      · rw [List.length_singleton]
        exact initPage_static _ _ _ (by decide)
      · intro number bound _
        obtain rfl : number = 0 := by simpa using bound
        exact initPage_event ..
      · intro event member
        obtain rfl := List.mem_singleton.mp member
        exact .boot rfl rfl rfl
      · exact fun _ => .inl rfl
      · exact UInt32.zero_le

/-! ### Runs -/

theorem rootStatusInit_fields (bytes : Option Memory)
    (presentMask now frequency : UInt64) (budget : RootChild → UInt32) :
    (rootStatusInit bytes presentMask now frequency budget).1.frequency = frequency ∧
      (rootStatusInit bytes presentMask now frequency budget).1.presentMask = presentMask := by
  cases bytes <;> exact ⟨rfl, rfl⟩

theorem publishedOf_publication (done : Bool) (events : List RootEvent) :
    publishedOf (if done then [.published events] else []) = if done then events else [] := by
  cases done
  · rfl
  · exact List.append_nil events

/-- Root boots through `root_status_init` and publishes the boot event. -/
theorem rootInit_status (config : Config) (boot : Boot) :
    ∃ bytes now frequency budget,
      (rootInit config boot).1.statusState =
          (rootStatusInit bytes (rootPresentChildren config) now frequency budget).1 ∧
        (rootInit config boot).1.statusPage =
          (rootStatusInit bytes (rootPresentChildren config) now frequency budget).2 ∧
        publishedOf (rootInit config boot).2 =
          if (rootInit config boot).1.statusPage.isSome then
            [bootEvent (rootInit config boot).1.statusState (if frequency ≠ 0 then now else 0)]
          else [] := by
  refine ⟨_, _, _, _, rfl, rfl, ?_⟩
  simp only [rootInit, publishedOf_append, publishedOf_publication]
  rw [(rootStatusInit_fields ..).1]
  rfl

theorem rootInit_published (config : Config) (boot : Boot) :
    PublishedOk (publishedOf (rootInit config boot).2) (rootInit config boot).1.statusState
      (rootInit config boot).1.statusPage := by
  obtain ⟨bytes, now, frequency, budget, status, page, published⟩ := rootInit_status config boot
  intro memory mapped
  have booted := rootStatusInit_ok bytes (rootPresentChildren config) now frequency budget memory
    (page.symm.trans mapped)
  rw [published, if_pos (by rw [mapped]; rfl), status]
  exact booted

/-- Over every run the page holds what the run published. -/
theorem rootTrace_published (config : Config) (boot : Boot) (inputs : List RootInput) :
    PublishedOk (publishedOf (rootTrace config boot inputs))
      (rootAfter config boot inputs).statusState (rootAfter config boot inputs).statusPage := by
  apply (rootMachine config).trace_invariant
    (fun acts state => PublishedOk (publishedOf acts) state.statusState state.statusPage)
  · intro emitted state input ok
    rw [publishedOf_append]
    exact StatusRun.invariant PublishedOk (fun before moved => before.move moved) _ ok
      (rootStep_change config state input)
  · exact rootInit_published config boot

theorem StatusMove.presentMask {events : List RootEvent} {state next : RootStatusState}
    {page nextPage : Option Memory} (moved : StatusMove state page events next nextPage) :
    next.presentMask = state.presentMask := by
  cases moved with
  | note child change => exact (observe_counters state child change).1
  | _ => rfl

theorem rootAfter_presentMask (config : Config) (boot : Boot) (inputs : List RootInput) :
    (rootAfter config boot inputs).statusState.presentMask = rootPresentChildren config := by
  apply (rootMachine config).after_invariant
    (fun state => state.statusState.presentMask = rootPresentChildren config)
  · intro state input mask
    exact StatusRun.invariant (fun _ status _ => status.presentMask = rootPresentChildren config)
      (fun before moved => moved.presentMask.trans before) [] mask
      (rootStep_change config state input)
  · obtain ⟨bytes, now, frequency, budget, status, _⟩ := rootInit_status config boot
    rw [status]
    exact (rootStatusInit_fields ..).2

/-- After every run, the page Root publishes passes the generated check, rows of
absent children are zero bytes, and decoding it gives the last events published,
in order, with the count of those dropped. -/
theorem published_page_complete (config : Config) (boot : Boot) (inputs : List RootInput)
    (page : Memory) (mapped : (rootAfter config boot inputs).statusPage = some page) :
    let published := publishedOf (rootTrace config boot inputs)
    checkRootStatusPage page statusPageSize = .ok ∧
      (∀ child : RootChild, maskBit (rootPresentChildren config) child.val = false →
        rowZero page child = true) ∧
      statusLayout.read page (.header .eventHead) = published.length ∧
      decodeRootStatusPage page statusPageSize =
        .ok ((published.drop (published.length - min published.length eventCount)).map
          RootEvent.wire) ∧
      statusLayout.read page (.header .eventDropped) = published.length - eventCount := by
  intro published
  have ok := rootTrace_published config boot inputs page mapped
  have checked := checkRootStatusPage_ok ok.statusPageOk
  refine ⟨checked, ?_, ok.head, ?_, ok.dropped⟩
  · intro child absent
    apply ok.absent
    rw [present, rootAfter_presentMask]
    exact absent
  · simp only [decodeRootStatusPage, checked, ok.liveEvents]
    rfl

theorem sample_mapped :
    (rootAfter sampleConfig sampleBoot [sampleFault childBlk]).statusPage.isSome = true := by
  decide +kernel

/-- The page after one fault of the block driver. -/
theorem published_page_complete_sample :
    checkRootStatusPage
        ((rootAfter sampleConfig sampleBoot [sampleFault childBlk]).statusPage.get sample_mapped)
        statusPageSize = .ok ∧
      publishedOf (rootTrace sampleConfig sampleBoot [sampleFault childBlk]) ≠ [] :=
  ⟨(published_page_complete sampleConfig sampleBoot [sampleFault childBlk] _
    (Option.some_get sample_mapped).symm).1, by decide +kernel⟩

end Chrysopolis.Root
