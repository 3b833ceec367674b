import Chrysopolis.Abi.ChecksProperties
import Chrysopolis.Support.Ring

/-! Decoding a status page. The decoder checks the page and returns the rows its
ring still has, oldest first; the check follows from facts about single fields. -/

set_option autoImplicit false

namespace Chrysopolis.Abi

open Chrysopolis.Support

/-- An event row as the decoder reads it. -/
structure WireEvent where
  ticks : Nat
  kind : Nat
  child : Nat
  flags : Nat
  detail : Nat
  a : Nat
  b : Nat
  deriving DecidableEq, Repr

def RootEvent.wire (event : RootEvent) : WireEvent :=
  { ticks := event.ticks.toNat
    kind := event.kind.tag
    child := event.child.toNat
    flags := event.flags.toNat
    detail := event.detail.toNat
    a := event.a.toNat
    b := event.b.toNat }

def eventAt (page : Memory) (slot : Fin eventCount) : WireEvent :=
  { ticks := statusLayout.read page (.event slot .ticks)
    kind := statusLayout.read page (.event slot .kind)
    child := statusLayout.read page (.event slot .child)
    flags := statusLayout.read page (.event slot .flags)
    detail := statusLayout.read page (.event slot .detail)
    a := statusLayout.read page (.event slot .a)
    b := statusLayout.read page (.event slot .b) }

/-- The published rows, oldest first. -/
def liveEvents (page : Memory) : List WireEvent :=
  (RootStatusPage.events.slots page).map fun slot => eventAt page (eventSlot slot)

/-- `decode_root_status_page`: check, then the published rows. -/
def decodeRootStatusPage (page : Memory) (length : Nat) : Except AbiReject (List WireEvent) :=
  match checkRootStatusPage page length with
  | .ok => .ok (liveEvents page)
  | reject => .error reject

/-! ### What the check needs -/

/-- Flag words within `limit` whose second register needs the first. -/
structure FlagsOk (limit flags : Nat) : Prop where
  atMost : flags ≤ limit
  ordered : flags &&& faultMr1Valid.toNat = 0 ∨
    flags &&& faultMr0Valid.toNat = faultMr0Valid.toNat

structure StatusRowOk (page : Memory) (child : ChildIndex) : Prop where
  state : statusLayout.read page (.child child .state) ∈ RootStatusPage.childStates
  desired : statusLayout.read page (.child child .desired) ∈ RootStatusPage.desiredStates
  flags : FlagsOk (RootStatusPage.faultWords ||| downIntervalOpen.toNat)
    (statusLayout.read page (.child child .flags))
  reserved : statusLayout.read page (.child child .reserved) = 0
  unset : statusLayout.read page (.child child .state) = 0 →
    page.allZero (childrenAt + child.val * childStatusSize) childStatusSize = true

/-- A declared, nonzero detail where the kind asks for one. -/
def DetailOk (event : WireEvent) (kind : RootEventKind) (enumeration : List Nat) : Prop :=
  event.kind = kind.tag → event.detail ≠ 0 ∧ event.detail ∈ enumeration

/-- A row event names a present row, any other the no-child sentinel. -/
inductive EventTarget (page : Memory) (event : WireEvent) : Prop where
  | none (global : event.kind ∈ RootStatusPage.globalEventKinds)
      (sentinel : event.child = rootEventNoChild.toNat)
  | row (child : ChildIndex) (about : event.kind ∉ RootStatusPage.globalEventKinds)
      (target : event.child = child.val)
      (present : statusLayout.read page (.child child .state) ≠ 0)

structure StatusEventOk (page : Memory) (event : WireEvent) : Prop where
  set : event.kind ≠ 0
  kind : event.kind ∈ RootStatusPage.eventKinds
  giveup : DetailOk event .giveup RootStatusPage.giveupReasons
  control : DetailOk event .control RootStatusPage.controlKinds
  specReject : DetailOk event .specReject RootStatusPage.specRejects
  flags : FlagsOk RootStatusPage.faultWords event.flags
  faultOnly : event.flags = 0 ∨ event.kind = RootEventKind.fault.tag
  target : EventTarget page event

structure StatusPageOk (page : Memory) : Prop where
  magic : statusLayout.read page (.header .magic) = magicStatus
  version : statusLayout.read page (.header .abiVersion) = abiVersion
  published : statusLayout.read page (.header .seq) ≠ 0
  even : statusLayout.read page (.header .seq) % 2 = 0
  reserved : statusLayout.read page (.header .reserved0) = 0
  tail : page.allZero statusTailAt (statusPageSize - statusTailAt) = true
  childCount : statusLayout.read page (.header .childCount) = childCount
  bank : statusLayout.read page (.header .appliedBank) ≤ 1
  rows : ∀ child, StatusRowOk page child
  events : ∀ slot ∈ RootStatusPage.events.slots page,
    StatusEventOk page (eventAt page (eventSlot slot))
  dropped : statusLayout.read page (.header .eventDropped) =
    statusLayout.read page (.header .eventHead) - eventCount

/-- A rule over the rows holds when it holds of every child. -/
theorem rows_holds {page : Memory} {selected : Nat} {reject : AbiReject} {check : Check}
    (each : ∀ child : ChildIndex,
      check.holds page (childrenAt + child.val * childStatusSize) = true) :
    (Rule.mk reject (.rows RootStatusPage.rows) check).holds page selected = true := by
  simp only [Rule.holds, List.all_eq_true, List.mem_range]
  intro row known
  exact each ⟨row, known⟩

/-- A rule over the ring holds when it holds of every slot in use. -/
theorem window_holds {page : Memory} {selected : Nat} {reject : AbiReject} {check : Check}
    (each : ∀ slot ∈ RootStatusPage.events.slots page,
      check.holds page (eventsAt + (eventSlot slot).val * eventSize) = true) :
    (Rule.mk reject (.window RootStatusPage.events) check).holds page selected = true := by
  simp only [Rule.holds, List.all_eq_true]
  intro slot live
  have inRing : slot % eventCount = slot := by
    obtain ⟨number, _, _, rfl⟩ := Ring.mem_window live
    exact Nat.mod_mod _ _
  have holds := each slot live
  simp only [eventSlot, inRing] at holds
  exact holds

/-- A field that reads zero is zero bytes. -/
theorem allZero_of_load {page : Memory} {address width : Nat}
    (zero : page.load address width = 0) : page.allZero address width = true := by
  induction width generalizing address with
  | zero => rfl
  | succ width ih =>
      simp only [Memory.load] at zero
      have byte : (page address).toNat = 0 := by omega
      have head : page address = 0 := UInt8.toNat_inj.mp byte
      have tail : page.load (address + 1) width = 0 := by omega
      simp [Memory.allZero, head, ih tail]

theorem StatusEventOk.detail {page : Memory} {slot : Nat} {kind : RootEventKind}
    {enumeration : List Nat} (ok : DetailOk (eventAt page (eventSlot slot)) kind enumeration) :
    (RootStatusPage.detailMember kind enumeration).holds page
      (eventsAt + (eventSlot slot).val * eventSize) = true := by
  by_cases same : (eventAt page (eventSlot slot)).kind = kind.tag
  · obtain ⟨set, member⟩ := ok same
    simp only [RootStatusPage.detailMember, Check.holds, Member.holds, Bool.or_eq_true]
    refine .inr ?_
    simp only [Bool.and_eq_true, Bool.not_eq_true', List.contains_iff_mem, Bool.true_and,
      beq_eq_false_iff_ne]
    exact ⟨set, member⟩
  · simp only [RootStatusPage.detailMember, Check.holds, Bool.or_eq_true, bne_iff_ne]
    exact .inl same

theorem EventTarget.holds {page : Memory} {slot : Nat}
    (target : EventTarget page (eventAt page (eventSlot slot))) :
    (Check.eventChild (RootStatusPage.event .kind) (RootStatusPage.event .child)
      rootEventNoChild.toNat RootStatusPage.globalEventKinds RootStatusPage.rows
      (RootStatusPage.row .state)).holds page
      (eventsAt + (eventSlot slot).val * eventSize) = true := by
  simp only [Check.holds, List.contains_iff_mem]
  change (if (eventAt page (eventSlot slot)).kind ∈ RootStatusPage.globalEventKinds then
      (eventAt page (eventSlot slot)).child == rootEventNoChild.toNat
    else
      decide ((eventAt page (eventSlot slot)).child < childCount) &&
        page.load (childrenAt + (eventAt page (eventSlot slot)).child * childStatusSize) 1 != 0) =
    true
  cases target with
  | none global sentinel =>
      rw [if_pos global, beq_iff_eq]
      exact sentinel
  | row child about target present =>
      rw [if_neg about, Bool.and_eq_true, decide_eq_true_eq, bne_iff_ne, target]
      exact ⟨child.isLt, present⟩

theorem FlagsOk.holds {page : Memory} {base limit : Nat} {int : IntAt}
    (flags : FlagsOk limit (page.load (base + int.offset) int.width)) :
    (Check.implies int faultMr1Valid.toNat faultMr0Valid.toNat).holds page base = true := by
  simp only [Check.holds, Bool.or_eq_true, beq_iff_eq]
  exact flags.ordered

/-- A page of well-formed fields passes the check. -/
theorem checkRootStatusPage_ok {page : Memory} (ok : StatusPageOk page) :
    checkRootStatusPage page statusPageSize = .ok := by
  simp only [checkRootStatusPage, Checker.verdict, ne_eq, not_true_eq_false, if_false]
  rw [firstReject_ok (by decide)]
  simp only [RootStatusPage.rules, List.forall_mem_cons, List.not_mem_nil, false_imp_iff,
    implies_true, and_true]
  refine ⟨?_, ?_, ?_, ?_, ?_, ?_, ?_, ?_, ?_, ?_, ?_, ?_, ?_, ?_, ?_, ?_, ?_, ?_, ?_, ?_, ?_, ?_⟩
  · exact beq_iff_eq.mpr ok.magic
  · exact beq_iff_eq.mpr ok.version
  · change (statusLayout.read page (.header .seq) != 0 &&
      statusLayout.read page (.header .seq) % 2 == 0) = true
    exact Bool.and_eq_true_iff.mpr ⟨bne_iff_ne.mpr ok.published, beq_iff_eq.mpr ok.even⟩
  · exact allZero_of_load ok.reserved
  · exact rows_holds fun child => allZero_of_load (ok.rows child).reserved
  · exact ok.tail
  · exact rows_holds fun child => List.contains_iff_mem.mpr (ok.rows child).state
  · exact rows_holds fun child => List.contains_iff_mem.mpr (ok.rows child).desired
  · refine window_holds fun slot live => ?_
    have event := ok.events slot live
    simp only [Check.holds, Member.holds, Bool.and_eq_true, Bool.not_eq_true', Bool.true_and,
      beq_eq_false_iff_ne, List.contains_iff_mem]
    exact ⟨event.set, event.kind⟩
  · exact window_holds fun slot live => StatusEventOk.detail (ok.events slot live).giveup
  · exact window_holds fun slot live => StatusEventOk.detail (ok.events slot live).control
  · exact window_holds fun slot live => StatusEventOk.detail (ok.events slot live).specReject
  · exact beq_iff_eq.mpr ok.childCount
  · exact decide_eq_true ok.bank
  · exact rows_holds fun child => decide_eq_true (ok.rows child).flags.atMost
  · exact rows_holds fun child => (ok.rows child).flags.holds
  · refine rows_holds fun child => ?_
    by_cases unset : statusLayout.read page (.child child .state) = 0
    · exact Bool.or_eq_true_iff.mpr (.inr ((ok.rows child).unset unset))
    · exact Bool.or_eq_true_iff.mpr (.inl (bne_iff_ne.mpr unset))
  · exact window_holds fun slot live => decide_eq_true (ok.events slot live).flags.atMost
  · exact window_holds fun slot live => (ok.events slot live).flags.holds
  · refine window_holds fun slot live => ?_
    simp only [Check.holds, Bool.or_eq_true, beq_iff_eq]
    exact (ok.events slot live).faultOnly
  · exact window_holds fun slot live => (ok.events slot live).target.holds
  · have dropped := ok.dropped
    simp only [Rule.holds, Check.holds, beq_iff_eq]
    change statusLayout.read page (.header .eventDropped) =
      if statusLayout.read page (.header .eventHead) > eventCount then
        statusLayout.read page (.header .eventHead) - eventCount else 0
    split_ifs <;> omega

end Chrysopolis.Abi
