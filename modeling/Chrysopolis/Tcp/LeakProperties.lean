import Chrysopolis.Tcp.SlotProperties

/-! Socket slots do not leak exactly while no step frees a PCB under a slot that only the
PCB, or a backlog behind it, would return. -/

set_option autoImplicit false

namespace Chrysopolis.Tcp

open Chrysopolis.Support Net

/-- One slot with its PCB and its references; `pending` when a backlog has it. -/
structure SlotOk (net : Net) (id : SocketId) (pending : Prop) : Prop where
  owned : (net.sockets id).state ≠ .unallocated → (net.sockets id).state ≠ .error →
    ∃ address pcb, (net.sockets id).sockTpcb = some address ∧ net.pcbs address = some pcb ∧
      pcb.arg = some id ∧ Fits (net.sockets id).state pcb
  bare : (net.sockets id).state = .unallocated ∨ (net.sockets id).state = .error →
    (net.sockets id).sockTpcb = none
  attached : ∀ address pcb, net.pcbs address = some pcb → pcb.arg = some id →
    (net.sockets id).sockTpcb = some address
  unused : (net.sockets id).state = .unallocated ∨ (net.sockets id).state = .closing →
    net.refcount id = 0
  held : (net.sockets id).state ≠ .unallocated → (net.sockets id).state ≠ .closing →
    1 ≤ net.refcount id ∨ pending
  waiting : pending → net.refcount id = 0 ∧ ((net.sockets id).state = .connected ∨
    (net.sockets id).state = .closedByPeer ∨ (net.sockets id).state = .error)

structure Inv (net : Net) : Prop where
  slots : ∀ id, SlotOk net id (net.Pending id)
  listening : ∀ listener, net.backlog listener ≠ [] → (net.sockets listener).state = .listening
  once : ∀ listener, (net.backlog listener).Nodup
  apart : ∀ left right id, id ∈ net.backlog left → id ∈ net.backlog right → left = right

variable {net next : Net} {id : SocketId}

/-- What the slots own where every step has kept the holders. -/
theorem Own.inv (own : Own True net) : Inv net where
  slots id :=
    { owned := fun used live => by
        obtain ⟨address, pcb, owns, found, arg⟩ := (own.slots id).owned used live fun _ => trivial
        exact ⟨address, pcb, owns, found, arg,
          ((own.slots id).attached address pcb found arg).2.toFits⟩
      bare := (own.slots id).bare
      attached := fun address pcb found arg => ((own.slots id).attached address pcb found arg).1
      unused := (own.slots id).unused
      held := (own.slots id).held trivial
      waiting := (own.slots id).waiting }
  listening listener some := (own.listening listener some).resolve_right fun lost => lost.1 trivial
  once := own.once
  apart := own.apart

/-- Less is asked where the holders are not kept. -/
theorem Own.weaken (own : Own True net) (kept : Prop) : Own kept net where
  slots id :=
    { owned := fun used live _ => (own.slots id).owned used live fun _ => trivial
      bare := (own.slots id).bare
      attached := (own.slots id).attached
      unused := (own.slots id).unused
      counted := (own.slots id).counted
      held := fun _ => (own.slots id).held trivial
      waiting := (own.slots id).waiting }
  listening listener some := .inl (own.inv.listening listener some)
  once := own.once
  apart := own.apart
  expected := own.expected

/-- The invariant says that no slot leaks. -/
theorem Inv.noLeak {net : Net} (inv : Inv net) : net.NoLeak := by
  intro id used
  have ok := inv.slots id
  by_cases closing : (net.sockets id).state = .closing
  · obtain ⟨address, pcb, owns, found, arg, fits⟩ :=
      ok.owned used (by rw [closing]; decide)
    exact .inr (.inr ⟨closing, address, pcb, owns, found, arg,
      fits.receives (.inr (.inl closing))⟩)
  · rcases ok.held used closing with held | ⟨listener, member⟩
    · exact .inl held
    · refine .inr (.inl ⟨listener, inv.listening listener (List.ne_nil_of_mem member), ?_, ?_⟩)
      · exact List.count_eq_one_of_mem (inv.once listener) member
      · exact fun other also => inv.apart other listener id also member

/-- Runs whose steps keep the holders keep the invariant. -/
theorem Reaches.own (reached : Reaches Net.KeepsHolders net) : Own True net := by
  induction reached with
  | initial => exact Own.initial True
  | step _ keeps ran ih => exact ih.step ran fun _ => keeps

/-! ## Steps that leak -/

/-- An error callback on a slot that only waited for its PCB, or that others wait behind. -/
theorem Inv.leaks_of_failed (inv : Inv net) {address : Nat} {pcb : Pcb} (err : Err)
    (arg : pcb.arg = some id)
    (loses : (net.sockets id).state = .closing ∨ net.backlog id ≠ []) :
    ¬ ((net.freePcb address).socketErrFunc pcb.arg err).NoLeak := by
  rw [arg]
  generalize result : (net.freePcb address).socketErrFunc (some id) err = after
  have backlogs : ∀ listener, after.backlog listener = net.backlog listener := by
    intro listener
    by_cases same : listener = id <;> simp [← result, socketErrFunc, Net.backlog, same]
  have failed : (after.sockets id).state = .error := by simp [← result, socketErrFunc]
  have refcount : after.refcount = net.refcount := by simp [← result, socketErrFunc]
  intro noLeak
  rcases loses with closing | some
  · have ok := inv.slots id
    rcases noLeak id (by simp [failed]) with held | ⟨listener, _, one, _⟩ | ⟨state, _⟩
    · rw [refcount, ok.unused (.inr closing)] at held
      omega
    · have member : id ∈ net.backlog listener := by
        rw [← backlogs]
        exact List.count_pos_iff.mp (by omega)
      have waits := ok.waiting ⟨listener, member⟩
      simp [closing] at waits
    · rw [failed] at state
      cases state
  · obtain ⟨slot, member⟩ := List.exists_mem_of_ne_nil _ some
    have waits := (inv.slots slot).waiting ⟨id, member⟩
    have differs : slot ≠ id := by
      intro same
      rw [same, inv.listening id some] at waits
      simp at waits
    have state : (after.sockets slot).state = (net.sockets slot).state := by
      simp [← result, socketErrFunc, differs]
    rcases noLeak slot (by rw [state]; rcases waits.2 with busy | busy | busy <;> simp [busy]) with
      held | ⟨listener, listens, one, _⟩ | ⟨closing, _⟩
    · rw [refcount, waits.1] at held
      omega
    · have queued : slot ∈ net.backlog listener := by
        rw [← backlogs]
        exact List.count_pos_iff.mp (by omega)
      rw [inv.apart listener id slot queued member, failed] at listens
      cases listens
    · rw [state] at closing
      rw [closing] at waits
      simp at waits

/-- A slot that is closing without a reference and without a PCB is lost. -/
theorem leaks_of_freed {after : Net} {address : Nat}
    (closing : (after.sockets id).state = .closing) (refcount : after.refcount id = 0)
    (owns : (after.sockets id).sockTpcb = some address) (freed : after.pcbs address = none)
    (idle : ∀ listener, id ∉ after.backlog listener) : ¬ after.NoLeak := by
  intro noLeak
  rcases noLeak id (by simp [closing]) with held | ⟨listener, _, one, _⟩ | ⟨_, place, pcb, owns',
    found, _⟩
  · omega
  · exact idle listener (List.count_pos_iff.mp (by omega))
  · rw [owns] at owns'
    cases owns'
    rw [freed] at found
    cases found

/-- The last close of a connected socket whose PCB is freed at once, or of a listening one. -/
theorem Own.leaks_of_close (own : Own True net) {index : Int} (answer : Nat → Closed)
    (unseen : net.unseen index = false) (found : socketLookup index = some id)
    (last : net.refcount id = 1)
    (loses : (net.sockets id).state = .listening ∨ (net.sockets id).state = .connected ∧
      ∃ address, (net.sockets id).sockTpcb = some address ∧ answer address = .freed) :
    ¬ (net.tcpSocketClose index answer).1.NoLeak := by
  have ok := own.slots id
  have idle : ¬ net.Pending id := not_pending_of_unseen unseen found
  unfold tcpSocketClose
  rw [found]
  simp only [tcpRefRelease, last, Int.sub_self]
  rw [if_neg (by decide), if_pos trivial]
  dsimp only
  rcases loses with listens | ⟨connected, address, owns, freed⟩
  · obtain ⟨after, address, pcb, drained, _, _, listens', owns, live, arg, refcount, pending, _,
      _, closed⟩ := (@Own.unref False net id (own.weaken False) not_false).closeListening not_false
        listens answer
    rw [closed]
    apply @leaks_of_freed id _ address
    · simp
    · simp [refcount]
    · simp [owns]
    · simp
    · intro listener queued
      refine pending ⟨listener, ?_⟩
      by_cases same : listener = id <;> simpa [Net.backlog, same] using queued
  · obtain ⟨place, pcb, owns', live, arg⟩ :=
      ok.owned (by simp [connected]) (by simp [connected]) fun _ => trivial
    rw [owns] at owns'
    cases owns'
    have fits := (ok.attached address pcb live arg).2
    have plain : pcb.listening = false := by simpa [connected] using fits.listening
    unfold tcpSocketCloseInt
    simp only [setRefs_sockets, connected, tcpCloseAction, reduceCtorEq, if_false, owns,
      Option.map_some, Option.getD_some, freed]
    unfold tcpClose
    simp only [socketSetState_pcbs, setRefs_pcbs, live, Option.any_some, plain,
      Bool.false_eq_true, if_false]
    apply @leaks_of_freed id _ address
    · simp
    · simp
    · simp [owns]
    · simp
    · intro listener queued
      refine idle ⟨listener, ?_⟩
      by_cases same : listener = id <;> simpa [Net.backlog, same] using queued

/-- In a run whose steps keep the holders no slot leaks, and the first step that does not
keep them leaks one. -/
theorem noLeak_iff_keepsHolders (reached : Reaches Net.KeepsHolders net) :
    net.NoLeak ∧ ∀ event next, net.step event = some next →
      (next.NoLeak ↔ net.KeepsHolders event) := by
  have own := reached.own
  have inv := own.inv
  refine ⟨inv.noLeak, fun event next ran => ⟨fun noLeak => ?_, fun keeps => ?_⟩⟩
  · by_contra loses
    cases event with
    | close index answer =>
        simp only [Net.KeepsHolders, not_forall] at loses
        obtain ⟨id, found, last, loses⟩ := loses
        simp only [Net.step] at ran
        split at ran
        · cases ran
        · rename_i unseen
          cases ran
          refine own.leaks_of_close answer (Bool.eq_false_iff.mpr unseen) found last ?_ noLeak
          by_cases listens : (net.sockets id).state = .listening
          · exact .inl listens
          · refine .inr ?_
            simpa [listens] using loses
    | failed address err =>
        simp only [Net.KeepsHolders, not_forall] at loses
        obtain ⟨pcb, found, id, arg, loses⟩ := loses
        simp only [Net.step, found] at ran
        cases ran
        refine inv.leaks_of_failed err arg ?_ noLeak
        by_cases closing : (net.sockets id).state = .closing
        · exact .inl closing
        · exact .inr (by simpa [closing] using loses)
    | _ => exact loses trivial
  · exact (own.step ran fun _ => keeps).inv.noLeak

/-- A slot with a reference leaves with its connection: nobody closes it again. -/
theorem noLeak_after_connect :
    ∃ net, Reaches Net.KeepsHolders net ∧ net.NoLeak ∧ (net.sockets 0).state = .connected ∧
      ∃ next, net.step (.close 0 fun _ => .pending) = some next ∧ next.NoLeak := by
  have opened : Reaches Net.KeepsHolders (Net.initial.socket (some 1)).1 :=
    @Reaches.step Net.KeepsHolders _ _ (.socket (some 1)) .initial trivial rfl
  have asked := @Reaches.step Net.KeepsHolders _ _ (.connect 0 none) opened trivial rfl
  have reached := @Reaches.step Net.KeepsHolders _ _ (.connected 1) asked trivial rfl
  refine ⟨_, reached, (noLeak_iff_keepsHolders reached).1, rfl, _, rfl,
    ((noLeak_iff_keepsHolders reached).2 (.close 0 fun _ => .pending) _ rfl).mpr ?_⟩
  intro id found last
  cases found
  exact ⟨by decide, by simp⟩

/-- A connection reset after its close was taken, and a listening socket closed: either
leaves a slot in use that has no reference, no backlog and no PCB. -/
theorem reset_after_close_leaks :
    (∃ net, Reaches (fun _ _ => True) net ∧ (net.sockets 0).state = .error ∧
      net.refcount 0 = 0 ∧ ¬ net.NoLeak) ∧
    ∃ net, Reaches (fun _ _ => True) net ∧ (net.sockets 0).state = .closing ∧
      net.refcount 0 = 0 ∧ ¬ net.NoLeak := by
  constructor
  · have reached : Reaches (fun _ _ => True) _ := .step (.step (.step (.step (.step .initial trivial
      (rfl : Net.initial.step (.socket (some 1)) = _)) trivial
      (rfl : Net.step _ (.connect 0 none) = _)) trivial (rfl : Net.step _ (.connected 1) = _))
      trivial (rfl : Net.step _ (.close 0 fun _ => .pending) = _)) trivial
      (rfl : Net.step _ (.failed 1 .rst) = _)
    refine ⟨_, reached, rfl, rfl, fun noLeak => ?_⟩
    rcases noLeak 0 (by decide) with held | ⟨listener, listens, _⟩ | ⟨closing, _⟩
    · exact absurd held (by decide)
    · revert listens
      revert listener
      decide
    · exact absurd closing (by decide)
  · have reached : Reaches (fun _ _ => True) _ := .step (.step (.step .initial trivial
      (rfl : Net.initial.step (.socket (some 1)) = _)) trivial
      (rfl : Net.step _ (.listen 0 (some 2)) = _)) trivial
      (rfl : Net.step _ (.close 0 fun _ => .pending) = _)
    refine ⟨_, reached, rfl, rfl, fun noLeak => ?_⟩
    rcases noLeak 0 (by decide) with held | ⟨listener, listens, _⟩ | ⟨_, place, pcb, owns, found, _⟩
    · exact absurd held (by decide)
    · revert listens
      revert listener
      decide
    · cases owns
      cases found

end Chrysopolis.Tcp
