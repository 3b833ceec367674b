import Mathlib.Data.List.Nodup
import Mathlib.Tactic.IntervalCases
import Chrysopolis.System.Contract

/-! A contract that validation accepts isolates its protection domains: no id or channel stands for
two things, and no address of a space belongs to two mappings. -/

set_option autoImplicit false

namespace Chrysopolis.System

/-! ### Checks -/

theorem require_ok {checks : List (Bool × ContractError)} (passed : require checks = .ok ()) :
    ∀ check ∈ checks, check.1 = true := by
  induction checks with
  | nil => simp
  | cons check rest induct =>
      obtain ⟨held, error⟩ := check
      simp only [require] at passed
      split_ifs at passed with first
      exact List.forall_mem_cons.mpr ⟨first, induct passed⟩

theorem bind_ok {first second : Except ContractError Unit}
    (passed : (first >>= fun _ => second) = .ok ()) : first = .ok () ∧ second = .ok () := by
  cases first with
  | error => cases passed
  | ok => exact ⟨rfl, passed⟩

theorem orElse_ok {result : Except ContractError Unit} {path invariant : String}
    (held : (orElse result path invariant).1 = true) : result = .ok () := by
  cases result with
  | error => simp [orElse, semantic, Except.isOk, Except.toBool] at held
  | ok => rfl

/-! ### Ids -/

theorem validateIdsFrom_ok {idCount : Nat} {previous ids : List Nat}
    (passed : validateIdsFrom idCount previous ids = .ok ()) :
    (∀ id ∈ ids, id < idCount ∧ id ∉ previous) ∧ ids.Nodup := by
  induction ids generalizing previous with
  | nil => simp
  | cons id rest induct =>
      simp only [validateIdsFrom, List.contains_iff_mem] at passed
      split_ifs at passed with outside repeated
      obtain ⟨later, distinct⟩ := induct passed
      refine ⟨List.forall_mem_cons.mpr ⟨⟨by omega, repeated⟩, fun other member => ?_⟩, ?_⟩
      · obtain ⟨inside, apart⟩ := later other member
        exact ⟨inside, fun before => apart (List.mem_append_left _ before)⟩
      · refine List.nodup_cons.mpr ⟨fun again => ?_, distinct⟩
        exact (later id again).2 (by simp)

theorem validateIds_ok {idCount : Nat} {ids : List Nat}
    (passed : validateIds ids idCount = .ok ()) :
    (∀ id ∈ ids, id < idCount) ∧ ids.Nodup :=
  ⟨fun id member => ((validateIdsFrom_ok passed).1 id member).1, (validateIdsFrom_ok passed).2⟩

/-! ### Spaces -/

def Mapping.covers (mapping : Mapping) (address : Nat) : Prop :=
  mapping.start ≤ address ∧ address < mapping.start + mapping.size

/-- No address belongs to both. -/
def Apart (left right : Mapping) : Prop :=
  ∀ address, left.covers address → ¬ right.covers address

theorem Apart.symm {left right : Mapping} (apart : Apart left right) : Apart right left :=
  fun address covered also => apart address also covered

theorem apart_of_rangesOverlap {left right : Mapping}
    (passed : rangesOverlap left.start left.size right.start right.size = false) :
    Apart left right := by
  simp only [rangesOverlap] at passed
  split_ifs at passed
  intro address covered also
  simp only [Mapping.covers] at covered also
  simp only [Bool.and_eq_false_iff, decide_eq_false_iff_not] at passed
  omega

/-- Whole pages, and none past the last address. -/
structure Mapping.Paged (mapping : Mapping) : Prop where
  nonempty : mapping.size ≠ 0
  size : pageSize ∣ mapping.size
  start : pageSize ∣ mapping.start
  bounded : mapping.start + mapping.size < 2 ^ 64

theorem checkMapping_ok {mapping : Mapping} (passed : checkMapping mapping = .ok ()) :
    mapping.Paged := by
  have checks := require_ok passed
  simp only [List.forall_mem_cons, semantic, Bool.and_eq_true, bne_iff_ne, beq_iff_eq,
    decide_eq_true_eq] at checks
  obtain ⟨⟨⟨nonempty, size⟩, start⟩, bounded, -⟩ := checks
  exact ⟨nonempty, Nat.dvd_of_mod_eq_zero size, Nat.dvd_of_mod_eq_zero start, bounded⟩

/-- A space: whole pages, and no address mapped twice. -/
structure Space (mappings : List Mapping) : Prop where
  paged : ∀ mapping ∈ mappings, mapping.Paged
  apart : mappings.Pairwise Apart

theorem checkVSpaceFrom_ok {earlier mappings : List Mapping}
    (passed : checkVSpaceFrom earlier mappings = .ok ()) :
    Space mappings ∧ ∀ mapping ∈ mappings, ∀ other ∈ earlier, Apart other mapping := by
  induction mappings generalizing earlier with
  | nil => exact ⟨⟨by simp, List.Pairwise.nil⟩, by simp⟩
  | cons mapping rest induct =>
      obtain ⟨paged, passed⟩ := bind_ok passed
      split_ifs at passed with overlaps
      obtain ⟨space, after⟩ := induct passed
      have here : ∀ other ∈ earlier, Apart other mapping := by
        intro other member
        simp only [List.any_eq_true, not_exists, not_and, Bool.not_eq_true] at overlaps
        exact (apart_of_rangesOverlap (overlaps other member)).symm
      refine ⟨⟨List.forall_mem_cons.mpr ⟨checkMapping_ok paged, space.paged⟩,
        List.pairwise_cons.mpr ⟨fun other member => ?_, space.apart⟩⟩,
        List.forall_mem_cons.mpr ⟨here, fun other member before earlierMember => ?_⟩⟩
      · exact after other member mapping (by simp)
      · exact after other member before (List.mem_append_left _ earlierMember)

theorem checkVSpace_ok {mappings : List Mapping} (passed : checkVSpace mappings = .ok ()) :
    Space mappings :=
  (checkVSpaceFrom_ok passed).1

namespace Contract

variable {contract : Contract}

/-! ### Isolation -/

/-- The regions of a snapshot, one after another. -/
structure SnapshotOk (snapshot : SnapshotRegion) : Prop where
  header : pageSize ≤ snapshot.resetStackOffset
  stack : snapshot.resetStackOffset + snapshot.resetStackSize ≤ snapshot.survivorsOffset
  survivors : snapshot.survivorsOffset + snapshot.survivorsSize ≤ snapshot.dataOffset
  data : snapshot.dataOffset < snapshot.size
  /-- The stack top is a stack pointer, and an immediate. -/
  top : 16 ∣ snapshot.resetStackOffset + snapshot.resetStackSize ∧
    snapshot.resetStackOffset + snapshot.resetStackSize ≤ 0xffff

/-- What a contract gives each protection domain. -/
structure Isolated (contract : Contract) : Prop where
  children : contract.childIds.Nodup ∧ ∀ id ∈ contract.childIds, id < contract.idCount
  root : contract.rootChannels.Nodup ∧ ∀ id ∈ contract.rootChannels, id < contract.idCount
  beam : contract.beamChannels.Nodup ∧ ∀ id ∈ contract.beamChannels,
    id < contract.idCount ∧ contract.control.beamDynamicChannelFloor ≤ id
  rootSpace : Space contract.rootMaps
  beamSpace : Space contract.beamMaps
  workerSpaces : ∀ worker ∈ contract.pool.classes.toList, Space (contract.workerMaps worker)
  /-- No worker is seen through the windows of another, nor through a region of BEAM's own. -/
  windows : ∀ slot < contract.pool.slots,
    ∀ window ∈ contract.slotWindows (slot * contract.pool.beamWindowStride),
      (∀ region ∈ contract.fixedMaps, Apart region window) ∧
        ∀ other < contract.pool.slots, other ≠ slot →
          ∀ foreign ∈ contract.slotWindows (other * contract.pool.beamWindowStride),
            Apart foreign window
  snapshot : SnapshotOk contract.snapshot
  /-- Each blob goes to one section, and each section of an image comes from one blob. -/
  blobs : (contract.configSections.map ConfigSection.blob).Nodup
  sections : (contract.configSections.map fun mapping => (mapping.elf, mapping.section_)).Nodup

theorem validate_stages (accepted : contract.validate = .ok ()) :
    checkSnapshot contract.snapshot = .ok () ∧ contract.checkSections = .ok () ∧
      contract.checkIds = .ok () ∧ contract.checkSpaces = .ok () := by
  obtain ⟨-, accepted⟩ := bind_ok accepted
  obtain ⟨-, accepted⟩ := bind_ok accepted
  obtain ⟨snapshot, accepted⟩ := bind_ok accepted
  obtain ⟨-, accepted⟩ := bind_ok accepted
  obtain ⟨-, accepted⟩ := bind_ok accepted
  obtain ⟨sections, accepted⟩ := bind_ok accepted
  obtain ⟨ids, accepted⟩ := bind_ok accepted
  obtain ⟨-, accepted⟩ := bind_ok accepted
  obtain ⟨-, accepted⟩ := bind_ok accepted
  obtain ⟨-, accepted⟩ := bind_ok accepted
  obtain ⟨-, spaces⟩ := bind_ok accepted
  exact ⟨snapshot, sections, ids, spaces⟩

theorem checkSnapshot_ok {snapshot : SnapshotRegion} (passed : checkSnapshot snapshot = .ok ()) :
    SnapshotOk snapshot := by
  have checks := require_ok passed
  simp only [List.forall_mem_cons, Bool.and_eq_true, beq_iff_eq, decide_eq_true_eq] at checks
  obtain ⟨-, -, ⟨header, stack⟩, ⟨aligned, small⟩, ⟨survivors, data⟩, -⟩ := checks
  exact ⟨header, stack, survivors, data, Nat.dvd_of_mod_eq_zero aligned, small⟩

theorem sectionsFrom_apart {earlier sections : List ConfigSection}
    (passed : ∀ check ∈ sectionsFrom earlier sections, check.1 = true) :
    sections.Pairwise (fun left right =>
        left.blob ≠ right.blob ∧ (left.elf, left.section_) ≠ (right.elf, right.section_)) ∧
      ∀ mapping ∈ sections, ∀ previous ∈ earlier, previous.blob ≠ mapping.blob ∧
        (previous.elf, previous.section_) ≠ (mapping.elf, mapping.section_) := by
  induction sections generalizing earlier with
  | nil => exact ⟨List.Pairwise.nil, by simp⟩
  | cons mapping rest induct =>
      simp only [sectionsFrom, List.forall_mem_append] at passed
      obtain ⟨here, later⟩ := passed
      obtain ⟨pairs, after⟩ := induct later
      have first : ∀ previous ∈ earlier, previous.blob ≠ mapping.blob ∧
          (previous.elf, previous.section_) ≠ (mapping.elf, mapping.section_) := by
        intro previous member
        have checks := fun check (among : check ∈ _) =>
          (List.forall_mem_cons.mp here).2 check (List.mem_flatMap.mpr ⟨previous, member, among⟩)
        simp only [List.forall_mem_cons, bne_iff_ne, ne_eq, Bool.not_eq_true',
          Bool.and_eq_false_iff, beq_eq_false_iff_ne] at checks
        refine ⟨fun same => checks.1 same.symm, fun same => ?_⟩
        obtain ⟨elf, section_⟩ := Prod.mk.inj same
        rcases checks.2.1 with other | other
        · exact other elf.symm
        · exact other section_.symm
      exact
        ⟨List.pairwise_cons.mpr ⟨fun other member => after other member mapping (by simp), pairs⟩,
          List.forall_mem_cons.mpr ⟨first, fun other member previous before =>
            after other member previous (List.mem_append_left _ before)⟩⟩

theorem checkSections_ok (passed : contract.checkSections = .ok ()) :
    (contract.configSections.map ConfigSection.blob).Nodup ∧
      (contract.configSections.map fun mapping => (mapping.elf, mapping.section_)).Nodup := by
  have pairs := (sectionsFrom_apart (List.forall_mem_cons.mp (require_ok passed)).2).1
  exact ⟨List.pairwise_map.mpr (pairs.imp And.left), List.pairwise_map.mpr (pairs.imp And.right)⟩

theorem checkIds_ok (passed : contract.checkIds = .ok ()) :
    ((∀ id ∈ contract.childIds, id < contract.idCount) ∧ contract.childIds.Nodup) ∧
      ((∀ id ∈ contract.rootChannels, id < contract.idCount) ∧ contract.rootChannels.Nodup) ∧
      ((∀ id ∈ contract.beamChannels, id < contract.idCount) ∧ contract.beamChannels.Nodup) ∧
      ∀ id ∈ contract.beamChannels, contract.control.beamDynamicChannelFloor ≤ id := by
  have checks := require_ok passed
  simp only [List.forall_mem_append, List.forall_mem_cons, List.forall_mem_map] at checks
  obtain ⟨⟨⟨⟨⟨-, -, -, children, -⟩, -⟩, root, beam, -⟩, floor⟩, -⟩ := checks
  refine ⟨validateIds_ok (orElse_ok children), validateIds_ok (orElse_ok root),
    validateIds_ok (orElse_ok beam), fun id member => ?_⟩
  simpa [semantic] using floor id member

theorem checkSpaces_ok (passed : contract.checkSpaces = .ok ()) :
    Space contract.rootMaps ∧ Space contract.beamMaps ∧
      ∀ worker ∈ contract.pool.classes.toList, Space (contract.workerMaps worker) := by
  obtain ⟨root, passed⟩ := bind_ok passed
  obtain ⟨-, passed⟩ := bind_ok passed
  obtain ⟨beam, passed⟩ := bind_ok passed
  obtain ⟨small, large⟩ := bind_ok passed
  refine ⟨checkVSpace_ok root, checkVSpace_ok beam, fun worker member => ?_⟩
  obtain ⟨index, inside, rfl⟩ := List.mem_iff_getElem.mp member
  rw [Vector.length_toList] at inside
  rw [Vector.getElem_toList]
  interval_cases index
  · exact checkVSpace_ok small
  · exact checkVSpace_ok large

theorem windows_apart (space : Space contract.beamMaps) {slot : Nat}
    (live : slot < contract.pool.slots) {window : Mapping}
    (member : window ∈ contract.slotWindows (slot * contract.pool.beamWindowStride)) :
    (∀ region ∈ contract.fixedMaps, Apart region window) ∧
      ∀ other < contract.pool.slots, other ≠ slot →
        ∀ foreign ∈ contract.slotWindows (other * contract.pool.beamWindowStride),
          Apart foreign window := by
  obtain ⟨-, windows, fixed⟩ := List.pairwise_append.mp space.apart
  obtain ⟨-, slots⟩ := List.pairwise_flatMap.mp windows
  refine ⟨fun region own => ?_, fun other inside different foreign among => ?_⟩
  · exact fixed region own window
      (List.mem_flatMap.mpr ⟨slot, List.mem_range.mpr live, member⟩)
  · have apart : ∀ left right, left < right → right < contract.pool.slots →
        ∀ first ∈ contract.slotWindows (left * contract.pool.beamWindowStride),
          ∀ second ∈ contract.slotWindows (right * contract.pool.beamWindowStride),
            Apart first second := by
      intro left right before bounded
      have pairs := List.pairwise_iff_getElem.mp slots left right
        (by simpa using before.trans bounded) (by simpa using bounded) before
      simpa only [List.getElem_range] using pairs
    rcases Nat.lt_or_gt_of_ne different with before | after
    · exact apart other slot before live foreign among window member
    · exact (apart slot other after inside window member foreign among).symm

/-- A contract that validation accepts isolates what it declares. -/
theorem validate_isolated (accepted : contract.validate = .ok ()) : Isolated contract := by
  obtain ⟨snapshot, sections, ids, spaces⟩ := validate_stages accepted
  obtain ⟨children, root, beam, floor⟩ := checkIds_ok ids
  obtain ⟨rootSpace, beamSpace, workerSpaces⟩ := checkSpaces_ok spaces
  obtain ⟨blobs, sections⟩ := checkSections_ok sections
  exact
    { children := children.symm
      root := root.symm
      beam := ⟨beam.2, fun id member => ⟨beam.1 id member, floor id member⟩⟩
      rootSpace
      beamSpace
      workerSpaces
      windows := fun slot live window member => windows_apart beamSpace live member
      snapshot := checkSnapshot_ok snapshot
      blobs
      sections }

theorem validate_isolated_values : Isolated values :=
  validate_isolated (by decide +kernel)

end Contract

end Chrysopolis.System
