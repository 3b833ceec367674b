import Chrysopolis.Abi.SpecRecoveryProperties
import Chrysopolis.Root.SpecChannel
import Chrysopolis.Root.SpecProperties
import Mathlib.Data.List.Nodup

/-! Crash consistency of spec commits. The bank the header names is empty or holds
the last flipped commit, and the bank being written is torn until its close, so
Root only ever retains closed commits and never rejects the active bank. -/

set_option autoImplicit false

namespace Chrysopolis.Root

open Chrysopolis.Abi
open Chrysopolis.Support

/-- The policy is the commit's. -/
structure Retains (policy : RootSpecPolicy) (commit : Commit) : Prop where
  generation : policy.generation = commit.generation
  budget : policy.budget = commit.budget
  desired : policy.desired = commit.desired

theorem bankWritten_retains {page : Memory} {bank : Bank} {commit : Commit}
    (written : BankWritten page bank commit) : Retains (bankPolicy page bank.val) commit where
  generation :=
    (congrArg UInt64.ofNat written.generation).trans UInt64.ofNat_toNat
  budget := funext fun child =>
    (congrArg UInt32.ofNat (written.budget child)).trans UInt32.ofNat_toNat
  desired := funext fun child =>
    (congrArg UInt8.ofNat (written.desired child)).trans UInt8.ofNat_toNat

def seqAt (page : Memory) (bank : Bank) : Nat := specLayout.read page (.bank bank .bankSeq)

theorem seqAt_stored (page : Memory) (bank : Bank) (seq : UInt32) :
    seqAt (specLayout.assign page [(.bank bank .bankSeq, seq.toNat)]) bank = seq.toNat := by
  have agree : Layout.Agree [(SpecField.bank bank .bankSeq, seq.toNat)] := by
    simp [Layout.Agree]
  exact (specLayout.read_assign_of_mem page agree (List.mem_singleton.mpr rfl)).trans
    (Nat.mod_eq_of_lt seq.toNat_lt)

theorem sameHeader_active {left right : Memory} (same : SameHeader left right) :
    activeBank left = activeBank right := by
  have word : specActive left = specActive right :=
    Memory.load_congr fun position _ upper => same position (Nat.lt_of_lt_of_le upper (by decide))
  simp only [activeBank, word]

/-! ### The invariant -/

/-- The bank the header names. -/
inductive ActiveOk (page : Memory) (closed : List Commit) (flipped : Option Commit) :
    Prop where
  /-- No commit has begun. -/
  | blank (zero : ∀ position, page position = 0) (unflipped : flipped = none)
  /-- No commit has flipped. -/
  | fresh (header : SpecHeaderOk page) (empty : seqAt page (activeBank page) = 0)
      (unflipped : flipped = none)
  | flipped (commit : Commit) (header : SpecHeaderOk page)
      (holds : BankHolds page (activeBank page) commit) (flipped : flipped = some commit)
      (closed : commit ∈ closed)

/-- The commit under way: what begin checked and copied. -/
structure Begun (presentMask last : UInt64) (page : Memory) (writer : SpecWriter) : Prop where
  header : SpecHeaderOk page
  bank : writer.bank = otherBank (activeBank page)
  odd : writer.openSeq.toNat % 2 = 1
  room : writer.openSeq.toNat + 1 < 2 ^ 32
  positive : 0 < writer.commit.generation
  bounded : writer.commit.generation ≤ last
  declared : Declared presentMask writer.commit

def Newer (closed : List Commit) (commit : Commit) : Prop :=
  ∀ other ∈ closed, other.generation < commit.generation

/-- How far the writer got. -/
inductive WriterStage (presentMask last : UInt64) (page : Memory) (closed : List Commit)
    (writer : SpecWriter) : Prop where
  | detached (page : writer.page = false)
  | begun (begun : Begun presentMask last page writer) (phase : writer.phase = .idle)
      (newer : Newer closed writer.commit)
  | opened (begun : Begun presentMask last page writer) (phase : writer.phase = .opened)
      (newer : Newer closed writer.commit)
      (torn : seqAt page writer.bank = writer.openSeq.toNat)
  | written (begun : Begun presentMask last page writer) (phase : writer.phase = .written)
      (newer : Newer closed writer.commit)
      (torn : seqAt page writer.bank = writer.openSeq.toNat)
      (written : BankWritten page writer.bank writer.commit)
  | sealed (begun : Begun presentMask last page writer) (phase : writer.phase = .sealed)
      (newer : Newer closed writer.commit)
      (torn : seqAt page writer.bank = writer.openSeq.toNat)
      (written : BankWritten page writer.bank writer.commit)
      (checksum : (bankCrc page (bankAddress writer.bank)).toNat =
        specLayout.read page (.bank writer.bank .crc32))
  | closed (begun : Begun presentMask last page writer) (phase : writer.phase = .closed)
      (holds : BankHolds page writer.bank writer.commit) (member : writer.commit ∈ closed)
      (newest : ∀ other ∈ closed, other.generation ≤ writer.commit.generation)
  | flipped (phase : writer.phase = .flipped)

/-- Every bank is empty, torn, or holds a closed commit. -/
def BanksOk (page : Memory) (closed : List Commit) : Prop :=
  ∀ bank, seqAt page bank = 0 ∨ seqAt page bank % 2 = 1 ∨
    ∃ commit ∈ closed, BankHolds page bank commit

/-- The closed commits. -/
structure ClosedOk (presentMask last : UInt64) (closed : List Commit) : Prop where
  ordered : closed.Pairwise fun earlier later => earlier.generation < later.generation
  positive : ∀ commit ∈ closed, 0 < commit.generation
  bounded : ∀ commit ∈ closed, commit.generation ≤ last
  declared : ∀ commit ∈ closed, Declared presentMask commit

/-- What Root retains. -/
structure RetainedOk (retained : RootSpecPolicy) (closed : List Commit)
    (flipped : Option Commit) : Prop where
  source : retained = rootSpecInit.retained ∨ ∃ commit ∈ closed, Retains retained commit
  older : ∀ commit, flipped = some commit → retained.generation ≤ commit.generation

structure SpecChannelOk (presentMask last : UInt64) (channel : SpecChannel) : Prop where
  active : ActiveOk channel.page channel.closed channel.flipped
  writer : WriterStage presentMask last channel.page channel.closed channel.writer
  banks : BanksOk channel.page channel.closed
  closed : ClosedOk presentMask last channel.closed
  retained : RetainedOk channel.spec.retained channel.closed channel.flipped

theorem ClosedOk.unique {mask last : UInt64} {closed : List Commit}
    (ok : ClosedOk mask last closed) {left right : Commit} (leftIn : left ∈ closed)
    (rightIn : right ∈ closed) (same : left.generation = right.generation) : left = right := by
  have distinct : (closed.map Commit.generation).Nodup :=
    List.pairwise_map.mpr (ok.ordered.imp UInt64.ne_of_lt)
  exact List.inj_on_of_nodup_map distinct leftIn rightIn same

theorem ClosedOk.append {mask last : UInt64} {closed : List Commit} {commit : Commit}
    (ok : ClosedOk mask last closed) (newer : Newer closed commit)
    (positive : 0 < commit.generation) (bounded : commit.generation ≤ last)
    (declared : Declared mask commit) : ClosedOk mask last (closed ++ [commit]) := by
  have each : ∀ holds : Commit → Prop, (∀ other ∈ closed, holds other) → holds commit →
      ∀ other ∈ closed ++ [commit], holds other := by
    intro holds old new other member
    rcases List.mem_append.mp member with member | member
    · exact old other member
    · exact List.mem_singleton.mp member ▸ new
  refine ⟨List.pairwise_append.mpr ⟨ok.ordered, List.pairwise_singleton _ _, ?_⟩,
    each _ ok.positive positive, each _ ok.bounded bounded, each _ ok.declared declared⟩
  intro other member latest new
  exact List.mem_singleton.mp new ▸ newer other member

theorem RetainedOk.append {retained : RootSpecPolicy} {closed : List Commit}
    {flipped : Option Commit} (ok : RetainedOk retained closed flipped) (commit : Commit) :
    RetainedOk retained (closed ++ [commit]) flipped := by
  refine ⟨ok.source.imp_right ?_, ok.older⟩
  rintro ⟨source, member, same⟩
  exact ⟨source, List.mem_append_left _ member, same⟩

/-! ### Stores to the target bank -/

theorem otherBank_ne (bank : Bank) : bank ≠ otherBank bank := by
  intro same
  have value : bank.val = 1 - bank.val := congrArg Fin.val same
  omega

/-- Stores to the other bank keep what the header names. -/
theorem ActiveOk.store {page : Memory} {closed more : List Commit} {flipped : Option Commit}
    (active : ActiveOk page closed flipped) (header : SpecHeaderOk page)
    {stores : List (SpecField × Nat)} (inBank : InBank (otherBank (activeBank page)) stores)
    (subset : closed ⊆ more) : ActiveOk (specLayout.assign page stores) more flipped := by
  have same := inBank.header page
  have bank := inBank.other page (otherBank_ne (activeBank page))
  have selector := sameHeader_active same
  have valid : SpecHeaderOk (specLayout.assign page stores) :=
    SameHeader.ok (fun position upper => (same position upper).symm) header
  cases active with
  | blank zero => exact absurd header (zero_header (Memory.allZero_iff.mpr fun _ _ _ => zero _))
  | fresh _ empty unflipped =>
      refine .fresh valid ?_ unflipped
      rw [selector]
      exact (bank.read .bankSeq).trans empty
  | flipped commit _ holds chosen member =>
      refine .flipped commit valid ?_ chosen (subset member)
      rw [selector]
      exact holds.congr (sameBank_symm bank)

theorem BanksOk.store {page : Memory} {closed more : List Commit} (banks : BanksOk page closed)
    {bank : Bank} {stores : List (SpecField × Nat)} (inBank : InBank bank stores)
    (subset : closed ⊆ more)
    (target : seqAt (specLayout.assign page stores) bank % 2 = 1 ∨
      ∃ commit ∈ more, BankHolds (specLayout.assign page stores) bank commit) :
    BanksOk (specLayout.assign page stores) more := by
  intro other
  by_cases here : other = bank
  · subst here
    exact .inr target
  · have same := inBank.other page here
    rcases banks other with empty | torn | ⟨commit, member, holds⟩
    · exact .inl ((same.read .bankSeq).trans empty)
    · refine .inr (.inl ?_)
      rw [seqAt, same.read]
      exact torn
    · exact .inr (.inr ⟨commit, subset member, holds.congr (sameBank_symm same)⟩)

theorem Begun.store {mask last : UInt64} {page : Memory} {writer : SpecWriter}
    (begun : Begun mask last page writer) {stores : List (SpecField × Nat)}
    (inBank : InBank writer.bank stores) (phase : SpecWriterPhase) :
    Begun mask last (specLayout.assign page stores) { writer with phase } := by
  have same := inBank.header page
  refine ⟨SameHeader.ok (fun position upper => (same position upper).symm) begun.header, ?_,
    begun.odd, begun.room, begun.positive, begun.bounded, begun.declared⟩
  rw [sameHeader_active same]
  exact begun.bank

/-! ### The writer's steps -/

/-- The payload leaves the sequence alone. -/
theorem writePayload_seq {writer : SpecWriter} {assignment : SpecField × Nat}
    (member : assignment ∈ writePayload writer) :
    assignment.1 ≠ .bank writer.bank .bankSeq := by
  simp only [writePayload, List.mem_append, List.mem_cons, List.not_mem_nil, or_false,
    List.mem_flatMap] at member
  rcases member with ((rfl | rfl | rfl) | ⟨child, _, rfl | rfl⟩) | rfl <;> simp

/-- A step the protocol allows: what it stores, and the commits it closes and flips. -/
structure StepAllowed (channel : SpecChannel) (kind : SpecWriterStepKind)
    (next : SpecChannel) : Prop where
  attached : channel.writer.page = true
  phase : channel.writer.phase = (transitions kind).1
  page : next.page = specLayout.assign channel.page (actStores channel.writer channel.page kind)
  writer : next.writer = { channel.writer with phase := (transitions kind).2 }
  spec : next.spec = channel.spec
  closed : next.closed =
    if kind = .stepClose then channel.closed ++ [channel.writer.commit] else channel.closed
  flipped : next.flipped = if kind = .stepFlip then some channel.writer.commit else channel.flipped

theorem writerStep_case (channel : SpecChannel) (kind : SpecWriterStepKind) :
    writerStep channel kind = channel ∨ StepAllowed channel kind (writerStep channel kind) := by
  by_cases refused : (!channel.writer.page) = true ∨ channel.writer.phase ≠ (transitions kind).1
  · left
    simp only [writerStep, specWriterStep, if_pos refused, reduceCtorEq, false_and, if_false]
  · right
    have allowed := not_or.mp refused
    have attached : channel.writer.page = true := by simpa using allowed.1
    refine ⟨attached, not_not.mp allowed.2, ?_, ?_, ?_, ?_, ?_⟩ <;>
      simp only [writerStep, specWriterStep, if_neg refused, true_and]

section Steps

variable {mask last : UInt64} {channel next : SpecChannel}

theorem open_step (ok : SpecChannelOk mask last channel)
    (allowed : StepAllowed channel .stepOpen next) : SpecChannelOk mask last next := by
  cases ok.writer with
  | detached page => simp [allowed.attached] at page
  | begun begun phase newer =>
      have inBank := single_inBank channel.writer.bank .bankSeq channel.writer.openSeq.toNat
      have closed : next.closed = channel.closed := allowed.closed
      have flipped : next.flipped = channel.flipped := allowed.flipped
      have page : next.page = specLayout.assign channel.page
        [(.bank channel.writer.bank .bankSeq, channel.writer.openSeq.toNat)] := allowed.page
      have torn := seqAt_stored channel.page channel.writer.bank channel.writer.openSeq
      refine ⟨?_, ?_, ?_, ?_, ?_⟩
      · rw [page, closed, flipped]
        exact ok.active.store begun.header (begun.bank ▸ inBank) (List.Subset.refl _)
      · rw [page, closed, allowed.writer]
        exact .opened (begun.store inBank _) rfl newer torn
      · rw [page, closed]
        refine ok.banks.store inBank (List.Subset.refl _) (.inl ?_)
        rw [torn]
        exact begun.odd
      · rw [closed]
        exact ok.closed
      · rw [allowed.spec, closed, flipped]
        exact ok.retained
  | opened _ phase | written _ phase | sealed _ phase | closed _ phase | flipped phase =>
      cases phase.symm.trans allowed.phase

/-- A store that keeps the target bank's odd sequence. -/
theorem torn_step (ok : SpecChannelOk mask last channel)
    {kind : SpecWriterStepKind} (allowed : StepAllowed channel kind next)
    (begun : Begun mask last channel.page channel.writer)
    (inBank : InBank channel.writer.bank (actStores channel.writer channel.page kind))
    (torn : seqAt next.page channel.writer.bank = channel.writer.openSeq.toNat)
    (closed : next.closed = channel.closed) (flipped : next.flipped = channel.flipped)
    (stage : WriterStage mask last next.page channel.closed next.writer) :
    SpecChannelOk mask last next := by
  refine ⟨?_, closed ▸ stage, ?_, closed ▸ ok.closed, ?_⟩
  · rw [allowed.page, closed, flipped]
    exact ok.active.store begun.header (begun.bank ▸ inBank) (List.Subset.refl _)
  · rw [allowed.page] at torn ⊢
    rw [closed]
    refine ok.banks.store inBank (List.Subset.refl _) (.inl ?_)
    rw [torn]
    exact begun.odd
  · rw [allowed.spec, closed, flipped]
    exact ok.retained

theorem write_step (ok : SpecChannelOk mask last channel)
    (allowed : StepAllowed channel .stepWrite next) : SpecChannelOk mask last next := by
  cases ok.writer with
  | detached page => simp [allowed.attached] at page
  | opened begun phase newer torn =>
      have inBank := writePayload_inBank channel.writer
      have kept : seqAt next.page channel.writer.bank = channel.writer.openSeq.toNat := by
        rw [allowed.page, ← torn]
        exact specLayout.read_assign_other _ _ fun assignment member => writePayload_seq member
      refine torn_step ok allowed begun inBank kept allowed.closed allowed.flipped ?_
      have written := writePayload_written channel.writer channel.page
      rw [allowed.page] at kept ⊢
      rw [allowed.writer]
      exact .written (begun.store inBank _) rfl newer kept written
  | begun _ phase | written _ phase | sealed _ phase | closed _ phase | flipped phase =>
      cases phase.symm.trans allowed.phase

theorem seal_step (ok : SpecChannelOk mask last channel)
    (allowed : StepAllowed channel .stepSeal next) : SpecChannelOk mask last next := by
  cases ok.writer with
  | detached page => simp [allowed.attached] at page
  | written begun phase newer torn written =>
      have inBank := single_inBank channel.writer.bank .crc32
        (sealCrc channel.page channel.writer.bank).toNat
      have kept : seqAt next.page channel.writer.bank = channel.writer.openSeq.toNat := by
        rw [allowed.page, ← torn]
        exact specLayout.read_assign_other _ _ (by simp [actStores])
      refine torn_step ok allowed begun inBank kept allowed.closed allowed.flipped ?_
      rw [allowed.page] at kept ⊢
      rw [allowed.writer]
      exact .sealed (begun.store inBank _) rfl newer kept (written.store _ (.inl rfl))
        (bankCrc_stored channel.page channel.writer.bank)
  | begun _ phase | opened _ phase | sealed _ phase | closed _ phase | flipped phase =>
      cases phase.symm.trans allowed.phase

theorem close_step (ok : SpecChannelOk mask last channel)
    (allowed : StepAllowed channel .stepClose next) : SpecChannelOk mask last next := by
  cases ok.writer with
  | detached page => simp [allowed.attached] at page
  | sealed begun phase newer torn written checksum =>
      have inBank := single_inBank channel.writer.bank .bankSeq
        (channel.writer.openSeq + 1).toNat
      have even : (channel.writer.openSeq + 1).toNat = channel.writer.openSeq.toNat + 1 := by
        have one : (1 : UInt32).toNat = 1 := by decide
        rw [UInt32.toNat_add, one]
        exact Nat.mod_eq_of_lt begun.room
      have odd := begun.odd
      have positive : (channel.writer.openSeq + 1).toNat ≠ 0 := by omega
      have holds := close_holds written checksum positive (by omega)
      have closed : next.closed = channel.closed ++ [channel.writer.commit] := allowed.closed
      have flipped : next.flipped = channel.flipped := allowed.flipped
      have page : next.page = specLayout.assign channel.page
        [(.bank channel.writer.bank .bankSeq, (channel.writer.openSeq + 1).toNat)] := allowed.page
      have member : channel.writer.commit ∈ channel.closed ++ [channel.writer.commit] :=
        List.mem_append_right _ (List.mem_singleton.mpr rfl)
      have subset := List.subset_append_left channel.closed [channel.writer.commit]
      refine ⟨?_, ?_, ?_, ?_, ?_⟩
      · rw [page, closed, flipped]
        exact ok.active.store begun.header (begun.bank ▸ inBank) subset
      · rw [page, closed, allowed.writer]
        refine .closed (begun.store inBank _) rfl holds member fun other otherIn => ?_
        rcases List.mem_append.mp otherIn with old | new
        · exact UInt64.le_of_lt (newer other old)
        · exact List.mem_singleton.mp new ▸ UInt64.le_refl _
      · rw [page, closed]
        exact ok.banks.store inBank subset (.inr ⟨_, member, holds⟩)
      · rw [closed]
        exact ok.closed.append newer begun.positive begun.bounded begun.declared
      · rw [allowed.spec, closed, flipped]
        exact ok.retained.append _
  | begun _ phase | opened _ phase | written _ phase | closed _ phase | flipped phase =>
      cases phase.symm.trans allowed.phase

/-- Selecting the closed bank. -/
theorem flip_step (ok : SpecChannelOk mask last channel)
    (allowed : StepAllowed channel .stepFlip next) : SpecChannelOk mask last next := by
  cases ok.writer with
  | detached page => simp [allowed.attached] at page
  | closed begun phase holds member newest =>
      have page : next.page = specLayout.assign channel.page
        [(.header .activeBank, channel.writer.bank.val)] := allowed.page
      have closed : next.closed = channel.closed := allowed.closed
      have flipped : next.flipped = some channel.writer.commit := allowed.flipped
      have banks : ∀ bank, SameBank next.page channel.page bank := by
        intro bank
        rw [page]
        exact assign_sameBank _ (by simp)
      obtain ⟨header, word⟩ := flip_header begun.header channel.writer.bank
      have selector : activeBank next.page = channel.writer.bank := by
        refine Fin.ext ((congrArg (fun active => active % 2) (page ▸ word)).trans ?_)
        exact Nat.mod_eq_of_lt channel.writer.bank.isLt
      rw [← page] at header
      refine ⟨?_, ?_, ?_, closed ▸ ok.closed, ?_⟩
      · rw [closed]
        refine .flipped channel.writer.commit header ?_ flipped member
        rw [selector]
        exact holds.congr (sameBank_symm (banks _))
      · rw [allowed.writer]
        exact .flipped rfl
      · intro bank
        rw [closed]
        rcases ok.banks bank with empty | torn | ⟨commit, inClosed, held⟩
        · exact .inl (((banks bank).read .bankSeq).trans empty)
        · refine .inr (.inl ?_)
          rw [seqAt, (banks bank).read]
          exact torn
        · exact .inr (.inr ⟨commit, inClosed, held.congr (sameBank_symm (banks bank))⟩)
      · rw [allowed.spec, closed]
        refine ⟨ok.retained.source, fun commit chosen => ?_⟩
        cases flipped.symm.trans chosen
        rcases ok.retained.source with compiled | ⟨source, inClosed, same⟩
        · rw [compiled]
          exact UInt64.zero_le
        · rw [same.generation]
          exact newest source inClosed
  | begun _ phase | opened _ phase | written _ phase | sealed _ phase | flipped phase =>
      cases phase.symm.trans allowed.phase

theorem writerStep_ok (ok : SpecChannelOk mask last channel) (kind : SpecWriterStepKind) :
    SpecChannelOk mask last (writerStep channel kind) := by
  rcases writerStep_case channel kind with same | allowed
  · rw [same]
    exact ok
  · cases kind with
    | stepOpen => exact open_step ok allowed
    | stepWrite => exact write_step ok allowed
    | stepSeal => exact seal_step ok allowed
    | stepClose => exact close_step ok allowed
    | stepFlip => exact flip_step ok allowed

end Steps

/-! ### Begin, restart and consume -/

section Steps

variable {mask last : UInt64} {channel : SpecChannel}

theorem ClosedOk.later {later : UInt64} {closed : List Commit} (ok : ClosedOk mask last closed)
    (more : last ≤ later) : ClosedOk mask later closed :=
  ⟨ok.ordered, ok.positive, fun commit member => UInt64.le_trans (ok.bounded commit member) more,
    ok.declared⟩

theorem Begun.later {later : UInt64} {page : Memory} {writer : SpecWriter}
    (begun : Begun mask last page writer) (more : last ≤ later) : Begun mask later page writer :=
  { begun with bounded := UInt64.le_trans begun.bounded more }

theorem WriterStage.later {later : UInt64} {page : Memory} {closed : List Commit}
    {writer : SpecWriter} (stage : WriterStage mask last page closed writer)
    (more : last ≤ later) : WriterStage mask later page closed writer := by
  cases stage with
  | detached page => exact .detached page
  | begun begun phase newer => exact .begun (begun.later more) phase newer
  | opened begun phase newer torn => exact .opened (begun.later more) phase newer torn
  | written begun phase newer torn written =>
      exact .written (begun.later more) phase newer torn written
  | sealed begun phase newer torn written checksum =>
      exact .sealed (begun.later more) phase newer torn written checksum
  | closed begun phase holds member newest =>
      exact .closed (begun.later more) phase holds member newest
  | flipped phase => exact .flipped phase

/-- The target is the bank the header does not name. -/
theorem targetBank_other {page : Memory} (header : SpecHeaderOk page) :
    targetBank (specLayout.read page (.header .activeBank)) = otherBank (activeBank page) := by
  have small : specLayout.read page (.header .activeBank) % 2 =
      specLayout.read page (.header .activeBank) :=
    Nat.mod_eq_of_lt (Nat.lt_succ_of_le header.active)
  exact Fin.ext (congrArg (1 - ·) small.symm)

theorem freshHeader_sameBank (page : Memory) (bank : Bank) :
    SameBank (specLayout.assign page freshHeader) page bank :=
  assign_sameBank page (by simp [freshHeader])

/-- Beginning a newer commit. -/
theorem begin_step (ok : SpecChannelOk mask last channel) {commit : Commit}
    (later : last < commit.generation) (declared : Declared mask commit) :
    SpecChannelOk mask commit.generation
      ((specChannel mask).step channel (.begin commit)).1 := by
  have more := UInt64.le_of_lt later
  have newer : Newer channel.closed commit := fun other member =>
    UInt64.lt_of_le_of_lt (ok.closed.bounded other member) later
  have positive : 0 < commit.generation := UInt64.lt_of_le_of_lt UInt64.zero_le later
  have closed := ok.closed.later more
  simp only [specChannel]
  cases specWriterBegin_case channel.writer channel.page commit with
  | refused writer page =>
      rw [writer, page]
      exact ⟨ok.active, ok.writer.later more, ok.banks, closed, ok.retained⟩
  | next openSeq odd room header writer page =>
      rw [writer, page]
      have begun : Begun mask commit.generation channel.page
          { page := true
            phase := .idle
            bank := targetBank (specLayout.read channel.page (.header .activeBank))
            openSeq
            commit } :=
        ⟨header, targetBank_other header, odd, room, positive, UInt64.le_refl _, declared⟩
      exact ⟨ok.active, .begun begun rfl newer, ok.banks, closed, ok.retained⟩
  | fresh openSeq odd room zero writer page =>
      rw [writer, page]
      obtain ⟨header, selector⟩ := freshHeader_ok zero
      have banks := freshHeader_sameBank channel.page
      have target := targetBank_other header
      rw [selector] at target
      have begun : Begun mask commit.generation (specLayout.assign channel.page freshHeader)
          { page := true, phase := .idle, bank := targetBank 0, openSeq, commit } :=
        ⟨header, target, odd, room, positive, UInt64.le_refl _, declared⟩
      refine ⟨?_, .begun begun rfl newer, fun bank => ?_, closed, ok.retained⟩
      · cases ok.active with
        | blank blank unflipped =>
            refine .fresh header ?_ unflipped
            rw [Option.getD_some, seqAt, (banks _).read]
            exact Memory.load_eq_zero_of_allZero (Memory.allZero_iff.mpr fun _ _ _ => blank _)
        | fresh valid => exact absurd valid (zero_header zero)
        | flipped _ valid => exact absurd valid (zero_header zero)
      · rcases ok.banks bank with empty | torn | ⟨held, member, holds⟩
        · exact .inl (((banks bank).read .bankSeq).trans empty)
        · refine .inr (.inl ?_)
          rw [Option.getD_some, seqAt, (banks bank).read]
          exact torn
        · exact .inr (.inr ⟨held, member, holds.congr (sameBank_symm (banks bank))⟩)

theorem restart_step (ok : SpecChannelOk mask last channel) :
    SpecChannelOk mask last ((specChannel mask).step channel .restart).1 :=
  ⟨ok.active, .detached rfl, ok.banks, ok.closed, ok.retained⟩

/-- A usable bank of the page holds a closed commit. -/
theorem usable_holds (ok : SpecChannelOk mask last channel) {bank : Bank}
    (intact : SpecBankSealed channel.page bank) :
    ∃ commit ∈ channel.closed, BankHolds channel.page bank commit := by
  rcases ok.banks bank with empty | torn | holds
  · exact absurd empty intact.published
  · exact absurd intact.even (by rw [← seqAt, torn]; decide)
  · exact holds

/-- The last flipped commit is usable. -/
theorem flipped_usable (ok : SpecChannelOk mask last channel) {commit : Commit}
    (flipped : channel.flipped = some commit)
    (holds : BankHolds channel.page (activeBank channel.page) commit)
    (member : commit ∈ channel.closed) :
    BankUsable channel.page (activeBank channel.page) mask channel.spec.retained := by
  have retains := bankWritten_retains holds.written
  have older := ok.retained.older commit flipped
  refine ⟨holds.intact, ?_, ?_, ?_⟩
  · rw [retains.generation]
    exact Ne.symm (UInt64.ne_of_lt (ok.closed.positive commit member))
  · intro child absent
    rw [retains.budget, retains.desired]
    exact ok.closed.declared commit member child absent
  · rw [retains.generation]
    rcases UInt64.lt_or_eq_of_le older with below | same
    · exact .inl below
    · refine .inr ⟨same.symm, fun child => ?_⟩
      rcases ok.retained.source with compiled | ⟨source, inClosed, kept⟩
      · rw [compiled] at same
        exact absurd (ok.closed.positive commit member) (same ▸ UInt64.lt_irrefl _)
      · have equal := ok.closed.unique inClosed member (kept.generation.symm.trans same)
        rw [retains.budget, retains.desired, kept.budget, kept.desired, equal]
        exact ⟨rfl, rfl⟩

/-- What a consumption of the channel's page does. -/
structure ConsumeOk (channel : SpecChannel) (result : RootSpecState × RootSpecResult) :
    Prop where
  unrecorded : result.2.record = false
  accepted : result.2.reason = .unset
  forward : channel.spec.retained.generation ≤ result.1.retained.generation
  retained : RetainedOk result.1.retained channel.closed channel.flipped
  latest : ∀ commit, channel.flipped = some commit → Retains result.1.retained commit

/-- The active bank is never rejected. -/
theorem consume_accepted (ok : SpecChannelOk mask last channel) :
    let result := rootSpecConsume channel.spec (some (.still channel.page)) mask
    result.2.record = false ∧ result.2.reason = .unset := by
  intro result
  have decided : result = _ := rootSpecConsume_still channel.spec channel.page mask
  rw [decided]
  have selected : SpecHeaderOk channel.page →
      (evaluate channel.page (specActive channel.page) mask channel.spec.retained).kind ≠
        .rejected →
      (if channel.page.allZero 0 specHeaderSize then finish channel.spec .absent .unset 0 0
        else if checkSpecHeader channel.page specPageSize ≠ .ok then
          finish channel.spec .kept .header 0 0
        else rootSpecSelect channel.spec channel.page mask).2.record = false ∧
      (if channel.page.allZero 0 specHeaderSize then finish channel.spec .absent .unset 0 0
        else if checkSpecHeader channel.page specPageSize ≠ .ok then
          finish channel.spec .kept .header 0 0
        else rootSpecSelect channel.spec channel.page mask).2.reason = .unset := by
    intro header accepted
    rw [if_neg fun zero => zero_header zero header,
      if_neg (not_not.mpr (checkSpecHeader_ok.mpr header))]
    exact rootSpecSelect_accepted accepted
  cases ok.active with
  | blank zero =>
      rw [if_pos (Memory.allZero_iff.mpr fun _ _ _ => zero _)]
      exact ⟨rfl, rfl⟩
  | fresh header empty =>
      refine selected header ?_
      have unpublished : specBankSeq channel.page (specActive channel.page) = 0 := by
        rw [← activeBank_val header]
        exact empty
      simp only [evaluate, if_pos unpublished, ne_eq, reduceCtorEq, not_false_iff]
  | flipped commit header holds flipped member =>
      refine selected header ?_
      rw [← activeBank_val header]
      cases evaluate_case channel.page (activeBank channel.page) mask channel.spec.retained with
      | newer usable later kind => simp [kind]
      | same usable equal kind => simp [kind]
      | unusable unusable => exact absurd (flipped_usable ok flipped holds member) unusable

theorem consume_ok (ok : SpecChannelOk mask last channel) :
    ConsumeOk channel (rootSpecConsume channel.spec (some (.still channel.page)) mask) := by
  obtain ⟨unrecorded, accepted⟩ := consume_accepted ok
  have kept : ∀ commit, channel.flipped = some commit →
      ∃ holds : BankHolds channel.page (activeBank channel.page) commit,
        commit ∈ channel.closed ∧ SpecHeaderOk channel.page := by
    intro commit chosen
    cases ok.active with
    | blank _ unflipped => simp [chosen] at unflipped
    | fresh _ _ unflipped => simp [chosen] at unflipped
    | flipped other header holds flipped member =>
        cases flipped.symm.trans chosen
        exact ⟨holds, member, header⟩
  have source : RetainedOk channel.spec.retained channel.closed channel.flipped := ok.retained
  cases rootSpecConsume_case channel.spec channel.page mask with
  | applied bank selected later outcome retained =>
      obtain ⟨commit, member, holds⟩ := usable_holds ok selected.usable.intact
      have retains := bankWritten_retains holds.written
      have latest : ∀ other, channel.flipped = some other → other = commit := by
        intro other chosen
        obtain ⟨active, otherIn, header⟩ := kept other chosen
        have usable := flipped_usable ok chosen active otherIn
        have same := selected.unique (.active header usable)
        subst same
        have equal := (bankWritten_retains active.written).generation.symm.trans
          retains.generation
        exact ok.closed.unique otherIn member equal
      refine ⟨unrecorded, accepted, ?_, ⟨.inr ⟨commit, member, ?_⟩, ?_⟩, ?_⟩
      · rw [retained]
        exact UInt64.le_of_lt later
      · rw [retained]
        exact retains
      · intro other chosen
        rw [retained, latest other chosen, retains.generation]
        exact UInt64.le_refl _
      · intro other chosen
        rw [retained, latest other chosen]
        exact retains
  | unchanged bank selected equal outcome retained =>
      refine ⟨unrecorded, accepted, ?_, retained ▸ source, ?_⟩
      · rw [retained]
        exact UInt64.le_refl _
      · intro other chosen
        obtain ⟨active, otherIn, header⟩ := kept other chosen
        have usable := flipped_usable ok chosen active otherIn
        have same := selected.unique (.active header usable)
        subst same
        rw [(bankWritten_retains active.written).generation] at equal
        rw [retained]
        rcases source.source with compiled | ⟨held, heldIn, retains⟩
        · rw [compiled] at equal
          exact absurd (ok.closed.positive other otherIn) (equal ▸ UInt64.lt_irrefl _)
        · rw [ok.closed.unique otherIn heldIn (equal.trans retains.generation)]
          exact retains
  | nothing unselected outcome retained =>
      refine ⟨unrecorded, accepted, ?_, retained ▸ source, ?_⟩
      · rw [retained]
        exact UInt64.le_refl _
      · intro other chosen
        obtain ⟨active, otherIn, header⟩ := kept other chosen
        exact absurd (.active header (flipped_usable ok chosen active otherIn)) (unselected _)

theorem consume_step (ok : SpecChannelOk mask last channel) :
    SpecChannelOk mask last ((specChannel mask).step channel .consume).1 :=
  ⟨ok.active, ok.writer, ok.banks, ok.closed, (consume_ok ok).retained⟩

end Steps

/-! ### A commit run through -/

section Progress

variable {mask last : UInt64} {channel : SpecChannel} {count : Nat}

/-- The sequences are at most `count`, and so is the one that the writer would close at. -/
structure Room (count : Nat) (channel : SpecChannel) : Prop where
  banks : ∀ bank, seqAt channel.page bank ≤ count
  close : channel.writer.openSeq.toNat < count

theorem Room.mono {more : Nat} (room : Room count channel) (le : count ≤ more) :
    Room more channel :=
  ⟨fun bank => Nat.le_trans (room.banks bank) le, Nat.lt_of_lt_of_le room.close le⟩

theorem seqAt_assign_single (page : Memory) (bank other : Bank) (seq : UInt32) :
    seqAt (specLayout.assign page [(.bank bank .bankSeq, seq.toNat)]) other =
      if other = bank then seq.toNat else seqAt page other := by
  split_ifs with here
  · rw [here, seqAt_stored]
  · exact ((single_inBank bank .bankSeq seq.toNat).other page here).read .bankSeq

/-- A step stores no sequence but the one that opens its bank and the next. -/
theorem actStores_seq (writer : SpecWriter) (page : Memory) (kind : SpecWriterStepKind)
    (bank : Bank) :
    seqAt (specLayout.assign page (actStores writer page kind)) bank ≤
      max (seqAt page bank) (writer.openSeq.toNat + 1) := by
  have kept {stores : List (SpecField × Nat)}
      (other : ∀ assignment ∈ stores, assignment.1 ≠ .bank bank .bankSeq) :
      seqAt (specLayout.assign page stores) bank ≤
        max (seqAt page bank) (writer.openSeq.toNat + 1) := by
    rw [seqAt, specLayout.read_assign_other _ _ other]
    exact Nat.le_max_left _ _
  cases kind with
  | stepOpen =>
      rw [actStores, seqAt_assign_single]
      split_ifs <;> omega
  | stepClose =>
      have wrapped : (writer.openSeq + 1).toNat ≤ writer.openSeq.toNat + 1 := by
        rw [UInt32.toNat_add]
        exact Nat.mod_le _ _
      rw [actStores, seqAt_assign_single]
      split_ifs <;> omega
  | stepWrite =>
      apply kept
      intro assignment member same
      obtain ⟨field, target⟩ := writePayload_inBank writer assignment member
      have own := writePayload_seq member
      rw [target] at same own
      cases same
      exact own rfl
  | stepSeal | stepFlip => exact kept (by simp [actStores])

theorem openSeq_le (seq : Nat) : (UInt32.ofNat (nextOdd seq)).toNat ≤ seq + 2 := by
  have next : nextOdd seq ≤ seq + 2 := by
    rw [nextOdd]
    split_ifs <;> omega
  rw [UInt32.toNat_ofNat']
  exact Nat.le_trans (Nat.mod_le _ _) next

theorem Room.step (room : Room count channel) (step : SpecChannelStep) :
    Room (count + 3) ((specChannel mask).step channel step).1 := by
  have more : Room (count + 3) channel := room.mono (Nat.le_add_right _ _)
  cases step with
  | begin commit =>
      have opens (bank : Bank) : (UInt32.ofNat (nextOdd (seqAt channel.page bank))).toNat <
          count + 3 :=
        Nat.lt_succ_of_le (Nat.le_trans (openSeq_le _) (Nat.add_le_add_right (room.banks bank) 2))
      simp only [specChannel, specWriterBegin]
      split_ifs with busy bad zero full full
      · exact more
      · exact more
      · exact more
      · refine ⟨fun bank => ?_, opens _⟩
        rw [Option.getD_some, seqAt, (freshHeader_sameBank channel.page bank).read]
        exact more.banks bank
      · exact more
      · exact ⟨more.banks, opens _⟩
  | step kind =>
      simp only [specChannel]
      rcases writerStep_case channel kind with same | allowed
      · rw [same]
        exact more
      · refine ⟨fun bank => ?_, ?_⟩
        · rw [allowed.page]
          have stored := actStores_seq channel.writer channel.page kind bank
          have below := room.banks bank
          have close := room.close
          omega
        · rw [allowed.writer]
          exact more.close
  | restart => exact ⟨more.banks, Nat.succ_pos _⟩
  | consume => exact ⟨more.banks, more.close⟩

theorem Room.after (room : Room count channel) (steps : List SpecChannelStep) :
    Room (count + 3 * steps.length) ((specChannel mask).after channel steps) := by
  induction steps generalizing count channel with
  | nil => exact room
  | cons step steps ih =>
      refine (ih (room.step step)).mono ?_
      rw [List.length_cons]
      omega

theorem Room.roomy (room : Room count channel) (few : count + 3 < 2 ^ 32) :
    Roomy channel.page := by
  intro bank
  have below : specLayout.read channel.page (.bank bank .bankSeq) ≤ count := room.banks bank
  rw [nextOdd]
  split_ifs <;> omega

/-- A writer that is idle or done may begin on any page of a run. -/
theorem begin_accepted (ok : SpecChannelOk mask last channel) (roomy : Roomy channel.page)
    (free : channel.writer.phase = .idle ∨ channel.writer.phase = .flipped) (commit : Commit) :
    let next := ((specChannel mask).step channel (.begin commit)).1
    next.writer.page = true ∧ next.writer.phase = .idle ∧ next.writer.commit = commit := by
  have sound : HeaderSound channel.page := by
    cases ok.active with
    | blank zero => exact .inl (Memory.allZero_iff.mpr fun _ _ _ => zero _)
    | fresh header | flipped _ header => exact .inr header
  have began := (roomy_begin roomy free commit).mpr sound
  simp only [specChannel]
  cases specWriterBegin_case channel.writer channel.page commit with
  | refused _ _ failed => exact absurd began failed
  | fresh _ _ _ _ writer | next _ _ _ _ writer =>
      rw [writer]
      exact ⟨rfl, rfl, rfl⟩

/-- The steps of a writer that has begun run through to the flip. -/
theorem commitSteps_flip (page : channel.writer.page = true)
    (phase : channel.writer.phase = .idle) :
    ((specChannel mask).after channel (commitSteps.map .step)).flipped =
      some channel.writer.commit := by
  obtain ⟨bytes, ⟨_, _, bank, openSeq, commit⟩, spec, closed, flipped⟩ := channel
  obtain rfl := page
  obtain rfl := phase
  rfl

/-- Where the sequences have room, a commit that runs through is flipped. -/
theorem commit_flips (ok : SpecChannelOk mask last channel) (room : Room count channel)
    (few : count + 3 < 2 ^ 32)
    (free : channel.writer.phase = .idle ∨ channel.writer.phase = .flipped) (commit : Commit) :
    ((specChannel mask).after channel (.begin commit :: commitSteps.map .step)).flipped =
      some commit := by
  obtain ⟨page, phase, copied⟩ := begin_accepted ok (room.roomy few) free commit
  rw [Transducer.after_cons, commitSteps_flip page phase, copied]

theorem specChannelInit_room : Room 1 specChannelInit :=
  ⟨fun _ => Nat.le_trans (Nat.le_of_eq (Memory.load_eq_zero_of_allZero
    (Memory.allZero_iff.mpr fun _ _ _ => rfl))) (Nat.zero_le 1), Nat.one_pos⟩

theorem consume_spec (mask : UInt64) (channel : SpecChannel) :
    ((specChannel mask).step channel .consume).1.spec =
      (rootSpecConsume channel.spec (some (.still channel.page)) mask).1 := rfl

end Progress

/-! ### Runs -/

theorem specChannelInit_ok (mask : UInt64) : SpecChannelOk mask 0 specChannelInit where
  active := .blank (fun _ => rfl) rfl
  writer := .detached rfl
  banks _ := .inl (Memory.load_eq_zero_of_allZero (Memory.allZero_iff.mpr fun _ _ _ => rfl))
  closed := ⟨List.Pairwise.nil, fun _ member => absurd member List.not_mem_nil,
    fun _ member => absurd member List.not_mem_nil,
    fun _ member => absurd member List.not_mem_nil⟩
  retained := ⟨.inl rfl, fun _ flipped => by simp [specChannelInit] at flipped⟩

/-- Increasing commits keep the invariant up to their last generation. -/
theorem specChannel_ok {mask last : UInt64} {channel : SpecChannel}
    {before after : List SpecChannelStep} (ok : SpecChannelOk mask last channel)
    (increasing : Increasing mask last (before ++ after)) :
    ∃ latest, SpecChannelOk mask latest ((specChannel mask).after channel before) ∧
      Increasing mask latest after := by
  induction before generalizing last channel with
  | nil => exact ⟨last, ok, increasing⟩
  | cons step before ih =>
      cases step with
      | begin commit =>
          obtain ⟨later, declared, rest⟩ := increasing
          exact ih (begin_step ok later declared) rest
      | step kind => exact ih (writerStep_ok ok kind) increasing
      | restart => exact ih (restart_step ok) increasing
      | consume => exact ih (consume_step ok) increasing

/-- Every step keeps or raises the retained generation. -/
theorem specChannel_forward {mask last : UInt64} {channel : SpecChannel}
    (steps : List SpecChannelStep) (ok : SpecChannelOk mask last channel)
    (increasing : Increasing mask last steps) :
    channel.spec.retained.generation ≤
      ((specChannel mask).after channel steps).spec.retained.generation := by
  induction steps generalizing last channel with
  | nil => exact UInt64.le_refl _
  | cons step steps ih =>
      cases step with
      | begin commit =>
          obtain ⟨later, declared, rest⟩ := increasing
          exact ih (begin_step ok later declared) rest
      | step kind => exact ih (writerStep_ok ok kind) increasing
      | restart => exact ih (restart_step ok) increasing
      | consume =>
          have rest := ih (consume_step ok) increasing
          have consumed : channel.spec.retained.generation ≤
              ((specChannel mask).step channel .consume).1.spec.retained.generation := by
            simp only [specChannel]
            exact (consume_ok ok).forward
          rw [Transducer.after_cons]
          exact UInt64.le_trans consumed rest

/-- Over every run of commits with increasing generations, stopped and restarted
anywhere: Root retains the compiled policy or a closed commit, its generation
never decreases, and the next consumption records no rejection and retains the
last commit that returned ok through flip. -/
theorem spec_commits_consistent (mask : UInt64) (steps : List SpecChannelStep)
    (increasing : Increasing mask 0 steps) :
    let channel := (specChannel mask).after specChannelInit steps
    let result := rootSpecConsume channel.spec (some (.still channel.page)) mask
    (channel.spec.retained = rootSpecInit.retained ∨
      ∃ commit ∈ channel.closed, Retains channel.spec.retained commit) ∧
    (∀ before after, steps = before ++ after →
      ((specChannel mask).after specChannelInit before).spec.retained.generation ≤
        channel.spec.retained.generation) ∧
    (result.2.record = false ∧ result.2.reason = .unset) ∧
    (∀ commit, channel.flipped = some commit → Retains result.1.retained commit) := by
  intro channel result
  obtain ⟨latest, ok, _⟩ := specChannel_ok (specChannelInit_ok mask)
    (show Increasing mask 0 (steps ++ []) from (List.append_nil steps).symm ▸ increasing)
  have consumed : ConsumeOk channel result := consume_ok ok
  refine ⟨ok.retained.source, ?_, ⟨consumed.unrecorded, consumed.accepted⟩, consumed.latest⟩
  rintro before after rfl
  obtain ⟨reached, okBefore, more⟩ := specChannel_ok (specChannelInit_ok mask) increasing
  have forward := specChannel_forward after okBefore more
  rwa [← (specChannel mask).after_append] at forward

def sampleCommit (generation : UInt64) : Commit :=
  ⟨generation, fun child => if child.val < 3 then 5 else 0, fun _ => 0⟩

/-- One commit run through. -/
def sampleWhole (generation : UInt64) : List SpecChannelStep :=
  .begin (sampleCommit generation) :: commitSteps.map .step

/-- A commit that Root consumes, then one that stops once sealed, a consumption over its torn
bank, and a new writer. -/
def sampleStopped : List SpecChannelStep :=
  (sampleWhole 1 ++ [.consume]) ++
    (.begin (sampleCommit 2) :: [.stepOpen, .stepWrite, .stepSeal].map .step) ++
      [.consume, .restart]

def sampleCommitSteps : List SpecChannelStep := sampleStopped ++ sampleWhole 3

theorem sampleCommit_declared (generation : UInt64) : Declared 7 (sampleCommit generation) := by
  show ∀ child : ChildIndex, maskBit 7 child.val = false →
    (if child.val < 3 then (5 : UInt32) else 0) = 0 ∧ (0 : UInt8) = 0
  decide

/-- Root retains the first commit while the second is cut, and the third once it flips. -/
theorem spec_commits_consistent_sample :
    Increasing 7 0 sampleCommitSteps ∧
      let channel := (specChannel 7).after specChannelInit sampleCommitSteps
      channel.flipped = some (sampleCommit 3) ∧
        (sampleCommit 1).generation ≤ channel.spec.retained.generation ∧
        Retains (rootSpecConsume channel.spec (some (.still channel.page)) 7).1.retained
          (sampleCommit 3) := by
  have declared := sampleCommit_declared
  have increasing : Increasing 7 0 sampleCommitSteps :=
    ⟨by decide, declared 1, by decide, declared 2, by decide, declared 3, trivial⟩
  have first : ((specChannel 7).after specChannelInit (sampleWhole 1)).flipped =
      some (sampleCommit 1) :=
    commit_flips (specChannelInit_ok 7) specChannelInit_room (by decide) (.inl rfl) _
  have consumed : Retains
      ((specChannel 7).after specChannelInit (sampleWhole 1 ++ [.consume])).spec.retained
      (sampleCommit 1) := by
    rw [Transducer.after_append, Transducer.after_cons, Transducer.after_nil, consume_spec]
    have alone : Increasing 7 0 (sampleWhole 1) := ⟨by decide, declared 1, trivial⟩
    exact (spec_commits_consistent 7 (sampleWhole 1) alone).2.2.2 _ first
  obtain ⟨latest, ok, -⟩ := specChannel_ok (specChannelInit_ok 7)
    (show Increasing 7 0 (sampleStopped ++ sampleWhole 3) from increasing)
  have flipped : ((specChannel 7).after specChannelInit sampleCommitSteps).flipped =
      some (sampleCommit 3) := by
    rw [sampleCommitSteps, Transducer.after_append]
    exact commit_flips ok (specChannelInit_room.after sampleStopped) (by decide) (.inl rfl) _
  obtain ⟨-, forward, -, latest⟩ := spec_commits_consistent 7 sampleCommitSteps increasing
  refine ⟨increasing, flipped, ?_, latest _ flipped⟩
  rw [← consumed.generation]
  exact forward _ _ (List.append_assoc _ _ _)

end Chrysopolis.Root
