import Chrysopolis.Root.StatusChannel
import Chrysopolis.Root.StatusProperties
import Chrysopolis.Support.Seqlock
import Mathlib.Data.List.Nodup

/-! Consistent reads of the status page. While a publication is under way the
sequence is odd and no payload byte touches it, so the writer is a disciplined
one and every accepted copy is a completely published page. -/

set_option autoImplicit false

namespace Chrysopolis.Root

open Chrysopolis.Abi
open Chrysopolis.Support

/-! ### The writer -/

/-- The sequence as a number. -/
def seqOf (page : Memory) : Nat := statusLayout.read page (.header .seq)

theorem statusSeq_toNat (page : Memory) : (statusSeq page).toNat = seqOf page :=
  UInt64.toNat_ofNat_of_lt' (Nat.lt_of_lt_of_le (statusLayout.read_lt page (.header .seq))
    (Nat.le_of_eq (by decide)))

/-- What a reader can load: the sequence and the bytes. -/
def view (page : Memory) : Versioned Nat UInt8 := ⟨seqOf page, page⟩

/-- What a publication's checks promise of its counters. -/
structure CallReady (state : RootStatusState) (call : PublishCall) : Prop where
  few : call.events.length ≤ eventCount
  next : (state.seq + 1).toNat = state.seq.toNat + 1
  done : (state.seq + 2).toNat = state.seq.toNat + 2

theorem publishCheck_call {state : RootStatusState} {page : Option Memory} {call : PublishCall}
    (checked : publishCheck state page call.child call.record call.events = .publish) :
    CallReady state call := by
  simp only [publishCheck] at checked
  split_ifs at checked with disabled misused exhausted
  simp only [Bool.or_eq_true, decide_eq_true_eq, not_or, gt_iff_lt] at misused exhausted
  have room := UInt64.le_iff_toNat_le.mp (UInt64.not_lt.mp exhausted.1)
  have limit : (0xFFFFFFFFFFFFFFFF - 2 : UInt64).toNat = 2 ^ 64 - 3 := by decide
  have one : (1 : UInt64).toNat = 1 := by decide
  have two : (2 : UInt64).toNat = 2 := by decide
  refine ⟨Nat.le_trans (Nat.not_lt.mp misused.1) (by decide), ?_, ?_⟩
  · rw [UInt64.toNat_add, one]
    omega
  · rw [UInt64.toNat_add, two]
    omega

theorem assign_seq (page : Memory) (value : UInt64) :
    seqOf (statusLayout.assign page [headerStore .seq value.toNat]) = value.toNat := by
  have agree : Layout.Agree [headerStore .seq value.toNat] := by simp [Layout.Agree]
  have stored := statusLayout.read_assign_of_mem page agree (List.mem_singleton.mpr rfl)
  exact stored.trans (Nat.mod_eq_of_lt value.toNat_lt)

/-- No payload byte falls on the sequence. -/
theorem payload_apart {state : RootStatusState} {call : PublishCall}
    (few : call.events.length ≤ eventCount) {byte : Nat × UInt8}
    (member : byte ∈ call.payload state) : byte.1 < 16 ∨ 24 ≤ byte.1 := by
  obtain ⟨store, stored, inStore⟩ := List.mem_flatMap.mp member
  obtain ⟨assignment, assigned, rfl⟩ := List.mem_map.mp stored
  obtain ⟨lower, upper⟩ := Store.writes_range inStore
  have target := (publishPayload_store state call.child call.record call.now call.clockValid
    few assigned).1
  have other : assignment.1 ≠ .header .seq := by
    intro same
    rw [same] at target
    cases target with
    | header field dynamic => simp at dynamic
  have apart := statusLayout.apart assignment.1 (.header .seq) other
  have address : statusLayout.address (.header .seq) = 16 := rfl
  have width : statusLayout.width (.header .seq) = 8 := rfl
  simp only [address, width] at apart lower upper
  omega

theorem write_seq {state : RootStatusState} {call : PublishCall}
    (few : call.events.length ≤ eventCount) (page : Memory) {bytes : List (Nat × UInt8)}
    (stored : bytes ⊆ call.payload state) : seqOf (page.write bytes) = seqOf page := by
  apply Memory.load_congr
  intro position lower upper
  have address : statusLayout.address (.header .seq) = 16 := rfl
  have width : statusLayout.width (.header .seq) = 8 := rfl
  refine Memory.write_other _ _ _ fun byte member same => ?_
  have apart := payload_apart few (stored member)
  simp only [address, width] at lower upper
  omega

/-- Where the writer of a channel stands. -/
inductive WriterOk (channel : StatusChannel) : Prop where
  | idle (phase : channel.writer = .idle) (seq : seqOf channel.page = channel.status.seq.toNat)
      (last : channel.published.getLast? = some channel.page)
  | storing (call : PublishCall) (pending stored : List (Nat × UInt8)) (before : Memory)
      (phase : channel.writer = .storing call pending
        (publishPage channel.status before call.child call.record call.now call.clockValid
          call.events))
      (ready : CallReady channel.status call)
      (order : (stored ++ pending).Perm (call.payload channel.status))
      (page : channel.page =
        (statusLayout.assign before [headerStore .seq (channel.status.seq + 1).toNat]).write stored)

theorem storing_seq {state : RootStatusState} {call : PublishCall}
    {pending stored : List (Nat × UInt8)} {before page : Memory} (ready : CallReady state call)
    (order : (stored ++ pending).Perm (call.payload state))
    (eq : page =
      (statusLayout.assign before [headerStore .seq (state.seq + 1).toNat]).write stored) :
    seqOf page = state.seq.toNat + 1 := by
  have within : stored ⊆ call.payload state := fun byte member =>
    order.subset (List.mem_append_left _ member)
  rw [eq, write_seq ready.few _ within, assign_seq, ready.next]

/-- With every byte stored, the even store completes the page published in one step. -/
theorem release_page {state : RootStatusState} {call : PublishCall} {stored : List (Nat × UInt8)}
    (before : Memory) (ready : CallReady state call)
    (order : stored.Perm (call.payload state)) :
    statusLayout.assign
        ((statusLayout.assign before [headerStore .seq (state.seq + 1).toNat]).write stored)
        [headerStore .seq (state.seq + 2).toNat] =
      publishPage state before call.child call.record call.now call.clockValid call.events := by
  have agree := (publishPayload_values state call.child call.record call.now call.clockValid
    ready.few).agree
  rw [publishPage_eq, Memory.write_perm_store _ (statusLayout.stores_coherent agree) order]
  rfl

/-- The sequences of the published pages only grow, and the next is even. -/
structure Sequenced (channel : StatusChannel) : Prop where
  even : channel.status.seq.toNat % 2 = 0
  positive : 0 < channel.status.seq.toNat
  ordered : channel.published.Pairwise fun earlier later => seqOf earlier < seqOf later
  below : ∀ page ∈ channel.published, seqOf page ≤ channel.status.seq.toNat

/-- What a step of the writer keeps. -/
structure WriterStep (before after : StatusChannel) : Prop where
  writer : WriterOk after
  sequenced : Sequenced after
  disciplined : (view before.page).Disciplined (view after.page)
  published : before.published ⊆ after.published
  reader : after.reader = before.reader

theorem observe_seq (state : RootStatusState) (child : RootChild)
    (change : RootStatusObservation → RootStatusObservation) :
    (observe state child change).seq = state.seq := by
  simp only [observe]
  split_ifs <;> rfl

/-- Notes leave the sequence alone. -/
theorem StatusNote.apply_seq (state : RootStatusState) (note : StatusNote) :
    (note.apply state).seq = state.seq := by
  cases note with
  | fault => exact observe_seq ..
  | restart child now clockValid beamRestart =>
      simp only [StatusNote.apply, rootStatusNoteRestart]
      split_ifs <;> first | rfl | exact observe_seq ..
  | gone => exact observe_seq ..
  | policy => rfl

/-- A change of the status state that keeps the sequence. -/
theorem status_step {channel : StatusChannel} {status : RootStatusState}
    (idle : channel.writer = .idle) (same : status.seq = channel.status.seq)
    (writer : WriterOk channel) (sequenced : Sequenced channel) :
    WriterStep channel { channel with status } := by
  refine ⟨?_, ⟨?_, ?_, sequenced.ordered, ?_⟩, .refl _, List.Subset.refl _, rfl⟩
  · cases writer with
    | idle _ seq last => exact .idle idle (seq.trans (congrArg UInt64.toNat same.symm)) last
    | storing call pending stored before phase => simp [idle] at phase
  · exact same ▸ sequenced.even
  · exact same ▸ sequenced.positive
  · exact same ▸ sequenced.below

theorem beginPublish_step {channel : StatusChannel} (call : PublishCall)
    (idle : channel.writer = .idle) (writer : WriterOk channel)
    (sequenced : Sequenced channel) : WriterStep channel (beginPublish channel call) := by
  by_cases checked : publishCheck channel.status (some channel.page) call.child call.record
      call.events = .publish
  · have ready := publishCheck_call checked
    cases writer with
    | storing call pending stored before phase => simp [idle] at phase
    | idle _ seq last =>
        simp only [beginPublish, rootStatusPublish, checked, if_true]
        refine ⟨?_, ⟨sequenced.even, sequenced.positive, sequenced.ordered, sequenced.below⟩,
          .of_lt ?_, List.Subset.refl _, rfl⟩
        · exact .storing call _ [] channel.page rfl ready (List.Perm.refl _) rfl
        · change seqOf channel.page < seqOf _
          rw [assign_seq, ready.next, seq]
          exact Nat.lt_succ_self _
  · simp only [beginPublish, if_neg checked]
    refine status_step idle ?_ writer sequenced
    simp only [rootStatusPublish]
    cases check : publishCheck channel.status (some channel.page) call.child call.record
      call.events <;> first | rfl | exact absurd check checked

theorem store_step {channel : StatusChannel} {call : PublishCall}
    {pending : List (Nat × UInt8)} {whole : Memory} {index : Nat} {byte : Nat × UInt8}
    (phase : channel.writer = .storing call pending whole) (chosen : pending[index]? = some byte)
    (writer : WriterOk channel) (sequenced : Sequenced channel) :
    WriterStep channel
      { channel with
        page := channel.page.write [byte]
        writer := .storing call (pending.eraseIdx index) whole } := by
  cases writer with
  | idle idle => simp [idle] at phase
  | storing current waiting stored before same ready order page =>
      obtain ⟨rfl, rfl, rfl⟩ : current = call ∧ waiting = pending ∧ _ = whole := by
        simpa [phase, eq_comm] using same
      have rest : (stored ++ [byte] ++ waiting.eraseIdx index).Perm
          (current.payload channel.status) := by
        refine List.Perm.trans ?_ order
        rw [List.append_assoc, List.perm_append_left_iff, List.singleton_append]
        obtain ⟨bound, rfl⟩ := List.getElem?_eq_some_iff.mp chosen
        exact List.getElem_cons_eraseIdx_perm bound
      have next : channel.page.write [byte] =
          (statusLayout.assign before
            [headerStore .seq (channel.status.seq + 1).toNat]).write (stored ++ [byte]) := by
        rw [Memory.write_append, ← page]
      have odd : seqOf channel.page % 2 = 1 := by
        have := sequenced.even
        rw [storing_seq ready order page]
        omega
      have unmoved : seqOf (channel.page.write [byte]) = seqOf channel.page :=
        (storing_seq ready rest next).trans (storing_seq ready order page).symm
      exact ⟨.storing current _ _ before rfl ready rest next,
        ⟨sequenced.even, sequenced.positive, sequenced.ordered, sequenced.below⟩,
        .of_odd odd unmoved, List.Subset.refl _, rfl⟩

theorem release_step {channel : StatusChannel} {call : PublishCall} {whole : Memory}
    (phase : channel.writer = .storing call [] whole) (writer : WriterOk channel)
    (sequenced : Sequenced channel) :
    WriterStep channel
      { channel with
        status := publishedState channel.status call.events
        page := statusLayout.assign channel.page
          [headerStore .seq (channel.status.seq + 2).toNat]
        writer := .idle
        published := channel.published ++ [whole] } := by
  cases writer with
  | idle idle => simp [idle] at phase
  | storing current waiting stored before same ready order page =>
      obtain ⟨rfl, rfl, rfl⟩ : current = call ∧ waiting = [] ∧ _ = whole := by
        simpa [phase, eq_comm] using same
      have done := ready.done
      have seq := storing_seq ready order page
      rw [List.append_nil] at order
      have complete : statusLayout.assign channel.page
          [headerStore .seq (channel.status.seq + 2).toNat] = _ :=
        page ▸ release_page before ready order
      have next := assign_seq channel.page (channel.status.seq + 2)
      rw [complete] at next ⊢
      refine ⟨.idle rfl next (by simp), ⟨?_, ?_, ?_, ?_⟩, .of_lt ?_,
        List.subset_append_left _ _, rfl⟩
      · have := sequenced.even
        change (channel.status.seq + 2).toNat % 2 = 0
        omega
      · change 0 < (channel.status.seq + 2).toNat
        omega
      · refine List.pairwise_append.mpr ⟨sequenced.ordered, List.pairwise_singleton _ _, ?_⟩
        intro earlier member later new
        obtain rfl := List.mem_singleton.mp new
        have := sequenced.below earlier member
        omega
      · intro other member
        change seqOf other ≤ (channel.status.seq + 2).toNat
        rcases List.mem_append.mp member with old | new
        · have := sequenced.below other old
          omega
        · obtain rfl := List.mem_singleton.mp new
          exact Nat.le_of_eq next
      · have later : seqOf channel.page < (channel.status.seq + 2).toNat := by omega
        exact Nat.lt_of_lt_of_eq later next.symm

theorem WriterStep.refl {channel : StatusChannel} (writer : WriterOk channel)
    (sequenced : Sequenced channel) : WriterStep channel channel :=
  ⟨writer, sequenced, .refl _, List.Subset.refl _, rfl⟩

/-- Every step that is not the reader's is a writer's step. -/
theorem channelStep_writer {channel : StatusChannel} {step : ChannelStep}
    (writes : step ≠ .read) (writer : WriterOk channel) (sequenced : Sequenced channel) :
    WriterStep channel (channelStep channel step) := by
  have still := WriterStep.refl writer sequenced
  cases step with
  | read => exact absurd rfl writes
  | note note =>
      cases phase : channel.writer with
      | idle =>
          simp only [channelStep, phase]
          exact phase ▸ status_step phase (note.apply_seq _) writer sequenced
      | storing => simpa only [channelStep, phase] using still
  | publish call =>
      cases phase : channel.writer with
      | idle =>
          simp only [channelStep, phase]
          exact beginPublish_step call phase writer sequenced
      | storing => simpa only [channelStep, phase] using still
  | store index =>
      cases phase : channel.writer with
      | idle => simpa only [channelStep, phase] using still
      | storing call pending whole =>
          cases chosen : pending[index]? with
          | none => simpa only [channelStep, phase, chosen] using still
          | some byte =>
              simp only [channelStep, phase, chosen]
              exact store_step phase chosen writer sequenced
  | release =>
      cases phase : channel.writer with
      | idle => simpa only [channelStep, phase] using still
      | storing call pending whole =>
          cases pending with
          | cons byte rest => simpa only [channelStep, phase] using still
          | nil =>
              simp only [channelStep, phase]
              exact release_step phase writer sequenced

/-! ### The reader -/

/-- What a reader that started with `output` has done so far. -/
structure ReaderOk (channel : StatusChannel) (output : Memory) : Prop where
  copying : ∀ left seq count, channel.reader.phase = .copying left seq count →
    (view channel.page).Copying seq.toNat (fun position => position < count)
      channel.reader.scratch
  accepted : channel.reader.phase = .done .ok →
    ∃ page ∈ channel.published, channel.reader.output = copyOut page output
  untouched : channel.reader.phase ≠ .done .ok → channel.reader.output = output

/-- The reader keeps what it has through every step of the writer. -/
theorem ReaderOk.writer {before after : StatusChannel} {output : Memory}
    (reader : ReaderOk before output) (step : WriterStep before after) :
    ReaderOk after output := by
  refine ⟨?_, ?_, ?_⟩
  · intro left seq count phase
    rw [step.reader] at phase ⊢
    exact (reader.copying left seq count phase).step step.disciplined
  · intro phase
    rw [step.reader] at phase ⊢
    obtain ⟨page, member, same⟩ := reader.accepted phase
    exact ⟨page, step.published member, same⟩
  · intro phase
    rw [step.reader] at phase ⊢
    exact reader.untouched phase

/-- A reader that has not accepted and is not copying. -/
theorem ReaderOk.resting {channel : StatusChannel} {output : Memory}
    (fresh : channel.reader.output = output)
    (idle : ∀ left seq count, channel.reader.phase ≠ .copying left seq count)
    (open_ : channel.reader.phase ≠ .done .ok) : ReaderOk channel output :=
  ⟨fun left seq count phase => absurd phase (idle left seq count),
    fun phase => absurd phase open_, fun _ => fresh⟩

/-- A page at an even sequence is a completely published one. -/
theorem even_published {channel : StatusChannel} (writer : WriterOk channel)
    (sequenced : Sequenced channel) (even : seqOf channel.page % 2 = 0) :
    channel.page ∈ channel.published := by
  cases writer with
  | idle phase seq last => exact List.mem_of_getLast? last
  | storing call pending stored before phase ready order page =>
      have := sequenced.even
      rw [storing_seq ready order page] at even
      omega

/-- The sequence load at the start of an attempt. -/
theorem copyBegin_reader {channel : StatusChannel} {output : Memory} {left : Nat}
    (fresh : channel.reader.output = output) :
    ReaderOk
      { channel with
        reader :=
          { channel.reader with phase := rootStatusCopyBegin channel.page left } } output := by
  simp only [rootStatusCopyBegin]
  split_ifs with refused
  · exact .resting fresh (fun _ _ _ same => ReadPhase.noConfusion same)
      fun same => ReadPhase.noConfusion same
  · have even : seqOf channel.page % 2 = 0 := by
      simp only [Bool.or_eq_true, decide_eq_true_eq, not_or, not_not] at refused
      have odd := congrArg UInt64.toNat refused.2
      rw [UInt64.toNat_and, statusSeq_toNat] at odd
      exact (Nat.and_one_is_mod _).symm.trans odd
    refine ⟨?_, fun same => ReadPhase.noConfusion same, fun _ => fresh⟩
    intro later seq count same
    cases same
    rw [statusSeq_toNat]
    exact .start (view channel.page) even (fun _ => Nat.not_lt_zero _) _

/-- The second sequence load and the verdict. -/
theorem copyFinish_reader {channel : StatusChannel} {output : Memory} {left : Nat}
    {seq : UInt64} {count : Nat} (writer : WriterOk channel) (sequenced : Sequenced channel)
    (fresh : channel.reader.output = output) (whole : statusPageSize ≤ count)
    (copying : (view channel.page).Copying seq.toNat (fun position => position < count)
      channel.reader.scratch) :
    ReaderOk
      { channel with reader := rootStatusCopyFinish channel.page channel.reader left seq }
      output := by
  simp only [rootStatusCopyFinish]
  split_ifs with moved invalid
  · exact .resting fresh (fun _ _ _ same => ReadPhase.noConfusion same)
      fun same => ReadPhase.noConfusion same
  · exact .resting fresh (fun _ _ _ same => ReadPhase.noConfusion same)
      fun same => by cases same
  · have same : seqOf channel.page = seq.toNat := by
      rw [← statusSeq_toNat, not_not.mp moved]
    have stable := even_published writer sequenced (by rw [same]; exact copying.even)
    refine ⟨fun _ _ _ phase => ReadPhase.noConfusion phase, fun _ => ⟨_, stable, ?_⟩,
      fun open_ => absurd rfl open_⟩
    funext position
    simp only [copyOut]
    split_ifs with inPage
    · exact copying.faithful same position (Nat.lt_of_lt_of_le inPage whole)
    · rw [fresh]

theorem readStep_reader {channel : StatusChannel} {output : Memory} (writer : WriterOk channel)
    (sequenced : Sequenced channel) (reader : ReaderOk channel output) :
    ReaderOk { channel with reader := readStep channel.page channel.reader } output := by
  cases phase : channel.reader.phase with
  | attempt left =>
      have fresh := reader.untouched (by simp [phase])
      cases left with
      | zero =>
          simp only [readStep, phase]
          exact .resting fresh (fun _ _ _ same => ReadPhase.noConfusion same)
            fun same => by cases same
      | succ left =>
          simp only [readStep, phase]
          exact copyBegin_reader fresh
  | copying left seq count =>
      have fresh := reader.untouched (by simp [phase])
      have copying := reader.copying left seq count phase
      by_cases more : count < statusPageSize
      · simp only [readStep, phase, if_pos more]
        refine ⟨?_, fun same => ReadPhase.noConfusion same, fun _ => fresh⟩
        intro later next done same
        cases same
        exact copying.copy count fun position below => by omega
      · simp only [readStep, phase, if_neg more]
        exact copyFinish_reader writer sequenced fresh (Nat.not_lt.mp more) copying
  | done result =>
      simpa only [readStep, phase] using reader

/-! ### Runs -/

/-- The invariant of the channel. -/
structure ChannelOk (channel : StatusChannel) (output : Memory) : Prop where
  writer : WriterOk channel
  sequenced : Sequenced channel
  reader : ReaderOk channel output

theorem channelStep_ok {channel : StatusChannel} {output : Memory} (step : ChannelStep)
    (ok : ChannelOk channel output) : ChannelOk (channelStep channel step) output := by
  by_cases reads : step = .read
  · subst reads
    have same : channelStep channel .read =
        { channel with reader := readStep channel.page channel.reader } := by
      simp only [channelStep]
    rw [same]
    refine ⟨?_, ⟨ok.sequenced.even, ok.sequenced.positive, ok.sequenced.ordered,
      ok.sequenced.below⟩, readStep_reader ok.writer ok.sequenced ok.reader⟩
    cases ok.writer with
    | idle phase seq last => exact .idle phase seq last
    | storing call pending stored before phase ready order page =>
        exact .storing call pending stored before phase ready order page
  · have moved := channelStep_writer reads ok.writer ok.sequenced
    exact ⟨moved.writer, moved.sequenced, ok.reader.writer moved⟩

theorem channelRun_ok {channel : StatusChannel} {output : Memory} (steps : List ChannelStep)
    (ok : ChannelOk channel output) : ChannelOk (channelRun channel steps) output := by
  induction steps generalizing channel with
  | nil => exact ok
  | cons step steps ih => exact ih (channelStep_ok step ok)

theorem rootStatusRead_phase (args : ReadArgs) :
    rootStatusRead args = .done .size ∨ ∃ left, rootStatusRead args = .attempt left := by
  simp only [rootStatusRead]
  split_ifs
  · exact .inl rfl
  · exact .inr ⟨_, rfl⟩

theorem channelInit_ok (bytes : Memory) (presentMask now frequency : UInt64)
    (budget : RootChild → UInt32) (args : ReadArgs) (scratch output : Memory) :
    ChannelOk (channelInit bytes presentMask now frequency budget args scratch output)
      output := by
  have seq : seqOf (channelInit bytes presentMask now frequency budget args scratch
      output).page = 2 := initPage_seq _ _ _
  have next : (channelInit bytes presentMask now frequency budget args scratch
      output).status.seq.toNat = 2 := rfl
  refine ⟨.idle rfl seq rfl, ⟨?_, ?_, List.pairwise_singleton _ _, ?_⟩, ?_⟩
  · rw [next]
  · rw [next]
    exact Nat.zero_lt_two
  · intro page member
    obtain rfl := List.mem_singleton.mp member
    exact Nat.le_of_eq seq
  · rcases rootStatusRead_phase args with size | ⟨left, attempt⟩
    · exact .resting rfl (fun _ _ _ same => by cases size.symm.trans same)
        fun same => by cases size.symm.trans same
    · exact .resting rfl (fun _ _ _ same => by cases attempt.symm.trans same)
        fun same => by cases attempt.symm.trans same

theorem statusSeq_copyOut (page output : Memory) :
    statusSeq (copyOut page output) = statusSeq page := by
  refine congrArg UInt64.ofNat (Memory.load_congr fun position lower upper => ?_)
  have inPage : position < statusPageSize := Nat.lt_trans upper (by decide)
  exact if_pos inPage

/-- No two published pages share a sequence. -/
theorem Sequenced.unique {channel : StatusChannel} (sequenced : Sequenced channel)
    {page other : Memory} (member : page ∈ channel.published)
    (otherIn : other ∈ channel.published) (same : statusSeq other = statusSeq page) :
    other = page := by
  have distinct : (channel.published.map seqOf).Nodup :=
    List.pairwise_map.mpr (sequenced.ordered.imp Nat.ne_of_lt)
  refine List.inj_on_of_nodup_map distinct otherIn member ?_
  rw [← statusSeq_toNat, ← statusSeq_toNat, same]

/-- Over every interleaving: an accepted read is byte for byte one completely
published page, the only one published under the sequence it reports, and any
other answer leaves the caller's buffer as it was. -/
theorem rootStatusRead_consistent (bytes : Memory) (presentMask now frequency : UInt64)
    (budget : RootChild → UInt32) (args : ReadArgs) (scratch output : Memory)
    (steps : List ChannelStep) :
    let channel :=
      channelRun (channelInit bytes presentMask now frequency budget args scratch output) steps
    (channel.reader.phase = .done .ok →
      ∃ page ∈ channel.published, channel.reader.output = copyOut page output ∧
        statusSeq channel.reader.output = statusSeq page ∧
        ∀ other ∈ channel.published, statusSeq other = statusSeq page → other = page) ∧
    (channel.reader.phase ≠ .done .ok → channel.reader.output = output) ∧
    (channel.writer = .idle → channel.published.getLast? = some channel.page) := by
  intro channel
  have ok := channelRun_ok steps
    (channelInit_ok bytes presentMask now frequency budget args scratch output)
  refine ⟨fun accepted => ?_, ok.reader.untouched, fun idle => ?_⟩
  · obtain ⟨page, member, same⟩ := ok.reader.accepted accepted
    refine ⟨page, member, same, ?_, fun other otherIn => ok.sequenced.unique member otherIn⟩
    rw [same, statusSeq_copyOut]
  · cases ok.writer with
    | idle phase seq last => exact last
    | storing call pending stored before phase => exact absurd (phase.symm.trans idle) (by simp)

end Chrysopolis.Root
