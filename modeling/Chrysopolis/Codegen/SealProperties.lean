import Chrysopolis.Codegen.Checksum
import Chrysopolis.Codegen.CodecProperties
import Chrysopolis.Abi.SpecWriter

/-! Sealed banks. The emitted seal, the emitted condition and the C computation of a CRC
rule feed the same bytes to the checksum: the rule's span with the stored CRC and the
zeroed spans as zero. -/

set_option autoImplicit false

namespace Chrysopolis.Codegen

open Chrysopolis.Support
open Chrysopolis.Abi

/-! ### Pieces of a binary -/

/-- A binary cut at the pieces. -/
def cut : List Piece → Bytes → List (Piece × Bytes)
  | [], _ => []
  | piece :: rest, bytes => (piece, bytes.take piece.len) :: cut rest (bytes.drop piece.len)

/-- What a piece contributes to the checksum. -/
def Piece.input (piece : Piece) (bytes : Bytes) : Bytes :=
  match piece.kind with
  | .keep => bytes
  | .crc | .zeroed => List.replicate piece.len 0

/-- What a piece is in the sealed binary. -/
def Piece.sealed (crc : UInt32) (piece : Piece) (bytes : Bytes) : Bytes :=
  match piece.kind with
  | .crc => little crc.toNat (piece.len * 8)
  | .keep | .zeroed => bytes

section Evaluation

variable {piece : Piece} {index : Nat} {bound : Pieces} {bytes : Bytes}

theorem Piece.part_eval (here : piece.kind ≠ .crc → bound.get index = .ok bytes) :
    (piece.part index).eval bound = .ok (piece.input bytes) := by
  have width : piece.len * 8 / 8 = piece.len := Nat.mul_div_cancel _ (by decide)
  cases kind : piece.kind with
  | keep =>
      rw [Piece.part, Piece.input, kind]
      exact here (by rw [kind]; decide)
  | crc => rw [Piece.part, Piece.input, kind, SealPart.eval, width]
  | zeroed => rw [Piece.part, Piece.input, kind, SealPart.eval, width]

theorem Piece.segment_eval (here : piece.kind ≠ .crc → bound.get index = .ok bytes)
    (crc : UInt32) : (piece.segment index).eval bound crc = .ok (piece.sealed crc bytes) := by
  cases kind : piece.kind with
  | crc => rw [Piece.segment, Piece.sealed, kind, SealSegment.eval]
  | keep | zeroed =>
      rw [Piece.segment, Piece.sealed, kind]
      exact here (by rw [kind]; decide)

end Evaluation

/-- The head of a sealing function binds the pieces, from which the checksummed list and
the sealed binary are built. -/
theorem matchPieces_cut {pieces : List Piece} {bytes : Bytes}
    (length : bytes.length = (pieces.map Piece.len).sum) (index : Nat) (bindings : Pieces) :
    ∃ bound, matchPieces bindings
        ((pieces.zipIdx index).map fun piece => piece.1.pattern piece.2) bytes = some bound ∧
      (∀ other, other < index → bound other = bindings other) ∧
      ((pieces.zipIdx index).map fun piece => piece.1.part piece.2).mapM (SealPart.eval bound) =
        .ok ((cut pieces bytes).map fun piece => piece.1.input piece.2) ∧
      ∀ crc, ((pieces.zipIdx index).map fun piece => piece.1.segment piece.2).mapM
          (SealSegment.eval bound crc) =
        .ok ((cut pieces bytes).map fun piece => piece.1.sealed crc piece.2) := by
  induction pieces generalizing bytes index bindings with
  | nil =>
      obtain rfl := List.length_eq_zero_iff.mp length
      exact ⟨bindings, rfl, fun _ _ => rfl, rfl, fun _ => rfl⟩
  | cons piece rest ih =>
      rw [List.map_cons, List.sum_cons] at length
      have tail : (bytes.drop piece.len).length = (rest.map Piece.len).sum := by
        rw [List.length_drop]; omega
      have fits : piece.len ≤ bytes.length := by omega
      rw [List.zipIdx_cons, List.map_cons, List.map_cons, List.map_cons, cut, List.map_cons]
      simp only [List.map_cons, List.mapM_cons]
      by_cases stored : piece.kind = .crc
      · obtain ⟨bound, matched, frame, parts, segments⟩ := ih tail (index + 1) bindings
        have pattern : piece.pattern index = .skip (piece.len * 8) := by
          rw [Piece.pattern, stored]
        refine ⟨bound, ?_, fun other below => frame other (by omega), ?_, fun crc => ?_⟩
        · rw [pattern, matchPieces, Nat.mul_div_cancel _ (by decide), if_pos fits, matched]
        · rw [Piece.part_eval (absurd stored), parts]
          rfl
        · rw [Piece.segment_eval (absurd stored), segments]
          rfl
      · obtain ⟨bound, matched, frame, parts, segments⟩ := ih tail (index + 1)
          (Function.update bindings index (some (bytes.take piece.len)))
        have here : bound.get index = .ok (bytes.take piece.len) := by
          rw [Pieces.get, frame index (Nat.lt_succ_self index), Function.update_self]
          rfl
        have pattern : piece.pattern index = .piece index piece.len := by
          unfold Piece.pattern
          split
          · next crc => exact absurd crc stored
          all_goals rfl
        refine ⟨bound, ?_, fun other below => ?_, ?_, fun crc => ?_⟩
        · rw [pattern, matchPieces, if_pos fits, matched]
        · rw [frame other (by omega), Function.update_of_ne (by omega)]
        · rw [Piece.part_eval fun _ => here, parts]
          rfl
        · rw [Piece.segment_eval fun _ => here, segments]
          rfl

/-! ### Pieces of a rule -/

/-- Spans in order between a cursor and a stop, as a CRC rule's table must have them. -/
def SortedSpans (cursor stop : Nat) : List Span → Prop
  | [] => cursor ≤ stop
  | span :: rest => cursor ≤ span.offset ∧ SortedSpans (span.offset + span.len) stop rest

theorem SortedSpans.le {cursor stop : Nat} {spans : List Span}
    (sorted : SortedSpans cursor stop spans) : cursor ≤ stop := by
  induction spans generalizing cursor with
  | nil => exact sorted
  | cons span rest ih =>
      have := ih sorted.2
      have := sorted.1
      omega

/-- The piece between a cursor and a span, if any, stands for the bytes between them. -/
theorem cut_gap (cursor offset : Nat) (rest : List Piece) (bytes : Bytes)
    (render : Piece → Bytes → Bytes)
    (keeps : ∀ offset len bytes, render ⟨offset, len, .keep⟩ bytes = bytes) :
    ((cut ((if offset > cursor then [⟨cursor, offset - cursor, .keep⟩] else []) ++ rest)
        bytes).flatMap fun piece => render piece.1 piece.2) =
      bytes.take (offset - cursor) ++
        (cut rest (bytes.drop (offset - cursor))).flatMap fun piece => render piece.1 piece.2 := by
  split
  · rw [List.singleton_append, cut, List.flatMap_cons, keeps]
  · have none : offset - cursor = 0 := by omega
    rw [none]
    rfl

theorem piecesFrom_len {cursor stop : Nat} {spans : List (Span × PieceKind)}
    (sorted : SortedSpans cursor stop (spans.map Prod.fst)) :
    ((piecesFrom cursor stop spans).map Piece.len).sum = stop - cursor := by
  induction spans generalizing cursor with
  | nil =>
      rw [piecesFrom]
      split
      · rfl
      · change 0 = stop - cursor
        omega
  | cons span rest ih =>
      obtain ⟨before, later⟩ := sorted
      have tail := ih later
      have stopLe := later.le
      rw [piecesFrom, List.map_append, List.sum_append, List.map_cons, List.sum_cons, tail]
      split
      · simp only [List.map_cons, List.map_nil, List.sum_cons, List.sum_nil]
        omega
      · simp only [List.map_nil, List.sum_nil]
        omega

theorem piecesFrom_zeroed {cursor stop : Nat} {zeroed : List Span} {piece : Piece}
    (member : piece ∈ piecesFrom cursor stop (zeroed.map fun span => (span, .zeroed))) :
    piece.kind ≠ .crc := by
  induction zeroed generalizing cursor with
  | nil =>
      rw [List.map_nil, piecesFrom] at member
      split at member
      · rw [List.mem_singleton.mp member]
        exact nofun
      · cases member
  | cons span rest ih =>
      rw [List.map_cons, piecesFrom] at member
      rcases List.mem_append.mp member with gap | member
      · split at gap
        · rw [List.mem_singleton.mp gap]
          exact nofun
        · cases gap
      · rcases List.mem_cons.mp member with rfl | later
        · exact nofun
        · exact ih later

/-- Away from the stored CRC a sealed binary keeps its bytes. -/
theorem cut_sealed {pieces : List Piece} (kept : ∀ piece ∈ pieces, piece.kind ≠ .crc)
    (crc : UInt32) {bytes : Bytes} (length : bytes.length = (pieces.map Piece.len).sum) :
    ((cut pieces bytes).flatMap fun piece => piece.1.sealed crc piece.2) = bytes := by
  induction pieces generalizing bytes with
  | nil => exact (List.length_eq_zero_iff.mp length).symm
  | cons piece rest ih =>
      obtain ⟨head, tail⟩ := List.forall_mem_cons.mp kept
      rw [List.map_cons, List.sum_cons] at length
      have same : piece.sealed crc (bytes.take piece.len) = bytes.take piece.len := by
        unfold Piece.sealed
        split
        · next stored => exact absurd stored head
        all_goals rfl
      rw [cut, List.flatMap_cons, ih tail (by rw [List.length_drop]; omega), same,
        List.take_append_drop]

/-- A CRC rule as the checker tables admit it: a word for the CRC, and the spans in order
within the span it covers. -/
structure CrcRule where
  span : Span
  crc : IntAt
  zeroed : List Span
  width : crc.width = 4
  sorted : SortedSpans span.offset (span.offset + span.len) (⟨crc.offset, crc.width⟩ :: zeroed)

namespace CrcRule

variable (rule : CrcRule)

/-- The bytes before the stored CRC. -/
def lead : Nat := rule.crc.offset - rule.span.offset

def pieces : List Piece := crcPieces rule.span rule.crc rule.zeroed

/-- The stored CRC, then the spans read as zero. -/
def spans : List (Span × PieceKind) :=
  (⟨rule.crc.offset, rule.crc.width⟩, .crc) :: rule.zeroed.map fun span => (span, .zeroed)

/-- The pieces after the stored CRC. -/
def later : List Piece :=
  piecesFrom (rule.crc.offset + rule.crc.width) (rule.span.offset + rule.span.len)
    (rule.zeroed.map fun span => (span, .zeroed))

/-- The bytes under the checksum. -/
def input (bytes : Bytes) : Bytes :=
  (cut rule.pieces bytes).flatMap fun piece => piece.1.input piece.2

/-- The binary with its own CRC stored. -/
def sealBytes (bytes : Bytes) : Bytes :=
  bytes.take rule.lead ++
    (leBytes 4 (erlangCrc32 (rule.input bytes)).toNat ++ bytes.drop (rule.lead + 4))

theorem start_le : rule.span.offset ≤ rule.crc.offset := rule.sorted.1

theorem crc_le : rule.crc.offset + 4 ≤ rule.span.offset + rule.span.len :=
  rule.width ▸ rule.sorted.2.le

theorem lead_le : rule.lead + 4 ≤ rule.span.len := by
  have start := rule.start_le
  have stop := rule.crc_le
  rw [lead]
  omega

theorem pieces_eq : rule.pieces =
    (if rule.crc.offset > rule.span.offset then
      [⟨rule.span.offset, rule.crc.offset - rule.span.offset, .keep⟩] else []) ++
      ⟨rule.crc.offset, rule.crc.width, .crc⟩ :: rule.later := rfl

theorem zeroed_fst :
    (rule.zeroed.map fun span => (span, PieceKind.zeroed)).map Prod.fst = rule.zeroed := by
  rw [List.map_map]
  exact List.map_id _

theorem spans_fst :
    rule.spans.map Prod.fst = ⟨rule.crc.offset, rule.crc.width⟩ :: rule.zeroed :=
  congrArg _ rule.zeroed_fst

theorem spans_sorted : SortedSpans rule.span.offset (rule.span.offset + rule.span.len)
    (rule.spans.map Prod.fst) :=
  rule.spans_fst ▸ rule.sorted

theorem spans_skipped : ∀ span ∈ rule.spans, span.2 ≠ .keep := by
  refine List.forall_mem_cons.mpr ⟨nofun, ?_⟩
  rw [List.forall_mem_map]
  exact fun _ _ => nofun

theorem pieces_len : (rule.pieces.map Piece.len).sum = rule.span.len :=
  (piecesFrom_len rule.spans_sorted).trans (Nat.add_sub_cancel_left ..)

theorem later_len : (rule.later.map Piece.len).sum = rule.span.len - (rule.lead + 4) := by
  have sorted : SortedSpans (rule.crc.offset + rule.crc.width)
      (rule.span.offset + rule.span.len)
      ((rule.zeroed.map fun span => (span, PieceKind.zeroed)).map Prod.fst) :=
    rule.zeroed_fst.symm ▸ rule.sorted.2
  have start := rule.start_le
  rw [later, piecesFrom_len sorted, lead, rule.width]
  omega

theorem input_eq (bytes : Bytes) : rule.input bytes =
    bytes.take rule.lead ++ (List.replicate 4 0 ++
      (cut rule.later (bytes.drop (rule.lead + 4))).flatMap
        fun piece => piece.1.input piece.2) := by
  rw [input, pieces_eq, cut_gap _ _ _ _ Piece.input fun _ _ _ => rfl, cut, List.flatMap_cons,
    List.drop_drop]
  change _ ++ (List.replicate rule.crc.width 0 ++ _) = _
  rw [rule.width]
  rfl

theorem sealed_eq (crc : UInt32) {bytes : Bytes} (length : bytes.length = rule.span.len) :
    ((cut rule.pieces bytes).flatMap fun piece => piece.1.sealed crc piece.2) =
      bytes.take rule.lead ++ (leBytes 4 crc.toNat ++ bytes.drop (rule.lead + 4)) := by
  have tail : (bytes.drop (rule.lead + 4)).length = (rule.later.map Piece.len).sum := by
    rw [List.length_drop, length, later_len]
  rw [pieces_eq, cut_gap _ _ _ _ (Piece.sealed crc) fun _ _ _ => rfl, cut, List.flatMap_cons,
    List.drop_drop]
  change _ ++ (little crc.toNat (rule.crc.width * 8) ++
    (cut rule.later (bytes.drop (rule.lead + rule.crc.width))).flatMap _) = _
  have kept : ∀ piece ∈ rule.later, piece.kind ≠ .crc := fun _ => piecesFrom_zeroed
  have word : little crc.toNat (4 * 8) = leBytes 4 crc.toNat := little_natCast crc.toNat_lt
  rw [rule.width, cut_sealed kept crc tail, word]
  rfl

/-- The emitted seal stores the checksum of the rule's bytes. -/
theorem seal_apply (name : String) {bytes : Bytes} (length : bytes.length = rule.span.len) :
    (sealFunction name (crcPieces rule.span rule.crc rule.zeroed)).apply (.binary bytes) =
      .ok (rule.sealBytes bytes) := by
  obtain ⟨bound, matched, -, parts, segments⟩ :=
    matchPieces_cut (length.trans rule.pieces_len.symm) 0 fun _ => none
  have sealed := rule.sealed_eq (erlangCrc32 (rule.input bytes)) length
  have headed : matchPieces (fun _ => none)
      (sealFunction name (crcPieces rule.span rule.crc rule.zeroed)).head bytes =
      some bound := matched
  simp only [SealFunction.apply, headed]
  change ((rule.pieces.zipIdx.map _).mapM _ >>= _) = _
  rw [parts, Fallible.ok_bind]
  change ((rule.pieces.zipIdx.map _).mapM _ >>= _) = _
  rw [segments, Fallible.ok_bind]
  exact congrArg Except.ok sealed

theorem seal_length {bytes : Bytes} (length : bytes.length = rule.span.len) :
    (rule.sealBytes bytes).length = rule.span.len := by
  have lead := rule.lead_le
  simp only [sealBytes, List.length_append, List.length_take, List.length_drop, leBytes_length]
  omega

theorem seal_lead {bytes : Bytes} (length : bytes.length = rule.span.len) :
    (bytes.take rule.lead).length = rule.lead := by
  have lead := rule.lead_le
  rw [List.length_take]
  omega

theorem seal_word {bytes : Bytes} (length : bytes.length = rule.span.len) :
    ((rule.sealBytes bytes).drop rule.lead).take 4 =
      leBytes 4 (erlangCrc32 (rule.input bytes)).toNat := by
  rw [sealBytes, List.drop_left' (rule.seal_lead length), List.take_left' (leBytes_length ..)]

/-- The stored CRC is not under the checksum. -/
theorem input_seal {bytes : Bytes} (length : bytes.length = rule.span.len) :
    rule.input (rule.sealBytes bytes) = rule.input bytes := by
  have front : (rule.sealBytes bytes).take rule.lead = bytes.take rule.lead := by
    rw [sealBytes, List.take_left' (rule.seal_lead length)]
  have back : (rule.sealBytes bytes).drop (rule.lead + 4) = bytes.drop (rule.lead + 4) := by
    rw [← List.drop_drop, sealBytes, List.drop_left' (rule.seal_lead length),
      List.drop_left' (leBytes_length ..)]
  rw [input_eq, input_eq, front, back]

end CrcRule

/-! ### Checksums of a page -/

/-- The part of a page between a cursor and an offset inside a binary, if any. -/
theorem crcGap_eval {start cursor offset : Nat} {before bytes : Bytes} (after : Bytes)
    (placed : before.length = start + cursor) (fits : offset - cursor ≤ bytes.length) :
    ∃ parts, (if offset > cursor then [CrcSource.part cursor (offset - cursor)] else []).mapM
        (CrcSource.eval (before ++ (bytes ++ after)) start) = .ok parts ∧
      parts.flatten = bytes.take (offset - cursor) := by
  split
  · have inside : start + cursor + (offset - cursor) ≤ (before ++ (bytes ++ after)).length := by
      simp only [List.length_append]
      omega
    refine ⟨[bytes.take (offset - cursor)], ?_, List.append_nil _⟩
    rw [List.mapM_cons, CrcSource.eval, if_pos inside, ← placed, List.drop_left,
      List.take_append_of_le_length fits]
    rfl
  · have none : offset - cursor = 0 := by omega
    exact ⟨[], rfl, by rw [none]; rfl⟩

/-- The emitted sources of a binary inside a page are its pieces, the spans as zero. -/
theorem crcSources_eval {cursor stop start : Nat} {spans : List (Span × PieceKind)}
    (sorted : SortedSpans cursor stop (spans.map Prod.fst))
    (skipped : ∀ span ∈ spans, span.2 ≠ .keep) {before bytes : Bytes} (after : Bytes)
    (placed : before.length = start + cursor) (length : bytes.length = stop - cursor) :
    ∃ parts, (crcSources cursor stop (spans.map Prod.fst)).mapM
        (CrcSource.eval (before ++ (bytes ++ after)) start) = .ok parts ∧
      parts.flatten = (cut (piecesFrom cursor stop spans) bytes).flatMap
        fun piece => piece.1.input piece.2 := by
  induction spans generalizing cursor before bytes with
  | nil =>
      obtain ⟨parts, evaluated, flat⟩ := crcGap_eval after placed (Nat.le_of_eq length.symm)
      refine ⟨parts, evaluated, flat.trans ?_⟩
      have gap := cut_gap cursor stop [] bytes Piece.input fun _ _ _ => rfl
      rw [List.append_nil] at gap
      exact (gap.trans (List.append_nil _)).symm
  | cons span rest ih =>
      obtain ⟨⟨offset, len⟩, kind⟩ := span
      have startLe : cursor ≤ offset := sorted.1
      have later : SortedSpans (offset + len) stop (rest.map Prod.fst) := sorted.2
      have stopLe := later.le
      obtain ⟨head, others⟩ := List.forall_mem_cons.mp skipped
      have gapFits : offset - cursor ≤ bytes.length := by omega
      obtain ⟨first, firstEval, firstFlat⟩ := crcGap_eval after placed gapFits
      have split : before ++ (bytes ++ after) = (before ++ bytes.take (offset - cursor + len)) ++
          (bytes.drop (offset - cursor + len) ++ after) := by
        rw [List.append_assoc, ← List.append_assoc (bytes.take _), List.take_append_drop]
      have restPlaced : (before ++ bytes.take (offset - cursor + len)).length =
          start + (offset + len) := by
        rw [List.length_append, List.length_take]
        omega
      have restLength : (bytes.drop (offset - cursor + len)).length = stop - (offset + len) := by
        rw [List.length_drop]
        omega
      obtain ⟨parts, restEval, restFlat⟩ := ih later others restPlaced restLength
      rw [← split] at restEval
      refine ⟨first ++ List.replicate len 0 :: parts, ?_, ?_⟩
      · rw [List.map_cons, crcSources, List.mapM_append, firstEval, Fallible.ok_bind,
          List.mapM_cons, restEval, CrcSource.eval, Nat.mul_div_cancel _ (by decide)]
        rfl
      · have zero : (⟨offset, len, kind⟩ : Piece).input
            ((bytes.drop (offset - cursor)).take len) = List.replicate len 0 := by
          cases kind with
          | keep => exact absurd rfl head
          | crc | zeroed => rfl
        rw [piecesFrom, cut_gap _ _ _ _ Piece.input fun _ _ _ => rfl, cut, List.flatMap_cons,
          List.drop_drop, List.flatten_append, List.flatten_cons, firstFlat, restFlat, zero]

/-- The C loop over the spans feeds a binary's pieces, the spans as zero. -/
theorem crcSpans_pieces {cursor stop : Nat} {spans : List (Span × PieceKind)}
    (sorted : SortedSpans cursor stop (spans.map Prod.fst))
    (skipped : ∀ span ∈ spans, span.2 ≠ .keep) (memory : Memory) (base : Nat) (crc : UInt32) :
    let read := crcSpans memory base (spans.map Prod.fst) (crc, cursor)
    crc32Update read.1 memory (base + read.2) (stop - read.2) =
      crcFeed crc ((cut (piecesFrom cursor stop spans)
        (memory.bytes (base + cursor) (stop - cursor))).flatMap
          fun piece => piece.1.input piece.2) := by
  induction spans generalizing cursor crc with
  | nil =>
      have gap := cut_gap cursor stop [] (memory.bytes (base + cursor) (stop - cursor))
        Piece.input fun _ _ _ => rfl
      rw [List.append_nil] at gap
      have whole : (memory.bytes (base + cursor) (stop - cursor)).take (stop - cursor) =
          memory.bytes (base + cursor) (stop - cursor) := memory.bytes_take _ le_rfl
      rw [whole] at gap
      intro read
      rw [crc32Update_eq]
      exact congrArg (crcFeed crc) (gap.trans (List.append_nil _)).symm
  | cons span rest ih =>
      obtain ⟨⟨offset, len⟩, kind⟩ := span
      have startLe : cursor ≤ offset := sorted.1
      have later : SortedSpans (offset + len) stop (rest.map Prod.fst) := sorted.2
      have stopLe := later.le
      obtain ⟨head, others⟩ := List.forall_mem_cons.mp skipped
      have zero : (⟨offset, len, kind⟩ : Piece).input
          (((memory.bytes (base + cursor) (stop - cursor)).drop (offset - cursor)).take len) =
            List.replicate len 0 := by
        cases kind with
        | keep => exact absurd rfl head
        | crc | zeroed => rfl
      have reached : base + cursor + (offset - cursor + len) = base + (offset + len) := by omega
      have left : stop - cursor - (offset - cursor + len) = stop - (offset + len) := by omega
      have gapFits : offset - cursor ≤ stop - cursor := by omega
      have spanFits : offset - cursor + len ≤ stop - cursor := by omega
      have tail := ih later others (crc32Zeros
        (crc32Update crc memory (base + cursor) (offset - cursor)) len)
      intro read
      rw [piecesFrom, cut_gap _ _ _ _ Piece.input fun _ _ _ => rfl, cut, List.flatMap_cons, zero,
        List.drop_drop, memory.bytes_take _ gapFits, memory.bytes_drop _ spanFits, reached, left,
        crcFeed_append, crcFeed_append, ← crc32Update_eq, ← crc32Zeros_eq]
      exact tail

theorem load_eq_leNumber (memory : Memory) (address width : Nat) :
    memory.load address width = leNumber (memory.bytes address width) := by
  induction width generalizing address with
  | zero => rfl
  | succ width ih => rw [Memory.load, ih, Memory.bytes, leNumber]

namespace CrcRule

variable (rule : CrcRule)

/-- The C computation is the checksum of the rule's bytes. -/
theorem crcOf_eq {memory : Memory} {base : Nat} {bytes : Bytes}
    (held : memory.bytes (base + rule.span.offset) rule.span.len = bytes) :
    crcOf memory base rule.span rule.crc rule.zeroed = erlangCrc32 (rule.input bytes) := by
  have fed := crcSpans_pieces rule.spans_sorted rule.spans_skipped memory base 0xFFFFFFFF
  rw [spans_fst, Nat.add_sub_cancel_left, held] at fed
  exact congrArg crc32Final fed

theorem stored_sealBytes {bytes : Bytes} (length : bytes.length = rule.span.len) :
    leNumber (((rule.sealBytes bytes).drop rule.lead).take 4) =
      (erlangCrc32 (rule.input bytes)).toNat := by
  rw [rule.seal_word length]
  exact leNumber_leBytes (erlangCrc32 (rule.input bytes)).toNat_lt

/-- A page that holds a sealed binary passes the C check. -/
theorem check_holds {memory : Memory} {base : Nat} {bytes : Bytes}
    (length : bytes.length = rule.span.len)
    (held : memory.bytes (base + rule.span.offset) rule.span.len = rule.sealBytes bytes) :
    (Check.crc32 rule.span rule.crc rule.zeroed).holds memory base = true := by
  have word : memory.bytes (base + rule.crc.offset) 4 =
      ((rule.sealBytes bytes).drop rule.lead).take 4 := by
    have start := rule.start_le
    have fits := rule.lead_le
    have reached : base + rule.span.offset + rule.lead = base + rule.crc.offset := by
      rw [lead]
      omega
    rw [← held, memory.bytes_drop _ (by omega), memory.bytes_take _ (by omega), reached]
  have load : memory.load (base + rule.crc.offset) rule.crc.width =
      (erlangCrc32 (rule.input bytes)).toNat := by
    rw [rule.width, load_eq_leNumber, word, rule.stored_sealBytes length]
  rw [Check.holds, beq_iff_eq, rule.crcOf_eq held, rule.input_seal length]
  exact load.symm

/-- A page that holds a sealed binary passes the emitted condition. -/
theorem condition_eval {start : Nat} {before bytes : Bytes} (after : Bytes)
    (length : bytes.length = rule.span.len) (placed : before.length = start + rule.span.offset)
    {condition : CrcCondition}
    (written : condition ∈ writeCrcCondition (.crc32 rule.span rule.crc rule.zeroed)) :
    condition.eval (before ++ (rule.sealBytes bytes ++ after)) start = .ok true := by
  obtain rfl := Option.some.inj written
  obtain ⟨parts, evaluated, flat⟩ := crcSources_eval rule.spans_sorted rule.spans_skipped after
    placed ((rule.seal_length length).trans (Nat.add_sub_cancel_left ..).symm)
  rw [spans_fst] at evaluated
  have input : parts.flatten = rule.input bytes := flat.trans (rule.input_seal length)
  have front := rule.start_le
  have fits := rule.lead_le
  have sealedLength := rule.seal_length length
  have word : ((before ++ (rule.sealBytes bytes ++ after)).drop
      (start + rule.crc.offset)).take 4 = ((rule.sealBytes bytes).drop rule.lead).take 4 := by
    have reached : start + rule.crc.offset = before.length + rule.lead := by
      rw [placed, lead]
      omega
    have inside : rule.lead ≤ (rule.sealBytes bytes).length := by omega
    rw [reached, ← List.drop_drop, List.drop_left, List.drop_append_of_le_length inside,
      List.take_append_of_le_length (by rw [List.length_drop]; omega)]
  have stored : Helper.u (before ++ (rule.sealBytes bytes ++ after)) (start + rule.crc.offset)
      (rule.crc.width * 8) = .ok (erlangCrc32 (rule.input bytes)).toNat := by
    have inside : start + rule.crc.offset + 4 ≤
        (before ++ (rule.sealBytes bytes ++ after)).length := by
      have stop := rule.crc_le
      simp only [List.length_append, sealedLength]
      omega
    rw [Helper.u, Nat.mul_div_cancel _ (by decide), rule.width, if_pos inside, word,
      rule.stored_sealBytes length]
  rw [CrcCondition.eval, evaluated, Fallible.ok_bind, stored, Fallible.ok_bind, input]
  exact congrArg Except.ok (beq_self_eq_true _)

end CrcRule

/-! ### Spec banks -/

/-- The CRC rule of a spec bank. -/
def bankRule : CrcRule where
  span := ⟨0, specBankSize⟩
  crc := SpecPage.bank .crc32
  zeroed := [⟨20, 4⟩]
  width := rfl
  sorted := ⟨Nat.zero_le 12, show 16 ≤ 20 by decide, show 24 ≤ 2016 by decide⟩

/-- The one seal the generator writes for spec pages. -/
theorem writeSeal_spec : writeSeal records "SpecPage" SpecPage.bankRules =
    .ok [sealFunction "spec_bank"
      (crcPieces bankRule.span bankRule.crc bankRule.zeroed)] := rfl

/-- What a bank and its sealed form have in common and where they are accepted. -/
structure BankSealed (bytes sealed : Bytes) : Prop where
  length : sealed.length = specBankSize
  /-- Only the stored CRC differs. -/
  rest : sealed.take 12 = bytes.take 12 ∧ sealed.drop 16 = bytes.drop 16
  /-- The emitted check of a page that holds the sealed bank. -/
  emitted : ∀ (page : Bytes) (bank : Bank),
    (page.drop (bankAddress bank)).take specBankSize = sealed →
    ∀ rule ∈ SpecPage.bankRules, ∀ condition ∈ writeCrcCondition rule.check,
      condition.eval page (bankAddress bank) = .ok true
  /-- The C check of a page that holds the sealed bank. -/
  checked : ∀ (page : Memory) (bank : Bank),
    page.bytes (bankAddress bank) specBankSize = sealed →
    ∀ rule ∈ SpecPage.bankRules, rule.reject = .checksum →
      rule.check.holds page (bankAddress bank) = true
  /-- The CRC the C writer computes for the same bank. -/
  written : ∀ (page : Memory) (bank : Bank),
    page.bytes (bankAddress bank) specBankSize = bytes →
    leNumber ((sealed.drop 12).take 4) = (sealCrc page bank).toNat

theorem bankSealed {bytes : Bytes} (length : bytes.length = specBankSize) :
    BankSealed bytes (bankRule.sealBytes bytes) where
  length := bankRule.seal_length length
  rest := by
    have front : (bytes.take 12).length = 12 := bankRule.seal_lead length
    constructor
    · exact List.take_left' front
    · change List.drop 16 (bytes.take 12 ++ (leBytes 4 _ ++ bytes.drop 16)) = _
      rw [show 16 = 12 + 4 from rfl, ← List.drop_drop, List.drop_left' front,
        List.drop_left' (leBytes_length ..)]
  emitted page bank held rule member condition written := by
    have before : (page.take (bankAddress bank)).length = bankAddress bank := by
      have whole := congrArg List.length held
      rw [bankRule.seal_length length, List.length_take, List.length_drop] at whole
      rw [List.length_take]
      change min _ _ = 2016 at whole
      omega
    have split : page = page.take (bankAddress bank) ++ (bankRule.sealBytes bytes ++
        (page.drop (bankAddress bank)).drop specBankSize) := by
      rw [← held, List.take_append_drop, List.take_append_drop]
    have same : rule.check = .crc32 bankRule.span bankRule.crc bankRule.zeroed := by
      simp only [SpecPage.bankRules, List.mem_cons, List.not_mem_nil, or_false] at member
      rcases member with rfl | rfl | rfl | rfl | rfl
      case inr.inl => rfl
      all_goals cases written
    rw [same] at written
    rw [split]
    exact bankRule.condition_eval _ length before written
  checked page bank held rule member checksum := by
    have same : rule.check = .crc32 bankRule.span bankRule.crc bankRule.zeroed := by
      simp only [SpecPage.bankRules, List.mem_cons, List.not_mem_nil, or_false] at member
      rcases member with rfl | rfl | rfl | rfl | rfl
      case inr.inl => rfl
      all_goals cases checksum
    rw [same]
    exact bankRule.check_holds length held
  written page bank held := by
    have crc : sealCrc page bank = erlangCrc32 (bankRule.input bytes) := bankRule.crcOf_eq held
    rw [crc]
    exact bankRule.stored_sealBytes length

/-- The codec of every record of the contract is lawful, however deep its calls may nest
beyond what they need, and the sealed form of a bank carries the CRC of the C writer. -/
theorem codec_laws {depth : Nat} (enough : records.length ≤ depth) :
    (∀ record ∈ records, CodecLaws (recordFormat record) record.size
      ((writeCodec records).fromBinary depth (snake record.name))
      ((writeCodec records).toBinary depth (snake record.name))) ∧
    ∃ function, writeSeal records "SpecPage" SpecPage.bankRules = .ok [function] ∧
      ∀ bytes : Bytes, bytes.length = specBankSize →
        ∃ sealed, function.apply (.binary bytes) = .ok sealed ∧ BankSealed bytes sealed := by
  refine ⟨fun record member => ?_, _, writeSeal_spec, fun bytes length => ?_⟩
  · obtain ⟨implements, size⟩ := writeCodec_implements records_ordered member enough
    have laws := implements.laws
    rw [size] at laws
    exact laws
  · exact ⟨_, bankRule.seal_apply "spec_bank" length, bankSealed length⟩

/-- An event row has no reserved byte, so its codec is a bijection on these bytes; a bank
of zeros seals to one with the CRC of the C writer. -/
theorem codec_laws_sample :
    (∃ value, (writeCodec records).fromBinary 16 "root_event" (.binary (List.replicate 32 7)) =
        .ok value ∧
      (writeCodec records).toBinary 16 "root_event" value = .ok (List.replicate 32 7)) ∧
    ∃ function, writeSeal records "SpecPage" SpecPage.bankRules = .ok [function] ∧
      ∃ sealed, function.apply (.binary (List.replicate 2016 0)) = .ok sealed ∧
        BankSealed (List.replicate 2016 0) sealed := by
  obtain ⟨codecs, function, written, seals⟩ := @codec_laws 16 (by decide +kernel)
  have member : describeRecord [] Contract.RootEvent ∈ records := by decide +kernel
  have event := codecs _ member
  have size :
      (List.replicate 32 (7 : UInt8)).length = (describeRecord [] Contract.RootEvent).size := by
    decide +kernel
  have unreserved : zeroed (recordFormat (describeRecord [] Contract.RootEvent)).reserved
      (List.replicate 32 7) = List.replicate 32 7 := by
    decide +kernel
  have name : snake (describeRecord [] Contract.RootEvent).name = "root_event" := by decide +kernel
  obtain ⟨value, decoded, encoded⟩ := event.encode_decode size
  rw [name] at decoded encoded
  rw [unreserved] at encoded
  exact ⟨⟨value, decoded, encoded⟩, function, written, seals _ List.length_replicate⟩

end Chrysopolis.Codegen
