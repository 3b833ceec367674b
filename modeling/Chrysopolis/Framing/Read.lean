import Chrysopolis.Framing.Encode
import Chrysopolis.Support.Delimited

/-! The reading half of `chryso_frame.erl`: the byte machine, the grammar of a
closed body and the outcome of a run over a log. -/

set_option autoImplicit false

namespace Chrysopolis.Framing

open Chrysopolis.Support

/-- A collected frame. -/
structure Frame where
  run : Bytes
  n : Nat
  kind : Bytes
  fields : List (Bytes × Bytes)
  deriving Repr, DecidableEq

/-- Why a closed body was refused. -/
inductive Reason where
  | oversize
  | syntaxError
  | length
  | crc
  deriving Repr, DecidableEq

/-- What the reader saw. -/
inductive Event where
  | frame (frame : Frame)
  | damaged (guess : Bytes) (reason : Reason)
  | pending
  deriving Repr, DecidableEq

/-- What the last byte of an open body was. -/
inductive After where
  | plain
  | atSign
  deriving Repr, DecidableEq

/-- The reader: the marker prefix matched outside a frame, or a body. -/
inductive State where
  | outside (matched : Nat)
  | inside (body : Bytes) (after : After)
  deriving Repr, DecidableEq

/-- A run's outcome over a log. -/
inductive Verdict where
  | pending
  | pass (frames : List Frame) (unexpected : Nat)
  | damaged (guess : Bytes) (reason : Reason)
  | lost (run : Bytes) (missing : List Nat)
  deriving Repr, DecidableEq

/-! ## Closed bodies -/

/-- `hex/1` -/
def hex (c : UInt8) : Option Nat :=
  if 0x30 ≤ c ∧ c ≤ 0x39 then some (c.toNat - 0x30)
  else if 0x41 ≤ c ∧ c ≤ 0x46 then some (c.toNat - 0x41 + 10)
  else none

/-- `digits/1`: decimal without a sign or a redundant leading zero. -/
def digits : Bytes → Option Nat
  | [0x30] => some 0
  | c :: rest =>
      if 0x31 ≤ c ∧ c ≤ 0x39 ∧ (c :: rest).length ≤ 10 then
        if (c :: rest).all Decimal.isDigit then some (Decimal.read (c :: rest)) else none
      else none
  | [] => none

/-- `unescape/2` -/
def unescapeInto : Bytes → Bytes → Option Bytes
  | [], acc => some acc
  | 0x25 :: h :: l :: rest, acc =>
      match hex h, hex l with
      | some high, some low => unescapeInto rest (acc ++ [UInt8.ofNat (high * 16 + low)])
      | _, _ => none
  | c :: rest, acc =>
      if c = PERCENT ∨ c = AT ∨ c = EQUALS then none else unescapeInto rest (acc ++ [c])

/-- `unescape/1` -/
def unescape (value : Bytes) : Option Bytes := unescapeInto value []

/-- `fields/2` -/
def fieldsInto : List Bytes → List (Bytes × Bytes) → Option (List (Bytes × Bytes))
  | [], acc => some acc.reverse
  | field :: rest, acc =>
      match Delimited.splitFirst EQUALS field with
      | some (keyText, valueText) =>
          if isName keyText then
            match unescape valueText with
            | some value => fieldsInto rest ((keyText, value) :: acc)
            | none => none
          else none
      | none => none

def isHex8Byte (c : UInt8) : Bool := (0x30 ≤ c && c ≤ 0x39) || (0x61 ≤ c && c ≤ 0x66)

/-- `is_hex8/1` -/
def isHex8 (bytes : Bytes) : Bool := bytes.length == 8 && bytes.all isHex8Byte

/-- A byte a body may hold. -/
def bodyByte (c : UInt8) : Bool := 0x21 ≤ c && c ≤ 0x7E

/-- A body that passed the syntax checks of `parse/1`. -/
structure Shape where
  frame : Frame
  lengthText : Bytes
  length : Nat
  crc : Bytes
  deriving Repr, DecidableEq

/-- The syntax checks of `parse/1`. -/
def shape (body : Bytes) : Option Shape := do
  guard (body.all bodyByte)
  match body.splitOn BAR with
  | runText :: nField :: kField :: rest =>
      let nText ← (ascii "n=").isPrefixOf? nField
      let kind ← (ascii "k=").isPrefixOf? kField
      match rest.reverse with
      | crcField :: lenField :: revFields =>
          let crcText ← (ascii "crc=").isPrefixOf? crcField
          let lengthText ← (ascii "len=").isPrefixOf? lenField
          guard (isRun runText && isName kind && isHex8 crcText)
          let n ← digits nText
          let length ← digits lengthText
          let fields ← fieldsInto revFields.reverse []
          pure { frame := { run := runText, n, kind, fields }, lengthText, length, crc := crcText }
      | _ => none
  | _ => none

/-- `parse/1`: syntax, then length, then CRC. The first failure is the reason. -/
def parse (body : Bytes) : Except Reason Frame :=
  match shape body with
  | none => .error .syntaxError
  | some parts =>
      let covered := body.length - (ascii "|crc=").length - 8
      let lead := body.take (covered - (ascii "|len=").length - parts.lengthText.length)
      if lead.length ≠ parts.length then .error .length
      else if hex8 (crc32 (body.take covered)) ≠ parts.crc then .error .crc
      else .ok parts.frame

/-- `guess/1`: the damaged frame's run, when its first field still reads as one. -/
def guess (body : Bytes) : Bytes :=
  let first := body.takeWhile (· ≠ BAR)
  if isRun first then first else ascii "?"

/-- `close/1` -/
def close (body : Bytes) : Event :=
  match parse body with
  | .ok frame => .frame frame
  | .error reason => .damaged (guess body) reason

/-! ## The byte machine -/

/-- `suffix/2` -/
def isSuffix (seen : Bytes) (count : Nat) : Bool :=
  seen.drop (seen.length - count) == MARKER.take count

/-- `advance/2`: the longest marker prefix that ends in the byte just read. -/
def advance (matched : Nat) (c : UInt8) : Nat :=
  let seen := MARKER.take matched ++ [c]
  let candidates := (List.range (min (matched + 1) 9 + 1)).reverse
  ((candidates.filter (isSuffix seen)).head?).getD 0

/-- `step/2` -/
def step (c : UInt8) : State → List Event × State
  | .outside matched =>
      if advance matched c = 9 then ([], .inside [] .plain)
      else ([], .outside (advance matched c))
  | .inside body after =>
      if MAX_BODY ≤ body.length then ([.damaged (guess body) .oversize], .outside 0)
      else match after with
        | .plain =>
            if c = AT then ([], .inside body .atSign)
            else ([], .inside (body ++ [c]) .plain)
        | .atSign =>
            if c = AT then ([close body], .outside 2)
            else ([], .inside (body ++ [AT, c]) .plain)

/-- `feed/3`, the events kept newest first. -/
def feedInto : Bytes → State → List Event → List Event × State
  | [], state, acc => (acc, state)
  | c :: rest, state, acc =>
      feedInto rest (step c state).2 ((step c state).1.reverse ++ acc)

/-- `feed/2` -/
def feed (bytes : Bytes) (state : State) : List Event × State :=
  let (newest, reached) := feedInto bytes state []
  (newest.reverse, reached)

/-- `finish/1`: an open frame at the end of the log is pending, never damaged. -/
def finish : State → List Event
  | .inside _ _ => [.pending]
  | .outside _ => []

/-- `collect/1`: every event in a log, in log order. -/
def collect (log : Bytes) : List Event :=
  let (events, state) := feed log (.outside 0)
  events ++ finish state

/-! ## The outcome of a run -/

/-- `count/2`: the first field of the name, read as a number. -/
def count (fields : List (Bytes × Bytes)) (keyText : Bytes) : Option Nat :=
  match fields.lookup keyText with
  | some value => digits value
  | none => none

/-- `verdict/3` -/
def verdict (final : Frame) (runText : Bytes) (frames : List Frame) : Verdict :=
  let expected := List.range final.n
  let got := frames.map Frame.n
  match count final.fields (ascii "frames"), count final.fields (ascii "unexpected") with
  | some counted, some unexpected =>
      if counted = final.n then
        if got = expected then .pass frames unexpected
        else .lost runText (expected.diff got)
      else .lost runText expected
  | _, _ => .lost runText expected

/-- `decide/3`, the frames of the run kept newest first. -/
def decideEvents : List Event → Bytes → List Frame → Verdict
  | [], _, _ => .pending
  | .pending :: _, _, _ => .pending
  | .damaged guessed reason :: _, _, _ => .damaged guessed reason
  | .frame frame :: rest, runText, seen =>
      if frame.run = runText then
        if frame.kind = ascii "verdict" then verdict frame runText seen.reverse
        else decideEvents rest runText (frame :: seen)
      else decideEvents rest runText seen

/-- `observe/2` -/
def observe (log : Bytes) (runName : RunName) : Except EncodeError Verdict := do
  let runText ← run runName
  pure (decideEvents (collect log) runText [])

/-- The matcher after each prefix of a marker led by a third `@`. -/
example : (ascii "@@@CHRYSO|A|n").foldl (fun state c => (step c state).2) (.outside 0) =
    .inside (ascii "A|n") .plain := by
  decide

end Chrysopolis.Framing
