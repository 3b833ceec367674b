import Chrysopolis.Framing.Read

/-! `frames.py`, the Python twin of the reader. Its events and reader states are
the ones of `chryso_frame.erl`. It decodes bytes to text with `surrogateescape`,
which keeps different bytes different, so the model keeps the bytes. -/

set_option autoImplicit false

namespace Chrysopolis.Framing.Python

open Chrysopolis.Support

/-- `Reason.value` -/
def reasonText : Reason → Bytes
  | .oversize => ascii "oversize"
  | .syntaxError => ascii "syntax"
  | .length => ascii "length"
  | .crc => ascii "crc"

inductive FailKind where
  | damaged
  | lost
  deriving Repr, DecidableEq

/-- `Verdict` of `frames.py`: `Pending`, `Pass` or `Fail`. -/
inductive Outcome where
  | pending
  | pass (frames : List Frame) (unexpected : Nat)
  | fail (kind : FailKind) (run : Bytes) (detail : Bytes)
  deriving Repr, DecidableEq

/-! ## Closed bodies -/

def isHex8 (b : Bytes) : Bool :=
  b.length == 8 && b.all fun c => (ascii "0123456789abcdef").contains c

def isRun (b : Bytes) : Bool :=
  1 ≤ b.length && b.length ≤ MAX_RUN &&
    b.all fun c => (ascii "ABCDEFGHIJKLMNOPQRSTUVWXYZ0123456789_.").contains c

def isName (b : Bytes) : Bool :=
  1 ≤ b.length && b.all fun c => (ascii "abcdefghijklmnopqrstuvwxyz0123456789_").contains c

def guess (body : Bytes) : Bytes :=
  let first := body.takeWhile (· ≠ BAR)
  if isRun first then first else ascii "?"

/-- Decimal without a sign or a redundant leading zero. -/
def digits (text : Bytes) : Option Nat :=
  if text = ascii "0" then some 0
  else if 1 ≤ text.length ∧ text.length ≤ 10 ∧
      (text.head?.any fun c => (ascii "123456789").contains c) ∧
      (text.all fun c => (ascii "0123456789").contains c) then
    some (Decimal.read text)
  else none

/-- The digits of an escaped byte, in the order of their values. -/
def upperDigits : Bytes := ascii "0123456789ABCDEF"

/-- The loop of `unescape`, over what is left of the value. -/
def unescapeFrom (out : Bytes) : Bytes → Option Bytes
  | [] => some out
  | c :: rest =>
      if c = PERCENT then
        match rest with
        | h :: l :: rest =>
            if !upperDigits.contains h || !upperDigits.contains l then none
            else unescapeFrom
              (out ++ [UInt8.ofNat (upperDigits.idxOf h * 16 + upperDigits.idxOf l)]) rest
        | _ => none
      else if (ascii "@=").contains c then none
      else unescapeFrom (out ++ [c]) rest

def unescape (value : Bytes) : Option Bytes := unescapeFrom [] value

/-- `bytes.partition(b"=")` -/
def partition (field : Bytes) : Bytes × Bool × Bytes :=
  match Delimited.splitFirst EQUALS field with
  | some (key, value) => (key, true, value)
  | none => (field, false, [])

/-- The loop of `fields`, over the fields that are left. -/
def fieldsFrom (out : List (Bytes × Bytes)) : List Bytes → Option (List (Bytes × Bytes))
  | [] => some out
  | field :: rest =>
      let (key, eq, value) := partition field
      match unescape value with
      | none => none
      | some decoded =>
          if !eq || !isName key then none else fieldsFrom (out ++ [(key, decoded)]) rest

def fields (raw : List Bytes) : Option (List (Bytes × Bytes)) := fieldsFrom [] raw

def parse (body : Bytes) : Except Reason Frame :=
  if body.any fun c => c < 0x21 || 0x7E < c then .error .syntaxError
  else
    let parts := body.splitOn BAR
    if parts.length < 5 then .error .syntaxError
    else match parts, (parts.drop 3).reverse with
      | run :: nField :: kField :: _, crcField :: lenField :: revRest =>
          if !((ascii "n=").isPrefixOf nField && (ascii "k=").isPrefixOf kField &&
              (ascii "len=").isPrefixOf lenField && (ascii "crc=").isPrefixOf crcField) then
            .error .syntaxError
          else
            let kind := kField.drop 2
            let crc := crcField.drop 4
            match digits (nField.drop 2), digits (lenField.drop 4), fields revRest.reverse with
            | some n, some declared, some decoded =>
                if !(isRun run && isName kind && isHex8 crc) then .error .syntaxError
                else
                  let covered := body.length - (ascii "|crc=").length - 8
                  let lead := covered - (ascii "|len=").length - (lenField.length - 4)
                  if lead ≠ declared then .error .length
                  else if hex8 (crc32 (body.take covered)) ≠ crc then .error .crc
                  else .ok { run, n, kind, fields := decoded }
            | _, _, _ => .error .syntaxError
      | _, _ => .error .syntaxError

def close (body : Bytes) : Event :=
  match parse body with
  | .ok frame => .frame frame
  | .error reason => .damaged (guess body) reason

/-! ## The machine -/

/-- KMP fallback, by brute force over the nine marker bytes. -/
def advance (matched : Nat) (c : UInt8) : Nat :=
  let seen := MARKER.take matched ++ [c]
  let candidates := (List.range (min (matched + 1) MARKER.length + 1)).reverse
  (candidates.find? fun k => (MARKER.take k).isSuffixOf seen).getD 0

def step (c : UInt8) : State → List Event × State
  | .outside matched =>
      let m := advance matched c
      ([], if m = MARKER.length then .inside [] .plain else .outside m)
  | .inside body after =>
      if MAX_BODY ≤ body.length then ([.damaged (guess body) .oversize], .outside 0)
      else match after with
        | .plain =>
            if c = AT then ([], .inside body .atSign)
            else ([], .inside (body ++ [c]) .plain)
        | .atSign =>
            if c = AT then ([close body], .outside 2)
            else ([], .inside (body ++ ascii "@" ++ [c]) .plain)

/-- The loop of `feed_bytewise`, over the bytes that are left. -/
def feedBytewiseFrom (events : List Event) : Bytes → State → List Event × State
  | [], state => (events, state)
  | c :: rest, state =>
      let (out, state) := step c state
      feedBytewiseFrom (events ++ out) rest state

def feedBytewise (data : Bytes) (state : State) : List Event × State :=
  feedBytewiseFrom [] data state

/-- The slice a plain body takes at once: up to the next `@`, and up to the cap. -/
def slice (body data : Bytes) : Bytes := (data.take (MAX_BODY - body.length)).takeWhile (· ≠ AT)

/-- The loop of `feed`, over the bytes that are left. -/
def feedFrom (events : List Event) (data : Bytes) (state : State) : List Event × State :=
  match data with
  | [] => (events, state)
  | c :: rest =>
      match state with
      | .outside 0 =>
          -- `data.find(b"@", i)`
          match _found : (c :: rest).dropWhile (· ≠ AT) with
          | [] => (events, state)
          | next :: later =>
              feedFrom (events ++ (step next state).1) later (step next state).2
      | .inside body .plain =>
          if _taken : body.length < MAX_BODY ∧ slice body (c :: rest) ≠ [] then
            feedFrom events ((c :: rest).drop (slice body (c :: rest)).length)
              (.inside (body ++ slice body (c :: rest)) .plain)
          else feedFrom (events ++ (step c state).1) rest (step c state).2
      | _ => feedFrom (events ++ (step c state).1) rest (step c state).2
termination_by data.length
decreasing_by
  · have shorter := (List.dropWhile_sublist (· ≠ AT) (l := c :: rest)).length_le
    rw [_found] at shorter
    exact shorter
  · have positive := List.length_pos_iff.mpr _taken.2
    rw [List.length_drop, List.length_cons]
    omega
  · exact Nat.lt_succ_self _
  · exact Nat.lt_succ_self _

def feed (data : Bytes) (state : State) : List Event × State := feedFrom [] data state

/-- An open frame at the end of the log is pending, never damaged. -/
def finish : State → List Event
  | .inside _ _ => [.pending]
  | .outside _ => []

def collect (log : Bytes) : List Event :=
  let (events, state) := feed log (.outside 0)
  events ++ finish state

/-! ## The probe verdict -/

/-- `dict(final.fields).get(key, "")`: the last field of the name. -/
def lastField (fields : List (Bytes × Bytes)) (key : Bytes) : Bytes :=
  (fields.reverse.lookup key).getD []

/-- `" ".join(f"n={n}" for n in missing)` -/
def missingText (missing : List Nat) : Bytes :=
  (ascii " ").intercalate (missing.map fun n => ascii "n=" ++ Decimal.write n)

def verdict (final : Frame) (run : Bytes) (seen : List Frame) : Outcome :=
  let expected := List.range final.n
  let got := seen.map Frame.n
  let count := digits (lastField final.fields (ascii "frames"))
  let unexpected := digits (lastField final.fields (ascii "unexpected"))
  let missing := if count = some final.n then expected.filter fun n => !got.contains n else expected
  match unexpected with
  | some unexpected =>
      if count = some final.n ∧ got = expected then .pass seen unexpected
      else .fail .lost run (missingText missing)
  | none => .fail .lost run (missingText missing)

/-- The loop of `observe`, over the events that are left. -/
def observeFrom (run : Bytes) (seen : List Frame) : List Event → Outcome
  | [] => .pending
  | .pending :: _ => .pending
  | .damaged guessed reason :: _ => .fail .damaged guessed (reasonText reason)
  | .frame frame :: rest =>
      if frame.kind = ascii "verdict" ∧ frame.run = run then verdict frame run seen
      else if frame.run = run then observeFrom run (seen ++ [frame]) rest
      else observeFrom run seen rest

def observe (events : List Event) (run : Bytes) : Outcome := observeFrom run [] events

end Chrysopolis.Framing.Python
