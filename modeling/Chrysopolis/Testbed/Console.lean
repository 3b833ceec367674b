import Chrysopolis.Framing.Python
import Chrysopolis.Support.Regex

/-! `console.py`: the guest's serial console as a log that grows by chunks. Colour sequences are
stripped from the text that waits and frames read. -/

set_option autoImplicit false

namespace Chrysopolis.Testbed

open Chrysopolis.Support (Regex)
open Chrysopolis.Framing (Bytes Event State)

namespace Console

/-! ### Patterns -/

def escape : UInt8 := 0x1B
def bracket : UInt8 := 0x5B

/-- `[0-?]` -/
def isParameter (c : UInt8) : Bool := 0x30 ≤ c && c ≤ 0x3F

/-- A blank to a slash. -/
def isIntermediate (c : UInt8) : Bool := 0x20 ≤ c && c ≤ 0x2F

/-- `[@-~]` -/
def isFinal (c : UInt8) : Bool := 0x40 ≤ c && c ≤ 0x7E

/-- `\x1b\[`, parameters, intermediates and a final byte. -/
def CSI : Regex UInt8 :=
  .seq (.one (· == escape)) (.seq (.one (· == bracket))
    (.seq (.many isParameter) (.seq (.many isIntermediate) (.one isFinal))))

/-- `\x1b`, then nothing or `\[`, parameters and intermediates, then `\Z`. -/
def CSI_OPEN : Regex UInt8 :=
  .seq (.one (· == escape)) (.seq
    (.optional (.seq (.one (· == bracket)) (.seq (.many isParameter) (.many isIntermediate))))
    .stop)

def CSI_LONGEST : Nat := 32

/-! ### Scans -/

/-- A scan for complete lines. `regex` gives the hits of a pattern between two places. -/
structure Scan (Hit : Type) where
  regex : Bytes → Nat → Nat → List Hit
  pos : Nat := 0
  hits : List Hit := []

/-- `log.rfind(b"\n", pos) + 1` -/
def lineEnd (log : Bytes) (pos : Nat) : Nat :=
  match (log.drop pos).reverse.findIdx? (· == 0x0A) with
  | none => 0
  | some behind => log.length - behind

variable {Hit : Type}

def Scan.advance (scan : Scan Hit) (log : Bytes) : Scan Hit :=
  let stop := lineEnd log scan.pos
  if stop > scan.pos then
    { scan with hits := scan.hits ++ scan.regex log scan.pos stop, pos := stop }
  else scan

/-- `next(found, None)`: the scans behind the first with a hit do not advance. -/
def advanceUntilHit (log : Bytes) : List (Scan Hit) → List (Scan Hit) × Option Hit
  | [] => ([], none)
  | scan :: rest =>
      let scan := scan.advance log
      match scan.hits with
      | hit :: _ => (scan :: rest, some hit)
      | [] =>
          let (rest, fault) := advanceUntilHit log rest
          (scan :: rest, fault)

end Console

/-! ### The console -/

structure Console (Hit : Type) where
  raw : Bytes := []
  carry : Bytes := []
  log : Bytes := []
  events : List Event := []
  state : State := .outside 0
  failures : List (Console.Scan Hit)
  fault : Option Hit := none

namespace Console

variable {Hit : Type}

/-- Where the bytes that are read end: before an escape sequence that is still open. -/
def cutOf (data : Bytes) : Nat :=
  match CSI_OPEN.search data with
  | some start => if data.length - start ≤ CSI_LONGEST then start else data.length
  | none => data.length

def append (console : Console Hit) (chunk : Bytes) : Console Hit :=
  let data := console.carry ++ chunk
  let cut := cutOf data
  let clean := CSI.remove (data.take cut)
  let log := console.log ++ clean
  let (events, state) := Framing.Python.feed clean console.state
  let (failures, fault) :=
    match console.fault with
    | some hit => (console.failures, some hit)
    | none => advanceUntilHit log console.failures
  { raw := console.raw ++ chunk
    carry := data.drop cut
    log
    events := console.events ++ events
    state
    failures
    fault }

/-- The console after the chunks. -/
def pump (failures : List (Scan Hit)) (chunks : List Bytes) : Console Hit :=
  chunks.foldl append { failures }

end Console

end Chrysopolis.Testbed
