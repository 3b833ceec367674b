import Chrysopolis.Support.WireFormat
import Mathlib.Data.Finset.Max

/-! `crashlog.py`: the write logs of QEMU's blklogwrites, and the crash states they imply. -/

set_option autoImplicit false

namespace Chrysopolis.Testbed.Crashlog

open Chrysopolis.Support

def magic : Nat := 0x6A736677736872
def version : Nat := 1
def flagFlush : Nat := 1 <<< 0
def flagFua : Nat := 1 <<< 1
def flagDiscard : Nat := 1 <<< 2
def flagMark : Nat := 1 <<< 3
def flagMask : Nat := flagFlush ||| flagFua ||| flagDiscard ||| flagMark

/-- One logged request. `start` and `stop` bound it in the log. -/
structure Entry where
  start : Nat
  stop : Nat
  sector : Nat
  nrSectors : Nat
  flags : Nat
  data : Bytes
  deriving DecidableEq, Repr

def Entry.flush (entry : Entry) : Bool := entry.flags &&& flagFlush != 0

def Entry.write (entry : Entry) : Bool := entry.flags &&& (flagFlush ||| flagDiscard) == 0

structure Log where
  sectorsize : Nat
  entries : List Entry
  deriving DecidableEq, Repr

/-! ### `parse` -/

/-- The exceptions of `parse`: the `struct.error` of a buffer that ends inside a field, and
the two `ValueError`s with what they print. -/
inductive Refusal where
  | structError
  | notALog (magic version : Nat)
  | unknownFlags (flags offset : Nat)
  deriving DecidableEq, Repr

/-- An unsigned little-endian field of `struct`. -/
def field (raw : Bytes) (offset width : Nat) : Nat := leNumber ((raw.drop offset).take width)

/-- `SUPER.unpack_from(raw, 0)`, of `"<QQQI"`. -/
def unpackSuper (raw : Bytes) : Except Refusal (Nat × Nat × Nat × Nat) :=
  if raw.length < 28 then .error .structError
  else .ok (field raw 0 8, field raw 8 8, field raw 16 8, field raw 24 4)

/-- `HEADER.unpack_from(raw, pos)`, of `"<QQQQ"`. -/
def unpackHeader (raw : Bytes) (pos : Nat) : Except Refusal (Nat × Nat × Nat × Nat) :=
  if raw.length < pos + 32 then .error .structError
  else .ok (field raw pos 8, field raw (pos + 8) 8, field raw (pos + 16) 8,
    field raw (pos + 24) 8)

/-- The sector size of a log that is not empty, from its superblock. -/
def superSectorsize (raw : Bytes) : Except Refusal Nat := do
  let (found, version', _, sectorsize) ← unpackSuper raw
  if (found, version') = (0, 0) then return 512
  else if found ≠ magic ∨ version' ≠ version then .error (.notALog found version')
  else return sectorsize

/-- One turn of the loop of `parse`: the entry at `pos`, after which the loop goes on at its
end, or `none` where the loop ends. -/
def visit (raw : Bytes) (sectorsize pos : Nat) : Except Refusal (Option Entry) :=
  if pos + sectorsize ≤ raw.length then do
    let (sector, nrSectors, flags, _) ← unpackHeader raw pos
    if (sector, nrSectors, flags) = (0, 0, 0) then return none
    -- `flags & ~FLAG_MASK`, of naturals.
    if flags &&& flagMask ≠ flags then .error (.unknownFlags flags pos)
    else
      let dataAt := pos + sectorsize
      let stop := dataAt +
        if flags &&& (flagFlush ||| flagDiscard) ≠ 0 then 0 else nrSectors * sectorsize
      if raw.length < stop then return none
      else
        let data := (raw.drop dataAt).take (stop - dataAt)
        return some { start := pos, stop, sector, nrSectors, flags, data }
  else return none

/-- The loop of `parse` from `pos`, for at most `fuel` turns. -/
def walk (raw : Bytes) (sectorsize : Nat) : Nat → Nat → Option (Except Refusal (List Entry))
  | 0, _ => none
  | fuel + 1, pos =>
      match visit raw sectorsize pos with
      | .error refusal => some (.error refusal)
      | .ok none => some (.ok [])
      | .ok (some entry) => (walk raw sectorsize fuel entry.stop).map (Except.map (entry :: ·))

def parse (fuel : Nat) (raw : Bytes) : Option (Except Refusal Log) :=
  if raw = [] then some (.ok { sectorsize := 512, entries := [] })
  else
    match superSectorsize raw with
    | .error refusal => some (.error refusal)
    | .ok sectorsize =>
        (walk raw sectorsize fuel sectorsize).map (Except.map fun entries =>
          { sectorsize, entries })

/-- `parse(raw)` returns the log or raises the exception. -/
def Returns (raw : Bytes) (result : Except Refusal Log) : Prop :=
  ∃ fuel, parse fuel raw = some result

/-! ### Crash states -/

/-- One turn of the loop of `epochs`. -/
def addEntry (epochs : List (List Nat)) (item : Entry × Nat) : List (List Nat) :=
  if item.1.flush then epochs ++ [[]]
  else if item.1.write then epochs.modifyLast (· ++ [item.2])
  else epochs

/-- Indices of the writes between consecutive flushes. -/
def Log.epochs (log : Log) : List (List Nat) := log.entries.zipIdx.foldl addEntry [[]]

def Log.flushes (log : Log) : List Entry := log.entries.filter (·.flush)

/-- `log.entries[i].end`, where `i` comes from an epoch. -/
def Log.stopOf (log : Log) (index : Nat) : Nat := log.entries[index]?.elim 0 Entry.stop

/-- `none` is Python's `IndexError`, here and below. -/
def state (log : Log) (epoch : Nat) (subset : Finset Nat) : Option (Finset Nat) := do
  let writes ← log.epochs[epoch]?
  return (log.epochs.take epoch).flatten.toFinset ∪ (subset ∩ writes.toFinset)

def stable (log : Log) (epoch : Nat) : Option Nat :=
  if epoch = 0 then some log.sectorsize else log.flushes[epoch - 1]?.map Entry.stop

def crashedAt (log : Log) (epoch : Nat) (subset : Finset Nat) : Option Nat :=
  match log.epochs[epoch]? with
  | none => stable log epoch
  | some writes => do
      let default ← stable log epoch
      return ((subset ∩ writes.toFinset).image log.stopOf).max.unbotD default

end Chrysopolis.Testbed.Crashlog
