import Chrysopolis.Support.LeakyCount
import Mathlib.Data.Nat.Basic

/-! `chryso_root_bucket.erl`: Root's command token bucket over unbounded integers. -/

set_option autoImplicit false

namespace Chrysopolis.Core

open Chrysopolis.Support

inductive Refill where
  | running
  | off
  deriving DecidableEq, Repr

/-- A bucket and its refill machine. -/
structure Bucket where
  refill : Refill
  capacity : Nat
  tokens : Nat
  interval : Nat
  last : Nat
  deriving DecidableEq, Repr

/-- One clock sample. -/
structure Sample where
  now : Nat
  valid : Bool
  deriving DecidableEq, Repr

namespace Bucket

/-- `new/4` -/
def new (capacity refillTicks now : Nat) (nowValid : Bool) : Bucket :=
  let base : Bucket := ⟨.off, capacity, capacity, 0, now⟩
  if capacity ≠ 0 ∧ refillTicks ≠ 0 ∧ nowValid then
    { base with
      refill := .running
      interval := refillTicks / capacity + min 1 (refillTicks % capacity) }
  else base

/-- `refill/3` -/
def refillAt (sample : Sample) (bucket : Bucket) : Bucket :=
  match bucket.refill with
  | .off => bucket
  | .running =>
      if !sample.valid || sample.now < bucket.last then { bucket with refill := .off }
      else
        let due := (sample.now - bucket.last) / bucket.interval
        let room := bucket.capacity - bucket.tokens
        if due = 0 then bucket
        else if due ≥ room then { bucket with tokens := bucket.capacity, last := sample.now }
        else
          { bucket with
            tokens := bucket.tokens + due
            last := bucket.last + due * bucket.interval }

/-- `take/3`: whether a token was spent. -/
def take (sample : Sample) (bucket : Bucket) : Bool × Bucket :=
  let refilled := bucket.refillAt sample
  if refilled.tokens = 0 then (false, refilled)
  else (true, { refilled with tokens := refilled.tokens - 1 })

/-- Whether each of the samples was granted a token, and the bucket after them. -/
def takes : List Sample → Bucket → List Bool × Bucket
  | [], bucket => ([], bucket)
  | sample :: samples, bucket =>
      let (granted, next) := bucket.take sample
      let (later, stop) := takes samples next
      (granted :: later, stop)

end Bucket

/-- The latest time the samples tell, from `start` on. -/
def latest (start : Nat) (samples : List Sample) : Nat :=
  samples.foldl (fun seen sample => if sample.valid then max seen sample.now else seen) start

/-- The time at a bucket's end of the samples: the last one while it still refills.
A clock that failed or went backwards tells none, and the latest time it told stands. -/
def Bucket.reached (stop : Bucket) (start : Nat) (samples : List Sample) : Nat :=
  match stop.refill with
  | .running => (samples.getLast?.map (·.now)).getD start
  | .off => latest start samples

end Chrysopolis.Core
