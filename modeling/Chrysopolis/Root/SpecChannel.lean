import Chrysopolis.Abi.SpecWriter
import Chrysopolis.Root.Spec
import Chrysopolis.Support.Transducer

/-! The spec page between its writer and Root. A commit stops after any step, a
restart replaces the writer and keeps the page, and Root consumes the page
between any two steps. -/

set_option autoImplicit false

namespace Chrysopolis.Root

open Chrysopolis.Abi
open Chrysopolis.Support

structure SpecChannel where
  page : Memory
  writer : SpecWriter
  spec : RootSpecState
  /-- The commits whose close step ran, in order. -/
  closed : List Commit
  /-- The last commit that returned ok through flip. -/
  flipped : Option Commit

inductive SpecChannelStep where
  | begin (commit : Commit)
  | step (kind : SpecWriterStepKind)
  | restart
  | consume

/-- One writer step, noting the commits it closes and flips. -/
def writerStep (channel : SpecChannel) (kind : SpecWriterStepKind) : SpecChannel :=
  let (writer, page, result) := specWriterStep channel.writer channel.page kind
  { channel with
    writer, page
    closed :=
      if result = .ok ∧ kind = .stepClose then channel.closed ++ [channel.writer.commit]
      else channel.closed
    flipped :=
      if result = .ok ∧ kind = .stepFlip then some channel.writer.commit else channel.flipped }

/-- The channel emits what each consumption tells Root. -/
def specChannel (presentMask : UInt64) :
    Transducer SpecChannel SpecChannelStep RootSpecResult where
  step channel step :=
    match step with
    | .begin commit =>
        let (writer, page, _) := specWriterBegin channel.writer (some channel.page) commit
        ({ channel with writer, page := page.getD channel.page }, [])
    | .step kind => (writerStep channel kind, [])
    | .restart => ({ channel with writer := specWriterInit }, [])
    | .consume =>
        let (spec, result) :=
          rootSpecConsume channel.spec (some (.still channel.page)) presentMask
        ({ channel with spec }, [result])

/-- A zero page, a fresh writer and Root at boot. -/
def specChannelInit : SpecChannel :=
  { page := fun _ => 0
    writer := specWriterInit
    spec := rootSpecInit
    closed := []
    flipped := none }

/-- A commit's rows of absent children are zero. -/
def Declared (presentMask : UInt64) (commit : Commit) : Prop :=
  ∀ child, maskBit presentMask child.val = false →
    commit.budget child = 0 ∧ commit.desired child = 0

/-- The commits have strictly increasing generations past the last one. -/
def Increasing (presentMask : UInt64) : UInt64 → List SpecChannelStep → Prop
  | _, [] => True
  | last, .begin commit :: steps =>
      last < commit.generation ∧ Declared presentMask commit ∧
        Increasing presentMask commit.generation steps
  | last, _ :: steps => Increasing presentMask last steps

end Chrysopolis.Root
