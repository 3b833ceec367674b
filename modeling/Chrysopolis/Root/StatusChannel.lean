import Chrysopolis.Abi.StatusReader
import Chrysopolis.Root.Status

/-! The status page between its writer and a reader. A publication is its odd
store, its payload bytes in any order and its even store; a reader's steps fall
anywhere between them. -/

set_option autoImplicit false

namespace Chrysopolis.Root

open Chrysopolis.Abi
open Chrysopolis.Support

/-- The arguments of one `root_status_publish`. -/
structure PublishCall where
  child : RootChild
  record : Option RootChildRecord
  now : UInt64
  clockValid : Bool
  events : List RootEvent

/-- What Root notes between publications. -/
inductive StatusNote where
  | fault (child : RootChild) (label count mr0 mr1 now : UInt64) (clockValid : Bool)
  | restart (child : RootChild) (now : UInt64) (clockValid beamRestart : Bool)
  | gone (child : RootChild) (now : UInt64) (clockValid : Bool)
  | policy (generation : UInt64) (bank : UInt32) (budget : RootChild → UInt32)
      (desired : RootChild → RootDesired)

def StatusNote.apply (state : RootStatusState) : StatusNote → RootStatusState
  | .fault child label count mr0 mr1 now clockValid =>
      rootStatusNoteFault state child label count mr0 mr1 now clockValid
  | .restart child now clockValid beamRestart =>
      rootStatusNoteRestart state child now clockValid beamRestart
  | .gone child now clockValid => rootStatusNoteGone state child now clockValid
  | .policy generation bank budget desired =>
      rootStatusNotePolicy state generation bank budget desired

/-- Where the writer stands: payload bytes still to store, and the page the call
publishes when it is taken as one step. -/
inductive WriterPhase where
  | idle
  | storing (call : PublishCall) (pending : List (Nat × UInt8)) (whole : Memory)

structure StatusChannel where
  status : RootStatusState
  page : Memory
  writer : WriterPhase
  /-- The completely published pages, in order. -/
  published : List Memory
  reader : Reader

inductive ChannelStep where
  | note (note : StatusNote)
  | publish (call : PublishCall)
  /-- Store any one of the pending payload bytes. -/
  | store (index : Nat)
  /-- The even store; only once the payload is stored. -/
  | release
  | read

/-- The payload of a call, byte by byte. -/
def PublishCall.payload (call : PublishCall) (state : RootStatusState) : List (Nat × UInt8) :=
  (statusLayout.stores (publishPayload state call.child call.record call.now call.clockValid
    call.events)).flatMap Store.writes

/-- A call up to its odd store. -/
def beginPublish (channel : StatusChannel) (call : PublishCall) : StatusChannel :=
  let check := publishCheck channel.status (some channel.page) call.child call.record call.events
  let whole := rootStatusPublish channel.status (some channel.page) call.child call.record
    call.now call.clockValid call.events
  if check = .publish then
    { channel with
      page := statusLayout.assign channel.page [headerStore .seq (channel.status.seq + 1).toNat]
      writer := .storing call (call.payload channel.status) (whole.2.1.getD channel.page) }
  else { channel with status := whole.1 }

/-- A step that does not apply in the writer's phase changes nothing. -/
def channelStep (channel : StatusChannel) (step : ChannelStep) : StatusChannel :=
  match step, channel.writer with
  | .note note, .idle => { channel with status := note.apply channel.status }
  | .publish call, .idle => beginPublish channel call
  | .store index, .storing call pending whole =>
      match pending[index]? with
      | some byte =>
          { channel with
            page := channel.page.write [byte]
            writer := .storing call (pending.eraseIdx index) whole }
      | none => channel
  | .release, .storing call [] whole =>
      { channel with
        status := publishedState channel.status call.events
        page := statusLayout.assign channel.page
          [headerStore .seq (channel.status.seq + 2).toNat]
        writer := .idle
        published := channel.published ++ [whole] }
  | .read, _ => { channel with reader := readStep channel.page channel.reader }
  | _, _ => channel

/-- A freshly initialised page and a reader about to call `root_status_read`. -/
def channelInit (bytes : Memory) (presentMask now frequency : UInt64)
    (budget : RootChild → UInt32) (args : ReadArgs) (scratch output : Memory) :
    StatusChannel :=
  let (status, page) := rootStatusInit (some bytes) presentMask now frequency budget
  let ready := page.getD bytes
  { status
    page := ready
    writer := .idle
    published := [ready]
    reader := { scratch, output, phase := rootStatusRead args } }

/-- The channel after the steps. -/
def channelRun (channel : StatusChannel) (steps : List ChannelStep) : StatusChannel :=
  steps.foldl channelStep channel

end Chrysopolis.Root
