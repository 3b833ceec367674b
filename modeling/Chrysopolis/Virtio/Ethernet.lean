import Mathlib.Data.List.Basic
import Mathlib.Logic.Function.Basic

/-! The virtio network driver as patched for restarts. Buffers move from an sDDF queue to
a header and a packet descriptor and on to the other queue; a restarted init puts the
buffers of in-use headers back on the free queue before it resets what names them. -/

set_option autoImplicit false

namespace Chrysopolis.Virtio

inductive Dir where
  | rx | tx
  deriving DecidableEq, Repr

/-- `struct virtq_desc` -/
structure VirtqDesc where
  addr : Nat := 0
  len : Nat := 0
  flags : UInt16 := 0
  next : Nat := 0
  deriving DecidableEq, Repr

def virtqDescFNext : UInt16 := 1
def virtqDescFWrite : UInt16 := 2

structure NetBuffDesc where
  ioOrOffset : Nat
  len : Nat
  deriving DecidableEq, Repr

/-- What the image and the device fix: the descriptors of a ring and how many of them the
driver allocates, the packet headers, and the buffers of each direction, which its queues
can hold. -/
structure Config where
  num : Nat
  driverCapacity : Nat
  fits : driverCapacity ≤ num
  headerLen : Nat
  headerAddr : Dir → Nat → Nat
  netBufferSize : Nat
  pool : Dir → List Nat
  distinct : ∀ dir, (pool dir).Nodup

/-- One direction: its allocator, ring, cursors and sDDF queues. -/
structure Direction where
  /-- `capacity` and the ids in use of the descriptor allocator; zeroed at boot. -/
  capacity : Nat := 0
  inUse : Nat → Bool := fun _ => false
  desc : Nat → VirtqDesc := fun _ => {}
  availIdx : Nat := 0
  usedHead : Nat := 0
  free : List NetBuffDesc := []
  active : List NetBuffDesc := []
  /-- The buffers the virtualiser holds. -/
  held : List NetBuffDesc := []

/-- Where an init is, between a restart and its first provide. -/
inductive Phase where
  | reclaim (dir : Dir) (id : Nat)
  | resetAllocator (dir : Dir)
  | resetCursors
  | clearRing (dir : Dir) (id : Nat)
  | running
  deriving DecidableEq, Repr

structure Driver where
  rx : Direction := {}
  tx : Direction := {}
  phase : Phase := .reclaim .rx 0
  reclaimedRx : Nat := 0
  reclaimedTx : Nat := 0

namespace Driver

def direction (driver : Driver) : Dir → Direction
  | .rx => driver.rx
  | .tx => driver.tx

def setDirection (driver : Driver) (dir : Dir) (direction : Direction) : Driver :=
  match dir with
  | .rx => { driver with rx := direction }
  | .tx => { driver with tx := direction }

def reclaimed (driver : Driver) : Dir → Nat
  | .rx => driver.reclaimedRx
  | .tx => driver.reclaimedTx

end Driver

variable (config : Config)

/-- A queue takes a buffer while it does not hold the whole pool. -/
def enqueue (dir : Dir) (queue : List NetBuffDesc) (buffer : NetBuffDesc) :
    Option (List NetBuffDesc) :=
  if queue.length < (config.pool dir).length then some (queue ++ [buffer]) else none

namespace Direction

/-- The queue `provide` takes buffers from. -/
def input (direction : Direction) : Dir → List NetBuffDesc
  | .rx => direction.free
  | .tx => direction.active

def setInput (direction : Direction) (dir : Dir) (queue : List NetBuffDesc) : Direction :=
  match dir with
  | .rx => { direction with free := queue }
  | .tx => { direction with active := queue }

/-- The queue a returned buffer goes on to. -/
def output (direction : Direction) : Dir → List NetBuffDesc
  | .rx => direction.active
  | .tx => direction.free

def setOutput (direction : Direction) (dir : Dir) (queue : List NetBuffDesc) : Direction :=
  match dir with
  | .rx => { direction with active := queue }
  | .tx => { direction with free := queue }

/-- The header and packet descriptors of a provided buffer. -/
def headerDesc (dir : Dir) (header packet : Nat) : VirtqDesc :=
  { addr := config.headerAddr dir header
    len := config.headerLen
    flags := virtqDescFNext ||| (match dir with | .rx => virtqDescFWrite | .tx => 0)
    next := packet }

def packetDesc (dir : Dir) (buffer : NetBuffDesc) : VirtqDesc :=
  { addr := buffer.ioOrOffset
    len := match dir with | .rx => config.netBufferSize | .tx => buffer.len
    flags := match dir with | .rx => virtqDescFWrite | .tx => 0 }

/-- One buffer of `rx_provide` or `tx_provide`, with the two ids the allocator gives. -/
def provide (direction : Direction) (dir : Dir) (header packet : Nat) : Option Direction :=
  if header = packet ∨ ¬ header < direction.capacity ∨ ¬ packet < direction.capacity ∨
      direction.inUse header ∨ direction.inUse packet then none
  else
    match direction.input dir with
    | [] => none
    | buffer :: rest =>
        some { direction.setInput dir rest with
          inUse := Function.update (Function.update direction.inUse header true) packet true
          desc :=
            Function.update (Function.update direction.desc header
              (headerDesc config dir header packet)) packet (packetDesc config dir buffer)
          availIdx := direction.availIdx + 1 }

/-- An in-use descriptor that names its packet. -/
def isHeader (direction : Direction) (id : Nat) : Bool :=
  direction.inUse id && (direction.desc id).flags &&& virtqDescFNext != 0 &&
    (direction.desc id).len == config.headerLen

/-- The packet descriptor a header names. -/
def packetOf (direction : Direction) (header : Nat) : Nat :=
  (direction.desc header).next % config.num

/-- One completed header of `rx_return` or `tx_return`. -/
def giveBack (direction : Direction) (dir : Dir) (header len : Nat) : Option Direction :=
  if ¬ header < direction.capacity ∨ direction.isHeader config header = false then none
  else
    let packet := direction.packetOf config header
    let buffer : NetBuffDesc :=
      ⟨(direction.desc packet).addr, match dir with | .rx => len | .tx => 0⟩
    (enqueue config dir (direction.output dir) buffer).map fun queue =>
      { direction.setOutput dir queue with
        inUse := Function.update (Function.update direction.inUse header false) packet false
        usedHead := direction.usedHead + 1 }

/-- The virtualiser takes the first buffer of the output queue. -/
def take (direction : Direction) (dir : Dir) : Option Direction :=
  match direction.output dir with
  | [] => none
  | buffer :: rest =>
      some { direction.setOutput dir rest with held := direction.held ++ [buffer] }

/-- The virtualiser puts a buffer it holds on the input queue, with any length. -/
def give (direction : Direction) (dir : Dir) (buffer : NetBuffDesc) (len : Nat) :
    Option Direction :=
  if buffer ∈ direction.held then
    (enqueue config dir (direction.input dir) { buffer with len }).map fun queue =>
      { direction.setInput dir queue with held := direction.held.erase buffer }
  else none

/-- One id of the reclaim walk, and whether its buffer was put back. -/
def reclaimOne (direction : Direction) (dir : Dir) (id : Nat) : Direction × Bool :=
  if direction.isHeader config id then
    match enqueue config dir direction.free
        ⟨(direction.desc (direction.packetOf config id)).addr, 0⟩ with
    | some queue => ({ direction with free := queue }, true)
    | none => (direction, false)
  else (direction, false)

end Direction

namespace Driver

/-- One step of the init. -/
def initStep (driver : Driver) : Option Driver :=
  match driver.phase with
  | .reclaim dir id =>
      if id < (driver.direction dir).capacity then
        let (direction, done) := (driver.direction dir).reclaimOne config dir id
        let next := driver.setDirection dir direction
        let count := if done then 1 else 0
        some (match dir with
          | .rx => { next with
              phase := .reclaim .rx (id + 1)
              reclaimedRx := next.reclaimedRx + count }
          | .tx => { next with
              phase := .reclaim .tx (id + 1)
              reclaimedTx := next.reclaimedTx + count })
      else
        some { driver with
          phase := match dir with
            | .rx => .reclaim .tx 0
            | .tx => .resetAllocator .rx }
  | .resetAllocator dir =>
      let reset : Direction :=
        { driver.direction dir with capacity := config.driverCapacity, inUse := fun _ => false }
      some { driver.setDirection dir reset with
        phase := match dir with
          | .rx => .resetAllocator .tx
          | .tx => .resetCursors }
  | .resetCursors =>
      some { driver with
        rx := { driver.rx with usedHead := 0 }
        tx := { driver.tx with usedHead := 0 }
        phase := .clearRing .rx 0 }
  | .clearRing dir id =>
      if id < config.num then
        let direction := driver.direction dir
        some { driver.setDirection dir
            { direction with desc := Function.update direction.desc id {} } with
          phase := .clearRing dir (id + 1) }
      else
        let cleared : Direction := { driver.direction dir with availIdx := 0 }
        some { driver.setDirection dir cleared with
          phase := match dir with
            | .rx => .clearRing .tx 0
            | .tx => .running }
  | .running => none

/-- A restart keeps zeroed memory's contents and the rings, and begins the init again. -/
def restart (driver : Driver) : Driver :=
  { driver with phase := .reclaim .rx 0, reclaimedRx := 0, reclaimedTx := 0 }

inductive Action where
  | provide (dir : Dir) (header packet : Nat)
  | giveBack (dir : Dir) (header len : Nat)
  | take (dir : Dir)
  | give (dir : Dir) (buffer : NetBuffDesc) (len : Nat)
  | init
  | restart
  deriving DecidableEq, Repr

/-- The driver provides and returns between inits; the virtualiser runs beside it. -/
def step (driver : Driver) : Action → Option Driver
  | .provide dir header packet =>
      if driver.phase = .running then
        ((driver.direction dir).provide config dir header packet).map (driver.setDirection dir)
      else none
  | .giveBack dir header len =>
      if driver.phase = .running then
        ((driver.direction dir).giveBack config dir header len).map (driver.setDirection dir)
      else none
  | .take dir => ((driver.direction dir).take dir).map (driver.setDirection dir)
  | .give dir buffer len =>
      ((driver.direction dir).give config dir buffer len).map (driver.setDirection dir)
  | .init => driver.initStep config
  | .restart => some driver.restart

def run : Driver → List Action → Option Driver
  | driver, [] => some driver
  | driver, first :: rest => (driver.step config first).bind fun next => run next rest

/-- A cold boot: zeroed memory, and every buffer with the virtualiser. -/
def boot : Driver :=
  { rx := { held := (config.pool .rx).map fun address => ⟨address, 0⟩ }
    tx := { held := (config.pool .tx).map fun address => ⟨address, 0⟩ } }

end Driver

end Chrysopolis.Virtio
