import Chrysopolis.Root.Main

/-! The system contract: who has which ids and channels, and what each protection domain maps
where, with the checks that both builds run on it. Numbers have no width here; a sum that the
checks guard against overflow is guarded here. -/

set_option autoImplicit false

namespace Chrysopolis.System

def driverCount : Nat := 4
def pageSize : Nat := 0x1000
def nonCrasherPdCount : Nat := 13

/-! ### The contract -/

structure Driver where
  name : String
  child : Nat
  rootDebugChannel : Nat
  rootFaultChannel : Nat
  beamDebugChannel : Nat
  beamFaultChannel : Nat

structure Region where
  size : Nat
  vaddr : Nat

structure SnapshotRegion extends Region where
  resetStackOffset : Nat
  resetStackSize : Nat
  survivorsOffset : Nat
  survivorsSize : Nat
  dataOffset : Nat

structure ConfigSection where
  section_ : String
  blob : String
  elf : String
  deriving DecidableEq

structure ControlRegion where
  size : Nat
  rootVaddr : Nat
  beamVaddr : Nat
  rootCached : Bool
  beamCached : Bool

structure SpecRegion extends ControlRegion where
  headerSize : Nat
  bankSize : Nat
  banks : Nat

structure Control where
  abiVersion : Nat
  ppChannelRoot : Nat
  ppChannelBeam : Nat
  beamDynamicChannelFloor : Nat
  status : ControlRegion
  spec : SpecRegion
  hardBudgetMax : Nat
  rateTokens : Nat
  rateRefillMs : Nat
  eventRingEntries : Nat

structure WorkerClass where
  count : Nat
  budget : Nat
  period : Nat
  heapSize : Nat
  stackSize : Nat

structure WorkerRegion where
  size : Nat
  workerVaddr : Nat
  beamBaseVaddr : Nat
  workerCached : Bool
  beamCached : Bool

structure Transport where
  beamChannelBase : Nat
  workerChannel : Nat
  journalHeaderSize : Nat
  journalEntrySize : Nat
  journalEntries : Nat
  journalPayloadSize : Nat
  request : WorkerRegion
  completion : WorkerRegion

structure Pool where
  childBase : Nat
  slots : Nat
  beamWindowStride : Nat
  classes : Vector WorkerClass 2
  identity : WorkerRegion
  status : WorkerRegion
  transport : Transport
  heapVaddr : Nat
  wamrSlots : Nat
  moduleStagingSize : Nat

structure Restart where
  driverBudget : Nat
  beamBudget : Nat
  clockMinHz : Nat
  clockMaxHz : Nat
  exitFaultBase : Nat
  exitFaultSize : Nat
  configWords : Nat
  wordBytes : Nat
  pdModes : Nat

structure Contract where
  version : Nat
  idCount : Nat
  absentId : Nat
  crasher : Nat
  beam : Nat
  drivers : Vector Driver driverCount
  rootBlkChannel : Nat
  blkVirtChannel : Nat
  rootBeamChannel : Nat
  peerBeamGoneChannel : Nat
  peerTimerFaultChannel : Nat
  restart : Restart
  heap : Region
  snapshot : SnapshotRegion
  control : Control
  pool : Pool
  configSections : List ConfigSection

/-! ### Ids -/

inductive ContractError where
  | unsupportedAbiVersion | invalidMicrokitIdCount | invalidAbsentId | invalidRestartConfigLayout
  | invalidPdRestartModeCount | invalidRestartBudget | invalidRootClockBounds
  | invalidExitFaultRange | invalidControlVersion | invalidControlGeometry | invalidPoolGeometry
  | invalidJournalGeometry | invalidControlRegion | uncachedControlRegion | invalidWorkerRegion
  | uncachedWorkerRegion | invalidHeapRegion | invalidSnapshotRegion | overlappingRuntimeRegions
  | exitFaultRangeMapped | overflow | invalidResetStackLayout | invalidSnapshotDataLayout
  | invalidDriverOrder | nonDenseRootDebugChannels | nonDenseRootFaultChannels | idOutOfRange
  | duplicateId | emptyConfigSectionMap | invalidConfigSectionMapping | duplicateConfigBlob
  | duplicateElfSectionMapping
  /-- With the path and the invariant of the diagnostic. -/
  | invalidSemanticAbi (path invariant : String)
  deriving DecidableEq, Repr

/-- The rest of `validateIds`, after the ids of `previous`. -/
def validateIdsFrom (idCount : Nat) (previous : List Nat) : List Nat → Except ContractError Unit
  | [] => .ok ()
  | id :: rest =>
      if id ≥ idCount then .error .idOutOfRange
      else if previous.contains id then .error .duplicateId
      else validateIdsFrom idCount (previous ++ [id]) rest

def validateIds (ids : List Nat) (idCount : Nat) : Except ContractError Unit :=
  validateIdsFrom idCount [] ids

/-- The first condition that fails, in order. -/
def require : List (Bool × ContractError) → Except ContractError Unit
  | [] => .ok ()
  | (held, error) :: rest => if held then require rest else .error error

/-- `if (!held) return reject(diagnostic, path, invariant)` -/
def semantic (held : Bool) (path invariant : String) : Bool × ContractError :=
  (held, .invalidSemanticAbi path invariant)

/-- A check whose error the caller reports as its own. -/
def orElse (result : Except ContractError Unit) (path invariant : String) : Bool × ContractError :=
  semantic result.isOk path invariant

/-! ### Mappings -/

structure Mapping where
  path : String
  start : Nat
  size : Nat

def rangesOverlap (aStart aSize bStart bSize : Nat) : Bool :=
  if aStart + aSize ≥ 2 ^ 64 ∨ bStart + bSize ≥ 2 ^ 64 then true
  else aStart < bStart + bSize && bStart < aStart + aSize

def checkMapping (mapping : Mapping) : Except ContractError Unit :=
  require
    [ semantic (mapping.size != 0 && mapping.size % pageSize == 0 && mapping.start % pageSize == 0)
        mapping.path "nonzero page-aligned range",
      semantic (mapping.start + mapping.size < 2 ^ 64) mapping.path
        "address plus size does not overflow" ]

/-- The rest of `checkVSpace`, after the mappings of `earlier`. -/
def checkVSpaceFrom (earlier : List Mapping) : List Mapping → Except ContractError Unit
  | [] => .ok ()
  | mapping :: rest => do
      checkMapping mapping
      if earlier.any fun other => rangesOverlap mapping.start mapping.size other.start other.size
        then .error (.invalidSemanticAbi mapping.path "no overlap within one VSpace")
        else checkVSpaceFrom (earlier ++ [mapping]) rest

def checkVSpace (mappings : List Mapping) : Except ContractError Unit :=
  checkVSpaceFrom [] mappings

namespace Contract

def workerRegions (contract : Contract) : List (String × WorkerRegion) :=
  [ ("pool.identity", contract.pool.identity), ("pool.status", contract.pool.status),
    ("pool.transport.request", contract.pool.transport.request),
    ("pool.transport.completion", contract.pool.transport.completion) ]

def rootMaps (contract : Contract) : List Mapping :=
  [ ⟨"control.status.root_vaddr", contract.control.status.rootVaddr, contract.control.status.size⟩,
    ⟨"control.spec.root_vaddr", contract.control.spec.rootVaddr, contract.control.spec.size⟩ ]

def fixedMaps (contract : Contract) : List Mapping :=
  [ ⟨"memory.heap.vaddr", contract.heap.vaddr, contract.heap.size⟩,
    ⟨"memory.snapshot.vaddr", contract.snapshot.vaddr, contract.snapshot.size⟩,
    ⟨"restart.exit_fault_base", contract.restart.exitFaultBase, contract.restart.exitFaultSize⟩,
    ⟨"control.status.beam_vaddr", contract.control.status.beamVaddr, contract.control.status.size⟩,
    ⟨"control.spec.beam_vaddr", contract.control.spec.beamVaddr, contract.control.spec.size⟩ ]

/-- The windows of one slot, which lie `offset` after those of the first. -/
def slotWindows (contract : Contract) (offset : Nat) : List Mapping :=
  contract.workerRegions.map fun region =>
    ⟨region.1, region.2.beamBaseVaddr + offset, region.2.size⟩

/-- What BEAM maps: its own regions, then the windows of every slot. -/
def beamMaps (contract : Contract) : List Mapping :=
  contract.fixedMaps ++ (List.range contract.pool.slots).flatMap fun slot =>
    contract.slotWindows (slot * contract.pool.beamWindowStride)

/-- No window of a slot is past the last address. -/
def windowsFit (contract : Contract) (slot : Nat) : List (Bool × ContractError) :=
  let offset := slot * contract.pool.beamWindowStride
  semantic (offset < 2 ^ 64) "pool.beam_window_stride" "worker window address does not overflow" ::
    contract.workerRegions.map fun region =>
      semantic (region.2.beamBaseVaddr + offset < 2 ^ 64) region.1
        "worker window address does not overflow"

def workerMaps (contract : Contract) (worker : WorkerClass) : List Mapping :=
  let pool := contract.pool
  [ ⟨"pool.identity.worker_vaddr", pool.identity.workerVaddr, pool.identity.size⟩,
    ⟨"pool.status.worker_vaddr", pool.status.workerVaddr, pool.status.size⟩,
    ⟨"pool.transport.request.worker_vaddr", pool.transport.request.workerVaddr,
      pool.transport.request.size⟩,
    ⟨"pool.transport.completion.worker_vaddr", pool.transport.completion.workerVaddr,
      pool.transport.completion.size⟩,
    ⟨"pool.heap.worker_vaddr", pool.heapVaddr, worker.heapSize⟩ ]

/-! ### Semantics -/

def workerChildren (contract : Contract) : List Nat :=
  (List.range contract.pool.slots).map (contract.pool.childBase + ·)

def childIds (contract : Contract) : List Nat :=
  [contract.crasher, contract.beam] ++ contract.drivers.toList.map Driver.child ++
    contract.workerChildren

def rootChannels (contract : Contract) : List Nat :=
  contract.drivers.toList.flatMap (fun driver =>
      [driver.rootDebugChannel, driver.rootFaultChannel]) ++
    [contract.rootBlkChannel, contract.rootBeamChannel, contract.control.ppChannelRoot]

def workerChannels (contract : Contract) : List Nat :=
  (List.range contract.pool.slots).map (contract.pool.transport.beamChannelBase + ·)

def beamChannels (contract : Contract) : List Nat :=
  contract.drivers.toList.flatMap (fun driver =>
      [driver.beamDebugChannel, driver.beamFaultChannel]) ++
    [contract.control.ppChannelBeam] ++ contract.workerChannels

def checkIds (contract : Contract) : Except ContractError Unit :=
  let pool := contract.pool
  require <|
    [ semantic (contract.idCount == 62) "microkit.id_count"
        "Microkit channel and child ID count is 62",
      semantic (nonCrasherPdCount + pool.slots + 1 ≤ 63) "pool.slots"
        "base PDs plus workers plus crasher fit the PD limit",
      semantic (pool.childBase + pool.slots ≤ contract.idCount) "pool.child_base"
        "last worker child is below the ID count",
      orElse (validateIds contract.childIds contract.idCount) "pool.child_base"
        "worker and existing child IDs are unique and in range" ] ++
    contract.workerChannels.map (fun id =>
      semantic (id < contract.idCount) "pool.transport.beam_channel_base"
        "worker channel IDs are in range") ++
    [ orElse (validateIds contract.rootChannels contract.idCount) "control.pp_channel.root"
        "Root channel IDs are unique and in range",
      orElse (validateIds contract.beamChannels contract.idCount)
        "pool.transport.beam_channel_base" "BEAM channel IDs are unique and in range" ] ++
    contract.beamChannels.map (fun id =>
      semantic (contract.control.beamDynamicChannelFloor ≤ id) "control.beam_dynamic_channel_floor"
        "fixed BEAM channels are above the dynamic floor") ++
    [ semantic (pool.transport.workerChannel < contract.idCount) "pool.transport.worker_channel"
        "worker channel ID is in range" ]

def checkGeometry (contract : Contract) : Except ContractError Unit :=
  let control := contract.control
  let pool := contract.pool
  let transport := pool.transport
  require
    [ semantic (control.status.size == 16384) "control.status.size"
        "status page matches wire layout and capacity",
      semantic (control.eventRingEntries == 128) "control.event_ring_entries"
        "event capacity matches wire layout",
      semantic (control.spec.size == 4096) "control.spec.size" "spec page matches wire layout",
      semantic (control.spec.headerSize == 64) "control.spec.header_size"
        "spec header matches wire layout",
      semantic (control.spec.bankSize == 2016) "control.spec.bank_size"
        "spec bank matches wire layout",
      semantic (control.spec.banks == 2) "control.spec.banks" "spec has two banks",
      semantic (pool.identity.size == 4096) "pool.identity.size"
        "worker page matches wire envelope",
      semantic (pool.status.size == 4096) "pool.status.size" "worker page matches wire envelope",
      semantic (transport.request.size == 4096) "pool.transport.request.size"
        "journal page matches wire envelope",
      semantic (transport.completion.size == 4096) "pool.transport.completion.size"
        "journal page matches wire envelope",
      semantic (transport.journalHeaderSize == 256) "pool.transport.journal_header_size"
        "journal header matches wire layout",
      semantic (transport.journalEntrySize == 256) "pool.transport.journal_entry_size"
        "journal entry matches wire layout",
      semantic (transport.journalEntries == 15) "pool.transport.journal_entries"
        "journal capacity matches wire layout",
      semantic (transport.journalPayloadSize == 192) "pool.transport.journal_payload_size"
        "journal payload matches wire layout" ]

def checkCaching (contract : Contract) : Except ContractError Unit :=
  let control := contract.control
  require <|
    [ semantic control.status.rootCached "control.status.root_cached" "mapping is cacheable",
      semantic control.status.beamCached "control.status.beam_cached" "mapping is cacheable",
      semantic control.spec.rootCached "control.spec.root_cached" "mapping is cacheable",
      semantic control.spec.beamCached "control.spec.beam_cached" "mapping is cacheable" ] ++
    contract.workerRegions.flatMap fun region =>
      [ semantic region.2.workerCached (region.1 ++ ".worker_cached") "mapping is cacheable",
        semantic region.2.beamCached (region.1 ++ ".beam_cached") "mapping is cacheable" ]

def checkRates (contract : Contract) : Except ContractError Unit :=
  let control := contract.control
  require
    [ semantic (contract.restart.driverBudget ≤ control.hardBudgetMax &&
        contract.restart.beamBudget ≤ control.hardBudgetMax) "control.hard_budget_max"
        "hard limit covers driver and BEAM budgets",
      semantic (control.rateTokens != 0) "control.command_rate.tokens" "rate is nonzero",
      semantic (control.rateRefillMs != 0) "control.command_rate.refill_ms"
        "refill period is nonzero" ]

def classChecks (contract : Contract) (name : String) (worker : WorkerClass) :
    List (Bool × ContractError) :=
  [ semantic (worker.budget != 0 && worker.period != 0 && worker.budget ≤ worker.period)
      (name ++ ".budget") "budget is positive and at most period",
    semantic (worker.heapSize != 0 && worker.heapSize % pageSize == 0) (name ++ ".heap_size")
      "heap size is a nonzero page multiple",
    semantic (worker.stackSize != 0 && worker.stackSize % pageSize == 0) (name ++ ".stack_size")
      "stack size is a nonzero page multiple",
    semantic (contract.pool.moduleStagingSize ≤ worker.heapSize)
      "pool.runtime_profile.module_staging_size" "module staging fits worker heap" ]

def checkClasses (contract : Contract) : Except ContractError Unit :=
  let pool := contract.pool
  require <|
    contract.classChecks "pool.classes[0]" pool.classes[0] ++
    contract.classChecks "pool.classes[1]" pool.classes[1] ++
    [ semantic (pool.classes[0].count + pool.classes[1].count == pool.slots) "pool.classes"
        "sum of class counts equals slots",
      semantic (pool.wamrSlots != 0 && pool.wamrSlots ≤ pool.slots)
        "pool.runtime_profile.wamr_slots" "WAMR slots fit worker pool" ]

def checkSpaces (contract : Contract) : Except ContractError Unit := do
  checkVSpace contract.rootMaps
  require ((List.range contract.pool.slots).flatMap contract.windowsFit)
  checkVSpace contract.beamMaps
  checkVSpace (contract.workerMaps contract.pool.classes[0])
  checkVSpace (contract.workerMaps contract.pool.classes[1])

def validateSemantics (contract : Contract) : Except ContractError Unit := do
  contract.checkIds
  contract.checkGeometry
  contract.checkCaching
  contract.checkRates
  contract.checkClasses
  contract.checkSpaces

/-! ### Validation -/

/-- `validateControlRegion` -/
def controlRegionChecks (region : ControlRegion) : List (Bool × ContractError) :=
  [ (region.size != 0 && region.size % pageSize == 0 && region.rootVaddr % pageSize == 0 &&
      region.beamVaddr % pageSize == 0, .invalidControlRegion),
    (region.rootCached && region.beamCached, .uncachedControlRegion) ]

/-- `validateWorkerRegion` -/
def workerRegionChecks (region : WorkerRegion) : List (Bool × ContractError) :=
  [ (region.size == pageSize && region.workerVaddr % pageSize == 0 &&
      region.beamBaseVaddr % pageSize == 0, .invalidWorkerRegion),
    (region.workerCached && region.beamCached, .uncachedWorkerRegion) ]

def checkVersions (contract : Contract) : Except ContractError Unit :=
  let restart := contract.restart
  let control := contract.control
  let pool := contract.pool
  let transport := pool.transport
  require
    [ (contract.version == 1, .unsupportedAbiVersion),
      (contract.idCount == 62, .invalidMicrokitIdCount),
      (contract.idCount ≤ contract.absentId, .invalidAbsentId),
      (restart.configWords == 3 && restart.wordBytes == 8, .invalidRestartConfigLayout),
      (restart.pdModes == 2, .invalidPdRestartModeCount),
      (restart.driverBudget != 0 && restart.beamBudget != 0, .invalidRestartBudget),
      (1000 ≤ restart.clockMinHz && restart.clockMinHz ≤ restart.clockMaxHz &&
        restart.clockMaxHz ≤ 4294967295, .invalidRootClockBounds),
      (restart.exitFaultSize != 0 && restart.exitFaultSize % pageSize == 0,
        .invalidExitFaultRange),
      (restart.exitFaultBase % pageSize == 0, .invalidExitFaultRange),
      (control.abiVersion == 1 && control.beamDynamicChannelFloor != 0, .invalidControlVersion),
      (control.status.size == 16384 && control.spec.size == 4096 && control.spec.headerSize == 64 &&
        control.spec.bankSize == 2016 && control.spec.banks == 2 &&
        control.eventRingEntries == 128, .invalidControlGeometry),
      (pool.slots == 16 && pool.childBase == 6 && 4 * pageSize ≤ pool.beamWindowStride &&
        pool.beamWindowStride % pageSize == 0, .invalidPoolGeometry),
      (transport.journalHeaderSize == 256 && transport.journalEntrySize == 256 &&
        transport.journalEntries == 15 && transport.journalPayloadSize == 192,
        .invalidJournalGeometry) ]

def checkRegions (contract : Contract) : Except ContractError Unit :=
  let restart := contract.restart
  let heap := contract.heap
  let snapshot := contract.snapshot
  require <|
    controlRegionChecks contract.control.status ++
    controlRegionChecks contract.control.spec.toControlRegion ++
    contract.workerRegions.flatMap (fun region => workerRegionChecks region.2) ++
    [ (heap.size != 0 && heap.size % pageSize == 0 && heap.vaddr % pageSize == 0,
        .invalidHeapRegion),
      (snapshot.size != 0 && snapshot.size % pageSize == 0 && snapshot.vaddr % pageSize == 0,
        .invalidSnapshotRegion),
      (!rangesOverlap heap.vaddr heap.size snapshot.vaddr snapshot.size,
        .overlappingRuntimeRegions),
      (!rangesOverlap heap.vaddr heap.size restart.exitFaultBase restart.exitFaultSize,
        .exitFaultRangeMapped),
      (!rangesOverlap snapshot.vaddr snapshot.size restart.exitFaultBase restart.exitFaultSize,
        .exitFaultRangeMapped) ]

/-- The reset stack, the survivors and the data of a snapshot. -/
def checkSnapshot (snapshot : SnapshotRegion) : Except ContractError Unit :=
  let resetStackTop := snapshot.resetStackOffset + snapshot.resetStackSize
  let survivorsEnd := snapshot.survivorsOffset + snapshot.survivorsSize
  require
    [ (resetStackTop < 2 ^ 64, .overflow),
      (survivorsEnd < 2 ^ 64, .overflow),
      (pageSize ≤ snapshot.resetStackOffset && resetStackTop ≤ snapshot.survivorsOffset,
        .invalidResetStackLayout),
      (resetStackTop % 16 == 0 && resetStackTop ≤ 0xffff, .invalidResetStackLayout),
      (survivorsEnd ≤ snapshot.dataOffset && snapshot.dataOffset < snapshot.size,
        .invalidSnapshotDataLayout) ]

def driverNames : List String := ["serial", "timer", "blk", "eth"]

/-- Each driver has its own place, by its name and by its channels to Root. -/
def driverChecks (contract : Contract) : List (Bool × ContractError) :=
  contract.drivers.toList.zipIdx.flatMap fun (driver, index) =>
    [ (driverNames[index]? == some driver.name, .invalidDriverOrder),
      (driver.rootDebugChannel == index, .nonDenseRootDebugChannels),
      (driver.rootFaultChannel == index + driverCount, .nonDenseRootFaultChannels) ]

/-- The ids that `validate` checks itself, in its order. -/
def checkFixedIds (contract : Contract) : Except ContractError Unit := do
  let drivers := contract.drivers.toList
  validateIds ([contract.crasher, contract.beam] ++ drivers.map Driver.child) contract.idCount
  validateIds
    (drivers.map Driver.rootDebugChannel ++ drivers.map Driver.rootFaultChannel ++
      [contract.rootBlkChannel, contract.rootBeamChannel]) contract.idCount
  validateIds (drivers.map Driver.beamDebugChannel ++ drivers.map Driver.beamFaultChannel)
    contract.idCount
  validateIds [contract.blkVirtChannel] contract.idCount
  validateIds [contract.peerBeamGoneChannel, contract.peerTimerFaultChannel] contract.idCount

/-- The first byte of a name, if it has one. -/
def startsWithDot (name : String) : Bool := name.toList.head? == some '.'

/-- One mapping of a section, against each earlier one in turn. -/
def sectionChecks (earlier : List ConfigSection) (mapping : ConfigSection) :
    List (Bool × ContractError) :=
  (startsWithDot mapping.section_ && mapping.blob != "" && mapping.elf != "",
      .invalidConfigSectionMapping) ::
    earlier.flatMap fun previous =>
      [ (mapping.blob != previous.blob, .duplicateConfigBlob),
        (!(mapping.elf == previous.elf && mapping.section_ == previous.section_),
          .duplicateElfSectionMapping) ]

/-- The checks of the mappings after those of `earlier`. -/
def sectionsFrom (earlier : List ConfigSection) : List ConfigSection → List (Bool × ContractError)
  | [] => []
  | mapping :: rest => sectionChecks earlier mapping ++ sectionsFrom (earlier ++ [mapping]) rest

def checkSections (contract : Contract) : Except ContractError Unit :=
  require ((contract.configSections != [], .emptyConfigSectionMap) ::
    sectionsFrom [] contract.configSections)

def validate (contract : Contract) : Except ContractError Unit := do
  contract.checkVersions
  contract.checkRegions
  checkSnapshot contract.snapshot
  require contract.driverChecks
  contract.checkFixedIds
  contract.checkSections
  contract.validateSemantics

end Contract

/-! ### The values -/

def controlStatus : ControlRegion where
  size := 16384
  rootVaddr := 0x40000000
  beamVaddr := 0x32000000
  rootCached := true
  beamCached := true

def controlSpec : SpecRegion where
  size := 4096
  rootVaddr := 0x40004000
  beamVaddr := 0x32004000
  rootCached := true
  beamCached := true
  headerSize := 64
  bankSize := 2016
  banks := 2

/-- A worker page, mapped cacheable on both sides. -/
def workerPage (workerVaddr beamBaseVaddr : Nat) : WorkerRegion where
  size := 4096
  workerVaddr
  beamBaseVaddr
  workerCached := true
  beamCached := true

def pool : Pool where
  childBase := 6
  slots := 16
  beamWindowStride := 0x10000
  classes :=
    #v[{ count := 12, budget := 1000, period := 4000, heapSize := 4194304, stackSize := 65536 },
      { count := 4, budget := 2000, period := 4000, heapSize := 16777216, stackSize := 131072 }]
  identity := workerPage 0x10000000 0x34000000
  status := workerPage 0x10001000 0x34001000
  transport :=
    { beamChannelBase := 6
      workerChannel := 0
      journalHeaderSize := 256
      journalEntrySize := 256
      journalEntries := 15
      journalPayloadSize := 192
      request := workerPage 0x10002000 0x34002000
      completion := workerPage 0x10003000 0x34003000 }
  heapVaddr := 0x20000000
  wamrSlots := 4
  moduleStagingSize := 2097152

def configSections : List ConfigSection :=
  [ ⟨".device_resources", "serial_driver_device_resources.data", "serial_driver.elf"⟩,
    ⟨".serial_driver_config", "serial_driver_config.data", "serial_driver.elf"⟩,
    ⟨".serial_virt_tx_config", "serial_virt_tx.data", "serial_virt_tx.elf"⟩,
    ⟨".serial_virt_rx_config", "serial_virt_rx.data", "serial_virt_rx.elf"⟩,
    ⟨".device_resources", "timer_driver_device_resources.data", "timer_driver.elf"⟩,
    ⟨".serial_client_config", "serial_client_beam_server.data", "beam_server.elf"⟩,
    ⟨".timer_client_config", "timer_client_beam_server.data", "beam_server.elf"⟩,
    ⟨".device_resources", "blk_driver_device_resources.data", "blk_driver.elf"⟩,
    ⟨".blk_driver_config", "blk_driver.data", "blk_driver.elf"⟩,
    ⟨".blk_virt_config", "blk_virt.data", "blk_virt.elf"⟩,
    ⟨".blk_client_config", "blk_client_fatfs.data", "fat.elf"⟩,
    ⟨".fs_server_config", "fs_server_fatfs.data", "fat.elf"⟩,
    ⟨".fs_client_config", "fs_client_beam_server.data", "beam_server.elf"⟩,
    ⟨".device_resources", "eth_driver_device_resources.data", "eth_driver.elf"⟩,
    ⟨".net_driver_config", "net_driver.data", "eth_driver.elf"⟩,
    ⟨".net_virt_rx_config", "net_virt_rx.data", "net_virt_rx.elf"⟩,
    ⟨".net_virt_tx_config", "net_virt_tx.data", "net_virt_tx.elf"⟩,
    ⟨".net_copy_config", "net_copy_net_copy.data", "net_copy.elf"⟩,
    ⟨".net_client_config", "net_client_beam_server.data", "beam_server.elf"⟩,
    ⟨".lib_sddf_lwip_config", "lib_sddf_lwip_config_beam_server.data", "beam_server.elf"⟩ ]

def values : Contract where
  version := 1
  idCount := 62
  absentId := 255
  crasher := 4
  beam := 5
  drivers := #v[⟨"serial", 0, 0, 4, 58, 54⟩, ⟨"timer", 1, 1, 5, 59, 55⟩, ⟨"blk", 2, 2, 6, 60, 56⟩,
    ⟨"eth", 3, 3, 7, 61, 57⟩]
  rootBlkChannel := 10
  blkVirtChannel := 61
  rootBeamChannel := 12
  peerBeamGoneChannel := 0
  peerTimerFaultChannel := 1
  restart :=
    { driverBudget := 8
      beamBudget := 64
      clockMinHz := 1000000
      clockMaxHz := 1000000000
      exitFaultBase := 3198156800
      exitFaultSize := 4096
      configWords := 3
      wordBytes := 8
      pdModes := 2 }
  heap := { size := 536870912, vaddr := 1073741824 }
  snapshot :=
    { size := 524288
      vaddr := 805306368
      resetStackOffset := 4096
      resetStackSize := 16384
      survivorsOffset := 20480
      survivorsSize := 4096
      dataOffset := 24576 }
  control :=
    { abiVersion := 1
      ppChannelRoot := 11
      ppChannelBeam := 53
      beamDynamicChannelFloor := 6
      status := controlStatus
      spec := controlSpec
      hardBudgetMax := 64
      rateTokens := 32
      rateRefillMs := 1000
      eventRingEntries := 128 }
  pool := pool
  configSections := configSections

/-- The values are valid, and are what Root is built with. -/
example : values.validate = .ok () ∧ values.beam = Root.childBeam.val ∧
    values.control.ppChannelRoot = Root.controlPpChannelRoot.toNat ∧
    values.restart.clockMinHz = Root.clockMinHz.toNat ∧
    values.restart.clockMaxHz = Root.clockMaxHz.toNat ∧
    values.control.rateTokens = Root.commandRateTokens.toNat ∧
    values.control.rateRefillMs = Root.commandRateRefillMs.toNat ∧
    values.control.status.rootVaddr = Root.statusRootVaddr.toNat ∧
    values.control.spec.rootVaddr = Root.specRootVaddr.toNat := by
  decide +kernel

end Chrysopolis.System
