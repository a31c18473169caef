import Mathlib.Logic.Function.Basic
import Rshm.Lib.Ledger

/-!
# Loading and unloading the module

`rshm_init` initialises the devices one after another; when one of them fails
it removes those before it.  `dmirror_device_init` takes several steps, and
does not take back those before the one that fails.
-/

namespace Rshm.Hmm.Load

/-- What a load registers or allocates: by device, or by chunk. -/
inductive Held where
  | chrdevRegion
  | cdev (id : Nat)
  | devmemChunks (id : Nat)
  | devmem (chunk : Nat)
  | memRegion (chunk : Nat)
  | pagemap (chunk : Nat)
  deriving DecidableEq, Repr

/-- The fields of a `struct dmirror_device` that init and remove work with;
`devmem_count` is the number of chunks in the array. -/
structure DmirrorDevice where
  zoneDeviceType : Nat
  devmemCapacity : Nat
  devmemChunks : Option (List Nat)
  deriving DecidableEq, Repr

namespace DmirrorDevice

def zeroed : DmirrorDevice := ⟨0, 0, none⟩

def devmemCount (device : DmirrorDevice) : Nat :=
  (device.devmemChunks.getD []).length

end DmirrorDevice

/-- `DMIRROR_NDEVICES` and the value of `ndevices` when the loop starts. -/
structure Config where
  slots : Nat
  ndevices : Nat
  within : ndevices ≤ slots

/-- What a call that returns a pointer returns. -/
inductive PtrOutcome where
  | address
  | null
  | error (errno : Nat)
  deriving DecidableEq, Repr

/-- The outcomes of the calls of `dmirror_allocate_chunk`. -/
structure ChunkVerbs where
  kzalloc : Bool
  requestFreeMemRegion : PtrOutcome
  krealloc : Bool
  memremapPages : PtrOutcome
  deriving DecidableEq, Repr

def ChunkVerbs.Fails (verbs : ChunkVerbs) : Prop :=
  verbs.kzalloc = false ∨ verbs.requestFreeMemRegion ≠ .address ∨
    verbs.krealloc = false ∨ verbs.memremapPages ≠ .address

structure DeviceVerbs where
  devSetName : Int
  cdevDeviceAdd : Int
  allocateChunk : ChunkVerbs
  deriving DecidableEq, Repr

def DeviceVerbs.Refused (verbs : DeviceVerbs) : Prop :=
  verbs.devSetName ≠ 0 ∨ verbs.cdevDeviceAdd ≠ 0

/-- The device is added, but gets no chunk. -/
def DeviceVerbs.Half (verbs : DeviceVerbs) : Prop :=
  ¬verbs.Refused ∧ verbs.allocateChunk.Fails

def DeviceVerbs.Works (verbs : DeviceVerbs) : Prop :=
  ¬verbs.Refused ∧ ¬verbs.allocateChunk.Fails

structure LoadVerbs where
  allocChrdevRegion : Int
  devices : Nat → DeviceVerbs

/-- The global state; `nextChunk` names the next chunk. -/
structure Driver where
  ledger : Ledger Held
  devices : Nat → DmirrorDevice
  nextChunk : Nat

namespace Driver

def fresh : Driver := ⟨.empty, fun _ => .zeroed, 0⟩

def acquire (driver : Driver) (held : Held) : Driver :=
  { driver with ledger := driver.ledger.acquire held }

def releaseAll (driver : Driver) (held : List Held) : Driver :=
  { driver with ledger := driver.ledger.releaseAll held }

def setDevice (driver : Driver) (id : Nat) (device : DmirrorDevice) :
    Driver :=
  { driver with devices := Function.update driver.devices id device }

/-- `DEVMEM_CHUNKS_RESERVE`. -/
def devmemChunksReserve : Nat := 16

/-- The array is full, and is made longer; `none` if that fails. -/
def growChunks (driver : Driver) (id : Nat) (krealloc : Bool) :
    Option Driver :=
  let device := driver.devices id
  if device.devmemCount = device.devmemCapacity then
    if krealloc then
      let grown := { device with
        devmemCapacity := device.devmemCapacity + devmemChunksReserve
        devmemChunks := some (device.devmemChunks.getD []) }
      let driver := driver.setDevice id grown
      some (if device.devmemChunks = none then
        driver.acquire (.devmemChunks id) else driver)
    else none
  else some driver

/-- `dmirror_allocate_chunk`, as far as it allocates. -/
def dmirrorAllocateChunk (verbs : ChunkVerbs) (id : Nat) (driver : Driver) :
    Int × Driver :=
  if verbs.kzalloc then
    let chunk := driver.nextChunk
    let driver := { driver.acquire (.devmem chunk) with
      nextChunk := chunk + 1 }
    if verbs.requestFreeMemRegion = .address then
      let driver := driver.acquire (.memRegion chunk)
      match driver.growChunks id verbs.krealloc with
      | none => (-12, driver.releaseAll [.memRegion chunk, .devmem chunk])
      | some driver =>
          match verbs.memremapPages with
          | .null =>
              (-14, driver.releaseAll [.memRegion chunk, .devmem chunk])
          | .error errno =>
              (-(errno + 1 : Int),
                driver.releaseAll [.memRegion chunk, .devmem chunk])
          | .address =>
              let device := driver.devices id
              let driver := driver.setDevice id { device with
                devmemChunks :=
                  some (device.devmemChunks.getD [] ++ [chunk]) }
              (0, driver.acquire (.pagemap chunk))
    else (-12, driver.releaseAll [.devmem chunk])
  else (-12, driver)

def removedChunk (chunk : Nat) : List Held :=
  [.pagemap chunk, .memRegion chunk, .devmem chunk]

def dmirrorDeviceRemoveChunks (id : Nat) (driver : Driver) : Driver :=
  let device := driver.devices id
  match device.devmemChunks with
  | none => driver
  | some chunks =>
      let driver := driver.releaseAll
        (chunks.flatMap removedChunk ++ [.devmemChunks id])
      driver.setDevice id
        { device with devmemCapacity := 0, devmemChunks := none }

def dmirrorDeviceInit (verbs : DeviceVerbs) (id : Nat) (driver : Driver) :
    Int × Driver :=
  if verbs.devSetName ≠ 0 then (verbs.devSetName, driver)
  else if verbs.cdevDeviceAdd ≠ 0 then (verbs.cdevDeviceAdd, driver)
  else dmirrorAllocateChunk verbs.allocateChunk id (driver.acquire (.cdev id))

def dmirrorDeviceRemove (id : Nat) (driver : Driver) : Driver :=
  (dmirrorDeviceRemoveChunks id driver).releaseAll [.cdev id]

/-- The loop of `rshm_init` with the passes that are left: the status, the
value of `id` and the state behind the loop. -/
def initDevices (verbs : Nat → DeviceVerbs) :
    (left id : Nat) → Driver → Int × Nat × Driver
  | 0, id, driver => (0, id, driver)
  | left + 1, id, driver =>
      let (ret, driver) := dmirrorDeviceInit (verbs id) id driver
      if ret ≠ 0 then (ret, id, driver)
      else initDevices verbs left (id + 1) driver

/-- `while (--id >= 0) dmirror_device_remove(dmirror_devices + id)`. -/
def removeDevices : (id : Nat) → Driver → Driver
  | 0, driver => driver
  | id + 1, driver => removeDevices id (dmirrorDeviceRemove id driver)

/-- The array as the loop of `rshm_init` finds it. -/
def clearDevices (config : Config) (driver : Driver) : Driver :=
  { driver with devices := fun id =>
      { DmirrorDevice.zeroed with
        -- HMM_DMIRROR_MEMORY_DEVICE_PRIVATE
        zoneDeviceType := if id < config.ndevices then 1 else 0 } }

def rshmInit (config : Config) (verbs : LoadVerbs) (driver : Driver) :
    Int × Driver :=
  if verbs.allocChrdevRegion ≠ 0 then (verbs.allocChrdevRegion, driver)
  else
    let driver := (driver.acquire .chrdevRegion).clearDevices config
    let (ret, id, driver) :=
      initDevices verbs.devices config.ndevices 0 driver
    if ret ≠ 0 then
      (ret, (removeDevices id driver).releaseAll [.chrdevRegion])
    else (0, driver)

/-- The pass of the loop of `rshm_exit` for a device. -/
def exitDevice (driver : Driver) (id : Nat) : Driver :=
  if (driver.devices id).zoneDeviceType ≠ 0 then
    dmirrorDeviceRemove id driver
  else driver

def rshmExit (config : Config) (driver : Driver) : Driver :=
  ((List.range config.slots).foldl exitDevice driver).releaseAll
    [.chrdevRegion]

end Driver

/-- What `dmirror_device_remove_chunks` releases. -/
def DmirrorDevice.held (id : Nat) (device : DmirrorDevice) : List Held :=
  match device.devmemChunks with
  | none => []
  | some chunks => chunks.flatMap Driver.removedChunk ++ [.devmemChunks id]

theorem DmirrorDevice.held_none {id : Nat} {device : DmirrorDevice}
    (array : device.devmemChunks = none) : device.held id = [] := by
  unfold held
  rw [array]

theorem DmirrorDevice.held_some {id : Nat} {device : DmirrorDevice}
    {chunks : List Nat} (array : device.devmemChunks = some chunks) :
    device.held id =
      chunks.flatMap Driver.removedChunk ++ [.devmemChunks id] := by
  unfold held
  rw [array]

/-- A device without an array has room for no chunk. -/
def DmirrorDevice.Sane (device : DmirrorDevice) : Prop :=
  device.devmemChunks = none → device.devmemCapacity = 0

namespace Driver

/-- What the devices that have been added hold. -/
def heldBy (driver : Driver) (ids : List Nat) : List Held :=
  ids.flatMap fun id => (driver.devices id).held id ++ [.cdev id]

/-- Only the chunks of one device have changed. -/
structure Elsewhere (id : Nat) (driver next : Driver) : Prop where
  same : ∀ other, other ≠ id → next.devices other = driver.devices other
  type : (next.devices id).zoneDeviceType =
    (driver.devices id).zoneDeviceType

/-- All devices are as they are between two calls. -/
def AllSane (driver : Driver) : Prop :=
  ∀ id, (driver.devices id).Sane

variable {driver next grown : Driver} {id : Nat} {rest : List Held}

@[simp] theorem acquire_devices (driver : Driver) (held : Held) :
    (driver.acquire held).devices = driver.devices := rfl

@[simp] theorem releaseAll_devices (driver : Driver) (held : List Held) :
    (driver.releaseAll held).devices = driver.devices := rfl

theorem Elsewhere.refl : Elsewhere id driver driver :=
  ⟨fun _ _ => rfl, rfl⟩

theorem Elsewhere.trans {last : Driver} (first : Elsewhere id driver next)
    (second : Elsewhere id next last) : Elsewhere id driver last := by
  constructor
  · intro other different
    exact (second.same other different).trans (first.same other different)
  · exact second.type.trans first.type

theorem Elsewhere.acquire (elsewhere : Elsewhere id driver next)
    (held : Held) : Elsewhere id driver (next.acquire held) :=
  ⟨elsewhere.same, elsewhere.type⟩

theorem Elsewhere.releaseAll (elsewhere : Elsewhere id driver next)
    (held : List Held) : Elsewhere id driver (next.releaseAll held) :=
  ⟨elsewhere.same, elsewhere.type⟩

theorem Elsewhere.types (elsewhere : Elsewhere id driver next)
    (other : Nat) : (next.devices other).zoneDeviceType =
      (driver.devices other).zoneDeviceType := by
  by_cases same : other = id
  · rw [same]
    exact elsewhere.type
  · rw [elsewhere.same other same]

theorem AllSane.elsewhere (sane : driver.AllSane)
    (elsewhere : Elsewhere id driver next)
    (there : (next.devices id).Sane) : next.AllSane := by
  intro other
  by_cases same : other = id
  · rw [same]
    exact there
  · rw [elsewhere.same other same]
    exact sane other

theorem sane_of_array {device : DmirrorDevice}
    (array : device.devmemChunks ≠ none) : device.Sane :=
  fun missing => absurd missing array

theorem setDevice_elsewhere {device : DmirrorDevice}
    (type : device.zoneDeviceType = (driver.devices id).zoneDeviceType) :
    Elsewhere id driver (driver.setDevice id device) := by
  constructor
  · intro other different
    exact Function.update_of_ne different ..
  · rw [← type]
    exact congrArg _ (Function.update_self ..)

theorem setDevice_devices (driver : Driver) (id : Nat)
    (device : DmirrorDevice) :
    (driver.setDevice id device).devices id = device :=
  Function.update_self ..

theorem heldBy_congr {ids : List Nat}
    (same : ∀ id ∈ ids, next.devices id = driver.devices id) :
    next.heldBy ids = driver.heldBy ids := by
  unfold heldBy
  rw [List.flatMap_def, List.flatMap_def]
  apply congrArg List.flatten
  apply List.map_congr_left
  intro id member
  rw [same id member]

theorem heldBy_elsewhere (elsewhere : Elsewhere id driver next)
    {ids : List Nat} (outside : id ∉ ids) :
    next.heldBy ids = driver.heldBy ids := by
  apply heldBy_congr
  intro other member
  apply elsewhere.same
  rintro rfl
  exact outside member

theorem heldBy_cons (driver : Driver) (id : Nat) (ids : List Nat) :
    driver.heldBy (id :: ids) =
      (driver.devices id).held id ++ (.cdev id :: driver.heldBy ids) := by
  unfold heldBy
  rw [List.flatMap_cons, List.append_assoc]
  rfl

theorem heldBy_perm {ids other : List Nat} (same : ids.Perm other) :
    (driver.heldBy ids).Perm (driver.heldBy other) :=
  same.flatMap_right _

theorem growChunks_holding {krealloc : Bool}
    (holding : driver.ledger.Holding ((driver.devices id).held id ++ rest))
    (sane : (driver.devices id).Sane)
    (grew : driver.growChunks id krealloc = some grown) :
    grown.ledger.Holding ((grown.devices id).held id ++ rest) ∧
      (grown.devices id).devmemChunks ≠ none ∧
      Elsewhere id driver grown := by
  unfold growChunks at grew
  dsimp only at grew
  by_cases full : (driver.devices id).devmemCount =
      (driver.devices id).devmemCapacity
  · rw [if_pos full] at grew
    cases krealloc with
    | false => cases grew
    | true =>
        obtain rfl := Option.some.inj grew
        cases array : (driver.devices id).devmemChunks with
        | none =>
            rw [if_pos rfl]
            rw [DmirrorDevice.held_none array] at holding
            refine ⟨?_, ?_, ?_⟩
            · rw [acquire_devices, setDevice_devices]
              exact holding.acquire
            · rw [acquire_devices, setDevice_devices]
              exact Option.some_ne_none _
            · apply Elsewhere.acquire
              apply setDevice_elsewhere
              rfl
        | some chunks =>
            rw [if_neg (Option.some_ne_none _)]
            rw [DmirrorDevice.held_some array] at holding
            rw [setDevice_devices]
            exact ⟨holding, Option.some_ne_none _, setDevice_elsewhere rfl⟩
  · rw [if_neg full] at grew
    obtain rfl := Option.some.inj grew
    refine ⟨holding, ?_, .refl⟩
    intro array
    apply full
    rw [sane array]
    unfold DmirrorDevice.devmemCount
    rw [array]
    rfl

theorem refused_holding {chunk : Nat}
    (holding : driver.ledger.Holding ((driver.devices id).held id ++
      (.memRegion chunk :: .devmem chunk :: rest))) :
    (driver.releaseAll [.memRegion chunk, .devmem chunk]).ledger.Holding
      ((driver.devices id).held id ++ rest) := by
  apply Ledger.Holding.releaseAll
  apply holding.perm
  exact List.perm_append_comm_assoc _ [.memRegion chunk, .devmem chunk] rest

theorem entered_holding {chunk : Nat}
    (holding : driver.ledger.Holding ((driver.devices id).held id ++
      (.memRegion chunk :: .devmem chunk :: rest)))
    (array : (driver.devices id).devmemChunks ≠ none) :
    let device := { driver.devices id with
      devmemChunks :=
        some ((driver.devices id).devmemChunks.getD [] ++ [chunk]) }
    (driver.acquire (.pagemap chunk)).ledger.Holding
      (device.held id ++ rest) := by
  intro device
  obtain ⟨chunks, array⟩ := Option.ne_none_iff_exists'.mp array
  have after : device.held id =
      chunks.flatMap removedChunk ++
        (removedChunk chunk ++ [.devmemChunks id]) := by
    have longer : device.devmemChunks = some (chunks ++ [chunk]) := by
      show some ((driver.devices id).devmemChunks.getD [] ++ [chunk]) = _
      rw [array]
      rfl
    rw [device.held_some longer, List.flatMap_append, List.append_assoc]
    rfl
  rw [DmirrorDevice.held_some array] at holding
  rw [after]
  have taken : (driver.acquire (.pagemap chunk)).ledger.Holding
      (.pagemap chunk :: (chunks.flatMap removedChunk ++
        [.devmemChunks id] ++ (.memRegion chunk :: .devmem chunk :: rest))) :=
    holding.acquire
  apply taken.perm
  rw [List.append_assoc, List.append_assoc, List.append_assoc]
  apply (List.perm_middle.symm).trans
  apply List.Perm.append_left
  exact (List.perm_append_comm_assoc [.devmemChunks id]
    [.memRegion chunk, .devmem chunk] rest).cons (.pagemap chunk)

/-- The state in which the array is made longer. -/
def withRegion (driver : Driver) : Driver :=
  ({ driver.acquire (.devmem driver.nextChunk) with
    nextChunk := driver.nextChunk + 1 } : Driver).acquire
      (.memRegion driver.nextChunk)

theorem withRegion_elsewhere : Elsewhere id driver driver.withRegion :=
  ⟨fun _ _ => rfl, rfl⟩

theorem withRegion_holding
    (holding : driver.ledger.Holding ((driver.devices id).held id ++ rest)) :
    driver.withRegion.ledger.Holding
      ((driver.withRegion.devices id).held id ++
        (.memRegion driver.nextChunk :: .devmem driver.nextChunk ::
          rest)) := by
  have both : driver.withRegion.ledger.Holding
      (.memRegion driver.nextChunk :: .devmem driver.nextChunk ::
        ((driver.devices id).held id ++ rest)) := holding.acquire.acquire
  apply both.perm
  exact List.perm_append_comm_assoc
    [.memRegion driver.nextChunk, .devmem driver.nextChunk] _ rest

/-- What `dmirror_allocate_chunk` leaves, by the call that fails. -/
inductive Allocated (id : Nat) (driver : Driver) :
    ChunkVerbs → Int × Driver → Prop where
  | kzalloc {request krealloc memremap} :
      Allocated id driver ⟨false, request, krealloc, memremap⟩ (-12, driver)
  | request {request krealloc memremap} (failed : request ≠ .address) :
      Allocated id driver ⟨true, request, krealloc, memremap⟩
        (-12, ({ driver.acquire (.devmem driver.nextChunk) with
          nextChunk := driver.nextChunk + 1 } : Driver).releaseAll
            [.devmem driver.nextChunk])
  | krealloc {krealloc memremap}
      (failed : driver.withRegion.growChunks id krealloc = none) :
      Allocated id driver ⟨true, .address, krealloc, memremap⟩
        (-12, driver.withRegion.releaseAll
          [.memRegion driver.nextChunk, .devmem driver.nextChunk])
  | memremap {krealloc memremap ret grown}
      (grew : driver.withRegion.growChunks id krealloc = some grown)
      (failed : memremap ≠ .address) (error : ret ≠ 0) :
      Allocated id driver ⟨true, .address, krealloc, memremap⟩
        (ret, grown.releaseAll
          [.memRegion driver.nextChunk, .devmem driver.nextChunk])
  | done {krealloc grown}
      (grew : driver.withRegion.growChunks id krealloc = some grown) :
      Allocated id driver ⟨true, .address, krealloc, .address⟩
        (0, (grown.setDevice id { grown.devices id with
          devmemChunks := some ((grown.devices id).devmemChunks.getD [] ++
            [driver.nextChunk]) }).acquire (.pagemap driver.nextChunk))

theorem dmirrorAllocateChunk_allocated (verbs : ChunkVerbs) (id : Nat)
    (driver : Driver) :
    Allocated id driver verbs (dmirrorAllocateChunk verbs id driver) := by
  obtain ⟨kzalloc, request, krealloc, memremap⟩ := verbs
  unfold dmirrorAllocateChunk
  dsimp only
  cases kzalloc with
  | false => exact .kzalloc
  | true =>
      rw [if_pos rfl]
      by_cases requested : request = .address
      · subst requested
        rw [if_pos rfl]
        cases grew : driver.withRegion.growChunks id krealloc with
        | none =>
            unfold withRegion at grew
            rw [grew]
            exact .krealloc grew
        | some grown =>
            have grew' := grew
            unfold withRegion at grew'
            rw [grew']
            cases memremap with
            | null => exact .memremap grew nofun (by decide)
            | error errno => exact .memremap grew nofun (by omega)
            | address => exact .done grew
      · rw [if_neg requested]
        exact .request requested

/-- `dmirror_allocate_chunk` holds what is in the array, whatever fails. -/
theorem dmirrorAllocateChunk_holding (verbs : ChunkVerbs)
    (holding : driver.ledger.Holding ((driver.devices id).held id ++ rest))
    (sane : driver.AllSane) :
    let next := (dmirrorAllocateChunk verbs id driver).2
    next.ledger.Holding ((next.devices id).held id ++ rest) ∧
      next.AllSane ∧ Elsewhere id driver next := by
  have through {krealloc : Bool} {grown : Driver}
      (grew : driver.withRegion.growChunks id krealloc = some grown) :=
    growChunks_holding (withRegion_holding holding) (sane id) grew
  have allocated := dmirrorAllocateChunk_allocated verbs id driver
  generalize dmirrorAllocateChunk verbs id driver = result at allocated
  cases allocated with
  | kzalloc => exact ⟨holding, sane, .refl⟩
  | request failed =>
      refine ⟨?_, sane, ⟨fun _ _ => rfl, rfl⟩⟩
      exact holding.acquire.release
  | krealloc failed =>
      refine ⟨?_, sane, ⟨fun _ _ => rfl, rfl⟩⟩
      exact refused_holding (withRegion_holding holding)
  | memremap grew failed error =>
      obtain ⟨grown_holding, array, elsewhere⟩ := through grew
      have whole := withRegion_elsewhere.trans elsewhere
      exact ⟨refused_holding grown_holding,
        sane.elsewhere (whole.releaseAll _) (sane_of_array array),
        whole.releaseAll _⟩
  | @done _ grown grew =>
      obtain ⟨grown_holding, array, elsewhere⟩ := through grew
      have before := withRegion_elsewhere.trans elsewhere
      let device := { grown.devices id with
        devmemChunks := some ((grown.devices id).devmemChunks.getD [] ++
          [driver.nextChunk]) }
      have entered : Elsewhere id grown (grown.setDevice id device) := by
        apply setDevice_elsewhere
        rfl
      have whole := (before.trans entered).acquire (.pagemap driver.nextChunk)
      have there := setDevice_devices grown id device
      have array' : ((grown.setDevice id device).devices id).devmemChunks ≠
          none := by
        rw [there]
        exact Option.some_ne_none _
      refine ⟨?_, sane.elsewhere whole (sane_of_array array'), whole⟩
      rw [acquire_devices, there]
      exact entered_holding grown_holding array

/-- `dmirror_device_remove_chunks` releases it. -/
theorem dmirrorDeviceRemoveChunks_holding
    (holding : driver.ledger.Holding ((driver.devices id).held id ++ rest))
    (sane : driver.AllSane) :
    let next := dmirrorDeviceRemoveChunks id driver
    next.ledger.Holding rest ∧ (next.devices id).devmemChunks = none ∧
      next.AllSane ∧ Elsewhere id driver next := by
  intro next
  cases array : (driver.devices id).devmemChunks with
  | none =>
      have eq : next = driver := by
        show dmirrorDeviceRemoveChunks id driver = _
        unfold dmirrorDeviceRemoveChunks
        dsimp only
        rw [array]
      rw [DmirrorDevice.held_none array] at holding
      rw [eq]
      exact ⟨holding, array, sane, .refl⟩
  | some chunks =>
      let device := { driver.devices id with
        devmemCapacity := 0
        devmemChunks := none }
      have eq : next = (driver.releaseAll (chunks.flatMap removedChunk ++
          [.devmemChunks id])).setDevice id device := by
        show dmirrorDeviceRemoveChunks id driver = _
        unfold dmirrorDeviceRemoveChunks
        dsimp only
        rw [array]
      rw [DmirrorDevice.held_some array] at holding
      have there := setDevice_devices (driver.releaseAll
        (chunks.flatMap removedChunk ++ [.devmemChunks id])) id device
      have removed : Elsewhere id driver next := by
        rw [eq]
        apply Elsewhere.trans (Elsewhere.refl.releaseAll _)
        apply setDevice_elsewhere
        rfl
      have cleared : next.devices id = device := by
        rw [eq]
        exact there
      refine ⟨?_, ?_, ?_, removed⟩
      · rw [eq]
        exact holding.releaseAll
      · rw [cleared]
      · apply sane.elsewhere removed
        rw [cleared]
        intro _
        rfl

end Driver

end Rshm.Hmm.Load
