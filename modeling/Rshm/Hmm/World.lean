import Rshm.Hmm.Migrate
import Rshm.Lib.Machine

/-!
# The driver as a step machine

The state is the machine's page frames, the page tables of the processes, the
open mirrors, and the operations in progress.  The steps are the sections of
`hmm.c` that run without interruption: a critical section of a mirror mutex,
an invalidation callback, and each call of a migration.  Everything the
kernel decides comes in with the input of the step.
-/

namespace Rshm.Hmm

open RangeLoop

/-- A `dmirror_range_fault` in progress.  `hmmPfns` is filled by
`hmm_range_fault`.  `moved` is a history variable: the addresses at which a
migration has changed the page of the process since then. -/
structure Fault where
  dmirror : Nat
  mm : Nat
  first : Nat
  npages : Nat
  write : Bool
  notifierSeq : Nat
  hmmPfns : Option (Nat → HmmPfn)
  moved : Nat → Bool

/-- A range between `mmu_notifier_invalidate_range_start` and `_end`. -/
structure Invalidation where
  mm : Nat
  first : Nat
  last : Nat
  deriving DecidableEq, Repr

/-- How far a migration has come. -/
inductive Stage where
  | setup
  | copied
  | migrated
  | mapped
  deriving DecidableEq, Repr

/-- One window of a migration in progress: `struct migrate_vma` and the
mirror it runs for. -/
structure Migration where
  dmirror : Nat
  pgmapOwner : Nat
  mm : Nat
  flags : MigrateVmaDirection
  vmWrite : Bool
  first : Nat
  npages : Nat
  slots : Nat → MigrateSlot
  stage : Stage

/-- `lastWrite` is a history variable: the contents that each address got
from the last critical section of `dmirror_do_write` that wrote it.
`useAfterFree` records that a released mirror was dereferenced. -/
structure World (Contents : Type) where
  mem : Memory Contents
  cpu : Nat → Nat → Pte
  dmirror : Nat → Option Dmirror
  released : Nat → Bool
  faults : Nat → Option Fault
  invalidations : List Invalidation
  migrations : Nat → Option Migration
  useAfterFree : Bool
  lastWrite : Nat → Nat → Contents

/-- What a process may do to a page it maps while the range is being
invalidated. -/
inductive CpuChange where
  | unmap
  | protect (writable : Bool)
  | copy (pfn : Nat) (writable : Bool)
  deriving DecidableEq, Repr

inductive Input (Contents : Type) where
  | openFile (dmirror mdevice mm : Nat)
  | closeFile (dmirror : Nat)
  | doWrite (dmirror count first : Nat) (bounce : DmirrorBounce Contents)
  | readBegin (fault dmirror count first : Nat) (write : Bool)
  | hmmRangeFault (fault : Nat)
  | abandonFault (fault : Nat)
  | doFault (fault : Nat) (xaFails : Nat → Bool)
  | populate (mm pfn frame : Nat) (writable : Bool)
  | populateZero (mm pfn : Nat)
  | invalidateStart (event : NotifierEvent) (range : Invalidation)
  | cpuChange (mm pfn : Nat) (change : CpuChange)
  | invalidateEnd (range : Invalidation)
  | setup (id dmirror : Nat) (flags : MigrateVmaDirection) (vmWrite : Bool)
      (count first : Nat) (collected : Nat → Bool)
  | cpuFault (id mm pfn : Nat) (vmWrite collected : Bool)
  | allocAndCopy (id : Nat) (alloc : Nat → Option (Nat × Nat))
  | faultAllocAndCopy (id : Nat) (alloc : Nat → Option Nat)
  | pages (id : Nat) (migrated : Nat → Bool)
  | finalizeAndMap (id : Nat) (xaFails : Nat → Bool)
  | finalize (id : Nat)
  | exclusive (dmirror count first : Nat) (pages : Nat → Option Page)
      (complete : Bool) (xaFails : Nat → Bool)
  | release (mdevice : Nat) (evictions : List (Nat × Nat × Nat))

namespace World

variable {Contents : Type}

/-- Calls every interval notifier of the process. -/
def notify (world : World Contents) (event : NotifierEvent)
    (owner : Option Nat) (mm first last : Nat) : World Contents :=
  { world with
    dmirror := fun m => (world.dmirror m).map fun dmirror =>
      if dmirror.mm = mm then
        dmirrorIntervalInvalidate event owner first last dmirror
      else dmirror }

def setCpu (world : World Contents) (mm pfn : Nat) (pte : Pte) :
    World Contents :=
  { world with
    cpu := Function.update world.cpu mm
      (Function.update (world.cpu mm) pfn pte) }

def setMigration (world : World Contents) (id : Nat)
    (migration : Option Migration) : World Contents :=
  { world with migrations := Function.update world.migrations id migration }

def setFault (world : World Contents) (id : Nat) (fault : Option Fault) :
    World Contents :=
  { world with faults := Function.update world.faults id fault }

def setPt (world : World Contents) (m : Nat) (dmirror : Dmirror)
    (pt : XArray) : World Contents :=
  { world with
    dmirror := Function.update world.dmirror m
      (some { dmirror with pt := pt }) }

/-- `dmirror_fops_open`.  Each open has a name of its own. -/
def openFile (world : World Contents) (m mdevice mm : Nat) :
    Option (World Contents) :=
  if (world.dmirror m).isSome || world.released m then none
  else
    some { world with
      dmirror := Function.update world.dmirror m
        (some ⟨mdevice, mm, fun _ => none, 0⟩) }

/-- `dmirror_fops_release`. -/
def closeFile (world : World Contents) (m : Nat) : Option (World Contents) :=
  if (world.dmirror m).isSome then
    some { world with
      dmirror := Function.update world.dmirror m none
      released := Function.update world.released m true }
  else none

/-- One critical section of `dmirror_write`. -/
def doWrite (world : World Contents) (m count first : Nat)
    (bounce : DmirrorBounce Contents) : Option (World Contents) :=
  (world.dmirror m).map fun dmirror =>
    let after := (dmirrorDoWrite dmirror.pt count first (world.mem, bounce)).1
    { world with
      mem := after.1
      lastWrite := Function.update world.lastWrite dmirror.mm fun pfn =>
        if first ≤ pfn ∧ pfn + bounce.cpages < first + after.2.cpages then
          bounce.ptr (pfn - bounce.addr)
        else world.lastWrite dmirror.mm pfn }

/-- `mmu_interval_read_begin`, which waits while an invalidation of the
notifier is in progress. -/
def readBegin (world : World Contents) (id m count first : Nat)
    (write : Bool) : Option (World Contents) :=
  match world.dmirror m with
  | none => none
  | some dmirror =>
      if (world.faults id).isSome ||
          world.invalidations.any (fun range => range.mm == dmirror.mm) then
        none
      else
        some (world.setFault id (some
          { dmirror := m
            mm := dmirror.mm
            first := first
            npages := count
            write := write
            notifierSeq := dmirror.invalidateSeq
            hmmPfns := none
            moved := fun _ => false }))

/-- Whether `hmm_range_fault` reports the entry as it is, for a caller with
`dev_private_owner` set to its device. -/
def hmmFaultable (mdevice : Nat) (write : Bool) : Pte → Bool
  | .present page writable =>
      (writable || !write) &&
        (!page.isZoneDevicePage || page.owner == some mdevice)
  | _ => false

def hmmPfnOf : Pte → HmmPfn
  | .present page writable => ⟨page, writable⟩
  | _ => ⟨.zero, false⟩

/-- `hmm_range_fault` under `mmap_read_lock`, once all pages are populated. -/
def hmmRangeFault (world : World Contents) (id : Nat) :
    Option (World Contents) :=
  match world.faults id with
  | none => none
  | some fault =>
      match world.dmirror fault.dmirror with
      | none => none
      | some dmirror =>
          if fault.hmmPfns.isNone &&
              (List.range fault.npages).all (fun i =>
                hmmFaultable dmirror.mdevice fault.write
                  (world.cpu fault.mm (fault.first + i))) then
            some (world.setFault id (some
              { fault with
                hmmPfns := some fun pfn => hmmPfnOf (world.cpu fault.mm pfn)
                moved := fun _ => false }))
          else none

/-- `dmirror_range_fault` starts over or gives up. -/
def abandonFault (world : World Contents) (id : Nat) :
    Option (World Contents) :=
  if (world.faults id).isSome then some (world.setFault id none) else none

/-- The critical section of `dmirror_range_fault`:
`mmu_interval_read_retry`, then `dmirror_do_fault`. -/
def doFault (world : World Contents) (id : Nat) (xaFails : Nat → Bool) :
    Option (World Contents) :=
  match world.faults id with
  | none => none
  | some fault =>
      match world.dmirror fault.dmirror, fault.hmmPfns with
      | some dmirror, some hmmPfns =>
          if dmirror.invalidateSeq ≠ fault.notifierSeq then
            some (world.setFault id none)
          else
            some (world.setPt fault.dmirror dmirror
              (dmirrorDoFault fault.write hmmPfns xaFails fault.npages
                fault.first dmirror.pt).1 |>.setFault id none)
      | _, _ => none

/-- A process touches an address it does not map yet. -/
def populate [Zero Contents] (world : World Contents) (mm pfn frame : Nat)
    (writable : Bool) : Option (World Contents) :=
  if world.cpu mm pfn = .none then
    match world.mem.allocPage (some frame) with
    | (none, _) => none
    | (some page, mem) =>
        some ({ world with mem := mem.write page 0 }.setCpu mm pfn
          (.present page writable))
  else none

def populateZero (world : World Contents) (mm pfn : Nat) :
    Option (World Contents) :=
  if world.cpu mm pfn = .none then
    some (world.setCpu mm pfn (.present .zero false))
  else none

def invalidateStart (world : World Contents) (event : NotifierEvent)
    (range : Invalidation) : Option (World Contents) :=
  if event = .migrate then none
  else
    some { world.notify event none range.mm range.first range.last with
      invalidations := range :: world.invalidations }

def cpuChange (world : World Contents) (mm pfn : Nat) (change : CpuChange) :
    Option (World Contents) :=
  if world.invalidations.any (fun range =>
      range.mm == mm && decide (range.first ≤ pfn) &&
        decide (pfn < range.last)) then
    match world.cpu mm pfn, change with
    | .present page _, .unmap =>
        some ({ world with mem := world.mem.putPage page }.setCpu mm pfn
          .none)
    | .migration _ _, .unmap => some (world.setCpu mm pfn .none)
    | .present page _, .protect writable =>
        some (world.setCpu mm pfn
          (.present page (writable && page != .zero)))
    | .present page _, .copy frame writable =>
        match world.mem.backingPage page, world.mem.allocPage (some frame) with
        | some rpage, (some target, mem) =>
            some ({ world with
                mem := (mem.write target (mem.contents rpage)).putPage page
              }.setCpu mm pfn (.present target writable))
        | _, _ => none
    | _, _ => none
  else none

def invalidateEnd (world : World Contents) (range : Invalidation) :
    Option (World Contents) :=
  if range ∈ world.invalidations then
    some { world with invalidations := world.invalidations.erase range }
  else none

/-- `migrate_vma_setup` for a mirror of device `mdevice`.  The notification
carries `MMU_NOTIFY_MIGRATE` and the device as owner. -/
def migrateSetup (world : World Contents) (id m mdevice mm : Nat)
    (flags : MigrateVmaDirection) (vmWrite : Bool) (count first : Nat)
    (collected : Nat → Bool) : World Contents :=
  let after := migrateVmaSetup flags mdevice collected count first
    (world.cpu mm)
  { world.notify .migrate (some mdevice) mm first (first + count) with
    cpu := Function.update world.cpu mm after.1 }
    |>.setMigration id (some
      { dmirror := m
        pgmapOwner := mdevice
        mm := mm
        flags := flags
        vmWrite := vmWrite
        first := first
        npages := count
        slots := after.2
        stage := .setup })

/-- The start of a window of `dmirror_migrate_to_device`
(`selectSystem`) or `dmirror_migrate_to_system`
(`selectDevicePrivate`). -/
def setup (world : World Contents) (id m : Nat) (flags : MigrateVmaDirection)
    (vmWrite : Bool) (count first : Nat) (collected : Nat → Bool) :
    Option (World Contents) :=
  match world.dmirror m, world.migrations id with
  | some dmirror, none =>
      some (world.migrateSetup id m dmirror.mdevice dmirror.mm flags vmWrite
        count first collected)
  | _, _ => none

/-- The start of `dmirror_devmem_fault`: the mirror is found through the
device page and its backing page. -/
def cpuFault (world : World Contents) (id mm pfn : Nat)
    (vmWrite collected : Bool) : Option (World Contents) :=
  match world.cpu mm pfn, world.migrations id with
  | .present (.devicePrivate mdevice dpfn) _, none =>
      match world.mem.zoneDeviceData (.devicePrivate mdevice dpfn) with
      | .page rpage =>
          match world.mem.zoneDeviceData rpage with
          | .dmirror m =>
              match world.dmirror m with
              | some dmirror =>
                  some (world.migrateSetup id m dmirror.mdevice mm
                    .selectDevicePrivate vmWrite 1 pfn fun _ => collected)
              | none => some { world with useAfterFree := true }
          | _ => some { world with useAfterFree := true }
      | _ => some { world with useAfterFree := true }
  | _, _ => none

def allocAndCopy [Zero Contents] (world : World Contents) (id : Nat)
    (alloc : Nat → Option (Nat × Nat)) : Option (World Contents) :=
  match world.migrations id with
  | none => none
  | some migration =>
      if migration.flags = .selectSystem ∧ migration.stage = .setup then
        let after := dmirrorMigrateAllocAndCopy migration.pgmapOwner
          migration.dmirror migration.vmWrite alloc migration.npages
          migration.first (migration.slots, world.mem)
        some ({ world with mem := after.2 }.setMigration id (some
          { migration with slots := after.1, stage := .copied }))
      else none

def faultAllocAndCopy (world : World Contents) (id : Nat)
    (alloc : Nat → Option Nat) : Option (World Contents) :=
  match world.migrations id with
  | none => none
  | some migration =>
      if migration.flags = .selectDevicePrivate ∧
          migration.stage = .setup then
        match world.dmirror migration.dmirror with
        | none => some { world with useAfterFree := true }
        | some dmirror =>
            let after := dmirrorDevmemFaultAllocAndCopy alloc
              migration.npages migration.first
              ⟨migration.slots, world.mem, dmirror.pt⟩
            some ({ world with mem := after.mem }
              |>.setPt migration.dmirror dmirror after.pt
              |>.setMigration id (some
                { migration with slots := after.slots, stage := .copied }))
      else none

/-- The history variable of a fault across a step of a migration. -/
def Fault.passMigration (mm : Nat) (before after : Nat → Pte)
    (fault : Fault) : Fault :=
  { fault with
    moved := fun pfn => fault.moved pfn ||
      (fault.mm == mm && (before pfn).page != (after pfn).page) }

/-- A migration changes the page table of the process. -/
def remap (world : World Contents) (mm : Nat) (after : Nat → Pte) :
    World Contents :=
  { world with
    cpu := Function.update world.cpu mm after
    faults := fun f =>
      (world.faults f).map (Fault.passMigration mm (world.cpu mm) after) }

def pages (world : World Contents) (id : Nat) (migrated : Nat → Bool) :
    Option (World Contents) :=
  match world.migrations id with
  | none => none
  | some migration =>
      if migration.stage = .copied then
        let after := migrateVmaPages migration.vmWrite migrated
          migration.npages migration.first
          (world.cpu migration.mm, migration.slots)
        some ((world.remap migration.mm after.1).setMigration id (some
          { migration with slots := after.2, stage := .migrated }))
      else none

/-- `dmirror_migrate_finalize_and_map`, called for migrations to the device
only; its result is ignored. -/
def finalizeAndMap (world : World Contents) (id : Nat)
    (xaFails : Nat → Bool) : Option (World Contents) :=
  match world.migrations id with
  | none => none
  | some migration =>
      if migration.flags = .selectSystem ∧ migration.stage = .migrated then
        match world.dmirror migration.dmirror with
        | none => some { world with useAfterFree := true }
        | some dmirror =>
            some (world.setPt migration.dmirror dmirror
              (dmirrorMigrateFinalizeAndMap world.mem migration.slots xaFails
                migration.npages migration.first dmirror.pt).1
              |>.setMigration id (some { migration with stage := .mapped }))
      else none

/-- Whether the driver calls `migrate_vma_finalize` next. -/
def Migration.finished (migration : Migration) : Bool :=
  match migration.flags with
  | .selectSystem => migration.stage = .mapped
  | .selectDevicePrivate => migration.stage = .migrated

def finalize (world : World Contents) (id : Nat) : Option (World Contents) :=
  match world.migrations id with
  | none => none
  | some migration =>
      if Migration.finished migration then
        let after := migrateVmaFinalize migration.slots migration.npages
          migration.first (world.cpu migration.mm, world.mem)
        some (({ world with mem := after.2 }.remap migration.mm
          after.1).setMigration id none)
      else none

/-- `make_device_exclusive_range` on one window, then `dmirror_atomic_map`
when every page of the window was found. -/
def exclusive (world : World Contents) (m count first : Nat)
    (pages : Nat → Option Page) (complete : Bool) (xaFails : Nat → Bool) :
    Option (World Contents) :=
  match world.dmirror m with
  | none => none
  | some dmirror =>
      if (List.range count).all fun i =>
          match pages (first + i) with
          | none => true
          | some page =>
              world.cpu dmirror.mm (first + i) == .present page true &&
                !page.isZoneDevicePage && page != .zero then
        let notified := forEach
          (fun pfn (world : World Contents) =>
            if (pages pfn).isSome then
              world.notify .exclusive none dmirror.mm pfn (pfn + 1)
            else world)
          count first world
        if complete then
          (notified.dmirror m).map fun dmirror =>
            notified.setPt m dmirror
              (dmirrorAtomicMap pages xaFails count first dmirror.pt).1
        else some notified
      else none

/-- One page of `dmirror_device_evict_chunk`. -/
def evictPage (world : World Contents) (mdevice : Nat)
    (eviction : Nat × Nat × Nat) : Option (World Contents) :=
  let (mm, pfn, frame) := eviction
  match world.cpu mm pfn with
  | .present (.devicePrivate owner dpfn) writable =>
      let spage := Page.devicePrivate owner dpfn
      if owner = mdevice then
        match world.mem.backingPage spage, world.mem.allocPage (some frame) with
        | some rpage, (some dpage, mem) =>
            some ({ world.notify .clear none mm pfn (pfn + 1) with
                mem := (mem.write dpage (mem.contents rpage)).putPage spage
              }.setCpu mm pfn (.present dpage writable))
        | _, _ => none
      else none
  | _ => none

def evictPages (world : World Contents) (mdevice : Nat) :
    List (Nat × Nat × Nat) → Option (World Contents)
  | [] => some world
  | eviction :: evictions =>
      match world.evictPage mdevice eviction with
      | none => none
      | some next => next.evictPages mdevice evictions

/-- `dmirror_device_remove_chunks`: `memunmap_pages` returns when no page of
the device is in use any more. -/
def release (world : World Contents) (mdevice : Nat)
    (evictions : List (Nat × Nat × Nat)) : Option (World Contents) :=
  match world.evictPages mdevice evictions with
  | none => none
  | some next =>
      if ∃ page ∈ next.mem.inUse, page.owner = some mdevice then none
      else some next

def step [Zero Contents] (world : World Contents) :
    Input Contents → Option (World Contents)
  | .openFile m mdevice mm => world.openFile m mdevice mm
  | .closeFile m => world.closeFile m
  | .doWrite m count first bounce => world.doWrite m count first bounce
  | .readBegin id m count first write =>
      world.readBegin id m count first write
  | .hmmRangeFault id => world.hmmRangeFault id
  | .abandonFault id => world.abandonFault id
  | .doFault id xaFails => world.doFault id xaFails
  | .populate mm pfn frame writable => world.populate mm pfn frame writable
  | .populateZero mm pfn => world.populateZero mm pfn
  | .invalidateStart event range => world.invalidateStart event range
  | .cpuChange mm pfn change => world.cpuChange mm pfn change
  | .invalidateEnd range => world.invalidateEnd range
  | .setup id m flags vmWrite count first collected =>
      world.setup id m flags vmWrite count first collected
  | .cpuFault id mm pfn vmWrite collected =>
      world.cpuFault id mm pfn vmWrite collected
  | .allocAndCopy id alloc => world.allocAndCopy id alloc
  | .faultAllocAndCopy id alloc => world.faultAllocAndCopy id alloc
  | .pages id migrated => world.pages id migrated
  | .finalizeAndMap id xaFails => world.finalizeAndMap id xaFails
  | .finalize id => world.finalize id
  | .exclusive m count first pages complete xaFails =>
      world.exclusive m count first pages complete xaFails
  | .release mdevice evictions => world.release mdevice evictions

/-- The machine started in the given states. -/
def machine [Zero Contents] (Initial : World Contents → Prop) :
    Machine (World Contents) (Input Contents) :=
  ⟨Initial, step⟩

/-- Nothing is mapped, open or in progress. -/
def boot [Zero Contents] : World Contents where
  mem := ⟨fun _ => 0, fun _ => .null, ∅⟩
  cpu := fun _ _ => .none
  dmirror := fun _ => none
  released := fun _ => false
  faults := fun _ => none
  invalidations := []
  migrations := fun _ => none
  useAfterFree := false
  lastWrite := fun _ _ => 0

end World

end Rshm.Hmm
