import Mathlib.Data.Finset.Basic
import Rshm.Hmm.Page
import Rshm.Lib.IntrusiveList
import Rshm.Lib.Machine

/-!
# The device page allocator

`dmirror_devmem_alloc_page`, `dmirror_allocate_chunk`, `dmirror_devmem_free`
and `dmirror_device_remove_chunks` of one private device, cut into the
sections that run under the device spinlock, under `devmem_lock`, or between
two calls of the kernel's allocators.  Any number of threads runs them at
once; a thread's locals stand in the stage of its call.  Both devices of the
module are private, so every device page has a backing page.
-/

namespace Rshm.Hmm.Devmem

open IntrusiveList

/-- One device: `chunkPages` is `DEVMEM_CHUNK_SIZE >> PAGE_SHIFT`. -/
structure Config where
  mdevice : Nat
  chunkPages : Nat
  positive : 0 < chunkPages

/-- `DEVMEM_CHUNKS_RESERVE`. -/
def devmemChunksReserve : Nat := 16

/-- What a call takes from the kernel: a backing page, a
`struct dmirror_chunk`, a memory region by its first page number. -/
inductive Resource where
  | frame (rpage : Page)
  | chunk (devmem : Nat)
  | region (start : Nat)
  deriving DecidableEq, Repr

/-- `struct dmirror_chunk`.  `range` is the first page number of
`pagemap.range` while the region is held. -/
structure DmirrorChunk where
  range : Option Nat
  remove : Bool
  deriving DecidableEq, Repr

/-- Who called `dmirror_allocate_chunk`: `dmirror_device_init` passes no
`ppage`, `dmirror_devmem_alloc_page` has its backing page by then. -/
inductive Caller where
  | deviceInit
  | devmemAllocPage (rpage : Page)
  deriving DecidableEq, Repr

/-- Where a call stands: the section it runs next, with its locals, or its
result. -/
inductive Stage where
  | allocRpage
  | popFree (rpage : Page)
  | kzallocChunk (caller : Caller)
  | requestRegion (caller : Caller) (devmem : Nat)
  | register (caller : Caller) (devmem start : Nat)
  | pushPages (caller : Caller) (devmem start : Nat)
  | releaseRegion (caller : Caller) (devmem start : Nat)
  | freeChunk (caller : Caller) (devmem : Nat)
  | freeRpage (rpage : Page)
  | initPage (rpage dpage : Page)
  | returned (dpage : Option Page)
  | chunkReturned (success : Bool)
  | pushFree (page : Page)
  | freed
  deriving DecidableEq, Repr

/-- The error return of `dmirror_allocate_chunk` to its caller. -/
def Caller.failed : Caller → Stage
  | deviceInit => .chunkReturned false
  | devmemAllocPage rpage => .freeRpage rpage

/-- A call in progress.  The last three fields are history: what it took and
gave back, newest first, and whether the kernel refused it anything. -/
structure Call where
  stage : Stage
  taken : List Resource
  given : List Resource
  refused : Bool
  deriving DecidableEq, Repr

namespace Call

def start (stage : Stage) : Call := ⟨stage, [], [], false⟩

def goto (call : Call) (stage : Stage) : Call := { call with stage := stage }

def take (call : Call) (resource : Resource) (stage : Stage) : Call :=
  { call with stage := stage, taken := resource :: call.taken }

def give (call : Call) (resource : Resource) (stage : Stage) : Call :=
  { call with stage := stage, given := resource :: call.given }

def refuse (call : Call) (stage : Stage) : Call :=
  { call with stage := stage, refused := true }

@[simp] theorem goto_stage (call : Call) (stage : Stage) :
    (call.goto stage).stage = stage := rfl

@[simp] theorem take_stage (call : Call) (resource : Resource)
    (stage : Stage) : (call.take resource stage).stage = stage := rfl

@[simp] theorem give_stage (call : Call) (resource : Resource)
    (stage : Stage) : (call.give resource stage).stage = stage := rfl

@[simp] theorem refuse_stage (call : Call) (stage : Stage) :
    (call.refuse stage).stage = stage := rfl

end Call

/-- The loop of `dmirror_device_remove_chunks`, which holds `devmem_lock`:
the chunk it is at, and whether it has marked it. -/
structure Removal where
  index : Nat
  marked : Bool
  deriving DecidableEq, Repr

/-- `struct dmirror_device` with the kernel's side of it.  Chunks are
numbered in the order of their `kzalloc`; `chunk` holds those not freed.
`room` is the length of the `devmem_chunks` allocation, 0 when it is NULL.
`referenced` and `pinned` are the pages whose own count, and whose count in
`pgmap->ref`, is not yet 0.  `inUse` is history: the pages popped from the
free list and not pushed back. -/
structure Device where
  devmemCapacity : Nat
  devmemCount : Nat
  devmemChunks : Nat → Option Nat
  room : Nat
  devmemLock : Option Removal
  calloc : Nat
  cfree : Nat
  freePages : Option Page
  zoneDeviceData : Page → Option Page
  pgmap : Page → Option Nat
  chunk : Nat → Option DmirrorChunk
  chunksMade : Nat
  regions : Finset Nat
  frames : Finset Page
  referenced : Finset Page
  pinned : Finset Page
  inUse : Finset Page
  calls : Nat → Option Call

/-- What the kernel's allocators answer the section that runs, if it asks. -/
structure Answer where
  allocPage : Option Nat
  kzalloc : Bool
  requestFreeMemRegion : Option Nat
  krealloc : Bool
  memremapPages : Bool

inductive Input where
  | devmemAllocPage (id : Nat)
  | allocateChunk (id : Nat)
  | devmemFree (id : Nat) (page : Page)
  | advance (id : Nat) (answer : Answer)
  | leave (id : Nat)
  | removeChunks
  | removeMark (passes : Nat)
  | removeUnmap
  | removeEnd

/-- The thread that moves, if it is not the one that removes the chunks. -/
def Input.thread : Input → Option Nat
  | devmemAllocPage id => some id
  | allocateChunk id => some id
  | devmemFree id _ => some id
  | advance id _ => some id
  | leave id => some id
  | _ => none

namespace Device

def setCall (device : Device) (id : Nat) (call : Call) : Device :=
  { device with calls := Function.update device.calls id (some call) }

def allocRpage (device : Device) (id : Nat) (call : Call)
    (frame : Option Nat) : Device :=
  match frame with
  | none => device.setCall id (call.refuse (.returned none))
  | some pfn =>
      if Page.normal pfn ∈ device.frames then
        device.setCall id (call.refuse (.returned none))
      else
        { device with frames := insert (Page.normal pfn) device.frames }.setCall id
          (call.take (.frame (.normal pfn)) (.popFree (.normal pfn)))

/-- The common end of the two sections that hand out a page. -/
def handOut (device : Device) (id : Nat) (call : Call)
    (rpage dpage : Page) : Device :=
  { device with
    freePages := device.zoneDeviceData dpage
    calloc := device.calloc + 1
    inUse := insert dpage device.inUse
  }.setCall id (call.goto (.initPage rpage dpage))

def popFree (device : Device) (id : Nat) (call : Call) (rpage : Page) :
    Device :=
  match device.freePages with
  | some dpage => device.handOut id call rpage dpage
  | none =>
      device.setCall id (call.goto (.kzallocChunk (.devmemAllocPage rpage)))

def kzallocChunk (device : Device) (id : Nat) (call : Call)
    (caller : Caller) (succeeds : Bool) : Device :=
  if succeeds then
    { device with
      chunk := Function.update device.chunk device.chunksMade
        (some ⟨none, false⟩)
      chunksMade := device.chunksMade + 1
    }.setCall id (call.take (.chunk device.chunksMade)
      (.requestRegion caller device.chunksMade))
  else device.setCall id (call.refuse caller.failed)

/-- Two chunk-sized regions without a common page. -/
def Apart (config : Config) (start other : Nat) : Prop :=
  start + config.chunkPages ≤ other ∨ other + config.chunkPages ≤ start

instance (config : Config) (start other : Nat) :
    Decidable (Apart config start other) :=
  inferInstanceAs (Decidable (_ ∨ _))

/-- `request_free_mem_region` returns a region apart from all busy ones; any
other answer is an error. -/
def requestRegion (config : Config) (device : Device) (id : Nat)
    (call : Call) (caller : Caller) (devmem : Nat) (region : Option Nat) :
    Device :=
  match region with
  | none => device.setCall id (call.refuse (.freeChunk caller devmem))
  | some start =>
      if ∀ other ∈ device.regions, Apart config start other then
        { device with
          regions := insert start device.regions
          chunk := Function.update device.chunk devmem
            (some ⟨some start, false⟩)
        }.setCall id (call.take (.region start)
          (.register caller devmem start))
      else device.setCall id (call.refuse (.freeChunk caller devmem))

/-- `krealloc` of a full `devmem_chunks`. -/
def growChunks (device : Device) (krealloc : Bool) : Option Device :=
  if device.devmemCount = device.devmemCapacity then
    if krealloc then
      some { device with
        devmemCapacity := device.devmemCapacity + devmemChunksReserve
        room := device.devmemCapacity + devmemChunksReserve }
    else none
  else some device

theorem growChunks_frame {device grown : Device} {krealloc : Bool}
    (grew : device.growChunks krealloc = some grown) :
    ∃ capacity room, grown =
      { device with devmemCapacity := capacity, room := room } := by
  rw [growChunks] at grew
  split at grew
  · split at grew
    · cases grew
      exact ⟨_, _, rfl⟩
    · cases grew
  · cases grew
    exact ⟨_, _, rfl⟩

def InRegion (config : Config) (start : Nat) : Page → Prop
  | .devicePrivate mdevice pfn =>
      mdevice = config.mdevice ∧ start ≤ pfn ∧ pfn < start + config.chunkPages
  | _ => False

instance (config : Config) (start : Nat) (page : Page) :
    Decidable (InRegion config start page) := by
  cases page <;> unfold InRegion <;> infer_instance

/-- `memremap_pages` initialises the struct pages of the region. -/
def memremapPages (config : Config) (device : Device) (devmem start : Nat) :
    Device :=
  { device with
    zoneDeviceData := fun page =>
      if InRegion config start page then none else device.zoneDeviceData page
    pgmap := fun page =>
      if InRegion config start page then some devmem else device.pgmap page }

/-- The section of `dmirror_allocate_chunk` under `devmem_lock`. -/
def register (config : Config) (device : Device) (id : Nat) (call : Call)
    (caller : Caller) (devmem start : Nat) (answer : Answer) :
    Option Device :=
  if device.devmemLock.isSome then none
  else
    match device.growChunks answer.krealloc with
    | none =>
        some (device.setCall id
          (call.refuse (.releaseRegion caller devmem start)))
    | some grown =>
        if answer.memremapPages then
          let mapped := grown.memremapPages config devmem start
          some ({ mapped with
            devmemChunks := Function.update mapped.devmemChunks
              mapped.devmemCount (some devmem)
            devmemCount := mapped.devmemCount + 1
          }.setCall id (call.goto (.pushPages caller devmem start)))
        else
          some (grown.setCall id
            (call.refuse (.releaseRegion caller devmem start)))

/-- The section of `dmirror_allocate_chunk` under the spinlock.  It uses the
bounds computed before, not the chunk. -/
def pushPages (config : Config) (device : Device) (id : Nat) (call : Call)
    (caller : Caller) (start : Nat) : Option Device :=
  let after := pushAll (Page.devicePrivate config.mdevice) config.chunkPages
    start (device.zoneDeviceData, device.freePages)
  let filled :=
    { device with zoneDeviceData := after.1, freePages := after.2 }
  match caller, after.2 with
  | .deviceInit, _ =>
      some (filled.setCall id (call.goto (.chunkReturned true)))
  | .devmemAllocPage rpage, some dpage =>
      some (filled.handOut id call rpage dpage)
  | .devmemAllocPage _, none => none

def releaseRegion (device : Device) (id : Nat) (call : Call)
    (caller : Caller) (devmem start : Nat) : Device :=
  { device with
    regions := device.regions.erase start
    chunk := Function.update device.chunk devmem (some ⟨none, false⟩)
  }.setCall id (call.give (.region start) (.freeChunk caller devmem))

def freeChunk (device : Device) (id : Nat) (call : Call) (caller : Caller)
    (devmem : Nat) : Device :=
  { device with
    chunk := Function.update device.chunk devmem none
  }.setCall id (call.give (.chunk devmem) caller.failed)

def freeRpage (device : Device) (id : Nat) (call : Call) (rpage : Page) :
    Device :=
  { device with frames := device.frames.erase rpage }.setCall id
    (call.give (.frame rpage) (.returned none))

/-- `zone_device_page_init` and the store of the backing page. -/
def initPage (device : Device) (id : Nat) (call : Call)
    (rpage dpage : Page) : Device :=
  { device with
    referenced := insert dpage device.referenced
    pinned := insert dpage device.pinned
    zoneDeviceData := Function.update device.zoneDeviceData dpage (some rpage)
  }.setCall id (call.goto (.returned (some dpage)))

/-- The section of `dmirror_devmem_free` under the spinlock.  Reading
`remove` of a freed chunk has no defined result. -/
def pushFree (device : Device) (id : Nat) (call : Call) (page : Page) :
    Option Device :=
  match (device.pgmap page).bind device.chunk with
  | none => none
  | some chunk =>
      let unused :=
        { device with
          pinned := device.pinned.erase page
          inUse := device.inUse.erase page }
      some ((if chunk.remove then unused
        else
          { unused with
            cfree := unused.cfree + 1
            zoneDeviceData := Function.update unused.zoneDeviceData page
              unused.freePages
            freePages := some page }).setCall id (call.goto .freed))

/-- The next section of a call. -/
def advance (config : Config) (device : Device) (id : Nat)
    (answer : Answer) : Option Device :=
  match device.calls id with
  | none => none
  | some call =>
      match call.stage with
      | .allocRpage => some (device.allocRpage id call answer.allocPage)
      | .popFree rpage => some (device.popFree id call rpage)
      | .kzallocChunk caller =>
          some (device.kzallocChunk id call caller answer.kzalloc)
      | .requestRegion caller devmem =>
          some (device.requestRegion config id call caller devmem
            answer.requestFreeMemRegion)
      | .register caller devmem start =>
          device.register config id call caller devmem start answer
      | .pushPages caller _ start =>
          device.pushPages config id call caller start
      | .releaseRegion caller devmem start =>
          some (device.releaseRegion id call caller devmem start)
      | .freeChunk caller devmem =>
          some (device.freeChunk id call caller devmem)
      | .freeRpage rpage => some (device.freeRpage id call rpage)
      | .initPage rpage dpage => some (device.initPage id call rpage dpage)
      | .pushFree page => device.pushFree id call page
      | .returned _ => none
      | .chunkReturned _ => none
      | .freed => none

/-- The start of `dmirror_devmem_free`, when the last reference to a page is
dropped: the backing page is freed before the spinlock is taken. -/
def devmemFree (device : Device) (id : Nat) (page : Page) : Option Device :=
  if page ∈ device.referenced then
    match device.zoneDeviceData page with
    | none => none
    | some rpage =>
        some ({ device with
          frames := if rpage ≠ page then device.frames.erase rpage
            else device.frames
          referenced := device.referenced.erase page
        }.setCall id (Call.start (.pushFree page)))
  else none

def Stage.returns : Stage → Bool
  | .returned _ => true
  | .chunkReturned _ => true
  | .freed => true
  | _ => false

def leave (device : Device) (id : Nat) : Option Device :=
  match device.calls id with
  | none => none
  | some call =>
      if Stage.returns call.stage then
        some { device with calls := Function.update device.calls id none }
      else none

/-- `dmirror_device_remove_chunks` takes `devmem_lock`. -/
def removeChunks (device : Device) : Option Device :=
  if device.devmemLock.isSome then none
  else if device.room = 0 then some device
  else some { device with devmemLock := some ⟨0, false⟩ }

/-- The spinlock section for one chunk: `remove = true` and
`dmirror_remove_free_pages`, whose loop makes the given number of passes. -/
def removeMark (device : Device) (passes : Nat) : Option Device :=
  match device.devmemLock with
  | some ⟨index, false⟩ =>
      if index < device.devmemCount then
        match device.devmemChunks index with
        | none => none
        | some devmem =>
            match device.chunk devmem, cut device.zoneDeviceData
                (fun page => device.pgmap page == some devmem) passes
                device.freePages device.freePages with
            | some chunk, some freePages =>
                some { device with
                  chunk := Function.update device.chunk devmem
                    (some { chunk with remove := true })
                  freePages := freePages
                  devmemLock := some ⟨index, true⟩ }
            | _, _ => none
      else none
  | _ => none

/-- `memunmap_pages`, which waits for `pgmap->ref`, then
`release_mem_region` and `kfree`.  Evicting the chunk is what makes its pages
drop their references. -/
def removeUnmap (device : Device) : Option Device :=
  match device.devmemLock with
  | some ⟨index, true⟩ =>
      match device.devmemChunks index with
      | none => none
      | some devmem =>
          match device.chunk devmem with
          | none => none
          | some chunk =>
              if ∀ page ∈ device.pinned, device.pgmap page ≠ some devmem then
                some { device with
                  chunk := Function.update device.chunk devmem none
                  regions :=
                    match chunk.range with
                    | some start => device.regions.erase start
                    | none => device.regions
                  devmemLock := some ⟨index + 1, false⟩ }
              else none
  | _ => none

def removeEnd (device : Device) : Option Device :=
  match device.devmemLock with
  | some ⟨index, false⟩ =>
      if index < device.devmemCount then none
      else
        some { device with
          devmemCount := 0
          devmemCapacity := 0
          freePages := none
          devmemChunks := fun _ => none
          room := 0
          devmemLock := none }
  | _ => none

/-- A thread enters one of the three functions. -/
def enter (device : Device) (id : Nat) (entered : Option Device) :
    Option Device :=
  if (device.calls id).isSome then none else entered

def step (config : Config) (device : Device) : Input → Option Device
  | .devmemAllocPage id =>
      device.enter id (some (device.setCall id (Call.start .allocRpage)))
  | .allocateChunk id =>
      device.enter id (some (device.setCall id
        (Call.start (.kzallocChunk .deviceInit))))
  | .devmemFree id page => device.enter id (device.devmemFree id page)
  | .advance id answer => device.advance config id answer
  | .leave id => device.leave id
  | .removeChunks => device.removeChunks
  | .removeMark passes => device.removeMark passes
  | .removeUnmap => device.removeUnmap
  | .removeEnd => device.removeEnd

/-- A device as `rshm_init` zeroes it, before its first chunk. -/
def zeroed : Device where
  devmemCapacity := 0
  devmemCount := 0
  devmemChunks := fun _ => none
  room := 0
  devmemLock := none
  calloc := 0
  cfree := 0
  freePages := none
  zoneDeviceData := fun _ => none
  pgmap := fun _ => none
  chunk := fun _ => none
  chunksMade := 0
  regions := ∅
  frames := ∅
  referenced := ∅
  pinned := ∅
  inUse := ∅
  calls := fun _ => none

def machine (config : Config) : Machine Device Input :=
  ⟨fun device => device = zeroed, step config⟩

end Device

/-- The transitions of one call, whatever the other threads do. -/
inductive Call.Moves (call : Call) : Call → Prop
  | gotRpage {rpage : Page} : call.stage = .allocRpage →
      Moves call (call.take (.frame rpage) (.popFree rpage))
  | noRpage : call.stage = .allocRpage →
      Moves call (call.refuse (.returned none))
  | popped {rpage dpage : Page} : call.stage = .popFree rpage →
      Moves call (call.goto (.initPage rpage dpage))
  | listEmpty {rpage : Page} : call.stage = .popFree rpage →
      Moves call (call.goto (.kzallocChunk (.devmemAllocPage rpage)))
  | gotChunk {caller : Caller} {devmem : Nat} :
      call.stage = .kzallocChunk caller →
      Moves call (call.take (.chunk devmem) (.requestRegion caller devmem))
  | noChunk {caller : Caller} : call.stage = .kzallocChunk caller →
      Moves call (call.refuse caller.failed)
  | gotRegion {caller : Caller} {devmem start : Nat} :
      call.stage = .requestRegion caller devmem →
      Moves call (call.take (.region start) (.register caller devmem start))
  | noRegion {caller : Caller} {devmem : Nat} :
      call.stage = .requestRegion caller devmem →
      Moves call (call.refuse (.freeChunk caller devmem))
  | registered {caller : Caller} {devmem start : Nat} :
      call.stage = .register caller devmem start →
      Moves call (call.goto (.pushPages caller devmem start))
  | unregistered {caller : Caller} {devmem start : Nat} :
      call.stage = .register caller devmem start →
      Moves call (call.refuse (.releaseRegion caller devmem start))
  | filled {devmem start : Nat} :
      call.stage = .pushPages .deviceInit devmem start →
      Moves call (call.goto (.chunkReturned true))
  | filledPopped {rpage dpage : Page} {devmem start : Nat} :
      call.stage = .pushPages (.devmemAllocPage rpage) devmem start →
      Moves call (call.goto (.initPage rpage dpage))
  | regionReleased {caller : Caller} {devmem start : Nat} :
      call.stage = .releaseRegion caller devmem start →
      Moves call (call.give (.region start) (.freeChunk caller devmem))
  | chunkFreed {caller : Caller} {devmem : Nat} :
      call.stage = .freeChunk caller devmem →
      Moves call (call.give (.chunk devmem) caller.failed)
  | rpageFreed {rpage : Page} : call.stage = .freeRpage rpage →
      Moves call (call.give (.frame rpage) (.returned none))
  | initialised {rpage dpage : Page} : call.stage = .initPage rpage dpage →
      Moves call (call.goto (.returned (some dpage)))
  | pushed {page : Page} : call.stage = .pushFree page →
      Moves call (call.goto .freed)

namespace Device

@[simp] theorem setCall_calls (device : Device) (id : Nat) (call : Call) :
    (device.setCall id call).calls =
      Function.update device.calls id (some call) := rfl

/-- How a section of a call can end: the device that it leaves, before the
call is entered there, and the call. -/
inductive Section (config : Config) (device : Device) (call : Call) :
    Device → Call → Prop
  | noRpage (at_ : call.stage = .allocRpage) :
      Section config device call device (call.refuse (.returned none))
  | gotRpage {pfn : Nat} (at_ : call.stage = .allocRpage)
      (fresh : Page.normal pfn ∉ device.frames) :
      Section config device call
        { device with frames := insert (Page.normal pfn) device.frames }
        (call.take (.frame (.normal pfn)) (.popFree (.normal pfn)))
  | popped {rpage dpage : Page} (at_ : call.stage = .popFree rpage)
      (first : device.freePages = some dpage) :
      Section config device call
        { device with
          freePages := device.zoneDeviceData dpage
          calloc := device.calloc + 1
          inUse := insert dpage device.inUse }
        (call.goto (.initPage rpage dpage))
  | listEmpty {rpage : Page} (at_ : call.stage = .popFree rpage)
      (empty : device.freePages = none) :
      Section config device call device
        (call.goto (.kzallocChunk (.devmemAllocPage rpage)))
  | noChunk {caller : Caller} (at_ : call.stage = .kzallocChunk caller) :
      Section config device call device (call.refuse caller.failed)
  | gotChunk {caller : Caller} (at_ : call.stage = .kzallocChunk caller) :
      Section config device call
        { device with
          chunk := Function.update device.chunk device.chunksMade
            (some ⟨none, false⟩)
          chunksMade := device.chunksMade + 1 }
        (call.take (.chunk device.chunksMade)
          (.requestRegion caller device.chunksMade))
  | noRegion {caller : Caller} {devmem : Nat}
      (at_ : call.stage = .requestRegion caller devmem) :
      Section config device call device
        (call.refuse (.freeChunk caller devmem))
  | gotRegion {caller : Caller} {devmem start : Nat}
      (at_ : call.stage = .requestRegion caller devmem)
      (apart : ∀ other ∈ device.regions, Apart config start other) :
      Section config device call
        { device with
          regions := insert start device.regions
          chunk := Function.update device.chunk devmem
            (some ⟨some start, false⟩) }
        (call.take (.region start) (.register caller devmem start))
  | unregistered {caller : Caller} {devmem start capacity room : Nat}
      (at_ : call.stage = .register caller devmem start)
      (unlocked : device.devmemLock.isSome = false) :
      Section config device call
        { device with devmemCapacity := capacity, room := room }
        (call.refuse (.releaseRegion caller devmem start))
  | registered {caller : Caller} {devmem start capacity room : Nat}
      (at_ : call.stage = .register caller devmem start)
      (unlocked : device.devmemLock.isSome = false) :
      Section config device call
        { device.memremapPages config devmem start with
          devmemCapacity := capacity
          room := room
          devmemChunks := Function.update device.devmemChunks
            device.devmemCount (some devmem)
          devmemCount := device.devmemCount + 1 }
        (call.goto (.pushPages caller devmem start))
  | filled {devmem start : Nat} {links : Page → Option Page}
      {head : Option Page}
      (at_ : call.stage = .pushPages .deviceInit devmem start)
      (pushes : pushAll (Page.devicePrivate config.mdevice) config.chunkPages
        start (device.zoneDeviceData, device.freePages) = (links, head)) :
      Section config device call
        { device with zoneDeviceData := links, freePages := head }
        (call.goto (.chunkReturned true))
  | filledPopped {rpage dpage : Page} {devmem start : Nat}
      {links : Page → Option Page}
      (at_ : call.stage = .pushPages (.devmemAllocPage rpage) devmem start)
      (pushes : pushAll (Page.devicePrivate config.mdevice) config.chunkPages
        start (device.zoneDeviceData, device.freePages) =
          (links, some dpage)) :
      Section config device call
        { device with
          zoneDeviceData := links
          freePages := links dpage
          calloc := device.calloc + 1
          inUse := insert dpage device.inUse }
        (call.goto (.initPage rpage dpage))
  | regionReleased {caller : Caller} {devmem start : Nat}
      (at_ : call.stage = .releaseRegion caller devmem start) :
      Section config device call
        { device with
          regions := device.regions.erase start
          chunk := Function.update device.chunk devmem (some ⟨none, false⟩) }
        (call.give (.region start) (.freeChunk caller devmem))
  | chunkFreed {caller : Caller} {devmem : Nat}
      (at_ : call.stage = .freeChunk caller devmem) :
      Section config device call
        { device with chunk := Function.update device.chunk devmem none }
        (call.give (.chunk devmem) caller.failed)
  | rpageFreed {rpage : Page} (at_ : call.stage = .freeRpage rpage) :
      Section config device call
        { device with frames := device.frames.erase rpage }
        (call.give (.frame rpage) (.returned none))
  | initialised {rpage dpage : Page}
      (at_ : call.stage = .initPage rpage dpage) :
      Section config device call
        { device with
          referenced := insert dpage device.referenced
          pinned := insert dpage device.pinned
          zoneDeviceData :=
            Function.update device.zoneDeviceData dpage (some rpage) }
        (call.goto (.returned (some dpage)))
  | dropped {page : Page} {chunk : DmirrorChunk}
      (at_ : call.stage = .pushFree page)
      (within : (device.pgmap page).bind device.chunk = some chunk)
      (removed : chunk.remove = true) :
      Section config device call
        { device with
          pinned := device.pinned.erase page
          inUse := device.inUse.erase page }
        (call.goto .freed)
  | pushed {page : Page} {chunk : DmirrorChunk}
      (at_ : call.stage = .pushFree page)
      (within : (device.pgmap page).bind device.chunk = some chunk)
      (kept : chunk.remove = false) :
      Section config device call
        { device with
          pinned := device.pinned.erase page
          inUse := device.inUse.erase page
          cfree := device.cfree + 1
          zoneDeviceData :=
            Function.update device.zoneDeviceData page device.freePages
          freePages := some page }
        (call.goto .freed)

/-- What `advance` can do, said once. -/
theorem advance_section {config : Config} {device next : Device} {id : Nat}
    {answer : Answer} (moved : device.advance config id answer = some next) :
    ∃ call left after, device.calls id = some call ∧
      Section config device call left after ∧
      next = left.setCall id after := by
  unfold advance at moved
  split at moved
  · cases moved
  next call here =>
  refine ⟨call, ?_⟩
  split at moved
  case h_1 at_ =>
    cases moved
    unfold allocRpage
    split
    · exact ⟨_, _, here, .noRpage at_, rfl⟩
    · split
      · exact ⟨_, _, here, .noRpage at_, rfl⟩
      · next fresh => exact ⟨_, _, here, .gotRpage at_ fresh, rfl⟩
  case h_2 rpage at_ =>
    cases moved
    unfold popFree
    split
    · next first => exact ⟨_, _, here, .popped at_ first, rfl⟩
    · next empty => exact ⟨_, _, here, .listEmpty at_ empty, rfl⟩
  case h_3 caller at_ =>
    cases moved
    unfold kzallocChunk
    split
    · exact ⟨_, _, here, .gotChunk at_, rfl⟩
    · exact ⟨_, _, here, .noChunk at_, rfl⟩
  case h_4 caller devmem at_ =>
    cases moved
    unfold requestRegion
    split
    · exact ⟨_, _, here, .noRegion at_, rfl⟩
    · split
      · next apart => exact ⟨_, _, here, .gotRegion at_ apart, rfl⟩
      · exact ⟨_, _, here, .noRegion at_, rfl⟩
  case h_5 caller devmem start at_ =>
    rw [register] at moved
    split at moved
    · cases moved
    next unlocked =>
    have unlocked := Bool.eq_false_iff.mpr unlocked
    split at moved
    · cases moved
      exact ⟨_, _, here, .unregistered at_ unlocked, rfl⟩
    next grown grew =>
    obtain ⟨capacity, room, rfl⟩ := growChunks_frame grew
    split at moved
    · cases moved
      exact ⟨_, _, here, .registered at_ unlocked, rfl⟩
    · cases moved
      exact ⟨_, _, here, .unregistered at_ unlocked, rfl⟩
  case h_6 caller devmem start at_ =>
    unfold pushPages at moved
    dsimp only at moved
    split at moved
    · cases moved
      exact ⟨_, _, here, .filled at_ rfl, rfl⟩
    · next first =>
      cases moved
      exact ⟨_, _, here, .filledPopped at_ (Prod.ext rfl first), rfl⟩
    · cases moved
  case h_7 caller devmem start at_ =>
    cases moved
    exact ⟨_, _, here, .regionReleased at_, rfl⟩
  case h_8 caller devmem at_ =>
    cases moved
    exact ⟨_, _, here, .chunkFreed at_, rfl⟩
  case h_9 rpage at_ =>
    cases moved
    exact ⟨_, _, here, .rpageFreed at_, rfl⟩
  case h_10 rpage dpage at_ =>
    cases moved
    exact ⟨_, _, here, .initialised at_, rfl⟩
  case h_11 page at_ =>
    unfold pushFree at moved
    split at moved
    · cases moved
    next chunk within =>
    cases moved
    cases remove : chunk.remove with
    | true => exact ⟨_, _, here, .dropped at_ within remove, rfl⟩
    | false => exact ⟨_, _, here, .pushed at_ within remove, rfl⟩
  all_goals cases moved

theorem Section.moves {config : Config} {device left : Device}
    {call after : Call} (ends : Section config device call left after) :
    call.Moves after := by
  cases ends with
  | noRpage at_ => exact .noRpage at_
  | gotRpage at_ => exact .gotRpage at_
  | popped at_ => exact .popped at_
  | listEmpty at_ => exact .listEmpty at_
  | noChunk at_ => exact .noChunk at_
  | gotChunk at_ => exact .gotChunk at_
  | noRegion at_ => exact .noRegion at_
  | gotRegion at_ => exact .gotRegion at_
  | unregistered at_ => exact .unregistered at_
  | registered at_ => exact .registered at_
  | filled at_ => exact .filled at_
  | filledPopped at_ => exact .filledPopped at_
  | regionReleased at_ => exact .regionReleased at_
  | chunkFreed at_ => exact .chunkFreed at_
  | rpageFreed at_ => exact .rpageFreed at_
  | initialised at_ => exact .initialised at_
  | dropped at_ => exact .pushed at_
  | pushed at_ => exact .pushed at_

theorem Section.calls {config : Config} {device left : Device}
    {call after : Call} (ends : Section config device call left after) :
    left.calls = device.calls := by
  cases ends <;> rfl

theorem advance_moves {config : Config} {device next : Device} {id : Nat}
    {answer : Answer} (moved : device.advance config id answer = some next) :
    ∃ call call', device.calls id = some call ∧ call.Moves call' ∧
      next.calls = Function.update device.calls id (some call') := by
  obtain ⟨call, left, after, here, ends, rfl⟩ := advance_section moved
  exact ⟨call, after, here, ends.moves, by rw [setCall_calls, ends.calls]⟩

theorem enter_spec {device next : Device} {id : Nat}
    {entered : Option Device}
    (moved : device.enter id entered = some next) :
    device.calls id = none ∧ entered = some next := by
  unfold enter at moved
  split at moved
  · cases moved
  · next idle => exact ⟨by simpa using idle, moved⟩

theorem step_calls {config : Config} {device next : Device} {input : Input}
    (moved : device.step config input = some next) {other : Nat}
    (elsewhere : input.thread ≠ some other) :
    next.calls other = device.calls other := by
  have updated {id : Nat} {call : Option Call}
      (thread : input.thread = some id)
      (result : next.calls = Function.update device.calls id call) :
      next.calls other = device.calls other := by
    rw [result, Function.update_of_ne]
    rintro rfl
    exact elsewhere thread
  cases input with
  | devmemAllocPage id =>
      cases (enter_spec moved).2
      exact updated rfl rfl
  | allocateChunk id =>
      cases (enter_spec moved).2
      exact updated rfl rfl
  | devmemFree id page =>
      obtain ⟨-, result⟩ := enter_spec moved
      unfold devmemFree at result
      repeat' split at result
      all_goals cases result
      all_goals exact updated rfl rfl
  | advance id answer =>
      obtain ⟨call, call', -, -, result⟩ := advance_moves moved
      exact updated rfl result
  | leave id =>
      simp only [step, leave] at moved
      repeat' split at moved
      all_goals cases moved
      exact updated rfl rfl
  | removeChunks =>
      simp only [step, removeChunks] at moved
      repeat' split at moved
      all_goals cases moved
      all_goals rfl
  | removeMark passes =>
      simp only [step, removeMark] at moved
      repeat' split at moved
      all_goals cases moved
      rfl
  | removeUnmap =>
      simp only [step, removeUnmap] at moved
      repeat' split at moved
      all_goals cases moved
      all_goals rfl
  | removeEnd =>
      simp only [step, removeEnd] at moved
      repeat' split at moved
      all_goals cases moved
      rfl

end Device

end Rshm.Hmm.Devmem
