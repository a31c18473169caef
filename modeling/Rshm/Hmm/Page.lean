import Mathlib.Data.Finset.Basic
import Mathlib.Logic.Function.Basic

/-!
# Pages, mirror entries and migration slots

The data `hmm.c` works on: struct pages with their `zone_device_data`, the
tagged pointers of a mirror's xarray, and the `src`/`dst` words of
`struct migrate_vma`.  Page contents are an abstract type, since the driver
only ever clears and copies whole pages.  Addresses are page numbers.
-/

namespace Rshm.Hmm

/-- A struct page, by the kind of memory behind it.  `zero` is the shared
read-only zero page; a device page carries the device that owns its pgmap. -/
inductive Page where
  | zero
  | normal (pfn : Nat)
  | devicePrivate (mdevice pfn : Nat)
  | deviceCoherent (mdevice pfn : Nat)
  | zoneDevice (pfn : Nat)
  deriving DecidableEq, Repr

namespace Page

def isDevicePrivatePage : Page → Bool
  | devicePrivate _ _ => true
  | _ => false

def isDeviceCoherentPage : Page → Bool
  | deviceCoherent _ _ => true
  | _ => false

def isZoneDevicePage : Page → Bool
  | devicePrivate _ _ => true
  | deviceCoherent _ _ => true
  | zoneDevice _ => true
  | _ => false

def owner : Page → Option Nat
  | devicePrivate mdevice _ => some mdevice
  | deviceCoherent mdevice _ => some mdevice
  | _ => none

end Page

/-- What `page->zone_device_data` points to: the backing page of a device
page, or the mirror a backing page was filled through. -/
inductive ZoneDeviceData where
  | null
  | page (page : Page)
  | dmirror (dmirror : Nat)
  deriving DecidableEq, Repr

/-- The page frames of the machine.  `inUse` holds the pages that the page
allocator or a device has handed out and not got back. -/
structure Memory (Contents : Type) where
  contents : Page → Contents
  zoneDeviceData : Page → ZoneDeviceData
  inUse : Finset Page

namespace Memory

variable {Contents : Type}

def write (mem : Memory Contents) (page : Page) (bytes : Contents) :
    Memory Contents :=
  { mem with contents := Function.update mem.contents page bytes }

def setZoneDeviceData (mem : Memory Contents) (page : Page)
    (data : ZoneDeviceData) : Memory Contents :=
  { mem with zoneDeviceData := Function.update mem.zoneDeviceData page data }

@[simp] theorem write_zoneDeviceData (mem : Memory Contents) (page : Page)
    (bytes : Contents) :
    (mem.write page bytes).zoneDeviceData = mem.zoneDeviceData := rfl

@[simp] theorem write_inUse (mem : Memory Contents) (page : Page)
    (bytes : Contents) : (mem.write page bytes).inUse = mem.inUse := rfl

@[simp] theorem setZoneDeviceData_contents (mem : Memory Contents)
    (page : Page) (data : ZoneDeviceData) :
    (mem.setZoneDeviceData page data).contents = mem.contents := rfl

@[simp] theorem setZoneDeviceData_inUse (mem : Memory Contents)
    (page : Page) (data : ZoneDeviceData) :
    (mem.setZoneDeviceData page data).inUse = mem.inUse := rfl

def backingPage (mem : Memory Contents) (page : Page) : Option Page :=
  if page.isDevicePrivatePage then
    match mem.zoneDeviceData page with
    | .page rpage => some rpage
    | _ => none
  else some page

/-- `dmirror_devmem_free`: the backing page goes back to the page allocator
and the device page to its device.  The free list it joins is the subject of
`Rshm.Hmm.Devmem`. -/
def dmirrorDevmemFree (mem : Memory Contents) (page : Page) :
    Memory Contents :=
  match mem.backingPage page with
  | some rpage => { mem with inUse := (mem.inUse.erase page).erase rpage }
  | none => { mem with inUse := mem.inUse.erase page }

def putPage (mem : Memory Contents) (page : Page) : Memory Contents :=
  match page with
  | .normal _ => { mem with inUse := mem.inUse.erase page }
  | .devicePrivate _ _ => mem.dmirrorDevmemFree page
  | _ => mem

/-- `alloc_page` and `alloc_page_vma`, with the frame the page allocator
picks; a frame that is taken, or none, is a failed allocation. -/
def allocPage (mem : Memory Contents) :
    Option Nat → Option Page × Memory Contents
  | none => (none, mem)
  | some pfn =>
      if .normal pfn ∈ mem.inUse then (none, mem)
      else (some (.normal pfn),
        { mem with inUse := insert (.normal pfn) mem.inUse })

theorem allocPage_some {mem : Memory Contents} {answer : Option Nat}
    {target : Page} (allocated : (mem.allocPage answer).1 = some target) :
    ∃ frame, target = .normal frame ∧ Page.normal frame ∉ mem.inUse ∧
      mem.allocPage answer = (some (.normal frame),
        { mem with inUse := insert (.normal frame) mem.inUse }) ∧
      answer = some frame := by
  cases answer with
  | none => cases allocated
  | some frame =>
      unfold Memory.allocPage at allocated ⊢
      by_cases taken : Page.normal frame ∈ mem.inUse
      · simp only [taken, if_true] at allocated
        cases allocated
      · simp only [taken, if_false] at allocated ⊢
        exact ⟨frame, (Option.some.inj allocated).symm, taken, rfl, rfl⟩

end Memory

section Put

variable {Contents : Type}

@[simp] theorem putPage_zoneDeviceData (mem : Memory Contents)
    (page : Page) :
    (mem.putPage page).zoneDeviceData = mem.zoneDeviceData := by
  unfold Memory.putPage Memory.dmirrorDevmemFree
  split
  · rfl
  · split <;> rfl
  · rfl

@[simp] theorem putPage_contents (mem : Memory Contents) (page : Page) :
    (mem.putPage page).contents = mem.contents := by
  unfold Memory.putPage Memory.dmirrorDevmemFree
  split
  · rfl
  · split <;> rfl
  · rfl

end Put

inductive Errno where
  | ebusy
  | efault
  | einval
  | enoent
  | enomem
  | eperm
  deriving DecidableEq, Repr

/-- Xarray pointer tags: `DPT_XA_TAG_ATOMIC` and `DPT_XA_TAG_WRITE`. -/
inductive Tag where
  | none
  | atomic
  | write
  deriving DecidableEq, Repr

def Tag.value : Tag → Nat
  | none => 0
  | atomic => 1
  | write => 3

/-- A tagged page pointer; `xa_untag_pointer` is `page` and
`xa_pointer_tag` is `tag`. -/
structure Entry where
  page : Page
  tag : Tag
  deriving DecidableEq, Repr

abbrev XArray := Nat → Option Entry

/-- An entry of `range->hmm_pfns` after a successful `hmm_range_fault`; such
an entry always has `HMM_PFN_VALID` and never `HMM_PFN_ERROR`. -/
structure HmmPfn where
  page : Page
  write : Bool
  deriving DecidableEq, Repr

/-- A `src` or `dst` word of `struct migrate_vma`.  `page` is present when
`MIGRATE_PFN_VALID` is set. -/
structure MigratePfn where
  page : Option Page
  migrate : Bool
  write : Bool
  deriving DecidableEq, Repr

def MigratePfn.empty : MigratePfn := ⟨none, false, false⟩

structure MigrateSlot where
  src : MigratePfn
  dst : MigratePfn
  deriving DecidableEq, Repr

def MigrateSlot.empty : MigrateSlot := ⟨.empty, .empty⟩

/-- A page table entry of the process.  A device private page is mapped by a
device private swap entry; `migration` is the special entry that
`migrate_vma_setup` leaves on a page it locked and unmapped. -/
inductive Pte where
  | none
  | present (page : Page) (writable : Bool)
  | migration (page : Page) (writable : Bool)
  deriving DecidableEq, Repr

def Pte.page : Pte → Option Page
  | none => Option.none
  | present page _ => some page
  | migration page _ => some page

@[simp] theorem Pte.page_none : Pte.none.page = Option.none := rfl

@[simp] theorem Pte.page_present (page : Page) (writable : Bool) :
    (Pte.present page writable).page = some page := rfl

@[simp] theorem Pte.page_migration (page : Page) (writable : Bool) :
    (Pte.migration page writable).page = some page := rfl

end Rshm.Hmm
