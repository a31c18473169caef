import Rshm.Mm.MigrateWords

/-!
# Page frames and page table entries

What `migrate_device.c` reads and writes of the kernel: the struct pages and
the entries of the page tables, and the steps that take a page out of use and
put it back.
-/

namespace Rshm.Mm

/-- What a struct page says about its memory.  `anon` and `file` tell whether
`page->mapping` is set, and by what; `head` is the first page of the huge page
that it is a part of. -/
structure PageKind where
  zone : ZoneKind
  pgmapOwner : Nat
  anon : Bool
  file : Bool
  hasPrivate : Bool
  head : Option Pfn
  zero : Bool
  deriving DecidableEq, Repr

namespace PageKind

def isZoneDevice (kind : PageKind) : Bool := kind.zone ≠ .normal

def isDeviceCoherent (kind : PageKind) : Bool := kind.zone = .deviceCoherent

def isDevicePrivate (kind : PageKind) : Bool := kind.zone = .devicePrivate

/-- `page->mapping`. -/
def hasMapping (kind : PageKind) : Bool := kind.anon || kind.file

end PageKind

/-- The counts and the flags of a struct page that a migration changes. -/
structure Frame where
  count : Int
  mapcount : Int
  locked : Bool
  lru : Bool
  dirty : Bool
  anonExclusive : Bool
  compound : Bool
  deriving DecidableEq, Repr

structure PteBits where
  young : Bool
  dirty : Bool
  softDirty : Bool
  uffdWp : Bool
  deriving DecidableEq, Repr

/-- The bits that an entry which is not present has room for. -/
def PteBits.ofSwap (bits : PteBits) : PteBits :=
  { bits with young := false, dirty := false }

/-- The kinds of migration entry. -/
inductive MigrationEntry where
  | readable
  | readableExclusive
  | writable
  deriving DecidableEq, Repr

/-- `is_writable_migration_entry`. -/
def MigrationEntry.isWritable : MigrationEntry → Bool
  | writable => true
  | _ => false

/-- `is_readable_migration_entry`. -/
def MigrationEntry.isReadable : MigrationEntry → Bool
  | readable => true
  | _ => false

/-- `swap` stands for the entries that are neither present nor one of the
others.  `vm_normal_page` finds no page behind a special entry. -/
inductive Pte where
  | none
  | swap
  | present (pfn : Pfn) (write special : Bool) (bits : PteBits)
  | devicePrivate (pfn : Pfn) (write : Bool) (bits : PteBits)
  | migration (pfn : Pfn) (entry : MigrationEntry) (bits : PteBits)
  deriving DecidableEq, Repr

namespace Pte

/-- The page that the reverse map has the entry for. -/
def maps : Pte → Option Pfn
  | present pfn _ special _ => if special then Option.none else some pfn
  | devicePrivate pfn _ _ => some pfn
  | _ => Option.none

/-- The page that is being migrated from the entry. -/
def moves : Pte → Option Pfn
  | migration pfn _ _ => some pfn
  | _ => Option.none

def isDirty : Pte → Bool
  | present _ _ _ bits => bits.dirty
  | _ => false

def isWrite : Pte → Bool
  | present _ write _ _ => write
  | devicePrivate _ write _ => write
  | _ => false

/-- `make_writable_migration_entry` and its two siblings. -/
def migrationEntry (write exclusive : Bool) : MigrationEntry :=
  if write then .writable
  else if exclusive then .readableExclusive
  else .readable

/-- The migration entry for a mapped page. -/
def toMigration (exclusive : Bool) : Pte → Pte
  | present pfn write _ bits =>
      migration pfn (migrationEntry write exclusive) bits
  | devicePrivate pfn write bits =>
      migration pfn (migrationEntry write exclusive) bits.ofSwap
  | pte => pte

/-- The entry for a page that `remove_migration_pte` puts in the place of a
migration entry. -/
def ofMigration (kind : PageKind) (dirty : Bool) (pfn : Pfn)
    (entry : MigrationEntry) (bits : PteBits) : Pte :=
  if kind.isDevicePrivate then
    devicePrivate pfn entry.isWritable bits.ofSwap
  else
    present pfn entry.isWritable false
      { bits with
        dirty := bits.dirty && dirty
        uffdWp := bits.uffdWp && !entry.isWritable }

end Pte

/-- A process and a page number in it. -/
abbrev Place := Nat × Nat

/-- The entries of the last level of the page tables, and the struct pages.
Where an entry of the middle level still maps a huge page, `table` has the
entries that splitting it leaves, and `frame` the counts. -/
structure Kernel where
  table : Place → Pte
  frame : Pfn → Frame

/-- What no step of a migration changes: the kind of each page, the places at
which the reverse map looks for it, whether `page_try_share_anon_rmap`
refuses it, and the mappings that `try_to_migrate` leaves. -/
structure Setting where
  kind : Pfn → PageKind
  rmap : Pfn → List Place
  pinned : Pfn → Bool
  keeps : Place → Bool

namespace Kernel

def setFrame (kernel : Kernel) (pfn : Pfn) (frame : Frame) : Kernel :=
  { kernel with frame := Function.update kernel.frame pfn frame }

def getPage (pfn : Pfn) (kernel : Kernel) : Kernel :=
  kernel.setFrame pfn
    { kernel.frame pfn with count := (kernel.frame pfn).count + 1 }

def putPage (pfn : Pfn) (kernel : Kernel) : Kernel :=
  kernel.setFrame pfn
    { kernel.frame pfn with count := (kernel.frame pfn).count - 1 }

def lockPage (pfn : Pfn) (kernel : Kernel) : Kernel :=
  kernel.setFrame pfn { kernel.frame pfn with locked := true }

def unlockPage (pfn : Pfn) (kernel : Kernel) : Kernel :=
  kernel.setFrame pfn { kernel.frame pfn with locked := false }

/-- A page comes off the LRU, and the caller gets a reference. -/
def offLru (pfn : Pfn) (kernel : Kernel) : Kernel :=
  kernel.setFrame pfn
    { kernel.frame pfn with
      lru := false
      count := (kernel.frame pfn).count + 1 }

/-- A page goes onto the LRU, and a reference of the caller's goes. -/
def ontoLru (pfn : Pfn) (kernel : Kernel) : Kernel :=
  kernel.setFrame pfn
    { kernel.frame pfn with
      lru := true
      count := (kernel.frame pfn).count - 1 }

/-- The page is the first of a huge page that has not been split. -/
def isHuge (setting : Setting) (kernel : Kernel) (page : Pfn) : Bool :=
  decide ((setting.kind page).head = some page) && (kernel.frame page).compound

/-- Huge pages have been split: their pages are no longer compound. -/
def splitting (setting : Setting) (done : Pfn → Bool) (kernel : Kernel) :
    Kernel :=
  { kernel with
    frame := fun pfn =>
      { kernel.frame pfn with
        compound := (kernel.frame pfn).compound &&
          !(setting.kind pfn).head.any done } }

/-- `split_huge_page`, where it returns 0. -/
def splitHugePage (setting : Setting) (page : Pfn) (kernel : Kernel) : Kernel :=
  kernel.splitting setting fun head => decide (head = page)

/-- `anon_exclusive`. -/
def exclusive (setting : Setting) (kernel : Kernel) (pfn : Pfn) : Bool :=
  (setting.kind pfn).anon && (kernel.frame pfn).anonExclusive

/-- A page table entry gives way to a migration entry: the reverse map and
the page lose a mapping and its reference. -/
def unmapPte (setting : Setting) (pfn : Pfn) (place : Place) (kernel : Kernel) :
    Kernel :=
  let pte := kernel.table place
  let exclusive := kernel.exclusive setting pfn
  { table := Function.update kernel.table place (pte.toMigration exclusive)
    frame := Function.update kernel.frame pfn
      { kernel.frame pfn with
        count := (kernel.frame pfn).count - 1
        mapcount := (kernel.frame pfn).mapcount - 1
        dirty := (kernel.frame pfn).dirty || pte.isDirty
        anonExclusive := (kernel.frame pfn).anonExclusive && !exclusive } }

/-- A migration entry gives way to an entry for `new`, which gains a mapping
and its reference. -/
def remapPte (setting : Setting) (new : Pfn) (place : Place)
    (entry : MigrationEntry) (bits : PteBits) (kernel : Kernel) : Kernel :=
  { table := Function.update kernel.table place
      (.ofMigration (setting.kind new) (kernel.frame new).dirty new entry bits)
    frame := Function.update kernel.frame new
      { kernel.frame new with
        count := (kernel.frame new).count + 1
        mapcount := (kernel.frame new).mapcount + 1
        anonExclusive := (kernel.frame new).anonExclusive ||
          ((setting.kind new).anon && !entry.isReadable) } }

end Kernel

end Rshm.Mm
