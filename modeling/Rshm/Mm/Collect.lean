import Rshm.Lib.RangeLoop
import Rshm.Mm.PageRestored

/-!
# Collecting the pages of a range

`migrate_vma_collect`: the walk over the page table of a process, which
locks the pages it finds, replaces their entries by migration entries and
fills the source array.  The walker and the states in which it finds the
middle level of the page table come from the environment.
-/

namespace Rshm.Mm

open RangeLoop

/-- `migrate->flags`. -/
structure MigrateSelect where
  system : Bool
  devicePrivate : Bool
  deviceCoherent : Bool
  deriving DecidableEq, Repr

/-- What the walk reads of `struct migrate_vma`. -/
structure CollectArgs where
  mm : Nat
  first : Nat
  anonymous : Bool
  select : MigrateSelect
  pgmapOwner : Nat

/-- How an entry of the middle level of the page table is left. -/
inductive PmdEnd where
  | hole
  | skip
  | walk
  deriving DecidableEq, Repr

/-- What the walk has done so far.  `lost`, `split` and `ends` are history
variables: the references that were never dropped, how many slots there were
when each huge page was split, and how each slot was reached. -/
structure Collect where
  kernel : Kernel
  src : Nat → UInt64
  dst : Nat → UInt64
  npages : Nat
  cpages : Nat
  lost : Pfn → Nat
  split : Pfn → Option Nat
  ends : Nat → PmdEnd

namespace Collect

/-- `migrate->dst[migrate->npages] = 0;
migrate->src[migrate->npages++] = mpfn`. -/
def push (reached : PmdEnd) (mpfn : UInt64) (walk : Collect) : Collect :=
  { walk with
    dst := Function.update walk.dst walk.npages 0
    src := Function.update walk.src walk.npages mpfn
    npages := walk.npages + 1
    ends := Function.update walk.ends walk.npages reached }

/-- A slot of which the kernel can tell that it may migrate. -/
def countPage (walk : Collect) : Collect :=
  { walk with cpages := walk.cpages + 1 }

end Collect

def migrateVmaCollectSkip (count pfn : Nat) (walk : Collect) : Collect :=
  forEach (fun _ => .push .skip 0) count pfn walk

def migrateVmaCollectHole (args : CollectArgs) (count pfn : Nat)
    (walk : Collect) : Collect :=
  if args.anonymous = false then migrateVmaCollectSkip count pfn walk
  else
    forEach (fun _ walk => walk.countPage.push .hole migratePfnMigrate) count
      pfn walk

/-- The states in which the walk finds an entry of the middle level: what
`pmd_trans_huge` says, what comes of splitting a huge page, and what
`pmd_none` and `pmd_bad` say in the end. -/
inductive PmdLook where
  | none
  | table (bad : Bool)
  | raced (again : PmdLook)
  | hugeZero (unstable bad : Bool)
  | huge (page : Pfn) (split : Int) (gone bad : Bool)
  deriving Repr

/-- `migrate_vma_collect_pmd` up to the page table.  A huge page whose lock
is taken keeps the reference to it. -/
def collectPmdLook (host : Host) : PmdLook → Collect → PmdEnd × Collect
  | .none, walk => (.hole, walk)
  | .table bad, walk => (if bad then .skip else .walk, walk)
  | .raced again, walk => collectPmdLook host again walk
  | .hugeZero unstable bad, walk =>
      (if unstable then .skip else if bad then .skip else .walk, walk)
  | .huge page split gone bad, walk =>
      if walk.kernel.isHuge host page = false then
        -- The walk has split the page before.
        (if gone then .hole else if bad then .skip else .walk, walk)
      else
        let kernel := walk.kernel.getPage page
        if (kernel.frame page).locked then
          (.skip,
            { walk with
              kernel := kernel
              lost := Function.update walk.lost page (walk.lost page + 1) })
        else
          let kernel := kernel.lockPage page
          if split = 0 then
            let kernel := kernel.splitHugePage host page
            (if gone then .hole else if bad then .skip else .walk,
              { walk with
                kernel := (kernel.unlockPage page).putPage page
                split :=
                  Function.update walk.split page (some walk.npages) })
          else
            (.skip,
              { walk with
                kernel := (kernel.unlockPage page).putPage page })

/-- What the walk makes of an entry before it touches the page. -/
inductive Source where
  | skip
  | populate
  | page (pfn : Pfn) (write : Bool)
  deriving DecidableEq, Repr

/-- The branches of `migrate_vma_collect_pmd` on a page table entry. -/
def collectSource (host : Host) (args : CollectArgs) : Pte → Source
  | .none => if args.anonymous then .populate else .skip
  | .swap => .skip
  | .migration _ _ _ => .skip
  | .devicePrivate pfn write _ =>
      if args.select.devicePrivate = false ∨
          (host.kind pfn).pgmapOwner ≠ args.pgmapOwner then .skip
      else .page pfn write
  | .present pfn write special _ =>
      let kind := host.kind pfn
      if kind.zero && args.select.system then .populate
      else if special then .skip
      else if !kind.isZoneDevice && !args.select.system then .skip
      else if kind.isDeviceCoherent &&
          (!args.select.deviceCoherent ||
            kind.pgmapOwner ≠ args.pgmapOwner) then .skip
      else .page pfn write

/-- A page that the walk gets, tries to lock and unmaps.  The entry of a page
that cannot be shared is cleared and set again. -/
def collectPage (host : Host) (place : Place) (pfn : Pfn) (write : Bool)
    (walk : Collect) : Collect :=
  let kernel := walk.kernel.getPage pfn
  if (kernel.frame pfn).locked then
    { walk with kernel := kernel.putPage pfn }.push .walk 0
  else
    let kernel := kernel.lockPage pfn
    if kernel.exclusive host pfn && host.pinned pfn then
      { walk with kernel := (kernel.unlockPage pfn).putPage pfn }.push .walk 0
    else
      { walk with kernel := kernel.unmapPte host pfn place }.countPage.push
        .walk (sourceWord pfn write)

/-- The body of the loop over the page table. -/
def collectPte (host : Host) (args : CollectArgs) (pfn : Nat)
    (walk : Collect) : Collect :=
  let place := (args.mm, pfn)
  match collectSource host args (walk.kernel.table place) with
  | .skip => walk.push .walk 0
  | .populate => walk.countPage.push .walk migratePfnMigrate
  | .page page write =>
      if !(host.kind page).hasMapping ||
          (walk.kernel.frame page).compound then
        walk.push .walk 0
      else collectPage host place page write walk

def migrateVmaCollectPmd (host : Host) (args : CollectArgs) (look : PmdLook)
    (count pfn : Nat) (walk : Collect) : Collect :=
  match collectPmdLook host look walk with
  | (.hole, walk) => migrateVmaCollectHole args count pfn walk
  | (.skip, walk) => migrateVmaCollectSkip count pfn walk
  | (.walk, walk) => forEach (collectPte host args) count pfn walk

/-- A callback of `walk_page_range`: `pte_hole`, or `pmd_entry`. -/
inductive Segment where
  | hole (count : Nat)
  | pmd (count : Nat) (look : PmdLook)
  deriving Repr

def Segment.count : Segment → Nat
  | hole count => count
  | pmd count _ => count

def Segment.collect (host : Host) (args : CollectArgs) (pfn : Nat)
    (walk : Collect) : Segment → Collect
  | hole count => migrateVmaCollectHole args count pfn walk
  | pmd count look => migrateVmaCollectPmd host args look count pfn walk

def walkPageRange (host : Host) (args : CollectArgs) :
    List Segment → Nat → Collect → Collect
  | [], _, walk => walk
  | segment :: rest, pfn, walk =>
      walkPageRange host args rest (pfn + segment.count)
        (segment.collect host args pfn walk)

/-- The number of pages of the segments. -/
def pagesOf (segments : List Segment) : Nat :=
  (segments.map Segment.count).sum

def migrateVmaCollect (host : Host) (args : CollectArgs)
    (segments : List Segment) (src dst : Nat → UInt64) (kernel : Kernel) :
    Collect :=
  walkPageRange host args segments args.first
    { kernel := kernel
      src := src
      dst := dst
      npages := 0
      cpages := 0
      lost := fun _ => 0
      split := fun _ => none
      ends := fun _ => .skip }

end Rshm.Mm
