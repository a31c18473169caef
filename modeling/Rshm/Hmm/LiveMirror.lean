import Rshm.Hmm.FaultCommit
import Rshm.Hmm.OwnedWorld
import Rshm.Hmm.RoundTrip

/-!
# Device pages and the mirrors they name

The backing page of a device page names the mirror that the page was migrated
through.  The name is written by one operation, followed by a CPU fault any
time later, and made stale by closing the mirror.  Closing is the only step
that takes a mirror away, and the copy loop of a migration to the device is
the only one that links pages.
-/

namespace Rshm.Hmm

open RangeLoop

variable {Contents : Type}

/-- No page gets another link, and no device page comes into use. -/
structure Memory.LinksKept (mem later : Memory Contents) : Prop where
  links : later.zoneDeviceData = mem.zoneDeviceData
  fewer : ∀ page ∈ later.inUse, page.isDevicePrivatePage = true →
    page ∈ mem.inUse

namespace Memory.LinksKept

theorem refl (mem : Memory Contents) : mem.LinksKept mem :=
  ⟨rfl, fun _ used _ => used⟩

theorem trans {mem between later : Memory Contents}
    (first : mem.LinksKept between) (second : between.LinksKept later) :
    mem.LinksKept later := by
  refine ⟨second.links.trans first.links, ?_⟩
  intro page used device
  exact first.fewer page (second.fewer page used device) device

theorem putPage (mem : Memory Contents) (page : Page) :
    mem.LinksKept (mem.putPage page) := by
  refine ⟨putPage_zoneDeviceData mem page, ?_⟩
  intro other used _
  unfold Memory.putPage Memory.dmirrorDevmemFree at used
  split at used
  · exact Finset.mem_of_mem_erase used
  · split at used
    · exact Finset.mem_of_mem_erase (Finset.mem_of_mem_erase used)
    · exact Finset.mem_of_mem_erase used
  · exact used

theorem allocFrame (mem : Memory Contents) (frame : Nat)
    (contents : Page → Contents) :
    mem.LinksKept
      { contents := contents
        zoneDeviceData := mem.zoneDeviceData
        inUse := insert (.normal frame) mem.inUse } := by
  refine ⟨rfl, ?_⟩
  intro other used device
  rcases Finset.mem_insert.mp used with rfl | old
  · cases device
  · exact old

theorem faultAllocAndCopy (alloc : Nat → Option Nat) (count first : Nat)
    (state : FaultCopyState Contents) :
    state.mem.LinksKept
      (dmirrorDevmemFaultAllocAndCopy alloc count first state).mem := by
  apply forEach_keeps
    (fun after : FaultCopyState Contents => state.mem.LinksKept after.mem)
  · exact .refl state.mem
  · intro pfn before _ _ held
    apply held.trans
    rcases dmirrorDevmemFaultAllocAndCopyOne_cases alloc pfn before with
      same | ⟨spage, rpage, frame, -, -, -, -, taken⟩
    · rw [same]
      exact .refl before.mem
    · rw [taken]
      refine ⟨rfl, ?_⟩
      intro other used device
      rcases Finset.mem_insert.mp used with rfl | old
      · cases device
      · exact old

theorem finalizeOne (slots : Nat → MigrateSlot) (pfn : Nat)
    (state : (Nat → Pte) × Memory Contents) :
    state.2.LinksKept (migrateVmaFinalizeOne slots pfn state).2 := by
  unfold migrateVmaFinalizeOne
  dsimp only
  cases (slots pfn).src.page with
  | none =>
      cases (slots pfn).dst.page with
      | none => exact .refl _
      | some newpage =>
          dsimp only
          split
          · exact .refl _
          · exact .putPage _ _
  | some page =>
      cases (slots pfn).dst.page with
      | none =>
          dsimp only
          split
          · split
            · exact .refl _
            · exact .putPage _ _
          · exact .putPage _ _
      | some newpage =>
          dsimp only
          split
          · split
            · exact .putPage _ _
            · exact (putPage _ _).trans (.putPage _ _)
          · exact (putPage _ _).trans (.putPage _ _)

theorem finalize (slots : Nat → MigrateSlot) (count first : Nat)
    (state : (Nat → Pte) × Memory Contents) :
    state.2.LinksKept (migrateVmaFinalize slots count first state).2 := by
  apply forEach_keeps
    (fun after : (Nat → Pte) × Memory Contents => state.2.LinksKept after.2)
  · exact .refl state.2
  · intro pfn before _ _ held
    exact held.trans (finalizeOne slots pfn before)

end Memory.LinksKept

/-- Every device page in use has a backing page in use, which names one of
the mirrors. -/
def Memory.FilledBy (mem : Memory Contents) (mirrors : Nat → Prop) : Prop :=
  ∀ page ∈ mem.inUse, page.isDevicePrivatePage = true →
    ∃ rpage m, mem.zoneDeviceData page = .page rpage ∧ rpage ∈ mem.inUse ∧
      mem.zoneDeviceData rpage = .dmirror m ∧ mirrors m

theorem Memory.FilledBy.allocAndCopyOne [Zero Contents]
    {mem : Memory Contents} {mirrors : Nat → Prop}
    (filled : mem.FilledBy mirrors) {dmirror : Nat}
    (open_ : mirrors dmirror) (mdevice : Nat) (vmWrite : Bool)
    (alloc : Nat → Option (Nat × Nat)) (pfn : Nat)
    (slots : Nat → MigrateSlot) :
    (dmirrorMigrateAllocAndCopyOne mdevice dmirror vmWrite alloc pfn
      (slots, mem)).2.FilledBy mirrors := by
  rcases dmirrorMigrateAllocAndCopyOne_cases mdevice dmirror vmWrite alloc
    pfn slots mem with same | ⟨dpfn, rpfn, -, unused, unused', taken⟩
  · rw [same]
    exact filled
  · rw [taken]
    intro page used device
    dsimp only at used ⊢
    rcases Finset.mem_insert.mp used with rfl | used
    · exact ⟨.normal rpfn, dmirror, by simp, by simp, by simp, open_⟩
    rcases Finset.mem_insert.mp used with rfl | old
    · cases device
    · obtain ⟨rpage, m, link, backing, name, opened⟩ :=
        filled page old device
      -- Both pages were in use, so the two updates are about others.
      have page_old := ne_of_mem_of_not_mem old unused
      have page_old' := ne_of_mem_of_not_mem old unused'
      have rpage_old := ne_of_mem_of_not_mem backing unused
      have rpage_old' := ne_of_mem_of_not_mem backing unused'
      refine ⟨rpage, m, ?_, by simp [backing], ?_, opened⟩
      · simp [page_old, page_old', link]
      · simp [rpage_old, rpage_old', name]

/-- The copy loop to the device writes its mirror into fresh backing pages
only. -/
theorem Memory.FilledBy.allocAndCopy [Zero Contents]
    {mem : Memory Contents} {mirrors : Nat → Prop}
    (filled : mem.FilledBy mirrors) {dmirror : Nat}
    (open_ : mirrors dmirror) (mdevice : Nat) (vmWrite : Bool)
    (alloc : Nat → Option (Nat × Nat)) (count first : Nat)
    (slots : Nat → MigrateSlot) :
    (dmirrorMigrateAllocAndCopy mdevice dmirror vmWrite alloc count first
      (slots, mem)).2.FilledBy mirrors := by
  apply forEach_keeps
    (fun state : (Nat → MigrateSlot) × Memory Contents =>
      state.2.FilledBy mirrors)
  · exact filled
  · intro pfn before _ _ held
    obtain ⟨slots, mem⟩ := before
    exact held.allocAndCopyOne open_ mdevice vmWrite alloc pfn slots

namespace World

variable {world next : World Contents}

/-- A migration that was in progress before, or whose mirror is open. -/
def Runs (world next : World Contents) (id : Nat) (migration : Migration) :
    Prop :=
  (∃ before, world.migrations id = some before ∧
      before.dmirror = migration.dmirror) ∨
    (next.dmirror migration.dmirror).isSome = true

/-- A step that links no page, takes no mirror away and follows no pointer to
a released one. -/
structure Steady (world next : World Contents) : Prop where
  mem : world.mem.LinksKept next.mem
  mirrors : ∀ m, (world.dmirror m).isSome = true →
    (next.dmirror m).isSome = true
  running : ∀ id migration, next.migrations id = some migration →
    world.Runs next id migration
  followed : next.useAfterFree = world.useAfterFree

theorem Steady.refl (world : World Contents) : world.Steady world :=
  ⟨.refl world.mem, fun _ opened => opened,
    fun _ migration there => .inl ⟨migration, there, rfl⟩, rfl⟩

theorem Steady.trans {between : World Contents}
    (first : world.Steady between) (second : between.Steady next) :
    world.Steady next := by
  refine ⟨first.mem.trans second.mem, ?_, ?_,
    second.followed.trans first.followed⟩
  · intro m opened
    exact second.mirrors m (first.mirrors m opened)
  · intro id migration there
    rcases second.running id migration there with
      ⟨middle, known, same⟩ | opened
    · rcases first.running id middle known with ⟨before, old, named⟩ | opened
      · exact .inl ⟨before, old, named.trans same⟩
      · rw [same] at opened
        exact .inr (second.mirrors _ opened)
    · exact .inr opened

theorem Steady.of_same (same : world.SamePages next)
    (mirrors : ∀ m, (world.dmirror m).isSome = true →
      (next.dmirror m).isSome = true)
    (followed : next.useAfterFree = world.useAfterFree) :
    world.Steady next := by
  refine ⟨⟨same.links, ?_⟩, mirrors, ?_, followed⟩
  · intro page used _
    rw [← same.inUse]
    exact used
  · intro id migration there
    rw [same.migrations] at there
    exact .inl ⟨migration, there, rfl⟩

theorem Steady.setPt (steady : world.Steady next) {m : Nat}
    {dmirror : Dmirror} (present : next.dmirror m = some dmirror)
    (pt : XArray) : world.Steady (next.setPt m dmirror pt) := by
  apply steady.trans
  refine Steady.of_same ⟨rfl, rfl, rfl, rfl⟩ ?_ rfl
  intro n opened
  rw [setPt_isSome pt present]
  exact opened

theorem Steady.notify (world : World Contents) (event : NotifierEvent)
    (owner : Option Nat) (mm first last : Nat) :
    world.Steady (world.notify event owner mm first last) := by
  refine Steady.of_same ⟨rfl, rfl, rfl, rfl⟩ ?_ rfl
  intro m opened
  rw [notify_isSome]
  exact opened

theorem Steady.setFault (steady : world.Steady next) (id : Nat)
    (fault : Option Fault) : world.Steady (next.setFault id fault) :=
  ⟨steady.mem, steady.mirrors, steady.running, steady.followed⟩

theorem Steady.setMigration (steady : world.Steady next) {id : Nat}
    {migration : Option Migration}
    (runs : ∀ found, migration = some found → world.Runs next id found) :
    world.Steady (next.setMigration id migration) := by
  refine ⟨steady.mem, steady.mirrors, ?_, steady.followed⟩
  intro other found there
  by_cases here : other = id
  · subst here
    apply runs found
    simpa [World.setMigration] using there
  · apply steady.running other found
    simpa [World.setMigration, here] using there

theorem Steady.setCpu (steady : world.Steady next) (mm pfn : Nat)
    (pte : Pte) : world.Steady (next.setCpu mm pfn pte) :=
  ⟨steady.mem, steady.mirrors, steady.running, steady.followed⟩

theorem Steady.setMem (steady : world.Steady next) {mem : Memory Contents}
    (kept : next.mem.LinksKept mem) :
    world.Steady { next with mem := mem } :=
  ⟨steady.mem.trans kept, steady.mirrors, steady.running, steady.followed⟩

theorem Steady.remap (steady : world.Steady next) (mm : Nat)
    (after : Nat → Pte) : world.Steady (next.remap mm after) :=
  ⟨steady.mem, steady.mirrors, steady.running, steady.followed⟩

theorem Steady.openFile {m mdevice mm : Nat}
    (moved : world.openFile m mdevice mm = some next) :
    world.Steady next := by
  have same := SamePages.openFile moved
  obtain ⟨-, -, rfl⟩ := openFile_opened moved
  refine Steady.of_same same ?_ rfl
  intro n opened
  by_cases here : n = m
  · subst here
    simp
  · simpa [here] using opened

theorem Steady.doWrite {m count first : Nat}
    {bounce : DmirrorBounce Contents}
    (moved : world.doWrite m count first bounce = some next) :
    world.Steady next := by
  have same := SamePages.doWrite moved
  obtain ⟨dmirror, _, rfl⟩ := Option.map_eq_some_iff.mp moved
  exact .of_same same (fun _ opened => opened) rfl

theorem Steady.readBegin {id m count first : Nat} {write : Bool}
    (moved : world.readBegin id m count first write = some next) :
    world.Steady next := by
  obtain ⟨_, -, -, -, rfl⟩ := readBegin_started moved
  exact (Steady.refl world).setFault _ _

theorem Steady.hmmRangeFault {id : Nat}
    (moved : world.hmmRangeFault id = some next) : world.Steady next := by
  obtain ⟨_, _, -, -, -, rfl⟩ := hmmRangeFault_taken moved
  exact (Steady.refl world).setFault _ _

theorem Steady.abandonFault {id : Nat}
    (moved : world.abandonFault id = some next) : world.Steady next := by
  obtain rfl := abandonFault_dropped moved
  exact (Steady.refl world).setFault _ _

theorem Steady.doFault {id : Nat} {xaFails : Nat → Bool}
    (moved : world.doFault id xaFails = some next) :
    world.Steady next := by
  rcases doFault_stored moved with ⟨_, -, rfl⟩ |
    ⟨_, _, _, _, -, present, -, -, -, rfl⟩
  · exact (Steady.refl world).setFault _ _
  · exact ((Steady.refl world).setPt present _).setFault _ _

theorem Steady.populate [Zero Contents] {mm pfn frame : Nat}
    {writable : Bool}
    (moved : world.populate mm pfn frame writable = some next) :
    world.Steady next := by
  obtain ⟨-, -, rfl⟩ := populate_mapped moved
  apply Steady.setCpu
  exact (Steady.refl world).setMem (.allocFrame _ frame _)

theorem Steady.populateZero {mm pfn : Nat}
    (moved : world.populateZero mm pfn = some next) :
    world.Steady next := by
  obtain ⟨-, rfl⟩ := populateZero_mapped moved
  exact (Steady.refl world).setCpu _ _ _

theorem Steady.invalidateStart {event : NotifierEvent}
    {range : Invalidation}
    (moved : world.invalidateStart event range = some next) :
    world.Steady next := by
  obtain ⟨-, rfl⟩ := invalidateStart_told moved
  have notified := Steady.notify world event none range.mm range.first
    range.last
  exact ⟨notified.mem, notified.mirrors, notified.running,
    notified.followed⟩

theorem Steady.invalidateEnd {range : Invalidation}
    (moved : world.invalidateEnd range = some next) :
    world.Steady next := by
  obtain ⟨-, rfl⟩ := invalidateEnd_ended moved
  exact .of_same ⟨rfl, rfl, rfl, rfl⟩ (fun _ opened => opened) rfl

theorem Steady.replacePage (steady : world.Steady next) (mm pfn : Nat)
    (page rpage : Page) (frame : Nat) (writable : Bool) :
    world.Steady (next.replacePage mm pfn page rpage frame writable) := by
  apply Steady.setCpu
  exact steady.setMem
    ((Memory.LinksKept.allocFrame _ frame _).trans (.putPage _ page))

theorem Steady.cpuChange {mm pfn : Nat} {change : CpuChange}
    (moved : world.cpuChange mm pfn change = some next) :
    world.Steady next := by
  obtain ⟨-, ⟨page, _, -, rfl⟩ | ⟨page, _, -, rfl⟩ | ⟨page, _, _, -, rfl⟩ |
    ⟨page, _, rpage, frame, writable, -, -, -, rfl⟩⟩ := cpuChange_made moved
  · exact ((Steady.refl world).setMem (.putPage _ _)).setCpu _ _ _
  · exact (Steady.refl world).setCpu _ _ _
  · exact (Steady.refl world).setCpu _ _ _
  · exact (Steady.refl world).replacePage mm pfn page rpage frame writable

theorem Steady.migrateSetup {m : Nat}
    (opened : (world.dmirror m).isSome = true) (id mdevice mm : Nat)
    (flags : MigrateVmaDirection) (vmWrite : Bool) (count first : Nat)
    (collected : Nat → Bool) :
    world.Steady (world.migrateSetup id m mdevice mm flags vmWrite count first
      collected) := by
  have notified := Steady.notify world .migrate (some mdevice) mm first
    (first + count)
  have mapped : world.Steady
      { world.notify .migrate (some mdevice) mm first (first + count) with
        cpu := Function.update world.cpu mm (migrateVmaSetup flags mdevice
          collected count first (world.cpu mm)).1 } :=
    ⟨notified.mem, notified.mirrors, notified.running, notified.followed⟩
  apply mapped.setMigration
  intro found equal
  cases equal
  exact .inr (notified.mirrors m opened)

theorem Steady.setup {id m : Nat} {flags : MigrateVmaDirection}
    {vmWrite : Bool} {count first : Nat} {collected : Nat → Bool}
    (moved : world.setup id m flags vmWrite count first collected =
      some next) : world.Steady next := by
  obtain ⟨dmirror, present, -, rfl⟩ := setup_begun moved
  exact .migrateSetup (by rw [present]; rfl) _ _ _ _ _ _ _ _

theorem Steady.pages {id : Nat} {migrated : Nat → Bool}
    (moved : world.pages id migrated = some next) : world.Steady next := by
  obtain ⟨migration, _, there, -, -, rfl⟩ := pages_migrated moved
  apply ((Steady.refl world).remap _ _).setMigration
  intro found equal
  cases equal
  exact .inl ⟨migration, there, rfl⟩

theorem Steady.finalize {id : Nat}
    (moved : world.finalize id = some next) : world.Steady next := by
  obtain ⟨migration, _, -, -, rfl, rfl⟩ := finalize_finished moved
  apply Steady.setMigration
  · apply Steady.remap
    exact (Steady.refl world).setMem (.finalize migration.slots
      migration.npages migration.first (world.cpu migration.mm, world.mem))
  · intro found equal
    cases equal

theorem Steady.exclusive {m count first : Nat} {pages : Nat → Option Page}
    {complete : Bool} {xaFails : Nat → Bool}
    (moved : world.exclusive m count first pages complete xaFails =
      some next) : world.Steady next := by
  apply exclusive_keeps world.Steady _ _ (.refl world) moved
  · intro between mm pfn held
    exact held.trans (.notify between .exclusive none mm pfn (pfn + 1))
  · intro between m dmirror pt held present
    exact held.setPt present pt

theorem Steady.evictPage {mdevice : Nat} {eviction : Nat × Nat × Nat}
    (moved : world.evictPage mdevice eviction = some next) :
    world.Steady next := by
  obtain ⟨mm, pfn, frame⟩ := eviction
  obtain ⟨_, _, _, -, -, -, rfl⟩ := evictPage_evicted moved
  exact (Steady.notify world .clear none mm pfn (pfn + 1)).replacePage _ _ _
    _ _ _

theorem Steady.release {mdevice : Nat} {evictions : List (Nat × Nat × Nat)}
    (moved : world.release mdevice evictions = some next) :
    world.Steady next :=
  release_keeps world.Steady
    (fun _ _ _ held evicted => held.trans (.evictPage evicted))
    (.refl world) moved

theorem Steady.faultAllocAndCopy {id : Nat} {alloc : Nat → Option Nat}
    (opened : ∀ migration, world.migrations id = some migration →
      (world.dmirror migration.dmirror).isSome = true)
    (moved : world.faultAllocAndCopy id alloc = some next) :
    world.Steady next := by
  obtain ⟨migration, there, -, -, ⟨absent, -⟩ |
    ⟨dmirror, _, present, rfl, rfl⟩⟩ := faultAllocAndCopy_copied moved
  · have present := opened migration there
    rw [absent] at present
    cases present
  · have copied := (Steady.refl world).setMem
      (.faultAllocAndCopy alloc migration.npages migration.first
        ⟨migration.slots, world.mem, dmirror.pt⟩)
    apply (copied.setPt present _).setMigration
    intro found equal
    cases equal
    exact .inl ⟨migration, there, rfl⟩

theorem Steady.finalizeAndMap {id : Nat} {xaFails : Nat → Bool}
    (opened : ∀ migration, world.migrations id = some migration →
      (world.dmirror migration.dmirror).isSome = true)
    (moved : world.finalizeAndMap id xaFails = some next) :
    world.Steady next := by
  obtain ⟨migration, there, -, -, ⟨absent, -⟩ | ⟨dmirror, _, present, -,
    rfl⟩⟩ := finalizeAndMap_mapped moved
  · have present := opened migration there
    rw [absent] at present
    cases present
  · apply ((Steady.refl world).setPt present _).setMigration
    intro found equal
    cases equal
    exact .inl ⟨migration, there, rfl⟩

/-- The page is a device page filled through the mirror. -/
def Names (world : World Contents) (page : Page) (m : Nat) : Prop :=
  ∃ rpage, world.mem.zoneDeviceData page = .page rpage ∧
    world.mem.zoneDeviceData rpage = .dmirror m

/-- Every device page in use was filled through a mirror that is open, and
no CPU fault has followed a pointer to a released one. -/
def MirrorsLive (world : World Contents) : Prop :=
  (∀ page ∈ world.mem.inUse, page.isDevicePrivatePage = true →
    ∃ m, world.Names page m ∧ (world.dmirror m).isSome = true) ∧
  world.useAfterFree = false

/-- No device page in use was filled through the mirror, and no migration
runs for it. -/
def Unused (world : World Contents) (m : Nat) : Prop :=
  (∀ page ∈ world.mem.inUse, page.isDevicePrivatePage = true →
    ¬world.Names page m) ∧
  ∀ id migration, world.migrations id = some migration →
    migration.dmirror ≠ m

/-- A mirror is closed after its device pages have gone back to system
memory. -/
def Orderly (world : World Contents) (input : Input Contents) : Prop :=
  world.Locked input ∧ ∀ m, input = .closeFile m → world.Unused m

/-- The invariant: a migration in progress has an open mirror to write into
the backing pages. -/
structure Live (world : World Contents) : Prop where
  owned : world.PagesOwned
  mirrors : world.MirrorsLive
  running : ∀ id migration, world.migrations id = some migration →
    (world.dmirror migration.dmirror).isSome = true

theorem Live.of_steady (live : world.Live) (owned : next.PagesOwned)
    (steady : world.Steady next) : next.Live := by
  refine ⟨owned, ⟨?_, ?_⟩, ?_⟩
  · intro page used device
    obtain ⟨m, ⟨rpage, link, name⟩, opened⟩ :=
      live.mirrors.1 page (steady.mem.fewer page used device) device
    refine ⟨m, ⟨rpage, ?_, ?_⟩, steady.mirrors m opened⟩
    · rw [steady.mem.links]
      exact link
    · rw [steady.mem.links]
      exact name
  · exact steady.followed.trans live.mirrors.2
  · intro id migration there
    rcases steady.running id migration there with
      ⟨before, known, same⟩ | opened
    · rw [← same]
      exact steady.mirrors _ (live.running id before known)
    · exact opened

theorem Live.closeFile (live : world.Live) {m : Nat}
    (unused : world.Unused m) (moved : world.closeFile m = some next) :
    next.Live := by
  have owned := live.owned.of_same (.closeFile moved)
  obtain rfl := closeFile_closed moved
  refine ⟨owned, ⟨?_, live.mirrors.2⟩, ?_⟩
  · intro page used device
    obtain ⟨n, names, opened⟩ := live.mirrors.1 page used device
    refine ⟨n, names, ?_⟩
    have other : n ≠ m := by
      intro same
      subst same
      exact unused.1 page used device names
    simpa [other] using opened
  · intro id migration there
    have other := unused.2 id migration there
    simpa [other] using live.running id migration there

theorem Live.allocAndCopy [Zero Contents] (live : world.Live) {id : Nat}
    {alloc : Nat → Option (Nat × Nat)}
    (moved : world.allocAndCopy id alloc = some next) : next.Live := by
  have owned := live.owned.allocAndCopy moved
  obtain ⟨migration, after, there, -, -, rfl, rfl⟩ :=
    allocAndCopy_copied moved
  have filled : world.mem.FilledBy
      (fun m => (world.dmirror m).isSome = true) := by
    intro page used device
    obtain ⟨m, ⟨rpage, link, name⟩, opened⟩ :=
      live.mirrors.1 page used device
    have backing := live.owned.exclusive.alive (.backing page) rpage
      ⟨used, device, link⟩
    exact ⟨rpage, m, link, backing, name, opened⟩
  have loop := filled.allocAndCopy (live.running id migration there)
    migration.pgmapOwner migration.vmWrite alloc migration.npages
    migration.first migration.slots
  refine ⟨owned, ⟨?_, live.mirrors.2⟩, ?_⟩
  · intro page used device
    obtain ⟨rpage, m, link, -, name, opened⟩ := loop page used device
    exact ⟨m, ⟨rpage, link, name⟩, opened⟩
  · intro other found known
    by_cases here : other = id
    · subst here
      have same : found.dmirror = migration.dmirror := by
        simp only [World.setMigration, Function.update_self] at known
        cases known
        rfl
      rw [same]
      exact live.running other migration there
    · apply live.running other found
      simpa [World.setMigration, here] using known

theorem Live.cpuFault (live : world.Live) {id mm pfn : Nat}
    {vmWrite collected : Bool}
    (locked : world.Locked (.cpuFault id mm pfn vmWrite collected))
    (moved : world.cpuFault id mm pfn vmWrite collected = some next) :
    next.Live := by
  apply live.of_steady (live.owned.cpuFault locked moved)
  obtain ⟨-, mdevice, dpfn, writable, entry,
    ⟨rpage, m, dmirror, -, -, present, rfl⟩ | ⟨rfl, gone⟩⟩ :=
    cpuFault_begun moved
  · have opened : (world.dmirror m).isSome = true := by
      rw [present]
      rfl
    exact .migrateSetup opened _ _ _ _ _ _ _ _
  · -- The fault would have found a freed mirror.
    have used : Page.devicePrivate mdevice dpfn ∈ world.mem.inUse :=
      live.owned.exclusive.alive (.pte mm pfn) _ ⟨nofun, writable, entry⟩
    obtain ⟨m, ⟨rpage, link, name⟩, opened⟩ := live.mirrors.1 _ used rfl
    rw [gone rpage m link name] at opened
    cases opened

theorem Live.step [Zero Contents] (live : world.Live)
    {input : Input Contents} (orderly : world.Orderly input)
    (moved : world.step input = some next) : next.Live := by
  have owned : next.PagesOwned := live.owned.step orderly.1 moved
  cases input with
  | openFile _ _ _ => exact live.of_steady owned (.openFile moved)
  | closeFile m => exact live.closeFile (orderly.2 m rfl) moved
  | doWrite _ _ _ _ => exact live.of_steady owned (.doWrite moved)
  | readBegin _ _ _ _ _ => exact live.of_steady owned (.readBegin moved)
  | hmmRangeFault _ => exact live.of_steady owned (.hmmRangeFault moved)
  | abandonFault _ => exact live.of_steady owned (.abandonFault moved)
  | doFault _ _ => exact live.of_steady owned (.doFault moved)
  | populate _ _ _ _ => exact live.of_steady owned (.populate moved)
  | populateZero _ _ => exact live.of_steady owned (.populateZero moved)
  | invalidateStart _ _ =>
      exact live.of_steady owned (.invalidateStart moved)
  | cpuChange _ _ _ => exact live.of_steady owned (.cpuChange moved)
  | invalidateEnd _ => exact live.of_steady owned (.invalidateEnd moved)
  | setup _ _ _ _ _ _ _ => exact live.of_steady owned (.setup moved)
  | cpuFault _ _ _ _ _ => exact live.cpuFault orderly.1 moved
  | allocAndCopy _ _ => exact live.allocAndCopy moved
  | faultAllocAndCopy id _ =>
      exact live.of_steady owned (.faultAllocAndCopy (live.running id) moved)
  | pages _ _ => exact live.of_steady owned (.pages moved)
  | finalizeAndMap id _ =>
      exact live.of_steady owned (.finalizeAndMap (live.running id) moved)
  | finalize _ => exact live.of_steady owned (.finalize moved)
  | exclusive _ _ _ _ _ _ => exact live.of_steady owned (.exclusive moved)
  | release _ _ => exact live.of_steady owned (.release moved)

theorem boot_live [Zero Contents] : (boot : World Contents).Live := by
  refine ⟨boot_owned, ⟨?_, rfl⟩, ?_⟩
  · intro page used
    cases used
  · intro id migration there
    cases there

/-- While every mirror is closed after its device pages have gone, every
device page in use names an open mirror. -/
theorem mirrors_live_when_orderly [Zero Contents] (world : World Contents)
    (reached : (machine (· = boot)).Reaches Orderly world) :
    world.MirrorsLive := by
  have invariant : (machine (· = (boot : World Contents))).Invariant
      Orderly Live := by
    constructor
    · intro start initial
      subst initial
      exact boot_live
    · intro state input next live orderly moved
      exact live.step orderly moved
  exact (invariant.reaches reached).mirrors

/-- Whether the step needs neither the mmap lock nor an unused mirror. -/
private def startsOrderly : World Contents → Input Contents → Bool
  | _, .cpuChange _ _ _ => false
  | _, .release _ _ => false
  | _, .cpuFault _ _ _ _ _ => false
  | _, .setup _ _ flags _ _ _ _ => flags == .selectSystem
  | _, .closeFile _ => false
  | _, _ => true

private theorem startsOrderly_orderly (world : World Contents)
    (input : Input Contents) (admitted : startsOrderly world input = true) :
    world.Orderly input := by
  refine ⟨?_, ?_⟩
  · cases input with
    | cpuChange _ _ _ => cases admitted
    | release _ _ => cases admitted
    | cpuFault _ _ _ _ _ => cases admitted
    | setup _ _ flags _ _ _ _ =>
        intro back
        subst back
        cases admitted
    | _ => trivial
  · intro m same
    subst same
    cases admitted

/-- The process maps frame 1 at page 0, and the page is migrated to page 0
of the device, with frame 2 behind it. -/
private def toDeviceInputs : List (Input Nat) :=
  [.openFile 0 0 0, .populate 0 0 1 true,
    .setup 0 0 .selectSystem true 1 0 fun _ => true,
    .allocAndCopy 0 fun _ => some (0, 2), .pages 0 fun _ => true,
    .finalizeAndMap 0 fun _ => false, .finalize 0]

/-- The device page is in use. -/
private def holdsDevicePage (world : World Nat) : Bool :=
  decide (Page.devicePrivate 0 0 ∈ world.mem.inUse)

private theorem orderly_of {world : World Nat} {input : Input Nat}
    (locked : world.Locked input) (other : ∀ m, input ≠ .closeFile m) :
    world.Orderly input :=
  ⟨locked, fun m same => absurd same (other m)⟩

/-- The device pages that are left have frame 4 behind them, which names
mirror 1. -/
private def leftToOther (world : World Nat) : Bool :=
  decide (∀ page ∈ world.mem.inUse, page.isDevicePrivatePage = true →
    world.mem.zoneDeviceData page = .page (.normal 4)) &&
  decide (world.mem.zoneDeviceData (.normal 4) = .dmirror 1)

private theorem unused_of {world : World Nat}
    (left : leftToOther world = true)
    (idle : ∀ id, world.migrations id = none) : world.Unused 0 := by
  simp only [leftToOther, Bool.and_eq_true, decide_eq_true_eq] at left
  refine ⟨?_, ?_⟩
  · rintro page used device ⟨rpage, link, name⟩
    rw [left.1 page used device] at link
    cases link
    rw [left.2] at name
    cases name
  · intro id migration there
    rw [idle id] at there
    cases there

/-- Page 1 is migrated through mirror 1, page 0 through mirror 0 and back;
then mirror 0 is closed. -/
private def closedAfterBack : List (Input Nat) :=
  [.openFile 0 0 0, .openFile 1 0 0, .populate 0 0 1 true,
    .populate 0 1 3 true,
    .setup 0 1 .selectSystem true 1 1 fun _ => true,
    .allocAndCopy 0 fun _ => some (1, 4), .pages 0 fun _ => true,
    .finalizeAndMap 0 fun _ => false, .finalize 0,
    .setup 0 0 .selectSystem true 1 0 fun _ => true,
    .allocAndCopy 0 fun _ => some (0, 2), .pages 0 fun _ => true,
    .finalizeAndMap 0 fun _ => false, .finalize 0,
    .cpuFault 0 0 0 true true, .faultAllocAndCopy 0 fun _ => some 5,
    .pages 0 fun _ => true, .finalize 0, .closeFile 0]

private theorem closedAfterBack_run :
    ∃ world : World Nat, (machine (· = boot)).Run Orderly boot
      closedAfterBack world ∧ (world.dmirror 0).isNone = true ∧
      Page.devicePrivate 0 1 ∈ world.mem.inUse := by
  refine ⟨_, .cons ?_ rfl (.cons ?_ rfl (.cons ?_ rfl (.cons ?_ rfl
    (.cons ?_ rfl (.cons ?_ rfl (.cons ?_ rfl (.cons ?_ rfl (.cons ?_ rfl
    (.cons ?_ rfl (.cons ?_ rfl (.cons ?_ rfl (.cons ?_ rfl (.cons ?_ rfl
    (.cons ?_ rfl (.cons ?_ rfl (.cons ?_ rfl (.cons ?_ rfl (.cons ?_ rfl
    (.nil _))))))))))))))))))), ?_, ?_⟩
  · exact orderly_of trivial (by simp)
  · exact orderly_of trivial (by simp)
  · exact orderly_of trivial (by simp)
  · exact orderly_of trivial (by simp)
  · exact orderly_of (by simp [Locked]) (by simp)
  · exact orderly_of trivial (by simp)
  · exact orderly_of trivial (by simp)
  · exact orderly_of trivial (by simp)
  · exact orderly_of trivial (by simp)
  · exact orderly_of (by simp [Locked]) (by simp)
  · exact orderly_of trivial (by simp)
  · exact orderly_of trivial (by simp)
  · exact orderly_of trivial (by simp)
  · exact orderly_of trivial (by simp)
  · refine orderly_of ?_ (by simp)
    apply over_none
    iterate 9 apply others_none
    exact fun _ _ => rfl
  · exact orderly_of trivial (by simp)
  · exact orderly_of trivial (by simp)
  · exact orderly_of trivial (by simp)
  · refine ⟨trivial, ?_⟩
    intro m same
    cases same
    refine unused_of (by decide +kernel) ?_
    apply over_none
    iterate 13 apply others_none
    exact fun _ _ => rfl
  · rfl
  · decide +kernel

/-- A mirror is closed once its page has gone back; the page of the other
mirror is still on the device. -/
theorem migrated_mirror_live :
    ∃ world : World Nat, (machine (· = boot)).Reaches Orderly world ∧
      (world.dmirror 0).isNone = true ∧
      Page.devicePrivate 0 1 ∈ world.mem.inUse ∧ world.MirrorsLive := by
  obtain ⟨world, run, closed, used⟩ := closedAfterBack_run
  have reached : (machine (· = (boot : World Nat))).Reaches Orderly world :=
    ⟨boot, closedAfterBack, rfl, run⟩
  exact ⟨world, reached, closed, used,
    mirrors_live_when_orderly world reached⟩

private def startsLocked : World Contents → Input Contents → Bool
  | _, .closeFile _ => true
  | world, input => startsOrderly world input

private theorem startsLocked_locked (world : World Contents)
    (input : Input Contents) (admitted : startsLocked world input = true) :
    world.Locked input := by
  cases input with
  | closeFile _ => trivial
  | _ =>
      apply And.left
      apply startsOrderly_orderly
      exact admitted

/-- Page 0 of the device is in use and names mirror 0, which is closed; a
CPU fault on it follows the name. -/
private def wouldFollow (world : World Nat) : Bool :=
  holdsDevicePage world &&
    world.mem.zoneDeviceData (.devicePrivate 0 0) == .page (.normal 2) &&
    world.mem.zoneDeviceData (.normal 2) == .dmirror 0 &&
    (world.dmirror 0).isNone &&
    (world.cpuFault 1 0 0 true true).any World.useAfterFree

/-- The file is closed while the page is on the device. -/
theorem closed_mirror_followed :
    ∃ world next : World Nat, (machine (· = boot)).Reaches Locked world ∧
      ¬world.MirrorsLive ∧ world.cpuFault 1 0 0 true true = some next ∧
      next.useAfterFree = true := by
  obtain ⟨world, reached, dangling⟩ :=
    (machine (· = (boot : World Nat))).reaches_of_test startsLocked_locked
      (toDeviceInputs ++ [.closeFile 0]) wouldFollow rfl (by decide +kernel)
  simp only [wouldFollow, holdsDevicePage, Bool.and_eq_true, beq_iff_eq,
    decide_eq_true_eq] at dangling
  obtain ⟨⟨⟨⟨used, link⟩, name⟩, closed⟩, follows⟩ := dangling
  obtain ⟨next, moved, followed⟩ := (Option.any_eq_true _ _).mp follows
  refine ⟨world, next, reached, ?_, moved, followed⟩
  intro live
  obtain ⟨m, ⟨rpage, link', name'⟩, opened⟩ := live.1 _ used rfl
  rw [link] at link'
  cases link'
  rw [name] at name'
  cases name'
  rw [Option.isNone_iff_eq_none.mp closed] at opened
  cases opened

end World

end Rshm.Hmm
