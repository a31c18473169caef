import Rshm.Hmm.MemoryKept

/-!
# Nobody writes to the zero page

The zero page is not one of the pages that are handed out, so no migration
holds it, and every step of the machine maps it read-only.
-/

namespace Rshm.Hmm

open RangeLoop

variable {Contents : Type}

theorem putPage_inUse (mem : Memory Contents) (page : Page) :
    (mem.putPage page).inUse ⊆ mem.inUse := by
  unfold Memory.putPage Memory.dmirrorDevmemFree
  split
  · exact Finset.erase_subset _ _
  · split
    · exact (Finset.erase_subset _ _).trans (Finset.erase_subset _ _)
    · exact Finset.erase_subset _ _
  · exact Finset.Subset.refl _

theorem migrateVmaFinalize_inUse (slots : Nat → MigrateSlot)
    (count first : Nat) (state : (Nat → Pte) × Memory Contents) :
    (migrateVmaFinalize slots count first state).2.inUse ⊆ state.2.inUse := by
  apply forEach_keeps (fun after : (Nat → Pte) × Memory Contents =>
    after.2.inUse ⊆ state.2.inUse)
  · exact Finset.Subset.refl _
  · intro index before _ _ held
    refine Finset.Subset.trans ?_ held
    unfold migrateVmaFinalizeOne
    dsimp only
    repeat' split
    all_goals
      first
        | exact Finset.Subset.refl _
        | exact putPage_inUse _ _
        | exact (putPage_inUse _ _).trans (putPage_inUse _ _)

theorem dmirrorMigrateAllocAndCopy_unused [Zero Contents]
    (mdevice dmirror : Nat) (vmWrite : Bool)
    (alloc : Nat → Option (Nat × Nat)) (count first : Nat)
    (state : (Nat → MigrateSlot) × Memory Contents)
    (unused : Page.zero ∉ state.2.inUse) :
    Page.zero ∉ (dmirrorMigrateAllocAndCopy mdevice dmirror vmWrite alloc
      count first state).2.inUse := by
  apply forEach_keeps (fun after : (Nat → MigrateSlot) × Memory Contents =>
    Page.zero ∉ after.2.inUse)
  · exact unused
  · rintro index ⟨slots, mem⟩ _ _ held
    rcases dmirrorMigrateAllocAndCopyOne_cases mdevice dmirror vmWrite alloc
        index slots mem with same | ⟨dpfn, rpfn, -, -, -, taken⟩
    · rw [same]
      exact held
    · rw [taken]
      simpa using held

namespace World

variable {world next : World Contents}

/-- The zero page is mapped read-only and is no page of anybody's own. -/
structure ZeroKept (world : World Contents) : Prop where
  readOnly : world.ZeroReadOnly
  unused : Page.zero ∉ world.mem.inUse

theorem ZeroKept.source (kept : world.ZeroKept) (owned : world.PagesOwned)
    {id pfn : Nat} {migration : Migration} {page : Page}
    (there : world.migrations id = some migration)
    (source : (migration.slots pfn).src.page = some page) : page ≠ .zero := by
  rintro rfl
  exact kept.unused (owned.exclusive.alive (.src id pfn) .zero
    ⟨migration, there, source⟩)

theorem ZeroKept.target (kept : world.ZeroKept) (owned : world.PagesOwned)
    {id pfn : Nat} {migration : Migration} {page : Page}
    (there : world.migrations id = some migration)
    (aimed : (migration.slots pfn).dst.page = some page) : page ≠ .zero := by
  rintro rfl
  cases source : (migration.slots pfn).src.page with
  | none =>
      have device := owned.hole id migration pfn .zero there source aimed
      cases device
  | some held =>
      apply kept.unused
      apply owned.exclusive.alive (.dst id pfn) .zero
      exact ⟨migration, there, aimed, by simp [Migration.inserted, source]⟩

theorem ZeroReadOnly.of_same (zero : world.ZeroReadOnly)
    (cpu : next.cpu = world.cpu) (snapshots : world.SnapshotsOld next)
    (old : world.EntriesOld next) : next.ZeroReadOnly :=
  zero.of_old (fun _ _ _ entry => .inl (cpu ▸ entry)) snapshots old

theorem ZeroReadOnly.notify (zero : world.ZeroReadOnly)
    (event : NotifierEvent) (owner : Option Nat) (mm first last : Nat) :
    (world.notify event owner mm first last).ZeroReadOnly :=
  zero.of_same rfl (.of_eq rfl)
    (Fewer.notify world event owner mm first last).entries

/-- The entry of one address changes to one that does not map the zero page
writable. -/
theorem ZeroReadOnly.setCpu (zero : world.ZeroReadOnly) {mm pfn : Nat}
    {pte : Pte}
    (safe : ∀ writable, pte = .present .zero writable → writable = false)
    (cpu : next.cpu = (world.setCpu mm pfn pte).cpu)
    (faults : next.faults = world.faults)
    (mirrors : next.dmirror = world.dmirror) : next.ZeroReadOnly := by
  refine zero.of_old ?_ (.of_eq faults) (Fewer.of_eq mirrors).entries
  intro mm' pfn' writable entry
  rw [cpu] at entry
  by_cases here : mm' = mm ∧ pfn' = pfn
  · obtain ⟨rfl, rfl⟩ := here
    simp only [World.setCpu, Function.update_self] at entry
    exact .inr (safe writable entry)
  · exact .inl ((setCpu_page mm pfn _ _ _ here).symm.trans entry)

theorem ZeroReadOnly.cpuChange (zero : world.ZeroReadOnly) {mm pfn : Nat}
    {change : CpuChange}
    (moved : world.cpuChange mm pfn change = some next) :
    next.ZeroReadOnly := by
  rcases cpuChange_done moved with ⟨_, _, -, -, rfl⟩ | ⟨_, _, -, -, rfl⟩ |
    ⟨page, _, writable', -, -, rfl⟩ | ⟨_, _, _, _, _, -, -, -, -, rfl⟩
  · exact zero.setCpu (fun _ same => by cases same) rfl rfl rfl
  · exact zero.setCpu (fun _ same => by cases same) rfl rfl rfl
  · refine zero.setCpu ?_ rfl rfl rfl
    intro writable same
    cases same
    simp
  · exact zero.setCpu (fun _ same => by cases same) rfl rfl rfl

theorem ZeroReadOnly.migrateSetup (zero : world.ZeroReadOnly)
    (id m mdevice mm : Nat) (flags : MigrateVmaDirection) (vmWrite : Bool)
    (count first : Nat) (collected : Nat → Bool) :
    (world.migrateSetup id m mdevice mm flags vmWrite count first
      collected).ZeroReadOnly := by
  refine zero.of_old ?_ (.of_eq rfl) (Fewer.notify world .migrate
    (some mdevice) mm first (first + count)).entries
  intro mm' pfn writable entry
  by_cases here : mm' = mm
  · subst here
    simp only [World.migrateSetup, setMigration,
      Function.update_self] at entry
    exact .inl (migrateVmaSetup_present entry)
  · simp only [World.migrateSetup, setMigration,
      Function.update_of_ne here] at entry
    exact .inl entry

theorem ZeroReadOnly.faultAllocAndCopy (zero : world.ZeroReadOnly)
    {id : Nat} {alloc : Nat → Option Nat}
    (moved : world.faultAllocAndCopy id alloc = some next) :
    next.ZeroReadOnly := by
  obtain ⟨migration, -, -, -, ⟨-, rfl⟩ | ⟨dmirror, after, present, copied,
    rfl⟩⟩ := faultAllocAndCopy_copied moved
  · exact zero.of_same rfl (.of_eq rfl) (Fewer.of_eq rfl).entries
  · have keeps := dmirrorDevmemFaultAllocAndCopy_keeps alloc
      migration.npages migration.first
      ⟨migration.slots, world.mem, dmirror.pt⟩
    rw [← copied] at keeps
    have fewer : world.Fewer (world.setPt migration.dmirror dmirror
        after.pt) := .setPt present fun pfn => (keeps pfn).2.1
    exact zero.of_same rfl (.of_eq rfl) fewer.entries

theorem ZeroReadOnly.remap (zero : world.ZeroReadOnly) {mm : Nat}
    {after : Nat → Pte} (mem : Memory Contents) (id : Nat)
    (migration : Option Migration)
    (safe : ∀ pfn writable, after pfn = .present .zero writable →
      world.cpu mm pfn = .present .zero writable) :
    (({ world with mem := mem }.remap mm after).setMigration id
      migration).ZeroReadOnly := by
  refine zero.of_old ?_ ?_ (Fewer.of_eq rfl).entries
  · intro mm' pfn writable entry
    by_cases here : mm' = mm
    · subst here
      simp only [setMigration, World.remap, Function.update_self] at entry
      exact .inl (safe pfn writable entry)
    · simp only [setMigration, World.remap,
        Function.update_of_ne here] at entry
      exact .inl entry
  · exact SnapshotsOld.remap mm after

theorem ZeroKept.pages (kept : world.ZeroKept) (owned : world.PagesOwned)
    {id : Nat} {migrated : Nat → Bool}
    (moved : world.pages id migrated = some next) : next.ZeroReadOnly := by
  obtain ⟨migration, after, there, -, rfl, rfl⟩ := pages_migrated moved
  apply kept.readOnly.remap world.mem
  intro pfn writable entry
  rcases (migrateVmaPages_at owned there migrated pfn).2.2 with
    ⟨stays, -⟩ | ⟨newpage, aimed, -, -, -, put⟩
  · exact stays.symm.trans entry
  · have same := put.symm.trans entry
    cases same
    exact absurd rfl (kept.target owned there aimed)

theorem ZeroKept.finalize (kept : world.ZeroKept) (owned : world.PagesOwned)
    {id : Nat} (moved : world.finalize id = some next) :
    next.ZeroReadOnly := by
  obtain ⟨migration, after, there, -, rfl, rfl⟩ := finalize_finished moved
  apply kept.readOnly.remap
  intro pfn writable entry
  rw [migrateVmaFinalize_pte] at entry
  split at entry
  · rcases finalizePte_present entry with old | source | target
    · exact old
    · exact absurd rfl (kept.source owned there source)
    · exact absurd rfl (kept.target owned there target)
  · exact entry

theorem ZeroReadOnly.exclusive (zero : world.ZeroReadOnly)
    {m count first : Nat} {pages : Nat → Option Page} {complete : Bool}
    {xaFails : Nat → Bool}
    (moved : world.exclusive m count first pages complete xaFails =
      some next) : next.ZeroReadOnly := by
  obtain ⟨dmirror, notified, -, -, rfl, ended⟩ := exclusive_mapped moved
  have told := notified_keeps ZeroReadOnly
    (fun _ mm pfn held => held.notify .exclusive none mm pfn (pfn + 1)) zero
    pages dmirror.mm count first
  rcases ended with rfl | ⟨after, present, rfl⟩
  · exact told
  · refine ⟨told.ptes, told.snapshots, ?_⟩
    intro n own pfn entry opened found named
    by_cases here : n = m
    · subst here
      simp only [World.setPt, Function.update_self,
        Option.some.injEq] at opened
      subst opened
      rcases dmirrorAtomicMap_entry found with old | ⟨-, -, -, atomic⟩
      · exact told.entries n after pfn entry present old named
      · rw [atomic]
        simp
    · simp only [World.setPt, Function.update_of_ne here] at opened
      exact told.entries n own pfn entry opened found named

theorem ZeroReadOnly.release (zero : world.ZeroReadOnly) {mdevice : Nat}
    {evictions : List (Nat × Nat × Nat)}
    (moved : world.release mdevice evictions = some next) :
    next.ZeroReadOnly := by
  refine release_keeps ZeroReadOnly ?_ zero moved
  rintro between after ⟨mm, pfn, frame⟩ held evicted
  obtain ⟨dpfn, writable, rpage, -, -, -, rfl⟩ := evictPage_evicted evicted
  have told := held.notify .clear none mm pfn (pfn + 1)
  exact told.setCpu (fun _ same => by cases same) rfl rfl rfl

theorem ZeroKept.readOnly_step [Zero Contents] (kept : world.ZeroKept)
    (tracked : world.MovesTracked) {input : Input Contents}
    (moved : world.step input = some next) : next.ZeroReadOnly := by
  have zero := kept.readOnly
  cases input with
  | openFile _ _ _ =>
      exact zero.of_same (SamePages.openFile moved).cpu
        (.of_eq (SameRequests.openFile moved).faults)
        (Fewer.openFile moved).entries
  | closeFile m =>
      have old := EntriesOld.closeFile moved
      obtain rfl := closeFile_closed moved
      exact zero.of_same rfl (.of_eq rfl) old
  | doWrite _ _ _ _ =>
      exact zero.of_same (SamePages.doWrite moved).cpu
        (.of_eq (SameRequests.doWrite moved).faults)
        (Fewer.doWrite moved).entries
  | readBegin id m count first write =>
      have fewer := Fewer.readBegin moved
      obtain ⟨_, -, -, -, rfl⟩ := readBegin_started moved
      refine zero.of_same rfl (.setFault id (some _) ?_) fewer.entries
      intro found started
      cases started
      rfl
  | hmmRangeFault id => exact zero.hmmRangeFault moved
  | abandonFault id =>
      obtain rfl := abandonFault_dropped moved
      exact zero.of_same rfl (.dropped id) (Fewer.of_eq rfl).entries
  | doFault id xaFails => exact zero.doFault moved
  | populate mm pfn frame writable =>
      obtain ⟨-, -, rfl⟩ := populate_mapped moved
      exact zero.setCpu (fun _ same => by cases same) rfl rfl rfl
  | populateZero mm pfn =>
      obtain ⟨-, rfl⟩ := populateZero_mapped moved
      refine zero.setCpu ?_ rfl rfl rfl
      intro writable same
      cases same
      rfl
  | invalidateStart event range =>
      have fewer := Fewer.invalidateStart moved
      obtain ⟨-, rfl⟩ := invalidateStart_told moved
      exact zero.of_same rfl (.of_eq rfl) fewer.entries
  | cpuChange mm pfn change => exact zero.cpuChange moved
  | invalidateEnd range =>
      obtain ⟨-, rfl⟩ := invalidateEnd_ended moved
      exact zero.of_same rfl (.of_eq rfl) (Fewer.of_eq rfl).entries
  | setup _ _ _ _ _ _ _ => exact zero.setup moved
  | cpuFault id mm pfn vmWrite collected =>
      obtain ⟨-, _, _, _, -, ⟨_, _, _, -, -, -, rfl⟩ | ⟨rfl, -⟩⟩ :=
        cpuFault_begun moved
      · exact zero.migrateSetup _ _ _ _ _ _ _ _ _
      · exact zero.of_same rfl (.of_eq rfl) (Fewer.of_eq rfl).entries
  | allocAndCopy id alloc =>
      obtain ⟨migration, after, -, -, -, -, rfl⟩ := allocAndCopy_copied moved
      exact zero.of_same rfl (.of_eq rfl) (Fewer.of_eq rfl).entries
  | faultAllocAndCopy id alloc => exact zero.faultAllocAndCopy moved
  | pages id migrated => exact kept.pages tracked.owned moved
  | finalizeAndMap id xaFails => exact zero.finalizeAndMap tracked moved
  | finalize id => exact kept.finalize tracked.owned moved
  | exclusive _ _ _ _ _ _ => exact zero.exclusive moved
  | release _ _ => exact zero.release moved

theorem ZeroKept.unused_step [Zero Contents] (kept : world.ZeroKept)
    (tracked : world.MovesTracked) {input : Input Contents}
    (moved : world.step input = some next) :
    Page.zero ∉ next.mem.inUse := by
  have same (pages : world.SamePages next) : Page.zero ∉ next.mem.inUse :=
    pages.inUse ▸ kept.unused
  have replaced (world : World Contents) (unused : Page.zero ∉ world.mem.inUse)
      (mm pfn frame : Nat) (page rpage : Page) (writable : Bool) : Page.zero ∉
      (world.replacePage mm pfn page rpage frame writable).mem.inUse := by
    intro inside
    have inside := putPage_inUse _ _ inside
    rcases Finset.mem_insert.mp inside with named | inside
    · cases named
    · exact unused inside
  cases input with
  | openFile _ _ _ => exact same (.openFile moved)
  | closeFile _ => exact same (.closeFile moved)
  | doWrite _ _ _ _ => exact same (.doWrite moved)
  | readBegin _ _ _ _ _ => exact same (.readBegin moved)
  | hmmRangeFault _ => exact same (.hmmRangeFault moved)
  | abandonFault _ => exact same (.abandonFault moved)
  | doFault _ _ => exact same (.doFault moved)
  | populate _ _ _ _ =>
      obtain ⟨-, -, rfl⟩ := populate_mapped moved
      simpa [World.setCpu] using kept.unused
  | populateZero _ _ =>
      obtain ⟨-, rfl⟩ := populateZero_mapped moved
      exact kept.unused
  | invalidateStart _ _ => exact same (.invalidateStart moved)
  | cpuChange mm pfn change =>
      rcases cpuChange_done moved with ⟨page, _, -, -, rfl⟩ |
        ⟨_, _, -, -, rfl⟩ | ⟨_, _, _, -, -, rfl⟩ |
        ⟨_, _, _, _, _, -, -, -, -, rfl⟩
      · exact fun inside => kept.unused (putPage_inUse world.mem page inside)
      · exact kept.unused
      · exact kept.unused
      · exact replaced world kept.unused _ _ _ _ _ _
  | invalidateEnd _ => exact same (.invalidateEnd moved)
  | setup _ _ _ _ _ _ _ =>
      obtain ⟨_, -, -, rfl⟩ := setup_begun moved
      exact kept.unused
  | cpuFault _ _ _ _ _ =>
      obtain ⟨-, _, _, _, -, ⟨_, _, _, -, -, -, rfl⟩ | ⟨rfl, -⟩⟩ :=
        cpuFault_begun moved
      · exact kept.unused
      · exact kept.unused
  | allocAndCopy id alloc =>
      obtain ⟨migration, after, -, -, -, rfl, rfl⟩ :=
        allocAndCopy_copied moved
      exact dmirrorMigrateAllocAndCopy_unused _ _ _ _ _ _
        (migration.slots, world.mem) kept.unused
  | faultAllocAndCopy id alloc =>
      obtain ⟨migration, there, -, -, ⟨-, rfl⟩ | ⟨dmirror, after, -, rfl,
        rfl⟩⟩ := faultAllocAndCopy_copied moved
      · exact kept.unused
      · exact (tracked.faultCopied there alloc dmirror.pt).plain
          kept.unused
  | pages _ _ =>
      obtain ⟨migration, after, -, -, -, rfl⟩ := pages_migrated moved
      exact kept.unused
  | finalizeAndMap _ _ =>
      obtain ⟨migration, -, -, -, ⟨-, rfl⟩ | ⟨dmirror, pt, -, -, rfl⟩⟩ :=
        finalizeAndMap_mapped moved
      · exact kept.unused
      · exact kept.unused
  | finalize _ =>
      obtain ⟨migration, after, -, -, rfl, rfl⟩ := finalize_finished moved
      exact fun inside => kept.unused (migrateVmaFinalize_inUse _ _ _ _ inside)
  | exclusive _ _ _ _ _ _ => exact same (.exclusive moved)
  | release _ _ =>
      refine release_keeps (fun between => Page.zero ∉ between.mem.inUse) ?_
        kept.unused moved
      rintro between after ⟨mm, pfn, frame⟩ unused evicted
      obtain ⟨_, _, _, -, -, -, rfl⟩ := evictPage_evicted evicted
      exact replaced (between.notify .clear none mm pfn (pfn + 1)) unused
        _ _ _ _ _ _

theorem ZeroKept.step [Zero Contents] (kept : world.ZeroKept)
    (tracked : world.MovesTracked) {input : Input Contents}
    (moved : world.step input = some next) : next.ZeroKept :=
  ⟨kept.readOnly_step tracked moved, kept.unused_step tracked moved⟩

end World

end Rshm.Hmm
