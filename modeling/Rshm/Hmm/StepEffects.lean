import Rshm.Hmm.World

/-!
# What a step leaves behind

Each step of the machine that is taken, read backwards: what held before it,
and the state it has produced.
-/

namespace Rshm.Hmm

open RangeLoop

variable {Contents : Type}

namespace World

variable {world next : World Contents}

theorem openFile_opened {m mdevice mm : Nat}
    (moved : world.openFile m mdevice mm = some next) :
    world.dmirror m = none ∧ world.released m = false ∧
      next = { world with
        dmirror := Function.update world.dmirror m
          (some ⟨mdevice, mm, fun _ => none, 0⟩) } := by
  obtain ⟨free, equal⟩ := Option.ite_none_left_eq_some.mp moved
  cases equal
  simp only [Bool.or_eq_true, not_or, Bool.not_eq_true] at free
  exact ⟨Option.isNone_iff_eq_none.mp (by simpa using free.1), free.2, rfl⟩

theorem closeFile_closed {m : Nat}
    (moved : world.closeFile m = some next) :
    next = { world with
      dmirror := Function.update world.dmirror m none
      released := Function.update world.released m true } := by
  obtain ⟨_, equal⟩ := Option.ite_none_right_eq_some.mp moved
  cases equal
  rfl

theorem readBegin_started {id m count first : Nat} {write : Bool}
    (moved : world.readBegin id m count first write = some next) :
    ∃ dmirror, world.dmirror m = some dmirror ∧ world.faults id = none ∧
      (∀ range ∈ world.invalidations, range.mm ≠ dmirror.mm) ∧
      next = world.setFault id (some
        { dmirror := m
          mm := dmirror.mm
          first := first
          npages := count
          write := write
          notifierSeq := dmirror.invalidateSeq
          hmmPfns := none
          moved := fun _ => false }) := by
  unfold World.readBegin at moved
  split at moved
  · cases moved
  · next dmirror present =>
    obtain ⟨free, equal⟩ := Option.ite_none_left_eq_some.mp moved
    cases equal
    simp only [Bool.or_eq_true, not_or, Bool.not_eq_true,
      Option.isSome_eq_false_iff, Option.isNone_iff_eq_none,
      List.any_eq_false, beq_iff_eq] at free
    exact ⟨dmirror, present, free.1, free.2, rfl⟩

theorem hmmRangeFault_taken {id : Nat}
    (moved : world.hmmRangeFault id = some next) :
    ∃ fault dmirror, world.faults id = some fault ∧
      world.dmirror fault.dmirror = some dmirror ∧
      (∀ pfn, fault.first ≤ pfn → pfn < fault.first + fault.npages →
        hmmFaultable dmirror.mdevice fault.write
          (world.cpu fault.mm pfn) = true) ∧
      next = world.setFault id (some
        { fault with
          hmmPfns := some fun pfn => hmmPfnOf (world.cpu fault.mm pfn)
          moved := fun _ => false }) := by
  unfold World.hmmRangeFault at moved
  split at moved
  · cases moved
  · next fault started =>
    split at moved
    · cases moved
    · next dmirror present =>
      obtain ⟨ready, equal⟩ := Option.ite_none_right_eq_some.mp moved
      cases equal
      simp only [Bool.and_eq_true, List.all_eq_true,
        List.mem_range] at ready
      refine ⟨fault, dmirror, started, present, ?_, rfl⟩
      intro pfn lower upper
      have faultable := ready.2 (pfn - fault.first) (by omega)
      rwa [show fault.first + (pfn - fault.first) = pfn by omega]
        at faultable

theorem abandonFault_dropped {id : Nat}
    (moved : world.abandonFault id = some next) :
    next = world.setFault id none := by
  obtain ⟨_, equal⟩ := Option.ite_none_right_eq_some.mp moved
  cases equal
  rfl

theorem doFault_stored {id : Nat} {xaFails : Nat → Bool}
    (moved : world.doFault id xaFails = some next) :
    (∃ fault, world.faults id = some fault ∧
      next = world.setFault id none) ∨
    ∃ fault dmirror hmmPfns pt, world.faults id = some fault ∧
      world.dmirror fault.dmirror = some dmirror ∧
      fault.hmmPfns = some hmmPfns ∧
      dmirror.invalidateSeq = fault.notifierSeq ∧
      pt = (dmirrorDoFault fault.write hmmPfns xaFails fault.npages
        fault.first dmirror.pt).1 ∧
      next = (world.setPt fault.dmirror dmirror pt).setFault id none := by
  unfold World.doFault at moved
  split at moved
  · cases moved
  · next fault started =>
    split at moved
    · next dmirror hmmPfns present taken =>
      split at moved
      · cases moved
        exact .inl ⟨fault, started, rfl⟩
      · next current =>
        cases moved
        exact .inr ⟨fault, dmirror, hmmPfns, _, started, present, taken,
          not_not.mp current, rfl, rfl⟩
    · cases moved

theorem populate_mapped [Zero Contents] {mm pfn frame : Nat}
    {writable : Bool}
    (moved : world.populate mm pfn frame writable = some next) :
    world.cpu mm pfn = .none ∧ Page.normal frame ∉ world.mem.inUse ∧
      next = { world with
        mem :=
          { contents := Function.update world.mem.contents
              (Page.normal frame) 0
            zoneDeviceData := world.mem.zoneDeviceData
            inUse := insert (Page.normal frame) world.mem.inUse }
        }.setCpu mm pfn (.present (.normal frame) writable) := by
  obtain ⟨unmapped, equal⟩ := Option.ite_none_right_eq_some.mp moved
  by_cases taken : Page.normal frame ∈ world.mem.inUse
  · rw [Memory.allocPage, if_pos taken] at equal
    cases equal
  · rw [Memory.allocPage, if_neg taken] at equal
    cases equal
    exact ⟨unmapped, taken, rfl⟩

theorem populateZero_mapped {mm pfn : Nat}
    (moved : world.populateZero mm pfn = some next) :
    world.cpu mm pfn = .none ∧
      next = world.setCpu mm pfn (.present .zero false) := by
  obtain ⟨unmapped, equal⟩ := Option.ite_none_right_eq_some.mp moved
  cases equal
  exact ⟨unmapped, rfl⟩

theorem invalidateStart_told {event : NotifierEvent} {range : Invalidation}
    (moved : world.invalidateStart event range = some next) :
    event ≠ .migrate ∧
      next = { world.notify event none range.mm range.first range.last with
        invalidations := range :: world.invalidations } := by
  obtain ⟨foreign, equal⟩ := Option.ite_none_left_eq_some.mp moved
  cases equal
  exact ⟨foreign, rfl⟩

theorem invalidateEnd_ended {range : Invalidation}
    (moved : world.invalidateEnd range = some next) :
    range ∈ world.invalidations ∧ next = { world with
      invalidations := world.invalidations.erase range } := by
  obtain ⟨there, equal⟩ := Option.ite_none_right_eq_some.mp moved
  cases equal
  exact ⟨there, rfl⟩

/-- The page that a page table entry is copied to replaces its page. -/
def replacePage (world : World Contents) (mm pfn : Nat) (page rpage : Page)
    (frame : Nat) (writable : Bool) : World Contents :=
  { world with
    mem := Memory.putPage
      { contents := Function.update world.mem.contents (Page.normal frame)
          (world.mem.contents rpage)
        zoneDeviceData := world.mem.zoneDeviceData
        inUse := insert (Page.normal frame) world.mem.inUse } page
  }.setCpu mm pfn (.present (.normal frame) writable)

/-- A process changes its page table in a range that is being
invalidated. -/
theorem cpuChange_made {mm pfn : Nat} {change : CpuChange}
    (moved : world.cpuChange mm pfn change = some next) :
    (∃ range ∈ world.invalidations, range.mm = mm ∧ range.first ≤ pfn ∧
      pfn < range.last) ∧
    ((∃ page writable, world.cpu mm pfn = .present page writable ∧
        next = { world with mem := world.mem.putPage page }.setCpu mm pfn
          .none) ∨
      (∃ page writable, world.cpu mm pfn = .migration page writable ∧
        next = world.setCpu mm pfn .none) ∨
      (∃ page writable writable',
        world.cpu mm pfn = .present page writable ∧
        next = world.setCpu mm pfn (.present page writable')) ∨
      ∃ page writable rpage frame writable',
        world.cpu mm pfn = .present page writable ∧
        world.mem.backingPage page = some rpage ∧
        Page.normal frame ∉ world.mem.inUse ∧
        next = world.replacePage mm pfn page rpage frame writable') := by
  obtain ⟨active, equal⟩ := Option.ite_none_right_eq_some.mp moved
  simp only [List.any_eq_true, Bool.and_eq_true, beq_iff_eq,
    decide_eq_true_eq] at active
  obtain ⟨range, there, ⟨process, lower⟩, upper⟩ := active
  refine ⟨⟨range, there, process, lower, upper⟩, ?_⟩
  split at equal
  · next page writable entry =>
    cases equal
    exact .inl ⟨page, writable, entry, rfl⟩
  · next page writable entry =>
    cases equal
    exact .inr (.inl ⟨page, writable, entry, rfl⟩)
  · next page writable writable' entry =>
    cases equal
    exact .inr (.inr (.inl ⟨page, writable, _, entry, rfl⟩))
  · next page writable frame writable' entry =>
    split at equal
    · next rpage target mem backing allocated =>
      obtain ⟨found, rfl, unused, grown, same⟩ :=
        Memory.allocPage_some (congrArg Prod.fst allocated)
      cases same
      obtain ⟨-, rfl⟩ := Prod.mk.inj (allocated.symm.trans grown)
      cases equal
      exact .inr (.inr (.inr ⟨page, writable, rpage, frame, writable', entry,
        backing, unused, rfl⟩))
    · cases equal
  · cases equal

theorem setup_begun {id m : Nat} {flags : MigrateVmaDirection}
    {vmWrite : Bool} {count first : Nat} {collected : Nat → Bool}
    (moved : world.setup id m flags vmWrite count first collected =
      some next) :
    ∃ dmirror, world.dmirror m = some dmirror ∧
      world.migrations id = none ∧
      next = world.migrateSetup id m dmirror.mdevice dmirror.mm flags vmWrite
        count first collected := by
  unfold World.setup at moved
  split at moved
  · next dmirror present unused =>
    cases moved
    exact ⟨dmirror, present, unused, rfl⟩
  · cases moved

/-- A CPU fault finds the mirror of the backing page, or a pointer to
something that is gone. -/
theorem cpuFault_begun {id mm pfn : Nat} {vmWrite collected : Bool}
    (moved : world.cpuFault id mm pfn vmWrite collected = some next) :
    world.migrations id = none ∧ ∃ mdevice dpfn writable,
      world.cpu mm pfn =
        .present (.devicePrivate mdevice dpfn) writable ∧
      ((∃ rpage m dmirror,
        world.mem.zoneDeviceData (.devicePrivate mdevice dpfn) =
          .page rpage ∧
        world.mem.zoneDeviceData rpage = .dmirror m ∧
        world.dmirror m = some dmirror ∧
        next = world.migrateSetup id m dmirror.mdevice mm
          .selectDevicePrivate vmWrite 1 pfn fun _ => collected) ∨
      next = { world with useAfterFree := true } ∧
        ∀ rpage m, world.mem.zoneDeviceData (.devicePrivate mdevice dpfn) =
            .page rpage →
          world.mem.zoneDeviceData rpage = .dmirror m →
            world.dmirror m = none) := by
  unfold World.cpuFault at moved
  split at moved
  · next mdevice dpfn writable entry unused =>
    refine ⟨unused, mdevice, dpfn, writable, entry, ?_⟩
    split at moved
    · next rpage link =>
      split at moved
      · next m named =>
        split at moved
        · next dmirror present =>
          cases moved
          exact .inl ⟨rpage, m, dmirror, link, named, present, rfl⟩
        · next absent =>
          cases moved
          refine .inr ⟨rfl, ?_⟩
          intro rpage' m' link' named'
          cases link.symm.trans link'
          cases named.symm.trans named'
          exact absent
      · next other =>
        cases moved
        refine .inr ⟨rfl, ?_⟩
        intro rpage' m' link' named'
        cases link.symm.trans link'
        exact absurd named' (other m')
    · next other =>
      cases moved
      refine .inr ⟨rfl, ?_⟩
      intro rpage' m' link'
      exact absurd link' (other rpage')
  · cases moved

theorem allocAndCopy_copied [Zero Contents] {id : Nat}
    {alloc : Nat → Option (Nat × Nat)}
    (moved : world.allocAndCopy id alloc = some next) :
    ∃ migration after, world.migrations id = some migration ∧
      migration.flags = .selectSystem ∧ migration.stage = .setup ∧
      after = dmirrorMigrateAllocAndCopy migration.pgmapOwner
        migration.dmirror migration.vmWrite alloc migration.npages
        migration.first (migration.slots, world.mem) ∧
      next = { world with mem := after.2 }.setMigration id (some
        { migration with slots := after.1, stage := .copied }) := by
  unfold World.allocAndCopy at moved
  split at moved
  · cases moved
  · next migration there =>
    obtain ⟨⟨toDevice, stage⟩, equal⟩ :=
      Option.ite_none_right_eq_some.mp moved
    cases equal
    exact ⟨migration, _, there, toDevice, stage, rfl, rfl⟩

theorem faultAllocAndCopy_copied {id : Nat} {alloc : Nat → Option Nat}
    (moved : world.faultAllocAndCopy id alloc = some next) :
    ∃ migration, world.migrations id = some migration ∧
      migration.flags = .selectDevicePrivate ∧ migration.stage = .setup ∧
      (world.dmirror migration.dmirror = none ∧
          next = { world with useAfterFree := true } ∨
        ∃ dmirror after, world.dmirror migration.dmirror = some dmirror ∧
          after = dmirrorDevmemFaultAllocAndCopy alloc migration.npages
            migration.first ⟨migration.slots, world.mem, dmirror.pt⟩ ∧
          next = ({ world with mem := after.mem }.setPt migration.dmirror
            dmirror after.pt).setMigration id (some
              { migration with slots := after.slots, stage := .copied })) := by
  unfold World.faultAllocAndCopy at moved
  split at moved
  · cases moved
  · next migration there =>
    obtain ⟨⟨back, stage⟩, equal⟩ :=
      Option.ite_none_right_eq_some.mp moved
    refine ⟨migration, there, back, stage, ?_⟩
    split at equal
    · next absent =>
      cases equal
      exact .inl ⟨absent, rfl⟩
    · next dmirror present =>
      cases equal
      exact .inr ⟨dmirror, _, present, rfl, rfl⟩

theorem pages_migrated {id : Nat} {migrated : Nat → Bool}
    (moved : world.pages id migrated = some next) :
    ∃ migration after, world.migrations id = some migration ∧
      migration.stage = .copied ∧
      after = migrateVmaPages migration.vmWrite migrated migration.npages
        migration.first (world.cpu migration.mm, migration.slots) ∧
      next = (world.remap migration.mm after.1).setMigration id (some
        { migration with slots := after.2, stage := .migrated }) := by
  unfold World.pages at moved
  split at moved
  · cases moved
  · next migration there =>
    obtain ⟨stage, equal⟩ := Option.ite_none_right_eq_some.mp moved
    cases equal
    exact ⟨migration, _, there, stage, rfl, rfl⟩

theorem finalizeAndMap_mapped {id : Nat} {xaFails : Nat → Bool}
    (moved : world.finalizeAndMap id xaFails = some next) :
    ∃ migration, world.migrations id = some migration ∧
      migration.flags = .selectSystem ∧ migration.stage = .migrated ∧
      (world.dmirror migration.dmirror = none ∧
          next = { world with useAfterFree := true } ∨
        ∃ dmirror pt, world.dmirror migration.dmirror = some dmirror ∧
          pt = (dmirrorMigrateFinalizeAndMap world.mem migration.slots
            xaFails migration.npages migration.first dmirror.pt).1 ∧
          next = (world.setPt migration.dmirror dmirror pt).setMigration id
            (some { migration with stage := .mapped })) := by
  unfold World.finalizeAndMap at moved
  split at moved
  · cases moved
  · next migration there =>
    obtain ⟨⟨toDevice, stage⟩, equal⟩ :=
      Option.ite_none_right_eq_some.mp moved
    refine ⟨migration, there, toDevice, stage, ?_⟩
    split at equal
    · next absent =>
      cases equal
      exact .inl ⟨absent, rfl⟩
    · next dmirror present =>
      cases equal
      exact .inr ⟨dmirror, _, present, rfl, rfl⟩

theorem finalize_finished {id : Nat}
    (moved : world.finalize id = some next) :
    ∃ migration after, world.migrations id = some migration ∧
      Migration.finished migration = true ∧
      after = migrateVmaFinalize migration.slots migration.npages
        migration.first (world.cpu migration.mm, world.mem) ∧
      next = ({ world with mem := after.2 }.remap migration.mm
        after.1).setMigration id none := by
  unfold World.finalize at moved
  split at moved
  · cases moved
  · next migration there =>
    obtain ⟨finished, equal⟩ := Option.ite_none_right_eq_some.mp moved
    cases equal
    exact ⟨migration, _, there, finished, rfl, rfl⟩

/-- The notifications of `make_device_exclusive_range`, and the update of the
mirror when all pages were found. -/
theorem exclusive_mapped {m count first : Nat} {pages : Nat → Option Page}
    {complete : Bool} {xaFails : Nat → Bool}
    (moved : world.exclusive m count first pages complete xaFails =
      some next) :
    ∃ dmirror notified, world.dmirror m = some dmirror ∧
      (∀ pfn page, first ≤ pfn → pfn < first + count →
        pages pfn = some page →
          world.cpu dmirror.mm pfn = .present page true ∧
            page.isZoneDevicePage = false ∧ page ≠ .zero) ∧
      notified = forEach
        (fun pfn (world : World Contents) =>
          if (pages pfn).isSome then
            world.notify .exclusive none dmirror.mm pfn (pfn + 1)
          else world)
        count first world ∧
      (next = notified ∨
        ∃ after, notified.dmirror m = some after ∧
          next = notified.setPt m after
            (dmirrorAtomicMap pages xaFails count first after.pt).1) := by
  unfold World.exclusive at moved
  split at moved
  · cases moved
  · next dmirror present =>
    obtain ⟨ready, equal⟩ := Option.ite_none_right_eq_some.mp moved
    refine ⟨dmirror, _, present, ?_, rfl, ?_⟩
    · intro pfn page lower upper found
      rw [List.all_eq_true] at ready
      have here := ready (pfn - first) (List.mem_range.mpr (by omega))
      rw [show first + (pfn - first) = pfn by omega, found] at here
      simpa [and_assoc] using here
    · dsimp only at equal
      split at equal
      · obtain ⟨after, mapped, same⟩ := Option.map_eq_some_iff.mp equal
        exact .inr ⟨after, mapped, same.symm⟩
      · cases equal
        exact .inl rfl

/-- What a notification keeps holds after those of
`make_device_exclusive_range`. -/
theorem notified_keeps (holds : World Contents → Prop)
    (notify : ∀ between mm pfn, holds between →
      holds (between.notify .exclusive none mm pfn (pfn + 1)))
    (start : holds world) (pages : Nat → Option Page) (mm count first : Nat) :
    holds (forEach
      (fun pfn (world : World Contents) =>
        if (pages pfn).isSome then
          world.notify .exclusive none mm pfn (pfn + 1)
        else world)
      count first world) := by
  apply forEach_keeps holds
  · exact start
  · intro pfn between _ _ held
    split
    · exact notify between mm pfn held
    · exact held

/-- What a notification and an update of the mirror keep holds after a window
of EXCLUSIVE. -/
theorem exclusive_keeps (holds : World Contents → Prop)
    (notify : ∀ between mm pfn, holds between →
      holds (between.notify .exclusive none mm pfn (pfn + 1)))
    (update : ∀ between m dmirror pt, holds between →
      between.dmirror m = some dmirror → holds (between.setPt m dmirror pt))
    (start : holds world) {m count first : Nat} {pages : Nat → Option Page}
    {complete : Bool} {xaFails : Nat → Bool}
    (moved : world.exclusive m count first pages complete xaFails =
      some next) : holds next := by
  obtain ⟨dmirror, notified, -, -, rfl, ended⟩ := exclusive_mapped moved
  have reached :=
    notified_keeps holds notify start pages dmirror.mm count first
  rcases ended with rfl | ⟨after, present, rfl⟩
  · exact reached
  · exact update _ m after _ reached present

theorem evictPage_evicted {mdevice mm pfn frame : Nat}
    (moved : world.evictPage mdevice (mm, pfn, frame) = some next) :
    ∃ dpfn writable rpage,
      world.cpu mm pfn =
        .present (.devicePrivate mdevice dpfn) writable ∧
      world.mem.backingPage (.devicePrivate mdevice dpfn) = some rpage ∧
      Page.normal frame ∉ world.mem.inUse ∧
      next = (world.notify .clear none mm pfn (pfn + 1)).replacePage mm pfn
        (.devicePrivate mdevice dpfn) rpage frame writable := by
  unfold World.evictPage at moved
  dsimp only at moved
  split at moved
  · next owner dpfn writable entry =>
    obtain ⟨own, equal⟩ := Option.ite_none_right_eq_some.mp moved
    subst own
    split at equal
    · next rpage target mem backing allocated =>
      obtain ⟨found, rfl, unused, grown, same⟩ :=
        Memory.allocPage_some (congrArg Prod.fst allocated)
      cases same
      obtain ⟨-, rfl⟩ := Prod.mk.inj (allocated.symm.trans grown)
      cases equal
      exact ⟨dpfn, writable, rpage, entry, backing, unused, rfl⟩
    · cases equal
  · cases moved

theorem release_keeps (holds : World Contents → Prop) {mdevice : Nat}
    (evict : ∀ between after eviction, holds between →
      between.evictPage mdevice eviction = some after → holds after)
    (start : holds world) {evictions : List (Nat × Nat × Nat)}
    (moved : world.release mdevice evictions = some next) : holds next := by
  have evicted : ∀ evictions (world : World Contents), holds world →
      world.evictPages mdevice evictions = some next → holds next := by
    intro evictions
    induction evictions with
    | nil =>
        intro world start ended
        cases ended
        exact start
    | cons eviction evictions induction =>
        intro world start moved
        rw [World.evictPages] at moved
        split at moved
        · cases moved
        · next between one =>
          exact induction between (evict world between eviction start one)
            moved
  unfold World.release at moved
  split at moved
  · cases moved
  · next after removed =>
    obtain ⟨_, equal⟩ := Option.ite_none_left_eq_some.mp moved
    cases equal
    exact evicted evictions world start removed

end World

end Rshm.Hmm
