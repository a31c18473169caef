import Rshm.Hmm.ProcessMemory

/-!
# Migrations keep the memory of a process

One lemma for each step that moves pages or writes to them.  The copies are
made while the process cannot write to the pages, and `migrate_vma_pages`
fills an empty address only when the process has not filled it since.
-/

namespace Rshm.Hmm

open RangeLoop

variable {Contents : Type}

namespace World

variable {world next : World Contents} [Zero Contents]
  {memory : ProcessMemory Contents}

theorem Presents.advanceUnlanded (presents : world.Presents memory)
    (tracked : world.MovesTracked) {id : Nat} {after : Migration}
    (migrations : next.migrations =
      Function.update world.migrations id (some after))
    (unlanded : ∀ found, world.migrations id = some found → ∀ pfn,
      found.landed pfn = false)
    (later : ∀ pfn, after.landed pfn = false)
    (pages : ∀ mm pfn, (next.cpu mm pfn).page = (world.cpu mm pfn).page)
    (kept : ∀ page, page = .zero ∨ page ∈ world.mem.inUse →
      next.mem.contents page = world.mem.contents page)
    (links : ∀ held, held ∈ world.mem.inUse ∨ held = .zero →
      next.mem.backingPage held = world.mem.backingPage held)
    (carries : next.Carries memory after) : next.Presents memory := by
  refine presents.advance tracked.owned ?_ kept links ?_ ?_
  · intro mm pfn page data
    refine .inl (data.before tracked (pages mm pfn) links
      (landed_iff migrations ?_ ?_))
    · intro found there _
      exact unlanded found there pfn
    · intro found same _
      cases same
      exact later pfn
  · intro other found known
    rw [migrations] at known
    rcases Owned.update_cases known with ⟨-, rfl⟩ | ⟨-, old⟩
    · exact .inr carries
    · exact .inl old
  · intro mm pfn unmapped
    have same := pages mm pfn
    rw [unmapped] at same
    cases entry : world.cpu mm pfn with
    | none => rfl
    | present held writable =>
        rw [entry] at same
        cases same
    | migration held writable =>
        rw [entry] at same
        cases same

theorem Presents.migrateSetup (presents : world.Presents memory)
    (tracked : world.MovesTracked) {id : Nat}
    (unused : world.migrations id = none) (m mdevice mm : Nat)
    (flags : MigrateVmaDirection) (vmWrite : Bool) (count first : Nat)
    (collected : Nat → Bool) :
    (world.migrateSetup id m mdevice mm flags vmWrite count first
      collected).Presents memory := by
  refine presents.advanceUnlanded tracked rfl ?_ ?_ ?_ (fun _ _ => rfl)
    (fun _ _ => rfl) (.of_stage (.inl rfl))
  · intro found there
    rw [unused] at there
    cases there
  · intro pfn
    simp [Migration.landed]
  · intro mm' pfn
    by_cases here : mm' = mm
    · subst here
      simp only [World.migrateSetup, setMigration, Function.update_self]
      exact migrateVmaSetup_page _ _ _ _ _ _ _
    · simp [World.migrateSetup, setMigration, Function.update_of_ne here]

/-- The source of a migration that has not migrated it yet is where the data
of its address is. -/
theorem Presents.source (presents : world.Presents memory)
    (tracked : world.MovesTracked) {id pfn : Nat} {migration : Migration}
    {held page : Page} (there : world.migrations id = some migration)
    (unlanded : migration.landed pfn = false)
    (source : (migration.slots pfn).src.page = some held)
    (backing : world.mem.backingPage held = some page) :
    world.mem.contents page = memory migration.mm pfn := by
  obtain ⟨writable, locked⟩ :=
    tracked.owned.unmapped id migration pfn held there source
  refine presents.data migration.mm pfn page
    (.settled held ?_ (by rw [locked]; rfl) backing)
  intro other found known process
  cases landed : found.landed pfn with
  | false => rfl
  | true =>
      obtain rfl := Owned.source_unlanded tracked.owned there known process
        source landed
      obtain rfl := Option.some.inj (there.symm.trans known)
      rw [unlanded] at landed
      cases landed

/-- `dmirror_migrate_alloc_and_copy` copies the memory of the process. -/
theorem Presents.allocAndCopy (presents : world.Presents memory)
    (tracked : world.MovesTracked) {id : Nat}
    {alloc : Nat → Option (Nat × Nat)}
    (moved : world.allocAndCopy id alloc = some next) :
    next.Presents memory := by
  obtain ⟨migration, after, there, toDevice, stage, copied, rfl⟩ :=
    allocAndCopy_copied moved
  have used : ∀ pfn page, (migration.slots pfn).src.page = some page →
      page ∈ world.mem.inUse := by
    intro pfn page source
    exact tracked.owned.exclusive.alive (.src id pfn) page
      ⟨migration, there, source⟩
  have grown : world.mem.Extends after.2 := by
    rw [copied]
    exact dmirrorMigrateAllocAndCopy_extends migration.npages migration.first
      (migration.slots, world.mem)
  have zeroes : after.2.contents .zero = world.mem.contents .zero := by
    rw [copied]
    exact dmirrorMigrateAllocAndCopy_zero _ _ _ _ _ _ _
  have unlanded (pfn : Nat) : migration.landed pfn = false := by
    simp [Migration.landed, stage]
  refine presents.advanceUnlanded tracked rfl ?_ ?_ (fun _ _ => rfl) ?_ ?_
    ⟨?_, ?_⟩
  · intro found known pfn
    rw [there, Option.some.injEq] at known
    exact known ▸ unlanded pfn
  · intro pfn
    simp [Migration.landed]
  · rintro page (rfl | inside)
    · exact zeroes
    · exact grown.contents page inside
  · rintro held (inside | rfl)
    · exact grown.backingPage inside
    · rfl
  · intro _ migrated
    cases migrated
  · intro _ pfn target page aimed backing
    have aimed : (after.1 pfn).dst.page = some target := aimed
    have backing : after.2.backingPage target = some page := backing
    change after.2.contents page =
      if (after.1 pfn).src.page.isSome then memory migration.mm pfn else 0
    have slots := dmirrorMigrateAllocAndCopy_cases migration.pgmapOwner
      migration.dmirror migration.vmWrite alloc migration.npages
      migration.first used pfn
    rw [← copied] at slots
    rcases slots with same | ⟨source, dpfn, rpfn, made⟩
    · rw [same, tracked.apart.untargeted id migration pfn there stage]
        at aimed
      cases aimed
    · rw [made.dst, Option.some.injEq] at aimed
      subst aimed
      rw [made.backing, Option.some.injEq] at backing
      subst backing
      rw [made.bytes, source]
      cases held : (migration.slots pfn).src.page with
      | none => rfl
      | some spage =>
          have kind := (tracked.apart.system id migration pfn spage there
            toDevice held).2
          exact presents.source tracked there (unlanded pfn) held
            (by simp [Memory.backingPage, kind])

/-- `dmirror_devmem_fault_alloc_and_copy` copies it back. -/
theorem Presents.faultAllocAndCopy (presents : world.Presents memory)
    (tracked : world.MovesTracked) {id : Nat} {alloc : Nat → Option Nat}
    (moved : world.faultAllocAndCopy id alloc = some next) :
    next.Presents memory := by
  obtain ⟨migration, there, back, stage, ⟨-, rfl⟩ |
    ⟨dmirror, after, present, copied, rfl⟩⟩ := faultAllocAndCopy_copied moved
  · exact presents.of_same tracked ⟨rfl, rfl, rfl, rfl⟩ rfl
  · have unlanded (pfn : Nat) : migration.landed pfn = false := by
      simp [Migration.landed, stage]
    have loop := tracked.faultCopied there alloc dmirror.pt
    rw [← copied] at loop
    refine presents.advanceUnlanded tracked rfl ?_ ?_ (fun _ _ => rfl) ?_ ?_
      ⟨?_, ?_⟩
    · intro found known pfn
      have known : world.migrations id = some found := known
      rw [there, Option.some.injEq] at known
      exact known ▸ unlanded pfn
    · intro pfn
      simp [Migration.landed]
    · rintro page (rfl | inside)
      · exact loop.zero
      · exact loop.grown.contents page inside
    · intro held _
      change after.mem.backingPage held = world.mem.backingPage held
      simp only [Memory.backingPage, loop.links]
    · intro _ migrated
      cases migrated
    · intro _ pfn target page aimed backing
      have aimed : (after.slots pfn).dst.page = some target := aimed
      have backing : after.mem.backingPage target = some page := backing
      change after.mem.contents page =
        if (after.slots pfn).src.page.isSome then memory migration.mm pfn
        else 0
      obtain ⟨source, same | ⟨spage, rpage, frame, made⟩⟩ := loop.slots pfn
      · rw [same, tracked.apart.untargeted id migration pfn there stage]
          at aimed
        cases aimed
      · rw [made.dst, Option.some.injEq] at aimed
        subst aimed
        cases backing
        rw [source, made.source, made.bytes]
        exact presents.source tracked there (unlanded pfn) made.source
          made.backing

/-- `migrate_vma_pages` gives an address the copy of its data. -/
theorem Presents.pages (presents : world.Presents memory)
    (tracked : world.MovesTracked) {id : Nat} {migrated : Nat → Bool}
    (moved : world.pages id migrated = some next) : next.Presents memory := by
  have owned : world.PagesOwned := tracked.owned
  obtain ⟨migration, outcome, there, stage, made, rfl⟩ :=
    pages_migrated moved
  have at_ := migrateVmaPages_at owned there migrated
  rw [← made] at at_
  let later : Migration :=
    { migration with slots := outcome.2, stage := .migrated }
  have changed : ((world.remap migration.mm outcome.1).setMigration id
      (some later)).migrations id = some later := Function.update_self ..
  have landed_moved (pfn : Nat) : later.landed pfn = (outcome.2 pfn).moved :=
    by simp [later, Migration.landed]
  have uncopied (pfn : Nat) : migration.landed pfn = false := by
    simp [Migration.landed, stage]
  -- An empty address that is filled has zeroes.
  have zeroes {pfn : Nat}
      (free : (world.cpu migration.mm pfn).insertable = true) :
      memory migration.mm pfn = 0 := by
    cases entry : world.cpu migration.mm pfn with
    | none => exact presents.empty migration.mm pfn entry
    | migration held writable =>
        rw [entry] at free
        cases free
    | present held writable =>
        rw [entry] at free
        cases held with
        | zero =>
            rw [← presents.data migration.mm pfn .zero
              (tracked.present_data entry rfl)]
            exact presents.zero
        | _ => cases free
  refine presents.advance owned ?_ (fun _ _ => rfl) (fun _ _ => rfl) ?_ ?_
  · intro mm pfn page data
    cases data with
    | settled held still mapped backing =>
        refine .inl (.settled held ?_ ?_ backing)
        · intro other found known process
          by_cases here : other = id
          · subst here
            rw [there, Option.some.injEq] at known
            exact known ▸ uncopied pfn
          · exact still other found
              ((Function.update_of_ne here ..).trans known) process
        · by_cases process : mm = migration.mm
          · subst process
            simp only [setMigration, World.remap,
              Function.update_self] at mapped
            rcases (at_ pfn).2.2 with ⟨stays, -⟩ | ⟨-, -, -, -, landed, -⟩
            · rw [← stays]
              exact mapped
            · have unlanded := still id later changed rfl
              rw [landed_moved, landed] at unlanded
              cases unlanded
          · simpa [setMigration, World.remap, Function.update_of_ne process]
              using mapped
    | landed other found target known process landed aimed backing =>
        rcases Owned.update_cases known with ⟨rfl, rfl⟩ | ⟨-, old⟩
        · refine .inr ?_
          subst process
          obtain ⟨dst, sources, choice⟩ := at_ pfn
          have aimed : (migration.slots pfn).dst.page = some target :=
            dst ▸ aimed
          have copies := (presents.carries other migration there).copied stage
            pfn target page aimed backing
          refine copies.trans ?_
          cases source : (migration.slots pfn).src.page with
          | some held => rfl
          | none =>
              rcases choice with ⟨-, hole⟩ | ⟨-, -, -, free, -, -⟩
              · have unmoved := hole (sources.trans source)
                rw [landed_moved, unmoved] at landed
                cases landed
              · exact (zeroes free).symm
        · exact .inl (.landed other found target old process landed aimed
            backing)
  · intro other found known
    rcases Owned.update_cases known with ⟨rfl, rfl⟩ | ⟨-, old⟩
    · refine .inr ⟨?_, fun copied => by cases copied⟩
      intro forward _ pfn landed
      change world.mem.contents ((outcome.2 pfn).src.page.getD .zero) =
        memory migration.mm pfn
      rw [landed_moved] at landed
      obtain ⟨-, sources, choice⟩ := at_ pfn
      rw [sources]
      cases source : (migration.slots pfn).src.page with
      | some held =>
          have kind := (tracked.apart.system other migration pfn held there
            forward source).2
          exact presents.source tracked there (uncopied pfn) source
            (by simp [Memory.backingPage, kind])
      | none =>
          rcases choice with ⟨-, hole⟩ | ⟨-, -, -, free, -, -⟩
          · rw [hole (sources.trans source)] at landed
            cases landed
          · exact presents.zero.trans (zeroes free).symm
    · exact .inl old
  · intro mm pfn unmapped
    by_cases process : mm = migration.mm
    · subst process
      simp only [setMigration, World.remap, Function.update_self] at unmapped
      rcases (at_ pfn).2.2 with ⟨stays, -⟩ | ⟨newpage, -, -, -, -, put⟩
      · exact stays.symm.trans unmapped
      · rw [put] at unmapped
        cases unmapped
    · simpa [setMigration, World.remap, Function.update_of_ne process]
        using unmapped

theorem Presents.finalizeAndMap (presents : world.Presents memory)
    (tracked : world.MovesTracked) {id : Nat} {xaFails : Nat → Bool}
    (moved : world.finalizeAndMap id xaFails = some next) :
    next.Presents memory := by
  obtain ⟨migration, there, -, stage, ⟨-, rfl⟩ | ⟨dmirror, pt, -, -,
    rfl⟩⟩ := finalizeAndMap_mapped moved
  · exact presents.of_same tracked ⟨rfl, rfl, rfl, rfl⟩ rfl
  · let later : Migration := { migration with stage := .mapped }
    have changed : ((world.setPt migration.dmirror dmirror pt).setMigration id
        (some later)).migrations id = some later := Function.update_self ..
    have landed_same (pfn : Nat) :
        later.landed pfn = migration.landed pfn := by
      simp [later, Migration.landed, stage]
    refine presents.advance tracked.owned ?_ (fun _ _ => rfl)
      (fun _ _ => rfl) ?_ (fun _ _ unmapped => unmapped)
    · intro mm pfn page data
      cases data with
      | settled held still mapped backing =>
          refine .inl (.settled held ?_ mapped backing)
          intro other found known process
          by_cases here : other = id
          · subst here
            rw [there, Option.some.injEq] at known
            subst known
            rw [← landed_same]
            exact still other later changed process
          · exact still other found
              ((Function.update_of_ne here ..).trans known) process
      | landed other found target known process landed aimed backing =>
          rcases Owned.update_cases known with ⟨rfl, rfl⟩ | ⟨-, old⟩
          · exact .inl (.landed other migration target there process
              ((landed_same pfn).symm.trans landed) aimed backing)
          · exact .inl (.landed other found target old process landed aimed
              backing)
    · intro other found known
      rcases Owned.update_cases known with ⟨-, rfl⟩ | ⟨-, old⟩
      · exact .inr (.of_stage (.inr rfl))
      · exact .inl old

/-- `migrate_vma_finalize` maps the pages with the data. -/
theorem Presents.finalize (presents : world.Presents memory)
    (tracked : world.MovesTracked) {id : Nat}
    (moved : world.finalize id = some next) : next.Presents memory := by
  obtain ⟨migration, outcome, there, finished, made, rfl⟩ :=
    finalize_finished moved
  obtain ⟨links, contents⟩ := migrateVmaFinalize_mem migration.slots
    migration.npages migration.first (world.cpu migration.mm, world.mem)
  have windowed (pfn : Nat) : outcome.1 pfn =
      finalizePte (migration.slots pfn) (world.cpu migration.mm pfn) := by
    rw [made, migrateVmaFinalize_pte]
    split
    · rfl
    · next outside =>
      rw [tracked.owned.window id migration pfn there outside]
      rfl
  rw [← made] at links contents
  have landed_moved (pfn : Nat) :
      migration.landed pfn = (migration.slots pfn).moved := by
    unfold Migration.finished at finished
    split at finished
    · simp [Migration.landed, of_decide_eq_true finished]
    · simp [Migration.landed, of_decide_eq_true finished]
  have find {other : Nat} {found : Migration}
      (known : Function.update world.migrations id none other =
        some found) : world.migrations other = some found := by
    by_cases here : other = id
    · subst here
      simp at known
    · simpa [here] using known
  have behind (held : Page) : outcome.2.backingPage held =
      world.mem.backingPage held := by
    simp only [Memory.backingPage, links]
  refine presents.advance tracked.owned ?_
    (fun held _ => congrFun contents held) (fun held _ => behind held) ?_ ?_
  · intro mm pfn page data
    cases data with
    | settled held still mapped backing =>
        have backing := (behind held).symm.trans backing
        by_cases lands : mm = migration.mm ∧ migration.landed pfn = true
        · obtain ⟨rfl, landed⟩ := lands
          obtain ⟨-, target, aimed⟩ := Migration.landed_moved landed
          simp only [setMigration, World.remap, Function.update_self,
            windowed] at mapped
          rw [finalizePte_landed tracked.owned there landed aimed] at mapped
          obtain rfl := Option.some.inj mapped
          exact .inl (.landed id migration target there rfl landed aimed
            backing)
        · refine .inl (.settled held ?_ ?_ backing)
          · intro other found known process
            by_cases here : other = id
            · subst here
              rw [there, Option.some.injEq] at known
              subst known
              rw [← Bool.not_eq_true]
              exact fun landed => lands ⟨process.symm, landed⟩
            · exact still other found
                ((Function.update_of_ne here ..).trans known) process
          · by_cases process : mm = migration.mm
            · subst process
              simp only [setMigration, World.remap, Function.update_self,
                windowed] at mapped
              rw [finalizePte_unmoved] at mapped
              · exact mapped
              · rw [← landed_moved, ← Bool.not_eq_true]
                exact fun landed => lands ⟨rfl, landed⟩
            · simpa [setMigration, World.remap,
                Function.update_of_ne process] using mapped
    | landed other found target known process landed aimed backing =>
        exact .inl (.landed other found target (find known) process landed
          aimed ((behind target).symm.trans backing))
  · intro other found known
    exact .inl (find known)
  · intro mm pfn unmapped
    by_cases process : mm = migration.mm
    · subst process
      simp only [setMigration, World.remap, Function.update_self,
        windowed] at unmapped
      exact finalizePte_none unmapped
    · simpa [setMigration, World.remap, Function.update_of_ne process]
        using unmapped

theorem Presents.fill (presents : world.Presents memory)
    (tracked : world.MovesTracked) {mm pfn : Nat} {page : Page}
    {writable : Bool} (unmapped : world.cpu mm pfn = .none)
    (plain : page.isDevicePrivatePage = false)
    (cpu : next.cpu = (world.setCpu mm pfn (.present page writable)).cpu)
    (migrations : next.migrations = world.migrations)
    (links : next.mem.zoneDeviceData = world.mem.zoneDeviceData)
    (zeroes : next.mem.contents page = 0)
    (kept : ∀ held, held = .zero ∨ held ∈ world.mem.inUse →
      next.mem.contents held = world.mem.contents held) :
    next.Presents memory := by
  have behind (held : Page) :
      next.mem.backingPage held = world.mem.backingPage held := by
    simp only [Memory.backingPage, links]
  refine presents.advance tracked.owned ?_ kept (fun held _ => behind held)
    ?_ ?_
  · intro mm' pfn' held data
    by_cases here : mm' = mm ∧ pfn' = pfn
    · obtain ⟨rfl, rfl⟩ := here
      refine .inr ?_
      rw [presents.empty mm' pfn' unmapped, ← zeroes]
      cases data with
      | settled found still mapped backing =>
          rw [cpu] at mapped
          simp only [World.setCpu, Function.update_self, Pte.page_present,
            Option.some.injEq] at mapped
          subst mapped
          simp only [Memory.backingPage, plain, Bool.false_eq_true, if_false,
            Option.some.injEq] at backing
          rw [backing]
      | landed id migration target there process landed =>
          rw [migrations] at there
          subst process
          exact absurd unmapped (tracked.landed_occupied there landed)
    · refine .inl (data.before tracked ?_ (fun found _ => behind found) ?_)
      · rw [cpu]
        exact congrArg Pte.page (setCpu_page mm pfn _ _ _ here)
      · intro id migration _ _
        rw [migrations]
  · intro id migration there
    exact .inl (migrations ▸ there)
  · intro mm' pfn' unmapped'
    by_cases here : mm' = mm ∧ pfn' = pfn
    · obtain ⟨rfl, rfl⟩ := here
      exact unmapped
    · rw [cpu] at unmapped'
      exact (setCpu_page mm pfn _ _ _ here).symm.trans unmapped'

theorem Presents.populate (presents : world.Presents memory)
    (tracked : world.MovesTracked) {mm pfn frame : Nat} {writable : Bool}
    (moved : world.populate mm pfn frame writable = some next) :
    next.Presents memory := by
  obtain ⟨unmapped, unused, rfl⟩ := populate_mapped moved
  refine presents.fill tracked unmapped rfl rfl rfl rfl
    (Function.update_self ..) ?_
  intro held used
  have different : held ≠ .normal frame := by
    rintro rfl
    rcases used with same | used
    · cases same
    · exact unused used
  exact Function.update_of_ne different _ _

theorem Presents.populateZero (presents : world.Presents memory)
    (tracked : world.MovesTracked) {mm pfn : Nat}
    (moved : world.populateZero mm pfn = some next) :
    next.Presents memory := by
  obtain ⟨unmapped, rfl⟩ := populateZero_mapped moved
  exact presents.fill tracked unmapped rfl rfl rfl rfl presents.zero
    fun _ _ => rfl

/-- No migration is between its copies and its map update. -/
def Uncopied (world : World Contents) : Prop :=
  ∀ id migration, world.migrations id = some migration →
    migration.stage = .setup ∨ migration.stage = .mapped

omit [Zero Contents] in
theorem Uncopied.of_idle (idle : ∀ id, world.migrations id = none) :
    world.Uncopied := by
  intro id migration there
  rw [idle id] at there
  cases there

/-- `dmirror_do_write` writes the memory of the process. -/
theorem Presents.doWrite (presents : world.Presents memory)
    (tracked : world.MovesTracked) (located : world.Located)
    (zero : world.ZeroReadOnly) (uncopied : world.Uncopied)
    {m count first : Nat} {bounce : DmirrorBounce Contents}
    (moved : world.doWrite m count first bounce = some next) :
    next.Presents
      (world.remember memory (.doWrite m count first bounce)) := by
  have owned : world.PagesOwned := tracked.owned
  have pages := SamePages.doWrite moved
  obtain ⟨dmirror, present, rfl⟩ := Option.map_eq_some_iff.mp moved
  -- An entry that can be written through names a page of its own.
  have place {pfn : Nat} {page : Page}
      (found : dmirror.pt pfn = some ⟨page, .write⟩) :
      page ≠ .zero ∧ world.Data dmirror.mm pfn page := by
    constructor
    · intro same
      exact zero.entries m dmirror pfn ⟨page, .write⟩ present found same rfl
    · rcases located.data tracked present found with
        data | ⟨id, migration, there, -, -, stage, -, -⟩
      · exact data
      · have early := uncopied id migration there
        simp [stage] at early
  have apart : ∀ pfn pfn' page, dmirror.pt pfn = some ⟨page, .write⟩ →
      dmirror.pt pfn' = some ⟨page, .write⟩ → pfn = pfn' := by
    intro pfn pfn' page found found'
    obtain ⟨nonzero, here⟩ := place found
    exact (here.apart owned nonzero (place found').2).2
  obtain ⟨done, -, counted, written, kept⟩ := dmirrorDoWrite_spec dmirror.pt
    count first world.mem bounce apart
  simp only [World.remember, present, counted, Nat.add_sub_cancel_left]
  dsimp only at pages
  generalize (dmirrorDoWrite dmirror.pt count first (world.mem, bounce)).1 =
    after at pages written kept ⊢
  have links : after.1.zoneDeviceData = world.mem.zoneDeviceData :=
    pages.links
  refine ⟨?_, ?_, ?_, ?_⟩
  · intro mm pfn page later
    have before : world.Data mm pfn page := by
      refine later.before tracked rfl ?_ fun _ _ _ _ => Iff.rfl
      intro held _
      simp only [Memory.backingPage, links]
    by_cases own : mm = dmirror.mm ∧ first ≤ pfn ∧ pfn < first + done
    · obtain ⟨rfl, inside⟩ := own
      obtain ⟨page', found, stored⟩ := written pfn inside.1 inside.2
      obtain rfl := before.same tracked (place found).2
      rw [memory.write_inside _ inside]
      exact stored
    · rw [memory.write_outside _ own]
      refine (kept page ?_).trans (presents.data mm pfn page before)
      intro pfn' lower upper found
      obtain ⟨nonzero, there⟩ := place found
      obtain ⟨rfl, rfl⟩ := there.apart owned nonzero before
      exact own ⟨rfl, lower, upper⟩
  · intro id migration there
    exact .of_stage (uncopied id migration there)
  · intro mm pfn unmapped
    have unmapped : world.cpu mm pfn = .none := unmapped
    rw [memory.write_outside]
    · exact presents.empty mm pfn unmapped
    · rintro ⟨rfl, lower, upper⟩
      obtain ⟨page, found, -⟩ := written pfn lower upper
      exact (place found).2.occupied tracked unmapped
  · refine (kept .zero ?_).trans presents.zero
    intro pfn _ _ found
    exact (place found).1 rfl

theorem Presents.cpuStore (presents : world.Presents memory)
    (tracked : world.MovesTracked) (zero : world.ZeroReadOnly)
    {mm pfn : Nat} {bytes : Contents}
    (moved : world.cpuStore mm pfn bytes = some next) :
    next.Presents (memory.store mm pfn bytes) := by
  have owned : world.PagesOwned := tracked.owned
  obtain ⟨page, entry, plain, rfl⟩ := cpuStore_stored moved
  have nonzero : page ≠ .zero := by
    rintro rfl
    have readOnly := zero.ptes mm pfn true entry
    cases readOnly
  have private_ : page.isDevicePrivatePage = false := by
    cases page <;> first | rfl | cases plain
  have itself : world.mem.backingPage page = some page := by
    simp [Memory.backingPage, private_]
  have data := tracked.present_data entry itself
  have held : Holds world.mem.inUse world.mem.zoneDeviceData world.cpu
      world.migrations (.pte mm pfn) page := ⟨nonzero, true, entry⟩
  -- The address of a migrated page is not mapped writable.
  have elsewhere {id pfn' : Nat} {migration : Migration}
      (there : world.migrations id = some migration)
      (busy : migration.landed pfn' = true ∨
        (migration.slots pfn').src.page.isSome = true) :
      ¬(migration.mm = mm ∧ pfn' = pfn) := by
    rintro ⟨rfl, rfl⟩
    rcases busy with landed | source
    · rcases owned.landed_pte there landed with
        ⟨_, _, -, locked⟩ | ⟨target, _, -, -, device, put⟩
      · rw [entry] at locked
        cases locked
      · rw [entry] at put
        cases put
        rw [private_] at device
        cases device
    · obtain ⟨spage, source⟩ := Option.isSome_iff_exists.mp source
      obtain ⟨_, locked⟩ := owned.unmapped id migration pfn' spage there
        source
      rw [entry] at locked
      cases locked
  refine ⟨?_, ?_, ?_, ?_⟩
  · intro mm' pfn' page' later
    have before : world.Data mm' pfn' page' :=
      later.before tracked rfl (fun _ _ => rfl) fun _ _ _ _ => Iff.rfl
    change Function.update world.mem.contents page bytes page' = _
    by_cases here : mm' = mm ∧ pfn' = pfn
    · obtain ⟨rfl, rfl⟩ := here
      obtain rfl := before.same tracked data
      rw [Function.update_self, memory.store_here]
    · have different : page' ≠ page := by
        rintro rfl
        exact here (before.apart owned nonzero data)
      rw [Function.update_of_ne different, memory.store_elsewhere bytes here]
      exact presents.data mm' pfn' page' before
  · intro id migration known
    have there : world.migrations id = some migration := known
    have carries := presents.carries id migration there
    constructor
    · intro forward stage pfn' landed
      change Function.update world.mem.contents page bytes _ = _
      rw [memory.store_elsewhere bytes (elsewhere there (.inl landed)),
        Function.update_of_ne ?_]
      · exact carries.left forward stage pfn' landed
      · cases source : (migration.slots pfn').src.page with
        | none => exact nonzero.symm
        | some spage =>
            rintro rfl
            have same := owned.exclusive.once (.src id pfn') (.pte mm pfn)
              spage ⟨migration, there, source⟩ held
            cases same
    · intro stage pfn' target page' aimed backing
      change Function.update world.mem.contents page bytes page' = _
      have uninserted : migration.inserted pfn' = false := by
        simp [Migration.inserted, stage]
      have targeted : Holds world.mem.inUse world.mem.zoneDeviceData
          world.cpu world.migrations (.dst id pfn') target :=
        ⟨migration, there, aimed, uninserted⟩
      have different : page' ≠ page := by
        rintro rfl
        have seated : world.Seated migration.mm pfn' target :=
          ⟨.dst id pfn', targeted, by simp [Owner.seat, there]⟩
        obtain rfl := seated.backing_apart owned ⟨.pte mm pfn, held, rfl⟩
          backing itself
        have same := owned.exclusive.once (.dst id pfn') (.pte mm pfn)
          target targeted held
        cases same
      rw [Function.update_of_ne different,
        carries.copied stage pfn' target page' aimed backing]
      split
      · next source =>
        rw [memory.store_elsewhere bytes (elsewhere there (.inr source))]
      · rfl
  · intro mm' pfn' unmapped
    have unmapped : world.cpu mm' pfn' = .none := unmapped
    rw [memory.store_elsewhere]
    · exact presents.empty mm' pfn' unmapped
    · rintro ⟨rfl, rfl⟩
      rw [entry] at unmapped
      cases unmapped
  · change Function.update world.mem.contents page bytes .zero = 0
    rw [Function.update_of_ne nonzero.symm]
    exact presents.zero

end World

end Rshm.Hmm
