import Rshm.Hmm.LostWrites

/-!
# The data of an address during migrations in both directions

A process finds the data of an address on the backing page of the page it
maps.  From `migrate_vma_pages` on, this is the target of the migration.  The
mirrors have no entry for an address that is migrated back to system memory.
-/

namespace Rshm.Hmm

open RangeLoop

variable {Contents : Type}

namespace World

variable {world next : World Contents}

inductive Data (world : World Contents) (mm pfn : Nat) (page : Page) :
    Prop where
  | settled (held : Page) (still : world.Still mm pfn)
      (mapped : (world.cpu mm pfn).page = some held)
      (backing : world.mem.backingPage held = some page)
  | landed (id : Nat) (migration : Migration) (target : Page)
      (there : world.migrations id = some migration)
      (process : migration.mm = mm) (landed : migration.landed pfn = true)
      (aimed : (migration.slots pfn).dst.page = some target)
      (backing : world.mem.backingPage target = some page)

theorem not_still {mm pfn id : Nat} {migration : Migration}
    (there : world.migrations id = some migration)
    (process : migration.mm = mm) (landed : migration.landed pfn = true) :
    ¬world.Still mm pfn := by
  intro still
  rw [still id migration there process] at landed
  cases landed

theorem Data.same (tracked : world.MovesTracked) {mm pfn : Nat}
    {page page' : Page} (data : world.Data mm pfn page)
    (data' : world.Data mm pfn page') : page = page' := by
  cases data with
  | settled held still mapped backing =>
      cases data' with
      | settled held' still' mapped' backing' =>
          obtain rfl := Option.some.inj (mapped.symm.trans mapped')
          exact Option.some.inj (backing.symm.trans backing')
      | landed id' migration' target' there' process' landed' =>
          exact absurd still (not_still there' process' landed')
  | landed id migration target there process landed aimed backing =>
      cases data' with
      | settled held' still' mapped' backing' =>
          exact absurd still' (not_still there process landed)
      | landed id' migration' target' there' process' landed' aimed'
          backing' =>
          obtain rfl := tracked.apart.alone id id' migration migration' pfn
            there there' (process.trans process'.symm) landed landed'
          obtain rfl := Option.some.inj (there.symm.trans there')
          obtain rfl := Option.some.inj (aimed.symm.trans aimed')
          exact Option.some.inj (backing.symm.trans backing')

/-- The data is on the zero page or behind the page of the process. -/
theorem Data.seated (owned : world.PagesOwned) {mm pfn : Nat} {page : Page}
    (data : world.Data mm pfn page) :
    page = .zero ∨ ∃ held, world.Seated mm pfn held ∧
      world.mem.backingPage held = some page := by
  cases data with
  | settled held still mapped backing =>
      cases entry : world.cpu mm pfn with
      | none =>
          rw [entry] at mapped
          cases mapped
      | present found writable =>
          rw [entry] at mapped
          obtain rfl := Option.some.inj mapped
          by_cases zero : found = .zero
          · subst zero
            cases backing
            exact .inl rfl
          · exact .inr ⟨found, ⟨.pte mm pfn, ⟨zero, writable, entry⟩, rfl⟩,
              backing⟩
      | migration found writable =>
          rw [entry] at mapped
          obtain rfl := Option.some.inj mapped
          obtain ⟨id, migration, there, process, source⟩ :=
            owned.migrating mm pfn found writable entry
          refine .inr ⟨found, ⟨.src id pfn, ⟨migration, there, source⟩, ?_⟩,
            backing⟩
          simp [Owner.seat, there, process]
  | landed id migration target there process landed aimed backing =>
      refine .inr ⟨target, ?_, backing⟩
      rcases owned.landed_pte there landed with
        ⟨held, writable, source, -⟩ |
        ⟨found, writable, -, aimed', device, entry⟩
      · refine ⟨.dst id pfn, ⟨migration, there, aimed, ?_⟩, ?_⟩
        · simp [Migration.inserted, source]
        · simp [Owner.seat, there, process]
      · rw [aimed] at aimed'
        cases aimed'
        refine ⟨.pte mm pfn, ⟨?_, writable, process ▸ entry⟩, rfl⟩
        rintro rfl
        cases device

theorem PagesOwned.backing_used (owned : world.PagesOwned)
    {held page : Page} (used : held ∈ world.mem.inUse)
    (backing : world.mem.backingPage held = some page) :
    page ∈ world.mem.inUse := by
  unfold Memory.backingPage at backing
  split at backing
  · next device =>
    split at backing
    · next rpage link =>
      cases backing
      exact owned.exclusive.alive (.backing held) _ ⟨used, device, link⟩
    · cases backing
  · cases backing
    exact used

theorem Data.used (owned : world.PagesOwned) {mm pfn : Nat} {page : Page}
    (data : world.Data mm pfn page) :
    page = .zero ∨ page ∈ world.mem.inUse := by
  rcases data.seated owned with zero | ⟨held, seated, backing⟩
  · exact .inl zero
  · exact .inr (owned.backing_used (seated.used owned) backing)

theorem Data.apart (owned : world.PagesOwned) {mm pfn mm' pfn' : Nat}
    {page : Page} (nonzero : page ≠ .zero) (data : world.Data mm pfn page)
    (data' : world.Data mm' pfn' page) : mm = mm' ∧ pfn = pfn' := by
  rcases data.seated owned with zero | ⟨held, seated, backing⟩
  · exact absurd zero nonzero
  · rcases data'.seated owned with zero | ⟨held', seated', backing'⟩
    · exact absurd zero nonzero
    · obtain rfl := seated.backing_apart owned seated' backing backing'
      exact seated.apart owned seated'

theorem Data.occupied (tracked : world.MovesTracked) {mm pfn : Nat}
    {page : Page} (data : world.Data mm pfn page) :
    world.cpu mm pfn ≠ .none := by
  cases data with
  | settled held still mapped backing =>
      intro unmapped
      rw [unmapped] at mapped
      cases mapped
  | landed id migration target there process landed aimed backing =>
      exact process ▸ tracked.landed_occupied there landed

theorem MovesTracked.present_data (tracked : world.MovesTracked)
    {mm pfn : Nat} {held page : Page} {writable : Bool}
    (entry : world.cpu mm pfn = .present held writable)
    (backing : world.mem.backingPage held = some page) :
    world.Data mm pfn page := by
  by_cases still : world.Still mm pfn
  · exact .settled held still (by rw [entry]; rfl) backing
  · simp only [Still, not_forall, Bool.not_eq_false] at still
    obtain ⟨id, migration, there, process, landed⟩ := still
    rcases tracked.owned.landed_pte there landed with
      ⟨_, _, -, locked⟩ | ⟨target, _, -, aimed, -, put⟩
    · rw [process, entry] at locked
      cases locked
    · rw [process, entry] at put
      cases put
      exact .landed id migration held there process landed aimed backing

/-- A step that changes neither the page of an address nor a migration that
has given it another one. -/
theorem Data.before (tracked : world.MovesTracked) {mm pfn : Nat}
    {page : Page} (data : next.Data mm pfn page)
    (pte : (next.cpu mm pfn).page = (world.cpu mm pfn).page)
    (links : ∀ held, held ∈ world.mem.inUse ∨ held = .zero →
      next.mem.backingPage held = world.mem.backingPage held)
    (same : ∀ id migration, migration.mm = mm →
      migration.landed pfn = true →
      (next.migrations id = some migration ↔
        world.migrations id = some migration)) :
    world.Data mm pfn page := by
  have owned : world.PagesOwned := tracked.owned
  cases data with
  | settled held still mapped backing =>
      rw [pte] at mapped
      rw [links held (owned.mapped mapped)] at backing
      refine .settled held ?_ mapped backing
      intro id migration there process
      cases landed : migration.landed pfn with
      | false => rfl
      | true =>
          have still := still id migration
            ((same id migration process landed).mpr there) process
          rw [landed] at still
          cases still
  | landed id migration target there process landed aimed backing =>
      have there := (same id migration process landed).mp there
      rw [links target (.inl (owned.landed_used there landed aimed))]
        at backing
      exact .landed id migration target there process landed aimed backing

/-- An entry names the page with the data of its address, or the page from
which a migration has copied it. -/
theorem Located.data (located : world.Located) (tracked : world.MovesTracked)
    {m pfn : Nat} {dmirror : Dmirror} {entry : Entry}
    (present : world.dmirror m = some dmirror)
    (found : dmirror.pt pfn = some entry) :
    world.Data dmirror.mm pfn entry.page ∨
      ∃ id migration, world.migrations id = some migration ∧
        migration.mm = dmirror.mm ∧ migration.flags = .selectSystem ∧
        migration.stage = .migrated ∧ migration.landed pfn = true ∧
        entry.page = (migration.slots pfn).src.page.getD .zero := by
  cases located.home tracked present found with
  | settled held still mapped backing =>
      exact .inl (.settled held still mapped backing)
  | migrated id migration there process landed stage source =>
      have own := (tracked.repairs id migration there).own pfn m dmirror
        entry landed present process.symm found
      exact .inr ⟨id, migration, there, process, own.1, stage, landed,
        source⟩
  | mapped id migration target there process landed stage aimed backing =>
      exact .inl (.landed id migration target there process landed aimed
        backing)

end World

/-- The copy of a page that `dmirror_devmem_fault_alloc_and_copy` has
taken. -/
structure CopiedBack (mem after : Memory Contents) (src dst : MigratePfn)
    (spage rpage : Page) (frame : Nat) : Prop where
  source : src.page = some spage
  backing : mem.backingPage spage = some rpage
  dst : dst.page = some (.normal frame)
  fresh : Page.normal frame ∉ mem.inUse
  used : Page.normal frame ∈ after.inUse
  bytes : after.contents (.normal frame) = mem.contents rpage

/-- What the loop of the fault handler leaves behind. -/
structure FaultCopied (mem : Memory Contents) (slots : Nat → MigrateSlot)
    (after : FaultCopyState Contents) : Prop where
  grown : mem.Extends after.mem
  links : after.mem.zoneDeviceData = mem.zoneDeviceData
  zero : after.mem.contents .zero = mem.contents .zero
  plain : Page.zero ∉ mem.inUse → Page.zero ∉ after.mem.inUse
  slots : ∀ pfn, (after.slots pfn).src = (slots pfn).src ∧
    (after.slots pfn = slots pfn ∨ ∃ spage rpage frame,
      CopiedBack mem after.mem (slots pfn).src (after.slots pfn).dst spage
        rpage frame)

theorem dmirrorDevmemFaultAllocAndCopy_copied (alloc : Nat → Option Nat)
    (count first : Nat) (state : FaultCopyState Contents)
    (used : ∀ pfn spage rpage, (state.slots pfn).src.page = some spage →
      state.mem.backingPage spage = some rpage →
      spage ∈ state.mem.inUse ∧ rpage ∈ state.mem.inUse) :
    FaultCopied state.mem state.slots
      (dmirrorDevmemFaultAllocAndCopy alloc count first state) := by
  apply forEach_keeps (FaultCopied state.mem state.slots)
  · exact ⟨.refl state.mem, rfl, rfl, id, fun _ => ⟨rfl, .inl rfl⟩⟩
  · intro index before _ _ held
    rcases dmirrorDevmemFaultAllocAndCopyOne_cases alloc index before with
      same | ⟨spage, rpage, frame, source, -, backing, fresh, taken⟩
    · rw [same]
      exact held
    · rw [taken]
      have source : (state.slots index).src.page = some spage := by
        rw [← (held.slots index).1]
        exact source
      have backing : state.mem.backingPage spage = some rpage := by
        simpa only [Memory.backingPage, held.links] using backing
      have inside := (used index spage rpage source backing).2
      have elsewhere {page : Page} (there : page ∈ before.mem.inUse) :
          page ≠ .normal frame := by
        rintro rfl
        exact fresh there
      have zeroes : Page.zero ≠ .normal frame := by simp
      refine ⟨⟨?_, ?_, ?_⟩, held.links, ?_, ?_, ?_⟩
      · exact held.grown.inUse.trans (Finset.subset_insert _ _)
      · intro page there
        exact (Function.update_of_ne (elsewhere (held.grown.inUse there))
          ..).trans (held.grown.contents page there)
      · exact held.grown.links
      · dsimp only
        rw [Function.update_of_ne zeroes]
        exact held.zero
      · intro unused there
        rcases Finset.mem_insert.mp there with same | there
        · cases same
        · exact held.plain unused there
      · intro pfn
        by_cases here : pfn = index
        · subst here
          simp only [Function.update_self]
          refine ⟨(held.slots pfn).1, .inr ⟨spage, rpage, frame, source,
            backing, rfl, ?_, Finset.mem_insert_self _ _, ?_⟩⟩
          · exact fun there => fresh (held.grown.inUse there)
          · exact (Function.update_self ..).trans
              (held.grown.contents rpage inside)
        · simp only [Function.update_of_ne here]
          refine ⟨(held.slots pfn).1, (held.slots pfn).2.imp_right ?_⟩
          rintro ⟨spage', rpage', frame', copied⟩
          exact ⟨spage', rpage', frame', copied.source, copied.backing,
            copied.dst, copied.fresh, Finset.mem_insert_of_mem copied.used,
            (Function.update_of_ne (elsewhere copied.used) ..).trans
              copied.bytes⟩

/-- The sources of a migration and the pages behind them are in use. -/
theorem World.MovesTracked.faultCopied {world : World Contents}
    (tracked : world.MovesTracked) {id : Nat} {migration : Migration}
    (there : world.migrations id = some migration)
    (alloc : Nat → Option Nat) (pt : XArray) :
    FaultCopied world.mem migration.slots
      (dmirrorDevmemFaultAllocAndCopy alloc migration.npages migration.first
        ⟨migration.slots, world.mem, pt⟩) := by
  apply dmirrorDevmemFaultAllocAndCopy_copied alloc migration.npages
    migration.first ⟨migration.slots, world.mem, pt⟩
  intro pfn spage rpage source backing
  have inside := tracked.owned.exclusive.alive (.src id pfn) spage
    ⟨migration, there, source⟩
  exact ⟨inside, tracked.owned.backing_used inside backing⟩

end Rshm.Hmm
