import Rshm.Hmm.LostWrites

/-!
# From the copy to the map update

What `dmirror_migrate_alloc_and_copy` has copied stays what the pages contain
until `dmirror_migrate_finalize_and_map` replaces the entries, as long as no
critical section of `dmirror_do_write` in between writes to one of the pages
that are being migrated.
-/

namespace Rshm.Hmm

variable {Contents : Type}

/-- A migration has copied its pages and not replaced the entries. -/
def Migration.Pending (migration : Migration) : Prop :=
  migration.stage = .copied ∨ migration.stage = .migrated

namespace World

variable {world next : World Contents}

/-- The copies of a migration, and its slots, are those of an earlier point of
it. -/
theorem CopyCurrent.kept {migration later : Migration}
    (copied : world.CopyCurrent migration) (tracked : world.MovesTracked)
    (forward : world.Forward) {id : Nat}
    (there : world.migrations id = some migration)
    (slots : ∀ pfn, (later.slots pfn).moved = true →
      (migration.slots pfn).moved = true ∧
        (later.slots pfn).dst.page = (migration.slots pfn).dst.page ∧
        (later.slots pfn).src.page = (migration.slots pfn).src.page)
    (links : ∀ held ∈ world.mem.inUse,
      next.mem.backingPage held = world.mem.backingPage held)
    (contents : ∀ page, page = .zero ∨ page ∈ world.mem.inUse →
      next.mem.contents page = world.mem.contents page) :
    next.CopyCurrent later := by
  have owned : world.PagesOwned := tracked.owned
  intro pfn target rpage moved aimed backing
  obtain ⟨moved, dst, src⟩ := slots pfn moved
  rw [dst] at aimed
  have used : target ∈ world.mem.inUse := owned.aimed_used there aimed
  rw [links target used] at backing
  have same := copied pfn target rpage moved aimed backing
  have device := tracked.apart.device id migration pfn target there
    (forward id migration there) aimed
  have usedBacking : rpage ∈ world.mem.inUse := by
    obtain ⟨frame, link⟩ := owned.backed target used device
    have known : world.mem.backingPage target = some (.normal frame) := by
      simp [Memory.backingPage, device, link]
    rw [known, Option.some.injEq] at backing
    subst backing
    exact owned.exclusive.alive (.backing target) _ ⟨used, device, link⟩
  have usedSource : (migration.slots pfn).src.page.getD .zero = .zero ∨
      (migration.slots pfn).src.page.getD .zero ∈ world.mem.inUse := by
    cases source : (migration.slots pfn).src.page with
    | none => exact .inl rfl
    | some page =>
        exact .inr (owned.exclusive.alive (.src id pfn) page
          ⟨migration, there, source⟩)
  rw [src, contents rpage (.inr usedBacking), contents _ usedSource]
  exact same

/-- What has been copied is still in the pages whose entries are to be
replaced. -/
def CopiesCurrent (world : World Contents) : Prop :=
  ∀ id migration, world.migrations id = some migration →
    migration.Pending → world.CopyCurrent migration

/-- A device write goes to none of these pages. -/
def WritesElsewhere (world : World Contents) (m count first : Nat) : Prop :=
  ∀ dmirror pfn page, world.dmirror m = some dmirror →
    first ≤ pfn → pfn < first + count →
    dmirror.pt pfn = some ⟨page, .write⟩ →
    ∀ id migration place, world.migrations id = some migration →
      migration.Pending → (migration.slots place).moved = true →
      (migration.slots place).src.page ≠ some page

/-- Requests whose device writes keep off the pages that are being migrated,
and whose map updates replace all entries. -/
def WritesApart (world : World Contents) (input : Input Contents) : Prop :=
  world.WritesAndMigrations input ∧
    (∀ m count first bounce, input = .doWrite m count first bounce →
      world.WritesElsewhere m count first) ∧
    ∀ id xaFails migration, input = .finalizeAndMap id xaFails →
      world.migrations id = some migration →
      world.StoresEntries migration xaFails

theorem CopiesCurrent.of_same (copies : world.CopiesCurrent)
    (contents : next.mem.contents = world.mem.contents)
    (links : next.mem.zoneDeviceData = world.mem.zoneDeviceData)
    (migrations : next.migrations = world.migrations) :
    next.CopiesCurrent := by
  intro id migration there pending
  rw [migrations] at there
  intro pfn target rpage moved aimed backing
  simp only [Memory.backingPage, links] at backing
  rw [contents]
  exact copies id migration there pending pfn target rpage moved aimed backing

theorem CopiesCurrent.of_kept (copies : world.CopiesCurrent)
    (tracked : world.MovesTracked) (forward : world.Forward)
    (links : ∀ held ∈ world.mem.inUse,
      next.mem.backingPage held = world.mem.backingPage held)
    (contents : ∀ page, page = .zero ∨ page ∈ world.mem.inUse →
      next.mem.contents page = world.mem.contents page)
    (migrations : next.migrations = world.migrations) :
    next.CopiesCurrent := by
  intro id migration there pending
  rw [migrations] at there
  exact (copies id migration there pending).kept tracked forward there
    (fun _ moved => ⟨moved, rfl, rfl⟩) links contents

theorem CopiesCurrent.advance (copies : world.CopiesCurrent)
    (tracked : world.MovesTracked) (forward : world.Forward) {id : Nat}
    {after : Option Migration}
    (links : ∀ held ∈ world.mem.inUse,
      next.mem.backingPage held = world.mem.backingPage held)
    (contents : ∀ page, page = .zero ∨ page ∈ world.mem.inUse →
      next.mem.contents page = world.mem.contents page)
    (migrations : next.migrations =
      Function.update world.migrations id after)
    (own : ∀ later, after = some later → later.Pending →
      next.CopyCurrent later) : next.CopiesCurrent := by
  intro other migration there pending
  rw [migrations] at there
  by_cases here : other = id
  · subst here
    rw [Function.update_self] at there
    exact own migration there pending
  · rw [Function.update_of_ne here] at there
    exact (copies other migration there pending).kept tracked forward there
      (fun _ moved => ⟨moved, rfl, rfl⟩) links contents

theorem CopiesCurrent.doWrite (copies : world.CopiesCurrent)
    (tracked : world.MovesTracked) (forward : world.Forward)
    (located : world.Located) (zero : world.ZeroReadOnly)
    {m count first : Nat} {bounce : DmirrorBounce Contents}
    (elsewhere : world.WritesElsewhere m count first)
    (moved : world.doWrite m count first bounce = some next) :
    next.CopiesCurrent := by
  obtain ⟨dmirror, present, rfl⟩ := Option.map_eq_some_iff.mp moved
  obtain ⟨done, short, -, -, kept⟩ := dmirrorDoWrite_spec dmirror.pt count
    first world.mem bounce
    (located.writable_apart tracked forward zero present)
  have links := dmirrorDoWrite_links dmirror.pt count first
    (world.mem, bounce)
  intro id migration there pending pfn target rpage slot aimed backing
  have backing : world.mem.backingPage target = some rpage := by
    rw [← backing]
    simp only [Memory.backingPage, links]
  have unpublished : migration.stage ≠ .mapped := by
    rcases pending with stage | stage <;> simp [stage]
  refine (kept rpage ?_).trans (Eq.trans
    (copies id migration there pending pfn target rpage slot aimed backing)
    (kept _ ?_).symm)
  · intro written_ _ _ found
    obtain ⟨nonzero, home⟩ :=
      located.writable_home tracked zero present found
    exact home.not_copy tracked forward nonzero there unpublished slot aimed
      backing
  · intro written_ lower upper found
    cases source : (migration.slots pfn).src.page with
    | none =>
        rw [source] at found
        exact (located.writable_home tracked zero present found).1 rfl
    | some page =>
        rw [source] at found
        exact elsewhere dmirror written_ page present lower (by omega) found
          id migration pfn there pending slot source

theorem CopiesCurrent.pages (copies : world.CopiesCurrent)
    (tracked : world.MovesTracked) (forward : world.Forward) {id : Nat}
    {migrated : Nat → Bool} (moved : world.pages id migrated = some next) :
    next.CopiesCurrent := by
  obtain ⟨migration, outcome, there, stage, made, rfl⟩ :=
    pages_migrated moved
  refine copies.advance tracked forward (fun _ _ => rfl) (fun _ _ => rfl) rfl
    ?_
  rintro later ⟨⟩ -
  apply (copies id migration there (.inl stage)).kept tracked forward there
    ?_ (fun _ _ => rfl) fun _ _ => rfl
  intro pfn moved
  have moved : (outcome.2 pfn).moved = true := moved
  have cell := migrateVmaPages_cell migration.vmWrite migrated
    migration.npages migration.first
    (world.cpu migration.mm, migration.slots) pfn
  rw [← made] at cell
  obtain ⟨dst, src, -⟩ := migrateVmaPages_at tracked.owned there migrated pfn
  rw [← made] at dst src
  refine ⟨?_, congrArg _ dst, src⟩
  have cell : (outcome.1 pfn, outcome.2 pfn) = _ := cell
  split at cell
  · apply pagesCell_moved migration.vmWrite (migrated pfn)
      (world.cpu migration.mm pfn)
    rw [← cell]
    exact moved
  · rw [(Prod.mk.inj cell).2] at moved
    exact moved

theorem CopiesCurrent.allocAndCopy [Zero Contents]
    (copies : world.CopiesCurrent) (current : world.HomesCurrent)
    (tracked : world.MovesTracked) (forward : world.Forward) {id : Nat}
    {alloc : Nat → Option (Nat × Nat)}
    (moved : world.allocAndCopy id alloc = some next) :
    next.CopiesCurrent := by
  have own := current.copyCurrent tracked moved
  obtain ⟨migration, after, there, -, stage, copied, rfl⟩ :=
    allocAndCopy_copied moved
  have grown : world.mem.Extends after.2 := by
    rw [copied]
    exact dmirrorMigrateAllocAndCopy_extends migration.npages migration.first
      (migration.slots, world.mem)
  refine copies.advance tracked forward ?_ ?_ rfl ?_
  · intro held used
    exact grown.backingPage used
  · intro page used
    rcases used with rfl | used
    · change after.2.contents .zero = world.mem.contents .zero
      rw [copied]
      exact dmirrorMigrateAllocAndCopy_zero _ _ _ _ _ _ _
    · exact grown.contents page used
  · rintro later ⟨⟩ -
    exact own _ (Function.update_self ..)

theorem WritesTracked.copies_step [Zero Contents]
    (tracked : world.WritesTracked) (copies : world.CopiesCurrent)
    {input : Input Contents} (admitted : world.WritesApart input)
    (moved : world.step input = some next) : next.CopiesCurrent := by
  have moves := tracked.moves
  have forward := tracked.forward
  cases input with
  | openFile _ _ _ =>
      obtain ⟨-, -, rfl⟩ := openFile_opened moved
      exact copies.of_same rfl rfl rfl
  | doWrite m count first bounce =>
      exact copies.doWrite moves forward tracked.located tracked.zeroReadOnly
        (admitted.2.1 m count first bounce rfl) moved
  | readBegin _ _ _ _ _ =>
      obtain ⟨_, -, -, -, rfl⟩ := readBegin_started moved
      exact copies.of_same rfl rfl rfl
  | hmmRangeFault _ =>
      obtain ⟨fault, _, -, -, -, rfl⟩ := hmmRangeFault_taken moved
      exact copies.of_same rfl rfl rfl
  | abandonFault _ =>
      obtain rfl := abandonFault_dropped moved
      exact copies.of_same rfl rfl rfl
  | doFault _ _ =>
      rcases doFault_stored moved with ⟨fault, -, rfl⟩ |
        ⟨fault, dmirror, hmmPfns, pt, -, -, -, -, -, rfl⟩
      · exact copies.of_same rfl rfl rfl
      · exact copies.of_same rfl rfl rfl
  | populate mm pfn frame writable =>
      obtain ⟨-, unused, rfl⟩ := populate_mapped moved
      refine copies.of_kept moves forward (fun _ _ => rfl) ?_ rfl
      intro page used
      have different : page ≠ .normal frame := by
        rintro rfl
        rcases used with same | used
        · cases same
        · exact unused used
      exact Function.update_of_ne different ..
  | populateZero mm pfn =>
      obtain ⟨-, rfl⟩ := populateZero_mapped moved
      exact copies.of_same rfl rfl rfl
  | invalidateStart _ _ =>
      obtain ⟨-, rfl⟩ := invalidateStart_told moved
      exact copies.of_same rfl rfl rfl
  | invalidateEnd _ =>
      obtain ⟨-, rfl⟩ := invalidateEnd_ended moved
      exact copies.of_same rfl rfl rfl
  | setup _ _ _ _ _ _ _ =>
      obtain ⟨dmirror, -, -, rfl⟩ := setup_begun moved
      refine copies.advance moves forward (fun _ _ => rfl) (fun _ _ => rfl)
        rfl ?_
      rintro later ⟨⟩ pending
      rcases pending with stage | stage <;> cases stage
  | allocAndCopy _ _ =>
      exact copies.allocAndCopy tracked.current moves forward moved
  | pages _ _ => exact copies.pages moves forward moved
  | finalizeAndMap id xaFails =>
      obtain ⟨migration, there, -, stage, ⟨-, rfl⟩ | ⟨dmirror, pt, -, -,
        rfl⟩⟩ := finalizeAndMap_mapped moved
      · exact copies.of_same rfl rfl rfl
      · refine copies.advance moves forward (fun _ _ => rfl) (fun _ _ => rfl)
          rfl ?_
        rintro later ⟨⟩ pending
        rcases pending with stage | stage <;> cases stage
  | finalize id =>
      obtain ⟨migration, outcome, there, -, made, rfl⟩ :=
        finalize_finished moved
      obtain ⟨links, contents⟩ := migrateVmaFinalize_mem migration.slots
        migration.npages migration.first (world.cpu migration.mm, world.mem)
      rw [← made] at links contents
      refine copies.advance moves forward ?_ ?_ rfl ?_
      · intro held _
        simp only [Memory.backingPage, setMigration, World.remap, links]
      · intro page _
        exact congrFun contents page
      · rintro later ⟨⟩
  | _ => exact admitted.1.elim

theorem WritesApart.beforeOrAfter [Zero Contents] {input : Input Contents}
    (apart : world.WritesApart input) (copies : world.CopiesCurrent)
    (moved : world.step input = some next) :
    world.WritesBeforeOrAfter input := by
  refine ⟨apart.1, ?_⟩
  rintro id xaFails migration rfl there
  refine ⟨copies id migration there (.inr ?_),
    apart.2.2 id xaFails migration rfl there⟩
  obtain ⟨found, there', -, stage, -⟩ := finalizeAndMap_mapped moved
  rw [there, Option.some.injEq] at there'
  rw [there', stage]

/-- No device write is lost by migrations to the device in any run in which
each write keeps off the pages that are being migrated: what was copied is
still in them when the map update replaces their entries. -/
theorem writes_apart_kept [Zero Contents] (world : World Contents)
    (reached : (machine Ready).Reaches WritesApart world) :
    world.CopiesCurrent ∧
      ((∀ id, world.migrations id = none) → world.ShowsLastWrite) := by
  have invariant : (machine (Ready : World Contents → Prop)).Invariant
      WritesApart (fun world => world.WritesTracked ∧ world.CopiesCurrent) := by
    constructor
    · intro start ready
      refine ⟨ready.tracked, ?_⟩
      intro id migration there
      rw [ready.idle.migrations id] at there
      cases there
    · rintro state input next ⟨tracked, copies⟩ admitted moved
      exact ⟨tracked.step (admitted.beforeOrAfter copies moved) moved,
        tracked.copies_step copies admitted moved⟩
  obtain ⟨tracked, copies⟩ := invariant.reaches reached
  exact ⟨copies, tracked.shows⟩

end World

end Rshm.Hmm
