import Rshm.Hmm.Located

/-!
# The page with the data of an address

Each address of a process has one page on which the mirrors find its data:
the backing page of the page that the process maps.  From `migrate_vma_pages`
to the map update of a migration it is still the page before.  No two
addresses share such a page, other than the zero page.
-/

namespace Rshm.Hmm

open RangeLoop

variable {Contents : Type}

/-- The address that an owner stands for. -/
def Owner.seat (migrations : Nat → Option Migration) :
    Owner → Option (Nat × Nat)
  | .pte mm pfn => some (mm, pfn)
  | .src id pfn => (migrations id).map fun migration => (migration.mm, pfn)
  | .dst id pfn => (migrations id).map fun migration => (migration.mm, pfn)
  | .backing _ => none

namespace World

variable {world next : World Contents}

inductive Home (world : World Contents) (mm pfn : Nat) (page : Page) :
    Prop where
  | settled (held : Page) (still : world.Still mm pfn)
      (mapped : (world.cpu mm pfn).page = some held)
      (backing : world.mem.backingPage held = some page)
  | migrated (id : Nat) (migration : Migration)
      (there : world.migrations id = some migration)
      (process : migration.mm = mm) (landed : migration.landed pfn = true)
      (stage : migration.stage = .migrated)
      (source : page = (migration.slots pfn).src.page.getD .zero)
  | mapped (id : Nat) (migration : Migration) (target : Page)
      (there : world.migrations id = some migration)
      (process : migration.mm = mm) (landed : migration.landed pfn = true)
      (stage : migration.stage = .mapped)
      (aimed : (migration.slots pfn).dst.page = some target)
      (backing : world.mem.backingPage target = some page)

theorem Home.same (tracked : world.MovesTracked) {mm pfn : Nat}
    {page page' : Page} (home : world.Home mm pfn page)
    (home' : world.Home mm pfn page') : page = page' := by
  -- Only one migration has given the address another page.
  have once {id id' : Nat} {migration migration' : Migration}
      (there : world.migrations id = some migration)
      (there' : world.migrations id' = some migration')
      (process : migration.mm = mm) (process' : migration'.mm = mm)
      (landed : migration.landed pfn = true)
      (landed' : migration'.landed pfn = true) : migration = migration' := by
    have same := tracked.apart.alone id id' migration migration' pfn there
      there' (process.trans process'.symm) landed landed'
    subst same
    exact Option.some.inj (there.symm.trans there')
  have moved {id : Nat} {migration : Migration}
      (there : world.migrations id = some migration)
      (process : migration.mm = mm) (landed : migration.landed pfn = true) :
      ¬world.Still mm pfn := by
    intro still
    rw [still id migration there process] at landed
    cases landed
  cases home with
  | settled held still mapped backing =>
      cases home' with
      | settled held' still' mapped' backing' =>
          obtain rfl := Option.some.inj (mapped.symm.trans mapped')
          exact Option.some.inj (backing.symm.trans backing')
      | migrated id' migration' there' process' landed' stage' source' =>
          exact absurd still (moved there' process' landed')
      | mapped id' migration' target' there' process' landed' =>
          exact absurd still (moved there' process' landed')
  | migrated id migration there process landed stage source =>
      cases home' with
      | settled held' still' mapped' backing' =>
          exact absurd still' (moved there process landed)
      | migrated id' migration' there' process' landed' stage' source' =>
          obtain rfl := once there there' process process' landed landed'
          rw [source, source']
      | mapped id' migration' target' there' process' landed' stage' =>
          obtain rfl := once there there' process process' landed landed'
          rw [stage] at stage'
          cases stage'
  | mapped id migration target there process landed stage aimed backing =>
      cases home' with
      | settled held' still' mapped' backing' =>
          exact absurd still' (moved there process landed)
      | migrated id' migration' there' process' landed' stage' source' =>
          obtain rfl := once there there' process process' landed landed'
          rw [stage] at stage'
          cases stage'
      | mapped id' migration' target' there' process' landed' stage' aimed'
          backing' =>
          obtain rfl := once there there' process process' landed landed'
          obtain rfl := Option.some.inj (aimed.symm.trans aimed')
          exact Option.some.inj (backing.symm.trans backing')

theorem Located.home (located : world.Located)
    (tracked : world.MovesTracked) {m pfn : Nat} {dmirror : Dmirror}
    {entry : Entry} (present : world.dmirror m = some dmirror)
    (found : dmirror.pt pfn = some entry) :
    world.Home dmirror.mm pfn entry.page := by
  by_cases still : world.Still dmirror.mm pfn
  · obtain ⟨held, mapped, backing⟩ :=
      located.settled m dmirror pfn entry present found still
    exact .settled held still mapped backing
  · simp only [Still, not_forall, Bool.not_eq_false] at still
    obtain ⟨id, migration, there, process, landed⟩ := still
    have repairs := tracked.repairs id migration there
    cases stage : migration.stage with
    | setup => simp [Migration.landed, stage] at landed
    | copied => simp [Migration.landed, stage] at landed
    | migrated =>
        exact .migrated id migration there process landed stage
          (located.migrated id migration m dmirror pfn entry there landed
            stage present process.symm found)
    | mapped =>
        obtain ⟨-, rfl⟩ :=
          repairs.own pfn m dmirror entry landed present process.symm found
        obtain ⟨-, target, aimed⟩ := Migration.landed_moved landed
        exact .mapped id migration target there process landed stage aimed
          (repairs.mapped stage pfn dmirror entry target landed aimed present
            found)

/-- The page of the process at an address. -/
def Seated (world : World Contents) (mm pfn : Nat) (page : Page) : Prop :=
  ∃ owner, Holds world.mem.inUse world.mem.zoneDeviceData world.cpu
    world.migrations owner page ∧
      owner.seat world.migrations = some (mm, pfn)

theorem Seated.used (owned : world.PagesOwned) {mm pfn : Nat} {page : Page}
    (seated : world.Seated mm pfn page) : page ∈ world.mem.inUse := by
  obtain ⟨owner, held, -⟩ := seated
  exact owned.exclusive.alive owner page held

theorem Seated.apart (owned : world.PagesOwned) {mm pfn mm' pfn' : Nat}
    {page : Page} (seated : world.Seated mm pfn page)
    (seated' : world.Seated mm' pfn' page) : mm = mm' ∧ pfn = pfn' := by
  obtain ⟨owner, held, seat⟩ := seated
  obtain ⟨owner', held', seat'⟩ := seated'
  obtain rfl := owned.exclusive.once owner owner' page held held'
  have same := Option.some.inj (seat.symm.trans seat')
  exact Prod.mk.inj same

theorem Seated.backing_apart (owned : world.PagesOwned)
    {mm pfn mm' pfn' : Nat} {held held' page : Page}
    (seated : world.Seated mm pfn held)
    (seated' : world.Seated mm' pfn' held')
    (backing : world.mem.backingPage held = some page)
    (backing' : world.mem.backingPage held' = some page) :
    held = held' := by
  have used := seated.used owned
  have used' := seated'.used owned
  -- A page of a process backs no device page.
  have unshared {mm pfn : Nat} {device : Page}
      (seated : world.Seated mm pfn page)
      (behind : Holds world.mem.inUse world.mem.zoneDeviceData world.cpu
        world.migrations (.backing device) page) : False := by
    obtain ⟨owner, held, seat⟩ := seated
    obtain rfl := owned.exclusive.once owner (.backing device) page held
      behind
    cases seat
  unfold Memory.backingPage at backing backing'
  split at backing
  · next device =>
    split at backing
    · next rpage link =>
      cases backing
      split at backing'
      · next device' =>
        split at backing'
        · next rpage' link' =>
          cases backing'
          have same := owned.exclusive.once (.backing held) (.backing held')
            _ ⟨used, device, link⟩ ⟨used', device', link'⟩
          cases same
          rfl
        · cases backing'
      · cases backing'
        exact (unshared seated' ⟨used, device, link⟩).elim
    · cases backing
  · cases backing
    split at backing'
    · next device' =>
      split at backing'
      · next rpage' link' =>
        cases backing'
        exact (unshared seated ⟨used', device', link'⟩).elim
      · cases backing'
    · cases backing'
      rfl

/-- Who has the page that an address finds its data behind: no migration that
still has to replace the entries. -/
theorem Home.owner (tracked : world.MovesTracked) (forward : world.Forward)
    {mm pfn : Nat} {page : Page} (home : world.Home mm pfn page) :
    page = .zero ∨ ∃ owner held,
      Holds world.mem.inUse world.mem.zoneDeviceData world.cpu
        world.migrations owner held ∧
      owner.seat world.migrations = some (mm, pfn) ∧
      world.mem.backingPage held = some page ∧
      ∀ id place migration, owner = .dst id place →
        world.migrations id = some migration → migration.stage = .mapped := by
  have owned : world.PagesOwned := tracked.owned
  cases home with
  | settled held still mapped backing =>
      cases entry : world.cpu mm pfn with
      | none =>
          rw [entry] at mapped
          cases mapped
      | present found writable =>
          rw [entry] at mapped
          obtain rfl := Option.some.inj mapped
          by_cases zero : found = .zero
          · subst zero
            cases backing
            exact .inl rfl
          · exact .inr ⟨.pte mm pfn, found, ⟨zero, writable, entry⟩, rfl,
              backing, by simp⟩
      | migration found writable =>
          rw [entry] at mapped
          obtain rfl := Option.some.inj mapped
          obtain ⟨id, migration, there, process, source⟩ :=
            owned.migrating mm pfn found writable entry
          refine .inr ⟨.src id pfn, found, ⟨migration, there, source⟩, ?_,
            backing, by simp⟩
          simp [Owner.seat, there, process]
  | migrated id migration there process landed stage named =>
      cases source : (migration.slots pfn).src.page with
      | none => exact .inl (by rw [named, source]; rfl)
      | some held =>
          rw [source] at named
          have kind := (tracked.apart.system id migration pfn held there
            (forward id migration there) source).2
          refine .inr ⟨.src id pfn, held, ⟨migration, there, source⟩, ?_,
            ?_, by simp⟩
          · simp [Owner.seat, there, process]
          · simp [Memory.backingPage, kind, named]
  | mapped id migration target there process landed stage aimed backing =>
      rcases owned.landed_pte there landed with
        ⟨held, writable, source, -⟩ |
        ⟨found, writable, -, aimed', device, entry⟩
      · refine .inr ⟨.dst id pfn, target, ⟨migration, there, aimed, ?_⟩, ?_,
          backing, ?_⟩
        · simp [Migration.inserted, source]
        · simp [Owner.seat, there, process]
        · rintro _ _ found ⟨⟩ there'
          rw [there, Option.some.injEq] at there'
          rw [← there', stage]
      · rw [aimed] at aimed'
        cases aimed'
        refine .inr ⟨.pte mm pfn, target, ⟨?_, writable, process ▸ entry⟩,
          rfl, backing, by simp⟩
        rintro rfl
        cases device

/-- A page with the data of an address is the zero page or the backing page
of the page of the process. -/
theorem Home.seated (tracked : world.MovesTracked) (forward : world.Forward)
    {mm pfn : Nat} {page : Page} (home : world.Home mm pfn page) :
    page = .zero ∨ ∃ held, world.Seated mm pfn held ∧
      world.mem.backingPage held = some page := by
  rcases home.owner tracked forward with zero | ⟨owner, held, holds, seat,
    backing, -⟩
  · exact .inl zero
  · exact .inr ⟨held, ⟨owner, holds, seat⟩, backing⟩

theorem Home.used (tracked : world.MovesTracked) (forward : world.Forward)
    {mm pfn : Nat} {page : Page} (home : world.Home mm pfn page) :
    page = .zero ∨ page ∈ world.mem.inUse := by
  have owned : world.PagesOwned := tracked.owned
  rcases home.seated tracked forward with zero | ⟨held, seated, backing⟩
  · exact .inl zero
  · have used := seated.used owned
    unfold Memory.backingPage at backing
    split at backing
    · next device =>
      split at backing
      · next rpage link =>
        cases backing
        exact .inr (owned.exclusive.alive (.backing held) _
          ⟨used, device, link⟩)
      · cases backing
    · cases backing
      exact .inr used

theorem Home.apart (tracked : world.MovesTracked) (forward : world.Forward)
    {mm pfn mm' pfn' : Nat} {page : Page} (nonzero : page ≠ .zero)
    (home : world.Home mm pfn page) (home' : world.Home mm' pfn' page) :
    mm = mm' ∧ pfn = pfn' := by
  have owned : world.PagesOwned := tracked.owned
  rcases home.seated tracked forward with zero | ⟨held, seated, backing⟩
  · exact absurd zero nonzero
  · rcases home'.seated tracked forward with
      zero | ⟨held', seated', backing'⟩
    · exact absurd zero nonzero
    · obtain rfl := seated.backing_apart owned seated' backing backing'
      exact seated.apart owned seated'

/-- A copy that the map update has not published is at no address. -/
theorem Home.not_copy (tracked : world.MovesTracked)
    (forward : world.Forward) {mm pfn : Nat} {page : Page}
    (home : world.Home mm pfn page) (nonzero : page ≠ .zero) {id place : Nat}
    {migration : Migration} (there : world.migrations id = some migration)
    (pending : migration.stage ≠ .mapped)
    (moved : (migration.slots place).moved = true) {target : Page}
    (aimed : (migration.slots place).dst.page = some target) :
    world.mem.backingPage target ≠ some page := by
  intro backing
  have owned : world.PagesOwned := tracked.owned
  rcases home.owner tracked forward with zero | ⟨owner, held, holds, seat,
    behind, published⟩
  · exact nonzero zero
  · cases inserted : migration.inserted place with
    | false =>
        have aims : Holds world.mem.inUse world.mem.zoneDeviceData world.cpu
            world.migrations (.dst id place) target :=
          ⟨migration, there, aimed, inserted⟩
        have seated : world.Seated migration.mm place target :=
          ⟨.dst id place, aims, by simp [Owner.seat, there]⟩
        obtain rfl := Seated.backing_apart owned ⟨owner, holds, seat⟩ seated
          behind backing
        have same := owned.exclusive.once owner _ _ holds aims
        exact pending (published id place migration same there)
    | true =>
        simp only [Migration.inserted, Bool.and_eq_true, Bool.or_eq_true,
          beq_iff_eq, Option.isNone_iff_eq_none] at inserted
        obtain ⟨⟨stage, hole⟩, -⟩ := inserted
        have stage := stage.resolve_right pending
        have landed : migration.landed place = true := by
          simp [Migration.landed, stage, moved]
        rcases owned.landed_pte there landed with
          ⟨found, writable, source, -⟩ |
          ⟨found, writable, -, aimed', device, entry⟩
        · rw [hole] at source
          cases source
        · rw [aimed, Option.some.injEq] at aimed'
          subst aimed'
          have maps : Holds world.mem.inUse world.mem.zoneDeviceData
              world.cpu world.migrations (.pte migration.mm place) target := by
            refine ⟨?_, writable, entry⟩
            rintro rfl
            cases device
          have seated : world.Seated migration.mm place target :=
            ⟨.pte migration.mm place, maps, rfl⟩
          obtain ⟨rfl, rfl⟩ := Seated.apart owned ⟨owner, holds, seat⟩
            (Seated.backing_apart owned ⟨owner, holds, seat⟩ seated behind
              backing ▸ seated)
          have same := home.same tracked
            (.migrated id migration there rfl landed stage rfl)
          rw [hole] at same
          exact nonzero same

end World

end Rshm.Hmm
