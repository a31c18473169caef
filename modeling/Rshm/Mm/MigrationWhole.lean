import Rshm.Mm.Finalize
import Rshm.Mm.SetupExact

/-!
# A migration from its setup to its end

What the page tables and the pages are like after `migrate_device_finalize`,
compared with what they were like before the pages were collected: every
address is mapped as before, but for the pages that have migrated.
-/

namespace Rshm.Mm

variable {host : Host} {base start after : Kernel} {old new pfn : Pfn}
  {collected src dst : Nat → UInt64} {npages : Nat}

/-- A slot whose page has migrated. -/
structure Migrates (src dst : Nat → UInt64) (npages i : Nat)
    (old new : Pfn) : Prop where
  within : i < npages
  source : pageOf (src i) = some old
  moving : migrating (src i) = true
  destination : pageOf (dst i) = some new

/-- The entry of an address after a migration. -/
def EntryMigrated (host : Host) (base start after : Kernel)
    (src dst : Nat → UInt64) (npages : Nat) (place : Place) : Prop :=
  after.table place = base.table place ∨
    ∃ i old new, Migrates src dst npages i old new ∧
      (base.table place).maps = some old ∧
      after.table place = (base.table place).redirect (host.kind new)
        (start.frame new).dirty new

/-- The address is mapped to the destination of its page where the page has
migrated, and as before where it has not. -/
structure EntryFinal (host : Host) (base start after : Kernel)
    (src dst : Nat → UInt64) (npages : Nat) (place : Place) : Prop where
  moved : ∀ i old new, Migrates src dst npages i old new →
    (base.table place).maps = some old →
    after.table place = (base.table place).redirect (host.kind new)
      (start.frame new).dirty new
  kept : (∀ i old new, Migrates src dst npages i old new →
      (base.table place).maps ≠ some old) →
    after.table place = base.table place

/-- What the arrays are to `migrate_device_finalize`. -/
structure Prepared (host : Host) (base start : Kernel)
    (collected src dst : Nat → UInt64) (npages : Nat) : Prop where
  sound : base.Sound host
  setUp : SetUp host base start collected npages
  pages : ∀ i, i < npages → pageOf (src i) = pageOf (collected i)
  offered : Offered host start src dst npages

theorem Prepared.free (prepared : Prepared host base start collected src dst
      npages) {i : Nat} (within : i < npages)
    (page : pageOf (src i) = some old) : (base.frame old).locked = false := by
  rw [prepared.pages i within] at page
  exact (prepared.setUp.ready i old within page).2.held.free

theorem Prepared.unnamed (prepared : Prepared host base start collected src
      dst npages) {i : Nat} (within : i < npages)
    (page : pageOf (dst i) = some new) (place : Place) :
    (base.table place).names ≠ some new := by
  rw [← prepared.setUp.names.names place]
  exact (prepared.offered.vacant i new within page).unnamed place

/-- What becomes of a page. -/
inductive Fate (host : Host) (base start after : Kernel)
    (src dst : Nat → UInt64) (npages : Nat) (pfn : Pfn) : Prop where
  | intact (same : Intact base after pfn)
      (elsewhere : ∀ i, i < npages → pageOf (dst i) ≠ some pfn)
  | left (i : Nat) (new : Pfn) (migrates : Migrates src dst npages i pfn new)
      (moved : Moved host base start after pfn new)
  | taken (i : Nat) (old : Pfn) (migrates : Migrates src dst npages i old pfn)
      (moved : Moved host base start after old pfn)
  | released (i : Nat) (within : i < npages)
      (destination : pageOf (dst i) = some pfn)
      (released : Released start after pfn)

theorem Finalized.fate
    (finalized : Finalized host base start after src dst npages)
    (offered : Offered host start src dst npages) (pfn : Pfn) :
    Fate host base start after src dst npages pfn := by
  by_cases source : ∃ i, i < npages ∧ pageOf (src i) = some pfn
  · obtain ⟨i, within, page⟩ := source
    have elsewhere : ∀ j, j < npages → pageOf (dst j) ≠ some pfn := by
      intro j within' destination
      exact offered.apart j i pfn within' within destination page
    have slot := finalized.slots i within
    rw [SlotFinal, page] at slot
    cases destination : pageOf (dst i) with
    | none =>
        rw [destination] at slot
        exact .intact slot elsewhere
    | some new =>
        rw [destination] at slot
        dsimp only at slot
        split at slot
        · next moving =>
          exact .left i new ⟨within, page, moving, destination⟩ slot
        · exact .intact slot.1 elsewhere
  · by_cases destination : ∃ i, i < npages ∧ pageOf (dst i) = some pfn
    · obtain ⟨i, within, page⟩ := destination
      have slot := finalized.slots i within
      rw [SlotFinal, page] at slot
      cases taken : pageOf (src i) with
      | none =>
          rw [taken] at slot
          exact .released i within page slot
      | some old =>
          rw [taken] at slot
          dsimp only at slot
          split at slot
          · next moving =>
            exact .taken i old ⟨within, taken, moving, page⟩ slot
          · exact .released i within page slot.2
    · have absent (i : Nat) (within : i < npages) :
          pageOf (src i) ≠ some pfn ∧ pageOf (dst i) ≠ some pfn :=
        ⟨fun page => source ⟨i, within, page⟩,
          fun page => destination ⟨i, within, page⟩⟩
      exact .intact (finalized.others pfn absent)
        fun i within => (absent i within).2

/-- Every address is mapped as before, or to the destination of its page. -/
theorem Finalized.entry
    (finalized : Finalized host base start after src dst npages)
    (prepared : Prepared host base start collected src dst npages)
    (place : Place) :
    EntryMigrated host base start after src dst npages place := by
  cases named : (base.table place).names with
  | none => exact .inl (finalized.plain place named)
  | some pfn =>
      cases finalized.fate prepared.offered pfn with
      | intact same elsewhere => exact .inl (same.entries place named)
      | left i new migrates moved =>
          have maps : (base.table place).maps = some pfn := by
            rcases Pte.maps_or_moves named with maps | moves
            · exact maps
            · have locked := prepared.sound.moving place pfn moves
              rw [prepared.free migrates.within migrates.source] at locked
              cases locked
          exact .inr ⟨i, pfn, new, migrates, maps, moved.table place maps⟩
      | taken i old migrates moved =>
          exact absurd named
            (prepared.unnamed migrates.within migrates.destination place)
      | released i within destination released =>
          exact absurd named (prepared.unnamed within destination place)

theorem Finalized.moved
    (finalized : Finalized host base start after src dst npages) {i : Nat}
    (migrates : Migrates src dst npages i old new) :
    Moved host base start after old new := by
  have moved := finalized.slots i migrates.within
  rw [SlotFinal, migrates.source, migrates.destination] at moved
  dsimp only at moved
  rw [if_pos migrates.moving] at moved
  exact moved

theorem Finalized.entryFinal
    (finalized : Finalized host base start after src dst npages)
    (prepared : Prepared host base start collected src dst npages)
    (place : Place) :
    EntryFinal host base start after src dst npages place := by
  constructor
  · intro i old new migrates maps
    exact (finalized.moved migrates).table place maps
  · intro stays
    rcases finalized.entry prepared place with
      same | ⟨i, old, new, migrates, maps, -⟩
    · exact same
    · exact absurd maps (stays i old new migrates)

theorem Finalized.intact_maps
    (finalized : Finalized host base start after src dst npages)
    (prepared : Prepared host base start collected src dst npages)
    (same : Intact base after pfn)
    (elsewhere : ∀ i, i < npages → pageOf (dst i) ≠ some pfn)
    (place : Place) :
    (after.table place).maps = some pfn ↔
      (base.table place).maps = some pfn := by
  constructor
  · intro maps
    rcases finalized.entry prepared place with
      equal | ⟨i, old, new, migrates, -, redirected⟩
    · rw [← equal]
      exact maps
    · rw [redirected, Pte.redirect_maps] at maps
      cases maps
      exact absurd migrates.destination (elsewhere i migrates.within)
  · intro maps
    rw [same.entries place (Pte.names_of_maps maps)]
    exact maps

theorem Kernel.mappings_unnamed {kernel : Kernel}
    (unnamed : ∀ place, (kernel.table place).names ≠ some pfn) :
    kernel.mappings host pfn = 0 := by
  rw [Kernel.mappings, List.countP_eq_zero]
  intro place _
  rw [decide_eq_true_iff]
  intro maps
  exact unnamed place (Pte.names_of_maps maps)

theorem Finalized.mapcount
    (finalized : Finalized host base start after src dst npages)
    (prepared : Prepared host base start collected src dst npages)
    (pfn : Pfn) :
    (after.frame pfn).mapcount = after.mappings host pfn := by
  cases finalized.fate prepared.offered pfn with
  | intact same elsewhere =>
      have equal : after.mappings host pfn = base.mappings host pfn := by
        apply List.countP_congr
        intro place _
        simp only [decide_eq_true_eq]
        exact finalized.intact_maps prepared same elsewhere place
      rw [same.frame, equal]
      exact prepared.sound.mapcount pfn
  | left i new migrates moved =>
      rw [moved.oldMapcount, Kernel.mappings_unnamed moved.unnamed]
      rfl
  | taken i old migrates moved =>
      have shared := (prepared.offered.mapping i old pfn migrates.within
        migrates.source migrates.moving migrates.destination).1
      have equal : after.mappings host pfn = base.mappings host old := by
        unfold Kernel.mappings
        rw [shared]
        apply List.countP_congr
        intro place _
        simp only [decide_eq_true_eq]
        constructor
        · intro maps
          exact moved.traced place (Pte.names_of_maps maps)
        · intro maps
          rw [moved.table place maps]
          exact Pte.redirect_maps ..
      rw [moved.newMapcount, equal]
  | released i within destination released =>
      rw [released.frame, Kernel.mappings_unnamed released.unnamed]
      exact (prepared.offered.vacant i pfn within destination).mapcount

/-- The page tables and the pages agree after a migration as they did before
it. -/
theorem Finalized.sound
    (finalized : Finalized host base start after src dst npages)
    (prepared : Prepared host base start collected src dst npages) :
    after.Sound host := by
  constructor
  · exact prepared.sound.nodup
  · intro place pfn maps
    rcases finalized.entry prepared place with
      equal | ⟨i, old, new, migrates, mapped, redirected⟩
    · rw [equal] at maps
      exact prepared.sound.mapped place pfn maps
    · rw [redirected, Pte.redirect_maps] at maps
      cases maps
      have shared := (prepared.offered.mapping i old pfn migrates.within
        migrates.source migrates.moving migrates.destination).1
      rw [shared]
      exact prepared.sound.mapped place old mapped
  · intro place pfn moves
    rcases finalized.entry prepared place with
      equal | ⟨i, old, new, migrates, mapped, redirected⟩
    · rw [equal] at moves
      have locked := prepared.sound.moving place pfn moves
      cases finalized.fate prepared.offered pfn with
      | intact same elsewhere =>
          rw [same.frame]
          exact locked
      | left i new migrates moved =>
          rw [prepared.free migrates.within migrates.source] at locked
          cases locked
      | taken i old migrates moved =>
          exact absurd (Pte.names_of_moves moves)
            (prepared.unnamed migrates.within migrates.destination place)
      | released i within destination released =>
          exact absurd (Pte.names_of_moves moves)
            (prepared.unnamed within destination place)
    · rw [redirected, Pte.not_moves_of_maps (Pte.redirect_maps ..)] at moves
      cases moves
  · exact finalized.mapcount prepared
  · intro place
    rcases finalized.entry prepared place with
      equal | ⟨i, old, new, migrates, mapped, redirected⟩
    · rw [equal]
      exact prepared.sound.proper place
    · rw [redirected]
      exact Pte.redirect_proper ..
  · intro place pfn maps write anon
    rcases finalized.entry prepared place with
      equal | ⟨i, old, new, migrates, mapped, redirected⟩
    · rw [equal] at maps write
      cases finalized.fate prepared.offered pfn with
      | intact same elsewhere =>
          rw [same.frame]
          exact prepared.sound.exclusive place pfn maps write anon
      | left i new migrates moved =>
          refine absurd ?_ (moved.unnamed place)
          rw [equal]
          exact Pte.names_of_maps maps
      | taken i old migrates moved =>
          exact absurd (Pte.names_of_maps maps)
            (prepared.unnamed migrates.within migrates.destination place)
      | released i within destination released =>
          exact absurd (Pte.names_of_maps maps)
            (prepared.unnamed within destination place)
    · have here := maps
      rw [redirected, Pte.redirect_maps] at here
      cases here
      exact (finalized.moved migrates).writable place maps write anon

/-- The one page of `onePageKernel`, ready to be copied. -/
theorem onePage_setUp :
    ∃ src, (migrateVmaSetup onePageHost onePageWalker onePageArgs
        onePageKernel).args.src = some src ∧
      src 0 = sourceWord 1 true ∧ pageOf (src 1) = none ∧
      SetUp onePageHost onePageKernel
        (migrateVmaSetup onePageHost onePageWalker onePageArgs
          onePageKernel).kernel src 2 := by
  rcases migrateVmaSetup_cases onePageHost onePageWalker onePageArgs
    onePageKernel with ⟨ret, -⟩ | ⟨vma, array, array', -, -, filled⟩
  · exact absurd ret (by decide)
  · have words : (migrateVmaSetup onePageHost onePageWalker onePageArgs
        onePageKernel).args.src.map
          (fun src => (src 0, pageOf (src 1))) =
            some (sourceWord 1 true, none) := rfl
    obtain ⟨src, given, exact_⟩ := migrateVmaFill_exact onePageKernel_sound
      onePageWalker onePageArgs vma array array' onePageArgs.nrPages.toNat
    have setUp := exact_.setUp
    rw [onePage_walked, ← filled] at setUp
    rw [← filled] at given
    rw [given] at words
    obtain ⟨first, second⟩ := Prod.mk.inj (Option.some.inj words)
    exact ⟨src, given, first, second, setUp⟩

/-- A destination for the page, and none for the address after it. -/
def onePageDst (i : Nat) : UInt64 :=
  if i = 0 then migratePfn 2 else 0

theorem pageOf_onePageDst {i : Nat} {new : Pfn}
    (page : pageOf (onePageDst i) = some new) : i = 0 ∧ new = 2 := by
  unfold onePageDst at page
  split at page
  · next first =>
    rw [pageOf_migratePfn] at page
    exact ⟨first, (Option.some.inj page).symm⟩
  · cases page

theorem onePage_prepared {src : Nat → UInt64}
    (first : src 0 = sourceWord 1 true) (second : pageOf (src 1) = none)
    (setUp : SetUp onePageHost onePageKernel start src 2) :
    Prepared onePageHost onePageKernel start src src onePageDst 2 := by
  have apart (i : Nat) (within : i < 2) : pageOf (src i) ≠ some 2 := by
    intro page
    obtain rfl | rfl : i = 0 ∨ i = 1 := by omega
    · rw [first, pageOf_sourceWord] at page
      cases page
    · rw [second] at page
      cases page
  refine ⟨onePageKernel_sound, setUp, fun _ _ => rfl, ⟨?_, ?_, ?_, ?_⟩⟩
  · intro i new _ page
    obtain ⟨-, rfl⟩ := pageOf_onePageDst page
    constructor
    · intro place named
      rw [setUp.names.names place] at named
      rcases Pte.maps_or_moves named with maps | moves
      · cases (onePageKernel_maps maps).2
      · have locked := onePageKernel_sound.moving place 2 moves
        cases locked
    · rw [(setUp.intact 2 apart).frame]
      rfl
  · intro i j new _ _ page page'
    rw [(pageOf_onePageDst page).1, (pageOf_onePageDst page').1]
  · intro i j new _ within page
    obtain ⟨-, rfl⟩ := pageOf_onePageDst page
    exact apart j within
  · intro i old new _ source _ page
    obtain ⟨rfl, rfl⟩ := pageOf_onePageDst page
    rw [first, pageOf_sourceWord] at source
    cases source
    exact ⟨rfl, rfl⟩

/-- `migrate_device_finalize` keeps the page tables and the pages in
agreement.  It maps an address to the destination of its page, with the same
access, exactly where the page has migrated, and as before elsewhere; it
unlocks and lets go every page it was given, and leaves the others. -/
theorem migrateDeviceFinalize_exact
    (prepared : Prepared host base start collected src dst npages) :
    (migrateDeviceFinalize host src dst npages start).Sound host ∧
      Finalized host base start
        (migrateDeviceFinalize host src dst npages start) src dst npages ∧
      ∀ place, EntryFinal host base start
        (migrateDeviceFinalize host src dst npages start) src dst npages
        place := by
  have finalized := migrateDeviceFinalize_finalized prepared.sound
    prepared.setUp prepared.pages prepared.offered
  exact ⟨finalized.sound prepared, finalized, finalized.entryFinal prepared⟩

/-- The address of the page is mapped to the destination, writable as before;
the page is unlocked and has lost its mapping and the reference of that. -/
theorem migrateDeviceFinalize_exact_onePage :
    ∃ src after, (migrateVmaSetup onePageHost onePageWalker onePageArgs
        onePageKernel).args.src = some src ∧
      migrateDeviceFinalize onePageHost src onePageDst 2
        (migrateVmaSetup onePageHost onePageWalker onePageArgs
          onePageKernel).kernel = after ∧
      (after.table (0, 5)).maps = some 2 ∧
      (after.table (0, 5)).isWrite = true ∧
      (after.frame 1).mapcount = 0 ∧ (after.frame 1).count = 0 ∧
      (after.frame 1).locked = false ∧ (after.frame 2).mapcount = 1 ∧
      (after.frame 2).locked = false ∧ after.Sound onePageHost := by
  obtain ⟨src, given, first, second, setUp⟩ := onePage_setUp
  obtain ⟨sound, finalized, entries⟩ := migrateDeviceFinalize_exact
    (onePage_prepared first second setUp)
  refine ⟨src, _, given, rfl, ?_⟩
  generalize (migrateVmaSetup onePageHost onePageWalker onePageArgs
    onePageKernel).kernel = start at *
  generalize migrateDeviceFinalize onePageHost src onePageDst 2 start =
    after at *
  have migrates : Migrates src onePageDst 2 0 1 2 := by
    refine ⟨by decide, ?_, ?_, rfl⟩
    · rw [first, pageOf_sourceWord]
    · rw [first, migrating_sourceWord]
  have moved := finalized.moved migrates
  have entry := (entries (0, 5)).moved 0 1 2 migrates rfl
  refine ⟨?_, ?_, moved.oldMapcount, moved.oldCount, moved.oldLocked,
    moved.newMapcount, moved.newLocked, sound⟩
  · rw [entry]
    exact Pte.redirect_maps ..
  · rw [entry]
    rfl

/-- Nothing is left of a migration, but that pages may have become dirty. -/
structure Restored (base after : Kernel) : Prop where
  table : after.table = base.table
  pages : ∀ pfn, Intact base after pfn

theorem SetUp.restored {kernel : Kernel}
    (setUp : SetUp host base kernel src npages)
    (pageless : ∀ i, i < npages → pageOf (src i) = none) :
    Restored base kernel := by
  have intact (pfn : Pfn) : Intact base kernel pfn := by
    apply setUp.intact pfn
    intro i within page
    rw [pageless i within] at page
    cases page
  refine ⟨?_, intact⟩
  funext place
  rcases setUp.names place with same | ⟨pfn, named, -⟩
  · exact same
  · exact (intact pfn).entries place named

theorem Prepared.of_nowhere (sound : base.Sound host)
    (setUp : SetUp host base start collected npages)
    (pages : ∀ i, i < npages → pageOf (src i) = pageOf (collected i))
    (nowhere : ∀ i, i < npages → pageOf (dst i) = none) :
    Prepared host base start collected src dst npages := by
  have never {i : Nat} {new : Pfn} (within : i < npages)
      (page : pageOf (dst i) = some new) : False := by
    rw [nowhere i within] at page
    cases page
  refine ⟨sound, setUp, pages, ⟨?_, ?_, ?_, ?_⟩⟩
  · intro i new within page
    exact (never within page).elim
  · intro i j new within _ page
    exact (never within page).elim
  · intro i j new within _ page
    exact (never within page).elim
  · intro i old new within _ _ page
    exact (never within page).elim

theorem migrateDeviceFinalize_restores (sound : base.Sound host)
    (setUp : SetUp host base start collected npages)
    (pages : ∀ i, i < npages → pageOf (src i) = pageOf (collected i))
    (nowhere : ∀ i, i < npages → pageOf (dst i) = none) :
    Restored base (migrateDeviceFinalize host src dst npages start) := by
  have prepared := Prepared.of_nowhere sound setUp pages nowhere
  have finalized := migrateDeviceFinalize_finalized prepared.sound
    prepared.setUp prepared.pages prepared.offered
  have never {i : Nat} {old new : Pfn}
      (migrates : Migrates src dst npages i old new) : False := by
    have page := migrates.destination
    rw [nowhere i migrates.within] at page
    cases page
  constructor
  · funext place
    rcases finalized.entry prepared place with same | ⟨i, old, new, migrates, -⟩
    · exact same
    · exact (never migrates).elim
  · intro pfn
    cases finalized.fate prepared.offered pfn with
    | intact same elsewhere => exact same
    | left i new migrates moved => exact (never migrates).elim
    | taken i old migrates moved => exact (never migrates).elim
    | released i within destination released =>
        rw [nowhere i within] at destination
        cases destination

theorem migrateDevicePagesOne_exit {Contents : Type}
    (env : MigrateEnv Contents) (slot : Nat) (state : MigrateState Contents)
    (exit : Oops)
    (stopped : (migrateDevicePagesOne env slot state).2 = some exit) :
    exit = .badPointer := by
  have wild := retrievePage_wild (env.retrieval slot)
    (state.src slot).toUInt32.toInt32 state.client
  unfold migrateDevicePagesOne at stopped
  dsimp only at stopped
  rw [wild] at stopped
  cases destination : migratePfnToPage (env.dst slot) with
  | null =>
      rw [destination] at stopped
      cases stopped
  | page newpage =>
      rw [destination] at stopped
      exact (Option.some.inj stopped).symm
  | wild address =>
      rw [destination] at stopped
      cases stopped

/-- The migration step goes on to its end only where it migrates nothing. -/
theorem migrateDevicePages_outcome {Contents : Type}
    (env : MigrateEnv Contents) (npages : Nat) (src : Nat → UInt64)
    (client : Client Contents) :
    (migrateDevicePages env npages (.start src client)).2 =
        some .badPointer ∨
      (migrateDevicePages env npages (.start src client)).2 = none ∧
        ∀ i, i < npages → pageOf (env.dst i) = none := by
  cases ended : (migrateDevicePages env npages (.start src client)).2 with
  | some exit =>
      left
      rw [migrateDevicePages] at ended
      have bad := RangeLoop.forRange_exit
        (migrateDevicePagesOne_exit env) ended
      rw [bad]
  | none =>
      refine .inr ⟨rfl, ?_⟩
      intro i within
      obtain ⟨state, continues⟩ :=
        RangeLoop.forRange_passes ended i (Nat.zero_le i) (by omega)
      have nowhere := migrateDevicePagesOne_destination env i state continues
      rw [migratePfnToPage_eq] at nowhere
      cases page : pageOf (env.dst i) with
      | none => rfl
      | some new =>
          rw [page] at nowhere
          cases nowhere

/-- A migration ends at a bad pointer, or it undoes all that its setup has
done, but that the walk has split huge pages and lost references to those
that were locked. -/
theorem migrateVma_undone {Contents : Type} (sound : base.Sound host)
    (walker : Walker) (args : MigrateVmaArgs) (env : MigrateEnv Contents)
    (client : Client Contents)
    (accepted : (migrateVmaSetup host walker args base).ret = 0)
    (given : (migrateVmaSetup host walker args base).args.src = some src) :
    (migrateDevicePages env
        (migrateVmaSetup host walker args base).args.npages
        (.start src client)).2 = some .badPointer ∨
      (migrateDevicePages env
          (migrateVmaSetup host walker args base).args.npages
          (.start src client)).2 = none ∧
        Restored (base.walked host (args.segments walker))
          (migrateDeviceFinalize host
            (migrateDevicePages env
              (migrateVmaSetup host walker args base).args.npages
              (.start src client)).1.src env.dst
            (migrateVmaSetup host walker args base).args.npages
            (migrateVmaSetup host walker args base).kernel) := by
  rcases migrateVmaSetup_cases host walker args base with
    ⟨ret, -, -, -⟩ | ⟨vma, array, array', -, -, filled⟩
  · rw [ret] at accepted
    cases accepted
  · rw [filled] at given ⊢
    obtain ⟨found, arrays, exact_⟩ := migrateVmaFill_exact sound walker args
      vma array array' args.nrPages.toNat
    rw [given] at arrays
    cases arrays
    generalize migrateVmaFill host walker args.masked vma array array'
      args.nrPages.toNat base = setup at *
    rcases migrateDevicePages_outcome env setup.args.npages src client with
      bad | ⟨returns, nowhere⟩
    · exact .inl bad
    · obtain ⟨-, words, -⟩ := migrateDevicePages_null env
        setup.args.npages src client (by
          intro i within
          rw [migratePfnToPage_eq, nowhere i within])
      refine .inr ⟨returns, migrateDeviceFinalize_restores
        (sound.settled _ _) exact_.setUp ?_ nowhere⟩
      intro i within
      rw [words i within, pageOf_clearMigrate]

def noPagesEnv : MigrateEnv Unit where
  dst _ := 0
  migrate := none
  retrieval _ := ⟨0, 0, 0, fun i => ⟨4096, (), some i⟩⟩
  mapped _ := false
  zone _ := .normal
  folio _ := 0
  inserts _ := false

def noPagesClient : Client Unit :=
  ⟨⟨fun i => ⟨.invalid, i⟩, 250, fun _ => (), ∅, false⟩, 0, 0⟩

/-- The page is unmapped and mapped again; the huge page beside it keeps the
reference of the walk. -/
theorem migrateVma_undone_onePage :
    ∃ src after, (migrateVmaSetup onePageHost hugePageWalker onePageArgs
        onePageKernel).args.src = some src ∧
      migrateDeviceFinalize onePageHost
        (migrateDevicePages noPagesEnv 2 (.start src noPagesClient)).1.src
        (fun _ => 0) 2
        (migrateVmaSetup onePageHost hugePageWalker onePageArgs
          onePageKernel).kernel = after ∧
      after.table = onePageKernel.table ∧
      Intact onePageKernel after 1 ∧ (after.frame 9).count = 2 := by
  have npages : (migrateVmaSetup onePageHost hugePageWalker onePageArgs
      onePageKernel).args.npages = 2 := rfl
  have some_ : (migrateVmaSetup onePageHost hugePageWalker onePageArgs
      onePageKernel).args.src.isSome = true := rfl
  obtain ⟨src, given⟩ := Option.isSome_iff_exists.mp some_
  refine ⟨src, _, given, rfl, ?_⟩
  have undone := migrateVma_undone onePageKernel_sound hugePageWalker
    onePageArgs noPagesEnv noPagesClient rfl given
  rw [npages] at undone
  rcases undone with bad | ⟨-, restored⟩
  · have returns := (migrateDevicePages_null noPagesEnv 2 src noPagesClient
      (fun _ _ => (rfl : migratePfnToPage 0 = .null))).1
    rw [returns] at bad
    cases bad
  · refine ⟨restored.table, ?_, ?_⟩
    · have page := restored.pages 1
      exact ⟨page.frame, page.dirty, page.entries⟩
    · exact congrArg Frame.count (restored.pages 9).frame

end Rshm.Mm
