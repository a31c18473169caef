import Rshm.Hmm.RoundTrip

/-!
# What a failed map update leaves behind

`dmirror_migrate_finalize_and_map` returns at its first failing store, and its
caller goes on.  The addresses behind that store keep the entries they had,
although their pages have been migrated and the mirror has ignored the
invalidation for them.
-/

namespace Rshm.Hmm

open RangeLoop

variable {Contents : Type}

/-- What `dmirror_migrate_finalize_and_map` does at a page number. -/
def finalizeAndMapPlan (mem : Memory Contents) (slots : Nat → MigrateSlot)
    (pfn : Nat) : Store :=
  if (slots pfn).src.migrate then
    match (slots pfn).dst.page with
    | none => .skip
    | some dpage => .put (finalizeAndMapEntry mem (slots pfn).dst dpage)
  else .skip

theorem finalizeAndMapPlan_moved {mem : Memory Contents}
    {slots : Nat → MigrateSlot} {pfn : Nat} {dpage : Page}
    (moved : (slots pfn).moved = true)
    (target : (slots pfn).dst.page = some dpage) :
    finalizeAndMapPlan mem slots pfn =
      .put (finalizeAndMapEntry mem (slots pfn).dst dpage) := by
  simp only [MigrateSlot.moved, Bool.and_eq_true] at moved
  simp only [finalizeAndMapPlan, moved.1, target, if_true]

theorem finalizeAndMapPlan_unmoved {mem : Memory Contents}
    {slots : Nat → MigrateSlot} {pfn : Nat}
    (unmoved : (slots pfn).moved = false) :
    finalizeAndMapPlan mem slots pfn = .skip := by
  unfold finalizeAndMapPlan
  cases marked : (slots pfn).src.migrate with
  | false => rfl
  | true =>
      cases target : (slots pfn).dst.page with
      | none => rfl
      | some dpage => simp [MigrateSlot.moved, marked, target] at unmoved

theorem finalizeAndMapPlan_put {mem : Memory Contents}
    {slots : Nat → MigrateSlot} {pfn : Nat} {entry : Option Entry}
    (puts : finalizeAndMapPlan mem slots pfn = .put entry) :
    (slots pfn).moved = true := by
  cases moved : (slots pfn).moved with
  | true => rfl
  | false =>
      rw [finalizeAndMapPlan_unmoved moved] at puts
      cases puts

theorem finalizeAndMapPlan_stop {mem : Memory Contents}
    {slots : Nat → MigrateSlot} {pfn : Nat} {errno : Errno} :
    finalizeAndMapPlan mem slots pfn ≠ .stop errno := by
  unfold finalizeAndMapPlan
  intro stops
  split at stops
  · split at stops <;> cases stops
  · cases stops

/-- No store up to `pfn` fails. -/
def StoresThrough (slots : Nat → MigrateSlot) (xaFails : Nat → Bool)
    (first pfn : Nat) : Prop :=
  ∀ place, first ≤ place → place ≤ pfn → (slots place).moved = true →
    xaFails place = false

/-- An address of a migrated page gets its new entry when no store up to it
fails, and every other address keeps the entry it had. -/
theorem dmirrorMigrateFinalizeAndMap_at (mem : Memory Contents)
    (slots : Nat → MigrateSlot) (xaFails : Nat → Bool) (count first : Nat)
    (pt : XArray) (pfn : Nat) :
    let after := (dmirrorMigrateFinalizeAndMap mem slots xaFails count first
      pt).1
    (∀ dpage, first ≤ pfn → pfn < first + count →
      (slots pfn).moved = true → (slots pfn).dst.page = some dpage →
      StoresThrough slots xaFails first pfn →
      after pfn = finalizeAndMapEntry mem (slots pfn).dst dpage) ∧
    (¬(first ≤ pfn ∧ pfn < first + count ∧ (slots pfn).moved = true ∧
        StoresThrough slots xaFails first pfn) →
      after pfn = pt pfn) := by
  intro after
  obtain ⟨done, bound, table, passed, ended⟩ := storeRange_spec
    (finalizeAndMapPlan mem slots) xaFails count first pt
  have result : after =
      storedUpTo (finalizeAndMapPlan mem slots) first done pt := table
  have through {place : Nat} (upper : place < first + done) :
      StoresThrough slots xaFails first place := by
    intro earlier lower within moved
    obtain ⟨dpage, target⟩ : ∃ dpage, (slots earlier).dst.page = some dpage := by
      simp only [MigrateSlot.moved, Bool.and_eq_true] at moved
      exact Option.isSome_iff_exists.mp moved.2
    exact (passed earlier lower (by omega)).2 _
      (finalizeAndMapPlan_moved moved target)
  rw [result, storedUpTo]
  constructor
  · intro dpage lower upper moved target stores
    have reached : pfn < first + done := by
      generalize (storeRange (finalizeAndMapPlan mem slots) xaFails count
        first pt).2 = exit at ended
      cases ended with
      | complete all => omega
      | gaveUp early stops => exact absurd stops finalizeAndMapPlan_stop
      | failed early puts fails =>
          by_contra beyond
          have works := stores (first + done) (by omega) (by omega)
            (finalizeAndMapPlan_put puts)
          rw [fails] at works
          cases works
    rw [if_pos ⟨lower, reached⟩, finalizeAndMapPlan_moved moved target]
  · intro untouched
    by_cases reached : first ≤ pfn ∧ pfn < first + done
    · rw [if_pos reached]
      cases moved : (slots pfn).moved with
      | false => rw [finalizeAndMapPlan_unmoved moved]
      | true =>
          exact absurd ⟨reached.1, by omega, moved, through reached.2⟩
            untouched
    · rw [if_neg reached]

/-- The mirror has an entry for the page that the address had before it was
migrated. -/
def Stale (slots : Nat → MigrateSlot) (pt : XArray) (pfn : Nat) : Prop :=
  ∃ entry, pt pfn = some entry ∧ (slots pfn).src.page = some entry.page

/-- No address of a migrated page has a stale entry. -/
def NoneStale (slots : Nat → MigrateSlot) (count first : Nat) (pt : XArray) :
    Prop :=
  ∀ pfn, first ≤ pfn → pfn < first + count → (slots pfn).moved = true →
    ¬Stale slots pt pfn

/-- The backing page of a target is not the page that it takes the place
of. -/
def FreshTargets (mem : Memory Contents) (slots : Nat → MigrateSlot) : Prop :=
  ∀ pfn dpage page, (slots pfn).dst.page = some dpage →
    (slots pfn).src.page = some page → mem.backingPage dpage ≠ some page

/-- The targets of `dmirror_migrate_alloc_and_copy` are fresh. -/
theorem freshTargets_of_copied [Zero Contents] (mdevice dmirror : Nat)
    (vmWrite : Bool) (alloc : Nat → Option (Nat × Nat)) (count first : Nat)
    {slots : Nat → MigrateSlot} {mem : Memory Contents}
    (used : ∀ pfn page, (slots pfn).src.page = some page → page ∈ mem.inUse)
    (untargeted : ∀ pfn, (slots pfn).dst.page = none) :
    let after := dmirrorMigrateAllocAndCopy mdevice dmirror vmWrite alloc
      count first (slots, mem)
    FreshTargets after.2 after.1 := by
  intro after pfn dpage page target source
  rcases dmirrorMigrateAllocAndCopy_cases mdevice dmirror vmWrite alloc count
      first used pfn with same | ⟨kept, dpfn, rpfn, copied⟩
  · have absent := untargeted pfn
    rw [← same] at absent
    have found := absent.symm.trans target
    cases found
  · have device : dpage = .devicePrivate mdevice dpfn := by
      have named := congrArg MigratePfn.page copied.dst
      exact Option.some.inj (target.symm.trans named)
    rw [device, copied.backing, Ne, Option.some.injEq]
    rintro rfl
    apply copied.freshBacking
    rw [kept] at source
    exact used pfn _ source

/-- `migrate_vma_pages` changes no target and no source page. -/
theorem FreshTargets.pages {mem : Memory Contents}
    {slots : Nat → MigrateSlot} (fresh : FreshTargets mem slots)
    (vmWrite : Bool) (migrated : Nat → Bool) (count first : Nat)
    (cpu : Nat → Pte) :
    FreshTargets mem
      (migrateVmaPages vmWrite migrated count first (cpu, slots)).2 := by
  intro pfn dpage page target source
  have cell := migrateVmaPages_cell vmWrite migrated count first (cpu, slots)
    pfn
  have same : ((migrateVmaPages vmWrite migrated count first
        (cpu, slots)).2 pfn).dst = (slots pfn).dst ∧
      ((migrateVmaPages vmWrite migrated count first
        (cpu, slots)).2 pfn).src.page = (slots pfn).src.page := by
    split at cell
    · have cases := pagesCell_cases vmWrite (migrated pfn) (cpu pfn)
        (slots pfn)
      dsimp only at cell cases
      rw [← cell] at cases
      exact ⟨cases.1, cases.2.1⟩
    · rw [(Prod.mk.inj cell).2]
      exact ⟨rfl, rfl⟩
  rw [same.1] at target
  rw [same.2] at source
  exact fresh pfn dpage page target source

theorem FreshTargets.noneStale_iff {mem : Memory Contents}
    {slots : Nat → MigrateSlot} (fresh : FreshTargets mem slots)
    (xaFails : Nat → Bool) (count first : Nat) (pt : XArray)
    (replaces : ∀ pfn, xaFails pfn = true → pt pfn = none) :
    NoneStale slots count first
        (dmirrorMigrateFinalizeAndMap mem slots xaFails count first pt).1 ↔
      ∀ stop pfn, first ≤ stop → stop < pfn → pfn < first + count →
        (slots stop).moved = true → xaFails stop = true →
        (slots pfn).moved = true → ¬Stale slots pt pfn := by
  constructor
  · intro none_ stop pfn lower order upper stopMoved fails moved stale
    have kept := (dmirrorMigrateFinalizeAndMap_at mem slots xaFails count
      first pt pfn).2 (by
        rintro ⟨-, -, -, stores⟩
        rw [stores stop lower (by omega) stopMoved] at fails
        cases fails)
    apply none_ pfn (by omega) upper moved
    obtain ⟨entry, found, source⟩ := stale
    exact ⟨entry, kept.trans found, source⟩
  · intro behind pfn lower upper moved stale
    obtain ⟨entry, found, source⟩ := stale
    obtain ⟨stored, kept⟩ := dmirrorMigrateFinalizeAndMap_at mem slots xaFails
      count first pt pfn
    by_cases stores : StoresThrough slots xaFails first pfn
    · obtain ⟨dpage, target⟩ : ∃ dpage, (slots pfn).dst.page = some dpage := by
        simp only [MigrateSlot.moved, Bool.and_eq_true] at moved
        exact Option.isSome_iff_exists.mp moved.2
      rw [stored dpage lower upper moved target stores,
        finalizeAndMapEntry, Option.map_eq_some_iff] at found
      obtain ⟨page, link, rfl⟩ := found
      exact fresh pfn dpage page target source link
    · rw [kept (fun all => stores all.2.2.2)] at found
      simp only [StoresThrough, not_forall] at stores
      obtain ⟨stop, low, high, stopMoved, fails⟩ := stores
      simp only [Bool.not_eq_false] at fails
      by_cases here : stop = pfn
      · subst here
        rw [replaces stop fails] at found
        cases found
      · exact behind stop pfn low (by omega) upper stopMoved fails moved
          ⟨entry, found, source⟩

/-- A map update leaves no stale entry just when no address behind a failing
store has one. -/
theorem finalize_and_map_stale_iff (mem : Memory Contents)
    (slots : Nat → MigrateSlot) (fresh : FreshTargets mem slots)
    (xaFails : Nat → Bool) (count first : Nat) (pt : XArray)
    (replaces : ∀ pfn, xaFails pfn = true → pt pfn = none) :
    NoneStale slots count first
        (dmirrorMigrateFinalizeAndMap mem slots xaFails count first pt).1 ↔
      ∀ stop pfn, first ≤ stop → stop < pfn → pfn < first + count →
        (slots stop).moved = true → xaFails stop = true →
        (slots pfn).moved = true → ¬Stale slots pt pfn :=
  fresh.noneStale_iff xaFails count first pt replaces

/-- The same of a migration to the device, whose targets are fresh because
`dmirror_migrate_alloc_and_copy` has allocated them. -/
theorem migration_stale_iff [Zero Contents] (mdevice dmirror : Nat)
    (vmWrite : Bool) (alloc : Nat → Option (Nat × Nat))
    (migrated : Nat → Bool) (count first : Nat) (cpu : Nat → Pte)
    {slots : Nat → MigrateSlot} {mem : Memory Contents}
    (used : ∀ pfn page, (slots pfn).src.page = some page → page ∈ mem.inUse)
    (untargeted : ∀ pfn, (slots pfn).dst.page = none)
    (xaFails : Nat → Bool) (pt : XArray)
    (replaces : ∀ pfn, xaFails pfn = true → pt pfn = none) :
    let copied := dmirrorMigrateAllocAndCopy mdevice dmirror vmWrite alloc
      count first (slots, mem)
    let moved := (migrateVmaPages vmWrite migrated count first
      (cpu, copied.1)).2
    NoneStale moved count first
        (dmirrorMigrateFinalizeAndMap copied.2 moved xaFails count first
          pt).1 ↔
      ∀ stop pfn, first ≤ stop → stop < pfn → pfn < first + count →
        (moved stop).moved = true → xaFails stop = true →
        (moved pfn).moved = true → ¬Stale moved pt pfn :=
  ((freshTargets_of_copied mdevice dmirror vmWrite alloc count first used
    untargeted).pages vmWrite migrated count first cpu).noneStale_iff xaFails
      count first pt replaces

/-- Two pages that have been migrated to the device. -/
def twoMoved (pfn : Nat) : MigrateSlot where
  src := ⟨some (.normal pfn), true, true⟩
  dst := ⟨some (.devicePrivate 0 pfn), false, true⟩

/-- The backing pages of the device are the frames from 100 on. -/
def backedFrom100 : Memory Nat where
  contents := fun _ => 0
  zoneDeviceData := fun page =>
    match page with
    | .devicePrivate _ pfn => .page (.normal (pfn + 100))
    | _ => .null
  inUse := ∅

theorem backedFrom100_fresh : FreshTargets backedFrom100 twoMoved := by
  intro pfn dpage page target source link
  simp only [twoMoved, Option.some.injEq] at target source
  subst target source
  simp only [Memory.backingPage, Page.isDevicePrivatePage, backedFrom100,
    if_true, Option.some.injEq, Page.normal.injEq] at link
  omega

/-- Without a failing store nothing stale is left. -/
theorem finalize_and_map_replaces :
    NoneStale twoMoved 2 0
      (dmirrorMigrateFinalizeAndMap backedFrom100 twoMoved (fun _ => false) 2
        0 fun pfn => some ⟨.normal pfn, .write⟩).1 :=
  (finalize_and_map_stale_iff backedFrom100 twoMoved backedFrom100_fresh
    (fun _ => false) 2 0 (fun pfn => some ⟨.normal pfn, .write⟩)
    (fun _ fails => by cases fails)).mpr
      fun _ _ _ _ _ _ fails => by cases fails

/-- The first address has no entry and no memory for one; the entry of the
second one stays. -/
theorem finalize_and_map_leaves_stale :
    ¬∀ (mem : Memory Nat) (slots : Nat → MigrateSlot) (xaFails : Nat → Bool)
      (count first : Nat) (pt : XArray), FreshTargets mem slots →
      (∀ pfn, xaFails pfn = true → pt pfn = none) →
      NoneStale slots count first
        (dmirrorMigrateFinalizeAndMap mem slots xaFails count first pt).1 := by
  intro always
  have none_ := always backedFrom100 twoMoved (fun pfn => pfn == 0) 2 0
    (fun pfn => if pfn = 0 then none else some ⟨.normal pfn, .write⟩)
    backedFrom100_fresh (by
      intro pfn fails
      rw [beq_iff_eq] at fails
      exact if_pos fails)
  exact none_ 1 (by decide) (by decide) rfl ⟨⟨.normal 1, .write⟩, rfl, rfl⟩

end Rshm.Hmm
