import Rshm.Mm.CollectExact

/-!
# Unmapping the collected pages

`migrate_device_unmap`: the first loop isolates each page from the LRU,
replaces the rest of its mappings and looks for references that nothing
accounts for; the second puts the pages back that have not passed.
-/

namespace Rshm.Mm

open RangeLoop

/-- The references to an unmapped page that are accounted for: the caller's,
that of a fault on the page, that of `ZONE_DEVICE`, and those of the page
cache. -/
def expectedRefs (host : Host) (pfn : Pfn) (faultPage : Option Pfn) : Int :=
  1 + (if faultPage = some pfn then 1 else 0) +
    (if (host.kind pfn).isZoneDevice then 1 else 0) +
    if (host.kind pfn).file then
      1 + if (host.kind pfn).hasPrivate then 1 else 0
    else 0

def migrateVmaCheckPage (host : Host) (pfn : Pfn) (faultPage : Option Pfn)
    (kernel : Kernel) : Bool :=
  if (kernel.frame pfn).compound then false
  else
    decide ((kernel.frame pfn).count - expectedRefs host pfn faultPage ≤
      (kernel.frame pfn).mapcount)

/-- `isolate_lru_page` on a page that is not `ZONE_DEVICE`, and the reference
of `migrate_vma_collect_pmd` dropped. -/
def isolatePage (host : Host) (pfn : Pfn) (kernel : Kernel) : Option Kernel :=
  if (host.kind pfn).isZoneDevice then some kernel
  else (host.isolateLruPage pfn kernel).map (Kernel.putPage pfn)

/-- A page in the first loop of `migrate_device_unmap`, and whether it may
migrate. -/
def unmapPage (host : Host) (faultPage : Option Pfn) (pfn : Pfn)
    (kernel : Kernel) : Bool × Kernel :=
  match isolatePage host pfn kernel with
  | none => (false, kernel)
  | some kernel =>
      let kernel :=
        if 0 < (kernel.frame pfn).mapcount then host.tryToMigrate pfn kernel
        else kernel
      if 0 < (kernel.frame pfn).mapcount ∨
          migrateVmaCheckPage host pfn faultPage kernel = false then
        (false,
          if (host.kind pfn).isZoneDevice then kernel
          else host.putbackLruPage pfn (kernel.getPage pfn))
      else (true, kernel)

/-- The state of `migrate_device_unmap`. -/
structure Unmap where
  kernel : Kernel
  src : Nat → UInt64
  restore : Nat
  unmapped : Nat

/-- The body of the first loop. -/
def unmapOne (host : Host) (faultPage : Option Pfn) (i : Nat)
    (state : Unmap) : Unmap :=
  match pageOf (state.src i) with
  | none =>
      if migrating (state.src i) then
        { state with unmapped := state.unmapped + 1 }
      else state
  | some pfn =>
      match unmapPage host faultPage pfn state.kernel with
      | (true, kernel) =>
          { state with kernel := kernel, unmapped := state.unmapped + 1 }
      | (false, kernel) =>
          { state with
            kernel := kernel
            src := Function.update state.src i (clearMigrate (state.src i))
            restore := state.restore + 1 }

/-- A page that is given back: `remove_migration_ptes`, `folio_unlock` and
`folio_put`. -/
def restorePage (host : Host) (pfn : Pfn) (kernel : Kernel) : Kernel :=
  ((host.removeMigrationPtes pfn pfn kernel).unlockPage pfn).putPage pfn

/-- The body of the second loop, which ends when nothing is left to
restore. -/
def restoreOne (host : Host) (i : Nat) (state : Unmap) : Unmap :=
  if state.restore = 0 then state
  else
    match pageOf (state.src i) with
    | none => state
    | some pfn =>
        if migrating (state.src i) then state
        else
          { state with
            kernel := restorePage host pfn state.kernel
            src := Function.update state.src i 0
            restore := state.restore - 1 }

def migrateDeviceUnmap (host : Host) (faultPage : Option Pfn) (npages : Nat)
    (src : Nat → UInt64) (kernel : Kernel) : Unmap :=
  forEach (restoreOne host) npages 0
    (forEach (unmapOne host faultPage) npages 0
      { kernel := kernel, src := src, restore := 0, unmapped := 0 })

variable {host : Host} {base kernel : Kernel} {pfn : Pfn}
  {faultPage : Option Pfn}

theorem Held.mapcount_mappings {refs : Int} {lru : Bool}
    (held : Held host base kernel pfn refs lru) (sound : base.Sound host)
    (names : base.SameNames kernel) :
    (kernel.frame pfn).mapcount = kernel.mappings host pfn := by
  have split : base.mappings host pfn =
      kernel.mappings host pfn + kernel.unmapped host pfn := by
    apply Tally.countP_either
    · intro place _
      rw [Bool.eq_iff_iff, Bool.or_eq_true]
      simp only [decide_eq_true_eq]
      constructor
      · intro maps
        apply Pte.maps_or_moves
        rw [names.names place]
        exact Pte.names_of_maps maps
      · rintro (maps | moves)
        · rw [← held.mapped sound (names.traced pfn) maps]
          exact maps
        · exact (held.converted sound (names.traced pfn) moves).1
    · intro place _ maps
      have maps := of_decide_eq_true maps
      rw [Pte.not_moves_of_maps maps]
      rfl
  have counted := held.mapcount
  rw [sound.mapcount pfn, split] at counted
  omega

theorem Held.mapped_iff {refs : Int} {lru : Bool}
    (held : Held host base kernel pfn refs lru) (sound : base.Sound host)
    (names : base.SameNames kernel) :
    0 < (kernel.frame pfn).mapcount ↔
      ∃ place, (kernel.table place).maps = some pfn := by
  rw [held.mapcount_mappings sound names, Int.natCast_pos, Kernel.mappings,
    List.countP_pos_iff]
  simp only [decide_eq_true_eq]
  constructor
  · rintro ⟨place, -, maps⟩
    exact ⟨place, maps⟩
  · rintro ⟨place, maps⟩
    refine ⟨place, ?_, maps⟩
    apply sound.mapped place pfn
    rw [← held.mapped sound (names.traced pfn) maps]
    exact maps

namespace Kernel

/-- `try_to_migrate` unmaps only. -/
theorem tryToMigrate_maps {place : Place}
    (maps : ((host.tryToMigrate pfn kernel).table place).maps = some pfn) :
    (kernel.table place).maps = some pfn := by
  have steps := host.unmaps pfn kernel
  generalize host.tryToMigrate pfn kernel = after at *
  induction steps with
  | refl => exact maps
  | tail _ step induction =>
      obtain ⟨mapped, -⟩ := step
      exact induction (unmapPte_maps mapped maps).1

/-- `try_to_migrate` leaves the mappings that it is to leave. -/
theorem tryToMigrate_keeps {place : Place}
    (kept : host.keeps place = true) :
    (host.tryToMigrate pfn kernel).table place = kernel.table place := by
  have steps := host.unmaps pfn kernel
  generalize host.tryToMigrate pfn kernel = after at *
  induction steps with
  | refl => rfl
  | tail _ step same =>
      obtain ⟨-, free⟩ := step
      rw [unmapPte_apart, same]
      rintro rfl
      rw [kept] at free
      cases free

end Kernel

/-- Nothing stands against the migration of a page that the caller holds, in
the kernel that `migrate_device_unmap` starts in. -/
structure Movable (host : Host) (base start : Kernel)
    (faultPage : Option Pfn) (pfn : Pfn) : Prop where
  single : (base.frame pfn).compound = false
  listed : (host.kind pfn).isZoneDevice = false →
    (base.frame pfn).lru = true
  free : ∀ place, (start.table place).maps = some pfn →
    host.keeps place = false
  unpinned : (base.frame pfn).count + 1 - (base.frame pfn).mapcount ≤
    expectedRefs host pfn faultPage

/-- A page whose contents can be copied: it is off the LRU and nothing maps
it. -/
structure Ready (host : Host) (base kernel : Kernel) (pfn : Pfn) : Prop where
  held : Held host base kernel pfn 1
    ((host.kind pfn).isZoneDevice && (base.frame pfn).lru)
  unmapped : ∀ place, (kernel.table place).maps ≠ some pfn
  listed : (host.kind pfn).isZoneDevice = false → (base.frame pfn).lru = true

theorem Ready.converted (ready : Ready host base kernel pfn) {place : Place}
    (maps : (base.table place).maps = some pfn) :
    Converted base kernel pfn place := by
  rcases ready.held.entries place maps with same | converted
  · rw [← same] at maps
    exact absurd maps (ready.unmapped place)
  · exact converted

theorem Held.setLru {refs refs' : Int} {lru lru' : Bool}
    (held : Held host base kernel pfn refs lru) (same : refs = refs')
    (on : lru = lru') : Held host base kernel pfn refs' lru' := by
  rw [← same, ← on]
  exact held

/-- What is not isolated is a page that would have to be on the LRU. -/
theorem isolatePage_refused (refused : isolatePage host pfn kernel = none) :
    (host.kind pfn).isZoneDevice = false ∧ (kernel.frame pfn).lru = false := by
  unfold isolatePage at refused
  split at refused
  · cases refused
  · next zone =>
    refine ⟨Bool.eq_false_iff.mpr zone, ?_⟩
    cases on : (kernel.frame pfn).lru with
    | false => rfl
    | true =>
        rw [host.isolates pfn kernel on] at refused
        cases refused

theorem isolatePage_cases {alone : Kernel}
    (isolated : isolatePage host pfn kernel = some alone) :
    (host.kind pfn).isZoneDevice = true ∧ alone = kernel ∨
      (host.kind pfn).isZoneDevice = false ∧ (kernel.frame pfn).lru = true ∧
        alone = (kernel.offLru pfn).putPage pfn := by
  unfold isolatePage at isolated
  split at isolated
  · next zone => exact .inl ⟨zone, (Option.some.inj isolated).symm⟩
  · next zone =>
    refine .inr ⟨Bool.eq_false_iff.mpr zone, ?_⟩
    cases on : (kernel.frame pfn).lru with
    | false =>
        rw [host.refuses pfn kernel on] at isolated
        cases isolated
    | true =>
        rw [host.isolates pfn kernel on] at isolated
        exact ⟨rfl, (Option.some.inj isolated).symm⟩

theorem Held.isolate {alone : Kernel}
    (held : Held host base kernel pfn 1 (base.frame pfn).lru)
    (isolated : isolatePage host pfn kernel = some alone) :
    Held host base alone pfn 1
        ((host.kind pfn).isZoneDevice && (base.frame pfn).lru) ∧
      kernel.Touches pfn alone ∧ alone.table = kernel.table ∧
      ((host.kind pfn).isZoneDevice = false →
        (base.frame pfn).lru = true) := by
  rcases isolatePage_cases isolated with ⟨zone, rfl⟩ | ⟨zone, on, rfl⟩
  · rw [zone]
    exact ⟨held, .refl _ pfn, rfl, fun no => by cases no⟩
  · rw [zone]
    refine ⟨held.offLru.putPage.setLru (by omega) rfl,
      (Kernel.Touches.setFrame _ pfn _).trans (.setFrame _ pfn _), rfl, ?_⟩
    intro _
    rw [← held.lru]
    exact on

/-- A page that is put back on the LRU, if it has been isolated. -/
theorem Held.putback
    (held : Held host base kernel pfn 1
      ((host.kind pfn).isZoneDevice && (base.frame pfn).lru))
    (listed : (host.kind pfn).isZoneDevice = false →
      (base.frame pfn).lru = true) :
    Held host base
      (if (host.kind pfn).isZoneDevice then kernel
        else host.putbackLruPage pfn (kernel.getPage pfn)) pfn 1
      (base.frame pfn).lru := by
  cases zone : (host.kind pfn).isZoneDevice with
  | true =>
      rw [zone] at held
      exact held
  | false =>
      rw [listed zone, if_neg Bool.false_ne_true, host.putsBack]
      exact held.getPage.ontoLru.setLru (by omega) rfl

theorem Kernel.Touches.putback :
    kernel.Touches pfn
      (if (host.kind pfn).isZoneDevice then kernel
        else host.putbackLruPage pfn (kernel.getPage pfn)) := by
  split
  · exact .refl kernel pfn
  · rw [host.putsBack]
    exact (Kernel.Touches.setFrame _ pfn _).trans (.setFrame _ pfn _)

/-- `try_to_migrate`, where there is something to unmap: the mappings that
are left are those it is to leave. -/
theorem Held.unmap {lru : Bool} (held : Held host base kernel pfn 1 lru)
    (sound : base.Sound host) (names : base.SameNames kernel) :
    Held host base
        (if 0 < (kernel.frame pfn).mapcount then host.tryToMigrate pfn kernel
          else kernel) pfn 1 lru ∧
      kernel.Touches pfn
        (if 0 < (kernel.frame pfn).mapcount then host.tryToMigrate pfn kernel
          else kernel) ∧
      ∀ place,
        ((if 0 < (kernel.frame pfn).mapcount then host.tryToMigrate pfn kernel
          else kernel).table place).maps = some pfn ↔
        (kernel.table place).maps = some pfn ∧ host.keeps place = true := by
  split
  · have steps := host.unmaps pfn kernel
    refine ⟨held.tryToMigrate sound names, .unmaps steps, ?_⟩
    intro place
    constructor
    · intro maps
      have before := Kernel.tryToMigrate_maps maps
      refine ⟨before, host.unmapped pfn kernel place ?_ maps⟩
      apply sound.mapped place pfn
      rw [← held.mapped sound (names.traced pfn) before]
      exact before
    · rintro ⟨maps, kept⟩
      rw [Kernel.tryToMigrate_keeps kept]
      exact maps
  · next none_ =>
    refine ⟨held, .refl kernel pfn, ?_⟩
    intro place
    constructor
    · intro maps
      exact absurd ((held.mapped_iff sound names).mpr ⟨place, maps⟩) none_
    · rintro ⟨maps, -⟩
      exact maps

theorem Held.check {lru : Bool} (held : Held host base kernel pfn 1 lru)
    (sound : base.Sound host) (names : base.SameNames kernel)
    (unmapped : ¬0 < (kernel.frame pfn).mapcount) :
    migrateVmaCheckPage host pfn faultPage kernel = true ↔
      (base.frame pfn).compound = false ∧
        (base.frame pfn).count + 1 - (base.frame pfn).mapcount ≤
          expectedRefs host pfn faultPage := by
  have natural := held.mapcount_mappings sound names
  have mapcount := held.mapcount
  have count := held.count
  unfold migrateVmaCheckPage
  rw [held.compound]
  cases compound : (base.frame pfn).compound with
  | true => simp
  | false =>
      simp only [Bool.false_eq_true, if_false, decide_eq_true_eq, true_and]
      omega

/-- The first loop of `migrate_device_unmap` on one page. -/
theorem Held.unmapPage
    (held : Held host base kernel pfn 1 (base.frame pfn).lru)
    (sound : base.Sound host) (names : base.SameNames kernel) :
    kernel.Touches pfn (unmapPage host faultPage pfn kernel).2 ∧
      ((unmapPage host faultPage pfn kernel).1 = true ∧
          Ready host base (unmapPage host faultPage pfn kernel).2 pfn ∧
          Movable host base kernel faultPage pfn ∨
        (unmapPage host faultPage pfn kernel).1 = false ∧
          Held host base (unmapPage host faultPage pfn kernel).2 pfn 1
            (base.frame pfn).lru ∧
          ¬Movable host base kernel faultPage pfn) := by
  unfold Rshm.Mm.unmapPage
  split
  · next refused =>
    obtain ⟨zone, off⟩ := isolatePage_refused refused
    refine ⟨.refl kernel pfn, .inr ⟨rfl, held, ?_⟩⟩
    intro movable
    rw [held.lru, movable.listed zone] at off
    cases off
  · next alone isolation =>
    obtain ⟨isolated, touched, table, listed⟩ := held.isolate isolation
    have known := names.touches touched
    obtain ⟨unmapping, migrated, left⟩ := isolated.unmap sound known
    dsimp only
    generalize (if 0 < (alone.frame pfn).mapcount then
      host.tryToMigrate pfn alone else alone) = after at *
    have known' := known.touches migrated
    rw [table] at left
    split
    · next refused =>
      refine ⟨(touched.trans migrated).trans .putback, .inr ⟨rfl, ?_, ?_⟩⟩
      · exact unmapping.putback listed
      · intro movable
        have gone : ¬0 < (after.frame pfn).mapcount := by
          rw [unmapping.mapped_iff sound known']
          rintro ⟨place, maps⟩
          obtain ⟨before, kept⟩ := (left place).mp maps
          rw [movable.free place before] at kept
          cases kept
        have passes := (@Held.check host base after pfn faultPage _ unmapping sound
          known' gone).mpr ⟨movable.single, movable.unpinned⟩
        rcases refused with mapped | fails
        · exact gone mapped
        · rw [passes] at fails
          cases fails
    · next passed =>
      rw [not_or] at passed
      obtain ⟨gone, passes⟩ := passed
      obtain ⟨single, unpinned⟩ := (unmapping.check sound known' gone).mp
        (Bool.eq_true_of_not_eq_false passes)
      refine ⟨touched.trans migrated, .inl ⟨rfl, ⟨unmapping, ?_, listed⟩,
        single, listed, ?_, unpinned⟩⟩
      · intro place maps
        exact gone ((unmapping.mapped_iff sound known').mpr ⟨place, maps⟩)
      · intro place maps
        cases kept : host.keeps place with
        | false => rfl
        | true =>
            exact absurd ((unmapping.mapped_iff sound known').mpr
              ⟨place, (left place).mpr ⟨maps, kept⟩⟩) gone

/-- The pages of a source array are locked and held, and all other pages are
as they were. -/
structure Claimed (host : Host) (base kernel : Kernel) (src : Nat → UInt64)
    (npages : Nat) : Prop where
  names : base.SameNames kernel
  held : ∀ i pfn, i < npages → pageOf (src i) = some pfn →
    migrating (src i) = true ∧
      Held host base kernel pfn 1 (base.frame pfn).lru
  distinct : ∀ i j pfn, i < npages → j < npages →
    pageOf (src i) = some pfn → pageOf (src j) = some pfn → i = j
  intact : ∀ pfn, (∀ i, i < npages → pageOf (src i) ≠ some pfn) →
    Intact base kernel pfn

/-- The pages of a source array are locked, unmapped and held, and all other
pages are as they were. -/
structure SetUp (host : Host) (base kernel : Kernel) (src : Nat → UInt64)
    (npages : Nat) : Prop where
  names : base.SameNames kernel
  ready : ∀ i pfn, i < npages → pageOf (src i) = some pfn →
    migrating (src i) = true ∧ Ready host base kernel pfn
  distinct : ∀ i j pfn, i < npages → j < npages →
    pageOf (src i) = some pfn → pageOf (src j) = some pfn → i = j
  intact : ∀ pfn, (∀ i, i < npages → pageOf (src i) ≠ some pfn) →
    Intact base kernel pfn

theorem Ready.touches {next : Kernel} {other : Pfn}
    (ready : Ready host base kernel pfn)
    (touches : kernel.Touches other next) (different : other ≠ pfn) :
    Ready host base next pfn := by
  refine ⟨ready.held.touches touches different, ?_, ready.listed⟩
  intro place maps
  rw [(touches.spares different).same place
    (.inr (Pte.names_of_maps maps))] at maps
  exact ready.unmapped place maps

/-- A page of which the second loop has to undo the rest. -/
def failing (mpfn : UInt64) : Bool :=
  (pageOf mpfn).isSome && !migrating mpfn

variable {start : Kernel} {src : Nat → UInt64} {npages : Nat}

/-- The first loop before slot `k`. -/
structure Unmapping (host : Host) (base start : Kernel)
    (faultPage : Option Pfn) (src : Nat → UInt64) (npages k : Nat)
    (state : Unmap) : Prop where
  names : base.SameNames state.kernel
  ahead : ∀ i, k ≤ i → state.src i = src i
  waiting : ∀ i pfn, k ≤ i → i < npages → pageOf (src i) = some pfn →
    Intact start state.kernel pfn ∧
      Held host base state.kernel pfn 1 (base.frame pfn).lru
  pageless : ∀ i, pageOf (src i) = none → state.src i = src i
  passed : ∀ i pfn, i < k → i < npages → pageOf (src i) = some pfn →
    Movable host base start faultPage pfn ∧ state.src i = src i ∧
        Ready host base state.kernel pfn ∨
      ¬Movable host base start faultPage pfn ∧
        state.src i = clearMigrate (src i) ∧
        Held host base state.kernel pfn 1 (base.frame pfn).lru
  intact : ∀ pfn, (∀ i, i < npages → pageOf (src i) ≠ some pfn) →
    Intact base state.kernel pfn
  unmapped : state.unmapped =
    Tally.upTo (fun i => migrating (state.src i)) k
  restore : state.restore = Tally.upTo (fun i => failing (state.src i)) k

theorem Movable.of_intact (names : base.SameNames start)
    (names' : base.SameNames kernel) (intact : Intact start kernel pfn) :
    Movable host base kernel faultPage pfn ↔
      Movable host base start faultPage pfn := by
  have maps (place : Place) : (kernel.table place).maps = some pfn ↔
      (start.table place).maps = some pfn := by
    constructor
    · intro maps
      have named : (start.table place).names = some pfn := by
        rw [names.names place, ← names'.names place]
        exact Pte.names_of_maps maps
      rw [← intact.entries place named]
      exact maps
    · intro maps
      rw [intact.entries place (Pte.names_of_maps maps)]
      exact maps
  constructor
  · rintro ⟨single, listed, free, unpinned⟩
    exact ⟨single, listed, fun place here => free place ((maps place).mpr here),
      unpinned⟩
  · rintro ⟨single, listed, free, unpinned⟩
    exact ⟨single, listed, fun place here => free place ((maps place).mp here),
      unpinned⟩

theorem counted_succ (state : Unmap) {next : Unmap} {k : Nat}
    {test : UInt64 → Bool}
    (same : ∀ i, i < k → next.src i = state.src i) :
    Tally.upTo (fun i => test (next.src i)) (k + 1) =
      Tally.upTo (fun i => test (state.src i)) k +
        if test (next.src k) then 1 else 0 := by
  rw [Tally.upTo_succ]
  congr 1
  exact Tally.upTo_congr fun i before => by rw [same i before]

theorem Unmapping.unmapOne {k : Nat} {state : Unmap}
    (unmapping : Unmapping host base start faultPage src npages k state)
    (claimed : Claimed host base start src npages) (sound : base.Sound host)
    (inside : k < npages) :
    Unmapping host base start faultPage src npages (k + 1)
      (unmapOne host faultPage k state) := by
  have word := unmapping.ahead k (Nat.le_refl k)
  unfold Rshm.Mm.unmapOne
  rw [word]
  cases page : pageOf (src k) with
  | none =>
      -- A slot without a page keeps its word.
      have quiet : failing (state.src k) = false := by
        rw [word, failing, page]
        rfl
      have kept (next : Unmap) (kernel : next.kernel = state.kernel)
          (words : next.src = state.src)
          (restore : next.restore = state.restore)
          (unmapped : next.unmapped = state.unmapped +
            if migrating (state.src k) then 1 else 0) :
          Unmapping host base start faultPage src npages (k + 1) next := by
        refine ⟨?_, ?_, ?_, ?_, ?_, ?_, ?_, ?_⟩
        · rw [kernel]
          exact unmapping.names
        · intro i after
          rw [words]
          exact unmapping.ahead i (by omega)
        · intro i pfn after within found
          rw [kernel]
          exact unmapping.waiting i pfn (by omega) within found
        · rw [words]
          exact unmapping.pageless
        · intro i pfn before within found
          rw [kernel, words]
          have different : i ≠ k := by
            rintro rfl
            rw [page] at found
            cases found
          exact unmapping.passed i pfn (by omega) within found
        · rw [kernel]
          exact unmapping.intact
        · rw [counted_succ state fun i _ => by rw [words], words,
            unmapped, unmapping.unmapped]
        · rw [counted_succ state fun i _ => by rw [words], words,
            restore, unmapping.restore, quiet]
          rfl
      dsimp only
      split
      · next moving =>
        exact kept _ rfl rfl rfl (by rw [word, if_pos moving])
      · next still =>
        exact kept _ rfl rfl rfl (by rw [word, if_neg still]; rfl)
  | some pfn =>
      obtain ⟨same, held⟩ :=
        unmapping.waiting k pfn (Nat.le_refl k) inside page
      obtain ⟨touches, outcome⟩ :=
        @Held.unmapPage host base state.kernel pfn faultPage held sound
          unmapping.names
      rw [Movable.of_intact claimed.names unmapping.names same] at outcome
      have moving := (claimed.held k pfn inside page).1
      have others {i : Nat} {found : Pfn} (within : i < npages)
          (elsewhere : i ≠ k) (there : pageOf (src i) = some found) :
          pfn ≠ found := by
        rintro rfl
        exact elsewhere (claimed.distinct i k pfn within inside there page)
      -- What the pass leaves, whatever becomes of its own word.
      have kept (next : Unmap) (after : UInt64)
          (kernel : next.kernel =
            (unmapPage host faultPage pfn state.kernel).2)
          (words : next.src = Function.update state.src k after)
          (settled : Movable host base start faultPage pfn ∧
              after = src k ∧ Ready host base next.kernel pfn ∨
            ¬Movable host base start faultPage pfn ∧
              after = clearMigrate (src k) ∧
              Held host base next.kernel pfn 1 (base.frame pfn).lru)
          (restore : next.restore = state.restore +
            if failing after then 1 else 0)
          (unmapped : next.unmapped = state.unmapped +
            if migrating after then 1 else 0) :
          Unmapping host base start faultPage src npages (k + 1) next := by
        rw [← kernel] at touches
        have here : next.src k = after := by
          rw [words]
          exact Function.update_self ..
        have there (i : Nat) (different : i ≠ k) :
            next.src i = state.src i := by
          rw [words]
          exact Function.update_of_ne different ..
        refine ⟨unmapping.names.touches touches, ?_, ?_, ?_, ?_, ?_, ?_, ?_⟩
        · intro i after
          rw [there i (by omega)]
          exact unmapping.ahead i (by omega)
        · intro i found later within known
          obtain ⟨same, held⟩ :=
            unmapping.waiting i found (by omega) within known
          have different := others within (by omega) known
          exact ⟨same.touches touches different,
            held.touches touches different⟩
        · intro i none_
          have different : i ≠ k := by
            rintro rfl
            rw [page] at none_
            cases none_
          rw [there i different]
          exact unmapping.pageless i none_
        · intro i found before within known
          by_cases now : i = k
          · subst now
            rw [page] at known
            cases known
            rw [here]
            exact settled
          · rw [there i now]
            have different := others within now known
            rcases unmapping.passed i found (by omega) within known with
              ⟨movable, word, ready⟩ | ⟨stuck, word, held⟩
            · exact .inl ⟨movable, word, ready.touches touches different⟩
            · exact .inr ⟨stuck, word, held.touches touches different⟩
        · intro found absent
          apply (unmapping.intact found absent).touches touches
          rintro rfl
          exact absent k inside page
        · rw [counted_succ state fun i _ => there i (by omega),
            here, unmapped, unmapping.unmapped]
        · rw [counted_succ state fun i _ => there i (by omega),
            here, restore, unmapping.restore]
      dsimp only
      cases result : unmapPage host faultPage pfn state.kernel with
      | mk succeeds kernel =>
          rw [result] at outcome kept
          cases succeeds with
          | true =>
              rcases outcome with ⟨-, ready, movable⟩ | ⟨no, -⟩
              · refine kept _ (src k) rfl ?_ (.inl ⟨movable, rfl, ready⟩) ?_ ?_
                · rw [← word, Function.update_eq_self]
                · rw [failing, moving, page]
                  rfl
                · rw [moving]
                  rfl
              · cases no
          | false =>
              rcases outcome with ⟨no, -⟩ | ⟨-, held, stuck⟩
              · cases no
              · refine kept _ (clearMigrate (src k)) rfl ?_
                  (.inr ⟨stuck, rfl, held⟩) ?_ ?_
                · rfl
                · rw [failing, migrating_clearMigrate, pageOf_clearMigrate,
                    page]
                  rfl
                · rw [migrating_clearMigrate]
                  rfl

theorem Kernel.Touches.restorePage :
    kernel.Touches pfn (restorePage host pfn kernel) :=
  ((Kernel.Touches.remaps (host.remaps pfn pfn kernel)).trans
    (.setFrame _ pfn _)).trans (.setFrame _ pfn _)

/-- The second loop of `migrate_device_unmap` on one page. -/
theorem Held.restorePage
    (held : Held host base kernel pfn 1 (base.frame pfn).lru)
    (sound : base.Sound host) (traced : base.Traced kernel pfn) :
    Intact base (restorePage host pfn kernel) pfn := by
  obtain ⟨mapped, unmoved⟩ := held.removeMigrationPtes sound traced
  have once : Rshm.Mm.restorePage host pfn kernel =
      (host.removeMigrationPtes pfn pfn kernel).setFrame pfn
        { (host.removeMigrationPtes pfn pfn kernel).frame pfn with
          count :=
            ((host.removeMigrationPtes pfn pfn kernel).frame pfn).count - 1
          locked := false } := by
    unfold Rshm.Mm.restorePage Kernel.unlockPage Kernel.putPage Kernel.setFrame
    simp
  rw [once]
  exact mapped.intact sound unmoved rfl rfl rfl mapped.lru rfl rfl rfl

/-- The word of a slot once the pages that failed are put back. -/
def restored (mpfn : UInt64) : UInt64 :=
  if failing mpfn then 0 else mpfn

/-- The second loop before slot `k`. -/
structure Restoring (host : Host) (base : Kernel) (src : Nat → UInt64)
    (npages unmapped k : Nat) (state : Unmap) : Prop where
  names : base.SameNames state.kernel
  ahead : ∀ i, k ≤ i → state.src i = src i
  behind : ∀ i, i < k → state.src i = restored (src i)
  ready : ∀ i pfn, i < npages → pageOf (src i) = some pfn →
    migrating (src i) = true → Ready host base state.kernel pfn
  waiting : ∀ i pfn, k ≤ i → i < npages → pageOf (src i) = some pfn →
    migrating (src i) = false →
    Held host base state.kernel pfn 1 (base.frame pfn).lru
  intact : ∀ pfn, (∀ i, i < npages → pageOf (state.src i) ≠ some pfn) →
    Intact base state.kernel pfn
  unmapped : state.unmapped = unmapped
  restore : state.restore + Tally.upTo (fun i => failing (src i)) k =
    Tally.upTo (fun i => failing (src i)) npages

theorem Restoring.restoreOne {k unmapped : Nat} {state : Unmap}
    (restoring : Restoring host base src npages unmapped k state)
    (distinct : ∀ i j pfn, i < npages → j < npages →
      pageOf (src i) = some pfn → pageOf (src j) = some pfn → i = j)
    (sound : base.Sound host) (inside : k < npages) :
    Restoring host base src npages unmapped (k + 1)
      (restoreOne host k state) := by
  have word := restoring.ahead k (Nat.le_refl k)
  have next := Tally.upTo_succ (fun i => failing (src i)) k
  -- A slot that the pass leaves is not one that failed.
  have kept (quiet : failing (src k) = false) :
      Restoring host base src npages unmapped (k + 1) state := by
    refine ⟨restoring.names, ?_, ?_, restoring.ready, ?_, restoring.intact,
      restoring.unmapped, ?_⟩
    · intro i after
      exact restoring.ahead i (by omega)
    · intro i before
      by_cases now : i = k
      · subst now
        rw [word, restored, quiet]
        rfl
      · exact restoring.behind i (by omega)
    · intro i pfn after
      exact restoring.waiting i pfn (by omega)
    · rw [next, quiet]
      exact restoring.restore
  unfold Rshm.Mm.restoreOne
  split
  · next none_ =>
    apply kept
    have more := Tally.upTo_le (fun i => failing (src i)) inside
    have restore := restoring.restore
    cases fails : failing (src k) with
    | false => rfl
    | true =>
        rw [Nat.succ_eq_add_one, next, fails, if_pos rfl] at more
        omega
  · next some_ =>
    rw [word]
    cases page : pageOf (src k) with
    | none => exact kept (by rw [failing, page]; rfl)
    | some pfn =>
        dsimp only
        split
        · next moving => exact kept (by rw [failing, page, moving]; rfl)
        · next still =>
          have still := Bool.eq_false_iff.mpr still
          have fails : failing (src k) = true := by
            rw [failing, page, still]
            rfl
          have held :=
            restoring.waiting k pfn (Nat.le_refl k) inside page still
          have whole := held.restorePage sound (restoring.names.traced pfn)
          have touches : state.kernel.Touches pfn
              (restorePage host pfn state.kernel) := .restorePage
          have others {i : Nat} {found : Pfn} (within : i < npages)
              (elsewhere : i ≠ k) (there : pageOf (src i) = some found) :
              pfn ≠ found := by
            rintro rfl
            exact elsewhere (distinct i k pfn within inside there page)
          refine ⟨restoring.names.touches touches, ?_, ?_, ?_, ?_, ?_,
            restoring.unmapped, ?_⟩
          · intro i after
            dsimp only
            rw [Function.update_of_ne (by omega)]
            exact restoring.ahead i (by omega)
          · intro i before
            dsimp only
            by_cases now : i = k
            · subst now
              rw [Function.update_self, restored, fails]
              rfl
            · rw [Function.update_of_ne now]
              exact restoring.behind i (by omega)
          · intro i found within there moving
            have elsewhere : i ≠ k := by
              rintro rfl
              rw [still] at moving
              cases moving
            exact (restoring.ready i found within there moving).touches touches
              (others within elsewhere there)
          · intro i found after within there stuck
            exact (restoring.waiting i found (by omega) within there
              stuck).touches touches (others within (by omega) there)
          · intro found absent
            by_cases same : found = pfn
            · subst same
              exact whole
            · refine Intact.touches ?_ touches (Ne.symm same)
              apply restoring.intact found
              intro i within there
              by_cases now : i = k
              · subst now
                rw [word, page] at there
                exact same (Option.some.inj there).symm
              · apply absent i within
                dsimp only
                rw [Function.update_of_ne now]
                exact there
          · dsimp only
            rw [next, fails, if_pos rfl]
            have restore := restoring.restore
            omega

/-- The word of a slot after `migrate_device_unmap`. -/
def UnmappedWord (host : Host) (base start : Kernel) (faultPage : Option Pfn)
    (before after : UInt64) : Prop :=
  match pageOf before with
  | none => after = before
  | some pfn =>
      Movable host base start faultPage pfn ∧ after = before ∨
        ¬Movable host base start faultPage pfn ∧ after = 0

theorem unmapping_first (claimed : Claimed host base start src npages) :
    Unmapping host base start faultPage src npages 0
      { kernel := start, src := src, restore := 0, unmapped := 0 } :=
  { names := claimed.names
    ahead := fun _ _ => rfl
    waiting := fun i pfn _ within page =>
      ⟨.refl start pfn, (claimed.held i pfn within page).2⟩
    pageless := fun _ _ => rfl
    passed := fun i _ before => absurd before (Nat.not_lt_zero i)
    intact := claimed.intact
    unmapped := rfl
    restore := rfl }

theorem Unmapping.pages {state : Unmap}
    (unmapping : Unmapping host base start faultPage src npages npages state)
    (i : Nat) (within : i < npages) :
    pageOf (state.src i) = pageOf (src i) := by
  cases page : pageOf (src i) with
  | none => rw [unmapping.pageless i page, page]
  | some pfn =>
      rcases unmapping.passed i pfn within within page with
        ⟨-, word, -⟩ | ⟨-, word, -⟩
      · rw [word, page]
      · rw [word, pageOf_clearMigrate, page]

theorem Unmapping.restoring {state : Unmap}
    (unmapping : Unmapping host base start faultPage src npages npages state)
    (claimed : Claimed host base start src npages) :
    Restoring host base state.src npages state.unmapped 0 state := by
  have pages := unmapping.pages
  refine ⟨unmapping.names, fun _ _ => rfl,
    fun i before => absurd before (Nat.not_lt_zero i), ?_, ?_, ?_, rfl, ?_⟩
  · intro i pfn within page moving
    rw [pages i within] at page
    rcases unmapping.passed i pfn within within page with
      ⟨-, -, ready⟩ | ⟨-, word, -⟩
    · exact ready
    · rw [word, migrating_clearMigrate] at moving
      cases moving
  · intro i pfn _ within page still
    rw [pages i within] at page
    rcases unmapping.passed i pfn within within page with
      ⟨-, word, -⟩ | ⟨-, -, held⟩
    · rw [word, (claimed.held i pfn within page).1] at still
      cases still
    · exact held
  · intro pfn absent
    apply unmapping.intact pfn
    intro i within page
    apply absent i within
    rw [pages i within]
    exact page
  · rw [unmapping.restore]
    rfl

/-- `migrate_device_unmap` unmaps the pages that nothing stands against,
gives the others back as they were before they were claimed, and counts the
slots that are left. -/
theorem migrateDeviceUnmap_setUp (sound : base.Sound host)
    (claimed : Claimed host base start src npages)
    (faultPage : Option Pfn) :
    SetUp host base
        (migrateDeviceUnmap host faultPage npages src start).kernel
        (migrateDeviceUnmap host faultPage npages src start).src npages ∧
      (migrateDeviceUnmap host faultPage npages src start).unmapped =
        Tally.upTo
          (fun i => migrating
            ((migrateDeviceUnmap host faultPage npages src start).src i))
          npages ∧
      (migrateDeviceUnmap host faultPage npages src start).restore = 0 ∧
      ∀ i, i < npages → UnmappedWord host base start faultPage (src i)
        ((migrateDeviceUnmap host faultPage npages src start).src i) := by
  unfold migrateDeviceUnmap
  have first := forEach_induction
    (Unmapping host base start faultPage src npages)
    (unmapOne host faultPage) npages 0 _ (unmapping_first claimed) (by
      intro k state _ inside unmapping
      exact unmapping.unmapOne claimed sound (by omega))
  rw [Nat.zero_add] at first
  generalize forEach (unmapOne host faultPage) npages 0
    { kernel := start, src := src, restore := 0, unmapped := 0 } =
      between at first ⊢
  have pages := first.pages
  have distinct : ∀ i j pfn, i < npages → j < npages →
      pageOf (between.src i) = some pfn → pageOf (between.src j) = some pfn →
      i = j := by
    intro i j pfn within within' page page'
    rw [pages i within] at page
    rw [pages j within'] at page'
    exact claimed.distinct i j pfn within within' page page'
  have second := forEach_induction
    (Restoring host base between.src npages between.unmapped)
    (restoreOne host) npages 0 between (first.restoring claimed) (by
      intro k state _ inside restoring
      exact restoring.restoreOne distinct sound (by omega))
  rw [Nat.zero_add] at second
  generalize forEach (restoreOne host) npages 0 between = after at second ⊢
  have word (i : Nat) (within : i < npages) :
      after.src i = restored (between.src i) := second.behind i within
  have left {i : Nat} {pfn : Pfn} (within : i < npages)
      (page : pageOf (after.src i) = some pfn) :
      after.src i = between.src i ∧ migrating (between.src i) = true := by
    have fate := word i within
    unfold restored at fate
    split at fate
    · rw [fate] at page
      cases page
    · next quiet =>
      refine ⟨fate, ?_⟩
      rw [fate] at page
      simpa [failing, page] using quiet
  refine ⟨⟨second.names, ?_, ?_, second.intact⟩, ?_, ?_, ?_⟩
  · intro i pfn within page
    obtain ⟨same, moving⟩ := left within page
    rw [same] at page ⊢
    exact ⟨moving, second.ready i pfn within page moving⟩
  · intro i j pfn within within' page page'
    rw [(left within page).1] at page
    rw [(left within' page').1] at page'
    exact distinct i j pfn within within' page page'
  · rw [second.unmapped, first.unmapped]
    apply Tally.upTo_congr
    intro i within
    rw [word i within, restored]
    split
    · next fails =>
      rw [failing, Bool.and_eq_true, Bool.not_eq_true'] at fails
      rw [fails.2]
      rfl
    · rfl
  · have restore := second.restore
    omega
  · intro i within
    rw [word i within, UnmappedWord]
    cases page : pageOf (src i) with
    | none =>
        rw [first.pageless i page, restored, failing, page]
        rfl
    | some pfn =>
        rcases first.passed i pfn within within page with
          ⟨movable, word, -⟩ | ⟨stuck, word, -⟩
        · refine .inl ⟨movable, ?_⟩
          rw [word, restored, failing, (claimed.held i pfn within page).1,
            page]
          rfl
        · refine .inr ⟨stuck, ?_⟩
          rw [word, restored, failing, migrating_clearMigrate,
            pageOf_clearMigrate, page]
          rfl

end Rshm.Mm
