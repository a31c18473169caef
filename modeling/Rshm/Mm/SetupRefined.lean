import Rshm.Hmm.Migrate
import Rshm.Mm.SetupExact

/-!
# The setup that the driver relies on

The driver is modelled over a `migrate_vma_setup` that works address by
address.  Where a process is the only one to map its pages, and maps each of
them once, the code of `migrate_device.c` refines it.
-/

namespace Rshm.Mm

/-- A struct page as the driver tells it. -/
def viewPage (host : Host) (pfn : Pfn) : Hmm.Page :=
  if (host.kind pfn).zero then .zero
  else
    match (host.kind pfn).zone with
    | .normal => .normal pfn
    | .devicePrivate => .devicePrivate (host.kind pfn).pgmapOwner pfn
    | .deviceCoherent => .deviceCoherent (host.kind pfn).pgmapOwner pfn
    | .otherZoneDevice => .zoneDevice pfn

def viewPte (host : Host) : Pte → Hmm.Pte
  | .none => .none
  | .swap => .none
  | .present pfn write _ _ => .present (viewPage host pfn) write
  | .devicePrivate pfn write _ => .present (viewPage host pfn) write
  | .migration pfn entry _ => .migration (viewPage host pfn) entry.isWritable

/-- The page table of a process. -/
def viewTable (host : Host) (mm : Nat) (kernel : Kernel) (n : Nat) :
    Hmm.Pte :=
  viewPte host (kernel.table (mm, n))

def viewWord (host : Host) (mpfn : UInt64) : Hmm.MigratePfn :=
  ⟨(pageOf mpfn).map (viewPage host), migrating mpfn, writing mpfn⟩

def viewSelect : Hmm.MigrateVmaDirection → MigrateSelect
  | .selectSystem => ⟨true, false, false⟩
  | .selectDevicePrivate => ⟨false, true, false⟩

/-- The pages that the driver knows: the zero page is normal memory, and all
device memory is private or coherent. -/
structure Known (host : Host) : Prop where
  zero : ∀ pfn, (host.kind pfn).zero = true →
    (host.kind pfn).zone = .normal
  zones : ∀ pfn, (host.kind pfn).zone ≠ .otherZoneDevice

/-- No page is mapped at two places. -/
def MappedOnce (kernel : Kernel) : Prop :=
  ∀ place place' pfn, (kernel.table place).maps = some pfn →
    (kernel.table place').maps = some pfn → place = place'

/-- The walk finds nothing where it finds no page table. -/
def HolesEmpty (args : CollectArgs) (base : Kernel) (ends : Nat → PmdEnd)
    (npages : Nat) : Prop :=
  ∀ i, i < npages → ends i = .hole →
    base.table (args.mm, args.first + i) = .none

variable {host : Host} {args : CollectArgs} {base kernel : Kernel}
  {pfn : Pfn} {flags : Hmm.MigrateVmaDirection}

theorem writing_zero : writing 0 = false := by decide

theorem writing_migratePfnMigrate : writing migratePfnMigrate = false := by
  decide

@[simp] theorem viewWord_zero : viewWord host 0 = .empty := by
  simp [viewWord, Hmm.MigratePfn.empty, writing_zero]

theorem viewWord_populate :
    viewWord host migratePfnMigrate = ⟨none, true, false⟩ := by
  simp [viewWord, writing_migratePfnMigrate]

theorem viewWord_source (pfn : Pfn) (write : Bool) :
    viewWord host (sourceWord pfn write) =
      ⟨some (viewPage host pfn), true, write⟩ := by
  simp [viewWord]

theorem sourceWord_ne_zero (pfn : Pfn) (write : Bool) :
    sourceWord pfn write ≠ 0 := by
  intro zero
  have page := pageOf_sourceWord pfn write
  rw [zero] at page
  cases page

theorem collect_populate (select : args.select = viewSelect flags) {pte : Pte}
    (source : collectSource host args pte = .populate) :
    Hmm.migrateVmaCollect flags args.pgmapOwner (viewPte host pte) =
      ⟨none, true, false⟩ := by
  cases pte with
  | none => rfl
  | swap => cases source
  | migration _ _ _ => cases source
  | devicePrivate page write bits =>
      rw [collectSource] at source
      split at source
      · cases source
      · cases source
  | present page write special bits =>
      rw [collectSource] at source
      split at source
      · next zero =>
        rw [Bool.and_eq_true, select] at zero
        cases flags with
        | selectSystem =>
            rw [viewPte, viewPage, if_pos zero.1]
            rfl
        | selectDevicePrivate => cases zero.2
      · split at source
        · cases source
        · split at source
          · cases source
          · split at source
            · cases source
            · cases source

theorem collect_page (known : Known host)
    (select : args.select = viewSelect flags) {pte : Pte}
    (proper : pte.Proper host.kind) {write : Bool}
    (source : collectSource host args pte = .page pfn write) :
    Hmm.migrateVmaCollect flags args.pgmapOwner (viewPte host pte) =
      ⟨some (viewPage host pfn), true, write⟩ := by
  cases pte with
  | none =>
      rw [collectSource] at source
      split at source
      · cases source
      · cases source
  | swap => cases source
  | migration _ _ _ => cases source
  | devicePrivate page writable bits =>
      rw [collectSource, select] at source
      split at source
      · cases source
      · next chosen =>
        cases source
        rw [not_or] at chosen
        have zone : (host.kind pfn).zone = .devicePrivate :=
          of_decide_eq_true proper.1
        have nonzero : (host.kind pfn).zero = false := by
          cases zero : (host.kind pfn).zero with
          | false => rfl
          | true =>
              rw [known.zero pfn zero] at zone
              cases zone
        have page : viewPage host pfn =
            .devicePrivate (host.kind pfn).pgmapOwner pfn := by
          simp [viewPage, nonzero, zone]
        rw [viewPte, page]
        cases flags with
        | selectSystem => exact absurd rfl chosen.1
        | selectDevicePrivate =>
            rw [Hmm.migrateVmaCollect, if_pos (not_not.mp chosen.2)]
  | present page writable special bits =>
      rw [collectSource, select] at source
      split at source
      · cases source
      · next nonzero =>
        split at source
        · cases source
        · next plain =>
          split at source
          · cases source
          · next system =>
            split at source
            · cases source
            · next coherent =>
              cases source
              have public_ := (proper (Bool.eq_false_iff.mpr plain)).1
              cases zone : (host.kind pfn).zone with
              | normal =>
                  cases flags with
                  | selectSystem =>
                      have page : viewPage host pfn = .normal pfn := by
                        simpa [viewPage, zone, viewSelect] using nonzero
                      rw [viewPte, page]
                      rfl
                  | selectDevicePrivate =>
                      simp [viewSelect, PageKind.isZoneDevice, zone] at system
              | devicePrivate =>
                  simp [PageKind.isDevicePrivate, zone] at public_
              | deviceCoherent =>
                  cases flags with
                  | selectSystem =>
                      simp [viewSelect, PageKind.isDeviceCoherent, zone]
                        at coherent
                  | selectDevicePrivate =>
                      simp [viewSelect, PageKind.isDeviceCoherent, zone]
                        at coherent
              | otherZoneDevice => exact absurd zone (known.zones pfn)

variable {split : Pfn → Option Nat} {lost : Pfn → Nat}
  {ends : Nat → PmdEnd} {faultPage : Option Pfn} {src : Nat → UInt64}
  {npages : Nat}

theorem SetUp.same_entry
    (setUp : SetUp host (base.settled host split lost) kernel src npages)
    (sound : base.Sound host) (once : MappedOnce base)
    (words : ∀ i, i < npages →
      SetupWord host args base split ends faultPage i (src i))
    (place : Place)
    (untaken : ∀ i pfn, i < npages → pageOf (src i) = some pfn →
      place ≠ (args.mm, args.first + i)) :
    kernel.table place = base.table place := by
  rcases setUp.names place with same | ⟨pfn, named, -⟩
  · exact same
  · by_cases taken : ∃ i, i < npages ∧ pageOf (src i) = some pfn
    · obtain ⟨i, within, page⟩ := taken
      obtain ⟨-, write, ⟨-, source⟩, -⟩ := (words i within).chosen page
      have held := (setUp.ready i pfn within page).2.held
      have maps := held.base_maps (sound.settled split lost) named
      have here := once place (args.mm, args.first + i) pfn maps
        (collectSource_page source).1
      exact absurd here (untaken i pfn within page)
    · apply (setUp.intact pfn _).entries place named
      intro i within page
      exact taken ⟨i, within, page⟩

theorem SetUp.view_cell
    (setUp : SetUp host (base.settled host split lost) kernel src npages)
    (sound : base.Sound host) (known : Known host) (once : MappedOnce base)
    (words : ∀ i, i < npages →
      SetupWord host args base split ends faultPage i (src i))
    (select : args.select = viewSelect flags)
    (holes : HolesEmpty args base ends npages) {i : Nat}
    (within : i < npages) :
    (viewPte host (kernel.table (args.mm, args.first + i)),
        (⟨viewWord host (src i), .empty⟩ : Hmm.MigrateSlot)) =
      Hmm.setupCell flags args.pgmapOwner (decide (src i ≠ 0))
        (viewPte host (base.table (args.mm, args.first + i)), .empty) := by
  have same (pageless : pageOf (src i) = none) :
      kernel.table (args.mm, args.first + i) =
        base.table (args.mm, args.first + i) := by
    refine setUp.same_entry sound once words _ ?_
    intro j pfn _ page here
    have equal := (Prod.mk.inj here).2
    obtain rfl : i = j := by omega
    rw [pageless] at page
    cases page
  have skipped (word : src i = 0) :
      (viewPte host (kernel.table (args.mm, args.first + i)),
          (⟨viewWord host (src i), .empty⟩ : Hmm.MigrateSlot)) =
        Hmm.setupCell flags args.pgmapOwner (decide (src i ≠ 0))
          (viewPte host (base.table (args.mm, args.first + i)), .empty) := by
    rw [same (by rw [word]; rfl), word, viewWord_zero]
    rfl
  have populated (word : src i = migratePfnMigrate)
      (collected : Hmm.migrateVmaCollect flags args.pgmapOwner
        (viewPte host (base.table (args.mm, args.first + i))) =
          ⟨none, true, false⟩) :
      (viewPte host (kernel.table (args.mm, args.first + i)),
          (⟨viewWord host (src i), .empty⟩ : Hmm.MigrateSlot)) =
        Hmm.setupCell flags args.pgmapOwner (decide (src i ≠ 0))
          (viewPte host (base.table (args.mm, args.first + i)), .empty) := by
    have nonzero : decide (migratePfnMigrate ≠ 0) = true := by decide
    rw [same (by rw [word]; rfl), word, viewWord_populate, nonzero]
    simp only [Hmm.setupCell, if_true, collected]
  have slot := words i within
  unfold SetupWord at slot
  split at slot
  · exact skipped slot
  · next reached =>
    refine populated slot.2 ?_
    rw [holes i within reached]
    rfl
  · split at slot
    · exact skipped slot
    · next source => exact populated slot (collect_populate select source)
    · next pfn write source =>
      rcases slot with ⟨-, word⟩ | ⟨-, word⟩
      · have page : pageOf (src i) = some pfn := by
          rw [word, pageOf_sourceWord]
        have nonzero : decide (sourceWord pfn write ≠ 0) = true :=
          decide_eq_true (sourceWord_ne_zero pfn write)
        obtain ⟨maps, writes⟩ := collectSource_page source
        obtain ⟨⟨exclusive, entry⟩, -⟩ :=
          (setUp.ready i pfn within page).2.converted maps
        rw [Kernel.settled_table] at entry
        rw [entry, word, viewWord_source, nonzero]
        simp only [Hmm.setupCell, if_true,
          collect_page known select (sound.proper _) source]
        rw [viewPte, Pte.migrationEntry_isWritable, writes]
      · exact skipped word

/-- The code of `migrate_vma_setup` does, address by address, what the driver
relies on: it collects the addresses whose word is not zero. -/
theorem migrateVmaSetup_refines (sound : kernel.Sound host)
    (known : Known host) (once : MappedOnce kernel) (walker : Walker)
    (args : MigrateVmaArgs) (flags : Hmm.MigrateVmaDirection) (vma : Vma)
    (given : args.vma = some vma) (select : args.select = viewSelect flags)
    (accepted : (migrateVmaSetup host walker args kernel).ret = 0)
    (holes : HolesEmpty (args.masked.collect vma) kernel
      (migrateVmaSetup host walker args kernel).ends
      (migrateVmaSetup host walker args kernel).args.npages) :
    ∃ src collected,
      (migrateVmaSetup host walker args kernel).args.src = some src ∧
      ∀ n,
        viewTable host vma.mm (migrateVmaSetup host walker args kernel).kernel
            n =
          (Hmm.migrateVmaSetup flags args.pgmapOwner collected
            (migrateVmaSetup host walker args kernel).args.npages
            (args.start.toNat / 4096) (viewTable host vma.mm kernel)).1 n ∧
        ∀ i, i < (migrateVmaSetup host walker args kernel).args.npages →
          n = args.start.toNat / 4096 + i →
          (⟨viewWord host (src i), .empty⟩ : Hmm.MigrateSlot) =
            (Hmm.migrateVmaSetup flags args.pgmapOwner collected
              (migrateVmaSetup host walker args kernel).args.npages
              (args.start.toNat / 4096) (viewTable host vma.mm kernel)).2
                n := by
  rcases migrateVmaSetup_cases host walker args kernel with
    ⟨ret, -⟩ | ⟨vma', array, array', accepted', -, filled⟩
  · rw [ret] at accepted
    cases accepted
  · rw [filled] at holes ⊢
    have same : vma' = vma := by
      have given' := accepted'.given
      rw [given] at given'
      exact (Option.some.inj given').symm
    subst same
    obtain ⟨src, arrays, exact_⟩ := migrateVmaFill_exact sound walker args
      vma' array array' args.nrPages.toNat
    generalize migrateVmaFill host walker args.masked vma' array array'
      args.nrPages.toNat kernel = setup at *
    have setUp := exact_.setUp
    rw [Kernel.walked, ← exact_.split, ← exact_.lost] at setUp
    have first : (args.masked.collect vma').first =
        args.start.toNat / 4096 := by
      have start : args.masked.start.toNat =
          args.start.toNat / 4096 * 4096 := Hmm.toNat_pageMask args.start
      rw [MigrateVmaArgs.collect, start]
      exact Nat.mul_div_cancel _ (by decide)
    refine ⟨src, fun n => decide (src (n - args.start.toNat / 4096) ≠ 0),
      arrays, ?_⟩
    intro n
    have cell := Hmm.migrateVmaSetup_cell flags args.pgmapOwner
      (fun n => decide (src (n - args.start.toNat / 4096) ≠ 0))
      setup.args.npages (args.start.toNat / 4096)
      (viewTable host vma'.mm kernel) n
    dsimp only at cell
    by_cases inside : args.start.toNat / 4096 ≤ n ∧
        n < args.start.toNat / 4096 + setup.args.npages
    · rw [if_pos inside] at cell
      obtain ⟨i, rfl⟩ := Nat.exists_eq_add_of_le inside.1
      have within : i < setup.args.npages := by omega
      have viewed := setUp.view_cell sound known once exact_.words select
        holes within
      rw [first] at viewed
      rw [Nat.add_sub_cancel_left] at cell
      have both := viewed.trans cell.symm
      obtain ⟨entry, word⟩ := Prod.mk.inj both
      refine ⟨entry, ?_⟩
      intro j _ same
      obtain rfl : i = j := by omega
      exact word
    · rw [if_neg inside] at cell
      refine ⟨?_, fun i within here => absurd here (by omega)⟩
      rw [(Prod.mk.inj cell).1]
      unfold viewTable
      have kept := setUp.same_entry sound once exact_.words (vma'.mm, n) (by
          intro i pfn within _ here
          have equal := (Prod.mk.inj here).2
          rw [first] at equal
          omega)
      rw [kept]

/-- The page is collected in both, and so is the empty address after it. -/
theorem migrateVmaSetup_refines_onePage :
    ∃ src collected,
      (migrateVmaSetup onePageHost onePageWalker onePageArgs
        onePageKernel).args.src = some src ∧
      (∀ n,
        viewTable onePageHost 0
            (migrateVmaSetup onePageHost onePageWalker onePageArgs
              onePageKernel).kernel n =
          (Hmm.migrateVmaSetup .selectSystem 0 collected 2 5
            (viewTable onePageHost 0 onePageKernel)).1 n) ∧
      (⟨viewWord onePageHost (src 0), .empty⟩ : Hmm.MigrateSlot) =
        (Hmm.migrateVmaSetup .selectSystem 0 collected 2 5
          (viewTable onePageHost 0 onePageKernel)).2 5 ∧
      (⟨viewWord onePageHost (src 1), .empty⟩ : Hmm.MigrateSlot) =
        (Hmm.migrateVmaSetup .selectSystem 0 collected 2 5
          (viewTable onePageHost 0 onePageKernel)).2 6 := by
  have known : Known onePageHost :=
    ⟨fun _ _ => rfl, fun _ other => by cases other⟩
  have once : MappedOnce onePageKernel := by
    intro place place' pfn maps maps'
    rw [(onePageKernel_maps maps).1, (onePageKernel_maps maps').1]
  have npages : (migrateVmaSetup onePageHost onePageWalker onePageArgs
      onePageKernel).args.npages = 2 := rfl
  have refines := migrateVmaSetup_refines onePageKernel_sound known once
    onePageWalker onePageArgs .selectSystem
    ⟨0, 0, 0x10000, true, false, false, false⟩ rfl rfl rfl
    (by
      rw [npages]
      intro i within hole
      have walked : ∀ i, i < 2 → (migrateVmaSetup onePageHost onePageWalker
          onePageArgs onePageKernel).ends i = .walk := by decide
      rw [walked i within] at hole
      cases hole)
  rw [npages] at refines
  obtain ⟨src, collected, arrays, viewed⟩ := refines
  exact ⟨src, collected, arrays, fun n => (viewed n).1,
    (viewed 5).2 0 (by decide) rfl, (viewed 6).2 1 (by decide) rfl⟩

end Rshm.Mm
