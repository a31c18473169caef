import Rshm.Hmm.Address
import Rshm.Mm.Unmap

/-!
# Setting up a migration

`migrate_vma_setup`: the checks of its arguments, the source array that it
clears, and the two stages after which the pages it has chosen are locked and
unmapped.
-/

namespace Rshm.Mm

open RangeLoop

/-- What `migrate_vma_setup` reads of a `struct vm_area_struct`. -/
structure Vma where
  mm : Nat
  start : UInt64
  stop : UInt64
  anonymous : Bool
  hugetlb : Bool
  special : Bool
  dax : Bool

/-- `struct migrate_vma`; `vma` and the arrays may be `NULL`. -/
structure MigrateVmaArgs where
  vma : Option Vma
  dst : Option (Nat → UInt64)
  src : Option (Nat → UInt64)
  cpages : Nat
  npages : Nat
  start : UInt64
  stop : UInt64
  pgmapOwner : Nat
  select : MigrateSelect
  faultPage : Option Pfn

/-- How `walk_page_range` cuts a number of pages into callbacks. -/
structure Walker where
  segments : Nat → List Segment
  covers : ∀ count, pagesOf (segments count) = count

/-- What `migrate_vma_setup` returns and leaves.  `zeroed` is the number of
words that `memset` clears; `lost`, `split` and `ends` are those of the
walk. -/
structure Setup where
  ret : Int
  args : MigrateVmaArgs
  kernel : Kernel
  zeroed : Nat
  lost : Pfn → Nat
  split : Pfn → Option Nat
  ends : Nat → PmdEnd

namespace MigrateVmaArgs

/-- `(args->end - args->start) >> PAGE_SHIFT`. -/
def nrPages (args : MigrateVmaArgs) : UInt64 :=
  (args.stop - args.start) >>> Hmm.pageShift

/-- `args->start &= PAGE_MASK` and the same for `args->end`. -/
def masked (args : MigrateVmaArgs) : MigrateVmaArgs :=
  { args with
    start := args.start &&& Hmm.pageMask
    stop := args.stop &&& Hmm.pageMask }

/-- The pages from `start` to `end`; `walk_page_range` does nothing when the
range is reversed. -/
def pages (args : MigrateVmaArgs) : Nat :=
  (args.stop.toNat - args.start.toNat) / 4096

def collect (args : MigrateVmaArgs) (vma : Vma) : CollectArgs where
  mm := vma.mm
  first := args.start.toNat / 4096
  anonymous := vma.anonymous
  select := args.select
  pgmapOwner := args.pgmapOwner

end MigrateVmaArgs

/-- The rest of `migrate_vma_setup`, once its arguments have passed. -/
def migrateVmaFill (host : Host) (walker : Walker) (args : MigrateVmaArgs)
    (vma : Vma) (src dst : Nat → UInt64) (zeroed : Nat) (kernel : Kernel) :
    Setup :=
  let src := fun i => if i < zeroed then 0 else src i
  let walk := migrateVmaCollect host (args.collect vma)
    (walker.segments args.pages) src dst kernel
  let args :=
    { args with
      dst := some walk.dst
      npages := walk.npages
      stop := args.start + walk.npages.toUInt64 <<< Hmm.pageShift }
  if walk.cpages = 0 then
    { ret := 0
      args := { args with src := some walk.src, cpages := walk.cpages }
      kernel := walk.kernel
      zeroed := zeroed
      lost := walk.lost
      split := walk.split
      ends := walk.ends }
  else
    let unmap := migrateDeviceUnmap host args.faultPage walk.npages walk.src
      walk.kernel
    { ret := 0
      args := { args with src := some unmap.src, cpages := unmap.unmapped }
      kernel := unmap.kernel
      zeroed := zeroed
      lost := walk.lost
      split := walk.split
      ends := walk.ends }

def migrateVmaSetup (host : Host) (walker : Walker) (args : MigrateVmaArgs)
    (kernel : Kernel) : Setup :=
  let nrPages := args.nrPages
  let args := args.masked
  let refused : Setup :=
    { ret := -22
      args := args
      kernel := kernel
      zeroed := 0
      lost := fun _ => 0
      split := fun _ => none
      ends := fun _ => .skip }
  match args.vma with
  | none => refused
  | some vma =>
      if vma.hugetlb || vma.special || vma.dax then refused
      else if nrPages.toInt64 ≤ 0 then refused
      else if args.start < vma.start ∨ vma.stop ≤ args.start then refused
      else if args.stop ≤ vma.start ∨ vma.stop < args.stop then refused
      else
        match args.src, args.dst with
        | some src, some dst =>
            if args.faultPage.any fun page =>
                !(host.kind page).isDevicePrivate then refused
            else
              migrateVmaFill host walker args vma src dst nrPages.toNat kernel
        | _, _ => refused

/-- The arguments that pass: the addresses as naturals, except that the
length of the range is taken modulo the size of a word. -/
structure Accepted (host : Host) (args : MigrateVmaArgs) (vma : Vma) :
    Prop where
  given : args.vma = some vma
  plain : (vma.hugetlb || vma.special || vma.dax) = false
  pages : 4096 ≤ (args.stop - args.start).toNat
  startAbove : vma.start.toNat ≤ args.start.toNat / 4096 * 4096
  startBelow : args.start.toNat / 4096 * 4096 < vma.stop.toNat
  stopAbove : vma.start.toNat < args.stop.toNat / 4096 * 4096
  stopBelow : args.stop.toNat / 4096 * 4096 ≤ vma.stop.toNat
  src : args.src ≠ none
  dst : args.dst ≠ none
  faultPage : ∀ page, args.faultPage = some page →
    (host.kind page).isDevicePrivate = true

theorem toNat_nrPages (args : MigrateVmaArgs) :
    args.nrPages.toNat = (args.stop - args.start).toNat / 4096 := by
  rw [MigrateVmaArgs.nrPages]
  exact Hmm.pfnOf_eq (args.stop - args.start)

/-- A shifted word is not negative as a `long`. -/
theorem nrPages_pos (args : MigrateVmaArgs) :
    args.nrPages.toInt64 ≤ 0 ↔ (args.stop - args.start).toNat < 4096 := by
  have below := (args.stop - args.start).toNat_lt
  have pages := toNat_nrPages args
  have signed : args.nrPages.toInt64.toInt = args.nrPages.toNat := by
    apply BitVec.toInt_eq_toNat_of_lt
    show 2 * args.nrPages.toNat < 2 ^ 64
    omega
  have zero : (0 : Int64).toInt = 0 := rfl
  rw [Int64.le_iff_toInt_le, signed, pages, zero]
  omega

/-- Either the arguments are refused, or they pass and the rest is done. -/
theorem migrateVmaSetup_cases (host : Host) (walker : Walker)
    (args : MigrateVmaArgs) (kernel : Kernel) :
    ((migrateVmaSetup host walker args kernel).ret = -22 ∧
        (migrateVmaSetup host walker args kernel).kernel = kernel ∧
        (migrateVmaSetup host walker args kernel).args = args.masked ∧
        ¬∃ vma, Accepted host args vma) ∨
      ∃ vma src dst, Accepted host args vma ∧ args.src = some src ∧
        migrateVmaSetup host walker args kernel =
          migrateVmaFill host walker args.masked vma src dst
            args.nrPages.toNat kernel := by
  have start : args.masked.start.toNat = args.start.toNat / 4096 * 4096 :=
    Hmm.toNat_pageMask args.start
  have stop : args.masked.stop.toNat = args.stop.toNat / 4096 * 4096 :=
    Hmm.toNat_pageMask args.stop
  have refuse {setup : Setup} (ret : setup.ret = -22)
      (same : setup.kernel = kernel) (masked : setup.args = args.masked)
      (bad : ∀ vma, Accepted host args vma → False) :
      setup.ret = -22 ∧ setup.kernel = kernel ∧ setup.args = args.masked ∧
        ¬∃ vma, Accepted host args vma :=
    ⟨ret, same, masked, fun accepted => accepted.elim bad⟩
  unfold migrateVmaSetup
  dsimp only
  cases given : args.vma with
  | none =>
      have there : args.masked.vma = none := given
      rw [there]
      refine .inl (refuse rfl rfl rfl ?_)
      intro vma accepted
      rw [accepted.given] at given
      cases given
  | some vma =>
      have there : args.masked.vma = some vma := given
      rw [there]
      have same {vma' : Vma} (accepted : Accepted host args vma') :
          vma' = vma := by
        rw [accepted.given] at given
        exact Option.some.inj given
      dsimp only
      split
      · next odd =>
        refine .inl (refuse rfl rfl rfl ?_)
        intro vma' accepted
        have plain := accepted.plain
        rw [same accepted, odd] at plain
        cases plain
      · next plain =>
        split
        · next few =>
          rw [nrPages_pos] at few
          refine .inl (refuse rfl rfl rfl ?_)
          intro vma' accepted
          have pages := accepted.pages
          omega
        · next pages =>
          rw [nrPages_pos] at pages
          split
          · next outside =>
            refine .inl (refuse rfl rfl rfl ?_)
            intro vma' accepted
            have above := accepted.startAbove
            have below := accepted.startBelow
            rw [same accepted] at above below
            rw [UInt64.lt_iff_toNat_lt, UInt64.le_iff_toNat_le, start] at outside
            omega
          · next startInside =>
            split
            · next outside =>
              refine .inl (refuse rfl rfl rfl ?_)
              intro vma' accepted
              have above := accepted.stopAbove
              have below := accepted.stopBelow
              rw [same accepted] at above below
              rw [UInt64.lt_iff_toNat_lt, UInt64.le_iff_toNat_le, stop]
                at outside
              omega
            · next stopInside =>
              rw [UInt64.lt_iff_toNat_lt, UInt64.le_iff_toNat_le, start]
                at startInside
              rw [UInt64.lt_iff_toNat_lt, UInt64.le_iff_toNat_le, stop]
                at stopInside
              split
              · next src dst source destination =>
                have source : args.src = some src := source
                have destination : args.dst = some dst := destination
                split
                · next foreign =>
                  refine .inl (refuse rfl rfl rfl ?_)
                  intro vma' accepted
                  cases fault : args.faultPage with
                  | none =>
                      have none_ : args.masked.faultPage = none := fault
                      rw [none_] at foreign
                      cases foreign
                  | some page =>
                      have some_ : args.masked.faultPage = some page := fault
                      rw [some_, Option.any_some,
                        accepted.faultPage page fault] at foreign
                      cases foreign
                · next private_ =>
                  refine .inr ⟨vma, src, dst, ⟨given,
                    Bool.eq_false_iff.mpr plain, by omega, by omega, by omega,
                    by omega, by omega, ?_, ?_, ?_⟩, source, rfl⟩
                  · rw [source]
                    exact Option.some_ne_none src
                  · rw [destination]
                    exact Option.some_ne_none dst
                  · intro page fault
                    have fault : args.masked.faultPage = some page := fault
                    rw [fault] at private_
                    simpa using private_
              · next missing =>
                refine .inl (refuse rfl rfl rfl ?_)
                intro vma' accepted
                obtain ⟨src, source⟩ :=
                  Option.ne_none_iff_exists'.mp accepted.src
                obtain ⟨dst, destination⟩ :=
                  Option.ne_none_iff_exists'.mp accepted.dst
                exact missing src dst source destination

end Rshm.Mm
