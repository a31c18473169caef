import Mathlib.Logic.Relation
import Rshm.Mm.PageFrames

/-!
# The calls of a migration

The functions of the kernel that `migrate_device.c` calls on a page and that
the repository does not have: `isolate_lru_page`, `putback_lru_page`,
`try_to_migrate` and `remove_migration_ptes`.  A host has any functions that
do what these are documented to do; the order in which the reverse map is
walked, in particular, is theirs.
-/

namespace Rshm.Mm

open Relation

namespace Kernel

/-- One mapping of a page gives way to a migration entry. -/
inductive Unmaps (setting : Setting) (pfn : Pfn) : Kernel → Kernel → Prop where
  | one {kernel : Kernel} {place : Place}
      (maps : (kernel.table place).maps = some pfn)
      (free : setting.keeps place = false) :
      Unmaps setting pfn kernel (kernel.unmapPte setting pfn place)

/-- One migration entry of `old` gives way to a mapping of `new`. -/
inductive Remaps (setting : Setting) (old new : Pfn) :
    Kernel → Kernel → Prop where
  | one {kernel : Kernel} {place : Place} {entry : MigrationEntry}
      {bits : PteBits}
      (here : kernel.table place = .migration old entry bits) :
      Remaps setting old new kernel
        (kernel.remapPte setting new place entry bits)

end Kernel

/-- A setting, and the calls.  `isolate_lru_page` succeeds on the pages that
are on the LRU; `try_to_migrate` replaces mappings until those that the
reverse map still has are to be kept, and `remove_migration_ptes` replaces
migration entries until it has none. -/
structure Host extends Setting where
  isolateLruPage : Pfn → Kernel → Option Kernel
  putbackLruPage : Pfn → Kernel → Kernel
  tryToMigrate : Pfn → Kernel → Kernel
  removeMigrationPtes : Pfn → Pfn → Kernel → Kernel
  isolates : ∀ pfn kernel, (kernel.frame pfn).lru = true →
    isolateLruPage pfn kernel = some (kernel.offLru pfn)
  refuses : ∀ pfn kernel, (kernel.frame pfn).lru = false →
    isolateLruPage pfn kernel = none
  putsBack : ∀ pfn kernel, putbackLruPage pfn kernel = kernel.ontoLru pfn
  unmaps : ∀ pfn kernel,
    ReflTransGen (Kernel.Unmaps toSetting pfn) kernel (tryToMigrate pfn kernel)
  unmapped : ∀ pfn kernel, ∀ place ∈ rmap pfn,
    ((tryToMigrate pfn kernel).table place).maps = some pfn →
    keeps place = true
  remaps : ∀ old new kernel,
    ReflTransGen (Kernel.Remaps toSetting old new) kernel
      (removeMigrationPtes old new kernel)
  remapped : ∀ old new kernel, ∀ place ∈ rmap old,
    ((removeMigrationPtes old new kernel).table place).moves ≠ some old

instance : Coe Host Setting := ⟨Host.toSetting⟩

end Rshm.Mm
