import Rshm.Mm.PageRestored

/-!
# Walking the reverse map

Calls that make a setting a host: `try_to_migrate` and
`remove_migration_ptes` visit the places of the reverse map one after the
other, each of them once.
-/

namespace Rshm.Mm

open Relation

variable {setting : Setting} {kernel : Kernel} {pfn old new : Pfn}
  {place visited : Place}

namespace Kernel

def tryToMigrateOne (setting : Setting) (pfn : Pfn) (kernel : Kernel)
    (place : Place) : Kernel :=
  if (kernel.table place).maps = some pfn ∧ setting.keeps place = false then
    kernel.unmapPte setting pfn place
  else kernel

def tryToMigrate (setting : Setting) (pfn : Pfn) (kernel : Kernel) : Kernel :=
  (setting.rmap pfn).foldl (tryToMigrateOne setting pfn) kernel

/-- `remove_migration_pte` for the migration entries of `old`. -/
def removeMigrationPte (setting : Setting) (old new : Pfn) (kernel : Kernel)
    (place : Place) : Kernel :=
  match kernel.table place with
  | .migration pfn entry bits =>
      if pfn = old then kernel.remapPte setting new place entry bits else kernel
  | _ => kernel

def removeMigrationPtes (setting : Setting) (old new : Pfn) (kernel : Kernel) :
    Kernel :=
  (setting.rmap old).foldl (removeMigrationPte setting old new) kernel

/-- A walk of steps, each of which does nothing or what is allowed. -/
theorem foldl_steps {allowed : Kernel → Kernel → Prop}
    {step : Kernel → Place → Kernel}
    (each : ∀ kernel place,
      step kernel place = kernel ∨ allowed kernel (step kernel place))
    (places : List Place) (kernel : Kernel) :
    ReflTransGen allowed kernel (places.foldl step kernel) := by
  induction places generalizing kernel with
  | nil => exact .refl
  | cons place places induction =>
      have later := induction (step kernel place)
      rcases each kernel place with same | allowed
      · rw [same] at later
        rw [List.foldl_cons, same]
        exact later
      · exact .head allowed later

theorem tryToMigrateOne_step (kernel : Kernel) (place : Place) :
    kernel.tryToMigrateOne setting pfn place = kernel ∨
      Unmaps setting pfn kernel
        (kernel.tryToMigrateOne setting pfn place) := by
  unfold tryToMigrateOne
  split
  · next mapped => exact .inr (.one mapped.1 mapped.2)
  · exact .inl rfl

theorem removeMigrationPte_step (kernel : Kernel) (place : Place) :
    kernel.removeMigrationPte setting old new place = kernel ∨
      Remaps setting old new kernel
        (kernel.removeMigrationPte setting old new place) := by
  unfold removeMigrationPte
  split
  · next moved entry bits here =>
    split
    · next same =>
      subst same
      exact .inr (.one here)
    · exact .inl rfl
  · exact .inl rfl

theorem tryToMigrateOne_maps
    (maps : ((kernel.tryToMigrateOne setting pfn visited).table place).maps =
      some pfn) :
    (kernel.table place).maps = some pfn ∧
      (place = visited → setting.keeps place = true) := by
  unfold tryToMigrateOne at maps
  split at maps
  · next moved =>
    obtain ⟨before, different⟩ := unmapPte_maps moved.1 maps
    exact ⟨before, fun here => absurd here different⟩
  · next refused =>
    refine ⟨maps, ?_⟩
    rintro rfl
    rw [not_and] at refused
    exact Bool.eq_true_of_not_eq_false (refused maps)

theorem foldl_tryToMigrate_maps (places : List Place) (kernel : Kernel)
    (maps : ((places.foldl (tryToMigrateOne setting pfn) kernel).table
      place).maps = some pfn) :
    (kernel.table place).maps = some pfn ∧
      (place ∈ places → setting.keeps place = true) := by
  induction places generalizing kernel with
  | nil => exact ⟨maps, fun member => absurd member List.not_mem_nil⟩
  | cons visited places induction =>
      obtain ⟨later, kept⟩ := induction _ maps
      obtain ⟨now, here⟩ := tryToMigrateOne_maps later
      refine ⟨now, ?_⟩
      intro member
      rcases List.mem_cons.mp member with same | inside
      · exact here same
      · exact kept inside

/-- An entry is a migration entry of the page afterwards only if it was one
and has not been visited. -/
theorem removeMigrationPte_moves
    (moves : ((kernel.removeMigrationPte setting old new visited).table
      place).moves = some old) :
    (kernel.table place).moves = some old ∧ place ≠ visited := by
  unfold removeMigrationPte at moves
  split at moves
  · next moved entry bits here =>
    split at moves
    · exact remapPte_moves moves
    · next other =>
      refine ⟨moves, ?_⟩
      rintro rfl
      rw [here] at moves
      exact other (Option.some.inj moves)
  · next other =>
    refine ⟨moves, ?_⟩
    rintro rfl
    obtain ⟨entry, bits, here⟩ := Pte.exists_of_moves moves
    exact other _ _ _ here

theorem foldl_removeMigrationPte_moves (places : List Place)
    (kernel : Kernel)
    (moves : ((places.foldl (removeMigrationPte setting old new)
      kernel).table place).moves = some old) :
    (kernel.table place).moves = some old ∧ place ∉ places := by
  induction places generalizing kernel with
  | nil => exact ⟨moves, List.not_mem_nil⟩
  | cons visited places induction =>
      obtain ⟨later, unvisited⟩ := induction _ moves
      obtain ⟨now, different⟩ := removeMigrationPte_moves later
      refine ⟨now, ?_⟩
      rw [List.mem_cons, not_or]
      exact ⟨different, unvisited⟩

end Kernel

/-- The host that walks the reverse map in its order. -/
def Setting.host (setting : Setting) : Host where
  toSetting := setting
  isolateLruPage pfn kernel :=
    if (kernel.frame pfn).lru then some (kernel.offLru pfn) else none
  putbackLruPage pfn kernel := kernel.ontoLru pfn
  tryToMigrate pfn kernel := kernel.tryToMigrate setting pfn
  removeMigrationPtes old new kernel :=
    kernel.removeMigrationPtes setting old new
  isolates pfn kernel on := if_pos on
  refuses pfn kernel off := by rw [off]; exact if_neg Bool.false_ne_true
  putsBack _ _ := rfl
  unmaps _ kernel :=
    Kernel.foldl_steps Kernel.tryToMigrateOne_step _ kernel
  unmapped _ kernel _ member maps :=
    (Kernel.foldl_tryToMigrate_maps _ kernel maps).2 member
  remaps _ _ kernel :=
    Kernel.foldl_steps Kernel.removeMigrationPte_step _ kernel
  remapped _ _ kernel _ member moves :=
    (Kernel.foldl_removeMigrationPte_moves _ kernel moves).2 member

end Rshm.Mm
