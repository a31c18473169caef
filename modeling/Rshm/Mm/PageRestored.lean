import Rshm.Mm.PageCustody

/-!
# Putting pages back

`remove_migration_ptes` on a page that a migration holds: each migration
entry becomes the mapping it was made from, and once the page is unlocked and
its reference dropped nothing is left of the migration.
-/

namespace Rshm.Mm

open Relation

variable {setting : Setting} {host : Host} {base kernel next : Kernel}
  {pfn old new other : Pfn}

namespace Kernel

theorem remapPte_here {place : Place} {entry : MigrationEntry}
    {bits : PteBits} :
    (kernel.remapPte setting new place entry bits).table place =
      .ofMigration (setting.kind new) (kernel.frame new).dirty new entry
        bits :=
  Function.update_self ..

theorem remapPte_apart {place visited : Place} {entry : MigrationEntry}
    {bits : PteBits} (different : place ≠ visited) :
    (kernel.remapPte setting new visited entry bits).table place =
      kernel.table place :=
  Function.update_of_ne different ..

theorem remapPte_frame (new : Pfn) (place : Place) (entry : MigrationEntry)
    (bits : PteBits) :
    (kernel.remapPte setting new place entry bits).frame new =
      { kernel.frame new with
        count := (kernel.frame new).count + 1
        mapcount := (kernel.frame new).mapcount + 1
        anonExclusive := (kernel.frame new).anonExclusive ||
          ((setting.kind new).anon && !entry.isReadable) } :=
  Function.update_self ..

end Kernel

theorem Pte.ofMigration_maps (kind : PageKind) (dirty : Bool) (pfn : Pfn)
    (entry : MigrationEntry) (bits : PteBits) :
    (ofMigration kind dirty pfn entry bits).maps = some pfn := by
  unfold ofMigration
  split <;> rfl

theorem Pte.ofMigration_isWrite (kind : PageKind) (dirty : Bool) (pfn : Pfn)
    (entry : MigrationEntry) (bits : PteBits) :
    (ofMigration kind dirty pfn entry bits).isWrite = entry.isWritable := by
  unfold ofMigration
  split <;> rfl

theorem Pte.exists_of_moves {pte : Pte} (moves : pte.moves = some pfn) :
    ∃ entry bits, pte = .migration pfn entry bits := by
  cases pte with
  | migration moved entry bits =>
      cases moves
      exact ⟨entry, bits, rfl⟩
  | none | swap | present _ _ _ _ | devicePrivate _ _ _ => cases moves

namespace Kernel

/-- The migration entries of `old` afterwards are the others that were. -/
theorem remapPte_moves {place visited : Place} {entry : MigrationEntry}
    {bits : PteBits}
    (moves : ((kernel.remapPte setting new visited entry bits).table
      place).moves = some old) :
    (kernel.table place).moves = some old ∧ place ≠ visited := by
  by_cases same : place = visited
  · subst same
    rw [remapPte_here,
      Pte.not_moves_of_maps (Pte.ofMigration_maps ..)] at moves
    cases moves
  · rw [remapPte_apart same] at moves
    exact ⟨moves, same⟩

/-- A change to two pages and to entries about them, in which entries may
pass from the one to the other. -/
structure Passes (old new : Pfn) (kernel next : Kernel) : Prop where
  frames : ∀ other, other ≠ old → other ≠ new →
    next.frame other = kernel.frame other
  table : ∀ place, next.table place = kernel.table place ∨
    (kernel.table place).names = some old ∧
      ((next.table place).names = some old ∨
        (next.table place).names = some new)

theorem Passes.refl (old new : Pfn) (kernel : Kernel) :
    kernel.Passes old new kernel :=
  ⟨fun _ _ _ => rfl, fun _ => .inl rfl⟩

theorem Passes.trans {between next : Kernel}
    (first : kernel.Passes old new between)
    (second : between.Passes old new next) : kernel.Passes old new next := by
  constructor
  · intro other apart apart'
    rw [second.frames other apart apart', first.frames other apart apart']
  · intro place
    rcases second.table place with same | ⟨named, renamed⟩
    · rw [same]
      exact first.table place
    · rcases first.table place with same | ⟨named', -⟩
      · rw [same] at named
        exact .inr ⟨named, renamed⟩
      · exact .inr ⟨named', renamed⟩

theorem Passes.touches (passes : kernel.Passes pfn pfn next) :
    kernel.Touches pfn next := by
  refine ⟨fun other apart => passes.frames other apart apart, ?_⟩
  intro place
  rcases passes.table place with same | ⟨named, renamed⟩
  · exact .inl same
  · exact .inr ⟨named, renamed.elim id id⟩

theorem Passes.remapPte {place : Place} {entry : MigrationEntry}
    {bits : PteBits} (here : kernel.table place = .migration old entry bits) :
    kernel.Passes old new (kernel.remapPte setting new place entry bits) := by
  refine ⟨fun _ _ apart => Function.update_of_ne apart .., ?_⟩
  intro other
  by_cases same : other = place
  · subst same
    refine .inr ⟨Pte.names_of_moves (by rw [here]; rfl), .inr ?_⟩
    rw [remapPte_here]
    exact Pte.names_of_maps (Pte.ofMigration_maps ..)
  · exact .inl (remapPte_apart same)

theorem Passes.remaps (steps : ReflTransGen (Remaps setting old new) kernel next) :
    kernel.Passes old new next := by
  induction steps with
  | refl => exact .refl old new kernel
  | tail _ step passes =>
      obtain ⟨here⟩ := step
      exact passes.trans (.remapPte here)

end Kernel

theorem Exclusively.remapPte {place : Place} {entry : MigrationEntry}
    {bits : PteBits} (here : kernel.table place = .migration pfn entry bits) :
    Exclusively host (kernel.remapPte host pfn place entry bits) pfn ↔
      Exclusively host kernel pfn := by
  unfold Exclusively
  rw [Kernel.remapPte_frame]
  simp only [Bool.or_eq_true, Bool.and_eq_true, Bool.not_eq_true']
  constructor
  · rintro ((exclusive | ⟨anon, kind⟩) | ⟨anon, other, entry', bits',
      there, kind⟩)
    · exact .inl exclusive
    · exact .inr ⟨anon, place, entry, bits, here, kind⟩
    · have different : other ≠ place := by
        rintro rfl
        rw [Kernel.remapPte_here] at there
        have maps := Pte.ofMigration_maps (host.kind pfn)
          (kernel.frame pfn).dirty pfn entry bits
        rw [there] at maps
        cases maps
      rw [Kernel.remapPte_apart different] at there
      exact .inr ⟨anon, other, entry', bits', there, kind⟩
  · rintro (exclusive | ⟨anon, other, entry', bits', there, kind⟩)
    · exact .inl (.inl exclusive)
    · by_cases same : other = place
      · subst same
        rw [here] at there
        cases there
        exact .inl (.inr ⟨anon, kind⟩)
      · refine .inr ⟨anon, other, entry', bits', ?_, kind⟩
        rw [Kernel.remapPte_apart same]
        exact there

theorem Held.remapPte {refs : Int} {lru : Bool} {place : Place}
    {entry : MigrationEntry} {bits : PteBits}
    (held : Held host base kernel pfn refs lru) (sound : base.Sound host)
    (traced : base.Traced kernel pfn)
    (here : kernel.table place = .migration pfn entry bits) :
    Held host base (kernel.remapPte host pfn place entry bits) pfn refs
      lru := by
  have exclusive : Exclusively host
      (kernel.remapPte host pfn place entry bits) pfn ↔ _ :=
    (Exclusively.remapPte here).trans held.exclusive
  obtain ⟨maps, ⟨shared, there⟩, set⟩ :=
    held.converted sound traced (by rw [here]; rfl)
  obtain ⟨-, kind, same⟩ := Pte.migration.inj (here.symm.trans there)
  subst same
  have frame : (kernel.remapPte host pfn place entry
      (base.table place).bits).frame pfn = _ := Kernel.remapPte_frame ..
  have entered : (kernel.remapPte host pfn place entry
      (base.table place).bits).table place = base.table place := by
    rw [Kernel.remapPte_here, kind, Pte.ofMigration_redirect]
    exact Pte.redirect_self (sound.proper place) maps set
  have elsewhere (other : Place) (different : other ≠ place) :
      (kernel.remapPte host pfn place entry
        (base.table place).bits).table other = kernel.table other :=
    Kernel.remapPte_apart different
  have one : kernel.unmapped host pfn =
      (kernel.remapPte host pfn place entry
        (base.table place).bits).unmapped host pfn + 1 := by
    refine Tally.countP_flip (sound.nodup pfn)
      (sound.mapped place pfn maps) ?_ ?_ ?_
    · simp [entered, Pte.not_moves_of_maps maps]
    · simp [here, Pte.moves]
    · intro other different
      simp only [elsewhere other different]
  have count := held.count
  have mapcount := held.mapcount
  rw [one] at count mapcount
  push_cast at count mapcount
  constructor
  · exact held.free
  · rw [frame]
    exact held.locked
  · rw [frame]
    exact held.lru
  · rw [frame]
    exact held.compound
  · rw [frame]
    exact held.dirty
  · rw [frame]
    dsimp only
    omega
  · rw [frame]
    dsimp only
    omega
  · exact exclusive
  · intro other mapped
    by_cases same : other = place
    · subst same
      exact .inl entered
    · rcases held.entries other mapped with kept | converted
      · exact .inl ((elsewhere other same).trans kept)
      · obtain ⟨⟨shared', there⟩, set'⟩ := converted
        refine .inr ⟨⟨shared', ?_⟩, ?_⟩
        · exact (elsewhere other same).trans there
        · rw [frame]
          exact set'

theorem Kernel.Touches.remaps
    (steps : ReflTransGen (Kernel.Remaps host pfn pfn) kernel next) :
    kernel.Touches pfn next :=
  (Passes.remaps steps).touches

theorem Kernel.Touches.unmaps
    (steps : ReflTransGen (Kernel.Unmaps host pfn) kernel next) :
    kernel.Touches pfn next := by
  induction steps with
  | refl => exact .refl kernel pfn
  | tail _ step touches =>
      obtain ⟨maps, -⟩ := step
      exact touches.trans (.unmapPte maps)

theorem Held.tryToMigrate {refs : Int} {lru : Bool}
    (held : Held host base kernel pfn refs lru) (sound : base.Sound host)
    (names : base.SameNames kernel) :
    Held host base (host.tryToMigrate pfn kernel) pfn refs lru := by
  have steps := host.unmaps pfn kernel
  generalize host.tryToMigrate pfn kernel = after at *
  induction steps with
  | refl => exact held
  | tail before step held =>
      obtain ⟨maps, -⟩ := step
      exact held.unmapPte sound (names.touches (.unmaps before)) maps

theorem Held.removeMigrationPtes {refs : Int} {lru : Bool}
    (held : Held host base kernel pfn refs lru) (sound : base.Sound host)
    (traced : base.Traced kernel pfn) :
    Held host base (host.removeMigrationPtes pfn pfn kernel) pfn refs lru ∧
      ∀ place, ((host.removeMigrationPtes pfn pfn kernel).table place).moves ≠
        some pfn := by
  have steps := host.remaps pfn pfn kernel
  have emptied := host.remapped pfn pfn kernel
  generalize host.removeMigrationPtes pfn pfn kernel = after at *
  have back : Held host base after pfn refs lru := by
    clear emptied
    induction steps with
    | refl => exact held
    | tail before step held =>
        obtain ⟨here⟩ := step
        exact held.remapPte sound (traced.touches (.remaps before)) here
  refine ⟨back, ?_⟩
  intro place moves
  have maps :=
    (back.converted sound (traced.touches (.remaps steps)) moves).1
  exact emptied place (sound.mapped place pfn maps) moves

/-- The last reference and the lock of a page that has all its mappings. -/
theorem Held.intact {refs : Int} {lru : Bool}
    (held : Held host base kernel pfn refs lru) (sound : base.Sound host)
    (unmoved : ∀ place, (kernel.table place).moves ≠ some pfn) {frame : Frame}
    (count : frame.count = (kernel.frame pfn).count - refs)
    (mapcount : frame.mapcount = (kernel.frame pfn).mapcount)
    (locked : frame.locked = false)
    (on : frame.lru = (base.frame pfn).lru)
    (dirty : frame.dirty = (kernel.frame pfn).dirty)
    (exclusive : frame.anonExclusive = (kernel.frame pfn).anonExclusive)
    (compound : frame.compound = (kernel.frame pfn).compound) :
    Intact base (kernel.setFrame pfn frame) pfn := by
  have here : (kernel.setFrame pfn frame).frame pfn = frame :=
    Function.update_self ..
  have none_ : kernel.unmapped host pfn = 0 := by
    rw [Kernel.unmapped, List.countP_eq_zero]
    intro place _
    simpa using unmoved place
  have counted := held.count
  have mapped := held.mapcount
  rw [none_] at counted mapped
  have same : (kernel.frame pfn).anonExclusive =
      (base.frame pfn).anonExclusive := by
    rw [Bool.eq_iff_iff, ← held.exclusive]
    constructor
    · exact .inl
    · rintro (exclusive | ⟨-, place, entry, bits, there, -⟩)
      · exact exclusive
      · exact absurd (by rw [there]; rfl) (unmoved place)
  refine ⟨?_, ?_, ?_⟩
  · rw [here]
    cases frame
    simp only at count mapcount locked on dirty exclusive compound ⊢
    rw [Frame.mk.injEq]
    refine ⟨by omega, by omega, ?_, on, rfl, exclusive.trans same,
      compound.trans held.compound⟩
    rw [locked, held.free]
  · rw [here, dirty]
    exact held.dirty
  · intro place named
    rcases held.entries place (held.base_maps sound named) with
      kept | converted
    · exact kept
    · exact absurd converted.moves (unmoved place)

end Rshm.Mm
