import Rshm.Mm.Unmap

/-!
# Mappings that move to another page

`remove_migration_ptes` with the page that a migrated page has been copied
to: each migration entry of the old page becomes the mapping of the new page
that its mapping redirects to, and the new page counts it.
-/

namespace Rshm.Mm

open Relation

variable {host : Host} {base start kernel : Kernel} {old new pfn : Pfn}

namespace Kernel

theorem Passes.setOld (kernel : Kernel) (old new : Pfn) (frame : Frame) :
    kernel.Passes old new (kernel.setFrame old frame) :=
  ⟨fun _ apart _ => Function.update_of_ne apart .., fun _ => .inl rfl⟩

theorem Passes.setNew (kernel : Kernel) (old new : Pfn) (frame : Frame) :
    kernel.Passes old new (kernel.setFrame new frame) :=
  ⟨fun _ _ apart => Function.update_of_ne apart .., fun _ => .inl rfl⟩

theorem Touches.passes {next : Kernel} (touches : kernel.Touches old next)
    (new : Pfn) : kernel.Passes old new next :=
  ⟨fun other apart _ => touches.frames other apart, fun place =>
    (touches.table place).imp_right fun named => ⟨named.1, .inl named.2⟩⟩

theorem Passes.spares {next : Kernel} (passes : kernel.Passes old new next)
    (apart : pfn ≠ old) (apart' : pfn ≠ new) : kernel.Spares pfn next := by
  refine ⟨passes.frames pfn apart apart', ?_⟩
  intro place about
  rcases passes.table place with same | ⟨before, after⟩
  · exact same
  · exfalso
    rcases about with named | named
    · exact apart (Option.some.inj (named.symm.trans before))
    · rcases after with after | after
      · exact apart (Option.some.inj (named.symm.trans after))
      · exact apart' (Option.some.inj (named.symm.trans after))

theorem Passes.nameless {next : Kernel} (passes : kernel.Passes old new next)
    {place : Place} (nameless : (kernel.table place).names = none) :
    next.table place = kernel.table place := by
  rcases passes.table place with same | ⟨before, -⟩
  · exact same
  · rw [nameless] at before
    cases before

end Kernel

namespace Pte

theorem redirect_maps (kind : PageKind) (dirty : Bool) (new : Pfn)
    (pte : Pte) : (pte.redirect kind dirty new).maps = some new :=
  ofMigration_maps ..

theorem redirect_isWrite (kind : PageKind) (dirty : Bool) (new : Pfn)
    (pte : Pte) : (pte.redirect kind dirty new).isWrite = pte.isWrite := by
  rw [redirect, ofMigration_isWrite, migrationEntry_isWritable]

theorem redirect_proper {kind : Pfn → PageKind} (dirty : Bool) (new : Pfn)
    (pte : Pte) : (pte.redirect (kind new) dirty new).Proper kind := by
  unfold redirect ofMigration
  rw [migrationEntry_isWritable]
  split
  · next zone => exact ⟨zone, rfl⟩
  · next zone =>
    intro _
    refine ⟨Bool.eq_false_iff.mpr zone, ?_⟩
    intro waits
    rw [Bool.and_eq_true, Bool.not_eq_true'] at waits
    exact waits.2

end Pte

/-- A page that nothing is about yet, to which a page may be migrated. -/
structure Vacant (kernel : Kernel) (new : Pfn) : Prop where
  unnamed : ∀ place, (kernel.table place).names ≠ some new
  mapcount : (kernel.frame new).mapcount = 0

/-- Some of the mappings of `old` in `base` are mappings of `new` instead,
and the others are still migration entries. -/
structure Moving (host : Host) (base start kernel : Kernel) (old new : Pfn) :
    Prop where
  frames : ∀ other, other ≠ new → kernel.frame other = start.frame other
  locked : (kernel.frame new).locked = (start.frame new).locked
  lru : (kernel.frame new).lru = (start.frame new).lru
  dirty : (kernel.frame new).dirty = (start.frame new).dirty
  count : (kernel.frame new).count =
    (start.frame new).count + kernel.mappings host new
  mapcount : (kernel.frame new).mapcount = kernel.mappings host new
  entries : ∀ place, (base.table place).maps = some old →
    kernel.table place = start.table place ∨
      kernel.table place = (base.table place).redirect (host.kind new)
        (start.frame new).dirty new
  rest : ∀ place, (base.table place).maps ≠ some old →
    kernel.table place = start.table place
  writable : ∀ place, (kernel.table place).maps = some new →
    (kernel.table place).isWrite = true → (host.kind new).anon = true →
    (kernel.frame new).anonExclusive = true
  gained : (kernel.frame new).anonExclusive = true →
    (start.frame new).anonExclusive = true ∨
      Exclusively host start old ∧ (host.kind new).anon = true

theorem Moving.first (vacant : Vacant start new) :
    Moving host base start start old new := by
  have none_ : start.mappings host new = 0 := by
    rw [Kernel.mappings, List.countP_eq_zero]
    intro place _
    rw [decide_eq_true_iff]
    intro maps
    exact vacant.unnamed place (Pte.names_of_maps maps)
  constructor
  · intro _ _
    rfl
  · rfl
  · rfl
  · rfl
  · rw [none_]
    exact (Int.add_zero _).symm
  · rw [none_]
    exact vacant.mapcount
  · intro _ _
    exact .inl rfl
  · intro _ _
    rfl
  · intro place maps
    exact absurd (Pte.names_of_maps maps) (vacant.unnamed place)
  · exact .inl

theorem Moving.remapPte {place : Place} {entry : MigrationEntry}
    {bits : PteBits} (moving : Moving host base start kernel old new)
    (ready : Ready host base start old) (sound : base.Sound host)
    (traced : base.Traced start old) (shared : host.rmap new = host.rmap old)
    (alike : (host.kind new).anon = (host.kind old).anon)
    (here : kernel.table place = .migration old entry bits) :
    Moving host base start (kernel.remapPte host new place entry bits) old
      new := by
  have moves : (kernel.table place).moves = some old := by
    rw [here]
    rfl
  -- The entry is one that the migration has set.
  have maps : (base.table place).maps = some old := by
    by_contra elsewhere
    rw [moving.rest place elsewhere] at moves
    exact elsewhere (ready.held.base_maps sound
      (traced place (Pte.names_of_moves moves)))
  have unmoved : kernel.table place = start.table place := by
    rcases moving.entries place maps with same | redirected
    · exact same
    · rw [redirected, Pte.not_moves_of_maps (Pte.redirect_maps ..)] at moves
      cases moves
  obtain ⟨⟨exclusive, set⟩, -⟩ := ready.converted maps
  obtain ⟨-, becomes, same⟩ :=
    Pte.migration.inj (here.symm.trans (unmoved.trans set))
  subst same
  have frame : (kernel.remapPte host new place entry
      (base.table place).bits).frame new = _ := Kernel.remapPte_frame ..
  have entered : (kernel.remapPte host new place entry
      (base.table place).bits).table place =
        (base.table place).redirect (host.kind new)
          (start.frame new).dirty new := by
    rw [Kernel.remapPte_here, moving.dirty, becomes,
      Pte.ofMigration_redirect]
  have elsewhere (other : Place) (different : other ≠ place) :
      (kernel.remapPte host new place entry
        (base.table place).bits).table other = kernel.table other :=
    Kernel.remapPte_apart different
  have one : (kernel.remapPte host new place entry
        (base.table place).bits).mappings host new =
      kernel.mappings host new + 1 := by
    have known : place ∈ host.rmap new := by
      rw [shared]
      exact sound.mapped place old maps
    refine Tally.countP_flip (sound.nodup new) known ?_ ?_ ?_
    · rw [here]
      rfl
    · simp [entered, Pte.redirect_maps]
    · intro other different
      simp only [elsewhere other different]
  constructor
  · intro other different
    rw [← moving.frames other different]
    exact Function.update_of_ne different ..
  · rw [frame]
    exact moving.locked
  · rw [frame]
    exact moving.lru
  · rw [frame]
    exact moving.dirty
  · rw [frame, one, moving.count]
    push_cast
    omega
  · rw [frame, one, moving.mapcount]
    push_cast
    rfl
  · intro other mapped
    by_cases same : other = place
    · subst same
      exact .inr entered
    · rw [elsewhere other same]
      exact moving.entries other mapped
  · intro other unmapped
    have different : other ≠ place := by
      rintro rfl
      exact unmapped maps
    rw [elsewhere other different]
    exact moving.rest other unmapped
  · intro other mapped write anon
    rw [frame]
    dsimp only
    by_cases same : other = place
    · subst same
      rw [entered, Pte.redirect_isWrite] at write
      rw [anon, becomes, write]
      exact Bool.or_true _
    · rw [elsewhere other same] at mapped write
      rw [moving.writable other mapped write anon]
      rfl
  · rw [frame]
    simp only [Bool.or_eq_true, Bool.and_eq_true, Bool.not_eq_true']
    rintro (before | ⟨anon, readable⟩)
    · exact moving.gained before
    · rw [← becomes] at set
      refine .inr ⟨.inr ⟨?_, place, entry, _, set, readable⟩, anon⟩
      rw [← alike]
      exact anon

theorem Ready.removeMigrationPtes (ready : Ready host base start old)
    (sound : base.Sound host) (traced : base.Traced start old)
    (vacant : Vacant start new) (shared : host.rmap new = host.rmap old)
    (alike : (host.kind new).anon = (host.kind old).anon) :
    Moving host base start (host.removeMigrationPtes old new start) old new ∧
      (∀ place, (base.table place).maps = some old →
        (host.removeMigrationPtes old new start).table place =
          (base.table place).redirect (host.kind new)
            (start.frame new).dirty new) ∧
      (host.removeMigrationPtes old new start).mappings host new =
        base.mappings host old := by
  have steps := host.remaps old new start
  have emptied := host.remapped old new start
  generalize host.removeMigrationPtes old new start = after at *
  have moved : Moving host base start after old new := by
    clear emptied
    induction steps with
    | refl => exact Moving.first vacant
    | tail _ step moving =>
        obtain ⟨here⟩ := step
        exact moving.remapPte ready sound traced shared alike here
  have entries : ∀ place, (base.table place).maps = some old →
      after.table place =
        (base.table place).redirect (host.kind new)
          (start.frame new).dirty new := by
    intro place maps
    rcases moved.entries place maps with same | redirected
    · exfalso
      refine emptied place (sound.mapped place old maps) ?_
      rw [same]
      exact (ready.converted maps).moves
    · exact redirected
  refine ⟨moved, entries, ?_⟩
  unfold Kernel.mappings
  rw [shared]
  apply List.countP_congr
  intro place _
  simp only [decide_eq_true_eq]
  by_cases maps : (base.table place).maps = some old
  · rw [entries place maps, Pte.redirect_maps, maps]
    exact ⟨fun _ => rfl, fun _ => rfl⟩
  · have same : after.table place =
        start.table place := moved.rest place maps
    rw [same]
    constructor
    · intro named
      exact absurd (Pte.names_of_maps named) (vacant.unnamed place)
    · intro named
      exact absurd named maps

end Rshm.Mm
