import Rshm.Lib.Tally
import Rshm.Mm.KernelCalls

/-!
# Pages that a migration holds

A migration takes a page out of use in steps and gives it back in steps.
`Held` says what it has taken so far, in references, mappings and flags, and
`Intact` that a page is as it was.
-/

namespace Rshm.Mm

variable {host : Host} {base kernel next : Kernel} {pfn other : Pfn}

namespace Pte

/-- The page that the entry is about. -/
def names : Pte → Option Pfn
  | present pfn _ special _ => if special then Option.none else some pfn
  | devicePrivate pfn _ _ => some pfn
  | migration pfn _ _ => some pfn
  | _ => Option.none

theorem names_of_maps {pte : Pte} (maps : pte.maps = some pfn) :
    pte.names = some pfn := by
  cases pte with
  | present _ _ _ _ => exact maps
  | devicePrivate _ _ _ => exact maps
  | none | swap | migration _ _ _ => cases maps

theorem names_of_moves {pte : Pte} (moves : pte.moves = some pfn) :
    pte.names = some pfn := by
  cases pte with
  | migration _ _ _ => exact moves
  | none | swap | present _ _ _ _ | devicePrivate _ _ _ => cases moves

theorem maps_or_moves {pte : Pte} (names : pte.names = some pfn) :
    pte.maps = some pfn ∨ pte.moves = some pfn := by
  cases pte with
  | present _ _ _ _ => exact .inl names
  | devicePrivate _ _ _ => exact .inl names
  | migration _ _ _ => exact .inr names
  | none | swap => cases names

theorem not_moves_of_maps {pte : Pte} (maps : pte.maps = some pfn) :
    pte.moves = Option.none := by
  cases pte with
  | migration _ _ _ => cases maps
  | none | swap | present _ _ _ _ | devicePrivate _ _ _ => rfl

/-- An entry as the kernel sets them: device private pages are mapped by
device private entries, which have no accessed and dirty bits, and only they
are; an entry that waits for userfaultfd is not writable. -/
def Proper (kind : Pfn → PageKind) : Pte → Prop
  | present pfn write special bits =>
      special = false → (kind pfn).isDevicePrivate = false ∧
        (bits.uffdWp = true → write = false)
  | devicePrivate pfn _ bits =>
      (kind pfn).isDevicePrivate = true ∧ bits.ofSwap = bits
  | _ => True

theorem migrationEntry_isWritable (write exclusive : Bool) :
    (migrationEntry write exclusive).isWritable = write := by
  cases write <;> cases exclusive <;> rfl

/-- The bits that a migration entry keeps of a mapping. -/
def bits : Pte → PteBits
  | present _ _ _ bits => bits
  | devicePrivate _ _ bits => bits.ofSwap
  | migration _ _ bits => bits
  | none => ⟨false, false, false, false⟩
  | swap => ⟨false, false, false, false⟩

/-- The mapping of `new` that comes of a mapping when its page is migrated to
`new`. -/
def redirect (kind : PageKind) (dirty : Bool) (new : Pfn) (pte : Pte) : Pte :=
  ofMigration kind dirty new (migrationEntry pte.isWrite false) pte.bits

theorem toMigration_eq {pte : Pte} (maps : pte.maps = some pfn)
    (exclusive : Bool) :
    pte.toMigration exclusive =
      .migration pfn (migrationEntry pte.isWrite exclusive) pte.bits := by
  cases pte with
  | none | swap | migration _ _ _ => cases maps
  | present mapped write special bits =>
      cases special with
      | true => cases maps
      | false =>
          cases maps
          rfl
  | devicePrivate mapped write bits =>
      cases maps
      rfl

/-- What the entry says of an exclusive page does not show in the mapping. -/
theorem ofMigration_redirect (kind : PageKind) (dirty : Bool) (new : Pfn)
    (pte : Pte) (exclusive : Bool) :
    ofMigration kind dirty new (migrationEntry pte.isWrite exclusive)
      pte.bits = pte.redirect kind dirty new := by
  unfold redirect ofMigration
  rw [migrationEntry_isWritable, migrationEntry_isWritable]

theorem redirect_self {kind : Pfn → PageKind} {pte : Pte}
    (proper : pte.Proper kind) (maps : pte.maps = some pfn) {dirty : Bool}
    (set : pte.isDirty = true → dirty = true) :
    pte.redirect (kind pfn) dirty pfn = pte := by
  cases pte with
  | none | swap | migration _ _ _ => cases maps
  | present mapped write special bits =>
      cases special with
      | true => cases maps
      | false =>
          cases maps
          obtain ⟨zone, waits⟩ := proper rfl
          have kept : (bits.dirty && dirty) = bits.dirty := by
            cases marked : bits.dirty with
            | false => rfl
            | true => rw [set marked]; rfl
          have waiting : (bits.uffdWp && !write) = bits.uffdWp := by
            cases waits' : bits.uffdWp with
            | false => rfl
            | true => rw [waits waits']; rfl
          simp only [redirect, Pte.bits, ofMigration, isWrite,
            migrationEntry_isWritable, zone, kept, waiting]
          rfl
  | devicePrivate mapped write bits =>
      cases maps
      obtain ⟨zone, swap⟩ := proper
      simp only [redirect, Pte.bits, ofMigration, isWrite,
        migrationEntry_isWritable, zone, swap]
      rfl

end Pte

namespace Kernel

def mappings (kernel : Kernel) (host : Host) (pfn : Pfn) : Nat :=
  (host.rmap pfn).countP fun place =>
    decide ((kernel.table place).maps = some pfn)

/-- The migration entries of a page. -/
def unmapped (kernel : Kernel) (host : Host) (pfn : Pfn) : Nat :=
  (host.rmap pfn).countP fun place =>
    decide ((kernel.table place).moves = some pfn)

/-- The reverse map knows every mapping, pages count their mappings, and only
locked pages are being migrated. -/
structure Sound (host : Host) (kernel : Kernel) : Prop where
  nodup : ∀ pfn, (host.rmap pfn).Nodup
  mapped : ∀ place pfn, (kernel.table place).maps = some pfn →
    place ∈ host.rmap pfn
  moving : ∀ place pfn, (kernel.table place).moves = some pfn →
    (kernel.frame pfn).locked = true
  mapcount : ∀ pfn, (kernel.frame pfn).mapcount = kernel.mappings host pfn
  proper : ∀ place, (kernel.table place).Proper host.kind
  exclusive : ∀ place pfn, (kernel.table place).maps = some pfn →
    (kernel.table place).isWrite = true → (host.kind pfn).anon = true →
    (kernel.frame pfn).anonExclusive = true

/-- A change to one page: to its frame, and to entries about it. -/
structure Touches (pfn : Pfn) (kernel next : Kernel) : Prop where
  frames : ∀ other, other ≠ pfn → next.frame other = kernel.frame other
  table : ∀ place, next.table place = kernel.table place ∨
    (kernel.table place).names = some pfn ∧
      (next.table place).names = some pfn

theorem Touches.setFrame (kernel : Kernel) (pfn : Pfn) (frame : Frame) :
    kernel.Touches pfn (kernel.setFrame pfn frame) :=
  ⟨fun _ different => Function.update_of_ne different ..,
    fun _ => .inl rfl⟩

theorem Touches.trans {after : Kernel} (first : kernel.Touches pfn next)
    (second : next.Touches pfn after) : kernel.Touches pfn after := by
  constructor
  · intro other different
    rw [second.frames other different, first.frames other different]
  · intro place
    rcases second.table place with same | ⟨named, renamed⟩
    · rw [same]
      exact first.table place
    · rcases first.table place with same | ⟨named', -⟩
      · rw [same] at named
        exact .inr ⟨named, renamed⟩
      · exact .inr ⟨named', renamed⟩

theorem Touches.refl (kernel : Kernel) (pfn : Pfn) :
    kernel.Touches pfn kernel :=
  ⟨fun _ _ => rfl, fun _ => .inl rfl⟩

/-- The entries of the two kernels are about the same pages. -/
def SameNames (base kernel : Kernel) : Prop :=
  ∀ place, kernel.table place = base.table place ∨
    ∃ pfn, (base.table place).names = some pfn ∧
      (kernel.table place).names = some pfn

theorem SameNames.names (same : base.SameNames kernel) (place : Place) :
    (kernel.table place).names = (base.table place).names := by
  rcases same place with equal | ⟨pfn, before, after⟩
  · rw [equal]
  · rw [before, after]

theorem SameNames.touches (same : base.SameNames kernel)
    (touches : kernel.Touches pfn next) : base.SameNames next := by
  intro place
  rcases touches.table place with equal | ⟨named, renamed⟩
  · rw [equal]
    exact same place
  · refine .inr ⟨pfn, ?_, renamed⟩
    rw [← same.names place]
    exact named

/-- The entries about the page were about it before. -/
def Traced (base kernel : Kernel) (pfn : Pfn) : Prop :=
  ∀ place, (kernel.table place).names = some pfn →
    (base.table place).names = some pfn

theorem SameNames.traced (same : base.SameNames kernel) (pfn : Pfn) :
    base.Traced kernel pfn := by
  intro place named
  rw [← same.names place]
  exact named

theorem Traced.touches (traced : base.Traced kernel pfn)
    (touches : kernel.Touches pfn next) : base.Traced next pfn := by
  intro place named
  rcases touches.table place with equal | ⟨before, -⟩
  · rw [equal] at named
    exact traced place named
  · exact traced place before

end Kernel

/-- A mapping of `base` that a migration entry stands for. -/
def Converted (base kernel : Kernel) (pfn : Pfn) (place : Place) : Prop :=
  (∃ exclusive, kernel.table place =
    .migration pfn (Pte.migrationEntry (base.table place).isWrite exclusive)
      (base.table place).bits) ∧
    ((base.table place).isDirty = true → (kernel.frame pfn).dirty = true)

/-- The page is exclusive, or will be once its migration entries are gone. -/
def Exclusively (host : Host) (kernel : Kernel) (pfn : Pfn) : Prop :=
  (kernel.frame pfn).anonExclusive = true ∨
    (host.kind pfn).anon = true ∧ ∃ place entry bits,
      kernel.table place = .migration pfn entry bits ∧ entry.isReadable = false

/-- The migration has locked the page, has `refs` references to it, and some
of its mappings are migration entries. -/
structure Held (host : Host) (base kernel : Kernel) (pfn : Pfn) (refs : Int)
    (lru : Bool) : Prop where
  free : (base.frame pfn).locked = false
  locked : (kernel.frame pfn).locked = true
  lru : (kernel.frame pfn).lru = lru
  compound : (kernel.frame pfn).compound = (base.frame pfn).compound
  dirty : (base.frame pfn).dirty = true → (kernel.frame pfn).dirty = true
  count : (kernel.frame pfn).count =
    (base.frame pfn).count + refs - kernel.unmapped host pfn
  mapcount : (kernel.frame pfn).mapcount =
    (base.frame pfn).mapcount - kernel.unmapped host pfn
  exclusive : Exclusively host kernel pfn ↔
    (base.frame pfn).anonExclusive = true
  entries : ∀ place, (base.table place).maps = some pfn →
    kernel.table place = base.table place ∨ Converted base kernel pfn place

/-- The page and the entries about it are as before. -/
structure Intact (base kernel : Kernel) (pfn : Pfn) : Prop where
  frame : kernel.frame pfn =
    { base.frame pfn with dirty := (kernel.frame pfn).dirty }
  dirty : (base.frame pfn).dirty = true → (kernel.frame pfn).dirty = true
  entries : ∀ place, (base.table place).names = some pfn →
    kernel.table place = base.table place

theorem Intact.refl (kernel : Kernel) (pfn : Pfn) :
    Intact kernel kernel pfn :=
  ⟨rfl, id, fun _ _ => rfl⟩

namespace Kernel

/-- A change that leaves the page and the entries about it alone. -/
structure Spares (pfn : Pfn) (kernel next : Kernel) : Prop where
  frame : next.frame pfn = kernel.frame pfn
  same : ∀ place, (kernel.table place).names = some pfn ∨
      (next.table place).names = some pfn →
    next.table place = kernel.table place

theorem Touches.spares (touches : kernel.Touches other next)
    (different : other ≠ pfn) : kernel.Spares pfn next := by
  refine ⟨touches.frames pfn different.symm, ?_⟩
  intro place about
  rcases touches.table place with same | ⟨before, after⟩
  · exact same
  · exfalso
    rcases about with named | named
    · exact different (Option.some.inj (before.symm.trans named))
    · exact different (Option.some.inj (after.symm.trans named))

theorem Spares.unmapped (spares : kernel.Spares pfn next) :
    next.unmapped host pfn = kernel.unmapped host pfn := by
  apply List.countP_congr
  intro place _
  simp only [decide_eq_true_eq]
  constructor
  · intro moves
    rw [← spares.same place (.inr (Pte.names_of_moves moves))]
    exact moves
  · intro moves
    rw [spares.same place (.inl (Pte.names_of_moves moves))]
    exact moves

end Kernel

theorem Converted.names {place : Place}
    (converted : Converted base kernel pfn place) :
    (kernel.table place).names = some pfn := by
  obtain ⟨⟨exclusive, here⟩, -⟩ := converted
  rw [here]
  rfl

theorem Converted.moves {place : Place}
    (converted : Converted base kernel pfn place) :
    (kernel.table place).moves = some pfn := by
  obtain ⟨⟨exclusive, here⟩, -⟩ := converted
  rw [here]
  rfl

theorem Exclusively.spares (spares : kernel.Spares pfn next) :
    Exclusively host next pfn ↔ Exclusively host kernel pfn := by
  unfold Exclusively
  rw [spares.frame]
  apply or_congr Iff.rfl
  apply and_congr Iff.rfl
  constructor
  · rintro ⟨place, entry, bits, here, kind⟩
    refine ⟨place, entry, bits, ?_, kind⟩
    rw [← spares.same place (.inr (by rw [here]; rfl))]
    exact here
  · rintro ⟨place, entry, bits, here, kind⟩
    refine ⟨place, entry, bits, ?_, kind⟩
    rw [spares.same place (.inl (by rw [here]; rfl))]
    exact here

theorem Held.spares {refs : Int} {lru : Bool}
    (held : Held host base kernel pfn refs lru)
    (spares : kernel.Spares pfn next) : Held host base next pfn refs lru := by
  have frame := spares.frame
  have unmapped : next.unmapped host pfn = kernel.unmapped host pfn :=
    spares.unmapped
  constructor
  · exact held.free
  · rw [frame]
    exact held.locked
  · rw [frame]
    exact held.lru
  · rw [frame]
    exact held.compound
  · rw [frame]
    exact held.dirty
  · rw [frame, unmapped]
    exact held.count
  · rw [frame, unmapped]
    exact held.mapcount
  · exact (Exclusively.spares spares).trans held.exclusive
  · intro place maps
    rcases held.entries place maps with same | converted
    · have named : (kernel.table place).names = some pfn := by
        rw [same]
        exact Pte.names_of_maps maps
      exact .inl ((spares.same place (.inl named)).trans same)
    · have kept := spares.same place (.inl converted.names)
      unfold Converted
      rw [kept, frame]
      exact .inr converted

theorem Held.touches {refs : Int} {lru : Bool}
    (held : Held host base kernel pfn refs lru)
    (touches : kernel.Touches other next) (different : other ≠ pfn) :
    Held host base next pfn refs lru :=
  held.spares (touches.spares different)

theorem Intact.spares (intact : Intact base kernel pfn)
    (spares : kernel.Spares pfn next) : Intact base next pfn := by
  have frame := spares.frame
  refine ⟨?_, ?_, ?_⟩
  · rw [frame]
    exact intact.frame
  · rw [frame]
    exact intact.dirty
  · intro place named
    have same := intact.entries place named
    have here : (kernel.table place).names = some pfn := by
      rw [same]
      exact named
    exact (spares.same place (.inl here)).trans same

theorem Intact.touches (intact : Intact base kernel pfn)
    (touches : kernel.Touches other next) (different : other ≠ pfn) :
    Intact base next pfn :=
  intact.spares (touches.spares different)

theorem Held.setFrame {refs more : Int} {lru lru' : Bool}
    (held : Held host base kernel pfn refs lru) {frame : Frame}
    (locked : frame.locked = (kernel.frame pfn).locked)
    (on : frame.lru = lru')
    (compound : frame.compound = (kernel.frame pfn).compound)
    (dirty : frame.dirty = (kernel.frame pfn).dirty)
    (count : frame.count = (kernel.frame pfn).count + more)
    (mapcount : frame.mapcount = (kernel.frame pfn).mapcount)
    (exclusive : frame.anonExclusive = (kernel.frame pfn).anonExclusive) :
    Held host base (kernel.setFrame pfn frame) pfn (refs + more) lru' := by
  have here : (kernel.setFrame pfn frame).frame pfn = frame :=
    Function.update_self ..
  have unmapped : (kernel.setFrame pfn frame).unmapped host pfn =
      kernel.unmapped host pfn := rfl
  constructor
  · exact held.free
  · rw [here, locked]
    exact held.locked
  · rw [here, on]
  · rw [here, compound]
    exact held.compound
  · rw [here, dirty]
    exact held.dirty
  · rw [here, unmapped, count, held.count]
    omega
  · rw [here, unmapped, mapcount]
    exact held.mapcount
  · rw [← held.exclusive]
    unfold Exclusively
    rw [here, exclusive]
    rfl
  · intro place maps
    rcases held.entries place maps with same | converted
    · exact .inl same
    · unfold Converted
      rw [here, dirty]
      exact .inr converted

theorem Held.getPage {refs : Int} {lru : Bool}
    (held : Held host base kernel pfn refs lru) :
    Held host base (kernel.getPage pfn) pfn (refs + 1) lru :=
  held.setFrame rfl held.lru rfl rfl rfl rfl rfl

theorem Held.putPage {refs : Int} {lru : Bool}
    (held : Held host base kernel pfn refs lru) :
    Held host base (kernel.putPage pfn) pfn (refs - 1) lru :=
  held.setFrame rfl held.lru rfl rfl rfl rfl rfl

theorem Held.offLru {refs : Int} {lru : Bool}
    (held : Held host base kernel pfn refs lru) :
    Held host base (kernel.offLru pfn) pfn (refs + 1) false :=
  held.setFrame rfl rfl rfl rfl rfl rfl rfl

theorem Held.ontoLru {refs : Int} {lru : Bool}
    (held : Held host base kernel pfn refs lru) :
    Held host base (kernel.ontoLru pfn) pfn (refs - 1) true :=
  held.setFrame rfl rfl rfl rfl rfl rfl rfl

/-- `migrate_vma_collect_pmd` gets a page and locks it. -/
theorem Intact.lockPage (intact : Intact base kernel pfn)
    (sound : base.Sound host) (names : base.SameNames kernel)
    (free : (base.frame pfn).locked = false) :
    Held host base ((kernel.getPage pfn).lockPage pfn) pfn 1
      (base.frame pfn).lru := by
  have unmoved : ∀ place, (kernel.table place).moves ≠ some pfn := by
    intro place moves
    have named : (base.table place).names = some pfn := by
      rw [← names.names place]
      exact Pte.names_of_moves moves
    rw [intact.entries place named] at moves
    rw [sound.moving place pfn moves] at free
    cases free
  have none_ : kernel.unmapped host pfn = 0 := by
    rw [Kernel.unmapped, List.countP_eq_zero]
    intro place _
    simpa using unmoved place
  have here : ((kernel.getPage pfn).lockPage pfn).frame pfn =
      { base.frame pfn with
        dirty := (kernel.frame pfn).dirty
        count := (base.frame pfn).count + 1
        locked := true } := by
    simp only [Kernel.lockPage, Kernel.getPage, Kernel.setFrame,
      Function.update_self]
    rw [intact.frame]
  have unmapped : ((kernel.getPage pfn).lockPage pfn).unmapped host pfn = 0 :=
    none_
  constructor
  · exact free
  · rw [here]
  · rw [here]
  · rw [here]
  · rw [here]
    exact intact.dirty
  · rw [here, unmapped]
    simp
  · rw [here, unmapped]
    simp
  · unfold Exclusively
    rw [here]
    constructor
    · rintro (exclusive | ⟨-, place, entry, bits, entered, -⟩)
      · exact exclusive
      · exact absurd (by
          have same : kernel.table place = .migration pfn entry bits := entered
          rw [same]
          rfl) (unmoved place)
    · exact .inl
  · intro place maps
    exact .inl (intact.entries place (Pte.names_of_maps maps))

theorem Held.base_maps {refs : Int} {lru : Bool}
    (held : Held host base kernel pfn refs lru) (sound : base.Sound host)
    {place : Place} (named : (base.table place).names = some pfn) :
    (base.table place).maps = some pfn := by
  rcases Pte.maps_or_moves named with maps | moves
  · exact maps
  · have locked := sound.moving place pfn moves
    rw [held.free] at locked
    cases locked

theorem Held.mapped {refs : Int} {lru : Bool}
    (held : Held host base kernel pfn refs lru) (sound : base.Sound host)
    (traced : base.Traced kernel pfn) {place : Place}
    (maps : (kernel.table place).maps = some pfn) :
    kernel.table place = base.table place := by
  have named := traced place (Pte.names_of_maps maps)
  rcases held.entries place (held.base_maps sound named) with
    same | converted
  · exact same
  · have moves := converted.moves
    rw [Pte.not_moves_of_maps maps] at moves
    cases moves

theorem Held.converted {refs : Int} {lru : Bool}
    (held : Held host base kernel pfn refs lru) (sound : base.Sound host)
    (traced : base.Traced kernel pfn) {place : Place}
    (moves : (kernel.table place).moves = some pfn) :
    (base.table place).maps = some pfn ∧
      Converted base kernel pfn place := by
  have named := traced place (Pte.names_of_moves moves)
  have maps := held.base_maps sound named
  refine ⟨maps, ?_⟩
  rcases held.entries place maps with same | converted
  · rw [same, Pte.not_moves_of_maps maps] at moves
    cases moves
  · exact converted

namespace Kernel

theorem unmapPte_here {setting : Setting} {place : Place} :
    (kernel.unmapPte setting pfn place).table place =
      (kernel.table place).toMigration (kernel.exclusive setting pfn) :=
  Function.update_self ..

theorem unmapPte_apart {setting : Setting} {place visited : Place}
    (different : place ≠ visited) :
    (kernel.unmapPte setting pfn visited).table place = kernel.table place :=
  Function.update_of_ne different ..

theorem unmapPte_frame (kernel : Kernel) (setting : Setting) (pfn : Pfn)
    (place : Place) :
    (kernel.unmapPte setting pfn place).frame pfn =
      { kernel.frame pfn with
        count := (kernel.frame pfn).count - 1
        mapcount := (kernel.frame pfn).mapcount - 1
        dirty := (kernel.frame pfn).dirty || (kernel.table place).isDirty
        anonExclusive := (kernel.frame pfn).anonExclusive &&
          !kernel.exclusive setting pfn } :=
  Function.update_self ..

theorem unmapPte_maps {setting : Setting} {place visited : Place}
    (here : (kernel.table visited).maps = some pfn)
    (maps : ((kernel.unmapPte setting pfn visited).table place).maps =
      some pfn) :
    (kernel.table place).maps = some pfn ∧ place ≠ visited := by
  by_cases same : place = visited
  · subst same
    rw [unmapPte_here] at maps
    cases entry : kernel.table place with
    | none | swap | migration _ _ _ =>
        rw [entry] at here
        cases here
    | present _ _ _ _ | devicePrivate _ _ _ =>
        rw [entry] at maps
        cases maps
  · rw [unmapPte_apart same] at maps
    exact ⟨maps, same⟩

theorem Touches.unmapPte {place : Place}
    (maps : (kernel.table place).maps = some pfn) :
    kernel.Touches pfn (kernel.unmapPte host pfn place) := by
  refine ⟨fun _ different => Function.update_of_ne different .., ?_⟩
  intro other
  by_cases here : other = place
  · subst here
    refine .inr ⟨Pte.names_of_maps maps, ?_⟩
    rw [unmapPte_here]
    cases entry : kernel.table other with
    | present mapped write special bits =>
        rw [entry] at maps
        cases special with
        | true => cases maps
        | false => cases maps; rfl
    | devicePrivate mapped write bits =>
        rw [entry] at maps
        cases maps
        rfl
    | none | swap | migration _ _ _ => rw [entry] at maps; cases maps
  · exact .inl (Function.update_of_ne here ..)

end Kernel

theorem Exclusively.unmapPte {place : Place}
    (maps : (kernel.table place).maps = some pfn) {bits : PteBits}
    (becomes : (kernel.table place).toMigration (kernel.exclusive host pfn) =
      .migration pfn (Pte.migrationEntry (kernel.table place).isWrite
        (kernel.exclusive host pfn)) bits)
    (writable : (kernel.table place).isWrite = true →
      (host.kind pfn).anon = true → Exclusively host kernel pfn) :
    Exclusively host (kernel.unmapPte host pfn place) pfn ↔
      Exclusively host kernel pfn := by
  have entered : (kernel.unmapPte host pfn place).table place =
      .migration pfn (Pte.migrationEntry (kernel.table place).isWrite
        (kernel.exclusive host pfn)) bits := by
    rw [Kernel.unmapPte_here, becomes]
  have elsewhere (other : Place) (different : other ≠ place) :
      (kernel.unmapPte host pfn place).table other = kernel.table other :=
    Kernel.unmapPte_apart different
  constructor
  · rintro (exclusive | ⟨anon, other, entry, bits', here, kind⟩)
    · rw [Kernel.unmapPte_frame, Bool.and_eq_true] at exclusive
      exact .inl exclusive.1
    · by_cases same : other = place
      · subst same
        rw [entered] at here
        cases here
        cases write : (kernel.table other).isWrite with
        | true => exact writable write anon
        | false =>
            cases owned : kernel.exclusive host pfn with
            | true =>
                rw [Kernel.exclusive, Bool.and_eq_true] at owned
                exact .inl owned.2
            | false =>
                rw [write, owned] at kind
                cases kind
      · rw [elsewhere other same] at here
        exact .inr ⟨anon, other, entry, bits', here, kind⟩
  · rintro (exclusive | ⟨anon, other, entry, bits', here, kind⟩)
    · cases anon : (host.kind pfn).anon with
      | true =>
          refine .inr ⟨anon, place, _, bits, entered, ?_⟩
          have owned : kernel.exclusive host pfn = true := by
            rw [Kernel.exclusive, anon, exclusive]
            rfl
          rw [owned]
          cases (kernel.table place).isWrite <;> rfl
      | false =>
          left
          rw [Kernel.unmapPte_frame, Kernel.exclusive, anon, exclusive]
          rfl
    · have different : other ≠ place := by
        rintro rfl
        rw [here] at maps
        cases maps
      rw [← elsewhere other different] at here
      exact .inr ⟨anon, other, entry, bits', here, kind⟩

theorem Held.unmapPte {refs : Int} {lru : Bool}
    (held : Held host base kernel pfn refs lru) (sound : base.Sound host)
    (names : base.SameNames kernel) {place : Place}
    (maps : (kernel.table place).maps = some pfn) :
    Held host base (kernel.unmapPte host pfn place) pfn refs lru := by
  have same := held.mapped sound (names.traced pfn) maps
  have becomes := Pte.toMigration_eq maps (kernel.exclusive host pfn)
  have entered : (kernel.unmapPte host pfn place).table place =
      .migration pfn (Pte.migrationEntry (kernel.table place).isWrite
        (kernel.exclusive host pfn)) (kernel.table place).bits := by
    rw [Kernel.unmapPte_here, becomes]
  have elsewhere (other : Place) (different : other ≠ place) :
      (kernel.unmapPte host pfn place).table other = kernel.table other :=
    Kernel.unmapPte_apart different
  have frame := kernel.unmapPte_frame host pfn place
  have one : (kernel.unmapPte host pfn place).unmapped host pfn =
      kernel.unmapped host pfn + 1 := by
    have known : place ∈ host.rmap pfn := by
      apply sound.mapped place pfn
      rw [← same]
      exact maps
    refine Tally.countP_flip (sound.nodup pfn) known ?_ ?_ ?_
    · simp [Pte.not_moves_of_maps maps]
    · simp [entered, Pte.moves]
    · intro other different
      simp only [elsewhere other different]
  constructor
  · exact held.free
  · rw [frame]
    exact held.locked
  · rw [frame]
    exact held.lru
  · rw [frame]
    exact held.compound
  · intro dirty
    rw [frame, held.dirty dirty]
    rfl
  · rw [frame, one, held.count]
    push_cast
    omega
  · rw [frame, one, held.mapcount]
    push_cast
    omega
  · refine (Exclusively.unmapPte maps becomes ?_).trans held.exclusive
    intro write anon
    rw [same] at maps write
    exact held.exclusive.mpr (sound.exclusive place pfn maps write anon)
  · intro other mapped
    by_cases here : other = place
    · subst here
      rw [same] at entered
      refine .inr ⟨⟨_, entered⟩, ?_⟩
      intro set
      rw [frame, same, set]
      exact Bool.or_true _
    · rcases held.entries other mapped with kept | converted
      · exact .inl ((elsewhere other here).trans kept)
      · obtain ⟨⟨exclusive, there⟩, set⟩ := converted
        refine .inr ⟨⟨exclusive, ?_⟩, ?_⟩
        · rw [elsewhere other here, there]
        · intro marked
          rw [frame, set marked]
          rfl

end Rshm.Mm
