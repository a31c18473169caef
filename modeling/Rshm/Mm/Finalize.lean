import Rshm.Mm.PageMoved

/-!
# Finalizing a migration

`migrate_device_finalize` on the arrays of a migration: a page that has been
migrated gives its mappings to its destination, every other page gets them
back, and all pages are unlocked and let go.
-/

namespace Rshm.Mm

open RangeLoop

/-- `unlock_page` and `put_page` on a destination that is not used. -/
def releasePage (pfn : Pfn) (kernel : Kernel) : Kernel :=
  (kernel.unlockPage pfn).putPage pfn

/-- `put_page` on a device page, `putback_lru_page` on any other. -/
def letGo (host : Host) (pfn : Pfn) (kernel : Kernel) : Kernel :=
  if (host.kind pfn).isZoneDevice then kernel.putPage pfn
  else host.putbackLruPage pfn kernel

/-- The end of a pass of the loop, for the page that takes the mappings. -/
def finalizePage (host : Host) (page newpage : Pfn) (kernel : Kernel) :
    Kernel :=
  let kernel := (host.removeMigrationPtes page newpage kernel).unlockPage page
  let kernel := letGo host page kernel
  if newpage = page then kernel
  else letGo host newpage (kernel.unlockPage newpage)

/-- The body of the loop of `migrate_device_finalize`. -/
def finalizeOne (host : Host) (src dst : Nat → UInt64) (i : Nat)
    (kernel : Kernel) : Kernel :=
  match pageOf (src i), pageOf (dst i) with
  | none, none => kernel
  | none, some newpage => releasePage newpage kernel
  | some page, none => finalizePage host page page kernel
  | some page, some newpage =>
      if migrating (src i) then finalizePage host page newpage kernel
      else finalizePage host page page (releasePage newpage kernel)

def migrateDeviceFinalize (host : Host) (src dst : Nat → UInt64)
    (npages : Nat) (kernel : Kernel) : Kernel :=
  forEach (finalizeOne host src dst) npages 0 kernel

variable {host : Host} {base start kernel next : Kernel}
  {old new pfn other : Pfn} {src dst : Nat → UInt64} {npages : Nat}

theorem releasePage_frame (kernel : Kernel) (pfn : Pfn) :
    (releasePage pfn kernel).frame pfn =
      { kernel.frame pfn with
        locked := false
        count := (kernel.frame pfn).count - 1 } := by
  simp [releasePage, Kernel.putPage, Kernel.unlockPage, Kernel.setFrame]

theorem Kernel.Touches.releasePage :
    kernel.Touches pfn (releasePage pfn kernel) :=
  (Kernel.Touches.setFrame _ pfn _).trans (.setFrame _ pfn _)

theorem letGo_unlockPage (kernel : Kernel) (pfn : Pfn) :
    letGo host pfn (kernel.unlockPage pfn) =
      kernel.setFrame pfn
        { kernel.frame pfn with
          locked := false
          count := (kernel.frame pfn).count - 1
          lru := !(host.kind pfn).isZoneDevice || (kernel.frame pfn).lru } := by
  unfold letGo
  cases zone : (host.kind pfn).isZoneDevice with
  | true => simp [Kernel.putPage, Kernel.unlockPage, Kernel.setFrame]
  | false =>
      rw [if_neg Bool.false_ne_true, host.putsBack]
      simp [Kernel.ontoLru, Kernel.unlockPage, Kernel.setFrame]

theorem Kernel.Touches.finalizePage :
    kernel.Touches pfn (finalizePage host pfn pfn kernel) := by
  unfold Rshm.Mm.finalizePage
  dsimp only
  rw [if_pos rfl, letGo_unlockPage]
  have steps := host.remaps pfn pfn kernel
  exact (Kernel.Touches.remaps steps).trans (.setFrame _ pfn _)

theorem Ready.finalizePage (ready : Ready host base kernel pfn)
    (sound : base.Sound host) (traced : base.Traced kernel pfn) :
    Intact base (finalizePage host pfn pfn kernel) pfn := by
  obtain ⟨mapped, unmoved⟩ := ready.held.removeMigrationPtes sound traced
  unfold Rshm.Mm.finalizePage
  dsimp only
  rw [if_pos rfl, letGo_unlockPage]
  refine mapped.intact sound unmoved rfl rfl rfl ?_ rfl rfl rfl
  rw [mapped.lru]
  cases zone : (host.kind pfn).isZoneDevice with
  | true => rfl
  | false =>
      rw [ready.listed zone]
      rfl

/-- The mappings of `old` in `base` are mappings of `new`; both are unlocked
and let go. -/
structure Moved (host : Host) (base start kernel : Kernel) (old new : Pfn) :
    Prop where
  table : ∀ place, (base.table place).maps = some old →
    kernel.table place = (base.table place).redirect (host.kind new)
      (start.frame new).dirty new
  unnamed : ∀ place, (kernel.table place).names ≠ some old
  traced : ∀ place, (kernel.table place).names = some new →
    (base.table place).maps = some old
  oldLocked : (kernel.frame old).locked = false
  oldLru : (kernel.frame old).lru = (base.frame old).lru
  oldCount : (kernel.frame old).count =
    (base.frame old).count - base.mappings host old
  oldMapcount : (kernel.frame old).mapcount = 0
  newLocked : (kernel.frame new).locked = false
  newLru : (kernel.frame new).lru =
    (!(host.kind new).isZoneDevice || (start.frame new).lru)
  newCount : (kernel.frame new).count =
    (start.frame new).count - 1 + base.mappings host old
  newMapcount : (kernel.frame new).mapcount = base.mappings host old
  writable : ∀ place, (kernel.table place).maps = some new →
    (kernel.table place).isWrite = true → (host.kind new).anon = true →
    (kernel.frame new).anonExclusive = true
  gained : (kernel.frame new).anonExclusive = true →
    (start.frame new).anonExclusive = true ∨
      (base.frame old).anonExclusive = true

theorem finalizePage_moved (different : new ≠ old) :
    finalizePage host old new kernel =
      ((host.removeMigrationPtes old new kernel).setFrame old
        { (host.removeMigrationPtes old new kernel).frame old with
          locked := false
          count :=
            ((host.removeMigrationPtes old new kernel).frame old).count - 1
          lru := !(host.kind old).isZoneDevice ||
            ((host.removeMigrationPtes old new kernel).frame old).lru
          }).setFrame new
        { (host.removeMigrationPtes old new kernel).frame new with
          locked := false
          count :=
            ((host.removeMigrationPtes old new kernel).frame new).count - 1
          lru := !(host.kind new).isZoneDevice ||
            ((host.removeMigrationPtes old new kernel).frame new).lru } := by
  unfold Rshm.Mm.finalizePage
  dsimp only
  rw [if_neg different, letGo_unlockPage, letGo_unlockPage]
  have apart (frame : Frame) :
      ((host.removeMigrationPtes old new kernel).setFrame old frame).frame
        new = (host.removeMigrationPtes old new kernel).frame new :=
    Function.update_of_ne different ..
  rw [apart]

theorem Kernel.Passes.finalizePage (different : new ≠ old) :
    kernel.Passes old new (finalizePage host old new kernel) := by
  rw [finalizePage_moved different]
  have steps := host.remaps old new kernel
  exact ((Kernel.Passes.remaps steps).trans (.setOld _ old new _)).trans
    (.setNew _ old new _)

theorem Ready.mappings (ready : Ready host base start old)
    (sound : base.Sound host) (traced : base.Traced start old) :
    start.unmapped host old = base.mappings host old := by
  apply List.countP_congr
  intro place _
  simp only [decide_eq_true_eq]
  constructor
  · intro moves
    exact (ready.held.converted sound traced moves).1
  · intro maps
    exact (ready.converted maps).moves

theorem Ready.finalizePage_moved (ready : Ready host base start old)
    (sound : base.Sound host) (traced : base.Traced start old)
    (vacant : Vacant start new) (different : new ≠ old)
    (shared : host.rmap new = host.rmap old)
    (alike : (host.kind new).anon = (host.kind old).anon) :
    Moved host base start (Rshm.Mm.finalizePage host old new start) old new := by
  obtain ⟨moving, entries, counted⟩ :=
    ready.removeMigrationPtes sound traced vacant shared alike
  have mapcount := ready.held.mapcount
  have count := ready.held.count
  rw [ready.mappings sound traced] at count mapcount
  rw [Rshm.Mm.finalizePage_moved different]
  generalize host.removeMigrationPtes old new start = after at *
  let frame : Frame :=
    { after.frame old with
      locked := false
      count := (after.frame old).count - 1
      lru := !(host.kind old).isZoneDevice || (after.frame old).lru }
  let frame' : Frame :=
    { after.frame new with
      locked := false
      count := (after.frame new).count - 1
      lru := !(host.kind new).isZoneDevice || (after.frame new).lru }
  have there : ((after.setFrame old frame).setFrame new frame').frame old =
      frame :=
    (Function.update_of_ne different.symm ..).trans (Function.update_self ..)
  have here : ((after.setFrame old frame).setFrame new frame').frame new =
      frame' := Function.update_self ..
  have before := moving.frames old different.symm
  constructor
  · exact entries
  · intro place named
    have named : (after.table place).names = some old := named
    by_cases maps : (base.table place).maps = some old
    · rw [entries place maps, Pte.names_of_maps (Pte.redirect_maps ..)] at named
      exact different (Option.some.inj named)
    · rw [moving.rest place maps] at named
      exact maps (ready.held.base_maps sound (traced place named))
  · intro place named
    have named : (after.table place).names = some new := named
    by_contra elsewhere
    rw [moving.rest place elsewhere] at named
    exact vacant.unnamed place named
  · rw [there]
  · rw [there]
    show (!(host.kind old).isZoneDevice || (after.frame old).lru) = _
    rw [before, ready.held.lru]
    cases zone : (host.kind old).isZoneDevice with
    | true => rfl
    | false =>
        rw [ready.listed zone]
        rfl
  · rw [there]
    show (after.frame old).count - 1 = _
    rw [before, count]
    omega
  · rw [there]
    show (after.frame old).mapcount = _
    rw [before, mapcount, sound.mapcount old]
    omega
  · rw [here]
  · rw [here]
    show (!(host.kind new).isZoneDevice || (after.frame new).lru) = _
    rw [moving.lru]
  · rw [here]
    show (after.frame new).count - 1 = _
    rw [moving.count, counted]
    omega
  · rw [here]
    show (after.frame new).mapcount = _
    rw [moving.mapcount, counted]
  · intro place maps write anon
    rw [here]
    exact moving.writable place maps write anon
  · rw [here]
    intro exclusive
    rcases moving.gained exclusive with before | ⟨exclusive, -⟩
    · exact .inl before
    · exact .inr (ready.held.exclusive.mp exclusive)

/-- What the caller hands over in the destination array: pages that nothing
is about, each once and none of them a source page, and for a page that
migrates one with its reverse map. -/
structure Offered (host : Host) (kernel : Kernel) (src dst : Nat → UInt64)
    (npages : Nat) : Prop where
  vacant : ∀ i new, i < npages → pageOf (dst i) = some new →
    Vacant kernel new
  distinct : ∀ i j new, i < npages → j < npages →
    pageOf (dst i) = some new → pageOf (dst j) = some new → i = j
  apart : ∀ i j new, i < npages → j < npages →
    pageOf (dst i) = some new → pageOf (src j) ≠ some new
  mapping : ∀ i old new, i < npages → pageOf (src i) = some old →
    migrating (src i) = true → pageOf (dst i) = some new →
    host.rmap new = host.rmap old ∧
      (host.kind new).anon = (host.kind old).anon

/-- A destination that is unlocked and let go, with nothing about it. -/
structure Released (start kernel : Kernel) (new : Pfn) : Prop where
  frame : kernel.frame new =
    { start.frame new with
      locked := false
      count := (start.frame new).count - 1 }
  unnamed : ∀ place, (kernel.table place).names ≠ some new

/-- What becomes of the pages of a slot. -/
def SlotFinal (host : Host) (base start kernel : Kernel)
    (src dst : UInt64) : Prop :=
  match pageOf src, pageOf dst with
  | none, none => True
  | none, some new => Released start kernel new
  | some old, none => Intact base kernel old
  | some old, some new =>
      if migrating src then Moved host base start kernel old new
      else Intact base kernel old ∧ Released start kernel new

/-- The slots up to `npages` are finalized. -/
structure Finalized (host : Host) (base start kernel : Kernel)
    (src dst : Nat → UInt64) (npages : Nat) : Prop where
  slots : ∀ i, i < npages → SlotFinal host base start kernel (src i) (dst i)
  others : ∀ pfn, (∀ i, i < npages → pageOf (src i) ≠ some pfn ∧
      pageOf (dst i) ≠ some pfn) →
    Intact base kernel pfn
  plain : ∀ place, (base.table place).names = none →
    kernel.table place = base.table place

/-- The loop before slot `k`. -/
structure Finalizing (host : Host) (base start : Kernel)
    (src dst : Nat → UInt64) (npages k : Nat) (kernel : Kernel) : Prop where
  ahead : ∀ i old, k ≤ i → i < npages → pageOf (src i) = some old →
    Ready host base kernel old ∧ base.Traced kernel old
  fresh : ∀ i new, k ≤ i → i < npages → pageOf (dst i) = some new →
    start.Spares new kernel
  behind : ∀ i, i < k → i < npages →
    SlotFinal host base start kernel (src i) (dst i)
  others : ∀ pfn, (∀ i, i < npages → pageOf (src i) ≠ some pfn ∧
      pageOf (dst i) ≠ some pfn) →
    Intact base kernel pfn
  plain : ∀ place, (base.table place).names = none →
    kernel.table place = base.table place

theorem Kernel.Spares.unnamed (spares : start.Spares new kernel)
    (unnamed : ∀ place, (start.table place).names ≠ some new) (place : Place) :
    (kernel.table place).names ≠ some new := by
  intro named
  rw [spares.same place (.inr named)] at named
  exact unnamed place named

theorem Released.spares (released : Released start kernel new)
    (spares : kernel.Spares new next) : Released start next new :=
  ⟨spares.frame.trans released.frame, spares.unnamed released.unnamed⟩

theorem Moved.spares (moved : Moved host base start kernel old new)
    (spares : kernel.Spares old next) (spares' : kernel.Spares new next) :
    Moved host base start next old new := by
  have same {place : Place} (names : (next.table place).names = some new) :
      next.table place = kernel.table place :=
    spares'.same place (.inr names)
  constructor
  · intro place maps
    rw [← moved.table place maps]
    apply spares'.same place
    left
    rw [moved.table place maps]
    exact Pte.names_of_maps (Pte.redirect_maps ..)
  · exact spares.unnamed moved.unnamed
  · intro place names
    rw [same names] at names
    exact moved.traced place names
  · rw [spares.frame]
    exact moved.oldLocked
  · rw [spares.frame]
    exact moved.oldLru
  · rw [spares.frame]
    exact moved.oldCount
  · rw [spares.frame]
    exact moved.oldMapcount
  · rw [spares'.frame]
    exact moved.newLocked
  · rw [spares'.frame]
    exact moved.newLru
  · rw [spares'.frame]
    exact moved.newCount
  · rw [spares'.frame]
    exact moved.newMapcount
  · intro place maps write
    have here := same (Pte.names_of_maps maps)
    rw [here] at maps write
    rw [spares'.frame]
    exact moved.writable place maps write
  · rw [spares'.frame]
    exact moved.gained

theorem SlotFinal.spares {word word' : UInt64}
    (final : SlotFinal host base start kernel word word')
    (spares : ∀ pfn, pageOf word = some pfn ∨ pageOf word' = some pfn →
      kernel.Spares pfn next) :
    SlotFinal host base start next word word' := by
  unfold SlotFinal at final ⊢
  cases source : pageOf word with
  | none =>
      cases destination : pageOf word' with
      | none => trivial
      | some new =>
          rw [source, destination] at final
          exact Released.spares final (spares new (.inr destination))
  | some old =>
      have old_ := spares old (.inl source)
      cases destination : pageOf word' with
      | none =>
          rw [source, destination] at final
          exact Intact.spares final old_
      | some new =>
          have new_ := spares new (.inr destination)
          rw [source, destination] at final
          dsimp only at final ⊢
          split at final
          · next moving =>
            rw [if_pos moving]
            exact final.spares old_ new_
          · next still =>
            rw [if_neg still]
            exact ⟨final.1.spares old_, final.2.spares new_⟩

theorem Ready.spares (ready : Ready host base kernel pfn)
    (spares : kernel.Spares pfn next) : Ready host base next pfn := by
  refine ⟨ready.held.spares spares, ?_, ready.listed⟩
  intro place maps
  rw [spares.same place (.inr (Pte.names_of_maps maps))] at maps
  exact ready.unmapped place maps

theorem Kernel.Traced.spares (traced : base.Traced kernel pfn)
    (spares : kernel.Spares pfn next) : base.Traced next pfn := by
  intro place named
  rw [spares.same place (.inr named)] at named
  exact traced place named

theorem Kernel.Spares.trans {between : Kernel}
    (first : kernel.Spares pfn between) (second : between.Spares pfn next) :
    kernel.Spares pfn next := by
  refine ⟨second.frame.trans first.frame, ?_⟩
  rintro place (named | named)
  · have same := first.same place (.inl named)
    refine Eq.trans (second.same place (.inl ?_)) same
    rw [same]
    exact named
  · have same := second.same place (.inr named)
    refine same.trans (first.same place (.inr ?_))
    rw [← same]
    exact named

/-- What a pass of the loop does, by what it does to the pages of its slot. -/
theorem Finalizing.pass {k : Nat}
    (finalizing : Finalizing host base start src dst npages k kernel)
    (offered : Offered host start src dst npages)
    (distinct : ∀ i j pfn, i < npages → j < npages →
      pageOf (src i) = some pfn → pageOf (src j) = some pfn → i = j)
    (inside : k < npages)
    (spares : ∀ pfn, pageOf (src k) ≠ some pfn → pageOf (dst k) ≠ some pfn →
      kernel.Spares pfn next)
    (nameless : ∀ place, (kernel.table place).names = none →
      next.table place = kernel.table place)
    (final : SlotFinal host base start next (src k) (dst k)) :
    Finalizing host base start src dst npages (k + 1) next := by
  have source {i : Nat} {pfn : Pfn} (within : i < npages) (elsewhere : i ≠ k)
      (page : pageOf (src i) = some pfn) : kernel.Spares pfn next := by
    apply spares
    · intro here
      exact elsewhere (distinct i k pfn within inside page here)
    · intro here
      exact offered.apart k i pfn inside within here page
  have destination {i : Nat} {pfn : Pfn} (within : i < npages)
      (elsewhere : i ≠ k) (page : pageOf (dst i) = some pfn) :
      kernel.Spares pfn next := by
    apply spares
    · exact offered.apart i k pfn within inside page
    · intro here
      exact elsewhere (offered.distinct i k pfn within inside page here)
  constructor
  · intro i old after within page
    obtain ⟨ready, traced⟩ := finalizing.ahead i old (by omega) within page
    have spares := source within (by omega) page
    exact ⟨ready.spares spares, traced.spares spares⟩
  · intro i new after within page
    exact (finalizing.fresh i new (by omega) within page).trans
      (destination within (by omega) page)
  · intro i before within
    by_cases now : i = k
    · subst now
      exact final
    · apply (finalizing.behind i (by omega) within).spares
      rintro pfn (page | page)
      · exact source within now page
      · exact destination within now page
  · intro pfn absent
    obtain ⟨apart, apart'⟩ := absent k inside
    exact (finalizing.others pfn absent).spares (spares pfn apart apart')
  · intro place none_
    have same := finalizing.plain place none_
    rw [nameless place (by rw [same]; exact none_), same]

theorem Finalizing.finalizeOne {k : Nat}
    (finalizing : Finalizing host base start src dst npages k kernel)
    (sound : base.Sound host) (offered : Offered host start src dst npages)
    (distinct : ∀ i j pfn, i < npages → j < npages →
      pageOf (src i) = some pfn → pageOf (src j) = some pfn → i = j)
    (inside : k < npages) :
    Finalizing host base start src dst npages (k + 1)
      (finalizeOne host src dst k kernel) := by
  unfold Rshm.Mm.finalizeOne
  have touched {pfn : Pfn} {next : Kernel} (touches : kernel.Touches pfn next)
      (place : Place) (nameless : (kernel.table place).names = none) :
      next.table place = kernel.table place :=
    (touches.passes pfn).nameless nameless
  cases source : pageOf (src k) with
  | none =>
      cases destination : pageOf (dst k) with
      | none =>
          refine finalizing.pass offered distinct inside ?_ ?_ ?_
          · intro _ _ _
            exact ⟨rfl, fun _ _ => rfl⟩
          · intro _ _
            rfl
          · rw [SlotFinal, source, destination]
            trivial
      | some new =>
          have fresh :=
            finalizing.fresh k new (Nat.le_refl k) inside destination
          have vacant := offered.vacant k new inside destination
          have touches : kernel.Touches new (releasePage new kernel) :=
            .releasePage
          refine finalizing.pass offered distinct inside ?_ (touched touches) ?_
          · intro pfn _ apart
            apply touches.spares
            rintro rfl
            exact apart destination
          · rw [SlotFinal, source, destination]
            refine ⟨?_, fresh.unnamed vacant.unnamed⟩
            rw [releasePage_frame, fresh.frame]
  | some old =>
      obtain ⟨ready, traced⟩ :=
        finalizing.ahead k old (Nat.le_refl k) inside source
      cases destination : pageOf (dst k) with
      | none =>
          have touches : kernel.Touches old
              (finalizePage host old old kernel) := .finalizePage
          refine finalizing.pass offered distinct inside ?_ (touched touches) ?_
          · intro pfn apart _
            apply touches.spares
            rintro rfl
            exact apart source
          · rw [SlotFinal, source, destination]
            exact ready.finalizePage sound traced
      | some new =>
          have fresh :=
            finalizing.fresh k new (Nat.le_refl k) inside destination
          have vacant := offered.vacant k new inside destination
          have different : new ≠ old := by
            rintro rfl
            exact offered.apart k k new inside inside destination source
          dsimp only
          split
          · next moving =>
            obtain ⟨shared, alike⟩ :=
              offered.mapping k old new inside source moving destination
            have passes : kernel.Passes old new
                (finalizePage host old new kernel) := .finalizePage different
            have vacant' : Vacant kernel new := by
              refine ⟨fresh.unnamed vacant.unnamed, ?_⟩
              rw [fresh.frame]
              exact vacant.mapcount
            have moved := ready.finalizePage_moved sound traced vacant'
              different shared alike
            refine finalizing.pass offered distinct inside ?_ ?_ ?_
            · intro pfn apart apart'
              apply passes.spares
              · rintro rfl
                exact apart source
              · rintro rfl
                exact apart' destination
            · intro place nameless
              exact passes.nameless nameless
            · rw [SlotFinal, source, destination]
              dsimp only
              rw [if_pos moving]
              have frame := fresh.frame
              constructor
              · rw [← frame]
                exact moved.table
              · exact moved.unnamed
              · exact moved.traced
              · exact moved.oldLocked
              · exact moved.oldLru
              · exact moved.oldCount
              · exact moved.oldMapcount
              · exact moved.newLocked
              · rw [← frame]
                exact moved.newLru
              · rw [← frame]
                exact moved.newCount
              · exact moved.newMapcount
              · exact moved.writable
              · rw [← frame]
                exact moved.gained
          · next still =>
            have touches : kernel.Touches new (releasePage new kernel) :=
              .releasePage
            have spared := touches.spares different
            have touches' : (releasePage new kernel).Touches old
                (finalizePage host old old (releasePage new kernel)) :=
              .finalizePage
            refine finalizing.pass offered distinct inside ?_ ?_ ?_
            · intro pfn apart apart'
              apply (touches.spares _).trans (touches'.spares _)
              · rintro rfl
                exact apart' destination
              · rintro rfl
                exact apart source
            · intro place nameless
              have table : (releasePage new kernel).table = kernel.table := rfl
              refine Eq.trans ((touches'.passes old).nameless ?_) ?_
              · rw [table]
                exact nameless
              · rw [table]
            · rw [SlotFinal, source, destination]
              dsimp only
              rw [if_neg still]
              refine ⟨(ready.spares spared).finalizePage sound
                (traced.spares spared), ?_⟩
              have kept := touches'.spares different.symm
              refine Released.spares ⟨?_, ?_⟩ kept
              · rw [releasePage_frame, fresh.frame]
              · exact fresh.unnamed vacant.unnamed

/-- `migrate_device_finalize` on pages that are set up: whatever part of them
the caller has given destinations, and whichever of these have migrated. -/
theorem migrateDeviceFinalize_finalized {collected : Nat → UInt64}
    (sound : base.Sound host)
    (setUp : SetUp host base start collected npages)
    (pages : ∀ i, i < npages → pageOf (src i) = pageOf (collected i))
    (offered : Offered host start src dst npages) :
    Finalized host base start
      (migrateDeviceFinalize host src dst npages start) src dst npages := by
  have distinct : ∀ i j pfn, i < npages → j < npages →
      pageOf (src i) = some pfn → pageOf (src j) = some pfn → i = j := by
    intro i j pfn within within' page page'
    rw [pages i within] at page
    rw [pages j within'] at page'
    exact setUp.distinct i j pfn within within' page page'
  have first : Finalizing host base start src dst npages 0 start := by
    constructor
    · intro i old _ within page
      rw [pages i within] at page
      exact ⟨(setUp.ready i old within page).2, setUp.names.traced old⟩
    · intro _ _ _ _ _
      exact ⟨rfl, fun _ _ => rfl⟩
    · intro i before
      exact absurd before (Nat.not_lt_zero i)
    · intro pfn absent
      apply setUp.intact
      intro i within page
      apply (absent i within).1
      rw [pages i within]
      exact page
    · intro place nameless
      rcases setUp.names place with same | ⟨pfn, named, -⟩
      · exact same
      · rw [nameless] at named
        cases named
  have last := forEach_induction
    (Finalizing host base start src dst npages)
    (finalizeOne host src dst) npages 0 start first (by
      intro k kernel _ inside finalizing
      exact finalizing.finalizeOne sound offered distinct (by omega))
  rw [Nat.zero_add] at last
  exact ⟨fun i within => last.behind i within within, last.others, last.plain⟩

end Rshm.Mm
