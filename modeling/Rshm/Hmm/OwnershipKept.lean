import Rshm.Hmm.Ownership

/-!
# Ownership across the steps of the driver

Each call of a migration passes the pages it works on from one holder to the
next, and every step of the machine keeps `Owned`.
-/

namespace Rshm.Hmm

open RangeLoop

variable {Contents : Type}

namespace Owned

variable {inUse : Finset Page} {zoneDeviceData : Page → ZoneDeviceData}
  {cpu : Nat → Nat → Pte} {migrations : Nat → Option Migration}

theorem update_cases {migrations : Nat → Option Migration}
    {id other : Nat} {migration found : Migration}
    (there : Function.update migrations id (some migration) other =
      some found) :
    other = id ∧ found = migration ∨
      other ≠ id ∧ migrations other = some found := by
  by_cases same : other = id
  · subst same
    rw [Function.update_self, Option.some.injEq] at there
    exact .inl ⟨rfl, there.symm⟩
  · rw [Function.update_of_ne same] at there
    exact .inr ⟨same, there⟩

theorem setup (owned : Owned inUse zoneDeviceData cpu migrations)
    {id : Nat} (unused : migrations id = none) {migration : Migration}
    (stage : migration.stage = .setup) (collected : Nat → Bool)
    (slots : migration.slots = (migrateVmaSetup migration.flags
      migration.pgmapOwner collected migration.npages migration.first
      (cpu migration.mm)).2)
    (alone : migration.flags = .selectDevicePrivate →
      ∀ other, migrations other = none) :
    Owned inUse zoneDeviceData
      (Function.update cpu migration.mm
        (migrateVmaSetup migration.flags migration.pgmapOwner collected
          migration.npages migration.first (cpu migration.mm)).1)
      (Function.update migrations id (some migration)) := by
  have cell := migrateVmaSetup_cell migration.flags migration.pgmapOwner
    collected migration.npages migration.first (cpu migration.mm)
  simp only [← slots] at cell
  generalize (migrateVmaSetup migration.flags migration.pgmapOwner collected
    migration.npages migration.first (cpu migration.mm)).1 = after at cell ⊢
  have uninserted (pfn : Nat) : migration.inserted pfn = false := by
    simp [Migration.inserted, stage]
  -- An address is collected, or its entry stays as it is.
  have cases_ (pfn : Nat) :
      (∃ page writable, page ≠ .zero ∧
        cpu migration.mm pfn = .present page writable ∧
        (page.isDevicePrivatePage = true →
          migration.flags = .selectDevicePrivate) ∧
        after pfn = .migration page writable ∧
        (migration.slots pfn).src.page = some page) ∨
      after pfn = cpu migration.mm pfn ∧
        (migration.slots pfn).src.page = none := by
    have here := cell pfn
    split at here
    · unfold setupCell at here
      dsimp only at here
      split at here
      · next page locked =>
        cases chosen : collected pfn with
        | false =>
            rw [chosen] at locked
            cases locked
        | true =>
            rw [chosen] at locked here
            simp only [if_true] at locked here
            obtain ⟨nonzero, entry, kind⟩ := migrateVmaCollect_source locked
            simp only [Prod.mk.injEq] at here
            refine .inl ⟨page, _, nonzero, entry, kind, here.1, ?_⟩
            rw [here.2]
            exact locked
      · next unlocked =>
        simp only [Prod.mk.injEq] at here
        refine .inr ⟨here.1, ?_⟩
        rw [here.2]
        exact unlocked
    · simp only [Prod.mk.injEq] at here
      refine .inr ⟨here.1, ?_⟩
      rw [here.2]
      rfl
  have noTarget (pfn : Nat) : (migration.slots pfn).dst.page = none := by
    have here := cell pfn
    split at here
    · rw [(Prod.mk.inj here).2]
      rfl
    · rw [(Prod.mk.inj here).2]
      rfl
  have process (mm : Nat) :
      Function.update cpu migration.mm after mm =
        if mm = migration.mm then after else cpu mm := by
    by_cases same : mm = migration.mm
    · subst same
      simp
    · simp [same]
  -- Entries of pages that another migration or the process needs stay.
  have kept {mm pfn : Nat} {pte : Pte} (entry : cpu mm pfn = pte)
      (uncollected : ∀ page writable, pte = .present page writable →
        page.isDevicePrivatePage = true ∧
          ∃ other found, migrations other = some found) :
      Function.update cpu migration.mm after mm pfn = pte := by
    rw [process]
    split
    · next same =>
      subst same
      rcases cases_ pfn with
        ⟨page, writable, -, entry', kind, -, -⟩ | ⟨stays, -⟩
      · rw [entry] at entry'
        obtain ⟨private_, other, found, there⟩ :=
          uncollected page writable entry'
        rw [alone (kind private_) other] at there
        cases there
      · rw [stays, entry]
    · exact entry
  refine ⟨?_, owned.backed, ?_, ?_, ?_, ?_, ?_⟩
  · apply owned.exclusive.pass fun giver taker => ∃ pfn page,
      (migration.slots pfn).src.page = some page ∧
        giver = .pte migration.mm pfn ∧ taker = .src id pfn
    · intro owner item held
      cases owner with
      | pte mm pfn =>
          obtain ⟨nonzero, writable, entry⟩ := held
          rw [process] at entry
          split at entry
          · next same =>
            subst same
            rcases cases_ pfn with
              ⟨_, _, -, -, -, changed, -⟩ | ⟨stays, empty⟩
            · rw [changed] at entry
              cases entry
            · refine .inl ⟨⟨nonzero, writable, stays ▸ entry⟩, ?_⟩
              rintro taker ⟨pfn', page, source, ⟨⟩, -⟩
              rw [empty] at source
              cases source
          · next different =>
            refine .inl ⟨⟨nonzero, writable, entry⟩, ?_⟩
            rintro taker ⟨pfn', page, -, ⟨⟩, -⟩
            exact different rfl
      | src other pfn =>
          obtain ⟨found, there, source⟩ := held
          rcases update_cases there with ⟨rfl, rfl⟩ | ⟨different, before⟩
          · rcases cases_ pfn with
              ⟨page, writable, nonzero, entry, -, -, source'⟩ | ⟨-, source'⟩
            · rw [source'] at source
              cases source
              exact .inr ⟨.pte found.mm pfn,
                ⟨pfn, item, source', rfl, rfl⟩, nonzero, writable, entry⟩
            · rw [source'] at source
              cases source
          · exact .inl ⟨⟨found, before, source⟩, by simp⟩
      | dst other pfn =>
          obtain ⟨found, there, target, uninserted'⟩ := held
          rcases update_cases there with ⟨rfl, rfl⟩ | ⟨different, before⟩
          · rw [noTarget pfn] at target
            cases target
          · exact .inl ⟨⟨found, before, target, uninserted'⟩, by simp⟩
      | backing dpage => exact .inl ⟨held, by simp⟩
    · rintro giver owner other ⟨pfn, page, -, rfl, rfl⟩
        ⟨pfn', page', -, ⟨⟩, rfl⟩
      rfl
  · intro mm pfn page writable entry
    rw [process] at entry
    split at entry
    · next same =>
      subst same
      rcases cases_ pfn with
        ⟨page', writable', -, -, -, changed, source⟩ | ⟨stays, -⟩
      · rw [changed] at entry
        cases entry
        exact ⟨id, migration, by simp, rfl, source⟩
      · rw [stays] at entry
        obtain ⟨other, found, there, place, source⟩ :=
          owned.migrating _ pfn page writable entry
        have different : other ≠ id := by
          rintro rfl
          rw [unused] at there
          cases there
        exact ⟨other, found, by simp [different, there], place, source⟩
    · obtain ⟨other, found, there, place, source⟩ :=
        owned.migrating mm pfn page writable entry
      have different : other ≠ id := by
        rintro rfl
        rw [unused] at there
        cases there
      exact ⟨other, found, by simp [different, there], place, source⟩
  · intro other found pfn page there source
    rcases update_cases there with ⟨-, rfl⟩ | ⟨-, before⟩
    · rcases cases_ pfn with
        ⟨page', writable, -, -, -, changed, source'⟩ | ⟨-, source'⟩
      · rw [source'] at source
        cases source
        exact ⟨writable, by rw [process, if_pos rfl, changed]⟩
      · rw [source'] at source
        cases source
    · obtain ⟨writable, entry⟩ :=
        owned.unmapped other found pfn page before source
      exact ⟨writable, kept entry nofun⟩
  · intro other found pfn page there inserted target
    rcases update_cases there with ⟨-, rfl⟩ | ⟨-, before⟩
    · rw [uninserted pfn] at inserted
      cases inserted
    · obtain ⟨writable, entry⟩ :=
        owned.inserted other found pfn page before inserted target
      refine ⟨writable, kept entry ?_⟩
      rintro page' writable' ⟨⟩
      have empty : (found.slots pfn).src.page = none := by
        simp only [Migration.inserted, Bool.and_eq_true,
          Option.isNone_iff_eq_none] at inserted
        exact inserted.1.2
      exact ⟨owned.hole other found pfn page before empty target, other,
        found, before⟩
  · intro other found pfn page there empty target
    rcases update_cases there with ⟨-, rfl⟩ | ⟨-, before⟩
    · rw [noTarget pfn] at target
      cases target
    · exact owned.hole other found pfn page before empty target
  · intro other found pfn there outside
    rcases update_cases there with ⟨-, rfl⟩ | ⟨-, before⟩
    · have here := cell pfn
      rw [if_neg outside] at here
      exact (Prod.mk.inj here).2
    · exact owned.window other found pfn before outside

private theorem retarget (owned : Owned inUse zoneDeviceData cpu migrations)
    {id : Nat} {migration : Migration}
    (there : migrations id = some migration)
    (stage : migration.stage = .setup) {pfn : Nat} {dst : MigratePfn}
    (inside : migration.first ≤ pfn ∧
      pfn < migration.first + migration.npages)
    (kind : (migration.slots pfn).src.page = none → ∀ page,
      dst.page = some page → page.isDevicePrivatePage = true)
    {inUse' : Finset Page} {zoneDeviceData' : Page → ZoneDeviceData}
    (exclusive : Exclusive (Holds inUse' zoneDeviceData' cpu
      (Function.update migrations id (some (migration.aim pfn dst))))
      (fun page => page ∈ inUse'))
    (backed : ∀ page, page ∈ inUse' → page.isDevicePrivatePage = true →
      ∃ frame, zoneDeviceData' page = .page (.normal frame)) :
    Owned inUse' zoneDeviceData' cpu
      (Function.update migrations id (some (migration.aim pfn dst))) := by
  have source (pfn' : Nat) : ((migration.aim pfn dst).slots pfn').src =
      (migration.slots pfn').src := by
    by_cases here : pfn' = pfn
    · subst here
      simp [Migration.aim]
    · simp [Migration.aim, here]
  refine ⟨exclusive, backed, ?_, ?_, ?_, ?_, ?_⟩
  · intro mm pfn' page writable entry
    obtain ⟨other, found, before, place, locked⟩ :=
      owned.migrating mm pfn' page writable entry
    by_cases same : other = id
    · subst same
      rw [there] at before
      cases before
      exact ⟨other, migration.aim pfn dst, by simp, place,
        by rw [source, locked]⟩
    · exact ⟨other, found, by simp [same, before], place, locked⟩
  · intro other found pfn' page after locked
    rcases update_cases after with ⟨-, rfl⟩ | ⟨-, before⟩
    · rw [source] at locked
      exact owned.unmapped id migration pfn' page there locked
    · exact owned.unmapped other found pfn' page before locked
  · intro other found pfn' page after inserted target
    rcases update_cases after with ⟨-, rfl⟩ | ⟨-, before⟩
    · simp [Migration.inserted, Migration.aim, stage] at inserted
    · exact owned.inserted other found pfn' page before inserted target
  · intro other found pfn' page after empty target
    rcases update_cases after with ⟨-, rfl⟩ | ⟨-, before⟩
    · rw [source] at empty
      by_cases here : pfn' = pfn
      · subst here
        apply kind empty
        simpa [Migration.aim] using target
      · apply owned.hole id migration pfn' page there empty
        simpa [Migration.aim, here] using target
    · exact owned.hole other found pfn' page before empty target
  · intro other found pfn' after outside
    rcases update_cases after with ⟨-, rfl⟩ | ⟨-, before⟩
    · have elsewhere : pfn' ≠ pfn := by
        rintro rfl
        exact outside inside
      have untouched : (migration.aim pfn dst).slots pfn' =
          migration.slots pfn' := by
        simp [Migration.aim, elsewhere]
      rw [untouched]
      exact owned.window id migration pfn' there outside
    · exact owned.window other found pfn' before outside

private theorem aim_holds {id : Nat} {migration : Migration}
    (there : migrations id = some migration)
    (stage : migration.stage = .setup) {pfn : Nat} {dst : MigratePfn}
    {owner : Owner} {item : Page}
    (held : Holds inUse zoneDeviceData cpu
      (Function.update migrations id (some (migration.aim pfn dst)))
      owner item) :
    Holds inUse zoneDeviceData cpu migrations owner item ∨
      owner = .dst id pfn ∧ dst.page = some item := by
  cases owner with
  | pte mm pfn' => exact .inl held
  | backing dpage => exact .inl held
  | src other pfn' =>
      obtain ⟨found, after, source⟩ := held
      rcases update_cases after with ⟨rfl, rfl⟩ | ⟨-, before⟩
      · refine .inl ⟨migration, there, ?_⟩
        by_cases here : pfn' = pfn
        · subst here
          simpa [Migration.aim] using source
        · simpa [Migration.aim, here] using source
      · exact .inl ⟨found, before, source⟩
  | dst other pfn' =>
      obtain ⟨found, after, target, uninserted⟩ := held
      rcases update_cases after with ⟨rfl, rfl⟩ | ⟨-, before⟩
      · by_cases here : pfn' = pfn
        · subst here
          refine .inr ⟨rfl, ?_⟩
          simpa [Migration.aim] using target
        · refine .inl ⟨migration, there, ?_, ?_⟩
          · simpa [Migration.aim, here] using target
          · simp [Migration.inserted, stage]
      · exact .inl ⟨found, before, target, uninserted⟩

/-- A private device page and its backing page are taken as a target. -/
theorem aimPrivate (owned : Owned inUse zoneDeviceData cpu migrations)
    {id : Nat} {migration : Migration}
    (there : migrations id = some migration)
    (stage : migration.stage = .setup) {pfn : Nat}
    (inside : migration.first ≤ pfn ∧
      pfn < migration.first + migration.npages)
    {mdevice dpfn rpfn : Nat}
    (unused : Page.devicePrivate mdevice dpfn ∉ inUse)
    (unused' : Page.normal rpfn ∉ inUse) (dmirror : Nat) (write : Bool) :
    Owned (insert (.devicePrivate mdevice dpfn)
        (insert (.normal rpfn) inUse))
      (Function.update (Function.update zoneDeviceData
        (.devicePrivate mdevice dpfn) (.page (.normal rpfn)))
        (.normal rpfn) (.dmirror dmirror)) cpu
      (Function.update migrations id (some (migration.aim pfn
        ⟨some (.devicePrivate mdevice dpfn), false, write⟩))) := by
  -- A device page in use is the new one, or it was one before.
  have links : ∀ page, page ∈ insert (Page.devicePrivate mdevice dpfn)
        (insert (Page.normal rpfn) inUse) →
      page.isDevicePrivatePage = true →
      page = .devicePrivate mdevice dpfn ∧
        Function.update (Function.update zoneDeviceData
          (.devicePrivate mdevice dpfn) (.page (.normal rpfn)))
          (.normal rpfn) (.dmirror dmirror) page =
            .page (.normal rpfn) ∨
      page ∈ inUse ∧
        Function.update (Function.update zoneDeviceData
          (.devicePrivate mdevice dpfn) (.page (.normal rpfn)))
          (.normal rpfn) (.dmirror dmirror) page = zoneDeviceData page := by
    intro page used kind
    rcases Finset.mem_insert.mp used with rfl | used
    · exact .inl ⟨rfl, by simp⟩
    · rcases Finset.mem_insert.mp used with rfl | used
      · cases kind
      · refine .inr ⟨used, ?_⟩
        have different : page ≠ .devicePrivate mdevice dpfn := by
          rintro rfl
          exact unused used
        have different' : page ≠ .normal rpfn := by
          rintro rfl
          exact unused' used
        simp [different, different']
  apply owned.retarget there stage inside
  · rintro - page ⟨⟩
    rfl
  · let holds : Owner → Page → Prop := fun owner item =>
      Holds inUse zoneDeviceData cpu migrations owner item ∨
        owner = .dst id pfn ∧ item = .devicePrivate mdevice dpfn
    have targeted : Exclusive holds
        (fun page => page ∈ inUse ∨ page = .devicePrivate mdevice dpfn) :=
      owned.exclusive.acquire (.dst id pfn) (.devicePrivate mdevice dpfn)
        unused (fun _ alive => alive) (fun _ _ held => held)
    apply targeted.acquire (.backing (.devicePrivate mdevice dpfn))
      (.normal rpfn)
    · simpa using unused'
    · intro item alive
      simp only [Finset.mem_insert]
      tauto
    · intro owner item held
      rcases aim_holds there stage held with held | ⟨taken, new⟩
      · cases owner with
        | backing dpage =>
            obtain ⟨used, kind, link⟩ := held
            rcases links dpage used kind with ⟨rfl, fresh⟩ | ⟨old, same⟩
            · rw [fresh] at link
              cases link
              exact .inr ⟨rfl, rfl⟩
            · rw [same] at link
              exact .inl (.inl ⟨old, kind, link⟩)
        | _ => exact .inl (.inl held)
      · cases new
        exact .inl (.inr ⟨taken, rfl⟩)
  · intro page used kind
    rcases links page used kind with ⟨-, fresh⟩ | ⟨old, same⟩
    · exact ⟨rpfn, fresh⟩
    · rw [same]
      exact owned.backed page old kind

theorem aimNormal (owned : Owned inUse zoneDeviceData cpu migrations)
    {id : Nat} {migration : Migration}
    (there : migrations id = some migration)
    (stage : migration.stage = .setup) {pfn : Nat}
    (inside : migration.first ≤ pfn ∧
      pfn < migration.first + migration.npages)
    (source : (migration.slots pfn).src.page ≠ none) {frame : Nat}
    (unused : Page.normal frame ∉ inUse) (write : Bool) :
    Owned (insert (.normal frame) inUse) zoneDeviceData cpu
      (Function.update migrations id (some (migration.aim pfn
        ⟨some (.normal frame), false, write⟩))) := by
  have old (page : Page) (used : page ∈ insert (Page.normal frame) inUse)
      (kind : page.isDevicePrivatePage = true) : page ∈ inUse := by
    rcases Finset.mem_insert.mp used with rfl | used
    · cases kind
    · exact used
  apply owned.retarget there stage inside
  · intro empty
    exact absurd empty source
  · apply owned.exclusive.acquire (.dst id pfn) (.normal frame) unused
    · intro item
      rw [Finset.mem_insert]
      exact Or.symm
    · intro owner item held
      rcases aim_holds there stage held with held | ⟨taken, new⟩
      · cases owner with
        | backing dpage =>
            obtain ⟨used, kind, link⟩ := held
            exact .inl ⟨old dpage used kind, kind, link⟩
        | _ => exact .inl held
      · cases new
        exact .inr ⟨taken, rfl⟩
  · intro page used kind
    exact owned.backed page (old page used kind) kind

/-- A migration goes on to a stage that puts in no further page. -/
private theorem restage (owned : Owned inUse zoneDeviceData cpu migrations)
    {id : Nat} {migration : Migration}
    (there : migrations id = some migration) (stage : Stage)
    (same : ∀ pfn, { migration with stage := stage }.inserted pfn =
      migration.inserted pfn) :
    Owned inUse zoneDeviceData cpu
      (Function.update migrations id
        (some { migration with stage := stage })) := by
  have back {other : Nat} {found : Migration}
      (after : Function.update migrations id
        (some { migration with stage := stage }) other = some found) :
      ∃ before, migrations other = some before ∧ found.mm = before.mm ∧
        found.slots = before.slots ∧ found.first = before.first ∧
        found.npages = before.npages ∧
        ∀ pfn, found.inserted pfn = before.inserted pfn := by
    rcases update_cases after with ⟨rfl, rfl⟩ | ⟨-, before⟩
    · exact ⟨migration, there, rfl, rfl, rfl, rfl, same⟩
    · exact ⟨found, before, rfl, rfl, rfl, rfl, fun _ => rfl⟩
  refine ⟨?_, owned.backed, ?_, ?_, ?_, ?_, ?_⟩
  · apply owned.exclusive.drop
    intro owner item held
    cases owner with
    | src other pfn =>
        obtain ⟨found, after, source⟩ := held
        obtain ⟨before, known, -, slots, -⟩ := back after
        exact ⟨before, known, slots ▸ source⟩
    | dst other pfn =>
        obtain ⟨found, after, target, uninserted⟩ := held
        obtain ⟨before, known, -, slots, -, -, inserted⟩ := back after
        exact ⟨before, known, slots ▸ target, inserted pfn ▸ uninserted⟩
    | _ => exact held
  · intro mm pfn page writable entry
    obtain ⟨other, found, before, place, source⟩ :=
      owned.migrating mm pfn page writable entry
    by_cases here : other = id
    · subst here
      rw [there] at before
      cases before
      exact ⟨other, { migration with stage := stage }, by simp, place,
        source⟩
    · exact ⟨other, found, by simp [here, before], place, source⟩
  · intro other found pfn page after source
    obtain ⟨before, known, mm, slots, -⟩ := back after
    rw [mm]
    exact owned.unmapped other before pfn page known (slots ▸ source)
  · intro other found pfn page after inserted target
    obtain ⟨before, known, mm, slots, -, -, same⟩ := back after
    rw [mm]
    exact owned.inserted other before pfn page known
      (same pfn ▸ inserted) (slots ▸ target)
  · intro other found pfn page after empty target
    obtain ⟨before, known, mm, slots, -⟩ := back after
    exact owned.hole other before pfn page known (slots ▸ empty)
      (slots ▸ target)
  · intro other found pfn after outside
    obtain ⟨before, known, mm, slots, first, npages, -⟩ := back after
    rw [slots]
    apply owned.window other before pfn known
    rw [← first, ← npages]
    exact outside

theorem copied (owned : Owned inUse zoneDeviceData cpu migrations)
    {id : Nat} {migration : Migration}
    (there : migrations id = some migration)
    (stage : migration.stage = .setup) :
    Owned inUse zoneDeviceData cpu
      (Function.update migrations id
        (some { migration with stage := .copied })) := by
  apply owned.restage there
  intro pfn
  unfold Migration.inserted
  rw [stage]
  rfl

theorem mapAfter (owned : Owned inUse zoneDeviceData cpu migrations)
    {id : Nat} {migration : Migration}
    (there : migrations id = some migration)
    (stage : migration.stage = .migrated) :
    Owned inUse zoneDeviceData cpu
      (Function.update migrations id
        (some { migration with stage := .mapped })) := by
  apply owned.restage there
  intro pfn
  unfold Migration.inserted
  rw [stage]
  rfl

theorem allocAndCopy [Zero Contents] {mem : Memory Contents}
    (owned : Owned mem.inUse mem.zoneDeviceData cpu migrations) {id : Nat}
    {migration : Migration} (there : migrations id = some migration)
    (stage : migration.stage = .setup) (vmWrite : Bool)
    (alloc : Nat → Option (Nat × Nat)) (mdevice dmirror : Nat) :
    let after := dmirrorMigrateAllocAndCopy mdevice dmirror vmWrite alloc
      migration.npages migration.first (migration.slots, mem)
    Owned after.2.inUse after.2.zoneDeviceData cpu
      (Function.update migrations id
        (some { migration with slots := after.1, stage := .copied })) := by
  intro after
  have loop := forEach_keeps
    (fun state : (Nat → MigrateSlot) × Memory Contents =>
      Owned state.2.inUse state.2.zoneDeviceData cpu
        (Function.update migrations id
          (some { migration with slots := state.1 })))
    (dmirrorMigrateAllocAndCopyOne mdevice dmirror vmWrite alloc)
    migration.npages migration.first (migration.slots, mem)
    (by
      have same : Function.update migrations id (some migration) =
          migrations := by
        rw [← there, Function.update_eq_self]
      exact same.symm ▸ owned)
    (by
      rintro pfn ⟨slots, mem⟩ lower upper held
      rcases dmirrorMigrateAllocAndCopyOne_cases mdevice dmirror vmWrite
        alloc pfn slots mem with
        same | ⟨dpfn, rpfn, -, unused, unused', taken⟩
      · rw [same]
        exact held
      · rw [taken]
        have aimed := held.aimPrivate (Function.update_self ..) stage
          ⟨lower, upper⟩ unused unused' dmirror
          ((slots pfn).src.write ||
            ((slots pfn).src.page.isNone && vmWrite))
        rw [Function.update_idem] at aimed
        exact aimed)
  have done := loop.copied (Function.update_self ..) stage
  rw [Function.update_idem] at done
  exact done

theorem faultAllocAndCopy {mem : Memory Contents}
    (owned : Owned mem.inUse mem.zoneDeviceData cpu migrations) {id : Nat}
    {migration : Migration} (there : migrations id = some migration)
    (stage : migration.stage = .setup) (alloc : Nat → Option Nat)
    (pt : XArray) :
    let after := dmirrorDevmemFaultAllocAndCopy alloc migration.npages
      migration.first ⟨migration.slots, mem, pt⟩
    Owned after.mem.inUse after.mem.zoneDeviceData cpu
      (Function.update migrations id
        (some { migration with slots := after.slots, stage := .copied })) := by
  intro after
  have loop := forEach_keeps
    (fun state : FaultCopyState Contents =>
      Owned state.mem.inUse state.mem.zoneDeviceData cpu
        (Function.update migrations id
          (some { migration with slots := state.slots })))
    (dmirrorDevmemFaultAllocAndCopyOne alloc)
    migration.npages migration.first ⟨migration.slots, mem, pt⟩
    (by
      have same : Function.update migrations id (some migration) =
          migrations := by
        rw [← there, Function.update_eq_self]
      exact same.symm ▸ owned)
    (by
      intro pfn state lower upper held
      rcases dmirrorDevmemFaultAllocAndCopyOne_cases alloc pfn state with
        same | ⟨spage, rpage, frame, source, -, -, unused, taken⟩
      · rw [same]
        exact held
      · rw [taken]
        have aimed := held.aimNormal (Function.update_self ..) stage
          ⟨lower, upper⟩ (by simp [source]) unused
          (state.slots pfn).src.write
        rw [Function.update_idem] at aimed
        exact aimed)
  have done := loop.copied (Function.update_self ..) stage
  rw [Function.update_idem] at done
  exact done

/-- `migrate_vma_pages` puts targets into empty addresses. -/
theorem pages (owned : Owned inUse zoneDeviceData cpu migrations) {id : Nat}
    {migration : Migration} (there : migrations id = some migration)
    (stage : migration.stage = .copied) (migrated : Nat → Bool) :
    let after := migrateVmaPages migration.vmWrite migrated
      migration.npages migration.first (cpu migration.mm, migration.slots)
    Owned inUse zoneDeviceData (Function.update cpu migration.mm after.1)
      (Function.update migrations id
        (some { migration with slots := after.2, stage := .migrated })) := by
  intro after
  have cell := migrateVmaPages_cell migration.vmWrite migrated
    migration.npages migration.first (cpu migration.mm, migration.slots)
  let moved : Migration :=
    { migration with slots := after.2, stage := .migrated }
  -- The entry of an address stays, or it gets the target.
  have outcome (pfn : Nat) : (after.2 pfn).dst = (migration.slots pfn).dst ∧
      (after.2 pfn).src.page = (migration.slots pfn).src.page ∧
      (after.1 pfn = cpu migration.mm pfn ∧ moved.inserted pfn = false ∨
        ∃ newpage, (migration.slots pfn).dst.page = some newpage ∧
          (migration.slots pfn).src.page = none ∧
          (cpu migration.mm pfn).insertable = true ∧
          moved.inserted pfn = true ∧
          after.1 pfn = .present newpage migration.vmWrite) := by
    have inserted : moved.inserted pfn =
        ((after.2 pfn).src.page.isNone && (after.2 pfn).src.migrate) := rfl
    have here := cell pfn
    split at here
    · have cases := pagesCell_cases migration.vmWrite (migrated pfn)
        (cpu migration.mm pfn) (migration.slots pfn)
      dsimp only at here cases
      rw [← here] at cases
      obtain ⟨dst, src, ⟨stays, unmoved⟩ | ⟨newpage, target, empty, marked,
        insertable, marked', puts⟩⟩ := cases
      · refine ⟨dst, src, .inl ⟨stays, ?_⟩⟩
        rw [inserted]
        simpa using unmoved
      · refine ⟨dst, src, .inr ⟨newpage, target, empty, insertable, ?_,
          puts⟩⟩
        rw [inserted, Bool.and_eq_true]
        exact ⟨Option.isNone_iff_eq_none.mpr (src.trans empty), marked'⟩
    · next outside =>
      obtain ⟨stays, same⟩ := Prod.mk.inj here
      have same : after.2 pfn = migration.slots pfn := same
      rw [inserted, same]
      refine ⟨rfl, rfl, .inl ⟨stays, ?_⟩⟩
      rw [owned.window id migration pfn there outside]
      rfl
  have before (pfn : Nat) : migration.inserted pfn = false := by
    unfold Migration.inserted
    rw [stage]
    rfl
  have beyond (pfn : Nat) (outside : ¬(migration.first ≤ pfn ∧
      pfn < migration.first + migration.npages)) :
      after.2 pfn = migration.slots pfn := by
    have here := cell pfn
    rw [if_neg outside] at here
    exact (Prod.mk.inj here).2
  clear_value after
  clear cell
  have process (mm : Nat) :
      Function.update cpu migration.mm after.1 mm =
        if mm = migration.mm then after.1 else cpu mm := by
    by_cases same : mm = migration.mm
    · subst same
      simp
    · simp [same]
  -- Other entries than empty ones are not touched.
  have kept {mm pfn : Nat} {pte : Pte} (entry : cpu mm pfn = pte)
      (full : pte.insertable = false) :
      Function.update cpu migration.mm after.1 mm pfn = pte := by
    rw [process]
    split
    · next same =>
      subst same
      rcases (outcome pfn).2.2 with ⟨stays, -⟩ | ⟨_, -, -, empty, -, -⟩
      · rw [stays, entry]
      · rw [entry, full] at empty
        cases empty
    · exact entry
  refine ⟨?_, owned.backed, ?_, ?_, ?_, ?_, ?_⟩
  · apply owned.exclusive.pass fun giver taker => ∃ pfn,
      moved.inserted pfn = true ∧ giver = .dst id pfn ∧
        taker = .pte migration.mm pfn
    · intro owner item held
      cases owner with
      | pte mm pfn =>
          obtain ⟨nonzero, writable, entry⟩ := held
          rw [process] at entry
          split at entry
          · next same =>
            subst same
            rcases (outcome pfn).2.2 with
              ⟨stays, -⟩ | ⟨newpage, target, -, -, inserted, puts⟩
            · exact .inl ⟨⟨nonzero, writable, stays ▸ entry⟩, by simp⟩
            · rw [puts] at entry
              cases entry
              exact .inr ⟨.dst id pfn, ⟨pfn, inserted, rfl, rfl⟩, migration,
                there, target, before pfn⟩
          · exact .inl ⟨⟨nonzero, writable, entry⟩, by simp⟩
      | src other pfn =>
          obtain ⟨found, changed, source⟩ := held
          rcases update_cases changed with ⟨rfl, rfl⟩ | ⟨-, known⟩
          · exact .inl ⟨⟨migration, there, (outcome pfn).2.1 ▸ source⟩,
              by simp⟩
          · exact .inl ⟨⟨found, known, source⟩, by simp⟩
      | dst other pfn =>
          obtain ⟨found, changed, target, uninserted⟩ := held
          rcases update_cases changed with ⟨rfl, rfl⟩ | ⟨different, known⟩
          · refine .inl ⟨⟨migration, there, (outcome pfn).1 ▸ target,
              before pfn⟩, ?_⟩
            rintro taker ⟨pfn', inserted, ⟨⟩, -⟩
            rw [show moved.inserted pfn = false from uninserted] at inserted
            cases inserted
          · refine .inl ⟨⟨found, known, target, uninserted⟩, ?_⟩
            rintro taker ⟨pfn', -, ⟨⟩, -⟩
            exact different rfl
      | backing dpage => exact .inl ⟨held, by simp⟩
    · rintro giver owner other ⟨pfn, -, rfl, rfl⟩ ⟨pfn', -, ⟨⟩, rfl⟩
      rfl
  · intro mm pfn page writable entry
    have entry' : cpu mm pfn = .migration page writable := by
      rw [process] at entry
      split at entry
      · next same =>
        subst same
        rcases (outcome pfn).2.2 with ⟨stays, -⟩ | ⟨_, -, -, -, -, puts⟩
        · rw [← stays, entry]
        · rw [puts] at entry
          cases entry
      · exact entry
    obtain ⟨other, found, known, place, source⟩ :=
      owned.migrating mm pfn page writable entry'
    by_cases same : other = id
    · subst same
      rw [there] at known
      cases known
      exact ⟨other, moved, Function.update_self .., place,
        (outcome pfn).2.1 ▸ source⟩
    · exact ⟨other, found, by simp [same, known], place, source⟩
  · intro other found pfn page changed source
    rcases update_cases changed with ⟨rfl, rfl⟩ | ⟨-, known⟩
    · obtain ⟨writable, entry⟩ := owned.unmapped other migration pfn page
        there ((outcome pfn).2.1 ▸ source)
      exact ⟨writable, kept entry rfl⟩
    · obtain ⟨writable, entry⟩ := owned.unmapped other found pfn page known
        source
      exact ⟨writable, kept entry rfl⟩
  · intro other found pfn page changed inserted target
    rcases update_cases changed with ⟨rfl, rfl⟩ | ⟨-, known⟩
    · rcases (outcome pfn).2.2 with
        ⟨-, unmoved⟩ | ⟨newpage, target', -, -, -, puts⟩
      · rw [show moved.inserted pfn = true from inserted] at unmoved
        cases unmoved
      · have target : (after.2 pfn).dst.page = some page := target
        rw [(outcome pfn).1, target'] at target
        cases target
        exact ⟨migration.vmWrite, by
          rw [process, if_pos rfl, puts]⟩
    · obtain ⟨writable, entry⟩ := owned.inserted other found pfn page known
        inserted target
      refine ⟨writable, kept entry ?_⟩
      have empty : (found.slots pfn).src.page = none := by
        simp only [Migration.inserted, Bool.and_eq_true,
          Option.isNone_iff_eq_none] at inserted
        exact inserted.1.2
      have kind := owned.hole other found pfn page known empty target
      cases page <;> first | rfl | cases kind
  · intro other found pfn page changed empty target
    rcases update_cases changed with ⟨rfl, rfl⟩ | ⟨-, known⟩
    · exact owned.hole other migration pfn page there
        ((outcome pfn).2.1 ▸ empty) ((outcome pfn).1 ▸ target)
    · exact owned.hole other found pfn page known empty target
  · intro other found pfn changed outside
    rcases update_cases changed with ⟨rfl, rfl⟩ | ⟨-, known⟩
    · exact (beyond pfn outside).trans
        (owned.window other migration pfn there outside)
    · exact owned.window other found pfn known outside

theorem clear_cases {id : Nat} {migration : Migration}
    (there : migrations id = some migration) {pfn other : Nat} (pfn' : Nat)
    {found : Migration}
    (after : Function.update migrations id (some (migration.clear pfn))
      other = some found) :
    ∃ before, migrations other = some before ∧ found.mm = before.mm ∧
      found.first = before.first ∧ found.npages = before.npages ∧
      (other = id ∧ pfn' = pfn ∧ found.slots pfn' = .empty ∨
        ¬(other = id ∧ pfn' = pfn) ∧
          found.slots pfn' = before.slots pfn' ∧
          found.inserted pfn' = before.inserted pfn') := by
  rcases update_cases after with ⟨rfl, rfl⟩ | ⟨different, before⟩
  · refine ⟨migration, there, rfl, rfl, rfl, ?_⟩
    by_cases here : pfn' = pfn
    · subst here
      exact .inl ⟨rfl, rfl, Function.update_self ..⟩
    · have kept : (migration.clear pfn).slots pfn' =
          migration.slots pfn' := Function.update_of_ne here ..
      refine .inr ⟨fun same => here same.2, kept, ?_⟩
      unfold Migration.inserted
      rw [kept]
      rfl
  · exact ⟨found, before, rfl, rfl, rfl,
      .inr ⟨fun same => different same.1, rfl, rfl⟩⟩

theorem clear_holds {id : Nat} {migration : Migration}
    (there : migrations id = some migration) {pfn : Nat} {owner : Owner}
    {item : Page}
    (held : Holds inUse zoneDeviceData cpu
      (Function.update migrations id (some (migration.clear pfn)))
      owner item) :
    Holds inUse zoneDeviceData cpu migrations owner item ∧
      owner ≠ .src id pfn ∧ owner ≠ .dst id pfn := by
  cases owner with
  | pte mm pfn' => exact ⟨held, nofun, nofun⟩
  | backing dpage => exact ⟨held, nofun, nofun⟩
  | src other pfn' =>
      obtain ⟨found, after, source⟩ := held
      obtain ⟨before, known, -, -, -, ⟨-, -, empty⟩ |
        ⟨apart, same, -⟩⟩ := clear_cases there pfn' after
      · rw [empty] at source
        cases source
      · refine ⟨⟨before, known, same ▸ source⟩, ?_, nofun⟩
        rintro ⟨⟩
        exact apart ⟨rfl, rfl⟩
  | dst other pfn' =>
      obtain ⟨found, after, target, uninserted⟩ := held
      obtain ⟨before, known, -, -, -, ⟨-, -, empty⟩ |
        ⟨apart, same, inserted⟩⟩ := clear_cases there pfn' after
      · rw [empty] at target
        cases target
      · refine ⟨⟨before, known, same ▸ target, inserted ▸ uninserted⟩,
          nofun, ?_⟩
        rintro ⟨⟩
        exact apart ⟨rfl, rfl⟩

/-- An address of a migration is done with; its entry in the page table may
have changed. -/
private theorem resolve (owned : Owned inUse zoneDeviceData cpu migrations)
    {id : Nat} {migration : Migration}
    (there : migrations id = some migration) {pfn : Nat}
    {cpu' : Nat → Nat → Pte}
    (exclusive : Exclusive (Holds inUse zoneDeviceData cpu'
      (Function.update migrations id (some (migration.clear pfn))))
      (fun page => page ∈ inUse))
    (elsewhere : ∀ mm pfn', ¬(mm = migration.mm ∧ pfn' = pfn) →
      cpu' mm pfn' = cpu mm pfn')
    (here : ∀ page writable,
      cpu' migration.mm pfn = .migration page writable →
      ∃ other found, other ≠ id ∧ migrations other = some found ∧
        found.mm = migration.mm ∧ (found.slots pfn).src.page = some page)
    (others : ∀ other found page, other ≠ id →
      migrations other = some found → found.mm = migration.mm →
      ((found.slots pfn).src.page = some page →
        ∃ writable, cpu' migration.mm pfn = .migration page writable) ∧
      (found.inserted pfn = true → (found.slots pfn).dst.page = some page →
        ∃ writable, cpu' migration.mm pfn = .present page writable)) :
    Owned inUse zoneDeviceData cpu'
      (Function.update migrations id (some (migration.clear pfn))) := by
  refine ⟨exclusive, owned.backed, ?_, ?_, ?_, ?_, ?_⟩
  · intro mm pfn' page writable entry
    by_cases inside : mm = migration.mm ∧ pfn' = pfn
    · obtain ⟨rfl, rfl⟩ := inside
      obtain ⟨other, found, different, known, place, source⟩ :=
        here page writable entry
      exact ⟨other, found, by simp [different, known], place, source⟩
    · rw [elsewhere mm pfn' inside] at entry
      obtain ⟨other, found, known, place, source⟩ :=
        owned.migrating mm pfn' page writable entry
      by_cases same : other = id
      · subst same
        rw [there] at known
        cases known
        have different : pfn' ≠ pfn := fun same => inside ⟨place.symm, same⟩
        refine ⟨other, migration.clear pfn, by simp, place, ?_⟩
        simpa [Migration.clear, different] using source
      · exact ⟨other, found, by simp [same, known], place, source⟩
  · intro other found pfn' page after source
    obtain ⟨before, known, mm, -, -, ⟨-, -, empty⟩ |
      ⟨apart, slot, -⟩⟩ := clear_cases there pfn' after
    · rw [empty] at source
      cases source
    · rw [slot] at source
      rw [mm]
      by_cases inside : before.mm = migration.mm ∧ pfn' = pfn
      · obtain ⟨place, rfl⟩ := inside
        have different : other ≠ id := fun same => apart ⟨same, rfl⟩
        rw [place]
        exact (others other before page different known place).1 source
      · rw [elsewhere _ pfn' inside]
        exact owned.unmapped other before pfn' page known source
  · intro other found pfn' page after inserted target
    obtain ⟨before, known, mm, -, -, ⟨-, -, empty⟩ |
      ⟨apart, slot, same⟩⟩ := clear_cases there pfn' after
    · rw [empty] at target
      cases target
    · rw [slot] at target
      rw [same] at inserted
      rw [mm]
      by_cases inside : before.mm = migration.mm ∧ pfn' = pfn
      · obtain ⟨place, rfl⟩ := inside
        have different : other ≠ id := fun same => apart ⟨same, rfl⟩
        rw [place]
        exact (others other before page different known place).2 inserted
          target
      · rw [elsewhere _ pfn' inside]
        exact owned.inserted other before pfn' page known inserted target
  · intro other found pfn' page after empty target
    obtain ⟨before, known, -, -, -, ⟨-, -, cleared⟩ |
      ⟨-, slot, -⟩⟩ := clear_cases there pfn' after
    · rw [cleared] at target
      cases target
    · exact owned.hole other before pfn' page known (slot ▸ empty)
        (slot ▸ target)
  · intro other found pfn' after outside
    obtain ⟨before, known, -, first, npages, ⟨-, -, cleared⟩ |
      ⟨-, slot, -⟩⟩ := clear_cases there pfn' after
    · exact cleared
    · rw [slot]
      apply owned.window other before pfn' known
      rw [← first, ← npages]
      exact outside

theorem clearHole (owned : Owned inUse zoneDeviceData cpu migrations)
    {id : Nat} {migration : Migration}
    (there : migrations id = some migration) {pfn : Nat}
    (empty : (migration.slots pfn).src.page = none) :
    Owned inUse zoneDeviceData cpu
      (Function.update migrations id (some (migration.clear pfn))) := by
  apply owned.resolve there
  · exact owned.exclusive.drop fun owner item held =>
      (clear_holds there held).1
  · intro mm pfn' _
    rfl
  · intro page writable entry
    obtain ⟨other, found, known, place, source⟩ :=
      owned.migrating migration.mm pfn page writable entry
    refine ⟨other, found, ?_, known, place, source⟩
    rintro rfl
    rw [there] at known
    cases known
    rw [empty] at source
    cases source
  · intro other found page _ known place
    rw [← place]
    exact ⟨owned.unmapped other found pfn page known,
      owned.inserted other found pfn page known⟩

/-- The page that was locked at an address, or its target, is mapped
there. -/
theorem settle (owned : Owned inUse zoneDeviceData cpu migrations)
    {id : Nat} {migration : Migration}
    (there : migrations id = some migration) {pfn : Nat} {page : Page}
    (source : (migration.slots pfn).src.page = some page) {target : Page}
    (chosen : target = page ∨ (migration.slots pfn).dst.page = some target)
    (writable : Bool) :
    Owned inUse zoneDeviceData
      (setPte cpu migration.mm pfn (.present target writable))
      (Function.update migrations id (some (migration.clear pfn))) ∧
    ∀ other, other ≠ target →
      (other = page ∨ (migration.slots pfn).dst.page = some other) →
      ∀ owner, ¬Holds inUse zoneDeviceData
        (setPte cpu migration.mm pfn (.present target writable))
        (Function.update migrations id (some (migration.clear pfn)))
        owner other := by
  have uninserted : migration.inserted pfn = false := by
    simp [Migration.inserted, source]
  obtain ⟨writable', locked⟩ := owned.unmapped id migration pfn page there
    source
  have holds {item : Page} (held : item = page ∨
      (migration.slots pfn).dst.page = some item) :
      ∃ owner, (owner = .src id pfn ∨ owner = .dst id pfn) ∧
        Holds inUse zoneDeviceData cpu migrations owner item := by
    rcases held with rfl | dst
    · exact ⟨_, .inl rfl, migration, there, source⟩
    · exact ⟨_, .inr rfl, migration, there, dst, uninserted⟩
  -- Only the new entry is held that was not held before.
  have fewer {owner : Owner} {item : Page}
      (held : Holds inUse zoneDeviceData
        (setPte cpu migration.mm pfn (.present target writable))
        (Function.update migrations id (some (migration.clear pfn)))
        owner item) :
      owner = .pte migration.mm pfn ∧ item = target ∨
        Holds inUse zoneDeviceData cpu migrations owner item ∧
          owner ≠ .src id pfn ∧ owner ≠ .dst id pfn := by
    cases owner with
    | pte mm pfn' =>
        obtain ⟨nonzero, w, entry⟩ := held
        by_cases here : mm = migration.mm ∧ pfn' = pfn
        · obtain ⟨rfl, rfl⟩ := here
          rw [setPte_here] at entry
          cases entry
          exact .inl ⟨rfl, rfl⟩
        · rw [setPte_elsewhere _ _ here] at entry
          exact .inr ⟨⟨nonzero, w, entry⟩, nofun, nofun⟩
    | backing dpage => exact .inr ⟨held, nofun, nofun⟩
    | src other pfn' =>
        exact .inr (clear_holds there held)
    | dst other pfn' =>
        exact .inr (clear_holds there held)
  refine ⟨owned.resolve there ?_ ?_ ?_ ?_, ?_⟩
  · obtain ⟨giver, which, gives⟩ := holds chosen
    apply owned.exclusive.pass fun from_ to_ =>
      from_ = giver ∧ to_ = .pte migration.mm pfn
    · intro owner item held
      rcases fewer held with ⟨rfl, rfl⟩ | ⟨before, noSrc, noDst⟩
      · exact .inr ⟨giver, ⟨rfl, rfl⟩, gives⟩
      · refine .inl ⟨before, ?_⟩
        rintro taker ⟨rfl, -⟩
        rcases which with rfl | rfl
        · exact noSrc rfl
        · exact noDst rfl
    · rintro _ owner other ⟨-, rfl⟩ ⟨-, rfl⟩
      rfl
  · intro mm pfn' outside
    exact setPte_elsewhere _ _ outside
  · intro held w entry
    rw [setPte_here] at entry
    cases entry
  · intro other found held different known place
    constructor
    · intro source'
      obtain ⟨w, entry⟩ := owned.unmapped other found pfn held known source'
      rw [place, locked] at entry
      cases entry
      have same := owned.exclusive.once (.src other pfn) (.src id pfn) page
        ⟨found, known, source'⟩ ⟨migration, there, source⟩
      cases same
      exact absurd rfl different
    · intro inserted target'
      obtain ⟨w, entry⟩ := owned.inserted other found pfn held known inserted
        target'
      rw [place, locked] at entry
      cases entry
  · intro other different given owner held
    rcases fewer held with ⟨-, same⟩ | ⟨before, noSrc, noDst⟩
    · exact different same
    · obtain ⟨giver, which, gives⟩ := holds given
      have same := owned.exclusive.once owner giver other before gives
      rcases which with rfl | rfl
      · exact noSrc same
      · exact noDst same

end Owned

end Rshm.Hmm
