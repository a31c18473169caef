import Rshm.Mm.MigrationWhole

/-!
# Migrations without an address

`migrate_device_range` takes the pages of a range of device memory, and
`migrate_device_coherent_page` one page that its caller has a reference to.
Neither looks at a page table to find its pages.
-/

namespace Rshm.Mm

open RangeLoop

/-- `pfn_to_page(start + i)`. -/
def rangePage (start : Nat) (i : Nat) : Pfn := Fin.ofNat (2 ^ 58) (start + i)

/-- The body of the loop of `migrate_device_range`. -/
def migrateDeviceRangeOne (start : Nat) (i : Nat)
    (state : Kernel × (Nat → UInt64)) : Kernel × (Nat → UInt64) :=
  let page := rangePage start i
  if (state.1.frame page).count = 0 then
    (state.1, Function.update state.2 i 0)
  else
    let kernel := state.1.getPage page
    if (kernel.frame page).locked then
      (kernel.putPage page, Function.update state.2 i 0)
    else
      (kernel.lockPage page,
        Function.update state.2 i (sourceWord page false))

def migrateDeviceRange (host : Host) (start npages : Nat)
    (src : Nat → UInt64) (kernel : Kernel) : Unmap :=
  let taken := forEach (migrateDeviceRangeOne start) npages 0 (kernel, src)
  migrateDeviceUnmap host none npages taken.2 taken.1

/-- What `migrate_device_coherent_page` gets from its surroundings: the page
that `alloc_page` finds, and what its calls answer. -/
structure CoherentEnv (Contents : Type) where
  dpage : Option Pfn
  retrieval : Retrieval Contents
  mapped : Bool
  zone : ZoneKind
  folio : Int

/-- The slot that the environment answers for. -/
def CoherentEnv.slots {Contents : Type} (env : CoherentEnv Contents) :
    MigrateEnv Contents where
  dst _ := env.dpage.elim 0 migratePfn
  migrate := none
  retrieval _ := env.retrieval
  mapped _ := env.mapped
  zone _ := env.zone
  folio _ := env.folio
  inserts _ := false

/-- `migrate_device_coherent_page`, called when the lock of the page is free:
its result, or how it ends before it has one. -/
def migrateDeviceCoherentPage {Contents : Type} (host : Host)
    (env : CoherentEnv Contents) (page : Pfn) (kernel : Kernel)
    (client : Client Contents) : Except Oops Int × Kernel :=
  let unmap := migrateDeviceUnmap host none 1
    (fun _ => sourceWord page false) (kernel.lockPage page)
  if migrating (unmap.src 0) = false then (.ok (-16), unmap.kernel)
  else
    let kernel :=
      match env.dpage with
      | none => unmap.kernel
      | some dpage => unmap.kernel.lockPage dpage
    match migrateDevicePages env.slots 1 (.start unmap.src client) with
    | (_, some oops) => (.error oops, kernel)
    | (pages, none) =>
        (.ok (if migrating (pages.src 0) then 0 else -16),
          migrateDeviceFinalize host pages.src env.slots.dst 1 kernel)

variable {host : Host} {base kernel : Kernel} {pfn : Pfn}

theorem rangePage_inj {start npages i j : Nat}
    (fits : start + npages ≤ 2 ^ 58) (within : i < npages)
    (within' : j < npages) (same : rangePage start i = rangePage start j) :
    i = j := by
  have equal := congrArg Fin.val same
  simp only [rangePage, Fin.ofNat] at equal
  rw [Nat.mod_eq_of_lt (by omega), Nat.mod_eq_of_lt (by omega)] at equal
  omega

/-- The word of a slot before the pages are unmapped. -/
def rangeWord (base : Kernel) (page : Pfn) : UInt64 :=
  if (base.frame page).count = 0 ∨ (base.frame page).locked = true then 0
  else sourceWord page false

theorem rangeWord_page {page : Pfn}
    (found : pageOf (rangeWord base page) = some pfn) :
    pfn = page ∧ rangeWord base page = sourceWord page false ∧
      (base.frame page).count ≠ 0 ∧ (base.frame page).locked = false := by
  unfold rangeWord at found ⊢
  split
  · next refused =>
    rw [if_pos refused] at found
    cases found
  · next free =>
    rw [if_neg free, pageOf_sourceWord] at found
    rw [not_or] at free
    exact ⟨(Option.some.inj found).symm, rfl, free.1,
      Bool.eq_false_iff.mpr free.2⟩

/-- The loop of `migrate_device_range` before slot `k`. -/
structure Ranging (host : Host) (base : Kernel) (start k : Nat)
    (state : Kernel × (Nat → UInt64)) : Prop where
  claimed : Claimed host base state.1 state.2 k
  table : state.1.table = base.table
  words : ∀ i, i < k → state.2 i = rangeWord base (rangePage start i)

theorem Ranging.migrateDeviceRangeOne {start npages k : Nat}
    {state : Kernel × (Nat → UInt64)}
    (ranging : Ranging host base start k state) (sound : base.Sound host)
    (fits : start + npages ≤ 2 ^ 58) (inside : k < npages) :
    Ranging host base start (k + 1) (migrateDeviceRangeOne start k state) := by
  have fresh (i : Nat) (before : i < k) :
      pageOf (state.2 i) ≠ some (rangePage start k) := by
    intro page
    rw [ranging.words i before] at page
    have same := rangePage_inj fits (by omega) (by omega)
      (rangeWord_page page).1
    omega
  have intact := ranging.claimed.intact _ fresh
  have old (word : UInt64) {i : Nat} (before : i < k) :
      Function.update state.2 k word i = state.2 i :=
    Function.update_of_ne (by omega) ..
  have new (word : UInt64) : Function.update state.2 k word k = word :=
    Function.update_self ..
  have words (word : UInt64) (right : word = rangeWord base (rangePage start k))
      (i : Nat) (before : i < k + 1) :
      Function.update state.2 k word i =
        rangeWord base (rangePage start i) := by
    by_cases now : i = k
    · subst now
      rw [new, right]
    · rw [old word (by omega)]
      exact ranging.words i (by omega)
  -- A slot that gets no page leaves the kernel as it is.
  have empty (refused : (base.frame (rangePage start k)).count = 0 ∨
        (base.frame (rangePage start k)).locked = true) :
      Ranging host base start (k + 1)
        (state.1, Function.update state.2 k 0) := by
    have none_ : pageOf (Function.update state.2 k 0 k) = none := by
      rw [new]
      rfl
    have older {i : Nat} {found : Pfn} (before : i < k + 1)
        (page : pageOf (Function.update state.2 k 0 i) = some found) :
        i < k ∧ pageOf (state.2 i) = some found := by
      by_cases now : i = k
      · subst now
        rw [none_] at page
        cases page
      · have before : i < k := by omega
        rw [old 0 before] at page
        exact ⟨before, page⟩
    refine ⟨⟨ranging.claimed.names, ?_, ?_, ?_⟩, ranging.table, ?_⟩
    · intro i found before page
      obtain ⟨before, page⟩ := older before page
      dsimp only
      rw [old 0 before]
      exact ranging.claimed.held i found before page
    · intro i j found before before' page page'
      obtain ⟨before, page⟩ := older before page
      obtain ⟨before', page'⟩ := older before' page'
      exact ranging.claimed.distinct i j found before before' page page'
    · intro found absent
      apply ranging.claimed.intact found
      intro i before page
      apply absent i (by omega)
      dsimp only
      rw [old 0 before]
      exact page
    · apply words 0
      rw [rangeWord, if_pos refused]
  have frame := intact.frame
  unfold Rshm.Mm.migrateDeviceRangeOne
  dsimp only
  rw [Kernel.getPage_frame, frame]
  dsimp only
  split
  · next freed => exact empty (.inl freed)
  · next used =>
    split
    · next locked =>
      rw [Kernel.getPage_putPage]
      exact empty (.inr locked)
    · next unlocked =>
      have free := Bool.eq_false_iff.mpr unlocked
      have held := intact.lockPage sound ranging.claimed.names free
      have touches : state.1.Touches (rangePage start k)
          ((state.1.getPage (rangePage start k)).lockPage
            (rangePage start k)) :=
        (Kernel.Touches.setFrame _ _ _).trans (.setFrame _ _ _)
      generalize word : sourceWord (rangePage start k) false = mpfn
      have page : pageOf mpfn = some (rangePage start k) := by
        rw [← word, pageOf_sourceWord]
      have cases {i : Nat} {found : Pfn} (before : i < k + 1)
          (there : pageOf (Function.update state.2 k mpfn i) = some found) :
          i = k ∧ found = rangePage start k ∨
            i < k ∧ found ≠ rangePage start k ∧
              pageOf (state.2 i) = some found := by
        by_cases now : i = k
        · subst now
          rw [new, page] at there
          exact .inl ⟨rfl, (Option.some.inj there).symm⟩
        · have before : i < k := by omega
          rw [old mpfn before] at there
          refine .inr ⟨before, ?_, there⟩
          rintro rfl
          exact fresh i before there
      refine ⟨⟨ranging.claimed.names.touches touches, ?_, ?_, ?_⟩,
        ranging.table, ?_⟩
      · intro i found before there
        rcases cases before there with ⟨rfl, rfl⟩ | ⟨before, other, there⟩
        · refine ⟨?_, held⟩
          dsimp only
          rw [new, ← word, migrating_sourceWord]
        · dsimp only
          rw [old mpfn before]
          obtain ⟨moving, held⟩ := ranging.claimed.held i found before there
          exact ⟨moving, held.touches touches other.symm⟩
      · intro i j found before before' there there'
        rcases cases before there with ⟨rfl, rfl⟩ | ⟨before, other, there⟩
        · rcases cases before' there' with ⟨rfl, -⟩ | ⟨-, other, -⟩
          · rfl
          · exact absurd rfl other
        · rcases cases before' there' with ⟨-, same⟩ | ⟨before', -, there'⟩
          · exact absurd same other
          · exact ranging.claimed.distinct i j found before before' there
              there'
      · intro found absent
        have different : found ≠ rangePage start k := by
          rintro rfl
          apply absent k (Nat.lt_succ_self k)
          dsimp only
          rw [new, page]
        refine (ranging.claimed.intact found ?_).touches touches
          different.symm
        intro i before there
        apply absent i (by omega)
        dsimp only
        rw [old mpfn before]
        exact there
      · apply words mpfn
        rw [rangeWord, if_neg (not_or.mpr ⟨used, unlocked⟩), word]

/-- The loop of `migrate_device_range` at its end. -/
theorem migrateDeviceRange_ranging {start npages : Nat}
    (sound : base.Sound host) (fits : start + npages ≤ 2 ^ 58)
    (src : Nat → UInt64) :
    Ranging host base start npages
      (forEach (migrateDeviceRangeOne start) npages 0 (base, src)) := by
  have first : Ranging host base start 0 (base, src) :=
    ⟨⟨fun _ => .inl rfl, fun i _ before => absurd before (Nat.not_lt_zero i),
      fun i _ _ before => absurd before (Nat.not_lt_zero i),
      fun pfn _ => .refl base pfn⟩, rfl,
      fun i before => absurd before (Nat.not_lt_zero i)⟩
  have last := forEach_induction (Ranging host base start)
    (migrateDeviceRangeOne start) npages 0 (base, src) first (by
      intro k state _ inside ranging
      exact ranging.migrateDeviceRangeOne sound fits (by omega))
  rw [Nat.zero_add] at last
  exact last

theorem migrateDeviceRange_setUp {start npages : Nat}
    (sound : base.Sound host) (fits : start + npages ≤ 2 ^ 58)
    (src : Nat → UInt64) :
    SetUp host base (migrateDeviceRange host start npages src base).kernel
      (migrateDeviceRange host start npages src base).src npages :=
  (migrateDeviceUnmap_setUp sound
    (migrateDeviceRange_ranging sound fits src).claimed none).1

/-- The word of a page of the range after `migrate_device_range`. -/
theorem migrateDeviceRange_word {start npages : Nat} (sound : base.Sound host)
    (fits : start + npages ≤ 2 ^ 58) (src : Nat → UInt64) {i : Nat}
    (within : i < npages) :
    ((base.frame (rangePage start i)).count ≠ 0 ∧
        (base.frame (rangePage start i)).locked = false ∧
        Movable host base base none (rangePage start i) ∧
        (migrateDeviceRange host start npages src base).src i =
          sourceWord (rangePage start i) false) ∨
      (¬((base.frame (rangePage start i)).count ≠ 0 ∧
          (base.frame (rangePage start i)).locked = false ∧
          Movable host base base none (rangePage start i)) ∧
        (migrateDeviceRange host start npages src base).src i = 0) := by
  have last := migrateDeviceRange_ranging sound fits src
  unfold migrateDeviceRange
  dsimp only
  generalize forEach (migrateDeviceRangeOne start) npages 0 (base, src) =
    taken at *
  obtain ⟨-, -, -, words⟩ :=
    migrateDeviceUnmap_setUp sound last.claimed none
  have movable : Movable host base taken.1 none (rangePage start i) ↔
      Movable host base base none (rangePage start i) := by
    constructor
    · rintro ⟨single, listed, free, unpinned⟩
      rw [last.table] at free
      exact ⟨single, listed, free, unpinned⟩
    · rintro ⟨single, listed, free, unpinned⟩
      rw [← last.table] at free
      exact ⟨single, listed, free, unpinned⟩
  have word := words i within
  rw [last.words i within, UnmappedWord] at word
  cases page : pageOf (rangeWord base (rangePage start i)) with
  | none =>
      rw [page] at word
      have refused : (base.frame (rangePage start i)).count = 0 ∨
          (base.frame (rangePage start i)).locked = true := by
        by_contra free
        rw [rangeWord, if_neg free, pageOf_sourceWord] at page
        cases page
      right
      constructor
      · rintro ⟨used, free, -⟩
        rcases refused with freed | locked
        · exact used freed
        · rw [free] at locked
          cases locked
      · refine word.trans ?_
        rw [rangeWord, if_pos refused]
  | some found =>
      obtain ⟨rfl, same, used, free⟩ := rangeWord_page page
      rw [page] at word
      dsimp only at word
      rw [movable, same] at word
      rcases word with ⟨moves, word⟩ | ⟨stuck, word⟩
      · exact .inl ⟨used, free, moves, word⟩
      · refine .inr ⟨?_, word⟩
        rintro ⟨-, -, moves⟩
        exact stuck moves

/-- `migrate_device_range` locks and unmaps the pages of the range that are
in use and can migrate, and leaves all others as they are. -/
theorem migrateDeviceRange_exact {start npages : Nat} (sound : base.Sound host)
    (fits : start + npages ≤ 2 ^ 58) (src : Nat → UInt64) :
    SetUp host base (migrateDeviceRange host start npages src base).kernel
        (migrateDeviceRange host start npages src base).src npages ∧
      ∀ i, i < npages →
        ((base.frame (rangePage start i)).count ≠ 0 ∧
            (base.frame (rangePage start i)).locked = false ∧
            Movable host base base none (rangePage start i) ∧
            (migrateDeviceRange host start npages src base).src i =
              sourceWord (rangePage start i) false) ∨
          (¬((base.frame (rangePage start i)).count ≠ 0 ∧
              (base.frame (rangePage start i)).locked = false ∧
              Movable host base base none (rangePage start i)) ∧
            (migrateDeviceRange host start npages src base).src i = 0) :=
  ⟨migrateDeviceRange_setUp sound fits src,
    fun _ within => migrateDeviceRange_word sound fits src within⟩

theorem migrateDeviceRange_exact_onePage :
    SetUp onePageHost onePageKernel
      (migrateDeviceRange onePageHost 0 10 (fun _ => 0) onePageKernel).kernel
      (migrateDeviceRange onePageHost 0 10 (fun _ => 0) onePageKernel).src
      10 :=
  (migrateDeviceRange_exact onePageKernel_sound (by decide) fun _ => 0).1

theorem Kernel.putPage_getPage (kernel : Kernel) (pfn : Pfn) :
    (kernel.putPage pfn).getPage pfn = kernel := by
  unfold getPage putPage setFrame
  simp

theorem Kernel.putPage_frame (kernel : Kernel) (pfn other : Pfn) :
    (kernel.putPage pfn).frame other =
      { kernel.frame other with
        count := (kernel.frame other).count -
          if other = pfn then 1 else 0 } := by
  unfold putPage setFrame
  by_cases same : other = pfn
  · subst same
    simp
  · simp [same]

theorem Kernel.Sound.putPage (sound : kernel.Sound host) (pfn : Pfn) :
    (kernel.putPage pfn).Sound host := by
  refine ⟨sound.nodup, sound.mapped, ?_, ?_, sound.proper, ?_⟩
  · intro place other moves
    rw [Kernel.putPage_frame]
    exact sound.moving place other moves
  · intro other
    rw [Kernel.putPage_frame]
    exact sound.mapcount other
  · intro place other maps write anon
    rw [Kernel.putPage_frame]
    exact sound.exclusive place other maps write anon

/-- `migrate_device_coherent_page` never moves its page: it takes a bad
pointer for one where the page could migrate and there is a page for it, and
otherwise gives everything back, with the reference of its caller. -/
theorem migrateDeviceCoherentPage_fails {Contents : Type}
    (sound : kernel.Sound host) (free : (kernel.frame pfn).locked = false)
    (env : CoherentEnv Contents) (client : Client Contents) :
    (env.dpage ≠ none ∧
        Movable host (kernel.putPage pfn) (kernel.putPage pfn) none pfn ∧
        (migrateDeviceCoherentPage host env pfn kernel client).1 =
          .error .badPointer) ∨
      (¬(env.dpage ≠ none ∧
          Movable host (kernel.putPage pfn) (kernel.putPage pfn) none pfn) ∧
        (migrateDeviceCoherentPage host env pfn kernel client).1 =
          .ok (-16) ∧
        Restored (kernel.putPage pfn)
          (migrateDeviceCoherentPage host env pfn kernel client).2) := by
  have before := sound.putPage pfn
  have unlocked : ((kernel.putPage pfn).frame pfn).locked = false := by
    rw [Kernel.putPage_frame]
    exact free
  have held := (Intact.refl (kernel.putPage pfn) pfn).lockPage before
    (fun _ => .inl rfl) unlocked
  rw [Kernel.putPage_getPage] at held
  have touches : (kernel.putPage pfn).Touches pfn (kernel.lockPage pfn) := by
    refine ⟨?_, fun _ => .inl rfl⟩
    intro other different
    rw [Kernel.putPage_frame, if_neg different]
    simp [Kernel.lockPage, Kernel.setFrame, different]
  have claimed : Claimed host (kernel.putPage pfn) (kernel.lockPage pfn)
      (fun _ => sourceWord pfn false) 1 := by
    refine ⟨fun _ => .inl rfl, ?_, ?_, ?_⟩
    · intro i found _ page
      rw [pageOf_sourceWord] at page
      cases page
      exact ⟨migrating_sourceWord .., held⟩
    · intro i j _ within within' _ _
      omega
    · intro other absent
      have different : other ≠ pfn := by
        rintro rfl
        exact absent 0 Nat.one_pos (pageOf_sourceWord ..)
      exact (Intact.refl _ other).touches touches different.symm
  obtain ⟨setUp, -, -, words⟩ := migrateDeviceUnmap_setUp before claimed none
  have word := words 0 Nat.one_pos
  rw [UnmappedWord, pageOf_sourceWord] at word
  dsimp only at word
  have movable : Movable host (kernel.putPage pfn) (kernel.lockPage pfn) none
      pfn ↔ Movable host (kernel.putPage pfn) (kernel.putPage pfn) none
      pfn :=
    ⟨fun movable => ⟨movable.single, movable.listed, movable.free,
      movable.unpinned⟩, fun movable => ⟨movable.single, movable.listed,
      movable.free, movable.unpinned⟩⟩
  rw [movable] at word
  unfold migrateDeviceCoherentPage
  dsimp only
  generalize migrateDeviceUnmap host none 1 (fun _ => sourceWord pfn false)
    (kernel.lockPage pfn) = unmap at *
  rcases word with ⟨movable, word⟩ | ⟨stuck, word⟩
  · have moving : migrating (unmap.src 0) = true := by
      rw [word, migrating_sourceWord]
    rw [moving]
    have later : ¬true = false := Bool.noConfusion
    rw [if_neg later]
    cases found : env.dpage with
    | none =>
        have nowhere (i : Nat) (_ : i < 1) :
            pageOf (env.slots.dst i) = none := by
          have dst : env.slots.dst i = 0 := by
            simp [CoherentEnv.slots, found]
          rw [dst, pageOf_zero]
        obtain ⟨returns, after, -⟩ := migrateDevicePages_null env.slots 1
          unmap.src client (by
            intro i within
            rw [migratePfnToPage_eq, nowhere i within])
        cases result : migrateDevicePages env.slots 1
            (.start unmap.src client) with
        | mk pages ended =>
            rw [result] at returns after
            have returns : ended = none := returns
            subst returns
            have cleared : migrating (pages.src 0) = false := by
              rw [after 0 Nat.one_pos, migrating_clearMigrate]
            dsimp only
            rw [cleared]
            refine .inr ⟨fun both => both.1 rfl, rfl,
              migrateDeviceFinalize_restores before setUp ?_ nowhere⟩
            intro i within
            rw [after i within, pageOf_clearMigrate]
    | some dpage =>
        have stops : (migrateDevicePages env.slots 1
            (.start unmap.src client)).2 = some .badPointer := by
          rcases migrateDevicePages_outcome env.slots 1 unmap.src client with
            bad | ⟨-, nowhere⟩
          · exact bad
          · have page := nowhere 0 Nat.one_pos
            have dst : env.slots.dst 0 = migratePfn dpage := by
              simp [CoherentEnv.slots, found]
            rw [dst, pageOf_migratePfn] at page
            cases page
        cases result : migrateDevicePages env.slots 1
            (.start unmap.src client) with
        | mk pages ended =>
            rw [result] at stops
            have stops : ended = some .badPointer := stops
            subst stops
            exact .inl ⟨Option.some_ne_none dpage, movable, rfl⟩
  · have still : migrating (unmap.src 0) = false := by
      rw [word, migrating_zero]
    rw [if_pos still]
    refine .inr ⟨fun both => stuck both.2, rfl, setUp.restored ?_⟩
    intro i within
    obtain rfl : i = 0 := by omega
    rw [word, pageOf_zero]

private def coherentEnv : CoherentEnv Unit where
  dpage := some 2
  retrieval := ⟨0, 0, 0, fun i => ⟨4096, (), some i⟩⟩
  mapped := false
  zone := .normal
  folio := 0

/-- A page that could migrate takes the bad pointer where there is a page for
it, and is given back where there is none. -/
theorem migrateDeviceCoherentPage_fails_onePage :
    (migrateDeviceCoherentPage onePageHost coherentEnv 1 onePageKernel
        noPagesClient).1 = .error .badPointer ∧
      (migrateDeviceCoherentPage onePageHost { coherentEnv with dpage := none }
        1 onePageKernel noPagesClient).1 = .ok (-16) ∧
      Restored (onePageKernel.putPage 1)
        (migrateDeviceCoherentPage onePageHost
          { coherentEnv with dpage := none } 1 onePageKernel
          noPagesClient).2 := by
  have free : (onePageKernel.frame 1).locked = false := by decide
  have movable : Movable onePageHost (onePageKernel.putPage 1)
      (onePageKernel.putPage 1) none 1 :=
    ⟨rfl, fun _ => rfl, fun _ _ => rfl, by decide⟩
  refine ⟨?_, ?_⟩
  · rcases migrateDeviceCoherentPage_fails onePageKernel_sound free
      coherentEnv noPagesClient with ⟨-, -, bad⟩ | ⟨stuck, -⟩
    · exact bad
    · exact absurd ⟨Option.some_ne_none _, movable⟩ stuck
  · rcases migrateDeviceCoherentPage_fails onePageKernel_sound free
      { coherentEnv with dpage := none } noPagesClient with
      ⟨found, -⟩ | ⟨-, busy, restored⟩
    · exact absurd rfl found
    · exact ⟨busy, restored⟩

end Rshm.Mm
