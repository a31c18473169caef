import Rshm.Mm.Collect

/-!
# What the walk has collected

Every page in the source array is locked, held by one reference, and replaced
by a migration entry at its address; every other page is as before; and the
word of a slot says exactly what the entry at its address was.
-/

namespace Rshm.Mm

open RangeLoop

variable {host : Host} {args : CollectArgs} {base kernel : Kernel}
  {pfn other : Pfn} {walk : Collect} {view : Nat → Kernel}

namespace Kernel

@[simp] theorem getPage_table (kernel : Kernel) (pfn : Pfn) :
    (kernel.getPage pfn).table = kernel.table := rfl

theorem getPage_frame (kernel : Kernel) (pfn other : Pfn) :
    (kernel.getPage pfn).frame other =
      { kernel.frame other with
        count := (kernel.frame other).count +
          if other = pfn then 1 else 0 } := by
  unfold getPage setFrame
  by_cases same : other = pfn
  · subst same
    simp
  · simp [same]

theorem getPage_putPage (kernel : Kernel) (pfn : Pfn) :
    (kernel.getPage pfn).putPage pfn = kernel := by
  unfold getPage putPage setFrame
  simp

/-- The lock and the reference of a page that is let go again. -/
theorem lockPage_unlockPage (free : (kernel.frame pfn).locked = false) :
    (((kernel.getPage pfn).lockPage pfn).unlockPage pfn).putPage pfn =
      kernel := by
  unfold getPage putPage lockPage unlockPage setFrame
  simp [← free]

theorem lockPage_splitHugePage (free : (kernel.frame pfn).locked = false) :
    ((((kernel.getPage pfn).lockPage pfn).splitHugePage host
      pfn).unlockPage pfn).putPage pfn = kernel.splitHugePage host pfn := by
  have frames (other : Pfn) :
      (((((kernel.getPage pfn).lockPage pfn).splitHugePage host
        pfn).unlockPage pfn).putPage pfn).frame other =
          (kernel.splitHugePage host pfn).frame other := by
    unfold getPage putPage lockPage unlockPage splitHugePage splitting setFrame
    by_cases same : other = pfn
    · subst same
      simp [← free]
    · simp [same]
  exact congrArg (Kernel.mk kernel.table) (funext frames)

/-- The kernel with references that nothing will drop. -/
def losing (lost : Pfn → Nat) (kernel : Kernel) : Kernel :=
  { kernel with
    frame := fun pfn =>
      { kernel.frame pfn with
        count := (kernel.frame pfn).count + lost pfn } }

/-- The kernel as a walk leaves it but for the pages it takes: huge pages are
split, and references are lost. -/
def settled (host : Host) (split : Pfn → Option Nat) (lost : Pfn → Nat)
    (kernel : Kernel) : Kernel :=
  (kernel.splitting host fun head => (split head).isSome).losing lost

/-- The kernel with the huge pages split that are split when the walk comes
to slot `i`. -/
def seen (host : Host) (split : Pfn → Option Nat) (i : Nat)
    (kernel : Kernel) : Kernel :=
  kernel.splitting host fun head =>
    (split head).any fun slot => decide (slot ≤ i)

@[simp] theorem settled_table (host : Host) (split : Pfn → Option Nat)
    (lost : Pfn → Nat) (kernel : Kernel) :
    (kernel.settled host split lost).table = kernel.table := rfl

theorem settled_none (host : Host) (kernel : Kernel) :
    kernel.settled host (fun _ => none) (fun _ => 0) = kernel := by
  unfold settled losing splitting
  simp

theorem settled_lose (host : Host) (split : Pfn → Option Nat)
    (lost : Pfn → Nat) (kernel : Kernel) (pfn : Pfn) :
    kernel.settled host split (Function.update lost pfn (lost pfn + 1)) =
      (kernel.settled host split lost).getPage pfn := by
  have frames (other : Pfn) :
      (kernel.settled host split (Function.update lost pfn
        (lost pfn + 1))).frame other =
          ((kernel.settled host split lost).getPage pfn).frame other := by
    rw [getPage_frame]
    unfold settled losing
    by_cases same : other = pfn
    · subst same
      simp [Int.add_assoc]
    · simp [same]
  exact congrArg (Kernel.mk kernel.table) (funext frames)

theorem settled_split (host : Host) (split : Pfn → Option Nat)
    (lost : Pfn → Nat) (kernel : Kernel) (page : Pfn) (slot : Nat) :
    kernel.settled host (Function.update split page (some slot)) lost =
      (kernel.settled host split lost).splitHugePage host page := by
  have frames (pfn : Pfn) :
      (kernel.settled host (Function.update split page (some slot))
        lost).frame pfn =
          ((kernel.settled host split lost).splitHugePage host page).frame
            pfn := by
    unfold settled losing splitHugePage splitting
    cases whole : (host.kind pfn).head with
    | none => simp [whole]
    | some head =>
        by_cases same : head = page
        · subst same
          simp [whole]
        · simp [whole, same]
  exact congrArg (Kernel.mk kernel.table) (funext frames)

theorem Sound.settled (sound : kernel.Sound host)
    (split : Pfn → Option Nat) (lost : Pfn → Nat) :
    (kernel.settled host split lost).Sound host :=
  ⟨sound.nodup, sound.mapped, sound.moving, sound.mapcount, sound.proper,
    sound.exclusive⟩

end Kernel

/-- References that come and huge pages that are split, before a migration
and during it. -/
theorem Held.reframe {refs : Int} {lru : Bool} {base' kernel' : Kernel}
    (held : Held host base kernel pfn refs lru)
    (table : base'.table = base.table)
    (table' : kernel'.table = kernel.table) {more : Int} {single : Bool}
    (frame : base'.frame pfn =
      { base.frame pfn with
        count := (base.frame pfn).count + more
        compound := (base.frame pfn).compound && single })
    (frame' : kernel'.frame pfn =
      { kernel.frame pfn with
        count := (kernel.frame pfn).count + more
        compound := (kernel.frame pfn).compound && single }) :
    Held host base' kernel' pfn refs lru := by
  have unmapped : kernel'.unmapped host pfn = kernel.unmapped host pfn := by
    unfold Kernel.unmapped
    rw [table']
  constructor
  · rw [frame]
    exact held.free
  · rw [frame']
    exact held.locked
  · rw [frame']
    exact held.lru
  · rw [frame, frame', held.compound]
  · rw [frame, frame']
    exact held.dirty
  · rw [frame, frame', unmapped, held.count]
    dsimp only
    omega
  · rw [frame, frame', unmapped]
    exact held.mapcount
  · rw [frame]
    refine Iff.trans ?_ held.exclusive
    unfold Exclusively
    rw [frame', table']
  · intro place maps
    rw [table] at maps
    unfold Converted
    rw [table, table', frame']
    exact held.entries place maps

theorem Intact.reframe {base' kernel' : Kernel}
    (intact : Intact base kernel pfn) (table : base'.table = base.table)
    (table' : kernel'.table = kernel.table) {more : Int} {single : Bool}
    (frame : base'.frame pfn =
      { base.frame pfn with
        count := (base.frame pfn).count + more
        compound := (base.frame pfn).compound && single })
    (frame' : kernel'.frame pfn =
      { kernel.frame pfn with
        count := (kernel.frame pfn).count + more
        compound := (kernel.frame pfn).compound && single }) :
    Intact base' kernel' pfn := by
  refine ⟨?_, ?_, ?_⟩
  · rw [frame, frame', intact.frame]
  · rw [frame, frame']
    exact intact.dirty
  · rw [table, table']
    exact intact.entries

theorem collectSource_page {pte : Pte} {write : Bool}
    (source : collectSource host args pte = .page pfn write) :
    pte.maps = some pfn ∧ pte.isWrite = write := by
  cases pte with
  | none =>
      rw [collectSource] at source
      split at source <;> cases source
  | swap => cases source
  | migration _ _ _ => cases source
  | devicePrivate mapped writable bits =>
      rw [collectSource] at source
      split at source
      · cases source
      · cases source
        exact ⟨rfl, rfl⟩
  | present mapped writable special bits =>
      rw [collectSource] at source
      split at source
      · cases source
      · split at source
        · cases source
        · next plain =>
          split at source
          · cases source
          · split at source
            · cases source
            · cases source
              refine ⟨?_, rfl⟩
              rw [Pte.maps, if_neg plain]

/-- What keeps a page from being collected, but for an earlier slot. -/
structure Collectable (host : Host) (base : Kernel) (pfn : Pfn) : Prop where
  mapping : (host.kind pfn).hasMapping = true
  single : (base.frame pfn).compound = false
  free : (base.frame pfn).locked = false
  shared : (base.exclusive host pfn && host.pinned pfn) = false

/-- The slot has the page of its entry: it is the first to have it, and
nothing else stands against it. -/
def Takes (host : Host) (base : Kernel) (src : Nat → UInt64) (i : Nat)
    (pfn : Pfn) : Prop :=
  Collectable host base pfn ∧ ∀ j, j < i → pageOf (src j) ≠ some pfn

/-- The word of a slot, by how the walk has reached it. -/
def SlotExact (host : Host) (args : CollectArgs) (base : Kernel)
    (src : Nat → UInt64) (i : Nat) : PmdEnd → Prop
  | .skip => src i = 0
  | .hole => args.anonymous = true ∧ src i = migratePfnMigrate
  | .walk =>
      match collectSource host args (base.table (args.mm, args.first + i)) with
      | .skip => src i = 0
      | .populate => src i = migratePfnMigrate
      | .page pfn write =>
          Takes host base src i pfn ∧ src i = sourceWord pfn write ∨
            ¬Takes host base src i pfn ∧ src i = 0

/-- The walk comes to an entry of the page, which the arguments select. -/
def Finds (host : Host) (args : CollectArgs) (base : Kernel)
    (ends : Nat → PmdEnd) (i : Nat) (pfn : Pfn) (write : Bool) : Prop :=
  ends i = .walk ∧
    collectSource host args (base.table (args.mm, args.first + i)) =
      .page pfn write

/-- The walk after some of its slots. -/
structure Collected (host : Host) (args : CollectArgs) (base : Kernel)
    (walk : Collect) : Prop where
  names : base.SameNames walk.kernel
  rest : ∀ place, (∀ i pfn, i < walk.npages →
      pageOf (walk.src i) = some pfn → place ≠ (args.mm, args.first + i)) →
    walk.kernel.table place = base.table place
  held : ∀ i, i < walk.npages → ∀ pfn, pageOf (walk.src i) = some pfn →
    Held host base walk.kernel pfn 1 (base.frame pfn).lru ∧
      (walk.kernel.table (args.mm, args.first + i)).moves = some pfn
  intact : ∀ pfn, (∀ i, i < walk.npages → pageOf (walk.src i) ≠ some pfn) →
    Intact base walk.kernel pfn
  distinct : ∀ i j pfn, i < walk.npages → j < walk.npages →
    pageOf (walk.src i) = some pfn → pageOf (walk.src j) = some pfn → i = j
  dst : ∀ i, i < walk.npages → walk.dst i = 0

/-- The words of the walk, in the kernels that it finds at its slots. -/
def Worded (host : Host) (args : CollectArgs) (view : Nat → Kernel)
    (walk : Collect) : Prop :=
  ∀ i, i < walk.npages →
    SlotExact host args (view i) walk.src i (walk.ends i)

/-- The counts of the walk are those of its words. -/
def Counted (walk : Collect) : Prop :=
  walk.cpages = Tally.upTo (fun i => migrating (walk.src i)) walk.npages

/-- A slot with a page has the word of the entry at its address. -/
theorem Worded.finds (worded : Worded host args view walk) {i : Nat}
    (inside : i < walk.npages) (page : pageOf (walk.src i) = some pfn) :
    ∃ write, Finds host args (view i) walk.ends i pfn write ∧
      Takes host (view i) walk.src i pfn ∧
      walk.src i = sourceWord pfn write := by
  have word := worded i inside
  cases reached : walk.ends i with
  | skip =>
      rw [reached] at word
      have word : walk.src i = 0 := word
      rw [word] at page
      cases page
  | hole =>
      rw [reached] at word
      rw [word.2] at page
      cases page
  | walk =>
      rw [reached, SlotExact] at word
      cases source : collectSource host args
          ((view i).table (args.mm, args.first + i)) with
      | skip =>
          rw [source] at word
          have word : walk.src i = 0 := word
          rw [word] at page
          cases page
      | populate =>
          rw [source] at word
          have word : walk.src i = migratePfnMigrate := word
          rw [word] at page
          cases page
      | page found write =>
          rw [source] at word
          rcases word with ⟨takes, word⟩ | ⟨-, word⟩
          · rw [word, pageOf_sourceWord] at page
            cases page
            exact ⟨write, ⟨reached, source⟩, takes, word⟩
          · rw [word] at page
            cases page

theorem push_src_old {reached : PmdEnd} {mpfn : UInt64} {i : Nat}
    (old : i < walk.npages) :
    (walk.push reached mpfn).src i = walk.src i :=
  Function.update_of_ne (Nat.ne_of_lt old) ..

theorem push_src_new (walk : Collect) (reached : PmdEnd) (mpfn : UInt64) :
    (walk.push reached mpfn).src walk.npages = mpfn :=
  Function.update_self ..

theorem takes_congr {src src' : Nat → UInt64} {i : Nat}
    (same : ∀ j, j < i → src' j = src j) :
    Takes host base src' i pfn ↔ Takes host base src i pfn := by
  unfold Takes
  apply and_congr Iff.rfl
  constructor
  · intro first j before
    rw [← same j before]
    exact first j before
  · intro first j before
    rw [same j before]
    exact first j before

theorem slotExact_congr {src src' : Nat → UInt64} {i : Nat}
    (same : ∀ j, j ≤ i → src' j = src j) (reached : PmdEnd) :
    SlotExact host args base src' i reached ↔
      SlotExact host args base src i reached := by
  have here := same i (Nat.le_refl i)
  have earlier : ∀ pfn, Takes host base src' i pfn ↔
      Takes host base src i pfn := fun pfn =>
    takes_congr fun j before => same j (Nat.le_of_lt before)
  unfold SlotExact
  simp only [here, earlier]

theorem Worded.push (worded : Worded host args view walk)
    {reached : PmdEnd} {mpfn : UInt64}
    (slot : SlotExact host args (view walk.npages)
      (walk.push reached mpfn).src walk.npages reached) :
    Worded host args view (walk.push reached mpfn) := by
  intro i inside
  by_cases new : i = walk.npages
  · subst new
    have ends : (walk.push reached mpfn).ends walk.npages = reached :=
      Function.update_self ..
    rw [ends]
    exact slot
  · have old : i < walk.npages :=
      Nat.lt_of_le_of_ne (Nat.le_of_lt_succ inside) new
    have ends : (walk.push reached mpfn).ends i = walk.ends i :=
      Function.update_of_ne new ..
    rw [ends, slotExact_congr fun j before => push_src_old (by omega)]
    exact worded i old

theorem dst_push (dst : ∀ i, i < walk.npages → walk.dst i = 0)
    (reached : PmdEnd) (mpfn : UInt64) :
    ∀ i, i < (walk.push reached mpfn).npages →
      (walk.push reached mpfn).dst i = 0 := by
  intro i inside
  by_cases new : i = walk.npages
  · subst new
    exact Function.update_self ..
  · have same : (walk.push reached mpfn).dst i = walk.dst i :=
      Function.update_of_ne new ..
    rw [same]
    exact dst i (Nat.lt_of_le_of_ne (Nat.le_of_lt_succ inside) new)

theorem Collected.push (collected : Collected host args base walk)
    {reached : PmdEnd} {mpfn : UInt64} (pageless : pageOf mpfn = none) :
    Collected host args base (walk.push reached mpfn) := by
  have older {i : Nat} {pfn : Pfn} (inside : i < walk.npages + 1)
      (page : pageOf ((walk.push reached mpfn).src i) = some pfn) :
      i < walk.npages ∧ pageOf (walk.src i) = some pfn := by
    by_cases new : i = walk.npages
    · subst new
      rw [push_src_new, pageless] at page
      cases page
    · have old : i < walk.npages := by omega
      rw [push_src_old old] at page
      exact ⟨old, page⟩
  constructor
  · exact collected.names
  · intro place rest
    apply collected.rest place
    intro i pfn old page
    apply rest i pfn (Nat.lt_succ_of_lt old)
    rw [push_src_old old]
    exact page
  · intro i inside pfn page
    obtain ⟨old, page⟩ := older inside page
    exact collected.held i old pfn page
  · intro pfn absent
    apply collected.intact pfn
    intro i old page
    apply absent i (Nat.lt_succ_of_lt old)
    rw [push_src_old old]
    exact page
  · intro i j pfn inside inside' page page'
    obtain ⟨old, page⟩ := older inside page
    obtain ⟨old', page'⟩ := older inside' page'
    exact collected.distinct i j pfn old old' page page'
  · exact dst_push collected.dst reached mpfn

theorem Collected.countPage (collected : Collected host args base walk) :
    Collected host args base walk.countPage :=
  ⟨collected.names, collected.rest, collected.held, collected.intact,
    collected.distinct, collected.dst⟩

theorem Collected.take (collected : Collected host args base walk)
    (sound : base.Sound host) {write : Bool}
    (source : collectSource host args
      (base.table (args.mm, args.first + walk.npages)) = .page pfn write)
    (free : (base.frame pfn).locked = false)
    (first : ∀ i, i < walk.npages → pageOf (walk.src i) ≠ some pfn) :
    Collected host args base
      ({ walk with
        kernel := ((walk.kernel.getPage pfn).lockPage pfn).unmapPte host pfn
          (args.mm, args.first + walk.npages) }.push .walk
            (sourceWord pfn write)) := by
  have unvisited : walk.kernel.table (args.mm, args.first + walk.npages) =
      base.table (args.mm, args.first + walk.npages) := by
    apply collected.rest
    intro i _ old _ same
    have equal := (Prod.mk.inj same).2
    omega
  have maps : (((walk.kernel.getPage pfn).lockPage pfn).table
      (args.mm, args.first + walk.npages)).maps = some pfn := by
    have same : ((walk.kernel.getPage pfn).lockPage pfn).table =
        walk.kernel.table := rfl
    rw [same, unvisited]
    exact (collectSource_page source).1
  have touched : walk.kernel.Touches pfn
      ((walk.kernel.getPage pfn).lockPage pfn) :=
    (Kernel.Touches.setFrame _ pfn _).trans (.setFrame _ pfn _)
  have touches : walk.kernel.Touches pfn
      (((walk.kernel.getPage pfn).lockPage pfn).unmapPte host pfn
        (args.mm, args.first + walk.npages)) :=
    touched.trans (.unmapPte maps)
  have taken := ((collected.intact pfn first).lockPage sound collected.names
    free).unmapPte sound (collected.names.touches touched) maps
  let after : Collect := { walk with
    kernel := ((walk.kernel.getPage pfn).lockPage pfn).unmapPte host pfn
      (args.mm, args.first + walk.npages) }
  have cases {i : Nat} {found : Pfn} (inside : i < walk.npages + 1)
      (page : pageOf ((after.push .walk (sourceWord pfn write)).src i) =
        some found) :
      i = walk.npages ∧ found = pfn ∨
        i < walk.npages ∧ found ≠ pfn ∧ pageOf (walk.src i) = some found := by
    by_cases new : i = walk.npages
    · subst new
      have word := push_src_new after .walk (sourceWord pfn write)
      rw [word, pageOf_sourceWord] at page
      exact .inl ⟨rfl, (Option.some.inj page).symm⟩
    · have old : i < walk.npages := by omega
      have word : (after.push .walk (sourceWord pfn write)).src i =
          walk.src i := push_src_old old
      rw [word] at page
      refine .inr ⟨old, ?_, page⟩
      rintro rfl
      exact first i old page
  constructor
  · exact collected.names.touches touches
  · intro place rest
    have here := rest walk.npages pfn (Nat.lt_succ_self _)
      (by rw [push_src_new, pageOf_sourceWord])
    have earlier : walk.kernel.table place = base.table place := by
      apply collected.rest place
      intro i found old page
      have word : (after.push .walk (sourceWord pfn write)).src i =
          walk.src i := push_src_old old
      exact rest i found (Nat.lt_succ_of_lt old)
        ((congrArg pageOf word).trans page)
    rw [← earlier]
    exact Function.update_of_ne here ..
  · intro i inside found page
    rcases cases inside page with ⟨rfl, rfl⟩ | ⟨old, different, page⟩
    · refine ⟨taken, ?_⟩
      have becomes := Pte.toMigration_eq maps
        (((walk.kernel.getPage found).lockPage found).exclusive host found)
      have entered : (((walk.kernel.getPage found).lockPage found).unmapPte
          host found (args.mm, args.first + walk.npages)).table
            (args.mm, args.first + walk.npages) = _ :=
        Function.update_self ..
      have moved : (((walk.kernel.getPage found).lockPage found).unmapPte
          host found (args.mm, args.first + walk.npages)).table
            (args.mm, args.first + walk.npages) =
          .migration found _ _ := entered.trans becomes
      exact congrArg Pte.moves moved
    · obtain ⟨held, moves⟩ := collected.held i old found page
      refine ⟨held.touches touches different.symm, ?_⟩
      have same := (touches.spares different.symm).same _
        (.inl (Pte.names_of_moves moves))
      exact (congrArg Pte.moves same).trans moves
  · intro found absent
    have different : found ≠ pfn := by
      rintro rfl
      apply absent walk.npages (Nat.lt_succ_self _)
      rw [push_src_new, pageOf_sourceWord]
    refine (collected.intact found ?_).touches touches different.symm
    intro i old page
    have word : (after.push .walk (sourceWord pfn write)).src i =
        walk.src i := push_src_old old
    exact absent i (Nat.lt_succ_of_lt old)
      ((congrArg pageOf word).trans page)
  · intro i j found inside inside' page page'
    rcases cases inside page with ⟨rfl, rfl⟩ | ⟨old, different, page⟩
    · rcases cases inside' page' with ⟨rfl, -⟩ | ⟨-, different, -⟩
      · rfl
      · exact absurd rfl different
    · rcases cases inside' page' with ⟨-, same⟩ | ⟨old', -, page'⟩
      · exact absurd same different
      · exact collected.distinct i j found old old' page page'
  · exact dst_push collected.dst .walk (sourceWord pfn write)

/-- Whether the lock of a page is taken when the walk comes to it. -/
theorem Collected.locked_iff (collected : Collected host args base walk) :
    (walk.kernel.frame pfn).locked = true ↔
      (base.frame pfn).locked = true ∨
        ∃ i, i < walk.npages ∧ pageOf (walk.src i) = some pfn := by
  by_cases taken : ∃ i, i < walk.npages ∧ pageOf (walk.src i) = some pfn
  · obtain ⟨i, inside, page⟩ := taken
    obtain ⟨held, -⟩ := collected.held i inside pfn page
    exact ⟨fun _ => .inr ⟨i, inside, page⟩, fun _ => held.locked⟩
  · have intact := collected.intact pfn fun i inside page =>
      taken ⟨i, inside, page⟩
    rw [intact.frame]
    exact ⟨.inl, fun either => either.resolve_right taken⟩

theorem Collected.compound (collected : Collected host args base walk) :
    (walk.kernel.frame pfn).compound = (base.frame pfn).compound := by
  by_cases taken : ∃ i, i < walk.npages ∧ pageOf (walk.src i) = some pfn
  · obtain ⟨i, inside, page⟩ := taken
    exact (collected.held i inside pfn page).1.compound
  · rw [(collected.intact pfn fun i inside page =>
      taken ⟨i, inside, page⟩).frame]

/-- The walk sees the kernel, at its next slot, as it is without the pages it
has taken. -/
structure Seen (host : Host) (base view : Kernel) : Prop where
  table : view.table = base.table
  collectable : ∀ pfn, Collectable host view pfn ↔ Collectable host base pfn

theorem Collected.collectPte (collected : Collected host args base walk)
    (sound : base.Sound host) (worded : Worded host args view walk)
    (seen : Seen host base (view walk.npages)) :
    Collected host args base
        (collectPte host args (args.first + walk.npages) walk) ∧
      Worded host args view
        (collectPte host args (args.first + walk.npages) walk) := by
  have unvisited : walk.kernel.table (args.mm, args.first + walk.npages) =
      base.table (args.mm, args.first + walk.npages) := by
    apply collected.rest
    intro i _ old _ same
    have equal := (Prod.mk.inj same).2
    omega
  unfold Rshm.Mm.collectPte
  dsimp only
  rw [unvisited]
  cases source : collectSource host args
      (base.table (args.mm, args.first + walk.npages)) with
  | skip =>
      refine ⟨collected.push pageOf_zero, worded.push ?_⟩
      unfold SlotExact
      rw [seen.table, source]
      exact push_src_new ..
  | populate =>
      have counted : Worded host args view walk.countPage := worded
      refine ⟨collected.countPage.push pageOf_migratePfnMigrate,
        counted.push ?_⟩
      unfold SlotExact
      have same : walk.countPage.npages = walk.npages := rfl
      rw [same, seen.table, source]
      exact push_src_new walk.countPage ..
  | page pfn write =>
      -- The slot stays empty unless the page is taken.
      have empty (refused : ¬Takes host (view walk.npages) walk.src
            walk.npages pfn) :
          Collected host args base (walk.push .walk 0) ∧
            Worded host args view (walk.push .walk 0) := by
        refine ⟨collected.push pageOf_zero, worded.push ?_⟩
        unfold SlotExact
        rw [seen.table, source]
        refine .inr ⟨?_, push_src_new ..⟩
        rw [takes_congr fun j before => push_src_old before]
        exact refused
      dsimp only
      split
      · next unfit =>
        apply empty
        rintro ⟨collectable, -⟩
        have collectable := (seen.collectable pfn).mp collectable
        rw [collected.compound] at unfit
        simp [collectable.mapping, collectable.single] at unfit
      · next fit =>
        have lockable : (((walk.kernel.getPage pfn).frame pfn).locked = true) ↔
            (walk.kernel.frame pfn).locked = true := by
          rw [Kernel.getPage_frame]
        unfold collectPage
        dsimp only
        split
        · next locked =>
          rw [lockable, collected.locked_iff] at locked
          rw [Kernel.getPage_putPage]
          apply empty
          rintro ⟨collectable, first⟩
          have collectable := (seen.collectable pfn).mp collectable
          rcases locked with before | ⟨i, inside, page⟩
          · rw [collectable.free] at before
            cases before
          · exact first i inside page
        · next unlocked =>
          rw [lockable, collected.locked_iff, not_or, not_exists] at unlocked
          obtain ⟨free, first⟩ := unlocked
          have first : ∀ i, i < walk.npages → pageOf (walk.src i) ≠ some pfn :=
            fun i inside page => first i ⟨inside, page⟩
          have intact := collected.intact pfn first
          have shared : ((walk.kernel.getPage pfn).lockPage pfn).exclusive host
              pfn = base.exclusive host pfn := by
            simp only [Kernel.exclusive, Kernel.lockPage, Kernel.getPage,
              Kernel.setFrame, Function.update_self]
            rw [intact.frame]
          rw [shared]
          split
          · next pinned =>
            have released : (walk.kernel.frame pfn).locked = false := by
              rw [intact.frame]
              exact Bool.eq_false_iff.mpr free
            rw [Kernel.lockPage_unlockPage released]
            apply empty
            rintro ⟨collectable, -⟩
            have collectable := (seen.collectable pfn).mp collectable
            rw [collectable.shared] at pinned
            cases pinned
          · next shareable =>
            rw [collected.compound] at fit
            simp only [Bool.or_eq_true, Bool.not_eq_true', not_or,
              Bool.not_eq_false, Bool.not_eq_true] at fit
            have takes : Takes host (view walk.npages) walk.src walk.npages
                pfn := by
              refine ⟨(seen.collectable pfn).mpr ?_, first⟩
              exact ⟨fit.1, fit.2, Bool.eq_false_iff.mpr free,
                Bool.eq_false_iff.mpr shareable⟩
            refine ⟨(collected.take sound source
              (Bool.eq_false_iff.mpr free) first).countPage, ?_⟩
            have taking : Worded host args view
                { walk with
                  kernel := ((walk.kernel.getPage pfn).lockPage
                    pfn).unmapPte host pfn
                      (args.mm, args.first + walk.npages)
                  cpages := walk.cpages + 1 } := worded
            refine taking.push ?_
            unfold SlotExact
            rw [seen.table, source]
            refine .inl ⟨?_, push_src_new ..⟩
            refine (takes_congr ?_).mpr takes
            intro j before
            exact push_src_old before

/-- What a loop of the walk keeps, when it is at the address of its next
slot. -/
theorem forEach_walk (body : Nat → Collect → Collect)
    (holds : Collect → Prop)
    (pass : ∀ walk, holds walk →
      holds (body (args.first + walk.npages) walk) ∧
        (body (args.first + walk.npages) walk).npages = walk.npages + 1)
    (count : Nat) (walk : Collect) (start : holds walk) :
    holds (forEach body count (args.first + walk.npages) walk) ∧
      (forEach body count (args.first + walk.npages) walk).npages =
        walk.npages + count := by
  have loop := forEach_induction
    (fun pfn (after : Collect) => holds after ∧
      args.first + after.npages = pfn)
    body count (args.first + walk.npages) walk ⟨start, rfl⟩ (by
      intro pfn between _ _ before
      obtain ⟨held, here⟩ := before
      subst here
      obtain ⟨kept, more⟩ := pass between held
      exact ⟨kept, by rw [more]; omega⟩)
  exact ⟨loop.1, by have here := loop.2; omega⟩

theorem Counted.push (counted : Counted walk) {mpfn : UInt64}
    (still : migrating mpfn = false) (reached : PmdEnd) :
    Counted (walk.push reached mpfn) := by
  have older : Tally.upTo (fun i => migrating ((walk.push reached mpfn).src i))
      walk.npages = Tally.upTo (fun i => migrating (walk.src i)) walk.npages :=
    Tally.upTo_congr fun i old => by rw [push_src_old old]
  have more : (walk.push reached mpfn).npages = walk.npages + 1 := rfl
  rw [Counted, more, Tally.upTo_succ, older, push_src_new, still]
  exact counted

theorem Counted.countPage (counted : Counted walk) {mpfn : UInt64}
    (moving : migrating mpfn = true) (reached : PmdEnd) :
    Counted (walk.countPage.push reached mpfn) := by
  have older : Tally.upTo
        (fun i => migrating ((walk.countPage.push reached mpfn).src i))
        walk.npages =
      Tally.upTo (fun i => migrating (walk.src i)) walk.npages :=
    Tally.upTo_congr fun i old => by
      have same : (walk.countPage.push reached mpfn).src i = walk.src i :=
        push_src_old (show i < walk.countPage.npages from old)
      rw [same]
  have new : (walk.countPage.push reached mpfn).src walk.npages = mpfn :=
    push_src_new walk.countPage reached mpfn
  have more : (walk.countPage.push reached mpfn).npages = walk.npages + 1 :=
    rfl
  have one : (walk.countPage.push reached mpfn).cpages = walk.cpages + 1 := rfl
  rw [Counted, more, Tally.upTo_succ, older, new, moving, one, counted]
  rfl

/-- The kernel that the walk started in, as it leaves it. -/
def Collect.settled (host : Host) (start : Kernel) (walk : Collect) : Kernel :=
  start.settled host walk.split walk.lost

/-- The huge pages that the walk has split. -/
def Splits (host : Host) (start : Kernel) (walk : Collect) : Prop :=
  ∀ page slot, walk.split page = some slot →
    slot ≤ walk.npages ∧ start.isHuge host page = true ∧
      (start.frame page).locked = false

/-- The walk so far, from the kernel it started in. -/
structure Walked (host : Host) (args : CollectArgs) (start : Kernel)
    (walk : Collect) : Prop where
  collected : Collected host args (walk.settled host start) walk
  worded : Worded host args (start.seen host walk.split) walk
  splits : Splits host start walk
  counted : Counted walk

/-- A pass of a loop that fills the next slot. -/
structure Pass (host : Host) (args : CollectArgs) (start : Kernel)
    (walk next : Collect) : Prop where
  walked : Walked host args start next
  npages : next.npages = walk.npages + 1

variable {start : Kernel}

theorem Kernel.seen_frame (host : Host) (split : Pfn → Option Nat) (i : Nat)
    (kernel : Kernel) (pfn : Pfn) :
    (kernel.seen host split i).frame pfn =
      { kernel.frame pfn with
        compound := (kernel.frame pfn).compound &&
          !(host.kind pfn).head.any fun head =>
            (split head).any fun slot => decide (slot ≤ i) } := rfl

theorem Kernel.settled_frame (host : Host) (split : Pfn → Option Nat)
    (lost : Pfn → Nat) (kernel : Kernel) (pfn : Pfn) :
    (kernel.settled host split lost).frame pfn =
      { kernel.frame pfn with
        count := (kernel.frame pfn).count + lost pfn
        compound := (kernel.frame pfn).compound &&
          !(host.kind pfn).head.any fun head => (split head).isSome } := rfl

theorem Collect.settled_frame (host : Host) (start : Kernel) (walk : Collect)
    (pfn : Pfn) :
    (walk.settled host start).frame pfn =
      { start.frame pfn with
        count := (start.frame pfn).count + walk.lost pfn
        compound := (start.frame pfn).compound &&
          !(host.kind pfn).head.any fun head => (walk.split head).isSome } :=
  rfl

theorem Splits.seen (splits : Splits host start walk) :
    Seen host (walk.settled host start)
      (start.seen host walk.split walk.npages) := by
  have compound (pfn : Pfn) :
      ((start.seen host walk.split walk.npages).frame pfn).compound =
        ((walk.settled host start).frame pfn).compound := by
    rw [Kernel.seen_frame, Collect.settled_frame]
    cases whole : (host.kind pfn).head with
    | none => rfl
    | some head =>
        cases slot : walk.split head with
        | none => simp [slot]
        | some slot' => simp [slot, (splits head slot' slot).1]
  refine ⟨rfl, ?_⟩
  intro pfn
  constructor
  · rintro ⟨mapping, single, free, shared⟩
    rw [compound] at single
    exact ⟨mapping, single, free, shared⟩
  · rintro ⟨mapping, single, free, shared⟩
    rw [← compound] at single
    exact ⟨mapping, single, free, shared⟩

theorem Kernel.seen_single {split : Pfn → Option Nat} {lost : Pfn → Nat}
    {i : Nat}
    (single : ((start.seen host split i).frame pfn).compound = false) :
    ((start.settled host split lost).frame pfn).compound = false := by
  rw [Kernel.seen_frame] at single
  rw [Kernel.settled_frame]
  cases whole : (host.kind pfn).head with
  | none =>
      rw [whole] at single
      exact single
  | some head =>
      rw [whole] at single
      cases slot : split head with
      | none => simpa [slot] using single
      | some slot' => simp [slot]

theorem Walked.single (walked : Walked host args start walk) {i : Nat}
    (inside : i < walk.npages) (page : pageOf (walk.src i) = some pfn) :
    ((walk.settled host start).frame pfn).compound = false := by
  obtain ⟨write, -, takes, -⟩ := walked.worded.finds inside page
  exact Kernel.seen_single takes.1.single

theorem Walked.isHuge_iff (walked : Walked host args start walk)
    (page : Pfn) :
    walk.kernel.isHuge host page = true ↔
      start.isHuge host page = true ∧ walk.split page = none := by
  unfold Kernel.isHuge
  rw [walked.collected.compound, Collect.settled_frame]
  simp only [Bool.and_eq_true, decide_eq_true_iff, and_assoc]
  apply and_congr_right
  intro first
  rw [first]
  apply and_congr Iff.rfl
  cases slot : walk.split page with
  | none => simp [slot]
  | some slot' => simp [slot]

theorem Walked.isHuge_locked (walked : Walked host args start walk)
    {page : Pfn} (huge : walk.kernel.isHuge host page = true) :
    (walk.kernel.frame page).locked = (start.frame page).locked := by
  have compound : ((walk.settled host start).frame page).compound = true := by
    unfold Kernel.isHuge at huge
    rw [walked.collected.compound, Bool.and_eq_true] at huge
    exact huge.2
  rw [Bool.eq_iff_iff, walked.collected.locked_iff]
  constructor
  · rintro (locked | ⟨i, inside, found⟩)
    · exact locked
    · rw [walked.single inside found] at compound
      cases compound
  · exact .inl

theorem collectPage_effect (place : Place) (write : Bool) (walk : Collect)
    (counted : Counted walk) :
    Counted (collectPage host place pfn write walk) ∧
      (collectPage host place pfn write walk).npages = walk.npages + 1 ∧
      (collectPage host place pfn write walk).lost = walk.lost ∧
      (collectPage host place pfn write walk).split = walk.split := by
  unfold collectPage
  dsimp only
  split
  · refine ⟨?_, rfl, rfl, rfl⟩
    exact Counted.push (show Counted { walk with kernel := _ } from counted)
      migrating_zero .walk
  · split
    · refine ⟨?_, rfl, rfl, rfl⟩
      exact Counted.push (show Counted { walk with kernel := _ } from counted)
        migrating_zero .walk
    · refine ⟨?_, rfl, rfl, rfl⟩
      exact Counted.countPage
        (show Counted { walk with kernel := _ } from counted)
        (migrating_sourceWord pfn write) .walk

theorem collectPte_effect (place : Nat) (walk : Collect)
    (counted : Counted walk) :
    Counted (collectPte host args place walk) ∧
      (collectPte host args place walk).npages = walk.npages + 1 ∧
      (collectPte host args place walk).lost = walk.lost ∧
      (collectPte host args place walk).split = walk.split := by
  unfold collectPte
  dsimp only
  split
  · exact ⟨counted.push migrating_zero .walk, rfl, rfl, rfl⟩
  · exact ⟨counted.countPage migrating_migratePfnMigrate .walk, rfl, rfl,
      rfl⟩
  · split
    · exact ⟨counted.push migrating_zero .walk, rfl, rfl, rfl⟩
    · exact collectPage_effect _ _ walk counted

theorem Splits.grow {next : Collect} (splits : Splits host start walk)
    (split : next.split = walk.split)
    (npages : next.npages = walk.npages + 1) : Splits host start next := by
  intro page slot found
  rw [split] at found
  obtain ⟨before, rest⟩ := splits page slot found
  exact ⟨by omega, rest⟩

theorem Walked.collectPte (walked : Walked host args start walk)
    (sound : start.Sound host) :
    Pass host args start walk
      (collectPte host args (args.first + walk.npages) walk) := by
  obtain ⟨counted, more, lost, split⟩ := @collectPte_effect host args
    (args.first + walk.npages) walk walked.counted
  obtain ⟨collected, worded⟩ := walked.collected.collectPte
    (sound.settled walk.split walk.lost) walked.worded walked.splits.seen
  refine ⟨⟨?_, ?_, walked.splits.grow split more, counted⟩, more⟩
  · unfold Collect.settled
    rw [lost, split]
    exact collected
  · rw [split]
    exact worded

theorem Walked.skip (walked : Walked host args start walk) :
    Pass host args start walk (walk.push .skip 0) :=
  ⟨⟨walked.collected.push pageOf_zero, walked.worded.push (push_src_new ..),
    walked.splits.grow rfl rfl,
    walked.counted.push migrating_zero .skip⟩, rfl⟩

theorem Walked.hole (walked : Walked host args start walk)
    (anonymous : args.anonymous = true) :
    Pass host args start walk
      (walk.countPage.push .hole migratePfnMigrate) := by
  have worded : Worded host args (start.seen host walk.split)
      walk.countPage := walked.worded
  refine ⟨⟨?_, ?_, walked.splits.grow rfl rfl, ?_⟩, rfl⟩
  · exact walked.collected.countPage.push pageOf_migratePfnMigrate
  · exact worded.push ⟨anonymous, push_src_new walk.countPage ..⟩
  · exact walked.counted.countPage migrating_migratePfnMigrate .hole

/-- A part of the walk that fills `count` slots. -/
def Fills (host : Host) (args : CollectArgs) (start : Kernel) (count : Nat)
    (walk next : Collect) : Prop :=
  Walked host args start next ∧ next.npages = walk.npages + count

theorem Walked.migrateVmaCollectSkip (walked : Walked host args start walk)
    (count : Nat) :
    Fills host args start count walk
      (migrateVmaCollectSkip count (args.first + walk.npages) walk) := by
  refine forEach_walk _ (Walked host args start) ?_ count walk walked
  intro between walked
  exact ⟨walked.skip.walked, walked.skip.npages⟩

theorem Walked.migrateVmaCollectHole (walked : Walked host args start walk)
    (count : Nat) :
    Fills host args start count walk
      (migrateVmaCollectHole args count (args.first + walk.npages) walk) := by
  unfold Rshm.Mm.migrateVmaCollectHole
  split
  · exact walked.migrateVmaCollectSkip count
  · next anonymous =>
    have anonymous := Bool.eq_true_of_not_eq_false anonymous
    refine forEach_walk _ (Walked host args start) ?_ count walk walked
    intro between walked
    exact ⟨(walked.hole anonymous).walked, (walked.hole anonymous).npages⟩

theorem Walked.collectPtes (walked : Walked host args start walk)
    (sound : start.Sound host) (count : Nat) :
    Fills host args start count walk
      (forEach (Rshm.Mm.collectPte host args) count
        (args.first + walk.npages) walk) := by
  refine forEach_walk _ (Walked host args start) ?_ count walk walked
  intro between walked
  exact ⟨(walked.collectPte sound).walked, (walked.collectPte sound).npages⟩

theorem Collected.reframe {base' : Kernel} {next : Collect}
    (collected : Collected host args base walk)
    (src : next.src = walk.src) (dst : next.dst = walk.dst)
    (npages : next.npages = walk.npages)
    (table : base'.table = base.table)
    (table' : next.kernel.table = walk.kernel.table)
    (frames : ∀ pfn, ∃ (more : Int) (single : Bool),
      base'.frame pfn =
          { base.frame pfn with
            count := (base.frame pfn).count + more
            compound := (base.frame pfn).compound && single } ∧
        next.kernel.frame pfn =
          { walk.kernel.frame pfn with
            count := (walk.kernel.frame pfn).count + more
            compound := (walk.kernel.frame pfn).compound && single }) :
    Collected host args base' next := by
  constructor
  · unfold Kernel.SameNames
    rw [table, table']
    exact collected.names
  · rw [src, npages, table, table']
    exact collected.rest
  · rw [src, npages, table']
    intro i inside pfn found
    obtain ⟨held, moves⟩ := collected.held i inside pfn found
    obtain ⟨more, single, frame, frame'⟩ := frames pfn
    refine ⟨?_, moves⟩
    have lru : (base'.frame pfn).lru = (base.frame pfn).lru := by rw [frame]
    rw [lru]
    exact held.reframe table table' frame frame'
  · rw [src, npages]
    intro pfn absent
    obtain ⟨more, single, frame, frame'⟩ := frames pfn
    exact (collected.intact pfn absent).reframe table table' frame frame'
  · rw [src, npages]
    exact collected.distinct
  · rw [dst, npages]
    exact collected.dst

theorem Walked.lose (walked : Walked host args start walk) (page : Pfn) :
    Walked host args start
      { walk with
        kernel := walk.kernel.getPage page
        lost := Function.update walk.lost page (walk.lost page + 1) } := by
  refine ⟨?_, walked.worded, walked.splits, walked.counted⟩
  unfold Collect.settled
  dsimp only
  rw [Kernel.settled_lose]
  refine walked.collected.reframe rfl rfl rfl rfl rfl ?_
  intro pfn
  refine ⟨if pfn = page then 1 else 0, true, ?_, ?_⟩
  · rw [Kernel.getPage_frame, Bool.and_true]
    rfl
  · rw [Kernel.getPage_frame, Bool.and_true]

theorem Walked.split (walked : Walked host args start walk) {page : Pfn}
    (huge : walk.kernel.isHuge host page = true)
    (free : (walk.kernel.frame page).locked = false) :
    Walked host args start
      { walk with
        kernel := walk.kernel.splitHugePage host page
        split := Function.update walk.split page (some walk.npages) } := by
  obtain ⟨first, unsplit⟩ := (walked.isHuge_iff page).mp huge
  refine ⟨?_, ?_, ?_, walked.counted⟩
  · unfold Collect.settled
    dsimp only
    rw [Kernel.settled_split]
    refine walked.collected.reframe rfl rfl rfl rfl rfl ?_
    intro pfn
    refine ⟨0, !(host.kind pfn).head.any fun head => decide (head = page),
      ?_, ?_⟩
    · rw [Int.add_zero]
      rfl
    · rw [Int.add_zero]
      rfl
  · intro i inside
    have same : (fun head => (Function.update walk.split page
          (some walk.npages) head).any fun slot => decide (slot ≤ i)) =
        fun head => (walk.split head).any fun slot => decide (slot ≤ i) := by
      funext head
      by_cases here : head = page
      · subst here
        rw [Function.update_self, unsplit]
        simpa using inside
      · rw [Function.update_of_ne here]
    have word := walked.worded i inside
    unfold Kernel.seen at word ⊢
    dsimp only
    rw [same]
    exact word
  · intro head slot found
    dsimp only at found
    by_cases here : head = page
    · subst here
      rw [Function.update_self] at found
      cases found
      rw [walked.isHuge_locked huge] at free
      exact ⟨Nat.le_refl _, first, free⟩
    · rw [Function.update_of_ne here] at found
      exact walked.splits head slot found

theorem Walked.collectPmdLook (walked : Walked host args start walk)
    (look : PmdLook) :
    Fills host args start 0 walk (collectPmdLook host look walk).2 := by
  induction look with
  | none => exact ⟨walked, rfl⟩
  | table bad => exact ⟨walked, rfl⟩
  | raced again induction => exact induction
  | hugeZero unstable bad => exact ⟨walked, rfl⟩
  | huge page split gone bad =>
      unfold Rshm.Mm.collectPmdLook
      dsimp only
      split
      · exact ⟨walked, rfl⟩
      · next huge =>
        have huge := Bool.eq_true_of_not_eq_false huge
        split
        · exact ⟨walked.lose page, rfl⟩
        · next unlocked =>
          have free : (walk.kernel.frame page).locked = false := by
            rw [Kernel.getPage_frame] at unlocked
            exact Bool.eq_false_iff.mpr unlocked
          split
          · rw [Kernel.lockPage_splitHugePage free]
            exact ⟨walked.split huge free, rfl⟩
          · rw [Kernel.lockPage_unlockPage free]
            exact ⟨walked, rfl⟩

theorem Walked.collect (walked : Walked host args start walk)
    (sound : start.Sound host) (segment : Segment) :
    Fills host args start segment.count walk
      (segment.collect host args (args.first + walk.npages) walk) := by
  cases segment with
  | hole count => exact walked.migrateVmaCollectHole count
  | pmd count look =>
      obtain ⟨looked, same⟩ := walked.collectPmdLook look
      rw [Segment.collect, migrateVmaCollectPmd, Segment.count]
      cases found : Rshm.Mm.collectPmdLook host look walk with
      | mk reached between =>
          rw [found] at looked same
          rw [Nat.add_zero] at same
          cases reached with
          | hole =>
              have filled := looked.migrateVmaCollectHole count
              unfold Fills at filled ⊢
              rw [same] at filled
              exact filled
          | skip =>
              have filled := looked.migrateVmaCollectSkip count
              unfold Fills at filled ⊢
              rw [same] at filled
              exact filled
          | walk =>
              have filled := looked.collectPtes sound count
              unfold Fills at filled ⊢
              rw [same] at filled
              exact filled

theorem Walked.walkPageRange (walked : Walked host args start walk)
    (sound : start.Sound host) (segments : List Segment) :
    Fills host args start (pagesOf segments) walk
      (walkPageRange host args segments (args.first + walk.npages) walk) := by
  induction segments generalizing walk with
  | nil => exact ⟨walked, rfl⟩
  | cons segment rest induction =>
      obtain ⟨collected, more⟩ := walked.collect sound segment
      obtain ⟨done, all⟩ := induction collected
      rw [more, ← Nat.add_assoc] at done all
      refine ⟨done, all.trans ?_⟩
      simp [pagesOf, Nat.add_assoc]

/-- The state in which `migrate_vma_collect` starts its walk. -/
def Collect.first (src dst : Nat → UInt64) (kernel : Kernel) : Collect :=
  { kernel := kernel
    src := src
    dst := dst
    npages := 0
    cpages := 0
    lost := fun _ => 0
    split := fun _ => none
    ends := fun _ => .skip }

theorem Walked.first (src dst : Nat → UInt64) (kernel : Kernel) :
    Walked host args kernel (.first src dst kernel) := by
  have base : (Collect.first src dst kernel).settled host kernel = kernel :=
    kernel.settled_none host
  refine ⟨?_, fun i inside => absurd inside (Nat.not_lt_zero i), ?_, rfl⟩
  · rw [base]
    exact
      { names := fun _ => .inl rfl
        rest := fun _ _ => rfl
        held := fun i inside => absurd inside (Nat.not_lt_zero i)
        intact := fun pfn _ => .refl kernel pfn
        distinct := fun i _ _ inside => absurd inside (Nat.not_lt_zero i)
        dst := fun i inside => absurd inside (Nat.not_lt_zero i) }
  · intro page slot found
    cases found

/-- The walk fills one slot for each page of its segments, and leaves every
page that it has not put into the source array as it was. -/
theorem migrateVmaCollect_walked (sound : kernel.Sound host)
    (segments : List Segment) (src dst : Nat → UInt64) :
    Walked host args kernel
        (migrateVmaCollect host args segments src dst kernel) ∧
      (migrateVmaCollect host args segments src dst kernel).npages =
        pagesOf segments := by
  have done :=
    (@Walked.first host args src dst kernel).walkPageRange sound segments
  exact ⟨done.1, done.2.trans (Nat.zero_add _)⟩

end Rshm.Mm
