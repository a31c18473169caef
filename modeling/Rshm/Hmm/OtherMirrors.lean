import Rshm.Hmm.MovesTracked

/-!
# Entries of the other mirrors of a process

`dmirror_interval_invalidate` knows the driver's own migrations by the
device, and a device has one mirror for each open file.  All of them ignore
the notification of a migration, and its repairs work on the mirror that it
runs for.
-/

namespace Rshm.Hmm

open RangeLoop

variable {Contents : Type}

namespace World

variable {world next : World Contents}

/-- The places of a page before it is migrated: the system page, or the
device page and its backing page.  An address without a page may have had an
entry for the zero page. -/
def OldLocation (world : World Contents) (slot : MigrateSlot)
    (page : Page) : Prop :=
  match slot.src.page with
  | some source =>
      page = source ∨ world.mem.backingPage source = some page
  | none => page = .zero

/-- When a migration is over, no mirror of the process has an entry for an
old place of a page that has been migrated. -/
def NoneLeft (world next : World Contents) (id : Nat) : Prop :=
  ∀ migration, world.migrations id = some migration → ∀ pfn m dmirror entry,
    (migration.slots pfn).moved = true → next.dmirror m = some dmirror →
    dmirror.mm = migration.mm → dmirror.pt pfn = some entry →
    ¬world.OldLocation (migration.slots pfn) entry.page

/-- Requests do not overlap, and the stores of a map update succeed. -/
def Served (world : World Contents) (input : Input Contents) : Prop :=
  world.OneAtATime input ∧ ∀ id xaFails,
    input = .finalizeAndMap id xaFails → ∀ pfn, xaFails pfn = false

/-- When a page is migrated, no other mirror of the process has an entry for
its address. -/
def ServedAlone (world : World Contents) (input : Input Contents) : Prop :=
  world.Served input ∧ ∀ id migrated migration,
    input = .pages id migrated → world.migrations id = some migration →
    world.OthersEmpty migration (migrateVmaPages migration.vmWrite migrated
      migration.npages migration.first
      (world.cpu migration.mm, migration.slots)).2

theorem ServedAlone.repairable {input : Input Contents}
    (alone : world.ServedAlone input) : world.Repairable input := by
  cases input with
  | pages id migrated =>
      intro migration there
      exact alone.2 id migrated migration rfl there
  | finalizeAndMap id xaFails =>
      intro migration _ dmirror pfn entry _ _ _ place _ _ _
      exact alone.1.2 id xaFails rfl place
  | _ => trivial

/-- The backing page of a target is no old place of the page it was copied
from. -/
theorem MovesTracked.target_apart (tracked : world.MovesTracked) {id : Nat}
    {migration : Migration} (there : world.migrations id = some migration)
    (forward : migration.flags = .selectSystem) {pfn : Nat}
    (landed : migration.landed pfn = true) {target page : Page}
    (aimed : (migration.slots pfn).dst.page = some target)
    (backing : world.mem.backingPage target = some page) :
    ¬world.OldLocation (migration.slots pfn) page := by
  have owned := tracked.owned
  have used := owned.landed_used there landed aimed
  unfold OldLocation
  cases source : (migration.slots pfn).src.page with
  | some held =>
      have kind := (tracked.apart.system id migration pfn held there forward
        source).2
      have itself : world.mem.backingPage held = some held := by
        simp [Memory.backingPage, kind]
      have locked : Holds world.mem.inUse world.mem.zoneDeviceData world.cpu
          world.migrations (.src id pfn) held := ⟨migration, there, source⟩
      have different : page ≠ held := by
        rintro rfl
        unfold Memory.backingPage at backing
        split at backing
        · next device =>
          split at backing
          · next rpage link =>
            cases backing
            have once := owned.exclusive.once _ (.backing target) _ locked
              ⟨used, device, link⟩
            cases once
          · cases backing
        · cases backing
          have once := owned.exclusive.once _ (.dst id pfn) _ locked
            ⟨migration, there, aimed, by simp [Migration.inserted, source]⟩
          cases once
      dsimp only
      rw [itself, Option.some.injEq]
      rintro (same | same)
      · exact different same
      · exact different same.symm
  | none =>
      have device := owned.hole id migration pfn target there source aimed
      obtain ⟨frame, link⟩ := owned.backed target used device
      rintro rfl
      rw [Memory.backingPage, if_pos device, link] at backing
      cases backing

theorem MovesTracked.noneLeft (tracked : world.MovesTracked) {id : Nat}
    (moved : world.finalize id = some next) : world.NoneLeft next id := by
  intro migration there pfn m dmirror entry changed present process found
  obtain ⟨known, outcome, there', finished, -, rfl⟩ := finalize_finished moved
  obtain rfl : migration = known := Option.some.inj (there.symm.trans there')
  have present : world.dmirror m = some dmirror := present
  have landed : migration.landed pfn = true := by
    simp only [Migration.landed, changed, Bool.and_true]
    unfold Migration.finished at finished
    split at finished
    · simpa using Or.inr (of_decide_eq_true finished)
    · simpa using Or.inl (of_decide_eq_true finished)
  have repairs := tracked.repairs id migration there
  obtain ⟨forward, rfl⟩ :=
    repairs.own pfn m dmirror entry landed present process found
  have stage : migration.stage = .mapped := by
    simpa [Migration.finished, forward] using finished
  obtain ⟨-, target, aimed⟩ := Migration.landed_moved landed
  exact tracked.target_apart there forward landed aimed
    (repairs.mapped stage pfn dmirror entry target landed aimed present found)

/-- No mirror of a process has an entry for an old place of a migrated page,
in any run in which no other mirror has an entry for the address of a page
when it is migrated. -/
theorem finalize_leaves_none [Zero Contents] (world next : World Contents)
    (reached : (machine (· = boot)).Reaches ServedAlone world) (id : Nat)
    (moved : world.finalize id = some next) : world.NoneLeft next id := by
  have invariant : (machine (· = (boot : World Contents))).Invariant
      ServedAlone MovesTracked := by
    constructor
    · intro start initial
      subst initial
      exact .of_idle boot_owned fun _ => rfl
    · intro state input next tracked alone moved
      exact tracked.step alone.1.1 alone.repairable moved
  exact (invariant.reaches reached).noneLeft moved

private theorem served_of {world : World Contents} {input : Input Contents}
    (single : world.OneAtATime input)
    (other : ∀ id xaFails, input ≠ .finalizeAndMap id xaFails) :
    world.Served input :=
  ⟨single, fun id xaFails same => absurd same (other id xaFails)⟩

private theorem mapping_served (world : World Contents) (id : Nat) :
    world.Served (.finalizeAndMap id fun _ => false) := by
  refine ⟨trivial, ?_⟩
  intro _ _ same pfn
  cases same
  rfl

private theorem alone_of {world : World Contents} {input : Input Contents}
    (served : world.Served input)
    (other : ∀ id migrated, input ≠ .pages id migrated) :
    world.ServedAlone input :=
  ⟨served, fun id migrated _ same => absurd same (other id migrated)⟩

/-- Both mirrors are of process 0; mirror 1 has read page 1, which is frame 3,
and page 0 is migrated through mirror 0. -/
private def migrateBeside : List (Input Nat) :=
  [.openFile 0 0 0, .openFile 1 0 0, .populate 0 0 1 true,
    .populate 0 1 3 true, .readBegin 0 1 1 1 false, .hmmRangeFault 0,
    .doFault 0 fun _ => false,
    .setup 0 0 .selectSystem true 1 0 fun _ => true,
    .allocAndCopy 0 fun _ => some (0, 2), .pages 0 fun _ => true,
    .finalizeAndMap 0 fun _ => false]

/-- Mirror 1 has the page that it has read. -/
private def besideRead (world : World Nat) : Bool :=
  (world.finalize 0).any fun next => (next.dmirror 1).any fun dmirror =>
    dmirror.pt 1 == some ⟨.normal 3, .write⟩

private theorem migrateBeside_run :
    ∃ world : World Nat, (machine (· = boot)).Run ServedAlone boot
      migrateBeside world ∧ besideRead world = true := by
  refine ⟨_, .cons ?_ rfl (.cons ?_ rfl (.cons ?_ rfl (.cons ?_ rfl
    (.cons ?_ rfl (.cons ?_ rfl (.cons ?_ rfl (.cons ?_ rfl (.cons ?_ rfl
      (.cons ?_ rfl (.cons ?_ rfl (.nil _))))))))))), by decide +kernel⟩
  · exact alone_of (served_of trivial (by simp)) (by simp)
  · exact alone_of (served_of trivial (by simp)) (by simp)
  · exact alone_of (served_of trivial (by simp)) (by simp)
  · exact alone_of (served_of trivial (by simp)) (by simp)
  · exact alone_of (served_of (fun _ => rfl) (by simp)) (by simp)
  · exact alone_of (served_of trivial (by simp)) (by simp)
  · exact alone_of (served_of (fun _ => rfl) (by simp)) (by simp)
  · refine alone_of (served_of ⟨fun _ => rfl, ?_, rfl⟩ (by simp)) (by simp)
    intro id
    by_cases here : id = 0
    · subst here
      rfl
    · exact (Function.update_of_ne here _ _).trans
        ((Function.update_of_ne here _ _).trans
          (Function.update_of_ne here _ _))
  · exact alone_of (served_of trivial (by simp)) (by simp)
  · refine ⟨served_of trivial (by simp), ?_⟩
    rintro _ _ migration ⟨⟩ there pfn m dmirror landed foreign present -
    cases there
    obtain ⟨before, opened, same⟩ := Option.map_eq_some_iff.mp present
    by_cases other : m = 1
    · subst other
      have known : some _ = some before := opened
      cases known
      subst same
      by_cases here : pfn = 1
      · subst here
        cases landed
      · exact Function.update_of_ne here _ _
    · have unread := (Function.update_of_ne other _ _).symm.trans opened
      have second := (Function.update_of_ne other _ _).symm.trans unread
      have first := (Function.update_of_ne foreign _ _).symm.trans second
      cases first
  · exact alone_of (mapping_served _ 0) (by simp)

theorem finalize_leaves_none_alone :
    ∃ world next : World Nat, (machine (· = boot)).Reaches ServedAlone
      world ∧ world.finalize 0 = some next ∧
      (next.dmirror 1).any (fun dmirror =>
        dmirror.pt 1 == some ⟨.normal 3, .write⟩) = true ∧
      world.NoneLeft next 0 := by
  obtain ⟨world, run, read⟩ := migrateBeside_run
  obtain ⟨next, moved, kept⟩ := (Option.any_eq_true _ _).mp read
  have reached : (machine (· = (boot : World Nat))).Reaches ServedAlone
      world := ⟨boot, migrateBeside, rfl, run⟩
  exact ⟨world, next, reached, moved, kept,
    finalize_leaves_none world next reached 0 moved⟩

/-- Both mirrors are of process 0, and mirror 1 has read page 0, which is
frame 1, before the page is migrated through mirror 0. -/
private def readThenMigrate : List (Input Nat) :=
  [.openFile 0 0 0, .openFile 1 0 0, .populate 0 0 1 true,
    .readBegin 0 1 1 0 false, .hmmRangeFault 0, .doFault 0 fun _ => false,
    .setup 0 0 .selectSystem true 1 0 fun _ => true,
    .allocAndCopy 0 fun _ => some (0, 2), .pages 0 fun _ => true,
    .finalizeAndMap 0 fun _ => false]

/-- Mirror 1 still has frame 1. -/
private def otherStale (world : World Nat) : Bool :=
  (world.migrations 0).any (fun migration =>
    migration.mm == 0 && (migration.slots 0).moved &&
      (migration.slots 0).src.page == some (.normal 1)) &&
  (world.finalize 0).any fun next => (next.dmirror 1).any fun dmirror =>
    dmirror.mm == 0 && dmirror.pt 0 == some ⟨.normal 1, .write⟩

private theorem readThenMigrate_served :
    ∃ world : World Nat, (machine (· = boot)).Run Served boot
      readThenMigrate world ∧ otherStale world = true := by
  refine ⟨_, .cons ?_ rfl (.cons ?_ rfl (.cons ?_ rfl (.cons ?_ rfl
    (.cons ?_ rfl (.cons ?_ rfl (.cons ?_ rfl (.cons ?_ rfl (.cons ?_ rfl
      (.cons ?_ rfl (.nil _)))))))))), by decide +kernel⟩
  · exact served_of trivial (by simp)
  · exact served_of trivial (by simp)
  · exact served_of trivial (by simp)
  · exact served_of (fun _ => rfl) (by simp)
  · exact served_of trivial (by simp)
  · exact served_of (fun _ => rfl) (by simp)
  · refine served_of ⟨fun _ => rfl, ?_, rfl⟩ (by simp)
    intro id
    by_cases here : id = 0
    · subst here
      rfl
    · exact (Function.update_of_ne here _ _).trans
        ((Function.update_of_ne here _ _).trans
          (Function.update_of_ne here _ _))
  · exact served_of trivial (by simp)
  · exact served_of trivial (by simp)
  · exact mapping_served _ 0

/-- A mirror that has read the page keeps its old frame when the page is
migrated through another mirror. -/
theorem finalize_leaves_other :
    ∃ world next : World Nat, (machine (· = boot)).Reaches Served world ∧
      world.finalize 0 = some next ∧ ¬world.NoneLeft next 0 := by
  obtain ⟨world, run, stale⟩ := readThenMigrate_served
  have reached : (machine (· = (boot : World Nat))).Reaches Served world :=
    ⟨boot, readThenMigrate, rfl, run⟩
  simp only [otherStale, Bool.and_eq_true, Option.any_eq_true] at stale
  obtain ⟨⟨migration, there, ⟨process, changed⟩, source⟩, next, moved,
    dmirror, present, own, found⟩ := stale
  simp only [beq_iff_eq] at process source own found
  refine ⟨world, next, reached, moved, ?_⟩
  intro left
  apply left migration there 0 1 dmirror _ changed present
    (own.trans process.symm) found
  unfold OldLocation
  rw [source]
  exact .inl rfl

end World

end Rshm.Hmm
