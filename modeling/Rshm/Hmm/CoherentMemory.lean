import Rshm.Hmm.ZeroPage

/-!
# A process and its devices share one memory

The machine of the driver, with processes that also write to their pages.
`memory` is a history variable: what the last write of the process or of
`dmirror_do_write` has left at each address.  The process and every mirror
find it there, wherever the data has been migrated to in between.
-/

namespace Rshm.Hmm

open RangeLoop

variable {Contents : Type}

/-- `dmirror_do_read` copies what the entries name, up to an address that has
none. -/
theorem dmirrorDoRead_spec (pt : XArray) (mem : Memory Contents)
    (count first : Nat) (bounce : DmirrorBounce Contents)
    (within : bounce.addr ≤ first) :
    let read := dmirrorDoRead pt mem count first bounce
    ∃ done, done ≤ count ∧ read.1.cpages = bounce.cpages + done ∧
      (read.2 = none → done = count) ∧
      ∀ pfn, first ≤ pfn → pfn < first + done →
        ∃ entry, pt pfn = some entry ∧
          read.1.ptr (pfn - bounce.addr) = mem.contents entry.page := by
  intro read
  let holds (index : Nat) (state : DmirrorBounce Contents) : Prop :=
    first ≤ index ∧ state.addr = bounce.addr ∧
      state.cpages = bounce.cpages + (index - first) ∧
      ∀ pfn, first ≤ pfn → pfn < index → ∃ entry, pt pfn = some entry ∧
        state.ptr (pfn - bounce.addr) = mem.contents entry.page
  suffices loop : ∃ done, done ≤ count ∧ holds (first + done) read.1 ∧
      (read.2 = none → done = count) by
    obtain ⟨done, bound, ⟨-, -, counted, bytes⟩, complete⟩ := loop
    refine ⟨done, bound, ?_, complete, bytes⟩
    rw [counted]
    omega
  refine Exists.imp (fun _ outcome => ⟨outcome.1, outcome.2.1, outcome.2.2.1⟩)
    (forRange_outcome holds _ count first bounce ?_ ?_)
  · refine ⟨Nat.le_refl first, rfl, by omega, ?_⟩
    intro pfn lower upper
    omega
  · rintro index state lower _ ⟨_, base, counted, bytes⟩
    split
    · refine ⟨?_, fun _ => ⟨lower, base, counted, bytes⟩⟩
      intro passed
      cases passed
    · next entry found =>
      refine ⟨fun _ => ⟨by omega, base, ?_, ?_⟩,
        fun stopped => absurd rfl stopped⟩
      · dsimp only
        omega
      · intro pfn lower' upper
        dsimp only
        rw [base]
        by_cases here : pfn = index
        · subst here
          exact ⟨entry, found, Function.update_self ..⟩
        · obtain ⟨entry', found', copied⟩ := bytes pfn lower' (by omega)
          have different : pfn - bounce.addr ≠ index - bounce.addr := by omega
          exact ⟨entry', found',
            (Function.update_of_ne different ..).trans copied⟩

/-- An input of the driver, or a write of a process to one of its pages. -/
inductive SharedInput (Contents : Type) where
  | driver (input : Input Contents)
  | store (mm pfn : Nat) (bytes : Contents)

namespace World

variable [Zero Contents]

def sharedStep (world : World Contents) :
    SharedInput Contents → Option (World Contents)
  | .driver input => world.step input
  | .store mm pfn bytes => world.cpuStore mm pfn bytes

def sharedMachine : Machine (World Contents) (SharedInput Contents) :=
  ⟨(· = boot), sharedStep⟩

/-- Requests do not overlap, the migrations repair the entries, no device
fault is given a page of the mirror's own device, and `dmirror_do_write` does
not run between the copies of a migration and its map update. -/
def InTurn (world : World Contents) : SharedInput Contents → Prop
  | .driver input => world.FaultsPlain input ∧
      ∀ m count first bounce, input = .doWrite m count first bounce →
        world.Uncopied
  | .store _ _ _ => True

end World

/-- The machine, and the memory that it stands for. -/
structure Shared (Contents : Type) where
  world : World Contents
  memory : ProcessMemory Contents

namespace Shared

variable [Zero Contents] {shared next : Shared Contents}

/-- What a step does to the memory. -/
def rememberInput (shared : Shared Contents) :
    SharedInput Contents → ProcessMemory Contents
  | .driver input => shared.world.remember shared.memory input
  | .store mm pfn bytes => shared.memory.store mm pfn bytes

def step (shared : Shared Contents) (input : SharedInput Contents) :
    Option (Shared Contents) :=
  (shared.world.sharedStep input).map fun world =>
    ⟨world, shared.rememberInput input⟩

def boot : Shared Contents := ⟨World.boot, fun _ _ => 0⟩

def machine : Machine (Shared Contents) (SharedInput Contents) :=
  ⟨(· = boot), step⟩

def InTurn (shared : Shared Contents) (input : SharedInput Contents) : Prop :=
  shared.world.InTurn input

theorem run_of_world {world last : World Contents}
    {inputs : List (SharedInput Contents)}
    (run : World.sharedMachine.Run World.InTurn world inputs last)
    (memory : ProcessMemory Contents) : ∃ after,
      machine.Run InTurn ⟨world, memory⟩ inputs ⟨last, after⟩ := by
  induction run generalizing memory with
  | nil world => exact ⟨memory, .nil _⟩
  | @cons world next last input inputs admitted moved _ induction =>
      obtain ⟨after, rest⟩ :=
        induction (rememberInput ⟨world, memory⟩ input)
      refine ⟨after, .cons admitted ?_ rest⟩
      exact congrArg (Option.map fun world => Shared.mk world _) moved

/-- The process and the devices find the memory at every address. -/
structure Coherent (shared : Shared Contents) : Prop where
  cpu : ∀ mm pfn page writable,
    shared.world.cpu mm pfn = .present page writable →
    ∃ home, shared.world.mem.backingPage page = some home ∧
      shared.world.mem.contents home = shared.memory mm pfn
  unmapped : ∀ mm pfn, shared.world.cpu mm pfn = .none →
    shared.memory mm pfn = 0
  reads : ∀ m dmirror count first bounce,
    shared.world.dmirror m = some dmirror → bounce.addr ≤ first →
    let read := dmirrorDoRead dmirror.pt shared.world.mem count first bounce
    ∃ done, read.1.cpages = bounce.cpages + done ∧
      (read.2 = none → done = count) ∧
      ∀ pfn, first ≤ pfn → pfn < first + done →
        read.1.ptr (pfn - bounce.addr) = shared.memory dmirror.mm pfn

/-- The invariant behind `Coherent`. -/
structure Tracked (shared : Shared Contents) : Prop where
  entries : shared.world.EntriesTracked
  zero : shared.world.ZeroKept
  presents : shared.world.Presents shared.memory

theorem Tracked.entry (tracked : shared.Tracked) {m pfn : Nat}
    {dmirror : Dmirror} {entry : Entry}
    (present : shared.world.dmirror m = some dmirror)
    (found : dmirror.pt pfn = some entry) :
    shared.world.mem.contents entry.page = shared.memory dmirror.mm pfn := by
  rcases tracked.entries.located.data tracked.entries.moves present found with
    data | ⟨id, migration, there, process, forward, stage, landed, source⟩
  · exact tracked.presents.data dmirror.mm pfn entry.page data
  · rw [source, ← process]
    exact (tracked.presents.carries id migration there).left forward stage pfn
      landed

theorem Tracked.coherent (tracked : shared.Tracked) : shared.Coherent := by
  have owned : shared.world.PagesOwned := tracked.entries.moves.owned
  refine ⟨?_, tracked.presents.empty, ?_⟩
  · intro mm pfn page writable entry
    have backed : ∃ home, shared.world.mem.backingPage page = some home := by
      cases device : page.isDevicePrivatePage with
      | false => exact ⟨page, by simp [Memory.backingPage, device]⟩
      | true =>
          rcases owned.mapped (entry ▸ rfl : (shared.world.cpu mm pfn).page =
            some page) with used | rfl
          · obtain ⟨frame, link⟩ := owned.backed page used device
            exact ⟨.normal frame, by simp [Memory.backingPage, device, link]⟩
          · cases device
    obtain ⟨home, backing⟩ := backed
    exact ⟨home, backing, tracked.presents.data mm pfn home
      (tracked.entries.moves.present_data entry backing)⟩
  · intro m dmirror count first bounce present within
    obtain ⟨done, -, counted, complete, bytes⟩ := dmirrorDoRead_spec
      dmirror.pt shared.world.mem count first bounce within
    refine ⟨done, counted, complete, ?_⟩
    intro pfn lower upper
    obtain ⟨entry, found, copied⟩ := bytes pfn lower upper
    exact copied.trans (tracked.entry present found)

theorem boot_tracked : (boot : Shared Contents).Tracked where
  entries := World.boot_entriesTracked
  zero :=
    { readOnly :=
        { ptes := by
            intro mm pfn writable entry
            cases entry
          snapshots := by
            intro id fault hmmPfns pfn started
            cases started
          entries := by
            intro m dmirror pfn entry present
            cases present }
      unused := Finset.notMem_empty _ }
  presents := by
    refine .of_idle (fun _ => rfl) ?_ (fun _ _ _ => rfl) rfl
    intro mm pfn held page mapped
    cases mapped

theorem Tracked.driver (tracked : shared.Tracked) {input : Input Contents}
    (plain : shared.world.FaultsPlain input)
    (uncopied : ∀ m count first bounce, input = .doWrite m count first bounce →
      shared.world.Uncopied) {world : World Contents}
    (moved : shared.world.step input = some world) :
    world.Presents (shared.world.remember shared.memory input) := by
  have moves := tracked.entries.moves
  have presents := tracked.presents
  have single := plain.1.1
  cases input with
  | openFile _ _ _ =>
      have pages := World.SamePages.openFile moved
      obtain ⟨-, -, rfl⟩ := World.openFile_opened moved
      exact presents.of_same moves pages rfl
  | closeFile _ =>
      have pages := World.SamePages.closeFile moved
      obtain rfl := World.closeFile_closed moved
      exact presents.of_same moves pages rfl
  | doWrite m count first bounce =>
      exact presents.doWrite moves tracked.entries.located
        tracked.zero.readOnly (uncopied m count first bounce rfl) moved
  | readBegin _ _ _ _ _ =>
      have pages := World.SamePages.readBegin moved
      obtain ⟨_, -, -, -, rfl⟩ := World.readBegin_started moved
      exact presents.of_same moves pages rfl
  | hmmRangeFault _ =>
      have pages := World.SamePages.hmmRangeFault moved
      obtain ⟨_, _, -, -, -, rfl⟩ := World.hmmRangeFault_taken moved
      exact presents.of_same moves pages rfl
  | abandonFault _ =>
      have pages := World.SamePages.abandonFault moved
      obtain rfl := World.abandonFault_dropped moved
      exact presents.of_same moves pages rfl
  | doFault _ _ =>
      have pages := World.SamePages.doFault moved
      rcases World.doFault_stored moved with ⟨_, -, rfl⟩ |
        ⟨_, _, _, _, -, -, -, -, -, rfl⟩
      · exact presents.of_same moves pages rfl
      · exact presents.of_same moves pages rfl
  | populate _ _ _ _ => exact presents.populate moves moved
  | populateZero _ _ => exact presents.populateZero moves moved
  | invalidateStart _ _ =>
      have pages := World.SamePages.invalidateStart moved
      obtain ⟨-, rfl⟩ := World.invalidateStart_told moved
      exact presents.of_same moves pages rfl
  | cpuChange _ _ _ => exact presents.cpuChange moves.owned single moved
  | invalidateEnd _ =>
      have pages := World.SamePages.invalidateEnd moved
      obtain ⟨-, rfl⟩ := World.invalidateEnd_ended moved
      exact presents.of_same moves pages rfl
  | setup _ _ _ _ _ _ _ =>
      obtain ⟨_, -, unused, rfl⟩ := World.setup_begun moved
      exact presents.migrateSetup moves unused _ _ _ _ _ _ _ _
  | cpuFault _ _ _ _ _ =>
      obtain ⟨unused, _, _, _, -, ⟨_, _, _, -, -, -, rfl⟩ | ⟨rfl, -⟩⟩ :=
        World.cpuFault_begun moved
      · exact presents.migrateSetup moves unused _ _ _ _ _ _ _ _
      · exact presents.of_same moves ⟨rfl, rfl, rfl, rfl⟩ rfl
  | allocAndCopy _ _ => exact presents.allocAndCopy moves moved
  | faultAllocAndCopy _ _ => exact presents.faultAllocAndCopy moves moved
  | pages _ _ => exact presents.pages moves moved
  | finalizeAndMap _ _ => exact presents.finalizeAndMap moves moved
  | finalize _ => exact presents.finalize moves moved
  | exclusive _ _ _ _ _ _ =>
      have pages := World.SamePages.exclusive moved
      refine presents.of_same moves pages ?_
      exact World.exclusive_keeps
        (fun between => between.mem.contents = shared.world.mem.contents)
        (fun _ _ _ held => held) (fun _ _ _ _ held _ => held) rfl moved
  | release _ _ => exact presents.release moves single moved

theorem Tracked.store (tracked : shared.Tracked) {mm pfn : Nat}
    {bytes : Contents} {world : World Contents}
    (moved : shared.world.cpuStore mm pfn bytes = some world) :
    Tracked ⟨world, shared.memory.store mm pfn bytes⟩ := by
  have presents := tracked.presents.cpuStore tracked.entries.moves
    tracked.zero.readOnly moved
  obtain ⟨page, -, -, rfl⟩ := World.cpuStore_stored moved
  obtain ⟨entries, zero, -⟩ := tracked
  refine ⟨?_, ?_, presents⟩
  · have moves : World.MovesTracked { shared.world with
        mem := shared.world.mem.write page bytes } :=
      entries.moves.of_fewer entries.moves.owned rfl rfl (.of_eq rfl)
    exact ⟨moves, entries.located.of_old rfl rfl
      (World.Fewer.of_eq rfl).entries fun _ _ _ _ _ _ => .inl rfl,
      ⟨entries.faults.named, entries.faults.mirror, entries.faults.quiet,
        entries.faults.mapped⟩, entries.quiet, entries.unmoved,
      entries.cleared⟩
  · exact ⟨⟨zero.readOnly.ptes, zero.readOnly.snapshots,
      zero.readOnly.entries⟩, zero.unused⟩

theorem Tracked.step (tracked : shared.Tracked)
    {input : SharedInput Contents} (admitted : shared.InTurn input)
    (moved : shared.step input = some next) : next.Tracked := by
  obtain ⟨world, stepped, rfl⟩ := Option.map_eq_some_iff.mp moved
  cases input with
  | driver input =>
      obtain ⟨plain, uncopied⟩ := admitted
      exact ⟨tracked.entries.step plain stepped,
        tracked.zero.step tracked.entries.moves stepped,
        tracked.driver plain uncopied stepped⟩
  | store mm pfn bytes => exact tracked.store stepped

theorem tracked_invariant :
    machine.Invariant InTurn (Tracked : Shared Contents → Prop) := by
  constructor
  · intro start initial
    subst initial
    exact boot_tracked
  · intro state input next tracked admitted moved
    exact tracked.step admitted moved

/-- In every state that such a run reaches, the process and all mirrors find
at each address what was last written there. -/
theorem memory_coherent (shared : Shared Contents)
    (reached : machine.Reaches InTurn shared) : shared.Coherent :=
  (tracked_invariant.reaches reached).coherent

/-- The process writes 7, the page goes to the device, the mirror writes 9
there, and a fault of the process brings the page back. -/
private def thereAndBack : List (SharedInput Nat) :=
  [.driver (.openFile 0 0 0), .driver (.populate 0 0 1 true), .store 0 0 7,
    .driver (.setup 0 0 .selectSystem true 1 0 fun _ => true),
    .driver (.allocAndCopy 0 fun _ => some (0, 2)),
    .driver (.pages 0 fun _ => true),
    .driver (.finalizeAndMap 0 fun _ => false), .driver (.finalize 0),
    .driver (.doWrite 0 1 0 ⟨0, 0, fun _ => 9⟩),
    .driver (.cpuFault 0 0 0 true true),
    .driver (.faultAllocAndCopy 0 fun _ => some 3),
    .driver (.pages 0 fun _ => true), .driver (.finalize 0)]

private def broughtBack (world : World Nat) : Bool :=
  world.mem.contents (.normal 3) == 9 &&
    world.cpu 0 0 == .present (.normal 3) true

private theorem driver_of {world : World Nat} {input : Input Nat}
    (repaired : world.Repaired input)
    (fault : ∀ id xaFails, input ≠ .doFault id xaFails)
    (write : ∀ m count first bounce, input ≠ .doWrite m count first bounce) :
    world.InTurn (.driver input) :=
  ⟨⟨repaired, fun id xaFails same => absurd same (fault id xaFails)⟩,
    fun m count first bounce same => absurd same (write m count first bounce)⟩

private theorem absent_ne {m : Option Dmirror} (absent : m = none)
    {dmirror : Dmirror} : ¬m = some dmirror := by
  rw [absent]
  simp

private theorem update_absent {mirrors : Nat → Option Dmirror}
    {own : Option Dmirror} (before : ∀ m, m ≠ 0 → mirrors m = none) :
    ∀ m, m ≠ 0 → Function.update mirrors 0 own m = none := by
  intro m other
  rw [Function.update_of_ne other]
  exact before m other

private theorem told_absent {mirrors : Nat → Option Dmirror}
    {told : Dmirror → Dmirror} (before : ∀ m, m ≠ 0 → mirrors m = none) :
    ∀ m, m ≠ 0 → (mirrors m).map told = none := by
  intro m other
  rw [before m other]
  rfl

private theorem thereAndBack_run :
    ∃ world : World Nat, World.sharedMachine.Run World.InTurn World.boot
      thereAndBack world ∧ broughtBack world = true := by
  refine ⟨_, .cons ?_ rfl (.cons ?_ rfl (.cons ?_ rfl (.cons ?_ rfl
    (.cons ?_ rfl (.cons ?_ rfl (.cons ?_ rfl (.cons ?_ rfl (.cons ?_ rfl
      (.cons ?_ rfl (.cons ?_ rfl (.cons ?_ rfl (.cons ?_ rfl
        (.nil _))))))))))))), rfl⟩
  · exact driver_of ⟨trivial, trivial⟩ (by simp) (by simp)
  · exact driver_of ⟨trivial, trivial⟩ (by simp) (by simp)
  · trivial
  · exact driver_of ⟨⟨fun _ => rfl, fun _ => rfl, rfl⟩, trivial⟩ (by simp)
      (by simp)
  · exact driver_of ⟨trivial, trivial⟩ (by simp) (by simp)
  · refine driver_of ⟨trivial, ?_⟩ (by simp) (by simp)
    intro migration there pfn m dmirror _ foreign present
    cases there
    obtain ⟨before, opened, -⟩ := Option.map_eq_some_iff.mp present
    have absent : (none : Option Dmirror) = some before :=
      (Function.update_of_ne foreign _ _).symm.trans opened
    cases absent
  · refine driver_of ⟨trivial, ?_⟩ (by simp) (by simp)
    intro migration _ dmirror pfn entry _ _ _ place _ _ _
    rfl
  · exact driver_of ⟨trivial, trivial⟩ (by simp) (by simp)
  · refine ⟨⟨⟨trivial, trivial⟩, by simp⟩, fun _ _ _ _ _ => .of_idle ?_⟩
    exact World.over_none (World.others_none (World.others_none
      (World.others_none (World.others_none fun _ _ => rfl))))
  · refine driver_of ⟨⟨?_, fun _ => rfl, rfl⟩, trivial⟩ (by simp) (by simp)
    exact World.over_none (World.others_none (World.others_none
      (World.others_none (World.others_none fun _ _ => rfl))))
  · exact driver_of ⟨trivial, trivial⟩ (by simp) (by simp)
  · refine driver_of ⟨trivial, ?_⟩ (by simp) (by simp)
    intro migration there pfn m dmirror _ foreign present
    cases there
    refine absurd present (absent_ne (update_absent (told_absent
      (update_absent (told_absent (update_absent ?_)))) m foreign))
    exact fun _ _ => rfl
  · exact driver_of ⟨trivial, trivial⟩ (by simp) (by simp)

theorem memory_coherent_there_and_back :
    ∃ shared : Shared Nat, machine.Reaches InTurn shared ∧
      shared.world.cpu 0 0 = .present (.normal 3) true ∧
      shared.memory 0 0 = 9 ∧ shared.Coherent := by
  obtain ⟨world, run, back⟩ := thereAndBack_run
  simp only [broughtBack, Bool.and_eq_true, beq_iff_eq] at back
  obtain ⟨memory, run⟩ := run_of_world run fun _ _ => 0
  have reached : machine.Reaches InTurn ⟨world, memory⟩ :=
    ⟨boot, thereAndBack, rfl, run⟩
  have coherent := memory_coherent ⟨world, memory⟩ reached
  obtain ⟨home, backing, shown⟩ := coherent.cpu 0 0 (.normal 3) true back.2
  cases backing
  exact ⟨⟨world, memory⟩, reached, back.2, shown.symm.trans back.1, coherent⟩

end Shared

end Rshm.Hmm
