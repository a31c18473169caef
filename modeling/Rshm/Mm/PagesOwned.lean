import Rshm.Lib.Machine
import Rshm.Mm.Server
import Rshm.Mm.SharedMemory
import Mathlib.Data.Finset.Card

/-!
# Who owns the pages of the shared memory

`memory_init` puts one page in each slot, `nmsg_retrieve_pages` puts others in
their place, and `memory_destroy` frees what stands in the slots.  A page
whose slot has been taken over is in no slot any more.
-/

namespace Rshm.Mm

/-- The memory between its init and its destroy.  `retrieving` is the next
slot and the number of pages of a retrieval that is going on; `allocs` counts
the pages that `alloc_page` has returned. -/
structure Lifetime where
  memory : Memory Bytes
  retrieving : Option (Nat × Nat)
  allocs : Nat
  frees : List Nat
  destroyed : Bool

/-- What happens to the memory.  A retrieval is a call and the passes of its
loop. -/
inductive Event where
  | retrievePages (sent numPages : Int)
  | receivePage (reply : Reply Bytes)
  | processMessage (message : Bytes)
  | destroy

/-- A pass of a retrieval that puts a page in its slot. -/
def Event.stores : Event → Bool
  | .receivePage reply => decide (0 ≤ reply.len) && reply.newPage.isSome
  | _ => false

/-- `alloc_page` returns no page that is in use. -/
def Reply.Fresh (reply : Reply Bytes) (memory : Memory Bytes) : Prop :=
  ∀ newPage ∈ reply.newPage, newPage ∉ memory.allocated

instance (reply : Reply Bytes) (memory : Memory Bytes) :
    Decidable (reply.Fresh memory) :=
  inferInstanceAs (Decidable (∀ newPage ∈ reply.newPage, _))

namespace Lifetime

/-- The slot after `i` of a retrieval of `numPages` pages. -/
def loopAt (i numPages : Nat) : Option (Nat × Nat) :=
  if i < numPages then some (i, numPages) else none

/-- One pass of the loop of `nmsg_retrieve_pages`. -/
def receive (life : Lifetime) (i numPages : Nat) (reply : Reply Bytes) :
    Lifetime :=
  match retrieveOne (fun _ => reply) i life.memory with
  | (memory, some _) => { life with memory := memory, retrieving := none }
  | (memory, none) =>
      { life with
        memory := memory
        retrieving := loopAt (i + 1) numPages
        allocs := life.allocs + 1 }

/-- A call of `nmsg_retrieve_pages` asks for no more pages than there are
slots. -/
def step (life : Lifetime) (event : Event) : Option Lifetime :=
  if life.destroyed then none
  else
    match event with
    | .retrievePages sent numPages =>
        if life.retrieving.isNone ∧ numPages.toNat ≤ life.memory.size then
          if nmsgSendMessage sent < 0 then some life
          else some { life with retrieving := loopAt 0 numPages.toNat }
        else none
    | .receivePage reply =>
        match life.retrieving with
        | none => none
        | some (i, numPages) =>
            if reply.Fresh life.memory then
              some (life.receive i numPages reply)
            else none
    | .processMessage message =>
        (nmsgProcessMessage message life.memory).map fun memory =>
          { life with memory := memory }
    | .destroy =>
        if life.retrieving.isNone then
          some
            { life with
              frees := memoryDestroy life.memory
              destroyed := true }
        else none

end Lifetime

/-- The memory after `memory_init`. -/
def Lifetime.init (frames : Nat → Nat) (contents : Nat → Bytes) : Lifetime :=
  ⟨memoryInit frames contents, none, memorySize, [], false⟩

def lifetimeMachine : Machine Lifetime Event where
  Initial := fun life => ∃ frames contents,
    Set.InjOn frames (Finset.range memorySize) ∧
    life = .init frames contents
  step := Lifetime.step

/-- Each page that is allocated is in one slot, and as many pages are freed
as were allocated. -/
def Lifetime.Conserved (life : Lifetime) : Prop :=
  if life.destroyed then life.frees.length = life.allocs
  else ∀ page ∈ life.memory.allocated,
    ∃! i, i < life.memory.size ∧ (life.memory.pages i).page = page

/-- The books after so many passes have put a page in a slot. -/
structure Lifetime.Counted (stored : Nat) (life : Lifetime) : Prop where
  size : life.memory.size = memorySize
  allocs : life.allocs = memorySize + stored
  live : life.memory.allocated.card = life.allocs
  freed : life.destroyed = true → life.frees.length = memorySize
  untouched : stored = 0 → ∀ page ∈ life.memory.allocated,
    ∃! i, i < life.memory.size ∧ (life.memory.pages i).page = page

theorem Lifetime.init_counted {frames : Nat → Nat}
    (distinct : Set.InjOn frames (Finset.range memorySize))
    (contents : Nat → Bytes) : (Lifetime.init frames contents).Counted 0 := by
  constructor
  · rfl
  · rfl
  · have count := Finset.card_image_of_injOn distinct
    rw [Finset.card_range] at count
    exact count
  · nofun
  · intro _ page member
    obtain ⟨i, inside, found⟩ := Finset.mem_image.mp member
    refine ⟨i, ⟨Finset.mem_range.mp inside, found⟩, ?_⟩
    rintro j ⟨inside', found'⟩
    exact distinct (Finset.mem_coe.mpr (Finset.mem_range.mpr inside')) inside
      (found'.trans found.symm)

theorem retrieveOne_cases (reply : Reply Bytes) (i : Nat)
    (memory : Memory Bytes) :
    (¬(Event.receivePage reply).stores ∧
      retrieveOne (fun _ => reply) i memory = (memory, some (-1))) ∨
    ∃ newPage, (Event.receivePage reply).stores ∧
      reply.newPage = some newPage ∧
      retrieveOne (fun _ => reply) i memory =
        ({ memory with
            contents := Function.update memory.contents newPage reply.bytes
            allocated := insert newPage memory.allocated
            pages := Function.update memory.pages i ⟨.shared, newPage⟩
            overrun := memory.overrun || decide (memory.size ≤ i) }, none) := by
  unfold retrieveOne Event.stores
  dsimp only
  by_cases failed : reply.len < 0
  · rw [if_pos failed]
    refine .inl ⟨?_, rfl⟩
    simp [failed]
  · rw [if_neg failed]
    have received : 0 ≤ reply.len := by omega
    cases found : reply.newPage with
    | none => exact .inl ⟨by simp, rfl⟩
    | some newPage => exact .inr ⟨newPage, by simp [received], rfl, rfl⟩

/-- `nmsg_process_message` moves no page. -/
theorem nmsgProcessMessage_pages {message : Bytes}
    {memory after : Memory Bytes}
    (processed : nmsgProcessMessage message memory = some after) :
    after.size = memory.size ∧ after.allocated = memory.allocated ∧
      ∀ i, (after.pages i).page = (memory.pages i).page := by
  obtain ⟨bytes, -, rfl⟩ := Option.map_eq_some_iff.mp processed
  refine ⟨rfl, rfl, ?_⟩
  intro i
  dsimp only
  by_cases first : i = 0
  · rw [first, Function.update_self]
  · rw [Function.update_of_ne first]

theorem Lifetime.Counted.step {life next : Lifetime} {stored : Nat}
    {event : Event} (counted : life.Counted stored)
    (moved : life.step event = some next) :
    next.Counted (stored + if event.stores then 1 else 0) := by
  unfold Lifetime.step at moved
  split at moved
  · cases moved
  · next up =>
    cases event with
    | retrievePages sent numPages =>
        have same : next.memory = life.memory ∧ next.allocs = life.allocs ∧
            next.frees = life.frees ∧ next.destroyed = life.destroyed := by
          dsimp only at moved
          split at moved
          · split at moved
            · obtain rfl := Option.some.inj moved
              exact ⟨rfl, rfl, rfl, rfl⟩
            · obtain rfl := Option.some.inj moved
              exact ⟨rfl, rfl, rfl, rfl⟩
          · cases moved
        obtain ⟨memory, allocs, frees, destroyed⟩ := same
        constructor
        · rw [memory, counted.size]
        · rw [allocs, counted.allocs]
          rfl
        · rw [memory, allocs, counted.live]
        · rw [destroyed, frees]
          exact counted.freed
        · rw [memory]
          exact counted.untouched
    | receivePage reply =>
        dsimp only at moved
        split at moved
        · cases moved
        next i numPages _ =>
        split at moved
        · next fresh =>
          obtain rfl := Option.some.inj moved
          unfold Lifetime.receive
          rcases retrieveOne_cases reply i life.memory with
            ⟨refused, outcome⟩ | ⟨newPage, stores, found, outcome⟩
          · rw [outcome, if_neg refused]
            exact ⟨counted.size, counted.allocs, counted.live, counted.freed,
              counted.untouched⟩
          · rw [outcome, if_pos stores]
            constructor
            · exact counted.size
            · dsimp only
              rw [counted.allocs, Nat.add_assoc]
            · dsimp only
              rw [Finset.card_insert_of_notMem (fresh newPage found),
                counted.live]
            · exact counted.freed
            · omega
        · cases moved
    | processMessage message =>
        obtain ⟨memory, processed, rfl⟩ := Option.map_eq_some_iff.mp moved
        obtain ⟨size, allocated, pages⟩ := nmsgProcessMessage_pages processed
        constructor
        · exact size.trans counted.size
        · exact counted.allocs
        · dsimp only
          rw [allocated, counted.live]
        · exact counted.freed
        · intro none_ page member
          dsimp only at member ⊢
          rw [allocated] at member
          simp only [size, pages]
          exact counted.untouched none_ page member
    | destroy =>
        dsimp only at moved
        split at moved
        · obtain rfl := Option.some.inj moved
          refine ⟨counted.size, counted.allocs, counted.live, ?_,
            counted.untouched⟩
          intro _
          dsimp only
          rw [memoryDestroy, List.length_map, List.length_range, counted.size]
        · cases moved

theorem Lifetime.Counted.run {start last : Lifetime} {stored : Nat}
    {events : List Event} (counted : start.Counted stored)
    (run : lifetimeMachine.Run Machine.anyInput start events last) :
    last.Counted (stored + events.countP Event.stores) := by
  induction run generalizing stored with
  | nil state =>
      rw [List.countP_nil]
      exact counted
  | @cons state next last event events _ moved _ induction =>
      have rest := induction (counted.step moved)
      have total : (event :: events).countP Event.stores =
          (if event.stores then 1 else 0) + events.countP Event.stores := by
        rw [List.countP_cons, Nat.add_comm]
      rw [total, ← Nat.add_assoc]
      exact rest

theorem Lifetime.Counted.conserved_iff {life : Lifetime} {stored : Nat}
    (counted : life.Counted stored) : life.Conserved ↔ stored = 0 := by
  have allocs := counted.allocs
  unfold Lifetime.Conserved
  split
  · next down =>
    rw [counted.freed down]
    omega
  · constructor
    · intro owned
      -- Every page that is allocated is in a slot.
      have slots : life.memory.allocated ⊆
          (Finset.range life.memory.size).image fun i =>
            (life.memory.pages i).page := by
        intro page member
        obtain ⟨i, ⟨inside, found⟩, -⟩ := owned page member
        exact Finset.mem_image.mpr ⟨i, Finset.mem_range.mpr inside, found⟩
      have bound := (Finset.card_le_card slots).trans Finset.card_image_le
      rw [Finset.card_range, counted.size, counted.live] at bound
      omega
    · exact counted.untouched

/-- No page is leaked in a run exactly when no retrieval gets as far as
putting a page in a slot. -/
theorem pages_owned_iff {frames : Nat → Nat} {contents : Nat → Bytes}
    (distinct : Set.InjOn frames (Finset.range memorySize))
    {events : List Event} {life : Lifetime}
    (run : lifetimeMachine.Run Machine.anyInput (.init frames contents) events
      life) :
    life.Conserved ↔ ∀ event ∈ events, ¬event.stores := by
  have counted := (Lifetime.init_counted distinct contents).run run
  rw [counted.conserved_iff, Nat.zero_add, List.countP_eq_zero]

/-- A retrieval whose first page does not arrive, and the end. -/
private def refusedRetrieval : List Event :=
  [.retrievePages 14 2, .receivePage ⟨-110, fun _ => 0, none⟩, .destroy]

theorem pages_owned_refused :
    ∃ life, lifetimeMachine.Run Machine.anyInput (.init id fun _ _ => 0)
      refusedRetrieval life ∧ life.Conserved := by
  obtain ⟨life, executed⟩ : ∃ life, lifetimeMachine.exec
      (.init id fun _ _ => 0) refusedRetrieval = some life :=
    Option.isSome_iff_exists.mp (by decide +kernel)
  have run := Machine.run_of_exec executed
  exact ⟨life, run, (pages_owned_iff (Set.injOn_id _) run).mpr (by decide)⟩

/-- A retrieval of one page. -/
private def oneRetrieval : List Event :=
  [.retrievePages 14 1, .receivePage ⟨4096, fun _ => 0, some 300⟩]

/-- The page that `memory_init` has put in slot 0 is in no slot after one
page has been retrieved. -/
theorem retrieved_page_leaks :
    ¬∀ frames contents events life,
      Set.InjOn frames (Finset.range memorySize) →
      lifetimeMachine.Run Machine.anyInput (.init frames contents) events
        life → life.Conserved := by
  intro always
  obtain ⟨life, executed⟩ : ∃ life, lifetimeMachine.exec
      (.init id fun _ _ => 0) oneRetrieval = some life :=
    Option.isSome_iff_exists.mp (by decide +kernel)
  have run := Machine.run_of_exec executed
  have counted :=
    (Lifetime.init_counted (Set.injOn_id _) fun _ _ => 0).run run
  have conserved := always id (fun _ _ => 0) oneRetrieval life
    (Set.injOn_id _) run
  exact absurd (counted.conserved_iff.mp conserved) (by decide)

end Rshm.Mm
