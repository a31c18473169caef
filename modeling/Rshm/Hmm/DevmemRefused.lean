import Rshm.Hmm.DevmemHeld

/-!
# Refused allocations

What one call of the allocator takes from the kernel and gives back, section
by section.  An allocation that the kernel refuses anything gives back what it
took, newest first, and leaves the counters and the free list alone; run on
its own it leaves the frames, the regions and the chunks of the device as it
found them.
-/

namespace Rshm.Hmm.Devmem

def Caller.resources : Caller → List Resource
  | deviceInit => []
  | devmemAllocPage rpage => [.frame rpage]

namespace Stage

/-- What a call that has not committed holds, newest first. -/
def resources : Stage → List Resource
  | popFree rpage => [.frame rpage]
  | kzallocChunk caller => caller.resources
  | requestRegion caller devmem => .chunk devmem :: caller.resources
  | register caller devmem start =>
      .region start :: .chunk devmem :: caller.resources
  | releaseRegion caller devmem start =>
      .region start :: .chunk devmem :: caller.resources
  | freeChunk caller devmem => .chunk devmem :: caller.resources
  | freeRpage rpage => [.frame rpage]
  | _ => []

/-- The error path of an allocation. -/
def unwinding : Stage → Bool
  | releaseRegion _ _ _ => true
  | freeChunk _ _ => true
  | freeRpage _ => true
  | returned none => true
  | chunkReturned false => true
  | _ => false

/-- Past the point from which an allocation cannot fail; a free counts as
committed from its start. -/
def committed : Stage → Bool
  | pushPages _ _ _ => true
  | initPage _ _ => true
  | returned (some _) => true
  | chunkReturned true => true
  | pushFree _ => true
  | freed => true
  | _ => false

end Stage

namespace Call

/-- An allocation that has returned an error. -/
def Failed (call : Call) : Prop :=
  call.stage = .returned none ∨ call.stage = .chunkReturned false

/-- What a call took, gave back and was refused, by its stage. -/
structure Ledger (call : Call) : Prop where
  refusedIff : call.refused = call.stage.unwinding
  givesLast : call.stage.unwinding = false → call.given = []
  balanced : call.stage.committed = false →
    call.taken = call.given.reverse ++ call.stage.resources

theorem Ledger.start (stage : Stage) (forward : stage.unwinding = false)
    (empty : stage.resources = []) : (Call.start stage).Ledger where
  refusedIff := forward.symm
  givesLast := fun _ => rfl
  balanced := by
    intro _
    simp [Call.start, empty]

private theorem failed_unwinding (caller : Caller) :
    caller.failed.unwinding = true := by
  cases caller <;> rfl

private theorem failed_resources (caller : Caller) :
    caller.failed.resources = caller.resources := by
  cases caller <;> rfl

theorem Ledger.moves {call call' : Call} (ledger : call.Ledger)
    (moves : call.Moves call') : call'.Ledger := by
  obtain ⟨refusedIff, givesLast, balanced⟩ := ledger
  -- Taking adds to both sides while nothing has been given back yet.
  have take (resource : Resource) (stage : Stage)
      (forward : call.stage.unwinding = false)
      (open_ : call.stage.committed = false)
      (still : stage.unwinding = false)
      (grows : stage.resources = resource :: call.stage.resources) :
      (call.take resource stage).Ledger := by
    refine ⟨refusedIff.trans (forward.trans still.symm),
      fun _ => givesLast forward, ?_⟩
    intro _
    simp [Call.take, balanced open_, givesLast forward, grows]
  have refuse (stage : Stage) (open_ : call.stage.committed = false)
      (back : stage.unwinding = true)
      (same : stage.resources = call.stage.resources) :
      (call.refuse stage).Ledger := by
    refine ⟨back.symm, ?_, ?_⟩
    · intro forward
      simp [back] at forward
    · intro _
      simp [Call.refuse, balanced open_, same]
  have give (resource : Resource) (stage : Stage)
      (back : call.stage.unwinding = true)
      (open_ : call.stage.committed = false)
      (still : stage.unwinding = true)
      (shrinks : call.stage.resources = resource :: stage.resources) :
      (call.give resource stage).Ledger := by
    refine ⟨refusedIff.trans (back.trans still.symm), ?_, ?_⟩
    · intro forward
      simp [still] at forward
    · intro _
      simp [Call.give, balanced open_, shrinks]
  have commit (stage : Stage) (forward : call.stage.unwinding = false)
      (still : stage.unwinding = false) (done : stage.committed = true) :
      (call.goto stage).Ledger := by
    refine ⟨refusedIff.trans (forward.trans still.symm),
      fun _ => givesLast forward, ?_⟩
    intro open_
    simp [done] at open_
  cases moves with
  | gotRpage at_ => apply take <;> (try rw [at_]) <;> rfl
  | noRpage at_ => apply refuse <;> (try rw [at_]) <;> rfl
  | popped at_ => apply commit <;> (try rw [at_]) <;> rfl
  | listEmpty at_ =>
      refine ⟨by rw [Call.goto, refusedIff, at_]; rfl, ?_, ?_⟩
      · intro _
        exact givesLast (by rw [at_]; rfl)
      · intro _
        rw [Call.goto, balanced (by rw [at_]; rfl), at_]
        rfl
  | gotChunk at_ => apply take <;> (try rw [at_]) <;> rfl
  | noChunk at_ =>
      apply refuse
      · rw [at_]
        rfl
      · exact failed_unwinding _
      · rw [at_]
        exact failed_resources _
  | gotRegion at_ => apply take <;> (try rw [at_]) <;> rfl
  | noRegion at_ => apply refuse <;> (try rw [at_]) <;> rfl
  | registered at_ => apply commit <;> (try rw [at_]) <;> rfl
  | unregistered at_ => apply refuse <;> (try rw [at_]) <;> rfl
  | filled at_ => apply commit <;> (try rw [at_]) <;> rfl
  | filledPopped at_ => apply commit <;> (try rw [at_]) <;> rfl
  | regionReleased at_ => apply give <;> (try rw [at_]) <;> rfl
  | chunkFreed at_ =>
      apply give
      · rw [at_]
        rfl
      · rw [at_]
        rfl
      · exact failed_unwinding _
      · rw [at_, failed_resources]
        rfl
  | rpageFreed at_ => apply give <;> (try rw [at_]) <;> rfl
  | initialised at_ => apply commit <;> (try rw [at_]) <;> rfl
  | pushed at_ => apply commit <;> (try rw [at_]) <;> rfl

theorem Moves.committed {call call' : Call} (moves : call.Moves call')
    (done : call.stage.committed = true) : call'.stage.committed = true := by
  cases moves <;> simp_all [Stage.committed]

end Call

namespace Device

theorem step_moves {config : Config} {device next : Device} {input : Input}
    {id : Nat} {call : Call} (here : device.calls id = some call)
    (stays : input ≠ .leave id)
    (moved : device.step config input = some next) :
    ∃ call', next.calls id = some call' ∧
      (call' = call ∨ call.Moves call') := by
  by_cases thread : input.thread = some id
  · have busy {entered : Option Device}
        (moved : device.enter id entered = some next) : False := by
      have idle := (enter_spec moved).1
      rw [here] at idle
      cases idle
    cases input with
    | devmemAllocPage other =>
        cases thread
        exact (busy moved).elim
    | allocateChunk other =>
        cases thread
        exact (busy moved).elim
    | devmemFree other page =>
        cases thread
        exact (busy moved).elim
    | advance other answer =>
        cases thread
        obtain ⟨before, after, standing, moves, result⟩ := advance_moves moved
        rw [here, Option.some.injEq] at standing
        subst standing
        exact ⟨after, by rw [result, Function.update_self], .inr moves⟩
    | leave other =>
        cases thread
        exact absurd rfl stays
    | _ => cases thread
  · refine ⟨call, ?_, .inl rfl⟩
    rw [step_calls moved thread]
    exact here

/-- What a section of a call does to what is out, as the lists of the call
record it: nothing, or it takes one resource that nobody had, or it gives back
one that was out. -/
inductive Books (device next : Device) (before after : Call) : Prop
  | same : (∀ other, next.Out other ↔ device.Out other) →
      after.taken = before.taken → after.given = before.given →
      Books device next before after
  | took (resource : Resource) : ¬device.Out resource →
      (∀ other, next.Out other ↔ device.Out other ∨ other = resource) →
      after.taken = resource :: before.taken →
      after.given = before.given → Books device next before after
  | gave (resource : Resource) : device.Out resource →
      (∀ other, next.Out other ↔ device.Out other ∧ other ≠ resource) →
      after.taken = before.taken →
      after.given = resource :: before.given →
      Books device next before after

theorem Apart.fresh {config : Config} {regions : Finset Nat} {start : Nat}
    (apart : ∀ other ∈ regions, Apart config start other) :
    start ∉ regions := by
  intro member
  have far := apart start member
  have positive := config.positive
  unfold Apart at far
  omega

private theorem Books.goto {device device' : Device} {id : Nat}
    {before after : Call} (frames : device'.frames = device.frames)
    (regions : device'.regions = device.regions)
    (chunk : ∀ devmem, device'.chunk devmem ≠ none ↔
      device.chunk devmem ≠ none)
    (taken : after.taken = before.taken) (given : after.given = before.given) :
    Books device (device'.setCall id after) before after := by
  refine .same ?_ taken given
  rintro (rpage | devmem | start)
  · show rpage ∈ device'.frames ↔ rpage ∈ device.frames
    rw [frames]
  · exact chunk devmem
  · show start ∈ device'.regions ↔ start ∈ device.regions
    rw [regions]

/-- The frames, the regions and the chunks that are out, with what the chunks
contain. -/
structure KernelSide where
  frames : Finset Page
  regions : Finset Nat
  chunk : Nat → Option DmirrorChunk

/-- What is left of the kernel's side when a call at a stage gives back all it
has. -/
def without (device : Device) (at_ : Stage) : KernelSide where
  frames := at_.rpage.elim device.frames device.frames.erase
  regions := at_.range.elim device.regions device.regions.erase
  chunk := at_.devmem.elim device.chunk
    fun devmem => Function.update device.chunk devmem none

theorem Section.without {config : Config} {device left : Device}
    {free : List Page} {call after : Call}
    (ends : Section config device call left after)
    (sound : Sound config device free) :
    after.stage.committed = true ∨
      left.without after.stage = device.without call.stage := by
  cases ends with
  | popped _ _ | registered _ _ | filled _ _ | filledPopped _ _
  | initialised _ | dropped _ _ _ | pushed _ _ _ => exact .inl rfl
  | noRpage at_ | listEmpty at_ _ | noRegion at_ | unregistered at_ _
  | rpageFreed at_ =>
      refine .inr ?_
      rw [at_]
      rfl
  | @noChunk caller at_ | @chunkFreed caller _ at_ =>
      refine .inr ?_
      rw [at_]
      cases caller <;> rfl
  | gotRpage at_ fresh =>
      refine .inr ?_
      simp [Device.without, at_, Stage.rpage, Stage.range, Stage.devmem,
        fresh]
  | gotChunk at_ =>
      have unmade := (sound.table.unmade device.chunksMade (Nat.le_refl _)).1
      refine .inr ?_
      simp [Device.without, at_, Stage.rpage, Stage.range, Stage.devmem,
        ← unmade]
  | gotRegion at_ apart =>
      have fresh := Apart.fresh apart
      refine .inr ?_
      simp [Device.without, at_, Stage.rpage, Stage.range, Stage.devmem,
        fresh]
  | regionReleased at_ =>
      refine .inr ?_
      simp [Device.without, at_, Stage.rpage, Stage.range, Stage.devmem]

end Device

end Rshm.Hmm.Devmem
