import Rshm.Hmm.DevmemLive

/-!
# Who has what the kernel handed out

Backing pages, chunks and memory regions come from the kernel's allocators.
Without a RELEASE each of them that has not been given back is with exactly
one holder: a call in progress, `devmem_chunks`, or a referenced device page
whose `zone_device_data` it is.
-/

namespace Rshm.Hmm.Devmem

open IntrusiveList

def Caller.rpage : Caller → Option Page
  | deviceInit => none
  | devmemAllocPage rpage => some rpage

/-- The backing page of a call that has not stored it in a device page. -/
def Stage.rpage : Stage → Option Page
  | popFree rpage => some rpage
  | kzallocChunk caller => caller.rpage
  | requestRegion caller _ => caller.rpage
  | register caller _ _ => caller.rpage
  | pushPages caller _ _ => caller.rpage
  | releaseRegion caller _ _ => caller.rpage
  | freeChunk caller _ => caller.rpage
  | freeRpage rpage => some rpage
  | initPage rpage _ => some rpage
  | _ => none

theorem Caller.failed_rpage (caller : Caller) :
    caller.failed.rpage = caller.rpage := by
  cases caller <;> rfl

/-- Every backing page is either with one call or in one referenced device
page.  `held` gives the page of each call. -/
structure Backing (frames referenced : Finset Page)
    (backs : Page → Option Page) (held : Nat → Option Page) : Prop where
  called : ∀ id rpage, held id = some rpage →
    rpage ∈ frames ∧ ∀ dpage ∈ referenced, backs dpage ≠ some rpage
  calledOnce : ∀ id other rpage, held id = some rpage →
    held other = some rpage → id = other
  stored : ∀ dpage ∈ referenced, ∃ rpage, backs dpage = some rpage ∧
    rpage ∈ frames
  storedOnce : ∀ dpage ∈ referenced, ∀ other ∈ referenced, ∀ rpage,
    backs dpage = some rpage → backs other = some rpage → dpage = other
  somewhere : ∀ rpage ∈ frames, (∃ id, held id = some rpage) ∨
    ∃ dpage ∈ referenced, backs dpage = some rpage
  system : ∀ rpage ∈ frames, ∃ pfn, rpage = .normal pfn

/-- The chunks and regions that are out are those of the calls and of
`devmem_chunks`. -/
structure Chunked (chunk : Nat → Option DmirrorChunk) (regions : Finset Nat)
    (listed : Nat → Prop) (stage : Nat → Option Stage) : Prop where
  somewhere : ∀ devmem, chunk devmem ≠ none → listed devmem ∨
    ∃ id at_, stage id = some at_ ∧ at_.devmem = some devmem
  ranged : ∀ start ∈ regions, ∃ devmem found, chunk devmem = some found ∧
    found.range = some start
  registered : ∀ devmem, listed devmem → chunk devmem ≠ none

namespace Backing

variable {frames referenced : Finset Page} {backs : Page → Option Page}
  {held : Nat → Option Page}

/-- `alloc_page`. -/
theorem take (backing : Backing frames referenced backs held) {id pfn : Nat}
    (fresh : Page.normal pfn ∉ frames) (idle : held id = none) :
    Backing (insert (Page.normal pfn) frames) referenced backs
      (Function.update held id (some (.normal pfn))) where
  called := by
    have called := backing.called
    have stored := backing.stored
    grind
  calledOnce := by
    have called := backing.called
    have calledOnce := backing.calledOnce
    grind
  stored := by
    have stored := backing.stored
    grind
  storedOnce := backing.storedOnce
  somewhere := by
    intro rpage member
    rcases Finset.mem_insert.mp member with rfl | old
    · exact .inl ⟨id, Function.update_self ..⟩
    rcases backing.somewhere rpage old with ⟨other, there⟩ | stored
    · refine .inl ⟨other, ?_⟩
      rw [Function.update_of_ne (by grind), there]
    · exact .inr stored
  system := by
    have system := backing.system
    grind

/-- `__free_page` of a call that could not use its page. -/
theorem give (backing : Backing frames referenced backs held) {id : Nat}
    {rpage : Page} (has : held id = some rpage) :
    Backing (frames.erase rpage) referenced backs
      (Function.update held id none) where
  called := by
    have called := backing.called
    have calledOnce := backing.calledOnce
    grind
  calledOnce := by
    have calledOnce := backing.calledOnce
    grind
  stored := by
    have stored := backing.stored
    have called := backing.called
    grind
  storedOnce := backing.storedOnce
  somewhere := by
    intro other member
    obtain ⟨different, old⟩ := Finset.mem_erase.mp member
    rcases backing.somewhere other old with ⟨caller, there⟩ | stored
    · refine .inl ⟨caller, ?_⟩
      rw [Function.update_of_ne (by grind), there]
    · exact .inr stored
  system := by
    have system := backing.system
    grind

/-- The page goes from the call into `zone_device_data` of its device
page. -/
theorem store (backing : Backing frames referenced backs held) {id : Nat}
    {rpage dpage : Page} (has : held id = some rpage)
    (fresh : dpage ∉ referenced) :
    Backing frames (insert dpage referenced)
      (Function.update backs dpage (some rpage))
      (Function.update held id none) where
  called := by
    have called := backing.called
    have calledOnce := backing.calledOnce
    grind
  calledOnce := by
    have calledOnce := backing.calledOnce
    grind
  stored := by
    have stored := backing.stored
    have called := backing.called
    grind
  storedOnce := by
    have storedOnce := backing.storedOnce
    have called := backing.called
    grind
  somewhere := by
    intro other member
    by_cases same : other = rpage
    · subst same
      exact .inr ⟨dpage, Finset.mem_insert_self .., Function.update_self ..⟩
    rcases backing.somewhere other member with ⟨caller, there⟩ | stored
    · refine .inl ⟨caller, ?_⟩
      rw [Function.update_of_ne (by grind), there]
    · obtain ⟨page, within, backed⟩ := stored
      refine .inr ⟨page, Finset.mem_insert_of_mem within, ?_⟩
      rw [Function.update_of_ne (by grind), backed]
  system := backing.system

/-- `__free_page` of a device page that lost its last reference. -/
theorem drop (backing : Backing frames referenced backs held)
    {rpage dpage : Page} (member : dpage ∈ referenced)
    (backed : backs dpage = some rpage) :
    Backing (frames.erase rpage) (referenced.erase dpage) backs held where
  called := by
    have called := backing.called
    grind
  calledOnce := backing.calledOnce
  stored := by
    have stored := backing.stored
    have storedOnce := backing.storedOnce
    grind
  storedOnce := by
    have storedOnce := backing.storedOnce
    grind
  somewhere := by
    have somewhere := backing.somewhere
    grind
  system := by
    have system := backing.system
    grind

theorem relink (backing : Backing frames referenced backs held)
    {links : Page → Option Page}
    (agree : ∀ dpage ∈ referenced, links dpage = backs dpage) :
    Backing frames referenced links held where
  called := by
    have called := backing.called
    grind
  calledOnce := backing.calledOnce
  stored := by
    have stored := backing.stored
    grind
  storedOnce := by
    have storedOnce := backing.storedOnce
    grind
  somewhere := by
    have somewhere := backing.somewhere
    grind
  system := backing.system

end Backing

namespace Chunked

variable {config : Config} {chunk : Nat → Option DmirrorChunk} {made : Nat}
  {regions : Finset Nat} {listed : Nat → Prop} {stage : Nat → Option Stage}

/-- A chunk that is out stays with its call or in `devmem_chunks`. -/
private theorem stays (chunked : Chunked chunk regions listed stage)
    (id : Nat) (after : Option Stage) {devmem : Nat}
    (out : chunk devmem ≠ none)
    (same : ∀ at_, stage id = some at_ → at_.devmem = some devmem →
      (∃ at', after = some at' ∧ at'.devmem = some devmem) ∨
        listed devmem) :
    listed devmem ∨ ∃ other at_,
      Function.update stage id after other = some at_ ∧
        at_.devmem = some devmem := by
  rcases chunked.somewhere devmem out with within | ⟨other, at_, there, builds⟩
  · exact .inl within
  · by_cases here : other = id
    · subst here
      rcases same at_ there builds with ⟨at', result, builds'⟩ | within
      · exact .inr ⟨other, at', (Function.update_self ..).trans result, builds'⟩
      · exact .inl within
    · exact .inr ⟨other, at_, (Function.update_of_ne here ..).trans there,
        builds⟩

private theorem rewritten (chunked : Chunked chunk regions listed stage)
    {devmem start : Nat} (written : Option DmirrorChunk)
    (member : start ∈ regions)
    (other : ∀ found, chunk devmem = some found →
      found.range ≠ some start) :
    ∃ owner found,
      Function.update chunk devmem written owner = some found ∧
        found.range = some start := by
  obtain ⟨owner, found, alive, ranged⟩ := chunked.ranged start member
  refine ⟨owner, found, ?_, ranged⟩
  rw [Function.update_of_ne, alive]
  rintro rfl
  exact other found alive ranged

/-- A call moves on with the chunk it is building, or leaves it to
`devmem_chunks`. -/
theorem goto (chunked : Chunked chunk regions listed stage) (id : Nat)
    (after : Option Stage)
    (same : ∀ at_ devmem, stage id = some at_ → at_.devmem = some devmem →
      (∃ at', after = some at' ∧ at'.devmem = some devmem) ∨
        listed devmem) :
    Chunked chunk regions listed (Function.update stage id after) where
  somewhere := by
    intro devmem out
    exact chunked.stays id after out fun at_ => same at_ devmem
  ranged := chunked.ranged
  registered := chunked.registered

theorem kzalloc (chunked : Chunked chunk regions listed stage)
    (table : ChunkTable config chunk made regions listed stage) (id : Nat)
    {after : Stage}
    (idle : ∀ at_, stage id = some at_ → at_.devmem = none)
    (builds : after.devmem = some made) :
    Chunked (Function.update chunk made (some ⟨none, false⟩)) regions listed
      (Function.update stage id (some after)) where
  somewhere := by
    intro devmem out
    by_cases new : devmem = made
    · exact .inr ⟨id, after, Function.update_self .., new ▸ builds⟩
    · rw [Function.update_of_ne new] at out
      apply chunked.stays id _ out
      intro at_ there builds'
      rw [idle at_ there] at builds'
      cases builds'
  ranged := by
    intro start member
    apply chunked.rewritten _ member
    intro found alive
    rw [(table.unmade made (Nat.le_refl _)).1] at alive
    cases alive
  registered := by
    have registered := chunked.registered
    grind

theorem request (chunked : Chunked chunk regions listed stage)
    (table : ChunkTable config chunk made regions listed stage)
    {id devmem start : Nat} {before after : Stage}
    (here : stage id = some before) (built : before.devmem = some devmem)
    (unranged : before.range = none) (builds : after.devmem = some devmem) :
    Chunked (Function.update chunk devmem (some ⟨some start, false⟩))
      (insert start regions) listed
      (Function.update stage id (some after)) where
  somewhere := by
    intro other out
    by_cases new : other = devmem
    · exact .inr ⟨id, after, Function.update_self .., new ▸ builds⟩
    · rw [Function.update_of_ne new] at out
      apply chunked.stays id _ out
      intro at_ there builds'
      rw [here, Option.some.injEq] at there
      subst there
      exact absurd (Option.some.inj (builds'.symm.trans built)) new
  ranged := by
    intro other member
    by_cases new : other = start
    · exact ⟨devmem, _, Function.update_self .., congrArg some new.symm⟩
    · apply chunked.rewritten _ (Finset.mem_of_mem_insert_of_ne member new)
      intro found alive
      rw [table.built id before devmem here built, unranged,
        Option.some.injEq] at alive
      rw [← alive]
      simp
  registered := by
    have registered := chunked.registered
    grind

theorem release (chunked : Chunked chunk regions listed stage)
    (table : ChunkTable config chunk made regions listed stage)
    {id devmem start : Nat} {before after : Stage}
    (here : stage id = some before) (built : before.devmem = some devmem)
    (ranged : before.range = some start)
    (builds : after.devmem = some devmem) :
    Chunked (Function.update chunk devmem (some ⟨none, false⟩))
      (regions.erase start) listed
      (Function.update stage id (some after)) where
  somewhere := by
    intro other out
    by_cases new : other = devmem
    · exact .inr ⟨id, after, Function.update_self .., new ▸ builds⟩
    · rw [Function.update_of_ne new] at out
      apply chunked.stays id _ out
      intro at_ there builds'
      rw [here, Option.some.injEq] at there
      subst there
      exact absurd (Option.some.inj (builds'.symm.trans built)) new
  ranged := by
    intro other member
    obtain ⟨different, old⟩ := Finset.mem_erase.mp member
    apply chunked.rewritten _ old
    intro found alive
    rw [table.built id before devmem here built, ranged,
      Option.some.injEq] at alive
    rw [← alive]
    simpa using different.symm
  registered := by
    have registered := chunked.registered
    grind

theorem kfree (chunked : Chunked chunk regions listed stage)
    (table : ChunkTable config chunk made regions listed stage)
    {id devmem : Nat} {before after : Stage}
    (here : stage id = some before) (built : before.devmem = some devmem)
    (unranged : before.range = none) (unpushed : before.pushing = false) :
    Chunked (Function.update chunk devmem none) regions listed
      (Function.update stage id (some after)) where
  somewhere := by
    intro other out
    by_cases gone : other = devmem
    · exact absurd (gone ▸ Function.update_self ..) out
    · rw [Function.update_of_ne gone] at out
      apply chunked.stays id _ out
      intro at_ there builds'
      rw [here, Option.some.injEq] at there
      subst there
      exact absurd (Option.some.inj (builds'.symm.trans built)) gone
  ranged := by
    intro start member
    apply chunked.rewritten _ member
    intro found alive
    rw [table.built id before devmem here built, unranged,
      Option.some.injEq] at alive
    rw [← alive]
    simp
  registered := by
    have registered := chunked.registered
    have listedIff := table.listedIff id before devmem here built
    grind

/-- The chunk of a call enters `devmem_chunks`. -/
theorem register (chunked : Chunked chunk regions listed stage)
    (table : ChunkTable config chunk made regions listed stage)
    {id devmem : Nat} {before : Stage} (after : Stage) {listed' : Nat → Prop}
    (here : stage id = some before) (built : before.devmem = some devmem)
    (grows : ∀ other, listed' other ↔ listed other ∨ other = devmem) :
    Chunked chunk regions listed'
      (Function.update stage id (some after)) where
  somewhere := by
    intro other out
    by_cases new : other = devmem
    · exact .inl ((grows other).mpr (.inr new))
    · have kept := chunked.stays id (some after) out (by
        intro at_ there builds'
        rw [here, Option.some.injEq] at there
        subst there
        exact absurd (Option.some.inj (builds'.symm.trans built)) new)
      exact kept.imp_left fun within => (grows other).mpr (.inl within)
  ranged := chunked.ranged
  registered := by
    have registered := chunked.registered
    have exists_ := table.built id before devmem here built
    grind

end Chunked

/-- Who has a resource that was not given back. -/
inductive Holder where
  | call (id : Nat)
  | devmemChunks (devmem : Nat)
  | devicePage (dpage : Page)
  deriving DecidableEq

/-- What a call has until it is in `devmem_chunks` or in a device page. -/
def Stage.Holds (at_ : Stage) : Resource → Prop
  | .frame rpage => at_.rpage = some rpage
  | .chunk devmem => at_.devmem = some devmem ∧ at_.pushing = false
  | .region start => at_.range = some start ∧ at_.pushing = false

namespace Device

/-- What the kernel has handed out to the device and not got back. -/
def Out (device : Device) : Resource → Prop
  | .frame rpage => rpage ∈ device.frames
  | .chunk devmem => device.chunk devmem ≠ none
  | .region start => start ∈ device.regions

def Holds (device : Device) : Holder → Resource → Prop
  | .call id, resource =>
      ∃ at_, device.stage id = some at_ ∧ at_.Holds resource
  | .devmemChunks devmem, .chunk other =>
      device.Listed devmem ∧ other = devmem
  | .devmemChunks devmem, .region start =>
      device.Listed devmem ∧
        ∃ found, device.chunk devmem = some found ∧ found.range = some start
  | .devicePage dpage, .frame rpage =>
      dpage ∈ device.referenced ∧ device.zoneDeviceData dpage = some rpage
  | _, _ => False

/-- The backing pages of the calls. -/
def held (device : Device) (id : Nat) : Option Page :=
  (device.stage id).bind Stage.rpage

theorem held_of_stage {device : Device} {id : Nat} {at_ : Stage}
    (here : device.stage id = some at_) : device.held id = at_.rpage := by
  simp [held, here]

@[simp] theorem setCall_held (device : Device) (id : Nat) (call : Call) :
    (device.setCall id call).held =
      Function.update device.held id call.stage.rpage := by
  funext other
  by_cases same : other = id
  · subst same
    simp [held]
  · simp [held, same]

theorem clearCall_held (device : Device) (id : Nat) :
    { device with calls := Function.update device.calls id none }.held =
      Function.update device.held id none := by
  funext other
  rw [held, clearCall_stage]
  by_cases same : other = id
  · subst same
    simp
  · simp [held, same]

/-- The two invariants behind `Custody`. -/
structure Kept (device : Device) : Prop where
  backing : Backing device.frames device.referenced device.zoneDeviceData
    device.held
  chunked : Chunked device.chunk device.regions device.Listed device.stage

end Device

namespace Device

variable {config : Config} {device : Device} {free : List Page}

/-- A call moves on with the backing page it has and the chunk it is
building, or leaves the chunk to `devmem_chunks`. -/
theorem Kept.goto (kept : Kept device) {id : Nat} {call : Call}
    (here : device.calls id = some call) (after : Call)
    (same : after.stage.rpage = call.stage.rpage)
    (builds : ∀ devmem, call.stage.devmem = some devmem →
      after.stage.devmem = some devmem ∨ device.Listed devmem) :
    Kept (device.setCall id after) where
  backing := by
    have standing := held_of_stage (stage_of_call here)
    rw [setCall_held, same, ← standing, Function.update_eq_self]
    exact kept.backing
  chunked := by
    rw [setCall_stage]
    apply kept.chunked.goto
    intro at_ devmem there owns
    rw [stage_of_call here, Option.some.injEq] at there
    subst there
    exact (builds devmem owns).imp_left fun still => ⟨_, rfl, still⟩

theorem Kept.enter (kept : Kept device) {id : Nat}
    (idle : device.calls id = none) (stage : Stage)
    (empty : stage.rpage = none) :
    Kept (device.setCall id (Call.start stage)) where
  backing := by
    have silent : device.held id = none := by
      simp [held, Device.stage, idle]
    have same : (Call.start stage).stage.rpage = device.held id :=
      empty.trans silent.symm
    rw [setCall_held, same, Function.update_eq_self]
    exact kept.backing
  chunked := by
    rw [setCall_stage]
    apply kept.chunked.goto
    intro at_ devmem there
    simp [Device.stage, idle] at there

theorem Kept.leave (kept : Kept device) {id : Nat} {next : Device}
    (moved : device.leave id = some next) : Kept next := by
  rw [Device.leave] at moved
  split at moved
  · cases moved
  next call here =>
  split at moved
  · next returned =>
    cases moved
    have standing := stage_of_call here
    have empty : call.stage.rpage = none ∧ call.stage.devmem = none := by
      cases at_ : call.stage <;>
        simp_all [Device.Stage.returns, Stage.rpage, Stage.devmem]
    constructor
    · have silent := (held_of_stage standing).trans empty.1
      rw [clearCall_held, ← silent, Function.update_eq_self]
      exact kept.backing
    · rw [clearCall_stage]
      apply kept.chunked.goto
      intro at_ devmem there builds
      rw [standing, Option.some.injEq] at there
      rw [← there, empty.2] at builds
      cases builds
  · cases moved

theorem Kept.allocRpage (kept : Kept device) {id : Nat} {call : Call}
    (here : device.calls id = some call) (at_ : call.stage = .allocRpage)
    (frame : Option Nat) : Kept (device.allocRpage id call frame) := by
  have refused := kept.goto here (call.refuse (.returned none))
    (by rw [at_]; rfl) (by rw [at_]; intro _ builds; cases builds)
  unfold Device.allocRpage
  split
  · exact refused
  · split
    · exact refused
    · next fresh =>
      constructor
      · rw [setCall_held]
        apply kept.backing.take fresh
        rw [held_of_stage (stage_of_call here), at_]
        rfl
      · rw [setCall_stage]
        apply kept.chunked.goto
        intro at' devmem there builds
        rw [stage_of_call here, Option.some.injEq] at there
        rw [← there, at_] at builds
        cases builds

theorem Kept.handOut (kept : Kept device) {id : Nat} {call : Call}
    (here : device.calls id = some call) {rpage : Page} (dpage : Page)
    (has : call.stage.rpage = some rpage)
    (builds : ∀ devmem, call.stage.devmem = some devmem →
      device.Listed devmem) :
    Kept (device.handOut id call rpage dpage) := by
  have moved := kept.goto here (call.goto (.initPage rpage dpage)) has.symm
    fun devmem owns => .inr (builds devmem owns)
  exact ⟨moved.backing, moved.chunked⟩

theorem Kept.kzallocChunk (kept : Kept device)
    (sound : Sound config device free) {id : Nat} {call : Call}
    (here : device.calls id = some call) {caller : Caller}
    (at_ : call.stage = .kzallocChunk caller) (succeeds : Bool) :
    Kept (device.kzallocChunk id call caller succeeds) := by
  unfold Device.kzallocChunk
  split
  · have moved := kept.goto here (call.take (.chunk device.chunksMade)
      (.requestRegion caller device.chunksMade)) (by rw [at_]; rfl)
      (by rw [at_]; intro _ builds; cases builds)
    refine ⟨moved.backing, ?_⟩
    rw [setCall_stage]
    apply kept.chunked.kzalloc sound.table
    · intro at' there
      rw [stage_of_call here, Option.some.injEq] at there
      rw [← there, at_]
      rfl
    · rfl
  · apply kept.goto here
    · rw [at_]
      exact caller.failed_rpage
    · rw [at_]
      intro devmem builds
      cases builds

theorem Kept.requestRegion (kept : Kept device)
    (sound : Sound config device free) {id : Nat} {call : Call}
    (here : device.calls id = some call) {caller : Caller} {devmem : Nat}
    (at_ : call.stage = .requestRegion caller devmem)
    (region : Option Nat) :
    Kept (device.requestRegion config id call caller devmem region) := by
  have refused := kept.goto here (call.refuse (.freeChunk caller devmem))
    (by rw [at_]; rfl) (by rw [at_]; exact fun _ builds => .inl builds)
  unfold Device.requestRegion
  split
  · exact refused
  · next start =>
    split
    · have moved := kept.goto here
        (call.take (.region start) (.register caller devmem start))
        (by rw [at_]; rfl) (by rw [at_]; exact fun _ builds => .inl builds)
      refine ⟨moved.backing, ?_⟩
      rw [setCall_stage]
      exact kept.chunked.request sound.table (stage_of_call here)
        (by rw [at_]; rfl) (by rw [at_]; rfl) rfl
    · exact refused

theorem Kept.releaseRegion (kept : Kept device)
    (sound : Sound config device free) {id : Nat} {call : Call}
    (here : device.calls id = some call) {caller : Caller}
    {devmem start : Nat}
    (at_ : call.stage = .releaseRegion caller devmem start) :
    Kept (device.releaseRegion id call caller devmem start) := by
  have moved := kept.goto here
    (call.give (.region start) (.freeChunk caller devmem)) (by rw [at_]; rfl)
    (by rw [at_]; exact fun _ builds => .inl builds)
  refine ⟨moved.backing, ?_⟩
  rw [Device.releaseRegion, setCall_stage]
  exact kept.chunked.release sound.table (stage_of_call here)
    (by rw [at_]; rfl) (by rw [at_]; rfl) rfl

theorem Kept.freeChunk (kept : Kept device)
    (sound : Sound config device free) {id : Nat} {call : Call}
    (here : device.calls id = some call) {caller : Caller} {devmem : Nat}
    (at_ : call.stage = .freeChunk caller devmem) :
    Kept (device.freeChunk id call caller devmem) := by
  constructor
  · have same : (call.give (.chunk devmem) caller.failed).stage.rpage =
        device.held id := by
      rw [held_of_stage (stage_of_call here), at_]
      exact caller.failed_rpage
    rw [Device.freeChunk, setCall_held, same]
    show Backing _ _ _ (Function.update device.held id (device.held id))
    rw [Function.update_eq_self]
    exact kept.backing
  · rw [Device.freeChunk, setCall_stage]
    exact kept.chunked.kfree sound.table (stage_of_call here)
      (by rw [at_]; rfl) (by rw [at_]; rfl) (by rw [at_]; rfl)

theorem Kept.freeRpage (kept : Kept device) {id : Nat} {call : Call}
    (here : device.calls id = some call) {rpage : Page}
    (at_ : call.stage = .freeRpage rpage) :
    Kept (device.freeRpage id call rpage) := by
  have standing := held_of_stage (stage_of_call here)
  rw [at_] at standing
  constructor
  · rw [Device.freeRpage, setCall_held]
    exact kept.backing.give standing
  · rw [Device.freeRpage, setCall_stage]
    apply kept.chunked.goto
    intro at' devmem there builds
    rw [stage_of_call here, Option.some.injEq] at there
    rw [← there, at_] at builds
    cases builds

theorem Kept.initPage (kept : Kept device) (sound : Sound config device free)
    {id : Nat} {call : Call} (here : device.calls id = some call)
    {rpage dpage : Page} (at_ : call.stage = .initPage rpage dpage) :
    Kept (device.initPage id call rpage dpage) := by
  have standing := held_of_stage (stage_of_call here)
  rw [at_] at standing
  have unpinned := (sound.use.popped id call.stage dpage (stage_of_call here)
    (by rw [at_]; rfl)).2
  constructor
  · rw [Device.initPage, setCall_held]
    apply kept.backing.store standing
    exact fun member => unpinned (sound.use.referencedPinned member)
  · rw [Device.initPage, setCall_stage]
    apply kept.chunked.goto
    intro at' devmem there builds
    rw [stage_of_call here, Option.some.injEq] at there
    rw [← there, at_] at builds
    cases builds

/-- A referenced page lies in the region of a chunk of `devmem_chunks`. -/
theorem referenced_settled (sound : Sound config device free)
    {dpage : Page} (member : dpage ∈ device.referenced) :
    Settled config device.pgmap device.chunk device.Listed dpage :=
  sound.list.settled dpage
    (.inr (sound.use.pinnedUsed (sound.use.referencedPinned member)))

theorem Kept.devmemFree (kept : Kept device)
    (sound : Sound config device free) {id : Nat} {page : Page}
    {next : Device} (idle : device.calls id = none)
    (moved : device.devmemFree id page = some next) : Kept next := by
  unfold Device.devmemFree at moved
  split at moved
  · next member =>
    split at moved
    · cases moved
    · next rpage backed =>
      have apart : rpage ≠ page := by
        obtain ⟨other, backed', out⟩ := kept.backing.stored page member
        rw [backed, Option.some.injEq] at backed'
        subst backed'
        obtain ⟨pfn, rfl⟩ := kept.backing.system rpage out
        obtain ⟨_, _, _, _, _, _, inside, _⟩ :=
          referenced_settled sound member
        rintro rfl
        exact inside.elim
      rw [if_pos apart] at moved
      cases moved
      have entered := kept.enter idle (.pushFree page) rfl
      refine ⟨?_, entered.chunked⟩
      have silent : device.held id = none := by
        simp [held, Device.stage, idle]
      have same : (Call.start (.pushFree page)).stage.rpage =
          device.held id := silent.symm
      rw [setCall_held, same]
      show Backing _ _ _ (Function.update device.held id (device.held id))
      rw [Function.update_eq_self]
      exact kept.backing.drop member backed
  · cases moved

/-- The referenced pages and their backing pages are the same. -/
structure SameLinks (device next : Device) : Prop where
  referenced : next.referenced = device.referenced
  links : ∀ dpage ∈ device.referenced,
    next.zoneDeviceData dpage = device.zoneDeviceData dpage

theorem register_links (sound : Sound config device free) {id : Nat}
    {call : Call} (here : device.calls id = some call) {caller : Caller}
    {devmem start : Nat} (at_ : call.stage = .register caller devmem start)
    {answer : Answer} {next : Device}
    (moved : device.register config id call caller devmem start answer =
      some next) : device.SameLinks next := by
  have standing := stage_of_call here
  have built : call.stage.devmem = some devmem := by rw [at_]; rfl
  rw [Device.register] at moved
  split at moved
  · cases moved
  split at moved
  · cases moved
    exact ⟨rfl, fun _ _ => rfl⟩
  next grown grew =>
  obtain ⟨capacity, room, rfl⟩ := growChunks_frame grew
  split at moved
  · cases moved
    refine ⟨rfl, ?_⟩
    intro dpage member
    obtain ⟨other, found, first, -, alive, ranged, inside, listed⟩ :=
      referenced_settled sound member
    have different : other ≠ devmem := by
      rintro rfl
      have pushes := (sound.table.listedIff id call.stage other standing
        built).mp listed
      rw [at_] at pushes
      cases pushes
    have mine := sound.table.built id call.stage devmem standing built
    have far := sound.table.apart other devmem found _ first start
      different alive mine ranged (by rw [at_]; rfl)
    exact if_neg (inside.apart far)
  · cases moved
    exact ⟨rfl, fun _ _ => rfl⟩

theorem pushPages_links (sound : Sound config device free) {id : Nat}
    {call : Call} (here : device.calls id = some call) {caller : Caller}
    {devmem start : Nat} (at_ : call.stage = .pushPages caller devmem start)
    {next : Device}
    (moved : device.pushPages config id call caller start = some next) :
    device.SameLinks next := by
  have standing := stage_of_call here
  have built : call.stage.devmem = some devmem := by rw [at_]; rfl
  have pushes : call.stage.pushing = true := by rw [at_]; rfl
  have fresh : ∀ pfn, start ≤ pfn → pfn < start + config.chunkPages →
      ¬(.devicePrivate config.mdevice pfn ∈ free ∨
        .devicePrivate config.mdevice pfn ∈ device.inUse) := by
    intro pfn lower upper known
    apply sound.list.unpushed id call.stage devmem standing pushes built _
      known
    exact sound.list.mapped id call.stage devmem start standing pushes built
      (by rw [at_]; rfl) _ ⟨rfl, lower, upper⟩
  have foreign : ∀ dpage ∈ device.referenced,
      dpage ∉ pushed (Page.devicePrivate config.mdevice) start
        config.chunkPages := by
    intro dpage member among
    obtain ⟨pfn, lower, upper, rfl⟩ := mem_pushed.mp among
    exact fresh pfn lower upper
      (.inr (sound.use.pinnedUsed (sound.use.referencedPinned member)))
  obtain ⟨-, links⟩ := pushAll_spec sound.list.chain
    (fun pfn lower upper member => fresh pfn lower upper (.inl member))
    (by
      intro i j same
      cases same
      rfl)
  unfold Device.pushPages at moved
  dsimp only at moved
  split at moved
  · cases moved
    exact ⟨rfl, fun dpage member => links dpage (foreign dpage member)⟩
  · cases moved
    exact ⟨rfl, fun dpage member => links dpage (foreign dpage member)⟩
  · cases moved

theorem pushFree_links (sound : Sound config device free) {id : Nat}
    {call : Call} (here : device.calls id = some call) {page : Page}
    (at_ : call.stage = .pushFree page) {next : Device}
    (moved : device.pushFree id call page = some next) :
    device.SameLinks next := by
  have unreferenced := (sound.use.freeing id call.stage page
    (stage_of_call here) (by rw [at_]; rfl)).2
  unfold Device.pushFree at moved
  split at moved
  · cases moved
  cases moved
  split
  · exact ⟨rfl, fun _ _ => rfl⟩
  · refine ⟨rfl, ?_⟩
    intro dpage member
    apply Function.update_of_ne
    rintro rfl
    exact unreferenced member

theorem Kept.register (kept : Kept device) (sound : Sound config device free)
    {id : Nat} {call : Call} (here : device.calls id = some call)
    {caller : Caller} {devmem start : Nat}
    (at_ : call.stage = .register caller devmem start) {answer : Answer}
    {next : Device}
    (moved : device.register config id call caller devmem start answer =
      some next) : Kept next := by
  have standing := stage_of_call here
  have built : call.stage.devmem = some devmem := by rw [at_]; rfl
  have refused := kept.goto here
    (call.refuse (.releaseRegion caller devmem start)) (by rw [at_]; rfl)
    (by rw [at_]; exact fun _ builds => .inl builds)
  have links := (register_links sound here at_ moved).links
  rw [Device.register] at moved
  split at moved
  · cases moved
  split at moved
  · cases moved
    exact refused
  next grown grew =>
  obtain ⟨capacity, room, rfl⟩ := growChunks_frame grew
  split at moved
  · cases moved
    have advanced := kept.goto here
      (call.goto (.pushPages caller devmem start)) (by rw [at_]; rfl)
      (by rw [at_]; exact fun _ builds => .inl builds)
    refine ⟨advanced.backing.relink links, ?_⟩
    rw [setCall_stage]
    apply kept.chunked.register sound.table _ standing built
    exact listed_append device devmem
  · cases moved
    exact ⟨refused.backing, refused.chunked⟩

theorem Kept.pushPages (kept : Kept device)
    (sound : Sound config device free) {id : Nat} {call : Call}
    (here : device.calls id = some call) {caller : Caller}
    {devmem start : Nat} (at_ : call.stage = .pushPages caller devmem start)
    {next : Device}
    (moved : device.pushPages config id call caller start = some next) :
    Kept next := by
  have leaves : ∀ other, call.stage.devmem = some other →
      device.Listed other := by
    intro other builds
    exact (sound.table.listedIff id call.stage other (stage_of_call here)
      builds).mpr (by rw [at_]; rfl)
  have links := (pushPages_links sound here at_ moved).links
  unfold Device.pushPages at moved
  dsimp only at moved
  split at moved
  · cases moved
    have advanced := kept.goto here (call.goto (.chunkReturned true))
      (by rw [at_]; rfl) fun other builds => .inr (leaves other builds)
    exact ⟨advanced.backing.relink links, advanced.chunked⟩
  · next rpage dpage _ =>
    cases moved
    have advanced := kept.handOut here dpage (by rw [at_]; rfl) leaves
    exact ⟨advanced.backing.relink links, advanced.chunked⟩
  · cases moved

theorem Kept.pushFree (kept : Kept device) (sound : Sound config device free)
    {id : Nat} {call : Call} (here : device.calls id = some call)
    {page : Page} (at_ : call.stage = .pushFree page) {next : Device}
    (moved : device.pushFree id call page = some next) : Kept next := by
  have advanced := kept.goto here (call.goto .freed) (by rw [at_]; rfl)
    (by rw [at_]; intro _ builds; cases builds)
  have links := (pushFree_links sound here at_ moved).links
  unfold Device.pushFree at moved
  split at moved
  · cases moved
  cases moved
  split
  · exact ⟨advanced.backing, advanced.chunked⟩
  · next chunk _ kept_ =>
    rw [if_neg kept_] at links
    exact ⟨advanced.backing.relink links, advanced.chunked⟩

theorem advance_links (sound : Sound config device free) {id : Nat}
    {answer : Answer} {next : Device}
    (other : ∀ rpage dpage, device.stage id ≠ some (.initPage rpage dpage))
    (moved : device.advance config id answer = some next) :
    device.SameLinks next := by
  unfold Device.advance at moved
  split at moved
  · cases moved
  next call here =>
  split at moved
  case h_1 at_ =>
    cases moved
    unfold Device.allocRpage
    split
    · exact ⟨rfl, fun _ _ => rfl⟩
    · split <;> exact ⟨rfl, fun _ _ => rfl⟩
  case h_2 rpage at_ =>
    cases moved
    unfold Device.popFree
    split <;> exact ⟨rfl, fun _ _ => rfl⟩
  case h_3 caller at_ =>
    cases moved
    unfold Device.kzallocChunk
    split <;> exact ⟨rfl, fun _ _ => rfl⟩
  case h_4 caller devmem at_ =>
    cases moved
    unfold Device.requestRegion
    split
    · exact ⟨rfl, fun _ _ => rfl⟩
    · split <;> exact ⟨rfl, fun _ _ => rfl⟩
  case h_5 caller devmem start at_ => exact register_links sound here at_ moved
  case h_6 caller devmem start at_ =>
    exact pushPages_links sound here at_ moved
  case h_7 caller devmem start at_ =>
    cases moved
    exact ⟨rfl, fun _ _ => rfl⟩
  case h_8 caller devmem at_ =>
    cases moved
    exact ⟨rfl, fun _ _ => rfl⟩
  case h_9 rpage at_ =>
    cases moved
    exact ⟨rfl, fun _ _ => rfl⟩
  case h_10 rpage dpage at_ =>
    exact absurd (stage_of_call here) (at_ ▸ other rpage dpage)
  case h_11 page at_ => exact pushFree_links sound here at_ moved
  all_goals cases moved

theorem Kept.advance (kept : Kept device) (sound : Sound config device free)
    {id : Nat} {answer : Answer} {next : Device}
    (moved : device.advance config id answer = some next) : Kept next := by
  unfold Device.advance at moved
  split at moved
  · cases moved
  next call here =>
  split at moved
  case h_1 at_ =>
    cases moved
    exact kept.allocRpage here at_ _
  case h_2 rpage at_ =>
    cases moved
    unfold Device.popFree
    split
    · apply kept.handOut here _ (by rw [at_]; rfl)
      rw [at_]
      intro devmem builds
      cases builds
    · apply kept.goto here
      · rw [at_]
        rfl
      · rw [at_]
        intro devmem builds
        cases builds
  case h_3 caller at_ =>
    cases moved
    exact kept.kzallocChunk sound here at_ _
  case h_4 caller devmem at_ =>
    cases moved
    exact kept.requestRegion sound here at_ _
  case h_5 caller devmem start at_ => exact kept.register sound here at_ moved
  case h_6 caller devmem start at_ => exact kept.pushPages sound here at_ moved
  case h_7 caller devmem start at_ =>
    cases moved
    exact kept.releaseRegion sound here at_
  case h_8 caller devmem at_ =>
    cases moved
    exact kept.freeChunk sound here at_
  case h_9 rpage at_ =>
    cases moved
    exact kept.freeRpage here at_
  case h_10 rpage dpage at_ =>
    cases moved
    exact kept.initPage sound here at_
  case h_11 page at_ => exact kept.pushFree sound here at_ moved
  all_goals cases moved

theorem zeroed_kept : Kept zeroed where
  backing := by constructor <;> simp [zeroed, held, stage]
  chunked := by constructor <;> simp [zeroed, stage, Listed]

end Device

end Rshm.Hmm.Devmem
