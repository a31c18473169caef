import Mathlib.Data.Finset.Card
import Rshm.Hmm.DevmemRefused

/-!
# Device pages are conserved

Without a RELEASE no page of a registered chunk is lost or doubled: it is on
the free list, in use, or about to be pushed by the call that registered its
chunk.  Of what the kernel handed out, each frame, chunk and region is with one
holder, so an allocation that fails has nothing left.
-/

namespace Rshm.Hmm.Devmem

open IntrusiveList

/-- The pages accounted for, and those of the calls that are about to push a
chunk, are all pages of the registered chunks. -/
def Outstanding (config : Config) (stage : Nat → Option Stage)
    (count pages : Nat) : Prop :=
  ∃ pushing : Finset Nat,
    (∀ id, id ∈ pushing ↔ ∃ at_, stage id = some at_ ∧ at_.pushing = true) ∧
    pages + config.chunkPages * pushing.card = config.chunkPages * count

namespace Outstanding

variable {config : Config} {stage : Nat → Option Stage} {count pages : Nat}

theorem settle (outstanding : Outstanding config stage count pages)
    (idle : ∀ id at_, stage id = some at_ → at_.pushing = false) :
    pages = config.chunkPages * count := by
  obtain ⟨pushing, members, total⟩ := outstanding
  have none_ : pushing = ∅ := by
    apply Finset.eq_empty_of_forall_notMem
    intro id member
    obtain ⟨at_, here, pushes⟩ := (members id).mp member
    rw [idle id at_ here] at pushes
    cases pushes
  rw [none_, Finset.card_empty] at total
  omega

/-- A call that is not about to push moves on to another such stage. -/
theorem goto (outstanding : Outstanding config stage count pages) (id : Nat)
    (after : Option Stage)
    (before : ∀ at_, stage id = some at_ → at_.pushing = false)
    (still : ∀ at_, after = some at_ → at_.pushing = false) :
    Outstanding config (Function.update stage id after) count pages := by
  obtain ⟨pushing, members, total⟩ := outstanding
  refine ⟨pushing, ?_, total⟩
  intro other
  rw [members other]
  by_cases same : other = id
  · subst same
    rw [Function.update_self]
    grind
  · rw [Function.update_of_ne same]

theorem register (outstanding : Outstanding config stage count pages)
    (id : Nat) {after : Stage}
    (before : ∀ at_, stage id = some at_ → at_.pushing = false)
    (pushes : after.pushing = true) :
    Outstanding config (Function.update stage id (some after)) (count + 1)
      pages := by
  obtain ⟨pushing, members, total⟩ := outstanding
  have fresh : id ∉ pushing := by
    intro member
    obtain ⟨at_, here, pushes'⟩ := (members id).mp member
    rw [before at_ here] at pushes'
    cases pushes'
  refine ⟨insert id pushing, ?_, ?_⟩
  · intro other
    rw [Finset.mem_insert, members other]
    by_cases same : other = id
    · subst same
      simp [pushes]
    · simp [same]
  · rw [Finset.card_insert_of_notMem fresh, Nat.mul_add, Nat.mul_add]
    omega

theorem push (outstanding : Outstanding config stage count pages) {id : Nat}
    {before after : Stage} (here : stage id = some before)
    (pushes : before.pushing = true) (still : after.pushing = false) :
    Outstanding config (Function.update stage id (some after)) count
      (pages + config.chunkPages) := by
  obtain ⟨pushing, members, total⟩ := outstanding
  have member : id ∈ pushing := (members id).mpr ⟨before, here, pushes⟩
  refine ⟨pushing.erase id, ?_, ?_⟩
  · intro other
    rw [Finset.mem_erase, members other]
    by_cases same : other = id
    · subst same
      simp [still]
    · simp [same]
  · have card := Finset.card_erase_add_one member
    rw [← card, Nat.mul_add] at total
    omega

end Outstanding

/-- What the counters and the free list of a device add up to. -/
structure Counted (config : Config) (device : Device) (free : List Page) :
    Prop where
  unlocked : device.devmemLock = none
  unmarked : ∀ devmem found, device.chunk devmem = some found →
    found.remove = false
  balance : device.calloc = device.cfree + device.inUse.card
  capacity : device.devmemCount ≤ device.devmemCapacity
  room : device.devmemCapacity ≤ device.room
  outstanding : Outstanding config device.stage device.devmemCount
    (free.length + device.inUse.card)

namespace Counted

variable {config : Config} {device : Device} {free : List Page} {id : Nat}
  {call : Call}

private theorem resting (here : device.calls id = some call)
    (still : call.stage.pushing = false) :
    ∀ at_, device.stage id = some at_ → at_.pushing = false := by
  intro at_ there
  rw [Device.stage_of_call here, Option.some.injEq] at there
  exact there ▸ still

theorem goto (counted : Counted config device free) (after : Call)
    (before : ∀ at_, device.stage id = some at_ → at_.pushing = false)
    (still : after.stage.pushing = false) :
    Counted config (device.setCall id after) free where
  unlocked := counted.unlocked
  unmarked := counted.unmarked
  balance := counted.balance
  capacity := counted.capacity
  room := counted.room
  outstanding := by
    rw [Device.setCall_stage]
    apply counted.outstanding.goto id _ before
    rintro at_ ⟨⟩
    exact still

theorem frames (counted : Counted config device free)
    (frames referenced pinned : Finset Page) (regions : Finset Nat)
    (made : Nat) (next : Page → Option Page) :
    Counted config { device with
      frames := frames
      referenced := referenced
      pinned := pinned
      regions := regions
      chunksMade := made
      zoneDeviceData := next } free :=
  ⟨counted.unlocked, counted.unmarked, counted.balance, counted.capacity,
    counted.room, counted.outstanding⟩

theorem rechunk (counted : Counted config device free)
    (devmem : Nat) (found : Option DmirrorChunk)
    (clear : ∀ chunk, found = some chunk → chunk.remove = false) :
    Counted config
      { device with chunk := Function.update device.chunk devmem found }
      free where
  unlocked := counted.unlocked
  unmarked := by
    have unmarked := counted.unmarked
    grind
  balance := counted.balance
  capacity := counted.capacity
  room := counted.room
  outstanding := counted.outstanding

theorem range (counted : Counted config device free) (devmem : Nat)
    (range : Option Nat) :
    Counted config { device with
      chunk := Function.update device.chunk devmem (some ⟨range, false⟩) }
      free := by
  apply counted.rechunk
  rintro chunk ⟨⟩
  rfl

theorem handOut {rest : List Page} {rpage dpage : Page}
    (counted : Counted config device (dpage :: rest))
    (fresh : dpage ∉ device.inUse)
    (before : ∀ at_, device.stage id = some at_ → at_.pushing = false) :
    Counted config (device.handOut id call rpage dpage) rest := by
  have grown : (insert dpage device.inUse).card = device.inUse.card + 1 :=
    Finset.card_insert_of_notMem fresh
  have balance := counted.balance
  refine ⟨counted.unlocked, counted.unmarked, ?_, counted.capacity,
    counted.room, ?_⟩
  · show device.calloc + 1 = device.cfree + (insert dpage device.inUse).card
    omega
  · have pages : rest.length + (insert dpage device.inUse).card =
        (dpage :: rest).length + device.inUse.card := by
      rw [grown, List.length_cons]
      omega
    rw [Device.handOut, Device.setCall_stage]
    show Outstanding config _ _ (rest.length + (insert dpage device.inUse).card)
    rw [pages]
    apply counted.outstanding.goto id _ before
    rintro at_ ⟨⟩
    rfl

/-- `krealloc` leaves room for one more chunk. -/
private theorem growChunks_room {grown : Device} {krealloc : Bool}
    (counted : Counted config device free)
    (grew : device.growChunks krealloc = some grown) :
    device.devmemCount < grown.devmemCapacity ∧
      grown.devmemCapacity ≤ grown.room := by
  have capacity := counted.capacity
  have room := counted.room
  unfold Device.growChunks at grew
  split at grew
  · split at grew
    · cases grew
      simp only [devmemChunksReserve]
      omega
    · cases grew
  · cases grew
    omega

theorem register (counted : Counted config device free)
    (here : device.calls id = some call) {caller : Caller}
    {devmem start : Nat} (at_ : call.stage = .register caller devmem start)
    {answer : Answer} {next : Device}
    (moved : device.register config id call caller devmem start answer =
      some next) :
    Counted config next free := by
  have before := resting here (by rw [at_]; rfl)
  rw [Device.register] at moved
  split at moved
  · cases moved
  split at moved
  · cases moved
    exact counted.goto _ before rfl
  next grown grew =>
  obtain ⟨capacity, room⟩ := counted.growChunks_room grew
  obtain ⟨capacity', room', rfl⟩ := Device.growChunks_frame grew
  split at moved
  · cases moved
    refine ⟨counted.unlocked, counted.unmarked, counted.balance, capacity,
      room, ?_⟩
    rw [Device.setCall_stage]
    exact counted.outstanding.register id before rfl
  · cases moved
    have grown' : Counted config { device with
        devmemCapacity := capacity', room := room' } free :=
      ⟨counted.unlocked, counted.unmarked, counted.balance, capacity.le,
        room, counted.outstanding⟩
    exact grown'.goto _ before rfl

/-- The pages of a new chunk, one of which may go straight into use. -/
theorem pushPages (counted : Counted config device free)
    (sound : Sound config device free)
    (here : device.calls id = some call) {caller : Caller}
    {devmem start : Nat} (at_ : call.stage = .pushPages caller devmem start)
    {next : Device}
    (moved : device.pushPages config id call caller start = some next) :
    ∃ free', Sound config next free' ∧ Counted config next free' := by
  have standing := Device.stage_of_call here
  have pushes : call.stage.pushing = true := by rw [at_]; rfl
  have balance := counted.balance
  have length : (chunkList config start ++ free).length =
      free.length + config.chunkPages := by
    rw [List.length_append, chunkList, length_pushed]
    omega
  have pushed (after : Call) (still : after.stage.pushing = false) :=
    counted.outstanding.push standing pushes still
  rcases sound.pushPages here at_ moved with
    ⟨links, head, ⟨-, shape, filled⟩ |
      ⟨rpage, dpage, rest, -, split, fresh, shape, filled⟩⟩
  · refine ⟨_, filled, ?_⟩
    subst shape
    refine ⟨counted.unlocked, counted.unmarked, balance, counted.capacity,
      counted.room, ?_⟩
    have stages := Device.setCall_stage device id
      (call.goto (.chunkReturned true))
    have total : (chunkList config start ++ free).length + device.inUse.card =
        free.length + device.inUse.card + config.chunkPages := by
      omega
    show Outstanding config (device.setCall id _).stage _ _
    rw [stages, total]
    exact pushed _ rfl
  · refine ⟨_, filled, ?_⟩
    subst shape
    have grown : (insert dpage device.inUse).card = device.inUse.card + 1 :=
      Finset.card_insert_of_notMem fresh
    rw [split, List.length_cons] at length
    refine ⟨counted.unlocked, counted.unmarked, ?_, counted.capacity,
      counted.room, ?_⟩
    · show device.calloc + 1 =
        device.cfree + (insert dpage device.inUse).card
      omega
    · have stages := Device.setCall_stage device id
        (call.goto (.initPage rpage dpage))
      have total : rest.length + (insert dpage device.inUse).card =
          free.length + device.inUse.card + config.chunkPages := by
        omega
      show Outstanding config (device.setCall id _).stage _
        (rest.length + (insert dpage device.inUse).card)
      rw [stages, total]
      exact pushed _ rfl

theorem pushFree (counted : Counted config device free)
    (sound : Sound config device free)
    (here : device.calls id = some call) {page : Page}
    (at_ : call.stage = .pushFree page) {next : Device}
    (moved : device.pushFree id call page = some next) :
    Sound config next (page :: free) ∧ Counted config next (page :: free) := by
  have standing := Device.stage_of_call here
  have frees : call.stage.freeing = some page := by rw [at_]; rfl
  have used : page ∈ device.inUse :=
    sound.use.pinnedUsed (sound.use.freeing id _ page standing frees).1
  obtain ⟨found, owner, pushed⟩ := sound.pushFree here at_ moved
  have unmarked : found.remove = false := by
    obtain ⟨devmem, -, alive⟩ := Option.bind_eq_some_iff.mp owner
    exact counted.unmarked devmem found alive
  rw [unmarked] at pushed
  refine ⟨pushed, ?_⟩
  have shrunk := Finset.card_erase_add_one used
  have balance := counted.balance
  rw [Device.pushFree, owner] at moved
  simp only [unmarked, Bool.false_eq_true, if_false, Option.some.injEq]
    at moved
  subst moved
  refine ⟨counted.unlocked, counted.unmarked, ?_, counted.capacity,
    counted.room, ?_⟩
  · show device.calloc = device.cfree + 1 + (device.inUse.erase page).card
    omega
  · have total : (page :: free).length + (device.inUse.erase page).card =
        free.length + device.inUse.card := by
      rw [List.length_cons]
      omega
    rw [Device.setCall_stage]
    show Outstanding config _ _
      ((page :: free).length + (device.inUse.erase page).card)
    rw [total]
    apply counted.outstanding.goto id _ (resting here (by rw [at_]; rfl))
    rintro at_ ⟨⟩
    rfl

theorem advance (counted : Counted config device free)
    (sound : Sound config device free) {answer : Answer} {next : Device}
    (moved : device.advance config id answer = some next) :
    ∃ free', Sound config next free' ∧ Counted config next free' := by
  unfold Device.advance at moved
  split at moved
  · cases moved
  next call here =>
  split at moved
  case h_1 at_ =>
    have before := resting here (by rw [at_]; rfl)
    cases moved
    refine ⟨free, sound.allocRpage here at_ _, ?_⟩
    unfold Device.allocRpage
    split
    · exact counted.goto _ before rfl
    · split
      · exact counted.goto _ before rfl
      · exact (counted.frames ..).goto _ before rfl
  case h_2 rpage at_ =>
    have before := resting here (by rw [at_]; rfl)
    cases moved
    cases first : device.freePages with
    | none =>
        refine ⟨free, sound.popFree_empty here at_ first, ?_⟩
        rw [Device.popFree, first]
        exact counted.goto _ before rfl
    | some dpage =>
        obtain ⟨rest, rfl, handed⟩ := sound.handOut call rpage first (by
          intro at' there
          rw [Device.stage_of_call here, Option.some.injEq, at_] at there
          exact there ▸ rfl)
        rw [Device.popFree, first]
        have fresh := sound.list.unused dpage List.mem_cons_self
        exact ⟨rest, handed, counted.handOut fresh before⟩
  case h_3 caller at_ =>
    have before := resting here (by rw [at_]; rfl)
    cases moved
    refine ⟨free, sound.kzallocChunk here at_ _, ?_⟩
    unfold Device.kzallocChunk
    split
    · have made := counted.range device.chunksMade none
      exact (made.frames ..).goto _ before rfl
    · cases caller <;> exact counted.goto _ before rfl
  case h_4 caller devmem at_ =>
    have before := resting here (by rw [at_]; rfl)
    cases moved
    refine ⟨free, sound.requestRegion here at_ _, ?_⟩
    unfold Device.requestRegion
    split
    · exact counted.goto _ before rfl
    · split
      · next start _ _ =>
        have ranged := counted.range devmem (some start)
        exact (ranged.frames ..).goto _ before rfl
      · exact counted.goto _ before rfl
  case h_5 caller devmem start at_ =>
    exact ⟨free, sound.register here at_ moved,
      counted.register here at_ moved⟩
  case h_6 caller devmem start at_ =>
    exact counted.pushPages sound here at_ moved
  case h_7 caller devmem start at_ =>
    have before := resting here (by rw [at_]; rfl)
    cases moved
    refine ⟨free, sound.releaseRegion here at_, ?_⟩
    have unranged := counted.range devmem none
    exact (unranged.frames ..).goto _ before rfl
  case h_8 caller devmem at_ =>
    have before := resting here (by rw [at_]; rfl)
    cases moved
    refine ⟨free, sound.freeChunk here at_, ?_⟩
    refine Counted.goto ?_ _ before ?_
    · apply counted.rechunk
      rintro chunk ⟨⟩
    · cases caller <;> rfl
  case h_9 rpage at_ =>
    have before := resting here (by rw [at_]; rfl)
    cases moved
    exact ⟨free, sound.freeRpage here at_,
      (counted.frames ..).goto _ before rfl⟩
  case h_10 rpage dpage at_ =>
    have before := resting here (by rw [at_]; rfl)
    cases moved
    exact ⟨free, sound.initPage here at_,
      (counted.frames ..).goto _ before rfl⟩
  case h_11 page at_ => exact ⟨_, counted.pushFree sound here at_ moved⟩
  all_goals cases moved

end Counted

namespace Device

def NoRelease (_ : Device) : Input → Prop
  | .removeChunks => False
  | .removeMark _ => False
  | .removeUnmap => False
  | .removeEnd => False
  | _ => True

instance (device : Device) (input : Input) :
    Decidable (NoRelease device input) := by
  cases input <;> unfold NoRelease <;> infer_instance

/-- The free list has no duplicates and no page in use; when no chunk is
between registration and pushing, these are all pages of the registered
chunks; the counters and the array fit. -/
structure Conserved (config : Config) (device : Device) : Prop where
  freeList : ∃ pages, Chain device.zoneDeviceData device.freePages pages ∧
    pages.Nodup ∧ (∀ page ∈ pages, page ∉ device.inUse) ∧
    ((∀ id at_, device.stage id = some at_ → at_.pushing = false) →
      pages.length + device.inUse.card =
        config.chunkPages * device.devmemCount)
  counters : device.cfree ≤ device.calloc ∧
    device.calloc - device.cfree = device.inUse.card
  capacity : device.devmemCount ≤ device.devmemCapacity
  room : device.devmemCapacity ≤ device.room

/-- The outcome of an allocation: it fails exactly when the kernel refused it
something, and then it has given back all it took, newest first, and holds
nothing. -/
structure Outcome (call : Call) : Prop where
  page : ∀ dpage, call.stage = .returned dpage →
    (dpage = none ↔ call.refused = true)
  chunk : ∀ success, call.stage = .chunkReturned success →
    (success = false ↔ call.refused = true)
  givenBack : call.Failed → call.given.reverse = call.taken
  nothing : call.Failed → ∀ resource, ¬call.stage.Holds resource

/-- The invariant of runs without a RELEASE. -/
structure Accounted (config : Config) (device : Device) : Prop where
  counted : ∃ free, Sound config device free ∧ Counted config device free
  kept : device.Kept
  ledgers : ∀ id call, device.calls id = some call → call.Ledger

theorem Accounted.conserved {config : Config} {device : Device}
    (accounted : Accounted config device) : Conserved config device := by
  obtain ⟨free, sound, counted⟩ := accounted.counted
  have balance := counted.balance
  constructor
  case freeList =>
    refine ⟨free, sound.list.chain, sound.list.chain.nodup,
      sound.list.unused, ?_⟩
    intro idle
    exact counted.outstanding.settle idle
  case counters => omega
  case capacity => exact counted.capacity
  case room => exact counted.room

theorem zeroed_accounted (config : Config) : Accounted config zeroed where
  counted := by
    refine ⟨[], zeroed_sound config, ?_⟩
    constructor
    case outstanding => exact ⟨∅, by simp [zeroed, stage], by simp [zeroed]⟩
    all_goals simp [zeroed]
  kept := zeroed_kept
  ledgers := by
    intro id call here
    simp [zeroed] at here

theorem step_ledgers {config : Config} {device next : Device}
    {input : Input} (moved : device.step config input = some next)
    (ledgers : ∀ id call, device.calls id = some call → call.Ledger) :
    ∀ id call, next.calls id = some call → call.Ledger := by
  intro id call there
  by_cases leaves : input = .leave id
  · subst leaves
    simp only [step, leave] at moved
    repeat' split at moved
    all_goals cases moved
    simp at there
  cases here : device.calls id with
  | some before =>
      obtain ⟨after, result, same⟩ := step_moves here leaves moved
      rw [result, Option.some.injEq] at there
      subst there
      rcases same with rfl | moves
      · exact ledgers id after here
      · exact (ledgers id before here).moves moves
  | none =>
      by_cases thread : input.thread = some id
      · cases input with
        | devmemAllocPage other =>
            cases thread
            cases (enter_spec moved).2
            simp only [setCall_calls, Function.update_self,
              Option.some.injEq] at there
            exact there ▸ .start _ rfl rfl
        | allocateChunk other =>
            cases thread
            cases (enter_spec moved).2
            simp only [setCall_calls, Function.update_self,
              Option.some.injEq] at there
            exact there ▸ .start _ rfl rfl
        | devmemFree other page =>
            cases thread
            obtain ⟨-, result⟩ := enter_spec moved
            unfold devmemFree at result
            repeat' split at result
            all_goals cases result
            all_goals
              simp only [setCall_calls, Function.update_self,
                Option.some.injEq] at there
              exact there ▸ .start _ rfl rfl
        | advance other answer =>
            cases thread
            obtain ⟨before, -, standing, -⟩ := advance_moves moved
            rw [here] at standing
            cases standing
        | leave other =>
            cases thread
            exact absurd rfl leaves
        | _ => cases thread
      · rw [step_calls moved thread, here] at there
        cases there

theorem step_counted {config : Config} {device next : Device}
    {free : List Page} {input : Input} (sound : Sound config device free)
    (counted : Counted config device free)
    (noRelease : device.NoRelease input)
    (moved : device.step config input = some next) :
    ∃ free', Sound config next free' ∧ Counted config next free' := by
  have idling {id : Nat} (idle : device.calls id = none) :
      ∀ at_, device.stage id = some at_ → at_.pushing = false := by
    intro at_ there
    simp [stage, idle] at there
  cases input with
  | devmemAllocPage id =>
      obtain ⟨idle, result⟩ := enter_spec moved
      cases result
      exact ⟨free, sound.enter idle _ rfl rfl rfl rfl,
        counted.goto _ (idling idle) rfl⟩
  | allocateChunk id =>
      obtain ⟨idle, result⟩ := enter_spec moved
      cases result
      exact ⟨free, sound.enter idle _ rfl rfl rfl rfl,
        counted.goto _ (idling idle) rfl⟩
  | devmemFree id page =>
      obtain ⟨idle, result⟩ := enter_spec moved
      refine ⟨free, sound.devmemFree idle result, ?_⟩
      unfold devmemFree at result
      split at result
      · split at result
        · cases result
        · cases result
          exact (counted.frames ..).goto _ (idling idle) rfl
      · cases result
  | advance id answer => exact counted.advance sound moved
  | leave id =>
      refine ⟨free, sound.leave moved, ?_⟩
      simp only [step, leave] at moved
      split at moved
      · cases moved
      next call here =>
      split at moved
      · next returned =>
        cases moved
        refine ⟨counted.unlocked, counted.unmarked, counted.balance,
          counted.capacity, counted.room, ?_⟩
        have stages :
            { device with calls := Function.update device.calls id none }.stage
              = Function.update device.stage id none := clearCall_stage ..
        rw [stages]
        apply counted.outstanding.goto id none
        · intro at_ there
          rw [stage_of_call here, Option.some.injEq] at there
          subst there
          cases at_ : call.stage <;>
            simp_all [Stage.returns, Stage.pushing]
        · rintro at_ ⟨⟩
      · cases moved
  | removeChunks => exact noRelease.elim
  | removeMark passes => exact noRelease.elim
  | removeUnmap => exact noRelease.elim
  | removeEnd => exact noRelease.elim

theorem step_kept {config : Config} {device next : Device}
    {free : List Page} {input : Input} (sound : Sound config device free)
    (kept : device.Kept) (noRelease : device.NoRelease input)
    (moved : device.step config input = some next) : next.Kept := by
  cases input with
  | devmemAllocPage id =>
      obtain ⟨idle, result⟩ := enter_spec moved
      cases result
      exact kept.enter idle _ rfl
  | allocateChunk id =>
      obtain ⟨idle, result⟩ := enter_spec moved
      cases result
      exact kept.enter idle _ rfl
  | devmemFree id page =>
      obtain ⟨idle, result⟩ := enter_spec moved
      exact kept.devmemFree sound idle result
  | advance id answer => exact kept.advance sound moved
  | leave id => exact kept.leave moved
  | removeChunks => exact noRelease.elim
  | removeMark passes => exact noRelease.elim
  | removeUnmap => exact noRelease.elim
  | removeEnd => exact noRelease.elim

theorem invariant_accounted (config : Config) :
    (machine config).Invariant NoRelease (Accounted config) where
  initial := by
    rintro device rfl
    exact zeroed_accounted config
  preserved := by
    rintro device input next accounted noRelease moved
    obtain ⟨free, sound, counted⟩ := accounted.counted
    exact ⟨step_counted sound counted noRelease moved,
      step_kept sound accounted.kept noRelease moved,
      step_ledgers moved accounted.ledgers⟩

/-- Only the sections of one call run. -/
def Alone (id : Nat) (_ : Device) (input : Input) : Prop :=
  ∃ answer, input = .advance id answer

private def onePage : Config := ⟨0, 1, by decide⟩

private def answer (frame region : Nat) (memremap : Bool) : Answer :=
  ⟨some frame, true, some region, true, memremap⟩

end Device

end Rshm.Hmm.Devmem
