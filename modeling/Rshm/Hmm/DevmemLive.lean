import Rshm.Hmm.DevmemSound

/-!
# The free list holds pages of live chunks

Each section of the allocator keeps the invariant of the device.  A RELEASE
keeps it where it does not meet a call half way: it must not mark a chunk
whose pages are still to be pushed, and must not free a chunk while a call
holds a popped page of it that `zone_device_page_init` has not pinned yet.
-/

namespace Rshm.Hmm.Devmem

open IntrusiveList

/-- The invariant of a device, with its free list. -/
structure Sound (config : Config) (device : Device) (free : List Page) :
    Prop where
  table : ChunkTable config device.chunk device.chunksMade device.regions
    device.Listed device.stage
  use : PageUse device.inUse device.pinned device.referenced device.stage
  list : FreeList config free device.zoneDeviceData device.freePages
    device.pgmap device.inUse device.chunk device.Listed device.stage
  removing : Removing device.devmemLock device.devmemCount
    device.devmemChunks device.chunk

theorem Removing.rechunk {device : Device}
    (removing : Removing device.devmemLock device.devmemCount
      device.devmemChunks device.chunk)
    {chunk' : Nat → Option DmirrorChunk}
    (kept : ∀ devmem, device.Listed devmem →
      chunk' devmem = device.chunk devmem) :
    Removing device.devmemLock device.devmemCount device.devmemChunks
      chunk' where
  removed := by
    intro removal locked index before inside devmem listed
    rw [kept devmem ⟨index, inside, listed⟩]
    exact removing.removed removal locked index before inside devmem listed
  marked := by
    intro index locked
    obtain ⟨inside, marks⟩ := removing.marked index locked
    refine ⟨inside, ?_⟩
    intro devmem listed
    rw [kept devmem ⟨index, inside, listed⟩]
    exact marks devmem listed

/-- A chunk that `devmem_chunks` takes in is listed after the others. -/
theorem Device.listed_append (device : Device) (devmem other : Nat) :
    (∃ index, index < device.devmemCount + 1 ∧
      Function.update device.devmemChunks device.devmemCount
        (some devmem) index = some other) ↔
      device.Listed other ∨ other = devmem := by
  constructor
  · rintro ⟨index, inside, listed⟩
    by_cases last : index = device.devmemCount
    · rw [last, Function.update_self, Option.some.injEq] at listed
      exact .inr listed.symm
    · rw [Function.update_of_ne last] at listed
      exact .inl ⟨index, by omega, listed⟩
  · rintro (⟨index, inside, listed⟩ | rfl)
    · refine ⟨index, by omega, ?_⟩
      rw [Function.update_of_ne (by omega)]
      exact listed
    · exact ⟨device.devmemCount, by omega, Function.update_self ..⟩

/-- The pages of a chunk in the order of the free list. -/
def chunkList (config : Config) (start : Nat) : List Page :=
  pushed (Page.devicePrivate config.mdevice) start config.chunkPages

namespace Sound

variable {config : Config} {device : Device} {free : List Page} {id : Nat}
  {call : Call}

private theorem building (sound : Sound config device free)
    (here : device.calls id = some call) {devmem : Nat}
    (builds : call.stage.devmem = some devmem)
    (unpushed : call.stage.pushing = false) {other : Nat}
    (listed : device.Listed other) : other ≠ devmem := by
  rintro rfl
  have pushing := (sound.table.listedIff id call.stage other
    (Device.stage_of_call here) builds).mp listed
  rw [unpushed] at pushing
  cases pushing

/-- A call moves on to a stage that holds no page and pushes nothing. -/
theorem goto (sound : Sound config device free) (after : Call)
    (unheld : ∀ at_, device.stage id = some at_ → at_.popped = none)
    (same : SameChunk (device.stage id) after.stage)
    (noPopped : after.stage.popped = none)
    (noFreeing : after.stage.freeing = none)
    (still : after.stage.pushing = false) :
    Sound config (device.setCall id after) free where
  table := by
    rw [Device.setCall_stage]
    exact sound.table.goto id after.stage same
  use := by
    rw [Device.setCall_stage]
    exact sound.use.goto id after.stage unheld noPopped noFreeing
  list := by
    rw [Device.setCall_stage]
    exact sound.list.goto id after.stage still
  removing := sound.removing

theorem frames (sound : Sound config device free) (frames : Finset Page) :
    Sound config { device with frames := frames } free :=
  ⟨sound.table, sound.use, sound.list, sound.removing⟩

private theorem unheld_of (here : device.calls id = some call)
    (empty : call.stage.popped = none) :
    ∀ at_, device.stage id = some at_ → at_.popped = none := by
  intro at_ there
  rw [Device.stage_of_call here, Option.some.injEq] at there
  exact there ▸ empty

theorem allocRpage (sound : Sound config device free)
    (here : device.calls id = some call) (at_ : call.stage = .allocRpage)
    (frame : Option Nat) :
    Sound config (device.allocRpage id call frame) free := by
  have unheld := unheld_of here (by rw [at_]; rfl)
  have refused : Sound config
      (device.setCall id (call.refuse (.returned none))) free :=
    sound.goto _ unheld (.inl rfl) rfl rfl rfl
  cases frame with
  | none => exact refused
  | some pfn =>
      rw [Device.allocRpage]
      split
      · exact refused
      · exact (sound.frames _).goto _ unheld (.inl rfl) rfl rfl rfl

theorem handOut (sound : Sound config device free) (call : Call)
    (rpage : Page) {dpage : Page}
    (first : device.freePages = some dpage)
    (unheld : ∀ at_, device.stage id = some at_ → at_.popped = none) :
    ∃ rest, free = dpage :: rest ∧
      Sound config (device.handOut id call rpage dpage) rest := by
  obtain ⟨rest, split, popped⟩ := sound.list.pop first
  have fresh : dpage ∉ device.inUse :=
    sound.list.unused dpage (by simp [split])
  refine ⟨rest, split, ?_, ?_, ?_, sound.removing⟩
  · rw [Device.handOut, Device.setCall_stage]
    exact sound.table.goto id _ (.inl rfl)
  · rw [Device.handOut, Device.setCall_stage]
    exact sound.use.pop id fresh unheld rfl rfl
  · rw [Device.handOut, Device.setCall_stage]
    exact popped.goto id _ rfl

theorem popFree_empty (sound : Sound config device free)
    (here : device.calls id = some call) {rpage : Page}
    (at_ : call.stage = .popFree rpage) (empty : device.freePages = none) :
    Sound config (device.popFree id call rpage) free := by
  rw [Device.popFree, empty]
  exact sound.goto _ (unheld_of here (by rw [at_]; rfl)) (.inl rfl) rfl rfl
    rfl

theorem kzallocChunk (sound : Sound config device free)
    (here : device.calls id = some call) {caller : Caller}
    (at_ : call.stage = .kzallocChunk caller) (succeeds : Bool) :
    Sound config (device.kzallocChunk id call caller succeeds) free := by
  have unheld := unheld_of here (by rw [at_]; rfl)
  cases succeeds with
  | false =>
      cases caller <;>
        exact sound.goto _ unheld (.inl rfl) rfl rfl rfl
  | true =>
      have kept : ∀ devmem, device.Listed devmem →
          Function.update device.chunk device.chunksMade
            (some ⟨none, false⟩) devmem = device.chunk devmem := by
        intro devmem listed
        apply Function.update_of_ne
        rintro rfl
        exact (sound.table.unmade _ (Nat.le_refl _)).2 listed
      constructor
      case table =>
        rw [Device.kzallocChunk, if_pos rfl, Device.setCall_stage]
        exact sound.table.kzalloc id _ rfl rfl rfl
      case use =>
        rw [Device.kzallocChunk, if_pos rfl, Device.setCall_stage]
        exact sound.use.goto id _ unheld rfl rfl
      case list =>
        rw [Device.kzallocChunk, if_pos rfl, Device.setCall_stage]
        exact (sound.list.rechunk kept).goto id _ rfl
      case removing => exact sound.removing.rechunk kept

theorem requestRegion (sound : Sound config device free)
    (here : device.calls id = some call) {caller : Caller} {devmem : Nat}
    (at_ : call.stage = .requestRegion caller devmem)
    (region : Option Nat) :
    Sound config
      (device.requestRegion config id call caller devmem region) free := by
  have unheld := unheld_of here (by rw [at_]; rfl)
  have standing := Device.stage_of_call here
  have refused : Sound config
      (device.setCall id (call.refuse (.freeChunk caller devmem))) free :=
    sound.goto _ unheld (.inr ⟨_, standing, by simp [at_, Stage.devmem],
      by simp [at_, Stage.range], by simp [at_, Stage.pushing]⟩) rfl rfl rfl
  cases region with
  | none => exact refused
  | some start =>
      rw [Device.requestRegion]
      split
      · next apart =>
        have builds : call.stage.devmem = some devmem := by rw [at_]; rfl
        have unpushed : call.stage.pushing = false := by rw [at_]; rfl
        have kept : ∀ other, device.Listed other →
            Function.update device.chunk devmem (some ⟨some start, false⟩)
              other = device.chunk other := by
          intro other listed
          exact Function.update_of_ne
            (sound.building here builds unpushed listed) ..
        constructor
        case table =>
          rw [Device.setCall_stage]
          exact sound.table.request standing builds unpushed apart rfl rfl rfl
        case use =>
          rw [Device.setCall_stage]
          exact sound.use.goto id _ unheld rfl rfl
        case list =>
          rw [Device.setCall_stage]
          exact (sound.list.rechunk kept).goto id _ rfl
        case removing => exact sound.removing.rechunk kept
      · exact refused

theorem releaseRegion (sound : Sound config device free)
    (here : device.calls id = some call) {caller : Caller}
    {devmem start : Nat}
    (at_ : call.stage = .releaseRegion caller devmem start) :
    Sound config (device.releaseRegion id call caller devmem start)
      free := by
  have unheld := unheld_of here (by rw [at_]; rfl)
  have standing := Device.stage_of_call here
  have builds : call.stage.devmem = some devmem := by rw [at_]; rfl
  have ranged : call.stage.range = some start := by rw [at_]; rfl
  have unpushed : call.stage.pushing = false := by rw [at_]; rfl
  have kept : ∀ other, device.Listed other →
      Function.update device.chunk devmem (some ⟨none, false⟩)
        other = device.chunk other := by
    intro other listed
    exact Function.update_of_ne (sound.building here builds unpushed listed) ..
  constructor
  case table =>
    rw [Device.releaseRegion, Device.setCall_stage]
    exact sound.table.release standing builds ranged unpushed rfl rfl rfl
  case use =>
    rw [Device.releaseRegion, Device.setCall_stage]
    exact sound.use.goto id _ unheld rfl rfl
  case list =>
    rw [Device.releaseRegion, Device.setCall_stage]
    exact (sound.list.rechunk kept).goto id _ rfl
  case removing => exact sound.removing.rechunk kept

theorem freeChunk (sound : Sound config device free)
    (here : device.calls id = some call) {caller : Caller} {devmem : Nat}
    (at_ : call.stage = .freeChunk caller devmem) :
    Sound config (device.freeChunk id call caller devmem) free := by
  have unheld := unheld_of here (by rw [at_]; rfl)
  have standing := Device.stage_of_call here
  have builds : call.stage.devmem = some devmem := by rw [at_]; rfl
  have unpushed : call.stage.pushing = false := by rw [at_]; rfl
  have moved : Sound config
      (device.setCall id (call.give (.chunk devmem) caller.failed)) free := by
    cases caller <;> exact sound.goto _ unheld (.inl rfl) rfl rfl rfl
  have kept : ∀ other, device.Listed other →
      Function.update device.chunk devmem none other =
        device.chunk other := by
    intro other listed
    exact Function.update_of_ne (sound.building here builds unpushed listed) ..
  constructor
  case table =>
    apply moved.table.kfree
    · intro other at' there builds'
      rw [Device.setCall_stage] at there
      by_cases same : other = id
      · subst same
        rw [Function.update_self, Option.some.injEq] at there
        subst there
        cases caller <;> cases builds'
      · rw [Function.update_of_ne same] at there
        exact same (sound.table.builtOnce other id at' call.stage devmem there
          standing builds' builds)
    · intro other found start _ alive ranged
      exact sound.table.busy other found start alive ranged
  case use => exact moved.use
  case list => exact moved.list.rechunk kept
  case removing => exact sound.removing.rechunk kept

theorem freeRpage (sound : Sound config device free)
    (here : device.calls id = some call) {rpage : Page}
    (at_ : call.stage = .freeRpage rpage) :
    Sound config (device.freeRpage id call rpage) free :=
  (sound.frames _).goto _ (unheld_of here (by rw [at_]; rfl)) (.inl rfl) rfl
    rfl rfl

theorem initPage (sound : Sound config device free)
    (here : device.calls id = some call) {rpage dpage : Page}
    (at_ : call.stage = .initPage rpage dpage) :
    Sound config (device.initPage id call rpage dpage) free := by
  have standing := Device.stage_of_call here
  have popped : call.stage.popped = some dpage := by rw [at_]; rfl
  have used := (sound.use.popped id call.stage dpage standing popped).1
  constructor
  case table =>
    rw [Device.initPage, Device.setCall_stage]
    exact sound.table.goto id _ (.inl rfl)
  case use =>
    rw [Device.initPage, Device.setCall_stage]
    exact sound.use.pin standing popped rfl rfl
  case list =>
    rw [Device.initPage, Device.setCall_stage]
    exact (sound.list.store used (some rpage)).goto id _ rfl
  case removing => exact sound.removing

theorem devmemFree (sound : Sound config device free) {page : Page}
    {next : Device} (idle : device.calls id = none)
    (moved : device.devmemFree id page = some next) :
    Sound config next free := by
  rw [Device.devmemFree] at moved
  split at moved
  · next held =>
    split at moved
    · cases moved
    · next rpage _ =>
      simp only [Option.some.injEq] at moved
      subst moved
      have silent : device.stage id = none := by simp [Device.stage, idle]
      constructor
      case table =>
        rw [Device.setCall_stage]
        exact sound.table.goto id _ (.inl rfl)
      case use =>
        rw [Device.setCall_stage]
        exact sound.use.drop held silent rfl rfl
      case list =>
        rw [Device.setCall_stage]
        exact sound.list.goto id _ rfl
      case removing => exact sound.removing
  · cases moved

theorem register (sound : Sound config device free)
    (here : device.calls id = some call) {caller : Caller}
    {devmem start : Nat} (at_ : call.stage = .register caller devmem start)
    {answer : Answer} {next : Device}
    (moved : device.register config id call caller devmem start answer =
      some next) :
    Sound config next free := by
  have unheld := unheld_of here (by rw [at_]; rfl)
  have standing := Device.stage_of_call here
  have builds : call.stage.devmem = some devmem := by rw [at_]; rfl
  have ranged : call.stage.range = some start := by rw [at_]; rfl
  have unpushed : call.stage.pushing = false := by rw [at_]; rfl
  have refused (device' : Device)
      (same : SameChunk (device'.stage id)
        (.releaseRegion caller devmem start))
      (unheld : ∀ at_, device'.stage id = some at_ → at_.popped = none)
      (sound' : Sound config device' free) :
      Sound config (device'.setCall id
        (call.refuse (.releaseRegion caller devmem start))) free :=
    sound'.goto _ unheld same rfl rfl rfl
  have same : SameChunk (device.stage id)
      (.releaseRegion caller devmem start) :=
    .inr ⟨_, standing, builds.symm, ranged.symm, unpushed.symm⟩
  rw [Device.register] at moved
  split at moved
  · cases moved
  next unlocked =>
  split at moved
  · simp only [Option.some.injEq] at moved
    subst moved
    exact refused device same unheld sound
  next grown grew =>
  obtain ⟨capacity, room, rfl⟩ := Device.growChunks_frame grew
  split at moved
  · simp only [Option.some.injEq] at moved
    subst moved
    have grows := device.listed_append devmem
    constructor
    case table =>
      rw [Device.setCall_stage]
      exact sound.table.register standing builds grows rfl ranged.symm rfl
    case use =>
      rw [Device.setCall_stage]
      exact sound.use.goto id _ unheld rfl rfl
    case list =>
      rw [Device.setCall_stage]
      exact sound.list.register sound.table standing builds ranged unpushed
        grows rfl rfl
    case removing =>
      constructor
      · intro removal locked
        simp [Device.setCall, Device.memremapPages] at locked
        simp [locked] at unlocked
      · intro index locked
        simp [Device.setCall, Device.memremapPages] at locked
        simp [locked] at unlocked
  · simp only [Option.some.injEq] at moved
    subst moved
    exact refused _ same unheld
      ⟨sound.table, sound.use, sound.list, sound.removing⟩

/-- The pages of a chunk go to the front of the list, and the last of them
goes on to the caller that wants one. -/
theorem pushPages (sound : Sound config device free)
    (here : device.calls id = some call) {caller : Caller}
    {devmem start : Nat} (at_ : call.stage = .pushPages caller devmem start)
    {next : Device}
    (moved : device.pushPages config id call caller start = some next) :
    ∃ links head,
      (caller = .deviceInit ∧
        next = { device with
          zoneDeviceData := links
          freePages := head
          calls := Function.update device.calls id
            (some (call.goto (.chunkReturned true))) } ∧
        Sound config next (chunkList config start ++ free)) ∨
      ∃ rpage dpage rest, caller = .devmemAllocPage rpage ∧
        chunkList config start ++ free = dpage :: rest ∧
        dpage ∉ device.inUse ∧
        next = { device with
          zoneDeviceData := links
          freePages := head
          calloc := device.calloc + 1
          inUse := insert dpage device.inUse
          calls := Function.update device.calls id
            (some (call.goto (.initPage rpage dpage))) } ∧
        Sound config next rest := by
  have unheld := unheld_of here (by rw [at_]; rfl)
  have standing := Device.stage_of_call here
  have builds : call.stage.devmem = some devmem := by rw [at_]; rfl
  have ranged : call.stage.range = some start := by rw [at_]; rfl
  have pushes : call.stage.pushing = true := by rw [at_]; rfl
  have filled (after : Stage) (still : after.pushing = false) :=
    sound.list.pushPages sound.table after standing builds ranged pushes still
  unfold Device.pushPages at moved
  cases caller with
  | deviceInit =>
      simp only [Option.some.injEq] at moved
      subst moved
      refine ⟨_, _, .inl ⟨rfl, rfl, ?_, ?_, ?_, sound.removing⟩⟩
      · rw [Device.setCall_stage]
        exact sound.table.goto id _ (.inl rfl)
      · rw [Device.setCall_stage]
        exact sound.use.goto id _ unheld rfl rfl
      · rw [Device.setCall_stage]
        exact filled _ rfl
  | devmemAllocPage rpage =>
      simp only at moved
      split at moved
      · next impossible => cases impossible
      · next page dpage same first =>
        cases same
        simp only [Option.some.injEq] at moved
        subst moved
        obtain ⟨rest, split, popped⟩ :=
          (filled (.initPage rpage dpage) rfl).pop first
        have fresh : dpage ∉ device.inUse :=
          (filled (.initPage rpage dpage) rfl).unused dpage (by simp [split])
        refine ⟨_, _, .inr ⟨rpage, dpage, rest, rfl, split, fresh, rfl, ?_,
          ?_, ?_, sound.removing⟩⟩
        · rw [Device.handOut, Device.setCall_stage]
          exact sound.table.goto id _ (.inl rfl)
        · rw [Device.handOut, Device.setCall_stage]
          exact sound.use.pop id fresh unheld rfl rfl
        · rw [Device.handOut, Device.setCall_stage]
          exact popped
      · cases moved

theorem pushFree (sound : Sound config device free)
    (here : device.calls id = some call) {page : Page}
    (at_ : call.stage = .pushFree page) {next : Device}
    (moved : device.pushFree id call page = some next) :
    ∃ found, (device.pgmap page).bind device.chunk = some found ∧
      Sound config next (if found.remove then free else page :: free) := by
  have standing := Device.stage_of_call here
  have frees : call.stage.freeing = some page := by rw [at_]; rfl
  have unheld : call.stage.popped = none := by rw [at_]; rfl
  have used : page ∈ device.inUse :=
    sound.use.pinnedUsed (sound.use.freeing id _ page standing frees).1
  rw [Device.pushFree] at moved
  split at moved
  · cases moved
  next found owner =>
  simp only [Option.some.injEq] at moved
  subst moved
  refine ⟨found, owner, ?_⟩
  have table := sound.table.goto id (call.goto .freed).stage (.inl rfl)
  have use := sound.use.push standing frees unheld
    (rfl : (call.goto .freed).stage.popped = none) rfl
  cases marked : found.remove with
  | true =>
      refine ⟨?_, ?_, ?_, sound.removing⟩
      · rw [Device.setCall_stage]
        exact table
      · rw [Device.setCall_stage]
        exact use
      · rw [Device.setCall_stage]
        exact (sound.list.drop page).goto id _ rfl
  | false =>
      refine ⟨?_, ?_, ?_, sound.removing⟩
      · rw [Device.setCall_stage]
        exact table
      · rw [Device.setCall_stage]
        exact use
      · rw [Device.setCall_stage]
        have unmarked : ∀ devmem chunk, device.pgmap page = some devmem →
            device.chunk devmem = some chunk → chunk.remove = false := by
          intro devmem chunk owned alive
          rw [owned, Option.bind_some, alive, Option.some.injEq] at owner
          exact owner ▸ marked
        exact (sound.list.push used unmarked).goto id _ rfl

theorem leave (sound : Sound config device free) {next : Device}
    (moved : device.leave id = some next) : Sound config next free := by
  rw [Device.leave] at moved
  split at moved
  · cases moved
  next call here =>
  split at moved
  · next returned =>
    simp only [Option.some.injEq] at moved
    subst moved
    have unheld : ∀ at_, device.stage id = some at_ → at_.popped = none := by
      apply unheld_of here
      cases at_ : call.stage <;> simp_all [Device.Stage.returns, Stage.popped]
    have silent := Device.clearCall_stage device id
    refine ⟨?_, ?_, ?_, sound.removing⟩
    · rw [silent]
      exact sound.table.leave id
    · rw [silent]
      exact sound.use.leave id unheld
    · rw [silent]
      exact sound.list.leave id
  · cases moved

theorem removeChunks (sound : Sound config device free) {next : Device}
    (moved : device.removeChunks = some next) : Sound config next free := by
  rw [Device.removeChunks] at moved
  split at moved
  · cases moved
  split at moved
  · simp only [Option.some.injEq] at moved
    exact moved ▸ sound
  · simp only [Option.some.injEq] at moved
    subst moved
    refine ⟨sound.table, sound.use, sound.list, ?_, ?_⟩
    · rintro removal ⟨⟩ index before
      exact absurd before (Nat.not_lt_zero index)
    · rintro index ⟨⟩

theorem removeMark (sound : Sound config device free) {passes : Nat}
    {next : Device} (moved : device.removeMark passes = some next)
    (clear : ∀ index devmem, device.devmemLock = some ⟨index, false⟩ →
      device.devmemChunks index = some devmem →
      ∀ id at_, device.stage id = some at_ → at_.pushing = true →
        at_.devmem ≠ some devmem) :
    ∃ rest, Sound config next rest := by
  rw [Device.removeMark] at moved
  split at moved
  next index locked =>
    split at moved
    next inside =>
      split at moved
      · cases moved
      next devmem registered =>
      split at moved
      next found head alive cut =>
        simp only [Option.some.injEq] at moved
        subst moved
        obtain ⟨rest, chain, suffix, clean⟩ := cut_spec sound.list.chain cut
        have listed : device.Listed devmem := ⟨index, inside, registered⟩
        have unbuilt : ∀ id at_, device.stage id = some at_ →
            at_.devmem ≠ some devmem := by
          intro id at_ there builds
          have pushes :=
            (sound.table.listedIff id at_ devmem there builds).mp listed
          exact clear index devmem locked registered id at_ there pushes builds
        refine ⟨rest, sound.table.mark alive unbuilt, sound.use, ?_, ?_, ?_⟩
        · apply sound.list.mark alive chain suffix
          intro page member
          simpa using clean page member
        · rintro removal ⟨⟩ earlier before inside' other registered'
          have dead := sound.removing.removed _ locked earlier before inside'
            other registered'
          have different : other ≠ devmem := by
            rintro rfl
            rw [alive] at dead
            cases dead
          exact (Function.update_of_ne different ..).trans dead
        · rintro index' ⟨⟩
          refine ⟨inside, ?_⟩
          intro other registered'
          rw [registered, Option.some.injEq] at registered'
          subst registered'
          exact ⟨_, Function.update_self .., rfl⟩
      · cases moved
    · cases moved
  · cases moved

theorem removeUnmap (sound : Sound config device free) {next : Device}
    (moved : device.removeUnmap = some next)
    (clear : ∀ index devmem, device.devmemLock = some ⟨index, true⟩ →
      device.devmemChunks index = some devmem →
      ∀ id at_ page, device.stage id = some at_ → at_.popped = some page →
        device.pgmap page ≠ some devmem) :
    Sound config next free := by
  rw [Device.removeUnmap] at moved
  split at moved
  next index locked =>
    split at moved
    · cases moved
    next devmem registered =>
    split at moved
    · cases moved
    next found alive =>
    split at moved
    next quiet =>
      simp only [Option.some.injEq] at moved
      subst moved
      obtain ⟨inside, marks⟩ := sound.removing.marked index locked
      have removed : found.remove = true := by
        obtain ⟨found', alive', removed⟩ := marks devmem registered
        rw [alive, Option.some.injEq] at alive'
        exact alive' ▸ removed
      have unbuilt : ∀ id at_, device.stage id = some at_ →
          at_.devmem ≠ some devmem := by
        intro id at_ there builds
        have built := sound.table.built id at_ devmem there builds
        rw [alive, Option.some.injEq] at built
        rw [built] at removed
        cases removed
      -- Marking took the chunk's pages off the list; those in use are
      -- neither pinned nor popped any more.
      have gone : ∀ page, page ∈ free ∨ page ∈ device.inUse →
          device.pgmap page ≠ some devmem := by
        rintro page (member | used) owned
        · have clean := sound.list.unmarked page member devmem found owned
            alive
          rw [removed] at clean
          cases clean
        · by_cases pinned : page ∈ device.pinned
          · exact quiet page pinned owned
          · obtain ⟨id, at_, there, holds⟩ :=
              sound.use.unpinned page used pinned
            exact clear index devmem locked registered id at_ page there holds
              owned
      refine ⟨?_, sound.use, sound.list.kfree gone, ?_, ?_⟩
      · apply sound.table.kfree unbuilt
        intro other found' start' different alive' ranged'
        have busy := sound.table.busy other found' start' alive' ranged'
        cases ranged : found.range with
        | none => exact busy
        | some start =>
            have far := sound.table.apart other devmem found' found start'
              start different alive' alive ranged' ranged
            have positive := config.positive
            unfold Device.Apart at far
            simp only [Finset.mem_erase]
            exact ⟨by omega, busy⟩
      · rintro removal ⟨⟩ earlier before inside' other registered'
        by_cases same : other = devmem
        · subst same
          exact Function.update_self ..
        · have different : earlier ≠ index := by
            rintro rfl
            rw [registered, Option.some.injEq] at registered'
            exact same registered'.symm
          have passed : earlier < index := by
            simp only at before
            omega
          exact (Function.update_of_ne same ..).trans
            (sound.removing.removed _ locked earlier passed inside' other
              registered')
      · rintro index' ⟨⟩
    · cases moved
  · cases moved

theorem removeEnd (sound : Sound config device free) {next : Device}
    (moved : device.removeEnd = some next) : Sound config next [] := by
  rw [Device.removeEnd] at moved
  split at moved
  next index locked =>
    split at moved
    · cases moved
    next through =>
      simp only [Option.some.injEq] at moved
      subst moved
      have dead : ∀ devmem, device.Listed devmem →
          device.chunk devmem = none := by
        rintro devmem ⟨earlier, inside, registered⟩
        exact sound.removing.removed _ locked earlier (by simp only; omega)
          inside devmem registered
      have dropped : ∀ devmem, ¬∃ index, index < 0 ∧
          (none : Option Nat) = some devmem := by
        rintro devmem ⟨index, inside, -⟩
        exact Nat.not_lt_zero index inside
      have idle : ∀ id at_, device.stage id = some at_ →
          at_.pushing = false := by
        intro id at_ there
        cases builds : at_.devmem with
        | none => cases at_ <;> first | rfl | cases builds
        | some devmem =>
            have alive := sound.table.built id at_ devmem there builds
            rw [Bool.eq_false_iff]
            intro pushes
            have listed :=
              (sound.table.listedIff id at_ devmem there builds).mpr pushes
            rw [dead devmem listed] at alive
            cases alive
      have empty : ∀ page, page ∉ device.inUse := by
        intro page used
        obtain ⟨devmem, found, start, -, alive, -, -, listed⟩ :=
          sound.list.settled page (.inr used)
        rw [dead devmem listed] at alive
        cases alive
      refine ⟨sound.table.unlist dropped idle, sound.use,
        ⟨.nil, by simp, ?_, by simp, ?_, ?_⟩, ?_, ?_⟩
      · rintro page (member | used)
        · cases member
        · exact absurd used (empty page)
      · intro id at_ devmem there pushes
        rw [idle id at_ there] at pushes
        cases pushes
      · intro id at_ devmem start there pushes
        rw [idle id at_ there] at pushes
        cases pushes
      · rintro removal ⟨⟩
      · rintro index' ⟨⟩
  · cases moved

theorem popFree (sound : Sound config device free)
    (here : device.calls id = some call) {rpage : Page}
    (at_ : call.stage = .popFree rpage) :
    ∃ free', Sound config (device.popFree id call rpage) free' := by
  have unheld := unheld_of here (by rw [at_]; rfl)
  rw [Device.popFree]
  split
  · next dpage first =>
    obtain ⟨rest, -, handed⟩ := sound.handOut call rpage first unheld
    exact ⟨rest, handed⟩
  · exact ⟨free, sound.goto _ unheld (.inl rfl) rfl rfl rfl⟩

theorem advance (sound : Sound config device free) {answer : Answer}
    {next : Device} (moved : device.advance config id answer = some next) :
    ∃ free', Sound config next free' := by
  unfold Device.advance at moved
  split at moved
  · cases moved
  next call here =>
  split at moved
  case h_1 at_ =>
    cases moved
    exact ⟨free, sound.allocRpage here at_ _⟩
  case h_2 rpage at_ =>
    cases moved
    exact sound.popFree here at_
  case h_3 caller at_ =>
    cases moved
    exact ⟨free, sound.kzallocChunk here at_ _⟩
  case h_4 caller devmem at_ =>
    cases moved
    exact ⟨free, sound.requestRegion here at_ _⟩
  case h_5 caller devmem start at_ =>
    exact ⟨free, sound.register here at_ moved⟩
  case h_6 caller devmem start at_ =>
    rcases sound.pushPages here at_ moved with
      ⟨links, head, ⟨-, -, filled⟩ | ⟨rpage, dpage, rest, -, -, -, -, filled⟩⟩
    · exact ⟨_, filled⟩
    · exact ⟨rest, filled⟩
  case h_7 caller devmem start at_ =>
    cases moved
    exact ⟨free, sound.releaseRegion here at_⟩
  case h_8 caller devmem at_ =>
    cases moved
    exact ⟨free, sound.freeChunk here at_⟩
  case h_9 rpage at_ =>
    cases moved
    exact ⟨free, sound.freeRpage here at_⟩
  case h_10 rpage dpage at_ =>
    cases moved
    exact ⟨free, sound.initPage here at_⟩
  case h_11 page at_ =>
    obtain ⟨found, -, pushed⟩ := sound.pushFree here at_ moved
    exact ⟨_, pushed⟩
  all_goals cases moved

theorem enter (sound : Sound config device free)
    (idle : device.calls id = none) (stage : Stage)
    (unbuilt : stage.devmem = none) (noPopped : stage.popped = none)
    (noFreeing : stage.freeing = none) (still : stage.pushing = false) :
    Sound config (device.setCall id (Call.start stage)) free := by
  apply sound.goto _ _ (.inl unbuilt) noPopped noFreeing still
  intro at_ there
  simp [Device.stage, idle] at there

end Sound

namespace Device

/-- Where a RELEASE does not meet a call half way: it marks no chunk whose
pages a call is about to push, and frees no chunk of which a call holds a
page that it has popped and not initialised. -/
def Undisturbed (device : Device) : Input → Prop
  | .removeMark _ => ∀ index devmem,
      device.devmemLock = some ⟨index, false⟩ →
      device.devmemChunks index = some devmem →
      ∀ id at_, device.stage id = some at_ → at_.pushing = true →
        at_.devmem ≠ some devmem
  | .removeUnmap => ∀ index devmem,
      device.devmemLock = some ⟨index, true⟩ →
      device.devmemChunks index = some devmem →
      ∀ id at_ page, device.stage id = some at_ → at_.popped = some page →
        device.pgmap page ≠ some devmem
  | _ => True

/-- Each page on `free_pages` is a page of a chunk that is registered in
`devmem_chunks[0..devmem_count)` and has not been freed, and so is each page
handed out. -/
structure LiveFreeList (config : Config) (device : Device) : Prop where
  free : ∃ pages, Chain device.zoneDeviceData device.freePages pages ∧
    ∀ page ∈ pages,
      Settled config device.pgmap device.chunk device.Listed page
  handedOut : ∀ page ∈ device.inUse,
    Settled config device.pgmap device.chunk device.Listed page

theorem zeroed_sound (config : Config) : Sound config zeroed [] where
  table := by
    have unlisted : ∀ devmem, ¬zeroed.Listed devmem := by
      rintro devmem ⟨index, inside, -⟩
      exact Nat.not_lt_zero index inside
    constructor
    case unmade => exact fun devmem _ => ⟨rfl, unlisted devmem⟩
    all_goals simp [zeroed, stage]
  use := by constructor <;> simp [zeroed, stage]
  list := by
    constructor
    case chain => exact .nil
    all_goals simp [zeroed, stage]
  removing := by constructor <;> simp [zeroed]

theorem step_sound {config : Config} {device next : Device}
    {free : List Page} {input : Input} (sound : Sound config device free)
    (undisturbed : device.Undisturbed input)
    (moved : device.step config input = some next) :
    ∃ free', Sound config next free' := by
  cases input with
  | devmemAllocPage id =>
      obtain ⟨idle, result⟩ := enter_spec moved
      cases result
      exact ⟨free, sound.enter idle _ rfl rfl rfl rfl⟩
  | allocateChunk id =>
      obtain ⟨idle, result⟩ := enter_spec moved
      cases result
      exact ⟨free, sound.enter idle _ rfl rfl rfl rfl⟩
  | devmemFree id page =>
      obtain ⟨idle, result⟩ := enter_spec moved
      exact ⟨free, sound.devmemFree idle result⟩
  | advance id answer => exact sound.advance moved
  | leave id => exact ⟨free, sound.leave moved⟩
  | removeChunks => exact ⟨free, sound.removeChunks moved⟩
  | removeMark passes => exact sound.removeMark moved undisturbed
  | removeUnmap => exact ⟨free, sound.removeUnmap moved undisturbed⟩
  | removeEnd => exact ⟨[], sound.removeEnd moved⟩

theorem invariant_sound (config : Config) :
    (machine config).Invariant Undisturbed
      (fun device => ∃ free, Sound config device free) where
  initial := by
    rintro device rfl
    exact ⟨[], zeroed_sound config⟩
  preserved := by
    rintro device input next ⟨free, sound⟩ undisturbed moved
    exact step_sound sound undisturbed moved

/-- For any number of threads, the free list and the pages handed out stay
within the live chunks as long as no RELEASE meets a call half way. -/
theorem liveFreeList (config : Config) {device : Device}
    (reached : (machine config).Reaches Undisturbed device) :
    LiveFreeList config device := by
  obtain ⟨free, sound⟩ := (invariant_sound config).reaches reached
  constructor
  · refine ⟨free, sound.list.chain, ?_⟩
    intro page member
    exact sound.list.settled page (.inl member)
  · intro page used
    exact sound.list.settled page (.inr used)

/-- Only the threads 0 and 1 run, and chunks are removed while they are out
of the allocator. -/
private def twoThreads (device : Device) (input : Input) : Bool :=
  (input.thread.all fun id => id < 2) &&
    match input with
    | .removeMark _ => (device.calls 0).isNone && (device.calls 1).isNone
    | .removeUnmap => (device.calls 0).isNone && (device.calls 1).isNone
    | _ => true

private theorem twoThreads_undisturbed {config : Config} {device : Device}
    (reached : (machine config).Reaches
      (fun device input => twoThreads device input = true) device) :
    (machine config).Reaches Undisturbed device := by
  obtain ⟨start, inputs, initial, run⟩ := reached
  refine ⟨start, inputs, initial, run.mono_along
    (fun device => ∀ id, 2 ≤ id → device.calls id = none) ?_ ?_ ?_⟩
  · intro device input next silent admitted moved id above
    rw [step_calls moved, silent id above]
    intro thread
    simp only [twoThreads, thread, Option.all_some, Bool.and_eq_true,
      decide_eq_true_eq] at admitted
    omega
  · intro device input silent admitted
    have idle (quiet : device.calls 0 = none ∧ device.calls 1 = none)
        (id : Nat) : device.stage id = none := by
      rcases id with _ | _ | id
      · simp [stage, quiet.1]
      · simp [stage, quiet.2]
      · simp [stage, silent (id + 2) (by omega)]
    cases input with
    | removeMark passes =>
        intro index devmem _ _ id at_ there
        rw [idle (by simpa [twoThreads, Input.thread] using admitted)] at there
        cases there
    | removeUnmap =>
        intro index devmem _ _ id at_ page there
        rw [idle (by simpa [twoThreads, Input.thread] using admitted)] at there
        cases there
    | _ => trivial
  · rintro id -
    rw [show start = zeroed from initial]
    rfl

private def twoPages : Config := ⟨0, 2, by decide⟩

private def granted (frame region : Nat) : Answer :=
  ⟨some frame, true, some region, true, true⟩

/-- A chunk is added, one of its pages handed out and freed, everything
removed, and a page allocated again through a new chunk. -/
theorem liveFreeList_again :
    ∃ device, (machine twoPages).Reaches Undisturbed device ∧
      device.devmemCount = 1 ∧ device.chunk 0 = none ∧
      LiveFreeList twoPages device := by
  obtain ⟨device, reached, shape⟩ := (machine twoPages).reaches_of_test
    (fun device input (admitted : twoThreads device input = true) => admitted)
    ([.allocateChunk 0] ++
      List.replicate 4 (.advance 0 (granted 7 100)) ++
      [.devmemAllocPage 1] ++
      List.replicate 3 (.advance 1 (granted 7 100)) ++
      [.leave 0, .leave 1, .devmemFree 1 (.devicePrivate 0 101),
        .advance 1 (granted 7 100), .leave 1,
        .removeChunks, .removeMark 2, .removeUnmap, .removeEnd,
        .devmemAllocPage 1] ++
      List.replicate 7 (.advance 1 (granted 7 100)))
    (fun device => device.devmemCount == 1 && device.chunk 0 == none) rfl
    (by decide +kernel)
  have undisturbed := twoThreads_undisturbed reached
  simp only [Bool.and_eq_true, beq_iff_eq] at shape
  exact ⟨device, undisturbed, shape.1, shape.2,
    liveFreeList twoPages undisturbed⟩

/-- Thread 0 registers a chunk; before it pushes the pages, a RELEASE marks
and frees the chunk and empties `devmem_chunks`. -/
theorem release_in_the_gap :
    ¬∀ (config : Config) (device : Device),
      (machine config).Reachable device → LiveFreeList config device := by
  intro claimed
  obtain ⟨device, reached, shape⟩ := (machine twoPages).reachable_of_test
    ([.allocateChunk 0] ++
      List.replicate 3 (.advance 0 (granted 7 100)) ++
      [.removeChunks, .removeMark 0, .removeUnmap, .removeEnd,
        .advance 0 (granted 7 100)])
    (fun device => device.freePages == some (.devicePrivate 0 101) &&
      device.devmemCount == 0) rfl (by decide +kernel)
  simp only [Bool.and_eq_true, beq_iff_eq] at shape
  obtain ⟨pages, chain, settled⟩ := (claimed twoPages device reached).free
  rw [shape.1] at chain
  obtain ⟨rest, rfl, -⟩ := chain.nodes_some
  obtain ⟨_, _, _, _, _, _, _, index, inside, _⟩ := settled _ List.mem_cons_self
  rw [shape.2] at inside
  exact Nat.not_lt_zero index inside

end Device

end Rshm.Hmm.Devmem
