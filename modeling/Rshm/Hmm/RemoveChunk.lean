import Mathlib.Data.Finset.Preimage
import Mathlib.Data.Fintype.EquivFin
import Rshm.Hmm.Devmem

/-!
# Taking a chunk off the free list

`dmirror_remove_free_pages` walks the free list and moves `free_pages` past
each page of its chunk.  It writes no link, so what it leaves is the part of
the list behind the chunk's last page.  That is the list without the chunk
exactly if no page of another chunk stands in front of one of the chunk's
pages; otherwise those pages are on no list any more and no call of
`dmirror_devmem_alloc_page` is handed one of them.
-/

namespace Rshm.Hmm.Devmem

open IntrusiveList

namespace Device

/-- `dmirror_page_to_chunk(page) == devmem`. -/
def ofChunk (device : Device) (devmem : Nat) (page : Page) : Bool :=
  device.pgmap page == some devmem

/-- `dmirror_remove_free_pages`, whose loop makes at most the given number of
passes. -/
def dmirrorRemoveFreePages (device : Device) (devmem passes : Nat) :
    Option Device :=
  match cut device.zoneDeviceData (device.ofChunk devmem) passes
      device.freePages device.freePages with
  | none => none
  | some freePages => some { device with freePages := freePages }

theorem removeMark_list {device next : Device} {index passes devmem : Nat}
    (locked : device.devmemLock = some ⟨index, false⟩)
    (registered : device.devmemChunks index = some devmem)
    (marked : device.removeMark passes = some next) :
    ∃ removed, device.dmirrorRemoveFreePages devmem passes = some removed ∧
      next.zoneDeviceData = removed.zoneDeviceData ∧
      next.freePages = removed.freePages ∧ next.calls = device.calls := by
  simp only [removeMark, locked, registered] at marked
  split at marked
  · split at marked
    next chunk freePages alive walked =>
      simp only [Option.some.injEq] at marked
      subst marked
      refine ⟨{ device with freePages := freePages }, ?_, rfl, rfl, rfl⟩
      simp only [dmirrorRemoveFreePages]
      unfold ofChunk
      rw [walked]
    · cases marked
  · cases marked

/-- A call of `dmirror_devmem_alloc_page` that finds a page on the free
list: it takes a backing page, pops the page and initialises it. -/
def allocCall (id : Nat) (answer : Answer) : List Input :=
  [.devmemAllocPage id, .advance id answer, .advance id answer,
    .advance id answer]

/-- One of the next calls of the thread that pop the free list is handed the
page. -/
inductive Allocates (config : Config) (id : Nat) : Device → Page → Prop
  | now {device next : Device} {page : Page} {call : Call}
      (answer : Answer) :
      (machine config).exec device (allocCall id answer) = some next →
      next.calls id = some call → call.stage = .returned (some page) →
      Allocates config id device page
  | later {device next : Device} {page : Page} (answer : Answer) :
      (machine config).exec device (allocCall id answer ++ [.leave id]) =
        some next →
      Allocates config id next page → Allocates config id device page

/-- The device after such a call. -/
def handed (device : Device) (id pfn : Nat) (page : Page) : Device :=
  let entered := device.setCall id (Call.start .allocRpage)
  let taken := (Call.start .allocRpage).take (.frame (.normal pfn))
    (.popFree (.normal pfn))
  let popped := { entered with
    frames := insert (Page.normal pfn) entered.frames }.setCall id taken
      |>.handOut id taken (.normal pfn) page
  popped.initPage id (taken.goto (.initPage (.normal pfn) page))
    (.normal pfn) page

theorem exec_allocCall (config : Config) (answer : Answer)
    {device : Device} {id pfn : Nat} {page : Page} (idle : device.calls id = none)
    (granted : answer.allocPage = some pfn)
    (unused : Page.normal pfn ∉ device.frames)
    (head : device.freePages = some page) :
    (machine config).exec device (allocCall id answer) =
      some (device.handed id pfn page) := by
  simp [allocCall, Machine.exec, machine, step, enter, idle, advance,
    setCall, Call.start, allocRpage, granted, unused, Call.take, popFree, head,
    handOut, Call.goto, initPage, handed]

/-- Without a page on the list, the call is on its way to a new chunk. -/
theorem allocCall_returned {config : Config} {device next : Device}
    {id : Nat} {answer : Answer} {call : Call}
    (executed : (machine config).exec device (allocCall id answer) = some next)
    (here : next.calls id = some call)
    (returned : Stage.returns call.stage = true) :
    ∃ pfn page, device.freePages = some page ∧
      next = device.handed id pfn page := by
  cases idle : device.calls id with
  | some busy =>
      simp [allocCall, Machine.exec, machine, step, enter, idle] at executed
  | none =>
      cases answered : answer.allocPage with
      | none =>
          simp [allocCall, Machine.exec, machine, step, enter, idle, advance,
            setCall, Call.start, allocRpage, answered, Call.refuse] at executed
      | some pfn =>
          by_cases used : Page.normal pfn ∈ device.frames
          · simp [allocCall, Machine.exec, machine, step, enter, idle,
              advance, setCall, Call.start, allocRpage, answered, used,
              Call.refuse] at executed
          · cases head : device.freePages with
            | some popped =>
                rw [exec_allocCall config answer idle answered used head,
                  Option.some.injEq] at executed
                exact ⟨pfn, popped, rfl, executed.symm⟩
            | none =>
                simp [allocCall, Machine.exec, machine, step, enter, idle,
                  advance, setCall, Call.start, allocRpage, answered, used,
                  Call.take, popFree, head, Call.goto, kzallocChunk]
                  at executed
                split at executed
                all_goals
                  subst executed
                  simp only [Function.update_self, Option.some.injEq] at here
                  subst here
                  simp [Caller.failed, Stage.returns] at returned

section Handed

variable (device : Device) (id pfn : Nat) (page : Page)

@[simp] theorem handed_freePages :
    (device.handed id pfn page).freePages = device.zoneDeviceData page := rfl

@[simp] theorem handed_zoneDeviceData :
    (device.handed id pfn page).zoneDeviceData =
      Function.update device.zoneDeviceData page (some (.normal pfn)) := rfl

theorem handed_calls : ∃ call, (device.handed id pfn page).calls id =
    some call ∧ call.stage = .returned (some page) := by
  refine ⟨_, Function.update_self .., ?_⟩
  rfl

theorem exec_leave (config : Config) :
    ∃ next, (machine config).exec (device.handed id pfn page) [.leave id] =
        some next ∧
      next.freePages = device.zoneDeviceData page ∧
      next.zoneDeviceData =
        Function.update device.zoneDeviceData page (some (.normal pfn)) ∧
      next.calls id = none := by
  obtain ⟨call, here, stage⟩ := device.handed_calls id pfn page
  simp only [Machine.exec, machine, step, leave, here, stage, Stage.returns,
    if_true]
  exact ⟨_, rfl, rfl, rfl, Function.update_self ..⟩

end Handed

theorem exists_frame (device : Device) :
    ∃ pfn, Page.normal pfn ∉ device.frames := by
  have injective : Function.Injective Page.normal := by
    intro pfn other same
    cases same
    rfl
  obtain ⟨pfn, outside⟩ := Infinite.exists_notMem_finset
    (device.frames.preimage Page.normal injective.injOn)
  exact ⟨pfn, by simpa using outside⟩

theorem leave_returned {config : Config} {device next : Device} {id : Nat}
    (executed : (machine config).exec device [.leave id] = some next) :
    ∃ call, device.calls id = some call ∧
      Stage.returns call.stage = true := by
  cases here : device.calls id with
  | none => simp [Machine.exec, machine, step, leave, here] at executed
  | some call =>
      refine ⟨call, rfl, ?_⟩
      cases returned : Stage.returns call.stage with
      | true => rfl
      | false =>
          simp [Machine.exec, machine, step, leave, here, returned]
            at executed

/-- The pages an idle thread can be handed are those on the list. -/
theorem allocates_iff (config : Config) {id : Nat} {device : Device}
    {free : List Page} {page : Page} (idle : device.calls id = none)
    (listed : Chain device.zoneDeviceData device.freePages free) :
    Allocates config id device page ↔ page ∈ free := by
  constructor
  · intro allocates
    induction allocates generalizing free with
    | @now device next page called answer executed here stage =>
        obtain ⟨pfn, head, popped, rfl⟩ :=
          allocCall_returned executed here (by rw [stage]; rfl)
        obtain ⟨call, again, returned⟩ := device.handed_calls id pfn head
        rw [here, Option.some.injEq] at again
        subst again
        rw [stage, Stage.returned.injEq, Option.some.injEq] at returned
        subst returned
        rw [popped] at listed
        obtain ⟨rest, rfl, -⟩ := listed.nodes_some
        exact List.mem_cons_self
    | @later device next page answer executed _ induction =>
        rw [Machine.exec_append, Option.bind_eq_some_iff] at executed
        obtain ⟨middle, allocated, left⟩ := executed
        obtain ⟨call, here, returned⟩ := leave_returned left
        obtain ⟨pfn, head, popped, rfl⟩ :=
          allocCall_returned allocated here returned
        rw [popped] at listed
        obtain ⟨rest, rfl, tail⟩ := listed.nodes_some
        obtain ⟨next', left', freePages, links, idle'⟩ :=
          device.exec_leave id pfn head config
        rw [left', Option.some.injEq] at left
        subst left
        apply List.mem_cons_of_mem
        apply induction idle'
        rw [freePages, links]
        exact tail.update head _ (List.nodup_cons.mp listed.nodup).1
  · intro member
    induction free generalizing device with
    | nil => cases member
    | cons head rest induction =>
        obtain ⟨popped, tail⟩ := listed.of_cons
        obtain ⟨pfn, unused⟩ := exists_frame device
        let answer : Answer := ⟨some pfn, false, none, false, false⟩
        have allocated := exec_allocCall config answer idle rfl unused
          popped
        rcases List.mem_cons.mp member with rfl | later
        · obtain ⟨call, here, returned⟩ := device.handed_calls id pfn page
          exact .now answer allocated here returned
        · obtain ⟨next, left, freePages, links, idle'⟩ :=
            device.exec_leave id pfn head config
          apply Allocates.later answer
          · rw [Machine.exec_append, allocated]
            exact left
          · apply induction idle' _ later
            rw [freePages, links]
            exact tail.update head _ (List.nodup_cons.mp listed.nodup).1

/-- The free list with exactly the chunk's pages taken out. -/
def Removed (device : Device) (devmem : Nat) (free : List Page)
    (next : Device) : Prop :=
  Chain next.zoneDeviceData next.freePages
    (free.filter fun page => !device.ofChunk devmem page)

theorem dmirrorRemoveFreePages_cut {device next : Device}
    {devmem passes : Nat}
    (ran : device.dmirrorRemoveFreePages devmem passes = some next) :
    cut device.zoneDeviceData (device.ofChunk devmem) passes device.freePages
        device.freePages = some next.freePages ∧
      next.zoneDeviceData = device.zoneDeviceData := by
  rw [dmirrorRemoveFreePages] at ran
  split at ran
  · cases ran
  next freePages walked =>
    cases ran
    exact ⟨walked, rfl⟩

theorem removed_iff {device next : Device} {devmem passes : Nat}
    {free : List Page}
    (listed : Chain device.zoneDeviceData device.freePages free)
    (ran : device.dmirrorRemoveFreePages devmem passes = some next) :
    device.Removed devmem free next ↔
      DropsFirst (device.ofChunk devmem) free := by
  obtain ⟨walked, links⟩ := dmirrorRemoveFreePages_cut ran
  rw [Removed, links]
  exact cut_filters_iff listed walked

theorem dmirrorRemoveFreePages_ends {device : Device} {free : List Page}
    (listed : Chain device.zoneDeviceData device.freePages free)
    (devmem : Nat) {passes : Nat} (enough : free.length ≤ passes) :
    ∃ next, device.dmirrorRemoveFreePages devmem passes = some next := by
  obtain ⟨freePages, walked⟩ : ∃ freePages,
      cut device.zoneDeviceData (device.ofChunk devmem) passes
        device.freePages device.freePages = some freePages :=
    cut_finishes listed device.freePages enough
  rw [dmirrorRemoveFreePages, walked]
  exact ⟨_, rfl⟩

/-- While a chunk is taken out, an idle thread can be handed every free page
of the others exactly if none of them stands in front of the chunk's. -/
theorem removeMark_allocates_iff (config : Config) {device next : Device}
    {index passes devmem id : Nat} {free : List Page}
    (listed : Chain device.zoneDeviceData device.freePages free)
    (locked : device.devmemLock = some ⟨index, false⟩)
    (registered : device.devmemChunks index = some devmem)
    (idle : device.calls id = none)
    (marked : device.removeMark passes = some next) :
    (∀ page ∈ free, device.ofChunk devmem page = false →
        Allocates config id next page) ↔
      DropsFirst (device.ofChunk devmem) free := by
  obtain ⟨removed, ran, links, head, calls⟩ :=
    removeMark_list locked registered marked
  obtain ⟨walked, same⟩ := dmirrorRemoveFreePages_cut ran
  obtain ⟨rest, left, -, -⟩ := cut_spec listed walked
  have listed' : Chain next.zoneDeviceData next.freePages rest := by
    rw [links, same, head]
    exact left
  have handed (page : Page) : Allocates config id next page ↔ page ∈ rest :=
    allocates_iff config (by rw [calls, idle]) listed'
  simp only [handed]
  exact cut_keeps_iff listed walked left

/-- The free list loses exactly the pages of the chunk, and the pages of the
other chunks stay within reach, if and only if no page of another chunk
stands in front of one of the chunk's. -/
theorem remove_free_pages_iff (config : Config) (device : Device)
    (free : List Page)
    (listed : Chain device.zoneDeviceData device.freePages free)
    (devmem : Nat) :
    (∀ passes, free.length ≤ passes →
      ∃ next, device.dmirrorRemoveFreePages devmem passes = some next ∧
        (device.Removed devmem free next ↔
          DropsFirst (device.ofChunk devmem) free)) ∧
    ∀ index passes id next,
      device.devmemLock = some ⟨index, false⟩ →
      device.devmemChunks index = some devmem →
      device.calls id = none → device.removeMark passes = some next →
      ((∀ page ∈ free, device.ofChunk devmem page = false →
          Allocates config id next page) ↔
        DropsFirst (device.ofChunk devmem) free) := by
  constructor
  · intro passes enough
    obtain ⟨next, ran⟩ := dmirrorRemoveFreePages_ends listed devmem enough
    exact ⟨next, ran, removed_iff listed ran⟩
  · intro index passes id next locked registered idle marked
    exact removeMark_allocates_iff config listed locked registered idle marked

/-- A free list of two pages of two chunks, the first being taken out. -/
def twoChunks : Device :=
  { zeroed with
    devmemCount := 2
    devmemChunks := fun index => some index
    devmemLock := some ⟨0, false⟩
    chunk := fun _ => some ⟨none, false⟩
    freePages := some (.devicePrivate 0 100)
    zoneDeviceData := Function.update (fun _ => none) (.devicePrivate 0 100)
      (some (.devicePrivate 0 200))
    pgmap := fun page =>
      if page = .devicePrivate 0 100 then some 0 else some 1 }

theorem remove_first_chunk :
    (∃ next, twoChunks.dmirrorRemoveFreePages 0 2 = some next ∧
      (twoChunks.Removed 0 [.devicePrivate 0 100, .devicePrivate 0 200] next ↔
        DropsFirst (twoChunks.ofChunk 0)
          [.devicePrivate 0 100, .devicePrivate 0 200])) ∧
    ∃ next, twoChunks.removeMark 2 = some next ∧
      ((∀ page ∈ [Page.devicePrivate 0 100, .devicePrivate 0 200],
          twoChunks.ofChunk 0 page = false →
          Allocates ⟨0, 1, by decide⟩ 0 next page) ↔
        DropsFirst (twoChunks.ofChunk 0)
          [.devicePrivate 0 100, .devicePrivate 0 200]) := by
  have listed : Chain twoChunks.zoneDeviceData twoChunks.freePages
      [.devicePrivate 0 100, .devicePrivate 0 200] := .cons (.cons .nil)
  obtain ⟨removes, handed⟩ := remove_free_pages_iff ⟨0, 1, by decide⟩
    twoChunks [.devicePrivate 0 100, .devicePrivate 0 200] listed 0
  exact ⟨removes 2 (by decide), _, rfl, handed 0 2 0 _ rfl rfl rfl rfl⟩

private def chunkOfTwo : Config := ⟨0, 2, Nat.two_pos⟩

private def grants (frame region : Nat) : Answer :=
  ⟨some frame, true, some region, true, true⟩

/-- The chunk at 100 is used up, one page is taken from the chunk at 200, and
the two pages are freed, the page at 100 first. -/
private def interleaved : List Input :=
  [.allocateChunk 0] ++ List.replicate 4 (.advance 0 (grants 0 100)) ++
  [.devmemAllocPage 1] ++ List.replicate 3 (.advance 1 (grants 1 0)) ++
  [.leave 1, .devmemAllocPage 1] ++
  List.replicate 3 (.advance 1 (grants 2 0)) ++
  [.leave 1, .devmemAllocPage 1] ++
  List.replicate 7 (.advance 1 (grants 3 200)) ++
  [.leave 1, .devmemFree 1 (.devicePrivate 0 100), .advance 1 (grants 0 0),
    .leave 1, .devmemFree 1 (.devicePrivate 0 201),
    .advance 1 (grants 0 0), .leave 1, .removeChunks]

private def losesPage (device : Device) : Bool :=
  device.freePages == some (.devicePrivate 0 201) &&
  device.zoneDeviceData (.devicePrivate 0 201) ==
    some (.devicePrivate 0 100) &&
  device.zoneDeviceData (.devicePrivate 0 100) ==
    some (.devicePrivate 0 200) &&
  device.zoneDeviceData (.devicePrivate 0 200) == none &&
  device.pgmap (.devicePrivate 0 201) == some 1 &&
  (device.dmirrorRemoveFreePages 0 3).any fun next =>
    next.freePages == some (.devicePrivate 0 200)

/-- Taking out the first chunk loses the page of the second that stands in
front of it. -/
theorem removal_loses_page :
    ¬∀ (config : Config) (device next : Device) (free : List Page)
        (devmem passes : Nat),
      (machine config).Reachable device →
      Chain device.zoneDeviceData device.freePages free →
      device.dmirrorRemoveFreePages devmem passes = some next →
      device.Removed devmem free next := by
  intro claimed
  obtain ⟨device, reached, shape⟩ := (machine chunkOfTwo).reachable_of_test
    interleaved losesPage rfl (by decide +kernel)
  simp only [losesPage, Bool.and_eq_true, beq_iff_eq] at shape
  obtain ⟨⟨⟨⟨⟨head, first⟩, second⟩, third⟩, other⟩, ran⟩ := shape
  obtain ⟨next, ran, left⟩ := (Option.any_eq_true _ _).mp ran
  simp only [beq_iff_eq] at left
  have listed : Chain device.zoneDeviceData device.freePages
      [.devicePrivate 0 201, .devicePrivate 0 100, .devicePrivate 0 200] := by
    rw [head]
    apply Chain.cons
    rw [first]
    apply Chain.cons
    rw [second]
    apply Chain.cons
    rw [third]
    exact .nil
  have removed := claimed chunkOfTwo device next _ 0 3 reached listed ran
  have stays : device.ofChunk 0 (.devicePrivate 0 201) = false := by
    rw [ofChunk, other]
    rfl
  rw [Removed, List.filter_cons_of_pos (by simp [stays]), left] at removed
  obtain ⟨same, -⟩ := removed.of_cons
  cases same

end Device

end Rshm.Hmm.Devmem
