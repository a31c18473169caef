import Rshm.Hmm.DevmemConserved
import Rshm.Hmm.Migrate

/-!
# The device pages of the memory

The migrations see `dmirror_devmem_alloc_page` as one step, which takes a
device page and a backing page that are not in use, or nothing.  The sections
of the allocator do that at the first reference to the page: until then a
backing page is with its call, and from then on both pages are in use until
the last reference is dropped.
-/

namespace Rshm.Hmm.Devmem

variable {Contents : Type}

/-- The allocator and the memory that its pages are part of. -/
structure Shared (Contents : Type) where
  device : Device
  mem : Memory Contents

/-- A section of the allocator, or anything else that uses the memory. -/
inductive SharedInput (Contents : Type) where
  | device (input : Input)
  | others (mem : Memory Contents)

/-- The pages that `dmirror_devmem_alloc_page` answers with. -/
def Stage.answer : Stage → Option (Nat × Nat)
  | .initPage (.normal rpfn) (.devicePrivate _ dpfn) => some (dpfn, rpfn)
  | _ => none

theorem Call.Moves.rpage {call call' : Call} (moves : call.Moves call')
    (later : call.stage ≠ .allocRpage) {rpage : Page}
    (has : call'.stage.rpage = some rpage) :
    call.stage.rpage = some rpage := by
  cases moves with
  | gotRpage at_ => exact absurd at_ later
  | noRpage at_ => exact absurd at_ later
  | noChunk at_ =>
      rw [at_]
      exact (Caller.failed_rpage _).symm.trans has
  | chunkFreed at_ =>
      rw [at_]
      exact (Caller.failed_rpage _).symm.trans has
  | filled _ => cases has
  | rpageFreed _ => cases has
  | initialised _ => cases has
  | pushed _ => cases has
  | _ at_ =>
      rw [at_]
      exact has

namespace Device

/-- What a section does to the memory. -/
def memory (config : Config) (device : Device) (mem : Memory Contents) :
    Input → Memory Contents
  | .advance id _ =>
      (dmirrorDevmemAllocPage config.mdevice mem
        ((device.stage id).bind Stage.answer)).2
  | .devmemFree _ page => mem.putPage page
  | _ => mem

/-- The device pages in use are the referenced ones, with the links of the
device, and nobody uses a backing page that is still with a call. -/
structure Serves (config : Config) (device : Device)
    (mem : Memory Contents) : Prop where
  used : ∀ dpfn, Page.devicePrivate config.mdevice dpfn ∈ mem.inUse ↔
    Page.devicePrivate config.mdevice dpfn ∈ device.referenced
  backed : ∀ dpage ∈ device.referenced, ∀ rpage,
    device.zoneDeviceData dpage = some rpage →
    mem.zoneDeviceData dpage = .page rpage ∧ rpage ∈ mem.inUse
  waiting : ∀ id rpage, device.held id = some rpage → rpage ∉ mem.inUse

variable {config : Config} {device next : Device} {free : List Page}
  {mem : Memory Contents}

theorem Serves.of_same (serves : Serves config device mem)
    (same : device.SameLinks next)
    (held : ∀ id rpage, next.held id = some rpage → rpage ∉ mem.inUse) :
    Serves config next mem where
  used := by
    intro dpfn
    rw [same.referenced]
    exact serves.used dpfn
  backed := by
    intro dpage member rpage link
    rw [same.referenced] at member
    rw [same.links dpage member] at link
    exact serves.backed dpage member rpage link
  waiting := held

theorem Serves.silent (serves : Serves config device mem) {id : Nat}
    (same : device.SameLinks next)
    (held : next.held = Function.update device.held id none) :
    Serves config next mem := by
  apply serves.of_same same
  intro other rpage there
  rw [held] at there
  by_cases here : other = id
  · subst here
    rw [Function.update_self] at there
    cases there
  · rw [Function.update_of_ne here] at there
    exact serves.waiting other rpage there

theorem referenced_private (sound : Sound config device free) {dpage : Page}
    (member : dpage ∈ device.referenced) :
    ∃ dpfn, dpage = .devicePrivate config.mdevice dpfn := by
  obtain ⟨_, _, _, -, -, -, inside, -⟩ := referenced_settled sound member
  cases dpage with
  | devicePrivate mdevice dpfn =>
      obtain ⟨own, -⟩ := inside
      exact ⟨dpfn, by rw [own]⟩
  | _ => exact inside.elim

theorem allocRpage_answer {id : Nat} {answer : Answer} {call : Call}
    (here : device.calls id = some call) (at_ : call.stage = .allocRpage)
    (moved : device.advance config id answer = some next) {rpage : Page}
    (has : next.held id = some rpage) :
    ∃ pfn, answer.allocPage = some pfn ∧ rpage = .normal pfn := by
  simp only [Device.advance, here, at_, Option.some.injEq] at moved
  subst moved
  unfold Device.allocRpage at has
  split at has
  · rw [setCall_held, Function.update_self] at has
    cases has
  · next pfn given =>
    split at has
    · rw [setCall_held, Function.update_self] at has
      cases has
    · rw [setCall_held, Function.update_self] at has
      cases has
      exact ⟨pfn, given, rfl⟩

theorem Serves.advance (serves : Serves config device mem)
    (sound : Sound config device free) {id : Nat} {answer : Answer}
    (unused : ∀ pfn, answer.allocPage = some pfn →
      Page.normal pfn ∉ mem.inUse)
    (other : ∀ rpage dpage, device.stage id ≠ some (.initPage rpage dpage))
    (moved : device.advance config id answer = some next) :
    Serves config next mem := by
  have same := advance_links sound other moved
  obtain ⟨call, call', here, moves, result⟩ := advance_moves moved
  have held : next.held =
      Function.update device.held id call'.stage.rpage := by
    rw [← setCall_held device id call']
    funext caller
    simp [held, Device.stage, result]
  apply serves.of_same same
  intro caller rpage there
  rw [held] at there
  by_cases own : caller = id
  · subst own
    rw [Function.update_self] at there
    by_cases at_ : call.stage = .allocRpage
    · have took : next.held caller = some rpage := by
        rw [held, Function.update_self, there]
      obtain ⟨pfn, given, rfl⟩ := allocRpage_answer here at_ moved took
      exact unused pfn given
    · apply serves.waiting caller rpage
      exact (held_of_stage (stage_of_call here)).trans (moves.rpage at_ there)
  · rw [Function.update_of_ne own] at there
    exact serves.waiting caller rpage there

/-- What the call is about to reference and the backing page it has: neither
is in use yet. -/
theorem Serves.answers (serves : Serves config device mem)
    (sound : Sound config device free) (kept : Kept device) {id : Nat}
    {rpage dpage : Page}
    (here : device.stage id = some (.initPage rpage dpage)) :
    ∃ dpfn rpfn, dpage = .devicePrivate config.mdevice dpfn ∧
      rpage = .normal rpfn ∧ dpage ∉ mem.inUse ∧ rpage ∉ mem.inUse := by
  have holds : device.held id = some rpage := held_of_stage here
  obtain ⟨out, -⟩ := kept.backing.called id rpage holds
  obtain ⟨rpfn, rfl⟩ := kept.backing.system rpage out
  obtain ⟨inUse, unpinned⟩ := sound.use.popped id _ dpage here rfl
  obtain ⟨_, _, _, -, -, -, inside, -⟩ :=
    sound.list.settled dpage (.inr inUse)
  cases dpage with
  | devicePrivate mdevice dpfn =>
      obtain ⟨rfl, -⟩ := inside
      refine ⟨dpfn, rpfn, rfl, rfl, ?_, serves.waiting id _ holds⟩
      rw [serves.used dpfn]
      exact fun member => unpinned (sound.use.referencedPinned member)
  | _ => exact inside.elim

theorem Serves.initPage (serves : Serves config device mem)
    (sound : Sound config device free) (kept : Kept device) {id : Nat}
    {answer : Answer} {rpage dpage : Page}
    (here : device.stage id = some (.initPage rpage dpage))
    (moved : device.advance config id answer = some next) :
    let after := dmirrorDevmemAllocPage config.mdevice mem
      (Stage.answer (.initPage rpage dpage))
    after.1 = some dpage ∧ Serves config next after.2 := by
  obtain ⟨dpfn, rpfn, rfl, rfl, fresh, freshBacking⟩ :=
    serves.answers sound kept here
  have holds : device.held id = some (.normal rpfn) := held_of_stage here
  obtain ⟨call, there, at_⟩ := Option.map_eq_some_iff.mp here
  simp only [Device.advance, there, at_, Option.some.injEq] at moved
  subst moved
  simp only [Stage.answer, dmirrorDevmemAllocPage, fresh, freshBacking,
    or_self, if_false, true_and]
  constructor
  · intro other
    simp [Device.initPage, Device.setCall, serves.used other]
  · intro page member backing link
    change page ∈ insert _ device.referenced at member
    change Function.update device.zoneDeviceData _ _ page = _ at link
    by_cases new : page = .devicePrivate config.mdevice dpfn
    · subst new
      rw [Function.update_self, Option.some.injEq] at link
      subst link
      exact ⟨Function.update_self .., by simp⟩
    · rw [Function.update_of_ne new] at link
      obtain ⟨linked, used⟩ := serves.backed page
        (Finset.mem_of_mem_insert_of_ne member new) backing link
      exact ⟨(Function.update_of_ne new ..).trans linked, by simp [used]⟩
  · intro caller page has
    rw [Device.initPage, setCall_held] at has
    by_cases own : caller = id
    · subst own
      rw [Function.update_self] at has
      cases has
    · rw [Function.update_of_ne own] at has
      obtain ⟨pfn, rfl⟩ := kept.backing.system page
        (kept.backing.called caller page has).1
      have apart : Page.normal pfn ≠ .normal rpfn := by
        intro same
        rw [same] at has
        exact own (kept.backing.calledOnce caller id _ has holds)
      simp [serves.waiting caller _ has, apart]

theorem Serves.devmemFree (serves : Serves config device mem)
    (sound : Sound config device free) (kept : Kept device) {id : Nat}
    {page : Page} (idle : device.calls id = none)
    (moved : device.devmemFree id page = some next) :
    Serves config next (mem.putPage page) := by
  unfold Device.devmemFree at moved
  split at moved
  · next member =>
    split at moved
    · cases moved
    next rpage link =>
    cases moved
    obtain ⟨dpfn, rfl⟩ := referenced_private sound member
    obtain ⟨linked, used⟩ := serves.backed _ member rpage link
    obtain ⟨pfn, rfl⟩ : ∃ pfn, rpage = .normal pfn := by
      obtain ⟨other, backed, out⟩ := kept.backing.stored _ member
      rw [link, Option.some.injEq] at backed
      exact kept.backing.system rpage (backed ▸ out)
    have freed : (mem.putPage (.devicePrivate config.mdevice dpfn)).inUse =
        (mem.inUse.erase (.devicePrivate config.mdevice dpfn)).erase
          (.normal pfn) := by
      simp [Memory.putPage, Memory.dmirrorDevmemFree, Memory.backingPage,
        Page.isDevicePrivatePage, linked]
    constructor
    · intro other
      rw [freed]
      simp [Device.setCall, serves.used other]
    · intro dpage still backing link'
      change dpage ∈ device.referenced.erase _ at still
      change device.zoneDeviceData dpage = _ at link'
      obtain ⟨different, old⟩ := Finset.mem_erase.mp still
      obtain ⟨linked', used'⟩ := serves.backed dpage old backing link'
      rw [putPage_zoneDeviceData, freed]
      refine ⟨linked', ?_⟩
      obtain ⟨other, backed, out⟩ := kept.backing.stored dpage old
      rw [link', Option.some.injEq] at backed
      obtain ⟨frame, rfl⟩ := kept.backing.system backing (backed ▸ out)
      have apart : Page.normal frame ≠ .normal pfn := by
        intro same
        rw [same] at link'
        exact different (kept.backing.storedOnce dpage old _ member _ link'
          link)
      simp [used', apart]
    · intro caller other has
      rw [setCall_held] at has
      rw [freed]
      by_cases own : caller = id
      · subst own
        rw [Function.update_self] at has
        cases has
      · rw [Function.update_of_ne own] at has
        have unused := serves.waiting caller other has
        simp [unused]
  · cases moved

/-- What runs beside the allocator: the page allocator gives no section a
frame that is in use, and nobody else touches the device pages or the backing
pages. -/
def Permitted (config : Config) (shared : Shared Contents) :
    SharedInput Contents → Prop
  | .device input =>
      shared.device.NoRelease input ∧
        ∀ id answer pfn, input = .advance id answer →
          answer.allocPage = some pfn → Page.normal pfn ∉ shared.mem.inUse
  | .others mem =>
      (∀ dpfn, Page.devicePrivate config.mdevice dpfn ∈ mem.inUse ↔
        Page.devicePrivate config.mdevice dpfn ∈ shared.mem.inUse) ∧
      (∀ dpage ∈ shared.device.referenced,
        mem.zoneDeviceData dpage = shared.mem.zoneDeviceData dpage) ∧
      ∀ rpage ∈ shared.device.frames,
        (rpage ∈ mem.inUse ↔ rpage ∈ shared.mem.inUse)

/-- No device page is in use before the first chunk. -/
def sharedMachine (Contents : Type) (config : Config) :
    Machine (Shared Contents) (SharedInput Contents) where
  Initial := fun shared => shared.device = zeroed ∧
    ∀ dpfn, Page.devicePrivate config.mdevice dpfn ∉ shared.mem.inUse
  step := fun shared input =>
    match input with
    | .device input =>
        (shared.device.step config input).map fun next =>
          ⟨next, shared.device.memory config shared.mem input⟩
    | .others mem => some { shared with mem := mem }

theorem bind_answer_none {at_ : Option Stage}
    (later : ∀ rpage dpage, at_ ≠ some (.initPage rpage dpage)) :
    at_.bind Stage.answer = none := by
  cases at_ with
  | none => rfl
  | some stage =>
      cases stage with
      | initPage rpage dpage => exact absurd rfl (later rpage dpage)
      | _ => rfl

theorem zeroed_serves
    (empty : ∀ dpfn, Page.devicePrivate config.mdevice dpfn ∉ mem.inUse) :
    Serves config zeroed mem where
  used := by
    intro dpfn
    simp [zeroed, empty dpfn]
  backed := by
    intro dpage member
    simp [zeroed] at member
  waiting := by
    intro id rpage has
    cases has

theorem step_serves {input : Input} (serves : Serves config device mem)
    (accounted : Accounted config device) (noRelease : device.NoRelease input)
    (unused : ∀ id answer pfn, input = .advance id answer →
      answer.allocPage = some pfn → Page.normal pfn ∉ mem.inUse)
    (moved : device.step config input = some next) :
    Serves config next (device.memory config mem input) := by
  obtain ⟨free, sound, -⟩ := accounted.counted
  cases input with
  | devmemAllocPage id =>
      obtain ⟨idle, result⟩ := enter_spec moved
      cases result
      exact serves.silent ⟨rfl, fun _ _ => rfl⟩ (setCall_held ..)
  | allocateChunk id =>
      obtain ⟨idle, result⟩ := enter_spec moved
      cases result
      exact serves.silent ⟨rfl, fun _ _ => rfl⟩ (setCall_held ..)
  | devmemFree id page =>
      obtain ⟨idle, result⟩ := enter_spec moved
      exact serves.devmemFree sound accounted.kept idle result
  | advance id answer =>
      by_cases first : ∃ rpage dpage,
          device.stage id = some (.initPage rpage dpage)
      · obtain ⟨rpage, dpage, here⟩ := first
        rw [Device.memory, here]
        exact (serves.initPage sound accounted.kept here moved).2
      · have later : ∀ rpage dpage,
            device.stage id ≠ some (.initPage rpage dpage) :=
          fun rpage dpage here => first ⟨rpage, dpage, here⟩
        rw [Device.memory, bind_answer_none later]
        exact serves.advance sound
          (fun pfn given => unused id answer pfn rfl given) later moved
  | leave id =>
      rw [Device.step, Device.leave] at moved
      split at moved
      · cases moved
      split at moved
      · cases moved
        exact serves.silent ⟨rfl, fun _ _ => rfl⟩ (clearCall_held device id)
      · cases moved
  | removeChunks => exact noRelease.elim
  | removeMark passes => exact noRelease.elim
  | removeUnmap => exact noRelease.elim
  | removeEnd => exact noRelease.elim

theorem Serves.others (serves : Serves config device mem) (kept : Kept device)
    {after : Memory Contents}
    (permitted : Permitted config ⟨device, mem⟩ (.others after)) :
    Serves config device after := by
  obtain ⟨used, links, frames⟩ := permitted
  refine ⟨fun dpfn => (used dpfn).trans (serves.used dpfn), ?_, ?_⟩
  · intro dpage member rpage link
    obtain ⟨linked, inUse⟩ := serves.backed dpage member rpage link
    obtain ⟨other, backed, out⟩ := kept.backing.stored dpage member
    rw [link, Option.some.injEq] at backed
    exact ⟨(links dpage member).trans linked,
      (frames rpage (backed ▸ out)).mpr inUse⟩
  · intro id rpage has used'
    exact serves.waiting id rpage has
      ((frames rpage (kept.backing.called id rpage has).1).mp used')

theorem invariant_serves (Contents : Type) (config : Config) :
    (sharedMachine Contents config).Invariant (Permitted config)
      (fun shared => Accounted config shared.device ∧
        Serves config shared.device shared.mem) where
  initial := by
    rintro ⟨device, mem⟩ ⟨rfl, empty⟩
    exact ⟨zeroed_accounted config, zeroed_serves empty⟩
  preserved := by
    rintro ⟨device, mem⟩ input after ⟨accounted, serves⟩ permitted moved
    cases input with
    | device input =>
        obtain ⟨noRelease, unused⟩ := permitted
        obtain ⟨next, stepped, rfl⟩ := Option.map_eq_some_iff.mp moved
        exact ⟨(invariant_accounted config).preserved _ _ _ accounted
          noRelease stepped,
          step_serves serves accounted noRelease unused stepped⟩
    | others mem =>
        cases moved
        exact ⟨accounted, serves.others accounted.kept permitted⟩

/-- In every run without a RELEASE `dmirror_devmem_alloc_page` of the memory
gives exactly the page that the allocator returns, and the device pages in
use are the ones the allocator has handed out. -/
theorem devmemAllocPage_serves (config : Config) {shared : Shared Contents}
    (reached : (sharedMachine Contents config).Reaches (Permitted config)
      shared) :
    Serves config shared.device shared.mem ∧
    ∀ id answer next rpage dpage,
      shared.device.stage id = some (.initPage rpage dpage) →
      shared.device.advance config id answer = some next →
      next.stage id = some (.returned (some dpage)) ∧
        (dmirrorDevmemAllocPage config.mdevice shared.mem
          (Stage.answer (.initPage rpage dpage))).1 = some dpage := by
  obtain ⟨accounted, serves⟩ :=
    (invariant_serves Contents config).reaches reached
  refine ⟨serves, ?_⟩
  intro id answer next rpage dpage here moved
  obtain ⟨free, sound, -⟩ := accounted.counted
  refine ⟨?_, (serves.initPage sound accounted.kept here moved).1⟩
  obtain ⟨call, there, at_⟩ := Option.map_eq_some_iff.mp here
  simp only [Device.advance, there, at_, Option.some.injEq] at moved
  subst moved
  simp [Device.initPage]

end Device

end Rshm.Hmm.Devmem
