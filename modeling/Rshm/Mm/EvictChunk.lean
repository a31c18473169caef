import Rshm.Mm.DeviceRange

/-!
# Evicting a chunk

`dmirror_device_evict_chunk` over the page frames of the kernel.  Between
`migrate_device_range` and `migrate_device_pages` its loop finds a page of
system memory for every page that is to leave the chunk.
-/

namespace Rshm.Mm

open RangeLoop

/-- What `dmirror_device_evict_chunk` gets from its surroundings: the pages
that `alloc_page` finds, which with `__GFP_NOFAIL` it always does, and what
its calls answer. -/
structure EvictEnv (Contents : Type) where
  dpage : Nat → Pfn
  retrieval : Nat → Retrieval Contents
  mapped : Nat → Bool
  zone : Nat → ZoneKind
  folio : Nat → Int

/-- `is_device_private_page(spage) || is_device_coherent_page(spage)`. -/
def PageKind.isDevice (kind : PageKind) : Bool :=
  kind.isDevicePrivate || kind.isDeviceCoherent

section Loop

variable {Contents : Type} (host : Host) (env : EvictEnv Contents)
  (src : Nat → UInt64)

/-- The destination word that the loop gives a slot, if any. -/
def evictWord (i : Nat) : Option UInt64 :=
  match pageOf (src i) with
  | none => none
  | some spage =>
      if migrating (src i) && (host.kind spage).isDevice then
        some (migratePfn (env.dpage i) |||
          (if writing (src i) then migratePfnWrite else 0))
      else none

/-- The body of the loop, but for the copy. -/
def evictOne (i : Nat) (state : Kernel × (Nat → UInt64)) :
    Kernel × (Nat → UInt64) :=
  match evictWord host env src i with
  | none => state
  | some word =>
      (state.1.lockPage (env.dpage i), Function.update state.2 i word)

def evictAll (npages : Nat) (kernel : Kernel) : Kernel × (Nat → UInt64) :=
  forEach (evictOne host env src) npages 0 (kernel, fun _ => 0)

end Loop

/-- The slots that the environment answers for. -/
def EvictEnv.slots {Contents : Type} (env : EvictEnv Contents)
    (dst : Nat → UInt64) : MigrateEnv Contents where
  dst := dst
  migrate := none
  retrieval := env.retrieval
  mapped := env.mapped
  zone := env.zone
  folio := env.folio
  inserts _ := false

/-- `dmirror_device_evict_chunk` for a chunk of the page numbers `first` to
`last`, once `kcalloc` has returned both arrays. -/
def dmirrorDeviceEvictChunk {Contents : Type} (host : Host)
    (env : EvictEnv Contents) (first last : Nat) (kernel : Kernel)
    (client : Client Contents) : Except Oops Unit × Kernel :=
  let npages := last - first + 1
  let range := migrateDeviceRange host first npages (fun _ => 0) kernel
  let copied := evictAll host env range.src npages range.kernel
  match migrateDevicePages (env.slots copied.2) npages
      (.start range.src client) with
  | (_, some oops) => (.error oops, copied.1)
  | (pages, none) =>
      (.ok (), migrateDeviceFinalize host pages.src copied.2 npages copied.1)

variable {Contents : Type} {host : Host} {env : EvictEnv Contents}
  {kernel : Kernel} {src : Nat → UInt64}

/-- A page in use that `migrate_device_range` can take, and that is one of a
device. -/
structure Evictable (host : Host) (kernel : Kernel) (page : Pfn) : Prop where
  used : (kernel.frame page).count ≠ 0
  free : (kernel.frame page).locked = false
  movable : Movable host kernel kernel none page
  device : (host.kind page).isDevice = true

theorem evictOne_word (i : Nat) (state : Kernel × (Nat → UInt64)) :
    (evictOne host env src i state).2 i =
      (evictWord host env src i).getD (state.2 i) := by
  unfold evictOne
  split
  · next none_ =>
    rw [none_]
    rfl
  · next word given =>
    rw [given]
    exact Function.update_self ..

theorem evictOne_elsewhere (i : Nat) (state : Kernel × (Nat → UInt64))
    {j : Nat} (other : j ≠ i) :
    (evictOne host env src i state).2 j = state.2 j := by
  unfold evictOne
  split
  · rfl
  · exact Function.update_of_ne other ..

theorem evictAll_word (npages : Nat) (kernel : Kernel) {i : Nat}
    (within : i < npages) :
    (evictAll host env src npages kernel).2 i =
      (evictWord host env src i).getD 0 := by
  have cell := forEach_cell
    (fun (state : Kernel × (Nat → UInt64)) i => state.2 i)
    (fun i word => (evictWord host env src i).getD word)
    (evictOne host env src) (fun i state => evictOne_word i state)
    (fun i state j other => evictOne_elsewhere i state other) npages 0
    (kernel, fun _ => 0) i
  rw [if_pos (by omega)] at cell
  exact cell

theorem evictAll_nothing {npages : Nat}
    (nothing : ∀ i, i < npages → evictWord host env src i = none)
    (kernel : Kernel) :
    evictAll host env src npages kernel = (kernel, fun _ => 0) := by
  apply forEach_keeps (fun state => state = (kernel, fun _ => 0))
  · rfl
  · intro i state _ within same
    unfold evictOne
    rw [nothing i (by omega)]
    exact same

/-- The loop evicts a slot when its page is one of a device. -/
theorem evictWord_sourceWord {i : Nat} {page : Pfn}
    (word : src i = sourceWord page false) :
    evictWord host env src i =
      if (host.kind page).isDevice then some (migratePfn (env.dpage i))
      else none := by
  unfold evictWord
  rw [word, pageOf_sourceWord, migrating_sourceWord, writing_sourceWord]
  simp

/-- `dmirror_device_evict_chunk` evicts nothing: where the chunk has a page
that could leave it, the migration takes a bad pointer for one, and otherwise
all pages are given back. -/
theorem dmirrorDeviceEvictChunk_evicts_nothing (sound : kernel.Sound host)
    {first last : Nat} (order : first ≤ last) (fits : last < 2 ^ 58)
    (env : EvictEnv Contents) (client : Client Contents) :
    ((∃ i, i ≤ last - first ∧
          Evictable host kernel (rangePage first i)) ∧
        (dmirrorDeviceEvictChunk host env first last kernel client).1 =
          .error .badPointer) ∨
      ((∀ i, i ≤ last - first →
          ¬Evictable host kernel (rangePage first i)) ∧
        (dmirrorDeviceEvictChunk host env first last kernel client).1 =
          .ok () ∧
        Restored kernel
          (dmirrorDeviceEvictChunk host env first last kernel client).2) := by
  have fits : first + (last - first + 1) ≤ 2 ^ 58 := by omega
  have setUp := migrateDeviceRange_setUp sound fits fun _ => 0
  have slot (i : Nat) (within : i < last - first + 1) :=
    migrateDeviceRange_word sound fits (fun _ => 0) within
  unfold dmirrorDeviceEvictChunk
  dsimp only
  generalize migrateDeviceRange host first (last - first + 1) (fun _ => 0)
    kernel = range at *
  by_cases some_ : ∃ i, i ≤ last - first ∧
      Evictable host kernel (rangePage first i)
  · obtain ⟨i, within, evictable⟩ := some_
    have word : range.src i = sourceWord (rangePage first i) false := by
      rcases slot i (by omega) with ⟨-, -, -, word⟩ | ⟨stuck, -⟩
      · exact word
      · exact absurd
          ⟨evictable.used, evictable.free, evictable.movable⟩ stuck
    have page : pageOf ((evictAll host env range.src (last - first + 1)
        range.kernel).2 i) = some (env.dpage i) := by
      rw [evictAll_word _ _ (by omega), evictWord_sourceWord word,
        evictable.device]
      exact pageOf_migratePfn _
    generalize evictAll host env range.src (last - first + 1) range.kernel =
      copied at *
    refine .inl ⟨⟨i, within, evictable⟩, ?_⟩
    rcases migrateDevicePages_outcome (env.slots copied.2)
      (last - first + 1) range.src client with bad | ⟨-, nowhere⟩
    · cases result : migrateDevicePages (env.slots copied.2)
          (last - first + 1) (.start range.src client) with
      | mk pages ended =>
          rw [result] at bad
          have bad : ended = some .badPointer := bad
          subst bad
          rfl
    · have hole := nowhere i (by omega)
      rw [show (env.slots copied.2).dst i = copied.2 i from rfl, page] at hole
      cases hole
  · have nothing (i : Nat) (within : i < last - first + 1) :
        evictWord host env range.src i = none := by
      rcases slot i within with ⟨used, free, movable, word⟩ | ⟨-, word⟩
      · have other : ¬(host.kind (rangePage first i)).isDevice = true :=
          fun device => some_ ⟨i, by omega, used, free, movable, device⟩
        rw [evictWord_sourceWord word, if_neg other]
      · unfold evictWord
        rw [word, pageOf_zero]
    rw [evictAll_nothing nothing]
    obtain ⟨returns, after, -⟩ := migrateDevicePages_null
      (env.slots fun _ => 0) (last - first + 1) range.src client (by
        intro i _
        change migratePfnToPage 0 = .null
        rw [migratePfnToPage_eq, pageOf_zero])
    refine .inr ⟨fun i within evictable => some_ ⟨i, within, evictable⟩, ?_⟩
    cases result : migrateDevicePages (env.slots fun _ => 0)
        (last - first + 1) (.start range.src client) with
    | mk pages ended =>
        rw [result] at returns after
        have returns : ended = none := returns
        subst returns
        refine ⟨rfl, migrateDeviceFinalize_restores sound setUp ?_
          fun _ _ => pageOf_zero⟩
        intro i within
        rw [after i within, pageOf_clearMigrate]

/-- The pages belong to a coherent device. -/
private def coherentHost : Host :=
  ({ onePageSetting with
    kind := fun pfn =>
      { onePageSetting.kind pfn with zone := .deviceCoherent } } :
    Setting).host

private theorem coherentHost_sound : onePageKernel.Sound coherentHost := by
  obtain ⟨nodup, mapped, moving, mapcount, -, exclusive⟩ :=
    onePageKernel_sound
  refine ⟨nodup, mapped, moving, mapcount, ?_, exclusive⟩
  intro place
  unfold onePageKernel
  dsimp only
  split
  · intro _
    exact ⟨rfl, fun waits => by cases waits⟩
  · trivial

private def threePagesEnv : EvictEnv Unit where
  dpage i := rangePage 20 i
  retrieval _ := ⟨0, 0, 0, fun i => ⟨4096, (), some i⟩⟩
  mapped _ := false
  zone _ := .normal
  folio _ := 0

theorem dmirrorDeviceEvictChunk_evicts_nothing_mapped :
    (dmirrorDeviceEvictChunk coherentHost threePagesEnv 0 2 onePageKernel
      noPagesClient).1 = .error .badPointer := by
  rcases dmirrorDeviceEvictChunk_evicts_nothing coherentHost_sound
    (Nat.zero_le 2) (by decide) threePagesEnv noPagesClient with
    ⟨-, bad⟩ | ⟨nothing, -⟩
  · exact bad
  · have movable : Movable coherentHost onePageKernel onePageKernel none
        (rangePage 0 1) := by
      refine ⟨rfl, ?_, fun _ _ => rfl, by decide⟩
      intro normal
      cases normal
    have mapped : Evictable coherentHost onePageKernel (rangePage 0 1) :=
      ⟨by decide, rfl, movable, rfl⟩
    exact absurd mapped (nothing 1 (by decide))

end Rshm.Mm
