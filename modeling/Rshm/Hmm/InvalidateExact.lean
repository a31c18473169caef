import Rshm.Hmm.ExclusiveExact

/-!
# What an invalidation removes

A notifier range is half-open, and `xa_for_each_range` includes its last
index, so `dmirror_do_update` also removes the page that starts at the end of
the range.
-/

namespace Rshm.Hmm

open AddressLoop

/-- `xa_find`: the first index from `index` up to `last` that has an entry. -/
def xaFind (pt : XArray) (index last : Nat) : Option Nat :=
  (List.range' index (last + 1 - index)).find? fun pfn => (pt pfn).isSome

/-- `xa_for_each_range` with `xa_erase` as its body, for a number of
passes. -/
def xaEraseEach (last : Nat) : Nat → Nat → XArray → XArray
  | 0, _, pt => pt
  | passes + 1, index, pt =>
      match xaFind pt index last with
      | none => pt
      | some pfn =>
          xaEraseEach last passes (pfn + 1) (Function.update pt pfn none)

theorem xaFind_none {pt : XArray} {index last : Nat}
    (missing : xaFind pt index last = none) {pfn : Nat}
    (lower : index ≤ pfn) (upper : pfn ≤ last) : pt pfn = none := by
  have absent := List.find?_range'_eq_none.mp missing pfn lower (by omega)
  simpa using absent

theorem xaFind_some {pt : XArray} {index last pfn : Nat}
    (found : xaFind pt index last = some pfn) :
    index ≤ pfn ∧ pfn ≤ last ∧
      ∀ earlier, index ≤ earlier → earlier < pfn → pt earlier = none := by
  obtain ⟨-, member, gap⟩ := List.find?_range'_eq_some.mp found
  have inside := List.mem_range'_1.mp member
  refine ⟨inside.1, by omega, ?_⟩
  intro earlier lower upper
  simpa using gap earlier lower upper

/-- Erasing during the iteration skips no entry: `dmirror_do_update` is the
loop. -/
theorem dmirrorDoUpdate_eq_loop (last passes first : Nat) (pt : XArray)
    (enough : last + 1 - first ≤ passes) :
    xaEraseEach last passes first pt = dmirrorDoUpdate pt first last := by
  induction passes generalizing first pt with
  | zero =>
      funext pfn
      have outside : ¬(first ≤ pfn ∧ pfn ≤ last) := by omega
      rw [xaEraseEach, dmirrorDoUpdate, if_neg outside]
  | succ passes induction =>
      rw [xaEraseEach]
      cases found : xaFind pt first last with
      | none =>
          funext pfn
          rw [dmirrorDoUpdate]
          split
          · next inside => exact xaFind_none found inside.1 inside.2
          · rfl
      | some place =>
          obtain ⟨lower, upper, gap⟩ := xaFind_some found
          dsimp only
          rw [induction (place + 1) _ (by omega)]
          funext pfn
          unfold dmirrorDoUpdate
          by_cases here : pfn = place
          · subst here
            rw [if_neg (by omega), Function.update_self, if_pos ⟨lower, upper⟩]
          · rw [Function.update_of_ne here]
            by_cases before : first ≤ pfn ∧ pfn < place
            · rw [if_neg (by omega), if_pos (by omega),
                gap pfn before.1 before.2]
            · by_cases inside : first ≤ pfn ∧ pfn ≤ last
              · rw [if_pos (by omega), if_pos inside]
              · rw [if_neg (by omega), if_neg inside]

/-- `struct mmu_notifier_range`. -/
structure MmuNotifierRange where
  event : NotifierEvent
  owner : Option Nat
  start : UInt64
  stop : UInt64

/-- Notifier ranges are made of whole pages, at least one. -/
structure MmuNotifierRange.Valid (range : MmuNotifierRange) : Prop where
  start : PageAligned range.start
  stop : PageAligned range.stop
  order : range.start < range.stop

/-- The callbacks that `dmirror_interval_invalidate` ignores. -/
def MmuNotifierRange.Ignored (range : MmuNotifierRange) (mdevice : Nat) :
    Prop :=
  range.event = .migrate ∧ range.owner = some mdevice

instance (range : MmuNotifierRange) (mdevice : Nat) :
    Decidable (range.Ignored mdevice) :=
  inferInstanceAs (Decidable (_ ∧ _))

/-- The callback is acted on, and its range ends where the page starts. -/
def MmuNotifierRange.EndsAt (range : MmuNotifierRange) (mdevice pfn : Nat) :
    Prop :=
  ¬range.Ignored mdevice ∧ pfnOf range.stop = pfn

instance (range : MmuNotifierRange) (mdevice pfn : Nat) :
    Decidable (range.EndsAt mdevice pfn) :=
  inferInstanceAs (Decidable (_ ∧ _))

def MmuNotifierRange.Covers (range : MmuNotifierRange) (pfn : Nat) : Prop :=
  pfnOf range.start ≤ pfn ∧ pfn < pfnOf range.stop

def invalidateEach (ranges : List MmuNotifierRange) (dmirror : Dmirror) :
    Dmirror :=
  ranges.foldl
    (fun dmirror range => dmirrorIntervalInvalidate range.event range.owner
      (pfnOf range.start) (pfnOf range.stop) dmirror)
    dmirror

/-- The invalidation of `[start, stop)` removes the entries of its pages and
no others. -/
def RemovesExactly (pt : XArray) (start stop : UInt64) : Prop :=
  ∀ pfn, dmirrorDoUpdate pt (pfnOf start) (pfnOf stop) pfn =
    if pfnOf start ≤ pfn ∧ pfn < pfnOf stop then none else pt pfn

theorem pfnOf_lt {start stop : UInt64} (first : PageAligned start)
    (last : PageAligned stop) (order : start < stop) :
    pfnOf start < pfnOf stop := by
  rw [pageAligned_iff] at first last
  rw [UInt64.lt_iff_toNat_lt] at order
  rw [pfnOf_eq, pfnOf_eq]
  omega

theorem removesExactly_iff (pt : XArray) {start stop : UInt64}
    (order : pfnOf start < pfnOf stop) :
    RemovesExactly pt start stop ↔ pt (pfnOf stop) = none := by
  constructor
  · intro removes
    have last := removes (pfnOf stop)
    rw [dmirrorDoUpdate, if_pos ⟨Nat.le_of_lt order, Nat.le_refl _⟩,
      if_neg (fun inside => Nat.lt_irrefl _ inside.2)] at last
    exact last.symm
  · intro empty pfn
    rw [dmirrorDoUpdate]
    by_cases last : pfn = pfnOf stop
    · subst last
      rw [if_pos ⟨Nat.le_of_lt order, Nat.le_refl _⟩,
        if_neg (fun inside => Nat.lt_irrefl _ inside.2), empty]
    · by_cases inside : pfnOf start ≤ pfn ∧ pfn < pfnOf stop
      · rw [if_pos ⟨inside.1, Nat.le_of_lt inside.2⟩, if_pos inside]
      · rw [if_neg (by omega), if_neg inside]

/-- What one callback leaves of a page that its range does not cover. -/
theorem dmirrorIntervalInvalidate_missed {range : MmuNotifierRange}
    (valid : range.Valid) (dmirror : Dmirror) {pfn : Nat}
    (missed : ¬range.Covers pfn) :
    (dmirrorIntervalInvalidate range.event range.owner (pfnOf range.start)
        (pfnOf range.stop) dmirror).pt pfn =
      if range.EndsAt dmirror.mdevice pfn then none else dmirror.pt pfn := by
  have order := pfnOf_lt valid.start valid.stop valid.order
  unfold MmuNotifierRange.Covers at missed
  unfold dmirrorIntervalInvalidate
  by_cases ignored : range.event = .migrate ∧
      range.owner = some dmirror.mdevice
  · rw [if_pos ignored, if_neg (fun ends => ends.1 ignored)]
  · rw [if_neg ignored]
    change dmirrorDoUpdate dmirror.pt _ _ pfn = _
    rw [dmirrorDoUpdate]
    by_cases ends : pfnOf range.stop = pfn
    · rw [if_pos (by omega), if_pos ⟨ignored, ends⟩]
    · rw [if_neg (by omega), if_neg (fun last => ends last.2)]

/-- A page that no range covers keeps its entry unless one of them ends
there. -/
theorem invalidateEach_missed {ranges : List MmuNotifierRange}
    (dmirror : Dmirror) {pfn : Nat}
    (valid : ∀ range ∈ ranges, range.Valid)
    (missed : ∀ range ∈ ranges, ¬range.Covers pfn) :
    (invalidateEach ranges dmirror).pt pfn =
      if ∃ range ∈ ranges, range.EndsAt dmirror.mdevice pfn then none
      else dmirror.pt pfn := by
  induction ranges generalizing dmirror with
  | nil =>
      rw [if_neg (by simp)]
      rfl
  | cons range ranges induction =>
      have rest := induction
        (dmirrorIntervalInvalidate range.event range.owner
          (pfnOf range.start) (pfnOf range.stop) dmirror)
        (fun other member => valid other (List.mem_cons_of_mem _ member))
        (fun other member => missed other (List.mem_cons_of_mem _ member))
      rw [dmirrorIntervalInvalidate_mdevice,
        dmirrorIntervalInvalidate_missed (valid range List.mem_cons_self)
          dmirror (missed range List.mem_cons_self)] at rest
      change (invalidateEach ranges _).pt pfn = _
      rw [rest]
      simp only [List.mem_cons, exists_eq_or_imp]
      by_cases later : ∃ other ∈ ranges, other.EndsAt dmirror.mdevice pfn
      · rw [if_pos later, if_pos (.inr later)]
      · rw [if_neg later]
        by_cases here : range.EndsAt dmirror.mdevice pfn
        · rw [if_pos here, if_pos (.inl here)]
        · rw [if_neg here, if_neg (not_or.mpr ⟨here, later⟩)]

/-- EXCLUSIVE has gone through its range, every page was stored, and nothing
else touched the entry of the page. -/
structure MadeExclusive (cmd : HmmDmirrorCmd)
    (answers : Nat → ExclusiveAnswer) (passes : Nat) (before : XArray)
    (pfn : Nat) : Prop where
  admitted : cmd.Admitted
  ended : (forAddress (dmirrorExclusiveOne answers cmd.stop) cmd.stop passes
    cmd.addr ⟨before, []⟩).2 = .ended
  whole : ¬LosesStore cmd answers
  inside : pfnOf cmd.addr ≤ pfn ∧ pfn < pfnOf cmd.stop
  undisturbed : Undisturbed answers pfn

/-- The table that the loop of EXCLUSIVE leaves. -/
def exclusiveTable (cmd : HmmDmirrorCmd) (answers : Nat → ExclusiveAnswer)
    (passes : Nat) (before : XArray) : XArray :=
  (forAddress (dmirrorExclusiveOne answers cmd.stop) cmd.stop passes cmd.addr
    ⟨before, []⟩).1.pt

theorem MadeExclusive.entry {cmd : HmmDmirrorCmd}
    {answers : Nat → ExclusiveAnswer} {passes : Nat} {before : XArray}
    {pfn : Nat} (made : MadeExclusive cmd answers passes before pfn) :
    ∃ page, exclusiveTable cmd answers passes before pfn =
      some ⟨page, .atomic⟩ := by
  obtain ⟨first, last, order⟩ := made.admitted.range
  obtain ⟨fits, whole⟩ :=
    whole_of_ended made.admitted made.whole made.ended
  obtain ⟨addr, beyond, -, stored⟩ :=
    (dmirrorExclusive_stored fits first last (Nat.le_of_lt order)
      (fun k inside => (whole k inside).1) passes before).ended made.ended
  rw [UInt64.lt_iff_toNat_lt] at beyond
  have reached : pfnOf cmd.stop ≤ pfnOf addr := by
    rw [pfnOf_eq, pfnOf_eq]
    omega
  exact stored pfn made.undisturbed made.inside.1
    (Nat.lt_of_lt_of_le made.inside.2 reached)

theorem dmirrorCheckAtomic_one (pt : XArray) (pfn : Nat) :
    dmirrorCheckAtomic pt 1 pfn = some .eperm ↔
      ∃ page, pt pfn = some ⟨page, .atomic⟩ := by
  rw [dmirrorCheckAtomic_iff]
  constructor
  · intro found
    obtain ⟨place, page, lower, upper, entry⟩ := found
    obtain rfl : place = pfn := by omega
    exact ⟨page, entry⟩
  · intro found
    obtain ⟨page, entry⟩ := found
    exact ⟨pfn, page, Nat.le_refl _, Nat.lt_succ_self _, entry⟩

/-- An invalidation removes exactly its pages when there is no entry at the
page where it ends, and invalidations that miss an exclusive page leave it
exclusive as long as none that is acted on ends there. -/
theorem invalidation_exact_iff (dmirror : Dmirror) :
    (∀ start stop, PageAligned start → PageAligned stop → start < stop →
      (RemovesExactly dmirror.pt start stop ↔
        dmirror.pt (pfnOf stop) = none)) ∧
    ∀ cmd answers passes before pfn,
      MadeExclusive cmd answers passes before pfn →
      dmirror.pt = exclusiveTable cmd answers passes before →
      ∀ ranges : List MmuNotifierRange,
        (∀ range ∈ ranges, range.Valid) →
        (∀ range ∈ ranges, ¬range.Covers pfn) →
        (dmirrorCheckAtomic (invalidateEach ranges dmirror).pt 1 pfn =
            some .eperm ↔
          ¬∃ range ∈ ranges, range.EndsAt dmirror.mdevice pfn) := by
  constructor
  · intro start stop first last order
    exact removesExactly_iff dmirror.pt (pfnOf_lt first last order)
  · intro cmd answers passes before pfn made table ranges valid missed
    obtain ⟨page, found⟩ := made.entry
    rw [dmirrorCheckAtomic_one, invalidateEach_missed dmirror valid missed,
      table, found]
    by_cases ends : ∃ range ∈ ranges, range.EndsAt dmirror.mdevice pfn
    · rw [if_pos ends]
      constructor
      · intro kept
        obtain ⟨_, found⟩ := kept
        cases found
      · intro none_
        exact absurd ends none_
    · rw [if_neg ends]
      exact ⟨fun _ => ends, fun _ => ⟨page, rfl⟩⟩

/-- A window that is made exclusive and stored whole. -/
def exclusivePage : ExclusiveAnswer where
  others := id
  ret := fun _ => 1
  pages := fun pfn => some (.normal pfn)
  xaFails := fun _ => false

/-- A mirror after EXCLUSIVE of the page at address 0xc000. -/
def exclusiveMirror : Dmirror where
  mdevice := 0
  mm := 0
  pt := exclusiveTable ⟨0xc000, 0, 1, 0, 0⟩ (fun _ => exclusivePage) 2
    fun _ => none
  invalidateSeq := 0

/-- The page stays exclusive when the page two before it is invalidated. -/
theorem invalidation_exact_apart :
    RemovesExactly exclusiveMirror.pt 0xa000 0xb000 ∧
      dmirrorCheckAtomic (invalidateEach
        [⟨.clear, none, 0xa000, 0xb000⟩] exclusiveMirror).pt 1 12 =
          some .eperm := by
  obtain ⟨exact_, exclusive⟩ := invalidation_exact_iff exclusiveMirror
  have made : MadeExclusive ⟨0xc000, 0, 1, 0, 0⟩ (fun _ => exclusivePage) 2
      (fun _ => none) 12 :=
    ⟨by decide, by decide, fun loses => absurd loses.low (by decide),
      by decide, fun _ _ => rfl⟩
  constructor
  · exact (exact_ 0xa000 0xb000 (by decide) (by decide) (by decide)).mpr
      (by decide)
  · refine (exclusive _ _ _ _ 12 made rfl [⟨.clear, none, 0xa000, 0xb000⟩]
      ?_ ?_).mpr ?_
    · intro range member
      obtain rfl := List.mem_singleton.mp member
      exact ⟨by decide, by decide, by decide⟩
    · intro range member
      obtain rfl := List.mem_singleton.mp member
      unfold MmuNotifierRange.Covers
      decide
    · decide

/-- A mirror of two neighbouring pages. -/
def twoEntries : XArray := fun pfn =>
  if pfn = 5 ∨ pfn = 6 then some ⟨.normal pfn, .atomic⟩ else none

/-- Invalidating page 5 also removes page 6. -/
theorem invalidation_takes_neighbour :
    ¬∀ (pt : XArray) (start stop : UInt64), PageAligned start →
      PageAligned stop → start < stop → RemovesExactly pt start stop := by
  intro always
  have neighbour := always twoEntries 0x5000 0x6000 (by decide) (by decide)
    (by decide) 6
  revert neighbour
  decide

end Rshm.Hmm
