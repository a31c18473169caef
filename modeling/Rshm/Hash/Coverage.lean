import Rshm.Hash.Mixing
import Rshm.Lib.Terminated

/-!
# Which bytes the hash depends on

The steps load the bytes of the whole blocks, and then eight bytes from the
last block boundary on, however many there are left of the string.  A byte
that is loaded is mixed in by one step only, so it decides about the hash; a
byte that is not loaded does not.
-/

namespace Rshm.Hash

open Wire Terminated

theorem loadU64_eq_iff {order : ByteOrder} {memory other : Bytes} {p : Nat} :
    loadU64 order memory p = loadU64 order other p ↔
      ∀ i, i < 8 → memory (p + i) = other (p + i) := by
  constructor
  · intro same i inside
    have bound (memory : Bytes) : order.load (get p 8 memory) < 2 ^ 64 := by
      have fits := value_lt (order.arrange (get p 8 memory))
      rw [ByteOrder.length_arrange, length_get] at fits
      exact fits
    have words : order.load (get p 8 memory) = order.load (get p 8 other) := by
      have equal := congrArg BitVec.toNat same
      unfold loadU64 at equal
      rw [BitVec.toNat_ofNat, BitVec.toNat_ofNat, Nat.mod_eq_of_lt (bound _),
        Nat.mod_eq_of_lt (bound _)] at equal
      exact equal
    have digits_ (memory : Bytes) :
        digits 8 (order.load (get p 8 memory)) =
          order.arrange (get p 8 memory) := by
      have back := digits_value (order.arrange (get p 8 memory))
      rw [ByteOrder.length_arrange, length_get] at back
      exact back
    have bytes : get p 8 memory = get p 8 other := by
      have arranged := (digits_ memory).symm.trans
        ((congrArg (digits 8) words).trans (digits_ other))
      have back := congrArg order.arrange arranged
      rw [ByteOrder.arrange_arrange, ByteOrder.arrange_arrange] at back
      exact back
    have byte := congrArg (fun bytes => bytes[i]?) bytes
    simpa [Wire.get, inside] using byte
  · intro same
    have bytes : get p 8 memory = get p 8 other := by
      apply List.map_congr_left
      intro i member
      exact same i (List.mem_range.mp member)
    unfold loadU64
    rw [bytes]

namespace Place

def Covers (place : Place) (i : Nat) : Prop :=
  place.start ≤ i ∧ i < place.stop

theorem step_congr {order : ByteOrder} {memory other : Bytes} {place : Place}
    (same : ∀ i, place.Covers i → memory i = other i) :
    place.step order memory = place.step order other := by
  have word (p : Nat) (lower : place.start ≤ p)
      (upper : p + 8 ≤ place.stop) :
      loadU64 order memory p = loadU64 order other p := by
    apply loadU64_eq_iff.mpr
    intro i inside
    exact same (p + i) ⟨by omega, by omega⟩
  cases place with
  | long p =>
      simp only [start, stop] at word
      simp only [step]
      rw [word p (by omega) (by omega), word (p + 8) (by omega) (by omega),
        word (p + 16) (by omega) (by omega),
        word (p + 24) (by omega) (by omega)]
  | short p =>
      simp only [start, stop] at word
      simp only [step]
      rw [word p (by omega) (by omega), word (p + 8) (by omega) (by omega)]
  | tail p =>
      simp only [start, stop] at word
      simp only [step]
      rw [word p (by omega) (by omega)]

theorem differsOnce {order : ByteOrder} {memory other : Bytes} {place : Place}
    {i : Nat} (covers : place.Covers i) (different : memory i ≠ other i)
    (same : ∀ j, j ≠ i → memory j = other j) :
    (place.step order memory).DiffersOnce (place.step order other) := by
  have word (p : Nat) (apart : i < p ∨ p + 8 ≤ i) :
      loadU64 order memory p = loadU64 order other p := by
    apply loadU64_eq_iff.mpr
    intro j inside
    exact same (p + j) (by omega)
  have word_ne (p : Nat) (lower : p ≤ i) (upper : i < p + 8) :
      loadU64 order memory p ≠ loadU64 order other p := by
    intro equal
    have byte := loadU64_eq_iff.mp equal (i - p) (by omega)
    rw [Nat.add_sub_cancel' lower] at byte
    exact different byte
  obtain ⟨lower, upper⟩ := covers
  cases place with
  | long p =>
      simp only [start, stop] at lower upper
      simp only [step]
      by_cases first : i < p + 8
      · rw [word (p + 8) (by omega), word (p + 16) (by omega),
          word (p + 24) (by omega)]
        exact .long1 (word_ne p lower first)
      by_cases second : i < p + 16
      · rw [word p (by omega), word (p + 16) (by omega),
          word (p + 24) (by omega)]
        exact .long2 (word_ne (p + 8) (by omega) (by omega))
      by_cases third : i < p + 24
      · rw [word p (by omega), word (p + 8) (by omega),
          word (p + 24) (by omega)]
        exact .long3 (word_ne (p + 16) (by omega) (by omega))
      · rw [word p (by omega), word (p + 8) (by omega),
          word (p + 16) (by omega)]
        exact .long4 (word_ne (p + 24) (by omega) (by omega))
  | short p =>
      simp only [start, stop] at lower upper
      simp only [step]
      by_cases first : i < p + 8
      · rw [word (p + 8) (by omega)]
        exact .short1 (word_ne p lower first)
      · rw [word p (by omega)]
        exact .short2 (word_ne (p + 8) (by omega) (by omega))
  | tail p =>
      simp only [start, stop] at lower upper
      simp only [step]
      exact .tail (word_ne p lower upper)

theorem mem_loads {place : Place} {p : Nat} (member : p ∈ place.loads) :
    place.start ≤ p ∧ p + 8 ≤ place.stop := by
  cases place with
  | long first =>
      simp only [loads, List.mem_cons, List.not_mem_nil, or_false] at member
      simp only [start, stop]
      omega
  | short first =>
      simp only [loads, List.mem_cons, List.not_mem_nil, or_false] at member
      simp only [start, stop]
      omega
  | tail first =>
      simp only [loads, List.mem_cons, List.not_mem_nil, or_false] at member
      simp only [start, stop]
      omega

end Place

section Blocks

variable {place : Nat → Place} {stride : Nat}

theorem mem_blocks {first count : Nat} {found : Place}
    (starts : ∀ p, (place p).start = p)
    (stops : ∀ p, (place p).stop = p + stride)
    (member : found ∈ blocks place stride first count) :
    first ≤ found.start ∧ found.stop ≤ first + stride * count := by
  obtain ⟨i, inside, rfl⟩ := List.mem_map.mp member
  have next : i + 1 ≤ count := List.mem_range.mp inside
  have bound := Nat.mul_le_mul_left stride next
  rw [Nat.mul_add, Nat.mul_one] at bound
  rw [starts, stops]
  omega

theorem blocks_pairwise (starts : ∀ p, (place p).start = p)
    (stops : ∀ p, (place p).stop = p + stride) (first count : Nat) :
    (blocks place stride first count).Pairwise
      (fun left right => left.stop ≤ right.start) := by
  apply List.pairwise_map.mpr
  apply List.pairwise_lt_range.imp
  intro i j less
  have bound := Nat.mul_le_mul_left stride (Nat.succ_le_of_lt less)
  rw [Nat.mul_succ] at bound
  rw [starts, stops]
  omega

theorem blocks_cover (positive : 0 < stride)
    (starts : ∀ p, (place p).start = p)
    (stops : ∀ p, (place p).stop = p + stride) {first count i : Nat}
    (lower : first ≤ i) (upper : i < first + stride * count) :
    ∃ found ∈ blocks place stride first count, found.Covers i := by
  have index : (i - first) / stride < count :=
    Nat.div_lt_of_lt_mul (by omega)
  refine ⟨_, List.mem_map.mpr ⟨_, List.mem_range.mpr index, rfl⟩, ?_⟩
  have rest := Nat.mod_lt (i - first) positive
  have split := Nat.div_add_mod (i - first) stride
  unfold Place.Covers
  rw [starts, stops]
  omega

end Blocks

def Covered (length i : Nat) : Prop :=
  ∃ place ∈ layout length, place.Covers i

theorem mem_layout {length : Nat} {place : Place} :
    place ∈ layout length ↔
      place ∈ blocks .long 32 0 (length / 32) ∨
        place ∈ blocks .short 16 (32 * (length / 32)) (length % 32 / 16) ∨
        length % 16 ≠ 0 ∧ place = .tail (16 * (length / 16)) := by
  unfold layout
  rw [List.mem_append, List.mem_append, or_assoc]
  apply or_congr_right
  apply or_congr_right
  by_cases even : length % 16 = 0
  · simp [even]
  · simp [even]

theorem mem_long {length : Nat} {place : Place}
    (member : place ∈ blocks .long 32 0 (length / 32)) :
    place.stop ≤ 32 * (length / 32) := by
  have bounds := mem_blocks (fun _ => rfl) (fun _ => rfl) member
  omega

theorem mem_short {length : Nat} {place : Place}
    (member : place ∈ blocks .short 16 (32 * (length / 32))
      (length % 32 / 16)) :
    32 * (length / 32) ≤ place.start ∧ place.stop ≤ 16 * (length / 16) := by
  have bounds := mem_blocks (fun _ => rfl) (fun _ => rfl) member
  omega

theorem layout_pairwise (length : Nat) :
    (layout length).Pairwise
      (fun left right => left.stop ≤ right.start) := by
  unfold layout
  rw [List.pairwise_append, List.pairwise_append]
  refine ⟨⟨?_, ?_, ?_⟩, ?_, ?_⟩
  · exact blocks_pairwise (fun _ => rfl) (fun _ => rfl) _ _
  · exact blocks_pairwise (fun _ => rfl) (fun _ => rfl) _ _
  · intro left member right member'
    exact (mem_long member).trans (mem_short member').1
  · split
    · exact List.Pairwise.nil
    · exact List.pairwise_singleton _ _
  · intro left member right member'
    split at member'
    · cases member'
    · obtain rfl := List.mem_singleton.mp member'
      have bound : left.stop ≤ 16 * (length / 16) := by
        rcases List.mem_append.mp member with long | short
        · have bound := mem_long long
          omega
        · exact (mem_short short).2
      exact bound

/-- All whole blocks are loaded, and eight bytes behind them if the string
goes on there. -/
theorem covered_iff {length i : Nat} :
    Covered length i ↔
      i < 16 * (length / 16) ∨
        length % 16 ≠ 0 ∧ i < 16 * (length / 16) + 8 := by
  constructor
  · rintro ⟨place, member, lower, upper⟩
    rcases mem_layout.mp member with long | short | ⟨odd, rfl⟩
    · have bound := mem_long long
      omega
    · have bound := mem_short short
      omega
    · exact .inr ⟨odd, upper⟩
  · intro inside
    have last : i < 16 * (length / 16) + 8 := by omega
    by_cases long : i < 32 * (length / 32)
    · have covers : ∃ place ∈ blocks .long 32 0 (length / 32),
          place.Covers i := by
        apply blocks_cover
        · decide
        · intro p
          rfl
        · intro p
          rfl
        · exact Nat.zero_le i
        · omega
      obtain ⟨place, member, covers⟩ := covers
      exact ⟨place, mem_layout.mpr (.inl member), covers⟩
    by_cases short : i < 16 * (length / 16)
    · have covers : ∃ place ∈ blocks .short 16 (32 * (length / 32))
          (length % 32 / 16), place.Covers i := by
        apply blocks_cover
        · decide
        · intro p
          rfl
        · intro p
          rfl
        · exact Nat.not_lt.mp long
        · omega
      obtain ⟨place, member, covers⟩ := covers
      exact ⟨place, mem_layout.mpr (.inr (.inl member)), covers⟩
    · have odd : length % 16 ≠ 0 := by omega
      refine ⟨.tail (16 * (length / 16)),
        mem_layout.mpr (.inr (.inr ⟨odd, rfl⟩)), ?_⟩
      exact ⟨Nat.not_lt.mp short, last⟩

variable {order : ByteOrder} {memory other : Bytes} {length i : Nat}

theorem steps_congr
    (same : ∀ i, Covered length i → memory i = other i) :
    steps order memory length = steps order other length := by
  apply List.map_congr_left
  intro place member
  apply Place.step_congr
  intro i covers
  exact same i ⟨place, member, covers⟩

theorem hash_congr
    (same : ∀ i, Covered length i → memory i = other i) :
    xxh3_64bit order memory length = xxh3_64bit order other length := by
  rw [xxh3_64bit_eq, xxh3_64bit_eq, steps_congr same]

theorem hash_ne (covered : Covered length i)
    (different : memory i ≠ other i)
    (same : ∀ j, j ≠ i → memory j = other j) :
    xxh3_64bit order memory length ≠ xxh3_64bit order other length := by
  obtain ⟨place, member, covers⟩ := covered
  obtain ⟨before, after, split⟩ := List.append_of_mem member
  have ordered := layout_pairwise length
  rw [split, List.pairwise_append, List.pairwise_cons] at ordered
  obtain ⟨-, ⟨later, -⟩, earlier⟩ := ordered
  have stepped (memory : Bytes) : steps order memory length =
      before.map (Place.step order memory) ++ place.step order memory ::
        after.map (Place.step order memory) := by
    unfold steps
    rw [split, List.map_append, List.map_cons]
  -- No other step has the byte.
  have same_before : before.map (Place.step order memory) =
      before.map (Place.step order other) := by
    apply List.map_congr_left
    intro found member
    apply Place.step_congr
    intro j inside
    apply same
    rintro rfl
    have apart := earlier found member place List.mem_cons_self
    exact absurd (Nat.lt_of_lt_of_le inside.2 apart)
      (Nat.not_lt.mpr covers.1)
  have same_after : after.map (Place.step order memory) =
      after.map (Place.step order other) := by
    apply List.map_congr_left
    intro found member
    apply Place.step_congr
    intro j inside
    apply same
    rintro rfl
    have apart := later found member
    exact absurd (Nat.lt_of_lt_of_le covers.2 apart)
      (Nat.not_lt.mpr inside.1)
  have once : (place.step order memory).DiffersOnce
      (place.step order other) := Place.differsOnce covers different same
  have words := stepped memory
  rw [same_before, same_after] at words
  exact xxh3_64bit_ne once words (stepped other)

end Rshm.Hash
