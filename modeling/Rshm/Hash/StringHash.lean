import Mathlib.Data.UInt
import Rshm.Hash.Coverage

/-!
# The hash of a string

`strlen` finds the end of the string, but the last word is loaded whole
wherever the string ends, and there is only one of them.  If fewer than seven
bytes follow the last whole block, it reaches behind the terminator; if more
than eight do, the bytes behind it are not read at all.
-/

namespace Rshm.Hash

open Wire Terminated

variable {order : ByteOrder} {length i : Nat}

/-- The hash is a function of the string, and its loads, of eight bytes each,
end at the terminator at the latest. -/
structure StringAlone (order : ByteOrder) (text : List UInt8) : Prop where
  determined : ∀ memory other : Bytes, Begins memory text →
    Begins other text →
      xxh3_64bit order memory text.length = xxh3_64bit order other text.length
  bounded : ∀ memory : Bytes, Begins memory text →
    ∀ p ∈ (scanString order memory text.length).loads, p + 7 ≤ text.length

/-- The string with zero bytes behind it. -/
def padded (text : List UInt8) : Bytes := store text fun _ => 0

theorem padded_begins {text : List UInt8} (clean : (0 : UInt8) ∉ text) :
    Begins (padded text) text :=
  begins_store_iff.mpr ⟨clean, rfl⟩

theorem mem_scan_loads {memory : Bytes} {p : Nat}
    (member : p ∈ (scanString order memory length).loads) :
    ∃ place ∈ layout length, place.start ≤ p ∧ p + 8 ≤ place.stop := by
  rw [(scanString_eq order memory length).2, List.mem_flatMap] at member
  obtain ⟨place, placed, load⟩ := member
  exact ⟨place, placed, Place.mem_loads load⟩

theorem scan_load_covered {memory : Bytes} {p : Nat}
    (member : p ∈ (scanString order memory length).loads) :
    Covered length (p + 7) := by
  obtain ⟨place, placed, lower, upper⟩ := mem_scan_loads member
  exact ⟨place, placed, by omega, by omega⟩

theorem covered_inside_iff :
    (∀ i, Covered length i → i ≤ length) ↔
      length % 16 = 0 ∨ 7 ≤ length % 16 := by
  constructor
  · intro inside
    by_contra short
    rw [not_or] at short
    have covered : Covered length (16 * (length / 16) + 7) :=
      covered_iff.mpr (.inr ⟨short.1, by omega⟩)
    have bound := inside _ covered
    omega
  · intro enough i covered
    rw [covered_iff] at covered
    omega

/-- The hash is one of the string alone if the string ends with a block, or
at least seven bytes behind one. -/
theorem hash_string_alone_iff (order : ByteOrder) (text : List UInt8)
    (clean : (0 : UInt8) ∉ text) :
    StringAlone order text ↔
      text.length % 16 = 0 ∨ 7 ≤ text.length % 16 := by
  rw [← covered_inside_iff]
  constructor
  · intro alone i covered
    by_contra outside
    have behind : text.length < i := Nat.lt_of_not_le outside
    -- Only the byte behind the terminator differs.
    have differs : xxh3_64bit order (padded text) text.length ≠
        xxh3_64bit order (fun j => if j = i then 1 else padded text j)
          text.length := by
      apply hash_ne covered
      · have zero : padded text i = 0 := store_outside behind.le
        rw [if_pos rfl, zero]
        decide
      · intro j other
        rw [if_neg other]
    apply differs
    have begins := padded_begins clean
    apply alone.determined _ _ begins
    apply begins.congr
    intro j inside
    apply if_neg
    rintro rfl
    exact outside inside
  · intro inside
    constructor
    · intro memory other begins begins'
      apply hash_congr
      intro i covered
      rcases Nat.lt_or_eq_of_le (inside i covered) with bound | rfl
      · exact Option.some.inj
          ((begins.bytes i bound).symm.trans (begins'.bytes i bound))
      · exact begins.stop.trans begins'.stop.symm
    · intro memory _ p load
      exact inside _ (scan_load_covered load)

/-- Seven characters and the terminator are one word. -/
theorem hash_string_alone_seven :
    StringAlone .little [114, 97, 110, 103, 101, 45, 49] ↔
      7 % 16 = 0 ∨ 7 ≤ 7 % 16 :=
  hash_string_alone_iff .little [114, 97, 110, 103, 101, 45, 49] (by decide)

/-- The string `"a"` in front of a zero byte and in front of another one. -/
theorem hash_not_of_string_alone :
    ¬ ∀ (order : ByteOrder) (text : List UInt8), (0 : UInt8) ∉ text →
      StringAlone order text := by
  intro claim
  have alone := claim .little [97] (by decide)
  have begins : Begins (padded [97]) [97] := padded_begins (by decide)
  have begins' : Begins (store [97, 0] fun _ : Nat => (1 : UInt8)) [97] := by
    refine ⟨?_, by decide, rfl⟩
    intro i inside
    obtain rfl := Nat.lt_one_iff.mp inside
    rfl
  have same := alone.determined _ _ begins begins'
  exact absurd same (by decide +kernel)

/-- Two strings of the length that differ at the position only have different
values. -/
def Influences (order : ByteOrder) (length i : Nat) : Prop :=
  ∀ text other : List UInt8, text.length = length → other.length = length →
    (0 : UInt8) ∉ text → (0 : UInt8) ∉ other → text[i]? ≠ other[i]? →
    (∀ j, j ≠ i → text[j]? = other[j]?) →
      xxh3_64bit order (padded text) length ≠
        xxh3_64bit order (padded other) length

theorem padded_eq_of_getElem? {text other : List UInt8}
    (same : text[i]? = other[i]?) : padded text i = padded other i := by
  unfold padded store
  rw [same]

theorem getElem?_eq_of_padded {text other : List UInt8}
    (inside : i < text.length) (inside' : i < other.length)
    (same : padded text i = padded other i) : text[i]? = other[i]? := by
  rw [store_inside inside, store_inside inside']
  exact congrArg some same

/-- A byte counts if it is in a whole block or one of the eight behind the
last one. -/
theorem hash_influences_iff (order : ByteOrder) (length i : Nat)
    (inside : i < length) :
    Influences order length i ↔ i < 16 * (length / 16) + 8 := by
  have condition : i < 16 * (length / 16) + 8 ↔ Covered length i := by
    rw [covered_iff]
    omega
  rw [condition]
  constructor
  · intro influences
    by_contra skipped
    let text : List UInt8 := List.replicate length 1
    have sized : text.length = length := List.length_replicate
    have clean : (0 : UInt8) ∉ text := by
      intro member
      exact absurd (List.eq_of_mem_replicate member) (by decide)
    have changed (j : Nat) (elsewhere : j ≠ i) :
        text[j]? = (text.set i 2)[j]? :=
      (List.getElem?_set_ne (Ne.symm elsewhere)).symm
    apply influences text (text.set i 2) sized
    · rw [List.length_set]
      exact sized
    · exact clean
    · intro member
      rcases List.mem_or_eq_of_mem_set member with old | zero
      · exact clean old
      · exact absurd zero (by decide)
    · rw [List.getElem?_set_self (sized ▸ inside),
        List.getElem?_replicate_of_lt inside]
      decide
    · exact changed
    · apply hash_congr
      intro j covered
      apply padded_eq_of_getElem?
      apply changed
      rintro rfl
      exact skipped covered
  · intro covered text other sized sized' _ _ different same
    apply hash_ne covered
    · intro equal
      apply different
      apply getElem?_eq_of_padded _ _ equal
      · exact sized ▸ inside
      · exact sized' ▸ inside
    · intro j elsewhere
      exact padded_eq_of_getElem? (same j elsewhere)

theorem hash_influences_last_of_seventeen :
    Influences .little 17 16 ↔ 16 < 16 * (17 / 16) + 8 :=
  hash_influences_iff .little 17 16 (by decide)

/-- The last byte of `"range-100"` and `"range-101"`. -/
theorem hash_skips_ninth :
    ¬ ∀ (order : ByteOrder) (length i : Nat), i < length →
      Influences order length i := by
  intro claim
  let text : List UInt8 := [114, 97, 110, 103, 101, 45, 49, 48, 48]
  have influences := claim .little 9 8 (by decide) text (text.set 8 49) rfl
    rfl (by decide) (by decide) (by decide)
  have changed (j : Nat) (elsewhere : j ≠ 8) :
      text[j]? = (text.set 8 49)[j]? :=
    (List.getElem?_set_ne (Ne.symm elsewhere)).symm
  exact influences changed (by decide +kernel)

end Rshm.Hash
