import Mathlib.Algebra.GroupWithZero.Nat

/-!
# Words with flags under a number

A word of `w` bits holds a number above its lowest `shift` bits, and flags in
these.
-/

namespace TaggedWord

variable {w : Nat}

def pack (shift number : Nat) (flags : BitVec w) : BitVec w :=
  BitVec.ofNat w number <<< shift ||| flags

def number (shift : Nat) (word : BitVec w) : Nat := (word >>> shift).toNat

def has (flag word : BitVec w) : Bool := word &&& flag ≠ 0

/-- The flag bits are below the number. -/
def Below (shift : Nat) (flags : BitVec w) : Prop := flags.toNat < 2 ^ shift

instance (shift : Nat) (flags : BitVec w) : Decidable (Below shift flags) :=
  inferInstanceAs (Decidable (_ < _))

variable {shift : Nat} {flags flag other : BitVec w}

theorem Below.bit (below : Below shift flags) {i : Nat} (above : shift ≤ i) :
    flags.getLsbD i = false := by
  rw [BitVec.getLsbD, Nat.testBit_lt_two_pow]
  exact Nat.lt_of_lt_of_le below (Nat.pow_le_pow_right Nat.two_pos above)

theorem number_lt (shift : Nat) (word : BitVec w) :
    number shift word < 2 ^ (w - shift) := by
  rw [number, BitVec.toNat_ushiftRight, Nat.shiftRight_eq_div_pow]
  by_cases inside : shift ≤ w
  · rw [Nat.div_lt_iff_lt_mul (Nat.two_pow_pos shift), ← Nat.pow_add,
      Nat.sub_add_cancel inside]
    exact word.isLt
  · have small : word.toNat < 2 ^ shift :=
      Nat.lt_of_lt_of_le word.isLt
        (Nat.pow_le_pow_right Nat.two_pos (Nat.le_of_not_le inside))
    rw [Nat.div_eq_of_lt small]
    exact Nat.two_pow_pos _

theorem number_pack (below : Below shift flags) {value : Nat}
    (fits : value < 2 ^ (w - shift)) :
    number shift (pack shift value flags) = value := by
  apply Nat.eq_of_testBit_eq
  intro i
  have shifted : (number shift (pack shift value flags)).testBit i =
      (pack shift value flags).getLsbD (shift + i) := by
    rw [number, ← BitVec.getLsbD, BitVec.getLsbD_ushiftRight]
  have above : ¬shift + i < shift := by omega
  rw [shifted, pack, BitVec.getLsbD_or, BitVec.getLsbD_shiftLeft,
    below.bit (Nat.le_add_right shift i), BitVec.getLsbD_ofNat,
    Nat.add_sub_cancel_left]
  by_cases inside : shift + i < w
  · have within : i < w := by omega
    simp [inside, within, above]
  · have high : value.testBit i = false := by
      apply Nat.testBit_lt_two_pow
      exact Nat.lt_of_lt_of_le fits
        (Nat.pow_le_pow_right Nat.two_pos (by omega))
    simp [inside, high]

theorem number_clear (below : Below shift flag) (word : BitVec w) :
    number shift (word &&& ~~~flag) = number shift word := by
  have same : (word &&& ~~~flag) >>> shift = word >>> shift := by
    apply BitVec.eq_of_getLsbD_eq
    intro i inside
    rw [BitVec.getLsbD_ushiftRight, BitVec.getLsbD_ushiftRight,
      BitVec.getLsbD_and, BitVec.getLsbD_not,
      below.bit (Nat.le_add_right shift i)]
    by_cases within : shift + i < w
    · simp [within]
    · rw [BitVec.getLsbD_of_ge word _ (Nat.le_of_not_lt within)]
      rfl
  rw [number, number, same]

theorem has_pack (below : Below shift flag) (value : Nat)
    (flags : BitVec w) :
    has flag (pack shift value flags) = has flag flags := by
  have same : pack shift value flags &&& flag = flags &&& flag := by
    apply BitVec.eq_of_getLsbD_eq
    intro i inside
    rw [pack, BitVec.getLsbD_and, BitVec.getLsbD_or, BitVec.getLsbD_and,
      BitVec.getLsbD_shiftLeft]
    by_cases above : shift ≤ i
    · rw [below.bit above, Bool.and_false, Bool.and_false]
    · have low : i < shift := Nat.lt_of_not_le above
      simp [low]
  rw [has, has, same]

theorem has_clear (apart : ~~~flag &&& other = other) (word : BitVec w) :
    has other (word &&& ~~~flag) = has other word := by
  rw [has, has, BitVec.and_assoc, apart]

end TaggedWord
