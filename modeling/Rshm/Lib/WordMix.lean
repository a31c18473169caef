import Mathlib.Data.BitVec
import Mathlib.Logic.Function.Basic

/-!
# Steps that mix a machine word

Exclusive or, addition, multiplication by a unit, rotation, and exclusive or
with the own upper half: on words of a fixed width each of them is a
bijection, and so is what is composed of them.
-/

namespace WordMix

variable {w : Nat}

/-- Rotation as two shifts. -/
def rotl (word : BitVec w) (count : Nat) : BitVec w :=
  word <<< count ||| word >>> (w - count)

/-- A word mixed with its own upper bits. -/
def xorShift (count : Nat) (word : BitVec w) : BitVec w :=
  word ^^^ word >>> count

theorem xor_bijective (mask : BitVec w) :
    Function.Bijective fun word : BitVec w => word ^^^ mask := by
  apply Function.Involutive.bijective
  intro word
  dsimp only
  rw [BitVec.xor_assoc, BitVec.xor_self, BitVec.xor_zero]

theorem xor_left_bijective (mask : BitVec w) :
    Function.Bijective fun word : BitVec w => mask ^^^ word := by
  have swapped : (fun word : BitVec w => mask ^^^ word) =
      fun word => word ^^^ mask := by
    funext word
    exact BitVec.xor_comm mask word
  rw [swapped]
  exact xor_bijective mask

theorem add_bijective (offset : BitVec w) :
    Function.Bijective fun word : BitVec w => word + offset :=
  AddGroup.addRight_bijective offset

theorem add_left_bijective (offset : BitVec w) :
    Function.Bijective fun word : BitVec w => offset + word :=
  AddGroup.addLeft_bijective offset

theorem mul_bijective {factor inverse : BitVec w}
    (unit : factor * inverse = 1) :
    Function.Bijective fun word : BitVec w => word * factor := by
  apply Function.bijective_iff_has_inverse.mpr
  refine ⟨fun word => word * inverse, ?_, ?_⟩
  · intro word
    dsimp only
    rw [mul_assoc, unit, mul_one]
  · intro word
    dsimp only
    rw [mul_assoc, mul_comm inverse, unit, mul_one]

theorem rotl_rotl {count rest : Nat} (whole : count + rest = w)
    (word : BitVec w) : rotl (rotl word count) rest = word := by
  apply BitVec.eq_of_getLsbD_eq
  intro i inside
  unfold rotl
  simp only [BitVec.getLsbD_or, BitVec.getLsbD_shiftLeft,
    BitVec.getLsbD_ushiftRight]
  by_cases low : i < rest
  · have place : w - rest + i - count = i := by omega
    have outside : w ≤ w - count + (w - rest + i) := by omega
    have upper : w - rest + i < w := by omega
    have after : ¬w - rest + i < count := by omega
    simp [low, place, upper, after, BitVec.getLsbD_of_ge _ _ outside]
  · have place : w - count + (i - rest) = i := by omega
    have outside : w ≤ w - count + (w - rest + i) := by omega
    have before : i - rest < count := by omega
    have beyond : ¬w - rest + i < w := by omega
    simp [low, inside, place, before, beyond,
      BitVec.getLsbD_of_ge _ _ outside]

theorem rotl_bijective {count : Nat} (fits : count ≤ w) :
    Function.Bijective fun word : BitVec w => rotl word count := by
  apply Function.bijective_iff_has_inverse.mpr
  refine ⟨fun word => rotl word (w - count), ?_, ?_⟩
  · exact rotl_rotl (by omega)
  · exact rotl_rotl (by omega)

/-- Shifting by at least half the width leaves the bits that are mixed in. -/
theorem xorShift_bijective {count : Nat} (half : w ≤ count + count) :
    Function.Bijective (xorShift count : BitVec w → BitVec w) := by
  apply Function.Involutive.bijective
  intro word
  apply BitVec.eq_of_getLsbD_eq
  intro i _
  have gone : word.getLsbD (count + (count + i)) = false :=
    BitVec.getLsbD_of_ge _ _ (by omega)
  simp [xorShift, BitVec.getLsbD_xor, BitVec.getLsbD_ushiftRight, gone]

end WordMix
