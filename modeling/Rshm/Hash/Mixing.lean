import Rshm.Hash.Xxh3

/-!
# What a step makes of the accumulator and of its words

With the words of a step fixed, the accumulator after it is a bijection of the
one before.  With the accumulator and all other words fixed it is an injection
of each word.  So the accumulators of two strings meet only where their words
differ.
-/

namespace Rshm.Hash

open Wire WordMix

theorem xxh3Rotl64_bijective (r : Nat) (fits : r ≤ 64) :
    Function.Bijective fun x : U64 => xxh3Rotl64 x r :=
  rotl_bijective fits

/-- The factor of the first and the last word of a long step. -/
theorem mulOuter_bijective :
    Function.Bijective fun x : U64 => x * 0x51B051B051B051B :=
  mul_bijective
    (show (0x51B051B051B051B : U64) * 0x373C21B07A38CD13 = 1 by decide)

theorem mulSecond_bijective :
    Function.Bijective fun x : U64 => x * 0x7CB07CB07CB07CB1 :=
  mul_bijective
    (show (0x7CB07CB07CB07CB1 : U64) * 0x704AF01F12644C51 = 1 by decide)

theorem mulThird_bijective :
    Function.Bijective fun x : U64 => x * 0xC6A4A7935BD1E995 :=
  mul_bijective
    (show (0xC6A4A7935BD1E995 : U64) * 0x5F7A0EA7E59B19BD = 1 by decide)

theorem mulShort_bijective :
    Function.Bijective fun x : U64 => x * 0x9FB21C651E98DF25 :=
  mul_bijective
    (show (0x9FB21C651E98DF25 : U64) * 0x2AB9C720D1024AD = 1 by decide)

theorem mulTail_bijective :
    Function.Bijective fun x : U64 => x * 0xA0761D6478BD642F :=
  mul_bijective
    (show (0xA0761D6478BD642F : U64) * 0x939C72E4AF1E62CF = 1 by decide)

theorem xxh3Avalanche_bijective : Function.Bijective xxh3Avalanche := by
  have first : Function.Bijective (xorShift 37 : U64 → U64) :=
    xorShift_bijective (by decide)
  have second : Function.Bijective fun x : U64 => x * 0x165667919E3779F9 :=
    mul_bijective
      (show (0x165667919E3779F9 : U64) * 0x8DA8EE41D6DF849 = 1 by decide)
  have third : Function.Bijective (xorShift 32 : U64 → U64) :=
    xorShift_bijective (by decide)
  exact third.comp (second.comp first)

theorem mixLongRest_bijective (k3 k4 : U64) :
    Function.Bijective fun acc : U64 =>
      xxh3Rotl64 (xxh3Rotl64 acc 21 * 0xC6A4A7935BD1E995 + k3) 19 ^^^
        k4 * 0x51B051B051B051B := by
  have second := xxh3Rotl64_bijective 21 (by decide)
  have third := (add_bijective k3).comp (mulThird_bijective.comp second)
  exact (xor_bijective (k4 * 0x51B051B051B051B)).comp
    ((xxh3Rotl64_bijective 19 (by decide)).comp third)

theorem mixLong_bijective (k1 k2 k3 k4 : U64) :
    Function.Bijective fun acc => mixLong acc k1 k2 k3 k4 := by
  have first := (xxh3Rotl64_bijective 29 (by decide)).comp
    (xor_bijective (k1 * 0x51B051B051B051B))
  exact (mixLongRest_bijective k3 k4).comp
    ((add_bijective (k2 * 0x7CB07CB07CB07CB1)).comp first)

theorem mixShort_bijective (k1 k2 : U64) :
    Function.Bijective fun acc => mixShort acc k1 k2 := by
  have turned := (xxh3Rotl64_bijective 31 (by decide)).comp
    (xor_bijective (k1 * 0x9FB21C651E98DF25))
  exact (add_bijective (k2 * 0x9FB21C651E98DF25)).comp
    (mulShort_bijective.comp turned)

theorem mixTail_bijective (k1 : U64) :
    Function.Bijective fun acc => mixTail acc k1 := by
  have turned := (xxh3Rotl64_bijective 27 (by decide)).comp
    (xor_bijective (k1 * 0xA0761D6478BD642F))
  exact mulTail_bijective.comp turned

theorem Step.apply_bijective (step : Step) :
    Function.Bijective fun acc => step.apply acc := by
  cases step with
  | long k1 k2 k3 k4 => exact mixLong_bijective k1 k2 k3 k4
  | short k1 k2 => exact mixShort_bijective k1 k2
  | tail k1 => exact mixTail_bijective k1

theorem run_bijective (steps : List Step) :
    Function.Bijective fun acc => run acc steps := by
  induction steps with
  | nil => exact Function.bijective_id
  | cons step steps induction =>
      exact induction.comp step.apply_bijective

theorem finish_bijective (length : Nat) :
    Function.Bijective (finish length) :=
  xxh3Avalanche_bijective.comp (xor_bijective (BitVec.ofNat 64 length))

/-- With its words and its length fixed, the hash is a bijection of the
accumulator it starts with; so it keeps accumulators apart that differ after
some steps, as long as the words behind those agree. -/
theorem hash_never_merges (order : ByteOrder) :
    (∀ (words : List Step) (length : Nat),
      Function.Bijective fun acc => finish length (run acc words)) ∧
    ∀ (memory other : Bytes) (length done : Nat),
      run xxh3DefaultSeed ((steps order memory length).take done) ≠
        run xxh3DefaultSeed ((steps order other length).take done) →
      (steps order memory length).drop done =
        (steps order other length).drop done →
      xxh3_64bit order memory length ≠ xxh3_64bit order other length := by
  have bijective (words : List Step) (length : Nat) :
      Function.Bijective fun acc => finish length (run acc words) :=
    (finish_bijective length).comp (run_bijective words)
  refine ⟨bijective, ?_⟩
  intro memory other length done apart rest collide
  have split (memory : Bytes) : xxh3_64bit order memory length =
      finish length (run (run xxh3DefaultSeed
        ((steps order memory length).take done))
        ((steps order memory length).drop done)) := by
    rw [← run_append, List.take_append_drop, xxh3_64bit_eq]
  rw [split memory, split other, ← rest] at collide
  exact apart ((bijective _ length).injective collide)

/-- Two steps of one kind that differ in one word. -/
inductive Step.DiffersOnce : Step → Step → Prop where
  | long1 {k k' k2 k3 k4 : U64} (different : k ≠ k') :
      DiffersOnce (long k k2 k3 k4) (long k' k2 k3 k4)
  | long2 {k1 k k' k3 k4 : U64} (different : k ≠ k') :
      DiffersOnce (long k1 k k3 k4) (long k1 k' k3 k4)
  | long3 {k1 k2 k k' k4 : U64} (different : k ≠ k') :
      DiffersOnce (long k1 k2 k k4) (long k1 k2 k' k4)
  | long4 {k1 k2 k3 k k' : U64} (different : k ≠ k') :
      DiffersOnce (long k1 k2 k3 k) (long k1 k2 k3 k')
  | short1 {k k' k2 : U64} (different : k ≠ k') :
      DiffersOnce (short k k2) (short k' k2)
  | short2 {k1 k k' : U64} (different : k ≠ k') :
      DiffersOnce (short k1 k) (short k1 k')
  | tail {k k' : U64} (different : k ≠ k') :
      DiffersOnce (tail k) (tail k')

section Words

variable (acc k1 k2 k3 k4 : U64)

theorem mixLong_injective1 :
    Function.Injective fun k => mixLong acc k k2 k3 k4 := by
  have first := (xxh3Rotl64_bijective 29 (by decide)).comp
    ((xor_left_bijective acc).comp mulOuter_bijective)
  have whole := (mixLongRest_bijective k3 k4).comp
    ((add_bijective (k2 * 0x7CB07CB07CB07CB1)).comp first)
  exact whole.injective

theorem mixLong_injective2 :
    Function.Injective fun k => mixLong acc k1 k k3 k4 := by
  have first := (add_left_bijective
    (xxh3Rotl64 (acc ^^^ k1 * 0x51B051B051B051B) 29)).comp mulSecond_bijective
  exact ((mixLongRest_bijective k3 k4).comp first).injective

theorem mixLong_injective3 :
    Function.Injective fun k => mixLong acc k1 k2 k k4 := by
  have third := add_left_bijective (xxh3Rotl64 (xxh3Rotl64
    (acc ^^^ k1 * 0x51B051B051B051B) 29 + k2 * 0x7CB07CB07CB07CB1) 21 *
      0xC6A4A7935BD1E995)
  have whole := (xor_bijective (k4 * 0x51B051B051B051B)).comp
    ((xxh3Rotl64_bijective 19 (by decide)).comp third)
  exact whole.injective

theorem mixLong_injective4 :
    Function.Injective fun k => mixLong acc k1 k2 k3 k := by
  have whole := (xor_left_bijective (xxh3Rotl64 (xxh3Rotl64 (xxh3Rotl64
    (acc ^^^ k1 * 0x51B051B051B051B) 29 + k2 * 0x7CB07CB07CB07CB1) 21 *
      0xC6A4A7935BD1E995 + k3) 19)).comp mulOuter_bijective
  exact whole.injective

theorem mixShort_injective1 :
    Function.Injective fun k => mixShort acc k k2 := by
  have turned := (xxh3Rotl64_bijective 31 (by decide)).comp
    ((xor_left_bijective acc).comp mulShort_bijective)
  have whole := (add_bijective (k2 * 0x9FB21C651E98DF25)).comp
    (mulShort_bijective.comp turned)
  exact whole.injective

theorem mixShort_injective2 :
    Function.Injective fun k => mixShort acc k1 k := by
  have whole := (add_left_bijective (xxh3Rotl64
    (acc ^^^ k1 * 0x9FB21C651E98DF25) 31 * 0x9FB21C651E98DF25)).comp
      mulShort_bijective
  exact whole.injective

theorem mixTail_injective : Function.Injective fun k => mixTail acc k := by
  have turned := (xxh3Rotl64_bijective 27 (by decide)).comp
    ((xor_left_bijective acc).comp mulTail_bijective)
  exact (mulTail_bijective.comp turned).injective

end Words

theorem Step.DiffersOnce.apply_ne {step other : Step}
    (differs : DiffersOnce step other) (acc : U64) :
    step.apply acc ≠ other.apply acc := by
  cases differs with
  | long1 different => exact (mixLong_injective1 _ _ _ _).ne different
  | long2 different => exact (mixLong_injective2 _ _ _ _).ne different
  | long3 different => exact (mixLong_injective3 _ _ _ _).ne different
  | long4 different => exact (mixLong_injective4 _ _ _ _).ne different
  | short1 different => exact (mixShort_injective1 _ _).ne different
  | short2 different => exact (mixShort_injective2 _ _).ne different
  | tail different => exact (mixTail_injective _).ne different

theorem xxh3_64bit_ne {order : ByteOrder} {memory other : Bytes}
    {length : Nat} {before after : List Step} {step step' : Step}
    (differs : step.DiffersOnce step')
    (words : steps order memory length = before ++ step :: after)
    (words' : steps order other length = before ++ step' :: after) :
    xxh3_64bit order memory length ≠ xxh3_64bit order other length := by
  rw [xxh3_64bit_eq, xxh3_64bit_eq, words, words', run_append, run_append]
  apply (finish_bijective length).injective.ne
  exact (run_bijective after).injective.ne (differs.apply_ne _)

end Rshm.Hash
