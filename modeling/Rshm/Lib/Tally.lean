import Mathlib.Data.List.Count

/-!
# Counting the members of a list that satisfy a test

How the count changes when the test changes at one member of a list without
repetitions, the count of a test that is one of two others, and the count over
the first indices.
-/

namespace Tally

variable {Item : Type} {items : List Item} {before after : Item → Bool}

/-- A test that changes at one member counts one member more. -/
theorem countP_flip (nodup : items.Nodup) {item : Item}
    (member : item ∈ items) (was : before item = false)
    (becomes : after item = true)
    (elsewhere : ∀ other, other ≠ item → after other = before other) :
    items.countP after = items.countP before + 1 := by
  induction items with
  | nil => cases member
  | cons head tail induction =>
      obtain ⟨fresh, nodup⟩ := List.nodup_cons.mp nodup
      rw [List.countP_cons, List.countP_cons]
      by_cases here : item = head
      · subst here
        have same : tail.countP after = tail.countP before := by
          apply List.countP_congr
          intro other inside
          have different : other ≠ item := by
            rintro rfl
            exact fresh inside
          rw [elsewhere other different]
        rw [same, was, becomes]
        rfl
      · have inside : item ∈ tail :=
          (List.mem_cons.mp member).resolve_left here
        have different : head ≠ item := fun same => here same.symm
        rw [induction nodup inside, elsewhere head different]
        omega

/-- A test that is one of two others, never both. -/
theorem countP_either {whole one another : Item → Bool}
    (either : ∀ item ∈ items, whole item = (one item || another item))
    (apart : ∀ item ∈ items, one item = true → another item = false) :
    items.countP whole = items.countP one + items.countP another := by
  induction items with
  | nil => rfl
  | cons head tail induction =>
      have rest := induction
        (fun item inside => either item (List.mem_cons_of_mem head inside))
        (fun item inside => apart item (List.mem_cons_of_mem head inside))
      have first := either head (List.mem_cons_self ..)
      have alone := apart head (List.mem_cons_self ..)
      rw [List.countP_cons, List.countP_cons, List.countP_cons, rest, first]
      cases holds : one head with
      | true =>
          rw [alone holds]
          simp
          omega
      | false =>
          simp
          omega

/-- How many of the first `count` indices satisfy the test. -/
def upTo (test : Nat → Bool) (count : Nat) : Nat :=
  (List.range count).countP test

theorem upTo_succ (test : Nat → Bool) (count : Nat) :
    upTo test (count + 1) = upTo test count + if test count then 1 else 0 := by
  rw [upTo, List.range_succ, List.countP_append, List.countP_singleton]
  rfl

theorem upTo_congr {test other : Nat → Bool} {count : Nat}
    (same : ∀ i, i < count → test i = other i) :
    upTo test count = upTo other count := by
  apply List.countP_congr
  intro i inside
  rw [same i (List.mem_range.mp inside)]

theorem upTo_le (test : Nat → Bool) {count bound : Nat}
    (within : count ≤ bound) : upTo test count ≤ upTo test bound := by
  induction within with
  | refl => exact Nat.le_refl _
  | step _ induction =>
      rw [Nat.succ_eq_add_one, upTo_succ]
      exact Nat.le_add_right_of_le induction

theorem upTo_pos_iff {test : Nat → Bool} {count : Nat} :
    0 < upTo test count ↔ ∃ i, i < count ∧ test i = true := by
  rw [upTo, List.countP_pos_iff]
  simp only [List.mem_range]

end Tally
