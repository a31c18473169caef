import Mathlib.Init

/-!
# Counted loops over an index range

`forRange` is the loop `for (i = first; i < first + count; i++)` whose body
may stop it with a result.  The rules below turn a fact about one pass of the
body into a fact about the whole loop.
-/

universe u v w

namespace RangeLoop

variable {State : Type u} {Exit : Type v}

/-- Runs the body at `first`, `first + 1`, ... until it stops the loop or
`count` passes are done. -/
def forRange (body : Nat → State → State × Option Exit) :
    Nat → Nat → State → State × Option Exit
  | 0, _, state => (state, none)
  | count + 1, index, state =>
      match body index state with
      | (next, none) => forRange body count (index + 1) next
      | (next, some exit) => (next, some exit)

/-- A loop whose body never stops it. -/
def forEach (body : Nat → State → State) :
    Nat → Nat → State → State
  | 0, _, state => state
  | count + 1, index, state => forEach body count (index + 1) (body index state)

@[simp] theorem forRange_zero (body : Nat → State → State × Option Exit)
    (index : Nat) (state : State) :
    forRange body 0 index state = (state, none) := rfl

@[simp] theorem forEach_zero (body : Nat → State → State)
    (index : Nat) (state : State) :
    forEach body 0 index state = state := rfl

/-- A loop is its first passes and then the others. -/
theorem forEach_add (body : Nat → State → State) (before after first : Nat)
    (state : State) :
    forEach body (before + after) first state =
      forEach body after (first + before) (forEach body before first state) := by
  induction before generalizing first state with
  | zero => rw [Nat.zero_add, Nat.add_zero, forEach_zero]
  | succ before induction =>
      have shift : before + 1 + after = before + after + 1 := by omega
      rw [shift, forEach, forEach, induction]
      congr 1
      omega

/-- A loop seen through a projection of its state. -/
theorem forEach_image {Image : Type v} (image : State → Image)
    (body : Nat → State → State) (shadow : Nat → Image → Image)
    (follows : ∀ index state,
      image (body index state) = shadow index (image state))
    (count first : Nat) (state : State) :
    image (forEach body count first state) =
      forEach shadow count first (image state) := by
  induction count generalizing first state with
  | zero => rw [forEach_zero, forEach_zero]
  | succ count induction => rw [forEach, forEach, induction, follows]

/-- The pass for an index, between those before and those after it. -/
theorem forEach_at (body : Nat → State → State) {count i : Nat}
    (inside : i < count) (first : Nat) (state : State) :
    forEach body count first state =
      forEach body (count - (i + 1)) (first + i + 1)
        (body (first + i) (forEach body i first state)) := by
  have split : count = i + (1 + (count - (i + 1))) := by omega
  have whole := forEach_add body i (1 + (count - (i + 1))) first state
  rw [← split, forEach_add] at whole
  exact whole

/-- The invariant rule for a loop that runs to its end. -/
theorem forEach_induction (holds : Nat → State → Prop)
    (body : Nat → State → State) (count first : Nat) (state : State)
    (start : holds first state)
    (pass : ∀ index state, first ≤ index → index < first + count →
      holds index state → holds (index + 1) (body index state)) :
    holds (first + count) (forEach body count first state) := by
  induction count generalizing first state with
  | zero => simpa using start
  | succ count induction =>
      have entered : holds (first + 1) (body first state) :=
        pass first state (Nat.le_refl first) (by omega) start
      have rest := induction (first + 1) (body first state) entered (by
        intro index state lower upper held
        exact pass index state (by omega) (by omega) held)
      have shift : first + 1 + count = first + (count + 1) := by omega
      rw [shift] at rest
      exact rest

/-- The rule for an invariant that does not depend on the index. -/
theorem forEach_keeps (holds : State → Prop) (body : Nat → State → State)
    (count first : Nat) (state : State) (start : holds state)
    (pass : ∀ index state, first ≤ index → index < first + count →
      holds state → holds (body index state)) :
    holds (forEach body count first state) :=
  forEach_induction (fun _ => holds) body count first state start pass

/-- A loop whose pass works on the cell of its own index: every cell of the
range is worked on once, from its first content. -/
theorem forEach_cell {Cell : Type v} (cell : State → Nat → Cell)
    (work : Nat → Cell → Cell) (body : Nat → State → State)
    (here : ∀ index state,
      cell (body index state) index = work index (cell state index))
    (elsewhere : ∀ index state other, other ≠ index →
      cell (body index state) other = cell state other)
    (count first : Nat) (state : State) (index : Nat) :
    cell (forEach body count first state) index =
      if first ≤ index ∧ index < first + count then
        work index (cell state index)
      else cell state index := by
  have done := forEach_induction
    (fun next after => cell after index =
      if first ≤ index ∧ index < next then work index (cell state index)
      else cell state index)
    body count first state (by rw [if_neg (by omega)]) (by
      intro pass before lower upper held
      by_cases same : index = pass
      · subst same
        rw [if_neg (by omega)] at held
        rw [here, held, if_pos (by omega)]
      · rw [elsewhere pass before index same, held]
        congr 1
        apply propext
        omega)
  exact done

/-- The invariant rule for a loop that may stop early, with the number of
passes that were completed and what stopped it. -/
theorem forRange_outcome (holds : Nat → State → Prop)
    (body : Nat → State → State × Option Exit) (count first : Nat)
    (state : State) (start : holds first state)
    (pass : ∀ index state, first ≤ index → index < first + count →
      holds index state →
        ((body index state).2 = none → holds (index + 1) (body index state).1) ∧
        ((body index state).2 ≠ none → holds index (body index state).1)) :
    ∃ done, done ≤ count ∧
      holds (first + done) (forRange body count first state).1 ∧
      ((forRange body count first state).2 = none → done = count) ∧
      ∀ exit, (forRange body count first state).2 = some exit →
        done < count ∧ ∃ state, (body (first + done) state).2 = some exit := by
  induction count generalizing first state with
  | zero =>
      exact ⟨0, Nat.le_refl 0, by simpa using start, fun _ => rfl, by simp⟩
  | succ count induction =>
      have entered := pass first state (Nat.le_refl first) (by omega) start
      rw [forRange]
      split
      · next next outcome =>
          rw [outcome] at entered
          obtain ⟨done, bound, held, ended, stopped⟩ :=
            induction (first + 1) next (entered.1 rfl) (by
              intro index state lower upper held
              exact pass index state (by omega) (by omega) held)
          have shift : first + 1 + done = first + (done + 1) := by omega
          refine ⟨done + 1, by omega, shift ▸ held, ?_, ?_⟩
          · intro finished
            rw [ended finished]
          · intro exit left
            obtain ⟨bound, last, passed⟩ := stopped exit left
            exact ⟨by omega, last, shift ▸ passed⟩
      · next next exit outcome =>
          rw [outcome] at entered
          refine ⟨0, by omega, entered.2 (by simp), by simp, ?_⟩
          intro other left
          exact ⟨Nat.succ_pos _, state, by rw [Nat.add_zero, outcome, ← left]⟩

theorem forRange_induction (holds : Nat → State → Prop)
    (body : Nat → State → State × Option Exit) (count first : Nat)
    (state : State) (start : holds first state)
    (pass : ∀ index state, first ≤ index → index < first + count →
      holds index state →
        ((body index state).2 = none → holds (index + 1) (body index state).1) ∧
        ((body index state).2 ≠ none → holds index (body index state).1)) :
    ∃ done, done ≤ count ∧
      holds (first + done) (forRange body count first state).1 := by
  obtain ⟨done, bound, held, -⟩ :=
    forRange_outcome holds body count first state start pass
  exact ⟨done, bound, held⟩

/-- What holds of every exit of the body holds of the loop's exit. -/
theorem forRange_exit {leaves : Exit → Prop}
    {body : Nat → State → State × Option Exit}
    (pass : ∀ index state exit,
      (body index state).2 = some exit → leaves exit)
    {count first : Nat} {state : State} {exit : Exit}
    (stopped : (forRange body count first state).2 = some exit) :
    leaves exit := by
  induction count generalizing first state with
  | zero => cases stopped
  | succ count induction =>
      rw [forRange] at stopped
      split at stopped
      · exact induction stopped
      · next next left outcome =>
          apply pass first state exit
          rw [outcome]
          exact stopped

/-- A loop that runs to its end has completed every pass. -/
theorem forRange_passes {body : Nat → State → State × Option Exit}
    {count first : Nat} {state : State}
    (ended : (forRange body count first state).2 = none) (index : Nat)
    (lower : first ≤ index) (upper : index < first + count) :
    ∃ state, (body index state).2 = none := by
  induction count generalizing first state with
  | zero => omega
  | succ count induction =>
      rw [forRange] at ended
      split at ended
      · next next outcome =>
          by_cases here : index = first
          · exact ⟨state, by rw [here, outcome]⟩
          · exact induction ended (by omega) (by omega)
      · cases ended

/-- What every pass that goes on preserves holds at the end of a loop that
was not stopped. -/
theorem forRange_finished (holds : Nat → State → Prop)
    (body : Nat → State → State × Option Exit) (count first : Nat)
    (state : State) (start : holds first state)
    (pass : ∀ index state, first ≤ index → index < first + count →
      holds index state → (body index state).2 = none →
      holds (index + 1) (body index state).1)
    (ended : (forRange body count first state).2 = none) :
    holds (first + count) (forRange body count first state).1 := by
  induction count generalizing first state with
  | zero => simpa using start
  | succ count induction =>
      rw [forRange] at ended ⊢
      cases outcome : body first state with
      | mk next exit =>
          rw [outcome] at ended
          cases exit with
          | none =>
              have entered := pass first state (Nat.le_refl first) (by omega)
                start (by rw [outcome])
              rw [outcome] at entered
              have rest := induction (first + 1) next entered (by
                intro index state lower upper held
                exact pass index state (by omega) (by omega) held) ended
              have shift : first + 1 + count = first + (count + 1) := by omega
              rw [shift] at rest
              exact rest
          | some exit => cases ended

/-- The invariant rule for a loop none of whose passes stops it. -/
theorem forRange_complete (holds : Nat → State → Prop)
    (body : Nat → State → State × Option Exit) (count first : Nat)
    (state : State) (start : holds first state)
    (pass : ∀ index state, first ≤ index → index < first + count →
      holds index state → (body index state).2 = none ∧
        holds (index + 1) (body index state).1) :
    (forRange body count first state).2 = none ∧
      holds (first + count) (forRange body count first state).1 := by
  induction count generalizing first state with
  | zero => exact ⟨rfl, by simpa using start⟩
  | succ count induction =>
      obtain ⟨continues, entered⟩ :=
        pass first state (Nat.le_refl first) (by omega) start
      rw [forRange]
      split
      · next next outcome =>
          rw [outcome] at entered
          have rest := induction (first + 1) next entered (by
            intro index state lower upper held
            exact pass index state (by omega) (by omega) held)
          have shift : first + 1 + count = first + (count + 1) := by omega
          rw [shift] at rest
          exact rest
      · next next exit outcome =>
          rw [outcome] at continues
          cases continues

/-- Two loops that go through the same passes and stop together. -/
theorem forRange_follows {Image : Type w} (holds : Nat → State → Image → Prop)
    (body : Nat → State → State × Option Exit)
    (shadow : Nat → Image → Image × Option Exit) (count first : Nat)
    (state : State) (image : Image) (start : holds first state image)
    (pass : ∀ index state image, first ≤ index → index < first + count →
      holds index state image →
        (shadow index image).2 = (body index state).2 ∧
        ((body index state).2 = none →
          holds (index + 1) (body index state).1 (shadow index image).1) ∧
        ((body index state).2 ≠ none →
          holds index (body index state).1 (shadow index image).1)) :
    (forRange shadow count first image).2 =
        (forRange body count first state).2 ∧
      ∃ done, done ≤ count ∧
        holds (first + done) (forRange body count first state).1
          (forRange shadow count first image).1 := by
  induction count generalizing first state image with
  | zero => exact ⟨rfl, 0, Nat.le_refl 0, start⟩
  | succ count induction =>
      obtain ⟨together, goesOn, stops⟩ :=
        pass first state image (Nat.le_refl first) (by omega) start
      rw [forRange, forRange]
      cases outcome : body first state with
      | mk next exit =>
          cases imaged : shadow first image with
          | mk after left =>
              rw [outcome, imaged] at together goesOn stops
              dsimp only at together goesOn stops
              subst together
              cases left with
              | none =>
                  obtain ⟨agree, done, bound, held⟩ :=
                    induction (first + 1) next after (goesOn rfl) (by
                      intro index state image lower upper held
                      exact pass index state image (by omega) (by omega) held)
                  have shift : first + 1 + done = first + (done + 1) := by
                    omega
                  exact ⟨agree, done + 1, by omega, shift ▸ held⟩
              | some exit =>
                  exact ⟨rfl, 0, Nat.zero_le _, stops (by simp)⟩

end RangeLoop
