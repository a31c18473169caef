import Mathlib.Algebra.BigOperators.Group.List.Basic
import Mathlib.Algebra.GroupWithZero.Nat
import Rshm.Lib.Machine

/-!
# Runs that have to end

A state holds so much work, each step uses up one unit of it, and an input
brings at most its grant of new work.  A run is then no longer than the work
it starts with and the grants on the way, and the inputs that bring nothing
take every state to one where nothing but new work moves the machine.
-/

universe u v

namespace Machine

variable {State : Type u} {Input : Type v}

/-- An account of the work in a state, kept by the admitted steps. -/
structure Budget (machine : Machine State Input)
    (allowed : State → Input → Prop) (holds : State → Prop)
    (work : State → Nat) (grant : Input → Nat) : Prop where
  preserved : ∀ state input next, holds state → allowed state input →
    machine.step state input = some next → holds next
  spends : ∀ state input next, holds state → allowed state input →
    machine.step state input = some next →
      work next + 1 ≤ work state + grant input

/-- No admitted input moves the machine that brings no new work. -/
def Resting (machine : Machine State Input)
    (allowed : State → Input → Prop) (grant : Input → Nat) (state : State) :
    Prop :=
  ∀ input next, grant input = 0 → allowed state input →
    machine.step state input ≠ some next

namespace Budget

variable {machine : Machine State Input} {allowed : State → Input → Prop}
  {holds : State → Prop} {work : State → Nat} {grant : Input → Nat}

/-- A run spends what it starts with and what its inputs grant. -/
theorem run (budget : machine.Budget allowed holds work grant)
    {state last : State} {inputs : List Input} (start : holds state)
    (run : machine.Run allowed state inputs last) :
    work last + inputs.length ≤ work state + (inputs.map grant).sum := by
  induction run with
  | nil state => exact Nat.le_refl _
  | cons admitted moved _ induction =>
      have step := budget.spends _ _ _ start admitted moved
      have rest := induction (budget.preserved _ _ _ start admitted moved)
      rw [List.length_cons, List.map_cons, List.sum_cons]
      omega

/-- Every state comes to rest without new work. -/
theorem rests (budget : machine.Budget allowed holds work grant)
    {state : State} (start : holds state) :
    ∃ inputs last, machine.Run allowed state inputs last ∧
      (∀ input ∈ inputs, grant input = 0) ∧
      machine.Resting allowed grant last := by
  generalize spent : work state = units
  induction units using Nat.strongRecOn generalizing state with
  | ind units induction =>
      by_cases resting : machine.Resting allowed grant state
      · exact ⟨[], state, .nil state, nofun, resting⟩
      · simp only [Resting, not_forall, not_not] at resting
        obtain ⟨input, next, free, admitted, moved⟩ := resting
        have step := budget.spends _ _ _ start admitted moved
        have fewer : work next < units := by omega
        obtain ⟨inputs, last, run, nothing, rests⟩ := induction _ fewer
          (budget.preserved _ _ _ start admitted moved) rfl
        refine ⟨input :: inputs, last, .cons admitted moved run, ?_, rests⟩
        intro other member
        rcases List.mem_cons.mp member with rfl | later
        · exact free
        · exact nothing other later

end Budget

end Machine
