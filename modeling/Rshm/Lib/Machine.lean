import Mathlib.Logic.Relation

/-!
# Input-driven machines and their runs

A machine consumes one input at a time.  An input carries both the party that
moves and everything its environment decides, so `step` is a partial function
and a finite run is a list of inputs.  Restricting a run means restricting,
in the state before each step, which inputs are admitted there.
-/

universe u v w

/-- A partial step function with a set of starting states. -/
structure Machine (State : Type u) (Input : Type v) where
  Initial : State → Prop
  step : State → Input → Option State

namespace Machine

variable {State : Type u} {Input : Type v}

/-- A finite run whose every step is admitted in the state before it. -/
inductive Run (machine : Machine State Input)
    (allowed : State → Input → Prop) : State → List Input → State → Prop where
  | nil (state : State) : Run machine allowed state [] state
  | cons {state next last : State} {input : Input} {inputs : List Input} :
      allowed state input →
      machine.step state input = some next →
      Run machine allowed next inputs last →
      Run machine allowed state (input :: inputs) last

/-- No restriction on the inputs of a run. -/
def anyInput : State → Input → Prop := fun _ _ => True

/-- The states that admitted runs reach from a starting state. -/
def Reaches (machine : Machine State Input)
    (allowed : State → Input → Prop) (state : State) : Prop :=
  ∃ start inputs, machine.Initial start ∧ machine.Run allowed start inputs state

/-- The reachable states, over unrestricted runs. -/
abbrev Reachable (machine : Machine State Input) (state : State) : Prop :=
  machine.Reaches anyInput state

namespace Run

variable {machine : Machine State Input} {allowed wider : State → Input → Prop}

theorem append {state middle last : State} {front back : List Input}
    (first : machine.Run allowed state front middle)
    (second : machine.Run allowed middle back last) :
    machine.Run allowed state (front ++ back) last := by
  induction first with
  | nil => exact second
  | cons admitted moved _ induction =>
      exact .cons admitted moved (induction second)

theorem mono {state last : State} {inputs : List Input}
    (run : machine.Run allowed state inputs last)
    (weaker : ∀ state input, allowed state input → wider state input) :
    machine.Run wider state inputs last := by
  induction run with
  | nil => exact .nil _
  | cons admitted moved _ induction =>
      exact .cons (weaker _ _ admitted) moved induction

/-- A run along which an invariant holds may be admitted for reasons that
rest on the invariant. -/
theorem mono_along (holds : State → Prop)
    (preserved : ∀ state input next, holds state → allowed state input →
      machine.step state input = some next → holds next)
    (weaker : ∀ state input, holds state → allowed state input →
      wider state input)
    {state last : State} {inputs : List Input}
    (run : machine.Run allowed state inputs last) (start : holds state) :
    machine.Run wider state inputs last := by
  induction run with
  | nil => exact .nil _
  | cons admitted moved _ induction =>
      apply Run.cons (weaker _ _ start admitted) moved
      exact induction (preserved _ _ _ start admitted moved)

/-- What every admitted step preserves, every admitted run preserves. -/
theorem preserves (holds : State → Prop)
    (preserved : ∀ state input next, holds state → allowed state input →
      machine.step state input = some next → holds next)
    {state last : State} {inputs : List Input}
    (run : machine.Run allowed state inputs last) (start : holds state) :
    holds last := by
  induction run with
  | nil => exact start
  | cons admitted moved _ induction =>
      exact induction (preserved _ _ _ start admitted moved)

end Run

namespace Reaches

variable {machine : Machine State Input} {allowed wider : State → Input → Prop}

theorem start {state : State} (initial : machine.Initial state) :
    machine.Reaches allowed state :=
  ⟨state, [], initial, .nil state⟩

theorem next {state following : State} {input : Input}
    (reached : machine.Reaches allowed state)
    (admitted : allowed state input)
    (moved : machine.step state input = some following) :
    machine.Reaches allowed following := by
  obtain ⟨start, inputs, initial, run⟩ := reached
  exact ⟨start, inputs ++ [input], initial,
    run.append (.cons admitted moved (.nil following))⟩

theorem mono {state : State} (reached : machine.Reaches allowed state)
    (weaker : ∀ state input, allowed state input → wider state input) :
    machine.Reaches wider state := by
  obtain ⟨start, inputs, initial, run⟩ := reached
  exact ⟨start, inputs, initial, run.mono weaker⟩

end Reaches

/-- A state predicate that holds at the start and survives every admitted
step. -/
structure Invariant (machine : Machine State Input)
    (allowed : State → Input → Prop) (holds : State → Prop) : Prop where
  initial : ∀ state, machine.Initial state → holds state
  preserved : ∀ state input next, holds state → allowed state input →
    machine.step state input = some next → holds next

theorem Invariant.reaches {machine : Machine State Input}
    {allowed : State → Input → Prop} {holds : State → Prop}
    (invariant : machine.Invariant allowed holds) {state : State}
    (reached : machine.Reaches allowed state) : holds state := by
  obtain ⟨start, inputs, initial, run⟩ := reached
  exact run.preserves holds invariant.preserved (invariant.initial start initial)

/-- Executes a list of inputs. -/
def exec (machine : Machine State Input) :
    State → List Input → Option State
  | state, [] => some state
  | state, input :: inputs =>
      match machine.step state input with
      | none => none
      | some next => machine.exec next inputs

theorem exec_append (machine : Machine State Input)
    (state : State) (front back : List Input) :
    machine.exec state (front ++ back) =
      (machine.exec state front).bind fun next => machine.exec next back := by
  induction front generalizing state with
  | nil => rfl
  | cons input front induction =>
      simp only [List.cons_append, exec]
      cases machine.step state input with
      | none => rfl
      | some next => exact induction next

/-- What a measure passes in an execution it passes in one step. -/
theorem exec_crosses {machine : Machine State Input} (measure : State → Nat)
    {inputs : List Input} {start last : State} {k : Nat}
    (executed : machine.exec start inputs = some last)
    (below : measure start ≤ k) (above : k < measure last) :
    ∃ front input back before next, inputs = front ++ input :: back ∧
      machine.exec start front = some before ∧
      machine.step before input = some next ∧
      measure before ≤ k ∧ k < measure next := by
  induction inputs generalizing start with
  | nil =>
      cases executed
      omega
  | cons input inputs induction =>
      rw [exec] at executed
      split at executed
      · cases executed
      · next next moved =>
        by_cases crosses : k < measure next
        · exact ⟨[], input, inputs, start, next, rfl, rfl, moved, below,
            crosses⟩
        · obtain ⟨front, later, back, before, after, list, ran, rest⟩ :=
            induction executed (Nat.le_of_not_lt crosses)
          refine ⟨input :: front, later, back, before, after, ?_, ?_, rest⟩
          · rw [list]
            rfl
          · rw [exec, moved]
            exact ran

/-- Executes a list of inputs, checking a decidable admission test before
each of them. -/
def execIf (machine : Machine State Input) (admits : State → Input → Bool) :
    State → List Input → Option State
  | state, [] => some state
  | state, input :: inputs =>
      if admits state input then
        match machine.step state input with
        | none => none
        | some next => machine.execIf admits next inputs
      else none

theorem run_of_execIf {machine : Machine State Input}
    {allowed : State → Input → Prop} {admits : State → Input → Bool}
    (sound : ∀ state input, admits state input = true → allowed state input)
    {inputs : List Input} {state last : State}
    (executed : machine.execIf admits state inputs = some last) :
    machine.Run allowed state inputs last := by
  induction inputs generalizing state with
  | nil =>
      simp only [execIf, Option.some.injEq] at executed
      exact executed ▸ .nil state
  | cons input inputs induction =>
      rw [execIf] at executed
      split at executed
      · next admitted =>
          split at executed
          · cases executed
          · next next moved =>
              exact .cons (sound state input admitted) moved
                (induction executed)
      · cases executed

theorem run_of_exec {machine : Machine State Input}
    {inputs : List Input} {state last : State}
    (executed : machine.exec state inputs = some last) :
    machine.Run anyInput state inputs last := by
  induction inputs generalizing state with
  | nil =>
      simp only [exec, Option.some.injEq] at executed
      exact executed ▸ .nil state
  | cons input inputs induction =>
      rw [exec] at executed
      split at executed
      · cases executed
      · next next moved =>
          exact .cons trivial moved (induction executed)

theorem reaches_of_execIf {machine : Machine State Input}
    {allowed : State → Input → Prop} {admits : State → Input → Bool}
    (sound : ∀ state input, admits state input = true → allowed state input)
    (inputs : List Input) {start last : State} (initial : machine.Initial start)
    (executed : machine.execIf admits start inputs = some last) :
    machine.Reaches allowed last :=
  ⟨start, inputs, initial, run_of_execIf sound executed⟩

theorem reachable_of_exec {machine : Machine State Input}
    (inputs : List Input) {start last : State} (initial : machine.Initial start)
    (executed : machine.exec start inputs = some last) :
    machine.Reachable last :=
  ⟨start, inputs, initial, run_of_exec executed⟩

/-- A test that the executed state passes finds a reachable state. -/
theorem reachable_of_test (machine : Machine State Input)
    (inputs : List Input) {start : State} (test : State → Bool)
    (initial : machine.Initial start)
    (passed : (machine.exec start inputs).any test = true) :
    ∃ last, machine.Reachable last ∧ test last = true := by
  obtain ⟨last, executed, holds⟩ := (Option.any_eq_true _ _).mp passed
  exact ⟨last, reachable_of_exec inputs initial executed, holds⟩

theorem reaches_of_test (machine : Machine State Input)
    {allowed : State → Input → Prop} {admits : State → Input → Bool}
    (sound : ∀ state input, admits state input = true → allowed state input)
    (inputs : List Input) {start : State} (test : State → Bool)
    (initial : machine.Initial start)
    (passed : (machine.execIf admits start inputs).any test = true) :
    ∃ last, machine.Reaches allowed last ∧ test last = true := by
  obtain ⟨last, executed, holds⟩ := (Option.any_eq_true _ _).mp passed
  exact ⟨last, reaches_of_execIf sound inputs initial executed, holds⟩

/-- A forward simulation: each admitted concrete step is matched by finitely
many abstract steps, possibly none. -/
structure Refines (machine : Machine State Input)
    (allowed : State → Input → Prop) {Abstract : Type w}
    (Start : Abstract → Prop) (move : Abstract → Abstract → Prop)
    (represents : State → Abstract → Prop) : Prop where
  initial : ∀ state, machine.Initial state →
    ∃ abstract, Start abstract ∧ represents state abstract
  simulated : ∀ state input next abstract, represents state abstract →
    allowed state input → machine.step state input = some next →
    ∃ following, Relation.ReflTransGen move abstract following ∧
      represents next following

/-- Every reached state represents an abstract state reached by abstract
steps. -/
theorem Refines.reaches {machine : Machine State Input}
    {allowed : State → Input → Prop} {Abstract : Type w}
    {Start : Abstract → Prop} {move : Abstract → Abstract → Prop}
    {represents : State → Abstract → Prop}
    (refines : machine.Refines allowed Start move represents)
    {state : State} (reached : machine.Reaches allowed state) :
    ∃ origin abstract, Start origin ∧
      Relation.ReflTransGen move origin abstract ∧
      represents state abstract := by
  let holds : State → Prop := fun state =>
    ∃ origin abstract, Start origin ∧
      Relation.ReflTransGen move origin abstract ∧ represents state abstract
  have invariant : machine.Invariant allowed holds := by
    constructor
    · intro state initial
      obtain ⟨abstract, started, represented⟩ := refines.initial state initial
      exact ⟨abstract, abstract, started, .refl, represented⟩
    · intro state input next held admitted moved
      obtain ⟨origin, abstract, started, path, represented⟩ := held
      obtain ⟨following, extension, followed⟩ :=
        refines.simulated state input next abstract represented admitted moved
      exact ⟨origin, following, started, path.trans extension, followed⟩
  exact invariant.reaches reached

end Machine
