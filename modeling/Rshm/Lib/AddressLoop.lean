import Mathlib.Init

/-!
# Loops that choose their next address

`forAddress` is the loop `for (addr = start; addr < end; addr = next)` whose
body picks `next` or leaves the loop.  Nothing makes such a loop end, so it is
run for a number of passes, and a rule each says what holds after them, and
when they are enough.
-/

universe u v w

namespace AddressLoop

variable {Address : Type u} {State : Type v} {Exit : Type w}
  [LT Address] [DecidableLT Address]

/-- How the passes of a loop end: they are used up, the condition of the loop
fails, or the body leaves. -/
inductive Outcome (Exit : Type w) where
  | running
  | ended
  | left (exit : Exit)
  deriving DecidableEq, Repr

def forAddress (body : Address → State → State × Except Exit Address)
    (stop : Address) : Nat → Address → State → State × Outcome Exit
  | 0, addr, state => (state, if addr < stop then .running else .ended)
  | passes + 1, addr, state =>
      if addr < stop then
        match body addr state with
        | (after, .ok next) => forAddress body stop passes next after
        | (after, .error exit) => (after, .left exit)
      else (state, .ended)

/-- What an invariant of the body says about each way the passes can end. -/
def Concludes (stop : Address) (holds : Address → State → Prop)
    (leaves : Exit → State → Prop) : State × Outcome Exit → Prop
  | (after, .running) => ∃ addr, addr < stop ∧ holds addr after
  | (after, .ended) => ∃ addr, ¬addr < stop ∧ holds addr after
  | (after, .left exit) => leaves exit after

section Conclusion

variable {stop : Address} {holds : Address → State → Prop}
  {leaves : Exit → State → Prop} {outcome : State × Outcome Exit}

omit [DecidableLT Address] in
theorem Concludes.ended (concluded : Concludes stop holds leaves outcome)
    (ended : outcome.2 = .ended) :
    ∃ addr, ¬addr < stop ∧ holds addr outcome.1 := by
  obtain ⟨after, way⟩ := outcome
  cases ended
  exact concluded

omit [DecidableLT Address] in
theorem Concludes.running (concluded : Concludes stop holds leaves outcome)
    (running : outcome.2 = .running) :
    ∃ addr, addr < stop ∧ holds addr outcome.1 := by
  obtain ⟨after, way⟩ := outcome
  cases running
  exact concluded

omit [DecidableLT Address] in
theorem Concludes.left (concluded : Concludes stop holds leaves outcome)
    {exit : Exit} (left : outcome.2 = .left exit) :
    leaves exit outcome.1 := by
  obtain ⟨after, way⟩ := outcome
  cases left
  exact concluded

end Conclusion

/-- The invariant rule. -/
theorem forAddress_induction (stop : Address)
    (holds : Address → State → Prop) (leaves : Exit → State → Prop)
    (body : Address → State → State × Except Exit Address)
    (continues : ∀ addr state after next, addr < stop → holds addr state →
      body addr state = (after, .ok next) → holds next after)
    (exits : ∀ addr state after exit, addr < stop → holds addr state →
      body addr state = (after, .error exit) → leaves exit after)
    (passes : Nat) (addr : Address) (state : State)
    (start : holds addr state) :
    Concludes stop holds leaves (forAddress body stop passes addr state) := by
  induction passes generalizing addr state with
  | zero =>
      by_cases inside : addr < stop
      · rw [forAddress, if_pos inside]
        exact ⟨addr, inside, start⟩
      · rw [forAddress, if_neg inside]
        exact ⟨addr, inside, start⟩
  | succ passes induction =>
      rw [forAddress]
      by_cases inside : addr < stop
      · rw [if_pos inside]
        cases pass : body addr state with
        | mk after choice =>
            cases choice with
            | ok next =>
                exact induction next after
                  (continues addr state after next inside start pass)
            | error exit => exact exits addr state after exit inside start pass
      · rw [if_neg inside]
        exact ⟨addr, inside, start⟩

/-- A loop that comes closer to its end in each pass ends within as many
passes as it is away. -/
theorem forAddress_returns (stop : Address) (distance : Address → Nat)
    (holds : Address → State → Prop)
    (body : Address → State → State × Except Exit Address)
    (closer : ∀ addr state after next, addr < stop → holds addr state →
      body addr state = (after, .ok next) →
        holds next after ∧ distance next < distance addr)
    (passes : Nat) (addr : Address) (state : State)
    (start : holds addr state) (enough : distance addr < passes) :
    (forAddress body stop passes addr state).2 ≠ .running := by
  induction passes generalizing addr state with
  | zero => omega
  | succ passes induction =>
      rw [forAddress]
      by_cases inside : addr < stop
      · rw [if_pos inside]
        cases pass : body addr state with
        | mk after choice =>
            cases choice with
            | ok next =>
                obtain ⟨kept, less⟩ :=
                  closer addr state after next inside start pass
                exact induction next after kept (by omega)
            | error exit => exact nofun
      · rw [if_neg inside]
        exact nofun

/-- The addresses and states in which the passes of a loop begin, and those in
which they stop. -/
inductive Visits (body : Address → State → State × Except Exit Address)
    (stop : Address) : Address → State → Address → State → Prop where
  | here (addr : Address) (state : State) :
      Visits body stop addr state addr state
  | next {addr next last : Address} {state after final : State} :
      addr < stop → body addr state = (after, .ok next) →
      Visits body stop next after last final →
      Visits body stop addr state last final

section Passes

variable {body : Address → State → State × Except Exit Address}
  {stop : Address}

omit [DecidableLT Address] in
/-- What every pass keeps holds wherever one begins. -/
theorem Visits.keeps (holds : Address → State → Prop)
    (continues : ∀ addr state after next, addr < stop → holds addr state →
      body addr state = (after, .ok next) → holds next after)
    {addr last : Address} {state final : State}
    (visits : Visits body stop addr state last final)
    (start : holds addr state) : holds last final := by
  induction visits with
  | here => exact start
  | next inside pass rest induction =>
      exact induction (continues _ _ _ _ inside start pass)

/-- A pass of a loop that ends leads to a loop that ends. -/
theorem pass_of_ended {passes : Nat} {addr : Address} {state final : State}
    (ended : forAddress body stop passes addr state = (final, .ended))
    (inside : addr < stop) :
    ∃ after next left, body addr state = (after, .ok next) ∧ left < passes ∧
      forAddress body stop left next after = (final, .ended) := by
  cases passes with
  | zero =>
      rw [forAddress, if_pos inside] at ended
      cases ended
  | succ passes =>
      rw [forAddress, if_pos inside] at ended
      cases pass : body addr state with
      | mk after choice =>
          rw [pass] at ended
          cases choice with
          | ok next => exact ⟨after, next, passes, rfl, by omega, ended⟩
          | error exit => cases ended

theorem final_of_ended {passes : Nat} {addr : Address} {state final : State}
    (ended : forAddress body stop passes addr state = (final, .ended))
    (outside : ¬addr < stop) : final = state := by
  cases passes with
  | zero =>
      rw [forAddress] at ended
      exact (Prod.mk.inj ended).1.symm
  | succ passes =>
      rw [forAddress, if_neg outside] at ended
      exact (Prod.mk.inj ended).1.symm

/-- From each pass on, the loop ends as it does. -/
theorem Visits.rest {addr last : Address} {state between final : State}
    (visits : Visits body stop addr state last between) {passes : Nat}
    (ended : forAddress body stop passes addr state = (final, .ended)) :
    ∃ left, forAddress body stop left last between = (final, .ended) := by
  induction visits generalizing passes with
  | here => exact ⟨passes, ended⟩
  | next inside pass rest induction =>
      obtain ⟨after, next, left, found, -, ended⟩ :=
        pass_of_ended ended inside
      obtain ⟨rfl, same⟩ := Prod.mk.inj (found.symm.trans pass)
      obtain rfl := Except.ok.inj same
      exact induction ended

/-- A loop that ends visits the state it ends in. -/
theorem visits_of_ended {passes : Nat} {addr : Address}
    {state final : State}
    (ended : forAddress body stop passes addr state = (final, .ended)) :
    ∃ last, ¬last < stop ∧ Visits body stop addr state last final := by
  induction passes using Nat.strongRecOn generalizing addr state with
  | ind passes induction =>
      by_cases inside : addr < stop
      · obtain ⟨after, next, left, pass, fewer, ended⟩ :=
          pass_of_ended ended inside
        obtain ⟨last, outside, visits⟩ := induction left fewer ended
        exact ⟨last, outside, .next inside pass visits⟩
      · rw [final_of_ended ended inside]
        exact ⟨addr, inside, .here addr state⟩

omit [DecidableLT Address] in
/-- Some pass leads from where a condition holds to where it does not. -/
theorem Visits.crosses (before : Address → Prop) {addr last : Address}
    {state final : State} (visits : Visits body stop addr state last final)
    (start : before addr) (finish : ¬before last) :
    ∃ place between after next, Visits body stop addr state place between ∧
      place < stop ∧ body place between = (after, .ok next) ∧
      before place ∧ ¬before next := by
  induction visits with
  | here => exact absurd start finish
  | @next _ next _ _ _ _ inside pass rest induction =>
      by_cases holds : before next
      · obtain ⟨place, between, later, beyond, visits, crossing⟩ :=
          induction holds finish
        exact ⟨place, between, later, beyond, .next inside pass visits,
          crossing⟩
      · exact ⟨_, _, _, next, .here _ _, inside, pass, start, holds⟩

end Passes

end AddressLoop
