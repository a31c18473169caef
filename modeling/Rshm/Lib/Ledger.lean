import Mathlib.Data.List.Perm.Basic

/-!
# Ledgers of acquired and released resources

A ledger records every acquisition and every release of a run, so that a
release of what was never acquired, a second release and a missing release
all show as a difference of two counts.
-/

universe u

structure Ledger (Resource : Type u) where
  acquired : List Resource
  released : List Resource
  deriving DecidableEq, Repr

namespace Ledger

variable {Resource : Type u}

def empty : Ledger Resource := ⟨[], []⟩

def acquire (ledger : Ledger Resource) (resource : Resource) :
    Ledger Resource :=
  { ledger with acquired := resource :: ledger.acquired }

def release (ledger : Ledger Resource) (resource : Resource) :
    Ledger Resource :=
  { ledger with released := resource :: ledger.released }

/-- Releases a list of resources, the first one first. -/
def releaseAll (ledger : Ledger Resource) :
    List Resource → Ledger Resource
  | [] => ledger
  | resource :: resources => (ledger.release resource).releaseAll resources

/-- Each acquisition has been released exactly once, and nothing else has
been released. -/
def Balanced (ledger : Ledger Resource) : Prop :=
  ledger.released.Perm ledger.acquired

@[simp] theorem acquire_acquired (ledger : Ledger Resource)
    (resource : Resource) :
    (ledger.acquire resource).acquired = resource :: ledger.acquired := rfl

@[simp] theorem acquire_released (ledger : Ledger Resource)
    (resource : Resource) :
    (ledger.acquire resource).released = ledger.released := rfl

@[simp] theorem release_acquired (ledger : Ledger Resource)
    (resource : Resource) :
    (ledger.release resource).acquired = ledger.acquired := rfl

@[simp] theorem release_released (ledger : Ledger Resource)
    (resource : Resource) :
    (ledger.release resource).released = resource :: ledger.released := rfl

@[simp] theorem releaseAll_acquired (ledger : Ledger Resource)
    (resources : List Resource) :
    (ledger.releaseAll resources).acquired = ledger.acquired := by
  induction resources generalizing ledger with
  | nil => rfl
  | cons resource resources induction =>
      rw [releaseAll, induction]
      rfl

theorem mem_releaseAll_released {ledger : Ledger Resource}
    {resources : List Resource} {resource : Resource} :
    resource ∈ (ledger.releaseAll resources).released ↔
      resource ∈ resources ∨ resource ∈ ledger.released := by
  induction resources generalizing ledger with
  | nil => simp [releaseAll]
  | cons first resources induction =>
      rw [releaseAll, induction]
      simp only [release_released, List.mem_cons]
      constructor
      · rintro (later | rfl | before)
        · exact .inl (.inr later)
        · exact .inl (.inl rfl)
        · exact .inr before
      · rintro ((rfl | later) | before)
        · exact .inr (.inl rfl)
        · exact .inl later
        · exact .inr (.inr before)

/-- What is acquired and never released shows in the balance. -/
theorem not_balanced_of_leak {ledger : Ledger Resource} {resource : Resource}
    (acquired : resource ∈ ledger.acquired)
    (kept : resource ∉ ledger.released) : ¬ledger.Balanced := by
  intro balanced
  exact kept (balanced.mem_iff.mpr acquired)

/-- What has been acquired is what has been released and the resources of a
list, with their multiplicities. -/
def Holding (ledger : Ledger Resource) (held : List Resource) : Prop :=
  ledger.acquired.Perm (held ++ ledger.released)

section Holding

variable {ledger : Ledger Resource} {held other : List Resource}
variable {resource : Resource}

theorem holding_empty : (empty : Ledger Resource).Holding [] :=
  List.Perm.refl _

theorem Holding.perm (holding : ledger.Holding held)
    (same : held.Perm other) : ledger.Holding other :=
  holding.trans (same.append_right _)

theorem Holding.acquire (holding : ledger.Holding held) :
    (ledger.acquire resource).Holding (resource :: held) :=
  holding.cons resource

theorem Holding.release (holding : ledger.Holding (resource :: held)) :
    (ledger.release resource).Holding held :=
  holding.trans List.perm_middle.symm

theorem Holding.releaseAll {resources : List Resource}
    (holding : ledger.Holding (resources ++ held)) :
    (ledger.releaseAll resources).Holding held := by
  induction resources generalizing ledger with
  | nil => exact holding
  | cons resource resources induction => exact induction holding.release

/-- A ledger is balanced if nothing is held any more. -/
theorem Holding.balanced_iff (holding : ledger.Holding held) :
    ledger.Balanced ↔ held = [] := by
  constructor
  · intro balanced
    have lengths := holding.length_eq
    rw [List.length_append, balanced.length_eq] at lengths
    apply List.eq_nil_of_length_eq_zero
    omega
  · rintro rfl
    exact holding.symm

end Holding

variable [DecidableEq Resource]

instance (ledger : Ledger Resource) : Decidable ledger.Balanced :=
  inferInstanceAs (Decidable (List.Perm _ _))

theorem balanced_iff_count {ledger : Ledger Resource} :
    ledger.Balanced ↔ ∀ resource,
      ledger.released.count resource = ledger.acquired.count resource :=
  List.perm_iff_count

/-- So does what is released more often than it was acquired. -/
theorem not_balanced_of_excess {ledger : Ledger Resource}
    {resource : Resource}
    (excess : ledger.acquired.count resource <
      ledger.released.count resource) : ¬ledger.Balanced := by
  intro balanced
  have even := balanced_iff_count.mp balanced resource
  omega

theorem count_releaseAll_released (ledger : Ledger Resource)
    (resources : List Resource) (resource : Resource) :
    (ledger.releaseAll resources).released.count resource =
      resources.count resource + ledger.released.count resource := by
  induction resources generalizing ledger with
  | nil => simp [releaseAll]
  | cons first resources induction =>
      rw [releaseAll, induction]
      simp only [release_released, List.count_cons]
      omega

end Ledger
