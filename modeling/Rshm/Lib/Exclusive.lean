import Mathlib.Init

/-!
# Exclusive ownership

Owners hold items, each live item has at most one owner, and what is held is
live.  The rules say how the relation may change: a hold is given up, moves to
another owner, or a fresh item gets its first owner.
-/

universe u v

variable {Owner : Type u} {Item : Type v}

structure Exclusive (holds : Owner → Item → Prop) (live : Item → Prop) :
    Prop where
  alive : ∀ owner item, holds owner item → live item
  once : ∀ owner other item, holds owner item → holds other item →
    owner = other

namespace Exclusive

variable {holds holds' : Owner → Item → Prop} {live live' : Item → Prop}

/-- Holds are given up; the items stay live. -/
theorem drop (exclusive : Exclusive holds live)
    (fewer : ∀ owner item, holds' owner item → holds owner item) :
    Exclusive holds' live where
  alive := by
    intro owner item held
    exact exclusive.alive owner item (fewer owner item held)
  once := by
    intro owner other item held again
    exact exclusive.once owner other item (fewer owner item held)
      (fewer other item again)

/-- An item that nobody holds any more may die. -/
theorem free (exclusive : Exclusive holds live)
    (kept : ∀ owner item, holds owner item → live' item) :
    Exclusive holds live' where
  alive := kept
  once := exclusive.once

/-- Owners pass on what they hold, each to at most one other. -/
theorem pass (exclusive : Exclusive holds live)
    (gives : Owner → Owner → Prop)
    (moves : ∀ owner item, holds' owner item →
      (holds owner item ∧ ∀ taker, ¬gives owner taker) ∨
        ∃ giver, gives giver owner ∧ holds giver item)
    (single : ∀ giver owner other, gives giver owner → gives giver other →
      owner = other) :
    Exclusive holds' live where
  alive := by
    intro owner item held
    rcases moves owner item held with ⟨before, -⟩ | ⟨giver, -, before⟩
    · exact exclusive.alive owner item before
    · exact exclusive.alive giver item before
  once := by
    intro owner other item held again
    rcases moves owner item held with ⟨before, keeps⟩ | ⟨giver, gives, before⟩
    · rcases moves other item again with
        ⟨before', -⟩ | ⟨giver', gives', before'⟩
      · exact exclusive.once owner other item before before'
      · have same := exclusive.once owner giver' item before before'
        exact absurd (same ▸ gives') (keeps other)
    · rcases moves other item again with
        ⟨before', keeps'⟩ | ⟨giver', gives', before'⟩
      · have same := exclusive.once other giver item before' before
        exact absurd (same ▸ gives) (keeps' owner)
      · have same := exclusive.once giver giver' item before before'
        exact single giver owner other gives (same ▸ gives')

/-- A fresh item gets its first owner. -/
theorem acquire (exclusive : Exclusive holds live) (taker : Owner)
    (fresh : Item) (dead : ¬live fresh)
    (lives : ∀ item, live item ∨ item = fresh → live' item)
    (moves : ∀ owner item, holds' owner item →
      holds owner item ∨ owner = taker ∧ item = fresh) :
    Exclusive holds' live' where
  alive := by
    intro owner item held
    rcases moves owner item held with before | ⟨-, new⟩
    · exact lives item (.inl (exclusive.alive owner item before))
    · exact lives item (.inr new)
  once := by
    intro owner other item held again
    rcases moves owner item held with before | ⟨taken, new⟩
    · rcases moves other item again with before' | ⟨taken', new'⟩
      · exact exclusive.once owner other item before before'
      · have alive := exclusive.alive owner item before
        rw [new'] at alive
        exact absurd alive dead
    · rcases moves other item again with before' | ⟨taken', new'⟩
      · have alive := exclusive.alive other item before'
        rw [new] at alive
        exact absurd alive dead
      · rw [taken, taken']

end Exclusive
