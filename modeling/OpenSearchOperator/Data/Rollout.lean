import Mathlib.Tactic.Common

/-! A rollout works through its items in the order of their rank, one at a time. -/

namespace OpenSearchOperator.Data

inductive Stage where
  | waiting
  | working
  | done
  deriving DecidableEq, Repr

namespace Rollout

variable {ι : Type} (items : List ι) (rank : ι → Nat)

/-- What one move may do to the stages of the items. -/
inductive Step (old new : ι → Stage) : Prop
  | stay (same : ∀ j ∈ items, new j = old j)
  | start (i : ι) (member : i ∈ items) (waiting : old i = .waiting)
      (idle : ∀ j ∈ items, old j ≠ .working)
      (earlier : ∀ j ∈ items, rank j < rank i → old j = .done)
      (now : new i = .working) (others : ∀ j ∈ items, j ≠ i → new j = old j)
  | complete (i : ι) (member : i ∈ items) (working : old i = .working)
      (now : new i = .done) (others : ∀ j ∈ items, j ≠ i → new j = old j)
  | reset (fresh : ∀ j ∈ items, new j = .waiting)

/-- One item at most is being worked on, and an item's turn comes when all items of
a lower rank are done. -/
structure InOrder (stage : ι → Stage) : Prop where
  single : ∀ i ∈ items, ∀ j ∈ items, stage i = .working → stage j = .working → i = j
  order : ∀ i ∈ items, stage i ≠ .waiting → ∀ j ∈ items, rank j < rank i → stage j = .done

variable {items rank} {old new : ι → Stage}

theorem inOrder_of_waiting (fresh : ∀ j ∈ items, new j = .waiting) : InOrder items rank new := by
  constructor
  · intro i member _ _ working
    rw [fresh i member] at working
    cases working
  · intro i member begun
    exact absurd (fresh i member) begun

theorem Step.inOrder (step : Step items rank old new) (before : InOrder items rank old) :
    InOrder items rank new := by
  cases step with
  | stay same =>
    constructor
    · intro i first j second left right
      rw [same i first] at left
      rw [same j second] at right
      exact before.single i first j second left right
    · intro i first begun j second lower
      rw [same i first] at begun
      rw [same j second]
      exact before.order i first begun j second lower
  | start i member waiting idle earlier now others =>
    have only : ∀ j ∈ items, new j = .working → j = i := by
      intro j listed working
      by_contra other
      rw [others j listed other] at working
      exact idle j listed working
    constructor
    · intro j first k second left right
      rw [only j first left, only k second right]
    intro j first begun k second lower
    by_cases same : j = i
    · subst same
      have done := earlier k second lower
      have other : k ≠ j := by
        intro equal
        rw [equal] at lower
        exact Nat.lt_irrefl _ lower
      rw [others k second other]
      exact done
    · rw [others j first same] at begun
      have done := before.order j first begun k second lower
      have other : k ≠ i := by
        intro equal
        rw [equal, waiting] at done
        cases done
      rw [others k second other]
      exact done
  | complete i member working now others =>
    have still : ∀ j ∈ items, new j = .working → old j = .working ∧ j ≠ i := by
      intro j listed busy
      have other : j ≠ i := by
        intro equal
        rw [equal, now] at busy
        cases busy
      rw [others j listed other] at busy
      exact ⟨busy, other⟩
    constructor
    · intro j first k second left right
      exact before.single j first k second (still j first left).1 (still k second right).1
    intro j first begun k second lower
    have before_begun : old j ≠ .waiting := by
      by_cases same : j = i
      · rw [same, working]
        exact nofun
      · rw [others j first same] at begun
        exact begun
    have done := before.order j first before_begun k second lower
    by_cases same : k = i
    · rw [same]
      exact now
    · rw [others k second same]
      exact done
  | reset fresh => exact inOrder_of_waiting fresh

end Rollout

end OpenSearchOperator.Data
