import Mathlib.Algebra.BigOperators.Ring.Finset
import Mathlib.Algebra.Order.BigOperators.Group.List
import Mathlib.Data.List.Nodup

/-! Counting the members of a list that fall into one of several groups. -/

namespace OpenSearchOperator.Data

variable {α β κ : Type} [DecidableEq κ] {items : List α} {groups : List β} {p : α → Bool}

theorem countP_key_le_one {key : α → κ} (distinct : (items.map key).Nodup) {k : κ}
    (only : ∀ x ∈ items, p x = true → key x = k) : items.countP p ≤ 1 := by
  have single : (items.map key).count k ≤ 1 := List.nodup_iff_count_le_one.mp distinct k
  rw [List.count, List.countP_map] at single
  have fewer : items.countP p ≤ items.countP ((· == k) ∘ key) := by
    apply List.countP_mono_left
    intro x member chosen
    simpa using only x member chosen
  omega

theorem countP_and_not (p q : α → Bool) (items : List α) :
    items.countP p = items.countP (fun x => p x && q x) + items.countP (fun x => p x && !q x) := by
  induction items with
  | nil => rfl
  | cons x items ih =>
    simp only [List.countP_cons, ih]
    cases p x <;> cases q x <;> simp <;> omega

private theorem sum_indicator {p : β → Bool} :
    (groups.map fun g => if p g = true then 1 else 0).sum = groups.countP p := by
  induction groups with
  | nil => rfl
  | cons g groups ih =>
    rw [List.map_cons, List.sum_cons, ih, List.countP_cons]
    omega

/-- Items that belong to one group at most are not counted twice. -/
theorem sum_countP_le (groups : List β) (belongs : β → α → Bool) (items : List α)
    (once : ∀ x ∈ items, groups.countP (fun g => belongs g x) ≤ 1) :
    (groups.map fun g => items.countP (belongs g)).sum ≤
      items.countP (fun x => groups.any fun g => belongs g x) := by
  induction items with
  | nil => simp
  | cons x items ih =>
    have rest := ih fun y member => once y (List.mem_cons_of_mem _ member)
    have here : groups.countP (fun g => belongs g x) ≤
        if (groups.any fun g => belongs g x) = true then 1 else 0 := by
      split
      · exact once x List.mem_cons_self
      case isFalse outside =>
        rw [Nat.le_zero, List.countP_eq_zero]
        intro g member inside
        exact outside (List.any_eq_true.mpr ⟨g, member, inside⟩)
    simp only [List.countP_cons, List.sum_map_add, sum_indicator]
    omega

theorem countP_any_le_sum {belongs : β → α → Bool} :
    items.countP (fun x => groups.any fun g => belongs g x) ≤
      (groups.map fun g => items.countP (belongs g)).sum := by
  induction items with
  | nil => simp
  | cons x items ih =>
    have here : (if (groups.any fun g => belongs g x) = true then 1 else 0) ≤
        groups.countP (fun g => belongs g x) := by
      split
      case isTrue inside =>
        obtain ⟨g, member, belongs⟩ := List.any_eq_true.mp inside
        exact List.countP_pos_iff.mpr ⟨g, member, belongs⟩
      · exact Nat.zero_le _
    simp only [List.countP_cons, List.sum_map_add, sum_indicator]
    omega

theorem countP_eq_iff {q : α → Bool} (implies : ∀ x ∈ items, p x = true → q x = true) :
    items.countP p = items.countP q ↔ ∀ x ∈ items, q x = true → p x = true := by
  have both : items.countP p = items.countP (fun x => q x && p x) := by
    apply List.countP_congr
    intro x member
    rw [Bool.and_eq_true]
    exact ⟨fun has => ⟨implies x member has, has⟩, And.right⟩
  rw [both, countP_and_not q p items, Nat.left_eq_add, List.countP_eq_zero]
  refine forall₂_congr fun x member => ?_
  cases q x <;> cases p x <;> simp

end OpenSearchOperator.Data
