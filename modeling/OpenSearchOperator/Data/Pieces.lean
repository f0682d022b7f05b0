import Mathlib.Algebra.Ring.Nat
import Mathlib.Data.List.SplitLengths

/-! Sequences that are written one after the other, and the same sequence cut at other places. -/

namespace OpenSearchOperator.Data

abbrev Bytes := List UInt8

variable {α : Type} {whole : List α} {lengths : List Nat} {first second : List (List α)}

structure CutInto (whole : List α) (lengths : List Nat) (pieces : List (List α)) : Prop where
  pieces : pieces = lengths.splitLengths whole
  total : lengths.sum = whole.length

def Recut (first second : List (List α)) : Prop :=
  ∃ whole cuts others, CutInto whole cuts first ∧ CutInto whole others second ∧ cuts ≠ others

theorem splitLengths_flatten {pieces : List (List α)} :
    (pieces.map List.length).splitLengths pieces.flatten = pieces := by
  induction pieces with
  | nil => rfl
  | cons piece pieces ih => simpa using ih

theorem cutInto_iff {pieces : List (List α)} :
    CutInto whole lengths pieces ↔ pieces.flatten = whole ∧ pieces.map List.length = lengths := by
  constructor
  · rintro ⟨rfl, total⟩
    exact ⟨List.flatten_splitLengths _ _ total.ge, List.map_splitLengths_length _ _ total.le⟩
  · rintro ⟨rfl, rfl⟩
    exact ⟨splitLengths_flatten.symm, List.length_flatten.symm⟩

theorem recut_iff : Recut first second ↔ first.flatten = second.flatten ∧
      first.map List.length ≠ second.map List.length := by
  simp only [Recut, cutInto_iff]
  constructor
  · rintro ⟨whole, cuts, others, ⟨rfl, rfl⟩, ⟨same, rfl⟩, differ⟩
    exact ⟨same.symm, differ⟩
  · rintro ⟨same, differ⟩
    exact ⟨_, _, _, ⟨rfl, rfl⟩, ⟨same.symm, rfl⟩, differ⟩

theorem flatten_eq_iff : first.flatten = second.flatten ↔ first = second ∨ Recut first second := by
  rw [recut_iff, List.eq_iff_flatten_eq]
  grind

end OpenSearchOperator.Data
