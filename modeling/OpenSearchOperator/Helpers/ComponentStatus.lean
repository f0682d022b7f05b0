import OpenSearchOperator.Api.Objects

/-! The helpers on the list of component statuses in the custom resource. -/

namespace OpenSearchOperator.Helpers

open Api

def componentStatusEqual (left right : ComponentStatus) : Bool :=
  left.component == right.component && left.description == right.description &&
  left.status == right.status

/-- Removes the first entry that equals `ss`; the conditions do not count. -/
def removeIt (ss : ComponentStatus) (slice : List ComponentStatus) : List ComponentStatus :=
  slice.eraseP (fun v => componentStatusEqual v ss)

def replace (remove add : ComponentStatus) (slice : List ComponentStatus) : List ComponentStatus :=
  removeIt remove slice ++ [add]

/-- `RemoveIt` shifts the array of the slice it is given. This is what that slice,
whose length stays the same, holds afterwards: its last entry twice. -/
def removeItInPlace (ss : ComponentStatus) (slice : List ComponentStatus) : List ComponentStatus :=
  if slice.any (fun v => componentStatusEqual v ss) then
    removeIt ss slice ++ slice.getLast?.toList
  else slice

/-- What the slice given to `Replace` holds afterwards: the new entry lands in the
place that the removal freed, or beyond the end of the slice. -/
def replaceInPlace (remove add : ComponentStatus) (slice : List ComponentStatus) :
    List ComponentStatus :=
  if slice.any (fun v => componentStatusEqual v remove) then replace remove add slice else slice

def getByDescriptionAndComponent (left right : ComponentStatus) : Bool :=
  left.description == right.description && left.component == right.component

def getByComponent (left right : ComponentStatus) : Bool := left.component == right.component

def findFirstPartial (arr : List ComponentStatus) (item : ComponentStatus)
    (predicator : ComponentStatus → ComponentStatus → Bool) : ComponentStatus × Bool :=
  match arr.find? (fun itemInArr => predicator itemInArr item) with
  | some itemInArr => (itemInArr, true)
  | none => (item, false)

def findAllPartial (arr : List ComponentStatus) (item : ComponentStatus)
    (predicator : ComponentStatus → ComponentStatus → Bool) : List ComponentStatus :=
  arr.filter (fun itemInArr => predicator itemInArr item)

/-- Some node pool has an upgrade entry that is neither `Upgraded` nor `Finished`. -/
def isUpgradeInProgress (status : ClusterStatus) : Bool :=
  (findAllPartial status.componentsStatus ⟨"Upgrader", "", "", []⟩ getByComponent).any
    (fun foundStatus => foundStatus.status != "Upgraded" && foundStatus.status != "Finished")

variable {ss remove add x : ComponentStatus} {slice : List ComponentStatus}

theorem mem_of_mem_removeIt (member : x ∈ removeIt ss slice) : x ∈ slice :=
  List.mem_of_mem_eraseP member

theorem mem_replace (member : x ∈ replace remove add slice) : x ∈ slice ∨ x = add := by
  rcases List.mem_append.mp member with kept | new
  · exact Or.inl (mem_of_mem_removeIt kept)
  · exact Or.inr (List.mem_singleton.mp new)

/-- A selection to which no entry equal to the removed one belongs stays the same. -/
theorem filter_removeIt {keep : ComponentStatus → Bool}
    (apart : ∀ x, componentStatusEqual x ss = true → keep x = false) :
    (removeIt ss slice).filter keep = slice.filter keep := by
  induction slice with
  | nil => rfl
  | cons x slice ih =>
    by_cases equal : componentStatusEqual x ss = true
    · simp [removeIt, equal, apart x equal]
    have kept : removeIt ss (x :: slice) = x :: removeIt ss slice := by
      simp [removeIt, equal]
    rw [kept, List.filter_cons, List.filter_cons, ih]

theorem countP_removeIt : (removeIt ss slice).countP (componentStatusEqual · ss) =
    slice.countP (componentStatusEqual · ss) - 1 := by
  induction slice with
  | nil => rfl
  | cons x slice ih =>
    by_cases equal : componentStatusEqual x ss = true
    · simp [removeIt, equal]
    have kept : removeIt ss (x :: slice) = x :: removeIt ss slice := by
      simp [removeIt, equal]
    simp [kept, equal, ih]

theorem mem_removeIt_of_ne (other : x.component ≠ ss.component) :
    x ∈ removeIt ss slice ↔ x ∈ slice := by
  apply List.mem_eraseP_of_neg
  simp [componentStatusEqual, other]

theorem mem_replace_of_ne (other : x.component ≠ remove.component)
    (other' : x.component ≠ add.component) : x ∈ replace remove add slice ↔ x ∈ slice := by
  rw [replace, List.mem_append, mem_removeIt_of_ne other, List.mem_singleton]
  constructor
  · intro either
    rcases either with old | rfl
    · exact old
    · exact absurd rfl other'
  · exact Or.inl

theorem findFirstPartial_matches (item : ComponentStatus) :
    (findFirstPartial slice item getByDescriptionAndComponent).1.component = item.component ∧
      (findFirstPartial slice item getByDescriptionAndComponent).1.description =
        item.description := by
  rw [findFirstPartial]
  cases first : slice.find? (getByDescriptionAndComponent · item) with
  | none => exact ⟨rfl, rfl⟩
  | some x =>
    have chosen := List.find?_some first
    simp only [getByDescriptionAndComponent, Bool.and_eq_true, beq_iff_eq] at chosen
    exact ⟨chosen.2, chosen.1⟩

theorem getLast?_removeItInPlace : (removeItInPlace ss slice).getLast? = slice.getLast? := by
  rw [removeItInPlace]
  split
  case isTrue some_equal =>
    cases slice with
    | nil => cases some_equal
    | cons x slice => rw [List.getLast?_cons]; simp
  case isFalse => rfl

theorem mem_of_mem_removeItInPlace (member : x ∈ removeItInPlace ss slice) : x ∈ slice := by
  rw [removeItInPlace] at member
  split at member
  · rcases List.mem_append.mp member with kept | last
    · exact mem_of_mem_removeIt kept
    · rw [Option.mem_toList] at last
      exact List.mem_of_getLast? last
  · exact member

end OpenSearchOperator.Helpers
