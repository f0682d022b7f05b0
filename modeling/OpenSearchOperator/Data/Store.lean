import Mathlib.Data.List.Basic
import Mathlib.Data.List.Nodup

/-! A collection of objects that each carry their own key, no two the same. -/

namespace OpenSearchOperator.Data

@[ext]
structure Store (α κ : Type) (key : α → κ) where
  items : List α
  distinct : (items.map key).Nodup

namespace Store

variable {α κ : Type} [DecidableEq κ] {key : α → κ} {x : α} {k : κ} {store : Store α κ key}
  {items : List α}

def empty : Store α κ key := ⟨[], List.nodup_nil⟩

def get (store : Store α κ key) (k : κ) : Option α :=
  store.items.find? (fun x => decide (key x = k))

def remove (store : Store α κ key) (k : κ) : Store α κ key :=
  ⟨store.items.filter (fun x => decide (key x ≠ k)),
    store.distinct.sublist (List.filter_sublist.map key)⟩

private def overwrite (key : α → κ) (x : α) (items : List α) : List α :=
  items.map (fun y => if key y = key x then x else y)

private theorem overwrite_keys : (overwrite key x items).map key = items.map key := by
  simp only [overwrite, List.map_map]
  apply List.map_congr_left
  intro y _
  by_cases same : key y = key x
  · simp [same]
  · simp [same]

def put (store : Store α κ key) (x : α) : Store α κ key :=
  if present : key x ∈ store.items.map key then
    ⟨overwrite key x store.items, by rw [overwrite_keys]; exact store.distinct⟩
  else
    ⟨store.items ++ [x], by
      rw [List.map_append, List.nodup_append]
      refine ⟨store.distinct, List.nodup_singleton _, ?_⟩
      intro a old b new same
      simp only [List.map_cons, List.map_nil, List.mem_singleton] at new
      exact present (new ▸ same ▸ old)⟩

section

variable (store : Store α κ key)

theorem get_key (k : κ) (x : α) (found : store.get k = some x) : key x = k := by
  have := List.find?_some found
  simpa using this

theorem get_mem {k : κ} {x : α} (found : store.get k = some x) :
    x ∈ store.items := List.mem_of_find?_eq_some found

theorem get_of_mem (x : α) (member : x ∈ store.items) : store.get (key x) = some x := by
  obtain ⟨items, distinct⟩ := store
  simp only [get]
  induction items with
  | nil => cases member
  | cons head tail ih =>
    rw [List.map_cons, List.nodup_cons] at distinct
    rcases List.mem_cons.mp member with rfl | later
    · simp
    have other : key head ≠ key x := by
      intro same
      exact distinct.1 (same ▸ List.mem_map_of_mem later)
    rw [List.find?_cons_of_neg (by simpa using other)]
    exact ih distinct.2 later

@[simp] theorem get_remove_self (k : κ) : (store.remove k).get k = none := by
  simp only [get, remove, List.find?_eq_none, List.mem_filter]
  intro x member
  simpa using member.2

theorem get_remove_ne {k other : κ} (different : other ≠ k) :
    (store.remove k).get other = store.get other := by
  simp only [get, remove, List.find?_filter]
  congr 1
  funext x
  by_cases same : key x = other
  · simp [same, different]
  · simp [same]

end

private theorem find_overwrite_self (present : key x ∈ items.map key) :
    (overwrite key x items).find? (fun y => decide (key y = key x)) = some x := by
  induction items with
  | nil => cases present
  | cons head tail ih =>
    by_cases same : key head = key x
    · simp [overwrite, same]
    have later : key x ∈ tail.map key := by
      rcases List.mem_cons.mp present with here | later
      · exact absurd here.symm same
      · exact later
    have rest := ih later
    simp only [overwrite] at rest
    simp [overwrite, same, rest]

private theorem find_overwrite_ne (items : List α) (different : k ≠ key x) :
    (overwrite key x items).find? (fun y => decide (key y = k)) =
      items.find? (fun y => decide (key y = k)) := by
  induction items with
  | nil => rfl
  | cons head tail ih =>
    simp only [overwrite] at ih
    by_cases same : key head = key x
    · simp [overwrite, same, Ne.symm different, ih]
    by_cases hit : key head = k
    · simp [overwrite, hit, different]
    · simp [overwrite, same, hit, ih]

@[simp] theorem get_put_self (store : Store α κ key) (x : α) :
    (store.put x).get (key x) = some x := by
  by_cases present : key x ∈ store.items.map key
  · simp only [put, dif_pos present, get]
    exact find_overwrite_self present
  simp only [put, dif_neg present, get, List.find?_append]
  have none : store.items.find? (fun y => decide (key y = key x)) = none := by
    rw [List.find?_eq_none]
    intro y member
    simp only [decide_eq_true_eq]
    intro same
    exact present (same ▸ List.mem_map_of_mem member)
  simp [none]

theorem get_put_ne (store : Store α κ key) (x : α) (different : k ≠ key x) :
    (store.put x).get k = store.get k := by
  by_cases present : key x ∈ store.items.map key
  · simp only [put, dif_pos present, get]
    exact find_overwrite_ne store.items different
  simp only [put, dif_neg present, get, List.find?_append]
  have miss : [x].find? (fun y => decide (key y = k)) = none := by
    simp [Ne.symm different]
  rw [miss, Option.or_none]

theorem get_put : (store.put x).get k = if k = key x then some x else store.get k := by
  by_cases same : k = key x
  · subst same
    simp
  · rw [if_neg same, get_put_ne store x same]

theorem get_remove {gone : κ} :
    (store.remove gone).get k = if k = gone then none else store.get k := by
  by_cases same : k = gone
  · subst same
    simp
  · rw [if_neg same, get_remove_ne store same]

end Store

end OpenSearchOperator.Data
