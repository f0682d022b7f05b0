import Mathlib.Data.Option.Basic

/-! The lookup of a setting by its path. A key that is missing on the way is skipped, so that
the lookup is exact only where no key before the last one is missing. -/

namespace OpenSearchOperator.Helpers

inductive Setting (α : Type) where
  | leaf (value : α)
  | group (entries : List (String × Setting α))

variable {α : Type}

/-- The loop of `FindByPath`, from the position that it has reached. -/
def findFrom (mobj : List (String × Setting α)) : List String → Option (Setting α)
  | [] => none
  | [key] => mobj.lookup key
  | key :: keys =>
    match mobj.lookup key with
    | none => findFrom mobj keys
    | some (.group subPath) => findFrom subPath keys
    | some (.leaf _) => none

def findByPath (obj : Setting α) (keys : List String) : Option (Setting α) :=
  match obj with
  | .group mobj => findFrom mobj keys
  | .leaf _ => none

/-- The value that the keys lead to, each of them present and all but the last in front of
an object. -/
def Setting.reach : Setting α → List String → Option (Setting α)
  | value, [] => some value
  | .group entries, key :: keys => (entries.lookup key).bind fun value => value.reach keys
  | .leaf _, _ :: _ => none

/-- A key before the last one is in the object that the keys before it lead to. -/
def Setting.Complete (obj : Setting α) (keys : List String) : Prop :=
  ∀ front key rest entries, keys = front ++ key :: rest → rest ≠ [] →
    obj.reach front = some (.group entries) → entries.lookup key ≠ none

/-- A key before the last one is missing where it is looked for, and the lookup goes on with
the rest of the keys in the same object. -/
def Skips (obj : Setting α) (keys : List String) : Prop :=
  ∃ front key rest entries, keys = front ++ key :: rest ∧ rest ≠ [] ∧
    obj.reach front = some (.group entries) ∧ entries.lookup key = none ∧
    findByPath obj keys = findByPath (.group entries) rest

variable {obj value : Setting α} {entries : List (String × Setting α)} {key : String}
  {keys front rest : List String}

theorem reach_append : obj.reach (front ++ keys) = (obj.reach front).bind (·.reach keys) := by
  induction front generalizing obj with
  | nil => cases obj <;> rfl
  | cons first front ih =>
    cases obj with
    | leaf value => rfl
    | group entries => cases found : entries.lookup first <;> simp [Setting.reach, found, ih]

theorem findByPath_skip (more : rest ≠ []) (there : obj.reach front = some (.group entries))
    (missing : entries.lookup key = none) :
    findByPath obj (front ++ key :: rest) = findByPath (.group entries) rest := by
  obtain ⟨next, rest, rfl⟩ := List.exists_cons_of_ne_nil more
  induction front generalizing obj with
  | nil =>
    cases obj with
    | leaf value => cases there
    | group mobj =>
      cases there
      simp [findByPath, findFrom, missing]
  | cons first front ih =>
    cases obj with
    | leaf value => cases there
    | group mobj =>
      obtain ⟨value, found, below⟩ := Option.bind_eq_some_iff.mp there
      obtain ⟨second, others, same⟩ : ∃ second others, front ++ key :: next :: rest =
          second :: others := by cases front <;> simp
      have onwards := ih below
      rw [List.cons_append, same] at *
      cases value with
      | leaf value => cases front <;> cases below
      | group subPath => simpa [findByPath, findFrom, found] using onwards

theorem Setting.Complete.below (complete : (Setting.group entries).Complete (key :: keys))
    (found : entries.lookup key = some value) : value.Complete keys := by
  intro front other rest inner split more there
  apply complete (key :: front) other rest inner (by rw [split]; rfl) more
  rw [reach, found]
  exact there

theorem findByPath_of_complete (complete : obj.Complete (key :: keys)) :
    findByPath obj (key :: keys) = obj.reach (key :: keys) := by
  induction keys generalizing obj key with
  | nil => cases obj <;> simp [findByPath, findFrom, Setting.reach]
  | cons next keys ih =>
    cases obj with
    | leaf value => rfl
    | group mobj =>
      have present := complete [] key (next :: keys) mobj rfl (List.cons_ne_nil _ _) rfl
      obtain ⟨value, found⟩ := Option.ne_none_iff_exists'.mp present
      have onwards := ih (complete.below found)
      cases value with
      | leaf value => simp [findByPath, findFrom, Setting.reach, found]
      | group subPath => simpa [findByPath, findFrom, Setting.reach, found] using onwards

/-- The lookup is exact where no key before the last one is missing. Where one is, the path
leads nowhere, but the lookup skips the key. -/
theorem find_by_path_exact (obj : Setting α) (key : String) (keys : List String) :
    (obj.Complete (key :: keys) → ∀ value, findByPath obj (key :: keys) = some value ↔
      obj.reach (key :: keys) = some value) ∧
    (¬ obj.Complete (key :: keys) → obj.reach (key :: keys) = none ∧ Skips obj (key :: keys)) := by
  constructor
  · intro complete value
    rw [findByPath_of_complete complete]
  · intro incomplete
    simp only [Setting.Complete, not_forall, not_not] at incomplete
    obtain ⟨front, other, rest, entries, split, more, there, missing⟩ := incomplete
    rw [split]
    refine ⟨?_, front, other, rest, entries, rfl, more, there, missing,
      findByPath_skip more there missing⟩
    rw [reach_append, there]
    simp [Setting.reach, missing]

/-- The intermediate key `routing` is missing, but there is a value behind the next one. -/
theorem skipped_key_found :
    findByPath (.group [("cluster", .group [("name", .leaf "logs-0")])])
        ["cluster", "routing", "name"] = some (.leaf "logs-0") ∧
      (Setting.group [("cluster", .group [("name", .leaf "logs-0")])]).reach
        ["cluster", "routing", "name"] = none :=
  ⟨rfl, rfl⟩

end OpenSearchOperator.Helpers
