import Mathlib.Data.List.Basic

/-! Past-time properties of a history that lists its newest event first. -/

namespace OpenSearchOperator.Effects

variable {E : Type}

/-- `mark` held of the history at some point, and every event after it is kept. -/
def Since (keep : E → Prop) (mark : List E → Prop) (past : List E) : Prop :=
  ∃ recent older, past = recent ++ older ∧ mark older ∧ ∀ e ∈ recent, keep e

def Throughout (relation : E → List E → Prop) : List E → Prop
  | [] => True
  | e :: past => relation e past ∧ Throughout relation past

variable {keep : E → Prop} {mark : List E → Prop} {relation : E → List E → Prop} {past : List E}
  {e : E}

theorem since_mark (now : mark past) : Since keep mark past :=
  ⟨[], past, rfl, now, by simp⟩

theorem Since.cons (earlier : Since keep mark past) (kept : keep e) :
    Since keep mark (e :: past) := by
  obtain ⟨recent, older, rfl, marked, all⟩ := earlier
  refine ⟨e :: recent, older, rfl, marked, ?_⟩
  intro x member
  rcases List.mem_cons.mp member with rfl | later
  · exact kept
  · exact all x later

theorem since_nil : Since keep mark [] ↔ mark [] := by
  constructor
  · intro ⟨recent, older, split, marked, _⟩
    rw [(List.append_eq_nil_iff.mp split.symm).2] at marked
    exact marked
  · exact since_mark

theorem since_cons :
    Since keep mark (e :: past) ↔ mark (e :: past) ∨ keep e ∧ Since keep mark past := by
  constructor
  · intro ⟨recent, older, split, marked, all⟩
    cases recent with
    | nil =>
      rw [List.nil_append] at split
      exact Or.inl (split ▸ marked)
    | cons head recent =>
      obtain ⟨rfl, rfl⟩ := List.cons.inj split
      have later : ∀ x ∈ recent, keep x := fun x member => all x (List.mem_cons_of_mem _ member)
      exact Or.inr ⟨all e List.mem_cons_self, recent, older, rfl, marked, later⟩
  · intro either
    rcases either with now | ⟨kept, earlier⟩
    · exact since_mark now
    · exact earlier.cons kept

instance decidableSince [DecidablePred keep] [DecidablePred mark] :
    (past : List E) → Decidable (Since keep mark past)
  | [] => decidable_of_iff _ since_nil.symm
  | _ :: past =>
    haveI := decidableSince past
    decidable_of_iff _ since_cons.symm

theorem Since.append (earlier : Since keep mark past) (recent : List E)
    (kept : ∀ e ∈ recent, keep e) : Since keep mark (recent ++ past) := by
  induction recent with
  | nil => exact earlier
  | cons e recent ih =>
    have rest := ih fun x member => kept x (List.mem_cons_of_mem _ member)
    exact rest.cons (kept e List.mem_cons_self)

theorem Since.mono {weaker : E → Prop} (earlier : Since keep mark past)
    (implies : ∀ e, keep e → weaker e) : Since weaker mark past := by
  obtain ⟨recent, older, split, marked, all⟩ := earlier
  exact ⟨recent, older, split, marked, fun e member => implies e (all e member)⟩

instance decidableThroughout [∀ e earlier, Decidable (relation e earlier)] :
    (past : List E) → Decidable (Throughout relation past)
  | [] => isTrue trivial
  | e :: past =>
    haveI := decidableThroughout past
    inferInstanceAs (Decidable (relation e past ∧ Throughout relation past))

theorem Throughout.mono {weaker : E → List E → Prop} (all : Throughout relation past)
    (implies : ∀ e earlier, relation e earlier → weaker e earlier) : Throughout weaker past := by
  induction past with
  | nil => trivial
  | cons e past ih => exact ⟨implies e past all.1, ih all.2⟩

theorem Throughout.append {older : List E} (all : Throughout relation past)
    (before : Throughout relation older)
    (longer : ∀ e earlier, relation e earlier → relation e (earlier ++ older)) :
    Throughout relation (past ++ older) := by
  induction past with
  | nil => exact before
  | cons e past ih => exact ⟨longer e past all.1, ih all.2⟩

theorem Throughout.holds (all : Throughout relation past) (later : List E) (e : E)
    (earlier : List E) (split : past = later ++ e :: earlier) : relation e earlier := by
  induction later generalizing past with
  | nil =>
    subst split
    exact all.1
  | cons head tail ih =>
    subst split
    exact ih all.2 rfl

end OpenSearchOperator.Effects
