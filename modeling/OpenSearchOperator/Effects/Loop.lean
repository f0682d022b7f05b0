import OpenSearchOperator.Effects.Safety

/-! Loops that handle one item after the other and end at the first error. -/

namespace OpenSearchOperator.Effects

variable {I : Interface} {S : Server I} {ι ε : Type}

def eachUntilError (handle : ι → Program I (Option ε)) : List ι → Program I (Option ε)
  | [] => pure none
  | item :: items => do
      match ← handle item with
      | some err => return some err
      | none => eachUntilError handle items

variable {handle : ι → Program I (Option ε)}

theorem onlyCalls_eachUntilError {allowed : I.Call → Prop}
    (each : ∀ item, (handle item).OnlyCalls allowed) {items : List ι} :
    (eachUntilError handle items).OnlyCalls allowed := by
  induction items with
  | nil => trivial
  | cons item items ih =>
    apply (each item).bindNone
    · exact fun _ => trivial
    exact ih

variable {permit : Event S → Prop} {inv K : World S → Prop} {handled : ι → World S → Prop}

theorem keeps_eachUntilError (each : ∀ item, Keeps permit inv K (handle item)) (items : List ι) :
    Keeps permit inv K (eachUntilError handle items) := by
  induction items with
  | nil => exact keeps_pure _
  | cons item items ih =>
    apply Keeps.bind (each item)
    intro err
    cases err with
    | some err => exact keeps_pure _
    | none => exact ih

/-- What handling an item achieves has to survive the handling of the others. -/
theorem safe_eachUntilError (items : List ι)
    (each : ∀ (done : List ι) w, ∀ item ∈ items, K w → (∀ other ∈ done, handled other w) →
      Safe permit inv (handle item)
        (fun err w => K w ∧ (∀ other ∈ done, handled other w) ∧ (err = none → handled item w)) w)
    (done : List ι) (w : World S) (holds : K w) (before : ∀ item ∈ done, handled item w) :
    Safe permit inv (eachUntilError handle items) (fun err w =>
      K w ∧ (∀ item ∈ done, handled item w) ∧ (err = none → ∀ item ∈ items, handled item w)) w := by
  induction items generalizing done w with
  | nil => exact ⟨holds, before, fun _ _ impossible => by cases impossible⟩
  | cons item items ih =>
    apply Safe.bind (each done w item List.mem_cons_self holds before)
    intro err w ⟨holds, before, now⟩
    cases err with
    | some err => exact ⟨holds, before, nofun⟩
    | none =>
      have longer : ∀ other ∈ item :: done, handled other w :=
        List.forall_mem_cons.mpr ⟨now rfl, before⟩
      have rest := ih (fun done w other member => each done w other (List.mem_cons_of_mem _ member))
      apply (rest (item :: done) w holds longer).mono
      intro err w ⟨holds, longer, later⟩
      obtain ⟨first, before⟩ := List.forall_mem_cons.mp longer
      exact ⟨holds, before, fun fine => List.forall_mem_cons.mpr ⟨first, later fine⟩⟩

end OpenSearchOperator.Effects
