import OpenSearchOperator.Effects.Safety

/-! Programs that are run one after the other, each to its end. -/

namespace OpenSearchOperator.Effects

variable {I : Interface} {S : Server I} {ι α : Type} (program : ι → Program I α)
  (choices : ι → List S.Choice) {permit : Event S → Prop} {items : List ι}

def inTurn : List ι → World S → World S
  | [], w => w
  | item :: items, w => inTurn items (exec (program item) (choices item) w).2

def AllReturn : List ι → World S → Prop
  | [], _ => True
  | item :: items, w => (exec (program item) (choices item) w).1.isSome = true ∧
      AllReturn items (exec (program item) (choices item) w).2

instance decidableAllReturn : (items : List ι) → (w : World S) →
    Decidable (AllReturn program choices items w)
  | [], _ => isTrue trivial
  | item :: items, w =>
    haveI := decidableAllReturn items (exec (program item) (choices item) w).2
    inferInstanceAs (Decidable (_ ∧ _))

theorem inTurn_past (items : List ι) (w : World S) :
    w.past <:+ (inTurn program choices items w).past := by
  induction items generalizing w with
  | nil => exact List.suffix_rfl
  | cons item items ih =>
    exact (exec_past (program item) (choices item) w).trans (ih _)

/-- What each program makes hold at its end holds at the end of the sequence; in
between it may be given up. -/
theorem inTurn_keep {K : World S → Prop} (each : ∀ item ∈ items, ∀ w, K w →
      Ends permit (program item) (fun _ => K) w)
    (w : World S) (start : K w) (returned : AllReturn program choices items w)
    (permitted : ∀ e ∈ (inTurn program choices items w).past, permit e) :
    K (inTurn program choices items w) := by
  induction items generalizing w with
  | nil => exact start
  | cons item items ih =>
    have earlier : ∀ e ∈ (exec (program item) (choices item) w).2.past, permit e :=
      fun e member => permitted e ((inTurn_past program choices items _).subset member)
    have outcome := (each item List.mem_cons_self w start).outcome (choices item) earlier
    obtain ⟨value, finished⟩ := Option.isSome_iff_exists.mp returned.1
    exact ih (fun other member => each other (List.mem_cons_of_mem _ member)) _
      (outcome.1 value finished) returned.2 permitted

def AllYield (good : α → Prop) : List ι → World S → Prop
  | [], _ => True
  | item :: items, w => (∃ value ∈ (exec (program item) (choices item) w).1, good value) ∧
      AllYield good items (exec (program item) (choices item) w).2

instance decidableAllYield (good : α → Prop) [DecidablePred good] : (items : List ι) →
    (w : World S) → Decidable (AllYield program choices good items w)
  | [], _ => isTrue trivial
  | item :: items, w =>
    haveI := decidableAllYield good items (exec (program item) (choices item) w).2
    inferInstanceAs (Decidable (_ ∧ _))

/-- The refinement rule: where each program that succeeds does to what is seen of the state
what an abstract step does, the sequence does what the steps do one after the other. -/
theorem inTurn_refines {β : Type} {good : α → Prop} (view : S.State → β) (step : β → ι → β)
    (each : ∀ item ∈ items, ∀ w : World S, Ends permit (program item)
      (fun value later => good value → view later.state = step (view w.state) item) w)
    (w : World S) (succeeded : AllYield program choices good items w)
    (permitted : ∀ e ∈ (inTurn program choices items w).past, permit e) :
    view (inTurn program choices items w).state = items.foldl step (view w.state) := by
  induction items generalizing w with
  | nil => rfl
  | cons item items ih =>
    have earlier : ∀ e ∈ (exec (program item) (choices item) w).2.past, permit e :=
      fun e member => permitted e ((inTurn_past program choices items _).subset member)
    obtain ⟨value, returned, fine⟩ := succeeded.1
    have stepped := ((each item List.mem_cons_self w).outcome (choices item) earlier).1 value
      returned fine
    rw [List.foldl_cons, ← stepped]
    exact ih (fun other member => each other (List.mem_cons_of_mem _ member)) _ succeeded.2
      permitted

end OpenSearchOperator.Effects
