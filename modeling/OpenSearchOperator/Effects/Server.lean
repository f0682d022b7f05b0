import OpenSearchOperator.Effects.Program

/-! A server answers calls while other parties change its state. Each answer is
driven by a choice, so that a run is a function of the choices made in it. -/

namespace OpenSearchOperator.Effects

/-- `disturb` is what the other parties do before a call arrives, `answer` what
the server then does with it. -/
structure Server (I : Interface) where
  State : Type
  Choice : Type
  disturb : Choice → State → State
  answer : Choice → State → (op : I.Call) → I.Reply op × State

structure Event {I : Interface} (S : Server I) where
  prior : S.State
  choice : S.Choice
  op : I.Call

variable {I : Interface} {S : Server I} {α : Type} {state : S.State} {e : Event S}

namespace Event

def before (e : Event S) : S.State := S.disturb e.choice e.prior
def reply (e : Event S) : I.Reply e.op := (S.answer e.choice e.before e.op).1
def after (e : Event S) : S.State := (S.answer e.choice e.before e.op).2

end Event

structure World (S : Server I) where
  state : S.State
  past : List (Event S)

namespace World

def arrive (w : World S) (choice : S.Choice) (op : I.Call) : Event S := ⟨w.state, choice, op⟩
def extend (w : World S) (e : Event S) : World S := ⟨e.after, e :: w.past⟩

@[simp] theorem extend_state (w : World S) (e : Event S) : (w.extend e).state = e.after := rfl
@[simp] theorem extend_past (w : World S) (e : Event S) : (w.extend e).past = e :: w.past := rfl
@[simp] theorem arrive_prior (w : World S) (choice : S.Choice) (op : I.Call) :
    (w.arrive choice op).prior = w.state := rfl
@[simp] theorem arrive_op (w : World S) (choice : S.Choice) (op : I.Call) :
    (w.arrive choice op).op = op := rfl
end World

/-- One execution. It stops early, without a result, when the choices run out:
the process that ran the program died between two calls. -/
def exec : Program I α → List S.Choice → World S → Option α × World S
  | .done value, _, w => (some value, w)
  | .call _ _, [], w => (none, w)
  | .call op next, choice :: choices, w =>
    exec (next (w.arrive choice op).reply) choices (w.extend (w.arrive choice op))

def runs (program : Program I α) : List (List S.Choice) → World S → World S
  | [], w => w
  | choices :: passes, w => runs program passes (exec program choices w).2

theorem exec_ask_bind {op : I.Call} {rest : I.Reply op → Program I α} {choice : S.Choice}
    {choices : List S.Choice} {w : World S} : exec (Program.ask op >>= rest) (choice :: choices) w =
      exec (rest (w.arrive choice op).reply) choices (w.extend (w.arrive choice op)) := rfl

theorem exec_past (program : Program I α) (choices : List S.Choice) (w : World S) :
    w.past <:+ (exec program choices w).2.past := by
  induction program generalizing choices w with
  | done value => exact List.suffix_rfl
  | call op next ih =>
    cases choices with
    | nil => exact List.suffix_rfl
    | cons choice choices =>
      exact (List.suffix_cons _ _).trans
        (ih (w.arrive choice op).reply choices (w.extend (w.arrive choice op)))

theorem exec_onto (program : Program I α) (choices : List S.Choice) (state : S.State)
    (past : List (Event S)) : (exec program choices ⟨state, past⟩).2.past =
      (exec program choices ⟨state, []⟩).2.past ++ past := by
  induction program generalizing choices state past with
  | done value => rfl
  | call op next ih =>
    cases choices with
    | nil => rfl
    | cons choice choices =>
      let e : Event S := ⟨state, choice, op⟩
      refine (ih e.reply choices e.after (e :: past)).trans ?_
      rw [List.append_cons]
      exact congrArg (· ++ past) (ih e.reply choices e.after [e]).symm

theorem exec_choices (program : Program I α) (choices : List S.Choice) (w : World S) (e : Event S)
    (happened : e ∈ (exec program choices w).2.past) : e ∈ w.past ∨ e.choice ∈ choices := by
  induction program generalizing choices w with
  | done value => exact Or.inl happened
  | call op next ih =>
    cases choices with
    | nil => exact Or.inl happened
    | cons choice choices =>
      rcases ih _ choices _ happened with earlier | later
      · rcases List.mem_cons.mp earlier with rfl | before
        · exact Or.inr List.mem_cons_self
        · exact Or.inl before
      · exact Or.inr (List.mem_cons_of_mem _ later)

/-- An event of a run was in the past already, or one of the run's choices drove it. -/
theorem runs_choices (program : Program I α) (passes : List (List S.Choice)) (w : World S)
    (e : Event S) (happened : e ∈ (runs program passes w).past) :
    e ∈ w.past ∨ ∃ choices ∈ passes, e.choice ∈ choices := by
  induction passes generalizing w with
  | nil => exact Or.inl happened
  | cons choices passes ih =>
    rcases ih _ happened with earlier | ⟨other, member, driven⟩
    · rcases exec_choices program choices w e earlier with before | now
      · exact Or.inl before
      · exact Or.inr ⟨choices, List.mem_cons_self, now⟩
    · exact Or.inr ⟨other, List.mem_cons_of_mem _ member, driven⟩

theorem runs_past (program : Program I α) (passes : List (List S.Choice)) (w : World S) :
    w.past <:+ (runs program passes w).past := by
  induction passes generalizing w with
  | nil => exact List.suffix_rfl
  | cons choices passes ih =>
    exact (exec_past program choices w).trans (ih (exec program choices w).2)

def Linked (state : S.State) : List (Event S) → Prop
  | [] => True
  | e :: older => state = e.after ∧ Linked e.prior older

theorem exec_linked (program : Program I α) (choices : List S.Choice) (w : World S)
    (linked : Linked w.state w.past) :
    Linked (exec program choices w).2.state (exec program choices w).2.past := by
  induction program generalizing choices w with
  | done value => exact linked
  | call op next ih =>
    cases choices with
    | nil => exact linked
    | cons choice choices => exact ih _ choices _ ⟨rfl, linked⟩

theorem Linked.prior {later earlier : List (Event S)}
    (linked : Linked state (later ++ e :: earlier)) : Linked e.prior earlier := by
  induction later generalizing state with
  | nil => exact linked.2
  | cons x later ih => exact ih linked.2

theorem Linked.unchanged {β : Type} {newer older : List (Event S)}
    (linked : Linked state (newer ++ e :: older)) (part : S.State → β)
    (kept : ∀ x ∈ newer, part x.after = part x.prior) : part state = part e.after := by
  induction newer generalizing state with
  | nil => exact congrArg part linked.1
  | cons x newer ih =>
    have before := ih linked.2 fun y member => kept y (List.mem_cons_of_mem _ member)
    rw [linked.1, kept x List.mem_cons_self]
    exact before

end OpenSearchOperator.Effects
