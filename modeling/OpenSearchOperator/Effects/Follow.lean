import OpenSearchOperator.Effects.Safety

/-! What a program does when one choice drives all of its calls. -/

namespace OpenSearchOperator.Effects

variable {I : Interface} {S : Server I} {α β : Type} (choice : S.Choice)

def follow : Program I α → S.State → α × S.State
  | .done value, s => (value, s)
  | .call op next, s =>
    follow (next (S.answer choice (S.disturb choice s) op).1)
      (S.answer choice (S.disturb choice s) op).2

@[simp] theorem follow_pure (value : α) (s : S.State) :
    follow choice (pure value : Program I α) s = (value, s) := rfl

@[simp] theorem follow_ask (op : I.Call) (s : S.State) :
    follow choice (Program.ask op) s = S.answer choice (S.disturb choice s) op := rfl

@[simp] theorem follow_bind (program : Program I α) (rest : α → Program I β) (s : S.State) :
    follow choice (program >>= rest) s =
      follow choice (rest (follow choice program s).1) (follow choice program s).2 := by
  induction program generalizing s with
  | done value => rfl
  | call op next ih => exact ih _ _

def followTimes (program : Program I α) : Nat → S.State → S.State
  | 0, s => s
  | n + 1, s => followTimes program n (follow choice program s).2

variable {program : Program I α} {allowed : I.Call → Prop}

theorem OneCall.follow {effect : S.Choice → S.State → α → S.State → Prop}
    (one : OneCall S program effect) (choice : S.Choice) (s : S.State) :
    effect choice (S.disturb choice s) (follow choice program s).1 (follow choice program s).2 := by
  obtain ⟨op, result, rfl, effect⟩ := one
  exact effect choice _

/-- What is shown of all permitted executions holds of this one. -/
theorem Safe.follow {permit : Event S → Prop} {inv : World S → Prop} {post : α → World S → Prop}
    {w : World S} (safe : Safe permit inv program post w) (choice : S.Choice)
    (permitted : ∀ w op, permit (World.arrive w choice op)) :
    ∃ past, post (follow choice program w.state).1 ⟨(follow choice program w.state).2, past⟩ := by
  induction program generalizing w with
  | done value => exact ⟨w.past, safe⟩
  | call op next ih => exact ih _ (safe.2 choice (permitted w op))

theorem follow_keeps {K : S.State → Prop} (only : program.OnlyCalls allowed)
    (kept : ∀ s op, allowed op → K s → K (S.answer choice (S.disturb choice s) op).2)
    {s : S.State} (holds : K s) : K (follow choice program s).2 := by
  induction program generalizing s with
  | done value => exact holds
  | call op next ih => exact ih _ (only.2 _) (kept s op only.1 holds)

def followCalls : Program I α → S.State → List I.Call
  | .done _, _ => []
  | .call op next, s =>
    op :: followCalls (next (S.answer choice (S.disturb choice s) op).1)
      (S.answer choice (S.disturb choice s) op).2

theorem followCalls_bind (program : Program I α) (rest : α → Program I β) (s : S.State) :
    followCalls choice (program >>= rest) s = followCalls choice program s ++
      followCalls choice (rest (follow choice program s).1) (follow choice program s).2 := by
  induction program generalizing s with
  | done value => rfl
  | call op next ih => exact congrArg (op :: ·) (ih _ _)

theorem followCalls_allowed (only : program.OnlyCalls allowed) (s : S.State) :
    ∀ op ∈ followCalls choice program s, allowed op := by
  induction program generalizing s with
  | done value => nofun
  | call op next ih =>
    intro other member
    rcases List.mem_cons.mp member with rfl | later
    · exact only.1
    · exact ih _ (only.2 _) _ other later

theorem exec_follow (program : Program I α) (w : World S) :
    ∃ calls, (exec program (List.replicate calls choice) w).1 =
        some (follow choice program w.state).1 ∧
      (exec program (List.replicate calls choice) w).2.state = (follow choice program w.state).2 ∧
      (exec program (List.replicate calls choice) w).2.past.map Event.op =
        (followCalls choice program w.state).reverse ++ w.past.map Event.op := by
  induction program generalizing w with
  | done value => exact ⟨0, rfl, rfl, rfl⟩
  | call op next ih =>
    obtain ⟨calls, result, state, past⟩ :=
      ih (w.arrive choice op).reply (w.extend (w.arrive choice op))
    refine ⟨calls + 1, result, state, past.trans ?_⟩
    rw [followCalls, List.reverse_cons, List.append_assoc]
    rfl

end OpenSearchOperator.Effects
