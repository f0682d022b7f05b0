import OpenSearchOperator.Effects.History
import OpenSearchOperator.Effects.Safety

/-! What a program was told. The history of a run holds the calls of many programs
one after the other; a conversation is the part of it that belongs to one. -/

namespace OpenSearchOperator.Effects

variable {I : Interface} {S : Server I} {α β : Type}

/-- The program made exactly the calls of these events, oldest first, and the
replies led it to this result. -/
def Conversation : Program I α → List (Event S) → α → Prop
  | .done value, events, result => events = [] ∧ value = result
  | .call op next, events, result => ∃ prior choice more, events = ⟨prior, choice, op⟩ :: more ∧
      Conversation (next (Event.reply ⟨prior, choice, op⟩)) more result

theorem conversation_bind (program : Program I α) (rest : α → Program I β)
    (events : List (Event S)) (result : β) :
    Conversation (program >>= rest) events result ↔ ∃ first second value,
      events = first ++ second ∧ Conversation program first value ∧
        Conversation (rest value) second result := by
  induction program generalizing events with
  | done value =>
    constructor
    · intro told
      exact ⟨[], events, value, rfl, ⟨rfl, rfl⟩, told⟩
    intro ⟨first, second, other, split, ⟨silent, same⟩, told⟩
    subst split silent same
    exact told
  | call op next ih =>
    constructor
    · intro ⟨prior, choice, more, split, told⟩
      obtain ⟨first, second, value, rfl, here, there⟩ := (ih _ more).mp told
      exact ⟨_ :: first, second, value, split, ⟨prior, choice, first, rfl, here⟩, there⟩
    · intro ⟨first, second, value, split, ⟨prior, choice, more, shape, here⟩, there⟩
      subst shape
      refine ⟨prior, choice, more ++ second, split, ?_⟩
      exact (ih _ _).mpr ⟨more, second, value, rfl, here, there⟩

theorem conversation_ask {op : I.Call} {events : List (Event S)} {reply : I.Reply op}
    (talk : Conversation (Program.ask op) events reply) : ∃ e, events = [e] ∧ e.op = op := by
  obtain ⟨prior, choice, more, rfl, silent, _⟩ := talk
  subst silent
  exact ⟨_, rfl, rfl⟩

def Ran (allowed : I.Call → Prop) (program : Program I α) (result : α)
    (old new : List (Event S)) : Prop :=
  ∃ events, new = events.reverse ++ old ∧ (∀ e ∈ events, allowed e.op) ∧
    Conversation program events result

def Had (keep : Event S → Prop) (program : Program I α) (result : α) (events : List (Event S))
    (past : List (Event S)) : Prop :=
  Since keep (fun past => ∃ older, past = events.reverse ++ older ∧
    Conversation program events result) past

variable {permit : Event S → Prop} {inv K : World S → Prop} {allowed : I.Call → Prop}

/-- A program whose calls keep `K` leaves its conversation in the history. -/
theorem safe_ran {program : Program I α} (implied : ∀ w, K w → inv w)
    (only : program.OnlyCalls allowed)
    (kept : ∀ w choice op, allowed op → permit (w.arrive choice op) → K w →
      K (w.extend (w.arrive choice op))) (w : World S) (holds : K w) :
    Safe permit inv program (fun result w' =>
      K w' ∧ Ran allowed program result w.past w'.past) w := by
  induction program generalizing w with
  | done value => exact ⟨holds, [], rfl, by simp, rfl, rfl⟩
  | call op next ih =>
    refine ⟨implied w holds, fun choice permitted => ?_⟩
    apply (ih _ (only.2 _) _ (kept w choice op only.1 permitted holds)).mono
    intro result w' ⟨again, events, longer, all, told⟩
    refine ⟨again, w.arrive choice op :: events, ?_, ?_, ?_⟩
    · rw [longer, List.reverse_cons, List.append_assoc]
      rfl
    · intro e member
      rcases List.mem_cons.mp member with rfl | later
      · exact only.1
      · exact all e later
    · exact ⟨w.state, choice, events, rfl, told⟩

end OpenSearchOperator.Effects
