import OpenSearchOperator.Effects.Safety

/-! Attempts that are repeated while their result asks for it. -/

namespace OpenSearchOperator.Effects

variable {I : Interface} {S : Server I} {ρ σ : Type}

/-- The attempts share what they change; the number counts those that may follow
the first one. -/
def retry (again : ρ → Bool) (attempt : σ → Program I (ρ × σ)) : Nat → σ → Program I (ρ × σ)
  | 0, shared => attempt shared
  | retries + 1, shared => do
      let (result, shared) ← attempt shared
      if again result then retry again attempt retries shared else return (result, shared)

variable {permit : Event S → Prop} {inv : World S → Prop} {J : σ → World S → Prop}
  {post : ρ × σ → World S → Prop}
  {again : ρ → Bool} {attempt : σ → Program I (ρ × σ)}

/-- An attempt that asks to be repeated has to restore what it started from. -/
theorem safe_retry
    (each : ∀ shared w, J shared w → Safe permit inv (attempt shared) (fun result w =>
      post result w ∧ (again result.1 = true → J result.2 w)) w)
    (retries : Nat) (shared : σ) (w : World S) (holds : J shared w) :
    Safe permit inv (retry again attempt retries shared) post w := by
  induction retries generalizing shared w with
  | zero => exact (each shared w holds).mono fun _ _ outcome => outcome.1
  | succ retries ih =>
    apply Safe.bind (each shared w holds)
    intro ⟨result, shared⟩ w ⟨done, repeated⟩
    by_cases more : again result = true
    · simp only [more, if_true]
      exact ih shared w (repeated more)
    · simp only [more]
      exact done

theorem safe_retry_restored {J : World S → Prop}
    (each : ∀ shared w, J w → Safe permit inv (attempt shared) post w)
    (restored : ∀ result w, post result w → J w)
    (retries : Nat) (shared : σ) {w : World S} (holds : J w) :
    Safe permit inv (retry again attempt retries shared) post w :=
  safe_retry (J := fun _ => J) (fun shared w holds => (each shared w holds).mono
    fun result w outcome => ⟨outcome, fun _ => restored result w outcome⟩) retries shared w holds

theorem onlyCalls_retry {allowed : I.Call → Prop}
    (each : ∀ shared, (attempt shared).OnlyCalls allowed)
    (retries : Nat) (shared : σ) : (retry again attempt retries shared).OnlyCalls allowed := by
  induction retries generalizing shared with
  | zero => exact each shared
  | succ retries ih =>
    apply (each shared).bind
    intro ⟨result, shared⟩
    by_cases more : again result = true
    · simp only [more, if_true]
      exact ih shared
    · simp only [more]
      trivial

end OpenSearchOperator.Effects
