import OpenSearchOperator.Effects.Server

/-! Reasoning about executions that may be cut short at any call. -/

namespace OpenSearchOperator.Effects

variable {I : Interface} {S : Server I} {α β : Type}

variable {ε : Type}

/-- Whatever permitted events answer its calls, the program is in a world that
satisfies `inv` each time it waits for an answer, and in one that satisfies
`post` when it is done. -/
def Safe (permit : Event S → Prop) (inv : World S → Prop) :
    Program I α → (α → World S → Prop) → World S → Prop
  | .done value, post, w => post value w
  | .call op next, post, w => inv w ∧ ∀ choice, permit (w.arrive choice op) →
      Safe permit inv (next (w.arrive choice op).reply) post (w.extend (w.arrive choice op))

variable {permit : Event S → Prop} {inv : World S → Prop} {op : I.Call}

@[simp] theorem safe_done (value : α) (post : α → World S → Prop) (w : World S) :
    Safe permit inv (.done value) post w ↔ post value w := Iff.rfl

@[simp] theorem safe_pure (value : α) (post : α → World S → Prop) (w : World S) :
    Safe permit inv (pure value) post w ↔ post value w := Iff.rfl

theorem safe_call {next : I.Reply op → Program I α} {post : α → World S → Prop} {w : World S} :
    Safe permit inv (.call op next) post w ↔ inv w ∧ ∀ choice, permit (w.arrive choice op) →
      Safe permit inv (next (w.arrive choice op).reply) post (w.extend (w.arrive choice op)) :=
  Iff.rfl

theorem safe_bind (program : Program I α) (rest : α → Program I β)
    (post : β → World S → Prop) (w : World S) : Safe permit inv (program >>= rest) post w ↔
      Safe permit inv program (fun value => Safe permit inv (rest value) post) w := by
  induction program generalizing w with
  | done value => rfl
  | call op next ih =>
    simp only [Program.call_bind, safe_call]
    constructor
    · intro ⟨now, later⟩
      exact ⟨now, fun choice allowed => (ih _ _).mp (later choice allowed)⟩
    · intro ⟨now, later⟩
      exact ⟨now, fun choice allowed => (ih _ _).mpr (later choice allowed)⟩

variable {program : Program I α} {w : World S}

theorem Safe.mono {weak strong : α → World S → Prop} (safe : Safe permit inv program strong w)
    (implies : ∀ value w, strong value w → weak value w) : Safe permit inv program weak w := by
  induction program generalizing w with
  | done value => exact implies value w safe
  | call op next ih => exact ⟨safe.1, fun choice allowed => ih _ (safe.2 choice allowed)⟩

variable {post : α → World S → Prop} {rest : Except ε α → Program I β}

theorem Safe.weaken {strong : World S → Prop} (safe : Safe permit strong program post w)
    (implies : ∀ w, strong w → inv w) : Safe permit inv program post w := by
  induction program generalizing w with
  | done value => exact safe
  | call op next ih =>
    exact ⟨implies w safe.1, fun choice allowed => ih _ (safe.2 choice allowed)⟩

theorem Safe.narrow {narrow : Event S → Prop} (safe : Safe permit inv program post w)
    (implies : ∀ e, narrow e → permit e) : Safe narrow inv program post w := by
  induction program generalizing w with
  | done value => exact safe
  | call op next ih =>
    exact ⟨safe.1, fun choice allowed => ih _ (safe.2 choice (implies _ allowed))⟩

theorem Safe.bind {rest : α → Program I β} {middle : α → World S → Prop}
    {post : β → World S → Prop} (first : Safe permit inv program middle w)
    (second : ∀ value w, middle value w → Safe permit inv (rest value) post w) :
    Safe permit inv (program >>= rest) post w :=
  (safe_bind program rest post w).mpr (first.mono second)

theorem Safe.bindOk {program : Program I (Except ε α)}
    {middle : Except ε α → World S → Prop} {post : β → World S → Prop}
    (first : Safe permit inv program middle w)
    (failed : ∀ err w, middle (.error err) w → Safe permit inv (rest (.error err)) post w)
    (fine : ∀ value w, middle (.ok value) w → Safe permit inv (rest (.ok value)) post w) :
    Safe permit inv (program >>= rest) post w :=
  first.bind fun outcome => Except.casesOn outcome failed fine

/-- `K` holds, and `fact` of what was returned without an error. -/
abbrev OkWith (K : World S → Prop) (fact : α → World S → Prop) (outcome : Except ε α)
    (w : World S) : Prop :=
  K w ∧ ∀ value, outcome = .ok value → fact value w

theorem Safe.thenOk {program : Program I (Except ε α)}
    {K : World S → Prop} {fact : α → World S → Prop} {post : β → World S → Prop}
    (first : Safe permit inv program (OkWith K fact) w)
    (failed : ∀ err w, K w → Safe permit inv (rest (.error err)) post w)
    (fine : ∀ value w, K w → fact value w → Safe permit inv (rest (.ok value)) post w) :
    Safe permit inv (program >>= rest) post w :=
  first.bindOk (fun err w holds => failed err w holds.1)
    fun value w holds => fine value w holds.1 (holds.2 value rfl)

theorem Safe.bindNone {program : Program I (Option α)} {rest : Option α → Program I β}
    {middle : Option α → World S → Prop} {post : β → World S → Prop}
    (first : Safe permit inv program middle w)
    (failed : ∀ err w, middle (some err) w → Safe permit inv (rest (some err)) post w)
    (fine : ∀ w, middle none w → Safe permit inv (rest none) post w) :
    Safe permit inv (program >>= rest) post w :=
  first.bind fun outcome => Option.casesOn outcome fine failed

theorem Safe.bindDone {program : Program I (α × Option ε)} {rest : α × Option ε → Program I β}
    {middle : α × Option ε → World S → Prop} {post : β → World S → Prop}
    (first : Safe permit inv program middle w)
    (failed : ∀ value err w, middle (value, some err) w →
      Safe permit inv (rest (value, some err)) post w)
    (fine : ∀ value w, middle (value, none) w → Safe permit inv (rest (value, none)) post w) :
    Safe permit inv (program >>= rest) post w :=
  first.bind fun (value, outcome) => Option.casesOn outcome (fine value) (failed value)

theorem Safe.and {first second : α → World S → Prop} (one : Safe permit inv program first w)
    (other : Safe permit inv program second w) :
    Safe permit inv program (fun value w => first value w ∧ second value w) w := by
  induction program generalizing w with
  | done value => exact ⟨one, other⟩
  | call op next ih =>
    exact ⟨one.1, fun choice allowed => ih _ (one.2 choice allowed) (other.2 choice allowed)⟩

theorem Safe.returns {expected : α → Prop} (safe : Safe permit inv program post w)
    (returns : program.Returns expected) :
    Safe permit inv program (fun value w => expected value ∧ post value w) w := by
  induction program generalizing w with
  | done value => exact ⟨returns, safe⟩
  | call op next ih =>
    exact ⟨safe.1, fun choice allowed => ih _ (safe.2 choice allowed) (returns _)⟩

theorem safe_unconstrained (program : Program I α) (w : World S) :
    Safe permit (fun _ => True) program (fun _ _ => True) w := by
  induction program generalizing w with
  | done value => trivial
  | call op next ih => exact ⟨trivial, fun _ _ => ih _ _⟩

abbrev Ends (permit : Event S → Prop) (program : Program I α) (post : α → World S → Prop)
    (w : World S) : Prop :=
  Safe permit (fun _ => True) program post w

theorem Ends.imp {P : Prop} (safe : P → Ends permit program post w) :
    Ends permit program (fun value w => P → post value w) w := by
  by_cases holds : P
  · exact (safe holds).mono fun _ _ here _ => here
  · exact (safe_unconstrained program w).mono fun _ _ _ here => absurd here holds

variable {allowed : I.Call → Prop}

theorem Safe.of_calls (only : program.OnlyCalls allowed)
    (safe : Safe (fun e => permit e ∧ allowed e.op) inv program post w) :
    Safe permit inv program post w := by
  induction program generalizing w with
  | done value => exact safe
  | call op next ih =>
    refine ⟨safe.1, fun choice permitted => ?_⟩
    exact ih _ (only.2 _) (safe.2 choice ⟨permitted, only.1⟩)

theorem Safe.along {J : World S → Prop} (safe : Safe permit inv program post w) (holds : J w)
    (kept : ∀ w choice op, permit (w.arrive choice op) → J w → J (w.extend (w.arrive choice op))) :
    Safe permit inv program (fun value w => post value w ∧ J w) w := by
  induction program generalizing w with
  | done value => exact ⟨safe, holds⟩
  | call op next ih =>
    refine ⟨safe.1, fun choice permitted => ?_⟩
    exact ih _ (safe.2 choice permitted) (kept w choice op permitted holds)

theorem Safe.recorded (safe : Safe permit inv program post w) (only : program.OnlyCalls allowed) :
    Safe permit inv program (fun value w' => post value w' ∧
      ∃ recent, w'.past = recent ++ w.past ∧ ∀ e ∈ recent, allowed e.op) w := by
  induction program generalizing w with
  | done value => exact ⟨safe, [], rfl, by simp⟩
  | call op next ih =>
    refine ⟨safe.1, fun choice permitted => ?_⟩
    apply (ih _ (safe.2 choice permitted) (only.2 _)).mono
    intro value w' ⟨holds, recent, past, all⟩
    refine ⟨holds, recent ++ [w.arrive choice op], ?_, ?_⟩
    · rw [past, List.append_assoc]
      rfl
    intro e member
    rcases List.mem_append.mp member with later | now
    · exact all e later
    · rw [List.mem_singleton.mp now]
      exact only.1

theorem Safe.outcome (safe : Safe permit inv program post w) (choices : List S.Choice)
    (permitted : ∀ e ∈ (exec program choices w).2.past, permit e) :
    (∀ value ∈ (exec program choices w).1, post value (exec program choices w).2) ∧
      ((exec program choices w).1 = none → inv (exec program choices w).2) := by
  induction program generalizing choices w with
  | done value =>
    constructor
    · intro other same
      cases same
      exact safe
    · intro impossible
      cases impossible
  | call op next ih =>
    cases choices with
    | nil =>
      constructor
      · intro value impossible
        cases impossible
      · intro _
        exact safe.1
    | cons choice choices =>
      have arrived : permit (w.arrive choice op) := permitted _
        ((exec_past (next (w.arrive choice op).reply) choices
          (w.extend (w.arrive choice op))).subset List.mem_cons_self)
      exact ih _ (safe.2 choice arrived) choices permitted

/-- A world property that a program keeps at each of its cut points and at its end. -/
theorem Safe.always (safe : Safe permit inv program (fun _ => inv) w) (choices : List S.Choice)
    (permitted : ∀ e ∈ (exec program choices w).2.past, permit e) :
    inv (exec program choices w).2 := by
  have outcome := safe.outcome choices permitted
  cases result : (exec program choices w).1 with
  | none => exact outcome.2 result
  | some value => exact outcome.1 value result

def EachPass (program : Program I α) (ready : World S → Prop) :
    List (List S.Choice) → World S → Prop
  | [], _ => True
  | choices :: passes, w =>
    ready w ∧ EachPass program ready passes (exec program choices w).2

theorem eachPass_trivial (program : Program I α) (passes : List (List S.Choice)) (w : World S) :
    EachPass program (fun _ => True) passes w := by
  induction passes generalizing w with
  | nil => trivial
  | cons choices passes ih => exact ⟨trivial, ih _⟩

/-- The run rule: a world property that every pass keeps at each of its cut
points, and at its end, holds after any number of passes. -/
theorem runs_keep_ready {ready : World S → Prop}
    (pass : ∀ w, inv w → ready w → Safe permit inv program (fun _ => inv) w)
    (passes : List (List S.Choice)) (w : World S) (start : inv w)
    (each : EachPass program ready passes w)
    (permitted : ∀ e ∈ (runs program passes w).past, permit e) : inv (runs program passes w) := by
  induction passes generalizing w with
  | nil => exact start
  | cons choices passes ih =>
    have earlier : ∀ e ∈ (exec program choices w).2.past, permit e := by
      intro e member
      exact permitted e ((runs_past program passes _).subset member)
    exact ih _ ((pass w start each.1).always choices earlier) each.2 permitted

theorem runs_keep (pass : ∀ w, inv w → Safe permit inv program (fun _ => inv) w)
    (passes : List (List S.Choice)) (w : World S) (start : inv w)
    (permitted : ∀ e ∈ (runs program passes w).past, permit e) : inv (runs program passes w) :=
  runs_keep_ready (fun w holds _ => pass w holds) passes w start (eachPass_trivial _ _ _) permitted

def CutsOnly (program : Program I α) (fine : World S → Prop) : List (List S.Choice) → World S → Prop
  | [], _ => True
  | choices :: passes, w => ((exec program choices w).1 = none → fine (exec program choices w).2) ∧
      CutsOnly program fine passes (exec program choices w).2

instance decidableCutsOnly (program : Program I α) (fine : World S → Prop) [DecidablePred fine] :
    (passes : List (List S.Choice)) → (w : World S) → Decidable (CutsOnly program fine passes w)
  | [], _ => isTrue trivial
  | choices :: passes, w =>
    haveI := decidableCutsOnly program fine passes (exec program choices w).2
    haveI : Decidable ((exec program choices w).1 = none) :=
      decidable_of_iff _ Option.isNone_iff_eq_none
    inferInstanceAs (Decidable (_ ∧ _))

/-- A property that passes give up and restore before they return also holds after any
number of passes, if it is settled where they are cut. -/
theorem runs_restore {K fine : World S → Prop}
    (pass : ∀ w, K w → Safe permit inv program (fun _ => K) w)
    (settled : ∀ w, inv w → fine w → K w) (passes : List (List S.Choice)) (w : World S)
    (start : K w) (cuts : CutsOnly program fine passes w)
    (permitted : ∀ e ∈ (runs program passes w).past, permit e) : K (runs program passes w) := by
  induction passes generalizing w with
  | nil => exact start
  | cons choices passes ih =>
    have earlier : ∀ e ∈ (exec program choices w).2.past, permit e := by
      intro e member
      exact permitted e ((runs_past program passes _).subset member)
    have outcome := (pass w start).outcome choices earlier
    refine ih _ ?_ cuts.2 permitted
    cases result : (exec program choices w).1 with
    | none => exact settled _ (outcome.2 result) (cuts.1 result)
    | some value => exact outcome.1 value result

def Quiet (S : Server I) (op : I.Call) : Prop :=
  ∀ choice state, (S.answer choice state op).2 = state

/-- Other parties' moves, and calls that change nothing, keep `K`. -/
def Stable (permit : Event S → Prop) (K : World S → Prop) : Prop :=
  ∀ w choice op, permit (w.arrive choice op) → K w →
    (w.arrive choice op).after = (w.arrive choice op).before →
    K (w.extend (w.arrive choice op))

variable {K L : World S → Prop}

theorem Stable.and (first : Stable permit K) (second : Stable permit L) :
    Stable permit (fun w => K w ∧ L w) :=
  fun w choice op allowed holds unchanged =>
    ⟨first w choice op allowed holds.1 unchanged, second w choice op allowed holds.2 unchanged⟩

theorem Quiet.after_eq (quiet : Quiet S op) (w : World S) (choice : S.Choice) :
    (w.arrive choice op).after = (w.arrive choice op).before := quiet _ _

/-- A reading call: the continuation sees a reply computed from the state it
continues in. -/
theorem Safe.read {next : I.Reply op → Program I α} (stable : Stable permit K)
    (quiet : Quiet S op) (implied : ∀ w, K w → inv w) (holds : K w)
    (rest : ∀ choice w', K w' → permit (w.arrive choice op) → w' = w.extend (w.arrive choice op) →
      Safe permit inv (next (S.answer choice w'.state op).1) post w') :
    Safe permit inv (.call op next) post w := by
  refine ⟨implied w holds, fun choice allowed => ?_⟩
  have unchanged := quiet.after_eq w choice
  have kept := stable w choice op allowed holds unchanged
  have again := rest choice _ kept allowed rfl
  rw [World.extend_state, unchanged] at again
  exact again

theorem Safe.reads (stable : Stable permit K) (implied : ∀ w, K w → inv w)
    (quiet : program.OnlyCalls (Quiet S)) (holds : K w) :
    Safe permit inv program (fun _ => K) w := by
  induction program generalizing w with
  | done value => exact holds
  | call op next ih =>
    refine ⟨implied w holds, fun choice allowed => ih _ (quiet.2 _) ?_⟩
    exact stable w choice op allowed holds (quiet.1.after_eq w choice)

def Keeps (permit : Event S → Prop) (inv K : World S → Prop) (program : Program I α) : Prop :=
  ∀ w, K w → Safe permit inv program (fun _ => K) w

abbrev Retains (permit : Event S → Prop) (K : World S → Prop) (program : Program I α) : Prop :=
  Keeps permit (fun _ => True) K program

theorem keeps_pure (value : α) : Keeps permit inv K (pure value : Program I α) :=
  fun _ holds => holds

theorem Keeps.bind {rest : α → Program I β} (first : Keeps permit inv K program)
    (second : ∀ value, Keeps permit inv K (rest value)) : Keeps permit inv K (program >>= rest) :=
  fun w holds => Safe.bind (first w holds) fun value w holds => second value w holds

theorem Keeps.bindOk {program : Program I (Except ε α)}
    (first : Keeps permit inv K program) (failed : ∀ err, Keeps permit inv K (rest (.error err)))
    (fine : ∀ value, Keeps permit inv K (rest (.ok value))) :
    Keeps permit inv K (program >>= rest) :=
  first.bind fun outcome => Except.casesOn outcome failed fine

theorem Keeps.or (first : Keeps permit inv K program) (second : Keeps permit inv L program) :
    Keeps permit inv (fun w => K w ∨ L w) program := by
  rintro w (holds | holds)
  · exact (first w holds).mono fun _ _ => Or.inl
  · exact (second w holds).mono fun _ _ => Or.inr

theorem keeps_of_calls (implied : ∀ w, K w → inv w) (only : program.OnlyCalls allowed)
    (kept : ∀ w choice op, allowed op → permit (w.arrive choice op) → K w →
      K (w.extend (w.arrive choice op))) : Keeps permit inv K program := by
  intro w holds
  induction program generalizing w with
  | done value => exact holds
  | call op next ih =>
    refine ⟨implied w holds, fun choice allowed => ?_⟩
    exact ih _ (only.2 _) _ (kept w choice op only.1 allowed holds)

def OneCall (S : Server I) (program : Program I α)
    (effect : S.Choice → S.State → α → S.State → Prop) : Prop :=
  ∃ (op : I.Call) (result : I.Reply op → α),
    program = .call op (fun reply => .done (result reply)) ∧
      ∀ choice s, effect choice s (result (S.answer choice s op).1) (S.answer choice s op).2

theorem OneCall.safe {effect : S.Choice → S.State → α → S.State → Prop}
    (one : OneCall S program effect) (holds : inv w) :
    Safe permit inv program (fun value later => ∃ e : Event S, permit e ∧ e.prior = w.state ∧
      later = w.extend e ∧ effect e.choice e.before value e.after) w := by
  obtain ⟨op, result, rfl, effect⟩ := one
  refine ⟨holds, fun choice permitted => ?_⟩
  exact ⟨w.arrive choice op, permitted, rfl, rfl, effect choice _⟩

end OpenSearchOperator.Effects
