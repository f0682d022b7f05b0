import OpenSearchOperator.Api.Rules

/-! The generic resource reconciler, at the one kind of object whose content
matters here. -/

namespace OpenSearchOperator.Reconcilers

open Api Effects

inductive DesiredState where
  | created
  | present
  | absent
  deriving DecidableEq, Repr

def createIfNotExist (desired : StatefulSet) : Prog (Except Failure (Option StatefulSet)) := do
  match ← getStatefulSet desired.name with
  | .ok current => return .ok (some current)
  | .error .notFound =>
    match ← createStatefulSet desired with
    | .error err => return .error (.api err)
    | .ok _ => return .ok none
  | .error err => return .error (.api err)

def deleteResource (desired : StatefulSet) : Prog (Option Failure) := do
  match ← getStatefulSet desired.name with
  | .error .notFound => return none
  | .error err => return some (.api err)
  | .ok current =>
    match ← deleteStatefulSet current.name .background with
    | .error err => return some (.api err)
    | .ok _ => return none

/-- Recreation on a change of an immutable field is enabled for no reconciler of
the operator, so that the reply to such an update is an error of its own. -/
def updateExisting (current desired : StatefulSet) :
    Prog (Option Result × Option Failure × StatefulSet) := do
  let desired := { desired with labels := desired.labels.merge current.labels }
  match ← calculatePatch current desired with
  | .ok true => return (none, none, desired)
  | _ =>
    let desired := { desired with versioned := true }
    match ← updateStatefulSet desired with
    | .error .immutable => return (none, some .immutableFieldChange, desired)
    | .error err => return (none, some (.api err), desired)
    | .ok _ => return (none, none, desired)

/-- The last component is what has become of the desired object, which is shared
with the caller. -/
def reconcileResource (desired : StatefulSet) :
    DesiredState → Prog (Option Result × Option Failure × StatefulSet)
  | .created => do
      match ← createIfNotExist desired with
      | .error err => return (none, some err, desired)
      | .ok none => return (none, none, { desired with versioned := true })
      | .ok (some _) => return (none, none, desired)
  | .absent => do
      let err ← deleteResource desired
      return (none, err, desired)
  | .present => do
      match ← createIfNotExist desired with
      | .error err => return (none, some err, desired)
      | .ok none => return (none, none, { desired with versioned := true })
      | .ok (some current) =>
        if current.deleting then return (some { requeueAfter := seconds 2 }, none, desired)
        else updateExisting current desired

section Calls

variable {allowed : Call → Prop} {desired : StatefulSet}
  (reading : ∀ name, allowed (.request (.getStatefulSet name)))
  (creating : allowed (.request (.createStatefulSet desired)))
  (comparing : ∀ current desired, allowed (.calculatePatch current desired))
  (updating : ∀ sts, sts.name = desired.name → sts.replicas = desired.replicas →
    allowed (.request (.updateStatefulSet sts)))

include reading creating in
theorem onlyCalls_createIfNotExist : (createIfNotExist desired).OnlyCalls allowed := by
  refine onlyCalls_ask (reading _) fun reply => ?_
  have creates : (createStatefulSet desired >>= fun reply => match reply with
      | .error err => (pure (.error (.api err)) : Prog (Except Failure (Option StatefulSet)))
      | .ok _ => pure (.ok none)).OnlyCalls allowed :=
    onlyCalls_ask creating fun reply => by cases reply <;> trivial
  cases reply with
  | ok current => trivial
  | error err => cases err <;> first | exact creates | trivial

include comparing updating in
theorem onlyCalls_updateExisting (current : StatefulSet) :
    (updateExisting current desired).OnlyCalls allowed := by
  refine onlyCalls_ask (comparing _ _) fun same => ?_
  split
  · trivial
  refine onlyCalls_ask (updating _ rfl rfl) fun reply => ?_
  cases reply with
  | error err => cases err <;> trivial
  | ok _ => trivial

include reading creating comparing updating in
theorem onlyCalls_reconcilePresent : (reconcileResource desired .present).OnlyCalls allowed := by
  apply (onlyCalls_createIfNotExist reading creating).bind
  intro reply
  match reply with
  | .error err => trivial
  | .ok none => trivial
  | .ok (some current) =>
    dsimp only
    split
    · trivial
    · exact onlyCalls_updateExisting comparing updating current

include reading in
theorem onlyCalls_deleteResource
    (deleting : ∀ name, allowed (.request (.deleteStatefulSet name .background))) :
    (deleteResource desired).OnlyCalls allowed := by
  refine onlyCalls_ask (reading _) fun reply => ?_
  cases reply with
  | error err => cases err <;> trivial
  | ok current =>
    exact onlyCalls_ask (deleting _) fun reply => by cases reply <;> trivial

end Calls

section Rules

variable {permit : ApiEvent → Prop} {inv K K' : ApiWorld → Prop}

theorem samePatch_replicas (current desired : StatefulSet)
    (different : current.replicas ≠ desired.replicas) : samePatch current desired = false := by
  have replicas : (desired.replicas == current.replicas) = false := by
    simpa using Ne.symm different
  simp [samePatch, replicas]

theorem safe_calculatePatch (current desired : StatefulSet)
    (different : current.replicas ≠ desired.replicas)
    (implied : ∀ w, K w → inv w) (stable : Stable permit K) (w : ApiWorld) (holds : K w) :
    Safe permit inv (calculatePatch current desired) (fun reply w => K w ∧ reply ≠ .ok true) w := by
  refine Safe.read stable (quiet_calculatePatch current desired) implied holds ?_
  intro choice w' kept _ _
  refine ⟨kept, ?_⟩
  change (answer choice w'.state (.calculatePatch current desired)).1 ≠ .ok true
  rw [answer_calculatePatch, samePatch_replicas current desired different]
  cases choice.outcome <;> simp

theorem safe_sendUpdate (current desired : StatefulSet) {post : Option Failure → ApiWorld → Prop}
    (different : current.replicas ≠ desired.replicas)
    (implied : ∀ w, K w → inv w) (stable : Stable permit K)
    (update : ∀ w, K w → Safe permit inv (updateStatefulSet { desired with
        labels := desired.labels.merge current.labels, versioned := true }) (fun reply w =>
      (∃ err, reply = .error err ∧ ∀ failure, post (some failure) w) ∨
        (reply = .ok () ∧ post none w)) w) (w : ApiWorld) (holds : K w) :
    Safe permit inv (updateExisting current desired) (fun result => post result.2.1) w := by
  let merged := { desired with labels := desired.labels.merge current.labels }
  let sent := { merged with versioned := true }
  apply (safe_calculatePatch current merged different implied stable w holds).bind
  intro reply w ⟨kept, nonempty⟩
  have rest : Safe permit inv (updateStatefulSet sent >>= fun reply => match reply with
      | .error .immutable => (pure (none, some .immutableFieldChange, sent) :
          Prog (Option Result × Option Failure × StatefulSet))
      | .error err => pure (none, some (.api err), sent)
      | .ok _ => pure (none, none, sent)) (fun result => post result.2.1) w := by
    apply (update w kept).bind
    intro reply w outcome
    rcases outcome with ⟨err, rfl, failed⟩ | ⟨rfl, done⟩
    · cases err <;> exact failed _
    · exact done
  match reply, nonempty with
  | .error _, _ => exact rest
  | .ok false, _ => exact rest
  | .ok true, nonempty => exact absurd rfl nonempty

theorem safe_updateExisting {current desired : StatefulSet}
    (different : current.replicas ≠ desired.replicas)
    (implied : ∀ w, K w → inv w) (stable : Stable permit K)
    (updated : ∀ w (e : ApiEvent), K w → e.prior = w.state → permit e →
      Updated e.before e.after { desired with
        labels := desired.labels.merge current.labels, versioned := true } → K' (w.extend e))
    {w : ApiWorld} (holds : K w) : Safe permit inv (updateExisting current desired)
      (fun result w => (result.2.1 = none → K' w) ∧ (K w ∨ K' w)) w := by
  apply @safe_sendUpdate permit inv K current desired
    (fun err w => (err = none → K' w) ∧ (K w ∨ K' w)) different implied stable _ w holds
  intro w kept
  refine safe_request _ (implied w kept) ?_
  intro choice e allowed
  rcases updateStatefulSet_cases w choice { desired with
      labels := desired.labels.merge current.labels, versioned := true } with
    ⟨err, reply, after⟩ | ⟨reply, effect⟩
  · exact Or.inl ⟨err, reply, fun _ => ⟨nofun, Or.inl (stable w choice _ allowed kept after)⟩⟩
  have done := updated w e kept rfl allowed effect
  rcases reply with accepted | missing
  · exact Or.inr ⟨accepted, fun _ => done, Or.inr done⟩
  · exact Or.inl ⟨_, missing, fun _ => ⟨nofun, Or.inr done⟩⟩

section

variable (desired : StatefulSet) {w : ApiWorld} {good : StatefulSet → Prop}

theorem safe_createIfNotExist (there : ∀ w, K w → Witnessed permit w.state → ∃ sts,
      w.state.statefulSets.get desired.name = some sts ∧ good sts)
    (implied : ∀ w, K w → inv w) (stable : Stable permit K) (holds : K w) :
    Safe permit inv (createIfNotExist desired) (fun result w => K w ∧
      ((∃ err, result = .error err) ∨ ∃ sts, result = .ok (some sts) ∧ good sts)) w := by
  apply (safe_getStatefulSet desired.name stable implied holds).bind
  intro reply w ⟨kept, witnessed, answered⟩
  obtain ⟨sts, present, fits⟩ := there w kept witnessed
  rcases answered with ⟨err, rfl, missing⟩ | ⟨found, rfl, same⟩
  · cases err with
    | notFound => exact absurd ((missing rfl).symm.trans present) (by simp)
    | _ => exact ⟨kept, Or.inl ⟨_, rfl⟩⟩
  · have identical : found = sts := Option.some.inj (same.symm.trans present)
    subst identical
    exact ⟨kept, Or.inr ⟨found, rfl, fits⟩⟩

/-- Enforcing the desired content, with another size, on a StatefulSet that exists
and is not being deleted. -/
theorem safe_reconcileUpdated (there : ∀ w, K w → Witnessed permit w.state → ∃ sts,
      w.state.statefulSets.get desired.name = some sts ∧ good sts)
    (fits : ∀ sts, good sts → sts.deleting = false ∧ sts.replicas ≠ desired.replicas)
    (implied : ∀ w, K w → inv w) (stable : Stable permit K)
    (updated : ∀ w (e : ApiEvent) current, K w → good current → e.prior = w.state → permit e →
      Updated e.before e.after { desired with
        labels := desired.labels.merge current.labels, versioned := true } → K' (w.extend e))
    (holds : K w) :
    Safe permit inv (reconcileResource desired .present)
      (fun result w => (result.2.1 = none → K' w) ∧ (K w ∨ K' w)) w := by
  apply (safe_createIfNotExist desired there implied stable holds).bind
  intro result w ⟨kept, outcome⟩
  rcases outcome with ⟨err, rfl⟩ | ⟨sts, rfl, fine⟩
  · exact ⟨nofun, Or.inl kept⟩
  obtain ⟨alive, different⟩ := fits sts fine
  simp only [alive, Bool.false_eq_true, if_false]
  exact safe_updateExisting different implied stable
    (fun w e kept => updated w e sts kept fine) kept

theorem safe_reconcilePresent (there : ∀ w, K w → Witnessed permit w.state → ∃ sts,
      w.state.statefulSets.get desired.name = some sts ∧ sts.deleting = false ∧
      sts.replicas ≠ desired.replicas) (implied : ∀ w, K w → inv w) (stable : Stable permit K)
    (resized : ∀ w (e : ApiEvent), K w → e.prior = w.state → permit e →
      Resized e.before e.after desired.name desired.replicas → K' (w.extend e)) (holds : K w) :
    Safe permit inv (reconcileResource desired .present)
      (fun result w => (result.2.1 = none → K' w) ∧ (K w ∨ K' w)) w :=
  safe_reconcileUpdated desired there (fun _ fine => fine) implied stable
    (fun w e _ kept _ prior allowed updated => resized w e kept prior allowed updated.resized)
    holds

/-- The same where the StatefulSet may be on its way out: then it keeps its size. -/
theorem safe_reconcileResized {deleting : Bool}
    (there : ∀ w, K w → ∃ sts, w.state.statefulSets.get desired.name = some sts ∧
      sts.deleting = deleting ∧ sts.replicas ≠ desired.replicas)
    (implied : ∀ w, K w → inv w) (stable : Stable permit K)
    (resized : ∀ w (e : ApiEvent), K w → e.prior = w.state → permit e →
      Resized e.before e.after desired.name desired.replicas → K' (w.extend e)) (holds : K w) :
    Safe permit inv (reconcileResource desired .present)
      (fun _ w => K w ∨ (deleting = false ∧ K' w)) w := by
  apply (safe_createIfNotExist desired (fun w kept _ => there w kept) implied stable holds).bind
  intro result w ⟨kept, outcome⟩
  rcases outcome with ⟨err, rfl⟩ | ⟨sts, rfl, mark, different⟩
  · exact Or.inl kept
  cases deleting with
  | true =>
    simp only [mark, if_true]
    exact Or.inl kept
  | false =>
    simp only [mark, Bool.false_eq_true, if_false]
    apply (safe_updateExisting different implied stable
      (fun w e kept prior allowed updated => resized w e kept prior allowed updated.resized)
      kept).mono
    intro _ w ⟨_, either⟩
    exact either.imp_right fun done => ⟨trivial, done⟩

theorem safe_reconcileAbsent (implied : ∀ w, K w → inv w) (stable : Stable permit K)
    (removed : ∀ w (e : ApiEvent), K w → e.prior = w.state → permit e →
      Removed e.before e.after desired.name → K' (w.extend e))
    (missing : ∀ w, K w → w.state.statefulSets.get desired.name = none → K' w) (holds : K w) :
    Safe permit inv (reconcileResource desired .absent)
      (fun result w => (result.2.1 = none → K' w) ∧ (K w ∨ K' w)) w := by
  have deleted : Safe permit inv (deleteResource desired)
      (fun err w => (err = none → K' w) ∧ (K w ∨ K' w)) w := by
    refine (safe_getStatefulSet desired.name stable implied holds).bind ?_
    intro reply w ⟨kept, _, answered⟩
    rcases answered with ⟨err, rfl, absent⟩ | ⟨found, rfl, same⟩
    · cases err with
      | notFound => exact ⟨fun _ => missing w kept (absent rfl), Or.inl kept⟩
      | _ => exact ⟨nofun, Or.inl kept⟩
    · have name : found.name = desired.name := w.state.statefulSets.get_key _ _ same
      have deletion : Safe permit inv (deleteStatefulSet found.name .background) (fun reply w =>
          (∃ err, reply = .error err ∧ (K w ∨ K' w)) ∨ (reply = .ok () ∧ K' w)) w := by
        refine safe_request _ (implied w kept) ?_
        intro choice e allowed
        rcases removeStatefulSet_cases w choice found.name with
          ⟨err, reply, after⟩ | ⟨reply, effect⟩
        · exact Or.inl ⟨err, reply, Or.inl (stable w choice _ allowed kept after)⟩
        have done := removed w e kept rfl allowed (name ▸ effect)
        rcases reply with accepted | lost
        · exact Or.inr ⟨accepted, done⟩
        · exact Or.inl ⟨_, lost, Or.inr done⟩
      refine deletion.bind ?_
      intro reply w outcome
      rcases outcome with ⟨err, rfl, either⟩ | ⟨rfl, done⟩
      · exact ⟨nofun, either⟩
      · exact ⟨fun _ => done, Or.inr done⟩
  exact deleted.bind fun err w outcome => outcome

end

end Rules

end OpenSearchOperator.Reconcilers
