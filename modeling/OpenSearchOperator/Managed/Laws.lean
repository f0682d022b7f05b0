import OpenSearchOperator.Managed.Resource

/-! What the calls of the controllers do to the resource and to the objects, and the rules
for status updates and for passes that follow from it. -/

namespace OpenSearchOperator.Managed

open Api Effects
open Security (ReferredCluster Verdict)

variable {Spec Doc : Type} {returned : String → Doc → Doc}

def Call.writesResource : Call Spec Doc → Bool
  | .updateResource _ => true
  | .updateResourceStatus _ => true
  | _ => false

def Call.target : Call Spec Doc → Option String
  | .createObject name _ => some name
  | .updateObject name _ _ _ => some name
  | .putObject name _ => some name
  | .deleteObject name => some name
  | _ => none

section Answers

variable {choice : ManagedChoice Spec Doc} {s : ManagedWorld Spec Doc}

variable (choice s) in
theorem answer_cases (op : Call Spec Doc) : (answerCall returned choice s op).2 = s ∨
    (answerCall returned choice s op).2 = (serveCall returned s op).2 := by
  rw [answerCall]
  split
  · exact Or.inr rfl
  · exact Or.inl rfl
  · exact Or.inr rfl

theorem answered {op : Call Spec Doc} {value : op.Payload}
    (told : (answerCall returned choice s op).1 = .ok value) :
    (serveCall returned s op).1 = .ok value ∧
      (answerCall returned choice s op).2 = (serveCall returned s op).2 := by
  rw [answerCall] at told ⊢
  split at told
  · exact ⟨told, rfl⟩
  · cases told
  · cases told

theorem answer_served {op : Call Spec Doc} (served : choice.outcome = .served) :
    answerCall returned choice s op = serveCall returned s op := by
  rw [answerCall, served]

theorem answer_getCluster {cluster : ReferredCluster} (there : s.cluster = some cluster) :
    (answerCall returned choice s .getCluster).1 ≠ .error .notFound ∧
      ∀ other, (answerCall returned choice s .getCluster).1 = .ok other → other = cluster := by
  constructor
  · intro told
    rw [answerCall] at told
    split at told
    · cases (found_notFound told).symm.trans there
    · rename_i fault _
      exact fault_ne_notFound fault (Except.error.inj told)
    · cases told
  · exact fun other told => Option.some.inj ((found_ok (answered told).1).symm.trans there)

theorem setObject_other {objects : String → Option (StoredObject Doc)} {name other : String}
    {object : Option (StoredObject Doc)} (different : other ≠ name) :
    setObject objects name object other = objects other := if_neg different

@[simp] theorem setObject_same (objects : String → Option (StoredObject Doc)) (name : String)
    (object : Option (StoredObject Doc)) : setObject objects name object name = object :=
  if_pos rfl

theorem answer_resource {op : Call Spec Doc} (reads : op.writesResource = false) :
    (answerCall returned choice s op).2.resource = s.resource := by
  have served : (serveCall returned s op).2.resource = s.resource := by
    cases op with
    | updateResource resource => cases reads
    | updateResourceStatus resource => cases reads
    | createObject name document =>
      rw [serveCall]
      split <;> rfl
    | updateObject name sequenceNumber primaryTerm document =>
      rw [serveCall]
      split
      · rfl
      · dsimp only
        split <;> rfl
    | deleteObject name =>
      rw [serveCall]
      split <;> rfl
    | _ => rfl
  rcases answer_cases choice s op with same | effect
  · rw [same]
  · rw [effect, served]

theorem answer_objects {op : Call Spec Doc} {name : String} (elsewhere : op.target ≠ some name) :
    (answerCall returned choice s op).2.objects name = s.objects name := by
  have served : (serveCall returned s op).2.objects name = s.objects name := by
    cases op with
    | updateResource resource =>
      rw [serveCall]
      split
      · rfl
      · dsimp only
        split <;> rfl
    | updateResourceStatus resource =>
      rw [serveCall]
      split
      · rfl
      · dsimp only
        split <;> rfl
    | createObject other document =>
      have different : name ≠ other := fun same => elsewhere (congrArg some same.symm)
      rw [serveCall]
      split
      · rfl
      · exact setObject_other different
    | updateObject other sequenceNumber primaryTerm document =>
      have different : name ≠ other := fun same => elsewhere (congrArg some same.symm)
      rw [serveCall]
      split
      · rfl
      dsimp only
      split
      · exact setObject_other different
      · rfl
    | putObject other document =>
      exact setObject_other fun same => elsewhere (congrArg some same.symm)
    | deleteObject other =>
      have different : name ≠ other := fun same => elsewhere (congrArg some same.symm)
      rw [serveCall]
      split
      · rfl
      · exact setObject_other different
    | _ => rfl
  rcases answer_cases choice s op with same | effect
  · rw [same]
  · rw [effect, served]

theorem answer_updateResource {resource : Resource Spec} :
    ∀ r ∈ (answerCall returned choice s (.updateResource resource)).2.resource,
      ∃ stored ∈ s.resource, r.status = stored.status ∧ (r = stored ∨ r.spec = resource.spec) := by
  intro r there
  rcases answer_cases choice s (.updateResource resource) with same | effect
  · rw [same] at there
    exact ⟨r, there, rfl, Or.inl rfl⟩
  rw [effect, serveCall] at there
  split at there
  · rename_i missing
    rw [missing] at there
    cases there
  rename_i stored present
  split at there
  · rw [storeResource, updatedResource] at there
    split at there
    · cases there
    · cases there
      exact ⟨stored, present, rfl, Or.inr rfl⟩
  · exact ⟨r, there, rfl, Or.inl rfl⟩

theorem answer_updateResourceStatus {resource : Resource Spec} :
    ∀ r ∈ (answerCall returned choice s (.updateResourceStatus resource)).2.resource,
      ∃ stored ∈ s.resource, r.spec = stored.spec ∧ (r = stored ∨ r.status = resource.status) := by
  intro r there
  rcases answer_cases choice s (.updateResourceStatus resource) with same | effect
  · rw [same] at there
    exact ⟨r, there, rfl, Or.inl rfl⟩
  rw [effect, serveCall] at there
  split at there
  · rename_i missing
    rw [missing] at there
    cases there
  rename_i stored present
  split at there
  · cases there
    exact ⟨stored, present, rfl, Or.inr rfl⟩
  · exact ⟨r, there, rfl, Or.inl rfl⟩

theorem told_updateResource {resource r : Resource Spec} (finalizer : resource.finalizer = true)
    (told : (answerCall returned choice s (.updateResource resource)).1 = .ok r) :
    (answerCall returned choice s (.updateResource resource)).2.resource = some r := by
  obtain ⟨told, effect⟩ := answered told
  rw [effect]
  rw [serveCall] at told ⊢
  split at told
  · cases told
  rename_i stored present
  rw [updatedResource, finalizer, Bool.not_true, Bool.and_false] at told ⊢
  split at told
  · rename_i current
    rw [if_pos current]
    cases told
    rfl
  · cases told

theorem told_updateResourceStatus {resource r : Resource Spec}
    (told : (answerCall returned choice s (.updateResourceStatus resource)).1 = .ok r) :
    (answerCall returned choice s (.updateResourceStatus resource)).2.resource = some r ∧
      r.status = resource.status := by
  obtain ⟨told, effect⟩ := answered told
  rw [effect]
  rw [serveCall] at told ⊢
  split at told
  · cases told
  rename_i stored present
  split at told
  · rename_i current
    rw [if_pos current]
    cases told
    exact ⟨rfl, rfl⟩
  · cases told

end Answers

section Rules

abbrev ManagedEvent (Spec : Type) [DecidableEq Spec] (returned : String → Doc → Doc) : Type :=
  Event (managedServer Spec returned)

abbrev ManagedRun (Spec : Type) [DecidableEq Spec] (returned : String → Doc → Doc) : Type :=
  World (managedServer Spec returned)

variable [DecidableEq Spec] {β : Type}

section

variable {w : ManagedRun Spec returned} {choice : ManagedChoice Spec Doc} {op : Call Spec Doc}

theorem arrive_resource (reads : op.writesResource = false) :
    (w.arrive choice op).after.resource = (w.arrive choice op).before.resource :=
  answer_resource reads

theorem arrive_objects {name : String} (elsewhere : op.target ≠ some name) :
    (w.arrive choice op).after.objects name = (w.arrive choice op).before.objects name :=
  answer_objects elsewhere

theorem updateResourceStatus_part {resource : Resource Spec} {part : ObjectStatus → β} {b : β}
    (before : ∀ r ∈ (w.arrive choice (.updateResourceStatus resource)).before.resource,
      part r.status = b) :
    (∀ r ∈ (w.arrive choice (.updateResourceStatus resource)).after.resource, part r.status = b) ∨
    ∀ r ∈ (w.arrive choice (.updateResourceStatus resource)).after.resource,
      part r.status = part resource.status := by
  cases after : (w.arrive choice (.updateResourceStatus resource)).after.resource with
  | none => simp
  | some r =>
    obtain ⟨stored, present, _, same | new⟩ := answer_updateResourceStatus r after
    · simp [same, before stored present]
    · simp [new]

end

def Alone (part : ObjectStatus → β) (e : ManagedEvent Spec returned) : Prop :=
  ∀ r ∈ e.before.resource, ∃ earlier ∈ e.prior.resource, part r.status = part earlier.status

instance [DecidableEq β] (part : ObjectStatus → β) (e : ManagedEvent Spec returned) :
    Decidable (Alone part e) :=
  inferInstanceAs (Decidable (∀ r ∈ e.before.resource, ∃ earlier ∈ e.prior.resource, _ = _))

/-- The two calls of a status update keep `K`, where what is written is the image of what is
stored. -/
structure KeptByUpdates (permit : ManagedEvent Spec returned → Prop)
    (K : ManagedRun Spec returned → Prop) (part : ObjectStatus → β) (g : β → β) :
    Prop where
  reread : ∀ w choice, permit (w.arrive choice .rereadResource) → K w →
    K (w.extend (w.arrive choice .rereadResource))
  written : ∀ w choice resource, permit (w.arrive choice (.updateResourceStatus resource)) → K w →
    (∀ r ∈ (w.arrive choice (.updateResourceStatus resource)).before.resource,
      part resource.status = g (part r.status)) →
    K (w.extend (w.arrive choice (.updateResourceStatus resource)))

variable {permit : ManagedEvent Spec returned → Prop}
  {inv K : ManagedRun Spec returned → Prop} {w : ManagedRun Spec returned}

/-- A call that keeps `K`, with what its reply says about the world after it. -/
theorem safe_asked (op : Call Spec Doc) (fact : op.Payload → ManagedRun Spec returned → Prop)
    (implied : ∀ w, K w → inv w) (holds : K w)
    (kept : ∀ choice, permit (w.arrive choice op) → K (w.extend (w.arrive choice op)))
    (known : ∀ choice value, permit (w.arrive choice op) →
      (answerCall returned choice (w.arrive choice op).before op).1 = .ok value →
      fact value (w.extend (w.arrive choice op))) : Safe permit inv (ask op) (OkWith K fact) w :=
  ⟨implied w holds, fun choice permitted =>
    ⟨kept choice permitted, fun value told => known choice value permitted told⟩⟩

theorem safe_getResource (implied : ∀ w, K w → inv w)
    (kept : ∀ w choice, permit (w.arrive choice .getResource) → K w →
      K (w.extend (w.arrive choice .getResource))) (holds : K w) :
    Safe permit inv (ask .getResource)
      (OkWith K fun stored w => w.state.resource = some stored) w := by
  apply safe_asked _ _ implied holds (fun choice permitted => kept w choice permitted holds)
  intro choice stored _ told
  obtain ⟨told, effect⟩ := answered told
  exact (congrArg ManagedWorld.resource effect).trans (found_ok told)

theorem safe_rereadResource (implied : ∀ w, K w → inv w)
    (kept : ∀ w choice, permit (w.arrive choice .rereadResource) → K w →
      K (w.extend (w.arrive choice .rereadResource))) (holds : K w) :
    Safe permit inv (ask .rereadResource)
      (OkWith K fun stored w => w.state.resource = some stored) w := by
  apply safe_asked _ _ implied holds (fun choice permitted => kept w choice permitted holds)
  intro choice stored _ told
  obtain ⟨told, effect⟩ := answered told
  exact (congrArg ManagedWorld.resource effect).trans (found_ok told)

/-- What a status update leaves the caller with: `K`, and on success the stored resource,
with the new status. -/
def Updated (K : ManagedRun Spec returned → Prop) (f : ObjectStatus → ObjectStatus)
    (err : Option ApiError) (resource : Resource Spec) (w : ManagedRun Spec returned) :
    Prop :=
  K w ∧ (err = none → w.state.resource = some resource ∧ ∃ status, resource.status = f status)

theorem safe_updateObjectStatus {part : ObjectStatus → β} {g : β → β}
    {f : ObjectStatus → ObjectStatus} (implied : ∀ w, K w → inv w)
    (alone : ∀ e, permit e → Alone part e) (kept : KeptByUpdates permit K part g)
    (image : ∀ status, part (f status) = g (part status)) (resource : Resource Spec) (holds : K w) :
    Safe permit inv (updateObjectStatus f resource)
      (fun result w => Updated K f result.1 result.2 w) w := by
  refine safe_retry_restored (fun resource w holds => ?_) (fun _ _ updated => updated.1) 4 resource
    holds
  apply (safe_rereadResource implied kept.reread holds).thenOk
  · exact fun _ _ holds => ⟨holds, nofun⟩
  intro stored w holds current
  apply (safe_asked (.updateResourceStatus { stored with status := f stored.status })
    (fun updated w => w.state.resource = some updated ∧ updated.status = f stored.status)
    implied holds ?_ ?_).thenOk
  · exact fun _ _ holds => ⟨holds, nofun⟩
  · exact fun updated w holds ⟨there, status⟩ => ⟨holds, fun _ => ⟨there, _, status⟩⟩
  · intro choice permitted
    apply kept.written w choice _ permitted holds
    intro r there
    obtain ⟨earlier, present, same⟩ := alone _ permitted r there
    cases present.symm.trans current
    rw [image, same]
  · intro choice updated _ told
    exact told_updateResourceStatus told

/-- The rule for passes: `reconcile` and `delete` start from the stored resource. What is
known of its spec when it is read is `fits`; it has to survive the deletion, since the spec is
sent back when the finalizer is removed. -/
theorem keeps_managedPass {reconcile : Resource Spec → ManagedProg Spec Doc Verdict}
    {delete : Resource Spec → ManagedProg Spec Doc (Option ApiError)}
    (fits : Spec → ManagedRun Spec returned → Prop) (implied : ∀ w, K w → inv w)
    (fitting : ∀ spec w, fits spec w → K w)
    (known : ∀ resource w, K w → w.state.resource = some resource → fits resource.spec w)
    (get : ∀ w choice, permit (w.arrive choice .getResource) → K w →
      K (w.extend (w.arrive choice .getResource)))
    (update : ∀ w choice resource, permit (w.arrive choice (.updateResource resource)) →
      fits resource.spec w → K (w.extend (w.arrive choice (.updateResource resource))))
    (reconciled : ∀ resource w, K w → w.state.resource = some resource →
      Safe permit inv (reconcile resource) (fun _ => K) w)
    (deleted : ∀ resource w, K w → w.state.resource = some resource →
      Safe permit inv (delete resource) (fun _ => fits resource.spec) w) :
    Keeps permit inv K (managedPass reconcile delete) := by
  intro w holds
  have updated : ∀ (resource : Resource Spec) w, fits resource.spec w →
      Safe permit inv (ask (.updateResource resource)) (OkWith K fun stored w =>
        resource.finalizer = true → w.state.resource = some stored) w := by
    intro resource w fits
    apply safe_asked _ _ implied (fitting _ w fits)
      (fun choice permitted => update w choice _ permitted fits)
    intro choice stored _ told finalizer
    exact told_updateResource finalizer told
  apply (safe_getResource implied get holds).thenOk
  · intro err w holds
    cases err <;> exact holds
  intro resource w holds current
  dsimp only
  split
  · apply (updated { resource with finalizer := true } w (known resource w holds current)).thenOk
    · exact fun _ _ holds => holds
    intro stored w holds current
    apply (reconciled stored w holds (current rfl)).bind
    exact fun _ w holds => holds
  split
  · apply (deleted resource w holds current).bindNone
    · exact fun _ w fits => fitting _ w fits
    intro w fits
    apply (updated { resource with finalizer := false } w fits).bind
    intro reply w ⟨holds, _⟩
    cases reply <;> exact holds
  · exact holds

end Rules

end OpenSearchOperator.Managed
