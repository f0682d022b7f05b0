import OpenSearchOperator.Managed.Guarded
import OpenSearchOperator.Managed.Laws

/-! The rule for guarded passes. At each call a pass knows the name that it works with and
the flag that is stored; what it knows besides is left to the resource. -/

namespace OpenSearchOperator.Managed.Guarded

open Api Effects

variable {Spec Doc : Type} [DecidableEq Spec] {returned : String → Doc → Doc}

inductive Turns (Checked : String → Bool → Prop) (name : String) (flag : Option Bool) :
    Option Bool → Prop where
  | kept : Turns Checked name flag flag
  | set {existing : Bool} (unset : flag = none) (told : Checked name existing) :
    Turns Checked name flag (some existing)

/-- What the calls of a guarded pass have to do with `Ready name flag`. An object may be
written under the name only once the flag says that it was not there. -/
structure Guards (kind : GuardedKind Spec Doc) (permit : ManagedEvent Spec returned → Prop)
    (Ready : String → Option Bool → ManagedRun Spec returned → Prop)
    (Checked : String → Bool → Prop) : Prop where
  alone : ∀ e, permit e → Alone ObjectStatus.existing e
  flagged : ∀ {name flag w}, Ready name flag w → ∀ r ∈ w.state.resource, r.status.existing = flag
  named : ∀ {name flag w resource}, Ready name flag w → w.state.resource = some resource →
    Ready (kind.objectName resource.spec) flag w
  start : ∀ {name flag w choice}, permit (w.arrive choice .getResource) → Ready name flag w →
    ∃ other, Ready other flag (w.extend (w.arrive choice .getResource))
  call : ∀ {name flag w choice op}, permit (w.arrive choice op) → Ready name flag w →
    op ≠ .getResource → op.writesResource = false →
    op.target = none ∨ op.target = some name ∧ flag = some false →
    Ready name flag (w.extend (w.arrive choice op))
  resource : ∀ {flag w choice resource}, permit (w.arrive choice (.updateResource resource)) →
    Ready (kind.objectName resource.spec) flag w →
    Ready (kind.objectName resource.spec) flag
      (w.extend (w.arrive choice (.updateResource resource)))
  status : ∀ {name flag later w choice resource},
    permit (w.arrive choice (.updateResourceStatus resource)) → Ready name flag w →
    (∀ r ∈ (w.arrive choice (.updateResourceStatus resource)).after.resource,
      r.status.existing = later) → Turns Checked name flag later →
    Ready name later (w.extend (w.arrive choice (.updateResourceStatus resource)))
  told : ∀ {name w choice response}, permit (w.arrive choice (.getObject name)) →
    Ready name none w →
    (answerCall returned choice (w.arrive choice (.getObject name)).before (.getObject name)).1 =
      .ok response → Checked name response.isSome

def Tracked (Ready : String → Option Bool → ManagedRun Spec returned → Prop)
    (w : ManagedRun Spec returned) : Prop :=
  ∃ name flag, Ready name flag w

abbrev Within (permit : ManagedEvent Spec returned → Prop)
    (Ready : String → Option Bool → ManagedRun Spec returned → Prop) {α : Type}
    (program : ManagedProg Spec Doc α) (post : α → ManagedRun Spec returned → Prop)
    (w : ManagedRun Spec returned) : Prop :=
  Safe permit (Tracked Ready) program post w

variable {kind : GuardedKind Spec Doc} {permit : ManagedEvent Spec returned → Prop}
  {Ready : String → Option Bool → ManagedRun Spec returned → Prop}
  {Checked : String → Bool → Prop} (guards : Guards kind permit Ready Checked) {name : String}
  {flag later : Option Bool} {w : ManagedRun Spec returned} {resource : Resource Spec}

include guards

theorem Guards.current (tracked : Tracked Ready w) (current : w.state.resource = some resource) :
    Ready (kind.objectName resource.spec) resource.status.existing w := by
  obtain ⟨name, flag, ready⟩ := tracked
  rw [guards.flagged ready resource current]
  exact guards.named ready current

section Status

theorem keptByUpdates_ready (turns : Turns Checked name flag later)
    {g : Option Bool → Option Bool} (set : g flag = later) (stays : g later = later) :
    KeptByUpdates permit (fun w => Ready name flag w ∨ Ready name later w)
      ObjectStatus.existing g where
  reread w choice permitted ready :=
    ready.imp (fun ready => guards.call permitted ready nofun rfl (Or.inl rfl))
      fun ready => guards.call permitted ready nofun rfl (Or.inl rfl)
  written w choice resource permitted ready image := by
    have written : ∀ {before}, Ready name before w → Turns Checked name before later →
        g before = later → Ready name before (w.extend (w.arrive choice
          (.updateResourceStatus resource))) ∨ Ready name later (w.extend (w.arrive choice
          (.updateResourceStatus resource))) := by
      intro before ready turns set
      have flagged : ∀ r ∈ (w.arrive choice (.updateResourceStatus resource)).before.resource,
          r.status.existing = before := by
        intro r there
        obtain ⟨earlier, present, same⟩ := guards.alone _ permitted r there
        exact same.trans (guards.flagged ready earlier present)
      rcases updateResourceStatus_part flagged with same | new
      · exact Or.inl (guards.status permitted ready same .kept)
      refine Or.inr (guards.status permitted ready (fun r there => ?_) turns)
      obtain ⟨stored, present, _⟩ := answer_updateResourceStatus r there
      rw [new r there, image stored present, flagged stored present, set]
    rcases ready with ready | ready
    · exact written ready turns set
    · exact Or.inr ((written ready .kept stays).elim id id)

theorem within_unmarked {f : ObjectStatus → ObjectStatus}
    (same : ∀ status, (f status).existing = status.existing) (resource : Resource Spec)
    (ready : Ready name flag w) :
    Within permit Ready (updateObjectStatus f resource) (fun result w => Ready name flag w ∧
      (result.1 = none → w.state.resource = some result.2)) w := by
  apply (safe_updateObjectStatus (fun _ ready => ⟨name, flag, ready.elim id id⟩) guards.alone
    (keptByUpdates_ready guards .kept rfl rfl) (g := id) same resource (Or.inl ready)).mono
  intro result w ⟨ready, success⟩
  exact ⟨ready.elim id id, fun fine => (success fine).1⟩

theorem within_markExisting {existing : Bool} (told : Checked name existing)
    (resource : Resource Spec) (ready : Ready name none w) :
    Within permit Ready (updateObjectStatus (markExisting existing) resource) (fun result w =>
      Tracked Ready w ∧ (result.1 = none → Ready name (some existing) w ∧
        result.2.status.existing = some existing)) w := by
  have tracked : ∀ w, Ready name none w ∨ Ready name (some existing) w → Tracked Ready w :=
    fun w ready => ready.elim (fun ready => ⟨_, _, ready⟩) fun ready => ⟨_, _, ready⟩
  apply (safe_updateObjectStatus tracked guards.alone (keptByUpdates_ready guards (.set rfl told)
    (g := fun _ => some existing) rfl rfl) (fun _ => rfl) resource (Or.inl ready)).mono
  intro result w ⟨ready, success⟩
  refine ⟨tracked w ready, fun fine => ?_⟩
  obtain ⟨there, status, written⟩ := success fine
  have marked : result.2.status.existing = some existing := congrArg ObjectStatus.existing written
  rcases ready with ready | ready
  · cases (guards.flagged ready _ there).symm.trans marked
  · exact ⟨ready, marked⟩

end Status

section Programs

theorem within_call (op : Call Spec Doc) (started : op ≠ .getResource)
    (reads : op.writesResource = false)
    (target : op.target = none ∨ op.target = some name ∧ flag = some false)
    (ready : Ready name flag w) : Within permit Ready (ask op) (fun _ => Ready name flag) w :=
  ⟨⟨name, flag, ready⟩, fun _ permitted => guards.call permitted ready started reads target⟩

variable [DecidableEq Doc]

theorem within_writeObject (resource : Resource Spec) (ready : Ready name (some false) w) :
    Within permit Ready (writeObject kind resource name) (fun _ => Tracked Ready) w := by
  apply (within_call guards (.getObject name) nofun rfl (Or.inl rfl) ready).bindOk
  · exact fun _ _ ready => ⟨_, _, ready⟩
  intro response w ready
  dsimp only
  split
  · exact ⟨_, _, ready⟩
  apply (within_call guards (.putObject name _) nofun rfl (Or.inr ⟨rfl, rfl⟩) ready).bind
  intro reply w ready
  cases reply <;> exact ⟨_, _, ready⟩

theorem within_syncObject {existing : Bool} (flagged : resource.status.existing = some existing)
    (ready : Ready name (some existing) w) :
    Within permit Ready (syncObject kind resource name) (fun _ => Tracked Ready) w := by
  rw [syncObject, flagged]
  cases existing with
  | true => exact ⟨_, _, ready⟩
  | false =>
    rw [if_neg nofun]
    split
    · split
      · exact ⟨_, _, ready⟩
      · exact within_writeObject guards resource ready
    · exact within_writeObject guards resource ready

omit [DecidableEq Doc] in
theorem within_check (ready : Ready name none w) : Within permit Ready (ask (.getObject name))
      (OkWith (Ready name none) fun response _ => Checked name response.isSome) w := by
  apply safe_asked (.getObject name) _ (fun _ ready => ⟨name, none, ready⟩) ready
  · intro choice permitted
    exact guards.call permitted ready nofun rfl (Or.inl rfl)
  · intro choice response permitted told
    exact guards.told permitted ready told

theorem within_guardObject (flagged : resource.status.existing = flag) (ready : Ready name flag w) :
    Within permit Ready (guardObject kind resource name) (fun _ => Tracked Ready) w := by
  rw [guardObject, flagged]
  cases flag with
  | some existing => exact within_syncObject guards flagged ready
  | none =>
    apply (within_check guards ready).thenOk
    · exact fun _ _ ready => ⟨_, _, ready⟩
    intro response w ready checked
    apply (within_markExisting guards checked resource ready).bind
    intro ⟨err, updated⟩ w ⟨tracked, success⟩
    cases err with
    | some err => exact tracked
    | none =>
      obtain ⟨ready, marked⟩ := success rfl
      exact within_syncObject guards marked ready

theorem within_reconcileRunning (phase : String) (flagged : resource.status.existing = flag)
    (ready : Ready (kind.objectName resource.spec) flag w) :
    Within permit Ready (reconcileRunning kind resource phase) (fun _ => Tracked Ready) w := by
  rw [reconcileRunning]
  split
  · exact ⟨_, _, ready⟩
  apply (within_call guards .createClient nofun rfl (Or.inl rfl) ready).bindOk
  · exact fun _ _ ready => ⟨_, _, ready⟩
  intro _ w ready
  exact (within_guardObject guards flagged ready).bind fun _ _ tracked => tracked

theorem within_provision
    (ready : Ready (kind.objectName resource.spec) resource.status.existing w) :
    Within permit Ready (provision kind resource) (fun _ => Tracked Ready) w := by
  apply (within_call guards .getCluster nofun rfl (Or.inl rfl) ready).bindOk
  · intro err w ready
    cases err <;> exact ⟨_, _, ready⟩
  intro cluster w ready
  dsimp only
  split
  · split
    · exact ⟨_, _, ready⟩
    · exact within_reconcileRunning guards cluster.phase rfl ready
  apply (within_unmarked guards (f := markManaged cluster.uid) (fun _ => rfl) resource ready).bind
  intro ⟨err, updated⟩ w ⟨ready, success⟩
  cases err with
  | some err => exact ⟨_, _, ready⟩
  | none =>
    exact within_reconcileRunning guards cluster.phase rfl
      (guards.current ⟨_, _, ready⟩ (success rfl))

theorem within_reconcile (resource : Resource Spec) (w : ManagedRun Spec returned)
    (tracked : Tracked Ready w) (current : w.state.resource = some resource) :
    Within permit Ready (reconcile kind resource) (fun _ => Tracked Ready) w := by
  apply (within_provision guards (guards.current tracked current)).bind
  intro ⟨verdict, objectName⟩ w ⟨name, flag, ready⟩
  apply (within_unmarked guards (f := recordVerdict kind verdict objectName) (fun _ => rfl)
    resource ready).bind
  exact fun result w ⟨ready, _⟩ => ⟨_, _, ready⟩

omit [DecidableEq Doc] in
theorem within_delete (resource : Resource Spec) (w : ManagedRun Spec returned)
    (tracked : Tracked Ready w) (current : w.state.resource = some resource) :
    Within permit Ready (delete kind resource)
      (fun _ w => ∃ flag, Ready (kind.objectName resource.spec) flag w) w := by
  have ready := guards.current tracked current
  rw [delete]
  split
  · exact ⟨_, ready⟩
  rename_i created
  apply (within_call guards .getCluster nofun rfl (Or.inl rfl) ready).bindOk
  · intro err w ready
    cases err <;> exact ⟨_, ready⟩
  intro cluster w ready
  dsimp only
  split
  · exact ⟨_, ready⟩
  apply (within_call guards .createClient nofun rfl (Or.inl rfl) ready).bindOk
  · exact fun _ _ ready => ⟨_, ready⟩
  intro _ w ready
  apply (within_call guards (.getObject _) nofun rfl (Or.inl rfl) ready).bindOk
  · exact fun _ _ ready => ⟨_, ready⟩
  intro response w ready
  cases response with
  | none => exact ⟨_, ready⟩
  | some existing =>
    apply (within_call guards (.deleteObject _) nofun rfl
      (Or.inr ⟨rfl, not_not.mp created⟩) ready).bind
    intro reply w ready
    cases reply <;> exact ⟨_, ready⟩

theorem keeps_guardedPass : Keeps permit (Tracked Ready) (Tracked Ready) (guardedPass kind) := by
  apply keeps_managedPass (fun spec w => ∃ flag, Ready (kind.objectName spec) flag w) (fun _ => id)
  · exact fun spec w ⟨flag, ready⟩ => ⟨_, flag, ready⟩
  · exact fun resource w tracked current => ⟨_, guards.current tracked current⟩
  · intro w choice permitted ⟨name, flag, ready⟩
    obtain ⟨other, ready⟩ := guards.start permitted ready
    exact ⟨other, flag, ready⟩
  · exact fun w choice resource permitted ⟨flag, ready⟩ =>
      ⟨_, flag, guards.resource permitted ready⟩
  · exact within_reconcile guards
  · exact within_delete guards

end Programs

end OpenSearchOperator.Managed.Guarded
