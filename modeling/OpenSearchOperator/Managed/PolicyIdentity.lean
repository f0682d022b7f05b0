import Mathlib.Tactic.MkIffOfInductiveProp
import OpenSearchOperator.Effects.History
import OpenSearchOperator.Managed.Laws
import OpenSearchOperator.Managed.Policies

/-! The id of an ISM policy. The webhook freezes the id that the status records, and the
deferred status update records it on every exit without an error, also on those that come
before the id is known. -/

namespace OpenSearchOperator.Managed.PolicyIdentity

open Api Effects
open Security (Verdict ReferredCluster)
open Managed.Policies

variable {Spec Doc : Type} [DecidableEq Spec] {returned : String → Doc → Doc}

def Recorded (policyId : String) (past : List (ManagedEvent Spec returned)) : Prop :=
  ∃ e ∈ past, ∃ r ∈ e.after.resource, r.status.objectName = policyId ∧ policyId ≠ ""

def Respects (e : ManagedEvent Spec returned) (earlier : List (ManagedEvent Spec returned)) :
    Prop :=
  ∀ policyId, Recorded policyId earlier → (∀ r ∈ e.after.resource, r.status.objectName = policyId) ∧
      ∀ target, e.op.target = some target → target = policyId

/-- The webhook admits the edits of others, and nobody else writes the recorded id. The
cluster is running when the controller looks at it, and no edit changes the id of the policy
after a pass has read the resource. -/
@[mk_iff]
structure Settled (kind : PolicyKind Spec Doc) (e : ManagedEvent Spec returned) : Prop where
  status : Alone ObjectStatus.objectName e
  admitted : ∀ r ∈ e.before.resource, ∀ earlier ∈ e.prior.resource, r.spec ≠ earlier.spec →
    validatePolicyIDUnchanged kind earlier r = none
  running : e.op = .getCluster → ∃ cluster ∈ e.before.cluster, cluster.phase = "RUNNING"
  edits : e.op ≠ .getResource → ∀ r ∈ e.before.resource, ∀ earlier ∈ e.prior.resource,
    kind.policyId r.spec = kind.policyId earlier.spec

structure Consistent (kind : PolicyKind Spec Doc) (w : ManagedRun Spec returned) : Prop where
  spec : ∀ r ∈ w.state.resource, r.status.objectName ≠ "" →
    kind.policyId r.spec = r.status.objectName
  recorded : ∀ policyId, Recorded policyId w.past →
    ∀ r ∈ w.state.resource, r.status.objectName = policyId
  history : Throughout Respects w.past

structure Bound (kind : PolicyKind Spec Doc) (policyId : String) (w : ManagedRun Spec returned) :
    Prop where
  consistent : Consistent kind w
  same : ∀ other, Recorded other w.past → other = policyId
  spec : ∀ r ∈ w.state.resource, kind.policyId r.spec = policyId

variable {kind : PolicyKind Spec Doc} {policyId : String} {w : ManagedRun Spec returned}

section Steps

variable {e : ManagedEvent Spec returned}

theorem recorded_cons {past : List (ManagedEvent Spec returned)} : Recorded policyId (e :: past) ↔
      (∃ r ∈ e.after.resource, r.status.objectName = policyId ∧ policyId ≠ "") ∨
        Recorded policyId past := by
  simp [Recorded]

variable {choice : ManagedChoice Spec Doc} {op : Call Spec Doc}

theorem Consistent.before (consistent : Consistent kind w)
    (settled : Settled kind (w.arrive choice op)) :
    (∀ r ∈ (w.arrive choice op).before.resource, r.status.objectName ≠ "" →
        kind.policyId r.spec = r.status.objectName) ∧ ∀ policyId, Recorded policyId w.past →
        ∀ r ∈ (w.arrive choice op).before.resource, r.status.objectName = policyId := by
  constructor
  · intro r there recorded
    obtain ⟨earlier, present, same⟩ := settled.status r there
    by_cases edited : r.spec = earlier.spec
    · rw [edited, same]
      exact consistent.spec earlier present (same ▸ recorded)
    have admitted := settled.admitted r there earlier present edited
    rw [validatePolicyIDUnchanged] at admitted
    split at admitted
    · cases admitted
    rename_i unchanged
    rw [not_and, not_not] at unchanged
    rw [same]
    exact (unchanged (same ▸ recorded)).symm
  · intro policyId recorded r there
    obtain ⟨earlier, present, same⟩ := settled.status r there
    exact same.trans (consistent.recorded policyId recorded earlier present)

/-- An event keeps consistency if what it leaves is in step with the spec, and respects the
id that is recorded. -/
theorem Consistent.extend (consistent : Consistent kind w)
    (spec : ∀ r ∈ e.after.resource, r.status.objectName ≠ "" →
      kind.policyId r.spec = r.status.objectName)
    (respects : Respects e w.past) : Consistent kind (w.extend e) := by
  refine ⟨spec, ?_, respects, consistent.history⟩
  intro policyId recorded r there
  rcases recorded_cons.mp recorded with ⟨stored, present, same, _⟩ | earlier
  · cases there.symm.trans present
    exact same
  · exact (respects policyId earlier).1 r there

theorem Consistent.read (consistent : Consistent kind w)
    (settled : Settled kind (w.arrive choice op)) (resource : op.writesResource = false)
    (object : op.target = none) : Consistent kind (w.extend (w.arrive choice op)) := by
  obtain ⟨spec, recorded⟩ := consistent.before settled
  apply consistent.extend
  · rw [arrive_resource resource]
    exact spec
  intro policyId earlier
  rw [arrive_resource resource]
  refine ⟨recorded policyId earlier, fun target targeted => ?_⟩
  cases object.symm.trans targeted

section

variable (bound : Bound kind policyId w)

include bound

theorem Bound.before (settled : Settled kind (w.arrive choice op)) (started : op ≠ .getResource) :
    ∀ r ∈ (w.arrive choice op).before.resource, kind.policyId r.spec = policyId := by
  intro r there
  obtain ⟨earlier, present, _⟩ := settled.status r there
  exact (settled.edits started r there earlier present).trans (bound.spec earlier present)

/-- An event keeps a pass bound to its id if the resource keeps the id, the status records
nothing else, and no other policy is written. -/
theorem Bound.extend (spec : ∀ r ∈ e.after.resource, kind.policyId r.spec = policyId)
    (status : ∀ r ∈ e.after.resource, r.status.objectName = policyId ∨
      (r.status.objectName ≠ "" → kind.policyId r.spec = r.status.objectName) ∧
      ∀ other, Recorded other w.past → r.status.objectName = other)
    (targets : ∀ target, e.op.target = some target → target = policyId) :
    Bound kind policyId (w.extend e) := by
  have inStep : ∀ r ∈ e.after.resource, r.status.objectName ≠ "" →
      kind.policyId r.spec = r.status.objectName := by
    intro r there recorded
    rcases status r there with new | ⟨old, _⟩
    · rw [new]
      exact spec r there
    · exact old recorded
  refine ⟨bound.consistent.extend inStep ?_, ?_, spec⟩
  · intro other recorded
    have identity := bound.same other recorded
    refine ⟨fun r there => ?_, fun target targeted => (targets target targeted).trans identity.symm⟩
    rcases status r there with new | ⟨_, old⟩
    · exact new.trans identity.symm
    · exact old other recorded
  · intro other recorded
    rcases recorded_cons.mp recorded with ⟨r, there, same, named⟩ | earlier
    · rw [← same, ← inStep r there (same ▸ named)]
      exact spec r there
    · exact bound.same other earlier

theorem Bound.call (settled : Settled kind (w.arrive choice op)) (started : op ≠ .getResource)
    (resource : op.writesResource = false)
    (targets : ∀ target, op.target = some target → target = policyId) :
    Bound kind policyId (w.extend (w.arrive choice op)) := by
  obtain ⟨spec, recorded⟩ := bound.consistent.before settled
  apply bound.extend
  · rw [arrive_resource resource]
    exact bound.before settled started
  · rw [arrive_resource resource]
    intro r there
    exact Or.inr ⟨spec r there, fun other earlier => recorded other earlier r there⟩
  · exact targets

theorem Bound.updateResource {resource : Resource Spec}
    (copied : kind.policyId resource.spec = policyId)
    (settled : Settled kind (w.arrive choice (.updateResource resource))) :
    Bound kind policyId (w.extend (w.arrive choice (.updateResource resource))) := by
  have named := bound.before settled nofun
  obtain ⟨_, recorded⟩ := bound.consistent.before settled
  have specs : ∀ r ∈ (w.arrive choice (.updateResource resource)).after.resource,
      kind.policyId r.spec = policyId := by
    intro r there
    obtain ⟨stored, present, _, same | new⟩ := answer_updateResource r there
    · rw [same]
      exact named stored present
    · rw [new]
      exact copied
  apply bound.extend specs
  · intro r there
    obtain ⟨stored, present, status, _⟩ := answer_updateResource r there
    by_cases empty : r.status.objectName = ""
    · refine Or.inr ⟨fun named => absurd empty named, fun other earlier => ?_⟩
      rw [status]
      exact recorded other earlier stored present
    · -- the recorded id is the one of the stored spec
      left
      rw [status] at empty ⊢
      rw [← (bound.consistent.before settled).1 stored present empty]
      exact named stored present
  · nofun

end

theorem keptByUpdates_bound {g : String → String}
    (records : ∀ name, g name = name ∨ g name = policyId) :
    KeptByUpdates (Settled kind) (Bound kind policyId : ManagedRun Spec returned → Prop)
      ObjectStatus.objectName g where
  reread _ _ settled bound := bound.call settled nofun rfl nofun
  written w choice resource settled bound image := by
    have named := bound.before settled nofun
    obtain ⟨spec, recorded⟩ := bound.consistent.before settled
    apply bound.extend
    · intro r there
      obtain ⟨stored, present, same, _⟩ := answer_updateResourceStatus r there
      rw [same]
      exact named stored present
    · intro r there
      obtain ⟨stored, present, sameSpec, same | new⟩ :=
        answer_updateResourceStatus r there
      · rw [same]
        exact Or.inr
          ⟨spec stored present, fun other earlier => recorded other earlier stored present⟩
      rw [sameSpec, new, image stored present]
      rcases records stored.status.objectName with old | id
      · rw [old]
        exact Or.inr ⟨spec stored present,
          fun other earlier => recorded other earlier stored present⟩
      · exact Or.inl id
    · nofun

end Steps

section Programs

variable {resource : Resource Spec}

abbrev Within (kind : PolicyKind Spec Doc) {α : Type} (program : ManagedProg Spec Doc α)
    (post : α → ManagedRun Spec returned → Prop) (w : ManagedRun Spec returned) : Prop :=
  Safe (Settled kind) (Consistent kind) program post w

theorem alone_of_settled (e : ManagedEvent Spec returned) (settled : Settled kind e) :
    Alone ObjectStatus.objectName e := settled.status

theorem Consistent.bound (consistent : Consistent kind w)
    (current : w.state.resource = some resource) : Bound kind (kind.policyId resource.spec) w := by
  refine ⟨consistent, ?_, ?_⟩
  · intro other recorded
    have stored := consistent.recorded other recorded resource current
    obtain ⟨_, _, _, _, _, named⟩ := recorded
    rw [← stored]
    exact (consistent.spec resource current (stored ▸ named)).symm
  · intro r there
    cases there.symm.trans current
    rfl

variable (bound : Bound kind policyId w)

include bound in
theorem within_call (op : Call Spec Doc) (started : op ≠ .getResource)
    (resource : op.writesResource = false)
    (targets : ∀ target, op.target = some target → target = policyId) :
    Within kind (ask op) (fun _ => Bound kind policyId) w :=
  ⟨bound.consistent, fun _ settled => bound.call settled started resource targets⟩

include bound in
theorem within_updateObjectStatus (f : ObjectStatus → ObjectStatus) {g : String → String}
    (image : ∀ status, (f status).objectName = g status.objectName)
    (records : ∀ name, g name = name ∨ g name = policyId) (resource : Resource Spec) :
    Within kind (updateObjectStatus f resource)
      (fun result => Updated (Bound kind policyId) f result.1 result.2) w :=
  safe_updateObjectStatus (fun _ bound => bound.consistent) alone_of_settled
    (keptByUpdates_bound records) image resource bound

include bound in
theorem within_unrecorded (f : ObjectStatus → ObjectStatus)
    (same : ∀ status, (f status).objectName = status.objectName) (resource : Resource Spec) :
    Within kind (updateObjectStatus f resource)
      (fun result => Updated (Bound kind policyId) f result.1 result.2) w :=
  within_updateObjectStatus bound f (g := id) same (fun _ => Or.inl rfl) resource

abbrev KeepsBound (kind : PolicyKind Spec Doc) (policyId : String) (returned : String → Doc → Doc)
    {α : Type} (program : ManagedProg Spec Doc α) : Prop :=
  Keeps (Settled kind) (Consistent kind) (Bound kind policyId : ManagedRun Spec returned → Prop)
    program

theorem keeps_applyToIndex (index : String) :
    KeepsBound kind policyId returned (applyToIndex policyId index) := by
  intro w bound
  apply (within_call bound (.addPolicyToIndex index policyId) nofun rfl nofun).bind
  intro reply w bound
  cases reply <;> exact bound

theorem keeps_applyToPattern (pattern : String) :
    KeepsBound kind policyId returned (applyToPattern policyId pattern) := by
  intro w bound
  apply (within_call bound (.getIndices pattern) nofun rfl nofun).bindOk
  · exact fun _ _ bound => bound
  intro indices w bound
  exact keeps_eachUntilError keeps_applyToIndex indices w bound

theorem keeps_createMissing (resource : Resource Spec) (newPolicy : Doc) :
    KeepsBound kind policyId returned (createMissing kind resource policyId newPolicy) := by
  intro w bound
  apply (within_call bound (.createObject policyId newPolicy) nofun rfl
    fun _ same => (Option.some.inj same).symm).bindOk
  · exact fun _ _ bound => bound
  intro _ w bound
  apply (keeps_eachUntilError keeps_applyToPattern _ w bound).bindNone
  · exact fun _ _ bound => bound
  intro w bound
  apply (within_unrecorded bound (markExisting false) (fun _ => rfl) resource).bind
  intro ⟨err, updated⟩ w ⟨bound, _⟩
  cases err <;> exact bound

variable [DecidableEq Doc]

theorem keeps_reconcileExisting (resource : Resource Spec) (newPolicy : Doc)
    {existingPolicy : ObjectResponse Doc} (named : kind.nameIn existingPolicy = policyId) :
    KeepsBound kind policyId returned
      (reconcileExisting kind resource newPolicy existingPolicy) := by
  intro w bound
  rw [reconcileExisting]
  split
  · apply (within_unrecorded bound (markExisting true) (fun _ => rfl) resource).bind
    intro ⟨err, updated⟩ w ⟨bound, _⟩
    cases err <;> exact bound
  split
  · exact bound
  rw [named]
  apply (within_call bound (.updateObject policyId _ _ newPolicy) nofun rfl
    fun _ same => (Option.some.inj same).symm).bind
  intro reply w bound
  cases reply <;> exact bound

omit [DecidableEq Doc] in
theorem within_getObject {kind : PolicyKind Spec Doc} {w : ManagedRun Spec kind.returned}
    (bound : Bound kind policyId w) :
    Within kind (ask (.getObject policyId)) (OkWith (Bound kind policyId) fun response _ =>
      ∀ existing ∈ response, kind.nameIn existing = policyId) w := by
  apply safe_asked (.getObject policyId) _ (fun _ bound => bound.consistent) bound
  · intro choice settled
    exact bound.call settled nofun rfl nofun
  intro choice response _ told existing present
  obtain ⟨told, _⟩ := answered told
  cases told
  obtain ⟨stored, _, rfl⟩ := Option.map_eq_some_iff.mp present
  exact kind.reported policyId stored

theorem keeps_syncPolicy {kind : PolicyKind Spec Doc} (resource : Resource Spec) :
    KeepsBound kind policyId kind.returned (syncPolicy kind resource policyId) := by
  intro w bound
  rw [syncPolicy]
  split
  · exact bound
  rename_i newPolicy _
  apply (within_getObject bound).thenOk
  · exact fun _ _ bound => bound
  intro response w bound named
  cases response with
  | none => exact keeps_createMissing resource newPolicy w bound
  | some existing =>
    exact keeps_reconcileExisting resource newPolicy (named existing rfl) w bound

omit [DecidableEq Doc] in
theorem within_getCluster (bound : Bound kind policyId w) :
    Within kind (ask .getCluster) (fun reply w => Bound kind policyId w ∧
      reply ≠ .error .notFound ∧ ∀ cluster, reply = .ok cluster → cluster.phase = "RUNNING") w := by
  refine ⟨bound.consistent, fun choice settled => ?_⟩
  obtain ⟨cluster, there, running⟩ := settled.running rfl
  obtain ⟨present, same⟩ := answer_getCluster there
  refine ⟨bound.call settled nofun rfl nofun, present, fun other told => ?_⟩
  rw [same other told]
  exact running

theorem within_provision {kind : PolicyKind Spec Doc} {w : ManagedRun Spec kind.returned}
    (bound : Bound kind policyId w) :
    Within kind (provision kind resource) (fun result w => Bound kind policyId w ∧
      (result.1.err = none → result.2 = policyId)) w := by
  apply (within_getCluster bound).bindOk
  · intro err w ⟨bound, present, running⟩
    cases err with
    | notFound => exact absurd rfl present
    | _ => exact ⟨bound, nofun⟩
  intro cluster w ⟨bound, present, running⟩
  dsimp only
  split
  · exact ⟨bound, nofun⟩
  apply (within_unrecorded bound (markManaged cluster.uid) (fun _ => rfl) resource).bind
  intro ⟨err, updated⟩ w ⟨bound, success⟩
  cases err with
  | some err => exact ⟨bound, nofun⟩
  | none =>
    have named : kind.policyId updated.spec = policyId := bound.spec updated (success rfl).1
    dsimp only
    rw [if_neg (not_not.mpr (running cluster rfl))]
    apply (within_call bound .createClient nofun rfl nofun).bindOk
    · exact fun _ _ bound => ⟨bound, nofun⟩
    intro _ w bound
    rw [named]
    apply (keeps_syncPolicy updated w bound).bind
    intro verdict w bound
    exact ⟨bound, fun _ => rfl⟩

theorem within_reconcile {kind : PolicyKind Spec Doc} (resource : Resource Spec)
    (w : ManagedRun Spec kind.returned) (consistent : Consistent kind w)
    (current : w.state.resource = some resource) :
    Within kind (reconcile kind resource) (fun _ => Consistent kind) w := by
  apply (within_provision (consistent.bound current)).bind
  intro ⟨verdict, policyId⟩ w ⟨bound, known⟩
  have records : ∀ name, (if verdict.err = none ∧ kind.finished verdict.result = true then policyId
      else name) = name ∨ (if verdict.err = none ∧ kind.finished verdict.result = true then policyId
      else name) = kind.policyId resource.spec := by
    intro name
    split
    · rename_i done
      exact Or.inr (known done.1)
    · exact Or.inl rfl
  apply (within_updateObjectStatus bound (recordVerdict kind verdict policyId) (fun _ => rfl)
    records resource).bind
  intro result w ⟨bound, _⟩
  exact bound.consistent

omit [DecidableEq Doc] in
theorem within_delete (resource : Resource Spec) (w : ManagedRun Spec returned)
    (consistent : Consistent kind w) (current : w.state.resource = some resource) :
    Within kind (delete kind resource) (fun _ => Bound kind (kind.policyId resource.spec)) w := by
  have bound := consistent.bound current
  rw [delete]
  split
  · exact bound
  apply (within_call bound .getCluster nofun rfl nofun).bindOk
  · intro err w bound
    cases err <;> exact bound
  intro cluster w bound
  dsimp only
  split
  · exact bound
  apply (within_call bound .createClient nofun rfl nofun).bindOk
  · exact fun _ _ bound => bound
  intro _ w bound
  apply (within_call bound (.deleteObject _) nofun rfl
    fun _ same => (Option.some.inj same).symm).bind
  intro reply w bound
  cases reply <;> exact bound

theorem keeps_policyPass {kind : PolicyKind Spec Doc} : Keeps (Settled kind) (Consistent kind)
    (Consistent kind : ManagedRun Spec kind.returned → Prop) (policyPass kind) := by
  apply keeps_managedPass (fun spec => Bound kind (kind.policyId spec)) (fun _ => id)
    (fun _ _ bound => bound.consistent)
  · intro resource w consistent current
    exact consistent.bound current
  · intro w choice settled consistent
    exact consistent.read settled rfl rfl
  · intro w choice resource settled bound
    exact (bound.updateResource rfl settled).consistent
  · exact within_reconcile
  · exact within_delete

end Programs

/-- In every settled run of the controller of a policy, an id that was recorded stays, and
every later write is meant for it. -/
theorem policy_id_kept [DecidableEq Doc] (kind : PolicyKind Spec Doc)
    (start : ManagedRun Spec kind.returned) (passes : List (List (ManagedChoice Spec Doc)))
    (fresh : start.past = []) (unrecorded : ∀ r ∈ start.state.resource, r.status.objectName = "")
    (settled : ∀ e ∈ (runs (policyPass kind) passes start).past, Settled kind e) :
    ∀ later e earlier, (runs (policyPass kind) passes start).past = later ++ e :: earlier →
      Respects e earlier := by
  have initially : Consistent kind start := by
    refine ⟨fun r there recorded => absurd (unrecorded r there) recorded, ?_, ?_⟩
    · rintro policyId ⟨e, happened, _⟩
      rw [fresh] at happened
      cases happened
    · rw [fresh]
      trivial
  have consistent := runs_keep keeps_policyPass passes start initially settled
  exact consistent.history.holds

section Runs

abbrev Wanted := String

abbrev logPolicies : PolicyKind Wanted String :=
  ismPolicies "logs" id (fun _ => .ok "document") (fun _ => []) (unaltered String)

def policyWorld : ManagedRun Wanted logPolicies.returned :=
  ⟨{ resource := some { spec := "p" }, cluster := some ⟨"cluster", "RUNNING", false⟩
     objects := fun _ => none }, []⟩

def setPhase (phase : String) : ManagedChoice Wanted String :=
  { others := fun s => { s with cluster := s.cluster.map fun c => { c with phase } } }

def askFor (policyId : Wanted) : ManagedChoice Wanted String :=
  { others := fun s => { s with
      resource := s.resource.map fun r => { r with spec := policyId }
      cluster := s.cluster.map fun c => { c with phase := "RUNNING" } } }

abbrev logRun (passes : List (List (ManagedChoice Wanted String))) :
    ManagedRun Wanted logPolicies.returned :=
  runs (policyPass logPolicies) passes policyWorld

instance (kind : PolicyKind Wanted String) (e : ManagedEvent Wanted kind.returned) :
    Decidable (Settled kind e) :=
  decidable_of_iff' _ (settled_iff ..)

/-- The first pass records the id, the second one finds the policy as it should be. -/
theorem log_policy_id_kept :
    (logRun [quietPass, quietPass]).state.resource.map (·.status.objectName) = some "p" ∧
      ∀ later e earlier, (logRun [quietPass, quietPass]).past = later ++ e :: earlier →
        Respects e earlier := by
  have settled : ∀ e ∈ (logRun [quietPass, quietPass]).past, Settled logPolicies e := by
    decide +kernel
  have kept := policy_id_kept logPolicies policyWorld [quietPass, quietPass] rfl (by decide) settled
  exact And.intro (by decide +kernel) kept

def Admitted (e : ManagedEvent Wanted logPolicies.returned) : Prop :=
  ∀ r ∈ e.before.resource, ∀ earlier ∈ e.prior.resource,
    validatePolicyIDUnchanged logPolicies earlier r = none

instance (e : ManagedEvent Wanted logPolicies.returned) : Decidable (Admitted e) :=
  inferInstanceAs (Decidable (∀ r ∈ e.before.resource, ∀ earlier ∈ e.prior.resource, _ = none))

/-- A cluster that is not running makes the controller record an empty id. The webhook then
lets the id change, and the policy is created anew. -/
theorem log_policy_id_changes :
    (logRun [quietPass]).state.resource.map (·.status.objectName) = some "p" ∧
    (logRun [quietPass, setPhase "UPGRADING" :: quietPass]).state.resource.map
      (·.status.objectName) = some "" ∧
    (∀ e ∈ (logRun [quietPass, setPhase "UPGRADING" :: quietPass, askFor "q" :: quietPass]).past,
      Admitted e ∧ e.choice.outcome = .served) ∧
    (∃ e ∈ (logRun [quietPass, setPhase "UPGRADING" :: quietPass, askFor "q" :: quietPass]).past,
      e.op.target = some "q") := by
  decide +kernel

end Runs

end OpenSearchOperator.Managed.PolicyIdentity
