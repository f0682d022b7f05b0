import OpenSearchOperator.Effects.Loop
import OpenSearchOperator.Managed.Resource

/-! The controllers of ISM policies and of snapshot policies. A policy that OpenSearch has
before its resource is reconciled belongs to somebody else and is left alone; the flag in the
status tells such policies from those that the operator has created. The two controllers are
one program; the kinds differ in their documents and in a few texts. -/

namespace OpenSearchOperator.Managed

open Api Effects
open Security (Verdict)

variable {Spec Doc : Type}

/-- What a policy resource brings along: how the id and the document come from its spec, to
which index patterns a new policy is applied, what OpenSearch makes of the document, the name
by which an existing policy is compared and updated, when the deferred status update takes
the pass for done, and the texts for the status. OpenSearch reports a policy by its id. -/
structure PolicyKind (Spec Doc : Type) where
  policyId : Spec → String
  document : Spec → Except String Doc
  patterns : Spec → List String
  returned : String → Doc → Doc
  nameIn : ObjectResponse Doc → String
  finished : Result → Bool
  ungenerated : String
  uncreated : String
  unread : String
  unchanged : String
  alreadyExists : String
  ignored : String
  reported : ∀ policyId (stored : StoredObject Doc),
    nameIn ⟨{ stored with document := returned policyId stored.document }, policyId⟩ = policyId

def orName (name given : String) : String := if given ≠ "" then given else name

/-- The ISM policies. `patterns` are those of the template if the policy is to be applied to
existing indices. -/
def ismPolicies (name : String) (policyID : Spec → String) (document : Spec → Except String Doc)
    (patterns : Spec → List String) (returned : String → Doc → Doc) : PolicyKind Spec Doc where
  policyId := fun spec => orName name (policyID spec)
  document := document
  patterns := patterns
  returned := returned
  nameIn := fun existingPolicy => existingPolicy.name
  finished := fun result => result.requeue
  ungenerated := "failed to generate ism policy document"
  uncreated := "failed to create ism policy"
  unread := "failed to get the ism policy from Opensearch API"
  unchanged := "failed to update ism policy with Opensearch API"
  alreadyExists := "the ISM policy already exists in the OpenSearch cluster"
  ignored := "ISM Policy already exists in Opensearch"
  reported := fun _ _ => rfl

def snapshotPolicies (name : String) (policyName : Spec → String) (document : Spec → Doc)
    (nameInDocument : Doc → String) (returned : String → Doc → Doc)
    (reported : ∀ policyName document, nameInDocument (returned policyName document) = policyName) :
    PolicyKind Spec Doc where
  policyId := fun spec => orName name (policyName spec)
  document := fun spec => .ok (document spec)
  patterns := fun _ => []
  returned := returned
  nameIn := fun existingPolicy => nameInDocument existingPolicy.document
  finished := fun result => result.requeueAfter = defaultRequeueAfter
  ungenerated := "failed to generate snapshot policy document"
  uncreated := "failed to create snapshot policy"
  unread := "failed to get the snapshot policy from Opensearch API"
  unchanged := "failed to update snapshotpolicy policy with Opensearch API"
  alreadyExists := "the Snapshot policy already exists in the OpenSearch cluster"
  ignored := "snapshot policy already exists in OpenSearch; not modifying"
  reported := fun policyId stored => reported policyId stored.document

namespace Policies

/-- The check of the webhook on an update. A resource without a recorded id may change it. -/
def validatePolicyIDUnchanged (kind : PolicyKind Spec Doc) (old new : Resource Spec) :
    Option String :=
  if old.status.objectName ≠ "" ∧ old.status.objectName ≠ kind.policyId new.spec then
    some "cannot change the ISM policy ID"
  else none

def laterForCluster : Result := { requeue := true, requeueAfter := opensearchClusterRequeueAfter }
def later : Result := { requeue := true, requeueAfter := defaultRequeueAfter }

def applyToIndex (policyId index : String) : ManagedProg Spec Doc (Option Failure) := do
  match ← ask (.addPolicyToIndex index policyId) with
  | .error _ => return some (.text ("failed to apply policy to index " ++ index))
  | .ok _ => return none

def applyToPattern (policyId pattern : String) : ManagedProg Spec Doc (Option Failure) := do
  match ← ask (.getIndices pattern) with
  | .error _ => return some (.text ("failed to get indices matching pattern " ++ pattern))
  | .ok indices => eachUntilError (applyToIndex policyId) indices

variable (kind : PolicyKind Spec Doc)

def applyPolicyToExistingIndices (resource : Resource Spec) (policyId : String) :
    ManagedProg Spec Doc (Option Failure) :=
  eachUntilError (applyToPattern policyId) (kind.patterns resource.spec)

def createMissing (resource : Resource Spec) (policyId : String) (newPolicy : Doc) :
    ManagedProg Spec Doc Verdict := do
  match ← ask (.createObject policyId newPolicy) with
  | .error err => return { result := later, err := some (.api err), reason := kind.uncreated }
  | .ok _ =>
    match ← applyPolicyToExistingIndices kind resource policyId with
    | some err => return { result := later, err := some err
                           reason := "failed to apply policy to existing indices" }
    | none =>
      match ← updateObjectStatus (markExisting false) resource with
      | (some err, _) => return { result := later, err := some (.api err)
                                  reason := "failed to update custom resource object" }
      | (none, _) => return { result := later }

def reconcileExisting [DecidableEq Doc] (resource : Resource Spec) (newPolicy : Doc)
    (existingPolicy : ObjectResponse Doc) : ManagedProg Spec Doc Verdict := do
  if resource.status.existing ≠ some false then
    match ← updateObjectStatus (markExisting true) resource with
    | (some err, _) => return { result := later, err := some (.api err)
                                reason := "failed to update custom resource object" }
    | (none, _) => return { result := later, reason := kind.alreadyExists }
  else if resource.status.objectName = kind.nameIn existingPolicy ∧
      newPolicy = existingPolicy.document then return { result := later }
  else
    match ← ask (.updateObject (kind.nameIn existingPolicy) existingPolicy.sequenceNumber
      existingPolicy.primaryTerm newPolicy) with
    | .error err => return { result := later, err := some (.api err), reason := kind.unchanged }
    | .ok _ => return { result := later }

/-- `Reconcile` from the document on. The reasons leave out the text of API errors that the
source appends. -/
def syncPolicy [DecidableEq Doc] (resource : Resource Spec) (policyId : String) :
    ManagedProg Spec Doc Verdict := do
  match kind.document resource.spec with
  | .error message => return { result := later, err := some (.text message)
                               reason := kind.ungenerated ++ ": " ++ message }
  | .ok newPolicy =>
    match ← ask (.getObject policyId) with
    | .error err => return { result := later, err := some (.api err), reason := kind.unread }
    | .ok none => createMissing kind resource policyId newPolicy
    | .ok (some existingPolicy) => reconcileExisting kind resource newPolicy existingPolicy

def wrongCluster : String := "cannot change the cluster a resource refers to"

/-- `Reconcile` without the deferred status update, with the id that it has come to. -/
def provision [DecidableEq Doc] (resource : Resource Spec) :
    ManagedProg Spec Doc (Verdict × String) := do
  match ← ask .getCluster with
  | .error .notFound =>
    return ({ result := laterForCluster, reason := "waiting for opensearch cluster to exist" }, "")
  | .error err => return ({ result := laterForCluster, err := some (.api err)
                            reason := "error fetching opensearch cluster" }, "")
  | .ok cluster =>
    if resource.status.managedCluster.any (· ≠ cluster.uid) then
      return ({ err := some (.text wrongCluster), reason := wrongCluster }, "")
    else
      match ← updateObjectStatus (markManaged cluster.uid) resource with
      | (some err, _) => return ({ result := laterForCluster, err := some (.api err)
                                   reason := "failed to update status" }, "")
      | (none, resource) =>
        if cluster.phase ≠ "RUNNING" then
          return ({ result := laterForCluster
                    reason := "waiting for opensearch cluster status to be running" }, "")
        else
          match ← ask .createClient with
          | .error err => return ({ result := laterForCluster, err := some (.api err)
                                    reason := "error creating opensearch client" }, "")
          | .ok _ =>
            let policyId := kind.policyId resource.spec
            let verdict ← syncPolicy kind resource policyId
            return (verdict, policyId)

def recordVerdict (verdict : Verdict) (policyId : String) (status : ObjectStatus) :
    ObjectStatus :=
  let state := if verdict.err.isSome then .error else status.state
  let state := if verdict.result.requeue ∧
      verdict.result.requeueAfter = opensearchClusterRequeueAfter then .pending else state
  let done := verdict.err = none ∧ kind.finished verdict.result = true
  let state := if done then .created else state
  let state := if verdict.reason = kind.ignored then .ignored else state
  { status with
    reason := verdict.reason, state, objectName := if done then policyId else status.objectName }

def reconcile [DecidableEq Doc] (resource : Resource Spec) : ManagedProg Spec Doc Verdict := do
  let (verdict, policyId) ← provision kind resource
  let _ ← updateObjectStatus (recordVerdict kind verdict policyId) resource
  return verdict

def delete (resource : Resource Spec) : ManagedProg Spec Doc (Option ApiError) := do
  if resource.status.existing ≠ some false then return none
  else
    match ← ask .getCluster with
    | .error .notFound => return none
    | .error err => return some err
    | .ok cluster =>
      if cluster.deleting then return none
      else
        match ← ask .createClient with
        | .error err => return some err
        | .ok _ =>
          match ← ask (.deleteObject (kind.policyId resource.spec)) with
          | .error err => return some err
          | .ok _ => return none

def policyPass [DecidableEq Doc] : ManagedProg Spec Doc Handled :=
  managedPass (reconcile kind) (delete kind)

end Policies

end OpenSearchOperator.Managed
