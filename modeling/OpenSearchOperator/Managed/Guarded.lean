import OpenSearchOperator.Managed.Resource

/-! The controllers of roles, tenants, action groups, index templates and component
templates. Before they first write the object they look whether OpenSearch has it already,
and store the answer in the status; an object that was there is left alone. -/

namespace OpenSearchOperator.Managed

open Api Effects
open Security (Verdict failed waiting)

variable {Spec Doc : Type}

/-- What a resource brings along: how the name and the document of the object come from its
spec, whether the deferred status update records the name, the complaint about a name that is
not the recorded one (kinds that do not compare them have none), when the deferred status
update takes the pass for done, and the texts for the status. -/
structure GuardedKind (Spec Doc : Type) where
  objectName : Spec → String
  document : Spec → Doc
  recordsName : Bool
  renamed : Option String
  finished : Result → Bool
  wrongCluster : String
  unknown : String
  unread : String
  unchanged : String
  ignored : String

def rolesKind (name : String) (document : Spec → Doc) : GuardedKind Spec Doc where
  objectName := fun _ => name
  document := document
  recordsName := false
  renamed := none
  finished := fun result => result.requeue
  wrongCluster := "cannot change the cluster a role refers to"
  unknown := "failed to get user status from Opensearch API"
  unread := "failed to get role status from Opensearch API"
  unchanged := "failed to update role with Opensearch API"
  ignored := "role already exists in Opensearch; not modifying"

def tenantsKind (name : String) (document : Spec → Doc) : GuardedKind Spec Doc where
  objectName := fun _ => name
  document := document
  recordsName := false
  renamed := none
  finished := fun result => result.requeueAfter = defaultRequeueAfter
  wrongCluster := "cannot change the cluster an tenant refers to"
  unknown := "failed to get tenant status from Opensearch API"
  unread := "failed to get tenant status from Opensearch API"
  unchanged := "failed to update tenant with Opensearch API"
  ignored := "tenant already exists in Opensearch; not modifying"

def actionGroupsKind (name : String) (document : Spec → Doc) : GuardedKind Spec Doc where
  objectName := fun _ => name
  document := document
  recordsName := false
  renamed := none
  finished := fun result => result.requeueAfter = defaultRequeueAfter
  wrongCluster := "cannot change the cluster an actiongroup refers to"
  unknown := "failed to get actiongroup status from Opensearch API"
  unread := "failed to get actiongroup status from Opensearch API"
  unchanged := "failed to update actiongroup with Opensearch API"
  ignored := "actiongroup already exists in Opensearch; not modifying"

/-- `GenIndexTemplateName` and `GenComponentTemplateName`: a template whose spec has no name
is called like its resource. -/
def templateName (name : String) (specName : Spec → String) (spec : Spec) : String :=
  if specName spec ≠ "" then specName spec else name

def indexTemplatesKind (name : String) (specName : Spec → String) (document : Spec → Doc) :
    GuardedKind Spec Doc where
  objectName := templateName name specName
  document := document
  recordsName := true
  renamed := some "cannot change the index template name"
  finished := fun result => result.requeueAfter = defaultRequeueAfter
  wrongCluster := "cannot change the cluster an index template refers to"
  unknown := "failed to get index template status from OpenSearch API"
  unread := "failed to get index template status from OpenSearch API"
  unchanged := "failed to update index template with OpenSearch API"
  ignored := "index template already exists in OpenSearch; not modifying"

/-- The component templates compare the name with one that they never record. -/
def componentTemplatesKind (name : String) (specName : Spec → String) (document : Spec → Doc) :
    GuardedKind Spec Doc where
  objectName := templateName name specName
  document := document
  recordsName := false
  renamed := some "cannot change the component template name"
  finished := fun result => result.requeueAfter = defaultRequeueAfter
  wrongCluster := "cannot change the cluster a component template refers to"
  unknown := "failed to get component template status from OpenSearch API"
  unread := "failed to get component template status from OpenSearch API"
  unchanged := "failed to update component template with OpenSearch API"
  ignored := "component template already exists in OpenSearch; not modifying"

namespace Guarded

variable (kind : GuardedKind Spec Doc)

section Webhook

/-- `validateIndexTemplateNameUnchanged` and `validateComponentTemplateNameUnchanged`. -/
def validateTemplateNameUnchanged (old new : Resource Spec) : Option String :=
  if old.status.objectName ≠ "" ∧ old.status.objectName ≠ kind.objectName new.spec then
    kind.renamed
  else none

/-- `ValidateUpdate` for component templates; the reference to the cluster does not change. -/
def validateComponentTemplateUpdate (old new : Resource Spec) : Option String :=
  validateTemplateNameUnchanged kind old new

/-- `ValidateUpdate` for index templates lets every edit of a deleted resource pass. -/
def validateIndexTemplateUpdate (old new : Resource Spec) : Option String :=
  if new.deleting then none else validateTemplateNameUnchanged kind old new

end Webhook

def later : Result := { requeue := true, requeueAfter := defaultRequeueAfter }

/-- `Reconcile` from the comparison with the stored object on. The result says that the pass
comes again even if the object could not be written. -/
def writeObject [DecidableEq Doc] (resource : Resource Spec) (name : String) :
    ManagedProg Spec Doc Verdict := do
  match ← ask (.getObject name) with
  | .error err => return failed kind.unread err
  | .ok response =>
    if response.map (·.document) = some (kind.document resource.spec) then
      return { result := later }
    else
      match ← ask (.putObject name (kind.document resource.spec)) with
      | .error err => return { result := later, err := some (.api err), reason := kind.unchanged }
      | .ok _ => return { result := later }

def syncObject [DecidableEq Doc] (resource : Resource Spec) (name : String) :
    ManagedProg Spec Doc Verdict := do
  if resource.status.existing = some true then return { reason := kind.ignored }
  else
    match kind.renamed with
    | some complaint =>
      if resource.status.objectName ≠ "" ∧ name ≠ resource.status.objectName then
        return { err := some (.text complaint), reason := complaint }
      else writeObject kind resource name
    | none => writeObject kind resource name

def guardObject [DecidableEq Doc] (resource : Resource Spec) (name : String) :
    ManagedProg Spec Doc Verdict := do
  match resource.status.existing with
  | some _ => syncObject kind resource name
  | none =>
    match ← ask (.getObject name) with
    | .error err => return failed kind.unknown err
    | .ok response =>
      match ← updateObjectStatus (markExisting response.isSome) resource with
      | (some err, _) => return failed "failed to update status" err
      | (none, resource) => syncObject kind resource name

/-- `Reconcile` from the phase of the cluster on, with the name that it has come to. -/
def reconcileRunning [DecidableEq Doc] (resource : Resource Spec) (phase : String) :
    ManagedProg Spec Doc (Verdict × String) := do
  if phase ≠ "RUNNING" then
    return (waiting "waiting for opensearch cluster status to be running", "")
  else
    match ← ask .createClient with
    | .error err => return (failed "error creating opensearch client" err, "")
    | .ok _ =>
      let name := kind.objectName resource.spec
      let verdict ← guardObject kind resource name
      return (verdict, name)

def provision [DecidableEq Doc] (resource : Resource Spec) :
    ManagedProg Spec Doc (Verdict × String) := do
  match ← ask .getCluster with
  | .error .notFound => return (waiting "waiting for opensearch cluster to exist", "")
  | .error err => return (failed "error fetching opensearch cluster" err, "")
  | .ok cluster =>
    match resource.status.managedCluster with
    | some uid =>
      if uid ≠ cluster.uid then
        return ({ err := some (.text kind.wrongCluster), reason := kind.wrongCluster }, "")
      else reconcileRunning kind resource cluster.phase
    | none =>
      match ← updateObjectStatus (markManaged cluster.uid) resource with
      | (some err, _) => return (failed "failed to update status" err, "")
      | (none, resource) => reconcileRunning kind resource cluster.phase

def recordVerdict (verdict : Verdict) (name : String) (status : ObjectStatus) : ObjectStatus :=
  let state := if verdict.err.isSome then .error else status.state
  let state := if verdict.result.requeue ∧
      verdict.result.requeueAfter = opensearchClusterRequeueAfter then .pending else state
  let done := verdict.err = none ∧ kind.finished verdict.result = true
  let state := if done then .created else state
  let state := if verdict.reason = kind.ignored then .ignored else state
  { status with
    reason := verdict.reason, state
    objectName := if done ∧ kind.recordsName = true then name else status.objectName }

def reconcile [DecidableEq Doc] (resource : Resource Spec) : ManagedProg Spec Doc Verdict := do
  let (verdict, name) ← provision kind resource
  let _ ← updateObjectStatus (recordVerdict kind verdict name) resource
  return verdict

def delete (resource : Resource Spec) : ManagedProg Spec Doc (Option ApiError) := do
  if resource.status.existing ≠ some false then return none
  else
    match ← ask .getCluster with
    | .error .notFound => return none
    | .error err => return some err
    | .ok cluster =>
      if cluster.deleting then return none
      else
        match ← ask .createClient with
        | .error err => return some err
        | .ok _ =>
          let name := kind.objectName resource.spec
          match ← ask (.getObject name) with
          | .error err => return some err
          | .ok none => return none
          | .ok (some _) =>
            match ← ask (.deleteObject name) with
            | .error err => return some err
            | .ok _ => return none

def guardedPass [DecidableEq Doc] : ManagedProg Spec Doc Handled :=
  managedPass (reconcile kind) (delete kind)

end Guarded

end OpenSearchOperator.Managed
