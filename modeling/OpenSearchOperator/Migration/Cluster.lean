import OpenSearchOperator.Api.Server
import OpenSearchOperator.Effects.Loop
import OpenSearchOperator.Effects.Retry

/-! The controller that moves a cluster from the old API group to the new one. The
old and the new custom resource have one name; the certificate secrets belong to
the old one at first and have to belong to the new one before the old one goes. -/

namespace OpenSearchOperator.Migration

open Api Effects

abbrev Annotations := Labels

def MigratedFromAnnotation : String := "opensearch.org/migrated-from"
def MigrationTimestampAnnotation : String := "opensearch.org/migration-timestamp"
def SourceUIDAnnotation : String := "opensearch.org/source-uid"
def DeletedByNewResourceAnnotation : String := "opensearch.org/deleted-by-new-resource"
def CertOwnershipTransferredAnnotation : String := "opensearch.org/cert-ownership-transferred"

def MigrationFinalizer : String := "opensearch.org/migration"
def OldClusterFinalizer : String := "Opster"

/-- The custom resource, of the old or of the new API group: their specs and their
statuses have the same JSON form. -/
structure Cluster where
  uid : String
  resourceVersion : Nat
  labels : Labels
  annotations : Annotations
  finalizers : List String
  deleting : Bool
  spec : ClusterSpec
  status : ClusterStatus
  deriving DecidableEq, Repr

structure OwnerReference where
  group : String
  kind : String
  name : String
  uid : String
  controller : Bool
  deriving DecidableEq, Repr

structure Secret where
  name : String
  resourceVersion : Nat
  ownerReferences : List OwnerReference
  deriving DecidableEq, Repr

inductive Call where
  | getNew
  | getOld
  | createNew (cluster : Cluster)
  | updateNew (cluster : Cluster)
  | updateOld (cluster : Cluster)
  | updateOldStatus (cluster : Cluster)
  | deleteOld
  | getSecret (name : String)
  | updateSecret (secret : Secret)
  | now
  deriving DecidableEq

@[reducible] def Call.Payload : Call → Type
  | .getNew => Cluster
  | .getOld => Cluster
  | .updateNew _ => Cluster
  | .updateOld _ => Cluster
  | .getSecret _ => Secret
  | _ => Unit

@[reducible] def Call.Reply : Call → Type
  | .now => String
  | op => Except ApiError op.Payload

abbrev migration : Interface where
  Call := Call
  Reply := Call.Reply

abbrev MigrationProg (α : Type) := Program migration α

/-- `revision` counts the writes; the version of an object is that of its last write. -/
structure MigrationWorld where
  revision : Nat
  oldCluster : Option Cluster
  newCluster : Option Cluster
  secrets : String → Option Secret

section Server

/-- An update leaves the status and the identity alone. It may not add a finalizer to
an object that is being deleted, and such an object goes with its last finalizer. -/
def updateCluster (revision : Nat) (stored : Option Cluster) (cluster : Cluster) :
    Except ApiError Cluster × Option Cluster :=
  match stored with
  | none => (.error .notFound, none)
  | some current =>
    if cluster.uid ≠ current.uid ∨ cluster.resourceVersion ≠ current.resourceVersion then
      (.error .conflict, some current)
    else if current.deleting = true ∧ ¬ cluster.finalizers ⊆ current.finalizers then
      (.error .invalid, some current)
    else
      let updated := { cluster with
        resourceVersion := revision, deleting := current.deleting, status := current.status }
      (.ok updated, if current.deleting ∧ cluster.finalizers = [] then none else some updated)

def serveCall (uid : String) (timestamp : String) (s : MigrationWorld) :
    (op : Call) → op.Reply × MigrationWorld
  | .getNew => (found s.newCluster, s)
  | .getOld => (found s.oldCluster, s)
  | .createNew cluster =>
    match s.newCluster with
    | some _ => (.error .alreadyExists, s)
    | none => (.ok (), { s with
        revision := s.revision + 1
        newCluster := some { cluster with
          uid := uid, resourceVersion := s.revision + 1, deleting := false
          status := ⟨"", [], "", false, 0, ""⟩ } })
  | .updateNew cluster =>
    let (reply, stored) := updateCluster (s.revision + 1) s.newCluster cluster
    (reply, { s with revision := s.revision + 1, newCluster := stored })
  | .updateOld cluster =>
    let (reply, stored) := updateCluster (s.revision + 1) s.oldCluster cluster
    (reply, { s with revision := s.revision + 1, oldCluster := stored })
  | .updateOldStatus cluster =>
    match s.oldCluster with
    | none => (.error .notFound, s)
    | some current =>
      if cluster.uid ≠ current.uid ∨ cluster.resourceVersion ≠ current.resourceVersion then
        (.error .conflict, s)
      else (.ok (), { s with
        revision := s.revision + 1
        oldCluster := some { current with
          resourceVersion := s.revision + 1, status := cluster.status } })
  | .deleteOld =>
    match s.oldCluster with
    | none => (.error .notFound, s)
    | some current => (.ok (), { s with
        revision := s.revision + 1
        oldCluster := if current.finalizers = [] then none
          else some { current with resourceVersion := s.revision + 1, deleting := true } })
  | .getSecret name => (found (s.secrets name), s)
  | .updateSecret secret =>
    match s.secrets secret.name with
    | none => (.error .notFound, s)
    | some current =>
      if secret.resourceVersion ≠ current.resourceVersion then (.error .conflict, s)
      else (.ok (), { s with
        revision := s.revision + 1
        secrets := fun name => if name = secret.name then
            some { secret with resourceVersion := s.revision + 1 }
          else s.secrets name })
  | .now => (timestamp, s)

structure MigrationChoice where
  others : MigrationWorld → MigrationWorld := id
  outcome : Outcome := .served
  uid : String := "new"
  timestamp : String := ""

def disturbMigration (choice : MigrationChoice) (s : MigrationWorld) : MigrationWorld :=
  let t := choice.others s
  { revision := s.revision + 1
    oldCluster := if t.oldCluster = s.oldCluster then s.oldCluster
      else t.oldCluster.map fun cluster => { cluster with resourceVersion := s.revision + 1 }
    newCluster := if t.newCluster = s.newCluster then s.newCluster
      else t.newCluster.map fun cluster => { cluster with resourceVersion := s.revision + 1 }
    secrets := fun name => if t.secrets name = s.secrets name then s.secrets name
      else (t.secrets name).map fun secret =>
        { secret with name := name, resourceVersion := s.revision + 1 } }

def failedReply (err : ApiError) (timestamp : String) : (op : Call) → op.Reply
  | .now => timestamp
  | .getNew => .error err
  | .getOld => .error err
  | .createNew _ => .error err
  | .updateNew _ => .error err
  | .updateOld _ => .error err
  | .updateOldStatus _ => .error err
  | .deleteOld => .error err
  | .getSecret _ => .error err
  | .updateSecret _ => .error err

def answerCall (choice : MigrationChoice) (s : MigrationWorld) (op : Call) :
    op.Reply × MigrationWorld :=
  match choice.outcome with
  | .served => serveCall choice.uid choice.timestamp s op
  | .refused fault => (failedReply fault.error choice.timestamp op, s)
  | .lost => (failedReply .unavailable choice.timestamp op,
      (serveCall choice.uid choice.timestamp s op).2)

abbrev migrationServer : Server migration where
  State := MigrationWorld
  Choice := MigrationChoice
  disturb := disturbMigration
  answer := answerCall

end Server

abbrev ask (op : Call) : MigrationProg op.Reply := Program.ask (I := migration) op

section Source

inductive Failed where
  | api (err : ApiError)
  | wrapped (message : String) (err : ApiError)
  deriving DecidableEq, Repr

abbrev Returned := Result × Option Failed

def removeString (slice : List String) (s : String) : List String := slice.filter (· ≠ s)

def isClusterReady (cluster : Cluster) : Bool := cluster.status.phase == "RUNNING"

def transferred (cluster : Cluster) : Prop :=
  cluster.annotations.get CertOwnershipTransferredAnnotation = some "true"

instance (cluster : Cluster) : Decidable (transferred cluster) :=
  inferInstanceAs (Decidable (_ = _))

def markTransferred (cluster : Cluster) : Cluster :=
  { cluster with
    annotations := Labels.merge [.mk CertOwnershipTransferredAnnotation "true"]
      cluster.annotations }

def secretNames (clusterName : String) : List String :=
  [clusterName ++ "-ca", clusterName ++ "-transport-cert", clusterName ++ "-http-cert",
    clusterName ++ "-admin-cert"]

def referSameObject (a b : OwnerReference) : Bool :=
  a.group == b.group && a.kind == b.kind && a.name == b.name

def upsertOwnerRef (ref : OwnerReference) (refs : List OwnerReference) : List OwnerReference :=
  match refs.findIdx? (referSameObject ref) with
  | none => refs ++ [ref]
  | some index => refs.set index ref

/-- `controllerutil.SetControllerReference`; `none` if another object is the controller. -/
def setControllerReference (ref : OwnerReference) (refs : List OwnerReference) :
    Option (List OwnerReference) :=
  let ref := { ref with controller := true }
  match refs.find? OwnerReference.controller with
  | some existing => if referSameObject existing ref then some (upsertOwnerRef ref refs) else none
  | none => some (upsertOwnerRef ref refs)

def withOwner (clusterName : String) (newCluster : Cluster) (refs : List OwnerReference) :
    List OwnerReference :=
  let ownerRef : OwnerReference :=
    { group := "opensearch.org", kind := "OpenSearchCluster", name := clusterName
      uid := newCluster.uid, controller := false }
  (setControllerReference ownerRef refs).getD (refs ++ [ownerRef])

def transferSecret (clusterName : String) (newCluster : Cluster) (secretName : String) :
    MigrationProg (Option Failed) := do
  match ← ask (.getSecret secretName) with
  | .error .notFound => return none
  | .error err => return some (.wrapped ("failed to get certificate secret " ++ secretName) err)
  | .ok secret =>
    if secret.ownerReferences.any (fun ref => ref.uid == newCluster.uid) then return none
    else
      match ← ask (.updateSecret { secret with
        ownerReferences := withOwner clusterName newCluster secret.ownerReferences }) with
      | .error err => return some (.wrapped
          ("failed to update owner reference on certificate secret " ++ secretName) err)
      | .ok _ => return none

def transferCertificateSecretOwnership (clusterName : String) (newCluster : Cluster) :
    MigrationProg (Option Failed) := do
  if transferred newCluster then return none
  else
    match ← eachUntilError (transferSecret clusterName newCluster) (secretNames clusterName) with
    | some err => return some err
    | none =>
      let _ ← ask (.updateNew (markTransferred newCluster))
      return none

def newFromOld (oldCluster : Cluster) (timestamp : String) : Cluster where
  uid := ""
  resourceVersion := 0
  labels := oldCluster.labels
  annotations := Labels.merge oldCluster.annotations
    [.mk MigratedFromAnnotation "opensearch.opster.io/v1",
      .mk MigrationTimestampAnnotation timestamp, .mk SourceUIDAnnotation oldCluster.uid]
  finalizers := []
  deleting := false
  spec := oldCluster.spec
  status := ⟨"", [], "", false, 0, ""⟩

def copyStatus (oldCluster : Cluster) (created : Option Cluster) :
    MigrationProg (Option ApiError × Option Cluster) := do
  match ← ask .getNew with
  | .error err => return (some err, created)
  | .ok createdCluster =>
    let createdCluster := { createdCluster with status := oldCluster.status }
    match ← ask (.updateNew createdCluster) with
    | .error err => return (some err, some createdCluster)
    | .ok updated => return (none, some updated)

def afterTransfer (err : Option Failed) (result : Result) : Returned :=
  if err.isSome then ({ requeueAfter := seconds 5 }, none) else (result, none)

def createNewFromOld (clusterName : String) (oldCluster : Cluster) : MigrationProg Returned := do
  let timestamp ← ask .now
  match ← ask (.createNew (newFromOld oldCluster timestamp)) with
  | .error .alreadyExists =>
    match ← ask .getNew with
    | .error err => return ({}, some (.wrapped "failed to get existing new cluster" err))
    | .ok existingCluster =>
      let err ← transferCertificateSecretOwnership clusterName existingCluster
      return afterTransfer err {}
  | .error err => return ({}, some (.api err))
  | .ok _ =>
    match ← retry (fun err => err == some .notFound) (copyStatus oldCluster) 4 none with
    | (none, some createdCluster) =>
      let err ← transferCertificateSecretOwnership clusterName createdCluster
      return afterTransfer err { requeueAfter := seconds 5 }
    | (some err, _) => return ({}, some (.wrapped "failed to update new cluster status" err))
    -- An attempt without an error leaves an object.
    | (none, none) => return ({}, none)

def syncStatusNewToOld (oldCluster newCluster : Cluster) : MigrationProg Returned := do
  if newCluster.status = oldCluster.status then return ({ requeueAfter := seconds 30 }, none)
  else
    match ← ask (.updateOldStatus { oldCluster with status := newCluster.status }) with
    | .error err => return ({}, some (.api err))
    | .ok _ => return ({ requeueAfter := seconds 30 }, none)

def syncOldToNew (clusterName : String) (oldCluster newCluster : Cluster) :
    MigrationProg Returned := do
  match ← transferCertificateSecretOwnership clusterName newCluster with
  | some _ => return ({ requeueAfter := seconds 5 }, none)
  | none => syncStatusNewToOld oldCluster newCluster

def deletedByNewResource (cluster : Cluster) : Bool :=
  cluster.annotations.get DeletedByNewResourceAnnotation == some "true"

def handleNewClusterDeletion : MigrationProg Returned := do
  match ← ask .getOld with
  | .error .notFound => return ({}, none)
  | .error err => return ({}, some (.api err))
  | .ok oldCluster =>
    match ← ask (.updateOld { oldCluster with
      annotations := Labels.merge [.mk DeletedByNewResourceAnnotation "true"]
        oldCluster.annotations }) with
    | .error err => return ({}, some (.api err))
    | .ok _ =>
      match ← ask .deleteOld with
      | .error .notFound => return ({}, none)
      | .error err => return ({}, some (.api err))
      | .ok _ => return ({}, none)

def removeFinalizers (oldCluster : Cluster) : MigrationProg Returned := do
  let finalizers := removeString oldCluster.finalizers MigrationFinalizer
  let finalizers := removeString finalizers OldClusterFinalizer
  match ← ask (.updateOld { oldCluster with finalizers }) with
  | .error err => return ({}, some (.api err))
  | .ok _ => return ({}, none)

def handleOldClusterDeletion (oldCluster : Cluster) : MigrationProg Returned := do
  if oldCluster.finalizers.contains MigrationFinalizer then
    match ← ask .getNew with
    | .error .notFound =>
      if deletedByNewResource oldCluster then removeFinalizers oldCluster
      else return ({ requeueAfter := seconds 5 }, none)
    | .error err => return ({}, some (.api err))
    | .ok _ => removeFinalizers oldCluster
  else return ({}, none)

/-- `Reconcile` for an old resource that stays and has the finalizer. -/
def migrateOld (clusterName : String) (oldCluster : Cluster) : MigrationProg Returned := do
  match ← ask .getNew with
  | .error .notFound =>
    if deletedByNewResource oldCluster then return ({ requeueAfter := seconds 5 }, none)
    else if !isClusterReady oldCluster then return ({ requeueAfter := seconds 30 }, none)
    else createNewFromOld clusterName oldCluster
  | .error err => return ({}, some (.api err))
  | .ok newCluster => syncOldToNew clusterName oldCluster newCluster

def reconcileOld (clusterName : String) : MigrationProg Returned := do
  match ← ask .getOld with
  | .error .notFound => return ({}, none)
  | .error err => return ({}, some (.api err))
  | .ok oldCluster =>
    if oldCluster.deleting then handleOldClusterDeletion oldCluster
    else if !oldCluster.finalizers.contains MigrationFinalizer then
      match ← ask (.updateOld { oldCluster with
        finalizers := oldCluster.finalizers ++ [MigrationFinalizer] }) with
      | .error err => return ({}, some (.api err))
      | .ok oldCluster => migrateOld clusterName oldCluster
    else migrateOld clusterName oldCluster

def reconcileNewDeletion (newCluster : Cluster) : MigrationProg Returned := do
  if !newCluster.finalizers.contains MigrationFinalizer then return ({}, none)
  else if newCluster.finalizers.contains "Opensearch" then
    return ({ requeueAfter := seconds 5 }, none)
  else
    match ← handleNewClusterDeletion with
    | (result, some err) => return (result, some err)
    | (_, none) =>
      match ← ask (.updateNew { newCluster with
        finalizers := removeString newCluster.finalizers MigrationFinalizer }) with
      | .error err => return ({}, some (.api err))
      | .ok _ => return ({}, none)

def reconcile (clusterName : String) : MigrationProg Returned := do
  match ← ask .getNew with
  | .error _ => reconcileOld clusterName
  | .ok newCluster =>
    if newCluster.deleting then reconcileNewDeletion newCluster
    else if !newCluster.finalizers.contains MigrationFinalizer then
      match ← ask (.updateNew { newCluster with
        finalizers := newCluster.finalizers ++ [MigrationFinalizer] }) with
      | .error err => return ({}, some (.api err))
      | .ok _ => return ({ requeue := true }, none)
    else reconcileOld clusterName

end Source

end OpenSearchOperator.Migration
