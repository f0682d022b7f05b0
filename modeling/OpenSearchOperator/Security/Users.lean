import OpenSearchOperator.Migration.Generic
import OpenSearchOperator.Security.UserRoleBinding

/-! The controller of users. A user lives in the internal users of the OpenSearch cluster;
an attribute there names the resource that the user belongs to. -/

namespace OpenSearchOperator.Security.Users

open Api Effects Migration

def K8sAttributeField : String := "k8s-uid"
def K8sAttributeSecretVersionField : String := "secret-version"

def OsUserNameAnnotation : String := "opensearchuser/name"
def OsUserNamespaceAnnotation : String := "opensearchuser/namespace"

def OpensearchFinalizer : String := "opensearch.org/opensearch-data"

structure SecretKeySelector where
  name : String
  key : String
  deriving DecidableEq, Repr

structure UserSpec where
  opensearchRef : String
  passwordFrom : SecretKeySelector
  opendistroSecurityRoles : List String
  backendRoles : List String
  attributes : Labels
  deriving DecidableEq, Repr

abbrev OpensearchUser := Generic.Resource UserSpec Unit

structure User where
  password : String
  opendistroSecurityRoles : List String
  backendRoles : List String
  attributes : Labels
  deriving DecidableEq, Repr

structure PasswordSecret where
  resourceVersion : Nat
  annotations : Labels
  data : Labels
  deriving DecidableEq, Repr

inductive Call where
  | getUser
  | updateUser (resource : OpensearchUser)
  | updateUserStatus (resource : OpensearchUser)
  | getCluster (name : String)
  | createClient
  | getSecret (name : String)
  | createSecret (name : String) (secret : PasswordSecret)
  | getInternalUser (username : String)
  | putInternalUser (username : String) (user : User)
  | deleteInternalUser (username : String)
  deriving DecidableEq

@[reducible] def Call.Payload : Call → Type
  | .getUser => OpensearchUser
  | .updateUser _ => OpensearchUser
  | .updateUserStatus _ => OpensearchUser
  | .getCluster _ => ReferredCluster
  | .getSecret _ => PasswordSecret
  | .createSecret _ _ => PasswordSecret
  | .getInternalUser _ => Option User
  | _ => Unit

abbrev users : Interface where
  Call := Call
  Reply := fun op => Except ApiError op.Payload

abbrev UserProg (α : Type) := Program users α

structure UserWorld where
  revision : Nat
  user : Option OpensearchUser
  clusters : String → Option ReferredCluster
  secrets : String → Option PasswordSecret
  internalUsers : String → Option User

section Server

def setAt {α : Type} (entries : String → α) (name : String) (value : α) : String → α :=
  fun other => if other = name then value else entries other

def storeSecret (revision : Nat) (current secret : PasswordSecret) : PasswordSecret :=
  let annotations := secret.annotations.merge current.annotations
  if annotations = current.annotations ∧ secret.data = current.data then current
  else ⟨revision, annotations, secret.data⟩

def serveCall (s : UserWorld) : (op : Call) → Except ApiError op.Payload × UserWorld
  | .getUser => (found s.user, s)
  | .updateUser resource =>
    let (reply, stored) := updateStored Generic.keepStatus (s.revision + 1) s.user resource
    (reply, { s with revision := s.revision + 1, user := stored })
  | .updateUserStatus resource =>
    match s.user with
    | none => (.error .notFound, s)
    | some current =>
      if resource.uid ≠ current.uid ∨
          resource.resourceVersion ≠ current.resourceVersion then (.error .conflict, s)
      else
        let updated := { current with
          resourceVersion := s.revision + 1, status := resource.status }
        (.ok updated, { s with revision := s.revision + 1, user := some updated })
  | .getCluster name => (found (s.clusters name), s)
  | .createClient => (.ok (), s)
  | .getSecret name => (found (s.secrets name), s)
  | .createSecret name secret =>
    match s.secrets name with
    -- The object carries the version of the secret that was read, so it cannot be created.
    | none => (.error .invalid, s)
    | some current =>
      let stored := storeSecret (s.revision + 1) current secret
      (.ok stored, { s with
        revision := s.revision + 1, secrets := setAt s.secrets name (some stored) })
  | .getInternalUser username =>
    (.ok ((s.internalUsers username).map fun user => { user with password := "" }), s)
  | .putInternalUser username user =>
    (.ok (), { s with internalUsers := setAt s.internalUsers username (some user) })
  | .deleteInternalUser username =>
    match s.internalUsers username with
    | none => (.error .notFound, s)
    | some _ => (.ok (), { s with internalUsers := setAt s.internalUsers username none })

structure UserChoice where
  others : UserWorld → UserWorld := id
  outcome : Outcome := .served

def answerCall (choice : UserChoice) (s : UserWorld) (op : Call) :
    Except ApiError op.Payload × UserWorld :=
  match choice.outcome with
  | .served => serveCall s op
  | .refused fault => (.error fault.error, s)
  | .lost => (.error .unavailable, (serveCall s op).2)

abbrev userServer : Server users where
  State := UserWorld
  Choice := UserChoice
  disturb choice := choice.others
  answer := answerCall

end Server

abbrev ask (op : Call) : UserProg (Except ApiError op.Payload) := Program.ask (I := users) op

section Gateway

def unmanagedUser : Failure := .text "user resource not currently managed by kubernetes"
def uidsDontMatch : Failure := .text "kubernetes resource conflict; uids don't match"

def sameAttributes (left right : Labels) : Bool :=
  (left ++ right).all fun entry => left.get entry.1 == right.get entry.1

def sameUser (left right : User) : Bool :=
  left.password == right.password &&
    left.opendistroSecurityRoles == right.opendistroSecurityRoles &&
    left.backendRoles == right.backendRoles && sameAttributes left.attributes right.attributes

def compareUser (user existing : User) : Except Failure Bool :=
  match existing.attributes.get K8sAttributeField with
  | none => .error unmanagedUser
  | some existingUID =>
    if existingUID ≠ (user.attributes.get K8sAttributeField).getD "" then .error uidsDontMatch
    else .ok (!sameUser { user with password := "" } existing)

def shouldUpdateUser (username : String) (user : User) : UserProg (Except Failure Bool) := do
  match ← ask (.getInternalUser username) with
  | .error err => return .error (.api err)
  | .ok none => return .ok true
  | .ok (some existing) => return compareUser user existing

def userExists (username : String) : UserProg (Except Failure Bool) := do
  match ← ask (.getInternalUser username) with
  | .error err => return .error (.api err)
  | .ok user => return .ok user.isSome

def userUIDMatches (username uid : String) : UserProg (Except Failure Bool) := do
  match ← ask (.getInternalUser username) with
  | .error err => return .error (.api err)
  | .ok none => return .error (.text "response from API is 404 Not Found")
  | .ok (some existing) => return .ok (existing.attributes.get K8sAttributeField == some uid)

end Gateway

section Source

def updateStatusAttempt (f : Generic.Status Unit → Generic.Status Unit)
    (resource : OpensearchUser) :
    UserProg (Option ApiError × OpensearchUser) := do
  match ← ask .getUser with
  | .error err => return (some err, resource)
  | .ok stored =>
    let resource := { stored with status := f stored.status }
    match ← ask (.updateUserStatus resource) with
    | .error err => return (some err, resource)
    | .ok updated => return (none, updated)

def updateObjectStatus (f : Generic.Status Unit → Generic.Status Unit) (resource : OpensearchUser) :
    UserProg (Option ApiError × OpensearchUser) :=
  retry (fun err => err == some .conflict) (updateStatusAttempt f) 4 resource

/-- The annotations that lead from the secret back to the user. A secret with several
keys may serve several users. -/
def annotateSecret (username userNamespace : String) (secret : PasswordSecret) : PasswordSecret :=
  { secret with annotations :=
      Labels.merge ((if secret.data.length = 1 then [.mk OsUserNameAnnotation username] else []) ++
        [.mk OsUserNamespaceAnnotation userNamespace]) secret.annotations }

def managePasswordSecret (resource : OpensearchUser) (username userNamespace : String) :
    UserProg (Except ApiError PasswordSecret) := do
  match ← ask (.getSecret resource.spec.passwordFrom.name) with
  | .error err => return .error err
  | .ok secret => ask (.createSecret resource.spec.passwordFrom.name
      (annotateSecret username userNamespace secret))

def desiredUser (resource : OpensearchUser) (userSecret : PasswordSecret) (userPassword : String) :
    User where
  password := userPassword
  opendistroSecurityRoles := resource.spec.opendistroSecurityRoles
  backendRoles := resource.spec.backendRoles
  attributes := Labels.merge [(K8sAttributeField, resource.uid),
      (K8sAttributeSecretVersionField, toString userSecret.resourceVersion)]
    resource.spec.attributes

def synced : Result := { requeue := true, requeueAfter := seconds 30 }

def syncUser (username : String) (user : User) : UserProg Verdict := do
  match ← shouldUpdateUser username user with
  | .error err =>
    return { err := some err, reason := "failed to get user status from Opensearch API" }
  | .ok false => return { result := synced }
  | .ok true =>
    match ← ask (.putInternalUser username user) with
    | .error err => return { result := synced, err := some (.api err)
                             reason := "failed to get update user with Opensearch API" }
    | .ok _ => return { result := synced }

/-- `Reconcile` once the cluster is known to be the right one. A missing key leaves the
reason empty. -/
def provisionUser (cluster : ReferredCluster) (username userNamespace : String)
    (resource : OpensearchUser) : UserProg Verdict := do
  if cluster.phase ≠ "RUNNING" then
    return waiting "waiting for opensearch cluster status to be running"
  else
    match ← ask .createClient with
    | .error err => return failed "error creating opensearch client" err
    | .ok _ =>
      match ← managePasswordSecret resource username userNamespace with
      | .error err => return failed "failed to get user secret" err
      | .ok userSecret =>
        match userSecret.data.get resource.spec.passwordFrom.key with
        | none => return { err := some (.text
            ("key " ++ resource.spec.passwordFrom.key ++ " does not exist in secret")) }
        | some userPassword =>
          syncUser username (desiredUser resource userSecret userPassword)

def wrongCluster : String := "cannot change the cluster a user refers to"

def provision (username userNamespace : String) (resource : OpensearchUser) : UserProg Verdict := do
  match ← ask (.getCluster resource.spec.opensearchRef) with
  | .error .notFound => return waiting "waiting for opensearch cluster to exist"
  | .error err => return failed "error fetching opensearch cluster" err
  | .ok cluster =>
    match resource.status.managedCluster with
    | some uid =>
      if uid ≠ cluster.uid then return { err := some (.text wrongCluster), reason := wrongCluster }
      else provisionUser cluster username userNamespace resource
    | none =>
      match ← updateObjectStatus
        (fun status => { status with managedCluster := some cluster.uid }) resource with
      -- The source appends the text of the error to this reason.
      | (some err, _) => return failed "failed to update status" err
      | (none, resource) => provisionUser cluster username userNamespace resource

def recordVerdict (verdict : Verdict) (status : Generic.Status Unit) : Generic.Status Unit :=
  let state := if verdict.err.isSome then "ERROR" else status.state
  let state := if verdict.result.requeue ∧ verdict.result.requeueAfter = seconds 10 then "PENDING"
    else state
  let state := if verdict.err = none ∧ verdict.result.requeueAfter = seconds 30 then "CREATED"
    else state
  { status with reason := verdict.reason, state }

def reconcile (username userNamespace : String) (resource : OpensearchUser) : UserProg Verdict := do
  let verdict ← provision username userNamespace resource
  let _ ← updateObjectStatus (recordVerdict verdict) resource
  return verdict

def deleteOwned (username uid : String) : UserProg (Option Failure) := do
  match ← userExists username with
  | .error err => return some err
  | .ok false => return none
  | .ok true =>
    match ← userUIDMatches username uid with
    | .error err => return some err
    | .ok false => return none
    | .ok true =>
      match ← ask (.deleteInternalUser username) with
      | .error err => return some (.api err)
      | .ok _ => return none

def delete (username : String) (resource : OpensearchUser) : UserProg (Option Failure) := do
  match ← ask (.getCluster resource.spec.opensearchRef) with
  | .error .notFound => return none
  | .error err => return some (.api err)
  | .ok cluster =>
    if cluster.deleting then return none
    else
      match ← ask .createClient with
      | .error err => return some (.api err)
      | .ok _ => deleteOwned username resource.uid

/-- What became of a pass: nothing to do, an error before `Reconcile` or in `Delete`, a run
of `Reconcile`, or a `Delete` that succeeded and the removal of the finalizer after it. -/
inductive Handled where
  | nothing
  | failed (err : Failure)
  | reconciled (verdict : Verdict)
  | deleted (err : Option ApiError)
  deriving DecidableEq, Repr

def addFinalizer (resource : OpensearchUser) : OpensearchUser :=
  if resource.finalizers.contains OpensearchFinalizer then resource
  else { resource with finalizers := resource.finalizers ++ [OpensearchFinalizer] }

def userPass (username userNamespace : String) : UserProg Handled := do
  match ← ask .getUser with
  | .error .notFound => return .nothing
  | .error err => return .failed (.api err)
  | .ok resource =>
    if !resource.deleting then
      match ← ask (.updateUser (addFinalizer resource)) with
      | .error err => return .failed (.api err)
      | .ok resource =>
        let verdict ← reconcile username userNamespace resource
        return .reconciled verdict
    else if resource.finalizers.contains OpensearchFinalizer then
      match ← delete username resource with
      | some err => return .failed err
      | none =>
        match ← ask (.updateUser { resource with
          finalizers := removeString resource.finalizers OpensearchFinalizer }) with
        | .error err => return .deleted (some err)
        | .ok _ => return .deleted none
    else return .nothing

end Source

end OpenSearchOperator.Security.Users
