import OpenSearchOperator.Api.Server
import OpenSearchOperator.Effects.Retry

/-! The controller of user role bindings. A binding grants roles to users and to
backend roles; the grants live in the role mappings of the OpenSearch cluster. -/

namespace OpenSearchOperator.Security

open Api Effects

structure BindingSpec where
  roles : List String
  users : List String
  backendRoles : List String
  deriving DecidableEq, Repr

inductive BindingState where
  | unset
  | pending
  | created
  | error
  deriving DecidableEq, Repr

structure BindingStatus where
  state : BindingState
  reason : String
  managedCluster : Option String
  provisionedRoles : List String
  provisionedUsers : List String
  provisionedBackendRoles : List String
  deriving DecidableEq, Repr

structure UserRoleBinding where
  resourceVersion : Nat
  finalizer : Bool
  deleting : Bool
  spec : BindingSpec
  status : BindingStatus
  deriving DecidableEq, Repr

structure RoleMapping where
  backendRoles : List String
  hosts : List String
  users : List String
  deriving DecidableEq, Repr

structure ReferredCluster where
  uid : String
  phase : String
  deleting : Bool
  deriving DecidableEq, Repr

/-- `getBinding` is the read at the start of a pass, `rereadBinding` the one that
precedes each status update. -/
inductive Call where
  | getBinding
  | updateBinding (binding : UserRoleBinding)
  | rereadBinding
  | updateBindingStatus (binding : UserRoleBinding)
  | getCluster
  | createClient
  | roleMappingExists (role : String)
  | fetchRoleMapping (role : String)
  | putRoleMapping (role : String) (mapping : RoleMapping)
  | deleteRoleMapping (role : String)
  deriving DecidableEq

@[reducible] def Call.Payload : Call → Type
  | .getBinding => UserRoleBinding
  | .updateBinding _ => UserRoleBinding
  | .rereadBinding => UserRoleBinding
  | .updateBindingStatus _ => UserRoleBinding
  | .getCluster => ReferredCluster
  | .roleMappingExists _ => Bool
  | .fetchRoleMapping _ => RoleMapping
  | _ => Unit

abbrev bindings : Interface where
  Call := Call
  Reply := fun op => Except ApiError op.Payload

abbrev BindingProg (α : Type) := Program bindings α

structure BindingWorld where
  binding : Option UserRoleBinding
  cluster : Option ReferredCluster
  mappings : String → Option RoleMapping

def setMapping (mappings : String → Option RoleMapping) (role : String)
    (mapping : Option RoleMapping) : String → Option RoleMapping :=
  fun other => if other = role then mapping else mappings other

/-- An update of the object leaves the status alone, and the object goes with its
last finalizer. -/
def storeBinding (stored binding : UserRoleBinding) : Option UserRoleBinding :=
  if stored.deleting && !binding.finalizer then none
  else some { stored with
    resourceVersion := stored.resourceVersion + 1, finalizer := binding.finalizer
    spec := binding.spec }

def serveCall (s : BindingWorld) : (op : Call) → Except ApiError op.Payload × BindingWorld
  | .getBinding => (found s.binding, s)
  | .rereadBinding => (found s.binding, s)
  | .updateBinding binding =>
    match s.binding with
    | none => (.error .notFound, s)
    | some stored =>
      if binding.resourceVersion = stored.resourceVersion then
        let updated := storeBinding stored binding
        (.ok (updated.getD binding), { s with binding := updated })
      else (.error .conflict, s)
  | .updateBindingStatus binding =>
    match s.binding with
    | none => (.error .notFound, s)
    | some stored =>
      if binding.resourceVersion = stored.resourceVersion then
        let updated := { stored with
          resourceVersion := stored.resourceVersion + 1, status := binding.status }
        (.ok updated, { s with binding := some updated })
      else (.error .conflict, s)
  | .getCluster => (found s.cluster, s)
  | .createClient => (.ok (), s)
  | .roleMappingExists role => (.ok (s.mappings role).isSome, s)
  | .fetchRoleMapping role => (found (s.mappings role), s)
  | .putRoleMapping role mapping =>
    (.ok (), { s with mappings := setMapping s.mappings role (some mapping) })
  | .deleteRoleMapping role =>
    match s.mappings role with
    | none => (.error .notFound, s)
    | some _ => (.ok (), { s with mappings := setMapping s.mappings role none })

structure BindingChoice where
  others : BindingWorld → BindingWorld := id
  outcome : Outcome := .served

def disturbBinding (choice : BindingChoice) (s : BindingWorld) : BindingWorld :=
  let t := choice.others s
  if t.binding = s.binding then t
  else { t with binding := t.binding.map fun binding => { binding with
    resourceVersion := (s.binding.map UserRoleBinding.resourceVersion).getD 0 + 1 } }

def answerCall (choice : BindingChoice) (s : BindingWorld) (op : Call) :
    Except ApiError op.Payload × BindingWorld :=
  match choice.outcome with
  | .served => serveCall s op
  | .refused fault => (.error fault.error, s)
  | .lost => (.error .unavailable, (serveCall s op).2)

abbrev bindingServer : Server bindings where
  State := BindingWorld
  Choice := BindingChoice
  disturb := disturbBinding
  answer := answerCall

abbrev ask (op : Call) : BindingProg (Except ApiError op.Payload) := Program.ask (I := bindings) op

section Source

def diffSlice (leftSlice rightSlice : List String) : List String :=
  leftSlice.filter (fun x => !rightSlice.contains x)

/-- One attempt of `UdateObjectStatus`. The object it is given is overwritten with
the one that is stored. -/
def updateStatusAttempt (f : UserRoleBinding → BindingStatus) (binding : UserRoleBinding) :
    BindingProg (Option ApiError × UserRoleBinding) := do
  match ← ask .rereadBinding with
  | .error err => return (some err, binding)
  | .ok stored =>
    let binding := { stored with status := f stored }
    match ← ask (.updateBindingStatus binding) with
    | .error err => return (some err, binding)
    | .ok updated => return (none, updated)

def updateObjectStatus (f : UserRoleBinding → BindingStatus) (binding : UserRoleBinding) :
    BindingProg (Option ApiError × UserRoleBinding) :=
  retry (fun err => err == some .conflict) (updateStatusAttempt f) 4 binding

def saveMapping (rolename : String) (mapping : RoleMapping) : BindingProg (Option ApiError) := do
  if mapping.users.length > 0 ∨ mapping.hosts.length > 0 ∨ mapping.backendRoles.length > 0 then
    match ← ask (.putRoleMapping rolename mapping) with
    | .error err => return some err
    | .ok _ => return none
  else
    match ← ask (.deleteRoleMapping rolename) with
    | .error err => return some err
    | .ok _ => return none

def reconcileExistingMapping (binding : UserRoleBinding) (rolename : String)
    (usersToRemove backendRolesToRemove : List String) : BindingProg (Option ApiError) := do
  match ← ask (.fetchRoleMapping rolename) with
  | .error err => return some err
  | .ok mapping =>
    let usersToSave := diffSlice mapping.users usersToRemove
    let backendRolesToSave := diffSlice mapping.backendRoles backendRolesToRemove
    let newUsers := diffSlice binding.spec.users mapping.users
    let newBackendRoles := diffSlice binding.spec.backendRoles mapping.backendRoles
    if newUsers = [] ∧ newBackendRoles = [] ∧ usersToSave.length = mapping.users.length ∧
        backendRolesToSave.length = mapping.backendRoles.length then
      return none
    else saveMapping rolename { mapping with
      users := usersToSave ++ newUsers, backendRoles := backendRolesToSave ++ newBackendRoles }

def removeObjectsFromMapping (rolename : String)
    (usersToRemove backendRolesToRemove : List String) :
    BindingProg (Option ApiError) := do
  match ← ask (.fetchRoleMapping rolename) with
  | .error err => return some err
  | .ok mapping =>
    let usersToSave := diffSlice mapping.users usersToRemove
    let backendRolesToSave := diffSlice mapping.backendRoles backendRolesToRemove
    if usersToSave.length = mapping.users.length ∧ usersToSave.length > 0 ∧
        backendRolesToSave.length = mapping.backendRoles.length ∧
        backendRolesToSave.length > 0 then
      return none
    else saveMapping rolename { mapping with
      users := usersToSave, backendRoles := backendRolesToSave }

def calculateRemovedRoles (binding : UserRoleBinding) : List String :=
  binding.status.provisionedRoles.filter (fun role => !binding.spec.roles.contains role)

structure Verdict where
  result : Result := {}
  err : Option Failure := none
  reason : String := ""
  deriving DecidableEq, Repr

def failed (reason : String) (err : ApiError) : Verdict := { err := some (.api err), reason }

def waiting (reason : String) : Verdict :=
  { result := { requeue := true, requeueAfter := seconds 10 }, reason }

def mappingStatusUnknown : String := "failed to get role mapping status from Opensearch API"
def mappingNotUpdated : String := "failed to update existing role mapping"

def eachRole {ε : Type} (handle : String → BindingProg (Option ε)) :
    List String → BindingProg (Option ε)
  | [] => return none
  | role :: roles => do
      match ← handle role with
      | some err => return some err
      | none => eachRole handle roles

def revokeRole (binding : UserRoleBinding) (removed : String) : BindingProg (Option Verdict) := do
  match ← ask (.roleMappingExists removed) with
  | .error err => return some (failed mappingStatusUnknown err)
  | .ok false => return none
  | .ok true =>
    let err ← removeObjectsFromMapping removed binding.status.provisionedUsers
      binding.status.provisionedBackendRoles
    return err.map (failed mappingNotUpdated)

def grantRole (binding : UserRoleBinding) (role : String) : BindingProg (Option Verdict) := do
  match ← ask (.roleMappingExists role) with
  | .error err => return some (failed mappingStatusUnknown err)
  | .ok true =>
    let removedUsers := diffSlice binding.status.provisionedUsers binding.spec.users
    let removedBackendRoles :=
      diffSlice binding.status.provisionedBackendRoles binding.spec.backendRoles
    let err ← reconcileExistingMapping binding role removedUsers removedBackendRoles
    return err.map (failed mappingNotUpdated)
  | .ok false =>
    match ← ask (.putRoleMapping role
      { backendRoles := binding.spec.backendRoles, hosts := [], users := binding.spec.users }) with
    | .error err => return some (failed "failed to create role mapping" err)
    | .ok _ => return none

/-- `Reconcile` once the cluster is known to be the right one. -/
def provisionRoles (cluster : ReferredCluster) (binding : UserRoleBinding) :
    BindingProg Verdict := do
  if cluster.phase ≠ "RUNNING" then
    return waiting "waiting for opensearch cluster status to be running"
  else
    match ← ask .createClient with
    | .error err => return failed "error creating opensearch client" err
    | .ok _ =>
      match ← eachRole (revokeRole binding) (calculateRemovedRoles binding) with
      | some verdict => return verdict
      | none =>
        match ← eachRole (grantRole binding) binding.spec.roles with
        | some verdict => return verdict
        | none => return { result := { requeue := true, requeueAfter := seconds 30 } }

def wrongCluster : String := "cannot change the cluster a userrolebinding refers to"

def provision (binding : UserRoleBinding) : BindingProg Verdict := do
  match ← ask .getCluster with
  | .error .notFound => return waiting "waiting for opensearch cluster to exist"
  | .error err => return failed "error fetching opensearch cluster" err
  | .ok cluster =>
    match binding.status.managedCluster with
    | some uid =>
      if uid ≠ cluster.uid then return { err := some (.text wrongCluster), reason := wrongCluster }
      else provisionRoles cluster binding
    | none =>
      match ← updateObjectStatus
        (fun stored => { stored.status with managedCluster := some cluster.uid }) binding with
      -- The source appends the text of the error to this reason.
      | (some err, _) => return failed "failed to update status" err
      | (none, binding) => provisionRoles cluster binding

def recordVerdict (verdict : Verdict) (stored : UserRoleBinding) : BindingStatus :=
  let state := if verdict.err.isSome then .error else stored.status.state
  let state := if verdict.result.requeue ∧ verdict.result.requeueAfter = seconds 10 then .pending
    else state
  if verdict.err = none ∧ verdict.result.requeueAfter = seconds 30 then
    { stored.status with
      reason := verdict.reason, provisionedRoles := stored.spec.roles
      provisionedBackendRoles := stored.spec.backendRoles, provisionedUsers := stored.spec.users
      state := .created }
  else { stored.status with reason := verdict.reason, state := state }

def reconcile (binding : UserRoleBinding) : BindingProg (Verdict × Option ApiError) := do
  let verdict ← provision binding
  let (logged, _) ← updateObjectStatus (recordVerdict verdict) binding
  return (verdict, logged)

def deleteRole (binding : UserRoleBinding) (role : String) : BindingProg (Option ApiError) := do
  match ← ask (.roleMappingExists role) with
  | .error err => return some err
  | .ok false => return none
  | .ok true =>
    removeObjectsFromMapping role binding.status.provisionedUsers
      binding.status.provisionedBackendRoles

def delete (binding : UserRoleBinding) : BindingProg (Option ApiError) := do
  match ← ask .getCluster with
  | .error .notFound => return none
  | .error err => return some err
  | .ok cluster =>
    if cluster.deleting then return none
    else
      match ← ask .createClient with
      | .error err => return some err
      | .ok _ => eachRole (deleteRole binding) binding.status.provisionedRoles

/-- What became of a pass: nothing to do, an error before or in `Delete`, a run of
`Reconcile`, or a `Delete` that succeeded and the removal of the finalizer after it. -/
inductive Handled where
  | nothing
  | failed (err : ApiError)
  | reconciled (verdict : Verdict) (logged : Option ApiError)
  | deleted (err : Option ApiError)
  deriving DecidableEq, Repr

def bindingPass : BindingProg Handled := do
  match ← ask .getBinding with
  | .error .notFound => return .nothing
  | .error err => return .failed err
  | .ok binding =>
    if !binding.deleting then
      match ← ask (.updateBinding { binding with finalizer := true }) with
      | .error err => return .failed err
      | .ok binding =>
        let (verdict, logged) ← reconcile binding
        return .reconciled verdict logged
    else if binding.finalizer then
      match ← delete binding with
      | some err => return .failed err
      | none =>
        match ← ask (.updateBinding { binding with finalizer := false }) with
        | .error err => return .deleted (some err)
        | .ok _ => return .deleted none
    else return .nothing

end Source

end OpenSearchOperator.Security
