import OpenSearchOperator.Security.UserRoleBinding

/-! Custom resources that stand for an object inside OpenSearch: policies, templates, roles,
tenants and action groups. Their controllers share the shape of the resource, the way its
status is updated and the handling of finalizers; they differ in how the object is kept. -/

namespace OpenSearchOperator.Managed

open Api Effects
open Security (ReferredCluster Verdict)

inductive ObjectState where
  | unset
  | pending
  | created
  | error
  | ignored
  deriving DecidableEq, Repr

/-- `existing` is the flag that tells whether OpenSearch had the object before
(`ExistingISMPolicy`, `ExistingRole` and so on), and `objectName` the name that the last
successful pass used (`PolicyId`, `IndexTemplateName` and so on; kinds without such a field
leave it empty). -/
structure ObjectStatus where
  state : ObjectState := .unset
  reason : String := ""
  existing : Option Bool := none
  managedCluster : Option String := none
  objectName : String := ""
  deriving DecidableEq, Repr

structure Resource (Spec : Type) where
  resourceVersion : Nat := 0
  finalizer : Bool := false
  deleting : Bool := false
  spec : Spec
  status : ObjectStatus := {}
  deriving DecidableEq, Repr

structure StoredObject (Doc : Type) where
  sequenceNumber : Nat
  primaryTerm : Nat
  document : Doc
  deriving DecidableEq, Repr

structure ObjectResponse (Doc : Type) extends StoredObject Doc where
  name : String
  deriving DecidableEq, Repr

/-- `getResource` is the read at the start of a pass, `rereadResource` the one that precedes
each status update. `putObject` creates an object or replaces it; `createObject` fails where
there is one, and `updateObject` where it has changed. -/
inductive Call (Spec Doc : Type) where
  | getResource
  | updateResource (resource : Resource Spec)
  | rereadResource
  | updateResourceStatus (resource : Resource Spec)
  | getCluster
  | createClient
  | getObject (name : String)
  | createObject (name : String) (document : Doc)
  | updateObject (name : String) (sequenceNumber primaryTerm : Nat) (document : Doc)
  | putObject (name : String) (document : Doc)
  | deleteObject (name : String)
  | getIndices (pattern : String)
  | addPolicyToIndex (index name : String)
  deriving DecidableEq

/-- An object that OpenSearch does not have is a reply to `getObject`, not an error. -/
@[reducible] def Call.Payload {Spec Doc : Type} : Call Spec Doc → Type
  | .getResource => Resource Spec
  | .updateResource _ => Resource Spec
  | .rereadResource => Resource Spec
  | .updateResourceStatus _ => Resource Spec
  | .getCluster => ReferredCluster
  | .getObject _ => Option (ObjectResponse Doc)
  | .getIndices _ => List String
  | _ => Unit

abbrev managed (Spec Doc : Type) : Interface where
  Call := Call Spec Doc
  Reply := fun op => Except ApiError op.Payload

abbrev ManagedProg (Spec Doc α : Type) := Program (managed Spec Doc) α

structure ManagedWorld (Spec Doc : Type) where
  revision : Nat := 0
  resource : Option (Resource Spec)
  cluster : Option ReferredCluster
  objects : String → Option (StoredObject Doc)
  indices : String → List String := fun _ => []

variable {Spec Doc : Type}

section Server

def setObject (objects : String → Option (StoredObject Doc)) (name : String)
    (object : Option (StoredObject Doc)) : String → Option (StoredObject Doc) :=
  fun other => if other = name then object else objects other

/-- Every change of the resource gives it a version that was never used before. -/
def storeResource (s : ManagedWorld Spec Doc) (resource : Option (Resource Spec)) :
    ManagedWorld Spec Doc :=
  { s with
    revision := s.revision + 1
    resource := resource.map fun resource => { resource with resourceVersion := s.revision + 1 } }

/-- An update of the object leaves the status alone, and the object goes with its last
finalizer. -/
def updatedResource (stored resource : Resource Spec) : Option (Resource Spec) :=
  if stored.deleting && !resource.finalizer then none
  else some { stored with finalizer := resource.finalizer, spec := resource.spec }

/-- `returned` is what OpenSearch makes of a document that it stores under a name. -/
def serveCall (returned : String → Doc → Doc) (s : ManagedWorld Spec Doc) :
    (op : Call Spec Doc) → Except ApiError op.Payload × ManagedWorld Spec Doc
  | .getResource => (found s.resource, s)
  | .rereadResource => (found s.resource, s)
  | .updateResource resource =>
    match s.resource with
    | none => (.error .notFound, s)
    | some stored =>
      if resource.resourceVersion = stored.resourceVersion then
        let later := storeResource s (updatedResource stored resource)
        (.ok (later.resource.getD resource), later)
      else (.error .conflict, s)
  | .updateResourceStatus resource =>
    match s.resource with
    | none => (.error .notFound, s)
    | some stored =>
      if resource.resourceVersion = stored.resourceVersion then
        let updated := { stored with
          resourceVersion := s.revision + 1, status := resource.status }
        (.ok updated, { s with revision := s.revision + 1, resource := some updated })
      else (.error .conflict, s)
  | .getCluster => (found s.cluster, s)
  | .createClient => (.ok (), s)
  | .getObject name =>
    (.ok ((s.objects name).map fun stored =>
      { toStoredObject := { stored with document := returned name stored.document }
        name := name }), s)
  | .createObject name document =>
    match s.objects name with
    | some _ => (.error .conflict, s)
    | none =>
      (.ok (), { s with objects := setObject s.objects name (some ⟨0, 1, document⟩) })
  | .updateObject name sequenceNumber primaryTerm document =>
    match s.objects name with
    | none => (.error .conflict, s)
    | some stored =>
      if stored.sequenceNumber = sequenceNumber ∧ stored.primaryTerm = primaryTerm then
        let updated := ⟨sequenceNumber + 1, primaryTerm, document⟩
        (.ok (), { s with objects := setObject s.objects name (some updated) })
      else (.error .conflict, s)
  | .putObject name document =>
    (.ok (), { s with objects := setObject s.objects name (some ⟨0, 1, document⟩) })
  | .deleteObject name =>
    match s.objects name with
    | none => (.error .notFound, s)
    | some _ => (.ok (), { s with objects := setObject s.objects name none })
  | .getIndices pattern => (.ok (s.indices pattern), s)
  | .addPolicyToIndex _ _ => (.ok (), s)

structure ManagedChoice (Spec Doc : Type) where
  others : ManagedWorld Spec Doc → ManagedWorld Spec Doc := id
  outcome : Outcome := .served

def disturbManaged [DecidableEq Spec] (choice : ManagedChoice Spec Doc)
    (s : ManagedWorld Spec Doc) : ManagedWorld Spec Doc :=
  let t := { choice.others s with revision := s.revision }
  if t.resource = s.resource then t else storeResource t t.resource

def answerCall (returned : String → Doc → Doc) (choice : ManagedChoice Spec Doc)
    (s : ManagedWorld Spec Doc) (op : Call Spec Doc) :
    Except ApiError op.Payload × ManagedWorld Spec Doc :=
  match choice.outcome with
  | .served => serveCall returned s op
  | .refused fault => (.error fault.error, s)
  | .lost => (.error .unavailable, (serveCall returned s op).2)

variable (Spec) in
abbrev managedServer [DecidableEq Spec] (returned : String → Doc → Doc) :
    Server (managed Spec Doc) where
  State := ManagedWorld Spec Doc
  Choice := ManagedChoice Spec Doc
  disturb := disturbManaged
  answer := answerCall returned

end Server

abbrev ask (op : Call Spec Doc) : ManagedProg Spec Doc (Except ApiError op.Payload) :=
  Program.ask (I := managed Spec Doc) op

section Source

/-- One attempt of `UdateObjectStatus`. The resource it is given is overwritten with the one
that is stored. -/
def updateStatusAttempt (f : ObjectStatus → ObjectStatus) (resource : Resource Spec) :
    ManagedProg Spec Doc (Option ApiError × Resource Spec) := do
  match ← ask .rereadResource with
  | .error err => return (some err, resource)
  | .ok stored =>
    let resource := { stored with status := f stored.status }
    match ← ask (.updateResourceStatus resource) with
    | .error err => return (some err, resource)
    | .ok updated => return (none, updated)

def updateObjectStatus (f : ObjectStatus → ObjectStatus) (resource : Resource Spec) :
    ManagedProg Spec Doc (Option ApiError × Resource Spec) :=
  retry (fun err => err == some .conflict) (updateStatusAttempt f) 4 resource

def markManaged (uid : String) (status : ObjectStatus) : ObjectStatus :=
  { status with managedCluster := some uid }

def markExisting (existing : Bool) (status : ObjectStatus) : ObjectStatus :=
  { status with existing := some existing }

def opensearchClusterRequeueAfter : Int := seconds 10
def defaultRequeueAfter : Int := seconds 30

/-- What became of a pass: nothing to do, an error before `Reconcile` or in `Delete`, a run
of `Reconcile`, or a `Delete` that succeeded and the removal of the finalizer after it. -/
inductive Handled where
  | nothing
  | failed (err : ApiError)
  | reconciled (verdict : Verdict)
  | deleted (err : Option ApiError)
  deriving DecidableEq, Repr

def managedPass (reconcile : Resource Spec → ManagedProg Spec Doc Verdict)
    (delete : Resource Spec → ManagedProg Spec Doc (Option ApiError)) :
    ManagedProg Spec Doc Handled := do
  match ← ask .getResource with
  | .error .notFound => return .nothing
  | .error err => return .failed err
  | .ok resource =>
    if !resource.deleting then
      match ← ask (.updateResource { resource with finalizer := true }) with
      | .error err => return .failed err
      | .ok resource =>
        let verdict ← reconcile resource
        return .reconciled verdict
    else if resource.finalizer then
      match ← delete resource with
      | some err => return .failed err
      | none =>
        match ← ask (.updateResource { resource with finalizer := false }) with
        | .error err => return .deleted (some err)
        | .ok _ => return .deleted none
    else return .nothing

end Source

section Samples

/-- Every call is served, and nobody else acts. -/
def quietPass : List (ManagedChoice Spec Doc) := List.replicate 20 {}

/-- OpenSearch returns a document as it was sent. -/
def unaltered (Doc : Type) (_ : String) (document : Doc) : Doc := document

end Samples

end OpenSearchOperator.Managed
