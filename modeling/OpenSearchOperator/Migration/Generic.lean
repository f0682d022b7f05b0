import OpenSearchOperator.Migration.Pair

/-! The controllers that move the other kinds of resources to the new API group: users,
roles, role bindings, tenants, action groups, policies and templates. They are one
program; the kinds differ in their spec and in the rest of their status. -/

namespace OpenSearchOperator.Migration.Generic

open Api Effects HasMeta

def OldResourceFinalizer : String := "opster.io/opensearch-data"

structure Status (Rest : Type) where
  state : String
  reason : String
  managedCluster : Option String
  rest : Rest
  deriving DecidableEq, Repr

structure Resource (Spec Rest : Type) where
  uid : String
  resourceVersion : Nat
  labels : Labels
  annotations : Annotations
  finalizers : List String
  deleting : Bool
  spec : Spec
  status : Status Rest
  deriving DecidableEq, Repr

instance (Spec Rest : Type) : HasMeta (Resource Spec Rest) where
  metadata r := ⟨r.uid, r.resourceVersion, r.annotations, r.finalizers, r.deleting⟩
  withMetadata r m := { r with
    uid := m.uid, resourceVersion := m.resourceVersion, annotations := m.annotations
    finalizers := m.finalizers, deleting := m.deleting }
  metadata_withMetadata _ _ := rfl

inductive Call (Spec Rest : Type) where
  | getNew
  | getOld
  | createNew (resource : Resource Spec Rest)
  | updateNew (resource : Resource Spec Rest)
  | updateNewStatus (resource : Resource Spec Rest)
  | updateOld (resource : Resource Spec Rest)
  | deleteOld
  | now

@[reducible] def Call.Payload {Spec Rest : Type} : Call Spec Rest → Type
  | .getNew => Resource Spec Rest
  | .getOld => Resource Spec Rest
  | .updateNew _ => Resource Spec Rest
  | .updateOld _ => Resource Spec Rest
  | _ => Unit

@[reducible] def Call.Reply {Spec Rest : Type} : Call Spec Rest → Type
  | .now => String
  | op => Except ApiError op.Payload

abbrev generic (Spec Rest : Type) : Interface where
  Call := Call Spec Rest
  Reply := Call.Reply

abbrev GenericProg (Spec Rest α : Type) := Program (generic Spec Rest) α

abbrev GenericWorld (Spec Rest : Type) := Pair (Resource Spec Rest)

variable {Spec Rest : Type}

section Server

variable [Inhabited Rest]

def emptyStatus : Status Rest := ⟨"", "", none, default⟩

def keepStatus (current r : Resource Spec Rest) : Resource Spec Rest :=
  { r with status := current.status }

def serveCall (uid : String) (timestamp : String) (s : GenericWorld Spec Rest) :
    (op : Call Spec Rest) → op.Reply × GenericWorld Spec Rest
  | .getNew => (found s.new, s)
  | .getOld => (found s.old, s)
  | .createNew resource =>
    match s.new with
    | some _ => (.error .alreadyExists, s)
    | none => (.ok (), { s with
        revision := s.revision + 1
        new := some { resource with
          uid := uid, resourceVersion := s.revision + 1, deleting := false
          status := emptyStatus } })
  | .updateNew resource =>
    let (reply, stored) := updateStored keepStatus (s.revision + 1) s.new resource
    (reply, { s with revision := s.revision + 1, new := stored })
  | .updateNewStatus resource =>
    match s.new with
    | none => (.error .notFound, s)
    | some current =>
      if resource.uid ≠ current.uid ∨ resource.resourceVersion ≠ current.resourceVersion then
        (.error .conflict, s)
      else (.ok (), { s with
        revision := s.revision + 1
        new := some { current with
          resourceVersion := s.revision + 1, status := resource.status } })
  | .updateOld resource =>
    let (reply, stored) := updateStored keepStatus (s.revision + 1) s.old resource
    (reply, { s with revision := s.revision + 1, old := stored })
  | .deleteOld =>
    match s.old with
    | none => (.error .notFound, s)
    | some current => (.ok (), { s with
        revision := s.revision + 1
        old := if current.finalizers = [] then none
          else some { current with resourceVersion := s.revision + 1, deleting := true } })
  | .now => (timestamp, s)

structure GenericChoice (Spec Rest : Type) where
  others : GenericWorld Spec Rest → GenericWorld Spec Rest := id
  outcome : Outcome := .served
  uid : String := "new"
  timestamp : String := ""

def refresh [DecidableEq Spec] [DecidableEq Rest] (revision : Nat)
    (stored changed : Option (Resource Spec Rest)) : Option (Resource Spec Rest) :=
  if changed = stored then stored
  else changed.map fun resource => { resource with resourceVersion := revision }

def disturbGeneric [DecidableEq Spec] [DecidableEq Rest] (choice : GenericChoice Spec Rest)
    (s : GenericWorld Spec Rest) : GenericWorld Spec Rest where
  revision := s.revision + 1
  old := refresh (s.revision + 1) s.old (choice.others s).old
  new := refresh (s.revision + 1) s.new (choice.others s).new

def failedReply (err : ApiError) (timestamp : String) : (op : Call Spec Rest) → op.Reply
  | .now => timestamp
  | .getNew => .error err
  | .getOld => .error err
  | .createNew _ => .error err
  | .updateNew _ => .error err
  | .updateNewStatus _ => .error err
  | .updateOld _ => .error err
  | .deleteOld => .error err

def answerCall (choice : GenericChoice Spec Rest) (s : GenericWorld Spec Rest)
    (op : Call Spec Rest) : op.Reply × GenericWorld Spec Rest :=
  match choice.outcome with
  | .served => serveCall choice.uid choice.timestamp s op
  | .refused fault => (failedReply fault.error choice.timestamp op, s)
  | .lost => (failedReply .unavailable choice.timestamp op,
      (serveCall choice.uid choice.timestamp s op).2)

abbrev genericServer (Spec Rest : Type) [DecidableEq Spec] [DecidableEq Rest] [Inhabited Rest] :
    Server (generic Spec Rest) where
  State := GenericWorld Spec Rest
  Choice := GenericChoice Spec Rest
  disturb := disturbGeneric
  answer := answerCall

abbrev GenericEvent (Spec Rest : Type) [DecidableEq Spec] [DecidableEq Rest] [Inhabited Rest] :=
  Event (genericServer Spec Rest)

abbrev GenericRun (Spec Rest : Type) [DecidableEq Spec] [DecidableEq Rest] [Inhabited Rest] :=
  World (genericServer Spec Rest)

end Server

abbrev ask (op : Call Spec Rest) : GenericProg Spec Rest op.Reply :=
  Program.ask (I := generic Spec Rest) op

section Source

def isGenericResourceReady (resource : Resource Spec Rest) : Bool :=
  resource.status.state == "CREATED"

def clearManagedCluster (status : Status Rest) : Status Rest :=
  { status with managedCluster := none }

def newFromOld [Inhabited Rest] (oldResource : Resource Spec Rest) (timestamp : String) :
    Resource Spec Rest where
  uid := ""
  resourceVersion := 0
  labels := oldResource.labels
  annotations := Labels.merge
    [.mk MigratedFromAnnotation "opensearch.opster.io/v1",
      .mk MigrationTimestampAnnotation timestamp, .mk SourceUIDAnnotation oldResource.uid]
    oldResource.annotations
  finalizers := []
  deleting := false
  spec := oldResource.spec
  status := emptyStatus

/-- One attempt of `UdateObjectStatus` with the closure that sets the status. -/
def updateStatusAttempt (status : Status Rest) (_ : Unit) :
    GenericProg Spec Rest (Option ApiError × Unit) := do
  match ← ask .getNew with
  | .error err => return (some err, ())
  | .ok stored =>
    match ← ask (.updateNewStatus { stored with status := clearManagedCluster status }) with
    | .error err => return (some err, ())
    | .ok _ => return (none, ())

def updateObjectStatus (status : Status Rest) : GenericProg Spec Rest (Option ApiError × Unit) :=
  retry (fun err => err == some .conflict) (updateStatusAttempt status) 4 ()

def createGenericNewFromOld [Inhabited Rest] (oldResource : Resource Spec Rest) :
    GenericProg Spec Rest Returned := do
  let timestamp ← ask .now
  match ← ask (.createNew (newFromOld oldResource timestamp)) with
  | .error .alreadyExists => return ({}, none)
  | .error err => return ({}, some (.api err))
  | .ok _ =>
    match ← updateObjectStatus oldResource.status with
    | (some err, _) => return ({}, some (.wrapped "failed to update new resource status" err))
    | (none, _) => return ({ requeueAfter := seconds 5 }, none)

def syncGenericOldToNew (_oldResource _newResource : Resource Spec Rest) :
    GenericProg Spec Rest Returned :=
  return ({ requeueAfter := seconds 30 }, none)

def genericMigrator (Spec Rest : Type) [Inhabited Rest] :
    Migrator (generic Spec Rest) (Resource Spec Rest) where
  getNew := ask .getNew
  getOld := ask .getOld
  updateNew resource := ask (.updateNew resource)
  updateOld resource := ask (.updateOld resource)
  deleteOld := ask .deleteOld
  createNewFromOld := createGenericNewFromOld
  syncOldToNew := syncGenericOldToNew
  isReady := isGenericResourceReady
  busy finalizers := finalizers.any (· ≠ MigrationFinalizer)
  oldFinalizer := OldResourceFinalizer

def reconcileGenericMigration (Spec Rest : Type) [Inhabited Rest] :
    GenericProg Spec Rest Returned :=
  (genericMigrator Spec Rest).reconcile

end Source

section Runs

def beforeMigration : GenericRun Unit Unit where
  state :=
    { revision := 1
      old := some
        { uid := "old", resourceVersion := 1, labels := [], annotations := []
          finalizers := [OldResourceFinalizer], deleting := false, spec := ()
          status := ⟨"CREATED", "", some "cluster", ()⟩ }
      new := none }
  past := []

def quietCalls : List (GenericChoice Unit Unit) := List.replicate 20 {}

end Runs

end OpenSearchOperator.Migration.Generic
