import OpenSearchOperator.Migration.Cluster

/-! What the migration of a cluster and that of the other kinds have in common: the
order in which the two resources come and go. It is written once over the calls of a
kind, and proved once for every server that keeps the two resources. -/

namespace OpenSearchOperator.Migration

open Api Effects

structure ObjectMeta where
  uid : String
  resourceVersion : Nat
  annotations : Annotations
  finalizers : List String
  deleting : Bool
  deriving DecidableEq, Repr

class HasMeta (R : Type) where
  metadata : R → ObjectMeta
  withMetadata : R → ObjectMeta → R
  metadata_withMetadata : ∀ r m, metadata (withMetadata r m) = m

open HasMeta

attribute [simp] metadata_withMetadata

section Program

variable {I : Interface} {R : Type} [HasMeta R]

def setFinalizers (r : R) (finalizers : List String) : R :=
  withMetadata r { metadata r with finalizers }

def setAnnotations (r : R) (annotations : Annotations) : R :=
  withMetadata r { metadata r with annotations }

def ObjectMeta.deletedByNewResource (m : ObjectMeta) : Bool :=
  m.annotations.get DeletedByNewResourceAnnotation == some "true"

/-- What one kind of resource brings to its migration. `busy` tells from the finalizers
of the new resource that the main reconciler still cleans up. -/
structure Migrator (I : Interface) (R : Type) where
  getNew : Program I (Except ApiError R)
  getOld : Program I (Except ApiError R)
  updateNew : R → Program I (Except ApiError R)
  updateOld : R → Program I (Except ApiError R)
  deleteOld : Program I (Except ApiError Unit)
  createNewFromOld : R → Program I Returned
  syncOldToNew : R → R → Program I Returned
  isReady : R → Bool
  busy : List String → Bool
  oldFinalizer : String

namespace Migrator

variable (k : Migrator I R)

def handleNewDeletion : Program I Returned := do
  match ← k.getOld with
  | .error .notFound => return ({}, none)
  | .error err => return ({}, some (.api err))
  | .ok oldResource =>
    match ← k.updateOld (setAnnotations oldResource
      (Labels.merge [.mk DeletedByNewResourceAnnotation "true"]
        (metadata oldResource).annotations)) with
    | .error err => return ({}, some (.api err))
    | .ok _ =>
      match ← k.deleteOld with
      | .error .notFound => return ({}, none)
      | .error err => return ({}, some (.api err))
      | .ok _ => return ({}, none)

def removeFinalizers (oldResource : R) : Program I Returned := do
  let finalizers := removeString (metadata oldResource).finalizers MigrationFinalizer
  let finalizers := removeString finalizers k.oldFinalizer
  match ← k.updateOld (setFinalizers oldResource finalizers) with
  | .error err => return ({}, some (.api err))
  | .ok _ => return ({}, none)

def handleOldDeletion (oldResource : R) : Program I Returned := do
  if (metadata oldResource).finalizers.contains MigrationFinalizer then
    match ← k.getNew with
    | .error .notFound =>
      if (metadata oldResource).deletedByNewResource then k.removeFinalizers oldResource
      else return ({ requeueAfter := seconds 5 }, none)
    | .error err => return ({}, some (.api err))
    | .ok _ => k.removeFinalizers oldResource
  else return ({}, none)

def migrateOld (oldResource : R) : Program I Returned := do
  match ← k.getNew with
  | .error .notFound =>
    if (metadata oldResource).deletedByNewResource then
      return ({ requeueAfter := seconds 5 }, none)
    else if !k.isReady oldResource then return ({ requeueAfter := seconds 30 }, none)
    else k.createNewFromOld oldResource
  | .error err => return ({}, some (.api err))
  | .ok newResource => k.syncOldToNew oldResource newResource

def reconcileOld : Program I Returned := do
  match ← k.getOld with
  | .error .notFound => return ({}, none)
  | .error err => return ({}, some (.api err))
  | .ok oldResource =>
    if (metadata oldResource).deleting then k.handleOldDeletion oldResource
    else if !(metadata oldResource).finalizers.contains MigrationFinalizer then
      match ← k.updateOld (setFinalizers oldResource
        ((metadata oldResource).finalizers ++ [MigrationFinalizer])) with
      | .error err => return ({}, some (.api err))
      | .ok oldResource => k.migrateOld oldResource
    else k.migrateOld oldResource

def reconcileNewDeletion (newResource : R) : Program I Returned := do
  if !(metadata newResource).finalizers.contains MigrationFinalizer then return ({}, none)
  else if k.busy (metadata newResource).finalizers then
    return ({ requeueAfter := seconds 5 }, none)
  else
    match ← k.handleNewDeletion with
    | (result, some err) => return (result, some err)
    | (_, none) =>
      match ← k.updateNew (setFinalizers newResource
        (removeString (metadata newResource).finalizers MigrationFinalizer)) with
      | .error err => return ({}, some (.api err))
      | .ok _ => return ({}, none)

def reconcile : Program I Returned := do
  match ← k.getNew with
  | .error _ => k.reconcileOld
  | .ok newResource =>
    if (metadata newResource).deleting then k.reconcileNewDeletion newResource
    else if !(metadata newResource).finalizers.contains MigrationFinalizer then
      match ← k.updateNew (setFinalizers newResource
        ((metadata newResource).finalizers ++ [MigrationFinalizer])) with
      | .error err => return ({}, some (.api err))
      | .ok _ => return ({ requeue := true }, none)
    else k.reconcileOld

structure Within (allowed : I.Call → Prop) : Prop where
  getNew : k.getNew.OnlyCalls allowed
  getOld : k.getOld.OnlyCalls allowed
  updateNew : ∀ r, (k.updateNew r).OnlyCalls allowed
  updateOld : ∀ r, (k.updateOld r).OnlyCalls allowed
  deleteOld : k.deleteOld.OnlyCalls allowed

section Rules

variable {k} {allowed : I.Call → Prop} (within : k.Within allowed)

include within

theorem Within.handleNewDeletion : k.handleNewDeletion.OnlyCalls allowed := by
  apply within.getOld.bindOk
  · intro err
    cases err <;> trivial
  intro oldResource
  apply (within.updateOld _).bindOk
  · exact fun _ => trivial
  intro updated
  apply within.deleteOld.bind
  rintro (⟨_ | _⟩ | _) <;> trivial

theorem Within.reconcileNewDeletion (newResource : R) :
    (k.reconcileNewDeletion newResource).OnlyCalls allowed := by
  rw [Migrator.reconcileNewDeletion]
  split
  · trivial
  split
  · trivial
  apply within.handleNewDeletion.bindDone
  · exact fun _ _ => trivial
  intro result
  apply (within.updateNew _).bind
  intro reply
  cases reply <;> trivial

theorem Within.removeFinalizers (oldResource : R) :
    (k.removeFinalizers oldResource).OnlyCalls allowed := by
  apply (within.updateOld _).bind
  intro reply
  cases reply <;> trivial

theorem Within.handleOldDeletion (oldResource : R) :
    (k.handleOldDeletion oldResource).OnlyCalls allowed := by
  rw [Migrator.handleOldDeletion]
  split
  · apply within.getNew.bind
    intro reply
    cases reply with
    | ok newResource => exact within.removeFinalizers oldResource
    | error err =>
      cases err with
      | notFound =>
        dsimp only
        split
        · exact within.removeFinalizers oldResource
        · trivial
      | _ => trivial
  · trivial

variable {S : Server I} {permit : Event S → Prop} {inv K : World S → Prop}

/-- What the calls of the kind keep, and `migrateOld` keeps for each resource that a read
or an update of the old one can return, a pass keeps. -/
theorem Within.keeps_reconcile (fact : R → Prop) (implied : ∀ w, K w → inv w)
    (kept : ∀ w choice op, allowed op → permit (w.arrive choice op) → K w →
      K (w.extend (w.arrive choice op)))
    (getOld : ∀ w, K w → Safe permit inv k.getOld (OkWith K fun r _ => fact r) w)
    (updateOld : ∀ r w, K w → Safe permit inv (k.updateOld r) (OkWith K fun r _ => fact r) w)
    (migrateOld : ∀ r, fact r → Keeps permit inv K (k.migrateOld r)) :
    Keeps permit inv K k.reconcile := by
  have plain {α : Type} {program : Program I α} (only : program.OnlyCalls allowed) :
      Keeps permit inv K program := keeps_of_calls implied only kept
  have reconcileOld : Keeps permit inv K k.reconcileOld := by
    intro w holds
    apply (getOld w holds).thenOk
    · intro err w holds
      cases err <;> exact holds
    intro oldResource w holds known
    dsimp only
    split
    · exact plain (within.handleOldDeletion oldResource) w holds
    split
    · apply (updateOld _ w holds).thenOk
      · exact fun _ _ holds => holds
      intro updated w holds known
      exact migrateOld updated known w holds
    · exact migrateOld oldResource known w holds
  apply (plain within.getNew).bindOk
  · exact fun _ => reconcileOld
  intro newResource
  dsimp only
  split
  · exact plain (within.reconcileNewDeletion newResource)
  split
  · apply (plain (within.updateNew _)).bind
    intro reply
    cases reply <;> exact keeps_pure _
  · exact reconcileOld

end Rules

end Migrator

end Program

section ClusterKind

instance : HasMeta Cluster where
  metadata cluster := ⟨cluster.uid, cluster.resourceVersion, cluster.annotations,
    cluster.finalizers, cluster.deleting⟩
  withMetadata cluster m := { cluster with
    uid := m.uid, resourceVersion := m.resourceVersion, annotations := m.annotations
    finalizers := m.finalizers, deleting := m.deleting }
  metadata_withMetadata _ _ := rfl

def clusterMigrator (clusterName : String) : Migrator migration Cluster where
  getNew := ask .getNew
  getOld := ask .getOld
  updateNew cluster := ask (.updateNew cluster)
  updateOld cluster := ask (.updateOld cluster)
  deleteOld := ask .deleteOld
  createNewFromOld := createNewFromOld clusterName
  syncOldToNew := syncOldToNew clusterName
  isReady := isClusterReady
  busy finalizers := finalizers.contains "Opensearch"
  oldFinalizer := OldClusterFinalizer

/-! The reconciler of clusters is that of the kind. The two differ in the form of their
case distinctions, so each reply is looked at. -/
section Shape

variable (clusterName : String)

theorem removeFinalizers_eq (oldCluster : Cluster) :
    removeFinalizers oldCluster = (clusterMigrator clusterName).removeFinalizers oldCluster := by
  apply congrArg (Program.call _)
  funext reply
  cases reply <;> rfl

theorem handleNewClusterDeletion_eq :
    handleNewClusterDeletion = (clusterMigrator clusterName).handleNewDeletion := by
  apply congrArg (Program.call _)
  funext reply
  rcases reply with ⟨_ | _⟩ | oldCluster <;> try rfl
  apply congrArg (Program.call _)
  funext reply
  cases reply with
  | error err => rfl
  | ok updated =>
    apply congrArg (Program.call _)
    funext reply
    rcases reply with ⟨_ | _⟩ | _ <;> rfl

theorem handleOldClusterDeletion_eq (oldCluster : Cluster) : handleOldClusterDeletion oldCluster =
      (clusterMigrator clusterName).handleOldDeletion oldCluster := by
  apply if_congr Iff.rfl _ rfl
  apply congrArg (Program.call _)
  funext reply
  rcases reply with ⟨_ | _⟩ | _ <;> try rfl
  · exact if_congr Iff.rfl (removeFinalizers_eq clusterName oldCluster) rfl
  · exact removeFinalizers_eq clusterName oldCluster

theorem migrateOld_eq (oldCluster : Cluster) :
    migrateOld clusterName oldCluster = (clusterMigrator clusterName).migrateOld oldCluster := by
  apply congrArg (Program.call _)
  funext reply
  rcases reply with ⟨_ | _⟩ | _ <;> rfl

theorem reconcileOld_eq :
    reconcileOld clusterName = (clusterMigrator clusterName).reconcileOld := by
  apply congrArg (Program.call _)
  funext reply
  rcases reply with ⟨_ | _⟩ | oldCluster <;> try rfl
  apply if_congr Iff.rfl (handleOldClusterDeletion_eq clusterName oldCluster)
  apply if_congr Iff.rfl _ (migrateOld_eq clusterName oldCluster)
  apply congrArg (Program.call _)
  funext reply
  cases reply with
  | error err => rfl
  | ok updated => exact migrateOld_eq clusterName updated

theorem reconcileNewDeletion_eq (newCluster : Cluster) : reconcileNewDeletion newCluster =
      (clusterMigrator clusterName).reconcileNewDeletion newCluster := by
  apply if_congr Iff.rfl rfl
  apply if_congr Iff.rfl rfl
  rw [handleNewClusterDeletion_eq clusterName]
  apply congrArg (Program.bind _)
  funext ⟨result, err⟩
  cases err with
  | some err => rfl
  | none =>
    apply congrArg (Program.call _)
    funext reply
    cases reply <;> rfl

theorem reconcile_eq : reconcile clusterName = (clusterMigrator clusterName).reconcile := by
  apply congrArg (Program.call _)
  funext reply
  cases reply with
  | error err => exact reconcileOld_eq clusterName
  | ok newCluster =>
    apply if_congr Iff.rfl (reconcileNewDeletion_eq clusterName newCluster)
    apply if_congr Iff.rfl _ (reconcileOld_eq clusterName)
    apply congrArg (Program.call _)
    funext reply
    cases reply <;> rfl

end Shape

end ClusterKind

end OpenSearchOperator.Migration
