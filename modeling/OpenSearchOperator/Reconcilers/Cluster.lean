import OpenSearchOperator.Reconcilers.EmptyDir
import OpenSearchOperator.Reconcilers.Resource

/-! The cluster reconciler: the StatefulSets of the node pools, and the volumes and
the recovery of the pods that belong to them. -/

namespace OpenSearchOperator.Reconcilers.Cluster

open Api Data Effects
open Helpers Reconcilers.EmptyDir

def defaultDiskSize : Nat := 32212254720

def nodePoolDiskSize (nodePool : NodePool) : Nat :=
  if nodePool.diskSize = 0 then defaultDiskSize else nodePool.diskSize

def usesPVC (nodePool : NodePool) : Bool :=
  match nodePool.persistence with
  | none => true
  | some persistence => persistence.pvc

/-- `builders.NewSTSForNodePool`. The image in the pod template depends on the version. -/
def newSTSForNodePool (cr : OpenSearchCluster) (node : NodePool) (configChecksum : String) :
    StatefulSet where
  name := stsName cr node
  labels := nodePoolLabels cr node
  replicas := node.replicas
  selector := nodePoolLabels cr node
  podManagementPolicy := .orderedReady
  volumeClaimTemplates := if usesPVC node then [nodePoolDiskSize node] else []
  podTemplate := cr.spec.general.version ++ "/" ++ configChecksum ++ "/" ++ node.podTemplate
  podEnv := node.podEnv
  deleting := false
  status := ⟨0, 0, 0, 0, "", ""⟩
  versioned := false

abbrev Step (α : Type) := Except (Option Result × Option Failure) α

/-- `if err != nil || result != nil { return result, err }`. -/
def goOn : Option Result × Option Failure × StatefulSet → Step StatefulSet
  | (none, none, sts) => .ok sts
  | (result, err, _) => .error (result, err)

/-- Old StatefulSets select by a role label (issue 311). As the selector cannot
change, they are recreated. -/
def fixSelector (existing sts : StatefulSet) : Prog (Step StatefulSet) := do
  if (existing.selector.get "opensearch.role").isSome then
    note (.recreate sts.name sts.replicas)
    match ← waitForSTSDelete existing with
    | .error err => return .error (none, some err)
    | .ok _ =>
      let reconciled ← reconcileResource sts .created
      return goOn reconciled
  else return .ok sts

def recoverySituation (cr : OpenSearchCluster) (nodePool : NodePool)
    (pvcCount readyReplicas : Int) : Bool :=
  !isUpgradeInProgress cr.status && nodePool.replicas ≤ pvcCount &&
    readyReplicas < nodePool.replicas - 1

def switchToParallel (nodePool : NodePool) (existing sts : StatefulSet) :
    Prog (Option Result × Option Failure) := do
  note (.recreate sts.name sts.replicas)
  match ← waitForSTSDelete existing with
  | .error err => return (none, some err)
  | .ok _ =>
    let sts := { sts with podManagementPolicy := .parallel, versioned := false }
    let (result, err, _) ← reconcileResource sts .present
    match err with
    | some err => return (result, some err)
    | none =>
      match ← waitForSTSReplicas existing nodePool.replicas with
      | .error err => return (some { requeue := true }, some err)
      | .ok _ => return (some { requeue := true }, none)

/-- The decision between the parallel and the ordered mode, for a StatefulSet that
has a status. It gives the StatefulSet with the pods that were counted. -/
def decideRecovery (cr : OpenSearchCluster) (nodePool : NodePool) (existing sts : StatefulSet) :
    Prog (Step StatefulSet) := do
  match ← readyReplicasForNodePool cr nodePool with
  | .error err => return .error (none, some (.api err))
  | .ok readyReplicas =>
    let existing :=
      { existing with status := { existing.status with readyReplicas := readyReplicas } }
    match ← countPVCsForNodePool cr nodePool with
    | .error _ => return .ok existing
    | .ok pvcCount =>
      if recoverySituation cr nodePool pvcCount readyReplicas then
        if existing.podManagementPolicy ≠ .parallel then
          let returned ← switchToParallel nodePool existing sts
          return .error returned
        else return .ok existing
      else if existing.podManagementPolicy = .parallel then
        -- The StatefulSet will be recreated when the desired state is enforced.
        match ← waitForSTSDelete existing with
        | .error err => return .error (none, some err)
        | .ok _ => return .ok existing
      else return .ok existing

def parallelRecovery (enabled : Bool) (cr : OpenSearchCluster) (nodePool : NodePool)
    (existing sts : StatefulSet) : Prog (Step StatefulSet) := do
  if enabled && usesPVC nodePool then
    if existing.status.currentRevision = "" then
      match ← waitForSTSStatus existing with
      | .error err => return .error (some { requeue := true }, some err)
      | .ok new => decideRecovery cr nodePool new sts
    else decideRecovery cr nodePool existing sts
  else return .ok existing

def resizeClaims (cr : OpenSearchCluster) (nodePool : NodePool) : List Nat → Prog (Option Failure)
  | [] => return none
  | i :: rest => do
      let claimName := ordinalName ("data-" ++ cr.name ++ "-" ++ nodePool.component) i
      match ← getPVC claimName with
      | .error err => return some (.api err)
      | .ok pvc =>
        match ← updatePVC { pvc with storage := nodePoolDiskSize nodePool } with
        | .error err => return some (.api err)
        | .ok _ => resizeClaims cr nodePool rest

def deleteSTSWithOrphan (existing : StatefulSet) : Prog (Option Failure) := do
  match ← deleteStatefulSet existing.name .orphan with
  | .error err => return some (.api err)
  | .ok _ => return none

def maybeUpdateVolumes (cr : OpenSearchCluster) (existing : StatefulSet) (nodePool : NodePool) :
    Prog (Option Failure) := do
  match existing.volumeClaimTemplates with
  | [] => deleteSTSWithOrphan existing
  | existingDisk :: _ =>
    if existingDisk = nodePoolDiskSize nodePool then return none
    else
      match ← deleteSTSWithOrphan existing with
      | some err => return some err
      | none => resizeClaims cr nodePool (List.range existing.replicas.toNat)

def relabelPods (labelsToUpdate : Labels) : List Pod → Prog Unit
  | [] => return ()
  | pod :: pods => do
      if pod.deleting then relabelPods labelsToUpdate pods
      else
        -- One that fails does not keep the others from being updated.
        let _ ← updatePodLabels pod.name (labelsToUpdate.merge pod.labels)
        relabelPods labelsToUpdate pods

def updateOrphanedPodLabels (oldSTS newSTS : StatefulSet) : Prog Unit := do
  if oldSTS.selector = newSTS.selector then return ()
  else
    match ← listPods oldSTS.selector with
    | .error _ => return ()
    | .ok pods => relabelPods (newSTS.labels.merge newSTS.selector) pods

def enforceDesired (existing sts : StatefulSet) : Prog (Option Result × Option Failure) := do
  let (result, err, sts) ← reconcileResource sts .present
  if err = some .immutableFieldChange then
    match ← deleteSTSWithOrphan existing with
    | some err => return (some {}, some err)
    | none =>
      let (result, err, _) ← reconcileResource sts .present
      return (result, err)
  else return (result, err)

def keepsEnv (cr : OpenSearchCluster) (nodePool : NodePool) : Bool :=
  cr.status.version ≠ "" && cr.status.version ≠ cr.spec.general.version && !hasDataRole nodePool

/-- The part of `reconcileNodeStatefulSet` behind the two ways to recreate the StatefulSet. -/
def updateNodeStatefulSet (cr : OpenSearchCluster) (nodePool : NodePool)
    (existing sts : StatefulSet) : Prog (Option Result × Option Failure) := do
  let (result, err) ← chore (.podDisruptionBudget nodePool.component)
  match err with
  | some err => return (result, some err)
  | none =>
    let err ← (if usesPVC nodePool then maybeUpdateVolumes cr existing nodePool
      else return none)
    match err with
    | some err => return (result, some err)
    | none =>
      let sts := { sts with
        replicas := existing.replicas
        podEnv := if keepsEnv cr nodePool then existing.podEnv else sts.podEnv }
      updateOrphanedPodLabels existing sts
      enforceDesired existing sts

def reconcileExisting (enabled : Bool) (cr : OpenSearchCluster) (nodePool : NodePool)
    (existing sts : StatefulSet) : Prog (Option Result × Option Failure) := do
  match ← fixSelector existing sts with
  | .error returned => return returned
  | .ok sts =>
    match ← parallelRecovery enabled cr nodePool existing sts with
    | .error returned => return returned
    | .ok existing => updateNodeStatefulSet cr nodePool existing sts

def reconcileNodeStatefulSet (enabled : Bool) (cr : OpenSearchCluster) (nodePool : NodePool) :
    Prog (Option Result × Option Failure) := do
  match ← fetchNodePoolHash nodePool.component with
  | none => return (some { requeue := true }, none)
  | some configHash =>
    let sts := newSTSForNodePool cr nodePool configHash
    note (.turnTo sts.name nodePool.replicas)
    let reconciled ← reconcileResource sts .created
    match goOn reconciled with
    | .error returned => return returned
    | .ok sts =>
      match ← getStatefulSet sts.name with
      | .error err => return (none, some (.api err))
      | .ok existing => reconcileExisting enabled cr nodePool existing sts

def reconcileNodePools (enabled : Bool) (cr : OpenSearchCluster) :
    List NodePool → CombinedResult → Prog CombinedResult
  | [], result => return result
  | nodePool :: nodePools, result => do
      let (sub, err) ← chore (.headlessService nodePool.component)
      let result := result.combine sub err
      let (sub, err) ← reconcileNodeStatefulSet enabled cr nodePool
      reconcileNodePools enabled cr nodePools (result.combine sub err)

def performChores : List Chore → CombinedResult → Prog CombinedResult
  | [], result => return result
  | first :: rest, result => do
      let (sub, err) ← chore first
      performChores rest (result.combine sub err)

def getClusterHealth : Prog String := do
  match ← createClientForCluster with
  | .error _ => return "unknown"
  | .ok _ =>
    match ← getHealth with
    | .error _ => return "unknown"
    | .ok health => return health.status

/-- The ready pods of all node pools. One that cannot be counted leaves the number as it was. -/
def getAvailableOpenSearchNodes (cr : OpenSearchCluster) : List NodePool → Int → Prog Int
  | [], availableNodes => return availableNodes
  | nodePool :: nodePools, availableNodes => do
      match ← getSTSForNodePool cr nodePool with
      | .error _ => return cr.status.availableNodes
      | .ok _ =>
        match ← readyReplicasForNodePool cr nodePool with
        | .error _ => return cr.status.availableNodes
        | .ok readyReplicas =>
          getAvailableOpenSearchNodes cr nodePools (availableNodes + readyReplicas)

def updateClusterStatus (cr : OpenSearchCluster) : Prog (Option Failure) := do
  let health ← getClusterHealth
  let availableNodes ← getAvailableOpenSearchNodes cr cr.spec.nodePools 0
  updateStatus (fun instance_ => { instance_.status with
    health := health
    availableNodes := availableNodes })

/-- The status updates with which `Reconcile` ends, and the check before the last of them. -/
def finishReconcile (cr : OpenSearchCluster) (result : CombinedResult) : Prog CombinedResult := do
  let err ← (if cr.status.version = "" then
      updateStatus (fun instance_ => { instance_.status with version := cr.spec.general.version })
    else return none)
  let result := result.combineErr err
  let (sub, err) ← (if isEmptyDirCluster cr then checkForEmptyDirRecovery cr
    else return (none, none))
  let result := result.combine sub err
  let err ← updateClusterStatus cr
  return result.combineErr err

/-- `enabled` says whether the process allows the parallel recovery mode. -/
def reconcile (enabled : Bool) (cr : OpenSearchCluster) : Prog (Result × Option Failure) := do
  let (_, err) ← chore .credentials
  match err with
  | some err => return ({}, some err)
  | none =>
    let result ← performChores [.serviceMonitor, .clusterService, .discoveryService,
      .randomAdminSecret, .randomContextSecret, .passwordSecret, .bootstrapPVC, .bootstrapPod] {}
    let result ← reconcileNodePools enabled cr cr.spec.nodePools result
    let result ← finishReconcile cr result
    return (result.result, result.err)

def clusterPass (enabled : Bool) : Prog Unit := do
  match ← getOpenSearchCluster with
  | .error _ => return ()
  | .ok cr =>
    let _ ← reconcile enabled cr
    return ()

section Calls

variable {allowed : Call → Prop} {cr : OpenSearchCluster} {nodePool : NodePool}

/-- The calls of the cluster reconciler, but for those that send a StatefulSet or a claim. -/
structure Serves (allowed : Call → Prop) : Prop where
  reads : ∀ op, Reads op → allowed op
  deletes : ∀ sts policy, allowed (.request (.deleteStatefulSet sts policy))
  relabels : ∀ pod labels, allowed (.request (.updatePodLabels pod labels))
  status : ∀ cluster, allowed (.request (.updateClusterStatus cluster))

abbrev Sends (allowed : Call → Prop) : Prop := ∀ sts,
  allowed (.request (.createStatefulSet sts)) ∧ allowed (.request (.updateStatefulSet sts))

structure Maintains (allowed : Call → Prop) (nodePool : NodePool) : Prop
    extends Serves allowed where
  resizes : ∀ pvc : PersistentVolumeClaim, pvc.storage = nodePoolDiskSize nodePool →
    allowed (.request (.updatePVC pvc))

section Served

variable (serves : Serves allowed)

include serves

theorem Serves.inquires {op : Call} (inquires : Inquires op) : allowed op :=
  serves.reads op inquires.reads

theorem Serves.waitForSTSDelete (obj : StatefulSet) :
    (waitForSTSDelete obj).OnlyCalls allowed := by
  apply (onlyCalls_asked (serves.deletes _ _)).bindOk
  · exact fun _ => trivial
  intro _
  exact onlyCalls_pollUntil ((inquires_statefulSetGone).mono fun _ => serves.inquires)

theorem Serves.deleteSTSWithOrphan (existing : StatefulSet) :
    (deleteSTSWithOrphan existing).OnlyCalls allowed :=
  onlyCalls_ask (serves.deletes _ _) fun reply => by cases reply <;> trivial

theorem Serves.relabelPods (labels : Labels) (pods : List Pod) :
    (relabelPods labels pods).OnlyCalls allowed := by
  induction pods with
  | nil => trivial
  | cons pod pods ih =>
    rw [Cluster.relabelPods]
    split
    · exact ih
    · exact onlyCalls_ask (serves.relabels _ _) fun _ => ih

theorem Serves.updateOrphanedPodLabels (oldSTS newSTS : StatefulSet) :
    (updateOrphanedPodLabels oldSTS newSTS).OnlyCalls allowed := by
  rw [Cluster.updateOrphanedPodLabels]
  split
  · trivial
  apply (onlyCalls_asked (serves.reads _ rfl)).bindOk
  · exact fun _ => trivial
  intro pods
  exact serves.relabelPods _ pods

theorem Serves.updateStatus {f : OpenSearchCluster → ClusterStatus} :
    (updateStatus f).OnlyCalls allowed :=
  onlyCalls_updateStatus f (serves.reads _ rfl) fun _ => serves.status _

theorem Serves.recreateCluster : (recreateCluster cr).OnlyCalls allowed := by
  apply (onlyCalls_deleteNodePools (fun _ => serves.inquires) (fun _ => serves.deletes _ _)
    cr _).bindOk
  · exact fun _ => trivial
  intro _
  apply Program.OnlyCalls.bind
  · split
    · exact onlyCalls_asked (serves.reads _ rfl)
    · trivial
  · intro ⟨_, err⟩
    cases err with
    | some err => trivial
    | none =>
      apply serves.updateStatus.bindNone
      · exact fun _ => trivial
      refine onlyCalls_ask (serves.reads _ rfl) fun reply => ?_
      obtain ⟨_, err⟩ := reply
      cases err <;> trivial

theorem Serves.handleDataLoss : (handleDataLoss cr).OnlyCalls allowed := by
  refine onlyCalls_ask (serves.reads _ rfl) fun now => ?_
  split
  · apply serves.updateStatus.bind
    intro err
    cases err <;> trivial
  · split
    · trivial
    · exact serves.recreateCluster

theorem Serves.checkForEmptyDirRecovery : (checkForEmptyDirRecovery cr).OnlyCalls allowed := by
  rw [EmptyDir.checkForEmptyDirRecovery]
  split
  · trivial
  split
  · trivial
  apply ((inquires_collectEmptyDirPodStats cr _ _).mono fun _ => serves.inquires).bindOk
  · exact fun _ => trivial
  intro stats
  refine onlyCalls_ask (serves.reads _ rfl) fun _ => ?_
  split
  · apply Program.OnlyCalls.bind
    · rw [clearEmptyDirRecoveryStatus]
      split
      · trivial
      · exact serves.updateStatus
    · intro err
      cases err <;> trivial
  · exact serves.handleDataLoss

theorem Serves.getAvailableOpenSearchNodes (nodePools : List NodePool) (availableNodes : Int) :
    (getAvailableOpenSearchNodes cr nodePools availableNodes).OnlyCalls allowed := by
  induction nodePools generalizing availableNodes with
  | nil => trivial
  | cons nodePool nodePools ih =>
    apply (onlyCalls_asked (serves.reads _ rfl)).bindOk
    · exact fun _ => trivial
    intro sts
    apply ((reads_readyReplicas nodePool).mono serves.reads).bindOk
    · exact fun _ => trivial
    intro readyReplicas
    exact ih _

theorem Serves.updateClusterStatus : (updateClusterStatus cr).OnlyCalls allowed := by
  apply Program.OnlyCalls.bind
  · apply (onlyCalls_asked (serves.reads _ rfl)).bindOk
    · exact fun _ => trivial
    intro _
    refine onlyCalls_ask (serves.reads _ rfl) fun reply => ?_
    cases reply <;> trivial
  · intro health
    apply (serves.getAvailableOpenSearchNodes _ _).bind
    intro availableNodes
    exact serves.updateStatus

theorem Serves.finishReconcile {result : CombinedResult} :
    (finishReconcile cr result).OnlyCalls allowed := by
  apply Program.OnlyCalls.bind
  · split
    · exact serves.updateStatus
    · trivial
  · intro err
    apply Program.OnlyCalls.bind
    · split
      · exact serves.checkForEmptyDirRecovery
      · trivial
    · intro ⟨sub, err⟩
      exact serves.updateClusterStatus.bind fun _ => trivial

theorem Serves.performChores (chores : List Chore) (result : CombinedResult) :
    (performChores chores result).OnlyCalls allowed := by
  induction chores generalizing result with
  | nil => trivial
  | cons first rest ih => exact onlyCalls_ask (serves.reads _ rfl) fun _ => ih _

variable (sends : Sends allowed)

include sends

theorem Serves.reconcilePresent (desired : StatefulSet) :
    (reconcileResource desired .present).OnlyCalls allowed :=
  onlyCalls_reconcilePresent (fun _ => serves.reads _ rfl) (sends _).1
    (fun _ _ => serves.reads _ rfl) fun sts _ _ => (sends sts).2

theorem Serves.reconcileCreated (desired : StatefulSet) :
    (reconcileResource desired .created).OnlyCalls allowed := by
  apply (onlyCalls_createIfNotExist (fun _ => serves.reads _ rfl) (sends _).1).bind
  intro reply
  rcases reply with err | _ | current <;> trivial

theorem Serves.enforceDesired (existing sts : StatefulSet) :
    (enforceDesired existing sts).OnlyCalls allowed := by
  apply (serves.reconcilePresent sends sts).bind
  intro (result, err, sts)
  dsimp only
  split
  · apply (serves.deleteSTSWithOrphan existing).bindNone
    · exact fun _ => trivial
    exact (serves.reconcilePresent sends sts).bind fun _ => trivial
  · trivial

theorem Serves.fixSelector (existing sts : StatefulSet) :
    (fixSelector existing sts).OnlyCalls allowed := by
  rw [Cluster.fixSelector]
  split
  · refine onlyCalls_ask (serves.reads _ rfl) fun _ => ?_
    apply (serves.waitForSTSDelete existing).bindOk
    · exact fun _ => trivial
    intro _
    exact (serves.reconcileCreated sends sts).bind fun _ => trivial
  · trivial

theorem Serves.switchToParallel (existing sts : StatefulSet) :
    (switchToParallel nodePool existing sts).OnlyCalls allowed := by
  refine onlyCalls_ask (serves.reads _ rfl) fun _ => ?_
  apply (serves.waitForSTSDelete existing).bindOk
  · exact fun _ => trivial
  intro _
  apply (serves.reconcilePresent sends _).bind
  intro (result, err, _)
  cases err with
  | some err => trivial
  | none =>
    have waits : (waitForSTSReplicas existing nodePool.replicas).OnlyCalls allowed :=
      onlyCalls_pollUntil (reads_hasReplicas.mono serves.reads)
    apply waits.bind
    intro waited
    cases waited <;> trivial

theorem Serves.decideRecovery (existing sts : StatefulSet) :
    (decideRecovery cr nodePool existing sts).OnlyCalls allowed := by
  apply ((reads_readyReplicas nodePool).mono serves.reads).bindOk
  · exact fun _ => trivial
  intro readyReplicas
  apply ((reads_countPVCs nodePool).mono serves.reads).bindOk
  · exact fun _ => trivial
  intro pvcCount
  dsimp only
  split
  · split
    · exact (serves.switchToParallel sends _ sts).bind fun _ => trivial
    · trivial
  split
  · apply (serves.waitForSTSDelete _).bindOk
    · exact fun _ => trivial
    exact fun _ => trivial
  · trivial

theorem Serves.parallelRecovery (enabled : Bool) (existing sts : StatefulSet) :
    (parallelRecovery enabled cr nodePool existing sts).OnlyCalls allowed := by
  rw [Cluster.parallelRecovery]
  split
  · split
    · apply (onlyCalls_pollUntil (reads_hasStatus.mono serves.reads)).bindOk
      · exact fun _ => trivial
      exact fun new => serves.decideRecovery sends new sts
    · exact serves.decideRecovery sends existing sts
  · trivial

end Served

variable (maintains : Maintains allowed nodePool)

include maintains

theorem Maintains.resizeClaims (ordinals : List Nat) :
    (resizeClaims cr nodePool ordinals).OnlyCalls allowed := by
  induction ordinals with
  | nil => trivial
  | cons ordinal ordinals ih =>
    apply (onlyCalls_asked (maintains.reads _ rfl)).bindOk
    · exact fun _ => trivial
    intro pvc
    apply (onlyCalls_asked (maintains.resizes _ rfl)).bindOk
    · exact fun _ => trivial
    intro _
    exact ih

theorem Maintains.maybeUpdateVolumes (existing : StatefulSet) :
    (if usesPVC nodePool then maybeUpdateVolumes cr existing nodePool
      else return none).OnlyCalls allowed := by
  split
  · rw [Cluster.maybeUpdateVolumes.eq_def]
    split
    · exact maintains.deleteSTSWithOrphan existing
    split
    · trivial
    apply (maintains.deleteSTSWithOrphan existing).bindNone
    · exact fun _ => trivial
    exact maintains.resizeClaims _
  · trivial

variable (sends : Sends allowed)

include sends

theorem Maintains.updateNodeStatefulSet (existing sts : StatefulSet) :
    (updateNodeStatefulSet cr nodePool existing sts).OnlyCalls allowed := by
  apply (onlyCalls_asked (maintains.reads _ rfl)).bindDone
  · exact fun _ _ => trivial
  intro result
  apply (maintains.maybeUpdateVolumes existing).bindNone
  · exact fun _ => trivial
  exact (maintains.updateOrphanedPodLabels existing _).bind
    fun _ => maintains.enforceDesired sends existing _

theorem Maintains.reconcileNodeStatefulSet (enabled : Bool) :
    (reconcileNodeStatefulSet enabled cr nodePool).OnlyCalls allowed := by
  refine onlyCalls_ask (maintains.reads _ rfl) fun hash => ?_
  cases hash with
  | none => trivial
  | some configHash =>
    refine onlyCalls_ask (maintains.reads _ rfl) fun _ => ?_
    apply (maintains.reconcileCreated sends _).bind
    intro reconciled
    cases goOn reconciled with
    | error returned => trivial
    | ok sts =>
      apply (onlyCalls_asked (maintains.reads _ rfl)).bindOk
      · exact fun _ => trivial
      intro existing
      apply (maintains.fixSelector sends existing sts).bindOk
      · exact fun _ => trivial
      intro sts
      apply (maintains.parallelRecovery sends enabled existing sts).bindOk
      · exact fun _ => trivial
      exact fun existing => maintains.updateNodeStatefulSet sends existing sts

end Calls

theorem onlyCalls_reconcile {allowed : Call → Prop} (serves : Serves allowed)
    (resizes : ∀ pvc, allowed (.request (.updatePVC pvc))) (sends : Sends allowed)
    (enabled : Bool) (cr : OpenSearchCluster) : (reconcile enabled cr).OnlyCalls allowed := by
  have pools : ∀ nodePools result,
      (reconcileNodePools enabled cr nodePools result).OnlyCalls allowed := by
    intro nodePools
    induction nodePools with
    | nil => exact fun _ => trivial
    | cons nodePool nodePools ih =>
      intro result
      refine onlyCalls_ask (serves.reads _ rfl) fun _ => ?_
      have maintains : Maintains allowed nodePool := ⟨serves, fun pvc _ => resizes pvc⟩
      exact (maintains.reconcileNodeStatefulSet sends enabled).bind fun _ => ih _
  refine onlyCalls_ask (serves.reads _ rfl) fun reply => ?_
  obtain ⟨_, err⟩ := reply
  cases err with
  | some err => trivial
  | none =>
    apply (serves.performChores _ _).bind
    intro result
    apply (pools _ result).bind
    intro result
    exact serves.finishReconcile.bind fun _ => trivial

end OpenSearchOperator.Reconcilers.Cluster
