import OpenSearchOperator.Gateway.Exclusion
import OpenSearchOperator.Helpers.ComponentStatus
import OpenSearchOperator.Helpers.Pods
import OpenSearchOperator.Reconcilers.Resource

/-! The scaler: one replica up or down at a time, and down only through the
stages `Running`, `Excluded` and `Drained` of a status entry. -/

namespace OpenSearchOperator.Reconcilers.Scaler

open Api Effects Gateway
open Helpers

def scalerStatus (status nodePoolGroupName : String) (conditions : List String) :
    ComponentStatus :=
  { component := "Scaler", status := status, description := nodePoolGroupName,
    conditions := conditions }

def running (nodePoolGroupName : String) : ComponentStatus :=
  scalerStatus "Running" nodePoolGroupName []

def scalerHasExcludeOrDrainInProgress (componentsStatus : List ComponentStatus) : Bool :=
  componentsStatus.any (fun cs => cs.component == "Scaler" &&
    (cs.status == "Excluded" || cs.status == "Drained"))

/-- The difference of two 32-bit numbers, in 32 bits. -/
def desireReplicaDiff (replicas desired : Int) : Int := (replicas - desired).bmod 4294967296

/-- The next one of the 32-bit numbers, in 32 bits. -/
def increment (replicas : Int) : Int :=
  if replicas = 2147483647 then -2147483648 else replicas + 1

theorem increment_ne (replicas : Int) : increment replicas ≠ replicas := by
  rw [increment]
  split <;> omega

/-- A number of replicas that the server accepts is the next one indeed. -/
theorem increment_accepted {replicas : Int} (accepted : 0 ≤ increment replicas) :
    increment replicas = replicas + 1 ∧ replicas ≠ 2147483647 := by
  rw [increment] at accepted ⊢
  split <;> simp_all

def increaseOneNode (currentSts : StatefulSet) : Prog (Bool × Option Failure) := do
  let larger := { currentSts with replicas := increment currentSts.replicas }
  let (_, err, _) ← reconcileResource larger .present
  match err with
  | some err => return (true, some err)
  | none => return (false, none)

/-- The part of `decreaseOneNode` behind the check of the target node. -/
def removeLastNode (currentStatus : ComponentStatus) (currentSts : StatefulSet)
    (smartDecrease : Bool) : Prog (Bool × Option Failure) := do
  let (_, err, _) ← reconcileResource { currentSts with replicas := currentSts.replicas - 1 }
    .present
  match err with
  | some err => return (true, some err)
  | none =>
    match ← updateComponents (removeIt currentStatus) with
    | some err => return (false, some err)
    | none =>
      if !smartDecrease then return (false, none)
      else
        match ← createClientForCluster with
        | .error err => return (true, some (.api err))
        | .ok _ =>
          let (_, err) ← removeExcludeNodeHost
            (replicaHostName currentSts (currentSts.replicas - 1))
          return (false, err)

def decreaseOneNode (currentStatus : ComponentStatus) (currentSts : StatefulSet)
    (nodePoolGroupName : String) (smartDecrease : Bool) : Prog (Bool × Option Failure) := do
  let lastReplicaNodeName := replicaHostName currentSts (currentSts.replicas - 1)
  match currentStatus.conditions with
  | [] => removeLastNode currentStatus currentSts smartDecrease
  | targetNodeName :: _ =>
    if lastReplicaNodeName ≠ targetNodeName then
      let _ ← updateComponents (replace currentStatus (running nodePoolGroupName))
      return (true, some (.text ("target node mismatch during decrease: excluded/drained " ++
        targetNodeName ++ " but would remove " ++ lastReplicaNodeName ++ ", reset to Running")))
    else removeLastNode currentStatus currentSts smartDecrease

def excludeNode (currentStatus : ComponentStatus) (currentSts : StatefulSet)
    (nodePoolGroupName : String) : Prog (Option Failure) := do
  match ← createClientForCluster with
  | .error err => return some (.api err)
  | .ok _ =>
    let lastReplicaNodeName := replicaHostName currentSts (currentSts.replicas - 1)
    let (excluded, err) ← appendExcludeNodeHost lastReplicaNodeName
    match err with
    | some err => return some err
    | none =>
      if excluded then
        updateComponents (replace currentStatus
          (scalerStatus "Excluded" nodePoolGroupName [lastReplicaNodeName]))
      else updateComponents (replace currentStatus (running nodePoolGroupName))

/-- The node that the exclusion stage noted, or the last replica for an entry
without one. -/
def drainTarget (currentStatus : ComponentStatus) (currentSts : StatefulSet) : String :=
  match currentStatus.conditions with
  | target :: _ => target
  | [] => replicaHostName currentSts (currentSts.replicas - 1)

def drainNode (currentStatus : ComponentStatus) (currentSts : StatefulSet)
    (nodePoolGroupName : String) : Prog (Option Failure) := do
  let lastReplicaNodeName := drainTarget currentStatus currentSts
  let expectedNodeName := replicaHostName currentSts (currentSts.replicas - 1)
  if lastReplicaNodeName ≠ expectedNodeName then
    let _ ← updateComponents (replace currentStatus (running nodePoolGroupName))
    return some (.text ("target node mismatch during drain: excluded " ++ lastReplicaNodeName ++
      " but last replica is " ++ expectedNodeName ++ ", reset to Running"))
  else
    match ← createClientForCluster with
    | .error err => return some (.api err)
    | .ok _ =>
      -- A failed shard listing reads as an empty node: its error is overwritten below.
      let (nodeNotEmpty, err) ← hasShardsOnNode lastReplicaNodeName
      if nodeNotEmpty then return err
      else updateComponents (replace currentStatus
        (scalerStatus "Drained" nodePoolGroupName [lastReplicaNodeName]))

/-- The closure of the branch without a difference. It works on the snapshot's
entries, not on those of the object it updates. -/
def settle (currentStatus : ComponentStatus) (nodePool : NodePool) (readyReplicas : Int)
    (snapshot : List ComponentStatus) (cluster : OpenSearchCluster) :
    ClusterStatus × List ComponentStatus :=
  if readyReplicas ≠ nodePool.replicas then
    let waiting := scalerStatus "Waiting" nodePool.component []
    ({ cluster.status with componentsStatus := replace currentStatus waiting snapshot },
      replaceInPlace currentStatus waiting snapshot)
  else
    ({ cluster.status with componentsStatus := removeIt currentStatus snapshot },
      removeItInPlace currentStatus snapshot)

def scaleNodePool (smartScaler : Bool) (currentStatus : ComponentStatus) (found : Bool)
    (currentSts : StatefulSet) (nodePool : NodePool) : Prog (Bool × Option Failure) := do
  if !found || currentStatus.status == "Running" || currentStatus.status == "Waiting" then
    match ← updateComponents (replace currentStatus (running nodePool.component)) with
    | some err => return (true, some err)
    | none =>
      if 0 < desireReplicaDiff currentSts.replicas nodePool.replicas then
        if !smartScaler then
          decreaseOneNode currentStatus currentSts nodePool.component smartScaler
        else
          let err ← excludeNode currentStatus currentSts nodePool.component
          return (true, err)
      else increaseOneNode currentSts
  else if currentStatus.status == "Excluded" then
    let err ← drainNode currentStatus currentSts nodePool.component
    return (true, err)
  else if currentStatus.status == "Drained" then
    decreaseOneNode currentStatus currentSts nodePool.component smartScaler
  else return (false, none)

/-- One node pool. The snapshot is returned with the entries it holds afterwards. -/
def reconcileNodePool (cr : OpenSearchCluster) (snapshot : List ComponentStatus)
    (nodePool : NodePool) : Prog ((Bool × Option Failure) × List ComponentStatus) := do
  match ← getStatefulSet (stsName cr nodePool) with
  | .error err => return ((false, some (.api err)), snapshot)
  | .ok currentSts =>
    match ← readyReplicasForNodePool cr nodePool with
    | .error err => return ((false, some (.api err)), snapshot)
    | .ok readyReplicas =>
      let (currentStatus, found) := findFirstPartial snapshot (running nodePool.component)
        getByDescriptionAndComponent
      -- Of two 32-bit numbers only equal ones have the difference zero.
      if currentSts.replicas = nodePool.replicas then
        if found then
          let (err, snapshot) ← updateOpenSearchClusterStatus
            (settle currentStatus nodePool readyReplicas) snapshot
          return ((false, err), snapshot)
        else return ((false, none), snapshot)
      else
        let result ← scaleNodePool cr.spec.confMgmt.smartScaler currentStatus found
          currentSts nodePool
        return (result, snapshot)

/-- The loop over the pools. Only the last pool's wish to be requeued survives it,
the others' are dropped unless they come with an error. -/
def reconcileNodePools (cr : OpenSearchCluster) :
    List NodePool → List ComponentStatus → Bool → CombinedResult →
      Prog ((Bool × CombinedResult) × List ComponentStatus)
  | [], snapshot, requeue, results => return ((requeue, results), snapshot)
  | nodePool :: nodePools, snapshot, _, results => do
      let ((requeue, err), snapshot) ← reconcileNodePool cr snapshot nodePool
      let results :=
        if err.isSome then results.combine (some { requeue := requeue }) err else results
      reconcileNodePools cr nodePools snapshot requeue results

def nodePoolsReady (cr : OpenSearchCluster) : List NodePool → Prog (Except ApiError Bool)
  | [] => return .ok true
  | nodePool :: nodePools => do
      match ← getStatefulSet (stsName cr nodePool) with
      | .error err => return .error err
      | .ok currentSts =>
        if currentSts.status.availableReplicas ≠ currentSts.replicas then return .ok false
        else nodePoolsReady cr nodePools

/-- `builders.STSInNodePools`: by the pool label of the StatefulSet. -/
def stsInNodePools (sts : StatefulSet) (nodePools : List NodePool) : Bool :=
  nodePools.any (fun nodePool => (sts.labels.get nodePoolLabel).getD "" == nodePool.component)

/-- The last steps of `removeStatefulSet`, once the last node holds no shards. -/
def shrinkOrRemove (sts : StatefulSet) : Prog (Option Result × Option Failure) := do
  let workingOrdinal := sts.replicas - 1
  let (result, err, _) ← (if workingOrdinal = 0 then reconcileResource sts .absent
    else reconcileResource { sts with replicas := workingOrdinal } .present)
  match err with
  | some err => return (result, some err)
  | none =>
    let (_, err) ← removeExcludeNodeHost (replicaHostName sts workingOrdinal)
    return (result, err)

def removeStatefulSet (cr : OpenSearchCluster) (sts : StatefulSet) :
    Prog (Option Result × Option Failure) := do
  if !cr.spec.confMgmt.smartScaler then
    let (result, err, _) ← reconcileResource sts .absent
    return (result, err)
  else
    match ← createClientForCluster with
    | .error err => return (none, some (.api err))
    | .ok _ =>
      let lastReplicaNodeName := replicaHostName sts (sts.replicas - 1)
      let (_, err) ← appendExcludeNodeHost lastReplicaNodeName
      match err with
      | some err => return (none, some err)
      | none =>
        let (nodeNotEmpty, err) ← hasShardsOnNode lastReplicaNodeName
        match err with
        | some err => return (none, some err)
        | none =>
          if nodeNotEmpty then
            return (some { requeue := true, requeueAfter := seconds 15 }, none)
          else shrinkOrRemove sts

def removeUnlisted (cr : OpenSearchCluster) :
    List StatefulSet → CombinedResult → Prog CombinedResult
  | [], results => return results
  | sts :: rest, results => do
      if stsInNodePools sts cr.spec.nodePools then removeUnlisted cr rest results
      else
        let (result, err) ← removeStatefulSet cr sts
        removeUnlisted cr rest (results.combine result err)

def cleanupStatefulSets (cr : OpenSearchCluster) (results : CombinedResult) :
    Prog CombinedResult := do
  match ← listStatefulSets [(clusterLabel, cr.name)] with
  | .error err => return results.combine (some {}) (some (.api err))
  | .ok stsList => removeUnlisted cr stsList results

/-- What `Reconcile` does once the stale exclusions are cleaned. -/
def reconcilePools (cr : OpenSearchCluster) :
    Prog ((Result × Option Failure) × List ComponentStatus) := do
  let ((requeue, results), snapshot) ←
    reconcileNodePools cr cr.spec.nodePools cr.status.componentsStatus false {}
  let results := results.combine (some { requeue := requeue }) none
  match ← nodePoolsReady cr cr.spec.nodePools with
  | .error err =>
    let results := results.combine (some {}) (some (.api err))
    return ((results.result, results.err), snapshot)
  | .ok false =>
    let results := results.combine
      (some { requeue := true, requeueAfter := seconds 15 }) none
    return ((results.result, results.err), snapshot)
  | .ok true =>
    let results ← cleanupStatefulSets cr results
    return ((results.result, results.err), snapshot)

/-- `ScalerReconciler.Reconcile`, with the entries its snapshot of the custom
resource is left with. -/
def reconcile (cr : OpenSearchCluster) :
    Prog ((Result × Option Failure) × List ComponentStatus) := do
  if cr.spec.confMgmt.smartScaler &&
      !scalerHasExcludeOrDrainInProgress cr.status.componentsStatus then
    match ← createClientForCluster with
    | .error _ => reconcilePools cr
    | .ok _ =>
      let (res, err) ← cleanStaleExclusionList cr
      if err.isSome then return (({}, err), cr.status.componentsStatus)
      else if res.requeue then return ((res, none), cr.status.componentsStatus)
      else reconcilePools cr
  else reconcilePools cr

section Calls

variable {cr : OpenSearchCluster}

structure Handles (allowed : Call → Prop) : Prop where
  tunes : ∀ op, Tunes true op → allowed op
  reads : ∀ op, Reads op → allowed op
  status : ∀ cluster, allowed (.request (.updateClusterStatus cluster))

structure Manages (allowed : Call → Prop) (name : String) : Prop extends Handles allowed where
  creates : ∀ sts, sts.name = name → allowed (.request (.createStatefulSet sts))
  updates : ∀ sts, sts.name = name → allowed (.request (.updateStatefulSet sts))

section Stages

variable {allowed : Call → Prop} (handles : Handles allowed)

include handles

theorem Handles.updateStatus (f : OpenSearchCluster → ClusterStatus) :
    (updateStatus f).OnlyCalls allowed :=
  onlyCalls_updateStatus f (handles.reads _ rfl) fun _ => handles.status _

theorem Handles.removeExcludeNodeHost (node : String) :
    (removeExcludeNodeHost node).OnlyCalls allowed :=
  (tunes_removeExcludeNodeHost node).mono handles.tunes

theorem Handles.appendExcludeNodeHost (node : String) :
    (appendExcludeNodeHost node).OnlyCalls allowed :=
  (tunes_appendExcludeNodeHost node).mono handles.tunes

theorem Handles.hasShardsOnNode (node : String) : (hasShardsOnNode node).OnlyCalls allowed :=
  onlyCalls_ask (handles.reads _ rfl) fun reply => by cases reply <;> trivial

theorem Handles.excludeNode (currentStatus : ComponentStatus) (currentSts : StatefulSet)
    (nodePoolGroupName : String) :
    (excludeNode currentStatus currentSts nodePoolGroupName).OnlyCalls allowed := by
  apply (onlyCalls_asked (handles.reads _ rfl)).bindOk
  · exact fun _ => trivial
  intro _
  apply (handles.appendExcludeNodeHost _).bindDone
  · exact fun _ _ => trivial
  intro excluded
  cases excluded <;> exact handles.updateStatus _

theorem Handles.drainNode (currentStatus : ComponentStatus) (currentSts : StatefulSet)
    (nodePoolGroupName : String) :
    (drainNode currentStatus currentSts nodePoolGroupName).OnlyCalls allowed := by
  rw [Scaler.drainNode]
  split
  · exact (handles.updateStatus _).bind fun _ => trivial
  apply (onlyCalls_asked (handles.reads _ rfl)).bindOk
  · exact fun _ => trivial
  intro _
  apply (handles.hasShardsOnNode _).bind
  intro ⟨nodeNotEmpty, err⟩
  cases nodeNotEmpty with
  | true => trivial
  | false => exact handles.updateStatus _

theorem Handles.afterRemoval (currentStatus : ComponentStatus) (currentSts : StatefulSet)
    (smartDecrease : Bool) (err : Option Failure) : (match err with
      | some err => (pure (true, some err) : Prog (Bool × Option Failure))
      | none => do
          match ← updateComponents (removeIt currentStatus) with
          | some err => return (false, some err)
          | none =>
            if !smartDecrease then return (false, none)
            else
              match ← createClientForCluster with
              | .error err => return (true, some (.api err))
              | .ok _ =>
                let (_, err) ← Gateway.removeExcludeNodeHost
                  (replicaHostName currentSts (currentSts.replicas - 1))
                return (false, err)).OnlyCalls allowed := by
  cases err with
  | some err => trivial
  | none =>
    apply (handles.updateStatus _).bindNone
    · exact fun _ => trivial
    dsimp only
    split
    · trivial
    apply (onlyCalls_asked (handles.reads _ rfl)).bindOk
    · exact fun _ => trivial
    intro _
    exact (handles.removeExcludeNodeHost _).bind fun _ => trivial

omit handles

variable {currentSts : StatefulSet} (manages : Manages allowed currentSts.name)

include manages

theorem Manages.resize (replicas : Int) :
    (reconcileResource { currentSts with replicas := replicas } .present).OnlyCalls allowed :=
  onlyCalls_reconcilePresent (fun _ => manages.reads _ rfl) (manages.creates _ rfl)
    (fun _ _ => manages.reads _ rfl) fun sts same _ => manages.updates sts same

theorem Manages.increaseOneNode : (increaseOneNode currentSts).OnlyCalls allowed := by
  apply (manages.resize _).bind
  intro ⟨_, err, _⟩
  cases err <;> trivial

theorem Manages.removeLastNode (currentStatus : ComponentStatus) (smartDecrease : Bool) :
    (removeLastNode currentStatus currentSts smartDecrease).OnlyCalls allowed := by
  apply (manages.resize _).bind
  intro ⟨_, err, _⟩
  exact manages.afterRemoval currentStatus currentSts smartDecrease err

theorem Manages.decreaseOneNode (currentStatus : ComponentStatus) (nodePoolGroupName : String)
    (smartDecrease : Bool) :
    (decreaseOneNode currentStatus currentSts nodePoolGroupName smartDecrease).OnlyCalls
      allowed := by
  rw [Scaler.decreaseOneNode]
  split
  · exact manages.removeLastNode _ _
  split
  · exact (manages.updateStatus _).bind fun _ => trivial
  · exact manages.removeLastNode _ _

theorem Manages.scaleNodePool (smartScaler : Bool) (currentStatus : ComponentStatus)
    (found : Bool) (nodePool : NodePool) :
    (scaleNodePool smartScaler currentStatus found currentSts nodePool).OnlyCalls allowed := by
  rw [Scaler.scaleNodePool]
  split
  · apply (manages.updateStatus _).bindNone
    · exact fun _ => trivial
    dsimp only
    split
    · split
      · exact manages.decreaseOneNode _ _ _
      · exact (manages.excludeNode _ _ _).bind fun _ => trivial
    · exact manages.increaseOneNode
  · split
    · exact (manages.drainNode _ _ _).bind fun _ => trivial
    split
    · exact manages.decreaseOneNode _ _ _
    · trivial

end Stages

theorem manages_spares {name : String} : Manages Spares name where
  tunes := fun _ tunes => tunes.gentle.spares
  reads := fun _ reads => reads.spares
  status := fun _ => rfl
  creates := fun _ _ => rfl
  updates := fun _ _ => rfl

theorem spares_reconcileNodePool (snapshot : List ComponentStatus) (nodePool : NodePool) :
    (reconcileNodePool cr snapshot nodePool).OnlyCalls Spares := by
  refine (onlyCalls_asked (by rfl)).bindOk (fun _ => trivial) fun currentSts => ?_
  apply ((reads_readyReplicas nodePool).mono fun _ reads => reads.spares).bindOk
  · exact fun _ => trivial
  intro readyReplicas
  dsimp only
  split
  · split
    · exact (spares_updateOpenSearchClusterStatus).bind fun _ => trivial
    · trivial
  · exact ((manages_spares).scaleNodePool _ _ _ _).bind fun _ => trivial

theorem spares_reconcileNodePools (nodePools : List NodePool) (snapshot : List ComponentStatus)
    (requeue : Bool) (results : CombinedResult) :
    (reconcileNodePools cr nodePools snapshot requeue results).OnlyCalls Spares := by
  induction nodePools generalizing snapshot requeue results with
  | nil => trivial
  | cons nodePool nodePools ih =>
    apply (spares_reconcileNodePool snapshot nodePool).bind
    intro ⟨⟨requeue, err⟩, snapshot⟩
    exact ih _ _ _

theorem reads_nodePoolsReady (nodePools : List NodePool) :
    (nodePoolsReady cr nodePools).OnlyCalls Reads := by
  induction nodePools with
  | nil => trivial
  | cons nodePool nodePools ih =>
    refine (onlyCalls_asked (by rfl)).bindOk (fun _ => trivial) fun currentSts => ?_
    dsimp only
    split
    · trivial
    · exact ih

structure Removes (allowed : Call → Prop) (sts : StatefulSet) : Prop where
  tunes : ∀ op, Tunes true op → allowed op
  reads : ∀ op, Reads op → allowed op
  deletes : ∀ name, allowed (.request (.deleteStatefulSet name .background))
  creates : allowed (.request (.createStatefulSet { sts with replicas := sts.replicas - 1 }))
  updates : ∀ sent : StatefulSet, sent.replicas = sts.replicas - 1 →
    allowed (.request (.updateStatefulSet sent))

section Removal

variable {allowed : Call → Prop} {sts : StatefulSet} (removes : Removes allowed sts)

include removes

theorem Removes.reconcileAbsent : (reconcileResource sts .absent).OnlyCalls allowed :=
  (onlyCalls_deleteResource (fun _ => removes.reads _ rfl) removes.deletes).bind fun _ => trivial

theorem Removes.shrinkOrRemove : (shrinkOrRemove sts).OnlyCalls allowed := by
  have resized : (if sts.replicas - 1 = 0 then reconcileResource sts .absent
      else reconcileResource { sts with replicas := sts.replicas - 1 } .present).OnlyCalls
        allowed := by
    split
    · exact removes.reconcileAbsent
    · exact onlyCalls_reconcilePresent (fun _ => removes.reads _ rfl) removes.creates
        (fun _ _ => removes.reads _ rfl) fun sent _ => removes.updates sent
  apply resized.bind
  intro ⟨result, err, _⟩
  cases err with
  | some err => trivial
  | none => exact ((tunes_removeExcludeNodeHost _).mono removes.tunes).bind fun _ => trivial

theorem Removes.removeStatefulSet : (removeStatefulSet cr sts).OnlyCalls allowed := by
  rw [Scaler.removeStatefulSet]
  split
  · exact removes.reconcileAbsent.bind fun _ => trivial
  apply (onlyCalls_asked (removes.reads _ rfl)).bindOk
  · exact fun _ => trivial
  intro _
  apply ((tunes_appendExcludeNodeHost _).mono removes.tunes).bindDone
  · exact fun _ _ => trivial
  intro _
  have listing : ∀ node, (hasShardsOnNode node).OnlyCalls allowed :=
    fun node => onlyCalls_ask (removes.reads _ rfl) fun reply => by cases reply <;> trivial
  apply (listing _).bindDone
  · exact fun _ _ => trivial
  intro nodeNotEmpty
  dsimp only
  split
  · trivial
  · exact removes.shrinkOrRemove

end Removal

theorem removes_apart (sts : StatefulSet) : Removes Apart sts where
  tunes := fun _ tunes => tunes.apart
  reads := fun _ reads => ⟨reads.spares, by simp [reads.changes]⟩
  deletes := fun _ => ⟨rfl, nofun⟩
  creates := ⟨rfl, nofun⟩
  updates := fun _ _ => ⟨rfl, nofun⟩

theorem apart_removeUnlisted (stsList : List StatefulSet) (results : CombinedResult) :
    (removeUnlisted cr stsList results).OnlyCalls Apart := by
  induction stsList generalizing results with
  | nil => trivial
  | cons sts stsList ih =>
    rw [removeUnlisted]
    split
    · exact ih results
    apply (removes_apart sts).removeStatefulSet.bind
    intro ⟨result, err⟩
    exact ih _

theorem apart_cleanupStatefulSets (results : CombinedResult) :
    (cleanupStatefulSets cr results).OnlyCalls Apart := by
  apply (onlyCalls_asked ⟨rfl, nofun⟩).bindOk
  · exact fun _ => trivial
  intro stsList
  exact apart_removeUnlisted stsList _

theorem spares_reconcilePools : (reconcilePools cr).OnlyCalls Spares := by
  apply (spares_reconcileNodePools _ _ _ _).bind
  intro ⟨⟨requeue, results⟩, snapshot⟩
  apply ((reads_nodePoolsReady _).mono fun _ => Reads.spares).bind
  intro ready
  match ready with
  | .error err => trivial
  | .ok false => trivial
  | .ok true =>
    have cleans : ∀ results, (cleanupStatefulSets cr results).OnlyCalls Spares :=
      fun results => (apart_cleanupStatefulSets results).mono fun _ apart => apart.1
    exact (cleans _).bind fun _ => trivial

theorem spares_reconcile : (reconcile cr).OnlyCalls Spares := by
  rw [reconcile]
  split
  · refine onlyCalls_ask rfl fun reply => ?_
    cases reply with
    | error err => exact spares_reconcilePools
    | ok _ =>
      apply (gentle_cleanStaleExclusionList.mono fun _ gentle => gentle.spares).bind
      intro ⟨res, err⟩
      dsimp only
      split
      · trivial
      split
      · trivial
      · exact spares_reconcilePools
  · exact spares_reconcilePools

end Calls

def TargetsLast (entry : ComponentStatus) (name : String) (r : Int) : Prop :=
  ∀ node ∈ entry.conditions.head?, node = Data.ordinalName name (r - 1)

/-- What is asked of the single steps so that the stages of a pool lead from `K`, which may
depend on the status of the pool's entry, to `K'`. -/
structure Stages (permit : ApiEvent → Prop) (inv : ApiWorld → Prop) (c : ComponentStatus)
    (found : Bool) (sts : StatefulSet) (nodePool : NodePool) (K : String → ApiWorld → Prop)
    (K' : ApiWorld → Prop) : Prop where
  ends : ∀ {status w}, K status w → K' w
  tunes : ∀ {α : Type} {program : Prog α} {status}, program.OnlyCalls (Tunes true) →
    Keeps permit inv (K status) program
  cleans : ∀ {α : Type} {program : Prog α}, program.OnlyCalls (Tunes true) →
    Keeps permit inv K' program
  replaces : ∀ {w} status conditions, K c.status w → Safe permit inv
    (updateComponents (replace c (scalerStatus status nodePool.component conditions)))
    (fun err w => (err = none → K status w) ∧ K' w) w
  removes : Keeps permit inv K' (updateComponents (removeIt c))
  grows : ∀ {status w}, ¬ (0 < desireReplicaDiff sts.replicas nodePool.replicas) →
    (!found || c.status == "Running" || c.status == "Waiting") = true → K status w →
    Safe permit inv (reconcileResource { sts with replicas := increment sts.replicas } .present)
      (fun _ => K') w
  shrinks : ∀ {status w}, TargetsLast c sts.name sts.replicas →
    (0 < desireReplicaDiff sts.replicas nodePool.replicas ∨ found = true ∧ c.status = "Drained") →
    K status w → Safe permit inv
      (reconcileResource { sts with replicas := sts.replicas - 1 } .present)
      (fun _ => K') w

section Stages

variable {permit : ApiEvent → Prop} {inv : ApiWorld → Prop} {c : ComponentStatus} {found : Bool}
  {sts : StatefulSet} {nodePool : NodePool} {K : String → ApiWorld → Prop} {K' : ApiWorld → Prop}
  {w : ApiWorld} {status : String} (stages : Stages permit inv c found sts nodePool K K')

theorem tunes_createClient : createClientForCluster.OnlyCalls (Tunes true) :=
  ⟨rfl, fun _ => trivial⟩

include stages

theorem Stages.replaced (status : String) (conditions : List String) (holds : K c.status w) :
    Safe permit inv
      (updateComponents (replace c (scalerStatus status nodePool.component conditions)))
      (fun _ => K') w :=
  (stages.replaces status conditions holds).mono fun _ _ outcome => outcome.2

theorem Stages.excludeNode (holds : K c.status w) :
    Safe permit inv (excludeNode c sts nodePool.component) (fun _ => K') w := by
  apply (stages.tunes tunes_createClient w holds).bindOk
  · exact fun _ _ holds => stages.ends holds
  intro _ w holds
  apply (stages.tunes (tunes_appendExcludeNodeHost _) w holds).bindDone
  · exact fun _ _ _ holds => stages.ends holds
  intro excluded w holds
  cases excluded with
  | false => exact stages.replaced "Running" [] holds
  | true => exact stages.replaced "Excluded" _ holds

theorem Stages.drainNode (holds : K c.status w) :
    Safe permit inv (drainNode c sts nodePool.component) (fun _ => K') w := by
  rw [Scaler.drainNode]
  split
  · exact (stages.replaced "Running" [] holds).bind fun _ _ after => after
  apply (stages.tunes tunes_createClient w holds).bindOk
  · exact fun _ _ holds => stages.ends holds
  intro _ w holds
  have listing : (hasShardsOnNode (drainTarget c sts)).OnlyCalls (Tunes true) :=
    onlyCalls_ask rfl fun reply => by cases reply <;> trivial
  apply (stages.tunes listing w holds).bind
  intro ⟨nodeNotEmpty, err⟩ w holds
  cases nodeNotEmpty with
  | true => exact stages.ends holds
  | false => exact stages.replaced "Drained" _ holds

theorem Stages.removeLastNode (targets : TargetsLast c sts.name sts.replicas)
    (due : 0 < desireReplicaDiff sts.replicas nodePool.replicas ∨
      found = true ∧ c.status = "Drained")
    (smart : Bool) (holds : K status w) :
    Safe permit inv (removeLastNode c sts smart) (fun _ => K') w := by
  apply (stages.shrinks targets due holds).bind
  intro ⟨_, err, _⟩ w after
  cases err with
  | some err => exact after
  | none =>
    apply (stages.removes w after).bindNone
    · exact fun _ _ after => after
    intro w after
    cases smart with
    | false => exact after
    | true =>
      apply (stages.cleans tunes_createClient w after).bindOk
      · exact fun _ _ after => after
      intro _ w after
      apply (stages.cleans (tunes_removeExcludeNodeHost _) w after).bind
      exact fun _ w after => after

theorem Stages.decreaseOneNode
    (due : 0 < desireReplicaDiff sts.replicas nodePool.replicas ∨
      found = true ∧ c.status = "Drained")
    (smart : Bool) (back : c.conditions ≠ [] → K status w → K c.status w) (holds : K status w) :
    Safe permit inv (decreaseOneNode c sts nodePool.component smart) (fun _ => K') w := by
  rw [Scaler.decreaseOneNode]
  cases noted : c.conditions with
  | nil => exact stages.removeLastNode (by simp [TargetsLast, noted]) due smart holds
  | cons node nodes =>
    dsimp only
    split
    case isTrue =>
      have holds := back (by simp [noted]) holds
      exact (stages.replaced "Running" [] holds).bind fun _ _ after => after
    case isFalse last =>
      refine stages.removeLastNode ?_ due smart holds
      simpa [TargetsLast, noted, replicaHostName, eq_comm] using last

theorem Stages.scaleNodePool (smart : Bool)
    (back : (!found || c.status == "Running" || c.status == "Waiting") = true →
      0 < desireReplicaDiff sts.replicas nodePool.replicas → smart = true ∨ c.conditions ≠ [] →
      ∀ w, K "Running" w → K c.status w) (holds : K c.status w) :
    Safe permit inv (scaleNodePool smart c found sts nodePool) (fun _ => K') w := by
  rw [Scaler.scaleNodePool]
  split
  case isTrue start =>
    apply (stages.replaces "Running" [] holds).bindNone
    · exact fun _ _ outcome => outcome.2
    intro w ⟨holds, _⟩
    dsimp only
    split
    case isTrue above =>
      have back := back start above
      cases smart with
      | false =>
        exact stages.decreaseOneNode (Or.inl above) false (fun noted => back (Or.inr noted) w)
          (holds rfl)
      | true =>
        exact (stages.excludeNode (back (Or.inl rfl) w (holds rfl))).bind fun _ _ after => after
    case isFalse below =>
      apply (stages.grows below start (holds rfl)).bind
      intro ⟨_, err, _⟩ w after
      cases err <;> exact after
  case isFalse start =>
    split
    · exact (stages.drainNode holds).bind fun _ _ after => after
    split
    case isTrue drained =>
      have due : found = true ∧ c.status = "Drained" := by
        cases found with
        | false => simp at start
        | true => exact ⟨rfl, beq_iff_eq.mp drained⟩
      exact stages.decreaseOneNode (Or.inr due) smart (fun _ => id) holds
    · exact stages.ends holds

end Stages

end OpenSearchOperator.Reconcilers.Scaler
