import OpenSearchOperator.Gateway.Restart
import OpenSearchOperator.Helpers.ComponentStatus
import OpenSearchOperator.Helpers.Pods

/-! The upgrade reconciler: one node pool after the other, and in a pool one pod
for each pass. -/

namespace OpenSearchOperator.Reconcilers.Upgrade

open Api Data Effects
open Gateway Helpers

variable {status : UpgradeStatus} {cr : OpenSearchCluster} {pools : List NodePool}
  {x : ComponentStatus} {pool : NodePool}

def phaseRunning : String := "RUNNING"
def phaseUpgrading : String := "UPGRADING"

inductive UpgradeStatus where
  | pending
  | inProgress
  deriving DecidableEq, Repr

def upgraderStatus (status component : String) (conditions : List String) : ComponentStatus :=
  { component := "Upgrader", status := status, description := component,
    conditions := conditions }

def upgrading (component : String) (conditions : List String) : ComponentStatus :=
  upgraderStatus "Upgrading" component conditions

def findUpgrader (componentsStatus : List ComponentStatus) (component : String) :
    ComponentStatus × Bool :=
  findFirstPartial componentsStatus (upgraderStatus "" component []) getByDescriptionAndComponent

def validateUpgrade (semver : SemverPackage) (cr : OpenSearchCluster) : Option Failure :=
  match semver.newVersion cr.status.version with
  | .error err => some (.text err)
  | .ok existing =>
    match semver.newVersion cr.spec.general.version with
    | .error err => some (.text err)
    | .ok new =>
      if semver.lessThan new existing then some (.text "version requested is downgrade")
      else
        let nextMajor := semver.incMajor (semver.incMajor existing)
        match semver.newConstraint ("< " ++ semver.string nextMajor) with
        | .error err => some (.text err)
        | .ok upgradeConstraint =>
          if !semver.check upgradeConstraint new then
            some (.text "version request is more than 1 major version ahead")
          else none

def findInProgress (componentsStatus : List ComponentStatus) (pools : List NodePool) :
    Option NodePool :=
  pools.find? (fun nodePool =>
    let (currentStatus, found) := findUpgrader componentsStatus nodePool.component
    found && currentStatus.status == "Upgrading")

def findNextPool (componentsStatus : List ComponentStatus) (pools : List NodePool) :
    Option NodePool :=
  pools.find? (fun nodePool => !(findUpgrader componentsStatus nodePool.component).2)

def dataNodes (pools : List NodePool) : List NodePool :=
  pools.filter (fun nodePool => hasDataRole nodePool && !hasManagerRole nodePool)

def dataAndMasterNodes (pools : List NodePool) : List NodePool :=
  pools.filter (fun nodePool => hasDataRole nodePool && hasManagerRole nodePool)

def otherNodes (pools : List NodePool) : List NodePool :=
  pools.filter (fun nodePool => !hasDataRole nodePool)

def findInClass (componentsStatus : List ComponentStatus) (pools : List NodePool) :
    Option (NodePool × UpgradeStatus) :=
  match findInProgress componentsStatus pools with
  | some pool => some (pool, .inProgress)
  | none => (findNextPool componentsStatus pools).map (fun pool => (pool, .pending))

/-- Nothing is found when all pools are done, the source's status `Finished`. -/
def findNextNodePoolForUpgrade (cr : OpenSearchCluster) : Option (NodePool × UpgradeStatus) :=
  let componentsStatus := cr.status.componentsStatus
  (findInClass componentsStatus (dataNodes cr.spec.nodePools)).or
    ((findInClass componentsStatus (dataAndMasterNodes cr.spec.nodePools)).or
      (findInClass componentsStatus (otherNodes cr.spec.nodePools)))

theorem findInClass_mem {componentsStatus : List ComponentStatus}
    (next : findInClass componentsStatus pools = some (pool, status)) : pool ∈ pools := by
  rw [findInClass] at next
  split at next
  case h_1 found =>
    cases next
    exact List.mem_of_find?_eq_some found
  case h_2 =>
    obtain ⟨found, search, same⟩ := Option.map_eq_some_iff.mp next
    cases same
    exact List.mem_of_find?_eq_some search

theorem findNextNodePoolForUpgrade_mem
    (next : findNextNodePoolForUpgrade cr = some (pool, status)) : pool ∈ cr.spec.nodePools := by
  rw [findNextNodePoolForUpgrade, Option.or_eq_some_iff, Option.or_eq_some_iff] at next
  rcases next with first | ⟨_, second | ⟨_, third⟩⟩
  · exact List.mem_of_mem_filter (findInClass_mem first)
  · exact List.mem_of_mem_filter (findInClass_mem second)
  · exact List.mem_of_mem_filter (findInClass_mem third)

/-- The closure of `setComponentConditions`. The conditions that were stored are
added to the captured ones, for the next attempt if there is one. -/
def withConditions (component : String) (conditions : List String) (cluster : OpenSearchCluster) :
    ClusterStatus × List String :=
  let (componentStatus, found) := findFirstPartial cluster.status.componentsStatus
    (upgrading component []) getByDescriptionAndComponent
  let newStatus := upgrading component conditions
  ({ cluster.status with
      componentsStatus := replace componentStatus newStatus cluster.status.componentsStatus },
    if found then componentStatus.conditions ++ conditions else conditions)

def setComponentConditions (conditions : List String) (component : String) : Prog Unit := do
  let _ ← updateOpenSearchClusterStatus (withConditions component) conditions
  return ()

/-- The last steps of `doNodePoolUpgrade`: the pod that is due goes. -/
def restartWorkingPod (cr : OpenSearchCluster) (pool : NodePool) (sts : StatefulSet)
    (dataCount : Int) : Prog (Option Failure) := do
  let preparing := "preparing for pod delete"
  match ← workingPodForRollingRestart sts with
  | .error err =>
    setComponentConditions [preparing, "Could not find working pod"] pool.component
    return some err
  | .ok workingPod =>
    match ← preparePodForDelete workingPod cr.spec.general.drainDataNodes dataCount with
    | .error err =>
      setComponentConditions [preparing, "Could not prepare pod for delete"] pool.component
      return some err
    | .ok false =>
      setComponentConditions [preparing, "Waiting for node to drain"] pool.component
      return none
    | .ok true =>
      match ← deletePod workingPod with
      | .error err =>
        setComponentConditions [preparing, "Could not delete pod"] pool.component
        return some (.api err)
      | .ok _ =>
        setComponentConditions [preparing, "Deleted pod " ++ workingPod] pool.component
        if cr.spec.general.drainDataNodes then
          let (_, err) ← removeExcludeNodeHost workingPod
          return err
        else return none

def finishNodePool (pool : NodePool) : Prog (Option Failure) := do
  match ← reactivateShardAllocation with
  | some err => return some err
  | none =>
    updateComponents (replace (upgrading pool.component [])
      (upgraderStatus "Upgraded" pool.component []))

/-- `doNodePoolUpgrade` from the point where the pool's pods are counted. -/
def upgradeReadyPool (semver : SemverPackage) (cr : OpenSearchCluster) (pool : NodePool)
    (sts : StatefulSet) (dataCount : Int) : Prog (Option Failure) := do
  match ← deleteUnsupportedClusterSettings semver cr.spec.general.version with
  | some err =>
    setComponentConditions ["Could not delete unsupported cluster settings"] pool.component
    return some err
  | none =>
    match ← checkClusterStatusForRestart cr.spec.general.drainDataNodes with
    | .error (_, err) =>
      setComponentConditions ["Could not check opensearch cluster status"] pool.component
      return some err
    | .ok (false, condition) =>
      setComponentConditions [condition] pool.component
      return none
    | .ok (true, _) =>
      if sts.status.updatedReplicas = sts.replicas then finishNodePool pool
      else restartWorkingPod cr pool sts dataCount

def doNodePoolUpgrade (semver : SemverPackage) (cr : OpenSearchCluster) (pool : NodePool) :
    Prog (Option Failure) := do
  match ← getStatefulSet (stsName cr pool) with
  | .error err => return some (.api err)
  | .ok sts =>
    match ← readyReplicasForNodePool cr pool with
    | .error err => return some (.api err)
    | .ok readyReplicas =>
      let dataCount ← dataNodesCount cr cr.spec.nodePools
      if readyReplicas < sts.replicas then
        setComponentConditions ["Waiting for all pods to be ready"] pool.component
        return none
      else upgradeReadyPool semver cr pool sts dataCount

def removeUpgraders : List NodePool → List ComponentStatus → List ComponentStatus
  | [], componentsStatus => componentsStatus
  | pool :: pools, componentsStatus =>
    let (currentStatus, found) := findUpgrader componentsStatus pool.component
    removeUpgraders pools
      (if found then removeIt currentStatus componentsStatus else componentsStatus)

/-- The closure that ends an upgrade, on the object it updates: its spec may be
newer than the one the upgrade worked on. -/
def finishUpgrade (cluster : OpenSearchCluster) : ClusterStatus :=
  { cluster.status with
    version := cluster.spec.general.version
    phase := phaseRunning
    componentsStatus := removeUpgraders cluster.spec.nodePools cluster.status.componentsStatus }

def upgradeNodePools (semver : SemverPackage) (cr : OpenSearchCluster) :
    Prog (Result × Option Failure) := do
  match findNextNodePoolForUpgrade cr with
  | some (pool, .pending) =>
    let err ← updateComponents (· ++ [upgrading pool.component []])
    return ({ requeue := true, requeueAfter := seconds 15 }, err)
  | some (pool, .inProgress) =>
    let err ← doNodePoolUpgrade semver cr pool
    return ({ requeue := true, requeueAfter := seconds 30 }, err)
  | none =>
    let err ← updateStatus finishUpgrade
    return ({}, err)

/-- `Reconcile` once the phase says that an upgrade is going on. -/
def upgradeCluster (semver : SemverPackage) (cr : OpenSearchCluster) :
    Prog (Result × Option Failure) := do
  match ← createClientForCluster with
  | .error err => return ({}, some (.api err))
  | .ok _ =>
    if cr.spec.general.drainDataNodes then
      let (res, err) ← cleanStaleExclusionList cr
      if err.isSome then return ({}, err)
      else if res.requeue then return (res, none)
      else upgradeNodePools semver cr
    else upgradeNodePools semver cr

def reconcile (cr : OpenSearchCluster) (semver : SemverPackage := masterminds) :
    Prog (Result × Option Failure) := do
  if cr.spec.general.version = cr.status.version then
    if cr.status.phase = phaseUpgrading then
      let err ← updateStatus (fun cluster => { cluster.status with phase := phaseRunning })
      return ({}, err)
    else return ({}, none)
  else if !cr.status.initialized then
    return ({ requeue := true, requeueAfter := seconds 10 }, none)
  else
    match validateUpgrade semver cr with
    | some err => return ({}, some err)
    | none =>
      if cr.status.phase ≠ phaseUpgrading then
        match ← updateStatus (fun cluster => { cluster.status with phase := phaseUpgrading }) with
        | some err => return ({}, some err)
        | none => upgradeCluster semver cr
      else upgradeCluster semver cr

def upgradePass (semver : SemverPackage := masterminds) : Prog (Result × Option Failure) := do
  match ← getOpenSearchCluster with
  | .error .notFound => return ({}, none)
  | .error err => return ({}, some (.api err))
  | .ok cr =>
    enter .upgrade cr
    reconcile cr semver

inductive Write (cr : OpenSearchCluster) : (OpenSearchCluster → ClusterStatus) → Prop
  | start (pool : NodePool) (next : findNextNodePoolForUpgrade cr = some (pool, .pending)) :
      Write cr (fun cluster => { cluster.status with
        componentsStatus := cluster.status.componentsStatus ++ [upgrading pool.component []] })
  | conditions (pool : NodePool) (next : findNextNodePoolForUpgrade cr = some (pool, .inProgress))
      (conditions : List String) :
      Write cr (fun cluster => (withConditions pool.component conditions cluster).1)
  | upgraded (pool : NodePool) (next : findNextNodePoolForUpgrade cr = some (pool, .inProgress)) :
      Write cr (fun cluster => { cluster.status with
        componentsStatus := replace (upgrading pool.component [])
          (upgraderStatus "Upgraded" pool.component []) cluster.status.componentsStatus })
  | finish (next : findNextNodePoolForUpgrade cr = none) : Write cr finishUpgrade

theorem mem_removeUpgraders (other : x.component ≠ "Upgrader") {l : List ComponentStatus} :
    x ∈ removeUpgraders pools l ↔ x ∈ l := by
  induction pools generalizing l with
  | nil => rfl
  | cons pool pools ih =>
    rw [removeUpgraders, ih]
    have found : (findUpgrader l pool.component).1.component = "Upgrader" :=
      (findFirstPartial_matches _).1
    split
    · exact mem_removeIt_of_ne (found ▸ other)
    · rfl

theorem Write.mem_iff {f : OpenSearchCluster → ClusterStatus}
    (write : Write cr f) (cluster : OpenSearchCluster) (other : x.component ≠ "Upgrader") :
    x ∈ (f cluster).componentsStatus ↔ x ∈ cluster.status.componentsStatus := by
  cases write with
  | start pool next =>
    rw [List.mem_append, List.mem_singleton]
    constructor
    · intro either
      rcases either with old | rfl
      · exact old
      · exact absurd rfl other
    · exact Or.inl
  | conditions pool next conditions =>
    have found : (findFirstPartial cluster.status.componentsStatus (upgrading pool.component [])
        getByDescriptionAndComponent).1.component = "Upgrader" := (findFirstPartial_matches _).1
    exact mem_replace_of_ne (found ▸ other) other
  | upgraded pool next => exact mem_replace_of_ne other other
  | finish next => exact mem_removeUpgraders other

section Rules

variable {permit : ApiEvent → Prop} {inv K K' : ApiWorld → Prop} {cr : OpenSearchCluster}
  {semver : SemverPackage}

/-- What an assertion needs for the work on the node pool that is in progress, but for
its end: `K` holds until the status update at its end, and `K'` from then on. -/
structure Proceeds (permit : ApiEvent → Prop) (inv K K' : ApiWorld → Prop)
    (cr : OpenSearchCluster) (pool : NodePool) : Prop where
  implied : ∀ w, K w → inv w
  implied' : ∀ w, K' w → inv w
  weaken : ∀ w, K w → K' w
  stable : Stable permit K
  gentle : ∀ w choice op, Gentle cr.spec.general.drainDataNodes op →
    permit (w.arrive choice op) → K w → K (w.extend (w.arrive choice op))
  gentle' : cr.spec.general.drainDataNodes = true → ∀ w choice op, Gentle true op →
    permit (w.arrive choice op) → K' w → K' (w.extend (w.arrive choice op))
  deletes : ∀ w choice pod, permit (asked w choice (.deletePod pod)) → K w →
    K (w.extend (asked w choice (.deletePod pod)))
  reports : ∀ w (e : ApiEvent) (conditions : List String), K w → e.prior = w.state → permit e →
    e.before.cluster = w.state.cluster →
    e.after = e.before.withStatus (withConditions pool.component conditions w.state.cluster).1 →
    K' (w.extend e)

structure Works (permit : ApiEvent → Prop) (inv K K' : ApiWorld → Prop)
    (cr : OpenSearchCluster) (pool : NodePool) : Prop
    extends Proceeds permit inv K K' cr pool where
  finished : ∀ w, K w → Safe permit inv (finishNodePool pool) (fun _ => K') w

namespace Proceeds

variable {pool : NodePool} (works : Proceeds permit inv K K' cr pool) {sts : StatefulSet} {α : Type}

include works

theorem keeps_gentle {program : Prog α}
    (only : program.OnlyCalls (Gentle cr.spec.general.drainDataNodes)) :
    Keeps permit inv K program :=
  keeps_of_calls works.implied only fun w choice op allowed permitted kept =>
    works.gentle w choice op allowed permitted kept

theorem safe_setComponentConditions (conditions : List String) (w : ApiWorld) (holds : K w) :
    Safe permit inv (setComponentConditions conditions pool.component) (fun _ => K') w := by
  have rule : StatusUpdate permit inv (withConditions pool.component) (fun _ => K)
      (fun _ => K') := by
    constructor
    · exact fun _ => works.implied
    · exact fun _ => works.stable
    · exact fun _ _ kept => kept
    · intro conditions w choice kept e allowed unchanged after
      exact works.reports w e conditions kept rfl allowed unchanged after
  apply (safe_updateOpenSearchClusterStatus rule holds).bind
  intro result w ⟨_, either⟩
  exact either.elim (works.weaken w) id

theorem safe_report (conditions : List String) (value : α) (w : ApiWorld) (holds : K w) :
    Safe permit inv (do
      setComponentConditions conditions pool.component
      return value) (fun _ => K') w :=
  Safe.bind (works.safe_setComponentConditions conditions w holds) fun _ _ done => done

theorem safe_deletePod (pod : String) (w : ApiWorld) (holds : K w) :
    Safe permit inv (deletePod pod) (fun _ => K) w :=
  safe_request _ (works.implied w holds) fun choice allowed =>
    works.deletes w choice pod allowed holds

theorem safe_restartWorkingPod (sts : StatefulSet) (dataCount : Int) (w : ApiWorld) (holds : K w) :
    Safe permit inv (restartWorkingPod cr pool sts dataCount) (fun _ => K') w := by
  have found : Keeps permit inv K (workingPodForRollingRestart sts) :=
    works.keeps_gentle ((reads_workingPod sts).mono fun _ reads => reads.gentle _)
  apply (found w holds).bindOk
  · exact fun _ w holds => works.safe_report _ _ w holds
  intro workingPod w holds
  apply (works.keeps_gentle
    ((tunes_preparePodForDelete _ _ _).mono fun _ => Tunes.gentle) w holds).bind
  intro ready w holds
  match ready with
  | .error err => exact works.safe_report _ _ w holds
  | .ok false => exact works.safe_report _ _ w holds
  | .ok true =>
    apply (works.safe_deletePod workingPod w holds).bindOk
    · exact fun _ w holds => works.safe_report _ _ w holds
    intro _ w holds
    apply (works.safe_setComponentConditions _ w holds).bind
    intro _ w done
    cases drain : cr.spec.general.drainDataNodes with
    | false => exact done
    | true =>
      have removed : Keeps permit inv K' (removeExcludeNodeHost workingPod) :=
        keeps_of_calls works.implied'
          ((tunes_removeExcludeNodeHost workingPod).mono fun _ => Tunes.gentle)
          (works.gentle' drain)
      apply (removed w done).bind
      exact fun _ _ done => done

theorem safe_upgradeReadyPool (dataCount : Int)
    (finished : sts.status.updatedReplicas = sts.replicas →
      ∀ w, K w → Safe permit inv (finishNodePool pool) (fun _ => K') w)
    (w : ApiWorld) (holds : K w) :
    Safe permit inv (upgradeReadyPool semver cr pool sts dataCount) (fun _ => K') w := by
  apply (works.keeps_gentle
    ((tunes_deleteUnsupportedClusterSettings).mono fun _ tunes => (tunes.lists _).gentle)
    w holds).bindNone
  · exact fun _ w holds => works.safe_report _ _ w holds
  intro w holds
  apply (works.keeps_gentle
    ((tunes_checkClusterStatusForRestart).mono fun _ tunes => (tunes.lists _).gentle) w holds).bind
  intro ready w holds
  match ready with
  | .error (_, err) => exact works.safe_report _ _ w holds
  | .ok (false, condition) => exact works.safe_report _ _ w holds
  | .ok (true, _) =>
    dsimp only
    split
    case isTrue all => exact finished all w holds
    case isFalse => exact works.safe_restartWorkingPod sts dataCount w holds

theorem safe_countedPool (finished : sts.status.updatedReplicas = sts.replicas →
      ∀ w, K w → Safe permit inv (finishNodePool pool) (fun _ => K') w)
    (w : ApiWorld) (holds : K w) : Safe permit inv (do
      match ← readyReplicasForNodePool cr pool with
      | .error err => return some (.api err)
      | .ok readyReplicas =>
        let dataCount ← dataNodesCount cr cr.spec.nodePools
        if readyReplicas < sts.replicas then
          setComponentConditions ["Waiting for all pods to be ready"] pool.component
          return none
        else upgradeReadyPool semver cr pool sts dataCount) (fun _ => K') w := by
  apply (works.keeps_gentle
    ((reads_readyReplicas pool).mono fun _ reads => reads.gentle _) w holds).bindOk
  · exact fun _ w holds => works.weaken w holds
  intro readyReplicas w holds
  apply (works.keeps_gentle
    ((reads_dataNodesCount cr.spec.nodePools).mono fun _ reads => reads.gentle _) w holds).bind
  intro dataCount w holds
  split
  · exact works.safe_report _ _ w holds
  · exact works.safe_upgradeReadyPool dataCount finished w holds

end Proceeds

theorem Works.safe_doNodePoolUpgrade {pool : NodePool} (works : Works permit inv K K' cr pool)
    (w : ApiWorld) (holds : K w) :
    Safe permit inv (doNodePoolUpgrade semver cr pool) (fun _ => K') w := by
  apply (works.keeps_gentle (onlyCalls_asked rfl) w holds).bindOk
  · exact fun _ w holds => works.weaken w holds
  intro sts w holds
  exact works.safe_countedPool (fun _ => works.finished) w holds

/-- What an assertion needs for a pass of the upgrade reconciler: `K` holds until it turns
to the node pools, and `K'` when it is done with them. -/
structure Guides (permit : ApiEvent → Prop) (inv K K' : ApiWorld → Prop)
    (cr : OpenSearchCluster) : Prop where
  implied : ∀ w, K w → inv w
  weaken : ∀ w, K w → K' w
  stable : Stable permit K
  cleans : cr.spec.general.drainDataNodes = true → Keeps permit inv K (cleanStaleExclusionList cr)
  phase : ∀ w (e : ApiEvent) (phase : String), K w → e.prior = w.state → permit e →
    e.before.cluster = w.state.cluster →
    e.after = e.before.withStatus { w.state.cluster.status with phase := phase } → K (w.extend e)
  pools : cr.spec.general.version ≠ cr.status.version → ∀ semver w, K w →
    Safe permit inv (upgradeNodePools semver cr) (fun _ => K') w

namespace Guides

variable (guides : Guides permit inv K K' cr)

include guides

theorem safe_upgradeCluster (pending : cr.spec.general.version ≠ cr.status.version) (w : ApiWorld)
    (holds : K w) : Safe permit inv (upgradeCluster semver cr) (fun _ => K') w := by
  apply (safe_reads (onlyCalls_asked rfl) guides.stable guides.implied holds).bindOk
  · exact fun _ w holds => guides.weaken w holds
  intro _ w holds
  dsimp only
  split
  case isTrue drain =>
    apply (guides.cleans drain w holds).bind
    rintro ⟨res, err⟩ w holds
    split
    · exact guides.weaken w holds
    split
    · exact guides.weaken w holds
    · exact guides.pools pending semver w holds
  case isFalse => exact guides.pools pending semver w holds

theorem safe_phase (phase : String) (w : ApiWorld) (holds : K w) :
    Safe permit inv (updateStatus fun cluster => { cluster.status with phase := phase })
      (fun _ => K) w :=
  safe_settleStatus _ guides.implied guides.stable (fun _ kept => kept)
    (fun w e => guides.phase w e phase)
    holds

theorem safe_reconcile (w : ApiWorld) (holds : K w) :
    Safe permit inv (reconcile cr semver) (fun _ => K') w := by
  rw [reconcile]
  split
  · split
    · apply (guides.safe_phase _ w holds).bind
      exact fun _ w holds => guides.weaken w holds
    · exact guides.weaken w holds
  case isFalse pending =>
    split
    · exact guides.weaken w holds
    split
    · exact guides.weaken w holds
    split
    · apply (guides.safe_phase _ w holds).bindNone
      · exact fun _ w holds => guides.weaken w holds
      intro w holds
      exact guides.safe_upgradeCluster pending w holds
    · exact guides.safe_upgradeCluster pending w holds

end Guides

/-- What an assertion needs for a pass of the upgrade reconciler: `K` holds until
the one status update that is not about the phase, and `K'` from then on. -/
structure Respects (permit : ApiEvent → Prop) (inv K K' : ApiWorld → Prop)
    (cr : OpenSearchCluster) : Prop where
  implied : ∀ w, K w → inv w
  implied' : ∀ w, K' w → inv w
  weaken : ∀ w, K w → K' w
  stable : Stable permit K
  gentle : ∀ w choice op, Gentle cr.spec.general.drainDataNodes op →
    permit (w.arrive choice op) → K w → K (w.extend (w.arrive choice op))
  gentle' : ∀ w choice op, Gentle cr.spec.general.drainDataNodes op →
    permit (w.arrive choice op) → K' w → K' (w.extend (w.arrive choice op))
  deletes : ∀ w choice pod, permit (asked w choice (.deletePod pod)) → K w →
    K (w.extend (asked w choice (.deletePod pod)))
  phase : ∀ w (e : ApiEvent) (phase : String), K w → e.prior = w.state → permit e →
    e.before.cluster = w.state.cluster →
    e.after = e.before.withStatus { w.state.cluster.status with phase := phase } → K (w.extend e)
  writes : ∀ w (e : ApiEvent) (f : OpenSearchCluster → ClusterStatus), Write cr f → K w →
    e.prior = w.state → permit e → e.before.cluster = w.state.cluster →
    e.after = e.before.withStatus (f w.state.cluster) → K' (w.extend e)

namespace Respects

variable (respects : Respects permit inv K K' cr) {pool : NodePool}

include respects

theorem safe_update {f : OpenSearchCluster → ClusterStatus} (write : Write cr f) (w : ApiWorld)
    (holds : K w) : Safe permit inv (updateStatus f) (fun _ => K') w :=
  safe_settleStatus f respects.implied respects.stable respects.weaken
    (fun w e => respects.writes w e f write)
    holds

theorem keeps_gentle {α : Type} {program : Prog α}
    (only : program.OnlyCalls (Gentle cr.spec.general.drainDataNodes)) :
    Keeps permit inv K program :=
  keeps_of_calls respects.implied only fun w choice op allowed permitted kept =>
    respects.gentle w choice op allowed permitted kept

theorem safe_finishNodePool
    (next : findNextNodePoolForUpgrade cr = some (pool, .inProgress)) (w : ApiWorld) (holds : K w) :
    Safe permit inv (finishNodePool pool) (fun _ => K') w := by
  apply (respects.keeps_gentle
    (tunes_reactivateShardAllocation.mono fun _ tunes => (tunes.lists _).gentle) w holds).bindNone
  · exact fun _ w holds => respects.weaken w holds
  intro w holds
  exact respects.safe_update (.upgraded pool next) w holds

theorem works (next : findNextNodePoolForUpgrade cr = some (pool, .inProgress)) :
    Works permit inv K K' cr pool where
  implied := respects.implied
  implied' := respects.implied'
  weaken := respects.weaken
  stable := respects.stable
  gentle := respects.gentle
  gentle' := by
    intro drain
    rw [← drain]
    exact respects.gentle'
  deletes := respects.deletes
  reports := fun w e conditions => respects.writes w e _ (.conditions pool next conditions)
  finished := respects.safe_finishNodePool next

theorem safe_upgradeNodePools (w : ApiWorld) (holds : K w) :
    Safe permit inv (upgradeNodePools semver cr) (fun _ => K') w := by
  rw [upgradeNodePools]
  split
  case h_1 pool next =>
    exact (respects.safe_update (.start pool next) w holds).bind fun _ _ done => done
  case h_2 pool next =>
    exact ((respects.works next).safe_doNodePoolUpgrade w holds).bind fun _ _ done => done
  case h_3 next =>
    exact (respects.safe_update (.finish next) w holds).bind fun _ _ done => done

theorem guides : Guides permit inv K K' cr where
  implied := respects.implied
  weaken := respects.weaken
  stable := respects.stable
  cleans := by
    intro drain
    have gentle : (cleanStaleExclusionList cr).OnlyCalls (Gentle true) :=
      gentle_cleanStaleExclusionList
    rw [← drain] at gentle
    exact respects.keeps_gentle gentle
  phase := respects.phase
  pools := fun _ _ => respects.safe_upgradeNodePools

theorem safe_reconcile (w : ApiWorld) (holds : K w) :
    Safe permit inv (reconcile cr semver) (fun _ => K') w :=
  respects.guides.safe_reconcile w holds

end Respects

end Rules

end OpenSearchOperator.Reconcilers.Upgrade
