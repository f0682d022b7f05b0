import OpenSearchOperator.Data.Semver
import OpenSearchOperator.Gateway.Exclusion

/-! What the cluster has to say before a pod is restarted: its health, the shards
on the node, and the settings that hold a restart up. -/

namespace OpenSearchOperator.Gateway

open Api Data Effects

def allocationAll : String := "all"
def allocationPrimaries : String := "primaries"

def setClusterShardAllocation (enableType : String) : Prog (Option Failure) := do
  match ← putClusterSettings (.allocationEnable enableType) with
  | .error err => return some (.api err)
  | .ok _ => return none

/-- `fmt.Sscanf` with `%d`: a number at the start, whatever follows it. -/
def scanShardNumber (shard : String) : Option Int :=
  let characters := shard.toList.dropWhile fun c => isSpace c && c != '\n'
  let (sign, characters) := match characters with
    | '-' :: rest => (['-'], rest)
    | '+' :: rest => ([], rest)
    | rest => ([], rest)
  parseInt64 (String.ofList (sign ++ characters.takeWhile Char.isDigit))

def stuckOnVersion (explain : AllocationExplain) : Bool :=
  let isUnassignedAndCannotAllocate :=
    explain.currentState == "unassigned" && explain.canAllocate == "no"
  let isAssignedOrStarted :=
    explain.currentState == "assigned" || explain.currentState == "started"
  let isAssignedButCannotMove := isAssignedOrStarted &&
    explain.canRemainOnCurrentNode == "no" && explain.canMoveToOtherNode == "no"
  (isUnassignedAndCannotAllocate || isAssignedButCannotMove) &&
    explain.nodeAllocationDecisions.any (fun node => node.decision == "no" &&
      node.deciders.any (fun decider =>
        decider.decision == "NO" && decider.decider == "node_version"))

def detectShardStuckVersionMismatch (shard : CatShard) : Prog (Except Failure Bool) := do
  match if shard.shard = "" then some 0 else scanShardNumber shard.shard with
  | none => return .error (.text ("could not parse shard number for " ++ shard.index ++ "[" ++
      shard.shard ++ "]"))
  | some shardNum =>
    match ← getAllocationExplain shard.index shardNum (shard.primaryOrReplica == "p") with
    | .error _ => return .error (.text ("could not get allocation explain for " ++ shard.index ++
        "[" ++ toString shardNum ++ "]"))
    | .ok explain => return .ok (stuckOnVersion explain)

def countStuck (relevant : CatShard → Bool) : List CatShard → Prog (Except Failure Int)
  | [] => return .ok 0
  | shard :: shards => do
      if relevant shard then
        match ← detectShardStuckVersionMismatch shard with
        | .error err => return .error err
        | .ok isStuck =>
          match ← countStuck relevant shards with
          | .error err => return .error err
          | .ok count => return .ok (count + if isStuck then 1 else 0)
      else countStuck relevant shards

def countStuckReplicas : List (String × String) → Prog (Except Failure Int)
  | [] => return .ok 0
  | (index, status) :: indices => do
      if status == "yellow" then
        match ← catNamedIndicesShards [index] with
        | .error err => return .error (.api err)
        | .ok shards =>
          match ← countStuck (fun shard =>
              shard.state == "UNASSIGNED" && shard.primaryOrReplica == "r") shards with
          | .error err => return .error err
          | .ok here =>
            match ← countStuckReplicas indices with
            | .error err => return .error err
            | .ok count => return .ok (here + count)
      else countStuckReplicas indices

def checkClusterRestartOnYellow (health : ClusterHealth) : Prog (Except Failure Bool) := do
  if health.status ≠ "yellow" then return .ok false
  else if health.relocatingShards > 0 || health.initializingShards > 0 then return .ok false
  else
    match ← countStuckReplicas health.indices with
    | .error err => return .error err
    | .ok stuckReplicasCount => return .ok (health.unassignedShards == stuckReplicasCount)

/-- The part of `CheckClusterStatusForRestart` for a cluster that is not fit for a
restart: without draining, shard allocation is enabled again first. -/
def notReadyForRestart (drainNodes : Bool) : Prog (Except (String × Failure) (Bool × String)) := do
  if drainNodes then return .ok (false, "cluster is not green and drain nodes is enabled")
  else
    match ← getClusterSettings with
    | .error err => return .error ("could not fetch cluster settings", .api err)
    | .ok flatSettings =>
      if flatSettings.enable.getD "" = allocationAll then
        return .ok (false, "waiting for health to be green")
      else
        match ← setClusterShardAllocation allocationAll with
        | some err => return .error ("failed to set shard allocation", err)
        | none => return .ok (false, "enabled shard allocation")

def checkClusterStatusForRestart (drainNodes : Bool) :
    Prog (Except (String × Failure) (Bool × String)) := do
  match ← getHealth with
  | .error err => return .error ("failed to fetch health", .api err)
  | .ok health =>
    if health.status = "green" then return .ok (true, "")
    else if health.status = "yellow" then
      match ← checkClusterRestartOnYellow health with
      | .error err => return .error ("", err)
      | .ok true => return .ok (true, "")
      | .ok false => notReadyForRestart drainNodes
    else notReadyForRestart drainNodes

def reactivateShardAllocation : Prog (Option Failure) := do
  match ← getClusterSettings with
  | .error err => return some (.api err)
  | .ok flatSettings =>
    if flatSettings.enable.getD "" = allocationAll then return none
    else setClusterShardAllocation allocationAll

def systemIndices : List String :=
  [".kibana_1", ".opendistro_security", ".opendistro-alerting-config",
    ".opendistro-alerting-alert*", ".opendistro-anomaly-results*",
    ".opendistro-anomaly-detector*", ".opendistro-anomaly-checkpoints",
    ".opendistro-anomaly-detection-state", ".opendistro-reports-*",
    ".opendistro-notifications-*", ".opendistro-notebooks", ".opensearch-observability",
    ".opendistro-asynchronous-search-response*", ".replication-metadata-store"]

def existingIndices : List String → Prog (Except ApiError (List String))
  | [] => return .ok []
  | index :: indices => do
      match ← indexExists index with
      | .error err => return .error err
      | .ok isThere =>
        match ← existingIndices indices with
        | .error err => return .error err
        | .ok existing => return .ok (if isThere then index :: existing else existing)

def getExistingSystemIndices : Prog (Except ApiError (List String)) :=
  existingIndices systemIndices

def hasIndexPrimariesOnNode (nodeName : String) (indices : List String) :
    Prog (Except ApiError Bool) := do
  match ← catNamedIndicesShards indices with
  | .error err => return .error err
  | .ok response =>
    return .ok (response.any (fun shard => shard.primaryOrReplica == "p" &&
      (shard.state != "STARTED" || extractNodeName shard.nodeName == nodeName)))

def checkPodSafeToDelete (nodeName : String) : Prog (Except Failure Bool) := do
  match ← catShards with
  | .error err => return .error (.api err)
  | .ok shards =>
    let nodeShards := shards.filter (fun shard => shard.nodeName == nodeName)
    match ← countStuck (fun shard => shard.primaryOrReplica == "r") nodeShards with
    | .error err => return .error err
    | .ok nodeStuckReplicasCount =>
      return .ok (nodeStuckReplicasCount == (nodeShards.length : Int))

def preparePodForDelete (podName : String) (drainNode : Bool) (nodeCount : Int) :
    Prog (Except Failure Bool) := do
  if drainNode then
    let (_, err) ← appendExcludeNodeHost podName
    match err with
    | some err => return .error err
    | none =>
      if nodeCount = 2 then
        match ← getExistingSystemIndices with
        | .error err => return .error (.api err)
        | .ok systemIndices =>
          match ← hasIndexPrimariesOnNode podName systemIndices with
          | .error err => return .error (.api err)
          | .ok systemPrimaries => return .ok (!systemPrimaries)
      else checkPodSafeToDelete podName
  else
    match ← setClusterShardAllocation allocationPrimaries with
    | some err => return .error err
    | none => return .ok true

def removedSettings : List String :=
  ["archived.opendistro.index_state_management.metadata_service.enabled",
    "archived.opendistro.index_state_management.metadata_migration.status",
    "archived.opendistro.index_state_management.template_migration.control",
    "archived.plugins.index_state_management.metadata_service.enabled",
    "archived.plugins.index_state_management.metadata_migration.status",
    "archived.plugins.index_state_management.template_migration.control"]

def determineUnsupportedClusterSettings (semver : SemverPackage) (newVersion : String) :
    Except String (List String) := do
  let new ← semver.newVersion newVersion
  let newerThanMin ← semver.newConstraint (">= " ++ "3.0.0")
  return if semver.check newerThanMin new then removedSettings else []

def deleteUnsupportedClusterSettings (semver : SemverPackage) (newVersion : String) :
    Prog (Option Failure) := do
  match determineUnsupportedClusterSettings semver newVersion with
  | .error err => return some (.text err)
  | .ok [] => return none
  | .ok settingsToDelete =>
    match ← putClusterSettings (.remove settingsToDelete) with
    | .error err => return some (.api err)
    | .ok _ => return none

section Calls

variable {indices : List String}

theorem tunes_setClusterShardAllocation {enableType : String} :
    (setClusterShardAllocation enableType).OnlyCalls (Tunes false) :=
  ⟨rfl, fun reply => by cases reply <;> trivial⟩

theorem tunes_detectShardStuck (shard : CatShard) :
    (detectShardStuckVersionMismatch shard).OnlyCalls (Tunes false) := by
  rw [detectShardStuckVersionMismatch]
  split
  · trivial
  · exact ⟨rfl, fun reply => by cases reply <;> trivial⟩

theorem tunes_countStuck {relevant : CatShard → Bool} (shards : List CatShard) :
    (countStuck relevant shards).OnlyCalls (Tunes false) := by
  induction shards with
  | nil => trivial
  | cons shard shards ih =>
    rw [countStuck]
    split
    · apply (tunes_detectShardStuck shard).bindOk
      · exact fun _ => trivial
      intro isStuck
      apply ih.bind
      intro count
      cases count <;> trivial
    · exact ih

theorem tunes_countStuckReplicas (indices : List (String × String)) :
    (countStuckReplicas indices).OnlyCalls (Tunes false) := by
  induction indices with
  | nil => trivial
  | cons entry indices ih =>
    rw [countStuckReplicas]
    split
    · refine (onlyCalls_asked (by rfl)).bindOk (fun _ => trivial) fun shards => ?_
      apply (tunes_countStuck shards).bindOk
      · exact fun _ => trivial
      intro here
      apply ih.bind
      intro count
      cases count <;> trivial
    · exact ih

theorem tunes_checkClusterRestartOnYellow (health : ClusterHealth) :
    (checkClusterRestartOnYellow health).OnlyCalls (Tunes false) := by
  rw [checkClusterRestartOnYellow]
  split
  · trivial
  split
  · trivial
  apply (tunes_countStuckReplicas health.indices).bind
  intro stuck
  cases stuck <;> trivial

theorem tunes_notReadyForRestart (drainNodes : Bool) :
    (notReadyForRestart drainNodes).OnlyCalls (Tunes false) := by
  rw [notReadyForRestart]
  split
  · trivial
  refine (onlyCalls_asked (by rfl)).bindOk (fun _ => trivial) fun settings => ?_
  dsimp only
  split
  · trivial
  apply (tunes_setClusterShardAllocation).bind
  intro failed
  cases failed <;> trivial

theorem tunes_checkClusterStatusForRestart {drainNodes : Bool} :
    (checkClusterStatusForRestart drainNodes).OnlyCalls (Tunes false) := by
  refine (onlyCalls_asked (by rfl)).bindOk (fun _ => trivial) fun health => ?_
  dsimp only
  split
  · trivial
  split
  · apply (tunes_checkClusterRestartOnYellow health).bind
    intro safe
    match safe with
    | .error err => trivial
    | .ok true => trivial
    | .ok false => exact tunes_notReadyForRestart drainNodes
  · exact tunes_notReadyForRestart drainNodes

theorem tunes_reactivateShardAllocation : reactivateShardAllocation.OnlyCalls (Tunes false) := by
  refine (onlyCalls_asked (by rfl)).bindOk (fun _ => trivial) fun settings => ?_
  dsimp only
  split
  · trivial
  · exact tunes_setClusterShardAllocation

theorem tunes_existingIndices : (existingIndices indices).OnlyCalls (Tunes false) := by
  induction indices with
  | nil => trivial
  | cons index indices ih =>
    refine (onlyCalls_asked (by rfl)).bindOk (fun _ => trivial) fun isThere => ?_
    apply ih.bind
    intro existing
    cases existing <;> trivial

theorem tunes_hasIndexPrimariesOnNode {nodeName : String} :
    (hasIndexPrimariesOnNode nodeName indices).OnlyCalls (Tunes false) :=
  ⟨rfl, fun reply => by cases reply <;> trivial⟩

theorem tunes_checkPodSafeToDelete (nodeName : String) :
    (checkPodSafeToDelete nodeName).OnlyCalls (Tunes false) := by
  refine (onlyCalls_asked (by rfl)).bindOk (fun _ => trivial) fun shards => ?_
  apply (tunes_countStuck _).bind
  intro stuck
  cases stuck <;> trivial

theorem tunes_preparePodForDelete (podName : String) (drainNode : Bool) (nodeCount : Int) :
    (preparePodForDelete podName drainNode nodeCount).OnlyCalls (Tunes drainNode) := by
  cases drainNode with
  | false =>
    apply (tunes_setClusterShardAllocation).bind
    intro failed
    cases failed <;> trivial
  | true =>
    apply (tunes_appendExcludeNodeHost podName).bindDone
    · exact fun _ _ => trivial
    intro _
    dsimp only
    split
    · apply ((tunes_existingIndices).mono fun _ tunes => tunes.lists true).bindOk
      · exact fun _ => trivial
      intro indices
      apply ((tunes_hasIndexPrimariesOnNode).mono fun _ tunes => tunes.lists true).bind
      intro primaries
      cases primaries <;> trivial
    · exact (tunes_checkPodSafeToDelete podName).mono fun _ tunes => tunes.lists true

theorem tunes_deleteUnsupportedClusterSettings {semver : SemverPackage} {newVersion : String} :
    (deleteUnsupportedClusterSettings semver newVersion).OnlyCalls (Tunes false) := by
  rw [deleteUnsupportedClusterSettings]
  split
  · trivial
  · trivial
  · exact ⟨rfl, fun reply => by cases reply <;> trivial⟩

end Calls

end OpenSearchOperator.Gateway
