import OpenSearchOperator.Data.Store
import OpenSearchOperator.Data.Text

/-! The objects the operator reads and writes: its own custom resource, the
workload objects of Kubernetes and what the OpenSearch REST API reports. All of
them live in one namespace. -/

namespace OpenSearchOperator.Api

open Data

/-- The error reasons the operator tells apart. `immutable` is the 422 reply to a
change of a field that may not change, `invalid` any other 422. -/
inductive ApiError where
  | notFound
  | alreadyExists
  | conflict
  | immutable
  | invalid
  | unavailable
  deriving DecidableEq, Repr

inductive Failure where
  | api (error : ApiError)
  | immutableFieldChange
  | text (message : String)
  | combined (first second : Failure)
  deriving DecidableEq, Repr

/-- `ctrl.Result`, with the delay in nanoseconds. -/
structure Result where
  requeue : Bool := false
  requeueAfter : Int := 0
  deriving DecidableEq, Repr

def seconds (n : Int) : Int := n * 1000000000

abbrev Labels := List (String × String)

def Labels.get (labels : Labels) (key : String) : Option String :=
  (labels.find? (fun entry => entry.1 == key)).map Prod.snd

def Labels.merge (base other : Labels) : Labels :=
  base ++ other.filter (fun entry => (base.get entry.1).isNone)

def Labels.Matches (labels matching : Labels) : Bool :=
  matching.all (fun entry => labels.get entry.1 == some entry.2)

def clusterLabel : String := "opensearch.org/opensearch-cluster"
def nodePoolLabel : String := "opensearch.org/opensearch-nodepool"
def stsRevisionLabel : String := "controller-revision-hash"

structure PersistenceConfig where
  pvc : Bool
  emptyDir : Bool
  hostPath : Bool
  deriving DecidableEq, Repr

/-- A node pool of the custom resource. `podTemplate` and `podEnv` stand for all
that the StatefulSet builder takes from the fields that are not listed. -/
structure NodePool where
  component : String
  replicas : Int
  roles : List String
  persistence : Option PersistenceConfig
  diskSize : Nat
  podTemplate : String
  podEnv : String
  deriving DecidableEq, Repr

structure GeneralConfig where
  version : String
  drainDataNodes : Bool
  deriving DecidableEq, Repr

structure ConfMgmt where
  smartScaler : Bool
  deriving DecidableEq, Repr

structure DashboardsConfig where
  enable : Bool
  deriving DecidableEq, Repr

structure ClusterSpec where
  general : GeneralConfig
  confMgmt : ConfMgmt
  dashboards : DashboardsConfig
  nodePools : List NodePool
  deriving DecidableEq, Repr

structure ComponentStatus where
  component : String
  status : String
  description : String
  conditions : List String
  deriving DecidableEq, Repr

structure ClusterStatus where
  phase : String
  componentsStatus : List ComponentStatus
  version : String
  initialized : Bool
  availableNodes : Int
  health : String
  deriving DecidableEq, Repr

structure OpenSearchCluster where
  name : String
  resourceVersion : Nat
  spec : ClusterSpec
  status : ClusterStatus
  deriving DecidableEq, Repr

inductive PodManagementPolicy where
  | orderedReady
  | parallel
  deriving DecidableEq, Repr

structure StatefulSetStatus where
  replicas : Int
  readyReplicas : Int
  availableReplicas : Int
  updatedReplicas : Int
  currentRevision : String
  updateRevision : String
  deriving DecidableEq, Repr

/-- `volumeClaimTemplates` holds the storage request of each template. An object
that came from the server is `versioned`: its resource version is set. -/
structure StatefulSet where
  name : String
  labels : Labels
  replicas : Int
  selector : Labels
  podManagementPolicy : PodManagementPolicy
  volumeClaimTemplates : List Nat
  podTemplate : String
  podEnv : String
  deleting : Bool
  status : StatefulSetStatus
  versioned : Bool := true
  deriving DecidableEq, Repr

structure Pod where
  name : String
  labels : Labels
  deleting : Bool
  conditions : List (String × String)
  deriving DecidableEq, Repr

structure PersistentVolumeClaim where
  name : String
  labels : Labels
  storage : Nat
  deriving DecidableEq, Repr

structure CatShard where
  index : String
  shard : String
  primaryOrReplica : String
  state : String
  nodeName : String
  deriving DecidableEq, Repr

structure ClusterHealth where
  status : String
  relocatingShards : Int
  initializingShards : Int
  unassignedShards : Int
  indices : List (String × String)
  deriving DecidableEq, Repr

structure AllocationDecision where
  decider : String
  decision : String
  deriving DecidableEq, Repr

structure NodeAllocationDecision where
  decision : String
  deciders : List AllocationDecision
  deriving DecidableEq, Repr

structure AllocationExplain where
  currentState : String
  canRemainOnCurrentNode : String
  canMoveToOtherNode : String
  canAllocate : String
  nodeAllocationDecisions : List NodeAllocationDecision
  deriving DecidableEq, Repr

/-- The transient cluster settings the operator uses:
`cluster.routing.allocation.exclude._name` and `cluster.routing.allocation.enable`. -/
structure TransientSettings where
  exclude : Option String
  enable : Option String
  deriving DecidableEq, Repr

inductive SettingsUpdate where
  | excludeName (value : Option String)
  | allocationEnable (value : String)
  | remove (names : List String)
  deriving DecidableEq, Repr

def PodReady : String := "Ready"
def ConditionTrue : String := "True"

def Pod.ready (pod : Pod) : Bool :=
  !pod.deleting && pod.conditions.any (fun c => c.1 == PodReady && c.2 == ConditionTrue)

def replicaHostName (sts : StatefulSet) (repNum : Int) : String := ordinalName sts.name repNum

def stsName (cr : OpenSearchCluster) (nodePool : NodePool) : String :=
  cr.name ++ "-" ++ nodePool.component

def hasDataRole (nodePool : NodePool) : Bool := nodePool.roles.contains "data"

def hasManagerRole (nodePool : NodePool) : Bool :=
  nodePool.roles.contains "master" || nodePool.roles.contains "cluster_manager"

structure CombinedResult where
  result : Result := {}
  err : Option Failure := none
  deriving DecidableEq, Repr

namespace CombinedResult

def combineErr (combined : CombinedResult) (err : Option Failure) : CombinedResult :=
  match combined.err, err with
  | none, err => { combined with err := err }
  | some first, none => { combined with err := some first }
  | some first, some second => { combined with err := some (.combined first second) }

def combine (combined : CombinedResult) (sub : Option Result) (err : Option Failure) :
    CombinedResult :=
  let combined := combined.combineErr err
  match sub with
  | none => combined
  | some sub =>
    let requeue := combined.result.requeue || sub.requeue
    let sooner := 0 < sub.requeueAfter ∧
      (combined.result.requeueAfter = 0 ∨ sub.requeueAfter < combined.result.requeueAfter)
    { combined with result :=
        { requeue := requeue,
          requeueAfter := if sooner then sub.requeueAfter else combined.result.requeueAfter } }

end CombinedResult

end OpenSearchOperator.Api
