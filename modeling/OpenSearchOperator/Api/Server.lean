import OpenSearchOperator.Api.Objects
import OpenSearchOperator.Effects.Safety

/-! The Kubernetes API server and the OpenSearch cluster, as the operator meets
them. Between any two calls other parties may change everything, and every
request may fail before or after it took effect. -/

namespace OpenSearchOperator.Api

open Data Effects

inductive DeletionPropagation where
  | background
  | foreground
  | orphan
  deriving DecidableEq, Repr

inductive Request where
  | getCluster
  | updateClusterStatus (cluster : OpenSearchCluster)
  | getStatefulSet (name : String)
  | listStatefulSets (matching : Labels)
  | createStatefulSet (sts : StatefulSet)
  | updateStatefulSet (sts : StatefulSet)
  | updateStatefulSetStatus (sts : StatefulSet)
  | deleteStatefulSet (name : String) (propagation : DeletionPropagation)
  | getPod (name : String)
  | listPods (matching : Labels)
  | updatePodLabels (name : String) (labels : Labels)
  | deletePod (name : String)
  | getPVC (name : String)
  | listPVCs (matching : Labels)
  | updatePVC (pvc : PersistentVolumeClaim)
  | createClient
  | getClusterSettings
  | putClusterSettings (settings : SettingsUpdate)
  | getHealth
  | catShards
  | catNamedIndicesShards (indices : List String)
  | getAllocationExplain (index : String) (shard : Int) (primary : Bool)
  | indexExists (index : String)
  deriving DecidableEq

@[reducible] def Request.Payload : Request → Type
  | .getCluster => OpenSearchCluster
  | .getStatefulSet _ => StatefulSet
  | .listStatefulSets _ => List StatefulSet
  | .getPod _ => Pod
  | .listPods _ => List Pod
  | .getPVC _ => PersistentVolumeClaim
  | .listPVCs _ => List PersistentVolumeClaim
  | .getClusterSettings => TransientSettings
  | .getHealth => ClusterHealth
  | .catShards => List CatShard
  | .catNamedIndicesShards _ => List CatShard
  | .getAllocationExplain _ _ _ => AllocationExplain
  | .indexExists _ => Bool
  | _ => Unit

inductive ComponentReconciler where
  | tls
  | securityconfig
  | config
  | cluster
  | scaler
  | dashboards
  | upgrade
  | restart
  | snapshotrepository
  deriving DecidableEq, Repr

/-- What a program notes about itself, for the history: it enters a component
reconciler with a snapshot of the custom resource, turns to the StatefulSet of a
node pool, is about to recreate that with the replicas of the node pool, or found
the pod counts of an emptyDir cluster to suggest a loss of data or not. -/
inductive Note where
  | enter (reconciler : ComponentReconciler) (snapshot : OpenSearchCluster)
  | turnTo (sts : String) (desired : Int)
  | recreate (sts : String) (desired : Int)
  | dataLoss (suspected : Bool)
  deriving DecidableEq

inductive Chore where
  | credentials
  | serviceMonitor
  | clusterService
  | discoveryService
  | randomAdminSecret
  | randomContextSecret
  | passwordSecret
  | bootstrapPVC
  | bootstrapPod
  | headlessService (component : String)
  | podDisruptionBudget (component : String)
  | deleteDashboards
  | deleteSecurityUpdateJob
  deriving DecidableEq

/-- Besides requests, a program compares two StatefulSets (the patch library),
looks at the clock, takes a note, works on objects that are not modelled, hands
over to a reconciler that is not modelled, looks up the configuration hash that
the config reconciler left for a node pool, and asks `AllMastersReady`, which
reads pods only. -/
inductive Call where
  | request (request : Request)
  | calculatePatch (current desired : StatefulSet)
  | now
  | note (note : Note)
  | chore (chore : Chore)
  | delegate (reconciler : ComponentReconciler)
  | fetchNodePoolHash (component : String)
  | allMastersReady (cr : OpenSearchCluster)
  deriving DecidableEq

@[reducible] def Call.Reply : Call → Type
  | .request req => Except ApiError req.Payload
  | .calculatePatch _ _ => Except Failure Bool
  | .now => Int
  | .note _ => Unit
  | .chore _ => Option Result × Option Failure
  | .delegate _ => Result × Option Failure
  | .fetchNodePoolHash _ => Option String
  | .allMastersReady _ => Bool

abbrev api : Interface where
  Call := Call
  Reply := Call.Reply

abbrev Prog (α : Type) := Program api α

structure State where
  cluster : OpenSearchCluster
  statefulSets : Store StatefulSet String StatefulSet.name
  pods : Store Pod String Pod.name
  claims : Store PersistentVolumeClaim String PersistentVolumeClaim.name
  settings : TransientSettings
  health : ClusterHealth
  shards : List CatShard
  explain : String → Int → Bool → AllocationExplain
  indices : List String
  clock : Int

namespace State

def size (s : State) (name : String) : Option Int :=
  (s.statefulSets.get name).map StatefulSet.replicas

end State

def created (sts : StatefulSet) : StatefulSet :=
  { sts with deleting := false, status := ⟨0, 0, 0, 0, "", ""⟩, versioned := true }

def sameImmutableFields (current desired : StatefulSet) : Bool :=
  desired.selector == current.selector &&
  desired.podManagementPolicy == current.podManagementPolicy &&
  desired.volumeClaimTemplates == current.volumeClaimTemplates

def found {α : Type} : Option α → Except ApiError α
  | some value => .ok value
  | none => .error .notFound

theorem found_ok {α : Type} {stored : Option α} {value : α} (reply : found stored = .ok value) :
    stored = some value := by
  cases stored with
  | none => cases reply
  | some other =>
    cases reply
    rfl

theorem found_notFound {α : Type} {stored : Option α} (reply : found stored = .error .notFound) :
    stored = none := by
  cases stored with
  | none => rfl
  | some other => cases reply

def serve (s : State) : (request : Request) → Except ApiError request.Payload × State
  | .getCluster => (.ok s.cluster, s)
  | .updateClusterStatus cluster =>
    if cluster.resourceVersion = s.cluster.resourceVersion then
      (.ok (), { s with cluster := { s.cluster with
        resourceVersion := s.cluster.resourceVersion + 1, status := cluster.status } })
    else (.error .conflict, s)
  | .getStatefulSet name => (found (s.statefulSets.get name), s)
  | .listStatefulSets matching =>
    (.ok (s.statefulSets.items.filter (fun sts => sts.labels.Matches matching)), s)
  | .createStatefulSet sts =>
    match s.statefulSets.get sts.name with
    | some _ => (.error .alreadyExists, s)
    | none =>
      -- The resource version has to be left to the server.
      if sts.replicas < 0 ∨ sts.versioned then (.error .invalid, s)
      else (.ok (), { s with statefulSets := s.statefulSets.put (created sts) })
  | .updateStatefulSet sts =>
    match s.statefulSets.get sts.name with
    | none => (.error .notFound, s)
    | some current =>
      if sts.replicas < 0 then (.error .invalid, s)
      else if sameImmutableFields current sts then
        let kept := { sts with
          deleting := current.deleting, status := current.status, versioned := true }
        (.ok (), { s with statefulSets := s.statefulSets.put kept })
      else (.error .immutable, s)
  | .updateStatefulSetStatus sts =>
    match s.statefulSets.get sts.name with
    | none => (.error .notFound, s)
    | some current =>
      (.ok (), { s with statefulSets := s.statefulSets.put { current with status := sts.status } })
  | .deleteStatefulSet name propagation =>
    match s.statefulSets.get name with
    | none => (.error .notFound, s)
    | some current =>
      -- The garbage collector has to release the dependents first, unless it may do so later.
      if propagation = .background then
        (.ok (), { s with statefulSets := s.statefulSets.remove name })
      else (.ok (), { s with statefulSets := s.statefulSets.put { current with deleting := true } })
  | .getPod name => (found (s.pods.get name), s)
  | .listPods matching => (.ok (s.pods.items.filter (fun pod => pod.labels.Matches matching)), s)
  | .updatePodLabels name labels =>
    match s.pods.get name with
    | none => (.error .notFound, s)
    | some pod => (.ok (), { s with pods := s.pods.put { pod with labels := labels } })
  | .deletePod name =>
    match s.pods.get name with
    | none => (.error .notFound, s)
    | some pod => (.ok (), { s with pods := s.pods.put { pod with deleting := true } })
  | .getPVC name => (found (s.claims.get name), s)
  | .listPVCs matching => (.ok (s.claims.items.filter (fun pvc => pvc.labels.Matches matching)), s)
  | .updatePVC pvc =>
    match s.claims.get pvc.name with
    | none => (.error .notFound, s)
    | some _ => (.ok (), { s with claims := s.claims.put pvc })
  | .createClient => (.ok (), s)
  | .getClusterSettings => (.ok s.settings, s)
  | .putClusterSettings (.excludeName value) =>
    (.ok (), { s with settings := { s.settings with exclude := value } })
  | .putClusterSettings (.allocationEnable value) =>
    (.ok (), { s with settings := { s.settings with enable := some value } })
  | .putClusterSettings (.remove _) => (.ok (), s)
  | .getHealth => (.ok s.health, s)
  | .catShards => (.ok s.shards, s)
  | .catNamedIndicesShards indices =>
    -- No name selects every index.
    (.ok (if indices.isEmpty then s.shards
      else s.shards.filter (fun shard => indices.contains shard.index)), s)
  | .getAllocationExplain index shard primary => (.ok (s.explain index shard primary), s)
  | .indexExists index => (.ok (s.indices.contains index), s)

/-- A failure that is not the server's own verdict on the request. -/
inductive Fault where
  | conflict
  | unavailable
  deriving DecidableEq, Repr

def Fault.error : Fault → ApiError
  | .conflict => .conflict
  | .unavailable => .unavailable

theorem fault_ne_notFound (fault : Fault) : fault.error ≠ .notFound := by
  cases fault <;> nofun

/-- `refused` leaves the request without effect; `lost` lets it take effect but
the reply never arrives. -/
inductive Outcome where
  | served
  | refused (fault : Fault)
  | lost
  deriving DecidableEq, Repr

structure Choice where
  others : State → State := id
  outcome : Outcome := .served
  verdict : Result × Option Failure := ({}, none)
  chore : Option Result × Option Failure := (none, none)
  configHash : Option String := some ""
  ready : Bool := true

def samePatch (current desired : StatefulSet) : Bool :=
  desired.labels == current.labels && desired.replicas == current.replicas &&
  sameImmutableFields current desired &&
  desired.podTemplate == current.podTemplate && desired.podEnv == current.podEnv

def disturb (choice : Choice) (s : State) : State :=
  let t := choice.others s
  if t.cluster = s.cluster then t
  else { t with cluster := { t.cluster with resourceVersion := s.cluster.resourceVersion + 1 } }

def answer (choice : Choice) (s : State) : (call : Call) → call.Reply × State
  | .request req =>
    match choice.outcome with
    | .served => serve s req
    | .refused fault => (.error fault.error, s)
    | .lost => (.error .unavailable, (serve s req).2)
  | .calculatePatch current desired =>
    match choice.outcome with
    | .served => (.ok (samePatch current desired), s)
    | _ => (.error (.text "could not match objects"), s)
  | .now => (s.clock, s)
  | .note _ => ((), s)
  | .chore _ => (choice.chore, s)
  | .delegate _ => (choice.verdict, s)
  | .fetchNodePoolHash _ => (choice.configHash, s)
  | .allMastersReady _ => (choice.ready, s)

theorem answer_request {choice : Choice} {s : State} {req : Request} :
    answer choice s (.request req) =
      match choice.outcome with
      | .served => serve s req
      | .refused fault => (.error fault.error, s)
      | .lost => (.error .unavailable, (serve s req).2) := rfl

theorem answer_calculatePatch {choice : Choice} {s : State} {current desired : StatefulSet} :
    answer choice s (.calculatePatch current desired) =
      match choice.outcome with
      | .served => (.ok (samePatch current desired), s)
      | _ => (.error (.text "could not match objects"), s) := rfl

abbrev server : Server api where
  State := State
  Choice := Choice
  disturb := disturb
  answer := answer

end OpenSearchOperator.Api
