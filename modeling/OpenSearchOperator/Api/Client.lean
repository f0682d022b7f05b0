import OpenSearchOperator.Api.Server

/-! The operator's Kubernetes and OpenSearch clients. -/

namespace OpenSearchOperator.Api

open Effects

abbrev request (req : Request) : Prog (Except ApiError req.Payload) :=
  Program.ask (I := api) (.request req)

abbrev getOpenSearchCluster : Prog (Except ApiError OpenSearchCluster) := request .getCluster

abbrev updateClusterStatus (cluster : OpenSearchCluster) : Prog (Except ApiError Unit) :=
  request (.updateClusterStatus cluster)

abbrev getStatefulSet (name : String) : Prog (Except ApiError StatefulSet) :=
  request (.getStatefulSet name)

abbrev listStatefulSets (matching : Labels) : Prog (Except ApiError (List StatefulSet)) :=
  request (.listStatefulSets matching)

abbrev createStatefulSet (sts : StatefulSet) : Prog (Except ApiError Unit) :=
  request (.createStatefulSet sts)

abbrev updateStatefulSet (sts : StatefulSet) : Prog (Except ApiError Unit) :=
  request (.updateStatefulSet sts)

abbrev updateStatefulSetStatus (sts : StatefulSet) : Prog (Except ApiError Unit) :=
  request (.updateStatefulSetStatus sts)

abbrev deleteStatefulSet (name : String) (propagation : DeletionPropagation) :
    Prog (Except ApiError Unit) :=
  request (.deleteStatefulSet name propagation)

abbrev getPod (name : String) : Prog (Except ApiError Pod) := request (.getPod name)

abbrev listPods (matching : Labels) : Prog (Except ApiError (List Pod)) :=
  request (.listPods matching)

abbrev deletePod (name : String) : Prog (Except ApiError Unit) := request (.deletePod name)

abbrev updatePodLabels (name : String) (labels : Labels) : Prog (Except ApiError Unit) :=
  request (.updatePodLabels name labels)

abbrev getPVC (name : String) : Prog (Except ApiError PersistentVolumeClaim) :=
  request (.getPVC name)

abbrev listPVCs (matching : Labels) : Prog (Except ApiError (List PersistentVolumeClaim)) :=
  request (.listPVCs matching)

abbrev updatePVC (pvc : PersistentVolumeClaim) : Prog (Except ApiError Unit) :=
  request (.updatePVC pvc)

/-- `util.CreateClientForCluster`: credentials, certificates and a first contact
with the cluster, any of which may fail. -/
abbrev createClientForCluster : Prog (Except ApiError Unit) := request .createClient

abbrev getClusterSettings : Prog (Except ApiError TransientSettings) :=
  request .getClusterSettings

abbrev putClusterSettings (settings : SettingsUpdate) : Prog (Except ApiError Unit) :=
  request (.putClusterSettings settings)

abbrev getHealth : Prog (Except ApiError ClusterHealth) := request .getHealth

abbrev catShards : Prog (Except ApiError (List CatShard)) := request .catShards

abbrev catNamedIndicesShards (indices : List String) : Prog (Except ApiError (List CatShard)) :=
  request (.catNamedIndicesShards indices)

abbrev getAllocationExplain (index : String) (shard : Int) (primary : Bool) :
    Prog (Except ApiError AllocationExplain) :=
  request (.getAllocationExplain index shard primary)

abbrev indexExists (index : String) : Prog (Except ApiError Bool) := request (.indexExists index)

abbrev calculatePatch (current desired : StatefulSet) : Prog (Except Failure Bool) :=
  Program.ask (I := api) (.calculatePatch current desired)

abbrev now : Prog Int := Program.ask (I := api) .now

abbrev note (note : Note) : Prog Unit := Program.ask (I := api) (.note note)

abbrev enter (reconciler : ComponentReconciler) (snapshot : OpenSearchCluster) : Prog Unit :=
  note (.enter reconciler snapshot)

abbrev chore (chore : Chore) : Prog (Option Result × Option Failure) :=
  Program.ask (I := api) (.chore chore)

abbrev fetchNodePoolHash (component : String) : Prog (Option String) :=
  Program.ask (I := api) (.fetchNodePoolHash component)

abbrev delegate (reconciler : ComponentReconciler) : Prog (Result × Option Failure) :=
  Program.ask (I := api) (.delegate reconciler)

abbrev allMastersReady (cr : OpenSearchCluster) : Prog Bool :=
  Program.ask (I := api) (.allMastersReady cr)

section Retry

variable {σ : Type}

/-- `retry.RetryOnConflict`. The attempts share what the closure captured; the
number counts the attempts that may follow a conflict. -/
def retryOnConflict (attempt : σ → Prog (Option ApiError × σ)) :
    Nat → σ → Prog (Option ApiError × σ)
  | 0, captured => attempt captured
  | retries + 1, captured => do
      let (err, captured) ← attempt captured
      if err = some .conflict then retryOnConflict attempt retries captured
      else return (err, captured)

def defaultRetry : Nat := 4

def updateStatusAttempt (f : σ → OpenSearchCluster → ClusterStatus × σ) (captured : σ) :
    Prog (Option ApiError × σ) := do
  match ← getOpenSearchCluster with
  | .error err => return (some err, captured)
  | .ok cluster =>
    let (status, captured) := f captured cluster
    match ← updateClusterStatus { cluster with status := status } with
    | .error err => return (some err, captured)
    | .ok _ => return (none, captured)

/-- `UpdateOpenSearchClusterStatus` with a closure that computes the new status
from the object just read and may change what it captured. -/
def updateOpenSearchClusterStatus (f : σ → OpenSearchCluster → ClusterStatus × σ)
    (captured : σ) : Prog (Option Failure × σ) := do
  let (err, captured) ← retryOnConflict (updateStatusAttempt f) defaultRetry captured
  return (err.map Failure.api, captured)

end Retry

def updateStatus (f : OpenSearchCluster → ClusterStatus) : Prog (Option Failure) := do
  let (err, _) ← updateOpenSearchClusterStatus (fun (_ : Unit) cluster => (f cluster, ())) ()
  return err

def updateComponents (f : List ComponentStatus → List ComponentStatus) : Prog (Option Failure) :=
  updateStatus (fun cluster =>
    { cluster.status with componentsStatus := f cluster.status.componentsStatus })

end OpenSearchOperator.Api
