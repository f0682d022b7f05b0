import OpenSearchOperator.Api.Rules

/-! Counting pods and finding the ones that run an older revision. -/

namespace OpenSearchOperator.Helpers

open Api Effects

def nodePoolLabels (cr : OpenSearchCluster) (nodePool : NodePool) : Labels :=
  [(clusterLabel, cr.name), (nodePoolLabel, nodePool.component)]

def listPodsForNodePool (cr : OpenSearchCluster) (nodePool : NodePool) :
    Prog (Except ApiError (List Pod)) :=
  listPods (nodePoolLabels cr nodePool)

def countExistingPodsForNodePool (cr : OpenSearchCluster) (nodePool : NodePool) :
    Prog (Except ApiError Int) := do
  match ← listPodsForNodePool cr nodePool with
  | .error err => return .error err
  | .ok pods => return .ok ((pods.filter (fun pod => !pod.deleting)).length : Int)

def countRunningPodsForNodePool (cr : OpenSearchCluster) (nodePool : NodePool) :
    Prog (Except ApiError Int) := do
  match ← listPodsForNodePool cr nodePool with
  | .error err => return .error err
  | .ok pods => return .ok ((pods.filter Pod.ready).length : Int)

def readyReplicasForNodePool (cr : OpenSearchCluster) (nodePool : NodePool) :
    Prog (Except ApiError Int) :=
  countRunningPodsForNodePool cr nodePool

def countPVCsForNodePool (cr : OpenSearchCluster) (nodePool : NodePool) :
    Prog (Except ApiError Int) := do
  match ← listPVCs (nodePoolLabels cr nodePool) with
  | .error err => return .error err
  | .ok claims => return .ok (claims.length : Int)

def findOlderRevision (sts : StatefulSet) : List Nat → Prog (Except Failure (Option Pod))
  | [] => return .ok none
  | ordinal :: ordinals => do
      match ← getPod (replicaHostName sts ordinal) with
      | .error err => return .error (.api err)
      | .ok pod =>
        match pod.labels.get stsRevisionLabel with
        | none => return .error (.text ("pod " ++ replicaHostName sts ordinal ++
            " has no revision label"))
        | some podRevision =>
          if podRevision ≠ sts.status.updateRevision then return .ok (some pod)
          else findOlderRevision sts ordinals

def getPodWithOlderRevision (sts : StatefulSet) : Prog (Except Failure (Option Pod)) :=
  findOlderRevision sts (List.range sts.replicas.toNat)

def workingPodForRollingRestart (sts : StatefulSet) : Prog (Except Failure String) := do
  match ← getPodWithOlderRevision sts with
  | .error err => return .error err
  | .ok (some pod) => return .ok pod.name
  | .ok none => return .error (.text "unable to calculate the working pod for rolling restart")

/-- `util.DataNodesCount`: pools whose StatefulSet cannot be read do not count. -/
def dataNodesCount (cr : OpenSearchCluster) : List NodePool → Prog Int
  | [] => return 0
  | nodePool :: nodePools => do
      if hasDataRole nodePool then
        match ← getStatefulSet (stsName cr nodePool) with
        | .ok sts =>
          let rest ← dataNodesCount cr nodePools
          return sts.replicas + rest
        | .error _ => dataNodesCount cr nodePools
      else dataNodesCount cr nodePools

variable {cr : OpenSearchCluster}

theorem reads_readyReplicas (nodePool : NodePool) :
    (readyReplicasForNodePool cr nodePool).OnlyCalls Reads :=
  ⟨rfl, fun reply => by cases reply <;> trivial⟩

theorem inquires_countExistingPods (nodePool : NodePool) :
    (countExistingPodsForNodePool cr nodePool).OnlyCalls Inquires :=
  ⟨rfl, fun reply => by cases reply <;> trivial⟩

theorem reads_countPVCs (nodePool : NodePool) :
    (countPVCsForNodePool cr nodePool).OnlyCalls Reads :=
  ⟨rfl, fun reply => by cases reply <;> trivial⟩

theorem reads_findOlderRevision (sts : StatefulSet) {ordinals : List Nat} :
    (findOlderRevision sts ordinals).OnlyCalls Reads := by
  induction ordinals with
  | nil => trivial
  | cons ordinal ordinals ih =>
    refine (onlyCalls_asked (by rfl)).bindOk (fun _ => trivial) fun pod => ?_
    change Program.OnlyCalls (I := api) Reads (match pod.labels.get stsRevisionLabel with
      | none => _
      | some podRevision => _)
    split
    · trivial
    split
    · trivial
    · exact ih

theorem reads_workingPod (sts : StatefulSet) :
    (workingPodForRollingRestart sts).OnlyCalls Reads := by
  apply (reads_findOlderRevision sts).bind
  intro found
  match found with
  | .error err => trivial
  | .ok (some pod) => trivial
  | .ok none => trivial

theorem onlyCalls_dataNodesCount {allowed : Call → Prop}
    (reading : ∀ name, allowed (.request (.getStatefulSet name))) (nodePools : List NodePool) :
    (dataNodesCount cr nodePools).OnlyCalls allowed := by
  induction nodePools with
  | nil => trivial
  | cons nodePool nodePools ih =>
    rw [dataNodesCount]
    split
    · refine ⟨reading _, fun reply => ?_⟩
      cases reply with
      | error err => exact ih
      | ok sts =>
        exact ih.bind fun _ => trivial
    · exact ih

theorem reads_dataNodesCount (nodePools : List NodePool) :
    (dataNodesCount cr nodePools).OnlyCalls Reads :=
  onlyCalls_dataNodesCount (fun _ => rfl) nodePools

end OpenSearchOperator.Helpers
