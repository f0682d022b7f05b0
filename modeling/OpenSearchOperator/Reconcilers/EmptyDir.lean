import OpenSearchOperator.Data.Timestamp
import OpenSearchOperator.Helpers.ComponentStatus
import OpenSearchOperator.Helpers.Pods
import OpenSearchOperator.Helpers.StatefulSets

/-! The recovery of a cluster whose data lives in emptyDir volumes: once pods have
been missing for long enough, it is taken down to be built again. -/

namespace OpenSearchOperator.Reconcilers.EmptyDir

open Api Data Effects
open Helpers

def emptyDirRecoveryComponent : String := "EmptyDirRecovery"
def emptyDirRecoveryStatusPending : String := "Pending"
def emptyDirRecoveryGracePeriod : Int := seconds 300

structure EmptyDirPodStats where
  existingDataPods : Int := 0
  totalDataPods : Int := 0
  existingMasterPods : Int := 0
  totalMasterPods : Int := 0
  deriving DecidableEq, Repr

def emptyDirDataLossSuspected (stats : EmptyDirPodStats) : Bool :=
  let dataNodesMissing := 0 < stats.totalDataPods ∧ stats.existingDataPods = 0
  let mastersLostQuorum :=
    0 < stats.totalMasterPods ∧ stats.existingMasterPods < (stats.totalMasterPods + 1) / 2
  dataNodesMissing ∨ mastersLostQuorum

def formatTime (time : Int) : String := formatRFC3339 (time / 1000000000)

def parseTime (text : String) : Option Int := (parseRFC3339 text).map seconds

def emptyDirRecoveryFirstObserved (components : List ComponentStatus) : Option Int := do
  let component ← components.find? (fun x => x.component == emptyDirRecoveryComponent)
  parseTime component.description

def isEmptyDirCluster (cr : OpenSearchCluster) : Bool :=
  cr.spec.nodePools.all (fun nodePool => match nodePool.persistence with
    | none => false
    | some persistence => persistence.emptyDir)

def countPool (stats : EmptyDirPodStats) (nodePool : NodePool) (replicas existingPods : Int) :
    EmptyDirPodStats :=
  { existingDataPods :=
      if hasDataRole nodePool then stats.existingDataPods + existingPods else stats.existingDataPods
    totalDataPods :=
      if hasDataRole nodePool then stats.totalDataPods + replicas else stats.totalDataPods
    existingMasterPods :=
      if hasManagerRole nodePool then stats.existingMasterPods + existingPods
      else stats.existingMasterPods
    totalMasterPods :=
      if hasManagerRole nodePool then stats.totalMasterPods + replicas
      else stats.totalMasterPods }

def collectEmptyDirPodStats (cr : OpenSearchCluster) :
    List NodePool → EmptyDirPodStats → Prog (Except ApiError EmptyDirPodStats)
  | [], stats => return .ok stats
  | nodePool :: nodePools, stats => do
      if !hasDataRole nodePool && !hasManagerRole nodePool then
        collectEmptyDirPodStats cr nodePools stats
      else
        match ← getSTSForNodePool cr nodePool with
        | .error err => return .error err
        | .ok sts =>
          match ← countExistingPodsForNodePool cr nodePool with
          | .error err => return .error err
          | .ok existingPods =>
            collectEmptyDirPodStats cr nodePools
              (countPool stats nodePool sts.replicas existingPods)

def recoveryStatus (status description : String) : ComponentStatus :=
  ⟨emptyDirRecoveryComponent, status, description, []⟩

def clearEmptyDirRecoveryStatus (cr : OpenSearchCluster) : Prog (Option Failure) := do
  let currentStatus := recoveryStatus "" ""
  let found := (findFirstPartial cr.status.componentsStatus currentStatus getByComponent).2
  if !found then return none
  else updateComponents (removeIt currentStatus)

def deleteNodePools (cr : OpenSearchCluster) : List NodePool → Prog (Except Failure Unit)
  | [] => return .ok ()
  | nodePool :: nodePools => do
      match ← deleteSTSForNodePool cr nodePool with
      | .error err => return .error err
      | .ok _ => deleteNodePools cr nodePools

/-- The part of `checkForEmptyDirRecovery` that takes the cluster down. -/
def recreateCluster (cr : OpenSearchCluster) : Prog (Option Result × Option Failure) := do
  match ← deleteNodePools cr cr.spec.nodePools with
  | .error err => return (some { requeue := true }, some err)
  | .ok _ =>
    let (_, err) ← (if cr.spec.dashboards.enable then chore .deleteDashboards
      else return (none, none))
    match err with
    | some err => return (some { requeue := true }, some err)
    | none =>
      match ← updateStatus (fun instance_ => { instance_.status with
          initialized := false
          componentsStatus := removeIt (recoveryStatus "" "")
            instance_.status.componentsStatus }) with
      | some err => return (some { requeue := true }, some err)
      | none =>
        let (_, err) ← chore .deleteSecurityUpdateJob
        match err with
        | some err => return (some { requeue := true }, some err)
        | none => return (some {}, none)

/-- The part of `checkForEmptyDirRecovery` behind a suspicion. -/
def handleDataLoss (cr : OpenSearchCluster) : Prog (Option Result × Option Failure) := do
  let now ← now
  match emptyDirRecoveryFirstObserved cr.status.componentsStatus with
  | none =>
    match ← updateComponents (replace (recoveryStatus "" "")
        (recoveryStatus emptyDirRecoveryStatusPending (formatTime now))) with
    | some err => return (some { requeue := true }, some err)
    | none =>
      return (some { requeue := true, requeueAfter := emptyDirRecoveryGracePeriod }, none)
  | some firstObserved =>
    if now - firstObserved < emptyDirRecoveryGracePeriod then
      let remaining := emptyDirRecoveryGracePeriod - (now - firstObserved)
      return (some { requeue := true, requeueAfter := remaining }, none)
    else recreateCluster cr

def scaling (cr : OpenSearchCluster) : Bool :=
  cr.spec.nodePools.any (fun nodePool => (findFirstPartial cr.status.componentsStatus
    ⟨"Scaler", "", nodePool.component, []⟩ getByDescriptionAndComponent).2)

def checkForEmptyDirRecovery (cr : OpenSearchCluster) : Prog (Option Result × Option Failure) := do
  if !cr.status.initialized then return (some {}, none)
  else if scaling cr then return (some {}, none)
  else
    match ← collectEmptyDirPodStats cr cr.spec.nodePools {} with
    | .error err => return (some { requeue := true }, some (.api err))
    | .ok stats =>
      note (.dataLoss (emptyDirDataLossSuspected stats))
      if !emptyDirDataLossSuspected stats then
        match ← clearEmptyDirRecoveryStatus cr with
        | some err => return (some { requeue := true }, some err)
        | none => return (some {}, none)
      else handleDataLoss cr

theorem inquires_collectEmptyDirPodStats (cr : OpenSearchCluster) (nodePools : List NodePool)
    (stats : EmptyDirPodStats) :
    (collectEmptyDirPodStats cr nodePools stats).OnlyCalls Inquires := by
  induction nodePools generalizing stats with
  | nil => trivial
  | cons nodePool nodePools ih =>
    rw [collectEmptyDirPodStats]
    split
    · exact ih stats
    apply (onlyCalls_asked (by rfl)).bindOk
    · exact fun _ => trivial
    intro sts
    apply (inquires_countExistingPods nodePool).bindOk
    · exact fun _ => trivial
    intro existingPods
    exact ih _

theorem onlyCalls_deleteNodePools {allowed : Call → Prop}
    (inquires : ∀ op, Inquires op → allowed op)
    (deletes : ∀ name, allowed (.request (.deleteStatefulSet name .foreground)))
    (cr : OpenSearchCluster) (nodePools : List NodePool) :
    (deleteNodePools cr nodePools).OnlyCalls allowed := by
  induction nodePools with
  | nil => trivial
  | cons nodePool nodePools ih =>
    have deleted : (deleteSTSForNodePool cr nodePool).OnlyCalls allowed := by
      apply (onlyCalls_asked (inquires (.request (.getStatefulSet _)) rfl)).bindOk
      · intro err
        cases err <;> trivial
      intro sts
      apply (onlyCalls_asked (deletes _)).bindOk
      · exact fun _ => trivial
      intro _
      exact onlyCalls_pollUntil ((inquires_statefulSetGone).mono inquires)
    apply deleted.bindOk
    · exact fun _ => trivial
    intro _
    exact ih

end OpenSearchOperator.Reconcilers.EmptyDir
