import Mathlib.Data.List.Sort
import OpenSearchOperator.Gateway.Restart
import OpenSearchOperator.Helpers.ComponentStatus
import OpenSearchOperator.Helpers.Pods

/-! The rolling restart reconciler: pods with an older revision are deleted, at
most one for each pass and none at the cost of the manager quorum. -/

namespace OpenSearchOperator.Reconcilers.RollingRestart

open Api Data Effects
open Gateway Helpers

variable {components : List ComponentStatus} {status : String}

def statusFinished : String := "Finished"
def statusInProgress : String := "InProgress"

def restartStatus (status : String) : ComponentStatus :=
  { component := "RollingRestart", status := status, description := "", conditions := [] }

/-- The closure of `UpdateComponentStatus`: the first entry of the component is
overwritten, or the new one comes last. -/
def setComponentStatus (status : ComponentStatus) : List ComponentStatus → List ComponentStatus
  | [] => [status]
  | value :: values =>
    if value.component = status.component then status :: values
    else value :: setComponentStatus status values

def updateRestartStatus (status : String) : Prog (Option Failure) :=
  updateComponents (setComponentStatus (restartStatus status))

def findStatus (cr : OpenSearchCluster) : Option ComponentStatus :=
  let (found, ok) := findFirstPartial cr.status.componentsStatus (restartStatus "") getByComponent
  if ok then some found else none

/-- One attempt of `UdateObjectStatus`. The object it is given is overwritten with
the one that is stored. -/
def updateRevisionAttempt (sts : StatefulSet) : Prog (Option ApiError × StatefulSet) := do
  match ← getStatefulSet sts.name with
  | .error err => return (some err, sts)
  | .ok stored =>
    let sts := { stored with status :=
      { stored.status with currentRevision := stored.status.updateRevision } }
    match ← updateStatefulSetStatus sts with
    | .error err => return (some err, sts)
    | .ok _ => return (none, sts)

/-- The StatefulSet as the readiness check of the first loop sees it. If all pods
are updated but the current revision is not, the update of the status brings in
the StatefulSet's own count of ready pods. -/
def checkRevision (sts : StatefulSet) : Prog (Except Failure (StatefulSet × Bool)) := do
  if sts.status.updateRevision ≠ "" ∧ sts.status.updatedReplicas ≠ sts.replicas then
    return .ok (sts, true)
  else if sts.status.updateRevision ≠ "" ∧
      sts.status.currentRevision ≠ sts.status.updateRevision then
    let (err, sts) ← retryOnConflict updateRevisionAttempt defaultRetry sts
    match err with
    | some err => return .error (.api err)
    | none => return .ok (sts, false)
  else return .ok (sts, false)

/-- The loop that checks that all nodes are ready before any work. It gives whether
an update is pending, or what `Reconcile` returns. -/
def checkNodePools (cr : OpenSearchCluster) :
    List NodePool → Bool → Prog (Except (Result × Option Failure) Bool)
  | [], pendingUpdate => return .ok pendingUpdate
  | nodePool :: nodePools, pendingUpdate => do
      match ← getStatefulSet (stsName cr nodePool) with
      | .error err => return .error ({}, some (.api err))
      | .ok sts =>
        match ← readyReplicasForNodePool cr nodePool with
        | .error err => return .error ({ requeue := true }, some (.api err))
        | .ok readyReplicas =>
          let sts := { sts with status := { sts.status with readyReplicas := readyReplicas } }
          match ← checkRevision sts with
          | .error err => return .error ({}, some err)
          | .ok (sts, pending) =>
            if sts.status.readyReplicas ≠ sts.replicas then
              return .error ({ requeue := true, requeueAfter := seconds 10 }, none)
            else checkNodePools cr nodePools (pendingUpdate || pending)

structure Candidate where
  podName : String
  sts : StatefulSet
  nodePool : NodePool
  isMaster : Bool
  ordinal : Int
  deriving DecidableEq, Repr

def parseOrdinalFromName (name : String) : Int :=
  ((split '-' name).getLast?.bind parseInt64).getD (-1)

def findCandidates (cr : OpenSearchCluster) : List NodePool → Prog (Except Failure (List Candidate))
  | [] => return .ok []
  | np :: nodePools => do
      match ← getStatefulSet (stsName cr np) with
      | .error err => return .error (.api err)
      | .ok sts =>
        if sts.status.updateRevision = "" ∨ sts.status.updatedReplicas = sts.replicas then
          findCandidates cr nodePools
        else
          match ← getPodWithOlderRevision sts with
          | .error err => return .error err
          | .ok none => findCandidates cr nodePools
          | .ok (some pod) =>
            match ← findCandidates cr nodePools with
            | .error err => return .error err
            | .ok candidates =>
              return .ok (⟨pod.name, sts, np, hasManagerRole np,
                parseOrdinalFromName pod.name⟩ :: candidates)

/-- The order of the candidates: no masters first, then by StatefulSet name, then
the highest ordinal. -/
def less (i j : Candidate) : Bool :=
  if i.isMaster ≠ j.isMaster then !i.isMaster && j.isMaster
  else if i.sts.name ≠ j.sts.name then i.sts.name < j.sts.name
  else i.ordinal > j.ordinal

def sortCandidates (candidates : List Candidate) : List Candidate :=
  candidates.insertionSort (fun i j => less j i = false)

def countMasters (cr : OpenSearchCluster) : List NodePool → Prog (Except ApiError (Int × Int))
  | [] => return .ok (0, 0)
  | np :: nodePools => do
      if hasManagerRole np then
        match ← getStatefulSet (stsName cr np) with
        | .error err => return .error err
        | .ok sts =>
          match ← readyReplicasForNodePool cr np with
          | .error err => return .error err
          | .ok readyReplicas =>
            match ← countMasters cr nodePools with
            | .error err => return .error err
            | .ok (total, ready) => return .ok (sts.replicas + total, readyReplicas + ready)
      else countMasters cr nodePools

def waitForRestart : Result := { requeue := true, requeueAfter := seconds 10 }

def restartSpecificPod (cr : OpenSearchCluster) (c : Candidate) :
    Prog (Result × Option Failure) := do
  let dataCount ← dataNodesCount cr cr.spec.nodePools
  match ← checkClusterStatusForRestart cr.spec.general.drainDataNodes with
  | .error (_, err) => return ({}, some err)
  | .ok (false, _) => return (waitForRestart, none)
  | .ok (true, _) =>
    match ← preparePodForDelete c.podName cr.spec.general.drainDataNodes dataCount with
    | .error err => return ({}, some err)
    | .ok false => return (waitForRestart, none)
    | .ok true =>
      match ← deletePod c.podName with
      | .error err => return ({}, some (.api err))
      | .ok _ =>
        if cr.spec.general.drainDataNodes then
          let (ok, err) ← removeExcludeNodeHost c.podName
          if err.isSome || !ok then return (waitForRestart, none) else return ({}, none)
        else return ({}, none)

def restartCandidate (cr : OpenSearchCluster) (c : Candidate) : Prog (Result × Option Failure) := do
  let (res, err) ← restartSpecificPod cr c
  if err.isSome then return ({}, err)
  else if res.requeue then return (res, none)
  else return (waitForRestart, none)

def pickCandidate (cr : OpenSearchCluster) (candidates : List Candidate) :
    Prog (Result × Option Failure) := do
  match candidates with
  | [] => return ({}, none)
  | next :: _ =>
    if next.isMaster then
      match ← countMasters cr cr.spec.nodePools with
      | .error err => return ({}, some (.api err))
      | .ok (totalMasters, readyMasters) =>
        let minRequired := (totalMasters + 1).tdiv 2
        if readyMasters ≤ minRequired then
          match candidates.find? (fun c => !c.isMaster) with
          | some c => restartCandidate cr c
          | none => return (waitForRestart, none)
        else restartCandidate cr next
    else restartCandidate cr next

def restartFromCandidates (cr : OpenSearchCluster) : Prog (Result × Option Failure) := do
  match ← findCandidates cr cr.spec.nodePools with
  | .error err => return ({}, some err)
  | .ok candidates => pickCandidate cr (sortCandidates candidates)

def globalCandidateRollingRestart (cr : OpenSearchCluster) : Prog (Result × Option Failure) := do
  if cr.spec.general.drainDataNodes then
    let (res, err) ← cleanStaleExclusionList cr
    if err.isSome then return ({}, err)
    else if res.requeue then return (res, none)
    else restartFromCandidates cr
  else restartFromCandidates cr

def finishRestart (cr : OpenSearchCluster) : Prog (Result × Option Failure) := do
  if (findStatus cr).map ComponentStatus.status = some statusInProgress then
    match ← createClientForCluster with
    | .error err => return ({ requeue := true }, some (.api err))
    | .ok _ =>
      match ← reactivateShardAllocation with
      | some err => return ({ requeue := true }, some err)
      | none =>
        match ← updateRestartStatus statusFinished with
        | some err => return ({ requeue := true }, some err)
        | none => return ({}, none)
  else return ({}, none)

def startRestart (cr : OpenSearchCluster) : Prog (Result × Option Failure) := do
  if !cr.status.initialized then return (waitForRestart, none)
  else
    match ← updateRestartStatus statusInProgress with
    | some err => return ({ requeue := true }, some err)
    | none =>
      match ← createClientForCluster with
      | .error err => return ({}, some (.api err))
      | .ok _ => globalCandidateRollingRestart cr

def reconcile (cr : OpenSearchCluster) : Prog (Result × Option Failure) := do
  if cr.status.version ≠ "" ∧ cr.status.version ≠ cr.spec.general.version then
    return ({}, none)
  else
    match ← checkNodePools cr cr.spec.nodePools false with
    | .error result => return result
    | .ok false => finishRestart cr
    | .ok true => startRestart cr

theorem mem_setComponentStatus {status x : ComponentStatus} (other : x.component ≠ status.component)
    {l : List ComponentStatus} : x ∈ setComponentStatus status l ↔ x ∈ l := by
  have different : x ≠ status := fun same => other (congrArg ComponentStatus.component same)
  induction l with
  | nil => simp [setComponentStatus, different]
  | cons value values ih =>
    rw [setComponentStatus]
    split
    case isTrue same =>
      have apart : x ≠ value := by
        intro equal
        subst equal
        exact other same
      simp [different, apart]
    case isFalse => simp [ih]

theorem find_setComponentStatus : (setComponentStatus (restartStatus status) components).find?
      (fun entry => getByComponent entry (restartStatus "")) = some (restartStatus status) := by
  induction components with
  | nil => rfl
  | cons value values ih =>
    rw [setComponentStatus]
    split
    · rfl
    case isFalse other =>
      rw [List.find?_cons_of_neg]
      · exact ih
      · intro same
        exact other (beq_iff_eq.mp same)

theorem findStatus_recorded {cluster : OpenSearchCluster}
    (recorded : cluster.status.componentsStatus =
      setComponentStatus (restartStatus status) components) :
    findStatus cluster = some (restartStatus status) := by
  rw [findStatus, findFirstPartial, recorded, find_setComponentStatus]
  rfl

section Calls

variable {cr : OpenSearchCluster} {nodePools : List NodePool}

abbrev Checks (op : Call) : Prop := Gentle false op ∧ Leaves .settings op

theorem checks_of_reads {op : Call} (reads : Reads op) : Checks op := by
  refine ⟨reads.gentle false, ?_⟩
  rw [Leaves, reads.changes]
  exact nofun

theorem checks_updateRevision (retries : Nat) (sts : StatefulSet) :
    (retryOnConflict updateRevisionAttempt retries sts).OnlyCalls Checks := by
  have attempt : ∀ sts, (updateRevisionAttempt sts).OnlyCalls Checks := by
    intro sts
    apply (onlyCalls_asked (checks_of_reads rfl)).bindOk
    · exact fun _ => trivial
    intro stored
    exact ⟨⟨rfl, nofun⟩, fun reply => by cases reply <;> trivial⟩
  exact onlyCalls_retryOnConflict attempt retries sts

theorem checks_checkRevision {sts : StatefulSet} : (checkRevision sts).OnlyCalls Checks := by
  rw [checkRevision]
  split
  · trivial
  split
  · apply (checks_updateRevision defaultRetry sts).bind
    intro ⟨err, sts⟩
    cases err <;> trivial
  · trivial

theorem checks_checkNodePools (nodePools : List NodePool) (pendingUpdate : Bool) :
    (checkNodePools cr nodePools pendingUpdate).OnlyCalls Checks := by
  induction nodePools generalizing pendingUpdate with
  | nil => trivial
  | cons nodePool nodePools ih =>
    apply (onlyCalls_asked (checks_of_reads rfl)).bindOk
    · exact fun _ => trivial
    intro sts
    apply ((reads_readyReplicas nodePool).mono fun _ => checks_of_reads).bindOk
    · exact fun _ => trivial
    intro readyReplicas
    apply (checks_checkRevision).bindOk
    · exact fun _ => trivial
    intro result
    dsimp only
    split
    · trivial
    · exact ih _

theorem gentle_checkNodePools {pendingUpdate : Bool} :
    (checkNodePools cr nodePools pendingUpdate).OnlyCalls (Gentle false) :=
  (checks_checkNodePools nodePools pendingUpdate).mono fun _ => And.left

theorem reads_findCandidates (nodePools : List NodePool) :
    (findCandidates cr nodePools).OnlyCalls Reads := by
  induction nodePools with
  | nil => trivial
  | cons np nodePools ih =>
    refine (onlyCalls_asked (by rfl)).bindOk (fun _ => trivial) fun sts => ?_
    dsimp only
    split
    · exact ih
    apply (reads_findOlderRevision sts).bind
    intro older
    match older with
    | .error err => trivial
    | .ok none => exact ih
    | .ok (some pod) =>
      apply ih.bind
      intro candidates
      cases candidates <;> trivial

theorem reads_countMasters : (countMasters cr nodePools).OnlyCalls Reads := by
  induction nodePools with
  | nil => trivial
  | cons np nodePools ih =>
    rw [countMasters]
    split
    · refine (onlyCalls_asked (by rfl)).bindOk (fun _ => trivial) fun sts => ?_
      apply (reads_readyReplicas np).bindOk
      · exact fun _ => trivial
      intro readyReplicas
      apply ih.bind
      intro counted
      cases counted <;> trivial
    · exact ih

def Restarts (drain : Bool) (op : Call) : Prop :=
  Gentle drain op ∨ ∃ pod, op = .request (.deletePod pod)

abbrev RestartsPod (drain : Bool) (pod : String) (op : Call) : Prop :=
  Gentle drain op ∨ op = .request (.deletePod pod)

theorem restartsPod_restartSpecificPod (c : Candidate) : (restartSpecificPod cr c).OnlyCalls
      (RestartsPod cr.spec.general.drainDataNodes c.podName) := by
  apply ((reads_dataNodesCount _).mono fun _ reads => Or.inl (reads.gentle _)).bind
  intro dataCount
  apply ((tunes_checkClusterStatusForRestart).mono
    fun _ tunes => Or.inl (tunes.lists _).gentle).bind
  intro ready
  match ready with
  | .error (_, err) => trivial
  | .ok (false, _) => trivial
  | .ok (true, _) =>
    apply ((tunes_preparePodForDelete _ _ _).mono fun _ tunes => Or.inl tunes.gentle).bind
    intro prepared
    match prepared with
    | .error err => trivial
    | .ok false => trivial
    | .ok true =>
      apply (onlyCalls_asked (Or.inr rfl)).bindOk
      · exact fun _ => trivial
      intro _
      dsimp only
      split
      case isTrue drain =>
        rw [drain]
        apply ((tunes_removeExcludeNodeHost c.podName).mono fun _ tunes => Or.inl tunes.gentle).bind
        intro ⟨ok, err⟩
        split <;> trivial
      case isFalse => trivial

theorem restartsPod_restartCandidate (c : Candidate) :
    (restartCandidate cr c).OnlyCalls (RestartsPod cr.spec.general.drainDataNodes c.podName) := by
  apply (restartsPod_restartSpecificPod c).bind
  intro ⟨res, err⟩
  dsimp only
  split
  · trivial
  · split <;> trivial

def Picked (candidates : List Candidate) (c : Candidate) : Prop :=
  ∃ next rest, candidates = next :: rest ∧
    (c = next ∨ next.isMaster = true ∧ c ∈ candidates ∧ c.isMaster = false)

abbrev Picks (drain : Bool) (candidates : List Candidate) (op : Call) : Prop :=
  Gentle drain op ∨ ∃ c, Picked candidates c ∧ op = .request (.deletePod c.podName)

theorem picks_pickCandidate (candidates : List Candidate) :
    (pickCandidate cr candidates).OnlyCalls (Picks cr.spec.general.drainDataNodes candidates) := by
  have picked : ∀ c, Picked candidates c → (restartCandidate cr c).OnlyCalls
      (Picks cr.spec.general.drainDataNodes candidates) := fun c picked =>
    (restartsPod_restartCandidate c).mono fun _ => Or.imp_right fun deletes => ⟨c, picked, deletes⟩
  rw [pickCandidate.eq_def]
  split
  · trivial
  next next rest =>
  split
  case isTrue master =>
    apply ((reads_countMasters).mono fun _ reads => Or.inl (reads.gentle _)).bindOk
    · exact fun _ => trivial
    intro count
    dsimp only
    split
    · split
      case h_1 c other =>
        exact picked c ⟨next, rest, rfl, Or.inr ⟨master, List.mem_of_find?_eq_some other, by
          simpa using List.find?_some other⟩⟩
      · trivial
    · exact picked next ⟨next, rest, rfl, Or.inl rfl⟩
  case isFalse => exact picked next ⟨next, rest, rfl, Or.inl rfl⟩

theorem restarts_pickCandidate {candidates : List Candidate} :
    (pickCandidate cr candidates).OnlyCalls (Restarts cr.spec.general.drainDataNodes) := by
  apply (picks_pickCandidate candidates).mono
  rintro op (gentle | ⟨c, _, deletes⟩)
  · exact Or.inl gentle
  · exact Or.inr ⟨c.podName, deletes⟩

theorem restarts_globalCandidateRollingRestart :
    (globalCandidateRollingRestart cr).OnlyCalls (Restarts cr.spec.general.drainDataNodes) := by
  have chosen : (restartFromCandidates cr).OnlyCalls (Restarts cr.spec.general.drainDataNodes) := by
    apply ((reads_findCandidates _).mono fun _ reads => Or.inl (reads.gentle _)).bindOk
    · exact fun _ => trivial
    intro candidates
    exact restarts_pickCandidate
  rw [globalCandidateRollingRestart]
  split
  case isTrue drain =>
    rw [drain] at chosen ⊢
    apply (gentle_cleanStaleExclusionList.mono fun _ gentle => Or.inl gentle).bind
    intro ⟨res, err⟩
    dsimp only
    split
    · trivial
    split
    · trivial
    · exact chosen
  case isFalse => exact chosen

end Calls

section Rules

variable {permit : ApiEvent → Prop} {inv K : ApiWorld → Prop} {cr : OpenSearchCluster}

structure Respects (permit : ApiEvent → Prop) (inv K : ApiWorld → Prop)
    (cr : OpenSearchCluster) : Prop where
  implied : ∀ w, K w → inv w
  stable : Stable permit K
  gentle : ∀ w choice op, Gentle cr.spec.general.drainDataNodes op →
    permit (w.arrive choice op) → K w → K (w.extend (w.arrive choice op))
  deletes : ∀ w choice pod, permit (asked w choice (.deletePod pod)) → K w →
    K (w.extend (asked w choice (.deletePod pod)))
  writes : ∀ w (e : ApiEvent) (status : String), K w → e.prior = w.state → permit e →
    e.before.cluster = w.state.cluster →
    e.after = e.before.withStatus { w.state.cluster.status with
      componentsStatus := setComponentStatus (restartStatus status)
        w.state.cluster.status.componentsStatus } → K (w.extend e)

namespace Respects

variable (respects : Respects permit inv K cr) {program : Prog α} {α : Type}

include respects

theorem keeps_gentle (only : program.OnlyCalls (Gentle cr.spec.general.drainDataNodes)) :
    Keeps permit inv K program :=
  keeps_of_calls respects.implied only fun w choice op allowed permitted kept =>
    respects.gentle w choice op allowed permitted kept

theorem keeps_unlisted (only : program.OnlyCalls (Gentle false)) : Keeps permit inv K program :=
  respects.keeps_gentle (only.mono fun _ gentle => gentle.lists _)

theorem keeps_reads (only : program.OnlyCalls Reads) : Keeps permit inv K program :=
  respects.keeps_gentle (only.mono fun _ reads => reads.gentle _)

theorem keeps_updateRestartStatus (status : String) :
    Keeps permit inv K (updateRestartStatus status) :=
  fun _ holds => safe_settleStatus _ respects.implied respects.stable (fun _ kept => kept)
    (fun w e => respects.writes w e status) holds

theorem keeps_globalCandidateRollingRestart :
    Keeps permit inv K (globalCandidateRollingRestart cr) := by
  apply keeps_of_calls respects.implied restarts_globalCandidateRollingRestart
  intro w choice op restarts permitted holds
  rcases restarts with gentle | ⟨pod, rfl⟩
  · exact respects.gentle w choice op gentle permitted holds
  · exact respects.deletes w choice pod permitted holds

theorem keeps_finishRestart : Keeps permit inv K (finishRestart cr) := by
  rw [finishRestart]
  split
  · apply (respects.keeps_reads (onlyCalls_asked rfl)).bindOk
    · exact fun _ => keeps_pure _
    intro _
    apply (respects.keeps_unlisted
      (tunes_reactivateShardAllocation.mono fun _ => Tunes.gentle)).bind
    intro failed
    cases failed with
    | some err => exact keeps_pure _
    | none =>
      apply (respects.keeps_updateRestartStatus _).bind
      intro failed
      cases failed <;> exact keeps_pure _
  · exact keeps_pure _

theorem keeps_startRestart : Keeps permit inv K (startRestart cr) := by
  rw [startRestart]
  split
  · exact keeps_pure _
  apply (respects.keeps_updateRestartStatus _).bind
  intro failed
  cases failed with
  | some err => exact keeps_pure _
  | none =>
    apply (respects.keeps_reads (onlyCalls_asked rfl)).bindOk
    · exact fun _ => keeps_pure _
    intro _
    exact respects.keeps_globalCandidateRollingRestart

theorem keeps_reconcile : Keeps permit inv K (reconcile cr) := by
  rw [reconcile]
  split
  · exact keeps_pure _
  apply (respects.keeps_unlisted (gentle_checkNodePools)).bind
  intro checked
  match checked with
  | .error result => exact keeps_pure _
  | .ok false => exact respects.keeps_finishRestart
  | .ok true => exact respects.keeps_startRestart

end Respects

end Rules

end OpenSearchOperator.Reconcilers.RollingRestart
