import OpenSearchOperator.Controllers.Running
import OpenSearchOperator.Reconcilers.DeletionPass

/-! At most one pod goes in a pass through the component reconcilers, and what is
known about it by then. -/

namespace OpenSearchOperator.Controllers

open Api Effects Reconcilers

section Pass

variable {cr : OpenSearchCluster} {w : ApiWorld} {deleted : Nat}
  {rest : Prog (Result × Option Failure)} {reconciler : ComponentReconciler}

theorem keeps_orderly {α : Type} {program : Prog α} (bound : deleted ≤ 1)
    (only : program.OnlyCalls fun op => deletes op = false) :
    Keeps (fun _ => True) AtMostOne (Orderly deleted) program :=
  keeps_of_calls (fun _ orderly => ⟨deleted, bound, orderly⟩) only
    fun _ choice _ harmless _ orderly => orderly.step choice harmless

theorem within_of_enter (choice : Choice) (orderly : Orderly 0 w) :
    Within reconciler cr 0 (w.extend (w.arrive choice (.note (.enter reconciler cr)))) :=
  ⟨orderly.step choice rfl, rfl⟩

theorem safe_component_orderly {func : Prog (Result × Option Failure)}
    (only : func.OnlyCalls fun op => deletes op = false) (orderly : Orderly 0 w)
    (next : ∀ w, Orderly 0 w → Safe (fun _ => True) AtMostOne rest (fun _ => AtMostOne) w) :
    Safe (fun _ => True) AtMostOne (component reconciler cr func rest) (fun _ => AtMostOne) w := by
  have few : ∀ w, Orderly 0 w → AtMostOne w := fun _ orderly => ⟨0, by omega, orderly⟩
  apply safe_component few ?_ (keeps_orderly (by omega) only) next
    (fun _ w orderly => few w orderly) orderly
  intro w choice _ orderly
  exact orderly.step choice rfl

theorem safe_delegated_orderly (orderly : Orderly 0 w)
    (next : ∀ w, Orderly 0 w → Safe (fun _ => True) AtMostOne rest (fun _ => AtMostOne) w) :
    Safe (fun _ => True) AtMostOne (delegated reconciler cr rest) (fun _ => AtMostOne) w :=
  safe_component_orderly (onlyCalls_asked rfl) orderly next

theorem safe_afterRestart (few : AtMostOne w) : Safe (fun _ => True) AtMostOne
      (delegated .snapshotrepository cr
        (return ({ requeue := true, requeueAfter := seconds 30 }, none)))
      (fun _ => AtMostOne) w := by
  have entered : ∀ (w : ApiWorld) choice, True → AtMostOne w →
      AtMostOne (w.extend (w.arrive choice (.note (.enter .snapshotrepository cr)))) :=
    fun _ choice _ few => few.step choice rfl
  have run : ∀ w, AtMostOne w → Safe (fun _ => True) AtMostOne (delegate .snapshotrepository)
      (fun _ => AtMostOne) w :=
    fun _ few => ⟨few, fun choice _ => few.step choice rfl⟩
  exact safe_component (fun _ few => few) entered run (fun _ few => few) (fun _ _ few => few) few

theorem safe_restartRound (orderly : Orderly 0 w) : Safe (fun _ => True) AtMostOne
      (component .restart cr (RollingRestart.reconcile cr) <| delegated .snapshotrepository cr <|
        return ({ requeue := true, requeueAfter := seconds 30 }, none))
      (fun _ => AtMostOne) w := by
  exact safe_component (fun _ orderly => ⟨0, by omega, orderly⟩)
    (fun _ choice _ orderly => within_of_enter choice orderly)
    (fun _ within => safe_restart within) (fun _ few => safe_afterRestart few)
    (fun _ _ few => few) orderly

/-- After a deletion the upgrade reconciler asks to be called again, so that the
restart reconciler is not reached. -/
theorem safe_upgradeRound (orderly : Orderly 0 w)
    (next : ∀ w, Orderly 0 w → Safe (fun _ => True) AtMostOne rest (fun _ => AtMostOne) w) :
    Safe (fun _ => True) AtMostOne (component .upgrade cr (Upgrade.reconcile cr) rest)
      (fun _ => AtMostOne) w := by
  have entering : Safe (fun _ => True) AtMostOne (enter .upgrade cr)
      (fun _ => Within .upgrade cr 0) w :=
    ⟨⟨0, by omega, orderly⟩, fun choice _ => within_of_enter choice orderly⟩
  apply entering.bind
  intro _ w within
  apply (safe_upgrade within).bind
  intro ⟨result, err⟩ w stops
  have few : AtMostOne w := stops.elim (fun orderly => ⟨0, by omega, orderly⟩) fun both => both.1
  dsimp only
  split
  case isTrue => exact few
  case isFalse fine =>
    split
    case isTrue => exact few
    case isFalse on =>
      rcases stops with none | ⟨_, failed | requeued⟩
      · exact next w none
      · exact absurd failed fine
      · exact absurd requeued on

theorem safe_afterScaler_orderly (orderly : Orderly 0 w) :
    Safe (fun _ => True) AtMostOne (afterScaler cr) (fun _ => AtMostOne) w := by
  apply safe_delegated_orderly orderly
  intro w orderly
  apply safe_upgradeRound orderly
  intro w orderly
  exact safe_restartRound orderly

theorem safe_fromScaler_orderly (orderly : Orderly 0 w) :
    Safe (fun _ => True) AtMostOne (fromScaler cr) (fun _ => AtMostOne) w := by
  have few : ∀ w, Orderly 0 w → AtMostOne w := fun _ orderly => ⟨0, by omega, orderly⟩
  have entering : Safe (fun _ => True) AtMostOne (enter .scaler cr) (fun _ => Orderly 0) w :=
    ⟨few w orderly, fun choice _ => orderly.step choice rfl⟩
  apply entering.bind
  intro _ w orderly
  apply (keeps_orderly (by omega) (Scaler.spares_reconcile.mono fun _ => deletes_of_spares)
    w orderly).bind
  intro ⟨⟨result, err⟩, snapshot⟩ w orderly
  dsimp only
  split
  · exact few w orderly
  split
  · exact few w orderly
  · exact safe_afterScaler_orderly orderly

theorem spares_updateInitialized : (updateInitialized cr).OnlyCalls Spares := by
  have attempt : ∀ cr, (initializeAttempt cr).OnlyCalls Spares := by
    intro cr
    refine (onlyCalls_asked (by rfl)).bindOk (fun _ => trivial) fun cr => ?_
    refine onlyCalls_ask rfl fun ready => ?_
    exact onlyCalls_ask rfl fun reply => by cases reply <;> trivial
  rw [updateInitialized]
  split
  · trivial
  apply (onlyCalls_retryOnConflict attempt _ _).bind
  intro ⟨err, cr⟩
  cases err <;> trivial

theorem safe_reconcilePhaseRunning_orderly
    {cluster : OpenSearchCluster → Prog (Result × Option Failure)}
    (only : ∀ cr, (cluster cr).OnlyCalls fun op => deletes op = false) (orderly : Orderly 0 w) :
    Safe (fun _ => True) AtMostOne (reconcilePhaseRunning cr cluster) (fun _ => AtMostOne) w := by
  apply (keeps_orderly (by omega) (spares_updateInitialized.mono fun _ => deletes_of_spares)
    w orderly).bindOk
  · exact fun _ _ orderly => ⟨0, by omega, orderly⟩
  intro cr w orderly
  apply safe_delegated_orderly orderly
  intro w orderly
  apply safe_delegated_orderly orderly
  intro w orderly
  apply safe_delegated_orderly orderly
  intro w orderly
  apply safe_component_orderly (only cr) orderly
  intro w orderly
  exact safe_fromScaler_orderly orderly

theorem safe_runningPass_orderly (orderly : Orderly 0 w) :
    Safe (fun _ => True) AtMostOne runningPass (fun _ => AtMostOne) w := by
  apply (keeps_orderly (by omega) (onlyCalls_asked rfl) w orderly).bind
  intro reply w orderly
  cases reply with
  | error err => cases err <;> exact ⟨0, by omega, orderly⟩
  | ok cr => exact safe_reconcilePhaseRunning_orderly (fun _ => onlyCalls_asked rfl) orderly

theorem atMostOne_of_pass (choices : List Choice) {start : ApiWorld} (new : start.past = []) :
    AtMostOne (exec runningPass choices start).2 := by
  have orderly : Orderly 0 start := by
    constructor
    · rw [new]
      trivial
    · rw [new]
      rfl
  have finished := (safe_runningPass_orderly orderly).outcome choices fun _ _ => trivial
  cases result : (exec runningPass choices start).1 with
  | none => exact finished.2 result
  | some value => exact finished.1 value result

end Pass

structure Gated (reconciler : ComponentReconciler) (cr : OpenSearchCluster) (pool : NodePool)
    (pod : String) (past : List ApiEvent) : Prop where
  deleter : reconciler = .upgrade ∨ reconciler = .restart
  listed : pool ∈ cr.spec.nodePools
  old : OldRevision cr pool pod past
  healthy : HealthChecked past
  version : reconciler = .restart → cr.status.version ≠ "" →
    cr.status.version = cr.spec.general.version

theorem gated_of_justified {pod : String} {past : List ApiEvent} (justified : Justified pod past) :
    ∃ reconciler cr pool, entered past = some (reconciler, cr) ∧
      Gated reconciler cr pool pod (recent past) ∧
      (¬ Refreshed cr pool (recent past) → CountedReady cr pool (recent past)) := by
  cases justified with
  | upgrade cr pool inside why =>
    refine ⟨.upgrade, cr, pool, inside, ?_, fun _ => why.counted.mono fun _ _ => trivial⟩
    exact ⟨Or.inl rfl, why.listed, why.old, why.healthy, nofun⟩
  | restart cr pool inside chosen healthy =>
    refine ⟨.restart, cr, pool, inside, ?_, fun fresh => chosen.counted.resolve_right fresh⟩
    refine ⟨Or.inr rfl, chosen.listed, chosen.old, healthy, fun _ given => ?_⟩
    exact chosen.version.resolve_left given

/-- One pass deletes at most one pod. Its revision is an old one, the cluster was
fit for a restart and no upgrade was due; and the pods counted for its pool were
all ready, unless the pass has updated the status of the pool's StatefulSet. -/
theorem one_deletion_for_each_pass (choices : List Choice) (start : ApiWorld)
    (new : start.past = []) :
    let past := (exec runningPass choices start).2.past
    past.countP (fun e => deletes e.op) ≤ 1 ∧
      Throughout (fun e earlier => ∀ pod, e.op = .request (.deletePod pod) →
        ∃ reconciler cr pool, entered earlier = some (reconciler, cr) ∧
          Gated reconciler cr pool pod (recent earlier) ∧
          (¬ Refreshed cr pool (recent earlier) → CountedReady cr pool (recent earlier))) past := by
  obtain ⟨deleted, bound, orderly⟩ := atMostOne_of_pass choices new
  constructor
  · rw [orderly.count]
    exact bound
  apply orderly.justified.mono
  intro e earlier justified pod deletion
  exact gated_of_justified (justified pod deletion)

def poolSet (component : String) (replicas : Int) (status : StatefulSetStatus) : StatefulSet :=
  { name := "logs-" ++ component, labels := [(clusterLabel, "logs"), (nodePoolLabel, component)]
    replicas := replicas, selector := [], podManagementPolicy := .parallel
    volumeClaimTemplates := [], podTemplate := "", podEnv := "", deleting := false
    status := status }

def poolPod (component ordinal revision ready : String) : Pod :=
  { name := "logs-" ++ component ++ "-" ++ ordinal, deleting := false
    labels := [(clusterLabel, "logs"), (nodePoolLabel, component), (stsRevisionLabel, revision)]
    conditions := [(PodReady, ready)] }

def twoRevisions : ApiWorld where
  state :=
    { cluster :=
        { name := "logs", resourceVersion := 1
          spec := { general := ⟨"2.11.0", false⟩, confMgmt := ⟨false⟩, dashboards := ⟨false⟩
                    nodePools := [⟨"hot", 3, ["data"], none, 1, "", ""⟩,
                      ⟨"warm", 1, ["data"], none, 1, "", ""⟩] }
          status := ⟨"RUNNING", [], "2.11.0", true, 0, "green"⟩ }
      statefulSets := ⟨[poolSet "hot" 3 ⟨3, 3, 3, 3, "a", "b"⟩,
        poolSet "warm" 1 ⟨1, 1, 1, 0, "a", "b"⟩], by decide⟩
      pods := ⟨[poolPod "hot" "0" "b" "True", poolPod "hot" "1" "b" "True",
        poolPod "hot" "2" "b" "False", poolPod "warm" "0" "a" "True"], by decide⟩
      claims := .empty
      settings := ⟨none, none⟩
      health := ⟨"green", 0, 0, 0, []⟩
      shards := []
      explain := fun _ _ _ => ⟨"", "", "", "", []⟩
      indices := []
      clock := 0 }
  past := []

def quietPass : List Choice := List.replicate 38 {}

theorem warm_pool_restarted :
    (exec runningPass quietPass twoRevisions).2.past.countP (fun e => deletes e.op) = 1 ∧
      Throughout (fun e earlier => ∀ pod, e.op = .request (.deletePod pod) →
        ∃ reconciler cr pool, entered earlier = some (reconciler, cr) ∧
          Gated reconciler cr pool pod (recent earlier) ∧
          (¬ Refreshed cr pool (recent earlier) → CountedReady cr pool (recent earlier)))
        (exec runningPass quietPass twoRevisions).2.past :=
  ⟨by decide, (one_deletion_for_each_pass quietPass twoRevisions rfl).2⟩

def revisedMeanwhile : List Choice :=
  let quiet : Choice := {}
  let revise : Choice := { others := fun s => { s with
    statefulSets := s.statefulSets.put (poolSet "hot" 3 ⟨3, 2, 3, 0, "b", "c"⟩) } }
  List.replicate 29 quiet ++ revise :: List.replicate 9 quiet

/-- The update of the status of `hot` hides that two of its three pods were counted
ready, and one of these two is deleted. -/
theorem unready_pool_restarted :
    let past := (exec runningPass revisedMeanwhile twoRevisions).2.past
    past.head?.map Event.op = some (.request (.deletePod "logs-hot-0")) ∧
      ¬ ∃ reconciler cr pool, entered past.tail = some (reconciler, cr) ∧
        Gated reconciler cr pool "logs-hot-0" (recent past.tail) ∧
        CountedReady cr pool (recent past.tail) := by
  refine ⟨by decide, ?_⟩
  intro ⟨reconciler, cr, pool, inside, gated, counted⟩
  have snapshot : entered (exec runningPass revisedMeanwhile twoRevisions).2.past.tail =
      some (.restart, twoRevisions.state.cluster) := by decide
  rw [snapshot] at inside
  cases inside
  have uncounted : ∀ pool ∈ twoRevisions.state.cluster.spec.nodePools,
      OldRevision twoRevisions.state.cluster pool "logs-hot-0"
        (recent (exec runningPass revisedMeanwhile twoRevisions).2.past.tail) →
      ¬ CountedReady twoRevisions.state.cluster pool
        (recent (exec runningPass revisedMeanwhile twoRevisions).2.past.tail) := by decide
  exact uncounted pool gated.listed gated.old counted

end OpenSearchOperator.Controllers
