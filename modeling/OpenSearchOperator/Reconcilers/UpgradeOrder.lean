import OpenSearchOperator.Data.Counting
import OpenSearchOperator.Reconcilers.UpgradeEntries

/-! The upgrade reconciler as a rollout over the node pools, whose rank is the class
of their roles. -/

namespace OpenSearchOperator.Reconcilers.Upgrade

open Api Data Effects
open Gateway Helpers

section Moves

variable {pool : NodePool} {cr cluster : OpenSearchCluster}

theorem component_ne {other : NodePool}
    (distinct : (cr.spec.nodePools.map NodePool.component).Nodup)
    (first : pool ∈ cr.spec.nodePools) (second : other ∈ cr.spec.nodePools) (apart : other ≠ pool) :
    other.component ≠ pool.component :=
  fun same => apart (List.inj_on_of_nodup_map distinct second first same)

/-- What a pass relies on until its status update: the stored entries are those of
its snapshot, and in order. -/
structure Current (cr cluster : OpenSearchCluster) : Prop where
  fixed : cluster.spec.nodePools = cr.spec.nodePools
  same : upgraders cluster.status.componentsStatus = upgraders cr.status.componentsStatus
  kept : WellKept cluster.status.componentsStatus
  ordered : Rollout.InOrder cr.spec.nodePools upgradeClass (stageOf cluster.status.componentsStatus)

theorem Current.first (current : Current cr cluster)
    (next : findNextNodePoolForUpgrade cr = some (pool, .pending)) :
    (∀ other ∈ cr.spec.nodePools, stageOf cluster.status.componentsStatus other ≠ .working) ∧
      ∀ other ∈ cr.spec.nodePools, upgradeClass other < upgradeClass pool →
        stageOf cluster.status.componentsStatus other = .done := by
  have member := findNextNodePoolForUpgrade_mem next
  obtain ⟨nodes, search, classes, earlier⟩ := findNextNodePoolForUpgrade_class next
  obtain ⟨waiting, idle⟩ := waiting_of_findInClass search
  rw [← stageOf_congr current.same] at waiting idle earlier
  refine ⟨?_, earlier⟩
  intro other listed working
  rcases Nat.lt_trichotomy (upgradeClass other) (upgradeClass pool) with lower | level | higher
  · rw [earlier other listed lower] at working
    cases working
  · exact idle other ((classes other).mpr ⟨listed, level⟩) working
  -- A later class has not begun, since this pool is not done.
  have begun : stageOf cluster.status.componentsStatus other ≠ .waiting := by
    rw [working]
    exact nofun
  have done := current.ordered.order other listed begun pool member higher
  rw [waiting] at done
  cases done

theorem Edit.step {new : ClusterStatus} (edit : Edit cr cluster new)
    (distinct : (cr.spec.nodePools.map NodePool.component).Nodup) (current : Current cr cluster) :
    Rollout.Step cr.spec.nodePools upgradeClass (stageOf cluster.status.componentsStatus)
      (stageOf new.componentsStatus) := by
  cases edit with
  | start pool next waiting entries version =>
    have member := findNextNodePoolForUpgrade_mem next
    obtain ⟨idle, earlier⟩ := current.first next
    refine .start pool member waiting idle earlier (stageOf_self entries rfl) ?_
    intro other listed apart
    exact stageOf_other entries (component_ne distinct member listed apart)
  | conditions pool working conditions entries version =>
    refine .stay ?_
    intro other _
    by_cases here : other.component = pool.component
    · have before : stageOf cluster.status.componentsStatus other = .working := by
        rw [stageOf, here]
        exact working
      rw [before, stageOf_self entries here]
      rfl
    · exact stageOf_other entries here
  | upgraded pool next working entries version =>
    have member := findNextNodePoolForUpgrade_mem next
    refine .complete pool member working (stageOf_self entries rfl) ?_
    intro other listed apart
    exact stageOf_other entries (component_ne distinct member listed apart)
  | finish next entries version =>
    refine .reset ?_
    intro pool listed
    have member : pool.component ∈ cluster.spec.nodePools.map NodePool.component := by
      rw [current.fixed]
      exact List.mem_map_of_mem listed
    rw [stageOf, entries, if_pos member]

end Moves

section Runs

structure Ordered (pools : List NodePool) (cluster : OpenSearchCluster) : Prop where
  fixed : cluster.spec.nodePools = pools
  kept : WellKept cluster.status.componentsStatus
  ordered : Rollout.InOrder pools upgradeClass (stageOf cluster.status.componentsStatus)

variable {pools : List NodePool} {cr cluster cluster' : OpenSearchCluster} {w : ApiWorld}

theorem Ordered.congr (ordered : Ordered pools cluster)
    (spec : cluster'.spec.nodePools = cluster.spec.nodePools)
    (same : upgraders cluster'.status.componentsStatus =
      upgraders cluster.status.componentsStatus) : Ordered pools cluster' := by
  constructor
  · exact spec.trans ordered.fixed
  · exact ordered.kept.congr same
  · rw [stageOf_congr same]
    exact ordered.ordered

theorem Current.congr (current : Current cr cluster)
    (spec : cluster'.spec.nodePools = cluster.spec.nodePools)
    (same : upgraders cluster'.status.componentsStatus =
      upgraders cluster.status.componentsStatus) : Current cr cluster' := by
  constructor
  · exact spec.trans current.fixed
  · exact same.trans current.same
  · exact current.kept.congr same
  · rw [stageOf_congr same]
    exact current.ordered

theorem Current.orderedIn (current : Current cr cluster) : Ordered cr.spec.nodePools cluster :=
  ⟨current.fixed, current.kept, current.ordered⟩

theorem Ordered.current (ordered : Ordered pools cr) : Current cr cr := by
  obtain ⟨rfl, kept, order⟩ := ordered
  exact ⟨rfl, rfl, kept, order⟩

theorem respects_order (distinct : (cr.spec.nodePools.map NodePool.component).Nodup) :
    Respects Alone (fun w => Ordered cr.spec.nodePools w.state.cluster)
      (fun w => Current cr w.state.cluster)
      (fun w => Ordered cr.spec.nodePools w.state.cluster) cr := by
  constructor
  case implied => exact fun _ current => current.orderedIn
  case implied' => exact fun _ ordered => ordered
  case weaken => exact fun _ current => current.orderedIn
  case stable =>
    intro w choice op alone current unchanged
    have same := alone.extend_of_cluster (congrArg State.cluster unchanged)
    exact current.congr same.1 same.2
  case gentle =>
    intro w choice op gentle alone current
    have same := alone.extend_of_cluster (answer_gentle choice _ gentle).cluster
    exact current.congr same.1 same.2
  case gentle' =>
    intro w choice op gentle alone ordered
    have same := alone.extend_of_cluster (answer_gentle choice _ gentle).cluster
    exact ordered.congr same.1 same.2
  case deletes =>
    intro w choice pod alone current
    have same := alone.extend_of_cluster ((event_frame _).cluster nofun)
    exact current.congr same.1 same.2
  case phase =>
    intro w e phase current prior alone unchanged after
    rw [World.extend_state, after]
    apply current.congr
    · exact congrArg (fun cluster => cluster.spec.nodePools) unchanged
    · rfl
  case writes =>
    intro w e f write current prior alone unchanged after
    obtain ⟨kept, edit⟩ := write.edit current.same current.kept
    rw [World.extend_state, after]
    constructor
    · change e.before.cluster.spec.nodePools = _
      rw [unchanged]
      exact current.fixed
    · exact kept
    · exact (edit.step distinct current).inOrder current.ordered

theorem safe_upgradePass (distinct : (pools.map NodePool.component).Nodup)
    (ordered : Ordered pools w.state.cluster) :
    Safe Alone (fun w => Ordered pools w.state.cluster) upgradePass
      (fun _ w => Ordered pools w.state.cluster) w := by
  have stable : Stable Alone (fun w => Ordered pools w.state.cluster) := by
    intro w choice op alone ordered unchanged
    have same := alone.extend_of_cluster (congrArg State.cluster unchanged)
    exact ordered.congr same.1 same.2
  apply (safe_read .getCluster rfl stable (fun _ ordered => ordered) ordered).bind
  intro reply w ⟨ordered, _, answers⟩
  rcases answers with ⟨fault, rfl⟩ | rfl
  · cases fault <;> exact ordered
  have fixed := ordered.fixed
  subst fixed
  refine ⟨ordered, fun choice alone => ?_⟩
  have same := alone.extend_of_cluster rfl
  exact (respects_order distinct).safe_reconcile _ (ordered.current.congr same.1 same.2)

theorem ordered_of_fresh (fresh : ∀ x ∈ cluster.status.componentsStatus, x.component ≠ "Upgrader") :
    Ordered cluster.spec.nodePools cluster := by
  have nothing : upgraders cluster.status.componentsStatus = [] := by
    rw [upgraders, List.filter_eq_nil_iff]
    intro x stored
    simpa using fresh x stored
  refine ⟨rfl, ⟨by simp [nothing], by simp [nothing]⟩, Rollout.inOrder_of_waiting ?_⟩
  intro pool _
  rw [stageOf, entryOf, nothing]
  rfl

/-- At every point of every run one pool at most is being upgraded, no pool has two
entries, and a pool has an entry only when the pools of all earlier classes are upgraded. -/
theorem upgrade_order (start : ApiWorld) (passes : List (List Choice))
    (distinct : (start.state.cluster.spec.nodePools.map NodePool.component).Nodup)
    (fresh : ∀ x ∈ start.state.cluster.status.componentsStatus, x.component ≠ "Upgrader")
    (alone : ∀ e ∈ (runs upgradePass passes start).past, Alone e) :
    let pools := start.state.cluster.spec.nodePools
    let cluster := (runs upgradePass passes start).state.cluster
    (∀ pool ∈ pools, ∀ other ∈ pools, HasEntry cluster pool "Upgrading" →
        HasEntry cluster other "Upgrading" → pool = other) ∧
      (∀ pool ∈ pools, cluster.status.componentsStatus.countP (fun x =>
        x.description == pool.component && x.component == "Upgrader") ≤ 1) ∧
      ∀ pool ∈ pools, ∀ status, HasEntry cluster pool status → ∀ earlier ∈ pools,
        upgradeClass earlier < upgradeClass pool → HasEntry cluster earlier "Upgraded" := by
  intro pools cluster
  have inv : Ordered pools cluster :=
    runs_keep (fun _ ordered => safe_upgradePass distinct ordered) passes start
      (ordered_of_fresh fresh) alone
  refine ⟨?_, ?_, ?_⟩
  · intro pool first other second left right
    exact inv.ordered.single pool first other second (inv.kept.stageOf_entry left)
      (inv.kept.stageOf_entry right)
  · intro pool _
    rw [← List.countP_filter]
    apply countP_key_le_one inv.kept.distinct (k := pool.component)
    intro x _ named
    simpa using named
  · intro pool first status entry earlier second lower
    apply inv.kept.upgraded_of_done
    apply inv.ordered.order pool first ?_ earlier second lower
    rw [inv.kept.stageOf_entry entry]
    split <;> exact nofun

def twoPools : ApiWorld where
  state :=
    { cluster :=
        { name := "logs", resourceVersion := 1
          spec := { general := ⟨"2.12.0", false⟩, confMgmt := ⟨false⟩, dashboards := ⟨false⟩
                    nodePools := [⟨"managers", 1, ["cluster_manager"], none, 1, "", ""⟩,
                      ⟨"data", 1, ["data"], none, 1, "", ""⟩] }
          status := ⟨"RUNNING", [], "2.11.0", true, 0, "green"⟩ }
      statefulSets := ⟨["data", "managers"].map fun component =>
        { name := "logs-" ++ component
          labels := [(clusterLabel, "logs"), (nodePoolLabel, component)]
          replicas := 1, selector := [], podManagementPolicy := .parallel
          volumeClaimTemplates := [], podTemplate := "", podEnv := "", deleting := false
          status := ⟨1, 1, 1, 1, "b", "b"⟩ }, by decide⟩
      pods := ⟨["data", "managers"].map fun component =>
        { name := "logs-" ++ component ++ "-0"
          labels := [(clusterLabel, "logs"), (nodePoolLabel, component), (stsRevisionLabel, "b")]
          deleting := false, conditions := [(PodReady, ConditionTrue)] }, by decide⟩
      claims := .empty
      settings := ⟨none, none⟩
      health := ⟨"green", 0, 0, 0, []⟩
      shards := []
      explain := fun _ _ _ => ⟨"", "", "", "", []⟩
      indices := []
      clock := 0 }
  past := []

def untilManagers : List (List Choice) := undisturbed (.replicate 3 (.replicate 30 .served))

def wholeUpgrade : List (List Choice) := undisturbed (.replicate 5 (.replicate 30 .served))

theorem managers_after_data :
    let cluster := (runs upgradePass untilManagers twoPools).state.cluster
    HasEntry cluster ⟨"managers", 1, ["cluster_manager"], none, 1, "", ""⟩ "Upgrading" ∧
      HasEntry cluster ⟨"data", 1, ["data"], none, 1, "", ""⟩ "Upgraded" := by
  intro cluster
  have alone : ∀ e ∈ (runs upgradePass untilManagers twoPools).past, Alone e := by
    intro e happened
    have same : e.before = e.prior := undisturbed_before upgradePass _ twoPools rfl e happened
    exact ⟨by rw [same], by rw [same]⟩
  have busy : HasEntry cluster ⟨"managers", 1, ["cluster_manager"], none, 1, "", ""⟩
      "Upgrading" := by
    refine ⟨upgrading "managers" [], ?_, rfl, rfl, rfl⟩
    decide
  have order := (upgrade_order twoPools untilManagers (by decide) (by decide) alone).2.2
  exact ⟨busy, order _ (by decide) _ busy _ (by decide) (by decide)⟩

end Runs

end OpenSearchOperator.Reconcilers.Upgrade
