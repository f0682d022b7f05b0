import OpenSearchOperator.Reconcilers.UpgradeOrder

/-! When the upgrade reconciler leaves entries behind. It removes them where it ends
an upgrade, and only those of the pools that the spec lists by then. -/

namespace OpenSearchOperator.Reconcilers.Upgrade

open Api Data Effects
open Gateway Helpers

variable {e : ApiEvent}

def Pending (cluster : OpenSearchCluster) : Prop :=
  cluster.spec.general.version ≠ cluster.status.version

/-- Nobody else writes upgrade entries or the version of the status, and while an
upgrade is pending nobody calls it off or changes which node pools there are. -/
structure Steadfast (e : ApiEvent) : Prop where
  entries : upgraders e.before.cluster.status.componentsStatus =
    upgraders e.prior.cluster.status.componentsStatus
  pending : Pending e.prior.cluster → Pending e.before.cluster
  pools : Pending e.prior.cluster → e.before.cluster.spec.nodePools.map NodePool.component =
    e.prior.cluster.spec.nodePools.map NodePool.component

structure Tidy (cluster : OpenSearchCluster) : Prop where
  kept : WellKept cluster.status.componentsStatus
  pending : upgraders cluster.status.componentsStatus ≠ [] → Pending cluster
  listed : ∀ x ∈ upgraders cluster.status.componentsStatus,
    x.description ∈ cluster.spec.nodePools.map NodePool.component

structure Upgrading (cr cluster : OpenSearchCluster) : Prop extends Tidy cluster where
  now : Pending cluster
  fixed : cluster.spec.nodePools.map NodePool.component =
    cr.spec.nodePools.map NodePool.component
  same : upgraders cluster.status.componentsStatus = upgraders cr.status.componentsStatus

variable {cr cluster cluster' : OpenSearchCluster} {w : ApiWorld} {choice : Choice} {op : Call}

theorem Tidy.disturbed (tidy : Tidy e.prior.cluster) (steadfast : Steadfast e) :
    Tidy e.before.cluster := by
  constructor
  · exact tidy.kept.congr steadfast.entries
  · intro there
    rw [steadfast.entries] at there
    exact steadfast.pending (tidy.pending there)
  · intro x stored
    rw [steadfast.entries] at stored
    rw [steadfast.pools (tidy.pending (List.ne_nil_of_mem stored))]
    exact tidy.listed x stored

theorem Idle.pending (idle : Idle e) : Pending e.after.cluster ↔ Pending e.before.cluster := by
  rw [Pending, Pending, idle.spec, idle.version]

theorem Tidy.idle (tidy : Tidy e.before.cluster) (idle : Idle e) : Tidy e.after.cluster := by
  constructor
  · rw [idle.entries]
    exact tidy.kept
  · rw [idle.entries, idle.pending]
    exact tidy.pending
  · rw [idle.entries, idle.spec]
    exact tidy.listed

theorem Tidy.step (tidy : Tidy w.state.cluster) (steadfast : Steadfast e)
    (prior : e.prior = w.state) (idle : Idle e) : Tidy (w.extend e).state.cluster := by
  rw [← prior] at tidy
  exact (tidy.disturbed steadfast).idle idle

theorem Upgrading.step (upgrading : Upgrading cr w.state.cluster) (steadfast : Steadfast e)
    (prior : e.prior = w.state) (idle : Idle e) : Upgrading cr (w.extend e).state.cluster := by
  have tidy := upgrading.toTidy.step steadfast prior idle
  rw [← prior] at upgrading
  refine ⟨tidy, ?_, ?_, ?_⟩
  · rw [World.extend_state, idle.pending]
    exact steadfast.pending upgrading.now
  · rw [World.extend_state, idle.spec, steadfast.pools upgrading.now]
    exact upgrading.fixed
  · rw [World.extend_state, idle.entries, steadfast.entries]
    exact upgrading.same

theorem Tidy.unlisted (tidy : Tidy cluster) {c : String}
    (unlisted : c ∉ cluster.spec.nodePools.map NodePool.component) :
    entryOf cluster.status.componentsStatus c = none := by
  cases entry : entryOf cluster.status.componentsStatus c with
  | none => rfl
  | some x =>
    obtain ⟨stored, rfl⟩ := mem_of_entryOf entry
    exact absurd (tidy.listed x stored) unlisted

/-- A status update sets the entry of one pool of the spec, or it ends the upgrade
and no entry is left. -/
theorem Edit.sets_or_clears {new : ClusterStatus} (edit : Edit cr cluster new)
    (upgrading : Upgrading cr cluster) : (new.version = cluster.status.version ∧
      ∃ c ∈ cluster.spec.nodePools.map NodePool.component, ∃ x, ∀ c',
        entryOf new.componentsStatus c' =
          if c' = c then some x else entryOf cluster.status.componentsStatus c') ∨
      ∀ c, entryOf new.componentsStatus c = none := by
  cases edit with
  | start pool next waiting entries version =>
    have member := List.mem_map_of_mem (f := NodePool.component)
      (findNextNodePoolForUpgrade_mem next)
    rw [← upgrading.fixed] at member
    exact Or.inl ⟨version, pool.component, member, _, entries⟩
  | conditions pool working conditions entries version =>
    obtain ⟨x, _, stored, named, _⟩ := entryOf_of_working working
    have member := upgrading.listed x stored
    rw [named] at member
    exact Or.inl ⟨version, pool.component, member, _, entries⟩
  | upgraded pool next working entries version =>
    obtain ⟨x, _, stored, named, _⟩ := entryOf_of_working working
    have member := upgrading.listed x stored
    rw [named] at member
    exact Or.inl ⟨version, pool.component, member, _, entries⟩
  | finish next entries version =>
    refine Or.inr fun c => ?_
    rw [entries]
    split
    · rfl
    case isFalse unlisted => exact upgrading.unlisted unlisted

theorem Edit.tidy (edit : Edit cr cluster cluster'.status) (spec : cluster'.spec = cluster.spec)
    (again : WellKept cluster'.status.componentsStatus) (upgrading : Upgrading cr cluster) :
    Tidy cluster' := by
  rcases edit.sets_or_clears upgrading with ⟨version, c, member, x, entries⟩ | cleared
  · refine ⟨again, ?_, ?_⟩
    · intro _
      rw [Pending, spec, version]
      exact upgrading.now
    · intro y stored
      rw [spec]
      have entry := again.entryOf_mem stored
      rw [entries] at entry
      split at entry
      case isTrue here =>
        rw [here]
        exact member
      case isFalse =>
        obtain ⟨old, _⟩ := mem_of_entryOf entry
        exact upgrading.listed y old
  · have nothing : ∀ y, y ∉ upgraders cluster'.status.componentsStatus := by
      intro y stored
      have entry := again.entryOf_mem stored
      rw [cleared] at entry
      cases entry
    refine ⟨again, ?_, ?_⟩
    · intro there
      exact absurd (List.eq_nil_iff_forall_not_mem.mpr nothing) there
    · intro y stored
      exact absurd stored (nothing y)

theorem respects_tidy : Respects Steadfast (fun w => Tidy w.state.cluster)
    (fun w => Upgrading cr w.state.cluster) (fun w => Tidy w.state.cluster) cr := by
  constructor
  case implied => exact fun _ upgrading => upgrading.toTidy
  case implied' => exact fun _ tidy => tidy
  case weaken => exact fun _ upgrading => upgrading.toTidy
  case stable =>
    intro w choice op steadfast upgrading unchanged
    exact upgrading.step steadfast rfl (idle_of_cluster (congrArg State.cluster unchanged))
  case gentle =>
    intro w choice op gentle steadfast upgrading
    have idle : Idle (w.arrive choice op) := idle_of_cluster (answer_gentle _ _ gentle).cluster
    exact upgrading.step steadfast rfl idle
  case gentle' =>
    intro w choice op gentle steadfast tidy
    have idle : Idle (w.arrive choice op) := idle_of_cluster (answer_gentle _ _ gentle).cluster
    exact tidy.step steadfast rfl idle
  case deletes =>
    intro w choice pod steadfast upgrading
    exact upgrading.step steadfast rfl (idle_of_cluster ((event_frame _).cluster nofun))
  case phase =>
    intro w e phase upgrading prior steadfast unchanged after
    exact upgrading.step steadfast prior (idle_of_phase unchanged after)
  case writes =>
    intro w e f write upgrading prior steadfast unchanged after
    obtain ⟨again, edit⟩ := write.edit upgrading.same upgrading.kept
    have status : e.after.cluster.status = f w.state.cluster := by
      rw [after]
      rfl
    have spec : e.after.cluster.spec = w.state.cluster.spec := by
      rw [after, ← unchanged]
      rfl
    rw [← status] at again edit
    exact edit.tidy spec again upgrading

theorem stable_tidy : Stable Steadfast (fun w => Tidy w.state.cluster) := by
  intro w choice op steadfast tidy unchanged
  exact tidy.step steadfast rfl (idle_of_cluster (congrArg State.cluster unchanged))

theorem safe_settled (settled : ¬ Pending cr) (tidy : Tidy w.state.cluster) :
    Safe Steadfast (fun w => Tidy w.state.cluster) (reconcile cr)
      (fun _ w => Tidy w.state.cluster) w := by
  rw [reconcile, if_pos (not_not.mp settled)]
  split
  · refine (safe_settleStatus _ (fun _ tidy => tidy) stable_tidy (fun _ tidy => tidy) ?_ tidy).bind
      fun _ _ tidy => tidy
    intro w e tidy prior steadfast unchanged after
    exact tidy.step steadfast prior (idle_of_phase unchanged after)
  · exact tidy

theorem safe_upgradePass_tidy (tidy : Tidy w.state.cluster) :
    Safe Steadfast (fun w => Tidy w.state.cluster) upgradePass
      (fun _ w => Tidy w.state.cluster) w := by
  apply (safe_read .getCluster rfl stable_tidy (fun _ tidy => tidy) tidy).bind
  intro reply w ⟨tidy, _, answers⟩
  rcases answers with ⟨fault, rfl⟩ | rfl
  · cases fault <;> exact tidy
  refine ⟨tidy, fun choice steadfast => ?_⟩
  by_cases pending : Pending w.state.cluster
  · have upgrading : Upgrading w.state.cluster w.state.cluster := ⟨tidy, pending, rfl, rfl⟩
    exact respects_tidy.safe_reconcile _ (upgrading.step steadfast rfl (idle_of_cluster rfl))
  · exact safe_settled pending (tidy.step steadfast rfl (idle_of_cluster rfl))

/-- Where a pending upgrade is never called off and the node pools stay the same ones
until it is over, no entry is left once the versions are the same. -/
theorem no_leftover_upgraders (start : ApiWorld) (passes : List (List Choice))
    (fresh : ∀ x ∈ start.state.cluster.status.componentsStatus, x.component ≠ "Upgrader")
    (steadfast : ∀ e ∈ (runs upgradePass passes start).past, Steadfast e) :
    let cluster := (runs upgradePass passes start).state.cluster
    cluster.status.version = cluster.spec.general.version →
      (∀ x ∈ cluster.status.componentsStatus, x.component ≠ "Upgrader") ∧
        isUpgradeInProgress cluster.status = false := by
  intro cluster same
  have nothing : ∀ x, x ∉ upgraders start.state.cluster.status.componentsStatus := by
    intro x stored
    exact fresh x (mem_upgraders.mp stored).1 (mem_upgraders.mp stored).2
  have begin_ : Tidy start.state.cluster :=
    ⟨(ordered_of_fresh fresh).kept,
      fun there => absurd (List.eq_nil_iff_forall_not_mem.mpr nothing) there,
      fun x stored => absurd stored (nothing x)⟩
  have tidy : Tidy cluster :=
    runs_keep (fun _ tidy => safe_upgradePass_tidy tidy) passes start begin_ steadfast
  have none_left : upgraders cluster.status.componentsStatus = [] := by
    by_contra there
    exact tidy.pending there same.symm
  constructor
  · intro x stored upgrader
    have listed := mem_upgraders.mpr ⟨stored, upgrader⟩
    rw [none_left] at listed
    cases listed
  · change (upgraders cluster.status.componentsStatus).any _ = false
    rw [none_left]
    rfl

theorem upgraded_cluster_tidy :
    let cluster := (runs upgradePass wholeUpgrade twoPools).state.cluster
    cluster.status.version = "2.12.0" ∧
      ∀ x ∈ cluster.status.componentsStatus, x.component ≠ "Upgrader" := by
  intro cluster
  have steadfast : ∀ e ∈ (runs upgradePass wholeUpgrade twoPools).past, Steadfast e := by
    intro e happened
    have same : e.before = e.prior := undisturbed_before upgradePass _ twoPools rfl e happened
    exact ⟨by rw [same], by rw [same]; exact id, fun _ => by rw [same]⟩
  exact ⟨by decide,
    (no_leftover_upgraders twoPools wholeUpgrade (by decide) steadfast (by decide)).1⟩

/-- The first pass starts the upgrade of the data pool; before the next one the
custom resource is edited. -/
def editedAfterStart (edit : ClusterSpec → ClusterSpec) (passes : Nat) : List (List Choice) :=
  let quiet : Choice := {}
  let edited : Choice :=
    { others := fun s => { s with cluster := { s.cluster with spec := edit s.cluster.spec } } }
  .replicate 30 quiet :: (edited :: .replicate 30 quiet) :: .replicate passes (.replicate 30 quiet)

def revert (spec : ClusterSpec) : ClusterSpec := { spec with general := ⟨"2.11.0", false⟩ }

def removeData (spec : ClusterSpec) : ClusterSpec :=
  { spec with nodePools := spec.nodePools.filter (fun pool => pool.component != "data") }

/-- One more pass returns without an error and leaves the versions the same, an entry
in the list and the upgrade in progress. -/
def LeavesEntry (w : ApiWorld) : Prop :=
  let quiet : Choice := {}
  let (result, after) := exec upgradePass (.replicate 30 quiet) w
  result = some ({}, none) ∧
    after.state.cluster.status.version = after.state.cluster.spec.general.version ∧
    (∃ x ∈ after.state.cluster.status.componentsStatus, x.component = "Upgrader") ∧
    isUpgradeInProgress after.state.cluster.status = true

/-- An upgrade that is called off leaves its entry behind, and so does one whose pool
is taken out of the spec. -/
theorem upgraders_left_over : LeavesEntry (runs upgradePass (editedAfterStart revert 0) twoPools) ∧
      LeavesEntry (runs upgradePass (editedAfterStart removeData 1) twoPools) := by
  constructor
  · exact ⟨by decide, by decide, by decide, by decide⟩
  · exact ⟨by decide, by decide, by decide, by decide⟩

end OpenSearchOperator.Reconcilers.Upgrade
