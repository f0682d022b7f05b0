import Mathlib.Tactic.MkIffOfInductiveProp
import OpenSearchOperator.Controllers.Running
import OpenSearchOperator.Reconcilers.UpgradeCleanup

/-! Shard allocation is restricted to primaries before a pod is restarted. Who puts
the setting back, and when nobody does. -/

namespace OpenSearchOperator.Controllers.ShardAllocation

open Api Data Effects
open Gateway Helpers Reconcilers
open Reconcilers.Upgrade (Pending WellKept upgraders entryOf stageOf
  findNextNodePoolForUpgrade upgrading withConditions finishNodePool)

section Vocabulary

def Restricted (s : State) : Prop := s.settings.enable = some allocationPrimaries

instance (s : State) : Decidable (Restricted s) := inferInstanceAs (Decidable (_ = _))

def Restarting (cluster : OpenSearchCluster) : Prop :=
  (RollingRestart.findStatus cluster).map ComponentStatus.status =
    some RollingRestart.statusInProgress

instance (cluster : OpenSearchCluster) : Decidable (Restarting cluster) :=
  inferInstanceAs (Decidable (_ = _))

def UpgradesPool (cluster : OpenSearchCluster) (component : String) : Prop :=
  Pending cluster ∧ component ∈ cluster.spec.nodePools.map NodePool.component ∧
    ∃ x, entryOf cluster.status.componentsStatus component = some x ∧ x.status = "Upgrading"

/-- Somebody is about to put the setting back. -/
def Owed (cluster : OpenSearchCluster) : Prop :=
  Restarting cluster ∨ ∃ component, UpgradesPool cluster component

structure Kept (s : State) : Prop where
  entries : WellKept s.cluster.status.componentsStatus
  owed : Restricted s → Owed s.cluster

/-- Nobody else writes the setting or the entries of the two reconcilers. A pool
that is being upgraded stays in the spec, and its upgrade is not called off. -/
structure LeftToFinish (e : ApiEvent) : Prop where
  setting : e.before.settings.enable = e.prior.settings.enable
  entries : upgraders e.before.cluster.status.componentsStatus =
    upgraders e.prior.cluster.status.componentsStatus
  restart : Restarting e.prior.cluster → Restarting e.before.cluster
  upgrade : ∀ component, UpgradesPool e.prior.cluster component →
    UpgradesPool e.before.cluster component
  drain : e.op = .request .getCluster → e.before.cluster.spec.general.drainDataNodes = false

def upgradeRestartPass : Prog (Result × Option Failure) := do
  match ← getOpenSearchCluster with
  | .error .notFound => return ({}, none)
  | .error err => return ({}, some (.api err))
  | .ok cr => afterScaler cr

def restricts : Call → Bool
  | .request (.putClusterSettings (.allocationEnable value)) => value == allocationPrimaries
  | _ => false

structure Frees (op : Call) : Prop where
  cluster : Leaves .cluster op
  allocation : restricts op = false

end Vocabulary

section Lasting

variable {s t : State} {e : ApiEvent} {K : State → Prop} {w : ApiWorld}

variable {op : Call} {choice : Choice}

theorem answer_restricted (frees : restricts op = false)
    (after : Restricted (answer choice s op).2) : Restricted s := by
  revert after
  apply answer_keeps choice s op (fun t => Restricted t → Restricted s) id
  rintro req rfl after
  cases req with
  | putClusterSettings settings =>
    cases settings with
    | allocationEnable value =>
      have other : value ≠ allocationPrimaries := by simpa [restricts] using frees
      exact absurd (Option.some.inj after) other
    | _ => exact after
  | _ =>
    rw [Restricted, (serve_frame s _).settings (by simp [Request.changes])] at after
    exact after

structure Lasting (K : State → Prop) : Prop where
  kept : ∀ s, K s → Kept s
  disturbed : ∀ e, LeftToFinish e → K e.prior → K e.before
  freed : ∀ s t : State, t.cluster = s.cluster → (Restricted t → Restricted s) → K s → K t

theorem LeftToFinish.restricted_iff (left : LeftToFinish e) :
    Restricted e.before ↔ Restricted e.prior := by
  rw [Restricted, Restricted, left.setting]

theorem LeftToFinish.owed (left : LeftToFinish e) (owed : Owed e.prior.cluster) :
    Owed e.before.cluster := by
  rcases owed with restarting | ⟨component, upgrades⟩
  · exact Or.inl (left.restart restarting)
  · exact Or.inr ⟨component, left.upgrade component upgrades⟩

theorem lasting_kept : Lasting Kept where
  kept := fun _ kept => kept
  disturbed := by
    intro e left kept
    refine ⟨kept.entries.congr left.entries, fun restricted => ?_⟩
    exact left.owed (kept.owed (left.restricted_iff.mp restricted))
  freed := by
    intro s t same frees kept
    constructor
    · rw [same]
      exact kept.entries
    intro restricted
    rw [same]
    exact kept.owed (frees restricted)

theorem Lasting.free (lasting : Lasting K) : Lasting (fun s => K s ∧ ¬ Restricted s) where
  kept := fun s both => lasting.kept s both.1
  disturbed := fun e left both =>
    ⟨lasting.disturbed e left both.1, fun restricted => both.2 (left.restricted_iff.mp restricted)⟩
  freed := fun s t same frees both =>
    ⟨lasting.freed s t same frees both.1, fun restricted => both.2 (frees restricted)⟩

theorem Lasting.event (lasting : Lasting K) (frees : Frees op)
    (left : LeftToFinish (w.arrive choice op)) (holds : K w.state) :
    K (w.extend (w.arrive choice op)).state := by
  apply lasting.freed (w.arrive choice op).before
  · exact (event_frame _).cluster frees.cluster
  · exact answer_restricted frees.allocation
  · exact lasting.disturbed _ left holds

theorem Lasting.keeps (lasting : Lasting K) {α : Type} {program : Prog α}
    (only : program.OnlyCalls Frees) :
    Keeps LeftToFinish (fun w => Kept w.state) (fun w => K w.state) program :=
  keeps_of_calls (fun w => lasting.kept w.state) only fun _ _ _ frees left holds =>
    lasting.event frees left holds

theorem Lasting.stable (lasting : Lasting K) : Stable LeftToFinish (fun w => K w.state) := by
  intro w choice op left holds unchanged
  rw [World.extend_state, unchanged]
  exact lasting.disturbed _ left holds

theorem frees_of_reads (reads : Reads op) : Frees op := by
  constructor
  · rw [Leaves, reads.changes]
    simp
  cases op with
  | request req => cases req <;> first | rfl | cases reads
  | _ => rfl

theorem frees_of_checks (checks : RollingRestart.Checks op) : Frees op := by
  obtain ⟨gentle, leaves⟩ := checks
  cases op with
  | request req =>
    cases req with
    | putClusterSettings settings => exact absurd rfl leaves
    | updateStatefulSetStatus sts => exact ⟨nofun, rfl⟩
    | _ => exact frees_of_reads gentle
  | note note => cases note <;> exact frees_of_reads gentle
  | _ => exact frees_of_reads rfl

theorem Lasting.reactivate (lasting : Lasting K) (w : ApiWorld) (holds : K w.state) :
    Safe LeftToFinish (fun w => Kept w.state) reactivateShardAllocation
      (fun failed w => K w.state ∧ (failed = none → ¬ Restricted w.state)) w := by
  apply (safe_read .getClusterSettings rfl lasting.stable
    (fun w => lasting.kept w.state) holds).bind
  intro reply w ⟨holds, _, answers⟩
  rcases answers with ⟨fault, rfl⟩ | rfl
  · exact ⟨holds, nofun⟩
  change Safe _ _ (if w.state.settings.enable.getD "" = allocationAll then pure none
    else setClusterShardAllocation allocationAll) _ w
  split
  case isTrue all =>
    refine ⟨holds, fun _ restricted => ?_⟩
    rw [restricted] at all
    exact absurd all (by decide)
  case isFalse =>
    have frees : Frees (.request (.putClusterSettings (.allocationEnable allocationAll))) :=
      ⟨nofun, rfl⟩
    have put : Safe LeftToFinish (fun w => Kept w.state)
        (putClusterSettings (.allocationEnable allocationAll)) (fun reply w => K w.state ∧
          (reply = .ok () → w.state.settings.enable = some allocationAll)) w := by
      apply safe_request _ (lasting.kept _ holds)
      intro choice e left
      refine ⟨lasting.event frees left holds, fun served => ?_⟩
      exact congrArg (·.2.settings.enable) (request_answered served).symm
    apply put.bindOk
    · intro err w ⟨holds, done⟩
      exact ⟨holds, nofun⟩
    intro _ w ⟨holds, done⟩
    refine ⟨holds, fun _ restricted => ?_⟩
    have different := (done rfl).symm.trans restricted
    exact absurd (Option.some.inj different) (by decide)

end Lasting

section Entries

variable {cr cluster : OpenSearchCluster} {s : State} {status : ClusterStatus}

variable {x : ComponentStatus} {cluster' : OpenSearchCluster} {l : List ComponentStatus}

def restarts (componentsStatus : List ComponentStatus) : List ComponentStatus :=
  componentsStatus.filter (fun x => getByComponent x (RollingRestart.restartStatus ""))

theorem findStatus_congr {cluster : OpenSearchCluster}
    (same : restarts cluster'.status.componentsStatus = restarts cluster.status.componentsStatus) :
    RollingRestart.findStatus cluster' = RollingRestart.findStatus cluster := by
  have found : cluster'.status.componentsStatus.find?
      (fun x => getByComponent x (RollingRestart.restartStatus "")) =
        cluster.status.componentsStatus.find?
          (fun x => getByComponent x (RollingRestart.restartStatus "")) := by
    rw [← List.head?_filter, ← List.head?_filter]
    exact congrArg List.head? same
  rw [RollingRestart.findStatus, RollingRestart.findStatus, findFirstPartial, findFirstPartial,
    found]

theorem restarting_congr {cluster : OpenSearchCluster}
    (same : restarts cluster'.status.componentsStatus = restarts cluster.status.componentsStatus) :
    Restarting cluster' ↔ Restarting cluster := by
  rw [Restarting, Restarting, findStatus_congr same]

section

variable (upgrader : x.component = "Upgrader")

include upgrader

theorem not_restarts : getByComponent x (RollingRestart.restartStatus "") = false := by
  rw [getByComponent, upgrader]
  decide

theorem restarts_append (l : List ComponentStatus) : restarts (l ++ [x]) = restarts l := by
  simp [restarts, not_restarts upgrader]

theorem restarts_removeIt (l : List ComponentStatus) : restarts (removeIt x l) = restarts l := by
  apply filter_removeIt
  intro y equal
  simp only [componentStatusEqual, Bool.and_eq_true, beq_iff_eq] at equal
  exact not_restarts (equal.1.1.trans upgrader)

theorem restarts_replace {y : ComponentStatus} (upgrader' : y.component = "Upgrader")
    {l : List ComponentStatus} : restarts (replace x y l) = restarts l := by
  rw [replace, restarts_append upgrader', restarts_removeIt upgrader]

end

theorem restarts_removeUpgraders {pools : List NodePool} :
    restarts (Upgrade.removeUpgraders pools l) = restarts l := by
  induction pools generalizing l with
  | nil => rfl
  | cons pool pools ih =>
    rw [Upgrade.removeUpgraders, ih]
    have upgrader : (Upgrade.findUpgrader l pool.component).1.component = "Upgrader" :=
      (findFirstPartial_matches _).1
    split
    · exact restarts_removeIt upgrader l
    · rfl

theorem restarts_write {f : OpenSearchCluster → ClusterStatus} (write : Upgrade.Write cr f)
    (cluster : OpenSearchCluster) :
    restarts (f cluster).componentsStatus = restarts cluster.status.componentsStatus := by
  cases write with
  | start pool next => exact restarts_append rfl _
  | conditions pool next conditions =>
    exact restarts_replace (findFirstPartial_matches _).1 rfl
  | upgraded pool next => exact restarts_replace rfl rfl
  | finish next => exact restarts_removeUpgraders

theorem upgraders_setComponentStatus {new : String} :
    upgraders (RollingRestart.setComponentStatus (RollingRestart.restartStatus new) l) =
      upgraders l := by
  have other : ((RollingRestart.restartStatus new).component == "Upgrader") = false := rfl
  induction l with
  | nil => rfl
  | cons value values ih =>
    rw [RollingRestart.setComponentStatus]
    split
    case isTrue same =>
      have other' : (value.component == "Upgrader") = false := by
        rw [same]
        exact other
      rw [upgraders, upgraders, List.filter_cons, List.filter_cons, other, other']
      rfl
    case isFalse =>
      have apart : ∀ rest, upgraders (value :: rest) = upgraders [value] ++ upgraders rest :=
        fun rest => List.filter_append [value] rest
      rw [apart, ih, ← apart]

end Entries

section Upgrades

variable {cr cluster : OpenSearchCluster} {s : State} {e : ApiEvent} {w : ApiWorld}
  {pool : NodePool}

structure During (cr : OpenSearchCluster) (s : State) : Prop extends Kept s where
  same : upgraders s.cluster.status.componentsStatus = upgraders cr.status.componentsStatus
  work : Pending cr → ∀ pool, findNextNodePoolForUpgrade cr = some (pool, .inProgress) →
    UpgradesPool s.cluster pool.component
  closing : Pending cr → findNextNodePoolForUpgrade cr = none → Restricted s → Restarting s.cluster

theorem lasting_during : Lasting (During cr) where
  kept := fun _ during => during.toKept
  disturbed := by
    intro e left during
    refine ⟨lasting_kept.disturbed e left during.toKept, left.entries.trans during.same, ?_, ?_⟩
    · exact fun pending pool next => left.upgrade _ (during.work pending pool next)
    · exact fun pending next restricted =>
        left.restart (during.closing pending next (left.restricted_iff.mp restricted))
  freed := by
    intro s t same frees during
    refine ⟨lasting_kept.freed s t same frees during.toKept, ?_, ?_, ?_⟩
    · rw [same]
      exact during.same
    · rw [same]
      exact during.work
    · rw [same]
      exact fun pending next restricted => during.closing pending next (frees restricted)

theorem during_snapshot (kept : Kept s) : During s.cluster s where
  toKept := kept
  same := rfl
  work := by
    intro pending pool next
    obtain ⟨x, entry, _, _, busy⟩ :=
      Upgrade.entryOf_of_working (Upgrade.working_of_next rfl next)
    exact ⟨pending, List.mem_map_of_mem (Upgrade.findNextNodePoolForUpgrade_mem next),
      x, entry, busy⟩
  closing := by
    intro _ next restricted
    rcases kept.owed restricted with restarting | ⟨component, _, listed, x, entry, busy⟩
    · exact restarting
    obtain ⟨pool, member, rfl⟩ := List.mem_map.mp listed
    have done := Upgrade.done_of_findNextNodePoolForUpgrade next pool member
    rw [stageOf, entry] at done
    simp [busy] at done

theorem Owed.of_same {cluster' : OpenSearchCluster} (owed : Owed cluster)
    (spec : cluster'.spec = cluster.spec)
    (version : cluster'.status.version = cluster.status.version)
    (others : restarts cluster'.status.componentsStatus = restarts cluster.status.componentsStatus)
    (entries : ∀ component x, entryOf cluster.status.componentsStatus component = some x →
      x.status = "Upgrading" → ∃ y, entryOf cluster'.status.componentsStatus component = some y ∧
        y.status = "Upgrading") : Owed cluster' := by
  rcases owed with restarting | ⟨component, pending, listed, x, entry, busy⟩
  · exact Or.inl ((restarting_congr others).mpr restarting)
  refine Or.inr ⟨component, ?_, ?_, entries component x entry busy⟩
  · rw [Pending, spec, version]
    exact pending
  · rw [spec]
    exact listed

/-- A status update keeps the assertion if it leaves the restart's entries alone and
the pools that are being upgraded in progress. -/
theorem Kept.written {f : OpenSearchCluster → ClusterStatus} (kept : Kept w.state)
    (left : LeftToFinish e) (prior : e.prior = w.state)
    (unchanged : e.before.cluster = w.state.cluster)
    (after : e.after = e.before.withStatus (f w.state.cluster))
    (again : WellKept (f w.state.cluster).componentsStatus) (owed : Owed w.state.cluster →
      Owed { w.state.cluster with
        resourceVersion := w.state.cluster.resourceVersion + 1, status := f w.state.cluster }) :
    Kept (w.extend e).state := by
  have cluster : e.after.cluster = { w.state.cluster with
      resourceVersion := w.state.cluster.resourceVersion + 1, status := f w.state.cluster } := by
    rw [after, State.withStatus, unchanged]
  constructor
  · rw [World.extend_state, cluster]
    exact again
  intro restricted
  have before : Restricted e.before := by
    rw [World.extend_state, after] at restricted
    exact restricted
  rw [World.extend_state, cluster]
  rw [left.restricted_iff, prior] at before
  exact owed (kept.owed before)

theorem Owed.edited {status : ClusterStatus} {component : String}
    {conditions : List String} {version : Nat} (owed : Owed cluster)
    (kept : status.version = cluster.status.version)
    (others : restarts status.componentsStatus = restarts cluster.status.componentsStatus)
    (entries : ∀ c, entryOf status.componentsStatus c = if c = component
      then some (upgrading component conditions) else entryOf cluster.status.componentsStatus c) :
    Owed { cluster with resourceVersion := version, status := status } := by
  refine @Owed.of_same cluster { cluster with resourceVersion := version, status := status }
    owed rfl kept others ?_
  intro c x entry busy
  rw [entries]
  split
  · exact ⟨_, rfl, rfl⟩
  · exact ⟨x, entry, busy⟩

/-- While a pool is in progress every call that leaves the custom resource alone
keeps the assertion, also the one that restricts the allocation. -/
theorem During.worked {choice : Choice} {op : Call} (during : During cr w.state)
    (pending : Pending cr) (next : findNextNodePoolForUpgrade cr = some (pool, .inProgress))
    (left : LeftToFinish (w.arrive choice op))
    (cluster : (w.arrive choice op).after.cluster = (w.arrive choice op).before.cluster) :
    During cr (w.extend (w.arrive choice op)).state := by
  have before : During cr (w.arrive choice op).before := lasting_during.disturbed _ left during
  have work := before.work pending
  rw [← cluster] at work
  refine ⟨⟨?_, fun _ => Or.inr ⟨_, work pool next⟩⟩, ?_, fun _ => work, ?_⟩
  · rw [World.extend_state, cluster]
    exact before.entries
  · rw [World.extend_state, cluster]
    exact before.same
  · intro _ done
    cases next.symm.trans done

theorem safe_finishNodePool (next : findNextNodePoolForUpgrade cr = some (pool, .inProgress))
    (w : ApiWorld) (during : During cr w.state) :
    Safe LeftToFinish (fun w => Kept w.state) (finishNodePool pool) (fun _ w => Kept w.state)
      w := by
  apply (lasting_during.reactivate w during).bindNone
  · intro err w ⟨during, free⟩
    exact during.toKept
  intro w ⟨during, free⟩
  have lasting : Lasting (fun s => During cr s ∧ ¬ Restricted s) := lasting_during.free
  apply safe_settleStatus _ (fun w => lasting.kept w.state) lasting.stable
    (fun _ both => both.1.toKept)
    _ ⟨during, free rfl⟩
  intro w e ⟨during, free⟩ prior left unchanged after
  have again := (Upgrade.edit_upgraded during.same during.entries next).1
  refine ⟨?_, fun restricted => absurd ?_ free⟩
  · rw [World.extend_state, after]
    exact again
  rw [World.extend_state, after] at restricted
  rw [← prior]
  exact left.restricted_iff.mp restricted

theorem works_during (undrained : cr.spec.general.drainDataNodes = false) (pending : Pending cr)
    (next : findNextNodePoolForUpgrade cr = some (pool, .inProgress)) :
    Upgrade.Works LeftToFinish (fun w => Kept w.state) (fun w => During cr w.state)
      (fun w => Kept w.state) cr pool where
  implied := fun _ during => during.toKept
  implied' := fun _ kept => kept
  weaken := fun _ during => during.toKept
  stable := lasting_during.stable
  gentle := fun w choice op gentle left during =>
    during.worked pending next left (answer_gentle _ _ gentle).cluster
  gentle' := by
    intro drained
    cases undrained.symm.trans drained
  deletes := fun w choice pod left during =>
    during.worked pending next left ((event_frame _).cluster nofun)
  reports := by
    intro w e conditions during prior left unchanged after
    obtain ⟨again, entries⟩ := Upgrade.conditions_entries during.same during.entries next conditions
    have others := restarts_write (.conditions pool next conditions) w.state.cluster
    exact Kept.written (f := fun cluster => (withConditions pool.component conditions cluster).1)
      during.toKept left prior unchanged after again fun owed => owed.edited rfl others entries
  finished := safe_finishNodePool next

/-- The end of an upgrade: nobody but the restart can owe the setting by then. -/
theorem safe_finishUpgrade (pending : Pending cr) (next : findNextNodePoolForUpgrade cr = none)
    (during : During cr w.state) :
    Safe LeftToFinish (fun w => Kept w.state) (updateStatus Upgrade.finishUpgrade)
      (fun _ w => Kept w.state) w := by
  apply safe_settleStatus _ (fun _ during => during.toKept) lasting_during.stable
    (fun _ during => during.toKept)
    _ during
  intro w e during prior left unchanged after
  have again := (during.entries.removeUpgraders w.state.cluster.spec.nodePools).1
  have others := restarts_write (.finish next) w.state.cluster
  refine ⟨?_, fun restricted => Or.inl ?_⟩
  · rw [World.extend_state, after]
    exact again
  have restarting : Restarting w.state.cluster := by
    rw [World.extend_state, after] at restricted
    exact during.closing pending next (prior ▸ left.restricted_iff.mp restricted)
  rw [World.extend_state, after]
  exact (restarting_congr others).mpr restarting

theorem safe_startNodePool (next : findNextNodePoolForUpgrade cr = some (pool, .pending))
    (during : During cr w.state) :
    Safe LeftToFinish (fun w => Kept w.state)
      (updateComponents (· ++ [upgrading pool.component []])) (fun _ w => Kept w.state) w := by
  apply safe_settleStatus _ (fun _ during => during.toKept) lasting_during.stable
    (fun _ during => during.toKept)
    _ during
  intro w e during prior left unchanged after
  obtain ⟨again, entries⟩ := Upgrade.start_entries during.same during.entries next
  have others := restarts_write (.start pool next) w.state.cluster
  exact Kept.written (f := fun cluster => { cluster.status with componentsStatus :=
      cluster.status.componentsStatus ++ [upgrading pool.component []] })
    during.toKept left prior unchanged after again fun owed => owed.edited rfl others entries

theorem safe_upgradeNodePools {semver : SemverPackage}
    (undrained : cr.spec.general.drainDataNodes = false) (pending : Pending cr) (w : ApiWorld)
    (during : During cr w.state) :
    Safe LeftToFinish (fun w => Kept w.state) (Upgrade.upgradeNodePools semver cr)
      (fun _ w => Kept w.state) w := by
  rw [Upgrade.upgradeNodePools]
  split
  case h_1 pool next =>
    exact (safe_startNodePool next during).bind fun _ _ kept => kept
  case h_2 pool next =>
    have works := works_during undrained pending next
    exact (works.safe_doNodePoolUpgrade w during).bind fun _ _ kept => kept
  case h_3 next =>
    exact (safe_finishUpgrade pending next during).bind fun _ _ kept => kept

theorem During.phase {phase : String} (during : During cr s) (unchanged : s.cluster = cluster) :
    During cr (s.withStatus { cluster.status with phase := phase }) := by
  subst unchanged
  have owed : ∀ {cluster : OpenSearchCluster} {status : ClusterStatus} {version : Nat},
      status.version = cluster.status.version →
      status.componentsStatus = cluster.status.componentsStatus → Owed cluster →
      Owed { cluster with resourceVersion := version, status := status } := by
    intro cluster status version kept entries owed
    refine @Owed.of_same cluster { cluster with resourceVersion := version, status := status }
      owed rfl kept (congrArg restarts entries) ?_
    intro component x entry busy
    refine ⟨x, ?_, busy⟩
    rw [entries]
    exact entry
  exact ⟨⟨during.entries, fun restricted => owed rfl rfl (during.owed restricted)⟩, during.same,
    during.work, during.closing⟩

theorem guides_during (undrained : cr.spec.general.drainDataNodes = false) :
    Upgrade.Guides LeftToFinish (fun w => Kept w.state) (fun w => During cr w.state)
      (fun w => Kept w.state) cr where
  implied := fun _ during => during.toKept
  weaken := fun _ during => during.toKept
  stable := lasting_during.stable
  cleans := by
    intro drained
    cases undrained.symm.trans drained
  phase := by
    intro w e phase during prior left unchanged after
    rw [World.extend_state, after]
    exact (lasting_during.disturbed e left (prior ▸ during)).phase unchanged
  pools := fun pending _ => safe_upgradeNodePools undrained pending

end Upgrades

section Restarts

variable {cr : OpenSearchCluster} {w : ApiWorld}

structure Underway (s : State) : Prop where
  entries : WellKept s.cluster.status.componentsStatus
  restarting : Restarting s.cluster

theorem Underway.kept {s : State} (underway : Underway s) : Kept s :=
  ⟨underway.entries, fun _ => Or.inl underway.restarting⟩

theorem Underway.event {choice : Choice} {op : Call} (underway : Underway w.state)
    (left : LeftToFinish (w.arrive choice op))
    (cluster : (w.arrive choice op).after.cluster = (w.arrive choice op).before.cluster) :
    Underway (w.extend (w.arrive choice op)).state := by
  constructor
  · rw [World.extend_state, cluster]
    exact underway.entries.congr left.entries
  · rw [World.extend_state, cluster]
    exact left.restart underway.restarting

theorem keeps_globalCandidateRollingRestart :
    Keeps LeftToFinish (fun w => Kept w.state) (fun w => Underway w.state)
      (RollingRestart.globalCandidateRollingRestart cr) := by
  apply keeps_of_calls (fun _ underway => underway.kept)
    RollingRestart.restarts_globalCandidateRollingRestart
  intro w choice op restarts left underway
  rcases restarts with gentle | ⟨pod, rfl⟩
  · exact underway.event left (answer_gentle _ _ gentle).cluster
  · exact underway.event left ((event_frame _).cluster nofun)

theorem safe_startRestart (w : ApiWorld) (kept : Kept w.state) :
    Safe LeftToFinish (fun w => Kept w.state) (RollingRestart.startRestart cr)
      (fun _ w => Kept w.state) w := by
  rw [RollingRestart.startRestart]
  split
  · exact kept
  have recorded := @safe_updateComponents LeftToFinish (fun w => Kept w.state)
    (fun w => Kept w.state) (fun w => Underway w.state)
    (RollingRestart.setComponentStatus
      (RollingRestart.restartStatus RollingRestart.statusInProgress)) w
    (fun _ kept => kept) lasting_kept.stable (by
      intro w e kept prior left unchanged after
      constructor
      · rw [World.extend_state, after]
        exact kept.entries.congr (upgraders_setComponentStatus)
      · rw [World.extend_state, after, Restarting, RollingRestart.findStatus_recorded rfl]
        rfl) kept
  apply recorded.bindNone
  · rintro err w ⟨done, either⟩
    exact either.elim id Underway.kept
  rintro w ⟨done, either⟩
  have connects : createClientForCluster.OnlyCalls Reads := onlyCalls_asked rfl
  have connected : Keeps LeftToFinish (fun w => Kept w.state) (fun w => Underway w.state)
      createClientForCluster :=
    keeps_of_calls (fun _ underway => underway.kept) connects fun w choice op reads left
      underway => underway.event left (answer_gentle _ _ (reads.gentle false)).cluster
  apply (connected w (done rfl)).bindOk
  · exact fun _ _ underway => underway.kept
  intro _ w underway
  apply (keeps_globalCandidateRollingRestart w underway).mono
  exact fun _ _ underway => underway.kept

theorem safe_finishRestart (kept : Kept w.state) :
    Safe LeftToFinish (fun w => Kept w.state) (RollingRestart.finishRestart cr)
      (fun _ w => Kept w.state) w := by
  rw [RollingRestart.finishRestart]
  split
  · have connects : createClientForCluster.OnlyCalls Frees :=
      onlyCalls_asked (frees_of_reads rfl)
    apply (lasting_kept.keeps connects w kept).bindOk
    · exact fun _ _ kept => kept
    intro _ w kept
    apply (lasting_kept.reactivate w kept).bindNone
    · rintro err w ⟨kept, free⟩
      exact kept
    rintro w ⟨kept, free⟩
    refine (safe_settleStatus _ (fun _ both => both.1) lasting_kept.free.stable
      (fun _ both => both.1)
      ?_ ⟨kept, free rfl⟩).bind ?_
    · rintro w e ⟨kept, free⟩ prior left unchanged after
      refine ⟨?_, fun restricted => absurd ?_ free⟩
      · rw [World.extend_state, after]
        exact kept.entries.congr (upgraders_setComponentStatus)
      rw [World.extend_state, after] at restricted
      rw [← prior]
      exact left.restricted_iff.mp restricted
    · intro failed w kept
      cases failed <;> exact kept
  · exact kept

theorem safe_restartReconcile (w : ApiWorld) (kept : Kept w.state) :
    Safe LeftToFinish (fun w => Kept w.state) (RollingRestart.reconcile cr)
      (fun _ w => Kept w.state) w := by
  rw [RollingRestart.reconcile]
  split
  · exact kept
  have checks : (RollingRestart.checkNodePools cr cr.spec.nodePools false).OnlyCalls _ :=
    RollingRestart.checks_checkNodePools cr.spec.nodePools false
  apply (lasting_kept.keeps (checks.mono fun _ => frees_of_checks) w kept).bind
  intro result w kept
  rcases result with result | _ | _
  · exact kept
  · exact safe_finishRestart kept
  · exact safe_startRestart w kept

end Restarts

section Pass

theorem safe_afterScaler {cr : OpenSearchCluster}
    (undrained : cr.spec.general.drainDataNodes = false)
    (w : ApiWorld) (during : During cr w.state) :
    Safe LeftToFinish (fun w => Kept w.state) (afterScaler cr) (fun _ w => Kept w.state) w := by
  have kept : ∀ (result : Result × Option Failure) (w : ApiWorld), Kept w.state → Kept w.state :=
    fun _ _ kept => kept
  have entered : ∀ {K : State → Prop}, Lasting K → ∀ (reconciler : ComponentReconciler)
      (w : ApiWorld) choice, LeftToFinish (w.arrive choice (.note (.enter reconciler cr))) →
      K w.state → K (w.extend (w.arrive choice (.note (.enter reconciler cr)))).state :=
    fun lasting _ w choice left holds => lasting.event ⟨nofun, rfl⟩ left holds
  have snapshots : ∀ w, Kept w.state → Safe LeftToFinish (fun w => Kept w.state)
      (delegated .snapshotrepository cr (return ({ requeue := true, requeueAfter := seconds 30 },
        none))) (fun _ w => Kept w.state) w := fun w holds =>
    safe_delegated (fun _ kept => kept) lasting_kept.stable (fun _ kept => kept) kept holds
  have restart : ∀ w, Kept w.state → Safe LeftToFinish (fun w => Kept w.state)
      (component .restart cr (RollingRestart.reconcile cr) (delegated .snapshotrepository cr
        (return ({ requeue := true, requeueAfter := seconds 30 }, none))))
      (fun _ w => Kept w.state) w := fun w holds =>
    safe_component (fun _ kept => kept) (entered lasting_kept .restart)
      safe_restartReconcile snapshots kept holds
  apply safe_delegated (fun _ during => during.toKept) lasting_during.stable (fun w holds => ?_)
    (fun _ _ during => during.toKept) during
  exact safe_component (fun _ during => during.toKept) (entered lasting_during .upgrade)
    (guides_during undrained).safe_reconcile restart kept holds

theorem safe_upgradeRestartPass (w : ApiWorld) (kept : Kept w.state) :
    Safe LeftToFinish (fun w => Kept w.state) upgradeRestartPass (fun _ w => Kept w.state) w := by
  have read : Safe LeftToFinish (fun w => Kept w.state) getOpenSearchCluster (fun reply w =>
      Kept w.state ∧ ∀ cr, reply = .ok cr →
        cr.spec.general.drainDataNodes = false ∧ During cr w.state) w := by
    apply safe_request _ kept
    intro choice e left
    have holds : Kept (w.extend e).state := lasting_kept.event (frees_of_reads rfl) left kept
    refine ⟨holds, fun cr answered => ?_⟩
    obtain ⟨rfl, after⟩ := told_getCluster answered
    refine ⟨left.drain rfl, ?_⟩
    rw [← after]
    exact during_snapshot holds
  apply read.bind
  intro reply w ⟨kept, taken⟩
  cases reply with
  | error err => cases err <;> exact kept
  | ok cr =>
    obtain ⟨undrained, during⟩ := taken cr rfl
    exact safe_afterScaler undrained w during

end Pass

/-- Where no upgrade is called off and no pool leaves the spec while it is upgraded,
shard allocation is restricted only while the restart is in progress or the versions
differ. -/
theorem allocation_not_left_restricted (start : ApiWorld) (passes : List (List Choice))
    (entries : WellKept start.state.cluster.status.componentsStatus)
    (free : ¬ Restricted start.state)
    (left : ∀ e ∈ (runs upgradeRestartPass passes start).past, LeftToFinish e) :
    let s := (runs upgradeRestartPass passes start).state
    s.cluster.status.version = s.cluster.spec.general.version → ¬ Restarting s.cluster →
      ¬ Restricted s := by
  intro s same settled restricted
  have begun : Kept start.state := ⟨entries, fun restricted => absurd restricted free⟩
  have kept : Kept s := runs_keep safe_upgradeRestartPass passes start begun left
  rcases kept.owed restricted with restarting | ⟨_, pending, _⟩
  · exact settled restarting
  · exact pending same.symm

section Scenarios

@[mk_iff]
structure Unedited (e : ApiEvent) : Prop where
  cluster : e.before.cluster = e.prior.cluster
  settings : e.before.settings = e.prior.settings
  undrained : e.before.cluster.spec.general.drainDataNodes = false

instance (e : ApiEvent) : Decidable (Unedited e) :=
  decidable_of_iff' _ (unedited_iff ..)

theorem Unedited.left {e : ApiEvent} (unedited : Unedited e) : LeftToFinish e where
  setting := by rw [unedited.settings]
  entries := by rw [unedited.cluster]
  restart := by
    rw [unedited.cluster]
    exact id
  upgrade := by
    rw [unedited.cluster]
    exact fun _ upgrades => upgrades
  drain := fun _ => unedited.undrained

def dataSet (updated : Int) (revision : String) : StatefulSet where
  name := "logs-data"
  labels := [(clusterLabel, "logs"), (nodePoolLabel, "data")]
  replicas := 1
  selector := []
  podManagementPolicy := .parallel
  volumeClaimTemplates := []
  podTemplate := ""
  podEnv := ""
  deleting := false
  status := ⟨1, 1, 1, updated, "b", revision⟩

def dataPod (revision : String) : Pod where
  name := "logs-data-0"
  labels := [(clusterLabel, "logs"), (nodePoolLabel, "data"), (stsRevisionLabel, revision)]
  deleting := false
  conditions := [(PodReady, ConditionTrue)]

def dueUpgrade : ApiWorld where
  past := []
  state := { Upgrade.twoPools.state with
    statefulSets := Upgrade.twoPools.state.statefulSets.put (dataSet 0 "c") }

def servedPass : List Choice := List.replicate 30 {}

def recreated (s : State) : State :=
  { s with
    statefulSets := s.statefulSets.put (dataSet 1 "c")
    pods := s.pods.put (dataPod "c") }

def calledOff (s : State) : State :=
  { s with
    cluster := { s.cluster with spec.general.version := "2.11.0" }
    statefulSets := s.statefulSets.put (dataSet 1 "b")
    pods := s.pods.put (dataPod "b") }

def completedUpgrade : List (List Choice) :=
  [servedPass, servedPass, { others := recreated } :: servedPass, servedPass, servedPass,
    servedPass]

theorem completed_upgrade_frees_allocation :
    Restricted (runs upgradeRestartPass (completedUpgrade.take 2) dueUpgrade).state ∧
      ¬ Restricted (runs upgradeRestartPass completedUpgrade dueUpgrade).state := by
  refine ⟨by decide, allocation_not_left_restricted dueUpgrade completedUpgrade
    ⟨by decide, by decide⟩ (by decide) ?_ (by decide) (by decide)⟩
  have unedited : ∀ e ∈ (runs upgradeRestartPass completedUpgrade dueUpgrade).past, Unedited e := by
    decide +kernel
  exact fun e member => (unedited e member).left

def UpToDate (s : State) : Prop :=
  ∀ np ∈ s.cluster.spec.nodePools, ∃ sts ∈ s.statefulSets.items,
    sts.name = stsName s.cluster np ∧ sts.status.updatedReplicas = sts.replicas ∧
    sts.status.currentRevision = sts.status.updateRevision ∧
    ∀ i < sts.replicas.toNat, ∃ pod ∈ s.pods.items, pod.name = replicaHostName sts i ∧
      pod.ready = true ∧ pod.labels.get stsRevisionLabel = some sts.status.updateRevision

instance (s : State) : Decidable (UpToDate s) := inferInstanceAs (Decidable (∀ np ∈ _, _))

def calledOffPass : List Choice := { others := calledOff } :: servedPass

/-- An upgrade that is called off after it has deleted a pod leaves the allocation
restricted. No node is outdated then, and no restart comes to put it back. -/
theorem called_off_upgrade_leaves_allocation :
    let abandoned := runs upgradeRestartPass [servedPass, servedPass] dueUpgrade
    let result := (exec upgradeRestartPass calledOffPass abandoned).1
    let after := (exec upgradeRestartPass calledOffPass abandoned).2
    result.map Prod.snd = some none ∧
      after.state.cluster.status.version = after.state.cluster.spec.general.version ∧
      UpToDate after.state ∧ ¬ Restarting after.state.cluster ∧ Restricted after.state ∧
      ∀ e ∈ after.past, e.before.settings = e.prior.settings ∧ e.choice.outcome = .served := by
  decide +kernel

end Scenarios

end OpenSearchOperator.Controllers.ShardAllocation
