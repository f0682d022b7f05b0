import OpenSearchOperator.Controllers.OneDeletion
import OpenSearchOperator.Reconcilers.Cluster

/-! `Reconcile` of the cluster controller, and what its passes delete taken together. -/

namespace OpenSearchOperator.Controllers

open Api Effects Reconcilers

def reconcilePhasePending : Prog (Result × Option Failure) := do
  let err ← updateStatus fun cluster =>
    { cluster.status with phase := Upgrade.phaseRunning, componentsStatus := [] }
  if err.isSome then return ({}, err) else return ({ requeue := true }, none)

/-- For a cluster that is not being deleted and has its finalizer. `enabled` says whether the
process allows the parallel recovery mode. -/
def reconcile (enabled : Bool) : Prog (Result × Option Failure) := do
  match ← getOpenSearchCluster with
  | .error .notFound => return ({}, none)
  | .error err => return ({}, some (.api err))
  | .ok cr =>
    if cr.status.phase = "" ∨ cr.status.phase = "PENDING" then reconcilePhasePending
    else if cr.status.phase = Upgrade.phaseRunning ∨ cr.status.phase = Upgrade.phaseUpgrading then
      reconcilePhaseRunning cr (Cluster.reconcile enabled)
    else return ({ requeue := true, requeueAfter := seconds 30 }, none)

/-- The bootstrap pod is among the objects that are not modelled. -/
theorem cluster_deletes_no_pod (enabled : Bool) (cr : OpenSearchCluster) :
    (Cluster.reconcile enabled cr).OnlyCalls fun op => deletes op = false := by
  have serves : Cluster.Serves fun op => deletes op = false :=
    ⟨fun _ reads => deletes_of_spares reads.spares, fun _ _ => rfl, fun _ _ => rfl, fun _ => rfl⟩
  exact Cluster.onlyCalls_reconcile serves (fun _ => rfl) (fun _ => ⟨rfl, rfl⟩) enabled cr

theorem safe_reconcile_orderly {w : ApiWorld} (enabled : Bool) (orderly : Orderly 0 w) :
    Safe (fun _ => True) AtMostOne (reconcile enabled) (fun _ => AtMostOne) w := by
  have few : ∀ w, Orderly 0 w → AtMostOne w := fun _ orderly => ⟨0, by omega, orderly⟩
  apply (keeps_orderly (by omega) (onlyCalls_asked rfl) w orderly).bind
  intro reply w orderly
  cases reply with
  | error err => cases err <;> exact few w orderly
  | ok cr =>
    dsimp only
    split
    · apply (keeps_orderly (by omega) (spares_updateStatus.mono fun _ => deletes_of_spares)
        w orderly).bind
      intro err w orderly
      cases err <;> exact few w orderly
    split
    · exact safe_reconcilePhaseRunning_orderly (cluster_deletes_no_pod enabled) orderly
    · exact few w orderly

structure Spaced (n : Nat) (past : List ApiEvent) : Prop where
  count : past.countP (fun e => deletes e.op) ≤ n
  checked : Throughout (fun e earlier => deletes e.op = true → ∃ newer older,
    earlier = newer ++ older ∧ HealthChecked newer ∧ ∀ x ∈ newer, deletes x.op = false) past

theorem Spaced.append {m n : Nat} {newer older : List ApiEvent} (first : Spaced m newer)
    (second : Spaced n older) : Spaced (m + n) (newer ++ older) := by
  refine ⟨by grind [first.count, second.count], first.checked.append second.checked ?_⟩
  intro e earlier checked deletion
  obtain ⟨newest, rest, rfl, healthy, none⟩ := checked deletion
  exact ⟨newest, rest ++ older, by simp, healthy, none⟩

theorem spaced_of_justified {past : List ApiEvent}
    (count : past.countP (fun e => deletes e.op) ≤ 1)
    (justified : Throughout (fun e earlier => ∀ pod, e.op = .request (.deletePod pod) →
      Justified pod earlier) past) : Spaced 1 past := by
  refine ⟨count, ?_⟩
  induction past with
  | nil => trivial
  | cons e past ih =>
    rw [List.countP_cons] at count
    refine ⟨fun deletion => ?_, ih (by omega) justified.2⟩
    rw [if_pos deletion] at count
    obtain ⟨pod, same⟩ : ∃ pod, e.op = .request (.deletePod pod) := by
      unfold deletes at deletion
      split at deletion <;> simp_all
    obtain ⟨_, _, _, _, gated, _⟩ := gated_of_justified (justified.1 pod same)
    refine ⟨_, _, List.takeWhile_append_dropWhile.symm, gated.healthy, fun x member => ?_⟩
    have none := List.countP_eq_zero.mp (Nat.le_zero.mp (Nat.le_of_succ_le_succ count))
    simpa using none x ((List.takeWhile_prefix _).subset member)

theorem spaced_exec (enabled : Bool) (choices : List Choice) (start : State) :
    Spaced 1 (exec (reconcile enabled) choices (⟨start, []⟩ : ApiWorld)).2.past := by
  obtain ⟨_, few, orderly⟩ := (safe_reconcile_orderly (w := ⟨start, []⟩) enabled
    ⟨trivial, rfl⟩).always choices fun _ _ => trivial
  exact spaced_of_justified (orderly.count ▸ few) orderly.justified

/-- However the passes of the controller are interleaved with others and cut short, they
delete no more pods than there are passes, and none without a fresh health check. The
bootstrap pod is left aside. -/
theorem deletions_spaced (enabled : Bool) (passes : List (List Choice)) (start : State) :
    Spaced passes.length (runs (reconcile enabled) passes (⟨start, []⟩ : ApiWorld)).past := by
  have whole : ∀ (n : Nat) (w : ApiWorld), Spaced n w.past →
      Spaced (passes.length + n) (runs (reconcile enabled) passes w).past := by
    induction passes with
    | nil => simp [runs]
    | cons choices passes ih =>
      intro n w spaced
      rw [List.length_cons, Nat.add_assoc]
      apply ih
      rw [exec_onto (reconcile enabled) choices w.state w.past]
      exact (spaced_exec enabled choices w.state).append spaced
  exact whole 0 ⟨start, []⟩ ⟨Nat.le_refl 0, trivial⟩

end OpenSearchOperator.Controllers
