import OpenSearchOperator.Api.Served
import OpenSearchOperator.Controllers.Running
import OpenSearchOperator.Reconcilers.Deletion
import OpenSearchOperator.Reconcilers.ScaleDown

/-! What is left of the pools' wishes to be called again when the scaler is done
with its loop. -/

namespace OpenSearchOperator.Reconcilers.Scaler

open Api Data Effects
open Helpers

variable {cr : OpenSearchCluster} {nodePools : List NodePool} {results : CombinedResult}

abbrev PoolResult := Bool × Option Failure

def poolResults (cr : OpenSearchCluster) :
    List NodePool → List ComponentStatus → Prog (List PoolResult × List ComponentStatus)
  | [], snapshot => return ([], snapshot)
  | nodePool :: nodePools, snapshot => do
      let (result, snapshot) ← reconcileNodePool cr snapshot nodePool
      let (rest, snapshot) ← poolResults cr nodePools snapshot
      return (result :: rest, snapshot)

/-- The variables of the loop after the calls. -/
def gather : List PoolResult → Bool → CombinedResult → Bool × CombinedResult
  | [], requeue, results => (requeue, results)
  | (requeue, err) :: rest, _, results =>
    gather rest requeue
      (if err.isSome then results.combine (some { requeue := requeue }) err else results)

def afterPools (cr : OpenSearchCluster) (pools : List PoolResult) :
    Prog (Result × Option Failure) := do
  let (requeue, results) := gather pools false {}
  let results := results.combine (some { requeue := requeue }) none
  match ← nodePoolsReady cr cr.spec.nodePools with
  | .error err =>
    let results := results.combine (some {}) (some (.api err))
    return (results.result, results.err)
  | .ok false =>
    let results := results.combine
      (some { requeue := true, requeueAfter := seconds 15 }) none
    return (results.result, results.err)
  | .ok true =>
    let results ← cleanupStatefulSets cr results
    return (results.result, results.err)

theorem reconcileNodePools_eq {snapshot : List ComponentStatus} {requeue : Bool} :
    reconcileNodePools cr nodePools snapshot requeue results =
      (poolResults cr nodePools snapshot >>= fun pools =>
        return (gather pools.1 requeue results, pools.2)) := by
  induction nodePools generalizing snapshot requeue results with
  | nil => rfl
  | cons nodePool nodePools ih =>
    rw [reconcileNodePools, poolResults, Program.bind_assoc]
    congr 1
    funext result
    simp only [ih, Program.bind_assoc]
    rfl

theorem reconcilePools_eq (cr : OpenSearchCluster) : reconcilePools cr =
      (poolResults cr cr.spec.nodePools cr.status.componentsStatus >>= fun pools =>
        afterPools cr pools.1 >>= fun result => return (result, pools.2)) := by
  rw [reconcilePools, reconcileNodePools_eq, Program.bind_assoc]
  congr 1
  funext pools
  simp only [afterPools, Program.bind_assoc]
  change (nodePoolsReady cr cr.spec.nodePools >>= _) = _
  congr 1
  funext ready
  rcases ready with err | _ | _
  · rfl
  · rfl
  · rw [Program.bind_assoc]
    rfl

def Unfinished (result : Result) (err : Option Failure) : Prop :=
  result.requeue = true ∨ err.isSome = true

instance (result : Result) (err : Option Failure) : Decidable (Unfinished result err) :=
  inferInstanceAs (Decidable (_ ∨ _))

/-- The main loop stops behind the scaler just where its work is unfinished. -/
theorem fromScaler_eq (cr : OpenSearchCluster) : Controllers.fromScaler cr =
    (enter .scaler cr >>= fun _ => reconcile cr >>= fun returned =>
      if Unfinished returned.1.1 returned.1.2 then return returned.1
      else Controllers.afterScaler
        { cr with status := { cr.status with componentsStatus := returned.2 } }) := by
  rw [Controllers.fromScaler]
  congr 1
  funext _
  congr 1
  funext returned
  obtain ⟨⟨⟨requeue, after⟩, err⟩, snapshot⟩ := returned
  cases requeue <;> cases err <;> rfl

theorem combine_unfinished (results : CombinedResult) (sub : Result) (err : Option Failure) :
    Unfinished (results.combine (some sub) err).result (results.combine (some sub) err).err ↔
      Unfinished results.result results.err ∨ Unfinished sub err := by
  obtain ⟨result, failed⟩ := results
  cases failed <;> cases err <;>
    simp [Unfinished, CombinedResult.combine, CombinedResult.combineErr]

def lastRequeue (pools : List PoolResult) (requeue : Bool) : Bool :=
  (pools.getLast?.map Prod.fst).getD requeue

theorem gather_unfinished (pools : List PoolResult) (requeue : Bool) (results : CombinedResult) :
    (gather pools requeue results).1 = lastRequeue pools requeue ∧
    (Unfinished (gather pools requeue results).2.result (gather pools requeue results).2.err ↔
      Unfinished results.result results.err ∨ ∃ pool ∈ pools, pool.2.isSome = true) := by
  induction pools generalizing requeue results with
  | nil => simp [gather, lastRequeue]
  | cons pool pools ih =>
    obtain ⟨asked, err⟩ := pool
    rw [gather, (ih _ _).1, (ih _ _).2]
    constructor
    · cases pools <;> simp [lastRequeue, List.getLast?_cons]
    cases err with
    | none => simp
    | some err =>
      rw [if_pos (by rfl), combine_unfinished]
      simp [Unfinished]

def threeReady (pool : String) : StatefulSet :=
  { name := "logs-" ++ pool, labels := [(clusterLabel, "logs"), (nodePoolLabel, pool)]
    replicas := 3, selector := [], podManagementPolicy := .parallel
    volumeClaimTemplates := [], podTemplate := "", podEnv := "", deleting := false
    status := ⟨3, 3, 3, 3, "a", "a"⟩ }

theorem ready_of_returns {α : Type} {expected : α → Prop} {rest : Except ApiError Bool → Prog α}
    (returns : (nodePoolsReady cr nodePools >>= rest).Returns expected) :
    (rest (.ok true)).Returns expected := by
  induction nodePools with
  | nil => exact returns
  | cons nodePool nodePools ih =>
    exact ih (returns (.ok (threeReady "")))

theorem unfinished_removeUnlisted (listed : List StatefulSet) (results : CombinedResult)
    (unfinished : Unfinished results.result results.err) :
    (removeUnlisted cr listed results).Returns fun results =>
      Unfinished results.result results.err := by
  induction listed generalizing results with
  | nil => exact unfinished
  | cons sts listed ih =>
    rw [removeUnlisted]
    split
    · exact ih results unfinished
    apply Program.returns_bind _ _ (Program.returns_any _)
    rintro ⟨sub, err⟩ _
    apply ih
    cases sub with
    | some sub => exact (combine_unfinished results sub err).mpr (Or.inl unfinished)
    | none =>
      obtain ⟨result, failed⟩ := results
      cases failed <;> cases err <;>
        simp_all [Unfinished, CombinedResult.combine, CombinedResult.combineErr]

theorem unfinished_cleanupStatefulSets (unfinished : Unfinished results.result results.err) :
    (cleanupStatefulSets cr results).Returns fun results =>
      Unfinished results.result results.err := by
  intro reply
  cases reply with
  | error err => exact (combine_unfinished _ _ _).mpr (Or.inl unfinished)
  | ok listed => exact unfinished_removeUnlisted listed results unfinished

theorem returns_afterPools {pools : List PoolResult} :
    (afterPools cr pools).Returns (fun result => Unfinished result.1 result.2) ↔
      lastRequeue pools false = true ∨ ∃ pool ∈ pools, pool.2.isSome = true := by
  have gathered := gather_unfinished pools false {}
  have behind : ∀ results : CombinedResult,
      results = (gather pools false {}).2.combine
        (some { requeue := (gather pools false {}).1 }) none →
      (Unfinished results.result results.err ↔
        lastRequeue pools false = true ∨ ∃ pool ∈ pools, pool.2.isSome = true) := by
    rintro _ rfl
    rw [combine_unfinished, gathered.2, gathered.1]
    simp [Unfinished, or_comm]
  rw [← behind _ rfl]
  constructor
  · intro returns
    -- All pools are ready, and there is nothing to clean up.
    exact ready_of_returns returns (.ok [])
  · intro unfinished
    apply Program.returns_bind _ _ (Program.returns_any _)
    intro ready _
    match ready with
    | .error err => exact (combine_unfinished _ _ _).mpr (Or.inl unfinished)
    | .ok false => exact (combine_unfinished _ _ _).mpr (Or.inl unfinished)
    | .ok true =>
      exact Program.returns_bind _ _ (unfinished_cleanupStatefulSets unfinished)
        fun _ unfinished => unfinished

/-- `Reconcile` is its calls of `reconcileNodePool` and what it makes of their results. It
is certain to report that a pool asked to be called again just where the last pool
asked for it or some pool failed. -/
theorem requeue_reported_iff (cr : OpenSearchCluster) : reconcilePools cr =
        (poolResults cr cr.spec.nodePools cr.status.componentsStatus >>= fun pools =>
          afterPools cr pools.1 >>= fun result => return (result, pools.2)) ∧
      ∀ pools : List PoolResult, ((∃ pool ∈ pools, pool.1 = true) →
            (afterPools cr pools).Returns fun result => Unfinished result.1 result.2) ↔
          ((∃ pool ∈ pools, pool.1 = true) →
            lastRequeue pools false = true ∨ ∃ pool ∈ pools, pool.2.isSome = true) := by
  refine ⟨reconcilePools_eq cr, fun pools => ?_⟩
  rw [returns_afterPools]

def twoPools : State :=
  { threeNodes.state with
    cluster := { threeNodes.state.cluster with
      spec := { threeNodes.state.cluster.spec with nodePools :=
        [⟨"data", 2, ["data"], none, 1, "", ""⟩, ⟨"cold", 3, ["data"], none, 1, "", ""⟩] } }
    statefulSets := (Store.empty.put (threeReady "data")).put (threeReady "cold") }

/-- The first pool excludes a node and asks to be called again. The scaler reports no
unfinished work, and the main loop goes on to the restart. -/
theorem first_requeue_lost :
    (followServed (poolResults twoPools.cluster twoPools.cluster.spec.nodePools []) twoPools).1.1 =
      [(true, none), (false, none)] ∧
    (followServed (reconcile twoPools.cluster) twoPools).1.1 = ({}, none) ∧
    ∃ e ∈ (exec (S := server) (Controllers.fromScaler twoPools.cluster) (.replicate 40 served)
      ⟨twoPools, []⟩).2.past, (enters e.op).map Prod.fst = some .restart := by
  decide

end OpenSearchOperator.Reconcilers.Scaler
