import OpenSearchOperator.Reconcilers.RollingRestart
import OpenSearchOperator.Reconcilers.ScalerPass
import OpenSearchOperator.Reconcilers.Upgrade

/-! `reconcilePhaseRunning`: the component reconcilers in their order, until one
fails or wants to be called again. -/

namespace OpenSearchOperator.Controllers

open Api Effects Reconcilers

def initializeAttempt (cr : OpenSearchCluster) : Prog (Option ApiError × OpenSearchCluster) := do
  match ← getOpenSearchCluster with
  | .error err => return (some err, cr)
  | .ok cr =>
    let ready ← allMastersReady cr
    let cr := { cr with status := { cr.status with initialized := ready } }
    match ← updateClusterStatus cr with
    | .error err => return (some err, cr)
    | .ok _ => return (none, { cr with resourceVersion := cr.resourceVersion + 1 })

def updateInitialized (cr : OpenSearchCluster) : Prog (Except Failure OpenSearchCluster) := do
  if cr.status.initialized then return .ok cr
  else
    let (err, cr) ← retryOnConflict initializeAttempt defaultRetry cr
    match err with
    | some err => return .error (.api err)
    | none => return .ok cr

/-- One round of the loop over the component reconcilers. -/
def component (reconciler : ComponentReconciler) (cr : OpenSearchCluster)
    (func rest : Prog (Result × Option Failure)) : Prog (Result × Option Failure) := do
  enter reconciler cr
  let (result, err) ← func
  if err.isSome then return (result, err)
  else if result.requeue then return (result, none)
  else rest

def delegated (reconciler : ComponentReconciler) (cr : OpenSearchCluster)
    (rest : Prog (Result × Option Failure)) : Prog (Result × Option Failure) :=
  component reconciler cr (delegate reconciler) rest

def afterScaler (cr : OpenSearchCluster) : Prog (Result × Option Failure) :=
  delegated .dashboards cr <|
  component .upgrade cr (Upgrade.reconcile cr) <|
  component .restart cr (RollingRestart.reconcile cr) <|
  delegated .snapshotrepository cr <|
  return ({ requeue := true, requeueAfter := seconds 30 }, none)

def fromScaler (cr : OpenSearchCluster) : Prog (Result × Option Failure) := do
  enter .scaler cr
  let ((result, err), snapshot) ← Scaler.reconcile cr
  if err.isSome then return (result, err)
  else if result.requeue then return (result, none)
  else afterScaler { cr with status := { cr.status with componentsStatus := snapshot } }

/-- `cluster` is the cluster reconciler, which by default may answer anything. -/
def reconcilePhaseRunning (cr : OpenSearchCluster)
    (cluster : OpenSearchCluster → Prog (Result × Option Failure) := fun _ => delegate .cluster) :
    Prog (Result × Option Failure) := do
  match ← updateInitialized cr with
  | .error err => return ({}, some err)
  | .ok cr =>
    delegated .tls cr <|
    delegated .securityconfig cr <|
    delegated .config cr <|
    component .cluster cr (cluster cr) <|
    fromScaler cr

def runningPass : Prog (Result × Option Failure) := do
  match ← getOpenSearchCluster with
  | .error .notFound => return ({}, none)
  | .error err => return ({}, some (.api err))
  | .ok cr => reconcilePhaseRunning cr

section Rules

variable {permit : ApiEvent → Prop} {inv K K₁ K₂ : ApiWorld → Prop} {w : ApiWorld}
  {cr : OpenSearchCluster} {post : Result × Option Failure → ApiWorld → Prop}
  {rest : Prog (Result × Option Failure)} {reconciler : ComponentReconciler}

/-- One round: `K` before, `K₁` once the reconciler is entered, `K₂` behind it. -/
theorem safe_component {func : Prog (Result × Option Failure)} (implied : ∀ w, K w → inv w)
    (entered : ∀ w choice, permit (w.arrive choice (.note (.enter reconciler cr))) → K w →
      K₁ (w.extend (w.arrive choice (.note (.enter reconciler cr)))))
    (run : ∀ w, K₁ w → Safe permit inv func (fun _ => K₂) w)
    (next : ∀ w, K₂ w → Safe permit inv rest post w) (done : ∀ result w, K₂ w → post result w)
    (holds : K w) : Safe permit inv (component reconciler cr func rest) post w := by
  have start : Safe permit inv (enter reconciler cr) (fun _ => K₁) w :=
    ⟨implied w holds, fun choice allowed => entered w choice allowed holds⟩
  apply start.bind
  intro _ w ready
  apply (run w ready).bind
  intro ⟨result, err⟩ w behind
  dsimp only
  split
  · exact done _ w behind
  split
  · exact done _ w behind
  · exact next w behind

theorem safe_delegated (implied : ∀ w, K w → inv w) (stable : Stable permit K)
    (next : ∀ w, K w → Safe permit inv rest post w) (done : ∀ result w, K w → post result w)
    (holds : K w) : Safe permit inv (delegated reconciler cr rest) post w := by
  have entered : ∀ w choice, permit (w.arrive choice (.note (.enter reconciler cr))) → K w →
      K (w.extend (w.arrive choice (.note (.enter reconciler cr)))) :=
    fun w choice allowed holds => stable w choice _ allowed holds rfl
  have run : ∀ w, K w → Safe permit inv (delegate reconciler) (fun _ => K) w :=
    fun w holds => safe_reads (onlyCalls_asked rfl) stable implied holds
  exact safe_component implied entered run next done holds

end Rules

end OpenSearchOperator.Controllers
