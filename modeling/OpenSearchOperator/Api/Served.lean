import OpenSearchOperator.Api.Rules
import OpenSearchOperator.Effects.Follow

/-! What programs do when nobody else acts and every call is served. -/

namespace OpenSearchOperator.Api

open Data Effects

def served : Choice := {}

theorem disturb_served {s : State} : disturb served s = s := by
  simp [disturb, served]

def followServed {α : Type} (program : Prog α) (s : State) : α × State :=
  follow (S := server) served program s

variable {α β : Type} {program : Prog α} {s : State}

@[simp] theorem followServed_pure (value : α) (s : State) :
    followServed (pure value) s = (value, s) := rfl

theorem followServed_bind (program : Prog α) (rest : α → Prog β) (s : State) :
    followServed (program >>= rest) s =
      followServed (rest (followServed program s).1) (followServed program s).2 :=
  follow_bind (S := server) served program rest s

theorem followServed_request {req : Request} : followServed (request req) s = serve s req := by
  change answer served (disturb served s) (.request req) = serve s req
  rw [disturb_served]
  rfl

theorem followServed_calculatePatch (current desired : StatefulSet) (s : State) :
    followServed (calculatePatch current desired) s = (.ok (samePatch current desired), s) := by
  change answer served (disturb served s) (.calculatePatch current desired) = _
  rw [disturb_served]
  rfl

theorem followServed_reads (only : program.OnlyCalls Reads) : (followServed program s).2 = s := by
  let K := fun t : State => t = s
  have kept : ∀ (t : State) (op : Call), Reads op → K t →
      K (answer served (disturb served t) op).2 := by
    intro t op reads same
    rw [disturb_served, same]
    exact reads.quiet served s
  exact follow_keeps (S := server) (K := K) served only kept rfl

theorem followServed_statefulSets (only : program.OnlyCalls (Leaves .statefulSets)) :
    (followServed program s).2.statefulSets = s.statefulSets := by
  let K := fun t : State => t.statefulSets = s.statefulSets
  have kept : ∀ (t : State) (op : Call), Leaves .statefulSets op → K t →
      K (answer served (disturb served t) op).2 := by
    intro t op leaves same
    rw [disturb_served]
    exact ((answer_frame served t op).statefulSets leaves).trans same
  exact follow_keeps (S := server) (K := K) served only kept rfl

theorem followServed_pods (only : program.OnlyCalls (Leaves .pods)) :
    (followServed program s).2.pods = s.pods := by
  let K := fun t : State => t.pods = s.pods
  have kept : ∀ (t : State) (op : Call), Leaves .pods op → K t →
      K (answer served (disturb served t) op).2 := by
    intro t op leaves same
    rw [disturb_served]
    exact ((answer_frame served t op).pods leaves).trans same
  exact follow_keeps (S := server) (K := K) served only kept rfl

theorem followServed_updateStatus (f : OpenSearchCluster → ClusterStatus) (s : State) :
    followServed (updateStatus f) s = (none, s.withStatus (f s.cluster)) := by
  let closure : Unit → OpenSearchCluster → ClusterStatus × Unit := fun _ cluster => (f cluster, ())
  have attempt : followServed (updateStatusAttempt closure ()) s =
      ((none, ()), s.withStatus (f s.cluster)) := by
    rw [updateStatusAttempt, followServed_bind, followServed_request, serve]
    rw [followServed_bind, followServed_request, serve, if_pos rfl]
    rfl
  have retried : followServed (retryOnConflict (updateStatusAttempt closure) defaultRetry ()) s =
      ((none, ()), s.withStatus (f s.cluster)) := by
    rw [defaultRetry, retryOnConflict, followServed_bind, attempt]
    rfl
  rw [updateStatus, updateOpenSearchClusterStatus, followServed_bind, followServed_bind, retried]
  rfl

section Deletions

variable {rest : α → Prog β}

def deletedPod : Call → Option String
  | .request (.deletePod name) => some name
  | _ => none

def deletedPods (program : Prog α) (s : State) : List String :=
  (followCalls (S := server) served program s).filterMap deletedPod

theorem deletedPods_bind : deletedPods (program >>= rest) s = deletedPods program s ++
      deletedPods (rest (followServed program s).1) (followServed program s).2 := by
  rw [deletedPods, followCalls_bind, List.filterMap_append]
  rfl

theorem deletedPod_spares {op : Call} (spares : Spares op) : deletedPod op = none := by
  cases op with
  | request req => cases req <;> first | rfl | cases spares
  | _ => rfl

theorem deletedPods_spares (only : program.OnlyCalls Spares) : deletedPods program s = [] :=
  List.filterMap_eq_nil_iff.mpr fun op member =>
    deletedPod_spares (followCalls_allowed (S := server) served only s op member)

theorem deletedPods_after (only : program.OnlyCalls Spares) {value : α}
    {t : State} (result : followServed program s = (value, t)) :
    deletedPods (program >>= rest) s = deletedPods (rest value) t := by
  rw [deletedPods_bind, deletedPods_spares only, result]
  rfl

end Deletions

end OpenSearchOperator.Api
