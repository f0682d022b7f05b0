import OpenSearchOperator.Api.Rules

/-! Waiting for StatefulSets to come and go. -/

namespace OpenSearchOperator.Helpers

open Api Effects

/-- `wait.PollUntilContextTimeout`, with the first look at once. A look that takes
so long that the deadline passes ends the wait as one that fails does. -/
def pollUntil {α : Type} (condition : Prog (Except ApiError (Option α))) :
    Nat → Prog (Except Failure α)
  | 0 => return .error (.text "context deadline exceeded")
  | looks + 1 => do
      match ← condition with
      | .error err => return .error (.api err)
      | .ok (some value) => return .ok value
      | .ok none => pollUntil condition looks

/-- A look every `updateStepTime` of 2 seconds for `stsUpdateWaitTime`, 30 seconds. -/
def stsUpdateLooks : Nat := 16

def statefulSetGone (name : String) : Prog (Except ApiError (Option Unit)) := do
  match ← getStatefulSet name with
  | .error .notFound => return .ok (some ())
  | .error err => return .error err
  | .ok _ => return .ok none

def waitForSTSDelete (obj : StatefulSet) : Prog (Except Failure Unit) := do
  match ← deleteStatefulSet obj.name .orphan with
  | .error err => return .error (.api err)
  | .ok _ => pollUntil (statefulSetGone obj.name) stsUpdateLooks

def hasReplicas (name : String) (replicas : Int) : Prog (Except ApiError (Option Unit)) := do
  match ← getStatefulSet name with
  | .error .notFound => return .ok none
  | .error err => return .error err
  | .ok existing => return .ok (if existing.status.replicas ≥ replicas then some () else none)

def waitForSTSReplicas (obj : StatefulSet) (replicas : Int) : Prog (Except Failure Unit) :=
  pollUntil (hasReplicas obj.name replicas) stsUpdateLooks

def hasStatus (name : String) : Prog (Except ApiError (Option StatefulSet)) := do
  match ← getStatefulSet name with
  | .error .notFound => return .ok none
  | .error err => return .error err
  | .ok existing =>
    return .ok (if existing.status.currentRevision ≠ "" then some existing else none)

def waitForSTSStatus (obj : StatefulSet) : Prog (Except Failure StatefulSet) :=
  pollUntil (hasStatus obj.name) stsUpdateLooks

def getSTSForNodePool (cr : OpenSearchCluster) (nodePool : NodePool) :
    Prog (Except ApiError StatefulSet) :=
  getStatefulSet (stsName cr nodePool)

def deleteSTSForNodePool (cr : OpenSearchCluster) (nodePool : NodePool) :
    Prog (Except Failure Unit) := do
  match ← getSTSForNodePool cr nodePool with
  | .error .notFound => return .ok ()
  | .error err => return .error (.api err)
  | .ok sts =>
    match ← deleteStatefulSet sts.name .foreground with
    | .error err => return .error (.api err)
    | .ok _ => pollUntil (statefulSetGone sts.name) stsUpdateLooks

section Rules

variable {α : Type} {permit : ApiEvent → Prop} {inv K : ApiWorld → Prop}
  {condition : Prog (Except ApiError (Option α))} {name : String}

theorem onlyCalls_pollUntil {allowed : Call → Prop}
    (each : condition.OnlyCalls allowed) {looks : Nat} :
    (pollUntil condition looks).OnlyCalls allowed := by
  induction looks with
  | zero => trivial
  | succ looks ih =>
    apply each.bind
    intro answer
    match answer with
    | .error err => trivial
    | .ok (some value) => trivial
    | .ok none => exact ih

/-- What every look says about a value it accepts holds of the value waited for. -/
theorem safe_pollUntil {good : α → Prop} (each : ∀ w, K w → Safe permit inv condition
      (fun answer w => K w ∧ ∀ value, answer = .ok (some value) → good value) w)
    (looks : Nat) (w : ApiWorld) (holds : K w) : Safe permit inv (pollUntil condition looks)
      (fun result w => K w ∧ ∀ value, result = .ok value → good value) w := by
  induction looks generalizing w with
  | zero => exact ⟨holds, nofun⟩
  | succ looks ih =>
    apply (each w holds).bind
    intro answer w ⟨kept, accepted⟩
    match answer, accepted with
    | .error err, _ => exact ⟨kept, nofun⟩
    | .ok none, _ => exact ih w kept
    | .ok (some value), accepted =>
      refine ⟨kept, ?_⟩
      intro other same
      cases same
      exact accepted value rfl

/-- A StatefulSet that is waited for was stored under its name when it was last read. -/
theorem safe_waitForSTSStatus (obj : StatefulSet) {good : StatefulSet → Prop}
    (stored : ∀ w sts, K w → Witnessed permit w.state →
      w.state.statefulSets.get obj.name = some sts → good sts)
    (implied : ∀ w, K w → inv w) (stable : Stable permit K) {w : ApiWorld} (holds : K w) :
    Safe permit inv (waitForSTSStatus obj)
      (fun result w => K w ∧ ∀ sts, result = .ok sts → good sts) w := by
  have look : ∀ w, K w → Safe permit inv (hasStatus obj.name)
      (fun answer w => K w ∧ ∀ sts, answer = .ok (some sts) → good sts) w := by
    intro w holds
    apply (safe_getStatefulSet obj.name stable implied holds).bind
    intro reply w ⟨kept, witnessed, answered⟩
    rcases answered with ⟨err, rfl, _⟩ | ⟨sts, rfl, there⟩
    · have nothing : ∀ answer : Except ApiError (Option StatefulSet),
          (∀ sts, answer ≠ .ok (some sts)) → ∀ sts, answer = .ok (some sts) → good sts :=
        fun _ never sts accepted => absurd accepted (never sts)
      cases err <;> exact ⟨kept, nothing _ (by simp)⟩
    · refine ⟨kept, ?_⟩
      intro other accepted
      by_cases known : sts.status.currentRevision ≠ ""
      · rw [if_pos known] at accepted
        cases accepted
        exact stored w _ kept witnessed there
      · rw [if_neg known] at accepted
        cases accepted
  exact safe_pollUntil look stsUpdateLooks w holds

theorem inquires_statefulSetGone : (statefulSetGone name).OnlyCalls Inquires := by
  refine onlyCalls_ask rfl fun reply => ?_
  match reply with
  | .ok _ => trivial
  | .error err => cases err <;> trivial

theorem reads_hasReplicas {replicas : Int} : (hasReplicas name replicas).OnlyCalls Reads := by
  refine onlyCalls_ask rfl fun reply => ?_
  match reply with
  | .ok _ => trivial
  | .error err => cases err <;> trivial

theorem reads_hasStatus : (hasStatus name).OnlyCalls Reads := by
  refine onlyCalls_ask rfl fun reply => ?_
  match reply with
  | .ok _ => trivial
  | .error err => cases err <;> trivial

end Rules

end OpenSearchOperator.Helpers
