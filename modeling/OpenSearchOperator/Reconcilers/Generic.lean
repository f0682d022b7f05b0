import OpenSearchOperator.Reconcilers.Resource

/-! The generic resource reconciler, for any kind of object: an object is created if
it is not there, and updated if it differs from what is desired. -/

namespace OpenSearchOperator.Reconcilers

open Api Effects

variable {desired : StatefulSet}

/-- What the reconciler uses of a kind of objects. `merge` adds the labels and the
annotations of the current object to the desired one, `setVersion` gives it the
version of the current one, and `created` is what the client makes of an object that
it created. -/
structure Kind (I : Interface) where
  Object : Type
  get : Object → Program I (Except ApiError Object)
  create : Object → Program I (Except ApiError Unit)
  update : Object → Program I (Except ApiError Unit)
  calculatePatch : Object → Object → Program I (Except Failure Bool)
  deleting : Object → Bool
  merge : Object → Object → Object
  setVersion : Object → Object → Object
  created : Object → Object

namespace Kind

variable {I : Interface} (kind : Kind I)

def createIfNotExist (desired : kind.Object) : Program I (Except Failure (Option kind.Object)) := do
  match ← kind.get desired with
  | .ok current => return .ok (some current)
  | .error .notFound =>
    match ← kind.create desired with
    | .error err => return .error (.api err)
    | .ok _ => return .ok none
  | .error err => return .error (.api err)

def updateExisting (current desired : kind.Object) :
    Program I (Option Result × Option Failure × kind.Object) := do
  let desired := kind.merge desired current
  match ← kind.calculatePatch current desired with
  | .ok true => return (none, none, desired)
  | _ =>
    let desired := kind.setVersion desired current
    match ← kind.update desired with
    | .error .immutable => return (none, some .immutableFieldChange, desired)
    | .error err => return (none, some (.api err), desired)
    | .ok _ => return (none, none, desired)

def reconcilePresent (desired : kind.Object) :
    Program I (Option Result × Option Failure × kind.Object) := do
  match ← kind.createIfNotExist desired with
  | .error err => return (none, some err, desired)
  | .ok none => return (none, none, kind.created desired)
  | .ok (some current) =>
    if kind.deleting current then return (some { requeueAfter := seconds 2 }, none, desired)
    else kind.updateExisting current desired

end Kind

abbrev statefulSetKind : Kind api where
  Object := StatefulSet
  get := fun desired => getStatefulSet desired.name
  create := createStatefulSet
  update := updateStatefulSet
  calculatePatch := calculatePatch
  deleting := StatefulSet.deleting
  merge := fun desired current => { desired with labels := desired.labels.merge current.labels }
  setVersion := fun desired _ => { desired with versioned := true }
  created := fun desired => { desired with versioned := true }

theorem createIfNotExist_eq :
    createIfNotExist desired = statefulSetKind.createIfNotExist desired := by
  apply congrArg (getStatefulSet desired.name >>= ·)
  funext reply
  cases reply with
  | ok current => rfl
  | error err => cases err <;> rfl

theorem updateExisting_eq {current : StatefulSet} :
    updateExisting current desired = statefulSetKind.updateExisting current desired := by
  apply congrArg (calculatePatch current _ >>= ·)
  funext reply
  match reply with
  | .ok true => rfl
  | .ok false =>
    apply congrArg (updateStatefulSet _ >>= ·)
    funext reply
    cases reply with
    | ok _ => rfl
    | error err => cases err <;> rfl
  | .error _ =>
    apply congrArg (updateStatefulSet _ >>= ·)
    funext reply
    cases reply with
    | ok _ => rfl
    | error err => cases err <;> rfl

theorem reconcileResource_present (desired : StatefulSet) :
    reconcileResource desired .present = statefulSetKind.reconcilePresent desired := by
  rw [reconcileResource, Kind.reconcilePresent, createIfNotExist_eq]
  apply congrArg (statefulSetKind.createIfNotExist desired >>= ·)
  funext reply
  match reply with
  | .error err => rfl
  | .ok none => rfl
  | .ok (some current) =>
    dsimp only
    rw [updateExisting_eq]

end OpenSearchOperator.Reconcilers
