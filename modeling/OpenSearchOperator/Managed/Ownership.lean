import Mathlib.Tactic.MkIffOfInductiveProp
import OpenSearchOperator.Managed.GuardedRules

/-! Roles, tenants and action groups. Their object has one name for good, so the flag in the
status says of one object whether it was there before; it is stored before the object is
first written. -/

namespace OpenSearchOperator.Managed.Ownership

open Api Effects
open Security (ReferredCluster Verdict failed)
open Managed.Guarded

variable {Spec Doc : Type}

inductive OwnedKind where
  | role
  | tenant
  | actionGroup
  deriving DecidableEq, Repr

def OwnedKind.kind (owned : OwnedKind) (name : String) (document : Spec → Doc) :
    GuardedKind Spec Doc :=
  match owned with
  | .role => rolesKind name document
  | .tenant => tenantsKind name document
  | .actionGroup => actionGroupsKind name document

theorem OwnedKind.objectName_kind (owned : OwnedKind) (name : String) (document : Spec → Doc)
    (spec : Spec) : (owned.kind name document).objectName spec = name := by
  cases owned <;> rfl

variable [DecidableEq Spec] {returned : String → Doc → Doc}

@[mk_iff]
structure Undisturbed (name : String) (e : ManagedEvent Spec returned) : Prop where
  object : e.before.objects name = e.prior.objects name
  flag : Alone ObjectStatus.existing e

/-- What the flag allows the object to be: as it was originally while the flag is unset, and
anything once the flag says that it was not there. -/
def Allowed (original : Option (StoredObject Doc)) : Option Bool → Option (StoredObject Doc) → Prop
  | none, object => object = original
  | some existing, object => existing = original.isSome ∧ (existing = true → object = original)

/-- The flag has this value and is right, and an object that was there has never been the
target of a write. -/
structure Stage (name : String) (original : Option (StoredObject Doc)) (flag : Option Bool)
    (w : ManagedRun Spec returned) : Prop where
  flagged : ∀ r ∈ w.state.resource, r.status.existing = flag
  object : Allowed original flag (w.state.objects name)
  history : original.isSome = true → ∀ e ∈ w.past, e.op.target ≠ some name

variable {name : String} {original : Option (StoredObject Doc)} {flag : Option Bool}
  {w : ManagedRun Spec returned}

section Steps

variable {choice : ManagedChoice Spec Doc} {op : Call Spec Doc}

theorem Stage.before (stage : Stage name original flag w)
    (undisturbed : Undisturbed name (w.arrive choice op)) :
    (∀ r ∈ (w.arrive choice op).before.resource, r.status.existing = flag) ∧
      Allowed original flag ((w.arrive choice op).before.objects name) := by
  constructor
  · intro r there
    obtain ⟨earlier, present, same⟩ := undisturbed.flag r there
    exact same.trans (stage.flagged earlier present)
  · rw [undisturbed.object]
    exact stage.object

/-- An event that writes the object only if it was not there originally. -/
theorem Stage.extend (stage : Stage name original flag w) {e : ManagedEvent Spec returned}
    {later : Option Bool} (flagged : ∀ r ∈ e.after.resource, r.status.existing = later)
    (object : Allowed original later (e.after.objects name))
    (harmless : original.isSome = true → e.op.target ≠ some name) :
    Stage name original later (w.extend e) := by
  refine ⟨flagged, object, fun there x happened => ?_⟩
  rcases List.mem_cons.mp happened with rfl | earlier
  · exact harmless there
  · exact stage.history there x earlier

theorem Stage.read (stage : Stage name original flag w)
    (undisturbed : Undisturbed name (w.arrive choice op)) (resource : op.writesResource = false)
    (object : op.target ≠ some name) :
    Stage name original flag (w.extend (w.arrive choice op)) := by
  obtain ⟨flagged, allowed⟩ := stage.before undisturbed
  apply stage.extend _ _ fun _ => object
  · rw [arrive_resource resource]
    exact flagged
  · rw [arrive_objects object]
    exact allowed

/-- An object that was not there originally may be written once that is stored. -/
theorem Stage.write (stage : Stage name original (some false) w)
    (undisturbed : Undisturbed name (w.arrive choice op)) (resource : op.writesResource = false) :
    Stage name original (some false) (w.extend (w.arrive choice op)) := by
  obtain ⟨flagged, allowed⟩ := stage.before undisturbed
  refine stage.extend ?_ ⟨allowed.1, nofun⟩ fun there => ?_
  · rw [arrive_resource resource]
    exact flagged
  · exact absurd (allowed.1.trans there) nofun

theorem guards_stage {kind : GuardedKind Spec Doc} (fixed : ∀ spec, kind.objectName spec = name) :
    Guards kind (Undisturbed name) (fun other flag (w : ManagedRun Spec returned) =>
      other = name ∧ Stage name original flag w) fun _ existing => existing = original.isSome where
  alone _ undisturbed := undisturbed.flag
  flagged ready := ready.2.flagged
  named ready _ := ⟨fixed _, ready.2⟩
  start undisturbed ready := ⟨name, rfl, ready.2.read undisturbed rfl nofun⟩
  call := by
    rintro other flag w choice op undisturbed ⟨rfl, stage⟩ _ resource (reads | ⟨_, rfl⟩)
    · exact ⟨rfl, stage.read undisturbed resource (reads ▸ nofun)⟩
    · exact ⟨rfl, stage.write undisturbed resource⟩
  resource := by
    rintro flag w choice resource undisturbed ⟨named, stage⟩
    obtain ⟨flagged, allowed⟩ := stage.before undisturbed
    refine ⟨named, stage.extend ?_ ?_ fun _ => nofun⟩
    · intro r there
      obtain ⟨stored, present, same, _⟩ := answer_updateResource r there
      rw [same]
      exact flagged stored present
    · rw [arrive_objects]
      · exact allowed
      · nofun
  status := by
    rintro other flag later w choice resource undisturbed ⟨rfl, stage⟩ flagged turns
    obtain ⟨_, allowed⟩ := stage.before undisturbed
    refine ⟨rfl, stage.extend flagged ?_ fun _ => nofun⟩
    rw [arrive_objects]
    · cases turns with
      | kept => exact allowed
      | set unset told =>
        subst unset
        exact ⟨told, fun _ => allowed⟩
    · nofun
  told := by
    rintro other w choice response undisturbed ⟨rfl, stage⟩ told
    -- an unset flag means that the object is as it was originally
    have object := (stage.before undisturbed).2
    obtain ⟨told, _⟩ := answered told
    cases told
    rw [Option.isSome_map]
    exact congrArg Option.isSome object

end Steps

section Removal

def Serving (e : ManagedEvent Spec returned) : Prop :=
  ∃ cluster ∈ e.before.cluster, cluster.deleting = false

abbrev Steady (name : String) (e : ManagedEvent Spec returned) : Prop :=
  Undisturbed name e ∧ Serving e

def Gone (name : String) (w : ManagedRun Spec returned) : Prop := w.state.objects name = none

theorem Gone.extend (gone : Gone name w) {choice : ManagedChoice Spec Doc} {op : Call Spec Doc}
    (undisturbed : Undisturbed name (w.arrive choice op)) (object : op.target ≠ some name) :
    Gone name (w.extend (w.arrive choice op)) := by
  rw [Gone, World.extend_state, arrive_objects object, undisturbed.object]
  exact gone

theorem steady_getCluster (stage : Stage name none flag w) :
    Ends (Steady name) (ask .getCluster) (fun reply w =>
      Stage name none flag w ∧ reply ≠ .error .notFound ∧
        ∀ cluster, reply = .ok cluster → cluster.deleting = false) w := by
  refine ⟨trivial, fun choice ⟨undisturbed, cluster, there, stays⟩ => ?_⟩
  obtain ⟨present, same⟩ := answer_getCluster there
  refine ⟨stage.read undisturbed rfl nofun, present, fun other told => ?_⟩
  rw [same other told]
  exact stays

theorem steady_getObject (stage : Stage name none flag w) :
    Ends (Steady name) (ask (.getObject name)) (fun reply w =>
      Stage name none flag w ∧ (reply = .ok none → Gone name w)) w := by
  refine ⟨trivial, fun choice ⟨undisturbed, _⟩ =>
    ⟨stage.read undisturbed rfl nofun, fun missing => ?_⟩⟩
  obtain ⟨told, effect⟩ := answered missing
  have unchanged : (w.extend (w.arrive choice (.getObject name))).state =
      (w.arrive choice (.getObject name)).before := effect
  rw [Gone, unchanged]
  exact Option.map_eq_none_iff.mp (Except.ok.inj told)

theorem steady_deleteObject : Ends (Steady name) (ask (.deleteObject name)) (fun reply w =>
      reply = .ok () → Gone name w) w := by
  refine ⟨trivial, fun choice _ done => ?_⟩
  obtain ⟨served, effect⟩ := answered done
  have told : (serveCall returned (w.arrive choice (.deleteObject name)).before
    (.deleteObject name)).1 = .ok () := served
  have after : (w.extend (w.arrive choice (.deleteObject name))).state =
      (serveCall returned (w.arrive choice (.deleteObject name)).before (.deleteObject name)).2 :=
      effect
  rw [Gone, after]
  rw [serveCall] at told ⊢
  split at told
  · cases told
  · exact setObject_same _ _ _

variable {kind : GuardedKind Spec Doc}

/-- A deletion that reports success has come to an object that is not there. -/
theorem steady_delete (fixed : ∀ spec, kind.objectName spec = name) {resource : Resource Spec}
    (stage : Stage name none flag w) (flagged : resource.status.existing = flag) :
    Ends (Steady name) (delete kind resource) (fun err w => err = none → Gone name w) w := by
  rw [delete, flagged]
  split
  · intro _
    cases flag with
    | none => exact stage.object
    | some existing =>
      cases existing with
      | false => contradiction
      | true => cases stage.object.1
  apply (steady_getCluster stage).bindOk
  · rintro err w ⟨stage, present, stays⟩
    cases err with
    | notFound => exact absurd rfl present
    | _ => simp
  rintro cluster w ⟨stage, present, stays⟩
  dsimp only
  rw [stays cluster rfl, if_neg (by simp)]
  have client : Ends (Steady name) (ask .createClient) (fun _ => Stage name none flag) w :=
    ⟨trivial, fun _ steady => stage.read steady.1 rfl (by simp [Call.target])⟩
  apply client.bindOk
  · simp
  intro _ w stage
  rw [fixed]
  apply (steady_getObject stage).bindOk
  · simp
  rintro response w ⟨stage, missing⟩
  cases response with
  | none => exact fun _ => missing rfl
  | some existing =>
    apply steady_deleteObject.bindOk
    · simp
    intro _ w gone
    exact fun _ => gone rfl

variable [DecidableEq Doc]

theorem steady_guardedPass (fixed : ∀ spec, kind.objectName spec = name)
    (stage : Stage name none flag w) : Ends (Steady name) (guardedPass kind) (fun handled w =>
      ∀ err, handled = .deleted err → Gone name w) w := by
  have read : Ends (Steady name) (ask .getResource)
      (OkWith (Stage name none flag) fun stored _ => stored.status.existing = flag) w := by
    refine ⟨trivial, fun choice ⟨undisturbed, _⟩ => ?_⟩
    have stage := stage.read undisturbed rfl nofun
    refine ⟨stage, fun stored told => stage.flagged stored ?_⟩
    obtain ⟨told, effect⟩ := answered told
    exact (congrArg ManagedWorld.resource effect).trans (found_ok told)
  apply read.thenOk
  · intro err w stage
    cases err <;> exact nofun
  intro resource w stage flagged
  dsimp only
  split
  · apply (safe_unconstrained _ w).bindOk
    · exact fun _ _ _ => nofun
    intro stored w _
    apply (safe_unconstrained _ w).bind
    intro verdict w _
    exact nofun
  split
  · apply (steady_delete fixed stage flagged).bindNone
    · exact fun _ _ _ => nofun
    intro w gone
    have released : Ends (Steady name) (ask (.updateResource { resource with finalizer := false }))
        (fun _ => Gone name) w :=
      ⟨trivial, fun _ steady => (gone rfl).extend steady.1 nofun⟩
    apply released.bind
    intro reply w gone
    cases reply <;> exact fun _ _ => gone
  · exact nofun

end Removal

def OwnedKind.pass [DecidableEq Doc] (owned : OwnedKind) (name : String) (document : Spec → Doc) :
    ManagedProg Spec Doc Handled :=
  guardedPass (owned.kind name document)

/-- If the object was there before the run, it is never the target of a write. If it was not,
the stored flag never says that it was, and a deletion that reports success while the cluster
is there to stay leaves no object behind. -/
theorem ownership_exact [DecidableEq Doc] (owned : OwnedKind) (name : String)
    (document : Spec → Doc) (start : ManagedRun Spec returned)
    (passes : List (List (ManagedChoice Spec Doc))) (fresh : start.past = [])
    (unset : ∀ r ∈ start.state.resource, r.status.existing = none)
    (undisturbed : ∀ e ∈ (runs (owned.pass name document) passes start).past, Undisturbed name e) :
    let run := runs (owned.pass name document) passes start
    let next := fun choices =>
      exec (owned.pass name document) choices (⟨run.state, []⟩ : ManagedRun Spec returned)
    ((start.state.objects name).isSome = true → ∀ e ∈ run.past, e.op.target ≠ some name) ∧
    (start.state.objects name = none → (∀ r ∈ run.state.resource, r.status.existing ≠ some true) ∧
      ∀ choices err, (∀ e ∈ (next choices).2.past, Undisturbed name e ∧ Serving e) →
        (next choices).1 = some (.deleted err) → (next choices).2.state.objects name = none) := by
  intro run next
  have fixed := owned.objectName_kind name document
  have initially : Stage name (start.state.objects name) none start :=
    ⟨unset, rfl, fun _ => by simp [fresh]⟩
  obtain ⟨_, flag, _, stage⟩ := runs_keep (keeps_guardedPass (guards_stage fixed)) passes start
    ⟨name, none, rfl, initially⟩ undisturbed
  refine ⟨stage.history, fun missing => ?_⟩
  rw [missing] at stage
  constructor
  · intro r there existing
    rw [stage.flagged r there] at existing
    subst existing
    cases stage.object.1
  · intro choices err steady done
    have again : Stage name none flag (⟨run.state, []⟩ : ManagedRun Spec returned) :=
      ⟨stage.flagged, stage.object, nofun⟩
    exact ((steady_guardedPass fixed again).outcome choices steady).1 _ done err rfl

section Runs

instance [DecidableEq Doc] (name : String) (e : ManagedEvent Spec returned) :
    Decidable (Undisturbed name e) :=
  decidable_of_iff' _ (undisturbed_iff ..)

instance (e : ManagedEvent Spec returned) : Decidable (Serving e) :=
  inferInstanceAs (Decidable (∃ cluster ∈ e.before.cluster, _ = _))

def readersWorld : ManagedRun Nat (unaltered Nat) :=
  ⟨{ resource := some { spec := 7 }, cluster := some ⟨"cluster", "RUNNING", false⟩
     objects := fun _ => none }, []⟩

def deletionPass : List (ManagedChoice Nat Nat) :=
  { others := fun s =>
    { s with resource := s.resource.map fun r => { r with deleting := true } } } ::
    quietPass

theorem readers_owned :
    let run := runs (OwnedKind.role.pass "readers" id) [quietPass] readersWorld
    run.state.objects "readers" = some ⟨0, 1, 7⟩ ∧
      (exec (OwnedKind.role.pass "readers" id) deletionPass
        (⟨run.state, []⟩ : ManagedRun Nat (unaltered Nat))).2.state.objects "readers" = none := by
  have owned := ownership_exact .role "readers" id readersWorld [quietPass] rfl (by decide)
    (by decide)
  exact ⟨by decide, (owned.2 rfl).2 deletionPass none (by decide) (by decide)⟩

end Runs

end OpenSearchOperator.Managed.Ownership
