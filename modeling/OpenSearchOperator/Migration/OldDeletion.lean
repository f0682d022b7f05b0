import OpenSearchOperator.Effects.Follow
import OpenSearchOperator.Migration.ClusterLaws
import OpenSearchOperator.Migration.GenericLaws

/-! What becomes of an old resource that was deleted when only the migration acts: from
which states its finalizer goes, and from which it stays for good. -/

namespace OpenSearchOperator.Migration.OldDeletion

open Api Effects HasMeta

variable {I : Interface} {R : Type} [HasMeta R]

section States

def Cleared (v : Pair R) : Prop := ∀ r ∈ v.old, MigrationFinalizer ∉ (metadata r).finalizers

def Leaving (v : Pair R) : Prop := ∀ r ∈ v.old, (metadata r).deleting = true

@[mk_iff]
structure LetsGo (k : Migrator I R) (m : ObjectMeta) : Prop where
  held : MigrationFinalizer ∈ m.finalizers
  idle : k.busy m.finalizers = false
  last : removeString m.finalizers MigrationFinalizer = []

def Clears (k : Migrator I R) (v : Pair R) : Prop :=
  ∀ old ∈ v.old, MigrationFinalizer ∈ (metadata old).finalizers →
    match v.new with
    | none => (metadata old).deletedByNewResource = true
    | some new => (metadata new).deleting = false ∨ LetsGo k (metadata new)

end States

section Calm

variable {S : Server I} {view : S.State → Pair R} {k : Migrator I R} {served : S.Choice → Prop}
  {choice : S.Choice}

structure Calm (view : S.State → Pair R) (served : S.Choice → Prop) (choice : S.Choice) : Prop where
  served : served choice
  old : ∀ s, (view (S.disturb choice s)).old = (view s).old
  new : ∀ s, (view (S.disturb choice s)).new = (view s).new

variable (lawful : k.Lawful S view served) (calm : Calm view served choice) {current r : R}
  {reply : Except ApiError R} {s : S.State} {changed : Option R} {revision : Nat}

include lawful calm

theorem follow_getNew (s : S.State) : ∃ t, follow choice k.getNew s = (found (view s).new, t) ∧
    (view t).old = (view s).old ∧ (view t).new = (view s).new := by
  obtain ⟨unchanged, reads⟩ := lawful.getNew.follow choice s
  refine ⟨(follow choice k.getNew s).2, Prod.ext ?_ rfl, ?_, ?_⟩
  · rcases reads with reply | ⟨refused, _⟩
    · rw [calm.new] at reply
      exact reply
    · exact absurd calm.served refused
  · rw [unchanged, calm.old]
  · rw [unchanged, calm.new]

theorem follow_getOld (s : S.State) : ∃ t, follow choice k.getOld s = (found (view s).old, t) ∧
    (view t).old = (view s).old ∧ (view t).new = (view s).new := by
  obtain ⟨unchanged, reads⟩ := lawful.getOld.follow choice s
  refine ⟨(follow choice k.getOld s).2, Prod.ext ?_ rfl, ?_, ?_⟩
  · rcases reads with reply | ⟨refused, _⟩
    · rw [calm.old] at reply
      exact reply
    · exact absurd calm.served refused
  · rw [unchanged, calm.old]
  · rw [unchanged, calm.new]

def Left (r current : R) (stored : Option R) : Prop :=
  (stored = none ∧ (metadata current).deleting = true ∧ (metadata r).finalizers = []) ∨
    ∃ updated, stored = some updated ∧
      ((metadata current).deleting = true → (metadata r).finalizers ≠ []) ∧
      (metadata updated).finalizers = (metadata r).finalizers ∧
      (metadata updated).annotations = (metadata r).annotations ∧
      (metadata updated).deleting = (metadata current).deleting

omit lawful calm in
theorem left_of_wrote (wrote : Wrote True revision r (some current) reply changed)
    (accepts : Accepts current r) : (∃ updated, reply = .ok updated) ∧ Left r current changed := by
  cases wrote with
  | rejected _ err reason => exact absurd accepts (reason trivial current rfl)
  | stays _ updated _ _ left held told =>
    rcases told with ok | ⟨refused, _⟩
    · refine ⟨⟨updated, ok⟩, Or.inr ⟨updated, rfl, held, ?_, ?_, ?_⟩⟩ <;> rw [left] <;> rfl
    · exact absurd trivial refused
  | goes _ updated _ _ left deleting last told =>
    rcases told with ok | ⟨refused, _⟩
    · exact ⟨⟨updated, ok⟩, Or.inl ⟨rfl, deleting, last⟩⟩
    · exact absurd trivial refused

omit lawful calm in
theorem Wrote.trust {served : Prop} (yes : served) {stored : Option R}
    (wrote : Wrote served revision r stored reply changed) :
    Wrote True revision r stored reply changed := by
  have same : served = True := eq_true yes
  rw [same] at wrote
  exact wrote

theorem follow_updateNew (there : (view s).new = some current) (accepts : Accepts current r) :
    ∃ updated t, follow choice (k.updateNew r) s = (.ok updated, t) ∧
      (view t).old = (view s).old ∧ Left r current (view t).new := by
  obtain ⟨same, wrote⟩ := (lawful.updateNew r).follow choice s
  rw [calm.new, there] at wrote
  obtain ⟨⟨updated, ok⟩, left⟩ := left_of_wrote (Wrote.trust calm.served wrote) accepts
  refine ⟨updated, (follow choice (k.updateNew r) s).2, Prod.ext ok rfl, ?_, left⟩
  rw [same, calm.old]

theorem follow_updateOld (there : (view s).old = some current) (accepts : Accepts current r) :
    ∃ updated t, follow choice (k.updateOld r) s = (.ok updated, t) ∧
      (view t).new = (view s).new ∧ Left r current (view t).old := by
  obtain ⟨same, wrote⟩ := (lawful.updateOld r).follow choice s
  rw [calm.old, there] at wrote
  obtain ⟨⟨updated, ok⟩, left⟩ := left_of_wrote (Wrote.trust calm.served wrote) accepts
  refine ⟨updated, (follow choice (k.updateOld r) s).2, Prod.ext ok rfl, ?_, left⟩
  rw [same, calm.new]

theorem follow_deleteOld (there : (view s).old = some current)
    (held : (metadata current).finalizers ≠ []) :
    ∃ t updated, follow choice k.deleteOld s = (.ok (), t) ∧ (view t).new = (view s).new ∧
      (view t).old = some updated ∧ (metadata updated).finalizers = (metadata current).finalizers ∧
      (metadata updated).annotations = (metadata current).annotations ∧
      (metadata updated).deleting = true := by
  obtain ⟨same, deleted⟩ := lawful.deleteOld.follow choice s
  rw [calm.old, there] at deleted
  generalize after : (view (follow choice k.deleteOld s).2).old = changed at deleted
  generalize told : (follow choice k.deleteOld s).1 = reply at deleted
  cases deleted with
  | rejected _ err reason => cases (reason calm.served).1
  | stays _ updated _ left ok =>
    rcases ok with ok | ⟨refused, _⟩
    · refine ⟨_, updated, Prod.ext (told.trans ok) rfl, same.trans (calm.new s), after, ?_⟩
      rw [left]
      exact ⟨rfl, rfl, rfl⟩
    · exact absurd calm.served refused
  | goes _ _ last => exact absurd last held

end Calm

section Parts

variable {S : Server I} {view : S.State → Pair R} {k : Migrator I R} {served : S.Choice → Prop}
  {choice : S.Choice} {s : S.State} {old new : R}

theorem accepts_setFinalizers {finalizers : List String} (r : R)
    (fits : (metadata r).deleting = true → finalizers ⊆ (metadata r).finalizers) :
    Accepts r (setFinalizers r finalizers) := by
  constructor <;> rw [setFinalizers, metadata_withMetadata]
  exact fits

theorem accepts_setAnnotations (r : R) (annotations : Annotations) :
    Accepts r (setAnnotations r annotations) := by
  constructor <;> rw [setAnnotations, metadata_withMetadata]
  exact fun _ => List.Subset.refl _

theorem removeString_subset (slice : List String) (s : String) : removeString slice s ⊆ slice :=
  List.filter_subset_self _

theorem not_mem_removeString {slice : List String} {s : String} : s ∉ removeString slice s := by
  simp [removeString]

variable (lawful : k.Lawful S view served) (calm : Calm view served choice)

include lawful calm

section

variable (there : (view s).old = some old)

include there

theorem follow_removeFinalizers : Cleared (view (follow choice (k.removeFinalizers old) s).2) := by
  have fits : removeString (removeString (metadata old).finalizers MigrationFinalizer)
      k.oldFinalizer ⊆ (metadata old).finalizers :=
    List.Subset.trans (removeString_subset _ _) (removeString_subset _ _)
  obtain ⟨updated, t, told, _, left⟩ := follow_updateOld lawful calm there
    (accepts_setFinalizers old fun _ => fits)
  rw [Migrator.removeFinalizers, follow_bind, told]
  intro r stored has
  rcases left with ⟨gone, _⟩ | ⟨other, stays, _, finalizers, _⟩
  · cases gone.symm.trans stored
  cases stays.symm.trans stored
  rw [finalizers, setFinalizers, metadata_withMetadata] at has
  exact not_mem_removeString (removeString_subset _ _ has)

theorem follow_handleOldDeletion
    (ready : (view s).new ≠ none ∨ (metadata old).deletedByNewResource = true) :
    Cleared (view (follow choice (k.handleOldDeletion old) s).2) := by
  rw [Migrator.handleOldDeletion]
  split
  case isFalse absent =>
    intro r stored has
    cases there.symm.trans stored
    exact absent (by simpa using has)
  case isTrue =>
    obtain ⟨t, told, sameOld, _⟩ := follow_getNew lawful calm s
    rw [follow_bind, told]
    cases stored : (view s).new with
    | some new => exact follow_removeFinalizers lawful calm (sameOld.trans there)
    | none =>
      rcases ready with present | marked
      · exact absurd stored present
      · simp only [found, marked, if_true]
        exact follow_removeFinalizers lawful calm (sameOld.trans there)

theorem follow_handleOldDeletion_waits (absent : (view s).new = none)
    (unmarked : (metadata old).deletedByNewResource = false) :
    (view (follow choice (k.handleOldDeletion old) s).2).old = some old ∧
      (view (follow choice (k.handleOldDeletion old) s).2).new = none := by
  rw [Migrator.handleOldDeletion]
  split
  case isFalse => exact ⟨there, absent⟩
  case isTrue =>
    obtain ⟨t, told, sameOld, sameNew⟩ := follow_getNew lawful calm s
    rw [follow_bind, told, absent]
    simp only [found, unmarked, Bool.false_eq_true, if_false]
    exact ⟨sameOld.trans there, sameNew.trans absent⟩

theorem follow_reconcileOld (deleting : (metadata old).deleting = true) :
    ∃ t, (view t).old = some old ∧ (view t).new = (view s).new ∧
      follow choice k.reconcileOld s = follow choice (k.handleOldDeletion old) t := by
  obtain ⟨t, told, sameOld, sameNew⟩ := follow_getOld lawful calm s
  refine ⟨t, sameOld.trans there, sameNew, ?_⟩
  rw [Migrator.reconcileOld, follow_bind, told, there]
  simp only [found, deleting, if_true]

theorem follow_handleNewDeletion (held : MigrationFinalizer ∈ (metadata old).finalizers) :
    ∃ t updated, follow choice k.handleNewDeletion s = (({}, none), t) ∧
      (view t).new = (view s).new ∧ (view t).old = some updated ∧
      (metadata updated).finalizers = (metadata old).finalizers ∧
      (metadata updated).deletedByNewResource = true ∧ (metadata updated).deleting = true := by
  obtain ⟨t, told, sameOld, sameNew⟩ := follow_getOld lawful calm s
  have kept : (metadata old).finalizers ≠ [] := List.ne_nil_of_mem held
  obtain ⟨sent, u, updates, keepsNew, left⟩ := follow_updateOld lawful calm (sameOld.trans there)
    (accepts_setAnnotations old (Labels.merge [.mk DeletedByNewResourceAnnotation "true"]
      (metadata old).annotations))
  rcases left with ⟨_, _, last⟩ | ⟨marked, stored, _, finalizers, annotations, _⟩
  · rw [setAnnotations, metadata_withMetadata] at last
    exact absurd last kept
  rw [setAnnotations, metadata_withMetadata] at finalizers annotations
  obtain ⟨x, updated, deletes, keeps, after, same, notes, deleting⟩ :=
    follow_deleteOld lawful calm stored (by rw [finalizers]; exact kept)
  refine ⟨x, updated, ?_, keeps.trans (keepsNew.trans sameNew), after, same.trans finalizers, ?_,
    deleting⟩
  · rw [Migrator.handleNewDeletion, follow_bind, told, there]
    simp only [found, follow_bind, updates, deletes, follow_pure]
  · rw [ObjectMeta.deletedByNewResource, notes, annotations]
    rfl

end

end Parts

section Passes

variable {S : Server I} {view : S.State → Pair R} {k : Migrator I R} {served : S.Choice → Prop}
  {choice : S.Choice} {s : S.State} {old new : R}

def pass (k : Migrator I R) (choice : S.Choice) (s : S.State) : S.State :=
  (follow choice k.reconcile s).2

variable (lawful : k.Lawful S view served) (calm : Calm view served choice)

include lawful calm

theorem pass_absent (there : (view s).old = some old) (deleting : (metadata old).deleting = true)
    (absent : (view s).new = none) : ∃ t, (view t).old = some old ∧ (view t).new = none ∧
      pass k choice s = (follow choice (k.handleOldDeletion old) t).2 := by
  obtain ⟨t, told, sameOld, sameNew⟩ := follow_getNew lawful calm s
  obtain ⟨u, still, gone, same⟩ := follow_reconcileOld lawful calm (sameOld.trans there) deleting
  refine ⟨u, still, gone.trans (sameNew.trans absent), ?_⟩
  rw [pass, Migrator.reconcile, follow_bind, told, absent]
  simp only [found, same]

theorem pass_present (there : (view s).old = some old) (deleting : (metadata old).deleting = true)
    (present : (view s).new = some new) (stays : (metadata new).deleting = false)
    (held : MigrationFinalizer ∈ (metadata new).finalizers) : Cleared (view (pass k choice s)) := by
  obtain ⟨t, told, sameOld, sameNew⟩ := follow_getNew lawful calm s
  obtain ⟨u, still, same, follows⟩ :=
    follow_reconcileOld lawful calm (sameOld.trans there) deleting
  have known : (metadata new).finalizers.contains MigrationFinalizer = true := by simpa using held
  rw [pass, Migrator.reconcile, follow_bind, told, present]
  simp only [found, stays, known, Bool.not_true, Bool.false_eq_true, if_false, follows]
  apply follow_handleOldDeletion lawful calm still
  left
  rw [same, sameNew, present]
  exact nofun

theorem pass_holds (present : (view s).new = some new) (stays : (metadata new).deleting = false)
    (free : MigrationFinalizer ∉ (metadata new).finalizers) :
    ∃ updated, (view (pass k choice s)).old = (view s).old ∧
      (view (pass k choice s)).new = some updated ∧ (metadata updated).deleting = false ∧
      MigrationFinalizer ∈ (metadata updated).finalizers := by
  obtain ⟨t, told, sameOld, sameNew⟩ := follow_getNew lawful calm s
  have unknown : (metadata new).finalizers.contains MigrationFinalizer = false := by
    simpa using free
  have accepts : Accepts new (setFinalizers new
      ((metadata new).finalizers ++ [MigrationFinalizer])) := by
    apply accepts_setFinalizers
    intro deleting
    rw [stays] at deleting
    cases deleting
  obtain ⟨sent, u, updates, keeps, left⟩ :=
    follow_updateNew lawful calm (sameNew.trans present) accepts
  have after : pass k choice s = u := by
    rw [pass, Migrator.reconcile, follow_bind, told, present]
    simp only [found, stays, unknown, Bool.not_false, Bool.false_eq_true, if_false, if_true,
      follow_bind, updates, follow_pure]
  rw [after]
  rcases left with ⟨_, deleting, _⟩ | ⟨updated, stored, _, finalizers, _, same⟩
  · rw [stays] at deleting
    cases deleting
  refine ⟨updated, keeps.trans sameOld, stored, same.trans stays, ?_⟩
  rw [finalizers, setFinalizers, metadata_withMetadata]
  simp

/-- The pass on a new resource that is being deleted, once nobody else works on it. -/
theorem pass_releases (there : (view s).old = some old)
    (held : MigrationFinalizer ∈ (metadata old).finalizers) (present : (view s).new = some new)
    (deleting : (metadata new).deleting = true)
    (known : MigrationFinalizer ∈ (metadata new).finalizers)
    (idle : k.busy (metadata new).finalizers = false) :
    ∃ marked, (view (pass k choice s)).old = some marked ∧
      (metadata marked).finalizers = (metadata old).finalizers ∧
      (metadata marked).deletedByNewResource = true ∧ (metadata marked).deleting = true ∧
      Left (setFinalizers new (removeString (metadata new).finalizers MigrationFinalizer)) new
        (view (pass k choice s)).new := by
  obtain ⟨t, told, sameOld, sameNew⟩ := follow_getNew lawful calm s
  obtain ⟨u, marked, handles, keepsNew, stored, finalizers, mark, leaving⟩ :=
    follow_handleNewDeletion lawful calm (sameOld.trans there) held
  have contains : (metadata new).finalizers.contains MigrationFinalizer = true := by
    simpa using known
  obtain ⟨sent, x, updates, keepsOld, left⟩ := follow_updateNew lawful calm
    (keepsNew.trans (sameNew.trans present))
    (accepts_setFinalizers new fun _ =>
      removeString_subset (metadata new).finalizers MigrationFinalizer)
  have after : pass k choice s = x := by
    rw [pass, Migrator.reconcile, follow_bind, told, present]
    simp only [found, deleting, if_true, Migrator.reconcileNewDeletion, contains, Bool.not_true,
      Bool.false_eq_true, if_false, idle, follow_bind, handles, updates, follow_pure]
  rw [after]
  exact ⟨marked, keepsOld.trans stored, finalizers, mark, leaving, left⟩

theorem pass_waits (present : (view s).new = some new) (deleting : (metadata new).deleting = true)
    (waits : MigrationFinalizer ∉ (metadata new).finalizers ∨
      k.busy (metadata new).finalizers = true) :
    (view (pass k choice s)).old = (view s).old ∧ (view (pass k choice s)).new = some new := by
  obtain ⟨t, told, sameOld, sameNew⟩ := follow_getNew lawful calm s
  have after : pass k choice s = t := by
    rw [pass, Migrator.reconcile, follow_bind, told, present]
    simp only [found, deleting, if_true, Migrator.reconcileNewDeletion]
    split
    · rfl
    rcases waits with free | busy
    · rename_i contains
      exact absurd (by simpa using contains) free
    · rw [if_pos busy]
      rfl
  rw [after]
  exact ⟨sameOld, sameNew.trans present⟩

end Passes

section Outcome

variable {S : Server I} {view : S.State → Pair R} {k : Migrator I R} {served : S.Choice → Prop}
  {choice : S.Choice} {s : S.State}

def Stuck (k : Migrator I R) (v : Pair R) : Prop :=
  ∃ old, v.old = some old ∧ (metadata old).deleting = true ∧
    MigrationFinalizer ∈ (metadata old).finalizers ∧
    match v.new with
    | none => (metadata old).deletedByNewResource = false
    | some new => (metadata new).deleting = true ∧ ¬ LetsGo k (metadata new)

variable (lawful : k.Lawful S view served) (calm : Calm view served choice)

include lawful calm

theorem Stuck.pass (stuck : Stuck k (view s)) : Stuck k (view (pass k choice s)) := by
  obtain ⟨old, there, leaving, held, blocked⟩ := stuck
  cases present : (view s).new with
  | none =>
    rw [present] at blocked
    obtain ⟨t, still, gone, same⟩ := pass_absent lawful calm there leaving present
    obtain ⟨keepsOld, keepsNew⟩ :=
      follow_handleOldDeletion_waits lawful calm still gone blocked
    rw [same]
    refine ⟨old, keepsOld, leaving, held, ?_⟩
    rw [keepsNew]
    exact blocked
  | some new =>
    rw [present] at blocked
    by_cases waits : MigrationFinalizer ∉ (metadata new).finalizers ∨
        k.busy (metadata new).finalizers = true
    · obtain ⟨keepsOld, keepsNew⟩ := pass_waits lawful calm present blocked.1 waits
      refine ⟨old, keepsOld.trans there, leaving, held, ?_⟩
      rw [keepsNew]
      exact blocked
    · push Not at waits
      have idle : k.busy (metadata new).finalizers = false := by simpa using waits.2
      obtain ⟨marked, stored, finalizers, _, deleting, left⟩ :=
        pass_releases lawful calm there held present blocked.1 waits.1 idle
      refine ⟨marked, stored, deleting, finalizers ▸ held, ?_⟩
      rcases left with ⟨_, _, last⟩ | ⟨updated, after, _, kept, _, same⟩
      · rw [setFinalizers, metadata_withMetadata] at last
        exact absurd ⟨waits.1, idle, last⟩ blocked.2
      rw [after]
      refine ⟨same.trans blocked.1, fun lets => ?_⟩
      have has := lets.held
      rw [kept, setFinalizers, metadata_withMetadata] at has
      exact not_mem_removeString has

theorem Stuck.passes (stuck : Stuck k (view s)) (n : Nat) :
    Stuck k (view (followTimes choice k.reconcile n s)) := by
  induction n generalizing s with
  | zero => exact stuck
  | succ n ih => exact ih (stuck.pass lawful calm)

theorem Clears.passes (leaving : Leaving (view s)) (clears : Clears k (view s)) :
    ∃ n, Cleared (view (followTimes choice k.reconcile n s)) := by
  by_cases done : Cleared (view s)
  · exact ⟨0, done⟩
  rw [Cleared] at done
  push Not at done
  obtain ⟨old, there, held⟩ := done
  have deleting := leaving old there
  have ready := clears old there held
  cases present : (view s).new with
  | none =>
    rw [present] at ready
    obtain ⟨t, still, _, same⟩ := pass_absent lawful calm there deleting present
    refine ⟨1, ?_⟩
    show Cleared (view (pass k choice s))
    rw [same]
    exact follow_handleOldDeletion lawful calm still (Or.inr ready)
  | some new =>
    rw [present] at ready
    rcases ready with stays | lets
    · by_cases known : MigrationFinalizer ∈ (metadata new).finalizers
      · exact ⟨1, pass_present lawful calm there deleting present stays known⟩
      obtain ⟨updated, same, stored, stays, known⟩ :=
        pass_holds lawful calm present stays known
      exact ⟨2, pass_present lawful calm (same.trans there) deleting stored stays known⟩
    · by_cases stays : (metadata new).deleting = false
      · exact ⟨1, pass_present lawful calm there deleting present stays lets.held⟩
      have goes : (metadata new).deleting = true := by simpa using stays
      obtain ⟨marked, stored, _, mark, away, left⟩ :=
        pass_releases lawful calm there held present goes lets.held lets.idle
      have absent : (view (pass k choice s)).new = none := by
        rcases left with ⟨absent, _⟩ | ⟨_, _, more, _⟩
        · exact absent
        have more := more goes
        rw [setFinalizers, metadata_withMetadata] at more
        exact absurd lets.last more
      obtain ⟨t, still, _, same⟩ := pass_absent lawful calm stored away absent
      refine ⟨2, ?_⟩
      show Cleared (view (pass k choice (pass k choice s)))
      rw [same]
      exact follow_handleOldDeletion lawful calm still (Or.inr mark)

theorem cleared_iff (leaving : Leaving (view s)) :
    (∃ n, Cleared (view (followTimes choice k.reconcile n s))) ↔ Clears k (view s) := by
  constructor
  · intro ⟨n, cleared⟩
    by_contra blocked
    rw [Clears] at blocked
    push Not at blocked
    obtain ⟨old, there, held, blocked⟩ := blocked
    have stuck : Stuck k (view s) := by
      refine ⟨old, there, leaving old there, held, ?_⟩
      cases present : (view s).new with
      | none =>
        rw [present] at blocked
        simpa using blocked
      | some new =>
        rw [present] at blocked
        push Not at blocked
        exact ⟨by simpa using blocked.1, blocked.2⟩
    obtain ⟨other, still, _, has, _⟩ := stuck.passes lawful calm n
    exact cleared other still has
  · exact Clears.passes lawful calm leaving

end Outcome

def quietCall : MigrationChoice := {}

def quietGenericCall (Spec Rest : Type) : Generic.GenericChoice Spec Rest := {}

theorem calm_quietCall : Calm (S := migrationServer) MigrationWorld.pair Served quietCall :=
  ⟨rfl, fun _ => if_pos rfl, fun _ => if_pos rfl⟩

theorem calm_quietGenericCall (Spec Rest : Type) [DecidableEq Spec] [DecidableEq Rest]
    [Inhabited Rest] : Calm (S := Generic.genericServer Spec Rest) id Generic.Served
      (quietGenericCall Spec Rest) :=
  ⟨rfl, fun _ => if_pos rfl, fun _ => if_pos rfl⟩

/-- From a state with a deleted old resource some number of reconciles removes its
finalizer exactly if the new one exists and stays, or is about to go with the finalizer of
the migration, or is gone and has left its mark. -/
theorem deletion_ends_iff (clusterName : String) (s : MigrationWorld) (Spec Rest : Type)
    [DecidableEq Spec] [DecidableEq Rest] [Inhabited Rest] (t : Generic.GenericWorld Spec Rest) :
    (Leaving s.pair →
      ((∃ n, Cleared (followTimes (S := migrationServer) quietCall (reconcile clusterName)
        n s).pair) ↔ Clears (clusterMigrator clusterName) s.pair)) ∧
    (Leaving t →
      ((∃ n, Cleared (followTimes (S := Generic.genericServer Spec Rest)
        (quietGenericCall Spec Rest) (Generic.reconcileGenericMigration Spec Rest) n t)) ↔
        Clears (Generic.genericMigrator Spec Rest) t)) := by
  constructor
  · intro leaving
    rw [reconcile_eq]
    exact cleared_iff (lawful_clusterMigrator clusterName) calm_quietCall leaving
  · intro leaving
    exact cleared_iff Generic.lawful_genericMigrator (calm_quietGenericCall Spec Rest) leaving

section Decidable

instance (k : Migrator I R) (m : ObjectMeta) : Decidable (LetsGo k m) :=
  decidable_of_iff' _ (letsGo_iff ..)

instance (v : Pair R) : Decidable (Leaving v) := inferInstanceAs (Decidable (∀ r ∈ v.old, _))

instance (k : Migrator I R) (v : Pair R) : Decidable (Clears k v) :=
  haveI (old : R) : Decidable (match v.new with
      | none => (metadata old).deletedByNewResource = true
      | some new => (metadata new).deleting = false ∨ LetsGo k (metadata new)) :=
    match v.new with
    | none => inferInstanceAs (Decidable (_ = _))
    | some _ => inferInstanceAs (Decidable (_ ∨ _))
  inferInstanceAs (Decidable (∀ old ∈ v.old, _ → _))

end Decidable

section Runs

def deletesCluster : List MigrationChoice :=
  [{ others := fun s => { s with
      oldCluster := s.oldCluster.map fun cluster => { cluster with deleting := true } } }]

def deletesResource : List (Generic.GenericChoice Unit Unit) :=
  [{ others := fun s => { s with
      old := s.old.map fun resource => { resource with deleting := true } } }]

def migratedCluster : MigrationWorld :=
  (runs (reconcile "demo") [quietCalls, deletesCluster] beforeMigration).state

def migratedResource : Generic.GenericWorld Unit Unit :=
  (runs (Generic.reconcileGenericMigration Unit Unit) [Generic.quietCalls, deletesResource]
    Generic.beforeMigration).state

theorem migrated_deletion_ends :
    (∃ n, Cleared (followTimes (S := migrationServer) quietCall (reconcile "demo") n
      migratedCluster).pair) ∧
    ∃ n, Cleared (followTimes (S := Generic.genericServer Unit Unit) (quietGenericCall Unit Unit)
      (Generic.reconcileGenericMigration Unit Unit) n migratedResource) :=
  have ends := deletion_ends_iff "demo" migratedCluster Unit Unit migratedResource
  ⟨(ends.1 (by decide +kernel)).mpr (by decide +kernel),
    (ends.2 (by decide +kernel)).mpr (by decide +kernel)⟩

def notRunning : MigrationRun :=
  { beforeMigration with state := { beforeMigration.state with
      oldCluster := beforeMigration.state.oldCluster.map fun cluster =>
        { cluster with status := ⟨"PENDING", [], "", false, 0, ""⟩ } } }

def notCreated : Generic.GenericRun Unit Unit :=
  { Generic.beforeMigration with state := { Generic.beforeMigration.state with
      old := Generic.beforeMigration.state.old.map fun resource =>
        { resource with status := ⟨"PENDING", "", none, ()⟩ } } }

instance (k : Migrator I R) (v : Pair R) : Decidable (Stuck k v) :=
  haveI (old : R) : Decidable (match v.new with
      | none => (metadata old).deletedByNewResource = false
      | some new => (metadata new).deleting = true ∧ ¬ LetsGo k (metadata new)) :=
    match v.new with
    | none => inferInstanceAs (Decidable (_ = _))
    | some _ => inferInstanceAs (Decidable (_ ∧ _))
  inferInstanceAs (Decidable (∃ old ∈ v.old, (metadata old).deleting = true ∧
    MigrationFinalizer ∈ (metadata old).finalizers ∧ _))

/-- One pass adds the finalizer, then the user deletes the old resource: no number of
reconciles lets it go. -/
theorem unmigrated_deletion_hangs :
    (∀ n, ¬ Cleared (followTimes (S := migrationServer) quietCall (reconcile "demo") n
      (runs (reconcile "demo") [quietCalls, deletesCluster] notRunning).state).pair) ∧
    ∀ n, ¬ Cleared (followTimes (S := Generic.genericServer Unit Unit) (quietGenericCall Unit Unit)
      (Generic.reconcileGenericMigration Unit Unit) n
      (runs (Generic.reconcileGenericMigration Unit Unit) [Generic.quietCalls, deletesResource]
        notCreated).state) := by
  constructor
  · intro n cleared
    have stuck : Stuck (clusterMigrator "demo")
        (runs (reconcile "demo") [quietCalls, deletesCluster] notRunning).state.pair := by
      decide +kernel
    obtain ⟨old, there, _, has, _⟩ :=
      stuck.passes (lawful_clusterMigrator "demo") calm_quietCall n
    rw [← reconcile_eq] at there
    exact cleared old there has
  · intro n cleared
    have stuck : Stuck (Generic.genericMigrator Unit Unit)
        (runs (Generic.reconcileGenericMigration Unit Unit) [Generic.quietCalls, deletesResource]
          notCreated).state := by
      decide +kernel
    obtain ⟨old, there, _, has, _⟩ :=
      Stuck.passes Generic.lawful_genericMigrator (calm_quietGenericCall Unit Unit) stuck n
    exact cleared old there has

end Runs

end OpenSearchOperator.Migration.OldDeletion
