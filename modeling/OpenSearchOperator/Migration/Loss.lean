import OpenSearchOperator.Effects.History
import OpenSearchOperator.Migration.ClusterLaws
import OpenSearchOperator.Migration.GenericLaws

/-! The finalizer of an old resource is not removed before the new one existed. The
annotation that lets it go without a new resource is only written where a pass has read
the new one. -/

namespace OpenSearchOperator.Migration

open Api Effects HasMeta

variable {I : Interface} {R : Type} [HasMeta R] {v t : Pair R}

def Pair.Unannounced (v : Pair R) : Prop :=
  ∀ r ∈ v.old, (metadata r).deletedByNewResource = false

@[mk_iff]
structure TakesFinalizer (v t : Pair R) : Prop where
  had : ∃ r ∈ v.old, MigrationFinalizer ∈ (metadata r).finalizers
  lost : ∀ r ∈ t.old, MigrationFinalizer ∉ (metadata r).finalizers

theorem takesFinalizer_same (same : t.old.map traits = v.old.map traits) :
    ¬ TakesFinalizer v t := by
  intro taken
  obtain ⟨r, there, has⟩ := taken.had
  rw [there] at same
  obtain ⟨later, stored, alike⟩ := Option.map_eq_some_iff.mp same
  have kept : (traits later).finalizers = (traits r).finalizers := by rw [alike]
  exact taken.lost later stored (kept.symm ▸ has)

theorem unannounced_same (same : t.old.map traits = v.old.map traits)
    (before : v.Unannounced) : t.Unannounced := by
  intro r there
  rw [there] at same
  obtain ⟨earlier, stored, alike⟩ := Option.map_eq_some_iff.mp same.symm
  have kept : (traits earlier).deletedByNewResource = (traits r).deletedByNewResource := by
    rw [alike]
  exact kept.symm.trans (before earlier stored)

namespace Loss

section History

def Existed {R : Type} {S : Server I} (view : S.State → Pair R) (past : List (Event S)) : Prop :=
  ∃ e ∈ past, (view e.before).new.isSome = true

theorem Existed.extend {R : Type} {S : Server I} {view : S.State → Pair R} {w : World S}
    {e : Event S} (existed : Existed view w.past) : Existed view (w.extend e).past := by
  obtain ⟨earlier, happened, there⟩ := existed
  exact ⟨earlier, List.mem_cons_of_mem _ happened, there⟩

variable {S : Server I} (view : S.State → Pair R)

def KeepsSilent (e : Event S) : Prop :=
  (view e.prior).Unannounced → (view e.before).Unannounced

def Migrated (e : Event S) (earlier : List (Event S)) : Prop :=
  TakesFinalizer (view e.before) (view e.after) → Existed view earlier

structure Lossless (w : World S) : Prop where
  migrated : Throughout (Migrated view) w.past
  announced : Existed view w.past ∨ (view w.state).Unannounced

end History

variable {S : Server I} {view : S.State → Pair R} {w : World S} {e : Event S}

abbrev KeepsLossless (view : S.State → Pair R) {α : Type} (program : Program I α) : Prop :=
  Keeps (KeepsSilent view) (Lossless view) (Lossless view) program

section Steps

theorem Lossless.existed {α : Type} (program : Program I α) (lossless : Lossless view w)
    (existed : Existed view w.past) :
    Safe (KeepsSilent view) (Lossless view) program (fun _ => Lossless view) w := by
  have keeps : Keeps (KeepsSilent view) (Lossless view)
      (fun w => Lossless view w ∧ Existed view w.past) program := by
    apply keeps_of_calls (fun _ both => both.1)
      ((Program.onlyCalls_any program) : program.OnlyCalls fun _ => True)
    intro w choice op _ _ ⟨lossless, existed⟩
    exact ⟨⟨⟨fun _ => existed, lossless.migrated⟩, Or.inl existed.extend⟩, existed.extend⟩
  exact (keeps w ⟨lossless, existed⟩).mono fun _ _ both => both.1

theorem Lossless.step (lossless : Lossless view w) (prior : e.prior = w.state)
    (silent : KeepsSilent view e) (kept : ¬ TakesFinalizer (view e.before) (view e.after))
    (unannounced : (view e.before).Unannounced → (view e.after).Unannounced) :
    Lossless view (w.extend e) := by
  refine ⟨⟨fun taken => absurd taken kept, lossless.migrated⟩, ?_⟩
  rcases lossless.announced with existed | before
  · exact Or.inl existed.extend
  · exact Or.inr (unannounced (silent (prior ▸ before)))

theorem Lossless.same (lossless : Lossless view w) (prior : e.prior = w.state)
    (silent : KeepsSilent view e)
    (same : (view e.after).old.map traits = (view e.before).old.map traits) :
    Lossless view (w.extend e) :=
  lossless.step prior silent (takesFinalizer_same same) (unannounced_same same)

variable {k : Migrator I R} {served : S.Choice → Prop} (lawful : k.Lawful S view served)

include lawful

theorem safe_getNew (lossless : Lossless view w) : Safe (KeepsSilent view) (Lossless view) k.getNew
    (OkWith (Lossless view) fun _ w => Existed view w.past) w := by
  apply (lawful.getNew.safe lossless).mono
  rintro reply later ⟨e, silent, prior, rfl, unchanged, reads⟩
  have next := lossless.same prior silent (by rw [unchanged])
  refine ⟨next, fun r ok => ?_⟩
  subst ok
  refine ⟨e, List.mem_cons_self, ?_⟩
  rw [reads.ok]
  rfl

theorem safe_getOld (lossless : Lossless view w) : Safe (KeepsSilent view) (Lossless view) k.getOld
    (OkWith (Lossless view) fun r w =>
      Existed view w.past ∨ (metadata r).deletedByNewResource = false) w := by
  apply (lawful.getOld.safe lossless).mono
  rintro reply later ⟨e, silent, prior, rfl, unchanged, reads⟩
  have next := lossless.same prior silent (by rw [unchanged])
  refine ⟨next, fun r ok => ?_⟩
  subst ok
  rcases next.announced with existed | unannounced
  · exact Or.inl existed
  · rw [World.extend_state, unchanged] at unannounced
    exact Or.inr (unannounced r reads.ok)

theorem safe_updateOld {r : R} (lossless : Lossless view w)
    (unannounced : (metadata r).deletedByNewResource = false)
    (has : MigrationFinalizer ∈ (metadata r).finalizers) :
    Safe (KeepsSilent view) (Lossless view) (k.updateOld r) (fun _ => Lossless view) w := by
  apply ((lawful.updateOld r).safe lossless).mono
  rintro reply later ⟨e, silent, prior, rfl, _, wrote⟩
  generalize revised : (view e.after).revision = revision at wrote
  generalize before : (view e.before).old = stored at wrote
  generalize after : (view e.after).old = changed at wrote
  cases wrote with
  | rejected _ err _ => exact lossless.same prior silent (by rw [before, after])
  | stays current updated _ accepts left held told =>
    apply lossless.step prior silent
    · intro taken
      apply taken.lost updated after
      rw [left]
      exact has
    · intro _ other there
      cases after.symm.trans there
      rw [left]
      exact unannounced
  | goes current updated _ accepts left deleting last told =>
    rw [last] at has
    cases has

end Steps

section Passes

variable {k : Migrator I R} {served : S.Choice → Prop} (lawful : k.Lawful S view served)

include lawful

theorem safe_handleOldDeletion {old : R} (lossless : Lossless view w)
    (read : Existed view w.past ∨ (metadata old).deletedByNewResource = false) :
    Safe (KeepsSilent view) (Lossless view) (k.handleOldDeletion old)
      (fun _ => Lossless view) w := by
  rcases read with existed | unannounced
  · exact lossless.existed _ existed
  rw [Migrator.handleOldDeletion]
  split
  · apply (safe_getNew lawful lossless).thenOk
    · intro err w lossless
      cases err with
      | notFound =>
        rw [unannounced]
        exact lossless
      | _ => exact lossless
    · exact fun _ _ lossless existed => lossless.existed _ existed
  · exact lossless

theorem keeps_migrateOld (old : R) : KeepsLossless view (k.migrateOld old) := by
  intro w lossless
  apply (safe_getNew lawful lossless).thenOk
  · intro err w lossless
    cases err with
    | notFound =>
      dsimp only
      split
      · exact lossless
      split
      · exact lossless
      refine keeps_of_calls (fun _ here => here) (lawful.createLeavesOld old) ?_ w lossless
      intro w choice op leaves silent lossless
      apply lossless.same rfl silent
      exact congrArg _ (leaves choice _)
    | _ => exact lossless
  · exact fun _ _ lossless existed => lossless.existed _ existed

theorem keeps_reconcileOld : KeepsLossless view k.reconcileOld := by
  intro w lossless
  apply (safe_getOld lawful lossless).thenOk
  · intro err w lossless
    cases err <;> exact lossless
  intro old w lossless read
  dsimp only
  split
  · exact safe_handleOldDeletion lawful lossless read
  split
  · rcases read with existed | unannounced
    · exact lossless.existed _ existed
    have sent : metadata (setFinalizers old ((metadata old).finalizers ++ [MigrationFinalizer])) =
        { metadata old with finalizers := (metadata old).finalizers ++ [MigrationFinalizer] } := by
      rw [setFinalizers, metadata_withMetadata]
    have updated := safe_updateOld lawful (r := setFinalizers old
      ((metadata old).finalizers ++ [MigrationFinalizer])) lossless (sent ▸ unannounced)
      (by simp [sent])
    apply updated.bindOk
    · exact fun _ _ lossless => lossless
    exact fun updated => keeps_migrateOld lawful updated
  · exact keeps_migrateOld lawful old w lossless

theorem keeps_reconcile : KeepsLossless view k.reconcile := by
  intro w lossless
  apply (safe_getNew lawful lossless).thenOk
  · exact fun _ => keeps_reconcileOld lawful
  · exact fun _ _ lossless existed => lossless.existed _ existed

/-- In every run, whatever fails in it, a call that takes the finalizer from the old
resource comes after one that found the new resource. -/
theorem migrated_runs {start : World S} (passes : List (List S.Choice)) (fresh : start.past = [])
    (unannounced : (view start.state).Unannounced)
    (silent : ∀ e ∈ (runs k.reconcile passes start).past, KeepsSilent view e) :
    Throughout (Migrated view) (runs k.reconcile passes start).past := by
  have lossless : Lossless view start := by
    refine ⟨?_, Or.inr unannounced⟩
    rw [fresh]
    trivial
  exact (runs_keep (keeps_reconcile lawful) passes start lossless silent).migrated

end Passes

end Loss

section Decidable

instance (v : Pair R) : Decidable v.Unannounced :=
  inferInstanceAs (Decidable (∀ r ∈ v.old, _))

instance (v t : Pair R) : Decidable (TakesFinalizer v t) :=
  decidable_of_iff' _ (takesFinalizer_iff ..)

instance {S : Server I} (view : S.State → Pair R) (e : Event S) :
    Decidable (Loss.KeepsSilent view e) :=
  inferInstanceAs (Decidable (_ → _))

instance (e : MigrationEvent) : Decidable (Loss.KeepsSilent MigrationWorld.pair e) :=
  inferInstanceAs (Decidable (e.prior.pair.Unannounced → e.before.pair.Unannounced))

end Decidable

/-- An old resource of any kind keeps its finalizer until a new one has existed, in every
run in which nobody but the reconcilers sets the annotation. -/
theorem released_after_migration :
    (∀ (clusterName : String) (start : MigrationRun) (passes : List (List MigrationChoice)),
      start.past = [] → start.state.pair.Unannounced →
      (∀ e ∈ (runs (reconcile clusterName) passes start).past,
        Loss.KeepsSilent MigrationWorld.pair e) →
      ∀ later e earlier, (runs (reconcile clusterName) passes start).past = later ++ e :: earlier →
        TakesFinalizer e.before.pair e.after.pair →
        ∃ d ∈ earlier, d.before.newCluster.isSome = true) ∧
    ∀ (Spec Rest : Type) [DecidableEq Spec] [DecidableEq Rest] [Inhabited Rest]
      (start : Generic.GenericRun Spec Rest)
      (passes : List (List (Generic.GenericChoice Spec Rest))),
      start.past = [] → start.state.Unannounced →
      (∀ e ∈ (runs (Generic.reconcileGenericMigration Spec Rest) passes start).past,
        Loss.KeepsSilent id e) →
      ∀ (later : List (Generic.GenericEvent Spec Rest)) (e : Generic.GenericEvent Spec Rest)
        (earlier : List (Generic.GenericEvent Spec Rest)),
        (runs (Generic.reconcileGenericMigration Spec Rest) passes start).past =
          later ++ e :: earlier →
        TakesFinalizer e.before e.after → ∃ d ∈ earlier, d.before.new.isSome = true := by
  constructor
  · intro clusterName start passes fresh unannounced silent later e earlier split
    rw [reconcile_eq] at silent split
    have migrated := Loss.migrated_runs (lawful_clusterMigrator clusterName) passes fresh
      unannounced
      silent
    exact migrated.holds later e earlier split
  · intro Spec Rest _ _ _ start passes fresh unannounced silent later e earlier split
    have migrated := Loss.migrated_runs Generic.lawful_genericMigrator passes fresh unannounced
      silent
    exact migrated.holds later e earlier split

section Runs

def userDeleted : List (Generic.GenericChoice Unit Unit) :=
  { others := fun s => { s with
      old := s.old.map fun resource => { resource with deleting := true } } } :: Generic.quietCalls

theorem cluster_and_user_released :
    (∃ e ∈ (runs (reconcile "demo") [quietCalls, oldDeleted, quietCalls]
          beforeMigration).past.head?,
      TakesFinalizer e.before.pair e.after.pair ∧
      ∃ d ∈ (runs (reconcile "demo") [quietCalls, oldDeleted, quietCalls]
          beforeMigration).past.tail,
        d.before.newCluster.isSome = true) ∧
    ∃ e ∈ (runs (Generic.reconcileGenericMigration Unit Unit)
        [Generic.quietCalls, Generic.quietCalls, userDeleted] Generic.beforeMigration).past.head?,
      TakesFinalizer e.before e.after ∧
      ∃ d ∈ (runs (Generic.reconcileGenericMigration Unit Unit)
        [Generic.quietCalls, Generic.quietCalls, userDeleted] Generic.beforeMigration).past.tail,
          d.before.new.isSome = true := by
  have split : ∀ {E : Type} {past : List E} {e : E}, e ∈ past.head? →
      past = [] ++ e :: past.tail := by
    intro E past e last
    cases past with
    | nil => cases last
    | cons first rest =>
      cases last
      rfl
  have cluster : ∃ e ∈ (runs (reconcile "demo") [quietCalls, oldDeleted, quietCalls]
      beforeMigration).past.head?, TakesFinalizer e.before.pair e.after.pair := by decide +kernel
  have user : ∃ e ∈ (runs (Generic.reconcileGenericMigration Unit Unit)
      [Generic.quietCalls, Generic.quietCalls, userDeleted] Generic.beforeMigration).past.head?,
      TakesFinalizer e.before e.after := by decide +kernel
  obtain ⟨e, last, takes⟩ := cluster
  obtain ⟨d, final, taken⟩ := user
  refine ⟨⟨e, last, takes, ?_⟩, d, final, taken, ?_⟩
  · exact released_after_migration.1 "demo" beforeMigration _ rfl (by decide) (by decide +kernel)
      [] e _ (split last) takes
  · exact released_after_migration.2 Unit Unit Generic.beforeMigration _ rfl (by decide)
      (by decide +kernel)
      [] d _ (split final) taken

end Runs

end OpenSearchOperator.Migration
