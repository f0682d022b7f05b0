import OpenSearchOperator.Effects.Follow
import OpenSearchOperator.Migration.Generic

/-! What a pass of the generic migration makes of an old resource that is ready, where
every call is served and nobody else acts. -/

namespace OpenSearchOperator.Migration.Generic

open Api Effects HasMeta

variable {Spec Rest : Type} [DecidableEq Spec] [DecidableEq Rest] [Inhabited Rest]
  (picked now : String) {s : GenericWorld Spec Rest} {old : Resource Spec Rest}

abbrev quietly : GenericChoice Spec Rest := ⟨id, .served, picked, now⟩

def quietRun {α : Type} (program : GenericProg Spec Rest α) (s : GenericWorld Spec Rest) :
    α × GenericWorld Spec Rest :=
  follow (S := genericServer Spec Rest) (quietly picked now) program s

theorem quietRun_bind {α β : Type} (program : GenericProg Spec Rest α)
    (rest : α → GenericProg Spec Rest β) : quietRun picked now (program >>= rest) s =
      quietRun picked now (rest (quietRun picked now program s).1)
        (quietRun picked now program s).2 :=
  follow_bind ..

theorem quietRun_ask (op : Call Spec Rest) (s : GenericWorld Spec Rest) :
    quietRun picked now (ask op) s =
      serveCall picked now { s with revision := s.revision + 1 } op := by
  have undisturbed : disturbGeneric (quietly picked now) s =
      { s with revision := s.revision + 1 } := by
    simp [disturbGeneric, refresh]
  exact congrArg (fun t => answerCall (quietly picked now) t op) undisturbed

structure MadeFrom (old new : Resource Spec Rest) : Prop where
  uid : new.uid = picked
  spec : new.spec = old.spec
  stays : new.deleting = false

theorem follow_updateStatusAttempt {new : Resource Spec Rest}
    (status : Status Rest) (there : s.new = some new) (made : MadeFrom picked old new) :
    (quietRun picked now (updateStatusAttempt status ()) s).1 = (none, ()) ∧
      ∃ new, (quietRun picked now (updateStatusAttempt status ()) s).2.new = some new ∧
        MadeFrom picked old new := by
  have read : quietRun picked now (ask .getNew) s =
      (.ok new, { s with revision := s.revision + 1 }) := by
    rw [quietRun_ask, serveCall, there]
    rfl
  have written : quietRun picked now
      (ask (.updateNewStatus { new with status := clearManagedCluster status }))
      { s with revision := s.revision + 1 } = (.ok (), { s with
        revision := s.revision + 3
        new := some { new with
          resourceVersion := s.revision + 3, status := clearManagedCluster status } }) := by
    rw [quietRun_ask, serveCall]
    simp only [there]
    simp
  rw [updateStatusAttempt, quietRun_bind, read]
  rw [quietRun_bind, written]
  exact ⟨rfl, _, rfl, made.uid, made.spec, made.stays⟩

theorem follow_createGenericNewFromOld (old : Resource Spec Rest) (missing : s.new = none) : ∃ new,
      (quietRun picked now (createGenericNewFromOld old) s).2.new = some new ∧
        MadeFrom picked old new := by
  have created : quietRun picked now (ask (.createNew (newFromOld old now)))
      { s with revision := s.revision + 1 } = (.ok (), { s with
        revision := s.revision + 3
        new := some { newFromOld old now with
          uid := picked, resourceVersion := s.revision + 3, deleting := false
          status := emptyStatus } }) := by
    rw [quietRun_ask, serveCall]
    simp only [missing]
  have asked : quietRun picked now (ask .now) s = (now, { s with revision := s.revision + 1 }) :=
    quietRun_ask picked now .now s
  rw [createGenericNewFromOld, quietRun_bind, asked]
  rw [quietRun_bind, created]
  have made : MadeFrom picked old { newFromOld old now with
      uid := picked, resourceVersion := s.revision + 3, deleting := false
      status := emptyStatus } := ⟨rfl, rfl, rfl⟩
  obtain ⟨attempt, new, there, made⟩ := follow_updateStatusAttempt picked now
    (s := { s with revision := s.revision + 3, new := some _ }) old.status rfl made
  refine ⟨new, ?_, made⟩
  rw [quietRun_bind, updateObjectStatus, retry, quietRun_bind, attempt]
  exact there

theorem follow_getNew (missing : s.new = none) :
    quietRun picked now (genericMigrator Spec Rest).getNew s =
      (.error .notFound, { s with revision := s.revision + 1 }) := by
  refine (quietRun_ask picked now .getNew s).trans ?_
  rw [serveCall, missing]
  rfl

theorem follow_migrateOld (old : Resource Spec Rest) (s : GenericWorld Spec Rest)
    (missing : s.new = none) (unannounced : (metadata old).deletedByNewResource = false)
    (ready : isGenericResourceReady old = true) :
    ∃ new, (quietRun picked now ((genericMigrator Spec Rest).migrateOld old) s).2.new = some new ∧
      MadeFrom picked old new := by
  have started : (!(genericMigrator Spec Rest).isReady old) = false := by
    show (!isGenericResourceReady old) = false
    rw [ready]
    rfl
  rw [Migrator.migrateOld, quietRun_bind, follow_getNew picked now missing]
  rw [unannounced, started]
  exact follow_createGenericNewFromOld picked now old missing

def hold (revision : Nat) (old : Resource Spec Rest) : Resource Spec Rest :=
  { old with resourceVersion := revision, finalizers := old.finalizers ++ [MigrationFinalizer] }

theorem follow_hold (s : GenericWorld Spec Rest)
    (there : s.old = some old) (stays : old.deleting = false) :
    quietRun picked now ((genericMigrator Spec Rest).updateOld (setFinalizers old
        ((metadata old).finalizers ++ [MigrationFinalizer]))) s = (.ok (hold (s.revision + 2) old),
        { s with revision := s.revision + 2, old := some (hold (s.revision + 2) old) }) := by
  refine (quietRun_ask picked now (.updateOld _) s).trans ?_
  rw [serveCall]
  simp only [there, updateStored, setFinalizers, metadata_withMetadata]
  simp [metadata, withMetadata, accepted, keepStatus, stays, hold]

theorem follow_reconcileGenericMigration
    (there : s.old = some old) (missing : s.new = none) (stays : old.deleting = false)
    (unannounced : (metadata old).deletedByNewResource = false)
    (ready : isGenericResourceReady old = true) :
    ∃ new, (quietRun picked now (reconcileGenericMigration Spec Rest) s).2.new = some new ∧
      MadeFrom picked old new := by
  have readOld : quietRun picked now (genericMigrator Spec Rest).getOld
      { s with revision := s.revision + 1 } = (.ok old, { s with revision := s.revision + 2 }) := by
    refine (quietRun_ask picked now .getOld _).trans ?_
    rw [serveCall, there]
    rfl
  rw [reconcileGenericMigration, Migrator.reconcile, quietRun_bind,
    follow_getNew picked now missing]
  rw [Migrator.reconcileOld, quietRun_bind, readOld]
  dsimp only
  have remains : (metadata old).deleting = false := stays
  rw [remains]
  by_cases held : (metadata old).finalizers.contains MigrationFinalizer = true
  · rw [held]
    exact follow_migrateOld picked now old _ missing unannounced ready
  rw [Bool.not_eq_true] at held
  rw [held]
  simp only [Bool.not_false, if_true, Bool.false_eq_true, if_false]
  rw [quietRun_bind, follow_hold picked now { s with revision := s.revision + 2 } there stays]
  obtain ⟨new, created, made⟩ := follow_migrateOld picked now (hold (s.revision + 4) old)
    { s with revision := s.revision + 4, old := some (hold (s.revision + 4) old) }
    missing unannounced ready
  exact ⟨new, created, made.uid, made.spec, made.stays⟩

end OpenSearchOperator.Migration.Generic
