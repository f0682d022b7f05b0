import OpenSearchOperator.Effects.Follow
import OpenSearchOperator.Effects.History
import OpenSearchOperator.Migration.ClusterLaws

/-! The status of a migrated cluster. The copy goes through an update of the resource
itself, whose status the server drops; what the new resource has is the empty status it
was created with, until others write another one, and that goes back to the old one. -/

namespace OpenSearchOperator.Migration.StatusCopy

open Api Effects

variable {start : MigrationRun}

def freshStatus : ClusterStatus := ⟨"", [], "", false, 0, ""⟩

structure Creates (e : MigrationEvent) : Prop where
  missing : e.before.newCluster = none
  created : e.after.newCluster.isSome = true

structure WrittenByOthers (e : MigrationEvent) (status : ClusterStatus) : Prop where
  has : ∃ new ∈ e.before.newCluster, new.status = status
  hadNot : ∀ new ∈ e.prior.newCluster, new.status ≠ status

def Sourced (past : List MigrationEvent) (status : ClusterStatus) : Prop :=
  status = freshStatus ∨ ∃ e ∈ past, WrittenByOthers e status

def Faithful (status : ClusterStatus) (e : MigrationEvent) (earlier : List MigrationEvent) :
    Prop :=
  ∀ cluster, e.op = .updateOldStatus cluster →
    cluster.status = status ∨ ∃ e ∈ earlier, WrittenByOthers e cluster.status

section NewStatus

variable {past : List MigrationEvent} {status : ClusterStatus} {e : MigrationEvent}
  {w : MigrationRun}

theorem Sourced.extend (sourced : Sourced past status) : Sourced (e :: past) status := by
  rcases sourced with fresh | ⟨earlier, happened, written⟩
  · exact Or.inl fresh
  · exact Or.inr ⟨earlier, List.mem_cons_of_mem e happened, written⟩

theorem updateCluster_status (revision : Nat) (stored : Option Cluster) (cluster : Cluster) :
    ∀ new ∈ (updateCluster revision stored cluster).2, ∃ current ∈ stored,
      new.status = current.status := by
  intro new there
  cases stored with
  | none => cases there
  | some current =>
    refine ⟨current, rfl, ?_⟩
    rw [updateCluster] at there
    split at there
    · cases there
      rfl
    split at there
    · cases there
      rfl
    split at there
    · cases there
    · cases there
      rfl

/-- The status of the new resource is the one it was created with, or stays. -/
theorem newStatus_served {picked now : String} {s : MigrationWorld} {op : Call} :
    ∀ new ∈ (serveCall picked now s op).2.newCluster,
      s.newCluster = none ∧ new.status = freshStatus ∨
        ∃ current ∈ s.newCluster, new.status = current.status := by
  intro new there
  have kept (same : (serveCall picked now s op).2.newCluster = s.newCluster) :
      ∃ current ∈ s.newCluster, new.status = current.status := ⟨new, same ▸ there, rfl⟩
  cases op with
  | createNew cluster =>
    rw [serveCall] at there
    cases stored : s.newCluster with
    | none =>
      simp only [stored] at there
      cases there
      exact Or.inl ⟨rfl, rfl⟩
    | some current =>
      simp only [stored] at there
      exact Or.inr ⟨new, there, rfl⟩
  | updateNew cluster =>
    exact Or.inr (updateCluster_status (s.revision + 1) s.newCluster cluster new there)
  | updateOldStatus cluster =>
    apply Or.inr (kept _)
    rw [serveCall]
    split
    · rfl
    · split <;> rfl
  | deleteOld => exact Or.inr (kept (deleteOld_new s picked now))
  | updateSecret secret => exact Or.inr (kept (aside_serveCall rfl picked now s).2.1)
  | _ => exact Or.inr (kept rfl)

theorem newStatus_after : ∀ new ∈ e.after.newCluster,
    e.before.newCluster = none ∧ new.status = freshStatus ∨
      ∃ current ∈ e.before.newCluster, new.status = current.status :=
  answerCall_state e.choice e.before (fun t => ∀ new ∈ t.newCluster,
      e.before.newCluster = none ∧ new.status = freshStatus ∨
        ∃ current ∈ e.before.newCluster, new.status = current.status) e.op
    (fun new there => Or.inr ⟨new, there, rfl⟩) (newStatus_served)

def NewSourced (w : MigrationRun) : Prop :=
  ∀ new ∈ w.state.newCluster, Sourced w.past new.status

theorem sourced_before (choice : MigrationChoice) (op : Call)
    (sourced : NewSourced w) : ∀ new ∈ (w.arrive choice op).before.newCluster,
      Sourced (w.extend (w.arrive choice op)).past new.status := by
  intro new there
  by_cases had : ∃ earlier ∈ w.state.newCluster, earlier.status = new.status
  · obtain ⟨earlier, stored, same⟩ := had
    rw [← same]
    exact (sourced earlier stored).extend
  · refine Or.inr ⟨w.arrive choice op, List.mem_cons_self, ⟨new, there, rfl⟩, ?_⟩
    exact fun earlier stored same => had ⟨earlier, stored, same⟩

theorem NewSourced.extend (sourced : NewSourced w) (choice : MigrationChoice)
    (op : Call) : NewSourced (w.extend (w.arrive choice op)) := by
  intro new there
  rcases newStatus_after new there with ⟨_, fresh⟩ | ⟨current, stored, same⟩
  · exact Or.inl fresh
  · rw [same]
    exact sourced_before choice op sourced current stored

/-- From its creation on, the new resource has the empty status or one of others. -/
theorem sourced_once_created
    (sourced : (∃ e ∈ w.past, Creates e) → NewSourced w) (choice : MigrationChoice) (op : Call)
    (created : ∃ e ∈ (w.extend (w.arrive choice op)).past, Creates e) :
    NewSourced (w.extend (w.arrive choice op)) := by
  obtain ⟨e, happened, creates⟩ := created
  rcases List.mem_cons.mp happened with rfl | earlier
  · intro new there
    rcases newStatus_after new there with ⟨_, fresh⟩ | ⟨current, stored, _⟩
    · exact Or.inl fresh
    · rw [creates.missing] at stored
      cases stored
  · exact (sourced ⟨e, earlier, creates⟩).extend choice op

end NewStatus

section Runs

variable {w : MigrationRun} {op : migration.Call}

def Sent (w : MigrationRun) : Prop :=
  Throughout (fun e earlier => ∀ cluster, e.op = .updateOldStatus cluster →
    Sourced earlier cluster.status) w.past

def Honest (w : MigrationRun) : Prop := NewSourced w ∧ Sent w

def Call.plain : Call → Bool
  | .updateOldStatus _ => false
  | _ => true

abbrev Plain : migration.Call → Prop := fun op => Call.plain op = true

theorem Plain.of_sparesOld (spares : SparesOld op) : Plain op := by
  cases op <;> first | rfl | cases spares

theorem Sent.plain (sent : Sent w) (choice : MigrationChoice) (plain : Plain op) :
    Sent (w.extend (w.arrive choice op)) := by
  refine ⟨?_, sent⟩
  intro cluster same
  have same : op = .updateOldStatus cluster := same
  rw [same] at plain
  cases plain

theorem Honest.plain (honest : Honest w) (choice : MigrationChoice) (plain : Plain op) :
    Honest (w.extend (w.arrive choice op)) :=
  ⟨honest.1.extend choice op, honest.2.plain choice plain⟩

abbrev Permitted : MigrationEvent → Prop := fun _ => True

theorem keeps_plain {α : Type} {program : MigrationProg α} (only : program.OnlyCalls Plain) :
    Keeps Permitted Honest Honest program :=
  keeps_of_calls (fun _ honest => honest) only fun _ choice _ plain _ honest =>
    honest.plain choice plain

theorem keeps_ask (plain : Plain op) : Keeps Permitted Honest Honest (ask op) :=
  keeps_plain (onlyCalls_asked plain)

theorem safe_getNewSourced (honest : Honest w) :
    Safe Permitted Honest (ask .getNew) (OkWith Honest fun new w => Sourced w.past new.status)
      w := by
  refine ⟨honest, fun choice _ => ?_⟩
  have later : Honest (w.extend (w.arrive choice .getNew)) := honest.plain choice rfl
  refine ⟨later, fun new reply => later.1 new ?_⟩
  obtain ⟨told, unchanged⟩ := Prod.mk.inj (served_of_reply reply nofun)
  rw [World.extend_state, ← unchanged]
  exact found_ok told

theorem safe_updateOldStatus (cluster : Cluster) (honest : Honest w)
    (sourced : Sourced w.past cluster.status) :
    Safe Permitted Honest (ask (.updateOldStatus cluster)) (fun _ => Honest) w := by
  refine ⟨honest, fun choice _ => ⟨honest.1.extend choice _, ?_, honest.2⟩⟩
  intro other same
  cases same
  exact sourced

/-- Where a status is sent to the old resource, the new one was read before. -/
theorem safe_syncOldToNew (clusterName : String) (oldCluster : Cluster) {newCluster : Cluster}
    (honest : Honest w) (sourced : Sourced w.past newCluster.status) :
    Safe Permitted Honest (syncOldToNew clusterName oldCluster newCluster) (fun _ => Honest) w := by
  have transfer : Keeps Permitted Honest (fun w => Honest w ∧ Sourced w.past newCluster.status)
      (transferCertificateSecretOwnership clusterName newCluster) := by
    apply keeps_of_calls (fun _ both => both.1) (onlyCalls_transfer clusterName newCluster)
    intro w choice op spares _ both
    exact ⟨both.1.plain choice (Plain.of_sparesOld spares), both.2.extend⟩
  apply (transfer w ⟨honest, sourced⟩).bindNone
  · exact fun _ _ both => both.1
  intro w ⟨honest, sourced⟩
  dsimp only [syncStatusNewToOld]
  split
  · exact honest
  apply (safe_updateOldStatus { oldCluster with status := newCluster.status } honest sourced).bind
  intro reply w honest
  cases reply <;> exact honest

theorem keeps_migrateOld (clusterName : String) (oldCluster : Cluster) :
    Keeps Permitted Honest Honest (migrateOld clusterName oldCluster) := by
  intro w honest
  apply (safe_getNewSourced honest).thenOk
  · intro err w honest
    cases err with
    | notFound =>
      dsimp only
      split
      · exact honest
      split
      · exact honest
      · exact keeps_plain ((onlyCalls_createNewFromOld clusterName oldCluster).mono
          fun _ spares => Plain.of_sparesOld spares) w honest
    | _ => exact honest
  · exact fun _ _ honest sourced => safe_syncOldToNew clusterName oldCluster honest sourced

theorem within_plain (clusterName : String) : (clusterMigrator clusterName).Within Plain where
  getNew := onlyCalls_asked rfl
  getOld := onlyCalls_asked rfl
  updateNew _ := onlyCalls_asked rfl
  updateOld _ := onlyCalls_asked rfl
  deleteOld := onlyCalls_asked rfl

theorem keeps_reconcile (clusterName : String) :
    Keeps Permitted Honest Honest (reconcile clusterName) := by
  rw [reconcile_eq]
  refine (within_plain clusterName).keeps_reconcile (fun _ => True) (fun _ honest => honest)
    (fun _ choice _ plain _ honest => honest.plain choice plain) ?_ ?_ fun r _ => ?_
  · exact fun w honest => (keeps_ask rfl w honest).mono fun _ _ honest =>
      ⟨honest, fun _ _ => trivial⟩
  · exact fun r w honest => (keeps_ask rfl w honest).mono fun _ _ honest =>
      ⟨honest, fun _ _ => trivial⟩
  · rw [← migrateOld_eq]
    exact keeps_migrateOld clusterName r

end Runs

section Quiet

variable {s : MigrationWorld}

abbrev quiet : MigrationChoice := {}

def Standing (s : MigrationWorld) : Prop := ∃ new ∈ s.newCluster, new.deleting = false

theorem newCluster_quiet (s : MigrationWorld) :
    (disturbMigration quiet s).newCluster = s.newCluster := if_pos rfl

theorem updateCluster_current (revision : Nat) (current cluster : Cluster)
    (identity : cluster.uid = current.uid)
    (version : cluster.resourceVersion = current.resourceVersion)
    (stays : current.deleting = false) :
    ∃ updated, updateCluster revision (some current) cluster = (.ok updated, some updated) := by
  simp [updateCluster, identity, version, stays]

theorem Standing.served (standing : Standing s) (picked now : String) (op : Call) :
    Standing (serveCall picked now s op).2 := by
  obtain ⟨new, there, stays⟩ := standing
  cases op with
  | createNew cluster =>
    rw [serveCall, there]
    exact ⟨new, there, stays⟩
  | updateNew cluster =>
    rw [serveCall, there, Standing]
    simp only [updateCluster]
    split
    · exact ⟨new, rfl, stays⟩
    split
    · exact ⟨new, rfl, stays⟩
    · simp [stays]
  | updateOldStatus cluster =>
    rw [serveCall]
    split
    · exact ⟨new, there, stays⟩
    · split <;> exact ⟨new, there, stays⟩
  | deleteOld => exact ⟨new, (deleteOld_new s picked now).trans there, stays⟩
  | updateSecret secret =>
    exact ⟨new, (aside_serveCall rfl picked now s).2.1.trans there, stays⟩
  | _ => exact ⟨new, there, stays⟩

theorem standing_follow {α : Type} {program : MigrationProg α} (standing : Standing s) :
    Standing (follow (S := migrationServer) quiet program s).2 := by
  refine follow_keeps (S := migrationServer) (K := Standing) quiet (Program.onlyCalls_any program)
    ?_ standing
  intro s op _ standing
  have before : Standing (disturbMigration quiet s) := by
    rw [Standing, newCluster_quiet]
    exact standing
  exact before.served _ _ op

theorem follow_copyStatus (oldCluster : Cluster) (created : Option Cluster)
    (standing : Standing s) : ∃ updated, (follow (S := migrationServer) quiet
      (copyStatus oldCluster created) s).1 = (none, some updated) := by
  obtain ⟨new, there, stays⟩ := standing
  have read : follow (S := migrationServer) quiet (ask .getNew) s =
      (.ok new, disturbMigration quiet s) := by
    show (found (disturbMigration quiet s).newCluster, disturbMigration quiet s) = _
    rw [newCluster_quiet, there]
    rfl
  rw [copyStatus, follow_bind, read]
  have again : (disturbMigration quiet (disturbMigration quiet s)).newCluster = some new := by
    rw [newCluster_quiet, newCluster_quiet]
    exact there
  obtain ⟨updated, written⟩ := updateCluster_current
    ((disturbMigration quiet (disturbMigration quiet s)).revision + 1) new
    { new with status := oldCluster.status } rfl rfl stays
  refine ⟨updated, ?_⟩
  have reply : (follow (S := migrationServer) quiet
      (ask (.updateNew { new with status := oldCluster.status })) (disturbMigration quiet s)).1 =
      .ok updated := by
    show (updateCluster ((disturbMigration quiet (disturbMigration quiet s)).revision + 1)
      (disturbMigration quiet (disturbMigration quiet s)).newCluster _).1 = _
    rw [again, written]
  rw [follow_bind, reply]
  rfl

theorem unwritten_quiet {e : MigrationEvent} (driven : e.choice = quiet) (status : ClusterStatus) :
    ¬ WrittenByOthers e status := by
  intro written
  obtain ⟨new, there, has⟩ := written.has
  rw [Event.before, driven] at there
  exact written.hadNot new ((newCluster_quiet e.prior).symm.trans there) has

/-- `createNewFromOld` from the creation of the new resource on. -/
def copyAndTransfer (clusterName : String) (oldCluster : Cluster) : MigrationProg Returned := do
  match ← retry (fun err => err == some .notFound) (copyStatus oldCluster) 4 none with
  | (none, some createdCluster) =>
    let err ← transferCertificateSecretOwnership clusterName createdCluster
    return afterTransfer err { requeueAfter := seconds 5 }
  | (some err, _) => return ({}, some (.wrapped "failed to update new cluster status" err))
  | (none, none) => return ({}, none)

theorem follow_copyAndTransfer (clusterName : String) (oldCluster : Cluster)
    (standing : Standing s) : ∃ result, (follow (S := migrationServer) quiet
      (copyAndTransfer clusterName oldCluster) s).1 = (result, none) := by
  obtain ⟨updated, copied⟩ := follow_copyStatus oldCluster none standing
  have attempts : (follow (S := migrationServer) quiet
      (retry (fun err => err == some .notFound) (copyStatus oldCluster) 4 none) s).1 =
      (none, some updated) := by
    rw [retry, follow_bind, copied]
    rfl
  rw [copyAndTransfer, follow_bind, attempts]
  rw [follow_bind, follow_pure, afterTransfer]
  split
  · exact ⟨_, rfl⟩
  · exact ⟨_, rfl⟩

/-- A quiet `createNewFromOld` creates the new resource and returns without an error. -/
theorem quiet_creation (clusterName : String) (oldCluster : Cluster) :
    ∃ (start : MigrationRun) (calls : Nat) (result : Result),
      let created := exec (createNewFromOld clusterName oldCluster) (List.replicate calls quiet)
        start
      start.past = [] ∧ created.1 = some (result, none) ∧ (∃ e ∈ created.2.past, Creates e) ∧
        Standing created.2.state := by
  let start : MigrationRun := ⟨⟨0, some oldCluster, none, fun _ => none⟩, []⟩
  let asked := start.extend (start.arrive quiet .now)
  let creation : MigrationEvent := asked.arrive quiet (.createNew (newFromOld oldCluster ""))
  have standing : Standing (asked.extend creation).state := ⟨_, rfl, rfl⟩
  obtain ⟨result, noError⟩ := follow_copyAndTransfer clusterName oldCluster standing
  obtain ⟨calls, returned, state, _⟩ := exec_follow (S := migrationServer) quiet
    (copyAndTransfer clusterName oldCluster) (asked.extend creation)
  have whole : exec (createNewFromOld clusterName oldCluster)
      (List.replicate (calls + 2) quiet) start =
      exec (copyAndTransfer clusterName oldCluster) (List.replicate calls quiet)
        (asked.extend creation) := rfl
  refine ⟨start, calls + 2, result, rfl, ?_, ?_, ?_⟩
  · rw [whole, returned, noError]
  · rw [whole]
    exact ⟨creation, (exec_past _ _ _).subset List.mem_cons_self, rfl, rfl⟩
  · rw [whole, state]
    exact standing_follow standing

end Quiet

def Preserves (clusterName : String) (oldCluster : Cluster) : Prop :=
  ∀ (start : MigrationRun) (choices : List MigrationChoice) (result : Result), start.past = [] →
    let created := exec (createNewFromOld clusterName oldCluster) choices start
    created.1 = some (result, none) → (∃ e ∈ created.2.past, Creates e) →
      ((∀ e ∈ created.2.past, ∀ status, ¬ WrittenByOthers e status) →
        ∀ new ∈ created.2.state.newCluster, new.status = oldCluster.status) ∧
      ∀ passes : List (List MigrationChoice), Throughout (Faithful oldCluster.status)
        (runs (reconcile clusterName) passes created.2).past

theorem honest_created (clusterName : String) (oldCluster : Cluster)
    (choices : List MigrationChoice) (fresh : start.past = [])
    (created : ∃ e ∈ (exec (createNewFromOld clusterName oldCluster) choices start).2.past,
      Creates e) : Honest (exec (createNewFromOld clusterName oldCluster) choices start).2 := by
  let inv : MigrationRun → Prop := fun w =>
    ((∃ e ∈ w.past, Creates e) → NewSourced w) ∧ Sent w
  have keeps : Keeps Permitted inv inv (createNewFromOld clusterName oldCluster) := by
    apply keeps_of_calls (fun _ both => both) (onlyCalls_createNewFromOld clusterName oldCluster)
    intro w choice op spares _ both
    exact ⟨sourced_once_created both.1 choice op, both.2.plain choice (Plain.of_sparesOld spares)⟩
  have before : inv start := by
    refine ⟨?_, ?_⟩
    · intro ⟨e, happened, _⟩
      rw [fresh] at happened
      cases happened
    · rw [Sent, fresh]
      trivial
  have after := (keeps start before).always choices fun _ _ => trivial
  exact ⟨after.1 created, after.2⟩

theorem honest_runs (clusterName : String) (passes : List (List MigrationChoice))
    (honest : Honest start) :
    Honest (runs (reconcile clusterName) passes start) :=
  runs_keep (keeps_reconcile clusterName) passes start honest fun _ _ => trivial

theorem preserves_fresh (clusterName : String) {oldCluster : Cluster}
    (same : oldCluster.status = freshStatus) : Preserves clusterName oldCluster := by
  intro start choices result fresh created returned creates
  have honest := honest_created clusterName oldCluster choices fresh creates
  refine ⟨?_, ?_⟩
  · intro alone new there
    rcases honest.1 new there with initial | ⟨e, happened, written⟩
    · exact initial.trans same.symm
    · exact absurd written (alone e happened new.status)
  · intro passes
    apply (honest_runs clusterName passes honest).2.mono
    intro e earlier sent cluster same'
    rw [same]
    exact sent cluster same'

def runningCluster : Cluster where
  uid := "old"
  resourceVersion := 1
  labels := []
  annotations := []
  finalizers := [OldClusterFinalizer, MigrationFinalizer]
  deleting := false
  spec := ⟨⟨"2.19.0", false⟩, ⟨false⟩, ⟨false⟩, []⟩
  status := ⟨"RUNNING", [], "2.19.0", true, 3, "green"⟩

end OpenSearchOperator.Migration.StatusCopy
