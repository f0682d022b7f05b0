import OpenSearchOperator.Migration.Pair
import OpenSearchOperator.Migration.Transfer

/-! The migration of clusters obeys the laws of a migration. -/

namespace OpenSearchOperator.Migration

open Api Effects HasMeta

def MigrationWorld.pair (s : MigrationWorld) : Pair Cluster :=
  ⟨s.revision, s.oldCluster, s.newCluster⟩

def Served (choice : MigrationChoice) : Prop := choice.outcome = .served

def keepStatus (current cluster : Cluster) : Cluster := { cluster with status := current.status }

theorem metadata_keepStatus (current cluster : Cluster) :
    metadata (keepStatus current cluster) = metadata cluster := rfl

theorem updateCluster_eq {revision : Nat} {stored : Option Cluster} {cluster : Cluster} :
    updateCluster revision stored cluster = updateStored keepStatus revision stored cluster := by
  cases stored <;> rfl

theorem wrote_updateCluster (served : Prop) (revision : Nat) (stored : Option Cluster)
    (cluster : Cluster) {reply : Except ApiError Cluster}
    (told : reply = (updateCluster revision stored cluster).1 ∨
      ¬ served ∧ ∃ err, reply = .error err) :
    Wrote served revision cluster stored reply (updateCluster revision stored cluster).2 := by
  rw [updateCluster_eq] at told ⊢
  exact updateStored_wrote metadata_keepStatus revision stored cluster served reply told

section Answers

variable (choice : MigrationChoice) (s : MigrationWorld)

theorem answerCall_state (holds : MigrationWorld → Prop) (op : Call) (here : holds s)
    (served : holds (serveCall choice.uid choice.timestamp s op).2) :
    holds (answerCall choice s op).2 := by
  rw [answerCall]
  split
  · exact served
  · exact here
  · exact served

theorem bounded_serveCall (picked now : String) (bounded : s.pair.Bounded) (op : Call) :
    (serveCall picked now s op).2.pair.Bounded := by
  have older : ∀ {stored : Option Cluster},
      (∀ r ∈ stored, (metadata r).resourceVersion ≤ s.revision) →
      ∀ r ∈ stored, (metadata r).resourceVersion ≤ s.revision + 1 :=
    fun below r there => Nat.le_succ_of_le (below r there)
  cases op with
  | createNew cluster =>
    rw [serveCall]
    split
    · exact bounded
    refine ⟨older bounded.1, fun r there => ?_⟩
    cases there
    exact Nat.le_refl _
  | updateNew cluster => exact ⟨older bounded.1,
      (wrote_updateCluster True _ _ cluster (Or.inl rfl)).bounded bounded.2⟩
  | updateOld cluster => exact ⟨(wrote_updateCluster True _ _ cluster
      (Or.inl rfl)).bounded bounded.1, older bounded.2⟩
  | updateOldStatus cluster =>
    rw [serveCall]
    split
    · exact bounded
    split
    · exact bounded
    refine ⟨fun r there => ?_, older bounded.2⟩
    cases there
    exact Nat.le_refl _
  | deleteOld =>
    rw [serveCall]
    split
    · exact bounded
    refine ⟨fun r there => ?_, older bounded.2⟩
    split at there
    · cases there
    · cases there
      exact Nat.le_refl _
  | updateSecret secret =>
    rw [serveCall]
    split
    · exact bounded
    split
    · exact bounded
    · exact ⟨older bounded.1, older bounded.2⟩
  | _ => exact bounded

theorem refreshed_disturbed {revision : Nat} {stored changed : Option Cluster} :
    Refreshed revision (revision + 1) stored (if changed = stored then stored
      else changed.map fun cluster => { cluster with resourceVersion := revision + 1 }) := by
  split
  · exact Or.inl rfl
  refine Or.inr fun r there => ?_
  obtain ⟨other, _, rfl⟩ := Option.map_eq_some_iff.mp there
  exact ⟨Nat.lt_succ_self _, Nat.le_refl _⟩

theorem disturbed_disturbMigration : Disturbed s.pair (disturbMigration choice s).pair :=
  ⟨Nat.le_succ _, refreshed_disturbed, refreshed_disturbed⟩

theorem deleteOld_new (picked now : String) :
    (serveCall picked now s .deleteOld).2.newCluster = s.newCluster :=
  serveCall_newCluster .deleteOld picked now rfl

theorem deleted_deleteOld (picked now : String) {served : Prop} {reply : Except ApiError Unit}
    (told : reply = (serveCall picked now s .deleteOld).1 ∨ ¬ served ∧ ∃ err, reply = .error err) :
    Deleted served (serveCall picked now s .deleteOld).2.revision s.oldCluster reply
      (serveCall picked now s .deleteOld).2.oldCluster := by
  rcases s with ⟨revision, old, new, secrets⟩
  cases old with
  | none =>
    rcases told with rfl | ⟨refused, err, rfl⟩
    · exact .rejected none .notFound fun _ => ⟨rfl, rfl⟩
    · exact .rejected none err fun yes => absurd yes refused
  | some current =>
    show Deleted served (revision + 1) (some current) reply (if current.finalizers = [] then none
      else some { current with resourceVersion := revision + 1, deleting := true })
    split
    case isTrue last => exact .goes current reply last told
    case isFalse => exact .stays current _ reply rfl told

theorem reads_getNew : (answerCall choice s .getNew).2 = s ∧
    Reads (Served choice) s.newCluster (answerCall choice s .getNew).1 := by
  rw [Served, answerCall]
  cases choice.outcome with
  | served => exact ⟨rfl, Or.inl rfl⟩
  | refused fault => exact ⟨rfl, Or.inr ⟨by simp, _, fault_ne_notFound fault, rfl⟩⟩
  | lost => exact ⟨rfl, Or.inr ⟨by simp, .unavailable, by simp, rfl⟩⟩

theorem reads_getOld : (answerCall choice s .getOld).2 = s ∧
    Reads (Served choice) s.oldCluster (answerCall choice s .getOld).1 := by
  rw [Served, answerCall]
  cases choice.outcome with
  | served => exact ⟨rfl, Or.inl rfl⟩
  | refused fault => exact ⟨rfl, Or.inr ⟨by simp, _, fault_ne_notFound fault, rfl⟩⟩
  | lost => exact ⟨rfl, Or.inr ⟨by simp, .unavailable, by simp, rfl⟩⟩

theorem writes_updateNew (cluster : Cluster) :
    (answerCall choice s (.updateNew cluster)).2.oldCluster = s.oldCluster ∧
      Wrote (Served choice) (answerCall choice s (.updateNew cluster)).2.revision cluster
        s.newCluster (answerCall choice s (.updateNew cluster)).1
        (answerCall choice s (.updateNew cluster)).2.newCluster := by
  rw [Served, answerCall]
  cases choice.outcome with
  | served => exact ⟨rfl, wrote_updateCluster _ _ _ cluster (Or.inl rfl)⟩
  | refused fault => exact ⟨rfl, .rejected _ _ (by simp)⟩
  | lost => exact ⟨rfl, wrote_updateCluster _ _ _ cluster (Or.inr ⟨by simp, _, rfl⟩)⟩

theorem writes_updateOld (cluster : Cluster) :
    (answerCall choice s (.updateOld cluster)).2.newCluster = s.newCluster ∧
      Wrote (Served choice) (answerCall choice s (.updateOld cluster)).2.revision cluster
        s.oldCluster (answerCall choice s (.updateOld cluster)).1
        (answerCall choice s (.updateOld cluster)).2.oldCluster := by
  rw [Served, answerCall]
  cases choice.outcome with
  | served => exact ⟨rfl, wrote_updateCluster _ _ _ cluster (Or.inl rfl)⟩
  | refused fault => exact ⟨rfl, .rejected _ _ (by simp)⟩
  | lost => exact ⟨rfl, wrote_updateCluster _ _ _ cluster (Or.inr ⟨by simp, _, rfl⟩)⟩

theorem deletes_deleteOld : (answerCall choice s .deleteOld).2.newCluster = s.newCluster ∧
    Deleted (Served choice) (answerCall choice s .deleteOld).2.revision s.oldCluster
      (answerCall choice s .deleteOld).1 (answerCall choice s .deleteOld).2.oldCluster := by
  rw [Served, answerCall]
  cases choice.outcome with
  | served => exact ⟨deleteOld_new _ _ _, deleted_deleteOld _ _ _ (Or.inl rfl)⟩
  | refused fault => exact ⟨rfl, .rejected _ _ (by simp)⟩
  | lost => exact ⟨deleteOld_new _ _ _, deleted_deleteOld _ _ _ (Or.inr ⟨by simp, _, rfl⟩)⟩

end Answers

section Minor

variable {s : MigrationWorld} {op : Call} {cluster : Cluster}

theorem minor_answer (source : Option Cluster) (choice : MigrationChoice) (s : MigrationWorld)
    (served : ∀ picked now, Minor source s.pair (serveCall picked now s op).2.pair) :
    Minor source s.pair (answerCall choice s op).2.pair :=
  answerCall_state choice s (fun t => Minor source s.pair t.pair) op (minor_refl source s.pair)
    (served _ _)

def Call.aside : Call → Bool
  | .getNew => true
  | .getOld => true
  | .getSecret _ => true
  | .updateSecret _ => true
  | .now => true
  | _ => false

theorem aside_serveCall (aside : op.aside = true) (picked now : String) (s : MigrationWorld) :
    (serveCall picked now s op).2.oldCluster = s.oldCluster ∧
      (serveCall picked now s op).2.newCluster = s.newCluster ∧
      s.revision ≤ (serveCall picked now s op).2.revision := by
  cases op with
  | updateSecret secret =>
    rw [serveCall]
    split
    · exact ⟨rfl, rfl, Nat.le_refl _⟩
    split
    · exact ⟨rfl, rfl, Nat.le_refl _⟩
    · exact ⟨rfl, rfl, Nat.le_succ _⟩
  | getNew => exact ⟨rfl, rfl, Nat.le_refl _⟩
  | getOld => exact ⟨rfl, rfl, Nat.le_refl _⟩
  | getSecret => exact ⟨rfl, rfl, Nat.le_refl _⟩
  | now => exact ⟨rfl, rfl, Nat.le_refl _⟩
  | _ => cases aside

theorem minor_aside (source : Option Cluster) (aside : op.aside = true) (choice : MigrationChoice) :
    Minor source s.pair (answerCall choice s op).2.pair := by
  apply minor_answer source choice s
  intro picked now
  obtain ⟨old, new, _⟩ := aside_serveCall aside picked now s
  exact minor_same old new

theorem minor_updateOldStatus (source : Option Cluster) (choice : MigrationChoice) :
    Minor source s.pair (answerCall choice s (.updateOldStatus cluster)).2.pair := by
  apply minor_answer source choice s
  intro picked now
  rw [serveCall]
  split
  · exact minor_refl source s.pair
  rename_i current stored
  split
  · exact minor_refl source s.pair
  refine ⟨?_, fun r there has => ⟨r, there, has, rfl⟩, fun nothing r there => ?_⟩
  · show some (traits _) = s.oldCluster.map traits
    rw [stored]
    rfl
  · cases nothing.symm.trans there

theorem get_merge_of_none {base other : Annotations} {key : String} (unset : base.get key = none) :
    (base.merge other).get key = other.get key := by
  cases set : other.get key with
  | none => exact get_merge_none unset set
  | some value =>
    simp only [Labels.get, Labels.merge, List.find?_append, Option.map_eq_none_iff,
      Option.map_eq_some_iff] at unset set ⊢
    obtain ⟨entry, located, same⟩ := set
    rw [unset, Option.none_or, List.find?_filter]
    refine ⟨entry, ?_, same⟩
    rw [← located]
    congr 1
    funext candidate
    by_cases here : candidate.1 = key
    · simp only [here, unset]
      simp
    · simp [here]

theorem minor_createNew (source : Cluster) (timestamp : String) (choice : MigrationChoice)
    (s : MigrationWorld) : Minor (some source) s.pair
      (answerCall choice s (.createNew (newFromOld source timestamp))).2.pair := by
  apply minor_answer _ choice s
  intro picked now
  rw [serveCall]
  split
  · exact minor_refl _ s.pair
  rename_i nothing
  refine ⟨rfl, fun r there => ?_, fun _ r there => ?_⟩
  · cases nothing.symm.trans there
  cases there
  exact ⟨source, rfl, fun unset =>
    get_merge_of_none unset⟩

theorem minor_updateNew (source : Option Cluster) {copy : Cluster} (choice : MigrationChoice)
    (known : Known copy s.revision s.newCluster)
    (version : cluster.resourceVersion = copy.resourceVersion)
    (finalizers : cluster.finalizers = copy.finalizers) :
    Minor source s.pair (answerCall choice s (.updateNew cluster)).2.pair := by
  apply minor_answer source choice s
  intro picked now
  have wrote := wrote_updateCluster True (s.revision + 1) s.newCluster cluster (Or.inl rfl)
  exact wrote.minor rfl known version finalizers

end Minor

section Discreet

variable {permit : MigrationEvent → Prop} {inv : MigrationRun → Prop} {source : Option Cluster}
  {copy : Cluster} {clusterName : String} {w : MigrationRun} {op : Call}

def Whole (inv : MigrationRun → Prop) (w : MigrationRun) : Prop :=
  inv w ∧ w.state.pair.Bounded

def KnownNew (copy : Cluster) (w : MigrationRun) : Prop :=
  Known copy w.state.revision w.state.newCluster

def Undisturbed (permit : MigrationEvent → Prop) (inv : MigrationRun → Prop)
    (source : Option Cluster) : Prop :=
  ∀ w e, permit e → e.prior = w.state → inv w → Minor source e.before.pair e.after.pair →
    inv (w.extend e)

theorem Whole.minor (kept : Undisturbed permit inv source) (whole : Whole inv w)
    {choice : MigrationChoice} (permitted : permit (w.arrive choice op))
    (minor : Minor source (w.arrive choice op).before.pair (w.arrive choice op).after.pair) :
    Whole inv (w.extend (w.arrive choice op)) := by
  refine ⟨kept w _ permitted rfl whole.1 minor, ?_⟩
  have before := (disturbed_disturbMigration choice w.state).bounded whole.2
  exact answerCall_state choice _ (fun t => t.pair.Bounded) op before
    (bounded_serveCall _ _ _ before op)

theorem KnownNew.aside (known : KnownNew copy w) (aside : op.aside = true)
    (choice : MigrationChoice) : KnownNew copy (w.extend (w.arrive choice op)) := by
  have disturbed := disturbed_disturbMigration choice w.state
  have before := disturbed.new.known disturbed.grows known
  obtain ⟨same, grows⟩ := answerCall_state choice (w.arrive choice op).before
    (fun t => t.newCluster = (w.arrive choice op).before.newCluster ∧
      (w.arrive choice op).before.revision ≤ t.revision) op ⟨rfl, Nat.le_refl _⟩
    (aside_serveCall aside _ _ _).2
  refine ⟨Nat.le_trans before.1 grows, fun r there => before.2 r ?_⟩
  exact same.symm.trans there

abbrev Aside : migration.Call → Prop := fun op => Call.aside op = true

theorem onlyCalls_transferSecret (newCluster : Cluster) (secretName : String) :
    (transferSecret clusterName newCluster secretName).OnlyCalls Aside := by
  refine ⟨rfl, fun reply => ?_⟩
  rcases reply with ⟨_ | _⟩ | secret <;> try trivial
  show Program.OnlyCalls Aside (if _ then _ else _)
  split
  · trivial
  · refine ⟨rfl, fun reply => ?_⟩
    cases reply <;> trivial

abbrev KeepsWhole (permit : MigrationEvent → Prop) (inv : MigrationRun → Prop) {α : Type}
    (program : MigrationProg α) : Prop :=
  Keeps permit (Whole inv) (Whole inv) program

section Kept

variable (kept : Undisturbed permit inv source)

include kept

theorem keeps_aside (aside : op.aside = true) : KeepsWhole permit inv (ask op) :=
  fun _ whole => ⟨whole, fun choice permitted =>
    whole.minor kept permitted (minor_aside source aside choice)⟩

theorem safe_getNewKnown (whole : Whole inv w) : Safe permit (Whole inv) (ask .getNew)
    (OkWith (Whole inv) fun cluster w => KnownNew cluster w) w := by
  refine ⟨whole, fun choice permitted => ?_⟩
  have later := whole.minor kept permitted (minor_aside source rfl choice)
  refine ⟨later, fun cluster reply => later.2.known ?_⟩
  obtain ⟨told, unchanged⟩ := Prod.mk.inj (served_of_reply reply nofun)
  rw [World.extend_state, ← unchanged]
  exact found_ok told

theorem safe_updateNewKnown (cluster : Cluster) (whole : Whole inv w) (known : KnownNew copy w)
    (version : cluster.resourceVersion = copy.resourceVersion)
    (finalizers : cluster.finalizers = copy.finalizers) :
    Safe permit (Whole inv) (ask (.updateNew cluster))
      (OkWith (Whole inv) fun updated w => KnownNew updated w) w := by
  refine ⟨whole, fun choice permitted => ?_⟩
  have disturbed := disturbed_disturbMigration choice w.state
  have before := disturbed.new.known disturbed.grows known
  have later := whole.minor kept permitted (minor_updateNew source choice before version finalizers)
  refine ⟨later, fun updated reply => ?_⟩
  have wrote : Wrote (Served choice) (w.arrive choice (.updateNew cluster)).after.revision cluster
      _ (w.arrive choice (.updateNew cluster)).reply
      (w.arrive choice (.updateNew cluster)).after.newCluster :=
    (writes_updateNew choice (w.arrive choice (.updateNew cluster)).before cluster).2
  rw [reply] at wrote
  exact wrote.known later.2

/-- The transfer keeps the finalizers of the copy of the new resource that it is given. -/
theorem discreet_transfer (whole : Whole inv w) (known : KnownNew copy w) :
    Safe permit (Whole inv) (transferCertificateSecretOwnership clusterName copy)
      (fun _ => Whole inv) w := by
  rw [transferCertificateSecretOwnership]
  split
  · exact whole
  have secrets : Keeps permit (Whole inv) (fun w => Whole inv w ∧ KnownNew copy w)
      (eachUntilError (transferSecret clusterName copy) (secretNames clusterName)) := by
    apply keeps_of_calls (fun _ both => both.1)
      (onlyCalls_eachUntilError (onlyCalls_transferSecret copy))
    rintro w choice op aside permitted ⟨whole, known⟩
    exact ⟨whole.minor kept permitted (minor_aside source aside choice), known.aside aside choice⟩
  apply (secrets w ⟨whole, known⟩).bindNone
  · exact fun _ _ both => both.1
  rintro w ⟨whole, known⟩
  apply (safe_updateNewKnown kept (markTransferred copy) whole known rfl rfl).bind
  exact fun _ w both => both.1

theorem discreet_syncOldToNew (oldCluster : Cluster) (whole : Whole inv w)
    (known : KnownNew copy w) :
    Safe permit (Whole inv) (syncOldToNew clusterName oldCluster copy) (fun _ => Whole inv) w := by
  apply (discreet_transfer kept whole known).bindNone
  · exact fun _ _ whole => whole
  intro w whole
  dsimp only
  rw [syncStatusNewToOld]
  split
  · exact whole
  refine ⟨whole, fun choice permitted => ?_⟩
  have later := whole.minor kept permitted (minor_updateOldStatus source choice)
  cases (w.arrive choice _).reply <;> exact later

theorem discreet_copyStatus (oldCluster : Cluster) (created : Option Cluster)
    (whole : Whole inv w) :
    Safe permit (Whole inv) (copyStatus oldCluster created) (fun result w => Whole inv w ∧
        (result.1 = none → ∀ cluster ∈ result.2, KnownNew cluster w)) w := by
  apply (safe_getNewKnown kept whole).thenOk
  · exact fun _ _ whole => ⟨whole, nofun⟩
  intro stored w whole known
  apply (safe_updateNewKnown kept { stored with status := oldCluster.status } whole known rfl
    rfl).thenOk
  · exact fun _ _ whole => ⟨whole, nofun⟩
  intro updated w whole known
  refine ⟨whole, fun _ other same => ?_⟩
  cases same
  exact known

end Kept

theorem discreet_createNewFromOld {oldCluster : Cluster}
    (kept : Undisturbed permit inv (some oldCluster)) :
    KeepsWhole permit inv (createNewFromOld clusterName oldCluster) := by
  apply (keeps_aside kept rfl).bind
  intro timestamp w whole
  have create : KeepsWhole permit inv (ask (.createNew (newFromOld oldCluster timestamp))) :=
    fun _ whole => ⟨whole, fun choice permitted =>
      whole.minor kept permitted (minor_createNew oldCluster timestamp choice _)⟩
  apply (create w whole).bindOk
  · intro err w whole
    cases err with
    | alreadyExists =>
      apply (safe_getNewKnown kept whole).thenOk
      · exact fun _ _ whole => whole
      intro existing w whole known
      apply (discreet_transfer kept whole known).bind
      exact fun _ w whole => whole
    | _ => exact whole
  intro _ w whole
  apply (safe_retry_restored
    (fun created _ whole => discreet_copyStatus kept oldCluster created whole)
    (fun _ _ copied => copied.1) 4 none whole).bind
  intro ⟨err, created⟩ w ⟨whole, known⟩
  match err, created with
  | none, some createdCluster =>
    apply (discreet_transfer kept whole (known rfl createdCluster rfl)).bind
    exact fun _ w whole => whole
  | some err, _ => exact whole
  | none, none => exact whole

end Discreet

section LeavesOld

variable {op : migration.Call}

def Call.writesOld : Call → Bool
  | .updateOld _ => true
  | .updateOldStatus _ => true
  | .deleteOld => true
  | _ => false

abbrev SparesOld : migration.Call → Prop := fun op => Call.writesOld op = false

theorem SparesOld.leavesOld (spares : SparesOld op) :
    LeavesOld migrationServer MigrationWorld.pair op := by
  intro choice s
  apply answerCall_state choice s (fun t => t.oldCluster = s.oldCluster) op rfl
  cases op with
  | createNew cluster =>
    rw [serveCall]
    split <;> rfl
  | updateSecret secret =>
    rw [serveCall]
    split
    · rfl
    · split <;> rfl
  | updateOld => cases spares
  | updateOldStatus => cases spares
  | deleteOld => cases spares
  | _ => rfl

theorem sparesOld_of_aside (aside : Aside op) : SparesOld op := by
  cases op <;> first | rfl | cases aside

theorem onlyCalls_transfer (clusterName : String) (newCluster : Cluster) :
    (transferCertificateSecretOwnership clusterName newCluster).OnlyCalls SparesOld := by
  rw [transferCertificateSecretOwnership]
  split
  · trivial
  have secrets : (eachUntilError (transferSecret clusterName newCluster)
      (secretNames clusterName)).OnlyCalls Aside :=
    onlyCalls_eachUntilError (onlyCalls_transferSecret newCluster)
  apply (secrets.mono fun _ aside => sparesOld_of_aside aside).bindNone
  · exact fun _ => trivial
  exact ⟨rfl, fun _ => trivial⟩

theorem onlyCalls_copyStatus (oldCluster : Cluster) (created : Option Cluster) :
    (copyStatus oldCluster created).OnlyCalls SparesOld := by
  apply (onlyCalls_asked (by rfl)).bindOk
  · exact fun _ => trivial
  intro stored
  refine ⟨rfl, fun reply => ?_⟩
  cases reply <;> trivial

theorem onlyCalls_createNewFromOld (clusterName : String) (oldCluster : Cluster) :
    (createNewFromOld clusterName oldCluster).OnlyCalls SparesOld := by
  refine onlyCalls_ask rfl fun timestamp => ?_
  apply (onlyCalls_asked (by rfl)).bindOk
  · intro err
    cases err with
    | alreadyExists =>
      apply (onlyCalls_asked (by rfl)).bindOk
      · exact fun _ => trivial
      exact fun existing => (onlyCalls_transfer clusterName existing).bind fun _ => trivial
    | _ => trivial
  intro _
  apply (onlyCalls_retry (onlyCalls_copyStatus oldCluster) 4 none).bind
  intro ⟨err, created⟩
  match err, created with
  | none, some createdCluster =>
    exact (onlyCalls_transfer clusterName createdCluster).bind fun _ => trivial
  | some err, _ => trivial
  | none, none => trivial

end LeavesOld

theorem lawful_clusterMigrator (clusterName : String) :
    (clusterMigrator clusterName).Lawful migrationServer MigrationWorld.pair Served where
  disturbed := disturbed_disturbMigration
  bounded choice s op bounded := answerCall_state choice s (fun t => t.pair.Bounded) op bounded
    (bounded_serveCall s _ _ bounded op)
  getNew := ⟨.getNew, id, rfl, fun choice s =>
    ⟨congrArg _ (reads_getNew choice s).1, (reads_getNew choice s).2⟩⟩
  getOld := ⟨.getOld, id, rfl, fun choice s =>
    ⟨congrArg _ (reads_getOld choice s).1, (reads_getOld choice s).2⟩⟩
  updateNew cluster :=
    ⟨.updateNew cluster, id, rfl, fun choice s => writes_updateNew choice s cluster⟩
  updateOld cluster :=
    ⟨.updateOld cluster, id, rfl, fun choice s => writes_updateOld choice s cluster⟩
  deleteOld := ⟨.deleteOld, id, rfl, fun choice s => deletes_deleteOld choice s⟩
  createLeavesOld old := (onlyCalls_createNewFromOld clusterName old).mono fun _ spares =>
    spares.leavesOld
  create _ _ bounded := fun _ _ holds kept =>
    ((discreet_createNewFromOld kept _ ⟨holds, bounded⟩).mono fun _ _ whole => whole.1).weaken
      fun _ whole => whole.1
  sync old _ _ bounded known := fun _ _ holds kept =>
    ((discreet_syncOldToNew kept old ⟨holds, bounded⟩ known).mono fun _ _ whole => whole.1).weaken
      fun _ whole => whole.1

end OpenSearchOperator.Migration
