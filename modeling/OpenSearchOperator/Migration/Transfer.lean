import OpenSearchOperator.Migration.Ownership

/-! The transfer of the certificate secrets, and the passes of the migration controller. -/

namespace OpenSearchOperator.Migration

open Api Effects

section Replies

variable {clusterName secretName uid : String} {w : MigrationRun} {cluster : Cluster}

theorem safe_getNew (sound : Sound clusterName w) : Upholds clusterName (ask .getNew)
    (OkWith (Sound clusterName) fun cluster w => Seen clusterName cluster w.state) w := by
  refine ⟨sound, fun choice guarded => ?_⟩
  have later := sound.neutral rfl guarded
  refine ⟨later, fun cluster reply => later.covered.seen ?_⟩
  obtain ⟨told, unchanged⟩ := Prod.mk.inj (served_of_reply reply nofun)
  rw [World.extend_state, ← unchanged]
  exact found_ok told

theorem safe_getOld (sound : Sound clusterName w) : Upholds clusterName (ask .getOld)
    (OkWith (Sound clusterName) fun cluster _ => ¬ transferred cluster) w := by
  refine ⟨sound, fun choice guarded => ⟨sound.neutral rfl guarded, fun cluster reply => ?_⟩⟩
  obtain ⟨told, _⟩ := Prod.mk.inj (served_of_reply reply nofun)
  exact guarded.unmarked cluster (found_ok told)

theorem updateCluster_annotations {revision : Nat} {stored : Option Cluster} {updated : Cluster}
    (reply : (updateCluster revision stored cluster).1 = .ok updated) :
    updated.annotations = cluster.annotations := by
  unfold updateCluster at reply
  split at reply
  · cases reply
  split at reply
  · cases reply
  split at reply
  · cases reply
  · cases reply
    rfl

theorem safe_updateOld (sound : Sound clusterName w) (unmarked : ¬ transferred cluster) :
    Upholds clusterName (ask (.updateOld cluster))
      (OkWith (Sound clusterName) fun updated _ => ¬ transferred updated) w := by
  refine ⟨sound, fun choice guarded => ⟨sound.neutral rfl guarded, fun updated reply => ?_⟩⟩
  have served := served_of_reply reply nofun
  show ¬ transferred updated
  rw [transferred, updateCluster_annotations (congrArg Prod.fst served)]
  exact unmarked

/-- A write of the new resource finds the identity that it names, or it is rejected. -/
theorem updateCluster_cases (revision : Nat) (stored : Option Cluster) (cluster : Cluster) :
    (updateCluster revision stored cluster).2 = stored ∧
        (∃ err, (updateCluster revision stored cluster).1 = .error err) ∨
      ∃ updated, (updateCluster revision stored cluster).1 = .ok updated ∧
        updated.uid = cluster.uid ∧ updated.annotations = cluster.annotations ∧
        ∀ after ∈ (updateCluster revision stored cluster).2, after = updated := by
  cases stored with
  | none => exact Or.inl ⟨rfl, _, rfl⟩
  | some current =>
    simp only [updateCluster]
    split
    · exact Or.inl ⟨rfl, _, rfl⟩
    split
    · exact Or.inl ⟨rfl, _, rfl⟩
    refine Or.inr ⟨_, rfl, rfl, rfl, fun after result => ?_⟩
    split at result
    · cases result
    · cases result
      rfl

theorem served_updateNew {s : MigrationWorld} (picked timestamp : String)
    (covered : Covered clusterName s)
    (secured : transferred cluster → AllSecured clusterName cluster.uid s) :
    Covered clusterName (serveCall picked timestamp s (.updateNew cluster)).2 ∧
      ∀ updated, (serveCall picked timestamp s (.updateNew cluster)).1 = .ok updated →
        Seen clusterName updated (serveCall picked timestamp s (.updateNew cluster)).2 := by
  have kept : ∀ {uid}, AllSecured clusterName uid s →
      AllSecured clusterName uid (serveCall picked timestamp s (.updateNew cluster)).2 :=
    fun all secretName member => (all secretName member).served rfl
  rcases updateCluster_cases (s.revision + 1) s.newCluster cluster with
    ⟨same, err, rejected⟩ | ⟨updated, accepted, identity, annotations, stored⟩
  · constructor
    · intro new there marked
      exact kept (covered new (same ▸ there) marked)
    · intro updated reply
      cases rejected.symm.trans reply
  · have alike : transferred updated ↔ transferred cluster := by
      rw [transferred, transferred, annotations]
    have seen : transferred updated → AllSecured clusterName updated.uid
        (serveCall picked timestamp s (.updateNew cluster)).2 := by
      intro marked
      rw [identity]
      exact kept (secured (alike.mp marked))
    constructor
    · intro new there marked
      rw [stored new there] at marked ⊢
      exact seen marked
    · intro other reply
      cases accepted.symm.trans reply
      refine ⟨seen, fun unmarked new there => ?_⟩
      rw [stored new there]
      exact unmarked

theorem safe_updateNew (cluster : Cluster) (sound : Sound clusterName w)
    (secured : transferred cluster → AllSecured clusterName cluster.uid w.state) :
    Upholds clusterName (ask (.updateNew cluster))
      (OkWith (Sound clusterName) fun updated w => Seen clusterName updated w.state) w := by
  refine ⟨sound, fun choice guarded => ?_⟩
  have before := Covered.disturbed (e := w.arrive choice (.updateNew cluster)) sound.covered guarded
  obtain ⟨covered, seen⟩ := served_updateNew choice.uid choice.timestamp
    before fun marked => (secured marked).disturbed guarded
  have named := Named.after (e := w.arrive choice (.updateNew cluster)) sound.named
  refine ⟨sound.extend rfl guarded named (after_of_served
    (e := w.arrive choice (.updateNew cluster)) _ before covered), fun updated reply => ?_⟩
  have served := served_of_reply reply nofun
  have told := seen updated (congrArg Prod.fst served)
  rw [served] at told
  exact told

theorem safe_createNew (sound : Sound clusterName w) (unmarked : ¬ transferred cluster) :
    Upholds clusterName (ask (.createNew cluster)) (fun _ => Sound clusterName) w := by
  refine ⟨sound, fun choice guarded => ?_⟩
  have before := Covered.disturbed (e := w.arrive choice (.createNew cluster)) sound.covered guarded
  have named := Named.after (e := w.arrive choice (.createNew cluster)) sound.named
  have covered : Covered clusterName (serveCall choice.uid choice.timestamp
      (w.arrive choice (.createNew cluster)).before (.createNew cluster)).2 := by
    rw [serveCall]
    split
    · exact before
    intro new there marked
    cases there
    exact absurd marked unmarked
  exact sound.extend rfl guarded named
    (after_of_served (e := w.arrive choice (.createNew cluster)) _ before covered)

end Replies

section Transfer

variable {clusterName secretName : String} {w : MigrationRun} {cluster : Cluster}

variable {done : List String} {uid : String} {secret : Secret}

def Transferring (clusterName : String) (w : MigrationRun) : Prop :=
  Sound clusterName w ∧ Unmarked w.state

theorem mem_upsertOwnerRef {ref : OwnerReference} {refs : List OwnerReference} :
    ref ∈ upsertOwnerRef ref refs := by
  rw [upsertOwnerRef]
  split
  · exact List.mem_append_right _ List.mem_cons_self
  rename_i index located
  have inside := (List.findIdx?_eq_some_iff_findIdx_eq.mp located).1
  exact List.mem_set inside ref

theorem owned_withOwner (clusterName : String) (newCluster : Cluster) (secret : Secret) :
    Secret.OwnedBy { secret with
      ownerReferences := withOwner clusterName newCluster secret.ownerReferences }
      newCluster.uid := by
  let ref : OwnerReference :=
    { group := "opensearch.org", kind := "OpenSearchCluster", name := clusterName
      uid := newCluster.uid, controller := false }
  have upserted : ∃ owner ∈ upsertOwnerRef { ref with controller := true } secret.ownerReferences,
      owner.uid = newCluster.uid := ⟨_, mem_upsertOwnerRef, rfl⟩
  have appended : ∃ owner ∈ secret.ownerReferences ++ [ref], owner.uid = newCluster.uid :=
    ⟨ref, List.mem_append_right _ List.mem_cons_self, rfl⟩
  rw [withOwner]
  dsimp only [setControllerReference]
  split
  · split
    · exact upserted
    · exact appended
  · exact upserted

theorem safe_getSecret (members : ∀ other ∈ done, other ∈ secretNames clusterName)
    (transferring : Transferring clusterName w)
    (before : ∀ other ∈ done, Secured uid other w.state) :
    Upholds clusterName (ask (.getSecret secretName))
      (fun reply w => Transferring clusterName w ∧ (∀ other ∈ done, Secured uid other w.state) ∧
        (reply = .error .notFound → w.state.secrets secretName = none) ∧
        ∀ secret, reply = .ok secret → w.state.secrets secretName = some secret) w := by
  refine ⟨transferring.1, fun choice guarded => ?_⟩
  have unchanged : (w.arrive choice (.getSecret secretName)).after =
      (w.arrive choice (.getSecret secretName)).before := by
    show (answerCall _ _ _).2 = _
    rw [answerCall]
    split <;> rfl
  have told : ∀ reply, (w.arrive choice (.getSecret secretName)).reply = reply →
      reply = found ((w.arrive choice (.getSecret secretName)).before.secrets secretName) ∨
        ∃ err ≠ ApiError.notFound, reply = .error err := by
    intro reply same
    have same : (answerCall choice (w.arrive choice (.getSecret secretName)).before
      (.getSecret secretName)).1 = reply := same
    rw [answerCall] at same
    split at same
    · exact Or.inl same.symm
    · exact Or.inr ⟨_, fault_ne_notFound _, same.symm⟩
    · exact Or.inr ⟨.unavailable, by simp, same.symm⟩
  refine ⟨⟨transferring.1.neutral rfl guarded,
    steady_unmarked (w.arrive choice _) guarded rfl transferring.2⟩, ?_, ?_, ?_⟩
  · intro other member
    rw [World.extend_state, unchanged]
    exact Secured.disturbed (e := w.arrive choice (.getSecret secretName)) (before other member)
      guarded (members other member)
  · intro reply
    rw [World.extend_state, unchanged]
    rcases told _ reply with same | ⟨err, known, same⟩
    · exact found_notFound same.symm
    · cases same
      exact absurd rfl known
  · intro secret reply
    rw [World.extend_state, unchanged]
    rcases told _ reply with same | ⟨err, known, same⟩
    · exact found_ok same.symm
    · cases same

theorem served_updateSecret {s : MigrationWorld}
    (picked timestamp : String) (owned : secret.OwnedBy uid) :
    ((serveCall picked timestamp s (.updateSecret secret)).2 = s ∧
      ∃ err, (serveCall picked timestamp s (.updateSecret secret)).1 = .error err) ∨
    Secured uid secret.name (serveCall picked timestamp s (.updateSecret secret)).2 ∧
      ∀ other ≠ secret.name, (serveCall picked timestamp s (.updateSecret secret)).2.secrets other =
        s.secrets other := by
  simp only [serveCall]
  split
  · exact Or.inl ⟨rfl, _, rfl⟩
  split
  · exact Or.inl ⟨rfl, _, rfl⟩
  refine Or.inr ⟨fun old _ stored there _ => ?_, fun other apart => if_neg apart⟩
  have there : (if secret.name = secret.name then
      some { secret with resourceVersion := s.revision + 1 }
    else s.secrets secret.name) = some stored := there
  rw [if_pos rfl] at there
  cases there
  exact owned

theorem safe_updateSecret (members : ∀ other ∈ done, other ∈ secretNames clusterName)
    (transferring : Transferring clusterName w)
    (before : ∀ other ∈ done, Secured uid other w.state) (owned : secret.OwnedBy uid) :
    Upholds clusterName (ask (.updateSecret secret))
      (fun reply w => Transferring clusterName w ∧ (∀ other ∈ done, Secured uid other w.state) ∧
        (reply = .ok () → Secured uid secret.name w.state)) w := by
  refine ⟨transferring.1, fun choice guarded => ?_⟩
  have unmarked := Unmarked.after (e := w.arrive choice (.updateSecret secret)) transferring.2
    guarded rfl
  have sound := transferring.1.extend rfl guarded (Named.after transferring.1.named)
    unmarked.covered
  have kept : ∀ other ∈ done, Secured uid other (w.arrive choice (.updateSecret secret)).before :=
    fun other member => (before other member).disturbed guarded (members other member)
  have served := served_updateSecret (s := (w.arrive choice (.updateSecret secret)).before)
    choice.uid choice.timestamp owned
  refine ⟨⟨sound, unmarked⟩, fun other member => ?_, fun reply => ?_⟩
  · apply after_of_served (e := w.arrive choice (.updateSecret secret)) _ (kept other member)
    rcases served with ⟨same, _⟩ | ⟨secured, others⟩
    · show Secured uid other (serveCall choice.uid choice.timestamp _ (.updateSecret secret)).2
      rw [same]
      exact kept other member
    · by_cases here : other = secret.name
      · exact here ▸ secured
      · exact (kept other member).served (others other here)
  · have told := served_of_reply reply nofun
    rcases served with ⟨_, err, rejected⟩ | ⟨secured, _⟩
    · cases rejected.symm.trans (congrArg Prod.fst told)
    · rw [told] at secured
      exact secured

/-- One secret: it is not there, it has the new owner already, or it gets it. -/
theorem safe_transferSecret (newCluster : Cluster)
    (members : ∀ other ∈ done, other ∈ secretNames clusterName)
    (transferring : Transferring clusterName w)
    (before : ∀ other ∈ done, Secured newCluster.uid other w.state) :
    Upholds clusterName (transferSecret clusterName newCluster secretName)
      (fun err w => Transferring clusterName w ∧
        (∀ other ∈ done, Secured newCluster.uid other w.state) ∧
        (err = none → Secured newCluster.uid secretName w.state)) w := by
  apply (safe_getSecret members transferring before).bind
  intro reply w ⟨transferring, before, absent, stored⟩
  cases reply with
  | error err =>
    cases err with
    | notFound =>
      refine ⟨transferring, before, fun _ old _ secret there => ?_⟩
      cases (absent rfl).symm.trans there
    | _ => exact ⟨transferring, before, nofun⟩
  | ok secret =>
    have stored := stored secret rfl
    dsimp only
    split
    case isTrue owned =>
      refine ⟨transferring, before, fun _ old _ other there _ => ?_⟩
      cases stored.symm.trans there
      simpa [Secret.OwnedBy] using owned
    case isFalse =>
      have name := transferring.1.named secretName secret stored
      have owned := owned_withOwner clusterName newCluster secret
      apply (safe_updateSecret members transferring before owned).bindOk
      · exact fun _ _ outcome => ⟨outcome.1, outcome.2.1, nofun⟩
      intro _ w ⟨transferring, before, secured⟩
      exact ⟨transferring, before, fun _ => name ▸ secured rfl⟩

theorem get_merge (base other : Annotations) (key : String) (set : (base.get key).isSome) :
    (base.merge other).get key = base.get key := by
  simp only [Labels.get, Labels.merge, List.find?_append, Option.isSome_map] at set ⊢
  obtain ⟨entry, located⟩ := Option.isSome_iff_exists.mp set
  rw [located]
  rfl

theorem safe_transferCertificateSecretOwnership {newCluster : Cluster}
    (sound : Sound clusterName w) (seen : Seen clusterName newCluster w.state) :
    Upholds clusterName (transferCertificateSecretOwnership clusterName newCluster)
      (fun _ => Sound clusterName) w := by
  rw [transferCertificateSecretOwnership]
  split
  case isTrue => exact sound
  case isFalse unmarked =>
    have each : ∀ (done : List String) (w : MigrationRun), ∀ secretName ∈ secretNames clusterName,
        Transferring clusterName w →
        (∀ other ∈ done, other ∈ secretNames clusterName ∧ Secured newCluster.uid other w.state) →
        Upholds clusterName (transferSecret clusterName newCluster secretName) (fun err w =>
            Transferring clusterName w ∧
            (∀ other ∈ done, other ∈ secretNames clusterName ∧
              Secured newCluster.uid other w.state) ∧
            (err = none → secretName ∈ secretNames clusterName ∧
              Secured newCluster.uid secretName w.state)) w := by
      intro done w secretName listed transferring before
      apply (safe_transferSecret newCluster (fun other member => (before other member).1)
        transferring fun other member => (before other member).2).mono
      intro err w ⟨transferring, kept, now⟩
      exact ⟨transferring, fun other member => ⟨(before other member).1, kept other member⟩,
        fun fine => ⟨listed, now fine⟩⟩
    apply (safe_eachUntilError _ each [] w ⟨sound, seen.2 unmarked⟩ nofun).bindNone
    · exact fun _ _ outcome => outcome.1.1
    intro w ⟨transferring, _, all⟩
    have secured : AllSecured clusterName newCluster.uid w.state :=
      fun secretName member => (all rfl secretName member).2
    apply (safe_updateNew (markTransferred newCluster) transferring.1 fun _ => secured).bind
    exact fun _ w both => both.1

end Transfer

section Passes

variable {clusterName : String} {w : MigrationRun}

variable {oldCluster : Cluster}

theorem safe_copyStatus (oldCluster : Cluster) (created : Option Cluster)
    (sound : Sound clusterName w) :
    Upholds clusterName (copyStatus oldCluster created) (fun result w => Sound clusterName w ∧
        (result.1 = none → ∀ cluster ∈ result.2, Seen clusterName cluster w.state)) w := by
  apply (safe_getNew sound).thenOk
  · exact fun _ _ sound => ⟨sound, nofun⟩
  intro createdCluster w sound seen
  apply (safe_updateNew { createdCluster with status := oldCluster.status } sound seen.1).thenOk
  · exact fun _ _ sound => ⟨sound, nofun⟩
  intro updated w sound seen
  refine ⟨sound, fun _ cluster member => ?_⟩
  cases member
  exact seen

theorem get_merge_none {base other : Annotations} {key : String} (unset : base.get key = none)
    (absent : other.get key = none) : (base.merge other).get key = none := by
  simp only [Labels.get, Labels.merge, List.find?_append, Option.map_eq_none_iff] at unset absent ⊢
  rw [unset, Option.none_or, List.find?_eq_none]
  intro entry member
  exact List.find?_eq_none.mp absent entry (List.mem_of_mem_filter member)

theorem unmarked_newFromOld (timestamp : String) (unmarked : ¬ transferred oldCluster) :
    ¬ transferred (newFromOld oldCluster timestamp) := by
  intro marked
  cases set : oldCluster.annotations.get CertOwnershipTransferredAnnotation with
  | none =>
    have absent : Labels.get [.mk MigratedFromAnnotation "opensearch.opster.io/v1",
        .mk MigrationTimestampAnnotation timestamp, .mk SourceUIDAnnotation oldCluster.uid]
        CertOwnershipTransferredAnnotation = none := rfl
    have marked : some "true" = none := marked.symm.trans (get_merge_none set absent)
    cases marked
  | some value =>
    have kept := get_merge oldCluster.annotations
      [.mk MigratedFromAnnotation "opensearch.opster.io/v1",
        .mk MigrationTimestampAnnotation timestamp, .mk SourceUIDAnnotation oldCluster.uid]
      CertOwnershipTransferredAnnotation (by rw [set]; rfl)
    exact unmarked (kept.symm.trans marked)

theorem keeps_createNewFromOld (unmarked : ¬ transferred oldCluster) :
    KeepsSound clusterName (createNewFromOld clusterName oldCluster) := by
  apply (keeps_neutral (onlyCalls_asked rfl)).bind
  intro timestamp w sound
  apply (safe_createNew sound (unmarked_newFromOld timestamp unmarked)).bindOk
  · intro err w sound
    cases err with
    | alreadyExists =>
      apply (safe_getNew sound).thenOk
      · exact fun _ _ sound => sound
      intro existing w sound seen
      apply (safe_transferCertificateSecretOwnership sound seen).bind
      exact fun _ w sound => sound
    | _ => exact sound
  intro _ w sound
  apply (safe_retry_restored (fun created _ sound => safe_copyStatus oldCluster created sound)
    (fun _ _ copied => copied.1) 4 none sound).bind
  intro ⟨err, created⟩ w ⟨sound, seen⟩
  match err, created with
  | none, some createdCluster =>
    apply (safe_transferCertificateSecretOwnership sound (seen rfl createdCluster rfl)).bind
    exact fun _ w sound => sound
  | some err, _ => exact sound
  | none, none => exact sound

theorem neutral_removeFinalizers :
    (removeFinalizers oldCluster).OnlyCalls (Call.neutral · = true) := by
  refine onlyCalls_ask rfl fun reply => ?_
  cases reply <;> trivial

theorem neutral_handleOldClusterDeletion :
    (handleOldClusterDeletion oldCluster).OnlyCalls (Call.neutral · = true) := by
  rw [handleOldClusterDeletion]
  split
  · apply (onlyCalls_asked (by rfl)).bindOk
    · intro err
      cases err with
      | notFound =>
        dsimp only
        split
        · exact neutral_removeFinalizers
        · trivial
      | _ => trivial
    exact fun _ => neutral_removeFinalizers
  · trivial

theorem keeps_migrateOld (unmarked : ¬ transferred oldCluster) :
    KeepsSound clusterName (migrateOld clusterName oldCluster) := by
  intro w sound
  apply (safe_getNew sound).thenOk
  · intro err w sound
    cases err with
    | notFound =>
      dsimp only
      split
      · exact sound
      split
      · exact sound
      · exact keeps_createNewFromOld unmarked w sound
    | _ => exact sound
  intro newCluster w sound seen
  apply (safe_transferCertificateSecretOwnership sound seen).bindNone
  · exact fun _ _ sound => sound
  intro w sound
  dsimp only
  rw [syncStatusNewToOld]
  split
  · exact sound
  apply (keeps_neutral (onlyCalls_asked rfl) w sound).bind
  intro reply w sound
  cases reply <;> exact sound

theorem keeps_reconcileOld : KeepsSound clusterName (reconcileOld clusterName) := by
  intro w sound
  apply (safe_getOld sound).thenOk
  · intro err w sound
    cases err <;> exact sound
  intro oldCluster w sound unmarked
  dsimp only
  split
  · exact keeps_neutral neutral_handleOldClusterDeletion w sound
  split
  · have update : Upholds clusterName
        (ask (.updateOld { oldCluster with
          finalizers := oldCluster.finalizers ++ [MigrationFinalizer] }))
        (OkWith (Sound clusterName) fun updated _ => ¬ transferred updated) w :=
      safe_updateOld sound unmarked
    apply update.thenOk
    · exact fun _ _ sound => sound
    exact fun _ w sound unmarked => keeps_migrateOld unmarked w sound
  · exact keeps_migrateOld unmarked w sound

theorem neutral_handleNewClusterDeletion :
    handleNewClusterDeletion.OnlyCalls (Call.neutral · = true) := by
  apply (onlyCalls_asked (by rfl)).bindOk
  · intro err
    cases err <;> trivial
  intro oldCluster
  apply (onlyCalls_asked (by rfl)).bindOk
  · exact fun _ => trivial
  intro _
  refine onlyCalls_ask rfl fun reply => ?_
  rcases reply with ⟨_ | _⟩ | _ <;> trivial

theorem keeps_reconcile : KeepsSound clusterName (reconcile clusterName) := by
  intro w sound
  apply (safe_getNew sound).thenOk
  · exact fun _ w sound => keeps_reconcileOld w sound
  intro newCluster w sound seen
  -- The writes of the finalizers carry the annotations of the copy.
  have write : ∀ (w : MigrationRun) (finalizers : List String), Sound clusterName w →
      Seen clusterName newCluster w.state →
      Upholds clusterName
        (ask (.updateNew { newCluster with finalizers })) (fun _ => Sound clusterName) w :=
    fun w finalizers sound seen => (safe_updateNew { newCluster with finalizers } sound
      seen.1).mono fun _ _ both => both.1
  dsimp only
  split
  · rw [reconcileNewDeletion]
    split
    · exact sound
    split
    · exact sound
    apply (keeps_steady (steady_seen newCluster) neutral_handleNewClusterDeletion w
      ⟨sound, seen⟩).bindDone
    · exact fun _ _ _ both => both.1
    rintro result w ⟨sound, seen⟩
    apply (write w _ sound seen).bind
    intro reply w sound
    cases reply <;> exact sound
  · split
    · apply (write w _ sound seen).bind
      intro reply w sound
      cases reply <;> exact sound
    · exact keeps_reconcileOld w sound

end Passes

/-- Where the finalizer of the old resource is removed only under the annotation, it is
never removed while a certificate secret has no other owner that stays. -/
theorem certificates_spared (clusterName : String) (start : MigrationRun)
    (passes : List (List MigrationChoice)) (fresh : start.past = []) (named : Named start.state)
    (covered : Covered clusterName start.state)
    (guarded : ∀ e ∈ (runs (reconcile clusterName) passes start).past, Guarded clusterName e) :
    ∀ e ∈ (runs (reconcile clusterName) passes start).past, Spared clusterName e := by
  have sound : Sound clusterName start := by
    refine ⟨named, covered, fun e happened => ?_⟩
    rw [fresh] at happened
    cases happened
  exact (runs_keep keeps_reconcile passes start sound guarded).spared

section Runs

instance (secret : Secret) (uid : String) : Decidable (secret.OwnedBy uid) :=
  inferInstanceAs (Decidable (∃ ref ∈ secret.ownerReferences, _))

instance (uid secretName : String) (s : MigrationWorld) : Decidable (Secured uid secretName s) :=
  inferInstanceAs (Decidable (∀ old ∈ s.oldCluster, _))

instance (clusterName uid : String) (s : MigrationWorld) :
    Decidable (AllSecured clusterName uid s) :=
  inferInstanceAs (Decidable (∀ secretName ∈ secretNames clusterName, _))

instance (e : MigrationEvent) : Decidable (Removes e) :=
  decidable_of_iff' _ (removes_iff ..)

instance (clusterName : String) (e : MigrationEvent) : Decidable (Spared clusterName e) :=
  inferInstanceAs (Decidable (Removes e → ∀ new ∈ e.before.newCluster, _))

instance (clusterName : String) (e : MigrationEvent) : Decidable (Guarded clusterName e) :=
  decidable_of_iff' _ (guarded_iff ..)

def beforeMigration : MigrationRun where
  state :=
    { revision := 2
      oldCluster := some
        { uid := "old", resourceVersion := 1, labels := [], annotations := []
          finalizers := [OldClusterFinalizer], deleting := false
          spec := ⟨⟨"2.19.0", false⟩, ⟨false⟩, ⟨false⟩, []⟩
          status := ⟨"RUNNING", [], "2.19.0", true, 3, "green"⟩ }
      newCluster := none
      secrets := fun name => if name = "demo-ca" then
          some ⟨"demo-ca", 2, [⟨"opensearch.opster.io", "OpenSearchCluster", "demo", "old", true⟩]⟩
        else none }
  past := []

def quietCalls : List MigrationChoice := List.replicate 20 {}

def oldDeleted : List MigrationChoice :=
  { others := fun s => { s with
      oldCluster := s.oldCluster.map fun cluster => { cluster with deleting := true } } } ::
    quietCalls

theorem ca_spared :
    ∃ e ∈ (runs (reconcile "demo") [quietCalls, oldDeleted, quietCalls] beforeMigration).past.head?,
      Removes e ∧ ∃ new ∈ e.before.newCluster, new.deleting = false ∧
        AllSecured "demo" new.uid e.before := by
  have guarded : ∀ e ∈ (runs (reconcile "demo") [quietCalls, oldDeleted, quietCalls]
      beforeMigration).past, Guarded "demo" e := by decide
  have named : Named beforeMigration.state := by
    intro secretName secret stored
    have stored : (if secretName = "demo-ca" then some ⟨"demo-ca", 2,
        [⟨"opensearch.opster.io", "OpenSearchCluster", "demo", "old", true⟩]⟩ else none) =
        some secret := stored
    split at stored
    case isTrue same =>
      cases stored
      exact same.symm
    case isFalse => cases stored
  have spared := certificates_spared "demo" beforeMigration [quietCalls, oldDeleted, quietCalls]
    rfl named nofun guarded
  have removed : ∃ e ∈ (runs (reconcile "demo") [quietCalls, oldDeleted, quietCalls]
      beforeMigration).past.head?, Removes e ∧ ∃ new ∈ e.before.newCluster,
        new.deleting = false := by decide
  obtain ⟨e, last, removes, new, there, stays⟩ := removed
  exact ⟨e, last, removes, new, there, stays,
    spared e (List.mem_of_mem_head? last) removes new there stays⟩

def createdOnly : List MigrationChoice :=
  let quiet : MigrationChoice := {}
  List.replicate 6 quiet ++ [{ outcome := .refused .unavailable }]

/-- A new resource that exists is taken for a migration that is complete. -/
theorem ca_not_spared :
    ∃ e ∈ (runs (reconcile "demo") [createdOnly, oldDeleted, quietCalls]
        beforeMigration).past.head?,
      ¬ Spared "demo" e := by
  decide

end Runs

end OpenSearchOperator.Migration
