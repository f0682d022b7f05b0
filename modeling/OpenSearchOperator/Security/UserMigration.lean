import OpenSearchOperator.Migration.GenericCreation
import OpenSearchOperator.Security.Users

/-! What becomes of a user of OpenSearch when its resource is migrated. The user carries
the identity of the old resource, and the controller compares it with that of the new
one. -/

namespace OpenSearchOperator.Security.Users

open Api Effects Migration

abbrev UserEvent := Event userServer
abbrev UserRun := World userServer

def User.BelongsTo (user : User) (uid : String) : Prop :=
  user.attributes.get K8sAttributeField = some uid

instance (user : User) (uid : String) : Decidable (user.BelongsTo uid) :=
  inferInstanceAs (Decidable (_ = _))

def FailsCheck (verdict : Verdict) : Prop :=
  verdict.err = some unmanagedUser ∨ verdict.err = some uidsDontMatch

instance (verdict : Verdict) : Decidable (FailsCheck verdict) :=
  inferInstanceAs (Decidable (_ ∨ _))

abbrev quiet : UserChoice := {}

section Deletion

variable {username : String} {resource : OpensearchUser} {user : User} {cluster : ReferredCluster}
  {s : UserWorld}

theorem follow_getInternalUser (there : s.internalUsers username = some user) :
    follow (S := userServer) quiet (ask (.getInternalUser username)) s =
      (.ok (some { user with password := "" }), s) := by
  show serveCall s (.getInternalUser username) = _
  rw [serveCall, there]
  rfl

theorem follow_userExists (there : s.internalUsers username = some user) :
    follow (S := userServer) quiet (userExists username) s = (.ok true, s) := by
  rw [userExists, follow_bind, follow_getInternalUser there]
  rfl

theorem follow_userUIDMatches (uid : String) (there : s.internalUsers username = some user) :
    follow (S := userServer) quiet (userUIDMatches username uid) s =
      (.ok (decide (user.BelongsTo uid)), s) := by
  rw [userUIDMatches, follow_bind, follow_getInternalUser there]
  rw [follow_pure, beq_eq_decide]
  rfl

/-- `Delete` removes the user if the user belongs to the resource, and else does nothing. -/
theorem follow_delete (there : s.internalUsers username = some user)
    (known : s.clusters resource.spec.opensearchRef = some cluster)
    (stays : cluster.deleting = false) :
    (follow (S := userServer) quiet (delete username resource) s).2 =
      if user.BelongsTo resource.uid then
        { s with internalUsers := setAt s.internalUsers username none }
      else s := by
  have fetched : follow (S := userServer) quiet (ask (.getCluster resource.spec.opensearchRef)) s =
      (.ok cluster, s) := by
    show serveCall s (.getCluster _) = _
    rw [serveCall, known]
    rfl
  have connected : follow (S := userServer) quiet (ask .createClient) s = (.ok (), s) := rfl
  rw [delete, follow_bind, fetched]
  dsimp only
  rw [stays]
  simp only [Bool.false_eq_true, if_false]
  rw [follow_bind, connected]
  rw [deleteOwned, follow_bind, follow_userExists there]
  rw [follow_bind, follow_userUIDMatches resource.uid there]
  by_cases belongs : user.BelongsTo resource.uid
  · have removed : follow (S := userServer) quiet (ask (.deleteInternalUser username)) s =
        (.ok (), { s with internalUsers := setAt s.internalUsers username none }) := by
      show serveCall s (.deleteInternalUser username) = _
      rw [serveCall]
      simp only [there]
    simp only [belongs, decide_true, if_true]
    rw [follow_bind, removed]
    rfl
  · simp only [belongs, decide_false, if_false]
    rfl

end Deletion

section Tending

variable (username uid ref : String)

def Proper : Call → Prop
  | .updateUser resource => resource.spec.opensearchRef = ref
  | .putInternalUser name user => name = username → user.BelongsTo uid
  | .deleteInternalUser name => name ≠ username
  | _ => True

def Own (resource : OpensearchUser) : Prop :=
  resource.uid = uid ∧ resource.spec.opensearchRef = ref

structure Tended (s : UserWorld) : Prop where
  resource : ∃ resource ∈ s.user, Own uid ref resource ∧ resource.deleting = false
  cluster : ∃ cluster ∈ s.clusters ref, cluster.deleting = false
  user : ∃ user ∈ s.internalUsers username, user.BelongsTo uid

variable {username uid ref} {resource : OpensearchUser} {op : Call} {choice : UserChoice}
  {s : UserWorld}

theorem updateStored_own {revision : Nat} {current : OpensearchUser}
    (own : Own uid ref current) (stays : current.deleting = false)
    (same : resource.spec.opensearchRef = ref) :
    (∃ later ∈ (updateStored Generic.keepStatus revision (some current) resource).2,
        Own uid ref later ∧ later.deleting = false) ∧
      ∀ updated, (updateStored Generic.keepStatus revision (some current) resource).1 =
        .ok updated →
        Own uid ref updated := by
  rw [updateStored]
  split
  · exact ⟨⟨current, rfl, own, stays⟩, by simp⟩
  rename_i matching
  have identity : resource.uid = uid := (not_not.mp (not_or.mp matching).1).trans own.1
  split
  · exact ⟨⟨current, rfl, own, stays⟩, by simp⟩
  split
  · rename_i gone
    cases stays.symm.trans gone.1
  refine ⟨⟨_, rfl, ⟨identity, same⟩, stays⟩, fun updated told => ?_⟩
  cases told
  exact ⟨identity, same⟩

theorem Tended.served (tended : Tended username uid ref s)
    (proper : Proper username uid ref op) : Tended username uid ref (serveCall s op).2 := by
  obtain ⟨⟨current, stored, own, stays⟩, cluster, user⟩ := tended
  have here : ∃ resource ∈ s.user, Own uid ref resource ∧ resource.deleting = false :=
    ⟨current, stored, own, stays⟩
  cases op with
  | updateUser resource =>
    rw [serveCall]
    refine ⟨?_, cluster, user⟩
    rw [stored]
    exact (updateStored_own own stays proper).1
  | updateUserStatus resource =>
    rw [serveCall, stored]
    dsimp only
    split
    · exact ⟨here, cluster, user⟩
    · exact ⟨⟨_, rfl, own, stays⟩, cluster, user⟩
  | createSecret name secret =>
    rw [serveCall]
    split <;> exact ⟨here, cluster, user⟩
  | putInternalUser name written =>
    refine ⟨here, cluster, ?_⟩
    by_cases same : username = name
    · exact ⟨written, if_pos same, proper same.symm⟩
    · obtain ⟨user, there, belongs⟩ := user
      exact ⟨user, (if_neg same).trans there, belongs⟩
  | deleteInternalUser name =>
    rw [serveCall]
    split
    · exact ⟨here, cluster, user⟩
    · obtain ⟨user, there, belongs⟩ := user
      exact ⟨here, cluster, user, (if_neg fun same => proper same.symm).trans there, belongs⟩
  | _ => exact ⟨here, cluster, user⟩

def Alone (e : UserEvent) : Prop := e.before = e.prior

def TendedRun (username uid ref : String) (w : UserRun) : Prop := Tended username uid ref w.state

theorem TendedRun.extend {w : UserRun} (tended : TendedRun username uid ref w)
    (alone : Alone (w.arrive choice op)) (proper : Proper username uid ref op) :
    TendedRun username uid ref (w.extend (w.arrive choice op)) := by
  have before : Tended username uid ref (w.arrive choice op).before := alone.symm ▸ tended
  show Tended username uid ref (answerCall choice (w.arrive choice op).before op).2
  rw [answerCall]
  split
  · exact before.served proper
  · exact before
  · exact before.served proper

variable {w : UserRun} {user : User}

abbrev Tending (username uid ref : String) {α : Type} :
    UserProg α → (α → UserRun → Prop) → UserRun → Prop :=
  Safe Alone (TendedRun username uid ref)

theorem safe_proper (op : Call) (tended : TendedRun username uid ref w)
    (proper : Proper username uid ref op) :
    Tending username uid ref (ask op) (fun _ => TendedRun username uid ref) w :=
  ⟨tended, fun _ alone => tended.extend alone proper⟩

theorem answered {value : op.Payload}
    (told : (answerCall choice s op).1 = .ok value) : (serveCall s op).1 = .ok value := by
  rw [answerCall] at told
  split at told
  · exact told
  · cases told
  · cases told

theorem safe_getUser (tended : TendedRun username uid ref w) :
    Tending username uid ref (ask .getUser) (OkWith (TendedRun username uid ref) fun resource _ =>
      Own uid ref resource ∧ resource.deleting = false) w := by
  refine ⟨tended, fun choice alone => ⟨tended.extend alone trivial, fun resource told => ?_⟩⟩
  have stored := found_ok (answered told)
  obtain ⟨current, there, own, stays⟩ := tended.resource
  have same : (w.arrive choice .getUser).before.user = w.state.user := congrArg UserWorld.user alone
  cases (stored.symm.trans same).trans there
  exact ⟨own, stays⟩

theorem safe_updateUser (tended : TendedRun username uid ref w)
    (same : resource.spec.opensearchRef = ref) :
    Tending username uid ref (ask (.updateUser resource))
      (OkWith (TendedRun username uid ref) fun updated _ => Own uid ref updated) w := by
  refine ⟨tended, fun choice alone => ⟨tended.extend alone same, fun updated told => ?_⟩⟩
  obtain ⟨current, there, own, stays⟩ := tended.resource
  have stored : (w.arrive choice (.updateUser resource)).before.user = some current :=
    (congrArg UserWorld.user alone).trans there
  have told : (serveCall (w.arrive choice (.updateUser resource)).before
      (.updateUser resource)).1 = .ok updated := answered told
  rw [serveCall, stored] at told
  exact (updateStored_own own stays same).2 updated told

theorem safe_updateUserStatus (tended : TendedRun username uid ref w) :
    Tending username uid ref (ask (.updateUserStatus resource))
      (OkWith (TendedRun username uid ref) fun updated _ => Own uid ref updated) w := by
  refine ⟨tended, fun choice alone => ⟨tended.extend alone trivial, fun updated told => ?_⟩⟩
  obtain ⟨current, there, own, stays⟩ := tended.resource
  have stored : (w.arrive choice (.updateUserStatus resource)).before.user = some current :=
    (congrArg UserWorld.user alone).trans there
  have told : (serveCall (w.arrive choice (.updateUserStatus resource)).before
      (.updateUserStatus resource)).1 = .ok updated := answered told
  rw [serveCall, stored] at told
  dsimp only at told
  split at told
  · cases told
  · cases told
    exact own

theorem safe_updateObjectStatus (f : Generic.Status Unit → Generic.Status Unit)
    (resource : OpensearchUser) (tended : TendedRun username uid ref w) :
    Tending username uid ref (updateObjectStatus f resource)
      (fun result w => TendedRun username uid ref w ∧ (result.1 = none → Own uid ref result.2))
      w := by
  refine safe_retry_restored (fun resource w tended => ?_) (fun _ _ outcome => outcome.1) 4
    resource tended
  apply (safe_getUser tended).thenOk
  · exact fun _ _ tended => ⟨tended, nofun⟩
  intro stored w tended _
  apply (safe_updateUserStatus tended).thenOk
  · exact fun _ _ tended => ⟨tended, nofun⟩
  exact fun _ _ tended own => ⟨tended, fun _ => own⟩

theorem compareUser_own {existing : User} (wanted : user.BelongsTo uid)
    (has : existing.BelongsTo uid) : ∃ update, compareUser user existing = .ok update := by
  rw [User.BelongsTo] at wanted has
  rw [compareUser, has, wanted]
  exact ⟨_, if_neg fun different => different rfl⟩

theorem safe_shouldUpdateUser (wanted : user.BelongsTo uid)
    (tended : TendedRun username uid ref w) :
    Tending username uid ref (shouldUpdateUser username user) (fun reply w =>
      TendedRun username uid ref w ∧
        ∀ err, reply = .error err → err ≠ unmanagedUser ∧ err ≠ uidsDontMatch) w := by
  refine ⟨tended, fun choice alone => ?_⟩
  have later : TendedRun username uid ref
      (w.extend (w.arrive choice (.getInternalUser username))) := tended.extend alone trivial
  obtain ⟨existing, there, belongs⟩ := tended.user
  have stored : (w.arrive choice (.getInternalUser username)).before.internalUsers username =
      some existing := (congrArg (fun s : UserWorld => s.internalUsers username) alone).trans there
  cases told : (w.arrive choice (.getInternalUser username)).reply with
  | error err =>
    refine ⟨later, fun err same => ?_⟩
    cases same
    exact ⟨nofun, nofun⟩
  | ok found =>
    have told : (serveCall (w.arrive choice (.getInternalUser username)).before
        (.getInternalUser username)).1 = .ok found := answered told
    rw [serveCall, stored] at told
    cases told
    have shown : { existing with password := "" }.BelongsTo uid := belongs
    obtain ⟨update, compared⟩ := compareUser_own wanted shown
    refine ⟨later, fun err same => ?_⟩
    cases compared.symm.trans same

theorem belongs_desiredUser (own : Own uid ref resource)
    (userSecret : PasswordSecret) {userPassword : String} :
    (desiredUser resource userSecret userPassword).BelongsTo uid := congrArg some own.1

abbrev Passes (username uid ref : String) (verdict : Verdict) (w : UserRun) : Prop :=
  TendedRun username uid ref w ∧ ¬ FailsCheck verdict

theorem failed_passes (reason : String) (err : ApiError) : ¬ FailsCheck (failed reason err) := by
  rintro (same | same) <;> cases same

theorem safe_syncUser (wanted : user.BelongsTo uid) (tended : TendedRun username uid ref w) :
    Tending username uid ref (syncUser username user) (Passes username uid ref) w := by
  apply (safe_shouldUpdateUser wanted tended).bind
  intro reply w ⟨tended, passed⟩
  match reply with
  | .error err =>
    refine ⟨tended, fun fails => ?_⟩
    rcases fails with unmanaged | mismatch
    · exact (passed err rfl).1 (Option.some.inj unmanaged)
    · exact (passed err rfl).2 (Option.some.inj mismatch)
  | .ok false => exact ⟨tended, by decide⟩
  | .ok true =>
    apply (safe_proper (.putInternalUser username user) tended fun _ => wanted).bindOk
    · exact fun _ _ tended => ⟨tended, by rintro (same | same) <;> cases same⟩
    intro _ w tended
    exact ⟨tended, by decide⟩

/-- The message about a missing key is none of the two messages of the check. -/
theorem missingKey_passes {key : String} :
    ¬ FailsCheck { err := some (.text ("key " ++ key ++ " does not exist in secret")) } := by
  have starts (message : String) (same : "key " ++ key ++ " does not exist in secret" = message) :
      message.toList.take 2 = ['k', 'e'] := by
    rw [← same, String.toList_append, String.toList_append]
    rfl
  rintro (same | same)
  · cases starts _ (Failure.text.inj (Option.some.inj same))
  · cases starts _ (Failure.text.inj (Option.some.inj same))

theorem safe_managePasswordSecret (resource : OpensearchUser) (userNamespace : String)
    (tended : TendedRun username uid ref w) :
    Tending username uid ref (managePasswordSecret resource username userNamespace)
      (fun _ => TendedRun username uid ref) w := by
  apply (safe_proper (.getSecret _) tended trivial).bindOk
  · exact fun _ _ tended => tended
  intro secret w tended
  exact safe_proper (.createSecret _ _) tended trivial

theorem safe_provisionUser (cluster : ReferredCluster) (own : Own uid ref resource)
    (userNamespace : String) (tended : TendedRun username uid ref w) :
    Tending username uid ref (provisionUser cluster username userNamespace resource)
      (Passes username uid ref) w := by
  rw [provisionUser]
  split
  · exact ⟨tended, by rintro (same | same) <;> cases same⟩
  apply (safe_proper .createClient tended trivial).bindOk
  · exact fun err _ tended => ⟨tended, failed_passes _ err⟩
  intro _ w tended
  apply (safe_managePasswordSecret resource userNamespace tended).bindOk
  · exact fun err _ tended => ⟨tended, failed_passes _ err⟩
  intro userSecret w tended
  dsimp only
  split
  · exact ⟨tended, missingKey_passes⟩
  · exact safe_syncUser (belongs_desiredUser own userSecret) tended

theorem safe_provision (own : Own uid ref resource) (userNamespace : String)
    (tended : TendedRun username uid ref w) :
    Tending username uid ref (provision username userNamespace resource)
      (Passes username uid ref) w := by
  apply (safe_proper (.getCluster _) tended trivial).bindOk
  · intro err w tended
    cases err with
    | notFound => exact ⟨tended, by rintro (same | same) <;> cases same⟩
    | _ => exact ⟨tended, failed_passes _ _⟩
  intro cluster w tended
  dsimp only
  split
  · split
    · exact ⟨tended, by decide⟩
    · exact safe_provisionUser cluster own userNamespace tended
  apply (safe_updateObjectStatus _ resource tended).bind
  rintro ⟨err, resource⟩ w ⟨tended, own⟩
  cases err with
  | some err => exact ⟨tended, failed_passes _ err⟩
  | none => exact safe_provisionUser cluster (own rfl) userNamespace tended

/-- No `Reconcile` of a resource fails the check of a user that belongs to it. -/
theorem safe_reconcile (own : Own uid ref resource) (userNamespace : String)
    (tended : TendedRun username uid ref w) :
    Tending username uid ref (reconcile username userNamespace resource)
      (Passes username uid ref) w := by
  apply (safe_provision own userNamespace tended).bind
  rintro verdict w ⟨tended, passed⟩
  apply (safe_updateObjectStatus _ resource tended).bind
  exact fun _ _ outcome => ⟨outcome.1, passed⟩

theorem safe_userPass (userNamespace : String) (tended : TendedRun username uid ref w) :
    Tending username uid ref (userPass username userNamespace)
      (fun _ => TendedRun username uid ref) w := by
  apply (safe_getUser tended).thenOk
  · intro err w tended
    cases err <;> exact tended
  intro resource w tended ⟨own, stays⟩
  have same : (addFinalizer resource).spec.opensearchRef = ref := by
    rw [addFinalizer]
    split <;> exact own.2
  dsimp only
  rw [stays]
  apply (safe_updateUser tended same).thenOk
  · exact fun _ _ tended => tended
  intro resource w tended own
  apply (safe_reconcile own userNamespace tended).bind
  exact fun _ _ outcome => outcome.1

end Tending

section Migration

variable {username uid ref : String} {s : UserWorld}

def handOver (migrated : Generic.GenericWorld UserSpec Unit) (s : UserWorld) : UserWorld :=
  { s with user := migrated.new }

/-- After any number of passes the controller would not fail the check, and would remove
the user. -/
def Managed (username userNamespace : String) (s : UserWorld) : Prop :=
  ∀ passes, ∃ resource ∈ (followTimes (S := userServer) quiet (userPass username userNamespace)
      passes s).user,
    ¬ FailsCheck (follow (S := userServer) quiet (reconcile username userNamespace resource)
      (followTimes (S := userServer) quiet (userPass username userNamespace) passes s)).1 ∧
    (follow (S := userServer) quiet (delete username resource)
      (followTimes (S := userServer) quiet (userPass username userNamespace) passes
        s)).2.internalUsers
        username = none

theorem tended_passes (userNamespace : String) (passes : Nat)
    (tended : Tended username uid ref s) : Tended username uid ref
      (followTimes (S := userServer) quiet (userPass username userNamespace) passes s) := by
  induction passes generalizing s with
  | zero => exact tended
  | succ passes ih =>
    have pass := safe_userPass (w := ⟨s, []⟩) userNamespace tended
    obtain ⟨_, later⟩ := pass.follow quiet fun _ _ => rfl
    exact ih later

theorem managed_of_tended (userNamespace : String)
    (tended : Tended username uid ref s) : Managed username userNamespace s := by
  intro passes
  have later := tended_passes userNamespace passes tended
  obtain ⟨resource, there, own, _⟩ := later.resource
  obtain ⟨cluster, known, stays⟩ := later.cluster
  obtain ⟨user, stored, belongs⟩ := later.user
  refine ⟨resource, there, ?_, ?_⟩
  · have pass := safe_reconcile (w := ⟨_, []⟩) own userNamespace later
    obtain ⟨_, _, passed⟩ := pass.follow quiet fun _ _ => rfl
    exact passed
  · rw [← own.2] at known
    rw [← own.1] at belongs
    rw [follow_delete stored known stays, if_pos belongs]
    exact if_pos rfl

theorem managed_iff (userNamespace : String)
    {migrated : Generic.GenericWorld UserSpec Unit} {new : OpensearchUser}
    {cluster : ReferredCluster} {user : User} (created : migrated.new = some new)
    (stays : new.deleting = false) (known : s.clusters new.spec.opensearchRef = some cluster)
    (lasts : cluster.deleting = false) (provisioned : s.internalUsers username = some user)
    (belongs : user.BelongsTo uid) :
    Managed username userNamespace (handOver migrated s) ↔ new.uid = uid := by
  constructor
  · intro managed
    obtain ⟨resource, there, _, removed⟩ := managed 0
    cases created.symm.trans there
    by_contra different
    have foreign : ¬ user.BelongsTo new.uid :=
      fun same => different (Option.some.inj (same.symm.trans belongs))
    have left : follow (S := userServer) quiet (delete username new) (handOver migrated s) =
        (_, handOver migrated s) := Prod.ext rfl
      ((follow_delete (s := handOver migrated s) provisioned known lasts).trans (if_neg foreign))
    rw [followTimes, left] at removed
    cases provisioned.symm.trans removed
  · intro same
    have tended : Tended username uid new.spec.opensearchRef (handOver migrated s) :=
      ⟨⟨new, created, ⟨same, rfl⟩, stays⟩, ⟨cluster, known, lasts⟩, ⟨user, provisioned, belongs⟩⟩
    exact managed_of_tended userNamespace tended

/-- A user that the old resource has provisioned stays managed exactly if the new resource
gets the identity of the old one. -/
theorem migrated_user_managed_iff (username userNamespace picked now : String) (revision : Nat)
    (old : OpensearchUser) (s : UserWorld) (cluster : ReferredCluster) (user : User)
    (ready : Generic.isGenericResourceReady old = true) (stays : old.deleting = false)
    (unannounced : (HasMeta.metadata old).deletedByNewResource = false)
    (known : s.clusters old.spec.opensearchRef = some cluster) (lasts : cluster.deleting = false)
    (provisioned : s.internalUsers username = some user) (belongs : user.BelongsTo old.uid) :
    Managed username userNamespace (handOver (follow (S := Generic.genericServer UserSpec Unit)
      (Generic.quietly picked now) (Generic.reconcileGenericMigration UserSpec Unit)
      ⟨revision, some old, none⟩).2 s) ↔ picked = old.uid := by
  obtain ⟨new, created, made⟩ := Generic.follow_reconcileGenericMigration picked now
    (s := ⟨revision, some old, none⟩) rfl rfl stays unannounced ready
  rw [← made.spec] at known
  have managed := managed_iff userNamespace created made.stays known lasts provisioned belongs
  rw [made.uid] at managed
  exact managed

def alice : OpensearchUser where
  uid := "old"
  resourceVersion := 1
  labels := []
  annotations := []
  finalizers := [Generic.OldResourceFinalizer]
  deleting := false
  spec := ⟨"demo", ⟨"alice-password", "password"⟩, ["readall"], [], []⟩
  status := ⟨"CREATED", "", some "demo-uid", ()⟩

def provisionedWorld : UserWorld where
  revision := 1
  user := none
  clusters name := if name = "demo" then some ⟨"demo-uid", "RUNNING", false⟩ else none
  secrets name := if name = "alice-password" then some ⟨1, [], [("password", "secret")]⟩ else none
  internalUsers name := if name = "alice" then
      some ⟨"secret", ["readall"], [], [("k8s-uid", "old"), ("secret-version", "1")]⟩
    else none

def migratedWorld (picked : String) : UserWorld :=
  handOver (follow (S := Generic.genericServer UserSpec Unit) (Generic.quietly picked "")
    (Generic.reconcileGenericMigration UserSpec Unit) ⟨1, some alice, none⟩).2 provisionedWorld

theorem alice_managed_iff :
    Managed "alice" "default" (migratedWorld "old") ∧
      ¬ Managed "alice" "default" (migratedWorld "new") := by
  have managed (picked : String) :
      Managed "alice" "default" (migratedWorld picked) ↔ picked = "old" :=
    migrated_user_managed_iff "alice" "default" picked "" 1 alice provisionedWorld
      ⟨"demo-uid", "RUNNING", false⟩
      ⟨"secret", ["readall"], [], [("k8s-uid", "old"), ("secret-version", "1")]⟩
      (by decide) rfl (by decide) rfl rfl rfl (by decide)
  exact ⟨(managed "old").mpr rfl, fun other => absurd ((managed "new").mp other) (by decide)⟩

/-- The new resource fails the check, and its deletion leaves the user behind. -/
theorem alice_orphaned :
    ∃ resource ∈ (migratedWorld "new").user, resource.uid = "new" ∧
      (follow (S := userServer) quiet (reconcile "alice" "default" resource)
        (migratedWorld "new")).1.err = some uidsDontMatch ∧
      (follow (S := userServer) quiet (delete "alice" resource) (migratedWorld "new")).1 = none ∧
      ((follow (S := userServer) quiet (delete "alice" resource)
        (migratedWorld "new")).2.internalUsers "alice").isSome = true := by
  decide +kernel

end Migration

end OpenSearchOperator.Security.Users
