import OpenSearchOperator.Security.UserMigration

/-! Whose users a resource touches. Both the update and the deletion of a user are preceded by
a look at the attribute that names its resource. -/

namespace OpenSearchOperator.Security.Users

open Api Effects Migration

def Call.touches : Call → Option String
  | .putInternalUser username _ => some username
  | .deleteInternalUser username => some username
  | _ => none

/-- The stored resource has this uid, and nobody writes a user between the check and the
call that relies on it. -/
structure Unraced (uid : String) (e : UserEvent) : Prop where
  resource : ∀ r ∈ e.before.user, r.uid = uid
  users : ∀ username, e.op.touches = some username →
    e.before.internalUsers username = e.prior.internalUsers username

/-- The user that the call touches was not there or belonged to the resource, and one that is
written belongs to it. -/
structure TouchesOwn (uid : String) (e : UserEvent) : Prop where
  elsewhere : ∀ username, e.op.touches ≠ some username →
    e.after.internalUsers username = e.before.internalUsers username
  touched : ∀ username, e.op.touches = some username →
    ∀ user ∈ e.before.internalUsers username, user.BelongsTo uid
  written : ∀ username user, e.op = .putInternalUser username user → user.BelongsTo uid

theorem answer_elsewhere (choice : UserChoice) {s : UserWorld} {op : Call} {username : String}
    (untouched : op.touches ≠ some username) :
    (answerCall choice s op).2.internalUsers username = s.internalUsers username := by
  have served : (serveCall s op).2.internalUsers username = s.internalUsers username := by
    cases op with
    | updateUserStatus resource =>
      rw [serveCall]
      split
      · rfl
      · dsimp only
        split <;> rfl
    | createSecret name secret =>
      rw [serveCall]
      split <;> rfl
    | putInternalUser name user => exact if_neg fun same => untouched (congrArg some same.symm)
    | deleteInternalUser name =>
      rw [serveCall]
      split
      · rfl
      · exact if_neg fun same => untouched (congrArg some same.symm)
    | _ => rfl
  rw [answerCall]
  split
  · exact served
  · rfl
  · exact served

section Programs

variable {uid username : String} {w : UserRun}

variable {resource : OpensearchUser} {user : User} {op : Call}

def OwnHistory (uid : String) (w : UserRun) : Prop := ∀ e ∈ w.past, TouchesOwn uid e

def Free (uid username : String) (w : UserRun) : Prop :=
  ∀ user ∈ w.state.internalUsers username, user.BelongsTo uid

abbrev Owning (uid : String) {α : Type} (program : UserProg α) (post : α → UserRun → Prop)
    (w : UserRun) : Prop :=
  Safe (Unraced uid) (OwnHistory uid) program post w

theorem OwnHistory.extend (own : OwnHistory uid w) {e : UserEvent} (proper : TouchesOwn uid e) :
    OwnHistory uid (w.extend e) := by
  intro x happened
  rcases List.mem_cons.mp happened with rfl | earlier
  · exact proper
  · exact own x earlier

theorem OwnHistory.read (own : OwnHistory uid w) (choice : UserChoice)
    (untouched : op.touches = none) : OwnHistory uid (w.extend (w.arrive choice op)) := by
  apply own.extend
  refine ⟨fun name _ => answer_elsewhere choice (untouched ▸ nofun), ?_, ?_⟩
  · intro name touched
    cases untouched.symm.trans touched
  · rintro name user rfl
    cases untouched

abbrev KeepsOwn (uid : String) {α : Type} (program : UserProg α) : Prop :=
  Keeps (Unraced uid) (OwnHistory uid) (OwnHistory uid) program

theorem keeps_untouched {α : Type} {program : UserProg α}
    (only : program.OnlyCalls fun op : Call => op.touches = none) : KeepsOwn uid program :=
  keeps_of_calls (fun _ own => own) only fun _ choice _ untouched _ own => own.read choice untouched

theorem keeps_asked (untouched : op.touches = none) : KeepsOwn uid (ask op) :=
  keeps_untouched (onlyCalls_asked untouched)

theorem owning_getUser (own : OwnHistory uid w) :
    Owning uid (ask .getUser) (OkWith (OwnHistory uid) fun resource _ => resource.uid = uid) w := by
  refine ⟨own, fun choice unraced => ⟨own.read choice rfl, fun resource told => ?_⟩⟩
  exact unraced.resource resource (found_ok (answered told))

theorem updateStored_uid {revision : Nat} {stored : Option OpensearchUser}
    {updated : OpensearchUser} (all : ∀ r ∈ stored, r.uid = uid)
    (told : (updateStored Generic.keepStatus revision stored resource).1 = .ok updated) :
    updated.uid = uid := by
  cases stored with
  | none => cases told
  | some current =>
  rw [updateStored] at told
  split at told
  · cases told
  rename_i matching
  have identity : resource.uid = uid := (not_not.mp (not_or.mp matching).1).trans (all current rfl)
  split at told
  · cases told
  · cases told
    exact identity

theorem owning_updateUser (resource : OpensearchUser) (own : OwnHistory uid w) :
    Owning uid (ask (.updateUser resource))
      (OkWith (OwnHistory uid) fun updated _ => updated.uid = uid) w := by
  refine ⟨own, fun choice unraced => ⟨own.read choice rfl, fun updated told => ?_⟩⟩
  have told : (serveCall (w.arrive choice (.updateUser resource)).before
      (.updateUser resource)).1 = .ok updated := answered told
  exact updateStored_uid unraced.resource told

theorem owning_updateUserStatus (own : OwnHistory uid w) :
    Owning uid (ask (.updateUserStatus resource))
      (OkWith (OwnHistory uid) fun updated _ => updated.uid = uid) w := by
  refine ⟨own, fun choice unraced => ⟨own.read choice rfl, fun updated told => ?_⟩⟩
  have told : (serveCall (w.arrive choice (.updateUserStatus resource)).before
      (.updateUserStatus resource)).1 = .ok updated := answered told
  rw [serveCall] at told
  split at told
  · cases told
  rename_i current stored
  split at told
  · cases told
  · cases told
    exact unraced.resource current stored

theorem owning_updateObjectStatus (f : Generic.Status Unit → Generic.Status Unit)
    (resource : OpensearchUser) (own : OwnHistory uid w) :
    Owning uid (updateObjectStatus f resource)
      (fun result w => OwnHistory uid w ∧ (result.1 = none → result.2.uid = uid)) w := by
  refine safe_retry_restored (fun resource w own => ?_) (fun _ _ outcome => outcome.1) 4 resource
    own
  apply (owning_getUser own).thenOk
  · exact fun _ _ own => ⟨own, nofun⟩
  intro stored w own _
  apply (owning_updateUserStatus own).thenOk
  · exact fun _ _ own => ⟨own, nofun⟩
  intro updated w own identity
  exact ⟨own, fun _ => identity⟩

/-- OpenSearch leaves out the password of the user, and tells its attributes. -/
theorem owning_getInternalUser (own : OwnHistory uid w) :
    Owning uid (ask (.getInternalUser username)) (OkWith (OwnHistory uid) fun found w =>
      (∀ user ∈ found, user.BelongsTo uid) → Free uid username w) w := by
  refine ⟨own, fun choice unraced => ⟨own.read choice rfl, fun found told belongs user there => ?_⟩⟩
  have kept : (w.extend (w.arrive choice (.getInternalUser username))).state.internalUsers
      username =
      (w.arrive choice (.getInternalUser username)).before.internalUsers username :=
    answer_elsewhere choice nofun
  have told : (serveCall (w.arrive choice (.getInternalUser username)).before
      (.getInternalUser username)).1 = .ok found := answered told
  cases told
  rw [kept] at there
  have shown : { user with password := "" }.BelongsTo uid :=
    belongs _ (Option.mem_map_of_mem _ there)
  exact shown

theorem compareUser_ok {existing : User} {update : Bool} (wanted : user.BelongsTo uid)
    (compared : compareUser user existing = .ok update) : existing.BelongsTo uid := by
  rw [User.BelongsTo] at wanted
  rw [compareUser] at compared
  split at compared
  · cases compared
  rename_i existingUID present
  split at compared
  · cases compared
  rename_i same
  rw [User.BelongsTo, present, not_not.mp same, wanted]
  rfl

theorem owning_shouldUpdateUser (wanted : user.BelongsTo uid) (own : OwnHistory uid w) :
    Owning uid (shouldUpdateUser username user)
      (OkWith (OwnHistory uid) fun _ => Free uid username) w := by
  apply (owning_getInternalUser own).thenOk
  · exact fun _ _ own => ⟨own, nofun⟩
  intro found w own free
  cases found with
  | none => exact ⟨own, fun _ _ => free nofun⟩
  | some existing => exact ⟨own, fun _ told => free (by simpa using compareUser_ok wanted told)⟩

theorem owning_userUIDMatches (own : OwnHistory uid w) :
    Owning uid (userUIDMatches username uid) (fun reply w => OwnHistory uid w ∧
      (reply = .ok true → Free uid username w)) w := by
  apply (owning_getInternalUser own).thenOk
  · exact fun _ _ own => ⟨own, nofun⟩
  intro found w own free
  cases found with
  | none => exact ⟨own, nofun⟩
  | some existing =>
    refine ⟨own, fun told => free fun user same => ?_⟩
    cases same
    exact eq_of_beq (Except.ok.inj told)

theorem owning_touch (touched : op.touches = some username)
    (wanted : ∀ name user, op = .putInternalUser name user → user.BelongsTo uid)
    (own : OwnHistory uid w) (free : Free uid username w) :
    Owning uid (ask op) (fun _ => OwnHistory uid) w := by
  refine ⟨own, fun choice unraced => own.extend ?_⟩
  refine ⟨fun name untouched => answer_elsewhere choice untouched, ?_, wanted⟩
  intro name touches user there
  cases touched.symm.trans touches
  rw [unraced.users username touched] at there
  exact free user there

theorem keeps_syncUser (wanted : user.BelongsTo uid) : KeepsOwn uid (syncUser username user) := by
  intro w own
  apply (owning_shouldUpdateUser wanted own).bind
  intro reply w ⟨own, free⟩
  match reply with
  | .error err => exact own
  | .ok false => exact own
  | .ok true =>
    have put : Owning uid (ask (.putInternalUser username user)) (fun _ => OwnHistory uid) w := by
      apply owning_touch rfl _ own (free true rfl)
      intro name written same
      cases same
      exact wanted
    apply put.bind
    intro reply w own
    cases reply <;> exact own

theorem keeps_deleteOwned : KeepsOwn uid (deleteOwned username uid) := by
  have exist : KeepsOwn uid (userExists username) :=
    keeps_untouched (onlyCalls_ask rfl fun reply => by cases reply <;> trivial)
  apply exist.bind
  intro reply
  match reply with
  | .error err => exact keeps_pure _
  | .ok false => exact keeps_pure _
  | .ok true =>
    intro w own
    apply (owning_userUIDMatches own).bind
    intro reply w ⟨own, free⟩
    match reply with
    | .error err => exact own
    | .ok false => exact own
    | .ok true =>
      have deleted : Owning uid (ask (.deleteInternalUser username)) (fun _ => OwnHistory uid) w :=
        owning_touch rfl nofun own (free rfl)
      apply deleted.bind
      intro reply w own
      cases reply <;> exact own

theorem keeps_provisionUser (cluster : ReferredCluster) (userNamespace : String)
    (identity : resource.uid = uid) :
    KeepsOwn uid (provisionUser cluster username userNamespace resource) := by
  rw [provisionUser]
  split
  · exact keeps_pure _
  apply (keeps_asked rfl).bindOk
  · exact fun _ => keeps_pure _
  intro _
  have managed : KeepsOwn uid (managePasswordSecret resource username userNamespace) := by
    apply keeps_untouched
    refine (onlyCalls_asked (by rfl)).bindOk (fun _ => trivial) fun secret => ?_
    exact onlyCalls_asked rfl
  apply managed.bindOk
  · exact fun _ => keeps_pure _
  intro userSecret
  dsimp only
  split
  · exact keeps_pure _
  · exact keeps_syncUser (congrArg some identity)

theorem keeps_provision (userNamespace : String) (identity : resource.uid = uid) :
    KeepsOwn uid (provision username userNamespace resource) := by
  apply (keeps_asked rfl).bindOk
  · intro err
    cases err <;> exact keeps_pure _
  intro cluster
  dsimp only
  split
  · split
    · exact keeps_pure _
    · exact keeps_provisionUser cluster userNamespace identity
  intro w own
  apply (owning_updateObjectStatus _ resource own).bind
  intro ⟨err, updated⟩ w ⟨own, identity⟩
  cases err with
  | some err => exact own
  | none => exact keeps_provisionUser cluster userNamespace (identity rfl) w own

theorem keeps_delete (identity : resource.uid = uid) : KeepsOwn uid (delete username resource) := by
  apply (keeps_asked rfl).bindOk
  · intro err
    cases err <;> exact keeps_pure _
  intro cluster
  dsimp only
  split
  · exact keeps_pure _
  apply (keeps_asked rfl).bindOk
  · exact fun _ => keeps_pure _
  intro _
  rw [identity]
  exact keeps_deleteOwned

theorem keeps_userPass (username userNamespace : String) :
    KeepsOwn uid (userPass username userNamespace) := by
  intro w own
  apply (owning_getUser own).thenOk
  · intro err w own
    cases err <;> exact own
  intro resource w own identity
  dsimp only
  split
  · apply (owning_updateUser (addFinalizer resource) own).thenOk
    · exact fun _ _ own => own
    intro stored w own identity
    have reconciled : KeepsOwn uid (reconcile username userNamespace stored) := by
      apply (keeps_provision userNamespace identity).bind
      intro verdict w own
      apply (owning_updateObjectStatus (recordVerdict verdict) stored own).bind
      exact fun _ _ outcome => outcome.1
    apply (reconciled w own).bind
    exact fun _ _ own => own
  split
  · apply (keeps_delete identity w own).bindNone
    · exact fun _ _ own => own
    intro w own
    apply (owning_updateUser _ own).bind
    intro reply w ⟨own, _⟩
    cases reply <;> exact own
  · exact own

end Programs

/-- Whatever calls fail, a resource touches only users that it owns or that are not there, and
leaves its uid on those that it writes. -/
theorem users_touched_own (username userNamespace uid : String) (start : UserRun)
    (passes : List (List UserChoice)) (fresh : start.past = [])
    (unraced : ∀ e ∈ (runs (userPass username userNamespace) passes start).past, Unraced uid e) :
    ∀ e ∈ (runs (userPass username userNamespace) passes start).past, TouchesOwn uid e := by
  have initially : OwnHistory uid start := by
    intro e happened
    rw [fresh] at happened
    cases happened
  exact runs_keep (keeps_userPass username userNamespace) passes start initially unraced

section Runs

/-- The cluster with alice's resource; the spec asks for an attribute that names somebody
else. -/
def boldWorld : UserRun :=
  ⟨{ provisionedWorld with
     user := some { alice with
       spec := { alice.spec with attributes := [(K8sAttributeField, "other")] } } }, []⟩

def boldPasses : List (List UserChoice) := [List.replicate 20 quiet, List.replicate 20 quiet]

theorem alice_touches_own :
    (∃ e ∈ (runs (userPass "alice" "default") boldPasses boldWorld).past,
      e.op.touches = some "alice") ∧
    ∀ e ∈ (runs (userPass "alice" "default") boldPasses boldWorld).past, TouchesOwn "old" e := by
  have identity : ∀ e ∈ (runs (userPass "alice" "default") boldPasses boldWorld).past,
      ∀ r ∈ e.before.user, r.uid = "old" := by
    decide +kernel
  refine ⟨by decide +kernel, users_touched_own "alice" "default" "old" boldWorld boldPasses rfl ?_⟩
  intro e happened
  refine ⟨identity e happened, fun username _ => ?_⟩
  have driven : e.choice = quiet := by
    rcases runs_choices _ _ _ e happened with earlier | ⟨choices, pass, driven⟩
    · cases earlier
    have same : choices = List.replicate 20 quiet := by
      simpa [boldPasses] using pass
    rw [same] at driven
    exact List.eq_of_mem_replicate driven
  rw [Event.before, driven]
  rfl

end Runs

end OpenSearchOperator.Security.Users
