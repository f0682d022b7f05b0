import Mathlib.Tactic.MkIffOfInductiveProp
import OpenSearchOperator.Effects.History
import OpenSearchOperator.Migration.GenericLaws

/-! The status of a migrated resource of the other kinds. It is copied by the pass that
creates the new resource and by no other, so it is lost where that pass does not get to
the copy. -/

namespace OpenSearchOperator.Migration.Generic.StatusMemory

open Api Effects HasMeta

variable {Spec Rest : Type}

def source (resource : Resource Spec Rest) : Option String :=
  resource.annotations.get SourceUIDAnnotation

variable [DecidableEq Spec] [DecidableEq Rest] [Inhabited Rest]

@[mk_iff]
structure CreatesFrom (uid : String) (e : GenericEvent Spec Rest) : Prop where
  missing : e.before.new = none
  made : ∃ new ∈ e.after.new, source new = some uid

@[mk_iff]
structure Stays (e : GenericEvent Spec Rest) : Prop where
  others : e.before.new.map Resource.uid = e.prior.new.map Resource.uid
  call : e.after.new.map Resource.uid = e.before.new.map Resource.uid

def Stores (status : Status Rest) (e : GenericEvent Spec Rest) : Prop :=
  ∃ new ∈ e.after.new, clearManagedCluster new.status = clearManagedCluster status

def Forgotten (uid : String) (status : Status Rest) (past : List (GenericEvent Spec Rest)) : Prop :=
  Since (fun e => Stays e ∧ ¬ Stores status e)
    (fun past => ∃ e ∈ past.head?, CreatesFrom uid e) past

def Call.creates : Call Spec Rest → Bool
  | .createNew _ => true
  | _ => false

def Waiting (uid : String) (s : GenericWorld Spec Rest) : Prop :=
  ∃ new ∈ s.new, source new = some uid ∧ new.status = emptyStatus

/-- The old resource has the status. No creation is lost, and while the new resource
waits for the status, calls are served and others leave it alone. -/
@[mk_iff]
structure Attended (uid : String) (status : Status Rest) (e : GenericEvent Spec Rest) : Prop where
  steady : ∀ old ∈ e.before.old, old.uid = uid → old.status = status
  creation : Call.creates e.op = true → e.choice.outcome ≠ .lost
  copy : Waiting uid e.prior → e.choice.outcome = .served ∧ e.before.new = e.prior.new

variable {uid : String} {status : Status Rest}

section Memory

variable {e : GenericEvent Spec Rest} {past : List (GenericEvent Spec Rest)}

theorem not_forgotten_extend (kept : ¬ Forgotten uid status past) (other : ¬ CreatesFrom uid e) :
    ¬ Forgotten uid status (e :: past) := by
  intro forgotten
  rcases since_cons.mp forgotten with ⟨x, last, creates⟩ | ⟨_, earlier⟩
  · cases last
    exact other creates
  · exact kept earlier

theorem not_forgotten_stored (stores : Stores status e) (other : ¬ CreatesFrom uid e) :
    ¬ Forgotten uid status (e :: past) := by
  intro forgotten
  rcases since_cons.mp forgotten with ⟨x, last, creates⟩ | ⟨⟨_, never⟩, _⟩
  · cases last
    exact other creates
  · exact never stores

omit [DecidableEq Spec] [DecidableEq Rest] in
theorem missing_served {picked now : String} {s : GenericWorld Spec Rest} (missing : s.new = none)
    {op : Call Spec Rest} (other : Call.creates op = false) :
    (serveCall picked now s op).2.new = none := by
  cases op with
  | createNew resource => cases other
  | updateNew resource =>
    rw [serveCall, missing]
    rfl
  | updateNewStatus resource =>
    rw [serveCall, missing]
    exact missing
  | deleteOld => exact (deleteOld_new picked now s).trans missing
  | _ => exact missing

theorem not_creates_other (other : Call.creates e.op = false) : ¬ CreatesFrom uid e := by
  intro creates
  have still : e.after.new = none := answerCall_state e.choice e.before (fun t => t.new = none) e.op
    creates.missing (missing_served creates.missing other)
  obtain ⟨new, there, _⟩ := creates.made
  rw [still] at there
  cases there

end Memory

section Passes

def Remembers (uid : String) (status : Status Rest) (w : GenericRun Spec Rest) : Prop :=
  ¬ Forgotten uid status w.past

def Expects (uid : String) (status : Status Rest) (w : GenericRun Spec Rest) : Prop :=
  Forgotten uid status w.past → Waiting uid w.state

abbrev Creationless : (generic Spec Rest).Call → Prop := fun op => Call.creates op = false

def Copy (uid : String) (status : Status Rest) (resource : Resource Spec Rest) : Prop :=
  resource.uid = uid → resource.status = status

variable {w : GenericRun Spec Rest} {new old : Resource Spec Rest}
  {choice : GenericChoice Spec Rest} {s : GenericWorld Spec Rest}

theorem Remembers.expects (remembers : Remembers uid status w) : Expects uid status w :=
  fun forgotten => absurd forgotten remembers

theorem Remembers.extend (remembers : Remembers uid status w) (choice : GenericChoice Spec Rest)
    {op : (generic Spec Rest).Call} (other : Creationless op) :
    Remembers uid status (w.extend (w.arrive choice op)) :=
  not_forgotten_extend remembers (not_creates_other other)

theorem keeps_creationless {α : Type} {program : GenericProg Spec Rest α}
    (only : program.OnlyCalls Creationless) :
    Keeps (Attended uid status) (Expects uid status) (Remembers uid status) program :=
  keeps_of_calls (fun _ remembers => remembers.expects) only
    fun _ choice _ other _ remembers => remembers.extend choice other

omit [DecidableEq Spec] [DecidableEq Rest] in
/-- An update returns the object with the identity and the status it had. -/
theorem updated_answer {resource r : Resource Spec Rest}
    (told : (answerCall choice s (.updateOld resource)).1 = .ok r) :
    ∃ current ∈ s.old, r.uid = current.uid ∧ r.status = current.status := by
  rw [answerCall] at told
  split at told
  · cases stored : s.old with
    | none =>
      rw [serveCall, stored] at told
      cases told
    | some current =>
      rw [serveCall, stored, updateStored] at told
      refine ⟨current, rfl, ?_⟩
      dsimp only at told
      split at told
      · cases told
      rename_i matching
      split at told
      · cases told
      · cases told
        exact ⟨not_not.mp (not_or.mp matching).1, rfl⟩
  · cases told
  · cases told

theorem safe_getOld (remembers : Remembers uid status w) :
    Safe (Attended uid status) (Expects uid status) (ask .getOld) (fun reply w =>
      Remembers uid status w ∧ ∀ r, reply = .ok r → Copy uid status r) w := by
  refine ⟨remembers.expects, fun choice attended => ⟨remembers.extend choice rfl, ?_⟩⟩
  intro r told
  rcases (reads_getOld choice _).2 with current | ⟨_, err, _, failed⟩
  · exact attended.steady r (found_ok (current.symm.trans told))
  · cases failed.symm.trans told

theorem safe_updateOld (resource : Resource Spec Rest) (remembers : Remembers uid status w) :
    Safe (Attended uid status) (Expects uid status) (ask (.updateOld resource)) (fun reply w =>
      Remembers uid status w ∧ ∀ r, reply = .ok r → Copy uid status r) w := by
  refine ⟨remembers.expects, fun choice attended => ⟨remembers.extend choice rfl, ?_⟩⟩
  intro r told
  obtain ⟨current, there, identity, kept⟩ := updated_answer told
  intro same
  rw [kept]
  exact attended.steady current there (identity.symm.trans same)

structure Bare (uid : String) (new : Resource Spec Rest) (w : GenericRun Spec Rest) : Prop where
  there : w.state.new = some new
  made : source new = some uid
  empty : new.status = emptyStatus

theorem Bare.waiting (bare : Bare uid new w) : Waiting uid w.state :=
  ⟨new, bare.there, bare.made, bare.empty⟩

theorem safe_getNewBare (bare : Bare uid new w) :
    Safe (Attended uid status) (Expects uid status) (ask .getNew) (fun reply w =>
      reply = .ok new ∧ Bare uid new w) w := by
  refine ⟨fun _ => bare.waiting, fun choice attended => ?_⟩
  obtain ⟨served, alone⟩ := attended.copy bare.waiting
  have here : (w.arrive choice .getNew).before.new = some new := alone.trans bare.there
  obtain ⟨same, current | ⟨refused, _⟩⟩ := reads_getNew choice (w.arrive choice .getNew).before
  · refine ⟨current.trans (congrArg found here), ?_, bare.made, bare.empty⟩
    exact (congrArg Pair.new same).trans here
  · exact absurd served refused

omit [DecidableEq Spec] [DecidableEq Rest] in
theorem answer_updateNewStatus (copied : Status Rest) (served : choice.outcome = .served)
    (there : s.new = some new) :
    answerCall choice s (.updateNewStatus { new with status := copied }) = (.ok (), { s with
        revision := s.revision + 1
        new := some { new with resourceVersion := s.revision + 1, status := copied } }) := by
  simp [answerCall, served, serveCall, there]

theorem safe_copy (bare : Bare uid new w) : Safe (Attended uid status) (Expects uid status)
      (ask (.updateNewStatus { new with status := clearManagedCluster status }))
      (fun reply w => reply = .ok () ∧ Remembers uid status w) w := by
  refine ⟨fun _ => bare.waiting, fun choice attended => ?_⟩
  obtain ⟨served, alone⟩ := attended.copy bare.waiting
  have here : (w.arrive choice (.updateNewStatus _)).before.new = some new :=
    alone.trans bare.there
  have answered := answer_updateNewStatus (clearManagedCluster status) served here
  refine ⟨congrArg Prod.fst answered, not_forgotten_stored ?_ (not_creates_other rfl)⟩
  exact ⟨_, congrArg (fun a => a.2.new) answered, rfl⟩

theorem safe_updateStatusAttempt (bare : Bare uid new w) :
    Safe (Attended uid status) (Expects uid status) (updateStatusAttempt status ())
      (fun result w => result = (none, ()) ∧ Remembers uid status w) w := by
  apply (safe_getNewBare bare).bind
  rintro _ w ⟨rfl, bare⟩
  apply (safe_copy bare).bind
  rintro _ w ⟨rfl, remembers⟩
  exact ⟨rfl, remembers⟩

theorem safe_updateObjectStatus (bare : Bare uid new w) :
    Safe (Attended uid status) (Expects uid status) (updateObjectStatus status)
      (fun _ => Remembers uid status) w := by
  apply (safe_updateStatusAttempt bare).bind
  rintro _ w ⟨rfl, remembers⟩
  exact remembers

omit [DecidableEq Spec] [DecidableEq Rest] [Inhabited Rest] in
theorem onlyCalls_updateObjectStatus (copied : Status Rest) :
    (updateObjectStatus copied : GenericProg Spec Rest _).OnlyCalls Creationless := by
  apply onlyCalls_retry
  intro _
  refine (onlyCalls_asked (by rfl)).bindOk (fun _ => trivial) fun stored => ?_
  refine ⟨rfl, fun reply => ?_⟩
  cases reply <;> trivial

omit [DecidableEq Spec] [DecidableEq Rest] in
theorem answer_createNew
    (resource : Resource Spec Rest) (served : choice.outcome = .served) (missing : s.new = none) :
    answerCall choice s (.createNew resource) = (.ok (), { s with
        revision := s.revision + 1, new := some { resource with
          uid := choice.uid, resourceVersion := s.revision + 1, deleting := false
          status := emptyStatus } }) := by
  simp [answerCall, served, serveCall, missing]

omit [DecidableEq Spec] [DecidableEq Rest] in
theorem served_of_created {op : Call Spec Rest} (missing : s.new = none)
    (there : (answerCall choice s op).2.new = some new) (received : choice.outcome ≠ .lost) :
    choice.outcome = .served := by
  cases outcome : choice.outcome with
  | served => rfl
  | lost => exact absurd outcome received
  | refused fault =>
    rw [answerCall, outcome] at there
    cases missing.symm.trans there

/-- The creation makes a resource that waits, or leaves things as they are. -/
theorem safe_createNew (old : Resource Spec Rest) (timestamp : String)
    (remembers : Remembers uid status w) :
    Safe (Attended uid status) (Expects uid status) (ask (.createNew (newFromOld old timestamp)))
      (fun reply w => Remembers uid status w ∨
        reply = .ok () ∧ old.uid = uid ∧ ∃ new, Bare uid new w) w := by
  refine ⟨remembers.expects, fun choice attended => ?_⟩
  by_cases creates : CreatesFrom uid (w.arrive choice (.createNew (newFromOld old timestamp)))
  · obtain ⟨missing, new, there, made⟩ := creates
    have served := served_of_created missing there (attended.creation rfl)
    have answered := answer_createNew (newFromOld old timestamp) served missing
    have state := congrArg (fun answer => answer.2.new) answered
    have stored := Option.some.inj (there.symm.trans state)
    refine Or.inr ⟨congrArg Prod.fst answered, ?_, new, there, made, ?_⟩
    · rw [stored] at made
      exact Option.some.inj made
    · rw [stored]
  · exact Or.inl (not_forgotten_extend remembers creates)

theorem keeps_createGenericNewFromOld (copy : Copy uid status old) :
    Keeps (Attended uid status) (Expects uid status) (Remembers uid status)
      (createGenericNewFromOld old) := by
  intro w remembers
  apply (keeps_creationless (onlyCalls_asked rfl) w remembers).bind
  intro timestamp w remembers
  apply (safe_createNew old timestamp remembers).bind
  intro reply w outcome
  rcases outcome with remembers | ⟨rfl, same, new, bare⟩
  · cases reply with
    | error err => cases err <;> exact remembers
    | ok _ =>
      apply (keeps_creationless (onlyCalls_updateObjectStatus old.status) w remembers).bind
      intro ⟨err, _⟩ w remembers
      cases err <;> exact remembers
  · have copied := copy same
    subst copied
    apply (safe_updateObjectStatus bare).bind
    intro ⟨err, _⟩ w remembers
    cases err <;> exact remembers

theorem keeps_migrateOld (copy : Copy uid status old) :
    Keeps (Attended uid status) (Expects uid status) (Remembers uid status)
      ((genericMigrator Spec Rest).migrateOld old) := by
  apply (keeps_creationless (onlyCalls_asked rfl)).bind
  intro reply
  cases reply with
  | ok new => exact keeps_pure _
  | error err =>
    cases err with
    | notFound =>
      dsimp only
      split
      · exact keeps_pure _
      split
      · exact keeps_pure _
      · exact keeps_createGenericNewFromOld copy
    | _ => exact keeps_pure _

omit [DecidableEq Spec] [DecidableEq Rest] in
theorem within_creationless : (genericMigrator Spec Rest).Within Creationless where
  getNew := onlyCalls_asked rfl
  getOld := onlyCalls_asked rfl
  updateNew _ := onlyCalls_asked rfl
  updateOld _ := onlyCalls_asked rfl
  deleteOld := onlyCalls_asked rfl

theorem keeps_reconcile : Keeps (Attended uid status) (Expects uid status) (Remembers uid status)
    (reconcileGenericMigration Spec Rest) :=
  within_creationless.keeps_reconcile (Copy uid status) (fun _ remembers => remembers.expects)
    (fun _ choice _ other _ remembers => remembers.extend choice other)
    (fun _ remembers => safe_getOld remembers)
    (fun resource _ remembers => safe_updateOld resource remembers)
    (fun _ copy => keeps_migrateOld copy)

end Passes

/-- A pass that returns leaves no new resource without the status of the old one. -/
theorem status_remembered (uid : String) (status : Status Rest) (start : GenericRun Spec Rest)
    (passes : List (List (GenericChoice Spec Rest))) (choices : List (GenericChoice Spec Rest))
    (returned : Returned) (fresh : start.past = [])
    (cuts : CutsOnly (reconcileGenericMigration Spec Rest) (fun w => ¬ Waiting uid w.state) passes
      start)
    (attended : ∀ e ∈ (exec (reconcileGenericMigration Spec Rest) choices
      (runs (reconcileGenericMigration Spec Rest) passes start)).2.past, Attended uid status e)
    (done : (exec (reconcileGenericMigration Spec Rest) choices
      (runs (reconcileGenericMigration Spec Rest) passes start)).1 = some returned) :
    ¬ Forgotten uid status (exec (reconcileGenericMigration Spec Rest) choices
      (runs (reconcileGenericMigration Spec Rest) passes start)).2.past := by
  have initially : Remembers uid status start := by
    rw [Remembers, fresh, Forgotten, since_nil]
    rintro ⟨e, last, _⟩
    cases last
  have earlier : ∀ e ∈ (runs (reconcileGenericMigration Spec Rest) passes start).past,
      Attended uid status e := fun e happened => attended e ((exec_past _ _ _).subset happened)
  have before : Remembers uid status (runs (reconcileGenericMigration Spec Rest) passes start) :=
    runs_restore (K := Remembers uid status) keeps_reconcile
      (fun w expects settled forgotten => settled (expects forgotten)) passes start initially cuts
      earlier
  exact ((keeps_reconcile _ before).outcome choices attended).1 returned done

section Runs

instance (e : GenericEvent Spec Rest) : Decidable (CreatesFrom uid e) :=
  decidable_of_iff' _ (createsFrom_iff ..)

instance (e : GenericEvent Spec Rest) : Decidable (Stays e) :=
  decidable_of_iff' _ (stays_iff ..)

instance (e : GenericEvent Spec Rest) : Decidable (Stores status e) :=
  inferInstanceAs (Decidable (∃ new ∈ e.after.new, _ = _))

instance (past : List (GenericEvent Spec Rest)) : Decidable (Forgotten uid status past) :=
  haveI : DecidablePred fun past : List (GenericEvent Spec Rest) =>
      ∃ e ∈ past.head?, CreatesFrom uid e := fun past =>
    inferInstanceAs (Decidable (∃ e ∈ past.head?, CreatesFrom uid e))
  decidableSince past

instance (s : GenericWorld Spec Rest) : Decidable (Waiting uid s) :=
  inferInstanceAs (Decidable (∃ new ∈ s.new, _ ∧ _))

instance (e : GenericEvent Spec Rest) : Decidable (Attended uid status e) :=
  decidable_of_iff' _ (attended_iff ..)

def createdStatus : Status Unit := ⟨"CREATED", "", some "cluster", ()⟩

theorem user_status_remembered :
    let later := exec (reconcileGenericMigration Unit Unit) quietCalls
      (runs (reconcileGenericMigration Unit Unit) [quietCalls] beforeMigration)
    (∃ e ∈ later.2.past, CreatesFrom "old" e) ∧ ¬ Forgotten "old" createdStatus later.2.past := by
  have done : (exec (reconcileGenericMigration Unit Unit) quietCalls
      (runs (reconcileGenericMigration Unit Unit) [quietCalls] beforeMigration)).1 =
      some ({ requeue := true }, none) := by decide
  have remembered := status_remembered "old" createdStatus beforeMigration [quietCalls] quietCalls
    ({ requeue := true }, none) rfl (by decide) (by decide) done
  exact ⟨by decide, remembered⟩

def createdOnly : List (GenericChoice Unit Unit) :=
  let quiet : GenericChoice Unit Unit := {}
  List.replicate 6 quiet ++ [{ outcome := .refused .unavailable }]

/-- The next pass finds the new resource and takes the migration for complete. -/
theorem user_status_forgotten :
    let later := exec (reconcileGenericMigration Unit Unit) quietCalls
      (runs (reconcileGenericMigration Unit Unit) [createdOnly] beforeMigration)
    later.1 = some ({ requeue := true }, none) ∧ later.2.state.old.isSome = true ∧
      (∃ new ∈ later.2.state.new, source new = some "old" ∧ new.status = emptyStatus) ∧
      Forgotten "old" createdStatus later.2.past := by
  decide

end Runs

end OpenSearchOperator.Migration.Generic.StatusMemory
