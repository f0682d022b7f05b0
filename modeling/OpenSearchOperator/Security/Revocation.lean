import OpenSearchOperator.Security.Grants

/-! A pass of the controller keeps track of the grants, a full success leaves only
those of the spec, and a deletion none. -/

namespace OpenSearchOperator.Security

open Api Effects

section Roles

variable {role : String} {subject : Subject} {Base : BindingWorld → Prop} {goal reason : Prop}
  {w : BindingRun} {binding : UserRoleBinding}

theorem absent_of_none (absent : w.state.mappings role = none) : ¬ Holds w.state role subject := by
  intro ⟨mapping, stored, _⟩
  rw [absent] at stored
  cases stored

theorem OnMappings.cleared (holds : OnMappings role subject Base reason w)
    (absent : ¬ Holds w.state role subject) : OnMappings role subject Base False w :=
  ⟨holds.1, Kept.absent absent⟩

theorem mem_diffSlices {spec : BindingSpec} {users backendRoles : List String}
    (member : subject.mem users backendRoles) (unnamed : ¬ spec.Names subject) :
    subject.mem (diffSlice users spec.users) (diffSlice backendRoles spec.backendRoles) := by
  cases subject with
  | _ => exact mem_diffSlice.mpr ⟨member, unnamed⟩

/-- The subject is gone for good once its role was handled. Until then the reason for
it to be there has to be one that the steps allow. -/
theorem safe_eachRole {ε : Type} (handle : String → BindingProg (Option ε))
    (named : Prop) (allowed : Prop → Prop) (cleared : named → allowed False) (roles : List String)
    (step : ∀ {reason : Prop} {w}, (reason → goal) → allowed reason → ∀ name ∈ roles,
      OnMappings role subject Base reason w →
      Upholds role subject (handle name) (Clears role subject Base reason (name = role ∧ named)) w)
    (enough : reason → goal) (suited : allowed reason)
    (holds : OnMappings role subject Base reason w) : Upholds role subject (eachRole handle roles)
      (fun err w => OnMappings role subject Base reason w ∧
        (err = none → role ∈ roles → named → Kept role subject False w)) w := by
  induction roles generalizing reason w with
  | nil => exact ⟨holds, fun _ impossible => by cases impossible⟩
  | cons name roles ih =>
    apply (step enough suited name List.mem_cons_self holds).bindNone
    · intro err w ⟨holds, gone⟩
      exact ⟨holds, nofun⟩
    intro w ⟨holds, gone⟩
    by_cases now : name = role ∧ named
    · have absent := gone rfl now
      apply (ih (fun enough suited name member => step enough suited name
        (List.mem_cons_of_mem _ member)) False.elim (cleared now.2)
        (holds.cleared absent)).mono
      intro err w ⟨clear, _⟩
      exact ⟨⟨clear.1, clear.2.mono False.elim⟩, fun _ _ _ => clear.2⟩
    · apply (ih (fun enough suited name member => step enough suited name
        (List.mem_cons_of_mem _ member)) enough suited holds).mono
      intro err w ⟨kept, later⟩
      refine ⟨kept, fun fine member called => later fine ?_ called⟩
      rcases List.mem_cons.mp member with here | there
      · exact absurd ⟨here.symm, called⟩ now
      · exact there

variable (ground : Ground role subject Base goal) (enough : reason → goal)
  (holds : OnMappings role subject Base reason w) (name : String)
include ground enough holds

theorem Ground.safe_revokeRole :
    Upholds role subject (revokeRole binding name) (Clears role subject Base reason
      (name = role ∧ binding.status.provisioned.Names subject)) w := by
  apply (ground.safe_roleMappingExists enough holds name).bind
  intro reply w ⟨holds, absent⟩
  match reply with
  | .error err => exact ⟨holds, nofun⟩
  | .ok false => exact ⟨holds, fun _ should => absent_of_none (should.1 ▸ absent rfl)⟩
  | .ok true =>
    apply (ground.safe_removeObjects holds enough name _ _).bind
    intro err w ⟨holds, cleared⟩
    exact ⟨holds, fun fine => cleared (Option.map_eq_none_iff.mp fine)⟩

theorem Ground.safe_deleteRole :
    Upholds role subject (deleteRole binding name) (Clears role subject Base reason
      (name = role ∧ binding.status.provisioned.Names subject)) w := by
  apply (ground.safe_roleMappingExists enough holds name).bind
  intro reply w ⟨holds, absent⟩
  match reply with
  | .error err => exact ⟨holds, nofun⟩
  | .ok false => exact ⟨holds, fun _ should => absent_of_none (should.1 ▸ absent rfl)⟩
  | .ok true => exact ground.safe_removeObjects holds enough name _ _

theorem Ground.safe_grantRole (granted : name = role → binding.spec.Names subject → reason) :
    Upholds role subject (grantRole binding name) (Clears role subject Base reason (name = role ∧
      binding.status.provisioned.Names subject ∧ ¬ binding.spec.Names subject)) w := by
  apply (ground.safe_roleMappingExists enough holds name).bind
  intro reply w ⟨holds, absent⟩
  match reply with
  | .error err => exact ⟨holds, nofun⟩
  | .ok false =>
    apply (ground.safe_putRoleMapping enough holds name ⟨binding.spec.backendRoles, [],
      binding.spec.users⟩ fun here has => Or.inr (granted here has)).thenOk
    · exact fun _ _ holds => ⟨holds, nofun⟩
    · exact fun _ _ holds cleared => ⟨holds, fun _ should => cleared ⟨should.1, should.2.2⟩⟩
  | .ok true =>
    apply (ground.safe_reconcileExistingMapping holds enough binding name _ _ granted).bind
    intro err w ⟨holds, cleared⟩
    refine ⟨holds, fun fine ⟨here, named, unnamed⟩ => ?_⟩
    exact cleared (Option.map_eq_none_iff.mp fine) ⟨here, mem_diffSlices named unnamed, unnamed⟩

end Roles

section Pass

variable {role reason : String} {subject : Subject} {provisioned spec : BindingSpec}
  {w : BindingRun} {binding : UserRoleBinding}

structure InHand (provisioned spec : BindingSpec) (binding : UserRoleBinding) : Prop where
  spec : binding.spec = spec
  provisioned : binding.status.provisioned = provisioned

def Verdict.Provisioned (verdict : Verdict) : Prop :=
  verdict.err = none ∧ verdict.result.requeueAfter = seconds 30

abbrev Owed (role : String) (subject : Subject) (provisioned spec : BindingSpec) : Prop :=
  provisioned.Grants role subject ∨ spec.Grants role subject

abbrev Owing (role : String) (subject : Subject) (provisioned spec : BindingSpec) :
    BindingRun → Prop :=
  OnMappings role subject (Bound provisioned spec) (Owed role subject provisioned spec)

def Provides (role : String) (subject : Subject) (provisioned spec : BindingSpec)
    (verdict : Verdict) (w : BindingRun) : Prop :=
  Owing role subject provisioned spec w ∧
    (verdict.Provisioned → Kept role subject (spec.Grants role subject) w)

theorem provides_undone {verdict : Verdict} (holds : Owing role subject provisioned spec w)
    (undone : ¬ verdict.Provisioned) : Provides role subject provisioned spec verdict w :=
  ⟨holds, fun done => absurd done undone⟩

theorem not_provisioned_failed (err : ApiError) :
    ¬ (failed reason err).Provisioned := fun both => by cases both.1

theorem not_provisioned_waiting : ¬ (waiting reason).Provisioned := by
  intro both
  have same : seconds 10 = seconds 30 := both.2
  exact absurd same (by decide)

def EndsFailed (ended : Option Verdict) : Prop := ∀ verdict ∈ ended, ¬ verdict.Provisioned

theorem endsFailed_map (reason : String) (err : Option ApiError) :
    EndsFailed (err.map (failed reason)) := by
  intro verdict member
  obtain ⟨_, _, rfl⟩ := Option.map_eq_some_iff.mp member
  exact not_provisioned_failed _

theorem endsFailed_some (err : ApiError) :
    EndsFailed (some (failed reason err)) := endsFailed_map reason (some err)

theorem returns_revokeRole (name : String) : (revokeRole binding name).Returns EndsFailed := by
  apply Program.returns_bind _ _ (Program.returns_any _)
  intro reply _
  match reply with
  | .error err => exact endsFailed_some err
  | .ok false => exact nofun
  | .ok true =>
    apply Program.returns_bind _ _ (Program.returns_any _)
    exact fun err _ => endsFailed_map _ err

theorem returns_grantRole (name : String) : (grantRole binding name).Returns EndsFailed := by
  apply Program.returns_bind _ _ (Program.returns_any _)
  intro reply _
  match reply with
  | .error err => exact endsFailed_some err
  | .ok true =>
    apply Program.returns_bind _ _ (Program.returns_any _)
    exact fun err _ => endsFailed_map _ err
  | .ok false =>
    apply Program.returns_bind _ _ (Program.returns_any _)
    intro reply _
    cases reply with
    | error err => exact endsFailed_some err
    | ok _ => exact nofun

theorem returns_eachRole {handle : String → BindingProg (Option Verdict)}
    (each : ∀ name, (handle name).Returns EndsFailed) (roles : List String) :
    (eachRole handle roles).Returns EndsFailed := by
  induction roles with
  | nil => exact nofun
  | cons name roles ih =>
    apply Program.returns_bind _ _ (each name)
    intro ended failed
    cases ended with
    | some verdict => exact failed
    | none => exact ih

/-- The second loop, after the first one took the roles that the spec has not. -/
theorem safe_grantRoles (inHand : InHand provisioned spec binding)
    (holds : Owing role subject provisioned spec w)
    (revoked : role ∈ calculateRemovedRoles binding →
      binding.status.provisioned.Names subject → Kept role subject False w) :
    Upholds role subject (do
      match ← eachRole (grantRole binding) binding.spec.roles with
      | some verdict => return verdict
      | none => return { result := { requeue := true, requeueAfter := seconds 30 } })
      (Provides role subject provisioned spec) w := by
  obtain ⟨rfl, rfl⟩ := inHand
  have ground := ground_bound role subject binding.status.provisioned binding.spec
  have grant := fun {reason : Prop} (enough : reason → _)
      (suited : binding.spec.Grants role subject → reason) =>
    safe_eachRole (grantRole binding)
      (binding.status.provisioned.Names subject ∧ ¬ binding.spec.Names subject)
      (binding.spec.Grants role subject → ·) (fun named grants => named.2 grants.2) _
      (fun enough suited name member holds => ground.safe_grantRole enough holds name
        fun here named => suited ⟨here ▸ member, named⟩) enough suited (w := w)
  by_cases gone : role ∈ calculateRemovedRoles binding ∧ binding.status.provisioned.Names subject
  · have unlisted : role ∉ binding.spec.roles := by
      have removed := List.of_mem_filter gone.1
      simpa using removed
    have granting := grant False.elim (fun grants => unlisted grants.1)
      ⟨holds.1, revoked gone.1 gone.2⟩
    apply (granting.returns (returns_eachRole returns_grantRole _)).bind
    intro ended w ⟨failed, clear, _⟩
    cases ended <;> exact ⟨⟨clear.1, clear.2.mono False.elim⟩, fun _ => clear.2.mono False.elim⟩
  · apply ((grant id Or.inr holds).returns (returns_eachRole returns_grantRole _)).bindNone
    · intro verdict w ⟨failed, holds, later⟩
      exact provides_undone holds (failed verdict rfl)
    intro w ⟨failed, holds, later⟩
    refine ⟨holds, fun _ added there => ?_⟩
    rcases holds.2 added there with ⟨listed, named⟩ | grants
    · by_contra denied
      by_cases stays : role ∈ binding.spec.roles
      · have unnamed : ¬ binding.spec.Names subject := fun names => denied ⟨stays, names⟩
        exact later rfl stays ⟨named, unnamed⟩ added there
      apply gone
      refine ⟨List.mem_filter.mpr ⟨listed, ?_⟩, named⟩
      simpa using stays
    · exact grants

/-- What is still there of a full success is granted by the spec: the first loop took
the roles that the spec has not, the second one the subjects. -/
theorem safe_provisionRoles (cluster : ReferredCluster) (inHand : InHand provisioned spec binding)
    (holds : Owing role subject provisioned spec w) :
    Upholds role subject (provisionRoles cluster binding)
      (Provides role subject provisioned spec) w := by
  have ground := ground_bound role subject provisioned spec
  rw [provisionRoles]
  split
  · exact provides_undone holds (not_provisioned_waiting)
  apply (ground.safe_quiet id holds .createClient nofun rfl nofun).bindOk
  · exact fun _ _ holds => provides_undone holds (not_provisioned_failed _)
  intro _ w holds
  have revoking := safe_eachRole (revokeRole binding) _ (fun _ => True) (fun _ => trivial)
    (calculateRemovedRoles binding)
    (fun enough _ name _ holds => ground.safe_revokeRole enough holds name) id trivial holds
  apply (revoking.returns (returns_eachRole returns_revokeRole _)).bindNone
  · rintro verdict w ⟨failed, holds, revoked⟩
    exact provides_undone holds (failed verdict rfl)
  rintro w ⟨failed, holds, revoked⟩
  exact safe_grantRoles inHand holds (revoked rfl)

end Pass

section StatusUpdate

variable {role : String} {subject : Subject} {provisioned spec new : BindingSpec} {reason : Prop}
  {w : BindingRun} {f : UserRoleBinding → BindingStatus}

/-- What a status update needs: the new lists, and that the reason for a grant to be
there goes with the old and the new ones. -/
structure Records (role : String) (subject : Subject) (provisioned spec new : BindingSpec)
    (reason : Prop) (f : UserRoleBinding → BindingStatus) : Prop where
  lists : ∀ stored, InHand provisioned spec stored → (f stored).provisioned = new
  settled : provisioned = spec → new = spec
  before : reason → Owed role subject provisioned spec
  after : reason → Owed role subject new spec

theorem binding_written (choice : BindingChoice) {s : BindingWorld} {op : Call}
    {current updated : UserRoleBinding} {value : op.Payload} (there : s.binding = some current)
    (served : (∃ err, serveCall s op = (.error err, s)) ∨
      serveCall s op = (.ok value, { s with binding := some updated })) :
    (∃ err, (answerCall choice s op).1 = .error err ∧
        (answerCall choice s op).2.binding = some current) ∨
      (((answerCall choice s op).1 = .ok value ∨ (answerCall choice s op).1 = .error .unavailable) ∧
        (answerCall choice s op).2.binding = some updated) := by
  rcases call_effect choice (·.binding = some updated) (served.imp_right fun done =>
    ⟨congrArg Prod.fst done, congrArg (·.2.binding) done⟩) with ⟨err, reply, after⟩ | done
  · exact Or.inl ⟨err, reply, (congrArg BindingWorld.binding after).trans there⟩
  · exact Or.inr done

theorem safe_writeStatus (records : Records role subject provisioned spec new reason f)
    {stored : UserRoleBinding} (inHand : InHand provisioned spec stored)
    (holds : OnMappings role subject (Bound provisioned spec) reason w) : Upholds role subject
      (ask (.updateBindingStatus { stored with status := f stored })) (fun reply w =>
        (∃ err, reply = .error err ∧ OnMappings role subject (Bound provisioned spec) reason w) ∨
        (OnMappings role subject (Bound new spec) reason w ∧
          (reply = .error .unavailable ∨ ∃ updated, reply = .ok updated ∧
            InHand new spec updated))) w := by
  have ground := ground_bound role subject provisioned spec
  refine ⟨ground.implied records.before holds, fun choice guarded => ?_⟩
  have kept : Kept role subject reason (w.extend (w.arrive choice
      (.updateBindingStatus { stored with status := f stored }))) :=
    holds.2.quiet guarded rfl (after_mappings _ role nofun)
  obtain ⟨current, there, same, lists, settled⟩ := ground.disturbed _ guarded nofun holds.1
  let written := { current with
    resourceVersion := current.resourceVersion + 1, status := f stored }
  have updated : InHand new spec written := ⟨same, records.lists stored inHand⟩
  have served : ∀ s : BindingWorld, s.binding = some current →
      (∃ err, serveCall s (.updateBindingStatus { stored with status := f stored }) =
        (.error err, s)) ∨
      serveCall s (.updateBindingStatus { stored with status := f stored }) =
        (.ok written, { s with binding := some written }) := by
    intro s there
    rw [serveCall, there]
    dsimp only
    split
    · exact Or.inr rfl
    · exact Or.inl ⟨_, rfl⟩
  rcases binding_written choice there (served _ there) with ⟨err, reply, after⟩ | ⟨reply, after⟩
  · exact Or.inl ⟨err, reply, ⟨current, after, same, lists, settled⟩, kept⟩
  refine Or.inr ⟨⟨⟨_, after, same, updated.provisioned, ?_⟩, kept⟩, ?_⟩
  · exact fun deleting => records.settled (settled deleting)
  · exact reply.symm.imp_right fun reply => ⟨_, reply, updated⟩

def Recorded (role : String) (subject : Subject) (provisioned spec new : BindingSpec)
    (reason : Prop) (result : Option ApiError × UserRoleBinding) (w : BindingRun) : Prop :=
  (OnMappings role subject (Bound provisioned spec) reason w ∨
    OnMappings role subject (Bound new spec) reason w) ∧
  (result.1 = none → OnMappings role subject (Bound new spec) reason w ∧ InHand new spec result.2)

theorem Recorded.tracked {result : Option ApiError × UserRoleBinding}
    (recorded : Recorded role subject provisioned spec new reason result w)
    (records : Records role subject provisioned spec new reason f) : Tracked role subject w :=
  recorded.1.elim ((ground_bound _ _ _ _).implied records.before)
    ((ground_bound _ _ _ _).implied records.after)

theorem safe_updateObjectStatus (records : Records role subject provisioned spec new reason f)
    (binding : UserRoleBinding)
    (holds : OnMappings role subject (Bound provisioned spec) reason w) :
    Upholds role subject (updateObjectStatus f binding)
      (Recorded role subject provisioned spec new reason) w := by
  refine safe_retry (J := fun _ => OnMappings role subject (Bound provisioned spec) reason)
    (fun binding w holds => ?_) 4 binding w holds
  apply ((ground_bound role subject provisioned spec).safe_look records.before holds .rereadBinding
    nofun rfl nofun fun _ => rfl).thenOk
  · exact fun _ _ holds => ⟨⟨Or.inl holds, nofun⟩, fun _ => holds⟩
  intro stored w holds read
  have inHand : InHand provisioned spec stored := by
    obtain ⟨current, there, same, lists, _⟩ := holds.1
    cases there.symm.trans (found_ok read)
    exact ⟨same, lists⟩
  apply (safe_writeStatus records inHand holds).bind
  intro reply w outcome
  rcases outcome with ⟨err, rfl, holds⟩ | ⟨done, rfl | ⟨updated, rfl, again⟩⟩
  · exact ⟨⟨Or.inl holds, nofun⟩, fun _ => holds⟩
  · exact ⟨⟨Or.inr done, nofun⟩, nofun⟩
  · exact ⟨⟨Or.inr done, fun _ => ⟨done, again⟩⟩, nofun⟩

end StatusUpdate

section Controller

variable {role : String} {subject : Subject} {provisioned spec : BindingSpec} {w : BindingRun}
  {binding stored : UserRoleBinding} {verdict : Verdict}

theorem safe_provision (inHand : InHand provisioned spec binding)
    (holds : Owing role subject provisioned spec w) :
    Upholds role subject (provision binding) (Provides role subject provisioned spec) w := by
  apply ((ground_bound role subject provisioned spec).safe_quiet id holds .getCluster nofun rfl
    nofun).bindOk
  · intro err w holds
    cases err with
    | notFound => exact provides_undone holds (not_provisioned_waiting)
    | _ => exact provides_undone holds (not_provisioned_failed _)
  intro cluster w holds
  dsimp only
  split
  · split
    · exact ⟨holds, fun done => by cases done.1⟩
    · exact safe_provisionRoles cluster inHand holds
  have records : Records role subject provisioned spec provisioned
      (Owed role subject provisioned spec)
      (fun stored => { stored.status with managedCluster := some cluster.uid }) :=
    ⟨fun stored inHand => inHand.provisioned, id, id, id⟩
  apply (safe_updateObjectStatus records binding holds).bind
  rintro ⟨err, updated⟩ w ⟨either, done⟩
  cases err with
  | some err => exact provides_undone (either.elim id id) (not_provisioned_failed _)
  | none => exact safe_provisionRoles cluster (done rfl).2 (done rfl).1

theorem recordVerdict_provisioned
    (done : verdict.Provisioned) : (recordVerdict verdict stored).provisioned = stored.spec := by
  rw [recordVerdict]
  simp only [if_pos (show verdict.err = none ∧ _ from done)]
  rfl

theorem recordVerdict_unprovisioned (undone : ¬ verdict.Provisioned) :
    (recordVerdict verdict stored).provisioned = stored.status.provisioned := by
  rw [recordVerdict]
  simp only [if_neg (show ¬ (verdict.err = none ∧ _) from undone)]
  rfl

/-- What a pass may end with: a full success leaves what the spec grants. -/
theorem safe_reconcile (inHand : InHand provisioned spec binding)
    (holds : Owing role subject provisioned spec w) : Upholds role subject (reconcile binding)
      (fun outcome w => Tracked role subject w ∧ (outcome.1.Provisioned → outcome.2 = none →
        Bound spec spec w.state ∧ Kept role subject (spec.Grants role subject) w)) w := by
  apply (safe_provision inHand holds).bind
  rintro verdict w ⟨holds, provided⟩
  by_cases done : verdict.Provisioned
  · have records : Records role subject provisioned spec spec (spec.Grants role subject)
        (recordVerdict verdict) :=
      ⟨fun stored inHand => (recordVerdict_provisioned done).trans inHand.spec, fun _ => rfl,
        Or.inr, Or.inr⟩
    apply (safe_updateObjectStatus records binding ⟨holds.1, provided done⟩).bind
    rintro ⟨logged, updated⟩ w recorded
    exact ⟨recorded.tracked records, fun _ stored => (recorded.2 stored).1⟩
  · have records : Records role subject provisioned spec provisioned
        (Owed role subject provisioned spec) (recordVerdict verdict) :=
      ⟨fun stored inHand => (recordVerdict_unprovisioned done).trans inHand.provisioned, id, id, id⟩
    apply (safe_updateObjectStatus records binding holds).bind
    rintro ⟨logged, updated⟩ w recorded
    exact ⟨recorded.tracked records, fun provided => absurd provided done⟩

theorem safe_getCluster_leaving
    (holds : OnMappings role subject (Leaving provisioned) (provisioned.Grants role subject) w) :
    Upholds role subject (ask .getCluster) (fun reply w =>
        OnMappings role subject (Leaving provisioned) (provisioned.Grants role subject) w ∧
        reply ≠ .error .notFound ∧ ∀ cluster, reply = .ok cluster → cluster.deleting = false)
          w := by
  have ground := ground_leaving role subject provisioned
  refine ⟨ground.implied id holds, fun choice guarded => ?_⟩
  refine ⟨ground.quiet holds guarded nofun rfl nofun, ?_⟩
  have leaving : Leaving provisioned (w.arrive choice .getCluster).before :=
    ground.disturbed _ guarded nofun holds.1
  obtain ⟨binding, stored, _, deleting⟩ := leaving
  obtain ⟨cluster, there, stays⟩ := guarded.cluster rfl binding stored deleting
  constructor
  · intro missing
    rcases answerCall_cases choice (w.arrive choice .getCluster).before .getCluster with
      ⟨⟨fault, reply⟩, _⟩ | both | ⟨reply, _⟩
    · exact fault_ne_notFound fault (Except.error.inj (reply.symm.trans missing))
    · cases there.symm.trans (found_notFound ((congrArg Prod.fst both).symm.trans missing))
    · cases reply.symm.trans missing
  · intro other told
    cases there.symm.trans (found_ok ((congrArg Prod.fst (answered told)).symm.trans told))
    exact stays

theorem safe_delete (holds : OnMappings role subject (Leaving binding.status.provisioned)
      (binding.status.provisioned.Grants role subject) w) : Upholds role subject (delete binding)
      (fun err w => OnMappings role subject (Leaving binding.status.provisioned)
          (binding.status.provisioned.Grants role subject) w ∧
        (err = none → Kept role subject False w)) w := by
  have ground := ground_leaving role subject binding.status.provisioned
  apply (safe_getCluster_leaving holds).bind
  intro reply w ⟨holds, there, stays⟩
  cases reply with
  | error err =>
    cases err with
    | notFound => exact absurd rfl there
    | _ => exact ⟨holds, nofun⟩
  | ok cluster =>
    dsimp only
    rw [stays cluster rfl]
    apply (ground.safe_quiet id holds .createClient nofun rfl nofun).bindOk
    · exact fun _ _ holds => ⟨holds, nofun⟩
    intro _ w holds
    apply (safe_eachRole (deleteRole binding) _ (fun _ => True) (fun _ => trivial) _
      (fun enough _ name _ holds => ground.safe_deleteRole enough holds name) id trivial holds).mono
    intro err w ⟨holds, cleared⟩
    refine ⟨holds, fun fine added still => ?_⟩
    obtain ⟨listed, named⟩ := holds.2 added still
    exact cleared fine listed named added still

theorem Tracked.start {choice : BindingChoice} (tracked : Tracked role subject w)
    (guarded : Guarded role subject (w.arrive choice .getBinding)) :
    Tracked role subject (w.extend (w.arrive choice .getBinding)) := by
  have quiet : ∀ {reason : Prop}, Kept role subject reason w →
      Kept role subject reason (w.extend (w.arrive choice .getBinding)) :=
    fun kept => kept.quiet guarded rfl (after_mappings _ role nofun)
  have same : (w.extend (w.arrive choice .getBinding)).state.binding =
      (w.arrive choice .getBinding).before.binding := after_binding _ rfl
  cases before : w.state.binding with
  | none =>
    refine ⟨fun _ => quiet (tracked.1 before), fun binding stored => ?_⟩
    cases (same.trans (guarded.gone before)).symm.trans stored
  | some old =>
    obtain ⟨new, there, considerate⟩ := guarded.there old before
    obtain ⟨living, leaving⟩ := tracked.2 old before
    apply Tracked.of_stored (same.trans there)
    · intro alive
      have lived : old.deleting = false :=
        Bool.eq_false_iff.mpr fun deleting => by cases alive.symm.trans (considerate.stays deleting)
      have owed : Owed role subject old.status.provisioned old.spec →
          Owed role subject new.status.provisioned new.spec := by
        rw [considerate.status]
        rcases considerate.spec with unedited | ⟨_, settled⟩
        · rw [unedited]
          exact id
        · rw [← settled]
          exact fun either => Or.inl (either.elim id id)
      exact quiet ((living lived).mono owed)
    · intro dying
      rw [considerate.status]
      cases deleting : old.deleting with
      | true => exact quiet (leaving deleting)
      | false =>
        rcases considerate.deletion dying with already | settled
        · cases deleting.symm.trans already
        · rw [← settled] at living
          exact quiet ((living deleting).mono fun either => either.elim id id)

/-- The finalizer is set; the object that comes back is the one that is stored. -/
theorem safe_addFinalizer (alive : binding.deleting = false)
    (stored : w.state.binding = some binding) (tracked : Tracked role subject w) :
    Upholds role subject (ask (.updateBinding { binding with finalizer := true }))
      (OkWith (Tracked role subject) fun updated w =>
        InHand binding.status.provisioned binding.spec updated ∧
        Owing role subject binding.status.provisioned binding.spec w) w := by
  refine ⟨tracked, fun choice guarded => ?_⟩
  have kept : Kept role subject (Owed role subject binding.status.provisioned binding.spec)
      (w.extend (w.arrive choice (.updateBinding { binding with finalizer := true }))) :=
    ((tracked.2 binding stored).1 alive).quiet guarded rfl (after_mappings _ role nofun)
  obtain ⟨new, there, considerate⟩ := guarded.there binding stored
  have spec : new.spec = binding.spec := considerate.spec.elim id fun both => by cases both.1
  have settled : new.deleting = true → binding.status.provisioned = binding.spec := by
    intro deleting
    rcases considerate.deletion deleting with already | settled
    · rw [alive] at already
      cases already
    · exact settled
  have bound : ∀ updated : UserRoleBinding, (w.extend (w.arrive choice (.updateBinding
        { binding with finalizer := true }))).state.binding = some updated →
      updated.spec = binding.spec → updated.status = new.status → updated.deleting = new.deleting →
      Owing role subject binding.status.provisioned binding.spec
        (w.extend (w.arrive choice (.updateBinding { binding with finalizer := true }))) := by
    intro updated now same status deleting
    refine ⟨⟨updated, now, same, ?_, ?_⟩, kept⟩
    · rw [status, considerate.status]
    · rw [deleting]
      exact settled
  let written := { new with
    resourceVersion := new.resourceVersion + 1, finalizer := true, spec := binding.spec }
  have served : ∀ s : BindingWorld, s.binding = some new →
      (∃ err, serveCall s (.updateBinding { binding with finalizer := true }) = (.error err, s)) ∨
      serveCall s (.updateBinding { binding with finalizer := true }) =
        (.ok written, { s with binding := some written }) := by
    intro s there
    rw [serveCall, there]
    dsimp only
    split
    · exact Or.inr (by simp [storeBinding, written])
    · exact Or.inl ⟨_, rfl⟩
  rcases binding_written choice there (served _ there) with ⟨err, reply, after⟩ | ⟨reply, after⟩
  · have holds := bound new after spec rfl rfl
    exact ⟨tracked_of_bound holds.1 holds.2, fun updated same => by cases reply.symm.trans same⟩
  have holds := bound _ after rfl rfl rfl
  refine ⟨tracked_of_bound holds.1 holds.2, fun updated same => ?_⟩
  rcases reply with fine | failed
  · cases fine.symm.trans same
    exact ⟨⟨rfl, by rw [considerate.status]⟩, holds⟩
  · cases failed.symm.trans same

theorem Tracked.of_false (clear : Kept role subject False w) : Tracked role subject w :=
  ⟨fun _ => clear, fun _ _ => ⟨fun _ => clear.mono False.elim, fun _ => clear.mono False.elim⟩⟩

theorem safe_removeFinalizer (clear : Kept role subject False w) : Upholds role subject
      (ask (.updateBinding { binding with finalizer := false }))
      (fun _ => Kept role subject False) w :=
  ⟨Tracked.of_false clear, fun _ guarded => clear.quiet guarded rfl (after_mappings _ role nofun)⟩

theorem safe_getBinding (tracked : Tracked role subject w) : Upholds role subject (ask .getBinding)
      (OkWith (Tracked role subject) fun binding w => w.state.binding = some binding) w := by
  refine ⟨tracked, fun choice guarded => ⟨tracked.start guarded, fun binding told => ?_⟩⟩
  have served := answered told
  have stored := found_ok ((congrArg Prod.fst served).symm.trans told)
  exact (congrArg (·.2.binding) served).trans stored

def Cleaned (role : String) (subject : Subject) (handled : Handled) (w : BindingRun) : Prop :=
  match handled with
  | .reconciled verdict none => verdict.Provisioned →
      ∃ binding, w.state.binding = some binding ∧
        Kept role subject (binding.spec.Grants role subject) w
  | .deleted _ => Kept role subject False w
  | _ => True

theorem safe_bindingPass (tracked : Tracked role subject w) : Upholds role subject bindingPass
      (fun handled w => Tracked role subject w ∧ Cleaned role subject handled w) w := by
  apply (safe_getBinding tracked).thenOk
  · intro err w tracked
    cases err <;> exact ⟨tracked, trivial⟩
  intro binding w tracked stored
  dsimp only
  split
  case isTrue alive =>
    have alive : binding.deleting = false := by simpa using alive
    apply (safe_addFinalizer alive stored tracked).thenOk
    · exact fun _ _ tracked => ⟨tracked, trivial⟩
    intro binding w tracked ⟨inHand, holds⟩
    apply (safe_reconcile inHand holds).bind
    intro ⟨verdict, logged⟩ w ⟨tracked, provided⟩
    refine ⟨tracked, ?_⟩
    cases logged with
    | some err => trivial
    | none =>
      intro done
      obtain ⟨⟨current, there, same, _⟩, kept⟩ := provided done rfl
      exact ⟨current, there, same ▸ kept⟩
  case isFalse dying =>
    have dying : binding.deleting = true := by simpa using dying
    have holds : OnMappings role subject (Leaving binding.status.provisioned)
        (binding.status.provisioned.Grants role subject) w :=
      ⟨⟨binding, stored, rfl, dying⟩, (tracked.2 binding stored).2 dying⟩
    split
    · apply (safe_delete holds).bindNone
      · intro err w ⟨holds, cleared⟩
        exact ⟨tracked_of_leaving holds.1 holds.2, trivial⟩
      intro w ⟨holds, cleared⟩
      apply (safe_removeFinalizer (cleared rfl)).bind
      intro reply w clear
      cases reply <;> exact ⟨Tracked.of_false clear, clear⟩
    · exact ⟨tracked, trivial⟩

end Controller

/-- Where edits wait until all is provisioned, a full success leaves of what the binding
ever granted only what its spec grants, and a deletion leaves nothing. -/
theorem grants_revoked (role : String) (subject : Subject) (start : BindingRun)
    (passes : List (List BindingChoice)) (choices : List BindingChoice) (new : start.past = [])
    (guarded : ∀ e ∈ (exec bindingPass choices (runs bindingPass passes start)).2.past,
      Guarded role subject e)
    (handled : Handled)
    (ended : (exec bindingPass choices (runs bindingPass passes start)).1 = some handled) :
    Cleaned role subject handled (exec bindingPass choices (runs bindingPass passes start)).2 := by
  have begin_ : Tracked role subject start := by
    apply Tracked.of_false
    intro ⟨e, happened, _⟩
    rw [new] at happened
    cases happened
  have tracked : Tracked role subject (runs bindingPass passes start) := by
    apply runs_keep (fun _ tracked => (safe_bindingPass tracked).mono fun _ _ both => both.1) passes
      start begin_
    intro e happened
    exact guarded e ((exec_past bindingPass choices _).subset happened)
  exact (((safe_bindingPass tracked).outcome choices guarded).1 handled ended).2

section Runs

instance (role : String) (subject : Subject) (s : BindingWorld) :
    Decidable (Holds s role subject) :=
  match stored : s.mappings role, subject with
  | none, _ => isFalse (absent_of_none (w := ⟨s, []⟩) stored)
  | some mapping, .user name => decidable_of_iff (name ∈ mapping.users)
      ⟨fun has => ⟨mapping, stored, has⟩, fun ⟨_, same, has⟩ => by
        rw [stored] at same
        cases same
        exact has⟩
  | some mapping, .backendRole name => decidable_of_iff (name ∈ mapping.backendRoles)
      ⟨fun has => ⟨mapping, stored, has⟩, fun ⟨_, same, has⟩ => by
        rw [stored] at same
        cases same
        exact has⟩

instance (role : String) (subject : Subject) (past : List BindingEvent) :
    Decidable (Added role subject past) :=
  inferInstanceAs (Decidable (∃ e ∈ past, _))

instance (op : Call) (old new : UserRoleBinding) : Decidable (Considerate op old new) :=
  decidable_of_iff' _ (considerate_iff ..)

instance (role : String) (subject : Subject) (e : BindingEvent) :
    Decidable (Guarded role subject e) :=
  decidable_of_iff' _ (guarded_iff ..)

def newBinding : BindingRun where
  state :=
    { binding := some
        { resourceVersion := 1, finalizer := false, deleting := false
          spec := ⟨["reader", "writer"], ["alice"], []⟩
          status := ⟨.unset, "", none, [], [], []⟩ }
      cluster := some ⟨"uid", "RUNNING", false⟩
      mappings := fun _ => none }
  past := []

def editBinding (edit : UserRoleBinding → UserRoleBinding) : BindingChoice where
  others := fun s => { s with binding := s.binding.map edit }

def quietCalls : List BindingChoice := List.replicate 20 {}

def editedLater : List BindingChoice :=
  editBinding (fun binding => { binding with spec := ⟨["auditor"], ["alice"], []⟩ }) :: quietCalls

theorem reader_revoked :
    let w := (exec bindingPass editedLater (runs bindingPass [quietCalls] newBinding)).2
    Added "reader" (.user "alice") w.past ∧ ¬ Holds w.state "reader" (.user "alice") := by
  intro w
  have guarded : ∀ e ∈ w.past, Guarded "reader" (.user "alice") e := by decide
  have added : Added "reader" (.user "alice") w.past := by decide
  have ended : (exec bindingPass editedLater (runs bindingPass [quietCalls] newBinding)).1 =
      some (.reconciled { result := ⟨true, seconds 30⟩ } none) := by decide
  obtain ⟨binding, stored, kept⟩ := grants_revoked "reader" (.user "alice") newBinding
    [quietCalls] editedLater rfl guarded _ ended ⟨rfl, rfl⟩
  refine ⟨added, fun holds => ?_⟩
  have unlisted : ∀ binding ∈ w.state.binding, "reader" ∉ binding.spec.roles := by decide
  exact unlisted binding stored (kept added holds).1

def halfDone : List BindingChoice :=
  let quiet : BindingChoice := {}
  List.replicate 9 quiet ++ { outcome := .refused .unavailable } :: quietCalls

def deletedLater : List BindingChoice :=
  editBinding (fun binding => { binding with deleting := true }) :: quietCalls

/-- What a failed pass granted is forgotten if the next pass works on another spec, or
if the binding is deleted. -/
theorem reader_not_revoked :
    (∃ handled ∈ (exec bindingPass editedLater (runs bindingPass [halfDone] newBinding)).1,
      ¬ Cleaned "reader" (.user "alice") handled
        (exec bindingPass editedLater (runs bindingPass [halfDone] newBinding)).2) ∧
    (∃ handled ∈ (exec bindingPass deletedLater (runs bindingPass [halfDone] newBinding)).1,
      ¬ Cleaned "reader" (.user "alice") handled
        (exec bindingPass deletedLater (runs bindingPass [halfDone] newBinding)).2) := by
  constructor
  · refine ⟨.reconciled { result := ⟨true, seconds 30⟩ } none, by decide, fun cleaned => ?_⟩
    obtain ⟨binding, stored, kept⟩ := cleaned ⟨rfl, rfl⟩
    have unlisted : ∀ binding ∈ (exec bindingPass editedLater
        (runs bindingPass [halfDone] newBinding)).2.state.binding,
        "reader" ∉ binding.spec.roles := by decide
    exact unlisted binding stored (kept (by decide) (by decide)).1
  · exact ⟨.deleted none, by decide, fun cleaned => cleaned (by decide) (by decide)⟩

end Runs

end OpenSearchOperator.Security
