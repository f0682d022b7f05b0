import OpenSearchOperator.Security.Revocation

/-! Several bindings that grant the same roles. Each reconcile knows what its own
binding granted, and nothing of the others. -/

namespace OpenSearchOperator.Security.SharedRoles

open Api Effects

abbrev Mappings := String → Option RoleMapping

section Vocabulary

def HoldsIn (mappings : Mappings) (role : String) (subject : Subject) : Prop :=
  ∃ mapping, mappings role = some mapping ∧ mapping.Has subject

/-- What a reconcile of the binding takes out of the mapping of a role: what it has
provisioned, for any role that it names or has provisioned, and does not grant now. -/
@[mk_iff]
structure Revokes (binding : UserRoleBinding) (role : String) (subject : Subject) : Prop where
  concerned : role ∈ binding.spec.roles ∨ role ∈ binding.status.provisionedRoles
  provisioned : binding.status.provisioned.Names subject
  dropped : ¬ binding.spec.Grants role subject

/-- The binding is stored and reconciled once, to the end and without an error, while
nobody else writes. -/
def Reconciled (mappings : Mappings) (binding : UserRoleBinding) (result : Mappings) : Prop :=
  ∃ (cluster : Option ReferredCluster) (outcomes : List Outcome) (verdict : Verdict)
    (logged : Option ApiError),
    let run := exec (S := bindingServer) (reconcile binding)
      (outcomes.map fun outcome => { outcome := outcome })
      { state := ⟨some binding, cluster, mappings⟩, past := [] }
    run.1 = some (verdict, logged) ∧ verdict.Provisioned ∧ run.2.state.mappings = result

def ReconciledInTurn : List UserRoleBinding → Mappings → Mappings → Prop
  | [], start, result => result = start
  | binding :: bindings, start, result => ∃ between, Reconciled start binding between ∧
      ReconciledInTurn bindings between result

end Vocabulary

section Calls

variable {mapping : RoleMapping}

abbrev Alone (e : BindingEvent) : Prop := e.choice.others = id

variable {w : BindingRun} {role : String} {subject : Subject} {mappings : Mappings}
  {s t : BindingWorld}

theorem Alone.before {e : BindingEvent} (alone : Alone e) : e.before = e.prior := by
  change disturbBinding e.choice e.prior = e.prior
  simp [disturbBinding, show e.choice.others = id from alone]

theorem arrive_served {choice : BindingChoice} {op : Call} (alone : Alone (w.arrive choice op))
    {value : op.Payload} (told : (w.arrive choice op).reply = .ok value) :
    serveCall w.state op = (.ok value, (w.arrive choice op).after) := by
  have before : (w.arrive choice op).before = w.state := alone.before
  have served := answered told
  rw [← before]
  exact Prod.ext ((congrArg Prod.fst served).symm.trans told) (congrArg Prod.snd served).symm

theorem safe_ask (op : Call) (w : BindingRun) : Ends Alone (ask op) (fun reply w' =>
      ∀ value, reply = .ok value → serveCall w.state op = (.ok value, w'.state)) w :=
  ⟨trivial, fun _ alone _ told => arrive_served alone told⟩

structure Rewritten (s t : BindingWorld) (role : String) (holds : Subject → Prop) : Prop where
  elsewhere : ∀ other, other ≠ role → t.mappings other = s.mappings other
  here : ∀ subject, HoldsIn t.mappings role subject ↔ holds subject

theorem setMapping_elsewhere {mapping : Option RoleMapping} {other : String}
    (different : other ≠ role) : setMapping mappings role mapping other = mappings other :=
  if_neg different

theorem holdsIn_setMapping {mapping : Option RoleMapping} :
    HoldsIn (setMapping mappings role mapping) role subject ↔
      ∃ stored, mapping = some stored ∧ stored.Has subject := by
  rw [HoldsIn, show setMapping mappings role mapping role = mapping from if_pos rfl]

def kept (mapping : RoleMapping) : Option RoleMapping :=
  if mapping.users.length > 0 ∨ mapping.hosts.length > 0 ∨ mapping.backendRoles.length > 0 then
    some mapping
  else none

theorem rewritten_kept (stored : t.mappings = setMapping s.mappings role (kept mapping)) :
    Rewritten s t role mapping.Has := by
  refine ⟨fun other different => stored ▸ setMapping_elsewhere different, fun subject => ?_⟩
  rw [stored, holdsIn_setMapping, kept]
  split
  · simp
  case isFalse empty =>
    have lacks : ¬ mapping.Has subject := by
      intro member
      cases subject with
      | user name => exact empty (Or.inl (List.length_pos_of_mem member))
      | backendRole name => exact empty (Or.inr (Or.inr (List.length_pos_of_mem member)))
    simp [lacks]

theorem rewritten_same (same : t.mappings = s.mappings) (stored : s.mappings role = some mapping) :
    Rewritten s t role mapping.Has :=
  ⟨fun _ _ => by rw [same], fun _ => by rw [same, HoldsIn, stored]; simp⟩

theorem safe_saveMapping (mapping : RoleMapping) (w : BindingRun) :
    Ends Alone (saveMapping role mapping) (fun err w' => err = none →
      w'.state.mappings = setMapping w.state.mappings role (kept mapping)) w := by
  rw [saveMapping, kept]
  split
  · apply (safe_ask (.putRoleMapping role mapping) w).bindOk
    · intro err w' carried
      simp
    intro value w' carried
    exact fun _ => (congrArg (BindingWorld.mappings ∘ Prod.snd) (carried value rfl)).symm
  · apply (safe_ask (.deleteRoleMapping role) w).bind
    intro reply w' carried
    cases reply with
    | error err => simp
    | ok value =>
      intro _
      have served := carried value rfl
      rw [serveCall] at served
      cases there : w.state.mappings role with
      | none =>
        rw [there] at served
        cases served
      | some old =>
        rw [there] at served
        exact (congrArg (BindingWorld.mappings ∘ Prod.snd) served).symm

theorem safe_fetchRoleMapping (w : BindingRun) :
    Ends Alone (ask (.fetchRoleMapping role)) (fun reply w' => ∀ mapping, reply = .ok mapping →
        w'.state = w.state ∧ w.state.mappings role = some mapping) w := by
  apply (safe_ask (.fetchRoleMapping role) w).mono
  intro reply w' carried mapping good
  have served := carried mapping good
  exact ⟨(congrArg Prod.snd served).symm, found_ok (congrArg Prod.fst served)⟩

theorem holdsIn_stored (stored : mappings role = some mapping) :
    HoldsIn mappings role subject ↔ mapping.Has subject := by
  rw [HoldsIn, stored]
  simp

abbrev without (mapping : RoleMapping) (users backendRoles : List String) : RoleMapping :=
  { mapping with users := diffSlice mapping.users users
                 backendRoles := diffSlice mapping.backendRoles backendRoles }

theorem Has.diff {users backendRoles : List String} :
    (without mapping users backendRoles).Has subject ↔
      mapping.Has subject ∧ ¬ subject.mem users backendRoles := by
  cases subject <;> exact mem_diffSlice

theorem length_diffSlice {left right : List String}
    (same : (diffSlice left right).length = left.length) : diffSlice left right = left :=
  List.filter_eq_self.mpr (List.length_filter_eq_length_iff.mp same)

theorem safe_removeObjectsFromMapping (users backendRoles : List String) (w : BindingRun) :
    Ends Alone (removeObjectsFromMapping role users backendRoles)
      (fun err w' => err = none → ∃ mapping, w.state.mappings role = some mapping ∧
        w'.state.mappings =
          setMapping w.state.mappings role (kept (without mapping users backendRoles))) w := by
  apply (safe_fetchRoleMapping w).bindOk
  · intro err w' fetched
    simp
  intro mapping w' fetched
  obtain ⟨same, stored⟩ := fetched mapping rfl
  dsimp only
  split
  case isTrue unchanged =>
    refine fun _ => ⟨mapping, stored, ?_⟩
    have all : without mapping users backendRoles = mapping := by
      rw [without, length_diffSlice unchanged.1, length_diffSlice unchanged.2.2.1]
    have filled : 0 < mapping.users.length := unchanged.1 ▸ unchanged.2.1
    rw [all, kept, if_pos (Or.inl filled), same]
    funext other
    by_cases here : other = role <;> simp [setMapping, here, stored]
  case isFalse =>
    apply (safe_saveMapping _ w').mono
    intro err w'' saved fine
    exact ⟨mapping, stored, same ▸ saved fine⟩

/-- The mapping that `reconcileExistingMapping` makes of the stored one. -/
abbrev updated (spec : BindingSpec) (mapping : RoleMapping) (users backendRoles : List String) :
    RoleMapping :=
  { mapping with
    users := diffSlice mapping.users users ++ diffSlice spec.users mapping.users
    backendRoles := diffSlice mapping.backendRoles backendRoles ++
      diffSlice spec.backendRoles mapping.backendRoles }

/-- A mapping that needs no change is left as it is, even if it is empty. -/
theorem safe_reconcileExistingMapping (binding : UserRoleBinding) (users backendRoles : List String)
    (w : BindingRun) : Ends Alone (reconcileExistingMapping binding role users backendRoles)
      (fun err w' => err = none → ∃ mapping, w.state.mappings role = some mapping ∧
        (w'.state.mappings = setMapping w.state.mappings role
            (kept (updated binding.spec mapping users backendRoles)) ∨
          w'.state.mappings = w.state.mappings ∧
            updated binding.spec mapping users backendRoles = mapping)) w := by
  apply (safe_fetchRoleMapping w).bindOk
  · intro err w' fetched
    simp
  intro mapping w' fetched
  obtain ⟨same, stored⟩ := fetched mapping rfl
  dsimp only
  split
  case isTrue unchanged =>
    refine fun _ => ⟨mapping, stored, Or.inr ⟨congrArg _ same, ?_⟩⟩
    rw [updated, unchanged.1, unchanged.2.1, length_diffSlice unchanged.2.2.1,
      length_diffSlice unchanged.2.2.2, List.append_nil, List.append_nil]
  case isFalse =>
    apply (safe_saveMapping _ w').mono
    intro err w'' saved fine
    exact ⟨mapping, stored, Or.inl (same ▸ saved fine)⟩

theorem safe_roleMappingExists (w : BindingRun) :
    Ends Alone (ask (.roleMappingExists role)) (fun reply w' => ∀ answer, reply = .ok answer →
        w'.state = w.state ∧ (w.state.mappings role).isSome = answer) w := by
  apply (safe_ask (.roleMappingExists role) w).mono
  intro reply w' carried answer good
  have served := carried answer good
  exact ⟨(congrArg Prod.snd served).symm, Except.ok.inj (congrArg Prod.fst served)⟩

theorem not_holdsIn (absent : (mappings role).isSome = false) :
    ¬ HoldsIn mappings role subject := by
  intro ⟨mapping, stored, _⟩
  rw [stored] at absent
  cases absent

variable {binding : UserRoleBinding}

theorem safe_revokeRole (w : BindingRun) :
    Ends Alone (revokeRole binding role) (fun ended w' => ended = none →
      Rewritten w.state w'.state role fun subject => HoldsIn w.state.mappings role subject ∧
        ¬ binding.status.provisioned.Names subject) w := by
  apply (safe_roleMappingExists w).bind
  intro reply w' told
  match reply with
  | .error err => exact nofun
  | .ok false =>
    obtain ⟨same, absent⟩ := told false rfl
    intro _
    rw [same]
    refine ⟨fun _ _ => rfl, fun subject => ?_⟩
    have lacks : ¬ HoldsIn w.state.mappings role subject := not_holdsIn absent
    simp [lacks]
  | .ok true =>
    obtain ⟨same, _⟩ := told true rfl
    apply (safe_removeObjectsFromMapping _ _ w').bind
    intro err w'' removed fine
    obtain ⟨mapping, stored, written⟩ := removed (Option.map_eq_none_iff.mp fine)
    rw [same] at stored written
    have rewritten := rewritten_kept written
    refine ⟨rewritten.elsewhere, fun subject => (rewritten.here subject).trans ?_⟩
    rw [Has.diff, holdsIn_stored stored]
    rfl

/-- The stored mapping of a role of the spec, without what the binding has granted and
with what it grants. -/
abbrev granted (binding : UserRoleBinding) (mapping : RoleMapping) : RoleMapping :=
  updated binding.spec mapping (diffSlice binding.status.provisionedUsers binding.spec.users)
    (diffSlice binding.status.provisionedBackendRoles binding.spec.backendRoles)

theorem has_granted : (granted binding mapping).Has subject ↔ binding.spec.Names subject ∨
      (mapping.Has subject ∧ ¬ binding.status.provisioned.Names subject) := by
  cases subject <;>
    simp only [RoleMapping.Has, BindingSpec.Names, Subject.mem,
      BindingStatus.provisioned, List.mem_append, mem_diffSlice] <;> tauto

theorem safe_grantRole (w : BindingRun) :
    Ends Alone (grantRole binding role) (fun ended w' => ended = none →
      Rewritten w.state w'.state role fun subject => binding.spec.Names subject ∨
        (HoldsIn w.state.mappings role subject ∧
          ¬ binding.status.provisioned.Names subject)) w := by
  apply (safe_roleMappingExists w).bind
  intro reply w' told
  match reply with
  | .error err => exact nofun
  | .ok true =>
    obtain ⟨same, _⟩ := told true rfl
    apply (safe_reconcileExistingMapping binding _ _ w').bind
    intro err w'' saved fine
    obtain ⟨mapping, stored, either⟩ := saved (Option.map_eq_none_iff.mp fine)
    rw [same] at stored either
    have written : Rewritten w.state w''.state role (granted binding mapping).Has := by
      rcases either with changed | ⟨left, equal⟩
      · exact rewritten_kept changed
      · rw [granted, equal]
        exact rewritten_same left stored
    refine ⟨written.elsewhere, fun subject => (written.here subject).trans ?_⟩
    rw [has_granted, holdsIn_stored stored]
  | .ok false =>
    obtain ⟨same, absent⟩ := told false rfl
    apply (safe_ask (.putRoleMapping role _) w').bind
    intro reply w'' carried
    cases reply with
    | error err => exact nofun
    | ok value =>
      intro _
      have stored := congrArg (BindingWorld.mappings ∘ Prod.snd) (carried value rfl)
      rw [same] at stored
      change setMapping w.state.mappings role _ = w''.state.mappings at stored
      constructor
      · intro other different
        rw [← stored]
        exact setMapping_elsewhere different
      · intro subject
        have lacks : ¬ HoldsIn w.state.mappings role subject := not_holdsIn absent
        rw [← stored, holdsIn_setMapping]
        simp only [lacks, false_and, or_false, Option.some.injEq, exists_eq_left']
        cases subject <;> exact Iff.rfl

/-- The loops over roles, for an edit that has the same effect when it is repeated. -/
theorem safe_eachRole {handle : String → BindingProg (Option Verdict)}
    (edit : Subject → Prop → Prop)
    (repeated : ∀ subject before, edit subject (edit subject before) ↔ edit subject before)
    (each : ∀ role w, Ends Alone (handle role) (fun ended w' => ended = none →
      Rewritten w.state w'.state role fun subject =>
        edit subject (HoldsIn w.state.mappings role subject)) w)
    (roles : List String) (w : BindingRun) :
    Ends Alone (eachRole handle roles) (fun ended w' => ended = none →
      ∀ role subject, HoldsIn w'.state.mappings role subject ↔
        if role ∈ roles then edit subject (HoldsIn w.state.mappings role subject)
        else HoldsIn w.state.mappings role subject) w := by
  induction roles generalizing w with
  | nil =>
    intro _ role subject
    simp
  | cons first roles ih =>
    apply (each first w).bindNone
    · intro verdict w' rewritten
      exact nofun
    intro w' rewritten
    have step := rewritten rfl
    apply (ih w').mono
    intro ended w'' later fine role subject
    rw [later fine role subject]
    by_cases here : role = first
    · subst here
      have now : HoldsIn w'.state.mappings role subject =
          edit subject (HoldsIn w.state.mappings role subject) :=
        propext (step.here subject)
      rw [now, propext (repeated subject _)]
      simp
    · have same : HoldsIn w'.state.mappings role subject =
          HoldsIn w.state.mappings role subject := by
        rw [HoldsIn, HoldsIn, step.elsewhere role here]
      rw [same]
      simp [here]

end Calls

section Reconcile

variable {binding : UserRoleBinding} {w : BindingRun}

def Provisions (binding : UserRoleBinding) (start result : Mappings) : Prop :=
  ∀ role subject, HoldsIn result role subject ↔ binding.spec.Grants role subject ∨
    (HoldsIn start role subject ∧ ¬ Revokes binding role subject)

theorem safe_createClient (w : BindingRun) : Ends Alone (ask .createClient) (fun reply w' =>
      ∀ value, reply = .ok value → w'.state = w.state) w := by
  apply (safe_ask .createClient w).mono
  intro reply w' carried value good
  exact (congrArg Prod.snd (carried value good)).symm

theorem safe_provisionRoles (cluster : ReferredCluster) (w : BindingRun) :
    Ends Alone (provisionRoles cluster binding) (fun verdict w' =>
      verdict.Provisioned → Provisions binding w.state.mappings w'.state.mappings) w := by
  rw [provisionRoles]
  split
  · exact fun done => absurd done (not_provisioned_waiting)
  apply (safe_createClient w).bindOk
  · intro err w' told
    exact fun done => absurd done (not_provisioned_failed err)
  intro value w' told
  have same := told value rfl
  have revoked := (safe_eachRole
    (fun subject before => before ∧ ¬ binding.status.provisioned.Names subject)
    (fun _ _ => by tauto) (fun _ w => safe_revokeRole w) (calculateRemovedRoles binding)
    w').returns (returns_eachRole returns_revokeRole _)
  apply revoked.bindNone
  · rintro verdict w1 ⟨early, first⟩
    exact fun done => absurd done (early verdict rfl)
  rintro w1 ⟨early, first⟩
  have granted := (safe_eachRole (fun subject before => binding.spec.Names subject ∨
      (before ∧ ¬ binding.status.provisioned.Names subject))
    (fun _ _ => by tauto) (fun _ w => safe_grantRole w) binding.spec.roles w1).returns
    (returns_eachRole returns_grantRole _)
  apply granted.bindNone
  · rintro verdict w2 ⟨early, second⟩
    exact fun done => absurd done (early verdict rfl)
  rintro w2 ⟨early, second⟩
  intro _ role subject
  have removed : role ∈ calculateRemovedRoles binding ↔
      role ∈ binding.status.provisionedRoles ∧ role ∉ binding.spec.roles := by
    simp [calculateRemovedRoles]
  rw [second rfl role subject, propext (first rfl role subject), same, revokes_iff,
    BindingSpec.Grants]
  by_cases named : role ∈ binding.spec.roles
  · simp only [named, if_true, removed, not_true_eq_false, and_false, if_false, true_or, true_and]
    tauto
  · by_cases old : role ∈ binding.status.provisionedRoles
    · simp only [named, old, removed, if_false, not_false_eq_true, and_self, if_true]
      tauto
    · simp only [named, old, removed, if_false, false_and]
      tauto

/-- The stored binding has this spec and these provisioned lists, and the mappings are these. -/
structure Unchanged (binding : UserRoleBinding) (mappings : Mappings) (w : BindingRun) : Prop where
  mappings : w.state.mappings = mappings
  stored : ∃ stored, w.state.binding = some stored ∧ stored.spec = binding.spec ∧
    stored.status.provisioned = binding.status.provisioned

variable {mappings result start : Mappings} {f : UserRoleBinding → BindingStatus}

theorem Unchanged.of_state (unchanged : Unchanged binding mappings w) {w' : BindingRun}
    (same : w'.state = w.state) : Unchanged binding mappings w' := by
  obtain ⟨mappings, stored⟩ := unchanged
  exact ⟨same ▸ mappings, same ▸ stored⟩

theorem arrive_keeps {choice : BindingChoice} {op : Call} (alone : Alone (w.arrive choice op))
    (property : BindingWorld → Prop) (now : property w.state)
    (served : property (serveCall w.state op).2) :
    property (w.extend (w.arrive choice op)).state := by
  have before : (w.arrive choice op).before = w.state := alone.before
  rw [← before] at now served
  exact answerCall_keeps choice property now served

/-- A call that only reads leaves everything as it is, and tells what is there. -/
theorem safe_look (op : Call) (quiet : ∀ s, (serveCall s op).2 = s) (w : BindingRun) :
    Ends Alone (ask op) (fun reply w' => w'.state = w.state ∧
      ∀ value, reply = .ok value → (serveCall w.state op).1 = .ok value) w := by
  refine ⟨trivial, fun choice alone => ⟨?_, fun value told => ?_⟩⟩
  · exact arrive_keeps alone (· = w.state) rfl (quiet _)
  · exact congrArg Prod.fst (arrive_served alone told)

theorem safe_writeStatus {stored : UserRoleBinding} {status : BindingStatus}
    (there : w.state.binding = some stored) (unchanged : Unchanged binding mappings w)
    (same : status.provisioned = stored.status.provisioned) :
    Ends Alone (ask (.updateBindingStatus { stored with status := status }))
      (fun reply w' => Unchanged binding mappings w' ∧ ∀ updated, reply = .ok updated →
        updated.spec = binding.spec ∧
          updated.status.provisioned = binding.status.provisioned) w := by
  obtain ⟨held, other, here, spec, provisioned⟩ := unchanged
  cases there.symm.trans here
  let updated := { stored with resourceVersion := stored.resourceVersion + 1, status := status }
  have served : serveCall w.state (.updateBindingStatus { stored with status := status }) =
      (.ok updated, { w.state with binding := some updated }) := by
    simp only [serveCall, there, if_true]
    rfl
  refine ⟨trivial, fun choice alone => ⟨?_, fun value told => ?_⟩⟩
  · have start : Unchanged binding mappings w := ⟨held, stored, here, spec, provisioned⟩
    have written : Unchanged binding mappings ⟨{ w.state with binding := some updated }, w.past⟩ :=
      ⟨held, updated, rfl, spec, same.trans provisioned⟩
    exact (arrive_keeps alone (fun s => Unchanged binding mappings ⟨s, w.past⟩) start
      (served ▸ written)).of_state rfl
  · obtain rfl : updated = value :=
      Except.ok.inj (congrArg Prod.fst (served.symm.trans (arrive_served alone told)))
    exact ⟨spec, same.trans provisioned⟩

/-- The status update that notes the cluster hands back the binding as it was. -/
theorem safe_updateObjectStatus
    (same : ∀ stored, (f stored).provisioned = stored.status.provisioned)
    (unchanged : Unchanged binding mappings w) : Ends Alone (updateObjectStatus f binding)
      (fun result w => Unchanged binding mappings w ∧ (result.1 = none →
        result.2.spec = binding.spec ∧
          result.2.status.provisioned = binding.status.provisioned)) w := by
  refine safe_retry_restored (fun shared w unchanged => ?_) (fun _ _ back => back.1) 4 binding
    unchanged
  apply (safe_look .rereadBinding (fun _ => rfl) w).bindOk
  · intro err w' ⟨still, told⟩
    exact ⟨unchanged.of_state still, nofun⟩
  intro stored w' ⟨still, told⟩
  have there : w'.state.binding = some stored := still ▸ found_ok (told stored rfl)
  apply (safe_writeStatus there (unchanged.of_state still) (same stored)).bindOk
  · intro err w'' ⟨unchanged, updated⟩
    exact ⟨unchanged, nofun⟩
  intro value w'' ⟨unchanged, updated⟩
  exact ⟨unchanged, fun _ => updated value rfl⟩

theorem Provisions.of_same {other : UserRoleBinding}
    (provisions : Provisions other start result) (spec : other.spec = binding.spec)
    (provisioned : other.status.provisioned = binding.status.provisioned) :
    Provisions binding start result := by
  have roles : other.status.provisionedRoles = binding.status.provisionedRoles :=
    congrArg BindingSpec.roles provisioned
  intro role subject
  rw [provisions role subject, revokes_iff, revokes_iff, spec, roles, provisioned]

theorem safe_provision (unchanged : Unchanged binding mappings w) :
    Ends Alone (provision binding) (fun verdict w' =>
      verdict.Provisioned → Provisions binding mappings w'.state.mappings) w := by
  apply (safe_look .getCluster (fun _ => rfl) w).bind
  rintro reply w' ⟨same, _⟩
  have unchanged := unchanged.of_state same
  cases reply with
  | error err =>
    cases err with
    | notFound => exact fun done => absurd done (not_provisioned_waiting)
    | _ => exact fun done => absurd done (not_provisioned_failed _)
  | ok cluster =>
    dsimp only
    split
    · split
      · intro done
        cases done.1
      apply (safe_provisionRoles cluster w').mono
      intro verdict w'' provisions done
      exact unchanged.mappings ▸ provisions done
    · have noted : ∀ stored : UserRoleBinding, BindingStatus.provisioned { stored.status with
          managedCluster := some cluster.uid } = stored.status.provisioned := fun _ => rfl
      apply (safe_updateObjectStatus noted unchanged).bind
      rintro ⟨err, updated⟩ w'' ⟨unchanged, told⟩
      cases err with
      | some err => exact fun done => absurd done (not_provisioned_failed err)
      | none =>
        obtain ⟨spec, provisioned⟩ := told rfl
        apply (safe_provisionRoles cluster w'').mono
        intro verdict w3 provisions done
        exact unchanged.mappings ▸ (provisions done).of_same spec provisioned

abbrev Untargeted (op : Call) : Prop := op.target = none

theorem keeps_mappings {α : Type} {program : BindingProg α}
    (only : program.OnlyCalls Untargeted) (start : Mappings) :
    Retains Alone (fun w : BindingRun => w.state.mappings = start) program := by
  apply keeps_of_calls (fun _ _ => trivial) only
  intro w choice op untargeted alone same
  funext role
  have before : (w.arrive choice op).before = w.state := Alone.before alone
  have after := after_mappings (w.arrive choice op) role (by
    change op.target ≠ some role
    rw [untargeted]
    exact nofun)
  exact after.trans (before ▸ congrFun same role)

theorem untargeted_updateObjectStatus : (updateObjectStatus f binding).OnlyCalls Untargeted := by
  apply onlyCalls_retry
  intro binding
  refine (onlyCalls_asked (by rfl)).bindOk (fun _ => trivial) fun stored => ?_
  exact onlyCalls_ask rfl fun reply => by cases reply <;> trivial

theorem reconciled_provisions
    (reconciled : Reconciled start binding result) : Provisions binding start result := by
  obtain ⟨cluster, outcomes, verdict, logged, ended, good, after⟩ := reconciled
  have safe : Ends Alone (reconcile binding) (fun result w =>
      result.1.Provisioned → Provisions binding start w.state.mappings)
      { state := ⟨some binding, cluster, start⟩, past := [] } := by
    apply (safe_provision ⟨rfl, binding, rfl, rfl, rfl⟩).bind
    intro verdict w provisions
    apply (keeps_mappings (untargeted_updateObjectStatus) w.state.mappings w rfl).bind
    intro ⟨logged, _⟩ w' same done
    exact same ▸ provisions done
  have alone : ∀ e ∈ (exec (S := bindingServer) (reconcile binding)
      (outcomes.map fun outcome => { outcome := outcome })
      { state := ⟨some binding, cluster, start⟩, past := [] }).2.past, Alone e := by
    intro e happened
    rcases exec_choices _ _ _ e happened with old | driven
    · cases old
    · obtain ⟨outcome, _, same⟩ := List.mem_map.mp driven
      rw [Alone, ← same]
  exact after ▸ (safe.outcome _ alone).1 _ ended good

end Reconcile

section Order

theorem exists_last {α : Type} (property : α → Prop) (items : List α)
    (some : ∃ item ∈ items, property item) : ∃ before item after,
      items = before ++ item :: after ∧ property item ∧ ∀ later ∈ after, ¬ property later := by
  induction items with
  | nil =>
    obtain ⟨_, impossible, _⟩ := some
    cases impossible
  | cons first items ih =>
    by_cases later : ∃ item ∈ items, property item
    · obtain ⟨before, item, after, rfl, holds, final⟩ := ih later
      exact ⟨first :: before, item, after, rfl, holds, final⟩
    obtain ⟨item, member, holds⟩ := some
    rcases List.mem_cons.mp member with rfl | there
    · exact ⟨[], item, items, rfl, holds, fun other member good => later ⟨other, member, good⟩⟩
    · exact absurd ⟨item, there, holds⟩ later

theorem holds_after (bindings : List UserRoleBinding) (start result : Mappings)
    (turns : ReconciledInTurn bindings start result) (role : String) (subject : Subject) :
    HoldsIn result role subject ↔ (∃ before binding after, bindings = before ++ binding :: after ∧
        binding.spec.Grants role subject ∧ ∀ later ∈ after, ¬ Revokes later role subject) ∨
      (HoldsIn start role subject ∧ ∀ binding ∈ bindings, ¬ Revokes binding role subject) := by
  induction bindings generalizing start with
  | nil =>
    rw [show result = start from turns]
    simp
  | cons first bindings ih =>
    obtain ⟨between, reconciled, rest⟩ := turns
    have step := reconciled_provisions reconciled role subject
    rw [ih between rest, step]
    constructor
    · rintro (⟨before, binding, after, rfl, grants, spared⟩ | ⟨gave | ⟨held, spared⟩, all⟩)
      · exact Or.inl ⟨first :: before, binding, after, rfl, grants, spared⟩
      · exact Or.inl ⟨[], first, bindings, rfl, gave, all⟩
      refine Or.inr ⟨held, fun binding member => ?_⟩
      rcases List.mem_cons.mp member with rfl | later
      · exact spared
      · exact all binding later
    · rintro (⟨before, binding, after, split, grants, spared⟩ | ⟨held, all⟩)
      · cases before with
        | nil =>
          obtain ⟨rfl, rfl⟩ := List.cons.inj split
          exact Or.inr ⟨Or.inl grants, spared⟩
        | cons head before =>
          obtain ⟨rfl, rfl⟩ := List.cons.inj split
          exact Or.inl ⟨before, binding, after, rfl, grants, spared⟩
      · exact Or.inr ⟨Or.inr ⟨held, all first List.mem_cons_self⟩,
          fun binding member => all binding (List.mem_cons_of_mem _ member)⟩

/-- After all bindings had their turn every grant is in place if and only if whatever
one of them takes from an earlier one is granted again by a later one. -/
theorem shared_roles_granted_iff (bindings : List UserRoleBinding) (start result : Mappings)
    (turns : ReconciledInTurn bindings start result) :
    (∀ binding ∈ bindings, ∀ role subject, binding.spec.Grants role subject →
      HoldsIn result role subject) ↔
    ∀ before binding after, bindings = before ++ binding :: after → ∀ role subject,
      Revokes binding role subject → (∃ earlier ∈ before, earlier.spec.Grants role subject) →
      ∃ later ∈ after, later.spec.Grants role subject := by
  constructor
  · intro all before binding after split role subject revokes ⟨earlier, member, grants⟩
    have holds := all earlier (by simp [split, member]) role subject grants
    rw [holds_after bindings start result turns] at holds
    rcases holds with ⟨before', last, after', split', gives, spared⟩ | ⟨_, spared⟩
    · have different : binding ≠ last := fun same => revokes.dropped (same ▸ gives)
      rcases List.append_eq_append_iff.mp (split.symm.trans split') with
        ⟨middle, _, rest⟩ | ⟨middle, _, rest⟩
      · cases middle with
        | nil => exact absurd (List.cons.inj rest).1 different
        | cons head middle => exact ⟨last, by simp [(List.cons.inj rest).2], gives⟩
      · cases middle with
        | nil => exact absurd (List.cons.inj rest).1.symm different
        | cons head middle =>
          exact absurd revokes (spared binding (by simp [(List.cons.inj rest).2]))
    · exact absurd revokes (spared binding (by simp [split]))
  · intro regranted binding member role subject grants
    rw [holds_after bindings start result turns]
    obtain ⟨before, last, after, split, gives, final⟩ :=
      exists_last (fun binding => binding.spec.Grants role subject) bindings
        ⟨binding, member, grants⟩
    refine Or.inl ⟨before, last, after, split, gives, fun later there revokes => ?_⟩
    obtain ⟨between, behind, rfl⟩ := List.append_of_mem there
    obtain ⟨again, present, grants⟩ := regranted (before ++ last :: between) later behind
      (by simp [split]) role subject revokes ⟨last, by simp, gives⟩
    exact final again (by simp [present]) grants

theorem holdsIn_iff {mappings : Mappings} {role : String} {subject : Subject} :
    HoldsIn mappings role subject ↔ Holds ⟨none, none, mappings⟩ role subject := Iff.rfl

def servedOutcomes : List Outcome := List.replicate 20 .served

def runningCluster : ReferredCluster := ⟨"uid", "RUNNING", false⟩

def reconcileOnce (mappings : Mappings) (binding : UserRoleBinding) : Mappings :=
  (exec (S := bindingServer) (reconcile binding)
    (servedOutcomes.map fun outcome => { outcome := outcome })
    { state := ⟨some binding, some runningCluster, mappings⟩, past := [] }).2.state.mappings

def readers (users provisioned : List String) : UserRoleBinding where
  resourceVersion := 1
  finalizer := true
  deleting := false
  spec := ⟨["reader"], users, []⟩
  status := ⟨.created, "", some "uid", ["reader"], provisioned, []⟩

def provisionedVerdict : Verdict := { result := { requeue := true, requeueAfter := seconds 30 } }

def aliceAndBob : Mappings := fun role =>
  if role = "reader" then some ⟨[], [], ["alice", "bob"]⟩ else none

/-- The first binding gives up `bob`, whom nobody else wants. -/
theorem readers_share_role :
    let between := reconcileOnce aliceAndBob (readers ["alice"] ["alice", "bob"])
    HoldsIn (reconcileOnce between (readers ["alice", "carol"] ["alice"])) "reader"
      (.user "alice") := by
  intro between
  have first : Reconciled aliceAndBob (readers ["alice"] ["alice", "bob"]) between :=
    ⟨some runningCluster, servedOutcomes, provisionedVerdict, none, by decide, ⟨rfl, rfl⟩, rfl⟩
  have second : Reconciled between (readers ["alice", "carol"] ["alice"])
      (reconcileOnce between (readers ["alice", "carol"] ["alice"])) :=
    ⟨some runningCluster, servedOutcomes, provisionedVerdict, none, by decide, ⟨rfl, rfl⟩, rfl⟩
  have granted := shared_roles_granted_iff
    [readers ["alice"] ["alice", "bob"], readers ["alice", "carol"] ["alice"]] aliceAndBob _
    ⟨between, first, _, second, rfl⟩
  refine granted.mpr ?_ (readers ["alice"] ["alice", "bob"]) List.mem_cons_self "reader"
    (.user "alice") ⟨List.mem_cons_self, List.mem_cons_self⟩
  intro before binding after split role subject revokes ⟨earlier, member, _⟩
  match before, split with
  | [], _ => cases member
  | [_], split =>
    obtain ⟨_, rest⟩ := List.cons.inj split
    obtain ⟨rfl, _⟩ := List.cons.inj rest
    obtain ⟨concerned, provisioned, dropped⟩ := revokes
    have reader : role = "reader" := by
      rcases concerned with now | before
      · exact List.mem_singleton.mp now
      · exact List.mem_singleton.mp before
    have alice : subject = .user "alice" := by
      cases subject with
      | user name => exact congrArg Subject.user (List.mem_singleton.mp provisioned)
      | backendRole name => cases provisioned
    subst reader alice
    exact absurd ⟨List.mem_cons_self, List.mem_cons_self⟩ dropped
  | _ :: _ :: _, split => simp at split

/-- One binding still grants `alice`, but the other has dropped that user and is
reconciled later. -/
theorem reader_lost_to_other_binding :
    let between := reconcileOnce aliceAndBob (readers ["alice"] ["alice"])
    let result := reconcileOnce between (readers ["bob"] ["alice", "bob"])
    ReconciledInTurn [readers ["alice"] ["alice"], readers ["bob"] ["alice", "bob"]] aliceAndBob
      result ∧
    (readers ["alice"] ["alice"]).spec.Grants "reader" (.user "alice") ∧
    ¬ HoldsIn result "reader" (.user "alice") := by
  intro between result
  have lost : ¬ HoldsIn result "reader" (.user "alice") := by
    rw [holdsIn_iff]
    decide
  refine ⟨⟨between, ?_, result, ?_, rfl⟩, ⟨List.mem_cons_self, List.mem_cons_self⟩, lost⟩
  · exact ⟨some runningCluster, servedOutcomes, provisionedVerdict, none, by decide,
      ⟨rfl, rfl⟩, rfl⟩
  · exact ⟨some runningCluster, servedOutcomes, provisionedVerdict, none, by decide,
      ⟨rfl, rfl⟩, rfl⟩

end Order

end OpenSearchOperator.Security.SharedRoles
