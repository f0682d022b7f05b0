import Mathlib.Tactic.MkIffOfInductiveProp
import OpenSearchOperator.Security.UserRoleBinding

/-! What a binding granted and must take back. The controller knows its grants from
the provisioned lists in the status, which it stores at the end of a full success
only. -/

namespace OpenSearchOperator.Security

open Api Effects

inductive Subject where
  | user (name : String)
  | backendRole (name : String)
  deriving DecidableEq, Repr

def Subject.mem : Subject → List String → List String → Prop
  | .user name, users, _ => name ∈ users
  | .backendRole name, _, backendRoles => name ∈ backendRoles

def RoleMapping.Has (mapping : RoleMapping) (subject : Subject) : Prop :=
  subject.mem mapping.users mapping.backendRoles

def BindingSpec.Names (spec : BindingSpec) (subject : Subject) : Prop :=
  subject.mem spec.users spec.backendRoles

def BindingSpec.Grants (spec : BindingSpec) (role : String) (subject : Subject) : Prop :=
  role ∈ spec.roles ∧ spec.Names subject

def BindingStatus.provisioned (status : BindingStatus) : BindingSpec :=
  ⟨status.provisionedRoles, status.provisionedUsers, status.provisionedBackendRoles⟩

def Holds (s : BindingWorld) (role : String) (subject : Subject) : Prop :=
  ∃ mapping, s.mappings role = some mapping ∧ mapping.Has subject

abbrev BindingEvent := Event bindingServer
abbrev BindingRun := World bindingServer

def Added (role : String) (subject : Subject) (past : List BindingEvent) : Prop :=
  ∃ e ∈ past, ¬ Holds e.before role subject ∧ Holds e.after role subject

def Call.puts : Call → Bool
  | .putRoleMapping _ _ => true
  | _ => false

/-- Others leave the status and the finalizer of the binding alone. They edit its spec
between two passes, and they edit or delete it when all it grants is provisioned. -/
@[mk_iff]
structure Considerate (op : Call) (old new : UserRoleBinding) : Prop where
  status : new.status = old.status
  finalizer : new.finalizer = old.finalizer
  spec : new.spec = old.spec ∨ op = .getBinding ∧ old.status.provisioned = old.spec
  stays : old.deleting = true → new.deleting = true
  deletion : new.deleting = true → old.deleting = true ∨ old.status.provisioned = old.spec

/-- Nobody else puts the subject into the mapping of the role, or takes it out right
before a mapping is written; the binding is treated with care, and while it is being
deleted its cluster is there. -/
@[mk_iff]
structure Guarded (role : String) (subject : Subject) (e : BindingEvent) : Prop where
  unaided : Holds e.before role subject → Holds e.prior role subject
  exclusive : e.op.puts = true → Holds e.prior role subject → Holds e.before role subject
  gone : e.prior.binding = none → e.before.binding = none
  there : ∀ old, e.prior.binding = some old →
    ∃ new, e.before.binding = some new ∧ Considerate e.op old new
  cluster : e.op = .getCluster → ∀ binding, e.before.binding = some binding →
    binding.deleting = true → ∃ cluster, e.before.cluster = some cluster ∧ cluster.deleting = false

section Assertions

variable (role : String) (subject : Subject)

/-- If the binding put the subject into the mapping and it still is there, then `reason`. -/
def Kept (reason : Prop) (w : BindingRun) : Prop :=
  Added role subject w.past → Holds w.state role subject → reason

/-- What holds between passes: a grant that is still there is provisioned, or that of
the spec unless the binding is being deleted. -/
def Tracked (w : BindingRun) : Prop :=
  (w.state.binding = none → Kept role subject False w) ∧
  ∀ binding, w.state.binding = some binding → (binding.deleting = false → Kept role subject
      (binding.status.provisioned.Grants role subject ∨ binding.spec.Grants role subject) w) ∧
    (binding.deleting = true → Kept role subject (binding.status.provisioned.Grants role subject) w)

def Bound (provisioned spec : BindingSpec) (s : BindingWorld) : Prop :=
  ∃ binding, s.binding = some binding ∧ binding.spec = spec ∧
    binding.status.provisioned = provisioned ∧ (binding.deleting = true → provisioned = spec)

def Leaving (provisioned : BindingSpec) (s : BindingWorld) : Prop :=
  ∃ binding, s.binding = some binding ∧ binding.status.provisioned = provisioned ∧
    binding.deleting = true

variable {role subject} {reason weaker : Prop} {w : BindingRun} {e : BindingEvent}
  {provisioned spec : BindingSpec}

theorem Kept.mono (kept : Kept role subject reason w) (implies : reason → weaker) :
    Kept role subject weaker w := fun added holds => implies (kept added holds)

theorem Holds.congr {s t : BindingWorld} (holds : Holds s role subject)
    (same : t.mappings role = s.mappings role) : Holds t role subject := by
  obtain ⟨mapping, stored, has⟩ := holds
  exact ⟨mapping, same.trans stored, has⟩

theorem Kept.quiet (kept : Kept role subject reason w) (guarded : Guarded role subject e)
    (prior : e.prior = w.state) (same : e.after.mappings role = e.before.mappings role) :
    Kept role subject reason (w.extend e) := by
  intro ⟨x, member, out, inn⟩ holds
  have before : Holds e.before role subject := Holds.congr holds same.symm
  have earlier : Holds w.state role subject := prior ▸ guarded.unaided before
  rcases List.mem_cons.mp member with rfl | old
  · exact absurd before out
  · exact kept ⟨x, old, out, inn⟩ earlier

theorem Kept.absent (absent : ¬ Holds w.state role subject) : Kept role subject reason w :=
  fun _ holds => absurd holds absent

theorem Tracked.of_stored {binding : UserRoleBinding} (stored : w.state.binding = some binding)
    (living : binding.deleting = false → Kept role subject
      (binding.status.provisioned.Grants role subject ∨ binding.spec.Grants role subject) w)
    (leaving : binding.deleting = true →
      Kept role subject (binding.status.provisioned.Grants role subject) w) :
    Tracked role subject w := by
  constructor
  · intro none
    cases stored.symm.trans none
  intro other same
  cases stored.symm.trans same
  exact ⟨living, leaving⟩

theorem tracked_of_bound (bound : Bound provisioned spec w.state)
    (kept : Kept role subject (provisioned.Grants role subject ∨ spec.Grants role subject) w) :
    Tracked role subject w := by
  obtain ⟨binding, stored, rfl, rfl, settled⟩ := bound
  refine .of_stored stored (fun _ => kept) fun deleting => kept.mono ?_
  rw [settled deleting]
  exact fun either => either.elim id id

theorem tracked_of_leaving (leaving : Leaving provisioned w.state)
    (kept : Kept role subject (provisioned.Grants role subject) w) : Tracked role subject w := by
  obtain ⟨binding, stored, rfl, deleting⟩ := leaving
  exact .of_stored stored (fun living => by cases deleting.symm.trans living) fun _ => kept

theorem Bound.disturbed (bound : Bound provisioned spec e.prior) (guarded : Guarded role subject e)
    (inside : e.op ≠ .getBinding) : Bound provisioned spec e.before := by
  obtain ⟨old, stored, rfl, rfl, settled⟩ := bound
  obtain ⟨new, again, considerate⟩ := guarded.there old stored
  have same : new.spec = old.spec := considerate.spec.elim id fun both => absurd both.1 inside
  refine ⟨new, again, same, by rw [considerate.status], ?_⟩
  intro deleting
  exact (considerate.deletion deleting).elim settled id

theorem Leaving.disturbed (leaving : Leaving provisioned e.prior)
    (guarded : Guarded role subject e) : Leaving provisioned e.before := by
  obtain ⟨old, stored, rfl, deleting⟩ := leaving
  obtain ⟨new, again, considerate⟩ := guarded.there old stored
  exact ⟨new, again, by rw [considerate.status], considerate.stays deleting⟩

end Assertions

section Calls

variable {s : BindingWorld} {op : Call} {value : op.Payload}

def Call.stores : Call → Bool
  | .updateBinding _ => true
  | .updateBindingStatus _ => true
  | _ => false

def Call.target : Call → Option String
  | .putRoleMapping role _ => some role
  | .deleteRoleMapping role => some role
  | _ => none

theorem serveCall_binding (s : BindingWorld) (op : Call) (reads : op.stores = false) :
    (serveCall s op).2.binding = s.binding := by
  cases op with
  | updateBinding _ => cases reads
  | updateBindingStatus _ => cases reads
  | deleteRoleMapping role =>
    rw [serveCall]
    split <;> rfl
  | _ => rfl

theorem serveCall_mappings (s : BindingWorld) (op : Call) (role : String)
    (other : op.target ≠ some role) : (serveCall s op).2.mappings role = s.mappings role := by
  cases op with
  | updateBinding _ | updateBindingStatus _ =>
    rw [serveCall]
    split
    · rfl
    · split <;> rfl
  | putRoleMapping target mapping =>
    have apart : ¬ role = target := fun same => other (congrArg some same.symm)
    exact if_neg apart
  | deleteRoleMapping target =>
    have apart : ¬ role = target := fun same => other (congrArg some same.symm)
    rw [serveCall]
    split
    · rfl
    · exact if_neg apart
  | _ => rfl

theorem answerCall_cases (choice : BindingChoice) (s : BindingWorld) (op : Call) :
    ((∃ fault : Fault, (answerCall choice s op).1 = .error fault.error) ∧
        (answerCall choice s op).2 = s) ∨ answerCall choice s op = serveCall s op ∨
      ((answerCall choice s op).1 = .error .unavailable ∧
        (answerCall choice s op).2 = (serveCall s op).2) := by
  rw [answerCall]
  cases choice.outcome with
  | served => exact Or.inr (Or.inl rfl)
  | refused fault => exact Or.inl ⟨⟨fault, rfl⟩, rfl⟩
  | lost => exact Or.inr (Or.inr ⟨rfl, rfl⟩)

theorem call_effect (choice : BindingChoice)
    (effect : BindingWorld → Prop) (served : (∃ err, serveCall s op = (.error err, s)) ∨
      ((serveCall s op).1 = .ok value ∧ effect (serveCall s op).2)) :
    (∃ err, (answerCall choice s op).1 = .error err ∧ (answerCall choice s op).2 = s) ∨
      (((answerCall choice s op).1 = .ok value ∨ (answerCall choice s op).1 = .error .unavailable) ∧
        effect (answerCall choice s op).2) := by
  rcases answerCall_cases choice s op with ⟨⟨fault, reply⟩, after⟩ | both | ⟨reply, after⟩
  · exact Or.inl ⟨_, reply, after⟩
  · rw [both]
    exact served.imp (fun ⟨err, failed⟩ => ⟨err, by rw [failed], by rw [failed]⟩)
      fun done => ⟨Or.inl done.1, done.2⟩
  · rw [reply, after]
    exact served.imp (fun ⟨err, failed⟩ => ⟨_, rfl, by rw [failed]⟩)
      fun done => ⟨Or.inr rfl, done.2⟩

theorem answered {choice : BindingChoice}
    (told : (answerCall choice s op).1 = .ok value) : answerCall choice s op = serveCall s op := by
  rcases answerCall_cases choice s op with ⟨⟨fault, failed⟩, _⟩ | both | ⟨failed, _⟩
  · cases failed.symm.trans told
  · exact both
  · cases failed.symm.trans told

theorem answerCall_keeps (choice : BindingChoice)
    (property : BindingWorld → Prop) (now : property s) (served : property (serveCall s op).2) :
    property (answerCall choice s op).2 := by
  rcases answerCall_cases choice s op with ⟨_, after⟩ | both | ⟨_, after⟩
  · rwa [after]
  · rwa [both]
  · rwa [after]

theorem after_binding (e : BindingEvent) (reads : e.op.stores = false) :
    e.after.binding = e.before.binding :=
  answerCall_keeps e.choice (·.binding = e.before.binding) rfl (serveCall_binding _ _ reads)

theorem after_mappings (e : BindingEvent) (role : String) (other : e.op.target ≠ some role) :
    e.after.mappings role = e.before.mappings role :=
  answerCall_keeps e.choice (·.mappings role = e.before.mappings role) rfl
    (serveCall_mappings _ _ role other)

end Calls

section Mappings

variable {role : String} {subject : Subject} {Base : BindingWorld → Prop} {goal reason : Prop}
  {w : BindingRun}

/-- What is known about the stored binding while a program works on the mappings, and
that it is enough to keep track of the grants. -/
structure Ground (role : String) (subject : Subject) (Base : BindingWorld → Prop) (goal : Prop) :
    Prop where
  disturbed : ∀ e, Guarded role subject e → e.op ≠ .getBinding → Base e.prior → Base e.before
  binding : ∀ s t : BindingWorld, t.binding = s.binding → Base s → Base t
  tracked : ∀ w, Base w.state → Kept role subject goal w → Tracked role subject w

theorem ground_bound (role : String) (subject : Subject) (provisioned spec : BindingSpec) :
    Ground role subject (Bound provisioned spec)
      (provisioned.Grants role subject ∨ spec.Grants role subject) := by
  refine ⟨fun e guarded inside bound => bound.disturbed guarded inside, ?_,
    fun w bound kept => tracked_of_bound bound kept⟩
  intro s t same ⟨binding, stored, rest⟩
  exact ⟨binding, same.trans stored, rest⟩

theorem ground_leaving (role : String) (subject : Subject) (provisioned : BindingSpec) :
    Ground role subject (Leaving provisioned) (provisioned.Grants role subject) := by
  refine ⟨fun e guarded _ leaving => leaving.disturbed guarded, ?_,
    fun w leaving kept => tracked_of_leaving leaving kept⟩
  intro s t same ⟨binding, stored, rest⟩
  exact ⟨binding, same.trans stored, rest⟩

def OnMappings (role : String) (subject : Subject) (Base : BindingWorld → Prop) (reason : Prop)
    (w : BindingRun) : Prop :=
  Base w.state ∧ Kept role subject reason w

variable (ground : Ground role subject Base goal) (enough : reason → goal)
  (holds : OnMappings role subject Base reason w) {choice : BindingChoice} {op : Call}
include ground

theorem Ground.base (base : Base w.state)
    (guarded : Guarded role subject (w.arrive choice op)) (inside : op ≠ .getBinding)
    (reads : op.stores = false) : Base (w.extend (w.arrive choice op)).state :=
  ground.binding _ _ (after_binding _ reads) (ground.disturbed _ guarded inside base)

include holds

/-- A call that changes neither the binding nor the mapping of the role. -/
theorem Ground.quiet
    (guarded : Guarded role subject (w.arrive choice op)) (inside : op ≠ .getBinding)
    (reads : op.stores = false) (other : op.target ≠ some role) :
    OnMappings role subject Base reason (w.extend (w.arrive choice op)) :=
  ⟨ground.base holds.1 guarded inside reads,
    holds.2.quiet guarded rfl (after_mappings _ role other)⟩

include enough

theorem Ground.implied : Tracked role subject w :=
  ground.tracked w holds.1 (holds.2.mono enough)

abbrev Upholds (role : String) (subject : Subject) {α : Type} :
    BindingProg α → (α → BindingRun → Prop) → BindingRun → Prop :=
  Safe (Guarded role subject) (Tracked role subject)

theorem Ground.safe_quiet (op : Call) (inside : op ≠ .getBinding) (reads : op.stores = false)
    (other : op.target ≠ some role) :
    Upholds role subject (ask op) (fun _ => OnMappings role subject Base reason) w :=
  ⟨ground.implied enough holds, fun _ guarded => ground.quiet holds guarded inside reads other⟩

theorem Ground.safe_look (op : Call) (inside : op ≠ .getBinding) (reads : op.stores = false)
    (other : op.target ≠ some role) (quiet : ∀ s, (serveCall s op).2 = s) :
    Upholds role subject (ask op) (OkWith (OnMappings role subject Base reason)
      fun value w => (serveCall w.state op).1 = .ok value) w := by
  refine ⟨ground.implied enough holds, fun choice guarded => ?_⟩
  refine ⟨ground.quiet holds guarded inside reads other, fun value told => ?_⟩
  have served := answered told
  have same : (w.extend (w.arrive choice op)).state = (w.arrive choice op).before :=
    (congrArg Prod.snd served).trans (quiet _)
  simp only [same]
  exact (congrArg Prod.fst served).symm.trans told

theorem Ground.safe_fetchRoleMapping (name : String) :
    Upholds role subject (ask (.fetchRoleMapping name)) (OkWith
      (OnMappings role subject Base reason) fun mapping w => w.state.mappings name = some mapping)
      w := by
  apply (ground.safe_look enough holds (.fetchRoleMapping name) nofun rfl nofun fun _ => rfl).mono
  intro reply w ⟨kept, stored⟩
  exact ⟨kept, fun mapping told => found_ok (stored mapping told)⟩

theorem Ground.safe_roleMappingExists (name : String) :
    Upholds role subject (ask (.roleMappingExists name))
      (fun reply w => OnMappings role subject Base reason w ∧
        (reply = .ok false → w.state.mappings name = none)) w := by
  apply (ground.safe_look enough holds (.roleMappingExists name) nofun rfl nofun fun _ => rfl).mono
  intro reply w ⟨kept, stored⟩
  exact ⟨kept, fun absent => Option.isSome_eq_false_iff.mp (Except.ok.inj (stored false absent)) |>
    Option.isNone_iff_eq_none.mp⟩

/-- The assertion is kept, and on success the subject is gone where it `should` be. -/
def Clears (role : String) (subject : Subject) (Base : BindingWorld → Prop) (reason should : Prop)
    {ε : Type} (err : Option ε) (w : BindingRun) : Prop :=
  OnMappings role subject Base reason w ∧ (err = none → should → ¬ Holds w.state role subject)

/-- The mapping of a role is replaced by one whose subjects were in the stored one or may
be there. -/
theorem Ground.safe_replace (op : Call) (value : op.Payload) {name : String}
    (stored : Option RoleMapping) (target : op.target = some name)
    (served : ∀ s, (∃ err, serveCall s op = (.error err, s)) ∨ serveCall s op =
      (.ok value, { s with mappings := setMapping s.mappings name stored }))
    (explained : name = role → ∀ mapping ∈ stored, mapping.Has subject →
      op.puts = true ∧ Holds w.state role subject ∨ reason) : Upholds role subject (ask op)
      (OkWith (OnMappings role subject Base reason) fun _ w => name = role →
        (∀ mapping ∈ stored, ¬ mapping.Has subject) → ¬ Holds w.state role subject) w := by
  refine ⟨ground.implied enough holds, fun choice guarded => ?_⟩
  have inside : op ≠ .getBinding := by
    rintro rfl
    cases target
  have reads : op.stores = false := by
    cases op <;> first | rfl | cases target
  by_cases here : name = role
  · subst here
    have base := ground.base holds.1 guarded inside reads
    rcases call_effect choice (·.mappings name = stored) ((served _).imp_right fun done =>
      ⟨congrArg Prod.fst done, (congrArg (·.2.mappings name) done).trans (if_pos rfl)⟩) with
      ⟨err, failed, after⟩ | ⟨_, written⟩
    · refine ⟨⟨base, holds.2.quiet guarded rfl (congrFun (congrArg _ after) name)⟩, ?_⟩
      intro value reply
      cases failed.symm.trans reply
    · have only : Holds (w.extend (w.arrive choice op)).state name subject →
          ∃ mapping ∈ stored, mapping.Has subject :=
        fun ⟨mapping, there, has⟩ => ⟨mapping, written.symm.trans there, has⟩
      refine ⟨⟨base, ?_⟩, fun _ _ _ lacks still => ?_⟩
      · intro ⟨x, member, out, inn⟩ now
        obtain ⟨mapping, there, has⟩ := only now
        rcases explained rfl mapping there has with ⟨puts, already⟩ | fine
        · rcases List.mem_cons.mp member with rfl | old
          · exact absurd (guarded.exclusive puts already) out
          · exact holds.2 ⟨x, old, out, inn⟩ already
        · exact fine
      · obtain ⟨mapping, there, has⟩ := only still
        exact lacks mapping there has
  · have other : op.target ≠ some role :=
      fun same => here (Option.some.inj (target.symm.trans same))
    exact ⟨ground.quiet holds guarded inside reads other, fun _ _ same => absurd same here⟩

theorem Ground.safe_putRoleMapping (name : String) (mapping : RoleMapping)
    (explained : name = role → mapping.Has subject → Holds w.state role subject ∨ reason) :
    Upholds role subject (ask (.putRoleMapping name mapping))
      (OkWith (OnMappings role subject Base reason) fun _ w =>
        name = role ∧ ¬ mapping.Has subject → ¬ Holds w.state role subject) w := by
  apply (ground.safe_replace enough holds (.putRoleMapping name mapping) () (some mapping) rfl
    (fun _ => Or.inr rfl) ?_).mono
  · intro reply w ⟨kept, removed⟩
    refine ⟨kept, fun value fine ⟨here, lacks⟩ => removed value fine here fun _ same => ?_⟩
    cases same
    exact lacks
  · intro here _ same has
    cases same
    exact (explained here has).imp_left fun held => ⟨rfl, held⟩

theorem Ground.safe_deleteRoleMapping (name : String) :
    Upholds role subject (ask (.deleteRoleMapping name))
      (OkWith (OnMappings role subject Base reason) fun _ w =>
        name = role → ¬ Holds w.state role subject) w := by
  apply (ground.safe_replace enough holds (.deleteRoleMapping name) () none rfl ?_ nofun).mono
  · intro reply w ⟨kept, removed⟩
    exact ⟨kept, fun value fine here => removed value fine here nofun⟩
  intro s
  rw [serveCall]
  split
  · exact Or.inl ⟨_, rfl⟩
  · exact Or.inr rfl

theorem Ground.safe_saveMapping (name : String) (mapping : RoleMapping)
    (explained : name = role → mapping.Has subject → Holds w.state role subject ∨ reason) :
    Upholds role subject (saveMapping name mapping)
      (Clears role subject Base reason (name = role ∧ ¬ mapping.Has subject)) w := by
  rw [saveMapping]
  split
  · apply (ground.safe_putRoleMapping enough holds name mapping explained).thenOk
    · exact fun _ _ kept => ⟨kept, nofun⟩
    · exact fun _ _ kept removed => ⟨kept, fun _ => removed⟩
  · apply (ground.safe_deleteRoleMapping enough holds name).thenOk
    · exact fun _ _ kept => ⟨kept, nofun⟩
    · exact fun _ _ kept removed => ⟨kept, fun _ should => removed should.1⟩

end Mappings

section Lists

variable {subject : Subject} {users backendRoles users' backendRoles' right left : List String}
  {mapping : RoleMapping} {x : String}

theorem mem_diffSlice : x ∈ diffSlice left right ↔ x ∈ left ∧ x ∉ right := by
  simp [diffSlice]

theorem not_mem_of_diffSlice_length
    (same : (diffSlice left right).length = left.length) (removed : x ∈ right) : x ∉ left := by
  rw [diffSlice, List.length_filter_eq_length_iff] at same
  intro member
  have kept := same x member
  simp [removed] at kept

theorem RoleMapping.has_diff (has : { mapping with
      users := diffSlice mapping.users users
      backendRoles := diffSlice mapping.backendRoles backendRoles }.Has subject) :
    mapping.Has subject ∧ ¬ subject.mem users backendRoles := by
  cases subject with
  | _ => exact mem_diffSlice.mp has

theorem RoleMapping.has_replaced (has : { mapping with
      users := diffSlice mapping.users users ++ diffSlice users' mapping.users
      backendRoles := diffSlice mapping.backendRoles backendRoles ++
        diffSlice backendRoles' mapping.backendRoles }.Has subject) :
    (mapping.Has subject ∧ ¬ subject.mem users backendRoles) ∨
    subject.mem users' backendRoles' := by
  cases subject with
  | user name =>
    rcases List.mem_append.mp has with old | new
    · exact Or.inl (mem_diffSlice.mp old)
    · exact Or.inr (mem_diffSlice.mp new).1
  | backendRole name =>
    rcases List.mem_append.mp has with old | new
    · exact Or.inl (mem_diffSlice.mp old)
    · exact Or.inr (mem_diffSlice.mp new).1

theorem RoleMapping.not_has_of_lengths
    (first : (diffSlice mapping.users users).length = mapping.users.length)
    (second : (diffSlice mapping.backendRoles backendRoles).length = mapping.backendRoles.length)
    (removed : subject.mem users backendRoles) : ¬ mapping.Has subject := by
  cases subject with
  | user name => exact not_mem_of_diffSlice_length first removed
  | backendRole name => exact not_mem_of_diffSlice_length second removed

variable {role name : String} {w : BindingRun}

theorem holds_of_has {mapping : RoleMapping}
    (stored : w.state.mappings name = some mapping) (here : name = role)
    (has : mapping.Has subject) : Holds w.state role subject := by
  subst here
  exact ⟨mapping, stored, has⟩

theorem absent_of_stored {mapping : RoleMapping}
    (stored : w.state.mappings name = some mapping) (here : name = role)
    (lacks : ¬ mapping.Has subject) : ¬ Holds w.state role subject := by
  subst here
  intro ⟨other, there, has⟩
  rw [stored] at there
  cases there
  exact lacks has

end Lists

section Loops

variable {role : String} {subject : Subject} {Base : BindingWorld → Prop} {goal reason : Prop}
  {w : BindingRun} (ground : Ground role subject Base goal)
  (holds : OnMappings role subject Base reason w)
include ground holds

theorem Ground.safe_removeObjects (enough : reason → goal) (name : String)
    (users backendRoles : List String) :
    Upholds role subject (removeObjectsFromMapping name users backendRoles)
      (Clears role subject Base reason (name = role ∧ subject.mem users backendRoles)) w := by
  apply (ground.safe_fetchRoleMapping enough holds name).thenOk
  · exact fun _ _ holds => ⟨holds, nofun⟩
  intro mapping w holds stored
  dsimp only
  split
  case isTrue untouched =>
    refine ⟨holds, fun _ ⟨here, removed⟩ => absent_of_stored stored here ?_⟩
    exact RoleMapping.not_has_of_lengths untouched.1 untouched.2.2.1 removed
  case isFalse =>
    apply (ground.safe_saveMapping enough holds name _ ?_).mono
    · intro err w ⟨kept, cleared⟩
      refine ⟨kept, fun fine ⟨here, removed⟩ => cleared fine ⟨here, fun has => ?_⟩⟩
      exact (RoleMapping.has_diff has).2 removed
    · intro here has
      exact Or.inl (holds_of_has stored here (RoleMapping.has_diff has).1)

theorem Ground.safe_reconcileExistingMapping (enough : reason → goal) (binding : UserRoleBinding)
    (name : String) (users backendRoles : List String)
    (granted : name = role → binding.spec.Names subject → reason) :
    Upholds role subject (reconcileExistingMapping binding name users backendRoles)
      (Clears role subject Base reason (name = role ∧ subject.mem users backendRoles ∧
        ¬ binding.spec.Names subject)) w := by
  apply (ground.safe_fetchRoleMapping enough holds name).thenOk
  · exact fun _ _ holds => ⟨holds, nofun⟩
  intro mapping w holds stored
  dsimp only
  split
  case isTrue untouched =>
    refine ⟨holds, fun _ ⟨here, removed, _⟩ => absent_of_stored stored here ?_⟩
    exact RoleMapping.not_has_of_lengths untouched.2.2.1 untouched.2.2.2 removed
  case isFalse =>
    apply (ground.safe_saveMapping enough holds name _ ?_).mono
    · intro err w ⟨kept, cleared⟩
      refine ⟨kept, fun fine ⟨here, removed, unnamed⟩ => cleared fine ⟨here, fun has => ?_⟩⟩
      exact (RoleMapping.has_replaced has).elim (fun old => old.2 removed) unnamed
    · intro here has
      rcases RoleMapping.has_replaced has with old | named
      · exact Or.inl (holds_of_has stored here old.1)
      · exact Or.inr (granted here named)

end Loops

end OpenSearchOperator.Security
