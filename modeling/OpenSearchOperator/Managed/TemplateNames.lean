import OpenSearchOperator.Managed.GuardedRules

/-! Index templates and component templates. Their name may be edited, while the flag in the
status speaks of the name that was checked. A template that somebody else has made is safe as
long as no edit moves the resource onto it behind the back of that check. -/

namespace OpenSearchOperator.Managed.TemplateNames

open Api Effects
open Managed.Guarded

variable {Spec Doc : Type}

inductive TemplateKind where
  | index
  | component
  deriving DecidableEq, Repr

namespace TemplateKind

def kind (template : TemplateKind) (name : String) (specName : Spec → String)
    (document : Spec → Doc) : GuardedKind Spec Doc :=
  match template with
  | .index => indexTemplatesKind name specName document
  | .component => componentTemplatesKind name specName document

def validateUpdate (template : TemplateKind) (name : String) (specName : Spec → String)
    (document : Spec → Doc) : Resource Spec → Resource Spec → Option String :=
  match template with
  | .index => validateIndexTemplateUpdate (indexTemplatesKind name specName document)
  | .component => validateComponentTemplateUpdate (componentTemplatesKind name specName document)

def pass [DecidableEq Doc] (template : TemplateKind) (name : String) (specName : Spec → String)
    (document : Spec → Doc) : ManagedProg Spec Doc Handled :=
  guardedPass (template.kind name specName document)

end TemplateKind

variable [DecidableEq Spec] {returned : String → Doc → Doc}

/-- An edit gives the resource the name of a foreign template only if the status already says
that the template was there, or if it says nothing and no pass has read the resource yet. -/
def KeepsOff (kind : GuardedKind Spec Doc) (foreign : String → Prop)
    (e : ManagedEvent Spec returned) : Prop :=
  ∀ r ∈ e.before.resource, foreign (kind.objectName r.spec) →
    (∃ earlier ∈ e.prior.resource, kind.objectName earlier.spec = kind.objectName r.spec) ∨
      r.status.existing = some true ∨ r.status.existing = none ∧ e.op = .getResource

/-- Nobody else creates or deletes templates or writes the flag, and edits keep off the
templates of others. -/
structure Careful (kind : GuardedKind Spec Doc) (foreign : String → Prop)
    (e : ManagedEvent Spec returned) : Prop where
  templates : ∀ name, (e.before.objects name).isSome = (e.prior.objects name).isSome
  flag : Alone ObjectStatus.existing e
  rename : KeepsOff kind foreign e

/-- The flag has this value; while it says that the template was not there, the resource
does not have the name of a foreign one. No foreign template has been the target of a write. -/
structure Stage (kind : GuardedKind Spec Doc) (foreign : String → Prop) (flag : Option Bool)
    (w : ManagedRun Spec returned) : Prop where
  there : ∀ name, foreign name → (w.state.objects name).isSome = true
  flagged : ∀ r ∈ w.state.resource, r.status.existing = flag
  own : flag = some false → ∀ r ∈ w.state.resource, ¬ foreign (kind.objectName r.spec)
  history : ∀ e ∈ w.past, ∀ name, e.op.target = some name → ¬ foreign name

def Near (kind : GuardedKind Spec Doc) (foreign : String → Prop) (name : String)
    (s : ManagedWorld Spec Doc) : Prop :=
  ∀ r ∈ s.resource, foreign (kind.objectName r.spec) → kind.objectName r.spec = name

def Harmless (foreign : String → Prop) (op : Call Spec Doc) : Prop :=
  ∀ name, op.target = some name → ¬ foreign name

variable {kind : GuardedKind Spec Doc} {foreign : String → Prop} {flag : Option Bool}
  {name : String} {w : ManagedRun Spec returned}

section Steps

variable {choice : ManagedChoice Spec Doc} {op : Call Spec Doc}

theorem Stage.before (stage : Stage kind foreign flag w)
    (careful : Careful kind foreign (w.arrive choice op)) :
    (∀ name, foreign name → ((w.arrive choice op).before.objects name).isSome = true) ∧
      (∀ r ∈ (w.arrive choice op).before.resource, r.status.existing = flag) ∧
      (flag = some false → ∀ r ∈ (w.arrive choice op).before.resource,
        ¬ foreign (kind.objectName r.spec)) := by
  have flagged : ∀ r ∈ (w.arrive choice op).before.resource, r.status.existing = flag := by
    intro r there
    obtain ⟨earlier, present, same⟩ := careful.flag r there
    exact same.trans (stage.flagged earlier present)
  refine ⟨?_, flagged, ?_⟩
  · intro name alien
    rw [careful.templates]
    exact stage.there name alien
  · intro created r there alien
    have marked : r.status.existing = some false := (flagged r there).trans created
    rcases careful.rename r there alien with ⟨earlier, present, same⟩ | set | ⟨unset, _⟩
    · exact stage.own created earlier present (same ▸ alien)
    · cases marked.symm.trans set
    · cases marked.symm.trans unset

theorem Near.before (stage : Stage kind foreign none w) (near : Near kind foreign name w.state)
    (careful : Careful kind foreign (w.arrive choice op)) (started : op ≠ .getResource) :
    Near kind foreign name (w.arrive choice op).before := by
  intro r there alien
  have unmarked := (stage.before careful).2.1 r there
  rcases careful.rename r there alien with ⟨earlier, present, same⟩ | set | ⟨_, first⟩
  · rw [← same]
    exact near earlier present (same ▸ alien)
  · cases unmarked.symm.trans set
  · exact absurd first started

theorem Stage.extend (stage : Stage kind foreign flag w) {later : Option Bool}
    (careful : Careful kind foreign (w.arrive choice op)) (harmless : Harmless foreign op)
    (flagged : ∀ r ∈ (w.arrive choice op).after.resource, r.status.existing = later)
    (own : later = some false → ∀ r ∈ (w.arrive choice op).after.resource,
      ¬ foreign (kind.objectName r.spec)) :
    Stage kind foreign later (w.extend (w.arrive choice op)) := by
  refine ⟨fun name alien => ?_, flagged, own, fun x happened => ?_⟩
  · rw [World.extend_state, arrive_objects fun targeted => harmless name targeted alien]
    exact (stage.before careful).1 name alien
  rcases List.mem_cons.mp happened with rfl | earlier
  · exact harmless
  · exact stage.history x earlier

theorem Stage.call (stage : Stage kind foreign flag w)
    (careful : Careful kind foreign (w.arrive choice op))
    (resource : op.writesResource = false) (harmless : Harmless foreign op) :
    Stage kind foreign flag (w.extend (w.arrive choice op)) := by
  obtain ⟨_, flagged, own⟩ := stage.before careful
  apply stage.extend careful harmless
  · rw [arrive_resource resource]
    exact flagged
  · rw [arrive_resource resource]
    exact own

end Steps

section Ready

structure Ready (kind : GuardedKind Spec Doc) (foreign : String → Prop) (name : String)
    (flag : Option Bool) (w : ManagedRun Spec returned) : Prop where
  stage : Stage kind foreign flag w
  ours : flag = some false → ¬ foreign name
  near : flag = none → Near kind foreign name w.state

variable {choice : ManagedChoice Spec Doc} {op : Call Spec Doc} {resource : Resource Spec}

theorem Stage.ready (stage : Stage kind foreign flag w)
    (current : w.state.resource = some resource) :
    Ready kind foreign (kind.objectName resource.spec) flag w := by
  refine ⟨stage, fun created => stage.own created resource current, fun _ r there _ => ?_⟩
  cases there.symm.trans current
  rfl

variable (ready : Ready kind foreign name flag w)

include ready

theorem Ready.near_before (careful : Careful kind foreign (w.arrive choice op))
    (started : op ≠ .getResource) (unset : flag = none) :
    Near kind foreign name (w.arrive choice op).before := by
  subst unset
  exact (ready.near rfl).before ready.stage careful started

theorem Ready.start (careful : Careful kind foreign (w.arrive choice .getResource)) :
    ∃ other, Ready kind foreign other flag (w.extend (w.arrive choice .getResource)) := by
  have stage := ready.stage.call careful rfl nofun
  cases current : (w.extend (w.arrive choice .getResource)).state.resource with
  | some resource => exact ⟨_, stage.ready current⟩
  | none => exact ⟨name, stage, ready.ours, fun _ r there => by cases current.symm.trans there⟩

theorem Ready.call (careful : Careful kind foreign (w.arrive choice op))
    (started : op ≠ .getResource) (resource : op.writesResource = false)
    (target : op.target = none ∨ op.target = some name ∧ flag = some false) :
    Ready kind foreign name flag (w.extend (w.arrive choice op)) := by
  have harmless : Harmless foreign op := by
    intro other targeted
    rcases target with none | ⟨same, created⟩
    · cases none.symm.trans targeted
    · cases same.symm.trans targeted
      exact ready.ours created
  refine ⟨ready.stage.call careful resource harmless, ready.ours, fun unset => ?_⟩
  rw [Near, World.extend_state, arrive_resource resource]
  exact ready.near_before careful started unset

theorem Ready.rewrite {later : Option Bool} (careful : Careful kind foreign (w.arrive choice op))
    (started : op ≠ .getResource) (object : op.target = none)
    (flagged : ∀ r ∈ (w.arrive choice op).after.resource, r.status.existing = later)
    (turns : Turns (fun name existing => existing = false → ¬ foreign name) name flag later)
    (specs : ∀ r ∈ (w.arrive choice op).after.resource,
      (∃ stored ∈ (w.arrive choice op).before.resource, r.spec = stored.spec) ∨
        kind.objectName r.spec = name) :
    Ready kind foreign name later (w.extend (w.arrive choice op)) := by
  have ours : later = some false → ¬ foreign name := by
    intro created
    cases turns with
    | kept => exact ready.ours created
    | set unset told => exact told (Option.some.inj created)
  have near : flag = none → Near kind foreign name (w.arrive choice op).after := by
    intro unset r there alien
    rcases specs r there with ⟨stored, present, same⟩ | new
    · rw [same] at alien ⊢
      exact ready.near_before careful started unset stored present alien
    · exact new
  refine ⟨ready.stage.extend careful (fun _ targeted => by cases object.symm.trans targeted)
    flagged ?_, ours, ?_⟩
  · intro created r there alien
    cases turns with
    | set unset told => exact ours created (near unset r there alien ▸ alien)
    | kept =>
      rcases specs r there with ⟨stored, present, same⟩ | new
      · exact (ready.stage.before careful).2.2 created stored present (same ▸ alien)
      · exact ours created (new ▸ alien)
  · intro unset
    cases turns with
    | kept => exact near unset
    | set => cases unset

omit ready in
theorem guards_ready : Guards kind (Careful kind foreign)
    (Ready kind foreign : String → Option Bool → ManagedRun Spec returned → Prop)
    fun name existing => existing = false → ¬ foreign name where
  alone _ careful := careful.flag
  flagged ready := ready.stage.flagged
  named ready current := ready.stage.ready current
  start careful ready := ready.start careful
  call careful ready started resource target := ready.call careful started resource target
  resource := by
    intro flag w choice resource careful ready
    apply ready.rewrite careful nofun rfl _ .kept
    · intro r there
      obtain ⟨stored, present, _, same | new⟩ := answer_updateResource r there
      · exact Or.inl ⟨stored, present, congrArg Resource.spec same⟩
      · exact Or.inr (congrArg kind.objectName new)
    · intro r there
      obtain ⟨stored, present, same, _⟩ := answer_updateResource r there
      rw [same]
      exact (ready.stage.before careful).2.1 stored present
  status := by
    intro name flag later w choice resource careful ready flagged turns
    apply ready.rewrite careful nofun rfl flagged turns
    intro r there
    obtain ⟨stored, present, same, _⟩ := answer_updateResourceStatus r there
    exact Or.inl ⟨stored, present, same⟩
  told := by
    intro name w choice response careful ready told missing alien
    obtain ⟨told, _⟩ := answered told
    cases told
    rw [Option.isSome_map] at missing
    cases missing.symm.trans ((ready.stage.before careful).1 name alien)

end Ready

/-- In every run whose edits are careful, no template that OpenSearch had before is the target
of a write. -/
theorem foreign_templates_untouched [DecidableEq Doc] (template : TemplateKind) (name : String)
    (specName : Spec → String) (document : Spec → Doc) (start : ManagedRun Spec returned)
    (passes : List (List (ManagedChoice Spec Doc))) (fresh : start.past = [])
    (unset : ∀ r ∈ start.state.resource, r.status.existing = none)
    (careful : ∀ e ∈ (runs (template.pass name specName document) passes start).past,
      Careful (template.kind name specName document)
        (fun other => (start.state.objects other).isSome = true) e) :
    ∀ e ∈ (runs (template.pass name specName document) passes start).past, ∀ other,
      (start.state.objects other).isSome = true → e.op.target ≠ some other := by
  have stage : Stage (template.kind name specName document)
      (fun other => (start.state.objects other).isSome = true) none start := by
    refine ⟨fun _ there => there, unset, nofun, ?_⟩
    intro e happened
    rw [fresh] at happened
    cases happened
  have initially : Tracked (Ready (template.kind name specName document)
      (fun other => (start.state.objects other).isSome = true)) start := by
    cases current : start.state.resource with
    | some resource => exact ⟨_, none, stage.ready current⟩
    | none => exact ⟨"", none, stage, nofun, fun _ r there => by cases current.symm.trans there⟩
  obtain ⟨_, flag, ready⟩ := runs_keep (keeps_guardedPass guards_ready) passes start initially
    careful
  intro e happened other there targeted
  exact ready.stage.history e happened other targeted there

section Runs

def Admitted (validate : Resource Spec → Resource Spec → Option String)
    (e : ManagedEvent Spec returned) : Prop :=
  ∀ r ∈ e.before.resource, ∀ earlier ∈ e.prior.resource, validate earlier r = none

instance (validate : Resource Spec → Resource Spec → Option String)
    (e : ManagedEvent Spec returned) : Decidable (Admitted validate e) :=
  inferInstanceAs (Decidable (∀ r ∈ e.before.resource, ∀ earlier ∈ e.prior.resource, _ = none))

instance [DecidableEq Doc] (kind : GuardedKind Spec Doc) (foreign : String → Prop)
    [DecidablePred foreign] (e : ManagedEvent Spec returned) :
    Decidable (KeepsOff kind foreign e) :=
  inferInstanceAs (Decidable (∀ r ∈ e.before.resource, _ → _))

abbrev Named := String

abbrev templatePass (template : TemplateKind) : ManagedProg Named String Handled :=
  template.pass "mine" id fun _ => "ours"

abbrev validateUpdate (template : TemplateKind) : Resource Named → Resource Named → Option String :=
  template.validateUpdate "mine" id fun _ => "ours"

/-- The resource is called `mine`; OpenSearch has one template, `theirs`. -/
def templateWorld : ManagedRun Named (unaltered String) :=
  ⟨{ resource := some { spec := "mine" }, cluster := some ⟨"cluster", "RUNNING", false⟩
     objects := fun name => if name = "theirs" then some ⟨0, 1, "theirs"⟩ else none }, []⟩

def edit (change : Resource Named → Resource Named) : ManagedChoice Named String :=
  { others := fun s => { s with resource := s.resource.map change } }

def rename (name : Named) : ManagedChoice Named String := edit fun r => { r with spec := name }

def renamed : List (ManagedChoice Named String) := rename "theirs" :: quietPass

def unwritten : List (ManagedChoice Named String) :=
  quietPass.take 10 ++ { outcome := .refused .unavailable } :: quietPass

def deletedOnly : List (ManagedChoice Named String) := [edit fun r => { r with deleting := true }]

abbrev runOf (template : TemplateKind) (passes : List (List (ManagedChoice Named String))) :
    ManagedRun Named (unaltered String) :=
  runs (templatePass template) passes templateWorld

theorem templates_kept {choice : ManagedChoice Named String}
    (keeps : ∀ s, (choice.others s).objects = s.objects) (s : ManagedWorld Named String) :
    (disturbManaged choice s).objects = s.objects := by
  rw [disturbManaged]
  split <;> exact keeps s

/-- A rename before the first pass, onto a name that is free. -/
theorem renamed_template_careful :
    (templateWorld.state.objects "theirs").isSome = true ∧
    ∀ e ∈ (runOf .index [rename "fresh" :: quietPass, quietPass]).past,
      e.op.target ≠ some "theirs" := by
  refine ⟨rfl, fun e happened => ?_⟩
  have facts : ∀ e ∈ (runOf .index [rename "fresh" :: quietPass, quietPass]).past,
      Alone ObjectStatus.existing e ∧ KeepsOff (TemplateKind.index.kind "mine" id fun _ => "ours")
        (fun other => (templateWorld.state.objects other).isSome = true) e := by decide
  refine foreign_templates_untouched .index "mine" id (fun _ => "ours") templateWorld
    [rename "fresh" :: quietPass, quietPass] rfl (by decide) ?_ e happened "theirs" rfl
  intro e happened
  refine ⟨fun name => ?_, (facts e happened).1, (facts e happened).2⟩
  have kept : ∀ s, (e.choice.others s).objects = s.objects := by
    rcases runs_choices _ _ _ e happened with earlier | ⟨choices, pass, driven⟩
    · cases earlier
    simp only [List.mem_cons, List.not_mem_nil, or_false] at pass
    rcases pass with rfl | rfl
    · rcases List.mem_cons.mp driven with same | later
      · rw [same]
        exact fun _ => rfl
      · rw [List.eq_of_mem_replicate later]
        exact fun _ => rfl
    · rw [List.eq_of_mem_replicate driven]
      exact fun _ => rfl
  exact congrArg (fun objects => (objects name).isSome) (templates_kept kept e.prior)

/-- The webhook lets renames pass: of a component template at any time, since its name is
never recorded; of an index template while a failure keeps the name from being recorded, or
once it is deleted. The template of somebody else is overwritten or deleted. -/
theorem foreign_templates_overwritten : ((∀ e ∈ (runOf .component [quietPass, renamed]).past,
        Admitted (validateUpdate .component) e) ∧
      (runOf .component [quietPass, renamed]).state.objects "theirs" = some ⟨0, 1, "ours"⟩) ∧
    ((∀ e ∈ (runOf .index [unwritten, renamed]).past, Admitted (validateUpdate .index) e) ∧
      (runOf .index [unwritten, renamed]).state.objects "theirs" = some ⟨0, 1, "ours"⟩) ∧
    (∀ e ∈ (runOf .index [quietPass, deletedOnly, renamed]).past,
        Admitted (validateUpdate .index) e) ∧
      (runOf .index [quietPass, deletedOnly, renamed]).state.objects "theirs" = none := by
  decide

end Runs

end OpenSearchOperator.Managed.TemplateNames
