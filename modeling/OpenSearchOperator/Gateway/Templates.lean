import Mathlib.Data.Option.Basic
import OpenSearchOperator.Data.Json

/-! When a template that OpenSearch returns is taken for the one of the spec: only some of
its texts are brought into a normal form, and none of the spec's. -/

namespace OpenSearchOperator.Gateway.Templates

open Data

/-- `apiextensionsv1.JSON`: a text by its document and its layout, which is all that the
document does not tell (white space, the spelling of scalars and keys). -/
structure Raw where
  document : Json
  layout : String
  deriving DecidableEq, Repr

def compact : String := ""

-- What a scalar is after `json.Unmarshal`: a number becomes a `float64`.
variable (write : String → String)

def sortedJsonKeys (obj : Raw) : Except String Raw :=
  match obj.document with
  | .object fields => .ok ⟨.object (fields.sorted write), compact⟩
  | .scalar text =>
    if text = "null" then .ok ⟨.scalar "null", compact⟩ else .error "json: cannot unmarshal"
  | .array _ => .error "json: cannot unmarshal"

structure IndexAlias where
  index : String
  aliasName : String
  filter : Option Raw
  routing : String
  isWriteIndex : Bool
  deriving DecidableEq, Repr

/-- The index of a request. `TranslateIndexToRequest` copies it from the spec, whose
texts are not empty. -/
structure Index where
  settings : Option Raw
  mappings : Option Raw
  aliases : List (String × IndexAlias)

structure IndexTemplate where
  indexPatterns : List String
  dataStream : Option (Option String)
  template : Index
  composedOf : List String
  priority : Int
  version : Int
  metadata : Option Raw

structure ComponentTemplate where
  template : Index
  version : Int
  metadata : Option Raw

structure OpensearchIndexTemplateSpec where
  indexPatterns : List String
  dataStream : Option String
  template : Index
  composedOf : List String
  priority : Int
  version : Int
  metadata : Option Raw

structure OpensearchComponentTemplateSpec where
  template : Index
  version : Int
  allowAutoCreate : Bool
  metadata : Option Raw

def translateDatastreamToRequest (timestampField : String) : Option String :=
  if timestampField ≠ "" then some timestampField else none

def translateIndexTemplateToRequest (spec : OpensearchIndexTemplateSpec) : IndexTemplate :=
  { spec with dataStream := spec.dataStream.map translateDatastreamToRequest }

def translateComponentTemplateToRequest (spec : OpensearchComponentTemplateSpec) :
    ComponentTemplate :=
  ⟨spec.template, spec.version, spec.metadata⟩

section Comparison

/-- `cmp.Equal` with `cmpopts.EquateEmpty`, which compares texts byte for byte. -/
def Index.equal (a b : Index) : Bool :=
  a.settings == b.settings && a.mappings == b.mappings &&
    (a.aliases.map Prod.fst ++ b.aliases.map Prod.fst).all fun name =>
      a.aliases.lookup name == b.aliases.lookup name

def IndexTemplate.equal (a b : IndexTemplate) : Bool :=
  a.indexPatterns == b.indexPatterns && a.dataStream == b.dataStream &&
    a.template.equal b.template && a.composedOf == b.composedOf && a.priority == b.priority &&
    a.version == b.version && a.metadata == b.metadata

def ComponentTemplate.equal (a b : ComponentTemplate) : Bool :=
  a.template.equal b.template && a.version == b.version && a.metadata == b.metadata

inductive Reply (T : Type) where
  | notFound
  | failed (status : String)
  | templates (found : List (String × T))

def shouldUpdate {T : Type} (kind : String) (index : T → Index) (withIndex : T → Index → T)
    (equal : T → T → Bool) (name : String) (reply : Reply T) (template : T) :
    Except String Bool :=
  match reply with
  | .notFound => return true
  | .failed status => throw s!"response from API is {status}"
  | .templates [(returned, response)] => do
      if returned ≠ name then
        throw (s!"returned {kind} template named '{returned}' " ++
          s!"does not equal the requested name '{name}'")
      let settings ← (index response).settings.mapM (sortedJsonKeys write)
      let mappings ← (index response).mappings.mapM (sortedJsonKeys write)
      return !equal template (withIndex response ⟨settings, mappings, (index response).aliases⟩)
  | .templates found => throw s!"found {found.length} {kind} templates which fits the name '{name}'"

def shouldUpdateIndexTemplate : String → Reply IndexTemplate → IndexTemplate → Except String Bool :=
  shouldUpdate write "index" IndexTemplate.template ({ · with template := · }) IndexTemplate.equal

def shouldUpdateComponentTemplate :
    String → Reply ComponentTemplate → ComponentTemplate → Except String Bool :=
  shouldUpdate write "component" ComponentTemplate.template ({ · with template := · })
    ComponentTemplate.equal

end Comparison

section JsonEquality

abbrev SameText : Option Raw → Option Raw → Prop :=
  Option.Rel fun a b => a.document.Same b.document

structure SameAlias (a b : IndexAlias) : Prop where
  plain : { a with filter := none } = { b with filter := none }
  filter : SameText a.filter b.filter

structure SameIndex (a b : Index) : Prop where
  settings : SameText a.settings b.settings
  mappings : SameText a.mappings b.mappings
  aliases : ∀ name, Option.Rel SameAlias (a.aliases.lookup name) (b.aliases.lookup name)

structure IndexTemplate.Same (a b : IndexTemplate) : Prop where
  plain : { a with template := b.template, metadata := b.metadata } = b
  template : SameIndex a.template b.template
  metadata : SameText a.metadata b.metadata

structure ComponentTemplate.Same (a b : ComponentTemplate) : Prop where
  version : a.version = b.version
  template : SameIndex a.template b.template
  metadata : SameText a.metadata b.metadata

def Sorted (text : Option Raw) : Prop := ∀ raw ∈ text, sortedJsonKeys write raw = .ok raw

/-- What the comparison needs: settings and mappings of the spec in sorted form, and
aliases whose filters come back byte for byte. -/
@[mk_iff]
structure Literal (request returned : Index) : Prop where
  settings : Sorted write request.settings
  mappings : Sorted write request.mappings
  aliases : ∀ name, request.aliases.lookup name = returned.aliases.lookup name

end JsonEquality

section Kept

variable {write}

theorem sortedJsonKeys_same {a b : Raw} (same : a.document.Same b.document) :
    sortedJsonKeys write a = sortedJsonKeys write b := by
  obtain ⟨a, _⟩ := a
  obtain ⟨b, _⟩ := b
  have sorted := Json.Same.sorted write same
  cases same with
  | scalar text => rfl
  | array => rfl
  | object =>
    simp only [Json.sorted, Json.object.injEq] at sorted
    simp [sortedJsonKeys, sorted]

theorem mapM_sorted_iff {request returned : Option Raw} (same : SameText request returned) :
    returned.mapM (sortedJsonKeys write) = .ok request ↔ Sorted write request := by
  cases same with
  | none => simp [Sorted, pure, Except.pure]
  | @some raw _ same =>
    rw [Option.mapM_some, ← sortedJsonKeys_same same]
    cases read : sortedJsonKeys write raw <;> simp [Sorted, read]

theorem lookup_all_iff {a b : List (String × IndexAlias)} :
    ((a.map Prod.fst ++ b.map Prod.fst).all fun name => a.lookup name == b.lookup name) = true ↔
      ∀ name, a.lookup name = b.lookup name := by
  constructor
  · intro all name
    by_cases listed : name ∈ a.map Prod.fst ++ b.map Prod.fst
    · simpa using List.all_eq_true.mp all name listed
    have neither : a.lookup name = none ∧ b.lookup name = none := by
      simp only [List.lookup_eq_none_iff]
      grind
    rw [neither.1, neither.2]
  · intro all
    simp [all]

theorem equal_iff {request : Index} {settings mappings : Option Raw}
    {aliases : List (String × IndexAlias)} : request.equal ⟨settings, mappings, aliases⟩ = true ↔
      settings = request.settings ∧ mappings = request.mappings ∧
        ∀ name, request.aliases.lookup name = aliases.lookup name := by
  rw [Index.equal, Bool.and_eq_true, lookup_all_iff, Bool.and_eq_true, beq_iff_eq, beq_iff_eq]
  grind

theorem shouldUpdate_iff {T : Type} {kind name : String} {index : T → Index}
    {withIndex : T → Index → T} {equal : T → T → Bool} {request returned : T} {rest : Prop}
    (same : SameIndex (index request) (index returned))
    (parts : ∀ new, equal request (withIndex returned new) = true ↔
      (index request).equal new = true ∧ rest) :
    shouldUpdate write kind index withIndex equal name (.templates [(name, returned)]) request =
      .ok false ↔ Literal write (index request) (index returned) ∧ rest := by
  rw [literal_iff, ← mapM_sorted_iff same.settings, ← mapM_sorted_iff same.mappings, shouldUpdate,
    if_neg (not_not.mpr rfl)]
  cases (index returned).settings.mapM (sortedJsonKeys write) with
  | error => simp [bind, Except.bind]
  | ok settings =>
    cases (index returned).mappings.mapM (sortedJsonKeys write) with
    | error => simp [bind, Except.bind]
    | ok mappings => simp [bind, Except.bind, pure, Except.pure, parts, equal_iff, and_assoc]

end Kept

/-- A template that is the requested one as a JSON value is left alone exactly when the
spec's settings and mappings are written as `sortedJsonKeys` writes them, and `_meta` and
the alias filters are returned as they were sent. -/
theorem same_template_kept_iff (name : String) :
    (∀ (spec : OpensearchIndexTemplateSpec) (returned : IndexTemplate),
      (translateIndexTemplateToRequest spec).Same returned →
      (shouldUpdateIndexTemplate write name (.templates [(name, returned)])
          (translateIndexTemplateToRequest spec) = .ok false ↔
        Literal write spec.template returned.template ∧ spec.metadata = returned.metadata)) ∧
    ∀ (spec : OpensearchComponentTemplateSpec) (returned : ComponentTemplate),
      (translateComponentTemplateToRequest spec).Same returned →
      (shouldUpdateComponentTemplate write name (.templates [(name, returned)])
          (translateComponentTemplateToRequest spec) = .ok false ↔
        Literal write spec.template returned.template ∧ spec.metadata = returned.metadata) := by
  constructor
  · intro spec returned same
    have plain := same.plain
    apply shouldUpdate_iff same.template
    obtain ⟨patterns, stream, template, composed, priority, version, metadata⟩ := returned
    simp only [translateIndexTemplateToRequest, IndexTemplate.mk.injEq] at plain
    simp [IndexTemplate.equal, translateIndexTemplateToRequest, plain]
  · intro spec returned same
    apply shouldUpdate_iff same.template
    simp [ComponentTemplate.equal, translateComponentTemplateToRequest, ← same.version]

def pair (first second : String) : Raw :=
  ⟨.object (.cons first (.scalar "1") (.cons second (.scalar "1") .nil)), compact⟩

theorem pair_same : (pair "a" "b").document.Same (pair "b" "a").document := by
  apply Json.Same.object
  · grind [Fields.get]
  intro name value value' here there
  have one : value = .scalar "1" ∧ value' = .scalar "1" := by grind [Fields.get]
  rw [one.1, one.2]
  exact .scalar _

def pairSpec (metadata : Option Raw) : OpensearchComponentTemplateSpec :=
  ⟨⟨some (pair "a" "b"), none, []⟩, 1, false, metadata⟩

/-- The template of `pairSpec` with its settings in another order. -/
def pairReturned (metadata : Option Raw) : ComponentTemplate :=
  ⟨⟨some (pair "b" "a"), none, []⟩, 1, metadata⟩

theorem pairReturned_same {sent metadata : Option Raw} (same : SameText sent metadata) :
    (translateComponentTemplateToRequest (pairSpec sent)).Same (pairReturned metadata) :=
  ⟨rfl, ⟨.some pair_same, .none, fun _ => .none⟩, same⟩

theorem reordered_settings_kept :
    shouldUpdateComponentTemplate id "logs" (.templates [("logs", pairReturned none)])
      (translateComponentTemplateToRequest (pairSpec none)) = .ok false := by
  apply ((same_template_kept_iff id "logs").2 _ _ (pairReturned_same .none)).mpr
  refine ⟨⟨?_, by simp [Sorted, pairSpec], fun _ => rfl⟩, rfl⟩
  simp only [Sorted, pairSpec, Option.mem_some_iff, forall_eq']
  decide +kernel

/-- OpenSearch returns `_meta` with its keys in another order: the update is asked for. -/
theorem reordered_metadata_updated :
    (translateComponentTemplateToRequest (pairSpec (some (pair "a" "b")))).Same
      (pairReturned (some (pair "b" "a"))) ∧
    shouldUpdateComponentTemplate id "logs"
      (.templates [("logs", pairReturned (some (pair "b" "a")))])
      (translateComponentTemplateToRequest (pairSpec (some (pair "a" "b")))) = .ok true :=
  ⟨pairReturned_same (.some pair_same), by decide +kernel⟩

end OpenSearchOperator.Gateway.Templates
