import OpenSearchOperator.Data.Json

/-! What null stripping leaves of a JSON object: the members that are null, empty strings or
objects of such members are gone, at every depth, and everything else stands where it stood. -/

namespace OpenSearchOperator.Data

mutual

def Json.Canonical : Json → Prop
  | .scalar _ => True
  | .array items => items.Canonical
  | .object fields => fields.Canonical

def Items.Canonical : Items → Prop
  | .nil => True
  | .cons item items => item.Canonical ∧ items.Canonical

def Fields.Canonical : Fields → Prop
  | .nil => True
  | .cons key value fields =>
    (∀ name, fields.get name ≠ none → key < name) ∧ value.Canonical ∧ fields.Canonical

end

def Items.get : Items → Nat → Option Json
  | .nil, _ => none
  | .cons item _, 0 => some item
  | .cons _ items, index + 1 => items.get index

def Items.length : Items → Nat
  | .nil => 0
  | .cons _ items => items.length + 1

inductive Step where
  | key (name : String)
  | index (position : Nat)
  deriving DecidableEq, Repr

def Json.child : Json → Step → Option Json
  | .object fields, .key name => fields.get name
  | .array items, .index position => items.get position
  | _, _ => none

def Json.at (value : Json) : List Step → Option Json
  | [] => some value
  | step :: path => (value.child step).bind fun below => below.at path

theorem canonical_get (name : String) (value : Json) : ∀ fields : Fields, fields.Canonical →
    fields.get name = some value → value.Canonical
  | .nil, _, found => by simp [Fields.get] at found
  | .cons key first fields, canonical, found => by
    have rest := canonical_get name value fields canonical.2.2
    grind [Fields.get, Fields.Canonical]

theorem canonical_item (value : Json) : ∀ (items : Items) (index : Nat), items.Canonical →
    items.get index = some value → value.Canonical
  | .nil, _, _, found => by simp [Items.get] at found
  | .cons item items, 0, canonical, found => by
    cases found
    exact canonical.1
  | .cons item items, index + 1, canonical, found =>
    canonical_item value items index canonical.2 found

theorem canonical_child {value below : Json} {step : Step} (canonical : value.Canonical)
    (found : value.child step = some below) : below.Canonical := by
  cases value <;> cases step <;> simp only [Json.child, reduceCtorEq] at found
  case array.index items position => exact canonical_item _ items position canonical found
  case object.key fields name => exact canonical_get name _ fields canonical found

end OpenSearchOperator.Data

namespace OpenSearchOperator.Patch

open Data

variable {val kept : Json} {fields : Fields}

structure Document where
  fields : Fields
  canonical : fields.Canonical

def null : Json := .scalar "null"

/-- Numbers and booleans are never zero here, and a decoded map or slice is never `nil`. -/
def isZero (val : Json) : Bool :=
  val == .scalar "\"\""

mutual

def filteredMember : Json → Option Json
  | .scalar text =>
    if .scalar text == null || isZero (.scalar text) then none else some (.scalar text)
  | .array items => some (.array (deleteNullInSlice items))
  | .object .nil => some (.object .nil)
  | .object (.cons key val rest) =>
    match deleteNullInObj (.cons key val rest) with
    | .nil => none
    | filteredSubMap => some (.object filteredSubMap)

def filteredElement : Json → Json
  | .scalar text => .scalar text
  | .array items => .array (deleteNullInSlice items)
  | .object fields => .object (deleteNullInObj fields)

def deleteNullInSlice : Items → Items
  | .nil => .nil
  | .cons val rest => .cons (filteredElement val) (deleteNullInSlice rest)

def deleteNullInObj : Fields → Fields
  | .nil => .nil
  | .cons key val rest =>
    match filteredMember val with
    | none => deleteNullInObj rest
    | some kept => .cons key kept (deleteNullInObj rest)

end

theorem eq_filteredElement (made : filteredMember val = some kept) :
    kept = filteredElement val := by
  cases val with
  | scalar text => grind [filteredMember, filteredElement]
  | array items => grind [filteredMember, filteredElement]
  | object fields => cases fields <;> grind [filteredMember, filteredElement, deleteNullInObj]

theorem filteredMember_object (some_left : deleteNullInObj fields ≠ .nil) :
    filteredMember (.object fields) = some (filteredElement (.object fields)) := by
  cases fields <;> grind [filteredMember, filteredElement, deleteNullInObj]

theorem filteredMember_ne (made : filteredMember val = some kept) :
    kept ≠ null ∧ isZero kept = false := by
  cases val with
  | scalar text => grind [filteredMember]
  | array items => grind [filteredMember, isZero, null]
  | object fields => cases fields <;> grind [filteredMember, isZero, null]

theorem get_deleteNullInSlice : ∀ (items : Items) (index : Nat),
    (deleteNullInSlice items).get index = (items.get index).map filteredElement
  | .nil, _ => by simp [deleteNullInSlice, Items.get]
  | .cons val rest, 0 => by simp [deleteNullInSlice, Items.get]
  | .cons val rest, index + 1 => by
    simpa [deleteNullInSlice, Items.get] using get_deleteNullInSlice rest index

theorem length_deleteNullInSlice : ∀ items : Items, (deleteNullInSlice items).length = items.length
  | .nil => by simp [deleteNullInSlice]
  | .cons val rest => by
    simpa [deleteNullInSlice, Items.length] using length_deleteNullInSlice rest

theorem get_deleteNullInObj (name : String) : ∀ fields : Fields, fields.Canonical →
    (deleteNullInObj fields).get name = (fields.get name).bind filteredMember
  | .nil, _ => by simp [deleteNullInObj, Fields.get]
  | .cons key val rest, canonical => by
    have below := get_deleteNullInObj name rest canonical.2.2
    have apart : key = name → rest.get name = none := by
      rintro rfl
      by_contra again
      exact lt_irrefl key (canonical.1 key again)
    rw [deleteNullInObj]
    split <;> grind [Fields.get]

mutual

theorem canonical_filteredElement : ∀ val : Json, val.Canonical → (filteredElement val).Canonical
  | .scalar _, _ => by simp [filteredElement, Json.Canonical]
  | .array items, canonical => by
    simpa [filteredElement, Json.Canonical] using canonical_deleteNullInSlice items canonical
  | .object fields, canonical => by
    simpa [filteredElement, Json.Canonical] using canonical_deleteNullInObj fields canonical

theorem canonical_deleteNullInSlice : ∀ items : Items, items.Canonical →
    (deleteNullInSlice items).Canonical
  | .nil, _ => by simp [deleteNullInSlice, Items.Canonical]
  | .cons val rest, canonical => by
    rw [deleteNullInSlice]
    exact ⟨canonical_filteredElement val canonical.1, canonical_deleteNullInSlice rest canonical.2⟩

theorem canonical_deleteNullInObj : ∀ fields : Fields, fields.Canonical →
    (deleteNullInObj fields).Canonical
  | .nil, _ => by simp [deleteNullInObj, Fields.Canonical]
  | .cons key val rest, canonical => by
    have below := canonical_deleteNullInObj rest canonical.2.2
    have first := canonical_filteredElement val canonical.2.1
    rw [deleteNullInObj]
    split
    case h_1 => exact below
    case h_2 kept made =>
      refine ⟨fun name found => canonical.1 name fun absent => found ?_, ?_, below⟩
      · simp [get_deleteNullInObj name rest canonical.2.2, absent]
      · simpa [eq_filteredElement made] using first

end

theorem filteredMember_kept (made : filteredMember val = some kept)
    (same : filteredElement kept = kept) : filteredMember kept = some kept := by
  cases val with
  | scalar text => grind [filteredMember]
  | array items => grind [filteredMember, filteredElement]
  | object fields => cases fields <;> grind [filteredMember, filteredElement, filteredMember_object]

mutual

theorem filteredElement_twice : ∀ val : Json,
    filteredElement (filteredElement val) = filteredElement val
  | .scalar _ => by simp [filteredElement]
  | .array items => by simp [filteredElement, deleteNullInSlice_twice items]
  | .object fields => by simp [filteredElement, deleteNullInObj_twice fields]

theorem deleteNullInSlice_twice : ∀ items : Items,
    deleteNullInSlice (deleteNullInSlice items) = deleteNullInSlice items
  | .nil => by simp [deleteNullInSlice]
  | .cons val rest => by
    simp [deleteNullInSlice, filteredElement_twice val, deleteNullInSlice_twice rest]

theorem deleteNullInObj_twice : ∀ fields : Fields,
    deleteNullInObj (deleteNullInObj fields) = deleteNullInObj fields
  | .nil => by simp [deleteNullInObj]
  | .cons key val rest => by
    have below := deleteNullInObj_twice rest
    have first := filteredElement_twice val
    cases made : filteredMember val with
    | none => simpa [deleteNullInObj, made] using below
    | some kept =>
      rw [← eq_filteredElement made] at first
      simp [deleteNullInObj, made, filteredMember_kept made first, below]

end

theorem child_filteredElement {after : Json} {step : Step} (canonical : val.Canonical)
    (found : (filteredElement val).child step = some after) :
    ∃ below, val.child step = some below ∧ filteredElement below = after := by
  cases val <;> cases step <;> simp only [filteredElement, Json.child, reduceCtorEq] at found
  case array.index items position =>
    rw [get_deleteNullInSlice] at found
    exact Option.map_eq_some_iff.mp found
  case object.key fields name =>
    rw [get_deleteNullInObj name fields canonical] at found
    obtain ⟨below, before, made⟩ := Option.bind_eq_some_iff.mp found
    exact ⟨below, before, (eq_filteredElement made).symm⟩

theorem at_filteredElement (path : List Step) (after : Json) : ∀ val : Json, val.Canonical →
    (filteredElement val).at path = some after →
    ∃ before, val.at path = some before ∧ before.Canonical ∧ filteredElement before = after := by
  induction path with
  | nil =>
    intro val canonical found
    exact ⟨val, rfl, canonical, Option.some.inj found⟩
  | cons step path ih =>
    intro val canonical found
    obtain ⟨next, stepped, rest⟩ := Option.bind_eq_some_iff.mp found
    obtain ⟨below, before, rfl⟩ := child_filteredElement canonical stepped
    obtain ⟨target, reached, kept⟩ := ih below (canonical_child canonical before) rest
    exact ⟨target, by simpa [Json.at, before] using reached, kept⟩

/-- The values that null stripping never takes away: all arrays, and the scalars that are
neither null nor an empty string. -/
def Lasting : Json → Prop
  | .scalar text => .scalar text ≠ null ∧ isZero (.scalar text) = false
  | .array _ => True
  | .object _ => False

theorem at_of_lasting (path : List Step) {target : Json} (lasting : Lasting target) :
    ∀ val : Json, val.Canonical → val.at path = some target →
      filteredMember val = some (filteredElement val) ∧
        (filteredElement val).at path = some (filteredElement target) := by
  induction path with
  | nil =>
    intro val canonical found
    cases found
    refine ⟨?_, rfl⟩
    cases target <;> simp_all [Lasting, filteredMember, filteredElement]
  | cons step path ih =>
    intro val canonical found
    obtain ⟨below, stepped, rest⟩ := Option.bind_eq_some_iff.mp found
    obtain ⟨kept, reached⟩ := ih below (canonical_child canonical stepped) rest
    cases val <;> cases step <;> simp only [Json.child, reduceCtorEq] at stepped
    case array.index items position =>
      refine ⟨by simp [filteredMember, filteredElement], ?_⟩
      simpa [Json.at, filteredElement, Json.child, get_deleteNullInSlice, stepped] using reached
    case object.key fields name =>
      have member : (deleteNullInObj fields).get name = some (filteredElement below) := by
        simpa [get_deleteNullInObj name fields canonical, stepped] using kept
      refine ⟨filteredMember_object ?_, ?_⟩
      · intro nothing
        simp [nothing, Fields.get] at member
      · simpa [Json.at, filteredElement, Json.child, member] using reached

/-- No member of an object in the output is null or an empty string; the arrays are those of
the input, with their lengths; and the scalars are those of the input without its nulls and
empty strings in objects, each at its path. -/
structure NormalForm (before after : Fields) : Prop where
  no_null : ∀ path fields name value, (Json.object after).at path = some (.object fields) →
    fields.get name = some value → value ≠ null ∧ isZero value = false
  same_arrays : ∀ path length,
    (∃ items, (Json.object after).at path = some (.array items) ∧ items.length = length) ↔
      ∃ items, (Json.object before).at path = some (.array items) ∧ items.length = length
  same_scalar : ∀ path text, (Json.object after).at path = some (.scalar text) →
    (Json.object before).at path = some (.scalar text)
  scalar_kept : ∀ path text, (Json.object before).at path = some (.scalar text) →
    .scalar text ≠ null → isZero (.scalar text) = false →
      (Json.object after).at path = some (.scalar text)

theorem normalForm_deleteNullInObj (canonical : fields.Canonical) :
    NormalForm fields (deleteNullInObj fields) := by
  have whole : filteredElement (.object fields) = .object (deleteNullInObj fields) := by
    rw [filteredElement]
  have back path after := at_filteredElement path after (.object fields) canonical
  have onward path target lasting :=
    at_of_lasting path (show Lasting target from lasting) (.object fields) canonical
  rw [whole] at back onward
  constructor
  case no_null =>
    intro path below name value found member
    obtain ⟨before, -, sound, made⟩ := back path _ found
    cases before <;> simp only [filteredElement, Json.object.injEq, reduceCtorEq] at made
    case object inner =>
    rw [← made, get_deleteNullInObj name inner sound] at member
    obtain ⟨original, -, kept⟩ := Option.bind_eq_some_iff.mp member
    exact filteredMember_ne kept
  case same_arrays =>
    intro path length
    constructor
    · rintro ⟨items, found, rfl⟩
      obtain ⟨before, reached, -, made⟩ := back path _ found
      cases before <;> simp only [filteredElement, Json.array.injEq, reduceCtorEq] at made
      exact ⟨_, reached, by rw [← made, length_deleteNullInSlice]⟩
    · rintro ⟨items, found, rfl⟩
      exact ⟨_, by simpa [filteredElement] using (onward path (.array items) trivial found).2,
        length_deleteNullInSlice items⟩
  case same_scalar =>
    intro path text found
    obtain ⟨before, reached, -, made⟩ := back path _ found
    cases before <;> simp only [filteredElement, reduceCtorEq] at made
    rw [reached, made]
  case scalar_kept =>
    intro path text found some_value some_text
    simpa [filteredElement] using (onward path (.scalar text) ⟨some_value, some_text⟩ found).2

section Library

variable {Bytes : Type}

structure JsonLibrary (Bytes : Type) where
  Unmarshal : Bytes → Except String Document
  Marshal : Document → Bytes

def Document.withoutNulls (patchMap : Document) : Document where
  fields := deleteNullInObj patchMap.fields
  canonical := canonical_deleteNullInObj patchMap.fields patchMap.canonical

/-- A decoded document has no value of another type, so that only the decoding can fail. -/
def deleteNullInJson (json : JsonLibrary Bytes) (jsonBytes : Bytes) :
    Except String (Bytes × Document) :=
  match json.Unmarshal jsonBytes with
  | .error err => .error s!"could not unmarshal json patch: {err}"
  | .ok patchMap =>
    let filteredMap := patchMap.withoutNulls
    .ok (json.Marshal filteredMap, filteredMap)

/-- The output is in normal form, and a second pass changes nothing. -/
theorem null_stripping_normal_form (json : JsonLibrary Bytes)
    (faithful : ∀ document, json.Unmarshal (json.Marshal document) = .ok document)
    (jsonBytes : Bytes) (patchMap : Document) (read : json.Unmarshal jsonBytes = .ok patchMap) :
    ∃ o filteredMap, deleteNullInJson json jsonBytes = .ok (o, filteredMap) ∧
      json.Unmarshal o = .ok filteredMap ∧ NormalForm patchMap.fields filteredMap.fields ∧
      deleteNullInJson json o = .ok (o, filteredMap) := by
  have again : patchMap.withoutNulls.withoutNulls = patchMap.withoutNulls := by
    simp [Document.withoutNulls, deleteNullInObj_twice]
  refine ⟨_, patchMap.withoutNulls, by simp only [deleteNullInJson, read], faithful _,
    normalForm_deleteNullInObj patchMap.canonical, ?_⟩
  simp only [deleteNullInJson, faithful, again]

def plainJson : JsonLibrary Document where
  Unmarshal := .ok
  Marshal := id

/-- In `"tags":[null,{"image":""}]` the second element becomes empty. -/
def draft : Document where
  fields := .cons "tags" (.array (.cons null
    (.cons (.object (.cons "image" (.scalar "\"\"") .nil)) .nil))) .nil
  canonical := by simp [Fields.Canonical, Json.Canonical, Items.Canonical, Fields.get, null]

theorem draft_normal_form :
    ∃ o filteredMap, deleteNullInJson plainJson draft = .ok (o, filteredMap) ∧
      plainJson.Unmarshal o = .ok filteredMap ∧ NormalForm draft.fields filteredMap.fields ∧
      deleteNullInJson plainJson o = .ok (o, filteredMap) :=
  null_stripping_normal_form plainJson (fun _ => rfl) draft draft rfl

end Library

end OpenSearchOperator.Patch
