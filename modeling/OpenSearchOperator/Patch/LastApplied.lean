import OpenSearchOperator.Api.Objects
import OpenSearchOperator.Patch.NullStripping

/-! The configuration that was applied last, kept in an annotation of the object. One that is
too large is not written, and then the annotation still holds what it held before. -/

namespace OpenSearchOperator.Patch

open Api Data

section Labels

def delete (labels : Labels) (key : String) : Labels :=
  labels.filter fun entry => entry.1 != key

def assign (labels : Labels) (key value : String) : Labels :=
  (key, value) :: delete labels key

variable (labels : Labels) {key other value : String}

theorem get_assign : (assign labels key value).get key = some value := by
  simp [assign, Labels.get]

theorem get_delete_of_ne (apart : other ≠ key) :
    (delete labels key).get other = labels.get other := by
  simp only [Labels.get, delete, List.find?_filter]
  congr 2
  grind

theorem get_assign_of_ne (apart : other ≠ key) :
    (assign labels key value).get other = labels.get other := by
  rw [← get_delete_of_ne labels apart]
  simp [assign, Labels.get, apart.symm]

theorem assign_assign {new : String} :
    assign (assign (delete labels key) key value) key new = assign (delete labels key) key new := by
  simp [assign, delete, List.filter_filter]

end Labels

def MaxAnnotationSize : Nat := 256 * 1024

structure Archive (Bytes : Type) where
  length : Bytes → Nat
  ofString : String → Bytes
  encodeToString : Bytes → String
  decodeString : String → Option Bytes
  zip : Bytes → Bytes
  unzip : Bytes → Except String Bytes
  /-- Whether `http.DetectContentType` says `application/zip`. -/
  isZip : Bytes → Bool
  decode_encode : ∀ bytes, decodeString (encodeToString bytes) = some bytes
  unzip_zip : ∀ bytes, unzip (zip bytes) = .ok bytes
  isZip_zip : ∀ bytes, isZip (zip bytes) = true

structure Object (Body : Type) where
  annotations : Option Labels
  body : Body
  deriving DecidableEq, Repr

structure Annotator (Bytes Body : Type) where
  key : String
  archive : Archive Bytes
  json : JsonLibrary Bytes
  marshal : Object Body → Except String Bytes
  text_nonempty : ∀ document, 0 < archive.length (json.Marshal document)

variable {Bytes Body : Type} (a : Annotator Bytes Body)

section Source

def zipAndBase64EncodeAnnotation (original : Bytes) : String :=
  a.archive.encodeToString (a.archive.zip original)

def decodedValue (original : String) : Except String Bytes :=
  match a.archive.decodeString original with
  | some decoded => if a.archive.isZip decoded then a.archive.unzip decoded else .ok decoded
  | none => .ok (a.archive.ofString original)

def getOriginalConfiguration (obj : Object Body) : Except String (Option Bytes) :=
  match obj.annotations with
  | none => .ok none
  | some annots =>
    match annots.get a.key with
    | none => .ok none
    | some original => (decodedValue a original).map some

/-- The length of the encoded text is that in bytes, as all its characters are ASCII. -/
def setOriginalConfiguration (obj : Object Body) (original : Bytes) : Object Body :=
  if a.archive.length original < 1 then obj
  else
    let encoded := zipAndBase64EncodeAnnotation a original
    if encoded.length > MaxAnnotationSize then obj
    else { obj with annotations := some (assign (obj.annotations.getD []) a.key encoded) }

def bare (obj : Object Body) : Object Body :=
  let annots := delete (obj.annotations.getD []) a.key
  { obj with annotations := if annots = [] then none else some annots }

def annotated (obj : Object Body) (value : String) : Object Body :=
  { obj with annotations := some (assign (delete (obj.annotations.getD []) a.key) a.key value) }

def currentValue (obj : Object Body) : String :=
  ((obj.annotations.getD []).get a.key).getD ""

def getModifiedConfiguration (obj : Object Body) (annotate : Bool) :
    Except String Bytes × Object Body :=
  let original := currentValue a obj
  match a.marshal (bare a obj) with
  | .error err => (.error err, bare a obj)
  | .ok modified =>
    if annotate then
      let embedding := annotated a obj <| zipAndBase64EncodeAnnotation a modified
      match a.marshal embedding with
      | .error err => (.error err, embedding)
      | .ok modified => (.ok modified, annotated a obj original)
    else (.ok modified, annotated a obj original)

def setLastAppliedAnnotation (obj : Object Body) : Except String Unit × Object Body :=
  match getModifiedConfiguration a obj false with
  | (.error err, obj) => (.error err, obj)
  | (.ok modified, obj) =>
    match deleteNullInJson a.json modified with
    | .error err => (.error err, obj)
    | .ok (modifiedWithoutNulls, _) => (.ok (), setOriginalConfiguration a obj modifiedWithoutNulls)

end Source

def configuration (obj : Object Body) : Except String Bytes := do
  let modified ← a.marshal (bare a obj)
  let stripped ← deleteNullInJson a.json modified
  return stripped.1

def valueAfter (obj : Object Body) (applied : Bytes) : String :=
  let encoded := zipAndBase64EncodeAnnotation a applied
  if encoded.length > MaxAnnotationSize then currentValue a obj else encoded

theorem setOriginalConfiguration_annotated (obj : Object Body) {applied : Bytes}
    (filled : 0 < a.archive.length applied) :
    setOriginalConfiguration a (annotated a obj (currentValue a obj)) applied =
      annotated a obj (valueAfter a obj applied) := by
  have some_text : ¬a.archive.length applied < 1 := by omega
  rw [setOriginalConfiguration, if_neg some_text, valueAfter]
  by_cases large : (String.length <| zipAndBase64EncodeAnnotation a applied) > MaxAnnotationSize
  · simp [large]
  · simp [large, annotated, assign_assign]

/-- A call that succeeds has a configuration, and changes the annotation only. -/
theorem setLastApplied_ok_iff (obj updated : Object Body) :
    setLastAppliedAnnotation a obj = (.ok (), updated) ↔
      ∃ applied, configuration a obj = .ok applied ∧
        updated = annotated a obj (valueAfter a obj applied) := by
  simp only [getModifiedConfiguration, setLastAppliedAnnotation, Bool.false_eq_true, if_false,
    configuration, deleteNullInJson, bind, Except.bind, pure, Except.pure]
  cases a.marshal (bare a obj) with
  | error err => simp
  | ok modified =>
    cases read : a.json.Unmarshal modified with
    | error err => simp [read]
    | ok patchMap =>
      have filled := a.text_nonempty patchMap.withoutNulls
      simp [read, setOriginalConfiguration_annotated a obj filled, eq_comm]

theorem original_annotated {obj : Object Body} {value : String} :
    getOriginalConfiguration a (annotated a obj value) = (decodedValue a value).map some := by
  simp [getOriginalConfiguration, annotated, get_assign]

theorem decoded_encoded {original : Bytes} :
    (decodedValue a <| zipAndBase64EncodeAnnotation a original) = .ok original := by
  simp [decodedValue, zipAndBase64EncodeAnnotation, a.archive.decode_encode, a.archive.isZip_zip,
    a.archive.unzip_zip]

/-- After a call that succeeds the annotation stands for the configuration, and the others are
as before, exactly if the configuration is small enough when it is encoded, or the value that was
there (an empty one, if there was none) stands for it already. -/
theorem last_applied_current_iff (obj updated : Object Body)
    (done : setLastAppliedAnnotation a obj = (.ok (), updated)) :
    ∃ applied, configuration a obj = .ok applied ∧
      (((getOriginalConfiguration a updated = .ok (some applied) ∨
            getOriginalConfiguration a updated = .ok none) ∧
          ∀ other, other ≠ a.key →
            (updated.annotations.getD []).get other = (obj.annotations.getD []).get other) ↔
        (String.length <| zipAndBase64EncodeAnnotation a applied) ≤ MaxAnnotationSize ∨
          decodedValue a (currentValue a obj) = .ok applied) := by
  obtain ⟨applied, made, rfl⟩ := (setLastApplied_ok_iff a obj updated).mp done
  have others : ∀ value other, other ≠ a.key →
      ((annotated a obj value).annotations.getD []).get other =
        (obj.annotations.getD []).get other := by
    intro value other apart
    simp [annotated, get_assign_of_ne _ apart, get_delete_of_ne _ apart]
  have some_read : ∀ read : Except String Bytes,
      (read.map some = .ok (some applied) ∨ read.map some = .ok none) ↔ read = .ok applied := by
    rintro (err | bytes) <;> simp [Except.map]
  refine ⟨applied, made, ?_⟩
  rw [original_annotated, some_read, and_iff_left (others _), valueAfter]
  split
  case isTrue large => simp [show ¬ _ ≤ MaxAnnotationSize from not_le.mpr large]
  case isFalse small => simp [decoded_encoded, not_lt.mp small]

section Samples

def markedArchive : Archive (List Char) where
  length := List.length
  ofString := String.toList
  encodeToString := String.ofList
  decodeString text := some text.toList
  zip bytes := 'Z' :: bytes
  unzip bytes := .ok bytes.tail
  isZip bytes := bytes.head? == some 'Z'
  decode_encode := by simp
  unzip_zip := by simp
  isZip_zip := by simp

def markedJson : JsonLibrary (List Char) where
  Unmarshal bytes := .ok ⟨.cons "data" (.scalar (String.ofList bytes.tail)) .nil, by
    simp [Fields.Canonical, Json.Canonical, Fields.get]⟩
  Marshal document :=
    match document.fields.get "data" with
    | some (.scalar text) => 'J' :: text.toList
    | _ => ['J']

def dataAnnotator : Annotator (List Char) Nat where
  key := "opensearch.org/last-applied"
  archive := markedArchive
  json := markedJson
  marshal obj := .ok ('J' :: List.replicate obj.body 'x')
  text_nonempty document := by
    simp only [markedJson, markedArchive]
    split <;> simp

def grown (size : Nat) : Object Nat := ⟨some [("opensearch.org/last-applied", "ZJ")], size⟩

/-- With little data the annotation is renewed. -/
theorem small_annotation_current :
    (getOriginalConfiguration dataAnnotator (annotated dataAnnotator (grown 3) "ZJxxx") =
        .ok (some ['J', 'x', 'x', 'x']) ∨
      getOriginalConfiguration dataAnnotator (annotated dataAnnotator (grown 3) "ZJxxx") =
        .ok none) ∧
    ∀ other, other ≠ dataAnnotator.key →
      ((annotated dataAnnotator (grown 3) "ZJxxx").annotations.getD []).get other =
        ((grown 3).annotations.getD []).get other := by
  obtain ⟨applied, made, current⟩ := last_applied_current_iff dataAnnotator (grown 3) _
    (by decide : setLastAppliedAnnotation dataAnnotator (grown 3) =
      (.ok (), annotated dataAnnotator (grown 3) "ZJxxx"))
  have data : configuration dataAnnotator (grown 3) = .ok ['J', 'x', 'x', 'x'] := by decide
  cases data.symm.trans made
  exact current.mpr (Or.inl (by decide))

theorem configuration_grown (size : Nat) :
    configuration dataAnnotator (grown size) = .ok ('J' :: List.replicate size 'x') := by
  have kept : filteredMember (.scalar (String.ofList (List.replicate size 'x'))) =
      some (.scalar (String.ofList (List.replicate size 'x'))) := by
    have plain : ∀ c ∈ (String.ofList (List.replicate size 'x')).toList, c = 'x' := by simp
    have not_null : String.ofList (List.replicate size 'x') ≠ "null" := by
      intro same
      simp [same] at plain
    have not_empty : String.ofList (List.replicate size 'x') ≠ "\"\"" := by
      intro same
      simp [same] at plain
    simp [filteredMember, null, isZero, not_null, not_empty]
  simp [configuration, dataAnnotator, markedJson, deleteNullInJson, Document.withoutNulls,
    deleteNullInObj, kept, Fields.get, bind, Except.bind, pure, Except.pure, grown, bare]

theorem length_encoded_grown {size : Nat} :
    (String.length <| zipAndBase64EncodeAnnotation dataAnnotator ('J' :: List.replicate size 'x')) =
      size + 2 := by
  simp only [dataAnnotator, zipAndBase64EncodeAnnotation, markedArchive, String.length_ofList,
    List.length_cons, List.length_replicate]

/-- With 300000 bytes of data the annotation stays as it was, without any. -/
theorem large_annotation_stale :
    ∃ updated, setLastAppliedAnnotation dataAnnotator (grown 300000) = (.ok (), updated) ∧
      getOriginalConfiguration dataAnnotator updated = .ok (some ['J']) ∧
      configuration dataAnnotator (grown 300000) = .ok ('J' :: List.replicate 300000 'x') := by
  have made := configuration_grown 300000
  refine ⟨_, (setLastApplied_ok_iff _ _ _).mpr ⟨_, made, rfl⟩, ?_, made⟩
  rw [original_annotated, valueAfter, length_encoded_grown, if_pos (by decide)]
  rfl

end Samples

/-- What was annotated once is left as it is by further calls, also if it is too large. -/
theorem last_applied_settles (obj updated : Object Body)
    (done : setLastAppliedAnnotation a obj = (.ok (), updated)) :
    setLastAppliedAnnotation a updated = (.ok (), updated) := by
  obtain ⟨applied, made, rfl⟩ := (setLastApplied_ok_iff a obj updated).mp done
  have stripped : ∀ value, delete (assign (delete (obj.annotations.getD []) a.key) a.key value)
      a.key = delete (obj.annotations.getD []) a.key := by
    simp [assign, delete, List.filter_filter]
  refine (setLastApplied_ok_iff a _ _).mpr ⟨applied, ?_, ?_⟩
  · simpa [configuration, bare, annotated, stripped] using made
  · simp only [valueAfter, currentValue, annotated, stripped, Option.getD_some, get_assign]
    split <;> rfl

theorem small_annotation_settles :
    setLastAppliedAnnotation dataAnnotator (annotated dataAnnotator (grown 3) "ZJxxx") =
      (.ok (), annotated dataAnnotator (grown 3) "ZJxxx") :=
  last_applied_settles dataAnnotator (grown 3) _ (by decide)

end OpenSearchOperator.Patch
