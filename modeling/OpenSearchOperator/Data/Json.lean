import Mathlib.Data.String.Basic

/-! JSON documents with their fields in the order of the text, and what is left of that
order when the fields are sorted. -/

namespace OpenSearchOperator.Data

mutual

inductive Json where
  | scalar (text : String)
  | array (items : Items)
  | object (fields : Fields)
  deriving DecidableEq, Repr

inductive Items where
  | nil
  | cons (item : Json) (items : Items)
  deriving DecidableEq, Repr

inductive Fields where
  | nil
  | cons (key : String) (value : Json) (fields : Fields)
  deriving DecidableEq, Repr

end

/-- Of several fields with one name the last one counts. -/
def Fields.get (name : String) : Fields → Option Json
  | .nil => none
  | .cons key value fields => (fields.get name).or (if key = name then some value else none)

mutual

inductive Json.Same : Json → Json → Prop where
  | scalar (text : String) : Json.Same (.scalar text) (.scalar text)
  | array {items items' : Items} : Items.Same items items' →
      Json.Same (.array items) (.array items')
  | object {fields fields' : Fields} :
      (∀ name, fields.get name = none ↔ fields'.get name = none) →
      (∀ name value value', fields.get name = some value → fields'.get name = some value' →
        Json.Same value value') → Json.Same (.object fields) (.object fields')

inductive Items.Same : Items → Items → Prop where
  | nil : Items.Same .nil .nil
  | cons {item item' : Json} {items items' : Items} : Json.Same item item' →
      Items.Same items items' → Items.Same (.cons item items) (.cons item' items')

end

def Fields.insert (name : String) (new : Json) : Fields → Fields
  | .nil => .cons name new .nil
  | .cons key value fields =>
    if name < key then .cons name new (.cons key value fields)
    else if name = key then .cons key value fields
    else .cons key value (fields.insert name new)

variable (write : String → String)

mutual

def Json.sorted : Json → Json
  | .scalar text => .scalar (write text)
  | .array items => .array items.sorted
  | .object fields => .object fields.sorted

def Items.sorted : Items → Items
  | .nil => .nil
  | .cons item items => .cons item.sorted items.sorted

def Fields.sorted : Fields → Fields
  | .nil => .nil
  | .cons key value fields => fields.sorted.insert key value.sorted

end

theorem get_insert (name other : String) (new : Json) : ∀ fields : Fields,
    (fields.insert name new).get other =
      (fields.get other).or (if name = other then some new else none)
  | .nil => rfl
  | .cons key value fields => by
    have rest := get_insert name other new fields
    rw [Fields.insert]
    split
    · rfl
    split
    · grind [Fields.get]
    · grind [Fields.get]

theorem get_sorted (name : String) : ∀ fields : Fields,
    (fields.sorted write).get name = (fields.get name).map (Json.sorted write)
  | .nil => rfl
  | .cons key value fields => by
    rw [Fields.sorted, get_insert, get_sorted name fields, Fields.get]
    grind

def Fields.Ordered : Fields → Prop
  | .nil => True
  | .cons key _ fields => (∀ name, fields.get name ≠ none → key < name) ∧ fields.Ordered

theorem ordered_insert (name : String) (new : Json) : ∀ fields : Fields, fields.Ordered →
    (fields.insert name new).Ordered
  | .nil, _ => by simp [Fields.insert, Fields.Ordered, Fields.get]
  | .cons key value fields, ordered => by
    have rest := ordered_insert name new fields ordered.2
    rw [Fields.insert]
    split
    case isTrue below =>
      refine ⟨fun other here => ?_, ordered⟩
      have above := ordered.1 other
      have through : key < other → name < other := lt_trans below
      grind [Fields.get]
    case isFalse =>
      split
      · exact ordered
      refine ⟨fun other here => ?_, rest⟩
      rw [get_insert] at here
      have above := ordered.1 other
      have sides := lt_trichotomy name key
      grind

theorem ordered_sorted : ∀ fields : Fields, (fields.sorted write).Ordered
  | .nil => trivial
  | .cons _ _ fields => ordered_insert _ _ _ (ordered_sorted fields)

theorem fields_ext : ∀ {fields fields' : Fields}, fields.Ordered → fields'.Ordered →
    (∀ name, fields.get name = fields'.get name) → fields = fields'
  | .nil, .nil, _, _, _ => rfl
  | .nil, .cons key value rest, _, _, same => by
    have := same key
    grind [Fields.get]
  | .cons key value rest, .nil, _, _, same => by
    have := same key
    grind [Fields.get]
  | .cons key value rest, .cons key' value' rest', ordered, ordered', same => by
    have bottom : rest.get key = none := by grind [ordered.1 key, lt_irrefl key]
    have bottom' : rest'.get key' = none := by grind [ordered'.1 key', lt_irrefl key']
    have first := same key
    have second := same key'
    have above := ordered.1 key'
    have above' := ordered'.1 key
    have keys : key = key' := by
      rcases lt_trichotomy key key' with below | equal | below
      · grind [Fields.get, not_lt_of_gt below]
      · exact equal
      · grind [Fields.get, not_lt_of_gt below]
    subst keys
    have tails : rest = rest' := by
      apply fields_ext ordered.2 ordered'.2
      intro name
      have both := same name
      grind [Fields.get]
    grind [Fields.get]

mutual

/-- Documents that differ in the order of their fields only have one sorted form. -/
theorem Json.Same.sorted : ∀ {first second : Json}, first.Same second →
    first.sorted write = second.sorted write
  | _, _, .scalar _ => rfl
  | _, _, .array same => congrArg Json.array same.sorted
  | _, _, @Json.Same.object fields fields' keys values => by
    apply congrArg Json.object
    apply fields_ext (ordered_sorted write _) (ordered_sorted write _)
    intro name
    rw [get_sorted, get_sorted]
    cases first : fields.get name with
    | none => rw [(keys name).mp first]
    | some value =>
      cases second : fields'.get name with
      | none => grind
      | some value' => exact congrArg some (values name value value' first second).sorted

theorem Items.Same.sorted : ∀ {first second : Items}, first.Same second →
    first.sorted write = second.sorted write
  | _, _, .nil => rfl
  | _, _, .cons same rest => congrArg₂ Items.cons same.sorted rest.sorted

end

end OpenSearchOperator.Data
