import OpenSearchOperator.Api.Objects
import OpenSearchOperator.Data.Pieces

/-! The bytes of the additional volumes that go into the config hash of a pool. Only values of
the objects that a volume references directly are in them, one after another. -/

namespace OpenSearchOperator.Reconcilers.Configuration

open Api Data

/-- A map of keys to bytes, in the order of its keys. -/
structure KeyedBytes where
  entries : List (String × Bytes)
  ordered : entries.Pairwise (·.1 < ·.1)
  deriving DecidableEq

def KeyedBytes.keys (data : KeyedBytes) : List String := data.entries.map (·.1)

def KeyedBytes.values (data : KeyedBytes) : List Bytes := data.entries.map (·.2)

structure ConfigMap where
  data : KeyedBytes
  binaryData : KeyedBytes
  deriving DecidableEq

structure Secret where
  data : KeyedBytes
  deriving DecidableEq

inductive Ref where
  | configMap (name : String)
  | secret (name : String)
  deriving DecidableEq, Repr

abbrev Ref.Object : Ref → Type
  | .configMap _ => ConfigMap
  | .secret _ => Secret

instance : (ref : Ref) → DecidableEq ref.Object
  | .configMap _ => inferInstanceAs (DecidableEq ConfigMap)
  | .secret _ => inferInstanceAs (DecidableEq Secret)

def Ref.data : (ref : Ref) → ref.Object → KeyedBytes
  | .configMap _ => ConfigMap.data
  | .secret _ => Secret.data

/-- `projected` holds the config maps and secrets among the sources of a projected volume. -/
structure VolumeConfig where
  name : String
  configMap : Option String
  secret : Option String
  projected : List Ref
  restartPods : Bool
  deriving DecidableEq, Repr

def VolumeConfig.refs (volume : VolumeConfig) : List Ref :=
  (volume.configMap.map Ref.configMap).toList ++ (volume.secret.map Ref.secret).toList

/-- The volumes whose changes restart the pods, by name; of several with one name the last
one is meant each time. -/
def restartVolumes (volumes : List VolumeConfig) : List VolumeConfig :=
  let restarting := volumes.filter (·.restartPods)
  ((restarting.map (·.name)).mergeSort (fun a b => decide (a ≤ b))).filterMap fun name =>
    restarting.reverse.find? (·.name == name)

/-- An object that does not exist ends the volume, any other error the function. -/
def appendRefs (read : (ref : Ref) → Except ApiError ref.Object) : List Ref → Except ApiError Bytes
  | [] => .ok []
  | ref :: refs =>
    match read ref with
    | .error .notFound => .ok []
    | .error err => .error err
    | .ok object => (appendRefs read refs).map ((ref.data object).values.flatten ++ ·)

def appendVolumes (read : (ref : Ref) → Except ApiError ref.Object) :
    List VolumeConfig → Except ApiError Bytes
  | [] => .ok []
  | volume :: volumes =>
    match appendRefs read volume.refs with
    | .error err => .error err
    | .ok data => (appendVolumes read volumes).map (data ++ ·)

def createAdditionalVolumes (read : (ref : Ref) → Except ApiError ref.Object)
    (volumes : List VolumeConfig) : Except ApiError Bytes :=
  appendVolumes read (restartVolumes volumes)

abbrev Contents := (ref : Ref) → ref.Object

def dataOf (objects : Contents) (ref : Ref) : KeyedBytes := ref.data (objects ref)

variable {objects before after : Contents} {volumes : List VolumeConfig} {volume : VolumeConfig}

def hashedRefs (volumes : List VolumeConfig) : List Ref :=
  (restartVolumes volumes).flatMap VolumeConfig.refs

/-- The values that are hashed, in their order. -/
def hashed (objects : Contents) (volumes : List VolumeConfig) : List Bytes :=
  (hashedRefs volumes).flatMap fun ref => (dataOf objects ref).values

def Changed (volumes : List VolumeConfig) (before after : Contents) : Prop :=
  ∃ volume ∈ volumes, volume.restartPods = true ∧
    ∃ ref ∈ volume.refs ++ volume.projected, before ref ≠ after ref

instance (volumes : List VolumeConfig) (before after : Contents) :
    Decidable (Changed volumes before after) :=
  inferInstanceAs (Decidable (∃ volume ∈ volumes, _ ∧ ∃ ref ∈ volume.refs ++ volume.projected, _))

/-- The change is one of keys, of binary data or of projected sources, so that the values are
the same as before, or the bytes of the values are the same and cut at other places. -/
structure Overlooked (volumes : List VolumeConfig) (before after : Contents) : Prop where
  changed : Changed volumes before after
  alike : hashed before volumes = hashed after volumes ∨
    Recut (hashed before volumes) (hashed after volumes)

theorem appendRefs_ok {refs : List Ref} : appendRefs (fun ref => .ok (objects ref)) refs =
      .ok (refs.flatMap fun ref => (dataOf objects ref).values).flatten := by
  induction refs with
  | nil => rfl
  | cons ref refs ih => simp [appendRefs, dataOf, ih, Except.map]

theorem createAdditionalVolumes_ok :
    createAdditionalVolumes (fun ref => .ok (objects ref)) volumes =
      .ok (hashed objects volumes).flatten := by
  rw [createAdditionalVolumes, hashed, hashedRefs]
  induction restartVolumes volumes with
  | nil => rfl
  | cons volume volumes ih => simp [appendVolumes, appendRefs_ok, ih, Except.map]

section SameShape

theorem mem_restartVolumes (distinct : (volumes.map VolumeConfig.name).Nodup)
    (listed : volume ∈ volumes) (restarts : volume.restartPods = true) :
    volume ∈ restartVolumes volumes := by
  have restarting : volume ∈ (volumes.filter (·.restartPods)).reverse := by simp [listed, restarts]
  refine List.mem_filterMap.mpr ⟨volume.name, ?_, ?_⟩
  · rw [List.mem_mergeSort]
    exact List.mem_map_of_mem (List.mem_reverse.mp restarting)
  cases found : (volumes.filter (·.restartPods)).reverse.find? (·.name == volume.name) with
  | none =>
    have missing := List.find?_eq_none.mp found volume restarting
    simp at missing
  | some other =>
    have member := List.mem_of_find?_eq_some found
    have named : other.name = volume.name := by simpa using List.find?_some found
    have same := List.inj_on_of_nodup_map distinct
      (List.mem_of_mem_filter (List.mem_reverse.mp member))
      listed named
    rw [same]

theorem values_eq_of_flatMap {refs : List Ref}
    (lengths : ∀ ref, (dataOf before ref).values.length = (dataOf after ref).values.length)
    (same : (refs.flatMap fun ref => (dataOf before ref).values) =
      refs.flatMap fun ref => (dataOf after ref).values) :
    ∀ ref ∈ refs, (dataOf before ref).values = (dataOf after ref).values := by
  induction refs with
  | nil => simp
  | cons ref refs ih =>
    obtain ⟨here, rest⟩ := List.append_inj same (lengths ref)
    simpa using ⟨here, ih rest⟩

theorem KeyedBytes.ext {first second : KeyedBytes} (keys : first.keys = second.keys)
    (values : first.values = second.values) : first = second := by
  obtain ⟨entries, _⟩ := first
  obtain ⟨others, _⟩ := second
  obtain rfl : entries = others := by
    rw [← List.zip_unzip entries, ← List.zip_unzip others, List.unzip_eq_map, List.unzip_eq_map]
    exact congrArg₂ List.zip keys values
  rfl

/-- Where all keys and the lengths of all values stay as they are, a change of a value is seen. -/
theorem value_change_seen (distinct : (volumes.map VolumeConfig.name).Nodup)
    (keys : ∀ ref, (dataOf before ref).keys = (dataOf after ref).keys)
    (lengths : ∀ ref, (dataOf before ref).values.map List.length =
      (dataOf after ref).values.map List.length)
    (listed : volume ∈ volumes) (restarts : volume.restartPods = true) {ref : Ref}
    (direct : ref ∈ volume.refs) (changed : dataOf before ref ≠ dataOf after ref) :
    createAdditionalVolumes (fun ref => .ok (before ref)) volumes ≠
      createAdditionalVolumes (fun ref => .ok (after ref)) volumes := by
  simp only [createAdditionalVolumes_ok, ne_eq, Except.ok.injEq, flatten_eq_iff]
  rintro (same | recut)
  · have counts : ∀ ref, (dataOf before ref).values.length = (dataOf after ref).values.length :=
      fun ref => by simpa using congrArg List.length (lengths ref)
    have hashing : ref ∈ hashedRefs volumes :=
      List.mem_flatMap.mpr ⟨volume, mem_restartVolumes distinct listed restarts, direct⟩
    exact changed (KeyedBytes.ext (keys ref) (values_eq_of_flatMap counts same ref hashing))
  · apply (recut_iff.mp recut).2
    simp [hashed, List.map_flatMap, lengths]

end SameShape

def everywhere (data : KeyedBytes) : Contents
  | .configMap _ => ⟨data, ⟨[], .nil⟩⟩
  | .secret _ => ⟨data⟩

end OpenSearchOperator.Reconcilers.Configuration
