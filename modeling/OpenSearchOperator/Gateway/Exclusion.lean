import OpenSearchOperator.Api.Rules

/-! The exclude list of the OpenSearch cluster: the comma separated setting
`cluster.routing.allocation.exclude._name`, and the shards that it moves away. -/

namespace OpenSearchOperator.Gateway

open Api Data Effects

variable {name node val : String} {current : Option String}

/-- During a relocation the node field reads `source -> ip id target`. -/
def extractNodeName (fullNodeName : String) : String :=
  if fullNodeName = "" then ""
  else
    match fields (trimSpace fullNodeName) with
    | first :: _ => first
    | [] => trimSpace fullNodeName

def hasShardsOnNodeFromResponse (response : List CatShard) (nodeName : String) : Bool :=
  response.any (fun shard => extractNodeName shard.nodeName == nodeName)

def hasShardsOnNode (nodeName : String) : Prog (Bool × Option Failure) := do
  match ← catShards with
  | .error err => return (false, some (.api err))
  | .ok response => return (hasShardsOnNodeFromResponse response nodeName, none)

def appendExclusion (current : Option String) (nodeNameToExclude : String) : String :=
  match current with
  | none => nodeNameToExclude
  | some val =>
    if val = "" then nodeNameToExclude
    else
      let valArr := split ',' val
      join ',' (if valArr.contains nodeNameToExclude then valArr
        else valArr ++ [nodeNameToExclude])

def excludeValue (exclude : String) : Option String :=
  if exclude = "" then none else some exclude

def excludeSetting (exclude : String) : SettingsUpdate := .excludeName (excludeValue exclude)

def appendExcludeNodeHost (nodeNameToExclude : String) : Prog (Bool × Option Failure) := do
  match ← getClusterSettings with
  | .error err => return (false, some (.api err))
  | .ok response =>
    match ← putClusterSettings
        (excludeSetting (appendExclusion response.exclude nodeNameToExclude)) with
    | .error err => return (false, some (.api err))
    | .ok _ => return (true, none)

def excludedNames (current : Option String) : List String :=
  match current with
  | none => []
  | some val =>
    if val = "" then [] else ((split ',' val).map trimSpace).filter (fun name => name ≠ "")

def getExcludedNodeNames : Prog (Except ApiError (List String)) := do
  match ← getClusterSettings with
  | .error err => return .error err
  | .ok response => return .ok (excludedNames response.exclude)

def removeExclusion (val nodeNameToExclude : String) : String :=
  join ',' ((excludedNames (some val)).filter (fun name => name ≠ nodeNameToExclude))

def removeExcludeNodeHost (nodeNameToExclude : String) : Prog (Bool × Option Failure) := do
  match ← getClusterSettings with
  | .error err => return (false, some (.api err))
  | .ok response =>
    match response.exclude with
    | none => return (true, none)
    | some val =>
      if val = "" then return (true, none)
      else
        match ← putClusterSettings (excludeSetting (removeExclusion val nodeNameToExclude)) with
        | .error err => return (false, some (.api err))
        | .ok _ => return (true, none)

def ownsPod (sts : StatefulSet) (podName : String) : Bool :=
  (List.range sts.replicas.toNat).any (fun ord => replicaHostName sts ord == podName)

def podStaleInPools (cr : OpenSearchCluster) (pod : Pod) (podName : String) :
    List NodePool → Prog (Except Failure Bool)
  | [] => return .ok true
  | np :: pools => do
      match ← getStatefulSet (stsName cr np) with
      | .error err => return .error (.api err)
      | .ok sts =>
        if ownsPod sts podName then
          match pod.labels.get stsRevisionLabel with
          | none => return .error (.text ("pod " ++ podName ++
              " has no controller-revision-hash label"))
          | some rev => return .ok (rev == sts.status.updateRevision)
        else podStaleInPools cr pod podName pools

def isPodStale (cr : OpenSearchCluster) (podName : String) : Prog (Except Failure Bool) := do
  match ← getPod podName with
  | .error .notFound => return .ok true
  | .error err => return .error (.api err)
  | .ok pod => podStaleInPools cr pod podName cr.spec.nodePools

def cleanStaleNames (cr : OpenSearchCluster) : List String → Prog (Result × Option Failure)
  | [] => return ({}, none)
  | name :: names => do
      match ← isPodStale cr name with
      | .error err => return ({}, some err)
      | .ok false => cleanStaleNames cr names
      | .ok true =>
        let (ok, err) ← removeExcludeNodeHost name
        if err.isSome || !ok then
          return ({ requeue := true, requeueAfter := seconds 10 }, none)
        else cleanStaleNames cr names

def cleanStaleExclusionList (cr : OpenSearchCluster) : Prog (Result × Option Failure) := do
  match ← getExcludedNodeNames with
  | .error err => return ({}, some (.api err))
  | .ok excluded => cleanStaleNames cr excluded

section Vocabulary

def Listed (pod : String) (s : State) : Prop := pod ∈ excludedNames s.settings.exclude

instance (pod : String) (s : State) : Decidable (Listed pod s) :=
  inferInstanceAs (Decidable (_ ∈ _))

def listFailed : (op : Call) → op.Reply → Bool
  | .request .getClusterSettings, .error _ => true
  | .request (.putClusterSettings (.excludeName _)), .error _ => true
  | _, _ => false

def writesList : Call → Bool
  | .request (.putClusterSettings (.excludeName _)) => true
  | _ => false

theorem answer_exclude (choice : Choice) {s : State} {op : Call}
    (unlisted : writesList op = false) :
    (answer choice s op).2.settings.exclude = s.settings.exclude := by
  apply answer_keeps choice s op (·.settings.exclude = s.settings.exclude) rfl
  rintro req rfl
  cases req with
  | putClusterSettings settings =>
    cases settings with
    | excludeName value => cases unlisted
    | _ => rfl
  | _ => rw [(serve_frame s _).settings (by simp [Request.changes])]

end Vocabulary

section Calls

variable {cr : OpenSearchCluster}

theorem tunes_appendExcludeNodeHost (node : String) :
    (appendExcludeNodeHost node).OnlyCalls (Tunes true) := by
  refine (onlyCalls_asked (by rfl)).bindOk (fun _ => trivial) fun settings => ?_
  exact ⟨rfl, fun reply => by cases reply <;> trivial⟩

theorem tunes_removeExcludeNodeHost (node : String) :
    (removeExcludeNodeHost node).OnlyCalls (Tunes true) := by
  refine (onlyCalls_asked (by rfl)).bindOk (fun _ => trivial) fun settings => ?_
  change Program.OnlyCalls (I := api) (Tunes true) (match settings.exclude with
    | none => _
    | some val => _)
  split
  · trivial
  split
  · trivial
  · exact ⟨rfl, fun reply => by cases reply <;> trivial⟩

theorem reads_getExcludedNodeNames : getExcludedNodeNames.OnlyCalls Reads :=
  ⟨rfl, fun reply => by cases reply <;> trivial⟩

theorem reads_podStaleInPools (pod : Pod) (podName : String) {pools : List NodePool} :
    (podStaleInPools cr pod podName pools).OnlyCalls Reads := by
  induction pools with
  | nil => trivial
  | cons np pools ih =>
    refine (onlyCalls_asked (by rfl)).bindOk (fun _ => trivial) fun sts => ?_
    change Program.OnlyCalls (I := api) Reads (if ownsPod sts podName then _ else _)
    split
    · cases pod.labels.get stsRevisionLabel <;> trivial
    · exact ih

theorem reads_isPodStale (podName : String) : (isPodStale cr podName).OnlyCalls Reads := by
  refine ⟨rfl, fun reply => ?_⟩
  match reply with
  | .error .notFound => trivial
  | .error .alreadyExists => trivial
  | .error .conflict => trivial
  | .error .immutable => trivial
  | .error .invalid => trivial
  | .error .unavailable => trivial
  | .ok pod => exact reads_podStaleInPools pod podName

abbrev Excludes (op : Call) : Prop :=
  Gentle true op ∧ ∀ part, part ≠ .settings → Leaves part op

theorem excludes_of_reads {op : Call} (reads : Reads op) : Excludes op :=
  ⟨reads.gentle true, fun _ _ => by simp [Leaves, reads.changes]⟩

theorem excludes_cleanStaleNames (names : List String) :
    (cleanStaleNames cr names).OnlyCalls Excludes := by
  induction names with
  | nil => trivial
  | cons name names ih =>
    apply ((reads_isPodStale name).mono fun _ => excludes_of_reads).bind
    intro stale
    match stale with
    | .error err => trivial
    | .ok false => exact ih
    | .ok true =>
      apply ((tunes_removeExcludeNodeHost name).mono fun _ tunes =>
        ⟨tunes.gentle, fun _ => tunes.leaves⟩).bind
      intro ⟨ok, err⟩
      change Program.OnlyCalls (I := api) Excludes (if err.isSome || !ok then _ else _)
      split
      · trivial
      · exact ih

theorem excludes_cleanStaleExclusionList : (cleanStaleExclusionList cr).OnlyCalls Excludes := by
  apply (reads_getExcludedNodeNames.mono fun _ => excludes_of_reads).bindOk
  · exact fun _ => trivial
  intro excluded
  exact excludes_cleanStaleNames excluded

theorem gentle_cleanStaleExclusionList : (cleanStaleExclusionList cr).OnlyCalls (Gentle true) :=
  excludes_cleanStaleExclusionList.mono fun _ => And.left

end Calls

/-- A name that survives being one element of the list, as every name of a
Kubernetes object does. -/
def Plain (name : String) : Prop := ∀ c ∈ name.toList, c ≠ ',' ∧ isSpace c = false

instance (name : String) : Decidable (Plain name) := List.decidableBAll _ name.toList

theorem plain_digit {c : Char} (digit : c.isDigit = true) : c ≠ ',' ∧ isSpace c = false := by
  have bounds : 48 ≤ c.val.toNat ∧ c.val.toNat ≤ 57 := by
    simp only [Char.isDigit, Bool.and_eq_true, decide_eq_true_eq, UInt32.le_iff_toNat_le] at digit
    exact digit
  have far : ∀ d : Char, d.val.toNat < 48 ∨ 57 < d.val.toNat → c ≠ d := by
    intro d outside same
    subst same
    omega
  have low : ¬ ('\u2000' ≤ c) := by
    intro above
    have : (0x2000 : Nat) ≤ c.val.toNat := above
    omega
  refine ⟨far ',' (by decide), ?_⟩
  simp only [isSpace, low, decide_false, Bool.false_and, Bool.or_false, decide_eq_false_iff_not,
    List.mem_cons, List.not_mem_nil, or_false, not_or]
  refine ⟨?_, ?_, ?_, ?_, ?_, ?_, ?_, ?_, ?_, ?_, ?_, ?_, ?_, ?_⟩ <;> exact far _ (by decide)

theorem plain_ordinalName (ordinal : Int) (plain : Plain name) :
    Plain (ordinalName name ordinal) := by
  intro c member
  rcases mem_ordinalName member with letter | rfl | digit
  · exact plain c letter
  · decide
  · exact plain_digit digit

theorem excludedNames_value (list : String) :
    excludedNames (excludeValue list) = excludedNames (some list) := by
  rw [excludeValue]
  by_cases empty : list = ""
  · simp [empty, excludedNames]
  · rw [if_neg empty]

theorem mem_excludedNames (val name : String) :
    name ∈ excludedNames (some val) ↔
      name ≠ "" ∧ ∃ part ∈ split ',' val, trimSpace part = name := by
  by_cases empty : val = ""
  · subst empty
    have blank : split ',' "" = [""] := by decide
    have nothing : trimSpace "" = "" := by decide
    simp only [excludedNames, if_true, List.not_mem_nil, false_iff, blank, List.mem_singleton,
      exists_eq_left, nothing, not_and]
    exact fun filled same => filled same.symm
  · simp only [excludedNames, empty, if_false, List.mem_filter, List.mem_map, decide_eq_true_eq]
    exact and_comm

theorem mem_excludedNames_join {parts : List String} (some : parts ≠ [])
    (free : ∀ part ∈ parts, ',' ∉ part.toList) (name : String) :
    name ∈ excludedNames (excludeValue (join ',' parts)) ↔
      name ≠ "" ∧ ∃ part ∈ parts, trimSpace part = name := by
  rw [excludedNames_value, mem_excludedNames, split_join ',' parts some free]

theorem trimSpace_plain (plain : Plain name) : trimSpace name = name :=
  trimSpace_free name fun c member => (plain c member).2

private theorem appendExclusion_parts (current : Option String)
    (plain : Plain node) : ∃ parts, appendExclusion current node = join ',' parts ∧
      (∀ part ∈ parts, ',' ∉ part.toList) ∧ node ∈ parts ∧
      ∀ val, current = some val → val ≠ "" → ∀ part ∈ split ',' val, part ∈ parts := by
  have single : join ',' [node] = node := by
    simp [join]
  have free : ',' ∉ node.toList := fun member => (plain _ member).1 rfl
  cases current with
  | none => exact ⟨[node], single.symm, by simpa using free, by simp, by simp⟩
  | some val =>
    by_cases empty : val = ""
    · refine ⟨[node], ?_, by simpa using free, by simp, ?_⟩
      · simp [appendExclusion, empty, single]
      intro other same filled
      cases same
      exact absurd empty filled
    · by_cases present : node ∈ split ',' val
      · refine ⟨split ',' val, ?_, split_free ',' val, present, ?_⟩
        · simp [appendExclusion, empty, present]
        intro other same _
        cases same
        exact fun part member => member
      · refine ⟨split ',' val ++ [node], ?_, ?_, by simp, ?_⟩
        · simp [appendExclusion, empty, present]
        · intro part member
          rcases List.mem_append.mp member with old | new
          · exact split_free ',' val part old
          · rw [List.mem_singleton.mp new]
            exact free
        · intro other same _
          cases same
          exact fun part member => List.mem_append_left _ member

theorem appendExclusion_self (current : Option String) (plain : Plain node)
    (some : node ≠ "") : node ∈ excludedNames (excludeValue (appendExclusion current node)) := by
  obtain ⟨parts, same, free, member, _⟩ := appendExclusion_parts current plain
  rw [same, mem_excludedNames_join (List.ne_nil_of_mem member) free]
  exact ⟨some, node, member, trimSpace_plain plain⟩

theorem appendExclusion_keeps (plain : Plain node) (listed : name ∈ excludedNames current) :
    name ∈ excludedNames (excludeValue (appendExclusion current node)) := by
  obtain ⟨parts, same, free, member, old⟩ := appendExclusion_parts current plain
  cases current with
  | none => cases listed
  | some val =>
    have filled : val ≠ "" := by
      intro empty
      simp [excludedNames, empty] at listed
    obtain ⟨some, part, present, trimmed⟩ := (mem_excludedNames val name).mp listed
    rw [same, mem_excludedNames_join (List.ne_nil_of_mem member) free]
    exact ⟨some, part, old val rfl filled part present, trimmed⟩

theorem removeExclusion_keeps (other : name ≠ node) (listed : name ∈ excludedNames (some val)) :
    name ∈ excludedNames (excludeValue (removeExclusion val node)) := by
  let left := (excludedNames (some val)).filter (fun name => name ≠ node)
  have member : name ∈ left := List.mem_filter.mpr ⟨listed, by simpa using other⟩
  have free : ∀ part ∈ left, ',' ∉ part.toList := by
    intro part present comma
    have before := (mem_excludedNames val part).mp (List.mem_of_mem_filter present)
    obtain ⟨_, whole, piece, rfl⟩ := before
    exact split_free ',' val whole piece (mem_trimSpace ',' comma)
  change name ∈ excludedNames (excludeValue (join ',' left))
  rw [mem_excludedNames_join (List.ne_nil_of_mem member) free]
  obtain ⟨filled, whole, _, rfl⟩ := (mem_excludedNames val name).mp listed
  exact ⟨filled, _, member, trimSpace_trimSpace whole⟩

/-- A name on the list after a removal was on it before, and is another one. -/
theorem mem_removeExclusion
    (listed : name ∈ excludedNames (excludeValue (removeExclusion val node))) :
    name ∈ excludedNames (some val) ∧ name ≠ node := by
  let left := (excludedNames (some val)).filter (fun name => name ≠ node)
  change name ∈ excludedNames (excludeValue (join ',' left)) at listed
  have known : ∀ part ∈ left, part ∈ excludedNames (some val) ∧ part ≠ node := by
    intro part member
    have both := List.mem_filter.mp member
    exact ⟨both.1, by simpa using both.2⟩
  have free : ∀ part ∈ left, ',' ∉ part.toList := by
    intro part member comma
    obtain ⟨_, whole, piece, rfl⟩ := (mem_excludedNames val part).mp (known part member).1
    exact split_free ',' val whole piece (mem_trimSpace ',' comma)
  by_cases empty : left = []
  · have blank : excludeValue (join ',' left) = none := by
      rw [empty]
      decide
    rw [blank] at listed
    cases listed
  · obtain ⟨_, part, member, trimmed⟩ := (mem_excludedNames_join empty free name).mp listed
    obtain ⟨_, whole, _, same⟩ := (mem_excludedNames val part).mp (known part member).1
    have equal : part = name := by
      rw [← trimmed, ← same, trimSpace_trimSpace]
    subst equal
    exact known part member

/-- A name on the list after a node was appended was on it before, or is that node. -/
theorem mem_appendExclusion (plain : Plain node)
    (listed : name ∈ excludedNames (excludeValue (appendExclusion current node))) :
    name = node ∨ name ∈ excludedNames current := by
  have single : join ',' [node] = node := by
    simp [join]
  have free : ',' ∉ node.toList := fun member => (plain _ member).1 rfl
  have alone : name ∈ excludedNames (excludeValue node) → name = node := by
    intro member
    rw [← single, mem_excludedNames_join (by simp) (by simpa using free)] at member
    obtain ⟨_, part, here, trimmed⟩ := member
    rw [List.mem_singleton.mp here, trimSpace_plain plain] at trimmed
    exact trimmed.symm
  cases current with
  | none => exact Or.inl (alone listed)
  | some val =>
    by_cases empty : val = ""
    · rw [appendExclusion, empty] at listed
      exact Or.inl (alone listed)
    have shape : appendExclusion (some val) node = join ',' (if (split ',' val).contains node
        then split ',' val else split ',' val ++ [node]) := by
      simp [appendExclusion, empty]
    have pieces : ∀ part ∈ (if (split ',' val).contains node then split ',' val
        else split ',' val ++ [node]), part ∈ split ',' val ∨ part = node := by
      intro part member
      split at member
      · exact Or.inl member
      · exact (List.mem_append.mp member).imp_right List.mem_singleton.mp
    have some : (if (split ',' val).contains node then split ',' val
        else split ',' val ++ [node]) ≠ [] := by
      split
      case isTrue there => exact List.ne_nil_of_mem (List.contains_iff_mem.mp there)
      case isFalse => simp
    have clean : ∀ part ∈ (if (split ',' val).contains node then split ',' val
        else split ',' val ++ [node]), ',' ∉ part.toList := by
      intro part member
      rcases pieces part member with old | rfl
      · exact split_free ',' val part old
      · exact free
    rw [shape, mem_excludedNames_join some clean] at listed
    obtain ⟨filled, part, member, trimmed⟩ := listed
    rcases pieces part member with old | rfl
    · exact Or.inr ((mem_excludedNames val name).mpr ⟨filled, part, old, trimmed⟩)
    · rw [trimSpace_plain plain] at trimmed
      exact Or.inl trimmed.symm

end OpenSearchOperator.Gateway
