import Mathlib.Data.Set.Insert
import OpenSearchOperator.Effects.Calls
import OpenSearchOperator.Gateway.Exclusion
import OpenSearchOperator.Helpers.Paths

/-! The exclude list as a set of names. The setting is a string that may hold blanks, empty
parts and repetitions; what counts is the set of the names that can be read from it. -/

namespace OpenSearchOperator.Gateway

open Api Data Effects Helpers

section Settings

def ClusterSettingsExcludeBrokenPath : List String :=
  ["cluster", "routing", "allocation", "exclude", "_name"]

def transient (settings : TransientSettings) : Setting String :=
  let exclude := settings.exclude.map fun value =>
    ("exclude", Setting.group [("_name", .leaf value)])
  let enable := settings.enable.map fun value => ("enable", Setting.leaf value)
  match exclude.toList ++ enable.toList with
  | [] => .group []
  | allocation =>
    .group [("cluster", .group [("routing", .group [("allocation", .group allocation)])])]

/-- The path leads to the exclude list, where it is set, and nowhere else. -/
theorem findByPath_exclude (settings : TransientSettings) :
    findByPath (transient settings) ClusterSettingsExcludeBrokenPath =
      settings.exclude.map Setting.leaf := by
  obtain ⟨exclude, enable⟩ := settings
  cases exclude <;> cases enable <;> rfl

end Settings

section Calls

variable {node : String} {s t : State}

inductive ListCall where
  | append (nodeName : String)
  | remove (nodeName : String)
  deriving DecidableEq, Repr

namespace ListCall

def nodeName : ListCall → String
  | append nodeName => nodeName
  | remove nodeName => nodeName

def program : ListCall → Prog (Bool × Option Failure)
  | append nodeName => appendExcludeNodeHost nodeName
  | remove nodeName => removeExcludeNodeHost nodeName

def apply (names : Set String) : ListCall → Set String
  | append nodeName => insert nodeName names
  | remove nodeName => names \ {nodeName}

end ListCall

def nameSet (s : State) : Set String := {name | name ∈ excludedNames s.settings.exclude}

def SoleWriter (e : ApiEvent) : Prop := e.before.settings.exclude = e.prior.settings.exclude

theorem safe_getExclude (w : ApiWorld) : Ends SoleWriter getClusterSettings (fun reply later =>
      later.state.settings.exclude = w.state.settings.exclude ∧
        ∀ response, reply = .ok response → response.exclude = w.state.settings.exclude) w := by
  refine ⟨trivial, fun choice sole => ⟨?_, fun response told => ?_⟩⟩
  · exact (answer_exclude choice rfl).trans sole
  have told : (answer choice (w.arrive choice (.request .getClusterSettings)).before
      (.request .getClusterSettings)).1 = .ok response := told
  rw [answer_request] at told
  split at told
  · cases told
    exact sole
  · cases told
  · cases told

theorem safe_putExclude {value : Option String} (w : ApiWorld) :
    Ends SoleWriter (putClusterSettings (.excludeName value)) (fun reply later =>
      reply = .ok () → later.state.settings.exclude = value) w := by
  refine ⟨trivial, fun choice _ stored => ?_⟩
  rcases putExclude_cases w choice value with ⟨err, failed, _⟩ | ⟨_, effect⟩
  · cases failed.symm.trans stored
  · exact congrArg (fun s : State => s.settings.exclude) effect

theorem nameSet_append {current : Option String} (plain : Plain node)
    (filled : node ≠ "") (before : s.settings.exclude = current)
    (after : t.settings.exclude = excludeValue (appendExclusion current node)) :
    nameSet t = insert node (nameSet s) := by
  ext name
  show name ∈ excludedNames t.settings.exclude ↔
    name = node ∨ name ∈ excludedNames s.settings.exclude
  rw [before, after]
  constructor
  · exact mem_appendExclusion plain
  rintro (rfl | listed)
  · exact appendExclusion_self current plain filled
  · exact appendExclusion_keeps plain listed

theorem nameSet_remove {val : String} (before : s.settings.exclude = some val)
    (after : t.settings.exclude = excludeValue (removeExclusion val node)) :
    nameSet t = nameSet s \ {node} := by
  ext name
  show name ∈ excludedNames t.settings.exclude ↔
    name ∈ excludedNames s.settings.exclude ∧ name ≠ node
  rw [before, after]
  constructor
  · exact mem_removeExclusion
  · exact fun ⟨listed, other⟩ => removeExclusion_keeps other listed

theorem nameSet_empty (node : String) (empty : excludedNames s.settings.exclude = [])
    (same : t.settings.exclude = s.settings.exclude) : nameSet t = nameSet s \ {node} := by
  ext name
  show name ∈ excludedNames t.settings.exclude ↔
    name ∈ excludedNames s.settings.exclude ∧ name ≠ node
  rw [same, empty]
  simp

theorem safe_appendExcludeNodeHost (plain : Plain node) (filled : node ≠ "") (w : ApiWorld) :
    Ends SoleWriter (appendExcludeNodeHost node) (fun result later =>
      result = (true, none) → nameSet later.state = insert node (nameSet w.state)) w := by
  apply (safe_getExclude w).bindOk
  · intro err middle ⟨_, shown⟩
    exact nofun
  intro response middle ⟨_, shown⟩
  apply (safe_putExclude middle).bind
  intro reply later stored
  cases reply with
  | error err => exact nofun
  | ok _ =>
    intro _
    exact nameSet_append plain filled (shown response rfl).symm (stored rfl)

theorem safe_removeExcludeNodeHost (node : String) (w : ApiWorld) :
    Ends SoleWriter (removeExcludeNodeHost node) (fun result later =>
      result = (true, none) → nameSet later.state = nameSet w.state \ {node}) w := by
  apply (safe_getExclude w).bindOk
  · rintro err middle ⟨same, shown⟩
    exact nofun
  rintro response middle ⟨same, shown⟩
  have shown := shown response rfl
  dsimp only
  cases current : response.exclude with
  | none =>
    intro _
    refine nameSet_empty node ?_ same
    rw [← shown, current]
    rfl
  | some val =>
    dsimp only
    split
    · rename_i blank
      intro _
      refine nameSet_empty node ?_ same
      rw [← shown, current, excludedNames, if_pos blank]
    · apply (safe_putExclude middle).bind
      intro reply later stored
      cases reply with
      | error err => exact nofun
      | ok _ =>
        intro _
        exact nameSet_remove (shown.symm.trans current) (stored rfl)

theorem safe_listCall {call : ListCall} (plain : Plain call.nodeName) (filled : call.nodeName ≠ "")
    (w : ApiWorld) : Ends SoleWriter call.program (fun result later =>
      result = (true, none) → nameSet later.state = call.apply (nameSet w.state)) w := by
  cases call with
  | append node => exact safe_appendExcludeNodeHost plain filled w
  | remove node => exact safe_removeExcludeNodeHost node w

theorem safe_getExcludedNodeNames {w : ApiWorld} :
    Ends SoleWriter getExcludedNodeNames (fun reply _ => ∀ names,
      reply = .ok names → {name | name ∈ names} = nameSet w.state) w := by
  apply (safe_getExclude w).bind
  intro reply _ ⟨_, shown⟩
  cases reply with
  | error err => exact nofun
  | ok response =>
    intro names told
    cases told
    rw [nameSet, shown response rfl]

end Calls

/-- Calls that succeed do to the names what they are for, one after the other, whatever string
the setting holds at first. -/
theorem exclude_list_is_set (start : ApiWorld) (steps : List (ListCall × List Choice))
    (names : List String) (choices : List Choice)
    (plain : ∀ step ∈ steps, Plain step.1.nodeName ∧ step.1.nodeName ≠ "")
    (succeeded : AllYield (fun step => step.1.program) Prod.snd (· = (true, none)) steps start)
    (sole : ∀ e ∈ (exec getExcludedNodeNames choices
      (inTurn (fun step => step.1.program) Prod.snd steps start)).2.past, SoleWriter e)
    (read : (exec getExcludedNodeNames choices
      (inTurn (fun step => step.1.program) Prod.snd steps start)).1 = some (.ok names)) :
    {name | name ∈ names} =
      steps.foldl (fun set step => step.1.apply set) (nameSet start.state) := by
  have earlier : ∀ e ∈ (inTurn (fun step : ListCall × List Choice => step.1.program) Prod.snd steps
      start).past, SoleWriter e := fun e happened => sole e ((exec_past _ _ _).subset happened)
  have refined := inTurn_refines (fun step : ListCall × List Choice => step.1.program) Prod.snd
    nameSet (fun set step => step.1.apply set)
    (fun step member w => safe_listCall (plain step member).1 (plain step member).2 w) start
    succeeded earlier
  rw [← refined]
  exact ((safe_getExcludedNodeNames).outcome choices sole).1 _ read names rfl

def untidyState : State where
  cluster := ⟨"logs", 1, ⟨⟨"2.11.0", true⟩, ⟨false⟩, ⟨false⟩, []⟩,
    ⟨"RUNNING", [], "2.11.0", true, 0, ""⟩⟩
  statefulSets := .empty
  pods := .empty
  claims := .empty
  settings := ⟨some " data-0,data-1 ,,data-0", none⟩
  health := ⟨"green", 0, 0, 0, []⟩
  shards := []
  explain := fun _ _ _ => ⟨"", "", "", "", []⟩
  indices := []
  clock := 0

def untouched : Choice := {}

def tidying : List (ListCall × List Choice) :=
  [(.append "data-2", [untouched, untouched]), (.remove "data-0", [untouched, untouched])]

theorem untidy_list_is_set :
    {name | name ∈ ["data-1", "data-2"]} =
      insert "data-2" (nameSet untidyState) \ {"data-0"} := by
  apply exclude_list_is_set ⟨untidyState, []⟩ tidying ["data-1", "data-2"] [untouched]
  · intro step member
    simp only [tidying, List.mem_cons, List.not_mem_nil, or_false] at member
    rcases member with rfl | rfl
    · exact ⟨by decide, by decide⟩
    · exact ⟨by decide, by decide⟩
  · decide +kernel
  · have alone : ∀ e ∈ (exec (S := server) getExcludedNodeNames [untouched] (inTurn
        (fun step : ListCall × List Choice => step.1.program) Prod.snd tidying
        (⟨untidyState, []⟩ : ApiWorld))).2.past,
        e.before.settings.exclude = e.prior.settings.exclude := by
      decide +kernel
    exact alone
  · decide +kernel

end OpenSearchOperator.Gateway
