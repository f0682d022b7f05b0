import OpenSearchOperator.Effects.History
import OpenSearchOperator.Reconcilers.ScalerPass

/-! Which node a scale-down removes: one that was excluded and then seen without
shards, as long as no shard listing fails while a pool waits to be drained. -/

namespace OpenSearchOperator.Reconcilers.Scaler

open Api Data Effects
open Gateway Helpers

section History

def readSettings : (op : Call) → op.Reply → Option TransientSettings
  | .request .getClusterSettings, .ok settings => some settings
  | _, _ => none

def wroteSettings : (op : Call) → op.Reply → Option SettingsUpdate
  | .request (.putClusterSettings settings), .ok _ => some settings
  | _, _ => none

def listedShards : (op : Call) → op.Reply → Option (List CatShard)
  | .request .catShards, .ok shards => some shards
  | _, _ => none

def listingFailed : (op : Call) → op.Reply → Bool
  | .request .catShards, .error _ => true
  | _, _ => false

def KeepsSize (sts : String) (e : ApiEvent) : Prop := e.after.size sts = e.before.size sts

def Appended (node : String) : List ApiEvent → Prop
  | put :: get :: _ => ∃ settings, readSettings get.op get.reply = some settings ∧
      wroteSettings put.op put.reply = some (excludeSetting (appendExclusion settings.exclude node))
  | _ => False

/-- The node was appended to the exclude list since the StatefulSet last changed its size. -/
def ExcludedSince (sts : String) (k : Int) (past : List ApiEvent) : Prop :=
  Since (KeepsSize sts) (Appended (ordinalName sts k)) past

/-- The newest event is a shard listing without the node, made after its exclusion. -/
def SeenEmpty (sts : String) (k : Int) : List ApiEvent → Prop
  | listing :: earlier => (∃ shards, listedShards listing.op listing.reply = some shards ∧
      hasShardsOnNodeFromResponse shards (ordinalName sts k) = false) ∧ ExcludedSince sts k earlier
  | [] => False

def DrainedSince (sts : String) (k : Int) (past : List ApiEvent) : Prop :=
  Since (KeepsSize sts) (SeenEmpty sts k) past

/-- If the event lowers a StatefulSet then by its last replica, and that one had been drained. -/
def RemovesDrained (e : ApiEvent) (earlier : List ApiEvent) : Prop :=
  ∀ sts r r', e.before.size sts = some r → e.after.size sts = some r' → r' < r →
    r = r' + 1 ∧ DrainedSince sts r' earlier

end History

/-- No shard listing fails while an entry is in the stage `Excluded`. -/
def ListingAnswered (e : ApiEvent) : Prop :=
  listingFailed e.op e.reply = true → ∀ x ∈ entries e.before, x.component = "Scaler" →
    x.status ≠ "Excluded"

def Watched (e : ApiEvent) : Prop := Rely e ∧ ListingAnswered e

theorem listedShards_of_replied {w : ApiWorld} {choice : Choice} {shards : List CatShard}
    (heard : replied w choice .catShards = .ok shards) :
    listedShards (asked w choice .catShards).op (asked w choice .catShards).reply =
      some shards := by
  change listedShards (.request .catShards) (replied w choice .catShards) = _
  rw [heard]
  rfl

def historyTracking : Tracking Watched where
  watches := False
  excluded sts k w := ExcludedSince sts k w.past
  drained sts k w := DrainedSince sts k w.past
  good w := Throughout RemovesDrained w.past
  relies _ watched := watched.1
  owned := nofun
  excluded_keep _ _ _ _ _ _ harmless excluded := Since.cons excluded harmless.1
  drained_keep _ _ _ _ _ _ harmless drained := Since.cons drained harmless.1
  good_keep _ _ _ _ lowers good := ⟨lowers, good⟩
  appended sts k w first second settings _ heard _ _ accepted := by
    apply since_mark
    refine ⟨settings, ?_, ?_⟩
    · change readSettings (.request .getClusterSettings) (replied w first .getClusterSettings) = _
      rw [heard]
      rfl
    · change wroteSettings (.request (.putClusterSettings _)) (replied _ second _) = _
      rw [accepted]
      rfl
  listed sts k w choice watched excluded either clear := by
    apply since_mark
    refine ⟨?_, excluded⟩
    cases heard : replied w choice .catShards with
    | ok shards => exact ⟨shards, listedShards_of_replied heard, clear shards heard⟩
    | error err =>
      have failed : listingFailed (asked w choice .catShards).op
          (asked w choice .catShards).reply = true := by
        change listingFailed (.request .catShards) (replied w choice .catShards) = true
        rw [heard]
        rfl
      rcases either with ⟨x, stored, scaler, stage⟩ | ⟨shards, answered⟩
      · exact absurd stage (watched.2 failed x stored scaler)
      · rw [heard] at answered
        cases answered

def threeNodes : ApiWorld where
  state :=
    { cluster :=
        { name := "logs", resourceVersion := 1
          spec := { general := ⟨"2.11.0", true⟩, confMgmt := ⟨true⟩, dashboards := ⟨false⟩
                    nodePools := [⟨"data", 2, ["data"], none, 1, "", ""⟩] }
          status := ⟨"RUNNING", [], "2.11.0", true, 0, "green"⟩ }
      statefulSets := Store.empty.put
        { name := "logs-data", labels := [(clusterLabel, "logs"), (nodePoolLabel, "data")]
          replicas := 3, selector := [], podManagementPolicy := .parallel
          volumeClaimTemplates := [], podTemplate := "", podEnv := "", deleting := false
          status := ⟨3, 3, 3, 3, "a", "a"⟩ }
      pods := .empty
      claims := .empty
      settings := ⟨none, none⟩
      health := ⟨"green", 0, 0, 0, []⟩
      shards := [⟨"books", "0", "p", "STARTED", "logs-data-2"⟩]
      explain := fun _ _ _ => ⟨"", "", "", "", []⟩
      indices := ["books"]
      clock := 0 }
  past := []

theorem drainedSince_listed {sts : String} {k : Int} {past : List ApiEvent}
    (drained : DrainedSince sts k past) :
    ∃ e ∈ past, ∃ shards, listedShards e.op e.reply = some shards := by
  obtain ⟨recent, older, rfl, marked, _⟩ := drained
  cases older with
  | nil => cases marked
  | cons listing older =>
    obtain ⟨⟨shards, listed, _⟩, _⟩ := marked
    exact ⟨listing, by simp, shards, listed⟩

/-- A run in which no shard listing fails at the wrong time removes drained nodes only. -/
theorem scale_down_removes_drained (start : ApiWorld) (passes : List (List Choice))
    (new : start.past = []) (idle : ∀ x ∈ entries start.state, ¬ Staged x)
    (each : EachPass scalerPass (fun w => Alike (entries w.state)) passes start)
    (watched : ∀ e ∈ (runs scalerPass passes start).past, Watched e)
    (later : List ApiEvent) (e : ApiEvent) (earlier : List ApiEvent)
    (split : (runs scalerPass passes start).past = later ++ e :: earlier) :
    RemovesDrained e earlier := by
  have begin_ : historyTracking.Inv start := by
    constructor
    · change Throughout RemovesDrained start.past
      rw [new]
      trivial
    · intro x stored staged
      exact absurd staged (idle x stored)
  have kept : historyTracking.Inv (runs scalerPass passes start) := by
    apply runs_keep_ready ?_ passes start begin_ each watched
    intro w inv alike
    exact safe_scalerPass inv alike
  exact Throughout.holds kept.1 later e earlier split

def emptied : ApiWorld := { threeNodes with state := { threeNodes.state with shards := [] } }

def allServed : List (List Choice) := undisturbed (.replicate 3 (.replicate 20 .served))

theorem drained_node_removed :
    ∃ later e earlier, (runs scalerPass allServed emptied).past = later ++ e :: earlier ∧
      e.before.size "logs-data" = some 3 ∧ e.after.size "logs-data" = some 2 ∧
      DrainedSince "logs-data" 2 earlier := by
  have regular : ∀ e ∈ (runs scalerPass allServed emptied).past,
      Regular e.prior ∧ listingFailed e.op e.reply = false := by decide
  have lowered : ∃ e ∈ (runs scalerPass allServed emptied).past,
      e.before.size "logs-data" = some 3 ∧ e.after.size "logs-data" = some 2 := by decide
  have watched : ∀ e ∈ (runs scalerPass allServed emptied).past, Watched e := by
    intro e happened
    constructor
    · exact rely_of_regular (undisturbed_before scalerPass _ emptied rfl e happened)
        (regular e happened).1
    intro failed
    rw [(regular e happened).2] at failed
    cases failed
  obtain ⟨e, happened, before, after⟩ := lowered
  obtain ⟨later, earlier, split⟩ := List.append_of_mem happened
  have removes := scale_down_removes_drained emptied allServed rfl nofun
    ⟨by decide, by decide, by decide, trivial⟩ watched later e earlier split
  exact ⟨later, e, earlier, split, before, after,
    (removes "logs-data" 3 2 before after (by decide)).2⟩

def listingFails : List (List Choice) :=
  undisturbed [.replicate 20 .served,
    .replicate 4 .served ++ .refused .unavailable :: .replicate 20 .served,
    .replicate 20 .served]

/-- One failed shard listing is enough to remove a node that holds a shard. -/
theorem undrained_node_removed : (∀ e ∈ (runs scalerPass listingFails threeNodes).past, Rely e) ∧
    ∃ later e earlier, (runs scalerPass listingFails threeNodes).past = later ++ e :: earlier ∧
      ¬ RemovesDrained e earlier := by
  have regular : ∀ e ∈ (runs scalerPass listingFails threeNodes).past, Regular e.prior := by
    decide
  have unlisted : ∀ e ∈ (runs scalerPass listingFails threeNodes).past,
      listedShards e.op e.reply = none := by decide
  have lowered : ∃ e ∈ (runs scalerPass listingFails threeNodes).past,
      e.before.size "logs-data" = some 3 ∧ e.after.size "logs-data" = some 2 := by decide
  constructor
  · intro e happened
    exact rely_of_regular (undisturbed_before scalerPass _ threeNodes rfl e happened)
      (regular e happened)
  · obtain ⟨e, happened, before, after⟩ := lowered
    obtain ⟨later, earlier, split⟩ := List.append_of_mem happened
    refine ⟨later, e, earlier, split, fun removes => ?_⟩
    have drained := (removes "logs-data" 3 2 before after (by decide)).2
    obtain ⟨listing, member, shards, listed⟩ := drainedSince_listed drained
    have inside : listing ∈ (runs scalerPass listingFails threeNodes).past := by
      rw [split]
      simp [member]
    rw [unlisted listing inside] at listed
    cases listed

end OpenSearchOperator.Reconcilers.Scaler
