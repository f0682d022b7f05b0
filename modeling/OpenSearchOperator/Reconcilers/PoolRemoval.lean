import Mathlib.Tactic.MkIffOfInductiveProp
import OpenSearchOperator.Effects.Calls
import OpenSearchOperator.Reconcilers.ScalerPass

/-! A node pool that left the spec: its StatefulSet loses one node at a time, each
after it was excluded and holds no shards, until it is deleted with the last one. -/

namespace OpenSearchOperator.Reconcilers.Scaler.PoolRemoval

open Api Data Effects
open Gateway Helpers

section Vocabulary

def content (sts : StatefulSet) : StatefulSet :=
  { sts with status := ⟨0, 0, 0, 0, "", ""⟩, versioned := true }

def held (name : String) (s : State) : Option StatefulSet :=
  (s.statefulSets.get name).map content

@[mk_iff]
structure Unlisted (cr : OpenSearchCluster) (sts : StatefulSet) : Prop where
  owned : sts.labels.Matches [(clusterLabel, cr.name)] = true
  unlisted : stsInNodePools sts cr.spec.nodePools = false
  apart : ∀ nodePool ∈ cr.spec.nodePools, stsName cr nodePool ≠ sts.name

def lastNode (sts : StatefulSet) : String := replicaHostName sts (sts.replicas - 1)

def shrunk (sts : StatefulSet) : Option StatefulSet :=
  if sts.replicas = 1 then none else some { sts with replicas := sts.replicas - 1 }

def PoolsReady (cr : OpenSearchCluster) (e : ApiEvent) : Prop :=
  ∀ nodePool ∈ cr.spec.nodePools, e.op = .request (.getStatefulSet (stsName cr nodePool)) →
    ∀ sts ∈ e.before.statefulSets.get (stsName cr nodePool),
      sts.status.availableReplicas = sts.replicas

/-- What has to hold of a call so that the exclude list keeps the last node of a
StatefulSet. Nobody but the scaler touches that and the list, no call for the list
fails, and the pools that stay are ready. -/
@[mk_iff]
structure LeftAlone (cr : OpenSearchCluster) (name : String) (e : ApiEvent) : Prop where
  held : held name e.before = held name e.prior
  list : e.before.settings.exclude = e.prior.settings.exclude
  answered : listFailed e.op e.reply = false
  ready : PoolsReady cr e
  plain : ∀ sts ∈ e.before.statefulSets.items, Plain sts.name

/-- No call fails, nobody else touches the StatefulSet, and its last node never shows
up in a listing of the shards. -/
@[mk_iff]
structure Smooth (name : String) (e : ApiEvent) : Prop where
  held : held name e.before = held name e.prior
  served : e.choice.outcome = .served
  empty : e.op = .request .catShards → ∀ sts ∈ e.before.statefulSets.get name,
    hasShardsOnNodeFromResponse e.before.shards (lastNode sts) = false

def Nonnegative : Call → Prop
  | .request (.createStatefulSet sts) => 0 ≤ sts.replicas
  | .request (.updateStatefulSet sts) => 0 ≤ sts.replicas
  | _ => True

end Vocabulary

section Elsewhere

variable {sts : StatefulSet} {s : State} {op : Call}

def Elsewhere (name : String) : Call → Prop
  | .request (.createStatefulSet sts) => sts.name ≠ name
  | .request (.updateStatefulSet sts) => sts.name ≠ name
  | .request (.deleteStatefulSet other _) => other ≠ name
  | _ => True

theorem held_put {name : String} : held name { s with statefulSets := s.statefulSets.put sts } =
      if name = sts.name then some (content sts) else held name s := by
  simp only [held, Store.get_put]
  split <;> simp

theorem held_put_ne {name : String} (s : State) (other : sts.name ≠ name) :
    held name { s with statefulSets := s.statefulSets.put sts } = held name s := by
  rw [held_put, if_neg (Ne.symm other)]

theorem serve_held {name : String} (s : State) {req : Request}
    (elsewhere : Elsewhere name (.request req)) : held name (serve s req).2 = held name s := by
  cases req with
  | createStatefulSet sts =>
    rw [serve]
    split
    · rfl
    split
    · rfl
    · exact held_put_ne s elsewhere
  | updateStatefulSet sts =>
    rw [serve]
    split
    · rfl
    split
    · rfl
    split
    · exact held_put_ne s elsewhere
    · rfl
  | updateStatefulSetStatus sts =>
    rw [serve]
    split
    · rfl
    case h_2 current there =>
      have key : current.name = sts.name := Store.get_key _ _ _ there
      by_cases same : sts.name = name
      · change held name { s with statefulSets := s.statefulSets.put _ } = _
        rw [held_put, if_pos (key.trans same).symm, held, ← same, there]
        rfl
      · exact held_put_ne s (key ▸ same)
  | deleteStatefulSet other propagation =>
    rw [serve]
    split
    · rfl
    case h_2 current there =>
      split
      · change held name { s with statefulSets := s.statefulSets.remove other } = _
        rw [held, held, Store.get_remove_ne _ (Ne.symm elsewhere)]
      · have key : current.name = other := Store.get_key _ _ _ there
        exact held_put_ne s (key ▸ elsewhere)
  | _ => rw [held, held, (serve_frame s _).statefulSets (by simp [Request.changes])]

theorem answer_held {name : String} {choice : Choice}
    (elsewhere : Elsewhere name op) : held name (answer choice s op).2 = held name s := by
  apply answer_keeps choice s op (held name · = held name s) rfl
  rintro req rfl
  exact serve_held s elsewhere

theorem elsewhere_of_gentle {name : String} {lists : Bool}
    (gentle : Gentle lists op) : Elsewhere name op := by
  cases op with
  | request req => cases req <;> trivial
  | _ => trivial

theorem manages_elsewhere {name other : String} (different : other ≠ name) :
    Manages (Elsewhere name) other where
  tunes := fun _ tunes => elsewhere_of_gentle tunes.gentle
  reads := fun _ reads => elsewhere_of_gentle (reads.gentle true)
  status := fun _ => trivial
  creates := fun _ same here => different (same.symm.trans here)
  updates := fun _ same here => different (same.symm.trans here)

end Elsewhere

/-- What the scaler relies on. The exclude list is followed only if `lists`, and it is
only if `smooth` that no call fails and the last node shows up empty. -/
structure Spared (permit : ApiEvent → Prop) (name : String) (lists smooth : Prop) : Prop where
  held : ∀ e, permit e → held name e.before = held name e.prior
  answered : ∀ e, permit e → listFailed e.op e.reply = false
  list : lists → ∀ e, permit e → e.before.settings.exclude = e.prior.settings.exclude
  plain : lists → ∀ e, permit e → ∀ sts ∈ e.before.statefulSets.items, Plain sts.name
  served : smooth → ∀ e, permit e → e.choice.outcome = .served
  empty : smooth → ∀ e, permit e → e.op = .request .catShards →
    ∀ sts ∈ e.before.statefulSets.get name,
      hasShardsOnNodeFromResponse e.before.shards (lastNode sts) = false

structure Kept (lists : Prop) (name : String) (sts : Option StatefulSet) (node : Option String)
    (w : ApiWorld) : Prop where
  held : held name w.state = sts
  listed : lists → ∀ n ∈ node, Listed n w.state

theorem nobody {lists : Prop} {P : String → Prop} : lists → ∀ n ∈ (none : Option String), P n := by
  simp

variable {permit : ApiEvent → Prop} {cr : OpenSearchCluster} {name : String}
  {lists smooth : Prop} (spared : Spared permit name lists smooth)

section Kept

variable {sts : Option StatefulSet} {node : Option String} {w : ApiWorld} {choice : Choice}
  {op : Call} {program : Prog α} {α : Type}

include spared

theorem Kept.event (kept : Kept lists name sts node w) (allowed : permit (w.arrive choice op))
    (elsewhere : Elsewhere name op)
    (listed : lists → ∀ n ∈ node, Listed n (w.arrive choice op).before →
      Listed n (w.arrive choice op).after) :
    Kept lists name sts node (w.extend (w.arrive choice op)) := by
  constructor
  · exact (answer_held elsewhere).trans ((spared.held _ allowed).trans kept.held)
  intro watched n member
  apply listed watched n member
  rw [Listed, spared.list watched _ allowed]
  exact kept.listed watched n member

theorem Kept.unwritten (kept : Kept lists name sts node w) (allowed : permit (w.arrive choice op))
    (elsewhere : Elsewhere name op) (unwritten : writesList op = false) :
    Kept lists name sts node (w.extend (w.arrive choice op)) := by
  apply kept.event spared allowed elsewhere
  intro _ n _ before
  have same : (w.arrive choice op).after.settings.exclude =
      (w.arrive choice op).before.settings.exclude := answer_exclude _ unwritten
  rw [Listed, same]
  exact before

theorem Spared.stable : Stable permit (Kept lists name sts node) := by
  intro w choice op allowed kept unchanged
  constructor
  · change PoolRemoval.held name (w.arrive choice op).after = sts
    rw [unchanged]
    exact (spared.held _ allowed).trans kept.held
  · intro watched n member
    change Listed n (w.arrive choice op).after
    rw [unchanged, Listed, spared.list watched _ allowed]
    exact kept.listed watched n member

theorem keeps_elsewhere (only : program.OnlyCalls (Elsewhere name)) :
    Retains permit (Kept lists name sts none) program :=
  keeps_of_calls (fun _ _ => trivial) only fun _ _ _ elsewhere allowed kept =>
    kept.event spared allowed elsewhere nobody

theorem keeps_reads (only : program.OnlyCalls Reads) :
    Retains permit (Kept lists name sts node) program :=
  fun _ kept => safe_reads only spared.stable (fun _ _ => trivial) kept

theorem safe_read (req : Request) (reads : req.reads = true) (kept : Kept lists name sts node w) :
    Ends permit (request req) (fun reply w => Kept lists name sts node w ∧
      listFailed (.request req) reply = false ∧
      (∃ e, permit e ∧ e.op = .request req ∧ e.before = w.state) ∧
      ((¬ smooth ∧ ∃ err, reply = .error err ∧ err ≠ .notFound) ∨
        reply = (serve w.state req).1)) w := by
  apply safe_request _ trivial
  intro choice e allowed
  have unchanged := (quiet_request req reads).after_eq w choice
  refine ⟨spared.stable w choice _ allowed kept unchanged, spared.answered _ allowed,
    ⟨e, allowed, rfl, unchanged.symm⟩, ?_⟩
  have reply : e.reply = (answer choice e.before (.request req)).1 := rfl
  rw [World.extend_state, unchanged, reply, answer_request]
  cases outcome : choice.outcome with
  | served => exact Or.inr rfl
  | refused fault =>
    refine Or.inl ⟨fun calm => ?_, _, rfl, by cases fault <;> simp [Fault.error]⟩
    cases outcome.symm.trans (spared.served calm _ allowed)
  | lost =>
    refine Or.inl ⟨fun calm => ?_, _, rfl, by simp⟩
    cases outcome.symm.trans (spared.served calm _ allowed)

end Kept

section List

variable {sts : Option StatefulSet} {node : Option String} {w : ApiWorld}
  (kept : Kept lists name sts node w)

include spared kept

theorem safe_readList : Ends permit getClusterSettings
      (fun reply w => Kept lists name sts node w ∧ reply = .ok w.state.settings) w := by
  apply (safe_read spared .getClusterSettings rfl kept).mono
  rintro reply w ⟨kept, answered, _, ⟨_, err, rfl, _⟩ | rfl⟩
  · cases answered
  · exact ⟨kept, rfl⟩

theorem safe_writeList {value : Option String}
    (keeps : lists → ∀ n ∈ node, n ∈ excludedNames value) :
    Ends permit (putClusterSettings (.excludeName value))
      (fun reply w => Kept lists name sts node w ∧ reply = .ok () ∧
        w.state.settings.exclude = value) w := by
  apply safe_request _ trivial
  intro choice e allowed
  have answered : ∀ err, e.reply ≠ .error err := by
    intro err reply
    have answered := spared.answered _ allowed
    rw [show listFailed e.op e.reply = true from congrArg (listFailed e.op) reply] at answered
    cases answered
  rcases putExclude_cases w choice value with ⟨err, reply, _⟩ | ⟨reply | reply, after⟩
  · exact absurd reply (answered err)
  · have written : e.after.settings.exclude = value := by
      rw [after]
      rfl
    refine ⟨?_, reply, written⟩
    apply kept.event spared allowed trivial
    intro watched n member _
    rw [Listed, written]
    exact keeps watched n member
  · exact absurd reply (answered _)

theorem safe_takeOff (other : String) (apart : lists → ∀ n ∈ node, Plain n ∧ n ≠ other) :
    Ends permit (removeExcludeNodeHost other)
      (fun result w => Kept lists name sts node w ∧ result = (true, none)) w := by
  apply (safe_readList spared kept).bind
  intro reply w ⟨kept, answered⟩
  subst answered
  dsimp only
  split
  · exact ⟨kept, rfl⟩
  case h_2 val current =>
    split
    · exact ⟨kept, rfl⟩
    have keeps : lists → ∀ n ∈ node,
        n ∈ excludedNames (excludeValue (removeExclusion val other)) := by
      intro watched n member
      obtain ⟨plain, different⟩ := apart watched n member
      have before := kept.listed watched n member
      rw [Listed, current] at before
      exact removeExclusion_keeps different before
    apply (safe_writeList spared kept keeps).bind
    intro reply w ⟨kept, answered, _⟩
    subst answered
    exact ⟨kept, rfl⟩

theorem safe_putOn (other : String) (plain : lists → Plain other ∧ other ≠ "") :
    Ends permit (appendExcludeNodeHost other)
      (fun result w => Kept lists name sts node w ∧ result = (true, none) ∧
        (lists → Listed other w.state)) w := by
  apply (safe_readList spared kept).bind
  intro reply w ⟨kept, answered⟩
  subst answered
  have keeps : lists → ∀ n ∈ node, n ∈ excludedNames
      (excludeValue (appendExclusion w.state.settings.exclude other)) :=
    fun watched n member =>
      appendExclusion_keeps (plain watched).1 (kept.listed watched n member)
  have self : lists → other ∈ excludedNames
      (excludeValue (appendExclusion w.state.settings.exclude other)) :=
    fun watched => appendExclusion_self _ (plain watched).1 (plain watched).2
  apply (safe_writeList spared kept keeps).bind
  intro reply w' ⟨kept, answered, written⟩
  subst answered
  refine ⟨kept, rfl, ?_⟩
  intro watched
  rw [Listed, written]
  exact self watched

end List

section Prelude

variable {sts : Option StatefulSet}

include spared

theorem keeps_reconcileNodePool (snapshot : List ComponentStatus) (nodePool : NodePool)
    (apart : stsName cr nodePool ≠ name) : Retains permit (Kept lists name sts none)
      (reconcileNodePool cr snapshot nodePool) := by
  intro w kept
  apply (safe_getStatefulSet _ spared.stable (fun _ _ => trivial) kept).bind
  intro reply w ⟨kept, _, answered⟩
  rcases answered with ⟨err, rfl, _⟩ | ⟨currentSts, rfl, stored⟩
  · exact kept
  have different : currentSts.name ≠ name := by
    rw [Store.get_key _ _ _ stored]
    exact apart
  apply (keeps_reads spared (reads_readyReplicas nodePool) w kept).bindOk
  · exact fun _ _ kept => kept
  intro readyReplicas w kept
  dsimp only
  split
  · split
    · have only : ∀ f, (updateOpenSearchClusterStatus f snapshot).OnlyCalls
          (Elsewhere name) := fun f =>
        onlyCalls_updateOpenSearchClusterStatus f snapshot trivial fun _ _ => trivial
      apply (keeps_elsewhere spared (only _) w kept).bind
      intro result w kept
      exact kept
    · exact kept
  · apply (keeps_elsewhere spared ((manages_elsewhere different).scaleNodePool _ _ _ _) w kept).bind
    intro result w kept
    exact kept

theorem keeps_reconcileNodePools (pools : List NodePool) (snapshot : List ComponentStatus)
    (requeue : Bool) (results : CombinedResult)
    (apart : ∀ nodePool ∈ pools, stsName cr nodePool ≠ name) :
    Retains permit (Kept lists name sts none)
      (reconcileNodePools cr pools snapshot requeue results) := by
  induction pools generalizing snapshot requeue results with
  | nil => exact keeps_pure _
  | cons nodePool pools ih =>
    apply (keeps_reconcileNodePool spared snapshot nodePool (apart _ List.mem_cons_self)).bind
    intro ⟨⟨requeue, err⟩, snapshot⟩
    exact ih snapshot requeue _ fun other member => apart other (List.mem_cons_of_mem _ member)

theorem safe_nodePoolsReady (all : ∀ e, permit e → PoolsReady cr e) (pools : List NodePool)
    (known : ∀ nodePool ∈ pools, nodePool ∈ cr.spec.nodePools) (w : ApiWorld)
    (kept : Kept lists name sts none w) : Ends permit (nodePoolsReady cr pools)
      (fun reply w => Kept lists name sts none w ∧ reply ≠ .ok false) w := by
  induction pools generalizing w with
  | nil => exact ⟨kept, by simp⟩
  | cons nodePool pools ih =>
    apply (safe_read spared (.getStatefulSet (stsName cr nodePool)) rfl kept).bind
    rintro reply w ⟨kept, _, ⟨e, allowed, asked, before⟩, ⟨_, err, rfl, _⟩ | served⟩
    · exact ⟨kept, by simp⟩
    rcases answers_found (Or.inr served) with ⟨err, rfl, _⟩ | ⟨found, rfl, stored⟩
    · exact ⟨kept, by simp⟩
    rw [← before] at stored
    have available := all e allowed nodePool (known _ List.mem_cons_self) asked found stored
    simp only [available, ne_eq, not_true_eq_false, if_false]
    exact ih (fun other member => known other (List.mem_cons_of_mem _ member)) w kept

/-- As long as no call for the exclude list fails, cleaning it does not end the pass. -/
theorem safe_cleanStaleExclusionList (w : ApiWorld) (kept : Kept lists name sts none w) :
    Ends permit (cleanStaleExclusionList cr) (fun result w =>
      Kept lists name sts none w ∧ result.1.requeue = false) w := by
  have cleaned : ∀ names w, Kept lists name sts none w →
      Ends permit (cleanStaleNames cr names) (fun result w =>
        Kept lists name sts none w ∧ result.1.requeue = false) w := by
    intro names
    induction names with
    | nil => exact fun _ kept => ⟨kept, rfl⟩
    | cons other names ih =>
      intro w kept
      apply (keeps_reads spared (reads_isPodStale other) w kept).bind
      intro stale w kept
      match stale with
      | .error err => exact ⟨kept, rfl⟩
      | .ok false => exact ih w kept
      | .ok true =>
        apply (safe_takeOff spared kept other nobody).bind
        intro result w ⟨kept, done⟩
        subst done
        exact ih w kept
  apply (keeps_reads spared reads_getExcludedNodeNames w kept).bindOk
  · exact fun _ _ kept => ⟨kept, rfl⟩
  intro excluded w kept
  exact cleaned excluded w kept

end Prelude

section Others

variable {sts : Option StatefulSet} {node : Option String} {desired : StatefulSet}

include spared

theorem keeps_unwritten {α : Type} {program : Prog α} (only : program.OnlyCalls fun op =>
    Elsewhere name op ∧ writesList op = false) :
    Retains permit (Kept lists name sts node) program :=
  keeps_of_calls (fun _ _ => trivial) only fun _ _ _ elsewhere allowed kept =>
    kept.unwritten spared allowed elsewhere.1 elsewhere.2

theorem keeps_reconcileAbsent (other : desired.name ≠ name) :
    Retains permit (Kept lists name sts node) (reconcileResource desired .absent) := by
  intro w kept
  have deleted : Ends permit (deleteResource desired)
      (fun _ => Kept lists name sts node) w := by
    apply (safe_getStatefulSet _ spared.stable (fun _ _ => trivial) kept).bind
    intro reply w ⟨kept, _, answered⟩
    rcases answered with ⟨err, rfl, _⟩ | ⟨current, rfl, stored⟩
    · cases err <;> exact kept
    have different : current.name ≠ name := by
      rw [Store.get_key _ _ _ stored]
      exact other
    have deletion : (deleteStatefulSet current.name .background).OnlyCalls fun op =>
        Elsewhere name op ∧ writesList op = false := ⟨⟨different, rfl⟩, fun _ => trivial⟩
    apply (keeps_unwritten spared deletion w kept).bind
    intro reply w kept
    cases reply <;> exact kept
  exact deleted.bind fun _ _ kept => kept

theorem keeps_reconcilePresent (other : desired.name ≠ name) :
    Retains permit (Kept lists name sts node) (reconcileResource desired .present) :=
  keeps_unwritten spared (onlyCalls_reconcilePresent (fun _ => ⟨trivial, rfl⟩) ⟨other, rfl⟩
    (fun _ _ => ⟨trivial, rfl⟩) fun _ same _ => ⟨fun here => other (same.symm.trans here), rfl⟩)

omit spared in
theorem lastNode_filled (sts : StatefulSet) : lastNode sts ≠ "" := by
  intro empty
  have := congrArg String.length empty
  simp [lastNode, replicaHostName, ordinalName] at this

theorem keeps_removeStatefulSet (other : StatefulSet) (different : other.name ≠ name)
    (apart : lists → Plain other.name ∧ ∀ n ∈ node, Plain n ∧ n ≠ lastNode other) :
    Retains permit (Kept lists name sts node) (removeStatefulSet cr other) := by
  have takes : lists → ∀ n ∈ node, Plain n ∧ n ≠ lastNode other := fun watched => (apart watched).2
  intro w kept
  rw [removeStatefulSet]
  split
  · apply (keeps_reconcileAbsent spared different w kept).bind
    intro result w kept
    exact kept
  · have client : createClientForCluster.OnlyCalls Reads := ⟨rfl, fun _ => trivial⟩
    apply (keeps_reads spared client w kept).bindOk
    · exact fun _ _ kept => kept
    intro _ w kept
    have plain : lists → Plain (lastNode other) ∧ lastNode other ≠ "" :=
      fun watched => ⟨plain_ordinalName _ (apart watched).1, lastNode_filled other⟩
    apply (safe_putOn spared kept (lastNode other) plain).bind
    rintro result w ⟨kept, done, _⟩
    subst done
    have listing : (hasShardsOnNode (lastNode other)).OnlyCalls Reads :=
      ⟨rfl, fun reply => by cases reply <;> trivial⟩
    apply (keeps_reads spared listing w kept).bindDone
    · exact fun _ _ _ kept => kept
    rintro nodeNotEmpty w kept
    dsimp only
    split
    · exact kept
    have resized : Retains permit (Kept lists name sts node)
        (if other.replicas - 1 = 0 then reconcileResource other .absent
          else reconcileResource { other with replicas := other.replicas - 1 }
            .present) := by
      split
      · exact keeps_reconcileAbsent spared different
      · exact keeps_reconcilePresent spared different
    apply (resized w kept).bind
    rintro ⟨result, err, _⟩ w kept
    cases err with
    | some err => exact kept
    | none =>
      apply (safe_takeOff spared kept (lastNode other) takes).bind
      rintro result w ⟨kept, _⟩
      exact kept

end Others

section Own

theorem merge_self {labels : Labels} : labels.merge labels = labels := by
  have known : labels.filter (fun entry => (labels.get entry.1).isNone) = [] := by
    rw [List.filter_eq_nil_iff]
    intro entry member
    cases found : labels.find? (fun other => other.1 == entry.1) with
    | none => exact absurd (List.find?_eq_none.mp found entry member) (by simp)
    | some other => simp [Labels.get, found]
  rw [Labels.merge, known, List.append_nil]

theorem held_some {name : String} {s : State} {set : StatefulSet} (held : held name s = some set) :
    ∃ sts, s.statefulSets.get name = some sts ∧ content sts = set :=
  Option.map_eq_some_iff.mp held

theorem content_eq {first second : StatefulSet} (equal : content first = content second) :
    first.name = second.name ∧ first.deleting = second.deleting ∧
      first.labels = second.labels ∧ first.replicas = second.replicas := by
  simp only [content, StatefulSet.mk.injEq] at equal
  obtain ⟨name, labels, replicas, _, _, _, _, _, deleting, _⟩ := equal
  exact ⟨name, deleting, labels, replicas⟩

theorem lastNode_content (sts : StatefulSet) : lastNode (content sts) = lastNode sts := rfl

variable {set sts : StatefulSet} {node : Option String} {w : ApiWorld}

theorem serve_shrink (same : content sts = set) (named : sts.name = name)
    (many : 2 ≤ sts.replicas) {sent : StatefulSet}
    (shape : content sent = { set with replicas := set.replicas - 1 }) (s : State)
    (there : held name s = some set) : ∃ value, (serve s (.updateStatefulSet sent)).1 = .ok value ∧
      held name (serve s (.updateStatefulSet sent)).2 =
        some { set with replicas := set.replicas - 1 } := by
  obtain ⟨current, stored, fits⟩ := held_some there
  subst same
  have key : sent.name = name := (congrArg StatefulSet.name shape).trans named
  have fields : content sent = { content current with replicas := sts.replicas - 1 } := by
    rw [shape, fits]
    rfl
  simp only [content, StatefulSet.mk.injEq] at fields
  have bound : ¬ sent.replicas < 0 := by omega
  have immutable : sameImmutableFields current sent = true := by
    simp [sameImmutableFields, fields]
  rw [← key] at stored
  simp only [serve, stored, bound, immutable, if_true, if_false]
  refine ⟨(), trivial, ?_⟩
  rw [held_put, if_pos key.symm, ← shape]
  simp [content, fields]

theorem serve_delete {current : StatefulSet} (key : current.name = name) (s : State)
    (there : held name s = some set) :
    ∃ value, (serve s (.deleteStatefulSet current.name .background)).1 = .ok value ∧
      held name (serve s (.deleteStatefulSet current.name .background)).2 = none := by
  obtain ⟨stored, found, _⟩ := held_some there
  simp only [serve, key, found, if_true]
  exact ⟨(), trivial, by simp [held]⟩

include spared

theorem safe_readOwn (kept : Kept lists name (some set) node w) :
    Ends permit (getStatefulSet name) (fun reply w => Kept lists name (some set) node w ∧
        ((¬ smooth ∧ ∃ err, reply = .error err ∧ err ≠ .notFound) ∨
          ∃ sts, reply = .ok sts ∧ content sts = set)) w := by
  apply (safe_read spared (.getStatefulSet name) rfl kept).mono
  rintro reply w ⟨kept, _, _, failed | served⟩
  · exact ⟨kept, Or.inl failed⟩
  · obtain ⟨current, stored, same⟩ := held_some kept.held
    exact ⟨kept, Or.inr ⟨current, served.trans (congrArg found stored), same⟩⟩

/-- A request that changes the StatefulSet from `set` to `next` unless it fails. -/
theorem safe_change {req : Request} {next : Option StatefulSet}
    (effect : ∀ s, held name s = some set → ∃ value, (serve s req).1 = .ok value ∧
      held name (serve s req).2 = next) (kept : Kept lists name (some set) none w) :
    Ends permit (request req) (fun reply w =>
      (smooth ∨ ∃ value, reply = .ok value) → Kept lists name next none w) w := by
  apply safe_request _ trivial
  intro choice e allowed wanted
  obtain ⟨value, accepted, changed⟩ :=
    effect e.before ((spared.held _ allowed).trans kept.held)
  have after : e.after = (answer choice e.before (.request req)).2 := rfl
  have reply : e.reply = (answer choice e.before (.request req)).1 := rfl
  rw [answer_request] at after reply
  have served : choice.outcome = .served := by
    rcases wanted with calm | ⟨value, good⟩
    · exact spared.served calm _ allowed
    cases outcome : choice.outcome with
    | served => rfl
    | _ =>
      rw [outcome] at reply
      cases good.symm.trans reply
  rw [served] at after
  constructor
  · change PoolRemoval.held name e.after = next
    rw [after]
    exact changed
  · exact nobody

theorem safe_hasShards (same : content sts = set) (kept : Kept lists name (some set) node w) :
    Ends permit (hasShardsOnNode (lastNode sts)) (fun result w =>
      Kept lists name (some set) node w ∧ (smooth → result = (false, none))) w := by
  apply (safe_read spared .catShards rfl kept).bind
  rintro reply w ⟨kept, _, ⟨e, allowed, asked, before⟩, ⟨rough, err, rfl, _⟩ | rfl⟩
  · exact ⟨kept, fun calm => absurd calm rough⟩
  refine ⟨kept, fun calm => Prod.ext ?_ rfl⟩
  obtain ⟨current, stored, fits⟩ := held_some kept.held
  rw [← before] at stored
  have empty := spared.empty calm e allowed asked current stored
  rw [← lastNode_content sts, same, ← fits]
  exact before ▸ empty

variable (same : content sts = set) (named : sts.name = name)
  (kept : Kept lists name (some set) none w)

include same named kept

theorem safe_shrinkOwn (alive : sts.deleting = false) (many : 2 ≤ sts.replicas) : Ends permit
      (reconcileResource { sts with replicas := sts.replicas - 1 } .present)
      (fun result w => (smooth ∨ result.2.1 = none) →
        Kept lists name (some { set with replicas := set.replicas - 1 }) none w) w := by
  have exist : Ends permit
      (createIfNotExist { sts with replicas := sts.replicas - 1 }) (fun result w =>
        Kept lists name (some set) none w ∧ ((¬ smooth ∧ ∃ err, result = .error err) ∨
          ∃ current, result = .ok (some current) ∧ content current = set)) w := by
    have read := safe_readOwn spared kept
    rw [← named] at read
    apply read.bind
    intro reply w ⟨kept, outcome⟩
    rw [named] at kept
    rcases outcome with ⟨rough, err, rfl, there⟩ | ⟨current, rfl, fits⟩
    · cases err with
      | notFound => exact absurd rfl there
      | _ => exact ⟨kept, Or.inl ⟨rough, _, rfl⟩⟩
    · exact ⟨kept, Or.inr ⟨current, rfl, fits⟩⟩
  apply exist.bind
  intro result w ⟨kept, outcome⟩
  rcases outcome with ⟨rough, err, rfl⟩ | ⟨current, rfl, fits⟩
  · exact fun wanted => absurd wanted (by simp [rough])
  have equal : content current = content sts := fits.trans same.symm
  obtain ⟨_, deleting, labels, size⟩ := content_eq equal
  have mark : current.deleting = false := deleting.trans alive
  have different : current.replicas ≠ sts.replicas - 1 := by omega
  have shape : content { sts with
      replicas := sts.replicas - 1, labels := sts.labels.merge current.labels,
      versioned := true } = { set with replicas := set.replicas - 1 } := by
    rw [labels, merge_self, ← same]
    rfl
  simp only [mark, Bool.false_eq_true, if_false]
  apply @safe_sendUpdate permit (fun _ => True) (Kept lists name (some set) none) current _
    (fun err w => (smooth ∨ err = none) →
      Kept lists name (some { set with replicas := set.replicas - 1 }) none w)
    different (fun _ _ => trivial) spared.stable _ w kept
  intro w kept
  apply (safe_change spared (serve_shrink same named many shape) kept).mono
  intro reply w done
  cases reply with
  | error err => exact Or.inl ⟨err, rfl, fun _ wanted => done (wanted.imp_right nofun)⟩
  | ok value => exact Or.inr ⟨rfl, fun _ => done (Or.inr ⟨_, rfl⟩)⟩

theorem safe_deleteOwn : Ends permit (reconcileResource sts .absent)
      (fun result w => (smooth ∨ result.2.1 = none) → Kept lists name none none w) w := by
  have deleted : Ends permit (deleteResource sts)
      (fun err w => (smooth ∨ err = none) → Kept lists name none none w) w := by
    have read := safe_readOwn spared kept
    rw [← named] at read
    apply read.bind
    intro reply w ⟨kept, outcome⟩
    rw [named] at kept
    rcases outcome with ⟨rough, err, rfl, there⟩ | ⟨current, rfl, fits⟩
    · have failed : ∀ {failure : Failure}, ¬ (smooth ∨ some failure = none) := by
        simp [rough]
      cases err with
      | notFound => exact absurd rfl there
      | _ => exact fun wanted => absurd wanted failed
    · have key : current.name = name := by
        rw [← named, (content_eq (fits.trans same.symm)).1]
      apply (safe_change spared (serve_delete key) kept).bindOk
      · exact fun _ _ done => fun wanted => done (wanted.imp_right nofun)
      intro value w done
      exact fun _ => done (Or.inr ⟨_, rfl⟩)
  exact deleted.bind fun _ _ done => done

/-- One removal step: it ends with the node on the list, or without the node. -/
theorem safe_shrinkOrRemove (alive : sts.deleting = false) (populated : 1 ≤ sts.replicas) :
    Ends permit (shrinkOrRemove sts) (fun result w =>
      (smooth ∨ result.2 = none) → Kept lists name (shrunk set) none w) w := by
  have resized : Ends permit (if sts.replicas - 1 = 0
      then reconcileResource sts .absent
      else reconcileResource { sts with replicas := sts.replicas - 1 } .present)
      (fun result w => (smooth ∨ result.2.1 = none) → Kept lists name (shrunk set) none w) w := by
    have size : set.replicas = sts.replicas := same ▸ rfl
    split
    case isTrue last =>
      rw [shrunk, if_pos (by omega)]
      exact safe_deleteOwn spared same named kept
    case isFalse many =>
      rw [shrunk, if_neg (by omega)]
      exact safe_shrinkOwn spared same named kept alive (by omega)
  apply resized.bind
  rintro ⟨result, err, _⟩ w done
  cases err with
  | some err => exact fun wanted => done (wanted.imp_right nofun)
  | none =>
    apply (safe_takeOff spared (done (Or.inr rfl)) (lastNode sts) nobody).bind
    rintro result w ⟨kept, _⟩ _
    exact kept

def Settled (lists : Prop) (name : String) (set : StatefulSet) (w : ApiWorld) : Prop :=
  Kept lists name (some set) (some (lastNode set)) w ∨ Kept lists name (shrunk set) none w

def Took (lists smooth : Prop) (name : String) (set : StatefulSet) (fine : Prop) (w : ApiWorld) :
    Prop :=
  (smooth → Kept lists name (shrunk set) none w) ∧ (fine → Settled lists name set w)

theorem safe_removeStatefulSet (on : cr.spec.confMgmt.smartScaler = true)
    (plain : lists → Plain name) (alive : sts.deleting = false) (populated : 1 ≤ sts.replicas) :
    Ends permit (removeStatefulSet cr sts)
      (fun result => Took lists smooth name set (result.2 = none)) w := by
  rw [removeStatefulSet]
  simp only [on, Bool.not_true, Bool.false_eq_true, if_false]
  apply (safe_read spared .createClient rfl kept).bind
  rintro reply w ⟨kept, _, _, ⟨rough, err, rfl, _⟩ | rfl⟩
  · exact ⟨fun calm => absurd calm rough, by simp⟩
  dsimp only [serve]
  have fits : lists → Plain (lastNode sts) ∧ lastNode sts ≠ "" := fun watched =>
    ⟨plain_ordinalName _ (named ▸ plain watched), lastNode_filled sts⟩
  apply (safe_putOn spared kept (lastNode sts) fits).bind
  rintro result w ⟨kept, done, listed⟩
  subst done
  have both : Kept lists name (some set) (some (lastNode set)) w := by
    refine ⟨kept.held, fun watched n member => ?_⟩
    have here : n = lastNode sts := by
      rw [← lastNode_content, same]
      exact (Option.some.inj member).symm
    exact here ▸ listed watched
  apply (safe_hasShards spared same both).bindDone
  · rintro nodeNotEmpty err w ⟨both, empty⟩
    exact ⟨fun calm => absurd (empty calm) (by simp), by simp⟩
  rintro nodeNotEmpty w ⟨both, empty⟩
  dsimp only
  split
  case isTrue full =>
    refine ⟨fun calm => ?_, fun _ => Or.inl both⟩
    cases full.symm.trans (congrArg Prod.fst (empty calm))
  case isFalse =>
    apply (safe_shrinkOrRemove spared same named ⟨both.held, nobody⟩ alive populated).mono
    intro result w done
    exact ⟨fun calm => done (Or.inl calm), fun fine => Or.inr (done (Or.inr fine))⟩

end Own

section Pass

variable {set : StatefulSet} {w : ApiWorld}

theorem combine_err (results : CombinedResult) (result : Option Result) (err : Option Failure) :
    (results.combine result err).err = none ↔ results.err = none ∧ err = none := by
  have errors : (results.combineErr err).err = none ↔ results.err = none ∧ err = none := by
    obtain ⟨earlier, first⟩ := results
    cases first <;> cases err <;> simp [CombinedResult.combineErr]
  rw [← errors]
  cases result <;> rfl

theorem returns_removeUnlisted (stsList : List StatefulSet) (results : CombinedResult) :
    (removeUnlisted cr stsList results).Returns fun final =>
      final.err = none → results.err = none := by
  induction stsList generalizing results with
  | nil => exact id
  | cons sts stsList ih =>
    rw [removeUnlisted]
    split
    · exact ih results
    apply Program.returns_bind _ _ (Program.returns_any _)
    rintro ⟨result, err⟩ _
    apply (ih _).mono
    intro final earlier fine
    exact ((combine_err _ _ _).mp (earlier fine)).1

theorem lastNode_ne {sts : StatefulSet} (other : sts.name ≠ set.name)
    (dashless : ∀ base : String, set.name ≠ base ++ "-") (populated : 1 ≤ set.replicas) :
    lastNode set ≠ lastNode sts := by
  obtain ⟨i, index⟩ := Int.eq_ofNat_of_zero_le (show 0 ≤ set.replicas - 1 by omega)
  rw [lastNode, replicaHostName, index]
  exact ordinalName_ne i (Ne.symm other) dashless

include spared

theorem keeps_removeUnlisted {sts : Option StatefulSet} {node : Option String}
    (stsList : List StatefulSet) (results : CombinedResult)
    (others : ∀ other ∈ stsList, other.name ≠ name)
    (apart : lists → ∀ other ∈ stsList, Plain other.name ∧
      ∀ n ∈ node, Plain n ∧ n ≠ lastNode other) : Retains permit (Kept lists name sts node)
      (removeUnlisted cr stsList results) := by
  induction stsList generalizing results with
  | nil => exact keeps_pure _
  | cons head stsList ih =>
    have rest := fun results => ih results
      (fun other member => others other (List.mem_cons_of_mem _ member))
      (fun watched other member => apart watched other (List.mem_cons_of_mem _ member))
    rw [removeUnlisted]
    split
    · exact rest results
    apply (keeps_removeStatefulSet spared head (others _ List.mem_cons_self)
      fun watched => apart watched _ List.mem_cons_self).bind
    rintro ⟨result, err⟩
    exact rest _

@[mk_iff]
structure Leaving (cr : OpenSearchCluster) (set : StatefulSet) : Prop extends Unlisted cr set where
  on : cr.spec.confMgmt.smartScaler = true
  alive : set.deleting = false
  populated : 1 ≤ set.replicas

variable (leaving : Leaving cr set) (named : set.name = name) (plain : lists → Plain name)
  (dashless : ∀ base : String, name ≠ base ++ "-") (kept : Kept lists name (some set) none w)

include leaving named plain dashless kept

theorem safe_removeUnlisted (stsList : List StatefulSet) (results : CombinedResult)
    (distinct : (stsList.map StatefulSet.name).Nodup) (present : ∃ sts ∈ stsList, content sts = set)
    (plains : lists → ∀ sts ∈ stsList, Plain sts.name) :
    Ends permit (removeUnlisted cr stsList results)
      (fun final => Took lists smooth name set (final.err = none)) w := by
  induction stsList generalizing results w with
  | nil =>
    obtain ⟨_, impossible, _⟩ := present
    cases impossible
  | cons head stsList ih =>
    obtain ⟨sts, member, same⟩ := present
    rw [List.map_cons, List.nodup_cons] at distinct
    have key : sts.name = name := (congrArg StatefulSet.name same).trans named
    rcases List.mem_cons.mp member with rfl | later
    · have others : ∀ other ∈ stsList, other.name ≠ name := by
        intro other member here
        exact distinct.1 (key.trans here.symm ▸ List.mem_map_of_mem member)
      have behind : ∀ node : Option String, (∀ n ∈ node, n = lastNode set) → lists →
          ∀ other ∈ stsList,
          Plain other.name ∧ ∀ n ∈ node, Plain n ∧ n ≠ lastNode other := by
        intro node last watched other member
        refine ⟨plains watched other (List.mem_cons_of_mem _ member), fun n here => ?_⟩
        rw [last n here]
        refine ⟨plain_ordinalName _ (named ▸ plain watched), ?_⟩
        exact lastNode_ne (named ▸ others other member) (named ▸ dashless) leaving.populated
      have outside : stsInNodePools sts cr.spec.nodePools = false := by
        have labels : stsInNodePools (content sts) cr.spec.nodePools = false :=
          same ▸ leaving.unlisted
        exact labels
      rw [removeUnlisted]
      simp only [outside, Bool.false_eq_true, if_false]
      apply (safe_removeStatefulSet spared same key kept leaving.on plain
        (same ▸ leaving.alive : (content sts).deleting = false)
        (same ▸ leaving.populated : 1 ≤ (content sts).replicas)).bind
      rintro ⟨result, err⟩ w ⟨calmly, fine⟩
      have gone : Retains permit (Kept lists name (shrunk set) none)
          (removeUnlisted cr stsList (results.combine result err)) :=
        keeps_removeUnlisted spared stsList _ others (behind none (nobody trivial))
      have settled : Retains permit (Settled lists name set)
          (removeUnlisted cr stsList (results.combine result err)) :=
        (keeps_removeUnlisted spared stsList _ others
          (behind (some (lastNode set)) fun n here => (Option.some.inj here).symm)).or gone
      apply (((Ends.imp fun calm => gone w (calmly calm)).and (Ends.imp fun clean =>
        settled w (fine clean))).returns (returns_removeUnlisted stsList _)).mono
      rintro final w ⟨earlier, calmly, fine⟩
      exact ⟨calmly, fun clean => fine ((combine_err _ _ _).mp (earlier clean)).2⟩
    · have different : head.name ≠ name := by
        intro here
        exact distinct.1 (here.trans key.symm ▸ List.mem_map_of_mem later)
      have rest := fun results {w} (kept : Kept lists name (some set) none w) =>
        ih kept results distinct.2 ⟨sts, later, same⟩
          fun watched other member => plains watched other (List.mem_cons_of_mem _ member)
      rw [removeUnlisted]
      split
      · exact rest results kept
      apply (keeps_removeStatefulSet spared head different
        (fun watched => ⟨plains watched _ List.mem_cons_self, nobody watched⟩) w kept).bind
      rintro ⟨result, err⟩ w kept
      exact rest _ kept

theorem safe_cleanupStatefulSets (results : CombinedResult) :
    Ends permit (cleanupStatefulSets cr results)
      (fun final => Took lists smooth name set (final.err = none)) w := by
  apply (safe_read spared (.listStatefulSets [(clusterLabel, cr.name)]) rfl kept).bind
  rintro reply w ⟨kept, _, ⟨e, allowed, _, before⟩, ⟨rough, err, rfl, _⟩ | rfl⟩
  · refine ⟨fun calm => absurd calm rough, fun clean => ?_⟩
    have both := (combine_err results (some {}) (some (.api err))).mp clean
    cases both.2
  · obtain ⟨sts, stored, same⟩ := held_some kept.held
    have owned : sts.labels.Matches [(clusterLabel, cr.name)] = true :=
      (same ▸ leaving.owned : (content sts).labels.Matches [(clusterLabel, cr.name)] = true)
    refine safe_removeUnlisted spared leaving named plain dashless kept _ results ?_
      ⟨sts, ?_, same⟩ ?_
    · exact w.state.statefulSets.distinct.sublist (List.filter_sublist.map _)
    · exact List.mem_filter.mpr ⟨Store.get_mem _ stored, owned⟩
    · intro watched other member
      exact spared.plain watched e allowed other (before ▸ (List.mem_filter.mp member).1)

theorem safe_reconcile (all : ∀ e, permit e → PoolsReady cr e) :
    Ends permit (reconcile cr) (fun result w => result.1.2 = none → Settled lists name set w)
      w := by
  have apart : ∀ nodePool ∈ cr.spec.nodePools, stsName cr nodePool ≠ name := named ▸ leaving.apart
  have pools : ∀ w, Kept lists name (some set) none w → Ends permit
      (reconcilePools cr) (fun result w => result.1.2 = none → Settled lists name set w) w := by
    intro w kept
    apply (keeps_reconcileNodePools spared cr.spec.nodePools _ _ _ apart w kept).bind
    rintro ⟨⟨requeue, results⟩, snapshot⟩ w kept
    apply (safe_nodePoolsReady spared all cr.spec.nodePools (fun _ member => member) w kept).bind
    rintro ready w ⟨kept, waiting⟩
    rcases ready with err | _ | _
    · intro clean
      have both := (combine_err _ (some {}) (some (.api err))).mp clean
      cases both.2
    · exact absurd rfl waiting
    · apply (safe_cleanupStatefulSets spared leaving named plain dashless kept _).bind
      rintro final w ⟨_, fine⟩
      exact fine
  rw [reconcile]
  split
  · have client : createClientForCluster.OnlyCalls Reads := ⟨rfl, fun _ => trivial⟩
    apply (keeps_reads spared client w kept).bindOk
    · exact fun _ w kept => pools w kept
    intro _ w kept
    apply (safe_cleanStaleExclusionList spared w kept).bindDone
    · rintro result err w ⟨kept, onward⟩
      simp
    rintro result w ⟨kept, onward⟩
    have proceeds : ¬ result.requeue = true := Bool.eq_false_iff.mp onward
    simp only [Option.isSome_none, Bool.false_eq_true, if_false]
    rw [if_neg proceeds]
    exact pools w kept
  · exact pools w kept

end Pass

section Sizes

variable {sts : StatefulSet}

theorem nonnegative_of_leaves {op : Call} (leaves : Leaves .statefulSets op) : Nonnegative op := by
  cases op with
  | request req => cases req <;> trivial
  | _ => trivial

theorem removes_nonnegative (populated : 1 ≤ sts.replicas) : Removes Nonnegative sts where
  tunes := fun _ tunes => nonnegative_of_leaves (tunes.leaves nofun)
  reads := fun _ reads => nonnegative_of_leaves (by simp [reads.changes])
  deletes := fun _ => trivial
  creates := show 0 ≤ sts.replicas - 1 by omega
  updates := fun sent size => show 0 ≤ sent.replicas by omega

end Sizes

section Runs

theorem spared_leftAlone (cr : OpenSearchCluster) (name : String) :
    Spared (LeftAlone cr name) name True False where
  held := fun _ left => left.held
  answered := fun _ left => left.answered
  list := fun _ _ left => left.list
  plain := fun _ _ left => left.plain
  served := fun impossible => impossible.elim
  empty := fun impossible => impossible.elim

theorem spared_smooth (name : String) : Spared (Smooth name) name False True where
  held := fun _ smooth => smooth.held
  answered := by
    intro e smooth
    obtain ⟨prior, choice, op⟩ := e
    have served : choice.outcome = .served := smooth.served
    have reply : (⟨prior, choice, op⟩ : ApiEvent).reply =
        (answer choice (disturb choice prior) op).1 := rfl
    rw [reply]
    cases op with
    | request req =>
      rw [answer_request, served]
      cases req with
      | putClusterSettings settings => cases settings <;> rfl
      | _ => rfl
    | _ => rfl
  list := fun impossible => impossible.elim
  plain := fun impossible => impossible.elim
  served := fun _ _ smooth => smooth.served
  empty := fun _ _ smooth => smooth.empty

def removalStep (step : OpenSearchCluster × List Choice) : Prog CombinedResult :=
  cleanupStatefulSets step.1 {}

def removalSteps (steps : List (OpenSearchCluster × List Choice)) (w : ApiWorld) : ApiWorld :=
  inTurn (S := server) removalStep Prod.snd steps w

theorem Leaving.shrunk {cr : OpenSearchCluster} {set : StatefulSet} (leaving : Leaving cr set)
    (many : set.replicas ≠ 1) : Leaving cr { set with replicas := set.replicas - 1 } where
  owned := leaving.owned
  unlisted := leaving.unlisted
  apart := leaving.apart
  on := leaving.on
  alive := leaving.alive
  populated := by
    have populated := leaving.populated
    change 1 ≤ set.replicas - 1
    omega

/-- As many smooth steps as there are nodes leave nothing of the StatefulSet. -/
theorem removalSteps_gone {name : String} (dashless : ∀ base : String, name ≠ base ++ "-")
    (steps : List (OpenSearchCluster × List Choice)) (set : StatefulSet) (named : set.name = name)
    (leaving : ∀ step ∈ steps, Leaving step.1 set) (w : ApiWorld)
    (kept : Kept False name (some set) none w) (enough : set.replicas = steps.length)
    (populated : 1 ≤ set.replicas) (returned : AllReturn (S := server) removalStep Prod.snd steps w)
    (smooth : ∀ e ∈ (removalSteps steps w).past, Smooth name e) :
    held name (removalSteps steps w).state = none := by
  induction steps generalizing set w with
  | nil =>
    rw [enough] at populated
    cases populated
  | cons step steps ih =>
    have first := leaving step List.mem_cons_self
    have safe := safe_cleanupStatefulSets (spared_smooth name) first named (fun impossible =>
      impossible.elim) dashless kept {}
    have earlier : ∀ e ∈ (exec (removalStep step) step.2 w).2.past, Smooth name e :=
      fun e member => smooth e
        ((inTurn_past (S := server) removalStep Prod.snd steps _).subset member)
    obtain ⟨result, finished⟩ := Option.isSome_iff_exists.mp returned.1
    have after : Kept False name (shrunk set) none (exec (removalStep step) step.2 w).2 :=
      ((safe.outcome step.2 earlier).1 result finished).1 trivial
    rw [List.length_cons] at enough
    by_cases last : set.replicas = 1
    · have none : steps = [] := List.eq_nil_of_length_eq_zero (by omega)
      subst none
      rw [PoolRemoval.shrunk, if_pos last] at after
      exact after.held
    · rw [PoolRemoval.shrunk, if_neg last] at after
      have smaller : ∀ step ∈ steps, Leaving step.1 { set with replicas := set.replicas - 1 } :=
        fun step member => (leaving step (List.mem_cons_of_mem _ member)).shrunk last
      refine ih { set with replicas := set.replicas - 1 } named smaller _ after ?_ ?_ returned.2
        smooth
      · change set.replicas - 1 = steps.length
        omega
      · change 1 ≤ set.replicas - 1
        omega

theorem size_held {s : State} : s.size name = (held name s).map StatefulSet.replicas := by
  rw [State.size, held, Option.map_map]
  rfl

theorem Leaving.content {cr : OpenSearchCluster} {sts : StatefulSet} (leaving : Leaving cr sts) :
    Leaving cr (content sts) :=
  ⟨⟨leaving.owned, leaving.unlisted, leaving.apart⟩, leaving.on, leaving.alive, leaving.populated⟩

/-- A StatefulSet with nodes that left the spec. No negative size is ever asked for.
After a pass without error, in which the remaining pools were ready and the list was
left to the scaler, its last node is gone or on the exclude list. And as many smooth
removal steps as it has nodes delete it. -/
theorem removed_pool_drains_to_the_end (sts : StatefulSet) (populated : 1 ≤ sts.replicas)
    (plain : Plain sts.name) (dashless : ∀ base : String, sts.name ≠ base ++ "-") :
    (∀ cr, (removeStatefulSet cr sts).OnlyCalls Nonnegative) ∧
    (∀ cr (choices : List Choice) (w : ApiWorld) result snapshot, Leaving cr sts →
      w.state.statefulSets.get sts.name = some sts →
      (exec (reconcile cr) choices w).1 = some ((result, none), snapshot) →
      (∀ e ∈ (exec (reconcile cr) choices w).2.past, LeftAlone cr sts.name e) →
      (exec (reconcile cr) choices w).2.state.size sts.name = some sts.replicas →
      Listed (lastNode sts) (exec (reconcile cr) choices w).2.state) ∧
    (∀ (steps : List (OpenSearchCluster × List Choice)) (w : ApiWorld),
      (∀ step ∈ steps, Leaving step.1 sts) → w.state.statefulSets.get sts.name = some sts →
      sts.replicas = steps.length →
      AllReturn (S := server) removalStep Prod.snd steps w →
      (∀ e ∈ (removalSteps steps w).past, Smooth sts.name e) →
      (removalSteps steps w).state.statefulSets.get sts.name = none) := by
  refine ⟨fun cr => (removes_nonnegative populated).removeStatefulSet, ?_, ?_⟩
  · intro cr choices w result snapshot leaving stored finished left size
    have kept : Kept True sts.name (some (content sts)) none w :=
      ⟨congrArg (Option.map content) stored, nobody⟩
    have safe := safe_reconcile (spared_leftAlone cr sts.name) leaving.content rfl (fun _ => plain)
      dashless kept fun _ left => left.ready
    rcases (safe.outcome choices left).1 _ finished rfl with listed | smaller
    · exact listed.listed trivial _ rfl
    rw [size_held, smaller.held, shrunk] at size
    split at size
    · cases size
    · have : sts.replicas - 1 = sts.replicas := Option.some.inj size
      omega
  · intro steps w leaving stored enough returned smooth
    have kept : Kept False sts.name (some (content sts)) none w :=
      ⟨congrArg (Option.map content) stored, nobody⟩
    have gone := removalSteps_gone dashless steps (content sts) rfl
      (fun step member => (leaving step member).content) w kept enough populated returned smooth
    exact Option.map_eq_none_iff.mp gone

end Runs

section Samples

instance (cr : OpenSearchCluster) (e : ApiEvent) : Decidable (PoolsReady cr e) :=
  inferInstanceAs (Decidable (∀ _ ∈ _, _))

instance (cr : OpenSearchCluster) (name : String) (e : ApiEvent) :
    Decidable (LeftAlone cr name e) :=
  decidable_of_iff' _ (leftAlone_iff ..)

instance (name : String) (e : ApiEvent) : Decidable (Smooth name e) :=
  decidable_of_iff' _ (smooth_iff ..)

def dataPool : NodePool := ⟨"data", 3, ["data"], none, 1, "", ""⟩

def poolSet (component : String) (replicas available : Int) : StatefulSet :=
  { name := "logs-" ++ component
    labels := [(clusterLabel, "logs"), (nodePoolLabel, component)]
    replicas := replicas, selector := [], podManagementPolicy := .parallel
    volumeClaimTemplates := [], podTemplate := "", podEnv := "", deleting := false
    status := ⟨replicas, available, available, replicas, "a", "a"⟩ }

def shrinkingCluster : OpenSearchCluster :=
  { name := "logs", resourceVersion := 1
    spec := { general := ⟨"2.11.0", true⟩, confMgmt := ⟨true⟩, dashboards := ⟨false⟩
              nodePools := [dataPool] }
    status := ⟨"RUNNING", [], "2.11.0", true, 0, "green"⟩ }

def shrinkingState (replicas available : Int) (shards : List CatShard) : State where
  cluster := shrinkingCluster
  statefulSets := ⟨[poolSet "data" 3 available, poolSet "old" replicas replicas], by
    simp [poolSet]⟩
  pods := ⟨[⟨"logs-old-1", [(stsRevisionLabel, "a")], false, []⟩], by decide⟩
  claims := .empty
  settings := ⟨none, none⟩
  health := ⟨"green", 0, 0, 0, []⟩
  shards := shards
  explain := fun _ _ _ => ⟨"", "", "", "", []⟩
  indices := []
  clock := 0

def shrinkingWorld (replicas : Int) (shards : List CatShard) : ApiWorld :=
  { state := shrinkingState replicas 3 shards, past := [] }

def shardOnOld : CatShard := ⟨"logs", "0", "p", "STARTED", "logs-old-1"⟩

def servedCalls : List Choice := List.replicate 30 {}

instance (cr : OpenSearchCluster) (sts : StatefulSet) : Decidable (Unlisted cr sts) :=
  decidable_of_iff' _ (unlisted_iff ..)

instance (cr : OpenSearchCluster) (sts : StatefulSet) : Decidable (Leaving cr sts) :=
  decidable_of_iff' _ (leaving_iff ..)

theorem removed_pool_keeps_and_loses_nodes :
    Listed "logs-old-1" (exec (reconcile shrinkingCluster) servedCalls
      (shrinkingWorld 2 [shardOnOld])).2.state ∧
    (removalSteps [(shrinkingCluster, servedCalls), (shrinkingCluster, servedCalls)]
      (shrinkingWorld 2 [])).state.statefulSets.get "logs-old" = none := by
  have dashless : ∀ base : String, (poolSet "old" 2 2).name ≠ base ++ "-" := by
    intro base same
    have last := congrArg (fun name => name.toList.getLast?) same
    simp [poolSet] at last
  have plain : Plain (poolSet "old" 2 2).name := by decide
  have drains := removed_pool_drains_to_the_end (poolSet "old" 2 2) (by decide) plain dashless
  constructor
  · exact drains.2.1 shrinkingCluster servedCalls (shrinkingWorld 2 [shardOnOld])
      { requeue := true, requeueAfter := seconds 15 } [] (by decide) (by decide +kernel)
      (by decide +kernel) (by decide +kernel) (by decide +kernel)
  · exact drains.2.2 _ (shrinkingWorld 2 []) (by decide) (by decide +kernel) (by decide)
      (by decide +kernel) (by decide +kernel)

def loseNode (s : State) : State :=
  { s with statefulSets := s.statefulSets.put (poolSet "data" 3 2) }

def troubledCalls : List Choice := { others := loseNode } :: servedCalls

def excludedWorld : ApiWorld :=
  (exec (reconcile shrinkingCluster) servedCalls (shrinkingWorld 2 [shardOnOld])).2

def emptiedWorld : ApiWorld :=
  removalSteps [(shrinkingCluster, servedCalls), (shrinkingCluster, servedCalls)]
    (shrinkingWorld 0 [])

/-- While another pool is not ready, a pass without error takes the node off the list
again, with its shards still on it. And an empty StatefulSet is never deleted: each
step asks for a negative size, which is refused. -/
theorem removed_pool_loses_exclusion_or_stays :
    (Listed "logs-old-1" excludedWorld.state ∧
      (exec (reconcile shrinkingCluster) troubledCalls excludedWorld).1 =
        some (({ requeue := true, requeueAfter := seconds 15 }, none), []) ∧
      (exec (reconcile shrinkingCluster) troubledCalls excludedWorld).2.state.size "logs-old" =
        some 2 ∧
      ¬ Listed "logs-old-1"
        (exec (reconcile shrinkingCluster) troubledCalls excludedWorld).2.state) ∧
    ((∀ e ∈ emptiedWorld.past, Smooth "logs-old" e) ∧
      emptiedWorld.state.size "logs-old" = some 0 ∧ ∃ e ∈ emptiedWorld.past,
        e.op = .request (.updateStatefulSet { poolSet "old" 0 0 with replicas := -1 })) := by
  decide +kernel

end Samples

end OpenSearchOperator.Reconcilers.Scaler.PoolRemoval
