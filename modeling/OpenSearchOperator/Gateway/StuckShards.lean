import OpenSearchOperator.Api.Served
import OpenSearchOperator.Data.Counting
import OpenSearchOperator.Gateway.Restart

/-! What the checks before a restart tell about the shards. Each of them compares a number of
shards with the number of those that cannot move because of the versions of the nodes. -/

namespace OpenSearchOperator.Gateway

open Api Data Effects

section Detection

variable {s : State} {shard : CatShard} {relevant : CatShard → Bool} {shards : List CatShard}

def isStuck (s : State) (shard : CatShard) : Except Failure Bool :=
  (followServed (detectShardStuckVersionMismatch shard) s).1

def Stuck (s : State) (shard : CatShard) : Prop := isStuck s shard = .ok true

instance (s : State) (shard : CatShard) : Decidable (Stuck s shard) :=
  inferInstanceAs (Decidable (_ = _))

def Explained (s : State) (shard : CatShard) : Prop := ∃ stuck, isStuck s shard = .ok stuck

theorem reads_detectShardStuck (shard : CatShard) :
    (detectShardStuckVersionMismatch shard).OnlyCalls Reads := by
  rw [detectShardStuckVersionMismatch]
  split
  · trivial
  · exact ⟨rfl, fun reply => by cases reply <;> trivial⟩

theorem followServed_detectShardStuck :
    followServed (detectShardStuckVersionMismatch shard) s = (isStuck s shard, s) :=
  Prod.ext rfl (followServed_reads (reads_detectShardStuck shard))

theorem isStuck_number {shardNum : Int}
    (number : (if shard.shard = "" then some 0 else scanShardNumber shard.shard) = some shardNum) :
    isStuck s shard =
      .ok (stuckOnVersion (s.explain shard.index shardNum (shard.primaryOrReplica == "p"))) := by
  rw [isStuck, detectShardStuckVersionMismatch, number]
  rw [followServed_bind, followServed_request, serve]
  rfl

def Counts (result : Except Failure Int) (explained : Prop) (count : Nat) : Prop :=
  (explained ∧ result = .ok count) ∨ (¬ explained ∧ ∃ err, result = .error err)

def stuckAmong (s : State) (relevant : CatShard → Bool) (shards : List CatShard) : Nat :=
  shards.countP fun shard => relevant shard && decide (Stuck s shard)

theorem stuckAmong_cons : stuckAmong s relevant (shard :: shards) = stuckAmong s relevant shards +
      if relevant shard = true ∧ Stuck s shard then 1 else 0 := by
  rw [stuckAmong, List.countP_cons, stuckAmong]
  simp only [Bool.and_eq_true, decide_eq_true_eq]

theorem followServed_countStuck (relevant : CatShard → Bool) (shards : List CatShard) :
    ∃ result, followServed (countStuck relevant shards) s = (result, s) ∧
      Counts result (∀ shard ∈ shards, relevant shard = true → Explained s shard)
        (stuckAmong s relevant shards) := by
  induction shards with
  | nil => exact ⟨.ok 0, rfl, Or.inl ⟨fun _ member => absurd member List.not_mem_nil, rfl⟩⟩
  | cons shard shards ih =>
    obtain ⟨rest, followed, counts⟩ := ih
    rw [countStuck, stuckAmong_cons]
    by_cases hit : relevant shard = true
    · rw [if_pos hit, followServed_bind, followServed_detectShardStuck]
      cases told : isStuck s shard with
      | error err =>
        refine ⟨.error err, rfl, Or.inr ⟨fun explained => ?_, err, rfl⟩⟩
        obtain ⟨stuck, ok⟩ := explained shard List.mem_cons_self hit
        cases told.symm.trans ok
      | ok stuck =>
        rw [followServed_bind, followed]
        rcases counts with ⟨explained, rfl⟩ | ⟨unexplained, err, rfl⟩
        · refine ⟨_, rfl, Or.inl ⟨?_, ?_⟩⟩
          · intro other member relevant
            rcases List.mem_cons.mp member with rfl | later
            · exact ⟨stuck, told⟩
            · exact explained other later relevant
          · cases stuck <;> simp [hit, Stuck, told]
        · refine ⟨.error err, rfl, Or.inr ⟨fun explained => unexplained ?_, err, rfl⟩⟩
          exact fun other member => explained other (List.mem_cons_of_mem _ member)
    · rw [if_neg hit, if_neg fun both => hit both.1]
      have same : (∀ other ∈ shard :: shards, relevant other = true → Explained s other) ↔
          ∀ other ∈ shards, relevant other = true → Explained s other := by
        simp only [List.forall_mem_cons, and_iff_right_iff_imp]
        exact fun _ relevant => absurd relevant hit
      rw [same]
      exact ⟨rest, followed, counts⟩

def Still (e : ApiEvent) : Prop := e.before = e.prior

def Trusty {α : Type} (program : Prog (Except Failure α)) (s : State) (result : Except Failure α) :
    Prop :=
  result = (followServed program s).1 ∨ ∃ err, result = .error err

theorem safe_requested {req : Request} (reads : Reads (.request req)) (w : ApiWorld) :
    Ends Still (request req) (fun reply later => later.state = w.state ∧
      (reply = (serve w.state req).1 ∨ ∃ err, reply = .error err)) w := by
  refine ⟨trivial, fun choice still => ⟨?_, ?_⟩⟩
  · exact (reads.quiet choice _).trans still
  have told : (w.arrive choice (.request req)).reply = (answer choice w.state (.request req)).1 :=
    congrArg (fun s => (answer choice s (.request req)).1) still
  rw [told, answer_request]
  split
  · exact Or.inl rfl
  · exact Or.inr ⟨_, rfl⟩
  · exact Or.inr ⟨_, rfl⟩

theorem safe_detectShardStuck (shard : CatShard) (w : ApiWorld) :
    Ends Still (detectShardStuckVersionMismatch shard) (fun reply later =>
      later.state = w.state ∧ Trusty (detectShardStuckVersionMismatch shard) w.state reply) w := by
  rw [detectShardStuckVersionMismatch]
  split
  · exact ⟨rfl, Or.inr ⟨_, rfl⟩⟩
  rename_i shardNum _
  apply (safe_requested rfl w).bind
  rintro reply later ⟨same, rfl | ⟨err, rfl⟩⟩
  · refine ⟨same, Or.inl ?_⟩
    rw [followServed_bind, followServed_request]
    rfl
  · exact ⟨same, Or.inr ⟨_, rfl⟩⟩

theorem safe_countStuck (w : ApiWorld) : Ends Still (countStuck relevant shards) (fun reply later =>
      later.state = w.state ∧ Trusty (countStuck relevant shards) w.state reply) w := by
  induction shards generalizing w with
  | nil => exact ⟨rfl, Or.inl rfl⟩
  | cons shard shards ih =>
    rw [countStuck]
    by_cases hit : relevant shard = true
    · rw [if_pos hit]
      apply (safe_detectShardStuck shard w).bindOk
      · rintro err later ⟨same, trusty⟩
        exact ⟨same, Or.inr ⟨_, rfl⟩⟩
      rintro stuck later ⟨same, trusty⟩
      have told : isStuck w.state shard = .ok stuck := by
        rcases trusty with ok | ⟨err, impossible⟩
        · exact ok.symm
        · cases impossible
      apply (ih later).bind
      rintro reply last ⟨still, trusty⟩
      rw [same] at still trusty
      cases reply with
      | error err => exact ⟨still, Or.inr ⟨_, rfl⟩⟩
      | ok count =>
        refine ⟨still, Or.inl ?_⟩
        rcases trusty with counted | ⟨err, impossible⟩
        · rw [followServed_bind, followServed_detectShardStuck, told]
          rw [followServed_bind, ← counted]
          rfl
        · cases impossible
    · rw [if_neg hit]
      exact ih w

end Detection

section Node

variable {s : State} {nodeName : String}

theorem followServed_checkPodSafeToDelete (s : State) (nodeName : String) :
    (followServed (checkPodSafeToDelete nodeName) s).1 = .ok true ↔
      ∀ shard ∈ s.shards, shard.nodeName = nodeName →
        shard.primaryOrReplica = "r" ∧ Stuck s shard := by
  let nodeShards := s.shards.filter fun shard => shard.nodeName == nodeName
  obtain ⟨result, followed, counts⟩ :=
    followServed_countStuck (s := s) (fun shard => shard.primaryOrReplica == "r") nodeShards
  have checked : (followServed (checkPodSafeToDelete nodeName) s).1 =
      result.map fun count => count == (nodeShards.length : Int) := by
    rw [checkPodSafeToDelete, followServed_bind, followServed_request, serve]
    rw [followServed_bind, followed]
    cases result <;> rfl
  have members : (∀ shard ∈ s.shards, shard.nodeName = nodeName →
      shard.primaryOrReplica = "r" ∧ Stuck s shard) ↔
      ∀ shard ∈ nodeShards, shard.primaryOrReplica = "r" ∧ Stuck s shard := by
    simp [nodeShards, List.mem_filter]
  rw [checked, members]
  rcases counts with ⟨_, rfl⟩ | ⟨unexplained, err, rfl⟩
  · have all : stuckAmong s (fun shard => shard.primaryOrReplica == "r") nodeShards =
        nodeShards.length ↔ ∀ shard ∈ nodeShards, shard.primaryOrReplica = "r" ∧ Stuck s shard := by
      rw [stuckAmong, List.countP_eq_length]
      simp only [Bool.and_eq_true, beq_iff_eq, decide_eq_true_eq]
    rw [← all, Except.map, Except.ok.injEq, beq_iff_eq, Int.natCast_inj]
  · refine ⟨(fun same => by cases same), fun all => absurd (fun shard member _ => ?_) unexplained⟩
    exact ⟨true, (all shard member).2⟩

theorem safe_checkPodSafeToDelete (w : ApiWorld) :
    Ends Still (checkPodSafeToDelete nodeName) (fun reply _ =>
      Trusty (checkPodSafeToDelete nodeName) w.state reply) w := by
  apply (safe_requested rfl w).bind
  rintro reply later ⟨same, rfl | ⟨err, rfl⟩⟩
  · apply (safe_countStuck later).bind
    rintro reply _ ⟨_, trusty⟩
    rw [same] at trusty
    cases reply with
    | error err => exact Or.inr ⟨_, rfl⟩
    | ok count =>
      rcases trusty with counted | ⟨err, impossible⟩
      · refine Or.inl ?_
        rw [checkPodSafeToDelete, followServed_bind, followServed_request, serve]
        rw [followServed_bind, ← counted]
        rfl
      · cases impossible
  · exact Or.inr ⟨_, rfl⟩

theorem extractNodeName_extractNodeName {node : String} :
    extractNodeName (extractNodeName node) = extractNodeName node := by
  have nothing : extractNodeName "" = "" := by
    rw [extractNodeName, if_pos rfl]
  by_cases empty : node = ""
  · rw [empty, nothing, nothing]
  cases parts : fields (trimSpace node) with
  | nil =>
    have shown : extractNodeName node = trimSpace node := by
      rw [extractNodeName, if_neg empty, parts]
    rw [shown]
    by_cases blank : trimSpace node = ""
    · rw [blank, nothing]
    · rw [extractNodeName, if_neg blank, trimSpace_trimSpace, parts]
  | cons first rest =>
    have shown : extractNodeName node = first := by
      rw [extractNodeName, if_neg empty, parts]
    have member : first ∈ fields (trimSpace node) := by
      rw [parts]
      exact List.mem_cons_self
    obtain ⟨filled, free⟩ := fields_free member
    rw [shown, extractNodeName, if_neg filled, trimSpace_free first free,
      fields_single filled free]

/-- A pod that is declared safe to delete holds only replicas that cannot move, whatever calls
fail; and where no replica is stuck, that is to say that it holds no shard. -/
def Sound (nodeName : String) (s : State) : Prop :=
  (∀ outcomes : List Outcome,
    (exec (S := server) (checkPodSafeToDelete nodeName)
      (outcomes.map fun outcome => { outcome := outcome }) ⟨s, []⟩).1 = some (.ok true) →
    ∀ shard ∈ s.shards, extractNodeName shard.nodeName = nodeName →
      shard.primaryOrReplica = "r" ∧ Stuck s shard) ∧
  ((∀ shard ∈ s.shards, shard.primaryOrReplica = "r" → ¬ Stuck s shard) →
    ((followServed (checkPodSafeToDelete nodeName) s).1 = .ok true ↔
      hasShardsOnNodeFromResponse s.shards nodeName = false))

theorem safe_exec {outcomes : List Outcome}
    (safe : (exec (S := server) (checkPodSafeToDelete nodeName)
      (outcomes.map fun outcome => { outcome := outcome }) ⟨s, []⟩).1 = some (.ok true)) :
    (followServed (checkPodSafeToDelete nodeName) s).1 = .ok true := by
  have still : ∀ e ∈ (exec (S := server) (checkPodSafeToDelete nodeName)
      (outcomes.map fun outcome => { outcome := outcome }) ⟨s, []⟩).2.past, Still e :=
    fun e happened => undisturbed_before (checkPodSafeToDelete nodeName) [outcomes] ⟨s, []⟩ rfl e
      happened
  have trusty := ((safe_checkPodSafeToDelete ⟨s, []⟩).outcome _ still).1 _ safe
  rcases trusty with same | ⟨err, impossible⟩
  · exact same.symm
  · cases impossible

theorem exec_safe (safe : (followServed (checkPodSafeToDelete nodeName) s).1 = .ok true) :
    ∃ outcomes : List Outcome, (exec (S := server) (checkPodSafeToDelete nodeName)
      (outcomes.map fun outcome => { outcome := outcome }) ⟨s, []⟩).1 = some (.ok true) := by
  obtain ⟨calls, returned, _⟩ :=
    exec_follow (S := server) served (checkPodSafeToDelete nodeName) ⟨s, []⟩
  refine ⟨List.replicate calls .served, ?_⟩
  rw [List.map_replicate]
  exact returned.trans (congrArg some safe)

def placed (kindOf : String → String) (nodes : List String) : List CatShard :=
  nodes.map fun node => ⟨"logs", "0", kindOf node, "STARTED", node⟩

def versionDeadlock : AllocationExplain where
  currentState := "started"
  canRemainOnCurrentNode := "no"
  canMoveToOtherNode := "no"
  canAllocate := ""
  nodeAllocationDecisions := [⟨"no", [⟨"node_version", "NO"⟩]⟩]

theorem placed_nodes (kindOf : String → String) (nodes : List String) :
    (placed kindOf nodes).map CatShard.nodeName = nodes := by
  simp [placed, List.map_map, Function.comp_def]

/-- The check says what it should for every listing with these node fields exactly if the
name is the source of no field but the name itself. -/
theorem pod_safety_sound_iff (base : State) (nodeName : String) (nodes : List String) :
    (∀ shards explain, shards.map CatShard.nodeName = nodes →
      Sound nodeName { base with shards := shards, explain := explain }) ↔
    ∀ node ∈ nodes, extractNodeName node = nodeName ↔ node = nodeName := by
  have different : "p" ≠ "r" := by decide
  constructor
  · intro sound node member
    constructor
    · intro source
      by_contra moving
      -- Replicas that are stuck wherever the field is the name, primaries elsewhere.
      let kindOf := fun node => if node = nodeName then "r" else "p"
      let s : State :=
        { base with shards := placed kindOf nodes, explain := fun _ _ _ => versionDeadlock }
      have declared : (followServed (checkPodSafeToDelete nodeName) s).1 = .ok true := by
        rw [followServed_checkPodSafeToDelete]
        intro shard listed here
        obtain ⟨node, _, rfl⟩ := List.mem_map.mp listed
        have number : (if "0" = "" then some 0 else scanShardNumber "0") = some 0 := by decide
        have deadlocked : stuckOnVersion versionDeadlock = true := by decide
        exact ⟨if_pos here, (isStuck_number number).trans (congrArg Except.ok deadlocked)⟩
      obtain ⟨outcomes, returned⟩ := exec_safe declared
      have replica := ((sound _ _ (placed_nodes kindOf nodes)).1 outcomes returned
        ⟨"logs", "0", kindOf node, "STARTED", node⟩ (List.mem_map_of_mem member) source).1
      have primary : kindOf node = "p" := if_neg moving
      exact different (primary.symm.trans replica)
    · intro same
      by_contra spaced
      let s : State := { base with shards := placed (fun _ => "p") nodes }
      have agrees := (sound _ base.explain (placed_nodes (fun _ => "p") nodes)).2 (by
        intro shard listed replica
        obtain ⟨node, _, rfl⟩ := List.mem_map.mp listed
        exact absurd replica different)
      have empty : hasShardsOnNodeFromResponse s.shards nodeName = false := by
        rw [hasShardsOnNodeFromResponse, List.any_eq_false]
        intro shard _ source
        rw [beq_iff_eq] at source
        rw [same, ← source, extractNodeName_extractNodeName] at spaced
        exact spaced rfl
      have primary := (followServed_checkPodSafeToDelete s nodeName).mp (agrees.mpr empty)
        ⟨"logs", "0", "p", "STARTED", node⟩ (List.mem_map_of_mem member) same
      exact different primary.1
  · rintro exact shards explain rfl
    have sources : ∀ shard ∈ shards, extractNodeName shard.nodeName = nodeName ↔
        shard.nodeName = nodeName := fun shard listed => exact _ (List.mem_map_of_mem listed)
    constructor
    · intro outcomes returned shard listed source
      exact (followServed_checkPodSafeToDelete _ nodeName).mp (safe_exec returned) shard listed
        ((sources shard listed).mp source)
    · intro free
      rw [followServed_checkPodSafeToDelete, hasShardsOnNodeFromResponse, List.any_eq_false]
      constructor
      · intro all shard listed source
        rw [beq_iff_eq] at source
        obtain ⟨replica, stuck⟩ := all shard listed ((sources shard listed).mp source)
        exact free shard listed replica stuck
      · intro none shard listed here
        exact absurd (beq_iff_eq.mpr ((sources shard listed).mpr here)) (none shard listed)

def listing (shards : List CatShard) (explain : AllocationExplain) : State where
  cluster := ⟨"logs", 1, ⟨⟨"2.11.0", true⟩, ⟨false⟩, ⟨false⟩, []⟩,
    ⟨"RUNNING", [], "2.11.0", true, 0, ""⟩⟩
  statefulSets := .empty
  pods := .empty
  claims := .empty
  settings := ⟨none, none⟩
  health := ⟨"yellow", 0, 0, 1, [("logs", "yellow")]⟩
  shards := shards
  explain := fun _ _ _ => explain
  indices := ["logs"]
  clock := 0

def movingPrimary : CatShard :=
  ⟨"logs", "0", "p", "RELOCATING", "data-0 -> 10.0.0.1 4kGSHQhmRQ data-1"⟩

/-- A primary that moves away from the node is not counted. -/
theorem moving_primary_overlooked :
    (followServed (checkPodSafeToDelete "data-0") (listing [movingPrimary] versionDeadlock)).1 =
        .ok true ∧
      extractNodeName movingPrimary.nodeName = "data-0" ∧
      hasShardsOnNodeFromResponse [movingPrimary] "data-0" = true ∧
      ¬ Sound "data-0" (listing [movingPrimary] versionDeadlock) := by
  have declared : (followServed (checkPodSafeToDelete "data-0")
      (listing [movingPrimary] versionDeadlock)).1 = .ok true := by
    decide +kernel
  have source : extractNodeName movingPrimary.nodeName = "data-0" := by
    decide +kernel
  refine ⟨declared, source, by decide +kernel, fun sound => ?_⟩
  obtain ⟨outcomes, returned⟩ := exec_safe declared
  have replica := (sound.1 outcomes returned movingPrimary List.mem_cons_self source).1
  exact absurd replica (by decide)

end Node

section Yellow

variable {s : State} {health : ClusterHealth} {index : String}

def deadlockedIn (s : State) (entry : String × String) (shard : CatShard) : Bool :=
  entry.2 == "yellow" && (shard.index == entry.1 &&
    (shard.state == "UNASSIGNED" && shard.primaryOrReplica == "r" && decide (Stuck s shard)))

def unassignedReplica (shard : CatShard) : Bool :=
  shard.state == "UNASSIGNED" && shard.primaryOrReplica == "r"

def shardsOf (s : State) (index : String) : List CatShard :=
  s.shards.filter fun shard => [index].contains shard.index

theorem stuckAmong_shardsOf : stuckAmong s unassignedReplica (shardsOf s index) =
      s.shards.countP (deadlockedIn s (index, "yellow")) := by
  rw [stuckAmong, shardsOf, List.countP_filter]
  apply List.countP_congr
  intro shard _
  simp only [deadlockedIn, unassignedReplica, List.contains_cons, List.contains_nil, Bool.or_false,
    Bool.and_eq_true, decide_eq_true_eq, beq_self_eq_true, true_and]
  exact and_comm

theorem followServed_yellow {indices : List (String × String)} {here rest : Except Failure Int}
    (counted : followServed (countStuck unassignedReplica (shardsOf s index)) s = (here, s))
    (later : followServed (countStuckReplicas indices) s = (rest, s)) :
    followServed (countStuckReplicas ((index, "yellow") :: indices)) s =
      (here.bind fun count => rest.map fun more => count + more, s) := by
  have counted : followServed (countStuck (fun shard =>
      shard.state == "UNASSIGNED" && shard.primaryOrReplica == "r")
      (s.shards.filter fun shard => [index].contains shard.index)) s = (here, s) := counted
  rw [countStuckReplicas, if_pos (beq_self_eq_true _), followServed_bind, followServed_request,
    serve]
  simp only [List.isEmpty_cons, Bool.false_eq_true, if_false]
  rw [followServed_bind, counted]
  cases here with
  | error err => rfl
  | ok count =>
    rw [followServed_bind, later]
    cases rest <;> rfl

theorem followServed_countStuckReplicas (indices : List (String × String)) :
    ∃ result, followServed (countStuckReplicas indices) s = (result, s) ∧
      Counts result (∀ entry ∈ indices, entry.2 = "yellow" → ∀ shard ∈ shardsOf s entry.1,
          unassignedReplica shard = true → Explained s shard)
        ((indices.map fun entry => s.shards.countP (deadlockedIn s entry)).sum) := by
  induction indices with
  | nil => exact ⟨.ok 0, rfl, Or.inl ⟨fun _ member => absurd member List.not_mem_nil, rfl⟩⟩
  | cons entry indices ih =>
    obtain ⟨index, status⟩ := entry
    obtain ⟨rest, later, counts⟩ := ih
    rw [List.map_cons, List.sum_cons, List.forall_mem_cons]
    by_cases yellow : status = "yellow"
    · subst yellow
      obtain ⟨here, counted, countsHere⟩ :=
        followServed_countStuck (s := s) unassignedReplica (shardsOf s index)
      rw [stuckAmong_shardsOf] at countsHere
      refine ⟨_, followServed_yellow counted later, ?_⟩
      rcases countsHere with ⟨explained, rfl⟩ | ⟨unexplained, err, rfl⟩
      · rcases counts with ⟨others, rfl⟩ | ⟨unexplained, err, rfl⟩
        · exact Or.inl ⟨⟨fun _ => explained, others⟩, congrArg Except.ok (Int.natCast_add _ _).symm⟩
        · exact Or.inr ⟨fun both => unexplained both.2, err, rfl⟩
      · exact Or.inr ⟨fun both => unexplained (both.1 rfl), err, rfl⟩
    · have skipped : countStuckReplicas ((index, status) :: indices) =
          countStuckReplicas indices := by
        rw [countStuckReplicas, if_neg (beq_iff_eq.not.mpr yellow)]
      have nothing : s.shards.countP (deadlockedIn s (index, status)) = 0 := by
        rw [List.countP_eq_zero]
        intro shard _ deadlocked
        rw [deadlockedIn, Bool.and_eq_true, beq_iff_eq] at deadlocked
        exact yellow deadlocked.1
      have vacuous : ((index, status).2 = "yellow" → ∀ shard ∈ shardsOf s (index, status).1,
          unassignedReplica shard = true → Explained s shard) := fun same => absurd same yellow
      rw [skipped, nothing, Nat.zero_add, and_iff_right vacuous]
      exact ⟨rest, later, counts⟩

/-- The health and the listing tell of one state of the cluster. The health names each index
once. -/
structure OneState (health : ClusterHealth) (shards : List CatShard) : Prop where
  unassigned : health.unassignedShards = shards.countP fun shard => shard.state == "UNASSIGNED"
  yellow : ∀ shard ∈ shards, shard.state = "UNASSIGNED" → shard.primaryOrReplica = "r" →
    (∀ other ∈ shards, other.index = shard.index → other.state = "UNASSIGNED" →
      other.primaryOrReplica ≠ "p") → (shard.index, "yellow") ∈ health.indices
  distinct : (health.indices.map Prod.fst).Nodup

theorem deadlockedIn_iff {entry : String × String} {shard : CatShard} :
    deadlockedIn s entry shard = true ↔ entry = (shard.index, "yellow") ∧
      shard.state = "UNASSIGNED" ∧ shard.primaryOrReplica = "r" ∧ Stuck s shard := by
  simp only [deadlockedIn, Bool.and_eq_true, beq_iff_eq, decide_eq_true_eq, Prod.ext_iff]
  constructor
  · rintro ⟨yellow, index, ⟨unassigned, replica⟩, stuck⟩
    exact ⟨⟨index.symm, yellow⟩, unassigned, replica, stuck⟩
  · rintro ⟨⟨index, yellow⟩, unassigned, replica, stuck⟩
    exact ⟨yellow, index.symm, ⟨unassigned, replica⟩, stuck⟩

theorem sum_deadlocked (distinct : (health.indices.map Prod.fst).Nodup) :
    (health.indices.map fun entry => s.shards.countP (deadlockedIn s entry)).sum =
      s.shards.countP fun shard => health.indices.any fun entry => deadlockedIn s entry shard := by
  apply Nat.le_antisymm
  · apply sum_countP_le
    intro shard _
    apply countP_key_le_one distinct (k := shard.index)
    intro entry _ deadlocked
    exact congrArg Prod.fst (deadlockedIn_iff.mp deadlocked).1
  · exact countP_any_le_sum

theorem deadlocked_iff (one : OneState health s.shards) :
    (∀ shard ∈ s.shards, (shard.state == "UNASSIGNED") = true →
      (health.indices.any fun entry => deadlockedIn s entry shard) = true) ↔
    ∀ shard ∈ s.shards, shard.state = "UNASSIGNED" →
      shard.primaryOrReplica = "r" ∧ Stuck s shard := by
  simp only [beq_iff_eq, List.any_eq_true, deadlockedIn_iff]
  constructor
  · intro counted shard listed unassigned
    obtain ⟨entry, _, _, _, facts⟩ := counted shard listed unassigned
    exact facts
  · intro all shard listed unassigned
    obtain ⟨replica, stuck⟩ := all shard listed unassigned
    refine ⟨_, one.yellow shard listed unassigned replica ?_, rfl, unassigned, replica, stuck⟩
    intro other there _ missing primary
    have replica := (all other there missing).1
    exact absurd (primary.symm.trans replica) (by decide)

/-- A yellow cluster counts as fit for a restart exactly if it is deadlocked on versions. -/
theorem yellow_deadlock_iff (s : State) (health : ClusterHealth) (one : OneState health s.shards) :
    (followServed (checkClusterRestartOnYellow health) s).1 = .ok true ↔
      health.status = "yellow" ∧ ¬ health.relocatingShards > 0 ∧ ¬ health.initializingShards > 0 ∧
        ∀ shard ∈ s.shards, shard.state = "UNASSIGNED" →
          shard.primaryOrReplica = "r" ∧ Stuck s shard := by
  rw [checkClusterRestartOnYellow]
  by_cases yellow : health.status = "yellow"
  case neg =>
    rw [if_pos yellow]
    exact ⟨(fun same => by cases same), fun facts => absurd facts.1 yellow⟩
  rw [if_neg (not_not_intro yellow)]
  by_cases moving : health.relocatingShards > 0 ∨ health.initializingShards > 0
  · have busy : (decide (health.relocatingShards > 0) || decide (health.initializingShards > 0)) =
        true := by
      simpa using moving
    rw [if_pos busy]
    refine ⟨(fun same => by cases same), ?_⟩
    rintro ⟨_, settled, ready, _⟩
    rcases moving with relocating | initializing
    · exact absurd relocating settled
    · exact absurd initializing ready
  have calm : ¬ (decide (health.relocatingShards > 0) || decide (health.initializingShards > 0)) =
      true := by
    simpa using moving
  obtain ⟨settled, ready⟩ := not_or.mp moving
  obtain ⟨result, followed, counts⟩ := followServed_countStuckReplicas (s := s) health.indices
  have right : (health.status = "yellow" ∧ ¬ health.relocatingShards > 0 ∧
      ¬ health.initializingShards > 0 ∧ ∀ shard ∈ s.shards, shard.state = "UNASSIGNED" →
        shard.primaryOrReplica = "r" ∧ Stuck s shard) ↔
      ∀ shard ∈ s.shards, shard.state = "UNASSIGNED" →
        shard.primaryOrReplica = "r" ∧ Stuck s shard :=
    ⟨fun facts => facts.2.2.2, fun all => ⟨yellow, settled, ready, all⟩⟩
  rw [if_neg calm, followServed_bind, followed, right]
  rcases counts with ⟨_, rfl⟩ | ⟨unexplained, err, rfl⟩
  · have numbers : (.ok (health.unassignedShards == (((health.indices.map fun entry =>
        s.shards.countP (deadlockedIn s entry)).sum : Nat) : Int)) : Except Failure Bool) =
          .ok true ↔
        (s.shards.countP fun shard => health.indices.any fun entry => deadlockedIn s entry shard) =
          s.shards.countP fun shard => shard.state == "UNASSIGNED" := by
      rw [one.unassigned, sum_deadlocked one.distinct, Except.ok.injEq, beq_iff_eq, Int.natCast_inj,
        eq_comm]
    refine numbers.trans ?_
    rw [countP_eq_iff, deadlocked_iff one]
    intro shard _ counted
    obtain ⟨entry, _, deadlocked⟩ := List.any_eq_true.mp counted
    exact beq_iff_eq.mpr (deadlockedIn_iff.mp deadlocked).2.1
  · refine ⟨(fun same => by cases same),
      fun all => absurd (fun entry _ _ shard member replica => ?_) unexplained⟩
    rw [unassignedReplica, Bool.and_eq_true, beq_iff_eq] at replica
    exact ⟨true, (all shard (List.mem_of_mem_filter member) replica.1).2⟩

def strandedReplica (index : String) : CatShard := ⟨index, "0", "r", "UNASSIGNED", ""⟩

def stranded : AllocationExplain where
  currentState := "unassigned"
  canRemainOnCurrentNode := ""
  canMoveToOtherNode := ""
  canAllocate := "no"
  nodeAllocationDecisions := [⟨"no", [⟨"node_version", "NO"⟩]⟩]

/-- Two indices with a replica each that has nowhere to go. -/
theorem stranded_replica_deadlocks :
    (followServed (checkClusterRestartOnYellow
        ⟨"yellow", 0, 0, 2, [("logs", "yellow"), ("audit", "yellow")]⟩)
      (listing [strandedReplica "logs", strandedReplica "audit"] stranded)).1 = .ok true := by
  have one : OneState ⟨"yellow", 0, 0, 2, [("logs", "yellow"), ("audit", "yellow")]⟩
      [strandedReplica "logs", strandedReplica "audit"] := by
    refine ⟨by decide, ?_, by decide⟩
    simp [strandedReplica]
  apply (yellow_deadlock_iff (listing _ stranded) _ one).mpr
  refine ⟨rfl, by decide, by decide, ?_⟩
  intro shard listed _
  obtain ⟨index, _, rfl⟩ : ∃ index ∈ ["logs", "audit"], strandedReplica index = shard :=
    List.mem_map.mp listed
  have number : (if "0" = "" then some 0 else scanShardNumber "0") = some 0 := by decide
  exact ⟨rfl, (isStuck_number number).trans rfl⟩

end Yellow

end OpenSearchOperator.Gateway
