import OpenSearchOperator.Api.Served
import OpenSearchOperator.Reconcilers.Scaler

/-! Which way the scaler moves: one replica at a time, and towards the desired
size unless an entry is left over from a time when the pool was to shrink, or the
difference of the sizes is too large for a 32-bit number. -/

namespace OpenSearchOperator.Reconcilers.Scaler

open Api Data Effects
open Gateway Helpers

theorem handles_leaves : Handles (Leaves .statefulSets) where
  tunes := fun _ tunes => tunes.leaves nofun
  reads := by
    intro op reads
    rw [Leaves, reads.changes]
    exact nofun
  status := fun _ => nofun

/-- From `r` to `r'` is one step at most, and none away from the target. -/
def Toward (target r r' : Int) : Prop :=
  (r' - r).natAbs ≤ 1 ∧ (r' - target).natAbs ≤ (r - target).natAbs

instance (target r r' : Int) : Decidable (Toward target r r') :=
  inferInstanceAs (Decidable (_ ∧ _))

theorem toward_refl (target r : Int) : Toward target r r := ⟨by simp, Nat.le_refl _⟩

theorem toward_up {target r : Int} (below : r < target) : Toward target r (r + 1) := by
  constructor <;> omega

theorem toward_down {target r : Int} (above : target < r) : Toward target r (r - 1) := by
  constructor <;> omega

/-- A size that the server has accepted and a desired one, both of them 32-bit numbers. -/
structure Fits (r target : Int) : Prop where
  accepted : 0 ≤ r
  size : r < 2147483648
  desired : -2147483648 ≤ target ∧ target < 2147483648

theorem Fits.diff_pos {target r : Int} (fits : Fits r target) :
    0 < desireReplicaDiff r target ↔ target < r ∧ r < target + 2147483648 := by
  obtain ⟨accepted, size, desired⟩ := fits
  rw [desireReplicaDiff, Int.bmod_def]
  split <;> omega

def outline (name : String) (s : State) : Option (Int × Bool) :=
  (s.statefulSets.get name).map fun sts => (sts.replicas, sts.deleting)

theorem size_outline {name : String} {s : State} : s.size name = (outline name s).map Prod.fst := by
  rw [State.size, outline, Option.map_map]
  rfl

def Undisputed (name : String) (choice : Choice) : Prop :=
  ∀ s, outline name (disturb choice s) = outline name s

section Steps

variable (name : String) (target r : Int) (deleting : Bool)

def OutlineKept (e : ApiEvent) : Prop := outline name e.before = outline name e.prior

def Untried (w : ApiWorld) : Prop := outline name w.state = some (r, deleting)

def Moved (w : ApiWorld) : Prop := ∃ r', w.state.size name = some r' ∧ Toward target r r'

variable {name target r deleting} {program : Prog α} {α : Type}

theorem Untried.moved {w : ApiWorld} (untried : Untried name r deleting w) :
    Moved name target r w :=
  ⟨r, by rw [size_outline, untried]; rfl, toward_refl target r⟩

theorem keeps_untried (only : program.OnlyCalls (Leaves .statefulSets)) :
    Keeps (OutlineKept name) (Moved name target r) (Untried name r deleting) program := by
  apply keeps_of_calls (fun w untried => untried.moved) only
  intro w choice op leaves kept untried
  have frame := (event_frame (w.arrive choice op)).statefulSets leaves
  change outline name (w.arrive choice op).after = some (r, deleting)
  rw [outline, frame]
  exact kept.trans untried

theorem keeps_moved (only : program.OnlyCalls (Leaves .statefulSets)) :
    Keeps (OutlineKept name) (Moved name target r) (Moved name target r) program := by
  apply keeps_of_calls (fun w moved => moved) only
  intro w choice op leaves kept ⟨r', size, toward⟩
  have frame := (event_frame (w.arrive choice op)).size leaves name
  refine ⟨r', ?_, toward⟩
  change (w.arrive choice op).after.size name = some r'
  rw [frame, size_outline, kept, ← size_outline]
  exact size

theorem Untried.stable : Stable (OutlineKept name) (Untried name r deleting) := by
  intro w choice op kept untried unchanged
  change outline name (w.arrive choice op).after = some (r, deleting)
  rw [unchanged]
  exact kept.trans untried

variable {w : ApiWorld} {sts : StatefulSet}

theorem moves_of_leaves
    (only : program.OnlyCalls (Leaves .statefulSets)) (untried : Untried name r deleting w) :
    Safe (OutlineKept name) (Moved name target r) program (fun _ => Moved name target r) w :=
  (keeps_untried only w untried).mono fun _ _ untried => untried.moved

theorem moves_resize (desired : StatefulSet) (named : desired.name = name)
    (different : r ≠ desired.replicas)
    (toward : deleting = false → 0 ≤ desired.replicas → Toward target r desired.replicas)
    (untried : Untried name r deleting w) :
    Safe (OutlineKept name) (Moved name target r) (reconcileResource desired .present)
      (fun _ => Moved name target r) w := by
  let Sized := fun w : ApiWorld => 0 ≤ desired.replicas ∧ w.state.size name = some desired.replicas
  have there : ∀ w, Untried name r deleting w → ∃ sts,
      w.state.statefulSets.get desired.name = some sts ∧ sts.deleting = deleting ∧
        sts.replicas ≠ desired.replicas := by
    intro w untried
    obtain ⟨sts, stored, same⟩ := Option.map_eq_some_iff.mp untried
    cases same
    exact ⟨sts, named ▸ stored, rfl, different⟩
  have resized : ∀ w (e : ApiEvent), Untried name r deleting w → e.prior = w.state →
      OutlineKept name e → Resized e.before e.after desired.name desired.replicas →
      Sized (w.extend e) := by
    intro w e _ _ _ effect
    refine ⟨effect.nonnegative, ?_⟩
    change e.after.size name = some desired.replicas
    rw [effect.size, named, if_pos rfl]
  apply (safe_reconcileResized desired there (fun w untried => untried.moved) Untried.stable
    resized untried).mono
  intro _ w outcome
  rcases outcome with untried | ⟨alive, nonnegative, size⟩
  · exact untried.moved
  · exact ⟨desired.replicas, size, toward alive nonnegative⟩

theorem stages_moves {c : ComponentStatus} {found : Bool} {nodePool : NodePool}
    (named : sts.name = name) (size : sts.replicas = r) (different : r ≠ nodePool.replicas)
    (fits : Fits r nodePool.replicas)
    (above : found = true → c.status = "Drained" → TargetsLast c name r →
      deleting = false → 0 < r → nodePool.replicas < r)
    (near : (!found || c.status == "Running" || c.status == "Waiting") = true →
      deleting = false → r < 2147483647 → r < nodePool.replicas + 2147483648) :
    Stages (OutlineKept name) (Moved name nodePool.replicas r) c found sts nodePool
      (fun _ => Untried name r deleting) (Moved name nodePool.replicas r) where
  ends := fun untried => untried.moved
  tunes := fun only => keeps_untried (only.mono handles_leaves.tunes)
  cleans := fun only => keeps_moved (only.mono handles_leaves.tunes)
  replaces := fun _ _ untried => (keeps_untried (handles_leaves.updateStatus _) _ untried).mono
    fun _ _ untried => ⟨fun _ => untried, untried.moved⟩
  removes := keeps_moved (handles_leaves.updateStatus _)
  grows := by
    intro _ w below start untried
    subst size
    apply moves_resize { sts with replicas := increment sts.replicas } named
      (increment_ne sts.replicas).symm ?_ untried
    intro alive accepted
    obtain ⟨next, room⟩ := increment_accepted accepted
    have bound := fits.size
    have close := near start alive (by omega)
    rw [fits.diff_pos] at below
    rw [next]
    exact toward_up (by omega)
  shrinks := by
    intro _ w targets due untried
    subst size named
    apply moves_resize { sts with replicas := sts.replicas - 1 } rfl (by dsimp only; omega) ?_
      untried
    intro alive nonnegative
    rcases due with positive | ⟨there, drained⟩
    · exact toward_down (fits.diff_pos.mp positive).1
    · exact toward_down (above there drained targets alive (by dsimp only at nonnegative; omega))

end Steps

abbrev entryOf (snapshot : List ComponentStatus) (pool : String) : ComponentStatus × Bool :=
  findFirstPartial snapshot (running pool) getByDescriptionAndComponent

/-- The pool is to grow, but its last node was drained for an earlier, smaller size
and only waits to be removed. -/
structure LeftDrained (cr : OpenSearchCluster) (snapshot : List ComponentStatus)
    (nodePool : NodePool) (sts : StatefulSet) : Prop where
  found : (entryOf snapshot nodePool.component).2 = true
  drained : (entryOf snapshot nodePool.component).1.status = "Drained"
  targets : TargetsLast (entryOf snapshot nodePool.component).1 (stsName cr nodePool) sts.replicas
  positive : 0 < sts.replicas
  below : sts.replicas < nodePool.replicas
  alive : sts.deleting = false

/-- The pool is to shrink, but by so much that the 32-bit difference is negative, and a
call that starts to scale it adds a node. -/
structure Wraps (snapshot : List ComponentStatus) (nodePool : NodePool) (sts : StatefulSet) :
    Prop where
  starts : (entryOf snapshot nodePool.component).2 = true →
    (entryOf snapshot nodePool.component).1.status = "Running" ∨
    (entryOf snapshot nodePool.component).1.status = "Waiting"
  far : nodePool.replicas + 2147483648 ≤ sts.replicas
  room : sts.replicas < 2147483647
  alive : sts.deleting = false

section Call

variable (cr : OpenSearchCluster) (snapshot : List ComponentStatus) (nodePool : NodePool)
  {sts : StatefulSet} {w : ApiWorld}

theorem moves_reconcileNodePool (fits : Fits sts.replicas nodePool.replicas)
    (spared : ¬ LeftDrained cr snapshot nodePool sts) (near : ¬ Wraps snapshot nodePool sts)
    (untried : Untried (stsName cr nodePool) sts.replicas sts.deleting w) :
    Safe (OutlineKept (stsName cr nodePool))
      (Moved (stsName cr nodePool) nodePool.replicas sts.replicas)
      (reconcileNodePool cr snapshot nodePool)
      (fun _ => Moved (stsName cr nodePool) nodePool.replicas sts.replicas) w := by
  have implied : ∀ w, Untried (stsName cr nodePool) sts.replicas sts.deleting w →
      Moved (stsName cr nodePool) nodePool.replicas sts.replicas w := fun w untried => untried.moved
  apply (safe_getStatefulSet _ Untried.stable implied untried).bind
  intro reply w ⟨untried, _, answered⟩
  rcases answered with ⟨err, rfl, _⟩ | ⟨current, rfl, stored⟩
  · exact untried.moved
  have named : current.name = stsName cr nodePool := w.state.statefulSets.get_key _ _ stored
  have size : current.replicas = sts.replicas := by
    rw [Untried, outline, stored] at untried
    exact congrArg Prod.fst (Option.some.inj untried)
  apply (safe_reads (reads_readyReplicas nodePool) Untried.stable implied untried).bindOk
  · exact fun _ _ untried => untried.moved
  intro ready w untried
  by_cases settled : current.replicas = nodePool.replicas
  · simp only [settled, if_true]
    cases found : (entryOf snapshot nodePool.component).2 with
    | false => exact untried.moved
    | true =>
      have reading : Leaves .statefulSets (.request .getCluster) := nofun
      apply moves_of_leaves ?_ untried
      exact (onlyCalls_updateOpenSearchClusterStatus _ _ reading (fun _ _ => nofun)).bind
        fun _ => trivial
  · simp only [settled, if_false]
    have stages := @stages_moves _ _ _ _ (entryOf snapshot nodePool.component).1
      (entryOf snapshot nodePool.component).2 _ named size (size ▸ settled) fits
      (fun found drained targets alive positive => by
        by_contra below
        exact spared ⟨found, drained, targets, positive, by omega, alive⟩)
      (fun start alive room => by
        by_contra far
        refine near ⟨fun found => ?_, by omega, room, alive⟩
        simpa [found] using start)
    apply (stages.scaleNodePool _ (fun _ _ _ _ => id) untried).bind
    exact fun _ w moved => moved

end Call

section Served

variable {s : State}

theorem followServed_reconcileResource (desired current : StatefulSet)
    (stored : s.statefulSets.get desired.name = some current) (alive : current.deleting = false)
    (different : current.replicas ≠ desired.replicas) (nonnegative : 0 ≤ desired.replicas)
    (same : sameImmutableFields current desired = true) :
    (followServed (reconcileResource desired .present) s).2.size desired.name =
        some desired.replicas := by
  let merged := { desired with labels := desired.labels.merge current.labels }
  let sent := { merged with versioned := true }
  have found : followServed (createIfNotExist desired) s = (.ok (some current), s) := by
    rw [createIfNotExist, followServed_bind, followServed_request, serve, stored]
    rfl
  have updated : followServed (updateStatefulSet sent) s = (.ok (), { s with
      statefulSets := s.statefulSets.put { sent with
        deleting := current.deleting, status := current.status, versioned := true } }) := by
    have there : s.statefulSets.get sent.name = some current := stored
    have bound : ¬ sent.replicas < 0 := by
      change ¬ desired.replicas < 0
      omega
    have unchanged : sameImmutableFields current sent = true := same
    rw [followServed_request, serve, there]
    simp only [bound, unchanged, if_true, if_false]
  rw [reconcileResource, followServed_bind, found]
  simp only [alive, Bool.false_eq_true, if_false]
  rw [updateExisting, followServed_bind, followServed_calculatePatch,
    samePatch_replicas current merged different]
  rw [followServed_bind, updated]
  exact (size_put s _ desired.name).trans (if_pos rfl)

variable {cr : OpenSearchCluster} {snapshot : List ComponentStatus} {nodePool : NodePool}
  {sts : StatefulSet}

theorem followServed_removeLastNode (currentStatus : ComponentStatus) (smartDecrease : Bool)
    (stored : s.statefulSets.get sts.name = some sts) (alive : sts.deleting = false)
    (positive : 0 < sts.replicas) :
    (followServed (removeLastNode currentStatus sts smartDecrease) s).2.size sts.name =
      some (sts.replicas - 1) := by
  let smaller := { sts with replicas := sts.replicas - 1 }
  have different : sts.replicas ≠ smaller.replicas := by
    change sts.replicas ≠ sts.replicas - 1
    omega
  have nonnegative : 0 ≤ smaller.replicas := by
    change 0 ≤ sts.replicas - 1
    omega
  have same : sameImmutableFields sts smaller = true := by simp [sameImmutableFields, smaller]
  have resized := followServed_reconcileResource smaller sts stored alive different nonnegative same
  rw [removeLastNode, followServed_bind]
  have rest := followServed_statefulSets
    (handles_leaves.afterRemoval currentStatus sts smartDecrease
      (followServed (reconcileResource smaller .present) s).1.2.1)
    (s := (followServed (reconcileResource smaller .present) s).2)
  rw [State.size] at resized ⊢
  exact (congrArg (fun sets => (sets.get sts.name).map StatefulSet.replicas) rest).trans resized

theorem followServed_decreaseOneNode {currentStatus : ComponentStatus} (pool : String)
    (smartDecrease : Bool) (targets : TargetsLast currentStatus sts.name sts.replicas)
    (stored : s.statefulSets.get sts.name = some sts) (alive : sts.deleting = false)
    (positive : 0 < sts.replicas) :
    (followServed (decreaseOneNode currentStatus sts pool smartDecrease) s).2.size sts.name =
      some (sts.replicas - 1) := by
  have removed := followServed_removeLastNode currentStatus smartDecrease stored alive positive
  rw [decreaseOneNode]
  cases noted : currentStatus.conditions with
  | nil => exact removed
  | cons node nodes =>
    have last : node = replicaHostName sts (sts.replicas - 1) := targets node (by simp [noted])
    dsimp only
    rw [if_neg (by simp [last])]
    exact removed

theorem followServed_increaseOneNode (stored : s.statefulSets.get sts.name = some sts)
    (alive : sts.deleting = false) (positive : 0 ≤ sts.replicas)
    (room : sts.replicas < 2147483647) :
    (followServed (increaseOneNode sts) s).2.size sts.name = some (sts.replicas + 1) := by
  let larger := { sts with replicas := increment sts.replicas }
  have next : larger.replicas = sts.replicas + 1 := if_neg (by omega)
  have same : sameImmutableFields sts larger = true := by simp [sameImmutableFields, larger]
  have resized := followServed_reconcileResource larger sts stored alive (by omega) (by omega) same
  rw [next] at resized
  rw [increaseOneNode, followServed_bind]
  change (followServed (reconcileResource { sts with replicas := increment sts.replicas } .present)
    s).2.size sts.name = _ at resized
  generalize followServed (reconcileResource { sts with replicas := increment sts.replicas }
    .present) s = outcome at resized ⊢
  obtain ⟨⟨_, err, _⟩, after⟩ := outcome
  cases err <;> exact resized

theorem followServed_reconcileNodePool
    (stored : s.statefulSets.get (stsName cr nodePool) = some sts)
    (different : ¬ sts.replicas = nodePool.replicas) :
    (followServed (reconcileNodePool cr snapshot nodePool) s).2 =
      (followServed (scaleNodePool cr.spec.confMgmt.smartScaler
        (entryOf snapshot nodePool.component).1 (entryOf snapshot nodePool.component).2 sts
        nodePool) s).2 := by
  have ready : ∃ pods, followServed (readyReplicasForNodePool cr nodePool) s = (.ok pods, s) := by
    rw [readyReplicasForNodePool, countRunningPodsForNodePool, followServed_bind,
      listPodsForNodePool, followServed_request]
    exact ⟨_, rfl⟩
  obtain ⟨pods, counted⟩ := ready
  rw [reconcileNodePool, followServed_bind, followServed_request, serve, stored]
  dsimp only [found]
  rw [followServed_bind, counted]
  simp only [different, if_false]
  rw [followServed_bind]
  rfl

theorem followServed_leftDrained (stored : s.statefulSets.get (stsName cr nodePool) = some sts)
    (left : LeftDrained cr snapshot nodePool sts) :
    (followServed (reconcileNodePool cr snapshot nodePool) s).2.size (stsName cr nodePool) =
      some (sts.replicas - 1) := by
  have named : sts.name = stsName cr nodePool := s.statefulSets.get_key _ _ stored
  have below := left.below
  rw [followServed_reconcileNodePool stored (by omega)]
  have decreased := followServed_decreaseOneNode nodePool.component
    cr.spec.confMgmt.smartScaler (named ▸ left.targets) (named ▸ stored) left.alive
    left.positive
  rw [scaleNodePool]
  simp only [left.found, left.drained]
  exact named ▸ decreased

theorem followServed_wraps (stored : s.statefulSets.get (stsName cr nodePool) = some sts)
    (fits : Fits sts.replicas nodePool.replicas) (wraps : Wraps snapshot nodePool sts) :
    (followServed (reconcileNodePool cr snapshot nodePool) s).2.size (stsName cr nodePool) =
      some (sts.replicas + 1) := by
  have named : sts.name = stsName cr nodePool := s.statefulSets.get_key _ _ stored
  have far := wraps.far
  have negative : ¬ 0 < desireReplicaDiff sts.replicas nodePool.replicas := by
    rw [fits.diff_pos]
    omega
  have start : (!(entryOf snapshot nodePool.component).2 ||
      (entryOf snapshot nodePool.component).1.status == "Running" ||
      (entryOf snapshot nodePool.component).1.status == "Waiting") = true := by
    have starts := wraps.starts
    cases found : (entryOf snapshot nodePool.component).2 with
    | false => rfl
    | true => simpa [found] using starts
  rw [followServed_reconcileNodePool stored (by omega), scaleNodePool, if_pos start,
    followServed_bind, updateComponents, followServed_updateStatus]
  simp only [negative, if_false]
  rw [← named]
  exact followServed_increaseOneNode (s := s.withStatus _) (named.symm ▸ stored) wraps.alive
    fits.accepted wraps.room

end Served

/-- One call changes the size by at most one and never away from the desired size,
unless the pool's last node was drained before the pool was to grow, or the difference
of the sizes wraps around. -/
theorem scaling_toward_target_iff (cr : OpenSearchCluster) (snapshot : List ComponentStatus)
    (nodePool : NodePool) (sts : StatefulSet) (start : State)
    (stored : start.statefulSets.get (stsName cr nodePool) = some sts)
    (fits : Fits sts.replicas nodePool.replicas) :
    (∀ choices : List Choice, (∀ choice ∈ choices, Undisputed (stsName cr nodePool) choice) →
      ∃ r', (exec (S := server) (reconcileNodePool cr snapshot nodePool) choices
          ⟨start, []⟩).2.state.size (stsName cr nodePool) = some r' ∧
        Toward nodePool.replicas sts.replicas r') ↔
      ¬ LeftDrained cr snapshot nodePool sts ∧ ¬ Wraps snapshot nodePool sts := by
  constructor
  · intro always
    have alone : ∀ calls, ∀ choice ∈ List.replicate calls served,
        Undisputed (stsName cr nodePool) choice := by
      intro calls choice member s
      rw [List.eq_of_mem_replicate member, disturb_served]
    obtain ⟨calls, _, ended, _⟩ := exec_follow (S := server) served
      (reconcileNodePool cr snapshot nodePool) ⟨start, []⟩
    obtain ⟨r', size, toward⟩ := always (List.replicate calls served) (alone calls)
    have away := toward.2
    rw [ended] at size
    constructor
    · intro left
      cases size.symm.trans (followServed_leftDrained stored left)
      have below := left.below
      omega
    · intro wraps
      cases size.symm.trans (followServed_wraps stored fits wraps)
      have far := wraps.far
      omega
  · rintro ⟨spared, near⟩ choices undisputed
    let w : ApiWorld := ⟨start, []⟩
    have untried : Untried (stsName cr nodePool) sts.replicas sts.deleting w := by
      change outline (stsName cr nodePool) start = _
      rw [outline, stored]
      rfl
    have kept : ∀ e ∈ (exec (reconcileNodePool cr snapshot nodePool) choices w).2.past,
        OutlineKept (stsName cr nodePool) e := by
      intro e happened
      rcases exec_choices _ choices w e happened with impossible | driven
      · cases impossible
      · exact undisputed e.choice driven e.prior
    exact (moves_reconcileNodePool cr snapshot nodePool fits spared near untried).always
      choices kept

def dataPool (desired : Int) : NodePool := ⟨"data", desired, ["data"], none, 1, "", ""⟩

def threeReplicas (desired : Int) (left : List ComponentStatus) : State where
  cluster :=
    { name := "logs", resourceVersion := 1
      spec := { general := ⟨"2.11.0", true⟩, confMgmt := ⟨true⟩, dashboards := ⟨false⟩
                nodePools := [dataPool desired] }
      status := ⟨"RUNNING", left, "2.11.0", true, 0, "green"⟩ }
  statefulSets := Store.empty.put
    { name := "logs-data", labels := [(clusterLabel, "logs"), (nodePoolLabel, "data")]
      replicas := 3, selector := [], podManagementPolicy := .parallel
      volumeClaimTemplates := [], podTemplate := "", podEnv := "", deleting := false
      status := ⟨3, 3, 3, 3, "a", "a"⟩ }
  pods := .empty
  claims := .empty
  settings := ⟨none, none⟩
  health := ⟨"green", 0, 0, 0, []⟩
  shards := []
  explain := fun _ _ _ => ⟨"", "", "", "", []⟩
  indices := []
  clock := 0

def dataDrained : List ComponentStatus := [scalerStatus "Drained" "data" ["logs-data-2"]]

/-- A pool that is still to shrink loses its drained node and goes no further. -/
theorem drained_pool_shrinks :
    (threeReplicas 2 dataDrained).size "logs-data" = some 3 ∧
    ∀ choices : List Choice, (∀ choice ∈ choices, Undisputed "logs-data" choice) →
      ∃ r', (exec (S := server) (reconcileNodePool (threeReplicas 2 dataDrained).cluster dataDrained
          (dataPool 2)) choices ⟨threeReplicas 2 dataDrained, []⟩).2.state.size "logs-data" =
            some r' ∧ Toward 2 3 r' :=
  ⟨rfl, (scaling_toward_target_iff (threeReplicas 2 dataDrained).cluster dataDrained (dataPool 2) _
    (threeReplicas 2 dataDrained) rfl ⟨by decide, by decide, by decide⟩).mpr
      ⟨fun left => absurd left.below (by decide), fun wraps => absurd wraps.far (by decide)⟩⟩

/-- Three nodes, five desired: the call leaves two. Three nodes and a number desired that
is 2 ^ 31 + 3 below: the call leaves four. -/
theorem drained_pool_shrinks_though_growing :
    (∀ choice ∈ List.replicate 20 served, Undisputed "logs-data" choice) ∧
    (exec (S := server) (reconcileNodePool (threeReplicas 5 dataDrained).cluster dataDrained
      (dataPool 5)) (.replicate 20 served) ⟨threeReplicas 5 dataDrained, []⟩).1.isSome = true ∧
    (exec (S := server) (reconcileNodePool (threeReplicas 5 dataDrained).cluster dataDrained
      (dataPool 5)) (.replicate 20 served) ⟨threeReplicas 5 dataDrained, []⟩).2.state.size
        "logs-data" = some 2 ∧ ¬ Toward 5 3 2 ∧
    (exec (S := server) (reconcileNodePool (threeReplicas (-2147483648) []).cluster []
      (dataPool (-2147483648))) (.replicate 20 served)
        ⟨threeReplicas (-2147483648) [], []⟩).2.state.size "logs-data" = some 4 ∧
    ¬ Toward (-2147483648) 3 4 := by
  refine ⟨?_, by decide, by decide, by decide, by decide, by decide⟩
  intro choice member s
  rw [List.eq_of_mem_replicate member, disturb_served]

end OpenSearchOperator.Reconcilers.Scaler
