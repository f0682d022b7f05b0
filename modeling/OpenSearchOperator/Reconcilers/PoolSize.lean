import OpenSearchOperator.Reconcilers.Cluster

/-! What the cluster reconciler does to the size of a StatefulSet. It keeps the
size, unless it recreates the StatefulSet with the count of the node pool. -/

namespace OpenSearchOperator.Reconcilers.Cluster

open Api Data Effects
open Helpers Reconcilers.EmptyDir

def Kept (name : String) (r : Int) (w : ApiWorld) : Prop :=
  w.state.size name = none ∨ w.state.size name = some r

def Standing (name : String) (s : State) : Prop :=
  ∃ sts ∈ s.statefulSets.get name, sts.deleting = false

structure Unshared (name : String) (e : ApiEvent) : Prop where
  size : e.before.size name = none ∨ e.before.size name = e.prior.size name
  standing : Standing name e.prior → Standing name e.before

def turnedTo (name : String) : Call → Option Int
  | .note (.turnTo sts desired) => if sts = name then some desired else none
  | _ => none

def recreatedWith (name : String) : Call → Option Int
  | .note (.recreate sts desired) => if sts = name then some desired else none
  | _ => none

/-- When the reconciler turns to the StatefulSet, it stands there or the node pool
asks for its size, and the selector fix and the parallel recovery recreate it only
if the node pool asks for its size. -/
structure Alone (name : String) (r : Int) (e : ApiEvent) : Prop extends Unshared name e where
  turn : ∀ desired ∈ turnedTo name e.op, desired = r ∨ Standing name e.before
  recreate : ∀ desired ∈ recreatedWith name e.op, desired = r

instance (name : String) (s : State) : Decidable (Standing name s) :=
  inferInstanceAs (Decidable (∃ sts ∈ s.statefulSets.get name, sts.deleting = false))

instance (name : String) (e : ApiEvent) : Decidable (Unshared name e) :=
  decidable_of_iff (_ ∧ _) ⟨fun both => ⟨both.1, both.2⟩, fun unshared => ⟨unshared.1, unshared.2⟩⟩

instance (name : String) (r : Int) (e : ApiEvent) : Decidable (Alone name r e) :=
  decidable_of_iff (Unshared name e ∧ _ ∧ _) ⟨fun all => ⟨all.1, all.2.1, all.2.2⟩,
    fun alone => ⟨alone.toUnshared, alone.turn, alone.recreate⟩⟩

def Fits (name : String) (r : Int) (sts : StatefulSet) : Prop := sts.name = name → sts.replicas = r

def Carries (name : String) (r : Int) : Call → Prop
  | .request (.createStatefulSet sts) => Fits name r sts
  | .request (.updateStatefulSet sts) => Fits name r sts
  | _ => True

variable {name : String} {r : Int} {op : Call} {program : Prog α} {choice : Choice} {w : ApiWorld}
  {α : Type}

theorem Reads.carries (reads : Reads op) : Carries name r op := by
  cases op with
  | request req => cases req <;> trivial
  | _ => trivial

theorem size_put_fits (s : State) (sts : StatefulSet) (fits : Fits name r sts) :
    let t : State := { s with statefulSets := s.statefulSets.put sts }
    t.size name = s.size name ∨ t.size name = some r := by
  intro t
  have size := size_put s sts name
  by_cases same : name = sts.name
  · rw [if_pos same, fits same.symm] at size
    exact Or.inr size
  · rw [if_neg same] at size
    exact Or.inl size

theorem serve_carries (s : State) {req : Request} (carries : Carries name r (.request req)) :
    (serve s req).2.size name = s.size name ∨ (serve s req).2.size name = none ∨
      (serve s req).2.size name = some r := by
  cases req with
  | createStatefulSet sts =>
    rw [serve]
    split
    · exact Or.inl rfl
    split
    · exact Or.inl rfl
    · exact (size_put_fits s (created sts) carries).imp_right Or.inr
  | updateStatefulSet sts =>
    rw [serve]
    split
    · exact Or.inl rfl
    split
    · exact Or.inl rfl
    split
    · apply Or.imp_right Or.inr
      exact size_put_fits s _ carries
    · exact Or.inl rfl
  | updateStatefulSetStatus sts =>
    rw [serve]
    split
    · exact Or.inl rfl
    · rename_i current there
      exact Or.inl (size_putStatus there sts.status name)
  | deleteStatefulSet deleted propagation =>
    rw [serve]
    split
    · exact Or.inl rfl
    rename_i current there
    split
    · have gone := size_remove s deleted name
      split at gone
      · exact Or.inr (Or.inl gone)
      · exact Or.inl gone
    · have marked := size_put s { current with deleting := true } name
      by_cases same : name = current.name
      · have key : current.name = deleted := s.statefulSets.get_key _ _ there
        rw [if_pos same] at marked
        refine Or.inl (marked.trans ?_)
        simp [State.size, same, key, there]
      · rw [if_neg same] at marked
        exact Or.inl marked
  | _ =>
    left
    apply (serve_frame s _).size
    simp [Request.changes]

theorem answer_carries (choice : Choice) (s : State) (carries : Carries name r op) :
    (answer choice s op).2.size name = s.size name ∨ (answer choice s op).2.size name = none ∨
      (answer choice s op).2.size name = some r := by
  apply answer_keeps choice s op (fun t => t.size name = _ ∨ t.size name = _ ∨ t.size name = _)
  · exact Or.inl rfl
  · rintro req rfl
    exact serve_carries s carries

theorem Kept.others (kept : Kept name r w) (alone : Alone name r (w.arrive choice op)) :
    (w.arrive choice op).before.size name = none ∨
      (w.arrive choice op).before.size name = some r := by
  rcases alone.size with gone | same
  · exact Or.inl gone
  · rw [same]
    exact kept

theorem Kept.call (kept : Kept name r w)
    (alone : Alone name r (w.arrive choice op)) (carries : Carries name r op) :
    Kept name r (w.extend (w.arrive choice op)) := by
  have before := kept.others alone
  rcases answer_carries choice (w.arrive choice op).before carries with same | gone | fits
  · change (answer choice (w.arrive choice op).before op).2.size name = none ∨ _
    change _ ∨ (answer choice (w.arrive choice op).before op).2.size name = some r
    rw [same]
    exact before
  · exact Or.inl gone
  · exact Or.inr fits

theorem keeps_carrying (only : program.OnlyCalls (Carries name r)) :
    Keeps (Alone name r) (Kept name r) (Kept name r) program :=
  keeps_of_calls (fun _ kept => kept) only fun _ _ _ carries alone kept => kept.call alone carries

theorem keeps_asking (op : Call) (carries : Carries name r op) :
    Keeps (Alone name r) (Kept name r) (Kept name r) (Program.ask (I := api) op) :=
  keeps_carrying (onlyCalls_asked carries)

theorem keeps_reading (only : program.OnlyCalls Reads) :
    Keeps (Alone name r) (Kept name r) (Kept name r) program :=
  keeps_carrying (only.mono fun _ reads => Reads.carries reads)

theorem serves_carries : Serves (Carries name r) where
  reads := fun _ => Reads.carries
  deletes := fun _ _ => trivial
  relabels := fun _ _ => trivial
  status := fun _ => trivial

theorem maintains_carries (nodePool : NodePool) : Maintains (Carries name r) nodePool :=
  ⟨serves_carries, fun _ _ => trivial⟩

section Steps

variable {w : ApiWorld} {sts existing desired : StatefulSet}

theorem error_not_ok {ε α : Type} {err : ε} {good : α → Prop} (value : α)
    (impossible : (.error err : Except ε α) = .ok value) : good value := nomatch impossible

theorem Kept.stable : Stable (Alone name r) (Kept name r) := by
  intro w choice op alone kept unchanged
  have before := kept.others alone
  rw [← unchanged] at before
  exact before

theorem Kept.stored {other : String} (kept : Kept name r w)
    (there : w.state.statefulSets.get other = some sts) : sts.name = other ∧ Fits name r sts := by
  have key : sts.name = other := w.state.statefulSets.get_key _ _ there
  refine ⟨key, fun named => ?_⟩
  have size : w.state.size name = some sts.replicas := by
    rw [State.size, ← named, key, there]
    rfl
  rcases kept with gone | present
  · cases gone.symm.trans size
  · exact (Option.some.inj (present.symm.trans size)).symm

theorem safe_readStatefulSet (other : String) (kept : Kept name r w) :
    Safe (Alone name r) (Kept name r) (getStatefulSet other) (fun reply w => Kept name r w ∧
      ∀ sts, reply = .ok sts → sts.name = other ∧ Fits name r sts) w := by
  apply (safe_getStatefulSet other Kept.stable (fun _ kept => kept) kept).mono
  rintro reply w ⟨kept, _, ⟨err, rfl, _⟩ | ⟨sts, rfl, there⟩⟩
  · exact ⟨kept, error_not_ok⟩
  · exact ⟨kept, fun _ same => Except.ok.inj same ▸ kept.stored there⟩

theorem safe_reconcileCreated (desired : StatefulSet) (fits : Fits name r desired) (w : ApiWorld)
    (kept : Kept name r w) : Safe (Alone name r) (Kept name r) (reconcileResource desired .created)
      (fun result w => Kept name r w ∧ result.2.2.name = desired.name) w := by
  apply (keeps_carrying (onlyCalls_createIfNotExist (fun _ => trivial) fits) w kept).bind
  intro result w kept
  match result with
  | .error err => exact ⟨kept, rfl⟩
  | .ok none => exact ⟨kept, rfl⟩
  | .ok (some current) => exact ⟨kept, rfl⟩

theorem safe_reconcileFitting (fits : Fits name r desired) (kept : Kept name r w) :
    Safe (Alone name r) (Kept name r) (reconcileResource desired .present)
      (fun result w => Kept name r w ∧ Fits name r result.2.2) w := by
  apply (keeps_carrying (onlyCalls_createIfNotExist (fun _ => trivial) fits) w kept).bind
  intro result w kept
  rcases result with err | _ | current
  · exact ⟨kept, fits⟩
  · exact ⟨kept, fits⟩
  change Safe _ _ (if _ then _ else _) _ w
  split
  · exact ⟨kept, fits⟩
  apply (keeps_asking (.calculatePatch _ _) trivial w kept).bind
  intro patch w kept
  rcases patch with err | _ | _
  rotate_left 2
  · exact ⟨kept, fits⟩
  all_goals
    refine (keeps_asking (.request (.updateStatefulSet _)) ?_ w kept).bind ?_
    · exact fits
    intro reply w kept
    rcases reply with err | _
    · cases err <;> exact ⟨kept, fits⟩
    · exact ⟨kept, fits⟩

theorem safe_reconcileStanding (kept : Kept name r w)
    (named : desired.name = name) (standing : Standing name w.state) :
    Safe (Alone name r) (Kept name r) (reconcileResource desired .created)
      (fun result w => Kept name r w ∧ result.2.2.name = desired.name) w := by
  have stable : Stable (Alone name r) (fun w => Kept name r w ∧ Standing name w.state) := by
    intro w choice op alone both unchanged
    refine ⟨Kept.stable w choice op alone both.1 unchanged, ?_⟩
    rw [World.extend_state, unchanged]
    exact alone.standing both.2
  have looked : Safe (Alone name r) (Kept name r) (createIfNotExist desired)
      (fun result w => Kept name r w ∧ result ≠ .ok none) w := by
    apply (safe_getStatefulSet desired.name stable (fun _ both => both.1) ⟨kept, standing⟩).bind
    intro reply w ⟨⟨kept, sts, there, _⟩, _, answered⟩
    rcases answered with ⟨err, rfl, absent⟩ | ⟨found, rfl, _⟩
    · cases err with
      | notFound =>
        have missing := absent rfl
        rw [named, there] at missing
        cases missing
      | _ => exact ⟨kept, nofun⟩
    · exact ⟨kept, nofun⟩
  apply looked.bind
  intro result w ⟨kept, found⟩
  match result, found with
  | .error err, _ => exact ⟨kept, rfl⟩
  | .ok (some current), _ => exact ⟨kept, rfl⟩

theorem goOn_ok {reconciled : Option Result × Option Failure × StatefulSet}
    (accepted : goOn reconciled = .ok sts) : sts = reconciled.2.2 := by
  match reconciled with
  | (none, none, object) =>
    cases accepted
    rfl
  | (some result, err, object) => cases accepted
  | (none, some err, object) => cases accepted

theorem safe_fixSelector (existing sts : StatefulSet) (kept : Kept name r w) :
    Safe (Alone name r) (Kept name r) (fixSelector existing sts) (fun step w => Kept name r w ∧
      ∀ object, step = .ok object → object.name = sts.name) w := by
  rw [fixSelector]
  split
  · refine ⟨kept, fun choice alone => ?_⟩
    have fits : Fits name r sts := fun named =>
      alone.recreate sts.replicas (if_pos named)
    have kept := kept.call alone trivial
    apply (keeps_carrying (serves_carries.waitForSTSDelete existing) _ kept).bindOk
    · exact fun _ _ kept => ⟨kept, error_not_ok⟩
    intro _ w kept
    apply (safe_reconcileCreated sts fits w kept).bind
    rintro reconciled w ⟨kept, named⟩
    refine ⟨kept, ?_⟩
    intro object accepted
    rw [goOn_ok accepted]
    exact named
  · exact ⟨kept, fun _ same => Except.ok.inj same ▸ rfl⟩

theorem safe_switchToParallel (nodePool : NodePool) (existing sts : StatefulSet) :
    Keeps (Alone name r) (Kept name r) (Kept name r) (switchToParallel nodePool existing sts) := by
  intro w kept
  refine ⟨kept, fun choice alone => ?_⟩
  have fits : Fits name r sts := fun named => alone.recreate sts.replicas (if_pos named)
  have kept := kept.call alone trivial
  apply (keeps_carrying (serves_carries.waitForSTSDelete existing) _ kept).bindOk
  · exact fun _ _ kept => kept
  intro _ w kept
  have desired : Fits name r
      { sts with podManagementPolicy := .parallel, versioned := false } := fits
  apply (safe_reconcileFitting desired kept).bind
  intro ⟨result, err, object⟩ w ⟨kept, _⟩
  cases err with
  | some err => exact kept
  | none =>
    have waits : (waitForSTSReplicas existing nodePool.replicas).OnlyCalls Reads :=
      onlyCalls_pollUntil (reads_hasReplicas)
    apply (keeps_reading waits w kept).bind
    intro waited w kept
    cases waited <;> exact kept

theorem safe_decideRecovery (cr : OpenSearchCluster) (nodePool : NodePool) (sts : StatefulSet)
    (fits : Fits name r existing)
    (kept : Kept name r w) :
    Safe (Alone name r) (Kept name r) (decideRecovery cr nodePool existing sts)
      (fun step w => Kept name r w ∧ ∀ object, step = .ok object →
        object.name = existing.name ∧ Fits name r object) w := by
  apply (keeps_reading (reads_readyReplicas nodePool) w kept).bindOk
  · exact fun _ _ kept => ⟨kept, error_not_ok⟩
  intro readyReplicas w kept
  let counted :=
    { existing with status := { existing.status with readyReplicas := readyReplicas } }
  have goesOn : ∀ w, Kept name r w → Kept name r w ∧ ∀ object,
      (.ok counted : Step StatefulSet) = .ok object →
        object.name = existing.name ∧ Fits name r object :=
    fun _ kept => ⟨kept, fun _ same => Except.ok.inj same ▸ ⟨rfl, fits⟩⟩
  apply (keeps_reading (reads_countPVCs nodePool) w kept).bindOk
  · exact fun _ w kept => goesOn w kept
  intro pvcCount w kept
  change Safe _ _ (if _ then (if _ then _ else _) else (if _ then _ else _)) _ w
  split
  · split
    · apply (safe_switchToParallel nodePool counted sts w kept).bind
      intro returned w kept
      exact ⟨kept, error_not_ok⟩
    · exact goesOn w kept
  · split
    · apply (keeps_carrying (serves_carries.waitForSTSDelete counted) w kept).bindOk
      · exact fun _ _ kept => ⟨kept, error_not_ok⟩
      intro _ w kept
      exact goesOn w kept
    · exact goesOn w kept

theorem safe_parallelRecovery (enabled : Bool) (cr : OpenSearchCluster) (nodePool : NodePool)
    (sts : StatefulSet) (fits : Fits name r existing)
    (kept : Kept name r w) :
    Safe (Alone name r) (Kept name r) (parallelRecovery enabled cr nodePool existing sts)
      (fun step w => Kept name r w ∧ ∀ object, step = .ok object →
        object.name = existing.name ∧ Fits name r object) w := by
  rw [parallelRecovery]
  split
  · split
    · apply (safe_waitForSTSStatus existing (fun _ _ kept _ there => Kept.stored kept there)
        (fun _ kept => kept) Kept.stable kept).bind
      rintro waited w ⟨kept, accepted⟩
      cases waited with
      | error err => exact ⟨kept, error_not_ok⟩
      | ok new =>
        obtain ⟨named, newFits⟩ := accepted new rfl
        apply (safe_decideRecovery cr nodePool sts newFits kept).mono
        rintro step w ⟨kept, result⟩
        rw [named] at result
        exact ⟨kept, result⟩
    · exact safe_decideRecovery cr nodePool sts fits kept
  · exact ⟨kept, fun _ same => Except.ok.inj same ▸ ⟨rfl, fits⟩⟩

theorem safe_enforceDesired (existing : StatefulSet) (fits : Fits name r sts) :
    Keeps (Alone name r) (Kept name r) (Kept name r) (enforceDesired existing sts) := by
  intro w kept
  apply (safe_reconcileFitting fits kept).bind
  intro ⟨result, err, object⟩ w ⟨kept, still⟩
  change Safe _ _ (if _ then _ else _) _ w
  split
  · apply (keeps_carrying (serves_carries.deleteSTSWithOrphan existing) w kept).bindNone
    · exact fun _ _ kept => kept
    intro w kept
    apply (safe_reconcileFitting still kept).bind
    intro again w ⟨kept, _⟩
    exact kept
  · exact kept

theorem safe_updateNodeStatefulSet (cr : OpenSearchCluster) (nodePool : NodePool)
    (same : existing.name = sts.name) (fits : Fits name r existing) :
    Keeps (Alone name r) (Kept name r) (Kept name r)
      (updateNodeStatefulSet cr nodePool existing sts) := by
  intro w kept
  apply (keeps_asking (.chore _) trivial w kept).bindDone
  · exact fun _ _ _ kept => kept
  intro result w kept
  apply (keeps_carrying ((maintains_carries nodePool).maybeUpdateVolumes existing) w kept).bindNone
  · exact fun _ _ kept => kept
  intro w kept
  apply (keeps_carrying ((maintains_carries nodePool).updateOrphanedPodLabels existing _) w
    kept).bind
  intro _ w kept
  have desired : ∀ podEnv, Fits name r
      { sts with replicas := existing.replicas, podEnv := podEnv } :=
    fun _ named => fits (same.trans named)
  exact safe_enforceDesired existing (desired _) w kept

theorem safe_reconcileExisting (enabled : Bool) (cr : OpenSearchCluster) (nodePool : NodePool)
    (same : existing.name = sts.name) (fits : Fits name r existing) :
    Keeps (Alone name r) (Kept name r) (Kept name r)
      (reconcileExisting enabled cr nodePool existing sts) := by
  intro w kept
  apply (safe_fixSelector existing sts kept).bind
  intro step w ⟨kept, fixed⟩
  match step, fixed with
  | .error returned, _ => exact kept
  | .ok object, fixed =>
    apply (safe_parallelRecovery enabled cr nodePool object fits kept).bind
    intro step w ⟨kept, recovered⟩
    match step, recovered with
    | .error returned, _ => exact kept
    | .ok found, recovered =>
      obtain ⟨named, still⟩ := recovered found rfl
      exact safe_updateNodeStatefulSet cr nodePool
        (named.trans (same.trans (fixed object rfl).symm)) still w kept

theorem safe_reconcileNodeStatefulSet (enabled : Bool) (cr : OpenSearchCluster)
    (nodePool : NodePool) : Keeps (Alone name r) (Kept name r) (Kept name r)
      (reconcileNodeStatefulSet enabled cr nodePool) := by
  intro w kept
  apply (keeps_asking (.fetchNodePoolHash _) trivial w kept).bind
  intro hash w kept
  cases hash with
  | none => exact kept
  | some configHash =>
    let sts := newSTSForNodePool cr nodePool configHash
    refine ⟨kept, fun choice alone => ?_⟩
    have later := kept.call alone trivial
    have created : Safe (Alone name r) (Kept name r) (reconcileResource sts .created)
        (fun result w => Kept name r w ∧ result.2.2.name = sts.name)
        (w.extend (w.arrive choice (.note (.turnTo sts.name nodePool.replicas)))) := by
      by_cases named : sts.name = name
      · rcases alone.turn nodePool.replicas (if_pos named) with size | standing
        · exact safe_reconcileCreated sts (fun _ => size) _ later
        · exact safe_reconcileStanding later named standing
      · exact safe_reconcileCreated sts (fun same => absurd same named) _ later
    apply created.bind
    rintro reconciled w ⟨kept, _⟩
    cases goOn reconciled with
    | error returned => exact kept
    | ok object =>
      apply (safe_readStatefulSet object.name kept).bind
      rintro reply w ⟨kept, read⟩
      rcases reply with err | existing
      · exact kept
      · obtain ⟨same, fits⟩ := read existing rfl
        exact safe_reconcileExisting enabled cr nodePool same fits w kept

theorem safe_reconcileNodePools (enabled : Bool) (cr : OpenSearchCluster)
    (nodePools : List NodePool) (result : CombinedResult) :
    Keeps (Alone name r) (Kept name r) (Kept name r)
      (reconcileNodePools enabled cr nodePools result) := by
  induction nodePools generalizing result with
  | nil => exact keeps_pure result
  | cons nodePool nodePools ih =>
    apply (keeps_asking (.chore _) trivial).bind
    intro service
    apply (safe_reconcileNodeStatefulSet enabled cr nodePool).bind
    intro returned
    exact ih _

theorem safe_clusterPass (enabled : Bool) :
    Keeps (Alone name r) (Kept name r) (Kept name r) (clusterPass enabled) := by
  apply (keeps_asking (.request .getCluster) trivial).bindOk
  · exact fun _ => keeps_pure ()
  intro cr
  have reconciled : Keeps (Alone name r) (Kept name r) (Kept name r) (reconcile enabled cr) := by
    apply (keeps_asking (.chore _) trivial).bind
    intro ⟨_, err⟩
    cases err with
    | some err => exact keeps_pure _
    | none =>
      apply (keeps_carrying (serves_carries.performChores _ _)).bind
      intro result
      apply (safe_reconcileNodePools enabled cr _ _).bind
      intro result
      apply (keeps_carrying serves_carries.finishReconcile).bind
      intro result
      exact keeps_pure _
  exact reconciled.bind fun _ => keeps_pure ()

end Steps

/-- The size of a StatefulSet survives every step of the cluster reconciler. -/
theorem cluster_reconciler_keeps_size (enabled : Bool) (name : String) (r : Int) (start : ApiWorld)
    (passes : List (List Choice)) (initially : Kept name r start)
    (alone : ∀ e ∈ (runs (clusterPass enabled) passes start).past, Alone name r e) :
    Kept name r (runs (clusterPass enabled) passes start) :=
  runs_keep (safe_clusterPass enabled) passes start initially alone

def dataPod (pod : String) : Pod :=
  { name := pod, labels := [(clusterLabel, "logs"), (nodePoolLabel, "data")]
    deleting := false, conditions := [("Ready", "True")] }

def dataClaim (claim : String) : PersistentVolumeClaim :=
  { name := claim, labels := [(clusterLabel, "logs"), (nodePoolLabel, "data")], storage := 10 }

def largerVolumes : ApiWorld where
  state :=
    { cluster :=
        { name := "logs", resourceVersion := 1
          spec := { general := ⟨"2.11.0", true⟩, confMgmt := ⟨true⟩, dashboards := ⟨false⟩
                    nodePools := [⟨"data", 2, ["data"], none, 20, "", ""⟩] }
          status := ⟨"RUNNING", [], "2.11.0", true, 0, "green"⟩ }
      statefulSets := ⟨[
        { name := "logs-data", labels := [(clusterLabel, "logs"), (nodePoolLabel, "data")]
          replicas := 3, selector := [(clusterLabel, "logs"), (nodePoolLabel, "data")]
          podManagementPolicy := .orderedReady, volumeClaimTemplates := [10]
          podTemplate := "", podEnv := "", deleting := false
          status := ⟨3, 3, 3, 3, "a", "a"⟩ }], by decide⟩
      pods := ⟨[dataPod "logs-data-0", dataPod "logs-data-1", dataPod "logs-data-2"], by decide⟩
      claims := ⟨[dataClaim "data-logs-data-0", dataClaim "data-logs-data-1",
        dataClaim "data-logs-data-2"], by decide⟩
      settings := ⟨none, none⟩
      health := ⟨"green", 0, 0, 0, []⟩
      shards := []
      explain := fun _ _ _ => ⟨"", "", "", "", []⟩
      indices := []
      clock := 0 }
  past := []

def collect (name : String) (s : State) : State :=
  if Standing name s then s else { s with statefulSets := s.statefulSets.remove name }

def promptCollection : List (List Choice) :=
  [.replicate 60 { others := collect "logs-data" }]

theorem resized_volumes_keep_size :
    (runs (clusterPass true) promptCollection largerVolumes).state.size "logs-data" = some 3 ∧
      Kept "logs-data" 3 (runs (clusterPass true) promptCollection largerVolumes) := by
  constructor
  · decide
  · exact cluster_reconciler_keeps_size true "logs-data" 3 largerVolumes promptCollection
      (Or.inr rfl) (by decide)

/-- Two passes without a failure. The StatefulSet that the first one deleted is
removed only after the pass. -/
def slowCollection : List (List Choice) :=
  [.replicate 60 {}, { others := collect "logs-data" } :: .replicate 16 {}]

/-- When the volumes of a pool are resized, its StatefulSet may come back with the
count of the node pool. -/
theorem resized_volumes_change_size :
    (∀ e ∈ (runs (clusterPass true) slowCollection largerVolumes).past,
      Unshared "logs-data" e ∧ e.choice.outcome = .served) ∧
    largerVolumes.state.size "logs-data" = some 3 ∧
    (runs (clusterPass true) slowCollection largerVolumes).state.size "logs-data" = some 2 := by
  decide

end OpenSearchOperator.Reconcilers.Cluster
