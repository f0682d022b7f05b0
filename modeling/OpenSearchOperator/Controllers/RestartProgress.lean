import Mathlib.Data.Prod.Lex
import Mathlib.Data.String.Basic
import OpenSearchOperator.Api.Served
import OpenSearchOperator.Controllers.Quorum

/-! Whether a pass of the rolling restart reconciler gets on with a restart that is
due, when nobody disturbs it and every call is served. -/

namespace OpenSearchOperator.Controllers

open Api Data Effects
open Gateway Helpers Reconcilers

section Vocabulary

def Outdated (s : State) (sts : StatefulSet) (pod : Pod) : Prop :=
  ∃ i < sts.replicas.toNat, s.pods.get (replicaHostName sts i) = some pod ∧
    pod.labels.get stsRevisionLabel ≠ some sts.status.updateRevision

def UpdatePending (sts : StatefulSet) : Prop :=
  sts.status.updateRevision ≠ "" ∧ sts.status.updatedReplicas ≠ sts.replicas

/-- All pods are updated, but the StatefulSet does not say so in its current revision. -/
def Lagging (sts : StatefulSet) : Prop :=
  sts.status.updateRevision ≠ "" ∧ sts.status.updatedReplicas = sts.replicas ∧
    sts.status.currentRevision ≠ sts.status.updateRevision

def Restartable (s : State) (sts : StatefulSet) : Prop :=
  UpdatePending sts ∧ ∃ pod, Outdated s sts pod

structure PoolReady (cr : OpenSearchCluster) (s : State) (np : NodePool) (sts : StatefulSet) :
    Prop where
  stored : s.statefulSets.get (stsName cr np) = some sts
  revised : ∀ i < sts.replicas.toNat, ∃ pod revision,
    s.pods.get (replicaHostName sts i) = some pod ∧ pod.labels.get stsRevisionLabel = some revision
  ready : (readyOf cr s np : Int) = sts.replicas

def AllReady (cr : OpenSearchCluster) (s : State) (pools : List NodePool) : Prop :=
  ∀ np ∈ pools, ∃ sts, PoolReady cr s np sts

structure Settled (cr : OpenSearchCluster) (s : State) : Prop where
  initialized : cr.status.initialized = true
  version : cr.status.version = cr.spec.general.version
  undrained : cr.spec.general.drainDataNodes = false
  green : s.health.status = "green"
  ready : AllReady cr s cr.spec.nodePools

def Reported (cr : OpenSearchCluster) (s : State) (pools : List NodePool) : Prop :=
  ∀ np ∈ pools, ∀ sts, s.statefulSets.get (stsName cr np) = some sts → Lagging sts →
    sts.status.readyReplicas = sts.replicas

def Spared (cr : OpenSearchCluster) (s : State) (pools : List NodePool) : Prop :=
  ∃ np ∈ pools, ∃ sts, s.statefulSets.get (stsName cr np) = some sts ∧ Restartable s sts ∧
    (hasManagerRole np = false ∨ 1 < masterReplicas cr s)

end Vocabulary

section Alike

def revise (sts : StatefulSet) : StatefulSet :=
  { sts with status := { sts.status with currentRevision := sts.status.updateRevision } }

/-- The states differ at most in the current revisions of StatefulSets and in what
no part of a restart looks at. -/
structure Alike (s t : State) : Prop where
  pods : t.pods = s.pods
  health : t.health = s.health
  sets : ∀ name, (t.statefulSets.get name).map revise = (s.statefulSets.get name).map revise

variable {cr : OpenSearchCluster} {s t u : State} {sts other : StatefulSet} {pools : List NodePool}
  {pod : Pod}

theorem Alike.refl (s : State) : Alike s s := ⟨rfl, rfl, fun _ => rfl⟩

theorem Alike.trans (first : Alike s t) (second : Alike t u) : Alike s u :=
  ⟨second.pods.trans first.pods, second.health.trans first.health,
    fun name => (second.sets name).trans (first.sets name)⟩

theorem Alike.symm (alike : Alike s t) : Alike t s :=
  ⟨alike.pods.symm, alike.health.symm, fun name => (alike.sets name).symm⟩

theorem Alike.stored (alike : Alike s t) {name : String}
    (there : s.statefulSets.get name = some sts) :
    ∃ other, t.statefulSets.get name = some other ∧ revise other = revise sts := by
  have same := alike.sets name
  rw [there] at same
  exact Option.map_eq_some_iff.mp same

theorem Alike.size (alike : Alike s t) (name : String) : t.size name = s.size name := by
  have replicas : StatefulSet.replicas = StatefulSet.replicas ∘ revise := rfl
  rw [State.size, State.size, replicas, ← Option.map_map, ← Option.map_map, alike.sets name]

theorem Alike.masterReplicas (alike : Alike s t) : masterReplicas cr t = masterReplicas cr s := by
  simp only [Controllers.masterReplicas, alike.size]

theorem Alike.outdated (alike : Alike s t) : Outdated t sts pod ↔ Outdated s sts pod := by
  rw [Outdated, Outdated, alike.pods]

theorem outdated_revise : Outdated s (revise sts) pod ↔ Outdated s sts pod := Iff.rfl

theorem pending_revise : UpdatePending (revise sts) ↔ UpdatePending sts := Iff.rfl

theorem revise_same (same : revise other = revise sts) :
    other.name = sts.name ∧ other.replicas = sts.replicas := by
  have name : (revise other).name = (revise sts).name := congrArg StatefulSet.name same
  have replicas : (revise other).replicas = (revise sts).replicas :=
    congrArg StatefulSet.replicas same
  exact ⟨name, replicas⟩

theorem Alike.poolReady (alike : Alike s t) {np : NodePool} (ready : PoolReady cr s np sts) :
    ∃ other, PoolReady cr t np other := by
  obtain ⟨other, there, same⟩ := alike.stored ready.stored
  obtain ⟨name, replicas⟩ := revise_same same
  refine ⟨other, there, ?_, ?_⟩
  · intro i below
    rw [replicas] at below
    rw [alike.pods, replicaHostName, name]
    exact ready.revised i below
  · rw [readyOf, alike.pods, replicas]
    exact ready.ready

theorem Alike.allReady (alike : Alike s t) (all : AllReady cr s pools) : AllReady cr t pools := by
  intro np member
  obtain ⟨sts, ready⟩ := all np member
  exact alike.poolReady ready

theorem Alike.restartable (alike : Alike s t)
    (same : revise other = revise sts) (restartable : Restartable s sts) : Restartable t other := by
  obtain ⟨pending, pod, outdated⟩ := restartable
  refine ⟨?_, pod, ?_⟩
  · rw [← pending_revise, same]
    exact pending
  · rw [alike.outdated, ← outdated_revise, same]
    exact outdated

theorem Alike.spared (alike : Alike s t) (spared : Spared cr s pools) : Spared cr t pools := by
  obtain ⟨np, member, sts, there, restartable, safe⟩ := spared
  obtain ⟨other, stored, same⟩ := alike.stored there
  refine ⟨np, member, other, stored, alike.restartable same restartable, ?_⟩
  rw [alike.masterReplicas]
  exact safe

theorem alike_put (there : s.statefulSets.get sts.name = some sts) :
    Alike s { s with statefulSets := s.statefulSets.put (revise sts) } := by
  refine ⟨rfl, rfl, fun name => ?_⟩
  rw [Store.get_put]
  split
  case isTrue same =>
    have name : name = sts.name := same
    rw [name, there]
    rfl
  case isFalse => rfl

theorem alike_withStatus {status : ClusterStatus} : Alike s (s.withStatus status) :=
  ⟨rfl, rfl, fun _ => rfl⟩

end Alike

section Check

open RollingRestart

variable {cr : OpenSearchCluster} {s t : State} {sts : StatefulSet} {np : NodePool}
  {pools : List NodePool} {pending : Bool}

theorem followServed_readyReplicas :
    followServed (readyReplicasForNodePool cr np) s = (.ok (readyOf cr s np : Int), s) := by
  rw [readyReplicasForNodePool, countRunningPodsForNodePool, listPodsForNodePool,
    followServed_bind, followServed_request, serve, followServed_pure, List.filter_filter,
    readyOf, List.countP_eq_length_filter]

theorem followServed_updateRevision {asked : StatefulSet} (named : asked.name = sts.name)
    (there : s.statefulSets.get sts.name = some sts) :
    followServed (retryOnConflict updateRevisionAttempt defaultRetry asked) s =
      ((none, revise sts), { s with statefulSets := s.statefulSets.put (revise sts) }) := by
  have attempt : followServed (updateRevisionAttempt asked) s =
      ((none, revise sts), { s with statefulSets := s.statefulSets.put (revise sts) }) := by
    rw [updateRevisionAttempt, followServed_bind, followServed_request, serve, named, there]
    change followServed (updateStatefulSetStatus (revise sts) >>= _) s = _
    have again : s.statefulSets.get (revise sts).name = some sts := there
    rw [followServed_bind, followServed_request, serve, again]
    rfl
  rw [defaultRetry, retryOnConflict, followServed_bind, attempt]
  rfl

def counted (sts : StatefulSet) (ready : Int) : StatefulSet :=
  { sts with status := { sts.status with readyReplicas := ready } }

theorem followServed_checkRevision (ready : Int) (there : s.statefulSets.get sts.name = some sts) :
    (UpdatePending sts ∧
      followServed (checkRevision (counted sts ready)) s = (.ok (counted sts ready, true), s)) ∨
    (Lagging sts ∧ followServed (checkRevision (counted sts ready)) s =
      (.ok (revise sts, false), { s with statefulSets := s.statefulSets.put (revise sts) })) ∨
    (¬ UpdatePending sts ∧ ¬ Lagging sts ∧
      followServed (checkRevision (counted sts ready)) s =
        (.ok (counted sts ready, false), s)) := by
  rw [checkRevision]
  by_cases pending : UpdatePending sts
  · have first : (counted sts ready).status.updateRevision ≠ "" ∧
        (counted sts ready).status.updatedReplicas ≠ (counted sts ready).replicas := pending
    rw [if_pos first]
    exact Or.inl ⟨pending, rfl⟩
  · have first : ¬ ((counted sts ready).status.updateRevision ≠ "" ∧
        (counted sts ready).status.updatedReplicas ≠ (counted sts ready).replicas) := pending
    rw [if_neg first]
    right
    by_cases lags : (counted sts ready).status.updateRevision ≠ "" ∧
        (counted sts ready).status.currentRevision ≠ (counted sts ready).status.updateRevision
    · left
      have updated : sts.status.updatedReplicas = sts.replicas := by
        by_contra other
        exact pending ⟨lags.1, other⟩
      refine ⟨⟨lags.1, updated, lags.2⟩, ?_⟩
      have same : (counted sts ready).name = sts.name := rfl
      rw [if_pos lags, followServed_bind, followServed_updateRevision same there]
      rfl
    · right
      rw [if_neg lags]
      exact ⟨pending, fun lagging => lags ⟨lagging.1, lagging.2.2⟩, rfl⟩

theorem Reported.cons_iff (there : s.statefulSets.get (stsName cr np) = some sts) :
    Reported cr s (np :: pools) ↔
      (Lagging sts → sts.status.readyReplicas = sts.replicas) ∧ Reported cr s pools := by
  constructor
  · intro reported
    exact ⟨reported np List.mem_cons_self sts there,
      fun other member => reported other (List.mem_cons_of_mem _ member)⟩
  · intro ⟨here, others⟩ other member stored there' lagging
    rcases List.mem_cons.mp member with rfl | later
    · cases there.symm.trans there'
      exact here lagging
    · exact others other later stored there' lagging

theorem reported_put (there : s.statefulSets.get sts.name = some sts)
    (fits : sts.status.readyReplicas = sts.replicas) :
    Reported cr { s with statefulSets := s.statefulSets.put (revise sts) } pools ↔
      Reported cr s pools := by
  constructor
  · intro reported np member other stored lagging
    by_cases same : stsName cr np = sts.name
    · rw [same, there] at stored
      cases stored
      exact fits
    · apply reported np member other _ lagging
      rw [Store.get_put_ne _ (revise sts) same]
      exact stored
  · intro reported np member other stored lagging
    rw [Store.get_put] at stored
    split at stored
    · cases stored
      exact fits
    · exact reported np member other stored lagging

def AnyPending (cr : OpenSearchCluster) (s : State) (pools : List NodePool) : Prop :=
  ∃ np ∈ pools, ∃ sts, s.statefulSets.get (stsName cr np) = some sts ∧ UpdatePending sts

theorem AnyPending.cons_iff (there : s.statefulSets.get (stsName cr np) = some sts) :
    AnyPending cr s (np :: pools) ↔ UpdatePending sts ∨ AnyPending cr s pools := by
  constructor
  · intro ⟨other, member, stored, there', pending⟩
    rcases List.mem_cons.mp member with rfl | later
    · cases there.symm.trans there'
      exact Or.inl pending
    · exact Or.inr ⟨other, later, stored, there', pending⟩
  · intro either
    rcases either with pending | ⟨other, member, rest⟩
    · exact ⟨np, List.mem_cons_self, sts, there, pending⟩
    · exact ⟨other, List.mem_cons_of_mem _ member, rest⟩

theorem Alike.anyPending (alike : Alike s t) (any : AnyPending cr s pools) :
    AnyPending cr t pools := by
  obtain ⟨np, member, sts, there, pending⟩ := any
  obtain ⟨other, stored, same⟩ := alike.stored there
  refine ⟨np, member, other, stored, ?_⟩
  rw [← pending_revise, same]
  exact pending

def CheckOutcome (cr : OpenSearchCluster) (pools : List NodePool) (before : Bool) (s t : State)
    (result : Except (Result × Option Failure) Bool) : Prop :=
  Alike s t ∧ ((Reported cr s pools ∧ ∃ pending, result = .ok pending ∧
        (pending = true ↔ before = true ∨ AnyPending cr s pools)) ∨
      (¬ Reported cr s pools ∧ ∃ returned, result = .error returned))

theorem CheckOutcome.cons {before : Bool} {u : State}
    {result : Except (Result × Option Failure) Bool}
    (there : s.statefulSets.get (stsName cr np) = some sts) (alike : Alike s t)
    (fits : Lagging sts → sts.status.readyReplicas = sts.replicas)
    (reported : Reported cr t pools ↔ Reported cr s pools)
    (due : pending = true ↔ UpdatePending sts)
    (rest : CheckOutcome cr pools (before || pending) t u result) :
    CheckOutcome cr (np :: pools) before s u result := by
  refine ⟨alike.trans rest.1, ?_⟩
  rw [Reported.cons_iff there]
  rcases rest.2 with ⟨fine, value, same, meaning⟩ | ⟨stale, failed⟩
  · refine Or.inl ⟨⟨fits, reported.mp fine⟩, value, same, ?_⟩
    have any : AnyPending cr t pools ↔ AnyPending cr s pools :=
      ⟨alike.symm.anyPending, alike.anyPending⟩
    rw [meaning, AnyPending.cons_iff there, any, Bool.or_eq_true, due, or_assoc]
  · exact Or.inr ⟨fun both => stale (reported.mpr both.2), failed⟩

theorem followServed_checkNodePool (ready : PoolReady cr s np sts) (pools : List NodePool)
    (before : Bool) {seen : StatefulSet}
    (checked : followServed (checkRevision (counted sts (readyOf cr s np))) s =
      (.ok (seen, pending), t)) : followServed (checkNodePools cr (np :: pools) before) s =
      if seen.status.readyReplicas ≠ seen.replicas then (.error (waitForRestart, none), t)
      else followServed (checkNodePools cr pools (before || pending)) t := by
  rw [checkNodePools, followServed_bind, followServed_request, serve, ready.stored, found]
  rw [followServed_bind, followServed_readyReplicas]
  change followServed (checkRevision (counted sts (readyOf cr s np)) >>= _) s = _
  rw [followServed_bind, checked]
  dsimp only
  split <;> rfl

theorem followServed_checkNodePools (pools : List NodePool) (before : Bool) (s : State)
    (all : AllReady cr s pools) :
    CheckOutcome cr pools before s (followServed (checkNodePools cr pools before) s).2
      (followServed (checkNodePools cr pools before) s).1 := by
  induction pools generalizing before s with
  | nil =>
    have none : ¬ AnyPending cr s [] := by
      intro ⟨np, member, _⟩
      cases member
    refine ⟨Alike.refl s, Or.inl ⟨nofun, before, rfl, ?_⟩⟩
    simp [none]
  | cons np pools ih =>
    obtain ⟨sts, ready⟩ := all np List.mem_cons_self
    have others : AllReady cr s pools := fun other member =>
      all other (List.mem_cons_of_mem _ member)
    have key : stsName cr np = sts.name := (Store.get_key _ _ _ ready.stored).symm
    have there : s.statefulSets.get sts.name = some sts := key ▸ ready.stored
    have full : ¬ (counted sts (readyOf cr s np)).status.readyReplicas ≠
        (counted sts (readyOf cr s np)).replicas := fun short => short ready.ready
    rcases followServed_checkRevision (readyOf cr s np) there with
      ⟨pending, checked⟩ | ⟨lagging, checked⟩ | ⟨current, steady, checked⟩
    · rw [followServed_checkNodePool ready pools before checked, if_neg full]
      have notLagging : ¬ Lagging sts := fun lagging => pending.2 lagging.2.1
      exact CheckOutcome.cons ready.stored (Alike.refl s) (fun lagging => absurd lagging notLagging)
        Iff.rfl (by simp [pending]) (ih _ s others)
    · rw [followServed_checkNodePool ready pools before checked]
      by_cases fits : sts.status.readyReplicas = sts.replicas
      · have fine : ¬ (revise sts).status.readyReplicas ≠ (revise sts).replicas :=
          fun short => short fits
        have notPending : ¬ UpdatePending sts := fun pending => pending.2 lagging.2.1
        rw [if_neg fine]
        exact CheckOutcome.cons ready.stored (alike_put there) (fun _ => fits)
          (reported_put there fits) (by simp [notPending])
          (ih _ _ ((alike_put there).allReady others))
      · have short : (revise sts).status.readyReplicas ≠ (revise sts).replicas := fits
        rw [if_pos short]
        refine ⟨alike_put there, Or.inr ⟨?_, _, rfl⟩⟩
        intro reported
        exact fits (reported np List.mem_cons_self sts ready.stored lagging)
    · rw [followServed_checkNodePool ready pools before checked, if_neg full]
      exact CheckOutcome.cons ready.stored (Alike.refl s) (fun lagging => absurd lagging steady)
        Iff.rfl (by simp [current]) (ih _ s others)

end Check

section Candidates

open RollingRestart

variable {candidates : List Candidate}

def Old (s : State) (sts : StatefulSet) (i : Nat) : Prop :=
  ∃ pod revision, s.pods.get (replicaHostName sts i) = some pod ∧
    pod.labels.get stsRevisionLabel = some revision ∧ revision ≠ sts.status.updateRevision

def OldPod (cr : OpenSearchCluster) (s : State) (np : NodePool) (i : Nat) : Prop :=
  np ∈ cr.spec.nodePools ∧ ∃ sts, s.statefulSets.get (stsName cr np) = some sts ∧
    UpdatePending sts ∧ i < sts.replicas.toNat ∧ Old s sts i

variable {cr : OpenSearchCluster} {s t : State} {sts : StatefulSet} {pools : List NodePool}
  {rest : List Candidate} {next : Candidate}

theorem found_lowest {ordinals : List Nat} (ordered : ordinals.Pairwise (· < ·))
    {found : Option Pod}
    (result : followServed (findOlderRevision sts ordinals) s = (.ok found, t)) :
    (found = none ∧ ∀ i ∈ ordinals, ¬ Old s sts i) ∨
    ∃ (pod : Pod) (i : Nat), found = some pod ∧ i ∈ ordinals ∧ Old s sts i ∧
      pod.name = replicaHostName sts i ∧ ∀ j ∈ ordinals, Old s sts j → i ≤ j := by
  induction ordinals with
  | nil =>
    cases result
    exact Or.inl ⟨rfl, by simp⟩
  | cons i rest ih =>
    rw [List.pairwise_cons] at ordered
    rw [findOlderRevision, followServed_bind, followServed_request, serve] at result
    cases there : s.pods.get (replicaHostName sts i) with
    | none =>
      rw [there] at result
      cases result
    | some pod =>
      cases labelled : pod.labels.get stsRevisionLabel with
      | none =>
        simp only [there, Api.found, labelled] at result
        cases result
      | some revision =>
        simp only [there, Api.found, labelled] at result
        split at result
        case isTrue older =>
          cases result
          refine Or.inr ⟨pod, i, rfl, List.mem_cons_self, ⟨pod, revision, there, labelled, older⟩,
            s.pods.get_key _ _ there, ?_⟩
          simpa using fun j member _ => (ordered.1 j member).le
        case isFalse current =>
          have new : ¬ Old s sts i := by
            rintro ⟨other, older, same, its, different⟩
            cases there.symm.trans same
            cases labelled.symm.trans its
            exact current different
          rcases ih ordered.2 result with
            ⟨none, others⟩ | ⟨pod, j, some, member, old, named, lowest⟩
          · exact Or.inl ⟨none, by simpa [new] using others⟩
          · exact Or.inr ⟨pod, j, some, List.mem_cons_of_mem _ member, old, named, by
              simpa [new] using lowest⟩

structure Lowest (cr : OpenSearchCluster) (s : State) (np : NodePool) (i : Nat) (c : Candidate) :
    Prop where
  old : OldPod cr s np i
  lowest : ∀ j, OldPod cr s np j → i ≤ j
  named : c.podName = ordinalName (stsName cr np) i
  sorted : (c.isMaster, c.sts.name) = (hasManagerRole np, stsName cr np)

/-- One candidate for each pool that has an older pod. -/
theorem found_candidates (known : ∀ np ∈ pools, np ∈ cr.spec.nodePools)
    (result : followServed (findCandidates cr pools) s = (.ok candidates, t)) :
    (∀ c ∈ candidates, ∃ np i, Lowest cr s np i c) ∧
    ∀ np ∈ pools, ∀ j, OldPod cr s np j → ∃ i, ∃ c ∈ candidates, Lowest cr s np i c := by
  induction pools generalizing candidates t with
  | nil =>
    rw [findCandidates, followServed_pure] at result
    cases result
    exact ⟨by simp, by simp⟩
  | cons np pools ih =>
    have others : ∀ np ∈ pools, np ∈ cr.spec.nodePools := fun np member =>
      known np (List.mem_cons_of_mem _ member)
    rw [findCandidates, followServed_bind, followServed_request, serve] at result
    cases there : s.statefulSets.get (stsName cr np) with
    | none =>
      rw [there, Api.found, followServed_pure] at result
      cases result
    | some sts =>
      rw [there, Api.found] at result
      dsimp only at result
      have key : sts.name = stsName cr np := s.statefulSets.get_key _ _ there
      have older : ∀ j, OldPod cr s np j ↔
          UpdatePending sts ∧ j < sts.replicas.toNat ∧ Old s sts j := by
        simp [OldPod, there, known np List.mem_cons_self]
      split at result
      case isTrue idle =>
        obtain ⟨sound, complete⟩ := ih others result
        have none : ∀ j, ¬ OldPod cr s np j := by
          intro j old
          rw [older, UpdatePending] at old
          tauto
        exact ⟨sound, by simpa [none] using complete⟩
      case isFalse busy =>
        have pending : UpdatePending sts := by simpa [UpdatePending, not_or] using busy
        have scanned : (followServed (getPodWithOlderRevision sts) s).2 = s :=
          followServed_reads (reads_findOlderRevision sts)
        rw [followServed_bind, scanned] at result
        cases scan : (followServed (getPodWithOlderRevision sts) s).1 with
        | error err =>
          rw [scan] at result
          cases result
        | ok found =>
          rw [scan] at result
          rcases found_lowest List.pairwise_lt_range (Prod.ext scan scanned) with
            ⟨rfl, current⟩ | ⟨pod, i, rfl, member, old, named, lowest⟩
          · obtain ⟨sound, complete⟩ := ih others result
            have none : ∀ j, ¬ OldPod cr s np j := by
              intro j old
              rw [older] at old
              exact current j (List.mem_range.mpr old.2.1) old.2.2
            exact ⟨sound, by simpa [none] using complete⟩
          · have listed : (followServed (findCandidates cr pools) s).2 = s :=
              followServed_reads (reads_findCandidates pools)
            rw [followServed_bind, listed] at result
            cases tail : (followServed (findCandidates cr pools) s).1 with
            | error err =>
              rw [tail] at result
              cases result
            | ok candidates =>
              rw [tail, followServed_pure] at result
              cases result
              obtain ⟨sound, complete⟩ := ih others (Prod.ext tail listed)
              have head : Lowest cr s np i ⟨pod.name, sts, np, hasManagerRole np,
                  parseOrdinalFromName pod.name⟩ := by
                refine ⟨(older i).mpr ⟨pending, List.mem_range.mp member, old⟩, fun j other => ?_,
                  named.trans (congrArg (ordinalName · i) key), congrArg _ key⟩
                rw [older] at other
                exact lowest j (List.mem_range.mpr other.2.1) other.2.2
              refine ⟨by simpa using ⟨⟨np, i, head⟩, sound⟩, fun other there j old => ?_⟩
              rcases List.mem_cons.mp there with rfl | later
              · exact ⟨i, _, List.mem_cons_self, head⟩
              · obtain ⟨i, c, member, found⟩ := complete other later j old
                exact ⟨i, c, List.mem_cons_of_mem _ member, found⟩

def sortKey (c : Candidate) : Bool ×ₗ String ×ₗ Intᵒᵈ :=
  toLex (c.isMaster, toLex (c.sts.name, OrderDual.toDual c.ordinal))

theorem less_iff (i j : Candidate) : less j i = false ↔ sortKey i ≤ sortKey j := by
  rw [sortKey, sortKey, Prod.Lex.toLex_le_toLex, Prod.Lex.toLex_le_toLex]
  have names := lt_trichotomy i.sts.name j.sts.name
  cases first : i.isMaster <;> cases second : j.isMaster <;>
    rcases names with below | same | above <;>
    simp [less, *, ne_of_lt, ne_of_gt, not_lt_of_gt]

theorem head_sortCandidates (sorted : sortCandidates candidates = next :: rest) :
    next ∈ candidates ∧ ∀ c ∈ candidates, sortKey next ≤ sortKey c := by
  have total : Std.Total fun i j : Candidate => less j i = false :=
    ⟨fun i j => by simpa only [less_iff] using le_total _ _⟩
  have trans : IsTrans Candidate fun i j => less j i = false :=
    ⟨fun i j k first second => (less_iff i k).mpr
      (((less_iff i j).mp first).trans ((less_iff j k).mp second))⟩
  have ordered := List.pairwise_insertionSort (fun i j : Candidate => less j i = false) candidates
  change (sortCandidates candidates).Pairwise _ at ordered
  rw [sorted, List.pairwise_cons] at ordered
  refine ⟨mem_sortCandidates.mp (sorted ▸ List.mem_cons_self), fun c member => ?_⟩
  have listed := mem_sortCandidates.mpr member
  rw [sorted, List.mem_cons] at listed
  rcases listed with rfl | behind
  · exact le_rfl
  · exact (less_iff next c).mp (ordered.1 c behind)

theorem followServed_findOlderRevision (ordinals : List Nat)
    (revised : ∀ i ∈ ordinals, ∃ pod revision, s.pods.get (replicaHostName sts i) = some pod ∧
        pod.labels.get stsRevisionLabel = some revision) :
    ∃ found, followServed (findOlderRevision sts ordinals) s = (.ok found, s) := by
  induction ordinals with
  | nil => exact ⟨none, rfl⟩
  | cons i rest ih =>
    obtain ⟨pod, revision, there, labelled⟩ := revised i List.mem_cons_self
    rw [findOlderRevision, followServed_bind, followServed_request, serve, there, found]
    simp only [labelled]
    split
    · exact ⟨some pod, rfl⟩
    · exact ih fun j member => revised j (List.mem_cons_of_mem _ member)

theorem followServed_findCandidates (all : AllReady cr s pools) :
    ∃ candidates, followServed (findCandidates cr pools) s = (.ok candidates, s) := by
  induction pools with
  | nil => exact ⟨[], rfl⟩
  | cons np pools ih =>
    obtain ⟨sts, ready⟩ := all np List.mem_cons_self
    obtain ⟨candidates, result⟩ := ih fun other member => all other (List.mem_cons_of_mem _ member)
    rw [findCandidates, followServed_bind, followServed_request, serve, ready.stored, found]
    dsimp only
    split
    · exact ⟨candidates, result⟩
    obtain ⟨older, scanned⟩ := followServed_findOlderRevision (List.range sts.replicas.toNat)
      fun i member => ready.revised i (List.mem_range.mp member)
    rw [followServed_bind, getPodWithOlderRevision, scanned]
    cases older with
    | none => exact ⟨candidates, result⟩
    | some pod =>
      dsimp only
      rw [followServed_bind, result]
      exact ⟨_, rfl⟩

def StandsFor (cr : OpenSearchCluster) (s : State) (pools : List NodePool) (c : Candidate) : Prop :=
  ∃ np ∈ pools, ∃ sts pod, s.statefulSets.get (stsName cr np) = some sts ∧ UpdatePending sts ∧
    Outdated s sts pod ∧ c.podName = pod.name ∧ c.isMaster = hasManagerRole np

def Covers (cr : OpenSearchCluster) (s : State) (pools : List NodePool)
    (candidates : List Candidate) : Prop :=
  ∀ np ∈ pools, ∀ sts, s.statefulSets.get (stsName cr np) = some sts → Restartable s sts →
    ∃ c ∈ candidates, c.isMaster = hasManagerRole np

theorem standsFor_lowest {np : NodePool} {i : Nat} {c : Candidate} (lowest : Lowest cr s np i c) :
    StandsFor cr s cr.spec.nodePools c := by
  obtain ⟨member, sts, there, pending, below, pod, revision, stored, labelled, older⟩ := lowest.old
  refine ⟨np, member, sts, pod, there, pending, ⟨i, below, stored, ?_⟩, ?_,
    congrArg Prod.fst lowest.sorted⟩
  · rw [labelled]
    exact fun same => older (Option.some.inj same)
  · rw [s.pods.get_key _ _ stored, replicaHostName, s.statefulSets.get_key _ _ there]
    exact lowest.named

theorem found_stands (all : AllReady cr s cr.spec.nodePools)
    (result : followServed (findCandidates cr cr.spec.nodePools) s = (.ok candidates, s)) :
    (∀ c ∈ candidates, StandsFor cr s cr.spec.nodePools c) ∧
      Covers cr s cr.spec.nodePools candidates := by
  obtain ⟨sound, complete⟩ := found_candidates (fun _ => id) result
  constructor
  · intro c member
    obtain ⟨np, i, lowest⟩ := sound c member
    exact standsFor_lowest lowest
  · intro np member sts there ⟨pending, pod, i, below, stored, older⟩
    obtain ⟨_, ready⟩ := all np member
    cases there.symm.trans ready.stored
    obtain ⟨same, revision, found, labelled⟩ := ready.revised i below
    cases stored.symm.trans found
    have old : Old s sts i :=
      ⟨pod, revision, stored, labelled, fun equal => older (equal ▸ labelled)⟩
    obtain ⟨_, c, listed, lowest⟩ := complete np member i ⟨member, sts, there, pending, below, old⟩
    exact ⟨c, listed, congrArg Prod.fst lowest.sorted⟩

/-- Managers come last among the candidates. -/
theorem masters_of_head_master
    (sorted : sortCandidates candidates = next :: rest) (master : next.isMaster = true) :
    ∀ c ∈ candidates, c.isMaster = true := by
  intro c member
  have first := Prod.Lex.toLex_le_toLex.mp ((head_sortCandidates sorted).2 c member)
  rw [master] at first
  rcases first with below | same
  · revert below
    cases c.isMaster <;> simp
  · exact same.1.symm

end Candidates

section Pass

open RollingRestart

variable {cr : OpenSearchCluster} {s t : State} {deleted : List String}

theorem followServed_countMasters {pools : List NodePool} (all : AllReady cr s pools) :
    ∃ total, total = ((pools.filter hasManagerRole).map fun np =>
        (s.size (stsName cr np)).getD 0).sum ∧ 0 ≤ total ∧
      followServed (countMasters cr pools) s = (.ok (total, total), s) := by
  induction pools with
  | nil => exact ⟨0, rfl, Int.le_refl 0, rfl⟩
  | cons np pools ih =>
    obtain ⟨sts, ready⟩ := all np List.mem_cons_self
    obtain ⟨total, sum, nonnegative, result⟩ :=
      ih fun other member => all other (List.mem_cons_of_mem _ member)
    rw [countMasters]
    by_cases manager : hasManagerRole np = true
    · have size : (s.size (stsName cr np)).getD 0 = sts.replicas := by
        rw [State.size, ready.stored]
        rfl
      have count := ready.ready
      rw [if_pos manager, followServed_bind, followServed_request, serve, ready.stored, found]
      rw [followServed_bind, followServed_readyReplicas]
      rw [followServed_bind, result, count]
      refine ⟨sts.replicas + total, ?_, by omega, rfl⟩
      rw [List.filter_cons_of_pos manager, List.map_cons, List.sum_cons, size, sum]
    · rw [if_neg manager, List.filter_cons_of_neg manager]
      exact ⟨total, sum, nonnegative, result⟩

def DeletesOutdated (cr : OpenSearchCluster) (s : State) (deleted : List String) : Prop :=
  ∃ np ∈ cr.spec.nodePools, ∃ sts pod, s.statefulSets.get (stsName cr np) = some sts ∧
    Outdated s sts pod ∧ deleted = [pod.name]

theorem Alike.deletesOutdated (alike : Alike s t)
    (deletes : DeletesOutdated cr s deleted) : DeletesOutdated cr t deleted := by
  obtain ⟨np, member, sts, pod, there, outdated, same⟩ := deletes
  obtain ⟨other, stored, equal⟩ := alike.stored there
  refine ⟨np, member, other, pod, stored, ?_, same⟩
  rw [alike.outdated, ← outdated_revise, equal]
  exact outdated

theorem Alike.deletes_iff (alike : Alike s t)
    (later : DeletesOutdated cr t deleted ↔ Spared cr t cr.spec.nodePools) :
    DeletesOutdated cr s deleted ↔ Spared cr s cr.spec.nodePools := by
  constructor
  · intro deletes
    exact alike.symm.spared (later.mp (alike.deletesOutdated deletes))
  · intro spared
    exact alike.symm.deletesOutdated (later.mpr (alike.spared spared))

theorem not_deletesOutdated : ¬ DeletesOutdated cr s [] := by
  intro ⟨_, _, _, _, _, _, impossible⟩
  cases impossible

section Undrained

variable (undrained : cr.spec.general.drainDataNodes = false) (green : s.health.status = "green")
include undrained green

theorem deletedPods_restartSpecificPod (c : Candidate) :
    deletedPods (restartSpecificPod cr c) s = [c.podName] := by
  have reads : (dataNodesCount cr cr.spec.nodePools).OnlyCalls Reads := reads_dataNodesCount _
  have counted : followServed (dataNodesCount cr cr.spec.nodePools) s =
      ((followServed (dataNodesCount cr cr.spec.nodePools) s).1, s) :=
    Prod.ext rfl (followServed_reads reads)
  have checks : (checkClusterStatusForRestart cr.spec.general.drainDataNodes).OnlyCalls Spares :=
    (tunes_checkClusterStatusForRestart).mono fun _ tunes => tunes.gentle.spares
  have checked : followServed (checkClusterStatusForRestart cr.spec.general.drainDataNodes) s =
      (.ok (true, ""), s) := by
    rw [checkClusterStatusForRestart, followServed_bind, followServed_request, serve]
    dsimp only
    rw [if_pos green]
    rfl
  have prepares : ∀ count, (preparePodForDelete c.podName cr.spec.general.drainDataNodes
      count).OnlyCalls Spares :=
    fun count => (tunes_preparePodForDelete _ _ count).mono fun _ tunes => tunes.gentle.spares
  have prepared : ∀ count, followServed (preparePodForDelete c.podName
      cr.spec.general.drainDataNodes count) s =
      (.ok true,
        { s with settings := { s.settings with enable := some allocationPrimaries } }) := by
    intro count
    rw [preparePodForDelete, undrained, if_neg (by decide), setClusterShardAllocation,
      followServed_bind, followServed_bind, followServed_request, serve]
    rfl
  rw [restartSpecificPod, deletedPods_after (reads.mono fun _ reads => reads.spares) counted,
    deletedPods_after checks checked]
  rw [deletedPods_after (prepares _) (prepared _)]
  rw [deletedPods_bind, undrained]
  cases (followServed (deletePod c.podName)
    { s with settings := { s.settings with enable := some allocationPrimaries } }).1 <;> rfl

theorem deletedPods_restartCandidate (c : Candidate) :
    deletedPods (restartCandidate cr c) s = [c.podName] := by
  rw [restartCandidate, deletedPods_bind, deletedPods_restartSpecificPod undrained green c]
  dsimp only
  split
  · rfl
  · split <;> rfl

theorem StandsFor.restarted {c : Candidate} (stands : StandsFor cr s cr.spec.nodePools c)
    (safe : c.isMaster = false ∨ 1 < masterReplicas cr s) :
    DeletesOutdated cr s (deletedPods (restartCandidate cr c) s) ∧
      Spared cr s cr.spec.nodePools := by
  obtain ⟨np, member, sts, pod, there, pending, outdated, name, master⟩ := stands
  rw [deletedPods_restartCandidate undrained green c, name]
  rw [master] at safe
  exact ⟨⟨np, member, sts, pod, there, outdated, rfl⟩,
    ⟨np, member, sts, there, ⟨pending, pod, outdated⟩, safe⟩⟩

theorem deletesOutdated_pickCandidate {candidates : List Candidate}
    (all : AllReady cr s cr.spec.nodePools)
    (stands : ∀ c ∈ candidates, StandsFor cr s cr.spec.nodePools c)
    (covers : Covers cr s cr.spec.nodePools candidates) :
    DeletesOutdated cr s (deletedPods (pickCandidate cr (sortCandidates candidates)) s) ↔
      Spared cr s cr.spec.nodePools := by
  have restarted : ∀ c ∈ candidates, c.isMaster = false ∨ 1 < masterReplicas cr s →
      (DeletesOutdated cr s (deletedPods (restartCandidate cr c) s) ↔
        Spared cr s cr.spec.nodePools) := by
    intro c member safe
    obtain ⟨deletes, spared⟩ := StandsFor.restarted undrained green (stands c member) safe
    exact ⟨fun _ => spared, fun _ => deletes⟩
  cases sorted : sortCandidates candidates with
  | nil =>
    refine ⟨fun deletes => absurd deletes not_deletesOutdated, ?_⟩
    intro ⟨np, member, sts, there, restartable, _⟩
    obtain ⟨c, among, _⟩ := covers np member sts there restartable
    have listed := mem_sortCandidates.mpr among
    rw [sorted] at listed
    cases listed
  | cons next rest =>
    have among : next ∈ candidates := by
      apply mem_sortCandidates.mp
      rw [sorted]
      exact List.mem_cons_self
    rw [pickCandidate]
    by_cases master : next.isMaster = true
    · have masters := masters_of_head_master sorted master
      obtain ⟨total, sum, nonnegative, counted⟩ := followServed_countMasters all
      have replicas : total = masterReplicas cr s := sum
      have counts : (countMasters cr cr.spec.nodePools).OnlyCalls Spares :=
        (reads_countMasters).mono fun _ reads => reads.spares
      have halved : (total + 1).tdiv 2 = (total + 1) / 2 := Int.tdiv_eq_ediv_of_nonneg (by omega)
      rw [if_pos master, deletedPods_after counts counted]
      dsimp only
      rw [halved]
      by_cases unsafe_ : total ≤ (total + 1) / 2
      · have nobody : (next :: rest).find? (fun c => !c.isMaster) = none := by
          apply List.find?_eq_none.mpr
          intro c member
          rw [← sorted] at member
          simp [masters c (mem_sortCandidates.mp member)]
        rw [if_pos unsafe_, nobody]
        refine ⟨fun deletes => absurd deletes not_deletesOutdated, ?_⟩
        intro ⟨np, member, sts, there, restartable, safe⟩
        obtain ⟨c, listed, role⟩ := covers np member sts there restartable
        rw [← role, masters c listed, ← replicas] at safe
        rcases safe with impossible | several
        · cases impossible
        · omega
      · rw [if_neg unsafe_]
        apply restarted next among
        right
        omega
    · rw [if_neg master]
      exact restarted next among (Or.inl (Bool.not_eq_true _ ▸ master))

theorem deletesOutdated_restartFromCandidates (all : AllReady cr s cr.spec.nodePools) :
    DeletesOutdated cr s (deletedPods (restartFromCandidates cr) s) ↔
      Spared cr s cr.spec.nodePools := by
  obtain ⟨candidates, result⟩ := followServed_findCandidates all
  obtain ⟨stands, covers⟩ := found_stands all result
  have finds : (findCandidates cr cr.spec.nodePools).OnlyCalls Spares :=
    (reads_findCandidates _).mono fun _ reads => reads.spares
  rw [restartFromCandidates, deletedPods_after finds result]
  exact deletesOutdated_pickCandidate undrained green all stands covers

theorem deletesOutdated_startRestart (initialized : cr.status.initialized = true)
    (all : AllReady cr s cr.spec.nodePools) :
    DeletesOutdated cr s (deletedPods (startRestart cr) s) ↔ Spared cr s cr.spec.nodePools := by
  let write := fun cluster : OpenSearchCluster =>
    { cluster.status with componentsStatus :=
        setComponentStatus (restartStatus statusInProgress) cluster.status.componentsStatus }
  have written : followServed (updateRestartStatus statusInProgress) s =
      (none, s.withStatus (write s.cluster)) := followServed_updateStatus write s
  have writes : (updateRestartStatus statusInProgress).OnlyCalls Spares := spares_updateStatus
  have alike : Alike s (s.withStatus (write s.cluster)) := alike_withStatus
  have connects : createClientForCluster.OnlyCalls Spares := onlyCalls_asked rfl
  have connected : followServed createClientForCluster (s.withStatus (write s.cluster)) =
      (.ok (), s.withStatus (write s.cluster)) := followServed_request
  rw [startRestart, initialized, if_neg (by decide), deletedPods_after writes written]
  rw [deletedPods_after connects connected]
  rw [globalCandidateRollingRestart, undrained, if_neg (by decide)]
  have still : (s.withStatus (write s.cluster)).health.status = "green" := green
  exact alike.deletes_iff
    (deletesOutdated_restartFromCandidates undrained still (alike.allReady all))

end Undrained

/-- A pass of the rolling restart reconciler over a cluster in which nothing is
amiss deletes one outdated pod, unless the only candidate is the only manager or a
StatefulSet is behind in what it reports. -/
theorem restart_deletes_one_outdated_iff (cr : OpenSearchCluster) (s : State)
    (settled : Settled cr s) :
    DeletesOutdated cr s (deletedPods (RollingRestart.reconcile cr) s) ↔
      Reported cr s cr.spec.nodePools ∧ Spared cr s cr.spec.nodePools := by
  have current : ¬ (cr.status.version ≠ "" ∧ cr.status.version ≠ cr.spec.general.version) :=
    fun upgrading => upgrading.2 settled.version
  have checks : (checkNodePools cr cr.spec.nodePools false).OnlyCalls Spares :=
    (gentle_checkNodePools).mono fun _ gentle => gentle.spares
  have outcome := followServed_checkNodePools cr.spec.nodePools false s settled.ready
  rw [RollingRestart.reconcile, if_neg current]
  generalize checked : followServed (checkNodePools cr cr.spec.nodePools false) s = pair at outcome
  obtain ⟨result, t⟩ := pair
  obtain ⟨alike, either⟩ := outcome
  rw [deletedPods_after checks checked]
  rcases either with ⟨reported, pending, same, due⟩ | ⟨stale, returned, same⟩
  · dsimp only at same
    subst same
    cases pending with
    | false =>
      rw [deletedPods_spares spares_finishRestart]
      refine ⟨fun deletes => absurd deletes not_deletesOutdated, ?_⟩
      rintro ⟨_, np, member, sts, there, restartable, _⟩
      have any : AnyPending cr s cr.spec.nodePools := ⟨np, member, sts, there, restartable.1⟩
      cases due.mpr (Or.inr any)
    | true =>
      have green : t.health.status = "green" := by
        rw [alike.health]
        exact settled.green
      have restart := alike.deletes_iff (deletesOutdated_startRestart settled.undrained green
        settled.initialized (alike.allReady settled.ready))
      exact ⟨fun deletes => ⟨reported, restart.mp deletes⟩, fun both => restart.mpr both.2⟩
  · dsimp only at same
    subst same
    exact ⟨fun deletes => absurd deletes not_deletesOutdated, fun both => absurd both.1 stale⟩

end Pass

def smallCluster : OpenSearchCluster where
  name := "logs"
  resourceVersion := 1
  spec :=
    { general := ⟨"2.11.0", false⟩, confMgmt := ⟨false⟩, dashboards := ⟨false⟩
      nodePools := [⟨"managers", 1, ["cluster_manager"], none, 0, "", ""⟩,
        ⟨"data", 1, ["data"], none, 0, "", ""⟩] }
  status := ⟨"RUNNING", [], "2.11.0", true, 2, "green"⟩

def smallSet (pool : String) (late : Bool) : StatefulSet where
  name := "logs-" ++ pool
  labels := [(clusterLabel, "logs"), (nodePoolLabel, pool)]
  replicas := 1
  selector := [(clusterLabel, "logs"), (nodePoolLabel, pool)]
  podManagementPolicy := .orderedReady
  volumeClaimTemplates := []
  podTemplate := ""
  podEnv := ""
  deleting := false
  status := ⟨1, 1, 1, if late then 0 else 1, if late then "a" else "b", "b"⟩

def smallPod (pool : String) (late : Bool) : Pod where
  name := "logs-" ++ pool ++ "-0"
  labels := [(clusterLabel, "logs"), (nodePoolLabel, pool),
    (stsRevisionLabel, if late then "a" else "b")]
  deleting := false
  conditions := [("Ready", "True")]

def smallState (lateManager lateData : Bool) : State where
  cluster := smallCluster
  statefulSets := ⟨[smallSet "managers" lateManager, smallSet "data" lateData],
    by cases lateManager <;> cases lateData <;> decide⟩
  pods := ⟨[smallPod "managers" lateManager, smallPod "data" lateData],
    by cases lateManager <;> cases lateData <;> decide⟩
  claims := .empty
  settings := ⟨none, none⟩
  health := ⟨"green", 0, 0, 0, []⟩
  shards := []
  explain := fun _ _ _ => ⟨"", "", "", "", []⟩
  indices := []
  clock := 0

theorem poolReady_small {s : State} {np : NodePool} (pool : String) (late : Bool)
    (stored : s.statefulSets.get (stsName smallCluster np) = some (smallSet pool late))
    (there : s.pods.get (replicaHostName (smallSet pool late) 0) = some (smallPod pool late))
    (ready : readyOf smallCluster s np = 1) : PoolReady smallCluster s np (smallSet pool late) := by
  refine ⟨stored, fun i below => ?_, by rw [ready]; rfl⟩
  cases Nat.lt_one_iff.mp below
  exact ⟨smallPod pool late, if late then "a" else "b", there, rfl⟩

theorem settled_smallState (lateManager lateData : Bool) :
    Settled smallCluster (smallState lateManager lateData) := by
  refine ⟨rfl, rfl, rfl, rfl, ?_⟩
  simp only [AllReady, smallCluster, List.forall_mem_cons]
  refine ⟨⟨_, poolReady_small "managers" lateManager ?_ ?_ ?_⟩,
    ⟨_, poolReady_small "data" lateData ?_ ?_ ?_⟩, nofun⟩
  all_goals
    cases lateManager <;> cases lateData <;> decide

theorem late_data_node_is_restarted : DeletesOutdated smallCluster (smallState false true)
      (deletedPods (RollingRestart.reconcile smallCluster) (smallState false true)) := by
  apply (restart_deletes_one_outdated_iff _ _ (settled_smallState false true)).mpr
  constructor
  · have punctual : ∀ np ∈ smallCluster.spec.nodePools,
        ∀ sts ∈ (smallState false true).statefulSets.get (stsName smallCluster np),
        sts.status.currentRevision = sts.status.updateRevision ∨
          sts.status.updatedReplicas ≠ sts.replicas := by
      decide
    intro np member sts stored lagging
    rcases punctual np member sts stored with current | behind
    · exact absurd current lagging.2.2
    · exact absurd lagging.2.1 behind
  · have restartable : Restartable (smallState false true) (smallSet "data" true) :=
      ⟨⟨by decide, by decide⟩, smallPod "data" true, 0, by decide, by decide, by decide⟩
    exact ⟨⟨"data", 1, ["data"], none, 0, "", ""⟩, by decide, smallSet "data" true, by decide,
      restartable, Or.inl (by decide)⟩

/-- The only manager of a cluster is never restarted. -/
theorem late_manager_is_not_restarted : Settled smallCluster (smallState true false) ∧
    (∃ sts pod, (smallState true false).statefulSets.get "logs-managers" = some sts ∧
      sts.status.updatedReplicas < sts.replicas ∧ Outdated (smallState true false) sts pod) ∧
    deletedPods (RollingRestart.reconcile smallCluster) (smallState true false) = [] := by
  refine ⟨settled_smallState true false, ?_, by decide⟩
  exact ⟨smallSet "managers" true, smallPod "managers" true, by decide, by decide, 0, by decide,
    by decide, by decide⟩

end OpenSearchOperator.Controllers
