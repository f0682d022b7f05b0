import OpenSearchOperator.Controllers.RestartProgress

/-! Which pod a rolling restart takes: the documented order over all pods with an older
revision, and the choice of one pod for each pool before the pools are compared. -/

namespace OpenSearchOperator.Controllers.RestartOrder

open Api Data Effects
open Gateway Helpers Reconcilers
open RollingRestart

section Vocabulary

variable (cr : OpenSearchCluster) (s : State)

def poolKey (np : NodePool) : Bool ×ₗ String := toLex (hasManagerRole np, stsName cr np)

/-- The documented order: by pool, and in a pool the highest ordinal first. -/
def podKey (np : NodePool) (i : Nat) : (Bool ×ₗ String) ×ₗ Natᵒᵈ :=
  toLex (poolKey cr np, OrderDual.toDual i)

def IsFirst (name : String) : Prop :=
  ∃ np i, OldPod cr s np i ∧ name = ordinalName (stsName cr np) i ∧
    ∀ np' j, OldPod cr s np' j → podKey cr np i ≤ podKey cr np' j

def FirstPool (np : NodePool) : Prop :=
  (∃ i, OldPod cr s np i) ∧ ∀ np' j, OldPod cr s np' j → poolKey cr np ≤ poolKey cr np'

end Vocabulary

section Sorting

theorem picked_sorted {candidates : List Candidate} {c : Candidate}
    (picked : Picked (sortCandidates candidates) c) :
    c ∈ candidates ∧ ∀ other ∈ candidates, sortKey c ≤ sortKey other := by
  obtain ⟨next, rest, sorted, rfl | ⟨master, member, data⟩⟩ := picked
  · exact head_sortCandidates sorted
  have first := (head_sortCandidates sorted).2 c (mem_sortCandidates.mp member)
  rw [sortKey, sortKey, Prod.Lex.toLex_le_toLex, master, data] at first
  revert first
  simp

end Sorting

section Candidates

variable {cr : OpenSearchCluster} {s t : State} {sts : StatefulSet}

theorem poolKey_le {np np' : NodePool} {i j : Nat} {c c' : Candidate} (first : Lowest cr s np i c)
    (second : Lowest cr s np' j c') (sorted : sortKey c ≤ sortKey c') :
    poolKey cr np ≤ poolKey cr np' := by
  rw [sortKey, sortKey, Prod.Lex.toLex_le_toLex, Prod.Lex.toLex_le_toLex] at sorted
  rw [poolKey, poolKey, ← first.sorted, ← second.sorted, Prod.Lex.toLex_le_toLex]
  exact sorted.imp_right fun same => ⟨same.1, same.2.elim le_of_lt fun equal => equal.1.le⟩

theorem deleted_candidate {name : String} (sets : t.statefulSets = s.statefulSets)
    (pods : t.pods = s.pods) (deleted : name ∈ deletedPods (restartFromCandidates cr) t) :
    ∃ np i, OldPod cr s np i ∧ (∀ j, OldPod cr s np j → i ≤ j) ∧
      name = ordinalName (stsName cr np) i ∧ FirstPool cr s np := by
  have same : OldPod cr t = OldPod cr s := by
    funext np i
    simp only [OldPod, Old, sets, pods]
  have reads : (findCandidates cr cr.spec.nodePools).OnlyCalls Reads := reads_findCandidates _
  have quiet : followServed (findCandidates cr cr.spec.nodePools) t =
      ((followServed (findCandidates cr cr.spec.nodePools) t).1, t) :=
    Prod.ext rfl (followServed_reads reads)
  rw [restartFromCandidates, deletedPods_after (reads.mono fun _ reads => reads.spares) quiet]
    at deleted
  cases listed : (followServed (findCandidates cr cr.spec.nodePools) t).1 with
  | error err =>
    rw [listed] at deleted
    cases deleted
  | ok candidates =>
    rw [listed] at deleted
    obtain ⟨op, called, deletes⟩ := List.mem_filterMap.mp deleted
    obtain ⟨sound, complete⟩ :=
      found_candidates (fun _ => id) (Prod.ext listed (followServed_reads reads))
    rcases followCalls_allowed (S := server) served (picks_pickCandidate _) t op called with
      gentle | ⟨c, picked, rfl⟩
    · rw [deletedPod_spares gentle.spares] at deletes
      cases deletes
    cases deletes
    obtain ⟨member, least⟩ := picked_sorted picked
    obtain ⟨np, i, lowest⟩ := sound c member
    rw [← same]
    refine ⟨np, i, lowest.old, lowest.lowest, lowest.named, ⟨i, same ▸ lowest.old⟩, ?_⟩
    intro np' j old
    obtain ⟨k, c', member, other⟩ := complete np' old.1 j (same ▸ old)
    exact poolKey_le lowest other (least c' member)

end Candidates

/-- Among the pods with an older revision the restart takes the documented one just where
the first of the pools with such pods has a single one of them: the pools come in the
right order, but in a pool the lowest ordinal is taken. -/
theorem restart_picks_documented_iff (cr : OpenSearchCluster) (s : State) (name : String)
    (deleted : name ∈ deletedPods (globalCandidateRollingRestart cr) s) :
    IsFirst cr s name ↔ ∀ np, FirstPool cr s np →
      ∀ i j, OldPod cr s np i → OldPod cr s np j → i = j := by
  obtain ⟨np, i, old, lowest, rfl, first⟩ : ∃ np i, OldPod cr s np i ∧
      (∀ j, OldPod cr s np j → i ≤ j) ∧ name = ordinalName (stsName cr np) i ∧
      FirstPool cr s np := by
    rw [globalCandidateRollingRestart] at deleted
    split at deleted
    · have leaves := (@excludes_cleanStaleExclusionList cr).mono fun _ => And.right
      rw [deletedPods_bind, deletedPods_spares
        (gentle_cleanStaleExclusionList.mono fun _ gentle => gentle.spares)] at deleted
      dsimp only [List.nil_append] at deleted
      split at deleted
      · cases deleted
      split at deleted
      · cases deleted
      exact deleted_candidate
        (followServed_statefulSets (leaves.mono fun _ leaves => leaves _ (by simp)))
        (followServed_pods (leaves.mono fun _ leaves => leaves _ (by simp))) deleted
    · exact deleted_candidate rfl rfl deleted
  -- Pools that are equal in the order have the same StatefulSet.
  have alike : ∀ np' j, poolKey cr np = poolKey cr np' → OldPod cr s np' j → OldPod cr s np j := by
    intro np' j same old'
    have names : stsName cr np = stsName cr np' := (Prod.ext_iff.mp (toLex.injective same)).2
    exact ⟨old.1, names ▸ old'.2⟩
  constructor
  · rintro ⟨np', i', old', named, least⟩ other firstOther
    obtain ⟨_, rfl⟩ := ordinalName_injective named
    have only : ∀ j, OldPod cr s np j → j = i := by
      intro j oldJ
      have upto := (Prod.Lex.toLex_le_toLex.mp (least np j oldJ)).resolve_left
        (first.2 np' i old').not_gt
      exact le_antisymm upto.2 (lowest j oldJ)
    have equal : poolKey cr np = poolKey cr other :=
      le_antisymm (first.2 other _ firstOther.1.choose_spec) (firstOther.2 np i old)
    intro j k oldJ oldK
    rw [only j (alike other j equal oldJ), only k (alike other k equal oldK)]
  · intro single
    refine ⟨np, i, old, rfl, fun np' j old' => Prod.Lex.toLex_le_toLex.mpr ?_⟩
    rcases (first.2 np' j old').lt_or_eq with before | equal
    · exact Or.inl before
    · exact Or.inr ⟨equal, (single np first i j old (alike np' j equal old')).ge⟩

theorem single_late_pod_documented :
    ordinalName "logs-data" 0 ∈
        deletedPods (globalCandidateRollingRestart smallCluster) (smallState false true) ∧
      (IsFirst smallCluster (smallState false true) (ordinalName "logs-data" 0) ↔
        ∀ np, FirstPool smallCluster (smallState false true) np → ∀ i j,
          OldPod smallCluster (smallState false true) np i →
          OldPod smallCluster (smallState false true) np j → i = j) :=
  ⟨by decide +kernel, restart_picks_documented_iff _ _ _ (by decide +kernel)⟩

def twoLate : State :=
  { smallState false true with
    statefulSets := (smallState false true).statefulSets.put
      { smallSet "data" true with replicas := 2, status := ⟨2, 2, 2, 0, "a", "b"⟩ }
    pods := (smallState false true).pods.put
      { smallPod "data" true with name := ordinalName "logs-data" 1 } }

theorem lowest_ordinal_deleted :
    deletedPods (globalCandidateRollingRestart smallCluster) twoLate = [ordinalName "logs-data" 0] ∧
      ¬ IsFirst smallCluster twoLate (ordinalName "logs-data" 0) := by
  refine ⟨by decide +kernel, ?_⟩
  rintro ⟨np, i, ⟨pool, _⟩, named, least⟩
  have data : OldPod smallCluster twoLate ⟨"data", 1, ["data"], none, 0, "", ""⟩ 1 :=
    ⟨by decide, { smallSet "data" true with replicas := 2, status := ⟨2, 2, 2, 0, "a", "b"⟩ },
      by decide, ⟨by decide, by decide⟩, by decide,
      { smallPod "data" true with name := ordinalName "logs-data" 1 }, "a", by decide, by decide,
      by decide⟩
  obtain ⟨names, rfl⟩ := ordinalName_injective named
  rcases List.mem_cons.mp pool with rfl | pool
  · revert names
    decide
  cases List.mem_singleton.mp pool
  rcases Prod.Lex.toLex_le_toLex.mp (least _ 1 data) with before | ⟨_, above⟩
  · exact lt_irrefl _ before
  · revert above
    decide

end OpenSearchOperator.Controllers.RestartOrder
