import OpenSearchOperator.Controllers.OneDeletion
import OpenSearchOperator.Data.Counting

/-! When the deletion of a manager pod leaves a majority of the managers ready. -/

namespace OpenSearchOperator.Controllers

open Api Data Effects
open Helpers Reconcilers

def managerPools (cr : OpenSearchCluster) : List NodePool :=
  cr.spec.nodePools.filter hasManagerRole

def PodOf (cr : OpenSearchCluster) (pool : NodePool) (pod : String) : Prop :=
  ∃ ordinal : Nat, pod = ordinalName (stsName cr pool) ordinal

section AsCounted

def replicasRead (e : ApiEvent) : Int :=
  match e.op with
  | .request (.getStatefulSet name) => (e.before.size name).getD 0
  | _ => 0

def podsListed (e : ApiEvent) : List Pod :=
  match e.op with
  | .request (.listPods matching) =>
    e.before.pods.items.filter (fun pod => pod.labels.Matches matching)
  | _ => []

def totalCounted (counted : List ApiEvent) : Int := (counted.map replicasRead).sum

def readyCounted (counted : List ApiEvent) : Nat := (counted.flatMap podsListed).countP Pod.ready

def selfCounted (pod : String) (counted : List ApiEvent) : Nat :=
  (counted.flatMap podsListed).countP (fun p => p.ready && p.name == pod)

def otherCounted (pod : String) (counted : List ApiEvent) : Nat :=
  (counted.flatMap podsListed).countP (fun p => p.ready && !(p.name == pod))

/-- The events that end with the last listing of pods, a read and a listing for
each manager pool. -/
def lastCount (cr : OpenSearchCluster) (past : List ApiEvent) : List ApiEvent :=
  ((past.dropWhile (fun e => !lists e.op)).take (2 * (managerPools cr).length)).reverse

structure QuorumCounted (cr : OpenSearchCluster) (pod : String) (past : List ApiEvent) : Prop where
  counted : ∃ total ready, LastCount cr total ready (lastCount cr past) past
  majority : 3 ≤ totalCounted (lastCount cr past) →
    totalCounted (lastCount cr past) / 2 + 1 ≤ otherCounted pod (lastCount cr past)

end AsCounted

section Now

def masterReplicas (cr : OpenSearchCluster) (s : State) : Int :=
  ((managerPools cr).map fun np => (s.size (stsName cr np)).getD 0).sum

def readyOf (cr : OpenSearchCluster) (s : State) (pool : NodePool) : Nat :=
  s.pods.items.countP (fun p => p.ready && p.labels.Matches (nodePoolLabels cr pool))

def isManager (cr : OpenSearchCluster) (pod : Pod) : Bool :=
  (managerPools cr).any fun np => pod.labels.Matches (nodePoolLabels cr np)

def selfReady (cr : OpenSearchCluster) (pod : String) (s : State) : Nat :=
  s.pods.items.countP (fun p => (p.ready && isManager cr p) && p.name == pod)

def otherReady (cr : OpenSearchCluster) (pod : String) (s : State) : Nat :=
  s.pods.items.countP (fun p => (p.ready && isManager cr p) && !(p.name == pod))

def QuorumNow (cr : OpenSearchCluster) (pod : String) (s : State) : Prop :=
  3 ≤ masterReplicas cr s → masterReplicas cr s / 2 + 1 ≤ otherReady cr pod s

end Now

/-- The managers are even in number, and the smallest majority of them was counted as ready,
the pod among it. -/
structure BareMajority (pod : String) (counted : List ApiEvent) : Prop where
  three : 3 ≤ totalCounted counted
  even : totalCounted counted % 2 = 0
  bare : readyCounted counted = totalCounted counted / 2 + 1
  among : selfCounted pod counted = 1

/-- The replicas of the pool without a ready pod. -/
def lacking (cr : OpenSearchCluster) (s : State) (pool : NodePool) : Int :=
  (s.size (stsName cr pool)).getD 0 - readyOf cr s pool

/-- As many managers as make a majority impossible lack a ready pod, or do so once this one
is deleted. -/
structure TooManyLacking (cr : OpenSearchCluster) (pod : String) (s : State) : Prop where
  three : 3 ≤ masterReplicas cr s
  many : (masterReplicas cr s - 1) / 2 <
    ((managerPools cr).map (lacking cr s)).sum + selfReady cr pod s

/-- Since the upgrade reconciler was entered nobody else has changed pods or sizes. -/
structure SteadyPods (e : ApiEvent) (past : List ApiEvent) : Prop where
  pods : ∀ x ∈ e :: past, x.before.pods = x.prior.pods
  sizes : ∀ x ∈ e :: past, ∀ name, x.before.size name = x.prior.size name

section Counting

open RollingRestart

variable {cr : OpenSearchCluster}

variable {e : ApiEvent} {counted : List ApiEvent} {sts : StatefulSet} {name : String}
  {total ready : Int}

theorem size_of_told (reply : told (.getStatefulSet name) e = some sts) :
    e.before.size name = some sts.replicas := by
  rw [State.size, told_statefulSet reply]
  rfl

theorem op_of_told {req : Request} {value : req.Payload} (reply : told req e = some value) :
    e.op = .request req := by
  rw [told] at reply
  split at reply
  case isTrue both => exact both.1
  case isFalse => cases reply

theorem replicasRead_of_told (reply : told (.getStatefulSet name) e = some sts) :
    replicasRead e = sts.replicas ∧ podsListed e = [] := by
  rw [replicasRead, podsListed, op_of_told reply]
  dsimp only
  rw [size_of_told reply]
  exact ⟨rfl, rfl⟩

theorem podsListed_of_told {matching : Labels} {pods : List Pod}
    (reply : told (.listPods matching) e = some pods) :
    replicasRead e = 0 ∧ podsListed e = pods ∧ lists e.op = true := by
  have listed : (serve e.before (.listPods matching)).1 = .ok pods := served_of_told reply
  rw [replicasRead, podsListed, op_of_told reply]
  cases listed
  exact ⟨rfl, rfl, rfl⟩

theorem conversation_countMasters {nodePools : List NodePool}
    (talk : Conversation (countMasters cr nodePools) counted (.ok (total, ready))) :
    total = totalCounted counted ∧ ready = readyCounted counted ∧
      counted.length = 2 * (nodePools.filter hasManagerRole).length ∧
      ∀ e ∈ counted.getLast?, lists e.op = true := by
  induction nodePools generalizing counted total ready with
  | nil =>
    obtain ⟨silent, same⟩ := talk
    subst silent
    cases same
    exact ⟨rfl, rfl, rfl, by simp⟩
  | cons np nodePools ih =>
    rw [countMasters] at talk
    split at talk
    case isFalse plain =>
      rw [List.filter_cons_of_neg plain]
      exact ih talk
    case isTrue manager =>
      rw [List.filter_cons_of_pos manager]
      obtain ⟨reading, second, reply, rfl, asked, behind⟩ := (conversation_bind _ _ _ _).mp talk
      cases reply with
      | error err => cases behind.2
      | ok sts =>
        obtain ⟨read, rfl, stored⟩ := conversation_request asked
        obtain ⟨counting, third, here, rfl, listing, further⟩ :=
          (conversation_bind _ _ _ _).mp behind
        cases here with
        | error err => cases further.2
        | ok readyHere =>
          obtain ⟨list, pods, rfl, listed, same⟩ := conversation_readyReplicas listing
          obtain ⟨later, _, rest, rfl, others, final⟩ :=
            (conversation_bind _ _ _ _).mp further
          cases rest with
          | error err => cases final.2
          | ok rest =>
            obtain ⟨silent, result⟩ := final
            subst silent
            cases result
            obtain ⟨totals, readies, lengths, ends⟩ := ih others
            obtain ⟨replicas, none⟩ := replicasRead_of_told stored
            obtain ⟨zero, found, lastly⟩ := podsListed_of_told listed
            refine ⟨?_, ?_, ?_, ?_⟩
            · simp [totalCounted, replicas, zero, totals]
            · simp [readyCounted, none, found, readies, same, List.countP_eq_length_filter]
            · simp [lengths]
              omega
            cases later with
            | nil =>
              intro e final
              cases final
              exact lastly
            | cons x later => simpa using ends

theorem lastCount_eq {past : List ApiEvent}
    (last : LastCount cr total ready counted past) (some_manager : managerPools cr ≠ []) :
    lastCount cr past = counted := by
  obtain ⟨newer, older, rfl, ⟨rest, rfl, talk⟩, unlisted⟩ := last
  obtain ⟨_, _, length, ends⟩ := conversation_countMasters talk
  have nonempty : counted ≠ [] := by
    intro empty
    rw [empty] at length
    have positive := List.length_pos_iff.mpr some_manager
    change 0 = 2 * (managerPools cr).length at length
    omega
  have start : (newer ++ (counted.reverse ++ rest)).dropWhile (fun e => !lists e.op) =
      counted.reverse ++ rest := by
    rw [List.dropWhile_append_of_pos (by simpa using unlisted)]
    obtain ⟨init, final, rfl⟩ := List.eq_nil_or_concat counted |>.resolve_left nonempty
    have listing : lists final.op = true := ends final (by simp)
    simp [listing]
  rw [lastCount, start, List.take_left' (by rw [List.length_reverse]; exact length),
    List.reverse_reverse]

end Counting

section Majority

variable {cr : OpenSearchCluster} {pool other : NodePool} {pod : String} {past : List ApiEvent}

theorem component_of_stsName (same : stsName cr pool = stsName cr other) :
    pool.component = other.component := by
  rw [stsName, stsName, String.append_right_inj] at same
  exact same

theorem podOf_of_old (old : OldRevision cr pool pod past) : PodOf cr pool pod := by
  obtain ⟨read, _, sts, stored, ⟨ordinal, _, named⟩, _⟩ := old
  have name := read.before.statefulSets.get_key _ _ (told_statefulSet stored)
  refine ⟨ordinal, ?_⟩
  rw [named, replicaHostName, name]

theorem PodOf.component (here : PodOf cr pool pod) (there : PodOf cr other pod) :
    pool.component = other.component := by
  obtain ⟨i, rfl⟩ := here
  obtain ⟨j, same⟩ := there
  exact component_of_stsName (ordinalName_injective same).1

theorem quorumCounted_iff {chosen : NodePool} (why : Chosen cr chosen pod past)
    (manager : pool ∈ managerPools cr) (member : PodOf cr pool pod)
    (distinct : (cr.spec.nodePools.map NodePool.component).Nodup)
    (once : selfCounted pod (lastCount cr past) ≤ 1) :
    QuorumCounted cr pod past ↔ ¬ BareMajority pod (lastCount cr past) := by
  have listed : pool ∈ cr.spec.nodePools := List.mem_of_mem_filter manager
  have same : chosen = pool :=
    List.inj_on_of_nodup_map distinct why.listed listed ((podOf_of_old why.old).component member)
  subst same
  obtain ⟨total, ready, counted, last, enough⟩ := why.quorum (List.of_mem_filter manager)
  have found := lastCount_eq last (List.ne_nil_of_mem manager)
  have complete : ∃ total ready, LastCount cr total ready (lastCount cr past) past :=
    ⟨total, ready, found.symm ▸ last⟩
  rw [found] at once
  obtain ⟨newer, older, _, ⟨rest, _, talk⟩, _⟩ := last
  obtain ⟨totals, readies, _⟩ := conversation_countMasters talk
  have parts : readyCounted counted = selfCounted pod counted + otherCounted pod counted :=
    countP_and_not _ _ _
  -- The check has let more than `(total + 1) / 2` ready managers pass.
  have bound : 3 ≤ totalCounted counted →
      (totalCounted counted + 1) / 2 < (readyCounted counted : Int) := by
    intro three
    rw [Int.tdiv_eq_ediv_of_nonneg (by omega)] at enough
    omega
  constructor
  · rintro ⟨_, majority⟩ ⟨three, even, bare, among⟩
    rw [found] at majority three even bare among
    have others := majority three
    omega
  · intro spare
    refine ⟨complete, ?_⟩
    rw [found] at spare ⊢
    intro three
    have let_pass := bound three
    by_contra few
    exact spare ⟨three, by omega, by omega, by omega⟩

theorem ready_of_counted {e : ApiEvent} {earlier : List ApiEvent}
    (linked : Linked e.prior earlier) (steady : SteadyPods e (recent earlier))
    (counted : Since (fun x => Gentle true x.op) (JustCounted cr pool) (recent earlier)) :
    (e.before.size (stsName cr pool)).getD 0 ≤ readyOf cr e.before pool := by
  obtain ⟨newer, older, order, just, gentle⟩ := counted
  match older, just with
  | count :: read :: rest, just =>
    obtain ⟨sts, stored, pods, listed, enough⟩ := just
    have history : earlier = newer ++ count :: read :: (rest ++
        earlier.dropWhile fun x => (enters x.op).isNone) := by
      have whole := List.takeWhile_append_dropWhile (p := fun x => (enters x.op).isNone)
        (l := earlier)
      rw [← whole]
      change recent earlier ++ _ = _
      rw [order]
      simp
    have still : ∀ x ∈ newer ++ [count], x.after.pods = x.prior.pods ∧
        ∀ name, x.after.size name = x.prior.size name := by
      intro x member
      have recently : x ∈ e :: recent earlier := by
        rw [order]
        rcases List.mem_append.mp member with new | last
        · simp [new]
        · simp [List.mem_singleton.mp last]
      have kind : Gentle true x.op := by
        rcases List.mem_append.mp member with new | last
        · exact gentle x new
        · rw [List.mem_singleton.mp last, op_of_told listed]
          rfl
      have answered := answer_gentle x.choice x.before kind
      constructor
      · exact answered.pods.trans (steady.pods x recently)
      · intro name
        exact (answered.size name).trans (steady.sizes x recently name)
    have pods_now : e.before.pods = count.before.pods := by
      have since := (history ▸ linked).unchanged State.pods
        fun x new => (still x (List.mem_append_left _ new)).1
      have listing : count.after = count.before := by
        have quiet := quiet_request (.listPods (nodePoolLabels cr pool)) rfl
        rw [← op_of_told listed] at quiet
        exact quiet _ _
      rw [steady.pods e List.mem_cons_self, since, listing]
    have size_now : e.before.size (stsName cr pool) = some sts.replicas := by
      rw [List.append_cons] at history
      have since := (history ▸ linked).unchanged (fun s => s.size (stsName cr pool))
        fun x new => (still x new).2 _
      have reading : read.after = read.before := by
        have quiet := quiet_request (.getStatefulSet (stsName cr pool)) rfl
        rw [← op_of_told stored] at quiet
        exact quiet _ _
      rw [steady.sizes e List.mem_cons_self, since, reading, size_of_told stored]
    rw [size_now, readyOf, pods_now]
    have same := (podsListed_of_told listed).2.1
    rw [podsListed, op_of_told listed] at same
    subst same
    rw [← List.countP_eq_length_filter, List.countP_filter] at enough
    exact enough

theorem component_of_matches {p : Pod}
    (matching : p.labels.Matches (nodePoolLabels cr pool) = true) :
    pool.component = (p.labels.get nodePoolLabel).getD "" := by
  simp only [Labels.Matches, nodePoolLabels, List.all_cons, List.all_nil, Bool.and_true,
    Bool.and_eq_true, beq_iff_eq] at matching
  rw [matching.2]
  rfl

/-- A pod belongs to one manager pool at most. -/
theorem sum_readyOf (distinct : (cr.spec.nodePools.map NodePool.component).Nodup) (s : State) :
    ((managerPools cr).map fun np => (readyOf cr s np : Int)).sum =
      s.pods.items.countP (fun p => p.ready && isManager cr p) := by
  have apart : ((managerPools cr).map NodePool.component).Nodup :=
    distinct.sublist (List.filter_sublist.map _)
  let belongs := fun np (p : Pod) => p.ready && p.labels.Matches (nodePoolLabels cr np)
  have either : ∀ p : Pod, ((managerPools cr).any fun np => belongs np p) =
      (p.ready && isManager cr p) := by
    intro p
    cases ready : p.ready <;> simp [isManager, belongs, ready]
  have most := sum_countP_le (managerPools cr) belongs s.pods.items (by
    intro p _
    apply countP_key_le_one apart (k := (p.labels.get nodePoolLabel).getD "")
    intro np _ member
    simp only [belongs, Bool.and_eq_true] at member
    exact component_of_matches member.2)
  have total := Nat.le_antisymm most countP_any_le_sum
  simp only [either] at total
  have cast := congrArg (Nat.cast (R := Int)) total
  rw [Nat.cast_list_sum, List.map_map] at cast
  exact cast

theorem sum_lacking (cr : OpenSearchCluster) (pools : List NodePool) (s : State) :
    (pools.map (lacking cr s)).sum =
    (pools.map fun np => (s.size (stsName cr np)).getD 0).sum -
      (pools.map fun np => (readyOf cr s np : Int)).sum := by
  induction pools with
  | nil => rfl
  | cons np pools ih =>
    simp only [List.map_cons, List.sum_cons, ih, lacking]
    omega

theorem quorumNow_iff (distinct : (cr.spec.nodePools.map NodePool.component).Nodup) (s : State) :
    QuorumNow cr pod s ↔ ¬ TooManyLacking cr pod s := by
  have lack := sum_lacking cr (managerPools cr) s
  rw [sum_readyOf distinct, ← masterReplicas] at lack
  have parts : s.pods.items.countP (fun p => p.ready && isManager cr p) =
      selfReady cr pod s + otherReady cr pod s := countP_and_not _ _ _
  constructor
  · rintro majority ⟨three, many⟩
    have others := majority three
    omega
  · intro enough three
    by_contra few
    exact enough ⟨three, by omega⟩

end Majority

def managerCluster (pools : List NodePool) (version : String) (status : ClusterStatus)
    (statefulSets : Store StatefulSet String StatefulSet.name)
    (pods : Store Pod String Pod.name) : ApiWorld where
  state :=
    { twoRevisions.state with
      cluster :=
        { name := "logs", resourceVersion := 1
          spec := { general := ⟨version, false⟩, confMgmt := ⟨false⟩, dashboards := ⟨false⟩
                    nodePools := pools }
          status := status }
      statefulSets := statefulSets
      pods := pods }
  past := []

def fourManagers : ApiWorld :=
  managerCluster [⟨"master", 4, ["cluster_manager"], none, 1, "", ""⟩] "2.11.0"
    ⟨"RUNNING", [], "2.11.0", true, 0, "green"⟩
    ⟨[poolSet "master" 4 ⟨4, 4, 4, 0, "a", "b"⟩], by decide⟩
    ⟨["0", "1", "2", "3"].map (poolPod "master" · "a" "True"), by decide⟩

def readyManagers : List Choice := List.replicate 30 {}

def managerLost : List Choice :=
  let quiet : Choice := {}
  let lost : Choice := { others := fun s => { s with
    pods := s.pods.put (poolPod "master" "3" "a" "False") } }
  List.replicate 22 quiet ++ lost :: List.replicate 7 quiet

def twoManagerPools : ApiWorld :=
  managerCluster [⟨"first", 1, ["cluster_manager"], none, 1, "", ""⟩,
      ⟨"second", 2, ["cluster_manager"], none, 1, "", ""⟩] "2.12.0"
    ⟨"UPGRADING", [Upgrade.upgrading "first" []], "2.11.0", true, 0, "green"⟩
    ⟨[poolSet "first" 1 ⟨1, 1, 1, 0, "a", "b"⟩, poolSet "second" 2 ⟨2, 1, 2, 0, "a", "b"⟩],
      by decide⟩
    ⟨[poolPod "first" "0" "a" "True", poolPod "second" "0" "a" "True",
      poolPod "second" "1" "a" "False"], by decide⟩

def upgradeFirst : List Choice := List.replicate 27 {}

end OpenSearchOperator.Controllers
