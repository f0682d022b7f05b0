import OpenSearchOperator.Effects.Conversation
import OpenSearchOperator.Reconcilers.RollingRestart
import OpenSearchOperator.Reconcilers.Upgrade

/-! What the upgrade and the rolling restart reconciler know when they delete a
pod: the replies they got since they were entered. -/

namespace OpenSearchOperator.Reconcilers

open Api Data Effects
open Gateway Helpers

section Vocabulary

def enters : Call → Option (ComponentReconciler × OpenSearchCluster)
  | .note (.enter reconciler cr) => some (reconciler, cr)
  | _ => none

def deletes : Call → Bool
  | .request (.deletePod _) => true
  | _ => false

def lists : Call → Bool
  | .request (.listPods _) => true
  | _ => false

def refreshes (name : String) : Call → Bool
  | .request (.updateStatefulSetStatus sts) => sts.name == name
  | _ => false

def entered (past : List ApiEvent) : Option (ComponentReconciler × OpenSearchCluster) :=
  past.findSome? (fun e => enters e.op)

def recent (past : List ApiEvent) : List ApiEvent :=
  past.takeWhile (fun e => (enters e.op).isNone)

def told (req : Request) (e : ApiEvent) : Option req.Payload :=
  if e.op = .request req ∧ e.choice.outcome = .served then (serve e.before req).1.toOption
  else none

/-- The pod belongs to a StatefulSet read for the pool, and its revision is not
the one that the StatefulSet is updated to. -/
def OldRevision (cr : OpenSearchCluster) (pool : NodePool) (pod : String)
    (past : List ApiEvent) : Prop :=
  ∃ read ∈ past, ∃ sts ∈ told (.getStatefulSet (stsName cr pool)) read,
    (∃ ordinal ∈ List.range sts.replicas.toNat, pod = replicaHostName sts ordinal) ∧
    ∃ look ∈ past, ∃ found ∈ told (.getPod pod) look,
      ∃ revision ∈ found.labels.get stsRevisionLabel, revision ≠ sts.status.updateRevision

instance (cr : OpenSearchCluster) (pool : NodePool) (pod : String) (past : List ApiEvent) :
    Decidable (OldRevision cr pool pod past) :=
  inferInstanceAs (Decidable (∃ read ∈ past, ∃ sts ∈ told (.getStatefulSet (stsName cr pool)) read,
    (∃ ordinal ∈ List.range sts.replicas.toNat, pod = replicaHostName sts ordinal) ∧
    ∃ look ∈ past, ∃ found ∈ told (.getPod pod) look,
      ∃ revision ∈ found.labels.get stsRevisionLabel, revision ≠ sts.status.updateRevision))

/-- The last two replies gave the pool's StatefulSet and at least as many ready
pods of the pool as that has replicas. -/
def JustCounted (cr : OpenSearchCluster) (pool : NodePool) : List ApiEvent → Prop
  | count :: read :: _ => ∃ sts ∈ told (.getStatefulSet (stsName cr pool)) read,
      ∃ pods ∈ told (.listPods (nodePoolLabels cr pool)) count,
        sts.replicas ≤ (pods.filter Pod.ready).length
  | _ => False

instance (cr : OpenSearchCluster) (pool : NodePool) : DecidablePred (JustCounted cr pool)
  | [] => instDecidableFalse
  | [_] => instDecidableFalse
  | _ :: _ :: _ => by unfold JustCounted; infer_instance

def CountedReady (cr : OpenSearchCluster) (pool : NodePool) (past : List ApiEvent) : Prop :=
  Since (fun _ => True) (JustCounted cr pool) past

instance (cr : OpenSearchCluster) (pool : NodePool) (past : List ApiEvent) :
    Decidable (CountedReady cr pool past) :=
  inferInstanceAs (Decidable (Since (fun _ => True) (JustCounted cr pool) past))

def Refreshed (cr : OpenSearchCluster) (pool : NodePool) (past : List ApiEvent) : Prop :=
  ∃ e ∈ past, refreshes (stsName cr pool) e.op = true

/-- The cluster was green, or yellow and `CheckClusterRestartOnYellow` had no objection. -/
def HealthChecked (past : List ApiEvent) : Prop :=
  ∃ check ∈ past, ∃ health ∈ told .getHealth check, health.status = "green" ∨
    health.status = "yellow" ∧ ∃ events,
      Had (fun _ => True) (checkClusterRestartOnYellow health) (.ok true) events past

def LastCount (cr : OpenSearchCluster) (total ready : Int) (counted past : List ApiEvent) : Prop :=
  Had (fun e => lists e.op = false) (RollingRestart.countMasters cr cr.spec.nodePools)
    (.ok (total, ready)) counted past

end Vocabulary

section Growth

variable {cr : OpenSearchCluster} {pool : NodePool} {pod : String} {past more : List ApiEvent}

theorem OldRevision.grow (old : OldRevision cr pool pod past) (subset : past ⊆ more) :
    OldRevision cr pool pod more := by
  obtain ⟨read, first, sts, told, named, look, second, rest⟩ := old
  exact ⟨read, subset first, sts, told, named, look, subset second, rest⟩

theorem CountedReady.later (counted : CountedReady cr pool past) (newer : List ApiEvent) :
    CountedReady cr pool (newer ++ past) := counted.append newer fun _ _ => trivial

theorem Refreshed.later (refreshed : Refreshed cr pool past) (newer : List ApiEvent) :
    Refreshed cr pool (newer ++ past) := by
  obtain ⟨e, member, refresh⟩ := refreshed
  exact ⟨e, List.mem_append_right _ member, refresh⟩

theorem HealthChecked.later (checked : HealthChecked past) (newer : List ApiEvent) :
    HealthChecked (newer ++ past) := by
  obtain ⟨check, member, health, told, either⟩ := checked
  refine ⟨check, List.mem_append_right _ member, health, told, ?_⟩
  rcases either with green | ⟨yellow, events, accepted⟩
  · exact Or.inl green
  · exact Or.inr ⟨yellow, events, Since.append accepted newer fun _ _ => trivial⟩

end Growth

section Replies

variable {cr : OpenSearchCluster} {condition name : String} {sts : StatefulSet} {drainNodes : Bool}
  {pod : Pod}

theorem told_of_reply {prior : State} {choice : Choice} {req : Request} {value : req.Payload}
    (reply : Event.reply (S := server) ⟨prior, choice, .request req⟩ = .ok value) :
    told req ⟨prior, choice, .request req⟩ = some value := by
  change (answer choice (disturb choice prior) (.request req)).1 = .ok value at reply
  rw [answer_request] at reply
  cases outcome : choice.outcome with
  | served =>
    rw [outcome] at reply
    have answered : (serve (disturb choice prior) req).1 = .ok value := reply
    simp only [told, outcome, Event.before, and_self, if_true]
    rw [answered]
    rfl
  | _ =>
    rw [outcome] at reply
    cases reply

theorem served_of_told {req : Request} {e : ApiEvent} {value : req.Payload}
    (reply : told req e = some value) : (serve e.before req).1 = .ok value := by
  rw [told] at reply
  split at reply
  · cases answered : (serve e.before req).1 with
    | error err =>
      rw [answered] at reply
      cases reply
    | ok other =>
      rw [answered] at reply
      cases reply
      rfl
  · cases reply

theorem told_statefulSet {e : ApiEvent} (reply : told (.getStatefulSet name) e = some sts) :
    e.before.statefulSets.get name = some sts := found_ok (served_of_told reply)

theorem told_pod {e : ApiEvent}
    (reply : told (.getPod name) e = some pod) : e.before.pods.get name = some pod :=
  found_ok (served_of_told reply)

theorem conversation_request {req : Request} {events : List ApiEvent} {value : req.Payload}
    (talk : Conversation (request req) events (.ok value)) :
    ∃ e, events = [e] ∧ told req e = some value := by
  obtain ⟨prior, choice, more, rfl, silent, reply⟩ := talk
  subst silent
  exact ⟨_, rfl, told_of_reply reply⟩

theorem conversation_readyReplicas {pool : NodePool} {events : List ApiEvent} {ready : Int}
    (talk : Conversation (readyReplicasForNodePool cr pool) events (.ok ready)) :
    ∃ e pods, events = [e] ∧ told (.listPods (nodePoolLabels cr pool)) e = some pods ∧
      ready = (pods.filter Pod.ready).length := by
  obtain ⟨first, second, reply, rfl, listed, rest⟩ := (conversation_bind _ _ _ _).mp talk
  cases reply with
  | error err => cases rest.2
  | ok pods =>
    obtain ⟨e, rfl, reply⟩ := conversation_request listed
    obtain ⟨silent, same⟩ := rest
    subst silent
    cases same
    exact ⟨e, pods, rfl, reply, rfl⟩

/-- The pod that is found was asked for by its name, and has another revision. -/
theorem conversation_findOlderRevision {ordinals : List Nat} {events : List ApiEvent}
    (talk : Conversation (findOlderRevision sts ordinals) events (.ok (some pod))) :
    (∃ ordinal ∈ ordinals, pod.name = replicaHostName sts ordinal) ∧
      ∃ look ∈ events, told (.getPod pod.name) look = some pod ∧
        ∃ revision ∈ pod.labels.get stsRevisionLabel, revision ≠ sts.status.updateRevision := by
  induction ordinals generalizing events with
  | nil => cases talk.2
  | cons ordinal ordinals ih =>
    obtain ⟨first, second, reply, rfl, asked, rest⟩ := (conversation_bind _ _ _ _).mp talk
    cases reply with
    | error err => cases rest.2
    | ok candidate =>
      obtain ⟨look, rfl, reply⟩ := conversation_request asked
      have name := look.before.pods.get_key _ _ (told_pod reply)
      cases label : candidate.labels.get stsRevisionLabel with
      | none =>
        simp only [label] at rest
        cases rest.2
      | some revision =>
        simp only [label] at rest
        by_cases older : revision ≠ sts.status.updateRevision
        · rw [if_pos older] at rest
          cases rest.2
          refine ⟨⟨ordinal, List.mem_cons_self, name⟩, look, by simp, ?_, ?_⟩
          · rw [name]
            exact reply
          · exact ⟨revision, label, older⟩
        · rw [if_neg older] at rest
          obtain ⟨⟨other, member, named⟩, look, seen, found⟩ := ih rest
          refine ⟨⟨other, List.mem_cons_of_mem _ member, named⟩, look, ?_, found⟩
          exact List.mem_append_right _ seen

theorem conversation_notReady {ready : Bool} {events : List ApiEvent}
    (talk : Conversation (notReadyForRestart drainNodes) events (.ok (ready, condition))) :
    ready = false := by
  rw [notReadyForRestart] at talk
  split at talk
  · cases talk.2
    rfl
  obtain ⟨_, more, settings, _, _, rest⟩ := (conversation_bind _ _ _ _).mp talk
  cases settings with
  | error err => cases rest.2
  | ok flatSettings =>
    dsimp only at rest
    split at rest
    · cases rest.2
      rfl
    obtain ⟨_, _, failed, _, _, rest⟩ := (conversation_bind _ _ _ _).mp rest
    cases failed with
    | some err => cases rest.2
    | none =>
      cases rest.2
      rfl

theorem conversation_checkClusterStatusForRestart {events : List ApiEvent}
    (talk : Conversation (checkClusterStatusForRestart drainNodes) events (.ok (true, condition)))
    {old : List ApiEvent} : HealthChecked (events.reverse ++ old) := by
  obtain ⟨first, second, reply, rfl, asked, rest⟩ := (conversation_bind _ _ _ _).mp talk
  cases reply with
  | error err => cases rest.2
  | ok health =>
    obtain ⟨check, rfl, reply⟩ := conversation_request asked
    refine ⟨check, by simp, health, reply, ?_⟩
    dsimp only at rest
    split at rest
    case isTrue green => exact Or.inl green
    case isFalse =>
      split at rest
      case isTrue yellow =>
        obtain ⟨asking, more, safe, rfl, answered, rest⟩ := (conversation_bind _ _ _ _).mp rest
        match safe with
        | .error err => cases rest.2
        | .ok false => cases conversation_notReady rest
        | .ok true =>
          obtain ⟨silent, _⟩ := rest
          subst silent
          refine Or.inr ⟨yellow, asking, ?_⟩
          exact since_mark ⟨check :: old, by simp, answered⟩
      case isFalse => cases conversation_notReady rest

end Replies

section Restart

open RollingRestart

variable {cr : OpenSearchCluster} {result : Option ApiError × StatefulSet} {sts : StatefulSet}
  {candidates : List Candidate} {nodePools : List NodePool} {pending : Bool}

/-- An attempt works on the StatefulSet of the same name, and one that succeeds has
sent the status update. -/
theorem conversation_updateRevisionAttempt {events : List ApiEvent}
    (talk : Conversation (updateRevisionAttempt sts) events result) : result.2.name = sts.name ∧
      (result.1 = none → ∃ e ∈ events, refreshes sts.name e.op = true) := by
  obtain ⟨first, second, reply, rfl, asked, rest⟩ := (conversation_bind _ _ _ _).mp talk
  cases reply with
  | error err =>
    cases rest.2
    exact ⟨rfl, nofun⟩
  | ok stored =>
    obtain ⟨read, rfl, reply⟩ := conversation_request asked
    have name : stored.name = sts.name :=
      read.before.statefulSets.get_key _ _ (told_statefulSet reply)
    obtain ⟨sending, more, reply, rfl, sent, rest⟩ := (conversation_bind _ _ _ _).mp rest
    obtain ⟨e, rfl, op⟩ := conversation_ask sent
    have refresh : refreshes sts.name e.op = true := by
      rw [op]
      simp [refreshes, name]
    cases reply with
    | error err =>
      cases rest.2
      exact ⟨name, nofun⟩
    | ok _ =>
      cases rest.2
      exact ⟨name, fun _ => ⟨e, by simp, refresh⟩⟩

theorem conversation_updateRevision {retries : Nat} {events : List ApiEvent}
    (talk : Conversation (retryOnConflict updateRevisionAttempt retries sts) events result)
    (done : result.1 = none) : ∃ e ∈ events, refreshes sts.name e.op = true := by
  induction retries generalizing sts events with
  | zero => exact (conversation_updateRevisionAttempt talk).2 done
  | succ retries ih =>
    obtain ⟨first, second, attempt, rfl, asked, rest⟩ := (conversation_bind _ _ _ _).mp talk
    obtain ⟨name, sent⟩ := conversation_updateRevisionAttempt asked
    dsimp only at rest
    split at rest
    · obtain ⟨e, member, refresh⟩ := ih rest
      exact ⟨e, List.mem_append_right _ member, name ▸ refresh⟩
    obtain ⟨silent, rfl⟩ := rest
    obtain ⟨e, member, refresh⟩ := sent done
    exact ⟨e, List.mem_append_left _ member, refresh⟩

/-- The readiness check sees the count it is given, unless the status of the
StatefulSet was updated. -/
theorem conversation_checkRevision {result : StatefulSet} {events : List ApiEvent}
    (talk : Conversation (checkRevision sts) events (.ok (result, pending))) :
    result = sts ∨ ∃ e ∈ events, refreshes sts.name e.op = true := by
  rw [checkRevision] at talk
  split at talk
  · cases talk.2
    exact Or.inl rfl
  split at talk
  · obtain ⟨first, second, update, rfl, asked, rest⟩ := (conversation_bind _ _ _ _).mp talk
    obtain ⟨err, updated⟩ := update
    cases err with
    | some err => cases rest.2
    | none =>
      obtain ⟨e, member, refresh⟩ := conversation_updateRevision asked rfl
      exact Or.inr ⟨e, List.mem_append_left _ member, refresh⟩
  · cases talk.2
    exact Or.inl rfl

/-- Behind the first loop every pool was counted ready, or had its status updated. -/
theorem conversation_checkNodePools {before : Bool} {events : List ApiEvent}
    (talk : Conversation (checkNodePools cr nodePools before) events (.ok pending))
    (pool : NodePool) (member : pool ∈ nodePools) (old : List ApiEvent) :
    CountedReady cr pool (events.reverse ++ old) ∨ Refreshed cr pool (events.reverse ++ old) := by
  induction nodePools generalizing before events old with
  | nil => cases member
  | cons nodePool nodePools ih =>
    obtain ⟨reading, second, reply, rfl, asked, behind⟩ := (conversation_bind _ _ _ _).mp talk
    cases reply with
    | error err => cases behind.2
    | ok sts =>
      obtain ⟨read, rfl, told⟩ := conversation_request asked
      obtain ⟨counting, third, ready, rfl, counted, further⟩ :=
        (conversation_bind _ _ _ _).mp behind
      cases ready with
      | error err => cases further.2
      | ok readyReplicas =>
        obtain ⟨count, pods, rfl, listed, same⟩ := conversation_readyReplicas counted
        obtain ⟨checking, later, checked, rfl, revision, rest⟩ :=
          (conversation_bind _ _ _ _).mp further
        cases checked with
        | error err => cases rest.2
        | ok checked =>
          obtain ⟨seen, pendingHere⟩ := checked
          dsimp only at rest
          split at rest
          case isTrue => cases rest.2
          case isFalse ready =>
            have order : ([read] ++ ([count] ++ (checking ++ later))).reverse ++ old =
                later.reverse ++ (checking.reverse ++ (count :: read :: old)) := by
              simp
            rw [order]
            rcases List.mem_cons.mp member with rfl | other
            · rcases conversation_checkRevision revision with rfl | refreshed
              · left
                have now : JustCounted cr pool (count :: read :: old) := by
                  refine ⟨sts, told, pods, listed, ?_⟩
                  simp only [ne_eq, Decidable.not_not] at ready
                  omega
                apply Since.append _ _ fun _ _ => trivial
                exact (since_mark now).append _ fun _ _ => trivial
              · right
                obtain ⟨e, sent, refresh⟩ := refreshed
                refine ⟨e, by simp [sent], ?_⟩
                have name : sts.name = stsName cr pool :=
                  read.before.statefulSets.get_key _ _ (told_statefulSet told)
                exact name ▸ refresh
            · exact ih rest other _

theorem conversation_findCandidates {events : List ApiEvent}
    (talk : Conversation (findCandidates cr nodePools) events (.ok candidates)) :
    ∀ c ∈ candidates, c.nodePool ∈ nodePools ∧ c.isMaster = hasManagerRole c.nodePool ∧
      OldRevision cr c.nodePool c.podName events := by
  induction nodePools generalizing events candidates with
  | nil =>
    cases talk.2
    intro c member
    cases member
  | cons np nodePools ih =>
    have others : ∀ events candidates,
        Conversation (findCandidates cr nodePools) events (.ok candidates) →
        ∀ more, events ⊆ more → ∀ c ∈ candidates, c.nodePool ∈ np :: nodePools ∧
          c.isMaster = hasManagerRole c.nodePool ∧ OldRevision cr c.nodePool c.podName more := by
      intro events candidates talk more subset c member
      obtain ⟨listed, master, old⟩ := ih talk c member
      exact ⟨List.mem_cons_of_mem _ listed, master, old.grow subset⟩
    obtain ⟨reading, second, reply, rfl, asked, behind⟩ := (conversation_bind _ _ _ _).mp talk
    cases reply with
    | error err => cases behind.2
    | ok sts =>
      obtain ⟨read, rfl, told⟩ := conversation_request asked
      dsimp only at behind
      split at behind
      · exact others _ _ behind _ (List.subset_append_right _ _)
      obtain ⟨looking, third, older, rfl, looked, rest⟩ :=
        (conversation_bind _ _ _ _).mp behind
      match older with
      | .error err => cases rest.2
      | .ok none =>
        apply others _ _ rest
        intro e member
        exact List.mem_append_right _ (List.mem_append_right _ member)
      | .ok (some pod) =>
        obtain ⟨searching, _, tail, rfl, searched, rest⟩ :=
          (conversation_bind _ _ _ _).mp rest
        cases tail with
        | error err => cases rest.2
        | ok tail =>
          obtain ⟨silent, same⟩ := rest
          cases same
          intro c member
          rcases List.mem_cons.mp member with rfl | later
          · refine ⟨List.mem_cons_self, rfl, read, by simp, sts, told, ?_⟩
            obtain ⟨named, look, seen, found, revision⟩ :=
              conversation_findOlderRevision looked
            exact ⟨named, look, by simp [seen], pod, found, revision⟩
          · apply others _ _ searched _ _ c later
            intro e member
            simp [member]

theorem mem_sortCandidates {c : Candidate} :
    c ∈ sortCandidates candidates ↔ c ∈ candidates := List.mem_insertionSort _

end Restart

end OpenSearchOperator.Reconcilers
