import OpenSearchOperator.Reconcilers.Deletion

/-! A pass of the upgrade or the rolling restart reconciler deletes a pod for a
reason, and no second one. -/

namespace OpenSearchOperator.Reconcilers

open Api Data Effects
open Gateway Helpers

/-- What the upgrade reconciler knows when it deletes the pod. Since it counted the
pool's pods it has changed neither pods nor sizes. -/
structure UpgradeDeletes (cr : OpenSearchCluster) (pool : NodePool) (pod : String)
    (past : List ApiEvent) : Prop where
  listed : pool ∈ cr.spec.nodePools
  old : OldRevision cr pool pod past
  counted : Since (fun e => Gentle true e.op) (JustCounted cr pool) past
  healthy : HealthChecked past

structure Chosen (cr : OpenSearchCluster) (pool : NodePool) (pod : String)
    (past : List ApiEvent) : Prop where
  version : cr.status.version = "" ∨ cr.status.version = cr.spec.general.version
  listed : pool ∈ cr.spec.nodePools
  old : OldRevision cr pool pod past
  counted : CountedReady cr pool past ∨ Refreshed cr pool past
  quorum : hasManagerRole pool = true → ∃ total ready counted,
    LastCount cr total ready counted past ∧ (total + 1).tdiv 2 < ready

inductive Justified (pod : String) (past : List ApiEvent) : Prop
  | upgrade (cr : OpenSearchCluster) (pool : NodePool)
      (inside : entered past = some (.upgrade, cr))
      (why : UpgradeDeletes cr pool pod (recent past))
  | restart (cr : OpenSearchCluster) (pool : NodePool)
      (inside : entered past = some (.restart, cr))
      (chosen : Chosen cr pool pod (recent past)) (healthy : HealthChecked (recent past))

structure Orderly (deleted : Nat) (w : ApiWorld) : Prop where
  justified : Throughout (fun e earlier => ∀ pod, e.op = .request (.deletePod pod) →
    Justified pod earlier) w.past
  count : w.past.countP (fun e => deletes e.op) = deleted

def AtMostOne (w : ApiWorld) : Prop := ∃ deleted ≤ 1, Orderly deleted w

structure Within (reconciler : ComponentReconciler) (cr : OpenSearchCluster) (deleted : Nat)
    (w : ApiWorld) : Prop extends Orderly deleted w where
  inside : entered w.past = some (reconciler, cr)

section Steps

variable {reconciler : ComponentReconciler} {cr : OpenSearchCluster} {deleted : Nat}
  {w : ApiWorld} {op : Call}

variable {α : Type} {past : List ApiEvent} {e : ApiEvent}

theorem deletes_of_spares (spares : Spares op) : deletes op = false := by
  cases op with
  | request req => cases req <;> first | rfl | cases spares
  | _ => rfl

theorem enters_of_spares (spares : Spares op) : enters op = none := by
  cases op with
  | note note => cases note <;> first | rfl | cases spares
  | _ => rfl

theorem Orderly.step (orderly : Orderly deleted w) (choice : Choice)
    (harmless : deletes op = false) : Orderly deleted (w.extend (w.arrive choice op)) := by
  refine ⟨⟨?_, orderly.justified⟩, ?_⟩
  · intro pod same
    have deletion : op = .request (.deletePod pod) := same
    rw [deletion] at harmless
    cases harmless
  · have kept := orderly.count
    simp [harmless, kept]

theorem Orderly.delete {pod : String} (orderly : Orderly deleted w) (choice : Choice)
    (justified : Justified pod w.past) :
    Orderly (deleted + 1) (w.extend (asked w choice (.deletePod pod))) := by
  refine ⟨⟨?_, orderly.justified⟩, ?_⟩
  · intro other same
    cases same
    exact justified
  · have deletion : deletes (asked w choice (.deletePod pod)).op = true := rfl
    have counted := List.countP_cons_of_pos (p := fun e : ApiEvent => deletes e.op)
      (l := w.past) deletion
    rw [World.extend_past, counted, orderly.count]

theorem AtMostOne.step {op : Call} (few : AtMostOne w) (choice : Choice)
    (harmless : deletes op = false) : AtMostOne (w.extend (w.arrive choice op)) := by
  obtain ⟨deleted, bound, orderly⟩ := few
  exact ⟨deleted, bound, orderly.step choice harmless⟩

theorem entered_cons (same : enters e.op = none) : entered (e :: past) = entered past := by
  simp [entered, same]

theorem recent_cons (same : enters e.op = none) : recent (e :: past) = e :: recent past := by
  simp [recent, same]

theorem recent_append (newer past : List ApiEvent) (same : ∀ e ∈ newer, enters e.op = none) :
    recent (newer ++ past) = newer ++ recent past := by
  induction newer with
  | nil => rfl
  | cons e newer ih =>
    have rest := ih fun x member => same x (List.mem_cons_of_mem _ member)
    rw [List.cons_append, recent_cons (same e List.mem_cons_self), rest, List.cons_append]

section

variable (within : Within reconciler cr deleted w)

include within

theorem Within.step (choice : Choice) (spares : Spares op) :
    Within reconciler cr deleted (w.extend (w.arrive choice op)) := by
  refine ⟨within.toOrderly.step choice (deletes_of_spares spares), ?_⟩
  exact (entered_cons (enters_of_spares spares)).trans within.inside

theorem Within.atMostOne (few : deleted ≤ 1) : AtMostOne w := ⟨deleted, few, within.toOrderly⟩

variable {program : Prog α}

/-- A program that spares the pods leaves its conversation in the recent history. -/
theorem Within.ran {allowed : Call → Prop} (few : deleted ≤ 1) (only : program.OnlyCalls allowed)
    (spares : ∀ op, allowed op → Spares op) :
    Safe (fun _ => True) AtMostOne program (fun result w' => Within reconciler cr deleted w' ∧
        Ran allowed program result (recent w.past) (recent w'.past)) w := by
  have kept : ∀ (w : ApiWorld) choice op, allowed op → True → Within reconciler cr deleted w →
      Within reconciler cr deleted (w.extend (w.arrive choice op)) :=
    fun w choice op permitted _ within => within.step choice (spares op permitted)
  apply (safe_ran (fun w within => within.atMostOne few) only kept w within).mono
  intro result w' ⟨again, events, longer, all, talk⟩
  refine ⟨again, events, ?_, all, talk⟩
  rw [longer]
  apply recent_append
  intro e member
  exact enters_of_spares (spares _ (all e (List.mem_reverse.mp member)))

theorem Within.finish (few : deleted ≤ 1) (only : program.OnlyCalls Spares) :
    Safe (fun _ => True) AtMostOne program (fun _ => AtMostOne) w :=
  (within.ran few only fun _ spares => spares).mono fun _ _ after => after.1.atMostOne few

theorem Within.keep (few : deleted ≤ 1) (only : program.OnlyCalls Spares) :
    Safe (fun _ => True) AtMostOne program (fun _ => Within reconciler cr deleted) w :=
  (within.ran few only fun _ spares => spares).mono fun _ _ after => after.1

end

end Steps

def Stops (result : Result × Option Failure) (w : ApiWorld) : Prop :=
  Orderly 0 w ∨ AtMostOne w ∧ (result.2.isSome = true ∨ result.1.requeue = true)

section Upgrade

open Upgrade

variable {cr : OpenSearchCluster} {w : ApiWorld} {semver : SemverPackage}

variable {sts : StatefulSet}

theorem conversation_workingPod {events : List ApiEvent} {name : String}
    (talk : Conversation (workingPodForRollingRestart sts) events (.ok name)) :
    (∃ ordinal ∈ List.range sts.replicas.toNat, name = replicaHostName sts ordinal) ∧
      ∃ look ∈ events, ∃ pod ∈ told (.getPod name) look,
        ∃ revision ∈ pod.labels.get stsRevisionLabel, revision ≠ sts.status.updateRevision := by
  obtain ⟨looking, _, older, rfl, looked, rest⟩ := (conversation_bind _ _ _ _).mp talk
  match older with
  | .error err => cases rest.2
  | .ok none => cases rest.2
  | .ok (some pod) =>
    cases rest.2
    obtain ⟨named, look, seen, found, revision⟩ := conversation_findOlderRevision looked
    exact ⟨named, look, List.mem_append_left _ seen, pod, found, revision⟩

theorem spares_setComponentConditions (conditions : List String) (component : String) :
    (setComponentConditions conditions component).OnlyCalls Spares :=
  (spares_updateOpenSearchClusterStatus).bind fun _ => trivial

theorem spares_report {α : Type} {conditions : List String} {component : String} {value : α} : (do
      setComponentConditions conditions component
      return value).OnlyCalls Spares :=
  (spares_setComponentConditions conditions component).bind fun _ => trivial

section

variable (within : Within .upgrade cr 0 w) {pool : NodePool} {dataCount : Int}

include within

theorem safe_restartWorkingPod (listed : pool ∈ cr.spec.nodePools)
    (read : ∃ e ∈ recent w.past, told (.getStatefulSet (stsName cr pool)) e = some sts)
    (counted : Since (fun e => Gentle true e.op) (JustCounted cr pool) (recent w.past))
    (healthy : HealthChecked (recent w.past)) :
    Safe (fun _ => True) AtMostOne (restartWorkingPod cr pool sts dataCount)
      (fun _ => AtMostOne) w := by
  apply (within.ran (by omega) (reads_workingPod sts) fun _ reads => reads.spares).bindOk
  · intro err w' ⟨within, looking, longer, reads, talk⟩
    exact within.finish (by omega) (spares_report)
  intro workingPod w' ⟨within, looking, longer, reads, talk⟩
  have old : OldRevision cr pool workingPod (recent w'.past) := by
    obtain ⟨e, seen, reply⟩ := read
    obtain ⟨named, look, looked, found⟩ := conversation_workingPod talk
    rw [longer]
    refine ⟨e, List.mem_append_right _ seen, _, reply, named, look, ?_, found⟩
    exact List.mem_append_left _ (List.mem_reverse.mpr looked)
  have counted : Since (fun e => Gentle true e.op) (JustCounted cr pool) (recent w'.past) := by
    rw [longer]
    apply counted.append
    intro e member
    exact (reads e (List.mem_reverse.mp member)).gentle true
  have healthy : HealthChecked (recent w'.past) := longer ▸ healthy.later _
  have prepare := within.ran (by omega)
    (tunes_preparePodForDelete workingPod cr.spec.general.drainDataNodes dataCount)
    fun _ tunes => tunes.gentle.spares
  apply prepare.bind
  intro ready w'' ⟨within, preparing, longer, tunes, _⟩
  match ready with
  | .error err => exact within.finish (by omega) (spares_report)
  | .ok false => exact within.finish (by omega) (spares_report)
  | .ok true =>
    have why : UpgradeDeletes cr pool workingPod (recent w''.past) := by
      rw [longer]
      constructor
      · exact listed
      · exact old.grow (List.subset_append_right _ _)
      · apply counted.append
        intro e member
        exact (tunes e (List.mem_reverse.mp member)).gentle.widen
      · exact healthy.later _
    have deleted : Safe (fun _ => True) AtMostOne (deletePod workingPod)
        (fun _ => Within .upgrade cr 1) w'' := by
      refine ⟨within.atMostOne (by omega), fun choice _ => ?_⟩
      refine ⟨within.toOrderly.delete choice (.upgrade cr pool within.inside why), ?_⟩
      exact (entered_cons rfl).trans within.inside
    apply deleted.bindOk
    · exact fun _ _ within => within.finish (by omega) (spares_report)
    intro _ w within
    apply within.finish (by omega)
    apply (spares_setComponentConditions _ _).bind
    intro _
    split
    · exact ((tunes_removeExcludeNodeHost _).mono
        fun _ tunes => tunes.gentle.spares).bind fun _ => trivial
    · trivial

theorem safe_upgradeReadyPool (listed : pool ∈ cr.spec.nodePools)
    (read : ∃ e ∈ recent w.past, told (.getStatefulSet (stsName cr pool)) e = some sts)
    (counted : Since (fun e => Gentle true e.op) (JustCounted cr pool) (recent w.past)) :
    Safe (fun _ => True) AtMostOne (upgradeReadyPool semver cr pool sts dataCount)
      (fun _ => AtMostOne) w := by
  apply (within.ran (by omega) (tunes_deleteUnsupportedClusterSettings)
    fun _ tunes => tunes.gentle.spares).bind
  intro failed w' ⟨within, deleting, longer, tunes, _⟩
  have gentle : ∀ {events : List ApiEvent}, (∀ e ∈ events, Tunes false e.op) →
      ∀ e ∈ events.reverse, Gentle true e.op :=
    fun all e member => (all e (List.mem_reverse.mp member)).gentle.widen
  have counted := counted.append deleting.reverse (gentle tunes)
  have read : ∃ e ∈ recent w'.past, told (.getStatefulSet (stsName cr pool)) e = some sts := by
    obtain ⟨e, seen, reply⟩ := read
    exact ⟨e, longer ▸ List.mem_append_right _ seen, reply⟩
  rw [← longer] at counted
  cases failed with
  | some err => exact within.finish (by omega) (spares_report)
  | none =>
    apply (within.ran (by omega) (tunes_checkClusterStatusForRestart)
      fun _ tunes => tunes.gentle.spares).bind
    intro ready w'' ⟨within, checking, longer, tunes, talk⟩
    match ready with
    | .error (_, err) => exact within.finish (by omega) (spares_report)
    | .ok (false, condition) => exact within.finish (by omega) (spares_report)
    | .ok (true, condition) =>
      dsimp only
      split
      · apply within.finish (by omega)
        apply (tunes_reactivateShardAllocation.mono fun _ tunes => tunes.gentle.spares).bindNone
        · exact fun _ => trivial
        exact spares_updateStatus
      · have healthy : HealthChecked (recent w''.past) := by
          rw [longer]
          exact conversation_checkClusterStatusForRestart talk
        have counted := counted.append checking.reverse (gentle tunes)
        rw [← longer] at counted
        apply safe_restartWorkingPod within listed _ counted healthy
        obtain ⟨e, seen, reply⟩ := read
        exact ⟨e, longer ▸ List.mem_append_right _ seen, reply⟩

theorem safe_doNodePoolUpgrade (listed : pool ∈ cr.spec.nodePools) :
    Safe (fun _ => True) AtMostOne (doNodePoolUpgrade semver cr pool) (fun _ => AtMostOne) w := by
  have reading : (getStatefulSet (stsName cr pool)).OnlyCalls Reads :=
    onlyCalls_asked rfl
  apply (within.ran (by omega) reading fun _ reads => reads.spares).bindOk
  · intro err w₁ ⟨within, first, longer, _, asked⟩
    exact within.atMostOne (by omega)
  intro sts w₁ ⟨within, first, longer, _, asked⟩
  obtain ⟨read, rfl, found⟩ := conversation_request asked
  apply (within.ran (by omega) (reads_readyReplicas pool) fun _ reads => reads.spares).bindOk
  · intro err w₂ ⟨within, second, longer₂, _, counting⟩
    exact within.atMostOne (by omega)
  intro readyReplicas w₂ ⟨within, second, longer₂, _, counting⟩
  obtain ⟨count, pods, rfl, listing, same⟩ := conversation_readyReplicas counting
  apply (within.ran (by omega) (reads_dataNodesCount cr.spec.nodePools)
    fun _ reads => reads.spares).bind
  intro dataCount w₃ ⟨within, third, longer₃, reads, _⟩
  have since : recent w₃.past = third.reverse ++ (count :: read :: recent w.past) := by
    rw [longer₃, longer₂, longer]
    rfl
  split
  · exact within.finish (by omega) (spares_report)
  case isFalse enough =>
    have now : JustCounted cr pool (count :: read :: recent w.past) := by
      refine ⟨sts, found, pods, listing, ?_⟩
      omega
    apply safe_upgradeReadyPool within listed
    · exact ⟨read, by simp [since], found⟩
    rw [since]
    apply (since_mark now).append
    intro e member
    exact (reads e (List.mem_reverse.mp member)).gentle true

theorem safe_upgradeNodePools :
    Safe (fun _ => True) AtMostOne (upgradeNodePools semver cr) Stops w := by
  rw [upgradeNodePools]
  split
  case h_1 pool next =>
    apply (within.keep (by omega) (spares_updateStatus)).bind
    intro err w within
    exact Or.inl within.toOrderly
  case h_2 pool next =>
    apply (safe_doNodePoolUpgrade within (findNextNodePoolForUpgrade_mem next)).bind
    intro err w few
    exact Or.inr ⟨few, Or.inr rfl⟩
  case h_3 next =>
    apply (within.keep (by omega) (spares_updateStatus)).bind
    intro err w within
    exact Or.inl within.toOrderly

theorem safe_upgradeCluster :
    Safe (fun _ => True) AtMostOne (upgradeCluster semver cr) Stops w := by
  have connecting : createClientForCluster.OnlyCalls Spares := onlyCalls_asked rfl
  apply (within.keep (by omega) connecting).bindOk
  · exact fun _ _ within => Or.inl within.toOrderly
  intro _ w within
  dsimp only
  split
  · apply (within.keep (by omega)
      (gentle_cleanStaleExclusionList.mono fun _ gentle => gentle.spares)).bind
    intro ⟨res, err⟩ w within
    split
    · exact Or.inl within.toOrderly
    split
    · exact Or.inl within.toOrderly
    · exact safe_upgradeNodePools within
  · exact safe_upgradeNodePools within

theorem safe_upgrade : Safe (fun _ => True) AtMostOne (Upgrade.reconcile cr semver) Stops w := by
  rw [Upgrade.reconcile]
  split
  · split
    · apply (within.keep (by omega) (spares_updateStatus)).bind
      intro err w within
      exact Or.inl within.toOrderly
    · exact Or.inl within.toOrderly
  · split
    · exact Or.inl within.toOrderly
    split
    · exact Or.inl within.toOrderly
    split
    · apply (within.keep (by omega) (spares_updateStatus)).bindNone
      · exact fun _ _ within => Or.inl within.toOrderly
      intro w within
      exact safe_upgradeCluster within
    · exact safe_upgradeCluster within

end

end Upgrade

section Restart

open RollingRestart

variable {cr : OpenSearchCluster} {w : ApiWorld} {pool : NodePool} {pod : String}
  {past : List ApiEvent}

variable {candidates : List Candidate} {c : Candidate}

theorem Chosen.later (chosen : Chosen cr pool pod past) (newer : List ApiEvent)
    (unlisted : ∀ e ∈ newer, lists e.op = false) : Chosen cr pool pod (newer ++ past) := by
  constructor
  · exact chosen.version
  · exact chosen.listed
  · exact chosen.old.grow (List.subset_append_right _ _)
  · rcases chosen.counted with counted | refreshed
    · exact Or.inl (counted.later newer)
    · exact Or.inr (refreshed.later newer)
  · intro manager
    obtain ⟨total, ready, counted, last, enough⟩ := chosen.quorum manager
    exact ⟨total, ready, counted, Since.append last newer unlisted, enough⟩

theorem lists_of_tunes {drain : Bool} {op : Call} (tunes : Tunes drain op) : lists op = false := by
  cases op with
  | request req => cases req <;> first | rfl | cases tunes
  | _ => rfl

/-- A step on the way to the deletion that lists no pods keeps the choice. -/
theorem Within.chosen {α : Type} {program : Prog α} (within : Within .restart cr 0 w)
    (chosen : Chosen cr pool pod (recent w.past))
    (only : program.OnlyCalls fun op => Spares op ∧ lists op = false) :
    Safe (fun _ => True) AtMostOne program (fun result w' => Within .restart cr 0 w' ∧
      Chosen cr pool pod (recent w'.past) ∧ ∃ events,
        recent w'.past = events.reverse ++ recent w.past ∧
        Conversation program events result) w := by
  apply (within.ran (by omega) only fun _ both => both.1).mono
  intro result w' ⟨within, events, longer, all, talk⟩
  refine ⟨within, ?_, events, longer, talk⟩
  rw [longer]
  apply chosen.later
  intro e member
  exact (all e (List.mem_reverse.mp member)).2

theorem safe_restartSpecificPod (within : Within .restart cr 0 w)
    (chosen : Chosen cr pool c.podName (recent w.past)) :
    Safe (fun _ => True) AtMostOne (restartSpecificPod cr c) (fun _ => AtMostOne) w := by
  have counting : (dataNodesCount cr cr.spec.nodePools).OnlyCalls
      fun op => Spares op ∧ lists op = false := onlyCalls_dataNodesCount (fun _ => ⟨rfl, rfl⟩) _
  have unlisted : ∀ {drain : Bool} (op : Call), Tunes drain op → Spares op ∧ lists op = false :=
    fun _ tunes => ⟨tunes.gentle.spares, lists_of_tunes tunes⟩
  apply (within.chosen chosen counting).bind
  intro dataCount w₁ ⟨within, chosen, _⟩
  apply (within.chosen chosen ((tunes_checkClusterStatusForRestart).mono unlisted)).bind
  intro ready w₂ ⟨within, chosen, checking, longer, talk⟩
  match ready with
  | .error (_, err) => exact within.atMostOne (by omega)
  | .ok (false, _) => exact within.atMostOne (by omega)
  | .ok (true, _) =>
    have healthy : HealthChecked (recent w₂.past) := by
      rw [longer]
      exact conversation_checkClusterStatusForRestart talk
    apply (within.chosen chosen ((tunes_preparePodForDelete _ _ _).mono unlisted)).bind
    intro prepared w₃ ⟨within, chosen, preparing, longer, _⟩
    have healthy : HealthChecked (recent w₃.past) := longer ▸ healthy.later _
    match prepared with
    | .error err => exact within.atMostOne (by omega)
    | .ok false => exact within.atMostOne (by omega)
    | .ok true =>
      have deleted : Safe (fun _ => True) AtMostOne (deletePod c.podName)
          (fun _ => Within .restart cr 1) w₃ := by
        refine ⟨within.atMostOne (by omega), fun choice _ => ?_⟩
        refine ⟨within.toOrderly.delete choice (.restart cr pool within.inside chosen healthy), ?_⟩
        exact (entered_cons rfl).trans within.inside
      apply deleted.bindOk
      · exact fun _ _ within => within.atMostOne (by omega)
      intro _ w within
      apply within.finish (by omega)
      dsimp only
      split
      · apply ((tunes_removeExcludeNodeHost _).mono fun _ tunes => tunes.gentle.spares).bind
        intro ⟨ok, err⟩
        split <;> trivial
      · trivial

theorem safe_restartCandidate (within : Within .restart cr 0 w)
    (chosen : Chosen cr pool c.podName (recent w.past)) :
    Safe (fun _ => True) AtMostOne (restartCandidate cr c) (fun _ => AtMostOne) w := by
  apply (safe_restartSpecificPod within chosen).bind
  intro ⟨res, err⟩ w few
  dsimp only
  split
  · exact few
  · split <;> exact few

def AllCounted (cr : OpenSearchCluster) (past : List ApiEvent) : Prop :=
  ∀ pool ∈ cr.spec.nodePools, CountedReady cr pool past ∨ Refreshed cr pool past

theorem AllCounted.later (all : AllCounted cr past) (newer : List ApiEvent) :
    AllCounted cr (newer ++ past) := by
  intro pool listed
  rcases all pool listed with counted | refreshed
  · exact Or.inl (counted.later newer)
  · exact Or.inr (refreshed.later newer)

structure Candidates (cr : OpenSearchCluster) (candidates : List Candidate)
    (past : List ApiEvent) : Prop where
  version : cr.status.version = "" ∨ cr.status.version = cr.spec.general.version
  listed : ∀ c ∈ candidates, c.nodePool ∈ cr.spec.nodePools
  master : ∀ c ∈ candidates, c.isMaster = hasManagerRole c.nodePool
  old : ∀ c ∈ candidates, OldRevision cr c.nodePool c.podName past
  counted : AllCounted cr past

theorem Candidates.later (all : Candidates cr candidates past) (newer : List ApiEvent) :
    Candidates cr candidates (newer ++ past) := by
  constructor
  · exact all.version
  · exact all.listed
  · exact all.master
  · intro c member
    exact (all.old c member).grow (List.subset_append_right _ _)
  · exact all.counted.later newer

theorem Candidates.chosen (all : Candidates cr candidates past) (member : c ∈ candidates)
    (quorum : c.isMaster = true → ∃ total ready counted,
      LastCount cr total ready counted past ∧ (total + 1).tdiv 2 < ready) :
    Chosen cr c.nodePool c.podName past := by
  have master := all.master c member
  constructor
  · exact all.version
  · exact all.listed c member
  · exact all.old c member
  · exact all.counted _ (all.listed c member)
  · intro manager
    exact quorum (master.trans manager)

section

variable (within : Within .restart cr 0 w)

include within

theorem safe_pickCandidate (all : Candidates cr candidates (recent w.past)) :
    Safe (fun _ => True) AtMostOne (pickCandidate cr candidates) (fun _ => AtMostOne) w := by
  rw [pickCandidate.eq_def]
  split
  · exact within.atMostOne (by omega)
  case h_2 next others =>
    split
    case isTrue master =>
      apply (within.ran (by omega) (reads_countMasters) fun _ reads => reads.spares).bind
      rintro reply w' ⟨within, counted, longer, _, talk⟩
      have all : Candidates cr (next :: others) (recent w'.past) := longer ▸ all.later _
      cases reply with
      | error err => exact within.atMostOne (by omega)
      | ok count =>
        obtain ⟨totalMasters, readyMasters⟩ := count
        dsimp only
        split
        · split
          case h_1 c spare =>
            have plain : c.isMaster = false := by
              have found := List.find?_some spare
              simpa using found
            apply safe_restartCandidate within
            apply all.chosen (List.mem_of_find?_eq_some spare)
            intro master
            rw [plain] at master
            cases master
          · exact within.atMostOne (by omega)
        case isFalse enough =>
          apply safe_restartCandidate within
          apply all.chosen List.mem_cons_self
          intro _
          refine ⟨totalMasters, readyMasters, counted, ?_, by omega⟩
          exact since_mark ⟨_, longer, talk⟩
    case isFalse plain =>
      apply safe_restartCandidate within
      apply all.chosen List.mem_cons_self
      intro master
      exact absurd master plain

theorem safe_restartFromCandidates
    (version : cr.status.version = "" ∨ cr.status.version = cr.spec.general.version)
    (counted : AllCounted cr (recent w.past)) :
    Safe (fun _ => True) AtMostOne (restartFromCandidates cr) (fun _ => AtMostOne) w := by
  apply (within.ran (by omega) (reads_findCandidates _) fun _ reads => reads.spares).bindOk
  · intro err w' ⟨within, finding, longer, _, talk⟩
    exact within.atMostOne (by omega)
  intro candidates w' ⟨within, finding, longer, _, talk⟩
  apply safe_pickCandidate within
  have found := conversation_findCandidates talk
  rw [longer]
  constructor
  · exact version
  · exact fun c member => (found c (mem_sortCandidates.mp member)).1
  · exact fun c member => (found c (mem_sortCandidates.mp member)).2.1
  · intro c member
    apply (found c (mem_sortCandidates.mp member)).2.2.grow
    intro e seen
    exact List.mem_append_left _ (List.mem_reverse.mpr seen)
  · exact counted.later _

theorem Within.counted {α : Type} {program : Prog α} (counted : AllCounted cr (recent w.past))
    (only : program.OnlyCalls Spares) :
    Safe (fun _ => True) AtMostOne program (fun _ w' => Within .restart cr 0 w' ∧
      AllCounted cr (recent w'.past)) w := by
  apply (within.ran (by omega) only fun _ spares => spares).mono
  intro result w' ⟨within, events, longer, _⟩
  exact ⟨within, longer ▸ counted.later _⟩

theorem safe_globalCandidateRollingRestart
    (version : cr.status.version = "" ∨ cr.status.version = cr.spec.general.version)
    (counted : AllCounted cr (recent w.past)) :
    Safe (fun _ => True) AtMostOne (globalCandidateRollingRestart cr) (fun _ => AtMostOne) w := by
  rw [globalCandidateRollingRestart]
  split
  · apply (within.counted counted
      (gentle_cleanStaleExclusionList.mono fun _ gentle => gentle.spares)).bind
    rintro ⟨res, err⟩ w ⟨within, counted⟩
    dsimp only
    split
    · exact within.atMostOne (by omega)
    split
    · exact within.atMostOne (by omega)
    · exact safe_restartFromCandidates within version counted
  · exact safe_restartFromCandidates within version counted

theorem safe_startRestart
    (version : cr.status.version = "" ∨ cr.status.version = cr.spec.general.version)
    (counted : AllCounted cr (recent w.past)) :
    Safe (fun _ => True) AtMostOne (startRestart cr) (fun _ => AtMostOne) w := by
  rw [startRestart]
  split
  · exact within.atMostOne (by omega)
  apply (within.counted counted (spares_updateStatus)).bindNone
  · rintro err w ⟨within, counted⟩
    exact within.atMostOne (by omega)
  rintro w ⟨within, counted⟩
  have connecting : createClientForCluster.OnlyCalls Spares := onlyCalls_asked rfl
  apply (within.counted counted connecting).bindOk
  · rintro err w ⟨within, counted⟩
    exact within.atMostOne (by omega)
  rintro _ w ⟨within, counted⟩
  exact safe_globalCandidateRollingRestart within version counted

end

theorem spares_finishRestart : (finishRestart cr).OnlyCalls Spares := by
  rw [finishRestart]
  split
  · refine (onlyCalls_asked (by rfl)).bindOk (fun _ => trivial) fun _ => ?_
    apply (tunes_reactivateShardAllocation.mono fun _ tunes => tunes.gentle.spares).bindNone
    · exact fun _ => trivial
    apply (spares_updateStatus).bind
    intro failed
    cases failed <;> trivial
  · trivial

theorem safe_restart (within : Within .restart cr 0 w) :
    Safe (fun _ => True) AtMostOne (RollingRestart.reconcile cr) (fun _ => AtMostOne) w := by
  rw [RollingRestart.reconcile]
  split
  · exact within.atMostOne (by omega)
  case isFalse running =>
    have version : cr.status.version = "" ∨ cr.status.version = cr.spec.general.version := by
      rw [not_and_or, Decidable.not_not, Decidable.not_not] at running
      exact running
    apply (within.ran (by omega) (gentle_checkNodePools) fun _ gentle => gentle.spares).bind
    rintro checked w' ⟨within, checking, longer, _, talk⟩
    rcases checked with result | _ | _
    · exact within.atMostOne (by omega)
    · exact within.finish (by omega) spares_finishRestart
    apply safe_startRestart within version
    intro pool listed
    rw [longer]
    exact conversation_checkNodePools talk pool listed _

end Restart

end OpenSearchOperator.Reconcilers
