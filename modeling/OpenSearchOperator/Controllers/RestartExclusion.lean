import Mathlib.Tactic.MkIffOfInductiveProp
import OpenSearchOperator.Controllers.RestartProgress
import OpenSearchOperator.Effects.Calls

/-! What a rolling restart that drains nodes leaves on the exclude list when it is
recorded as finished. -/

namespace OpenSearchOperator.Controllers

open Api Data Effects
open Gateway Helpers Reconcilers

section Vocabulary

def setNames (cr : OpenSearchCluster) : List String := cr.spec.nodePools.map (stsName cr)

/-- A pod whose restart is due and has not begun: it belongs to a node pool with a
pending update, is outdated and not being deleted. -/
def AwaitsRestart (s : State) (set pod : String) : Prop :=
  set ∈ setNames s.cluster ∧ ∃ sts found, s.statefulSets.get set = some sts ∧ UpdatePending sts ∧
    Outdated s sts found ∧ found.name = pod ∧ found.deleting = false

def Appends (pod : String) (e : ApiEvent) : Prop := ¬ Listed pod e.before ∧ Listed pod e.after

instance (pod : String) (e : ApiEvent) : Decidable (Appends pod e) :=
  inferInstanceAs (Decidable (_ ∧ _))

def finishes : Call → Bool
  | .request (.updateClusterStatus cluster) =>
    (RollingRestart.findStatus cluster).map ComponentStatus.status ==
      some RollingRestart.statusFinished
  | _ => false

/-- What has to hold of a call so that a restart cleans up behind itself. Others
write no exclude list, add and remove no node pools, and bring no pod up to date
whose restart has not begun. While the reconciler looks for a pod to restart, the
StatefulSets stay as they are and no pod it sees is going away. A call for the
exclude list fails only while the restart of every pod on it is yet to begin, and
the reply to a deletion is not lost. -/
structure LeftToRestart (e : ApiEvent) : Prop where
  list : e.before.settings.exclude = e.prior.settings.exclude
  pools : setNames e.before.cluster = setNames e.prior.cluster
  plain : ∀ set ∈ setNames e.before.cluster, Plain set
  drain : e.op = .request .getCluster → e.before.cluster.spec.general.drainDataNodes = true
  pods : ∀ set pod, AwaitsRestart e.prior set pod → AwaitsRestart e.before set pod
  search : ∀ pod, e.op = .request (.getPod pod) → e.before.statefulSets = e.prior.statefulSets ∧
      ∀ found, e.before.pods.get pod = some found → found.deleting = false
  failures : listFailed e.op e.reply = true →
    ∀ pod, Listed pod e.before → ∃ set, AwaitsRestart e.before set pod
  deletion : deletes e.op = true → e.choice.outcome ≠ .lost

def restartPass : Prog Unit := do
  match ← getOpenSearchCluster with
  | .error _ => return ()
  | .ok cr =>
    let _ ← RollingRestart.reconcile cr
    return ()

end Vocabulary

section Events

variable {pod : String} {set : String} {w : ApiWorld} {choice : Choice} {op : Call}
  {mode : Option String} {s : State}

theorem serve_setNames (s : State) (req : Request) :
    setNames (serve s req).2.cluster = setNames s.cluster := by
  cases req with
  | updateClusterStatus cluster =>
    rw [serve]
    split <;> rfl
  | _ => rw [(serve_frame s _).cluster (by simp [Request.changes])]

theorem answer_setNames : setNames (answer choice s op).2.cluster = setNames s.cluster :=
  answer_keeps choice s op (setNames ·.cluster = setNames s.cluster) rfl
    fun req _ => serve_setNames s req

theorem AwaitsRestart.of_same {t : State} (awaits : AwaitsRestart s set pod)
    (names : setNames t.cluster = setNames s.cluster)
    (sets : t.statefulSets.get set = s.statefulSets.get set)
    (pods : t.pods.get pod = s.pods.get pod) : AwaitsRestart t set pod := by
  obtain ⟨member, sts, found, stored, pending, ⟨i, below, there, older⟩, named, alive⟩ := awaits
  have key : replicaHostName sts i = pod := (Store.get_key _ _ _ there).symm.trans named
  refine ⟨names ▸ member, sts, found, sets.trans stored, pending, ⟨i, below, ?_, older⟩, named,
    alive⟩
  rw [key] at there ⊢
  exact pods.trans there

/-- Where a pod stands: the restart does not hold it on the list, or its own restart
is yet to begin. -/
def Stands (pod : String) : Option String → ApiWorld → Prop
  | none, w => ¬ (Listed pod w.state ∧ ∃ e ∈ w.past, Appends pod e)
  | some set, w => AwaitsRestart w.state set pod

theorem stands_none_event (left : LeftToRestart (w.arrive choice op)) (stands : Stands pod none w)
    (shrinks : Listed pod (w.arrive choice op).after → Listed pod (w.arrive choice op).before) :
    Stands pod none (w.extend (w.arrive choice op)) := by
  intro ⟨listed, e, member, appends⟩
  have before := shrinks listed
  rcases List.mem_cons.mp member with rfl | earlier
  · exact appends.1 before
  apply stands
  refine ⟨?_, e, earlier, appends⟩
  rw [Listed, left.list] at before
  exact before

theorem awaits_event (left : LeftToRestart (w.arrive choice op))
    (awaits : AwaitsRestart w.state set pod)
    (sets : (w.arrive choice op).after.statefulSets.get set =
      (w.arrive choice op).before.statefulSets.get set)
    (pods : (w.arrive choice op).after.pods.get pod = (w.arrive choice op).before.pods.get pod) :
    AwaitsRestart (w.extend (w.arrive choice op)).state set pod :=
  (left.pods set pod awaits).of_same (answer_setNames) sets pods

theorem Stands.event (stands : Stands pod mode w)
    (left : LeftToRestart (w.arrive choice op)) (sets : Leaves .statefulSets op)
    (pods : Leaves .pods op)
    (shrinks : Listed pod (w.arrive choice op).after → Listed pod (w.arrive choice op).before) :
    Stands pod mode (w.extend (w.arrive choice op)) := by
  have frame := event_frame (w.arrive choice op)
  cases mode with
  | none => exact stands_none_event left stands shrinks
  | some set =>
    apply awaits_event left stands
    · rw [frame.statefulSets sets]
    · rw [frame.pods pods]

theorem stable_stands : Stable LeftToRestart (Stands pod mode) := by
  intro w choice op left stands unchanged
  cases mode with
  | none =>
    apply stands_none_event left stands
    rw [unchanged]
    exact id
  | some set => exact awaits_event left stands (by rw [unchanged]) (by rw [unchanged])

theorem stable_awaits : Stable LeftToRestart (fun w => AwaitsRestart w.state set pod) :=
  @stable_stands pod (some set)

structure Neutral (op : Call) : Prop where
  unlisted : writesList op = false
  sets : Leaves .statefulSets op
  pods : Leaves .pods op

theorem Stands.neutral (stands : Stands pod mode w) (neutral : Neutral op)
    (left : LeftToRestart (w.arrive choice op)) :
    Stands pod mode (w.extend (w.arrive choice op)) := by
  apply stands.event left neutral.sets neutral.pods
  intro listed
  have same : (w.arrive choice op).after.settings.exclude =
      (w.arrive choice op).before.settings.exclude := answer_exclude _ neutral.unlisted
  rw [Listed, ← same]
  exact listed

theorem neutral_of_tunes {op : Call} (tunes : Tunes false op) : Neutral op := by
  refine ⟨?_, tunes.leaves nofun, tunes.leaves nofun⟩
  cases op with
  | request req =>
    cases req with
    | putClusterSettings settings => cases settings <;> first | rfl | cases tunes
    | _ => rfl
  | _ => rfl

theorem neutral_of_reads {op : Call} (reads : Reads op) : Neutral op := by
  have leaves : ∀ part, Leaves part op := by
    intro part same
    rw [reads.changes] at same
    cases same
  refine ⟨?_, leaves _, leaves _⟩
  cases op with
  | request req => cases req <;> first | rfl | cases reads
  | _ => rfl

theorem keeps_stands {α : Type} {program : Prog α} (only : program.OnlyCalls Neutral) :
    Retains LeftToRestart (Stands pod mode) program :=
  keeps_of_calls (fun _ _ => trivial) only fun _ _ _ neutral left stands =>
    stands.neutral neutral left

end Events

section List

variable {pod : String} {mode value : Option String} {w : ApiWorld}

theorem Stands.put {choice : Choice} (stands : Stands pod mode w)
    (left : LeftToRestart (asked w choice (.putClusterSettings (.excludeName value))))
    (subset : pod ∈ excludedNames value → Listed pod w.state) :
    Stands pod mode (w.extend (asked w choice (.putClusterSettings (.excludeName value)))) := by
  apply stands.event left nofun nofun
  intro listed
  rcases putExclude_cases w choice value with ⟨_, _, after⟩ | ⟨_, after⟩
  · rw [after] at listed
    exact listed
  rw [after] at listed
  rw [Listed, left.list]
  exact subset listed

theorem safe_put (stands : Stands pod mode w)
    (subset : pod ∈ excludedNames value → Listed pod w.state) :
    Ends LeftToRestart (putClusterSettings (.excludeName value)) (fun _ => Stands pod mode) w :=
  safe_request _ trivial fun _ left => stands.put left subset

theorem safe_getSettings (stands : Stands pod mode w) :
    Ends LeftToRestart getClusterSettings (fun reply w => Stands pod mode w ∧
      ((∃ err, reply = .error err) ∨ reply = .ok w.state.settings)) w := by
  apply (safe_read .getClusterSettings rfl stable_stands (fun _ _ => trivial) stands).mono
  intro reply w ⟨stands, _, answers⟩
  refine ⟨stands, ?_⟩
  rcases answers with ⟨fault, failed⟩ | current
  · exact Or.inl ⟨_, failed⟩
  · exact Or.inr current

theorem keeps_removeExcludeNodeHost (node : String) :
    Retains LeftToRestart (Stands pod mode) (removeExcludeNodeHost node) := by
  intro w stands
  apply (safe_getSettings stands).bind
  intro reply w ⟨stands, outcome⟩
  rcases outcome with ⟨err, rfl⟩ | rfl
  · exact stands
  dsimp only
  split
  · exact stands
  case h_2 val current =>
    split
    · exact stands
    have shrinks : pod ∈ excludedNames (excludeValue (removeExclusion val node)) →
        Listed pod w.state := by
      intro listed
      rw [Listed, current]
      exact (mem_removeExclusion listed).1
    apply (safe_put stands shrinks).bind
    intro reply w stands
    cases reply <;> exact stands

theorem keeps_appendExcludeNodeHost {node : String} (plain : Plain node) (other : pod ≠ node) :
    Retains LeftToRestart (Stands pod mode) (appendExcludeNodeHost node) := by
  intro w stands
  apply (safe_getSettings stands).bind
  intro reply w ⟨stands, outcome⟩
  rcases outcome with ⟨err, rfl⟩ | rfl
  · exact stands
  have shrinks : pod ∈ excludedNames
      (excludeValue (appendExclusion w.state.settings.exclude node)) → Listed pod w.state :=
    fun listed => (mem_appendExclusion plain listed).resolve_left other
  apply (safe_put stands shrinks).bind
  intro reply w stands
  cases reply <;> exact stands

theorem keeps_cleanStaleExclusionList {cr : OpenSearchCluster} :
    Retains LeftToRestart (Stands pod mode) (cleanStaleExclusionList cr) := by
  have names : ∀ names, Retains LeftToRestart (Stands pod mode)
      (cleanStaleNames cr names) := by
    intro names
    induction names with
    | nil => exact keeps_pure _
    | cons name names ih =>
      apply (keeps_stands ((reads_isPodStale name).mono fun _ => neutral_of_reads)).bind
      intro stale
      match stale with
      | .error err => exact keeps_pure _
      | .ok false => exact ih
      | .ok true =>
        apply (keeps_removeExcludeNodeHost name).bind
        intro ⟨ok, err⟩
        dsimp only
        split
        · exact keeps_pure _
        · exact ih
  apply (keeps_stands (reads_getExcludedNodeNames.mono fun _ => neutral_of_reads)).bindOk
  · exact fun _ => keeps_pure _
  intro excluded
  exact names excluded

end List

section Check

open RollingRestart

variable {cr : OpenSearchCluster} {pod set : String} {w : ApiWorld}

theorem awaits_statusUpdate {choice : Choice} {sts : StatefulSet}
    (awaits : AwaitsRestart w.state set pod) (other : sts.name ≠ set)
    (left : LeftToRestart (asked w choice (.updateStatefulSetStatus sts))) :
    AwaitsRestart (w.extend (asked w choice (.updateStatefulSetStatus sts))).state set pod := by
  have apart : ∀ s : State, (serve s (.updateStatefulSetStatus sts)).2.statefulSets.get set =
      s.statefulSets.get set := by
    intro s
    rw [serve]
    split
    · rfl
    case h_2 current stored =>
      have key : current.name = sts.name := Store.get_key _ _ _ stored
      have different : set ≠ current.name := fun same => other (key.symm.trans same.symm)
      exact Store.get_put_ne s.statefulSets { current with status := sts.status } different
  apply awaits_event left awaits
  · apply answer_keeps choice _ (.request (.updateStatefulSetStatus sts))
      (·.statefulSets.get set = _) rfl
    intro _ same
    cases same
    exact apart _
  · have leaves : Leaves .pods (asked w choice (.updateStatefulSetStatus sts)).op := by
      intro same
      cases same
    rw [(event_frame _).pods leaves]

theorem safe_checkRevision_other (sts : StatefulSet) (other : sts.name ≠ set) :
    Retains LeftToRestart (fun w => AwaitsRestart w.state set pod) (checkRevision sts) := by
  let J : StatefulSet → ApiWorld → Prop := fun sts w =>
    sts.name ≠ set ∧ AwaitsRestart w.state set pod
  have attempt : ∀ sts w, J sts w → Ends LeftToRestart (updateRevisionAttempt sts)
      (fun result => J result.2) w := by
    rintro sts w ⟨other, awaits⟩
    apply (safe_getStatefulSet sts.name stable_awaits (fun _ _ => trivial) awaits).bind
    rintro reply w ⟨awaits, _, answered⟩
    rcases answered with ⟨err, rfl, _⟩ | ⟨stored, rfl, there⟩
    · exact ⟨other, awaits⟩
    have key : stored.name = sts.name := Store.get_key _ _ _ there
    have different : (revise stored).name ≠ set := fun same => other (key.symm.trans same)
    have updated : Ends LeftToRestart (updateStatefulSetStatus (revise stored))
        (fun _ w => AwaitsRestart w.state set pod) w :=
      safe_request _ trivial fun _ left => awaits_statusUpdate awaits different left
    apply updated.bind
    intro reply w awaits
    cases reply <;> exact ⟨different, awaits⟩
  intro w awaits
  rw [checkRevision]
  split
  · exact awaits
  split
  · apply (safe_attempts attempt defaultRetry ⟨other, awaits⟩).bind
    rintro ⟨err, sts⟩ w ⟨_, awaits⟩
    cases err <;> exact awaits
  · exact awaits

/-- While a pod awaits its restart, the first loop finds an update that is pending. -/
theorem safe_checkNodePools_awaits (pools : List NodePool) (before : Bool)
    (due : before = true ∨ set ∈ pools.map (stsName cr)) (w : ApiWorld)
    (awaits : AwaitsRestart w.state set pod) : Ends LeftToRestart (checkNodePools cr pools before)
      (fun result w => AwaitsRestart w.state set pod ∧ result ≠ .ok false) w := by
  induction pools generalizing before w with
  | nil =>
    refine ⟨awaits, ?_⟩
    rcases due with pending | impossible
    · rw [pending]
      simp
    · cases impossible
  | cons np pools ih =>
    apply (safe_getStatefulSet (stsName cr np) stable_awaits (fun _ _ => trivial) awaits).bind
    rintro reply w ⟨awaits, _, answered⟩
    rcases answered with ⟨err, rfl, _⟩ | ⟨sts, rfl, there⟩
    · exact ⟨awaits, by simp⟩
    have key : sts.name = stsName cr np := Store.get_key _ _ _ there
    have pendingHere : stsName cr np = set → UpdatePending sts := by
      intro same
      obtain ⟨_, other, _, stored, pending, _⟩ := awaits
      rw [same, stored] at there
      cases there
      exact pending
    apply (safe_reads (reads_readyReplicas np) stable_awaits (fun _ _ => trivial) awaits).bindOk
    · exact fun _ _ awaits => ⟨awaits, by simp⟩
    intro ready w awaits
    have checked : Ends LeftToRestart (checkRevision (counted sts ready))
        (fun result w => AwaitsRestart w.state set pod ∧ ∀ seen pending,
          result = .ok (seen, pending) → stsName cr np = set → pending = true) w := by
      by_cases same : stsName cr np = set
      · have pending : (counted sts ready).status.updateRevision ≠ "" ∧
            (counted sts ready).status.updatedReplicas ≠ (counted sts ready).replicas :=
          pendingHere same
        rw [checkRevision, if_pos pending]
        refine ⟨awaits, ?_⟩
        intro seen pending equal _
        cases equal
        rfl
      · have other : (counted sts ready).name ≠ set := fun equal => same (key.symm.trans equal)
        apply (safe_checkRevision_other (counted sts ready) other w awaits).mono
        intro result w awaits
        exact ⟨awaits, fun _ _ _ equal => absurd equal same⟩
    apply checked.bind
    rintro result w ⟨awaits, found⟩
    rcases result with err | ⟨seen, pending⟩
    · exact ⟨awaits, by simp⟩
    dsimp only
    split
    · exact ⟨awaits, by simp⟩
    apply ih _ _ w awaits
    rcases due with earlier | member
    · exact Or.inl (by simp [earlier])
    rcases List.mem_cons.mp member with here | later
    · exact Or.inl (by simp [found seen pending rfl here.symm])
    · exact Or.inr later

theorem keeps_unheld {α : Type} {program : Prog α}
    (only : program.OnlyCalls fun op => writesList op = false) :
    Retains LeftToRestart (Stands pod none) program := by
  apply keeps_of_calls (fun _ _ => trivial) only
  intro w choice op unlisted left stands
  apply stands_none_event left stands
  have same : (w.arrive choice op).after.settings.exclude =
      (w.arrive choice op).before.settings.exclude := answer_exclude _ unlisted
  rw [Listed, Listed, same]
  exact id

theorem unlisted_of_gentle {op : Call} (gentle : Gentle false op) : writesList op = false := by
  cases op with
  | request req =>
    cases req with
    | putClusterSettings settings => cases settings <;> first | rfl | cases gentle
    | _ => rfl
  | _ => rfl

end Check

section Search

open RollingRestart

variable {cr : OpenSearchCluster} {set : String} {w : ApiWorld} {K : ApiWorld → Prop}
  {sts : StatefulSet}

theorem safe_searchPod (host : String) (stable : Stable LeftToRestart K)
    (holds : K w) (stored : w.state.statefulSets.get set = some sts) :
    Ends LeftToRestart (getPod host) (fun reply w => K w ∧
      w.state.statefulSets.get set = some sts ∧ ∀ found, reply = .ok found →
        w.state.pods.get host = some found ∧ found.deleting = false) w := by
  apply safe_request _ trivial
  intro choice e left
  have unchanged : e.after = e.before := (quiet_request (.getPod host) rfl).after_eq w choice
  have still := left.search host rfl
  refine ⟨stable w choice _ left holds unchanged, ?_, ?_⟩
  · rw [World.extend_state, unchanged, still.1]
    exact stored
  intro found reply
  have there : e.before.pods.get host = some found :=
    found_ok (congrArg Prod.fst (request_answered reply))
  rw [World.extend_state, unchanged]
  exact ⟨there, still.2 found there⟩

theorem safe_findOlderRevision (pending : UpdatePending sts)
    (stable : Stable LeftToRestart K) (known : ∀ w, K w → set ∈ setNames w.state.cluster)
    (ordinals : List Nat) (below : ∀ i ∈ ordinals, i < sts.replicas.toNat) (w : ApiWorld)
    (holds : K w) (stored : w.state.statefulSets.get set = some sts) :
    Ends LeftToRestart (findOlderRevision sts ordinals)
      (fun result w => K w ∧ ∀ pod, result = .ok (some pod) →
        AwaitsRestart w.state set pod.name) w := by
  induction ordinals generalizing w with
  | nil => exact ⟨holds, by simp⟩
  | cons i ordinals ih =>
    apply (safe_searchPod (replicaHostName sts i) stable holds stored).bindOk
    · intro err w ⟨holds, stored, seen⟩
      exact ⟨holds, by simp⟩
    intro pod w ⟨holds, stored, seen⟩
    obtain ⟨there, alive⟩ := seen pod rfl
    cases label : pod.labels.get stsRevisionLabel with
    | none =>
      simp only [label]
      exact ⟨holds, by simp⟩
    | some revision =>
      simp only [label]
      split
      case isTrue older =>
        refine ⟨holds, ?_⟩
        intro other equal
        cases equal
        refine ⟨known w holds, sts, pod, stored, pending,
          ⟨i, below i List.mem_cons_self, there, ?_⟩, rfl, alive⟩
        rw [label]
        exact fun same => older (Option.some.inj same)
      case isFalse =>
        exact ih (fun j member => below j (List.mem_cons_of_mem _ member)) w holds stored

def Chosen (candidates : List Candidate) (w : ApiWorld) : Prop :=
  ∀ c ∈ candidates, ∃ set, AwaitsRestart w.state set c.podName

theorem stable_chosen {candidates : List Candidate} : Stable LeftToRestart (Chosen candidates) := by
  intro w choice op left chosen unchanged c member
  obtain ⟨set, awaits⟩ := chosen c member
  exact ⟨set, stable_awaits w choice op left awaits unchanged⟩

theorem safe_findCandidates (pools : List NodePool) (stable : Stable LeftToRestart K)
    (known : ∀ w, K w → ∀ np ∈ pools, stsName cr np ∈ setNames w.state.cluster) (w : ApiWorld)
    (holds : K w) : Ends LeftToRestart (findCandidates cr pools) (fun result w => K w ∧
      ∀ candidates, result = .ok candidates → Chosen candidates w) w := by
  induction pools generalizing K w with
  | nil =>
    refine ⟨holds, ?_⟩
    intro candidates equal
    cases equal
    intro c member
    cases member
  | cons np pools ih =>
    have others : ∀ w, K w → ∀ other ∈ pools, stsName cr other ∈ setNames w.state.cluster :=
      fun w holds other member => known w holds other (List.mem_cons_of_mem _ member)
    apply (safe_getStatefulSet (stsName cr np) stable (fun _ _ => trivial) holds).bind
    intro reply w ⟨holds, _, answered⟩
    rcases answered with ⟨err, rfl, _⟩ | ⟨sts, rfl, there⟩
    · exact ⟨holds, by simp⟩
    dsimp only
    split
    · exact ih stable others w holds
    case isFalse busy =>
      apply (safe_findOlderRevision (not_or.mp busy) stable
        (fun w holds => known w holds np List.mem_cons_self) (List.range sts.replicas.toNat)
        (fun i member => List.mem_range.mp member) w holds there).bind
      intro older w ⟨holds, outdated⟩
      match older, outdated with
      | .error err, _ => exact ⟨holds, by simp⟩
      | .ok none, _ => exact ih stable others w holds
      | .ok (some pod), outdated =>
        have awaits := outdated pod rfl
        apply (ih (stable.and stable_awaits)
          (fun w both => others w both.1) w ⟨holds, awaits⟩).bindOk
        · intro err w ⟨⟨holds, awaits⟩, chosen⟩
          exact ⟨holds, by simp⟩
        intro candidates w ⟨⟨holds, awaits⟩, chosen⟩
        refine ⟨holds, ?_⟩
        intro all equal
        cases equal
        intro c member
        rcases List.mem_cons.mp member with rfl | later
        · exact ⟨_, awaits⟩
        · exact chosen candidates rfl c later

end Search

section Restart

open RollingRestart

variable {cr : OpenSearchCluster} {pod set other : String} {mode : Option String} {w : ApiWorld}
  {c : Candidate}

def Settles (pod : String) (w : ApiWorld) : Prop := ∃ mode, Stands pod mode w

theorem settles_unlisted (unlisted : ¬ Listed pod w.state) : Settles pod w :=
  ⟨none, fun both => unlisted both.1⟩

theorem keeps_awaits {α : Type} {program : Prog α} {lists : Bool}
    (only : program.OnlyCalls (Tunes lists)) :
    Retains LeftToRestart (fun w => AwaitsRestart w.state set pod) program := by
  apply keeps_of_calls (fun _ _ => trivial) only
  intro w choice op tunes left awaits
  have frame := event_frame (w.arrive choice op)
  apply awaits_event left awaits
  · rw [frame.statefulSets (tunes.leaves nofun)]
  · rw [frame.pods (tunes.leaves nofun)]

theorem settles_failed {choice : Choice} {op : Call} (left : LeftToRestart (w.arrive choice op))
    (failed : listFailed op (w.arrive choice op).reply = true)
    (unchanged : (w.arrive choice op).after = (w.arrive choice op).before) :
    Settles pod (w.extend (w.arrive choice op)) := by
  by_cases listed : Listed pod (w.arrive choice op).before
  · obtain ⟨set, awaits⟩ := left.failures failed pod listed
    refine ⟨some set, ?_⟩
    rw [Stands, World.extend_state, unchanged]
    exact awaits
  · apply settles_unlisted
    rw [World.extend_state, unchanged]
    exact listed

theorem safe_removeOwn (w : ApiWorld) :
    Ends LeftToRestart (removeExcludeNodeHost pod) (fun _ => Settles pod) w := by
  have read : Ends LeftToRestart getClusterSettings (fun reply w =>
      (∃ err, reply = .error err ∧ Settles pod w) ∨ reply = .ok w.state.settings) w := by
    apply safe_request _ trivial
    intro choice e left
    have unchanged : e.after = e.before := (quiet_request .getClusterSettings rfl).after_eq w choice
    rcases request_cases w choice .getClusterSettings with
      ⟨fault, failed, _⟩ | ⟨served, _⟩ | ⟨failed, _⟩
    · left
      refine ⟨_, failed, settles_failed left ?_ unchanged⟩
      rw [failed]
      rfl
    · right
      rw [World.extend_state, unchanged]
      exact served
    · left
      refine ⟨_, failed, settles_failed left ?_ unchanged⟩
      rw [failed]
      rfl
  apply read.bind
  intro reply w outcome
  rcases outcome with ⟨err, rfl, settles⟩ | rfl
  · exact settles
  dsimp only
  split
  case h_1 current =>
    apply settles_unlisted
    rw [Listed, current]
    exact List.not_mem_nil
  case h_2 val current =>
    split
    case isTrue empty =>
      apply settles_unlisted
      rw [Listed, current, empty]
      exact List.not_mem_nil
    case isFalse =>
      have put : Ends LeftToRestart
          (putClusterSettings (.excludeName (excludeValue (removeExclusion val pod))))
          (fun _ => Settles pod) w := by
        apply safe_request _ trivial
        intro choice e left
        rcases putExclude_cases w choice (excludeValue (removeExclusion val pod)) with
          ⟨err, failed, unchanged⟩ | ⟨_, after⟩
        · apply settles_failed left _ unchanged
          rw [failed]
          rfl
        · apply settles_unlisted
          rw [World.extend_state, after]
          exact fun listed => (mem_removeExclusion listed).2 rfl
      apply put.bind
      intro reply w settles
      cases reply <;> exact settles

/-- A deletion that is not answered with success was without effect. -/
theorem safe_deleteOwn (awaits : AwaitsRestart w.state set pod) : Ends LeftToRestart (deletePod pod)
      (fun reply w => reply = .ok () ∨ AwaitsRestart w.state set pod) w := by
  apply safe_request _ trivial
  intro choice e left
  apply (request_received (left.deletion rfl) ?_).imp_right (stable_awaits w choice _ left awaits)
  intro s
  rw [serve]
  split
  · exact Or.inr rfl
  · exact Or.inl rfl

theorem keeps_deleteOther (different : pod ≠ other) :
    Retains LeftToRestart (Stands pod mode) (deletePod other) := by
  intro w stands
  apply safe_request _ trivial
  intro choice e left
  have apart : ∀ s : State, (serve s (.deletePod other)).2.pods.get pod = s.pods.get pod := by
    intro s
    rw [serve]
    split
    · rfl
    case h_2 found stored =>
      have key : found.name = other := Store.get_key _ _ _ stored
      exact Store.get_put_ne s.pods { found with deleting := true }
        (fun same => different (same.trans key))
  cases mode with
  | none =>
    apply stands_none_event left stands
    have same : e.after.settings.exclude = e.before.settings.exclude :=
      answer_exclude _ rfl
    rw [Listed, Listed, same]
    exact id
  | some set =>
    apply awaits_event left stands
    · have leaves : Leaves .statefulSets (asked w choice (.deletePod other)).op := by
        intro same
        cases same
      rw [(event_frame _).statefulSets leaves]
    · apply answer_keeps choice _ (.request (.deletePod other)) (·.pods.get pod = _) rfl
      intro _ same
      cases same
      exact apart _

theorem keeps_preparePodForDelete (plain : Plain other) (different : pod ≠ other)
    (nodeCount : Int) : Retains LeftToRestart (Stands pod mode)
      (preparePodForDelete other true nodeCount) := by
  rw [preparePodForDelete, if_pos rfl]
  apply (keeps_appendExcludeNodeHost plain different).bind
  rintro ⟨_, err⟩
  cases err with
  | some err => exact keeps_pure _
  | none =>
    dsimp only
    split
    · apply (keeps_stands ((tunes_existingIndices).mono fun _ => neutral_of_tunes)).bindOk
      · exact fun _ => keeps_pure _
      intro indices
      apply (keeps_stands ((tunes_hasIndexPrimariesOnNode).mono fun _ => neutral_of_tunes)).bind
      intro reply
      cases reply <;> exact keeps_pure _
    · exact keeps_stands ((tunes_checkPodSafeToDelete _).mono fun _ => neutral_of_tunes)

theorem keeps_restartOther (drained : cr.spec.general.drainDataNodes = true)
    (plain : Plain c.podName) (different : pod ≠ c.podName) :
    Retains LeftToRestart (Stands pod mode) (restartSpecificPod cr c) := by
  rw [restartSpecificPod, drained]
  apply (keeps_stands ((reads_dataNodesCount _).mono fun _ => neutral_of_reads)).bind
  intro dataCount
  apply (keeps_stands ((tunes_checkClusterStatusForRestart).mono fun _ => neutral_of_tunes)).bind
  intro ready
  rcases ready with ⟨_, err⟩ | ⟨_ | _, _⟩
  · exact keeps_pure _
  · exact keeps_pure _
  apply (keeps_preparePodForDelete plain different dataCount).bind
  intro prepared
  rcases prepared with err | _ | _
  · exact keeps_pure _
  · exact keeps_pure _
  apply (keeps_deleteOther different).bindOk
  · exact fun _ => keeps_pure _
  intro _
  apply (keeps_removeExcludeNodeHost c.podName).bind
  rintro ⟨ok, err⟩
  dsimp only
  split <;> exact keeps_pure _

theorem safe_restartOwn (drained : cr.spec.general.drainDataNodes = true)
    (own : c.podName = pod) (awaits : AwaitsRestart w.state set pod) :
    Ends LeftToRestart (restartSpecificPod cr c) (fun _ => Settles pod) w := by
  rw [restartSpecificPod, drained, own]
  apply (safe_reads (reads_dataNodesCount _) stable_awaits (fun _ _ => trivial) awaits).bind
  intro dataCount w awaits
  apply (keeps_awaits (tunes_checkClusterStatusForRestart) w awaits).bind
  intro ready w awaits
  rcases ready with ⟨_, err⟩ | ⟨_ | _, _⟩
  · exact ⟨some set, awaits⟩
  · exact ⟨some set, awaits⟩
  apply (keeps_awaits (tunes_preparePodForDelete pod true dataCount) w awaits).bind
  intro prepared w awaits
  rcases prepared with err | _ | _
  · exact ⟨some set, awaits⟩
  · exact ⟨some set, awaits⟩
  apply (safe_deleteOwn awaits).bindOk
  · exact fun _ _ outcome => ⟨some set, outcome.resolve_left (by simp)⟩
  intro _ w outcome
  apply (safe_removeOwn w).bind
  rintro ⟨ok, err⟩ w settles
  dsimp only
  split <;> exact settles

end Restart

section Pass

open RollingRestart

variable {cr : OpenSearchCluster} {pod : String} {mode : Option String} {w : ApiWorld}

def SameSets (cr : OpenSearchCluster) (w : ApiWorld) : Prop :=
  setNames w.state.cluster = setNames cr

theorem sameSets_event (w : ApiWorld) (choice : Choice) (op : Call)
    (left : LeftToRestart (w.arrive choice op)) (same : SameSets cr w) :
    SameSets cr (w.extend (w.arrive choice op)) :=
  ((answer_setNames).trans left.pools).trans same

theorem stable_sameSets : Stable LeftToRestart (SameSets cr) :=
  fun w choice op left same _ => sameSets_event w choice op left same

theorem AwaitsRestart.plain {s : State} {set : String} (awaits : AwaitsRestart s set pod)
    (plain : ∀ set ∈ setNames s.cluster, Plain set) : Plain pod := by
  obtain ⟨member, sts, found, stored, _, ⟨i, _, there, _⟩, named, _⟩ := awaits
  have key : sts.name = set := Store.get_key _ _ _ stored
  have host : pod = ordinalName sts.name i := named.symm.trans (Store.get_key _ _ _ there)
  rw [host]
  exact plain_ordinalName _ (key.symm ▸ plain set member)

structure Snapshot (cr : OpenSearchCluster) : Prop where
  drained : cr.spec.general.drainDataNodes = true
  plain : ∀ set ∈ setNames cr, Plain set

theorem safe_restartCandidate (snapshot : Snapshot cr) (c : Candidate) (w : ApiWorld)
    (stands : Stands pod mode w) (same : SameSets cr w)
    (chosen : ∃ set, AwaitsRestart w.state set c.podName) :
    Ends LeftToRestart (restartCandidate cr c) (fun _ => Settles pod) w := by
  obtain ⟨set, awaits⟩ := chosen
  have restarted : Ends LeftToRestart (restartSpecificPod cr c)
      (fun _ => Settles pod) w := by
    by_cases own : c.podName = pod
    · exact safe_restartOwn snapshot.drained own (own ▸ awaits)
    have plain : Plain c.podName := by
      apply awaits.plain
      rw [same]
      exact snapshot.plain
    apply (keeps_restartOther snapshot.drained plain (Ne.symm own) w stands).mono
    intro _ w stands
    exact ⟨mode, stands⟩
  apply restarted.bind
  intro ⟨res, err⟩ w settles
  dsimp only
  split
  · exact settles
  · split <;> exact settles

theorem safe_pickCandidate (snapshot : Snapshot cr) (candidates : List Candidate) (w : ApiWorld)
    (stands : Stands pod mode w) (same : SameSets cr w) (chosen : Chosen candidates w) :
    Ends LeftToRestart (pickCandidate cr candidates) (fun _ => Settles pod) w := by
  rw [pickCandidate.eq_def]
  split
  · exact ⟨mode, stands⟩
  case h_2 next rest =>
    split
    · let K := fun w => (Stands pod mode w ∧ SameSets cr w) ∧ Chosen (next :: rest) w
      have stable : Stable LeftToRestart K :=
        (stable_stands.and stable_sameSets).and (stable_chosen)
      apply (safe_reads (reads_countMasters) stable (fun _ _ => trivial)
        ⟨⟨stands, same⟩, chosen⟩).bindOk
      · rintro err w ⟨⟨stands, same⟩, chosen⟩
        exact ⟨mode, stands⟩
      rintro count w ⟨⟨stands, same⟩, chosen⟩
      dsimp only
      split
      · split
        case h_1 c found =>
          exact safe_restartCandidate snapshot c w stands same
            (chosen c (List.mem_of_find?_eq_some found))
        · exact ⟨mode, stands⟩
      · exact safe_restartCandidate snapshot next w stands same (chosen next List.mem_cons_self)
    · exact safe_restartCandidate snapshot next w stands same (chosen next List.mem_cons_self)

theorem safe_restartFromCandidates (snapshot : Snapshot cr) (w : ApiWorld)
    (stands : Stands pod mode w) (same : SameSets cr w) :
    Ends LeftToRestart (restartFromCandidates cr) (fun _ => Settles pod) w := by
  let K := fun w => Stands pod mode w ∧ SameSets cr w
  have stable : Stable LeftToRestart K := stable_stands.and stable_sameSets
  have known : ∀ w, K w → ∀ np ∈ cr.spec.nodePools, stsName cr np ∈ setNames w.state.cluster := by
    intro w ⟨_, same⟩ np member
    rw [same]
    exact List.mem_map_of_mem member
  apply (safe_findCandidates cr.spec.nodePools stable known w ⟨stands, same⟩).bindOk
  · intro err w ⟨⟨stands, same⟩, chosen⟩
    exact ⟨mode, stands⟩
  intro candidates w ⟨⟨stands, same⟩, chosen⟩
  apply safe_pickCandidate snapshot _ w stands same
  intro c member
  exact chosen candidates rfl c (mem_sortCandidates.mp member)

theorem neutral_updateStatus {f : OpenSearchCluster → ClusterStatus} :
    (updateStatus f).OnlyCalls Neutral :=
  onlyCalls_updateStatus f ⟨rfl, nofun, nofun⟩ fun _ => ⟨rfl, nofun, nofun⟩

theorem safe_startRestart (snapshot : Snapshot cr) (w : ApiWorld) (stands : Stands pod mode w)
    (same : SameSets cr w) : Ends LeftToRestart (startRestart cr) (fun _ => Settles pod) w := by
  rw [startRestart]
  split
  · exact ⟨mode, stands⟩
  apply ((keeps_stands (neutral_updateStatus) w stands).along same sameSets_event).bindNone
  · rintro err w ⟨stands, same⟩
    exact ⟨mode, stands⟩
  rintro w ⟨stands, same⟩
  have connects : createClientForCluster.OnlyCalls Neutral :=
    onlyCalls_asked ⟨rfl, by decide, by decide⟩
  apply ((keeps_stands connects w stands).along same sameSets_event).bindOk
  · rintro err w ⟨stands, same⟩
    exact ⟨mode, stands⟩
  rintro _ w ⟨stands, same⟩
  rw [globalCandidateRollingRestart, snapshot.drained, if_pos rfl]
  apply ((keeps_cleanStaleExclusionList w stands).along same sameSets_event).bind
  rintro ⟨res, err⟩ w ⟨stands, same⟩
  dsimp only
  split
  · exact ⟨mode, stands⟩
  split
  · exact ⟨mode, stands⟩
  · exact safe_restartFromCandidates snapshot w stands same

abbrev Continues (op : Call) : Prop := finishes op = false

theorem continues_of_gentle {lists : Bool} {op : Call} (gentle : Gentle lists op) :
    Continues op := by
  cases op with
  | request req => cases req <;> first | rfl | cases gentle
  | _ => rfl

theorem continues_startRestart : (startRestart cr).OnlyCalls Continues := by
  rw [startRestart]
  split
  · trivial
  have writes : (updateRestartStatus statusInProgress).OnlyCalls Continues := by
    have reading : Continues (.request .getCluster) := rfl
    apply onlyCalls_updateStatus _ reading
    intro cluster
    have recorded : findStatus { cluster with
          status.componentsStatus := setComponentStatus (restartStatus statusInProgress)
            cluster.status.componentsStatus } =
        some (restartStatus statusInProgress) := findStatus_recorded rfl
    simp only [Continues, finishes, recorded]
    decide
  apply writes.bindNone
  · exact fun _ => trivial
  refine (onlyCalls_asked (by rfl)).bindOk (fun _ => trivial) fun _ => ?_
  apply restarts_globalCandidateRollingRestart.mono
  intro op restarts
  rcases restarts with gentle | ⟨pod, rfl⟩
  · exact continues_of_gentle gentle
  · rfl

/-- A restart that goes on lets the pod stand in one way or the other; one that is
recorded as finished does not hold it on the list. -/
def Relinquished (pod : String) (old : List ApiEvent) (w : ApiWorld) : Prop :=
  Settles pod w ∧
    ((∃ recent, w.past = recent ++ old ∧ ∀ e ∈ recent, Continues e.op) ∨ Stands pod none w)

theorem safe_checkNodePools (stands : Stands pod mode w) (same : SameSets cr w) :
    Ends LeftToRestart (checkNodePools cr cr.spec.nodePools false)
      (fun result w => Stands pod mode w ∧ (result = .ok false → mode = none)) w := by
  cases mode with
  | none =>
    apply (keeps_unheld ((gentle_checkNodePools).mono fun _ => unlisted_of_gentle) w stands).mono
    intro result w stands
    exact ⟨stands, fun _ => rfl⟩
  | some set =>
    have member : set ∈ cr.spec.nodePools.map (stsName cr) := by
      have known : set ∈ setNames w.state.cluster := stands.1
      rw [same] at known
      exact known
    apply (safe_checkNodePools_awaits cr.spec.nodePools false (Or.inr member) w stands).mono
    intro result w ⟨awaits, pending⟩
    exact ⟨awaits, fun nothing => absurd nothing pending⟩

theorem unlisted_finishRestart : (finishRestart cr).OnlyCalls fun op => writesList op = false := by
  rw [finishRestart]
  split
  · refine (onlyCalls_asked (by rfl)).bindOk (fun _ => trivial) fun _ => ?_
    apply (tunes_reactivateShardAllocation.mono fun _ tunes =>
      unlisted_of_gentle tunes.gentle).bindNone
    · exact fun _ => trivial
    apply ((neutral_updateStatus).mono fun _ neutral => neutral.unlisted).bind
    intro failed
    cases failed <;> trivial
  · trivial

theorem safe_restartReconcile (snapshot : Snapshot cr) (w : ApiWorld) (stands : Stands pod mode w)
    (same : SameSets cr w) : Ends LeftToRestart (RollingRestart.reconcile cr)
      (fun _ => Relinquished pod w.past) w := by
  rw [RollingRestart.reconcile]
  split
  · exact ⟨⟨mode, stands⟩, Or.inl ⟨[], rfl, by simp⟩⟩
  have checked := ((safe_checkNodePools stands same).along same sameSets_event).recorded
    ((gentle_checkNodePools).mono fun _ => continues_of_gentle)
  apply checked.bind
  rintro result later ⟨⟨⟨stands, nothing⟩, same⟩, recent, past, quiet⟩
  rcases result with result | _ | _
  · exact ⟨⟨mode, stands⟩, Or.inl ⟨recent, past, quiet⟩⟩
  · have free : mode = none := nothing rfl
    subst free
    apply (keeps_unheld unlisted_finishRestart later stands).mono
    intro _ w stands
    exact ⟨⟨none, stands⟩, Or.inr stands⟩
  · apply ((safe_startRestart snapshot later stands same).recorded continues_startRestart).mono
    rintro _ final ⟨settles, newer, longer, still⟩
    refine ⟨settles, Or.inl ⟨newer ++ recent, ?_, ?_⟩⟩
    · rw [longer, past, List.append_assoc]
    intro e member
    rcases List.mem_append.mp member with new | old
    · exact still e new
    · exact quiet e old

theorem Relinquished.after {old : List ApiEvent} {e : ApiEvent} (continues : Continues e.op)
    (relinquished : Relinquished pod (e :: old) w) : Relinquished pod old w := by
  obtain ⟨settles, ⟨recent, past, quiet⟩ | free⟩ := relinquished
  · refine ⟨settles, Or.inl ⟨recent ++ [e], ?_, ?_⟩⟩
    · rw [past, List.append_assoc]
      rfl
    intro x member
    rcases List.mem_append.mp member with later | now
    · exact quiet x later
    · rw [List.mem_singleton.mp now]
      exact continues
  · exact ⟨settles, Or.inr free⟩

theorem safe_getCluster (stands : Stands pod mode w) :
    Ends LeftToRestart getOpenSearchCluster (fun reply w' =>
      Stands pod mode w' ∧ (∃ e : ApiEvent, Continues e.op ∧ w'.past = e :: w.past) ∧
      ∀ cr, reply = .ok cr → Snapshot cr ∧ SameSets cr w') w := by
  apply safe_request _ trivial
  intro choice e left
  refine ⟨stands.neutral ⟨rfl, nofun, nofun⟩ left, ⟨e, rfl, rfl⟩, ?_⟩
  intro cr answered
  obtain ⟨rfl, after⟩ := told_getCluster answered
  exact ⟨⟨left.drain rfl, left.plain⟩, congrArg (fun s : State => setNames s.cluster) after⟩

theorem safe_restartPass (settles : Settles pod w) :
    Ends LeftToRestart restartPass (fun _ => Relinquished pod w.past) w := by
  obtain ⟨mode, stands⟩ := settles
  apply (safe_getCluster stands).bind
  intro reply w' ⟨stands, ⟨e, continues, past⟩, taken⟩
  cases reply with
  | error err =>
    apply Relinquished.after continues
    exact ⟨⟨mode, stands⟩, Or.inl ⟨[], past, by simp⟩⟩
  | ok cr =>
    obtain ⟨snapshot, same⟩ := taken cr rfl
    apply (safe_restartReconcile snapshot w' stands same).bind
    intro _ final relinquished
    rw [past] at relinquished
    exact relinquished.after continues

end Pass

def restartPasses (earlier : List (List Choice)) (start : ApiWorld) : ApiWorld :=
  inTurn (fun _ => restartPass) id earlier start

theorem restartPasses_settle {pod : String} {earlier : List (List Choice)} {start : ApiWorld}
    (fresh : start.past = []) (returned : AllReturn (fun _ => restartPass) id earlier start)
    (left : ∀ e ∈ (restartPasses earlier start).past, LeftToRestart e) :
    Settles pod (restartPasses earlier start) := by
  have begun : Settles pod start := by
    refine ⟨none, fun ⟨_, e, member, _⟩ => ?_⟩
    rw [fresh] at member
    cases member
  have each : ∀ choices ∈ earlier, ∀ w, Settles pod w →
      Ends LeftToRestart restartPass (fun _ => Settles pod) w :=
    fun _ _ w settles => (safe_restartPass settles).mono fun _ _ relinquished => relinquished.1
  exact inTurn_keep (fun _ => restartPass) id each start begun returned left

/-- A restart that drains nodes and is recorded as finished has taken every node it
put on the exclude list off again, as long as it is left to its work. -/
theorem finished_restart_excludes_nothing (earlier : List (List Choice)) (last : List Choice)
    (start : ApiWorld) (fresh : start.past = [])
    (returned : AllReturn (fun _ => restartPass) id earlier start)
    (finished : (exec restartPass last (restartPasses earlier start)).1.isSome = true)
    (left : ∀ e ∈ (exec restartPass last (restartPasses earlier start)).2.past, LeftToRestart e)
    (recent : List ApiEvent)
    (grown : (exec restartPass last (restartPasses earlier start)).2.past =
      recent ++ (restartPasses earlier start).past)
    (recorded : ∃ e ∈ recent, finishes e.op = true) (pod : String)
    (appended : ∃ e ∈ (exec restartPass last (restartPasses earlier start)).2.past, Appends pod e) :
    ¬ Listed pod (exec restartPass last (restartPasses earlier start)).2.state := by
  have settles : Settles pod (restartPasses earlier start) :=
    restartPasses_settle fresh returned fun e member =>
      left e ((exec_past restartPass last _).subset member)
  obtain ⟨value, result⟩ := Option.isSome_iff_exists.mp finished
  obtain ⟨_, ⟨others, past, quiet⟩ | free⟩ :=
    ((safe_restartPass settles).outcome last left).1 value result
  · have same : recent = others := List.append_cancel_right (grown.symm.trans past)
    obtain ⟨e, member, finishing⟩ := recorded
    rw [same] at member
    cases (quiet e member).symm.trans finishing
  · exact fun listed => free ⟨listed, appended⟩

section Scenarios

instance (sts : StatefulSet) : Decidable (UpdatePending sts) :=
  inferInstanceAs (Decidable (_ ∧ _))

def NoneAwaits (s : State) : Prop :=
  ∀ sts ∈ s.statefulSets.items, UpdatePending sts → ∀ i < sts.replicas.toNat,
    ∀ pod ∈ s.pods.get (replicaHostName sts i), pod.deleting = true

instance (s : State) : Decidable (NoneAwaits s) :=
  inferInstanceAs (Decidable (∀ sts ∈ s.statefulSets.items, _))

theorem NoneAwaits.not_awaits {s : State} (none : NoneAwaits s) (set pod : String) :
    ¬ AwaitsRestart s set pod := by
  intro ⟨_, sts, found, stored, pending, ⟨i, below, there, _⟩, _, alive⟩
  have going := none sts (Store.get_mem _ stored) pending i below found there
  cases alive.symm.trans going

def searches : Call → Bool
  | .request (.getPod _) => true
  | _ => false

def SameWorkload (e : ApiEvent) : Prop :=
  e.before.statefulSets.items = e.prior.statefulSets.items ∧
    e.before.pods.items = e.prior.pods.items

instance (e : ApiEvent) : Decidable (SameWorkload e) := inferInstanceAs (Decidable (_ ∧ _))

@[mk_iff]
structure Untouched (sets : List String) (e : ApiEvent) : Prop where
  list : e.before.settings.exclude = e.prior.settings.exclude
  known : setNames e.prior.cluster = sets
  kept : setNames e.before.cluster = sets
  drain : e.before.cluster.spec.general.drainDataNodes = true
  pods : SameWorkload e ∨ NoneAwaits e.prior
  search : searches e.op = true →
    SameWorkload e ∧ ∀ found ∈ e.before.pods.items, found.deleting = false

instance (sets : List String) (e : ApiEvent) : Decidable (Untouched sets e) :=
  decidable_of_iff' _ (untouched_iff ..)

theorem SameWorkload.stores {e : ApiEvent} (same : SameWorkload e) :
    e.before.statefulSets = e.prior.statefulSets ∧ e.before.pods = e.prior.pods :=
  ⟨Store.ext same.1, Store.ext same.2⟩

theorem Untouched.left {sets : List String} {e : ApiEvent} (untouched : Untouched sets e)
    (plain : ∀ set ∈ sets, Plain set) (answered : listFailed e.op e.reply = false)
    (deletion : deletes e.op = true → e.choice.outcome ≠ .lost) : LeftToRestart e where
  list := untouched.list
  pools := untouched.kept.trans untouched.known.symm
  plain := by
    rw [untouched.kept]
    exact plain
  drain := fun _ => untouched.drain
  pods := by
    intro set pod awaits
    rcases untouched.pods with same | none
    · apply awaits.of_same (untouched.kept.trans untouched.known.symm)
      · rw [same.stores.1]
      · rw [same.stores.2]
    · exact absurd awaits (none.not_awaits set pod)
  search := by
    intro pod op
    obtain ⟨same, alive⟩ := untouched.search (by rw [op]; rfl)
    exact ⟨same.stores.1, fun found there => alive found (Store.get_mem _ there)⟩
  failures := by
    intro failed
    cases answered.symm.trans failed
  deletion := deletion

def drainedWorld : ApiWorld where
  past := []
  state := { smallState false true with
    cluster := { smallCluster with spec.general.drainDataNodes := true } }

def recreatePods (s : State) : State :=
  { s with
    statefulSets := (smallState false false).statefulSets
    pods := (smallState false false).pods }

def drainedSets : List String := ["logs-managers", "logs-data"]

def servedPass : List Choice := List.replicate 20 {}

def refusedPass : List Choice := servedPass.take 19 ++ [{ outcome := .refused .unavailable }]

def finishingPass : List Choice := { others := recreatePods } :: List.replicate 9 {}

theorem restarted_pod_not_excluded :
    ¬ Listed "logs-data-0"
      (exec restartPass finishingPass (restartPasses [servedPass] drainedWorld)).2.state := by
  have undisturbed : ∀ e ∈ (exec restartPass finishingPass
      (restartPasses [servedPass] drainedWorld)).2.past,
      Untouched drainedSets e ∧ listFailed e.op e.reply = false ∧ e.choice.outcome ≠ .lost := by
    decide +kernel
  refine finished_restart_excludes_nothing [servedPass] finishingPass drainedWorld rfl (by decide)
    (by decide) ?_ ((exec restartPass finishingPass
      (restartPasses [servedPass] drainedWorld)).2.past.take 10) ?_ (by decide) _ (by decide)
  · intro e member
    obtain ⟨untouched, answered, kept⟩ := undisturbed e member
    exact untouched.left (by decide) answered fun _ => kept
  · rfl

/-- The removal from the list fails after the last pod's deletion. The next pass
finds nothing to restart and records the restart as finished. -/
theorem restarted_pod_stays_excluded :
    (∀ e ∈ (exec restartPass finishingPass (restartPasses [refusedPass] drainedWorld)).2.past,
      Untouched drainedSets e ∧ (e.choice.outcome = .served ∨ writesList e.op = true)) ∧
    AllReturn (fun _ => restartPass) id [refusedPass] drainedWorld ∧
    (exec restartPass finishingPass (restartPasses [refusedPass] drainedWorld)).1.isSome = true ∧
    (∃ e ∈ (exec restartPass finishingPass
      (restartPasses [refusedPass] drainedWorld)).2.past.take 10, finishes e.op = true) ∧
    (∃ e ∈ (exec restartPass finishingPass (restartPasses [refusedPass] drainedWorld)).2.past,
      Appends "logs-data-0" e) ∧
    Listed "logs-data-0"
      (exec restartPass finishingPass (restartPasses [refusedPass] drainedWorld)).2.state := by
  decide +kernel

end Scenarios

end OpenSearchOperator.Controllers
