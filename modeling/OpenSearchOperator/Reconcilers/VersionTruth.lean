import OpenSearchOperator.Reconcilers.DeletionPass
import OpenSearchOperator.Reconcilers.UpgradeOrder

/-! What the version in the status says about the node pools. The marks that the
upgrade leaves on them carry no version, so that one who edits the version while
there are marks can be told a version that no pool was upgraded to. -/

namespace OpenSearchOperator.Reconcilers.Upgrade

open Api Data Effects
open Gateway Helpers

section Calls

variable {α : Type}

abbrev Inside (op : Call) : Prop := enters op = none

variable {cr : OpenSearchCluster} {semver : SemverPackage}

variable {program : Prog α}

theorem inside_of_spares (only : program.OnlyCalls Spares) :
    program.OnlyCalls Inside := only.mono fun _ => enters_of_spares

theorem inside_of_tunes {lists : Bool} (only : program.OnlyCalls (Tunes lists)) :
    program.OnlyCalls Inside :=
  inside_of_spares (only.mono fun _ tunes => tunes.gentle.spares)

theorem inside_of_reads (only : program.OnlyCalls Reads) :
    program.OnlyCalls Inside := inside_of_spares (only.mono fun _ reads => reads.spares)

theorem inside_restartWorkingPod (pool : NodePool) (sts : StatefulSet) (dataCount : Int) :
    (restartWorkingPod cr pool sts dataCount).OnlyCalls Inside := by
  apply (inside_of_reads (reads_workingPod sts)).bindOk
  · exact fun _ => inside_of_spares (spares_report)
  intro workingPod
  apply (inside_of_tunes (tunes_preparePodForDelete _ _ _)).bind
  intro ready
  match ready with
  | .error err => exact inside_of_spares (spares_report)
  | .ok false => exact inside_of_spares (spares_report)
  | .ok true =>
    refine onlyCalls_ask rfl fun deleted => ?_
    cases deleted with
    | error err => exact inside_of_spares (spares_report)
    | ok _ =>
      apply (inside_of_spares (spares_setComponentConditions _ _)).bind
      intro _
      cases cr.spec.general.drainDataNodes with
      | false => trivial
      | true =>
        exact (inside_of_tunes (tunes_removeExcludeNodeHost workingPod)).bind fun _ => trivial

theorem inside_upgradeReadyPool (pool : NodePool) (sts : StatefulSet) (dataCount : Int) :
    (upgradeReadyPool semver cr pool sts dataCount).OnlyCalls Inside := by
  apply (inside_of_tunes (tunes_deleteUnsupportedClusterSettings)).bindNone
  · exact fun _ => inside_of_spares (spares_report)
  apply (inside_of_tunes (tunes_checkClusterStatusForRestart)).bind
  intro ready
  match ready with
  | .error (_, err) => exact inside_of_spares (spares_report)
  | .ok (false, condition) => exact inside_of_spares (spares_report)
  | .ok (true, _) =>
    dsimp only
    split
    · apply (inside_of_tunes tunes_reactivateShardAllocation).bindNone
      · exact fun _ => trivial
      exact inside_of_spares (spares_updateStatus)
    · exact inside_restartWorkingPod pool sts dataCount

theorem inside_doNodePoolUpgrade {pool : NodePool} :
    (doNodePoolUpgrade semver cr pool).OnlyCalls Inside := by
  refine (onlyCalls_asked (by rfl)).bindOk (fun _ => trivial) fun sts => ?_
  apply (inside_of_reads (reads_readyReplicas pool)).bindOk
  · exact fun _ => trivial
  intro readyReplicas
  apply (inside_of_reads (reads_dataNodesCount _)).bind
  intro dataCount
  split
  · exact inside_of_spares (spares_report)
  · exact inside_upgradeReadyPool pool sts dataCount

theorem inside_upgradeNodePools : (upgradeNodePools semver cr).OnlyCalls Inside := by
  rw [upgradeNodePools]
  split
  · exact (inside_of_spares (spares_updateStatus)).bind fun _ => trivial
  · exact (inside_doNodePoolUpgrade).bind fun _ => trivial
  · exact (inside_of_spares (spares_updateStatus)).bind fun _ => trivial

theorem inside_upgradeCluster : (upgradeCluster semver cr).OnlyCalls Inside := by
  refine (onlyCalls_asked (by rfl)).bindOk (fun _ => trivial) fun _ => ?_
  dsimp only
  split
  · have cleaning : (cleanStaleExclusionList cr).OnlyCalls (Gentle true) :=
      gentle_cleanStaleExclusionList
    apply (inside_of_spares (cleaning.mono fun _ => Gentle.spares)).bind
    intro ⟨res, err⟩
    split
    · trivial
    split
    · trivial
    · exact inside_upgradeNodePools
  · exact inside_upgradeNodePools

theorem inside_reconcile : (reconcile cr semver).OnlyCalls Inside := by
  have status : ∀ phase : String, (updateStatus fun cluster =>
      { cluster.status with phase := phase }).OnlyCalls Inside :=
    fun _ => inside_of_spares (spares_updateStatus)
  rw [reconcile]
  split
  · split
    · exact (status _).bind fun _ => trivial
    · trivial
  · split
    · trivial
    split
    · trivial
    split
    · apply (status _).bindNone
      · exact fun _ => trivial
      exact inside_upgradeCluster
    · exact inside_upgradeCluster

end Calls

section Truth

variable {e : ApiEvent} {new : ClusterStatus}

def SetTo (version : String) (e : ApiEvent) : Prop :=
  e.prior.cluster.spec.general.version ≠ version ∧ e.before.cluster.spec.general.version = version

def Announces (e : ApiEvent) (version : String) : Prop :=
  e.before.cluster.status.version ≠ version ∧ e.after.cluster.status.version = version

def JustMarked (version : String) (pool : NodePool) : List ApiEvent → Prop
  | [] => False
  | e :: earlier => ¬ HasEntry e.before.cluster pool "Upgraded" ∧
      HasEntry e.after.cluster pool "Upgraded" ∧
      ∃ run ∈ entered earlier, run.1 = .upgrade ∧ run.2.spec.general.version = version

/-- The pool was marked for this version after the version was set for the last time. -/
def MarkedFor (version : String) (pool : NodePool) (past : List ApiEvent) : Prop :=
  Since (fun e => ¬ SetTo version e) (JustMarked version pool) past

def Truthful (e : ApiEvent) (earlier : List ApiEvent) : Prop :=
  ∀ version, Announces e version → ∀ pool ∈ e.before.cluster.spec.nodePools,
    ¬ SetTo version e ∧ MarkedFor version pool earlier

/-- Nobody else touches the entries or the pools, and the version is edited only
while there are no entries. -/
structure Patient (e : ApiEvent) : Prop extends Alone e where
  version : upgraders e.prior.cluster.status.componentsStatus ≠ [] →
    e.before.cluster.spec.general.version = e.prior.cluster.spec.general.version

structure Marks (w : ApiWorld) : Prop where
  kept : WellKept w.state.cluster.status.componentsStatus
  marked : ∀ pool, HasEntry w.state.cluster pool "Upgraded" →
    MarkedFor w.state.cluster.spec.general.version pool w.past
  truthful : Throughout Truthful w.past

/-- What a pass knows until its status update: the entries are those of its snapshot,
and if there are any the version is too. -/
structure Working (cr : OpenSearchCluster) (w : ApiWorld) : Prop extends Marks w where
  fixed : w.state.cluster.spec.nodePools = cr.spec.nodePools
  same : upgraders w.state.cluster.status.componentsStatus = upgraders cr.status.componentsStatus
  version : upgraders w.state.cluster.status.componentsStatus ≠ [] →
    w.state.cluster.spec.general.version = cr.spec.general.version
  inside : entered w.past = some (.upgrade, cr)

variable {cr cluster cluster' : OpenSearchCluster} {w : ApiWorld} {choice : Choice} {op : Call}
  {pool : NodePool} {status : String}

theorem HasEntry.upgraders_ne (entry : HasEntry cluster pool status) :
    upgraders cluster.status.componentsStatus ≠ [] := by
  obtain ⟨x, stored, upgrader, _⟩ := entry
  exact List.ne_nil_of_mem (mem_upgraders.mpr ⟨stored, upgrader⟩)

theorem HasEntry.congr (entry : HasEntry cluster pool status)
    (same : upgraders cluster.status.componentsStatus =
      upgraders cluster'.status.componentsStatus) : HasEntry cluster' pool status := by
  obtain ⟨x, stored, upgrader, rest⟩ := entry
  have listed := mem_upgraders.mpr ⟨stored, upgrader⟩
  rw [same] at listed
  exact ⟨x, (mem_upgraders.mp listed).1, upgrader, rest⟩

theorem Patient.not_setTo (patient : Patient e)
    (entries : upgraders e.prior.cluster.status.componentsStatus ≠ []) (version : String) :
    ¬ SetTo version e := by
  intro ⟨old, new⟩
  rw [patient.version entries] at new
  exact old new

theorem MarkedFor.next {version : String} {past : List ApiEvent}
    (marked : MarkedFor version pool past) (patient : Patient e)
    (entries : upgraders e.prior.cluster.status.componentsStatus ≠ []) :
    MarkedFor version pool (e :: past) :=
  marked.cons (patient.not_setTo entries version)

theorem Idle.upgraders_after (idle : Idle e) (patient : Patient e) (prior : e.prior = w.state) :
    upgraders (w.extend e).state.cluster.status.componentsStatus =
      upgraders w.state.cluster.status.componentsStatus := by
  rw [World.extend_state, idle.entries, ← prior]
  exact patient.entries

theorem Idle.version_after (idle : Idle e) (patient : Patient e) (prior : e.prior = w.state)
    (entries : upgraders w.state.cluster.status.componentsStatus ≠ []) :
    (w.extend e).state.cluster.spec.general.version = w.state.cluster.spec.general.version := by
  rw [← prior] at entries
  rw [World.extend_state, idle.spec, ← prior]
  exact patient.version entries

theorem Marks.step (marks : Marks w) (patient : Patient e) (prior : e.prior = w.state)
    (idle : Idle e) : Marks (w.extend e) := by
  have entries := idle.upgraders_after patient prior
  constructor
  · exact marks.kept.congr entries
  · intro pool entry
    have before : HasEntry w.state.cluster pool "Upgraded" := entry.congr entries
    have there := before.upgraders_ne
    rw [idle.version_after patient prior there]
    rw [← prior] at there
    exact (marks.marked pool before).next patient there
  · refine ⟨?_, marks.truthful⟩
    intro version ⟨old, new⟩
    rw [idle.version] at new
    exact absurd new old

theorem Working.step (working : Working cr w) (patient : Patient e) (prior : e.prior = w.state)
    (idle : Idle e) (inside : Inside e.op) : Working cr (w.extend e) := by
  have entries := idle.upgraders_after patient prior
  refine ⟨working.toMarks.step patient prior idle, ?_, entries.trans working.same, ?_,
    (entered_cons inside).trans working.inside⟩
  · rw [World.extend_state, idle.spec, patient.pools, prior]
    exact working.fixed
  intro there
  rw [entries] at there
  exact (idle.version_after patient prior there).trans (working.version there)

/-- After a status update a mark is an old one, or the pool in progress just got it. -/
theorem Edit.marks {new : OpenSearchCluster} (edit : Edit cr cluster new.status)
    (kept : WellKept cluster.status.componentsStatus) (again : WellKept new.status.componentsStatus)
    (entry : HasEntry new pool "Upgraded") : HasEntry cluster pool "Upgraded" ∨
      stageOf cluster.status.componentsStatus pool = .working := by
  obtain ⟨x, found, status⟩ := again.hasEntry_iff.mp entry
  have apart : "Upgrading" ≠ "Upgraded" := by decide
  cases edit with
  | start started next waiting entries version =>
    rw [entries] at found
    split at found
    · cases found
      exact absurd status apart
    · exact Or.inl (kept.hasEntry_iff.mpr ⟨x, found, status⟩)
  | conditions busy working conditions entries version =>
    rw [entries] at found
    split at found
    · cases found
      exact absurd status apart
    · exact Or.inl (kept.hasEntry_iff.mpr ⟨x, found, status⟩)
  | upgraded finished next working entries version =>
    rw [entries] at found
    split at found
    case isTrue here =>
      rw [stageOf, here]
      exact Or.inr working
    case isFalse => exact Or.inl (kept.hasEntry_iff.mpr ⟨x, found, status⟩)
  | finish next entries version =>
    rw [entries] at found
    split at found
    · cases found
    · exact Or.inl (kept.hasEntry_iff.mpr ⟨x, found, status⟩)

theorem Edit.version (edit : Edit cr cluster new) : new.version = cluster.status.version ∨
      new.version = cluster.spec.general.version ∧ findNextNodePoolForUpgrade cr = none := by
  cases edit with
  | start started next waiting entries version => exact Or.inl version
  | conditions busy working conditions entries version => exact Or.inl version
  | upgraded finished next working entries version => exact Or.inl version
  | finish next entries version => exact Or.inr ⟨version, next⟩

theorem Working.truthful_edit (working : Working cr w) (patient : Patient e)
    (prior : e.prior = w.state) (unchanged : e.before.cluster = w.state.cluster)
    (after : e.after = e.before.withStatus new) (edit : Edit cr w.state.cluster new) :
    Truthful e w.past := by
  intro version ⟨old, announced⟩ pool listed
  rw [after] at announced
  change new.version = version at announced
  rcases edit.version with kept | ⟨current, done⟩
  · rw [unchanged, ← kept] at old
    exact absurd announced old
  rw [unchanged, working.fixed] at listed
  have done := done_of_findNextNodePoolForUpgrade done pool listed
  rw [← stageOf_congr working.same] at done
  have entry := working.kept.upgraded_of_done done
  have entries := entry.upgraders_ne
  rw [← prior] at entries
  refine ⟨patient.not_setTo entries version, ?_⟩
  rw [← announced, current]
  exact working.marked pool entry

theorem Working.edited (working : Working cr w) (patient : Patient e) (prior : e.prior = w.state)
    (unchanged : e.before.cluster = w.state.cluster) (after : e.after = e.before.withStatus new)
    (again : WellKept new.componentsStatus) (edit : Edit cr w.state.cluster new) :
    Marks (w.extend e) := by
  have spec : e.after.cluster.spec = w.state.cluster.spec := by
    rw [after, ← unchanged]
    rfl
  have status : e.after.cluster.status = new := by
    rw [after]
    rfl
  have kept : WellKept e.after.cluster.status.componentsStatus := by
    rw [status]
    exact again
  refine ⟨kept, ?_, working.truthful_edit patient prior unchanged after edit, working.truthful⟩
  intro pool entry
  rw [World.extend_state] at entry ⊢
  rw [spec]
  rw [← status] at edit
  rcases edit.marks working.kept kept entry with old | busy
  · have entries := old.upgraders_ne
    rw [← prior] at entries
    exact (working.marked pool old).next patient entries
  · -- The mark is new: it counts from this event on.
    apply since_mark
    have unmarked : ¬ HasEntry e.before.cluster pool "Upgraded" := by
      rw [unchanged]
      intro marked
      have done := working.kept.stageOf_entry marked
      rw [busy] at done
      cases done
    obtain ⟨x, _, stored, _⟩ := entryOf_of_working busy
    exact ⟨unmarked, entry, (.upgrade, cr), working.inside, rfl,
      (working.version (List.ne_nil_of_mem stored)).symm⟩

theorem respects_truth :
    Respects (fun e => Patient e ∧ Inside e.op) Marks (Working cr) Marks cr := by
  constructor
  case implied => exact fun _ working => working.toMarks
  case implied' => exact fun _ marks => marks
  case weaken => exact fun _ working => working.toMarks
  case stable =>
    intro w choice op ⟨patient, inside⟩ working unchanged
    exact working.step patient rfl (idle_of_cluster (congrArg State.cluster unchanged)) inside
  case gentle =>
    intro w choice op gentle ⟨patient, inside⟩ working
    have idle : Idle (w.arrive choice op) := idle_of_cluster (answer_gentle _ _ gentle).cluster
    exact working.step patient rfl idle inside
  case gentle' =>
    intro w choice op gentle ⟨patient, inside⟩ marks
    have idle : Idle (w.arrive choice op) := idle_of_cluster (answer_gentle _ _ gentle).cluster
    exact marks.step patient rfl idle
  case deletes =>
    intro w choice pod ⟨patient, inside⟩ working
    exact working.step patient rfl (idle_of_cluster ((event_frame _).cluster nofun)) inside
  case phase =>
    intro w e phase working prior ⟨patient, inside⟩ unchanged after
    exact working.step patient prior (idle_of_phase unchanged after) inside
  case writes =>
    intro w e f write working prior ⟨patient, _⟩ unchanged after
    obtain ⟨again, edit⟩ := write.edit working.same working.kept
    exact working.edited patient prior unchanged after again edit

theorem safe_upgradePass_marks (marks : Marks w) :
    Safe Patient Marks upgradePass (fun _ => Marks) w := by
  have stable : Stable Patient Marks := by
    intro w choice op patient marks unchanged
    exact marks.step patient rfl (idle_of_cluster (congrArg State.cluster unchanged))
  apply (safe_read .getCluster rfl stable (fun _ marks => marks) marks).bind
  intro reply w ⟨marks, _, answers⟩
  rcases answers with ⟨fault, rfl⟩ | rfl
  · cases fault <;> exact marks
  refine ⟨marks, fun choice patient => ?_⟩
  have idle : Idle (w.arrive choice (.note (.enter .upgrade w.state.cluster))) :=
    idle_of_cluster rfl
  have working : Working w.state.cluster
      (w.extend (w.arrive choice (.note (.enter .upgrade w.state.cluster)))) :=
    ⟨marks.step patient rfl idle, patient.pools, patient.entries,
      fun there => idle.version_after patient rfl (patient.entries ▸ there), rfl⟩
  exact Safe.of_calls inside_reconcile (respects_truth.safe_reconcile _ working)

/-- Where the version is edited only while there are no upgrade entries, a version
that the status gets is one that every pool was upgraded to. -/
theorem status_version_truthful (start : ApiWorld) (passes : List (List Choice))
    (new : start.past = [])
    (fresh : ∀ x ∈ start.state.cluster.status.componentsStatus, x.component ≠ "Upgrader")
    (patient : ∀ e ∈ (runs upgradePass passes start).past, Patient e)
    (later : List ApiEvent) (e : ApiEvent) (earlier : List ApiEvent)
    (split : (runs upgradePass passes start).past = later ++ e :: earlier) :
    Truthful e earlier := by
  have begin_ : Marks start := by
    refine ⟨(ordered_of_fresh fresh).kept, ?_, ?_⟩
    · intro pool ⟨x, stored, upgrader, _⟩
      exact absurd upgrader (fresh x stored)
    · rw [new]
      trivial
  have kept := runs_keep (fun _ marks => safe_upgradePass_marks marks) passes start begin_ patient
  exact kept.truthful.holds later e earlier split

instance (cluster : OpenSearchCluster) (pool : NodePool) (status : String) :
    Decidable (HasEntry cluster pool status) :=
  inferInstanceAs (Decidable (∃ x ∈ cluster.status.componentsStatus,
    x.component = "Upgrader" ∧ x.description = pool.component ∧ x.status = status))

instance (version : String) : DecidablePred (SetTo version) :=
  fun _ => inferInstanceAs (Decidable (_ ∧ _))

instance (version : String) (e : ApiEvent) : Decidable (Announces e version) :=
  inferInstanceAs (Decidable (_ ∧ _))

instance (version : String) (pool : NodePool) : DecidablePred (JustMarked version pool)
  | [] => instDecidableFalse
  | _ :: _ => by unfold JustMarked; infer_instance

instance (version : String) (pool : NodePool) (past : List ApiEvent) :
    Decidable (MarkedFor version pool past) :=
  inferInstanceAs (Decidable (Since _ _ past))

theorem announced_version_marked :
    ∃ e ∈ (runs upgradePass wholeUpgrade twoPools).past.head?, Announces e "2.12.0" ∧
      ∀ pool ∈ e.before.cluster.spec.nodePools,
        MarkedFor "2.12.0" pool (runs upgradePass wholeUpgrade twoPools).past.tail := by
  have announced : ∃ e ∈ (runs upgradePass wholeUpgrade twoPools).past.head?,
      Announces e "2.12.0" := by decide
  have patient : ∀ e ∈ (runs upgradePass wholeUpgrade twoPools).past, Patient e := by
    intro e happened
    have same : e.before = e.prior := undisturbed_before upgradePass _ twoPools rfl e happened
    exact ⟨⟨by rw [same], by rw [same]⟩, fun _ => by rw [same]⟩
  obtain ⟨e, last, announces⟩ := announced
  have truthful := status_version_truthful twoPools wholeUpgrade rfl (by decide) patient [] e _
    (List.eq_cons_of_mem_head? last)
  exact ⟨e, last, announces, fun pool listed => (truthful "2.12.0" announces pool listed).2⟩

def editedLate : List (List Choice) :=
  let quiet : Choice := {}
  let edited : Choice := { others := fun s => { s with cluster := { s.cluster with
    spec := { s.cluster.spec with general := ⟨"2.13.0", false⟩ } } } }
  .replicate 4 (.replicate 30 quiet) ++ [edited :: .replicate 30 quiet]

/-- The status then says 2.13.0, although all pools were upgraded to 2.12.0. -/
theorem unmarked_version_announced : (∀ e ∈ (runs upgradePass editedLate twoPools).past, Alone e) ∧
    ∃ e ∈ (runs upgradePass editedLate twoPools).past.head?,
      ¬ Truthful e (runs upgradePass editedLate twoPools).past.tail := by
  constructor
  · have alone : ∀ e ∈ (runs upgradePass editedLate twoPools).past,
        e.before.cluster.spec.nodePools = e.prior.cluster.spec.nodePools ∧
        upgraders e.before.cluster.status.componentsStatus =
          upgraders e.prior.cluster.status.componentsStatus := by decide
    exact fun e happened => ⟨(alone e happened).1, (alone e happened).2⟩
  · have announced : ∃ e ∈ (runs upgradePass editedLate twoPools).past.head?,
        Announces e "2.13.0" ∧ ∃ pool ∈ e.before.cluster.spec.nodePools,
          ¬ MarkedFor "2.13.0" pool (runs upgradePass editedLate twoPools).past.tail := by decide
    obtain ⟨e, last, announces, pool, listed, unmarked⟩ := announced
    exact ⟨e, last, fun truthful => unmarked (truthful _ announces pool listed).2⟩

end Truth

end OpenSearchOperator.Reconcilers.Upgrade
