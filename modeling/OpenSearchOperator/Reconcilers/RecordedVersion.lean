import OpenSearchOperator.Reconcilers.UpgradeValidation
import OpenSearchOperator.Reconcilers.VersionTruth

/-! The version in the status changes only to one that was validated against it. -/

namespace OpenSearchOperator.Reconcilers.Upgrade

open Api Data Effects

def versions (cluster : OpenSearchCluster) : String × String :=
  (cluster.status.version, cluster.spec.general.version)

abbrev Steady (e : ApiEvent) : Prop := versions e.before.cluster = versions e.prior.cluster

def Step (semver : SemverPackage) (old new : String) : Prop :=
  ∃ existing requested, semver.newVersion old = .ok existing ∧
    semver.newVersion new = .ok requested ∧ ¬ Below requested existing ∧
    requested.major ≤ existing.major + 1

def Sound (semver : SemverPackage) (w : ApiWorld) : Prop :=
  ∀ e ∈ w.past, ∀ version, Announces e version → Step semver e.before.cluster.status.version version

structure Unedited (semver : SemverPackage) (cr : OpenSearchCluster) (w : ApiWorld) : Prop where
  same : versions w.state.cluster = versions cr
  sound : Sound semver w

variable {semver : SemverPackage} {cr : OpenSearchCluster} {w : ApiWorld} {e : ApiEvent}

theorem step_of_validated (valid : validateUpgrade semver cr = none) :
    Step semver cr.status.version cr.spec.general.version := by
  cases current : semver.newVersion cr.status.version with
  | error err => simp [validateUpgrade, current] at valid
  | ok existing =>
    cases requested : semver.newVersion cr.spec.general.version with
    | error err => simp [validateUpgrade, current, requested] at valid
    | ok new =>
      exact ⟨existing, new, current, requested,
        ((validateUpgrade_none semver current requested).mp valid).2.2⟩

theorem Sound.extend (sound : Sound semver w)
    (kept : versions e.after.cluster = versions e.before.cluster) : Sound semver (w.extend e) := by
  refine List.forall_mem_cons.mpr ⟨?_, sound⟩
  rintro version ⟨old, new⟩
  exact absurd ((congrArg Prod.fst kept).symm.trans new) old

theorem Unedited.extend (unedited : Unedited semver cr w) (steady : Steady e)
    (prior : e.prior = w.state)
    (kept : versions e.after.cluster = versions e.before.cluster) :
    Unedited semver cr (w.extend e) :=
  ⟨kept.trans (steady.trans (prior ▸ unedited.same)), unedited.sound.extend kept⟩

theorem respects_sound (valid : cr.status.version ≠ cr.spec.general.version →
    validateUpgrade semver cr = none) :
    Respects Steady (Sound semver) (Unedited semver cr) (Sound semver) cr where
  implied _ unedited := unedited.sound
  implied' _ sound := sound
  weaken _ unedited := unedited.sound
  stable _ _ _ steady unedited same :=
    unedited.extend steady rfl (congrArg (versions ·.cluster) same)
  gentle _ _ _ gentle steady unedited :=
    unedited.extend steady rfl (congrArg versions (answer_gentle _ _ gentle).cluster)
  gentle' _ _ _ gentle _ sound :=
    sound.extend (congrArg versions (answer_gentle _ _ gentle).cluster)
  deletes _ _ _ steady unedited :=
    unedited.extend steady rfl (congrArg versions ((event_frame _).cluster nofun))
  phase _ _ _ unedited prior steady same after :=
    unedited.extend steady prior (by simp [after, State.withStatus, versions, same])
  writes w e f write unedited prior steady same after := by
    obtain ⟨old, new⟩ := Prod.mk.inj unedited.same
    -- Only the end of an upgrade changes the version.
    have either : (f w.state.cluster).version = w.state.cluster.status.version ∨
        (f w.state.cluster).version = w.state.cluster.spec.general.version := by
      cases write <;> simp [withConditions, finishUpgrade]
    rcases either with kept | finished
    · exact unedited.sound.extend (by simp [after, State.withStatus, versions, same, kept])
    refine List.forall_mem_cons.mpr ⟨?_, unedited.sound⟩
    rintro version ⟨changed, announced⟩
    obtain rfl : cr.spec.general.version = version := by
      rw [← new, ← finished, ← announced, after]
      rfl
    rw [same, old] at changed ⊢
    exact step_of_validated (valid changed)

theorem safe_reconcile_sound (unedited : Unedited semver cr w) :
    Safe Steady (Sound semver) (reconcile cr semver) (fun _ => Sound semver) w := by
  by_cases valid : cr.status.version ≠ cr.spec.general.version → validateUpgrade semver cr = none
  · exact (respects_sound valid).safe_reconcile w unedited
  · obtain ⟨pending, refused⟩ := Classical.not_imp.mp valid
    rw [reconcile, if_neg pending.symm]
    split
    · exact unedited.sound
    split
    · exact unedited.sound
    · contradiction

/-- While nobody else edits the two versions during a pass, the version that it puts into the
status is no downgrade of the one that was there and at most one major version ahead. -/
theorem recorded_version_validated (semver : SemverPackage) (choices : List Choice)
    (start : State) :
    let run := (exec (upgradePass semver) choices (⟨start, []⟩ : ApiWorld)).2
    (∀ e ∈ run.past, Steady e) → Sound semver run := by
  intro run steady
  have stable : Stable Steady (Sound semver) := fun _ _ _ _ sound same =>
    sound.extend (congrArg (versions ·.cluster) same)
  have read := safe_read (w := ⟨start, []⟩) .getCluster rfl stable (fun _ sound => sound)
    (by simp [Sound])
  refine Safe.always (read.bind fun reply w told => ?_) choices steady
  obtain ⟨sound, _, ⟨fault, rfl⟩ | rfl⟩ := told
  · cases fault <;> exact sound
  · exact ⟨sound, fun choice steady => safe_reconcile_sound ⟨steady, sound.extend rfl⟩⟩

theorem minor_version_recorded :
    let start := (runs upgradePass (wholeUpgrade.take 4) twoPools).state
    let past := (exec upgradePass (wholeUpgrade.head (by decide)) ⟨start, []⟩).2.past
    ∃ e ∈ past, Announces e "2.12.0" ∧
      Step masterminds e.before.cluster.status.version "2.12.0" := by
  intro start past
  obtain ⟨e, happened, announced⟩ : ∃ e ∈ past, Announces e "2.12.0" := by decide
  exact ⟨e, happened, announced,
    recorded_version_validated masterminds _ _ (by decide) e happened _ announced⟩

end OpenSearchOperator.Reconcilers.Upgrade
