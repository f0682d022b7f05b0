import Mathlib.Tactic.MkIffOfInductiveProp
import OpenSearchOperator.Migration.Cluster

/-! The certificate secrets of a migrated cluster outlive the old resource: as long as
the annotation on the new resource says that the ownership was transferred, every
certificate secret that the old resource owns is owned by the new one too. -/

namespace OpenSearchOperator.Migration

open Api Effects

abbrev MigrationEvent := Event migrationServer
abbrev MigrationRun := World migrationServer

def Secret.OwnedBy (secret : Secret) (uid : String) : Prop :=
  ∃ ref ∈ secret.ownerReferences, ref.uid = uid

def Secured (uid secretName : String) (s : MigrationWorld) : Prop :=
  ∀ old ∈ s.oldCluster, ∀ secret ∈ s.secrets secretName, secret.OwnedBy old.uid → secret.OwnedBy uid

def AllSecured (clusterName uid : String) (s : MigrationWorld) : Prop :=
  ∀ secretName ∈ secretNames clusterName, Secured uid secretName s

@[mk_iff]
structure Removes (e : MigrationEvent) : Prop where
  had : ∃ old ∈ e.before.oldCluster, MigrationFinalizer ∈ old.finalizers
  lost : ∀ old ∈ e.after.oldCluster, MigrationFinalizer ∉ old.finalizers

/-- Others neither make the old resource an owner of a certificate secret nor take an
owner from one that it owns, and they leave the annotation alone. The finalizer is
removed only where the annotation is set. -/
@[mk_iff]
structure Guarded (clusterName : String) (e : MigrationEvent) : Prop where
  owners : ∀ secretName ∈ secretNames clusterName, ∀ old ∈ e.before.oldCluster,
    ∀ secret ∈ e.before.secrets secretName, secret.OwnedBy old.uid →
    ∃ earlier ∈ e.prior.oldCluster, ∃ known ∈ e.prior.secrets secretName,
      known.OwnedBy earlier.uid ∧ ∀ ref ∈ known.ownerReferences, secret.OwnedBy ref.uid
  marked : ∀ new ∈ e.before.newCluster, transferred new →
    ∃ earlier ∈ e.prior.newCluster, transferred earlier ∧ earlier.uid = new.uid
  unmarked : ∀ old ∈ e.before.oldCluster, ¬ transferred old
  ready : Removes e → ∀ new ∈ e.before.newCluster, new.deleting = false → transferred new

def Spared (clusterName : String) (e : MigrationEvent) : Prop :=
  Removes e → ∀ new ∈ e.before.newCluster, new.deleting = false →
    AllSecured clusterName new.uid e.before

section Assertions

def Covered (clusterName : String) (s : MigrationWorld) : Prop :=
  ∀ new ∈ s.newCluster, transferred new → AllSecured clusterName new.uid s

def Unmarked (s : MigrationWorld) : Prop := ∀ new ∈ s.newCluster, ¬ transferred new

def Named (s : MigrationWorld) : Prop :=
  ∀ secretName, ∀ secret ∈ s.secrets secretName, secret.name = secretName

def Seen (clusterName : String) (cluster : Cluster) (s : MigrationWorld) : Prop :=
  (transferred cluster → AllSecured clusterName cluster.uid s) ∧
  (¬ transferred cluster → Unmarked s)

structure Sound (clusterName : String) (w : MigrationRun) : Prop where
  named : Named w.state
  covered : Covered clusterName w.state
  spared : ∀ e ∈ w.past, Spared clusterName e

variable {clusterName secretName uid : String} {s t : MigrationWorld} {e : MigrationEvent}
  {w : MigrationRun} {cluster : Cluster}

theorem Unmarked.covered (unmarked : Unmarked s) : Covered clusterName s :=
  fun new there marked => absurd marked (unmarked new there)

theorem Covered.seen (covered : Covered clusterName s) (stored : s.newCluster = some cluster) :
    Seen clusterName cluster s := by
  refine ⟨covered cluster stored, fun unmarked new there => ?_⟩
  cases stored.symm.trans there
  exact unmarked

theorem Secured.disturbed (secured : Secured uid secretName e.prior)
    (guarded : Guarded clusterName e) (member : secretName ∈ secretNames clusterName) :
    Secured uid secretName e.before := by
  intro old there secret stored owned
  obtain ⟨earlier, before, known, was, owner, kept⟩ :=
    guarded.owners secretName member old there secret stored owned
  obtain ⟨ref, listed, rfl⟩ := secured earlier before known was owner
  exact kept ref listed

theorem AllSecured.disturbed (secured : AllSecured clusterName uid e.prior)
    (guarded : Guarded clusterName e) : AllSecured clusterName uid e.before :=
  fun secretName member => (secured secretName member).disturbed guarded member

theorem Covered.disturbed (covered : Covered clusterName e.prior)
    (guarded : Guarded clusterName e) : Covered clusterName e.before := by
  intro new there marked
  obtain ⟨earlier, before, was, same⟩ := guarded.marked new there marked
  exact same ▸ (covered earlier before was).disturbed guarded

theorem Unmarked.disturbed (unmarked : Unmarked e.prior) (guarded : Guarded clusterName e) :
    Unmarked e.before := by
  intro new there marked
  obtain ⟨earlier, before, was, _⟩ := guarded.marked new there marked
  exact unmarked earlier before was

theorem Named.disturbed (named : Named e.prior) : Named e.before := by
  intro secretName secret stored
  have stored : (if (e.choice.others e.prior).secrets secretName = e.prior.secrets secretName then
      e.prior.secrets secretName
    else ((e.choice.others e.prior).secrets secretName).map fun secret =>
      { secret with name := secretName, resourceVersion := e.prior.revision + 1 }) = some secret :=
    stored
  split at stored
  · exact named secretName secret stored
  · obtain ⟨_, _, rfl⟩ := Option.map_eq_some_iff.mp stored
    rfl

theorem Sound.extend (sound : Sound clusterName w) (prior : e.prior = w.state)
    (guarded : Guarded clusterName e) (named : Named e.after)
    (covered : Covered clusterName e.after) : Sound clusterName (w.extend e) := by
  refine ⟨named, covered, List.forall_mem_cons.mpr ⟨?_, sound.spared⟩⟩
  intro removes new there stays
  have before : Covered clusterName e.before := Covered.disturbed (prior ▸ sound.covered) guarded
  exact before new there (guarded.ready removes new there stays)

end Assertions

section Calls

variable {clusterName secretName uid : String} {s t : MigrationWorld} {e : MigrationEvent}
  {w : MigrationRun}

variable {op : Call}

def Call.writesNew : Call → Bool
  | .createNew _ => true
  | .updateNew _ => true
  | _ => false

def Call.neutral : Call → Bool
  | .updateSecret _ => false
  | op => !op.writesNew

theorem updateCluster_uid {revision : Nat} {stored : Option Cluster} {cluster : Cluster} :
    ∀ after ∈ (updateCluster revision stored cluster).2, ∃ before ∈ stored,
      after.uid = before.uid := by
  intro after result
  unfold updateCluster at result
  split at result
  · cases result
  rename_i current
  split at result
  · cases result
    exact ⟨after, rfl, rfl⟩
  rename_i matching
  push Not at matching
  split at result
  · cases result
    exact ⟨after, rfl, rfl⟩
  dsimp only at result
  split at result
  · cases result
  · cases result
    exact ⟨current, rfl, matching.1⟩

theorem serveCall_old (op : Call) (picked timestamp : String) :
    ∀ after ∈ (serveCall picked timestamp s op).2.oldCluster, ∃ before ∈ s.oldCluster,
      after.uid = before.uid := by
  intro after result
  cases op with
  | updateOld cluster => exact updateCluster_uid after result
  | updateOldStatus cluster =>
    rw [serveCall] at result
    split at result
    · exact ⟨after, result, rfl⟩
    rename_i current stored
    split at result
    · exact ⟨after, result, rfl⟩
    · cases result
      exact ⟨current, stored, rfl⟩
  | deleteOld =>
    rw [serveCall] at result
    split at result
    · exact ⟨after, result, rfl⟩
    rename_i current stored
    split at result
    · cases result
    · cases result
      exact ⟨current, stored, rfl⟩
  | createNew cluster =>
    rw [serveCall] at result
    split at result <;> exact ⟨after, result, rfl⟩
  | updateSecret secret =>
    rw [serveCall] at result
    split at result
    · exact ⟨after, result, rfl⟩
    · split at result <;> exact ⟨after, result, rfl⟩
  | _ => exact ⟨after, result, rfl⟩

theorem serveCall_secrets (op : Call) (picked timestamp : String)
    (other : ∀ secret, op ≠ .updateSecret secret) :
    (serveCall picked timestamp s op).2.secrets = s.secrets := by
  cases op with
  | updateSecret secret => exact absurd rfl (other secret)
  | _ => simp only [serveCall] <;> (try split) <;> (try split) <;> rfl

theorem serveCall_newCluster (op : Call) (picked timestamp : String)
    (apart : op.writesNew = false) :
    (serveCall picked timestamp s op).2.newCluster = s.newCluster := by
  cases op with
  | createNew _ => cases apart
  | updateNew _ => cases apart
  | _ => simp only [serveCall] <;> (try split) <;> (try split) <;> rfl

theorem after_of_served (holds : MigrationWorld → Prop) (here : holds e.before)
    (served : holds (serveCall e.choice.uid e.choice.timestamp e.before e.op).2) :
    holds e.after := by
  rw [Event.after]
  show holds (answerCall e.choice e.before e.op).2
  rw [answerCall]
  split
  · exact served
  · exact here
  · exact served

/-- Without a change of the secret the old resource cannot become its only owner. -/
theorem Secured.served {picked timestamp : String} (secured : Secured uid secretName s)
    (same : (serveCall picked timestamp s op).2.secrets secretName = s.secrets secretName) :
    Secured uid secretName (serveCall picked timestamp s op).2 := by
  intro old there secret stored owned
  obtain ⟨before, was, alike⟩ := serveCall_old op picked timestamp old there
  exact secured before was secret (same ▸ stored) (alike ▸ owned)

theorem Named.served (named : Named s) (op : Call) (picked timestamp : String) :
    Named (serveCall picked timestamp s op).2 := by
  intro secretName secret stored
  by_cases writes : ∃ updated, op = .updateSecret updated
  · obtain ⟨updated, rfl⟩ := writes
    rw [serveCall] at stored
    split at stored
    · exact named secretName secret stored
    split at stored
    · exact named secretName secret stored
    have stored : (if secretName = updated.name then
        some { updated with resourceVersion := s.revision + 1 }
      else s.secrets secretName) = some secret := stored
    split at stored
    case isTrue same =>
      cases stored
      exact same.symm
    case isFalse => exact named secretName secret stored
  · rw [serveCall_secrets op picked timestamp (not_exists.mp writes)] at stored
    exact named secretName secret stored

theorem AllSecured.after (secured : AllSecured clusterName uid e.prior)
    (guarded : Guarded clusterName e) (other : ∀ secret, e.op ≠ .updateSecret secret) :
    AllSecured clusterName uid e.after := by
  intro secretName member
  have before := (secured secretName member).disturbed guarded member
  have same := congrFun (serveCall_secrets (s := e.before) e.op e.choice.uid e.choice.timestamp
    other) secretName
  exact after_of_served (e := e) (Secured uid secretName) before (before.served same)

theorem Named.after (named : Named e.prior) : Named e.after := by
  have before := named.disturbed
  exact after_of_served (e := e) Named before (before.served e.op _ _)

theorem newCluster_after (apart : e.op.writesNew = false) :
    e.after.newCluster = e.before.newCluster :=
  after_of_served (e := e) (fun t => t.newCluster = e.before.newCluster) rfl
    (serveCall_newCluster e.op _ _ apart)

theorem Unmarked.after (unmarked : Unmarked e.prior) (guarded : Guarded clusterName e)
    (apart : e.op.writesNew = false) : Unmarked e.after := by
  intro new there
  rw [newCluster_after apart] at there
  exact unmarked.disturbed guarded new there

theorem writesNew_of_neutral (neutral : op.neutral = true) : op.writesNew = false := by
  cases op <;> first | rfl | cases neutral

theorem not_updateSecret (neutral : op.neutral = true) (secret : Secret) :
    op ≠ .updateSecret secret := by
  intro same
  rw [same] at neutral
  cases neutral

/-- A fact about the state that only the calls on the new resource and on secrets can
put at risk. -/
def Steady (clusterName : String) (holds : MigrationWorld → Prop) : Prop :=
  ∀ e : MigrationEvent, Guarded clusterName e → e.op.neutral = true → holds e.prior → holds e.after

theorem steady_covered : Steady clusterName (Covered clusterName) := by
  intro e guarded neutral covered new there marked
  rw [newCluster_after (writesNew_of_neutral neutral)] at there
  obtain ⟨earlier, before, was, same⟩ := guarded.marked new there marked
  exact same ▸ (covered earlier before was).after guarded (not_updateSecret neutral)

theorem steady_unmarked : Steady clusterName Unmarked :=
  fun _ guarded neutral unmarked => unmarked.after guarded (writesNew_of_neutral neutral)

theorem steady_seen (cluster : Cluster) : Steady clusterName (Seen clusterName cluster) := by
  intro e guarded neutral seen
  refine ⟨fun marked => ?_, fun unmarked => ?_⟩
  · exact (seen.1 marked).after guarded (not_updateSecret neutral)
  · exact steady_unmarked e guarded neutral (seen.2 unmarked)

theorem Sound.neutral (sound : Sound clusterName w) (neutral : op.neutral = true)
    {choice : MigrationChoice} (guarded : Guarded clusterName (w.arrive choice op)) :
    Sound clusterName (w.extend (w.arrive choice op)) := by
  apply sound.extend rfl guarded
  · exact Named.after (e := w.arrive choice op) sound.named
  · exact steady_covered (w.arrive choice op) guarded neutral sound.covered

abbrev Upholds (clusterName : String) {α : Type} :
    MigrationProg α → (α → MigrationRun → Prop) → MigrationRun → Prop :=
  Safe (Guarded clusterName) (Sound clusterName)

abbrev KeepsSound (clusterName : String) {α : Type} (program : MigrationProg α) : Prop :=
  Keeps (Guarded clusterName) (Sound clusterName) (Sound clusterName) program

theorem keeps_steady {holds : MigrationWorld → Prop} (steady : Steady clusterName holds)
    {α : Type} {program : MigrationProg α} (only : program.OnlyCalls (Call.neutral · = true)) :
    Keeps (Guarded clusterName) (Sound clusterName)
      (fun w => Sound clusterName w ∧ holds w.state) program :=
  keeps_of_calls (fun _ both => both.1) only fun w choice op neutral guarded both =>
    ⟨both.1.neutral neutral guarded, steady (w.arrive choice op) guarded neutral both.2⟩

theorem keeps_neutral {α : Type} {program : MigrationProg α}
    (only : program.OnlyCalls (Call.neutral · = true)) : KeepsSound clusterName program :=
  keeps_of_calls (fun _ sound => sound) only fun _ _ _ neutral guarded sound =>
    sound.neutral neutral guarded

theorem served_of_reply {choice : MigrationChoice} {reply : op.Reply}
    (told : (w.arrive choice op).reply = reply)
    (fine : ∀ err, failedReply err choice.timestamp op ≠ reply) :
    serveCall choice.uid choice.timestamp (w.arrive choice op).before op =
      (reply, (w.arrive choice op).after) := by
  have told : (answerCall choice (w.arrive choice op).before op).1 = reply := told
  show _ = (reply, (answerCall choice (w.arrive choice op).before op).2)
  rw [answerCall] at told ⊢
  split at told
  · rw [← told]
  · exact absurd told (fine _)
  · exact absurd told (fine _)

end Calls

end OpenSearchOperator.Migration
