import OpenSearchOperator.Effects.History
import OpenSearchOperator.Reconcilers.EmptyDir

/-! When an emptyDir cluster is taken down: after data loss has been suspected for
the grace period, as long as nobody looks at healthy pods while the suspicion is
on record. -/

namespace OpenSearchOperator.Reconcilers.EmptyDir

open Api Data Effects
open Helpers

variable {past : List ApiEvent} {α : Type} {time : Int}

def recoveryPass : Prog Unit := do
  match ← getOpenSearchCluster with
  | .error _ => return ()
  | .ok cr =>
    let _ ← checkForEmptyDirRecovery cr
    return ()

section History

def calm : Call → Bool
  | .note (.dataLoss false) => true
  | _ => false

def wipes : Call → Bool
  | .request (.deleteStatefulSet _ .foreground) => true
  | _ => false

def CalmFree (time : Int) (past : List ApiEvent) : Prop :=
  ∀ e ∈ past, time ≤ e.before.clock → calm e.op = false

/-- If the event deletes the cluster, every check of the last grace period or
longer that counted the pods suspected a loss. -/
def Sustained (e : ApiEvent) (earlier : List ApiEvent) : Prop :=
  wipes e.op = true →
    ∃ time, emptyDirRecoveryGracePeriod ≤ e.before.clock - time ∧ CalmFree time earlier

end History

def components (s : State) : List ComponentStatus := s.cluster.status.componentsStatus

structure Ticking (e : ApiEvent) : Prop where
  clock : e.prior.clock ≤ e.before.clock
  recorded : ∀ x ∈ components e.before, x.component = emptyDirRecoveryComponent →
    x ∈ components e.prior

structure Watched (e : ApiEvent) : Prop extends Ticking e where
  unrecorded : calm e.op = true → ∀ x ∈ components e.before, x.component ≠ emptyDirRecoveryComponent

instance (e : ApiEvent) : Decidable (Ticking e) :=
  decidable_of_iff (_ ∧ _) ⟨fun both => ⟨both.1, both.2⟩, fun ticking => ⟨ticking.1, ticking.2⟩⟩

instance (e : ApiEvent) : Decidable (Watched e) :=
  decidable_of_iff (Ticking e ∧ _)
    ⟨fun both => ⟨both.1, both.2⟩, fun watched => ⟨watched.toTicking, watched.unrecorded⟩⟩

/-- The clock shows a later second than at any check that found the pods in order. -/
def LaterSecond (w : ApiWorld) : Prop :=
  ∀ e ∈ w.past, calm e.op = true → e.before.clock / 1000000000 < w.state.clock / 1000000000

def Justified (x : ComponentStatus) (past : List ApiEvent) : Prop :=
  x.component = emptyDirRecoveryComponent →
    ∀ time, parseTime x.description = some time → CalmFree time past

structure Inv (w : ApiWorld) : Prop where
  sustained : Throughout Sustained w.past
  records : ∀ x ∈ components w.state, Justified x w.past

theorem CalmFree.cons {e : ApiEvent} (free : CalmFree time past) (busy : calm e.op = false) :
    CalmFree time (e :: past) := by
  intro x member late
  rcases List.mem_cons.mp member with rfl | earlier
  · exact busy
  · exact free x earlier late

theorem Justified.cons {x : ComponentStatus} {e : ApiEvent} (justified : Justified x past)
    (busy : calm e.op = false) : Justified x (e :: past) :=
  fun recovery time parsed => (justified recovery time parsed).cons busy

variable {w : ApiWorld} {e : ApiEvent}

theorem Inv.extend (inv : Inv w) (prior : e.prior = w.state) (watched : Watched e)
    (busy : calm e.op = false) (sustained : Sustained e w.past)
    (records : ∀ x ∈ components e.after, x ∈ components e.before ∨ Justified x (e :: w.past)) :
    Inv (w.extend e) := by
  refine ⟨⟨sustained, inv.sustained⟩, ?_⟩
  intro x member
  rcases records x member with old | new
  · intro recovery
    have stored := watched.recorded x old recovery
    rw [prior] at stored
    exact (inv.records x stored).cons busy recovery
  · exact new

theorem sustained_of_spared (spared : wipes e.op = false) : Sustained e past := by
  intro wiped
  rw [spared] at wiped
  cases wiped

def Plain (op : Call) : Prop := calm op = false ∧ op.changes ≠ some .cluster

def Spared (op : Call) : Prop := Plain op ∧ wipes op = false

def Busy (op : Call) : Prop := calm op = false ∧ wipes op = false

theorem Inv.plain (inv : Inv w) (prior : e.prior = w.state) (watched : Watched e)
    (plain : Plain e.op) (sustained : Sustained e w.past) : Inv (w.extend e) := by
  apply inv.extend prior watched plain.1 sustained
  intro x member
  rw [components, (event_frame e).cluster plain.2] at member
  exact Or.inl member

theorem Inv.stable : Stable (fun e => Watched e ∧ Busy e.op) Inv := by
  intro w choice op watched inv unchanged
  apply inv.extend rfl watched.1 watched.2.1 (sustained_of_spared watched.2.2)
  intro x member
  rw [unchanged] at member
  exact Or.inl member

theorem busy_updateStatus (f : OpenSearchCluster → ClusterStatus) :
    (updateStatus f).OnlyCalls Busy :=
  onlyCalls_updateStatus f ⟨rfl, rfl⟩ fun _ => ⟨rfl, rfl⟩

/-- A status update that only removes records keeps the rest of them justified. -/
theorem safe_updateStatus_removing {f : OpenSearchCluster → ClusterStatus}
    (removes : ∀ cluster, ∀ x ∈ (f cluster).componentsStatus, x ∈ cluster.status.componentsStatus) :
    Keeps Watched Inv Inv (updateStatus f) := by
  intro w inv
  apply Safe.of_calls (busy_updateStatus f)
  apply safe_settleStatus f (fun _ inv => inv) Inv.stable (fun _ inv => inv) _ inv
  intro w e inv prior watched unchanged after
  apply inv.extend prior watched.1 watched.2.1 (sustained_of_spared watched.2.2)
  intro x member
  rw [after] at member
  left
  rw [components, unchanged]
  exact removes _ x member

/-- The pass took the custom resource as `cr`, and the checks before it that found
the pods in order belong to an earlier second. -/
structure Checking (cr : OpenSearchCluster) (w : ApiWorld) : Prop extends Inv w where
  snapshot : ∀ x ∈ cr.status.componentsStatus, Justified x w.past
  second : LaterSecond w

theorem LaterSecond.extend (later : LaterSecond w) (prior : e.prior = w.state)
    (ticking : Ticking e) (busy : calm e.op = false) : LaterSecond (w.extend e) := by
  intro x member quiet
  have clock : w.state.clock ≤ e.after.clock := by
    rw [(event_frame e).clock, ← prior]
    exact ticking.clock
  rcases List.mem_cons.mp member with rfl | earlier
  · rw [busy] at quiet
    cases quiet
  have before := later x earlier quiet
  change _ < e.after.clock / 1000000000
  omega

variable {program : Prog α} {cr : OpenSearchCluster} {now : Int}

theorem keeps_checking (only : program.OnlyCalls Spared) :
    Keeps Watched Inv (Checking cr) program := by
  apply keeps_of_calls (fun _ checking => checking.toInv) only
  intro w choice op spared watched checking
  exact
    { toInv := checking.toInv.plain rfl watched spared.1 (sustained_of_spared spared.2)
      snapshot := fun x member => (checking.snapshot x member).cons spared.1.1
      second := checking.second.extend rfl watched.toTicking spared.1.1 }

structure Due (w : ApiWorld) : Prop extends Inv w where
  waited : ∃ time, emptyDirRecoveryGracePeriod ≤ w.state.clock - time ∧ CalmFree time w.past

theorem Due.plain (due : Due w) (prior : e.prior = w.state) (watched : Watched e)
    (plain : Plain e.op) : Due (w.extend e) := by
  obtain ⟨time, waited, free⟩ := due.waited
  have clock : w.state.clock ≤ e.before.clock := by
    rw [← prior]
    exact watched.clock
  have longer : emptyDirRecoveryGracePeriod ≤ e.before.clock - time := by omega
  refine ⟨due.toInv.plain prior watched plain (fun _ => ⟨time, longer, free⟩), time, ?_,
    free.cons plain.1⟩
  change emptyDirRecoveryGracePeriod ≤ e.after.clock - time
  rw [(event_frame e).clock]
  exact longer

theorem keeps_due (only : program.OnlyCalls Plain) : Keeps Watched Inv Due program :=
  keeps_of_calls (fun _ due => due.toInv) only fun _ _ _ plain watched due =>
    due.plain rfl watched plain

theorem keeps_inv (only : program.OnlyCalls Spared) : Keeps Watched Inv Inv program :=
  keeps_of_calls (fun _ inv => inv) only fun _ _ _ spared watched inv =>
    inv.plain rfl watched spared.1 (sustained_of_spared spared.2)

theorem spared_of_inquires (op : Call) (inquires : Inquires op) : Spared op := by
  have changes := inquires.reads.changes
  cases op with
  | request req =>
    refine ⟨⟨rfl, by simp [changes]⟩, ?_⟩
    cases req <;> first | rfl | cases inquires
  | _ => cases inquires

theorem plain_deleteNodePools (cr : OpenSearchCluster) {nodePools : List NodePool} :
    (deleteNodePools cr nodePools).OnlyCalls Plain :=
  onlyCalls_deleteNodePools (fun op inquires => (spared_of_inquires op inquires).1)
    (fun _ => ⟨rfl, nofun⟩) cr nodePools

theorem safe_recreateCluster (cr : OpenSearchCluster) (due : Due w) :
    Safe Watched Inv (recreateCluster cr) (fun _ => Inv) w := by
  apply (keeps_due (plain_deleteNodePools cr) w due).bindOk
  · exact fun _ _ due => due.toInv
  intro _ w due
  have dashboards : (if cr.spec.dashboards.enable then chore .deleteDashboards
      else return (none, none)).OnlyCalls Spared := by
    split
    · exact onlyCalls_asked ⟨⟨rfl, nofun⟩, rfl⟩
    · trivial
  apply (keeps_inv dashboards w due.toInv).bindDone
  · exact fun _ _ _ inv => inv
  intro _ w inv
  apply (safe_updateStatus_removing (fun _ _ member =>
    mem_of_mem_removeIt member) w inv).bindNone
  · exact fun _ _ inv => inv
  intro w inv
  apply (keeps_inv (onlyCalls_asked ⟨⟨rfl, by nofun⟩, rfl⟩) w inv).bind
  intro ⟨_, err⟩ w inv
  cases err <;> exact inv

theorem firstObserved_recorded {records : List ComponentStatus}
    (observed : emptyDirRecoveryFirstObserved records = some time) :
    ∃ x ∈ records, x.component = emptyDirRecoveryComponent ∧
      parseTime x.description = some time := by
  rw [emptyDirRecoveryFirstObserved, Option.bind_eq_bind, Option.bind_eq_some_iff] at observed
  obtain ⟨x, first, parsed⟩ := observed
  have recovery := List.find?_some first
  exact ⟨x, List.mem_of_find?_eq_some first, by simpa using recovery, parsed⟩

theorem parseTime_formatTime (parsed : parseTime (formatTime now) = some time) :
    time = seconds (now / 1000000000) := by
  rw [parseTime, formatTime, Option.map_eq_some_iff] at parsed
  obtain ⟨value, read, rfl⟩ := parsed
  rw [parseRFC3339_format read]

theorem LaterSecond.calmFree (later : LaterSecond w) :
    CalmFree (seconds (w.state.clock / 1000000000)) w.past := by
  intro x member late
  by_contra quiet
  rw [Bool.not_eq_false] at quiet
  have before := later x member quiet
  rw [seconds] at late
  omega

theorem safe_record (inv : Inv w) (free : CalmFree (seconds (now / 1000000000)) w.past) :
    Safe Watched Inv (updateComponents (replace (recoveryStatus "" "")
      (recoveryStatus emptyDirRecoveryStatusPending (formatTime now)))) (fun _ => Inv) w := by
  let Free := fun w : ApiWorld => Inv w ∧ CalmFree (seconds (now / 1000000000)) w.past
  have stable : Stable (fun e => Watched e ∧ Busy e.op) Free :=
    fun w choice op watched free unchanged =>
      ⟨Inv.stable w choice op watched free.1 unchanged, free.2.cons watched.2.1⟩
  apply Safe.of_calls (busy_updateStatus _)
  apply safe_settleStatus _ (fun _ free => free.1) stable (fun _ free => free.1) _ ⟨inv, free⟩
  intro w e free prior watched unchanged after
  apply free.1.extend prior watched.1 watched.2.1 (sustained_of_spared watched.2.2)
  intro x member
  rw [after] at member
  rcases mem_replace member with old | rfl
  · left
    rw [components, unchanged]
    exact old
  · right
    intro _ time parsed
    rw [parseTime_formatTime parsed]
    exact free.2.cons watched.2.1

theorem safe_handleDataLoss (checking : Checking cr w) :
    Safe Watched Inv (handleDataLoss cr) (fun _ => Inv) w := by
  have looked : Safe Watched Inv now (fun now w => Checking cr w ∧ now = w.state.clock) w := by
    have only : now.OnlyCalls Spared := onlyCalls_asked ⟨⟨rfl, by simp [Call.changes]⟩, rfl⟩
    refine ⟨checking.toInv, fun choice watched => ?_⟩
    exact ⟨(keeps_checking only w checking).2 choice watched, rfl⟩
  apply looked.bind
  rintro now w ⟨checking, clock⟩
  split
  · have free := checking.second.calmFree
    rw [← clock] at free
    apply (safe_record checking.toInv free).bind
    intro err w inv
    cases err <;> exact inv
  · rename_i firstObserved observed
    split
    · exact checking.toInv
    rename_i waited
    obtain ⟨x, member, recovery, parsed⟩ := firstObserved_recorded observed
    apply safe_recreateCluster
    refine ⟨checking.toInv, firstObserved, ?_, checking.snapshot x member recovery _ parsed⟩
    omega

theorem safe_checkForEmptyDirRecovery (checking : Checking cr w) :
    Safe Watched Inv (checkForEmptyDirRecovery cr) (fun _ => Inv) w := by
  rw [checkForEmptyDirRecovery]
  split
  · exact checking.toInv
  split
  · exact checking.toInv
  apply (keeps_checking ((inquires_collectEmptyDirPodStats cr _ _).mono spared_of_inquires) w
    checking).bindOk
  · exact fun _ _ checking => checking.toInv
  intro stats w checking
  dsimp only
  generalize emptyDirDataLossSuspected stats = suspected
  cases suspected with
  | true =>
    apply (keeps_checking (onlyCalls_asked ⟨⟨rfl, by nofun⟩, rfl⟩) w checking).bind
    intro _ w checking
    exact safe_handleDataLoss checking
  | false =>
    have noted : Safe Watched Inv (note (.dataLoss false)) (fun _ => Inv) w := by
      refine ⟨checking.toInv, fun choice watched => ?_⟩
      refine ⟨⟨sustained_of_spared rfl, checking.sustained⟩, ?_⟩
      -- No record is stored, so there is nothing that the report could belie.
      intro x member recovery
      exact absurd recovery (watched.unrecorded rfl x member)
    apply noted.bind
    intro _ w inv
    have cleared : Safe Watched Inv (clearEmptyDirRecoveryStatus cr) (fun _ => Inv) w := by
      rw [clearEmptyDirRecoveryStatus]
      split
      · exact inv
      · exact safe_updateStatus_removing (fun _ _ member =>
          mem_of_mem_removeIt member) w inv
    apply cleared.bind
    intro err w inv
    cases err <;> exact inv

theorem safe_recoveryPass (inv : Inv w) (later : LaterSecond w) :
    Safe Watched Inv recoveryPass (fun _ => Inv) w := by
  let Begun := fun w : ApiWorld => Inv w ∧ LaterSecond w
  have stable : Stable (fun e => Watched e ∧ Busy e.op) Begun :=
    fun w choice op watched begun unchanged =>
      ⟨Inv.stable w choice op watched begun.1 unchanged,
        begun.2.extend rfl watched.1.toTicking watched.2.1⟩
  have read : Safe Watched Inv getOpenSearchCluster
      (fun reply w => Begun w ∧ ∀ cr, reply = .ok cr → cr = w.state.cluster) w := by
    apply Safe.of_calls (onlyCalls_asked (show Busy _ from ⟨rfl, rfl⟩))
    apply (safe_read .getCluster rfl stable (fun _ begun => begun.1) ⟨inv, later⟩).mono
    intro reply w ⟨begun, _, answers⟩
    refine ⟨begun, ?_⟩
    intro cr accepted
    rcases answers with ⟨fault, refused⟩ | served
    · rw [refused] at accepted
      cases accepted
    rw [served] at accepted
    cases accepted
    rfl
  apply read.bindOk
  · intro err w ⟨⟨inv, second⟩, current⟩
    exact inv
  intro cr w ⟨⟨inv, second⟩, current⟩
  have snapshot : ∀ x ∈ cr.status.componentsStatus, Justified x w.past := by
    rw [current cr rfl]
    exact inv.records
  apply (safe_checkForEmptyDirRecovery ⟨inv, snapshot, second⟩).bind
  intro _ w inv
  exact inv

/-- A run in which no check sees healthy pods while a suspicion is on record takes
the cluster down after a sustained loss only. -/
theorem cluster_wiped_after_sustained_loss (start : ApiWorld) (passes : List (List Choice))
    (new : start.past = [])
    (unrecorded : ∀ x ∈ components start.state, x.component ≠ emptyDirRecoveryComponent)
    (each : EachPass recoveryPass LaterSecond passes start)
    (watched : ∀ e ∈ (runs recoveryPass passes start).past, Watched e)
    (later : List ApiEvent) (e : ApiEvent) (earlier : List ApiEvent)
    (split : (runs recoveryPass passes start).past = later ++ e :: earlier) :
    Sustained e earlier := by
  have begin_ : Inv start := by
    constructor
    · rw [new]
      trivial
    · intro x member recovery
      exact absurd recovery (unrecorded x member)
  have kept : Inv (runs recoveryPass passes start) :=
    runs_keep_ready (fun _ inv later => safe_recoveryPass inv later) passes start begin_ each
      watched
  exact Throughout.holds kept.sustained later e earlier split

def lostPod : ApiWorld where
  state :=
    { cluster :=
        { name := "logs", resourceVersion := 1
          spec := { general := ⟨"2.11.0", false⟩, confMgmt := ⟨false⟩, dashboards := ⟨false⟩
                    nodePools := [⟨"data", 1, ["data"], some ⟨false, true, false⟩, 0, "", ""⟩] }
          status := ⟨"RUNNING", [], "2.11.0", true, 0, "red"⟩ }
      statefulSets := Store.empty.put
        { name := "logs-data", labels := [(clusterLabel, "logs"), (nodePoolLabel, "data")]
          replicas := 1, selector := [(clusterLabel, "logs"), (nodePoolLabel, "data")]
          podManagementPolicy := .orderedReady, volumeClaimTemplates := []
          podTemplate := "", podEnv := "", deleting := false
          status := ⟨0, 0, 0, 0, "a", "a"⟩ }
      pods := .empty
      claims := .empty
      settings := ⟨none, none⟩
      health := ⟨"red", 0, 0, 0, []⟩
      shards := []
      explain := fun _ _ _ => ⟨"", "", "", "", []⟩
      indices := []
      clock := 0 }
  past := []

def twoMinutes (s : State) : State := { s with clock := s.clock + seconds 120 }

def staysLost : List (List Choice) :=
  [.replicate 9 {}, { others := twoMinutes } :: .replicate 9 {},
    { others := twoMinutes ∘ twoMinutes } :: .replicate 9 {}]

theorem lost_cluster_wiped :
    ∃ later e earlier, (runs recoveryPass staysLost lostPod).past = later ++ e :: earlier ∧
      wipes e.op = true ∧ ∃ time, emptyDirRecoveryGracePeriod ≤ e.before.clock - time ∧
        CalmFree time earlier := by
  have wiped : ∃ e ∈ (runs recoveryPass staysLost lostPod).past, wipes e.op = true := by decide
  have watched : ∀ e ∈ (runs recoveryPass staysLost lostPod).past, Watched e := by decide
  have each : EachPass recoveryPass LaterSecond staysLost lostPod := by
    refine ⟨?_, ?_, ?_, trivial⟩ <;> unfold LaterSecond <;> decide
  obtain ⟨e, happened, wiping⟩ := wiped
  obtain ⟨later, earlier, split⟩ := List.append_of_mem happened
  exact ⟨later, e, earlier, split, wiping,
    cluster_wiped_after_sustained_loss lostPod staysLost rfl nofun each watched later e earlier
      split wiping⟩

def onlyPod : Pod :=
  { name := "logs-data-0", labels := [(clusterLabel, "logs"), (nodePoolLabel, "data")]
    deleting := false, conditions := [("Ready", "True")] }

def podBack (s : State) : State := { s with pods := s.pods.put onlyPod }
def podGone (s : State) : State := { s with pods := s.pods.remove onlyPod.name }

/-- The pod is there at the second of three checks, two and six minutes after the
first. The third is cut short when it deletes the StatefulSet. -/
def comesBack : List (List Choice) :=
  [.replicate 9 {}, { others := podBack ∘ twoMinutes } :: .replicate 9 {},
    { others := podGone ∘ twoMinutes ∘ twoMinutes } :: .replicate 6 {}]

/-- A recovery does not clear the record, so that the next loss is acted on at once. -/
theorem recovered_cluster_wiped :
    (∀ e ∈ (runs recoveryPass comesBack lostPod).past, Ticking e ∧ e.choice.outcome = .served) ∧
    ∃ e earlier, (runs recoveryPass comesBack lostPod).past = e :: earlier ∧
      ¬ Sustained e earlier := by
  have calls : ∃ e ∈ (runs recoveryPass comesBack lostPod).past.head?,
      wipes e.op = true ∧ e.before.clock = seconds 360 := by decide
  have healthy : ∃ x ∈ (runs recoveryPass comesBack lostPod).past.tail,
      calm x.op = true ∧ x.before.clock = seconds 120 := by decide
  refine ⟨by decide, ?_⟩
  obtain ⟨e, last, wiped, time⟩ := calls
  obtain ⟨x, earlier, quiet, before⟩ := healthy
  refine ⟨e, _, (List.cons_head?_tail last).symm, ?_⟩
  intro sustained
  obtain ⟨since, waited, free⟩ := sustained wiped
  have late : since ≤ x.before.clock := by
    rw [time] at waited
    rw [before]
    simp only [emptyDirRecoveryGracePeriod, seconds] at waited ⊢
    omega
  rw [free x earlier late] at quiet
  cases quiet

end OpenSearchOperator.Reconcilers.EmptyDir
