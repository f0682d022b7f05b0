import OpenSearchOperator.Controllers.Running
import OpenSearchOperator.Reconcilers.ScaleDown

/-! A node that is being drained stays on the exclude list, as long as neither the
upgrade nor the rolling restart reconciler drains nodes at the same time. -/

namespace OpenSearchOperator.Controllers

open Api Data Effects
open Gateway Helpers Reconcilers
open Reconcilers.Scaler

/-- Every entry in a drain stage names a node. While that is the last of its
StatefulSet it is on the exclude list, and it only stops being the last when it
is removed. -/
def DrainingExcluded (s : State) : Prop :=
  ∀ x ∈ entries s, Staged x → ∃ k : Int,
    x.conditions = [ordinalName (poolSts s.cluster.name x.description) k] ∧
    ∀ r, s.size (poolSts s.cluster.name x.description) = some r → r ≤ k + 1 ∧ (r = k + 1 → 0 ≤ k →
        ordinalName (poolSts s.cluster.name x.description) k ∈ excludedNames s.settings.exclude)

def drainsNodes : Call → Bool
  | .note (.enter .upgrade snapshot) => snapshot.spec.general.drainDataNodes
  | .note (.enter .restart snapshot) => snapshot.spec.general.drainDataNodes
  | _ => false

/-- Nobody else writes the exclude list, and no node pool is being drained when
another reconciler starts to drain nodes. -/
structure Undisputed (e : ApiEvent) : Prop extends Rely e where
  owner : e.before.settings.exclude = e.prior.settings.exclude
  apart : drainsNodes e.op = true → ∀ x ∈ entries e.before, ¬ Staged x

theorem excluded_of_appended {sts : String} {k : Int} (plain : Plain sts) {w : ApiWorld}
    {choice : Choice} {current : Option String} (accepted : replied w choice (.putClusterSettings
      (excludeSetting (appendExclusion current (ordinalName sts k)))) = .ok ()) :
    ordinalName sts k ∈ excludedNames (asked w choice (.putClusterSettings
      (excludeSetting (appendExclusion current (ordinalName sts k))))).after.settings.exclude := by
  have named : ordinalName sts k ≠ "" := by
    intro empty
    have characters := congrArg String.toList empty
    simp [ordinalName] at characters
  rcases putExclude_cases w choice (excludeValue (appendExclusion current (ordinalName sts k)))
    with ⟨err, reply, _⟩ | ⟨_, after⟩
  · have failed : replied w choice (.putClusterSettings
        (excludeSetting (appendExclusion current (ordinalName sts k)))) = .error err := reply
    rw [accepted] at failed
    cases failed
  · change _ ∈ excludedNames (asked w choice (.putClusterSettings (.excludeName
      (excludeValue (appendExclusion current (ordinalName sts k)))))).after.settings.exclude
    rw [after]
    exact appendExclusion_self current (plain_ordinalName k plain) named

def exclusionTracking : Tracking Undisputed where
  watches := True
  excluded sts k w := ordinalName sts k ∈ excludedNames w.state.settings.exclude
  drained sts k w := ordinalName sts k ∈ excludedNames w.state.settings.exclude
  good _ := True
  relies _ undisputed := undisputed.toRely
  owned _ _ undisputed := undisputed.owner
  excluded_keep sts k w e prior undisputed harmless excluded := by
    apply harmless.2 trivial
    rw [undisputed.owner, prior]
    exact excluded
  drained_keep sts k w e prior undisputed harmless excluded := by
    apply harmless.2 trivial
    rw [undisputed.owner, prior]
    exact excluded
  good_keep _ _ _ _ _ _ := trivial
  appended sts k w first second settings plain _ _ _ accepted :=
    excluded_of_appended plain accepted
  listed sts k w choice undisputed excluded _ _ := by
    change ordinalName sts k ∈ excludedNames (asked w choice .catShards).after.settings.exclude
    rw [(quiet_request .catShards rfl).after_eq, undisputed.owner]
    exact excluded

theorem drainingExcluded_of_inv {w : ApiWorld} (inv : exclusionTracking.Inv w) :
    DrainingExcluded w.state := by
  intro x stored staged
  obtain ⟨k, noted, bound⟩ := inv.2 x stored staged
  refine ⟨k, noted, fun r size => ?_⟩
  obtain ⟨le, reached⟩ := bound r size
  refine ⟨le, fun last nonnegative => ?_⟩
  rcases staged.2 with stage | stage
  · exact (reached last nonnegative).1 stage
  · exact (reached last nonnegative).2 stage

section Calm

variable {permit : ApiEvent → Prop} {T : Tracking permit} {w : ApiWorld} {e : ApiEvent}
  {drain : Bool} {cr : OpenSearchCluster}

/-- Behind the scaler: if nodes may be drained then no entry is in a drain stage. -/
structure Calm (T : Tracking permit) (drain : Bool) (w : ApiWorld) : Prop where
  inv : T.Inv w
  idle : drain = true → ∀ x ∈ entries w.state, ¬ Staged x

theorem Calm.spare (calm : Calm T drain w) (prior : e.prior = w.state) (allowed : permit e)
    (scaler : ∀ x : ComponentStatus, x.component = "Scaler" →
      (x ∈ entries e.after ↔ x ∈ entries e.before))
    (name : e.after.cluster.name = e.before.cluster.name)
    (size : ∀ sts, e.after.size sts = e.before.size sts)
    (exclude : drain = false → e.after.settings.exclude = e.before.settings.exclude) :
    Calm T drain (w.extend e) := by
  have rely := T.relies e allowed
  have members : ∀ x : ComponentStatus, x.component = "Scaler" →
      (x ∈ entries e.after ↔ x ∈ entries w.state) := by
    intro x component
    rw [scaler x component, rely.scaler x component, prior]
  have named : e.after.cluster.name = w.state.cluster.name := by
    rw [name, rely.name, prior]
  refine ⟨⟨T.good_keep w e prior allowed (lowers_same size) calm.inv.1, ?_⟩, ?_⟩
  · intro x stored staged
    have before : x ∈ entries w.state := (members x staged.1).mp stored
    rw [World.extend_state, named]
    apply (calm.inv.2 x before).step prior allowed rfl (fun _ _ => before)
      (fun _ => shrinks_same size) ?_ staged
    intro _ _ k _ _ listed
    cases drain with
    | false =>
      rw [exclude rfl]
      exact listed
    | true => exact absurd staged (calm.idle rfl x before)
  · intro draining x stored staged
    exact calm.idle draining x ((members x staged.1).mp stored) staged

theorem Calm.stable : Stable permit (Calm T drain) := by
  intro w choice op allowed calm unchanged
  apply calm.spare rfl allowed
  · intro x _
    rw [unchanged]
  · rw [unchanged]
  · intro sts
    rw [unchanged]
  · intro _
    rw [unchanged]

theorem Calm.gentle (w : ApiWorld) (choice : Choice) (op : Call) (gentle : Gentle drain op)
    (allowed : permit (w.arrive choice op)) (calm : Calm T drain w) :
    Calm T drain (w.extend (w.arrive choice op)) := by
  have untouched := answer_gentle choice (w.arrive choice op).before gentle
  apply calm.spare rfl allowed
  · intro x _
    exact iff_of_eq (congrArg (x ∈ ·.status.componentsStatus) untouched.cluster)
  · exact congrArg OpenSearchCluster.name untouched.cluster
  · exact untouched.size
  · exact untouched.exclude

theorem Calm.status (calm : Calm T drain w) (prior : e.prior = w.state) (allowed : permit e)
    {status : ClusterStatus} (after : e.after = e.before.withStatus status)
    (scaler : ∀ x : ComponentStatus, x.component = "Scaler" →
      (x ∈ status.componentsStatus ↔ x ∈ entries e.before)) : Calm T drain (w.extend e) := by
  apply calm.spare prior allowed
  · intro x component
    rw [after]
    exact scaler x component
  · rw [after]
    rfl
  · intro sts
    rw [after]
    rfl
  · intro _
    rw [after]
    rfl

theorem Calm.deletes (w : ApiWorld) (choice : Choice) (pod : String)
    (allowed : permit (asked w choice (.deletePod pod))) (calm : Calm T drain w) :
    Calm T drain (w.extend (asked w choice (.deletePod pod))) := by
  have outcome := request_effect w choice (.deletePod pod) ()
    (fun s t => t.cluster = s.cluster ∧ (∀ sts, t.size sts = s.size sts) ∧
      t.settings = s.settings) (by
        intro s
        rw [serve]
        cases s.pods.get pod with
        | none => exact Or.inl ⟨.notFound, rfl⟩
        | some found => exact Or.inr ⟨rfl, rfl, fun _ => rfl, rfl⟩)
  rcases outcome with ⟨err, _, after⟩ | ⟨_, cluster, size, settings⟩
  · exact Calm.stable w choice _ allowed calm after
  apply calm.spare rfl allowed
  · intro x _
    rw [entries, entries, cluster]
  · rw [cluster]
  · exact size
  · intro _
    rw [settings]

theorem Calm.upgrade : Upgrade.Respects permit T.Inv (Calm T cr.spec.general.drainDataNodes)
    (Calm T cr.spec.general.drainDataNodes) cr where
  implied _ calm := calm.inv
  implied' _ calm := calm.inv
  weaken _ calm := calm
  stable := Calm.stable
  gentle := Calm.gentle
  gentle' := Calm.gentle
  deletes := Calm.deletes
  phase _ _ _ calm prior allowed unchanged after :=
    calm.status prior allowed after fun _ _ => by rw [entries, unchanged]
  writes w _ _ write calm prior allowed unchanged after :=
    calm.status prior allowed after fun x component => by
      rw [entries, unchanged]
      exact write.mem_iff w.state.cluster (by rw [component]; decide)

theorem Calm.restart : RollingRestart.Respects permit T.Inv
    (Calm T cr.spec.general.drainDataNodes) cr where
  implied _ calm := calm.inv
  stable := Calm.stable
  gentle := Calm.gentle
  deletes := Calm.deletes
  writes _ _ _ calm prior allowed unchanged after :=
    calm.status prior allowed after fun x component => by
      rw [entries, unchanged]
      exact RollingRestart.mem_setComponentStatus
        (by rw [component]; simp [RollingRestart.restartStatus])

end Calm

section Pass

variable {permit : ApiEvent → Prop} {T : Tracking permit} {w : ApiWorld} {cr : OpenSearchCluster}

structure Ready (T : Tracking permit) (w : ApiWorld) : Prop where
  inv : T.Inv w
  alike : Alike (entries w.state)

theorem Ready.stable : Stable permit (Ready T) := by
  intro w choice op allowed ready unchanged
  exact ⟨Tracking.Inv.stable w choice op allowed ready.inv unchanged,
    Alike.stable T.relies w choice op allowed ready.alike unchanged⟩

structure Sound (cr : OpenSearchCluster) : Prop where
  smart : cr.spec.confMgmt.smartScaler = true
  distinct : (cr.spec.nodePools.map NodePool.component).Nodup

theorem sound_of_witnessed (relies : ∀ e, permit e → Rely e)
    (witnessed : Witnessed permit w.state) : Sound w.state.cluster := by
  obtain ⟨e, allowed, before⟩ := witnessed
  have rely := relies e allowed
  exact ⟨before ▸ rely.smart, before ▸ rely.distinct⟩

theorem safe_initializeAttempt (cr : OpenSearchCluster) (w : ApiWorld) (ready : Ready T w) :
    Safe permit T.Inv (initializeAttempt cr) (fun result w => Ready T w ∧
      (result.1 = none → w.state.cluster = result.2 ∧ Sound result.2)) w := by
  apply (safe_read .getCluster rfl Ready.stable (fun w ready => ready.inv) ready).bind
  rintro reply w ⟨ready, witnessed, answered⟩
  rcases answered with ⟨fault, rfl⟩ | rfl
  · exact ⟨ready, by simp⟩
  have sound := sound_of_witnessed T.relies witnessed
  have read := hasRead_now w.state
  revert sound read
  change Sound w.state.cluster → _ → Safe permit T.Inv (allMastersReady w.state.cluster >>= _) _ w
  generalize w.state.cluster = cr
  intro sound read
  have stable : Stable permit (fun w => Ready T w ∧ HasRead cr w.state) := by
    intro w choice op allowed both unchanged
    refine ⟨Ready.stable w choice op allowed both.1 unchanged, ?_⟩
    rw [World.extend_state, unchanged]
    exact both.2.disturbed choice
  apply (safe_reads (onlyCalls_asked rfl) stable (fun w both => both.1.inv) ⟨ready, read⟩).bind
  rintro initialized w ⟨ready, read⟩
  have sent : Safe permit T.Inv (updateClusterStatus
      { cr with status := { cr.status with initialized := initialized } }) (fun reply w =>
      Ready T w ∧ (reply = .ok () → w.state.cluster =
        { cr with resourceVersion := cr.resourceVersion + 1
                  status := { cr.status with initialized := initialized } })) w := by
    refine safe_request _ ready.inv ?_
    intro choice e allowed
    rcases updateStatus_cases w choice cr { cr.status with initialized := initialized } read with
      ⟨err, reply, after⟩ | ⟨_, unchanged, after⟩
    · refine ⟨Ready.stable w choice _ allowed ready after, fun accepted => ?_⟩
      have failed : e.reply = .error err := reply
      rw [accepted] at failed
      cases failed
    · have stored : (w.extend e).state.cluster =
          { cr with resourceVersion := cr.resourceVersion + 1
                    status := { cr.status with initialized := initialized } } := by
        change e.after.cluster = _
        rw [after, State.withStatus]
        rw [unchanged]
      have kept : entries e.after = entries e.before := by
        rw [after, entries, entries, unchanged]
        rfl
      have before : Calm T false w := ⟨ready.inv, by simp⟩
      have calm : Calm T false (w.extend e) := by
        apply before.status rfl allowed after
        intro x _
        rw [entries, unchanged]
      refine ⟨⟨calm.inv, ?_⟩, fun _ => stored⟩
      apply Alike.transfer ready.alike
      intro x component member
      rw [World.extend_state, kept] at member
      exact ((T.relies e allowed).scaler x component).mp member
  apply sent.bindOk
  · rintro err w ⟨ready, stored⟩
    exact ⟨ready, by simp⟩
  rintro _ w ⟨ready, stored⟩
  exact ⟨ready, fun _ => ⟨stored rfl, ⟨sound.smart, sound.distinct⟩⟩⟩

theorem safe_initializing (retries : Nat) (cr : OpenSearchCluster) (w : ApiWorld)
    (ready : Ready T w) :
    Safe permit T.Inv (retryOnConflict initializeAttempt retries cr) (fun result w => Ready T w ∧
      (result.1 = none → w.state.cluster = result.2 ∧ Sound result.2)) w := by
  induction retries generalizing cr w with
  | zero => exact safe_initializeAttempt cr w ready
  | succ retries ih =>
    apply (safe_initializeAttempt cr w ready).bind
    intro ⟨err, cr⟩ w ⟨ready, fine⟩
    dsimp only
    split
    · exact ih cr w ready
    · exact ⟨ready, fine⟩

theorem safe_updateInitialized (current : w.state.cluster = cr) (sound : Sound cr)
    (ready : Ready T w) : Safe permit T.Inv (updateInitialized cr) (fun result w => T.Inv w ∧
      ∀ cr', result = .ok cr' → Starting T cr' w ∧ Sound cr') w := by
  rw [updateInitialized]
  split
  · refine ⟨ready.inv, fun cr' same => ?_⟩
    cases same
    exact ⟨starting_of_read ready.inv ready.alike current, sound⟩
  · apply (safe_initializing defaultRetry cr w ready).bind
    intro ⟨err, cr⟩ w ⟨ready, fine⟩
    cases err with
    | some err => exact ⟨ready.inv, nofun⟩
    | none =>
      refine ⟨ready.inv, fun cr' same => ?_⟩
      cases same
      obtain ⟨current, sound⟩ := fine rfl
      exact ⟨starting_of_read ready.inv ready.alike current, sound⟩

theorem calm_of_enter {reconciler : ComponentReconciler}
    (draining : drainsNodes (.note (.enter reconciler cr)) = cr.spec.general.drainDataNodes)
    (w : ApiWorld) (choice : Choice)
    (allowed : Undisputed (w.arrive choice (.note (.enter reconciler cr))))
    (inv : exclusionTracking.Inv w) : Calm exclusionTracking cr.spec.general.drainDataNodes
      (w.extend (w.arrive choice (.note (.enter reconciler cr)))) := by
  refine ⟨Tracking.Inv.stable w choice _ allowed inv rfl, fun drain => ?_⟩
  exact allowed.apart (draining.trans drain)

theorem safe_afterScaler (inv : exclusionTracking.Inv w) :
    Safe Undisputed exclusionTracking.Inv (afterScaler cr) (fun _ => exclusionTracking.Inv) w := by
  have implied : ∀ w, exclusionTracking.Inv w → exclusionTracking.Inv w := fun _ inv => inv
  have done : ∀ (result : Result × Option Failure) w, exclusionTracking.Inv w →
      exclusionTracking.Inv w := fun _ _ inv => inv
  have upgrade : ∀ w, Calm exclusionTracking cr.spec.general.drainDataNodes w →
      Safe Undisputed exclusionTracking.Inv (Upgrade.reconcile cr)
        (fun _ => exclusionTracking.Inv) w := by
    intro w calm
    exact (Calm.upgrade.safe_reconcile w calm).mono fun _ _ calm => calm.inv
  have restart : ∀ w, Calm exclusionTracking cr.spec.general.drainDataNodes w →
      Safe Undisputed exclusionTracking.Inv (RollingRestart.reconcile cr)
        (fun _ => exclusionTracking.Inv) w := by
    intro w calm
    exact (Calm.restart.keeps_reconcile w calm).mono fun _ _ calm => calm.inv
  apply safe_delegated implied Tracking.Inv.stable ?_ done inv
  intro w inv
  apply safe_component implied (calm_of_enter rfl) upgrade ?_ done inv
  intro w inv
  apply safe_component implied (calm_of_enter rfl) restart ?_ done inv
  intro w inv
  apply safe_delegated implied Tracking.Inv.stable ?_ done inv
  intro w inv
  exact inv

theorem safe_fromScaler (sound : Sound cr) (starting : Starting exclusionTracking cr w) :
    Safe Undisputed exclusionTracking.Inv (fromScaler cr) (fun _ => exclusionTracking.Inv) w := by
  have entered : Safe Undisputed exclusionTracking.Inv (enter .scaler cr)
      (fun _ => Starting exclusionTracking cr) w :=
    ⟨starting.toHolding.inv, fun choice allowed => Starting.stable w choice _ allowed starting rfl⟩
  apply entered.bind
  intro _ w starting
  apply (safe_reconcile sound.smart sound.distinct starting).bind
  intro ⟨⟨result, err⟩, snapshot⟩ w inv
  dsimp only
  split
  · exact inv
  split
  · exact inv
  · exact safe_afterScaler inv

theorem safe_runningPass (ready : Ready exclusionTracking w) :
    Safe Undisputed exclusionTracking.Inv runningPass (fun _ => exclusionTracking.Inv) w := by
  apply (safe_read .getCluster rfl Ready.stable (fun w ready => ready.inv) ready).bind
  intro reply w ⟨ready, witnessed, answered⟩
  rcases answered with ⟨fault, rfl⟩ | rfl
  · cases fault <;> exact ready.inv
  have sound := sound_of_witnessed exclusionTracking.relies witnessed
  apply (safe_updateInitialized rfl sound ready).bindOk
  · intro err w ⟨inv, fine⟩
    exact inv
  intro cr w ⟨inv, fine⟩
  obtain ⟨starting, sound⟩ := fine cr rfl
  have implied : ∀ w, Starting exclusionTracking cr w → exclusionTracking.Inv w :=
    fun w starting => starting.toHolding.inv
  have done : ∀ (result : Result × Option Failure) w, Starting exclusionTracking cr w →
      exclusionTracking.Inv w := fun _ w starting => implied w starting
  apply safe_delegated implied Starting.stable ?_ done starting
  intro w starting
  apply safe_delegated implied Starting.stable ?_ done starting
  intro w starting
  apply safe_delegated implied Starting.stable ?_ done starting
  intro w starting
  apply safe_delegated implied Starting.stable ?_ done starting
  intro w starting
  exact safe_fromScaler sound starting

end Pass

/-- In a run in which no pool is being drained whenever the upgrade or the rolling
restart reconciler starts with DrainDataNodes on, draining nodes stay excluded. -/
theorem draining_node_excluded (start : ApiWorld) (passes : List (List Choice))
    (idle : ∀ x ∈ entries start.state, ¬ Staged x)
    (each : EachPass runningPass (fun w => Alike (entries w.state)) passes start)
    (undisputed : ∀ e ∈ (runs runningPass passes start).past, Undisputed e) :
    DrainingExcluded (runs runningPass passes start).state := by
  have first : exclusionTracking.Inv start := by
    refine ⟨trivial, ?_⟩
    intro x stored staged
    exact absurd staged (idle x stored)
  have kept : exclusionTracking.Inv (runs runningPass passes start) := by
    apply runs_keep_ready ?_ passes start first each undisputed
    intro w inv alike
    exact safe_runningPass ⟨inv, alike⟩
  exact drainingExcluded_of_inv kept

def twoPasses : List (List Choice) := undisturbed (.replicate 2 (.replicate 40 .served))

theorem last_node_stays_excluded :
    scalerStatus "Excluded" "data" ["logs-data-2"] ∈
        entries (runs runningPass twoPasses threeNodes).state ∧
      DrainingExcluded (runs runningPass twoPasses threeNodes).state := by
  have calm : ∀ e ∈ (runs runningPass twoPasses threeNodes).past,
      Regular e.prior ∧ drainsNodes e.op = false := by decide
  refine ⟨by decide, draining_node_excluded threeNodes twoPasses nofun
    ⟨by decide, by decide, trivial⟩ ?_⟩
  intro e happened
  have same := undisturbed_before runningPass _ threeNodes rfl e happened
  obtain ⟨regular, apart⟩ := calm e happened
  refine ⟨rely_of_regular same regular, by rw [same], fun drains => ?_⟩
  rw [apart] at drains
  cases drains

def twoPools : ApiWorld :=
  let s := threeNodes.state
  let hot : StatefulSet :=
    { name := "logs-hot", labels := [(clusterLabel, "logs"), (nodePoolLabel, "hot")]
      replicas := 1, selector := [], podManagementPolicy := .parallel
      volumeClaimTemplates := [], podTemplate := "", podEnv := "", deleting := false
      status := ⟨1, 1, 1, 1, "a", "a"⟩ }
  let node : Pod :=
    { name := "logs-data-2", deleting := false, conditions := [(PodReady, ConditionTrue)]
      labels := [(clusterLabel, "logs"), (nodePoolLabel, "data"), (stsRevisionLabel, "a")] }
  { past := []
    state := { s with
      cluster := { s.cluster with spec := { s.cluster.spec with
        general := ⟨"2.12.0", true⟩
        nodePools := s.cluster.spec.nodePools ++ [⟨"hot", 1, ["data"], none, 1, "", ""⟩] } }
      statefulSets := s.statefulSets.put hot
      pods := s.pods.put node } }

def onePass : List (List Choice) := undisturbed [.replicate 60 .served]

/-- The second pool's result hides that the first one waits for its node to drain,
the upgrade goes on and takes the node off the list as a stale exclusion. -/
theorem draining_node_taken_off_list : (∀ e ∈ (runs runningPass onePass twoPools).past,
      Rely e ∧ e.before.settings.exclude = e.prior.settings.exclude) ∧
    ¬ DrainingExcluded (runs runningPass onePass twoPools).state := by
  constructor
  · have regular : ∀ e ∈ (runs runningPass onePass twoPools).past, Regular e.prior := by decide
    intro e happened
    have same := undisturbed_before runningPass _ twoPools rfl e happened
    exact ⟨rely_of_regular same (regular e happened), by rw [same]⟩
  · intro excluded
    have stored : scalerStatus "Excluded" "data" ["logs-data-2"] ∈
        entries (runs runningPass onePass twoPools).state := by decide
    obtain ⟨k, noted, bound⟩ := excluded _ stored ⟨rfl, Or.inl rfl⟩
    have target : ordinalName "logs-data" k = ordinalName "logs-data" 2 :=
      (List.cons.inj noted).1.symm
    have third : k = 2 := ordinalName_ordinal target
    subst third
    have listed := (bound 3 (by decide)).2 rfl (by decide)
    exact absurd listed (by decide)

end OpenSearchOperator.Controllers
