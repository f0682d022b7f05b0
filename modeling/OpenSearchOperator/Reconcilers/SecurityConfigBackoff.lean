import Mathlib.Tactic.MkIffOfInductiveProp
import OpenSearchOperator.Effects.History
import OpenSearchOperator.Reconcilers.SecurityConfig

/-! Failed jobs and the delay before they are tried again. A pass that retries a job counts
the retry in the status, and then puts back what it had read at its start, so that the next
pass finds no retry to wait for. -/

namespace OpenSearchOperator.Reconcilers.SecurityConfig

open Api Data Effects
open Reconcilers.RollingRestart (setComponentStatus)

section Law

variable (checksumval : String)

@[mk_iff]
structure Failing (job : Job) : Prop where
  checksum : job.checksum = some checksumval
  ended : job.succeeded = 0 ∧ job.active = 0
  failed : 0 < job.failed

instance (job : Job) : Decidable (Failing checksumval job) :=
  decidable_of_iff' _ (failing_iff ..)

def FoundFailed (e : ConfigEvent) : Prop :=
  e.op = .getJob ∧ ∃ job ∈ e.before.job, Failing checksumval job

def FoundSucceeded (e : ConfigEvent) : Prop :=
  e.op = .getJob ∧ ∃ job ∈ e.before.job, job.checksum = some checksumval ∧ 0 < job.succeeded

instance (e : ConfigEvent) : Decidable (FoundFailed checksumval e) :=
  inferInstanceAs (Decidable (_ ∧ _))

instance (e : ConfigEvent) : Decidable (FoundSucceeded checksumval e) :=
  inferInstanceAs (Decidable (_ ∧ _))

def LastFoundFailed (past : List ConfigEvent) : Prop :=
  Since (fun e : ConfigEvent => e.op ≠ .getJob)
    (fun past => ∃ e ∈ past.head?, FoundFailed checksumval e)
    past

instance (past : List ConfigEvent) : Decidable (LastFoundFailed checksumval past) :=
  haveI : DecidablePred fun past : List ConfigEvent =>
    ∃ e ∈ past.head?, FoundFailed checksumval e :=
    fun past => inferInstanceAs (Decidable (∃ e ∈ past.head?, _))
  decidableSince past

def Recreation (e : ConfigEvent) (earlier : List ConfigEvent) : Prop :=
  e.op = .createJob (newJob checksumval) ∧ LastFoundFailed checksumval earlier

instance (e : ConfigEvent) (earlier : List ConfigEvent) :
    Decidable (Recreation checksumval e earlier) := inferInstanceAs (Decidable (_ ∧ _))

def recreations : List ConfigEvent → Nat
  | [] => 0
  | e :: earlier =>
    if FoundSucceeded checksumval e then 0
    else if Recreation checksumval e earlier then recreations earlier + 1
    else recreations earlier

def decidedAt : List ConfigEvent → Option Int
  | [] => none
  | e :: earlier => if e.op = .now then some e.before.clock else decidedAt earlier

def lastRecreation : List ConfigEvent → Option Int
  | [] => none
  | e :: earlier =>
    if Recreation checksumval e earlier then decidedAt earlier else lastRecreation earlier

/-- A recreation leaves its number as the retry count, and keeps the distance to the one
before it, up to a second. -/
@[mk_iff]
structure BackedOff (e : ConfigEvent) (earlier : List ConfigEvent) : Prop where
  counted : securityConfigRetryCount e.after.componentsStatus = recreations checksumval earlier + 1
  delayed : 1 ≤ recreations checksumval earlier →
    ∀ previous ∈ lastRecreation checksumval earlier, ∀ now ∈ decidedAt earlier,
      securityConfigRetryDelay (recreations checksumval earlier) ≤ now - previous + seconds 1

def BacksOff (e : ConfigEvent) (earlier : List ConfigEvent) : Prop :=
  Recreation checksumval e earlier → BackedOff checksumval e earlier

end Law

/-- Calls succeed, the clock does not go back, and the entry is left to the reconciler. -/
@[mk_iff]
structure Orderly (e : ConfigEvent) : Prop where
  served : e.choice.outcome = .served
  deletes : e.op = .deleteJob → e.before.job.isSome = true
  entry : securityConfigComponentStatus e.before.componentsStatus =
    securityConfigComponentStatus e.prior.componentsStatus
  clock : e.prior.clock ≤ e.before.clock

@[mk_iff]
structure Calm (components : List ComponentStatus) : Prop where
  count : securityConfigRetryCount components = 0
  last : securityConfigLastRetry components = zeroTime

section Conditions

variable {components others : List ComponentStatus}

theorem conditions_setComponentStatus (status description : String) (conditions : List String) :
    conditionsOf (setComponentStatus
      ⟨securityConfigComponentName, status, description, conditions⟩ components) = conditions := by
  induction components with
  | nil => rfl
  | cons value values ih =>
    rw [setComponentStatus]
    split
    · rfl
    rename_i other
    rw [conditionsOf, securityConfigComponentStatus, List.find?_cons_of_neg (by simpa using other)]
    exact ih

theorem Calm.same (calm : Calm components) (same : conditionsOf others = conditionsOf components) :
    Calm others := by
  refine ⟨?_, ?_⟩
  · rw [securityConfigRetryCount, same]
    exact calm.count
  · rw [securityConfigLastRetry, same]
    exact calm.last

theorem calm_none (none : conditionsOf components = []) : Calm components := by
  refine ⟨?_, ?_⟩
  · rw [securityConfigRetryCount, none]
    rfl
  · rw [securityConfigLastRetry, none]
    rfl

theorem calm_reset (reset : conditionsOf components = securityConfigRetryConditions 0 zeroTime) :
    Calm components := by
  refine ⟨?_, ?_⟩
  · rw [securityConfigRetryCount, reset]
    decide +kernel
  · rw [securityConfigLastRetry, reset]
    decide +kernel

end Conditions

section Passes

variable {checksumval : String}

variable {past : List ConfigEvent} {e : ConfigEvent}

def Exposed (checksumval : String) (past : List ConfigEvent) : Prop :=
  (∃ e ∈ past, FoundFailed checksumval e) → ¬ Throughout (BacksOff checksumval) past

def Lasting (facts : List ConfigEvent → Prop) : Prop :=
  ∀ e past, e.op ≠ .getJob → facts past → facts (e :: past)

theorem lasting_lastFoundFailed : Lasting (LastFoundFailed checksumval) :=
  fun _ _ other found => found.cons other

theorem Exposed.extend (exposed : Exposed checksumval past)
    (other : ¬ FoundFailed checksumval e) : Exposed checksumval (e :: past) := by
  intro ⟨x, happened, found⟩ all
  rcases List.mem_cons.mp happened with rfl | earlier
  · exact other found
  · exact exposed ⟨x, earlier, found⟩ all.2

theorem lasting_exposed : Lasting (Exposed checksumval) :=
  fun _ _ other exposed => exposed.extend fun found => other found.1

theorem exposed_recreation (recreation : Recreation checksumval e past)
    (calm : Calm e.after.componentsStatus) : Exposed checksumval (e :: past) := by
  intro _ all
  have counted := (all.1 recreation).counted
  rw [calm.count] at counted
  omega

theorem backsOff_of_sound (sound : ∀ e ∈ past, ¬ FoundFailed checksumval e) :
    Throughout (BacksOff checksumval) past := by
  induction past with
  | nil => trivial
  | cons e earlier ih =>
    refine ⟨fun recreation => ?_, ih fun x happened => sound x (List.mem_cons_of_mem e happened)⟩
    obtain ⟨recent, older, rfl, ⟨x, last, found⟩, _⟩ := recreation.2
    have happened : x ∈ recent ++ older :=
      List.mem_append_right recent (List.mem_of_mem_head? last)
    exact absurd found (sound x (List.mem_cons_of_mem e happened))

variable {w : ConfigRun} {facts : List ConfigEvent → Prop} {components : List ComponentStatus}
  {conditions : List String}

abbrev Any : ConfigRun → Prop := fun _ => True

theorem answered_served {choice : ConfigChoice} (s : ConfigWorld) (op : Call)
    (served : choice.outcome = .served) :
    answerCall choice s op = serveCall choice.lingers s op := by
  rw [answerCall, served]

theorem conditions_before (orderly : Orderly e) :
    conditionsOf e.before.componentsStatus = conditionsOf e.prior.componentsStatus := by
  rw [conditionsOf, conditionsOf, orderly.entry]

theorem safe_update (lasting : Lasting facts) (holds : facts w.past) (status description : String)
    (conditions : List String) :
    Safe Orderly Any (updateSecurityConfigComponentStatus status description conditions)
      (fun err w => err = none ∧ facts w.past ∧
        conditionsOf w.state.componentsStatus = conditions) w := by
  refine ⟨trivial, fun choice orderly => ?_⟩
  have answer := answered_served (w.arrive choice (.updateComponentStatus
    ⟨securityConfigComponentName, status, description, conditions⟩)).before
    (.updateComponentStatus ⟨securityConfigComponentName, status, description, conditions⟩)
    orderly.served
  have reply : (w.arrive choice (.updateComponentStatus
      ⟨securityConfigComponentName, status, description, conditions⟩)).reply = .ok () :=
    congrArg Prod.fst answer
  have after : (w.arrive choice (.updateComponentStatus
      ⟨securityConfigComponentName, status, description, conditions⟩)).after.componentsStatus =
      setComponentStatus ⟨securityConfigComponentName, status, description, conditions⟩ _ :=
    congrArg (fun answer => answer.2.componentsStatus) answer
  rw [reply]
  refine ⟨rfl, lasting _ _ nofun holds, ?_⟩
  rw [World.extend_state, after]
  exact conditions_setComponentStatus status description conditions

theorem safe_deleteJob (lasting : Lasting facts) (holds : facts w.past) :
    Safe Orderly Any (ask .deleteJob) (fun reply w => reply = .ok () ∧ facts w.past) w := by
  refine ⟨trivial, fun choice orderly => ⟨?_, lasting _ _ nofun holds⟩⟩
  have answer := answered_served (w.arrive choice .deleteJob).before .deleteJob orderly.served
  obtain ⟨job, there⟩ := Option.isSome_iff_exists.mp (orderly.deletes rfl)
  refine (congrArg Prod.fst answer).trans ?_
  rw [serveCall]
  simp only [there]

structure Started (checksumval : String) (facts : List ConfigEvent → Prop)
    (conditions : List String) (w : ConfigRun) : Prop where
  creation : ∃ e earlier, w.past = e :: earlier ∧ w.state = e.after ∧
    e.op = .createJob (newJob checksumval) ∧ facts earlier
  conditions : conditionsOf w.state.componentsStatus = conditions

theorem safe_createJob (holds : facts w.past) :
    Safe Orderly Any (ask (.createJob (newJob checksumval))) (fun _ later =>
      Started checksumval facts (conditionsOf w.state.componentsStatus) later) w := by
  refine ⟨trivial, fun choice orderly => ⟨⟨_, _, rfl, rfl, rfl, holds⟩, ?_⟩⟩
  have answer := answered_served (w.arrive choice (.createJob (newJob checksumval))).before
    (.createJob (newJob checksumval)) orderly.served
  have kept : (w.arrive choice (.createJob (newJob checksumval))).after.componentsStatus =
      (w.arrive choice (.createJob (newJob checksumval))).before.componentsStatus := by
    refine (congrArg (fun answer => answer.2.componentsStatus) answer).trans ?_
    rw [serveCall]
    split <;> rfl
  rw [World.extend_state, kept]
  exact conditions_before orderly

theorem safe_startJob (lasting : Lasting facts) (holds : facts w.past) (conditions : List String) :
    Safe Orderly Any (startJob conditions checksumval)
      (fun _ => Started checksumval facts conditions) w := by
  apply (safe_update lasting holds securityConfigStatusRunning "" conditions).bind
  rintro _ w ⟨rfl, holds, stored⟩
  apply (safe_createJob holds).bind
  intro reply w started
  rw [stored] at started
  cases reply <;> exact started

theorem safe_replaceJob (lasting : Lasting facts) (holds : facts w.past) :
    Safe Orderly Any (replaceJob conditions checksumval)
      (fun _ => Started checksumval facts conditions) w := by
  apply (safe_deleteJob lasting holds).bind
  rintro _ w ⟨rfl, holds⟩
  exact safe_startJob lasting holds conditions

structure Settled (checksumval : String) (w : ConfigRun) : Prop where
  calm : Calm w.state.componentsStatus
  exposed : Exposed checksumval w.past

theorem Started.settled (started : Started checksumval (Exposed checksumval) conditions w)
    (calm : Calm w.state.componentsStatus) : Settled checksumval w := by
  obtain ⟨e, earlier, past, _, creates, exposed⟩ := started.creation
  refine ⟨calm, ?_⟩
  rw [past]
  exact lasting_exposed e earlier (by rw [creates]; nofun) exposed

theorem Started.recreated (started : Started checksumval (LastFoundFailed checksumval) conditions w)
    (calm : Calm w.state.componentsStatus) : Settled checksumval w := by
  obtain ⟨e, earlier, past, state, creates, found⟩ := started.creation
  refine ⟨calm, ?_⟩
  rw [past]
  rw [state] at calm
  exact exposed_recreation ⟨creates, found⟩ calm

def Handled (checksumval : String) (existing : Existing) (w : ConfigRun) : Prop :=
  existing = .recreate ∧ LastFoundFailed checksumval w.past ∨
    (∃ result, existing = .done result) ∧ Settled checksumval w

theorem safe_finish (exposed : Exposed checksumval w.past) {status : String} {result : Result} :
    Safe Orderly Any (do
      let err ← updateSecurityConfigComponentStatus status "" []
      return settle err (.done result)) (Handled checksumval) w := by
  apply (safe_update lasting_exposed exposed status "" []).bind
  rintro _ w ⟨rfl, exposed, none⟩
  exact Or.inr ⟨⟨result, rfl⟩, calm_none none, exposed⟩

theorem safe_handleFailedJob (calm : Calm components) (found : LastFoundFailed checksumval w.past) :
    Safe Orderly Any (handleFailedJob components) (fun existing w =>
      existing = .recreate ∧ LastFoundFailed checksumval w.past) w := by
  have unretried : securityConfigLastRetry components = zeroTime := calm.last
  rw [handleFailedJob]
  simp only [unretried, if_true, Program.pure_eq_done, Program.done_bind, Bool.false_eq_true,
    if_false]
  refine ⟨trivial, fun choice _ => ?_⟩
  have later := lasting_lastFoundFailed (w.arrive choice .now) w.past nofun found
  apply (safe_update lasting_lastFoundFailed later _ _ _).bind
  rintro _ w ⟨rfl, found, _⟩
  exact ⟨rfl, found⟩

theorem safe_handleExisting (calm : Calm components) {job : Job}
    (same : job.checksum = some checksumval)
    (failed : Failing checksumval job → LastFoundFailed checksumval w.past)
    (other : ¬ Failing checksumval job → Exposed checksumval w.past) :
    Safe Orderly Any (handleExistingSecurityConfigJob components job) (Handled checksumval) w := by
  rw [handleExistingSecurityConfigJob]
  by_cases succeeded : job.succeeded > 0
  · rw [if_pos succeeded]
    have sound : ¬ Failing checksumval job := fun failing => by have none := failing.ended.1; omega
    exact safe_finish (other sound)
  rw [if_neg succeeded]
  by_cases active : job.active > 0
  · rw [if_pos active]
    have sound : ¬ Failing checksumval job := fun failing => by have none := failing.ended.2; omega
    exact safe_finish (other sound)
  rw [if_neg active]
  by_cases broken : job.failed > 0
  · rw [if_pos broken]
    have failing : Failing checksumval job := ⟨same, ⟨by omega, by omega⟩, broken⟩
    exact (safe_handleFailedJob calm (failed failing)).mono fun _ _ outcome => Or.inl outcome
  · rw [if_neg broken]
    exact safe_finish (other fun failing => broken failing.failed)

theorem safe_getJob (settled : Settled checksumval w) :
    Safe Orderly Any (ask .getJob) (fun reply w =>
      (∀ err, reply = .error err → Exposed checksumval w.past) ∧
      ∀ job, reply = .ok job → (Failing checksumval job → LastFoundFailed checksumval w.past) ∧
        (¬ Failing checksumval job → Exposed checksumval w.past)) w := by
  refine ⟨trivial, fun choice orderly => ?_⟩
  have answer : (w.arrive choice .getJob).reply = found (w.arrive choice .getJob).before.job :=
    congrArg Prod.fst (answered_served (w.arrive choice .getJob).before .getJob orderly.served)
  refine ⟨fun err told => ?_, fun job told => ⟨fun failing => ?_, fun sound => ?_⟩⟩
  · apply settled.exposed.extend
    rintro ⟨_, job, there, _⟩
    have read := answer.symm.trans told
    rw [there] at read
    cases read
  · exact since_mark ⟨_, rfl, rfl, job, found_ok (answer.symm.trans told), failing⟩
  · apply settled.exposed.extend
    rintro ⟨_, other, there, failing⟩
    have read := answer.symm.trans told
    rw [there] at read
    cases read
    exact sound failing

theorem safe_reconcile (calm : Calm components) (settled : Settled checksumval w) :
    Safe Orderly Any (reconcile components checksumval) (fun _ => Settled checksumval) w := by
  apply (safe_getJob settled).bind
  rintro reply w ⟨missing, present⟩
  cases reply with
  | error err =>
    apply (safe_startJob lasting_exposed (missing err rfl) _).mono
    exact fun _ w started => started.settled (calm.same started.conditions)
  | ok job =>
    obtain ⟨failed, other⟩ := present job rfl
    dsimp only
    split
    · rename_i same
      apply (safe_handleExisting calm same failed other).bind
      intro existing w outcome
      rcases outcome with ⟨rfl, found⟩ | ⟨⟨result, rfl⟩, settled⟩
      · apply (safe_replaceJob lasting_lastFoundFailed found).mono
        exact fun _ w started => started.recreated (calm.same started.conditions)
      · exact settled
    · rename_i different
      have exposed := other fun failing => different failing.checksum
      apply (safe_replaceJob lasting_exposed exposed).mono
      exact fun _ w started => started.settled (calm_reset started.conditions)

theorem safe_securityConfigPass (settled : Settled checksumval w) :
    Safe Orderly Any (securityConfigPass checksumval) (fun _ => Settled checksumval) w := by
  refine ⟨trivial, fun choice orderly => ?_⟩
  have answer := answered_served (w.arrive choice .getInstance).before .getInstance orderly.served
  have reply : (w.arrive choice .getInstance).reply =
      .ok (w.arrive choice .getInstance).before.componentsStatus := congrArg Prod.fst answer
  have after : (w.arrive choice .getInstance).after = (w.arrive choice .getInstance).before :=
    congrArg Prod.snd answer
  have calm : Calm (w.arrive choice .getInstance).before.componentsStatus :=
    settled.calm.same (conditions_before orderly)
  rw [reply]
  apply safe_reconcile calm
  refine ⟨?_, lasting_exposed _ _ nofun settled.exposed⟩
  rw [World.extend_state, after]
  exact calm

end Passes

/-- A run from a state without retries keeps the law exactly if no pass finds a failed job. -/
theorem backs_off_iff (checksumval : String) (start : ConfigRun)
    (passes : List (List ConfigChoice)) (fresh : start.past = [])
    (calm : Calm start.state.componentsStatus)
    (complete : CutsOnly (securityConfigPass checksumval) (fun _ => False) passes start)
    (orderly : ∀ e ∈ (runs (securityConfigPass checksumval) passes start).past, Orderly e) :
    Throughout (BacksOff checksumval) (runs (securityConfigPass checksumval) passes start).past ↔
      ∀ e ∈ (runs (securityConfigPass checksumval) passes start).past,
        ¬ FoundFailed checksumval e := by
  have initially : Settled checksumval start := by
    refine ⟨calm, ?_⟩
    rintro ⟨e, happened, _⟩
    rw [fresh] at happened
    cases happened
  have settled := runs_restore (K := Settled checksumval)
    (fun _ settled => safe_securityConfigPass settled) (fun _ _ impossible => impossible.elim)
    passes start initially complete orderly
  constructor
  · intro all e happened found
    exact settled.exposed ⟨e, happened, found⟩ all
  · exact backsOff_of_sound

section Runs

instance (e : ConfigEvent) : Decidable (Orderly e) :=
  decidable_of_iff' _ (orderly_iff ..)

instance (components : List ComponentStatus) : Decidable (Calm components) :=
  decidable_of_iff' _ (calm_iff ..)

instance (checksumval : String) (e : ConfigEvent) (earlier : List ConfigEvent) :
    Decidable (BacksOff checksumval e earlier) :=
  haveI : Decidable (BackedOff checksumval e earlier) := decidable_of_iff' _ (backedOff_iff ..)
  inferInstanceAs (Decidable (_ → _))

def beforeFirstJob : ConfigRun where
  state := ⟨0, [], none⟩
  past := []

def failedOnce : ConfigRun where
  state := ⟨seconds 1767225600, [], some ⟨some "sum", 0, 0, 1, false⟩⟩
  past := []

def quietCalls : List ConfigChoice := List.replicate 10 {}

def failsAgain : List ConfigChoice :=
  { others := fun s => { s with
      clock := s.clock + seconds 1, job := some ⟨some "sum", 0, 0, 1, false⟩ } } :: quietCalls

def succeeds : List ConfigChoice :=
  { others := fun s => { s with job := some ⟨some "sum", 1, 0, 0, false⟩ } } :: quietCalls

theorem success_backs_off :
    Throughout (BacksOff "sum") (runs (securityConfigPass "sum") [quietCalls, succeeds]
      beforeFirstJob).past := by
  have law := backs_off_iff "sum" beforeFirstJob [quietCalls, succeeds] rfl (by decide)
    (by decide +kernel) (by decide +kernel)
  exact law.mpr (by decide +kernel)

/-- The job is created again twice within a second, and neither retry is counted. -/
theorem failure_retried_at_once :
    let once := runs (securityConfigPass "sum") [quietCalls] failedOnce
    let twice := runs (securityConfigPass "sum") [quietCalls, failsAgain] failedOnce
    CutsOnly (securityConfigPass "sum") (fun _ => False) [quietCalls, failsAgain] failedOnce ∧
      (∀ e ∈ twice.past, Orderly e) ∧ ¬ Throughout (BacksOff "sum") twice.past ∧
      recreations "sum" once.past = 1 ∧ securityConfigRetryCount once.state.componentsStatus = 0 ∧
      recreations "sum" twice.past = 2 ∧
      securityConfigRetryCount twice.state.componentsStatus = 0 ∧
      lastRecreation "sum" twice.past = some (seconds 1767225601) ∧
      lastRecreation "sum" once.past = some (seconds 1767225600) ∧
      securityConfigRetryDelay 1 = seconds 60 := by
  decide +kernel

end Runs

end OpenSearchOperator.Reconcilers.SecurityConfig
