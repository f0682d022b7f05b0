import OpenSearchOperator.Api.Client
import OpenSearchOperator.Effects.Retry

/-! How programs of the operator are reasoned about: what an answered call may
have done to the state, and a rule for each client function that matters. -/

namespace OpenSearchOperator.Api

open Data Effects

abbrev ApiWorld := World server
abbrev ApiEvent := Event server

abbrev asked (w : ApiWorld) (choice : Choice) (req : Request) : ApiEvent :=
  w.arrive choice (.request req)

abbrev replied (w : ApiWorld) (choice : Choice) (req : Request) : Except ApiError req.Payload :=
  (asked w choice req).reply

section Frame

inductive Part where
  | cluster
  | statefulSets
  | pods
  | claims
  | settings
  deriving DecidableEq

def Request.changes : Request → Option Part
  | .updateClusterStatus _ => some .cluster
  | .createStatefulSet _ => some .statefulSets
  | .updateStatefulSet _ => some .statefulSets
  | .updateStatefulSetStatus _ => some .statefulSets
  | .deleteStatefulSet _ _ => some .statefulSets
  | .updatePodLabels _ _ => some .pods
  | .deletePod _ => some .pods
  | .updatePVC _ => some .claims
  | .putClusterSettings _ => some .settings
  | _ => none

def Call.changes : Call → Option Part
  | .request req => req.changes
  | _ => none

structure Frame (changed : Option Part) (s t : State) : Prop where
  cluster : changed ≠ some .cluster → t.cluster = s.cluster
  statefulSets : changed ≠ some .statefulSets → t.statefulSets = s.statefulSets
  pods : changed ≠ some .pods → t.pods = s.pods
  settings : changed ≠ some .settings → t.settings = s.settings
  clock : t.clock = s.clock

theorem Frame.refl (changed : Option Part) (s : State) : Frame changed s s :=
  ⟨fun _ => rfl, fun _ => rfl, fun _ => rfl, fun _ => rfl, rfl⟩

theorem Frame.size {changed : Option Part} {s t : State} (frame : Frame changed s t)
    (other : changed ≠ some .statefulSets) (name : String) : t.size name = s.size name := by
  rw [State.size, State.size, frame.statefulSets other]

theorem frame_cluster (s : State) {cluster : OpenSearchCluster} :
    Frame (some .cluster) s { s with cluster := cluster } :=
  ⟨fun other => absurd rfl other, fun _ => rfl, fun _ => rfl, fun _ => rfl, rfl⟩

theorem frame_statefulSets (s : State) {stored : Store StatefulSet String StatefulSet.name} :
    Frame (some .statefulSets) s { s with statefulSets := stored } :=
  ⟨fun _ => rfl, fun other => absurd rfl other, fun _ => rfl, fun _ => rfl, rfl⟩

theorem frame_pods (s : State) {stored : Store Pod String Pod.name} :
    Frame (some .pods) s { s with pods := stored } :=
  ⟨fun _ => rfl, fun _ => rfl, fun other => absurd rfl other, fun _ => rfl, rfl⟩

theorem frame_settings (s : State) {settings : TransientSettings} :
    Frame (some .settings) s { s with settings := settings } :=
  ⟨fun _ => rfl, fun _ => rfl, fun _ => rfl, fun other => absurd rfl other, rfl⟩

theorem serve_frame (s : State) (req : Request) : Frame req.changes s (serve s req).2 := by
  cases req with
  | updateClusterStatus cluster =>
    rw [serve]
    split
    · exact frame_cluster s
    · exact Frame.refl _ s
  | createStatefulSet sts =>
    rw [serve]
    split
    · exact Frame.refl _ s
    split
    · exact Frame.refl _ s
    · exact frame_statefulSets s
  | updateStatefulSet sts =>
    rw [serve]
    split
    · exact Frame.refl _ s
    split
    · exact Frame.refl _ s
    split
    · exact frame_statefulSets s
    · exact Frame.refl _ s
  | updateStatefulSetStatus sts =>
    rw [serve]
    split
    · exact Frame.refl _ s
    · exact frame_statefulSets s
  | deleteStatefulSet name propagation =>
    rw [serve]
    split
    · exact Frame.refl _ s
    · split <;> exact frame_statefulSets s
  | updatePodLabels name labels =>
    rw [serve]
    split
    · exact Frame.refl _ s
    · exact frame_pods s
  | deletePod name =>
    rw [serve]
    split
    · exact Frame.refl _ s
    · exact frame_pods s
  | updatePVC pvc =>
    rw [serve]
    split
    · exact Frame.refl _ s
    · exact ⟨fun _ => rfl, fun _ => rfl, fun _ => rfl, fun _ => rfl, rfl⟩
  | putClusterSettings settings =>
    cases settings with
    | remove names => exact Frame.refl _ s
    | _ => exact frame_settings s
  | _ => exact Frame.refl _ s

theorem answer_keeps (choice : Choice) (s : State) (op : Call) (property : State → Prop)
    (now : property s) (served : ∀ req, op = .request req → property (serve s req).2) :
    property (answer choice s op).2 := by
  cases op with
  | request req =>
    rw [answer_request]
    cases choice.outcome with
    | refused fault => exact now
    | _ => exact served req rfl
  | calculatePatch current desired =>
    rw [answer_calculatePatch]
    cases choice.outcome <;> exact now
  | _ => exact now

theorem answer_frame (choice : Choice) (s : State) (op : Call) :
    Frame op.changes s (answer choice s op).2 := by
  apply answer_keeps choice s op _ (Frame.refl _ s)
  rintro req rfl
  exact serve_frame s req

theorem event_frame (e : ApiEvent) : Frame e.op.changes e.before e.after := answer_frame _ _ _

end Frame

def Request.reads : Request → Bool
  | .updateClusterStatus _ => false
  | .createStatefulSet _ => false
  | .updateStatefulSet _ => false
  | .updateStatefulSetStatus _ => false
  | .deleteStatefulSet _ _ => false
  | .updatePodLabels _ _ => false
  | .deletePod _ => false
  | .updatePVC _ => false
  | .putClusterSettings _ => false
  | _ => true

theorem serve_reads (s : State) {req : Request} (reads : req.reads = true) :
    (serve s req).2 = s := by
  cases req <;> first | rfl | cases reads

theorem quiet_request (req : Request) (reads : req.reads = true) : Quiet server (.request req) := by
  intro choice s
  apply answer_keeps choice s (.request req) (· = s) rfl
  intro _ same
  cases same
  exact serve_reads s reads

theorem quiet_calculatePatch (current desired : StatefulSet) :
    Quiet server (.calculatePatch current desired) :=
  fun choice s => answer_keeps choice s _ (· = s) rfl nofun

def Call.reads : Call → Bool
  | .request req => req.reads
  | .note (.enter _ _) => false
  | _ => true

abbrev Reads (op : Call) : Prop := op.reads = true

theorem Reads.quiet {op : Call} (reads : Reads op) : Quiet server op := by
  cases op with
  | request req => exact quiet_request req reads
  | calculatePatch current desired => exact quiet_calculatePatch current desired
  | _ => exact fun _ _ => rfl

def Inquires : Call → Prop
  | .request req => req.reads = true
  | _ => False

theorem Inquires.reads {op : Call} (inquires : Inquires op) : Reads op := by
  cases op with
  | request req => exact inquires
  | _ => cases inquires

theorem Reads.changes {op : Call} (reads : Reads op) : op.changes = none := by
  cases op with
  | request req => cases req <;> first | rfl | cases reads
  | _ => rfl

/-- Calls of a reconciler that leave the custom resource, the sizes of the
StatefulSets, the pods and, unless `lists`, the exclude list as they are. -/
def Call.gentle (lists : Bool) : Call → Bool
  | .request (.putClusterSettings (.excludeName _)) => lists
  | .request (.putClusterSettings _) => true
  | .request (.updateStatefulSetStatus _) => true
  | .request req => req.reads
  | .note (.enter _ _) => false
  | _ => true

abbrev Gentle (lists : Bool) (op : Call) : Prop := op.gentle lists = true

theorem Reads.gentle {op : Call} (reads : Reads op) (lists : Bool) : Gentle lists op := by
  cases op with
  | request req => cases req <;> first | exact reads | cases reads
  | note note => cases note <;> exact reads
  | _ => rfl

theorem Gentle.lists {op : Call} (gentle : Gentle false op) (lists : Bool) : Gentle lists op := by
  cases op with
  | request req =>
    cases req with
    | putClusterSettings settings =>
      cases settings with
      | excludeName value => cases gentle
      | _ => rfl
    | _ => exact gentle
  | note note => cases note <;> exact gentle
  | _ => rfl

theorem Gentle.widen {lists : Bool} {op : Call} (gentle : Gentle lists op) : Gentle true op := by
  cases lists with
  | false => exact gentle.lists true
  | true => exact gentle

def Call.tunes (lists : Bool) : Call → Bool
  | .request (.putClusterSettings (.excludeName _)) => lists
  | .request (.putClusterSettings _) => true
  | .request .createClient => true
  | .request .getClusterSettings => true
  | .request .getHealth => true
  | .request .catShards => true
  | .request (.catNamedIndicesShards _) => true
  | .request (.getAllocationExplain _ _ _) => true
  | .request (.indexExists _) => true
  | _ => false

abbrev Tunes (lists : Bool) (op : Call) : Prop := op.tunes lists = true

theorem Tunes.gentle {lists : Bool} {op : Call} (tunes : Tunes lists op) : Gentle lists op := by
  cases op with
  | request req =>
    cases req with
    | putClusterSettings settings => cases settings <;> exact tunes
    | _ => first | rfl | cases tunes
  | _ => cases tunes

theorem Tunes.lists {op : Call} (tunes : Tunes false op) (lists : Bool) : Tunes lists op := by
  cases op with
  | request req =>
    cases req with
    | putClusterSettings settings =>
      cases settings with
      | excludeName value => cases tunes
      | _ => rfl
    | _ => exact tunes
  | _ => cases tunes

abbrev Leaves (part : Part) (op : Call) : Prop := op.changes ≠ some part

theorem Tunes.leaves {lists : Bool} {part : Part} {op : Call} (tunes : Tunes lists op)
    (other : part ≠ .settings) : Leaves part op := by
  cases op with
  | request req =>
    cases req with
    | putClusterSettings settings => exact fun same => other (Option.some.inj same).symm
    | _ =>
      intro same
      first | (cases tunes; done) | cases same
  | _ => cases tunes

def Call.spares : Call → Bool
  | .request req => req.changes != some .pods
  | .note (.enter _ _) => false
  | _ => true

abbrev Spares (op : Call) : Prop := op.spares = true

theorem Gentle.spares {lists : Bool} {op : Call} (gentle : Gentle lists op) : Spares op := by
  cases op with
  | request req => cases req <;> first | rfl | cases gentle
  | note note => cases note <;> exact gentle
  | _ => rfl

theorem Reads.spares {op : Call} (reads : Reads op) : Spares op := (reads.gentle false).spares

abbrev Apart (op : Call) : Prop := Spares op ∧ Leaves .cluster op

theorem Tunes.apart {lists : Bool} {op : Call} (tunes : Tunes lists op) : Apart op :=
  ⟨tunes.gentle.spares, tunes.leaves nofun⟩

def undisturbed (outcomes : List (List Outcome)) : List (List Choice) :=
  outcomes.map (List.map fun outcome => { outcome := outcome })

theorem undisturbed_before {α : Type} (program : Prog α) (outcomes : List (List Outcome))
    (w : ApiWorld) (new : w.past = []) (e : ApiEvent)
    (happened : e ∈ (runs program (undisturbed outcomes) w).past) : e.before = e.prior := by
  have alone : e.choice.others = id := by
    rcases runs_choices program _ w e happened with old | ⟨choices, pass, driven⟩
    · rw [new] at old
      cases old
    obtain ⟨outcomes, _, rfl⟩ := List.mem_map.mp pass
    obtain ⟨outcome, _, same⟩ := List.mem_map.mp driven
    rw [← same]
  change disturb e.choice e.prior = e.prior
  simp [disturb, alone]

section Requests

variable {permit : ApiEvent → Prop} {inv K : ApiWorld → Prop} {w : ApiWorld} {choice : Choice}
  {α : Type}

theorem safe_request (req : Request) {post : Except ApiError req.Payload → ApiWorld → Prop}
    (implied : inv w) (rest : ∀ choice : Choice, let e : ApiEvent := w.arrive choice (.request req)
      permit e → post e.reply (w.extend e)) :
    Safe permit inv (request req) post w := ⟨implied, rest⟩

theorem safe_asked (req : Request) (implied : inv w) :
    Safe permit inv (request req) (fun reply later => ∃ choice, permit (asked w choice req) ∧
      later = w.extend (asked w choice req) ∧ replied w choice req = reply) w :=
  ⟨implied, fun choice allowed => ⟨choice, allowed, rfl, rfl⟩⟩

theorem request_cases (w : ApiWorld) (choice : Choice) (req : Request) :
    let e : ApiEvent := w.arrive choice (.request req)
    (∃ fault : Fault, e.reply = .error fault.error ∧ e.after = e.before) ∨
      (e.reply = (serve e.before req).1 ∧ e.after = (serve e.before req).2) ∨
      (e.reply = .error .unavailable ∧ e.after = (serve e.before req).2) := by
  intro e
  have reply : e.reply = (answer choice e.before (.request req)).1 := rfl
  have after : e.after = (answer choice e.before (.request req)).2 := rfl
  rw [reply, after, answer_request]
  cases choice.outcome with
  | served => exact Or.inr (Or.inl ⟨rfl, rfl⟩)
  | refused fault => exact Or.inl ⟨fault, rfl, rfl⟩
  | lost => exact Or.inr (Or.inr ⟨rfl, rfl⟩)

/-- A reply that is not an error comes from the server. -/
theorem request_answered {req : Request} {value : req.Payload}
    (told : replied w choice req = .ok value) :
    serve (asked w choice req).before req = (.ok value, (asked w choice req).after) := by
  rcases request_cases w choice req with ⟨_, failed, _⟩ | ⟨reply, after⟩ | ⟨failed, _⟩
  · cases failed.symm.trans told
  · exact Prod.ext (reply.symm.trans told) after.symm
  · cases failed.symm.trans told

theorem told_getCluster {cr : OpenSearchCluster} (told : replied w choice .getCluster = .ok cr) :
    (asked w choice .getCluster).before.cluster = cr ∧
      (asked w choice .getCluster).after = (asked w choice .getCluster).before :=
  ⟨Except.ok.inj (congrArg Prod.fst (request_answered told)),
    (congrArg Prod.snd (request_answered told)).symm⟩

theorem request_received {req : Request} {value : req.Payload} (received : choice.outcome ≠ .lost)
    (served : ∀ s, (serve s req).1 = .ok value ∨ (serve s req).2 = s) :
    replied w choice req = .ok value ∨
      (asked w choice req).after = (asked w choice req).before := by
  change (answer choice (asked w choice req).before (.request req)).1 = _ ∨
    (answer choice (asked w choice req).before (.request req)).2 = _
  rw [answer_request]
  cases outcome : choice.outcome with
  | refused fault => exact Or.inr rfl
  | lost => exact absurd outcome received
  | served => exact served _

theorem request_effect (w : ApiWorld) (choice : Choice) (req : Request) (value : req.Payload)
    (Effect : State → State → Prop) (outcome : ∀ s, (∃ err, serve s req = (.error err, s)) ∨
      ((serve s req).1 = .ok value ∧ Effect s (serve s req).2)) :
    let e : ApiEvent := w.arrive choice (.request req)
    (∃ err, e.reply = .error err ∧ e.after = e.before) ∨
      ((e.reply = .ok value ∨ e.reply = .error .unavailable) ∧ Effect e.before e.after) := by
  intro e
  rcases request_cases w choice req with ⟨fault, reply, after⟩ | ⟨reply, after⟩ | ⟨reply, after⟩
  · exact Or.inl ⟨_, reply, after⟩
  · rcases outcome e.before with ⟨err, failed⟩ | ⟨done, effect⟩
    · exact Or.inl ⟨err, reply.trans (congrArg Prod.fst failed),
        after.trans (congrArg Prod.snd failed)⟩
    · exact Or.inr ⟨Or.inl (reply.trans done), after.symm ▸ effect⟩
  · rcases outcome e.before with ⟨err, failed⟩ | ⟨done, effect⟩
    · exact Or.inl ⟨_, reply, after.trans (congrArg Prod.snd failed)⟩
    · exact Or.inr ⟨Or.inr reply, after.symm ▸ effect⟩

def Answers (req : Request) (reply : Except ApiError req.Payload) (s : State) : Prop :=
  (∃ fault : Fault, reply = .error fault.error) ∨ reply = (serve s req).1

def Witnessed (permit : ApiEvent → Prop) (s : State) : Prop :=
  ∃ e : ApiEvent, permit e ∧ e.before = s

theorem safe_read (req : Request) (reads : req.reads = true) (stable : Stable permit K)
    (implied : ∀ w, K w → inv w) (holds : K w) : Safe permit inv (request req)
      (fun reply w => K w ∧ Witnessed permit w.state ∧ Answers req reply w.state) w := by
  refine Safe.read stable (quiet_request req reads) implied holds ?_
  intro choice w' kept allowed same
  have witnessed : Witnessed permit w'.state := by
    refine ⟨w.arrive choice (.request req), allowed, ?_⟩
    rw [same, World.extend_state, (quiet_request req reads).after_eq]
  refine ⟨kept, witnessed, ?_⟩
  change Answers req (answer choice w'.state (.request req)).1 w'.state
  rw [answer_request]
  cases choice.outcome with
  | served => exact Or.inr rfl
  | refused fault => exact Or.inl ⟨fault, rfl⟩
  | lost => exact Or.inl ⟨.unavailable, rfl⟩

theorem safe_reads {program : Prog α} (only : program.OnlyCalls Reads)
    (stable : Stable permit K) (implied : ∀ w, K w → inv w) (holds : K w) :
    Safe permit inv program (fun _ => K) w :=
  Safe.reads stable implied (only.mono fun _ reads => Reads.quiet reads) holds

theorem answers_found {reply : Except ApiError α} {stored : Option α}
    (answers : (∃ fault : Fault, reply = .error fault.error) ∨ reply = found stored) :
    (∃ err, reply = .error err ∧ (err = .notFound → stored = none)) ∨
      ∃ value, reply = .ok value ∧ stored = some value := by
  rcases answers with ⟨fault, rfl⟩ | rfl
  · refine Or.inl ⟨fault.error, rfl, ?_⟩
    intro impossible
    cases fault <;> cases impossible
  · cases stored with
    | none => exact Or.inl ⟨.notFound, rfl, fun _ => rfl⟩
    | some value => exact Or.inr ⟨value, rfl, rfl⟩

/-- A StatefulSet that is read is the one stored under its name, or there was an error. -/
theorem safe_getStatefulSet (name : String) (stable : Stable permit K)
    (implied : ∀ w, K w → inv w) (holds : K w) :
    Safe permit inv (getStatefulSet name) (fun reply w => K w ∧ Witnessed permit w.state ∧
      ((∃ err, reply = .error err ∧ (err = .notFound → w.state.statefulSets.get name = none)) ∨
        ∃ sts, reply = .ok sts ∧ w.state.statefulSets.get name = some sts)) w := by
  refine (safe_read (.getStatefulSet name) rfl stable implied holds).mono ?_
  intro reply w ⟨kept, witnessed, answers⟩
  exact ⟨kept, witnessed, answers_found answers⟩

end Requests

section StatusUpdate

variable {permit : ApiEvent → Prop} {inv : ApiWorld → Prop} {σ : Type}

def State.withStatus (s : State) (status : ClusterStatus) : State :=
  { s with cluster := { s.cluster with
      resourceVersion := s.cluster.resourceVersion + 1, status := status } }

/-- The custom resource was read as `cr`: it still is that, or has a newer version. -/
structure HasRead (cr : OpenSearchCluster) (s : State) : Prop where
  version : cr.resourceVersion ≤ s.cluster.resourceVersion
  same : s.cluster.resourceVersion = cr.resourceVersion → s.cluster = cr

theorem hasRead_now (s : State) : HasRead s.cluster s := ⟨Nat.le_refl _, fun _ => rfl⟩

theorem HasRead.disturbed {cr : OpenSearchCluster} {s : State} (read : HasRead cr s)
    (choice : Choice) : HasRead cr (disturb choice s) := by
  rw [disturb]
  by_cases untouched : (choice.others s).cluster = s.cluster
  · simp only [untouched, if_true]
    constructor
    · rw [untouched]
      exact read.version
    · rw [untouched]
      exact read.same
  · simp only [untouched, if_false]
    have version := read.version
    constructor
    · change cr.resourceVersion ≤ s.cluster.resourceVersion + 1
      omega
    intro equal
    change s.cluster.resourceVersion + 1 = cr.resourceVersion at equal
    omega

/-- An accepted status update finds the object as it was read. -/
theorem updateStatus_cases (w : ApiWorld) (choice : Choice) (cr : OpenSearchCluster)
    (status : ClusterStatus) (read : HasRead cr w.state) :
    let e : ApiEvent := asked w choice (.updateClusterStatus { cr with status := status })
    (∃ err, e.reply = .error err ∧ e.after = e.before) ∨
      ((e.reply = .ok () ∨ e.reply = .error .unavailable) ∧
        e.before.cluster = cr ∧ e.after = e.before.withStatus status) := by
  intro e
  have done := request_effect w choice (.updateClusterStatus { cr with status := status }) ()
    (fun s t => s.cluster.resourceVersion = cr.resourceVersion ∧ t = s.withStatus status) (by
        intro s
        by_cases current : cr.resourceVersion = s.cluster.resourceVersion
        · simp only [serve, current, if_true]
          exact Or.inr ⟨trivial, trivial, by rw [State.withStatus]⟩
        · exact Or.inl ⟨.conflict, if_neg current⟩)
  rcases done with rejected | ⟨reply, current, after⟩
  · exact Or.inl rejected
  · exact Or.inr ⟨reply, (read.disturbed choice).same current, after⟩

def writesStatus (f : σ → OpenSearchCluster → ClusterStatus × σ) (captured : σ) (s : State) :
    Call :=
  .request (.updateClusterStatus { s.cluster with status := (f captured s.cluster).1 })

variable {f : σ → OpenSearchCluster → ClusterStatus × σ} {J J' : σ → ApiWorld → Prop} {captured : σ}
  {attempt : σ → Prog (Option ApiError × σ)} {w : ApiWorld}

/-- What a status update needs: `J` holds between the attempts, with what the
closure captured by then, and an accepted write turns it into `J'`. -/
structure StatusUpdate (permit : ApiEvent → Prop) (inv : ApiWorld → Prop)
    (f : σ → OpenSearchCluster → ClusterStatus × σ) (J J' : σ → ApiWorld → Prop) : Prop where
  implied : ∀ captured w, J captured w → inv w
  stable : ∀ captured, Stable permit (J captured)
  evaluated : ∀ captured w, J captured w → J (f captured w.state.cluster).2 w
  written : ∀ captured w choice, J captured w →
    let e : ApiEvent := w.arrive choice (writesStatus f captured w.state)
    permit e → e.before.cluster = w.state.cluster →
    e.after = e.before.withStatus (f captured w.state.cluster).1 →
    J' (f captured w.state.cluster).2 (w.extend e)

theorem safe_updateStatusAttempt (rule : StatusUpdate permit inv f J J') (captured : σ)
    (w : ApiWorld) (holds : J captured w) :
    Safe permit inv (updateStatusAttempt f captured) (fun result w =>
      (J result.2 w ∧ result.1 ≠ none) ∨ (J' result.2 w ∧ result.1 ≠ some .conflict)) w := by
  refine (safe_read .getCluster rfl (rule.stable captured) (rule.implied captured) holds).bind ?_
  intro reply w ⟨kept, _, answers⟩
  rcases answers with ⟨fault, rfl⟩ | rfl
  · exact Or.inl ⟨kept, by simp⟩
  have evaluated := rule.evaluated captured w kept
  apply (safe_asked _ (rule.implied captured w kept)).bind
  rintro reply _ ⟨choice, allowed, rfl, told⟩
  rcases updateStatus_cases w choice w.state.cluster (f captured w.state.cluster).1
    (hasRead_now w.state) with ⟨err, failed, after⟩ | ⟨answered, unchanged, after⟩
  · cases told.symm.trans failed
    exact Or.inl ⟨rule.stable _ w choice _ allowed evaluated after, by simp⟩
  have done := rule.written captured w choice kept allowed unchanged after
  rcases answered with accepted | lost
  · cases told.symm.trans accepted
    exact Or.inr ⟨done, by simp⟩
  · cases told.symm.trans lost
    exact Or.inr ⟨done, by simp⟩

theorem retryOnConflict_eq {retries : Nat} : retryOnConflict attempt retries captured =
      retry (· == some .conflict) attempt retries captured := by
  induction retries generalizing captured with
  | zero => rfl
  | succ retries ih => simp [retryOnConflict, retry, ih]

theorem safe_retryOnConflict (rule : StatusUpdate permit inv f J J') (retries : Nat)
    (holds : J captured w) :
    Safe permit inv (retryOnConflict (updateStatusAttempt f) retries captured) (fun result w =>
      (result.1 = none → J' result.2 w) ∧ (J result.2 w ∨ J' result.2 w)) w := by
  rw [retryOnConflict_eq]
  refine safe_retry (fun captured w holds =>
    (safe_updateStatusAttempt rule captured w holds).mono ?_) retries captured w holds
  intro result w outcome
  rcases outcome with ⟨again, failed⟩ | ⟨done, settled⟩
  · exact ⟨⟨fun accepted => absurd accepted failed, Or.inl again⟩, fun _ => again⟩
  · exact ⟨⟨fun _ => done, Or.inr done⟩, fun conflict => absurd (beq_iff_eq.mp conflict) settled⟩

theorem safe_updateOpenSearchClusterStatus (rule : StatusUpdate permit inv f J J')
    (holds : J captured w) :
    Safe permit inv (updateOpenSearchClusterStatus f captured) (fun result w =>
      (result.1 = none → J' result.2 w) ∧ (J result.2 w ∨ J' result.2 w)) w := by
  refine (safe_retryOnConflict rule defaultRetry holds).bind ?_
  intro ⟨err, captured⟩ w ⟨accepted, either⟩
  refine ⟨?_, either⟩
  intro fine
  apply accepted
  exact Option.map_eq_none_iff.mp fine

/-- What a property of the history needs to survive a status update: each attempt
fetches the custom resource and, if that went well, sends it back with the status
that the closure made of it. -/
structure StatusAttempts (permit : ApiEvent → Prop) (inv : ApiWorld → Prop)
    (f : σ → OpenSearchCluster → ClusterStatus × σ) (J : σ → ApiWorld → Prop) : Prop where
  implied : ∀ captured w, J captured w → inv w
  fetched : ∀ captured w choice, J captured w → permit (asked w choice .getCluster) →
    J captured (w.extend (asked w choice .getCluster))
  sent : ∀ captured w first second cluster, J captured w → permit (asked w first .getCluster) →
    replied w first .getCluster = .ok cluster →
    let between := w.extend (asked w first .getCluster)
    let e := asked between second
      (.updateClusterStatus { cluster with status := (f captured cluster).1 })
    permit e → J (f captured cluster).2 (between.extend e)

theorem safe_statusAttempt {J : σ → ApiWorld → Prop} (rule : StatusAttempts permit inv f J)
    (captured : σ) (w : ApiWorld) (holds : J captured w) :
    Safe permit inv (updateStatusAttempt f captured) (fun result => J result.2) w := by
  apply (safe_asked .getCluster (rule.implied captured w holds)).bind
  rintro reply _ ⟨first, allowed, rfl, answered⟩
  have fetched := rule.fetched captured w first holds allowed
  cases reply with
  | error err => exact fetched
  | ok cluster =>
    apply (safe_asked _ (rule.implied captured _ fetched)).bind
    rintro reply _ ⟨second, permitted, rfl, _⟩
    have sent := rule.sent captured w first second cluster holds allowed answered permitted
    cases reply <;> exact sent

theorem safe_attempts {J : σ → ApiWorld → Prop} (each : ∀ captured w, J captured w →
      Safe permit inv (attempt captured) (fun result => J result.2) w)
    (retries : Nat) (holds : J captured w) :
    Safe permit inv (retryOnConflict attempt retries captured) (fun result => J result.2) w := by
  rw [retryOnConflict_eq]
  exact safe_retry (fun captured w holds => (each captured w holds).mono
    fun _ _ holds => ⟨holds, fun _ => holds⟩) retries captured w holds

theorem safe_statusAttempts {J : σ → ApiWorld → Prop} (rule : StatusAttempts permit inv f J)
    (holds : J captured w) :
    Safe permit inv (updateOpenSearchClusterStatus f captured) (fun result => J result.2) w := by
  apply (safe_attempts (safe_statusAttempt rule) defaultRetry holds).bind
  intro ⟨err, captured⟩ w holds
  exact holds

end StatusUpdate

section StatusCalls

variable {σ : Type} {allowed : Call → Prop}

theorem onlyCalls_retryOnConflict {attempt : σ → Prog (Option ApiError × σ)}
    (each : ∀ captured, (attempt captured).OnlyCalls allowed) (retries : Nat) (captured : σ) :
    (retryOnConflict attempt retries captured).OnlyCalls allowed := by
  rw [retryOnConflict_eq]
  exact onlyCalls_retry each retries captured

theorem onlyCalls_updateStatusAttempt (f : σ → OpenSearchCluster → ClusterStatus × σ)
    (reading : allowed (.request .getCluster))
    (writing : ∀ captured (cluster : OpenSearchCluster), allowed (.request (.updateClusterStatus
      { cluster with status := (f captured cluster).1 })))
    (captured : σ) : (updateStatusAttempt f captured).OnlyCalls allowed := by
  apply (onlyCalls_asked reading).bindOk
  · exact fun _ => trivial
  intro cluster
  refine onlyCalls_ask (writing captured cluster) fun reply => ?_
  cases reply <;> trivial

theorem onlyCalls_updateOpenSearchClusterStatus
    (f : σ → OpenSearchCluster → ClusterStatus × σ) (captured : σ)
    (reading : allowed (.request .getCluster))
    (writing : ∀ captured (cluster : OpenSearchCluster), allowed (.request (.updateClusterStatus
      { cluster with status := (f captured cluster).1 }))) :
    (updateOpenSearchClusterStatus f captured).OnlyCalls allowed :=
  (onlyCalls_retryOnConflict (onlyCalls_updateStatusAttempt f reading writing) _ captured).bind
    fun _ => trivial

theorem onlyCalls_updateStatus (f : OpenSearchCluster → ClusterStatus)
    (reading : allowed (.request .getCluster))
    (writing : ∀ cluster : OpenSearchCluster, allowed (.request (.updateClusterStatus
      { cluster with status := f cluster }))) : (updateStatus f).OnlyCalls allowed :=
  (onlyCalls_updateOpenSearchClusterStatus _ _ reading fun _ => writing).bind fun _ => trivial

end StatusCalls

theorem spares_updateOpenSearchClusterStatus {σ : Type}
    {f : σ → OpenSearchCluster → ClusterStatus × σ} {captured : σ} :
    (updateOpenSearchClusterStatus f captured).OnlyCalls Spares := by
  have reading : Spares (.request .getCluster) := rfl
  exact onlyCalls_updateOpenSearchClusterStatus f captured reading (fun _ _ => rfl)

theorem spares_updateStatus {f : OpenSearchCluster → ClusterStatus} :
    (updateStatus f).OnlyCalls Spares := by
  have reading : Spares (.request .getCluster) := rfl
  exact onlyCalls_updateStatus f reading (fun _ => rfl)

section Components

variable {permit : ApiEvent → Prop} {inv K K' : ApiWorld → Prop} {w : ApiWorld}

theorem safe_updateStatus (f : OpenSearchCluster → ClusterStatus)
    (implied : ∀ w, K w → inv w) (stable : Stable permit K) (written : ∀ w choice, K w →
      let e : ApiEvent := w.arrive choice
        (.request (.updateClusterStatus { w.state.cluster with status := f w.state.cluster }))
      permit e → e.before.cluster = w.state.cluster →
      e.after = e.before.withStatus (f w.state.cluster) → K' (w.extend e)) (holds : K w) :
    Safe permit inv (updateStatus f) (fun err w => (err = none → K' w) ∧ (K w ∨ K' w)) w := by
  have rule : StatusUpdate permit inv (fun (_ : Unit) cluster => (f cluster, ()))
      (fun _ => K) (fun _ => K') :=
    { implied := fun _ => implied
      stable := fun _ => stable
      evaluated := fun _ _ kept => kept
      written := fun _ => written }
  refine (safe_updateOpenSearchClusterStatus rule holds).bind ?_
  intro result w outcome
  exact outcome

theorem safe_settleStatus (f : OpenSearchCluster → ClusterStatus)
    (implied : ∀ w, K w → inv w) (stable : Stable permit K) (settled : ∀ w, K w → K' w)
    (written : ∀ w (e : ApiEvent), K w → e.prior = w.state → permit e →
      e.before.cluster = w.state.cluster → e.after = e.before.withStatus (f w.state.cluster) →
      K' (w.extend e)) (holds : K w) : Safe permit inv (updateStatus f) (fun _ => K') w := by
  apply (safe_updateStatus f implied stable (fun w _ kept => written w _ kept rfl) holds).mono
  intro err w ⟨_, either⟩
  exact either.elim (settled w) id

theorem safe_updateComponents (f : List ComponentStatus → List ComponentStatus) (w : ApiWorld)
    (implied : ∀ w, K w → inv w) (stable : Stable permit K)
    (written : ∀ w (e : ApiEvent), K w → e.prior = w.state → permit e →
      e.before.cluster = w.state.cluster →
      e.after = e.before.withStatus { w.state.cluster.status with
        componentsStatus := f w.state.cluster.status.componentsStatus } → K' (w.extend e))
    (holds : K w) :
    Safe permit inv (updateComponents f) (fun err w => (err = none → K' w) ∧ (K w ∨ K' w)) w :=
  safe_updateStatus _ implied stable
    (fun w _ kept allowed unchanged after => written w _ kept rfl allowed unchanged after)
    holds

end Components

section Once

variable (f : OpenSearchCluster → ClusterStatus)

def Unwritten (past : List ApiEvent) : Prop := ∀ e ∈ past, e.after = e.before

/-- Only the newest event has written anything: the status that `f` makes of the custom
resource as the event found it. -/
def WrittenOnce (past : List ApiEvent) : Prop :=
  ∃ e earlier, past = e :: earlier ∧ e.after = e.before.withStatus (f e.before.cluster) ∧
    Unwritten earlier

/-- However others interfere, a status update changes nothing, or the status once and on top
of what all others have written. Success means that it did. -/
theorem updateStatus_once (choices : List Choice) (start : State) :
    let run := exec (updateStatus f) choices (⟨start, []⟩ : ApiWorld)
    Unwritten run.2.past ∧ run.1 ≠ some none ∨ WrittenOnce f run.2.past := by
  intro run
  have safe : Safe (fun _ => True) (fun w => Unwritten w.past) (updateStatus f) (fun err w =>
      (err = none → WrittenOnce f w.past) ∧ (Unwritten w.past ∨ WrittenOnce f w.past))
      (⟨start, []⟩ : ApiWorld) := by
    refine safe_updateStatus f (fun _ unwritten => unwritten) ?_ ?_ (by simp [Unwritten])
    · exact fun w choice op _ unwritten same => List.forall_mem_cons.mpr ⟨same, unwritten⟩
    · intro w choice unwritten e _ same after
      rw [← same] at after
      exact ⟨e, w.past, rfl, after, unwritten⟩
  obtain ⟨finished, cut⟩ := safe.outcome choices fun _ _ => trivial
  by_cases success : run.1 = some none
  · exact Or.inr ((finished none success).1 rfl)
  cases result : run.1 with
  | none => exact Or.inl ⟨cut result, by simp⟩
  | some err =>
    exact (finished err result).2.imp_left fun unwritten => ⟨unwritten, result ▸ success⟩

end Once

def State.withExclude (s : State) (value : Option String) : State :=
  { s with settings := { s.settings with exclude := value } }

theorem putExclude_cases (w : ApiWorld) (choice : Choice) (value : Option String) :
    let e : ApiEvent := asked w choice (.putClusterSettings (.excludeName value))
    (∃ err, e.reply = .error err ∧ e.after = e.before) ∨
      ((e.reply = .ok () ∨ e.reply = .error .unavailable) ∧ e.after = e.before.withExclude value) :=
  request_effect w choice (.putClusterSettings (.excludeName value)) ()
    (fun s t => t = s.withExclude value) (fun _ => Or.inr ⟨rfl, rfl⟩)

section Gentle

structure Untouched (lists : Bool) (s t : State) : Prop where
  cluster : t.cluster = s.cluster
  size : ∀ sts, t.size sts = s.size sts
  pods : t.pods = s.pods
  exclude : lists = false → t.settings.exclude = s.settings.exclude

theorem Untouched.refl (lists : Bool) (s : State) : Untouched lists s s :=
  ⟨rfl, fun _ => rfl, rfl, fun _ => rfl⟩

theorem size_putStatus {s : State} {name : String} {current : StatefulSet}
    (there : s.statefulSets.get name = some current) (status : StatefulSetStatus) (sts : String) :
    ({ s with statefulSets := s.statefulSets.put { current with status := status } } : State).size
      sts = s.size sts := by
  simp only [State.size, Store.get_put]
  by_cases same : sts = current.name
  · have key : current.name = name := s.statefulSets.get_key _ _ there
    simp [same, key, there]
  · simp [same]

theorem serve_gentle {lists : Bool} (s : State) {req : Request}
    (gentle : Gentle lists (.request req)) : Untouched lists s (serve s req).2 := by
  cases req with
  | putClusterSettings settings =>
    cases settings with
    | excludeName value =>
      refine ⟨rfl, fun _ => rfl, rfl, fun unlisted => ?_⟩
      subst unlisted
      cases gentle
    | allocationEnable value => exact ⟨rfl, fun _ => rfl, rfl, fun _ => rfl⟩
    | remove names => exact Untouched.refl lists s
  | updateStatefulSetStatus sts =>
    rw [serve]
    cases there : s.statefulSets.get sts.name with
    | none => exact Untouched.refl lists s
    | some current =>
      exact ⟨rfl, size_putStatus there sts.status, rfl, fun _ => rfl⟩
  | updateClusterStatus _ => cases gentle
  | createStatefulSet _ => cases gentle
  | updateStatefulSet _ => cases gentle
  | deleteStatefulSet _ _ => cases gentle
  | updatePodLabels _ _ => cases gentle
  | deletePod _ => cases gentle
  | updatePVC _ => cases gentle
  | _ => exact Untouched.refl lists s

theorem answer_gentle {lists : Bool} (choice : Choice) (s : State) {op : Call}
    (gentle : Gentle lists op) : Untouched lists s (answer choice s op).2 := by
  apply answer_keeps choice s op _ (Untouched.refl lists s)
  rintro req rfl
  exact serve_gentle s gentle

end Gentle

section StatefulSets

/-- The one StatefulSet has this many replicas now and nothing else changed that
the scaling of pools depends on. -/
structure Resized (s t : State) (name : String) (replicas : Int) : Prop where
  cluster : t.cluster = s.cluster
  settings : t.settings = s.settings
  nonnegative : 0 ≤ replicas
  size : ∀ other, t.size other = if other = name then some replicas else s.size other

structure Removed (s t : State) (name : String) : Prop where
  cluster : t.cluster = s.cluster
  settings : t.settings = s.settings
  size : ∀ other, t.size other = if other = name then none else s.size other

theorem size_put (s : State) (sts : StatefulSet) (other : String) :
    ({ s with statefulSets := s.statefulSets.put sts } : State).size other =
      if other = sts.name then some sts.replicas else s.size other := by
  simp only [State.size, Store.get_put]
  by_cases same : other = sts.name
  · simp [same]
  · simp [same]

theorem size_remove (s : State) (name other : String) :
    ({ s with statefulSets := s.statefulSets.remove name } : State).size other =
      if other = name then none else s.size other := by
  simp only [State.size, Store.get_remove]
  by_cases same : other = name
  · simp [same]
  · simp [same]

def Updated (s t : State) (sts : StatefulSet) : Prop :=
  0 ≤ sts.replicas ∧ ∃ current, s.statefulSets.get sts.name = some current ∧
    let kept := { sts with
      deleting := current.deleting, status := current.status, versioned := true }
    t = { s with statefulSets := s.statefulSets.put kept }

theorem Updated.resized {s t : State} {sts : StatefulSet} (updated : Updated s t sts) :
    Resized s t sts.name sts.replicas := by
  obtain ⟨bound, current, _, rfl⟩ := updated
  exact ⟨rfl, rfl, bound, size_put s
    { sts with deleting := current.deleting, status := current.status, versioned := true }⟩

theorem updateStatefulSet_cases (w : ApiWorld) (choice : Choice) (sts : StatefulSet) :
    let e : ApiEvent := w.arrive choice (.request (.updateStatefulSet sts))
    (∃ err, e.reply = .error err ∧ e.after = e.before) ∨
      ((e.reply = .ok () ∨ e.reply = .error .unavailable) ∧ Updated e.before e.after sts) := by
  apply request_effect w choice (.updateStatefulSet sts) () (fun s t => Updated s t sts)
  intro s
  rw [serve]
  cases there : s.statefulSets.get sts.name with
  | none => exact Or.inl ⟨.notFound, rfl⟩
  | some current =>
    by_cases negative : sts.replicas < 0
    · exact Or.inl ⟨.invalid, if_pos negative⟩
    by_cases immutable : sameImmutableFields current sts = true
    · simp only [negative, immutable, if_true, if_false]
      have bound : 0 ≤ sts.replicas := by omega
      exact Or.inr ⟨trivial, bound, current, there, rfl⟩
    · exact Or.inl ⟨.immutable, (if_neg negative).trans (if_neg immutable)⟩

theorem removeStatefulSet_cases (w : ApiWorld) (choice : Choice) (name : String) :
    let e : ApiEvent := w.arrive choice (.request (.deleteStatefulSet name .background))
    (∃ err, e.reply = .error err ∧ e.after = e.before) ∨
      ((e.reply = .ok () ∨ e.reply = .error .unavailable) ∧ Removed e.before e.after name) := by
  apply request_effect w choice (.deleteStatefulSet name .background) ()
    (fun s t => Removed s t name)
  intro s
  rw [serve]
  cases there : s.statefulSets.get name with
  | none => exact Or.inl ⟨.notFound, rfl⟩
  | some current => exact Or.inr ⟨rfl, rfl, rfl, size_remove s name⟩

end StatefulSets

end OpenSearchOperator.Api
