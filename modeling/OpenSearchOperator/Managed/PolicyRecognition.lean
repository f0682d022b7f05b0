import Mathlib.Tactic.MkIffOfInductiveProp
import OpenSearchOperator.Managed.Laws
import OpenSearchOperator.Managed.Policies

/-! The flag that tells the operator's own policies from those of others. It is stored after
the policy has been created, so a policy that is there while the flag is unset is taken for
somebody else's. -/

namespace OpenSearchOperator.Managed.PolicyRecognition

open Api Effects
open Security (Verdict ReferredCluster)
open Managed.Policies

variable {Spec Doc : Type}

def Unmarked (kind : PolicyKind Spec Doc) (s : ManagedWorld Spec Doc) : Prop :=
  ∃ r ∈ s.resource, r.status.existing = none ∧ (s.objects (kind.policyId r.spec)).isSome = true

def Call.creates : Call Spec Doc → Bool
  | .createObject _ _ => true
  | _ => false

variable [DecidableEq Spec] {returned : String → Doc → Doc}

/-- Nobody else writes the flag, creates the policy or, with the flag unset, moves the
resource to another id in the middle of a pass. The creation of the policy is not lost, and
as long as the policy is unmarked, calls are served and others leave the resource alone. -/
@[mk_iff]
structure Attended (kind : PolicyKind Spec Doc) (e : ManagedEvent Spec returned) : Prop where
  flag : Alone ObjectStatus.existing e
  policy : Unmarked kind e.before → Unmarked kind e.prior
  edits : e.op ≠ .getResource → ∀ r ∈ e.before.resource, r.status.existing = none →
    ∀ earlier ∈ e.prior.resource, kind.policyId r.spec = kind.policyId earlier.spec
  creation : Call.creates e.op = true → e.choice.outcome ≠ .lost
  marking : Unmarked kind e.prior →
    e.choice.outcome = .served ∧ e.before.resource = e.prior.resource

structure Flagged (flag : Option Bool) (w : ManagedRun Spec returned) : Prop where
  now : ∀ r ∈ w.state.resource, r.status.existing = flag
  never : flag ≠ some true
  history : ∀ e ∈ w.past, ∀ r ∈ e.after.resource, r.status.existing ≠ some true

structure Known (kind : PolicyKind Spec Doc) (flag : Option Bool) (policyId : String)
    (w : ManagedRun Spec returned) : Prop extends Flagged flag w where
  named : flag = none → ∀ r ∈ w.state.resource, kind.policyId r.spec = policyId

structure Stage (kind : PolicyKind Spec Doc) (flag : Option Bool) (policyId : String)
    (w : ManagedRun Spec returned) : Prop extends Known kind flag policyId w where
  clean : ¬ Unmarked kind w.state

variable {kind : PolicyKind Spec Doc} {flag : Option Bool} {policyId : String}
  {w : ManagedRun Spec returned} {choice : ManagedChoice Spec Doc} {op : Call Spec Doc}

section Steps

theorem Flagged.own (flagged : Flagged flag w) (set : flag ≠ none) : flag = some false := by
  rcases flag with _ | _ | _
  · exact absurd rfl set
  · rfl
  · exact absurd rfl flagged.never

theorem Flagged.before (flagged : Flagged flag w) (attended : Attended kind (w.arrive choice op)) :
    ∀ r ∈ (w.arrive choice op).before.resource, r.status.existing = flag := by
  intro r there
  obtain ⟨earlier, present, same⟩ := attended.flag r there
  exact same.trans (flagged.now earlier present)

theorem Flagged.extend (flagged : Flagged flag w) {e : ManagedEvent Spec returned}
    {later : Option Bool} (never : later ≠ some true)
    (now : ∀ r ∈ e.after.resource, r.status.existing = later) : Flagged later (w.extend e) := by
  refine ⟨now, never, ?_⟩
  intro x happened r there
  rcases List.mem_cons.mp happened with rfl | earlier
  · rw [now r there]
    exact never
  · exact flagged.history x earlier r there

theorem Flagged.call (flagged : Flagged flag w) (attended : Attended kind (w.arrive choice op))
    (resource : op.writesResource = false) : Flagged flag (w.extend (w.arrive choice op)) := by
  apply flagged.extend flagged.never
  rw [arrive_resource resource]
  exact flagged.before attended

theorem Flagged.clean (flagged : Flagged flag w) (set : flag ≠ none) : ¬ Unmarked kind w.state := by
  rintro ⟨r, there, unset, _⟩
  exact set ((flagged.now r there).symm.trans unset)

theorem Known.named_before (known : Known kind flag policyId w)
    (attended : Attended kind (w.arrive choice op)) (started : op ≠ .getResource)
    (unset : flag = none) :
    ∀ r ∈ (w.arrive choice op).before.resource, kind.policyId r.spec = policyId := by
  intro r there
  obtain ⟨earlier, present, _⟩ := attended.flag r there
  have off := (known.toFlagged.before attended r there).trans unset
  exact (attended.edits started r there off earlier present).trans
    (known.named unset earlier present)

theorem clean_read (clean : ¬ Unmarked kind w.state) (attended : Attended kind (w.arrive choice op))
    (resource : op.writesResource = false) (object : op.target = none) :
    ¬ Unmarked kind (w.extend (w.arrive choice op)).state := by
  rintro ⟨r, there, unset, present⟩
  rw [World.extend_state, arrive_resource resource] at there
  rw [World.extend_state, arrive_objects (object ▸ nofun)] at present
  exact clean (attended.policy ⟨r, there, unset, present⟩)

section

variable (attended : Attended kind (w.arrive choice op)) (started : op ≠ .getResource)
  (resource : op.writesResource = false)

include attended started resource

theorem Known.read (known : Known kind flag policyId w) :
    Known kind flag policyId (w.extend (w.arrive choice op)) := by
  refine ⟨known.toFlagged.call attended resource, ?_⟩
  rw [World.extend_state, arrive_resource resource]
  exact known.named_before attended started

theorem Stage.read (stage : Stage kind flag policyId w) (object : op.target = none) :
    Stage kind flag policyId (w.extend (w.arrive choice op)) :=
  ⟨stage.toKnown.read attended started resource, clean_read stage.clean attended resource object⟩

theorem Stage.write (stage : Stage kind flag policyId w) (set : flag ≠ none) :
    Stage kind flag policyId (w.extend (w.arrive choice op)) :=
  have known := stage.toKnown.read attended started resource
  ⟨known, known.toFlagged.clean set⟩

end

theorem Stage.rewritten (stage : Stage kind flag policyId w)
    (attended : Attended kind (w.arrive choice op)) (started : op ≠ .getResource)
    (object : op.target = none)
    (now : ∀ r ∈ (w.arrive choice op).after.resource, r.status.existing = flag)
    (from_stored : ∀ r ∈ (w.arrive choice op).after.resource,
      ∃ stored ∈ (w.arrive choice op).before.resource,
        r.spec = stored.spec ∨ kind.policyId r.spec = policyId) :
    Stage kind flag policyId (w.extend (w.arrive choice op)) := by
  have named := stage.toKnown.named_before attended started
  have names : flag = none → ∀ r ∈ (w.arrive choice op).after.resource,
      kind.policyId r.spec = policyId := by
    intro unset r there
    obtain ⟨stored, present, same | new⟩ := from_stored r there
    · rw [same]
      exact named unset stored present
    · exact new
  refine ⟨⟨stage.toFlagged.extend stage.never now, names⟩, ?_⟩
  rintro ⟨r, there, unset, present⟩
  obtain ⟨stored, was, _⟩ := from_stored r there
  have off : flag = none := (now r there).symm.trans unset
  rw [World.extend_state, arrive_objects (object ▸ nofun), names off r there,
    ← named off stored was] at present
  exact stage.clean (attended.policy
    ⟨stored, was, (stage.toFlagged.before attended stored was).trans off, present⟩)

theorem Stage.updateResource (stage : Stage kind flag policyId w)
    {resource : Resource Spec} (copied : kind.policyId resource.spec = policyId)
    (attended : Attended kind (w.arrive choice (.updateResource resource))) :
    Stage kind flag policyId (w.extend (w.arrive choice (.updateResource resource))) := by
  apply stage.rewritten attended nofun rfl
  · intro r there
    obtain ⟨stored, present, same, _⟩ := answer_updateResource r there
    rw [same]
    exact stage.toFlagged.before attended stored present
  · intro r there
    obtain ⟨stored, present, _, same | new⟩ := answer_updateResource r there
    · exact ⟨stored, present, Or.inl (congrArg Resource.spec same)⟩
    · exact ⟨stored, present, Or.inr (new ▸ copied)⟩

omit [DecidableEq Spec] in
theorem specs_updateStatus {s : ManagedWorld Spec Doc} {resource : Resource Spec} :
    ∀ r ∈ (answerCall returned choice s (.updateResourceStatus resource)).2.resource,
      ∃ stored ∈ s.resource, r.spec = stored.spec ∨ kind.policyId r.spec = policyId := by
  intro r there
  obtain ⟨stored, present, same, _⟩ := answer_updateResourceStatus r there
  exact ⟨stored, present, Or.inl same⟩

/-- A status update leaves the flag alone or, if it is stored, says that the policy is the
operator's own. -/
theorem Stage.updateStatus (stage : Stage kind flag policyId w) {resource : Resource Spec}
    (attended : Attended kind (w.arrive choice (.updateResourceStatus resource)))
    (fits : resource.status.existing = flag ∨ resource.status.existing = some false) :
    ∃ later, Stage kind later policyId
      (w.extend (w.arrive choice (.updateResourceStatus resource))) := by
  rcases updateResourceStatus_part (stage.toFlagged.before attended) with kept | new
  · exact ⟨flag, stage.rewritten attended nofun rfl kept specs_updateStatus⟩
  rcases fits with same | own
  · exact ⟨flag, stage.rewritten attended nofun rfl (same ▸ new) specs_updateStatus⟩
  have flagged : Flagged (some false)
      (w.extend (w.arrive choice (.updateResourceStatus resource))) :=
    stage.toFlagged.extend (by simp) (own ▸ new)
  exact ⟨some false, ⟨flagged, nofun⟩, flagged.clean nofun⟩

theorem keptByUpdates_stage : KeptByUpdates (Attended kind)
    (Stage kind flag policyId : ManagedRun Spec returned → Prop) ObjectStatus.existing id where
  reread _ _ attended stage := stage.read attended nofun rfl rfl
  written w choice resource attended stage image := by
    refine stage.rewritten attended nofun rfl (fun r there => ?_) specs_updateStatus
    obtain ⟨stored, present, _, same | new⟩ := answer_updateResourceStatus r there
    · rw [same]
      exact stage.toFlagged.before attended stored present
    · rw [new, image stored present]
      exact stage.toFlagged.before attended stored present

end Steps

section Opening

def Truthful (w : ManagedRun Spec returned) : Prop := ∃ flag, Flagged flag w

abbrev Within (kind : PolicyKind Spec Doc) {α : Type} (program : ManagedProg Spec Doc α)
    (post : α → ManagedRun Spec returned → Prop) (w : ManagedRun Spec returned) : Prop :=
  Safe (Attended kind) Truthful program post w

theorem Flagged.truthful (flagged : Flagged flag w) : Truthful w := ⟨flag, flagged⟩

/-- The flag is unset and no policy is unmarked, or the flag says that the policy is the
operator's own. -/
def Settled (kind : PolicyKind Spec Doc) (policyId : String) (w : ManagedRun Spec returned) :
    Prop :=
  ∃ flag, Stage kind flag policyId w

def Opened (kind : PolicyKind Spec Doc) (flag : Option Bool) (policyId : String) (failed : Prop)
    (w : ManagedRun Spec returned) : Prop :=
  Known kind flag policyId w ∧ (failed → ¬ Unmarked kind w.state)

theorem Opened.settled {failed : Prop} (opened : Opened kind flag policyId failed w)
    (happened : failed) : Settled kind policyId w :=
  ⟨flag, opened.1, opened.2 happened⟩

theorem opened_asked (op : Call Spec Doc) (started : op ≠ .getResource)
    (resource : op.writesResource = false) (object : op.target = none)
    (answers : ∀ s : ManagedWorld Spec Doc, s.resource.isSome = true →
      ∃ value, (serveCall returned s op).1 = .ok value) (known : Known kind flag policyId w) :
    Within kind (ask op) (fun reply => Opened kind flag policyId (∃ err, reply = .error err))
      w := by
  refine ⟨known.toFlagged.truthful, fun choice attended => ?_⟩
  refine ⟨known.read attended started resource, fun ⟨err, failed⟩ => ?_⟩
  by_cases unmarked : Unmarked kind w.state
  · obtain ⟨served, same⟩ := attended.marking unmarked
    obtain ⟨r, there, _⟩ := unmarked
    have present : (w.arrive choice op).before.resource.isSome = true := by
      rw [same]
      exact Option.isSome_of_mem there
    obtain ⟨value, told⟩ := answers _ present
    have answer : answerCall returned choice (w.arrive choice op).before op =
      serveCall returned (w.arrive choice op).before op := answer_served served
    cases failed.symm.trans ((congrArg Prod.fst answer).trans told)
  · exact clean_read unmarked attended resource object

theorem opened_each {handle : String → ManagedProg Spec Doc (Option Failure)}
    (each : ∀ item (w : ManagedRun Spec returned), Known kind flag policyId w →
      Within kind (handle item) (fun err => Opened kind flag policyId (err ≠ none)) w)
    (items : List String) (w : ManagedRun Spec returned) (known : Known kind flag policyId w) :
    Within kind (eachUntilError handle items)
      (fun err => Opened kind flag policyId (err ≠ none)) w := by
  induction items generalizing w with
  | nil => exact ⟨known, fun failed => absurd rfl failed⟩
  | cons item items ih =>
    apply (each item w known).bindNone
    · exact fun _ _ opened => opened
    exact fun w opened => ih w opened.1

theorem opened_apply (resource : Resource Spec) (known : Known kind flag policyId w) :
    Within kind (applyPolicyToExistingIndices kind resource policyId)
      (fun err => Opened kind flag policyId (err ≠ none)) w := by
  apply opened_each _ _ w known
  intro pattern w known
  apply (opened_asked (.getIndices pattern) nofun rfl rfl (fun _ _ => ⟨_, rfl⟩) known).bindOk
  · exact fun err w opened => ⟨opened.1, fun _ => opened.2 ⟨err, rfl⟩⟩
  intro indices w opened
  apply opened_each _ _ w opened.1
  intro index w known
  apply (opened_asked (.addPolicyToIndex index policyId) nofun rfl rfl
    (fun _ _ => ⟨_, rfl⟩) known).bindOk
  · exact fun err w opened => ⟨opened.1, fun _ => opened.2 ⟨err, rfl⟩⟩
  exact fun _ w opened => ⟨opened.1, fun failed => absurd rfl failed⟩

/-- The update that stores the flag is served where a policy is unmarked. -/
theorem Known.marked (known : Known kind flag policyId w) {stored sent : Resource Spec}
    (current : w.state.resource = some stored)
    (marks : { stored with status := markExisting false stored.status } = sent)
    (attended : Attended kind (w.arrive choice (.updateResourceStatus sent))) :
    Settled kind policyId (w.extend (w.arrive choice (.updateResourceStatus sent))) := by
  by_cases unmarked : Unmarked kind w.state
  · obtain ⟨served, unchanged⟩ := attended.marking unmarked
    have present := unchanged.trans current
    have flagged : Flagged (some false)
        (w.extend (w.arrive choice (.updateResourceStatus sent))) := by
      refine known.toFlagged.extend (by simp) ?_
      intro r there
      have effect : (w.arrive choice (.updateResourceStatus sent)).after = (serveCall returned
          (w.arrive choice (.updateResourceStatus sent)).before (.updateResourceStatus sent)).2 :=
        congrArg Prod.snd (answer_served served)
      rw [effect, serveCall, present] at there
      subst marks
      dsimp only at there
      rw [if_pos rfl] at there
      cases there
      rfl
    exact ⟨some false, ⟨flagged, by simp⟩, flagged.clean (by simp)⟩
  · exact Stage.updateStatus ⟨known, unmarked⟩ attended (Or.inr (marks ▸ rfl))

theorem within_attempt (resource : Resource Spec) (known : Known kind flag policyId w) :
    Within kind (updateStatusAttempt (markExisting false) resource)
      (fun _ => Settled kind policyId) w := by
  have read : Within kind (ask .rereadResource) (fun reply w =>
      Opened kind flag policyId (∃ err, reply = .error err) w ∧
        OkWith (Known kind flag policyId) (fun stored w => w.state.resource = some stored) reply w)
      w := by
    apply Safe.and
    · apply opened_asked .rereadResource nofun rfl rfl _ known
      intro s present
      obtain ⟨r, there⟩ := Option.isSome_iff_exists.mp present
      exact ⟨r, congrArg found there⟩
    · apply safe_rereadResource (fun _ known => known.toFlagged.truthful) _ known
      intro w choice attended known
      exact known.read attended nofun rfl
  apply read.bindOk
  · exact fun err w ⟨opened, _⟩ => opened.settled ⟨err, rfl⟩
  intro stored w ⟨_, known, current⟩
  have write : Within kind (ask (.updateResourceStatus
      { stored with status := markExisting false stored.status }))
      (fun _ => Settled kind policyId) w :=
    ⟨known.toFlagged.truthful, fun _ attended => known.marked (current stored rfl) rfl attended⟩
  apply write.bind
  intro reply w settled
  cases reply <;> exact settled

theorem within_markOwn (resource : Resource Spec) (known : Known kind flag policyId w) :
    Within kind (updateObjectStatus (markExisting false) resource)
      (fun _ => Settled kind policyId) w := by
  refine safe_retry_restored (fun resource w (known : ∃ flag, Known kind flag policyId w) => ?_)
    (fun _ _ settled => ?_) 4 resource ⟨flag, known⟩
  · obtain ⟨flag, known⟩ := known
    exact within_attempt resource known
  · obtain ⟨flag, stage⟩ := settled
    exact ⟨flag, stage.toKnown⟩

end Opening

section Programs

def Tracked (kind : PolicyKind Spec Doc) (w : ManagedRun Spec returned) : Prop :=
  ∃ flag, Flagged flag w ∧ ¬ Unmarked kind w.state

theorem Stage.tracked (stage : Stage kind flag policyId w) : Tracked kind w :=
  ⟨flag, stage.toFlagged, stage.clean⟩

theorem Tracked.stage (tracked : Tracked kind w) {resource : Resource Spec}
    (current : w.state.resource = some resource) :
    Stage kind resource.status.existing (kind.policyId resource.spec) w := by
  obtain ⟨flag, flagged, clean⟩ := tracked
  have same : resource.status.existing = flag := flagged.now resource current
  subst same
  refine ⟨⟨flagged, fun _ r there => ?_⟩, clean⟩
  cases there.symm.trans current
  rfl

theorem alone_of_attended (e : ManagedEvent Spec returned) (attended : Attended kind e) :
    Alone ObjectStatus.existing e := attended.flag

omit [DecidableEq Spec] in
theorem createObject_failed {s : ManagedWorld Spec Doc}
    {newPolicy : Doc} {err : ApiError} (received : choice.outcome ≠ .lost)
    (failed : (answerCall returned choice s (.createObject policyId newPolicy)).1 = .error err) :
    (answerCall returned choice s (.createObject policyId newPolicy)).2 = s := by
  cases outcome : choice.outcome with
  | served =>
    rw [answer_served outcome, serveCall] at failed ⊢
    cases present : s.objects policyId with
    | some object => rfl
    | none =>
      rw [present] at failed
      cases failed
  | refused fault => rw [answerCall, outcome]
  | lost => exact absurd outcome received

section

variable (stage : Stage kind flag policyId w)

include stage

theorem within_read (op : Call Spec Doc) (started : op ≠ .getResource)
    (resource : op.writesResource = false) (object : op.target = none) :
    Within kind (ask op) (fun _ => Stage kind flag policyId) w :=
  ⟨stage.toFlagged.truthful, fun _ attended => stage.read attended started resource object⟩

theorem within_write (op : Call Spec Doc) (started : op ≠ .getResource)
    (resource : op.writesResource = false) (set : flag ≠ none) :
    Within kind (ask op) (fun _ => Stage kind flag policyId) w :=
  ⟨stage.toFlagged.truthful, fun _ attended => stage.write attended started resource set⟩

theorem within_updateObjectStatus (f : ObjectStatus → ObjectStatus)
    (same : ∀ status, (f status).existing = status.existing) (resource : Resource Spec) :
    Within kind (updateObjectStatus f resource)
      (fun result => Updated (Stage kind flag policyId) f result.1 result.2) w :=
  safe_updateObjectStatus (fun _ stage => stage.toFlagged.truthful) alone_of_attended
    keptByUpdates_stage same resource stage

theorem within_createObject (newPolicy : Doc) : Within kind (ask (.createObject policyId newPolicy))
      (fun reply => Opened kind flag policyId (∃ err, reply = .error err)) w := by
  refine ⟨stage.toFlagged.truthful, fun choice attended => ?_⟩
  refine ⟨stage.toKnown.read attended nofun rfl, fun ⟨err, failed⟩ => ?_⟩
  have unchanged : (w.arrive choice (.createObject policyId newPolicy)).after =
      (w.arrive choice (.createObject policyId newPolicy)).before :=
    createObject_failed (attended.creation rfl) failed
  rw [World.extend_state, unchanged]
  exact fun unmarked => stage.clean (attended.policy unmarked)

theorem within_createMissing (resource : Resource Spec) {newPolicy : Doc} :
    Within kind (createMissing kind resource policyId newPolicy) (fun _ => Settled kind policyId)
      w := by
  apply (within_createObject stage newPolicy).bindOk
  · exact fun err w opened => opened.settled ⟨err, rfl⟩
  intro _ w opened
  apply (opened_apply resource opened.1).bindNone
  · exact fun err w opened => opened.settled nofun
  intro w opened
  apply (within_markOwn resource opened.1).bind
  intro ⟨err, updated⟩ w settled
  cases err <;> exact settled

end

structure Gone (w : ManagedRun Spec returned) : Prop where
  flagged : Flagged none w
  gone : w.state.resource = none

theorem Gone.stage (gone : Gone w) : Stage kind none policyId w := by
  have none_left : ∀ r, r ∉ w.state.resource := fun r there => by cases gone.gone.symm.trans there
  exact ⟨⟨gone.flagged, fun _ r there => absurd there (none_left r)⟩,
    fun ⟨r, there, _⟩ => none_left r there⟩

theorem Gone.extend (gone : Gone w) (attended : Attended kind (w.arrive choice op)) :
    Gone (w.extend (w.arrive choice op)) := by
  have before : ∀ r, r ∉ (w.arrive choice op).before.resource := by
    intro r there
    obtain ⟨earlier, present, _⟩ := attended.flag r there
    cases gone.gone.symm.trans present
  have after : ∀ r, r ∉ (w.arrive choice op).after.resource := by
    intro r there
    cases writes : op.writesResource with
    | false => exact before r (arrive_resource writes ▸ there)
    | true =>
      cases op with
      | updateResource resource =>
        obtain ⟨stored, present, _⟩ := answer_updateResource r there
        exact before stored present
      | updateResourceStatus resource =>
        obtain ⟨stored, present, _⟩ := answer_updateResourceStatus r there
        exact before stored present
      | _ => cases writes
  exact ⟨gone.flagged.extend nofun fun r there => absurd there (after r),
    Option.eq_none_iff_forall_not_mem.mpr after⟩

theorem keeps_gone {α : Type} {program : ManagedProg Spec Doc α} :
    Keeps (Attended kind) Truthful (Gone : ManagedRun Spec returned → Prop) program :=
  keeps_of_calls (fun _ gone => gone.flagged.truthful) program.onlyCalls_any
    fun _ _ _ _ attended gone => gone.extend attended

/-- A policy that is found while the flag is unset is one that the resource has left behind. -/
theorem within_getObject (stage : Stage kind flag policyId w) :
    Within kind (ask (.getObject policyId)) (OkWith (Stage kind flag policyId) fun response w =>
      response.isSome = true → flag = none → Gone w) w := by
  apply safe_asked (.getObject policyId) _ (fun _ stage => stage.toFlagged.truthful) stage
    (fun _ attended => stage.read attended nofun rfl rfl)
  intro choice response attended told found unset
  subst unset
  have stage' := stage.read attended nofun rfl rfl
  have same : (w.extend (w.arrive choice (.getObject policyId))).state =
      (w.arrive choice (.getObject policyId)).before := (answered told).2
  refine ⟨stage'.toFlagged, Option.eq_none_iff_forall_not_mem.mpr fun r there => stage'.clean ?_⟩
  refine ⟨r, there, stage'.now r there, ?_⟩
  rw [stage'.named rfl r there, same]
  have told : Except.ok ((((w.arrive choice (.getObject policyId)).before.objects policyId).map
      fun stored => (⟨{ stored with document := returned policyId stored.document }, policyId⟩ :
        ObjectResponse Doc))) = Except.ok (ε := ApiError) response := (answered told).1
  cases told
  rwa [Option.isSome_map] at found

variable [DecidableEq Doc]

theorem within_reconcileExisting {resource : Resource Spec} {newPolicy : Doc}
    (existingPolicy : ObjectResponse Doc) (stage : Stage kind flag policyId w)
    (current : resource.status.existing = flag) (left : flag = none → Gone w) :
    Within kind (reconcileExisting kind resource newPolicy existingPolicy)
      (fun _ => Settled kind policyId) w := by
  by_cases unset : flag = none
  · exact (keeps_gone w (left unset)).mono fun _ _ gone => ⟨none, gone.stage⟩
  rw [reconcileExisting, if_neg (not_not_intro (current.trans (stage.toFlagged.own unset)))]
  split
  · exact ⟨flag, stage⟩
  apply (within_write stage (.updateObject (kind.nameIn existingPolicy)
    existingPolicy.sequenceNumber existingPolicy.primaryTerm newPolicy) nofun rfl unset).bind
  intro reply w stage
  cases reply <;> exact ⟨flag, stage⟩

theorem within_syncPolicy {resource : Resource Spec} (stage : Stage kind flag policyId w)
    (current : resource.status.existing = flag) :
    Within kind (syncPolicy kind resource policyId) (fun _ => Settled kind policyId) w := by
  rw [syncPolicy]
  split
  · exact ⟨flag, stage⟩
  apply (within_getObject stage).thenOk
  · exact fun _ _ stage => ⟨flag, stage⟩
  intro response w stage left
  cases response with
  | none => exact within_createMissing stage resource
  | some existingPolicy =>
    exact within_reconcileExisting existingPolicy stage current (left rfl)

theorem within_provision (resource : Resource Spec) (tracked : Tracked kind w)
    (current : w.state.resource = some resource) :
    Within kind (provision kind resource) (fun _ => Tracked kind) w := by
  have stage := tracked.stage current
  apply (within_read stage .getCluster nofun rfl rfl).bindOk
  · intro err w stage
    cases err <;> exact stage.tracked
  intro cluster w stage
  dsimp only
  split
  · exact stage.tracked
  apply (within_updateObjectStatus stage (markManaged cluster.uid) (fun _ => rfl) resource).bind
  intro ⟨err, updated⟩ w ⟨stage, current⟩
  cases err with
  | some err => exact stage.tracked
  | none =>
    dsimp only
    split
    · exact stage.tracked
    have stage := stage.tracked.stage (current rfl).1
    apply (within_read stage .createClient nofun rfl rfl).bindOk
    · exact fun _ _ stage => stage.tracked
    intro _ w stage
    apply (within_syncPolicy stage rfl).bind
    exact fun verdict w ⟨_, stage⟩ => stage.tracked

omit [DecidableEq Doc] in
theorem Tracked.somewhere (tracked : Tracked kind w) :
    ∃ flag policyId, Stage kind flag policyId w := by
  cases current : w.state.resource with
  | some resource => exact ⟨_, _, tracked.stage current⟩
  | none =>
    obtain ⟨flag, flagged, clean⟩ := tracked
    exact ⟨flag, "", ⟨flagged, fun _ r there => by cases current.symm.trans there⟩, clean⟩

theorem within_reconcile (resource : Resource Spec) (tracked : Tracked kind w)
    (current : w.state.resource = some resource) :
    Within kind (reconcile kind resource) (fun _ => Tracked kind) w := by
  apply (within_provision resource tracked current).bind
  intro ⟨verdict, policyId⟩ w tracked
  obtain ⟨flag, policyId', stage⟩ := tracked.somewhere
  apply (within_updateObjectStatus stage (recordVerdict kind verdict policyId) (fun _ => rfl)
    resource).bind
  intro _ w ⟨stage, _⟩
  exact stage.tracked

omit [DecidableEq Doc] in
theorem within_delete (resource : Resource Spec) (tracked : Tracked kind w)
    (current : w.state.resource = some resource) :
    Within kind (delete kind resource) (fun _ => Settled kind (kind.policyId resource.spec)) w := by
  have stage := tracked.stage current
  rw [delete]
  split
  · exact ⟨_, stage⟩
  rename_i own
  rw [not_not.mp own] at stage
  apply (within_read stage .getCluster nofun rfl rfl).bindOk
  · intro err w stage
    cases err <;> exact ⟨_, stage⟩
  intro cluster w stage
  dsimp only
  split
  · exact ⟨_, stage⟩
  apply (within_read stage .createClient nofun rfl rfl).bindOk
  · exact fun _ _ stage => ⟨_, stage⟩
  intro _ w stage
  apply (within_write stage (.deleteObject (kind.policyId resource.spec)) nofun rfl (by simp)).bind
  intro reply w stage
  cases reply <;> exact ⟨_, stage⟩

theorem keeps_policyPass :
    Keeps (Attended kind) Truthful (Tracked kind : ManagedRun Spec returned → Prop)
      (policyPass kind) := by
  apply keeps_managedPass (fun spec => Settled kind (kind.policyId spec))
  · exact fun w ⟨flag, flagged, _⟩ => flagged.truthful
  · exact fun spec w ⟨flag, stage⟩ => stage.tracked
  · exact fun resource w tracked current => ⟨_, tracked.stage current⟩
  · intro w choice attended ⟨flag, flagged, clean⟩
    exact ⟨flag, flagged.call attended rfl, clean_read clean attended rfl rfl⟩
  · intro w choice resource attended ⟨flag, stage⟩
    exact (stage.updateResource rfl attended).tracked
  · exact fun resource w tracked current => within_reconcile resource tracked current
  · exact fun resource w tracked current => within_delete resource tracked current

end Programs

section Delivery

def Delivers (policyId : String) (newPolicy : Doc) (e : ManagedEvent Spec returned) : Prop :=
  e.op = .createObject policyId newPolicy ∨ (∃ sequenceNumber primaryTerm,
      e.op = .updateObject policyId sequenceNumber primaryTerm newPolicy) ∨
    e.op = .getObject policyId ∧
      ∃ stored ∈ e.before.objects policyId, returned policyId stored.document = newPolicy

def Delivered (policyId : String) (newPolicy : Doc) (w : ManagedRun Spec returned) : Prop :=
  ∃ e ∈ w.past, Delivers policyId newPolicy e

/-- No call fails, the resource has this spec and is not being deleted, and the cluster that
it refers to is running. -/
@[mk_iff]
structure Faultless (kind : PolicyKind Spec Doc) (spec : Spec) (uid : String)
    (e : ManagedEvent Spec returned) : Prop extends Attended kind e where
  replies : ∀ err, e.reply ≠ .error err
  resource : ∃ r ∈ e.before.resource, r.spec = spec ∧ r.deleting = false ∧
    ∀ owner ∈ r.status.managedCluster, owner = uid
  cluster : ∀ c ∈ e.before.cluster, c.uid = uid ∧ c.phase = "RUNNING"

abbrev Delivering (kind : PolicyKind Spec Doc) (spec : Spec) (uid : String) {α : Type}
    (program : ManagedProg Spec Doc α) (post : α → ManagedRun Spec returned → Prop)
    (w : ManagedRun Spec returned) : Prop :=
  Ends (Faultless kind spec uid) program post w

variable {spec : Spec} {uid : String} {newPolicy : Doc}

theorem delivered_extend (delivered : Delivered policyId newPolicy w)
    {e : ManagedEvent Spec returned} :
    Delivered policyId newPolicy (w.extend e) := by
  obtain ⟨x, happened, delivers⟩ := delivered
  exact ⟨x, List.mem_cons_of_mem _ happened, delivers⟩

theorem keeps_delivered {α : Type} {program : ManagedProg Spec Doc α} :
    Keeps (Faultless kind spec uid) (fun _ => True)
      (Delivered policyId newPolicy : ManagedRun Spec returned → Prop) program :=
  keeps_of_calls (fun _ _ => trivial) program.onlyCalls_any
    fun _ _ _ _ _ delivered => delivered_extend delivered

theorem Within.faultless {α : Type} {program : ManagedProg Spec Doc α}
    {post : α → ManagedRun Spec returned → Prop} (within : Within kind program post w) :
    Delivering kind spec uid program post w :=
  (within.narrow fun _ faultless => faultless.toAttended).weaken fun _ _ => trivial

/-- No call fails, and `fact` is known of the state that it was answered from. -/
theorem delivering_ask (op : Call Spec Doc) (fact : op.Payload → ManagedRun Spec returned → Prop)
    (known : ∀ choice value, Faultless kind spec uid (w.arrive choice op) →
      (answerCall returned choice (w.arrive choice op).before op).1 = .ok value →
      fact value (w.extend (w.arrive choice op))) :
    Delivering kind spec uid (ask op) (fun reply w => ∃ value, reply = .ok value ∧ fact value w)
      w := by
  refine ⟨trivial, fun choice faultless => ?_⟩
  have replies := faultless.replies
  cases told : (answerCall returned choice (w.arrive choice op).before op).1 with
  | error err => exact absurd told (replies err)
  | ok value => exact ⟨value, told, known choice value faultless told⟩

theorem Faultless.only {e : ManagedEvent Spec returned} (faultless : Faultless kind spec uid e)
    {r : Resource Spec} (there : e.before.resource = some r) :
    r.spec = spec ∧ r.deleting = false ∧ ∀ owner ∈ r.status.managedCluster, owner = uid := by
  obtain ⟨other, present, facts⟩ := faultless.resource
  cases present.symm.trans there
  exact facts

theorem delivering_updateObjectStatus {f : ObjectStatus → ObjectStatus} (resource : Resource Spec) :
    Delivering kind spec uid (updateObjectStatus f resource)
      (fun result _ => result.1 = none ∧ result.2.spec = spec) w := by
  have start : True := trivial
  refine safe_retry_restored (fun resource w _ => ?_) (fun _ _ _ => trivial) 4 resource start
  apply (delivering_ask .rereadResource (fun _ _ => True) fun _ _ _ _ => trivial).bind
  rintro _ w ⟨stored, rfl, _⟩
  apply (delivering_ask (.updateResourceStatus { stored with status := f stored.status })
    (fun updated _ => updated.spec = spec) ?_).bind
  · rintro _ w ⟨updated, rfl, same⟩
    exact ⟨rfl, same⟩
  intro choice updated faultless told
  obtain ⟨there, _⟩ := told_updateResourceStatus told
  obtain ⟨before, present, same, _⟩ := answer_updateResourceStatus updated there
  exact same.trans (faultless.only present).1

theorem delivering_createMissing (resource : Resource Spec) :
    Delivering kind spec uid (createMissing kind resource policyId newPolicy)
      (fun _ => Delivered policyId newPolicy) w := by
  have created : Delivering kind spec uid (ask (.createObject policyId newPolicy))
      (fun _ => Delivered policyId newPolicy) w :=
    ⟨trivial, fun _ _ => ⟨_, List.mem_cons_self, Or.inl rfl⟩⟩
  apply created.bind
  intro reply w delivered
  exact keeps_delivered w delivered

variable [DecidableEq Doc]

variable {resource : Resource Spec}

theorem delivering_reconcileExisting {existingPolicy : ObjectResponse Doc}
    (own : resource.status.existing = some false) (named : kind.nameIn existingPolicy = policyId)
    (shown : newPolicy = existingPolicy.document → Delivered policyId newPolicy w) :
    Delivering kind spec uid (reconcileExisting kind resource newPolicy existingPolicy)
      (fun _ => Delivered policyId newPolicy) w := by
  subst named
  rw [reconcileExisting, if_neg (not_not_intro own)]
  split
  · rename_i same
    exact shown same.2
  have updated : Delivering kind spec uid (ask (.updateObject (kind.nameIn existingPolicy)
      existingPolicy.sequenceNumber existingPolicy.primaryTerm newPolicy))
      (fun _ => Delivered (kind.nameIn existingPolicy) newPolicy) w :=
    ⟨trivial, fun _ _ => ⟨_, List.mem_cons_self, Or.inr (Or.inl ⟨_, _, rfl⟩)⟩⟩
  apply updated.bind
  intro reply w delivered
  exact keeps_delivered w delivered

def Shown (kind : PolicyKind Spec Doc) (policyId : String) (response : Option (ObjectResponse Doc))
    (w : ManagedRun Spec kind.returned) : Prop :=
  w.state.resource.isSome = true ∧ ∀ existingPolicy ∈ response,
    kind.nameIn existingPolicy = policyId ∧ Delivered policyId existingPolicy.document w

variable {w : ManagedRun Spec kind.returned}

omit [DecidableEq Doc] in
theorem delivering_getObject : Delivering kind spec uid (ask (.getObject policyId))
      (fun reply w => ∃ response, reply = .ok response ∧ Shown kind policyId response w) w := by
  apply delivering_ask (.getObject policyId)
  intro choice response faultless told
  obtain ⟨told, effect⟩ := answered told
  constructor
  · obtain ⟨r, there, _⟩ := faultless.resource
    have kept : (w.extend (w.arrive choice (.getObject policyId))).state.resource =
      (w.arrive choice (.getObject policyId)).before.resource := congrArg _ effect
    rw [kept]
    exact Option.isSome_of_mem there
  · intro existingPolicy found
    have told : (((w.arrive choice (.getObject policyId)).before.objects policyId).map fun stored =>
        (⟨{ stored with document := kind.returned policyId stored.document }, policyId⟩ :
          ObjectResponse Doc)) = response := Except.ok.inj told
    rw [← told] at found
    obtain ⟨stored, present, rfl⟩ := Option.map_eq_some_iff.mp found
    exact ⟨kind.reported policyId stored, _, List.mem_cons_self,
      Or.inr (Or.inr ⟨rfl, stored, present, rfl⟩)⟩

theorem delivering_syncPolicy (same : resource.spec = spec)
    (generated : kind.document spec = .ok newPolicy)
    (stage : Stage kind resource.status.existing policyId w) :
    Delivering kind spec uid (syncPolicy kind resource policyId)
      (fun _ => Delivered policyId newPolicy) w := by
  rw [syncPolicy, same, generated]
  apply (Safe.and (Within.faultless (within_getObject stage)) delivering_getObject).bind
  rintro _ w ⟨⟨stage, left⟩, response, rfl, present, shown⟩
  cases response with
  | none => exact delivering_createMissing resource
  | some existingPolicy =>
    obtain ⟨named, delivered⟩ := shown existingPolicy rfl
    have own : resource.status.existing = some false := by
      apply stage.toFlagged.own
      intro unset
      rw [(left (some existingPolicy) rfl rfl unset).gone] at present
      cases present
    exact delivering_reconcileExisting own named fun same => same ▸ delivered

theorem delivering_provision (tracked : Tracked kind w) (current : w.state.resource = some resource)
    (owners : ∀ owner ∈ resource.status.managedCluster, owner = uid)
    (generated : kind.document spec = .ok newPolicy) :
    Delivering kind spec uid (provision kind resource)
      (fun _ => Delivered (kind.policyId spec) newPolicy) w := by
  have stage := tracked.stage current
  have running : Delivering kind spec uid (ask .getCluster) (fun reply _ =>
      ∃ cluster, reply = .ok cluster ∧ cluster.uid = uid ∧ cluster.phase = "RUNNING") w := by
    apply delivering_ask .getCluster
    intro choice cluster faultless told
    exact faultless.cluster cluster (found_ok (answered told).1)
  apply (Safe.and (Within.faultless (within_read stage .getCluster nofun rfl rfl)) running).bind
  rintro _ w ⟨stage, cluster, rfl, rfl, phase⟩
  have same : ¬ resource.status.managedCluster.any (· ≠ cluster.uid) = true := by
    rw [Option.any_eq_true]
    rintro ⟨owner, there, different⟩
    exact of_decide_eq_true different (owners owner there)
  dsimp only
  rw [if_neg same]
  apply (Safe.and (Within.faultless (within_updateObjectStatus stage (markManaged cluster.uid)
    (fun _ => rfl) resource)) (delivering_updateObjectStatus resource)).bind
  rintro ⟨_, updated⟩ w ⟨⟨stage, current⟩, rfl, spec_eq⟩
  dsimp only
  rw [if_neg (not_not_intro phase), spec_eq]
  have stage := stage.tracked.stage (current rfl).1
  rw [spec_eq] at stage
  apply (Safe.and (Within.faultless (within_read stage .createClient nofun rfl rfl))
    (delivering_ask .createClient (fun _ _ => True) fun _ _ _ _ => trivial)).bind
  rintro _ w ⟨stage, _, rfl, _⟩
  apply (delivering_syncPolicy spec_eq generated stage).bind
  intro verdict w delivered
  exact delivered

/-- A pass in which no call fails sends the document to OpenSearch unless it is there. -/
theorem delivering_policyPass (tracked : Tracked kind w)
    (generated : kind.document spec = .ok newPolicy) : Delivering kind spec uid (policyPass kind)
      (fun _ => Delivered (kind.policyId spec) newPolicy) w := by
  have read : Delivering kind spec uid (ask .getResource) (fun reply w =>
      ∃ resource, reply = .ok resource ∧ resource.spec = spec ∧ resource.deleting = false ∧
        Settled kind (kind.policyId spec) w) w := by
    apply delivering_ask .getResource
    intro choice resource faultless told
    obtain ⟨told, effect⟩ := answered told
    have there : (w.arrive choice .getResource).before.resource = some resource := found_ok told
    obtain ⟨same, deleting, _⟩ := faultless.only there
    obtain ⟨flag, flagged, clean⟩ := tracked
    have tracked : Tracked kind (w.extend (w.arrive choice .getResource)) :=
      ⟨flag, flagged.call faultless.toAttended rfl, clean_read clean faultless.toAttended rfl rfl⟩
    have current : (w.extend (w.arrive choice .getResource)).state.resource = some resource :=
      (congrArg ManagedWorld.resource effect).trans there
    exact ⟨same, deleting, _, same ▸ tracked.stage current⟩
  apply read.bind
  rintro _ w ⟨resource, rfl, same, deleting, flag, stage⟩
  have ongoing : (!resource.deleting) = true := by
    rw [deleting]
    rfl
  dsimp only
  rw [if_pos ongoing]
  have updated : Delivering kind spec uid
      (ask (.updateResource { resource with finalizer := true }))
      (fun reply w => ∃ stored, reply = .ok stored ∧ w.state.resource = some stored ∧
        Tracked kind w ∧ ∀ owner ∈ stored.status.managedCluster, owner = uid) w := by
    apply delivering_ask (.updateResource { resource with finalizer := true })
    intro choice stored faultless told
    have there := told_updateResource rfl told
    obtain ⟨before, present, status, _⟩ := answer_updateResource stored there
    have kept : Stage kind flag (kind.policyId spec) (w.extend (w.arrive choice
        (.updateResource { resource with finalizer := true }))) :=
      stage.updateResource (congrArg kind.policyId same) faultless.toAttended
    refine ⟨there, kept.tracked, ?_⟩
    rw [status]
    exact (faultless.only present).2.2
  apply updated.bind
  rintro _ w ⟨stored, rfl, current, tracked, owners⟩
  have provided := delivering_provision tracked current owners generated
  apply (Safe.bind provided fun _ w delivered => keeps_delivered w delivered).bind
  intro verdict w delivered
  exact delivered

end Delivery

def anew (w : ManagedRun Spec returned) : ManagedRun Spec returned := ⟨w.state, []⟩

theorem Tracked.anew (tracked : Tracked kind w) : Tracked kind (anew w) := by
  obtain ⟨flag, flagged, clean⟩ := tracked
  exact ⟨flag, ⟨flagged.now, flagged.never, fun _ happened => absurd happened List.not_mem_nil⟩,
    clean⟩

theorem Tracked.never (tracked : Tracked kind w) :
    ∀ e ∈ w.past, ∀ r ∈ e.after.resource, r.status.existing ≠ some true := by
  obtain ⟨flag, flagged, _⟩ := tracked
  exact flagged.history

theorem tracked_runs [DecidableEq Doc] {start : ManagedRun Spec returned}
    {passes : List (List (ManagedChoice Spec Doc))} (tracked : Tracked kind start)
    (cuts : CutsOnly (policyPass kind) (fun w => ¬ Unmarked kind w.state) passes start)
    (attended : ∀ e ∈ (runs (policyPass kind) passes start).past, Attended kind e) :
    Tracked kind (runs (policyPass kind) passes start) := by
  apply runs_restore keeps_policyPass _ passes start tracked cuts attended
  intro w ⟨flag, flagged⟩ clean
  exact ⟨flag, flagged, clean⟩

/-- As long as a policy that has just been created is attended to, the flag never says that it
was there before, and a pass in which no call fails delivers what the spec asks for. -/
theorem own_policies_recognised [DecidableEq Doc] (kind : PolicyKind Spec Doc)
    (start : ManagedRun Spec kind.returned) (passes : List (List (ManagedChoice Spec Doc)))
    (fresh : start.past = []) (unset : ∀ r ∈ start.state.resource, r.status.existing = none)
    (missing : ¬ Unmarked kind start.state)
    (cuts : CutsOnly (policyPass kind) (fun w => ¬ Unmarked kind w.state) passes start)
    (attended : ∀ e ∈ (runs (policyPass kind) passes start).past, Attended kind e) :
    (∀ e ∈ (runs (policyPass kind) passes start).past, ∀ r ∈ e.after.resource,
      r.status.existing ≠ some true) ∧
    ∀ spec newPolicy uid choices handled, kind.document spec = .ok newPolicy →
      (∀ e ∈ (exec (policyPass kind) choices (anew (runs (policyPass kind) passes start))).2.past,
        Faultless kind spec uid e) →
      (exec (policyPass kind) choices (anew (runs (policyPass kind) passes start))).1 =
        some handled →
      ∃ e ∈ (exec (policyPass kind) choices (anew (runs (policyPass kind) passes start))).2.past,
        Delivers (kind.policyId spec) newPolicy e := by
  have flagged : Flagged none start := by
    refine ⟨unset, nofun, ?_⟩
    rw [fresh]
    exact fun _ happened => absurd happened List.not_mem_nil
  have tracked := tracked_runs ⟨none, flagged, missing⟩ cuts attended
  refine ⟨tracked.never, ?_⟩
  intro spec newPolicy uid choices handled generated faultless done
  have delivering : Delivering kind spec uid (policyPass kind)
      (fun _ => Delivered (kind.policyId spec) newPolicy) _ :=
    delivering_policyPass tracked.anew generated
  exact (delivering.outcome choices faultless).1 handled done

section Runs

abbrev Document := String × String

def named (name : String) (document : Document) : Document := (name, document.2)

def scheduled (schedule : String) : Document := ("logs", schedule)

abbrev rotation : PolicyKind String Document :=
  ismPolicies "logs" (fun _ => "") (fun schedule => .ok (scheduled schedule)) (fun _ => []) named

abbrev backups : PolicyKind String Document :=
  snapshotPolicies "backup" (fun _ => "logs") scheduled Prod.fst named fun _ _ => rfl

def unmarkedPass : List (ManagedChoice String Document) :=
  quietPass.take 9 ++ { outcome := .refused .unavailable } :: quietPass

def editedPass (schedule : String) : List (ManagedChoice String Document) :=
  { others := fun s => { s with resource := s.resource.map fun r => { r with spec := schedule } } }
    :: quietPass

def unreconciled (kind : PolicyKind String Document) : ManagedRun String kind.returned :=
  ⟨{ resource := some { spec := "daily" }, cluster := some ⟨"cluster", "RUNNING", false⟩
     objects := fun _ => none }, []⟩

abbrev policyRun (kind : PolicyKind String Document)
    (passes : List (List (ManagedChoice String Document))) : ManagedRun String kind.returned :=
  runs (policyPass kind) passes (unreconciled kind)

abbrev nextPass (kind : PolicyKind String Document)
    (passes : List (List (ManagedChoice String Document)))
    (choices : List (ManagedChoice String Document)) :
    Option Handled × ManagedRun String kind.returned :=
  exec (policyPass kind) choices (anew (policyRun kind passes))

instance (kind : PolicyKind String Document) (s : ManagedWorld String Document) :
    Decidable (Unmarked kind s) :=
  inferInstanceAs (Decidable (∃ r ∈ s.resource, _ ∧ _))

instance (kind : PolicyKind String Document) (e : ManagedEvent String kind.returned) :
    Decidable (Attended kind e) :=
  decidable_of_iff' _ (attended_iff ..)

instance (kind : PolicyKind String Document) (e : ManagedEvent String kind.returned) :
    Decidable (∀ err, e.reply ≠ .error err) :=
  match e.reply with
  | .ok _ => isTrue nofun
  | .error err => isFalse fun none => none err rfl

instance (kind : PolicyKind String Document) (schedule uid : String)
    (e : ManagedEvent String kind.returned) : Decidable (Faultless kind schedule uid e) :=
  decidable_of_iff' _ (faultless_iff ..)

/-- A policy that is marked in its first pass gets the schedule of a later edit. -/
theorem rotation_recognised :
    (policyRun rotation [quietPass]).state.resource.map (·.status.existing) = some (some false) ∧
    (∀ e ∈ (policyRun rotation [quietPass]).past, ∀ r ∈ e.after.resource,
      r.status.existing ≠ some true) ∧
    ∃ e ∈ (nextPass rotation [quietPass] (editedPass "weekly")).2.past,
      Delivers "logs" (scheduled "weekly") e := by
  have attended : ∀ e ∈ (policyRun rotation [quietPass]).past, Attended rotation e := by
    decide +kernel
  have cuts : CutsOnly (policyPass rotation) (fun w => ¬ Unmarked rotation w.state) [quietPass]
      (unreconciled rotation) := by
    decide +kernel
  have recognised := own_policies_recognised rotation (unreconciled rotation) [quietPass] rfl
    (by decide) (by decide) cuts attended
  have faultless : ∀ e ∈ (nextPass rotation [quietPass] (editedPass "weekly")).2.past,
      Faultless rotation "weekly" "cluster" e := by
    decide +kernel
  have done : (nextPass rotation [quietPass] (editedPass "weekly")).1.isSome = true := by
    decide +kernel
  obtain ⟨handled, returned⟩ := Option.isSome_iff_exists.mp done
  refine ⟨by decide +kernel, recognised.1, ?_⟩
  exact recognised.2 "weekly" (scheduled "weekly") "cluster" (editedPass "weekly") handled rfl
    faultless returned

/-- One failed status update makes the operator take its own policy for somebody else's, and a
later edit is not sent in a pass in which no call fails. -/
def Disowned (kind : PolicyKind String Document) : Prop :=
  (∀ e ∈ (policyRun kind [unmarkedPass, quietPass]).past,
    Alone ObjectStatus.existing e ∧ (Unmarked kind e.before → Unmarked kind e.prior)) ∧
  (policyRun kind [unmarkedPass, quietPass]).state.resource.map (·.status.existing) =
    some (some true) ∧
  (nextPass kind [unmarkedPass, quietPass] (editedPass "weekly")).1.isSome = true ∧
  ((nextPass kind [unmarkedPass, quietPass] (editedPass "weekly")).2.state.objects "logs").map
    (·.document) = some (scheduled "daily") ∧
  ∀ e ∈ (nextPass kind [unmarkedPass, quietPass] (editedPass "weekly")).2.past,
    (∀ err, e.reply ≠ .error err) ∧ e.op.target = none

theorem own_policies_disowned : Disowned rotation ∧ Disowned backups := by
  constructor
  · rw [Disowned]
    decide +kernel
  · rw [Disowned]
    decide +kernel

end Runs

end OpenSearchOperator.Managed.PolicyRecognition
