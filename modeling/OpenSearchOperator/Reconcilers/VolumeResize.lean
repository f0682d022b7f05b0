import Mathlib.Tactic.MkIffOfInductiveProp
import OpenSearchOperator.Api.Served
import OpenSearchOperator.Effects.Calls
import OpenSearchOperator.Reconcilers.PoolSize

/-! The resizing of a pool's volumes: the StatefulSet is deleted, its claims are
enlarged one by one, and the StatefulSet comes back with a larger template. -/

namespace OpenSearchOperator.Reconcilers.Cluster

open Api Data Effects
open Helpers

def claimName (cluster pool : String) (i : Nat) : String :=
  ordinalName ("data-" ++ cluster ++ "-" ++ pool) i

def claimFailed : (op : Call) → op.Reply → Bool
  | .request (.getPVC _), .error _ => true
  | .request (.updatePVC _), .error _ => true
  | _, _ => false

def deletesSet : Call → Bool
  | .request (.deleteStatefulSet _ _) => true
  | _ => false

def recreates (name : String) : Call → Bool
  | .note (.recreate sts _) => sts == name
  | _ => false

/-- What has to hold of a call for a resize to go through: others leave the claims'
requests and a StatefulSet that is not being deleted alone; the StatefulSet is not
recreated for its selector or for the parallel mode, nor leaves that mode; requests
for claims are answered, and so is a deletion. -/
structure Unhindered (name : String) (e : ApiEvent) : Prop where
  claims : ∀ claim, (e.before.claims.get claim).map PersistentVolumeClaim.storage =
    (e.prior.claims.get claim).map PersistentVolumeClaim.storage
  sets : ∀ sts, e.prior.statefulSets.get name = some sts → sts.deleting = false →
    ∃ same, e.before.statefulSets.get name = some same ∧ same.deleting = false ∧
      same.replicas = sts.replicas ∧ same.volumeClaimTemplates = sts.volumeClaimTemplates
  ordered : ∀ sts, e.before.statefulSets.get name = some sts →
    sts.podManagementPolicy = .orderedReady
  kept : recreates name e.op = false
  answered : claimFailed e.op e.reply = false
  deletion : deletesSet e.op = true → e.choice.outcome ≠ .lost

section Claims

def Enlarged (size : Nat) (claim : String) (w : ApiWorld) : Prop :=
  (w.state.claims.get claim).map PersistentVolumeClaim.storage = some size

instance (size : Nat) (claim : String) (w : ApiWorld) : Decidable (Enlarged size claim w) :=
  inferInstanceAs (Decidable (_ = _))

def Enlarges (size : Nat) (op : Call) : Prop :=
  Leaves .claims op ∨ ∃ pvc : PersistentVolumeClaim,
    op = .request (.updatePVC pvc) ∧ pvc.storage = size

variable {name claim : String} {size : Nat} {w : ApiWorld} {op : Call} {choice : Choice} {s : State}

theorem serve_claims (s : State) {req : Request} (leaves : Leaves .claims (.request req)) :
    (serve s req).2.claims = s.claims := by
  cases req with
  | updatePVC pvc => exact absurd rfl leaves
  | putClusterSettings settings => cases settings <;> rfl
  | _ =>
    rw [serve]
    repeat' split
    all_goals rfl

theorem answer_claims (choice : Choice) (s : State) (leaves : Leaves .claims op) :
    (answer choice s op).2.claims = s.claims := by
  apply answer_keeps choice s op (·.claims = s.claims) rfl
  rintro req rfl
  exact serve_claims s leaves

theorem serve_updatePVC (s : State) (pvc : PersistentVolumeClaim) :
    serve s (.updatePVC pvc) = (.error .notFound, s) ∨
      serve s (.updatePVC pvc) = (.ok (), { s with claims := s.claims.put pvc }) := by
  rw [serve]
  split
  · exact Or.inl rfl
  · exact Or.inr rfl

theorem put_enlarges {pvc : PersistentVolumeClaim} (larger : pvc.storage = size)
    (fits : claim = pvc.name ∨ (s.claims.get claim).map PersistentVolumeClaim.storage = some size) :
    ((s.claims.put pvc).get claim).map PersistentVolumeClaim.storage = some size := by
  rw [Store.get_put]
  by_cases same : claim = pvc.name
  · rw [if_pos same, Option.map_some, larger]
  · rw [if_neg same]
    exact fits.resolve_left same

theorem answer_enlarges (choice : Choice) (enlarges : Enlarges size op)
    (fits : (s.claims.get claim).map PersistentVolumeClaim.storage = some size) :
    ((answer choice s op).2.claims.get claim).map PersistentVolumeClaim.storage = some size := by
  rcases enlarges with leaves | ⟨sent, rfl, larger⟩
  · rw [answer_claims choice s leaves]
    exact fits
  apply answer_keeps choice s _ (fun t => (t.claims.get claim).map _ = some size) fits
  intro req same
  cases same
  rcases serve_updatePVC s sent with rejected | accepted
  · rw [rejected]
    exact fits
  · rw [accepted]
    exact put_enlarges larger (Or.inr fits)

theorem Enlarged.event (enlarged : Enlarged size claim w)
    (unhindered : Unhindered name (w.arrive choice op)) (enlarges : Enlarges size op) :
    Enlarged size claim (w.extend (w.arrive choice op)) :=
  answer_enlarges choice enlarges ((unhindered.claims claim).trans enlarged)

def AllEnlarged (size : Nat) (claims : List String) (w : ApiWorld) : Prop :=
  ∀ claim ∈ claims, Enlarged size claim w

variable {claims : List String}

theorem AllEnlarged.event (all : AllEnlarged size claims w)
    (unhindered : Unhindered name (w.arrive choice op)) (enlarges : Enlarges size op) :
    AllEnlarged size claims (w.extend (w.arrive choice op)) :=
  fun claim member => (all claim member).event unhindered enlarges

theorem keeps_enlarged {α : Type} {program : Prog α} (only : program.OnlyCalls (Enlarges size)) :
    Keeps (Unhindered name) (fun _ => True) (AllEnlarged size claims) program :=
  keeps_of_calls (fun _ _ => trivial) only fun _ _ _ enlarges unhindered all =>
    all.event unhindered enlarges

theorem safe_getClaim (all : AllEnlarged size claims w) :
    Ends (Unhindered name) (getPVC claim) (fun reply w =>
      (∃ pvc, reply = .ok pvc ∧ pvc.name = claim) ∧ AllEnlarged size claims w) w := by
  apply safe_request _ trivial
  intro choice e unhindered
  have answered : claimFailed (.request (.getPVC claim)) (replied w choice (.getPVC claim)) =
      false :=
    unhindered.answered
  refine ⟨?_, all.event unhindered (Or.inl nofun)⟩
  cases reply : replied w choice (.getPVC claim) with
  | error err =>
    rw [reply] at answered
    cases answered
  | ok pvc =>
    exact ⟨pvc, reply, Store.get_key _ _ _ (found_ok (congrArg Prod.fst (request_answered reply)))⟩

theorem safe_updateClaim (pvc : PersistentVolumeClaim) (larger : pvc.storage = size)
    (all : AllEnlarged size claims w) : Ends (Unhindered name) (updatePVC pvc) (fun reply w =>
      reply = .ok () ∧ AllEnlarged size (pvc.name :: claims) w) w := by
  apply safe_request _ trivial
  intro choice e unhindered
  have answered : claimFailed (.request (.updatePVC pvc)) (replied w choice (.updatePVC pvc)) =
      false := unhindered.answered
  have others : AllEnlarged size claims (w.extend e) :=
    all.event unhindered (Or.inr ⟨pvc, rfl, larger⟩)
  cases reply : replied w choice (.updatePVC pvc) with
  | error err =>
    rw [reply] at answered
    cases answered
  | ok _ =>
    refine ⟨reply, List.forall_mem_cons.mpr ⟨?_, others⟩⟩
    have served := request_answered reply
    rcases serve_updatePVC e.before pvc with rejected | accepted
    · cases (congrArg Prod.fst rejected).symm.trans (congrArg Prod.fst served)
    have after := congrArg Prod.snd (accepted.symm.trans served)
    change (e.after.claims.get pvc.name).map PersistentVolumeClaim.storage = some size
    rw [show e.after = _ from after.symm]
    exact put_enlarges larger (Or.inl rfl)

/-- The loop over the claims reaches its end and leaves all of them enlarged. -/
theorem safe_resizeClaims (cr : OpenSearchCluster) (nodePool : NodePool)
    (disk : nodePoolDiskSize nodePool = size) (ordinals : List Nat) (claims : List String)
    (w : ApiWorld) (all : AllEnlarged size claims w) :
    Ends (Unhindered name) (resizeClaims cr nodePool ordinals) (fun _ =>
      AllEnlarged size (claims ++ ordinals.map (claimName cr.name nodePool.component))) w := by
  induction ordinals generalizing claims w with
  | nil =>
    rw [List.map_nil, List.append_nil]
    exact all
  | cons i rest ih =>
    apply (safe_getClaim all).bind
    intro reply w ⟨⟨pvc, read, named⟩, all⟩
    subst read
    apply (safe_updateClaim { pvc with storage := nodePoolDiskSize nodePool } disk all).bind
    intro reply w ⟨accepted, all⟩
    subst accepted
    apply (ih _ w all).mono
    intro _ w all claim member
    apply all claim
    simp only [List.map_cons, List.mem_append, List.mem_cons] at member ⊢
    rcases member with old | new | later
    · exact Or.inl (Or.inr old)
    · exact Or.inl (Or.inl (new.trans named.symm))
    · exact Or.inr later

section

variable {nodePool : NodePool} (disk : nodePoolDiskSize nodePool = size)

include disk

theorem maintains_enlarges : Maintains (Enlarges size) nodePool where
  reads := fun _ reads => Or.inl (by simp [reads.changes])
  deletes := fun _ _ => Or.inl nofun
  relabels := fun _ _ => Or.inl nofun
  status := fun _ => Or.inl nofun
  resizes := fun pvc same => Or.inr ⟨pvc, rfl, same.trans disk⟩

omit disk in
theorem sends_enlarges : Sends (Enlarges size) := fun _ => ⟨Or.inl nofun, Or.inl nofun⟩

theorem enlarges_recreate {sts : StatefulSet} (existing : StatefulSet) :
    (updateOrphanedPodLabels existing sts >>= fun _ => enforceDesired existing sts).OnlyCalls
      (Enlarges size) :=
  ((maintains_enlarges disk).updateOrphanedPodLabels existing sts).bind
    fun _ => (maintains_enlarges disk).enforceDesired sends_enlarges existing sts

end

end Claims

section Pass

variable {name : String} {K P : ApiWorld → Prop} {good : StatefulSet → Prop}

/-- `K` stays while the StatefulSet is only read and created, and says enough about
the stored one for it to be `good`. -/
structure Known (name : String) (K : ApiWorld → Prop) (good : StatefulSet → Prop) : Prop where
  stable : Stable (Unhindered name) K
  stored : ∀ w sts, K w → Witnessed (Unhindered name) w.state →
    w.state.statefulSets.get name = some sts → good sts
  ordered : ∀ sts, good sts → sts.podManagementPolicy = .orderedReady
  status : ∀ sts status, good sts → good { sts with status := status }
  created : ∀ w choice sts, sts.name = name → K w →
    Unhindered name (asked w choice (.createStatefulSet sts)) →
    K (w.extend (asked w choice (.createStatefulSet sts)))

theorem Known.createIfNotExist (known : Known name K good) (desired : StatefulSet)
    (named : desired.name = name) :
    Keeps (Unhindered name) (fun _ => True) K (createIfNotExist desired) := by
  have only : (Reconcilers.createIfNotExist desired).OnlyCalls
      (fun op : Call => Reads op ∨ op = .request (.createStatefulSet desired)) :=
    onlyCalls_createIfNotExist (fun _ => Or.inl rfl) (Or.inr rfl)
  apply keeps_of_calls (fun _ _ => trivial) only
  intro w choice op allowed unhindered holds
  rcases allowed with reads | rfl
  · exact known.stable w choice op unhindered holds (reads.quiet.after_eq w choice)
  · exact known.created w choice desired named holds unhindered

theorem Known.reconcileCreated (known : Known name K good) (desired : StatefulSet)
    (named : desired.name = name) (w : ApiWorld) (holds : K w) :
    Ends (Unhindered name) (reconcileResource desired .created)
      (fun result w => K w ∧ result.2.2.name = name) w := by
  apply (known.createIfNotExist desired named w holds).bind
  intro result w kept
  match result with
  | .error err => exact ⟨kept, named⟩
  | .ok none => exact ⟨kept, named⟩
  | .ok (some _) => exact ⟨kept, named⟩

theorem safe_recreate (desired : Int) {α : Type} {rest : Unit → Prog α}
    {post : α → ApiWorld → Prop} (w : ApiWorld) :
    Ends (Unhindered name) (note (.recreate name desired) >>= rest) post w := by
  refine ⟨trivial, fun choice unhindered => ?_⟩
  have kept : recreates name (.note (.recreate name desired)) = false := unhindered.kept
  simp [recreates] at kept

theorem Known.fixSelector (_ : Known name K good) (existing sts : StatefulSet)
    (named : sts.name = name) (w : ApiWorld) (holds : K w) :
    Ends (Unhindered name) (fixSelector existing sts)
      (fun step w => K w ∧ ∀ sts, step = .ok sts → sts.name = name) w := by
  rw [Cluster.fixSelector]
  split
  · rw [named]
    exact safe_recreate sts.replicas w
  · exact ⟨holds, fun _ same => Except.ok.inj same ▸ named⟩

theorem Known.decideRecovery (known : Known name K good) (cr : OpenSearchCluster)
    (nodePool : NodePool) (existing sts : StatefulSet) (fine : good existing)
    (named : sts.name = name) (w : ApiWorld) (holds : K w) :
    Ends (Unhindered name) (decideRecovery cr nodePool existing sts)
      (fun step w => K w ∧ ∀ existing, step = .ok existing → good existing) w := by
  apply (safe_reads (reads_readyReplicas nodePool) known.stable (fun _ _ => trivial) holds).bindOk
  · exact fun _ _ kept => ⟨kept, fun _ impossible => by cases impossible⟩
  intro ready w kept
  let counted : StatefulSet :=
    { existing with status := { existing.status with readyReplicas := ready } }
  have same : ∀ other : StatefulSet,
      (Except.ok counted : Step StatefulSet) = .ok other → good other :=
    fun _ same => Except.ok.inj same ▸ known.status existing _ fine
  apply (safe_reads (reads_countPVCs nodePool) known.stable (fun _ _ => trivial) kept).bindOk
  · exact fun _ _ kept => ⟨kept, same⟩
  intro pvcCount w kept
  have notParallel : existing.podManagementPolicy ≠ .parallel := by
    rw [known.ordered existing fine]
    nofun
  simp only [if_pos notParallel, if_neg notParallel]
  split
  · rw [switchToParallel, named]
    exact safe_recreate sts.replicas w
  · exact ⟨kept, same⟩

theorem Known.parallelRecovery (known : Known name K good) (enabled : Bool)
    (cr : OpenSearchCluster) (nodePool : NodePool) (existing sts : StatefulSet)
    (fine : good existing) (stored : existing.name = name) (named : sts.name = name)
    (w : ApiWorld) (holds : K w) :
    Ends (Unhindered name) (parallelRecovery enabled cr nodePool existing sts)
      (fun step w => K w ∧ ∀ existing, step = .ok existing → good existing) w := by
  rw [Cluster.parallelRecovery]
  split
  · split
    · have waited : ∀ w sts, K w → Witnessed (Unhindered name) w.state →
          w.state.statefulSets.get existing.name = some sts → good sts := by
        rw [stored]
        exact known.stored
      apply (safe_waitForSTSStatus existing waited (fun _ _ => trivial) known.stable holds).bindOk
      · rintro err w ⟨kept, read⟩
        exact ⟨kept, fun _ impossible => by cases impossible⟩
      rintro new w ⟨kept, read⟩
      exact known.decideRecovery cr nodePool new sts (read new rfl) named w kept
    · exact known.decideRecovery cr nodePool existing sts fine named w holds
  · exact ⟨holds, fun _ same => Except.ok.inj same ▸ fine⟩

theorem Known.reconcileNodeStatefulSet (known : Known name K good) (enabled : Bool)
    (cr : OpenSearchCluster) (nodePool : NodePool) (named : stsName cr nodePool = name)
    (implied : ∀ w, K w → P w) (update : ∀ existing sts w, good existing → K w →
      Ends (Unhindered name) (updateNodeStatefulSet cr nodePool existing sts) (fun _ => P) w)
    (w : ApiWorld) (holds : K w) :
    Ends (Unhindered name) (reconcileNodeStatefulSet enabled cr nodePool) (fun _ => P) w := by
  have asks : ∀ op, Reads op →
      Keeps (Unhindered name) (fun _ => True) K (Program.ask (I := api) op) :=
    fun op reads w holds => safe_reads (onlyCalls_asked reads) known.stable
      (fun _ _ => trivial) holds
  apply (asks _ rfl w holds).bind
  intro hash w kept
  cases hash with
  | none => exact implied w kept
  | some configHash =>
    apply (asks _ rfl w kept).bind
    intro _ w kept
    apply (known.reconcileCreated (newSTSForNodePool cr nodePool configHash) named w kept).bind
    intro reconciled w ⟨kept, same⟩
    match reconciled, same with
    | (some result, err, sts), _ => exact implied w kept
    | (none, some err, sts), _ => exact implied w kept
    | (none, none, sts), same =>
      apply (safe_getStatefulSet sts.name known.stable (fun _ _ => trivial) kept).bind
      intro reply w ⟨kept, witnessed, answered⟩
      rcases answered with ⟨err, rfl, _⟩ | ⟨existing, rfl, there⟩
      · exact implied w kept
      have key : existing.name = name := (Store.get_key _ _ _ there).trans same
      have fine : good existing := known.stored w existing kept witnessed (same ▸ there)
      apply (known.fixSelector existing sts same w kept).bindOk
      · intro returned w ⟨kept, same⟩
        exact implied w kept
      intro sts w ⟨kept, same⟩
      apply (known.parallelRecovery enabled cr nodePool existing sts fine key
        (same sts rfl) w kept).bindOk
      · intro returned w ⟨kept, fine⟩
        exact implied w kept
      intro existing w ⟨kept, fine⟩
      exact update existing sts w (fine existing rfl) kept

end Pass

section Resize

/-- A StatefulSet that stands, with so many replicas, whose template has another size. -/
structure Due (size : Nat) (replicas : Int) (sts : StatefulSet) : Prop where
  alive : sts.deleting = false
  replicas : sts.replicas = replicas
  template : ∃ old rest, sts.volumeClaimTemplates = old :: rest ∧ old ≠ size

def Pending (name : String) (size : Nat) (replicas : Int) (w : ApiWorld) : Prop :=
  ∃ sts, w.state.statefulSets.get name = some sts ∧ Due size replicas sts

def claimNames (cluster pool : String) (replicas : Int) : List String :=
  (List.range replicas.toNat).map (claimName cluster pool)

variable {name cluster pool : String} {size : Nat} {replicas : Int} {claims : List String}
  {w : ApiWorld}

theorem stable_allEnlarged : Stable (Unhindered name) (AllEnlarged size claims) := by
  intro w choice op unhindered all unchanged claim member
  rw [Enlarged, World.extend_state, unchanged]
  exact (unhindered.claims claim).trans (all claim member)

theorem stable_pending : Stable (Unhindered name) (Pending name size replicas) := by
  intro w choice op unhindered ⟨sts, stored, due⟩ unchanged
  obtain ⟨same, there, alive, count, template⟩ := unhindered.sets sts stored due.alive
  refine ⟨same, ?_, alive, count.trans due.replicas, ?_⟩
  · rw [World.extend_state, unchanged]
    exact there
  · rw [template]
    exact due.template

theorem known_enlarged : Known name (AllEnlarged size claims)
    (fun sts => sts.podManagementPolicy = .orderedReady) where
  stable := stable_allEnlarged
  stored := by
    intro w sts _ ⟨e, unhindered, same⟩ stored
    rw [← same] at stored
    exact unhindered.ordered sts stored
  ordered _ fine := fine
  status _ _ fine := fine
  created _ _ _ _ all unhindered := all.event unhindered (Or.inl nofun)

theorem known_pending : Known name (Pending name size replicas)
    (fun sts => sts.podManagementPolicy = .orderedReady ∧ Due size replicas sts) where
  stable := stable_pending
  stored := by
    intro w sts ⟨other, there, due⟩ ⟨e, unhindered, same⟩ stored
    have equal : other = sts := Option.some.inj (there.symm.trans stored)
    rw [← same] at stored
    exact ⟨unhindered.ordered sts stored, equal ▸ due⟩
  ordered _ fine := fine.1
  status _ _ fine := ⟨fine.1, fine.2.alive, fine.2.replicas, fine.2.template⟩
  created := by
    -- The StatefulSet is there, so that there is nothing to create.
    intro w choice sts named pending unhindered
    let e : ApiEvent := asked w choice (.createStatefulSet sts)
    have unchanged : e.after = e.before := by
      obtain ⟨old, stored, due⟩ := pending
      obtain ⟨same, there, _⟩ := unhindered.sets old stored due.alive
      have exists_ : serve e.before (.createStatefulSet sts) =
          (.error .alreadyExists, e.before) := by
        rw [serve, named, there]
      apply answer_keeps choice _ (.request (.createStatefulSet sts)) (· = _) rfl
      intro _ same
      cases same
      exact congrArg Prod.snd exists_
    exact stable_pending w choice _ unhindered pending unchanged

/-- Where the resize has got to between the calls of `reconcileNodeStatefulSet`. -/
def InHand (cluster pool : String) (size : Nat) (replicas : Int) (w : ApiWorld) : Prop :=
  AllEnlarged size (claimNames cluster pool replicas) w ∨
    Pending (cluster ++ "-" ++ pool) size replicas w

theorem safe_orphaningDelete (existing : StatefulSet) (pending : Pending name size replicas w) :
    Ends (Unhindered name) (deleteSTSWithOrphan existing)
      (fun err w => err = none ∨ Pending name size replicas w) w := by
  have asked : Ends (Unhindered name) (deleteStatefulSet existing.name .orphan)
      (fun reply w => reply = .ok () ∨ Pending name size replicas w) w := by
    apply safe_request _ trivial
    intro choice e unhindered
    apply (request_received (unhindered.deletion rfl) ?_).imp_right
      (stable_pending w choice _ unhindered pending)
    intro s
    rw [serve]
    split
    · exact Or.inr rfl
    · exact Or.inl rfl
  apply asked.bindOk
  · exact fun _ _ outcome => Or.inr (outcome.resolve_left (by simp))
  intro _ w outcome
  exact Or.inl rfl

theorem safe_maybeUpdateVolumes (cr : OpenSearchCluster) {existing : StatefulSet}
    {nodePool : NodePool} (disk : nodePoolDiskSize nodePool = size)
    (due : Due size replicas existing) (pending : Pending name size replicas w) :
    Ends (Unhindered name) (maybeUpdateVolumes cr existing nodePool)
      (fun err w => AllEnlarged size (claimNames cr.name nodePool.component replicas) w ∨
        (err ≠ none ∧ Pending name size replicas w)) w := by
  obtain ⟨old, rest, template, different⟩ := due.template
  rw [maybeUpdateVolumes, template]
  have larger : ¬ old = nodePoolDiskSize nodePool := by
    rw [disk]
    exact different
  simp only [if_neg larger]
  apply (safe_orphaningDelete existing pending).bindNone
  · exact fun _ _ outcome => Or.inr ⟨nofun, outcome.resolve_left nofun⟩
  intro w outcome
  rw [due.replicas]
  apply (safe_resizeClaims cr nodePool disk (List.range replicas.toNat) [] w nofun).mono
  intro _ w all
  exact Or.inl all

/-- A call of `reconcileNodeStatefulSet` for a pool of a cluster whose volumes shall
have the given size. -/
structure Sync (cluster pool : String) (size : Nat) where
  enabled : Bool
  cr : OpenSearchCluster
  nodePool : NodePool
  choices : List Choice
  clusterName : cr.name = cluster
  component : nodePool.component = pool
  disk : nodePoolDiskSize nodePool = size
  persistent : usesPVC nodePool = true

def Sync.program (sync : Sync cluster pool size) : Prog (Option Result × Option Failure) :=
  reconcileNodeStatefulSet sync.enabled sync.cr sync.nodePool

theorem Sync.safe_updatePending (sync : Sync cluster pool size) (existing sts : StatefulSet)
    (due : Due size replicas existing) (w : ApiWorld)
    (pending : Pending (cluster ++ "-" ++ pool) size replicas w) :
    Ends (Unhindered (cluster ++ "-" ++ pool))
      (updateNodeStatefulSet sync.cr sync.nodePool existing sts)
      (fun _ => InHand cluster pool size replicas) w := by
  let chore : Call := .chore (.podDisruptionBudget sync.nodePool.component)
  have reads : (Program.ask (I := api) chore).OnlyCalls Reads := onlyCalls_asked rfl
  apply (safe_reads reads stable_pending (fun _ _ => trivial) pending).bind
  intro (result, err) w pending
  cases err with
  | some err => exact Or.inr pending
  | none =>
    have names : claimNames sync.cr.name sync.nodePool.component replicas =
        claimNames cluster pool replicas := by rw [sync.clusterName, sync.component]
    simp only [sync.persistent, if_true]
    apply (safe_maybeUpdateVolumes sync.cr sync.disk due pending).bind
    intro err w outcome
    rw [names] at outcome
    cases err with
    | some err => exact outcome.imp_right And.right
    | none =>
      have all := outcome.resolve_right fun failed => failed.1 rfl
      apply (keeps_enlarged (enlarges_recreate sync.disk existing) w all).mono
      intro _ w all
      exact Or.inl all

theorem Sync.keepsInHand (sync : Sync cluster pool size) (w : ApiWorld)
    (inHand : InHand cluster pool size replicas w) :
    Ends (Unhindered (cluster ++ "-" ++ pool)) sync.program
      (fun _ => InHand cluster pool size replicas) w := by
  have named : stsName sync.cr sync.nodePool = cluster ++ "-" ++ pool := by
    rw [stsName, sync.clusterName, sync.component]
  rcases inHand with all | pending
  · apply known_enlarged.reconcileNodeStatefulSet sync.enabled sync.cr sync.nodePool named
      (fun _ all => Or.inl all) _ w all
    intro existing sts w _ all
    apply (keeps_enlarged ((maintains_enlarges sync.disk).updateNodeStatefulSet
      sends_enlarges existing sts) w all).mono
    intro _ w all
    exact Or.inl all
  · apply known_pending.reconcileNodeStatefulSet sync.enabled sync.cr sync.nodePool named
      (fun _ pending => Or.inr pending) _ w pending
    intro existing sts w fine pending
    exact sync.safe_updatePending existing sts fine.2 w pending

/-- Calls of `reconcileNodeStatefulSet`, one after the other, bring every volume of
a pool to its new size by the time the StatefulSet has it. -/
theorem resized_template_means_resized_claims (syncs : List (Sync cluster pool size))
    (w : ApiWorld) (sts : StatefulSet)
    (stored : w.state.statefulSets.get (cluster ++ "-" ++ pool) = some sts)
    (due : Due size sts.replicas sts)
    (returned : AllReturn Sync.program Sync.choices syncs w)
    (unhindered : ∀ e ∈ (inTurn Sync.program Sync.choices syncs w).past,
      Unhindered (cluster ++ "-" ++ pool) e)
    (now : StatefulSet)
    (current : (inTurn Sync.program Sync.choices syncs w).state.statefulSets.get
      (cluster ++ "-" ++ pool) = some now)
    (resized : now.volumeClaimTemplates.head? = some size) :
    ∀ i < sts.replicas.toNat,
      Enlarged size (claimName cluster pool i) (inTurn Sync.program Sync.choices syncs w) := by
  have inHand : InHand cluster pool size sts.replicas (inTurn Sync.program Sync.choices syncs w) :=
    inTurn_keep Sync.program Sync.choices (fun sync _ w holds => sync.keepsInHand w holds) w
      (Or.inr ⟨sts, stored, due⟩) returned unhindered
  rcases inHand with all | ⟨other, there, still⟩
  · intro i below
    exact all _ (List.mem_map_of_mem (List.mem_range.mpr below))
  obtain ⟨old, rest, template, different⟩ := still.template
  have equal : other = now := Option.some.inj (there.symm.trans current)
  rw [← equal, template] at resized
  exact absurd (Option.some.inj resized) different

end Resize

@[mk_iff]
structure Calm (name : String) (e : ApiEvent) : Prop where
  claims : e.before.claims.items = e.prior.claims.items
  sets : ∀ sts ∈ e.prior.statefulSets.get name, sts.deleting = false →
    e.before.statefulSets.get name = some sts
  ordered : ∀ sts ∈ e.before.statefulSets.get name, sts.podManagementPolicy = .orderedReady
  kept : recreates name e.op = false
  answered : claimFailed e.op e.reply = false
  deletion : e.choice.outcome ≠ .lost

instance (name : String) (e : ApiEvent) : Decidable (Calm name e) :=
  decidable_of_iff' _ (calm_iff ..)

theorem Calm.unhindered {name : String} {e : ApiEvent} (calm : Calm name e) :
    Unhindered name e where
  claims claim := by rw [Store.get, Store.get, calm.claims]
  sets sts stored alive := ⟨sts, calm.sets sts stored alive, alive, rfl, rfl⟩
  ordered sts stored := calm.ordered sts stored
  kept := calm.kept
  answered := calm.answered
  deletion _ := calm.deletion

def largerSync (choices : List Choice) : Sync "logs" "data" 20 where
  enabled := false
  cr := largerVolumes.state.cluster
  nodePool := ⟨"data", 2, ["data"], none, 20, "", ""⟩
  choices := choices
  clusterName := rfl
  component := rfl
  disk := rfl
  persistent := rfl

def syncAgain : Sync "logs" "data" 20 :=
  largerSync ({ others := collect "logs-data" } :: .replicate 20 served)

def resizingSet : StatefulSet :=
  { name := "logs-data", labels := [(clusterLabel, "logs"), (nodePoolLabel, "data")]
    replicas := 3, selector := [(clusterLabel, "logs"), (nodePoolLabel, "data")]
    podManagementPolicy := .orderedReady, volumeClaimTemplates := [10]
    podTemplate := "", podEnv := "", deleting := false
    status := ⟨3, 3, 3, 3, "a", "a"⟩ }

theorem answered_resize_reaches_claims :
    largerVolumes.state.statefulSets.get "logs-data" = some resizingSet ∧
    ∀ i < 3, Enlarged 20 (claimName "logs" "data" i) (inTurn Sync.program Sync.choices
      [largerSync (.replicate 20 served), syncAgain] largerVolumes) := by
  refine ⟨by decide, ?_⟩
  have calm : ∀ e ∈ (inTurn Sync.program Sync.choices
      [largerSync (.replicate 20 served), syncAgain] largerVolumes).past, Calm "logs-data" e := by
    decide
  obtain ⟨now, current, resized⟩ : ∃ now ∈ (inTurn Sync.program Sync.choices
      [largerSync (.replicate 20 served), syncAgain] largerVolumes).state.statefulSets.get
        "logs-data",
      now.volumeClaimTemplates.head? = some 20 := by
    decide
  exact resized_template_means_resized_claims _ largerVolumes resizingSet (by decide)
    ⟨rfl, rfl, 10, [], rfl, by decide⟩ (by decide) (fun e member => (calm e member).unhindered)
    now current resized

/-- The first call fails at the second of three claims; the second call succeeds. -/
theorem interrupted_resize_leaves_claims :
    let first := largerSync (.replicate 9 served ++ [{ outcome := .refused .unavailable }])
    let w := inTurn Sync.program Sync.choices [first] largerVolumes
    let after := exec syncAgain.program syncAgain.choices w
    largerVolumes.state.statefulSets.get "logs-data" = some resizingSet ∧
    AllReturn Sync.program Sync.choices [first, syncAgain] largerVolumes ∧
    (after.2.past.filter fun e => e.choice.outcome != .served).length = 1 ∧
    after.1 = some (none, none) ∧
    (after.2.state.statefulSets.get "logs-data").map StatefulSet.volumeClaimTemplates = some [20] ∧
    Enlarged 10 (claimName "logs" "data" 1) after.2 ∧
    Enlarged 10 (claimName "logs" "data" 2) after.2 := by
  decide

end OpenSearchOperator.Reconcilers.Cluster
