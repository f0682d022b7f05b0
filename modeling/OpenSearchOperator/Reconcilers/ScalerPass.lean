import OpenSearchOperator.Reconcilers.ScalerSteps

/-! One pass of the scaler keeps every status entry true to a tracking: the loop
over the pools, the removal of StatefulSets without a pool, and the whole of
`Reconcile`. -/

namespace OpenSearchOperator.Reconcilers.Scaler

open Api Data Effects
open Gateway Helpers

variable {permit : ApiEvent → Prop} {T : Tracking permit} {w : ApiWorld} {e : ApiEvent}
  {cr : OpenSearchCluster} {rest : List NodePool} {snapshot : List ComponentStatus}

section Settle

variable {pool : String} {r : Int} {c add : ComponentStatus} {l snapshot' : List ComponentStatus}
  {nodePool : NodePool}

/-- A list of entries that differs in those of one pool only and has no stage that
the other list does not have. -/
structure Narrows (pool : String) (old new : List ComponentStatus) : Prop where
  staged : ∀ x ∈ new, Staged x → x ∈ old
  others : ∀ x, ¬ IsEntry pool x → (x ∈ new ↔ x ∈ old)

theorem narrows_removeIt (entry : IsEntry pool c) : Narrows pool l (removeIt c l) :=
  ⟨fun _ member _ => mem_of_mem_removeIt member, local_removeIt entry l⟩

theorem narrows_replace (entry : IsEntry pool c) (new : IsEntry pool add)
    (unstaged : ¬ Staged add) : Narrows pool l (replace c add l) := by
  refine ⟨?_, local_replace entry new l⟩
  intro x member staged
  rcases mem_replace member with old | rfl
  · exact old
  · exact absurd staged unstaged

theorem narrows_removeItInPlace (entry : IsEntry pool c) :
    Narrows pool l (removeItInPlace c l) := by
  refine ⟨fun _ member _ => mem_of_mem_removeItInPlace member, ?_⟩
  intro x other
  constructor
  · exact mem_of_mem_removeItInPlace
  intro member
  rw [removeItInPlace]
  split
  · exact List.mem_append_left _ ((local_removeIt entry l x other).mpr member)
  · exact member

theorem narrows_replaceInPlace (entry : IsEntry pool c) (new : IsEntry pool add)
    (unstaged : ¬ Staged add) : Narrows pool l (replaceInPlace c add l) := by
  rw [replaceInPlace]
  split
  · exact narrows_replace entry new unstaged
  · exact ⟨fun _ member _ => member, fun _ _ => Iff.rfl⟩

/-- Both what is written and what the snapshot becomes are narrower than the snapshot. -/
theorem settle_narrows (entry : IsEntry nodePool.component c) (ready : Int)
    (snapshot : List ComponentStatus) (cluster : OpenSearchCluster) :
    Narrows nodePool.component snapshot
        (settle c nodePool ready snapshot cluster).1.componentsStatus ∧
      Narrows nodePool.component snapshot (settle c nodePool ready snapshot cluster).2 := by
  have unstaged : ¬ Staged (scalerStatus "Waiting" nodePool.component []) := by
    simp [Staged, scalerStatus]
  rw [settle]
  split
  · exact ⟨narrows_replace entry ⟨rfl, rfl⟩ unstaged, narrows_replaceInPlace entry ⟨rfl, rfl⟩
      unstaged⟩
  · exact ⟨narrows_removeIt entry, narrows_removeItInPlace entry⟩

theorem settle_status {ready : Int} {cluster : OpenSearchCluster} :
    (settle c nodePool ready snapshot cluster).1 = { cluster.status with
      componentsStatus := (settle c nodePool ready snapshot cluster).1.componentsStatus } := by
  rw [settle]
  split <;> rfl

theorem Narrows.fresh {list : List ComponentStatus} (written : Narrows pool snapshot list)
    (kept : Narrows pool snapshot snapshot') {p : NodePool} (other : p.component ≠ pool)
    {stored : List ComponentStatus} (fresh : Fresh p.component stored snapshot) :
    Fresh p.component list snapshot' := by
  have apart : ∀ x, IsEntry p.component x → ¬ IsEntry pool x := by
    intro x entry entry'
    exact other (entry.2.symm.trans entry'.2)
  constructor
  · intro x entry
    rw [written.others x (apart x entry), kept.others x (apart x entry)]
  intro x y first second inside inside'
  apply fresh.alike x y first second
  · exact (kept.others x (apart x first)).mp inside
  · exact (kept.others y (apart y second)).mp inside'

theorem AtPool.resnap (here : AtPool T cr rest snapshot pool r w)
    (kept : Narrows pool snapshot snapshot') (others : ∀ p ∈ rest, p.component ≠ pool) :
    AtPool T cr rest snapshot' pool r w := by
  refine ⟨⟨here.good, here.name, here.stored, ?_, ?_, ?_⟩, here.size⟩
  · intro x member staged
    exact here.snapped x (kept.staged x member staged) staged
  · intro p coming
    have fresh := here.fresh p coming
    have unchanged := (Narrows.fresh kept kept (others p coming) fresh).alike
    refine ⟨fun x entry => ?_, unchanged⟩
    rw [fresh.same x entry, kept.others x (not_entry_of_rest others coming entry)]
  · intro x member staged missing
    exact here.absent x (kept.staged x member staged) staged missing

/-- A pool of the desired size: its entry is reset or removed. What is written are
the entries of the snapshot, whatever else was stored. -/
theorem safe_settle (entry : IsEntry nodePool.component c) (ready : Int)
    (others : ∀ p ∈ rest, p.component ≠ nodePool.component)
    (here : AtPool T cr rest snapshot nodePool.component r w) :
    Safe permit T.Inv (updateOpenSearchClusterStatus (settle c nodePool ready) snapshot)
      (fun result w => AtPool T cr rest result.2 nodePool.component r w) w := by
  let J := fun snapshot w => AtPool T cr rest snapshot nodePool.component r w
  have rule : StatusUpdate permit T.Inv (settle c nodePool ready) J J := by
    constructor
    · exact fun snapshot w here => AtPool.inv here
    · exact fun snapshot => AtPool.stable
    · intro snapshot w here
      exact here.resnap (settle_narrows entry ready snapshot w.state.cluster).2 others
    intro snapshot w choice here e allowed unchanged after
    obtain ⟨written, kept⟩ := settle_narrows entry ready snapshot w.state.cluster
    rw [settle_status] at after
    apply here.overwrite rfl allowed unchanged after
    · intro x member staged
      have old := written.staged x member staged
      exact ⟨here.snapped x old, here.absent x old staged⟩
    · exact kept.staged
    · intro p coming
      exact written.fresh kept (others p coming) (here.fresh p coming)
    · intro x member staged missing
      rw [written.others x (here.not_entry missing)]
      exact kept.staged x member staged
  apply (safe_updateOpenSearchClusterStatus rule here).mono
  intro result w ⟨_, either⟩
  exact either.elim id id

end Settle

section Loop

variable {pool : String} {r : Int} {sts : StatefulSet} {c : ComponentStatus} {nodePool p : NodePool}

theorem Holding.tail (holding : Holding T cr (p :: rest) snapshot w) :
    Holding T cr rest snapshot w :=
  { holding with fresh := fun q coming => holding.fresh q (List.mem_cons_of_mem _ coming) }

theorem AtPool.tail (here : AtPool T cr (p :: rest) snapshot pool r w) :
    AtPool T cr rest snapshot pool r w := ⟨here.toHolding.tail, here.size⟩

theorem safe_restart (entry : IsEntry pool c) (others : ∀ p ∈ rest, p.component ≠ pool)
    (idle : Idle T cr rest snapshot pool r w) :
    Safe permit T.Inv (updateComponents (replace c (running pool)))
      (fun _ => Idle T cr rest snapshot pool r) w := by
  have written : Safe permit T.Inv (updateComponents (replace c (running pool))) (fun err w =>
      (err = none → Idle T cr rest snapshot pool r w) ∧
      (Idle T cr rest snapshot pool r w ∨ Idle T cr rest snapshot pool r w)) w := by
    apply safe_updateComponents _ w (fun w idle => idle.toAtPool.inv) Idle.stable ?_ idle
    intro w e idle prior allowed unchanged after
    have stored : entries e.after = replace c (running pool) (entries w.state) := by
      rw [after]
      rfl
    constructor
    · apply idle.toAtPool.write prior allowed unchanged after (local_replace entry ⟨rfl, rfl⟩)
        others
      intro x member _
      rcases mem_replace member with old | rfl
      · exact Or.inl old
      · exact Or.inr fun staged => absurd staged unstaged_running
    · intro x same either
      rcases either with member | snapped
      · change x ∈ entries e.after at member
        rw [stored] at member
        rcases mem_replace member with old | rfl
        · exact idle.unstaged x same (Or.inl old)
        · exact unstaged_running
      · exact idle.unstaged x same (Or.inr snapped)
  apply written.mono
  rintro err w ⟨_, twice⟩
  exact twice.elim id id

theorem findFirstPartial_entry (snapshot : List ComponentStatus) (pool : String) :
    IsEntry pool (findFirstPartial snapshot (running pool) getByDescriptionAndComponent).1 ∧
      ((findFirstPartial snapshot (running pool) getByDescriptionAndComponent).2 = true →
        (findFirstPartial snapshot (running pool) getByDescriptionAndComponent).1 ∈ snapshot) ∧
      ((findFirstPartial snapshot (running pool) getByDescriptionAndComponent).2 = false →
        ∀ x ∈ snapshot, ¬ IsEntry pool x) := by
  rw [findFirstPartial]
  cases first : snapshot.find? (getByDescriptionAndComponent · (running pool)) with
  | none =>
    refine ⟨⟨rfl, rfl⟩, by simp, fun _ x member entry => ?_⟩
    have skipped := List.find?_eq_none.mp first x member
    simp [getByDescriptionAndComponent, running, scalerStatus, entry.1, entry.2] at skipped
  | some x =>
    have chosen := List.find?_some first
    simp only [getByDescriptionAndComponent, running, scalerStatus, Bool.and_eq_true,
      beq_iff_eq] at chosen
    exact ⟨⟨chosen.2, chosen.1⟩, fun _ => List.mem_of_find?_eq_some first, by simp⟩

theorem safe_scaleNodePool (found : Bool)
    (entry : IsEntry nodePool.component c) (present : found = true → c ∈ snapshot)
    (missing : found = false → ∀ x ∈ snapshot, ¬ IsEntry nodePool.component x)
    (others : ∀ p ∈ rest, p.component ≠ nodePool.component)
    (plain : Plain (poolSts cr.name nodePool.component))
    (named : sts.name = poolSts cr.name nodePool.component) (size : sts.replicas = r)
    (here : AtPool T cr (nodePool :: rest) snapshot nodePool.component r w) :
    Safe permit T.Inv (scaleNodePool true c found sts nodePool)
      (fun _ => Holding T cr rest snapshot) w := by
  have fresh := here.fresh nodePool List.mem_cons_self
  have snapped : ∀ x, IsEntry nodePool.component x → x ∈ entries w.state ∨ x ∈ snapshot →
      x ∈ snapshot := by
    intro x same either
    rcases either with stored | member
    · exact (fresh.same x same).mp stored
    · exact member
  have stored : found = true → Stored T cr rest snapshot nodePool.component r c w := by
    intro there
    exact ⟨here.tail, (fresh.same c entry).mpr (present there)⟩
  rw [scaleNodePool]
  by_cases fresh_start : (!found || c.status == "Running" || c.status == "Waiting") = true
  · rw [if_pos fresh_start]
    have idle : Idle T cr rest snapshot nodePool.component r w := by
      refine ⟨here.tail, fun x same either staged => ?_⟩
      have member := snapped x same either
      cases found with
      | false => exact missing rfl x member same
      | true =>
        have equal : x = c := fresh.alike x c same entry member (present rfl)
        subst equal
        rcases staged.2 with stage | stage <;> simp [stage] at fresh_start
    apply (safe_restart entry others idle).bindNone
    · exact fun _ _ idle => idle.toHolding
    intro w idle
    by_cases shrinking : 0 < desireReplicaDiff sts.replicas nodePool.replicas
    · simp only [shrinking, if_true]
      refine (safe_excludeNode entry others plain named size idle).bind ?_
      exact fun _ w holding => holding
    · simp only [shrinking, if_false]
      exact safe_increaseOneNode named size idle
  · rw [if_neg fresh_start]
    have there : found = true := by
      cases found with
      | true => rfl
      | false => simp at fresh_start
    by_cases excluded : c.status = "Excluded"
    · simp only [excluded, beq_self_eq_true, if_true]
      refine (safe_drainNode entry excluded others named size (stored there)).bind ?_
      exact fun _ w holding => holding
    · by_cases drained : c.status = "Drained"
      · simp only [drained, beq_self_eq_true, if_true]
        exact safe_decreaseOneNode entry drained others named size true (stored there)
      have neither : (c.status == "Excluded") = false ∧ (c.status == "Drained") = false := by
        simp [excluded, drained]
      simp only [neither.1, neither.2, Bool.false_eq_true, if_false]
      exact here.toHolding.tail

theorem safe_reconcileNodePool (smart : cr.spec.confMgmt.smartScaler = true)
    (others : ∀ p ∈ rest, p.component ≠ nodePool.component)
    (holding : Holding T cr (nodePool :: rest) snapshot w) :
    Safe permit T.Inv (reconcileNodePool cr snapshot nodePool)
      (fun result => Holding T cr rest result.2) w := by
  refine (safe_getStatefulSet (stsName cr nodePool) Holding.stable
    (fun w holding => holding.inv) holding).bind ?_
  intro reply w ⟨holding, witnessed, answered⟩
  rcases answered with ⟨err, rfl, _⟩ | ⟨sts, rfl, there⟩
  · exact holding.tail
  have named : sts.name = poolSts cr.name nodePool.component :=
    w.state.statefulSets.get_key _ _ there
  have here : AtPool T cr (nodePool :: rest) snapshot nodePool.component sts.replicas w := by
    refine ⟨holding, ?_⟩
    rw [State.size, ← named, named]
    exact congrArg (Option.map StatefulSet.replicas) there
  have plain : Plain (poolSts cr.name nodePool.component) := by
    obtain ⟨e, allowed, before⟩ := witnessed
    exact (T.relies e allowed).plain _ sts (before.symm ▸ there)
  apply (safe_reads (reads_readyReplicas nodePool) AtPool.stable
    (fun w here => here.inv) here).bindOk
  · exact fun _ _ here => here.toHolding.tail
  intro ready w here
  obtain ⟨entry, present, missing⟩ := findFirstPartial_entry snapshot nodePool.component
  revert entry present missing
  generalize findFirstPartial snapshot (running nodePool.component)
    getByDescriptionAndComponent = first
  intro entry present missing
  obtain ⟨c, found⟩ := first
  by_cases settled : sts.replicas = nodePool.replicas
  · simp only [settled, if_true]
    cases found with
    | false => exact here.toHolding.tail
    | true =>
      refine (safe_settle entry ready others here.tail).bind ?_
      intro result w here
      exact here.toHolding
  · simp only [settled, if_false, smart]
    refine (safe_scaleNodePool found entry present missing others plain named
      rfl here).bind ?_
    exact fun _ w holding => holding

theorem safe_reconcileNodePools (smart : cr.spec.confMgmt.smartScaler = true)
    (pools : List NodePool) (distinct : (pools.map NodePool.component).Nodup)
    (snapshot : List ComponentStatus) (requeue : Bool) (results : CombinedResult) (w : ApiWorld)
    (holding : Holding T cr pools snapshot w) :
    Safe permit T.Inv (reconcileNodePools cr pools snapshot requeue results)
      (fun result => Holding T cr [] result.2) w := by
  induction pools generalizing snapshot requeue results w with
  | nil => exact holding
  | cons nodePool pools ih =>
    rw [List.map_cons, List.nodup_cons] at distinct
    have others : ∀ p ∈ pools, p.component ≠ nodePool.component := by
      intro p coming same
      exact distinct.1 (same ▸ List.mem_map_of_mem coming)
    refine (safe_reconcileNodePool smart others holding).bind ?_
    intro ⟨⟨requeue, err⟩, snapshot⟩ w holding
    exact ih distinct.2 snapshot requeue _ w holding

end Loop

section Cleanup

variable {sts : StatefulSet} {others listed : List StatefulSet}

structure Cleaning (T : Tracking permit) (cr : OpenSearchCluster) (listed : List StatefulSet)
    (w : ApiWorld) : Prop extends Holding T cr [] [] w where
  sizes : ∀ s ∈ listed, w.state.size s.name = some s.replicas
  plain : ∀ s ∈ listed, Plain s.name

theorem Cleaning.keep (cleaning : Cleaning T cr listed w)
    (prior : e.prior = w.state) (allowed : permit e) (holding : Holding T cr [] [] (w.extend e))
    (same : ∀ s ∈ listed, e.after.size s.name = e.before.size s.name) :
    Cleaning T cr listed (w.extend e) := by
  refine ⟨holding, ?_, cleaning.plain⟩
  intro s member
  change e.after.size s.name = _
  rw [same s member]
  exact size_kept T prior allowed (cleaning.sizes s member)

theorem Cleaning.stable : Stable permit (Cleaning T cr listed) := by
  intro w choice op allowed cleaning unchanged
  apply cleaning.keep rfl allowed (Holding.stable w choice op allowed cleaning.toHolding unchanged)
  intro s _
  rw [unchanged]

theorem Cleaning.tail (cleaning : Cleaning T cr (sts :: others) w) : Cleaning T cr others w :=
  ⟨cleaning.toHolding, fun s member => cleaning.sizes s (List.mem_cons_of_mem _ member),
    fun s member => cleaning.plain s (List.mem_cons_of_mem _ member)⟩

structure Shedding (T : Tracking permit) (cr : OpenSearchCluster) (sts : StatefulSet)
    (others : List StatefulSet) (w : ApiWorld) : Prop extends Cleaning T cr (sts :: others) w where
  drained : 0 ≤ sts.replicas - 1 → T.drained sts.name (sts.replicas - 1) w

theorem Shedding.stable : Stable permit (Shedding T cr sts others) := by
  intro w choice op allowed shedding unchanged
  refine ⟨Cleaning.stable w choice op allowed shedding.toCleaning unchanged, ?_⟩
  intro nonnegative
  apply T.drained_keep _ _ w _ rfl allowed ?_ (shedding.drained nonnegative)
  refine ⟨by rw [unchanged], fun _ listed => ?_⟩
  rw [unchanged]
  exact listed

/-- The node is not the last of its StatefulSet any more, as far as an entry could
be about it. -/
structure Shed (T : Tracking permit) (cr : OpenSearchCluster) (sts : StatefulSet)
    (others : List StatefulSet) (w : ApiWorld) : Prop extends Cleaning T cr others w where
  nonnegative : 0 ≤ sts.replicas - 1
  gone : ∀ x ∈ entries w.state, Staged x → poolSts cr.name x.description = sts.name →
    w.state.size sts.name ≠ some sts.replicas

theorem Shed.gone_before (shed : Shed T cr sts others w) (prior : e.prior = w.state)
    (allowed : permit e) {x : ComponentStatus} (stored : x ∈ entries e.before) (staged : Staged x)
    (same : poolSts cr.name x.description = sts.name) :
    e.before.size sts.name ≠ some sts.replicas := by
  have rely := T.relies e allowed
  have earlier : x ∈ entries w.state := prior ▸ (rely.scaler x staged.1).mp stored
  have before := shed.gone x earlier staged same
  rcases rely.size sts.name with unchanged | ⟨_, unstaged⟩
  · rw [unchanged, prior]
    exact before
  have clash := unstaged x stored staged
  rw [rely.name, prior, shed.name] at clash
  exact absurd same clash

theorem Shed.stable : Stable permit (Shed T cr sts others) := by
  intro w choice op allowed shed unchanged
  refine ⟨Cleaning.stable w choice op allowed shed.toCleaning unchanged, shed.nonnegative, ?_⟩
  intro x stored staged same
  change x ∈ entries (w.arrive choice op).after at stored
  change (w.arrive choice op).after.size sts.name ≠ _
  rw [unchanged] at stored ⊢
  exact shed.gone_before rfl allowed stored staged same

theorem Shedding.resize (shedding : Shedding T cr sts others w) (prior : e.prior = w.state)
    (allowed : permit e) (apart : ∀ s ∈ others, s.name ≠ sts.name)
    (resized : Resized e.before e.after sts.name (sts.replicas - 1)) :
    Shed T cr sts others (w.extend e) := by
  have before := size_kept T prior allowed (shedding.sizes sts List.mem_cons_self)
  have holding : Holding T cr [] [] (w.extend e) := by
    apply shedding.toHolding.resize prior allowed resized
    · intro other r r' first second less
      rw [resized.size] at second
      by_cases same : other = sts.name
      · rw [same, before] at first
        rw [if_pos same] at second
        cases first
        cases second
        refine ⟨by omega, ?_⟩
        rw [same]
        exact shedding.drained resized.nonnegative
      · rw [if_neg same, first] at second
        cases second
        omega
    · intro x _ _ _
      exact ⟨_, before, by omega⟩
  refine ⟨shedding.toCleaning.tail.keep prior allowed holding ?_, resized.nonnegative, ?_⟩
  · intro s member
    rw [resized.size, if_neg (apart s member)]
  intro x _ _ _
  change e.after.size sts.name ≠ _
  rw [resized.size, if_pos rfl, ne_eq, Option.some.injEq]
  omega

theorem Shedding.remove (shedding : Shedding T cr sts others w) (prior : e.prior = w.state)
    (allowed : permit e) (apart : ∀ s ∈ others, s.name ≠ sts.name) (last : sts.replicas - 1 = 0)
    (removed : Removed e.before e.after sts.name) : Shed T cr sts others (w.extend e) := by
  have smaller : ∀ other r, e.after.size other = some r → e.before.size other = some r := by
    intro other r size
    rw [removed.size] at size
    by_cases same : other = sts.name
    · rw [if_pos same] at size
      cases size
    · rw [if_neg same] at size
      exact size
  have holding : Holding T cr [] [] (w.extend e) := by
    apply shedding.toHolding.step prior allowed removed.cluster
    · intro other r r' first second less
      rw [smaller other r' second] at first
      cases first
      omega
    · intro x member
      cases member
    · intro x _ _ r' after
      exact ⟨r', smaller _ r' after, Int.le_refl r'⟩
    · intro x _ _ _ k _ _ listed
      rw [removed.settings]
      exact listed
  refine ⟨shedding.toCleaning.tail.keep prior allowed holding ?_, by omega, ?_⟩
  · intro s member
    rw [removed.size, if_neg (apart s member)]
  intro x _ _ _
  change e.after.size sts.name ≠ _
  rw [removed.size, if_pos rfl]
  exact nofun

theorem safe_shrinkOrRemove (apart : ∀ s ∈ others, s.name ≠ sts.name)
    (shedding : Shedding T cr sts others w) :
    Safe permit T.Inv (shrinkOrRemove sts) (fun _ => Cleaning T cr others) w := by
  have implied : ∀ w, Shedding T cr sts others w → T.Inv w :=
    fun w shedding => shedding.toHolding.inv
  have reconciled : Safe permit T.Inv (if sts.replicas - 1 = 0 then reconcileResource sts .absent
        else reconcileResource { sts with replicas := sts.replicas - 1 } .present)
      (fun result w => (result.2.1 = none → Shed T cr sts others w) ∧
        (Shedding T cr sts others w ∨ Shed T cr sts others w)) w := by
    by_cases last : sts.replicas - 1 = 0
    · rw [if_pos last]
      apply safe_reconcileAbsent sts implied Shedding.stable ?_ ?_ shedding
      · intro w e shedding prior allowed removed
        exact shedding.remove prior allowed apart last removed
      intro w shedding missing
      have size := shedding.sizes sts List.mem_cons_self
      simp [State.size, missing] at size
    · rw [if_neg last]
      apply safe_reconcilePresent _ ?_ implied Shedding.stable ?_ shedding
      · intro w shedding witnessed
        obtain ⟨e, allowed, before⟩ := witnessed
        have size := shedding.sizes sts List.mem_cons_self
        cases there : w.state.statefulSets.get sts.name with
        | none => simp [State.size, there] at size
        | some found =>
          simp only [State.size, there, Option.map_some, Option.some.injEq] at size
          refine ⟨found, rfl, (T.relies e allowed).alive _ found (before.symm ▸ there), ?_⟩
          change found.replicas ≠ sts.replicas - 1
          omega
      · intro w e shedding prior allowed resized
        exact shedding.resize prior allowed apart resized
  refine reconciled.bind ?_
  rintro ⟨result, err, object⟩ w ⟨done, either⟩
  cases err with
  | some err =>
    rcases either with shedding | shed
    · exact shedding.toCleaning.tail
    · exact shed.toCleaning
  | none =>
    have off : Safe permit T.Inv (removeExcludeNodeHost (ordinalName sts.name (sts.replicas - 1)))
        (fun _ => Shed T cr sts others) w := by
      apply safe_removeExcludeNodeHost T _ (fun w shed => shed.toHolding.inv) Shed.stable ?_
        (done rfl)
      intro w e value shed prior allowed after kept
      have same : ∀ name, e.after.size name = e.before.size name := by
        intro name
        rw [after]
        rfl
      have stays : entries e.after = entries e.before := by
        rw [after]
        rfl
      have holding : Holding T cr [] [] (w.extend e) := by
        apply shed.toHolding.putExclude prior allowed after
        intro x member staged
        apply keepsListed_remove T allowed shed.nonnegative after kept
        intro size other
        have stored : x ∈ entries e.before := by
          rcases member with stored | snapped
          · exact ((T.relies e allowed).scaler x staged.1).mpr (prior.symm ▸ stored)
          · cases snapped
        apply shed.gone_before prior allowed stored staged other
        rw [← other, size]
        congr 1
        omega
      refine ⟨shed.toCleaning.keep prior allowed holding (fun s _ => same s.name),
        shed.nonnegative, ?_⟩
      intro x stored staged other
      change x ∈ entries e.after at stored
      change e.after.size sts.name ≠ _
      rw [stays] at stored
      rw [same]
      exact shed.gone_before prior allowed stored staged other
    refine off.bind ?_
    intro _ w shed
    exact shed.toCleaning

section

variable (smart : cr.spec.confMgmt.smartScaler = true)

include smart

theorem safe_removeStatefulSet (apart : ∀ s ∈ others, s.name ≠ sts.name)
    (cleaning : Cleaning T cr (sts :: others) w) :
    Safe permit T.Inv (removeStatefulSet cr sts) (fun _ => Cleaning T cr others) w := by
  have implied : ∀ w, Cleaning T cr (sts :: others) w → T.Inv w :=
    fun w cleaning => cleaning.toHolding.inv
  simp only [removeStatefulSet, smart, Bool.not_true, Bool.false_eq_true, if_false, replicaHostName]
  apply (safe_read .createClient rfl Cleaning.stable implied cleaning).bindOk
  · rintro err w ⟨cleaning, _, _⟩
    exact cleaning.tail
  rintro _ w ⟨cleaning, _, _⟩
  have appended := safe_appendExcludeNodeHost T sts.name (sts.replicas - 1)
    (cleaning.plain sts List.mem_cons_self) implied Cleaning.stable
    (fun w e value cleaning prior allowed after growing => by
      apply cleaning.keep prior allowed
      · apply cleaning.toHolding.putExclude prior allowed after
        exact fun x _ _ => keepsListed_grow after growing _
      intro s _
      rw [after]
      rfl) cleaning
  apply appended.bindDone
  · rintro done err w ⟨cleaning, excluded⟩
    exact cleaning.tail
  rintro done w ⟨cleaning, excluded⟩
  apply (safe_hasShardsOnNode T sts.name (sts.replicas - 1) implied
    Cleaning.stable cleaning (fun _ => excluded rfl)).bindDone
  · rintro nodeNotEmpty err w ⟨cleaning, drained⟩
    exact cleaning.tail
  rintro nodeNotEmpty w ⟨cleaning, drained⟩
  cases nodeNotEmpty with
  | true => exact cleaning.tail
  | false => exact safe_shrinkOrRemove apart ⟨cleaning, drained rfl (Or.inr rfl)⟩

theorem safe_removeUnlisted (listed : List StatefulSet)
    (distinct : (listed.map StatefulSet.name).Nodup) (results : CombinedResult) (w : ApiWorld)
    (cleaning : Cleaning T cr listed w) :
    Safe permit T.Inv (removeUnlisted cr listed results) (fun _ => Holding T cr [] []) w := by
  induction listed generalizing results w with
  | nil => exact cleaning.toHolding
  | cons sts others ih =>
    rw [List.map_cons, List.nodup_cons] at distinct
    have apart : ∀ s ∈ others, s.name ≠ sts.name := by
      intro s member same
      exact distinct.1 (same ▸ List.mem_map_of_mem member)
    rw [removeUnlisted]
    split
    · exact ih distinct.2 results w cleaning.tail
    apply (safe_removeStatefulSet smart apart cleaning).bind
    rintro ⟨result, err⟩ w cleaning
    exact ih distinct.2 _ w cleaning

theorem safe_cleanupStatefulSets (results : CombinedResult) (holding : Holding T cr [] [] w) :
    Safe permit T.Inv (cleanupStatefulSets cr results) (fun _ => Holding T cr [] []) w := by
  apply (safe_read (.listStatefulSets _) rfl Holding.stable
    (fun w holding => holding.inv) holding).bind
  intro reply w ⟨holding, witnessed, answered⟩
  rcases answered with ⟨fault, rfl⟩ | rfl
  · exact holding
  obtain ⟨e, allowed, before⟩ := witnessed
  have stored : ∀ s ∈ w.state.statefulSets.items,
      w.state.statefulSets.get s.name = some s := fun s => w.state.statefulSets.get_of_mem s
  apply safe_removeUnlisted smart
  · exact w.state.statefulSets.distinct.sublist (List.Sublist.map _ List.filter_sublist)
  refine ⟨holding, ?_, ?_⟩
  · intro s member
    rw [State.size, stored s (List.mem_of_mem_filter member)]
    rfl
  · intro s member
    apply (T.relies e allowed).plain s.name s
    rw [before]
    exact stored s (List.mem_of_mem_filter member)

theorem safe_reconcilePools (distinct : (cr.spec.nodePools.map NodePool.component).Nodup)
    (holding : Holding T cr cr.spec.nodePools cr.status.componentsStatus w) :
    Safe permit T.Inv (reconcilePools cr) (fun _ => Holding T cr [] []) w := by
  apply (safe_reconcileNodePools smart _ distinct _ _ _ w holding).bind
  intro ⟨⟨requeue, results⟩, snapshot⟩ w holding
  have done : Holding T cr [] [] w :=
    ⟨holding.good, holding.name, holding.stored, nofun, nofun, nofun⟩
  apply (safe_reads (reads_nodePoolsReady _) Holding.stable
    (fun w holding => holding.inv) done).bind
  intro ready w done
  match ready with
  | .error err => exact done
  | .ok false => exact done
  | .ok true =>
    apply (safe_cleanupStatefulSets smart _ done).bind
    intro results w done
    exact done

end

end Cleanup

section Reconcile

variable {l : List ComponentStatus}

structure Starting (T : Tracking permit) (cr : OpenSearchCluster) (w : ApiWorld) : Prop
    extends Holding T cr cr.spec.nodePools cr.status.componentsStatus w where
  whole : ∀ x : ComponentStatus, x.component = "Scaler" →
    (x ∈ entries w.state ↔ x ∈ cr.status.componentsStatus)

theorem Starting.keep (starting : Starting T cr w) (prior : e.prior = w.state) (allowed : permit e)
    (holding : Holding T cr cr.spec.nodePools cr.status.componentsStatus (w.extend e))
    (untouched : e.after.cluster = e.before.cluster) : Starting T cr (w.extend e) := by
  refine ⟨holding, ?_⟩
  intro x scaler
  change x ∈ entries e.after ↔ _
  rw [entries, untouched, (T.relies e allowed).scaler x scaler, prior]
  exact starting.whole x scaler

theorem Starting.stable : Stable permit (Starting T cr) := by
  intro w choice op allowed starting unchanged
  apply starting.keep rfl allowed
  · exact Holding.stable w choice op allowed starting.toHolding unchanged
  · rw [unchanged]

theorem not_staged_of_idle
    (idle : scalerHasExcludeOrDrainInProgress l = false) {x : ComponentStatus} (member : x ∈ l) :
    ¬ Staged x := by
  intro staged
  have skipped := List.any_eq_false.mp idle x member
  rcases staged with ⟨scaler, stage | stage⟩ <;> simp [scaler, stage] at skipped

theorem safe_reconcile (smart : cr.spec.confMgmt.smartScaler = true)
    (distinct : (cr.spec.nodePools.map NodePool.component).Nodup) (starting : Starting T cr w) :
    Safe permit T.Inv (reconcile cr) (fun _ => T.Inv) w := by
  have implied : ∀ w, Starting T cr w → T.Inv w := fun w starting => starting.toHolding.inv
  have pools : ∀ w, Starting T cr w → Safe permit T.Inv (reconcilePools cr) (fun _ => T.Inv) w := by
    intro w starting
    apply (safe_reconcilePools smart distinct starting.toHolding).mono
    exact fun _ w holding => holding.inv
  rw [reconcile]
  by_cases idle : (cr.spec.confMgmt.smartScaler &&
      !scalerHasExcludeOrDrainInProgress cr.status.componentsStatus) = true
  · rw [if_pos idle]
    have unstaged : scalerHasExcludeOrDrainInProgress cr.status.componentsStatus = false := by
      simpa [smart] using idle
    apply (safe_read .createClient rfl Starting.stable implied starting).bindOk
    · rintro err w ⟨starting, _, _⟩
      exact pools w starting
    rintro _ w ⟨starting, _, _⟩
    have cleaned : Safe permit T.Inv (cleanStaleExclusionList cr) (fun _ => Starting T cr) w := by
      apply safe_cleanStaleExclusionList T cr implied Starting.stable ?_ starting
      intro w e value starting prior allowed after
      apply starting.keep prior allowed
      · -- No entry is in a stage, so that the list protects nobody.
        apply starting.toHolding.putExclude prior allowed after
        intro x member staged
        have snapped : x ∈ cr.status.componentsStatus := by
          rcases member with stored | snapped
          · exact (starting.whole x staged.1).mp stored
          · exact snapped
        exact absurd staged (not_staged_of_idle unstaged snapped)
      · rw [after]
        rfl
    apply cleaned.bind
    rintro ⟨res, err⟩ w starting
    change Safe permit T.Inv (if err.isSome then _ else if res.requeue then _ else _) _ w
    split
    · exact starting.toHolding.inv
    split
    · exact starting.toHolding.inv
    · exact pools w starting
  · rw [if_neg idle]
    exact pools w starting

def Alike (l : List ComponentStatus) : Prop :=
  ∀ x ∈ l, ∀ y ∈ l, x.component = "Scaler" → y.component = "Scaler" →
    x.description = y.description → x = y

instance (l : List ComponentStatus) : Decidable (Alike l) := by
  unfold Alike
  infer_instance

/-- The custom resource, read with every pool's entries alike, makes a snapshot to start from. -/
theorem starting_of_read (inv : T.Inv w) (alike : Alike (entries w.state))
    (current : w.state.cluster = cr) : Starting T cr w := by
  subst current
  refine ⟨⟨inv.1, rfl, inv.2, inv.2, ?_, fun x member _ _ => member⟩, fun _ _ => Iff.rfl⟩
  intro p _
  refine ⟨fun _ _ => Iff.rfl, ?_⟩
  intro x y first second inside inside'
  exact alike x inside y inside' first.1 second.1 (first.2.trans second.2.symm)

theorem Tracking.Inv.stable : Stable permit T.Inv := by
  intro w choice op allowed inv unchanged
  have holding : Holding T w.state.cluster [] [] w := ⟨inv.1, rfl, inv.2, nofun, nofun, nofun⟩
  exact (Holding.stable w choice op allowed holding unchanged).inv

theorem Alike.transfer {l' : List ComponentStatus} (alike : Alike l)
    (members : ∀ x : ComponentStatus, x.component = "Scaler" → x ∈ l' → x ∈ l) : Alike l' := by
  intro x first y second scaler scaler'
  exact alike x (members x scaler first) y (members y scaler' second) scaler scaler'

theorem Alike.stable (relies : ∀ e, permit e → Rely e) :
    Stable permit (fun w => Alike (entries w.state)) := by
  intro w choice op allowed alike unchanged
  apply Alike.transfer alike
  intro x scaler stored
  rw [World.extend_state, unchanged] at stored
  exact ((relies _ allowed).scaler x scaler).mp stored

def scalerPass : Prog Unit := do
  match ← getOpenSearchCluster with
  | .error _ => return ()
  | .ok cr =>
    let _ ← reconcile cr
    return ()

theorem safe_scalerPass (inv : T.Inv w) (alike : Alike (entries w.state)) :
    Safe permit T.Inv scalerPass (fun _ => T.Inv) w := by
  have stable : Stable permit (fun w => T.Inv w ∧ Alike (entries w.state)) :=
    fun w choice op allowed both unchanged =>
      ⟨Tracking.Inv.stable w choice op allowed both.1 unchanged,
        Alike.stable T.relies w choice op allowed both.2 unchanged⟩
  apply (safe_read .getCluster rfl stable (fun w both => both.1) ⟨inv, alike⟩).bind
  intro reply w ⟨⟨inv, alike⟩, ⟨e, allowed, before⟩, answered⟩
  rcases answered with ⟨fault, rfl⟩ | rfl
  · exact inv
  have rely := T.relies e allowed
  apply (safe_reconcile (before ▸ rely.smart) (before ▸ rely.distinct)
    (starting_of_read inv alike rfl)).bind
  exact fun _ w inv => inv

end Reconcile

end OpenSearchOperator.Reconcilers.Scaler
