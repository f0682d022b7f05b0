import OpenSearchOperator.Reconcilers.ScalerTracking

/-! What the stages of the scaler do to a node pool, its StatefulSet and its
entries, for any tracking. -/

namespace OpenSearchOperator.Reconcilers.Scaler

open Api Data Effects
open Gateway Helpers

variable {permit : ApiEvent → Prop} {T : Tracking permit} {w : ApiWorld} {e : ApiEvent}
  {cr : OpenSearchCluster} {rest : List NodePool} {snapshot : List ComponentStatus}

section Gateway

variable {inv K : ApiWorld → Prop}

/-- Appending to the list keeps what else is on it, if nobody else writes it. -/
theorem safe_appendExcludeNodeHost (T : Tracking permit) (sts : String) (k : Int)
    (plain : Plain sts) (implied : ∀ w, K w → inv w) (stable : Stable permit K)
    (put : ∀ w e value, K w → e.prior = w.state → permit e → e.after = e.before.withExclude value →
      (T.watches → ∀ name ∈ excludedNames e.before.settings.exclude, name ∈ excludedNames value) →
      K (w.extend e)) (holds : K w) : Safe permit inv (appendExcludeNodeHost (ordinalName sts k))
      (fun result w => K w ∧ (result.2 = none → T.excluded sts k w)) w := by
  apply (safe_asked .getClusterSettings (implied w holds)).bind
  rintro reply _ ⟨first, allowed, rfl, heard⟩
  have kept := stable w first _ allowed holds
    ((quiet_request .getClusterSettings rfl).after_eq w first)
  cases reply with
  | error err => exact ⟨kept, nofun⟩
  | ok settings =>
    let list := appendExclusion settings.exclude (ordinalName sts k)
    have current : (asked w first .getClusterSettings).after.settings = settings := by
      rw [(quiet_request .getClusterSettings rfl).after_eq]
      exact Except.ok.inj (congrArg Prod.fst (request_answered heard))
    apply (safe_asked (.putClusterSettings (excludeSetting list)) (implied _ kept)).bind
    rintro reply _ ⟨second, permitted, rfl, told⟩
    rcases putExclude_cases (w.extend (asked w first .getClusterSettings)) second
        (excludeValue list) with ⟨err, failed, after⟩ | ⟨answered, after⟩
    · cases told.symm.trans failed
      exact ⟨stable _ second _ permitted kept after, nofun⟩
    have kept := put _ _ _ kept rfl permitted after fun watched name listed => by
      rw [T.owned watched _ permitted] at listed
      apply appendExclusion_keeps (plain_ordinalName k plain)
      rw [← current]
      exact listed
    cases reply with
    | error err => exact ⟨kept, nofun⟩
    | ok _ =>
      exact ⟨kept, fun _ => T.appended sts k w first second settings plain heard allowed
        permitted told⟩

theorem safe_removeExcludeNodeHost (T : Tracking permit) (node : String)
    (implied : ∀ w, K w → inv w) (stable : Stable permit K)
    (put : ∀ w e value, K w → e.prior = w.state → permit e → e.after = e.before.withExclude value →
      (T.watches → ∀ name ∈ excludedNames e.before.settings.exclude, Plain name → name ≠ node →
        name ∈ excludedNames value) → K (w.extend e)) (holds : K w) :
    Safe permit inv (removeExcludeNodeHost node) (fun _ => K) w := by
  refine (safe_read .getClusterSettings rfl stable implied holds).bind ?_
  rintro reply w ⟨kept, _, answered⟩
  rcases answered with ⟨fault, rfl⟩ | rfl
  · exact kept
  have response : (serve w.state .getClusterSettings).1 = .ok w.state.settings := rfl
  simp only [response]
  cases current : w.state.settings.exclude with
  | none => exact kept
  | some val =>
    by_cases empty : val = ""
    · simp only [empty, if_true]
      exact kept
    simp only [empty, if_false]
    apply (safe_asked (.putClusterSettings (excludeSetting (removeExclusion val node)))
      (implied w kept)).bind
    rintro reply _ ⟨choice, permitted, rfl, _⟩
    have kept : K (w.extend (asked w choice
        (.putClusterSettings (excludeSetting (removeExclusion val node))))) := by
      rcases putExclude_cases w choice (excludeValue (removeExclusion val node)) with
        ⟨err, _, after⟩ | ⟨_, after⟩
      · exact stable w choice _ permitted kept after
      apply put w _ _ kept rfl permitted after
      intro watched name listed plain other
      rw [T.owned watched _ permitted] at listed
      exact removeExclusion_keeps other (current ▸ listed)
    cases reply <;> exact kept

theorem safe_hasShardsOnNode (T : Tracking permit) (sts : String) (k : Int)
    (implied : ∀ w, K w → inv w) (stable : Stable permit K) (holds : K w)
    (excluded : 0 ≤ k → T.excluded sts k w) :
    Safe permit inv (hasShardsOnNode (ordinalName sts k)) (fun result w => K w ∧ (result.1 = false →
        (∃ x ∈ entries w.state, x.component = "Scaler" ∧ x.status = "Excluded") ∨
          result.2 = none → 0 ≤ k → T.drained sts k w)) w := by
  apply (safe_asked .catShards (implied w holds)).bind
  rintro reply _ ⟨choice, allowed, rfl, told⟩
  have unchanged := (quiet_request .catShards rfl).after_eq w choice
  have kept := stable w choice _ allowed holds unchanged
  have drained : (∀ shards, reply = .ok shards →
      hasShardsOnNodeFromResponse shards (ordinalName sts k) = false) →
      (∃ x ∈ entries (asked w choice .catShards).after,
        x.component = "Scaler" ∧ x.status = "Excluded") ∨ (∃ shards, reply = .ok shards) →
      0 ≤ k → T.drained sts k (w.extend (asked w choice .catShards)) := by
    intro clear either nonnegative
    rw [unchanged, ← told] at either
    exact T.listed sts k w choice allowed (excluded nonnegative) either fun shards answered =>
      clear shards (told.symm.trans answered)
  cases reply with
  | error err =>
    refine ⟨kept, fun _ either => drained nofun ?_⟩
    rcases either with staged | impossible
    · exact Or.inl staged
    · cases impossible
  | ok shards =>
    refine ⟨kept, fun clear _ => drained ?_ (Or.inr ⟨shards, rfl⟩)⟩
    intro other same
    cases same
    exact clear

theorem safe_cleanStaleNames (T : Tracking permit) (cr : OpenSearchCluster) (names : List String)
    (implied : ∀ w, K w → inv w) (stable : Stable permit K)
    (put : ∀ w e value, K w → e.prior = w.state → permit e →
      e.after = e.before.withExclude value → K (w.extend e)) (holds : K w) :
    Safe permit inv (cleanStaleNames cr names) (fun _ => K) w := by
  induction names generalizing w with
  | nil => exact holds
  | cons name names ih =>
    apply (safe_reads (reads_isPodStale name) stable implied holds).bind
    intro stale w holds
    match stale with
    | .error err => exact holds
    | .ok false => exact ih holds
    | .ok true =>
      apply (safe_removeExcludeNodeHost T name implied stable
        (fun w e value kept prior allowed after _ => put w e value kept prior allowed after)
        holds).bind
      intro ⟨ok, err⟩ w holds
      change Safe permit inv (if err.isSome || !ok then _ else _) _ w
      split
      · exact holds
      · exact ih holds

theorem safe_cleanStaleExclusionList (T : Tracking permit) (cr : OpenSearchCluster)
    (implied : ∀ w, K w → inv w) (stable : Stable permit K)
    (put : ∀ w e value, K w → e.prior = w.state → permit e →
      e.after = e.before.withExclude value → K (w.extend e)) (holds : K w) :
    Safe permit inv (cleanStaleExclusionList cr) (fun _ => K) w := by
  apply (safe_reads reads_getExcludedNodeNames stable implied holds).bindOk
  · exact fun _ _ holds => holds
  intro excluded w holds
  exact safe_cleanStaleNames T cr excluded implied stable put holds

end Gateway

section Pool

variable {pool : String} {r : Int}

variable {value : Option String} {x c : ComponentStatus} {sts : String}

theorem size_kept (T : Tracking permit) (prior : e.prior = w.state)
    (allowed : permit e) (size : w.state.size sts = some r) : e.before.size sts = some r := by
  rcases (T.relies e allowed).size sts with same | ⟨missing, _⟩
  · rw [same, prior, size]
  · rw [prior, size] at missing
    cases missing

structure AtPool (T : Tracking permit) (cr : OpenSearchCluster) (rest : List NodePool)
    (snapshot : List ComponentStatus) (pool : String) (r : Int) (w : ApiWorld) : Prop
    extends Holding T cr rest snapshot w where
  size : w.state.size (poolSts cr.name pool) = some r

theorem AtPool.inv (at' : AtPool T cr rest snapshot pool r w) : T.Inv w := at'.toHolding.inv

theorem AtPool.stable : Stable permit (AtPool T cr rest snapshot pool r) := by
  intro w choice op allowed here unchanged
  refine ⟨Holding.stable w choice op allowed here.toHolding unchanged, ?_⟩
  change (w.arrive choice op).after.size _ = _
  rw [unchanged]
  exact size_kept T rfl allowed here.size

theorem Holding.putExclude (holding : Holding T cr rest snapshot w) (prior : e.prior = w.state)
    (allowed : permit e) (after : e.after = e.before.withExclude value)
    (listed : ∀ x, x ∈ entries w.state ∨ x ∈ snapshot → Staged x →
      KeepsListed T.watches (poolSts cr.name x.description) e) :
    Holding T cr rest snapshot (w.extend e) := by
  have same : ∀ sts, e.after.size sts = e.before.size sts := by
    intro sts
    rw [after]
    rfl
  apply holding.step prior allowed (by rw [after]; rfl) (lowers_same same)
  · intro x _ missing
    rw [← same, missing]
  · exact fun x _ _ => shrinks_same same
  · exact listed

theorem AtPool.putExclude (here : AtPool T cr rest snapshot pool r w) (prior : e.prior = w.state)
    (allowed : permit e) (after : e.after = e.before.withExclude value)
    (listed : ∀ sts, KeepsListed T.watches sts e) :
    AtPool T cr rest snapshot pool r (w.extend e) := by
  refine ⟨here.toHolding.putExclude prior allowed after (fun x _ _ => listed _), ?_⟩
  change e.after.size _ = _
  rw [after]
  exact size_kept T prior allowed here.size

theorem keepsListed_grow (after : e.after = e.before.withExclude value)
    (growing : T.watches → ∀ name ∈ excludedNames e.before.settings.exclude,
      name ∈ excludedNames value) (sts : String) : KeepsListed T.watches sts e := by
  intro watched k _ _ listed
  rw [after]
  exact growing watched _ listed

def Local (pool : String) (f : List ComponentStatus → List ComponentStatus) : Prop :=
  ∀ l x, ¬ IsEntry pool x → (x ∈ f l ↔ x ∈ l)

theorem not_equal_of_not_entry (entry : IsEntry pool c)
    (other : ¬ IsEntry pool x) : componentStatusEqual x c = false := by
  rw [Bool.eq_false_iff]
  intro equal
  simp only [componentStatusEqual, Bool.and_eq_true, beq_iff_eq] at equal
  exact other ⟨equal.1.1.trans entry.1, equal.1.2.trans entry.2⟩

theorem local_removeIt (entry : IsEntry pool c) : Local pool (removeIt c) := by
  intro l x other
  apply List.mem_eraseP_of_neg
  simp [not_equal_of_not_entry entry other]

theorem local_replace {add : ComponentStatus} (entry : IsEntry pool c)
    (new : IsEntry pool add) : Local pool (replace c add) := by
  intro l x other
  rw [replace, List.mem_append, local_removeIt entry l x other, List.mem_singleton]
  constructor
  · intro either
    rcases either with old | rfl
    · exact old
    · exact absurd new other
  · exact Or.inl

/-- The stored entries are overwritten, and the snapshot may have changed too. -/
theorem AtPool.overwrite (here : AtPool T cr rest snapshot pool r w) (prior : e.prior = w.state)
    (allowed : permit e) (unchanged : e.before.cluster = w.state.cluster)
    {list snapshot' : List ComponentStatus} (after : e.after = e.before.withStatus
      { w.state.cluster.status with componentsStatus := list })
    (stored : ∀ x ∈ list, Staged x → T.Tracked cr.name x w ∧
      (w.state.size (poolSts cr.name x.description) = none → x ∈ entries w.state))
    (snapped : ∀ x ∈ snapshot', Staged x → x ∈ snapshot)
    (fresh : ∀ p ∈ rest, Fresh p.component list snapshot') (absent : ∀ x ∈ snapshot', Staged x →
      w.state.size (poolSts cr.name x.description) = none → x ∈ list) :
    AtPool T cr rest snapshot' pool r (w.extend e) := by
  have same : ∀ sts, e.after.size sts = e.before.size sts := by
    intro sts
    rw [after]
    rfl
  have written : entries e.after = list := by
    rw [after]
    rfl
  have step : ∀ x, T.Tracked cr.name x w → (Staged x →
      w.state.size (poolSts cr.name x.description) = none → x ∈ entries w.state) →
      T.Tracked cr.name x (w.extend e) := by
    intro x tracked known
    apply tracked.step prior allowed here.name known
    · exact fun _ => shrinks_same same
    intro _ _ k _ _ listed
    rw [after]
    exact listed
  have missing_before : ∀ sts, e.after.size sts = none → w.state.size sts = none := by
    intro sts missing
    cases size : w.state.size sts with
    | none => rfl
    | some r' =>
      have kept := size_kept T prior allowed size
      rw [← same, missing] at kept
      cases kept
  refine ⟨⟨T.good_keep w e prior allowed (lowers_same same) here.good, ?_, ?_, ?_, ?_, ?_⟩, ?_⟩
  · change e.after.cluster.name = cr.name
    rw [after]
    exact (congrArg OpenSearchCluster.name unchanged).trans here.name
  · intro x member staged
    change x ∈ entries e.after at member
    rw [written] at member
    obtain ⟨tracked, known⟩ := stored x member staged
    exact step x tracked (fun _ => known) staged
  · intro x member staged
    have old := snapped x member staged
    exact step x (here.snapped x old) (here.absent x old) staged
  · intro p coming
    change Fresh p.component (entries e.after) snapshot'
    rw [written]
    exact fresh p coming
  · intro x member staged missing
    change x ∈ entries e.after
    rw [written]
    exact absent x member staged (missing_before _ missing)
  · change e.after.size _ = _
    rw [same]
    exact size_kept T prior allowed here.size

theorem AtPool.not_entry (here : AtPool T cr rest snapshot pool r w)
    (missing : w.state.size (poolSts cr.name x.description) = none) : ¬ IsEntry pool x := by
  intro entry
  rw [entry.2, here.size] at missing
  cases missing

theorem not_entry_of_rest (others : ∀ p ∈ rest, p.component ≠ pool) {p : NodePool}
    (coming : p ∈ rest) (entry : IsEntry p.component x) : ¬ IsEntry pool x := by
  intro entry'
  exact others p coming (entry.2.symm.trans entry'.2)

theorem AtPool.write (here : AtPool T cr rest snapshot pool r w) (prior : e.prior = w.state)
    (allowed : permit e) (unchanged : e.before.cluster = w.state.cluster)
    {f : List ComponentStatus → List ComponentStatus} (after : e.after = e.before.withStatus
      { w.state.cluster.status with componentsStatus := f (entries w.state) })
    (islocal : Local pool f) (others : ∀ p ∈ rest, p.component ≠ pool)
    (new : ∀ x ∈ f (entries w.state), IsEntry pool x →
      x ∈ entries w.state ∨ T.Tracked cr.name x w) :
    AtPool T cr rest snapshot pool r (w.extend e) := by
  apply here.overwrite prior allowed unchanged after
  · intro x member staged
    by_cases entry : IsEntry pool x
    · have present : ¬ w.state.size (poolSts cr.name x.description) = none :=
        fun missing => here.not_entry missing entry
      rcases new x member entry with old | tracked
      · exact ⟨here.stored x old, fun _ => old⟩
      · exact ⟨tracked, fun missing => absurd missing present⟩
    · have old := (islocal _ x entry).mp member
      exact ⟨here.stored x old, fun _ => old⟩
  · exact fun x member _ => member
  · intro p coming
    have fresh := here.fresh p coming
    refine ⟨fun x entry => ?_, fresh.alike⟩
    rw [islocal _ x (not_entry_of_rest others coming entry)]
    exact fresh.same x entry
  · intro x member staged missing
    rw [islocal _ x (here.not_entry missing)]
    exact here.absent x member staged missing

theorem poolSts_injective {cluster first second : String}
    (same : poolSts cluster first = poolSts cluster second) : first = second := by
  rw [poolSts, poolSts, String.append_right_inj] at same
  exact same

/-- A StatefulSet changes its size, and no entry of its pool stands for a node
below the new last one. -/
theorem Holding.resize (holding : Holding T cr rest snapshot w) (prior : e.prior = w.state)
    (allowed : permit e) {replicas : Int}
    (resized : Resized e.before e.after sts replicas) (lowers : LowersDrained T.drained w e)
    (below : ∀ x, x ∈ entries w.state ∨ x ∈ snapshot → Staged x →
      poolSts cr.name x.description = sts → ∃ r, e.before.size sts = some r ∧ replicas ≤ r) :
    Holding T cr rest snapshot (w.extend e) := by
  apply holding.step prior allowed resized.cluster lowers
  · intro x _ missing
    rw [resized.size] at missing
    by_cases same : poolSts cr.name x.description = sts
    · simp [same] at missing
    · simpa [same] using missing
  · intro x member staged r' after
    rw [resized.size] at after
    by_cases same : poolSts cr.name x.description = sts
    · rw [if_pos same] at after
      cases after
      obtain ⟨r, before, smaller⟩ := below x member staged same
      exact ⟨r, same ▸ before, smaller⟩
    · rw [if_neg same] at after
      exact ⟨r', after, Int.le_refl r'⟩
  · intro x _ _ _ k _ _ listed
    rw [resized.settings]
    exact listed

/-- Taking a node off the list that no longer is the last of its StatefulSet. -/
theorem keepsListed_remove (T : Tracking permit) (allowed : permit e) {k : Int}
    (nonnegative : 0 ≤ k) (after : e.after = e.before.withExclude value)
    (others : T.watches → ∀ name ∈ excludedNames e.before.settings.exclude, Plain name →
      name ≠ ordinalName sts k → name ∈ excludedNames value)
    {other : String} (gone : e.before.size other = some (k + 1) → other ≠ sts) :
    KeepsListed T.watches other e := by
  intro watched k' nonnegative' size listed
  have before : e.before.size other = some (k' + 1) := by
    rw [after] at size
    exact size
  have plain : Plain other := by
    cases there : e.before.statefulSets.get other with
    | none => simp [State.size, there] at before
    | some found => exact (T.relies e allowed).plain other found there
  rw [after]
  apply others watched _ listed (plain_ordinalName k' plain)
  intro same
  have numbers : ordinalName other k'.toNat = ordinalName sts k.toNat := by
    rw [Int.toNat_of_nonneg nonnegative', Int.toNat_of_nonneg nonnegative]
    exact same
  obtain ⟨rfl, equal⟩ := ordinalName_injective numbers
  have identical : k' = k := by omega
  exact gone (identical ▸ before) rfl

end Pool

section Steps

variable {pool : String} {r : Int} {sts : StatefulSet}

variable {c stage : ComponentStatus}

theorem AtPool.there (here : AtPool T cr rest snapshot pool r w)
    (witnessed : Witnessed permit w.state) {replicas : Int} (different : r ≠ replicas) :
    ∃ sts, w.state.statefulSets.get (poolSts cr.name pool) = some sts ∧ sts.deleting = false ∧
      sts.replicas ≠ replicas := by
  obtain ⟨e, allowed, before⟩ := witnessed
  have size := here.size
  cases found : w.state.statefulSets.get (poolSts cr.name pool) with
  | none => simp [State.size, found] at size
  | some sts =>
    simp only [State.size, found, Option.map_some, Option.some.injEq] at size
    refine ⟨sts, rfl, ?_, by rw [size]; exact different⟩
    exact (T.relies e allowed).alive _ sts (before.symm ▸ found)

structure Idle (T : Tracking permit) (cr : OpenSearchCluster) (rest : List NodePool)
    (snapshot : List ComponentStatus) (pool : String) (r : Int) (w : ApiWorld) : Prop
    extends AtPool T cr rest snapshot pool r w where
  unstaged : ∀ x, IsEntry pool x → x ∈ entries w.state ∨ x ∈ snapshot → ¬ Staged x

theorem Idle.keep (idle : Idle T cr rest snapshot pool r w) (prior : e.prior = w.state)
    (allowed : permit e) (here : AtPool T cr rest snapshot pool r (w.extend e))
    (untouched : e.after.cluster = e.before.cluster) :
    Idle T cr rest snapshot pool r (w.extend e) := by
  refine ⟨here, ?_⟩
  intro x entry either
  apply idle.unstaged x entry
  rcases either with stored | snapped
  · change x ∈ entries e.after at stored
    rw [entries, untouched] at stored
    exact Or.inl (prior ▸ ((T.relies e allowed).scaler x entry.1).mp stored)
  · exact Or.inr snapped

theorem Idle.stable : Stable permit (Idle T cr rest snapshot pool r) := by
  intro w choice op allowed idle unchanged
  have here := AtPool.stable w choice op allowed idle.toAtPool unchanged
  exact idle.keep rfl allowed here (by rw [unchanged])

theorem safe_increaseOneNode (named : sts.name = poolSts cr.name pool) (size : sts.replicas = r)
    (idle : Idle T cr rest snapshot pool r w) :
    Safe permit T.Inv (increaseOneNode sts) (fun _ => Holding T cr rest snapshot) w := by
  let desired := { sts with replicas := increment sts.replicas }
  have reconciled : Safe permit T.Inv (reconcileResource desired .present) (fun result w =>
      (result.2.1 = none → Holding T cr rest snapshot w) ∧
      (Idle T cr rest snapshot pool r w ∨ Holding T cr rest snapshot w)) w := by
    apply safe_reconcilePresent desired ?_ (fun w idle => idle.toAtPool.inv) Idle.stable ?_ idle
    · intro w idle witnessed
      rw [named]
      apply idle.toAtPool.there witnessed
      rw [← size]
      exact (increment_ne sts.replicas).symm
    · intro w e idle prior allowed resized
      have before := size_kept T prior allowed idle.size
      apply idle.toHolding.resize prior allowed resized
      · intro other r₁ r₂ first second less
        rw [resized.size] at second
        by_cases same : other = sts.name
        · rw [if_pos same] at second
          rw [same, named, before] at first
          cases first
          have raised : increment sts.replicas = r₂ := Option.some.inj second
          have next := (increment_accepted resized.nonnegative).1
          omega
        · rw [if_neg same, first] at second
          cases second
          omega
      · intro x member staged same
        have entry : IsEntry pool x := ⟨staged.1, poolSts_injective (same.trans named)⟩
        exact absurd staged (idle.unstaged x entry member)
  refine reconciled.bind ?_
  intro ⟨result, err, object⟩ w ⟨_, either⟩
  have holding : Holding T cr rest snapshot w := by
    rcases either with idle | holding
    · exact idle.toHolding
    · exact holding
  cases err <;> exact holding

theorem safe_replaceEntry {K : ApiWorld → Prop} {add : ComponentStatus} (entry : IsEntry pool c)
    (new : IsEntry pool add) (others : ∀ p ∈ rest, p.component ≠ pool)
    (here : ∀ w, K w → AtPool T cr rest snapshot pool r w) (stable : Stable permit K)
    (tracked : ∀ w, K w → T.Tracked cr.name add w) (holds : K w) :
    Safe permit T.Inv (updateComponents (replace c add))
      (fun _ => AtPool T cr rest snapshot pool r) w := by
  apply safe_settleStatus _ (fun w kept => (here w kept).inv) stable here _ holds
  intro w e kept prior allowed unchanged after
  apply (here w kept).write prior allowed unchanged after (local_replace entry new) others
  intro x member _
  rcases mem_replace member with old | rfl
  · exact Or.inl old
  · exact Or.inr (tracked w kept)

theorem unstaged_running : ¬ Staged (running pool) := by
  intro staged
  rcases staged.2 with excluded | drained
  · exact absurd excluded (by simp [running, scalerStatus])
  · exact absurd drained (by simp [running, scalerStatus])

theorem safe_resetRunning (entry : IsEntry pool c) (others : ∀ p ∈ rest, p.component ≠ pool)
    (here : AtPool T cr rest snapshot pool r w) :
    Safe permit T.Inv (updateComponents (replace c (running pool)))
      (fun _ => AtPool T cr rest snapshot pool r) w :=
  safe_replaceEntry entry ⟨rfl, rfl⟩ others (fun _ here => here) AtPool.stable
    (fun _ _ staged => absurd staged unstaged_running) here

structure Reached (T : Tracking permit) (cr : OpenSearchCluster) (rest : List NodePool)
    (snapshot : List ComponentStatus) (pool : String) (r : Int) (stage : ComponentStatus)
    (w : ApiWorld) : Prop extends AtPool T cr rest snapshot pool r w where
  reached : 0 ≤ r - 1 → T.reached stage (poolSts cr.name pool) (r - 1) w

theorem Reached.stable : Stable permit (Reached T cr rest snapshot pool r stage) := by
  intro w choice op allowed before unchanged
  refine ⟨AtPool.stable w choice op allowed before.toAtPool unchanged, ?_⟩
  intro nonnegative
  apply T.reached_keep rfl allowed ?_ (before.reached nonnegative)
  refine ⟨by rw [unchanged], fun _ listed => ?_⟩
  rw [unchanged]
  exact listed

theorem Reached.tracked (reached : Reached T cr rest snapshot pool r stage w)
    (entry : IsEntry pool stage)
    (noted : stage.conditions = [ordinalName (poolSts cr.name pool) (r - 1)]) :
    T.Tracked cr.name stage w := by
  intro _
  rw [entry.2]
  refine ⟨r - 1, noted, ?_⟩
  intro r' size
  have same : r = r' := Option.some.inj (reached.size.symm.trans size)
  exact ⟨by omega, fun _ nonnegative => reached.reached nonnegative⟩

theorem safe_writeStage (entry : IsEntry pool c) (new : IsEntry pool stage)
    (others : ∀ p ∈ rest, p.component ≠ pool)
    (noted : stage.conditions = [ordinalName (poolSts cr.name pool) (r - 1)])
    (reached : Reached T cr rest snapshot pool r stage w) :
    Safe permit T.Inv (updateComponents (replace c stage))
      (fun _ => AtPool T cr rest snapshot pool r) w :=
  safe_replaceEntry entry new others (fun _ before => before.toAtPool) Reached.stable
    (fun _ before => before.tracked new noted) reached

theorem safe_excludeNode (entry : IsEntry pool c) (others : ∀ p ∈ rest, p.component ≠ pool)
    (plain : Plain (poolSts cr.name pool)) (named : sts.name = poolSts cr.name pool)
    (size : sts.replicas = r) (idle : Idle T cr rest snapshot pool r w) :
    Safe permit T.Inv (excludeNode c sts pool) (fun _ => Holding T cr rest snapshot) w := by
  have node : replicaHostName sts (sts.replicas - 1) =
      ordinalName (poolSts cr.name pool) (r - 1) := by
    rw [replicaHostName, named, size]
  apply (safe_read .createClient rfl Idle.stable (fun w idle => idle.toAtPool.inv) idle).bindOk
  · rintro err w ⟨idle, _, answered⟩
    exact idle.toHolding
  rintro _ w ⟨idle, _, answered⟩
  have appended : Safe permit T.Inv
      (appendExcludeNodeHost (ordinalName (poolSts cr.name pool) (r - 1)))
      (fun result w => Idle T cr rest snapshot pool r w ∧
        (result.2 = none → T.excluded (poolSts cr.name pool) (r - 1) w)) w := by
    apply safe_appendExcludeNodeHost T _ _ plain (fun w idle => idle.toAtPool.inv) Idle.stable
      ?_ idle
    intro w e value idle prior allowed after growing
    have here := idle.toAtPool.putExclude prior allowed after (keepsListed_grow after growing)
    exact idle.keep prior allowed here (by rw [after]; rfl)
  simp only [node]
  apply appended.bindDone
  · rintro excluded err w ⟨idle, done⟩
    exact idle.toHolding
  rintro excluded w ⟨idle, done⟩
  cases excluded with
  | false =>
    exact (safe_resetRunning entry others idle.toAtPool).mono fun _ _ => AtPool.toHolding
  | true =>
    apply (safe_writeStage entry ⟨rfl, rfl⟩ others rfl ?_).mono fun _ _ => AtPool.toHolding
    exact ⟨idle.toAtPool, fun _ => ⟨fun _ => done rfl,
      fun other => absurd other (by simp [scalerStatus])⟩⟩

/-- An entry in a stage names the node it is about; the pool is no larger than
the node's ordinal allows. -/
theorem AtPool.target (here : AtPool T cr rest snapshot pool r w) (entry : IsEntry pool c)
    (staged : Staged c) (stored : c ∈ entries w.state) :
    ∃ k, c.conditions = [ordinalName (poolSts cr.name pool) k] ∧
      (r = k + 1 → 0 ≤ k → T.reached c (poolSts cr.name pool) k w) := by
  obtain ⟨k, noted, bound⟩ := here.stored c stored staged
  rw [entry.2] at noted bound
  exact ⟨k, noted, (bound r here.size).2⟩

structure Stored (T : Tracking permit) (cr : OpenSearchCluster) (rest : List NodePool)
    (snapshot : List ComponentStatus) (pool : String) (r : Int) (c : ComponentStatus)
    (w : ApiWorld) : Prop extends AtPool T cr rest snapshot pool r w where
  present : c ∈ entries w.state

theorem Stored.stable (entry : IsEntry pool c) :
    Stable permit (Stored T cr rest snapshot pool r c) := by
  intro w choice op allowed before unchanged
  refine ⟨AtPool.stable w choice op allowed before.toAtPool unchanged, ?_⟩
  change c ∈ entries (w.arrive choice op).after
  rw [unchanged]
  exact ((T.relies _ allowed).scaler c entry.1).mpr before.present

theorem safe_drainNode (entry : IsEntry pool c) (stage : c.status = "Excluded")
    (others : ∀ p ∈ rest, p.component ≠ pool) (named : sts.name = poolSts cr.name pool)
    (size : sts.replicas = r) (here : Stored T cr rest snapshot pool r c w) :
    Safe permit T.Inv (drainNode c sts pool) (fun _ => Holding T cr rest snapshot) w := by
  have staged : Staged c := ⟨entry.1, Or.inl stage⟩
  have node : replicaHostName sts (sts.replicas - 1) =
      ordinalName (poolSts cr.name pool) (r - 1) := by
    rw [replicaHostName, named, size]
  obtain ⟨k, noted, _⟩ := here.toAtPool.target entry staged here.present
  have target : drainTarget c sts = ordinalName (poolSts cr.name pool) k := by
    rw [drainTarget, noted]
  simp only [drainNode, target, node]
  by_cases same : ordinalName (poolSts cr.name pool) k = ordinalName (poolSts cr.name pool) (r - 1)
  · have last : k = r - 1 := ordinalName_ordinal same
    simp only [same, ne_eq, not_true_eq_false, if_false]
    apply (safe_read .createClient rfl (Stored.stable entry)
      (fun w before => before.toAtPool.inv) here).bindOk
    · rintro err w ⟨here, _, _⟩
      exact here.toHolding
    rintro _ w ⟨here, _, _⟩
    have excluded : 0 ≤ r - 1 → T.excluded (poolSts cr.name pool) (r - 1) w := by
      intro nonnegative
      obtain ⟨k', noted', reached⟩ := here.toAtPool.target entry staged here.present
      have equal : k' = k := by
        rw [noted, List.cons.injEq] at noted'
        exact (ordinalName_ordinal noted'.1).symm
      subst equal
      exact last ▸ (reached (by omega) (by omega)).1 stage
    have listed := safe_hasShardsOnNode T (poolSts cr.name pool) (r - 1)
      (fun w (before : Stored T cr rest snapshot pool r c w) => before.toAtPool.inv)
      (Stored.stable entry) here excluded
    refine listed.bind ?_
    rintro ⟨nodeNotEmpty, err⟩ w ⟨here, drained⟩
    cases nodeNotEmpty with
    | true => exact here.toHolding
    | false =>
      apply (safe_writeStage entry ⟨rfl, rfl⟩ others rfl ?_).mono fun _ _ => AtPool.toHolding
      refine ⟨here.toAtPool, fun nonnegative =>
        ⟨fun other => absurd other (by simp [scalerStatus]), fun _ => ?_⟩⟩
      exact drained rfl (Or.inl ⟨c, here.present, entry.1, stage⟩) nonnegative
  · simp only [same, ne_eq, not_false_eq_true, if_true]
    refine (safe_resetRunning entry others here.toAtPool).bind ?_
    intro _ w here
    exact here.toHolding

theorem Reached.resizeDown (here : Reached T cr rest snapshot pool r c w)
    (drained : c.status = "Drained") (prior : e.prior = w.state) (allowed : permit e)
    (resized : Resized e.before e.after (poolSts cr.name pool) (r - 1)) :
    AtPool T cr rest snapshot pool (r - 1) (w.extend e) := by
  have before := size_kept T prior allowed here.size
  have size : e.after.size (poolSts cr.name pool) = some (r - 1) := by
    rw [resized.size, if_pos rfl]
  refine ⟨here.toHolding.resize prior allowed resized ?_ ?_, size⟩
  · intro other r₁ r₂ first second less
    rw [resized.size] at second
    by_cases same : other = poolSts cr.name pool
    · rw [same, before] at first
      rw [if_pos same] at second
      cases first
      cases second
      refine ⟨by omega, ?_⟩
      rw [same]
      exact (here.reached resized.nonnegative).2 drained
    · rw [if_neg same, first] at second
      cases second
      omega
  · intro x _ _ _
    exact ⟨r, before, by omega⟩

/-- Behind the check of the target: the size goes down, the entry goes away and
only then is the node taken off the exclude list. -/
theorem safe_removeLastNode (entry : IsEntry pool c) (drained : c.status = "Drained")
    (others : ∀ p ∈ rest, p.component ≠ pool) (named : sts.name = poolSts cr.name pool)
    (size : sts.replicas = r) (smart : Bool) (here : Reached T cr rest snapshot pool r c w) :
    Safe permit T.Inv (removeLastNode c sts smart) (fun _ => Holding T cr rest snapshot) w := by
  let desired := { sts with replicas := sts.replicas - 1 }
  let Lower := fun w => AtPool T cr rest snapshot pool (r - 1) w ∧ 0 ≤ r - 1
  have steady : Stable permit Lower := fun w choice op allowed lower unchanged =>
    ⟨AtPool.stable w choice op allowed lower.1 unchanged, lower.2⟩
  have reconciled : Safe permit T.Inv (reconcileResource desired .present) (fun result w =>
      (result.2.1 = none → Lower w) ∧ (Reached T cr rest snapshot pool r c w ∨ Lower w)) w := by
    apply safe_reconcilePresent desired ?_ (fun w before => before.toAtPool.inv) Reached.stable
      ?_ here
    · intro w before witnessed
      rw [named]
      apply before.toAtPool.there witnessed
      change r ≠ sts.replicas - 1
      omega
    · intro w e before prior allowed resized
      have target : Resized e.before e.after (poolSts cr.name pool) (r - 1) := by
        rw [← named, ← size]
        exact resized
      exact ⟨before.resizeDown drained prior allowed target, target.nonnegative⟩
  refine reconciled.bind ?_
  intro ⟨result, err, object⟩ w ⟨done, either⟩
  cases err with
  | some err =>
    rcases either with before | lower
    · exact before.toHolding
    · exact lower.1.toHolding
  | none =>
    have removed : Safe permit T.Inv (updateComponents (removeIt c)) (fun _ => Lower) w := by
      apply safe_settleStatus _ (fun w lower => lower.1.inv) steady (fun _ lower => lower) _
        (done rfl)
      intro w e lower prior allowed unchanged after
      refine ⟨lower.1.write prior allowed unchanged after (local_removeIt entry) others ?_, lower.2⟩
      exact fun x member _ => Or.inl (mem_of_mem_removeIt member)
    refine removed.bind ?_
    intro err w lower
    cases err with
    | some err => exact lower.1.toHolding
    | none =>
      cases smart with
      | false => exact lower.1.toHolding
      | true =>
        apply (safe_read .createClient rfl steady (fun w lower => lower.1.inv) lower).bindOk
        · intro err w ⟨lower, _, _⟩
          exact lower.1.toHolding
        intro _ w ⟨lower, _, _⟩
        have off : Safe permit T.Inv
            (removeExcludeNodeHost (ordinalName (poolSts cr.name pool) (r - 1)))
            (fun _ => Lower) w := by
          apply safe_removeExcludeNodeHost T _ (fun w lower => lower.1.inv) steady ?_ lower
          intro w e value lower prior allowed after kept
          have before := size_kept T prior allowed lower.1.size
          refine ⟨lower.1.putExclude prior allowed after ?_, lower.2⟩
          intro other
          apply keepsListed_remove T allowed lower.2 after kept
          intro last same
          rw [same, before, Option.some.injEq] at last
          omega
        rw [replicaHostName, named, size]
        refine off.bind ?_
        intro _ w lower
        exact lower.1.toHolding

theorem safe_decreaseOneNode (entry : IsEntry pool c) (drained : c.status = "Drained")
    (others : ∀ p ∈ rest, p.component ≠ pool) (named : sts.name = poolSts cr.name pool)
    (size : sts.replicas = r) (smart : Bool) (here : Stored T cr rest snapshot pool r c w) :
    Safe permit T.Inv (decreaseOneNode c sts pool smart) (fun _ => Holding T cr rest snapshot)
      w := by
  have staged : Staged c := ⟨entry.1, Or.inr drained⟩
  have node : replicaHostName sts (sts.replicas - 1) =
      ordinalName (poolSts cr.name pool) (r - 1) := by
    rw [replicaHostName, named, size]
  obtain ⟨k, noted, reached⟩ := here.toAtPool.target entry staged here.present
  simp only [decreaseOneNode, noted, node]
  by_cases same : ordinalName (poolSts cr.name pool) (r - 1) = ordinalName (poolSts cr.name pool) k
  · simp only [same, ne_eq, not_true_eq_false, if_false]
    have last : r - 1 = k := ordinalName_ordinal same
    apply safe_removeLastNode entry drained others named size smart
    refine ⟨here.toAtPool, fun nonnegative => ?_⟩
    rw [last]
    exact reached (by omega) (by omega)
  · simp only [same, ne_eq, not_false_eq_true, if_true]
    refine (safe_resetRunning entry others here.toAtPool).bind ?_
    intro _ w here
    exact here.toHolding

end Steps

end OpenSearchOperator.Reconcilers.Scaler
