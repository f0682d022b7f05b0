import OpenSearchOperator.Reconcilers.Scaler

/-! A status entry in the stage `Excluded` or `Drained` stands for something that
happened before. `Tracking` is any reading of the two stages that the scaler's
steps respect; a pass of the scaler then keeps every entry true to it. -/

namespace OpenSearchOperator.Reconcilers.Scaler

open Api Data Effects
open Gateway Helpers

abbrev entries (s : State) : List ComponentStatus := s.cluster.status.componentsStatus

def IsEntry (pool : String) (x : ComponentStatus) : Prop :=
  x.component = "Scaler" ∧ x.description = pool

def Staged (x : ComponentStatus) : Prop :=
  x.component = "Scaler" ∧ (x.status = "Excluded" ∨ x.status = "Drained")

def poolSts (cluster pool : String) : String := cluster ++ "-" ++ pool

/-- The scaler's environment: nobody else writes Scaler entries, resizes or deletes
a StatefulSet, or creates one for a pool that is being drained. The scaler stays
smart and no two pools share a component. -/
structure Rely (e : ApiEvent) : Prop where
  scaler : ∀ x : ComponentStatus, x.component = "Scaler" →
    (x ∈ entries e.before ↔ x ∈ entries e.prior)
  name : e.before.cluster.name = e.prior.cluster.name
  size : ∀ sts, e.before.size sts = e.prior.size sts ∨ (e.prior.size sts = none ∧
    ∀ x ∈ entries e.before, Staged x → poolSts e.before.cluster.name x.description ≠ sts)
  alive : ∀ name sts, e.before.statefulSets.get name = some sts → sts.deleting = false
  plain : ∀ name sts, e.before.statefulSets.get name = some sts → Plain name
  smart : e.before.cluster.spec.confMgmt.smartScaler = true
  distinct : (e.before.cluster.spec.nodePools.map NodePool.component).Nodup

def Regular (s : State) : Prop :=
  (∀ sts ∈ s.statefulSets.items, sts.deleting = false ∧ Plain sts.name) ∧
  s.cluster.spec.confMgmt.smartScaler = true ∧
  (s.cluster.spec.nodePools.map NodePool.component).Nodup

instance (s : State) : Decidable (Regular s) := by
  unfold Regular
  infer_instance

/-- An environment that does nothing is one that the scaler can rely on. -/
theorem rely_of_regular {e : ApiEvent} (same : e.before = e.prior) (regular : Regular e.prior) :
    Rely e := by
  obtain ⟨sets, smart, distinct⟩ := regular
  constructor
  · intro x _
    rw [same]
  · rw [same]
  · intro sts
    exact Or.inl (by rw [same])
  · intro name sts there
    rw [same] at there
    exact (sets sts (Store.get_mem _ there)).1
  · intro name sts there
    rw [same] at there
    exact Store.get_key _ _ _ there ▸ (sets sts (Store.get_mem _ there)).2
  · rw [same, smart]
  · rw [same]
    exact distinct

/-- The event keeps the StatefulSet's size and, if the list is watched, the node's
place on the exclude list. -/
def Harmless (watches : Prop) (sts : String) (k : Int) (e : ApiEvent) : Prop :=
  e.after.size sts = e.before.size sts ∧
  (watches → ordinalName sts k ∈ excludedNames e.before.settings.exclude →
    ordinalName sts k ∈ excludedNames e.after.settings.exclude)

def LowersDrained (drained : String → Int → ApiWorld → Prop) (w : ApiWorld) (e : ApiEvent) :
    Prop :=
  ∀ sts r r', e.before.size sts = some r → e.after.size sts = some r' → r' < r →
    r = r' + 1 ∧ drained sts r' w

structure Tracking (permit : ApiEvent → Prop) where
  watches : Prop
  excluded : String → Int → ApiWorld → Prop
  drained : String → Int → ApiWorld → Prop
  good : ApiWorld → Prop
  relies : ∀ e, permit e → Rely e
  owned : watches → ∀ e, permit e → e.before.settings.exclude = e.prior.settings.exclude
  excluded_keep : ∀ sts k w e, e.prior = w.state → permit e → Harmless watches sts k e →
    excluded sts k w → excluded sts k (w.extend e)
  drained_keep : ∀ sts k w e, e.prior = w.state → permit e → Harmless watches sts k e →
    drained sts k w → drained sts k (w.extend e)
  good_keep : ∀ w e, e.prior = w.state → permit e → LowersDrained drained w e → good w →
    good (w.extend e)
  appended : ∀ sts k (w : ApiWorld) (first second : Choice) (settings : TransientSettings),
    let append : Request := .putClusterSettings
      (excludeSetting (appendExclusion settings.exclude (ordinalName sts k)))
    let between := w.extend (asked w first .getClusterSettings)
    Plain sts → replied w first .getClusterSettings = .ok settings →
    permit (asked w first .getClusterSettings) → permit (asked between second append) →
    replied between second append = .ok () →
    excluded sts k (between.extend (asked between second append))
  listed : ∀ sts k (w : ApiWorld) (choice : Choice),
    permit (asked w choice .catShards) → excluded sts k w →
    ((∃ x ∈ entries (asked w choice .catShards).before,
        x.component = "Scaler" ∧ x.status = "Excluded") ∨
      ∃ shards, replied w choice .catShards = .ok shards) →
    (∀ shards, replied w choice .catShards = .ok shards →
      hasShardsOnNodeFromResponse shards (ordinalName sts k) = false) →
    drained sts k (w.extend (asked w choice .catShards))

variable {permit : ApiEvent → Prop}

namespace Tracking

def reached (T : Tracking permit) (x : ComponentStatus) (sts : String) (k : Int) (w : ApiWorld) :
    Prop :=
  (x.status = "Excluded" → T.excluded sts k w) ∧ (x.status = "Drained" → T.drained sts k w)

/-- The entry notes a node that is the last of its pool, and then went through the
stage, or that is beyond the last because it was removed since. -/
def Tracked (T : Tracking permit) (cluster : String) (x : ComponentStatus) (w : ApiWorld) : Prop :=
  Staged x → ∃ k : Int, x.conditions = [ordinalName (poolSts cluster x.description) k] ∧
    ∀ r, w.state.size (poolSts cluster x.description) = some r →
      r ≤ k + 1 ∧ (r = k + 1 → 0 ≤ k → T.reached x (poolSts cluster x.description) k w)

def Inv (T : Tracking permit) (w : ApiWorld) : Prop :=
  T.good w ∧ ∀ x ∈ entries w.state, T.Tracked w.state.cluster.name x w

end Tracking

variable {T : Tracking permit} {w : ApiWorld} {e : ApiEvent} {cluster sts : String}
  {x : ComponentStatus}

theorem Tracking.reached_keep (prior : e.prior = w.state) (allowed : permit e)
    {k : Int} (harmless : Harmless T.watches sts k e) (reached : T.reached x sts k w) :
    T.reached x sts k (w.extend e) :=
  ⟨fun stage => T.excluded_keep sts k w e prior allowed harmless (reached.1 stage),
    fun stage => T.drained_keep sts k w e prior allowed harmless (reached.2 stage)⟩

def KeepsListed (watches : Prop) (sts : String) (e : ApiEvent) : Prop :=
  watches → ∀ k : Int, 0 ≤ k → e.after.size sts = some (k + 1) →
    ordinalName sts k ∈ excludedNames e.before.settings.exclude →
    ordinalName sts k ∈ excludedNames e.after.settings.exclude

def Shrinks (sts : String) (e : ApiEvent) : Prop :=
  ∀ r', e.after.size sts = some r' → ∃ r, e.before.size sts = some r ∧ r' ≤ r

theorem Tracking.Tracked.step (tracked : T.Tracked cluster x w) (prior : e.prior = w.state)
    (allowed : permit e) (named : w.state.cluster.name = cluster)
    (known : Staged x → w.state.size (poolSts cluster x.description) = none → x ∈ entries w.state)
    (shrinks : Staged x → Shrinks (poolSts cluster x.description) e)
    (listed : Staged x → KeepsListed T.watches (poolSts cluster x.description) e) :
    T.Tracked cluster x (w.extend e) := by
  intro staged
  obtain ⟨k, noted, bound⟩ := tracked staged
  refine ⟨k, noted, ?_⟩
  intro r' now
  obtain ⟨r, before, smaller⟩ := shrinks staged r' now
  have rely := T.relies e allowed
  have earlier : w.state.size (poolSts cluster x.description) = some r := by
    rcases rely.size (poolSts cluster x.description) with same | ⟨missing, unstaged⟩
    · rw [← prior, ← same, before]
    have stored := known staged (prior ▸ missing)
    have still := (rely.scaler x staged.1).mpr (prior.symm ▸ stored)
    have clash := unstaged x still staged
    rw [rely.name, prior, named] at clash
    exact absurd rfl clash
  obtain ⟨le, reached⟩ := bound r earlier
  refine ⟨by omega, ?_⟩
  intro last nonnegative
  have unchanged : r = k + 1 := by omega
  have harmless : Harmless T.watches (poolSts cluster x.description) k e := by
    refine ⟨?_, fun watched => listed staged watched k nonnegative (last ▸ now)⟩
    change e.after.size _ = some r' at now
    rw [now, before, unchanged, last]
  exact T.reached_keep prior allowed harmless (reached unchanged nonnegative)

structure Fresh (pool : String) (stored snapshot : List ComponentStatus) : Prop where
  same : ∀ x, IsEntry pool x → (x ∈ stored ↔ x ∈ snapshot)
  alike : ∀ x y, IsEntry pool x → IsEntry pool y → x ∈ snapshot → y ∈ snapshot → x = y

structure Holding (T : Tracking permit) (cr : OpenSearchCluster) (rest : List NodePool)
    (snapshot : List ComponentStatus) (w : ApiWorld) : Prop where
  good : T.good w
  name : w.state.cluster.name = cr.name
  stored : ∀ x ∈ entries w.state, T.Tracked cr.name x w
  snapped : ∀ x ∈ snapshot, T.Tracked cr.name x w
  fresh : ∀ p ∈ rest, Fresh p.component (entries w.state) snapshot
  absent : ∀ x ∈ snapshot, Staged x →
    w.state.size (poolSts cr.name x.description) = none → x ∈ entries w.state

variable {cr : OpenSearchCluster} {rest : List NodePool} {snapshot : List ComponentStatus}

theorem Holding.inv (holding : Holding T cr rest snapshot w) : T.Inv w :=
  ⟨holding.good, holding.name.symm ▸ holding.stored⟩

theorem Holding.step (holding : Holding T cr rest snapshot w) (prior : e.prior = w.state)
    (allowed : permit e) (untouched : e.after.cluster = e.before.cluster)
    (lowers : LowersDrained T.drained w e)
    (remains : ∀ x ∈ snapshot, e.after.size (poolSts cr.name x.description) = none →
      e.before.size (poolSts cr.name x.description) = none)
    (shrinks : ∀ x, x ∈ entries w.state ∨ x ∈ snapshot → Staged x →
      Shrinks (poolSts cr.name x.description) e)
    (listed : ∀ x, x ∈ entries w.state ∨ x ∈ snapshot → Staged x →
      KeepsListed T.watches (poolSts cr.name x.description) e) :
    Holding T cr rest snapshot (w.extend e) := by
  have rely := T.relies e allowed
  have members : ∀ x : ComponentStatus, x.component = "Scaler" →
      (x ∈ entries e.after ↔ x ∈ entries w.state) := by
    intro x scaler
    rw [entries, untouched, ← prior]
    exact rely.scaler x scaler
  refine ⟨T.good_keep w e prior allowed lowers holding.good, ?_, ?_, ?_, ?_, ?_⟩
  · change e.after.cluster.name = cr.name
    rw [untouched, rely.name, prior, holding.name]
  · intro x member staged
    have stored : x ∈ entries w.state := (members x staged.1).mp member
    exact (holding.stored x stored).step prior allowed holding.name (fun _ _ => stored)
      (shrinks x (Or.inl stored)) (listed x (Or.inl stored)) staged
  · intro x member
    exact (holding.snapped x member).step prior allowed holding.name (holding.absent x member)
      (shrinks x (Or.inr member)) (listed x (Or.inr member))
  · intro p coming
    have fresh := holding.fresh p coming
    exact ⟨fun x entry => (members x entry.1).trans (fresh.same x entry), fresh.alike⟩
  · intro x member staged missing
    have before := remains x member missing
    have earlier : w.state.size (poolSts cr.name x.description) = none := by
      rcases rely.size (poolSts cr.name x.description) with same | ⟨none, _⟩
      · rw [← prior, ← same, before]
      · exact prior ▸ none
    exact (members x staged.1).mpr (holding.absent x member staged earlier)

theorem lowers_same (same : ∀ sts, e.after.size sts = e.before.size sts) :
    LowersDrained T.drained w e := by
  intro sts r r' before after less
  rw [same, before] at after
  cases after
  omega

theorem shrinks_same (same : ∀ sts, e.after.size sts = e.before.size sts) : Shrinks sts e := by
  intro r' after
  exact ⟨r', by rw [← same, after], Int.le_refl r'⟩

theorem Holding.stable : Stable permit (Holding T cr rest snapshot) := by
  intro w choice op allowed holding unchanged
  have same : ∀ sts, (w.arrive choice op).after.size sts =
      (w.arrive choice op).before.size sts := by
    intro sts
    rw [unchanged]
  refine holding.step rfl allowed (by rw [unchanged]) (lowers_same same) ?_ ?_ ?_
  · intro x _ missing
    rw [← same, missing]
  · exact fun x _ _ => shrinks_same same
  intro x _ _ _ k _ _ listed
  rw [unchanged]
  exact listed

end OpenSearchOperator.Reconcilers.Scaler
