import Mathlib.Tactic.MkIffOfInductiveProp
import OpenSearchOperator.Reconcilers.ScalerDirection
import OpenSearchOperator.Reconcilers.ScalerPass

/-! How many entries a pool has. The scaler looks its entry up by component and pool
but replaces it by the status it had in the snapshot, so that a second entry appears
once the two differ. -/

namespace OpenSearchOperator.Reconcilers.Scaler

open Api Data Effects
open Gateway Helpers

def own (pool : String) (list : List ComponentStatus) : List ComponentStatus :=
  list.filter (fun x => x.component == "Scaler" && x.description == pool)

def OnePerPool (list : List ComponentStatus) : Prop := ∀ pool, (own pool list).length ≤ 1

section Lists

variable {pool : String} {c add x : ComponentStatus} {list : List ComponentStatus}

theorem mem_own : x ∈ own pool list ↔ x ∈ list ∧ IsEntry pool x := by
  simp [own, IsEntry]

theorem own_cons_entry (entry : IsEntry pool x) : own pool (x :: list) = x :: own pool list := by
  simp [own, entry.1, entry.2]

theorem own_cons_other (other : ¬ IsEntry pool x) : own pool (x :: list) = own pool list := by
  rw [own, List.filter_cons_of_neg]
  · rfl
  · simpa [IsEntry] using other

theorem onePerPool_removeIt (one : OnePerPool list) : OnePerPool (removeIt c list) := by
  intro pool
  have shorter : (own pool (removeIt c list)).Sublist (own pool list) :=
    List.eraseP_sublist.filter _
  exact Nat.le_trans shorter.length_le (one pool)

/-- If the pool has one entry at most, and that with the removed status, none is left. -/
theorem own_removeIt (entry : IsEntry pool c) (one : (own pool list).length ≤ 1)
    (like : ∀ x ∈ list, IsEntry pool x → x.status = c.status) :
    own pool (removeIt c list) = [] := by
  induction list with
  | nil => rfl
  | cons x list ih =>
    by_cases mine : IsEntry pool x
    · have equal : componentStatusEqual x c = true := by
        simp [componentStatusEqual, mine.1, mine.2, entry.1, entry.2,
          like x List.mem_cons_self mine]
      rw [own_cons_entry mine, List.length_cons] at one
      have alone : own pool list = [] := List.length_eq_zero_iff.mp (by omega)
      simp [removeIt, equal, alone]
    · have kept : removeIt c (x :: list) = x :: removeIt c list := by
        simp [removeIt, not_equal_of_not_entry entry mine]
      rw [own_cons_other mine] at one
      rw [kept, own_cons_other mine]
      exact ih one fun y member => like y (List.mem_cons_of_mem _ member)

theorem own_removeIt_other {other : String} (entry : IsEntry pool c) (different : other ≠ pool) :
    own other (removeIt c list) = own other list := by
  apply filter_removeIt
  intro x equal
  simp only [componentStatusEqual, Bool.and_eq_true, beq_iff_eq] at equal
  simp [equal.1.2, entry.2, Ne.symm different]

theorem onePerPool_replace (one : OnePerPool list) (entry : IsEntry pool c)
    (new : IsEntry pool add) (like : ∀ x ∈ list, IsEntry pool x → x.status = c.status) :
    OnePerPool (replace c add list) := by
  intro other
  rw [replace, own, List.filter_append, List.length_append]
  by_cases same : other = pool
  · have gone := own_removeIt entry (one pool) like
    rw [own] at gone
    rw [same, gone]
    exact Nat.le_trans (Nat.le_of_eq (Nat.zero_add _)) (List.length_filter_le _ [add])
  · have kept : own other (removeIt c list) = own other list := own_removeIt_other entry same
    have none_new : own other [add] = [] := by
      rw [own_cons_other (fun mine => same (mine.2.symm.trans new.2))]
      rfl
    rw [own] at kept none_new
    rw [kept, none_new]
    exact one other

theorem entry_unique (one : OnePerPool list) (entry : IsEntry pool c) (member : c ∈ list)
    (same : IsEntry pool x) (inside : x ∈ list) : x = c := by
  have first : x ∈ own pool list := mem_own.mpr ⟨inside, same⟩
  have second : c ∈ own pool list := mem_own.mpr ⟨member, entry⟩
  have single := one pool
  match own pool list, first, second, single with
  | [y], first, second, _ =>
    rw [List.mem_singleton.mp first, List.mem_singleton.mp second]

end Lists

def Noted (nodePool : NodePool) (list : List ComponentStatus) : Prop :=
  ∃ x ∈ list, IsEntry nodePool.component x

/-- What has to hold when the custom resource is read: no pool that is to shrink has
the entry `Waiting`, unless the scaler is not smart and the entry names no node, and
no two pools of their desired size have entries. -/
@[mk_iff]
structure Orderly (cr : OpenSearchCluster) (pools : List NodePool)
    (snapshot : List ComponentStatus) (s : State) : Prop where
  shrinking : ∀ p ∈ pools, ∀ r ∈ s.size (stsName cr p), 0 < desireReplicaDiff r p.replicas →
    ∀ x ∈ snapshot, IsEntry p.component x → x.status = "Waiting" →
      cr.spec.confMgmt.smartScaler = false ∧ x.conditions = []
  settled : ∀ p ∈ pools, ∀ q ∈ pools, s.size (stsName cr p) = some p.replicas →
    s.size (stsName cr q) = some q.replicas → Noted p snapshot → Noted q snapshot →
    p.component = q.component

instance (pool : String) (x : ComponentStatus) : Decidable (IsEntry pool x) :=
  inferInstanceAs (Decidable (_ ∧ _))

instance (nodePool : NodePool) (list : List ComponentStatus) : Decidable (Noted nodePool list) :=
  inferInstanceAs (Decidable (∃ x ∈ list, _))

instance (cr : OpenSearchCluster) (pools : List NodePool) (snapshot : List ComponentStatus)
    (s : State) : Decidable (Orderly cr pools snapshot s) :=
  decidable_of_iff' _ (orderly_iff ..)

def readsCluster : Call → Bool
  | .request .getCluster => true
  | _ => false

def meetsConflict : (op : Call) → op.Reply → Bool
  | .request (.updateClusterStatus _), .error .conflict => true
  | _, _ => false

/-- The environment of the scaler: others leave its entries and the sizes of the
StatefulSets alone, and no two pools share a component. The custom resource is in
order whenever it is read, and no status write meets a conflict. -/
structure Calm (e : ApiEvent) : Prop where
  scaler : ∀ pool, own pool (entries e.before) = own pool (entries e.prior)
  size : ∀ name, e.before.size name = e.prior.size name
  distinct : (e.before.cluster.spec.nodePools.map NodePool.component).Nodup
  orderly : readsCluster e.op = true → Orderly e.before.cluster e.before.cluster.spec.nodePools
    (entries e.before) e.before
  accepted : meetsConflict e.op e.reply = false

/-- In the middle of the loop over the pools, with `rest` to come: the stored entries
of the pools to come are those of the snapshot, and the snapshot may still be
written back if that is to happen. -/
structure Midway (cr : OpenSearchCluster) (rest : List NodePool) (snapshot : List ComponentStatus)
    (w : ApiWorld) : Prop where
  one : OnePerPool (entries w.state)
  fresh : ∀ p ∈ rest, ∀ x, IsEntry p.component x → (x ∈ entries w.state ↔ x ∈ snapshot)
  orderly : Orderly cr rest snapshot w.state
  clean : ∀ p ∈ rest, w.state.size (stsName cr p) = some p.replicas → Noted p snapshot →
    OnePerPool snapshot

abbrev Single (w : ApiWorld) : Prop := OnePerPool (entries w.state)

section Steps

variable {cr : OpenSearchCluster} {rest : List NodePool} {snapshot : List ComponentStatus}
  {nodePool : NodePool} {w : ApiWorld} {e : ApiEvent}

theorem Calm.member (calm : Calm e) {pool : String} {x : ComponentStatus} (entry : IsEntry pool x) :
    x ∈ entries e.before ↔ x ∈ entries e.prior := by
  have same : x ∈ own pool (entries e.before) ↔ x ∈ own pool (entries e.prior) := by
    rw [calm.scaler pool]
  rw [mem_own, mem_own] at same
  simpa [entry] using same

theorem Calm.onePerPool (calm : Calm e) (prior : e.prior = w.state)
    (one : OnePerPool (entries w.state)) : OnePerPool (entries e.before) := by
  intro pool
  rw [calm.scaler pool, prior]
  exact one pool

theorem Orderly.sizes {s t : State} (orderly : Orderly cr rest snapshot s)
    (same : ∀ p ∈ rest, t.size (stsName cr p) = s.size (stsName cr p)) :
    Orderly cr rest snapshot t := by
  constructor
  · intro p coming r size
    rw [same p coming] at size
    exact orderly.shrinking p coming r size
  · intro p coming q coming' size size'
    rw [same p coming] at size
    rw [same q coming'] at size'
    exact orderly.settled p coming q coming' size size'

/-- An event that changes neither the entries nor the size of a pool to come. -/
theorem Midway.step (midway : Midway cr rest snapshot w) (prior : e.prior = w.state) (calm : Calm e)
    (untouched : e.after.cluster = e.before.cluster)
    (sizes : ∀ p ∈ rest, e.after.size (stsName cr p) = e.before.size (stsName cr p)) :
    Midway cr rest snapshot (w.extend e) := by
  have same : ∀ p ∈ rest, e.after.size (stsName cr p) = w.state.size (stsName cr p) := by
    intro p coming
    rw [sizes p coming, calm.size, prior]
  constructor
  · change OnePerPool e.after.cluster.status.componentsStatus
    rw [untouched]
    exact calm.onePerPool prior midway.one
  · intro p coming x entry
    change x ∈ e.after.cluster.status.componentsStatus ↔ _
    rw [untouched, ← midway.fresh p coming x entry, ← prior]
    exact calm.member entry
  · exact midway.orderly.sizes same
  · intro p coming size
    apply midway.clean p coming
    rw [← same p coming]
    exact size

theorem Midway.stable : Stable Calm (Midway cr rest snapshot) := by
  intro w choice op calm midway unchanged
  apply midway.step rfl calm (by rw [unchanged])
  intro p _
  rw [unchanged]

theorem Midway.gentle {lists : Bool} {α : Type} {program : Prog α}
    (only : program.OnlyCalls (Gentle lists)) :
    Keeps Calm Single (Midway cr rest snapshot) program := by
  apply keeps_of_calls (fun w midway => midway.one) only
  intro w choice op gentle calm midway
  have untouched := answer_gentle choice (w.arrive choice op).before gentle
  exact midway.step rfl calm untouched.cluster fun p _ => untouched.size _

theorem Midway.tail (midway : Midway cr (nodePool :: rest) snapshot w) :
    Midway cr rest snapshot w := by
  refine ⟨midway.one, ?_, ⟨?_, ?_⟩, ?_⟩
  · exact fun p coming => midway.fresh p (List.mem_cons_of_mem _ coming)
  · exact fun p coming => midway.orderly.shrinking p (List.mem_cons_of_mem _ coming)
  · exact fun p coming q coming' => midway.orderly.settled p (List.mem_cons_of_mem _ coming) q
      (List.mem_cons_of_mem _ coming')
  · exact fun p coming => midway.clean p (List.mem_cons_of_mem _ coming)

end Steps

section Resize

def Sizes (name : String) (op : Call) : Prop :=
  Reads op ∨ ∃ sts : StatefulSet, sts.name = name ∧
    (op = .request (.createStatefulSet sts) ∨ op = .request (.updateStatefulSet sts))

variable {name other : String} {op : Call}

theorem Sizes.leaves (sizes : Sizes name op) : Leaves .cluster op := by
  rcases sizes with reads | ⟨sts, _, rfl | rfl⟩
  · intro changed
    cases op with
    | request req => cases req <;> first | (cases reads; done) | cases changed
    | _ => cases changed
  · nofun
  · nofun

theorem serve_sizes (s : State) {sts : StatefulSet} (named : sts.name = name)
    (different : other ≠ name) {req : Request}
    (writes : req = .createStatefulSet sts ∨ req = .updateStatefulSet sts) :
    (serve s req).2.size other = s.size other := by
  have apart : ¬ other = sts.name := fun same => different (same.trans named)
  rcases writes with rfl | rfl
  · rw [serve]
    split
    · rfl
    split
    · rfl
    · exact (size_put s (created sts) other).trans (if_neg apart)
  · rw [serve]
    split
    · rfl
    split
    · rfl
    split
    · exact (size_put s _ other).trans (if_neg apart)
    · rfl

theorem answer_sizes (choice : Choice) (s : State) (sizes : Sizes name op)
    (different : other ≠ name) : (answer choice s op).2.size other = s.size other := by
  rcases sizes with reads | ⟨sts, named, writes⟩
  · exact congrArg (State.size · other) (reads.quiet choice s)
  have request : ∃ req, op = .request req ∧
      (req = .createStatefulSet sts ∨ req = .updateStatefulSet sts) := by
    rcases writes with rfl | rfl
    · exact ⟨_, rfl, Or.inl rfl⟩
    · exact ⟨_, rfl, Or.inr rfl⟩
  obtain ⟨req, rfl, kind⟩ := request
  rw [answer_request]
  cases choice.outcome with
  | refused fault => rfl
  | _ => exact serve_sizes s named different kind

theorem sizes_reconcilePresent (desired : StatefulSet) :
    (reconcileResource desired .present).OnlyCalls (Sizes desired.name) :=
  onlyCalls_reconcilePresent (fun _ => Or.inl rfl) (Or.inr ⟨desired, rfl, Or.inl rfl⟩)
    (fun _ _ => Or.inl rfl) (fun sts same _ => Or.inr ⟨sts, same, Or.inr rfl⟩)

end Resize

section Scale

structure Tagged (cr : OpenSearchCluster) (rest : List NodePool) (snapshot : List ComponentStatus)
    (pool status : String) (w : ApiWorld) : Prop extends Midway cr rest snapshot w where
  like : ∀ x ∈ entries w.state, IsEntry pool x → x.status = status

variable {cr : OpenSearchCluster} {rest : List NodePool} {snapshot list : List ComponentStatus}
  {pool status : String} {w : ApiWorld} {e : ApiEvent} {c : ComponentStatus} {sts : StatefulSet}

theorem Tagged.step (tagged : Tagged cr rest snapshot pool status w) (prior : e.prior = w.state)
    (calm : Calm e) (untouched : e.after.cluster = e.before.cluster)
    (sizes : ∀ p ∈ rest, e.after.size (stsName cr p) = e.before.size (stsName cr p)) :
    Tagged cr rest snapshot pool status (w.extend e) := by
  refine ⟨tagged.toMidway.step prior calm untouched sizes, ?_⟩
  intro x member entry
  change x ∈ e.after.cluster.status.componentsStatus at member
  rw [untouched] at member
  exact tagged.like x (prior ▸ (calm.member entry).mp member) entry

theorem Tagged.stable : Stable Calm (Tagged cr rest snapshot pool status) := by
  intro w choice op calm tagged unchanged
  apply tagged.step rfl calm (by rw [unchanged])
  intro p _
  rw [unchanged]

theorem Tagged.gentle {lists : Bool} {α : Type} {program : Prog α}
    (only : program.OnlyCalls (Gentle lists)) :
    Keeps Calm Single (Tagged cr rest snapshot pool status) program := by
  apply keeps_of_calls (fun w tagged => tagged.one) only
  intro w choice op gentle calm tagged
  have untouched := answer_gentle choice (w.arrive choice op).before gentle
  exact tagged.step rfl calm untouched.cluster fun p _ => untouched.size _

theorem Tagged.resize (others : ∀ p ∈ rest, p.component ≠ pool) (desired : StatefulSet)
    (named : desired.name = poolSts cr.name pool) :
    Keeps Calm Single (Tagged cr rest snapshot pool status)
      (reconcileResource desired .present) := by
  apply keeps_of_calls (fun w tagged => tagged.one) (sizes_reconcilePresent desired)
  intro w choice op sizes calm tagged
  have apart : ∀ p ∈ rest, stsName cr p ≠ desired.name := by
    intro p coming same
    rw [named] at same
    exact others p coming (poolSts_injective same)
  apply tagged.step rfl calm
  · exact (event_frame (w.arrive choice op)).cluster sizes.leaves
  · intro p coming
    exact answer_sizes choice (w.arrive choice op).before sizes (apart p coming)

theorem Midway.write (midway : Midway cr rest snapshot w) (prior : e.prior = w.state)
    (calm : Calm e)
    (after : e.after = e.before.withStatus { w.state.cluster.status with componentsStatus := list })
    (one : OnePerPool list)
    (fresh : ∀ p ∈ rest, ∀ x, IsEntry p.component x → (x ∈ list ↔ x ∈ entries w.state)) :
    Midway cr rest snapshot (w.extend e) := by
  have stored : entries e.after = list := by
    rw [after]
    rfl
  have same : ∀ p ∈ rest, e.after.size (stsName cr p) = w.state.size (stsName cr p) := by
    intro p _
    rw [after, ← prior, ← calm.size]
    rfl
  constructor
  · change OnePerPool (entries e.after)
    rw [stored]
    exact one
  · intro p coming x entry
    change x ∈ entries e.after ↔ _
    rw [stored, fresh p coming x entry]
    exact midway.fresh p coming x entry
  · exact midway.orderly.sizes same
  · intro p coming size
    apply midway.clean p coming
    rw [← same p coming]
    exact size

theorem fresh_of_local {f : List ComponentStatus → List ComponentStatus} (islocal : Local pool f)
    (others : ∀ p ∈ rest, p.component ≠ pool) :
    ∀ p ∈ rest, ∀ x, IsEntry p.component x → (x ∈ f list ↔ x ∈ list) :=
  fun _ coming x entry => islocal list x (not_entry_of_rest others coming entry)

section

variable (entry : IsEntry pool c)

include entry

/-- The pool's entry is replaced by one of another status, on the stored list. -/
theorem safe_replaceTagged {add : ComponentStatus} (new : IsEntry pool add)
    (others : ∀ p ∈ rest, p.component ≠ pool) (tagged : Tagged cr rest snapshot pool c.status w) :
    Safe Calm Single (updateComponents (replace c add)) (fun err w =>
      (err = none → Tagged cr rest snapshot pool add.status w) ∧ Midway cr rest snapshot w) w := by
  have written : ∀ w (e : ApiEvent), Tagged cr rest snapshot pool c.status w → e.prior = w.state →
      Calm e → e.before.cluster = w.state.cluster →
      e.after = e.before.withStatus { w.state.cluster.status with
        componentsStatus := replace c add w.state.cluster.status.componentsStatus } →
      Tagged cr rest snapshot pool add.status (w.extend e) := by
    intro w e tagged prior calm _ after
    have one := onePerPool_replace tagged.one entry new tagged.like
    refine ⟨tagged.toMidway.write prior calm after one
      (fresh_of_local (local_replace entry new) others), ?_⟩
    intro x member mine
    have inside : x ∈ own pool (replace c add (entries w.state)) := by
      apply mem_own.mpr ⟨?_, mine⟩
      change x ∈ entries e.after at member
      rw [after] at member
      exact member
    rw [replace, own, List.filter_append, ← own, own_removeIt entry (tagged.one pool) tagged.like,
      List.nil_append, List.mem_filter, List.mem_singleton] at inside
    rw [inside.1]
  apply (safe_updateComponents _ w (fun w tagged => tagged.one) Tagged.stable written tagged).mono
  rintro err w ⟨done, either⟩
  exact ⟨done, either.elim (fun tagged => tagged.toMidway) fun tagged => tagged.toMidway⟩

theorem safe_removeEntry (others : ∀ p ∈ rest, p.component ≠ pool)
    (midway : Midway cr rest snapshot w) :
    Safe Calm Single (updateComponents (removeIt c)) (fun _ => Midway cr rest snapshot) w := by
  apply safe_settleStatus _ (fun w midway => midway.one) Midway.stable (fun _ midway => midway) _
    midway
  intro w e midway prior calm _ after
  exact midway.write prior calm after (onePerPool_removeIt midway.one)
    (fresh_of_local (local_removeIt entry) others)

end

theorem stages_single {nodePool : NodePool} (found : Bool) (entry : IsEntry nodePool.component c)
    (others : ∀ p ∈ rest, p.component ≠ nodePool.component)
    (named : sts.name = poolSts cr.name nodePool.component) :
    Stages Calm Single c found sts nodePool (Tagged cr rest snapshot nodePool.component)
      (Midway cr rest snapshot) where
  ends := fun tagged => tagged.toMidway
  tunes := fun only => Tagged.gentle (only.mono fun _ tunes => tunes.gentle)
  cleans := fun only => Midway.gentle (only.mono fun _ tunes => tunes.gentle)
  replaces := fun _ _ tagged => safe_replaceTagged entry ⟨rfl, rfl⟩ others tagged
  removes := fun _ midway => safe_removeEntry entry others midway
  grows := fun _ _ tagged => (Tagged.resize others { sts with replicas := increment sts.replicas }
    named _ tagged).mono fun _ _ tagged => tagged.toMidway
  shrinks := fun _ _ tagged => (Tagged.resize others { sts with replicas := sts.replicas - 1 }
    named _ tagged).mono fun _ _ tagged => tagged.toMidway

theorem single_scaleNodePool (nodePool : NodePool) (smart found : Bool)
    (entry : IsEntry nodePool.component c) (others : ∀ p ∈ rest, p.component ≠ nodePool.component)
    (named : sts.name = poolSts cr.name nodePool.component)
    (missing : found = false → c = running nodePool.component)
    (waiting : 0 < desireReplicaDiff sts.replicas nodePool.replicas → c.status = "Waiting" →
      smart = false ∧ c.conditions = [])
    (tagged : Tagged cr rest snapshot nodePool.component c.status w) :
    Safe Calm Single (scaleNodePool smart c found sts nodePool)
      (fun _ => Midway cr rest snapshot) w := by
  apply (stages_single found entry others named).scaleNodePool smart ?_ tagged
  intro start shrinking noted w tagged
  have either : c.status = "Running" ∨ c.status = "Waiting" := by
    cases found with
    | false => exact Or.inl (by rw [missing rfl]; rfl)
    | true => simpa using start
  rcases either with same | waits
  · rw [same]
    exact tagged
  · obtain ⟨unsmart, unnoted⟩ := waiting shrinking waits
    simp [unsmart, unnoted] at noted

end Scale

section Settle

variable {σ : Type} {K K' : ApiWorld → Prop} {f : σ → OpenSearchCluster → ClusterStatus × σ}
  {captured : σ}

theorem safe_updateOnce (implied : ∀ w, K w → Single w) (stable : Stable Calm K)
    (written : ∀ w (e : ApiEvent), K w → e.prior = w.state → Calm e →
      e.before.cluster = w.state.cluster →
      e.after = e.before.withStatus (f captured w.state.cluster).1 → K' (w.extend e))
    {w : ApiWorld} (holds : K w) :
    Safe Calm Single (updateOpenSearchClusterStatus f captured) (fun result w =>
      (result.2 = captured ∧ K w) ∨
        ∃ cluster, result.2 = (f captured cluster).2 ∧ (K w ∨ K' w)) w := by
  have attempt : ∀ w, K w → Safe Calm Single (updateStatusAttempt f captured) (fun result w =>
      (result.2 = captured ∧ K w) ∨ (result.1 ≠ some .conflict ∧
        ∃ cluster, result.2 = (f captured cluster).2 ∧ (K w ∨ K' w))) w := by
    intro w holds
    apply (safe_read .getCluster rfl stable implied holds).bind
    intro reply w ⟨kept, _, answers⟩
    rcases answers with ⟨fault, rfl⟩ | rfl
    · exact Or.inl ⟨rfl, kept⟩
    have send : Safe Calm Single (updateClusterStatus
        { w.state.cluster with status := (f captured w.state.cluster).1 })
        (fun reply w => reply ≠ .error .conflict ∧ (K w ∨ K' w)) w := by
      apply safe_request _ (implied w kept)
      intro choice e calm
      have accepted := calm.accepted
      constructor
      · intro conflict
        rw [conflict] at accepted
        cases accepted
      · rcases updateStatus_cases w choice w.state.cluster (f captured w.state.cluster).1
          (hasRead_now w.state) with ⟨err, _, after⟩ | ⟨_, unchanged, after⟩
        · exact Or.inl (stable w choice _ calm kept after)
        · exact Or.inr (written w e kept rfl calm unchanged after)
    apply send.bind
    intro reply w' ⟨accepted, either⟩
    cases reply with
    | ok _ => exact Or.inr ⟨nofun, w.state.cluster, rfl, either⟩
    | error err =>
      refine Or.inr ⟨?_, w.state.cluster, rfl, either⟩
      intro same
      exact accepted (congrArg Except.error (Option.some.inj same))
  have attempts : ∀ retries w, K w →
      Safe Calm Single (retryOnConflict (updateStatusAttempt f) retries captured)
        (fun result w => (result.2 = captured ∧ K w) ∨
          ∃ cluster, result.2 = (f captured cluster).2 ∧ (K w ∨ K' w)) w := by
    intro retries
    induction retries with
    | zero =>
      intro w holds
      apply (attempt w holds).mono
      exact fun _ _ outcome => outcome.imp_right fun done => done.2
    | succ retries ih =>
      intro w holds
      apply (attempt w holds).bind
      intro ⟨err, left⟩ w outcome
      rcases outcome with ⟨rfl, kept⟩ | ⟨settled, done⟩
      · by_cases conflict : err = some .conflict
        · simp only [conflict, if_true]
          exact ih w kept
        · simp only [conflict, if_false]
          exact Or.inl ⟨rfl, kept⟩
      · have settled : ¬ err = some .conflict := settled
        simp only [settled, if_false]
        exact Or.inr done
  apply (attempts defaultRetry w holds).bind
  intro ⟨err, left⟩ w outcome
  exact outcome

variable {cr : OpenSearchCluster} {rest : List NodePool} {snapshot : List ComponentStatus}
  {nodePool : NodePool} {r : Int} {w : ApiWorld} {c : ComponentStatus}

structure Facing (cr : OpenSearchCluster) (rest : List NodePool) (snapshot : List ComponentStatus)
    (nodePool : NodePool) (r : Int) (w : ApiWorld) : Prop
    extends Midway cr (nodePool :: rest) snapshot w where
  size : w.state.size (stsName cr nodePool) = some r

theorem Facing.stable : Stable Calm (Facing cr rest snapshot nodePool r) := by
  intro w choice op calm facing unchanged
  refine ⟨Midway.stable w choice op calm facing.toMidway unchanged, ?_⟩
  rw [World.extend_state, unchanged, calm.size]
  exact facing.size

/-- A pool of the desired size with an entry is the only one of the kind. -/
theorem Facing.alone (facing : Facing cr rest snapshot nodePool nodePool.replicas w)
    (noted : Noted nodePool snapshot) (others : ∀ p ∈ rest, p.component ≠ nodePool.component) :
    ∀ p ∈ rest, w.state.size (stsName cr p) = some p.replicas → ¬ Noted p snapshot := by
  intro p coming size too
  exact others p coming (facing.orderly.settled p (List.mem_cons_of_mem _ coming) nodePool
    List.mem_cons_self size facing.size too noted)

theorem Midway.resnap (midway : Midway cr rest snapshot w) {pool : String}
    {snapshot' : List ComponentStatus} (kept : Narrows pool snapshot snapshot')
    (others : ∀ p ∈ rest, p.component ≠ pool)
    (alone : ∀ p ∈ rest, w.state.size (stsName cr p) = some p.replicas → ¬ Noted p snapshot) :
    Midway cr rest snapshot' w := by
  have same : ∀ p ∈ rest, ∀ x, IsEntry p.component x → (x ∈ snapshot' ↔ x ∈ snapshot) :=
    fun p coming x entry => kept.others x (not_entry_of_rest others coming entry)
  have none_noted : ∀ p ∈ rest, w.state.size (stsName cr p) = some p.replicas →
      ¬ Noted p snapshot' := by
    intro p coming size ⟨x, member, entry⟩
    exact alone p coming size ⟨x, (same p coming x entry).mp member, entry⟩
  refine ⟨midway.one, ?_, ⟨?_, ?_⟩, ?_⟩
  · intro p coming x entry
    rw [midway.fresh p coming x entry, same p coming x entry]
  · intro p coming r size shrinking x member entry
    exact midway.orderly.shrinking p coming r size shrinking x
      ((same p coming x entry).mp member) entry
  · exact fun p coming q _ size _ noted _ => absurd noted (none_noted p coming size)
  · exact fun p coming size noted => absurd noted (none_noted p coming size)

theorem onePerPool_settle (one : OnePerPool snapshot) (entry : IsEntry nodePool.component c)
    (member : c ∈ snapshot) (ready : Int) (cluster : OpenSearchCluster) :
    OnePerPool (settle c nodePool ready snapshot cluster).1.componentsStatus := by
  rw [settle]
  split
  · apply onePerPool_replace one entry ⟨rfl, rfl⟩
    intro x inside same
    rw [entry_unique one entry member same inside]
  · exact onePerPool_removeIt one

theorem single_settle (entry : IsEntry nodePool.component c) (member : c ∈ snapshot) (ready : Int)
    (others : ∀ p ∈ rest, p.component ≠ nodePool.component)
    (facing : Facing cr rest snapshot nodePool nodePool.replicas w) :
    Safe Calm Single (updateOpenSearchClusterStatus (settle c nodePool ready) snapshot)
      (fun result => Midway cr rest result.2) w := by
  let left := fun cluster => (settle c nodePool ready snapshot cluster).2
  let Written := fun w => ∀ cluster, Midway cr rest (left cluster) w
  have noted : Noted nodePool snapshot := ⟨c, member, entry⟩
  have resnapped : ∀ w, Facing cr rest snapshot nodePool nodePool.replicas w → ∀ cluster,
      Midway cr rest (left cluster) w := by
    intro w facing cluster
    exact facing.toMidway.tail.resnap (settle_narrows entry ready snapshot cluster).2 others
      (facing.alone noted others)
  have written : ∀ w (e : ApiEvent), Facing cr rest snapshot nodePool nodePool.replicas w →
      e.prior = w.state → Calm e → e.before.cluster = w.state.cluster →
      e.after = e.before.withStatus (settle c nodePool ready snapshot w.state.cluster).1 →
      Written (w.extend e) := by
    intro w e facing prior calm _ after cluster
    have one : OnePerPool snapshot := facing.clean nodePool List.mem_cons_self facing.size noted
    have narrows := (settle_narrows entry ready snapshot w.state.cluster).1
    rw [settle_status] at after
    apply (resnapped w facing cluster).write prior calm after
      (onePerPool_settle one entry member ready w.state.cluster)
    intro p coming x mine
    rw [narrows.others x (not_entry_of_rest others coming mine),
      facing.fresh p (List.mem_cons_of_mem _ coming) x mine]
  apply (safe_updateOnce (fun w facing => facing.one) Facing.stable written facing).mono
  intro result w outcome
  rcases outcome with ⟨same, facing⟩ | ⟨cluster, same, facing | midway⟩
  · rw [same]
    exact facing.toMidway.tail
  · rw [same]
    exact resnapped w facing cluster
  · rw [same]
    exact midway cluster

end Settle

section Loop

variable {cr : OpenSearchCluster} {rest : List NodePool} {snapshot : List ComponentStatus}
  {nodePool : NodePool} {w : ApiWorld}

theorem findFirstPartial_new (snapshot : List ComponentStatus) (pool : String)
    (missing : (findFirstPartial snapshot (running pool) getByDescriptionAndComponent).2 = false) :
    (findFirstPartial snapshot (running pool) getByDescriptionAndComponent).1 = running pool := by
  rw [findFirstPartial] at missing ⊢
  split at missing
  · cases missing
  · rfl

theorem single_reconcileNodePool (others : ∀ p ∈ rest, p.component ≠ nodePool.component)
    (midway : Midway cr (nodePool :: rest) snapshot w) :
    Safe Calm Single (reconcileNodePool cr snapshot nodePool)
      (fun result => Midway cr rest result.2) w := by
  apply (safe_getStatefulSet (stsName cr nodePool) Midway.stable
    (fun w midway => midway.one) midway).bind
  intro reply w ⟨midway, _, answered⟩
  rcases answered with ⟨err, rfl, _⟩ | ⟨sts, rfl, there⟩
  · exact midway.tail
  have named : sts.name = poolSts cr.name nodePool.component :=
    w.state.statefulSets.get_key _ _ there
  have facing : Facing cr rest snapshot nodePool sts.replicas w := by
    refine ⟨midway, ?_⟩
    rw [State.size, there]
    rfl
  apply (safe_reads (reads_readyReplicas nodePool) Facing.stable
    (fun w facing => facing.one) facing).bindOk
  · exact fun _ _ facing => facing.toMidway.tail
  intro ready w facing
  obtain ⟨entry, present, missing⟩ := findFirstPartial_entry snapshot nodePool.component
  have absent := findFirstPartial_new snapshot nodePool.component
  revert entry present missing absent
  generalize findFirstPartial snapshot (running nodePool.component)
    getByDescriptionAndComponent = first
  intro entry present missing absent
  obtain ⟨c, found⟩ := first
  by_cases settled : sts.replicas = nodePool.replicas
  · simp only [settled, if_true]
    rw [settled] at facing
    cases found with
    | false => exact facing.toMidway.tail
    | true =>
      apply (single_settle entry (present rfl) ready others facing).bind
      exact fun _ w midway => midway
  · simp only [settled, if_false]
    have tagged : Tagged cr rest snapshot nodePool.component c.status w := by
      refine ⟨facing.toMidway.tail, ?_⟩
      intro x stored mine
      have snapped := (facing.fresh nodePool List.mem_cons_self x mine).mp stored
      cases found with
      | false => exact absurd mine (missing rfl x snapped)
      | true =>
        have also : c ∈ entries w.state :=
          (facing.fresh nodePool List.mem_cons_self c entry).mpr (present rfl)
        rw [entry_unique facing.one entry also mine stored]
    have waiting : 0 < desireReplicaDiff sts.replicas nodePool.replicas → c.status = "Waiting" →
        cr.spec.confMgmt.smartScaler = false ∧ c.conditions = [] := by
      intro shrinking waits
      cases found with
      | false =>
        have new : c = running nodePool.component := absent rfl
        rw [new] at waits
        change "Running" = "Waiting" at waits
        exact absurd waits (by decide)
      | true =>
        exact facing.orderly.shrinking nodePool List.mem_cons_self sts.replicas facing.size
          shrinking c (present rfl) entry waits
    apply (single_scaleNodePool nodePool _ found entry others named absent waiting tagged).bind
    exact fun _ w midway => midway

theorem single_reconcileNodePools (pools : List NodePool)
    (distinct : (pools.map NodePool.component).Nodup) (snapshot : List ComponentStatus)
    (requeue : Bool) (results : CombinedResult) (w : ApiWorld)
    (midway : Midway cr pools snapshot w) :
    Safe Calm Single (reconcileNodePools cr pools snapshot requeue results)
      (fun result => Midway cr [] result.2) w := by
  induction pools generalizing snapshot requeue results w with
  | nil => exact midway
  | cons nodePool pools ih =>
    rw [List.map_cons, List.nodup_cons] at distinct
    have others : ∀ p ∈ pools, p.component ≠ nodePool.component := by
      intro p coming same
      exact distinct.1 (same ▸ List.mem_map_of_mem coming)
    apply (single_reconcileNodePool others midway).bind
    intro ⟨⟨requeue, err⟩, snapshot⟩ w midway
    exact ih distinct.2 snapshot requeue _ w midway

end Loop

section Pass

variable {cr : OpenSearchCluster} {w : ApiWorld}

theorem keeps_single {α : Type} {program : Prog α} (only : program.OnlyCalls (Leaves .cluster)) :
    Keeps Calm Single Single program := by
  apply keeps_of_calls (fun w single => single) only
  intro w choice op leaves calm single
  have untouched := (event_frame (w.arrive choice op)).cluster leaves
  change OnePerPool (w.arrive choice op).after.cluster.status.componentsStatus
  rw [untouched]
  exact calm.onePerPool rfl single

theorem single_reconcilePools (distinct : (cr.spec.nodePools.map NodePool.component).Nodup)
    (midway : Midway cr cr.spec.nodePools cr.status.componentsStatus w) :
    Safe Calm Single (reconcilePools cr) (fun _ => Single) w := by
  have cleans : ∀ results, (cleanupStatefulSets cr results).OnlyCalls (Leaves .cluster) :=
    fun results => (apart_cleanupStatefulSets results).mono fun _ apart => apart.2
  apply (single_reconcileNodePools _ distinct _ _ _ w midway).bind
  intro ⟨⟨requeue, results⟩, snapshot⟩ w midway
  have readies : (nodePoolsReady cr cr.spec.nodePools).OnlyCalls (Gentle false) :=
    (reads_nodePoolsReady cr.spec.nodePools).mono fun _ reads => reads.gentle false
  apply (Midway.gentle readies w midway).bind
  intro ready w midway
  match ready with
  | .error err => exact midway.one
  | .ok false => exact midway.one
  | .ok true =>
    apply (keeps_single (cleans _) w midway.one).bind
    exact fun _ w single => single

theorem single_reconcile (distinct : (cr.spec.nodePools.map NodePool.component).Nodup)
    (midway : Midway cr cr.spec.nodePools cr.status.componentsStatus w) :
    Safe Calm Single (reconcile cr) (fun _ => Single) w := by
  rw [reconcile]
  split
  · have contacts : createClientForCluster.OnlyCalls (Gentle false) := ⟨rfl, fun _ => trivial⟩
    apply (Midway.gentle contacts w midway).bindOk
    · exact fun _ _ midway => single_reconcilePools distinct midway
    intro _ w midway
    apply (Midway.gentle gentle_cleanStaleExclusionList w midway).bind
    rintro ⟨res, err⟩ w midway
    dsimp only
    split
    · exact midway.one
    split
    · exact midway.one
    · exact single_reconcilePools distinct midway
  · exact single_reconcilePools distinct midway

theorem single_scalerPass (single : Single w) :
    Safe Calm Single scalerPass (fun _ => Single) w := by
  have read : Safe Calm Single getOpenSearchCluster (fun reply w => Single w ∧
      ∀ cr, reply = .ok cr → w.state.cluster = cr ∧
        (cr.spec.nodePools.map NodePool.component).Nodup ∧
        Orderly cr cr.spec.nodePools (entries w.state) w.state) w := by
    apply safe_request .getCluster single
    intro choice e calm
    have same : e.after = e.before := quiet_request .getCluster rfl choice e.before
    constructor
    · change OnePerPool (entries e.after)
      rw [same]
      exact calm.onePerPool rfl single
    · intro cr replied
      obtain ⟨rfl, _⟩ := told_getCluster replied
      rw [World.extend_state, same]
      exact ⟨rfl, calm.distinct, calm.orderly rfl⟩
  apply read.bindOk
  · intro err w ⟨single, known⟩
    exact single
  intro cr w ⟨single, known⟩
  obtain ⟨current, distinct, orderly⟩ := known cr rfl
  subst current
  have midway : Midway w.state.cluster w.state.cluster.spec.nodePools (entries w.state) w :=
    ⟨single, fun _ _ _ _ => Iff.rfl, orderly, fun _ _ _ _ => single⟩
  apply (single_reconcile distinct midway).bind
  exact fun _ w single => single

/-- In a calm run every pool has at most one entry at any time. -/
theorem one_entry_per_pool (start : ApiWorld) (passes : List (List Choice))
    (single : OnePerPool (entries start.state))
    (calm : ∀ e ∈ (runs scalerPass passes start).past, Calm e) :
    OnePerPool (entries (runs scalerPass passes start).state) := by
  have kept : Single (runs scalerPass passes start) :=
    runs_keep (fun _ single => single_scalerPass single) passes start single calm
  exact kept

theorem onePerPool_of_nodup {list : List ComponentStatus}
    (distinct : (list.map fun x => (x.component, x.description)).Nodup) : OnePerPool list := by
  intro pool
  have inside : (own pool list).Sublist list := List.filter_sublist
  have keys := distinct.sublist (inside.map fun x => (x.component, x.description))
  have entry : ∀ x ∈ own pool list, IsEntry pool x := fun x member => (mem_own.mp member).2
  match own pool list, keys, entry with
  | [], _, _ => exact Nat.zero_le 1
  | [_], _, _ => exact Nat.le_refl 1
  | x :: y :: more, keys, entry =>
    have first := entry x List.mem_cons_self
    have second := entry y (List.mem_cons_of_mem _ List.mem_cons_self)
    simp [first.1, first.2, second.1, second.2] at keys

def Settles (e : ApiEvent) : Prop :=
  (e.prior.cluster.spec.nodePools.map NodePool.component).Nodup ∧
  (readsCluster e.op = true → Orderly e.prior.cluster e.prior.cluster.spec.nodePools
    (entries e.prior) e.prior) ∧
  meetsConflict e.op e.reply = false

instance (e : ApiEvent) : Decidable (Settles e) := inferInstanceAs (Decidable (_ ∧ _ ∧ _))

theorem calm_of_settles {e : ApiEvent} (same : e.before = e.prior) (settles : Settles e) :
    Calm e := by
  obtain ⟨distinct, orderly, accepted⟩ := settles
  constructor
  · intro pool
    rw [same]
  · intro name
    rw [same]
  · rw [same]
    exact distinct
  · rw [same]
    exact orderly
  · exact accepted

def shrinkingPool : ApiWorld := ⟨threeReplicas 2 [], []⟩

def shrinkingPasses : List (List Choice) := undisturbed (.replicate 3 (.replicate 20 .served))

theorem shrinking_pool_keeps_one_entry :
    OnePerPool (entries (runs scalerPass shrinkingPasses shrinkingPool).state) := by
  have settles : ∀ e ∈ (runs scalerPass shrinkingPasses shrinkingPool).past, Settles e := by decide
  apply one_entry_per_pool shrinkingPool shrinkingPasses
  · exact onePerPool_of_nodup (by decide)
  · intro e happened
    exact calm_of_settles (undisturbed_before scalerPass _ _ rfl e happened) (settles e happened)

def waitingPool : ApiWorld := ⟨threeReplicas 2 [scalerStatus "Waiting" "data" []], []⟩

def twoSettledPools : ApiWorld where
  state :=
    let grown := threeReplicas 3 [running "data", running "ingest"]
    { grown with
      cluster := { grown.cluster with spec := { grown.cluster.spec with
        nodePools := [dataPool 3, { dataPool 1 with component := "ingest" }] } }
      statefulSets := ⟨grown.statefulSets.items ++ [
        { name := "logs-ingest", labels := [(clusterLabel, "logs"), (nodePoolLabel, "ingest")]
          replicas := 1, selector := [], podManagementPolicy := .parallel
          volumeClaimTemplates := [], podTemplate := "", podEnv := "", deleting := false
          status := ⟨1, 0, 0, 1, "a", "a"⟩ }], by decide⟩
      pods := ⟨["logs-data-0", "logs-data-1", "logs-data-2"].map fun name =>
        { name := name, labels := [(clusterLabel, "logs"), (nodePoolLabel, "data")]
          deleting := false, conditions := [("Ready", "True")] }, by decide⟩ }
  past := []

def settledPool : ApiWorld := ⟨threeReplicas 3 [running "data"], []⟩

def onePass : List (List Choice) := undisturbed [.replicate 20 .served]

def contestedPass : List (List Choice) :=
  undisturbed [.replicate 6 .served ++ .refused .conflict :: .replicate 20 .served]

/-- A second entry for a pool: because the entry `Waiting` is looked for after it was
replaced, because the snapshot was shifted in place for another pool, and because it
was already edited when the write is repeated. -/
theorem pool_gets_second_entry :
    OnePerPool (entries waitingPool.state) ∧ OnePerPool (entries twoSettledPools.state) ∧
    OnePerPool (entries settledPool.state) ∧
    entries (runs scalerPass onePass waitingPool).state =
      [running "data", scalerStatus "Excluded" "data" ["logs-data-2"]] ∧
    entries (runs scalerPass onePass twoSettledPools).state =
      [running "ingest", scalerStatus "Waiting" "ingest" []] ∧
    entries (runs scalerPass contestedPass settledPool).state =
      [scalerStatus "Waiting" "data" [], scalerStatus "Waiting" "data" []] ∧
    ¬ OnePerPool (entries (runs scalerPass onePass waitingPool).state) ∧
    ¬ OnePerPool (entries (runs scalerPass onePass twoSettledPools).state) ∧
    ¬ OnePerPool (entries (runs scalerPass contestedPass settledPool).state) := by
  refine ⟨onePerPool_of_nodup (by decide), onePerPool_of_nodup (by decide),
    onePerPool_of_nodup (by decide), by decide, by decide, by decide, ?_, ?_, ?_⟩
  · exact fun one => absurd (one "data") (by decide)
  · exact fun one => absurd (one "ingest") (by decide)
  · exact fun one => absurd (one "data") (by decide)

end Pass

end OpenSearchOperator.Reconcilers.Scaler
