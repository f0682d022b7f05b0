import OpenSearchOperator.Effects.History
import OpenSearchOperator.Reconcilers.ScalerDirection
import OpenSearchOperator.Reconcilers.ScalerTracking

/-! What the scaler's status writes do to the entries that are not its pool's. -/

namespace OpenSearchOperator.Reconcilers.Scaler

open Api Data Effects
open Gateway Helpers

def without (pool : String) (list : List ComponentStatus) : List ComponentStatus :=
  list.filter (fun x => !(x.component == "Scaler" && x.description == pool))

section Lists

variable {pool : String} {c add : ComponentStatus} {list : List ComponentStatus}

theorem without_entry (entry : IsEntry pool add) : without pool [add] = [] := by
  simp [without, entry.1, entry.2]

theorem without_removeIt (entry : IsEntry pool c) :
    without pool (removeIt c list) = without pool list := by
  apply filter_removeIt
  intro x equal
  simp only [componentStatusEqual, Bool.and_eq_true, beq_iff_eq] at equal
  simp [equal.1.1.trans entry.1, equal.1.2.trans entry.2]

theorem without_replace (entry : IsEntry pool c) (new : IsEntry pool add) :
    without pool (replace c add list) = without pool list := by
  have tail := without_entry new
  rw [replace, without, List.filter_append]
  rw [without] at tail
  rw [tail, List.append_nil]
  exact without_removeIt entry

end Lists

section History

def sentEntries : Call → Option (List ComponentStatus)
  | .request (.updateClusterStatus cluster) => some cluster.status.componentsStatus
  | _ => none

def fetchedEntries : (op : Call) → op.Reply → Option (List ComponentStatus)
  | .request .getCluster, .ok cluster => some cluster.status.componentsStatus
  | _, _ => none

def readReplicas : (op : Call) → op.Reply → Option Int
  | .request (.getStatefulSet _), .ok sts => some sts.replicas
  | _, _ => none

def countedReady : (op : Call) → op.Reply → Option Int
  | .request (.listPods _), .ok pods => some ((pods.filter Pod.ready).length : Int)
  | _, _ => none

def writes (past : List ApiEvent) : Nat := past.countP (fun e => (sentEntries e.op).isSome)

variable (snapshot : List ComponentStatus) (nodePool : NodePool)

/-- The call goes by the branch without a difference: the first thing it read was a
StatefulSet of the desired size, then it counted the ready pods, and the pool has
an entry. -/
def Settling (ready : Int) (past : List ApiEvent) : Prop :=
  (entryOf snapshot nodePool.component).2 = true ∧
  ∃ recent listing reading, past = recent ++ [listing, reading] ∧
    readReplicas reading.op reading.reply = some nodePool.replicas ∧
    countedReady listing.op listing.reply = some ready

/-- What the removals leave behind the other entries. A run of the closure that removes an
entry of the pool leaves the last entry of the snapshot twice; this matters unless that
is the pool's own. -/
def repeated (ready : Int) (runs : Nat) : List ComponentStatus :=
  let alike := snapshot.countP (componentStatusEqual · (entryOf snapshot nodePool.component).1)
  if ready = nodePool.replicas then
    (List.replicate (min runs alike) (without nodePool.component snapshot.getLast?.toList)).flatten
  else []

/-- In the branch without a difference, the fetched object has the other entries of the
snapshot, and behind them those that earlier attempts of this call have repeated. There
are none at the first attempt, while the pods are not ready, or if the snapshot ends in
an entry of the pool. -/
def Agrees (base : List ComponentStatus) (past : List ApiEvent) : Prop :=
  ∀ ready, Settling snapshot nodePool ready past →
    without nodePool.component base =
      without nodePool.component snapshot ++ repeated snapshot nodePool ready (writes past)

/-- A status write follows a fetch, and keeps the other entries of what was fetched
if and only if the snapshot agrees with that. -/
def KeepsOthersIff (e : ApiEvent) (earlier : List ApiEvent) : Prop :=
  ∀ list, sentEntries e.op = some list → ∃ fetch before base, earlier = fetch :: before ∧
    fetchedEntries fetch.op fetch.reply = some base ∧
    (without nodePool.component list = without nodePool.component base ↔
      Agrees snapshot nodePool base before)

end History

section Elsewhere

variable (snapshot : List ComponentStatus) (nodePool : NodePool)

abbrev OthersKept (w : ApiWorld) : Prop :=
  Throughout (KeepsOthersIff snapshot nodePool) w.past

structure Elsewhere (w : ApiWorld) : Prop where
  kept : OthersKept snapshot nodePool w
  apart : ∀ recent ready, ¬ Settling snapshot nodePool ready (recent ++ w.past)

abbrev KeepsElsewhere {α : Type} (program : Prog α) : Prop :=
  Keeps (fun _ => True) (OthersKept snapshot nodePool) (Elsewhere snapshot nodePool) program

variable {snapshot nodePool} {w : ApiWorld} {e : ApiEvent}

theorem sentEntries_leaves {op : Call} (leaves : Leaves .cluster op) : sentEntries op = none := by
  cases op with
  | request req =>
    cases req with
    | updateClusterStatus cluster => exact absurd rfl leaves
    | _ => rfl
  | _ => rfl

theorem keepsOthersIff_leaves (leaves : Leaves .cluster e.op) (earlier : List ApiEvent) :
    KeepsOthersIff snapshot nodePool e earlier := by
  intro list sent
  rw [sentEntries_leaves leaves] at sent
  cases sent

theorem Elsewhere.extend (elsewhere : Elsewhere snapshot nodePool w)
    (fine : KeepsOthersIff snapshot nodePool e w.past) :
    Elsewhere snapshot nodePool (w.extend e) := by
  constructor
  · exact ⟨fine, elsewhere.kept⟩
  intro recent ready settling
  apply elsewhere.apart (recent ++ [e]) ready
  rw [List.append_assoc]
  exact settling

theorem keepsElsewhere_leaves {α : Type} {program : Prog α}
    (only : program.OnlyCalls (Leaves .cluster)) : KeepsElsewhere snapshot nodePool program := by
  apply keeps_of_calls (fun w elsewhere => elsewhere.kept) only
  intro w choice op leaves _ elsewhere
  exact elsewhere.extend (keepsOthersIff_leaves leaves w.past)

theorem keepsElsewhere_updateComponents {f : List ComponentStatus → List ComponentStatus}
    (within : ∀ list, without nodePool.component (f list) = without nodePool.component list) :
    KeepsElsewhere snapshot nodePool (updateComponents f) := by
  intro w elsewhere
  have reading : ∀ w choice, Elsewhere snapshot nodePool w →
      Elsewhere snapshot nodePool (w.extend (asked w choice .getCluster)) := by
    intro w choice elsewhere
    have leaves : Leaves .cluster (asked w choice .getCluster).op := nofun
    exact elsewhere.extend (keepsOthersIff_leaves leaves w.past)
  have rule : StatusAttempts (fun _ => True) (OthersKept snapshot nodePool)
      (fun (_ : Unit) (cluster : OpenSearchCluster) => ({ cluster.status with
        componentsStatus := f cluster.status.componentsStatus }, ()))
      (fun _ => Elsewhere snapshot nodePool) := by
    constructor
    · exact fun _ w elsewhere => elsewhere.kept
    · exact fun _ w choice elsewhere _ => reading w choice elsewhere
    intro _ w first second cluster elsewhere _ answered between e _
    apply (reading w first elsewhere).extend
    intro list sent
    cases sent
    refine ⟨asked w first .getCluster, w.past, cluster.status.componentsStatus, rfl, ?_, ?_⟩
    · change fetchedEntries (.request .getCluster) (replied w first .getCluster) = _
      rw [answered]
      rfl
    · have same := within cluster.status.componentsStatus
      exact iff_of_true same fun ready settling => absurd settling (elsewhere.apart [] ready)
  apply (safe_statusAttempts rule elsewhere).bind
  exact fun _ w elsewhere => elsewhere

theorem entryOf_entry (snapshot : List ComponentStatus) (pool : String) :
    IsEntry pool (entryOf snapshot pool).1 := findFirstPartial_matches (running pool)

variable {c : ComponentStatus}

theorem stages_elsewhere {found : Bool} {sts : StatefulSet} (entry : IsEntry nodePool.component c) :
    Stages (fun _ => True) (OthersKept snapshot nodePool) c found sts nodePool
      (fun _ => Elsewhere snapshot nodePool) (Elsewhere snapshot nodePool) := by
  have tunes : ∀ {α : Type} {program : Prog α}, program.OnlyCalls (Tunes true) →
      KeepsElsewhere snapshot nodePool program :=
    fun only => keepsElsewhere_leaves (only.mono fun _ tunes => tunes.leaves nofun)
  have resizes : ∀ desired, KeepsElsewhere snapshot nodePool
      (reconcileResource desired .present) := fun desired =>
    keepsElsewhere_leaves (onlyCalls_reconcilePresent (fun _ => nofun) nofun (fun _ _ => nofun)
      (fun _ _ _ => nofun))
  have replaces : ∀ add, IsEntry nodePool.component add →
      KeepsElsewhere snapshot nodePool (updateComponents (replace c add)) := fun add new =>
    keepsElsewhere_updateComponents fun _ => without_replace entry new
  exact ⟨id, tunes, tunes, fun _ _ elsewhere => (replaces _ ⟨rfl, rfl⟩ _ elsewhere).mono
      fun _ _ elsewhere => ⟨fun _ => elsewhere, elsewhere⟩,
    keepsElsewhere_updateComponents fun _ => without_removeIt entry,
    fun _ _ => resizes _ _, fun _ _ => resizes _ _⟩

end Elsewhere

section Settle

variable {cr : OpenSearchCluster} {snapshot : List ComponentStatus} {nodePool : NodePool}
  {w : ApiWorld} {ready : Int} {past : List ApiEvent} {c : ComponentStatus}

theorem settling_ready {other : Int} (settling : Settling snapshot nodePool ready past)
    (again : Settling snapshot nodePool other past) : other = ready := by
  obtain ⟨_, recent, listing, reading, split, _, counted⟩ := settling
  obtain ⟨_, recent', listing', reading', split', _, counted'⟩ := again
  obtain ⟨_, same⟩ := List.append_inj' (split.symm.trans split') rfl
  cases same
  exact Option.some.inj (counted'.symm.trans counted)

theorem Settling.extend (settling : Settling snapshot nodePool ready past)
    (e : ApiEvent) : Settling snapshot nodePool ready (e :: past) := by
  obtain ⟨found, recent, listing, reading, split, read, counted⟩ := settling
  exact ⟨found, e :: recent, listing, reading, by rw [split]; rfl, read, counted⟩

theorem settle_entries (ready : Int) (entry : IsEntry nodePool.component c)
    (list : List ComponentStatus) (cluster : OpenSearchCluster) :
    without nodePool.component (settle c nodePool ready list cluster).1.componentsStatus =
      without nodePool.component list := by
  rw [settle]
  split
  · exact without_replace entry ⟨rfl, rfl⟩
  · exact without_removeIt entry

def leftBy (cr : OpenSearchCluster) (snapshot : List ComponentStatus) (nodePool : NodePool)
    (ready : Int) : Nat → List ComponentStatus
  | 0 => snapshot
  | runs + 1 => (settle (entryOf snapshot nodePool.component).1 nodePool ready
      (leftBy cr snapshot nodePool ready runs) cr).2

theorem without_replaceInPlace {add : ComponentStatus} (entry : IsEntry nodePool.component c)
    (new : IsEntry nodePool.component add) (list : List ComponentStatus) :
    without nodePool.component (replaceInPlace c add list) = without nodePool.component list := by
  rw [replaceInPlace]
  split
  · exact without_replace entry new
  · rfl

theorem entry_of_equal {x : ComponentStatus} (entry : IsEntry nodePool.component c)
    (equal : componentStatusEqual x c = true) : IsEntry nodePool.component x := by
  simp only [componentStatusEqual, Bool.and_eq_true, beq_iff_eq] at equal
  exact ⟨equal.1.1.trans entry.1, equal.1.2.trans entry.2⟩

/-- What so many removals have made of the snapshot. -/
structure Shifted (snapshot : List ComponentStatus) (pool : String) (c : ComponentStatus)
    (runs : Nat) (list : List ComponentStatus) : Prop where
  last : list.getLast? = snapshot.getLast?
  others : without pool list = without pool snapshot ++ (List.replicate
    (min runs (snapshot.countP (componentStatusEqual · c)))
    (without pool snapshot.getLast?.toList)).flatten
  alike : without pool snapshot.getLast?.toList ≠ [] → list.countP (componentStatusEqual · c) =
    snapshot.countP (componentStatusEqual · c) - runs

theorem without_removeItInPlace {list : List ComponentStatus} (entry : IsEntry nodePool.component c)
    (some_alike : list.any (componentStatusEqual · c) = true) :
    without nodePool.component (removeItInPlace c list) =
      without nodePool.component list ++ without nodePool.component list.getLast?.toList := by
  rw [removeItInPlace, if_pos some_alike, without, List.filter_append, ← without, ← without,
    without_removeIt entry]

theorem Shifted.removeItInPlace {runs : Nat} {list : List ComponentStatus}
    (entry : IsEntry nodePool.component c)
    (shifted : Shifted snapshot nodePool.component c runs list) :
    Shifted snapshot nodePool.component c (runs + 1) (removeItInPlace c list) := by
  obtain ⟨last, others, alike⟩ := shifted
  have ending : (Helpers.removeItInPlace c list).getLast? = snapshot.getLast? :=
    getLast?_removeItInPlace.trans last
  by_cases some_alike : list.any (componentStatusEqual · c) = true
  · have longer := without_removeItInPlace entry some_alike
    rw [last, others] at longer
    by_cases own : without nodePool.component snapshot.getLast?.toList = []
    · refine ⟨ending, ?_, fun other => absurd own other⟩
      rw [longer, own]
      simp
    have remaining := alike own
    have positive : 0 < list.countP (componentStatusEqual · c) := by
      simpa [List.countP_pos_iff] using some_alike
    have foreign : snapshot.getLast?.toList.countP (componentStatusEqual · c) = 0 := by
      rw [List.countP_eq_zero]
      intro x member equal
      rw [Option.mem_toList] at member
      rw [member] at own
      exact own (without_entry (entry_of_equal entry equal))
    refine ⟨ending, ?_, fun _ => ?_⟩
    · rw [longer, Nat.min_eq_left (by omega), Nat.min_eq_left (by omega), List.replicate_succ']
      simp
    · rw [Helpers.removeItInPlace, if_pos some_alike, List.countP_append, countP_removeIt, last,
        foreign, remaining]
      omega
  · -- Nothing is left to remove, and the list stays as it is.
    have none : list.countP (componentStatusEqual · c) = 0 := by
      simpa [List.countP_eq_zero] using some_alike
    rw [Helpers.removeItInPlace, if_neg some_alike]
    refine ⟨last, ?_, fun own => by rw [none]; have := alike own; omega⟩
    by_cases own : without nodePool.component snapshot.getLast?.toList = []
    · rw [others, own]
      simp
    · have remaining := alike own
      rw [others, Nat.min_eq_right (by omega), Nat.min_eq_right (by omega)]

theorem without_leftBy (runs : Nat) :
    without nodePool.component (leftBy cr snapshot nodePool ready runs) =
      without nodePool.component snapshot ++ repeated snapshot nodePool ready runs := by
  have entry := entryOf_entry snapshot nodePool.component
  by_cases all : ready = nodePool.replicas
  · have shifted : Shifted snapshot nodePool.component (entryOf snapshot nodePool.component).1
        runs (leftBy cr snapshot nodePool ready runs) := by
      induction runs with
      | zero => exact ⟨rfl, by simp [leftBy], fun _ => rfl⟩
      | succ runs ih =>
        have removed := ih.removeItInPlace entry
        rw [leftBy, settle, if_neg (by simp [all])]
        exact removed
    rw [repeated, if_pos all]
    exact shifted.others
  · rw [repeated, if_neg all, List.append_nil]
    induction runs with
    | zero => rfl
    | succ runs ih =>
      rw [leftBy, settle, if_pos all]
      exact (without_replaceInPlace entry ⟨rfl, rfl⟩ _).trans ih

theorem settle_left (list : List ComponentStatus) (cluster other : OpenSearchCluster) :
    (settle c nodePool ready list cluster).2 = (settle c nodePool ready list other).2 := by
  rw [settle, settle]
  split <;> rfl

/-- The branch without a difference: what its closure works on is what the runs of it
in this call have made of the snapshot. -/
structure Settled (cr : OpenSearchCluster) (snapshot : List ComponentStatus) (nodePool : NodePool)
    (ready : Int) (list : List ComponentStatus) (w : ApiWorld) : Prop where
  kept : OthersKept snapshot nodePool w
  settling : Settling snapshot nodePool ready w.past
  left : list = leftBy cr snapshot nodePool ready (writes w.past)

theorem Settled.fetched {list : List ComponentStatus}
    (settled : Settled cr snapshot nodePool ready list w) (choice : Choice) :
    Settled cr snapshot nodePool ready list (w.extend (asked w choice .getCluster)) := by
  have leaves : Leaves .cluster (asked w choice .getCluster).op := nofun
  exact ⟨⟨keepsOthersIff_leaves leaves w.past, settled.kept⟩, settled.settling.extend _,
    settled.left⟩

theorem keepsOthers_settle (settled : Settled cr snapshot nodePool ready snapshot w) :
    Safe (fun _ => True) (OthersKept snapshot nodePool) (updateOpenSearchClusterStatus
        (settle (entryOf snapshot nodePool.component).1 nodePool ready) snapshot)
      (fun _ => OthersKept snapshot nodePool) w := by
  have rule : StatusAttempts (fun _ => True) (OthersKept snapshot nodePool)
      (settle (entryOf snapshot nodePool.component).1 nodePool ready)
      (Settled cr snapshot nodePool ready) := by
    constructor
    · exact fun _ w settled => settled.kept
    · exact fun _ w choice settled _ => settled.fetched choice
    intro list w first second cluster settled _ answered between e _
    have entry := entryOf_entry snapshot nodePool.component
    have fetched := settled.fetched first
    have same := settle_entries ready entry list cluster
    have written : KeepsOthersIff snapshot nodePool e between.past := by
      intro sent sending
      cases sending
      refine ⟨asked w first .getCluster, w.past, cluster.status.componentsStatus, rfl, ?_, ?_⟩
      · change fetchedEntries (.request .getCluster) (replied w first .getCluster) = _
        rw [answered]
        rfl
      · rw [same, settled.left, without_leftBy]
        constructor
        · intro equal other again
          rw [settling_ready settled.settling again]
          exact equal.symm
        · exact fun agrees => (agrees ready settled.settling).symm
    have once_more : writes (between.extend e).past = writes w.past + 1 := by
      rw [World.extend_past, World.extend_past, writes, List.countP_cons_of_pos,
        List.countP_cons_of_neg]
      · rfl
      · simp [sentEntries]
      · rfl
    refine ⟨⟨written, fetched.kept⟩, fetched.settling.extend e, ?_⟩
    rw [settle_left list cluster cr, settled.left, once_more]
    rfl
  apply (safe_statusAttempts rule settled).mono
  exact fun _ w settled => settled.kept

end Settle

section Call

variable (cr : OpenSearchCluster) {snapshot : List ComponentStatus} {nodePool : NodePool}
  {w : ApiWorld}

theorem safe_reading (kept : OthersKept snapshot nodePool w) :
    Safe (fun _ => True) (OthersKept snapshot nodePool) (getStatefulSet (stsName cr nodePool))
      (fun reply w' => ∃ reading, w'.past = reading :: w.past ∧ Leaves .cluster reading.op ∧
        readReplicas reading.op reading.reply = reply.toOption.map StatefulSet.replicas) w := by
  apply safe_request _ kept
  intro choice e _
  refine ⟨e, rfl, nofun, ?_⟩
  cases e.reply <;> rfl

theorem safe_counting (kept : OthersKept snapshot nodePool w) :
    Safe (fun _ => True) (OthersKept snapshot nodePool) (readyReplicasForNodePool cr nodePool)
      (fun ready w' => ∃ listing, w'.past = listing :: w.past ∧ Leaves .cluster listing.op ∧
        countedReady listing.op listing.reply = ready.toOption) w := by
  have list : Safe (fun _ => True) (OthersKept snapshot nodePool)
      (listPodsForNodePool cr nodePool) (fun reply w' => ∃ listing,
        w'.past = listing :: w.past ∧ Leaves .cluster listing.op ∧
        countedReady listing.op listing.reply =
          reply.toOption.map fun pods => ((pods.filter Pod.ready).length : Int)) w := by
    apply safe_request _ kept
    intro choice e _
    refine ⟨e, rfl, nofun, ?_⟩
    cases e.reply <;> rfl
  apply list.bind
  intro reply w' ⟨listing, past, leaves, counted⟩
  cases reply <;> exact ⟨listing, past, leaves, counted⟩

variable (snapshot nodePool) in
theorem keepsOthers_reconcileNodePool (new : w.past = []) :
    Safe (fun _ => True) (OthersKept snapshot nodePool)
      (reconcileNodePool cr snapshot nodePool) (fun _ => OthersKept snapshot nodePool) w := by
  have fresh : OthersKept snapshot nodePool w := by
    rw [OthersKept, new]
    trivial
  apply (safe_reading cr fresh).bind
  intro reply w ⟨reading, past, quiet, replicas⟩
  rw [new] at past
  have kept : OthersKept snapshot nodePool w := by
    rw [OthersKept, past]
    exact ⟨keepsOthersIff_leaves quiet [], trivial⟩
  cases reply with
  | error err => exact kept
  | ok sts =>
    apply (safe_counting cr kept).bind
    intro ready w' ⟨listing, past', silent, counted⟩
    have kept : OthersKept snapshot nodePool w' := by
      rw [OthersKept, past']
      exact ⟨keepsOthersIff_leaves silent w.past, kept⟩
    have history : w'.past = [listing, reading] := by rw [past', past]
    cases ready with
    | error err => exact kept
    | ok ready =>
      by_cases settled : sts.replicas = nodePool.replicas
      · simp only [settled, if_true]
        cases found : (entryOf snapshot nodePool.component).2 with
        | false => exact kept
        | true =>
          have settling : Settling snapshot nodePool ready w'.past :=
            ⟨found, [], listing, reading, history, settled ▸ replicas, counted⟩
          have none_yet : writes w'.past = 0 := by
            rw [history, writes, List.countP_cons_of_neg, List.countP_cons_of_neg]
            · rfl
            · simp [sentEntries_leaves quiet]
            · simp [sentEntries_leaves silent]
          have start : Settled cr snapshot nodePool ready snapshot w' :=
            ⟨kept, settling, by rw [none_yet]; rfl⟩
          apply (keepsOthers_settle start).bind
          exact fun _ w kept => kept
      · simp only [settled, if_false]
        have elsewhere : Elsewhere snapshot nodePool w' := by
          refine ⟨kept, ?_⟩
          intro recent other ⟨_, recent', listing', reading', split, read', _⟩
          rw [history] at split
          obtain ⟨_, same⟩ := List.append_inj' split rfl
          cases same
          rw [replicas] at read'
          exact settled (Option.some.inj read')
        have entry := entryOf_entry snapshot nodePool.component
        apply ((stages_elsewhere entry).scaleNodePool _ (fun _ _ _ _ => id) elsewhere).bind
        exact fun _ w elsewhere => elsewhere.kept

end Call

/-- Every status write made while a pool is handled keeps the entries that are not the
pool's, in their order, if and only if the snapshot agrees there with the fetched object,
in the branch without a difference. -/
theorem status_writes_keep_others_iff (cr : OpenSearchCluster) (snapshot : List ComponentStatus)
    (nodePool : NodePool) (start : State) (choices : List Choice) :
    Throughout (KeepsOthersIff snapshot nodePool)
      (exec (S := server) (reconcileNodePool cr snapshot nodePool) choices ⟨start, []⟩).2.past :=
  (keepsOthers_reconcileNodePool cr snapshot nodePool rfl).always choices fun _ _ => trivial

def readyPod (name : String) : Pod :=
  { name := name, labels := [(clusterLabel, "logs"), (nodePoolLabel, "data")], deleting := false
    conditions := [("Ready", "True")] }

def grown : State :=
  { threeReplicas 3 [running "data", ⟨"Restarter", "InProgress", "", []⟩] with
    pods := ⟨[readyPod "logs-data-0", readyPod "logs-data-1", readyPod "logs-data-2"], by decide⟩ }

def oneConflict : List Choice :=
  [{}, {}, {}, { outcome := .refused .conflict }, {}, {}]

/-- The second attempt stores the restart's entry twice. -/
theorem retried_write_repeats_entry :
    let past := (exec (S := server) (reconcileNodePool grown.cluster
      grown.cluster.status.componentsStatus (dataPool 3)) oneConflict ⟨grown, []⟩).2.past
    let restart : ComponentStatus := ⟨"Restarter", "InProgress", "", []⟩
    (∃ e ∈ past.head?, sentEntries e.op = some [restart, restart] ∧
      entries e.after = [restart, restart]) ∧
    (∃ fetch ∈ past.tail.head?,
      fetchedEntries fetch.op fetch.reply = some [running "data", restart]) ∧
    without "data" [restart, restart] ≠ without "data" [running "data", restart] := by
  decide

end OpenSearchOperator.Reconcilers.Scaler
