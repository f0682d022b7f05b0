import OpenSearchOperator.Data.Rollout
import OpenSearchOperator.Reconcilers.Upgrade

/-! The entries that the upgrade reconciler keeps in the status: the stages of the
node pools, and what each of its status updates does to them. -/

namespace OpenSearchOperator.Reconcilers.Upgrade

open Api Data Effects
open Gateway Helpers

section Entries

def upgraders (componentsStatus : List ComponentStatus) : List ComponentStatus :=
  componentsStatus.filter (fun x => x.component == "Upgrader")

def entryOf (componentsStatus : List ComponentStatus) (component : String) :
    Option ComponentStatus :=
  (upgraders componentsStatus).find? (fun x => x.description == component)

structure WellKept (componentsStatus : List ComponentStatus) : Prop where
  distinct : ((upgraders componentsStatus).map ComponentStatus.description).Nodup
  status : ∀ x ∈ upgraders componentsStatus, x.status = "Upgrading" ∨ x.status = "Upgraded"

variable {l l' : List ComponentStatus} {x y : ComponentStatus} {component : String}

theorem findFirstPartial_eq (l : List ComponentStatus) {item : ComponentStatus}
    (upgrader : item.component = "Upgrader") :
    findFirstPartial l item getByDescriptionAndComponent = match entryOf l item.description with
      | some x => (x, true)
      | none => (item, false) := by
  have same : (fun x : ComponentStatus => getByDescriptionAndComponent x item) =
      fun x => decide ((x.component == "Upgrader") = true ∧
        (x.description == item.description) = true) := by
    funext x
    rw [Bool.decide_and, Bool.decide_eq_true, Bool.decide_eq_true,
      getByDescriptionAndComponent, upgrader]
    exact Bool.and_comm _ _
  have found : l.find? (fun x => getByDescriptionAndComponent x item) =
      entryOf l item.description := by
    rw [entryOf, upgraders, List.find?_filter, same]
  cases entry : entryOf l item.description with
  | _ => simp only [findFirstPartial, found, entry]

theorem findUpgrader_eq : findUpgrader l component = match entryOf l component with
      | some x => (x, true)
      | none => (upgraderStatus "" component [], false) :=
  findFirstPartial_eq l rfl

theorem entryOf_congr (same : upgraders l = upgraders l') : entryOf l = entryOf l' := by
  funext component
  rw [entryOf, entryOf, same]

theorem mem_of_entryOf (found : entryOf l component = some x) :
    x ∈ upgraders l ∧ x.description = component := by
  have chosen := List.find?_some found
  exact ⟨List.mem_of_find?_eq_some found, by simpa using chosen⟩

theorem upgraders_append (upgrader : x.component = "Upgrader") :
    upgraders (l ++ [x]) = upgraders l ++ [x] := by
  simp [upgraders, upgrader]

theorem upgraders_removeIt (upgrader : x.component = "Upgrader") (l : List ComponentStatus) :
    upgraders (removeIt x l) = (upgraders l).eraseP (fun v => componentStatusEqual v x) := by
  induction l with
  | nil => rfl
  | cons head l ih =>
    simp only [removeIt] at ih ⊢
    by_cases hit : componentStatusEqual head x = true
    · have listed : head.component = "Upgrader" := by
        simp only [componentStatusEqual, Bool.and_eq_true, beq_iff_eq] at hit
        exact hit.1.1.trans upgrader
      simp [upgraders, listed, hit]
    · simp only [upgraders] at ih ⊢
      by_cases listed : head.component = "Upgrader"
      · simp [hit, listed, ih]
      · simp [hit, listed, ih]

theorem WellKept.removeIt (kept : WellKept l) (stored : y ∈ upgraders l)
    (upgrader : x.component = "Upgrader") (same : componentStatusEqual y x = true) :
    WellKept (removeIt x l) ∧
      ∀ c, entryOf (removeIt x l) c = if c = x.description then none else entryOf l c := by
  obtain ⟨a, before, behind, _, hit, split, erased⟩ :=
    List.exists_of_eraseP (p := fun v => componentStatusEqual v x) stored same
  have shape : upgraders (Helpers.removeIt x l) = before ++ behind := by
    rw [upgraders_removeIt upgrader, erased]
  have named : a.description = x.description := by
    simp only [componentStatusEqual, Bool.and_eq_true, beq_iff_eq] at hit
    exact hit.1.2
  have distinct := kept.distinct
  rw [split, List.map_append, List.map_cons, List.nodup_middle, List.nodup_cons,
    ← List.map_append] at distinct
  refine ⟨⟨?_, ?_⟩, ?_⟩
  · rw [shape]
    exact distinct.2
  · intro v member
    apply kept.status
    rw [shape] at member
    rw [split]
    rcases List.mem_append.mp member with first | second
    · exact List.mem_append_left _ first
    · exact List.mem_append_right _ (List.mem_cons_of_mem _ second)
  · intro c
    rw [entryOf, entryOf, shape, split]
    split
    case isTrue here =>
      rw [List.find?_eq_none]
      intro v member equal
      simp only [beq_iff_eq] at equal
      apply distinct.1
      rw [named, ← here, ← equal]
      exact List.mem_map_of_mem member
    case isFalse other =>
      have miss : ¬ (a.description == c) = true := by
        simp only [beq_iff_eq]
        intro equal
        exact other (equal.symm.trans named)
      rw [List.find?_append, List.find?_append,
        List.find?_cons_of_neg (p := fun v : ComponentStatus => v.description == c) miss]

theorem WellKept.append (kept : WellKept l) (upgrader : x.component = "Upgrader")
    (status : x.status = "Upgrading" ∨ x.status = "Upgraded")
    (fresh : entryOf l x.description = none) : WellKept (l ++ [x]) ∧
      ∀ c, entryOf (l ++ [x]) c = if c = x.description then some x else entryOf l c := by
  refine ⟨⟨?_, ?_⟩, ?_⟩
  · rw [upgraders_append upgrader, List.map_append, List.map_singleton, List.nodup_append]
    refine ⟨kept.distinct, List.nodup_singleton _, ?_⟩
    intro a old b new equal
    obtain ⟨v, member, rfl⟩ := List.mem_map.mp old
    have missing := List.find?_eq_none.mp fresh v member
    rw [List.mem_singleton.mp new] at equal
    simp [equal] at missing
  · intro v member
    rw [upgraders_append upgrader] at member
    rcases List.mem_append.mp member with old | new
    · exact kept.status v old
    · rw [List.mem_singleton.mp new]
      exact status
  · intro c
    rw [entryOf, upgraders_append upgrader, List.find?_append]
    change (entryOf l c).or _ = _
    split
    case isTrue here =>
      rw [here, fresh]
      simp
    case isFalse other =>
      have miss : [x].find? (fun v => v.description == c) = none := by
        simp [Ne.symm other]
      rw [miss, Option.or_none]

/-- A replacement gives the pool the new entry and leaves the others alone. -/
theorem WellKept.replace (kept : WellKept l) (stored : y ∈ upgraders l)
    (upgrader : x.component = "Upgrader") (same : componentStatusEqual y x = true)
    (new : ComponentStatus) (upgrader' : new.component = "Upgrader")
    (named : new.description = x.description)
    (status : new.status = "Upgrading" ∨ new.status = "Upgraded") : WellKept (replace x new l) ∧
      ∀ c, entryOf (replace x new l) c = if c = x.description then some new else entryOf l c := by
  obtain ⟨removed, entries⟩ := kept.removeIt stored upgrader same
  have fresh : entryOf (Helpers.removeIt x l) new.description = none := by
    rw [entries, if_pos named]
  obtain ⟨added, again⟩ := removed.append upgrader' status fresh
  refine ⟨added, ?_⟩
  intro c
  rw [Helpers.replace, again, named]
  split
  · rfl
  case isFalse other => rw [entries, if_neg other]

theorem WellKept.removeUpgraders (kept : WellKept l) (pools : List NodePool) :
    WellKept (removeUpgraders pools l) ∧ ∀ c, entryOf (removeUpgraders pools l) c =
      if c ∈ pools.map NodePool.component then none else entryOf l c := by
  induction pools generalizing l with
  | nil => exact ⟨kept, fun c => by simp [Upgrade.removeUpgraders]⟩
  | cons pool pools ih =>
    rw [Upgrade.removeUpgraders, findUpgrader_eq]
    cases entry : entryOf l pool.component with
    | none =>
      obtain ⟨again, entries⟩ := ih kept
      refine ⟨again, ?_⟩
      intro c
      have gone := entries c
      by_cases here : c = pool.component
      · subst here
        simp only [List.map_cons, List.mem_cons, true_or, if_true]
        refine gone.trans ?_
        rw [entry]
        split <;> rfl
      · simp only [List.map_cons, List.mem_cons, here, false_or]
        exact gone
    | some x =>
      obtain ⟨stored, named⟩ := mem_of_entryOf entry
      have upgrader : x.component = "Upgrader" := by
        have chosen := List.of_mem_filter stored
        simpa using chosen
      have itself : componentStatusEqual x x = true := by simp [componentStatusEqual]
      obtain ⟨removed, without⟩ := kept.removeIt stored upgrader itself
      obtain ⟨again, entries⟩ := ih removed
      refine ⟨again, ?_⟩
      intro c
      have gone := entries c
      rw [without, named] at gone
      by_cases here : c = pool.component
      · simp only [here, List.map_cons, List.mem_cons, true_or, if_true]
        rw [here] at gone
        simpa using gone
      · simp only [List.map_cons, List.mem_cons, here, false_or]
        rw [if_neg here] at gone
        exact gone

end Entries

section Stages

def upgradeClass (pool : NodePool) : Nat :=
  if hasDataRole pool then (if hasManagerRole pool then 1 else 0) else 2

def stageOf (componentsStatus : List ComponentStatus) (pool : NodePool) : Stage :=
  match entryOf componentsStatus pool.component with
  | none => .waiting
  | some x => if x.status = "Upgrading" then .working else .done

variable {l : List ComponentStatus} {pools : List NodePool} {pool : NodePool}

theorem findInProgress_eq :
    findInProgress l pools = pools.find? (fun pool => decide (stageOf l pool = .working)) := by
  rw [findInProgress]
  congr 1
  funext pool
  rw [findUpgrader_eq, stageOf]
  cases entryOf l pool.component with
  | none => rfl
  | some x => by_cases busy : x.status = "Upgrading" <;> simp [busy]

theorem findNextPool_eq :
    findNextPool l pools = pools.find? (fun pool => decide (stageOf l pool = .waiting)) := by
  rw [findNextPool]
  congr 1
  funext pool
  rw [findUpgrader_eq, stageOf]
  cases entryOf l pool.component with
  | none => rfl
  | some x => by_cases busy : x.status = "Upgrading" <;> simp [busy]

theorem done_of_findInClass (nothing : findInClass l pools = none) :
    ∀ pool ∈ pools, stageOf l pool = .done := by
  intro pool member
  rw [findInClass, findInProgress_eq, findNextPool_eq] at nothing
  split at nothing
  · cases nothing
  case h_2 idle =>
    rw [Option.map_eq_none_iff, List.find?_eq_none] at nothing
    rw [List.find?_eq_none] at idle
    have settled := idle pool member
    have begun := nothing pool member
    cases stage : stageOf l pool with
    | waiting => simp [stage] at begun
    | working => simp [stage] at settled
    | done => rfl

theorem working_of_findInClass (next : findInClass l pools = some (pool, .inProgress)) :
    stageOf l pool = .working := by
  rw [findInClass, findInProgress_eq, findNextPool_eq] at next
  split at next
  case h_1 found =>
    cases next
    have chosen := List.find?_some found
    simpa using chosen
  · obtain ⟨_, _, impossible⟩ := Option.map_eq_some_iff.mp next
    cases impossible

theorem waiting_of_findInClass (next : findInClass l pools = some (pool, .pending)) :
    stageOf l pool = .waiting ∧ ∀ other ∈ pools, stageOf l other ≠ .working := by
  rw [findInClass, findInProgress_eq, findNextPool_eq] at next
  split at next
  · cases next
  case h_2 idle =>
    obtain ⟨first, search, same⟩ := Option.map_eq_some_iff.mp next
    cases same
    have chosen := List.find?_some search
    rw [List.find?_eq_none] at idle
    exact ⟨by simpa using chosen, fun other member => by simpa using idle other member⟩

theorem mem_dataNodes : pool ∈ dataNodes pools ↔ pool ∈ pools ∧ upgradeClass pool = 0 := by
  rw [dataNodes, List.mem_filter, upgradeClass]
  cases hasDataRole pool <;> cases hasManagerRole pool <;> simp

theorem mem_dataAndMasterNodes :
    pool ∈ dataAndMasterNodes pools ↔ pool ∈ pools ∧ upgradeClass pool = 1 := by
  rw [dataAndMasterNodes, List.mem_filter, upgradeClass]
  cases hasDataRole pool <;> cases hasManagerRole pool <;> simp

theorem mem_otherNodes : pool ∈ otherNodes pools ↔ pool ∈ pools ∧ upgradeClass pool = 2 := by
  rw [otherNodes, List.mem_filter, upgradeClass]
  cases hasDataRole pool <;> cases hasManagerRole pool <;> simp

variable {cr : OpenSearchCluster}

/-- The search settles on one class, and has found all earlier ones done. -/
theorem findNextNodePoolForUpgrade_class {status : UpgradeStatus}
    (next : findNextNodePoolForUpgrade cr = some (pool, status)) :
    ∃ nodes, findInClass cr.status.componentsStatus nodes = some (pool, status) ∧
      (∀ other, other ∈ nodes ↔
        other ∈ cr.spec.nodePools ∧ upgradeClass other = upgradeClass pool) ∧
      ∀ other ∈ cr.spec.nodePools, upgradeClass other < upgradeClass pool →
        stageOf cr.status.componentsStatus other = .done := by
  rw [findNextNodePoolForUpgrade, Option.or_eq_some_iff, Option.or_eq_some_iff] at next
  rcases next with first | ⟨none₀, second | ⟨none₁, third⟩⟩
  · have place := (mem_dataNodes.mp (findInClass_mem first)).2
    refine ⟨_, first, ?_, ?_⟩
    · intro other
      rw [mem_dataNodes, place]
    · intro other _ lower
      omega
  · have place := (mem_dataAndMasterNodes.mp (findInClass_mem second)).2
    refine ⟨_, second, ?_, ?_⟩
    · intro other
      rw [mem_dataAndMasterNodes, place]
    · intro other member lower
      exact done_of_findInClass none₀ other (mem_dataNodes.mpr ⟨member, by omega⟩)
  · have place := (mem_otherNodes.mp (findInClass_mem third)).2
    refine ⟨_, third, ?_, ?_⟩
    · intro other
      rw [mem_otherNodes, place]
    intro other member lower
    by_cases zero : upgradeClass other = 0
    · exact done_of_findInClass none₀ other (mem_dataNodes.mpr ⟨member, zero⟩)
    · exact done_of_findInClass none₁ other (mem_dataAndMasterNodes.mpr ⟨member, by omega⟩)

theorem done_of_findNextNodePoolForUpgrade (done : findNextNodePoolForUpgrade cr = none) :
    ∀ pool ∈ cr.spec.nodePools, stageOf cr.status.componentsStatus pool = .done := by
  intro pool member
  rw [findNextNodePoolForUpgrade, Option.or_eq_none_iff, Option.or_eq_none_iff] at done
  obtain ⟨first, second, third⟩ := done
  have classes : upgradeClass pool = 0 ∨ upgradeClass pool = 1 ∨ upgradeClass pool = 2 := by
    rw [upgradeClass]
    cases hasDataRole pool <;> cases hasManagerRole pool <;> simp
  rcases classes with data | both | other
  · exact done_of_findInClass first pool (mem_dataNodes.mpr ⟨member, data⟩)
  · exact done_of_findInClass second pool (mem_dataAndMasterNodes.mpr ⟨member, both⟩)
  · exact done_of_findInClass third pool (mem_otherNodes.mpr ⟨member, other⟩)

end Stages

section Edits

variable {l l' : List ComponentStatus} {pool : NodePool} {cr cluster : OpenSearchCluster}
  {c : String}

theorem stageOf_congr (same : upgraders l = upgraders l') : stageOf l = stageOf l' := by
  funext pool
  rw [stageOf, stageOf, entryOf_congr same]

theorem stageOf_other {new : Option ComponentStatus}
    (entries : ∀ c', entryOf l' c' = if c' = c then new else entryOf l c')
    (other : pool.component ≠ c) : stageOf l' pool = stageOf l pool := by
  rw [stageOf, stageOf, entries, if_neg other]

theorem stageOf_self {new : ComponentStatus}
    (entries : ∀ c', entryOf l' c' = if c' = c then some new else entryOf l c')
    (here : pool.component = c) :
    stageOf l' pool = if new.status = "Upgrading" then .working else .done := by
  rw [stageOf, entries, if_pos here]

theorem entryOf_of_working (working : stageOf l pool = .working) :
    ∃ x, entryOf l pool.component = some x ∧ x ∈ upgraders l ∧
      x.description = pool.component ∧ x.status = "Upgrading" := by
  rw [stageOf] at working
  cases entry : entryOf l pool.component with
  | none =>
    rw [entry] at working
    cases working
  | some x =>
    obtain ⟨stored, named⟩ := mem_of_entryOf entry
    refine ⟨x, rfl, stored, named, ?_⟩
    rw [entry] at working
    by_contra settled
    simp [settled] at working

theorem WellKept.congr {l l' : List ComponentStatus} (kept : WellKept l)
    (same : upgraders l' = upgraders l) : WellKept l' := by
  constructor
  · rw [same]
    exact kept.distinct
  · rw [same]
    exact kept.status

theorem upgrader_of_mem {x : ComponentStatus} (stored : x ∈ upgraders l) :
    x.component = "Upgrader" := by
  have chosen := List.of_mem_filter stored
  simpa using chosen

inductive Edit (cr cluster : OpenSearchCluster) (new : ClusterStatus) : Prop
  | start (pool : NodePool) (next : findNextNodePoolForUpgrade cr = some (pool, .pending))
      (waiting : stageOf cluster.status.componentsStatus pool = .waiting)
      (entries : ∀ c, entryOf new.componentsStatus c = if c = pool.component
        then some (upgrading pool.component []) else entryOf cluster.status.componentsStatus c)
      (version : new.version = cluster.status.version)
  | conditions (pool : NodePool) (working : stageOf cluster.status.componentsStatus pool = .working)
      (conditions : List String)
      (entries : ∀ c, entryOf new.componentsStatus c = if c = pool.component
        then some (upgrading pool.component conditions)
        else entryOf cluster.status.componentsStatus c)
      (version : new.version = cluster.status.version)
  | upgraded (pool : NodePool) (next : findNextNodePoolForUpgrade cr = some (pool, .inProgress))
      (working : stageOf cluster.status.componentsStatus pool = .working)
      (entries : ∀ c, entryOf new.componentsStatus c = if c = pool.component
        then some (upgraderStatus "Upgraded" pool.component [])
        else entryOf cluster.status.componentsStatus c)
      (version : new.version = cluster.status.version)
  | finish (next : findNextNodePoolForUpgrade cr = none)
      (entries : ∀ c, entryOf new.componentsStatus c =
        if c ∈ cluster.spec.nodePools.map NodePool.component then none
        else entryOf cluster.status.componentsStatus c)
      (version : new.version = cluster.spec.general.version)

section Updates

variable (same : upgraders cluster.status.componentsStatus = upgraders cr.status.componentsStatus)
  (kept : WellKept cluster.status.componentsStatus)
include same

theorem working_of_next (next : findNextNodePoolForUpgrade cr = some (pool, .inProgress)) :
    stageOf cluster.status.componentsStatus pool = .working := by
  obtain ⟨nodes, search, _⟩ := findNextNodePoolForUpgrade_class next
  rw [stageOf_congr same]
  exact working_of_findInClass search

theorem waiting_of_next (next : findNextNodePoolForUpgrade cr = some (pool, .pending)) :
    stageOf cluster.status.componentsStatus pool = .waiting ∧
      entryOf cluster.status.componentsStatus pool.component = none := by
  obtain ⟨nodes, search, _⟩ := findNextNodePoolForUpgrade_class next
  have waiting := (waiting_of_findInClass search).1
  rw [← stageOf_congr same] at waiting
  refine ⟨waiting, ?_⟩
  rw [stageOf] at waiting
  split at waiting
  · assumption
  · split at waiting <;> cases waiting

include kept

theorem start_entries (next : findNextNodePoolForUpgrade cr = some (pool, .pending)) :
    WellKept (cluster.status.componentsStatus ++ [upgrading pool.component []]) ∧
      ∀ c, entryOf (cluster.status.componentsStatus ++ [upgrading pool.component []]) c =
        if c = pool.component then some (upgrading pool.component [])
        else entryOf cluster.status.componentsStatus c := by
  have upgrader : (upgrading pool.component []).component = "Upgrader" := rfl
  exact kept.append upgrader (Or.inl rfl) (waiting_of_next same next).2

theorem edit_start (next : findNextNodePoolForUpgrade cr = some (pool, .pending)) :
    WellKept (cluster.status.componentsStatus ++ [upgrading pool.component []]) ∧
      Edit cr cluster { cluster.status with
        componentsStatus := cluster.status.componentsStatus ++ [upgrading pool.component []] } := by
  obtain ⟨again, entries⟩ := start_entries same kept next
  exact ⟨again, .start pool next (waiting_of_next same next).1 entries rfl⟩

section

variable (next : findNextNodePoolForUpgrade cr = some (pool, .inProgress))

include next

theorem conditions_entries (conditions : List String) :
    WellKept (withConditions pool.component conditions cluster).1.componentsStatus ∧
      ∀ c, entryOf (withConditions pool.component conditions cluster).1.componentsStatus c =
        if c = pool.component then some (upgrading pool.component conditions)
        else entryOf cluster.status.componentsStatus c := by
  obtain ⟨x, entry, stored, named, busy⟩ := entryOf_of_working (working_of_next same next)
  have upgrader : (upgrading pool.component []).component = "Upgrader" := rfl
  have looked := findFirstPartial_eq cluster.status.componentsStatus upgrader
  change findFirstPartial cluster.status.componentsStatus (upgrading pool.component [])
    getByDescriptionAndComponent = match entryOf cluster.status.componentsStatus pool.component with
      | some x => (x, true)
      | none => (upgrading pool.component [], false) at looked
  rw [entry] at looked
  have itself : componentStatusEqual x x = true := by simp [componentStatusEqual]
  have replaced := kept.replace stored (upgrader_of_mem stored) itself
    (upgrading pool.component conditions) rfl named.symm (Or.inl rfl)
  rw [named] at replaced
  rw [withConditions, looked]
  exact replaced

theorem edit_conditions (conditions : List String) :
    WellKept (withConditions pool.component conditions cluster).1.componentsStatus ∧
      Edit cr cluster (withConditions pool.component conditions cluster).1 := by
  obtain ⟨again, entries⟩ := conditions_entries same kept next conditions
  exact ⟨again, .conditions pool (working_of_next same next) conditions entries rfl⟩

theorem edit_upgraded : WellKept (replace (upgrading pool.component [])
        (upgraderStatus "Upgraded" pool.component []) cluster.status.componentsStatus) ∧
      Edit cr cluster { cluster.status with
        componentsStatus := replace (upgrading pool.component [])
          (upgraderStatus "Upgraded" pool.component []) cluster.status.componentsStatus } := by
  have working := working_of_next same next
  obtain ⟨x, entry, stored, named, busy⟩ := entryOf_of_working working
  have equal : componentStatusEqual x (upgrading pool.component []) = true := by
    simp [componentStatusEqual, upgrading, upgraderStatus, upgrader_of_mem stored, named, busy]
  obtain ⟨again, entries⟩ := kept.replace stored rfl equal
    (upgraderStatus "Upgraded" pool.component []) rfl rfl (Or.inr rfl)
  exact ⟨again, .upgraded pool next working entries rfl⟩

end

theorem Write.edit {f : OpenSearchCluster → ClusterStatus} (write : Write cr f) :
    WellKept (f cluster).componentsStatus ∧ Edit cr cluster (f cluster) := by
  cases write with
  | start pool next => exact edit_start same kept next
  | conditions pool next conditions => exact edit_conditions same kept next conditions
  | upgraded pool next => exact edit_upgraded same kept next
  | finish next =>
    obtain ⟨again, entries⟩ := kept.removeUpgraders cluster.spec.nodePools
    exact ⟨again, .finish next entries rfl⟩

end Updates

end Edits

section Others

variable {cluster : OpenSearchCluster} {w : ApiWorld} {choice : Choice} {op : Call}
  {l : List ComponentStatus} {x : ComponentStatus} {e : ApiEvent}

structure Alone (e : ApiEvent) : Prop where
  pools : e.before.cluster.spec.nodePools = e.prior.cluster.spec.nodePools
  entries : upgraders e.before.cluster.status.componentsStatus =
    upgraders e.prior.cluster.status.componentsStatus

theorem Alone.extend_of_cluster (alone : Alone (w.arrive choice op))
    (same : (w.arrive choice op).after.cluster = (w.arrive choice op).before.cluster) :
    (w.extend (w.arrive choice op)).state.cluster.spec.nodePools = w.state.cluster.spec.nodePools ∧
      upgraders (w.extend (w.arrive choice op)).state.cluster.status.componentsStatus =
        upgraders w.state.cluster.status.componentsStatus := by
  rw [World.extend_state, same]
  exact ⟨alone.pools, alone.entries⟩

def HasEntry (cluster : OpenSearchCluster) (pool : NodePool) (status : String) : Prop :=
  ∃ x ∈ cluster.status.componentsStatus,
    x.component = "Upgrader" ∧ x.description = pool.component ∧ x.status = status

theorem mem_upgraders : x ∈ upgraders l ↔ x ∈ l ∧ x.component = "Upgrader" := by
  simp [upgraders]

theorem WellKept.entryOf_mem (kept : WellKept l)
    (stored : x ∈ upgraders l) : entryOf l x.description = some x :=
  Store.get_of_mem ⟨upgraders l, kept.distinct⟩ x stored

section

variable (kept : WellKept cluster.status.componentsStatus) {pool : NodePool} {status : String}

include kept

theorem WellKept.hasEntry_iff : HasEntry cluster pool status ↔
      ∃ x, entryOf cluster.status.componentsStatus pool.component = some x ∧ x.status = status := by
  constructor
  · intro ⟨x, stored, upgrader, named, stage⟩
    have found := kept.entryOf_mem (mem_upgraders.mpr ⟨stored, upgrader⟩)
    rw [named] at found
    exact ⟨x, found, stage⟩
  · intro ⟨x, found, stage⟩
    obtain ⟨listed, named⟩ := mem_of_entryOf found
    obtain ⟨stored, upgrader⟩ := mem_upgraders.mp listed
    exact ⟨x, stored, upgrader, named, stage⟩

theorem WellKept.stageOf_entry (entry : HasEntry cluster pool status) :
    stageOf cluster.status.componentsStatus pool =
      if status = "Upgrading" then .working else .done := by
  obtain ⟨x, found, rfl⟩ := kept.hasEntry_iff.mp entry
  rw [stageOf, found]

theorem WellKept.upgraded_of_done (done : stageOf cluster.status.componentsStatus pool = .done) :
    HasEntry cluster pool "Upgraded" := by
  rw [stageOf] at done
  cases entry : entryOf cluster.status.componentsStatus pool.component with
  | none =>
    rw [entry] at done
    cases done
  | some x =>
    rcases kept.status x (mem_of_entryOf entry).1 with busy | upgraded
    · simp [entry, busy] at done
    · exact kept.hasEntry_iff.mpr ⟨x, entry, upgraded⟩

end

structure Idle (e : ApiEvent) : Prop where
  spec : e.after.cluster.spec = e.before.cluster.spec
  entries : e.after.cluster.status.componentsStatus = e.before.cluster.status.componentsStatus
  version : e.after.cluster.status.version = e.before.cluster.status.version

theorem idle_of_cluster (same : e.after.cluster = e.before.cluster) : Idle e :=
  ⟨by rw [same], by rw [same], by rw [same]⟩

theorem idle_of_phase {phase : String} (unchanged : e.before.cluster = w.state.cluster)
    (after : e.after = e.before.withStatus { w.state.cluster.status with phase := phase }) :
    Idle e := by
  rw [← unchanged] at after
  constructor
  · rw [after]
    rfl
  · rw [after]
    rfl
  · rw [after]
    rfl

end Others

end OpenSearchOperator.Reconcilers.Upgrade
