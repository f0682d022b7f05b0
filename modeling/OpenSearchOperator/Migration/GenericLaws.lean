import OpenSearchOperator.Migration.Generic

/-! The generic migration obeys the laws of a migration. -/

namespace OpenSearchOperator.Migration.Generic

open Api Effects HasMeta

variable {Spec Rest : Type} [Inhabited Rest]

section Answers

variable (choice : GenericChoice Spec Rest) (s : GenericWorld Spec Rest)
  {stored : Option (Resource Spec Rest)} {revision : Nat}

/-- A property that the call leaves, if it takes effect, and that held before. -/
theorem answerCall_state (holds : GenericWorld Spec Rest → Prop) (op : Call Spec Rest)
    (here : holds s) (served : holds (serveCall choice.uid choice.timestamp s op).2) :
    holds (answerCall choice s op).2 := by
  rw [answerCall]
  split
  · exact served
  · exact here
  · exact served

omit [Inhabited Rest] in
theorem metadata_keepStatus (current r : Resource Spec Rest) :
    metadata (keepStatus current r) = metadata r := rfl

omit [Inhabited Rest] in
theorem wrote_updateStored (served : Prop)
    (r : Resource Spec Rest) {reply : Except ApiError (Resource Spec Rest)}
    (told : reply = (updateStored keepStatus revision stored r).1 ∨
      ¬ served ∧ ∃ err, reply = .error err) :
    Wrote served revision r stored reply (updateStored keepStatus revision stored r).2 :=
  updateStored_wrote metadata_keepStatus revision stored r served reply told

theorem bounded_serveCall (bounded : s.Bounded) (op : Call Spec Rest) :
    (serveCall choice.uid choice.timestamp s op).2.Bounded := by
  have older : ∀ {stored : Option (Resource Spec Rest)},
      (∀ r ∈ stored, (metadata r).resourceVersion ≤ s.revision) →
      ∀ r ∈ stored, (metadata r).resourceVersion ≤ s.revision + 1 :=
    fun below r there => Nat.le_succ_of_le (below r there)
  cases op with
  | createNew resource =>
    rw [serveCall]
    split
    · exact bounded
    refine ⟨older bounded.1, fun r there => ?_⟩
    cases there
    exact Nat.le_refl _
  | updateNew resource => exact ⟨older bounded.1,
      (wrote_updateStored True resource (Or.inl rfl)).bounded bounded.2⟩
  | updateOld resource => exact ⟨(wrote_updateStored True resource (Or.inl rfl)).bounded bounded.1,
      older bounded.2⟩
  | updateNewStatus resource =>
    rw [serveCall]
    split
    · exact bounded
    split
    · exact bounded
    refine ⟨older bounded.1, fun r there => ?_⟩
    cases there
    exact Nat.le_refl _
  | deleteOld =>
    rw [serveCall]
    split
    · exact bounded
    refine ⟨fun r there => ?_, older bounded.2⟩
    split at there
    · cases there
    · cases there
      exact Nat.le_refl _
  | _ => exact bounded

theorem deleteOld_new (picked now : String) (s : GenericWorld Spec Rest) :
    (serveCall picked now s .deleteOld).2.new = s.new := by
  rw [serveCall]
  split <;> rfl

theorem deleted_deleteOld (picked now : String) (s : GenericWorld Spec Rest) {served : Prop}
    {reply : Except ApiError Unit}
    (told : reply = (serveCall picked now s .deleteOld).1 ∨ ¬ served ∧ ∃ err, reply = .error err) :
    Deleted served (serveCall picked now s .deleteOld).2.revision s.old reply
      (serveCall picked now s .deleteOld).2.old := by
  rcases s with ⟨revision, old, new⟩
  cases old with
  | none =>
    rcases told with rfl | ⟨refused, err, rfl⟩
    · exact .rejected none .notFound fun _ => ⟨rfl, rfl⟩
    · exact .rejected none err fun yes => absurd yes refused
  | some current =>
    show Deleted served (revision + 1) (some current) reply (if current.finalizers = [] then none
      else some { current with resourceVersion := revision + 1, deleting := true })
    split
    case isTrue last => exact .goes current reply last told
    case isFalse => exact .stays current _ reply rfl told

omit [Inhabited Rest] in
theorem refreshed_refresh [DecidableEq Spec] [DecidableEq Rest]
    {changed : Option (Resource Spec Rest)} :
    Refreshed revision (revision + 1) stored (refresh (revision + 1) stored changed) := by
  rw [refresh]
  split
  · exact Or.inl rfl
  refine Or.inr fun r there => ?_
  obtain ⟨other, _, rfl⟩ := Option.map_eq_some_iff.mp there
  exact ⟨Nat.lt_succ_self _, Nat.le_refl _⟩

end Answers

section Minor

variable (oldResource : Resource Spec Rest)

theorem minor_createNew (timestamp picked now : String) (s : GenericWorld Spec Rest) :
    Minor (some oldResource) s
      (serveCall picked now s (.createNew (newFromOld oldResource timestamp))).2 := by
  rw [serveCall]
  split
  · exact minor_refl _ s
  rename_i nothing
  refine ⟨rfl, fun r there => ?_, fun _ r there => ?_⟩
  · rw [nothing] at there
    cases there
  · cases there
    exact ⟨oldResource, rfl, fun _ => rfl⟩

theorem minor_updateNewStatus {source : Option (Resource Spec Rest)}
    (resource : Resource Spec Rest) {picked now : String} (s : GenericWorld Spec Rest) :
    Minor source s (serveCall picked now s (.updateNewStatus resource)).2 := by
  rw [serveCall]
  split
  · exact minor_refl source s
  rename_i current stored
  split
  · exact minor_refl source s
  refine ⟨rfl, fun r there has => ?_, fun nothing => ?_⟩
  · cases stored.symm.trans there
    exact ⟨_, rfl, has, rfl⟩
  · cases stored.symm.trans nothing

variable [DecidableEq Spec] [DecidableEq Rest] {op : (generic Spec Rest).Call}

inductive Creating (oldResource : Resource Spec Rest) : (generic Spec Rest).Call → Prop
  | now : Creating oldResource .now
  | getNew : Creating oldResource .getNew
  | createNew (timestamp : String) :
      Creating oldResource (.createNew (newFromOld oldResource timestamp))
  | updateNewStatus (resource : Resource Spec Rest) :
      Creating oldResource (.updateNewStatus resource)

omit [DecidableEq Spec] [DecidableEq Rest] in
theorem onlyCalls_createGenericNewFromOld :
    (createGenericNewFromOld oldResource).OnlyCalls (Creating oldResource) := by
  apply onlyCalls_ask .now
  intro timestamp
  apply (onlyCalls_asked (.createNew timestamp)).bindOk
  · intro err
    cases err <;> trivial
  intro _
  have attempt : ∀ shared : Unit,
      (updateStatusAttempt oldResource.status shared : GenericProg Spec Rest _).OnlyCalls
        (Creating oldResource) := by
    intro _
    apply (onlyCalls_asked .getNew).bindOk
    · exact fun _ => trivial
    intro stored
    apply onlyCalls_ask (.updateNewStatus _)
    intro reply
    cases reply <;> trivial
  apply (onlyCalls_retry attempt 4 ()).bind
  intro ⟨err, _⟩
  cases err <;> trivial

theorem Creating.minor (creating : Creating oldResource op) :
    AlwaysMinor (genericServer Spec Rest) id (some oldResource) op := by
  intro choice s
  apply answerCall_state choice s (Minor (some oldResource) s) op (minor_refl _ s)
  cases creating with
  | createNew timestamp => exact minor_createNew oldResource timestamp _ _ s
  | updateNewStatus resource => exact minor_updateNewStatus resource s
  | _ => exact minor_refl _ s

theorem Creating.leavesOld (creating : Creating oldResource op) :
    LeavesOld (genericServer Spec Rest) id op := by
  intro choice s
  apply answerCall_state choice s (fun t => t.old = s.old) op rfl
  cases creating with
  | now => rfl
  | getNew => rfl
  | createNew timestamp =>
    rw [serveCall]
    split <;> rfl
  | updateNewStatus resource =>
    rw [serveCall]
    split
    · rfl
    · split <;> rfl

end Minor

def Served (choice : GenericChoice Spec Rest) : Prop := choice.outcome = .served

theorem reads_getNew (choice : GenericChoice Spec Rest) (s : GenericWorld Spec Rest) :
    (answerCall choice s .getNew).2 = s ∧
      Reads (Served choice) s.new (answerCall choice s .getNew).1 := by
  rw [Served, answerCall]
  cases choice.outcome with
  | served => exact ⟨rfl, Or.inl rfl⟩
  | refused fault => exact ⟨rfl, Or.inr ⟨by simp, _, fault_ne_notFound fault, rfl⟩⟩
  | lost => exact ⟨rfl, Or.inr ⟨by simp, .unavailable, by simp, rfl⟩⟩

theorem reads_getOld (choice : GenericChoice Spec Rest) (s : GenericWorld Spec Rest) :
    (answerCall choice s .getOld).2 = s ∧
      Reads (Served choice) s.old (answerCall choice s .getOld).1 := by
  rw [Served, answerCall]
  cases choice.outcome with
  | served => exact ⟨rfl, Or.inl rfl⟩
  | refused fault => exact ⟨rfl, Or.inr ⟨by simp, _, fault_ne_notFound fault, rfl⟩⟩
  | lost => exact ⟨rfl, Or.inr ⟨by simp, .unavailable, by simp, rfl⟩⟩

variable [DecidableEq Spec] [DecidableEq Rest]

theorem lawful_genericMigrator :
    (genericMigrator Spec Rest).Lawful (genericServer Spec Rest) id Served where
  disturbed choice s := ⟨Nat.le_succ _, refreshed_refresh, refreshed_refresh⟩
  bounded choice s op bounded :=
    answerCall_state choice s Pair.Bounded op bounded (bounded_serveCall choice s bounded op)
  getNew := ⟨.getNew, id, rfl, reads_getNew⟩
  getOld := ⟨.getOld, id, rfl, reads_getOld⟩
  updateNew r := by
    refine ⟨.updateNew r, id, rfl, fun choice s => ?_⟩
    show (answerCall choice s (.updateNew r)).2.old = s.old ∧
      Wrote (Served choice) (answerCall choice s (.updateNew r)).2.revision r s.new
        (answerCall choice s (.updateNew r)).1 (answerCall choice s (.updateNew r)).2.new
    rw [Served, answerCall]
    cases choice.outcome with
    | served => exact ⟨rfl, wrote_updateStored _ r (Or.inl rfl)⟩
    | refused fault => exact ⟨rfl, .rejected _ _ nofun⟩
    | lost => exact ⟨rfl, wrote_updateStored _ r (Or.inr ⟨nofun, _, rfl⟩)⟩
  updateOld r := by
    refine ⟨.updateOld r, id, rfl, fun choice s => ?_⟩
    show (answerCall choice s (.updateOld r)).2.new = s.new ∧
      Wrote (Served choice) (answerCall choice s (.updateOld r)).2.revision r s.old
        (answerCall choice s (.updateOld r)).1 (answerCall choice s (.updateOld r)).2.old
    rw [Served, answerCall]
    cases choice.outcome with
    | served => exact ⟨rfl, wrote_updateStored _ r (Or.inl rfl)⟩
    | refused fault => exact ⟨rfl, .rejected _ _ nofun⟩
    | lost => exact ⟨rfl, wrote_updateStored _ r (Or.inr ⟨nofun, _, rfl⟩)⟩
  deleteOld := by
    refine ⟨.deleteOld, id, rfl, fun choice s => ?_⟩
    show (answerCall choice s .deleteOld).2.new = s.new ∧
      Deleted (Served choice) (answerCall choice s .deleteOld).2.revision s.old
        (answerCall choice s .deleteOld).1 (answerCall choice s .deleteOld).2.old
    rw [Served, answerCall]
    cases choice.outcome with
    | served => exact ⟨deleteOld_new _ _ s, deleted_deleteOld _ _ s (Or.inl rfl)⟩
    | refused fault => exact ⟨rfl, .rejected _ _ nofun⟩
    | lost => exact ⟨deleteOld_new _ _ s, deleted_deleteOld _ _ s (Or.inr ⟨nofun, _, rfl⟩)⟩
  createLeavesOld old := (onlyCalls_createGenericNewFromOld old).mono fun _ creating =>
    creating.leavesOld
  create old w _ := discreet_of_calls
    ((onlyCalls_createGenericNewFromOld old).mono fun _ creating => creating.minor) w
  sync old new w _ _ := fun _ _ holds _ => holds

end OpenSearchOperator.Migration.Generic
