import OpenSearchOperator.Migration.Lifecycle

/-! The two resources as a server keeps them, and what the calls of a migration do to
them. The results about a migration rest on these laws alone. -/

namespace OpenSearchOperator.Migration

open Api Effects HasMeta

/-- `revision` counts the writes; the version of a resource is that of its last write. -/
structure Pair (R : Type) where
  revision : Nat
  old : Option R
  new : Option R

section Read

variable {R : Type} {served : Prop} {stored : Option R}

def Reads (served : Prop) (stored : Option R) (reply : Except ApiError R) : Prop :=
  reply = found stored ∨ ¬ served ∧ ∃ err ≠ ApiError.notFound, reply = .error err

theorem Reads.ok {r : R} (reads : Reads served stored (.ok r)) : stored = some r := by
  rcases reads with reply | ⟨_, err, _, reply⟩
  · exact found_ok reply.symm
  · cases reply

theorem Reads.notFound (reads : Reads served stored (.error .notFound)) : stored = none := by
  rcases reads with reply | ⟨_, err, other, reply⟩
  · exact found_notFound reply.symm
  · cases reply
    exact absurd rfl other

end Read

variable {I : Interface} {R : Type} [HasMeta R]

section Calls

def Pair.Bounded (v : Pair R) : Prop :=
  (∀ r ∈ v.old, (metadata r).resourceVersion ≤ v.revision) ∧
    ∀ r ∈ v.new, (metadata r).resourceVersion ≤ v.revision

def Refreshed (revision later : Nat) (stored changed : Option R) : Prop :=
  changed = stored ∨ ∀ r ∈ changed, revision < (metadata r).resourceVersion ∧
    (metadata r).resourceVersion ≤ later

structure Disturbed (v t : Pair R) : Prop where
  grows : v.revision ≤ t.revision
  old : Refreshed v.revision t.revision v.old t.old
  new : Refreshed v.revision t.revision v.new t.new

def Known (copy : R) (revision : Nat) (stored : Option R) : Prop :=
  (metadata copy).resourceVersion ≤ revision ∧ ∀ r ∈ stored,
    (metadata r).resourceVersion = (metadata copy).resourceVersion → metadata r = metadata copy

structure Accepts (current r : R) : Prop where
  uid : (metadata r).uid = (metadata current).uid
  version : (metadata r).resourceVersion = (metadata current).resourceVersion
  finalizers : (metadata current).deleting = true →
    (metadata r).finalizers ⊆ (metadata current).finalizers

def accepted (revision : Nat) (current r : R) : ObjectMeta :=
  { metadata r with resourceVersion := revision, deleting := (metadata current).deleting }

inductive Wrote (served : Prop) (revision : Nat) (r : R) :
    Option R → Except ApiError R → Option R → Prop
  | rejected (stored : Option R) (err : ApiError)
      (reason : served → ∀ current ∈ stored, ¬ Accepts current r) :
      Wrote served revision r stored (.error err) stored
  | stays (current updated : R) (reply : Except ApiError R) (accepts : Accepts current r)
      (left : metadata updated = accepted revision current r)
      (held : (metadata current).deleting = true → (metadata r).finalizers ≠ [])
      (told : reply = .ok updated ∨ ¬ served ∧ ∃ err, reply = .error err) :
      Wrote served revision r (some current) reply (some updated)
  | goes (current updated : R) (reply : Except ApiError R) (accepts : Accepts current r)
      (left : metadata updated = accepted revision current r)
      (deleting : (metadata current).deleting = true) (last : (metadata r).finalizers = [])
      (told : reply = .ok updated ∨ ¬ served ∧ ∃ err, reply = .error err) :
      Wrote served revision r (some current) reply none

inductive Deleted (served : Prop) (revision : Nat) :
    Option R → Except ApiError Unit → Option R → Prop
  | rejected (stored : Option R) (err : ApiError)
      (reason : served → stored = none ∧ err = .notFound) :
      Deleted served revision stored (.error err) stored
  | stays (current updated : R) (reply : Except ApiError Unit)
      (left : metadata updated =
        { metadata current with resourceVersion := revision, deleting := true })
      (told : reply = .ok () ∨ ¬ served ∧ ∃ err, reply = .error err) :
      Deleted served revision (some current) reply (some updated)
  | goes (current : R) (reply : Except ApiError Unit) (last : (metadata current).finalizers = [])
      (told : reply = .ok () ∨ ¬ served ∧ ∃ err, reply = .error err) :
      Deleted served revision (some current) reply none

def traits (r : R) : ObjectMeta := { metadata r with resourceVersion := 0 }

/-- A step of the creation of the new resource, or of its comparison with the old one:
the finalizers are left alone, and a resource that comes into being names its source.
Without a source none comes into being. -/
structure Minor (source : Option R) (v t : Pair R) : Prop where
  old : t.old.map traits = v.old.map traits
  held : ∀ r ∈ v.new, MigrationFinalizer ∈ (metadata r).finalizers →
    ∃ later ∈ t.new, MigrationFinalizer ∈ (metadata later).finalizers ∧
      (metadata later).deleting = (metadata r).deleting
  created : v.new = none → ∀ r ∈ t.new, ∃ origin ∈ source,
    (metadata origin).annotations.get SourceUIDAnnotation = none →
      (metadata r).annotations.get SourceUIDAnnotation = some (metadata origin).uid

end Calls

section Laws

variable (S : Server I) (view : S.State → Pair R)

def Discreet (source : Option R) (program : Program I Returned) (w : World S) : Prop :=
  ∀ (permit : Event S → Prop) (inv : World S → Prop), inv w →
    (∀ w e, permit e → e.prior = w.state → inv w → Minor source (view e.before) (view e.after) →
      inv (w.extend e)) →
    Safe permit inv program (fun _ => inv) w

def LeavesOld (op : I.Call) : Prop :=
  ∀ choice s, (view (S.answer choice s op).2).old = (view s).old

structure Migrator.Lawful (k : Migrator I R) (served : S.Choice → Prop) : Prop where
  disturbed : ∀ choice s, Disturbed (view s) (view (S.disturb choice s))
  bounded : ∀ choice s op, (view s).Bounded → (view (S.answer choice s op).2).Bounded
  getNew : OneCall S k.getNew fun choice s reply t =>
    view t = view s ∧ Reads (served choice) (view s).new reply
  getOld : OneCall S k.getOld fun choice s reply t =>
    view t = view s ∧ Reads (served choice) (view s).old reply
  updateNew : ∀ r, OneCall S (k.updateNew r) fun choice s reply t =>
    (view t).old = (view s).old ∧
      Wrote (served choice) (view t).revision r (view s).new reply (view t).new
  updateOld : ∀ r, OneCall S (k.updateOld r) fun choice s reply t =>
    (view t).new = (view s).new ∧
      Wrote (served choice) (view t).revision r (view s).old reply (view t).old
  deleteOld : OneCall S k.deleteOld fun choice s reply t =>
    (view t).new = (view s).new ∧
      Deleted (served choice) (view t).revision (view s).old reply (view t).old
  createLeavesOld : ∀ old, (k.createNewFromOld old).OnlyCalls (LeavesOld S view)
  create : ∀ old w, (view w.state).Bounded → Discreet S view (some old) (k.createNewFromOld old) w
  sync : ∀ old new w, (view w.state).Bounded →
    Known new (view w.state).revision (view w.state).new →
    Discreet S view none (k.syncOldToNew old new) w

variable {S view} {source : Option R}

theorem minor_same {v t : Pair R} (old : t.old = v.old) (new : t.new = v.new) :
    Minor source v t := by
  refine ⟨congrArg _ old, fun r there has => ?_, fun nothing r there => ?_⟩
  · exact ⟨r, new.trans there, has, rfl⟩
  · cases (new.trans nothing).symm.trans there

theorem minor_refl (source : Option R) (v : Pair R) : Minor source v v := minor_same rfl rfl

def AlwaysMinor (S : Server I) (view : S.State → Pair R) (source : Option R) (op : I.Call) : Prop :=
  ∀ choice s, Minor source (view s) (view (S.answer choice s op).2)

theorem discreet_of_calls {program : Program I Returned}
    (only : program.OnlyCalls (AlwaysMinor S view source)) (w : World S) :
    Discreet S view source program w := by
  intro permit inv holds kept
  refine keeps_of_calls (fun _ here => here) only ?_ w holds
  intro w choice op minor permitted here
  exact kept w _ permitted rfl here (minor choice _)

end Laws

section Facts

variable {v t : Pair R} {copy r : R} {stored changed : Option R} {revision : Nat} {served : Prop}
  {reply : Except ApiError R}

theorem Refreshed.known {later : Nat}
    (refreshed : Refreshed revision later stored changed) (grows : revision ≤ later)
    (known : Known copy revision stored) : Known copy later changed := by
  refine ⟨Nat.le_trans known.1 grows, fun r there same => ?_⟩
  rcases refreshed with rfl | fresh
  · exact known.2 r there same
  have := fresh r there
  have := known.1
  omega

theorem Disturbed.bounded (disturbed : Disturbed v t) (bounded : v.Bounded) : t.Bounded := by
  have slot : ∀ {stored changed : Option R}, Refreshed v.revision t.revision stored changed →
      (∀ r ∈ stored, (metadata r).resourceVersion ≤ v.revision) →
      ∀ r ∈ changed, (metadata r).resourceVersion ≤ t.revision := by
    intro stored changed refreshed below r there
    rcases refreshed with rfl | fresh
    · exact Nat.le_trans (below r there) disturbed.grows
    · exact (fresh r there).2
  exact ⟨slot disturbed.old bounded.1, slot disturbed.new bounded.2⟩

theorem Wrote.bounded (wrote : Wrote served (revision + 1) r stored reply changed)
    (below : ∀ r ∈ stored, (metadata r).resourceVersion ≤ revision) :
    ∀ r ∈ changed, (metadata r).resourceVersion ≤ revision + 1 := by
  intro later there
  cases wrote with
  | rejected => exact Nat.le_succ_of_le (below later there)
  | stays current updated reply accepts left =>
    cases there
    rw [left]
    exact Nat.le_refl _
  | goes => cases there

/-- An update of the new resource that keeps the finalizers of the copy it was made from. -/
theorem Wrote.minor {source : Option R}
    (wrote : Wrote served revision r v.new reply t.new) (old : t.old = v.old)
    (known : Known copy v.revision v.new)
    (version : (metadata r).resourceVersion = (metadata copy).resourceVersion)
    (finalizers : (metadata r).finalizers = (metadata copy).finalizers) : Minor source v t := by
  have same : ∀ current ∈ v.new, Accepts current r →
      (metadata current).finalizers = (metadata r).finalizers := by
    intro current there accepts
    rw [known.2 current there (accepts.version.symm.trans version), finalizers]
  rcases v with ⟨before, _, new⟩
  rcases t with ⟨later, _, changed⟩
  cases wrote with
  | rejected => exact minor_same old rfl
  | stays current updated _ accepts left =>
    refine ⟨congrArg _ old, fun other there has => ?_, nofun⟩
    cases there
    refine ⟨updated, rfl, ?_, ?_⟩
    · rw [left]
      exact same current rfl accepts ▸ has
    · rw [left]
      rfl
  | goes current updated _ accepts left deleting last =>
    refine ⟨congrArg _ old, fun other there has => ?_, nofun⟩
    cases there
    rw [same current rfl accepts, last] at has
    cases has

theorem Pair.Bounded.known (bounded : v.Bounded) (there : v.new = some r) :
    Known r v.revision v.new := by
  refine ⟨bounded.2 r there, fun other stored _ => ?_⟩
  cases there.symm.trans stored
  rfl

theorem Wrote.known {updated : R}
    (wrote : Wrote served v.revision r stored (.ok updated) v.new) (bounded : v.Bounded) :
    Known updated v.revision v.new := by
  rcases v with ⟨revision, old, new⟩
  cases wrote with
  | stays current other _ accepts left held told =>
    rcases told with same | ⟨_, err, impossible⟩
    · cases same
      exact bounded.known rfl
    · cases impossible
  | goes current other _ accepts left deleting last told =>
    rcases told with same | ⟨_, err, impossible⟩
    · cases same
      refine ⟨?_, nofun⟩
      rw [left]
      exact Nat.le_refl _
    · cases impossible

end Facts

section Update

variable (keepStatus : R → R → R)

/-- An update leaves the status and the identity alone. It may not add a finalizer to
an object that is being deleted, and such an object goes with its last finalizer. -/
def updateStored (revision : Nat) (stored : Option R) (r : R) : Except ApiError R × Option R :=
  match stored with
  | none => (.error .notFound, none)
  | some current =>
    if (metadata r).uid ≠ (metadata current).uid ∨
        (metadata r).resourceVersion ≠ (metadata current).resourceVersion then
      (.error .conflict, some current)
    else if (metadata current).deleting = true ∧
        ¬ (metadata r).finalizers ⊆ (metadata current).finalizers then
      (.error .invalid, some current)
    else
      let updated := keepStatus current (withMetadata r (accepted revision current r))
      (.ok updated, if (metadata current).deleting ∧ (metadata r).finalizers = [] then none
        else some updated)

variable {keepStatus}

theorem updateStored_wrote (kept : ∀ current r : R, metadata (keepStatus current r) = metadata r)
    (revision : Nat) (stored : Option R) (r : R) (served : Prop) (reply : Except ApiError R)
    (told : reply = (updateStored keepStatus revision stored r).1 ∨
      ¬ served ∧ ∃ err, reply = .error err) :
    Wrote served revision r stored reply (updateStored keepStatus revision stored r).2 := by
  have failed : ∀ err, (updateStored keepStatus revision stored r).1 = .error err →
      ∃ err, reply = .error err := by
    intro err same
    rcases told with direct | ⟨_, lost⟩
    · exact ⟨err, direct.trans same⟩
    · exact lost
  cases stored with
  | none =>
    obtain ⟨err, rfl⟩ := failed _ rfl
    exact .rejected none err nofun
  | some current =>
    rw [updateStored] at told failed ⊢
    split
    case isTrue mismatch =>
      rw [if_pos mismatch] at failed
      obtain ⟨err, rfl⟩ := failed _ rfl
      refine .rejected _ err fun _ other same accepts => ?_
      cases same
      rcases mismatch with uid | version
      · exact uid accepts.uid
      · exact version accepts.version
    case isFalse matching =>
      rw [if_neg matching] at told failed
      push Not at matching
      split
      case isTrue adds =>
        rw [if_pos adds] at failed
        obtain ⟨err, rfl⟩ := failed _ rfl
        refine .rejected _ err fun _ other same accepts => ?_
        cases same
        exact adds.2 (accepts.finalizers adds.1)
      case isFalse fits =>
        rw [if_neg fits] at told
        push Not at fits
        have accepts : Accepts current r := ⟨matching.1, matching.2, fits⟩
        have left : metadata (keepStatus current (withMetadata r (accepted revision current r))) =
            accepted revision current r := by
          rw [kept, metadata_withMetadata]
        split
        case isTrue last => exact .goes current _ reply accepts left last.1 last.2 told
        case isFalse more =>
          push Not at more
          exact .stays current _ reply accepts left more told

end Update

end OpenSearchOperator.Migration
