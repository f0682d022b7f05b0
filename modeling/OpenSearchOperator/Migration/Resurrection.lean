import OpenSearchOperator.Effects.History
import OpenSearchOperator.Migration.ClusterLaws
import OpenSearchOperator.Migration.GenericLaws

/-! A new resource that was deleted does not come back. Two things keep it away: as long
as it is there the finalizer holds it, and before the finalizer goes the old resource is
marked. The finalizer is added by a later call than the one that creates the resource, so
a deletion in between is not noticed. -/

namespace OpenSearchOperator.Migration.Resurrection

open Api Effects HasMeta

variable {I : Interface} {R : Type} [HasMeta R]

section States

variable (uid : String)

def Holds (v : Pair R) : Prop := ∃ r ∈ v.old, (metadata r).uid = uid

@[mk_iff]
structure Requested (prior before : Pair R) : Prop where
  asked : ∃ r ∈ prior.new, (metadata r).deleting = false ∧
    ∀ later ∈ before.new, (metadata later).uid = (metadata r).uid → (metadata later).deleting = true
  source : Holds uid before

structure CreatesFrom (before after : Pair R) : Prop where
  absent : before.new = none
  created : ∃ r ∈ after.new, (metadata r).annotations.get SourceUIDAnnotation = some uid

/-- The deletion of the new resource is asked for only while it has the finalizer, which
others leave alone, as they do with the mark on the old resource. -/
@[mk_iff]
structure Careful (prior before : Pair R) : Prop where
  requested : ∀ r ∈ prior.new, (metadata r).deleting = false →
    MigrationFinalizer ∉ (metadata r).finalizers →
    ∃ later ∈ before.new, (metadata later).uid = (metadata r).uid ∧
      (metadata later).deleting = false
  held : ∀ r ∈ prior.new, MigrationFinalizer ∈ (metadata r).finalizers →
    ∃ later ∈ before.new, (metadata later).uid = (metadata r).uid ∧
      MigrationFinalizer ∈ (metadata later).finalizers ∧
      ((metadata r).deleting = true → (metadata later).deleting = true)
  marked : ∀ r ∈ prior.old, (metadata r).deletedByNewResource = true →
    ∀ later ∈ before.old, (metadata later).uid = (metadata r).uid →
      (metadata later).deletedByNewResource = true
  unsourced : ∀ r ∈ before.old, (metadata r).annotations.get SourceUIDAnnotation = none

def Doomed (v : Pair R) : Prop :=
  ∃ r ∈ v.new, (metadata r).deleting = true ∧ MigrationFinalizer ∈ (metadata r).finalizers

def Barred (v : Pair R) : Prop :=
  ∀ r ∈ v.old, (metadata r).uid = uid → (metadata r).deletedByNewResource = true

end States

section Moves

variable {uid : String} {v t : Pair R}

variable {revision : Nat}

theorem Doomed.disturbed (doomed : Doomed v) (careful : Careful v t) : Doomed t := by
  obtain ⟨r, there, deleting, has⟩ := doomed
  obtain ⟨later, stored, _, kept, still⟩ := careful.held r there has
  exact ⟨later, stored, still deleting, kept⟩

theorem Requested.doomed (requested : Requested uid v t) (careful : Careful v t) : Doomed t := by
  obtain ⟨r, there, stays, asked⟩ := requested.asked
  by_cases has : MigrationFinalizer ∈ (metadata r).finalizers
  · obtain ⟨later, stored, same, kept, _⟩ := careful.held r there has
    exact ⟨later, stored, asked later stored same, kept⟩
  obtain ⟨later, stored, same, still⟩ := careful.requested r there stays has
  rw [asked later stored same] at still
  cases still

theorem Doomed.not_requested (doomed : Doomed v) : ¬ Requested uid v t := by
  intro requested
  obtain ⟨r, there, deleting, _⟩ := doomed
  obtain ⟨other, same, stays, _⟩ := requested.asked
  cases there.symm.trans same
  rw [deleting] at stays
  cases stays

theorem Barred.disturbed (barred : Barred uid v) (careful : Careful v t)
    (known : Holds uid t → Holds uid v) : Barred uid t := by
  intro later stored same
  obtain ⟨r, there, identity⟩ := known ⟨later, stored, same⟩
  exact careful.marked r there (barred r there identity) later stored (same.trans identity.symm)

theorem Barred.same (barred : Barred uid v) (same : t.old.map traits = v.old.map traits) :
    Barred uid t := by
  intro r there identity
  rw [there] at same
  obtain ⟨earlier, stored, alike⟩ := Option.map_eq_some_iff.mp same.symm
  have marked : (traits earlier).deletedByNewResource = (traits r).deletedByNewResource := by
    rw [alike]
  have uids : (traits earlier).uid = (traits r).uid := by rw [alike]
  exact marked.symm.trans (barred earlier stored (uids.trans identity))

theorem Doomed.new (doomed : Doomed v) (same : t.new = v.new) : Doomed t := by
  rw [Doomed, same]
  exact doomed

theorem Minor.doomed {source : Option R} (minor : Minor source v t) (doomed : Doomed v) :
    Doomed t := by
  obtain ⟨r, there, deleting, has⟩ := doomed
  obtain ⟨later, stored, kept, same⟩ := minor.held r there has
  exact ⟨later, stored, same.trans deleting, kept⟩

variable {reply : Except ApiError R} {r updated : R} {served : Prop}

/-- An update of the old resource by a copy that is marked if the stored one is. -/
theorem Wrote.barred (wrote : Wrote served revision r v.old reply t.old) (barred : Barred uid v)
    (marked : ∀ current ∈ v.old, Accepts current r →
      (metadata current).deletedByNewResource = true → (metadata r).deletedByNewResource = true) :
    Barred uid t := by
  rcases v with ⟨before, old, _⟩
  rcases t with ⟨later, changed, _⟩
  cases wrote with
  | rejected => exact barred
  | stays current updated _ accepts left =>
    intro other there identity
    cases there
    rw [left] at identity ⊢
    exact marked current rfl accepts (barred current rfl (accepts.uid.symm.trans identity))
  | goes => exact nofun

theorem Wrote.marked (wrote : Wrote served revision r v.old (.ok updated) t.old)
    (marked : (metadata r).deletedByNewResource = true) :
    ∀ other ∈ t.old, (metadata other).deletedByNewResource = true := by
  rcases v with ⟨before, old, _⟩
  rcases t with ⟨later, changed, _⟩
  intro other there
  cases wrote with
  | stays current _ _ accepts left =>
    cases there
    rw [left]
    exact marked
  | goes => cases there

theorem Wrote.stored (wrote : Wrote served revision r v.old (.ok updated) t.old)
    (more : (metadata r).finalizers ≠ []) :
    t.old = some updated ∧ (metadata updated).annotations = (metadata r).annotations := by
  rcases v with ⟨before, old, _⟩
  rcases t with ⟨later, changed, _⟩
  cases wrote with
  | stays current other _ accepts left _ told =>
    rcases told with same | ⟨_, err, impossible⟩
    · cases same
      exact ⟨rfl, by rw [left]; rfl⟩
    · cases impossible
  | goes _ _ _ _ _ _ last => exact absurd last more

theorem Deleted.barred {reply : Except ApiError Unit}
    (deleted : Deleted served revision v.old reply t.old) (barred : Barred uid v) :
    Barred uid t := by
  rcases v with ⟨before, old, _⟩
  rcases t with ⟨later, changed, _⟩
  cases deleted with
  | rejected => exact barred
  | stays current updated _ left =>
    intro other there identity
    cases there
    rw [left] at identity ⊢
    exact barred current rfl identity
  | goes => exact nofun

theorem Wrote.doomed (wrote : Wrote served revision r v.new reply t.new)
    (doomed : Doomed v) (has : MigrationFinalizer ∈ (metadata r).finalizers) : Doomed t := by
  rcases v with ⟨before, _, new⟩
  rcases t with ⟨later, _, changed⟩
  obtain ⟨other, there, deleting, _⟩ := doomed
  cases wrote with
  | rejected => exact ⟨other, there, deleting, by assumption⟩
  | stays current updated _ accepts left =>
    cases there
    refine ⟨updated, rfl, ?_, ?_⟩
    · rw [left]
      exact deleting
    · rw [left]
      exact has
  | goes current updated _ accepts left _ last =>
    rw [last] at has
    cases has

theorem Wrote.not_creates (wrote : Wrote served revision r v.new reply t.new) :
    ¬ CreatesFrom uid v t := by
  rcases v with ⟨before, _, new⟩
  rcases t with ⟨later, _, changed⟩
  intro ⟨absent, other, there, _⟩
  cases wrote with
  | rejected => cases absent.symm.trans there
  | _ => cases absent

theorem not_creates_same (same : t.new = v.new) : ¬ CreatesFrom uid v t := by
  intro ⟨absent, r, there, _⟩
  cases (same.trans absent).symm.trans there

end Moves

section History

variable {S : Server I} (view : S.State → Pair R) (uid : String)

def Ended (past : List (Event S)) : Prop :=
  ∃ e ∈ past, Requested uid (view e.prior) (view e.before)

def Once (past : List (Event S)) : Prop :=
  Throughout (fun e earlier => Holds uid (view e.before) → Holds uid (view e.prior) ∨
    ∀ d ∈ earlier, ¬ Holds uid (view d.before)) past

def StaysAway (e : Event S) (earlier : List (Event S)) : Prop :=
  CreatesFrom uid (view e.before) (view e.after) → ¬ Ended view uid (e :: earlier)

structure Good (w : World S) : Prop where
  away : Throughout (StaysAway view uid) w.past
  closed : Ended view uid w.past → Doomed (view w.state) ∨ Barred uid (view w.state)

structure Alive (facts : World S → Prop) (w : World S) : Prop where
  bounded : (view w.state).Bounded
  holds : Once view uid w.past → Good view uid w ∧ facts w

abbrev Sober (w : World S) : Prop := Alive view uid (fun _ => True) w

def Watched (e : Event S) : Prop := Careful (view e.prior) (view e.before)

structure Arrives (w : World S) (e : Event S) : Prop where
  bounded : (view w.state).Bounded
  good : Good view uid w
  careful : Watched view e
  once : Once view uid (w.extend e).past
  prior : e.prior = w.state

end History

section Arrivals

variable {S : Server I} {view : S.State → Pair R} {uid : String} {w : World S} {e : Event S}

section

variable (arrives : Arrives view uid w e)

include arrives

theorem Arrives.holds (ended : Ended view uid w.past) (here : Holds uid (view e.before)) :
    Holds uid (view w.state) := by
  rcases arrives.once.1 here with before | never
  · exact arrives.prior ▸ before
  · obtain ⟨d, happened, requested⟩ := ended
    exact absurd requested.source (never d happened)

theorem Arrives.doomed (doomed : Doomed (view w.state)) : Doomed (view e.before) :=
  Doomed.disturbed (arrives.prior ▸ doomed) arrives.careful

theorem Arrives.barred (ended : Ended view uid w.past) (barred : Barred uid (view w.state)) :
    Barred uid (view e.before) := by
  have barred : Barred uid (view e.prior) := arrives.prior ▸ barred
  apply barred.disturbed arrives.careful
  intro here
  rw [arrives.prior]
  exact arrives.holds ended here

theorem Arrives.closed (ended : Ended view uid (w.extend e).past) :
    Doomed (view e.before) ∨ Barred uid (view e.before) := by
  obtain ⟨d, happened, requested⟩ := ended
  rcases List.mem_cons.mp happened with rfl | earlier
  · exact Or.inl (requested.doomed arrives.careful)
  have ended : Ended view uid w.past := ⟨d, earlier, requested⟩
  rcases arrives.good.closed ended with doomed | barred
  · exact Or.inl (arrives.doomed doomed)
  · exact Or.inr (arrives.barred ended barred)

theorem Arrives.extend (away : StaysAway view uid e w.past)
    (closed : Ended view uid (w.extend e).past →
      Doomed (view e.before) ∨ Barred uid (view e.before) →
      Doomed (view e.after) ∨ Barred uid (view e.after)) : Good view uid (w.extend e) where
  away := ⟨away, arrives.good.away⟩
  closed ended := closed ended (arrives.closed ended)

theorem Arrives.keep (away : StaysAway view uid e w.past)
    (doomed : Doomed (view e.before) → Doomed (view e.after))
    (barred : Barred uid (view e.before) → Barred uid (view e.after)) :
    Good view uid (w.extend e) :=
  arrives.extend away fun _ either => either.imp doomed barred

end

theorem staysAway_same (same : (view e.after).new = (view e.before).new)
    {earlier : List (Event S)} : StaysAway view uid e earlier :=
  fun creates => absurd creates (not_creates_same same)

variable {k : Migrator I R} {served : S.Choice → Prop} (lawful : k.Lawful S view served)

include lawful

theorem bounded_extend (bounded : (view w.state).Bounded) (prior : e.prior = w.state) :
    (view (w.extend e).state).Bounded :=
  lawful.bounded _ _ _ ((lawful.disturbed e.choice e.prior).bounded (prior ▸ bounded))

end Arrivals

section Facts

variable {S : Server I} (view : S.State → Pair R) (uid : String)

def Lasting (facts : World S → Prop) : Prop :=
  ∀ w e, Arrives view uid w e → view e.after = view e.before → facts w → facts (w.extend e)

def KnownOld (copy : R) (w : World S) : Prop :=
  Known copy (view w.state).revision (view w.state).old

/-- The copy of an old resource that is not marked: a deletion that was asked for is not
through yet. -/
def Open (copy : R) (w : World S) : Prop :=
  (metadata copy).uid = uid → (metadata copy).deletedByNewResource = false →
    Ended view uid w.past → Doomed (view w.state)

variable {view uid} {k : Migrator I R} {served : S.Choice → Prop}

theorem lasting_true : Lasting view uid (fun _ : World S => True) := fun _ _ _ _ _ => trivial

theorem lasting_doomed : Lasting view uid (fun w : World S => Doomed (view w.state)) := by
  intro w e arrives unchanged doomed
  rw [World.extend_state, unchanged]
  exact arrives.doomed doomed

theorem Open.before {copy : R} {w : World S} {e : Event S} (here : Open view uid copy w)
    (arrives : Arrives view uid w e) (same : (metadata copy).uid = uid)
    (unmarked : (metadata copy).deletedByNewResource = false)
    (ended : Ended view uid (w.extend e).past) : Doomed (view e.before) := by
  obtain ⟨d, happened, requested⟩ := ended
  rcases List.mem_cons.mp happened with rfl | earlier
  · exact requested.doomed arrives.careful
  · exact arrives.doomed (here same unmarked ⟨d, earlier, requested⟩)

theorem lasting_open (copy : R) : Lasting view uid (Open (S := S) view uid copy) := by
  intro w e arrives unchanged here same unmarked ended
  rw [World.extend_state, unchanged]
  exact here.before arrives same unmarked ended

theorem lasting_knownOld (lawful : k.Lawful S view served) (copy : R) :
    Lasting view uid (KnownOld (S := S) view copy) := by
  intro w e arrives unchanged known
  have disturbed := lawful.disturbed e.choice e.prior
  rw [KnownOld, World.extend_state, unchanged]
  rw [KnownOld, ← arrives.prior] at known
  exact disturbed.old.known disturbed.grows known

end Facts

section Calls

variable {S : Server I} {view : S.State → Pair R} {uid : String} {k : Migrator I R}
  {served : S.Choice → Prop} {w : World S} {e : Event S} {facts : World S → Prop}

abbrev Watching (view : S.State → Pair R) (uid : String) {α : Type} :
    Program I α → (α → World S → Prop) → World S → Prop :=
  Safe (Watched view) (Sober view uid)

theorem Alive.mono {weaker : World S → Prop} (alive : Alive view uid facts w)
    (implies : facts w → weaker w) : Alive view uid weaker w := by
  refine ⟨alive.bounded, fun once => ?_⟩
  obtain ⟨good, here⟩ := alive.holds once
  exact ⟨good, implies here⟩

theorem Alive.sober (alive : Alive view uid facts w) : Sober view uid w :=
  alive.mono fun _ => trivial

variable (lawful : k.Lawful S view served) {r copy : R}

include lawful

theorem Alive.step {later : World S → Prop} (alive : Alive view uid facts w)
    (careful : Watched view e) (prior : e.prior = w.state)
    (next : Arrives view uid w e → (view (w.extend e).state).Bounded → facts w →
      Good view uid (w.extend e) ∧ later (w.extend e)) : Alive view uid later (w.extend e) := by
  have bounded := bounded_extend lawful alive.bounded prior
  refine ⟨bounded, fun once => ?_⟩
  obtain ⟨good, here⟩ := alive.holds once.2
  exact next ⟨alive.bounded, good, careful, once, prior⟩ bounded here

theorem safe_getNew (lasting : Lasting view uid facts) (alive : Alive view uid facts w) :
    Watching view uid k.getNew
      (OkWith (Alive view uid facts) fun r w => (view w.state).new = some r) w := by
  apply (lawful.getNew.safe alive.sober).mono
  rintro reply later ⟨e, careful, prior, rfl, unchanged, reads⟩
  constructor
  · apply alive.step lawful careful prior
    intro arrives bounded here
    refine ⟨?_, lasting w e arrives unchanged here⟩
    apply arrives.keep (staysAway_same (by rw [unchanged]))
    · exact fun doomed => doomed.new (by rw [unchanged])
    · exact fun barred => barred.same (by rw [unchanged])
  · rintro r rfl
    rw [World.extend_state, unchanged]
    exact reads.ok

structure Copied (view : S.State → Pair R) (uid : String) (copy : R) (w : World S) : Prop where
  known : KnownOld view copy w
  unfinished : Open view uid copy w

omit lawful in
theorem Good.copied (good : Good view uid w) (bounded : (view w.state).Bounded)
    (stored : (view w.state).old = some copy) : Copied view uid copy w := by
  refine ⟨⟨bounded.1 copy stored, fun r there _ => ?_⟩, fun same unmarked ended => ?_⟩
  · cases stored.symm.trans there
    rfl
  rcases good.closed ended with doomed | barred
  · exact doomed
  · rw [barred copy stored same] at unmarked
    cases unmarked

theorem safe_getOld (lasting : Lasting view uid facts) (alive : Alive view uid facts w) :
    Watching view uid k.getOld (fun reply w =>
      Alive view uid (fun w => facts w ∧ (∀ r, reply = .ok r → Copied view uid r w) ∧
        (reply = .error .notFound → (view w.state).old = none)) w ∧
      ∀ r, reply = .ok r → (metadata r).annotations.get SourceUIDAnnotation = none) w := by
  apply (lawful.getOld.safe alive.sober).mono
  rintro reply later ⟨e, careful, prior, rfl, unchanged, reads⟩
  constructor
  · apply alive.step lawful careful prior
    intro arrives bounded here
    have good : Good view uid (w.extend e) := by
      apply arrives.keep (staysAway_same (by rw [unchanged]))
      · exact fun doomed => doomed.new (by rw [unchanged])
      · exact fun barred => barred.same (by rw [unchanged])
    refine ⟨good, lasting w e arrives unchanged here, fun r ok => ?_, fun absent => ?_⟩
    · subst ok
      apply good.copied bounded
      rw [World.extend_state, unchanged]
      exact reads.ok
    · subst absent
      rw [World.extend_state, unchanged]
      exact reads.notFound
  · rintro r rfl
    exact careful.unsourced r reads.ok

/-- An update of the old resource that keeps the mark of the copy it was made from. -/
theorem safe_updateOld (alive : Alive view uid (KnownOld view copy) w)
    (version : (metadata r).resourceVersion = (metadata copy).resourceVersion)
    (annotations : (metadata r).annotations = (metadata copy).annotations) :
    Watching view uid (k.updateOld r) (fun reply w =>
      Alive view uid (fun w => ∀ updated, reply = .ok updated → (metadata r).finalizers ≠ [] →
        Copied view uid updated w) w ∧
      ∀ updated, reply = .ok updated → (metadata r).finalizers ≠ [] →
        (metadata updated).annotations = (metadata copy).annotations) w := by
  apply ((lawful.updateOld r).safe alive.sober).mono
  rintro reply later ⟨e, careful, prior, rfl, same, wrote⟩
  constructor
  · apply alive.step lawful careful prior
    intro arrives bounded known
    have disturbed := lawful.disturbed e.choice e.prior
    rw [KnownOld, ← prior] at known
    have known := disturbed.old.known disturbed.grows known
    have good : Good view uid (w.extend e) := by
      apply arrives.keep (staysAway_same same)
      · exact fun doomed => doomed.new same
      refine fun barred => Wrote.barred wrote barred fun current there accepts marked => ?_
      rw [known.2 current there (accepts.version.symm.trans version)] at marked
      rw [ObjectMeta.deletedByNewResource, annotations]
      exact marked
    refine ⟨good, fun updated ok more => ?_⟩
    subst ok
    exact good.copied bounded (Wrote.stored wrote more).1
  · rintro updated rfl more
    rw [(Wrote.stored wrote more).2, annotations]

theorem safe_mark (alive : Alive view uid (fun w => Doomed (view w.state)) w)
    (marked : (metadata r).deletedByNewResource = true) :
    Watching view uid (k.updateOld r) (fun reply => Alive view uid fun w =>
      Doomed (view w.state) ∧ ∀ updated, reply = .ok updated → Barred uid (view w.state)) w := by
  apply ((lawful.updateOld r).safe alive.sober).mono
  rintro reply later ⟨e, careful, prior, rfl, same, wrote⟩
  apply alive.step lawful careful prior
  intro arrives bounded doomed
  have good : Good view uid (w.extend e) := by
    apply arrives.keep (staysAway_same same)
    · exact fun doomed => doomed.new same
    · exact fun barred => Wrote.barred wrote barred fun _ _ _ _ => marked
  refine ⟨good, (arrives.doomed doomed).new same, fun updated ok other there _ => ?_⟩
  subst ok
  exact Wrote.marked wrote marked other there

def Settled (view : S.State → Pair R) (uid : String) (w : World S) : Prop :=
  Doomed (view w.state) ∧ (Ended view uid w.past → Barred uid (view w.state))

omit lawful in
theorem Settled.before (settled : Settled view uid w) (arrives : Arrives view uid w e) :
    Doomed (view e.before) ∧ (Ended view uid (w.extend e).past → Barred uid (view e.before)) := by
  refine ⟨arrives.doomed settled.1, fun ⟨d, happened, requested⟩ => ?_⟩
  rcases List.mem_cons.mp happened with rfl | earlier
  · have doomed : Doomed (view d.prior) := arrives.prior ▸ settled.1
    exact absurd requested doomed.not_requested
  · have ended : Ended view uid w.past := ⟨d, earlier, requested⟩
    exact arrives.barred ended (settled.2 ended)

theorem safe_deleteOld (alive : Alive view uid (Settled view uid) w) : Watching view uid k.deleteOld
      (fun _ => Alive view uid (Settled view uid)) w := by
  apply (lawful.deleteOld.safe alive.sober).mono
  rintro reply later ⟨e, careful, prior, rfl, same, deleted⟩
  apply alive.step lawful careful prior
  intro arrives bounded settled
  obtain ⟨doomed, barred⟩ := settled.before arrives
  refine ⟨?_, doomed.new same, fun ended => Deleted.barred deleted (barred ended)⟩
  apply arrives.keep (staysAway_same same)
  · exact fun doomed => doomed.new same
  · exact fun barred => Deleted.barred deleted barred

theorem safe_release (alive : Alive view uid (Settled view uid) w) :
    Watching view uid (k.updateNew r) (fun _ => Sober view uid) w := by
  apply ((lawful.updateNew r).safe alive.sober).mono
  rintro reply later ⟨e, careful, prior, rfl, same, wrote⟩
  apply alive.step lawful careful prior
  intro arrives bounded settled
  refine ⟨?_, trivial⟩
  apply arrives.extend
  · exact fun creates => absurd creates (Wrote.not_creates wrote)
  · intro ended _
    exact Or.inr ((settled.before arrives).2 ended |>.same (by rw [same]))

theorem safe_hold (sober : Sober view uid w) (has : MigrationFinalizer ∈ (metadata r).finalizers) :
    Watching view uid (k.updateNew r) (fun _ => Sober view uid) w := by
  apply ((lawful.updateNew r).safe sober).mono
  rintro reply later ⟨e, careful, prior, rfl, same, wrote⟩
  apply sober.step lawful careful prior
  intro arrives _ _
  refine ⟨?_, trivial⟩
  apply arrives.keep
  · exact fun creates => absurd creates (Wrote.not_creates wrote)
  · exact fun doomed => Wrote.doomed wrote doomed has
  · exact fun barred => barred.same (by rw [same])

end Calls

section Passes

variable {S : Server I} {view : S.State → Pair R} {uid : String} {k : Migrator I R}
  {served : S.Choice → Prop} {w : World S} (lawful : k.Lawful S view served) {old : R}

include lawful

theorem safe_handleNewDeletion (alive : Alive view uid (fun w => Doomed (view w.state)) w) :
    Watching view uid k.handleNewDeletion
      (fun result => Alive view uid fun w => result.2 = none → Settled view uid w) w := by
  apply (safe_getOld lawful lasting_doomed alive).bindOk
  · intro err w ⟨alive, _⟩
    cases err with
    | notFound =>
      apply alive.mono
      intro ⟨doomed, _, absent⟩ _
      refine ⟨doomed, fun _ r there => ?_⟩
      cases (absent rfl).symm.trans there
    | _ => exact alive.mono fun _ => nofun
  intro old w ⟨alive, _⟩
  have marked : (metadata (setAnnotations old (Labels.merge
      [.mk DeletedByNewResourceAnnotation "true"] (metadata old).annotations))).deletedByNewResource
      = true := by
    rw [setAnnotations, metadata_withMetadata]
    rfl
  apply (safe_mark lawful (alive.mono fun facts => facts.1) marked).bindOk
  · exact fun _ _ alive => alive.mono fun _ => nofun
  intro updated w alive
  have settled : Alive view uid (Settled view uid) w :=
    alive.mono fun ⟨doomed, barred⟩ => ⟨doomed, fun _ => barred updated rfl⟩
  apply (safe_deleteOld lawful settled).bindOk
  · intro err w alive
    cases err with
    | notFound => exact alive.mono fun settled _ => settled
    | _ => exact alive.mono fun _ => nofun
  · exact fun _ _ alive => alive.mono fun settled _ => settled

theorem safe_reconcileNewDeletion {new : R} (deleting : (metadata new).deleting = true)
    (sober : Sober view uid w) (stored : (view w.state).new = some new) :
    Watching view uid (k.reconcileNewDeletion new) (fun _ => Sober view uid) w := by
  rw [Migrator.reconcileNewDeletion]
  split
  case isTrue => exact sober
  case isFalse has =>
    have has : MigrationFinalizer ∈ (metadata new).finalizers := by simpa using has
    split
    · exact sober
    apply (safe_handleNewDeletion lawful (sober.mono fun _ =>
      ⟨new, stored, deleting, has⟩)).bindDone
    · exact fun _ _ _ alive => alive.sober
    rintro result w alive
    apply (safe_release lawful (alive.mono fun settled => settled rfl)).bind
    intro reply w sober
    cases reply <;> exact sober

theorem safe_setFinalizers {finalizers : List String}
    (alive : Alive view uid (KnownOld view old) w) :
    Watching view uid (k.updateOld (setFinalizers old finalizers))
      (fun reply w => Alive view uid (fun w => ∀ updated, reply = .ok updated →
          finalizers ≠ [] → Copied view uid updated w) w ∧
        ∀ updated, reply = .ok updated → finalizers ≠ [] →
          (metadata updated).annotations = (metadata old).annotations) w := by
  have sent : metadata (setFinalizers old finalizers) = { metadata old with finalizers } := by
    rw [setFinalizers, metadata_withMetadata]
  have update := safe_updateOld lawful (r := setFinalizers old finalizers) alive
    (by rw [sent]) (by rw [sent])
  rw [sent] at update
  exact update

theorem safe_removeFinalizers (old : R) (alive : Alive view uid (KnownOld view old) w) :
    Watching view uid (k.removeFinalizers old) (fun _ => Sober view uid) w := by
  apply (safe_setFinalizers lawful alive).bind
  intro reply w ⟨alive, _⟩
  cases reply <;> exact alive.sober

theorem safe_handleOldDeletion (old : R) (alive : Alive view uid (KnownOld view old) w) :
    Watching view uid (k.handleOldDeletion old) (fun _ => Sober view uid) w := by
  rw [Migrator.handleOldDeletion]
  split
  case isFalse => exact alive.sober
  case isTrue =>
    apply (safe_getNew lawful (lasting_knownOld lawful old) alive).thenOk
    · intro err w known
      cases err with
      | notFound =>
        dsimp only
        split
        · exact safe_removeFinalizers lawful old known
        · exact known.sober
      | _ => exact known.sober
    · exact fun _ _ known _ => safe_removeFinalizers lawful old known

/-- The creation starts while the old resource is not marked, so a deletion that was asked
for still holds the new resource there. -/
theorem safe_migrateOld (unsourced : (metadata old).annotations.get SourceUIDAnnotation = none)
    (alive : Alive view uid (Open view uid old) w) :
    Watching view uid (k.migrateOld old) (fun _ => Sober view uid) w := by
  apply (safe_getNew lawful (lasting_open old) alive).thenOk
  · intro err w alive
    cases err with
    | notFound =>
      dsimp only
      split
      case isTrue => exact alive.sober
      case isFalse unmarked =>
        have unmarked : (metadata old).deletedByNewResource = false := by simpa using unmarked
        split
        · exact alive.sober
        have create := lawful.create old w alive.bounded (Watched view)
          (Alive view uid (Open view uid old)) alive
        apply ((create ?_).mono fun _ _ alive => alive.sober).weaken fun _ alive => alive.sober
        intro w e careful prior alive minor
        apply alive.step lawful careful prior
        intro arrives _ still
        refine ⟨arrives.keep ?_ (Minor.doomed minor) fun barred => barred.same minor.old, ?_⟩
        · -- What is created names this old resource, and the new one was not there.
          intro creates ended
          obtain ⟨r, there, named⟩ := creates.created
          obtain ⟨origin, same, names⟩ := minor.created creates.absent r there
          cases same
          have same : (metadata old).uid = uid :=
            Option.some.inj ((names unsourced).symm.trans named)
          obtain ⟨other, stored, _⟩ := still.before arrives same unmarked ended
          cases creates.absent.symm.trans stored
        · intro same unmarked ended
          exact Minor.doomed minor (still.before arrives same unmarked ended)
    | _ => exact alive.sober
  intro new w alive read
  apply lawful.sync old new w alive.bounded (alive.bounded.known read)
    (Watched view) (Sober view uid) alive.sober
  intro w e careful prior sober minor
  apply sober.step lawful careful prior
  intro arrives _ _
  refine ⟨arrives.keep ?_ (Minor.doomed minor) fun barred => barred.same minor.old, trivial⟩
  intro creates
  obtain ⟨r, there, _⟩ := creates.created
  obtain ⟨origin, impossible, _⟩ := minor.created creates.absent r there
  cases impossible

theorem safe_reconcileOld (sober : Sober view uid w) :
    Watching view uid k.reconcileOld (fun _ => Sober view uid) w := by
  apply (safe_getOld lawful lasting_true sober).bindOk
  · intro err w ⟨alive, _⟩
    cases err <;> exact alive.sober
  intro old w ⟨alive, unsourced⟩
  have unsourced := unsourced old rfl
  have copied : Alive view uid (Copied view uid old) w :=
    alive.mono fun facts => facts.2.1 old rfl
  have known : Alive view uid (KnownOld view old) w := copied.mono fun copied => copied.known
  dsimp only
  split
  · exact safe_handleOldDeletion lawful old known
  split
  · apply (safe_setFinalizers lawful known).bindOk
    · exact fun _ _ both => both.1.sober
    intro updated w ⟨alive, annotations⟩
    have more : (metadata old).finalizers ++ [MigrationFinalizer] ≠ [] := by simp
    apply safe_migrateOld lawful
    · rw [annotations updated rfl more]
      exact unsourced
    · exact alive.mono fun copied => (copied updated rfl more).unfinished
  · exact safe_migrateOld lawful unsourced (copied.mono fun copied => copied.unfinished)

theorem safe_reconcile (sober : Sober view uid w) :
    Watching view uid k.reconcile (fun _ => Sober view uid) w := by
  apply (safe_getNew lawful lasting_true sober).thenOk
  · exact fun _ _ sober => safe_reconcileOld lawful sober
  intro new w sober read
  dsimp only
  split
  case isTrue deleting =>
    exact safe_reconcileNewDeletion lawful deleting sober read
  case isFalse =>
    split
    · have has : MigrationFinalizer ∈ (metadata (setFinalizers new
          ((metadata new).finalizers ++ [MigrationFinalizer]))).finalizers := by
        simp [setFinalizers]
      apply (safe_hold lawful sober has).bind
      intro reply w sober
      cases reply <;> exact sober
    · exact safe_reconcileOld lawful sober

theorem away_runs {start : World S} {passes : List (List S.Choice)} (fresh : start.past = [])
    (bounded : (view start.state).Bounded)
    (watched : ∀ e ∈ (runs k.reconcile passes start).past, Watched view e)
    (once : Once view uid (runs k.reconcile passes start).past) :
    Throughout (StaysAway view uid) (runs k.reconcile passes start).past := by
  have sober : Sober view uid start := by
    refine ⟨bounded, fun _ => ⟨⟨?_, fun ⟨d, happened, _⟩ => ?_⟩, trivial⟩⟩
    · rw [fresh]
      trivial
    · rw [fresh] at happened
      cases happened
  have final := runs_keep (fun _ sober => safe_reconcile lawful sober) passes start sober watched
  exact (final.holds once).1.away

end Passes

/-- Where nobody deletes the new resource before it has the finalizer, or takes away the
finalizer or the mark, no new resource is created from an old one after a deletion. -/
theorem deleted_stays_away (uid : String) :
    (∀ (clusterName : String) (start : MigrationRun) (passes : List (List MigrationChoice)),
      start.past = [] → start.state.pair.Bounded →
      (∀ e ∈ (runs (reconcile clusterName) passes start).past, Careful e.prior.pair e.before.pair) →
      Once MigrationWorld.pair uid (runs (reconcile clusterName) passes start).past →
      Throughout (StaysAway MigrationWorld.pair uid)
        (runs (reconcile clusterName) passes start).past) ∧
    ∀ (Spec Rest : Type) [DecidableEq Spec] [DecidableEq Rest] [Inhabited Rest]
      (start : Generic.GenericRun Spec Rest)
      (passes : List (List (Generic.GenericChoice Spec Rest))),
      start.past = [] → start.state.Bounded →
      (∀ e ∈ (runs (Generic.reconcileGenericMigration Spec Rest) passes start).past,
        Careful e.prior e.before) →
      Once id uid (runs (Generic.reconcileGenericMigration Spec Rest) passes start).past →
      Throughout (StaysAway id uid)
        (runs (Generic.reconcileGenericMigration Spec Rest) passes start).past := by
  constructor
  · intro clusterName start passes fresh bounded careful once
    rw [reconcile_eq] at careful once ⊢
    exact away_runs (lawful_clusterMigrator clusterName) fresh bounded careful once
  · intro Spec Rest _ _ _ start passes fresh bounded careful once
    exact away_runs Generic.lawful_genericMigrator fresh bounded careful once

section Decidable

variable (uid : String) (v t : Pair R)

instance : Decidable (Holds uid v) := inferInstanceAs (Decidable (∃ r ∈ v.old, _))

instance : Decidable (Requested uid v t) :=
  decidable_of_iff' _ (requested_iff ..)

instance : Decidable (CreatesFrom uid v t) :=
  decidable_of_iff (v.new.isNone = true ∧
      ∃ r ∈ t.new, (metadata r).annotations.get SourceUIDAnnotation = some uid)
    ⟨fun ⟨a, b⟩ => ⟨Option.isNone_iff_eq_none.mp a, b⟩,
      fun ⟨a, b⟩ => ⟨Option.isNone_iff_eq_none.mpr a, b⟩⟩

instance : Decidable (Careful v t) :=
  decidable_of_iff' _ (careful_iff ..)

instance : Decidable v.Bounded := inferInstanceAs (Decidable (_ ∧ _))

variable {S : Server I} (view : S.State → Pair R)

instance (past : List (Event S)) : Decidable (Ended view uid past) :=
  inferInstanceAs (Decidable (∃ e ∈ past, _))

instance (past : List (Event S)) : Decidable (Once view uid past) :=
  inferInstanceAs (Decidable (Throughout _ past))

instance (e : Event S) (earlier : List (Event S)) : Decidable (StaysAway view uid e earlier) :=
  inferInstanceAs (Decidable (_ → ¬ _))

instance (e : MigrationEvent) (earlier : List MigrationEvent) :
    Decidable (StaysAway MigrationWorld.pair uid e earlier) :=
  inferInstanceAs (Decidable (CreatesFrom uid e.before.pair e.after.pair →
    ¬ Ended MigrationWorld.pair uid (e :: earlier)))

end Decidable

section Runs

/-- The user deletes the new cluster before the pass. It goes at once if no finalizer
holds it. -/
def clusterDeleted : List MigrationChoice :=
  { others := fun s => { s with newCluster := s.newCluster.bind fun cluster =>
      if cluster.finalizers = [] then none else some { cluster with deleting := true } } } ::
    quietCalls

def resourceDeleted : List (Generic.GenericChoice Unit Unit) :=
  { others := fun s => { s with new := s.new.bind fun resource =>
      if resource.finalizers = [] then none else some { resource with deleting := true } } } ::
    Generic.quietCalls

/-- Created, held by the finalizer, deleted: two more passes create nothing. -/
theorem held_stays_away :
    (Ended MigrationWorld.pair "old" (runs (reconcile "demo")
        [quietCalls, quietCalls, clusterDeleted, quietCalls, quietCalls] beforeMigration).past ∧
      Throughout (StaysAway MigrationWorld.pair "old") (runs (reconcile "demo")
        [quietCalls, quietCalls, clusterDeleted, quietCalls, quietCalls] beforeMigration).past) ∧
    Ended id "old" (runs (Generic.reconcileGenericMigration Unit Unit)
        [Generic.quietCalls, Generic.quietCalls, resourceDeleted, Generic.quietCalls]
        Generic.beforeMigration).past ∧
      Throughout (StaysAway id "old") (runs (Generic.reconcileGenericMigration Unit Unit)
        [Generic.quietCalls, Generic.quietCalls, resourceDeleted, Generic.quietCalls]
        Generic.beforeMigration).past := by
  refine ⟨⟨by decide +kernel, ?_⟩, by decide +kernel, ?_⟩
  · exact (deleted_stays_away "old").1 "demo" beforeMigration _ rfl (by decide) (by decide +kernel)
      (by decide +kernel)
  · exact (deleted_stays_away "old").2 Unit Unit Generic.beforeMigration _ rfl (by decide)
      (by decide +kernel) (by decide +kernel)

/-- Created and deleted: the next pass creates it again. -/
theorem unheld_comes_back :
    ¬ Throughout (StaysAway MigrationWorld.pair "old")
      (runs (reconcile "demo") [quietCalls, clusterDeleted] beforeMigration).past ∧
    ¬ Throughout (StaysAway id "old") (runs (Generic.reconcileGenericMigration Unit Unit)
      [Generic.quietCalls, resourceDeleted] Generic.beforeMigration).past := by
  decide +kernel

end Runs

end OpenSearchOperator.Migration.Resurrection
