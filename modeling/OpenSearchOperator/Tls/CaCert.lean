import OpenSearchOperator.Effects.Follow
import OpenSearchOperator.Tls.Certificates

/-! The CA of a cluster stays the same as long as it can be read: a secret that is
there is replaced exactly when the first read of it fails. -/

namespace OpenSearchOperator.Tls

open Api Effects Reconcilers

def newRun (start : TlsWorld) : TlsRun := ⟨start, []⟩

/-- A CA that was stored is still stored, and a CA that was returned is the stored one. -/
structure CaKept (site : Site) (choices : List TlsChoice) (start : TlsWorld) : Prop where
  unchanged : ∀ before ∈ start.secrets (caSecretName site),
    ∃ after ∈ (exec (readOrGenerateCaCert site) choices (newRun start)).2.state.secrets
      (caSecretName site), after.data = before.data
  returned : ∀ ca, (exec (readOrGenerateCaCert site) choices (newRun start)).1 = some (.ok ca) →
    ∃ after ∈ (exec (readOrGenerateCaCert site) choices (newRun start)).2.state.secrets
      (caSecretName site), caFromSecret after.data = ca

def Calm (site : Site) (choice : TlsChoice) : Prop :=
  ∀ s, (choice.others s).secrets (caSecretName site) = s.secrets (caSecretName site)

def Alone (site : Site) (e : TlsEvent) : Prop :=
  e.before.secrets (caSecretName site) = e.prior.secrets (caSecretName site)

theorem Calm.alone {site : Site} {e : TlsEvent} (calm : Calm site e.choice) : Alone site e :=
  if_pos (calm e.prior)

section Replies

def Call.writes : Call → Bool
  | .createSecret _ => true
  | .updateSecret _ => true
  | _ => false

theorem answerCall_reads (choice : TlsChoice) {s : TlsWorld} {op : Call}
    (reads : op.writes = false) : (answerCall choice s op).2 = s := by
  rw [answerCall]
  cases op with
  | createSecret _ => cases reads
  | updateSecret _ => cases reads
  | _ => split <;> rfl

theorem answer_getSecret (choice : TlsChoice) (s : TlsWorld) (name : String) :
    (answerCall choice s (.getSecret name)).1 = found (s.secrets name) ∨
      ∃ err ≠ ApiError.notFound, (answerCall choice s (.getSecret name)).1 = .error err := by
  rw [answerCall]
  split
  · exact Or.inl rfl
  · rename_i fault _
    refine Or.inr ⟨fault.error, ?_, rfl⟩
    cases fault <;> nofun
  · exact Or.inr ⟨.unavailable, nofun, rfl⟩

/-- A secret that was created is stored, whether the reply arrives or not. -/
theorem answer_createSecret (choice : TlsChoice) (s : TlsWorld) (secret : Secret) :
    (∃ err, (answerCall choice s (.createSecret secret)).1 = .error err) ∧
        (answerCall choice s (.createSecret secret)).2 = s ∨
      (answerCall choice s (.createSecret secret)).2 =
        s.store { secret with deleting := false } := by
  have served : (∃ err, (serveCall choice s (.createSecret secret)).1 = .error err) ∧
        (serveCall choice s (.createSecret secret)).2 = s ∨
      (serveCall choice s (.createSecret secret)).2 =
      s.store { secret with deleting := false } := by
    rw [serveCall]
    split
    · exact Or.inl ⟨⟨_, rfl⟩, rfl⟩
    split
    · exact Or.inl ⟨⟨_, rfl⟩, rfl⟩
    · exact Or.inr rfl
  rw [answerCall]
  split
  · exact served
  · exact Or.inl ⟨⟨_, rfl⟩, rfl⟩
  · exact served.imp_left fun failed => ⟨⟨_, rfl⟩, failed.2⟩

theorem store_secrets (s : TlsWorld) (secret : Secret) : (s.store secret).secrets secret.name =
    some { secret with resourceVersion := some (s.revision + 1) } := if_pos rfl

end Replies

section Generated

variable {site : Site} {w : TlsRun}

abbrev Absent (site : Site) (w : TlsRun) : Prop := w.state.secrets (caSecretName site) = none

theorem safe_absent {op : Call} (reads : op.writes = false) (absent : Absent site w) :
    Ends (Alone site) (ask op) (fun _ => Absent site) w := by
  refine ⟨trivial, fun choice alone => ?_⟩
  have unchanged : (w.arrive choice op).after = (w.arrive choice op).before :=
    answerCall_reads choice reads
  have before : (w.arrive choice op).before.secrets (caSecretName site) = none :=
    alone.trans absent
  show (w.arrive choice op).after.secrets (caSecretName site) = none
  rw [unchanged]
  exact before

theorem safe_getAbsent (absent : Absent site w) :
    Ends (Alone site) (ask (.getSecret (caSecretName site)))
      (fun reply w => Absent site w ∧ ∃ err, reply = .error err) w := by
  refine ⟨trivial, fun choice alone => ?_⟩
  have kept := (safe_absent rfl absent).2 choice alone
  have before : (w.arrive choice (.getSecret (caSecretName site))).before.secrets
      (caSecretName site) = none := alone.trans absent
  refine ⟨kept, ?_⟩
  rcases answer_getSecret choice (w.arrive choice (.getSecret (caSecretName site))).before
    (caSecretName site) with told | ⟨err, _, failed⟩
  · rw [before] at told
    exact ⟨.notFound, told⟩
  · exact ⟨err, failed⟩

/-- The secret of the CA is not there, so that the reconciler creates it. -/
theorem safe_createSecret (ca : PEMCert) (absent : Absent site w) : Ends (Alone site) (createSecret
      { name := caSecretName site, resourceVersion := none, annotations := []
        deleting := false, data := ca.secretDataCA }) (fun err w => err = none →
        ∃ after ∈ w.state.secrets (caSecretName site), after.data = ca.secretDataCA) w := by
  let desired : Secret :=
    { name := caSecretName site, resourceVersion := none, annotations := []
      deleting := false, data := ca.secretDataCA }
  have creation : Ends (Alone site) (secretKind.createIfNotExist desired)
      (fun result w => (∃ err, result = .error err) ∨ result = .ok none ∧
        ∃ after ∈ w.state.secrets (caSecretName site), after.data = ca.secretDataCA) w := by
    apply (safe_getAbsent absent).bind
    rintro reply w ⟨absent, err, failed⟩
    subst failed
    cases err with
    | notFound =>
      have create : Ends (Alone site) (ask (.createSecret desired))
          (fun reply w => (∃ err, reply = .error err) ∨
            ∃ after ∈ w.state.secrets (caSecretName site), after.data = ca.secretDataCA) w := by
        refine ⟨trivial, fun choice _ => ?_⟩
        rcases answer_createSecret choice (w.arrive choice (.createSecret desired)).before
          desired with failed | stored
        · exact Or.inl failed.1
        refine Or.inr ⟨{ desired with
          deleting := false, resourceVersion := some ((w.arrive choice
            (.createSecret desired)).before.revision + 1) }, ?_, rfl⟩
        show (answerCall choice (w.arrive choice (.createSecret desired)).before
          (.createSecret desired)).2.secrets (caSecretName site) = _
        rw [stored]
        exact store_secrets _ { desired with deleting := false }
      apply create.bindOk
      · exact fun _ _ _ => Or.inl ⟨_, rfl⟩
      intro _ w outcome
      rcases outcome with ⟨err, failed⟩ | stored
      · cases failed
      · exact Or.inr ⟨rfl, stored⟩
    | _ => exact Or.inl ⟨_, rfl⟩
  rw [createSecret, Kind.reconcilePresent, Program.bind_assoc]
  apply creation.bind
  intro result w outcome
  rcases outcome with ⟨err, rfl⟩ | ⟨rfl, stored⟩
  · simp
  · exact fun _ => stored

theorem caFromSecret_secretDataCA {ca : PEMCert} : caFromSecret ca.secretDataCA = ca := by
  have cert : ca.secretDataCA.lookup CaCertKey = some ca.certBytes := by
    rw [PEMCert.secretDataCA, Finmap.lookup_insert_of_ne _ (by decide), Finmap.lookup_insert]
  have key : ca.secretDataCA.lookup "ca.key" = some ca.keyBytes := by
    rw [PEMCert.secretDataCA, Finmap.lookup_insert]
  rw [caFromSecret, bytesOf, bytesOf, cert, key]
  rfl

theorem safe_generated (absent : Absent site w) : Ends (Alone site) (generateAndStoreCa site)
      (fun result w => ∀ ca, result = .ok ca →
        ∃ after ∈ w.state.secrets (caSecretName site), caFromSecret after.data = ca) w := by
  have generated : Ends (Alone site) (generateCA site.clusterName)
      (fun _ => Absent site) w := by
    apply (safe_absent rfl absent).bindOk
    · exact fun _ _ absent => absent
    intro key w absent
    apply (safe_absent rfl absent).bind
    exact fun _ w absent => absent
  apply generated.bindOk
  · exact fun _ _ _ => nofun
  intro ca w absent
  apply (safe_createSecret ca absent).bind
  intro err w stored
  cases err with
  | some err => exact nofun
  | none =>
    intro other same
    cases same
    obtain ⟨after, there, data⟩ := stored rfl
    exact ⟨after, there, by rw [data, caFromSecret_secretDataCA]⟩

end Generated

section Replaced

variable {s : TlsWorld} {key : Nat} {site : Site}

def drawing (key : Nat) : TlsChoice := { key := key }

theorem disturb_drawing :
    disturbSecrets (drawing key) s = { s with revision := s.revision + 1 } := by
  simp [disturbSecrets, drawing]

theorem follow_served {op : Call} : follow (S := secretServer) (drawing key) (ask op) s =
      serveCall (drawing key) { s with revision := s.revision + 1 } op := by
  rw [follow_ask]
  show answerCall (drawing key) (disturbSecrets (drawing key) s) op = _
  rw [disturb_drawing]
  rfl

def caWithKey (site : Site) (key : Nat) : PEMCert where
  certBytes := .certificate
    { commonName := site.clusterName, organizationalUnit := [], dnsNames := [], isCA := true
      publicKey := key, signedWith := key, notAfter := 0 }
  keyBytes := .privateKey key

theorem follow_generateCA :
    follow (S := secretServer) (drawing key) (generateCA site.clusterName) s =
      (.ok (caWithKey site key), { s with revision := s.revision + 2 }) := by
  rw [generateCA, follow_bind, follow_served]
  dsimp only [serveCall]
  rw [follow_bind, follow_served]
  rfl

section Overwritten

variable (key : Nat) {desired current : Secret} {s : TlsWorld}
  (stored : s.secrets desired.name = some current)
include stored

theorem follow_createIfNotExist :
    follow (S := secretServer) (drawing key) (secretKind.createIfNotExist desired) s =
      (.ok (some current), { s with revision := s.revision + 1 }) := by
  have read : follow (S := secretServer) (drawing key) (ask (.getSecret desired.name)) s =
      (.ok current, { s with revision := s.revision + 1 }) := by
    rw [follow_served, serveCall, stored]
    rfl
  rw [Kind.createIfNotExist, follow_bind, read]
  rfl

theorem follow_updateExisting (other : desired.data ≠ current.data) :
    (follow (S := secretServer) (drawing key) (secretKind.updateExisting current desired) s).1.2.1 =
        none ∧ ∃ after, (follow (S := secretServer) (drawing key)
          (secretKind.updateExisting current desired) s).2.secrets desired.name = some after ∧
        after.data = desired.data := by
  let merged := secretKind.merge desired current
  let sent := secretKind.setVersion merged current
  have compared : follow (S := secretServer) (drawing key)
      (ask (.calculatePatch current merged)) s =
      (.ok false, { s with revision := s.revision + 1 }) := by
    have differs : (merged.annotations == current.annotations && merged.data == current.data) =
        false := by
      have data : (merged.data == current.data) = false := by simpa using other
      rw [data, Bool.and_false]
    rw [follow_served, serveCall, differs]
  have updated : follow (S := secretServer) (drawing key) (ask (.updateSecret sent))
      { s with revision := s.revision + 1 } = (.ok (), TlsWorld.store
        { s with revision := s.revision + 2 } { sent with deleting := current.deleting }) := by
    have there : s.secrets sent.name = some current := stored
    have version : sent.resourceVersion = current.resourceVersion := rfl
    rw [follow_served, serveCall, there]
    simp only [version, ne_eq, not_true_eq_false, if_false]
  have outcome : follow (S := secretServer) (drawing key)
      (secretKind.updateExisting current desired) s = ((none, none, sent), TlsWorld.store
        { s with revision := s.revision + 2 } { sent with deleting := current.deleting }) := by
    rw [Kind.updateExisting, follow_bind, compared]
    rw [follow_bind, updated]
    rfl
  rw [outcome]
  exact ⟨rfl, _, store_secrets _ _, rfl⟩

/-- The reconciler overwrites a secret with other data, unless it is being deleted. -/
theorem follow_createSecret (other : desired.data ≠ current.data) :
    (follow (S := secretServer) (drawing key) (createSecret desired) s).1 = none ∧
      ∃ after, (follow (S := secretServer) (drawing key) (createSecret desired) s).2.secrets
          desired.name = some after ∧
        after.data = if current.deleting then current.data else desired.data := by
  rw [createSecret, follow_bind, Kind.reconcilePresent, follow_bind,
    follow_createIfNotExist key stored]
  dsimp only [secretKind]
  split
  · exact ⟨rfl, current, stored, rfl⟩
  have there : TlsWorld.secrets { s with revision := s.revision + 1 } desired.name =
      some current := stored
  exact follow_updateExisting key there other

end Overwritten

theorem follow_generateAndStoreCa {current : Secret}
    (stored : s.secrets (caSecretName site) = some current)
    (other : (caWithKey site key).secretDataCA ≠ current.data) :
    (follow (S := secretServer) (drawing key) (generateAndStoreCa site) s).1 =
        .ok (caWithKey site key) ∧
      ∃ after, (follow (S := secretServer) (drawing key) (generateAndStoreCa site) s).2.secrets
          (caSecretName site) = some after ∧ after.data = if current.deleting then current.data
          else (caWithKey site key).secretDataCA := by
  let desired : Secret :=
    { name := caSecretName site, resourceVersion := none, annotations := []
      deleting := false, data := (caWithKey site key).secretDataCA }
  have there : TlsWorld.secrets { s with revision := s.revision + 2 } desired.name =
      some current := stored
  obtain ⟨fine, after, kept, data⟩ := follow_createSecret key there other
  have outcome : follow (S := secretServer) (drawing key) (generateAndStoreCa site) s =
      (.ok (caWithKey site key), (follow (S := secretServer) (drawing key) (createSecret desired)
        { s with revision := s.revision + 2 }).2) := by
    rw [generateAndStoreCa, follow_bind, follow_generateCA]
    rw [follow_bind, fine]
    rfl
  rw [outcome]
  exact ⟨rfl, after, kept, data⟩

theorem exists_other_key (site : Site) (data : SecretData) :
    ∃ key, caFromSecret data ≠ caWithKey site key ∧ (caWithKey site key).secretDataCA ≠ data := by
  have other : ∃ key, caFromSecret data ≠ caWithKey site key := by
    by_cases zero : (caFromSecret data).keyBytes = .privateKey 0
    · refine ⟨1, fun same => ?_⟩
      rw [same] at zero
      cases zero
    · exact ⟨0, fun same => zero (by rw [same]; rfl)⟩
  obtain ⟨key, differs⟩ := other
  refine ⟨key, differs, fun same => differs ?_⟩
  rw [← same, caFromSecret_secretDataCA]

end Replaced

section FirstRead

variable {site : Site} {start : TlsWorld} {first : TlsChoice} {rest : List TlsChoice}

abbrev firstRead (site : Site) (start : TlsWorld) (first : TlsChoice) : TlsEvent :=
  (newRun start).arrive first (.getSecret (caSecretName site))

abbrev afterRead (site : Site) (start : TlsWorld) (first : TlsChoice) : TlsRun :=
  (newRun start).extend (firstRead site start first)

theorem exec_found {secret : Secret} (reply : (firstRead site start first).reply = .ok secret) :
    exec (readOrGenerateCaCert site) (first :: rest) (newRun start) =
      (some (.ok (caFromSecret secret.data)), afterRead site start first) := by
  rw [readOrGenerateCaCert, exec_ask_bind, reply]
  rfl

theorem exec_failed {err : ApiError} (reply : (firstRead site start first).reply = .error err) :
    exec (readOrGenerateCaCert site) (first :: rest) (newRun start) =
      exec (generateAndStoreCa site) rest (afterRead site start first) := by
  rw [readOrGenerateCaCert, exec_ask_bind, reply]

theorem firstRead_after (calm : Calm site first) :
    (firstRead site start first).after.secrets (caSecretName site) =
      start.secrets (caSecretName site) := by
  have unchanged : (firstRead site start first).after = (firstRead site start first).before :=
    answerCall_reads first rfl
  rw [unchanged]
  exact Calm.alone (e := firstRead site start first) calm

theorem firstRead_served (start : TlsWorld) (calm : Calm site first)
    (served : first.outcome = .served) :
    (firstRead site start first).reply = found (start.secrets (caSecretName site)) := by
  have before := Calm.alone (e := firstRead site start first) calm
  show (answerCall first (firstRead site start first).before (.getSecret (caSecretName site))).1 = _
  rw [answerCall, served]
  exact congrArg found before

theorem firstRead_failed (site : Site) (start : TlsWorld) (failed : first.outcome ≠ .served) :
    ∃ err, (firstRead site start first).reply = .error err := by
  show ∃ err, (answerCall first (firstRead site start first).before
    (.getSecret (caSecretName site))).1 = .error err
  rw [answerCall]
  split
  case h_1 served => exact absurd served failed
  all_goals exact ⟨_, rfl⟩

/-- A failed read of a secret that is there costs the CA, or gives one that is not stored. -/
theorem not_caKept_of_failed {current : Secret} (calm : Calm site first)
    (stored : start.secrets (caSecretName site) = some current) (failed : first.outcome ≠ .served) :
    ∃ rest, (∀ choice ∈ rest, Calm site choice) ∧ ¬ CaKept site (first :: rest) start := by
  obtain ⟨err, reply⟩ := firstRead_failed site start failed
  obtain ⟨key, other, differs⟩ := exists_other_key site current.data
  have there : (afterRead site start first).state.secrets (caSecretName site) =
      some current := (firstRead_after calm).trans stored
  obtain ⟨calls, result, state, _⟩ := exec_follow (drawing key) (generateAndStoreCa site)
    (afterRead site start first)
  obtain ⟨returned, after, now, data⟩ := follow_generateAndStoreCa there differs
  refine ⟨List.replicate calls (drawing key), fun choice member => ?_, fun kept => ?_⟩
  · rw [List.eq_of_mem_replicate member]
    exact fun _ => rfl
  obtain ⟨unchanged, told⟩ := kept
  rw [exec_failed reply, state] at unchanged told
  rw [result, returned] at told
  obtain ⟨found, same, given⟩ := told _ rfl
  obtain ⟨kept, again, equal⟩ := unchanged current stored
  cases now.symm.trans same
  cases now.symm.trans again
  rw [equal] at given
  exact other given

theorem caKept_of_served (calm : Calm site first) (calmRest : ∀ choice ∈ rest, Calm site choice)
    (served : (start.secrets (caSecretName site)).isSome → first.outcome = .served) :
    CaKept site (first :: rest) start := by
  cases stored : start.secrets (caSecretName site) with
  | some current =>
    have reply := firstRead_served start calm (served (by rw [stored]; rfl))
    rw [stored] at reply
    have there : (afterRead site start first).state.secrets (caSecretName site) =
        some current := (firstRead_after calm).trans stored
    constructor
    · intro before same
      rw [exec_found reply]
      exact ⟨current, there, congrArg Secret.data (Option.some.inj (stored.symm.trans same))⟩
    · intro ca result
      rw [exec_found reply] at result ⊢
      cases result
      exact ⟨current, there, rfl⟩
  | none =>
    constructor
    · intro before same
      cases stored.symm.trans same
    have failed : ∃ err, (firstRead site start first).reply = .error err := by
      by_cases fine : first.outcome = .served
      · exact ⟨.notFound, (firstRead_served start calm fine).trans (congrArg found stored)⟩
      · exact firstRead_failed site start fine
    obtain ⟨err, reply⟩ := failed
    have absent : Absent site (afterRead site start first) :=
      (firstRead_after calm).trans stored
    rw [exec_failed reply]
    have permitted : ∀ e ∈ (exec (generateAndStoreCa site) rest
        (afterRead site start first)).2.past, Alone site e := by
      intro e happened
      rcases exec_choices _ _ _ e happened with earlier | driven
      · rcases List.mem_cons.mp earlier with rfl | impossible
        · exact Calm.alone calm
        · cases impossible
      · exact Calm.alone (calmRest _ driven)
    intro ca result
    exact ((safe_generated absent).outcome rest permitted).1 _ result ca rfl

end FirstRead

/-- The CA is safe exactly when the first read finds it if it is there. -/
theorem ca_kept_iff (site : Site) (start : TlsWorld) (first : TlsChoice) (calm : Calm site first) :
    (∀ rest, (∀ choice ∈ rest, Calm site choice) → CaKept site (first :: rest) start) ↔
      ((start.secrets (caSecretName site)).isSome → first.outcome = .served) := by
  constructor
  · intro kept there
    obtain ⟨current, stored⟩ := Option.isSome_iff_exists.mp there
    by_contra failed
    obtain ⟨rest, calmRest, lost⟩ := not_caKept_of_failed calm stored failed
    exact lost (kept rest calmRest)
  · exact fun served rest calmRest => caKept_of_served calm calmRest served

def demo : Site := ⟨"demo", "default", "cluster.local"⟩

def withCa : TlsWorld where
  revision := 1
  cluster := ⟨[], true, ⟨true, "", -1, none⟩⟩
  secrets := fun name => if name = "demo-ca" then
      some ⟨"demo-ca", some 1, [], false, (caWithKey demo 7).secretDataCA⟩
    else none
  clock := 0

theorem ca_kept_when_read : CaKept demo (drawing 8 :: List.replicate 5 (drawing 8)) withCa := by
  have calm : Calm demo (drawing 8) := fun _ => rfl
  apply (ca_kept_iff demo withCa (drawing 8) calm).mpr (fun _ => rfl)
  intro choice member
  rw [List.eq_of_mem_replicate member]
  exact calm

def unreadable : List TlsChoice :=
  { outcome := .refused .unavailable } :: List.replicate 5 (drawing 8)

theorem ca_replaced : ¬ CaKept demo unreadable withCa := by
  intro kept
  obtain ⟨after, there, same⟩ := kept.unchanged
    ⟨"demo-ca", some 1, [], false, (caWithKey demo 7).secretDataCA⟩ rfl
  have other : ∀ after ∈ (exec (readOrGenerateCaCert demo) unreadable
      (newRun withCa)).2.state.secrets (caSecretName demo),
      after.data ≠ (caWithKey demo 7).secretDataCA := by decide
  exact other after there same

end OpenSearchOperator.Tls
