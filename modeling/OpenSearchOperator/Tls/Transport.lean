import Mathlib.Tactic.MkIffOfInductiveProp
import OpenSearchOperator.Tls.Issuance

/-! A pass over the transport certificates leaves each pod with a certificate of the
published CA, as long as the CA stays the one that was published before. -/

namespace OpenSearchOperator.Tls

open Api Effects Reconcilers

def AllCertified (site : Site) (cluster : TlsCluster) (s : TlsWorld) : Prop :=
  ∃ node ∈ s.secrets (transportSecretName site), ∃ ca ∈ node.data.lookup CaCertKey,
    ∀ pod ∈ podNames site cluster, Certified ca node.data pod

def Publishes (site : Site) (name : String) (secret node : Secret) : Prop :=
  (referencedCa secret).certBytes = bytesOf node.data CaCertKey ∧
  (name = caSecretName site → (caFromSecret secret.data).certBytes = bytesOf node.data CaCertKey)

def Call.secretRead : Call → Option String
  | .getSecret name => some name
  | _ => none

/-- Nobody else writes the transport secret, it has a certificate for each node, and once
it is there each CA that is read is the published one; the secret of the default CA can
be read then. -/
@[mk_iff]
structure Guarded (site : Site) (e : TlsEvent) : Prop where
  alone : e.before.secrets (transportSecretName site) = e.prior.secrets (transportSecretName site)
  perNode : e.before.cluster.transport.perNode = true
  reference : e.before.cluster.transport.caSecret ≠ transportSecretName site
  published : ∀ name ∈ e.op.secretRead, name ≠ transportSecretName site →
    ∀ node ∈ e.before.secrets (transportSecretName site),
      ∀ secret ∈ e.before.secrets name, Publishes site name secret node
  readable : e.op.secretRead = some (caSecretName site) →
    (e.before.secrets (transportSecretName site)).isSome →
      e.choice.outcome = .served ∧ (e.before.secrets (caSecretName site)).isSome

abbrev At (site : Site) (stored : Option Secret) (w : TlsRun) : Prop :=
  w.state.secrets (transportSecretName site) = stored

structure Tended (site : Site) (node : Secret) : Prop where
  name : node.name = transportSecretName site
  alive : node.deleting = false
  issued : ∃ ca, Issued ca node.data

def Sound (site : Site) (w : TlsRun) : Prop :=
  ∀ node ∈ w.state.secrets (transportSecretName site), Tended site node

section Calls

variable {site : Site} {stored : Option Secret} {w : TlsRun} {choice : TlsChoice} {s : TlsWorld}
  {op : Call}

theorem caSecretName_ne : caSecretName site ≠ transportSecretName site := by
  intro same
  have suffix := String.append_right_inj _ |>.mp same
  exact absurd suffix (by decide)

def Spares (site : Site) : Call → Prop
  | .createSecret secret => secret.name ≠ transportSecretName site
  | .updateSecret secret => secret.name ≠ transportSecretName site
  | _ => True

theorem store_secrets_of_ne {secret : Secret} {name : String}
    (apart : secret.name ≠ name) : (s.store secret).secrets name = s.secrets name :=
  if_neg (Ne.symm apart)

theorem serveCall_spares (spares : Spares site op) :
    (serveCall choice s op).2.secrets (transportSecretName site) =
      s.secrets (transportSecretName site) := by
  cases op with
  | createSecret secret =>
    rw [serveCall]
    split
    · rfl
    split
    · rfl
    · exact store_secrets_of_ne spares
  | updateSecret secret =>
    rw [serveCall]
    split
    · rfl
    split
    · rfl
    · exact store_secrets_of_ne spares
  | _ => rfl

theorem At.spared (here : At site stored w)
    (spares : Spares site op) (guarded : Guarded site (w.arrive choice op)) :
    At site stored (w.extend (w.arrive choice op)) := by
  have before : (w.arrive choice op).before.secrets (transportSecretName site) = stored :=
    guarded.alone.trans here
  show (answerCall choice (w.arrive choice op).before op).2.secrets (transportSecretName site) =
    stored
  rw [answerCall]
  split
  · exact (serveCall_spares spares).trans before
  · exact before
  · exact (serveCall_spares spares).trans before

theorem At.sound (here : At site stored w) (tended : ∀ node ∈ stored, Tended site node) :
    Sound site w := fun node there => tended node (here ▸ there)

theorem keeps_at {α : Type} {program : TlsProg α} (tended : ∀ node ∈ stored, Tended site node)
    (only : program.OnlyCalls (Spares site)) :
    Keeps (Guarded site) (Sound site) (At site stored) program :=
  keeps_of_calls (fun _ here => here.sound tended) only
    fun _ _ _ spares guarded here => here.spared spares guarded

end Calls

section OnlySpare

variable {site : Site}

theorem spares_createSecret {secret : Secret} (apart : secret.name ≠ transportSecretName site) :
    (createSecret secret).OnlyCalls (Spares site) := by
  have creates : (secretKind.createIfNotExist secret).OnlyCalls (Spares site) := by
    apply (onlyCalls_asked trivial).bindOk
    · intro err
      cases err with
      | notFound => exact onlyCalls_ask apart fun reply => by cases reply <;> trivial
      | _ => trivial
    · exact fun _ => trivial
  have updates : ∀ current, (secretKind.updateExisting current secret).OnlyCalls (Spares site) := by
    intro current
    refine onlyCalls_ask trivial fun reply => ?_
    split
    · trivial
    refine onlyCalls_ask apart fun reply => ?_
    rcases reply with ⟨_ | _⟩ | _ <;> trivial
  apply Program.OnlyCalls.bind
  · apply creates.bind
    intro reply
    match reply with
    | .error err => trivial
    | .ok none => trivial
    | .ok (some current) =>
      dsimp only
      split
      · trivial
      · exact updates current
  · exact fun _ => trivial

theorem spares_generateAndStoreCa : (generateAndStoreCa site).OnlyCalls (Spares site) := by
  have generates : (generateCA site.clusterName).OnlyCalls (Spares site) := by
    apply (onlyCalls_asked trivial).bindOk
    · exact fun _ => trivial
    intro key
    exact onlyCalls_ask trivial fun _ => trivial
  apply generates.bindOk
  · exact fun _ => trivial
  intro ca
  apply (spares_createSecret caSecretName_ne).bind
  intro err
  cases err <;> trivial

variable {cluster : TlsCluster} {ca : PEMCert} {dnsNames : List String} {commonName : String}

theorem spares_createAndSignCertificate {orgUnit : String} {validity : Int} :
    (createAndSignCertificate ca commonName orgUnit dnsNames validity).OnlyCalls (Spares site) := by
  rw [createAndSignCertificate]
  split
  · trivial
  apply (onlyCalls_asked trivial).bindOk
  · exact fun _ => trivial
  intro key
  exact onlyCalls_ask trivial fun _ => trivial

theorem spares_newCertNeeded (existing : Option Pem) :
    (newCertNeeded cluster existing).OnlyCalls (Spares site) := by
  cases existing with
  | none => trivial
  | some bytes =>
    refine onlyCalls_ask trivial fun now => ?_
    split <;> trivial

theorem spares_generateNewCertIfNeeded {existing : Option Pem} :
    (generateNewCertIfNeeded site cluster ca commonName dnsNames existing).OnlyCalls
      (Spares site) := by
  apply (spares_newCertNeeded existing).bind
  intro needed
  split
  · apply (spares_createAndSignCertificate).bind
    intro result
    cases result <;> trivial
  · trivial

theorem spares_generateNodeCerts {pods : List String} (data : SecretData) :
    (generateNodeCerts site cluster ca pods data).OnlyCalls (Spares site) := by
  induction pods generalizing data with
  | nil => trivial
  | cons pod pods ih =>
    have one : (generateNodeCert site cluster ca pod data).OnlyCalls (Spares site) := by
      apply (spares_generateNewCertIfNeeded).bind
      intro result
      match result with
      | .error err => trivial
      | .ok none => trivial
      | .ok (some cert) => trivial
    apply one.bindOk
    · exact fun _ => trivial
    intro data
    exact ih data

theorem spares_generateTransportData (cluster : TlsCluster) (ca : PEMCert) (data : SecretData) :
    (generateTransportData site cluster ca data).OnlyCalls (Spares site) := by
  rw [generateTransportData]
  split
  · apply (spares_generateNewCertIfNeeded).bind
    intro result
    rcases result with err | _ | cert
    · trivial
    · trivial
    · trivial
  · have bootstrap : (generateBootstrapCertIfNeeded site cluster ca
        (data.insert CaCertKey ca.certBytes)).OnlyCalls (Spares site) := by
      rw [generateBootstrapCertIfNeeded]
      split
      · apply (spares_createAndSignCertificate).bind
        intro result
        cases result <;> trivial
      · trivial
    apply bootstrap.bindOk
    · exact fun _ => trivial
    intro data
    exact spares_generateNodeCerts data

end OnlySpare

section Authority

variable {site : Site} {stored : Option Secret} {w : TlsRun} {name : String}

theorem reply_getSecret {choice : TlsChoice} {s : TlsWorld} {secret : Secret}
    (reply : (answerCall choice s (.getSecret name)).1 = .ok secret) :
    s.secrets name = some secret := by
  rcases answer_getSecret choice s name with told | ⟨err, _, failed⟩
  · have told : found (s.secrets name) = .ok secret := told.symm.trans reply
    cases there : s.secrets name with
    | none =>
      rw [there] at told
      cases told
    | some other =>
      rw [there] at told
      cases told
      rfl
  · cases failed.symm.trans reply

abbrev Upholds (site : Site) {α : Type} : TlsProg α → (α → TlsRun → Prop) → TlsRun → Prop :=
  Safe (Guarded site) (Sound site)

theorem safe_getCa (tended : ∀ node ∈ stored, Tended site node)
    (apart : name ≠ transportSecretName site) (here : At site stored w) :
    Upholds site (ask (.getSecret name)) (OkWith (At site stored) fun secret _ =>
      ∀ node ∈ stored, Publishes site name secret node) w := by
  refine ⟨here.sound tended, fun choice guarded => ⟨here.spared trivial guarded, ?_⟩⟩
  intro secret reply node there
  have found := reply_getSecret reply
  have before : (w.arrive choice (.getSecret name)).before.secrets (transportSecretName site) =
      some node := (guarded.alone.trans here).trans there
  exact guarded.published name rfl apart node before secret found

/-- The default CA is replaced only before the transport secret is there. -/
theorem safe_getDefaultCa (tended : ∀ node ∈ stored, Tended site node) (here : At site stored w) :
    Upholds site (ask (.getSecret (caSecretName site))) (fun reply w =>
      At site stored w ∧ (∀ secret, reply = .ok secret →
        ∀ node ∈ stored, Publishes site (caSecretName site) secret node) ∧
      ∀ err, reply = .error err → stored = none) w := by
  refine ⟨here.sound tended, fun choice guarded => ?_⟩
  obtain ⟨kept, publishes⟩ := (safe_getCa tended caSecretName_ne here).2 choice guarded
  refine ⟨kept, publishes, fun err reply => ?_⟩
  cases present : stored with
  | none => rfl
  | some node =>
    have before : (w.arrive choice (.getSecret (caSecretName site))).before.secrets
        (transportSecretName site) = some node := (guarded.alone.trans here).trans present
    obtain ⟨served, there⟩ := guarded.readable rfl (by rw [before]; rfl)
    obtain ⟨secret, found⟩ := Option.isSome_iff_exists.mp there
    have reply : (answerCall choice (w.arrive choice (.getSecret (caSecretName site))).before
      (.getSecret (caSecretName site))).1 = .error err := reply
    have served : choice.outcome = .served := served
    rw [answerCall, served] at reply
    have reply : Api.found ((w.arrive choice (.getSecret (caSecretName site))).before.secrets
      (caSecretName site)) = .error err := reply
    rw [found] at reply
    cases reply

def InUse (stored : Option Secret) (result : Except Failure PEMCert) : Prop :=
  ∀ ca, result = .ok ca → ∀ node ∈ stored, ca.certBytes = bytesOf node.data CaCertKey

theorem safe_getReferencedCaCertOrDefault (tended : ∀ node ∈ stored, Tended site node)
    {reference : String} (apart : reference ≠ transportSecretName site) (here : At site stored w) :
    Upholds site (getReferencedCaCertOrDefault site reference)
      (fun result w => At site stored w ∧ InUse stored result) w := by
  rw [getReferencedCaCertOrDefault]
  split
  · apply (safe_getDefaultCa tended here).bindOk
    · intro err w ⟨here, publishes, absent⟩
      have none := absent err rfl
      apply (keeps_at tended spares_generateAndStoreCa w here).mono
      intro result w here
      refine ⟨here, fun ca _ node there => ?_⟩
      rw [none] at there
      cases there
    intro secret w ⟨here, publishes, absent⟩
    refine ⟨here, fun ca same node there => ?_⟩
    cases same
    exact (publishes secret rfl node there).2 rfl
  · apply (safe_getCa tended apart here).thenOk
    · exact fun _ _ here => ⟨here, nofun⟩
    intro secret w here publishes
    refine ⟨here, fun ca same node there => ?_⟩
    cases same
    exact (publishes node there).1

end Authority

section Storing

variable {site : Site} {stored : Option Secret} {w : TlsRun} {node : Secret}

theorem safe_getTransport (tended : ∀ node ∈ stored, Tended site node) (here : At site stored w) :
    Upholds site (ask (.getSecret (transportSecretName site)))
      (fun reply w => At site stored w ∧ (∀ node, reply = .ok node → stored = some node) ∧
        (reply = .error .notFound → stored = none)) w := by
  refine ⟨here.sound tended, fun choice guarded => ⟨here.spared trivial guarded, ?_, ?_⟩⟩
  · intro node reply
    have found := reply_getSecret reply
    exact ((guarded.alone.trans here).symm.trans found)
  · intro reply
    rcases answer_getSecret choice (w.arrive choice
      (.getSecret (transportSecretName site))).before (transportSecretName site) with
      told | ⟨err, other, failed⟩
    · have before : (w.arrive choice (.getSecret (transportSecretName site))).before.secrets
          (transportSecretName site) = stored := guarded.alone.trans here
      have told : found stored = .error .notFound := by
        rw [← before]
        exact told.symm.trans reply
      cases stored with
      | none => rfl
      | some node => cases told
    · cases failed.symm.trans reply
      exact absurd rfl other

theorem answer_updateSecret (choice : TlsChoice) (s : TlsWorld) (secret : Secret) :
    (∃ err, (answerCall choice s (.updateSecret secret)).1 = .error err) ∧
        (answerCall choice s (.updateSecret secret)).2 = s ∨
      ∃ current, s.secrets secret.name = some current ∧
        (answerCall choice s (.updateSecret secret)).2 =
          s.store { secret with deleting := current.deleting } := by
  have served : (∃ err, (serveCall choice s (.updateSecret secret)).1 = .error err) ∧
        (serveCall choice s (.updateSecret secret)).2 = s ∨
      ∃ current, s.secrets secret.name = some current ∧
        (serveCall choice s (.updateSecret secret)).2 =
          s.store { secret with deleting := current.deleting } := by
    rw [serveCall]
    split
    · exact Or.inl ⟨⟨_, rfl⟩, rfl⟩
    rename_i current there
    split
    · exact Or.inl ⟨⟨_, rfl⟩, rfl⟩
    · exact Or.inr ⟨current, there, rfl⟩
  rw [answerCall]
  split
  · exact served
  · exact Or.inl ⟨⟨_, rfl⟩, rfl⟩
  · exact served.imp_left fun failed => ⟨⟨_, rfl⟩, failed.2⟩

def Wrote (site : Site) (data : SecretData) (w : TlsRun) : Prop :=
  ∃ node ∈ w.state.secrets (transportSecretName site), node.data = data

def Written (site : Site) (data : SecretData) (reply : Except ApiError Unit) (w : TlsRun) : Prop :=
  Sound site w ∧ (reply = .ok () → Wrote site data w)

theorem safe_comparison {merged : Secret} (tended : ∀ other ∈ stored, Tended site other)
    (here : At site stored w) : Upholds site (ask (.calculatePatch node merged))
      (fun reply w => At site stored w ∧ (reply = .ok true → merged.data = node.data)) w := by
  refine ⟨here.sound tended, fun choice guarded => ⟨here.spared trivial guarded, fun reply => ?_⟩⟩
  have reply : (answerCall choice (w.arrive choice (.calculatePatch node merged)).before
    (.calculatePatch node merged)).1 = .ok true := reply
  rw [answerCall] at reply
  split at reply
  · have same : (merged.annotations == node.annotations && merged.data == node.data) = true :=
      Except.ok.inj reply
    rw [Bool.and_eq_true] at same
    exact eq_of_beq same.2
  · cases reply
  · cases reply

variable {desired : Secret} (name : desired.name = transportSecretName site)
  (issued : ∃ ca, Issued ca desired.data)
include name issued

theorem written_store {s : TlsWorld} {deleting : Bool} (alive : deleting = false)
    (stored : w.state = s.store { desired with deleting := deleting })
    {reply : Except ApiError Unit} : Written site desired.data reply w := by
  have now : w.state.secrets (transportSecretName site) = some { desired with
      deleting := deleting, resourceVersion := some (s.revision + 1) } := by
    rw [stored, ← name]
    exact store_secrets s { desired with deleting := deleting }
  refine ⟨fun node there => ?_, fun _ => ⟨_, now, rfl⟩⟩
  cases now.symm.trans there
  exact ⟨name, alive, issued⟩

theorem safe_createTransport (here : At site none w) : Upholds site (ask (.createSecret desired))
      (Written site desired.data) w := by
  refine ⟨here.sound nofun, fun choice guarded => ?_⟩
  rcases answer_createSecret choice (w.arrive choice (.createSecret desired)).before desired with
    ⟨⟨err, failed⟩, same⟩ | stored
  · have kept : At site none (w.extend (w.arrive choice (.createSecret desired))) := by
      show (answerCall choice (w.arrive choice (.createSecret desired)).before
        (.createSecret desired)).2.secrets (transportSecretName site) = none
      rw [same]
      exact guarded.alone.trans here
    exact ⟨kept.sound nofun, fun fine => by cases failed.symm.trans fine⟩
  · exact written_store name issued rfl stored

theorem safe_updateTransport (tended : ∀ other ∈ some node, Tended site other)
    (here : At site (some node) w) :
    Upholds site (ask (.updateSecret desired)) (Written site desired.data) w := by
  refine ⟨here.sound tended, fun choice guarded => ?_⟩
  have before : (w.arrive choice (.updateSecret desired)).before.secrets
      (transportSecretName site) = some node := guarded.alone.trans here
  rcases answer_updateSecret choice (w.arrive choice (.updateSecret desired)).before desired with
    ⟨⟨err, failed⟩, same⟩ | ⟨current, there, stored⟩
  · have kept : At site (some node) (w.extend (w.arrive choice (.updateSecret desired))) := by
      show (answerCall choice (w.arrive choice (.updateSecret desired)).before
        (.updateSecret desired)).2.secrets (transportSecretName site) = some node
      rw [same]
      exact before
    exact ⟨kept.sound tended, fun fine => by cases failed.symm.trans fine⟩
  · rw [name, before] at there
    cases there
    exact written_store name issued (tended node rfl).alive stored

theorem safe_storeTransport (tended : ∀ node ∈ stored, Tended site node) (here : At site stored w) :
    Upholds site (createSecret desired)
      (fun err w => Sound site w ∧ (err = none → Wrote site desired.data w)) w := by
  have creation : Upholds site (secretKind.createIfNotExist desired)
      (fun result w => (∃ err, result = .error err ∧ Sound site w) ∨
        (result = .ok none ∧ Sound site w ∧ Wrote site desired.data w) ∨
        ∃ node, result = .ok (some node) ∧ stored = some node ∧ At site stored w) w := by
    have read : Upholds site (ask (.getSecret desired.name))
        (fun reply w => At site stored w ∧ (∀ node, reply = .ok node → stored = some node) ∧
          (reply = .error .notFound → stored = none)) w := by
      rw [name]
      exact safe_getTransport tended here
    apply read.bindOk
    · intro err w ⟨here, found, absent⟩
      cases err with
      | notFound =>
        rw [absent rfl] at here
        apply (safe_createTransport name issued here).bindOk
        · exact fun _ _ written => Or.inl ⟨_, rfl, written.1⟩
        · exact fun _ _ written => Or.inr (Or.inl ⟨rfl, written.1, written.2 rfl⟩)
      | _ => exact Or.inl ⟨_, rfl, here.sound tended⟩
    · exact fun node _ outcome => Or.inr (Or.inr ⟨node, rfl, outcome.2.1 node rfl, outcome.1⟩)
  have update : ∀ node (w : TlsRun), stored = some node → At site stored w →
      Upholds site (secretKind.updateExisting node desired)
        (fun result w => Sound site w ∧ (result.2.1 = none → Wrote site desired.data w)) w := by
    intro node w present here
    apply (safe_comparison tended here).bind
    intro reply w ⟨here, same⟩
    split
    · refine ⟨here.sound tended, fun _ => ⟨node, here.trans present, ?_⟩⟩
      exact (same rfl).symm
    have change : Upholds site (ask (.updateSecret
        (secretKind.setVersion (secretKind.merge desired node) node)))
        (Written site desired.data) w :=
      safe_updateTransport name issued (present ▸ tended) (present ▸ here)
    apply change.bindOk
    · intro err w ⟨sound, wrote⟩
      cases err <;> exact ⟨sound, nofun⟩
    · exact fun _ _ written => ⟨written.1, fun _ => written.2 rfl⟩
  have present : Upholds site (secretKind.reconcilePresent desired)
      (fun result w => Sound site w ∧ (result.2.1 = none → Wrote site desired.data w)) w := by
    apply creation.bind
    intro result w outcome
    rcases outcome with ⟨err, rfl, sound⟩ | ⟨rfl, sound, wrote⟩ | ⟨node, rfl, present, here⟩
    · exact ⟨sound, nofun⟩
    · exact ⟨sound, fun _ => wrote⟩
    have alive : node.deleting = false := (tended node present).alive
    simp only [alive, Bool.false_eq_true, if_false]
    exact update node w present here
  exact present.bind fun _ _ outcome => outcome

end Storing

section Passes

variable {site : Site} {w : TlsRun} {stored : Option Secret} {cluster : TlsCluster} {ca : PEMCert}

theorem clean_of_inUse {node : Secret}
    (tended : Tended site node) (inUse : InUse stored (.ok ca)) (there : stored = some node) :
    Clean ca.certBytes node.data := by
  obtain ⟨issuer, issued⟩ := tended.issued
  have same : ca.certBytes = issuer := by
    rw [inUse ca rfl node there, bytesOf, issued.published]
    rfl
  exact same ▸ issued.clean

theorem clean_empty {ca : Pem} : Clean ca ∅ := by
  intro pod _ bytes stored
  rw [Finmap.lookup_empty] at stored
  cases stored

theorem safe_generateAndStoreCerts
    {nodeSecret : Secret} (tended : ∀ node ∈ stored, Tended site node)
    (perNode : cluster.transport.perNode = true)
    (name : nodeSecret.name = transportSecretName site) (clean : Clean ca.certBytes nodeSecret.data)
    (here : At site stored w) : Upholds site (generateAndStoreCerts site cluster ca nodeSecret)
      (fun err w => Sound site w ∧ (err = none → AllCertified site cluster w.state)) w := by
  have generation := (keeps_at tended (spares_generateTransportData cluster ca nodeSecret.data)
    w here).returns (returns_generateTransportData clean perNode)
  apply generation.bindOk
  · exact fun _ _ both => ⟨both.2.sound tended, nofun⟩
  intro data w ⟨improves, here⟩
  obtain ⟨issued, certified⟩ := improves data rfl
  have storing : Upholds site (createSecret { nodeSecret with data := data })
      (fun err w => Sound site w ∧ (err = none → Wrote site data w)) w :=
    safe_storeTransport name ⟨_, issued⟩ tended here
  apply storing.mono
  intro err w ⟨sound, wrote⟩
  refine ⟨sound, fun fine => ?_⟩
  obtain ⟨node, there, rfl⟩ := wrote fine
  exact ⟨node, there, ca.certBytes, issued.published, certified⟩

theorem safe_handleTransportGenerate (perNode : cluster.transport.perNode = true)
    (reference : cluster.transport.caSecret ≠ transportSecretName site) (sound : Sound site w) :
    Upholds site (handleTransportGenerate site cluster)
      (fun err w => Sound site w ∧ (err = none → AllCertified site cluster w.state)) w := by
  have here : At site (w.state.secrets (transportSecretName site)) w := rfl
  have tended : ∀ node ∈ w.state.secrets (transportSecretName site), Tended site node := sound
  generalize w.state.secrets (transportSecretName site) = stored at here tended
  apply (safe_getReferencedCaCertOrDefault tended reference here).bindOk
  · exact fun _ _ both => ⟨both.1.sound tended, nofun⟩
  intro ca w ⟨here, inUse⟩
  have read : Upholds site (getNodeSecret site) (OkWith (At site stored) fun nodeSecret _ =>
      nodeSecret.name = transportSecretName site ∧ Clean ca.certBytes nodeSecret.data) w := by
    apply (safe_getTransport tended here).bindOk
    · intro err w ⟨here, found, absent⟩
      cases err with
      | notFound =>
        refine ⟨here, fun nodeSecret same => ?_⟩
        cases same
        exact ⟨rfl, clean_empty⟩
      | _ => exact ⟨here, nofun⟩
    intro node w ⟨here, found, absent⟩
    refine ⟨here, fun nodeSecret same => ?_⟩
    cases same
    have there := found node rfl
    exact ⟨(tended node there).name, clean_of_inUse (tended node there) inUse there⟩
  apply read.thenOk
  · exact fun _ _ here => ⟨here.sound tended, nofun⟩
  intro nodeSecret w here ⟨name, clean⟩
  exact safe_generateAndStoreCerts tended perNode name clean here

def Achieved (site : Site) (result : Except ApiError (TlsCluster × Option Failure))
    (w : TlsRun) : Prop :=
  ∀ cluster, result = .ok (cluster, none) → AllCertified site cluster w.state

theorem safe_transportPass (sound : Sound site w) : Upholds site (transportPass site)
      (fun result w => Sound site w ∧ Achieved site result w) w := by
  have read : Upholds site (ask .getCluster) (OkWith (Sound site) fun cluster _ =>
      cluster.transport.perNode = true ∧
        cluster.transport.caSecret ≠ transportSecretName site) w := by
    refine ⟨sound, fun choice guarded => ⟨?_, fun cluster reply => ?_⟩⟩
    · have here : At site (w.state.secrets (transportSecretName site)) w := rfl
      have spares : Spares site .getCluster := trivial
      exact (here.spared spares guarded).sound sound
    · have reply : (answerCall choice (w.arrive choice .getCluster).before .getCluster).1 =
        .ok cluster := reply
      rw [answerCall] at reply
      split at reply
      · cases reply
        exact ⟨guarded.perNode, guarded.reference⟩
      · cases reply
      · cases reply
  apply read.thenOk
  · exact fun _ _ sound => ⟨sound, by simp [Achieved]⟩
  rintro cluster w sound ⟨perNode, reference⟩
  apply (safe_handleTransportGenerate perNode reference sound).bind
  rintro err w ⟨sound, certified⟩
  refine ⟨sound, fun other same => ?_⟩
  cases same
  exact certified rfl

end Passes

/-- As long as the published CA is the one in use, every pass without an error leaves all
pods with certificates of the published CA. -/
theorem transport_certs_match_ca (site : Site) (start : TlsWorld)
    (passes : List (List TlsChoice)) (choices : List TlsChoice)
    (tended : ∀ node ∈ start.secrets (transportSecretName site), Tended site node)
    (guarded : ∀ e ∈ (exec (transportPass site) choices
      (runs (transportPass site) passes (newRun start))).2.past, Guarded site e)
    (cluster : TlsCluster)
    (done : (exec (transportPass site) choices
      (runs (transportPass site) passes (newRun start))).1 = some (.ok (cluster, none))) :
    AllCertified site cluster (exec (transportPass site) choices
      (runs (transportPass site) passes (newRun start))).2.state := by
  have sound : Sound site (runs (transportPass site) passes (newRun start)) := by
    apply runs_keep (fun _ sound => (safe_transportPass sound).mono fun _ _ both => both.1) passes
      (newRun start) tended
    intro e happened
    exact guarded e ((exec_past (transportPass site) choices _).subset happened)
  exact (((safe_transportPass sound).outcome choices guarded).1 _ done).2 cluster rfl

section Runs

instance (bytes ca : Pem) : Decidable (SignedBy bytes ca) :=
  match bytes, ca with
  | .certificate certificate, .certificate authority =>
    decidable_of_iff (certificate.signedWith = authority.publicKey)
      ⟨fun same => ⟨certificate, authority, rfl, rfl, same⟩, fun ⟨_, _, first, second, same⟩ => by
        cases first
        cases second
        exact same⟩
  | .privateKey _, _ => isFalse fun ⟨_, _, first, _⟩ => by cases first
  | .other _, _ => isFalse fun ⟨_, _, first, _⟩ => by cases first
  | .certificate _, .privateKey _ => isFalse fun ⟨_, _, _, second, _⟩ => by cases second
  | .certificate _, .other _ => isFalse fun ⟨_, _, _, second, _⟩ => by cases second

instance (ca : Pem) (data : SecretData) (pod : String) : Decidable (Certified ca data pod) :=
  inferInstanceAs (Decidable (∃ bytes ∈ data.lookup (certName pod), _))

instance (site : Site) (cluster : TlsCluster) (s : TlsWorld) :
    Decidable (AllCertified site cluster s) :=
  inferInstanceAs (Decidable (∃ node ∈ s.secrets (transportSecretName site), _))

instance (site : Site) (name : String) (secret node : Secret) :
    Decidable (Publishes site name secret node) :=
  inferInstanceAs (Decidable (_ ∧ _))

instance (site : Site) (e : TlsEvent) : Decidable (Guarded site e) :=
  decidable_of_iff' _ (guarded_iff ..)

def ofSize (replicas : Int) : TlsCluster where
  nodePools := [⟨"nodes", replicas, ["data"], none, 0, "", ""⟩]
  initialized := true
  transport := ⟨true, "", 30, none⟩

def unsecured : TlsWorld where
  revision := 1
  cluster := ofSize 1
  secrets := fun _ => none
  clock := 0

def quietPass : List TlsChoice := List.replicate 20 (drawing 5)

def scaledUp : List TlsChoice :=
  { drawing 6 with others := fun s => { s with cluster := ofSize 2 } } :: quietPass

theorem certs_match_after_scaling : AllCertified demo (ofSize 2)
      (exec (transportPass demo) scaledUp (runs (transportPass demo) [quietPass]
        (newRun unsecured))).2.state := by
  apply transport_certs_match_ca demo unsecured [quietPass] scaledUp nofun
  · decide
  · decide

def otherCa : Secret := ⟨"demo-ca", none, [], false, (caWithKey demo 9).secretDataCA⟩

def caChanged : List TlsChoice :=
  { drawing 6 with others := fun s => { s with
      secrets := fun name => if name = "demo-ca" then some otherCa else s.secrets name } } ::
    quietPass

/-- The new CA is published, the certificate of the node stays. -/
theorem certs_of_former_ca :
    (exec (transportPass demo) caChanged (runs (transportPass demo) [quietPass]
      (newRun unsecured))).1 = some (.ok (ofSize 1, none)) ∧
    ¬ AllCertified demo (ofSize 1)
      (exec (transportPass demo) caChanged (runs (transportPass demo) [quietPass]
        (newRun unsecured))).2.state := by
  decide

end Runs

end OpenSearchOperator.Tls
