import OpenSearchOperator.Tls.CaCert

/-! What the certificates in the transport secret are signed with. Every certificate
that a pass keeps or makes goes with the CA that the pass uses. -/

namespace OpenSearchOperator.Tls

open Api Effects

def SignedBy (bytes ca : Pem) : Prop :=
  ∃ certificate authority, bytes = .certificate certificate ∧ ca = .certificate authority ∧
    certificate.signedWith = authority.publicKey

def Clean (ca : Pem) (data : SecretData) : Prop :=
  ∀ pod, pod ≠ "ca" → ∀ bytes ∈ data.lookup (certName pod),
    (data.lookup (keyName pod)).isSome → SignedBy bytes ca

structure Issued (ca : Pem) (data : SecretData) : Prop where
  published : data.lookup CaCertKey = some ca
  clean : Clean ca data

def Certified (ca : Pem) (data : SecretData) (pod : String) : Prop :=
  ∃ bytes ∈ data.lookup (certName pod), SignedBy bytes ca

section Keys

variable {other : String}

theorem certName_ne_keyName (pod other : String) : certName pod ≠ keyName other := by
  intro same
  have characters := congrArg String.toList same
  rw [certName, keyName, String.toList_append, String.toList_append] at characters
  have suffixes := (List.append_inj' characters (by decide)).2
  exact absurd suffixes (by decide)

theorem certName_injective {pod : String} (same : certName pod = certName other) :
    pod = other := String.append_left_inj _ |>.mp same

theorem keyName_injective {pod : String} (same : keyName pod = keyName other) :
    pod = other := String.append_left_inj _ |>.mp same

theorem certName_ca : certName "ca" = CaCertKey := by decide

variable {ca : Pem} {data : SecretData} {pod : String} {cert : PEMCert}

theorem lookup_withPodCert {key : String} (notCert : key ≠ certName pod)
    (notKey : key ≠ keyName pod) : (withPodCert data pod cert).lookup key = data.lookup key := by
  rw [withPodCert, Finmap.lookup_insert_of_ne _ notKey, Finmap.lookup_insert_of_ne _ notCert]

theorem lookup_withPodCert_cert :
    (withPodCert data pod cert).lookup (certName pod) = some cert.certBytes := by
  rw [withPodCert, Finmap.lookup_insert_of_ne _ (certName_ne_keyName pod pod), Finmap.lookup_insert]

theorem Clean.publish (clean : Clean ca data) : Issued ca (data.insert CaCertKey ca) := by
  constructor
  · exact Finmap.lookup_insert _
  intro pod notCa bytes stored keyed
  have notCert : certName pod ≠ CaCertKey := by
    rw [← certName_ca]
    exact fun same => notCa (certName_injective same)
  have notKey : keyName pod ≠ CaCertKey := by
    rw [← certName_ca]
    exact (certName_ne_keyName "ca" pod).symm
  rw [Finmap.lookup_insert_of_ne _ notCert] at stored
  rw [Finmap.lookup_insert_of_ne _ notKey] at keyed
  exact clean pod notCa bytes stored keyed

theorem Issued.withPodCert (issued : Issued ca data) (notCa : pod ≠ "ca")
    (signed : SignedBy cert.certBytes ca) : Issued ca (withPodCert data pod cert) := by
  constructor
  · rw [← certName_ca, lookup_withPodCert, certName_ca]
    · exact issued.published
    · exact fun same => notCa (certName_injective same).symm
    · exact certName_ne_keyName "ca" pod
  · intro other otherNotCa bytes stored keyed
    by_cases same : other = pod
    · rw [same, lookup_withPodCert_cert] at stored
      cases stored
      exact signed
    · have apart : certName other ≠ certName pod := fun equal => same (certName_injective equal)
      have keysApart : keyName other ≠ keyName pod := fun equal => same (keyName_injective equal)
      rw [lookup_withPodCert apart (certName_ne_keyName other pod)] at stored
      rw [lookup_withPodCert (certName_ne_keyName pod other).symm keysApart] at keyed
      exact issued.clean other otherNotCa bytes stored keyed

theorem certified_withPodCert (signed : SignedBy cert.certBytes ca) :
    Certified ca (withPodCert data pod cert) pod :=
  ⟨_, lookup_withPodCert_cert, signed⟩

theorem Certified.withPodCert (certified : Certified ca data other)
    (signed : SignedBy cert.certBytes ca) : Certified ca (withPodCert data pod cert) other := by
  by_cases same : other = pod
  · subst same
    exact certified_withPodCert signed
  obtain ⟨bytes, stored, signed⟩ := certified
  refine ⟨bytes, ?_, signed⟩
  have apart : certName other ≠ certName pod := fun equal => same (certName_injective equal)
  rw [lookup_withPodCert apart (certName_ne_keyName other pod)]
  exact stored

end Keys

section Generation

variable {site : Site} {cluster : TlsCluster} {ca : PEMCert} {data : SecretData}
  {dnsNames pods : List String} {commonName pod : String}

def Improves (ca : Pem) (data : SecretData) (pods : List String)
    (result : Except Failure SecretData) : Prop :=
  ∀ improved, result = .ok improved → Issued ca improved ∧
    (∀ other, Certified ca data other → Certified ca improved other) ∧
    ∀ pod ∈ pods, Certified ca improved pod

theorem returns_createAndSignCertificate {orgUnit : String} {validity : Int} :
    (createAndSignCertificate ca commonName orgUnit dnsNames validity).Returns
      (fun result => ∀ cert, result = .ok cert → SignedBy cert.certBytes ca.certBytes) := by
  rw [createAndSignCertificate]
  split
  · exact nofun
  rename_i cacert valid
  have authority : ca.certBytes = .certificate cacert := by
    rw [PEMCert.cert] at valid
    split at valid
    · rename_i certificate key bytes _
      split at valid
      · cases valid
        exact bytes
      · cases valid
    · cases valid
  apply Program.returns_bind _ _ (Program.returns_any _)
  intro reply _
  cases reply with
  | error err => exact nofun
  | ok key =>
    apply Program.returns_bind _ _ (Program.returns_any _)
    intro now _ cert same
    cases same
    exact ⟨_, cacert, rfl, authority, rfl⟩

theorem returns_newCertNeeded (existing : Option Pem) :
    (newCertNeeded cluster existing).Returns (fun needed => needed = false → existing.isSome) := by
  cases existing with
  | none => exact nofun
  | some bytes => exact (Program.returns_any _).mono fun _ _ _ => rfl

theorem returns_generateNewCertIfNeeded {existing : Option Pem} :
    (generateNewCertIfNeeded site cluster ca commonName dnsNames existing).Returns
      (fun result => (result = .ok none → existing.isSome) ∧
        ∀ cert, result = .ok (some cert) → SignedBy cert.certBytes ca.certBytes) := by
  apply Program.returns_bind _ _ (returns_newCertNeeded existing)
  intro needed kept
  cases needed with
  | false => exact ⟨fun _ => kept rfl, nofun⟩
  | true =>
    apply Program.returns_bind _ _ (returns_createAndSignCertificate)
    intro result signed
    cases result with
    | error err => exact ⟨nofun, nofun⟩
    | ok cert =>
      refine ⟨nofun, fun other same => ?_⟩
      cases same
      exact signed cert rfl

theorem improves_self (issued : Issued ca.certBytes data) :
    Improves ca.certBytes data [] (.ok data) := by
  intro improved same
  cases same
  exact ⟨issued, fun _ certified => certified, fun _ impossible => by cases impossible⟩

theorem improves_withPodCert {cert : PEMCert}
    (issued : Issued ca.certBytes data) (notCa : pod ≠ "ca")
    (signed : SignedBy cert.certBytes ca.certBytes) :
    Improves ca.certBytes data [pod] (.ok (withPodCert data pod cert)) := by
  intro improved same
  cases same
  refine ⟨issued.withPodCert notCa signed, fun _ certified => certified.withPodCert signed, ?_⟩
  intro other member
  rw [List.mem_singleton.mp member]
  exact certified_withPodCert signed

theorem improves_error (err : Failure) :
    Improves ca.certBytes data pods (.error err) := fun _ impossible => by cases impossible

theorem returns_generateNodeCert (issued : Issued ca.certBytes data) (notCa : pod ≠ "ca") :
    (generateNodeCert site cluster ca pod data).Returns (Improves ca.certBytes data [pod]) := by
  apply Program.returns_bind _ _ (returns_generateNewCertIfNeeded)
  intro result ⟨kept, signed⟩
  match result with
  | .error err => exact improves_error err
  | .ok (some cert) => exact improves_withPodCert issued notCa (signed cert rfl)
  | .ok none =>
    -- The certificate that was kept has a key.
    have there := kept rfl
    split at there
    case isTrue keyed =>
      obtain ⟨bytes, stored⟩ := Option.isSome_iff_exists.mp there
      intro improved same
      obtain ⟨issued, certified, _⟩ := improves_self issued improved same
      cases same
      refine ⟨issued, certified, fun other member => ?_⟩
      rw [List.mem_singleton.mp member]
      exact ⟨bytes, stored, issued.clean pod notCa bytes stored keyed⟩
    case isFalse => cases there

theorem returns_generateNodeCerts (notCa : "ca" ∉ pods) (issued : Issued ca.certBytes data) :
    (generateNodeCerts site cluster ca pods data).Returns (Improves ca.certBytes data pods) := by
  induction pods generalizing data with
  | nil => exact improves_self issued
  | cons pod pods ih =>
    have apart : pod ≠ "ca" := fun same => notCa (same ▸ List.mem_cons_self)
    apply Program.returns_bind _ _ (returns_generateNodeCert issued apart)
    intro result improves
    cases result with
    | error err => exact improves_error err
    | ok improved =>
      obtain ⟨issued, certified, now⟩ := improves improved rfl
      apply (ih (fun member => notCa (List.mem_cons_of_mem _ member)) issued).mono
      intro result further final same
      obtain ⟨issued, kept, others⟩ := further final same
      refine ⟨issued, fun other before => kept other (certified other before), ?_⟩
      intro other member
      rcases List.mem_cons.mp member with rfl | rest
      · exact kept other (now other List.mem_cons_self)
      · exact others other rest

theorem not_ca_of_dash {name : String} (dash : '-' ∈ name.toList) : name ≠ "ca" := by
  intro same
  rw [same] at dash
  exact absurd dash (by decide)

theorem bootstrapPodName_ne_ca : bootstrapPodName site ≠ "ca" := by
  apply not_ca_of_dash
  rw [bootstrapPodName, String.toList_append]
  exact List.mem_append_right _ (by decide)

theorem podName_ne_ca (component : String) (i : Nat) : podName site component i ≠ "ca" := by
  apply not_ca_of_dash
  simp only [podName, String.toList_append]
  simp

theorem ca_notMem_podNames : "ca" ∉ podNames site cluster := by
  intro member
  obtain ⟨nodePool, _, member⟩ := List.mem_flatMap.mp member
  obtain ⟨i, _, same⟩ := List.mem_map.mp member
  exact podName_ne_ca nodePool.component i same

theorem returns_generateBootstrapCertIfNeeded (issued : Issued ca.certBytes data) :
    (generateBootstrapCertIfNeeded site cluster ca data).Returns
      (Improves ca.certBytes data []) := by
  rw [generateBootstrapCertIfNeeded]
  split
  · apply Program.returns_bind _ _ (returns_createAndSignCertificate)
    intro result signed
    cases result with
    | error err => exact improves_error err
    | ok cert =>
      intro improved same
      obtain ⟨issued, kept, _⟩ := improves_withPodCert issued bootstrapPodName_ne_ca
        (signed cert rfl) improved same
      exact ⟨issued, kept, fun _ impossible => by cases impossible⟩
  · exact improves_self issued

theorem returns_generateTransportData (clean : Clean ca.certBytes data)
    (perNode : cluster.transport.perNode = true) :
    (generateTransportData site cluster ca data).Returns (fun result => ∀ improved,
      result = .ok improved → Issued ca.certBytes improved ∧
        ∀ pod ∈ podNames site cluster, Certified ca.certBytes improved pod) := by
  rw [generateTransportData, perNode]
  apply Program.returns_bind _ _ (returns_generateBootstrapCertIfNeeded clean.publish)
  intro result improves
  cases result with
  | error err => exact fun _ impossible => by cases impossible
  | ok started =>
    obtain ⟨issued, _, _⟩ := improves started rfl
    apply (returns_generateNodeCerts ca_notMem_podNames issued).mono
    intro result further improved same
    obtain ⟨issued, _, all⟩ := further improved same
    exact ⟨issued, all⟩

end Generation

end OpenSearchOperator.Tls
