import OpenSearchOperator.Tls.Secrets

/-! The certificate authority of a cluster and the certificates for its transport
layer. -/

namespace OpenSearchOperator.Tls

open Api Effects

structure Site where
  clusterName : String
  namespace_ : String
  dnsBase : String
  deriving DecidableEq, Repr

section Pki

structure PEMCert where
  certBytes : Pem
  keyBytes : Pem
  deriving DecidableEq, Repr

def CaCertKey : String := "ca.crt"

def PEMCert.secretDataCA (ca : PEMCert) : SecretData :=
  ((∅ : SecretData).insert CaCertKey ca.certBytes).insert "ca.key" ca.keyBytes

def PEMCert.secretData (cert ca : PEMCert) : SecretData :=
  (((∅ : SecretData).insert "tls.crt" cert.certBytes).insert "tls.key" cert.keyBytes).insert
    CaCertKey ca.certBytes

def bytesOf (data : SecretData) (key : String) : Pem := (data.lookup key).getD (.other "")

def caFromSecret (data : SecretData) : PEMCert := ⟨bytesOf data CaCertKey, bytesOf data "ca.key"⟩

def generateCA (name : String) : TlsProg (Except Failure PEMCert) := do
  match ← ask .generateKey with
  | .error err => return .error err
  | .ok key =>
    let notAfter ← ask (.yearsFromNow 10)
    return .ok
      { certBytes := .certificate
          { commonName := name, organizationalUnit := [], dnsNames := [], isCA := true
            publicKey := key, signedWith := key, notAfter := notAfter }
        keyBytes := .privateKey key }

def PEMCert.cert (cert : PEMCert) : Option Certificate :=
  match cert.certBytes, cert.keyBytes with
  | .certificate certificate, .privateKey key =>
    if certificate.publicKey = key then some certificate else none
  | _, _ => none

def days (n : Int) : Int := n * 24 * 3600 * 1000000000

def createAndSignCertificate (ca : PEMCert) (commonName orgUnit : String) (dnsNames : List String)
    (validity : Int) : TlsProg (Except Failure PEMCert) := do
  match ca.cert with
  | none => return .error (.text "tls: no valid key pair")
  | some cacert =>
    match ← ask .generateKey with
    | .error err => return .error err
    | .ok key =>
      let now ← ask .now
      let validity := if validity ≤ 0 then days 365 else validity
      return .ok
        { certBytes := .certificate
            { commonName := commonName, organizationalUnit := [orgUnit], dnsNames := dnsNames
              isCA := false, publicKey := key, signedWith := cacert.publicKey
              notAfter := now + validity }
          keyBytes := .privateKey key }

end Pki

section Authority

def caSecretName (site : Site) : String := site.clusterName ++ "-ca"

def generateAndStoreCa (site : Site) : TlsProg (Except Failure PEMCert) := do
  match ← generateCA site.clusterName with
  | .error err => return .error err
  | .ok ca =>
    match ← createSecret
      { name := caSecretName site, resourceVersion := none, annotations := []
        deleting := false, data := ca.secretDataCA } with
    | some err => return .error err
    | none => return .ok ca

def readOrGenerateCaCert (site : Site) : TlsProg (Except Failure PEMCert) := do
  match ← ask (.getSecret (caSecretName site)) with
  | .ok caSecret => return .ok (caFromSecret caSecret.data)
  | .error _ => generateAndStoreCa site

/-- The CA in a secret that the custom resource names; the certificate manager stores
it under other keys. -/
def referencedCa (caSecret : Secret) : PEMCert :=
  if (caSecret.annotations.get "cert-manager.io/issuer-kind").isSome then
    ⟨bytesOf caSecret.data "tls.crt", bytesOf caSecret.data "tls.key"⟩
  else caFromSecret caSecret.data

def getReferencedCaCertOrDefault (site : Site) (secretReference : String) :
    TlsProg (Except Failure PEMCert) := do
  if secretReference = "" then readOrGenerateCaCert site
  else
    match ← ask (.getSecret secretReference) with
    | .error err => return .error (.api err)
    | .ok caSecret => return .ok (referencedCa caSecret)

end Authority

section Transport

def transportSecretName (site : Site) : String := site.clusterName ++ "-transport-cert"
def discoveryServiceName (site : Site) : String := site.clusterName ++ "-discovery"
def bootstrapPodName (site : Site) : String := site.clusterName ++ "-bootstrap-0"

def certName (podName : String) : String := podName ++ ".crt"
def keyName (podName : String) : String := podName ++ ".key"

def clusterDnsNames (site : Site) : List String :=
  let clusterName := site.clusterName
  let inNamespace := clusterName ++ "." ++ site.namespace_
  [clusterName, inNamespace, inNamespace ++ ".svc", inNamespace ++ ".svc." ++ site.dnsBase]

def podDnsNames (site : Site) (podName : String) : List String :=
  let clusterName := site.clusterName
  let inNamespace := clusterName ++ "." ++ site.namespace_
  let pod := podName ++ "." ++ clusterName
  [podName, clusterName, discoveryServiceName site, pod, inNamespace,
    pod ++ "." ++ site.namespace_, inNamespace ++ ".svc", pod ++ "." ++ site.namespace_ ++ ".svc",
    inNamespace ++ ".svc." ++ site.dnsBase, pod ++ "." ++ site.namespace_ ++ ".svc." ++
      site.dnsBase]

def resolveTransportCertDuration (cluster : TlsCluster) : Int :=
  cluster.transport.duration.getD (days 365)

/-- Full days, towards zero; nothing if the bytes are no certificate. -/
def getDaysRemainingFromCertificate (data : Pem) (now : Int) : Option Int :=
  match data with
  | .certificate certificate => some ((certificate.notAfter - now).tdiv (days 1))
  | _ => none

def certShouldBeRenewed (cluster : TlsCluster) (existingCertData : Pem) : TlsProg Bool := do
  let now ← ask .now
  match getDaysRemainingFromCertificate existingCertData now with
  | none => return false
  | some daysRemaining =>
    return 0 < cluster.transport.rotateDaysBeforeExpiry &&
      daysRemaining < cluster.transport.rotateDaysBeforeExpiry

def newCertNeeded (cluster : TlsCluster) : Option Pem → TlsProg Bool
  | none => return true
  | some existingCertData => certShouldBeRenewed cluster existingCertData

def generateNewCertIfNeeded (site : Site) (cluster : TlsCluster) (ca : PEMCert)
    (commonName : String) (dnsNames : List String) (existingCertData : Option Pem) :
    TlsProg (Except Failure (Option PEMCert)) := do
  let needed ← newCertNeeded cluster existingCertData
  if needed then
    match ← createAndSignCertificate ca commonName site.clusterName dnsNames
      (resolveTransportCertDuration cluster) with
    | .error err => return .error err
    | .ok cert => return .ok (some cert)
  else return .ok none

def withPodCert (data : SecretData) (podName : String) (cert : PEMCert) : SecretData :=
  (data.insert (certName podName) cert.certBytes).insert (keyName podName) cert.keyBytes

def generateBootstrapCertIfNeeded (site : Site) (cluster : TlsCluster) (ca : PEMCert)
    (data : SecretData) : TlsProg (Except Failure SecretData) := do
  let podName := bootstrapPodName site
  let certExists := (data.lookup (certName podName)).isSome
  let keyExists := (data.lookup (keyName podName)).isSome
  if !cluster.initialized && (!certExists || !keyExists) then
    match ← createAndSignCertificate ca podName site.clusterName (podDnsNames site podName)
      (resolveTransportCertDuration cluster) with
    | .error err => return .error err
    | .ok cert => return .ok (withPodCert data podName cert)
  else return .ok data

def generateNodeCert (site : Site) (cluster : TlsCluster) (ca : PEMCert) (podName : String)
    (data : SecretData) : TlsProg (Except Failure SecretData) := do
  let keyExists := (data.lookup (keyName podName)).isSome
  let certData := if keyExists then data.lookup (certName podName) else none
  match ← generateNewCertIfNeeded site cluster ca podName (podDnsNames site podName) certData with
  | .error err => return .error err
  | .ok none => return .ok data
  | .ok (some cert) => return .ok (withPodCert data podName cert)

/-- The source runs these in parallel; each writes under the keys of its own pod. -/
def generateNodeCerts (site : Site) (cluster : TlsCluster) (ca : PEMCert) :
    List String → SecretData → TlsProg (Except Failure SecretData)
  | [], data => return .ok data
  | podName :: podNames, data => do
      match ← generateNodeCert site cluster ca podName data with
      | .error err => return .error err
      | .ok data => generateNodeCerts site cluster ca podNames data

def podName (site : Site) (component : String) (i : Nat) : String :=
  site.clusterName ++ "-" ++ component ++ "-" ++ toString i

def podNames (site : Site) (cluster : TlsCluster) : List String :=
  cluster.nodePools.flatMap fun nodePool =>
    (List.range nodePool.replicas.toNat).map (podName site nodePool.component)

def generateTransportData (site : Site) (cluster : TlsCluster) (ca : PEMCert)
    (data : SecretData) : TlsProg (Except Failure SecretData) := do
  if !cluster.transport.perNode then
    match ← generateNewCertIfNeeded site cluster ca site.clusterName (clusterDnsNames site)
      (data.lookup "tls.crt") with
    | .error err => return .error err
    | .ok none => return .ok data
    | .ok (some cert) => return .ok (cert.secretData ca)
  else
    let data := data.insert CaCertKey ca.certBytes
    match ← generateBootstrapCertIfNeeded site cluster ca data with
    | .error err => return .error err
    | .ok data => generateNodeCerts site cluster ca (podNames site cluster) data

def getNodeSecret (site : Site) : TlsProg (Except ApiError Secret) := do
  let fresh : Secret :=
    { name := transportSecretName site, resourceVersion := none, annotations := []
      deleting := false, data := ∅ }
  match ← ask (.getSecret (transportSecretName site)) with
  | .ok nodeSecret => return .ok nodeSecret
  | .error .notFound => return .ok fresh
  | .error err => return .error err

def generateAndStoreCerts (site : Site) (cluster : TlsCluster) (ca : PEMCert)
    (nodeSecret : Secret) : TlsProg (Option Failure) := do
  match ← generateTransportData site cluster ca nodeSecret.data with
  | .error err => return some err
  | .ok data => createSecret { nodeSecret with data := data }

def handleTransportGenerate (site : Site) (cluster : TlsCluster) : TlsProg (Option Failure) := do
  match ← getReferencedCaCertOrDefault site cluster.transport.caSecret with
  | .error err => return some err
  | .ok ca =>
    match ← getNodeSecret site with
    | .error err => return some (.api err)
    | .ok nodeSecret => generateAndStoreCerts site cluster ca nodeSecret

def transportPass (site : Site) : TlsProg (Except ApiError (TlsCluster × Option Failure)) := do
  match ← ask .getCluster with
  | .error err => return .error err
  | .ok cluster =>
    let err ← handleTransportGenerate site cluster
    return .ok (cluster, err)

end Transport

end OpenSearchOperator.Tls
