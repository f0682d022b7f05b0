import Mathlib.Data.Finmap
import OpenSearchOperator.Reconcilers.Generic

/-! Secrets that hold keys and certificates, and the API server that stores them. A
key pair is known by a number; a certificate tells whose key it is for and which key
signed it. -/

namespace OpenSearchOperator.Tls

open Api Effects Reconcilers

structure Certificate where
  commonName : String
  organizationalUnit : List String
  dnsNames : List String
  isCA : Bool
  publicKey : Nat
  signedWith : Nat
  notAfter : Int
  deriving DecidableEq, Repr

inductive Pem where
  | certificate (certificate : Certificate)
  | privateKey (key : Nat)
  | other (bytes : String)
  deriving DecidableEq, Repr

abbrev SecretData := Finmap (fun _ : String => Pem)

structure Secret where
  name : String
  resourceVersion : Option Nat
  annotations : Labels
  deleting : Bool
  data : SecretData
  deriving DecidableEq

structure TransportConfig where
  perNode : Bool
  caSecret : String
  rotateDaysBeforeExpiry : Int
  duration : Option Int
  deriving DecidableEq, Repr

structure TlsCluster where
  nodePools : List NodePool
  initialized : Bool
  transport : TransportConfig
  deriving DecidableEq, Repr

/-- Besides requests to the API server, a program draws a new key, looks at the clock
and at the calendar. -/
inductive Call where
  | getCluster
  | getSecret (name : String)
  | createSecret (secret : Secret)
  | updateSecret (secret : Secret)
  | calculatePatch (current desired : Secret)
  | generateKey
  | now
  | yearsFromNow (years : Nat)
  deriving DecidableEq

@[reducible] def Call.Reply : Call → Type
  | .getCluster => Except ApiError TlsCluster
  | .getSecret _ => Except ApiError Secret
  | .createSecret _ => Except ApiError Unit
  | .updateSecret _ => Except ApiError Unit
  | .calculatePatch _ _ => Except Failure Bool
  | .generateKey => Except Failure Nat
  | .now => Int
  | .yearsFromNow _ => Int

abbrev secrets : Interface where
  Call := Call
  Reply := Call.Reply

abbrev TlsProg (α : Type) := Program secrets α

structure TlsWorld where
  revision : Nat
  cluster : TlsCluster
  secrets : String → Option Secret
  clock : Int

def TlsWorld.store (s : TlsWorld) (secret : Secret) : TlsWorld :=
  { s with
    revision := s.revision + 1
    secrets := fun name => if name = secret.name then
        some { secret with resourceVersion := some (s.revision + 1) }
      else s.secrets name }

structure TlsChoice where
  others : TlsWorld → TlsWorld := id
  outcome : Outcome := .served
  key : Nat := 0
  calendar : Int := 0

def serveCall (choice : TlsChoice) (s : TlsWorld) : (op : Call) → op.Reply × TlsWorld
  | .getCluster => (.ok s.cluster, s)
  | .getSecret name => (found (s.secrets name), s)
  | .createSecret secret =>
    match s.secrets secret.name with
    | some _ => (.error .alreadyExists, s)
    | none =>
      if secret.resourceVersion.isSome then (.error .invalid, s)
      else (.ok (), s.store { secret with deleting := false })
  | .updateSecret secret =>
    match s.secrets secret.name with
    | none => (.error .notFound, s)
    | some current =>
      if secret.resourceVersion ≠ current.resourceVersion then (.error .conflict, s)
      else (.ok (), s.store { secret with deleting := current.deleting })
  | .calculatePatch current desired =>
    (.ok (desired.annotations == current.annotations && desired.data == current.data), s)
  | .generateKey => (.ok choice.key, s)
  | .now => (s.clock, s)
  | .yearsFromNow _ => (choice.calendar, s)

def failedReply (err : ApiError) (choice : TlsChoice) (s : TlsWorld) : (op : Call) → op.Reply
  | .getCluster => .error err
  | .getSecret _ => .error err
  | .createSecret _ => .error err
  | .updateSecret _ => .error err
  | .calculatePatch _ _ => .error (.text "could not match objects")
  | .generateKey => .error (.text "no random numbers")
  | .now => s.clock
  | .yearsFromNow _ => choice.calendar

def answerCall (choice : TlsChoice) (s : TlsWorld) (op : Call) : op.Reply × TlsWorld :=
  match choice.outcome with
  | .served => serveCall choice s op
  | .refused fault => (failedReply fault.error choice s op, s)
  | .lost => (failedReply .unavailable choice s op, (serveCall choice s op).2)

def disturbSecrets (choice : TlsChoice) (s : TlsWorld) : TlsWorld :=
  let t := choice.others s
  { t with
    revision := s.revision + 1
    secrets := fun name => if t.secrets name = s.secrets name then s.secrets name
      else (t.secrets name).map fun secret =>
        { secret with name := name, resourceVersion := some (s.revision + 1) } }

abbrev secretServer : Server secrets where
  State := TlsWorld
  Choice := TlsChoice
  disturb := disturbSecrets
  answer := answerCall

abbrev TlsEvent := Event secretServer
abbrev TlsRun := World secretServer

abbrev ask (op : Call) : TlsProg op.Reply := Program.ask (I := secrets) op

abbrev secretKind : Kind secrets where
  Object := Secret
  get := fun desired => ask (.getSecret desired.name)
  create := fun desired => ask (.createSecret desired)
  update := fun desired => ask (.updateSecret desired)
  calculatePatch := fun current desired => ask (.calculatePatch current desired)
  deleting := Secret.deleting
  merge := fun desired current =>
    { desired with annotations := desired.annotations.merge current.annotations }
  setVersion := fun desired current =>
    { desired with resourceVersion := current.resourceVersion }
  created := id

/-- `CreateSecret`. An object that is being deleted is left alone without an error. -/
def createSecret (secret : Secret) : TlsProg (Option Failure) := do
  let (_, err, _) ← secretKind.reconcilePresent secret
  return err

end OpenSearchOperator.Tls
