import OpenSearchOperator.Data.Timestamp
import OpenSearchOperator.Reconcilers.RollingRestart

/-! The reconciler that applies the security configuration with a job. It keeps the number
of retries of a failed job, and the time of the last one, as texts in the conditions of its
entry in the cluster status. -/

namespace OpenSearchOperator.Reconcilers.SecurityConfig

open Api Data Effects
open Reconcilers.RollingRestart (setComponentStatus)

def securityConfigComponentName : String := "Securityconfig"

def securityConfigStatusReady : String := "Ready"
def securityConfigStatusRunning : String := "Running"
def securityConfigStatusFailed : String := "Failed"

def securityConfigRetryConditionPrefix : String := "retry:"
def securityConfigLastRetryConditionPrefix : String := "lastRetry:"

def securityConfigInitialRetryDelay : Int := seconds 30
def securityConfigMaxRetryDelay : Int := seconds (15 * 60)

def jobFailed : String := "securityconfig update job failed"

/-- The annotation with the checksum of the configuration, and the counts of the pods. -/
structure Job where
  checksum : Option String
  succeeded : Nat
  active : Nat
  failed : Nat
  deleting : Bool
  deriving DecidableEq, Repr

/-- `getInstance` is the read of the cluster at the start of a pass, and
`updateComponentStatus` the change of one entry of the status that is stored by then. -/
inductive Call where
  | getInstance
  | now
  | getJob
  | deleteJob
  | createJob (job : Job)
  | updateComponentStatus (status : ComponentStatus)
  deriving DecidableEq

@[reducible] def Call.Payload : Call → Type
  | .getInstance => List ComponentStatus
  | .getJob => Job
  | _ => Unit

@[reducible] def Call.Reply : Call → Type
  | .now => Int
  | op => Except ApiError op.Payload

abbrev securityConfig : Interface where
  Call := Call
  Reply := Call.Reply

abbrev ConfigProg (α : Type) := Program securityConfig α

structure ConfigWorld where
  clock : Int
  componentsStatus : List ComponentStatus
  job : Option Job
  deriving DecidableEq

section Server

structure ConfigChoice where
  others : ConfigWorld → ConfigWorld := id
  outcome : Outcome := .served
  lingers : Bool := false

/-- The pods of a job go before the job; until then it `lingers`. A job that is there is
not created. -/
def serveCall (lingers : Bool) (s : ConfigWorld) : (op : Call) → op.Reply × ConfigWorld
  | .getInstance => (.ok s.componentsStatus, s)
  | .now => (s.clock, s)
  | .getJob => (found s.job, s)
  | .deleteJob =>
    match s.job with
    | none => (.error .notFound, s)
    | some job => (.ok (), { s with
        job := if lingers then some { job with deleting := true } else none })
  | .createJob job =>
    match s.job with
    | none => (.ok (), { s with job := some job })
    | some _ => (.ok (), s)
  | .updateComponentStatus status =>
    (.ok (), { s with componentsStatus := setComponentStatus status s.componentsStatus })

def failedReply (err : ApiError) (clock : Int) : (op : Call) → op.Reply
  | .now => clock
  | .getInstance => .error err
  | .getJob => .error err
  | .deleteJob => .error err
  | .createJob _ => .error err
  | .updateComponentStatus _ => .error err

def answerCall (choice : ConfigChoice) (s : ConfigWorld) (op : Call) : op.Reply × ConfigWorld :=
  match choice.outcome with
  | .served => serveCall choice.lingers s op
  | .refused fault => (failedReply fault.error s.clock op, s)
  | .lost => (failedReply .unavailable s.clock op, (serveCall choice.lingers s op).2)

abbrev configServer : Server securityConfig where
  State := ConfigWorld
  Choice := ConfigChoice
  disturb choice := choice.others
  answer := answerCall

abbrev ConfigEvent := Event configServer
abbrev ConfigRun := World configServer

end Server

abbrev ask (op : Call) : ConfigProg op.Reply := Program.ask (I := securityConfig) op

section Conditions

def trimmed (leading text : String) : Option String :=
  (text.toList.dropPrefix? leading.toList).map String.ofList

def atoi (text : String) : Option Int :=
  let (negative, digits) := match text.toList with
    | '-' :: digits => (true, digits)
    | '+' :: digits => (false, digits)
    | digits => (false, digits)
  if digits = [] then none
  else do
    let value ← number digits
    if negative then (if value ≤ 2 ^ 63 then some (-value) else none)
    else (if value < 2 ^ 63 then some value else none)

/-- The zero value of `time.Time`, the first instant of the year 1. -/
def zeroTime : Int := seconds (-62135596800)

def securityConfigComponentStatus (components : List ComponentStatus) : Option ComponentStatus :=
  components.find? fun entry => entry.component = securityConfigComponentName

def conditionsOf (components : List ComponentStatus) : List String :=
  ((securityConfigComponentStatus components).map ComponentStatus.conditions).getD []

def securityConfigRetryCount (components : List ComponentStatus) : Int :=
  ((conditionsOf components).findSome? fun condition =>
    (trimmed securityConfigRetryConditionPrefix condition).bind atoi).getD 0

def securityConfigLastRetry (components : List ComponentStatus) : Int :=
  ((conditionsOf components).findSome? fun condition =>
    (trimmed securityConfigLastRetryConditionPrefix condition).bind fun text =>
      (parseRFC3339 text).map seconds).getD zeroTime

def securityConfigRetryConditions (retryCount lastRetry : Int) : List String :=
  (securityConfigRetryConditionPrefix ++ toString retryCount) ::
    if lastRetry = zeroTime then []
    else [securityConfigLastRetryConditionPrefix ++ formatRFC3339 (lastRetry / 1000000000)]

/-- `currentSecurityConfigRetryConditions`: nothing if there is no entry. -/
abbrev currentSecurityConfigRetryConditions := conditionsOf

def doubled : Nat → Int → Int
  | 0, delay => delay
  | times + 1, delay =>
    if delay * 2 ≥ securityConfigMaxRetryDelay then securityConfigMaxRetryDelay
    else doubled times (delay * 2)

def securityConfigRetryDelay (retryCount : Int) : Int :=
  doubled retryCount.toNat securityConfigInitialRetryDelay

end Conditions

section Source

def updateSecurityConfigComponentStatus (status description : String) (conditions : List String) :
    ConfigProg (Option ApiError) := do
  match ← ask (.updateComponentStatus
    ⟨securityConfigComponentName, status, description, conditions⟩) with
  | .error err => return some err
  | .ok _ => return none

inductive Existing where
  | failed (err : ApiError)
  | done (result : Result)
  | recreate
  deriving DecidableEq, Repr

def settle (update : Option ApiError) (next : Existing) : Existing :=
  match update with
  | some err => .failed err
  | none => next

def handleFailedJob (components : List ComponentStatus) : ConfigProg Existing := do
  let retryCount := securityConfigRetryCount components
  let delay := securityConfigRetryDelay retryCount
  let lastRetry := securityConfigLastRetry components
  let waits ← if lastRetry = zeroTime then pure false
    else do
      let since ← ask .now
      pure (decide (since - lastRetry < delay))
  if waits then
    let since ← ask .now
    let remaining := delay - (since - lastRetry)
    let err ← updateSecurityConfigComponentStatus securityConfigStatusFailed jobFailed
      (securityConfigRetryConditions retryCount lastRetry)
    return settle err (.done { requeue := true, requeueAfter := remaining })
  else
    let now ← ask .now
    let err ← updateSecurityConfigComponentStatus securityConfigStatusFailed jobFailed
      (securityConfigRetryConditions (retryCount + 1) now)
    return settle err .recreate

def handleExistingSecurityConfigJob (components : List ComponentStatus) (job : Job) :
    ConfigProg Existing := do
  if job.succeeded > 0 then
    let err ← updateSecurityConfigComponentStatus securityConfigStatusReady "" []
    return settle err (.done {})
  else if job.active > 0 then
    let err ← updateSecurityConfigComponentStatus securityConfigStatusRunning "" []
    return settle err (.done { requeue := true, requeueAfter := seconds 30 })
  else if job.failed > 0 then handleFailedJob components
  else
    let err ← updateSecurityConfigComponentStatus securityConfigStatusRunning "" []
    return settle err (.done { requeue := true, requeueAfter := seconds 10 })

def newJob (checksumval : String) : Job := ⟨some checksumval, 0, 0, 0, false⟩

/-- `Reconcile` from the update of the status before the job is created on. -/
def startJob (conditions : List String) (checksumval : String) :
    ConfigProg (Result × Option ApiError) := do
  match ← updateSecurityConfigComponentStatus securityConfigStatusRunning "" conditions with
  | some err => return ({}, some err)
  | none =>
    match ← ask (.createJob (newJob checksumval)) with
    | .error err => return ({}, some err)
    | .ok _ => return ({}, none)

def replaceJob (conditions : List String) (checksumval : String) :
    ConfigProg (Result × Option ApiError) := do
  match ← ask .deleteJob with
  | .error err => return ({}, some err)
  | .ok _ => startJob conditions checksumval

/-- `Reconcile` once the checksum of the configuration is known. An error of the read of
the job is taken for a job that is not there. -/
def reconcile (components : List ComponentStatus) (checksumval : String) :
    ConfigProg (Result × Option ApiError) := do
  match ← ask .getJob with
  | .error _ => startJob (currentSecurityConfigRetryConditions components) checksumval
  | .ok job =>
    if job.checksum = some checksumval then
      match ← handleExistingSecurityConfigJob components job with
      | .failed err => return ({}, some err)
      | .done result => return (result, none)
      | .recreate => replaceJob (currentSecurityConfigRetryConditions components) checksumval
    else replaceJob (securityConfigRetryConditions 0 zeroTime) checksumval

/-- A pass of the cluster controller, as far as this reconciler is concerned: it works on
the status that was read at the start. -/
def securityConfigPass (checksumval : String) : ConfigProg (Result × Option ApiError) := do
  match ← ask .getInstance with
  | .error err => return ({}, some err)
  | .ok components => reconcile components checksumval

end Source

end OpenSearchOperator.Reconcilers.SecurityConfig
