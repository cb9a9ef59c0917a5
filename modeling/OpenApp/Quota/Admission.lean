import OpenApp.Number
import OpenApp.Script

/-!
# Quota admission

A reservation counts in every scope that has an entry in the policy: the global one, and those of its
tenant, its user and its provider. A request is admitted when no dimension of no such scope would go
beyond its limit. The operations run one after the other, each without an interruption.
-/

namespace OpenApp.Quota

open Script

inductive QuotaDimension
  | instances | runningInstances | cpuMillis | memoryBytes | pids | volumeBytes | concurrentBuilds
  | rolloutConcurrency
  deriving DecidableEq

inductive QuotaDesiredState
  | running | stopped
  deriving DecidableEq

/-- What a field of a request or of a policy may hold where a number is wanted. -/
inductive Numeric
  | integer (value : Int)
  /-- a fraction, no finite number, or no number -/
  | other

abbrev QuotaLimits (α : Type) := QuotaDimension → Option α

/-- The policy as it is given; a record is the list of its entries. -/
structure QuotaPolicyInput where
  global : Option (QuotaLimits Numeric)
  tenants : List (String × QuotaLimits Numeric)
  users : List (String × QuotaLimits Numeric)
  providers : List (String × QuotaLimits Numeric)

structure QuotaPolicy where
  global : Option (QuotaLimits Nat)
  tenants : Map (QuotaLimits Nat)
  users : Map (QuotaLimits Nat)
  providers : Map (QuotaLimits Nat)

/-- A request as it is given; `none` in a place of a text or a state is any other value. -/
structure QuotaRequestInput where
  reservationId : Option String
  userId : Option String
  /-- left out, or a text or another value -/
  tenantId : Option (Option String)
  providerId : Option String
  desiredState : Option QuotaDesiredState
  cpuMillis : Numeric
  memoryBytes : Numeric
  pidsLimit : Numeric
  volumeBytes : Option Numeric
  buildSlots : Option Numeric
  rolloutSlots : Option Numeric

structure QuotaReservationRequest where
  reservationId : String
  userId : String
  providerId : String
  desiredState : QuotaDesiredState
  cpuMillis : Nat
  memoryBytes : Nat
  pidsLimit : Nat
  tenantId : Option String
  volumeBytes : Option Nat
  buildSlots : Option Nat
  rolloutSlots : Option Nat
  deriving DecidableEq

structure QuotaReservation where
  id : String
  request : QuotaReservationRequest
  reservedAt : String
  deriving DecidableEq

inductive QuotaErrorCode
  | quotaExceeded | quotaUnavailable | quotaReservationConflict | quotaReservationNotFound
  deriving DecidableEq

structure QuotaAdmissionError where
  code : QuotaErrorCode
  dimension : Option QuotaDimension := none
  scope : Option String := none
  deriving DecidableEq

def QuotaAdmissionError.retryable (e : QuotaAdmissionError) : Bool :=
  e.code = .quotaUnavailable

def QuotaAdmissionError.status (e : QuotaAdmissionError) : Nat :=
  if e.retryable then 503 else 409

inductive QuotaDecision
  | admitted (reservationId : String)
  | denied (reservationId : String) (dimension : QuotaDimension) (scope : String)
  | unavailable (reservationId : String)
  deriving DecidableEq

def DIMENSIONS : List QuotaDimension :=
  [.instances, .runningInstances, .cpuMillis, .memoryBytes, .pids, .volumeBytes, .concurrentBuilds,
    .rolloutConcurrency]

/-! ## Normal forms -/

def conflict : QuotaAdmissionError where
  code := .quotaReservationConflict

/-- A text without control characters, without white space around it, of at most 256 units. -/
def identifier (value : Option String) : Option String := do
  let normalized := trim (← value)
  if 0 < utf16Length normalized ∧ utf16Length normalized ≤ 256 ∧
      normalized.toList.all (fun c => 0x1f < c.toNat && c.toNat ≠ 0x7f) then
    some normalized
  else none

def positiveInteger : Numeric → Except QuotaAdmissionError Nat
  | .integer value => if 0 < value ∧ value ≤ Number.maxSafeInteger then .ok value.toNat else .error conflict
  | .other => .error conflict

def nonNegativeInteger : Numeric → Except QuotaAdmissionError Nat
  | .integer value => if 0 ≤ value ∧ value ≤ Number.maxSafeInteger then .ok value.toNat else .error conflict
  | .other => .error conflict

def optional {α β : Type} (f : α → Except QuotaAdmissionError β) : Option α → Except QuotaAdmissionError (Option β)
  | none => .ok none
  | some a => (f a).map some

def required {α : Type} : Option α → Except QuotaAdmissionError α
  | none => .error conflict
  | some a => .ok a

def normalizeRequest (request : QuotaRequestInput) : Except QuotaAdmissionError QuotaReservationRequest := do
  let reservationId ← required (identifier request.reservationId)
  let userId ← required (identifier request.userId)
  let providerId ← required (identifier request.providerId)
  let desiredState ← required request.desiredState
  let cpuMillis ← positiveInteger request.cpuMillis
  let memoryBytes ← positiveInteger request.memoryBytes
  let pidsLimit ← positiveInteger request.pidsLimit
  let tenantId ← optional (fun tenantId => required (identifier tenantId)) request.tenantId
  let volumeBytes ← optional nonNegativeInteger request.volumeBytes
  let buildSlots ← optional nonNegativeInteger request.buildSlots
  let rolloutSlots ← optional nonNegativeInteger request.rolloutSlots
  return {
    reservationId := reservationId
    userId := userId
    providerId := providerId
    desiredState := desiredState
    cpuMillis := cpuMillis
    memoryBytes := memoryBytes
    pidsLimit := pidsLimit
    tenantId := tenantId
    volumeBytes := volumeBytes
    buildSlots := buildSlots
    rolloutSlots := rolloutSlots }

/-- The limits of the dimensions, each a safe integer. -/
def normalizeLimits (limits : QuotaLimits Numeric) : Except QuotaAdmissionError (QuotaLimits Nat) := do
  let instances ← optional nonNegativeInteger (limits .instances)
  let runningInstances ← optional nonNegativeInteger (limits .runningInstances)
  let cpuMillis ← optional nonNegativeInteger (limits .cpuMillis)
  let memoryBytes ← optional nonNegativeInteger (limits .memoryBytes)
  let pids ← optional nonNegativeInteger (limits .pids)
  let volumeBytes ← optional nonNegativeInteger (limits .volumeBytes)
  let concurrentBuilds ← optional nonNegativeInteger (limits .concurrentBuilds)
  let rolloutConcurrency ← optional nonNegativeInteger (limits .rolloutConcurrency)
  return fun
    | .instances => instances
    | .runningInstances => runningInstances
    | .cpuMillis => cpuMillis
    | .memoryBytes => memoryBytes
    | .pids => pids
    | .volumeBytes => volumeBytes
    | .concurrentBuilds => concurrentBuilds
    | .rolloutConcurrency => rolloutConcurrency

/-- Of two keys that are the same but for white space the later one stays. -/
def normalizeMap (values : List (String × QuotaLimits Numeric)) : Except QuotaAdmissionError (Map (QuotaLimits Nat)) :=
  values.foldlM (fun result entry => do
    let key ← required (identifier (some entry.1))
    let limits ← normalizeLimits entry.2
    return result.set key limits) ⟨[]⟩

def normalizePolicy (policy : QuotaPolicyInput) : Except QuotaAdmissionError QuotaPolicy := do
  let global ← optional normalizeLimits policy.global
  let tenants ← normalizeMap policy.tenants
  let users ← normalizeMap policy.users
  let providers ← normalizeMap policy.providers
  return {
    global := global
    tenants := tenants
    users := users
    providers := providers }

/-! ## Scopes and what counts in them -/

structure QuotaScope where
  key : String
  limits : QuotaLimits Nat

/-- A name every record has, such as `constructor`, would give one more scope, without limits; it is left out. -/
def scopesFor (request : QuotaReservationRequest) (policy : QuotaPolicy) : List QuotaScope :=
  (policy.global.map fun limits => (⟨"global", limits⟩ : QuotaScope)).toList ++
  (request.tenantId.bind fun tenantId =>
    (policy.tenants.get tenantId).map fun limits => (⟨"tenant:" ++ tenantId, limits⟩ : QuotaScope)).toList ++
  ((policy.users.get request.userId).map fun limits => (⟨"user:" ++ request.userId, limits⟩ : QuotaScope)).toList ++
  ((policy.providers.get request.providerId).map fun limits =>
    (⟨"provider:" ++ request.providerId, limits⟩ : QuotaScope)).toList

def contributionFor (request : QuotaReservationRequest) : QuotaDimension → Nat
  | .instances => 1
  | .runningInstances => if request.desiredState = .running then 1 else 0
  | .cpuMillis => request.cpuMillis
  | .memoryBytes => request.memoryBytes
  | .pids => request.pidsLimit
  | .volumeBytes => request.volumeBytes.getD 0
  | .concurrentBuilds => request.buildSlots.getD 0
  | .rolloutConcurrency => request.rolloutSlots.getD 0

/-! ## The ledger -/

structure Admission where
  available : Bool
  reservations : List QuotaReservationRequest

namespace Admission

variable (policy : QuotaPolicy) (s : Admission)

/-- `#reservations.get` -/
def get (reservationId : String) : Option QuotaReservationRequest :=
  s.reservations.find? fun r => r.reservationId = reservationId

/-- `#reservations.set`: a reservation that is there keeps its place. -/
def set (request : QuotaReservationRequest) : Admission :=
  if (s.get request.reservationId).isSome then
    { s with reservations := s.reservations.map fun r => if r.reservationId = request.reservationId then request else r }
  else { s with reservations := s.reservations ++ [request] }

/-- `#reservations.delete` -/
def delete (reservationId : String) : Admission :=
  { s with reservations := s.reservations.filter fun r => r.reservationId ≠ reservationId }

def usageFor (scopeKey : String) (excludingReservationId : Option String) (dimension : QuotaDimension) : Nat :=
  Number.sum <| (s.reservations.filter fun r =>
    some r.reservationId ≠ excludingReservationId ∧ (scopesFor r policy).any (·.key = scopeKey)).map
      (contributionFor · dimension)

def findDenial (request : QuotaReservationRequest) (excludingReservationId : Option String) :
    Option (QuotaDimension × String) :=
  (scopesFor request policy).findSome? fun scope =>
    DIMENSIONS.findSome? fun dimension =>
      (scope.limits dimension).bind fun limit =>
        if limit <
            Number.add (s.usageFor policy scope.key excludingReservationId dimension)
              (contributionFor request dimension) then
          some (dimension, scope.key)
        else none

def admits (input : QuotaRequestInput) : Except QuotaAdmissionError QuotaDecision :=
  match normalizeRequest input with
  | .error e => .error e
  | .ok normalized =>
    match s.get normalized.reservationId with
    | some existing =>
      if existing = normalized then .ok (.admitted normalized.reservationId)
      else .error conflict
    | none =>
      if s.available = false then .ok (.unavailable normalized.reservationId)
      else
        match s.findDenial policy normalized none with
        | some (dimension, scope) => .ok (.denied normalized.reservationId dimension scope)
        | none => .ok (.admitted normalized.reservationId)

def reservationSnapshot (request : QuotaReservationRequest) (now : String) : QuotaReservation where
  id := request.reservationId
  request := request
  reservedAt := now

def exceeded (denial : QuotaDimension × String) : QuotaAdmissionError where
  code := .quotaExceeded
  dimension := some denial.1
  scope := some denial.2

def unavailable : QuotaAdmissionError where
  code := .quotaUnavailable

/-- What the call gives, and the ledger it leaves, also where it throws. -/
def reserve (input : QuotaRequestInput) (now : String) : Except QuotaAdmissionError QuotaReservation × Admission :=
  match normalizeRequest input with
  | .error e => (.error e, s)
  | .ok normalized =>
    match s.get normalized.reservationId with
    | some existing =>
      if existing = normalized then (.ok (reservationSnapshot existing now), s)
      else (.error conflict, s)
    | none =>
      if s.available = false then (.error unavailable, s)
      else
        match s.findDenial policy normalized none with
        | some denial => (.error (exceeded denial), s)
        | none => (.ok (reservationSnapshot normalized now), s.set normalized)

def transition (reservationId : String) (desiredState : QuotaDesiredState) :
    Except QuotaAdmissionError Bool × Admission :=
  match s.get reservationId with
  | none => (.ok false, s)
  | some current =>
    if current.desiredState = desiredState then (.ok true, s)
    else if s.available = false then (.error unavailable, s)
    else
      let next := { current with desiredState := desiredState }
      match s.findDenial policy next (some reservationId) with
      | some denial => (.error (exceeded denial), s)
      | none => (.ok true, s.set next)

def release (reservationId : String) : Bool × Admission :=
  ((s.get reservationId).isSome, s.delete reservationId)

def setAvailable (available : Bool) : Admission :=
  { s with available := available }

end Admission

/-! ## Calls -/

inductive QuotaCall
  | admits (request : QuotaRequestInput)
  | reserve (request : QuotaRequestInput) (now : String)
  | transition (reservationId : String) (desiredState : QuotaDesiredState)
  | release (reservationId : String)
  | setAvailable (available : Bool)

inductive QuotaAnswer
  | decision (decision : QuotaDecision)
  | reservation (reservation : QuotaReservation)
  | done (found : Bool)
  | void
  | threw (error : QuotaAdmissionError)
  deriving DecidableEq

def QuotaAnswer.of {α : Type} (f : α → QuotaAnswer) : Except QuotaAdmissionError α → QuotaAnswer
  | .ok a => f a
  | .error e => .threw e

def Admission.call (policy : QuotaPolicy) (s : Admission) : QuotaCall → QuotaAnswer × Admission
  | .admits request => (.of .decision (s.admits policy request), s)
  | .reserve request now => ((s.reserve policy request now).map (.of .reservation) id)
  | .transition reservationId desiredState => ((s.transition policy reservationId desiredState).map (.of .done) id)
  | .release reservationId => ((s.release reservationId).map .done id)
  | .setAvailable available => (.void, s.setAvailable available)

def Admission.new (available : Bool) : Admission where
  available := available
  reservations := []

/-- The ledger after these calls. -/
def Admission.after (policy : QuotaPolicy) (s : Admission) (calls : List QuotaCall) : Admission :=
  calls.foldl (fun s call => (s.call policy call).2) s

end OpenApp.Quota
