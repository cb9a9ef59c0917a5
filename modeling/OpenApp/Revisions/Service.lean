import OpenApp.Async.Interleave
import OpenApp.Forwarding.Policy
import OpenApp.Policy.Complete

/-!
# Configuration revisions

Every change of a setting gets a number and leaves its payload in a history. A rollback is one more
change, made of an older payload. The store writes the number and the history at once, and the policy
when the job it has put into the queue comes to its turn: jobs that are in the queue already come first.

The key is one of two, and all that is said here is about one key. The calls of a program are the pieces
of it that run without an `await` in between, so each of them reads the clock at most once.
-/

namespace OpenApp.Revisions

open Async Async.Prog Keyed Policy Script

/-- `restart` is written nowhere. -/
inductive ConfigEffect
  | immediate
  | newInstances
  | rebuild
  deriving DecidableEq

structure ConfigRevision where
  key : String
  revision : Nat
  updatedBy : String
  updatedAt : String
  effect : ConfigEffect
  effectiveAt : Option String
  deriving DecidableEq

structure ConfigRevisionSnapshot (δ : Type) extends ConfigRevision where
  payload : δ

/-- `effectiveAt` may be left out, and it may be null. The payload is that of the policy, whatever is given. -/
structure ConfigRevisionInput where
  expectedRevision : Option ℚ
  updatedBy : Option String
  effect : Option ConfigEffect
  effectiveAt : Option (Option String)

inductive RevisionFailure
  /-- `ConfigRevisionConflictError` -/
  | conflict
  /-- `ConfigRevisionServiceError` -/
  | service (code : String) (status : Nat)
  | policy (error : InstancePolicyError)
  | forwarding (error : Forwarding.ForwardingError)
  | other (message : String)

/-! ## The store -/

/-- What is known of a key: its name, the policy under it, and what of the policy is recorded. -/
structure Kind where
  Policy : Type
  Payload : Type
  key : String
  payloadOf : Policy → Payload
  /-- the policy while none is stored, after one is stored -/
  fallbackAfter : Option Policy → Policy → Option Policy

structure Store (K : Kind) where
  policy : Option K.Policy
  fallback : Option K.Policy
  revision : Option ConfigRevision
  /-- the latest first -/
  history : List (ConfigRevisionSnapshot K.Payload)

namespace Store

variable {K : Kind} (s : Store K)

/-- `current?.revision ?? 0` -/
def number : Nat :=
  s.revision.elim 0 (·.revision)

/-- `configHistory` keeps the last hundred. -/
def KEPT : Nat := 100

/-- `updatedBy?.trim() || "system"` -/
def author (updatedBy : Option String) : String :=
  let name := trim (updatedBy.getD "")
  if truthy name then name else "system"

/-- What a change records. -/
def snapshotOf (input : ConfigRevisionInput) (payload : K.Payload) (now : String) : ConfigRevisionSnapshot K.Payload where
  key := K.key
  revision := s.number + 1
  updatedBy := author input.updatedBy
  updatedAt := now
  effect := input.effect.getD .immediate
  effectiveAt := input.effectiveAt.getD (some now)
  payload := payload

def saveConfigRevision (input : ConfigRevisionInput) (payload : K.Payload) (now : String) :
    Except RevisionFailure (ConfigRevision × Store K) :=
  if input.expectedRevision.any fun expected => expected ≠ (s.number : ℚ) then .error .conflict
  else
    let snapshot := s.snapshotOf input payload now
    .ok (snapshot.toConfigRevision,
      { s with revision := some snapshot.toConfigRevision, history := (snapshot :: s.history).take KEPT })

/-- The rest of `saveProvisioningPolicy` and `upsertForwardingPolicy`. -/
def storePolicy (policy : K.Policy) : Store K :=
  { s with policy := some policy, fallback := K.fallbackAfter s.fallback policy }

/-- The policy that is in force. -/
def inForce : Option K.Policy :=
  s.policy <|> s.fallback

def getConfigRevisionSnapshot (revision : ℚ) : Option (ConfigRevisionSnapshot K.Payload) :=
  s.history.find? fun snapshot => snapshot.revision = revision

end Store

/-! ## Programs -/

inductive RevisionOp (K : Kind)
  /-- the first piece of a change, which makes its policy and its input with the clock -/
  | saveConfigRevision (change : String → K.Policy × ConfigRevisionInput)
  /-- the second piece of a change -/
  | storePolicy (policy : K.Policy)
  | getConfigRevision
  | getConfigRevisionSnapshot (revision : ℚ)
  | history (limit : ℚ)
  | getPolicy
  /-- what a manager that caches the policy says it is -/
  | cachedPolicy
  | supportsApp (appId : String)
  | validateInstancePolicy (policy : K.Policy)
  | recordAudit (actorUserId action : String) (rolledBackFrom revision : Nat)

abbrev RevisionOp.Answer {K : Kind} : RevisionOp K → Type
  | .saveConfigRevision _ => K.Policy × ConfigRevision
  | .storePolicy _ => Unit
  | .getConfigRevision => Option ConfigRevision
  | .getConfigRevisionSnapshot _ => Option (ConfigRevisionSnapshot K.Payload)
  | .history _ => Option ConfigRevision × List (ConfigRevisionSnapshot K.Payload)
  | .getPolicy => K.Policy
  | .cachedPolicy => K.Policy
  | .supportsApp _ => Bool
  | .validateInstancePolicy _ => Unit
  | .recordAudit _ _ _ _ => Unit

abbrev Task (K : Kind) (α : Type) := Prog (RevisionOp K) RevisionOp.Answer RevisionFailure α

abbrev Exchanges (K : Kind) := Trace (RevisionOp K) RevisionOp.Answer RevisionFailure

variable {K : Kind}

def await (o : RevisionOp K) : Task K o.Answer := Prog.await o

/-- `saveProvisioningPolicy` and `upsertForwardingPolicy` -/
def save (change : String → K.Policy × ConfigRevisionInput) : Task K K.Policy := do
  let saved ← await (.saveConfigRevision change)
  await (.storePolicy saved.1)
  pure saved.1

/-- What a service makes of a snapshot that is to be restored. -/
structure Service (K : Kind) where
  restore : ConfigRevisionSnapshot K.Payload → String → ℚ → Task K K.Policy
  /-- what `getPolicy` finds -/
  getPolicy : Store K → Except RevisionFailure K.Policy

def rollback (S : Service K) (targetRevision : ℚ) (actorUserId : String) (expectedRevision : Option ℚ) :
    Task K K.Policy := do
  throwIf (isSafeInteger targetRevision = false ∨ targetRevision < 1) (.service "invalid_target_revision" 400)
  match ← await (.getConfigRevisionSnapshot targetRevision) with
  | none => throw (.service "config_revision_not_found" 404)
  | some snapshot => do
    let current ← await .getConfigRevision
    S.restore snapshot actorUserId (expectedRevision.getD (current.elim 0 fun revision => (revision.revision : ℚ)))

/-- What follows when the older payload is stored again. -/
def reportRollback (snapshot : ConfigRevisionSnapshot K.Payload) (actorUserId action : String) : Task K Unit := do
  match ← await .getConfigRevision with
  | none => throw (.service "config_revision_missing" 500)
  | some revision => await (.recordAudit actorUserId action snapshot.revision revision.revision)

/-! ## The policy of the instances -/

abbrev instancePolicy : Kind where
  Policy := ProvisioningPolicy
  Payload := Json
  key := "instance-policy"
  payloadOf := policyJson
  fallbackAfter fallback policy := fallback <|> some policy

/-- `normalizeProvisioningPolicyWithFallback` -/
def normalizeProvisioningPolicyWithFallback (value : Json) (fallback : ProvisioningPolicy) :
    Except RevisionFailure ProvisioningPolicy :=
  (updateProvisioningPolicy fallback value []).mapError .policy

def getProvisioningPolicy (s : Store instancePolicy) : Except RevisionFailure ProvisioningPolicy :=
  match s.policy, s.fallback with
  | some policy, fallback => normalizeProvisioningPolicyWithFallback (policyJson policy) (fallback.getD policy)
  | none, some fallback => normalizeProvisioningPolicyWithFallback (policyJson fallback) fallback
  | none, none => .error (.other "provisioning_policy_not_initialized")

def sameStringMap (left right : Record String) : Bool :=
  left.rows.length = right.rows.length && left.rows.all fun entry => right.get entry.1 = some entry

def provisioningPolicyEffect (previous next : ProvisioningPolicy) : ConfigEffect :=
  if previous.resources.memory ≠ next.resources.memory ∨ previous.resources.cpus ≠ next.resources.cpus ∨
      previous.resources.pidsLimit ≠ next.resources.pidsLimit then .rebuild
  else if previous.defaultAppId ≠ next.defaultAppId ∨ sameStringMap previous.environment next.environment = false ∨
      sameStringMap previous.configFiles next.configFiles = false then .newInstances
  else .immediate

def isObject : Json → Bool
  | .object _ => true
  | _ => false

/-- The change `saveProvisioningPolicy` makes, with what its caller adds to the revision. -/
def provisioningChange (policy : ProvisioningPolicy) (expectedRevision : Option ℚ) (updatedBy : Option String)
    (effect : Option ConfigEffect) (effectiveAt : Option (Option String)) :
    instancePolicy.Policy × ConfigRevisionInput :=
  (policy, { expectedRevision := expectedRevision, updatedBy := updatedBy, effect := effect, effectiveAt := effectiveAt })

def rollbackInstancePolicy (snapshot : ConfigRevisionSnapshot instancePolicy.Payload) (actorUserId : String)
    (expectedRevision : ℚ) : Task instancePolicy instancePolicy.Policy := do
  throwIf (isObject snapshot.payload = false) (.service "invalid_instance_policy_snapshot" 400)
  let previous ← await (K := instancePolicy) .getPolicy
  let policy ← fromExcept (normalizeProvisioningPolicyWithFallback snapshot.payload previous)
  let supported ← await (K := instancePolicy) (.supportsApp policy.defaultAppId)
  throwIf (supported = false) (.service "unsupported_default_app" 400)
  await (K := instancePolicy) (.validateInstancePolicy policy)
  let effect := provisioningPolicyEffect previous policy
  let saved ← save (K := instancePolicy) fun now =>
    provisioningChange policy (some expectedRevision) (some actorUserId) (some effect)
      (some (if effect = .immediate then some now else none))
  reportRollback (K := instancePolicy) snapshot actorUserId "instance-policy.rollback"
  pure saved

def instancePolicyService : Service instancePolicy where
  restore := rollbackInstancePolicy
  getPolicy := getProvisioningPolicy

/-! ## The forwarding policy -/

/-- A payload that is no object is none. -/
abbrev forwarding : Kind where
  Policy := Forwarding.ForwardingPolicy
  Payload := Option Forwarding.ForwardingPolicyInput
  key := "forwarding:default"
  payloadOf policy := some {
    targetBaseUrl := some (.string policy.targetBaseUrl)
    allowedHosts := some (.array (policy.allowedHosts.map .string))
    enabled := some (.boolean policy.enabled) }
  fallbackAfter fallback _ := fallback

/-- The three fields, if they are what they have to be. -/
def forwardingPayload : Option Forwarding.ForwardingPolicyInput → Except RevisionFailure Forwarding.ForwardingPolicyInput
  | some ⟨some (.string targetBaseUrl), some (.array allowedHosts), some (.boolean enabled)⟩ =>
    if allowedHosts.all fun host => (Forwarding.stringOf host).isSome then
      .ok ⟨some (.string targetBaseUrl), some (.array allowedHosts), some (.boolean enabled)⟩
    else .error (.service "invalid_forwarding_snapshot" 400)
  | _ => .error (.service "invalid_forwarding_snapshot" 400)

/-- The change `upsertForwardingPolicy` makes. -/
def forwardingChange (policy : Forwarding.ForwardingPolicy) (expectedRevision : Option ℚ)
    (effectiveAt : Option (Option String)) (now : String) :
    forwarding.Policy × ConfigRevisionInput :=
  ({ policy with updatedAt := now },
    { expectedRevision := expectedRevision, updatedBy := some policy.updatedBy, effect := some .immediate,
      effectiveAt := effectiveAt })

/-- `ForwardingPolicyManager.update`. It goes on from the policy that is cached, and reads the revision in the end. -/
def updateForwarding (settings : Forwarding.Settings) (input : Forwarding.ForwardingPolicyInput) (actorUserId : String)
    (expectedRevision : Option ℚ) : Task forwarding forwarding.Policy := do
  let current ← await (K := forwarding) .cachedPolicy
  let next ← fromExcept ((Forwarding.nextPolicy settings input actorUserId current).mapError RevisionFailure.forwarding)
  let updated ← save (K := forwarding) (forwardingChange next expectedRevision none)
  let _ ← await (K := forwarding) .getConfigRevision
  pure updated

def rollbackForwarding (settings : Forwarding.Settings) (snapshot : ConfigRevisionSnapshot forwarding.Payload)
    (actorUserId : String) (expectedRevision : ℚ) : Task forwarding forwarding.Policy := do
  let payload ← fromExcept (forwardingPayload snapshot.payload)
  let updated ← updateForwarding settings payload actorUserId (some expectedRevision)
  reportRollback (K := forwarding) snapshot actorUserId "forwarding.rollback"
  pure updated

def forwardingService (settings : Forwarding.Settings) : Service forwarding where
  restore := rollbackForwarding settings
  getPolicy s := .ok (s.policy.getD (Forwarding.defaultPolicy settings))

/-! ## The world and its threads -/

inductive RevisionChoice (K : Kind)
  | go
  | clock (now : String)
  | fails (error : RevisionFailure)
  | flag (value : Bool)
  /-- what a manager has cached, whatever it is -/
  | cached (policy : K.Policy)

/-- `clampLimit`; a number that is not finite is no number here. -/
def clampLimit (limit : ℚ) : Nat :=
  (max 1 (min 500 limit.floor)).toNat

def Store.perform (S : Service K) (s : Store K) :
    (o : RevisionOp K) → RevisionChoice K → Option (Except RevisionFailure o.Answer × Store K)
  | .saveConfigRevision change, .clock now =>
    match s.saveConfigRevision (change now).2 (K.payloadOf (change now).1) now with
    | .ok (revision, s') => some (.ok ((change now).1, revision), s')
    | .error error => some (.error error, s)
  | .storePolicy policy, .go => some (.ok (), s.storePolicy policy)
  | .getConfigRevision, .go => some (.ok s.revision, s)
  | .getConfigRevisionSnapshot revision, .go => some (.ok (s.getConfigRevisionSnapshot revision), s)
  | .history limit, .go => some (.ok (s.revision, s.history.take (clampLimit limit)), s)
  | .getPolicy, .go => some (S.getPolicy s, s)
  | .cachedPolicy, .cached policy => some (.ok policy, s)
  | .cachedPolicy, .fails error => some (.error error, s)
  | .supportsApp _, .flag value => some (.ok value, s)
  | .supportsApp _, .fails error => some (.error error, s)
  | .validateInstancePolicy _, .go => some (.ok (), s)
  | .validateInstancePolicy _, .fails error => some (.error error, s)
  | .recordAudit _ _ _ _, .go => some (.ok (), s)
  | .recordAudit _ _ _ _, .fails error => some (.error error, s)
  | _, _ => none

inductive RevisionCall (K : Kind)
  /-- `saveProvisioningPolicy` or `upsertForwardingPolicy`, from wherever -/
  | save (change : String → K.Policy × ConfigRevisionInput)
  | rollback (targetRevision : ℚ) (actorUserId : String) (expectedRevision : Option ℚ)
  | history (limit : ℚ)
  | getPolicy

def RevisionCall.body (S : Service K) : RevisionCall K → Task K (RevisionCall K ⊕ Option K.Policy)
  | .save change => do
    let policy ← Revisions.save change
    pure (.inr (some policy))
  | .rollback targetRevision actorUserId expectedRevision => do
    let policy ← Revisions.rollback S targetRevision actorUserId expectedRevision
    pure (.inr (some policy))
  | .history limit => do
    let _ ← await (.history limit)
    pure (.inr none)
  | .getPolicy => do
    let policy ← await .getPolicy
    pure (.inr (some policy))

def revisionSystem (S : Service K) :
    System (RevisionOp K) RevisionOp.Answer RevisionFailure (Store K) (RevisionChoice K) (RevisionCall K) (Option K.Policy) where
  perform := Store.perform S
  body := RevisionCall.body S

end OpenApp.Revisions
