import OpenApp.Catalog.Types

/-!
# Rollouts

A rollout is a batch of items, one for each instance it upgrades. The target of an item is fixed when
the batch is created; an attempt to reach it is known by its id, which is a fencing token and the id of
the transaction of the provider at once.

Every timestamp is written by `toISOString`, and two such texts compare as the times do. So a timestamp
is a number of milliseconds here.
-/

namespace OpenApp.Rollout

abbrev Timestamp := Int

inductive UpgradeRolloutStatus
  | running | succeeded | partialFailed | cancelled | needsAttention
  deriving DecidableEq

inductive UpgradeRolloutTaskKind
  | imageUpgrade | rebuildSameImage | applyResourcePolicy | instanceRecovery
  deriving DecidableEq

inductive UpgradeRolloutItemStatus
  | queued | assessing | waitingForIdle | draining | rebuilding | verifying | awaitingFirstStart
  | succeeded | superseded | failed | cancelled | needsAttention
  deriving DecidableEq

/-- The instances of a request in order, and what it asks for. -/
structure RequestFingerprint where
  instanceIds : List String
  taskKind : UpgradeRolloutTaskKind
  useLatestVersion : Bool
  deriving DecidableEq

structure UpgradeRollout where
  id : String
  revision : Nat
  actorUserId : String
  status : UpgradeRolloutStatus
  taskKind : UpgradeRolloutTaskKind
  useLatestVersion : Bool
  requested : Nat
  completed : Nat
  succeeded : Nat
  /-- left out in a new rollout -/
  superseded : Option Nat
  failed : Nat
  waiting : Nat
  upgrading : Nat
  needsAttention : Nat
  idempotencyKey : Option String
  requestFingerprint : RequestFingerprint
  createdAt : Timestamp
  updatedAt : Timestamp
  finishedAt : Option Timestamp
  deriving DecidableEq

inductive CapabilityStatus
  | supported | unsupported | unavailable
  deriving DecidableEq

/-- What the provider tells of a container that failed. -/
structure ContainerFailureDiagnostics where
  containerRole : String
  exitCode : Option Int
  oomKilled : Option Bool
  health : Option String
  memoryLimit : Option String
  memorySwapLimit : Option String
  cpus : Option String
  pidsLimit : Option Nat
  logTail : Option String
  deriving DecidableEq

structure UpgradeRolloutDiagnostics where
  capturedAt : Timestamp
  error : Option String
  capabilityStatus : Option CapabilityStatus
  captured : Option ContainerFailureDiagnostics
  /-- where nothing was captured -/
  logTail : Option String
  deriving DecidableEq

structure UpgradeRolloutItem where
  rolloutId : String
  instanceId : String
  position : Nat
  revision : Nat
  userId : String
  appId : String
  sourceStatus : ContainerStatus
  desiredState : WorkspaceDesiredState
  sourceAppVersionId : Option String
  sourceImageArtifactId : Option String
  sourceImageReference : Option String
  targetAppVersionId : Option String
  targetImageArtifactId : Option String
  targetImageReference : String
  targetRuntimeContract : Option String
  launchProfile : ContainerLaunchProfile
  recovery : Bool
  diagnostics : Option UpgradeRolloutDiagnostics
  status : UpgradeRolloutItemStatus
  blocker : Option String
  error : Option String
  forceRequested : Bool
  attemptId : Option String
  attemptCount : Nat
  nextAttemptAt : Option Timestamp
  lastCheckedAt : Option Timestamp
  startedAt : Option Timestamp
  finishedAt : Option Timestamp
  createdAt : Timestamp
  updatedAt : Timestamp
  deriving DecidableEq

structure UpgradeRolloutDetail where
  rollout : UpgradeRollout
  items : List UpgradeRolloutItem
  deriving DecidableEq

def UpgradeRolloutDetail.find (detail : UpgradeRolloutDetail) (instanceId : String) : Option UpgradeRolloutItem :=
  detail.items.find? fun item => item.instanceId = instanceId

/-! ## What the statuses say -/

namespace UpgradeRolloutItemStatus

/-- `terminalItem` -/
def terminal : UpgradeRolloutItemStatus → Bool
  | .succeeded | .superseded | .failed | .cancelled | .needsAttention => true
  | _ => false

/-- `actionableItem` -/
def actionable : UpgradeRolloutItemStatus → Bool
  | .queued | .waitingForIdle | .failed | .needsAttention => true
  | _ => false

/-- An attempt is under way. -/
def inTransition : UpgradeRolloutItemStatus → Bool
  | .assessing | .draining | .rebuilding | .verifying => true
  | _ => false

end UpgradeRolloutItemStatus

/-- What an upgrade finds of an instance: the record of its Workspace. -/
structure Instance where
  id : String
  userId : String
  appId : String
  status : ContainerStatus
  appVersionId : Option String
  imageArtifactId : Option String
  imageReference : Option String
  deriving DecidableEq

/-- The versions and the image reference are compared; the artifact only where the batch caught one. -/
def matchesCatalogTarget (inst : Instance) (item : UpgradeRolloutItem) : Bool :=
  inst.appVersionId = item.targetAppVersionId ∧
    (item.targetImageArtifactId = none ∨ inst.imageArtifactId = item.targetImageArtifactId) ∧
    inst.imageReference = some item.targetImageReference

def matchesTarget (inst : Instance) (item : UpgradeRolloutItem) : Bool :=
  matchesCatalogTarget inst item &&
    match item.desiredState with
    | .running => inst.status = .running
    | .stopped => inst.status = .stopped

/-- An item whose rollout kept no proof of the first start. -/
def UpgradeRolloutItem.proofMissing (item : UpgradeRolloutItem) : Bool :=
  item.status = .needsAttention ∧ item.blocker = some "candidate_first_start_proof_missing"

/-! ## Activity leases and drains -/

inductive InstanceActivityKind
  | http | websocket
  deriving DecidableEq

structure InstanceActivityLease where
  id : String
  instanceId : String
  kind : InstanceActivityKind
  openedAt : Timestamp
  heartbeatAt : Timestamp
  lastActivityAt : Timestamp
  deriving DecidableEq

inductive InstanceDrainMode
  | graceful | force
  deriving DecidableEq

structure InstanceDrainRequest where
  instanceId : String
  rolloutId : String
  attemptId : String
  at' : Timestamp
  expiresAt : Timestamp
  heartbeatCutoff : Timestamp
  websocketActivityCutoff : Timestamp
  mode : InstanceDrainMode
  deriving DecidableEq

/-- The instance is the key the store keeps the drain under. -/
structure InstanceUpgradeDrain where
  instanceId : String
  rolloutId : String
  attemptId : String
  expiresAt : Timestamp
  deriving DecidableEq

def InstanceUpgradeDrain.ownedBy (drain : InstanceUpgradeDrain) (rolloutId attemptId : String) : Bool :=
  drain.rolloutId = rolloutId ∧ drain.attemptId = attemptId

def InstanceDrainRequest.drain (request : InstanceDrainRequest) : InstanceUpgradeDrain where
  instanceId := request.instanceId
  rolloutId := request.rolloutId
  attemptId := request.attemptId
  expiresAt := request.expiresAt

end OpenApp.Rollout
