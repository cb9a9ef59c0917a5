import OpenApp.Rollout.Ports

/-!
# The rollout service

The service creates rollouts and lets an operator act on their items. Whoever writes an item
afterwards refreshes the summary of its rollout.
-/

namespace OpenApp.Rollout

open Async Async.Prog

def storeCasRetryLimit : Nat := 5

/-! ## The summary of a rollout -/

def countOf (items : List UpgradeRolloutItem) (status : UpgradeRolloutItemStatus) : Nat :=
  items.countP fun item => item.status = status

/-- The rollout with the summary of these items. -/
def summarize (rollout : UpgradeRollout) (items : List UpgradeRolloutItem) (updatedAt : Timestamp) : UpgradeRollout :=
  let succeeded := countOf items .succeeded
  let failed := countOf items .failed
  let needsAttention := countOf items .needsAttention
  let cancelled := countOf items .cancelled
  let superseded := countOf items .superseded
  let completed := succeeded + superseded + failed + needsAttention + cancelled
  let waiting := countOf items .waitingForIdle + countOf items .awaitingFirstStart
  let terminal : Bool := completed = items.length
  { rollout with
    status :=
      if terminal then
        if 0 < needsAttention then .needsAttention
        else if 0 < failed then .partialFailed
        else if 0 < cancelled then .cancelled
        else .succeeded
      else .running
    completed := completed
    succeeded := succeeded
    superseded := some superseded
    failed := failed
    waiting := waiting
    upgrading := items.length - completed - waiting
    needsAttention := needsAttention
    updatedAt := updatedAt
    finishedAt := if terminal then some (rollout.finishedAt.getD updatedAt) else none }

/-- The summaries of the two say the same. -/
def unchanged (rollout next : UpgradeRollout) : Bool :=
  rollout.status = next.status ∧ rollout.completed = next.completed ∧ rollout.succeeded = next.succeeded ∧
    rollout.superseded.getD 0 = next.superseded.getD 0 ∧ rollout.failed = next.failed ∧
    rollout.waiting = next.waiting ∧ rollout.upgrading = next.upgrading ∧
    rollout.needsAttention = next.needsAttention ∧ rollout.finishedAt = next.finishedAt

/-- One try of the refresh; `none` after a conflict. -/
def refreshRound (id : String) : RolloutTask (Option (Option UpgradeRolloutDetail)) := do
  match ← ask (.getRollout id) with
  | none => pure (some none)
  | some detail =>
    let updatedAt ← ask .now
    let next := summarize detail.rollout detail.items updatedAt
    if unchanged detail.rollout next then pure (some (some detail))
    else
      match ← ask (.compareAndSaveRollout next detail.rollout.revision) with
      | some _ => do
        let refreshed ← ask (.getRollout id)
        pure (some refreshed)
      | none => pure none

def refreshRolloutSummary (id : String) : RolloutTask (Option UpgradeRolloutDetail) :=
  retry (refreshRound id) (throw (.conflict "upgrade_rollout_summary_conflict")) storeCasRetryLimit

def refreshed (rolloutId : String) : RolloutTask UpgradeRolloutDetail := do
  match ← refreshRolloutSummary rolloutId with
  | none => throw (.conflict "upgrade_rollout_not_found")
  | some detail => pure detail

/-! ## Creating a rollout -/

structure CreateUpgradeRolloutInput where
  actorUserId : String
  instanceIds : List String
  useLatestVersion : Bool
  taskKind : Option UpgradeRolloutTaskKind
  desiredState : Option WorkspaceDesiredState
  recovery : Bool
  idempotencyKey : Option String

def maxRolloutInstances : Nat := 10000

def uniqueInstanceIds (values : List String) : RolloutTask (List String) := do
  let normalized := ((values.map Script.trim).filter Script.truthy).eraseDups
  throwIf (normalized.length = 0 ∨ maxRolloutInstances < normalized.length)
    (.conflict "invalid_upgrade_rollout_instances")
  pure normalized

def normalizeIdempotencyKey (value : Option String) : Option String :=
  let normalized := Script.trim (value.getD "")
  if Script.truthy normalized then some normalized else none

/-- The text of the object of its three fields; two of them are one text when the fields agree. -/
def requestFingerprint (instanceIds : List String) (taskKind : UpgradeRolloutTaskKind) (useLatestVersion : Bool) :
    RequestFingerprint where
  instanceIds := instanceIds.insertionSort fun left right => left ≤ right
  taskKind := taskKind
  useLatestVersion := useLatestVersion

def findReplay (actorUserId : String) (idempotencyKey : Option String) (fingerprint : RequestFingerprint) :
    RolloutTask (Option UpgradeRolloutDetail) := do
  match idempotencyKey with
  | none => pure none
  | some key =>
    match ← ask (.findRolloutByIdempotencyKey actorUserId key) with
    | some existing => do
      throwIf (existing.rollout.requestFingerprint ≠ fingerprint) (.conflict "idempotency_key_conflict")
      pure (some existing)
    | none => do
      let conflicts ← ask (.idempotencyConflicts actorUserId key)
      throwIf (conflicts = true) (.conflict "idempotency_key_conflict")
      pure none

structure RolloutCatalogSnapshot where
  appVersionId : Option String
  imageArtifactId : Option String
  imageReference : String
  runtimeContract : Option String

/-- The launch target of an app is asked for once in a batch; the map holds those that were. -/
def launchTargetOf (appId : String) (targets : Script.Map AppLaunchTarget) : RolloutTask AppLaunchTarget :=
  match targets.get appId with
  | some target => pure target
  | none => ask (.getLaunchTarget appId)

def resolveTarget (container : Instance) (useLatestVersion : Bool) (targets : Script.Map AppLaunchTarget) :
    RolloutTask (RolloutCatalogSnapshot × Script.Map AppLaunchTarget) := do
  if useLatestVersion then
    let target ← launchTargetOf container.appId targets
    let snapshot : RolloutCatalogSnapshot := {
      appVersionId := some target.version.id
      imageArtifactId := target.version.imageArtifactId
      imageReference := target.imageReference
      runtimeContract := target.version.runtimeContract }
    pure (snapshot, targets.set container.appId target)
  else
    match container.imageReference with
    | some imageReference =>
      throwIf (Script.truthy imageReference = false) (.conflict "app_version_not_ready")
      let snapshot : RolloutCatalogSnapshot := {
        appVersionId := container.appVersionId
        imageArtifactId := container.imageArtifactId
        imageReference := imageReference
        runtimeContract := none }
      pure (snapshot, targets)
    | none => throw (.conflict "app_version_not_ready")

def toLaunchProfile (policy : ProvisioningPolicy) (imageReference : String) : ContainerLaunchProfile where
  imageReference := imageReference
  resources := policy.resources
  environment := policy.environment
  configFiles := policy.configFiles

/-- A container that is being created will run; one that failed stays stopped. -/
def intendedState (status : ContainerStatus) : WorkspaceDesiredState :=
  match status with
  | .running | .creating => .running
  | .stopped | .failed => .stopped

/-- What an item of a batch has in common with the others. -/
structure Batch where
  rolloutId : String
  createdAt : Timestamp
  desiredState : Option WorkspaceDesiredState
  recovery : Bool
  policy : ProvisioningPolicy

def newItem (batch : Batch) (container : Instance) (position : Nat) (target : RolloutCatalogSnapshot) :
    UpgradeRolloutItem where
  rolloutId := batch.rolloutId
  instanceId := container.id
  position := position
  revision := 1
  userId := container.userId
  appId := container.appId
  sourceStatus := container.status
  desiredState := batch.desiredState.getD (intendedState container.status)
  sourceAppVersionId := container.appVersionId
  sourceImageArtifactId := container.imageArtifactId
  sourceImageReference := container.imageReference
  targetAppVersionId := target.appVersionId
  targetImageArtifactId := target.imageArtifactId
  targetImageReference := target.imageReference
  targetRuntimeContract := target.runtimeContract
  launchProfile := toLaunchProfile batch.policy target.imageReference
  recovery := batch.recovery
  diagnostics := none
  status := .queued
  blocker := none
  error := none
  forceRequested := false
  attemptId := none
  attemptCount := 0
  nextAttemptAt := some batch.createdAt
  lastCheckedAt := none
  startedAt := none
  finishedAt := none
  createdAt := batch.createdAt
  updatedAt := batch.createdAt

def buildEach (batch : Batch) (useLatestVersion : Bool) :
    List (Option Instance × Nat) → Script.Map AppLaunchTarget → RolloutTask (List UpgradeRolloutItem)
  | [], _ => pure []
  | (none, _) :: _, _ => throw (.conflict "container_not_found")
  | (some container, position) :: rest, targets => do
    let (target, targets) ← resolveTarget container useLatestVersion targets
    let items ← buildEach batch useLatestVersion rest targets
    pure (newItem batch container position target :: items)

def buildItems (instanceIds : List String) (useLatestVersion : Bool) (rolloutId : String) (createdAt : Timestamp)
    (desiredState : Option WorkspaceDesiredState) (recovery : Bool) : RolloutTask (List UpgradeRolloutItem) := do
  let policy ← ask .getProvisioningPolicy
  let containers ← each (fun id => ask (.getContainer id)) instanceIds
  let batch : Batch := {
    rolloutId := rolloutId
    createdAt := createdAt
    desiredState := desiredState
    recovery := recovery
    policy := policy }
  buildEach batch useLatestVersion containers.zipIdx ⟨[]⟩

def newRollout (input : CreateUpgradeRolloutInput) (taskKind : UpgradeRolloutTaskKind) (useLatestVersion : Bool)
    (requested : Nat) (id : String) (idempotencyKey : Option String) (fingerprint : RequestFingerprint)
    (createdAt : Timestamp) : UpgradeRollout where
  id := id
  revision := 1
  actorUserId := input.actorUserId
  status := .running
  taskKind := taskKind
  useLatestVersion := useLatestVersion
  requested := requested
  completed := 0
  succeeded := 0
  superseded := none
  failed := 0
  waiting := 0
  upgrading := requested
  needsAttention := 0
  idempotencyKey := idempotencyKey
  requestFingerprint := fingerprint
  createdAt := createdAt
  updatedAt := createdAt
  finishedAt := none

def create (input : CreateUpgradeRolloutInput) : RolloutTask UpgradeRolloutDetail := do
  let instanceIds ← uniqueInstanceIds input.instanceIds
  let idempotencyKey := normalizeIdempotencyKey input.idempotencyKey
  let taskKind := input.taskKind.getD (if input.useLatestVersion then .imageUpgrade else .rebuildSameImage)
  let useLatestVersion : Bool := taskKind = .imageUpgrade
  let fingerprint := requestFingerprint instanceIds taskKind useLatestVersion
  let createdAt ← ask .now
  let rolloutId ← ask .randomId
  match ← findReplay input.actorUserId idempotencyKey fingerprint with
  | some replay => pure replay
  | none => do
    let items ← buildItems instanceIds useLatestVersion rolloutId createdAt input.desiredState
      (input.recovery || taskKind = .instanceRecovery)
    let rollout := newRollout input taskKind useLatestVersion items.length rolloutId idempotencyKey fingerprint createdAt
    let detail ← ask (.createRollout rollout items)
    throwIf (detail.rollout.requestFingerprint ≠ fingerprint) (.conflict "idempotency_key_conflict")
    pure detail

/-! ## Acting on an item -/

/-- What an operator does to an item, at a time. -/
abbrev ItemUpdate := UpgradeRolloutItem → Timestamp → UpgradeRolloutItem

def requeued (forceRequested : Bool) : ItemUpdate := fun item now =>
  { item with
    status := .queued
    forceRequested := forceRequested
    attemptId := none
    attemptCount := 0
    blocker := none
    error := none
    nextAttemptAt := some now
    finishedAt := none }

def cancelled : ItemUpdate := fun item now =>
  { item with
    status := .cancelled
    blocker := none
    error := none
    attemptId := none
    nextAttemptAt := none
    finishedAt := some now }

def requireItem (detail : UpgradeRolloutDetail) (instanceId : String) : RolloutTask UpgradeRolloutItem :=
  match detail.find instanceId with
  | none => throw (.conflict "upgrade_rollout_item_not_found")
  | some item => pure item

def requireRollout (id : String) : RolloutTask UpgradeRolloutDetail := do
  match ← ask (.getRollout id) with
  | none => throw (.conflict "upgrade_rollout_not_found")
  | some detail => pure detail

/-- One try of an update; `none` after a conflict. -/
def updateRound (rolloutId instanceId : String) (update : ItemUpdate) : RolloutTask (Option UpgradeRolloutDetail) := do
  let detail ← requireRollout rolloutId
  let item ← requireItem detail instanceId
  throwIf (item.status.actionable = false) (.conflict "upgrade_rollout_item_not_actionable")
  let now ← ask .now
  match ← ask (.compareAndSaveItem { update item now with updatedAt := now } item.revision) with
  | none => pure none
  | some _ => do
    let detail ← refreshed rolloutId
    pure (some detail)

def updateItem (rolloutId instanceId : String) (update : ItemUpdate) : RolloutTask UpgradeRolloutDetail :=
  retry (updateRound rolloutId instanceId update) (throw (.conflict "upgrade_rollout_item_conflict")) storeCasRetryLimit

def force (rolloutId instanceId : String) : RolloutTask UpgradeRolloutDetail :=
  updateItem rolloutId instanceId (requeued true)

def continueWaiting (rolloutId instanceId : String) : RolloutTask UpgradeRolloutDetail :=
  updateItem rolloutId instanceId (requeued false)

def cancel (rolloutId instanceId : String) : RolloutTask UpgradeRolloutDetail :=
  updateItem rolloutId instanceId cancelled

/-- `firstStartRevalidationPatch` -/
def firstStartRevalidation (now : Timestamp) (attemptId : String) (item : UpgradeRolloutItem) : UpgradeRolloutItem :=
  { item with
    status := .awaitingFirstStart
    blocker := some "candidate_awaiting_first_healthy_start"
    error := none
    diagnostics := none
    forceRequested := false
    attemptId := some attemptId
    attemptCount := 0
    nextAttemptAt := some now
    lastCheckedAt := some now
    finishedAt := none
    updatedAt := now }

/-- The instance is on the target, and runs or was meant to be stopped. -/
def revalidatable (inst : Option Instance) (item : UpgradeRolloutItem) : Bool :=
  inst.any fun inst => matchesCatalogTarget inst item &&
    (inst.status = .running ∨ (item.desiredState = .stopped ∧ inst.status = .stopped))

def revalidateRound (rolloutId instanceId : String) : RolloutTask (Option UpgradeRolloutDetail) := do
  let detail ← requireRollout rolloutId
  throwIf (detail.rollout.taskKind ≠ .imageUpgrade) (.conflict "upgrade_rollout_item_not_revalidatable")
  let item ← requireItem detail instanceId
  throwIf (item.proofMissing = false) (.conflict "upgrade_rollout_item_not_revalidatable")
  let inst ← ask (.getContainer instanceId)
  throwIf (revalidatable inst item = false) (.conflict "candidate_first_start_not_revalidatable")
  let now ← ask .now
  let attemptId ← ask .randomId
  match ← ask (.compareAndSaveItem (firstStartRevalidation now attemptId item) item.revision) with
  | none => pure none
  | some _ => do
    let detail ← refreshed rolloutId
    pure (some detail)

def revalidateFirstStart (rolloutId instanceId : String) : RolloutTask UpgradeRolloutDetail :=
  retry (revalidateRound rolloutId instanceId) (throw (.conflict "upgrade_rollout_item_conflict")) storeCasRetryLimit

end OpenApp.Rollout
