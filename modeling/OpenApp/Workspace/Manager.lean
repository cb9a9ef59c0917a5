import OpenApp.Workspace.Model
import OpenApp.Workspace.Ports

/-!
# The manager of Workspace executions

Generations, transactions and revisions are assigned and committed here only. A reconcile first
stores what it wants, then lets the provider act on it, then stores what came of it; a deletion
stores its phase before and after every side effect. Both re-read the row and compare its
revision at each write, and give up after a number of lost comparisons.
-/

namespace OpenApp

open Async.Prog (throwIf fromExcept retry)
open Script

def MAX_CAS_ATTEMPTS : Nat := 8

/-- What the constructor is given: the provider and the storage releaser must be the same one. -/
structure Manager where
  providerId : String
  storageReleaserId : String
  sameProvider : storageReleaserId = providerId
  /-- the digest of a text, in hexadecimal -/
  sha256 : String → String

/-! ## Checks and identities -/

def executionTransactionId (m : Manager) (workspaceId transactionKey : String) : Except Failure String :=
  let normalized := trim transactionKey
  if truthy normalized then
    let digest := (m.sha256 (workspaceId ++ "\x00" ++ normalized)).toList
    let slice (a b : Nat) := String.ofList ((digest.take b).drop a)
    .ok (slice 0 8 ++ "-" ++ slice 8 12 ++ "-" ++ slice 12 16 ++ "-" ++ slice 16 20 ++ "-" ++ slice 20 32)
  else .error (.state "workspace_execution_transaction_key_required")

def completedTransaction (projection : WorkspaceExecutionProjection) (input : WorkspaceExecutionReconcileInput)
    (transactionId : String) : Bool :=
  projection.execution.transactionId = some transactionId
    && (projection.execution.transactionStatus = .applied
      || projection.execution.transactionStatus = .awaitingFirstStart)
    && projection.execution.deployedGeneration = projection.execution.desiredGeneration
    && projection.execution.desiredState = input.desiredState
    && projection.execution.desiredAppRevisionId = input.appRevisionId
    && projection.execution.desiredLaunchArtifactId = input.launchArtifactId
    && projection.execution.desiredLaunchArtifactReference = some input.launchArtifactReference

def deletionFailureCode : Failure → String
  | .provider code _ _ _ => code
  | .state code => code
  | _ => "workspace_deletion_failed"

def Failure.isCancelled : Failure → Bool
  | .provider _ failureClass _ _ => failureClass = .cancelled
  | _ => false

def Failure.isInconsistent : Failure → Bool
  | .provider _ failureClass _ _ => failureClass = .inconsistent
  | _ => false

def assertActive (projection : WorkspaceExecutionProjection) : Task Unit :=
  throwIf (projection.workspace.status ≠ .active)
    (.state (if projection.workspace.status = .deleted then "workspace_deleted" else "workspace_deleting"))

def assertReconcileIdentity (projection : WorkspaceExecutionProjection) (input : WorkspaceExecutionReconcileInput)
    (providerId : String) : Task Unit := do
  throwIf (projection.workspace.status ≠ .active) (.state "workspace_not_active")
  throwIf (projection.workspace.ownerId ≠ input.ownerId ∨ projection.workspace.appId ≠ input.appId ∨
      projection.execution.providerId ≠ providerId)
    (.state "workspace_execution_identity_mismatch")

/-- The answer is about this Workspace and names an environment. -/
def providerExecutionMatches (projection : WorkspaceExecutionProjection) (execution : ProviderExecution) : Bool :=
  execution.workspaceId = projection.workspace.id
    && execution.ownerId = projection.workspace.ownerId
    && execution.providerId.all (· = projection.execution.providerId)
    && truthy execution.environmentRef

def assertProviderExecution (projection : WorkspaceExecutionProjection) (execution : ProviderExecution) : Task Unit :=
  throwIf (providerExecutionMatches projection execution = false) (.state "provider_execution_identity_mismatch")

def catalogResultMatches (input : WorkspaceExecutionReconcileInput) (execution : ProviderExecution) : Bool :=
  match execution.catalogSnapshot with
  | none => true
  | some snapshot =>
    snapshot.appId = input.appId
      && snapshot.appVersionId = input.appRevisionId
      && snapshot.imageArtifactId = input.launchArtifactId
      && snapshot.imageReference = input.launchArtifactReference

def assertCatalogResult (input : WorkspaceExecutionReconcileInput) (execution : ProviderExecution) : Task Unit :=
  throwIf (catalogResultMatches input execution = false) (.state "provider_execution_catalog_mismatch")

def compatibleObservedState : WorkspaceObservedState → Except Failure ContainerStatus
  | .creating => .ok .creating
  | .running => .ok .running
  | .stopped => .ok .stopped
  | .failed => .ok .failed
  | .absent => .error (.state "provider_execution_state_unavailable")
  | .unknown => .error (.state "provider_execution_state_unavailable")

def legacyIdentityMatches (current next : Container) : Bool :=
  current.id = next.id && current.userId = next.userId && current.appId = next.appId
    && current.createdAt = next.createdAt

def sameLegacyContainer (left right : Container) : Bool :=
  left.id = right.id
    && left.userId = right.userId
    && left.appId = right.appId
    && left.runtimeId = right.runtimeId
    && left.status = right.status
    && left.endpoint = right.endpoint
    && left.stopReason = right.stopReason
    && left.createdAt = right.createdAt
    && left.updatedAt = right.updatedAt
    && left.lastActivityAt = right.lastActivityAt
    && left.appVersionId = right.appVersionId
    && left.imageArtifactId = right.imageArtifactId
    && left.imageReference = right.imageReference

/-- Docker alone needs no route. -/
def providerRoute (m : Manager) (providerId : String) : Option String :=
  if providerId = "docker" ∧ m.providerId = "docker" then none else some providerId

/-! ## Store and ports -/

def getProjection (caller : Caller) (workspaceId : String) : Task WorkspaceExecutionProjection := do
  match ← await (.getWorkspaceExecutionProjection caller workspaceId) with
  | some projection => pure projection
  | none => throw (.state "workspace_not_found")

def compareAndSave (caller : Caller) (next : WorkspaceExecutionProjection) (expectedRevision : Nat) :
    Task (Option WorkspaceExecutionProjection) :=
  await (.compareAndSaveWorkspaceExecution caller next expectedRevision)

def stateConflict {α : Type} : Task α :=
  throw (.state "workspace_execution_state_conflict")

def resolveStorageBinding (projection : WorkspaceExecutionProjection) (signal : Option AbortSignal) :
    Task StorageBinding := do
  let storageBinding ← await (.resolveStorageBinding {
    workspaceId := projection.workspace.id
    ownerId := projection.workspace.ownerId
    providerId := projection.execution.providerId
    storageRef := workspaceStorageRef projection.workspace projection.execution.providerId
    signal := signal })
  throwIf (storageBinding.storageId ≠ projection.workspace.storageRefId)
    (.state "workspace_storage_binding_identity_mismatch")
  pure storageBinding

def assertNoExternalStorageReferences (projection : WorkspaceExecutionProjection) : Task Unit := do
  let references ← await
    (.countLiveWorkspaceStorageReferences projection.workspace.storageRefId projection.workspace.id)
  throwIf (references ≠ 0) (.state "workspace_storage_still_referenced")

def environmentRemovalRequest (m : Manager) (projection : WorkspaceExecutionProjection)
    (storageBinding : StorageBinding) (signal : Option AbortSignal) : ExecutionEnvironmentRemovalRequest where
  workspaceId := projection.workspace.id
  ownerId := projection.workspace.ownerId
  providerId := providerRoute m projection.execution.providerId
  storageBindings := [storageBinding]
  signal := signal

/-! ## Reconcile -/

/-- The row `#persistIntent` asks the store to save. -/
def intentOf (input : WorkspaceExecutionReconcileInput) (transactionId timestamp : String)
    (current : WorkspaceExecutionProjection) : WorkspaceExecutionProjection :=
  { current with
    workspace := { current.workspace with updatedAt := timestamp }
    execution := { current.execution with
      desiredGeneration :=
        if current.execution.transactionId = some transactionId then current.execution.desiredGeneration
        else if input.replace then current.execution.desiredGeneration + 1
        else current.execution.desiredGeneration
      desiredState := input.desiredState
      desiredAppRevisionId := input.appRevisionId
      desiredLaunchArtifactId := input.launchArtifactId
      desiredLaunchArtifactReference := some input.launchArtifactReference
      transactionId := some transactionId
      transactionStatus := .progressing
      updatedAt := timestamp } }

def persistIntent (input : WorkspaceExecutionReconcileInput) (transactionId : String) :
    Task WorkspaceExecutionProjection :=
  retry (do
      let current ← getProjection (.persistIntent input transactionId) input.workspaceId
      assertActive current
      assertReconcileIdentity current input (input.providerId.getD current.execution.providerId)
      if completedTransaction current input transactionId then
        pure (some current)
      else do
        let timestamp ← await .now
        compareAndSave (.persistIntent input transactionId) (intentOf input transactionId timestamp current)
          current.execution.revision)
    stateConflict MAX_CAS_ATTEMPTS

/-- What every provider result changes. -/
def observedOf (result : ExecutionReconcileResult) (updatedAt : String) (status : ContainerStatus)
    (current : WorkspaceExecutionProjection) : WorkspaceExecutionProjection :=
  { workspace := { current.workspace with updatedAt := updatedAt }
    execution := { current.execution with
      environmentRef := some result.execution.environmentRef
      observedState := result.execution.observedState
      updatedAt := updatedAt
      legacyEndpoint := if result.execution.observedState = .running then current.execution.legacyEndpoint else none }
    compatibility := { runtimeId := result.execution.environmentRef, status := status } }

/-- The row `#commitResult` asks the store to save. -/
def committedOf (input : WorkspaceExecutionReconcileInput) (result : ExecutionReconcileResult) (updatedAt : String)
    (status : ContainerStatus) (current : WorkspaceExecutionProjection) : WorkspaceExecutionProjection :=
  let next := observedOf result updatedAt status current
  if result.status = .rolledBack then
    { next with execution := { next.execution with transactionStatus := .rolledBack } }
  else
    { next with
      workspace := { next.workspace with appRevisionId := input.appRevisionId }
      execution := { next.execution with
        deployedGeneration := result.generation
        launchArtifactId := input.launchArtifactId
        launchArtifactReference := some input.launchArtifactReference
        transactionStatus := if result.status = .awaitingFirstStart then .awaitingFirstStart else .applied
        healthyGeneration :=
          if result.execution.observedState = .running then some result.generation
          else current.execution.healthyGeneration
        stopReason := if result.execution.observedState = .running then none else current.execution.stopReason } }

def commitResult (input : WorkspaceExecutionReconcileInput) (result : ExecutionReconcileResult) :
    Task WorkspaceExecutionProjection :=
  retry (do
      let current ← getProjection (.commitResult input result) input.workspaceId
      assertActive current
      if current.execution.transactionId ≠ some result.transactionId ∨
          current.execution.desiredGeneration ≠ result.generation then
        if completedTransaction current input result.transactionId then
          pure (some current)
        else
          throw (.state "workspace_execution_transaction_superseded")
      else do
        assertProviderExecution current result.execution
        let updatedAt ← await .now
        let status ← fromExcept (compatibleObservedState result.execution.observedState)
        if result.status ≠ .rolledBack then
          assertCatalogResult input result.execution
        compareAndSave (.commitResult input result) (committedOf input result updatedAt status current)
          current.execution.revision)
    stateConflict MAX_CAS_ATTEMPTS

/-- The row `#recordProviderFailure` asks the store to save. -/
def failedOf (error : Failure) (timestamp : String) (current : WorkspaceExecutionProjection) :
    WorkspaceExecutionProjection :=
  { current with
    workspace := { current.workspace with updatedAt := timestamp }
    execution := { current.execution with
      transactionStatus := if error.isInconsistent then .inconsistent else .failed
      updatedAt := timestamp } }

def recordProviderFailure (workspaceId transactionId : String) (error : Failure) : Task Unit :=
  retry (do
      let current ← getProjection (.recordProviderFailure workspaceId transactionId error) workspaceId
      if current.workspace.status ≠ .active ∨ current.execution.transactionId ≠ some transactionId then
        pure (some ())
      else do
        let timestamp ← await .now
        let saved ← compareAndSave (.recordProviderFailure workspaceId transactionId error)
          (failedOf error timestamp current) current.execution.revision
        pure (saved.map fun _ => ()))
    stateConflict MAX_CAS_ATTEMPTS

def reconcileRequest (m : Manager) (input : WorkspaceExecutionReconcileInput) (transactionId : String)
    (intent : WorkspaceExecutionProjection) (storageBinding : StorageBinding) : ExecutionReconcileRequest where
  workspaceId := input.workspaceId
  ownerId := input.ownerId
  providerId := providerRoute m intent.execution.providerId
  artifactKind := input.artifactKind
  executionContract := input.executionContract
  storageClass := input.storageClass
  appId := input.appId
  appRevisionId := input.appRevisionId
  launchArtifactId := input.launchArtifactId
  launchArtifactReference := input.launchArtifactReference
  sourceCatalogSnapshot := input.sourceCatalogSnapshot
  launchProfile := input.launchProfile
  storageBindings := [storageBinding]
  desiredState := input.desiredState
  desiredGeneration := intent.execution.desiredGeneration
  transactionId := transactionId
  replace := input.replace
  signal := input.signal

/-- The part of `reconcile` whose failures are recorded. -/
def executeIntent (m : Manager) (input : WorkspaceExecutionReconcileInput) (transactionId : String)
    (intent : WorkspaceExecutionProjection) : Task WorkspaceExecutionProjection := do
  let storageBinding ← resolveStorageBinding intent input.signal
  let result ← await (.reconcile (reconcileRequest m input transactionId intent storageBinding))
  await (.throwIfAborted input.signal)
  commitResult input result

def reconcileTransactionId (m : Manager) (input : WorkspaceExecutionReconcileInput) : Task String :=
  match input.transactionKey with
  | some key => if truthy key then fromExcept (executionTransactionId m input.workspaceId key) else await .randomId
  | none => await .randomId

/-- `reconcile` from where its transaction is known. -/
def reconcileTransaction (m : Manager) (input : WorkspaceExecutionReconcileInput) (transactionId : String) :
    Task WorkspaceExecutionProjection := do
  let intent ← persistIntent input transactionId
  if completedTransaction intent input transactionId then
    pure intent
  else
    tryCatch (executeIntent m input transactionId intent) fun error => do
      if error.isCancelled = false then
        recordProviderFailure input.workspaceId transactionId error
      throw error

def reconcile (m : Manager) (input : WorkspaceExecutionReconcileInput) : Task WorkspaceExecutionProjection := do
  await (.throwIfAborted input.signal)
  throwIf (input.launchProfile.imageReference ≠ input.launchArtifactReference)
    (.state "launch_artifact_profile_mismatch")
  let current ← getProjection .getProjection input.workspaceId
  assertActive current
  let expectedStorageClass := (workspaceStorageRef current.workspace current.execution.providerId).storageClass
  throwIf (input.storageClass.any (· ≠ expectedStorageClass)) (.state "workspace_storage_class_mismatch")
  let transactionId ← reconcileTransactionId m input
  reconcileTransaction m input transactionId

/-! ## The older record written through -/

/-- The row `persistLegacyContainer` asks the store to save. -/
def legacyOf (container : Container) (current : WorkspaceExecutionProjection) : WorkspaceExecutionProjection :=
  let inFlight := current.execution.transactionStatus = .requested ∨
    current.execution.transactionStatus = .progressing
  { workspace := { current.workspace with
      appRevisionId := container.appVersionId
      updatedAt := container.updatedAt }
    execution := { current.execution with
      environmentRef := environmentRefOf container.runtimeId
      observedState := container.status.observed
      launchArtifactId := container.imageArtifactId
      launchArtifactReference := container.imageReference
      legacyEndpoint := container.endpoint
      stopReason := container.stopReason
      lastActivityAt := latestTimestamp current.execution.lastActivityAt container.lastActivityAt
      updatedAt := container.updatedAt
      desiredAppRevisionId := if inFlight then current.execution.desiredAppRevisionId else container.appVersionId
      desiredLaunchArtifactId :=
        if inFlight then current.execution.desiredLaunchArtifactId else container.imageArtifactId
      desiredLaunchArtifactReference :=
        if inFlight then current.execution.desiredLaunchArtifactReference else container.imageReference
      desiredState :=
        if inFlight then current.execution.desiredState
        else if container.status = .stopped then .stopped else .running
      healthyGeneration :=
        if container.status = .running then
          some (max (current.execution.healthyGeneration.getD 0) current.execution.deployedGeneration)
        else current.execution.healthyGeneration }
    compatibility := { runtimeId := container.runtimeId, status := container.status } }

def persistLegacyContainer (container : Container) : Task Unit :=
  retry (do
      let current ← getProjection (.persistLegacyContainer container) container.id
      assertActive current
      let previous ← fromExcept (projectWorkspaceExecutionToContainer current)
      throwIf (legacyIdentityMatches previous container = false) (.state "workspace_execution_identity_mismatch")
      if sameLegacyContainer previous container then
        pure (some ())
      else do
        let saved ← compareAndSave (.persistLegacyContainer container) (legacyOf container current)
          current.execution.revision
        pure (saved.map fun _ => ()))
    stateConflict MAX_CAS_ATTEMPTS

/-! ## Deletion -/

/-- The row `#beginDeletion` asks the store to save. -/
def deletingOf (transactionId timestamp : String) (current : WorkspaceExecutionProjection) :
    WorkspaceExecutionProjection :=
  { current with
    workspace := { current.workspace with
      status := .deleting
      deletionTransactionId := some transactionId
      deletionPhase := some .draining
      deletionFailure := none
      deletedAt := none
      updatedAt := timestamp }
    execution := { current.execution with updatedAt := timestamp } }

def beginDeletion (m : Manager) (input : WorkspaceDeletionInput) : Task WorkspaceExecutionProjection := do
  let requestedTransactionId ← fromExcept
    (executionTransactionId m input.workspaceId (input.transactionKey.getD "workspace-delete"))
  retry (do
      let current ← getProjection (.beginDeletion input) input.workspaceId
      if current.workspace.status = .deleted ∨ current.workspace.status = .deleting then
        pure (some current)
      else do
        let timestamp ← await .now
        compareAndSave (.beginDeletion input) (deletingOf requestedTransactionId timestamp current)
          current.execution.revision)
    stateConflict MAX_CAS_ATTEMPTS

/-- The row `#advanceDeletion` asks the store to save. -/
def advancedOf (nextPhase : WorkspaceDeletionPhase) (timestamp : String) (latest : WorkspaceExecutionProjection) :
    WorkspaceExecutionProjection :=
  { latest with
    workspace := { latest.workspace with
      deletionPhase := some nextPhase
      deletionFailure := none
      updatedAt := timestamp }
    execution := { latest.execution with updatedAt := timestamp } }

def advanceDeletion (current : WorkspaceExecutionProjection) (expectedPhase nextPhase : WorkspaceDeletionPhase) :
    Task WorkspaceExecutionProjection :=
  retry (do
      let latest ← getProjection (.advanceDeletion current expectedPhase nextPhase) current.workspace.id
      if latest.workspace.status = .deleted then
        pure (some latest)
      else do
        throwIf (latest.workspace.deletionTransactionId ≠ current.workspace.deletionTransactionId)
          (.state "workspace_deletion_transaction_conflict")
        if latest.workspace.deletionPhase ≠ some expectedPhase then
          pure (some latest)
        else do
          let timestamp ← await .now
          compareAndSave (.advanceDeletion current expectedPhase nextPhase) (advancedOf nextPhase timestamp latest)
            latest.execution.revision)
    stateConflict MAX_CAS_ATTEMPTS

/-- The tombstone `#finalizeDeletion` asks the store to save. -/
def tombstoneOf (timestamp : String) (latest : WorkspaceExecutionProjection) : WorkspaceExecutionProjection :=
  { workspace := { latest.workspace with
      status := .deleted
      activeExecutionId := none
      appRevisionId := none
      deletionPhase := some .deleted
      deletionFailure := none
      deletedAt := some timestamp
      updatedAt := timestamp }
    execution := { latest.execution with
      role := .retired
      environmentRef := none
      desiredState := .stopped
      observedState := .absent
      desiredAppRevisionId := none
      desiredLaunchArtifactId := none
      desiredLaunchArtifactReference := none
      launchArtifactId := none
      launchArtifactReference := none
      transactionStatus := .applied
      legacyEndpoint := none
      stopReason := none
      retiredAt := some timestamp
      updatedAt := timestamp }
    compatibility := { runtimeId := "deleted", status := .stopped } }

def finalizeDeletion (current : WorkspaceExecutionProjection) : Task WorkspaceExecutionProjection :=
  retry (do
      let latest ← getProjection (.finalizeDeletion current) current.workspace.id
      if latest.workspace.status = .deleted then
        pure (some latest)
      else do
        throwIf (latest.workspace.deletionTransactionId ≠ current.workspace.deletionTransactionId ∨
            latest.workspace.deletionPhase ≠ some .finalizing)
          (.state "workspace_deletion_transaction_conflict")
        let timestamp ← await .now
        compareAndSave (.finalizeDeletion current) (tombstoneOf timestamp latest) latest.execution.revision)
    stateConflict MAX_CAS_ATTEMPTS

/-- The row `#recordDeletionFailure` asks the store to save. -/
def deletionFailedOf (error : Failure) (timestamp : String) (latest : WorkspaceExecutionProjection) :
    WorkspaceExecutionProjection :=
  { latest with
    workspace := { latest.workspace with
      deletionFailure := some (deletionFailureCode error)
      updatedAt := timestamp }
    execution := { latest.execution with updatedAt := timestamp } }

def recordDeletionFailure (current : WorkspaceExecutionProjection) (error : Failure) : Task Unit :=
  retry (do
      let latest? ← await
        (.getWorkspaceExecutionProjection (.recordDeletionFailure current error) current.workspace.id)
      match latest? with
      | none => pure (some ())
      | some latest =>
        if latest.workspace.status ≠ .deleting ∨
            latest.workspace.deletionTransactionId ≠ current.workspace.deletionTransactionId then
          pure (some ())
        else do
          let timestamp ← await .now
          let saved ← compareAndSave (.recordDeletionFailure current error)
            (deletionFailedOf error timestamp latest) latest.execution.revision
          pure (saved.map fun _ => ()))
    (pure ()) MAX_CAS_ATTEMPTS

/-- One phase: its side effect, then the next phase stored. -/
def deletionPhase (m : Manager) (input : WorkspaceDeletionInput) (current : WorkspaceExecutionProjection)
    (transactionId : String) : WorkspaceDeletionPhase → Task WorkspaceExecutionProjection
  | .draining => do
    let drained ← await (.drainBegin input.workspaceId transactionId input.signal)
    throwIf (drained = false) (.state "workspace_deletion_drain_conflict")
    advanceDeletion current .draining .removingEnvironments
  | .removingEnvironments => do
    let binding ← resolveStorageBinding current input.signal
    assertNoExternalStorageReferences current
    await (.removeEnvironment (environmentRemovalRequest m current binding input.signal))
    advanceDeletion current .removingEnvironments .verifyingReferences
  | .verifyingReferences => do
    assertNoExternalStorageReferences current
    advanceDeletion current .verifyingReferences .releasingStorage
  | .releasingStorage => do
    let binding ← resolveStorageBinding current input.signal
    assertNoExternalStorageReferences current
    await (.releaseWorkspaceStorage {
      workspaceId := current.workspace.id
      ownerId := current.workspace.ownerId
      providerId := current.execution.providerId
      storageRef := workspaceStorageRef current.workspace current.execution.providerId
      signal := input.signal
      binding := binding })
    advanceDeletion current .releasingStorage .finalizing
  | .finalizing | .deleted => finalizeDeletion current

/-- One round of the loop of `deleteWorkspace`: on the left the row the next round starts from, on
the right the row the call returns. -/
def deletionRound (m : Manager) (input : WorkspaceDeletionInput) (current : WorkspaceExecutionProjection) :
    Task (WorkspaceExecutionProjection ⊕ WorkspaceExecutionProjection) :=
  if current.workspace.status = .deleting then
    match current.workspace.deletionTransactionId, current.workspace.deletionPhase with
    | some transactionId, some phase =>
      if truthy transactionId ∧ phase ≠ .deleted then
        tryCatch (Sum.inl <$> deletionPhase m input current transactionId phase) fun error => do
          match ← await (.aborted input.signal) with
          | some reason => throw reason
          | none => do
            recordDeletionFailure current error
            throw error
      else throw (.state "workspace_deletion_state_invalid")
    | _, _ => throw (.state "workspace_deletion_state_invalid")
  else
    match current.workspace.deletionTransactionId with
    | some transactionId => do
      if truthy transactionId then
        await (.drainClear current.workspace.id transactionId)
      pure (.inr current)
    | none => pure (.inr current)

def startDeletion (m : Manager) (input : WorkspaceDeletionInput) : Task WorkspaceExecutionProjection := do
  await (.throwIfAborted input.signal)
  beginDeletion m input

end OpenApp
