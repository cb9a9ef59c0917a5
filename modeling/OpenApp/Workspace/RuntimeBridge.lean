import OpenApp.Workspace.Manager

/-!
# The bridge from the older runtime calls

The lifecycle still speaks of containers that are provisioned, started, stopped and rebuilt. The
bridge turns each of these into one reconcile. Starting and stopping ask for the artifact the row
records as deployed and replace nothing; a rebuild replaces.
-/

namespace OpenApp

open Async.Prog (throwIf fromExcept)
open Script

structure ProvisionContainerRequest where
  instanceId : String
  ownerId : String
  providerId : Option String
  executionContract : Option (Option String)
  appId : Option String
  appVersionId : Option String
  imageArtifactId : Option String
  imageReference : Option String
  sourceCatalogSnapshot : Option ContainerCatalogSnapshot
  launchProfile : Option ContainerLaunchProfile
  /-- `start !== false` -/
  start : Bool
  rebuildTransactionId : Option String
  signal : Option AbortSignal

structure ContainerInstance where
  instanceId : String
  ownerId : String
  providerId : Option String
  runtimeId : String
  state : ContainerStatus
  endpoint : Option String
  createdAt : String
  catalogSnapshot : Option ContainerCatalogSnapshot
  rebuildRecovered : Bool

/-- The artifact the row records, where it records one. -/
def catalogSnapshot (projection : WorkspaceExecutionProjection) : Option ContainerCatalogSnapshot :=
  match projection.execution.launchArtifactReference with
  | none => none
  | some imageReference =>
    if truthy imageReference then some {
      appId := projection.workspace.appId
      appVersionId := projection.workspace.appRevisionId
      imageArtifactId := projection.execution.launchArtifactId
      imageReference := imageReference }
    else none

def compatibleState : WorkspaceObservedState → Except Failure ContainerStatus
  | .creating => .ok .creating
  | .running => .ok .running
  | .stopped => .ok .stopped
  | .failed => .ok .failed
  | .absent => .error (.other "workspace_execution_observation_unavailable")
  | .unknown => .error (.other "workspace_execution_observation_unavailable")

def providerInstance (execution : ProviderExecution) : Except Failure ContainerInstance := do
  let state ← compatibleState execution.observedState
  return {
    instanceId := execution.workspaceId
    ownerId := execution.ownerId
    providerId := execution.providerId
    runtimeId := execution.environmentRef
    state := state
    endpoint := none
    createdAt := execution.createdAt
    catalogSnapshot := execution.catalogSnapshot
    rebuildRecovered := execution.transactionRecovered }

def projectionInstance (projection : WorkspaceExecutionProjection) : Except Failure ContainerInstance :=
  match projection.execution.environmentRef with
  | none => .error (.other "workspace_execution_environment_missing")
  | some environmentRef =>
    if truthy environmentRef then
      providerInstance {
        workspaceId := projection.workspace.id
        ownerId := projection.workspace.ownerId
        environmentRef := environmentRef
        providerId := if projection.execution.providerId = "docker" then none else some projection.execution.providerId
        observedState := projection.execution.observedState
        createdAt := projection.workspace.createdAt
        catalogSnapshot := catalogSnapshot projection
        transactionRecovered := projection.execution.transactionStatus = .rolledBack }
    else .error (.other "workspace_execution_environment_missing")

def resolveDefaultAppId : Task String := do
  let appId ← await .defaultAppId
  throwIf (truthy (trim appId) = false) (.other "workspace_execution_app_id_required")
  pure (toLowerCase (trim appId))

/-- The launch profile and the image, which a legacy request may leave out. -/
def requireLaunchProfile (request : ProvisionContainerRequest) : Task (ContainerLaunchProfile × String) :=
  match request.launchProfile, request.imageReference with
  | some launchProfile, some imageReference =>
    if truthy imageReference then pure (launchProfile, imageReference)
    else throw (.other "workspace_execution_launch_profile_required")
  | _, _ => throw (.other "workspace_execution_launch_profile_required")

def requestAppId (request : ProvisionContainerRequest) : Task String :=
  match request.appId with
  | some appId => pure appId
  | none => resolveDefaultAppId

def provisionInput (request : ProvisionContainerRequest) (launchProfile : ContainerLaunchProfile)
    (imageReference appId : String) : WorkspaceExecutionReconcileInput where
  workspaceId := request.instanceId
  ownerId := request.ownerId
  providerId := request.providerId.filter truthy
  artifactKind := none
  executionContract := request.executionContract
  storageClass := none
  appId := appId
  appRevisionId := request.appVersionId
  launchArtifactId := request.imageArtifactId
  launchArtifactReference := imageReference
  sourceCatalogSnapshot := none
  launchProfile := launchProfile
  desiredState := if request.start then .running else .stopped
  replace := false
  transactionKey := some ("provision:" ++ request.instanceId)
  signal := request.signal

def bridgeProvision (m : Manager) (request : ProvisionContainerRequest) : Task ContainerInstance := do
  let launch ← requireLaunchProfile request
  let appId ← requestAppId request
  let projection ← reconcile m (provisionInput request launch.1 launch.2 appId)
  fromExcept (projectionInstance projection)

def rebuildInput (request : ProvisionContainerRequest) (launchProfile : ContainerLaunchProfile)
    (imageReference : String) (current : WorkspaceExecutionProjection) : WorkspaceExecutionReconcileInput where
  workspaceId := request.instanceId
  ownerId := request.ownerId
  providerId := request.providerId.filter truthy
  artifactKind := none
  executionContract := request.executionContract
  storageClass := none
  appId := request.appId.getD current.workspace.appId
  appRevisionId := request.appVersionId
  launchArtifactId := request.imageArtifactId
  launchArtifactReference := imageReference
  sourceCatalogSnapshot := request.sourceCatalogSnapshot
  launchProfile := launchProfile
  desiredState := if request.start then .running else .stopped
  replace := true
  transactionKey := request.rebuildTransactionId.filter truthy
  signal := request.signal

def bridgeRebuild (m : Manager) (request : ProvisionContainerRequest) : Task ContainerInstance := do
  let launch ← requireLaunchProfile request
  let current ← getProjection .getProjection request.instanceId
  let projection ← reconcile m (rebuildInput request launch.1 launch.2 current)
  fromExcept (projectionInstance projection)

/-- The deployed artifact, with another desired state. -/
def currentInput (current : WorkspaceExecutionProjection) (imageReference : String)
    (launchProfile : ContainerLaunchProfile) (workspaceId : String) (desiredState : WorkspaceDesiredState)
    (signal : Option AbortSignal) : WorkspaceExecutionReconcileInput where
  workspaceId := workspaceId
  ownerId := current.workspace.ownerId
  providerId := none
  artifactKind := none
  executionContract := none
  storageClass := none
  appId := current.workspace.appId
  appRevisionId := current.workspace.appRevisionId
  launchArtifactId := current.execution.launchArtifactId
  launchArtifactReference := imageReference
  sourceCatalogSnapshot := catalogSnapshot current
  launchProfile := launchProfile
  desiredState := desiredState
  replace := false
  transactionKey := none
  signal := signal

/-- `start` and `stop` of the bridge. -/
def reconcileCurrent (m : Manager) (workspaceId : String) (desiredState : WorkspaceDesiredState)
    (signal : Option AbortSignal) : Task ContainerInstance := do
  let current ← getProjection .getProjection workspaceId
  let imageReference := current.execution.launchArtifactReference.getD ""
  throwIf (truthy imageReference = false) (.other "workspace_execution_launch_artifact_missing")
  let launchProfile ← await (.launchProfileFor imageReference)
  let projection ← reconcile m (currentInput current imageReference launchProfile workspaceId desiredState signal)
  fromExcept (projectionInstance projection)

end OpenApp
