import Mathlib.Init

/-!
# The records of a Workspace

A Workspace belongs to one user and one App and runs in one execution environment of a
provider. What the store keeps of it is a projection: the Workspace, its execution and what
the older container record still needs.
-/

namespace OpenApp

/-! ## The stored records -/

inductive WorkspaceStatus
  | active | deleting | deleted
  deriving DecidableEq

inductive WorkspaceDeletionPhase
  | draining | removingEnvironments | verifyingReferences | releasingStorage | finalizing | deleted
  deriving DecidableEq

inductive WorkspaceExecutionRole
  | active | candidate | previous | retired
  deriving DecidableEq

inductive WorkspaceDesiredState
  | running | stopped
  deriving DecidableEq

inductive WorkspaceObservedState
  | absent | creating | running | stopped | failed | unknown
  deriving DecidableEq

inductive ExecutionTransactionStatus
  | requested | progressing | applied | awaitingFirstStart | rolledBack | failed | inconsistent
  deriving DecidableEq

inductive ContainerStatus
  | creating | running | stopped | failed
  deriving DecidableEq

inductive ContainerStopReason
  | idle | manualUser | manualAdmin | failure
  deriving DecidableEq

/-- What a container shows is one of the things a provider can observe. -/
def ContainerStatus.observed : ContainerStatus → WorkspaceObservedState
  | .creating => .creating
  | .running => .running
  | .stopped => .stopped
  | .failed => .failed

structure WorkspaceStorageRef where
  id : String
  storageClass : String
  /-- the provider the storage is bound to -/
  affinity : String
  deriving DecidableEq

structure Workspace where
  id : String
  ownerId : String
  appId : String
  appRevisionId : Option String
  storageRefId : String
  activeExecutionId : Option String
  status : WorkspaceStatus
  deletionTransactionId : Option String
  deletionPhase : Option WorkspaceDeletionPhase
  deletionFailure : Option String
  deletedAt : Option String
  createdAt : String
  updatedAt : String
  deriving DecidableEq

structure WorkspaceExecution where
  id : String
  workspaceId : String
  role : WorkspaceExecutionRole
  providerId : String
  environmentRef : Option String
  desiredGeneration : Nat
  deployedGeneration : Nat
  healthyGeneration : Option Nat
  transactionId : Option String
  transactionStatus : ExecutionTransactionStatus
  desiredState : WorkspaceDesiredState
  observedState : WorkspaceObservedState
  desiredAppRevisionId : Option String
  desiredLaunchArtifactId : Option String
  desiredLaunchArtifactReference : Option String
  launchArtifactId : Option String
  launchArtifactReference : Option String
  revision : Nat
  legacyEndpoint : Option String
  stopReason : Option ContainerStopReason
  lastActivityAt : String
  retiredAt : Option String
  updatedAt : String
  deriving DecidableEq

structure LegacyContainerCompatibility where
  runtimeId : String
  status : ContainerStatus
  deriving DecidableEq

structure WorkspaceExecutionProjection where
  workspace : Workspace
  execution : WorkspaceExecution
  compatibility : LegacyContainerCompatibility
  deriving DecidableEq

/-- The older record. An absent optional field and `null` are told apart only where the code does. -/
structure Container where
  id : String
  userId : String
  appId : String
  /-- left out for Docker -/
  providerId : Option String
  runtimeId : String
  status : ContainerStatus
  endpoint : Option String
  stopReason : Option ContainerStopReason
  createdAt : String
  updatedAt : String
  lastActivityAt : String
  appVersionId : Option String
  imageArtifactId : Option String
  imageReference : Option String
  deriving DecidableEq

/-! ## What goes to a provider and comes back -/

structure ContainerCatalogSnapshot where
  appId : String
  appVersionId : Option String
  imageArtifactId : Option String
  imageReference : String
  deriving DecidableEq

structure ContainerConfigFile where
  path : String
  content : String
  deriving DecidableEq

structure ContainerResources where
  memory : String
  cpus : String
  pidsLimit : Nat
  deriving DecidableEq

structure ContainerLaunchProfile where
  imageReference : String
  resources : ContainerResources
  environment : List (String × String)
  configFiles : List ContainerConfigFile
  deriving DecidableEq

structure StorageBinding where
  storageId : String
  attachmentRef : String
  mountPath : String
  readOnly : Bool
  deriving DecidableEq

structure ProviderExecution where
  workspaceId : String
  ownerId : String
  environmentRef : String
  providerId : Option String
  observedState : WorkspaceObservedState
  createdAt : String
  catalogSnapshot : Option ContainerCatalogSnapshot
  transactionRecovered : Bool
  deriving DecidableEq

/-- An abort signal is known by its number; the world holds whether and why it fired. -/
abbrev AbortSignal := Nat

structure ExecutionReconcileRequest where
  workspaceId : String
  ownerId : String
  providerId : Option String
  artifactKind : Option String
  /-- left out, `null` or a contract -/
  executionContract : Option (Option String)
  storageClass : Option String
  appId : String
  appRevisionId : Option String
  launchArtifactId : Option String
  launchArtifactReference : String
  sourceCatalogSnapshot : Option ContainerCatalogSnapshot
  launchProfile : ContainerLaunchProfile
  storageBindings : List StorageBinding
  desiredState : WorkspaceDesiredState
  desiredGeneration : Nat
  transactionId : String
  replace : Bool
  signal : Option AbortSignal
  deriving DecidableEq

structure ExecutionEnvironmentRemovalRequest where
  workspaceId : String
  ownerId : String
  providerId : Option String
  storageBindings : List StorageBinding
  signal : Option AbortSignal
  deriving DecidableEq

structure StorageBindingResolutionRequest where
  workspaceId : String
  ownerId : String
  providerId : String
  storageRef : WorkspaceStorageRef
  signal : Option AbortSignal
  deriving DecidableEq

structure WorkspaceStorageReleaseRequest extends StorageBindingResolutionRequest where
  binding : StorageBinding
  deriving DecidableEq

inductive ExecutionReconcileStatus
  | progressing | applied | awaitingFirstStart | rolledBack
  deriving DecidableEq

structure ExecutionReconcileResult where
  status : ExecutionReconcileStatus
  generation : Nat
  transactionId : String
  execution : ProviderExecution
  deriving DecidableEq

/-! ## Failures -/

inductive ProviderFailureClass
  | transient | permanent | inconsistent | cancelled
  deriving DecidableEq

inductive ProviderOperationPhase
  | observe | reconcile | resolveStorage | resolveTarget | remove | releaseStorage | diagnose
  deriving DecidableEq

/-- What a call may throw. -/
inductive Failure
  /-- `ProviderOperationError` -/
  | provider (code : String) (failureClass : ProviderFailureClass) (phase : ProviderOperationPhase)
      (retryAfterMs : Option Nat)
  /-- `WorkspaceExecutionStateError` -/
  | state (code : String)
  /-- `WorkspaceExecutionProjectionError` -/
  | projection
  /-- `WorkspaceExecutionGenerationRollbackError` -/
  | generationRollback
  /-- `WorkspaceExecutionCasRequiredError` -/
  | casRequired
  /-- `InstanceLifecycleError` -/
  | lifecycle (code : String)
  /-- `QuotaAdmissionError` -/
  | quota (code : String)
  /-- `AppCatalogError` -/
  | catalog (code : String) (status : Nat)
  /-- any other value, such as the reason of an abort -/
  | other (message : String)
  deriving DecidableEq

/-! ## What the callers ask for -/

structure WorkspaceExecutionReconcileInput where
  workspaceId : String
  ownerId : String
  providerId : Option String
  artifactKind : Option String
  executionContract : Option (Option String)
  storageClass : Option String
  appId : String
  appRevisionId : Option String
  launchArtifactId : Option String
  launchArtifactReference : String
  sourceCatalogSnapshot : Option ContainerCatalogSnapshot
  launchProfile : ContainerLaunchProfile
  desiredState : WorkspaceDesiredState
  replace : Bool
  transactionKey : Option String
  signal : Option AbortSignal
  deriving DecidableEq

structure WorkspaceDeletionInput where
  workspaceId : String
  transactionKey : Option String
  signal : Option AbortSignal
  deriving DecidableEq

/-! ## Identities -/

def workspaceExecutionId (workspaceId providerId : String) : String :=
  workspaceId ++ ":" ++ providerId

def workspaceStorageRefId (workspaceId : String) : String :=
  "workspace-storage:" ++ workspaceId

def workspaceStorageRef (workspace : Workspace) (providerId : String) : WorkspaceStorageRef where
  id := workspace.storageRefId
  storageClass := "workspace-data"
  affinity := providerId

def legacyImportTransactionId (workspaceId : String) : String :=
  "legacy-import:" ++ workspaceId

end OpenApp
