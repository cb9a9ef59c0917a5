import OpenApp.Sql.Table
import OpenApp.Workspace.Model

/-!
# Rows of the Workspace table

What a projection is written as, and what is read back. The columns are those of the older record,
and behind them those of the execution; a status, a phase or a role is written as its text.
-/

namespace OpenApp

open Sql Script

inductive ContainerColumn
  | id | userId | appId | appVersionId | imageArtifactId | imageReference | runtimeId | status | endpoint | stopReason
  | createdAt | updatedAt | lastActivityAt
  | workspaceStatus | storageRefId | activeExecutionId | providerId | environmentRef | executionRole
  | desiredGeneration | deployedGeneration | healthyGeneration | transactionId | transactionStatus | desiredState
  | observedState | desiredAppRevisionId | desiredLaunchArtifactId | desiredLaunchArtifactReference | executionRevision
  | executionImageArtifactId | executionImageReference | executionEndpoint | executionModelVersion
  | deletionTransactionId | deletionPhase | deletionFailure | deletedAt
  deriving DecidableEq

abbrev ContainerRow := Row ContainerColumn

/-! ## Texts -/

def WorkspaceStatus.text : WorkspaceStatus → String
  | .active => "active"
  | .deleting => "deleting"
  | .deleted => "deleted"

def WorkspaceDeletionPhase.text : WorkspaceDeletionPhase → String
  | .draining => "draining"
  | .removingEnvironments => "removing_environments"
  | .verifyingReferences => "verifying_references"
  | .releasingStorage => "releasing_storage"
  | .finalizing => "finalizing"
  | .deleted => "deleted"

def WorkspaceExecutionRole.text : WorkspaceExecutionRole → String
  | .active => "active"
  | .candidate => "candidate"
  | .previous => "previous"
  | .retired => "retired"

def WorkspaceDesiredState.text : WorkspaceDesiredState → String
  | .running => "running"
  | .stopped => "stopped"

def WorkspaceObservedState.text : WorkspaceObservedState → String
  | .absent => "absent"
  | .creating => "creating"
  | .running => "running"
  | .stopped => "stopped"
  | .failed => "failed"
  | .unknown => "unknown"

def ExecutionTransactionStatus.text : ExecutionTransactionStatus → String
  | .requested => "requested"
  | .progressing => "progressing"
  | .applied => "applied"
  | .awaitingFirstStart => "awaiting_first_start"
  | .rolledBack => "rolled_back"
  | .failed => "failed"
  | .inconsistent => "inconsistent"

def ContainerStatus.text : ContainerStatus → String
  | .creating => "creating"
  | .running => "running"
  | .stopped => "stopped"
  | .failed => "failed"

def ContainerStopReason.text : ContainerStopReason → String
  | .idle => "idle"
  | .manualUser => "manual_user"
  | .manualAdmin => "manual_admin"
  | .failure => "failure"

/-- The one of these that is written so. -/
def ofText {α : Type} (text : α → String) (values : List α) (s : String) : Option α :=
  values.find? fun a => text a = s

def WorkspaceStatus.ofText : String → Option WorkspaceStatus :=
  OpenApp.ofText text [.active, .deleting, .deleted]

def WorkspaceDeletionPhase.ofText : String → Option WorkspaceDeletionPhase :=
  OpenApp.ofText text
    [.draining, .removingEnvironments, .verifyingReferences, .releasingStorage, .finalizing, .deleted]

def WorkspaceExecutionRole.ofText : String → Option WorkspaceExecutionRole :=
  OpenApp.ofText text [.active, .candidate, .previous, .retired]

def WorkspaceDesiredState.ofText : String → Option WorkspaceDesiredState :=
  OpenApp.ofText text [.running, .stopped]

def WorkspaceObservedState.ofText : String → Option WorkspaceObservedState :=
  OpenApp.ofText text [.absent, .creating, .running, .stopped, .failed, .unknown]

def ExecutionTransactionStatus.ofText : String → Option ExecutionTransactionStatus :=
  OpenApp.ofText text
    [.requested, .progressing, .applied, .awaitingFirstStart, .rolledBack, .failed, .inconsistent]

def ContainerStatus.ofText : String → Option ContainerStatus :=
  OpenApp.ofText text [.creating, .running, .stopped, .failed]

def ContainerStopReason.ofText : String → Option ContainerStopReason :=
  OpenApp.ofText text [.idle, .manualUser, .manualAdmin, .failure]

@[simp] theorem WorkspaceStatus.ofText_text (a : WorkspaceStatus) : ofText a.text = some a := by
  cases a <;> decide

@[simp] theorem WorkspaceDeletionPhase.ofText_text (a : WorkspaceDeletionPhase) : ofText a.text = some a := by
  cases a <;> decide

@[simp] theorem WorkspaceExecutionRole.ofText_text (a : WorkspaceExecutionRole) : ofText a.text = some a := by
  cases a <;> decide

@[simp] theorem WorkspaceDesiredState.ofText_text (a : WorkspaceDesiredState) : ofText a.text = some a := by
  cases a <;> decide

@[simp] theorem WorkspaceObservedState.ofText_text (a : WorkspaceObservedState) : ofText a.text = some a := by
  cases a <;> decide

@[simp] theorem ExecutionTransactionStatus.ofText_text (a : ExecutionTransactionStatus) : ofText a.text = some a := by
  cases a <;> decide

@[simp] theorem ContainerStatus.ofText_text (a : ContainerStatus) : ofText a.text = some a := by
  cases a <;> decide

@[simp] theorem ContainerStopReason.ofText_text (a : ContainerStopReason) : ofText a.text = some a := by
  cases a <;> decide

/-! ## Writing -/

/-- `containerWriteValues`, with those of `workspaceExecutionUpdateValues` in it. -/
def containerWriteValues (container : Container) (p : WorkspaceExecutionProjection) : ContainerRow
  | .id => .text container.id
  | .userId => .text container.userId
  | .appId => .text container.appId
  | .appVersionId => .ofText container.appVersionId
  | .imageArtifactId => .ofText container.imageArtifactId
  | .imageReference => .ofText container.imageReference
  | .runtimeId => .text container.runtimeId
  | .status => .text container.status.text
  | .endpoint => .ofText container.endpoint
  | .stopReason => .ofText (container.stopReason.map ContainerStopReason.text)
  | .createdAt => .text container.createdAt
  | .updatedAt => .text container.updatedAt
  | .lastActivityAt => .text container.lastActivityAt
  | .workspaceStatus => .text p.workspace.status.text
  | .storageRefId => .text p.workspace.storageRefId
  | .activeExecutionId => .ofText p.workspace.activeExecutionId
  | .providerId => .text p.execution.providerId
  | .environmentRef => .ofText p.execution.environmentRef
  | .executionRole => .text p.execution.role.text
  | .desiredGeneration => .int p.execution.desiredGeneration
  | .deployedGeneration => .int p.execution.deployedGeneration
  | .healthyGeneration => .ofNat p.execution.healthyGeneration
  | .transactionId => .ofText p.execution.transactionId
  | .transactionStatus => .text p.execution.transactionStatus.text
  | .desiredState => .text p.execution.desiredState.text
  | .observedState => .text p.execution.observedState.text
  | .desiredAppRevisionId => .ofText p.execution.desiredAppRevisionId
  | .desiredLaunchArtifactId => .ofText p.execution.desiredLaunchArtifactId
  | .desiredLaunchArtifactReference => .ofText p.execution.desiredLaunchArtifactReference
  | .executionRevision => .int p.execution.revision
  | .executionImageArtifactId => .ofText p.execution.launchArtifactId
  | .executionImageReference => .ofText p.execution.launchArtifactReference
  | .executionEndpoint => .ofText p.execution.legacyEndpoint
  | .executionModelVersion => .int 2
  | .deletionTransactionId => .ofText p.workspace.deletionTransactionId
  | .deletionPhase => .ofText (p.workspace.deletionPhase.map WorkspaceDeletionPhase.text)
  | .deletionFailure => .ofText p.workspace.deletionFailure
  | .deletedAt => .ofText p.workspace.deletedAt

/-! ## Reading -/

def readText : Value → Option String
  | .text value => some value
  | _ => none

def readNat : Value → Option Nat
  | .int n => some n.toNat
  | _ => none

/-- Null, or what the text says. -/
def readNullable {α : Type} (ofText : String → Option α) : Value → Option (Option α)
  | .null => some none
  | .text value => (ofText value).map some
  | .int _ => none

def nullableText : Value → Option String
  | .text value => some value
  | _ => none

/-- `mapLegacyContainer`; a row with a value of another type is not read. -/
def mapLegacyContainer (row : ContainerRow) : Option Container := do
  return {
    id := ← readText (row .id)
    userId := ← readText (row .userId)
    appId := ← readText (row .appId)
    providerId := none
    runtimeId := ← readText (row .runtimeId)
    status := ← (readText (row .status)).bind ContainerStatus.ofText
    endpoint := nullableText (row .endpoint)
    stopReason := ← readNullable ContainerStopReason.ofText (row .stopReason)
    createdAt := ← readText (row .createdAt)
    updatedAt := ← readText (row .updatedAt)
    lastActivityAt := ← readText (row .lastActivityAt)
    appVersionId := nullableText (row .appVersionId)
    imageArtifactId := nullableText (row .imageArtifactId)
    imageReference := nullableText (row .imageReference) }

/-- The projection as the columns have it, before it is checked. -/
def rowProjection (row : ContainerRow) (legacy : Container) : Option WorkspaceExecutionProjection := do
  let status ← (readText (row .workspaceStatus)).bind WorkspaceStatus.ofText
  let providerId ← readText (row .providerId)
  let activeExecutionId := nullableText (row .activeExecutionId)
  let deletedAt := nullableText (row .deletedAt)
  return {
    workspace := {
      id := legacy.id
      ownerId := legacy.userId
      appId := legacy.appId
      appRevisionId := legacy.appVersionId
      storageRefId := ← readText (row .storageRefId)
      activeExecutionId := activeExecutionId
      status := status
      deletionTransactionId := nullableText (row .deletionTransactionId)
      deletionPhase := ← readNullable WorkspaceDeletionPhase.ofText (row .deletionPhase)
      deletionFailure := nullableText (row .deletionFailure)
      deletedAt := deletedAt
      createdAt := legacy.createdAt
      updatedAt := legacy.updatedAt }
    execution := {
      id := activeExecutionId.getD (workspaceExecutionId legacy.id (if truthy providerId then providerId else "docker"))
      workspaceId := legacy.id
      role := ← (readText (row .executionRole)).bind WorkspaceExecutionRole.ofText
      providerId := providerId
      environmentRef := nullableText (row .environmentRef)
      desiredGeneration := ← readNat (row .desiredGeneration)
      deployedGeneration := ← readNat (row .deployedGeneration)
      healthyGeneration := readNat (row .healthyGeneration)
      transactionId := nullableText (row .transactionId)
      transactionStatus := ← (readText (row .transactionStatus)).bind ExecutionTransactionStatus.ofText
      desiredState := ← (readText (row .desiredState)).bind WorkspaceDesiredState.ofText
      observedState := ← (readText (row .observedState)).bind WorkspaceObservedState.ofText
      desiredAppRevisionId := nullableText (row .desiredAppRevisionId)
      desiredLaunchArtifactId := nullableText (row .desiredLaunchArtifactId)
      desiredLaunchArtifactReference := nullableText (row .desiredLaunchArtifactReference)
      launchArtifactId := nullableText (row .executionImageArtifactId)
      launchArtifactReference := nullableText (row .executionImageReference)
      revision := ← readNat (row .executionRevision)
      legacyEndpoint := nullableText (row .executionEndpoint)
      stopReason := legacy.stopReason
      lastActivityAt := legacy.lastActivityAt
      retiredAt := if status = .deleted then deletedAt else none
      updatedAt := legacy.updatedAt }
    compatibility := { runtimeId := legacy.runtimeId, status := legacy.status } }

/-- All but the provider, which the older columns do not have. -/
def sameContainerCompatibility (left right : Container) : Bool :=
  { left with providerId := none } = { right with providerId := none }

def mapWorkspaceExecutionProjection (row : ContainerRow) : Except Failure WorkspaceExecutionProjection :=
  if (readNat (row .executionModelVersion)).getD 0 < 2 then .error .projection
  else
    match mapLegacyContainer row with
    | none => .error .projection
    | some legacy =>
      match rowProjection row legacy with
      | none => .error .projection
      | some p =>
        match projectWorkspaceExecutionToContainer p with
        | .error e => .error e
        | .ok reconstructed => if sameContainerCompatibility legacy reconstructed then .ok p else .error .projection

/-! ## Reading what was written -/

/-- What is read back of a projection: the row has one time of update, no retirement of its own, and
no execution id but the active one. -/
def asRead (p : WorkspaceExecutionProjection) : WorkspaceExecutionProjection :=
  { p with
    workspace := { p.workspace with updatedAt := p.execution.updatedAt }
    execution := { p.execution with
      id := p.workspace.activeExecutionId.getD (workspaceExecutionId p.workspace.id p.execution.providerId)
      workspaceId := p.workspace.id
      retiredAt := if p.workspace.status = .deleted then p.workspace.deletedAt else none } }

@[simp] theorem nullableText_ofText (s : Option String) : nullableText (.ofText s) = s := by
  cases s <;> rfl

@[simp] theorem readNat_ofNat (n : Option Nat) : readNat (.ofNat n) = n := by
  cases n <;> rfl

@[simp] theorem readNat_int (n : Nat) : readNat (.int n) = some n := rfl

theorem readNullable_map {α : Type} {ofText : String → Option α} {text : α → String}
    (h : ∀ a, ofText (text a) = some a) (a : Option α) : readNullable ofText (.ofText (a.map text)) = some a := by
  cases a with
  | none => rfl
  | some a => simp [readNullable, h]

theorem validProviderId_truthy {value : String} (h : validProviderId value = true) : truthy value = true := by
  unfold truthy
  by_cases he : value = ""
  · subst he
    simp [validProviderId] at h
  · simpa using he

theorem asRead_projectable {p : WorkspaceExecutionProjection} (h : Projectable p) : Projectable (asRead p) where
  shape := by
    rcases h.shape with a | d
    · refine .inl ⟨a.live, ?_, a.role, a.environment⟩
      simp [asRead, a.execution]
    · exact .inr ⟨d.deleted, d.execution, d.role, d.environment, d.observed, d.runtimeId, d.status⟩
  workspaceId := rfl
  provider := h.provider
  observed := h.observed
  deployed := h.deployed
  healthy := h.healthy
  revision := h.revision
  deletion := h.deletion

theorem map_written {p : WorkspaceExecutionProjection} (h : Projectable p) :
    mapWorkspaceExecutionProjection (containerWriteValues (containerOf p) p) = .ok (asRead p) := by
  have hprovider := validProviderId_truthy h.provider
  have hlegacy : mapLegacyContainer (containerWriteValues (containerOf p) p) =
      some { containerOf p with providerId := none } := by
    simp [mapLegacyContainer, containerWriteValues, readText, readNullable_map ContainerStopReason.ofText_text]
  have hrow : rowProjection (containerWriteValues (containerOf p) p) { containerOf p with providerId := none } =
      some (asRead p) := by
    simp [rowProjection, containerWriteValues, readText, hprovider, containerOf, asRead,
      readNullable_map WorkspaceDeletionPhase.ofText_text]
  have hproj : projectWorkspaceExecutionToContainer (asRead p) = .ok (containerOf (asRead p)) :=
    projectWorkspaceExecutionToContainer_ok.2 ⟨asRead_projectable h, rfl⟩
  unfold mapWorkspaceExecutionProjection
  rw [if_neg (by simp [containerWriteValues, readNat]), hlegacy]
  dsimp only
  rw [hrow]
  dsimp only
  rw [hproj]
  exact if_pos (by simp [sameContainerCompatibility, containerOf, asRead])

end OpenApp
