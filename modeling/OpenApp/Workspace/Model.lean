import OpenApp.Script
import OpenApp.Workspace.Types

/-!
# The container record and the Workspace projection

The older container record and the projection are views of one row. Going from the record to
the projection builds the first generation; going back checks that the projection has a shape
the store may hold. A stored projection is replaced only along the transitions that keep its
identity, move its status forward and roll no generation back.
-/

namespace OpenApp

open Script

/-! ## Provider identities -/

/-- `/^[a-z][a-z0-9._-]{0,63}$/u` -/
def validProviderId (value : String) : Bool :=
  match value.toList with
  | [] => false
  | c :: cs =>
    c.isLower && cs.length ≤ 63 && cs.all fun c => c.isLower || c.isDigit || c = '.' || c = '_' || c = '-'

/-- `value?.trim().toLowerCase() || "docker"` -/
def loweredProviderId (value : Option String) : String :=
  let normalized := toLowerCase (trim (value.getD ""))
  if truthy normalized then normalized else "docker"

def normalizeProviderId (value : Option String) : Except Failure String :=
  if validProviderId (loweredProviderId value) then .ok (loweredProviderId value) else .error .projection

theorem normalizeProviderId_valid {value : Option String} {providerId : String}
    (h : normalizeProviderId value = .ok providerId) : validProviderId providerId = true := by
  unfold normalizeProviderId at h
  by_cases hv : validProviderId (loweredProviderId value) = true
  · rw [if_pos hv, Except.ok.injEq] at h
    subst h
    exact hv
  · rw [if_neg hv] at h
    cases h

/-! ## From the record to the projection -/

def environmentRefOf (runtimeId : String) : Option String :=
  if runtimeId = "pending" then none else some runtimeId

def projectContainerToWorkspaceExecution (container : Container) : Except Failure WorkspaceExecutionProjection := do
  let providerId ← normalizeProviderId container.providerId
  let executionId := workspaceExecutionId container.id providerId
  return {
    workspace := {
      id := container.id
      ownerId := container.userId
      appId := container.appId
      appRevisionId := container.appVersionId
      storageRefId := workspaceStorageRefId container.id
      activeExecutionId := some executionId
      status := .active
      deletionTransactionId := none
      deletionPhase := none
      deletionFailure := none
      deletedAt := none
      createdAt := container.createdAt
      updatedAt := container.updatedAt }
    execution := {
      id := executionId
      workspaceId := container.id
      role := .active
      providerId := providerId
      environmentRef := environmentRefOf container.runtimeId
      desiredGeneration := 1
      deployedGeneration := if container.status = .creating then 0 else 1
      healthyGeneration := if container.status = .running then some 1 else none
      transactionId := some (legacyImportTransactionId container.id)
      transactionStatus :=
        match container.status with
        | .creating => .progressing
        | .failed => .failed
        | _ => .applied
      desiredState := if container.status = .stopped then .stopped else .running
      observedState := container.status.observed
      desiredAppRevisionId := container.appVersionId
      desiredLaunchArtifactId := container.imageArtifactId
      desiredLaunchArtifactReference := container.imageReference
      launchArtifactId := container.imageArtifactId
      launchArtifactReference := container.imageReference
      revision := 1
      legacyEndpoint := container.endpoint
      stopReason := container.stopReason
      lastActivityAt := container.lastActivityAt
      retiredAt := none
      updatedAt := container.updatedAt }
    compatibility := { runtimeId := container.runtimeId, status := container.status } }

/-! ## From the projection to the record -/

structure ActiveShape (p : WorkspaceExecutionProjection) : Prop where
  live : p.workspace.status ≠ .deleted
  execution : p.workspace.activeExecutionId = some p.execution.id
  role : p.execution.role = .active
  environment : p.execution.environmentRef = environmentRefOf p.compatibility.runtimeId

structure DeletedShape (p : WorkspaceExecutionProjection) : Prop where
  deleted : p.workspace.status = .deleted
  execution : p.workspace.activeExecutionId = none
  role : p.execution.role = .retired
  environment : p.execution.environmentRef = none
  observed : p.execution.observedState = .absent
  runtimeId : p.compatibility.runtimeId = "deleted"
  status : p.compatibility.status = .stopped

instance (p : WorkspaceExecutionProjection) : Decidable (ActiveShape p) :=
  decidable_of_iff (p.workspace.status ≠ .deleted ∧ p.workspace.activeExecutionId = some p.execution.id ∧
      p.execution.role = .active ∧ p.execution.environmentRef = environmentRefOf p.compatibility.runtimeId)
    ⟨fun ⟨a, b, c, d⟩ => ⟨a, b, c, d⟩, fun ⟨a, b, c, d⟩ => ⟨a, b, c, d⟩⟩

instance (p : WorkspaceExecutionProjection) : Decidable (DeletedShape p) :=
  decidable_of_iff (p.workspace.status = .deleted ∧ p.workspace.activeExecutionId = none ∧
      p.execution.role = .retired ∧ p.execution.environmentRef = none ∧ p.execution.observedState = .absent ∧
      p.compatibility.runtimeId = "deleted" ∧ p.compatibility.status = .stopped)
    ⟨fun ⟨a, b, c, d, e, f, g⟩ => ⟨a, b, c, d, e, f, g⟩, fun ⟨a, b, c, d, e, f, g⟩ => ⟨a, b, c, d, e, f, g⟩⟩

def validDeletionState (w : Workspace) : Bool :=
  match w.status with
  | .active =>
    w.deletionTransactionId.isNone && w.deletionPhase.isNone && w.deletionFailure.isNone && w.deletedAt.isNone
  | .deleting =>
    w.deletionTransactionId.any truthy && w.deletionPhase.any (· ≠ .deleted) && w.deletedAt.isNone
  | .deleted =>
    w.deletionTransactionId.any truthy && w.deletionPhase = some .deleted && w.deletedAt.isSome

/-- The projections the store may hold: what `projectWorkspaceExecutionToContainer` lets through. -/
structure Projectable (p : WorkspaceExecutionProjection) : Prop where
  shape : ActiveShape p ∨ DeletedShape p
  workspaceId : p.execution.workspaceId = p.workspace.id
  provider : validProviderId p.execution.providerId = true
  observed : p.workspace.status ≠ .deleted → p.execution.observedState = p.compatibility.status.observed
  deployed : p.execution.deployedGeneration ≤ p.execution.desiredGeneration
  healthy : ∀ h ∈ p.execution.healthyGeneration, h ≤ p.execution.deployedGeneration
  revision : 1 ≤ p.execution.revision
  deletion : validDeletionState p.workspace = true

instance (p : WorkspaceExecutionProjection) : Decidable (Projectable p) :=
  decidable_of_iff ((ActiveShape p ∨ DeletedShape p) ∧ p.execution.workspaceId = p.workspace.id ∧
      validProviderId p.execution.providerId = true ∧
      (p.workspace.status ≠ .deleted → p.execution.observedState = p.compatibility.status.observed) ∧
      p.execution.deployedGeneration ≤ p.execution.desiredGeneration ∧
      (∀ h ∈ p.execution.healthyGeneration, h ≤ p.execution.deployedGeneration) ∧
      1 ≤ p.execution.revision ∧ validDeletionState p.workspace = true)
    ⟨fun ⟨a, b, c, d, e, f, g, h⟩ => ⟨a, b, c, d, e, f, g, h⟩, fun ⟨a, b, c, d, e, f, g, h⟩ => ⟨a, b, c, d, e, f, g, h⟩⟩

theorem Projectable.activeShape {p : WorkspaceExecutionProjection} (h : Projectable p)
    (hlive : p.workspace.status ≠ .deleted) : ActiveShape p :=
  h.shape.resolve_right fun d => hlive d.deleted

def containerOf (p : WorkspaceExecutionProjection) : Container where
  id := p.workspace.id
  userId := p.workspace.ownerId
  appId := p.workspace.appId
  providerId := if p.execution.providerId = "docker" then none else some p.execution.providerId
  runtimeId := p.compatibility.runtimeId
  status := p.compatibility.status
  endpoint := p.execution.legacyEndpoint
  stopReason := p.execution.stopReason
  createdAt := p.workspace.createdAt
  updatedAt := p.execution.updatedAt
  lastActivityAt := p.execution.lastActivityAt
  appVersionId := p.workspace.appRevisionId
  imageArtifactId := p.execution.launchArtifactId
  imageReference := p.execution.launchArtifactReference

def projectWorkspaceExecutionToContainer (p : WorkspaceExecutionProjection) : Except Failure Container :=
  if Projectable p then .ok (containerOf p) else .error .projection

theorem projectWorkspaceExecutionToContainer_ok {p : WorkspaceExecutionProjection} {c : Container} :
    projectWorkspaceExecutionToContainer p = .ok c ↔ Projectable p ∧ c = containerOf p := by
  unfold projectWorkspaceExecutionToContainer
  split <;> simp_all [eq_comm]

/-! ## Transitions -/

def validWorkspaceStatusTransition : WorkspaceStatus → WorkspaceStatus → Bool
  | .active, next => next = .active || next = .deleting
  | .deleting, next => next = .deleting || next = .deleted
  | .deleted, next => next = .deleted

def generationValue (value : Option Nat) : Int :=
  match value with
  | none => -1
  | some n => n

structure SameIdentity (current next : WorkspaceExecutionProjection) : Prop where
  id : current.workspace.id = next.workspace.id
  ownerId : current.workspace.ownerId = next.workspace.ownerId
  createdAt : current.workspace.createdAt = next.workspace.createdAt
  storageRefId : current.workspace.storageRefId = next.workspace.storageRefId
  executionId : current.execution.id = next.execution.id
  workspaceId : current.execution.workspaceId = next.execution.workspaceId
  providerId : current.execution.providerId = next.execution.providerId

instance (current next : WorkspaceExecutionProjection) : Decidable (SameIdentity current next) :=
  decidable_of_iff (current.workspace.id = next.workspace.id ∧ current.workspace.ownerId = next.workspace.ownerId ∧
      current.workspace.createdAt = next.workspace.createdAt ∧
      current.workspace.storageRefId = next.workspace.storageRefId ∧ current.execution.id = next.execution.id ∧
      current.execution.workspaceId = next.execution.workspaceId ∧
      current.execution.providerId = next.execution.providerId)
    ⟨fun ⟨a, b, c, d, e, f, g⟩ => ⟨a, b, c, d, e, f, g⟩, fun ⟨a, b, c, d, e, f, g⟩ => ⟨a, b, c, d, e, f, g⟩⟩

def assertWorkspaceExecutionTransition (current next : WorkspaceExecutionProjection) : Except Failure Unit := do
  let _ ← projectWorkspaceExecutionToContainer current
  let _ ← projectWorkspaceExecutionToContainer next
  if ¬ SameIdentity current next ∨
      validWorkspaceStatusTransition current.workspace.status next.workspace.status = false then
    .error .projection
  else if next.execution.desiredGeneration < current.execution.desiredGeneration ∨
      next.execution.deployedGeneration < current.execution.deployedGeneration ∨
      generationValue next.execution.healthyGeneration < generationValue current.execution.healthyGeneration then
    .error .generationRollback
  else .ok ()

/-- What an accepted transition guarantees. -/
structure Transition (current next : WorkspaceExecutionProjection) : Prop where
  from_ok : Projectable current
  to_ok : Projectable next
  identity : SameIdentity current next
  status : validWorkspaceStatusTransition current.workspace.status next.workspace.status = true
  desired : current.execution.desiredGeneration ≤ next.execution.desiredGeneration
  deployed : current.execution.deployedGeneration ≤ next.execution.deployedGeneration
  healthy : generationValue current.execution.healthyGeneration ≤ generationValue next.execution.healthyGeneration

theorem assertWorkspaceExecutionTransition_ok {current next : WorkspaceExecutionProjection} :
    assertWorkspaceExecutionTransition current next = .ok () ↔ Transition current next := by
  constructor
  · intro h
    unfold assertWorkspaceExecutionTransition projectWorkspaceExecutionToContainer at h
    by_cases hc : Projectable current <;> by_cases hn : Projectable next <;>
      simp only [hc, hn, if_true, if_false] at h
    · change (if _ then _ else if _ then _ else _) = _ at h
      split at h
      · cases h
      · split at h
        · cases h
        · next hid hgen =>
          simp only [not_or, not_not, Bool.not_eq_false] at hid hgen
          exact ⟨hc, hn, hid.1, hid.2, by omega, by omega, by omega⟩
    · cases h
    · cases h
    · cases h
  · intro h
    unfold assertWorkspaceExecutionTransition projectWorkspaceExecutionToContainer
    simp only [h.from_ok, h.to_ok, if_true]
    change (if _ then _ else if _ then _ else _) = _
    rw [if_neg (by simp [h.identity, h.status]),
      if_neg (by have := h.desired; have := h.deployed; have := h.healthy; omega)]

/-- A record makes a projection the store may hold, whatever its status. -/
theorem projectContainer_projectable {c : Container} {p : WorkspaceExecutionProjection}
    (h : projectContainerToWorkspaceExecution c = .ok p) : Projectable p := by
  unfold projectContainerToWorkspaceExecution at h
  cases hp : normalizeProviderId c.providerId with
  | error e => rw [hp] at h; cases h
  | ok providerId =>
    have hvalid := normalizeProviderId_valid hp
    simp only [hp, bind, Except.bind, pure, Except.pure, Except.ok.injEq] at h
    subst h
    refine ⟨.inl ⟨?_, ?_, ?_, ?_⟩, ?_, hvalid, ?_, ?_, ?_, ?_, ?_⟩ <;> try simp [validDeletionState]
    · cases c.status <;> decide
    · cases c.status <;> simp

end OpenApp
