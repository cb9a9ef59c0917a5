import OpenApp.Lifecycle.Ports

/-!
# The lifecycle of an instance

An instance is provisioned once for a user, and removed. Both go through the manager, the one with
a reconcile that replaces nothing, the other with a deletion. Calls on one instance wait for each
other, and so do calls of one user; but a provision holds its user's queue only, and a removal the
instance's.
-/

namespace OpenApp

open Async Async.Prog Script

def MISSING_RUNTIME_RETRY_COUNT : Nat := 3

/-- The rounds a wait for a creation can take: 120 s in steps of at least 100 ms. -/
def CREATION_WAIT_ROUNDS : Nat := 1200

structure InstanceLifecycle where
  manager : Manager
  /-- whether a quota admission is set -/
  quotaAdmission : Bool

/-! ## Locks and leases -/

def withLock {α : Type} (lock : Lock) (p : LifecycleTask α) : LifecycleTask α := do
  ask (.acquire lock)
  ensuring p (ask (.release lock))

/-- `#withGlobal`; the lock on the capacity that the store may add is no lock in memory. -/
def withGlobal {α : Type} (p : LifecycleTask α) : LifecycleTask α :=
  withLock .global p

def throwIfAborted (signal : Option AbortSignal) : LifecycleTask Unit :=
  managed (Prog.await (Op.throwIfAborted signal))

def timestamp : LifecycleTask String :=
  managed (Prog.await Op.now)

/-- The guard a portal sets: no lease while another one holds it or the instance is draining. -/
def withContainerMaintenance {α : Type} (instanceId : String) (operation : AbortSignal → LifecycleTask α) :
    LifecycleTask (Option α) := do
  match ← ask (.claimMaintenance instanceId) with
  | none => pure none
  | some signal =>
    ensuring (do
        throwIfAborted signal
        if ← ask (.isInstanceDraining instanceId) then pure none
        else do
          throwIfAborted signal
          some <$> operation signal)
      (ask (.release (.maintenance instanceId)))

def withContainerLease {α : Type} (instanceId : String) (operation : AbortSignal → LifecycleTask α) :
    LifecycleTask α := do
  match ← withContainerMaintenance instanceId operation with
  | some a => pure a
  | none => throw (.lifecycle "container_maintenance_busy")

/-! ## Quota -/

/-- `#releaseQuota`; a failure is audited, and nothing more. -/
def releaseQuota (l : InstanceLifecycle) (reservationId ownerId : String) : LifecycleTask Unit :=
  if l.quotaAdmission then
    tryCatch (ask (.releaseQuota reservationId)) fun _ =>
      tryCatch (ask (.audit none "quota.release.failed" reservationId ownerId)) fun _ => pure ()
  else pure ()

/-- What a provision reserves before its record is saved. -/
def reserveQuota (l : InstanceLifecycle) (reservationId userId providerId : String) (resources : ContainerResources) :
    LifecycleTask Unit :=
  if l.quotaAdmission then ask (.reserveQuota reservationId userId providerId resources) else pure ()

/-! ## From what runs to the record -/

def catalogSnapshotsEqual (left right : ContainerCatalogSnapshot) : Bool :=
  left.appId = right.appId && left.appVersionId = right.appVersionId
    && left.imageArtifactId = right.imageArtifactId && left.imageReference = right.imageReference

/-- `catalogSnapshot(container)` -/
def containerSnapshot (container : Container) : Option ContainerCatalogSnapshot :=
  match container.imageReference with
  | none => none
  | some imageReference =>
    if truthy imageReference then some {
      appId := container.appId
      appVersionId := container.appVersionId
      imageArtifactId := container.imageArtifactId
      imageReference := imageReference }
    else none

def assertCatalogSnapshot (snapshot : Option ContainerCatalogSnapshot) : LifecycleTask Unit :=
  match snapshot with
  | none => pure ()
  | some snapshot => do
    let valid ← ask (.isCatalogSnapshotValid snapshot)
    throwIf (valid = false) (.lifecycle "container_catalog_mismatch")

/-- The record as the instance shows it; a running one that is found stopped has failed, and a
failed one that is found stopped still has. -/
def updatedContainer (record : Container) (inst : ContainerInstance) (stopReason : Option ContainerStopReason)
    (expectedState : Option WorkspaceDesiredState) (latestActivityAt : Option String) (updatedAt : String) :
    Container :=
  let stoppedUnexpectedly : Bool :=
    match expectedState with
    | some .running => inst.state = .stopped
    | some .stopped => false
    | none => record.status = .running && inst.state = .stopped && stopReason.isNone
  let preserveFailure : Bool :=
    expectedState.isNone && record.status = .failed && !inst.rebuildRecovered && inst.state = .stopped
  let failed := stoppedUnexpectedly || preserveFailure
  { record with
    appVersionId := match inst.catalogSnapshot with
      | some snapshot => snapshot.appVersionId
      | none => record.appVersionId
    imageArtifactId := match inst.catalogSnapshot with
      | some snapshot => snapshot.imageArtifactId
      | none => record.imageArtifactId
    imageReference := match inst.catalogSnapshot with
      | some snapshot => some snapshot.imageReference
      | none => record.imageReference
    runtimeId := inst.runtimeId
    status := if failed then .failed else inst.state
    endpoint := if failed then none else inst.endpoint
    stopReason :=
      if failed || inst.state = .failed then some .failure
      else if inst.state = .running then none
      else stopReason
    updatedAt := updatedAt
    lastActivityAt := match latestActivityAt with
      | some latest => if truthy latest then latestTimestamp record.lastActivityAt latest else record.lastActivityAt
      | none => record.lastActivityAt }

def projectRuntimeInstance (record : Container) (inst : ContainerInstance) (stopReason : Option ContainerStopReason)
    (expectedState : Option WorkspaceDesiredState) (latestActivityAt : Option String)
    (expectedCatalogSnapshot : Option ContainerCatalogSnapshot) : LifecycleTask Container := do
  throwIf (inst.ownerId ≠ record.userId) (.lifecycle "container_owner_mismatch")
  throwIf (inst.providerId.any (fun p => truthy p && p ≠ record.providerId.getD "docker") = true)
    (.lifecycle "container_provider_mismatch")
  throwIf (inst.catalogSnapshot.any (fun s => s.appId ≠ record.appId) = true)
    (.lifecycle "container_catalog_mismatch")
  throwIf (inst.catalogSnapshot.any (fun s => expectedCatalogSnapshot.any fun e => !catalogSnapshotsEqual s e) = true)
    (.lifecycle "container_catalog_mismatch")
  assertCatalogSnapshot (inst.catalogSnapshot <|> containerSnapshot record)
  let updatedAt ← timestamp
  pure (updatedContainer record inst stopReason expectedState latestActivityAt updatedAt)

/-- `updateContainer`, which a managed portal writes through the manager -/
def updateContainer (container : Container) : LifecycleTask Unit :=
  managed (persistLegacyContainer container)

def persistRuntimeInstance (record : Container) (inst : ContainerInstance) (stopReason : Option ContainerStopReason)
    (expectedState : Option WorkspaceDesiredState) (expectedCatalogSnapshot : Option ContainerCatalogSnapshot) :
    LifecycleTask Container := do
  let latest ← ask (.getContainer record.id)
  let updated ← projectRuntimeInstance record inst stopReason expectedState (latest.map (·.lastActivityAt))
    expectedCatalogSnapshot
  updateContainer updated
  pure updated

/-! ## Waiting, looking and starting -/

def waitForCreation (signal : Option AbortSignal) : Nat → Container → LifecycleTask Container
  | 0, current =>
    if current.status = .creating then throw (.lifecycle "container_not_ready") else pure current
  | n + 1, current =>
    if current.status = .creating then do
      if ← ask .beforeDeadline then
        throwIfAborted signal
        ask .sleep
        throwIfAborted signal
        match ← ask (.getContainer current.id) with
        | none => throw (.lifecycle "container_not_found")
        | some refreshed => waitForCreation signal n refreshed
      else throw (.lifecycle "container_not_ready")
    else pure current

def lookAgain (id : String) (signal : AbortSignal) : Nat → LifecycleTask (Option ContainerInstance)
  | 0 => pure none
  | n + 1 => do
    throwIfAborted signal
    ask .sleep
    throwIfAborted signal
    match ← ask (.runtimeGet id signal) with
    | some inst => pure (some inst)
    | none => lookAgain id signal n

def syncRecord (record : Container) (signal : AbortSignal) : LifecycleTask Container := do
  throwIfAborted signal
  let first ← ask (.runtimeGet record.id signal)
  let inst ← if first.isNone ∧ record.status ≠ .failed then lookAgain record.id signal MISSING_RUNTIME_RETRY_COUNT
    else pure first
  match inst with
  | some inst => persistRuntimeInstance record inst record.stopReason none none
  | none =>
    if record.status = .failed then pure record else throw (.lifecycle "runtime_observation_unavailable")

def requireContainer (id : String) : LifecycleTask Container := do
  match ← ask (.getContainer id) with
  | some record => pure record
  | none => throw (.lifecycle "container_not_found")

def sync (id : String) : LifecycleTask Container :=
  withContainerLease id fun signal => withLock (.container id) do
    throwIfAborted signal
    let record ← ask (.getContainer id)
    throwIfAborted signal
    match record with
    | none => throw (.lifecycle "container_not_found")
    | some record => do
      let settled ← waitForCreation signal CREATION_WAIT_ROUNDS record
      syncRecord settled signal

/-- What `#startLocked` does about a failure. -/
def startFailed (id : String) (current : Container) (quotaTransitioned : Bool) (signal : AbortSignal)
    (error : Failure) : LifecycleTask Container := do
  match ← ask (.aborted signal) with
  | some reason => throw reason
  | none => do
    throwIf (error = .quota "quota_reservation_not_found") error
    if quotaTransitioned then
      tryCatch (do let _ ← ask (.transitionQuota id .stopped)) fun _ => pure ()
    let recovered ← tryCatch (ask (.runtimeGet id signal)) fun _ => pure none
    match ← ask (.aborted signal) with
    | some reason => throw reason
    | none =>
      match recovered with
      | some inst =>
        if inst.ownerId = current.userId then do
          let _ ← persistRuntimeInstance current inst current.stopReason none none
          throw error
        else throw error
      | none => throw error

/-- The quota has moved, where there is one; what the start comes to. -/
def startAdmitted (l : InstanceLifecycle) (id : String) (current : Container) (quotaTransitioned : Bool)
    (signal : AbortSignal) : LifecycleTask Container := do
  match ← settle (do
      let inst ← managed (reconcileCurrent l.manager id .running (some signal))
      throwIfAborted signal
      pure inst) with
  | .error error => startFailed id current quotaTransitioned signal error
  -- returned, not awaited: a failure to persist is not handled here
  | .ok inst => persistRuntimeInstance current inst current.stopReason (some .running) none

/-- The capacity and the quota, for an instance that is found stopped. -/
def startStopped (l : InstanceLifecycle) (id : String) (current : Container) (signal : AbortSignal) :
    LifecycleTask Container := do
  let policy ← ask .getProvisioningPolicy
  let all ← ask .listContainers
  let running := (all.filter fun item => item.status = .running || item.status = .creating).length
  throwIf (policy.maxRunningInstances ≤ running) (.lifecycle "running_limit_reached")
  match ← settle (if l.quotaAdmission then ask (.transitionQuota id .running) else pure false) with
  | .error error => startFailed id current false signal error
  | .ok quotaTransitioned =>
    if l.quotaAdmission ∧ quotaTransitioned = false then
      startFailed id current false signal (.quota "quota_reservation_not_found")
    else startAdmitted l id current quotaTransitioned signal

def startLocked (l : InstanceLifecycle) (id : String) (signal : AbortSignal) : LifecycleTask Container := withGlobal do
  throwIfAborted signal
  let record ← ask (.getContainer id)
  throwIfAborted signal
  match record with
  | none => throw (.lifecycle "container_not_found")
  | some record => do
    let settled ← waitForCreation signal CREATION_WAIT_ROUNDS record
    let current ← syncRecord settled signal
    if current.status = .running then pure current
    else do
      throwIf (current.status ≠ .stopped) (.lifecycle "container_not_ready")
      let fresh ← ask (.getContainer id)
      throwIfAborted signal
      match fresh with
      | none => throw (.lifecycle "container_not_found")
      | some fresh =>
        if fresh.status = .running then syncRecord fresh signal
        else do
          throwIf (fresh.status ≠ .stopped) (.lifecycle "container_not_ready")
          startStopped l id current signal

def InstanceLifecycle.start (l : InstanceLifecycle) (id : String) : LifecycleTask Container :=
  withContainerLease id fun signal => withLock (.container id) (startLocked l id signal)

/-! ## Reading and stopping -/

def observeAgain (id : String) : Nat → LifecycleTask (Option ContainerInstance)
  | 0 => pure none
  | n + 1 => do
    ask .sleep
    match ← ask (.runtimeGet id none) with
    | some inst => pure (some inst)
    | none => observeAgain id n

/-- `read`, for a caller that gives no signal: a look, which takes no lease and writes nothing. A
runtime that cannot observe leaves the record as it is. -/
def InstanceLifecycle.read (observes : Bool) (id : String) : LifecycleTask Container := do
  let record ← requireContainer id
  let settled ← waitForCreation none CREATION_WAIT_ROUNDS record
  if observes then do
    let first ← ask (.runtimeGet id none)
    let inst ← if first.isNone then observeAgain id MISSING_RUNTIME_RETRY_COUNT else pure first
    match inst with
    | some inst => projectRuntimeInstance settled inst settled.stopReason none none none
    | none =>
      if settled.status = .failed then pure settled else throw (.lifecycle "runtime_observation_unavailable")
  else pure settled

/-- The quota has moved, where there is one; what the stop comes to. -/
def stopAdmitted (l : InstanceLifecycle) (id : String) (current : Container) (reason : ContainerStopReason)
    (quotaTransitioned : Bool) (signal : AbortSignal) : LifecycleTask Container := do
  match ← settle (do
      let inst ← managed (reconcileCurrent l.manager id .stopped (some signal))
      throwIfAborted signal
      pure inst) with
  | .error error => do
    if quotaTransitioned then
      tryCatch (do let _ ← ask (.transitionQuota id .running)) fun _ => pure ()
    throw error
  -- returned, not awaited: a failure to persist is not handled here
  | .ok inst => persistRuntimeInstance current inst (some reason) none none

def stopRunning (l : InstanceLifecycle) (id : String) (current : Container) (reason : ContainerStopReason)
    (signal : AbortSignal) : LifecycleTask Container := do
  let quotaTransitioned ← if l.quotaAdmission then ask (.transitionQuota id .stopped) else pure false
  stopAdmitted l id current reason quotaTransitioned signal

def stopLocked (l : InstanceLifecycle) (id : String) (reason : ContainerStopReason) (signal : AbortSignal) :
    LifecycleTask Container := withGlobal do
  throwIfAborted signal
  let record ← ask (.getContainer id)
  throwIfAborted signal
  match record with
  | none => throw (.lifecycle "container_not_found")
  | some record => do
    let settled ← waitForCreation signal CREATION_WAIT_ROUNDS record
    let current ← syncRecord settled signal
    if current.status = .stopped then do
      -- it is stopped already: only the reason is new
      let updatedAt ← timestamp
      let stopped : Container := { current with stopReason := some reason, updatedAt := updatedAt }
      updateContainer stopped
      pure stopped
    else do
      throwIf (current.status ≠ .running) (.lifecycle "container_not_ready")
      stopRunning l id current reason signal

def InstanceLifecycle.stop (l : InstanceLifecycle) (id : String) (reason : ContainerStopReason) :
    LifecycleTask Container :=
  withContainerLease id fun signal => withLock (.container id) (stopLocked l id reason signal)

/-! ## Provisioning -/

structure ProvisionResult where
  container : Container
  created : Bool

structure Reservation where
  id : String
  policy : ProvisioningPolicy
  pending : Container
  launchTarget : AppLaunchTarget
  quotaReserved : Bool

def toLaunchProfile (policy : ProvisioningPolicy) (imageReference : String) : ContainerLaunchProfile where
  imageReference := imageReference
  resources := policy.resources
  environment := policy.environment
  configFiles := policy.configFiles

def assertNoLiveWorkspaceForUser (userId : String) : LifecycleTask Unit := do
  let liveWorkspace ← ask (.getLiveWorkspaceExecutionForUser userId)
  throwIf (liveWorkspace.isSome = true) (.lifecycle "container_not_ready")

def returnExisting (l : InstanceLifecycle) (record : Container) (userId : String) (startExisting : Bool) :
    LifecycleTask ProvisionResult := do
  let settled ← waitForCreation none CREATION_WAIT_ROUNDS record
  ask (.markUserAppInitialized userId)
  let current ← sync settled.id
  if startExisting ∧ current.status = .stopped then do
    let started ← l.start current.id
    pure ⟨started, false⟩
  else pure ⟨current, false⟩

def pendingContainer (id userId appId providerId now : String) (launchTarget : AppLaunchTarget) : Container where
  id := id
  userId := userId
  appId := appId
  providerId := some providerId
  runtimeId := "pending"
  status := .creating
  endpoint := none
  stopReason := none
  createdAt := now
  updatedAt := now
  lastActivityAt := now
  appVersionId := some launchTarget.version.id
  imageArtifactId := launchTarget.version.imageArtifactId
  imageReference := some launchTarget.imageReference

/-- The pending record is saved, or what was reserved for it is given back. -/
def saveReservation (l : InstanceLifecycle) (userId appId id providerId : String) (policy : ProvisioningPolicy)
    (launchTarget : AppLaunchTarget) : LifecycleTask Reservation := do
  reserveQuota l id userId providerId policy.resources
  let now ← timestamp
  let pending := pendingContainer id userId appId providerId now launchTarget
  tryCatch (managed (Prog.await (Op.saveContainer pending))) fun error => do
    if l.quotaAdmission then releaseQuota l id userId
    throw error
  pure ⟨id, policy, pending, launchTarget, l.quotaAdmission⟩

/-- The policy, the target of the App and the capacity, and then the reservation. -/
def admitProvision (l : InstanceLifecycle) (userId appId : String) : LifecycleTask Reservation := do
  let policy ← ask .getProvisioningPolicy
  let launchTarget ← ask (.getLaunchTarget appId)
  let all ← ask .listContainers
  throwIf (policy.maxTotalInstances ≤ all.length) (.lifecycle "total_limit_reached")
  let occupied := (all.filter fun item => item.status = .running || item.status = .creating).length
  throwIf (policy.maxRunningInstances ≤ occupied) (.lifecycle "running_limit_reached")
  let id ← managed (Prog.await Op.randomId)
  let providerId ← ask (.providerIdForApp appId)
  saveReservation l userId appId id providerId policy launchTarget

/-- The reservation on the left, or the container the user has already. -/
def reserveProvision (l : InstanceLifecycle) (userId appId : String) (authorize : Bool) :
    LifecycleTask (Reservation ⊕ Container) := withGlobal do
  match ← ask (.getContainerForUser userId) with
  | some existing => pure (.inr existing)
  | none => do
    assertNoLiveWorkspaceForUser userId
    if authorize then ask (.authorizeApp appId)
    let reservation ← admitProvision l userId appId
    pure (.inl reservation)

def provisionRequest (reservation : Reservation) (userId : String) : ProvisionContainerRequest where
  instanceId := reservation.id
  ownerId := userId
  providerId := reservation.pending.providerId.filter truthy
  executionContract := some reservation.launchTarget.version.runtimeContract
  appId := some reservation.pending.appId
  appVersionId := reservation.pending.appVersionId
  imageArtifactId := reservation.pending.imageArtifactId
  imageReference := reservation.pending.imageReference
  sourceCatalogSnapshot := none
  launchProfile := some (toLaunchProfile reservation.policy reservation.launchTarget.imageReference)
  start := true
  rebuildTransactionId := none
  signal := none

def provisionReserved (l : InstanceLifecycle) (userId : String) (reservation : Reservation) :
    LifecycleTask ProvisionResult := do
  let container ← tryCatch (do
      let inst ← managed (bridgeProvision l.manager (provisionRequest reservation userId))
      persistRuntimeInstance reservation.pending inst reservation.pending.stopReason none none)
    fun error => do
      ensuring (do
          let updatedAt ← timestamp
          updateContainer { reservation.pending with
            status := .failed, endpoint := none, stopReason := some .failure, updatedAt := updatedAt })
        (if reservation.quotaReserved then releaseQuota l reservation.id userId else pure ())
      throw error
  ask (.markUserAppInitialized userId)
  pure ⟨container, true⟩

def provisionForUserLocked (l : InstanceLifecycle) (userId appId : String) (startExisting authorize : Bool) :
    LifecycleTask ProvisionResult := do
  match ← ask (.getContainerForUser userId) with
  | some existing => returnExisting l existing userId startExisting
  | none => do
    assertNoLiveWorkspaceForUser userId
    match ← reserveProvision l userId appId authorize with
    | .inr existing => returnExisting l existing userId startExisting
    | .inl reservation => provisionReserved l userId reservation

def provisionForUser (l : InstanceLifecycle) (userId appId : String) (startExisting authorize : Bool) :
    LifecycleTask ProvisionResult :=
  withLock (.user userId) (provisionForUserLocked l userId appId startExisting authorize)

/-! ## Removing -/

/-- The deletion of the Workspace goes in rounds, all under the lease, the instance's queue and the
global one, which are let go in the end. -/
def letGo (id : String) : LifecycleTask Unit := do
  ask (.release .global)
  ask (.release (.container id))
  ask (.release (.maintenance id))

/-- `remove`, up to where the deletion of the Workspace has begun. -/
def beginRemoval (l : InstanceLifecycle) (id : String) :
    LifecycleTask (AbortSignal × WorkspaceExecutionProjection) := do
  match ← ask (.claimMaintenance id) with
  | none => throw (.lifecycle "container_maintenance_busy")
  | some signal =>
    guarded (do
        throwIfAborted signal
        if ← ask (.isInstanceDraining id) then throw (.lifecycle "container_maintenance_busy")
        throwIfAborted signal
        ask (.acquire (.container id))
        guarded (do
            ask (.acquire .global)
            guarded (do
                throwIfAborted signal
                let current ← managed (startDeletion l.manager ⟨id, none, some signal⟩)
                pure (signal, current))
              (ask (.release .global)))
          (ask (.release (.container id))))
      (ask (.release (.maintenance id)))

/-- What `remove` does once the Workspace is deleted. -/
def finishRemoval (l : InstanceLifecycle) (id : String) (actorUserId : Option String) (ownerId : String) :
    LifecycleTask Unit := do
  releaseQuota l id ownerId
  ask (.markUserAppInitialized ownerId)
  ask (.audit actorUserId "container.delete" id ownerId)

/-- One round of the deletion that `remove` waits for: on the left the row the next round starts
from. -/
def removalRound (l : InstanceLifecycle) (id : String) (actorUserId : Option String) (signal : AbortSignal)
    (current : WorkspaceExecutionProjection) : LifecycleTask (WorkspaceExecutionProjection ⊕ Unit) := do
  let next : WorkspaceExecutionProjection ⊕ Unit ← guarded (do
      match ← managed (deletionRound l.manager ⟨id, none, some signal⟩ current) with
      | .inl current => pure (.inl current)
      | .inr deleted => do
        finishRemoval l id actorUserId deleted.workspace.ownerId
        pure (.inr ()))
    (letGo id)
  match next with
  | .inl current => pure (.inl current)
  | .inr () => do
    letGo id
    pure (.inr ())

end OpenApp
