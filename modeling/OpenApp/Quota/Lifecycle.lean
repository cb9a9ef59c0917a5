import OpenApp.Lifecycle.Instance
import OpenApp.Quota.Admission
import OpenApp.Async.Outcome

/-!
# The lifecycle and its ledger

The lifecycle of an instance over any runtime, any catalog and any guard of its leases: they answer
as they like, or fail. The records and the quota ledger are kept: a call to them does what the store
and the admission do, or fails and does nothing. Operations come one after the other here, so the
queues of the process are left out.
-/

namespace OpenApp.Quota

open Async Async.Prog Script

/-! ## Ports -/

/-- What a call to a port throws. -/
inductive PortFailure
  /-- `ContainerRebuildRollbackError` -/
  | rolledBack (recoveredInstance : ContainerInstance)
  | quota (error : QuotaAdmissionError)
  | failure (error : Failure)

/-- The policy, with what the idle sweep reads of it. -/
structure LifecyclePolicy extends ProvisioningPolicy where
  idleStopMinutes : Nat
  detectNetworkActivity : Bool
  detectComputeActivity : Bool

/-- A call that makes the runtime do something, and is answered with the instance. -/
inductive RuntimeCall
  | provision (request : ProvisionContainerRequest)
  | start (id : String)
  | stop (id : String)
  | rebuild (request : ProvisionContainerRequest)

def RuntimeCall.instanceId : RuntimeCall → String
  | .provision request => request.instanceId
  | .start id => id
  | .stop id => id
  | .rebuild request => request.instanceId

inductive PortOp
  | getContainer (id : String)
  | getContainerForUser (userId : String)
  | getLiveWorkspaceExecutionForUser (userId : String)
  | listContainers
  | saveContainer (container : Container)
  | updateContainer (container : Container)
  | touchContainer (id touchedAt : String)
  | deleteContainer (id : String)
  | markUserAppInitialized (userId : String)
  | getProvisioningPolicy
  | getLaunchTarget (appId : String)
  | isCatalogSnapshotValid (snapshot : ContainerCatalogSnapshot)
  | authorizeApp (appId : String)
  | providerIdForApp (appId : String)
  /-- the guard of the maintenance leases lets the operation through -/
  | claimMaintenance (id : String)
  | throwIfAborted
  /-- `signal.aborted`, with the reason -/
  | aborted
  | now
  | randomId
  /-- a timer -/
  | sleep
  /-- `Date.now() < deadline` -/
  | beforeDeadline
  | audit (actorUserId : Option String) (action resourceId ownerId : String)
  | reserve (request : QuotaRequestInput) (now : String)
  | transition (reservationId : String) (desiredState : QuotaDesiredState)
  | release (reservationId : String)
  | runtime (call : RuntimeCall)
  | runtimeRemove (id ownerId : String)
  | runtimeGet (id : String)
  /-- whether what the runtime measures counts as activity, also where nothing was measured before -/
  | sampleActivity (id : String)
  /-- the handler that deletes a Workspace for good; its answer is the owner -/
  | deleteWorkspace (id : String)

abbrev PortOp.Answer : PortOp → Type
  | .getContainer _ => Option Container
  | .getContainerForUser _ => Option Container
  | .getLiveWorkspaceExecutionForUser _ => Option WorkspaceExecutionProjection
  | .listContainers => List Container
  | .saveContainer _ => Unit
  | .updateContainer _ => Unit
  | .touchContainer _ _ => Unit
  | .deleteContainer _ => Unit
  | .markUserAppInitialized _ => Unit
  | .getProvisioningPolicy => LifecyclePolicy
  | .getLaunchTarget _ => AppLaunchTarget
  | .isCatalogSnapshotValid _ => Bool
  | .authorizeApp _ => Unit
  | .providerIdForApp _ => String
  | .claimMaintenance _ => Bool
  | .throwIfAborted => Unit
  | .aborted => Option Failure
  | .now => String
  | .randomId => String
  | .sleep => Unit
  | .beforeDeadline => Bool
  | .audit _ _ _ _ => Unit
  | .reserve _ _ => QuotaReservation
  | .transition _ _ => Bool
  | .release _ => Bool
  | .runtime _ => ContainerInstance
  | .runtimeRemove _ _ => Unit
  | .runtimeGet _ => Option ContainerInstance
  | .sampleActivity _ => Bool
  | .deleteWorkspace _ => String

abbrev PortTask (α : Type) := Prog PortOp PortOp.Answer PortFailure α

abbrev port (o : PortOp) : PortTask o.Answer := Prog.await o

structure InstanceLifecycle where
  /-- a handler deletes Workspaces -/
  deletesWorkspaces : Bool
  /-- the runtime can rebuild -/
  rebuilds : Bool
  /-- `parseMemoryBytes` and `parseCpuMillis`, whose texts are decimals -/
  limits : ContainerResources → Option (Nat × Nat)

def lifecycleError (code : String) : PortFailure :=
  .failure (.lifecycle code)

/-! ## From what runs to the record -/

def withContainerLease {α : Type} (id : String) (leaseAlreadyHeld : Bool) (operation : PortTask α) : PortTask α :=
  if leaseAlreadyHeld then operation
  else do
    if ← port (.claimMaintenance id) then operation
    else throw (lifecycleError "container_maintenance_busy")

def assertCatalogSnapshot : Option ContainerCatalogSnapshot → PortTask Unit
  | none => pure ()
  | some snapshot => do
    let valid ← port (.isCatalogSnapshotValid snapshot)
    throwIf (valid = false) (lifecycleError "container_catalog_mismatch")

/-- The checks of `#projectRuntimeInstance` that need nothing but the record: its code, where one fails. -/
def mismatch (record : Container) (inst : ContainerInstance) : Option String :=
  if inst.ownerId ≠ record.userId then some "container_owner_mismatch"
  else if inst.providerId.any (fun p => truthy p && p ≠ record.providerId.getD "docker") then
    some "container_provider_mismatch"
  else if inst.catalogSnapshot.any (fun s => s.appId ≠ record.appId) then some "container_catalog_mismatch"
  else none

def projectRuntimeInstance (record : Container) (inst : ContainerInstance) (stopReason : Option ContainerStopReason)
    (expectedState : Option WorkspaceDesiredState) (latestActivityAt : Option String)
    (expectedCatalogSnapshot : Option ContainerCatalogSnapshot) : PortTask Container := do
  match mismatch record inst with
  | some code => throw (lifecycleError code)
  | none => do
    throwIf (inst.catalogSnapshot.any (fun s => expectedCatalogSnapshot.any fun e => !catalogSnapshotsEqual s e) = true)
      (lifecycleError "container_catalog_mismatch")
    assertCatalogSnapshot (inst.catalogSnapshot <|> containerSnapshot record)
    let updatedAt ← port .now
    pure (updatedContainer record inst stopReason expectedState latestActivityAt updatedAt)

def persistRuntimeInstance (record : Container) (inst : ContainerInstance) (stopReason : Option ContainerStopReason)
    (expectedState : Option WorkspaceDesiredState) (expectedCatalogSnapshot : Option ContainerCatalogSnapshot) :
    PortTask Container := do
  let latest ← port (.getContainer record.id)
  let updated ← projectRuntimeInstance record inst stopReason expectedState (latest.map (·.lastActivityAt))
    expectedCatalogSnapshot
  port (.updateContainer updated)
  pure updated

/-- The record of an instance that has failed. -/
def failedContainer (current : Container) (updatedAt : String) : Container :=
  { current with status := .failed, endpoint := none, stopReason := some .failure, updatedAt := updatedAt }

def recordFailure (current : Container) : PortTask Unit := do
  let updatedAt ← port .now
  port (.updateContainer (failedContainer current updatedAt))

def waitForCreation : Nat → Container → PortTask Container
  | 0, current =>
    if current.status = .creating then throw (lifecycleError "container_not_ready") else pure current
  | n + 1, current =>
    if current.status = .creating then do
      if ← port .beforeDeadline then
        port .throwIfAborted
        port .sleep
        port .throwIfAborted
        match ← port (.getContainer current.id) with
        | none => throw (lifecycleError "container_not_found")
        | some refreshed => waitForCreation n refreshed
      else throw (lifecycleError "container_not_ready")
    else pure current

def lookAgain (id : String) : Nat → PortTask (Option ContainerInstance)
  | 0 => pure none
  | n + 1 => do
    port .throwIfAborted
    port .sleep
    port .throwIfAborted
    match ← port (.runtimeGet id) with
    | some inst => pure (some inst)
    | none => lookAgain id n

/-- An instance that stays missing proves nothing, and a failed one may be missing. -/
def recordSeen (record : Container) : Option ContainerInstance → PortTask Container
  | some inst => persistRuntimeInstance record inst record.stopReason none none
  | none =>
    if record.status = .failed then pure record
    else throw (lifecycleError "runtime_observation_unavailable")

def syncRecord (record : Container) : PortTask Container := do
  port .throwIfAborted
  let first ← port (.runtimeGet record.id)
  let inst ← if first.isNone ∧ record.status ≠ .failed then lookAgain record.id MISSING_RUNTIME_RETRY_COUNT
    else pure first
  recordSeen record inst

/-- The record of the instance, read between two looks at the signal. -/
def requireContainer (id : String) : PortTask Container := do
  port .throwIfAborted
  let record ← port (.getContainer id)
  port .throwIfAborted
  match record with
  | none => throw (lifecycleError "container_not_found")
  | some record => pure record

def syncLocked (id : String) : PortTask Container := do
  let record ← requireContainer id
  let settled ← waitForCreation CREATION_WAIT_ROUNDS record
  syncRecord settled

def sync (id : String) (leaseHeld : Bool) : PortTask Container :=
  withContainerLease id leaseHeld (syncLocked id)

/-! ## Starting and stopping -/

def reservationNotFound : QuotaAdmissionError where
  code := .quotaReservationNotFound

def PortFailure.isReservationNotFound : PortFailure → Bool
  | .quota e => e.code = .quotaReservationNotFound
  | _ => false

/-- What the runtime restored, or what it shows now; a look that fails shows nothing. -/
def recoveredStart (id : String) : PortFailure → PortTask (Option ContainerInstance)
  | .rolledBack inst => pure (some inst)
  | _ => tryCatch (port (.runtimeGet id)) fun _ => pure none

/-- What was recovered is recorded, and the failure thrown. -/
def finishFailedStart (current : Container) (error : PortFailure) (recovered : Option ContainerInstance) :
    PortTask Container := do
  match ← port .aborted with
  | some reason => throw (.failure reason)
  | none =>
    match recovered with
    | some inst =>
      if inst.ownerId = current.userId then do
        let _ ← persistRuntimeInstance current inst current.stopReason none none
        throw error
      else throw error
    | none => throw error

def startFailed (id : String) (current : Container) (quotaTransitioned : Bool) (error : PortFailure) :
    PortTask Container := do
  match ← port .aborted with
  | some reason => throw (.failure reason)
  | none => do
    throwIf (error.isReservationNotFound = true) error
    if quotaTransitioned then
      tryCatch (do let _ ← port (.transition id .stopped)) fun _ => pure ()
    let recovered ← recoveredStart id error
    finishFailedStart current error recovered

/-- The capacity, the quota and the start of an instance that is found stopped. -/
def startStopped (id : String) (current : Container) : PortTask Container := do
  let policy ← port .getProvisioningPolicy
  let all ← port .listContainers
  let running := (all.filter fun item => item.status = .running || item.status = .creating).length
  throwIf (policy.maxRunningInstances ≤ running) (lifecycleError "running_limit_reached")
  match ← settle (port (.transition id .running)) with
  | .error error => startFailed id current false error
  | .ok false => startFailed id current false (.quota reservationNotFound)
  | .ok true => do
    match ← settle (do
        let inst ← port (.runtime (.start id))
        port .throwIfAborted
        pure inst) with
    | .error error => startFailed id current true error
    -- returned, not awaited: a failure to persist is not handled here
    | .ok inst => persistRuntimeInstance current inst current.stopReason (some .running) none

def startLocked (id : String) : PortTask Container := do
  let record ← requireContainer id
  let settled ← waitForCreation CREATION_WAIT_ROUNDS record
  let current ← syncRecord settled
  if current.status = .running then pure current
  else do
    throwIf (current.status ≠ .stopped) (lifecycleError "container_not_ready")
    let fresh ← port (.getContainer id)
    port .throwIfAborted
    match fresh with
    | none => throw (lifecycleError "container_not_found")
    | some fresh =>
      if fresh.status = .running then syncRecord fresh
      else do
        throwIf (fresh.status ≠ .stopped) (lifecycleError "container_not_ready")
        startStopped id current

def start (id : String) (leaseHeld : Bool) : PortTask Container :=
  withContainerLease id leaseHeld (startLocked id)

/-- The quota is given back before the runtime stops, and taken again where it does not. -/
def stopRunning (id : String) (reason : ContainerStopReason) (current : Container) : PortTask Container := do
  let quotaTransitioned ← port (.transition id .stopped)
  match ← settle (do
      let inst ← port (.runtime (.stop id))
      port .throwIfAborted
      pure inst) with
  | .error error => do
    if quotaTransitioned then
      tryCatch (do let _ ← port (.transition id .running)) fun _ => pure ()
    throw error
  -- returned, not awaited, as above
  | .ok inst => persistRuntimeInstance current inst (some reason) none none

def stopLocked (id : String) (reason : ContainerStopReason) : PortTask Container := do
  let record ← requireContainer id
  let settled ← waitForCreation CREATION_WAIT_ROUNDS record
  let current ← syncRecord settled
  if current.status = .stopped then do
    let updatedAt ← port .now
    let stopped := { current with stopReason := some reason, updatedAt := updatedAt }
    port (.updateContainer stopped)
    pure stopped
  else do
    throwIf (current.status ≠ .running) (lifecycleError "container_not_ready")
    stopRunning id reason current

def stop (id : String) (reason : ContainerStopReason) (leaseHeld : Bool) : PortTask Container :=
  withContainerLease id leaseHeld (stopLocked id reason)

/-! ## Rebuilding -/

structure PinnedRebuildTarget where
  appVersionId : Option String
  imageArtifactId : Option String
  imageReference : String
  launchProfile : ContainerLaunchProfile
  executionContract : Option (Option String)

structure RebuildOptions where
  useLatestVersion : Bool
  target : Option PinnedRebuildTarget
  targetState : Option WorkspaceDesiredState
  rebuildTransactionId : Option String
  maintenanceLeaseHeld : Bool

/-- The version, the image and the contract a rebuild is for. -/
structure RebuildTarget where
  appVersionId : Option String
  imageArtifactId : Option String
  imageReference : Option String
  executionContract : Option (Option String)

/-- What a rebuild builds. -/
structure RebuildPlan where
  snapshot : ContainerCatalogSnapshot
  executionContract : Option (Option String)
  launchProfile : ContainerLaunchProfile
  shouldRun : Bool

def PortFailure.keepsIntent : PortFailure → Bool
  | .failure (.lifecycle code) => code = "runtime_observation_unavailable" ∨ code = "container_catalog_mismatch"
  | _ => false

/-- The record to rebuild; the candidate of a pinned target is not persisted before it is known. -/
def rebuildSource (options : RebuildOptions) (settled : Container) : PortTask Container :=
  if options.target.isSome ∨ options.useLatestVersion = true then pure settled
  else tryCatch (syncRecord settled) fun error =>
    if error.keepsIntent then pure settled else throw error

def rebuildTarget (options : RebuildOptions) (current : Container) : PortTask RebuildTarget :=
  match options.target with
  | some target => do
    throwIf (target.launchProfile.imageReference ≠ target.imageReference) (lifecycleError "app_version_not_ready")
    pure ⟨target.appVersionId, target.imageArtifactId, some target.imageReference, target.executionContract⟩
  | none =>
    if options.useLatestVersion then do
      let latest ← port (.getLaunchTarget current.appId)
      pure ⟨some latest.version.id, latest.version.imageArtifactId, some latest.imageReference,
        latest.version.runtimeContract.map some⟩
    else pure ⟨current.appVersionId, current.imageArtifactId, current.imageReference, none⟩

/-- The profile of a pinned target, or the one the policy gives. -/
def rebuildProfile (options : RebuildOptions) (imageReference : String) : PortTask ContainerLaunchProfile :=
  match options.target with
  | some target => pure target.launchProfile
  | none => do
    let policy ← port .getProvisioningPolicy
    pure (toLaunchProfile policy.toProvisioningPolicy imageReference)

/-- The state that was asked for, or the last one that was recorded. -/
def shouldRun (options : RebuildOptions) (wasRecordedRunning : Bool) (current : Container) : Bool :=
  match options.targetState with
  | some targetState => targetState = .running
  | none => current.status = .running || (current.status = .failed && wasRecordedRunning)

def rebuildPlan (options : RebuildOptions) (wasRecordedRunning : Bool) (current : Container) : PortTask RebuildPlan := do
  let target ← rebuildTarget options current
  match target.imageReference.filter truthy with
  | none => throw (lifecycleError "app_version_not_ready")
  | some imageReference => do
    let snapshot : ContainerCatalogSnapshot :=
      ⟨current.appId, target.appVersionId, target.imageArtifactId, imageReference⟩
    assertCatalogSnapshot (some snapshot)
    let launchProfile ← rebuildProfile options imageReference
    pure ⟨snapshot, target.executionContract, launchProfile, shouldRun options wasRecordedRunning current⟩

def rebuildRequest (current : Container) (plan : RebuildPlan) (transactionId : Option String) :
    ProvisionContainerRequest where
  instanceId := current.id
  ownerId := current.userId
  providerId := current.providerId.filter truthy
  executionContract := plan.executionContract
  appId := some current.appId
  appVersionId := plan.snapshot.appVersionId
  imageArtifactId := plan.snapshot.imageArtifactId
  imageReference := some plan.snapshot.imageReference
  sourceCatalogSnapshot := containerSnapshot current
  launchProfile := some plan.launchProfile
  start := plan.shouldRun
  rebuildTransactionId := transactionId
  signal := none

/-- The record with what the rebuild is for. -/
def retargeted (current : Container) (plan : RebuildPlan) : Container :=
  { current with
    appVersionId := plan.snapshot.appVersionId
    imageArtifactId := plan.snapshot.imageArtifactId
    imageReference := some plan.snapshot.imageReference }

/-- The checks of the rebuilt instance, and its record. -/
def recordRebuilt (actorUserId : Option String) (current : Container) (plan : RebuildPlan) (inst : ContainerInstance) :
    PortTask Container := do
  port .throwIfAborted
  throwIf (inst.catalogSnapshot.any (fun s => !catalogSnapshotsEqual s plan.snapshot) = true)
    (lifecycleError "container_catalog_mismatch")
  let updated ← persistRuntimeInstance (retargeted current plan) inst current.stopReason
    (some (if plan.shouldRun then .running else .stopped)) (some plan.snapshot)
  port (.audit actorUserId "container.rebuild" current.id current.userId)
  pure updated

def rebuildRun (actorUserId : Option String) (options : RebuildOptions) (current : Container) (plan : RebuildPlan) :
    PortTask Container := do
  let rebuilt ← port (.runtime (.rebuild (rebuildRequest current plan options.rebuildTransactionId)))
  port .throwIfAborted
  -- a runtime that does not know `start` is stopped here
  let inst ← if plan.shouldRun = false ∧ rebuilt.state = .running then port (.runtime (.stop current.id)) else pure rebuilt
  recordRebuilt actorUserId current plan inst

/-- The instance is neither what the rebuild was for nor what it started from. -/
def foreignSnapshot (current : Container) (plan : RebuildPlan) (inst : ContainerInstance) : Bool :=
  inst.catalogSnapshot.any fun s =>
    !catalogSnapshotsEqual s plan.snapshot && !(containerSnapshot current).any (catalogSnapshotsEqual s)

/-- What the runtime restored, or what it shows now. -/
def recoveredInstance (id : String) : PortFailure → PortTask (Option ContainerInstance)
  | .rolledBack inst => pure (some inst)
  | _ => port (.runtimeGet id)

def recordRecovered (current : Container) (plan : RebuildPlan) : Option ContainerInstance → PortTask Unit
  | some recovered =>
    if recovered.ownerId = current.userId ∧ foreignSnapshot current plan recovered = false then do
      let _ ← persistRuntimeInstance current recovered current.stopReason none
        (some (recovered.catalogSnapshot.getD plan.snapshot))
    else recordFailure current
  | none => recordFailure current

def rebuildFailed (current : Container) (plan : RebuildPlan) (error : PortFailure) : PortTask Container := do
  match ← port .aborted with
  | some reason => throw (.failure reason)
  | none => do
    tryCatch (do
        let recovered ← recoveredInstance current.id error
        recordRecovered current plan recovered)
      fun _ => do
        match ← port .aborted with
        | some reason => throw (.failure reason)
        | none => recordFailure current
    throw error

def rebuildLocked (l : InstanceLifecycle) (id : String) (actorUserId : Option String) (options : RebuildOptions) :
    PortTask Container := do
  port .throwIfAborted
  throwIf (options.useLatestVersion = true ∧ options.target.isSome) (lifecycleError "app_version_not_ready")
  let record ← port (.getContainer id)
  port .throwIfAborted
  match record with
  | none => throw (lifecycleError "container_not_found")
  | some record => do
    throwIf (l.rebuilds = false) (lifecycleError "runtime_rebuild_unsupported")
    let settled ← waitForCreation CREATION_WAIT_ROUNDS record
    let current ← rebuildSource options settled
    let plan ← rebuildPlan options (record.status = .running) current
    tryCatch (rebuildRun actorUserId options current plan) (rebuildFailed current plan)

def rebuild (l : InstanceLifecycle) (id : String) (actorUserId : Option String) (options : RebuildOptions) :
    PortTask Container :=
  withContainerLease id options.maintenanceLeaseHeld (rebuildLocked l id actorUserId options)

/-! ## Provisioning -/

def releaseQuota (reservationId ownerId : String) : PortTask Unit :=
  tryCatch (do let _ ← port (.release reservationId)) fun _ =>
    tryCatch (port (.audit none "quota.release.failed" reservationId ownerId)) fun _ => pure ()

def assertNoLiveWorkspaceForUser (userId : String) : PortTask Unit := do
  let liveWorkspace ← port (.getLiveWorkspaceExecutionForUser userId)
  throwIf (liveWorkspace.isSome = true) (lifecycleError "container_not_ready")

def returnExisting (record : Container) (userId : String) (startExisting : Bool) : PortTask ProvisionResult := do
  let settled ← waitForCreation CREATION_WAIT_ROUNDS record
  port (.markUserAppInitialized userId)
  let current ← sync settled.id false
  if startExisting = true ∧ current.status = .stopped then do
    let started ← start current.id false
    pure ⟨started, false⟩
  else pure ⟨current, false⟩

def quotaRequest (id userId providerId : String) (memoryBytes cpuMillis pidsLimit : Nat) : QuotaRequestInput where
  reservationId := some id
  userId := some userId
  tenantId := none
  providerId := some providerId
  desiredState := some .running
  cpuMillis := .integer cpuMillis
  memoryBytes := .integer memoryBytes
  pidsLimit := .integer pidsLimit
  volumeBytes := none
  buildSlots := none
  rolloutSlots := none

/-- What the creation of an instance goes on from. -/
structure Reservation where
  id : String
  policy : LifecyclePolicy
  pending : Container
  launchTarget : AppLaunchTarget

/-- The policy, the target of the App and the capacity, the reservation and the pending record. -/
def admitProvision (l : InstanceLifecycle) (userId appId : String) : PortTask Reservation := do
  let policy ← port .getProvisioningPolicy
  let launchTarget ← port (.getLaunchTarget appId)
  let all ← port .listContainers
  throwIf (policy.maxTotalInstances ≤ all.length) (lifecycleError "total_limit_reached")
  let occupied := (all.filter fun item => item.status = .running || item.status = .creating).length
  throwIf (policy.maxRunningInstances ≤ occupied) (lifecycleError "running_limit_reached")
  let id ← port .randomId
  let providerId ← port (.providerIdForApp appId)
  match l.limits policy.resources with
  | none => throw (.quota conflict)
  | some (memoryBytes, cpuMillis) => do
    let reservedAt ← port .now
    let _ ← port (.reserve (quotaRequest id userId providerId memoryBytes cpuMillis policy.resources.pidsLimit) reservedAt)
    let now ← port .now
    let pending := pendingContainer id userId appId providerId now launchTarget
    tryCatch (port (.saveContainer pending)) fun error => do
      releaseQuota id userId
      throw error
    pure ⟨id, policy, pending, launchTarget⟩

/-- The reservation on the left, or the container the user has already. -/
def reserveProvision (l : InstanceLifecycle) (userId appId : String) (authorize : Bool) :
    PortTask (Reservation ⊕ Container) := do
  match ← port (.getContainerForUser userId) with
  | some existing => pure (.inr existing)
  | none => do
    assertNoLiveWorkspaceForUser userId
    if authorize then port (.authorizeApp appId)
    let reservation ← admitProvision l userId appId
    pure (.inl reservation)

def provisionRequest (reservation : Reservation) (userId : String) : ProvisionContainerRequest where
  instanceId := reservation.id
  ownerId := userId
  providerId := reservation.pending.providerId.filter truthy
  executionContract := reservation.launchTarget.version.runtimeContract.map some
  appId := some reservation.pending.appId
  appVersionId := reservation.pending.appVersionId
  imageArtifactId := reservation.pending.imageArtifactId
  imageReference := reservation.pending.imageReference
  sourceCatalogSnapshot := none
  launchProfile := some (toLaunchProfile reservation.policy.toProvisioningPolicy reservation.launchTarget.imageReference)
  start := true
  rebuildTransactionId := none
  signal := none

def provisionReserved (userId : String) (reservation : Reservation) : PortTask ProvisionResult := do
  let container ← tryCatch (do
      let inst ← port (.runtime (.provision (provisionRequest reservation userId)))
      persistRuntimeInstance reservation.pending inst reservation.pending.stopReason none none)
    fun error => do
      -- the ledger is cleaned up even where the failure cannot be recorded
      ensuring (recordFailure reservation.pending) (releaseQuota reservation.id userId)
      throw error
  port (.markUserAppInitialized userId)
  pure ⟨container, true⟩

def provisionForUser (l : InstanceLifecycle) (userId appId : String) (startExisting authorize : Bool) :
    PortTask ProvisionResult := do
  match ← port (.getContainerForUser userId) with
  | some existing => returnExisting existing userId startExisting
  | none => do
    assertNoLiveWorkspaceForUser userId
    match ← reserveProvision l userId appId authorize with
    | .inr existing => returnExisting existing userId startExisting
    | .inl reservation => provisionReserved userId reservation

/-! ## Removing and sweeping -/

def finishRemoval (id : String) (actorUserId : Option String) (ownerId : String) : PortTask Unit := do
  releaseQuota id ownerId
  port (.markUserAppInitialized ownerId)
  port (.audit actorUserId "container.delete" id ownerId)

def removeLocked (l : InstanceLifecycle) (id : String) (actorUserId : Option String) : PortTask Unit :=
  if l.deletesWorkspaces then do
    port .throwIfAborted
    let ownerId ← port (.deleteWorkspace id)
    finishRemoval id actorUserId ownerId
  else do
    let _ ← requireContainer id
    match ← port (.getContainer id) with
    | none => throw (lifecycleError "container_not_found")
    | some record => do
      let settled ← waitForCreation CREATION_WAIT_ROUNDS record
      port .throwIfAborted
      port (.runtimeRemove id settled.userId)
      port .throwIfAborted
      port (.deleteContainer id)
      finishRemoval id actorUserId settled.userId

def remove (l : InstanceLifecycle) (id : String) (actorUserId : Option String) (leaseHeld : Bool) : PortTask Unit :=
  withContainerLease id leaseHeld (removeLocked l id actorUserId)

/-- `#observeActivity`; what was active is touched. -/
def observeActivity (id : String) : PortTask Bool := do
  port .throwIfAborted
  let sampledAt ← port .now
  let active ← port (.sampleActivity id)
  port .throwIfAborted
  if active then port (.touchContainer id sampledAt)
  pure active

/-- The instance was last active before the time the policy allows. -/
def isIdle (policy : LifecyclePolicy) (sweptAt : String) (current : Container) : Bool :=
  match dateParse (if truthy current.lastActivityAt then current.lastActivityAt else current.updatedAt), dateParse sweptAt with
  | some activity, some now => activity + policy.idleStopMinutes * 60000 ≤ now
  | _, _ => false

def sweepCandidate (policy : LifecyclePolicy) (sweptAt id : String) : PortTask Unit := do
  if ← port (.claimMaintenance id) then
    port .throwIfAborted
    let current ← port (.getContainer id)
    port .throwIfAborted
    match current with
    | none => pure ()
    | some current =>
      if current.status ≠ .running then pure ()
      else do
        let active ← if policy.detectNetworkActivity || policy.detectComputeActivity then observeActivity id
          else pure false
        if active = true ∨ isIdle policy sweptAt current = false then pure ()
        else do
          let _ ← stopLocked id .idle
          port (.audit none "container.idle_stop" id current.userId)
  else pure ()

def sweepCandidates (policy : LifecyclePolicy) (sweptAt : String) : List Container → PortTask Unit
  | [] => pure ()
  | candidate :: candidates => do
    tryCatch (sweepCandidate policy sweptAt candidate.id) fun _ => pure ()
    sweepCandidates policy sweptAt candidates

/-- `sweepIdleContainers`; what it counts is left out. -/
def sweepIdleContainers : PortTask Unit := do
  let policy ← port .getProvisioningPolicy
  if policy.idleStopMinutes = 0 then pure ()
  else do
    let sweptAt ← port .now
    let all ← port .listContainers
    sweepCandidates policy sweptAt (all.filter fun item => item.status = .running)

/-! ## Operations -/

inductive LifecycleCall
  | provisionForUser (userId appId : String) (startExisting authorize : Bool)
  | sync (id : String) (leaseHeld : Bool)
  | start (id : String) (leaseHeld : Bool)
  | stop (id : String) (reason : ContainerStopReason) (leaseHeld : Bool)
  | rebuild (id : String) (actorUserId : Option String) (options : RebuildOptions)
  | remove (id : String) (actorUserId : Option String) (leaseHeld : Bool)
  | sweepIdleContainers

/-- The operation; what it returns is left out. -/
def LifecycleCall.body (l : InstanceLifecycle) : LifecycleCall → PortTask Unit
  | .provisionForUser userId appId startExisting authorize => do
    let _ ← Quota.provisionForUser l userId appId startExisting authorize
  | .sync id leaseHeld => do let _ ← Quota.sync id leaseHeld
  | .start id leaseHeld => do let _ ← Quota.start id leaseHeld
  | .stop id reason leaseHeld => do let _ ← Quota.stop id reason leaseHeld
  | .rebuild id actorUserId options => do let _ ← Quota.rebuild l id actorUserId options
  | .remove id actorUserId leaseHeld => Quota.remove l id actorUserId leaseHeld
  | .sweepIdleContainers => Quota.sweepIdleContainers

end OpenApp.Quota
