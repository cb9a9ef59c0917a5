import OpenApp.Rollout.Service

/-!
# The rollout worker

A round of the worker recovers what was interrupted, takes the items that are due and goes on with each
of them. An attempt claims its item by a new attempt id, and every write of an attempt compares the
revision of the item with the one it last saw.
-/

namespace OpenApp.Rollout

open Async Async.Prog

/-- The options of a worker. A part of the executor or of the store that is left out is `false`. -/
structure UpgradeRolloutWorker where
  id : Nat
  retryDelayMs : Nat
  batchSize : Nat
  maxAttempts : Nat
  maxAttempts_pos : 0 < maxAttempts
  maxRetryDelayMs : Nat
  admission : Bool
  confirmAfterDrain : Bool
  acceptDeferredCandidate : Bool
  inspectRebuild : Bool
  diagnose : Bool
  listLegacyFirstStartProofItems : Bool
  /-- `sanitizeSensitiveText`, with the most characters it leaves -/
  sanitize : String → Nat → String

def interruptedAttemptRecoveryGraceMs : Timestamp := 10 * 60000

def throwIfAborted (signal : List AbortSignal) : RolloutTask Unit := do
  match ← ask (.aborted signal) with
  | some reason => throw reason
  | none => pure ()

def withItemLease {α : Type} (instanceId : String) (operation : AbortSignal → RolloutTask α) :
    RolloutTask (Option α) := do
  match ← ask (.claimItem instanceId) with
  | none => pure none
  | some signal => do
    let result ← ensuring (operation signal) (ask (.releaseItem instanceId))
    pure (some result)

/-! ## Writing an item -/

/-- `#transition` -/
def transition (item : UpgradeRolloutItem) (patch : UpgradeRolloutItem → UpgradeRolloutItem) :
    RolloutTask UpgradeRolloutItem := do
  let updatedAt ← ask .now
  match ← ask (.compareAndSaveItem { patch item with updatedAt := updatedAt } item.revision) with
  | none => throw (.conflict "upgrade_rollout_item_conflict")
  | some updated => pure updated

namespace UpgradeRolloutWorker

variable (w : UpgradeRolloutWorker)

def retryDelay (attemptCount : Nat) : Nat :=
  min w.maxRetryDelayMs (w.retryDelayMs * 2 ^ (attemptCount - 1))

def nextAttemptAt (attemptCount : Nat) : RolloutTask Timestamp := do
  let now ← ask .now
  pure (now + w.retryDelay attemptCount)

/-- An item that needs another attempt waits for it without an attempt id. -/
def waitForIdle (item : UpgradeRolloutItem) (blocker : String) : RolloutTask Unit := do
  let next ← w.nextAttemptAt item.attemptCount
  let _ ← transition item fun item =>
    { item with
      status := .waitingForIdle
      blocker := some blocker
      attemptId := none
      nextAttemptAt := some next }
  pure ()

/-- Where a deployment has come to: it is proved, or waits for its first start. -/
inductive Checkpoint
  | awaitingFirstStart | succeeded
  deriving DecidableEq

def checkpointItem (item : UpgradeRolloutItem) (checkpoint : Checkpoint) (now : Timestamp) (next : Option Timestamp) :
    UpgradeRolloutItem :=
  match checkpoint with
  | .succeeded =>
    { item with
      status := .succeeded
      blocker := none
      error := none
      attemptId := none
      finishedAt := some now
      nextAttemptAt := none
      lastCheckedAt := some now
      updatedAt := now }
  | .awaitingFirstStart =>
    { item with
      status := .awaitingFirstStart
      blocker := some "candidate_awaiting_first_healthy_start"
      error := none
      finishedAt := none
      nextAttemptAt := next
      lastCheckedAt := some now
      updatedAt := now }

/-- When a deployment that waits is looked at again. -/
def nextCheck (item : UpgradeRolloutItem) : Checkpoint → RolloutTask (Option Timestamp)
  | .succeeded => pure none
  | .awaitingFirstStart => do
    let next ← w.nextAttemptAt item.attemptCount
    pure (some next)

def commitDeploymentCheckpoint (item : UpgradeRolloutItem) (checkpoint : Checkpoint) (supersedeEarlier : Bool) :
    RolloutTask Unit := do
  let now ← ask .now
  let next ← w.nextCheck item checkpoint
  match ← ask (.commitDeploymentCheckpoint (checkpointItem item checkpoint now next) item.revision now
    supersedeEarlier) with
  | none => throw (.conflict "upgrade_rollout_item_conflict")
  | some (_, affectedRolloutIds) => ask (.addCheckpoints w.id affectedRolloutIds)

def succeed (item : UpgradeRolloutItem) : RolloutTask Unit :=
  w.commitDeploymentCheckpoint item .succeeded true

/-! ## An attempt -/

/-- The runtime intent and the source of a rollback, as they are now. -/
def snapshot (item : UpgradeRolloutItem) (inst : Instance) : UpgradeRolloutItem :=
  { item with
    desiredState := if item.recovery then .running else intendedState inst.status
    sourceAppVersionId := inst.appVersionId
    sourceImageArtifactId := inst.imageArtifactId
    sourceImageReference := inst.imageReference }

def captureExecutionSnapshot (item : UpgradeRolloutItem) (inst : Instance) : RolloutTask UpgradeRolloutItem :=
  if item.desiredState = (snapshot item inst).desiredState ∧ item.sourceAppVersionId = inst.appVersionId ∧
      item.sourceImageArtifactId = inst.imageArtifactId ∧ item.sourceImageReference = inst.imageReference then
    pure item
  else transition item fun item => snapshot item inst

def requireContainer (instanceId : String) (signal : List AbortSignal) : RolloutTask Instance := do
  let inst ← ask (.getContainer instanceId)
  throwIfAborted signal
  match inst with
  | none => throw (.error "container_not_found")
  | some inst => pure inst

/-- The activity of an instance that runs is assessed, unless the operator forced the upgrade. -/
def assessActivity (item : UpgradeRolloutItem) (inst : Instance) : RolloutTask UpgradeActivityAssessment :=
  if item.forceRequested || inst.status ≠ .running then pure { ready := true, reason := none }
  else ask (.assess inst item)

/-- What an attempt finds out before it takes the instance out of traffic; `none` where it is over. -/
def prepareAttempt (initial : UpgradeRolloutItem) (taskKind : UpgradeRolloutTaskKind) (attemptId : String)
    (signal : List AbortSignal) : RolloutTask (Option (UpgradeRolloutItem × Instance)) := do
  let checkedAt ← ask .now
  let assessing ← transition initial fun item =>
    { item with
      status := .assessing
      blocker := none
      error := none
      attemptId := some attemptId
      nextAttemptAt := none
      lastCheckedAt := some checkedAt
      startedAt := some (item.startedAt.getD checkedAt) }
  throwIfAborted signal
  let inst ← requireContainer assessing.instanceId signal
  let item ← captureExecutionSnapshot assessing inst
  if taskKind = .imageUpgrade && matchesTarget inst item then do
    w.succeed item
    pure none
  else if inst.status = .creating then do
    w.waitForIdle item "instance_creating"
    pure none
  else do
    let assessment ← assessActivity item inst
    throwIfAborted signal
    if assessment.ready then pure (some (item, inst))
    else do
      w.waitForIdle item (assessment.reason.getD "instance_busy")
      pure none

/-- Whether a drain is held; `none` where the attempt is over. -/
def acquireAdmission (item : UpgradeRolloutItem) (attemptId : String) (signal : List AbortSignal) :
    RolloutTask (Option Bool) := do
  if w.admission then
    let admitted ← ask (.begin item.instanceId item.rolloutId attemptId (if item.forceRequested then .force else .graceful))
    throwIfAborted signal
    if admitted then pure (some true)
    else do
      w.waitForIdle item "active_connection"
      pure none
  else pure (some false)

def confirmActivity (item : UpgradeRolloutItem) (inst : Instance) : RolloutTask UpgradeActivityAssessment :=
  if w.confirmAfterDrain then ask (.confirmAfterDrain inst item) else ask (.assess inst item)

def confirmDrain (item : UpgradeRolloutItem) (inst : Instance) (drainAcquired : Bool) (signal : List AbortSignal) :
    RolloutTask Bool := do
  throwIfAborted signal
  if !drainAcquired || item.forceRequested || inst.status ≠ .running then pure true
  else do
    let drained ← requireContainer item.instanceId signal
    let confirmation ← w.confirmActivity item drained
    throwIfAborted signal
    if confirmation.ready then pure true
    else do
      w.waitForIdle item (confirmation.reason.getD "instance_busy_after_drain")
      pure false

/-- A candidate that was deployed and never started becomes the base of the next one. -/
def acceptDeferred (item : UpgradeRolloutItem) (signal : List AbortSignal) : RolloutTask Unit := do
  if w.acceptDeferredCandidate then
    let accepted ← ask (.acceptDeferredCandidate item signal)
    throwIfAborted signal
    if accepted then
      let at' ← ask .now
      let affectedRolloutIds ← ask (.supersedeDeferredItemsBefore item.rolloutId item.instanceId at')
      ask (.addCheckpoints w.id affectedRolloutIds)

def verificationFailed : Failure := .error "upgrade_verification_failed"

/-- What a verification finds: the deployment waits for its first start, or is proved. -/
def verify (item : UpgradeRolloutItem) (inst : Option Instance) : RolloutTask Unit :=
  match inst with
  | none => throw verificationFailed
  | some verified =>
    if matchesCatalogTarget verified item then
      if item.desiredState = .stopped ∧ verified.status = .stopped then
        w.commitDeploymentCheckpoint item .awaitingFirstStart true
      else if matchesTarget verified item then w.succeed item
      else throw verificationFailed
    else throw verificationFailed

def rebuildAndVerify (item : UpgradeRolloutItem) (signal : List AbortSignal) : RolloutTask Unit := do
  let rebuilding ← transition item fun item => { item with status := .rebuilding }
  let detail ← requireRollout rebuilding.rolloutId
  throwIfAborted signal
  w.acceptDeferred rebuilding signal
  ask (.rebuild rebuilding detail.rollout.actorUserId signal)
  throwIfAborted signal
  let verifying ← transition rebuilding fun item => { item with status := .verifying }
  let verified ← ask (.getContainer verifying.instanceId)
  throwIfAborted signal
  w.verify verifying verified

/-! ## The first start -/

def deferFirstStart (item : UpgradeRolloutItem) : RolloutTask Unit := do
  let next ← w.nextAttemptAt item.attemptCount
  let checkedAt ← ask .now
  let _ ← transition item fun item =>
    { item with
      blocker := some "candidate_awaiting_first_healthy_start"
      error := none
      nextAttemptAt := some next
      lastCheckedAt := some checkedAt }
  pure ()

/-- What follows from the inspection of the transaction and the look at the instance. -/
def settleFirstStart (item : UpgradeRolloutItem) (taskKind : UpgradeRolloutTaskKind) (inspection : Option RebuildInspection)
    (inst : Instance) : RolloutTask Unit :=
  match inspection with
  | some .inconsistent => throw (.error "candidate_first_start_inconsistent")
  | some .committed =>
    if matchesCatalogTarget inst item then w.succeed item else throw (.error "candidate_first_start_inconsistent")
  | some .notFound =>
    if matchesCatalogTarget inst item then
      if taskKind = .imageUpgrade ∧ inst.status = .running then w.succeed item
      else if taskKind = .imageUpgrade ∧ item.desiredState = .stopped ∧ inst.status = .stopped then
        w.deferFirstStart item
      else throw (.error "candidate_first_start_proof_missing")
    else throw (.error "candidate_first_start_rolled_back")
  | some .pending =>
    if matchesCatalogTarget inst item then w.deferFirstStart item
    else throw (.error "candidate_first_start_inconsistent")
  | none =>
    if matchesCatalogTarget inst item then
      -- without an inspection only an image upgrade of before the transactions goes on
      if taskKind ≠ .imageUpgrade ∨ item.desiredState ≠ .stopped then
        throw (.error "candidate_first_start_proof_missing")
      else if inst.status = .running then w.succeed item
      else if inst.status ≠ .stopped then throw (.error "candidate_first_start_unhealthy")
      else w.deferFirstStart item
    else throw (.error "candidate_first_start_rolled_back")

/-- What the provider knows of the transaction, where it can be asked. -/
def inspection (item : UpgradeRolloutItem) (signal : List AbortSignal) : RolloutTask (Option RebuildInspection) :=
  if w.inspectRebuild then ask (.inspectRebuild item signal) else pure none

def reconcileFirstStart (item : UpgradeRolloutItem) (taskKind : UpgradeRolloutTaskKind) (signal : List AbortSignal) :
    RolloutTask Unit := do
  throwIfAborted signal
  let inspection ← w.inspection item signal
  throwIfAborted signal
  let inst ← requireContainer item.instanceId signal
  w.settleFirstStart item taskKind inspection inst

/-! ## Failures -/

def errorMessage (error : Failure) : String :=
  w.sanitize error.message 2000

def sanitizeTruthy (value : Option String) (maximum : Nat) : Option String :=
  value.bind fun text => if Script.truthy text then some (w.sanitize text maximum) else none

def capturedDiagnostics (value : ContainerFailureDiagnostics) : ContainerFailureDiagnostics :=
  { value with
    health := w.sanitizeTruthy value.health 120
    memoryLimit := w.sanitizeTruthy value.memoryLimit 120
    memorySwapLimit := w.sanitizeTruthy value.memorySwapLimit 120
    cpus := w.sanitizeTruthy value.cpus 120
    logTail := w.sanitizeTruthy value.logTail 16000 }

def diagnosticsAt (message : String) (status : CapabilityStatus) (captured : Option ContainerFailureDiagnostics)
    (logTail : Option String) : RolloutTask UpgradeRolloutDiagnostics := do
  let capturedAt ← ask .now
  pure {
    capturedAt := capturedAt
    error := some (w.sanitize message 2000)
    capabilityStatus := some status
    captured := captured
    logTail := logTail }

/-- The diagnostics of a failed recovery; `none` where the lease was lost meanwhile. -/
def readDiagnostics (item : UpgradeRolloutItem) (message : String) (signal : List AbortSignal) :
    RolloutTask (Option (Option UpgradeRolloutDiagnostics)) := do
  if item.recovery && w.diagnose then
    tryCatch (do
      match ← ask (.diagnose item signal) with
      | .unsupported => do
        let diagnostics ← w.diagnosticsAt message .unsupported none none
        pure (some (some diagnostics))
      | .unavailable error => throw error
      | .supported value => do
        let diagnostics ← w.diagnosticsAt message .supported (some (w.capturedDiagnostics value)) none
        pure (some (some diagnostics)))
      fun diagnosticError => do
        match ← ask (.aborted signal) with
        | some _ => pure none
        | none => do
          let logTail := w.sanitize ("diagnostics_unavailable: " ++ w.errorMessage diagnosticError) 2000
          let diagnostics ← w.diagnosticsAt message .unavailable none (some logTail)
          pure (some (some diagnostics))
  else pure (some none)

/-- Nothing but an operator can help. -/
def permanentFailure (error : Failure) : Bool :=
  (match error with
    | .provider failureClass _ => failureClass = .permanent ∨ failureClass = .inconsistent
    | _ => false) ||
  w.errorMessage error ∈ ["container_not_found", "app_version_not_ready", "upgrade_rollout_attempt_missing",
    "candidate_first_start_inconsistent", "candidate_first_start_proof_missing"]

/-- How often an item may fail: a recovery three times. -/
def budget (item : UpgradeRolloutItem) : Nat :=
  if item.recovery then 3 else w.maxAttempts

def ignoringConflicts (p : RolloutTask UpgradeRolloutItem) : RolloutTask Unit :=
  tryCatch (do
    let _ ← p
    pure ())
    fun error => if error.isConflict then pure () else throw error

/-- An item that is out of attempts, or cannot be helped by one. -/
def givenUp (error : Failure) (finishedAt : Timestamp) (diagnostics : Option UpgradeRolloutDiagnostics)
    (item : UpgradeRolloutItem) : UpgradeRolloutItem :=
  { item with
    status := if w.permanentFailure error || item.recovery then .needsAttention else .failed
    error := some (w.errorMessage error)
    blocker := some (if w.permanentFailure error then w.errorMessage error else "retry_limit_reached")
    attemptId := none
    attemptCount := item.attemptCount + 1
    nextAttemptAt := none
    finishedAt := some finishedAt
    diagnostics := diagnostics }

def retryScheduled (error : Failure) (next : Timestamp) (diagnostics : Option UpgradeRolloutDiagnostics)
    (item : UpgradeRolloutItem) : UpgradeRolloutItem :=
  { item with
    status := .queued
    error := some (w.errorMessage error)
    blocker := some "retry_scheduled"
    attemptId := none
    attemptCount := item.attemptCount + 1
    nextAttemptAt := some next
    diagnostics := diagnostics }

def handleFailure (item : UpgradeRolloutItem) (error : Failure) (signal : List AbortSignal) : RolloutTask Unit := do
  match ← w.readDiagnostics item (w.errorMessage error) signal with
  | none => pure ()
  | some diagnostics =>
    if w.permanentFailure error || w.budget item ≤ item.attemptCount + 1 then do
      let finishedAt ← ask .now
      ignoringConflicts (transition item (w.givenUp error finishedAt diagnostics))
    else do
      let next ← w.nextAttemptAt (item.attemptCount + 1)
      ignoringConflicts (transition item (w.retryScheduled error next diagnostics))

/-- The item is read again, and the failure is recorded on what is found. -/
def recordFailure (initial : UpgradeRolloutItem) (signal : List AbortSignal) (error : Failure) : RolloutTask Unit := do
  match ← ask (.aborted signal) with
  | some _ => pure ()
  | none =>
    if error.isConflict then pure ()
    else do
      let latest ← ask (.getRollout initial.rolloutId)
      match latest.bind (·.find initial.instanceId) with
      | none => pure ()
      | some current =>
        if current.status.terminal then pure ()
        else w.handleFailure current error signal

/-! ## One item -/

/-- An attempt once its drain is decided. -/
def proceed (item : UpgradeRolloutItem) (inst : Instance) (drainAcquired : Bool) (signal : List AbortSignal) :
    RolloutTask Unit := do
  let draining ← transition item fun item => { item with status := .draining, blocker := none }
  if ← w.confirmDrain draining inst drainAcquired signal then w.rebuildAndVerify draining signal

def clearDrain (initial : UpgradeRolloutItem) (attemptId : String) (drainAcquired : Bool) (signal : List AbortSignal) :
    RolloutTask Unit := do
  if w.admission && drainAcquired && Script.truthy attemptId then
    match ← ask (.aborted signal) with
    | some _ => pure ()
    | none => ask (.clear initial.instanceId initial.rolloutId attemptId)

/-- The attempt up to its drain; `none` where it is over. -/
def claim (initial : UpgradeRolloutItem) (attemptId : String) (signal : List AbortSignal) :
    RolloutTask (Option (UpgradeRolloutItem × Instance × Bool)) := do
  throwIfAborted signal
  throwIf (Script.truthy attemptId = false) (.error "upgrade_rollout_attempt_missing")
  let detail ← requireRollout initial.rolloutId
  match ← w.prepareAttempt initial detail.rollout.taskKind attemptId signal with
  | none => pure none
  | some (item, inst) =>
    match ← w.acquireAdmission item attemptId signal with
    | none => pure none
    | some drainAcquired => pure (some (item, inst, drainAcquired))

def attempt (initial : UpgradeRolloutItem) (attemptId : String) (signal : List AbortSignal) : RolloutTask Unit := do
  match ← settle (w.claim initial attemptId signal) with
  | .error error => w.recordFailure initial signal error
  | .ok none => pure ()
  | .ok (some (item, inst, drainAcquired)) =>
    ensuring (tryCatch (w.proceed item inst drainAcquired signal) (w.recordFailure initial signal))
      (w.clearDrain initial attemptId drainAcquired signal)

def reconcile (initial : UpgradeRolloutItem) (signal : List AbortSignal) : RolloutTask Unit :=
  tryCatch (do
    throwIfAborted signal
    throwIf (initial.attemptId.all (Script.truthy · = false) = true) (.error "upgrade_rollout_attempt_missing")
    let detail ← requireRollout initial.rolloutId
    w.reconcileFirstStart initial detail.rollout.taskKind signal)
    (w.recordFailure initial signal)

def processItem (initial : UpgradeRolloutItem) (signal : List AbortSignal) : RolloutTask Unit := do
  let latestRollout ← ask (.getRollout initial.rolloutId)
  match latestRollout.bind (·.find initial.instanceId) with
  | none => pure ()
  | some latest =>
    if latest.revision ≠ initial.revision || latest.status.terminal then pure ()
    else if latest.status = .awaitingFirstStart then w.reconcile latest signal
    else do
      let attemptId ← ask .randomId
      w.attempt latest attemptId signal

/-! ## Items of before the transactions -/

/-- Whether the candidate is settled; a candidate that changed meanwhile is looked at in the next round. -/
def reconcileLegacy (candidate : UpgradeRolloutItem) (signal : List AbortSignal) : RolloutTask Bool := do
  throwIfAborted signal
  let latestDetail ← ask (.getRollout candidate.rolloutId)
  match latestDetail.bind (·.find candidate.instanceId) with
  | none => pure true
  | some latest =>
    if !latest.proofMissing then pure true
    else if latest.revision ≠ candidate.revision then pure false
    else
      tryCatch (do
        let inst ← ask (.getContainer candidate.instanceId)
        throwIfAborted signal
        match inst with
        | none => pure true
        | some inst =>
          if !matchesCatalogTarget inst latest then pure true
          else if inst.status = .running then do
            w.succeed latest
            pure true
          else if latest.desiredState ≠ .stopped ∨ inst.status ≠ .stopped then pure true
          else do
            let now ← ask .now
            let attemptId ← ask .randomId
            let _ ← transition latest (firstStartRevalidation now attemptId)
            ask (.addCheckpoints w.id [candidate.rolloutId])
            pure true)
        fun error =>
          if error.isConflict then do
            let currentDetail ← ask (.getRollout candidate.rolloutId)
            pure !((currentDetail.bind (·.find candidate.instanceId)).any (·.proofMissing))
          else throw error

def legacyItemsFromRollouts (rollouts : List UpgradeRollout) : RolloutTask (List UpgradeRolloutItem) := do
  let found ← each (fun rollout => do
      if rollout.taskKind ≠ .imageUpgrade then pure []
      else do
        let detail ← ask (.getRollout rollout.id)
        pure ((detail.map (·.items)).getD [] |>.filter (·.proofMissing)))
    rollouts
  pure found.flatten

def legacyItems (rollouts : List UpgradeRollout) : RolloutTask (List UpgradeRolloutItem) :=
  if w.listLegacyFirstStartProofItems then ask .listLegacyFirstStartProofItems else legacyItemsFromRollouts rollouts

def reconcileLegacyFirstStartProofs (rollouts : List UpgradeRollout) (workerSignal : AbortSignal) :
    RolloutTask Bool := do
  let candidates ← w.legacyItems rollouts
  let reconciled ← each (fun candidate => do
      throwIfAborted [workerSignal]
      withItemLease candidate.instanceId fun itemSignal =>
        w.reconcileLegacy candidate [workerSignal, itemSignal])
    candidates
  pure (reconciled.all (· = some true))

/-! ## A round -/

/-- The items of before the transactions are looked for until a round has settled all of them. -/
def settleLegacy (rollouts : List UpgradeRollout) (workerSignal : AbortSignal) : RolloutTask Unit := do
  if !(← ask (.legacyReconciled w.id)) then
    let reconciled ← w.reconcileLegacyFirstStartProofs rollouts workerSignal
    ask (.setLegacyReconciled w.id reconciled)

def processDue (items : List UpgradeRolloutItem) (workerSignal : AbortSignal) : RolloutTask (List (Option Unit)) :=
  each (fun item => do
      throwIfAborted [workerSignal]
      withItemLease item.instanceId fun itemSignal => w.processItem item [workerSignal, itemSignal])
    items

def round (workerSignal : AbortSignal) : RolloutTask Bool := do
  throwIfAborted [workerSignal]
  ask (.clearCheckpoints w.id)
  let now ← ask .now
  let _ ← ask (.recoverInterruptedItems (now - interruptedAttemptRecoveryGraceMs) now)
  let rollouts ← ask (.listRollouts 500)
  w.settleLegacy rollouts workerSignal
  let _ ← each (fun rollout => refreshRolloutSummary rollout.id) rollouts
  let items ← ask (.listDueItems now w.batchSize)
  let _ ← w.processDue items workerSignal
  throwIfAborted [workerSignal]
  let checkpoints ← ask (.checkpoints w.id)
  let _ ← each refreshRolloutSummary (items.map (·.rolloutId) ++ checkpoints).eraseDups
  pure !items.isEmpty

def runOnce : RolloutTask Bool := do
  match ← ask .claimWorker with
  | none => pure false
  | some workerSignal => ensuring (w.round workerSignal) (ask .releaseWorker)

end UpgradeRolloutWorker

end OpenApp.Rollout
