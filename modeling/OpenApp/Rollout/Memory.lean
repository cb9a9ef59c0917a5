import Mathlib.Data.List.Sort
import OpenApp.Keyed
import OpenApp.Rollout.Types

/-!
# The rollouts in memory

The store of the rollouts with their items, and of the leases and drains of the instances. Every
operation runs without being interrupted: those on one instance wait for a lock of it, and none of them
awaits anything while it holds the lock.
-/

namespace OpenApp.Rollout

open Keyed

/-- What admission reads and writes of a Workspace. -/
structure WorkspaceActivity where
  id : String
  status : WorkspaceStatus
  lastActivityAt : Timestamp
  deriving DecidableEq

/-- `upgradeItemKey`: the two ids with a colon between them. A rollout id is a UUID and has no colon,
so the text is as good as the pair. -/
def UpgradeRolloutItem.key (item : UpgradeRolloutItem) : String × String :=
  (item.rolloutId, item.instanceId)

structure Store where
  workspaces : Table WorkspaceActivity.id
  upgradeRollouts : Table UpgradeRollout.id
  upgradeRolloutItems : Table UpgradeRolloutItem.key
  instanceActivityLeases : Table InstanceActivityLease.id
  instanceUpgradeDrains : Table InstanceUpgradeDrain.instanceId

def clampLimit (value : Nat) : Nat :=
  max 1 (min 500 value)

namespace Store

variable (s : Store)

/-! ## Reading rollouts -/

def getUpgradeRollout (id : String) : Option UpgradeRolloutDetail :=
  (s.upgradeRollouts.get id).map fun rollout =>
    { rollout := rollout
      items := (s.upgradeRolloutItems.rows.filter fun item => item.rolloutId = id).insertionSort
        fun left right => left.position ≤ right.position }

def listUpgradeRollouts (limit : Nat) : List UpgradeRollout :=
  (s.upgradeRollouts.rows.insertionSort fun left right => right.createdAt ≤ left.createdAt).take (clampLimit limit)

def dueItem (at' : Timestamp) (item : UpgradeRolloutItem) : Bool :=
  (item.status = .queued ∨ item.status = .waitingForIdle ∨ item.status = .awaitingFirstStart) ∧
    ∀ next ∈ item.nextAttemptAt, next ≤ at'

/-- The order of the due items: of one instance, those that wait for a first start come last, the older
rollouts first; of two instances, the earlier attempt first. -/
def dueBefore (left right : UpgradeRolloutItem) : Bool :=
  if left.instanceId = right.instanceId then
    if (left.status = .awaitingFirstStart) ≠ (right.status = .awaitingFirstStart) then
      right.status = .awaitingFirstStart
    else left.createdAt < right.createdAt ∨ (left.createdAt = right.createdAt ∧ left.rolloutId ≤ right.rolloutId)
  else left.nextAttemptAt.getD left.createdAt ≤ right.nextAttemptAt.getD right.createdAt

def listDueUpgradeRolloutItems (at' : Timestamp) (limit : Nat) : List UpgradeRolloutItem :=
  ((s.upgradeRolloutItems.rows.filter (dueItem at')).insertionSort fun left right => dueBefore left right).take
    (clampLimit limit)

def taskKindOf (rolloutId : String) : Option UpgradeRolloutTaskKind :=
  (s.upgradeRollouts.get rolloutId).map (·.taskKind)

def listLegacyFirstStartProofItems : List UpgradeRolloutItem :=
  (s.upgradeRolloutItems.rows.filter fun item =>
    s.taskKindOf item.rolloutId = some .imageUpgrade && item.proofMissing).insertionSort
      fun left right => left.createdAt ≤ right.createdAt

/-! ## Creating rollouts -/

def findUpgradeRolloutByIdempotencyKey (actorUserId idempotencyKey : String) : Option UpgradeRolloutDetail :=
  (s.upgradeRollouts.rows.find? fun candidate =>
    candidate.actorUserId = actorUserId ∧ candidate.idempotencyKey = some idempotencyKey).bind fun rollout =>
      s.getUpgradeRollout rollout.id

def putItems (s : Store) (items : List UpgradeRolloutItem) : Store :=
  items.foldl (fun s item => { s with upgradeRolloutItems := s.upgradeRolloutItems.put item }) s

/-- `none` for `upgrade_rollout_exists`; a rollout of the same actor and key is returned as it is. -/
def createUpgradeRollout (rollout : UpgradeRollout) (items : List UpgradeRolloutItem) :
    Option (UpgradeRolloutDetail × Store) :=
  let existing := match rollout.idempotencyKey with
    | none => none
    | some key => if key = "" then none else s.findUpgradeRolloutByIdempotencyKey rollout.actorUserId key
  match existing with
  | some detail => some (detail, s)
  | none =>
    if (s.upgradeRollouts.get rollout.id).isSome then none
    else
      let next := putItems { s with upgradeRollouts := s.upgradeRollouts.put rollout } items
      (next.getUpgradeRollout rollout.id).map fun detail => (detail, next)

/-! ## Writing items -/

/-- The target stays as it was created; what the worker refreshes and the state machine are written. -/
def saved (current item : UpgradeRolloutItem) (updatedAt : Timestamp) : UpgradeRolloutItem :=
  { current with
    desiredState := item.desiredState
    sourceAppVersionId := item.sourceAppVersionId
    sourceImageArtifactId := item.sourceImageArtifactId
    sourceImageReference := item.sourceImageReference
    diagnostics := item.diagnostics
    status := item.status
    blocker := item.blocker
    error := item.error
    forceRequested := item.forceRequested
    attemptId := item.attemptId
    attemptCount := item.attemptCount
    nextAttemptAt := item.nextAttemptAt
    lastCheckedAt := item.lastCheckedAt
    startedAt := item.startedAt
    finishedAt := item.finishedAt
    updatedAt := updatedAt
    revision := current.revision + 1 }

def putItem (item : UpgradeRolloutItem) : Store :=
  { s with upgradeRolloutItems := s.upgradeRolloutItems.put item }

def compareAndSaveUpgradeRolloutItem (item : UpgradeRolloutItem) (expectedRevision : Nat) :
    Option UpgradeRolloutItem × Store :=
  match s.upgradeRolloutItems.get item.key with
  | none => (none, s)
  | some current =>
    if current.revision ≠ expectedRevision then (none, s)
    else
      let updated := saved current item item.updatedAt
      (some updated, s.putItem updated)

/-- `isSupersedableFirstStartItem` -/
def supersedable (candidate : UpgradeRolloutItem) : Bool :=
  candidate.status = .awaitingFirstStart ∨
    (s.taskKindOf candidate.rolloutId = some .imageUpgrade ∧ candidate.proofMissing)

/-- Of two items of one instance, this one is of the older rollout. -/
def olderThan (candidate current : UpgradeRolloutItem) : Bool :=
  candidate.createdAt < current.createdAt ∨
    (candidate.createdAt = current.createdAt ∧ candidate.rolloutId < current.rolloutId)

def superseded (candidate : UpgradeRolloutItem) (at' : Timestamp) : UpgradeRolloutItem :=
  { candidate with
    revision := candidate.revision + 1
    status := .superseded
    blocker := some "superseded_by_newer_deployment"
    error := none
    attemptId := none
    nextAttemptAt := none
    finishedAt := some at'
    updatedAt := at' }

/-- The candidate is one of the instance that the item takes the place of. -/
def supersededBy (current : UpgradeRolloutItem) (instanceId : String) (candidate : UpgradeRolloutItem) : Bool :=
  candidate.instanceId = instanceId && s.supersedable candidate && olderThan candidate current

def settleEarlier (current : UpgradeRolloutItem) (instanceId : String) (at' : Timestamp)
    (candidate : UpgradeRolloutItem) : UpgradeRolloutItem :=
  if s.supersededBy current instanceId candidate then superseded candidate at' else candidate

theorem settleEarlier_key (current : UpgradeRolloutItem) (instanceId : String) (at' : Timestamp)
    (candidate : UpgradeRolloutItem) : (s.settleEarlier current instanceId at' candidate).key = candidate.key := by
  unfold settleEarlier
  split <;> rfl

def supersedeEarlier (current : UpgradeRolloutItem) (instanceId : String) (at' : Timestamp) : Store :=
  let items := s.upgradeRolloutItems.sweep (s.settleEarlier current instanceId at')
    (s.settleEarlier_key current instanceId at')
  { s with upgradeRolloutItems := items }

def supersededRolloutIds (current : UpgradeRolloutItem) (instanceId : String) : List String :=
  (s.upgradeRolloutItems.rows.filter (s.supersededBy current instanceId)).map (·.rolloutId)

def supersedeUpgradeDeferredItemsBefore (rolloutId instanceId : String) (at' : Timestamp) : List String × Store :=
  match s.upgradeRolloutItems.get (rolloutId, instanceId) with
  | none => ([], s)
  | some current => ((s.supersededRolloutIds current instanceId).eraseDups, s.supersedeEarlier current instanceId at')

def commitUpgradeDeploymentCheckpoint (item : UpgradeRolloutItem) (expectedRevision : Nat) (at' : Timestamp)
    (supersede : Bool) : Option (UpgradeRolloutItem × List String) × Store :=
  match s.upgradeRolloutItems.get item.key with
  | none => (none, s)
  | some current =>
    if current.revision ≠ expectedRevision then (none, s)
    else
      let updated := saved current item at'
      let next := s.putItem updated
      if supersede && (item.status = .awaitingFirstStart ∨ item.status = .succeeded) then
        (some (updated, (item.rolloutId :: next.supersededRolloutIds current item.instanceId).eraseDups),
          next.supersedeEarlier current item.instanceId at')
      else (some (updated, [item.rolloutId]), next)

/-- The rollout keeps its revision when its items are written; only its own summary raises it. -/
def compareAndSaveUpgradeRollout (rollout : UpgradeRollout) (expectedRevision : Nat) : Option UpgradeRollout × Store :=
  match s.upgradeRollouts.get rollout.id with
  | none => (none, s)
  | some current =>
    if current.revision ≠ expectedRevision then (none, s)
    else
      let updated := { current with
        status := rollout.status
        completed := rollout.completed
        succeeded := rollout.succeeded
        superseded := some (rollout.superseded.getD 0)
        failed := rollout.failed
        waiting := rollout.waiting
        upgrading := rollout.upgrading
        needsAttention := rollout.needsAttention
        updatedAt := rollout.updatedAt
        finishedAt := rollout.finishedAt
        revision := current.revision + 1 }
      (some updated, { s with upgradeRollouts := s.upgradeRollouts.put updated })

/-! ## Recovery -/

def interrupted (cutoff : Timestamp) (item : UpgradeRolloutItem) : Bool :=
  item.status.inTransition && item.updatedAt ≤ cutoff

/-- An attempt that may have reached the provider is reconciled, any other one is queued again. -/
def recovered (item : UpgradeRolloutItem) (recoveredAt : Timestamp) : UpgradeRolloutItem :=
  let reconcile : Bool := (item.status = .rebuilding ∨ item.status = .verifying) ∧ item.attemptId ≠ none
  { item with
    revision := item.revision + 1
    status := if reconcile then .awaitingFirstStart else .queued
    blocker := some (if reconcile then "candidate_recovery_pending" else "portal_restarted")
    error := none
    attemptId := if reconcile then item.attemptId else none
    nextAttemptAt := some recoveredAt
    finishedAt := none
    updatedAt := recoveredAt }

def recoverItem (cutoff recoveredAt : Timestamp) (item : UpgradeRolloutItem) : UpgradeRolloutItem :=
  if interrupted cutoff item then recovered item recoveredAt else item

theorem recoverItem_key (cutoff recoveredAt : Timestamp) (item : UpgradeRolloutItem) :
    (recoverItem cutoff recoveredAt item).key = item.key := by
  unfold recoverItem
  split <;> rfl

/-- The item of the drain has an attempt under way. -/
def ownsActiveTransition (drain : InstanceUpgradeDrain) : Bool :=
  (s.upgradeRolloutItems.get (drain.rolloutId, drain.instanceId)).any (·.status.inTransition)

def recoverItems (cutoff recoveredAt : Timestamp) : Store :=
  let items := s.upgradeRolloutItems.sweep (recoverItem cutoff recoveredAt) (recoverItem_key cutoff recoveredAt)
  { s with upgradeRolloutItems := items }

/-- The sweep leaves the drains that have not expired and whose items have an attempt under way. -/
def sweepDrains (recoveredAt : Timestamp) : Store :=
  let drains := s.instanceUpgradeDrains.keep fun drain => recoveredAt < drain.expiresAt && s.ownsActiveTransition drain
  { s with instanceUpgradeDrains := drains }

def recoverInterruptedUpgradeRolloutItems (cutoff recoveredAt : Timestamp) : Nat × Store :=
  (s.upgradeRolloutItems.rows.countP (interrupted cutoff), (s.recoverItems cutoff recoveredAt).sweepDrains recoveredAt)

/-! ## Leases and drains -/

def putDrain (drain : InstanceUpgradeDrain) : Store :=
  { s with instanceUpgradeDrains := s.instanceUpgradeDrains.put drain }

def deleteDrain (instanceId : String) : Store :=
  { s with instanceUpgradeDrains := s.instanceUpgradeDrains.delete instanceId }

/-- An expired drain is deleted by whoever looks at it. -/
def isInstanceDraining (instanceId : String) (at' : Timestamp) : Bool × Store :=
  match s.instanceUpgradeDrains.get instanceId with
  | none => (false, s)
  | some drain =>
    if at' < drain.expiresAt then (true, s) else (false, s.deleteDrain instanceId)

def workspaceActive (instanceId : String) : Bool :=
  (s.workspaces.get instanceId).any fun workspace => workspace.status = .active

/-- The later one of the two activity times. -/
def touchContainerAt (instanceId : String) (at' : Timestamp) : Store :=
  match s.workspaces.get instanceId with
  | none => s
  | some workspace =>
    { s with workspaces := s.workspaces.put { workspace with lastActivityAt := max workspace.lastActivityAt at' } }

def putLease (lease : InstanceActivityLease) : Store :=
  { s with instanceActivityLeases := s.instanceActivityLeases.put lease }

def tryOpenInstanceActivityLease (lease : InstanceActivityLease) (at' : Timestamp) : Bool × Store :=
  if !s.workspaceActive lease.instanceId then (false, s)
  else
    let (draining, s) := s.isInstanceDraining lease.instanceId at'
    if draining then (false, s)
    else (true, (s.putLease lease).touchContainerAt lease.instanceId lease.openedAt)

def renewInstanceActivityLease (lease : InstanceActivityLease) (at' : Timestamp) : Bool × Store :=
  if !s.workspaceActive lease.instanceId || (s.instanceActivityLeases.get lease.id).isNone then (false, s)
  else
    let (draining, s) := s.isInstanceDraining lease.instanceId at'
    if draining then (false, s)
    else (true, (s.putLease lease).touchContainerAt lease.instanceId lease.lastActivityAt)

def deleteInstanceActivityLease (id : String) : Store :=
  { s with instanceActivityLeases := s.instanceActivityLeases.delete id }

def closeInstanceActivityLease (id instanceId : String) (closedAt : Timestamp) : Store :=
  let own := (s.instanceActivityLeases.get id).any fun lease => lease.instanceId = instanceId
  (if own then s.deleteInstanceActivityLease id else s).touchContainerAt instanceId closedAt

/-- A lease that holds a graceful drain back: a live HTTP one, or a live and busy WebSocket. -/
def holdsBack (request : InstanceDrainRequest) (lease : InstanceActivityLease) : Bool :=
  lease.instanceId = request.instanceId ∧ request.heartbeatCutoff ≤ lease.heartbeatAt ∧
    (lease.kind = .http ∨ request.websocketActivityCutoff ≤ lease.lastActivityAt)

/-- The existing drain is one of another owner that has not expired. -/
def refuses (request : InstanceDrainRequest) (existing : InstanceUpgradeDrain) : Bool :=
  request.at' < existing.expiresAt && !existing.ownedBy request.rolloutId request.attemptId

def expireDrain (instanceId : String) (at' : Timestamp) : Store :=
  if (s.instanceUpgradeDrains.get instanceId).any fun drain => drain.expiresAt ≤ at' then s.deleteDrain instanceId
  else s

/-- The last part of a beginning: the active leases, and the drain. -/
def admitDrain (request : InstanceDrainRequest) : Bool × Store :=
  if request.mode = .graceful ∧ s.instanceActivityLeases.rows.any (holdsBack request) then (false, s)
  else (true, s.putDrain request.drain)

def beginInstanceDraining (request : InstanceDrainRequest) : Bool × Store :=
  if (s.instanceUpgradeDrains.get request.instanceId).any (refuses request) then (false, s)
  else (s.expireDrain request.instanceId request.at').admitDrain request

def clearInstanceDraining (instanceId rolloutId attemptId : String) : Store :=
  if (s.instanceUpgradeDrains.get instanceId).any (·.ownedBy rolloutId attemptId) then s.deleteDrain instanceId else s

end Store

end OpenApp.Rollout
