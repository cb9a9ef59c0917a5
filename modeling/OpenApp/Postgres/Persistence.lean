import OpenApp.Postgres.Schema

/-!
# The store on PostgreSQL

Each operation is one transaction: it leaves the database it computes, or fails and leaves it as it
was. It fails where the database refuses a row, or by what the code itself raises.
-/

namespace OpenApp

open Sql Sql.Truth Script

inductive StoreError
  /-- by the database -/
  | refused (refusal : Refusal)
  /-- by the code -/
  | raised (failure : Failure)
  deriving DecidableEq

abbrev Transaction (α : Type) := Database → Except StoreError (α × Database)

/-- A statement of a transaction. -/
def statement {Col : Type} (r : Except Refusal (Table Col)) : Except StoreError (Table Col) :=
  r.mapError .refused

def raise {α : Type} (failure : Failure) : Except StoreError α :=
  .error (.raised failure)

/-- What the code computes in between. -/
def computed {α : Type} (r : Except Failure α) : Except StoreError α :=
  r.mapError .raised

/-! ## Times -/

/-- `greatest`, of which null is no part -/
def greatest (v w : Value) : Value :=
  match v, w with
  | .text a, .text b => .text (latestTimestamp a b)
  | .null, w => w
  | v, _ => v

/-- `v > at` -/
def after (v : Value) (at' : String) : Truth :=
  match v with
  | .null => none
  | .text value =>
    match dateParse value, dateParse at' with
    | some n, some m => some (m < n)
    | _, _ => none
  | .int _ => some false

/-- `v >= at` -/
def notBefore (v : Value) (at' : String) : Truth :=
  match v with
  | .null => none
  | .text value =>
    match dateParse value, dateParse at' with
    | some n, some m => some (m ≤ n)
    | _, _ => none
  | .int _ => some false

/-! ## Containers -/

namespace Database

def containerReferences (db : Database) : Table.References ContainerColumn := allOf [
  refersTo "containers_user_id_fkey" .userId db.users .id,
  refersTo "containers_image_artifact_id_fkey" .imageArtifactId db.imageArtifacts .id]

def containerRow (db : Database) (id : String) : Option ContainerRow :=
  db.containers.rows.find? fun r => r .id = .text id

/-- A row that was never compared and saved. -/
def untouched (id : String) (r : ContainerRow) : Truth :=
  all [(r .id).is id, some (r .executionRevision = .int 1), (r .workspaceStatus).is "active"]

/-- What an update by the older record leaves of a row. -/
def recordContainer (row : ContainerRow) (old : ContainerRow) : ContainerRow
  | .id => old .id
  | .userId => old .userId
  | .createdAt => old .createdAt
  | .lastActivityAt => greatest (old .lastActivityAt) (row .lastActivityAt)
  | c => row c

def saveContainer (container : Container) : Transaction Unit := fun db => do
  let p ← computed (projectContainerToWorkspaceExecution container)
  let row := containerWriteValues container p
  if (db.containerRow container.id).isSome then do
    if db.containers.rows.any fun r => Holds (untouched container.id r) then do
      let containers ← statement <|
        db.containers.updateWhere db.containerReferences (untouched container.id) (recordContainer row)
      return ((), { db with containers := containers })
    else raise .casRequired
  else if db.containers.rows.any fun r => liveUser r = some (.text container.userId) then
    .error (.refused (.unique "containers_live_user_idx"))
  else do
    let containers ← statement (db.containers.insert db.containerReferences row)
    return ((), { db with containers := containers })

def updateContainer (container : Container) : Transaction Unit := fun db => do
  let p ← computed (projectContainerToWorkspaceExecution container)
  if db.containers.rows.any fun r => Holds (untouched container.id r) then do
    let containers ← statement <|
      db.containers.updateWhere db.containerReferences (untouched container.id)
        (recordContainer (containerWriteValues container p))
    return ((), { db with containers := containers })
  else
    match db.containerRow container.id with
    | none => return ((), db)
    | some row => do
      let _ ← computed (mapWorkspaceExecutionProjection row)
      raise .casRequired

def getWorkspaceExecutionProjection (id : String) : Transaction (Option WorkspaceExecutionProjection) := fun db =>
  match db.containerRow id with
  | none => return (none, db)
  | some row => do
    let p ← computed (mapWorkspaceExecutionProjection row)
    return (some p, db)

def compareAndSaveWorkspaceExecution (projection : WorkspaceExecutionProjection) (expectedRevision : Nat) :
    Transaction (Option WorkspaceExecutionProjection) := fun db =>
  match db.containerRow projection.workspace.id with
  | none => return (none, db)
  | some selected => do
    let current ← computed (mapWorkspaceExecutionProjection selected)
    if current.execution.revision ≠ expectedRevision then return (none, db)
    else do
      computed (assertWorkspaceExecutionTransition current projection)
      let updated : WorkspaceExecutionProjection :=
        { projection with execution := { projection.execution with revision := expectedRevision + 1 } }
      let container ← computed (projectWorkspaceExecutionToContainer updated)
      let values := containerWriteValues container updated
      let write (old : ContainerRow) : ContainerRow
        | .lastActivityAt => greatest (old .lastActivityAt) (values .lastActivityAt)
        | c => values c
      let expected (r : ContainerRow) : Truth :=
        all [(r .id).is projection.workspace.id, some (r .executionRevision = .int expectedRevision)]
      let containers ← statement (db.containers.updateWhere db.containerReferences expected write)
      match (db.containers.rows.filter fun r => Holds (expected r)).head? with
      | none => return (none, db)
      | some row => do
        let q ← computed (mapWorkspaceExecutionProjection (write row))
        return (some q, { db with containers := containers })

def countLiveWorkspaceStorageReferences (storageRefId excludingWorkspaceId : String) : Transaction Nat := fun db =>
  return ((db.containers.rows.filter fun r =>
    Holds (all [(r .storageRefId).is storageRefId, isNot (r .id) excludingWorkspaceId,
      isNot (r .workspaceStatus) "deleted"])).length, db)

/-- Sets the time of the last activity, and nothing else. -/
def touch (condition : ContainerRow → Truth) (at' : Value → Value) : Transaction Unit := fun db => do
  let containers ← statement <| db.containers.updateWhere db.containerReferences condition fun r => fun
    | .lastActivityAt => at' (r .lastActivityAt)
    | c => r c
  return ((), { db with containers := containers })

def activeContainer (id : String) (r : ContainerRow) : Truth :=
  all [(r .id).is id, (r .workspaceStatus).is "active"]

def touchContainer (id at' : String) : Transaction Unit :=
  touch (activeContainer id) fun _ => .text at'

/-- What refers to the row goes with it. -/
def deleteContainer (id : String) : Transaction Unit := fun db =>
  return ((), { db with
    containers := db.containers.deleteWhere fun r => (r .id).is id
    workspaceTenantBindings := db.workspaceTenantBindings.deleteWhere fun r => (r .workspaceId).is id
    instanceActivityLeases := db.instanceActivityLeases.deleteWhere fun r => (r .instanceId).is id
    instanceUpgradeDrains := db.instanceUpgradeDrains.deleteWhere fun r => (r .instanceId).is id })

end Database

/-! ## Activity leases -/

inductive InstanceActivityKind
  | http | websocket
  deriving DecidableEq

def InstanceActivityKind.text : InstanceActivityKind → String
  | .http => "http"
  | .websocket => "websocket"

structure InstanceActivityLease where
  id : String
  instanceId : String
  kind : InstanceActivityKind
  openedAt : String
  heartbeatAt : String
  lastActivityAt : String

def InstanceActivityLease.row (lease : InstanceActivityLease) : Row InstanceActivityLeaseColumn
  | .id => .text lease.id
  | .instanceId => .text lease.instanceId
  | .kind => .text lease.kind.text
  | .openedAt => .text lease.openedAt
  | .heartbeatAt => .text lease.heartbeatAt
  | .lastActivityAt => .text lease.lastActivityAt

namespace Database

def containerNotFound : Failure := .other "container_not_found"

def leaseReferences (db : Database) : Table.References InstanceActivityLeaseColumn :=
  refersTo "instance_activity_leases_instance_id_fkey" .instanceId db.containers .id

def isDraining (db : Database) (instanceId at' : String) : Bool :=
  db.instanceUpgradeDrains.rows.any fun r => Holds (all [(r .instanceId).is instanceId, after (r .expiresAt) at'])

def tryOpenInstanceActivityLease (lease : InstanceActivityLease) (at' : String) : Transaction Bool := fun db =>
  if db.containers.rows.any fun r => Holds (activeContainer lease.instanceId r) then
    if db.isDraining lease.instanceId at' then return (false, db)
    else do
      let leases ← statement <|
        db.instanceActivityLeases.upsert db.leaseReferences (fun r s => r .id = s .id) (fun _ r => r) lease.row
      let ((), db) ← touch (fun r => (r .id).is lease.instanceId) (greatest · (.text lease.openedAt))
        { db with instanceActivityLeases := leases }
      return (true, db)
  else raise containerNotFound

def renewInstanceActivityLease (lease : InstanceActivityLease) (at' : String) : Transaction Bool := fun db =>
  if db.containers.rows.any fun r => Holds (activeContainer lease.instanceId r) then
    if db.isDraining lease.instanceId at' then return (false, db)
    else do
      let held (r : Row InstanceActivityLeaseColumn) : Truth :=
        all [(r .id).is lease.id, (r .instanceId).is lease.instanceId]
      let leases ← statement <| db.instanceActivityLeases.updateWhere db.leaseReferences held fun r => fun
        | .heartbeatAt => .text lease.heartbeatAt
        | .lastActivityAt => .text lease.lastActivityAt
        | c => r c
      if db.instanceActivityLeases.rows.any fun r => Holds (held r) then do
        let ((), db) ← touch (fun r => (r .id).is lease.instanceId) (greatest · (.text lease.lastActivityAt))
          { db with instanceActivityLeases := leases }
        return (true, db)
      else return (false, db)
  else raise containerNotFound

def deleteInstanceActivityLease (id : String) : Transaction Unit := fun db =>
  return ((), { db with instanceActivityLeases := db.instanceActivityLeases.deleteWhere fun r => (r .id).is id })

def closeInstanceActivityLease (id instanceId closedAt : String) : Transaction Unit := fun db => do
  let ((), db) ← touch (fun r => (r .id).is instanceId) (greatest · (.text closedAt)) db
  return ((), { db with
    instanceActivityLeases := db.instanceActivityLeases.deleteWhere fun r =>
      all [(r .id).is id, (r .instanceId).is instanceId] })

end Database

/-! ## Drains -/

inductive InstanceDrainMode
  | graceful | force
  deriving DecidableEq

structure InstanceDrainRequest where
  instanceId : String
  rolloutId : String
  attemptId : String
  at' : String
  expiresAt : String
  heartbeatCutoff : String
  websocketActivityCutoff : String
  mode : InstanceDrainMode

def InstanceDrainRequest.row (request : InstanceDrainRequest) : Row InstanceUpgradeDrainColumn
  | .instanceId => .text request.instanceId
  | .rolloutId => .text request.rolloutId
  | .attemptId => .text request.attemptId
  | .expiresAt => .text request.expiresAt

namespace Database

def drainReferences (db : Database) : Table.References InstanceUpgradeDrainColumn := allOf [
  refersTo "instance_upgrade_drains_instance_id_fkey" .instanceId db.containers .id,
  refersTo "instance_upgrade_drains_rollout_id_fkey" .rolloutId db.upgradeRollouts .id]

/-- A connection that a graceful drain waits for. -/
def hasActiveLease (db : Database) (request : InstanceDrainRequest) : Bool :=
  db.instanceActivityLeases.rows.any fun r => Holds (all [
    (r .instanceId).is request.instanceId, notBefore (r .heartbeatAt) request.heartbeatCutoff,
    any [(r .kind).is "http", notBefore (r .lastActivityAt) request.websocketActivityCutoff]])

/-- The drain of another owner that has not expired. -/
def hasOtherDrain (db : Database) (request : InstanceDrainRequest) : Bool :=
  match db.instanceUpgradeDrains.rows.find? fun r =>
      Holds (all [(r .instanceId).is request.instanceId, after (r .expiresAt) request.at']) with
  | none => false
  | some drain => drain .rolloutId ≠ .text request.rolloutId || drain .attemptId ≠ .text request.attemptId

def beginInstanceDraining (request : InstanceDrainRequest) : Transaction Bool := fun db =>
  if (db.containerRow request.instanceId).isSome then
    if request.mode = .graceful ∧ db.hasActiveLease request = true then return (false, db)
    else if db.hasOtherDrain request then return (false, db)
    else do
      let drains ← statement <|
        db.instanceUpgradeDrains.upsert db.drainReferences (fun r s => r .instanceId = s .instanceId)
          (fun _ r => r) request.row
      return (true, { db with instanceUpgradeDrains := drains })
  else raise containerNotFound

def clearInstanceDraining (instanceId rolloutId attemptId : String) : Transaction Unit := fun db =>
  return ((), { db with
    instanceUpgradeDrains := db.instanceUpgradeDrains.deleteWhere fun r =>
      all [(r .instanceId).is instanceId, (r .rolloutId).is rolloutId, (r .attemptId).is attemptId] })

end Database

end OpenApp
