import OpenApp.Postgres.Records

/-!
# The schema and its initialisation

`initializeCoreSchema` runs at every start of a Portal. It creates the tables that are missing, adds
the columns an older table lacks, fills them in, and then installs the constraints that are
missing. The tables here are those that refer to a Workspace or are referred to, and of the script
the statements that act on them.
-/

namespace OpenApp

open Sql Sql.Truth

/-- `v <> '…'` -/
def isNot (v : Value) (value : String) : Truth := (v.is value).map (!·)

/-! ## Columns -/

inductive UserColumn
  | id | email | role | createdAt | appInitializedAt
  deriving DecidableEq

inductive TenantColumn
  | id | kind | name
  deriving DecidableEq

inductive TenantMembershipColumn
  | tenantId | userId | role
  deriving DecidableEq

inductive WorkspaceTenantBindingColumn
  | workspaceId | tenantId | ownerId
  deriving DecidableEq

inductive AppVersionColumn
  | id | appId | version | buildId | packages | imageReference | runtimeContract | status | createdAt | activatedAt
  | revision | imageArtifactId | sourceKind
  deriving DecidableEq

inductive UpgradeRolloutColumn
  | id | revision | actorUserId | status | taskKind | useLatestVersion | requested | completed | succeeded | failed
  | superseded | waiting | upgrading | needsAttention | idempotencyKey | requestFingerprint | createdAt | updatedAt
  | finishedAt
  deriving DecidableEq

inductive UpgradeRolloutItemColumn
  | rolloutId | instanceId | position | revision | userId | appId | sourceStatus | desiredState | sourceAppVersionId
  | sourceImageArtifactId | sourceImageReference | targetAppVersionId | targetImageArtifactId | targetImageReference
  | targetRuntimeContract | launchProfile | recovery | status | blocker | error | diagnostics | forceRequested
  | attemptId | attemptCount | nextAttemptAt | lastCheckedAt | startedAt | finishedAt | createdAt | updatedAt
  deriving DecidableEq

inductive InstanceActivityLeaseColumn
  | id | instanceId | kind | openedAt | heartbeatAt | lastActivityAt
  deriving DecidableEq

inductive InstanceUpgradeDrainColumn
  | instanceId | rolloutId | attemptId | expiresAt
  deriving DecidableEq

inductive ImageArtifactColumn
  | id | buildId | imageReference | imageId | runtimeContract | createdAt
  deriving DecidableEq

structure Database where
  users : Table UserColumn
  containers : Table ContainerColumn
  tenants : Table TenantColumn
  tenantMemberships : Table TenantMembershipColumn
  workspaceTenantBindings : Table WorkspaceTenantBindingColumn
  appVersions : Table AppVersionColumn
  upgradeRollouts : Table UpgradeRolloutColumn
  upgradeRolloutItems : Table UpgradeRolloutItemColumn
  instanceActivityLeases : Table InstanceActivityLeaseColumn
  instanceUpgradeDrains : Table InstanceUpgradeDrainColumn
  imageArtifacts : Table ImageArtifactColumn

def Database.empty : Database where
  users := .absent
  containers := .absent
  tenants := .absent
  tenantMemberships := .absent
  workspaceTenantBindings := .absent
  appVersions := .absent
  upgradeRollouts := .absent
  upgradeRolloutItems := .absent
  instanceActivityLeases := .absent
  instanceUpgradeDrains := .absent
  imageArtifacts := .absent

/-! ## References -/

/-- A value that is written anew, and is not null, is in the column it refers to. -/
def refersTo {Col Col' : Type} [DecidableEq Col'] (name : String) (c : Col) (t : Table Col') (key : Col') :
    Table.References Col := fun old r =>
  if r c = .null ∨ (old.any fun o => o c = r c) = true ∨ t.has key (r c) = true then none else some (.foreignKey name)

/-- The first reference that is not there. -/
def allOf {Col : Type} (references : List (Table.References Col)) : Table.References Col := fun old r =>
  references.findSome? fun reference => reference old r

/-- A table, or an update, without references. -/
def refersToNothing {Col : Type} : Table.References Col := fun _ _ => none

/-! ## Users -/

def usersRoleCheck : Check UserColumn where
  name := "users_role_check"
  condition r := (r .role).isIn ["user", "admin", "super_admin"]

def usersTable : Table UserColumn where
  created := true
  columns _ := true
  required := [.id, .email, .role, .createdAt]
  checks := [usersRoleCheck]
  indexes := []
  rows := []

/-- A check that does not list `super_admin` yet is replaced. -/
def initializeUsers (t : Table UserColumn) : Except Refusal (Table UserColumn) :=
  let t := t.createIfNotExists usersTable
  match t.checks.find? fun k => k.name = "users_role_check" with
  | none => t.addCheck usersRoleCheck
  | some k =>
    if Holds (k.condition fun _ => .text "super_admin") then .ok t
    else (t.dropCheck "users_role_check").addCheck usersRoleCheck

/-! ## Containers -/

def containersStatusCheck : Check ContainerColumn where
  name := "containers_status_check"
  condition r := (r .status).isIn ["creating", "running", "stopped", "failed"]

def containersStopReasonCheck : Check ContainerColumn where
  name := "containers_stop_reason_check"
  condition r := (r .stopReason).isIn ["idle", "manual_user", "manual_admin", "failure"]

def containersWorkspaceExecutionCheck : Check ContainerColumn where
  name := "containers_workspace_execution_check"
  condition r := all [
    (r .workspaceStatus).isIn ["active", "deleting", "deleted"],
    (r .executionRole).isIn ["active", "candidate", "previous", "retired"],
    (r .transactionStatus).isIn
      ["requested", "progressing", "applied", "awaiting_first_start", "rolled_back", "failed", "inconsistent"],
    (r .desiredState).isIn ["running", "stopped"],
    (r .observedState).isIn ["absent", "creating", "running", "stopped", "failed", "unknown"],
    (r .deployedGeneration).le (r .desiredGeneration),
    (Value.int 0).le (r .deployedGeneration),
    any [
      (r .healthyGeneration).isNull,
      all [(Value.int 0).le (r .healthyGeneration), (r .healthyGeneration).le (r .deployedGeneration)]],
    (Value.int 1).le (r .executionRevision),
    (Value.int 2).le (r .executionModelVersion)]

def containersWorkspaceDeletionCheck : Check ContainerColumn where
  name := "containers_workspace_deletion_check"
  condition r := any [
    all [
      (r .workspaceStatus).is "active", (r .deletionTransactionId).isNull, (r .deletionPhase).isNull,
      (r .deletionFailure).isNull, (r .deletedAt).isNull],
    all [
      (r .workspaceStatus).is "deleting", (r .deletionTransactionId).isNotNull,
      (r .deletionPhase).isIn
        ["draining", "removing_environments", "verifying_references", "releasing_storage", "finalizing"],
      (r .deletedAt).isNull],
    all [
      (r .workspaceStatus).is "deleted", (r .deletionTransactionId).isNotNull, (r .deletionPhase).is "deleted",
      (r .deletedAt).isNotNull, (r .activeExecutionId).isNull, (r .executionRole).is "retired",
      (r .environmentRef).isNull]]

def containersTable : Table ContainerColumn where
  created := true
  columns _ := true
  required := [.id, .userId, .appId, .runtimeId, .status, .createdAt, .updatedAt, .lastActivityAt, .workspaceStatus,
    .providerId, .executionRole, .desiredGeneration, .executionRevision, .executionModelVersion]
  checks := [containersStatusCheck, containersStopReasonCheck]
  indexes := []
  rows := []

/-- The columns an older table lacks, with what they are in the rows there are. -/
def executionColumns : List (ContainerColumn × Value) := [
  (.stopReason, .null), (.workspaceStatus, .text "active"), (.storageRefId, .null), (.activeExecutionId, .null),
  (.providerId, .text "docker"), (.environmentRef, .null), (.executionRole, .text "active"),
  (.desiredGeneration, .int 1), (.deployedGeneration, .null), (.healthyGeneration, .null), (.transactionId, .null),
  (.transactionStatus, .null), (.desiredState, .null), (.observedState, .null), (.desiredAppRevisionId, .null),
  (.desiredLaunchArtifactId, .null), (.desiredLaunchArtifactReference, .null), (.executionRevision, .int 1),
  (.executionImageArtifactId, .null), (.executionImageReference, .null), (.executionEndpoint, .null),
  (.executionModelVersion, .null), (.deletionTransactionId, .null), (.deletionPhase, .null),
  (.deletionFailure, .null), (.deletedAt, .null)]

def addExecutionColumns (t : Table ContainerColumn) : Table ContainerColumn :=
  executionColumns.foldl (fun t c => t.addColumn c.1 c.2) t

/-- The rows the back-fill is for. -/
def needsBackfill (r : ContainerRow) : Truth :=
  any [
    (r .storageRefId).isNull, (r .activeExecutionId).isNull, (r .deployedGeneration).isNull,
    (r .transactionStatus).isNull, (r .desiredState).isNull, (r .observedState).isNull, (r .executionRevision).isNull]

def backfill (r : ContainerRow) : ContainerRow
  | .workspaceStatus => (r .workspaceStatus).coalesce (.text "active")
  | .storageRefId => (r .storageRefId).coalesce ((r .id).concat "workspace-storage:" "")
  | .activeExecutionId => (r .activeExecutionId).coalesce ((r .id).concat "" ":docker")
  | .providerId => (r .providerId).coalesce (.text "docker")
  | .environmentRef => if Holds ((r .runtimeId).is "pending") then .null else r .runtimeId
  | .executionRole => (r .executionRole).coalesce (.text "active")
  | .desiredGeneration => (r .desiredGeneration).coalesce (.int 1)
  | .deployedGeneration =>
    (r .deployedGeneration).coalesce (if Holds ((r .status).is "creating") then .int 0 else .int 1)
  | .healthyGeneration =>
    if Holds ((r .status).is "running") then (r .healthyGeneration).coalesce (.int 1) else r .healthyGeneration
  | .transactionId => (r .transactionId).coalesce ((r .id).concat "legacy-import:" "")
  | .transactionStatus =>
    (r .transactionStatus).coalesce
      (if Holds ((r .status).is "creating") then .text "progressing"
      else if Holds ((r .status).is "failed") then .text "failed"
      else .text "applied")
  | .desiredState =>
    (r .desiredState).coalesce (if Holds ((r .status).is "stopped") then .text "stopped" else .text "running")
  | .observedState => r .status
  | .executionRevision => (r .executionRevision).coalesce (.int 1)
  | .executionImageArtifactId => r .imageArtifactId
  | .executionImageReference => r .imageReference
  | .executionEndpoint => r .endpoint
  | c => r c

/-- The rows of an older model take what they run as what they are to run. -/
def adoptModel (r : ContainerRow) : ContainerRow
  | .desiredAppRevisionId => r .appVersionId
  | .desiredLaunchArtifactId => r .imageArtifactId
  | .desiredLaunchArtifactReference => r .imageReference
  | .executionModelVersion => .int 2
  | c => r c

/-- A user has one Workspace that is not deleted. -/
def liveUser (r : ContainerRow) : Option Value :=
  if Holds (isNot (r .workspaceStatus) "deleted") then some (r .userId) else none

def setRequired (t : Table ContainerColumn) : Except Refusal (Table ContainerColumn) := do
  let t ← t.setNotNull .workspaceStatus
  let t ← t.setNotNull .storageRefId
  let t := t.dropNotNull .activeExecutionId
  let t ← t.setNotNull .providerId
  let t ← t.setNotNull .executionRole
  let t ← t.setNotNull .desiredGeneration
  let t ← t.setNotNull .deployedGeneration
  let t ← t.setNotNull .transactionStatus
  let t ← t.setNotNull .desiredState
  let t ← t.setNotNull .observedState
  let t ← t.setNotNull .executionRevision
  t.setNotNull .executionModelVersion

def addContainerChecks (t : Table ContainerColumn) : Except Refusal (Table ContainerColumn) := do
  let t ← t.addMissingCheck containersStopReasonCheck
  let t ← t.addMissingCheck containersWorkspaceExecutionCheck
  t.addMissingCheck containersWorkspaceDeletionCheck

def initializeContainers (t : Table ContainerColumn) : Except Refusal (Table ContainerColumn) := do
  let t := addExecutionColumns (t.createIfNotExists containersTable)
  let t ← t.updateWhere refersToNothing needsBackfill backfill
  let t ← t.updateWhere refersToNothing (fun r => (r .executionModelVersion).isNull) adoptModel
  let t ← setRequired t
  let t ← t.createUniqueIndex "containers_live_user_idx" liveUser
  addContainerChecks t

/-! ## Tenants -/

def tenantsTable : Table TenantColumn where
  created := true
  columns _ := true
  required := [.id, .kind, .name]
  checks := [{
    name := "tenants_kind_check"
    condition := fun r => (r .kind).isIn ["personal", "organization"] }]
  indexes := []
  rows := []

def tenantMembershipsTable : Table TenantMembershipColumn where
  created := true
  columns _ := true
  required := [.tenantId, .userId, .role]
  checks := [{
    name := "tenant_memberships_role_check"
    condition := fun r => (r .role).isIn ["owner", "admin", "member"] }]
  indexes := []
  rows := []

def workspaceTenantBindingsTable : Table WorkspaceTenantBindingColumn where
  created := true
  columns _ := true
  required := [.workspaceId, .tenantId, .ownerId]
  checks := []
  indexes := []
  rows := []

def personalTenant (userId : Value) : Value := userId.concat "personal:" ""

def personalTenantRow (user : Row UserColumn) : Row TenantColumn
  | .id => personalTenant (user .id)
  | .kind => .text "personal"
  | .name => user .email

def personalMembershipRow (user : Row UserColumn) : Row TenantMembershipColumn
  | .tenantId => personalTenant (user .id)
  | .userId => user .id
  | .role => .text "owner"

def personalBindingRow (container : ContainerRow) : Row WorkspaceTenantBindingColumn
  | .workspaceId => container .id
  | .tenantId => personalTenant (container .userId)
  | .ownerId => container .userId

def insertPersonalTenants (users : Table UserColumn) (t : Table TenantColumn) : Except Refusal (Table TenantColumn) :=
  users.rows.foldlM (fun t user =>
    t.upsert refersToNothing (fun r s => r .id = s .id)
      (fun s r => fun
        | .name => r .name
        | c => s c)
      (personalTenantRow user)) t

def insertPersonalMemberships (users : Table UserColumn) (tenants : Table TenantColumn)
    (t : Table TenantMembershipColumn) : Except Refusal (Table TenantMembershipColumn) :=
  users.rows.foldlM (fun t user =>
    t.insertMissing
      (allOf [
        refersTo "tenant_memberships_tenant_id_fkey" .tenantId tenants .id,
        refersTo "tenant_memberships_user_id_fkey" .userId users .id])
      (fun r s => r .tenantId = s .tenantId && r .userId = s .userId) (personalMembershipRow user)) t

def insertPersonalBindings (users : Table UserColumn) (containers : Table ContainerColumn)
    (tenants : Table TenantColumn) (t : Table WorkspaceTenantBindingColumn) :
    Except Refusal (Table WorkspaceTenantBindingColumn) :=
  (containers.rows.filter fun r => Holds (isNot (r .workspaceStatus) "deleted")).foldlM (fun t container =>
    t.insertMissing
      (allOf [
        refersTo "workspace_tenant_bindings_workspace_id_fkey" .workspaceId containers .id,
        refersTo "workspace_tenant_bindings_tenant_id_fkey" .tenantId tenants .id,
        refersTo "workspace_tenant_bindings_owner_id_fkey" .ownerId users .id])
      (fun r s => r .workspaceId = s .workspaceId) (personalBindingRow container)) t

/-! ## Versions, rollouts, leases and drains -/

def appVersionsStatusCheck : Check AppVersionColumn where
  name := "app_versions_status_check"
  condition r := (r .status).isIn ["legacy", "uploaded", "image_ready", "active", "archived"]

def appVersionsSourceKindCheck : Check AppVersionColumn where
  name := "app_versions_source_kind_check"
  condition r := (r .sourceKind).isIn ["packages", "image"]

/-- The table is created without the column of the kind of source, which is added to it. -/
def appVersionsTable : Table AppVersionColumn where
  created := true
  columns c := c ≠ .sourceKind
  required := [.id, .appId, .version, .buildId, .packages, .status, .createdAt, .revision]
  checks := [appVersionsStatusCheck]
  indexes := []
  rows := []

/-- `add column if not exists source_kind text not null default 'packages' check (…)` -/
def addSourceKind (t : Table AppVersionColumn) : Except Refusal (Table AppVersionColumn) :=
  if t.columns .sourceKind then .ok t
  else do
    let t ← (t.addColumn .sourceKind (.text "packages")).setNotNull .sourceKind
    t.addCheck appVersionsSourceKindCheck

def initializeAppVersions (t : Table AppVersionColumn) : Except Refusal (Table AppVersionColumn) := do
  let t ← addSourceKind (t.createIfNotExists appVersionsTable)
  -- two values for the index on two columns
  let t ← t.createUniqueIndex "app_versions_revision_idx" fun r =>
    match r .appId, r .revision with
    | .text appId, .int revision => some (.text (appId ++ "\x00" ++ toString revision))
    | _, _ => none
  t.createUniqueIndex "app_versions_active_idx" fun r =>
    if Holds ((r .status).is "active") then some (r .appId) else none

def upgradeRolloutsTaskKindCheck : Check UpgradeRolloutColumn where
  name := "upgrade_rollouts_task_kind_check"
  condition r :=
    (r .taskKind).isIn ["image_upgrade", "rebuild_same_image", "apply_resource_policy", "instance_recovery"]

def upgradeRolloutsStatusCheck : Check UpgradeRolloutColumn where
  name := "upgrade_rollouts_status_check"
  condition r := (r .status).isIn ["running", "succeeded", "partial_failed", "cancelled", "needs_attention"]

def upgradeRolloutsTable : Table UpgradeRolloutColumn where
  created := true
  columns _ := true
  required := [.id, .revision, .actorUserId, .status, .taskKind, .useLatestVersion, .requested, .completed,
    .succeeded, .failed, .superseded, .waiting, .upgrading, .needsAttention, .requestFingerprint, .createdAt,
    .updatedAt]
  checks := [upgradeRolloutsStatusCheck, upgradeRolloutsTaskKindCheck]
  indexes := []
  rows := []

def initializeUpgradeRollouts (t : Table UpgradeRolloutColumn) : Except Refusal (Table UpgradeRolloutColumn) := do
  let t := t.createIfNotExists upgradeRolloutsTable
  let t := (((t.addColumn .upgrading (.int 0)).addColumn .needsAttention (.int 0)).addColumn .superseded
    (.int 0)).addColumn .taskKind (.text "image_upgrade")
  let t ← t.updateWhere refersToNothing (fun r => (r .taskKind).isNull) fun r => fun
    | .taskKind => .text "image_upgrade"
    | c => r c
  let t ← t.setNotNull .taskKind
  (t.dropCheck "upgrade_rollouts_task_kind_check").addCheck upgradeRolloutsTaskKindCheck

def upgradeRolloutItemsStatusCheck : Check UpgradeRolloutItemColumn where
  name := "upgrade_rollout_items_status_check_v3"
  condition r := (r .status).isIn [
    "queued", "assessing", "waiting_for_idle", "draining", "rebuilding", "verifying", "awaiting_first_start",
    "succeeded", "superseded", "failed", "cancelled", "needs_attention"]

def upgradeRolloutItemsTable : Table UpgradeRolloutItemColumn where
  created := true
  columns _ := true
  required := [.rolloutId, .instanceId, .position, .revision, .userId, .appId, .sourceStatus, .desiredState,
    .targetImageReference, .launchProfile, .recovery, .status, .forceRequested, .attemptCount, .createdAt, .updatedAt]
  checks := [
    { name := "upgrade_rollout_items_source_status_check"
      condition := fun r => (r .sourceStatus).isIn ["creating", "running", "stopped", "failed"] },
    { name := "upgrade_rollout_items_desired_state_check"
      condition := fun r => (r .desiredState).isIn ["running", "stopped"] },
    upgradeRolloutItemsStatusCheck]
  indexes := []
  rows := []

def initializeUpgradeRolloutItems (t : Table UpgradeRolloutItemColumn) :
    Except Refusal (Table UpgradeRolloutItemColumn) :=
  let t := t.createIfNotExists upgradeRolloutItemsTable
  let t := (((t.addColumn .attemptId .null).addColumn .sourceImageArtifactId .null).addColumn .recovery
    (.text "false")).addColumn .diagnostics .null
  let t := ((t.dropCheck "upgrade_rollout_items_status_check").dropCheck
    "upgrade_rollout_items_status_check_v2").dropCheck "upgrade_rollout_items_status_check_v3"
  t.addMissingCheck upgradeRolloutItemsStatusCheck

def instanceActivityLeasesTable : Table InstanceActivityLeaseColumn where
  created := true
  columns _ := true
  required := [.id, .instanceId, .kind, .openedAt, .heartbeatAt, .lastActivityAt]
  checks := [{
    name := "instance_activity_leases_kind_check"
    condition := fun r => (r .kind).isIn ["http", "websocket"] }]
  indexes := []
  rows := []

def instanceUpgradeDrainsTable : Table InstanceUpgradeDrainColumn where
  created := true
  columns _ := true
  required := [.instanceId, .rolloutId, .attemptId, .expiresAt]
  checks := []
  indexes := []
  rows := []

def initializeInstanceUpgradeDrains (t : Table InstanceUpgradeDrainColumn) :
    Except Refusal (Table InstanceUpgradeDrainColumn) := do
  let t := (t.createIfNotExists instanceUpgradeDrainsTable).addColumn .attemptId .null
  let t ← t.updateWhere refersToNothing (fun r => (r .attemptId).isNull) fun r => fun
    | .attemptId => r .rolloutId
    | c => r c
  t.setNotNull .attemptId

def imageArtifactsTable : Table ImageArtifactColumn where
  created := true
  columns _ := true
  required := [.id, .buildId, .imageReference, .imageId, .runtimeContract, .createdAt]
  checks := []
  indexes := []
  rows := []

/-! ## The script -/

/-- In the order of the script; it runs as one transaction. -/
def initializeCoreSchema (db : Database) : Except Refusal Database := do
  let users ← initializeUsers db.users
  let containers ← initializeContainers db.containers
  let tenants ← insertPersonalTenants users (db.tenants.createIfNotExists tenantsTable)
  let tenantMemberships ← insertPersonalMemberships users tenants
    (db.tenantMemberships.createIfNotExists tenantMembershipsTable)
  let workspaceTenantBindings ← insertPersonalBindings users containers tenants
    (db.workspaceTenantBindings.createIfNotExists workspaceTenantBindingsTable)
  let appVersions ← initializeAppVersions db.appVersions
  let upgradeRollouts ← initializeUpgradeRollouts db.upgradeRollouts
  let upgradeRolloutItems ← initializeUpgradeRolloutItems db.upgradeRolloutItems
  let instanceUpgradeDrains ← initializeInstanceUpgradeDrains db.instanceUpgradeDrains
  return {
    users := users
    containers := containers
    tenants := tenants
    tenantMemberships := tenantMemberships
    workspaceTenantBindings := workspaceTenantBindings
    appVersions := appVersions
    upgradeRollouts := upgradeRollouts
    upgradeRolloutItems := upgradeRolloutItems
    instanceActivityLeases := db.instanceActivityLeases.createIfNotExists instanceActivityLeasesTable
    instanceUpgradeDrains := instanceUpgradeDrains
    imageArtifacts := db.imageArtifacts.createIfNotExists imageArtifactsTable }

end OpenApp
