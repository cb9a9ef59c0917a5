import OpenApp.Async.Prog
import OpenApp.Identity.Governance
import OpenApp.Workspace.Memory

/-!
# Tenants and their Workspaces

Every user has a personal tenant, and a Workspace is bound to the personal tenant of its owner. A Workspace
that was there before the tenants is bound when somebody asks for it first.
-/

namespace OpenApp.Tenancy

open Async Async.Prog Identity

structure WorkspaceTenantBinding where
  workspaceId : String
  tenantId : String
  ownerId : String
  createdAt : Timestamp
  updatedAt : Timestamp
  deriving DecidableEq

inductive TenancyFailure
  /-- a `TenantMembershipError` is one of these -/
  | identity (failure : IdentityFailure)
  | workspace (failure : Failure)
  /-- `HttpError` -/
  | http (status : Nat) (message : String)
  /-- the database does not answer -/
  | unavailable (message : String)
  deriving DecidableEq

/-- `TenantMembershipError` -/
def tenantMembershipError (code : String) : TenancyFailure :=
  .identity (.tenantMembership code)

def containerNotFound : TenancyFailure :=
  .http 404 "container_not_found"

/-- `error instanceof TenantMembershipError` -/
def TenancyFailure.isTenantMembershipError : TenancyFailure → Bool
  | .identity (.tenantMembership _) => true
  | _ => false

/-- What the services ask of the store, and what the rest of the Portal does to it. -/
inductive TenancyOp
  | ensurePersonalTenant (userId : String)
  | listTenantMemberships (userId : String)
  | getWorkspaceTenantBinding (workspaceId : String)
  | bindWorkspaceToTenant (workspaceId tenantId ownerId : String)
  | getContainer (id : String)
  | saveContainer (container : Container)
  | compareAndSaveWorkspaceExecution (projection : WorkspaceExecutionProjection) (expectedRevision : Nat)
  | deleteContainer (id : String)
  | govern (call : GovernanceCall)

abbrev TenancyOp.Answer : TenancyOp → Type
  | .ensurePersonalTenant _ => Tenant × TenantMembership
  | .listTenantMemberships _ => List (Tenant × TenantMembership)
  | .getWorkspaceTenantBinding _ => Option WorkspaceTenantBinding
  | .bindWorkspaceToTenant _ _ _ => Option WorkspaceTenantBinding
  | .getContainer _ => Option Container
  | .saveContainer _ => Unit
  | .compareAndSaveWorkspaceExecution _ _ => Option WorkspaceExecutionProjection
  | .deleteContainer _ => Unit
  | .govern _ => Identity.Returned

abbrev Tenancy (α : Type) := Prog TenancyOp TenancyOp.Answer TenancyFailure α

abbrev TenancyTrace := Trace TenancyOp TenancyOp.Answer TenancyFailure

abbrev consult (o : TenancyOp) : Tenancy o.Answer := await o

/-! ## `TenantMembershipService` -/

/-- `isTenantOwnerRole` -/
def isTenantOwnerRole (role : String) : Bool :=
  role = "owner" ∨ role = "admin"

/-- The binding there is, if it is the asked one. -/
def requireSameBinding (tenant : Tenant) (ownerId : String) (existing : WorkspaceTenantBinding) :
    Tenancy WorkspaceTenantBinding := do
  throwIf (existing.tenantId ≠ tenant.id ∨ existing.ownerId ≠ ownerId)
    (tenantMembershipError "tenant_workspace_binding_conflict")
  pure existing

def bindNew (tenant : Tenant) (workspaceId ownerId : String) : Tenancy WorkspaceTenantBinding := do
  match ← consult (.bindWorkspaceToTenant workspaceId tenant.id ownerId) with
  | some bound => pure bound
  | none => throw (tenantMembershipError "tenant_workspace_binding_conflict")

def ensureWorkspaceBinding (workspaceId ownerId : String) : Tenancy WorkspaceTenantBinding := do
  let (tenant, membership) ← consult (.ensurePersonalTenant ownerId)
  throwIf (isTenantOwnerRole membership.role = false) (tenantMembershipError "tenant_membership_required")
  match ← consult (.getWorkspaceTenantBinding workspaceId) with
  | some existing => requireSameBinding tenant ownerId existing
  | none => bindNew tenant workspaceId ownerId

def requireWorkspaceAccess (workspaceId userId : String) : Tenancy WorkspaceTenantBinding := do
  match ← consult (.getWorkspaceTenantBinding workspaceId) with
  | none => ensureWorkspaceBinding workspaceId userId
  | some binding =>
    let memberships ← consult (.listTenantMemberships userId)
    throwIf ((memberships.any fun entry => entry.1.id = binding.tenantId) = false)
      (tenantMembershipError "tenant_membership_required")
    pure binding

/-! ## `WorkspaceAuthorizationService` -/

def requireExisting (id : String) : Tenancy Container := do
  match ← consult (.getContainer id) with
  | some record => pure record
  | none => throw containerNotFound

/-- A tenant that refuses does not say that the Workspace of somebody else is there. -/
def hidden (error : TenancyFailure) : TenancyFailure :=
  if error.isTenantMembershipError then containerNotFound else error

def requireOwned (id userId : String) : Tenancy Container := do
  let record ← requireExisting id
  throwIf (record.userId ≠ userId) containerNotFound
  let _ ← tryCatch (requireWorkspaceAccess id userId) fun error => throw (hidden error)
  pure record

/-- `requireOwnedContainer` of the Portal: the management asks for any Workspace, on its own routes. -/
def requireOwnedContainer (id : String) (user : User) (adminRoute : Bool) : Tenancy Container :=
  if adminRoute && isManagementRole user.role then requireExisting id else requireOwned id user.id

end OpenApp.Tenancy
