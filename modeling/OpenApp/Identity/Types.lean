import OpenApp.Script

/-!
# Users and how they log in

A user has a role. A user is found by the identities that providers know it by, and may have a password of
its own; a session is a token that stands for a user.
-/

namespace OpenApp.Identity

open Script

abbrev Timestamp := Int

inductive UserRole
  | user | admin | superAdmin
  deriving DecidableEq

structure User where
  id : String
  email : String
  role : UserRole
  createdAt : Timestamp
  appInitializedAt : Option Timestamp
  deriving DecidableEq

structure Session where
  tokenHash : String
  userId : String
  expiresAt : Timestamp
  authMethod : String
  deriving DecidableEq

structure LocalCredential where
  userId : String
  passwordHash : String
  deriving DecidableEq

structure Tenant where
  id : String
  kind : String
  name : String
  createdAt : Timestamp
  updatedAt : Timestamp
  deriving DecidableEq

structure TenantMembership where
  tenantId : String
  userId : String
  role : String
  createdAt : Timestamp
  updatedAt : Timestamp
  deriving DecidableEq

structure AccountAuthState where
  hasLocalCredential : Bool
  externalProviders : List String
  deriving DecidableEq

structure AuthenticatedUser where
  user : User
  authMethod : String
  passwordSetupRequired : Bool
  linkedProviders : List String
  deriving DecidableEq

structure ManagedLocalUserCreateInput where
  actorUserId : String
  email : String
  passwordHash : String
  role : UserRole

structure UserRoleChangeInput where
  actorUserId : String
  targetUserId : String
  expectedRole : UserRole
  role : UserRole
  passwordHash : Option String

/-- The message of an error, or the code of a `UserRoleUpdateError` or of a `TenantMembershipError`. -/
inductive IdentityFailure
  | error (message : String)
  | userRoleUpdate (code : String)
  | tenantMembership (code : String)
  deriving DecidableEq

def isManagementRole (role : UserRole) : Bool :=
  role = .admin ∨ role = .superAdmin

def assertCanCreateManagedUser (actorRole : Option UserRole) (requestedRole : UserRole) : Except IdentityFailure Unit :=
  if actorRole.any isManagementRole = false then .error (.userRoleUpdate "target_role_not_manageable")
  else if requestedRole ≠ .user ∧ actorRole ≠ some .superAdmin then .error (.userRoleUpdate "super_admin_required")
  else .ok ()

def assertCanGovernUserRoles (actorRole : Option UserRole) : Except IdentityFailure Unit :=
  if actorRole ≠ some .superAdmin then .error (.userRoleUpdate "super_admin_required") else .ok ()

/-- How an email is stored and looked up. -/
def normalizeEmail (email : String) : String :=
  toLowerCase (trim email)

/-- What a provider knows the user by: its own id, where it gives one. -/
def identitySubject (preferredId : Option String) (normalizedEmail : String) : String :=
  ((preferredId.map trim).filter truthy).getD normalizedEmail

def personalTenantId (userId : String) : Except IdentityFailure String :=
  let normalized := trim userId
  if truthy normalized then .ok ("personal:" ++ normalized) else .error (.tenantMembership "tenant_user_required")

end OpenApp.Identity
