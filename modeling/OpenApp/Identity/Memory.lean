import Mathlib.Data.List.Sort
import Mathlib.Data.String.Basic
import OpenApp.Identity.Types
import OpenApp.Keyed

/-!
# The users in memory

Every operation of the store runs without being interrupted. Ids and times come from outside: the id of a
new user is a random one.
-/

namespace OpenApp.Identity

open Script Keyed

/-- An entry of `#identities`: the provider and the subject with a colon between them, and the user. -/
structure IdentityEntry where
  key : String
  userId : String
  deriving DecidableEq

def identityKey (provider subject : String) : String :=
  provider ++ ":" ++ trim subject

structure AuditEvent where
  actorUserId : Option String
  action : String
  resourceType : String
  resourceId : Option String
  metadata : List (String × String)
  deriving DecidableEq

structure MemoryStore where
  defaultAuthProvider : String
  users : Table User.id
  sessions : Table Session.tokenHash
  identities : Table IdentityEntry.key
  localPasswordHashes : Table LocalCredential.userId
  tenants : Table Tenant.id
  tenantMemberships : Table fun membership : TenantMembership => (membership.tenantId, membership.userId)
  auditEvents : List AuditEvent

/-- What an operation returns or throws, and the store it leaves. -/
abbrev Outcome (α : Type) := Except IdentityFailure α × MemoryStore

def Outcome.map {α β : Type} (f : α → β) (outcome : Outcome α) : Outcome β :=
  (outcome.1.map f, outcome.2)

def UserRole.text : UserRole → String
  | .user => "user"
  | .admin => "admin"
  | .superAdmin => "super_admin"

namespace MemoryStore

variable (s : MemoryStore)

/-! ## Reading -/

def userWithEmail (normalizedEmail : String) : Option User :=
  s.users.rows.find? fun user => user.email = normalizedEmail

def findUserByEmail (email : String) : Option User :=
  s.userWithEmail (normalizeEmail email)

def identityUserId (provider subject : String) : Option String :=
  (s.identities.get (identityKey provider subject)).map IdentityEntry.userId

def findUserByIdentity (provider subject : String) : Option User :=
  (s.identityUserId provider subject).bind s.users.get

def getLocalPasswordHash (userId : String) : Option String :=
  (s.localPasswordHashes.get userId).map LocalCredential.passwordHash

/-- The text before the first colon of a key. -/
def keyProvider (key : String) : String :=
  String.ofList (key.toList.takeWhile (· ≠ ':'))

/-- The providers other than the own one, each once and sorted. -/
def externalProviders (userId : String) : List String :=
  ((((s.identities.rows.filter fun identity => identity.userId = userId).map fun identity => keyProvider identity.key).filter
    fun provider => truthy provider ∧ provider ≠ "local").dedup).insertionSort (· ≤ ·)

def getAccountAuthState (userId : String) : Except IdentityFailure AccountAuthState :=
  if (s.users.get userId).isNone then .error (.error "user_not_found")
  else .ok
    { hasLocalCredential := (s.localPasswordHashes.get userId).isSome
      externalProviders := s.externalProviders userId }

def listUsers : List User :=
  s.users.rows.insertionSort fun left right => right.createdAt ≤ left.createdAt

/-! ## Users -/

def recordAudit (event : AuditEvent) : MemoryStore :=
  { s with auditEvents := (event :: s.auditEvents).take 500 }

def findOrCreateUser (email : String) (preferredId provider : Option String) (id : String) (now : Timestamp) :
    Outcome User :=
  let normalizedEmail := normalizeEmail email
  let identity := identityKey (provider.getD s.defaultAuthProvider) (identitySubject preferredId normalizedEmail)
  match s.identities.get identity with
  | some entry =>
    match s.users.get entry.userId with
    | none => (.error (.error "identity_user_missing"), s)
    | some identityUser =>
      let identityUser := { identityUser with email := normalizedEmail }
      (.ok identityUser, { s with users := s.users.put identityUser })
  | none =>
    match s.userWithEmail normalizedEmail with
    | some existing => (.ok existing, { s with identities := s.identities.put ⟨identity, existing.id⟩ })
    | none =>
      let user : User := { id := id, email := normalizedEmail, role := .user, createdAt := now, appInitializedAt := none }
      (.ok user, { s with users := s.users.put user, identities := s.identities.put ⟨identity, id⟩ })

/-- A new user with a password. -/
def addLocalUser (user : User) (passwordHash : String) : MemoryStore :=
  { s with
    users := s.users.put user
    identities := s.identities.put ⟨identityKey "local" user.email, user.id⟩
    localPasswordHashes := s.localPasswordHashes.put ⟨user.id, passwordHash⟩ }

def createLocalUser (email passwordHash : String) (id : String) (now : Timestamp) : Outcome (Option User) :=
  let normalizedEmail := normalizeEmail email
  if (s.userWithEmail normalizedEmail).isSome then (.ok none, s)
  else
    let user : User := { id := id, email := normalizedEmail, role := .user, createdAt := now, appInitializedAt := none }
    (.ok (some user), s.addLocalUser user passwordHash)

def createManagedLocalUser (input : ManagedLocalUserCreateInput) (id : String) (now : Timestamp) : Outcome (Option User) :=
  let actor := s.users.get input.actorUserId
  match assertCanCreateManagedUser (actor.map User.role) input.role with
  | .error e => (.error e, s)
  | .ok () =>
    let normalizedEmail := normalizeEmail input.email
    if (s.userWithEmail normalizedEmail).isSome then (.ok none, s)
    else
      let user : User :=
        { id := id, email := normalizedEmail, role := input.role, createdAt := now, appInitializedAt := none }
      (.ok (some user), (s.addLocalUser user input.passwordHash).recordAudit
        { actorUserId := actor.map User.id
          action := "user.create"
          resourceType := "user"
          resourceId := some id
          metadata := [("actorRole", ((actor.map User.role).map UserRole.text).getD ""), ("email", user.email),
            ("role", user.role.text)] })

/-! ## Passwords -/

/-- The user gets the password and loses its sessions. -/
def putLocalPasswordHash (user : User) (passwordHash : String) : MemoryStore :=
  { s with
    localPasswordHashes := s.localPasswordHashes.put ⟨user.id, passwordHash⟩
    identities := s.identities.put ⟨identityKey "local" user.email, user.id⟩
    sessions := s.sessions.keep fun session => session.userId ≠ user.id }

/-- `#writeLocalPasswordHash` -/
def writeLocalPasswordHash (userId passwordHash : String) (requireExisting : Bool) : Outcome Bool :=
  match s.users.get userId with
  | none => (.error (.error "user_not_found"), s)
  | some user =>
    if (s.localPasswordHashes.get userId).isSome ≠ requireExisting then (.ok false, s)
    else (.ok true, s.putLocalPasswordHash user passwordHash)

def createLocalPasswordHash (userId passwordHash : String) : Outcome Bool :=
  s.writeLocalPasswordHash userId passwordHash false

def replaceLocalPasswordHash (userId expectedHash passwordHash : String) : Outcome Bool :=
  if s.getLocalPasswordHash userId ≠ some expectedHash then (.ok false, s)
  else s.writeLocalPasswordHash userId passwordHash true

/-! ## Roles -/

def superAdmins : List User :=
  s.users.rows.filter fun user => user.role = .superAdmin

/-- The password a user needs for a role, where it has none yet. -/
def requireLocalCredential (target : User) (passwordHash : Option String) : Outcome Unit :=
  let passwordHash := passwordHash.filter truthy
  let hasLocalCredential := (s.localPasswordHashes.get target.id).isSome
  match passwordHash with
  | some passwordHash =>
    if hasLocalCredential then (.error (.userRoleUpdate "credential_update_conflict"), s)
    else
      match s.writeLocalPasswordHash target.id passwordHash false with
      | (.ok true, s) => (.ok (), s)
      | (.ok false, s) => (.error (.userRoleUpdate "credential_update_conflict"), s)
      | (.error e, s) => (.error e, s)
  | none => if hasLocalCredential then (.ok (), s) else (.error (.userRoleUpdate "local_credentials_required"), s)

/-- The role is written and recorded. -/
def writeRole (actor target : User) (role : UserRole) : Outcome (Option User) :=
  let updated := { target with role := role }
  (.ok (some updated), { s with users := s.users.put updated }.recordAudit
    { actorUserId := some actor.id
      action := "user.role.change"
      resourceType := "user"
      resourceId := some target.id
      metadata := [("actorRole", actor.role.text), ("afterRole", role.text), ("beforeRole", target.role.text)] })

def changeUserRole (input : UserRoleChangeInput) : Outcome (Option User) :=
  match s.users.get input.actorUserId with
  | none => (.error (.userRoleUpdate "super_admin_required"), s)
  | some actor =>
    match assertCanGovernUserRoles (some actor.role) with
    | .error e => (.error e, s)
    | .ok () =>
      match s.users.get input.targetUserId with
      | none => (.ok none, s)
      | some target =>
        if actor.id = target.id then (.error (.userRoleUpdate "self_role_change_forbidden"), s)
        else if target.role ≠ input.expectedRole then (.error (.userRoleUpdate "role_change_conflict"), s)
        else if target.role = input.role then (.ok (some target), s)
        else if target.role = .superAdmin ∧ s.superAdmins.length ≤ 1 then
          (.error (.userRoleUpdate "last_super_admin_cannot_be_demoted"), s)
        else if input.role = .user then s.writeRole actor target input.role
        else
          match s.requireLocalCredential target input.passwordHash with
          | (.ok (), s) => s.writeRole actor target input.role
          | (.error e, s) => (.error e, s)

/-! ## Sessions and tenants -/

def saveSession (tokenHash userId : String) (expiresAt : Timestamp) (authMethod : String) : MemoryStore :=
  { s with sessions := s.sessions.put ⟨tokenHash, userId, expiresAt, authMethod⟩ }

def deleteSession (tokenHash : String) : MemoryStore :=
  { s with sessions := s.sessions.delete tokenHash }

/-- A session that has expired is deleted when it is asked for. -/
def sessionUser (tokenHash : String) (now : Timestamp) : Outcome (Option AuthenticatedUser) :=
  match (s.sessions.get tokenHash).filter fun session => now < session.expiresAt with
  | none => (.ok none, s.deleteSession tokenHash)
  | some session =>
    match s.users.get session.userId with
    | none => (.ok none, s)
    | some user =>
      match s.getAccountAuthState user.id with
      | .error e => (.error e, s)
      | .ok authState =>
        (.ok (some
          { user := user
            authMethod := session.authMethod
            passwordSetupRequired := !authState.hasLocalCredential
            linkedProviders := authState.externalProviders }), s)

def ensurePersonalTenant (userId : String) (now : Timestamp) : Outcome (Tenant × TenantMembership) :=
  match s.users.get userId with
  | none => (.error (.error "user_not_found"), s)
  | some user =>
    match personalTenantId user.id with
    | .error e => (.error e, s)
    | .ok id =>
      let tenant := (s.tenants.get id).getD
        { id := id, kind := "personal", name := user.email, createdAt := now, updatedAt := now }
      let membership := (s.tenantMemberships.get (id, user.id)).getD
        { tenantId := id, userId := user.id, role := "owner", createdAt := now, updatedAt := now }
      (.ok (tenant, membership), { s with
        tenants := s.tenants.put tenant
        tenantMemberships := s.tenantMemberships.put membership })

end MemoryStore

end OpenApp.Identity
