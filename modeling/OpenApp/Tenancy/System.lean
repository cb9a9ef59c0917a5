import OpenApp.Async.Interleave
import OpenApp.Tenancy.Membership
import OpenApp.Word

/-!
# Tenants over the store in memory

Any number of threads call the two services while the rest of the Portal creates users, saves Workspaces and
deletes them. Every operation of the store runs without being interrupted, and any of them may fail.
-/

namespace OpenApp

open Script

theorem Script.Map.getEntry_without {α : Type} (k k' : String) (l : List (String × α)) :
    Map.getEntry k' (l.filter fun entry => entry.1 ≠ k) = if k' = k then none else Map.getEntry k' l := by
  induction l with
  | nil => simp [Map.getEntry]
  | cons entry l ih =>
    by_cases hk : entry.1 = k
    · rw [List.filter_cons_of_neg (by simpa using hk), ih]
      by_cases hk' : k' = k
      · simp [hk']
      · simp [Map.getEntry, hk, hk']
    · rw [List.filter_cons_of_pos (by simpa using hk)]
      simp only [Map.getEntry, ih]
      by_cases hk' : k' = entry.1
      · simp [hk', hk]
      · simp [hk']

namespace MemoryPersistence

def without (s : MemoryPersistence) (id : String) : Map WorkspaceExecutionProjection :=
  ⟨s.workspaceExecutions.entries.filter fun entry => entry.1 ≠ id⟩

theorem get_without (s : MemoryPersistence) (id id' : String) :
    (s.without id).get id' = if id' = id then none else s.get id' :=
  Map.getEntry_without id id' _

/-- What `deleteContainer` deletes of a Workspace itself. -/
def deleteContainer (s : MemoryPersistence) (id : String) : MemoryPersistence where
  workspaceExecutions := s.without id
  keyed id' p h := by
    rw [get_without] at h
    split at h
    · cases h
    · exact s.keyed id' p h
  projectable id' p h := by
    rw [get_without] at h
    split at h
    · cases h
    · exact s.projectable id' p h

theorem get_deleteContainer (s : MemoryPersistence) (id id' : String) :
    (s.deleteContainer id).get id' = if id' = id then none else s.get id' :=
  get_without s id id'

end MemoryPersistence

namespace Tenancy

open Async Identity Keyed

structure TenancyWorld where
  accounts : MemoryStore
  workspaces : MemoryPersistence
  workspaceTenantBindings : Table WorkspaceTenantBinding.workspaceId

inductive TenancyChoice
  | go (now : Timestamp)
  /-- the random id of a new user and the time -/
  | user (id : String) (now : Timestamp)
  | fails (message : String)

/-- What `randomUUID` prints is a word of 36 characters without capitals. -/
def isUuid (id : String) : Bool :=
  isLowerWord 35 id && id.toList.length = 36

instance (s : MemoryStore) (id : String) : Decidable (s.Unused id) :=
  decidable_of_iff ((∀ user ∈ s.users.rows, user.id ≠ id) ∧
      (∀ credential ∈ s.localPasswordHashes.rows, credential.userId ≠ id) ∧
      (∀ identity ∈ s.identities.rows, identity.userId ≠ id) ∧ ∀ session ∈ s.sessions.rows, session.userId ≠ id)
    ⟨fun h => ⟨h.1, h.2.1, h.2.2.1, h.2.2.2⟩, fun h => ⟨h.users, h.localPasswordHashes, h.identities, h.sessions⟩⟩

namespace TenancyWorld

variable (w : TenancyWorld)

def listTenantMemberships (userId : String) : List (Tenant × TenantMembership) :=
  (w.accounts.tenantMemberships.rows.filter fun membership => membership.userId = userId).filterMap fun membership =>
    (w.accounts.tenants.get membership.tenantId).map fun tenant => (tenant, membership)

/-- The binding after this, and the store with it. -/
def putBinding (binding : WorkspaceTenantBinding) : Option WorkspaceTenantBinding × TenancyWorld :=
  (some binding, { w with workspaceTenantBindings := w.workspaceTenantBindings.put binding })

def bindWorkspaceToTenant (workspaceId tenantId ownerId : String) (now : Timestamp) :
    Option WorkspaceTenantBinding × TenancyWorld :=
  match w.workspaces.get workspaceId, w.accounts.tenants.get tenantId, w.accounts.tenantMemberships.get (tenantId, ownerId) with
  | some container, some _, some membership =>
    if isTenantOwnerRole membership.role = false ∨ container.workspace.ownerId ≠ ownerId then (none, w)
    else
      match w.workspaceTenantBindings.get workspaceId with
      | some existing =>
        if existing.tenantId ≠ tenantId ∨ existing.ownerId ≠ ownerId then (none, w)
        else w.putBinding { existing with updatedAt := now }
      | none => w.putBinding ⟨workspaceId, tenantId, ownerId, now, now⟩
  | _, _, _ => (none, w)

def deleteContainer (id : String) : TenancyWorld :=
  { w with
    workspaces := w.workspaces.deleteContainer id
    workspaceTenantBindings := w.workspaceTenantBindings.delete id }

/-- A call whose store part returns or throws, for one who awaits it. -/
def awaited {α : Type} (outcome : Outcome α) : Except TenancyFailure α × TenancyWorld :=
  (outcome.1.mapError .identity, { w with accounts := outcome.2 })

def perform : (o : TenancyOp) → TenancyChoice → Option (Except TenancyFailure o.Answer × TenancyWorld)
  | _, .fails message => some (.error (.unavailable message), w)
  | .ensurePersonalTenant userId, .go now => some (w.awaited (w.accounts.ensurePersonalTenant userId now))
  | .listTenantMemberships userId, .go _ => some (.ok (w.listTenantMemberships userId), w)
  | .getWorkspaceTenantBinding workspaceId, .go _ => some (.ok (w.workspaceTenantBindings.get workspaceId), w)
  | .bindWorkspaceToTenant workspaceId tenantId ownerId, .go now =>
    let (bound, w') := w.bindWorkspaceToTenant workspaceId tenantId ownerId now
    some (.ok bound, w')
  | .getContainer id, .go _ => some (.ok (w.workspaces.getContainer id), w)
  | .saveContainer container, .go _ =>
    match w.workspaces.saveContainer container with
    | .ok workspaces => some (.ok (), { w with workspaces := workspaces })
    | .error e => some (.error (.workspace e), w)
  | .compareAndSaveWorkspaceExecution projection expectedRevision, .go _ =>
    match w.workspaces.compareAndSave projection expectedRevision with
    | .ok (saved, workspaces) => some (.ok saved, { w with workspaces := workspaces })
    | .error e => some (.error (.workspace e), w)
  | .deleteContainer id, .go _ => some (.ok (), w.deleteContainer id)
  | .govern call, .user id now =>
    if isUuid id = true ∧ w.accounts.Unused id then some (w.awaited (call.perform w.accounts id now)) else none
  | _, _ => none

end TenancyWorld

/-! ## Threads -/

inductive TenancyCall
  | ensureWorkspaceBinding (workspaceId ownerId : String)
  | requireWorkspaceAccess (workspaceId userId : String)
  | requireExisting (id : String)
  | requireOwned (id userId : String)
  | requireOwnedContainer (id : String) (user : User) (adminRoute : Bool)
  | store (o : TenancyOp)

inductive Granted
  | binding (binding : WorkspaceTenantBinding)
  | container (container : Container)
  | nothing

def TenancyCall.run : TenancyCall → Tenancy Granted
  | .ensureWorkspaceBinding workspaceId ownerId => .binding <$> Tenancy.ensureWorkspaceBinding workspaceId ownerId
  | .requireWorkspaceAccess workspaceId userId => .binding <$> Tenancy.requireWorkspaceAccess workspaceId userId
  | .requireExisting id => .container <$> Tenancy.requireExisting id
  | .requireOwned id userId => .container <$> Tenancy.requireOwned id userId
  | .requireOwnedContainer id user adminRoute => .container <$> Tenancy.requireOwnedContainer id user adminRoute
  | .store o => (fun _ => .nothing) <$> Prog.await o

/-- Each thread makes one call. -/
def tenancySystem : System TenancyOp TenancyOp.Answer TenancyFailure TenancyWorld TenancyChoice TenancyCall Granted where
  perform := TenancyWorld.perform
  body call := Sum.inr <$> call.run

end Tenancy
end OpenApp
