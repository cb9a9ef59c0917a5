import OpenApp.Tenancy.System

/-!
# What a step does to tenants and bindings

`perform_step` says once what each call can do to the owners of Workspaces, to memberships and to bindings.
A store in order stays in order, and what it has once said about a membership stays true.
-/

namespace OpenApp.Tenancy

open Async Script Identity Keyed

theorem projectContainer_names {c : Container} {p : WorkspaceExecutionProjection}
    (h : projectContainerToWorkspaceExecution c = .ok p) : p.workspace.id = c.id ∧ p.workspace.ownerId = c.userId := by
  unfold projectContainerToWorkspaceExecution at h
  cases hp : normalizeProviderId c.providerId with
  | error e =>
    rw [hp] at h
    cases h
  | ok providerId =>
    simp only [hp, bind, Except.bind, pure, Except.pure, Except.ok.injEq] at h
    subst h
    exact ⟨rfl, rfl⟩

namespace TenancyWorld

variable (w : TenancyWorld)

/-- Whose Workspace it is, in whatever state. -/
def ownerOf (workspaceId : String) : Option String :=
  (w.workspaces.get workspaceId).map fun p => p.workspace.ownerId

structure Member (tenantId userId : String) : Prop where
  tenant : (w.accounts.tenants.get tenantId).isSome = true
  membership : (w.accounts.tenantMemberships.get (tenantId, userId)).isSome = true

end TenancyWorld

/-- The Workspace that is saved as a record, and the owner the record names. -/
def TenancyOp.saves : TenancyOp → Option (String × String)
  | .saveContainer container => some (container.id, container.userId)
  | _ => none

/-- A saved record is of a new Workspace, or of the owner the Workspace has. -/
abbrev KeepsOwner (w : TenancyWorld) (o : TenancyOp) : Prop :=
  ∀ saved ∈ o.saves, ∀ owner ∈ w.ownerOf saved.1, owner = saved.2

/-! ## Steps -/

/-- What it takes to bind a Workspace, and what comes of it: a binding that is there already stays. -/
structure Binds (w : TenancyWorld) (workspaceId tenantId ownerId : String) (binding : WorkspaceTenantBinding) : Prop where
  owner : w.ownerOf workspaceId = some ownerId
  member : w.Member tenantId ownerId
  workspace : binding.workspaceId = workspaceId
  tenant : binding.tenantId = tenantId
  named : binding.ownerId = ownerId
  again : ∀ existing, w.workspaceTenantBindings.get workspaceId = some existing →
    binding = { existing with updatedAt := binding.updatedAt }

inductive TenancyStep (w : TenancyWorld) : TenancyOp → TenancyWorld → Prop
  | kept {o : TenancyOp} : TenancyStep w o w
  | ensured {userId : String} {tenant : Tenant} {membership : TenantMembership} (there : (w.accounts.users.get userId).isSome = true)
      (personal : personalTenantId userId = .ok tenant.id) (named : (membership.tenantId, membership.userId) = (tenant.id, userId))
      (owner : membership ∈ w.accounts.tenantMemberships.rows ∨ membership.role = "owner") :
      TenancyStep w (.ensurePersonalTenant userId)
        { w with accounts := { w.accounts with
            tenants := w.accounts.tenants.put tenant, tenantMemberships := w.accounts.tenantMemberships.put membership } }
  | governed {call : GovernanceCall} {accounts : MemoryStore} (tenants : accounts.tenants = w.accounts.tenants)
      (memberships : accounts.tenantMemberships = w.accounts.tenantMemberships)
      (users : ∀ user ∈ accounts.users.rows, (w.accounts.users.get user.id).isSome = true ∨ isUuid user.id = true) :
      TenancyStep w (.govern call) { w with accounts := accounts }
  | saved {container : Container} {projection : WorkspaceExecutionProjection} {workspaces : MemoryPersistence}
      (owner : projection.workspace.ownerId = container.userId)
      (get : ∀ id, workspaces.get id = if id = container.id then some projection else w.workspaces.get id) :
      TenancyStep w (.saveContainer container) { w with workspaces := workspaces }
  | advanced {projection : WorkspaceExecutionProjection} {expectedRevision : Nat} {workspaces : MemoryPersistence}
      (owners : ∀ id, (workspaces.get id).map (fun p => p.workspace.ownerId) = w.ownerOf id) :
      TenancyStep w (.compareAndSaveWorkspaceExecution projection expectedRevision) { w with workspaces := workspaces }
  | deleted {id : String} : TenancyStep w (.deleteContainer id) (w.deleteContainer id)
  | bound {workspaceId tenantId ownerId : String} {binding : WorkspaceTenantBinding}
      (binds : Binds w workspaceId tenantId ownerId binding) :
      TenancyStep w (.bindWorkspaceToTenant workspaceId tenantId ownerId) (w.putBinding binding).2

variable {w w' : TenancyWorld}

theorem ensurePersonalTenant_step {userId : String} {now : Timestamp} :
    TenancyStep w (.ensurePersonalTenant userId) (w.awaited (w.accounts.ensurePersonalTenant userId now)).2 := by
  unfold TenancyWorld.awaited MemoryStore.ensurePersonalTenant
  cases hget : w.accounts.users.get userId with
  | none => exact .kept
  | some user =>
    obtain rfl := Table.key_of_get hget
    dsimp only
    cases hid : personalTenantId user.id with
    | error e => exact .kept
    | ok id =>
      have htenant : ((w.accounts.tenants.get id).getD
          { id := id, kind := "personal", name := user.email, createdAt := now, updatedAt := now }).id = id := by
        cases htenant : w.accounts.tenants.get id with
        | none => rfl
        | some tenant => exact Table.key_of_get htenant
      refine .ensured (by rw [hget]; rfl) (by rw [htenant, hid]) ?_ ?_
      · rw [htenant]
        cases hmember : w.accounts.tenantMemberships.get (id, user.id) with
        | none => rfl
        | some membership => exact (Table.get_eq_some.1 hmember).2
      · cases hmember : w.accounts.tenantMemberships.get (id, user.id) with
        | none => exact .inr rfl
        | some membership => exact .inl (Table.get_eq_some.1 hmember).1

/-- Users come under their new id, others keep theirs; nobody else is in a tenant. -/
structure Governs (s : MemoryStore) (id : String) (s' : MemoryStore) : Prop where
  tenants : s'.tenants = s.tenants
  memberships : s'.tenantMemberships = s.tenantMemberships
  users : ∀ user ∈ s'.users.rows, (s.users.get user.id).isSome = true ∨ user.id = id

section Governs

variable {s s' : MemoryStore} {id : String} {now : Timestamp}

theorem governs_of_users (htenants : s'.tenants = s.tenants) (hmemberships : s'.tenantMemberships = s.tenantMemberships)
    (husers : s'.users = s.users) : Governs s id s' := by
  refine ⟨htenants, hmemberships, fun user hmem => .inl ?_⟩
  rw [husers] at hmem
  rw [Table.mem_iff.1 hmem]
  rfl

theorem Governs.refl (s : MemoryStore) (id : String) : Governs s id s :=
  governs_of_users rfl rfl rfl

theorem governs_put (user : User) (h : (s.users.get user.id).isSome = true ∨ user.id = id)
    (htenants : s'.tenants = s.tenants) (hmemberships : s'.tenantMemberships = s.tenantMemberships)
    (husers : s'.users = s.users.put user) : Governs s id s' := by
  refine ⟨htenants, hmemberships, fun other hmem => ?_⟩
  rw [husers] at hmem
  rcases Table.mem_put hmem with rfl | ⟨-, hmem⟩
  · exact h
  · rw [Table.mem_iff.1 hmem]
    exact .inl rfl

theorem findOrCreateUser_governs (email : String) (preferredId provider : Option String) :
    Governs s id (s.findOrCreateUser email preferredId provider id now).2 := by
  unfold MemoryStore.findOrCreateUser
  dsimp only
  cases s.identities.get _ with
  | some entry =>
    dsimp only
    cases hget : s.users.get entry.userId with
    | none => exact .refl s id
    | some user =>
      refine governs_put { user with email := normalizeEmail email } (.inl ?_) rfl rfl rfl
      have hkey : user.id = entry.userId := Table.key_of_get hget
      change (s.users.get user.id).isSome = true
      rw [hkey, hget]
      rfl
  | none =>
    dsimp only
    cases s.userWithEmail (normalizeEmail email) with
    | some existing => exact governs_of_users rfl rfl rfl
    | none => exact governs_put _ (.inr rfl) rfl rfl rfl

theorem createLocalUser_governs (email passwordHash : String) :
    Governs s id (s.createLocalUser email passwordHash id now).2 := by
  unfold MemoryStore.createLocalUser
  dsimp only
  split
  · exact .refl s id
  · exact governs_put _ (.inr rfl) rfl rfl rfl

theorem createManagedLocalUser_governs (input : ManagedLocalUserCreateInput) :
    Governs s id (s.createManagedLocalUser input id now).2 := by
  unfold MemoryStore.createManagedLocalUser
  dsimp only
  split
  · exact .refl s id
  · split
    · exact .refl s id
    · exact governs_put _ (.inr rfl) rfl rfl rfl

theorem writeLocalPasswordHash_governs (userId passwordHash : String) (requireExisting : Bool) :
    Governs s id (s.writeLocalPasswordHash userId passwordHash requireExisting).2 := by
  unfold MemoryStore.writeLocalPasswordHash
  split
  · exact .refl s id
  · split
    · exact .refl s id
    · exact governs_of_users rfl rfl rfl

theorem replaceLocalPasswordHash_governs (userId expectedHash passwordHash : String) :
    Governs s id (s.replaceLocalPasswordHash userId expectedHash passwordHash).2 := by
  unfold MemoryStore.replaceLocalPasswordHash
  split
  · exact .refl s id
  · exact writeLocalPasswordHash_governs _ _ _

theorem changeUserRole_governs (input : UserRoleChangeInput) : Governs s id (s.changeUserRole input).2 := by
  unfold MemoryStore.changeUserRole
  cases s.users.get input.actorUserId with
  | none => exact .refl s id
  | some actor =>
    dsimp only
    cases assertCanGovernUserRoles (some actor.role) with
    | error e => exact .refl s id
    | ok _ =>
      dsimp only
      cases htarget : s.users.get input.targetUserId with
      | none => exact .refl s id
      | some target =>
        have hthere : s.users.get target.id = some target := Table.key_of_get htarget ▸ htarget
        have hsome : (s.users.get target.id).isSome = true ∨ target.id = id := .inl (by rw [hthere]; rfl)
        dsimp only
        split
        · exact .refl s id
        · split
          · exact .refl s id
          · split
            · exact .refl s id
            · split
              · exact .refl s id
              · split
                · exact governs_put { target with role := input.role } hsome rfl rfl rfl
                · cases hrequire : s.requireLocalCredential target input.passwordHash with
                  | mk result after =>
                    cases result with
                    | error e =>
                      rw [requireLocalCredential_error hrequire]
                      exact .refl s id
                    | ok _ =>
                      -- the password that may be written first is of a user who is there
                      obtain ⟨rfl, -⟩ | ⟨passwordHash, rfl⟩ := requireLocalCredential_ok hthere hrequire
                      · exact governs_put { target with role := input.role } hsome rfl rfl rfl
                      · exact governs_put { target with role := input.role } hsome rfl rfl rfl

theorem perform_governs (s : MemoryStore) (id : String) (now : Timestamp) (call : GovernanceCall) : Governs s id (call.perform s id now).2 := by
  cases call with
  | createManagedLocalUser input => exact createManagedLocalUser_governs input
  | changeUserRole input => exact changeUserRole_governs input
  | createLocalUser email passwordHash => exact createLocalUser_governs email passwordHash
  | findOrCreateUser email preferredId provider => exact findOrCreateUser_governs email preferredId provider
  | createLocalPasswordHash userId passwordHash => exact writeLocalPasswordHash_governs userId passwordHash false
  | replaceLocalPasswordHash userId expectedHash passwordHash => exact replaceLocalPasswordHash_governs userId expectedHash passwordHash

end Governs

theorem ownerOf_saved {container : Container} {workspaces : MemoryPersistence}
    (h : w.workspaces.saveContainer container = .ok workspaces) :
    TenancyStep w (.saveContainer container) { w with workspaces := workspaces } := by
  obtain ⟨-, lastActivityAt, p, hp, hproject, rfl⟩ := MemoryPersistence.saveContainer_ok h
  obtain ⟨hid, howner⟩ := projectContainer_names hproject
  refine .saved howner fun id => ?_
  rw [MemoryPersistence.get_put, hid]

theorem ownerOf_advanced {projection : WorkspaceExecutionProjection} {expectedRevision : Nat}
    {saved : Option WorkspaceExecutionProjection} {workspaces : MemoryPersistence}
    (h : w.workspaces.compareAndSave projection expectedRevision = .ok (saved, workspaces)) :
    TenancyStep w (.compareAndSaveWorkspaceExecution projection expectedRevision) { w with workspaces := workspaces } := by
  refine .advanced fun id => ?_
  obtain ⟨-, rfl⟩ | ⟨q, current, rfl, hsaves⟩ := MemoryPersistence.compareAndSave_ok h
  · rfl
  · rw [hsaves.store]
    split
    · next hid =>
      subst hid
      rw [TenancyWorld.ownerOf, hsaves.found, hsaves.result]
      exact congrArg some hsaves.transition.identity.ownerId.symm
    · rfl

theorem bindWorkspaceToTenant_cases (w : TenancyWorld) (workspaceId tenantId ownerId : String) (now : Timestamp) :
    w.bindWorkspaceToTenant workspaceId tenantId ownerId now = (none, w) ∨
      ∃ binding, Binds w workspaceId tenantId ownerId binding ∧
        w.bindWorkspaceToTenant workspaceId tenantId ownerId now = w.putBinding binding := by
  unfold TenancyWorld.bindWorkspaceToTenant
  split
  · next container tenant membership hcontainer htenant hmembership =>
    split
    · exact .inl rfl
    · next hallowed =>
      rw [not_or, not_not] at hallowed
      have howner : w.ownerOf workspaceId = some ownerId := by
        rw [TenancyWorld.ownerOf, hcontainer]
        exact congrArg some hallowed.2
      have hmember : w.Member tenantId ownerId := ⟨by rw [htenant]; rfl, by rw [hmembership]; rfl⟩
      split
      · next existing hexisting =>
        split
        · exact .inl rfl
        · next hsame =>
          rw [not_or, not_not, not_not] at hsame
          refine .inr ⟨{ existing with updatedAt := now },
            ⟨howner, hmember, (Table.get_eq_some.1 hexisting).2, hsame.1, hsame.2, fun other hother => ?_⟩, rfl⟩
          cases hexisting.symm.trans hother
          rfl
      · next hnone =>
        refine .inr ⟨_, ⟨howner, hmember, rfl, rfl, rfl, fun existing hexisting => ?_⟩, rfl⟩
        cases hnone.symm.trans hexisting
  · exact .inl rfl

theorem bindWorkspaceToTenant_step {workspaceId tenantId ownerId : String} {now : Timestamp} :
    TenancyStep w (.bindWorkspaceToTenant workspaceId tenantId ownerId)
      (w.bindWorkspaceToTenant workspaceId tenantId ownerId now).2 := by
  obtain hnone | ⟨binding, hbinds, hsome⟩ := bindWorkspaceToTenant_cases w workspaceId tenantId ownerId now
  · rw [hnone]
    exact .kept
  · rw [hsome]
    exact .bound hbinds

theorem perform_step {o : TenancyOp} {x : TenancyChoice} {r : Except TenancyFailure o.Answer}
    (h : w.perform o x = some (r, w')) : TenancyStep w o w' := by
  unfold TenancyWorld.perform at h
  split at h
  case h_7 =>
    split at h <;> cases h
    · next hsave => exact ownerOf_saved hsave
    · exact .kept
  case h_8 =>
    split at h <;> cases h
    · next hsave => exact ownerOf_advanced hsave
    · exact .kept
  case h_10 call id now =>
    split at h <;> cases h
    next hnew =>
    have hgoverns := perform_governs w.accounts id now call
    refine .governed hgoverns.tenants hgoverns.memberships fun user hmem => ?_
    obtain hthere | rfl := hgoverns.users user hmem
    · exact .inl hthere
    · exact .inr hnew.1
  all_goals cases h
  all_goals first | exact .kept | exact .deleted | exact ensurePersonalTenant_step | exact bindWorkspaceToTenant_step

/-! ## A store in order -/

/-- A binding names the owner of its Workspace and the owner's personal tenant. -/
structure Fits (w : TenancyWorld) (binding : WorkspaceTenantBinding) : Prop where
  owner : w.ownerOf binding.workspaceId = some binding.ownerId
  tenant : personalTenantId binding.ownerId = .ok binding.tenantId
  member : w.Member binding.tenantId binding.ownerId

structure InOrder (w : TenancyWorld) : Prop where
  users : ∀ user ∈ w.accounts.users.rows, isUuid user.id = true
  memberships : ∀ membership ∈ w.accounts.tenantMemberships.rows,
    isUuid membership.userId = true ∧ personalTenantId membership.userId = .ok membership.tenantId ∧ membership.role = "owner"
  bindings : ∀ binding ∈ w.workspaceTenantBindings.rows, Fits w binding

theorem TenancyStep.member {o : TenancyOp} {tenantId userId : String} (h : TenancyStep w o w') (hm : w.Member tenantId userId) :
    w'.Member tenantId userId := by
  cases h with
  | ensured => exact ⟨Table.isSome_get_put hm.tenant, Table.isSome_get_put hm.membership⟩
  | governed tenants memberships => exact ⟨tenants ▸ hm.tenant, memberships ▸ hm.membership⟩
  | _ => exact ⟨hm.tenant, hm.membership⟩

theorem TenancyStep.ownerOf {o : TenancyOp} {id owner : String} (h : TenancyStep w o w') (hkeeps : KeepsOwner w o)
    (howner : w.ownerOf id = some owner) : w'.ownerOf id = some owner ∨ o = .deleteContainer id := by
  cases h with
  | @saved container projection workspaces named get =>
    left
    change (workspaces.get id).map _ = some owner
    rw [get]
    split
    · next hid =>
      subst hid
      exact congrArg some (named.trans (hkeeps _ rfl owner howner).symm)
    · exact howner
  | advanced owners => exact .inl ((owners id).trans howner)
  | @deleted id' =>
    by_cases hid : id = id'
    · exact .inr (hid ▸ rfl)
    · left
      change ((w.workspaces.deleteContainer id').get id).map _ = some owner
      rw [MemoryPersistence.get_deleteContainer, if_neg hid]
      exact howner
  | _ => exact .inl howner

theorem TenancyStep.fits {o : TenancyOp} {binding : WorkspaceTenantBinding} (h : TenancyStep w o w') (hkeeps : KeepsOwner w o)
    (hfits : Fits w binding) (hthere : o ≠ .deleteContainer binding.workspaceId) : Fits w' binding :=
  ⟨(h.ownerOf hkeeps hfits.owner).resolve_right hthere, hfits.tenant, h.member hfits.member⟩

theorem InOrder.personal {tenantId userId : String} (hw : InOrder w) (hm : w.Member tenantId userId) :
    personalTenantId userId = .ok tenantId := by
  obtain ⟨membership, hget⟩ := Option.isSome_iff_exists.1 hm.membership
  obtain ⟨hmem, hkey⟩ := Table.get_eq_some.1 hget
  obtain ⟨rfl, rfl⟩ := Prod.mk.inj hkey
  exact (hw.memberships membership hmem).2.1

theorem InOrder.step {o : TenancyOp} (hw : InOrder w) (h : TenancyStep w o w') (hkeeps : KeepsOwner w o) : InOrder w' := by
  have hfits : ∀ binding ∈ w.workspaceTenantBindings.rows, o ≠ .deleteContainer binding.workspaceId → Fits w' binding :=
    fun binding hmem hthere => h.fits hkeeps (hw.bindings binding hmem) hthere
  have hbindings : (∀ id, o ≠ .deleteContainer id) → w'.workspaceTenantBindings = w.workspaceTenantBindings →
      ∀ binding ∈ w'.workspaceTenantBindings.rows, Fits w' binding := by
    intro hother hsame binding hmem
    rw [hsame] at hmem
    exact hfits binding hmem (hother _)
  cases h with
  | kept => exact hw
  | @ensured userId tenant membership there personal named owner =>
    obtain ⟨htenant, huser⟩ := Prod.mk.inj named
    obtain ⟨user, hget⟩ := Option.isSome_iff_exists.1 there
    obtain ⟨hmem, hkey⟩ := Table.get_eq_some.1 hget
    refine ⟨hw.users, fun other hother => ?_, hbindings (fun id => by simp) rfl⟩
    rcases Table.mem_put hother with rfl | ⟨-, hother⟩
    · refine ⟨?_, ?_, owner.elim (fun hthere => (hw.memberships _ hthere).2.2) id⟩
      · rw [huser, ← hkey]
        exact hw.users user hmem
      · rw [huser, htenant]
        exact personal
    · exact hw.memberships other hother
  | governed tenants memberships users =>
    refine ⟨fun user hmem => ?_, fun membership hmem => ?_, hbindings (fun id => by simp) rfl⟩
    · rcases users user hmem with hthere | hnew
      · obtain ⟨old, hget⟩ := Option.isSome_iff_exists.1 hthere
        obtain ⟨hold, hkey⟩ := Table.get_eq_some.1 hget
        exact hkey ▸ hw.users old hold
      · exact hnew
    · exact hw.memberships membership (memberships ▸ hmem)
  | saved => exact ⟨hw.users, hw.memberships, hbindings (fun id => by simp) rfl⟩
  | advanced => exact ⟨hw.users, hw.memberships, hbindings (fun id => by simp) rfl⟩
  | @deleted id =>
    refine ⟨hw.users, hw.memberships, fun binding hmem => ?_⟩
    obtain ⟨hmem, hid⟩ := List.mem_filter.1 hmem
    exact hfits binding hmem fun heq => (of_decide_eq_true hid) (TenancyOp.deleteContainer.inj heq).symm
  | @bound workspaceId tenantId ownerId binding binds =>
    refine ⟨hw.users, hw.memberships, fun other hother => ?_⟩
    rcases Table.mem_put hother with rfl | ⟨-, hother⟩
    · obtain ⟨rfl, rfl, rfl⟩ := And.intro binds.workspace (And.intro binds.tenant binds.named)
      exact ⟨binds.owner, hw.personal binds.member, binds.member.tenant, binds.member.membership⟩
    · exact hfits other hother (by simp)

/-- In a store in order the owner's Workspace is bound when it is asked for. -/
theorem bindWorkspaceToTenant_of_owner (hw : InOrder w) {workspaceId tenantId ownerId : String} (now : Timestamp)
    (howner : w.ownerOf workspaceId = some ownerId) (hm : w.Member tenantId ownerId) :
    (w.bindWorkspaceToTenant workspaceId tenantId ownerId now).1.isSome = true := by
  obtain ⟨tenant, htenant⟩ := Option.isSome_iff_exists.1 hm.tenant
  obtain ⟨membership, hmembership⟩ := Option.isSome_iff_exists.1 hm.membership
  obtain ⟨p, hp, rfl⟩ := Option.map_eq_some_iff.1 howner
  have hrole : membership.role = "owner" := (hw.memberships membership (Table.get_eq_some.1 hmembership).1).2.2
  unfold TenancyWorld.bindWorkspaceToTenant
  simp only [hp, htenant, hmembership]
  rw [if_neg (by simp [hrole, isTenantOwnerRole])]
  split
  · next existing hexisting =>
    obtain ⟨hmem, rfl⟩ := Table.get_eq_some.1 hexisting
    have hfits := hw.bindings existing hmem
    have hsame : existing.ownerId = p.workspace.ownerId := Option.some.inj (hfits.owner.symm.trans howner)
    have htenant : existing.tenantId = tenantId := by
      have := hfits.tenant
      rw [hsame, hw.personal hm] at this
      exact (Except.ok.inj this).symm
    rw [if_neg (by simp [htenant, hsame])]
    rfl
  · rfl

end OpenApp.Tenancy
