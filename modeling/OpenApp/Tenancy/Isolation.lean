import OpenApp.Async.Solo
import OpenApp.Tenancy.Steps
import OpenApp.Workspace.System

/-!
# Nobody gets into the Workspace of somebody else

In every run each binding names the owner of its Workspace and the owner's personal tenant, and it is the
same one for as long as the Workspace is there. Whoever is let in owns the Workspace at some moment of the call; whoever
is sent away does not, at some moment of it.
-/

namespace OpenApp.Tenancy

open Async Async.Prog Script Identity Keyed

/-! ## What the services make of what they read -/

/-- What was read says that this binding is the user's. -/
inductive Opens (workspaceId userId : String) (binding : WorkspaceTenantBinding) (tr : TenancyTrace) : Prop
  | own (read : ⟨.getWorkspaceTenantBinding workspaceId, .ok (some binding)⟩ ∈ tr) (owner : binding.ownerId = userId)
  | member {memberships : List (Tenant × TenantMembership)}
      (read : ⟨.getWorkspaceTenantBinding workspaceId, .ok (some binding)⟩ ∈ tr)
      (listed : ⟨.listTenantMemberships userId, .ok memberships⟩ ∈ tr)
      (one : (memberships.any fun entry => entry.1.id = binding.tenantId) = true)
  | new {tenantId : String} (bound : ⟨.bindWorkspaceToTenant workspaceId tenantId userId, .ok (some binding)⟩ ∈ tr)

/-- An error that sends the user away, not one of the infrastructure. -/
def TenancyFailure.refuses : TenancyFailure → Bool
  | .identity (.tenantMembership _) => true
  | .http _ _ => true
  | _ => false

/-- The calls of the two services. -/
def TenancyOp.asks : TenancyOp → Bool
  | .ensurePersonalTenant _ | .listTenantMemberships _ | .getWorkspaceTenantBinding _ | .bindWorkspaceToTenant _ _ _
  | .getContainer _ => true
  | _ => false

/-- What was read says that the user has no part in the Workspace. -/
inductive Refuses (workspaceId userId : String) : TenancyTrace → Prop
  | conflict {tr : TenancyTrace} {existing : WorkspaceTenantBinding} {tenant : Tenant} {membership : TenantMembership}
      (read : ⟨.getWorkspaceTenantBinding workspaceId, .ok (some existing)⟩ ∈ tr)
      (ensured : ⟨.ensurePersonalTenant userId, .ok (tenant, membership)⟩ ∈ tr)
      (other : existing.tenantId ≠ tenant.id ∨ existing.ownerId ≠ userId) : Refuses workspaceId userId tr
  | unbound {tr : TenancyTrace} {tenant : Tenant} {membership : TenantMembership}
      (ensured : ⟨.ensurePersonalTenant userId, .ok (tenant, membership)⟩ ∈ tr) :
      Refuses workspaceId userId (⟨.bindWorkspaceToTenant workspaceId tenant.id userId, .ok none⟩ :: tr)
  | stranger {tr : TenancyTrace} {binding : WorkspaceTenantBinding} {memberships : List (Tenant × TenantMembership)}
      (read : ⟨.getWorkspaceTenantBinding workspaceId, .ok (some binding)⟩ ∈ tr)
      (none : (memberships.any fun entry => entry.1.id = binding.tenantId) = false) :
      Refuses workspaceId userId (⟨.listTenantMemberships userId, .ok memberships⟩ :: tr)
  | unfit {tr : TenancyTrace} {tenant : Tenant} {membership : TenantMembership}
      (ensured : ⟨.ensurePersonalTenant userId, .ok (tenant, membership)⟩ ∈ tr)
      (role : isTenantOwnerRole membership.role = false) : Refuses workspaceId userId tr
  | failed {tr : TenancyTrace} {o : TenancyOp} {error : TenancyFailure} (asked : o.asks = true)
      (failed : ⟨o, .error error⟩ ∈ tr) (refuses : error.refuses = true) : Refuses workspaceId userId tr

/-- How a question for a binding ends. -/
def Bound (workspaceId userId : String) : Except TenancyFailure WorkspaceTenantBinding → TenancyTrace → Prop
  | .ok binding, tr => Opens workspaceId userId binding tr
  | .error error, tr => error.refuses = true → Refuses workspaceId userId tr

/-- How a question for a Workspace ends. -/
def Owned (workspaceId userId : String) : Except TenancyFailure Container → TenancyTrace → Prop
  | .ok record, tr => ⟨.getContainer workspaceId, .ok (some record)⟩ ∈ tr ∧ record.userId = userId ∧
      ∃ binding, Opens workspaceId userId binding tr
  | .error error, tr => error.refuses = true → Refuses workspaceId userId tr ∨ error = containerNotFound ∧
      ∃ record, ⟨.getContainer workspaceId, .ok record⟩ ∈ tr ∧ record.map Container.userId ≠ some userId

abbrev Freely : TenancyTrace → TenancyOp → Prop := fun _ _ => True

section Services

variable {workspaceId userId : String} {tr : TenancyTrace}

theorem bindNew_bound {tenant : Tenant} {membership : TenantMembership}
    (hensured : ⟨.ensurePersonalTenant userId, .ok (tenant, membership)⟩ ∈ tr) :
    wp Freely (bindNew tenant workspaceId userId) (Bound workspaceId userId) tr := by
  unfold bindNew
  refine (wp_bind _ _ _).2 ((wp_await _ _).2 ⟨trivial, fun r => ?_⟩)
  cases r with
  | error e => exact fun hrefuses => .failed rfl List.mem_cons_self hrefuses
  | ok bound =>
    cases bound with
    | some bound => exact .new List.mem_cons_self
    | none => exact fun _ => .unbound hensured

theorem ensureWorkspaceBinding_bound :
    wp Freely (ensureWorkspaceBinding workspaceId userId) (Bound workspaceId userId) tr := by
  unfold ensureWorkspaceBinding
  refine (wp_bind _ _ _).2 ((wp_await _ _).2 ⟨trivial, fun r => ?_⟩)
  cases r with
  | error e => exact fun hrefuses => .failed rfl List.mem_cons_self hrefuses
  | ok ensured =>
    obtain ⟨tenant, membership⟩ := ensured
    refine (wp_bind _ _ _).2 ((wp_throwIf _ _ _).2 ⟨?_, ?_⟩)
    · exact fun hrole _ => .unfit List.mem_cons_self hrole
    · intro _
      refine (wp_bind _ _ _).2 ((wp_await _ _).2 ⟨trivial, fun r => ?_⟩)
      cases r with
      | error e => exact fun hrefuses => .failed rfl List.mem_cons_self hrefuses
      | ok existing =>
        cases existing with
        | none => exact bindNew_bound (List.mem_cons_of_mem _ List.mem_cons_self)
        | some existing =>
          refine (wp_bind _ _ _).2 ((wp_throwIf _ _ _).2 ⟨?_, ?_⟩)
          · exact fun hother _ => .conflict List.mem_cons_self (List.mem_cons_of_mem _ List.mem_cons_self) hother
          · intro hsame
            rw [not_or, not_not, not_not] at hsame
            exact .own List.mem_cons_self hsame.2

theorem requireWorkspaceAccess_bound :
    wp Freely (requireWorkspaceAccess workspaceId userId) (Bound workspaceId userId) tr := by
  unfold requireWorkspaceAccess
  refine (wp_bind _ _ _).2 ((wp_await _ _).2 ⟨trivial, fun r => ?_⟩)
  cases r with
  | error e => exact fun hrefuses => .failed rfl List.mem_cons_self hrefuses
  | ok binding =>
    cases binding with
    | none => exact ensureWorkspaceBinding_bound
    | some binding =>
      refine (wp_bind _ _ _).2 ((wp_await _ _).2 ⟨trivial, fun r => ?_⟩)
      cases r with
      | error e => exact fun hrefuses => .failed rfl List.mem_cons_self hrefuses
      | ok memberships =>
        refine (wp_bind _ _ _).2 ((wp_throwIf _ _ _).2 ⟨?_, ?_⟩)
        · exact fun hnone _ => .stranger List.mem_cons_self hnone
        · intro hone
          rw [Bool.not_eq_false] at hone
          exact .member (List.mem_cons_of_mem _ List.mem_cons_self) List.mem_cons_self hone

theorem refuses_of_hidden {error : TenancyFailure} (h : (hidden error).refuses = true) : error.refuses = true := by
  unfold hidden at h
  split at h
  · next herror =>
    cases error with
    | identity failure => cases failure <;> first | rfl | cases herror
    | _ => cases herror
  · exact h

theorem requireOwned_owned : wp Freely (requireOwned workspaceId userId) (Owned workspaceId userId) tr := by
  unfold requireOwned requireExisting
  refine (wp_bind _ _ _).2 ((wp_bind _ _ _).2 ((wp_await _ _).2 ⟨trivial, fun r => ?_⟩))
  cases r with
  | error e => exact fun hrefuses => .inl (.failed rfl List.mem_cons_self hrefuses)
  | ok record =>
    cases record with
    | none => exact fun _ => .inr ⟨rfl, none, List.mem_cons_self, by simp⟩
    | some record =>
      refine (wp_bind _ _ _).2 ((wp_throwIf _ _ _).2 ⟨?_, ?_⟩)
      · exact fun hother _ => .inr ⟨rfl, some record, List.mem_cons_self, fun heq => hother (Option.some.inj heq)⟩
      · intro hsame
        rw [not_not] at hsame
        refine (wp_bind _ _ _).2 ((wp_tryCatch _ _).2 (wp_post (wp_extends requireWorkspaceAccess_bound) ?_))
        rintro r tr' ⟨hbound, hsuffix⟩
        cases r with
        | ok binding => exact ⟨hsuffix.subset List.mem_cons_self, hsame, binding, hbound⟩
        | error e => exact fun hrefuses => .inl (hbound (refuses_of_hidden hrefuses))

end Services

/-! ## What the store answers -/

section Answers

variable {w w' : TenancyWorld} {x : TenancyChoice} {workspaceId userId tenantId : String}

theorem perform_binding {binding : Option WorkspaceTenantBinding}
    (h : w.perform (.getWorkspaceTenantBinding workspaceId) x = some (.ok binding, w')) :
    w.workspaceTenantBindings.get workspaceId = binding ∧ w' = w := by
  cases x <;> cases h
  exact ⟨rfl, rfl⟩

theorem perform_memberships {memberships : List (Tenant × TenantMembership)}
    (h : w.perform (.listTenantMemberships userId) x = some (.ok memberships, w')) :
    memberships = w.listTenantMemberships userId ∧ w' = w := by
  cases x <;> cases h
  exact ⟨rfl, rfl⟩

theorem perform_record {record : Option Container} (h : w.perform (.getContainer workspaceId) x = some (.ok record, w')) :
    record = w.workspaces.getContainer workspaceId := by
  cases x <;> cases h
  rfl

theorem perform_bound {bound : Option WorkspaceTenantBinding}
    (h : w.perform (.bindWorkspaceToTenant workspaceId tenantId userId) x = some (.ok bound, w')) :
    ∃ now, w.bindWorkspaceToTenant workspaceId tenantId userId now = (bound, w') := by
  cases x with
  | go now =>
    refine ⟨now, ?_⟩
    cases h
    rfl
  | _ => cases h

theorem isLowerWord_of_isUuid {id : String} (h : isUuid id = true) : isLowerWord 35 id = true :=
  (Bool.and_eq_true_iff.1 h).1

theorem isUuid_trim {id : String} (h : isUuid id = true) : trim id = id :=
  trim_of_chars fun c hc => isWordChar_of_lower (isLowerWord_chars (isLowerWord_of_isUuid h) c hc)

theorem isUuid_truthy {id : String} (h : isUuid id = true) : truthy id = true :=
  decide_eq_true (ne_empty_of_isLowerWord (isLowerWord_of_isUuid h))

theorem personalTenantId_uuid {id : String} (h : isUuid id = true) : personalTenantId id = .ok ("personal:" ++ id) := by
  unfold personalTenantId
  rw [isUuid_trim h]
  exact if_pos (isUuid_truthy h)

theorem personalTenantId_inj {id id' tenantId : String} (h : isUuid id = true) (h' : isUuid id' = true)
    (heq : personalTenantId id = .ok tenantId) (heq' : personalTenantId id' = .ok tenantId) : id = id' := by
  rw [personalTenantId_uuid h] at heq
  rw [personalTenantId_uuid h', ← heq] at heq'
  exact (String.append_right_inj _).1 (Except.ok.inj heq').symm

/-- What the store says about the tenant of a user who is there. -/
theorem ensurePersonalTenant_ok {s : MemoryStore} {now : Timestamp} {tenant : Tenant} {membership : TenantMembership}
    (hroles : ∀ membership ∈ s.tenantMemberships.rows, membership.role = "owner")
    (h : (s.ensurePersonalTenant userId now).1 = .ok (tenant, membership)) :
    personalTenantId userId = .ok tenant.id ∧ membership.role = "owner" ∧
      ((s.ensurePersonalTenant userId now).2.tenants.get tenant.id).isSome = true ∧
      ((s.ensurePersonalTenant userId now).2.tenantMemberships.get (tenant.id, userId)).isSome = true := by
  unfold MemoryStore.ensurePersonalTenant at h ⊢
  cases hget : s.users.get userId with
  | none =>
    rw [hget] at h
    cases h
  | some user =>
    obtain rfl := Table.key_of_get hget
    rw [hget] at h
    dsimp only at h ⊢
    cases hid : personalTenantId user.id with
    | error e =>
      rw [hid] at h
      cases h
    | ok id =>
      rw [hid] at h
      dsimp only at h ⊢
      obtain ⟨rfl, rfl⟩ := Prod.mk.inj (Except.ok.inj h)
      have htenant : ((s.tenants.get id).getD
          { id := id, kind := "personal", name := user.email, createdAt := now, updatedAt := now }).id = id := by
        cases htenant : s.tenants.get id with
        | none => rfl
        | some tenant => exact Table.key_of_get htenant
      rw [htenant]
      refine ⟨rfl, ?_, ?_, ?_⟩
      · cases hmember : s.tenantMemberships.get (id, user.id) with
        | none => rfl
        | some membership => exact hroles membership (Table.get_eq_some.1 hmember).1
      · rw [Table.get_put, if_pos htenant.symm]
        rfl
      · rw [Table.get_put]
        split
        · rfl
        · next hne =>
          cases hmember : s.tenantMemberships.get (id, user.id) with
          | none => exact absurd (by rw [hmember]; rfl) hne
          | some membership => rfl

theorem perform_ensured (hw : InOrder w) {tenant : Tenant} {membership : TenantMembership}
    (h : w.perform (.ensurePersonalTenant userId) x = some (.ok (tenant, membership), w')) :
    personalTenantId userId = .ok tenant.id ∧ membership.role = "owner" ∧ w'.Member tenant.id userId := by
  cases x with
  | go now =>
    obtain ⟨hresult, rfl⟩ := Prod.mk.inj (Option.some.inj h)
    have hok : (w.accounts.ensurePersonalTenant userId now).1 = .ok (tenant, membership) := by
      cases hresult' : (w.accounts.ensurePersonalTenant userId now).1 with
      | error e =>
        rw [hresult'] at hresult
        cases hresult
      | ok a =>
        rw [hresult'] at hresult
        cases hresult
        rfl
    obtain ⟨hpersonal, hrole, htenant, hmembership⟩ :=
      ensurePersonalTenant_ok (fun membership hmem => (hw.memberships membership hmem).2.2) hok
    exact ⟨hpersonal, hrole, htenant, hmembership⟩
  | _ => cases h

/-- Only a store out of order sends somebody away on its own. -/
theorem perform_error (hw : InOrder w) {o : TenancyOp} {error : TenancyFailure} (hasked : o.asks = true)
    (h : w.perform o x = some (.error error, w')) : error.refuses = false := by
  cases x with
  | fails message =>
    cases h
    rfl
  | user id now =>
    cases o with
    | govern call => cases hasked
    | _ => cases h
  | go now =>
    cases o with
    | ensurePersonalTenant userId =>
      have herror : ((w.accounts.ensurePersonalTenant userId now).1.mapError TenancyFailure.identity) = .error error :=
        congrArg Prod.fst (Option.some.inj h)
      unfold MemoryStore.ensurePersonalTenant at herror
      cases hget : w.accounts.users.get userId with
      | none =>
        rw [hget] at herror
        cases herror
        rfl
      | some user =>
        -- a user's id is never blank
        obtain ⟨hmem, rfl⟩ := Table.get_eq_some.1 hget
        rw [hget] at herror
        dsimp only at herror
        rw [personalTenantId_uuid (hw.users user hmem)] at herror
        cases herror
    | saveContainer container => cases hasked
    | compareAndSaveWorkspaceExecution projection expectedRevision => cases hasked
    | _ => cases h

theorem getContainer_owner {record : Container} (h : w.workspaces.getContainer workspaceId = some record) :
    record.id = workspaceId ∧ w.ownerOf workspaceId = some record.userId := by
  obtain ⟨p, hp, rfl⟩ := Option.map_eq_some_iff.1 h
  have hget : w.workspaces.get workspaceId = some p := (Option.filter_eq_some_iff.1 hp).1
  refine ⟨w.workspaces.keyed _ _ hget, ?_⟩
  rw [TenancyWorld.ownerOf, hget]
  rfl

theorem mem_listTenantMemberships {entry : Tenant × TenantMembership} :
    entry ∈ w.listTenantMemberships userId ↔ entry.2 ∈ w.accounts.tenantMemberships.rows ∧ entry.2.userId = userId ∧
      w.accounts.tenants.get entry.2.tenantId = some entry.1 := by
  unfold TenancyWorld.listTenantMemberships
  rw [List.mem_filterMap]
  constructor
  · rintro ⟨membership, hmem, hentry⟩
    obtain ⟨tenant, htenant, rfl⟩ := Option.map_eq_some_iff.1 hentry
    obtain ⟨hrow, huser⟩ := List.mem_filter.1 hmem
    exact ⟨hrow, of_decide_eq_true huser, htenant⟩
  · rintro ⟨hrow, huser, htenant⟩
    refine ⟨entry.2, List.mem_filter.2 ⟨hrow, decide_eq_true huser⟩, ?_⟩
    rw [htenant]
    rfl

end Answers

/-! ## What has been said stays true -/

/-- The memberships that an answer speaks of are there. -/
def Told : Exchange TenancyOp TenancyOp.Answer TenancyFailure → TenancyWorld → Prop
  | ⟨.ensurePersonalTenant userId, .ok (tenant, membership)⟩, w =>
    personalTenantId userId = .ok tenant.id ∧ membership.role = "owner" ∧ w.Member tenant.id userId
  | ⟨.getWorkspaceTenantBinding _, .ok (some binding)⟩, w => w.Member binding.tenantId binding.ownerId
  | _, _ => True

section Told

variable {w w' : TenancyWorld} {o : TenancyOp} {x : TenancyChoice}

theorem Told.step {y : Exchange TenancyOp TenancyOp.Answer TenancyFailure} (h : Told y w) (hstep : TenancyStep w o w') :
    Told y w' := by
  unfold Told at h ⊢
  split
  · exact ⟨h.1, h.2.1, hstep.member h.2.2⟩
  · exact hstep.member h
  · trivial

theorem told_perform (hw : InOrder w) {r : Except TenancyFailure o.Answer} (h : w.perform o x = some (r, w')) :
    Told ⟨o, r⟩ w' := by
  unfold Told
  split
  · next userId tenant membership heq =>
    cases heq
    exact perform_ensured hw h
  · next workspaceId binding heq =>
    cases heq
    obtain ⟨hget, rfl⟩ := perform_binding h
    exact (hw.bindings binding (Table.get_eq_some.1 hget).1).member
  · trivial

end Told

/-! ## Runs -/

section Runs

variable {ι : Type} [DecidableEq ι] {w₀ w : TenancyWorld} {es : List (Event ι TenancyOp TenancyOp.Answer TenancyFailure TenancyWorld)}

abbrev TenancyEvent (ι : Type) := Event ι TenancyOp TenancyOp.Answer TenancyFailure TenancyWorld

abbrev TenancyRun (w₀ : TenancyWorld) : List (TenancyEvent ι) → TenancyWorld → Prop :=
  Legal tenancySystem (fun _ _ _ => True) w₀

/-- Whoever saves a record leaves the Workspace to its owner. -/
abbrev OwnersKept : List (TenancyEvent ι) → Prop :=
  Every fun _ e => KeepsOwner e.before e.op

theorem inOrder_of_run (h : TenancyRun w₀ es w) (h₀ : InOrder w₀) :
    OwnersKept es → InOrder w ∧ ∀ e ∈ es, Told e.toExchange w := by
  refine h.inv (I := fun es w => OwnersKept es → InOrder w ∧ ∀ e ∈ es, Told e.toExchange w) ?_ ?_
  · exact fun _ => ⟨h₀, fun e he => absurd he List.not_mem_nil⟩
  · intro es w w' t o x r _ ih hp _ hkept
    obtain ⟨hw, htold⟩ := ih hkept.2
    have hstep := perform_step hp
    refine ⟨hw.step hstep hkept.1, fun e he => ?_⟩
    rcases List.mem_cons.1 he with rfl | he
    · exact told_perform hw hp
    · exact (htold e he).step hstep

/-- An exchange of a thread, with the store it met and what the thread had been told before. -/
structure Met (es : List (TenancyEvent ι)) (t : ι) (x : Exchange TenancyOp TenancyOp.Answer TenancyFailure)
    (before : TenancyTrace) (e : TenancyEvent ι) : Prop where
  mem : e ∈ es
  thread : e.thread = t
  inOrder : InOrder e.before
  told : ∀ y ∈ before, Told y e.before
  performed : ∃ c, e.before.perform x.op c = some (x.answer, e.after)

theorem met_of_run (h : TenancyRun w₀ es w) (h₀ : InOrder w₀) (hkept : OwnersKept es) {t : ι}
    {x : Exchange TenancyOp TenancyOp.Answer TenancyFailure} (later : TenancyTrace) {before : TenancyTrace}
    (hx : traceOf t es = later ++ x :: before) : ∃ e, Met es t x before e := by
  obtain ⟨after, e, earlier, rfl, ht, rfl, hbefore, -⟩ := exists_event_of_traceOf later hx
  obtain ⟨hearlier, -, c, hp⟩ := h.suffix
  obtain ⟨hw, htold⟩ := inOrder_of_run hearlier h₀ hkept.suffix.2
  refine ⟨e, List.mem_append_right _ List.mem_cons_self, ht, hw, fun y hy => ?_, c, hp⟩
  rw [← hbefore] at hy
  obtain ⟨e', he', -, rfl⟩ := event_of_mem_traceOf hy
  exact htold e' he'

theorem met_of_mem (h : TenancyRun w₀ es w) (h₀ : InOrder w₀) (hkept : OwnersKept es) {t : ι}
    {x : Exchange TenancyOp TenancyOp.Answer TenancyFailure} (hx : x ∈ traceOf t es) : ∃ before e, Met es t x before e := by
  obtain ⟨later, before, heq⟩ := List.append_of_mem hx
  obtain ⟨e, he⟩ := met_of_run h h₀ hkept later heq
  exact ⟨before, e, he⟩

variable {t : ι} {workspaceId userId : String}

/-- A binding that was read names the owner at that moment. -/
theorem fits_of_met {binding : WorkspaceTenantBinding} {before : TenancyTrace} {e : TenancyEvent ι}
    (h : Met es t ⟨.getWorkspaceTenantBinding workspaceId, .ok (some binding)⟩ before e) :
    binding.workspaceId = workspaceId ∧ Fits e.before binding := by
  obtain ⟨c, hp⟩ := h.performed
  obtain ⟨hmem, hkey⟩ := Table.get_eq_some.1 (perform_binding hp).1
  exact ⟨hkey, h.inOrder.bindings binding hmem⟩

/-- What a member of a tenant and the tenant's id say about each other. -/
theorem personal_of_met {memberships : List (Tenant × TenantMembership)} {before : TenancyTrace} {e : TenancyEvent ι}
    {tenantId : String} (h : Met es t ⟨.listTenantMemberships userId, .ok memberships⟩ before e)
    (hone : (memberships.any fun entry => entry.1.id = tenantId) = true) :
    isUuid userId = true ∧ personalTenantId userId = .ok tenantId := by
  obtain ⟨c, hp⟩ := h.performed
  obtain ⟨rfl, -⟩ := perform_memberships hp
  obtain ⟨entry, hentry, heq⟩ := List.any_eq_true.1 hone
  obtain ⟨hrow, rfl, htenant⟩ := mem_listTenantMemberships.1 hentry
  obtain ⟨huuid, hpersonal, -⟩ := h.inOrder.memberships _ hrow
  have hkey : entry.1.id = entry.2.tenantId := Table.key_of_get htenant
  rw [← of_decide_eq_true heq, hkey]
  exact ⟨huuid, hpersonal⟩

theorem isUuid_of_member {w : TenancyWorld} {tenantId : String} (hw : InOrder w) (hm : w.Member tenantId userId) :
    isUuid userId = true := by
  obtain ⟨membership, hget⟩ := Option.isSome_iff_exists.1 hm.membership
  obtain ⟨hmem, hkey⟩ := Table.get_eq_some.1 hget
  obtain ⟨-, rfl⟩ := Prod.mk.inj hkey
  exact (hw.memberships membership hmem).1

/-- Whoever a binding opens a Workspace to owned it at some moment. -/
theorem owned_of_opens (h : TenancyRun w₀ es w) (h₀ : InOrder w₀) (hkept : OwnersKept es) {binding : WorkspaceTenantBinding}
    (hopens : Opens workspaceId userId binding (traceOf t es)) :
    (binding.workspaceId = workspaceId ∧ binding.ownerId = userId ∧ personalTenantId userId = .ok binding.tenantId) ∧
      ∃ e ∈ es, e.thread = t ∧ e.before.ownerOf workspaceId = some userId := by
  cases hopens with
  | own read owner =>
    obtain ⟨before, e, hmet⟩ := met_of_mem h h₀ hkept read
    obtain ⟨rfl, hfits⟩ := fits_of_met hmet
    subst owner
    exact ⟨⟨rfl, rfl, hfits.tenant⟩, e, hmet.mem, hmet.thread, hfits.owner⟩
  | member read listed one =>
    obtain ⟨before, e, hmet⟩ := met_of_mem h h₀ hkept read
    obtain ⟨rfl, hfits⟩ := fits_of_met hmet
    obtain ⟨before', e', hmet'⟩ := met_of_mem h h₀ hkept listed
    obtain ⟨huuid, hpersonal⟩ := personal_of_met hmet' one
    obtain rfl := personalTenantId_inj (isUuid_of_member hmet.inOrder hfits.member) huuid hfits.tenant hpersonal
    exact ⟨⟨rfl, rfl, hpersonal⟩, e, hmet.mem, hmet.thread, hfits.owner⟩
  | new bound =>
    obtain ⟨before, e, hmet⟩ := met_of_mem h h₀ hkept bound
    obtain ⟨c, hp⟩ := hmet.performed
    obtain ⟨now, hbound⟩ := perform_bound hp
    obtain hnone | ⟨binding', hbinds, hsome⟩ := bindWorkspaceToTenant_cases e.before _ _ userId now
    · cases hbound.symm.trans hnone
    · cases Option.some.inj (congrArg Prod.fst (hbound.symm.trans hsome))
      have hpersonal := hmet.inOrder.personal hbinds.member
      rw [← hbinds.tenant] at hpersonal
      exact ⟨⟨hbinds.workspace, hbinds.named, hpersonal⟩, e, hmet.mem, hmet.thread, hbinds.owner⟩

/-- Whoever is sent away did not own the Workspace at some moment. -/
theorem unowned_of_refuses (h : TenancyRun w₀ es w) (h₀ : InOrder w₀) (hkept : OwnersKept es)
    (hrefuses : Refuses workspaceId userId (traceOf t es)) :
    ∃ e ∈ es, e.thread = t ∧ e.before.ownerOf workspaceId ≠ some userId := by
  generalize htrace : traceOf t es = tr at hrefuses
  cases hrefuses with
  | conflict read ensured other =>
    obtain ⟨before, e, hmet⟩ := met_of_mem h h₀ hkept (htrace ▸ read)
    obtain ⟨rfl, hfits⟩ := fits_of_met hmet
    refine ⟨e, hmet.mem, hmet.thread, fun howner => ?_⟩
    obtain rfl := Option.some.inj (hfits.owner.symm.trans howner)
    obtain ⟨before', e', hmet'⟩ := met_of_mem h h₀ hkept (htrace ▸ ensured)
    obtain ⟨c, hp⟩ := hmet'.performed
    have htenant := hfits.tenant.symm.trans (perform_ensured hmet'.inOrder hp).1
    exact other.elim (fun hne => hne (Except.ok.inj htenant)) fun hne => hne rfl
  | unbound ensured =>
    obtain ⟨e, hmet⟩ := met_of_run h h₀ hkept [] htrace
    refine ⟨e, hmet.mem, hmet.thread, fun howner => ?_⟩
    have hmember := (hmet.told _ ensured).2.2
    obtain ⟨c, hp⟩ := hmet.performed
    obtain ⟨now, hbound⟩ := perform_bound hp
    have hsome := bindWorkspaceToTenant_of_owner hmet.inOrder now howner hmember
    rw [hbound] at hsome
    cases hsome
  | stranger read none =>
    obtain ⟨e, hmet⟩ := met_of_run h h₀ hkept [] htrace
    obtain ⟨before, e', hmet'⟩ := met_of_mem h h₀ hkept (htrace ▸ List.mem_cons_of_mem _ read)
    obtain ⟨rfl, hfits⟩ := fits_of_met hmet'
    refine ⟨e', hmet'.mem, hmet'.thread, fun howner => ?_⟩
    obtain rfl := Option.some.inj (hfits.owner.symm.trans howner)
    -- the owner's membership was there when the binding was read, and it still is
    have hmember : e.before.Member _ _ := hmet.told _ read
    obtain ⟨tenant, htenant⟩ := Option.isSome_iff_exists.1 hmember.tenant
    obtain ⟨membership, hmembership⟩ := Option.isSome_iff_exists.1 hmember.membership
    obtain ⟨hrow, hkey⟩ := Table.get_eq_some.1 hmembership
    obtain ⟨hid, huser⟩ := Prod.mk.inj hkey
    obtain ⟨c, hp⟩ := hmet.performed
    obtain ⟨rfl, -⟩ := perform_memberships hp
    have hentry : (tenant, membership) ∈ e.before.listTenantMemberships _ :=
      mem_listTenantMemberships.2 ⟨hrow, huser, hid ▸ htenant⟩
    have hne := List.any_eq_false.1 none _ hentry
    exact hne (decide_eq_true (Table.key_of_get htenant))
  | unfit ensured role =>
    obtain ⟨before, e, hmet⟩ := met_of_mem h h₀ hkept (htrace ▸ ensured)
    obtain ⟨c, hp⟩ := hmet.performed
    rw [(perform_ensured hmet.inOrder hp).2.1] at role
    cases role
  | failed asked failed refuses =>
    obtain ⟨before, e, hmet⟩ := met_of_mem h h₀ hkept (htrace ▸ failed)
    obtain ⟨c, hp⟩ := hmet.performed
    rw [perform_error hmet.inOrder asked hp] at refuses
    cases refuses

/-- A binding stays as it is, but for the time of its last use, until its Workspace is deleted. -/
theorem binding_kept {later earlier : List (TenancyEvent ι)} {e : TenancyEvent ι} {binding : WorkspaceTenantBinding}
    (h : TenancyRun w₀ (later ++ e :: earlier) w) (hthere : e.after.workspaceTenantBindings.get workspaceId = some binding)
    (hkept : ∀ e ∈ later, e.op ≠ .deleteContainer workspaceId) :
    ∃ updatedAt, w.workspaceTenantBindings.get workspaceId = some { binding with updatedAt := updatedAt } := by
  refine h.span_later (K := fun o => o ≠ .deleteContainer workspaceId)
    (R := fun w w' => ∀ binding, w.workspaceTenantBindings.get workspaceId = some binding →
      ∃ updatedAt, w'.workspaceTenantBindings.get workspaceId = some { binding with updatedAt := updatedAt })
    ?_ ?_ ?_ hkept binding hthere
  · exact fun w binding hget => ⟨binding.updatedAt, hget⟩
  · intro a b c hab hbc binding hget
    obtain ⟨at₁, h₁⟩ := hab binding hget
    obtain ⟨at₂, h₂⟩ := hbc _ h₁
    exact ⟨at₂, h₂⟩
  · intro w w' o x r hother hp binding hget
    have hstep := perform_step hp
    cases hstep with
    | @deleted id =>
      refine ⟨binding.updatedAt, ?_⟩
      change (w.workspaceTenantBindings.delete id).get workspaceId = some binding
      rw [Table.get_delete_of_ne _ fun heq => hother (congrArg TenancyOp.deleteContainer heq.symm)]
      exact hget
    | @bound _ _ _ bound binds =>
      change ∃ updatedAt, (w.workspaceTenantBindings.put bound).get workspaceId = _
      rw [Table.get_put]
      split
      · next hid =>
        rw [binds.workspace] at hid
        subst hid
        exact ⟨_, congrArg some (binds.again binding hget)⟩
      · exact ⟨binding.updatedAt, hget⟩
    | _ => exact ⟨binding.updatedAt, hget⟩

end Runs

/-! ## The calls -/

/-- The Workspace and the user a call is about; the management may have any Workspace on its own routes. -/
def TenancyCall.asksFor : TenancyCall → Option (String × String)
  | .ensureWorkspaceBinding workspaceId ownerId => some (workspaceId, ownerId)
  | .requireWorkspaceAccess workspaceId userId => some (workspaceId, userId)
  | .requireOwned id userId => some (id, userId)
  | .requireOwnedContainer id user adminRoute =>
    if (adminRoute && isManagementRole user.role) = true then none else some (id, user.id)
  | _ => none

/-- How a call ends, by what it has read. -/
def Ended (call : TenancyCall) : Except TenancyFailure (TenancyCall ⊕ Granted) → TenancyTrace → Prop
  | .ok (.inl next), _ => next = call
  | .ok (.inr (.binding binding)), tr => ∀ workspaceId userId, call.asksFor = some (workspaceId, userId) →
      Bound workspaceId userId (.ok binding) tr
  | .ok (.inr (.container record)), tr => ∀ workspaceId userId, call.asksFor = some (workspaceId, userId) →
      Owned workspaceId userId (.ok record) tr
  | .ok (.inr .nothing), _ => call.asksFor = none
  | .error error, tr => ∀ workspaceId userId, call.asksFor = some (workspaceId, userId) →
      Owned workspaceId userId (.error error) tr

theorem bound_ended {call : TenancyCall} {workspaceId userId : String} {p : Tenancy WorkspaceTenantBinding}
    (hasks : call.asksFor = some (workspaceId, userId)) {tr : TenancyTrace} (h : wp Freely p (Bound workspaceId userId) tr) :
    wp Freely (Sum.inr <$> Granted.binding <$> p) (Ended call) tr := by
  refine (wp_map _ _ _).2 ((wp_map _ _ _).2 (wp_post h fun r tr' hbound => ?_))
  cases r with
  | ok binding =>
    intro workspaceId' userId' hasks'
    obtain ⟨rfl, rfl⟩ := Prod.mk.inj (Option.some.inj (hasks.symm.trans hasks'))
    exact hbound
  | error e =>
    intro workspaceId' userId' hasks'
    obtain ⟨rfl, rfl⟩ := Prod.mk.inj (Option.some.inj (hasks.symm.trans hasks'))
    exact fun hrefuses => .inl (hbound hrefuses)

theorem owned_ended {call : TenancyCall} {workspaceId userId : String} {p : Tenancy Container}
    (hasks : call.asksFor = some (workspaceId, userId)) {tr : TenancyTrace} (h : wp Freely p (Owned workspaceId userId) tr) :
    wp Freely (Sum.inr <$> Granted.container <$> p) (Ended call) tr := by
  refine (wp_map _ _ _).2 ((wp_map _ _ _).2 (wp_post h fun r tr' howned => ?_))
  cases r with
  | ok record =>
    intro workspaceId' userId' hasks'
    obtain ⟨rfl, rfl⟩ := Prod.mk.inj (Option.some.inj (hasks.symm.trans hasks'))
    exact howned
  | error e =>
    intro workspaceId' userId' hasks'
    obtain ⟨rfl, rfl⟩ := Prod.mk.inj (Option.some.inj (hasks.symm.trans hasks'))
    exact howned

theorem wp_freely {α : Type} (p : Tenancy α) (tr : TenancyTrace) : wp Freely p (fun _ _ => True) tr := by
  induction p generalizing tr with
  | done a => trivial
  | raise e => trivial
  | call o k ih => exact ⟨trivial, fun r => ih r _⟩

/-- A call that asks for nobody's Workspace says nothing about anybody. -/
theorem unasked_ended {α : Type} {call : TenancyCall} {p : Tenancy α} {f : α → Granted} (hasks : call.asksFor = none)
    {tr : TenancyTrace} : wp Freely (Sum.inr <$> f <$> p) (Ended call) tr := by
  refine (wp_map _ _ _).2 ((wp_map _ _ _).2 (wp_post (wp_freely p tr) fun r tr' _ => ?_))
  cases r with
  | ok a =>
    change Ended call (.ok (.inr (f a))) tr'
    cases f a with
    | nothing => exact hasks
    | _ => intro workspaceId userId hasks'; cases hasks.symm.trans hasks'
  | error e =>
    intro workspaceId userId hasks'
    cases hasks.symm.trans hasks'

theorem call_ended (call : TenancyCall) (tr : TenancyTrace) : wp Freely (tenancySystem.body call) (Ended call) tr := by
  cases call with
  | ensureWorkspaceBinding workspaceId ownerId => exact bound_ended rfl ensureWorkspaceBinding_bound
  | requireWorkspaceAccess workspaceId userId => exact bound_ended rfl requireWorkspaceAccess_bound
  | requireExisting id => exact unasked_ended rfl
  | requireOwned id userId => exact owned_ended rfl requireOwned_owned
  | requireOwnedContainer id user adminRoute =>
    cases hadmin : adminRoute && isManagementRole user.role with
    | true =>
      have hasks : (TenancyCall.requireOwnedContainer id user adminRoute).asksFor = none := if_pos hadmin
      exact unasked_ended hasks
    | false =>
      have hasks : (TenancyCall.requireOwnedContainer id user adminRoute).asksFor = some (id, user.id) :=
        if_neg (by simp [hadmin])
      have howned : wp Freely (requireOwnedContainer id user adminRoute) (Owned id user.id) tr := by
        unfold requireOwnedContainer
        rw [if_neg (by simp [hadmin])]
        exact requireOwned_owned
      exact owned_ended hasks howned
  | store o => exact unasked_ended rfl

/-! ## Isolation -/

/-- What the caller gets is about this Workspace and this user. -/
def Granted.IsOf (workspaceId userId : String) : Granted → Prop
  | .binding bound => bound.workspaceId = workspaceId ∧ bound.ownerId = userId ∧
      personalTenantId userId = .ok bound.tenantId
  | .container record => record.id = workspaceId ∧ record.userId = userId
  | .nothing => False

structure Isolated {ι : Type} (calls : ι → TenancyCall)
    (c : Config ι TenancyOp TenancyOp.Answer TenancyFailure TenancyWorld TenancyCall Granted) : Prop where
  /-- every binding names the owner of its Workspace and the owner's personal tenant -/
  bindings : ∀ binding ∈ c.world.workspaceTenantBindings.rows, Fits c.world binding
  /-- a binding stays, but for the time of its last use, until its Workspace is deleted -/
  kept : ∀ workspaceId binding later e earlier, c.events = later ++ e :: earlier →
    e.after.workspaceTenantBindings.get workspaceId = some binding → (∀ e ∈ later, e.op ≠ .deleteContainer workspaceId) →
    ∃ updatedAt, c.world.workspaceTenantBindings.get workspaceId = some { binding with updatedAt := updatedAt }
  /-- whoever is let in owned the Workspace during the call -/
  granted : ∀ t workspaceId userId granted, (calls t).asksFor = some (workspaceId, userId) →
    c.prog t = .done (.inr granted) →
    granted.IsOf workspaceId userId ∧ ∃ e ∈ c.events, e.thread = t ∧ e.before.ownerOf workspaceId = some userId
  /-- whoever is sent away did not, or the Workspace was not there for anybody -/
  refused : ∀ t workspaceId userId error, (calls t).asksFor = some (workspaceId, userId) →
    c.prog t = .raise error → error.refuses = true →
    ∃ e ∈ c.events, e.thread = t ∧ (e.before.ownerOf workspaceId ≠ some userId ∨
      error = containerNotFound ∧ e.before.workspaces.getContainer workspaceId = none)

section Isolation

variable {ι : Type} [DecidableEq ι] {w₀ w : TenancyWorld} {es : List (TenancyEvent ι)} {t : ι} {workspaceId userId : String}

theorem granted_of_owned (h : TenancyRun w₀ es w) (h₀ : InOrder w₀) (hkept : OwnersKept es) {record : Container}
    (howned : Owned workspaceId userId (.ok record) (traceOf t es)) :
    (Granted.container record).IsOf workspaceId userId ∧ ∃ e ∈ es, e.thread = t ∧ e.before.ownerOf workspaceId = some userId := by
  obtain ⟨hread, rfl, binding, hopens⟩ := howned
  obtain ⟨before, e, hmet⟩ := met_of_mem h h₀ hkept hread
  obtain ⟨c, hp⟩ := hmet.performed
  have hrecord := getContainer_owner (perform_record hp).symm
  exact ⟨⟨hrecord.1, rfl⟩, e, hmet.mem, hmet.thread, hrecord.2⟩

theorem refused_of_owned (h : TenancyRun w₀ es w) (h₀ : InOrder w₀) (hkept : OwnersKept es) {error : TenancyFailure}
    (howned : Owned workspaceId userId (.error error) (traceOf t es)) (hrefuses : error.refuses = true) :
    ∃ e ∈ es, e.thread = t ∧ (e.before.ownerOf workspaceId ≠ some userId ∨
      error = containerNotFound ∧ e.before.workspaces.getContainer workspaceId = none) := by
  rcases howned hrefuses with hrefused | ⟨rfl, record, hread, hother⟩
  · obtain ⟨e, hmem, hthread, hne⟩ := unowned_of_refuses h h₀ hkept hrefused
    exact ⟨e, hmem, hthread, .inl hne⟩
  · obtain ⟨before, e, hmet⟩ := met_of_mem h h₀ hkept hread
    obtain ⟨c, hp⟩ := hmet.performed
    have hrecord := perform_record hp
    refine ⟨e, hmet.mem, hmet.thread, ?_⟩
    cases record with
    | none => exact .inr ⟨rfl, hrecord.symm⟩
    | some record =>
      left
      rw [(getContainer_owner hrecord.symm).2]
      exact hother

theorem tenancy_isolated (calls : ι → TenancyCall) (schedule : List (ι × TenancyChoice))
    {c : Config ι TenancyOp TenancyOp.Answer TenancyFailure TenancyWorld TenancyCall Granted} (h₀ : InOrder w₀)
    (hrun : exec tenancySystem (start tenancySystem w₀ calls) schedule = some c) (hkept : OwnersKept c.events) :
    Isolated calls c := by
  have hlawful : Lawful tenancySystem (fun _ => Freely) (fun t => Ended (calls t)) w₀ c :=
    lawful_of_exec (fun t => rfl) (fun t call tr hcall => hcall ▸ call_ended call tr) hrun
  have hends := hlawful.threads
  refine ⟨(inOrder_of_run hlawful.legal h₀ hkept).1.bindings, ?_, ?_, ?_⟩
  · intro workspaceId binding later e earlier hevents
    exact binding_kept (hevents ▸ hlawful.legal)
  · intro t workspaceId userId granted hasks hdone
    have hend := hends t
    rw [hdone] at hend
    cases granted with
    | binding binding => exact owned_of_opens hlawful.legal h₀ hkept (hend workspaceId userId hasks)
    | container record => exact granted_of_owned hlawful.legal h₀ hkept (hend workspaceId userId hasks)
    | nothing => cases hasks.symm.trans hend
  · intro t workspaceId userId error hasks hraised
    have hend := hends t
    rw [hraised] at hend
    exact refused_of_owned hlawful.legal h₀ hkept (hend workspaceId userId hasks)

end Isolation

namespace Sample

def user (id email : String) : User where
  id := id
  email := email
  role := .user
  createdAt := 0
  appInitializedAt := none

def owner : User := user "00000000-0000-4000-8000-000000000001" "owner@example.com"

def stranger : User := user "00000000-0000-4000-8000-000000000002" "stranger@example.com"

/-- A Workspace from before the tenants. -/
def legacyWorld : TenancyWorld where
  accounts :=
    { defaultAuthProvider := "session-auth"
      users := ⟨[owner, stranger], by decide⟩
      sessions := Table.empty
      identities := Table.empty
      localPasswordHashes := Table.empty
      tenants := Table.empty
      tenantMemberships := Table.empty
      auditEvents := [] }
  workspaces := OpenApp.Sample.storeOf [{ OpenApp.Sample.container .running with userId := owner.id }]
  workspaceTenantBindings := Table.empty

def calls : Nat → TenancyCall
  | 0 => .requireOwned "ws" owner.id
  | 1 => .requireWorkspaceAccess "ws" stranger.id
  | _ => .store (.getContainer "ws")

/-- The stranger finds no binding, and asks for one after the owner has got it. -/
def overtaken : List (Nat × TenancyChoice) :=
  [(0, .go 1), (1, .go 1), (1, .go 2), (1, .go 2), (0, .go 3), (0, .go 3), (0, .go 3), (0, .go 4), (1, .go 5)]

theorem legacyWorld_inOrder : InOrder legacyWorld where
  users := by decide
  memberships _ hmem := absurd hmem List.not_mem_nil
  bindings _ hmem := absurd hmem List.not_mem_nil

end Sample

open Sample in
/-- The owner gets in and the stranger does not, although neither found a binding. -/
theorem tenancy_isolated_legacy : ∃ c,
    exec tenancySystem (start tenancySystem legacyWorld calls) overtaken = some c ∧
      (c.prog 0).ended = true ∧ (c.prog 1).ended = true ∧
      (c.world.workspaceTenantBindings.get "ws").map WorkspaceTenantBinding.ownerId = some Sample.owner.id ∧ Isolated calls c := by
  obtain ⟨c, hrun, howner, hstranger, hbinding, hkept⟩ : ∃ c,
      exec tenancySystem (start tenancySystem legacyWorld calls) overtaken = some c ∧
      (c.prog 0).ended = true ∧ (c.prog 1).ended = true ∧
      (c.world.workspaceTenantBindings.get "ws").map WorkspaceTenantBinding.ownerId = some Sample.owner.id ∧
      OwnersKept c.events := exists_of_any (by decide +kernel)
  exact ⟨c, hrun, howner, hstranger, hbinding, tenancy_isolated calls overtaken legacyWorld_inOrder hrun hkept⟩

end OpenApp.Tenancy
