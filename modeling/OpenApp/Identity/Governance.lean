import OpenApp.Identity.Memory

/-!
# Who governs

A super admin governs the roles. There is always one, nobody governs their own role, and a user with a role in
the management can always log in with a password.
-/

namespace OpenApp.Identity

open Keyed

/-- The operations that write users, roles and passwords. -/
inductive GovernanceCall
  | createManagedLocalUser (input : ManagedLocalUserCreateInput)
  | changeUserRole (input : UserRoleChangeInput)
  | createLocalUser (email passwordHash : String)
  | findOrCreateUser (email : String) (preferredId provider : Option String)
  | createLocalPasswordHash (userId passwordHash : String)
  | replaceLocalPasswordHash (userId expectedHash passwordHash : String)

/-- What a call returns. -/
inductive Returned
  | user (user : Option User)
  | written (written : Bool)
  deriving DecidableEq

namespace GovernanceCall

/-- Who asks for it. -/
def actor : GovernanceCall → Option String
  | createManagedLocalUser input => some input.actorUserId
  | changeUserRole input => some input.actorUserId
  | _ => none

/-- The user whose password a call writes. -/
def passwordOf : GovernanceCall → Option String
  | createLocalPasswordHash userId _ => some userId
  | replaceLocalPasswordHash userId _ _ => some userId
  | _ => none

/-- The call with the id a new user gets and the time. -/
def perform (s : MemoryStore) (id : String) (now : Timestamp) : GovernanceCall → Outcome Returned
  | createManagedLocalUser input => (s.createManagedLocalUser input id now).map .user
  | changeUserRole input => (s.changeUserRole input).map .user
  | createLocalUser email passwordHash => (s.createLocalUser email passwordHash id now).map .user
  | findOrCreateUser email preferredId provider =>
    (s.findOrCreateUser email preferredId provider id now).map fun user => .user (some user)
  | createLocalPasswordHash userId passwordHash => (s.createLocalPasswordHash userId passwordHash).map .written
  | replaceLocalPasswordHash userId expectedHash passwordHash =>
    (s.replaceLocalPasswordHash userId expectedHash passwordHash).map .written

end GovernanceCall

namespace MemoryStore

variable (s : MemoryStore)

def roleOf (userId : String) : Option UserRole :=
  (s.users.get userId).map User.role

def hasLocalCredential (userId : String) : Prop :=
  (s.localPasswordHashes.get userId).isSome = true

/-- A random id is nowhere in the store. -/
structure Unused (id : String) : Prop where
  users : ∀ user ∈ s.users.rows, user.id ≠ id
  localPasswordHashes : ∀ credential ∈ s.localPasswordHashes.rows, credential.userId ≠ id
  identities : ∀ identity ∈ s.identities.rows, identity.userId ≠ id
  sessions : ∀ session ∈ s.sessions.rows, session.userId ≠ id

/-- Somebody governs, and everybody in the management has a password. -/
structure Governed : Prop where
  superAdmin : ∃ userId, s.roleOf userId = some .superAdmin
  credentials : ∀ userId role, s.roleOf userId = some role → isManagementRole role = true → s.hasLocalCredential userId

end MemoryStore

/-! ## Runs -/

/-- A call with the store before it, what it returned or threw and the store it left. -/
structure GovernanceStep where
  before : MemoryStore
  call : GovernanceCall
  result : Except IdentityFailure Returned
  after : MemoryStore

/-- The calls of a run, the latest first, from one store to another; every new user gets an id that is nowhere. -/
inductive GovernanceRun (start : MemoryStore) : List GovernanceStep → MemoryStore → Prop
  | start : GovernanceRun start [] start
  | step {steps s} (run : GovernanceRun start steps s) (call : GovernanceCall) (id : String) (now : Timestamp)
      (unused : s.Unused id) :
      GovernanceRun start (⟨s, call, (call.perform s id now).1, (call.perform s id now).2⟩ :: steps)
        (call.perform s id now).2

/-- A call wrote a password: it says so, or there is another one than before. -/
def GovernanceStep.WritesPassword (step : GovernanceStep) (userId : String) : Prop :=
  step.after.localPasswordHashes.get userId ≠ step.before.localPasswordHashes.get userId ∨
    step.result = .ok (.written true) ∧ step.call.passwordOf = some userId

/-- What every call keeps to. -/
structure GovernanceStep.Lawful (step : GovernanceStep) : Prop where
  /-- only a super admin gives a role in the management, or takes one -/
  management : ∀ userId, step.after.roleOf userId ≠ step.before.roleOf userId →
    (step.before.roleOf userId).any isManagementRole = true ∨ (step.after.roleOf userId).any isManagementRole = true →
    ∃ actor, step.call.actor = some actor ∧ step.before.roleOf actor = some .superAdmin
  /-- nobody changes the own role -/
  own : ∀ actor, step.call.actor = some actor → step.after.roleOf actor = step.before.roleOf actor
  /-- a call that throws changes nothing -/
  thrown : ∀ e, step.result = .error e → step.after.users = step.before.users ∧
    step.after.localPasswordHashes = step.before.localPasswordHashes ∧
    step.after.identities = step.before.identities ∧ step.after.sessions = step.before.sessions
  /-- a password that is written ends the sessions of its user -/
  sessions : ∀ userId, step.WritesPassword userId → ∀ session ∈ step.after.sessions.rows, session.userId ≠ userId

/-! ## What a call does -/

/-- Everything a call may do to the store, up to what it records. -/
inductive GovernanceChange (s : MemoryStore) (call : GovernanceCall) :
    Except IdentityFailure Returned → MemoryStore → Prop
  | kept (r) (hunwritten : r ≠ .ok (.written true)) : GovernanceChange s call r s
  | renamed (user : User) (email : String) (there : s.users.get user.id = some user) (unasked : call.actor = none) :
      GovernanceChange s call (.ok (.user (some { user with email := email })))
        { s with users := s.users.put { user with email := email } }
  | linked (user : User) (identity : IdentityEntry) :
      GovernanceChange s call (.ok (.user (some user))) { s with identities := s.identities.put identity }
  | found (user : User) (identity : IdentityEntry) (plain : user.role = .user) (unused : s.Unused user.id)
      (unasked : call.actor = none) :
      GovernanceChange s call (.ok (.user (some user)))
        { s with users := s.users.put user, identities := s.identities.put identity }
  | created (user : User) (passwordHash : String) (events : List AuditEvent) (unused : s.Unused user.id)
      (allowed : isManagementRole user.role = true →
        ∃ actor, call.actor = some actor ∧ s.roleOf actor = some .superAdmin)
      (known : ∀ actor, call.actor = some actor → (s.users.get actor).isSome = true) :
      GovernanceChange s call (.ok (.user (some user))) { s.addLocalUser user passwordHash with auditEvents := events }
  | password (user : User) (passwordHash : String) (there : s.users.get user.id = some user)
      (asked : call.passwordOf = some user.id) :
      GovernanceChange s call (.ok (.written true)) (s.putLocalPasswordHash user passwordHash)
  | role (target : User) (role : UserRole) (events : List AuditEvent) {actor : String} (asked : call.actor = some actor)
      (governs : s.roleOf actor = some .superAdmin) (other : actor ≠ target.id)
      (there : s.users.get target.id = some target) (before : MemoryStore)
      (credential : before = s ∧ (role = .user ∨ s.hasLocalCredential target.id) ∨
        ∃ passwordHash, before = s.putLocalPasswordHash target passwordHash) :
      GovernanceChange s call (.ok (.user (some { target with role := role })))
        { before with users := before.users.put { target with role := role }, auditEvents := events }

section Change

open MemoryStore

variable {s : MemoryStore} {id : String} {now : Timestamp} {call : GovernanceCall}

theorem threw_change (e : IdentityFailure) : GovernanceChange s call (.error e) s :=
  .kept _ nofun

theorem kept_change (user : Option User) : GovernanceChange s call (.ok (.user user)) s :=
  .kept _ nofun

theorem unwritten_change : GovernanceChange s call (.ok (.written false)) s :=
  .kept _ nofun

theorem writeLocalPasswordHash_change {userId passwordHash : String} {requireExisting : Bool}
    (hcall : call.passwordOf = some userId) :
    GovernanceChange s call ((s.writeLocalPasswordHash userId passwordHash requireExisting).map .written).1
      (s.writeLocalPasswordHash userId passwordHash requireExisting).2 := by
  unfold writeLocalPasswordHash
  cases hget : s.users.get userId with
  | none => exact threw_change _
  | some user =>
    obtain rfl := Table.key_of_get hget
    dsimp only
    split
    · exact unwritten_change
    · exact .password user passwordHash hget hcall

theorem replaceLocalPasswordHash_change {userId expectedHash passwordHash : String}
    (hcall : call.passwordOf = some userId) :
    GovernanceChange s call ((s.replaceLocalPasswordHash userId expectedHash passwordHash).map .written).1
      (s.replaceLocalPasswordHash userId expectedHash passwordHash).2 := by
  unfold replaceLocalPasswordHash
  split
  · exact unwritten_change
  · exact writeLocalPasswordHash_change hcall

theorem findOrCreateUser_change {email : String} {preferredId provider : Option String} (hcall : call.actor = none)
    (hunused : s.Unused id) :
    GovernanceChange s call ((s.findOrCreateUser email preferredId provider id now).map fun user => .user (some user)).1
      (s.findOrCreateUser email preferredId provider id now).2 := by
  unfold findOrCreateUser
  dsimp only
  cases s.identities.get _ with
  | some entry =>
    dsimp only
    cases hget : s.users.get entry.userId with
    | none => exact threw_change _
    | some user =>
      have hkey := Table.key_of_get hget
      exact .renamed user (normalizeEmail email) (hkey ▸ hget) hcall
  | none =>
    dsimp only
    cases s.userWithEmail (normalizeEmail email) with
    | some existing => exact .linked existing _
    | none => exact .found _ _ rfl hunused hcall

theorem createLocalUser_change {email passwordHash : String} (hcall : call.actor = none) (hunused : s.Unused id) :
    GovernanceChange s call ((s.createLocalUser email passwordHash id now).map .user).1
      (s.createLocalUser email passwordHash id now).2 := by
  unfold createLocalUser
  dsimp only
  split
  · exact kept_change none
  · refine .created _ passwordHash s.auditEvents hunused ?_ ?_
    · intro hmanagement
      cases hmanagement
    · intro actor hactor
      rw [hcall] at hactor
      cases hactor

theorem assertCanCreateManagedUser_ok {actorRole : Option UserRole} {role : UserRole}
    (h : assertCanCreateManagedUser actorRole role = .ok ()) :
    actorRole.isSome = true ∧ (isManagementRole role = true → actorRole = some .superAdmin) := by
  unfold assertCanCreateManagedUser at h
  split at h
  · cases h
  · next hactor =>
    split at h
    · cases h
    · next hsuper =>
      constructor
      · cases actorRole with
        | none => exact absurd rfl hactor
        | some role => rfl
      · intro hmanagement
        by_contra hnot
        apply hsuper
        refine ⟨?_, hnot⟩
        rintro rfl
        cases hmanagement

theorem createManagedLocalUser_change {input : ManagedLocalUserCreateInput} (hcall : call.actor = some input.actorUserId)
    (hunused : s.Unused id) :
    GovernanceChange s call ((s.createManagedLocalUser input id now).map .user).1
      (s.createManagedLocalUser input id now).2 := by
  unfold createManagedLocalUser
  dsimp only
  cases hassert : assertCanCreateManagedUser ((s.users.get input.actorUserId).map User.role) input.role with
  | error e => exact threw_change _
  | ok _ =>
    obtain ⟨hsome, hsuper⟩ := assertCanCreateManagedUser_ok hassert
    dsimp only
    split
    · exact kept_change none
    · refine .created _ input.passwordHash _ hunused ?_ ?_
      · exact fun hmanagement => ⟨_, hcall, hsuper hmanagement⟩
      · intro actor hactor
        rw [hcall] at hactor
        cases hactor
        rwa [Option.isSome_map] at hsome

/-- How a password that a role needs is written. -/
theorem requireLocalCredential_ok {target : User} {passwordHash : Option String} {after : MemoryStore}
    (hthere : s.users.get target.id = some target) (h : s.requireLocalCredential target passwordHash = (.ok (), after)) :
    after = s ∧ s.hasLocalCredential target.id ∨ ∃ passwordHash, after = s.putLocalPasswordHash target passwordHash := by
  unfold requireLocalCredential at h
  dsimp only at h
  split at h
  · next hash hhash =>
    split at h
    · cases h
    · unfold writeLocalPasswordHash at h
      rw [hthere] at h
      dsimp only at h
      split at h
      · next heq =>
        split at heq
        · cases heq
        · cases heq
          cases h
          exact .inr ⟨hash, rfl⟩
      · cases h
      · cases h
  · split at h
    · next hcredential =>
      cases h
      exact .inl ⟨rfl, hcredential⟩
    · cases h

/-- Where no password can be written, nothing is. -/
theorem requireLocalCredential_error {target : User} {passwordHash : Option String} {after : MemoryStore}
    {e : IdentityFailure} (h : s.requireLocalCredential target passwordHash = (.error e, after)) : after = s := by
  unfold requireLocalCredential writeLocalPasswordHash at h
  dsimp only at h
  split at h
  · split at h
    · cases h
      rfl
    · split at h
      · cases h
      · next heq =>
        cases h
        split at heq
        · cases heq
        · split at heq <;> cases heq
          rfl
      · next heq =>
        cases h
        split at heq
        · cases heq
          rfl
        · split at heq <;> cases heq
  · split at h <;> cases h
    rfl

theorem changeUserRole_change {input : UserRoleChangeInput} (hcall : call.actor = some input.actorUserId) :
    GovernanceChange s call ((s.changeUserRole input).map .user).1 (s.changeUserRole input).2 := by
  unfold changeUserRole
  cases hactor : s.users.get input.actorUserId with
  | none => exact threw_change _
  | some actor =>
    dsimp only
    cases hassert : assertCanGovernUserRoles (some actor.role) with
    | error e => exact threw_change _
    | ok _ =>
      have hsuper : s.roleOf input.actorUserId = some .superAdmin := by
        unfold assertCanGovernUserRoles at hassert
        split at hassert
        · cases hassert
        · next heq =>
          unfold roleOf
          rw [hactor]
          exact not_ne_iff.1 heq
      dsimp only
      cases htarget : s.users.get input.targetUserId with
      | none => exact kept_change none
      | some target =>
        have hthere : s.users.get target.id = some target := Table.key_of_get htarget ▸ htarget
        dsimp only
        split
        · exact threw_change _
        · next hself =>
          have hother : input.actorUserId ≠ target.id := Table.key_of_get hactor ▸ hself
          split
          · exact threw_change _
          · split
            · exact kept_change _
            · split
              · exact threw_change _
              · split
                · next hplain => exact .role target input.role _ hcall hsuper hother hthere s (.inl ⟨rfl, .inl hplain⟩)
                · cases hrequire : s.requireLocalCredential target input.passwordHash with
                  | mk result after =>
                    cases result with
                    | error e =>
                      rw [requireLocalCredential_error hrequire]
                      exact threw_change _
                    | ok _ =>
                      have hcredential : after = s ∧ (input.role = .user ∨ s.hasLocalCredential target.id) ∨
                          ∃ passwordHash, after = s.putLocalPasswordHash target passwordHash :=
                        (requireLocalCredential_ok hthere hrequire).imp_left fun hkept => ⟨hkept.1, .inr hkept.2⟩
                      exact .role target input.role _ hcall hsuper hother hthere after hcredential

theorem perform_change (hunused : s.Unused id) :
    GovernanceChange s call (call.perform s id now).1 (call.perform s id now).2 := by
  cases call with
  | createManagedLocalUser input => exact createManagedLocalUser_change rfl hunused
  | changeUserRole input => exact changeUserRole_change rfl
  | createLocalUser email passwordHash => exact createLocalUser_change rfl hunused
  | findOrCreateUser email preferredId provider => exact findOrCreateUser_change rfl hunused
  | createLocalPasswordHash userId passwordHash => exact writeLocalPasswordHash_change rfl
  | replaceLocalPasswordHash userId expectedHash passwordHash => exact replaceLocalPasswordHash_change rfl

/-! ## What every call keeps -/

variable {r : Except IdentityFailure Returned} {s' : MemoryStore}

theorem roleOf_put {users : Table User.id} {user : User} {userId : String} :
    ((users.put user).get userId).map User.role = if userId = user.id then some user.role else (users.get userId).map User.role := by
  rw [Table.get_put]
  split <;> rfl

theorem MemoryStore.Unused.get_none (h : s.Unused id) : s.users.get id = none := by
  cases hget : s.users.get id with
  | none => rfl
  | some user =>
    obtain ⟨hmem, hid⟩ := Table.get_eq_some.1 hget
    exact absurd hid (h.users user hmem)

/-- Who had a password has one. -/
theorem GovernanceChange.credential (h : GovernanceChange s call r s') {userId : String} (hhas : s.hasLocalCredential userId) :
    s'.hasLocalCredential userId := by
  have hput : ∀ credential : LocalCredential,
      ((s.localPasswordHashes.put credential).get userId).isSome = true := by
    intro credential
    rw [Table.get_put]
    split
    · rfl
    · exact hhas
  cases h with
  | kept | renamed | linked | found => exact hhas
  | created | password => exact hput _
  | role target role events asked governs other there before credential =>
    rcases credential with ⟨rfl, -⟩ | ⟨passwordHash, rfl⟩
    · exact hhas
    · exact hput _

/-- The roles after a call. -/
inductive RoleChange (s : MemoryStore) (call : GovernanceCall) (s' : MemoryStore) : Prop
  | same (roles : ∀ userId, s'.roleOf userId = s.roleOf userId)
  | given (userId : String) (role : UserRole)
      (roles : ∀ other, s'.roleOf other = if other = userId then some role else s.roleOf other)
      (asker : ∀ actor, call.actor = some actor → actor ≠ userId)
      (management : isManagementRole role = true ∨ (s.roleOf userId).any isManagementRole = true →
        ∃ actor, call.actor = some actor ∧ s.roleOf actor = some .superAdmin)
      (credential : isManagementRole role = true → s'.hasLocalCredential userId)

theorem GovernanceChange.roles (h : GovernanceChange s call r s') : RoleChange s call s' := by
  cases h with
  | kept | linked | password => exact .same fun _ => rfl
  | renamed user email there unasked =>
    apply RoleChange.same
    intro userId
    rw [MemoryStore.roleOf, MemoryStore.roleOf, roleOf_put]
    split
    · next heq =>
      rw [show userId = user.id from heq, there]
      rfl
    · rfl
  | found user identity plain unused unasked =>
    refine .given user.id .user (fun other => plain ▸ roleOf_put) ?_ ?_ fun h => absurd h Bool.false_ne_true
    · intro actor hactor
      rw [unasked] at hactor
      cases hactor
    · rintro (hmanagement | hmanagement)
      · cases hmanagement
      · rw [MemoryStore.roleOf, unused.get_none] at hmanagement
        cases hmanagement
  | created user passwordHash events unused allowed known =>
    refine .given user.id user.role (fun other => roleOf_put) ?_ ?_ ?_
    · rintro actor hactor rfl
      have hsome := known _ hactor
      rw [unused.get_none] at hsome
      cases hsome
    · rintro (hmanagement | hmanagement)
      · exact allowed hmanagement
      · rw [MemoryStore.roleOf, unused.get_none] at hmanagement
        cases hmanagement
    · intro _
      exact congrArg Option.isSome (Table.get_put_self s.localPasswordHashes ⟨user.id, passwordHash⟩)
  | @role target role events actor asked governs other there before credential =>
    have husers : before.users = s.users := by
      rcases credential with ⟨rfl, -⟩ | ⟨passwordHash, rfl⟩ <;> rfl
    refine .given target.id role ?_ ?_ (fun _ => ⟨actor, asked, governs⟩) ?_
    · intro userId
      unfold MemoryStore.roleOf
      rw [← husers]
      exact roleOf_put
    · rintro asker hasker rfl
      rw [asked] at hasker
      exact other (Option.some.inj hasker)
    · intro hmanagement
      rcases credential with ⟨rfl, hplain | hhas⟩ | ⟨passwordHash, rfl⟩
      · rw [hplain] at hmanagement
        cases hmanagement
      · exact hhas
      · exact congrArg Option.isSome (Table.get_put_self s.localPasswordHashes ⟨target.id, passwordHash⟩)

/-- What a call leaves is governed. -/
theorem GovernanceChange.governed (h : GovernanceChange s call r s') (hs : s.Governed) : s'.Governed := by
  cases h.roles with
  | same roles =>
    constructor
    · obtain ⟨userId, hrole⟩ := hs.superAdmin
      exact ⟨userId, (roles userId).trans hrole⟩
    · intro userId role hrole hmanagement
      exact h.credential (hs.credentials userId role ((roles userId).symm.trans hrole) hmanagement)
  | given target role roles asker management credential =>
    constructor
    · obtain ⟨userId, hrole⟩ := hs.superAdmin
      by_cases htarget : userId = target
      · -- a super admin whose role was changed was not the one who asked
        subst htarget
        obtain ⟨actor, hactor, hgoverns⟩ := management (.inr (by rw [hrole]; rfl))
        refine ⟨actor, ?_⟩
        rw [roles, if_neg (asker actor hactor)]
        exact hgoverns
      · refine ⟨userId, ?_⟩
        rw [roles, if_neg htarget]
        exact hrole
    · intro userId role' hrole hmanagement
      rw [roles] at hrole
      split at hrole
      · next heq =>
        cases hrole
        exact heq ▸ credential hmanagement
      · exact h.credential (hs.credentials userId role' hrole hmanagement)

/-- A password that is written ends the sessions of its user. -/
theorem GovernanceChange.sessions (h : GovernanceChange s call r s') {userId : String}
    (hwrites : (⟨s, call, r, s'⟩ : GovernanceStep).WritesPassword userId) :
    ∀ session ∈ s'.sessions.rows, session.userId ≠ userId := by
  have hkeep : ∀ session ∈ (s.sessions.keep fun session => session.userId ≠ userId).rows, session.userId ≠ userId := by
    intro session hmem
    simpa using (List.mem_filter.1 hmem).2
  have hother : ∀ {user : User} {passwordHash : String}, userId ≠ user.id →
      (s.localPasswordHashes.put ⟨user.id, passwordHash⟩).get userId = s.localPasswordHashes.get userId := by
    intro user passwordHash hne
    exact Table.get_put_of_ne _ _ hne
  cases h with
  | kept r hunwritten =>
    rcases hwrites with hne | ⟨hwritten, -⟩
    · exact absurd rfl hne
    · exact absurd hwritten hunwritten
  | renamed | linked | found =>
    rcases hwrites with hne | ⟨hwritten, -⟩
    · exact absurd rfl hne
    · cases hwritten
  | created user passwordHash events unused allowed known =>
    -- nobody has a session of a user that is new
    have huser : userId = user.id := by
      rcases hwrites with hne | ⟨hwritten, -⟩
      · by_contra hdifferent
        exact hne (hother hdifferent)
      · cases hwritten
    rw [huser]
    exact unused.sessions
  | password user passwordHash there asked =>
    have huser : userId = user.id := by
      rcases hwrites with hne | ⟨-, htarget⟩
      · by_contra hdifferent
        exact hne (hother hdifferent)
      · exact Option.some.inj (htarget.symm.trans asked)
    rw [huser] at hkeep
    rw [huser]
    exact hkeep
  | @role target role events actor asked governs other there before credential =>
    rcases hwrites with hne | ⟨hwritten, -⟩
    · rcases credential with ⟨rfl, -⟩ | ⟨passwordHash, rfl⟩
      · exact absurd rfl hne
      · have huser : userId = target.id := by
          by_contra hdifferent
          exact hne (hother hdifferent)
        rw [huser] at hkeep
        rw [huser]
        exact hkeep
    · cases hwritten

theorem GovernanceChange.lawful (h : GovernanceChange s call r s') : (⟨s, call, r, s'⟩ : GovernanceStep).Lawful where
  management := by
    intro userId hne hmanagement
    dsimp only at hne hmanagement ⊢
    cases h.roles with
    | same roles => exact absurd (roles userId) hne
    | given target role roles asker management credential =>
      by_cases htarget : userId = target
      · rw [roles, if_pos htarget] at hmanagement
        subst htarget
        exact management hmanagement.symm
      · rw [roles, if_neg htarget] at hne
        exact absurd rfl hne
  own := by
    intro actor hactor
    dsimp only at hactor ⊢
    cases h.roles with
    | same roles => exact roles actor
    | given target role roles asker management credential => rw [roles, if_neg (asker actor hactor)]
  thrown := by
    intro e he
    dsimp only at he ⊢
    cases h with
    | kept => exact ⟨rfl, rfl, rfl, rfl⟩
    | _ => cases he
  sessions := fun _ hwrites => h.sessions hwrites

end Change

/-! ## What every run keeps -/

/-- In every run from a store that is governed every call is lawful, and the store stays governed. -/
theorem governed_of_run {start s : MemoryStore} {steps : List GovernanceStep} (run : GovernanceRun start steps s)
    (h : start.Governed) : s.Governed ∧ ∀ step ∈ steps, step.Lawful ∧ step.after.Governed := by
  induction run with
  | start => exact ⟨h, fun step hmem => absurd hmem List.not_mem_nil⟩
  | step run call id now unused ih =>
    obtain ⟨hgoverned, hsteps⟩ := ih
    have hchange := @perform_change _ id now call unused
    have hafter := hchange.governed hgoverned
    refine ⟨hafter, ?_⟩
    intro step hstep
    rcases List.mem_cons.1 hstep with rfl | hmem
    · exact ⟨hchange.lawful, hafter⟩
    · exact hsteps step hmem

/-- A store with one super admin. -/
def rootStore : MemoryStore where
  defaultAuthProvider := "external"
  users := Table.empty.put ⟨"u0", "root@example.org", .superAdmin, 0, none⟩
  sessions := .empty
  identities := Table.empty.put ⟨"local:root@example.org", "u0"⟩
  localPasswordHashes := Table.empty.put ⟨"u0", "h0"⟩
  tenants := .empty
  tenantMemberships := .empty
  auditEvents := []

/-- The super admin makes another one. -/
def secondAdmin : GovernanceCall :=
  .createManagedLocalUser ⟨"u0", "second@example.org", "h1", .superAdmin⟩

theorem rootStore_governed : rootStore.Governed where
  superAdmin := ⟨"u0", rfl⟩
  credentials := by
    intro userId role hrole _
    have hkey : userId = "u0" := by
      obtain ⟨user, hget, -⟩ := Option.map_eq_some_iff.1 hrole
      obtain ⟨hmem, rfl⟩ := Table.get_eq_some.1 hget
      rw [List.mem_singleton.1 hmem]
    rw [hkey]
    rfl

theorem secondAdmin_governed :
    (secondAdmin.perform rootStore "u1" 1).2.Governed ∧
      ∀ step ∈ ([⟨rootStore, secondAdmin, (secondAdmin.perform rootStore "u1" 1).1,
        (secondAdmin.perform rootStore "u1" 1).2⟩] : List GovernanceStep), step.Lawful ∧ step.after.Governed := by
  have unused : rootStore.Unused "u1" := by
    constructor <;> decide
  exact governed_of_run (.step .start secondAdmin "u1" 1 unused) rootStore_governed

end OpenApp.Identity
