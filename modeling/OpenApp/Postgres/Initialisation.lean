import OpenApp.Postgres.Runs

/-!
# Repeating the initialisation

Every start of a Portal runs the script on the database it finds. On a database that was initialised
before it changes nothing but the tenants, unless a Workspace is deleted: a tombstone has no active
execution, so the back-fill takes it for a row of an older table, gives it one, and the check on
deletions refuses that row.
-/

namespace OpenApp

open Sql Sql.Truth Script

/-! ## The script on an initialised database -/

/-- A table is its schema with its rows. -/
theorem eq_schema {Col : Type} {t s : Table Col} (h : t.schema = s) : t = { s with rows := t.rows } := by
  subst h
  rfl

theorem required_of_schema {Col : Type} {t s : Table Col} (h : t.schema = s) : t.required = s.required := by
  rw [eq_schema h]

theorem checks_of_schema {Col : Type} {t s : Table Col} (h : t.schema = s) : t.checks = s.checks := by
  rw [eq_schema h]

section Script

theorem initializeUsers_again {t : Table UserColumn} (h : t.schema = usersTable) : initializeUsers t = .ok t := by
  rw [eq_schema h]
  rfl

theorem initializeAppVersions_again {t : Table AppVersionColumn} (h : t.schema = appVersionsSchema) :
    initializeAppVersions t = .ok t := by
  rw [eq_schema h]
  rfl

/-- The check that is dropped and added again is the last one. -/
theorem initializeUpgradeRollouts_again {t : Table UpgradeRolloutColumn} (h : t.schema = upgradeRolloutsTable)
    (hsound : t.Sound) : initializeUpgradeRollouts t = .ok t := by
  have hkind : UpgradeRolloutColumn.taskKind ∈ t.required := by
    rw [required_of_schema h]
    decide
  have hcheck : upgradeRolloutsTaskKindCheck ∈ t.checks := by
    rw [checks_of_schema h]
    exact List.mem_cons_of_mem _ List.mem_cons_self
  have hcolumns : ((((t.createIfNotExists upgradeRolloutsTable).addColumn .upgrading (.int 0)).addColumn
      .needsAttention (.int 0)).addColumn .superseded (.int 0)).addColumn .taskKind (.text "image_upgrade") = t := by
    rw [eq_schema h]
    rfl
  unfold initializeUpgradeRollouts
  simp only [hcolumns]
  rw [Table.updateWhere_none fun r hr hnull => (hsound r hr).required _ hkind (holds_isNull.1 hnull)]
  change (t.setNotNull .taskKind >>= _) = _
  rw [hsound.setNotNull hkind]
  have hpasses : ∀ r ∈ t.rows, Passes (upgradeRolloutsTaskKindCheck.condition r) := fun r hr =>
    (hsound r hr).checks _ hcheck
  rw [eq_schema h]
  refine (Table.addCheck_ok ?_).trans rfl
  exact hpasses

theorem initializeUpgradeRolloutItems_again {t : Table UpgradeRolloutItemColumn}
    (h : t.schema = upgradeRolloutItemsTable) (hsound : t.Sound) : initializeUpgradeRolloutItems t = .ok t := by
  have hcheck : upgradeRolloutItemsStatusCheck ∈ t.checks := by
    rw [checks_of_schema h]
    exact List.mem_cons_of_mem _ (List.mem_cons_of_mem _ List.mem_cons_self)
  have hpasses : ∀ r ∈ t.rows, Passes (upgradeRolloutItemsStatusCheck.condition r) := fun r hr =>
    (hsound r hr).checks _ hcheck
  rw [eq_schema h]
  unfold initializeUpgradeRolloutItems
  refine (Table.addCheck_ok ?_).trans rfl
  exact hpasses

theorem initializeInstanceUpgradeDrains_again {t : Table InstanceUpgradeDrainColumn}
    (h : t.schema = instanceUpgradeDrainsTable) (hsound : t.Sound) : initializeInstanceUpgradeDrains t = .ok t := by
  have hattempt : InstanceUpgradeDrainColumn.attemptId ∈ t.required := by
    rw [required_of_schema h]
    decide
  have hcolumn : (t.createIfNotExists instanceUpgradeDrainsTable).addColumn .attemptId .null = t := by
    rw [eq_schema h]
    rfl
  unfold initializeInstanceUpgradeDrains
  simp only [hcolumn]
  rw [Table.updateWhere_none fun r hr hnull => (hsound r hr).required _ hattempt (holds_isNull.1 hnull)]
  exact hsound.setNotNull hattempt

theorem setRequired_again {t : Table ContainerColumn} (h : t.schema = containersSchema) (hsound : t.Sound) :
    setRequired t = .ok t := by
  have hset : ∀ c ∈ containersSchema.required, t.setNotNull c = .ok t := by
    intro c hc
    refine hsound.setNotNull ?_
    rw [required_of_schema h]
    exact hc
  have hdrop : t.dropNotNull .activeExecutionId = t := by
    refine Table.dropNotNull_there ?_
    rw [required_of_schema h]
    decide
  simp (disch := decide) only [setRequired, hset, hdrop, bind, Except.bind]

/-! ### The back-fill -/

/-- Of the columns the back-fill looks at, a projection leaves out only the active execution. -/
theorem needsBackfill_written {p : WorkspaceExecutionProjection} :
    Holds (needsBackfill (written p)) ↔ p.workspace.activeExecutionId = none := by
  have hexecution : written p .activeExecutionId = .ofText p.workspace.activeExecutionId := rfl
  have hnull : Value.ofText p.workspace.activeExecutionId = .null ↔ p.workspace.activeExecutionId = none := by
    cases p.workspace.activeExecutionId <;> simp
  unfold needsBackfill
  rw [holds_any]
  simp only [List.mem_cons, List.not_mem_nil, or_false, exists_eq_or_imp, exists_eq_left, holds_isNull, hexecution, hnull]
  simp [written, containerWriteValues]

/-- Nothing but a tombstone is without an active execution. -/
theorem deleted_iff {p : WorkspaceExecutionProjection} (h : Projectable p) :
    p.workspace.activeExecutionId = none ↔ p.workspace.status = .deleted := by
  constructor
  · intro hnone
    rcases h.shape with a | d
    · rw [a.execution] at hnone
      cases hnone
    · exact d.deleted
  · intro hdeleted
    exact (h.shape.resolve_left fun a => a.live hdeleted).execution

theorem status_deleted_iff {p : WorkspaceExecutionProjection} :
    written p .workspaceStatus = .text "deleted" ↔ p.workspace.status = .deleted := by
  change Value.text p.workspace.status.text = _ ↔ _
  cases p.workspace.status <;> decide

/-- With an execution a tombstone is none of the three things a row may be. -/
theorem backfill_not_admitted {p : WorkspaceExecutionProjection} (h : p.workspace.status = .deleted) :
    ¬ containersSchema.Admits (backfill (written p)) := by
  intro hadmits
  have hcheck := hadmits.checks containersWorkspaceDeletionCheck (by
    exact List.mem_cons_of_mem _ (List.mem_cons_of_mem _ (List.mem_cons_of_mem _ List.mem_cons_self)))
  have hstatus : backfill (written p) .workspaceStatus = .text "deleted" := by
    change (Value.text p.workspace.status.text).coalesce (.text "active") = _
    rw [h]
    rfl
  have hexecution : ∃ id, backfill (written p) .activeExecutionId = .text id := by
    change ∃ id, (Value.ofText p.workspace.activeExecutionId).coalesce (.text (p.workspace.id ++ ":docker")) = .text id
    cases p.workspace.activeExecutionId with
    | none => exact ⟨_, rfl⟩
    | some id => exact ⟨id, rfl⟩
  obtain ⟨id, hid⟩ := hexecution
  obtain ⟨t, ht, hpasses⟩ := passes_any.1 hcheck
  simp only [List.mem_cons, List.not_mem_nil, or_false] at ht
  rcases ht with rfl | rfl | rfl
  · have := passes_all.1 hpasses _ List.mem_cons_self
    rw [hstatus] at this
    exact absurd this (by decide)
  · have := passes_all.1 hpasses _ List.mem_cons_self
    rw [hstatus] at this
    exact absurd this (by decide)
  · have := passes_all.1 hpasses ((backfill (written p) .activeExecutionId).isNull) (by simp)
    rw [hid] at this
    simp [Passes, Value.isNull] at this

section Containers

variable {t : Table ContainerColumn}

theorem executionColumns_there (h : t.schema = containersSchema) :
    addExecutionColumns (t.createIfNotExists containersTable) = t := by
  have hcreated : t.created = true := by
    rw [eq_schema h]
    rfl
  have hcolumns : ∀ c, t.columns c = true := by
    rw [eq_schema h]
    exact fun _ => rfl
  have hfold : ∀ columns : List (ContainerColumn × Value),
      columns.foldl (fun t c => t.addColumn c.1 c.2) t = t := by
    intro columns
    induction columns with
    | nil => rfl
    | cons c columns ih =>
      rw [List.foldl_cons, Table.addColumn_there (hcolumns c.1)]
      exact ih
  rw [Table.createIfNotExists_created hcreated]
  exact hfold executionColumns

theorem sound_of_written (h : t.schema = containersSchema) (hwritten : ∀ r ∈ t.rows, Written r) : t.Sound :=
  fun r hr => (hwritten r hr).admits.of_schema h

theorem initializeContainers_again (h : t.schema = containersSchema) (hwritten : ∀ r ∈ t.rows, Written r)
    (hlive : ∀ r ∈ t.rows, r .workspaceStatus ≠ .text "deleted") : initializeContainers t = .ok t := by
  have hsound := sound_of_written h hwritten
  have hbackfill : ∀ r ∈ t.rows, ¬ Holds (needsBackfill r) := by
    intro r hr hneeds
    obtain ⟨p, hp, rfl⟩ := hwritten r hr
    exact hlive _ hr (status_deleted_iff.2 ((deleted_iff hp).1 (needsBackfill_written.1 hneeds)))
  have hmodel : ∀ r ∈ t.rows, ¬ Holds (r .executionModelVersion).isNull := by
    intro r hr hnull
    obtain ⟨p, _, rfl⟩ := hwritten r hr
    exact nomatch holds_isNull.1 hnull
  unfold initializeContainers
  rw [executionColumns_there h]
  dsimp only
  rw [Table.updateWhere_none hbackfill]
  change (t.updateWhere _ _ _ >>= _) = _
  rw [Table.updateWhere_none hmodel]
  change (setRequired t >>= _) = _
  rw [setRequired_again h hsound, eq_schema h]
  rfl

/-- The row of a deleted Workspace is what the back-fill looks for, and what it makes of it is refused. -/
theorem initializeContainers_deleted (h : t.schema = containersSchema) {r : ContainerRow} (hr : r ∈ t.rows)
    (hw : Written r) (hdeleted : r .workspaceStatus = .text "deleted") : ∃ e, initializeContainers t = .error e := by
  obtain ⟨p, hp, rfl⟩ := hw
  have hstatus := status_deleted_iff.1 hdeleted
  have hneeds := needsBackfill_written.2 ((deleted_iff hp).2 hstatus)
  have hnot : ¬ t.Admits (backfill (written p)) := by
    intro hadmits
    have hschema : containersSchema.Admits (backfill (written p)) := hadmits.of_schema h.symm
    exact backfill_not_admitted hstatus hschema
  have hrefused : ∃ e, t.updateWhere refersToNothing needsBackfill backfill = .error e :=
    Table.updateWhere_refused hr hneeds hnot
  obtain ⟨e, he⟩ := hrefused
  refine ⟨e, ?_⟩
  unfold initializeContainers
  rw [executionColumns_there h]
  dsimp only
  rw [he]
  rfl

end Containers

/-! ### The tenants -/

section Tenants

variable {t : Table TenantColumn}

/-- A tenant that takes its name from a user, or is made for one, is admitted. -/
theorem tenant_accepted {r : Row TenantColumn} (h : t.schema = tenantsTable) (hid : r .id ≠ .null)
    (hkind : r .kind ≠ .null ∧ Passes ((r .kind).isIn ["personal", "organization"])) (hname : r .name ≠ .null) :
    t.Admits r where
  required := by
    rw [required_of_schema h]
    intro c _
    cases c with
    | id => exact hid
    | kind => exact hkind.1
    | name => exact hname
  checks := by
    rw [checks_of_schema h]
    intro k hk
    rw [List.mem_singleton.1 hk]
    exact hkind.2

/-- One user more: the tenant of the user is there, and those that were there stay. -/
theorem insertPersonalTenant (h : t.schema = tenantsTable) (hsound : t.Sound) {user : Row UserColumn} {id : String}
    (hid : user .id = .text id) (hemail : user .email ≠ .null) :
    ∃ t', t.upsert refersToNothing (fun r s => r .id = s .id)
        (fun s r => fun
          | .name => r .name
          | c => s c)
        (personalTenantRow user) = .ok t' ∧
      t'.schema = tenantsTable ∧ t'.Sound ∧ t'.has .id (personalTenant (user .id)) = true ∧
      ∀ v, t.has .id v = true → t'.has .id v = true := by
  have htenant : personalTenantRow user .id ≠ .null := by
    change (user .id).concat "personal:" "" ≠ _
    rw [hid]
    exact Value.noConfusion
  unfold Table.upsert
  split
  · next hany =>
    have hmerge : ∀ s ∈ t.rows, Holds (some (decide (personalTenantRow user .id = s .id))) →
        t.Accepts refersToNothing (some s) (fun
          | .name => personalTenantRow user .name
          | c => s c) := by
      intro s hs _
      have hadmits := hsound s hs
      have hrequired := hadmits.required
      rw [required_of_schema h] at hrequired
      have hchecks := hadmits.checks
      rw [checks_of_schema h] at hchecks
      exact ⟨tenant_accepted h (hrequired .id (by decide))
        ⟨hrequired .kind (by decide), hchecks _ List.mem_cons_self⟩ hemail, rfl⟩
    have hok := Table.updateWhere_ok hmerge
    refine ⟨_, hok, (Table.schema_updateWhere hok).trans h, hsound.updateWhere hok, ?_, ?_⟩
    · obtain ⟨s, hs, hsame⟩ := List.any_eq_true.1 hany
      exact Table.has_updateWhere hok (fun _ => rfl) (Table.has_iff.2 ⟨s, hs, (of_decide_eq_true hsame).symm⟩)
    · intro v
      exact Table.has_updateWhere hok fun _ => rfl
  · next hnone =>
    have hkind : Passes ((Value.text "personal").isIn ["personal", "organization"]) := by decide
    have haccepts : t.Accepts refersToNothing none (personalTenantRow user) :=
      ⟨tenant_accepted h htenant ⟨Value.noConfusion, hkind⟩ hemail, rfl⟩
    have hok := Table.insert_ok haccepts
    refine ⟨_, hok, (Table.schema_insert hok).trans h, hsound.insert hok, ?_, ?_⟩
    · exact Table.has_iff.2 ⟨_, List.mem_append_right _ (List.mem_singleton.2 rfl), rfl⟩
    · intro v
      exact Table.has_insert hok

theorem insertPersonalTenants_ok {users : Table UserColumn} (h : t.schema = tenantsTable) (hsound : t.Sound)
    (hids : ∀ r ∈ users.rows, ∃ id, r .id = .text id) (hemails : ∀ r ∈ users.rows, r .email ≠ .null) :
    ∃ t', insertPersonalTenants users t = .ok t' ∧ t'.schema = tenantsTable ∧ t'.Sound ∧
      ∀ user ∈ users.rows, t'.has .id (personalTenant (user .id)) = true := by
  -- on the users that are still to come, with what is there by then
  have hfold : ∀ (rows : List (Row UserColumn)) (t : Table TenantColumn), t.schema = tenantsTable → t.Sound →
      (∀ r ∈ rows, ∃ id, r .id = .text id) → (∀ r ∈ rows, r .email ≠ .null) →
      ∃ t', rows.foldlM (fun t user =>
          t.upsert refersToNothing (fun r s => r .id = s .id)
            (fun s r => fun
              | .name => r .name
              | c => s c)
            (personalTenantRow user)) t = .ok t' ∧
        t'.schema = tenantsTable ∧ t'.Sound ∧
        (∀ v, t.has .id v = true → t'.has .id v = true) ∧
        ∀ user ∈ rows, t'.has .id (personalTenant (user .id)) = true := by
    intro rows
    induction rows with
    | nil => exact fun t h hsound _ _ => ⟨t, rfl, h, hsound, fun _ => id, nofun⟩
    | cons user rows ih =>
      intro t h hsound hids hemails
      obtain ⟨id, hid⟩ := hids user List.mem_cons_self
      obtain ⟨t₁, hok₁, h₁, hsound₁, hnew, hkeep₁⟩ :=
        insertPersonalTenant h hsound hid (hemails user List.mem_cons_self)
      obtain ⟨t₂, hok₂, h₂, hsound₂, hkeep₂, hall⟩ := ih t₁ h₁ hsound₁
        (fun r hr => hids r (List.mem_cons_of_mem _ hr)) fun r hr => hemails r (List.mem_cons_of_mem _ hr)
      refine ⟨t₂, ?_, h₂, hsound₂, fun v hv => hkeep₂ v (hkeep₁ v hv), ?_⟩
      · rw [List.foldlM_cons, hok₁]
        exact hok₂
      · intro r hr
        rcases List.mem_cons.1 hr with rfl | hmem
        · exact hkeep₂ _ hnew
        · exact hall r hmem
  obtain ⟨t', hok, h', hsound', _, hall⟩ := hfold users.rows t h hsound hids hemails
  exact ⟨t', hok, h', hsound', hall⟩

end Tenants

/-- Rows that are missing are put in one after the other, if each one that is new is accepted. -/
theorem insertMissing_all {Col α : Type} {references : Table.References Col} {row : α → Row Col} {s : Table Col}
    (same : Row Col → Row Col → Bool) (items : List α)
    (haccepts : ∀ a ∈ items, s.Admits (row a) ∧ references none (row a) = none) {t : Table Col} (h : t.schema = s) :
    ∃ t', items.foldlM (fun t a => t.insertMissing references same (row a)) t = .ok t' ∧ t'.schema = s := by
  induction items generalizing t with
  | nil => exact ⟨t, rfl, h⟩
  | cons a items ih =>
    have hrest := @ih fun b hb => haccepts b (List.mem_cons_of_mem _ hb)
    obtain ⟨hadmits, hreferences⟩ := haccepts a List.mem_cons_self
    rw [List.foldlM_cons]
    unfold Table.insertMissing
    split
    · exact hrest h
    · have haccept : t.Accepts references none (row a) := ⟨hadmits.of_schema (h ▸ rfl), hreferences⟩
      have hok := Table.insert_ok haccept
      rw [hok]
      exact hrest ((Table.schema_insert hok).trans h)

end Script

/-! ## The whole script -/

/-- The rows that no start may change. -/
structure KeepsRows (db db' : Database) : Prop where
  users : db'.users = db.users
  containers : db'.containers = db.containers
  appVersions : db'.appVersions = db.appVersions
  upgradeRollouts : db'.upgradeRollouts = db.upgradeRollouts
  upgradeRolloutItems : db'.upgradeRolloutItems = db.upgradeRolloutItems
  instanceActivityLeases : db'.instanceActivityLeases = db.instanceActivityLeases
  instanceUpgradeDrains : db'.instanceUpgradeDrains = db.instanceUpgradeDrains

theorem created_again {Col : Type} {t s : Table Col} (h : t.schema = s) (hcreated : s.created = true) :
    t.createIfNotExists s = t := by
  refine Table.createIfNotExists_created ?_
  rw [eq_schema h]
  exact hcreated

theorem membership_accepted {users : Table UserColumn} {tenants : Table TenantColumn} {user : Row UserColumn}
    (huser : user ∈ users.rows) {id : String} (hid : user .id = .text id)
    (htenant : tenants.has .id (personalTenant (user .id)) = true) :
    tenantMembershipsTable.Admits (personalMembershipRow user) ∧
      allOf [
        refersTo "tenant_memberships_tenant_id_fkey" .tenantId tenants .id,
        refersTo "tenant_memberships_user_id_fkey" .userId users .id] none (personalMembershipRow user) = none := by
  constructor
  · refine ⟨?_, ?_⟩
    · intro c _
      cases c with
      | tenantId =>
        change (user .id).concat "personal:" "" ≠ _
        rw [hid]
        exact Value.noConfusion
      | userId =>
        change user .id ≠ _
        rw [hid]
        exact Value.noConfusion
      | role => exact Value.noConfusion
    · intro k hk
      rw [List.mem_singleton.1 hk]
      exact (by decide : Passes ((Value.text "owner").isIn ["owner", "admin", "member"]))
  · refine allOf_none.2 fun reference hmem => ?_
    simp only [List.mem_cons, List.not_mem_nil, or_false] at hmem
    rcases hmem with rfl | rfl
    · exact refersTo_none.2 (.inr (.inr htenant))
    · exact refersTo_none.2 (.inr (.inr (Table.has_iff.2 ⟨user, huser, rfl⟩)))

theorem binding_accepted {users : Table UserColumn} {containers : Table ContainerColumn} {tenants : Table TenantColumn}
    {r : ContainerRow} (hr : r ∈ containers.rows) (hw : Written r) {user : Row UserColumn} (huser : user ∈ users.rows)
    (howner : user .id = r .userId) (htenant : tenants.has .id (personalTenant (user .id)) = true) :
    workspaceTenantBindingsTable.Admits (personalBindingRow r) ∧
      allOf [
        refersTo "workspace_tenant_bindings_workspace_id_fkey" .workspaceId containers .id,
        refersTo "workspace_tenant_bindings_tenant_id_fkey" .tenantId tenants .id,
        refersTo "workspace_tenant_bindings_owner_id_fkey" .ownerId users .id] none (personalBindingRow r) = none := by
  obtain ⟨p, _, rfl⟩ := hw
  rw [howner] at htenant
  constructor
  · refine ⟨?_, nofun⟩
    intro c _
    cases c <;> exact Value.noConfusion
  · refine allOf_none.2 fun reference hmem => ?_
    simp only [List.mem_cons, List.not_mem_nil, or_false] at hmem
    rcases hmem with rfl | rfl | rfl
    · exact refersTo_none.2 (.inr (.inr (Table.has_iff.2 ⟨_, hr, rfl⟩)))
    · exact refersTo_none.2 (.inr (.inr htenant))
    · exact refersTo_none.2 (.inr (.inr (Table.has_iff.2 ⟨user, huser, howner⟩)))

/-- Without a deleted Workspace the script goes through, and changes tenants at most. -/
theorem initializeCoreSchema_again {db : Database} (h : Initialised db)
    (hlive : ∀ r ∈ db.containers.rows, r .workspaceStatus ≠ .text "deleted") :
    ∃ db', initializeCoreSchema db = .ok db' ∧ KeepsRows db db' ∧ Initialised db' := by
  have husers : db.users.schema = usersTable := congrArg Database.users h.schema
  have hemails : ∀ r ∈ db.users.rows, r .email ≠ .null := fun r hr =>
    (h.sound.users r hr).required _ (by rw [required_of_schema husers]; decide)
  have htenants : db.tenants.schema = tenantsTable := congrArg Database.tenants h.schema
  obtain ⟨tenants, htenantsOk, htenants', htenantsSound, hpersonal⟩ :=
    insertPersonalTenants_ok htenants h.sound.tenants h.sound.ids hemails
  have hmemberships : db.tenantMemberships.schema = tenantMembershipsTable := congrArg Database.tenantMemberships h.schema
  obtain ⟨memberships, hmembershipsOk, hmemberships'⟩ :=
    insertMissing_all (fun r s => r .tenantId = s .tenantId && r .userId = s .userId) db.users.rows
      (fun user huser => by
        obtain ⟨id, hid⟩ := h.sound.ids user huser
        exact membership_accepted huser hid (hpersonal user huser)) hmemberships
  have hbindings : db.workspaceTenantBindings.schema = workspaceTenantBindingsTable :=
    congrArg Database.workspaceTenantBindings h.schema
  obtain ⟨bindings, hbindingsOk, hbindings'⟩ :=
    insertMissing_all (fun r s => r .workspaceId = s .workspaceId)
      (db.containers.rows.filter fun r => Holds (isNot (r .workspaceStatus) "deleted"))
      (fun r hr => by
        have hmem := (List.mem_filter.1 hr).1
        obtain ⟨user, huser, howner⟩ := h.owners r hmem
        exact binding_accepted hmem (h.written r hmem) huser howner (hpersonal user huser)) hbindings
  have hleases : db.instanceActivityLeases.schema = instanceActivityLeasesTable :=
    congrArg Database.instanceActivityLeases h.schema
  have hartifacts : db.imageArtifacts.schema = imageArtifactsTable := congrArg Database.imageArtifacts h.schema
  have hmembershipsOk' : insertPersonalMemberships db.users tenants db.tenantMemberships = .ok memberships :=
    hmembershipsOk
  have hbindingsOk' :
      insertPersonalBindings db.users db.containers tenants db.workspaceTenantBindings = .ok bindings := hbindingsOk
  refine ⟨{ db with
    tenants := tenants
    tenantMemberships := memberships
    workspaceTenantBindings := bindings }, ?_, ⟨rfl, rfl, rfl, rfl, rfl, rfl, rfl⟩, ?_⟩
  · simp only [initializeCoreSchema, initializeUsers_again husers,
      initializeContainers_again h.containersSchema h.written hlive,
      initializeAppVersions_again (congrArg Database.appVersions h.schema),
      initializeUpgradeRollouts_again (congrArg Database.upgradeRollouts h.schema) h.sound.upgradeRollouts,
      initializeUpgradeRolloutItems_again (congrArg Database.upgradeRolloutItems h.schema)
        h.sound.upgradeRolloutItems,
      initializeInstanceUpgradeDrains_again (congrArg Database.instanceUpgradeDrains h.schema)
        h.sound.instanceUpgradeDrains,
      created_again htenants rfl, created_again hmemberships rfl, created_again hbindings rfl,
      created_again hleases rfl, created_again hartifacts rfl, htenantsOk, hmembershipsOk', hbindingsOk', bind,
      Except.bind, pure, Except.pure]
  · refine ⟨?_, ⟨h.sound.ids, h.sound.users, htenantsSound, h.sound.upgradeRollouts, h.sound.upgradeRolloutItems,
      h.sound.instanceUpgradeDrains⟩, h.written, h.owners⟩
    rw [← h.schema]
    simp only [Database.schema, htenants, htenants', hmemberships, hmemberships', hbindings, hbindings']

/-- With one the script fails. -/
theorem initializeCoreSchema_deleted {db : Database} (h : Initialised db) {r : ContainerRow}
    (hr : r ∈ db.containers.rows) (hdeleted : r .workspaceStatus = .text "deleted") :
    ∃ e, initializeCoreSchema db = .error e := by
  obtain ⟨e, he⟩ := initializeContainers_deleted h.containersSchema hr (h.written r hr) hdeleted
  refine ⟨e, ?_⟩
  have husers : db.users.schema = usersTable := congrArg Database.users h.schema
  simp only [initializeCoreSchema, initializeUsers_again husers, he, bind, Except.bind]

theorem Reachable.invariant {db : Database} (h : Reachable db) : Initialised db := by
  induction h with
  | initialised h =>
    rw [initializeCoreSchema_empty] at h
    cases h
    exact Database.initial_initialised
  | called call _ ih => exact call.leaves_initialised ih
  | elsewhere _ e ih => exact e.initialised ih
  | @restarted db db' _ h ih =>
    by_cases hlive : ∀ r ∈ db.containers.rows, r .workspaceStatus ≠ .text "deleted"
    · obtain ⟨db'', hok, _, hinit⟩ := initializeCoreSchema_again ih hlive
      rw [h] at hok
      cases hok
      exact hinit
    · -- a start that fails leaves no other database
      simp only [not_forall, not_not] at hlive
      obtain ⟨r, hr, hdeleted⟩ := hlive
      obtain ⟨e, he⟩ := initializeCoreSchema_deleted ih hr hdeleted
      rw [h] at he
      cases he

end OpenApp
