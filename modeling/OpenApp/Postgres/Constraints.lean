import OpenApp.Postgres.Persistence

/-!
# What the schema admits

After an initialisation every table has the same constraints, whatever it was before. A row of the
Workspace table is always what some projection the code lets through is written as, and the checks
of the table admit every such row: what the code refuses and what the schema refuses agree.
-/

namespace OpenApp

open Sql Sql.Truth Script

/-! ## References -/

theorem refersTo_none {Col Col' : Type} [DecidableEq Col'] {name : String} {c : Col} {t : Table Col'} {key : Col'}
    {old : Option (Row Col)} {r : Row Col} :
    refersTo name c t key old r = none ↔ r c = .null ∨ (∃ o ∈ old, o c = r c) ∨ t.has key (r c) = true := by
  unfold refersTo
  have hold : (old.any fun o => o c = r c) = true ↔ ∃ o ∈ old, o c = r c := by
    cases old <;> simp
  rw [← hold]
  split
  · next h => exact ⟨fun _ => h, fun _ => rfl⟩
  · next h => exact ⟨fun h' => (nomatch h'), fun h' => absurd h' h⟩

theorem allOf_none {Col : Type} {references : List (Table.References Col)} {old : Option (Row Col)} {r : Row Col} :
    allOf references old r = none ↔ ∀ reference ∈ references, reference old r = none :=
  List.findSome?_eq_none_iff

/-! ## The tables an initialisation leaves -/

def containersSchema : Table ContainerColumn :=
  { containersTable with
    required := containersTable.required ++
      [.storageRefId, .deployedGeneration, .transactionStatus, .desiredState, .observedState]
    checks := [containersStatusCheck, containersStopReasonCheck, containersWorkspaceExecutionCheck,
      containersWorkspaceDeletionCheck]
    indexes := ["containers_live_user_idx"] }

def appVersionsSchema : Table AppVersionColumn :=
  { appVersionsTable with
    columns := Function.update appVersionsTable.columns .sourceKind true
    required := appVersionsTable.required ++ [.sourceKind]
    checks := [appVersionsStatusCheck, appVersionsSourceKindCheck]
    indexes := ["app_versions_active_idx", "app_versions_revision_idx"] }

def Database.initial : Database where
  users := usersTable
  containers := containersSchema
  tenants := tenantsTable
  tenantMemberships := tenantMembershipsTable
  workspaceTenantBindings := workspaceTenantBindingsTable
  appVersions := appVersionsSchema
  upgradeRollouts := upgradeRolloutsTable
  upgradeRolloutItems := upgradeRolloutItemsTable
  instanceActivityLeases := instanceActivityLeasesTable
  instanceUpgradeDrains := instanceUpgradeDrainsTable
  imageArtifacts := imageArtifactsTable

theorem initializeUsers_absent : initializeUsers .absent = .ok usersTable := by
  rfl

theorem initializeContainers_absent : initializeContainers .absent = .ok containersSchema := by
  rfl

theorem initializeAppVersions_absent : initializeAppVersions .absent = .ok appVersionsSchema := by
  rfl

theorem initializeUpgradeRollouts_absent : initializeUpgradeRollouts .absent = .ok upgradeRolloutsTable := by
  rfl

theorem initializeUpgradeRolloutItems_absent :
    initializeUpgradeRolloutItems .absent = .ok upgradeRolloutItemsTable := by
  rfl

theorem initializeInstanceUpgradeDrains_absent :
    initializeInstanceUpgradeDrains .absent = .ok instanceUpgradeDrainsTable := by
  rfl

theorem initializeCoreSchema_empty : initializeCoreSchema .empty = .ok .initial := by
  rfl

/-! ## Rows of a projection -/

/-- What a projection the code lets through is written as. -/
def written (p : WorkspaceExecutionProjection) : ContainerRow :=
  containerWriteValues (containerOf p) p

/-- A row that is what a projection the code lets through is written as. -/
def Written (r : ContainerRow) : Prop :=
  ∃ p, Projectable p ∧ r = written p

theorem containerWriteValues_project {c : Container} {p : WorkspaceExecutionProjection}
    (h : projectContainerToWorkspaceExecution c = .ok p) : containerWriteValues c p = written p := by
  unfold projectContainerToWorkspaceExecution at h
  cases hp : normalizeProviderId c.providerId with
  | error e => rw [hp] at h; cases h
  | ok providerId =>
    simp only [hp, bind, Except.bind, pure, Except.pure, Except.ok.injEq] at h
    subst h
    funext column
    cases column <;> rfl

theorem status_admitted (p : WorkspaceExecutionProjection) :
    Passes (containersStatusCheck.condition (written p)) := by
  change Passes ((Value.text p.compatibility.status.text).isIn _)
  cases p.compatibility.status <;> decide

theorem stopReason_admitted (p : WorkspaceExecutionProjection) :
    Passes (containersStopReasonCheck.condition (written p)) := by
  change Passes ((Value.ofText (p.execution.stopReason.map ContainerStopReason.text)).isIn _)
  rcases p.execution.stopReason with _ | reason
  · decide
  · cases reason <;> decide

theorem passes_le {n m : Int} (h : n ≤ m) : Passes ((Value.int n).le (.int m)) := by
  simp [Passes, Value.le, h]

/-- The inequalities of the check are those of `Projectable`. -/
theorem execution_admitted {p : WorkspaceExecutionProjection} (h : Projectable p) :
    Passes (containersWorkspaceExecutionCheck.condition (written p)) := by
  have hdeployed := h.deployed
  have hrevision := h.revision
  have hhealthy : Passes (any [
      (Value.ofNat p.execution.healthyGeneration).isNull,
      all [(Value.int 0).le (.ofNat p.execution.healthyGeneration),
        (Value.ofNat p.execution.healthyGeneration).le (.int p.execution.deployedGeneration)]]) := by
    rw [passes_any]
    cases hg : p.execution.healthyGeneration with
    | none => exact ⟨_, List.mem_cons_self, by decide⟩
    | some n =>
      have hn := h.healthy n hg
      refine ⟨_, List.mem_cons_of_mem _ List.mem_cons_self, passes_all.2 ?_⟩
      rintro t ht
      simp only [List.mem_cons, List.not_mem_nil, or_false] at ht
      rcases ht with rfl | rfl
      · exact passes_le (by omega)
      · exact passes_le (by omega)
  apply passes_all.2
  intro t ht
  simp only [List.mem_cons, List.not_mem_nil, or_false] at ht
  rcases ht with rfl | rfl | rfl | rfl | rfl | rfl | rfl | rfl | rfl | rfl
  · change Passes ((Value.text p.workspace.status.text).isIn _)
    cases p.workspace.status <;> decide
  · change Passes ((Value.text p.execution.role.text).isIn _)
    cases p.execution.role <;> decide
  · change Passes ((Value.text p.execution.transactionStatus.text).isIn _)
    cases p.execution.transactionStatus <;> decide
  · change Passes ((Value.text p.execution.desiredState.text).isIn _)
    cases p.execution.desiredState <;> decide
  · change Passes ((Value.text p.execution.observedState.text).isIn _)
    cases p.execution.observedState <;> decide
  · exact passes_le (by omega)
  · exact passes_le (by omega)
  · exact hhealthy
  · exact passes_le (by omega)
  · exact (passes_le (by omega) : Passes ((Value.int 2).le (.int 2)))

theorem passes_isNull {v : Option String} (h : v = none) : Passes (Value.ofText v).isNull := by
  subst h
  decide

theorem passes_isNotNull {v : Option String} (h : v ≠ none) : Passes (Value.ofText v).isNotNull := by
  cases v with
  | none => exact absurd rfl h
  | some value => simp [Passes, Value.isNotNull]

/-- The three cases of the check are the three of `validDeletionState`, with the shape of a tombstone. -/
theorem deletion_admitted {p : WorkspaceExecutionProjection} (h : Projectable p) :
    Passes (containersWorkspaceDeletionCheck.condition (written p)) := by
  have hstate := h.deletion
  have hstatus : written p .workspaceStatus = .text p.workspace.status.text := rfl
  unfold validDeletionState at hstate
  apply passes_any.2
  cases hs : p.workspace.status with
  | active =>
    simp only [hs, Bool.and_eq_true, Option.isNone_iff_eq_none] at hstate
    obtain ⟨⟨⟨htransaction, hphase⟩, hfailure⟩, hdeletedAt⟩ := hstate
    refine ⟨_, List.mem_cons_self, passes_all.2 ?_⟩
    intro t ht
    simp only [List.mem_cons, List.not_mem_nil, or_false] at ht
    rcases ht with rfl | rfl | rfl | rfl | rfl
    · rw [hstatus, hs]
      decide
    · exact passes_isNull htransaction
    · exact passes_isNull (by rw [hphase]; rfl)
    · exact passes_isNull hfailure
    · exact passes_isNull hdeletedAt
  | deleting =>
    simp only [hs, Bool.and_eq_true, Option.isNone_iff_eq_none] at hstate
    obtain ⟨⟨htransaction, hphase⟩, hdeletedAt⟩ := hstate
    refine ⟨_, List.mem_cons_of_mem _ List.mem_cons_self, passes_all.2 ?_⟩
    intro t ht
    simp only [List.mem_cons, List.not_mem_nil, or_false] at ht
    rcases ht with rfl | rfl | rfl | rfl
    · rw [hstatus, hs]
      decide
    · exact passes_isNotNull (by rintro hnone; simp [hnone] at htransaction)
    · change Passes ((Value.ofText (p.workspace.deletionPhase.map WorkspaceDeletionPhase.text)).isIn _)
      cases hp : p.workspace.deletionPhase with
      | none => decide
      | some phase =>
        rw [hp] at hphase
        cases phase with
        | deleted => exact absurd hphase (by decide)
        | _ => decide
    · exact passes_isNull hdeletedAt
  | deleted =>
    simp only [hs, Bool.and_eq_true] at hstate
    obtain ⟨⟨htransaction, hphase⟩, hdeletedAt⟩ := hstate
    have hshape := h.shape.resolve_left fun a => a.live hs
    refine ⟨_, List.mem_cons_of_mem _ (List.mem_cons_of_mem _ List.mem_cons_self), passes_all.2 ?_⟩
    intro t ht
    simp only [List.mem_cons, List.not_mem_nil, or_false] at ht
    rcases ht with rfl | rfl | rfl | rfl | rfl | rfl | rfl
    · rw [hstatus, hs]
      decide
    · exact passes_isNotNull (by rintro hnone; simp [hnone] at htransaction)
    · change Passes ((Value.ofText (p.workspace.deletionPhase.map WorkspaceDeletionPhase.text)).is _)
      rw [of_decide_eq_true hphase]
      decide
    · exact passes_isNotNull (by rintro hnone; simp [hnone] at hdeletedAt)
    · exact passes_isNull hshape.execution
    · change Passes ((Value.text p.execution.role.text).is _)
      rw [hshape.role]
      decide
    · exact passes_isNull hshape.environment

/-- The constraints of the table let through what the code lets through. -/
theorem written_admits {p : WorkspaceExecutionProjection} (h : Projectable p) : containersSchema.Admits (written p) where
  required := by
    intro c hc
    simp only [containersSchema, containersTable, List.cons_append, List.nil_append, List.mem_cons,
      List.not_mem_nil, or_false] at hc
    rcases hc with rfl | rfl | rfl | rfl | rfl | rfl | rfl | rfl | rfl | rfl | rfl | rfl | rfl | rfl | rfl | rfl |
      rfl | rfl | rfl <;> exact Value.noConfusion
  checks := by
    intro k hk
    simp only [containersSchema, List.mem_cons, List.not_mem_nil, or_false] at hk
    rcases hk with rfl | rfl | rfl | rfl
    · exact status_admitted p
    · exact stopReason_admitted p
    · exact execution_admitted h
    · exact deletion_admitted h

theorem Written.admits {r : ContainerRow} (h : Written r) : containersSchema.Admits r := by
  obtain ⟨p, hp, rfl⟩ := h
  exact written_admits hp

/-! ## What the store writes is a row of a projection -/

theorem Projectable.withActivity {p : WorkspaceExecutionProjection} (h : Projectable p) (at' : String) :
    Projectable { p with execution := { p.execution with lastActivityAt := at' } } :=
  ⟨h.shape.imp (fun a => ⟨a.live, a.execution, a.role, a.environment⟩)
      fun d => ⟨d.deleted, d.execution, d.role, d.environment, d.observed, d.runtimeId, d.status⟩,
    h.workspaceId, h.provider, h.observed, h.deployed, h.healthy, h.revision, h.deletion⟩

/-- A row with another time of the last activity. -/
def withActivity (at' : Value) (r : ContainerRow) : ContainerRow
  | .lastActivityAt => at'
  | c => r c

theorem Written.withActivity {r : ContainerRow} (h : Written r) (at' : String) :
    Written (withActivity (.text at') r) := by
  obtain ⟨p, hp, rfl⟩ := h
  refine ⟨_, hp.withActivity at', ?_⟩
  funext c
  cases c <;> rfl

/-- The greater of two times of a row and of another text is a text. -/
theorem Written.greatest {r : ContainerRow} (h : Written r) (at' : String) :
    ∃ later, greatest (r .lastActivityAt) (.text at') = .text later := by
  obtain ⟨p, _, rfl⟩ := h
  exact ⟨_, rfl⟩

/-- What a record leaves of a row is a row of the record with the owner and the times of the row. -/
theorem Written.recordContainer {container : Container} {p : WorkspaceExecutionProjection} {r : ContainerRow}
    (hp : projectContainerToWorkspaceExecution container = .ok p) (h : Written r) (hid : r .id = .text container.id) :
    Written (Database.recordContainer (containerWriteValues container p) r) := by
  obtain ⟨q, _, rfl⟩ := h
  let kept : Container :=
    { container with
      userId := q.workspace.ownerId
      createdAt := q.workspace.createdAt
      lastActivityAt := latestTimestamp q.execution.lastActivityAt container.lastActivityAt }
  unfold projectContainerToWorkspaceExecution at hp
  cases hprovider : normalizeProviderId container.providerId with
  | error e => rw [hprovider] at hp; cases hp
  | ok providerId =>
    simp only [hprovider, bind, Except.bind, pure, Except.pure, Except.ok.injEq] at hp
    have hkept : ∃ p', projectContainerToWorkspaceExecution kept = .ok p' ∧
        Database.recordContainer (containerWriteValues container p) (written q) = containerWriteValues kept p' := by
      refine ⟨_, by simp only [projectContainerToWorkspaceExecution, kept, hprovider, bind, Except.bind]; rfl, ?_⟩
      subst hp
      funext c
      cases c with
      | id => exact hid
      | _ => rfl
    obtain ⟨p', hp', hrow⟩ := hkept
    exact ⟨p', projectContainer_projectable hp', hrow.trans (containerWriteValues_project hp')⟩

theorem recordContainer_userId (row r : ContainerRow) : Database.recordContainer row r .userId = r .userId := rfl

end OpenApp
