import OpenApp.Postgres.Initialisation
import OpenApp.Workspace.Manager

/-!
# The first initialisation of an older table

An older table of Workspaces has none of the columns of the execution. The script adds them, fills
every row in from what the row says of its container, and only then installs the checks, which every
row passes. With what a repeated script does this is all that an initialisation does to Workspaces.
-/

namespace OpenApp

open Sql Sql.Truth Script

/-- The columns an initialisation may have to add. -/
def addedColumns : List ContainerColumn :=
  executionColumns.map Prod.fst

/-- A table of before the executions: the first records with their one constraint, and the reason of a
stop with its own, if it is there. A user has one row. -/
structure OldContainers (t : Table ContainerColumn) : Prop where
  created : t.created = true
  columns : ∀ c, c ∉ addedColumns → t.columns c = true
  lacking : ∀ c ∈ addedColumns, c ≠ .stopReason → t.columns c = false
  required : ∀ c ∈ t.required, t.columns c = true
  id : .id ∈ t.required
  status : .status ∈ t.required
  checks : ∀ k ∈ t.checks, k = containersStatusCheck ∨ k = containersStopReasonCheck
  statusCheck : containersStatusCheck ∈ t.checks
  stopReason : t.columns .stopReason = true → containersStopReasonCheck ∈ t.checks
  indexes : t.indexes = []
  sound : t.Sound
  ids : ∀ r ∈ t.rows, ∃ id, r .id = .text id
  users : (t.rows.map fun r => r .userId).Nodup

/-! ## The columns -/

/-- What a row is when the columns a table lacks are added to it. -/
def completed (t : Table ContainerColumn) (columns : List (ContainerColumn × Value)) (r : ContainerRow) :
    ContainerRow := fun c =>
  bif t.columns c then r c else (columns.lookup c).getD (r c)

theorem addColumns_eq (columns : List (ContainerColumn × Value)) (t : Table ContainerColumn) :
    ∃ there, columns.foldl (fun t c => t.addColumn c.1 c.2) t =
      { t with columns := there, rows := t.rows.map (completed t columns) } := by
  induction columns generalizing t with
  | nil =>
    refine ⟨t.columns, ?_⟩
    have hid : completed t [] = id := by
      funext r c
      simp [completed]
    rw [List.foldl_nil, hid, List.map_id]
  | cons column columns ih =>
    obtain ⟨name, default⟩ := column
    obtain ⟨there, hfold⟩ := ih (t.addColumn name default)
    refine ⟨there, ?_⟩
    rw [List.foldl_cons, hfold]
    unfold Table.addColumn
    split
    · next hthere =>
      have hrow : completed t columns = completed t ((name, default) :: columns) := by
        funext r c
        unfold completed
        by_cases hc : c = name
        · rw [hc, hthere]
          rfl
        · rw [List.lookup_cons, beq_false_of_ne hc]
      rw [hrow]
    · next hmissing =>
      dsimp only
      rw [List.map_map]
      congr 1
      refine List.map_congr_left fun r _ => ?_
      funext c
      simp only [Function.comp_apply, completed]
      by_cases hc : c = name
      · subst hc
        simp [hmissing]
      · simp [Function.update_of_ne hc, List.lookup_cons, beq_false_of_ne hc]

section Old

variable {t : Table ContainerColumn}

/-- A row with the columns of an execution, as the script adds them. -/
def added (t : Table ContainerColumn) : ContainerRow → ContainerRow :=
  completed t executionColumns

theorem added_there {r : ContainerRow} {c : ContainerColumn} (h : t.columns c = true) : added t r c = r c := by
  unfold added completed
  rw [h]
  rfl

theorem OldContainers.added_lacking (h : OldContainers t) {r : ContainerRow} {c : ContainerColumn}
    (hmem : c ∈ addedColumns) (hne : c ≠ .stopReason) : added t r c = (executionColumns.lookup c).getD (r c) := by
  unfold added completed
  rw [h.lacking c hmem hne]
  rfl

/-- The reason of a stop passes its check: the check is there, or the column is new and empty. -/
theorem OldContainers.stopReason_passes (h : OldContainers t) {r : ContainerRow} (hr : r ∈ t.rows) :
    Passes (containersStopReasonCheck.condition (added t r)) := by
  change Passes ((added t r .stopReason).isIn _)
  by_cases hthere : t.columns .stopReason = true
  · rw [added_there hthere]
    exact (h.sound r hr).checks _ (h.stopReason hthere)
  · have hnull : added t r .stopReason = .null := by
      unfold added completed
      rw [(Bool.not_eq_true _).mp hthere]
      rfl
    rw [hnull]
    decide

/-- An old record has one of the four texts for its status. -/
theorem OldContainers.status_text (h : OldContainers t) {r : ContainerRow} (hr : r ∈ t.rows) :
    ∃ status : ContainerStatus, r .status = .text status.text := by
  have hrequired := (h.sound r hr).required _ h.status
  have hpasses := (h.sound r hr).checks _ h.statusCheck
  change Passes ((r .status).isIn _) at hpasses
  cases hs : r .status with
  | null => exact absurd hs hrequired
  | int n =>
    rw [hs] at hpasses
    exact absurd rfl hpasses
  | text s =>
    rw [hs] at hpasses
    have hmem : s ∈ ["creating", "running", "stopped", "failed"] := by
      by_contra hnot
      exact hpasses (by simp [Value.isIn, hnot])
    simp only [List.mem_cons, List.not_mem_nil, or_false] at hmem
    rcases hmem with rfl | rfl | rfl | rfl
    · exact ⟨.creating, rfl⟩
    · exact ⟨.running, rfl⟩
    · exact ⟨.stopped, rfl⟩
    · exact ⟨.failed, rfl⟩

/-- What the script makes of an old row. -/
def migrated (t : Table ContainerColumn) (r : ContainerRow) : ContainerRow :=
  adoptModel (backfill (added t r))

/-- No column of an old record is written. -/
theorem migrated_kept {r : ContainerRow} {c : ContainerColumn} (hc : c ∉ addedColumns) (h : t.columns c = true) :
    migrated t r c = r c := by
  have hkept : migrated t r c = added t r c := by
    cases c <;> first | rfl | exact absurd (by decide) hc
  rw [hkept, added_there h]

theorem migrated_stopReason (r : ContainerRow) : migrated t r .stopReason = added t r .stopReason := rfl

/-- What an old row becomes, column by column. -/
structure Migrated (t : Table ContainerColumn) (r : ContainerRow) (status : ContainerStatus) : Prop where
  workspaceStatus : migrated t r .workspaceStatus = .text "active"
  storageRefId : migrated t r .storageRefId ≠ .null
  providerId : migrated t r .providerId = .text "docker"
  executionRole : migrated t r .executionRole = .text "active"
  desiredGeneration : migrated t r .desiredGeneration = .int 1
  deployedGeneration : migrated t r .deployedGeneration = .int (if status = .creating then 0 else 1)
  healthyGeneration : migrated t r .healthyGeneration = if status = .running then .int 1 else .null
  transactionStatus : ∃ s : ExecutionTransactionStatus, migrated t r .transactionStatus = .text s.text
  desiredState : ∃ s : WorkspaceDesiredState, migrated t r .desiredState = .text s.text
  observedState : migrated t r .observedState = .text status.text
  executionRevision : migrated t r .executionRevision = .int 1
  executionModelVersion : migrated t r .executionModelVersion = .int 2
  deletionTransactionId : migrated t r .deletionTransactionId = .null
  deletionPhase : migrated t r .deletionPhase = .null
  deletionFailure : migrated t r .deletionFailure = .null
  deletedAt : migrated t r .deletedAt = .null

theorem OldContainers.migrated (h : OldContainers t) {r : ContainerRow} {id : String} (hid : r .id = .text id)
    {status : ContainerStatus} (hs : r .status = .text status.text) : Migrated t r status := by
  have hid' : added t r .id = .text id := (added_there (h.columns _ (by decide))).trans hid
  have hs' : added t r .status = .text status.text := (added_there (h.columns _ (by decide))).trans hs
  have hnew : ∀ c ∈ addedColumns, c ≠ .stopReason → added t r c = (executionColumns.lookup c).getD (r c) :=
    fun c => h.added_lacking
  refine ⟨?_, ?_, ?_, ?_, ?_, ?_, ?_, ?_, ?_, ?_, ?_, ?_, ?_, ?_, ?_, ?_⟩
  · change (added t r .workspaceStatus).coalesce _ = _
    rw [hnew _ (by decide) (by decide)]
    rfl
  · change (added t r .storageRefId).coalesce ((added t r .id).concat "workspace-storage:" "") ≠ _
    rw [hnew _ (by decide) (by decide), hid']
    exact Value.noConfusion
  · change (added t r .providerId).coalesce _ = _
    rw [hnew _ (by decide) (by decide)]
    rfl
  · change (added t r .executionRole).coalesce _ = _
    rw [hnew _ (by decide) (by decide)]
    rfl
  · change (added t r .desiredGeneration).coalesce _ = _
    rw [hnew _ (by decide) (by decide)]
    rfl
  · change (added t r .deployedGeneration).coalesce
      (if Holds ((added t r .status).is "creating") then .int 0 else .int 1) = _
    rw [hnew _ (by decide) (by decide), hs']
    cases status <;> rfl
  · change (if Holds ((added t r .status).is "running") then (added t r .healthyGeneration).coalesce (.int 1)
      else added t r .healthyGeneration) = _
    rw [hnew .healthyGeneration (by decide) (by decide), hs']
    cases status <;> rfl
  · change ∃ s : ExecutionTransactionStatus, (added t r .transactionStatus).coalesce
      (if Holds ((added t r .status).is "creating") then .text "progressing"
      else if Holds ((added t r .status).is "failed") then .text "failed"
      else .text "applied") = _
    rw [hnew _ (by decide) (by decide), hs']
    cases status with
    | creating => exact ⟨.progressing, rfl⟩
    | running => exact ⟨.applied, rfl⟩
    | stopped => exact ⟨.applied, rfl⟩
    | failed => exact ⟨.failed, rfl⟩
  · change ∃ s : WorkspaceDesiredState, (added t r .desiredState).coalesce
      (if Holds ((added t r .status).is "stopped") then .text "stopped" else .text "running") = _
    rw [hnew _ (by decide) (by decide), hs']
    cases status with
    | stopped => exact ⟨.stopped, rfl⟩
    | creating | running | failed => exact ⟨.running, rfl⟩
  · exact hs'
  · change (added t r .executionRevision).coalesce _ = _
    rw [hnew _ (by decide) (by decide)]
    rfl
  · rfl
  all_goals exact hnew _ (by decide) (by decide)

/-- Such a row passes the checks that are added. -/
theorem Migrated.execution_passes {r : ContainerRow} {status : ContainerStatus} (m : Migrated t r status) :
    Passes (containersWorkspaceExecutionCheck.condition (migrated t r)) := by
  obtain ⟨transactionStatus, htransactionStatus⟩ := m.transactionStatus
  obtain ⟨desiredState, hdesiredState⟩ := m.desiredState
  simp only [containersWorkspaceExecutionCheck, m.workspaceStatus, m.executionRole, htransactionStatus, hdesiredState,
    m.observedState, m.deployedGeneration, m.desiredGeneration, m.healthyGeneration, m.executionRevision,
    m.executionModelVersion]
  cases status <;> cases transactionStatus <;> cases desiredState <;> decide

theorem Migrated.deletion_passes {r : ContainerRow} {status : ContainerStatus} (m : Migrated t r status) :
    Passes (containersWorkspaceDeletionCheck.condition (migrated t r)) := by
  refine passes_any.2 ⟨_, List.mem_cons_self, ?_⟩
  rw [m.workspaceStatus, m.deletionTransactionId, m.deletionPhase, m.deletionFailure, m.deletedAt]
  decide

/-! ## The first run -/

/-- The columns that get required. -/
def requiredColumns : List ContainerColumn := [
  .workspaceStatus, .storageRefId, .providerId, .executionRole, .desiredGeneration, .deployedGeneration,
  .transactionStatus, .desiredState, .observedState, .executionRevision, .executionModelVersion]

/-- A column that has a value in every row is required, and the script goes on. -/
theorem setNotNull_then {u : Table ContainerColumn} {c : ContainerColumn}
    {k : Table ContainerColumn → Except Refusal (Table ContainerColumn)} (hc : c ∈ requiredColumns)
    (h : ∀ r ∈ u.rows, ∀ c ∈ requiredColumns, r c ≠ .null)
    (hk : ∀ required, ∃ required', k { u with required := required } = .ok { u with required := required' }) :
    ∃ required, (u.setNotNull c >>= k) = .ok { u with required := required } := by
  obtain ⟨required, hok⟩ := Table.setNotNull_ok (t := u) (c := c) fun r hr => h r hr c hc
  rw [hok]
  exact hk required

theorem setRequired_ok {u : Table ContainerColumn} (h : ∀ r ∈ u.rows, ∀ c ∈ requiredColumns, r c ≠ .null) :
    ∃ required, setRequired u = .ok { u with required := required } := by
  unfold setRequired
  refine setNotNull_then (by decide) h fun _ => ?_
  refine setNotNull_then (by decide) h fun required => ?_
  obtain ⟨_, hdrop⟩ := Table.dropNotNull_eq (t := { u with required := required }) (c := .activeExecutionId)
  simp only [hdrop]
  refine setNotNull_then (by decide) h fun _ => ?_
  refine setNotNull_then (by decide) h fun _ => ?_
  refine setNotNull_then (by decide) h fun _ => ?_
  refine setNotNull_then (by decide) h fun _ => ?_
  refine setNotNull_then (by decide) h fun _ => ?_
  refine setNotNull_then (by decide) h fun _ => ?_
  refine setNotNull_then (by decide) h fun _ => ?_
  refine setNotNull_then (by decide) h fun required => ?_
  exact Table.setNotNull_ok (t := { u with required := required }) fun r hr => h r hr _ (by decide)

/-- A row that keeps what the older columns say passes the older constraints. -/
theorem OldContainers.admits (h : OldContainers t) {r r' : ContainerRow} (hr : r ∈ t.rows) {u : Table ContainerColumn}
    (hrequired : u.required = t.required) (hchecks : u.checks = t.checks)
    (hkept : ∀ c, c ∉ addedColumns ∨ c = .stopReason → r' c = added t r c) : u.Admits r' where
  required := by
    rw [hrequired]
    intro c hc
    have hthere := h.required c hc
    have hold : c ∉ addedColumns ∨ c = .stopReason := by
      by_contra hnot
      simp only [not_or, not_not] at hnot
      rw [h.lacking c hnot.1 hnot.2] at hthere
      cases hthere
    rw [hkept c hold, added_there hthere]
    exact (h.sound r hr).required c hc
  checks := by
    rw [hchecks]
    intro k hk
    rcases h.checks k hk with rfl | rfl
    · change Passes ((r' .status).isIn _)
      rw [hkept _ (.inl (by decide)), added_there (h.columns _ (by decide))]
      exact (h.sound r hr).checks _ h.statusCheck
    · change Passes ((r' .stopReason).isIn _)
      rw [hkept _ (.inr rfl)]
      exact h.stopReason_passes hr

theorem backfill_kept {r : ContainerRow} {c : ContainerColumn} (hc : c ∉ addedColumns ∨ c = .stopReason) :
    backfill r c = r c ∧ adoptModel r c = r c := by
  rcases hc with hnot | rfl
  · cases c <;> first | exact ⟨rfl, rfl⟩ | exact absurd (by decide) hnot
  · exact ⟨rfl, rfl⟩

theorem liveUser_migrated {r : ContainerRow} {status : ContainerStatus} (h : OldContainers t)
    (m : Migrated t r status) : liveUser (migrated t r) = some (r .userId) := by
  unfold liveUser
  rw [m.workspaceStatus, migrated_kept (by decide) (h.columns _ (by decide))]
  exact if_pos (by decide)

theorem Migrated.required {r : ContainerRow} {status : ContainerStatus} (m : Migrated t r status) :
    ∀ c ∈ requiredColumns, migrated t r c ≠ .null := by
  obtain ⟨transactionStatus, htransactionStatus⟩ := m.transactionStatus
  obtain ⟨desiredState, hdesiredState⟩ := m.desiredState
  intro c hc
  simp only [requiredColumns, List.mem_cons, List.not_mem_nil, or_false] at hc
  rcases hc with rfl | rfl | rfl | rfl | rfl | rfl | rfl | rfl | rfl | rfl | rfl
  · simp [m.workspaceStatus]
  · exact m.storageRefId
  · simp [m.providerId]
  · simp [m.executionRole]
  · simp [m.desiredGeneration]
  · simp [m.deployedGeneration]
  · simp [htransactionStatus]
  · simp [hdesiredState]
  · simp [m.observedState]
  · simp [m.executionRevision]
  · simp [m.executionModelVersion]

/-- The checks are installed on rows that pass them. -/
theorem addContainerChecks_ok {u : Table ContainerColumn}
    (hchecks : ∀ k ∈ u.checks, k = containersStatusCheck ∨ k = containersStopReasonCheck)
    (hpasses : ∀ r ∈ u.rows, Passes (containersStatusCheck.condition r) ∧ Passes (containersStopReasonCheck.condition r) ∧
      Passes (containersWorkspaceExecutionCheck.condition r) ∧ Passes (containersWorkspaceDeletionCheck.condition r)) :
    ∃ checks, addContainerChecks u = .ok { u with checks := checks } ∧ containersStopReasonCheck ∈ checks ∧
      containersWorkspaceExecutionCheck ∈ checks ∧ containersWorkspaceDeletionCheck ∈ checks ∧
      ∀ k ∈ checks, ∀ r ∈ u.rows, Passes (k.condition r) := by
  have hstop : ∃ checks, u.addMissingCheck containersStopReasonCheck = .ok { u with checks := checks } ∧
      containersStopReasonCheck ∈ checks ∧
      ∀ k ∈ checks, k = containersStatusCheck ∨ k = containersStopReasonCheck := by
    by_cases hthere : u.hasCheck containersStopReasonCheck.name = true
    · refine ⟨u.checks, Table.addMissingCheck_there hthere, ?_, hchecks⟩
      obtain ⟨k, hk, hname⟩ := List.any_eq_true.1 hthere
      rcases hchecks k hk with rfl | rfl
      · exact absurd (of_decide_eq_true hname) (by decide)
      · exact hk
    · refine ⟨u.checks ++ [containersStopReasonCheck], ?_, by simp, ?_⟩
      · refine Table.addMissingCheck_missing ?_ fun r hr => (hpasses r hr).2.1
        simpa [Table.hasCheck] using hthere
      · intro k hk
        rcases List.mem_append.1 hk with hold | hnew
        · exact hchecks k hold
        · exact .inr (List.mem_singleton.1 hnew)
  obtain ⟨checks, hok, hmem, hall⟩ := hstop
  refine ⟨checks ++ [containersWorkspaceExecutionCheck] ++ [containersWorkspaceDeletionCheck], ?_, by simp [hmem],
    by simp, by simp, ?_⟩
  · unfold addContainerChecks
    rw [hok]
    have hexecution := Table.addMissingCheck_missing (t := { u with checks := checks })
      (k := containersWorkspaceExecutionCheck) (by
        intro k hk
        rcases hall k hk with rfl | rfl <;> decide) fun r hr => (hpasses r hr).2.2.1
    change (Table.addMissingCheck { u with checks := checks } _ >>= _) = _
    rw [hexecution]
    exact Table.addMissingCheck_missing (by
      intro k hk
      rcases List.mem_append.1 hk with hold | hnew
      · rcases hall k hold with rfl | rfl <;> decide
      · rw [List.mem_singleton.1 hnew]
        decide) fun r hr => (hpasses r hr).2.2.2
  · intro k hk r hr
    have hp := hpasses r hr
    simp only [List.append_assoc, List.cons_append, List.nil_append, List.mem_append, List.mem_cons,
      List.not_mem_nil, or_false] at hk
    rcases hk with hold | rfl | rfl
    · rcases hall k hold with rfl | rfl
      · exact hp.1
      · exact hp.2.1
    · exact hp.2.2.1
    · exact hp.2.2.2

theorem initializeContainers_old (h : OldContainers t) :
    ∃ t', initializeContainers t = .ok t' ∧ t'.rows = t.rows.map (migrated t) ∧
      containersStopReasonCheck ∈ t'.checks ∧ containersWorkspaceExecutionCheck ∈ t'.checks ∧
      containersWorkspaceDeletionCheck ∈ t'.checks ∧ ∀ k ∈ t'.checks, ∀ r ∈ t'.rows, Passes (k.condition r) := by
  obtain ⟨there, hadd⟩ := addColumns_eq executionColumns t
  have hrow : ∀ r ∈ t.rows, ∃ status, Migrated t r status := by
    intro r hr
    obtain ⟨id, hid⟩ := h.ids r hr
    obtain ⟨status, hs⟩ := h.status_text hr
    exact ⟨status, h.migrated hid hs⟩
  -- the back-fill is for every row, and so is the adoption of the model
  have hneeds : ∀ r ∈ t.rows.map (added t), Holds (needsBackfill r) := by
    intro r hr
    obtain ⟨s, _, rfl⟩ := List.mem_map.1 hr
    refine holds_any.2 ⟨_, List.mem_cons_self, holds_isNull.2 ?_⟩
    exact h.added_lacking (by decide) (by decide)
  have hbackfill :
      Table.updateWhere { t with columns := there, rows := t.rows.map (added t) } refersToNothing needsBackfill
        backfill = .ok { t with columns := there, rows := (t.rows.map (added t)).map backfill } :=
    Table.updateWhere_all hneeds (by
      intro r hr
      obtain ⟨s, hs, rfl⟩ := List.mem_map.1 hr
      exact ⟨h.admits hs rfl rfl fun c hc => (backfill_kept hc).1, rfl⟩)
  have hmodel :
      Table.updateWhere { t with columns := there, rows := (t.rows.map (added t)).map backfill } refersToNothing
        (fun r => (r .executionModelVersion).isNull) adoptModel =
        .ok { t with columns := there, rows := ((t.rows.map (added t)).map backfill).map adoptModel } :=
    Table.updateWhere_all (by
      intro r hr
      obtain ⟨s, hs, rfl⟩ := List.mem_map.1 hr
      obtain ⟨s, _, rfl⟩ := List.mem_map.1 hs
      exact holds_isNull.2 (h.added_lacking (by decide) (by decide))) (by
      intro r hr
      obtain ⟨s, hs, rfl⟩ := List.mem_map.1 hr
      obtain ⟨old, hold, rfl⟩ := List.mem_map.1 hs
      exact ⟨h.admits hold rfl rfl fun c hc => (backfill_kept hc).2.trans (backfill_kept hc).1, rfl⟩)
  have hrows : ((t.rows.map (added t)).map backfill).map adoptModel = t.rows.map (migrated t) := by
    rw [List.map_map, List.map_map]
    rfl
  simp only [hrows] at hmodel
  obtain ⟨required, hrequired⟩ := setRequired_ok (u := { t with columns := there, rows := t.rows.map (migrated t) }) (by
    intro r hr
    obtain ⟨s, hs, rfl⟩ := List.mem_map.1 hr
    obtain ⟨status, m⟩ := hrow s hs
    exact m.required)
  have hlive : (t.rows.map (migrated t)).filterMap liveUser = t.rows.map fun r => r .userId := by
    have hsome : ∀ r ∈ t.rows, (liveUser ∘ migrated t) r = (some ∘ fun r => r .userId) r := by
      intro r hr
      obtain ⟨status, m⟩ := hrow r hr
      exact liveUser_migrated h m
    rw [List.filterMap_map, List.filterMap_congr hsome, List.filterMap_eq_map]
  have hmissing : "containers_live_user_idx" ∉ t.indexes := by
    rw [h.indexes]
    exact List.not_mem_nil
  have hindex := Table.createUniqueIndex_ok
    (t := { t with columns := there, required := required, rows := t.rows.map (migrated t) }) hmissing
    (hlive ▸ h.users)
  obtain ⟨checks, hchecks, hstopMem, hexecutionMem, hdeletionMem, hall⟩ := addContainerChecks_ok
    (u := { t with
      columns := there
      required := required
      indexes := "containers_live_user_idx" :: t.indexes
      rows := t.rows.map (migrated t) }) h.checks (by
      intro r hr
      obtain ⟨s, hs, rfl⟩ := List.mem_map.1 hr
      obtain ⟨status, m⟩ := hrow s hs
      have hadmits : t.Admits (migrated t s) :=
        h.admits hs rfl rfl fun c hc => (backfill_kept hc).2.trans (backfill_kept hc).1
      exact ⟨hadmits.checks _ h.statusCheck, h.stopReason_passes hs, m.execution_passes, m.deletion_passes⟩)
  refine ⟨{ t with
    columns := there
    required := required
    checks := checks
    indexes := "containers_live_user_idx" :: t.indexes
    rows := t.rows.map (migrated t) }, ?_, rfl, hstopMem, hexecutionMem, hdeletionMem, hall⟩
  unfold initializeContainers
  rw [Table.createIfNotExists_created h.created]
  change (Table.updateWhere (executionColumns.foldl (fun t c => t.addColumn c.1 c.2) t) _ _ _ >>= _) = _
  rw [hadd]
  change (Table.updateWhere { t with columns := there, rows := t.rows.map (added t) } _ _ _ >>= _) = _
  rw [hbackfill]
  change (Table.updateWhere _ _ _ _ >>= _) = _
  rw [hmodel]
  change (setRequired _ >>= _) = _
  rw [hrequired]
  change (Table.createUniqueIndex _ _ _ >>= _) = _
  rw [hindex]
  exact hchecks

end Old

/-! ## What a start does to the Workspaces -/

/-- A start of the Portal succeeds and keeps the rows exactly when no Workspace is deleted. An older
table gets rows that pass what is installed, and keep what they say. -/
theorem initialisation_repeatable {db : Database} {t : Table ContainerColumn} (hreachable : Reachable db)
    (hold : OldContainers t) :
    ((∃ db', initializeCoreSchema db = .ok db' ∧ KeepsRows db db') ↔
      ∀ r ∈ db.containers.rows, r .workspaceStatus ≠ .text "deleted") ∧
    ∃ t', initializeContainers t = .ok t' ∧
      (containersStopReasonCheck ∈ t'.checks ∧ containersWorkspaceExecutionCheck ∈ t'.checks ∧
        containersWorkspaceDeletionCheck ∈ t'.checks) ∧
      (∀ k ∈ t'.checks, ∀ r ∈ t'.rows, Passes (k.condition r)) ∧
      ∃ f : ContainerRow → ContainerRow, t'.rows = t.rows.map f ∧ ∀ r ∈ t.rows, ∀ c ∉ addedColumns, f r c = r c := by
  have hinit := hreachable.invariant
  obtain ⟨t', hok', hrows, hstop, hexecution, hdeletion, hall⟩ := initializeContainers_old hold
  constructor
  · constructor
    · rintro ⟨db', hok, _⟩ r hr hdeleted
      obtain ⟨e, he⟩ := initializeCoreSchema_deleted hinit hr hdeleted
      rw [hok] at he
      cases he
    · intro hlive
      obtain ⟨db', hok, hkeeps, _⟩ := initializeCoreSchema_again hinit hlive
      exact ⟨db', hok, hkeeps⟩
  · exact ⟨t', hok', ⟨hstop, hexecution, hdeletion⟩, hall, migrated t, hrows,
      fun r _ c hc => migrated_kept hc (hold.columns c hc)⟩

/-! ## A start that fails -/

def owner : Row UserColumn
  | .id => .text "owner"
  | .email => .text "owner@example.test"
  | .role => .text "user"
  | .createdAt => .text "2026-08-04T00:00:00.000Z"
  | .appInitializedAt => .null

/-- An initialised database with one user. -/
def withOwner : Database :=
  { Database.initial with users := { usersTable with rows := [owner] } }

theorem withOwner_reachable : Reachable withOwner := by
  refine .elsewhere (.initialised initializeCoreSchema_empty) ⟨rfl, rfl, nofun, ⟨?_, ?_, nofun, nofun, nofun, nofun⟩⟩
  · intro r hr
    rw [List.mem_singleton.1 hr]
    exact ⟨_, rfl⟩
  · intro r hr
    rw [List.mem_singleton.1 hr]
    exact Table.refuses_none.1 (by decide)

def launched : Container where
  id := "workspace"
  userId := "owner"
  appId := "app"
  providerId := none
  runtimeId := "runtime"
  status := .running
  endpoint := none
  stopReason := none
  createdAt := "2026-08-04T00:00:00.000Z"
  updatedAt := "2026-08-04T00:00:00.000Z"
  lastActivityAt := "2026-08-04T00:00:00.000Z"
  appVersionId := some "version"
  imageArtifactId := none
  imageReference := some "image"

def withWorkspace : Database :=
  (StoreCall.saveContainer launched).leaves withOwner

theorem withWorkspace_reachable : Reachable withWorkspace :=
  .called _ withOwner_reachable

/-- The stored projection, written as a step of a deletion makes it. -/
def rewritten (step : WorkspaceExecutionProjection → WorkspaceExecutionProjection) (db : Database) : Database :=
  match Database.getWorkspaceExecutionProjection launched.id db with
  | .ok (some p, _) => (StoreCall.compareAndSaveWorkspaceExecution (step p) p.execution.revision).leaves db
  | _ => db

theorem rewritten_reachable {step : WorkspaceExecutionProjection → WorkspaceExecutionProjection} {db : Database}
    (h : Reachable db) : Reachable (rewritten step db) := by
  unfold rewritten
  split
  · exact .called _ h
  · exact h

theorem rewrittens_reachable (steps : List (WorkspaceExecutionProjection → WorkspaceExecutionProjection)) {db : Database}
    (h : Reachable db) : Reachable (steps.foldl (fun db step => rewritten step db) db) := by
  induction steps generalizing db with
  | nil => exact h
  | cons step steps ih => exact ih (rewritten_reachable h)

/-- The Workspace in the phase before the last. -/
def withDeleting : Database :=
  let timestamp := "2026-08-05T00:00:00.000Z"
  [deletingOf "deletion" timestamp, advancedOf .removingEnvironments timestamp,
    advancedOf .verifyingReferences timestamp, advancedOf .releasingStorage timestamp,
    advancedOf .finalizing timestamp].foldl (fun db step => rewritten step db) withWorkspace

theorem withDeleting_reachable : Reachable withDeleting :=
  rewrittens_reachable _ withWorkspace_reachable

def withDeleted : Database :=
  rewritten (tombstoneOf "2026-08-05T00:00:00.000Z") withDeleting

/-- A start finds a Workspace in each of the phases as it is, and the tombstone keeps the Portal from
starting. -/
theorem tombstone_keeps_portal_from_starting :
    ¬ ∀ db, Reachable db → ∃ db', initializeCoreSchema db = .ok db' ∧ KeepsRows db db' := by
  intro h
  obtain ⟨db', hok, _⟩ := h withDeleted (rewritten_reachable withDeleting_reachable)
  have herror : (match initializeCoreSchema withDeleted with | .ok _ => false | .error _ => true) = true := by
    decide +kernel
  rw [hok] at herror
  cases herror

/-- A record of before the executions. -/
def legacyRow : ContainerRow
  | .id => .text "legacy-workspace"
  | .userId => .text "legacy-owner"
  | .appId => .text "sample-app"
  | .appVersionId => .text "legacy-release"
  | .imageArtifactId => .text "legacy-artifact"
  | .imageReference => .text "sha256:legacy"
  | .runtimeId => .text "legacy-runtime"
  | .status => .text "running"
  | .endpoint => .text "http://legacy-workspace.test"
  | .createdAt => .text "2026-08-04T00:00:00.000Z"
  | .updatedAt => .text "2026-08-04T00:00:00.000Z"
  | .lastActivityAt => .text "2026-08-04T00:00:00.000Z"
  | _ => .null

def legacyContainers : Table ContainerColumn where
  created := true
  columns c := c ∉ addedColumns ∨ c = .stopReason
  required := [.id, .userId, .appId, .runtimeId, .status, .createdAt, .updatedAt, .lastActivityAt]
  checks := [containersStatusCheck, containersStopReasonCheck]
  indexes := []
  rows := [legacyRow]

theorem legacyContainers_old : OldContainers legacyContainers where
  created := rfl
  columns c := by cases c <;> decide
  lacking c := by cases c <;> decide
  required := by decide
  id := by decide
  status := by decide
  checks k hk := by simpa [legacyContainers] using hk
  statusCheck := List.mem_cons_self
  stopReason _ := List.mem_cons_of_mem _ List.mem_cons_self
  indexes := rfl
  sound r hr := by
    rw [List.mem_singleton.1 hr]
    exact Table.refuses_none.1 (by decide)
  ids r hr := by
    rw [List.mem_singleton.1 hr]
    exact ⟨_, rfl⟩
  users := by decide

/-- A start over a Workspace that is about to be finalised, and one over a legacy record. -/
theorem initialisation_repeatable_deleting :
    (∃ db', initializeCoreSchema withDeleting = .ok db' ∧ KeepsRows withDeleting db') ∧
      ∃ t', initializeContainers legacyContainers = .ok t' ∧ ∀ k ∈ t'.checks, ∀ r ∈ t'.rows, Passes (k.condition r) := by
  have hnone : (withDeleting.containers.rows.all fun r => r .workspaceStatus ≠ .text "deleted") = true := by
    decide +kernel
  obtain ⟨hiff, t', hok, _, hall, _⟩ := initialisation_repeatable withDeleting_reachable legacyContainers_old
  refine ⟨hiff.2 fun r hr => ?_, t', hok, hall⟩
  exact of_decide_eq_true (List.all_eq_true.1 hnone r hr)

end OpenApp
