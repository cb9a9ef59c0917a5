import OpenApp.Workspace.Model

/-!
# The store in memory

One row for each Workspace, under its id. The older container map holds the same rows in the
older shape and is written with them; its `lastActivityAt` is the row's own, so the rows are all
the store needs. A row can only be one the store may hold.
-/

namespace OpenApp

open Script

structure MemoryPersistence where
  workspaceExecutions : Map WorkspaceExecutionProjection
  keyed : ∀ id p, workspaceExecutions.get id = some p → p.workspace.id = id
  projectable : ∀ id p, workspaceExecutions.get id = some p → Projectable p

namespace MemoryPersistence

def empty : MemoryPersistence where
  workspaceExecutions := ⟨[]⟩
  keyed _ _ h := by simp [Map.get, Map.getEntry] at h
  projectable _ _ h := by simp [Map.get, Map.getEntry] at h

def get (s : MemoryPersistence) (id : String) : Option WorkspaceExecutionProjection :=
  s.workspaceExecutions.get id

def put (s : MemoryPersistence) (p : WorkspaceExecutionProjection) (hp : Projectable p) : MemoryPersistence where
  workspaceExecutions := s.workspaceExecutions.set p.workspace.id p
  keyed id q h := by
    by_cases hid : id = p.workspace.id
    · subst hid
      simp only [Map.get_set_self, Option.some.injEq] at h
      rw [h]
    · rw [Map.get_set_of_ne _ _ hid] at h
      exact s.keyed id q h
  projectable id q h := by
    by_cases hid : id = p.workspace.id
    · subst hid
      simp only [Map.get_set_self, Option.some.injEq] at h
      exact h ▸ hp
    · rw [Map.get_set_of_ne _ _ hid] at h
      exact s.projectable id q h

theorem get_put (s : MemoryPersistence) (p : WorkspaceExecutionProjection) (hp : Projectable p) (id : String) :
    (s.put p hp).get id = if id = p.workspace.id then some p else s.get id := by
  by_cases hid : id = p.workspace.id
  · subst hid
    simp [get, put]
  · simp [get, put, Map.get_set_of_ne, hid]

/-! ## Saving a container record -/

def storeContainer (s : MemoryPersistence) (container : Container) : Except Failure MemoryPersistence :=
  match h : projectContainerToWorkspaceExecution container with
  | .ok p => .ok (s.put p (projectContainer_projectable h))
  | .error e => .error e

/-- Only a row that was never compared and saved may still be overwritten. -/
def saveContainer (s : MemoryPersistence) (container : Container) : Except Failure MemoryPersistence :=
  match s.get container.id with
  | some current =>
    if 1 < current.execution.revision ∨ current.workspace.status ≠ .active then .error .casRequired
    else
      s.storeContainer
        { container with
          lastActivityAt := latestTimestamp current.execution.lastActivityAt container.lastActivityAt }
  | none => s.storeContainer container

theorem storeContainer_ok {s s' : MemoryPersistence} {c : Container} (h : s.storeContainer c = .ok s') :
    ∃ p hp, projectContainerToWorkspaceExecution c = .ok p ∧ s' = s.put p hp := by
  unfold storeContainer at h
  split at h
  · next p hp => exact ⟨p, projectContainer_projectable hp, hp, (Except.ok.inj h).symm⟩
  · cases h

theorem saveContainer_ok {s s' : MemoryPersistence} {c : Container} (h : s.saveContainer c = .ok s') :
    (∀ current, s.get c.id = some current → current.execution.revision ≤ 1 ∧ current.workspace.status = .active) ∧
      ∃ at', ∃ p hp, projectContainerToWorkspaceExecution { c with lastActivityAt := at' } = .ok p ∧
        s' = s.put p hp := by
  unfold saveContainer at h
  split at h
  · next current hcur =>
    split at h
    · cases h
    · next hok =>
      obtain ⟨p, hp, hproj, rfl⟩ := storeContainer_ok h
      refine ⟨fun q hq => ?_, _, p, hp, hproj, rfl⟩
      obtain rfl := Option.some.inj (hcur.symm.trans hq)
      simp only [not_or, not_not] at hok
      exact ⟨by omega, hok.2⟩
  · next hnone =>
    obtain ⟨p, hp, hproj, rfl⟩ := storeContainer_ok h
    exact ⟨fun q hq => absurd (hnone.symm.trans hq) (by simp), c.lastActivityAt, p, hp, hproj, rfl⟩

/-! ## Comparing and saving a projection -/

/-- The saved row: the next revision, and the later of the two activity times. -/
def saved (current p : WorkspaceExecutionProjection) : WorkspaceExecutionProjection :=
  { p with
    execution := { p.execution with
      revision := current.execution.revision + 1
      lastActivityAt := latestTimestamp current.execution.lastActivityAt p.execution.lastActivityAt } }

@[simp] theorem saved_workspace (current p : WorkspaceExecutionProjection) :
    (saved current p).workspace = p.workspace := rfl

@[simp] theorem saved_compatibility (current p : WorkspaceExecutionProjection) :
    (saved current p).compatibility = p.compatibility := rfl

@[simp] theorem saved_revision (current p : WorkspaceExecutionProjection) :
    (saved current p).execution.revision = current.execution.revision + 1 := rfl

theorem saved_projectable {current p : WorkspaceExecutionProjection} (h : Projectable p) :
    Projectable (saved current p) where
  shape := h.shape.imp (fun a => ⟨a.live, a.execution, a.role, a.environment⟩)
    fun d => ⟨d.deleted, d.execution, d.role, d.environment, d.observed, d.runtimeId, d.status⟩
  workspaceId := h.workspaceId
  provider := h.provider
  observed := h.observed
  deployed := h.deployed
  healthy := h.healthy
  revision := Nat.le_add_left _ _
  deletion := h.deletion

def compareAndSave (s : MemoryPersistence) (p : WorkspaceExecutionProjection) (expectedRevision : Nat) :
    Except Failure (Option WorkspaceExecutionProjection × MemoryPersistence) :=
  match s.get p.workspace.id with
  | none => .ok (none, s)
  | some current =>
    if current.execution.revision ≠ expectedRevision then .ok (none, s)
    else
      match h : assertWorkspaceExecutionTransition current p with
      | .error e => .error e
      | .ok () =>
        .ok (some (saved current p),
          s.put (saved current p) (saved_projectable (assertWorkspaceExecutionTransition_ok.1 h).to_ok))

/-- A save that takes effect replaced a row of the expected revision along a transition. -/
structure Saves (s : MemoryPersistence) (p : WorkspaceExecutionProjection) (expectedRevision : Nat)
    (q : WorkspaceExecutionProjection) (s' : MemoryPersistence) (current : WorkspaceExecutionProjection) : Prop where
  found : s.get p.workspace.id = some current
  revision : current.execution.revision = expectedRevision
  transition : Transition current p
  result : q = saved current p
  store : ∀ id, s'.get id = if id = p.workspace.id then some q else s.get id

theorem compareAndSave_ok {s s' : MemoryPersistence} {p : WorkspaceExecutionProjection} {rev : Nat}
    {r : Option WorkspaceExecutionProjection} (h : s.compareAndSave p rev = .ok (r, s')) :
    (r = none ∧ s' = s) ∨ ∃ q current, r = some q ∧ Saves s p rev q s' current := by
  unfold compareAndSave at h
  split at h
  · obtain ⟨rfl, rfl⟩ := Prod.mk.inj (Except.ok.inj h)
    exact .inl ⟨rfl, rfl⟩
  · next current hcur =>
    split at h
    · obtain ⟨rfl, rfl⟩ := Prod.mk.inj (Except.ok.inj h)
      exact .inl ⟨rfl, rfl⟩
    · next hrev =>
      split at h
      · cases h
      · next htr =>
        obtain ⟨rfl, rfl⟩ := Prod.mk.inj (Except.ok.inj h)
        exact .inr ⟨_, current, rfl, hcur, not_not.1 hrev, assertWorkspaceExecutionTransition_ok.1 htr, rfl,
          fun id => get_put s _ _ id⟩

/-- A save along a transition, at the right revision, takes effect. -/
theorem compareAndSave_of_transition {s : MemoryPersistence} {current next : WorkspaceExecutionProjection}
    (hfound : s.get current.workspace.id = some current) (ht : Transition current next) :
    ∃ s', s.compareAndSave next current.execution.revision = .ok (some (saved current next), s') ∧
      ∀ id, s'.get id = if id = current.workspace.id then some (saved current next) else s.get id := by
  have hid := ht.identity.id
  refine ⟨s.put (saved current next) (saved_projectable ht.to_ok), ?_, fun id => by rw [get_put, hid]; rfl⟩
  have hassert : assertWorkspaceExecutionTransition current next = .ok () :=
    assertWorkspaceExecutionTransition_ok.2 ht
  unfold compareAndSave
  rw [← hid, hfound]
  simp only [ne_eq, not_true, if_false]
  split
  · next e he => rw [hassert] at he; cases he
  · rfl

/-! ## Reading -/

/-- `getWorkspaceExecutionProjection`; the rows the store holds pass its check. -/
def getWorkspaceExecutionProjection (s : MemoryPersistence) (id : String) : Option WorkspaceExecutionProjection :=
  s.get id

def getContainer (s : MemoryPersistence) (id : String) : Option Container :=
  ((s.get id).filter fun p => p.workspace.status = .active).map containerOf

def getContainerForUser (s : MemoryPersistence) (userId : String) : Option Container :=
  (s.workspaceExecutions.values.find? fun p =>
    p.workspace.ownerId = userId && p.workspace.status = .active).map containerOf

/-- `listContainers`; its callers count, and do not look at the order. -/
def listContainers (s : MemoryPersistence) : List Container :=
  (s.workspaceExecutions.values.filter fun p => p.workspace.status = .active).map containerOf

def getLiveWorkspaceExecutionForUser (s : MemoryPersistence) (userId : String) :
    Option WorkspaceExecutionProjection :=
  s.workspaceExecutions.values.find? fun p => p.workspace.ownerId = userId && p.workspace.status ≠ .deleted

def countLiveWorkspaceStorageReferences (s : MemoryPersistence) (storageRefId excludingWorkspaceId : String) : Nat :=
  (s.workspaceExecutions.values.filter fun p =>
    p.workspace.id ≠ excludingWorkspaceId && p.workspace.status ≠ .deleted &&
      p.workspace.storageRefId = storageRefId).length

end MemoryPersistence

end OpenApp
