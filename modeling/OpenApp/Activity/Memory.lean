import OpenApp.Keyed
import OpenApp.Postgres.Runs

/-!
# The last activity in memory

When a Workspace was last active decides whether an idle sweep stops it and whether an upgrade may drain
it. The store in memory keeps that time twice, in the container record and in the projection, and a record
that cannot be projected is written all the same: the time of the record is then the later one.
-/

namespace OpenApp

open Keyed Script

/-- The later text is a time no earlier than that of the other one, where that is a time. -/
def NoEarlier (earlier later : String) : Prop :=
  ∀ n ∈ dateParse earlier, ∃ m ∈ dateParse later, n ≤ m

instance (earlier later : String) : Decidable (NoEarlier earlier later) :=
  inferInstanceAs (Decidable (∀ n ∈ dateParse earlier, ∃ m ∈ dateParse later, n ≤ m))

theorem NoEarlier.refl (t : String) : NoEarlier t t := by
  intro n hn
  exact ⟨n, hn, Nat.le_refl n⟩

theorem NoEarlier.trans {t t' t'' : String} (h : NoEarlier t t') (h' : NoEarlier t' t'') : NoEarlier t t'' := by
  intro n hn
  obtain ⟨m, hm, hnm⟩ := h n hn
  obtain ⟨k, hk, hmk⟩ := h' m hm
  exact ⟨k, hk, by omega⟩

/-- The time that is there is a lower bound of the later one of two. -/
theorem noEarlier_latestTimestamp (left right : String) : NoEarlier left (latestTimestamp left right) := by
  intro n hn
  unfold latestTimestamp
  rw [Option.mem_def.1 hn]
  cases hr : dateParse right with
  | none => exact ⟨n, hn, Nat.le_refl n⟩
  | some r =>
    by_cases hlt : r > n
    · refine ⟨r, ?_, by omega⟩
      simp [hlt, hr]
    · refine ⟨n, ?_, Nat.le_refl n⟩
      simpa [hlt] using hn

/-! ## The store -/

structure StoredDrain where
  instanceId : String
  rolloutId : String
  attemptId : String
  expiresAt : String
  deriving DecidableEq

def InstanceDrainRequest.drain (request : InstanceDrainRequest) : StoredDrain :=
  ⟨request.instanceId, request.rolloutId, request.attemptId, request.expiresAt⟩

/-- `workspaceExecutions` has a projection under the id of its Workspace. -/
abbrev WorkspaceExecutionProjection.id (p : WorkspaceExecutionProjection) : String :=
  p.workspace.id

def Container.touched (c : Container) (at' : String) : Container :=
  { c with lastActivityAt := at' }

def WorkspaceExecutionProjection.touched (p : WorkspaceExecutionProjection) (at' : String) :
    WorkspaceExecutionProjection :=
  { p with execution := { p.execution with lastActivityAt := at' } }

structure ActivityStore where
  containers : Table Container.id
  workspaceExecutions : Table WorkspaceExecutionProjection.id
  instanceActivityLeases : Table InstanceActivityLease.id
  instanceUpgradeDrains : Table StoredDrain.instanceId
  /-- a projection has a record, whose time is no earlier -/
  recorded : ∀ id p, workspaceExecutions.get id = some p →
    ∃ c, containers.get id = some c ∧ NoEarlier p.execution.lastActivityAt c.lastActivityAt

namespace ActivityStore

variable (s : ActivityStore)

def empty : ActivityStore where
  containers := .empty
  workspaceExecutions := .empty
  instanceActivityLeases := .empty
  instanceUpgradeDrains := .empty
  recorded _ _ h := by simp at h

/-- The time of a record that is there is not set back. -/
def Later (c : Container) : Prop :=
  ∀ current, s.containers.get c.id = some current → NoEarlier current.lastActivityAt c.lastActivityAt

/-- `#containers.set` alone -/
def putContainer (c : Container) (h : s.Later c) : ActivityStore :=
  { s with
    containers := s.containers.put c
    recorded := by
      intro id p hp
      obtain ⟨current, hcurrent, hle⟩ := s.recorded id p hp
      rw [Table.get_put]
      by_cases hid : id = c.id
      · subst hid
        rw [if_pos rfl]
        exact ⟨c, rfl, hle.trans (h current hcurrent)⟩
      · rw [if_neg hid]
        exact ⟨current, hcurrent, hle⟩ }

/-- Both maps are set, to the same time. -/
def putBoth (c : Container) (p : WorkspaceExecutionProjection) (hid : p.id = c.id)
    (h : p.execution.lastActivityAt = c.lastActivityAt) : ActivityStore :=
  { s with
    containers := s.containers.put c
    workspaceExecutions := s.workspaceExecutions.put p
    recorded := by
      intro id q hq
      rw [Table.get_put] at hq ⊢
      by_cases hi : id = c.id
      · rw [if_pos (hi.trans hid.symm)] at hq
        rw [if_pos hi]
        cases hq
        exact ⟨c, rfl, h ▸ NoEarlier.refl _⟩
      · rw [if_neg (hid ▸ hi)] at hq
        rw [if_neg hi]
        exact s.recorded id q hq }

/-! ## Records and projections -/

def workspaceActive (id : String) : Bool :=
  (s.workspaceExecutions.get id).any fun p => p.workspace.status = .active

/-- The record and the projection of a Workspace that is active. -/
def activeWorkspace (id : String) : Option (Container × WorkspaceExecutionProjection) :=
  match s.containers.get id, s.workspaceExecutions.get id with
  | some container, some projection =>
    if projection.workspace.status = .active then some (container, projection) else none
  | _, _ => none

theorem activeWorkspace_eq {id : String} {c : Container} {p : WorkspaceExecutionProjection}
    (h : s.activeWorkspace id = some (c, p)) :
    s.containers.get id = some c ∧ s.workspaceExecutions.get id = some p := by
  unfold activeWorkspace at h
  split at h
  · next hc hp =>
    split at h
    · cases h
      exact ⟨hc, hp⟩
    · cases h
  · cases h

/-- The time is set to what the caller has, whatever is stored. -/
def touchContainer (id at' : String) : ActivityStore :=
  match h : s.activeWorkspace id with
  | none => s
  | some (container, projection) =>
    s.putBoth (container.touched at') (projection.touched at')
      ((Table.key_of_get (s.activeWorkspace_eq h).2).trans (Table.key_of_get (s.activeWorkspace_eq h).1).symm) rfl

/-- The record as it is stored. -/
def stored (container : Container) : Container :=
  match s.containers.get container.id with
  | some current => container.touched (latestTimestamp current.lastActivityAt container.lastActivityAt)
  | none => container

theorem stored_id (container : Container) : (s.stored container).id = container.id := by
  unfold stored
  split <;> rfl

theorem stored_later (container : Container) : s.Later (s.stored container) := by
  intro current hcurrent
  rw [s.stored_id container] at hcurrent
  unfold stored
  rw [hcurrent]
  exact noEarlier_latestTimestamp _ _

theorem project_id {c : Container} {p : WorkspaceExecutionProjection}
    (h : projectContainerToWorkspaceExecution c = .ok p) :
    p.id = c.id ∧ p.execution.lastActivityAt = c.lastActivityAt := by
  unfold projectContainerToWorkspaceExecution at h
  cases hp : normalizeProviderId c.providerId with
  | error e =>
    rw [hp] at h
    cases h
  | ok providerId =>
    rw [hp] at h
    cases h
    exact ⟨rfl, rfl⟩

/-- Only a row that was never compared and saved may be overwritten. -/
def casRequired (id : String) : Bool :=
  (s.workspaceExecutions.get id).any fun p => 1 < p.execution.revision ∨ p.workspace.status ≠ .active

/-- The record is set before it is projected, so a record that cannot be projected is there afterwards. -/
def writeContainer (container : Container) : Except Failure Unit × ActivityStore :=
  if s.casRequired container.id then (.error .casRequired, s)
  else
    match h : projectContainerToWorkspaceExecution (s.stored container) with
    | .error e => (.error e, s.putContainer (s.stored container) (s.stored_later container))
    | .ok p =>
      (.ok (), s.putBoth (s.stored container) p (project_id h).1 (project_id h).2)

def saveContainer (container : Container) : Except Failure Unit × ActivityStore :=
  s.writeContainer container

/-- The store in memory saves and updates in the same way. -/
def updateContainer (container : Container) : Except Failure Unit × ActivityStore :=
  s.writeContainer container

/-- The projection as it is saved over a record. -/
def savedProjection (projection : WorkspaceExecutionProjection) (expectedRevision : Nat) (record : Container) :
    WorkspaceExecutionProjection :=
  { projection with
    execution := { projection.execution with
      revision := expectedRevision + 1
      lastActivityAt := latestTimestamp record.lastActivityAt projection.execution.lastActivityAt } }

def compareAndSaveWorkspaceExecution (projection : WorkspaceExecutionProjection) (expectedRevision : Nat) :
    Except Failure (Option WorkspaceExecutionProjection) × ActivityStore :=
  match s.workspaceExecutions.get projection.id with
  | none => (.ok none, s)
  | some current =>
    if current.execution.revision ≠ expectedRevision then (.ok none, s)
    else
      match assertWorkspaceExecutionTransition current projection with
      | .error e => (.error e, s)
      | .ok () =>
        -- the next revision projects as this one does
        match s.containers.get projection.id with
        | none => (.ok none, s)
        | some record =>
          let updated := savedProjection projection expectedRevision record
          (.ok (some updated), s.putBoth (containerOf updated) updated rfl rfl)

/-! ## Leases and drains -/

theorem later_touched {id : String} {c : Container} (h : s.containers.get id = some c) (at' : String) :
    s.Later (c.touched (latestTimestamp c.lastActivityAt at')) := by
  intro current hcurrent
  have hid : c.id = id := Table.key_of_get h
  rw [show (c.touched (latestTimestamp c.lastActivityAt at')).id = id from hid, h] at hcurrent
  cases hcurrent
  exact noEarlier_latestTimestamp _ _

/-- `#touchContainerAt` -/
def touchContainerAt (instanceId at' : String) : ActivityStore :=
  match hc : s.containers.get instanceId with
  | none => s
  | some container =>
    let lastActivityAt := latestTimestamp container.lastActivityAt at'
    match hp : s.workspaceExecutions.get instanceId with
    | none => s.putContainer (container.touched lastActivityAt) (s.later_touched hc at')
    | some projection =>
      s.putBoth (container.touched lastActivityAt) (projection.touched lastActivityAt)
        ((Table.key_of_get hp).trans (Table.key_of_get hc).symm) rfl

def deleteDrain (instanceId : String) : ActivityStore :=
  { s with instanceUpgradeDrains := s.instanceUpgradeDrains.delete instanceId }

/-- An expired drain is deleted by whoever looks at it. -/
def isInstanceDraining (instanceId at' : String) : Bool × ActivityStore :=
  match s.instanceUpgradeDrains.get instanceId with
  | none => (false, s)
  | some drain => if drain.expiresAt > at' then (true, s) else (false, s.deleteDrain instanceId)

def putLease (lease : InstanceActivityLease) : ActivityStore :=
  { s with instanceActivityLeases := s.instanceActivityLeases.put lease }

def tryOpenInstanceActivityLease (lease : InstanceActivityLease) (at' : String) : Bool × ActivityStore :=
  if !s.workspaceActive lease.instanceId then (false, s)
  else
    let (draining, s) := s.isInstanceDraining lease.instanceId at'
    if draining then (false, s)
    else (true, (s.putLease lease).touchContainerAt lease.instanceId lease.openedAt)

def renewInstanceActivityLease (lease : InstanceActivityLease) (at' : String) : Bool × ActivityStore :=
  if !s.workspaceActive lease.instanceId || (s.instanceActivityLeases.get lease.id).isNone then (false, s)
  else
    let (draining, s) := s.isInstanceDraining lease.instanceId at'
    if draining then (false, s)
    else (true, (s.putLease lease).touchContainerAt lease.instanceId lease.lastActivityAt)

def deleteInstanceActivityLease (id : String) : ActivityStore :=
  { s with instanceActivityLeases := s.instanceActivityLeases.delete id }

def closeInstanceActivityLease (id instanceId closedAt : String) : ActivityStore :=
  let own := (s.instanceActivityLeases.get id).any fun lease => lease.instanceId = instanceId
  (if own then s.deleteInstanceActivityLease id else s).touchContainerAt instanceId closedAt

/-- A lease that holds a graceful drain back. -/
def holdsBack (request : InstanceDrainRequest) (lease : InstanceActivityLease) : Bool :=
  lease.instanceId = request.instanceId ∧ lease.heartbeatAt ≥ request.heartbeatCutoff ∧
    (lease.kind = .http ∨ lease.lastActivityAt ≥ request.websocketActivityCutoff)

def refuses (request : InstanceDrainRequest) (existing : StoredDrain) : Bool :=
  existing.expiresAt > request.at' ∧
    (existing.rolloutId ≠ request.rolloutId ∨ existing.attemptId ≠ request.attemptId)

def putDrain (drain : StoredDrain) : ActivityStore :=
  { s with instanceUpgradeDrains := s.instanceUpgradeDrains.put drain }

def expireDrain (instanceId at' : String) : ActivityStore :=
  if (s.instanceUpgradeDrains.get instanceId).any fun drain => drain.expiresAt ≤ at' then s.deleteDrain instanceId
  else s

def beginInstanceDraining (request : InstanceDrainRequest) : Bool × ActivityStore :=
  if (s.instanceUpgradeDrains.get request.instanceId).any (refuses request) then (false, s)
  else
    let s := s.expireDrain request.instanceId request.at'
    if request.mode = .graceful ∧ s.instanceActivityLeases.rows.any (holdsBack request) then (false, s)
    else (true, s.putDrain request.drain)

def clearInstanceDraining (instanceId rolloutId attemptId : String) : ActivityStore :=
  if (s.instanceUpgradeDrains.get instanceId).any fun drain =>
      drain.rolloutId = rolloutId ∧ drain.attemptId = attemptId then s.deleteDrain instanceId
  else s

end ActivityStore

end OpenApp
