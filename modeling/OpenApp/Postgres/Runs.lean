import OpenApp.Postgres.Constraints

/-!
# Runs of the store

The databases that an initialisation, the operations of the store and later starts of the Portal
leave. Every one keeps the constraints of the initialisation, and every row of a Workspace is what
a projection is written as, with its owner there.
-/

namespace OpenApp

open Sql Sql.Truth Script

/-- The operations on Workspaces, leases and drains. -/
inductive StoreCall
  | saveContainer (container : Container)
  | updateContainer (container : Container)
  | compareAndSaveWorkspaceExecution (projection : WorkspaceExecutionProjection) (expectedRevision : Nat)
  | touchContainer (id at' : String)
  | deleteContainer (id : String)
  | tryOpenInstanceActivityLease (lease : InstanceActivityLease) (at' : String)
  | renewInstanceActivityLease (lease : InstanceActivityLease) (at' : String)
  | deleteInstanceActivityLease (id : String)
  | closeInstanceActivityLease (id instanceId closedAt : String)
  | beginInstanceDraining (request : InstanceDrainRequest)
  | clearInstanceDraining (instanceId rolloutId attemptId : String)

/-- What a transaction leaves: nothing of one that fails. -/
def Transaction.leaves {α : Type} (transaction : Transaction α) (db : Database) : Database :=
  match transaction db with
  | .ok (_, db') => db'
  | .error _ => db

def StoreCall.leaves (db : Database) : StoreCall → Database
  | .saveContainer container => (Database.saveContainer container).leaves db
  | .updateContainer container => (Database.updateContainer container).leaves db
  | .compareAndSaveWorkspaceExecution projection expectedRevision =>
    (Database.compareAndSaveWorkspaceExecution projection expectedRevision).leaves db
  | .touchContainer id at' => (Database.touchContainer id at').leaves db
  | .deleteContainer id => (Database.deleteContainer id).leaves db
  | .tryOpenInstanceActivityLease lease at' => (Database.tryOpenInstanceActivityLease lease at').leaves db
  | .renewInstanceActivityLease lease at' => (Database.renewInstanceActivityLease lease at').leaves db
  | .deleteInstanceActivityLease id => (Database.deleteInstanceActivityLease id).leaves db
  | .closeInstanceActivityLease id instanceId closedAt =>
    (Database.closeInstanceActivityLease id instanceId closedAt).leaves db
  | .beginInstanceDraining request => (Database.beginInstanceDraining request).leaves db
  | .clearInstanceDraining instanceId rolloutId attemptId =>
    (Database.clearInstanceDraining instanceId rolloutId attemptId).leaves db

def Database.schema (db : Database) : Database where
  users := db.users.schema
  containers := db.containers.schema
  tenants := db.tenants.schema
  tenantMemberships := db.tenantMemberships.schema
  workspaceTenantBindings := db.workspaceTenantBindings.schema
  appVersions := db.appVersions.schema
  upgradeRollouts := db.upgradeRollouts.schema
  upgradeRolloutItems := db.upgradeRolloutItems.schema
  instanceActivityLeases := db.instanceActivityLeases.schema
  instanceUpgradeDrains := db.instanceUpgradeDrains.schema
  imageArtifacts := db.imageArtifacts.schema

/-- The columns of a user that are texts, and what the database keeps of the tables around those of
the Workspaces. -/
structure Database.Sound (db : Database) : Prop where
  ids : ∀ r ∈ db.users.rows, ∃ id, r .id = .text id
  users : db.users.Sound
  tenants : db.tenants.Sound
  upgradeRollouts : db.upgradeRollouts.Sound
  upgradeRolloutItems : db.upgradeRolloutItems.Sound
  instanceUpgradeDrains : db.instanceUpgradeDrains.Sound

/-- Any operation on the other tables: no user is deleted, and no constraint is broken. -/
structure Elsewhere (db db' : Database) : Prop where
  containers : db'.containers = db.containers
  schema : db'.schema = db.schema
  users : ∀ r ∈ db.users.rows, ∃ r' ∈ db'.users.rows, r' .id = r .id
  sound : db'.Sound

/-- The databases the store and the starts of the Portal leave. -/
inductive Reachable : Database → Prop
  | initialised {db : Database} : initializeCoreSchema .empty = .ok db → Reachable db
  | called {db : Database} (call : StoreCall) : Reachable db → Reachable (call.leaves db)
  | elsewhere {db db' : Database} : Reachable db → Elsewhere db db' → Reachable db'
  | restarted {db db' : Database} : Reachable db → initializeCoreSchema db = .ok db' → Reachable db'

/-! ## The invariant -/

structure Initialised (db : Database) : Prop where
  schema : db.schema = .initial
  sound : db.Sound
  written : ∀ r ∈ db.containers.rows, Written r
  owners : ∀ r ∈ db.containers.rows, ∃ user ∈ db.users.rows, user .id = r .userId

theorem Database.initial_initialised : Initialised .initial where
  schema := rfl
  sound := ⟨nofun, nofun, nofun, nofun, nofun, nofun⟩
  written := nofun
  owners := nofun

namespace Initialised

variable {db db' : Database}

theorem containersSchema (h : Initialised db) : db.containers.schema = containersSchema :=
  congrArg Database.containers h.schema

/-- An update of rows of Workspaces, to rows of projections with an owner. -/
theorem updateContainers (h : Initialised db) {references : Table.References ContainerColumn}
    {condition : ContainerRow → Truth} {set : ContainerRow → ContainerRow} {t : Table ContainerColumn}
    (ht : db.containers.updateWhere references condition set = .ok t)
    (hset : ∀ r ∈ db.containers.rows, Holds (condition r) →
      Written (set r) ∧ ∃ user ∈ db.users.rows, user .id = set r .userId) :
    Initialised { db with containers := t } where
  schema := by
    rw [← h.schema]
    exact congrArg (fun s => { db.schema with containers := s }) (Table.schema_updateWhere ht)
  sound := ⟨h.sound.ids, h.sound.users, h.sound.tenants, h.sound.upgradeRollouts, h.sound.upgradeRolloutItems,
    h.sound.instanceUpgradeDrains⟩
  written := by
    intro s hs
    rcases Table.mem_updateWhere ht hs with hold | ⟨r, hr, hholds, rfl, _⟩
    · exact h.written s hold
    · exact (hset r hr hholds).1
  owners := by
    intro s hs
    rcases Table.mem_updateWhere ht hs with hold | ⟨r, hr, hholds, rfl, _⟩
    · exact h.owners s hold
    · exact (hset r hr hholds).2

/-- A new row of a projection; its owner is there, for the reference is looked at. -/
theorem insertContainer (h : Initialised db) {row : ContainerRow} {t : Table ContainerColumn} {owner : String}
    (ht : db.containers.insert db.containerReferences row = .ok t) (hw : Written row)
    (howner : row .userId = .text owner) : Initialised { db with containers := t } where
  schema := by
    rw [← h.schema]
    exact congrArg (fun s => { db.schema with containers := s }) (Table.schema_insert ht)
  sound := ⟨h.sound.ids, h.sound.users, h.sound.tenants, h.sound.upgradeRollouts, h.sound.upgradeRolloutItems,
    h.sound.instanceUpgradeDrains⟩
  written := by
    intro s hs
    rcases Table.mem_insert ht hs with hold | ⟨rfl, _⟩
    · exact h.written s hold
    · exact hw
  owners := by
    intro s hs
    rcases Table.mem_insert ht hs with hold | ⟨rfl, haccepts⟩
    · exact h.owners s hold
    · have hreference := allOf_none.1 haccepts.references _ List.mem_cons_self
      rcases refersTo_none.1 hreference with hnull | ⟨_, hnone, _⟩ | hhas
      · rw [howner] at hnull
        cases hnull
      · cases hnone
      · exact Table.has_iff.1 hhas

theorem leases (h : Initialised db) {t : Table InstanceActivityLeaseColumn}
    (ht : t.schema = db.instanceActivityLeases.schema) : Initialised { db with instanceActivityLeases := t } where
  schema := by
    rw [← h.schema]
    exact congrArg (fun s => { db.schema with instanceActivityLeases := s }) ht
  sound := ⟨h.sound.ids, h.sound.users, h.sound.tenants, h.sound.upgradeRollouts, h.sound.upgradeRolloutItems,
    h.sound.instanceUpgradeDrains⟩
  written := h.written
  owners := h.owners

theorem drains (h : Initialised db) {t : Table InstanceUpgradeDrainColumn}
    (ht : t.schema = db.instanceUpgradeDrains.schema) (hsound : t.Sound) :
    Initialised { db with instanceUpgradeDrains := t } where
  schema := by
    rw [← h.schema]
    exact congrArg (fun s => { db.schema with instanceUpgradeDrains := s }) ht
  sound := ⟨h.sound.ids, h.sound.users, h.sound.tenants, h.sound.upgradeRollouts, h.sound.upgradeRolloutItems, hsound⟩
  written := h.written
  owners := h.owners

end Initialised

/-! ## One lemma for each operation -/

section Operations

variable {db db' : Database}

/-- A statement that went through, with what follows it. -/
theorem statement_ok {Col α : Type} {r : Except Refusal (Table Col)} {k : Table Col → Except StoreError α} {a : α}
    (h : (statement r >>= k) = .ok a) : ∃ t, r = .ok t ∧ k t = .ok a := by
  cases r with
  | error e => cases h
  | ok t => exact ⟨t, rfl, h⟩

theorem computed_ok {α β : Type} {r : Except Failure α} {k : α → Except StoreError β} {b : β}
    (h : (computed r >>= k) = .ok b) : ∃ a, r = .ok a ∧ k a = .ok b := by
  cases r with
  | error e => cases h
  | ok a => exact ⟨a, rfl, h⟩

theorem touch_initialised {condition : ContainerRow → Truth} {at' : Value → Value} {a : Unit} (h : Initialised db)
    (hat : ∀ r, Written r → ∃ later, at' (r .lastActivityAt) = .text later)
    (ht : Database.touch condition at' db = .ok (a, db')) : Initialised db' := by
  obtain ⟨t, hu, hdb⟩ := statement_ok ht
  cases hdb
  refine h.updateContainers hu fun r hr _ => ⟨?_, h.owners r hr⟩
  have hw := h.written r hr
  obtain ⟨later, hlater⟩ := hat r hw
  have := hw.withActivity later
  rw [← hlater] at this
  convert this using 1
  funext c
  cases c <;> rfl

/-- Where a record is written over a row that was never compared and saved. -/
theorem recordContainer_initialised {references : Table.References ContainerColumn} {container : Container}
    {p : WorkspaceExecutionProjection} {t : Table ContainerColumn} (h : Initialised db)
    (hp : projectContainerToWorkspaceExecution container = .ok p)
    (ht : db.containers.updateWhere references (Database.untouched container.id)
      (Database.recordContainer (containerWriteValues container p)) = .ok t) :
    Initialised { db with containers := t } := by
  refine h.updateContainers ht fun r hr hholds => ⟨?_, h.owners r hr⟩
  have hid := holds_all.1 hholds _ List.mem_cons_self
  exact Written.recordContainer hp (h.written r hr) (holds_is.1 hid)

theorem saveContainer_initialised {container : Container} {a : Unit} (h : Initialised db)
    (ht : Database.saveContainer container db = .ok (a, db')) : Initialised db' := by
  obtain ⟨p, hp, ht⟩ := computed_ok ht
  dsimp only at ht
  split at ht
  · split at ht
    · obtain ⟨t, hu, hdb⟩ := statement_ok ht
      cases hdb
      exact recordContainer_initialised h hp hu
    · cases ht
  · split at ht
    · cases ht
    · obtain ⟨t, hi, hdb⟩ := statement_ok ht
      cases hdb
      exact h.insertContainer hi ⟨p, projectContainer_projectable hp, containerWriteValues_project hp⟩ rfl

theorem updateContainer_initialised {container : Container} {a : Unit} (h : Initialised db)
    (ht : Database.updateContainer container db = .ok (a, db')) : Initialised db' := by
  obtain ⟨p, hp, ht⟩ := computed_ok ht
  split at ht
  · obtain ⟨t, hu, hdb⟩ := statement_ok ht
    cases hdb
    exact recordContainer_initialised h hp hu
  · split at ht
    · cases ht
      exact h
    · obtain ⟨_, _, ht⟩ := computed_ok ht
      cases ht

/-- The owner of the row a comparison reads is that of the projection it is read as. -/
theorem selected_owner {id : String} {selected : ContainerRow} {current : WorkspaceExecutionProjection}
    (h : Initialised db) (hselected : db.containerRow id = some selected)
    (hcurrent : mapWorkspaceExecutionProjection selected = .ok current) :
    ∃ user ∈ db.users.rows, user .id = .text current.workspace.ownerId := by
  have hmem := List.mem_of_find?_eq_some hselected
  obtain ⟨p, hp, rfl⟩ := h.written selected hmem
  rw [written, map_written hp] at hcurrent
  cases hcurrent
  exact h.owners _ hmem

theorem compareAndSave_initialised {projection : WorkspaceExecutionProjection} {expectedRevision : Nat}
    {a : Option WorkspaceExecutionProjection} (h : Initialised db)
    (ht : Database.compareAndSaveWorkspaceExecution projection expectedRevision db = .ok (a, db')) :
    Initialised db' := by
  unfold Database.compareAndSaveWorkspaceExecution at ht
  split at ht
  · cases ht
    exact h
  · next selected hselected =>
    obtain ⟨current, hcurrent, ht⟩ := computed_ok ht
    split at ht
    · cases ht
      exact h
    · obtain ⟨_, hassert, ht⟩ := computed_ok ht
      obtain ⟨container, hcontainer, ht⟩ := computed_ok ht
      obtain ⟨t, hu, ht⟩ := statement_ok ht
      have htransition := assertWorkspaceExecutionTransition_ok.1 hassert
      obtain ⟨hprojectable, rfl⟩ := projectWorkspaceExecutionToContainer_ok.1 hcontainer
      have howner := selected_owner h hselected hcurrent
      have hinit : Initialised { db with containers := t } := by
        refine h.updateContainers hu fun r hr _ => ⟨?_, ?_⟩
        · obtain ⟨later, hlater⟩ := (h.written r hr).greatest projection.execution.lastActivityAt
          have hw := Written.withActivity ⟨_, hprojectable, rfl⟩ later
          rw [← hlater] at hw
          convert hw using 1
          funext c
          cases c <;> rfl
        · rw [htransition.identity.ownerId] at howner
          exact howner
      split at ht
      · cases ht
        exact h
      · obtain ⟨q, _, hdb⟩ := computed_ok ht
        cases hdb
        exact hinit

/-- What an operation on leases does last: it sets the time of the last activity of the Workspace. -/
theorem touched_initialised {id at' : String} {t : Table InstanceActivityLeaseColumn} {a : Bool} (h : Initialised db)
    (hschema : t.schema = db.instanceActivityLeases.schema)
    (ht : (do
      let ((), db) ← Database.touch (fun r => (r .id).is id) (greatest · (.text at'))
        { db with instanceActivityLeases := t }
      return (true, db)) = Except.ok (a, db')) : Initialised db' := by
  have hleases := h.leases hschema
  cases htouch : Database.touch (fun r => (r .id).is id) (greatest · (.text at'))
      { db with instanceActivityLeases := t } with
  | error e =>
    rw [htouch] at ht
    cases ht
  | ok result =>
    rw [htouch] at ht
    cases ht
    exact touch_initialised hleases (fun r hr => hr.greatest at') htouch

theorem tryOpen_initialised {lease : InstanceActivityLease} {at' : String} {a : Bool} (h : Initialised db)
    (ht : Database.tryOpenInstanceActivityLease lease at' db = .ok (a, db')) : Initialised db' := by
  unfold Database.tryOpenInstanceActivityLease at ht
  split at ht
  · split at ht
    · cases ht
      exact h
    · obtain ⟨t, hu, ht⟩ := statement_ok ht
      exact touched_initialised h (Table.schema_upsert hu) ht
  · cases ht

theorem renew_initialised {lease : InstanceActivityLease} {at' : String} {a : Bool} (h : Initialised db)
    (ht : Database.renewInstanceActivityLease lease at' db = .ok (a, db')) : Initialised db' := by
  unfold Database.renewInstanceActivityLease at ht
  split at ht
  · split at ht
    · cases ht
      exact h
    · obtain ⟨t, hu, ht⟩ := statement_ok ht
      split at ht
      · exact touched_initialised h (Table.schema_updateWhere hu) ht
      · cases ht
        exact h
  · cases ht

theorem close_initialised {id instanceId closedAt : String} {a : Unit} (h : Initialised db)
    (ht : Database.closeInstanceActivityLease id instanceId closedAt db = .ok (a, db')) : Initialised db' := by
  unfold Database.closeInstanceActivityLease at ht
  cases htouch : Database.touch (fun r => (r .id).is instanceId) (greatest · (.text closedAt)) db with
  | error e =>
    rw [htouch] at ht
    cases ht
  | ok result =>
    rw [htouch] at ht
    cases ht
    exact (touch_initialised h (fun r hr => hr.greatest closedAt) htouch).leases Table.schema_deleteWhere

theorem begin_initialised {request : InstanceDrainRequest} {a : Bool} (h : Initialised db)
    (ht : Database.beginInstanceDraining request db = .ok (a, db')) : Initialised db' := by
  unfold Database.beginInstanceDraining at ht
  split at ht
  · split at ht
    · cases ht
      exact h
    · split at ht
      · cases ht
        exact h
      · obtain ⟨t, hu, hdb⟩ := statement_ok ht
        cases hdb
        exact h.drains (Table.schema_upsert hu) (h.sound.instanceUpgradeDrains.upsert hu)
  · cases ht

theorem deleteContainer_initialised {id : String} (h : Initialised db) :
    Initialised ((Database.deleteContainer id).leaves db) where
  schema := h.schema
  sound := ⟨h.sound.ids, h.sound.users, h.sound.tenants, h.sound.upgradeRollouts, h.sound.upgradeRolloutItems,
    h.sound.instanceUpgradeDrains.deleteWhere⟩
  written r hr := h.written r (List.mem_filter.1 hr).1
  owners r hr := h.owners r (List.mem_filter.1 hr).1

theorem leaves_initialised {α : Type} {transaction : Transaction α} (h : Initialised db)
    (hok : ∀ a db', transaction db = .ok (a, db') → Initialised db') : Initialised (transaction.leaves db) := by
  unfold Transaction.leaves
  split
  · next a db' heq => exact hok a db' heq
  · exact h

end Operations

theorem StoreCall.leaves_initialised {db : Database} (h : Initialised db) (call : StoreCall) :
    Initialised (call.leaves db) := by
  cases call <;> simp only [StoreCall.leaves]
  case saveContainer => exact OpenApp.leaves_initialised h fun _ _ => saveContainer_initialised h
  case updateContainer => exact OpenApp.leaves_initialised h fun _ _ => updateContainer_initialised h
  case compareAndSaveWorkspaceExecution =>
    exact OpenApp.leaves_initialised h fun _ _ => compareAndSave_initialised h
  case touchContainer id at' =>
    exact OpenApp.leaves_initialised h fun _ _ => touch_initialised h fun _ _ => ⟨at', rfl⟩
  case deleteContainer => exact deleteContainer_initialised h
  case tryOpenInstanceActivityLease => exact OpenApp.leaves_initialised h fun _ _ => tryOpen_initialised h
  case renewInstanceActivityLease => exact OpenApp.leaves_initialised h fun _ _ => renew_initialised h
  case deleteInstanceActivityLease => exact h.leases Table.schema_deleteWhere
  case closeInstanceActivityLease => exact OpenApp.leaves_initialised h fun _ _ => close_initialised h
  case beginInstanceDraining => exact OpenApp.leaves_initialised h fun _ _ => begin_initialised h
  case clearInstanceDraining =>
    exact h.drains Table.schema_deleteWhere h.sound.instanceUpgradeDrains.deleteWhere

theorem Elsewhere.initialised {db db' : Database} (h : Initialised db) (e : Elsewhere db db') : Initialised db' where
  schema := e.schema.trans h.schema
  sound := e.sound
  written := by
    rw [e.containers]
    exact h.written
  owners := by
    rw [e.containers]
    intro r hr
    obtain ⟨user, huser, hid⟩ := h.owners r hr
    obtain ⟨user', huser', hid'⟩ := e.users user huser
    exact ⟨user', huser', hid'.trans hid⟩

end OpenApp
