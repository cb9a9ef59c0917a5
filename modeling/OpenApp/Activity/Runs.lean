import OpenApp.Activity.Memory
import OpenApp.Async.Machine
import OpenApp.Postgres.Migration

/-!
# The last activity over a run

The writers of the time of the last activity in any order, over either store. All of them take the later
one of the stored time and their own, but for `touchContainer`: it stores the time it is given. Its
callers take that time before they wait for the runtime to measure an instance, so a connection that is
opened meanwhile is stored first, with a later one.
-/

namespace OpenApp

open Keyed Machine Script Sql Sql.Truth

/-- The writers of the time, and what decides whether a lease is opened or renewed. -/
inductive ActivityCall
  | touchContainer (id at' : String)
  | saveContainer (container : Container)
  | updateContainer (container : Container)
  | compareAndSaveWorkspaceExecution (projection : WorkspaceExecutionProjection) (expectedRevision : Nat)
  | tryOpenInstanceActivityLease (lease : InstanceActivityLease) (at' : String)
  | renewInstanceActivityLease (lease : InstanceActivityLease) (at' : String)
  | deleteInstanceActivityLease (id : String)
  | closeInstanceActivityLease (id instanceId closedAt : String)
  | beginInstanceDraining (request : InstanceDrainRequest)
  | clearInstanceDraining (instanceId rolloutId attemptId : String)

namespace ActivityCall

/-- What a call leaves of the store in memory. -/
def leavesMemory (s : ActivityStore) : ActivityCall → ActivityStore
  | .touchContainer id at' => s.touchContainer id at'
  | .saveContainer container => (s.saveContainer container).2
  | .updateContainer container => (s.updateContainer container).2
  | .compareAndSaveWorkspaceExecution projection expectedRevision =>
    (s.compareAndSaveWorkspaceExecution projection expectedRevision).2
  | .tryOpenInstanceActivityLease lease at' => (s.tryOpenInstanceActivityLease lease at').2
  | .renewInstanceActivityLease lease at' => (s.renewInstanceActivityLease lease at').2
  | .deleteInstanceActivityLease id => s.deleteInstanceActivityLease id
  | .closeInstanceActivityLease id instanceId closedAt => s.closeInstanceActivityLease id instanceId closedAt
  | .beginInstanceDraining request => (s.beginInstanceDraining request).2
  | .clearInstanceDraining instanceId rolloutId attemptId => s.clearInstanceDraining instanceId rolloutId attemptId

def storeCall : ActivityCall → StoreCall
  | .touchContainer id at' => .touchContainer id at'
  | .saveContainer container => .saveContainer container
  | .updateContainer container => .updateContainer container
  | .compareAndSaveWorkspaceExecution projection expectedRevision =>
    .compareAndSaveWorkspaceExecution projection expectedRevision
  | .tryOpenInstanceActivityLease lease at' => .tryOpenInstanceActivityLease lease at'
  | .renewInstanceActivityLease lease at' => .renewInstanceActivityLease lease at'
  | .deleteInstanceActivityLease id => .deleteInstanceActivityLease id
  | .closeInstanceActivityLease id instanceId closedAt => .closeInstanceActivityLease id instanceId closedAt
  | .beginInstanceDraining request => .beginInstanceDraining request
  | .clearInstanceDraining instanceId rolloutId attemptId => .clearInstanceDraining instanceId rolloutId attemptId

/-- What a call leaves of the database. -/
def leavesDatabase (db : Database) (call : ActivityCall) : Database :=
  call.storeCall.leaves db

end ActivityCall

/-! ## Any store -/

section AnyStore

variable {S κ : Type} {time : S → κ → Option String} {leaves : S → ActivityCall → S} {s : S} {calls : List ActivityCall}

/-- Every time that is stored stays, or gives way to one no earlier. -/
def NotSetBack (time : S → κ → Option String) (s s' : S) : Prop :=
  ∀ k, ∀ t ∈ time s k, ∃ t' ∈ time s' k, NoEarlier t t'

theorem NotSetBack.refl (s : S) : NotSetBack time s s := by
  intro k t ht
  exact ⟨t, ht, NoEarlier.refl t⟩

theorem NotSetBack.trans {a b c : S} (h : NotSetBack time a b) (h' : NotSetBack time b c) : NotSetBack time a c := by
  intro k t ht
  obtain ⟨t', ht', hle⟩ := h k t ht
  obtain ⟨t'', ht'', hle'⟩ := h' k t' ht'
  exact ⟨t'', ht'', hle.trans hle'⟩

/-- A store takes every call, and one after the other. -/
def activityStep (leaves : S → ActivityCall → S) (s : S) (call : ActivityCall) : Option S :=
  some (leaves s call)

/-- At no moment of the run is a time stored that is earlier than one stored before. -/
def NeverSetBack (leaves : S → ActivityCall → S) (time : S → κ → Option String) (s : S) (calls : List ActivityCall) :
    Prop :=
  Grows (activityStep leaves) (NotSetBack time) s calls

theorem neverSetBack_iff {I : S → Prop} {Timely : S → ActivityCall → Prop} (h₀ : I s)
    (hI : ∀ s call, I s → I (leaves s call))
    (h : ∀ s call, I s → (NotSetBack time s (leaves s call) ↔ Timely s call)) :
    NeverSetBack leaves time s calls ↔ Along (activityStep leaves) Timely s calls := by
  unfold NeverSetBack
  rw [grows_iff NotSetBack.refl NotSetBack.trans]
  apply Along.iff h₀
  · intro s call s' hs hstep
    cases hstep
    exact hI s call hs
  · intro s call hs
    rw [← h s call hs]
    constructor
    · intro hstep
      exact hstep _ rfl
    · intro hstep s' hs'
      cases hs'
      exact hstep

end AnyStore

/-! ## In memory -/

namespace ActivityStore

/-- Where the store has the time. -/
inductive Copy
  | container | projection
  deriving DecidableEq

def time (s : ActivityStore) : Copy × String → Option String
  | (.container, id) => (s.containers.get id).map (·.lastActivityAt)
  | (.projection, id) => (s.workspaceExecutions.get id).map (·.execution.lastActivityAt)

/-- What a touch must keep to: its time is no earlier than the one of the record. -/
def Timely (s : ActivityStore) : ActivityCall → Prop
  | .touchContainer id at' => ∀ w ∈ s.activeWorkspace id, NoEarlier w.1.lastActivityAt at'
  | _ => True

instance (s : ActivityStore) (call : ActivityCall) : Decidable (s.Timely call) := by
  cases call <;> unfold Timely <;> infer_instance

variable {s : ActivityStore}

theorem notSetBack_of_maps {s' : ActivityStore} (hc : s'.containers = s.containers)
    (hp : s'.workspaceExecutions = s.workspaceExecutions) : NotSetBack time s s' := by
  rintro ⟨copy, id⟩ t ht
  refine ⟨t, ?_, NoEarlier.refl t⟩
  cases copy
  · rw [time, hc]
    exact ht
  · rw [time, hp]
    exact ht

theorem notSetBack_putContainer (c : Container) (h : s.Later c) : NotSetBack time s (s.putContainer c h) := by
  rintro ⟨copy, id⟩ t ht
  cases copy with
  | projection => exact ⟨t, ht, NoEarlier.refl t⟩
  | container =>
    obtain ⟨current, hcurrent, rfl⟩ := Option.map_eq_some_iff.1 ht
    by_cases hid : id = c.id
    · subst hid
      refine ⟨c.lastActivityAt, ?_, h current hcurrent⟩
      simp [time, putContainer]
    · refine ⟨current.lastActivityAt, ?_, NoEarlier.refl _⟩
      simp [time, putContainer, Table.get_put_of_ne _ _ hid, hcurrent]

/-- Neither copy is set back: the time of the projection was no later than that of the record. -/
theorem notSetBack_putBoth {c : Container} {p : WorkspaceExecutionProjection} (hid : p.id = c.id)
    (htime : p.execution.lastActivityAt = c.lastActivityAt) (h : s.Later c) :
    NotSetBack time s (s.putBoth c p hid htime) := by
  rintro ⟨copy, id⟩ t ht
  cases copy with
  | container => exact notSetBack_putContainer c h (.container, id) t ht
  | projection =>
    obtain ⟨q, hq, rfl⟩ := Option.map_eq_some_iff.1 ht
    by_cases hi : id = p.id
    · subst hi
      obtain ⟨current, hcurrent, hle⟩ := s.recorded _ q hq
      refine ⟨p.execution.lastActivityAt, ?_, ?_⟩
      · simp [time, putBoth]
      · rw [htime]
        exact hle.trans (h current (hid ▸ hcurrent))
    · refine ⟨q.execution.lastActivityAt, ?_, NoEarlier.refl _⟩
      simp [time, putBoth, Table.get_put_of_ne _ _ hi, hq]

theorem notSetBack_writeContainer (container : Container) : NotSetBack time s (s.writeContainer container).2 := by
  unfold writeContainer
  split
  · exact NotSetBack.refl s
  · split
    · exact notSetBack_putContainer _ (s.stored_later container)
    · next hp => exact notSetBack_putBoth (project_id hp).1 (project_id hp).2 (s.stored_later container)

theorem notSetBack_compareAndSave (projection : WorkspaceExecutionProjection) (expectedRevision : Nat) :
    NotSetBack time s (s.compareAndSaveWorkspaceExecution projection expectedRevision).2 := by
  unfold compareAndSaveWorkspaceExecution
  split
  · exact NotSetBack.refl s
  · split
    · exact NotSetBack.refl s
    · split
      · exact NotSetBack.refl s
      · split
        · exact NotSetBack.refl s
        · next record hrecord =>
          refine notSetBack_putBoth rfl rfl ?_
          intro current hcurrent
          have heq : s.containers.get projection.id = some current := hcurrent
          rw [hrecord] at heq
          cases heq
          exact noEarlier_latestTimestamp _ _

theorem notSetBack_touchContainerAt (instanceId at' : String) : NotSetBack time s (s.touchContainerAt instanceId at') := by
  unfold touchContainerAt
  split
  · exact NotSetBack.refl s
  · next hc =>
    dsimp only
    split
    · exact notSetBack_putContainer _ _
    · exact notSetBack_putBoth _ _ (s.later_touched hc at')

theorem notSetBack_isInstanceDraining (instanceId at' : String) :
    NotSetBack time s (s.isInstanceDraining instanceId at').2 := by
  unfold isInstanceDraining
  split
  · exact NotSetBack.refl s
  · split
    · exact NotSetBack.refl s
    · exact notSetBack_of_maps rfl rfl

/-- A lease is stored, and its time where it is the later one. -/
theorem notSetBack_lease {s' : ActivityStore} (h : NotSetBack time s s') (lease : InstanceActivityLease)
    (instanceId at' : String) : NotSetBack time s ((s'.putLease lease).touchContainerAt instanceId at') := by
  have hput : NotSetBack time s' (s'.putLease lease) := notSetBack_of_maps rfl rfl
  exact h.trans (hput.trans (notSetBack_touchContainerAt instanceId at'))

theorem notSetBack_tryOpen (lease : InstanceActivityLease) (at' : String) :
    NotSetBack time s (s.tryOpenInstanceActivityLease lease at').2 := by
  have hlook := notSetBack_isInstanceDraining (s := s) lease.instanceId at'
  unfold tryOpenInstanceActivityLease
  split
  · exact NotSetBack.refl s
  · dsimp only
    split
    · exact hlook
    · exact notSetBack_lease hlook lease _ _

theorem notSetBack_renew (lease : InstanceActivityLease) (at' : String) :
    NotSetBack time s (s.renewInstanceActivityLease lease at').2 := by
  have hlook := notSetBack_isInstanceDraining (s := s) lease.instanceId at'
  unfold renewInstanceActivityLease
  split
  · exact NotSetBack.refl s
  · dsimp only
    split
    · exact hlook
    · exact notSetBack_lease hlook lease _ _

theorem notSetBack_close (id instanceId closedAt : String) :
    NotSetBack time s (s.closeInstanceActivityLease id instanceId closedAt) := by
  unfold closeInstanceActivityLease
  dsimp only
  split
  · have hdelete : NotSetBack time s (s.deleteInstanceActivityLease id) := notSetBack_of_maps rfl rfl
    exact hdelete.trans (notSetBack_touchContainerAt instanceId closedAt)
  · exact notSetBack_touchContainerAt instanceId closedAt

theorem expireDrain_maps (instanceId at' : String) :
    (s.expireDrain instanceId at').containers = s.containers ∧
      (s.expireDrain instanceId at').workspaceExecutions = s.workspaceExecutions := by
  unfold expireDrain
  split <;> exact ⟨rfl, rfl⟩

theorem notSetBack_begin (request : InstanceDrainRequest) : NotSetBack time s (s.beginInstanceDraining request).2 := by
  obtain ⟨hc, hp⟩ := expireDrain_maps (s := s) request.instanceId request.at'
  unfold beginInstanceDraining
  split
  · exact NotSetBack.refl s
  · dsimp only
    split
    · exact notSetBack_of_maps hc hp
    · exact notSetBack_of_maps hc hp

theorem notSetBack_clear (instanceId rolloutId attemptId : String) :
    NotSetBack time s (s.clearInstanceDraining instanceId rolloutId attemptId) := by
  unfold clearInstanceDraining
  split
  · exact notSetBack_of_maps rfl rfl
  · exact NotSetBack.refl s

/-- The one writer that takes no maximum. -/
theorem notSetBack_touchContainer_iff (id at' : String) :
    NotSetBack time s (s.touchContainer id at') ↔ ∀ w ∈ s.activeWorkspace id, NoEarlier w.1.lastActivityAt at' := by
  unfold touchContainer
  split
  · next hnone =>
    constructor
    · intro _ w hw
      rw [hnone] at hw
      cases hw
    · intro _
      exact NotSetBack.refl s
  · next c p hactive =>
    obtain ⟨hc, -⟩ := s.activeWorkspace_eq hactive
    have hid : c.id = id := Table.key_of_get hc
    constructor
    · intro h w hw
      rw [hactive] at hw
      cases hw
      obtain ⟨t', ht', hle⟩ := h (.container, id) c.lastActivityAt (by simp [time, hc])
      have hat : t' = at' := by
        subst hid
        have hput := Table.get_put_self s.containers (c.touched at')
        simp only [time, putBoth, Option.mem_def] at ht'
        rw [show (c.touched at').id = c.id from rfl] at hput
        rw [hput] at ht'
        exact (Option.some.inj ht').symm
      exact hat ▸ hle
    · intro h
      refine notSetBack_putBoth _ _ ?_
      intro current hcurrent
      have heq : s.containers.get c.id = some current := hcurrent
      rw [hid, hc] at heq
      cases heq
      exact h _ hactive

theorem notSetBack_iff (call : ActivityCall) : NotSetBack time s (call.leavesMemory s) ↔ s.Timely call := by
  cases call with
  | touchContainer id at' => exact notSetBack_touchContainer_iff id at'
  | saveContainer container => exact iff_of_true (notSetBack_writeContainer container) trivial
  | updateContainer container => exact iff_of_true (notSetBack_writeContainer container) trivial
  | compareAndSaveWorkspaceExecution p n => exact iff_of_true (notSetBack_compareAndSave p n) trivial
  | tryOpenInstanceActivityLease lease at' => exact iff_of_true (notSetBack_tryOpen lease at') trivial
  | renewInstanceActivityLease lease at' => exact iff_of_true (notSetBack_renew lease at') trivial
  | deleteInstanceActivityLease id => exact iff_of_true (notSetBack_of_maps rfl rfl) trivial
  | closeInstanceActivityLease id i t => exact iff_of_true (notSetBack_close id i t) trivial
  | beginInstanceDraining request => exact iff_of_true (notSetBack_begin request) trivial
  | clearInstanceDraining i r a => exact iff_of_true (notSetBack_clear i r a) trivial

end ActivityStore

/-! ## On PostgreSQL -/

namespace Database

def time (db : Database) (id : String) : Option String :=
  (db.containerRow id).bind fun r =>
    match r .lastActivityAt with
    | .text value => some value
    | _ => none

def Timely (db : Database) : ActivityCall → Prop
  | .touchContainer id at' => ∀ r ∈ db.containerRow id, Holds (activeContainer id r) → ∀ t ∈ db.time id, NoEarlier t at'
  | _ => True

instance (db : Database) (call : ActivityCall) : Decidable (db.Timely call) := by
  cases call <;> unfold Timely <;> infer_instance

variable {db db' : Database}

theorem time_of_row {id t : String} {r : ContainerRow} (h : db.containerRow id = some r)
    (ht : r .lastActivityAt = .text t) : db.time id = some t := by
  unfold time
  rw [h, Option.bind_some, ht]

theorem row_of_time {id t : String} (h : db.time id = some t) :
    ∃ r, db.containerRow id = some r ∧ r .lastActivityAt = .text t := by
  obtain ⟨r, hr, ht⟩ := Option.bind_eq_some_iff.1 h
  refine ⟨r, hr, ?_⟩
  split at ht
  · next heq =>
    cases ht
    exact heq
  · cases ht

theorem notSetBack_of_containers (h : db'.containers = db.containers) : NotSetBack time db db' := by
  intro id t ht
  refine ⟨t, ?_, NoEarlier.refl t⟩
  rw [time, containerRow, h]
  exact ht

/-- The row of a Workspace after an update, which keeps the ids. -/
theorem containerRow_updateWhere {references : Table.References ContainerColumn} {condition : ContainerRow → Truth}
    {set : ContainerRow → ContainerRow} {t : Table ContainerColumn}
    (h : db.containers.updateWhere references condition set = .ok t)
    (hid : ∀ r, Holds (condition r) → set r .id = r .id) (id : String) :
    ({ db with containers := t } : Database).containerRow id =
      (db.containerRow id).map fun r => if Holds (condition r) then set r else r := by
  obtain ⟨-, rfl⟩ := Table.of_updateWhere_ok h
  unfold containerRow
  dsimp only
  rw [List.find?_map]
  congr 2
  funext r
  dsimp only [Function.comp_apply]
  split
  · next hholds => rw [hid r hholds]
  · rfl

/-- An update of rows sets no time back, if it does not in the rows it writes. -/
theorem notSetBack_updateWhere {references : Table.References ContainerColumn} {condition : ContainerRow → Truth}
    {set : ContainerRow → ContainerRow} {t : Table ContainerColumn}
    (h : db.containers.updateWhere references condition set = .ok t)
    (hid : ∀ r, Holds (condition r) → set r .id = r .id)
    (hset : ∀ r t, Holds (condition r) → r .lastActivityAt = .text t →
      ∃ t', set r .lastActivityAt = .text t' ∧ NoEarlier t t') :
    NotSetBack time db { db with containers := t } := by
  intro id t₀ ht
  obtain ⟨r, hr, hlast⟩ := row_of_time ht
  have hrow := containerRow_updateWhere h hid id
  rw [hr, Option.map_some] at hrow
  by_cases hholds : Holds (condition r)
  · rw [if_pos hholds] at hrow
    obtain ⟨t', ht', hle⟩ := hset r t₀ hholds hlast
    exact ⟨t', time_of_row hrow ht', hle⟩
  · rw [if_neg hholds] at hrow
    exact ⟨t₀, time_of_row hrow hlast, NoEarlier.refl t₀⟩

theorem greatest_text (t t' : String) : greatest (.text t) (.text t') = .text (latestTimestamp t t') := rfl

theorem notSetBack_insert {references : Table.References ContainerColumn} {row : ContainerRow}
    {t : Table ContainerColumn} (h : db.containers.insert references row = .ok t) :
    NotSetBack time db { db with containers := t } := by
  obtain ⟨-, rfl⟩ := Table.of_insert_ok h
  intro id t₀ ht
  obtain ⟨r, hr, hlast⟩ := row_of_time ht
  refine ⟨t₀, time_of_row ?_ hlast, NoEarlier.refl t₀⟩
  unfold containerRow at hr ⊢
  dsimp only
  rw [List.find?_append, hr]
  rfl

/-- A record that is written over a row keeps the later time. -/
theorem notSetBack_recordContainer {references : Table.References ContainerColumn} {container : Container}
    {p : WorkspaceExecutionProjection} {t : Table ContainerColumn}
    (h : db.containers.updateWhere references (untouched container.id)
      (recordContainer (containerWriteValues container p)) = .ok t) :
    NotSetBack time db { db with containers := t } := by
  refine notSetBack_updateWhere h (fun _ _ => rfl) ?_
  intro r t₀ _ hlast
  refine ⟨latestTimestamp t₀ container.lastActivityAt, ?_, noEarlier_latestTimestamp _ _⟩
  change greatest (r .lastActivityAt) (.text container.lastActivityAt) = _
  rw [hlast, greatest_text]

theorem notSetBack_saveContainer {container : Container} {a : Unit} (h : saveContainer container db = .ok (a, db')) :
    NotSetBack time db db' := by
  obtain ⟨p, -, h⟩ := computed_ok h
  dsimp only at h
  split at h
  · split at h
    · obtain ⟨t, hu, hdb⟩ := statement_ok h
      cases hdb
      exact notSetBack_recordContainer hu
    · cases h
  · split at h
    · cases h
    · obtain ⟨t, hi, hdb⟩ := statement_ok h
      cases hdb
      exact notSetBack_insert hi

theorem notSetBack_updateContainer {container : Container} {a : Unit}
    (h : updateContainer container db = .ok (a, db')) : NotSetBack time db db' := by
  obtain ⟨p, -, h⟩ := computed_ok h
  split at h
  · obtain ⟨t, hu, hdb⟩ := statement_ok h
    cases hdb
    exact notSetBack_recordContainer hu
  · split at h
    · cases h
      exact NotSetBack.refl _
    · obtain ⟨_, -, h⟩ := computed_ok h
      cases h

theorem notSetBack_compareAndSave {projection : WorkspaceExecutionProjection} {expectedRevision : Nat}
    {a : Option WorkspaceExecutionProjection}
    (h : compareAndSaveWorkspaceExecution projection expectedRevision db = .ok (a, db')) : NotSetBack time db db' := by
  unfold compareAndSaveWorkspaceExecution at h
  split at h
  · cases h
    exact NotSetBack.refl _
  · obtain ⟨current, -, h⟩ := computed_ok h
    split at h
    · cases h
      exact NotSetBack.refl _
    · obtain ⟨_, -, h⟩ := computed_ok h
      obtain ⟨container, hcontainer, h⟩ := computed_ok h
      obtain ⟨t, hu, h⟩ := statement_ok h
      obtain ⟨-, rfl⟩ := projectWorkspaceExecutionToContainer_ok.1 hcontainer
      have hwritten : NotSetBack time db { db with containers := t } := by
        refine notSetBack_updateWhere hu ?_ ?_
        · intro r hholds
          have hid := holds_all.1 hholds _ List.mem_cons_self
          exact (holds_is.1 hid).symm
        · intro r t₀ _ hlast
          refine ⟨latestTimestamp t₀ projection.execution.lastActivityAt, ?_, noEarlier_latestTimestamp _ _⟩
          change greatest (r .lastActivityAt) (.text projection.execution.lastActivityAt) = _
          rw [hlast, greatest_text]
      split at h
      · cases h
        exact NotSetBack.refl _
      · obtain ⟨q, -, hdb⟩ := computed_ok h
        cases hdb
        exact hwritten

/-- A touch with the later one of two times. -/
theorem notSetBack_touch {condition : ContainerRow → Truth} {at' : String} {a : Unit}
    (h : touch condition (greatest · (.text at')) db = .ok (a, db')) : NotSetBack time db db' := by
  obtain ⟨t, hu, hdb⟩ := statement_ok h
  cases hdb
  refine notSetBack_updateWhere hu (fun _ _ => rfl) ?_
  intro r t₀ _ hlast
  refine ⟨latestTimestamp t₀ at', ?_, noEarlier_latestTimestamp _ _⟩
  dsimp only
  rw [hlast, greatest_text]

theorem notSetBack_touched {id at' : String} {t : Table InstanceActivityLeaseColumn} {a : Bool}
    (h : (do
      let ((), db) ← touch (fun r => (r .id).is id) (greatest · (.text at')) { db with instanceActivityLeases := t }
      return (true, db)) = Except.ok (a, db')) : NotSetBack time db db' := by
  cases htouch : touch (fun r => (r .id).is id) (greatest · (.text at')) { db with instanceActivityLeases := t } with
  | error e =>
    rw [htouch] at h
    cases h
  | ok result =>
    rw [htouch] at h
    cases h
    have hleases : NotSetBack time db { db with instanceActivityLeases := t } := notSetBack_of_containers rfl
    exact hleases.trans (notSetBack_touch htouch)

theorem notSetBack_tryOpen {lease : InstanceActivityLease} {at' : String} {a : Bool}
    (h : tryOpenInstanceActivityLease lease at' db = .ok (a, db')) : NotSetBack time db db' := by
  unfold tryOpenInstanceActivityLease at h
  split at h
  · split at h
    · cases h
      exact NotSetBack.refl _
    · obtain ⟨t, -, h⟩ := statement_ok h
      exact notSetBack_touched h
  · cases h

theorem notSetBack_renew {lease : InstanceActivityLease} {at' : String} {a : Bool}
    (h : renewInstanceActivityLease lease at' db = .ok (a, db')) : NotSetBack time db db' := by
  unfold renewInstanceActivityLease at h
  split at h
  · split at h
    · cases h
      exact NotSetBack.refl _
    · obtain ⟨t, -, h⟩ := statement_ok h
      split at h
      · exact notSetBack_touched h
      · cases h
        exact NotSetBack.refl _
  · cases h

theorem notSetBack_close {id instanceId closedAt : String} {a : Unit}
    (h : closeInstanceActivityLease id instanceId closedAt db = .ok (a, db')) : NotSetBack time db db' := by
  unfold closeInstanceActivityLease at h
  cases htouch : touch (fun r => (r .id).is instanceId) (greatest · (.text closedAt)) db with
  | error e =>
    rw [htouch] at h
    cases h
  | ok result =>
    rw [htouch] at h
    cases h
    exact (notSetBack_touch htouch).trans (notSetBack_of_containers rfl)

theorem notSetBack_begin {request : InstanceDrainRequest} {a : Bool}
    (h : beginInstanceDraining request db = .ok (a, db')) : NotSetBack time db db' := by
  unfold beginInstanceDraining at h
  split at h
  · split at h
    · cases h
      exact NotSetBack.refl _
    · split at h
      · cases h
        exact NotSetBack.refl _
      · obtain ⟨t, -, hdb⟩ := statement_ok h
        cases hdb
        exact notSetBack_of_containers rfl
  · cases h

/-- A touch of a row the store has written is not refused. -/
theorem touchContainer_ok (hdb : Initialised db) (id at' : String) :
    ∃ db', touchContainer id at' db = .ok ((), db') ∧ ∀ id',
      db'.containerRow id' = (db.containerRow id').map fun r =>
        if Holds (activeContainer id r) then withActivity (.text at') r else r := by
  have htouch : touchContainer id at' db =
      (statement (db.containers.updateWhere db.containerReferences (activeContainer id) (withActivity (.text at'))) >>=
        fun containers => Except.ok ((), { db with containers := containers })) := by
    refine congrArg (fun set =>
      statement (db.containers.updateWhere db.containerReferences (activeContainer id) set) >>=
        fun containers => Except.ok ((), { db with containers := containers })) ?_
    funext r c
    cases c <;> rfl
  have haccepts : ∀ r ∈ db.containers.rows, Holds (activeContainer id r) →
      db.containers.Accepts db.containerReferences (some r) (withActivity (.text at') r) := by
    intro r hr _
    refine ⟨?_, allOf_none.2 ?_⟩
    · exact ((hdb.written r hr).withActivity at').admits.of_schema hdb.containersSchema
    · intro reference hmem
      simp only [List.mem_cons, List.not_mem_nil, or_false] at hmem
      -- the row had its owner and its image before
      rcases hmem with rfl | rfl
      · exact refersTo_none.2 (.inr (.inl ⟨r, rfl, rfl⟩))
      · exact refersTo_none.2 (.inr (.inl ⟨r, rfl, rfl⟩))
  have hok := Table.updateWhere_ok haccepts
  refine ⟨_, ?_, fun id' => containerRow_updateWhere hok (fun _ _ => rfl) id'⟩
  rw [htouch, hok]
  rfl

theorem notSetBack_touchContainer_iff (hdb : Initialised db) (id at' : String) :
    NotSetBack time db ((touchContainer id at').leaves db) ↔ db.Timely (.touchContainer id at') := by
  obtain ⟨db', hok, hrow⟩ := touchContainer_ok hdb id at'
  have hleaves : (touchContainer id at').leaves db = db' := by
    unfold Transaction.leaves
    rw [hok]
  rw [hleaves]
  constructor
  · intro h r hr hholds t ht
    obtain ⟨t', ht', hle⟩ := h id t ht
    have hr' := hrow id
    rw [Option.mem_def.1 hr, Option.map_some, if_pos hholds] at hr'
    have hat : t' = at' := by
      have := time_of_row hr' (t := at') rfl
      rw [Option.mem_def.1 ht'] at this
      exact Option.some.inj this
    exact hat ▸ hle
  · intro h id' t ht
    obtain ⟨r, hr, hlast⟩ := row_of_time ht
    have hr' := hrow id'
    rw [hr, Option.map_some] at hr'
    by_cases hholds : Holds (activeContainer id r)
    · rw [if_pos hholds] at hr'
      have hid : id' = id := by
        have hmem : r .id = .text id := holds_is.1 (holds_all.1 hholds _ List.mem_cons_self)
        have hfound : r .id = .text id' := by simpa using List.find?_some hr
        rw [hmem] at hfound
        cases hfound
        rfl
      subst hid
      exact ⟨at', time_of_row hr' rfl, h r hr hholds t ht⟩
    · rw [if_neg hholds] at hr'
      exact ⟨t, time_of_row hr' hlast, NoEarlier.refl t⟩

/-- What a transaction that goes through does not do, no call of it does. -/
theorem notSetBack_leaves {α : Type} {transaction : Transaction α}
    (h : ∀ a db', transaction db = .ok (a, db') → NotSetBack time db db') :
    NotSetBack time db (transaction.leaves db) := by
  unfold Transaction.leaves
  split
  · next a db' heq => exact h a db' heq
  · exact NotSetBack.refl db

theorem notSetBack_iff (hdb : Initialised db) (call : ActivityCall) :
    NotSetBack time db (call.leavesDatabase db) ↔ db.Timely call := by
  cases call <;> simp only [ActivityCall.leavesDatabase, ActivityCall.storeCall, StoreCall.leaves]
  case touchContainer id at' => exact notSetBack_touchContainer_iff hdb id at'
  all_goals simp only [Timely, iff_true]
  case saveContainer => exact notSetBack_leaves fun _ _ => notSetBack_saveContainer
  case updateContainer => exact notSetBack_leaves fun _ _ => notSetBack_updateContainer
  case compareAndSaveWorkspaceExecution => exact notSetBack_leaves fun _ _ => notSetBack_compareAndSave
  case tryOpenInstanceActivityLease => exact notSetBack_leaves fun _ _ => notSetBack_tryOpen
  case renewInstanceActivityLease => exact notSetBack_leaves fun _ _ => notSetBack_renew
  case deleteInstanceActivityLease => exact notSetBack_of_containers rfl
  case closeInstanceActivityLease => exact notSetBack_leaves fun _ _ => notSetBack_close
  case beginInstanceDraining => exact notSetBack_leaves fun _ _ => notSetBack_begin
  case clearInstanceDraining => exact notSetBack_of_containers rfl

end Database

/-! ## Either store -/

theorem ActivityStore.neverSetBack_iff (s : ActivityStore) (calls : List ActivityCall) :
    NeverSetBack (fun s call => call.leavesMemory s) ActivityStore.time s calls ↔
      Along (activityStep fun s call => call.leavesMemory s) ActivityStore.Timely s calls := by
  apply OpenApp.neverSetBack_iff (I := fun _ => True) trivial
  · intro _ _ _
    trivial
  · intro s call _
    exact ActivityStore.notSetBack_iff call

theorem Database.neverSetBack_iff {db : Database} (hdb : Reachable db) (calls : List ActivityCall) :
    NeverSetBack (fun db call => call.leavesDatabase db) Database.time db calls ↔
      Along (activityStep fun db call => call.leavesDatabase db) Database.Timely db calls := by
  apply OpenApp.neverSetBack_iff hdb.invariant
  · intro db call h
    exact call.storeCall.leaves_initialised h
  · intro db call h
    exact Database.notSetBack_iff h call

/-- No time is set back, over either store, just when every touch of an active Workspace comes with a time no
earlier than the stored one. -/
theorem activity_never_set_back (s : ActivityStore) (db : Database) (calls : List ActivityCall) :
    (NeverSetBack (fun s call => call.leavesMemory s) ActivityStore.time s calls ↔
      Along (activityStep fun s call => call.leavesMemory s) ActivityStore.Timely s calls) ∧
    (Reachable db →
      (NeverSetBack (fun db call => call.leavesDatabase db) Database.time db calls ↔
        Along (activityStep fun db call => call.leavesDatabase db) Database.Timely db calls)) :=
  ⟨ActivityStore.neverSetBack_iff s calls, fun hdb => Database.neverSetBack_iff hdb calls⟩

/-- A terminal that is opened five seconds after the launch. -/
def openedTerminal : InstanceActivityLease where
  id := "lease"
  instanceId := "workspace"
  kind := .websocket
  openedAt := "2026-08-04T00:00:05.000Z"
  heartbeatAt := "2026-08-04T00:00:05.000Z"
  lastActivityAt := "2026-08-04T00:00:05.000Z"

/-- The terminal is opened while a sweep, which took its time in the given second, measures the instance. -/
def sampledAround (second : String) : List ActivityCall :=
  [.tryOpenInstanceActivityLease openedTerminal "2026-08-04T00:00:05.000Z",
    .touchContainer "workspace" ("2026-08-04T00:00:0" ++ second ++ ".000Z")]

theorem activity_never_set_back_later :
    NeverSetBack (fun db call => call.leavesDatabase db) Database.time withWorkspace (sampledAround "6") :=
  ((activity_never_set_back .empty withWorkspace (sampledAround "6")).2 withWorkspace_reachable).2 (by decide)

theorem earlier_sample_sets_back :
    ¬ NeverSetBack (fun s call => call.leavesMemory s) ActivityStore.time
        (ActivityStore.empty.saveContainer launched).2 (sampledAround "1") ∧
      ¬ NeverSetBack (fun db call => call.leavesDatabase db) Database.time withWorkspace (sampledAround "1") := by
  rw [ActivityStore.neverSetBack_iff, Database.neverSetBack_iff withWorkspace_reachable]
  decide

end OpenApp
