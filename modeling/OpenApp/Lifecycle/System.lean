import OpenApp.Lifecycle.Instance
import OpenApp.Workspace.Operations

/-!
# Lifecycle calls over the manager's world

The world of the lifecycle is the manager's with the locks that are held. The lifecycle's own calls
take and let go of locks, or look; whatever changes a row or an environment is a call of the
manager's programs. So a run of the lifecycle, with its own calls left out, is a run of the manager
(`managerHistory`), and what holds of those holds here.
-/

namespace OpenApp

open Async Async.Prog

structure LifecycleWorld where
  base : World
  held : Finset Lock

inductive LifecycleChoice
  /-- for a call of the manager's -/
  | manager (x : Choice)
  | go
  | fails (error : Failure)
  /-- the signal that comes with a lease -/
  | lease (signal : AbortSignal)
  | flag (value : Bool)
  | text (value : String)
  | policy (policy : ProvisioningPolicy)
  | target (target : AppLaunchTarget)
  | found (inst : Option ContainerInstance)

namespace LifecycleWorld

def hold (w : LifecycleWorld) (lock : Lock) : LifecycleWorld :=
  { w with held := insert lock w.held }

def letGo (w : LifecycleWorld) (lock : Lock) : LifecycleWorld :=
  { w with held := w.held.erase lock }

/-- What a call finds that only looks. -/
def answer (w : World) : (o : LifecycleOp) → LifecycleChoice → Option o.Answer
  | .isInstanceDraining _, .flag value => some value
  | .aborted signal, .go => some (w.signals signal)
  | .getContainer id, .go => some (w.store.getContainer id)
  | .getContainerForUser userId, .go => some (w.store.getContainerForUser userId)
  | .getLiveWorkspaceExecutionForUser userId, .go => some (w.store.getLiveWorkspaceExecutionForUser userId)
  | .listContainers, .go => some w.store.listContainers
  | .getProvisioningPolicy, .policy policy => some policy
  | .getLaunchTarget _, .target target => some target
  | .isCatalogSnapshotValid _, .flag value => some value
  | .authorizeApp _, .go => some ()
  | .providerIdForApp _, .text value => some value
  | .reserveQuota _ _ _ _, .go => some ()
  | .transitionQuota _ _, .flag value => some value
  | .releaseQuota _, .go => some ()
  | .markUserAppInitialized _, .go => some ()
  | .audit _ _ _ _, .go => some ()
  | .runtimeGet _ _, .found inst => some inst
  | .sleep, .go => some ()
  | .beforeDeadline, .flag value => some value
  | _, _ => none

def look (w : LifecycleWorld) (o : LifecycleOp) (x : LifecycleChoice) : Option (Except Failure o.Answer × LifecycleWorld) :=
  match x with
  | .fails error => some (.error error, w)
  | x => (answer w.base o x).map fun a => (.ok a, w)

def perform (w : LifecycleWorld) : (o : Op ⊕ LifecycleOp) → LifecycleChoice →
    Option (Except Failure (Answers Op.Answer LifecycleOp.Answer o) × LifecycleWorld)
  | .inl o, .manager x => (w.base.perform o x).map fun r => (r.1, { w with base := r.2 })
  | .inl _, _ => none
  | .inr (.acquire lock), _ => if lock ∈ w.held then none else some (.ok (), w.hold lock)
  | .inr (.release lock), _ => some (.ok (), w.letGo lock)
  | .inr (.claimMaintenance instanceId), .lease signal =>
    if .maintenance instanceId ∈ w.held then some (.ok none, w)
    else some (.ok (some signal), w.hold (.maintenance instanceId))
  | .inr o, x => w.look o x

theorem look_base {w w' : LifecycleWorld} {o : LifecycleOp} {x : LifecycleChoice} {r : Except Failure o.Answer}
    (h : w.look o x = some (r, w')) : w'.base = w.base := by
  unfold look at h
  split at h
  · obtain ⟨_, rfl⟩ := Prod.mk.inj (Option.some.inj h)
    rfl
  · obtain ⟨a, _, ha⟩ := Option.map_eq_some_iff.1 h
    obtain ⟨_, rfl⟩ := Prod.mk.inj ha
    rfl

end LifecycleWorld

/-! ## Threads -/

inductive LifecycleCall
  | provisionForUser (userId appId : String) (startExisting authorize : Bool)
  | remove (id : String) (actorUserId : Option String)
  | removing (id : String) (actorUserId : Option String) (signal : AbortSignal) (current : WorkspaceExecutionProjection)
  | abort (signal : AbortSignal) (reason : Failure)

inductive LifecycleReturned
  | provisioned (result : ProvisionResult)
  | removed (id : String)
  | nothing

def LifecycleCall.body (l : InstanceLifecycle) : LifecycleCall → LifecycleTask (LifecycleCall ⊕ LifecycleReturned)
  | .provisionForUser userId appId startExisting authorize => do
    let result ← OpenApp.provisionForUser l userId appId startExisting authorize
    pure (.inr (.provisioned result))
  | .remove id actorUserId => do
    let (signal, current) ← beginRemoval l id
    pure (.inl (.removing id actorUserId signal current))
  | .removing id actorUserId signal current => do
    match ← removalRound l id actorUserId signal current with
    | .inl current => pure (.inl (.removing id actorUserId signal current))
    | .inr () => pure (.inr (.removed id))
  | .abort signal reason => do
    managed (Prog.await (Op.abort signal reason))
    pure (.inr .nothing)

def lifecycleSystem (l : InstanceLifecycle) : System (Op ⊕ LifecycleOp) (Answers Op.Answer LifecycleOp.Answer) Failure
    LifecycleWorld LifecycleChoice LifecycleCall LifecycleReturned where
  perform := LifecycleWorld.perform
  body := LifecycleCall.body l

theorem lifecycle_layered (l : InstanceLifecycle) :
    Layered (workspaceSystem l.manager) (lifecycleSystem l) LifecycleWorld.base where
  inl {w w' o x r} h := by
    change LifecycleWorld.perform w (.inl o) x = _ at h
    cases x with
    | manager x =>
      obtain ⟨⟨r', base⟩, hr, hw⟩ := Option.map_eq_some_iff.1 h
      obtain ⟨rfl, rfl⟩ := Prod.mk.inj hw
      exact ⟨x, hr⟩
    | _ => cases h
  inr {w w' o x r} h := by
    change LifecycleWorld.perform w (.inr o) x = _ at h
    cases o with
    | acquire lock =>
      simp only [LifecycleWorld.perform] at h
      split at h
      · cases h
      · obtain ⟨_, rfl⟩ := Prod.mk.inj (Option.some.inj h)
        rfl
    | release lock =>
      obtain ⟨_, rfl⟩ := Prod.mk.inj (Option.some.inj h)
      rfl
    | claimMaintenance id =>
      cases x with
      | lease signal =>
        simp only [LifecycleWorld.perform] at h
        split at h <;>
        · obtain ⟨_, rfl⟩ := Prod.mk.inj (Option.some.inj h)
          rfl
      | _ =>
        simp only [LifecycleWorld.perform] at h
        exact LifecycleWorld.look_base h
    | _ => exact LifecycleWorld.look_base h

/-! ## The rules of the manager, kept by the lifecycle -/

/-- The manager's calls are issued by the manager's rules. -/
def LifecycleIssued (m : Manager) (tr : LifecycleExchanges) : Op ⊕ LifecycleOp → Prop
  | .inl o => Issued m (lefts tr) o
  | .inr _ => True

section Rules

variable {m : Manager} {l : InstanceLifecycle} {α : Type}

theorem always_ask (o : LifecycleOp) : Always (LifecycleIssued m) (ask o) :=
  always_await fun _ => trivial

theorem always_managed {p : Task α} (h : ∀ tr, wp (Issued m) p (fun _ _ => True) tr) :
    Always (LifecycleIssued m) (managed p) :=
  fun tr => wp_inl (fun _ _ h => h) (fun _ _ _ => trivial) (h (lefts tr))

theorem always_throwIfAborted (signal : Option AbortSignal) : Always (LifecycleIssued m) (throwIfAborted signal) :=
  always_managed fun _ => (wp_await _ _).2 ⟨trivial, fun _ => trivial⟩

theorem always_timestamp : Always (LifecycleIssued m) timestamp :=
  always_managed fun _ => (wp_await _ _).2 ⟨trivial, fun _ => trivial⟩

theorem always_withLock {lock : Lock} {p : LifecycleTask α} (hp : Always (LifecycleIssued m) p) :
    Always (LifecycleIssued m) (withLock lock p) :=
  always_bind (always_ask _) fun _ => always_ensuring hp (always_ask _)

theorem always_withContainerLease {id : String} {f : AbortSignal → LifecycleTask α}
    (hf : ∀ signal, Always (LifecycleIssued m) (f signal)) : Always (LifecycleIssued m) (withContainerLease id f) := by
  refine always_bind (always_bind (always_ask _) fun claimed => ?_) fun result => ?_
  · cases claimed with
    | none => exact always_pure _
    | some signal =>
      refine always_ensuring (always_bind (always_throwIfAborted _) fun _ =>
        always_bind (always_ask _) fun draining => ?_) (always_ask _)
      split
      · exact always_pure _
      · exact always_bind (always_throwIfAborted _) fun _ => always_bind (hf signal) fun _ => always_pure _
  · cases result with
    | none => exact always_throw _
    | some a => exact always_pure _

theorem always_releaseQuota (id ownerId : String) : Always (LifecycleIssued m) (releaseQuota l id ownerId) := by
  unfold releaseQuota
  split
  · exact always_tryCatch (always_ask _) fun _ => always_tryCatch (always_ask _) fun _ => always_pure _
  · exact always_pure _

theorem always_updateContainer (container : Container) : Always (LifecycleIssued m) (updateContainer container) :=
  always_managed fun _ => persistLegacyContainer_wp container fun _ _ => trivial

theorem always_persistRuntimeInstance (record : Container) (inst : ContainerInstance)
    (stopReason : Option ContainerStopReason) (expectedState : Option WorkspaceDesiredState)
    (expected : Option ContainerCatalogSnapshot) :
    Always (LifecycleIssued m) (persistRuntimeInstance record inst stopReason expectedState expected) := by
  have snapshot (s : Option ContainerCatalogSnapshot) : Always (LifecycleIssued m) (assertCatalogSnapshot s) := by
    cases s with
    | none => exact always_pure _
    | some s => exact always_bind (always_ask _) fun _ => always_throwIf _ _
  refine always_bind (always_ask _) fun latest => always_bind ?_ fun updated =>
    always_bind (always_updateContainer updated) fun _ => always_pure _
  exact always_bind (always_throwIf _ _) fun _ => always_bind (always_throwIf _ _) fun _ =>
    always_bind (always_throwIf _ _) fun _ => always_bind (always_throwIf _ _) fun _ =>
    always_bind (snapshot _) fun _ => always_bind always_timestamp fun _ => always_pure _

theorem always_waitForCreation (signal : Option AbortSignal) (n : Nat) (current : Container) :
    Always (LifecycleIssued m) (waitForCreation signal n current) := by
  induction n generalizing current with
  | zero =>
    unfold waitForCreation
    split
    · exact always_throw _
    · exact always_pure _
  | succ n ih =>
    unfold waitForCreation
    split
    · refine always_bind (always_ask _) fun before => ?_
      split
      · refine always_bind (always_throwIfAborted _) fun _ => always_bind (always_ask _) fun _ =>
          always_bind (always_throwIfAborted _) fun _ => always_bind (always_ask _) fun refreshed => ?_
        cases refreshed with
        | none => exact always_throw _
        | some refreshed => exact ih refreshed
      · exact always_throw _
    · exact always_pure _

theorem always_lookAgain (id : String) (signal : AbortSignal) (n : Nat) :
    Always (LifecycleIssued m) (lookAgain id signal n) := by
  induction n with
  | zero => exact always_pure _
  | succ n ih =>
    refine always_bind (always_throwIfAborted _) fun _ => always_bind (always_ask _) fun _ =>
      always_bind (always_throwIfAborted _) fun _ => always_bind (always_ask _) fun found => ?_
    cases found with
    | none => exact ih
    | some inst => exact always_pure _

/-- What was seen of an instance is recorded, if it was seen. -/
def recordSeen (record : Container) (persist : ContainerInstance → LifecycleTask Container) :
    Option ContainerInstance → LifecycleTask Container
  | some inst => persist inst
  | none => if record.status = .failed then pure record else throw (.lifecycle "runtime_observation_unavailable")

theorem always_syncRecord (record : Container) (signal : AbortSignal) :
    Always (LifecycleIssued m) (syncRecord record signal) := by
  have seen (inst : Option ContainerInstance) : Always (LifecycleIssued m) (recordSeen record
      (fun inst => persistRuntimeInstance record inst record.stopReason none none) inst) := by
    cases inst with
    | some inst => exact always_persistRuntimeInstance _ _ _ _ _
    | none =>
      rw [recordSeen]
      split
      · exact always_pure _
      · exact always_throw _
  refine always_bind (always_throwIfAborted _) fun _ => always_bind (always_ask _) fun first => ?_
  dsimp only
  split
  · exact always_bind (always_lookAgain _ _ _) seen
  · exact always_bind (always_pure _) seen

theorem always_sync (id : String) : Always (LifecycleIssued m) (sync id) := by
  refine always_withContainerLease fun signal => always_withLock ?_
  refine always_bind (always_throwIfAborted _) fun _ => always_bind (always_ask _) fun record =>
    always_bind (always_throwIfAborted _) fun _ => ?_
  cases record with
  | none => exact always_throw _
  | some record => exact always_bind (always_waitForCreation _ _ _) fun settled => always_syncRecord settled signal

theorem always_startFailed (id : String) (current : Container) (quotaTransitioned : Bool) (signal : AbortSignal)
    (error : Failure) : Always (LifecycleIssued m) (startFailed id current quotaTransitioned signal error) := by
  refine always_bind (always_ask _) fun reason => ?_
  cases reason with
  | some reason => exact always_throw _
  | none =>
    refine always_bind (always_throwIf _ _) fun _ => ?_
    dsimp only
    split
    on_goal 1 =>
      refine always_bind (always_tryCatch (always_bind (always_ask _) fun _ => always_pure _) fun _ => always_pure _)
        fun _ => ?_
    all_goals
      refine always_bind (always_tryCatch (always_ask _) fun _ => always_pure _) fun recovered =>
        always_bind (always_ask _) fun reason => ?_
      cases reason with
      | some reason => exact always_throw _
      | none =>
        cases recovered with
        | none => exact always_throw _
        | some inst =>
          dsimp only
          split
          · exact always_bind (always_persistRuntimeInstance _ _ _ _ _) fun _ => always_throw _
          · exact always_throw _

theorem always_reconcileCurrent (id : String) (desiredState : WorkspaceDesiredState) (signal : Option AbortSignal) :
    Always (LifecycleIssued l.manager) (managed (reconcileCurrent l.manager id desiredState signal)) :=
  always_managed fun _ => reconcileCurrent_wp id desiredState signal fun _ _ => trivial

theorem always_startAdmitted (id : String) (current : Container) (quotaTransitioned : Bool) (signal : AbortSignal) :
    Always (LifecycleIssued l.manager) (startAdmitted l id current quotaTransitioned signal) := by
  refine always_bind (always_settle (always_bind (always_reconcileCurrent _ _ _) fun _ =>
    always_bind (always_throwIfAborted _) fun _ => always_pure _)) fun r => ?_
  cases r with
  | error error => exact always_startFailed _ _ _ _ _
  | ok inst => exact always_persistRuntimeInstance _ _ _ _ _

theorem always_startStopped (id : String) (current : Container) (signal : AbortSignal) :
    Always (LifecycleIssued l.manager) (startStopped l id current signal) := by
  refine always_bind (always_ask _) fun policy => always_bind (always_ask _) fun all =>
    always_bind (always_throwIf _ _) fun _ => always_bind (always_settle ?_) fun r => ?_
  · split
    · exact always_ask _
    · exact always_pure _
  · cases r with
    | error error => exact always_startFailed _ _ _ _ _
    | ok quotaTransitioned =>
      dsimp only
      split
      · exact always_startFailed _ _ _ _ _
      · exact always_startAdmitted _ _ _ _

theorem always_startLocked (id : String) (signal : AbortSignal) :
    Always (LifecycleIssued l.manager) (startLocked l id signal) := by
  refine always_withLock (always_bind (always_throwIfAborted _) fun _ => always_bind (always_ask _) fun record =>
    always_bind (always_throwIfAborted _) fun _ => ?_)
  cases record with
  | none => exact always_throw _
  | some record =>
    refine always_bind (always_waitForCreation _ _ _) fun settled => always_bind (always_syncRecord _ _) fun current => ?_
    split
    · exact always_pure _
    · refine always_bind (always_throwIf _ _) fun _ => always_bind (always_ask _) fun fresh =>
        always_bind (always_throwIfAborted _) fun _ => ?_
      cases fresh with
      | none => exact always_throw _
      | some fresh =>
        dsimp only
        split
        · exact always_syncRecord _ _
        · exact always_bind (always_throwIf _ _) fun _ => always_startStopped _ _ _

theorem always_returnExisting (record : Container) (userId : String) (startExisting : Bool) :
    Always (LifecycleIssued l.manager) (returnExisting l record userId startExisting) := by
  refine always_bind (always_waitForCreation _ _ _) fun settled => always_bind (always_ask _) fun _ =>
    always_bind (always_sync _) fun current => ?_
  split
  · exact always_bind (always_withContainerLease fun signal => always_withLock (always_startLocked _ signal))
      fun _ => always_pure _
  · exact always_pure _

theorem always_assertNoLiveWorkspaceForUser (userId : String) :
    Always (LifecycleIssued m) (assertNoLiveWorkspaceForUser userId) :=
  always_bind (always_ask _) fun _ => always_throwIf _ _

theorem always_saveReservation (userId appId id providerId : String) (policy : ProvisioningPolicy)
    (launchTarget : AppLaunchTarget) :
    Always (LifecycleIssued m) (saveReservation l userId appId id providerId policy launchTarget) := by
  have save (pending : Container) : Always (LifecycleIssued m) (tryCatch
      (managed (Prog.await (Op.saveContainer pending))) fun error => do
        if l.quotaAdmission then releaseQuota l id userId
        throw error : LifecycleTask Unit) := by
    refine always_tryCatch (always_managed fun _ => (wp_await _ _).2 ⟨trivial, fun _ => trivial⟩) fun error => ?_
    dsimp only
    split
    · exact always_bind (always_releaseQuota _ _) fun _ => always_throw _
    · exact always_bind (always_pure _) fun _ => always_throw _
  refine always_bind ?_ fun _ => always_bind always_timestamp fun _ => always_bind (save _) fun _ => always_pure _
  unfold reserveQuota
  split
  · exact always_ask _
  · exact always_pure _

theorem always_admitProvision (userId appId : String) : Always (LifecycleIssued m) (admitProvision l userId appId) := by
  refine always_bind (always_ask _) fun policy => always_bind (always_ask _) fun launchTarget =>
    always_bind (always_ask _) fun all => always_bind (always_throwIf _ _) fun _ => ?_
  exact always_bind (always_throwIf _ _) fun _ =>
    always_bind (always_managed fun _ => (wp_await _ _).2 ⟨trivial, fun _ => trivial⟩) fun id =>
    always_bind (always_ask _) fun providerId => always_saveReservation _ _ _ _ _ _

theorem always_reserveProvision (userId appId : String) (authorize : Bool) :
    Always (LifecycleIssued m) (reserveProvision l userId appId authorize) := by
  refine always_withLock (always_bind (always_ask _) fun existing => ?_)
  cases existing with
  | some existing => exact always_pure _
  | none =>
    have admitted : Always (LifecycleIssued m) (Sum.inl (β := Container) <$> admitProvision l userId appId) :=
      always_bind (always_admitProvision _ _) fun _ => always_pure _
    refine always_bind (always_assertNoLiveWorkspaceForUser _) fun _ => ?_
    dsimp only
    split
    · exact always_bind (always_ask _) fun _ => admitted
    · exact admitted

theorem always_provisionReserved (userId : String) (reservation : Reservation) :
    Always (LifecycleIssued l.manager) (provisionReserved l userId reservation) := by
  refine always_bind (always_tryCatch ?_ fun error => ?_) fun container =>
    always_bind (always_ask _) fun _ => always_pure _
  · exact always_bind (always_managed fun _ => bridgeProvision_wp _ fun _ _ => trivial) fun inst =>
      always_persistRuntimeInstance _ _ _ _ _
  · refine always_bind (always_ensuring (always_bind always_timestamp fun _ => always_updateContainer _) ?_)
      fun _ => always_throw _
    split
    · exact always_releaseQuota _ _
    · exact always_pure _

theorem always_provisionForUser (userId appId : String) (startExisting authorize : Bool) :
    Always (LifecycleIssued l.manager) (provisionForUser l userId appId startExisting authorize) := by
  refine always_withLock (always_bind (always_ask _) fun existing => ?_)
  cases existing with
  | some existing => exact always_returnExisting _ _ _
  | none =>
    refine always_bind (always_assertNoLiveWorkspaceForUser _) fun _ =>
      always_bind (always_reserveProvision _ _ _) fun reserved => ?_
    cases reserved with
    | inl reservation => exact always_provisionReserved _ _
    | inr existing => exact always_returnExisting _ _ _

theorem always_letGo (id : String) : Always (LifecycleIssued m) (letGo id) :=
  always_bind (always_ask _) fun _ => always_bind (always_ask _) fun _ => always_ask _

theorem always_finishRemoval (id : String) (actorUserId : Option String) (ownerId : String) :
    Always (LifecycleIssued m) (finishRemoval l id actorUserId ownerId) :=
  always_bind (always_releaseQuota _ _) fun _ => always_bind (always_ask _) fun _ => always_ask _

end Rules

end OpenApp
