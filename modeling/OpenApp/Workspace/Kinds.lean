import OpenApp.Workspace.Operations

/-!
# What kinds of saves a run can contain

Some statements are about runs of reconciles, or about runs in which nothing is deleted. What such
calls can save is read off their programs, whatever the answers are.
-/

namespace OpenApp

open Async Async.Prog

variable {m : Manager}

/-! ## Calls that save no container and delete nothing -/

def Caller.ofDeletion : Caller → Bool
  | .beginDeletion _ => true
  | .advanceDeletion _ _ _ => true
  | .finalizeDeletion _ => true
  | .recordDeletionFailure _ _ => true
  | _ => false

def Caller.ofReconcile : Caller → Bool
  | .persistLegacyContainer _ => false
  | caller => !caller.ofDeletion

/-- No save of a deletion. -/
def Op.live : Op → Prop
  | .compareAndSaveWorkspaceExecution caller _ _ => caller.ofDeletion = false
  | _ => True

/-- No save but those of a reconcile. -/
def Op.reconciling : Op → Prop
  | .compareAndSaveWorkspaceExecution caller _ _ => caller.ofReconcile = true
  | .saveContainer _ => False
  | _ => True

/-- No save but those of a deletion, and no provider asked to run anything. -/
def Op.deleting : Op → Prop
  | .compareAndSaveWorkspaceExecution caller _ _ => caller.ofDeletion = true
  | .saveContainer _ => False
  | .reconcile _ => False
  | _ => True

theorem Op.live_of_reconciling {o : Op} (h : o.reconciling) : o.live := by
  cases o with
  | compareAndSaveWorkspaceExecution caller => cases caller <;> first | rfl | cases h
  | _ => trivial

section Only

variable {P : Op → Prop}

theorem getProjection_only {caller : Caller} {id : String} (h : P (.getWorkspaceExecutionProjection caller id)) :
    Only P (getProjection caller id) :=
  only_bind (only_await h) fun r => by cases r <;> trivial

/-- The shape of every try: a read, then what depends on the row. -/
theorem attempt_only {α : Type} {caller : Caller} {id : String} {f : WorkspaceExecutionProjection → Task α}
    (h : P (.getWorkspaceExecutionProjection caller id)) (hf : ∀ p, Only P (f p)) :
    Only P (getProjection caller id >>= f) :=
  only_bind (getProjection_only h) hf

theorem persistIntent_only (input : WorkspaceExecutionReconcileInput) (transactionId : String) :
    Only Op.reconciling (persistIntent input transactionId) := by
  refine only_retry (attempt_only trivial fun p => ?_) (only_throw _) _
  refine only_bind (only_throwIf _ _) fun _ => only_bind (only_bind (only_throwIf _ _) fun _ => only_throwIf _ _) fun _ => ?_
  split
  · exact only_pure _
  · exact only_bind (only_await trivial) fun _ => only_await rfl

theorem commitResult_only (input : WorkspaceExecutionReconcileInput) (result : ExecutionReconcileResult) :
    Only Op.reconciling (commitResult input result) := by
  refine only_retry (attempt_only trivial fun p => ?_) (only_throw _) _
  refine only_bind (only_throwIf _ _) fun _ => ?_
  split
  · split
    · exact only_pure _
    · exact only_throw _
  · refine only_bind (only_throwIf _ _) fun _ => only_bind (only_await trivial) fun _ =>
      only_bind (only_fromExcept _) fun _ => ?_
    split
    · exact only_bind (only_throwIf _ _) fun _ => only_await rfl
    · exact only_await rfl

theorem recordProviderFailure_only (workspaceId transactionId : String) (error : Failure) :
    Only Op.reconciling (recordProviderFailure workspaceId transactionId error) := by
  refine only_retry (attempt_only trivial fun p => ?_) (only_throw _) _
  split
  · exact only_pure _
  · exact only_bind (only_await trivial) fun _ => only_bind (only_await rfl) fun _ => only_pure _

theorem reconcile_only (input : WorkspaceExecutionReconcileInput) : Only Op.reconciling (reconcile m input) := by
  have transaction : Only Op.reconciling (reconcileTransactionId m input) := by
    unfold reconcileTransactionId
    split
    · split
      · exact only_fromExcept _
      · exact only_await trivial
    · exact only_await trivial
  have execute (transactionId : String) (intent : WorkspaceExecutionProjection) :
      Only Op.reconciling (executeIntent m input transactionId intent) :=
    only_bind (only_bind (only_await trivial) fun _ => only_bind (only_throwIf _ _) fun _ => only_pure _) fun _ =>
      only_bind (only_await trivial) fun _ => only_bind (only_await trivial) fun _ => commitResult_only _ _
  refine only_bind (only_await trivial) fun _ => only_bind (only_throwIf _ _) fun _ => attempt_only trivial fun p => ?_
  refine only_bind (only_throwIf _ _) fun _ => only_bind (only_throwIf _ _) fun _ => only_bind transaction fun tx => ?_
  refine only_bind (persistIntent_only _ _) fun intent => ?_
  split
  · exact only_pure _
  · refine only_tryCatch (execute _ _) fun error => ?_
    split
    · exact only_bind (recordProviderFailure_only _ _ _) fun _ => only_throw _
    · exact only_throw _

theorem requestAppId_only (request : ProvisionContainerRequest) : Only Op.reconciling (requestAppId request) := by
  unfold requestAppId
  split
  · exact only_pure _
  · exact only_bind (only_await trivial) fun _ => only_bind (only_throwIf _ _) fun _ => only_pure _

theorem requireLaunchProfile_only (request : ProvisionContainerRequest) :
    Only Op.reconciling (requireLaunchProfile request) := by
  unfold requireLaunchProfile
  split
  · split
    · exact only_pure _
    · exact only_throw _
  · exact only_throw _

theorem persistLegacyContainer_only (container : Container) : Only Op.live (persistLegacyContainer container) := by
  refine only_retry (attempt_only trivial fun p => ?_) (only_throw _) _
  refine only_bind (only_throwIf _ _) fun _ => only_bind (only_fromExcept _) fun _ =>
    only_bind (only_throwIf _ _) fun _ => ?_
  split
  · exact only_pure _
  · exact only_bind (only_await rfl) fun _ => only_pure _

theorem beginDeletion_only (input : WorkspaceDeletionInput) : Only Op.deleting (beginDeletion m input) := by
  refine only_bind (only_fromExcept _) fun transactionId =>
    only_retry (attempt_only trivial fun p => ?_) (only_throw _) _
  split
  · exact only_pure _
  · exact only_bind (only_await trivial) fun _ => only_await rfl

theorem advanceDeletion_only (current : WorkspaceExecutionProjection) (e n : WorkspaceDeletionPhase) :
    Only Op.deleting (advanceDeletion current e n) := by
  refine only_retry (attempt_only trivial fun p => ?_) (only_throw _) _
  split
  · exact only_pure _
  · refine only_bind (only_throwIf _ _) fun _ => ?_
    split
    · exact only_pure _
    · exact only_bind (only_await trivial) fun _ => only_await rfl

theorem finalizeDeletion_only (current : WorkspaceExecutionProjection) :
    Only Op.deleting (finalizeDeletion current) := by
  refine only_retry (attempt_only trivial fun p => ?_) (only_throw _) _
  split
  · exact only_pure _
  · exact only_bind (only_throwIf _ _) fun _ => only_bind (only_await trivial) fun _ => only_await rfl

theorem recordDeletionFailure_only (current : WorkspaceExecutionProjection) (error : Failure) :
    Only Op.deleting (recordDeletionFailure current error) := by
  refine only_retry (only_bind (only_await trivial) fun latest => ?_) (only_pure _) _
  split
  · exact only_pure _
  · split
    · exact only_pure _
    · exact only_bind (only_await trivial) fun _ => only_bind (only_await rfl) fun _ => only_pure _

theorem deletionPhase_only (input : WorkspaceDeletionInput) (current : WorkspaceExecutionProjection)
    (transactionId : String) (phase : WorkspaceDeletionPhase) :
    Only Op.deleting (deletionPhase m input current transactionId phase) := by
  have binding : Only Op.deleting (resolveStorageBinding current input.signal) :=
    only_bind (only_await trivial) fun _ => only_bind (only_throwIf _ _) fun _ => only_pure _
  have count : Only Op.deleting (assertNoExternalStorageReferences current) :=
    only_bind (only_await trivial) fun _ => only_throwIf _ _
  cases phase with
  | draining =>
    exact only_bind (only_await trivial) fun _ => only_bind (only_throwIf _ _) fun _ => advanceDeletion_only _ _ _
  | removingEnvironments =>
    exact only_bind binding fun _ => only_bind count fun _ => only_bind (only_await trivial) fun _ =>
      advanceDeletion_only _ _ _
  | verifyingReferences => exact only_bind count fun _ => advanceDeletion_only _ _ _
  | releasingStorage =>
    exact only_bind binding fun _ => only_bind count fun _ => only_bind (only_await trivial) fun _ =>
      advanceDeletion_only _ _ _
  | finalizing => exact finalizeDeletion_only _
  | deleted => exact finalizeDeletion_only _

theorem deletionRound_only (input : WorkspaceDeletionInput) (current : WorkspaceExecutionProjection) :
    Only Op.deleting (deletionRound m input current) := by
  unfold deletionRound
  split
  · split
    · split
      · refine only_tryCatch (only_bind (deletionPhase_only _ _ _ _) fun _ => only_pure _) fun error =>
          only_bind (only_await trivial) fun reason => ?_
        split
        · exact only_throw _
        · exact only_bind (recordDeletionFailure_only _ _) fun _ => only_throw _
      · exact only_throw _
    · exact only_throw _
  · split
    · split
      · exact only_bind (only_await trivial) fun _ => only_pure _
      · exact only_pure _
    · exact only_pure _

theorem only_imp {α : Type} {P' : Op → Prop} {p : Task α} (h : Only P p) (himp : ∀ o, P o → P' o) : Only P' p := by
  induction p with
  | done a => trivial
  | raise e => trivial
  | call o k ih => exact ⟨himp _ h.1, fun r => ih r (h.2 r)⟩

end Only

/-- The calls that go through `reconcile`, and the firing of a signal. -/
def Call.reconciling : Call → Bool
  | .reconcile _ | .provision _ | .rebuild _ | .start _ _ | .stop _ _ | .abort _ _ => true
  | _ => false

/-- The calls that delete nothing. -/
def Call.live : Call → Bool
  | .persistLegacyContainer _ | .saveContainer _ => true
  | c => c.reconciling

/-- Deletions, and the firing of a signal. -/
def Call.deleting : Call → Bool
  | .deleteWorkspace _ | .deletionRound _ _ | .abort _ _ => true
  | _ => false

/-- A round that ends the call leaves nothing to continue. -/
theorem only_body {P : Op → Prop} {A : Call → Prop} {α : Type} {p : Task α} {f : α → Returned} {tr : Exchanges}
    (h : Only P p) : wp (fun _ o => P o) (do let a ← p; pure (.inr (f a) : Call ⊕ Returned))
      (Continues fun c _ => A c) tr := by
  rw [wp_bind]
  exact wp_of_only h fun r _ => by cases r <;> trivial

theorem reconciling_body (c : Call) (tr : Exchanges) (h : c.reconciling = true) {P : Op → Prop} {A : Call → Prop}
    (hP : ∀ o, Op.reconciling o → P o) : wp (fun _ o => P o) (c.body m) (Continues fun c _ => A c) tr := by
  cases c with
  | reconcile input => exact only_body (only_imp (reconcile_only _) hP)
  | provision request =>
    exact only_body (only_imp (only_bind (requireLaunchProfile_only _) fun _ => only_bind (requestAppId_only _) fun _ =>
      only_bind (reconcile_only _) fun _ => only_fromExcept _) hP)
  | rebuild request =>
    exact only_body (only_imp (only_bind (requireLaunchProfile_only _) fun _ => attempt_only trivial fun _ =>
      only_bind (reconcile_only _) fun _ => only_fromExcept _) hP)
  | start workspaceId signal =>
    exact only_body (only_imp (attempt_only trivial fun _ => only_bind (only_throwIf _ _) fun _ =>
      only_bind (only_await trivial) fun _ => only_bind (reconcile_only _) fun _ => only_fromExcept _) hP)
  | stop workspaceId signal =>
    exact only_body (only_imp (attempt_only trivial fun _ => only_bind (only_throwIf _ _) fun _ =>
      only_bind (only_await trivial) fun _ => only_bind (reconcile_only _) fun _ => only_fromExcept _) hP)
  | abort signal reason =>
    exact only_body (f := fun _ => .nothing) (only_imp (only_await (P := Op.reconciling) trivial) hP)
  | _ => cases h

theorem live_body (c : Call) (tr : Exchanges) (h : c.live = true) {A : Call → Prop} :
    wp (fun _ o => Op.live o) (c.body m) (Continues fun c _ => A c) tr := by
  cases c with
  | persistLegacyContainer container =>
    exact only_body (f := fun _ => .nothing) (persistLegacyContainer_only container)
  | saveContainer container => exact only_body (f := fun _ => .nothing) (only_await (P := Op.live) trivial)
  | deleteWorkspace => cases h
  | deletionRound => cases h
  | _ => exact reconciling_body _ tr rfl fun _ ho => Op.live_of_reconciling ho

theorem deleting_body (c : Call) (tr : Exchanges) (h : c.deleting = true) :
    wp (fun _ o => Op.deleting o) (c.body m) (Continues fun c _ => c.deleting = true) tr := by
  cases c with
  | deleteWorkspace input =>
    rw [Call.body, wp_bind]
    refine wp_of_only (only_bind (only_await (P := Op.deleting) trivial) fun _ => beginDeletion_only input) fun r _ => ?_
    cases r with
    | ok _ => exact rfl
    | error _ => trivial
  | deletionRound input current =>
    rw [Call.body, wp_bind]
    refine wp_of_only (deletionRound_only input current) fun r _ => ?_
    rcases r with _ | _ | _
    · trivial
    · exact rfl
    · trivial
  | abort signal reason =>
    exact only_body (f := fun _ => .nothing) (only_await (P := Op.deleting) trivial)
  | _ => cases h

/-- A run of reconciles saves nothing else. -/
theorem reconciling_of_run {ι : Type} [DecidableEq ι] {w₀ : World} {calls : ι → Call}
    (hcalls : ∀ t, (calls t).reconciling = true) {sched : List (ι × Choice)}
    {c : Config ι Op Op.Answer Failure World Call Returned}
    (h : exec (workspaceSystem m) (start (workspaceSystem m) w₀ calls) sched = some c) :
    Every (fun _ e => Op.reconciling e.op) c.events :=
  every_of_exec (A := fun c => c.reconciling = true) hcalls (fun c tr hc => reconciling_body c tr hc fun _ => id) h

/-- A run without deletions saves nothing of a deletion. -/
theorem live_of_run {ι : Type} [DecidableEq ι] {w₀ : World} {calls : ι → Call}
    (hcalls : ∀ t, (calls t).live = true) {sched : List (ι × Choice)}
    {c : Config ι Op Op.Answer Failure World Call Returned}
    (h : exec (workspaceSystem m) (start (workspaceSystem m) w₀ calls) sched = some c) :
    Every (fun _ e => Op.live e.op) c.events :=
  every_of_exec (A := fun c => c.live = true) hcalls (fun c tr hc => live_body c tr hc) h

/-- A run of deletions saves nothing else. -/
theorem deleting_of_run {ι : Type} [DecidableEq ι] {w₀ : World} {calls : ι → Call}
    (hcalls : ∀ t, (calls t).deleting = true) {sched : List (ι × Choice)}
    {c : Config ι Op Op.Answer Failure World Call Returned}
    (h : exec (workspaceSystem m) (start (workspaceSystem m) w₀ calls) sched = some c) :
    Every (fun _ e => Op.deleting e.op) c.events :=
  every_of_exec (A := fun c => c.deleting = true) hcalls deleting_body h

theorem Call.fresh_of_live {c : Call} (h : c.live = true) : c.fresh = true := by
  cases c <;> first | rfl | cases h

theorem Call.live_of_reconciling {c : Call} (h : c.reconciling = true) : c.live = true := by
  cases c <;> first | rfl | cases h

end OpenApp
