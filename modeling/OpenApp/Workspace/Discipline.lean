import OpenApp.Workspace.System

/-!
# The order in which the operations make their calls

Every save is the last step of a read, some checks and a computed row, and its revision is the
one that was read. A result is committed, and a failure recorded, by a call that stored its
intent; a provider is asked to remove or release only by a deletion that has seen the phase and,
just before, a reference count of zero; a phase is stored only after its side effect came back.
`Issued` says this of every call, `legal_of_run` carries it to every event of every run.
-/

namespace OpenApp

open Async Async.Prog Script

variable {m : Manager}

/-! ## What a thread has done so far -/

/-- The calls that leave the outside alone: the clock and the rows. -/
def Op.quiet : Op → Bool
  | .now => true
  | .getWorkspaceExecutionProjection _ _ => true
  | .compareAndSaveWorkspaceExecution _ _ _ => true
  | _ => false

/-- The exchanges with everything but the clock and the rows. -/
def effects (tr : Exchanges) : Exchanges :=
  tr.filter fun x => !x.op.quiet

/-- What the thread's last stored intent was, and what it was stored for. -/
def savedIntent : Exchanges → Option (WorkspaceExecutionReconcileInput × String × WorkspaceExecutionProjection)
  | [] => none
  | ⟨.compareAndSaveWorkspaceExecution (.persistIntent input transactionId) _ _, .ok (some intent)⟩ :: _ =>
    some (input, transactionId, intent)
  | _ :: rest => savedIntent rest

def failureOf (x : Exchange Op Op.Answer Failure) : Option Failure :=
  match x.answer with
  | .ok _ => none
  | .error e => some e

/-- If the thread's last exchange with the outside failed, this is how. -/
def LastFailed (error : Failure) (tr : Exchanges) : Prop :=
  ∀ x rest e, effects tr = x :: rest → failureOf x = some e → error = e

/-- The exchange shows its thread this row. -/
def Shows (p : WorkspaceExecutionProjection) (x : Exchange Op Op.Answer Failure) : Prop :=
  (∃ caller id, x = ⟨.getWorkspaceExecutionProjection caller id, .ok (some p)⟩) ∨
    ∃ caller next rev, x = ⟨.compareAndSaveWorkspaceExecution caller next rev, .ok (some p)⟩

theorem shows_get {p : WorkspaceExecutionProjection} {caller : Caller} {id : String} :
    Shows p ⟨.getWorkspaceExecutionProjection caller id, .ok (some p)⟩ :=
  .inl ⟨_, _, rfl⟩

theorem shows_cas {p next : WorkspaceExecutionProjection} {caller : Caller} {rev : Nat} :
    Shows p ⟨.compareAndSaveWorkspaceExecution caller next rev, .ok (some p)⟩ :=
  .inr ⟨_, _, _, rfl⟩

/-- The thread saw this row, and since then all its exchanges were of a kind. -/
def Since (ok : Exchange Op Op.Answer Failure → Bool) (p : WorkspaceExecutionProjection) : Exchanges → Prop
  | [] => False
  | x :: tr => Shows p x ∨ (ok x = true ∧ Since ok p tr)

section Since

variable {ok ok' : Exchange Op Op.Answer Failure → Bool} {p : WorkspaceExecutionProjection} {tr : Exchanges}
  {x : Exchange Op Op.Answer Failure}

theorem Since.cons (h : Since ok p tr) (hx : ok x = true) : Since ok p (x :: tr) :=
  .inr ⟨hx, h⟩

theorem Since.mono (h : Since ok p tr) (himp : ∀ x, ok x = true → ok' x = true) : Since ok' p tr := by
  induction tr with
  | nil => exact h
  | cons x tr ih =>
    rcases h with h | ⟨hx, h⟩
    · exact .inl h
    · exact .inr ⟨himp x hx, ih h⟩

theorem Since.of_suffix {tr' : Exchanges} (h : Since ok p tr) (hs : tr <:+ tr') : Since (fun _ => true) p tr' := by
  obtain ⟨recent, rfl⟩ := hs
  induction recent with
  | nil => exact h.mono fun _ _ => rfl
  | cons x recent ih => exact ih.cons rfl

theorem Since.split (h : Since ok p tr) :
    ∃ recent x earlier, tr = recent ++ x :: earlier ∧ Shows p x ∧ ∀ y ∈ recent, ok y = true := by
  induction tr with
  | nil => exact h.elim
  | cons x tr ih =>
    rcases h with h | ⟨hx, h⟩
    · exact ⟨[], x, tr, rfl, h, fun y hy => by cases hy⟩
    · obtain ⟨recent, y, earlier, rfl, hy, hall⟩ := ih h
      exact ⟨x :: recent, y, earlier, rfl, hy, List.forall_mem_cons.2 ⟨hx, hall⟩⟩

end Since

/-- A save that took effect. -/
def Exchange.saves (x : Exchange Op Op.Answer Failure) : Bool :=
  match x with
  | ⟨.compareAndSaveWorkspaceExecution _ _ _, .ok (some _)⟩ => true
  | _ => false

/-- The calls by which a deletion takes something away. -/
def Op.removes : Op → Bool
  | .removeEnvironment _ => true
  | .releaseWorkspaceStorage _ => true
  | _ => false

/-- The thread has seen the row and saved nothing since. -/
abbrev WorksFrom : WorkspaceExecutionProjection → Exchanges → Prop :=
  Since fun x => !Exchange.saves x

/-- The thread has seen the row, and neither saved nor removed anything since. -/
abbrev StartsFrom : WorkspaceExecutionProjection → Exchanges → Prop :=
  Since fun x => !Exchange.saves x && !x.op.removes

theorem StartsFrom.works {p : WorkspaceExecutionProjection} {tr : Exchanges} (h : StartsFrom p tr) : WorksFrom p tr :=
  Since.mono h fun _ hx => (Bool.and_eq_true _ _ ▸ hx : _ ∧ _).1

structure InPhase (current : WorkspaceExecutionProjection) (phase : WorkspaceDeletionPhase) : Prop where
  status : current.workspace.status = .deleting
  phase : current.workspace.deletionPhase = some phase

/-- What a store says of a row: a read is of the row it asks for, one the store may hold, and a save
leaves the Workspace as it was asked to. -/
def Truthful (x : Exchange Op Op.Answer Failure) : Prop :=
  match x with
  | ⟨.getWorkspaceExecutionProjection _ id, .ok (some p)⟩ => p.workspace.id = id ∧ Projectable p
  | ⟨.compareAndSaveWorkspaceExecution _ next _, .ok (some q)⟩ => q.workspace = next.workspace
  | _ => True

def Sound (tr : Exchanges) : Prop :=
  ∀ x ∈ tr, Truthful x

theorem Sound.of_suffix {tr tr' : Exchanges} (h : Sound tr') (hs : tr <:+ tr') : Sound tr :=
  fun x hx => h x (hs.subset hx)

/-- A row of the same Workspace, which is being deleted or has been. -/
structure Goes (id : String) (p : WorkspaceExecutionProjection) : Prop where
  id : p.workspace.id = id
  inactive : p.workspace.status ≠ .active

/-! ## What each writer writes -/

/-- The row `next` is what this caller makes of the row `current`, its checks passed. -/
def Writes (m : Manager) (current next : WorkspaceExecutionProjection) : Caller → Prop
  | .getProjection => False
  | .persistIntent input transactionId =>
    current.workspace.status = .active ∧ current.workspace.ownerId = input.ownerId ∧
      current.workspace.appId = input.appId ∧
      current.execution.providerId = input.providerId.getD current.execution.providerId ∧
      completedTransaction current input transactionId = false ∧
      ∃ timestamp, next = intentOf input transactionId timestamp current
  | .commitResult input result =>
    current.workspace.status = .active ∧ current.execution.transactionId = some result.transactionId ∧
      current.execution.desiredGeneration = result.generation ∧
      providerExecutionMatches current result.execution = true ∧
      (result.status ≠ .rolledBack → catalogResultMatches input result.execution = true) ∧
      ∃ updatedAt status, compatibleObservedState result.execution.observedState = .ok status ∧
        next = committedOf input result updatedAt status current
  | .recordProviderFailure _ transactionId error =>
    current.workspace.status = .active ∧ current.execution.transactionId = some transactionId ∧
      ∃ timestamp, next = failedOf error timestamp current
  | .persistLegacyContainer container =>
    current.workspace.status = .active ∧ Projectable current ∧
      legacyIdentityMatches (containerOf current) container = true ∧ next = legacyOf container current
  | .beginDeletion input =>
    current.workspace.status = .active ∧ ∃ transactionId timestamp,
      executionTransactionId m input.workspaceId (input.transactionKey.getD "workspace-delete") = .ok transactionId ∧
      next = deletingOf transactionId timestamp current
  | .advanceDeletion seen expectedPhase nextPhase =>
    current.workspace.status ≠ .deleted ∧
      current.workspace.deletionTransactionId = seen.workspace.deletionTransactionId ∧
      current.workspace.deletionPhase = some expectedPhase ∧
      ∃ timestamp, next = advancedOf nextPhase timestamp current
  | .finalizeDeletion seen =>
    current.workspace.status ≠ .deleted ∧
      current.workspace.deletionTransactionId = seen.workspace.deletionTransactionId ∧
      current.workspace.deletionPhase = some .finalizing ∧ ∃ timestamp, next = tombstoneOf timestamp current
  | .recordDeletionFailure seen error =>
    current.workspace.status = .deleting ∧
      current.workspace.deletionTransactionId = seen.workspace.deletionTransactionId ∧
      ∃ timestamp, next = deletionFailedOf error timestamp current

/-! ## When each call is made -/

/-- The deletion's own last exchanges with the outside are the side effect of the phase it leaves. -/
def PhaseDone (m : Manager) (current : WorkspaceExecutionProjection) (tr : Exchanges) :
    WorkspaceDeletionPhase → WorkspaceDeletionPhase → Prop
  | .draining, .removingEnvironments => ∃ workspaceId transactionId signal rest,
      effects tr = ⟨.drainBegin workspaceId transactionId signal, .ok true⟩ :: rest
  | .removingEnvironments, .verifyingReferences => ∃ binding signal rest,
      effects tr = ⟨.removeEnvironment (environmentRemovalRequest m current binding signal), .ok ()⟩ ::
        ⟨.countLiveWorkspaceStorageReferences current.workspace.storageRefId current.workspace.id, .ok 0⟩ :: rest
  | .verifyingReferences, .releasingStorage => ∃ rest,
      effects tr = ⟨.countLiveWorkspaceStorageReferences current.workspace.storageRefId current.workspace.id,
        .ok 0⟩ :: rest
  | .releasingStorage, .finalizing => ∃ request rest, request.workspaceId = current.workspace.id ∧
      effects tr = ⟨.releaseWorkspaceStorage request, .ok ()⟩ ::
        ⟨.countLiveWorkspaceStorageReferences current.workspace.storageRefId current.workspace.id, .ok 0⟩ :: rest
  | _, _ => False

/-- When a caller may read, and so save, the row `id`. -/
def Context (m : Manager) (id : String) (tr : Exchanges) : Caller → Prop
  | .getProjection => True
  | .persistIntent input _ => id = input.workspaceId
  | .commitResult input result => id = input.workspaceId ∧ ∃ transactionId intent binding rest,
      savedIntent tr = some (input, transactionId, intent) ∧
      effects tr = ⟨.throwIfAborted input.signal, .ok ()⟩ ::
        ⟨.reconcile (reconcileRequest m input transactionId intent binding), .ok result⟩ :: rest
  | .recordProviderFailure workspaceId transactionId error => id = workspaceId ∧ error.isCancelled = false ∧
      LastFailed error tr ∧
      ∃ input intent, savedIntent tr = some (input, transactionId, intent) ∧ input.workspaceId = workspaceId
  | .persistLegacyContainer container => id = container.id
  | .beginDeletion input => id = input.workspaceId
  | .advanceDeletion current expectedPhase nextPhase => id = current.workspace.id ∧ WorksFrom current tr ∧
      InPhase current expectedPhase ∧ PhaseDone m current tr expectedPhase nextPhase
  | .finalizeDeletion current => id = current.workspace.id ∧ WorksFrom current tr ∧ InPhase current .finalizing
  | .recordDeletionFailure current _ => id = current.workspace.id ∧ WorksFrom current tr ∧
      current.workspace.status = .deleting

/-- The thread's last exchange, the clock aside, is the read of `current`. -/
def Read (caller : Caller) (id : String) (current : WorkspaceExecutionProjection) (tr earlier : Exchanges) : Prop :=
  tr = ⟨.getWorkspaceExecutionProjection caller id, .ok (some current)⟩ :: earlier ∨
    ∃ r, tr = ⟨.now, r⟩ :: ⟨.getWorkspaceExecutionProjection caller id, .ok (some current)⟩ :: earlier

/-- The thread has just counted no other reference to the storage of the row it starts from. -/
def Counted (current : WorkspaceExecutionProjection) : Exchanges → Prop
  | x :: tr => StartsFrom current tr ∧
      x = ⟨.countLiveWorkspaceStorageReferences current.workspace.storageRefId current.workspace.id, .ok 0⟩
  | [] => False

/-- When each call is made, given what its thread has done. -/
def Issued (m : Manager) (tr : Exchanges) : Op → Prop
  | .getWorkspaceExecutionProjection caller id => Context m id tr caller
  | .compareAndSaveWorkspaceExecution caller next expectedRevision => ∃ id current earlier,
      Read caller id current tr earlier ∧ Context m id earlier caller ∧
      expectedRevision = current.execution.revision ∧ Writes m current next caller
  | .reconcile request => ∃ input transactionId intent binding rest,
      savedIntent tr = some (input, transactionId, intent) ∧
      request = reconcileRequest m input transactionId intent binding ∧
      (∃ resolution, effects tr = ⟨.resolveStorageBinding resolution, .ok binding⟩ :: rest)
  | .resolveStorageBinding request =>
    (∃ current, StartsFrom current tr ∧ request.workspaceId = current.workspace.id ∧
      (InPhase current .removingEnvironments ∨ InPhase current .releasingStorage)) ∨
    ∃ input transactionId intent, savedIntent tr = some (input, transactionId, intent) ∧
      request.workspaceId = intent.workspace.id
  | .aborted _ => ∃ current, WorksFrom current tr ∧ current.workspace.status = .deleting
  | .removeEnvironment request => ∃ current binding signal, Counted current tr ∧
      InPhase current .removingEnvironments ∧ request = environmentRemovalRequest m current binding signal
  | .releaseWorkspaceStorage request => ∃ current, Counted current tr ∧
      InPhase current .releasingStorage ∧ request.workspaceId = current.workspace.id
  | _ => True

/-! ## Exchanges with the rows keep the context -/

@[simp] theorem effects_now {r : Except Failure String} {tr : Exchanges} :
    effects (⟨.now, r⟩ :: tr) = effects tr := rfl

@[simp] theorem effects_get {caller : Caller} {id : String} {r : Except Failure (Option WorkspaceExecutionProjection)}
    {tr : Exchanges} : effects (⟨.getWorkspaceExecutionProjection caller id, r⟩ :: tr) = effects tr := rfl

@[simp] theorem effects_cas {caller : Caller} {next : WorkspaceExecutionProjection} {rev : Nat}
    {r : Except Failure (Option WorkspaceExecutionProjection)} {tr : Exchanges} :
    effects (⟨.compareAndSaveWorkspaceExecution caller next rev, r⟩ :: tr) = effects tr := rfl

theorem effects_cons {x : Exchange Op Op.Answer Failure} {tr : Exchanges} (h : x.op.quiet = false) :
    effects (x :: tr) = x :: effects tr := by
  simp [effects, h]

/-- An exchange that is no save of an intent. -/
def Exchange.keepsIntent (x : Exchange Op Op.Answer Failure) : Bool :=
  match x.op with
  | .compareAndSaveWorkspaceExecution (.persistIntent _ _) _ _ => false
  | _ => true

theorem savedIntent_cons {x : Exchange Op Op.Answer Failure} {tr : Exchanges} (h : Exchange.keepsIntent x = true) :
    savedIntent (x :: tr) = savedIntent tr := by
  obtain ⟨o, r⟩ := x
  cases o <;> try rfl
  rename_i caller next rev
  cases caller <;> first | rfl | cases h

theorem lastFailed_error {x : Exchange Op Op.Answer Failure} {e : Failure} {tr : Exchanges}
    (h : effects (x :: tr) = x :: effects tr) (hx : failureOf x = some e) : LastFailed e (x :: tr) := by
  intro y rest e' hy hf
  obtain ⟨rfl, _⟩ := List.cons.inj (h.symm.trans hy)
  exact Option.some.inj (hx.symm.trans hf)

theorem lastFailed_ok {x : Exchange Op Op.Answer Failure} {e : Failure} {tr : Exchanges}
    (h : effects (x :: tr) = x :: effects tr) (hx : failureOf x = none) : LastFailed e (x :: tr) := by
  intro y rest e' hy hf
  obtain ⟨rfl, _⟩ := List.cons.inj (h.symm.trans hy)
  exact absurd (hx.symm.trans hf) (by simp)

theorem Context.cons {id : String} {tr : Exchanges} {caller : Caller} {x : Exchange Op Op.Answer Failure}
    (h : Context m id tr caller) (hq : x.op.quiet = true) (hk : Exchange.keepsIntent x = true)
    (hs : Exchange.saves x = false) : Context m id (x :: tr) caller := by
  have hworks {p : WorkspaceExecutionProjection} (hp : WorksFrom p tr) : WorksFrom p (x :: tr) := hp.cons (by simp [hs])
  have heff : effects (x :: tr) = effects tr := by simp [effects, hq]
  have hint : savedIntent (x :: tr) = savedIntent tr := savedIntent_cons hk
  cases caller with
  | getProjection => trivial
  | persistIntent => exact h
  | commitResult => simpa only [Context, heff, hint] using h
  | recordProviderFailure => simpa only [Context, LastFailed, heff, hint] using h
  | persistLegacyContainer => exact h
  | beginDeletion => exact h
  | advanceDeletion current e n =>
    obtain ⟨hid, hobs, hphase, hdone⟩ := h
    refine ⟨hid, hworks hobs, hphase, ?_⟩
    cases e <;> cases n <;> first | exact hdone | (simpa only [PhaseDone, heff] using hdone)
  | finalizeDeletion => exact ⟨h.1, hworks h.2.1, h.2.2⟩
  | recordDeletionFailure => exact ⟨h.1, hworks h.2.1, h.2.2⟩

/-! ## Reading and saving -/

section Rules

variable {α : Type} {tr : Exchanges} {caller : Caller} {id : String}

theorem wp_getProjection {Q : Except Failure WorkspaceExecutionProjection → Exchanges → Prop}
    (hctx : Context m id tr caller)
    (hok : ∀ p, Q (.ok p) (⟨.getWorkspaceExecutionProjection caller id, .ok (some p)⟩ :: tr))
    (herr : ∀ e r, Q (.error e) (⟨.getWorkspaceExecutionProjection caller id, r⟩ :: tr)) :
    wp (Issued m) (getProjection caller id) Q tr := by
  unfold getProjection
  rw [wp_bind, wp_await]
  refine ⟨hctx, fun r => ?_⟩
  rcases r with e | (_ | p)
  · exact herr e _
  · exact herr _ _
  · exact hok p

theorem wp_compareAndSave {next : WorkspaceExecutionProjection} {rev : Nat}
    {Q : Except Failure (Option WorkspaceExecutionProjection) → Exchanges → Prop}
    {current : WorkspaceExecutionProjection} {earlier : Exchanges}
    (hread : Read caller id current tr earlier) (hctx : Context m id earlier caller)
    (hrev : rev = current.execution.revision) (hw : Writes m current next caller)
    (hQ : ∀ r, Q r (⟨.compareAndSaveWorkspaceExecution caller next rev, r⟩ :: tr)) :
    wp (Issued m) (compareAndSave caller next rev) Q tr := by
  unfold compareAndSave
  rw [wp_await]
  exact ⟨⟨id, current, earlier, hread, hctx, hrev, hw⟩, hQ⟩

end Rules

end OpenApp
