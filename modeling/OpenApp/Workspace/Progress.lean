import OpenApp.Async.Solo
import OpenApp.Workspace.System

/-!
# Calls that nothing disturbs

The rows a reconcile asks the store to save are along transitions, so a reconcile that is left
alone, with a provider that runs what it is asked to run, ends with its generation applied. It
does so from any row, in progress or not, and with the transaction the row may have already.
-/

namespace OpenApp

open Async

variable {m : Manager} {w : World} {p : WorkspaceExecutionProjection} {input : WorkspaceExecutionReconcileInput}
  {transactionId : String}

/-! ## The transitions of a reconcile -/

theorem intentOf_transition (input : WorkspaceExecutionReconcileInput) (transactionId : String) (hp : Projectable p) (hactive : p.workspace.status = .active) (timestamp : String) :
    Transition p (intentOf input transactionId timestamp p) := by
  have hgen : p.execution.desiredGeneration ≤
      (intentOf input transactionId timestamp p).execution.desiredGeneration := by
    simp only [intentOf]
    split
    · exact Nat.le_refl _
    · split <;> omega
  refine ⟨hp, ?_, ⟨rfl, rfl, rfl, rfl, rfl, rfl, rfl⟩, ?_, hgen, Nat.le_refl _, Int.le_refl _⟩
  · refine ⟨hp.shape.imp (fun a => ⟨a.live, a.execution, a.role, a.environment⟩)
      fun d => ⟨d.deleted, d.execution, d.role, d.environment, d.observed, d.runtimeId, d.status⟩, hp.workspaceId,
      hp.provider, hp.observed, hp.deployed.trans hgen, hp.healthy, hp.revision, ?_⟩
    have := hp.deletion
    simpa [validDeletionState, intentOf, hactive] using this
  · simp [intentOf, hactive, validWorkspaceStatusTransition]

theorem committedOf_transition (input : WorkspaceExecutionReconcileInput) (hp : Projectable p)
    (hactive : p.workspace.status = .active) {result : ExecutionReconcileResult} {status : ContainerStatus} (timestamp : String)
    (hstatus : compatibleObservedState result.execution.observedState = .ok status)
    (henv : result.execution.environmentRef ≠ "pending")
    (hgen : result.generation = p.execution.desiredGeneration) (happlied : result.status ≠ .rolledBack) :
    Transition p (committedOf input result timestamp status p) := by
  have hactive' : ActiveShape p := hp.activeShape (by simp [hactive])
  have hobs : result.execution.observedState = status.observed := by
    cases ho : result.execution.observedState <;> rw [ho] at hstatus <;> cases hstatus <;> rfl
  have hdep := hp.deployed
  have hheal := hp.healthy
  unfold committedOf
  rw [if_neg happlied]
  refine ⟨hp, ?_, ⟨rfl, rfl, rfl, rfl, rfl, rfl, rfl⟩, ?_, Nat.le_refl _, ?_, ?_⟩
  · refine ⟨.inl ⟨hactive'.live, hactive'.execution, hactive'.role, ?_⟩, hp.workspaceId, hp.provider, fun _ => hobs,
      ?_, ?_, hp.revision, ?_⟩
    · simp [observedOf, environmentRefOf, henv]
    · simp only [observedOf, hgen]
      exact Nat.le_refl _
    · intro h hh
      simp only at hh ⊢
      split at hh
      · exact Nat.le_of_eq (Option.some.inj hh).symm
      · have := hheal h hh
        omega
    · have := hp.deletion
      simpa [validDeletionState, observedOf, hactive] using this
  · simp [observedOf, hactive, validWorkspaceStatusTransition]
  · simp only [hgen]
    exact hdep
  · dsimp only
    split
    · cases hh : p.execution.healthyGeneration with
      | none => simp only [generationValue]; omega
      | some h =>
        have := hheal h hh
        simp only [generationValue]
        omega
    · exact Int.le_refl _

/-! ## A reconcile on its own -/

/-- An input the row admits under this transaction. -/
structure Admits (m : Manager) (w : World) (input : WorkspaceExecutionReconcileInput) (transactionId : String)
    (p : WorkspaceExecutionProjection) : Prop where
  found : w.store.get input.workspaceId = some p
  active : p.workspace.status = .active
  ownerId : p.workspace.ownerId = input.ownerId
  appId : p.workspace.appId = input.appId
  providerId : p.execution.providerId = input.providerId.getD p.execution.providerId
  profile : input.launchProfile.imageReference = input.launchArtifactReference
  storageClass : input.storageClass.any (· ≠ "workspace-data") = false
  signal : w.reason input.signal = none
  key : ∃ key, input.transactionKey = some key ∧ Script.truthy key = true ∧
    executionTransactionId m input.workspaceId key = .ok transactionId

/-- What a provider answers that runs what it was asked to run. -/
def runs (input : WorkspaceExecutionReconcileInput) (environmentRef createdAt : String) : ProviderExecution where
  workspaceId := input.workspaceId
  ownerId := input.ownerId
  environmentRef := environmentRef
  providerId := none
  observedState := match input.desiredState with
    | .running => .running
    | .stopped => .stopped
  createdAt := createdAt
  catalogSnapshot := some {
    appId := input.appId
    appVersionId := input.appRevisionId
    imageArtifactId := input.launchArtifactId
    imageReference := input.launchArtifactReference }
  transactionRecovered := false

section Steps

variable {xs : List Choice}

theorem solo_getProjection {caller : Caller} {id : String} (h : w.store.get id = some p) :
    solo World.perform (getProjection caller id) w (.go :: xs) = some (.ok p, w, xs) := by
  have hread : solo World.perform (await (.getWorkspaceExecutionProjection caller id)) w (.go :: xs) =
      some (.ok (some p), w, xs) :=
    solo_await (by simp [World.perform, MemoryPersistence.getWorkspaceExecutionProjection, h])
  unfold getProjection
  rw [solo_bind hread]
  rfl

theorem solo_assertActive (h : p.workspace.status = .active) :
    solo World.perform (assertActive p) w xs = some (.ok (), w, xs) :=
  solo_throwIf_neg (not_not.2 h) _

theorem solo_now (timestamp : String) :
    solo World.perform (await .now) w (.text timestamp :: xs) = some (.ok timestamp, w, xs) :=
  solo_await rfl

theorem solo_throwIfAborted {signal : Option AbortSignal} (h : w.reason signal = none) :
    solo World.perform (await (.throwIfAborted signal)) w (.go :: xs) = some (.ok (), w, xs) :=
  solo_await (by simp [World.perform, h])

/-- The row is saved and the signals are as they were. -/
theorem solo_compareAndSave (caller : Caller) (xs : List Choice) {next : WorkspaceExecutionProjection}
    (hfound : w.store.get p.workspace.id = some p) (ht : Transition p next) :
    ∃ w', solo World.perform (compareAndSave caller next p.execution.revision) w (.go :: xs) =
        some (.ok (some (MemoryPersistence.saved p next)), w', xs) ∧
      w'.store.get p.workspace.id = some (MemoryPersistence.saved p next) ∧ w'.signals = w.signals := by
  obtain ⟨s, hs, hget⟩ := MemoryPersistence.compareAndSave_of_transition hfound ht
  refine ⟨{ w with store := s }, solo_await (by simp [World.perform, hs]), ?_, rfl⟩
  simp [hget]

theorem solo_persistIntent (h : Admits m w input transactionId p)
    (hopen : completedTransaction p input transactionId = false) (timestamp : String) (xs : List Choice) :
    ∃ w', solo World.perform (persistIntent input transactionId) w (.go :: .text timestamp :: .go :: xs) =
        some (.ok (MemoryPersistence.saved p (intentOf input transactionId timestamp p)), w', xs) ∧
      w'.store.get input.workspaceId = some (MemoryPersistence.saved p (intentOf input transactionId timestamp p)) ∧
      w'.signals = w.signals := by
  have hid := w.store.keyed _ _ h.found
  obtain ⟨w', hsave, hget, hsig⟩ := solo_compareAndSave (.persistIntent input transactionId) xs
    (hid.symm ▸ h.found) (intentOf_transition input transactionId (w.store.projectable _ _ h.found) h.active timestamp)
  refine ⟨w', ?_, hid ▸ hget, hsig⟩
  unfold persistIntent
  refine solo_retry 7 ?_
  rw [solo_bind (solo_getProjection h.found), solo_bind (solo_assertActive h.active)]
  have hidentity : solo World.perform (assertReconcileIdentity p input (input.providerId.getD p.execution.providerId))
      w (.text timestamp :: .go :: xs) = some (.ok (), w, .text timestamp :: .go :: xs) := by
    unfold assertReconcileIdentity
    rw [solo_bind (solo_throwIf_neg (not_not.2 h.active) _)]
    refine solo_throwIf_neg ?_ _
    simp [h.ownerId, h.appId, ← h.providerId]
  rw [solo_bind hidentity, hopen, if_neg (by decide), solo_bind (solo_now timestamp)]
  exact hsave

theorem solo_resolveStorageBinding {signal : Option AbortSignal} {binding : StorageBinding}
    (h : binding.storageId = p.workspace.storageRefId) :
    solo World.perform (resolveStorageBinding p signal) w (.binds binding :: xs) = some (.ok binding, w, xs) := by
  unfold resolveStorageBinding
  rw [solo_bind (solo_await (show World.perform w _ _ = some (.ok binding, w) from rfl)),
    solo_bind (solo_throwIf_neg (not_not.2 h) _)]
  rfl

/-- A result for the row's own transaction and generation is committed. -/
theorem solo_commitResult (input : WorkspaceExecutionReconcileInput) (result : ExecutionReconcileResult)
    {status : ContainerStatus}
    (hfound : w.store.get input.workspaceId = some p) (hactive : p.workspace.status = .active)
    (htx : p.execution.transactionId = some result.transactionId)
    (hgen : p.execution.desiredGeneration = result.generation)
    (hexec : providerExecutionMatches p result.execution = true)
    (hcat : catalogResultMatches input result.execution = true)
    (hstatus : compatibleObservedState result.execution.observedState = .ok status)
    (henv : result.execution.environmentRef ≠ "pending") (happlied : result.status ≠ .rolledBack)
    (timestamp : String) (xs : List Choice) :
    ∃ w', solo World.perform (commitResult input result) w (.go :: .text timestamp :: .go :: xs) =
        some (.ok (MemoryPersistence.saved p (committedOf input result timestamp status p)), w', xs) ∧
      w'.store.get input.workspaceId =
        some (MemoryPersistence.saved p (committedOf input result timestamp status p)) ∧ w'.signals = w.signals := by
  have hid := w.store.keyed _ _ hfound
  obtain ⟨w', hsave, hget, hsig⟩ := solo_compareAndSave (.commitResult input result) xs (hid.symm ▸ hfound)
    (committedOf_transition input (w.store.projectable _ _ hfound) hactive timestamp hstatus henv hgen.symm happlied)
  refine ⟨w', ?_, hid ▸ hget, hsig⟩
  unfold commitResult
  refine solo_retry 7 ?_
  rw [solo_bind (solo_getProjection hfound), solo_bind (solo_assertActive hactive), if_neg (by simp [htx, hgen]),
    assertProviderExecution, solo_bind (solo_throwIf_neg (by simp [hexec]) _), solo_bind (solo_now timestamp), hstatus,
    solo_bind (solo_fromExcept _), if_pos happlied, assertCatalogResult,
    solo_bind (solo_throwIf_neg (by simp [hcat]) _)]
  exact hsave

end Steps

/-- The generation is deployed, and its transaction is closed. -/
structure Finished (input : WorkspaceExecutionReconcileInput) (transactionId : String) (generation : Nat)
    (q : WorkspaceExecutionProjection) : Prop where
  transactionId : q.execution.transactionId = some transactionId
  status : q.execution.transactionStatus = .applied
  desired : q.execution.desiredGeneration = generation
  deployed : q.execution.deployedGeneration = generation
  desiredState : q.execution.desiredState = input.desiredState
  running : input.desiredState = .running → q.execution.healthyGeneration = some generation

/-- A reconcile that nothing disturbs closes the transaction it finds in progress. -/
theorem reconcile_finishes (h : Admits m w input transactionId p)
    (htx : p.execution.transactionId = some transactionId) (hprog : p.execution.transactionStatus = .progressing) :
    ∃ xs q w', solo World.perform (reconcile m input) w xs = some (.ok q, w', []) ∧
      w'.store.get input.workspaceId = some q ∧ Finished input transactionId p.execution.desiredGeneration q := by
  have hid := w.store.keyed _ _ h.found
  have hopen : completedTransaction p input transactionId = false := by
    simp [completedTransaction, hprog]
  obtain ⟨status, hstatus⟩ : ∃ status, compatibleObservedState (runs input "environment" "").observedState = .ok status := by
    cases hd : input.desiredState <;> simp [runs, hd, compatibleObservedState]
  let binding : StorageBinding :=
    { storageId := p.workspace.storageRefId, attachmentRef := "", mountPath := "", readOnly := false }
  let result : ExecutionReconcileResult :=
    { status := .applied, generation := p.execution.desiredGeneration, transactionId := transactionId,
      execution := runs input "environment" "" }
  -- the intent keeps the generation the row has
  obtain ⟨w₁, hintent, hget₁, hsig₁⟩ := solo_persistIntent h hopen ""
    [.binds binding, .reports .applied (runs input "environment" ""), .go, .go, .text "", .go]
  generalize hp₁ : MemoryPersistence.saved p (intentOf input transactionId "" p) = p₁ at hintent hget₁
  have hgen₁ : p₁.execution.desiredGeneration = p.execution.desiredGeneration := by
    simp [← hp₁, MemoryPersistence.saved, intentOf, htx]
  have htx₁ : p₁.execution.transactionId = some transactionId := by
    simp [← hp₁, MemoryPersistence.saved, intentOf]
  have hopen₁ : completedTransaction p₁ input transactionId = false := by
    simp [← hp₁, completedTransaction, MemoryPersistence.saved, intentOf]
  have hactive₁ : p₁.workspace.status = .active := by simp [← hp₁, intentOf, h.active]
  have hexec : providerExecutionMatches p₁ result.execution = true := by
    simp [← hp₁, result, runs, providerExecutionMatches, intentOf, hid, h.ownerId, Script.truthy]
  have hstorage : binding.storageId = p₁.workspace.storageRefId := by simp [← hp₁, binding, intentOf]
  have hstate₁ : p₁.execution.desiredState = input.desiredState := by
    simp [← hp₁, MemoryPersistence.saved, intentOf]
  -- the provider adds an environment, and the result is committed
  obtain ⟨w₂, hcommit, hget₂, _⟩ := solo_commitResult (w := w₁.addEnvironment input.workspaceId) input result
    hget₁ hactive₁ htx₁ hgen₁ hexec (by simp [result, runs, catalogResultMatches]) hstatus (by simp [result, runs])
    (by simp [result]) "" []
  refine ⟨[.go, .go, .go, .text "", .go, .binds binding, .reports .applied (runs input "environment" ""), .go, .go,
    .text "", .go], _, w₂, ?_, hget₂, ?_⟩
  · have htransaction : solo World.perform (reconcileTransactionId m input) w
        [.go, .text "", .go, .binds binding, .reports .applied (runs input "environment" ""), .go, .go, .text "", .go] =
        some (.ok transactionId, w,
          [.go, .text "", .go, .binds binding, .reports .applied (runs input "environment" ""), .go, .go, .text "",
            .go]) := by
      obtain ⟨key, hkey, htruthy, hdigest⟩ := h.key
      simp [reconcileTransactionId, hkey, htruthy, hdigest]
    have hexecute : solo World.perform (executeIntent m input transactionId p₁) w₁
        [.binds binding, .reports .applied (runs input "environment" ""), .go, .go, .text "", .go] =
        some (.ok (MemoryPersistence.saved p₁ (committedOf input result "" status p₁)), w₂, []) := by
      have hreconcile : World.perform w₁ (.reconcile (reconcileRequest m input transactionId p₁ binding))
          (.reports .applied (runs input "environment" "")) =
          some (.ok result, w₁.addEnvironment input.workspaceId) := by
        simp [World.perform, reconcileRequest, result, hgen₁]
      unfold executeIntent
      rw [solo_bind (solo_resolveStorageBinding hstorage), solo_bind (solo_await hreconcile),
        solo_bind (solo_throwIfAborted (by rw [← h.signal]; simp [World.reason, World.addEnvironment, hsig₁]))]
      exact hcommit
    unfold reconcile
    rw [solo_bind (solo_throwIfAborted h.signal), solo_bind (solo_throwIf_neg (not_not.2 h.profile) _),
      solo_bind (solo_getProjection h.found), solo_bind (solo_assertActive h.active),
      solo_bind (solo_throwIf_neg (by
        have hclass := h.storageClass
        cases hs : input.storageClass <;> simp_all [workspaceStorageRef]) _), solo_bind htransaction,
      reconcileTransaction, solo_bind hintent, hopen₁, if_neg (by decide)]
    exact solo_tryCatch hexecute
  · constructor
    all_goals simp only [MemoryPersistence.saved, committedOf, result, observedOf, reduceCtorEq, if_false, htx₁, hgen₁, hstate₁]
    intro hrun
    simp [runs, hrun]

end OpenApp
