import Mathlib.Data.Finset.Basic
import OpenApp.Async.Interleave
import OpenApp.Workspace.Memory
import OpenApp.Workspace.RuntimeBridge

/-!
# Workspace calls over the store in memory

The world holds the rows, the abort signals that fired and the environments the provider runs.
A call on the store does what the store does. What a provider, a drain or a clock answers is left
to the schedule, and any of them may fail, a provider with or without its effect. An adapter
answers a reconcile with the generation and the transaction of the request, as the adapters of
this code do.
-/

namespace OpenApp

open Async

structure World where
  store : MemoryPersistence
  /-- the reason, once the signal has fired -/
  signals : AbortSignal → Option Failure
  /-- the Workspaces whose environment exists -/
  environments : Finset String

inductive Choice
  /-- the call takes its course -/
  | go
  /-- the call fails; a provider may have acted all the same -/
  | fails (error : Failure) (takesEffect : Bool)
  | text (value : String)
  | binds (binding : StorageBinding)
  | reports (status : ExecutionReconcileStatus) (execution : ProviderExecution)
  | admits (admitted : Bool)
  | profiles (profile : ContainerLaunchProfile)

namespace World

def reason (w : World) (signal : Option AbortSignal) : Option Failure :=
  signal.bind w.signals

/-- Only the first reason counts. -/
def fire (w : World) (signal : AbortSignal) (reason : Failure) : World :=
  { w with signals := Function.update w.signals signal (some ((w.signals signal).getD reason)) }

def addEnvironment (w : World) (workspaceId : String) : World :=
  { w with environments := insert workspaceId w.environments }

def dropEnvironment (w : World) (workspaceId : String) : World :=
  { w with environments := w.environments.erase workspaceId }

/-- The effect and the answer of one call. -/
def perform (w : World) : (o : Op) → Choice → Option (Except Failure o.Answer × World)
  | .throwIfAborted signal, .go =>
    match w.reason signal with
    | some reason => some (.error reason, w)
    | none => some (.ok (), w)
  | .aborted signal, .go => some (.ok (w.reason signal), w)
  | .abort signal reason, .go => some (.ok (), w.fire signal reason)
  | .now, .text value => some (.ok value, w)
  | .randomId, .text value => some (.ok value, w)
  | .getWorkspaceExecutionProjection _ id, .go => some (.ok (w.store.getWorkspaceExecutionProjection id), w)
  | .getWorkspaceExecutionProjection _ _, .fails error _ => some (.error error, w)
  | .compareAndSaveWorkspaceExecution _ projection expectedRevision, .go =>
    match w.store.compareAndSave projection expectedRevision with
    | .ok (saved, store) => some (.ok saved, { w with store := store })
    | .error error => some (.error error, w)
  | .compareAndSaveWorkspaceExecution _ _ _, .fails error _ => some (.error error, w)
  | .saveContainer container, .go =>
    match w.store.saveContainer container with
    | .ok store => some (.ok (), { w with store := store })
    | .error error => some (.error error, w)
  | .saveContainer _, .fails error _ => some (.error error, w)
  | .countLiveWorkspaceStorageReferences storageRefId workspaceId, .go =>
    some (.ok (w.store.countLiveWorkspaceStorageReferences storageRefId workspaceId), w)
  | .countLiveWorkspaceStorageReferences _ _, .fails error _ => some (.error error, w)
  | .resolveStorageBinding _, .binds binding => some (.ok binding, w)
  | .resolveStorageBinding _, .fails error _ => some (.error error, w)
  | .reconcile request, .reports status execution =>
    some (.ok { status := status, generation := request.desiredGeneration, transactionId := request.transactionId,
                execution := execution },
      w.addEnvironment request.workspaceId)
  | .reconcile request, .fails error takesEffect =>
    some (.error error, if takesEffect then w.addEnvironment request.workspaceId else w)
  | .removeEnvironment request, .go => some (.ok (), w.dropEnvironment request.workspaceId)
  | .removeEnvironment request, .fails error takesEffect =>
    some (.error error, if takesEffect then w.dropEnvironment request.workspaceId else w)
  | .releaseWorkspaceStorage _, .go => some (.ok (), w)
  | .releaseWorkspaceStorage _, .fails error _ => some (.error error, w)
  | .drainBegin _ _ _, .admits admitted => some (.ok admitted, w)
  | .drainBegin _ _ _, .fails error _ => some (.error error, w)
  | .drainClear _ _, .go => some (.ok (), w)
  | .drainClear _ _, .fails error _ => some (.error error, w)
  | .launchProfileFor _, .profiles profile => some (.ok profile, w)
  | .launchProfileFor _, .fails error _ => some (.error error, w)
  | .defaultAppId, .text value => some (.ok value, w)
  | .defaultAppId, .fails error _ => some (.error error, w)
  | _, _ => none

/-! ## What one call does to the rows -/

theorem perform_throwIfAborted (w : World) (signal : Option AbortSignal) :
    w.perform (.throwIfAborted signal) .go = match w.reason signal with
      | some reason => some (.error reason, w)
      | none => some (.ok (), w) := rfl

theorem perform_compareAndSave (w : World) (caller : Caller) (p : WorkspaceExecutionProjection) (rev : Nat) :
    w.perform (.compareAndSaveWorkspaceExecution caller p rev) .go = match w.store.compareAndSave p rev with
      | .ok (saved, store) => some (.ok saved, { w with store := store })
      | .error error => some (.error error, w) := rfl

theorem perform_saveContainer (w : World) (c : Container) :
    w.perform (.saveContainer c) .go = match w.store.saveContainer c with
      | .ok store => some (.ok (), { w with store := store })
      | .error error => some (.error error, w) := rfl

/-- The three ways a call meets the store: a save, a container record, or neither. -/
theorem perform_store {w w' : World} {o : Op} {x : Choice} {r : Except Failure o.Answer}
    (h : w.perform o x = some (r, w')) :
    w'.store = w.store ∨
      (∃ caller p rev q current, (⟨o, r⟩ : Exchange Op Op.Answer Failure) =
          ⟨.compareAndSaveWorkspaceExecution caller p rev, .ok (some q)⟩ ∧
        w.store.Saves p rev q w'.store current) ∨
      (∃ c, o = .saveContainer c ∧ w.store.saveContainer c = .ok w'.store) := by
  cases o
  case compareAndSaveWorkspaceExecution caller p rev =>
    cases x with
    | go =>
      rw [perform_compareAndSave] at h
      split at h
      · next saved store hs =>
        obtain ⟨rfl, rfl⟩ := Prod.mk.inj (Option.some.inj h)
        rcases MemoryPersistence.compareAndSave_ok hs with ⟨_, hst⟩ | ⟨q, current, rfl, hq⟩
        · exact .inl hst
        · exact .inr (.inl ⟨caller, p, rev, q, current, rfl, hq⟩)
      · obtain ⟨_, rfl⟩ := Prod.mk.inj (Option.some.inj h)
        exact .inl rfl
    | fails =>
      obtain ⟨_, rfl⟩ := Prod.mk.inj (Option.some.inj h)
      exact .inl rfl
    | _ => cases h
  case saveContainer c =>
    cases x with
    | go =>
      rw [perform_saveContainer] at h
      split at h
      · next store hs =>
        obtain ⟨_, rfl⟩ := Prod.mk.inj (Option.some.inj h)
        exact .inr (.inr ⟨c, rfl, hs⟩)
      · obtain ⟨_, rfl⟩ := Prod.mk.inj (Option.some.inj h)
        exact .inl rfl
    | fails =>
      obtain ⟨_, rfl⟩ := Prod.mk.inj (Option.some.inj h)
      exact .inl rfl
    | _ => cases h
  case throwIfAborted signal =>
    cases x
    case go =>
      rw [perform_throwIfAborted] at h
      split at h <;> (obtain ⟨_, rfl⟩ := Prod.mk.inj (Option.some.inj h); exact .inl rfl)
    all_goals cases h
  case reconcile request =>
    cases x
    case reports => obtain ⟨_, rfl⟩ := Prod.mk.inj (Option.some.inj h); exact .inl rfl
    case fails e b =>
      obtain ⟨_, rfl⟩ := Prod.mk.inj (Option.some.inj h)
      cases b <;> exact .inl rfl
    all_goals cases h
  case removeEnvironment request =>
    cases x
    case go => obtain ⟨_, rfl⟩ := Prod.mk.inj (Option.some.inj h); exact .inl rfl
    case fails e b =>
      obtain ⟨_, rfl⟩ := Prod.mk.inj (Option.some.inj h)
      cases b <;> exact .inl rfl
    all_goals cases h
  all_goals
    cases x <;> first
      | (obtain ⟨_, rfl⟩ := Prod.mk.inj (Option.some.inj h); exact .inl rfl)
      | cases h

theorem perform_get {w w' : World} {caller : Caller} {id : String} {x : Choice}
    {p : Option WorkspaceExecutionProjection}
    (h : w.perform (.getWorkspaceExecutionProjection caller id) x = some (.ok p, w')) :
    w.store.get id = p ∧ w' = w := by
  cases x
  case go =>
    obtain ⟨hp, rfl⟩ := Prod.mk.inj (Option.some.inj h)
    exact ⟨Except.ok.inj hp, rfl⟩
  case fails => cases h
  all_goals cases h

/-- A save that answers with a row has saved it. -/
theorem perform_save {w w' : World} {caller : Caller} {next q : WorkspaceExecutionProjection} {rev : Nat} {x : Choice}
    (h : w.perform (.compareAndSaveWorkspaceExecution caller next rev) x = some (.ok (some q), w')) :
    ∃ stored, w.store.Saves next rev q w'.store stored := by
  cases x with
  | go =>
    rw [perform_compareAndSave] at h
    split at h
    · next s store hs =>
      obtain ⟨hq, rfl⟩ := Prod.mk.inj (Option.some.inj h)
      obtain rfl := Except.ok.inj hq
      rcases MemoryPersistence.compareAndSave_ok hs with ⟨hn, _⟩ | ⟨q', stored, hq', hsave⟩
      · cases hn
      · obtain rfl := Option.some.inj hq'
        exact ⟨stored, hsave⟩
    · cases h
  | _ => cases h

/-- An environment comes into being by a reconcile only. -/
theorem perform_environment {w w' : World} {o : Op} {x : Choice} {r : Except Failure o.Answer} {id : String}
    (h : w.perform o x = some (r, w')) (hid : id ∈ w'.environments) :
    id ∈ w.environments ∨ ∃ request, o = .reconcile request ∧ request.workspaceId = id := by
  cases o
  case reconcile request =>
    cases x
    case reports =>
      obtain ⟨_, rfl⟩ := Prod.mk.inj (Option.some.inj h)
      rcases Finset.mem_insert.1 hid with rfl | hid
      · exact .inr ⟨request, rfl, rfl⟩
      · exact .inl hid
    case fails error takesEffect =>
      obtain ⟨_, rfl⟩ := Prod.mk.inj (Option.some.inj h)
      cases takesEffect with
      | false => exact .inl hid
      | true =>
        rcases Finset.mem_insert.1 hid with rfl | hid
        · exact .inr ⟨request, rfl, rfl⟩
        · exact .inl hid
    all_goals cases h
  case removeEnvironment request =>
    cases x
    case go =>
      obtain ⟨_, rfl⟩ := Prod.mk.inj (Option.some.inj h)
      exact .inl (Finset.mem_of_mem_erase hid)
    case fails error takesEffect =>
      obtain ⟨_, rfl⟩ := Prod.mk.inj (Option.some.inj h)
      cases takesEffect with
      | false => exact .inl hid
      | true => exact .inl (Finset.mem_of_mem_erase hid)
    all_goals cases h
  case throwIfAborted signal =>
    cases x
    case go =>
      rw [perform_throwIfAborted] at h
      split at h <;> (obtain ⟨_, rfl⟩ := Prod.mk.inj (Option.some.inj h); exact .inl hid)
    all_goals cases h
  case compareAndSaveWorkspaceExecution caller p rev =>
    cases x
    case go =>
      rw [perform_compareAndSave] at h
      split at h <;> (obtain ⟨_, rfl⟩ := Prod.mk.inj (Option.some.inj h); exact .inl hid)
    case fails => obtain ⟨_, rfl⟩ := Prod.mk.inj (Option.some.inj h); exact .inl hid
    all_goals cases h
  case saveContainer c =>
    cases x
    case go =>
      rw [perform_saveContainer] at h
      split at h <;> (obtain ⟨_, rfl⟩ := Prod.mk.inj (Option.some.inj h); exact .inl hid)
    case fails => obtain ⟨_, rfl⟩ := Prod.mk.inj (Option.some.inj h); exact .inl hid
    all_goals cases h
  all_goals
    cases x <;> first
      | (obtain ⟨_, rfl⟩ := Prod.mk.inj (Option.some.inj h); exact .inl hid)
      | cases h

/-- An adapter answers for the generation and the transaction it was asked about. -/
theorem perform_reconcile {w w' : World} {request : ExecutionReconcileRequest} {x : Choice}
    {result : ExecutionReconcileResult} (h : w.perform (.reconcile request) x = some (.ok result, w')) :
    result.generation = request.desiredGeneration ∧ result.transactionId = request.transactionId := by
  cases x
  case reports =>
    obtain ⟨hp, rfl⟩ := Prod.mk.inj (Option.some.inj h)
    rw [← Except.ok.inj hp]
    exact ⟨rfl, rfl⟩
  case fails => cases h
  all_goals cases h

end World

/-! ## Threads -/

/-- What a thread does: one call of the code, or one round of a call that goes in rounds. -/
inductive Call
  | reconcile (input : WorkspaceExecutionReconcileInput)
  | provision (request : ProvisionContainerRequest)
  | rebuild (request : ProvisionContainerRequest)
  | start (workspaceId : String) (signal : Option AbortSignal)
  | stop (workspaceId : String) (signal : Option AbortSignal)
  | persistLegacyContainer (container : Container)
  | saveContainer (container : Container)
  | deleteWorkspace (input : WorkspaceDeletionInput)
  | deletionRound (input : WorkspaceDeletionInput) (current : WorkspaceExecutionProjection)
  | abort (signal : AbortSignal) (reason : Failure)

inductive Returned
  | projection (projection : WorkspaceExecutionProjection)
  | container (container : ContainerInstance)
  | nothing

def Call.body (m : Manager) : Call → Task (Call ⊕ Returned)
  | .reconcile input => do
    let projection ← OpenApp.reconcile m input
    pure (.inr (.projection projection))
  | .provision request => do
    let container ← bridgeProvision m request
    pure (.inr (.container container))
  | .rebuild request => do
    let container ← bridgeRebuild m request
    pure (.inr (.container container))
  | .start workspaceId signal => do
    let container ← reconcileCurrent m workspaceId .running signal
    pure (.inr (.container container))
  | .stop workspaceId signal => do
    let container ← reconcileCurrent m workspaceId .stopped signal
    pure (.inr (.container container))
  | .persistLegacyContainer container => do
    OpenApp.persistLegacyContainer container
    pure (.inr .nothing)
  | .saveContainer container => do
    await (.saveContainer container)
    pure (.inr .nothing)
  | .deleteWorkspace input => do
    let current ← startDeletion m input
    pure (.inl (.deletionRound input current))
  | .deletionRound input current => do
    match ← OpenApp.deletionRound m input current with
    | .inl current => pure (.inl (.deletionRound input current))
    | .inr projection => pure (.inr (.projection projection))
  | .abort signal reason => do
    await (.abort signal reason)
    pure (.inr .nothing)

abbrev WorkspaceSystem := System Op Op.Answer Failure World Choice Call Returned

def workspaceSystem (m : Manager) : WorkspaceSystem where
  perform := World.perform
  body := Call.body m

/-! ## A Workspace to try things on -/

namespace Sample

/-- SHA-256 on the texts the samples hash. -/
def sha256 (text : String) : String :=
  if text = "ws\x00retry" then "15076fb1bbfee1aa0b27be6344d5bfb136e8247c4db39472a27861c6973b7325"
  else if text = "ws\x00other" then "0e60517302a3310e1cad6191b58e4b813f2f946f7b1b4f0eac510e6e48ab164b"
  else if text = "ws\x00workspace-delete" then "8b225a961cbaf756768d362976b8094b79137ce02f8a1d7b9f3994e0c1384649"
  else if text = "ws\x00provision:ws" then "c3e55bbfb0625a08bf6c1fc09ff77e8a8d66204217f87c5f2a9c871b70107b62"
  else ""

def manager : Manager where
  providerId := "docker"
  storageReleaserId := "docker"
  sameProvider := rfl
  sha256 := sha256

def time : String := "2024-01-01T00:00:00.000Z"

def container (status : ContainerStatus) : Container where
  id := "ws"
  userId := "user"
  appId := "app"
  providerId := none
  runtimeId := if status = .creating then "pending" else "env"
  status := status
  endpoint := none
  stopReason := none
  createdAt := time
  updatedAt := time
  lastActivityAt := time
  appVersionId := some "v1"
  imageArtifactId := none
  imageReference := some "image:1"

/-- A store with the rows of these containers. -/
def storeOf (containers : List Container) : MemoryPersistence :=
  containers.foldl (fun s c => (s.saveContainer c).toOption.getD s) .empty

def world (containers : List Container) : World where
  store := storeOf containers
  signals _ := none
  environments := ∅

def profile (image : String) : ContainerLaunchProfile where
  imageReference := image
  resources := { memory := "1g", cpus := "1", pidsLimit := 100 }
  environment := []
  configFiles := []

/-- A reconcile to the version `v` with the image `image`. -/
def input (v image : String) (desiredState : WorkspaceDesiredState) (replace : Bool)
    (transactionKey : Option String) (signal : Option AbortSignal) : WorkspaceExecutionReconcileInput where
  workspaceId := "ws"
  ownerId := "user"
  providerId := none
  artifactKind := none
  executionContract := none
  storageClass := none
  appId := "app"
  appRevisionId := some v
  launchArtifactId := none
  launchArtifactReference := image
  sourceCatalogSnapshot := none
  launchProfile := profile image
  desiredState := desiredState
  replace := replace
  transactionKey := transactionKey
  signal := signal

def binding : StorageBinding where
  storageId := "workspace-storage:ws"
  attachmentRef := "volume"
  mountPath := "/data"
  readOnly := false

def snapshot (v image : String) : ContainerCatalogSnapshot where
  appId := "app"
  appVersionId := some v
  imageArtifactId := none
  imageReference := image

/-- What the provider runs, once it runs `v`. -/
def execution (v image : String) (observedState : WorkspaceObservedState) : ProviderExecution where
  workspaceId := "ws"
  ownerId := "user"
  environmentRef := "env"
  providerId := none
  observedState := observedState
  createdAt := time
  catalogSnapshot := some (snapshot v image)
  transactionRecovered := false

def transient : Failure := .provider "provider_unavailable" .transient .reconcile none

/-- One thread's part of a schedule. -/
def thread {ι : Type} (t : ι) (choices : List Choice) : List (ι × Choice) :=
  choices.map fun x => (t, x)

/-- A keyed reconcile up to the provider: its checks, its intent, its storage. -/
def toProvider : List Choice :=
  [.go, .go, .go, .text time, .go, .binds binding]

/-- The same without a key. -/
def toProviderAs (transactionId : String) : List Choice :=
  [.go, .go, .text transactionId, .go, .text time, .go, .binds binding]

/-- The provider's result and its commit. -/
def committing (status : ExecutionReconcileStatus) (execution : ProviderExecution) : List Choice :=
  [.reports status execution, .go, .go, .text time, .go]

/-- The provider's failure and its record. -/
def failing (error : Failure) : List Choice :=
  [.fails error false, .go, .text time, .go]

/-- A phase is stored, and the next round begins. -/
def storing : List Choice :=
  [.go, .text time, .go, .go]

/-- The rounds of a deletion, from its begin to where it clears its drain. -/
def beginning : List Choice := .go :: storing
def draining : List Choice := .admits true :: storing
def removing : List Choice := [.binds binding, .go, .go] ++ storing
def verifying : List Choice := .go :: storing
def releasing : List Choice := [.binds binding, .go, .go] ++ storing
def finalizing : List Choice := storing ++ [.go]

end Sample

end OpenApp
