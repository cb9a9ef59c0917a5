import OpenApp.Async.Interleave
import OpenApp.Keyed
import OpenApp.Script

/-!
# Operations of administrators

A manager runs the tasks of administrators and keeps what becomes of them in a store that all managers share. The
tasks themselves are closures that only the manager knows that was given them; here a closure is a number. Every call
of the store may fail, and its answer may be lost when it has already written.
-/

namespace OpenApp.Operations

open Script Async Async.Prog Keyed

inductive AdminOperationStatus
  | queued | running | succeeded | failed | cancelled
  deriving DecidableEq

/-- `isTerminal` -/
def AdminOperationStatus.terminal : AdminOperationStatus → Bool
  | .succeeded | .failed | .cancelled => true
  | _ => false

/-- Without the result of its task, which nothing here reads. -/
structure AdminOperation where
  id : String
  revision : Nat
  type : String
  status : AdminOperationStatus
  progress : Nat
  stage : String
  actorUserId : String
  resourceType : String
  resourceId : Option String
  requestId : String
  idempotencyKey : Option String
  requestFingerprint : Option String
  retryOf : Option String
  cancellable : Bool
  retryable : Bool
  error : Option String
  createdAt : String
  startedAt : Option String
  heartbeatAt : Option String
  finishedAt : Option String
  deriving DecidableEq

structure StartAdminOperation where
  type : String
  actorUserId : String
  resourceType : String
  resourceId : Option String := none
  requestId : Option String := none
  idempotencyKey : Option String := none
  requestFingerprint : Option String := none
  retryOf : Option String := none
  cancellable : Option Bool := none
  retryable : Option Bool := none

abbrev AdminOperationTask := Nat

inductive OperationFailure
  /-- `AdminOperationConflictError` -/
  | conflict
  | error (message : String)
  deriving DecidableEq

/-! ## The store -/

/-- `MemoryOperationStore`, without its locks -/
abbrev OperationStore := Table AdminOperation.id

namespace OperationStore

variable (store : OperationStore)

def findOperationByIdempotencyKey (actorUserId idempotencyKey : String) : Option AdminOperation :=
  store.rows.find? fun candidate =>
    candidate.actorUserId = actorUserId ∧ candidate.idempotencyKey = some idempotencyKey

def createOperation (operation : AdminOperation) : (AdminOperation × Bool) × OperationStore :=
  match (operation.idempotencyKey.filter truthy).bind (findOperationByIdempotencyKey store operation.actorUserId) with
  | some existing => ((existing, false), store)
  | none => ((operation, true), store.put operation)

def compareAndSaveOperation (operation : AdminOperation) (expectedRevision : Nat) :
    Option AdminOperation × OperationStore :=
  match store.get operation.id with
  | none => (none, store)
  | some current =>
    if current.revision ≠ expectedRevision then (none, store)
    else
      let updated := { operation with revision := expectedRevision + 1 }
      (some updated, store.put updated)

end OperationStore

/-! ## What a manager calls -/

/-- The closures are kept by each manager; the rest is shared. -/
inductive OperationOp
  | now
  | randomUUID
  | findOperationByIdempotencyKey (actorUserId idempotencyKey : String)
  | createOperation (operation : AdminOperation)
  | compareAndSaveOperation (operation : AdminOperation) (expectedRevision : Nat)
  | getOperation (id : String)
  /-- the lease of `withRetryLock` is asked for; it may be refused -/
  | lock (id : String)
  | unlock (id : String)
  | retryTask (manager : Nat) (id : String)
  | setRetryTask (manager : Nat) (id : String) (task : AdminOperationTask)
  | deleteRetryTask (manager : Nat) (id : String)
  /-- `queueMicrotask(() => void this.#execute(...))` -/
  | execute (manager : Nat) (id : String) (task : AdminOperationTask)
  | onExisting
  /-- an executor, a cancellation or a recovery moves an operation on -/
  | transition

abbrev OperationOp.Answer : OperationOp → Type
  | .now => String
  | .randomUUID => String
  | .findOperationByIdempotencyKey _ _ => Option AdminOperation
  | .createOperation _ => AdminOperation × Bool
  | .compareAndSaveOperation _ _ => Option AdminOperation
  | .getOperation _ => Option AdminOperation
  | .lock _ => Bool
  | .retryTask _ _ => Option AdminOperationTask
  | _ => Unit

abbrev OperationCallee (α : Type) := Prog OperationOp OperationOp.Answer OperationFailure α

abbrev Exchanges := Trace OperationOp OperationOp.Answer OperationFailure

abbrev ask (o : OperationOp) : OperationCallee o.Answer := await o

/-! ## Starting -/

def assertIdempotencyMatch (operation : AdminOperation) (input : StartAdminOperation) : OperationCallee Unit :=
  throwIf (operation.type ≠ input.type ∨ operation.resourceType ≠ input.resourceType ∨
    operation.resourceId ≠ input.resourceId ∨ operation.requestFingerprint ≠ input.requestFingerprint) .conflict

/-- An operation that was started before under the same key. -/
def existingOperation (operation : AdminOperation) (input : StartAdminOperation) (onExisting : Bool) :
    OperationCallee AdminOperation := do
  assertIdempotencyMatch operation input
  if onExisting then do
    ask .onExisting
    pure operation
  else pure operation

/-- The operation as it is stored at first. -/
def queuedOperation (input : StartAdminOperation) (createdAt id requestId : String) : AdminOperation where
  id := id
  revision := 1
  type := input.type
  status := .queued
  progress := 0
  stage := "queued"
  actorUserId := input.actorUserId
  resourceType := input.resourceType
  resourceId := input.resourceId
  requestId := requestId
  idempotencyKey := input.idempotencyKey
  requestFingerprint := input.requestFingerprint
  retryOf := input.retryOf
  cancellable := input.cancellable.getD false
  retryable := input.retryable.getD false
  error := none
  createdAt := createdAt
  startedAt := none
  heartbeatAt := none
  finishedAt := none

def requestIdOf (input : StartAdminOperation) : OperationCallee String :=
  match input.requestId with
  | some requestId => pure requestId
  | none => ask .randomUUID

/-- The task goes to its manager where it may be retried, and is executed detached. -/
def launch (manager : Nat) (operation : AdminOperation) (task : AdminOperationTask) : OperationCallee AdminOperation :=
  if operation.retryable then do
    ask (.setRetryTask manager operation.id task)
    ask (.execute manager operation.id task)
    pure operation
  else do
    ask (.execute manager operation.id task)
    pure operation

def startNew (manager : Nat) (input : StartAdminOperation) (task : AdminOperationTask) (onExisting : Bool) :
    OperationCallee AdminOperation := do
  let createdAt ← ask .now
  let id ← ask .randomUUID
  let requestId ← requestIdOf input
  let operation := queuedOperation input createdAt id requestId
  let created ← ask (.createOperation operation)
  if created.2 then launch manager operation task
  else existingOperation created.1 input onExisting

/-- `AdminOperationManager.start` -/
def start (manager : Nat) (input : StartAdminOperation) (task : AdminOperationTask) (onExisting : Bool) :
    OperationCallee AdminOperation :=
  match input.idempotencyKey.filter truthy with
  | some idempotencyKey => do
    match ← ask (.findOperationByIdempotencyKey input.actorUserId idempotencyKey) with
    | some existing => existingOperation existing input onExisting
    | none => startNew manager input task onExisting
  | none => startNew manager input task onExisting

/-! ## Retrying -/

/-- A retry that could not be started gives the right to retry back. -/
def giveBack (id : String) (retryable : Bool) : OperationCallee Unit := do
  match ← ask (.getOperation id) with
  | some latest =>
    if latest.retryable then pure ()
    else do
      let _ ← ask (.compareAndSaveOperation { latest with retryable := retryable } latest.revision)
      pure ()
  | none => pure ()

/-- What is started again. -/
def retryInput (operation : AdminOperation) : StartAdminOperation where
  type := operation.type
  actorUserId := operation.actorUserId
  resourceType := operation.resourceType
  resourceId := operation.resourceId
  retryOf := some operation.id
  cancellable := some operation.cancellable
  retryable := some operation.retryable

def startRetry (manager : Nat) (operation : AdminOperation) (task : AdminOperationTask) : OperationCallee AdminOperation := do
  let retried ← start manager (retryInput operation) task false
  ask (.deleteRetryTask manager operation.id)
  pure retried

/-- The closure that is run again: the one that is given, or the one the manager remembers. -/
def taskFor (manager : Nat) (id : String) (task : Option AdminOperationTask) : OperationCallee (Option AdminOperationTask) :=
  match task with
  | some task => pure (some task)
  | none => ask (.retryTask manager id)

/-- Clear the flag of the operation, at the revision it was read at. -/
def takeRight (operation : AdminOperation) : OperationCallee (Option AdminOperation) :=
  ask (.compareAndSaveOperation { operation with retryable := false } operation.revision)

def retryWith (manager : Nat) (id : String) (operation : AdminOperation) :
    Option AdminOperationTask → OperationCallee AdminOperation
  | none => do
    let _ ← takeRight operation
    throw (.error "operation_retry_unavailable")
  | some retryTask => do
    match ← takeRight operation with
    | none => throw (.error "operation_retry_conflict")
    | some _ => guarded (startRetry manager operation retryTask) (giveBack id operation.retryable)

/-- What is done under the lock. -/
def retryLocked (manager : Nat) (id : String) (task : Option AdminOperationTask) : OperationCallee AdminOperation := do
  match ← ask (.getOperation id) with
  | none => throw (.error "operation_not_found")
  | some operation => do
    throwIf (operation.status ≠ .failed ∧ operation.status ≠ .cancelled) (.error "operation_not_retryable")
    throwIf (operation.retryable = false ∧ task = none) (.error "operation_retry_unavailable")
    let retryTask ← taskFor manager id task
    retryWith manager id operation retryTask

/-- `AdminOperationManager.retry` -/
def retry (manager : Nat) (id : String) (task : Option AdminOperationTask) : OperationCallee AdminOperation := do
  if ← ask (.lock id) then ensuring (retryLocked manager id task) (ask (.unlock id))
  else throw (.error "operation_retry_busy")

/-! ## The world -/

def MAX_RETRY_TASKS : Nat := 1000

/-- The closures of a manager, the oldest first. -/
abbrev RetryTasks := Table (Prod.fst : String × AdminOperationTask → String)

/-- `#pruneRetryTasks` -/
def RetryTasks.prune (tasks : RetryTasks) : RetryTasks where
  rows := tasks.rows.drop (tasks.rows.length - MAX_RETRY_TASKS)
  nodup := tasks.nodup.sublist ((List.drop_sublist _ _).map _)

structure World where
  operations : OperationStore
  /-- the operations whose lease is held -/
  locked : List String
  retryTasks : Nat → RetryTasks
  /-- the ids that were drawn -/
  ids : List String

inductive OperationChoice
  | go
  | fails (error : OperationFailure)
  /-- the call writes, and its answer is lost -/
  | lost (error : OperationFailure)
  | text (value : String)
  | busy
  | moved (next : AdminOperation)

/-- What is said about an operation when it is created stays. -/
def sameRequest (current next : AdminOperation) : Bool :=
  next.id = current.id ∧ next.type = current.type ∧ next.actorUserId = current.actorUserId ∧
    next.resourceType = current.resourceType ∧ next.resourceId = current.resourceId ∧
    next.requestId = current.requestId ∧ next.idempotencyKey = current.idempotencyKey ∧
    next.requestFingerprint = current.requestFingerprint ∧ next.retryOf = current.retryOf ∧
    next.createdAt = current.createdAt

namespace World

variable (w : World)

/-- What a call of the store answers and leaves. -/
def stored : (o : OperationOp) → Option (o.Answer × World)
  | .findOperationByIdempotencyKey actorUserId idempotencyKey =>
    some (OperationStore.findOperationByIdempotencyKey w.operations actorUserId idempotencyKey, w)
  | .createOperation operation =>
    let r := OperationStore.createOperation w.operations operation
    some (r.1, { w with operations := r.2 })
  | .compareAndSaveOperation operation expectedRevision =>
    let r := OperationStore.compareAndSaveOperation w.operations operation expectedRevision
    some (r.1, { w with operations := r.2 })
  | .getOperation id => some (w.operations.get id, w)
  | .lock id => if id ∈ w.locked then none else some (true, { w with locked := id :: w.locked })
  | .unlock id => some ((), { w with locked := w.locked.filter (· ≠ id) })
  | .onExisting => some ((), w)
  | _ => none

/-- What a manager does in its own memory. -/
def remembered : (o : OperationOp) → Option (o.Answer × World)
  | .retryTask manager id => some (((w.retryTasks manager).get id).map Prod.snd, w)
  | .setRetryTask manager id task =>
    let tasks := RetryTasks.prune ((w.retryTasks manager).put (id, task))
    some ((), { w with retryTasks := Function.update w.retryTasks manager tasks })
  | .deleteRetryTask manager id =>
    some ((), { w with retryTasks := Function.update w.retryTasks manager ((w.retryTasks manager).delete id) })
  | .execute _ _ _ => some ((), w)
  | _ => none

/-- What a call is told from outside. -/
def told : (o : OperationOp) → OperationChoice → Option (o.Answer × World)
  | .now, .text value => some (value, w)
  | .randomUUID, .text value =>
    if value ∈ w.ids ∨ (w.operations.get value).isSome then none else some (value, { w with ids := value :: w.ids })
  | .lock _, .busy => some (false, w)
  | .transition, .moved next =>
    match w.operations.get next.id with
    | none => none
    | some current =>
      if current.status.terminal = false ∧ sameRequest current next = true then
        some ((), { w with operations := w.operations.put { next with revision := current.revision + 1 } })
      else none
  | _, _ => none

def perform (o : OperationOp) : OperationChoice → Option (Except OperationFailure o.Answer × World)
  | .go => ((w.stored o).or (w.remembered o)).map fun r => (.ok r.1, r.2)
  | .fails error => (w.stored o).map fun _ => (.error error, w)
  | .lost error => (w.stored o).map fun r => (.error error, r.2)
  | x => (w.told o x).map fun r => (.ok r.1, r.2)

end World

/-! ## Threads -/

inductive OperationCall
  /-- only a retry says what it retries -/
  | start (manager : Nat) (input : StartAdminOperation) (task : AdminOperationTask) (onExisting : Bool)
  | retry (manager : Nat) (id : String) (task : Option AdminOperationTask)
  /-- whatever moves the operations that are not finished -/
  | executor

def OperationCall.body : OperationCall → OperationCallee (OperationCall ⊕ AdminOperation)
  | .start manager input task onExisting =>
    Sum.inr <$> Operations.start manager { input with retryOf := none } task onExisting
  | .retry manager id task => Sum.inr <$> Operations.retry manager id task
  | .executor => do
    ask .transition
    pure (.inl .executor)

def operationSystem :
    System OperationOp OperationOp.Answer OperationFailure World OperationChoice OperationCall AdminOperation where
  perform := World.perform
  body := OperationCall.body

end OpenApp.Operations
