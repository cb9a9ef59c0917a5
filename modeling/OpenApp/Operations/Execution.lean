import OpenApp.Operations.Manager

/-!
# Executing operations

A manager claims an operation that is queued and runs its task, which reports how far it is, says when it cannot be
undone any more, and ends. Meanwhile any manager may cancel the operation or recover it. The managers share the store;
each of them has its own locks and its own controllers.
-/

namespace OpenApp.Execution

open Script Async Async.Prog Keyed
open Operations (AdminOperation AdminOperationStatus OperationStore OperationFailure StartAdminOperation queuedOperation)

/-- How a task ends. -/
inductive TaskEnd
  | returned
  | failed (message : String)

structure AdminOperationManager where
  id : Nat
  /-- `sanitizeSensitiveText`, with the most characters it leaves -/
  sanitize : String → Nat → String

/-! ## The store -/

def OPERATION_RETENTION_MS : Nat := 30 * 24 * 60 * 60 * 1000

/-- Nobody has heard of the operation since the cutoff. -/
def stale (cutoff : String) (operation : AdminOperation) : Bool :=
  !operation.status.terminal &&
    match dateParse ((operation.heartbeatAt.or operation.startedAt).getD operation.createdAt), dateParse cutoff with
    | some seen, some cutoff => seen ≤ cutoff
    | _, _ => true

def interrupted (finishedAt : String) (operation : AdminOperation) : AdminOperation :=
  { operation with
    revision := operation.revision + 1
    status := .failed
    stage := "interrupted"
    error := some "portal_restarted"
    cancellable := false
    retryable := false
    heartbeatAt := some finishedAt
    finishedAt := some finishedAt }

def recovered (cutoff finishedAt : String) (operation : AdminOperation) : AdminOperation :=
  if stale cutoff operation then interrupted finishedAt operation else operation

theorem recovered_id (cutoff finishedAt : String) (operation : AdminOperation) :
    (recovered cutoff finishedAt operation).id = operation.id := by
  unfold recovered
  split <;> rfl

def recoverStaleOperations (store : OperationStore) (cutoff finishedAt : String) : List String × OperationStore :=
  ((store.rows.filter (stale cutoff)).map AdminOperation.id,
    store.sweep (recovered cutoff finishedAt) (recovered_id cutoff finishedAt))

/-- The operation is finished, and was before the retention. -/
def expired (now : Nat) (operation : AdminOperation) : Bool :=
  operation.status.terminal &&
    match dateParse (operation.finishedAt.getD operation.createdAt) with
    | some finished => finished + OPERATION_RETENTION_MS < now
    | none => true

def pruneFinishedOperations (store : OperationStore) (now : Nat) : OperationStore :=
  store.keep fun operation => !expired now operation

/-! ## What a manager calls -/

inductive ExecutionOp
  | now
  /-- the time now, and the time so many milliseconds before -/
  | nowAndBefore (ms : Nat)
  /-- `Date.now()` of the store -/
  | dateNow
  | getOperation (id : String)
  | compareAndSaveOperation (operation : AdminOperation) (expectedRevision : Nat)
  | pruneFinishedOperations (now : Nat)
  | recoverStaleOperations (cutoff finishedAt : String)
  /-- the transition lock of an operation -/
  | enter (manager : Nat) (id : String)
  | leave (manager : Nat) (id : String)
  | newController
  | controller (manager : Nat) (id : String)
  | setController (manager : Nat) (id : String) (controller : Nat)
  | deleteController (manager : Nat) (id : String)
  | abort (controller : Nat)
  | aborted (controller : Nat)
  | deleteRetryTask (manager : Nat) (id : String)
  /-- the closure of the operation runs to its end -/
  | task (id : String) (controller : Nat)
  /-- another operation is stored, to be executed -/
  | submit

abbrev ExecutionOp.Answer : ExecutionOp → Type
  | .now => String
  | .nowAndBefore _ => String × String
  | .dateNow => Nat
  | .getOperation _ => Option AdminOperation
  | .compareAndSaveOperation _ _ => Option AdminOperation
  | .recoverStaleOperations _ _ => List String
  | .newController => Nat
  | .controller _ _ => Option Nat
  | .aborted _ => Bool
  | .task _ _ => TaskEnd
  | _ => Unit

abbrev ExecutionTask (α : Type) := Prog ExecutionOp ExecutionOp.Answer OperationFailure α

abbrev Exchanges := Trace ExecutionOp ExecutionOp.Answer OperationFailure

abbrev ask (o : ExecutionOp) : ExecutionTask o.Answer := Prog.await o

def messageOf : OperationFailure → String
  | .conflict => "idempotency_key_conflict"
  | .error message => message

/-- `none` is a number that is not finite; any other one is rounded. -/
def clampProgress : Option Int → Nat
  | some value => (min (max value 0) 99).toNat
  | none => 0

def boundedText (value : String) (maximum : Nat) : String :=
  let text := String.ofList (takeUnits maximum (trim value).toList)
  if truthy text then text else "unknown"

def statusText : AdminOperationStatus → String
  | .queued => "queued"
  | .running => "running"
  | .succeeded => "succeeded"
  | .failed => "failed"
  | .cancelled => "cancelled"

namespace AdminOperationManager

variable (m : AdminOperationManager)

def sanitizeOperationError (message : String) : String :=
  boundedText (m.sanitize message 2000) 2000

def withTransitionLock {α : Type} (id : String) (operation : ExecutionTask α) : ExecutionTask α := do
  ask (.enter m.id id)
  ensuring operation (ask (.leave m.id id))

/-- `this.#controllers.get(id)?.abort()` -/
def abortRegistered (id : String) : ExecutionTask Unit := do
  match ← ask (.controller m.id id) with
  | some controller => ask (.abort controller)
  | none => pure ()

/-! ## Cancelling and recovering -/

def cancelledAt (operation : AdminOperation) (now : String) : AdminOperation :=
  { operation with status := .cancelled, stage := "cancelled", heartbeatAt := some now, finishedAt := some now }

def cancellingAt (operation : AdminOperation) (now : String) : AdminOperation :=
  { operation with stage := "cancelling", heartbeatAt := some now }

def saveCancellation (id : String) (operation : AdminOperation) (next : AdminOperation) :
    ExecutionTask (Option (Option AdminOperation)) := do
  match ← ask (.compareAndSaveOperation next operation.revision) with
  | none => pure none
  | some updated => do
    m.abortRegistered id
    pure (some (some updated))

def cancelAttempt (id : String) : ExecutionTask (Option (Option AdminOperation)) := do
  match ← ask (.getOperation id) with
  | none => pure (some none)
  | some operation =>
    if operation.status.terminal then pure (some (some operation))
    else do
      throwIf (operation.cancellable = false) (.error "operation_not_cancellable")
      if operation.status = .queued then do
        let now ← ask .now
        m.saveCancellation id operation (cancelledAt operation now)
      else if operation.stage = "cancelling" then do
        m.abortRegistered id
        pure (some (some operation))
      else do
        let now ← ask .now
        m.saveCancellation id operation (cancellingAt operation now)

def cancel (id : String) : ExecutionTask (Option AdminOperation) :=
  m.withTransitionLock id (retry (m.cancelAttempt id) (throw (.error "operation_state_conflict")) 5)

def recoverInterrupted (staleAfterMs : Nat) : ExecutionTask Nat := do
  let times ← ask (.nowAndBefore staleAfterMs)
  tryCatch (do
    let now ← ask .dateNow
    ask (.pruneFinishedOperations now)) fun _ => pure ()
  let recoveredIds ← ask (.recoverStaleOperations times.2 times.1)
  let _ ← each (fun id => do
    m.abortRegistered id
    ask (.deleteRetryTask m.id id)) recoveredIds
  pure recoveredIds.length

/-! ## What the task of an operation calls -/

def reportedAt (operation : AdminOperation) (progress : Option Int) (stage now : String) : AdminOperation :=
  { operation with progress := clampProgress progress, stage := boundedText stage 120, heartbeatAt := some now }

def interrupt {α : Type} (controller : Nat) (message : String) : ExecutionTask α := do
  ask (.abort controller)
  throw (.error message)

def report (id : String) (controller : Nat) (progress : Option Int) (stage : String) : ExecutionTask Unit :=
  m.withTransitionLock id do
    match ← ask (.getOperation id) with
    | none => interrupt controller "operation_interrupted"
    | some current =>
      if current.status ≠ .running then interrupt controller "operation_interrupted"
      else if current.stage = "cancelling" then interrupt controller "operation_cancelled"
      else do
        let now ← ask .now
        match ← ask (.compareAndSaveOperation (reportedAt current progress stage now) current.revision) with
        | none => interrupt controller "operation_state_changed"
        | some _ => pure ()

def finalizingAt (operation : AdminOperation) (now : String) : AdminOperation :=
  { operation with cancellable := false, stage := "finalizing", heartbeatAt := some now }

/-- The check of a commit point that the operation is not cancelled. -/
def cancelledFor (current : Option AdminOperation) (aborted : Bool) : Prop :=
  aborted = true ∨ ∃ operation ∈ current, operation.stage = "cancelling" ∨ operation.status = .cancelled

instance (current : Option AdminOperation) (aborted : Bool) : Decidable (cancelledFor current aborted) :=
  inferInstanceAs (Decidable (_ ∨ _))

def commitAttempt (id : String) (controller : Nat) : ExecutionTask (Option Unit) := do
  let current ← ask (.getOperation id)
  let aborted ← ask (.aborted controller)
  if cancelledFor current aborted then interrupt controller "operation_cancelled"
  else
    match current with
    | none => interrupt controller "operation_interrupted"
    | some current =>
      if current.status ≠ .running then interrupt controller "operation_interrupted"
      else if current.cancellable = false ∧ current.stage = "finalizing" then pure (some ())
      else do
        let now ← ask .now
        match ← ask (.compareAndSaveOperation (finalizingAt current now) current.revision) with
        | none => pure none
        | some _ => pure (some ())

def commitPoint (id : String) (controller : Nat) : ExecutionTask Unit :=
  m.withTransitionLock id (retry (commitAttempt id controller) (interrupt controller "operation_state_changed") 10)

/-! ## Executing -/

def runningAt (operation : AdminOperation) (now : String) : AdminOperation :=
  { operation with status := .running, stage := "running", startedAt := some now, heartbeatAt := some now }

/-- Take the operation on, if it is still queued. -/
def claim (id : String) (controller : Nat) : ExecutionTask Bool :=
  m.withTransitionLock id do
    match ← ask (.getOperation id) with
    | none => pure false
    | some operation =>
      if operation.status ≠ .queued then pure false
      else do
        let now ← ask .now
        match ← ask (.compareAndSaveOperation (runningAt operation now) operation.revision) with
        | none => pure false
        | some _ => do
          ask (.setController m.id id controller)
          pure true

def failedToStartAt (operation : AdminOperation) (error now : String) : AdminOperation :=
  { operation with
    status := .failed
    stage := "failed"
    error := some error
    cancellable := false
    retryable := false
    finishedAt := some now
    heartbeatAt := some now }

/-- `#markStartFailure` -/
def markStartFailure (id : String) (error : OperationFailure) : ExecutionTask Unit :=
  tryCatch (m.withTransitionLock id do
    match ← ask (.getOperation id) with
    | none => pure ()
    | some current =>
      if current.status ≠ .queued then pure ()
      else do
        let now ← ask .now
        let _ ← ask (.compareAndSaveOperation
          (failedToStartAt current (m.sanitizeOperationError (messageOf error)) now) current.revision)
        pure ()) fun _ => pure ()

/-- What the operation ends as: past its commit point it is not cancelled any more. -/
def endStatus (operation : AdminOperation) (aborted : Bool) (outcome : TaskEnd) : AdminOperationStatus :=
  let passedCommitPoint := !operation.cancellable && operation.stage = "finalizing"
  if !passedCommitPoint && (aborted || operation.stage = "cancelling") then .cancelled
  else
    match outcome with
    | .returned => .succeeded
    | .failed _ => .failed

/-- The message that is stored with an operation that has failed. -/
def endError (status : AdminOperationStatus) : TaskEnd → Option String
  | .failed message => if status = .failed then some (m.sanitizeOperationError message) else none
  | .returned => none

def completedAt (operation : AdminOperation) (aborted : Bool) (outcome : TaskEnd) (now : String) : AdminOperation :=
  let status := endStatus operation aborted outcome
  { operation with
    status := status
    progress := if status = .succeeded then 100 else operation.progress
    stage := if status = .succeeded then "completed" else statusText status
    error := m.endError status outcome
    finishedAt := some now
    heartbeatAt := some now }

def completeAttempt (id : String) (controller : Nat) (outcome : TaskEnd) :
    ExecutionTask (Option (Option AdminOperation)) := do
  match ← ask (.getOperation id) with
  | none => pure (some none)
  | some current =>
    if current.status ≠ .running then pure (some (some current))
    else do
      let aborted ← ask (.aborted controller)
      let now ← ask .now
      match ← ask (.compareAndSaveOperation (m.completedAt current aborted outcome now) current.revision) with
      | none => pure none
      | some updated => pure (some (some updated))

/-- `#complete` -/
def complete (id : String) (controller : Nat) (outcome : TaskEnd) : ExecutionTask (Option AdminOperation) :=
  m.withTransitionLock id
    (retry (m.completeAttempt id controller outcome) (throw (.error "operation_state_conflict")) 10)

/-- The closure is not kept where the operation cannot be retried. -/
def forget (id : String) (unneeded : Bool) : ExecutionTask Unit :=
  if unneeded then ask (.deleteRetryTask m.id id) else pure ()

def runTask (id : String) (controller : Nat) : ExecutionTask Unit := do
  match ← ask (.task id controller) with
  | .failed message => throw (.error message)
  | .returned => do
    let completed ← m.complete id controller .returned
    m.forget id (completed.any fun operation => operation.status = .succeeded ∨ operation.retryable = false)

/-- What was thrown is stored, or lost. -/
def recordFailure (id : String) (controller : Nat) (error : OperationFailure) : ExecutionTask Unit :=
  tryCatch (do
    let completed ← m.complete id controller (.failed (messageOf error))
    m.forget id (completed.any fun operation => operation.retryable = false)) fun _ => pure ()

/-- `#execute` -/
def execute (id : String) : ExecutionTask Unit := do
  let controller ← ask .newController
  match ← settle (m.claim id controller) with
  | .error error => m.markStartFailure id error
  | .ok false => pure ()
  | .ok true =>
    ensuring (tryCatch (m.runTask id controller) (m.recordFailure id controller)) (ask (.deleteController m.id id))

def beatAt (operation : AdminOperation) (now : String) : AdminOperation :=
  { operation with heartbeatAt := some now }

def abortIfAny : Option Nat → ExecutionTask Unit
  | some controller => ask (.abort controller)
  | none => pure ()

/-- `#touchHeartbeat` -/
def touchHeartbeat (id : String) : ExecutionTask Unit :=
  tryCatch (m.withTransitionLock id do
    let current ← ask (.getOperation id)
    let controller ← ask (.controller m.id id)
    match current with
    | none => abortIfAny controller
    | some current =>
      if current.status ≠ .running ∨ current.stage = "cancelling" then abortIfAny controller
      else do
        let now ← ask .now
        match ← ask (.compareAndSaveOperation (beatAt current now) current.revision) with
        | none => abortIfAny controller
        | some _ => pure ()) fun _ => pure ()

end AdminOperationManager

/-! ## The world -/

/-- The controllers of a manager. -/
abbrev Controllers := Table (Prod.fst : String × Nat → String)

structure World where
  operations : OperationStore
  /-- the ids that were drawn -/
  ids : List String
  /-- the transition locks that are held -/
  locked : List (Nat × String)
  controllers : Nat → Controllers
  /-- how many controllers there are -/
  made : Nat
  aborted : List Nat

inductive ExecutionChoice
  | go
  | fails (error : OperationFailure)
  /-- the call writes, and its answer is lost -/
  | lost (error : OperationFailure)
  | text (value : String)
  | texts (now before : String)
  | clock (now : Nat)
  | ends (outcome : TaskEnd)
  | submits (input : StartAdminOperation) (createdAt id requestId : String)

namespace World

variable (w : World)

/-- What a call of the store answers and leaves. -/
def stored : (o : ExecutionOp) → Option (o.Answer × World)
  | .getOperation id => some (w.operations.get id, w)
  | .compareAndSaveOperation operation expectedRevision =>
    let r := OperationStore.compareAndSaveOperation w.operations operation expectedRevision
    some (r.1, { w with operations := r.2 })
  | .pruneFinishedOperations now => some ((), { w with operations := Execution.pruneFinishedOperations w.operations now })
  | .recoverStaleOperations cutoff finishedAt =>
    let r := Execution.recoverStaleOperations w.operations cutoff finishedAt
    some (r.1, { w with operations := r.2 })
  | _ => none

/-- What a manager does in its own memory. -/
def remembered : (o : ExecutionOp) → Option (o.Answer × World)
  | .enter manager id =>
    if (manager, id) ∈ w.locked then none else some ((), { w with locked := (manager, id) :: w.locked })
  | .leave manager id => some ((), { w with locked := w.locked.filter (· ≠ (manager, id)) })
  | .newController => some (w.made, { w with made := w.made + 1 })
  | .controller manager id => some (((w.controllers manager).get id).map Prod.snd, w)
  | .setController manager id controller =>
    some ((), { w with controllers := Function.update w.controllers manager ((w.controllers manager).put (id, controller)) })
  | .deleteController manager id =>
    some ((), { w with controllers := Function.update w.controllers manager ((w.controllers manager).delete id) })
  | .abort controller => some ((), { w with aborted := controller :: w.aborted })
  | .aborted controller => some (decide (controller ∈ w.aborted), w)
  | .deleteRetryTask _ _ => some ((), w)
  | _ => none

/-- What a call is told from outside. -/
def told : (o : ExecutionOp) → ExecutionChoice → Option (o.Answer × World)
  | .now, .text value => some (value, w)
  | .nowAndBefore _, .texts now before => some ((now, before), w)
  | .dateNow, .clock now => some (now, w)
  | .task _ _, .ends outcome => some (outcome, w)
  | .submit, .submits input createdAt id requestId =>
    if id ∈ w.ids then none
    else some ((),
      { w with operations := w.operations.put (queuedOperation input createdAt id requestId), ids := id :: w.ids })
  | _, _ => none

def perform (o : ExecutionOp) : ExecutionChoice → Option (Except OperationFailure o.Answer × World)
  | .go => ((w.stored o).or (w.remembered o)).map fun r => (.ok r.1, r.2)
  | .fails error => (w.stored o).map fun _ => (.error error, w)
  | .lost error => (w.stored o).map fun r => (.error error, r.2)
  | x => (w.told o x).map fun r => (.ok r.1, r.2)

end World

/-! ## Threads -/

/-- The calls of a task and its heartbeats stand for themselves: they may come in any order and at one time. -/
inductive ExecutionCall
  | execute (manager : AdminOperationManager) (id : String)
  | report (manager : AdminOperationManager) (id : String) (controller : Nat) (progress : Option Int) (stage : String)
  | commitPoint (manager : AdminOperationManager) (id : String) (controller : Nat)
  | touchHeartbeat (manager : AdminOperationManager) (id : String)
  | cancel (manager : AdminOperationManager) (id : String)
  | recoverInterrupted (manager : AdminOperationManager) (staleAfterMs : Nat)
  | submit

inductive Returned
  | operation (operation : Option AdminOperation)
  | count (recovered : Nat)
  | nothing

def ExecutionCall.run : ExecutionCall → ExecutionTask Returned
  | .execute m id => (fun _ => .nothing) <$> m.execute id
  | .report m id controller progress stage => (fun _ => .nothing) <$> m.report id controller progress stage
  | .commitPoint m id controller => (fun _ => .nothing) <$> m.commitPoint id controller
  | .touchHeartbeat m id => (fun _ => .nothing) <$> m.touchHeartbeat id
  | .cancel m id => Returned.operation <$> m.cancel id
  | .recoverInterrupted m staleAfterMs => Returned.count <$> m.recoverInterrupted staleAfterMs
  | .submit => (fun _ => .nothing) <$> ask .submit

def executionSystem :
    System ExecutionOp ExecutionOp.Answer OperationFailure World ExecutionChoice ExecutionCall Returned where
  perform := World.perform
  body call := Sum.inr <$> call.run

end OpenApp.Execution
