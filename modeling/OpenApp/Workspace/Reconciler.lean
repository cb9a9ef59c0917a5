import OpenApp.Async.Outcome
import OpenApp.Workspace.Types

/-!
# The reconciler of desired states

One run goes through the first projections in the order of their Workspaces, under a lease of its own and one for each
Workspace it reconciles, and tries again what failed for the moment only. The signal is left out: nothing is aborted
here.
-/

namespace OpenApp.Reconciler

open Async Async.Prog

/-- What `resolveInput` and `reconcile` may throw. -/
inductive Thrown
  | providerOperation (code : String) (failureClass : ProviderFailureClass)
  /-- any other object: its `code` where that is a text, and whether its `retryable` is true -/
  | object (code : Option String) (retryable : Bool)
  | value
  deriving DecidableEq

structure WorkspaceExecutionReconcilerOptions where
  maxItems : Option Int
  maxAttempts : Option Int
  retryDelayMs : Option Int
  isRetryable : Option (Thrown → Bool)
  /-- `left.localeCompare(right) <= 0` -/
  localeNotAfter : String → String → Bool

inductive ReconcileEntryStatus
  | reconciled | skipped | failed | busy
  deriving DecidableEq

structure ReconcileEntry where
  workspaceId : String
  status : ReconcileEntryStatus
  attempts : Nat
  reason : Option String

structure ReconcileRunReport where
  scanned : Nat
  selected : Nat
  reconciled : Nat
  skipped : Nat
  failed : Nat
  busy : Nat
  entries : List ReconcileEntry

def ReconcileRunReport.empty : ReconcileRunReport := ⟨0, 0, 0, 0, 0, 0, []⟩

def positiveBound (value : Option Int) (fallback maximum : Nat) : Nat :=
  match value with
  | some value => if 0 < value ∧ value ≤ maximum then value.toNat else fallback
  | none => fallback

/-! ## What needs reconciliation -/

def settledTransaction (status : ExecutionTransactionStatus) : Bool :=
  status = .failed || status = .inconsistent || status = .rolledBack

def openTransaction (status : ExecutionTransactionStatus) : Bool :=
  status = .requested || status = .progressing

def needsReconciliation (projection : WorkspaceExecutionProjection) : Bool :=
  if projection.workspace.status ≠ .active ∨ projection.execution.role ≠ .active then false
  else if settledTransaction projection.execution.transactionStatus then false
  else if openTransaction projection.execution.transactionStatus then true
  else if projection.execution.desiredGeneration > projection.execution.deployedGeneration then true
  else if projection.execution.desiredState = .running then projection.execution.observedState ≠ .running
  else projection.execution.observedState ≠ .stopped ∧ projection.execution.observedState ≠ .absent

def workspaceStatusText : WorkspaceStatus → String
  | .active => "active"
  | .deleting => "deleting"
  | .deleted => "deleted"

def executionRoleText : WorkspaceExecutionRole → String
  | .active => "active"
  | .candidate => "candidate"
  | .previous => "previous"
  | .retired => "retired"

def transactionStatusText : ExecutionTransactionStatus → String
  | .requested => "requested"
  | .progressing => "progressing"
  | .applied => "applied"
  | .awaitingFirstStart => "awaiting_first_start"
  | .rolledBack => "rolled_back"
  | .failed => "failed"
  | .inconsistent => "inconsistent"

def skipReason (projection : WorkspaceExecutionProjection) : String :=
  if projection.workspace.status ≠ .active then "workspace_" ++ workspaceStatusText projection.workspace.status
  else if projection.execution.role ≠ .active then "execution_" ++ executionRoleText projection.execution.role
  else if settledTransaction projection.execution.transactionStatus then
    "transaction_" ++ transactionStatusText projection.execution.transactionStatus
  else "already_converged"

def defaultRetryable : Thrown → Bool
  | .providerOperation _ failureClass => failureClass = .transient
  | .object _ retryable => retryable
  | .value => false

def errorCode : Option Thrown → String
  | some (.providerOperation code _) => code
  | some (.object (some code) _) => code
  | _ => "workspace_reconcile_failed"

/-! ## One run -/

inductive LeaseName
  /-- `workspace-execution-reconciler` -/
  | reconciler
  /-- `workspace-execution-reconcile:${projection.workspace.id}` -/
  | workspace (id : String)
  deriving DecidableEq

inductive ReconcileOp
  | listProjections
  /-- the lease is granted or busy -/
  | withLease (name : LeaseName)
  | resolveInput (projection : WorkspaceExecutionProjection)
  | reconcile (input : WorkspaceExecutionReconcileInput)
  | delay (milliseconds : Nat)

abbrev ReconcileOp.Answer : ReconcileOp → Type
  | .listProjections => List WorkspaceExecutionProjection
  | .withLease _ => Bool
  | .resolveInput _ => WorkspaceExecutionReconcileInput
  | .reconcile _ => Unit
  | .delay _ => Unit

abbrev Task (α : Type) := Prog ReconcileOp ReconcileOp.Answer Thrown α

def await (o : ReconcileOp) : Task o.Answer := Prog.await o

def withLease {α : Type} (name : LeaseName) (operation : Task α) : Task (Option α) := do
  if ← await (.withLease name) then some <$> operation else pure none

section Run

variable (options : WorkspaceExecutionReconcilerOptions)

def maxItems : Nat := positiveBound options.maxItems 100 10000

def maxAttempts : Nat := positiveBound options.maxAttempts 3 10

def retryDelayMs : Nat := positiveBound options.retryDelayMs 100 60000

def isRetryable : Thrown → Bool := options.isRetryable.getD defaultRetryable

def reconcileAttempt (projection : WorkspaceExecutionProjection) : Task Unit := do
  let input ← await (.resolveInput projection)
  await (.reconcile input)

/-- The attempts that are left after some. -/
def reconcileAttempts (projection : WorkspaceExecutionProjection) (attempts : Nat) (lastError : Option Thrown) :
    Nat → Task ReconcileEntry
  | 0 => pure ⟨projection.workspace.id, .failed, attempts, some (errorCode lastError)⟩
  | left + 1 => do
    match ← settle (reconcileAttempt projection) with
    | .ok _ => pure ⟨projection.workspace.id, .reconciled, attempts + 1, none⟩
    | .error error =>
      if isRetryable options error = false ∨ attempts + 1 ≥ maxAttempts options then
        pure ⟨projection.workspace.id, .failed, attempts + 1, some (errorCode (some error))⟩
      else do
        await (.delay (retryDelayMs options * (attempts + 1)))
        reconcileAttempts projection (attempts + 1) (some error) left

def reconcileOne (projection : WorkspaceExecutionProjection) : Task ReconcileEntry :=
  reconcileAttempts options projection 0 none (maxAttempts options)

def ReconcileRunReport.add (report : ReconcileRunReport) (projection : WorkspaceExecutionProjection) :
    Option ReconcileEntry → ReconcileRunReport
  | none => { report with
      selected := report.selected + 1
      busy := report.busy + 1
      entries := report.entries ++ [⟨projection.workspace.id, .busy, 0, some "lease_busy"⟩] }
  | some result =>
    if result.status = .reconciled then
      { report with selected := report.selected + 1, reconciled := report.reconciled + 1, entries := report.entries ++ [result] }
    else { report with selected := report.selected + 1, failed := report.failed + 1, entries := report.entries ++ [result] }

def ReconcileRunReport.skip (report : ReconcileRunReport) (projection : WorkspaceExecutionProjection) : ReconcileRunReport :=
  { report with
    skipped := report.skipped + 1
    entries := report.entries ++ [⟨projection.workspace.id, .skipped, 0, some (skipReason projection)⟩] }

def reconcileAll : List WorkspaceExecutionProjection → ReconcileRunReport → Task ReconcileRunReport
  | [], report => pure report
  | projection :: projections, report =>
    if needsReconciliation projection = false then reconcileAll projections (report.skip projection)
    else do
      let result ← withLease (.workspace projection.workspace.id) (reconcileOne options projection)
      reconcileAll projections (report.add projection result)

def sorted (projections : List WorkspaceExecutionProjection) : List WorkspaceExecutionProjection :=
  projections.mergeSort fun left right => options.localeNotAfter left.workspace.id right.workspace.id

def runOnce : Task ReconcileRunReport := do
  let report ← withLease .reconciler (do
    let projections ← sorted options <$> await .listProjections
    reconcileAll options (projections.take (maxItems options))
      { ReconcileRunReport.empty with scanned := projections.length })
  pure (report.getD .empty)

end Run

/-! ## What becomes of it -/

/-- The lease is busy, or something is thrown. -/
inductive Choice
  | goes
  | busy
  | throws (error : Thrown)

structure Event where
  op : ReconcileOp
  choice : Choice

/-- The projections the store lists, and the calls of the reconciler so far. -/
structure World where
  projections : List WorkspaceExecutionProjection
  events : List Event

def World.called (w : World) (o : ReconcileOp) (choice : Choice) : World :=
  { w with events := w.events ++ [⟨o, choice⟩] }

section Perform

-- what the input of a Workspace is, and what reconciling it makes of its projection
variable (inputOf : WorkspaceExecutionProjection → WorkspaceExecutionReconcileInput)
  (reconciled : WorkspaceExecutionProjection → WorkspaceExecutionProjection)

def World.reconcile (w : World) (id : String) : World :=
  { w with projections := w.projections.map fun projection => if projection.workspace.id = id then reconciled projection else projection }

def resolvedInput (projection : WorkspaceExecutionProjection) : WorkspaceExecutionReconcileInput :=
  { inputOf projection with workspaceId := projection.workspace.id }

def perform (w : World) : (o : ReconcileOp) → Choice → Option (Except Thrown o.Answer × World)
  | .listProjections, .goes => some (.ok w.projections, w.called .listProjections .goes)
  | .withLease name, .goes => some (.ok true, w.called (.withLease name) .goes)
  | .withLease name, .busy => some (.ok false, w.called (.withLease name) .busy)
  | .resolveInput projection, .goes => some (.ok (resolvedInput inputOf projection), w.called (.resolveInput projection) .goes)
  | .resolveInput projection, .throws error => some (.error error, w.called (.resolveInput projection) (.throws error))
  | .reconcile input, .goes => some (.ok (), (w.reconcile reconciled input.workspaceId).called (.reconcile input) .goes)
  | .reconcile input, .throws error => some (.error error, w.called (.reconcile input) (.throws error))
  | .delay milliseconds, .goes => some (.ok (), w.called (.delay milliseconds) .goes)
  | _, _ => none

end Perform

end OpenApp.Reconciler
