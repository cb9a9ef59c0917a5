import OpenApp.Async.Prog
import OpenApp.Workspace.Types

/-!
# The calls a Workspace operation makes

Everything an operation awaits, or reads from something another one may change, is a call: the
store, the provider, the deletion drain, the abort signal, the clock. A call on the store says on
whose behalf it is made. The store does not look at that; it lets the events of a run tell a
result from a failure, and one deletion phase from the next.
-/

namespace OpenApp

inductive Caller
  | getProjection
  | persistIntent (input : WorkspaceExecutionReconcileInput) (transactionId : String)
  | commitResult (input : WorkspaceExecutionReconcileInput) (result : ExecutionReconcileResult)
  | recordProviderFailure (workspaceId transactionId : String) (error : Failure)
  | persistLegacyContainer (container : Container)
  | beginDeletion (input : WorkspaceDeletionInput)
  | advanceDeletion (current : WorkspaceExecutionProjection) (expectedPhase nextPhase : WorkspaceDeletionPhase)
  | finalizeDeletion (current : WorkspaceExecutionProjection)
  | recordDeletionFailure (current : WorkspaceExecutionProjection) (error : Failure)

inductive Op
  /-- `signal?.throwIfAborted()` -/
  | throwIfAborted (signal : Option AbortSignal)
  /-- `signal?.aborted`, with the reason -/
  | aborted (signal : Option AbortSignal)
  /-- someone aborts a signal -/
  | abort (signal : AbortSignal) (reason : Failure)
  | now
  | randomId
  | getWorkspaceExecutionProjection (caller : Caller) (id : String)
  | compareAndSaveWorkspaceExecution (caller : Caller) (projection : WorkspaceExecutionProjection)
      (expectedRevision : Nat)
  | saveContainer (container : Container)
  | countLiveWorkspaceStorageReferences (storageRefId excludingWorkspaceId : String)
  | resolveStorageBinding (request : StorageBindingResolutionRequest)
  | reconcile (request : ExecutionReconcileRequest)
  | removeEnvironment (request : ExecutionEnvironmentRemovalRequest)
  | releaseWorkspaceStorage (request : WorkspaceStorageReleaseRequest)
  | drainBegin (workspaceId transactionId : String) (signal : Option AbortSignal)
  | drainClear (workspaceId transactionId : String)
  | launchProfileFor (imageReference : String)
  /-- the empty string where none is set -/
  | defaultAppId

abbrev Op.Answer : Op → Type
  | .throwIfAborted _ => Unit
  | .aborted _ => Option Failure
  | .abort _ _ => Unit
  | .now => String
  | .randomId => String
  | .getWorkspaceExecutionProjection _ _ => Option WorkspaceExecutionProjection
  | .compareAndSaveWorkspaceExecution _ _ _ => Option WorkspaceExecutionProjection
  | .saveContainer _ => Unit
  | .countLiveWorkspaceStorageReferences _ _ => Nat
  | .resolveStorageBinding _ => StorageBinding
  | .reconcile _ => ExecutionReconcileResult
  | .removeEnvironment _ => Unit
  | .releaseWorkspaceStorage _ => Unit
  | .drainBegin _ _ _ => Bool
  | .drainClear _ _ => Unit
  | .launchProfileFor _ => ContainerLaunchProfile
  | .defaultAppId => String

abbrev Task (α : Type) := Async.Prog Op Op.Answer Failure α

abbrev await (o : Op) : Task o.Answer := Async.Prog.await o

abbrev Exchanges := Async.Trace Op Op.Answer Failure

end OpenApp
