import OpenApp.Lifecycle.Ports
import OpenApp.Rollout.Drains

/-!
# The calls of the rollouts

What the service and the worker await: the store, the instances and the catalog, the activity of an
instance, the admission of a drain, the executor that rebuilds, and the leases. What a worker remembers
between two calls is read and written by calls as well, as is the abort signal of a lease.
-/

namespace OpenApp.Rollout

open Async

/-- What a call fails with, or a program throws. -/
inductive Failure
  /-- `UpgradeRolloutConflictError` -/
  | conflict (code : String)
  /-- `ProviderOperationError` -/
  | provider (failureClass : ProviderFailureClass) (message : String)
  | error (message : String)
  deriving DecidableEq

def Failure.message : Failure → String
  | .conflict code => code
  | .provider _ message => message
  | .error message => message

def Failure.isConflict : Failure → Bool
  | .conflict _ => true
  | _ => false

structure UpgradeActivityAssessment where
  ready : Bool
  reason : Option String
  deriving DecidableEq

/-- What the provider knows of a transaction. -/
inductive RebuildInspection
  | pending | committed | notFound | inconsistent
  deriving DecidableEq

inductive ProviderCapabilityResult
  | supported (value : ContainerFailureDiagnostics)
  | unsupported
  | unavailable (error : Failure)
  deriving DecidableEq

inductive RolloutOp
  | now
  | randomId
  /-- the reason of the first of the signals that is aborted -/
  | aborted (signal : List AbortSignal)
  /-- the lease of the worker and its signal, or nothing where another one has it -/
  | claimWorker
  | releaseWorker
  | claimItem (instanceId : String)
  | releaseItem (instanceId : String)
  /-- `this.#checkpointRolloutIds.clear()` -/
  | clearCheckpoints (worker : Nat)
  | addCheckpoints (worker : Nat) (rolloutIds : List String)
  | checkpoints (worker : Nat)
  /-- `this.#legacyFirstStartProofsReconciled` -/
  | legacyReconciled (worker : Nat)
  | setLegacyReconciled (worker : Nat) (value : Bool)
  | getRollout (id : String)
  | listRollouts (limit : Nat)
  | listDueItems (at' : Timestamp) (limit : Nat)
  | listLegacyFirstStartProofItems
  | findRolloutByIdempotencyKey (actorUserId idempotencyKey : String)
  | idempotencyConflicts (actorUserId idempotencyKey : String)
  | createRollout (rollout : UpgradeRollout) (items : List UpgradeRolloutItem)
  | compareAndSaveItem (item : UpgradeRolloutItem) (expectedRevision : Nat)
  | supersedeDeferredItemsBefore (rolloutId instanceId : String) (at' : Timestamp)
  | commitDeploymentCheckpoint (item : UpgradeRolloutItem) (expectedRevision : Nat) (at' : Timestamp)
      (supersedeEarlier : Bool)
  | compareAndSaveRollout (rollout : UpgradeRollout) (expectedRevision : Nat)
  | recoverInterruptedItems (cutoff recoveredAt : Timestamp)
  | getContainer (id : String)
  | getLaunchTarget (appId : String)
  | getProvisioningPolicy
  | assess (inst : Instance) (item : UpgradeRolloutItem)
  | confirmAfterDrain (inst : Instance) (item : UpgradeRolloutItem)
  | begin (instanceId rolloutId attemptId : String) (mode : InstanceDrainMode)
  | clear (instanceId rolloutId attemptId : String)
  | acceptDeferredCandidate (item : UpgradeRolloutItem) (signal : List AbortSignal)
  | rebuild (item : UpgradeRolloutItem) (actorUserId : String) (signal : List AbortSignal)
  | inspectRebuild (item : UpgradeRolloutItem) (signal : List AbortSignal)
  | diagnose (item : UpgradeRolloutItem) (signal : List AbortSignal)

abbrev RolloutOp.Answer : RolloutOp → Type
  | .now => Timestamp
  | .randomId => String
  | .aborted _ => Option Failure
  | .claimWorker => Option AbortSignal
  | .releaseWorker => Unit
  | .claimItem _ => Option AbortSignal
  | .releaseItem _ => Unit
  | .clearCheckpoints _ => Unit
  | .addCheckpoints _ _ => Unit
  | .checkpoints _ => List String
  | .legacyReconciled _ => Bool
  | .setLegacyReconciled _ _ => Unit
  | .getRollout _ => Option UpgradeRolloutDetail
  | .listRollouts _ => List UpgradeRollout
  | .listDueItems _ _ => List UpgradeRolloutItem
  | .listLegacyFirstStartProofItems => List UpgradeRolloutItem
  | .findRolloutByIdempotencyKey _ _ => Option UpgradeRolloutDetail
  | .idempotencyConflicts _ _ => Bool
  | .createRollout _ _ => UpgradeRolloutDetail
  | .compareAndSaveItem _ _ => Option UpgradeRolloutItem
  | .supersedeDeferredItemsBefore _ _ _ => List String
  | .commitDeploymentCheckpoint _ _ _ _ => Option (UpgradeRolloutItem × List String)
  | .compareAndSaveRollout _ _ => Option UpgradeRollout
  | .recoverInterruptedItems _ _ => Nat
  | .getContainer _ => Option Instance
  | .getLaunchTarget _ => AppLaunchTarget
  | .getProvisioningPolicy => ProvisioningPolicy
  | .assess _ _ => UpgradeActivityAssessment
  | .confirmAfterDrain _ _ => UpgradeActivityAssessment
  | .begin _ _ _ _ => Bool
  | .clear _ _ _ => Unit
  | .acceptDeferredCandidate _ _ => Bool
  | .rebuild _ _ _ => Unit
  | .inspectRebuild _ _ => Option RebuildInspection
  | .diagnose _ _ => ProviderCapabilityResult

abbrev RolloutTask (α : Type) := Prog RolloutOp RolloutOp.Answer Failure α

abbrev Exchanges := Trace RolloutOp RolloutOp.Answer Failure

abbrev ask (o : RolloutOp) : RolloutTask o.Answer := Prog.await o

end OpenApp.Rollout
