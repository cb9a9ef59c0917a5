import OpenApp.Async.Interleave
import OpenApp.Rollout.Worker

/-!
# Rollouts in a world

The world holds the store, what the workers remember, the signals that are aborted and the transactions
the provider has begun. What the clock shows, who gets a lease, what an instance looks like, how its
traffic is assessed and how a rebuild ends is left open: any of it is a choice of the run, and any call
to the outside may fail. A lease does not keep others out here; it may be lost unnoticed.
-/

namespace OpenApp.Rollout

open Async Async.Prog

structure World where
  store : Store
  admission : InstanceUpgradeAdmission
  signals : AbortSignal → Option Failure
  checkpoints : Nat → List String
  reconciled : Nat → Bool
  /-- the items whose rebuild the provider was asked for -/
  transactions : List UpgradeRolloutItem

inductive RolloutChoice
  | go
  | fails (error : Failure)
  | time (at' : Timestamp)
  | text (value : String)
  | lease (signal : Option AbortSignal)
  | found (inst : Option Instance)
  | flag (value : Bool)
  | target (target : AppLaunchTarget)
  | policy (policy : ProvisioningPolicy)
  | assessment (value : UpgradeActivityAssessment)
  | inspection (value : Option RebuildInspection)
  | diagnosis (value : ProviderCapabilityResult)

/-- The two are one transaction of the provider: the ids of attempts are random, so that one id on one
instance is one rebuild, with its target. -/
def sameTransaction (begun item : UpgradeRolloutItem) : Bool :=
  begun.instanceId = item.instanceId ∧ begun.attemptId = item.attemptId ∧
    begun.targetAppVersionId = item.targetAppVersionId ∧ begun.targetImageArtifactId = item.targetImageArtifactId ∧
    begun.targetImageReference = item.targetImageReference

namespace World

variable (w : World)

/-- What a call finds that only looks at the store. -/
def read : (o : RolloutOp) → Option o.Answer
  | .getRollout id => some (w.store.getUpgradeRollout id)
  | .listRollouts limit => some (w.store.listUpgradeRollouts limit)
  | .listDueItems at' limit => some (w.store.listDueUpgradeRolloutItems at' limit)
  | .listLegacyFirstStartProofItems => some w.store.listLegacyFirstStartProofItems
  | .findRolloutByIdempotencyKey actorUserId key => some (w.store.findUpgradeRolloutByIdempotencyKey actorUserId key)
  | .checkpoints worker => some (w.checkpoints worker)
  | .legacyReconciled worker => some (w.reconciled worker)
  | .aborted signal => some (signal.findSome? w.signals)
  | _ => none

/-- What a call is told from outside. -/
def told : (o : RolloutOp) → RolloutChoice → Option o.Answer
  | .now, .time at' => some at'
  | .randomId, .text value => some value
  | .claimWorker, .lease signal => some signal
  | .claimItem _, .lease signal => some signal
  | .releaseWorker, .go => some ()
  | .releaseItem _, .go => some ()
  | .idempotencyConflicts _ _, .flag value => some value
  | .getContainer _, .found inst => some inst
  | .getLaunchTarget _, .target target => some target
  | .getProvisioningPolicy, .policy policy => some policy
  | .assess _ _, .assessment value => some value
  | .confirmAfterDrain _ _, .assessment value => some value
  | .acceptDeferredCandidate _ _, .flag value => some value
  | .diagnose _ _, .diagnosis value => some value
  | _, _ => none

/-- What a call writes. -/
def write : (o : RolloutOp) → Option (o.Answer × World)
  | .clearCheckpoints worker => some ((), { w with checkpoints := Function.update w.checkpoints worker [] })
  | .addCheckpoints worker ids =>
    some ((), { w with checkpoints := Function.update w.checkpoints worker (w.checkpoints worker ++ ids) })
  | .setLegacyReconciled worker value => some ((), { w with reconciled := Function.update w.reconciled worker value })
  | .createRollout rollout items =>
    (w.store.createUpgradeRollout rollout items).map fun r => (r.1, { w with store := r.2 })
  | .compareAndSaveItem item expectedRevision =>
    let r := w.store.compareAndSaveUpgradeRolloutItem item expectedRevision
    some (r.1, { w with store := r.2 })
  | .supersedeDeferredItemsBefore rolloutId instanceId at' =>
    let r := w.store.supersedeUpgradeDeferredItemsBefore rolloutId instanceId at'
    some (r.1, { w with store := r.2 })
  | .commitDeploymentCheckpoint item expectedRevision at' supersedeEarlier =>
    let r := w.store.commitUpgradeDeploymentCheckpoint item expectedRevision at' supersedeEarlier
    some (r.1, { w with store := r.2 })
  | .compareAndSaveRollout rollout expectedRevision =>
    let r := w.store.compareAndSaveUpgradeRollout rollout expectedRevision
    some (r.1, { w with store := r.2 })
  | .clear instanceId rolloutId attemptId =>
    some ((), { w with store := w.store.clearInstanceDraining instanceId rolloutId attemptId })
  | .recoverInterruptedItems cutoff recoveredAt =>
    let r := w.store.recoverInterruptedUpgradeRolloutItems cutoff recoveredAt
    some (r.1, { w with store := r.2 })
  | _ => none

/-- A rebuild begins a transaction, however it ends. -/
def rebuild (item : UpgradeRolloutItem) (x : RolloutChoice) : Option (Except Failure Unit × World) :=
  let begun := { w with transactions := item :: w.transactions }
  match x with
  | .go => some (.ok (), begun)
  | .fails error => some (.error error, begun)
  | _ => none

def beginDrain (instanceId rolloutId attemptId : String) (mode : InstanceDrainMode) :
    RolloutChoice → Option (Except Failure Bool × World)
  | .fails error => some (.error error, w)
  | .time now =>
    let r := w.store.beginInstanceDraining (w.admission.request now instanceId rolloutId attemptId mode)
    some (.ok r.1, { w with store := r.2 })
  | _ => none

/-- The provider reports a transaction committed that was begun. -/
def inspect (item : UpgradeRolloutItem) : RolloutChoice → Option (Except Failure (Option RebuildInspection) × World)
  | .fails error => some (.error error, w)
  | .inspection value =>
    if value = some .committed ∧ ¬ w.transactions.any (sameTransaction · item) then none else some (.ok value, w)
  | _ => none

/-- Memory and clock do not fail. -/
def infallible : RolloutOp → Bool
  | .now | .randomId | .aborted _ | .clearCheckpoints _ | .addCheckpoints _ _ | .checkpoints _ | .legacyReconciled _
  | .setLegacyReconciled _ _ => true
  | _ => false

def perform : (o : RolloutOp) → RolloutChoice → Option (Except Failure o.Answer × World)
  | .rebuild item _ _, x => w.rebuild item x
  | .inspectRebuild item _, x => w.inspect item x
  | .begin instanceId rolloutId attemptId mode, x => w.beginDrain instanceId rolloutId attemptId mode x
  | o, .fails error => if infallible o then none else some (.error error, w)
  | o, .go =>
    match w.write o with
    | some (a, w') => some (.ok a, w')
    | none => (w.read o <|> told o .go).map fun a => (.ok a, w)
  | o, x => (told o x).map fun a => (.ok a, w)

end World

/-! ## Threads -/

inductive RolloutCall
  | create (input : CreateUpgradeRolloutInput)
  | force (rolloutId instanceId : String)
  | continueWaiting (rolloutId instanceId : String)
  | revalidateFirstStart (rolloutId instanceId : String)
  | cancel (rolloutId instanceId : String)
  /-- the rounds of the worker of a process, one after the other, whatever becomes of each -/
  | worker (id : Nat)

variable (w : UpgradeRolloutWorker)

/-- All processes run their workers with the same options. -/
def RolloutCall.body : RolloutCall → RolloutTask (RolloutCall ⊕ UpgradeRolloutDetail)
  | .create input => Sum.inr <$> OpenApp.Rollout.create input
  | .force rolloutId instanceId => Sum.inr <$> OpenApp.Rollout.force rolloutId instanceId
  | .continueWaiting rolloutId instanceId => Sum.inr <$> OpenApp.Rollout.continueWaiting rolloutId instanceId
  | .revalidateFirstStart rolloutId instanceId => Sum.inr <$> OpenApp.Rollout.revalidateFirstStart rolloutId instanceId
  | .cancel rolloutId instanceId => Sum.inr <$> OpenApp.Rollout.cancel rolloutId instanceId
  | .worker id => do
    let _ ← settle { w with id := id }.runOnce
    pure (.inl (.worker id))

def rolloutSystem :
    System RolloutOp RolloutOp.Answer Failure World RolloutChoice RolloutCall UpgradeRolloutDetail where
  perform := World.perform
  body := RolloutCall.body w

end OpenApp.Rollout
