import OpenApp.Async.Layer
import OpenApp.Catalog.Types
import OpenApp.Workspace.RuntimeBridge

/-!
# The calls of the instance lifecycle

The lifecycle of an instance runs the programs of the Workspace manager among calls of its own: the
reads of its store, the catalog, the quota and the policy, the locks of the process and the
maintenance lease.
-/

namespace OpenApp

open Async

structure ProvisioningPolicy where
  maxTotalInstances : Nat
  maxRunningInstances : Nat
  resources : ContainerResources
  environment : List (String × String)
  /-- in the order of their paths -/
  configFiles : List ContainerConfigFile

/-- What holds one instance, one user, or everyone back. -/
inductive Lock
  /-- the queue of a user's calls -/
  | user (id : String)
  /-- the queue of an instance's calls -/
  | container (id : String)
  /-- the queue of all calls that need capacity -/
  | global
  /-- the maintenance lease of an instance -/
  | maintenance (id : String)
  deriving DecidableEq

inductive LifecycleOp
  | acquire (lock : Lock)
  | release (lock : Lock)
  /-- the lease and the signal that says it is lost, or nothing where another one holds it -/
  | claimMaintenance (instanceId : String)
  | isInstanceDraining (instanceId : String)
  /-- `signal.aborted`, with the reason -/
  | aborted (signal : AbortSignal)
  | getContainer (id : String)
  | getContainerForUser (userId : String)
  | getLiveWorkspaceExecutionForUser (userId : String)
  | listContainers
  | getProvisioningPolicy
  | getLaunchTarget (appId : String)
  | isCatalogSnapshotValid (snapshot : ContainerCatalogSnapshot)
  | authorizeApp (appId : String)
  | providerIdForApp (appId : String)
  /-- the limits are read and reserved by the quota port; limits it cannot read are a conflict -/
  | reserveQuota (reservationId userId providerId : String) (resources : ContainerResources)
  | transitionQuota (reservationId : String) (desiredState : WorkspaceDesiredState)
  | releaseQuota (reservationId : String)
  | markUserAppInitialized (userId : String)
  | audit (actorUserId : Option String) (action resourceId ownerId : String)
  /-- `runtime.get`: a look at the provider -/
  | runtimeGet (instanceId : String) (signal : Option AbortSignal)
  /-- a timer -/
  | sleep
  /-- `Date.now() < deadline` -/
  | beforeDeadline

abbrev LifecycleOp.Answer : LifecycleOp → Type
  | .acquire _ => Unit
  | .release _ => Unit
  | .claimMaintenance _ => Option AbortSignal
  | .isInstanceDraining _ => Bool
  | .aborted _ => Option Failure
  | .getContainer _ => Option Container
  | .getContainerForUser _ => Option Container
  | .getLiveWorkspaceExecutionForUser _ => Option WorkspaceExecutionProjection
  | .listContainers => List Container
  | .getProvisioningPolicy => ProvisioningPolicy
  | .getLaunchTarget _ => AppLaunchTarget
  | .isCatalogSnapshotValid _ => Bool
  | .authorizeApp _ => Unit
  | .providerIdForApp _ => String
  | .reserveQuota _ _ _ _ => Unit
  | .transitionQuota _ _ => Bool
  | .releaseQuota _ => Unit
  | .markUserAppInitialized _ => Unit
  | .audit _ _ _ _ => Unit
  | .runtimeGet _ _ => Option ContainerInstance
  | .sleep => Unit
  | .beforeDeadline => Bool

abbrev LifecycleTask (α : Type) :=
  Prog (Op ⊕ LifecycleOp) (Answers Op.Answer LifecycleOp.Answer) Failure α

abbrev LifecycleExchanges := Trace (Op ⊕ LifecycleOp) (Answers Op.Answer LifecycleOp.Answer) Failure

/-- A program of the manager, or of the bridge to it. -/
abbrev managed {α : Type} (p : Task α) : LifecycleTask α := p.inl

abbrev ask (o : LifecycleOp) : LifecycleTask o.Answer := Prog.await (Sum.inr o)

end OpenApp
