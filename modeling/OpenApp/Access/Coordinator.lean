import OpenApp.Lifecycle.System

/-!
# Waking an instance for a request

A request to an instance finds it running, or wakes it. Requests that come at once share the look at
the record, and those that find it asleep share the start. The coordinator runs the programs of the
lifecycle among calls of its own: its promises, its timers, the policy and the probe.

A promise that several requests share is settled by the thread that made it. It goes on whatever
becomes of the request it was made for, so that request and the promise are one thread here.
-/

namespace OpenApp

open Async Async.Prog Script

/-- What the coordinator reads of the policy. -/
structure WakePolicy where
  autoWakeOnRequest : Bool
  blockAutoWakeAfterManualStop : Bool

/-- The maps of promises. -/
inductive Shared
  | proxyReadiness
  | wakes
  deriving DecidableEq

inductive Joined
  /-- an observation that has not expired -/
  | observed (container : Container)
  | existing (promise : Nat)
  /-- a promise of one's own, put into the map -/
  | own (promise : Nat)

inductive AccessOp
  | touch (id : String)
  /-- the cached observation or the promise under the id, or a new promise -/
  | join (map : Shared) (id : String)
  /-- the promise of another thread is waited for -/
  | awaitShared (promise : Nat)
  | cacheObservation (id : String) (container : Container)
  /-- the promise comes to its end, and leaves the map -/
  | settleShared (map : Shared) (id : String) (promise : Nat) (result : Except Failure Container)
  | getPolicy
  /-- `Date.now() < deadline` -/
  | beforeDeadline
  /-- the moment `lifecycle.start` is called -/
  | callsStart (id : String)
  | probe (container : Container)
  /-- a timer -/
  | pause

abbrev AccessOp.Answer : AccessOp → Type
  | .touch _ => Unit
  | .join _ _ => Joined
  | .awaitShared _ => Container
  | .cacheObservation _ _ => Unit
  | .settleShared _ _ _ _ => Unit
  | .getPolicy => WakePolicy
  | .beforeDeadline => Bool
  | .callsStart _ => Unit
  | .probe _ => Bool
  | .pause => Unit

abbrev AccessCalls := (Op ⊕ LifecycleOp) ⊕ AccessOp

abbrev AccessAnswer : AccessCalls → Type :=
  Answers (Answers Op.Answer LifecycleOp.Answer) AccessOp.Answer

abbrev AccessTask (α : Type) := Prog AccessCalls AccessAnswer Failure α

abbrev AccessExchange := Exchange AccessCalls AccessAnswer Failure

abbrev AccessExchanges := Trace AccessCalls AccessAnswer Failure

/-- A program of the lifecycle. -/
abbrev lifecycleCall {α : Type} (p : LifecycleTask α) : AccessTask α := p.inl

abbrev access (o : AccessOp) : AccessTask o.Answer := Prog.await (Sum.inr o)

structure Coordinator where
  lifecycle : InstanceLifecycle
  /-- whether the runtime can observe without a lease -/
  observes : Bool
  /-- whether `probeCurrent` is set -/
  probeCurrent : Bool
  /-- how many turns a loop can take before its deadline has passed -/
  turns : Nat

/-! ## `InstanceAccessError` -/

def instanceWakeDisabled : Failure := .other "instance_wake_disabled"
def instanceManuallyStopped : Failure := .other "instance_manually_stopped"
def instanceStartFailed : Failure := .other "instance_start_failed"
def instanceWakeTimeout : Failure := .other "instance_wake_timeout"
def containerNotRunning : Failure := .other "container_not_running"

def isInstanceAccessError (error : Failure) : Bool :=
  error ∈ [instanceWakeDisabled, instanceManuallyStopped, instanceStartFailed, instanceWakeTimeout, containerNotRunning]

def isInstanceLifecycleError : Failure → Bool
  | .lifecycle _ => true
  | _ => false

namespace Coordinator

variable (a : Coordinator)

def hasProbeTarget (container : Container) : Bool :=
  a.probeCurrent || container.endpoint.any truthy

def assertProxyWakeAllowed (container : Container) (policy : WakePolicy) : AccessTask Unit := do
  throwIf (policy.autoWakeOnRequest = false) instanceWakeDisabled
  throwIf (container.stopReason = some .failure) instanceStartFailed
  throwIf (policy.blockAutoWakeAfterManualStop = true ∧
    (container.stopReason = some .manualUser ∨ container.stopReason = some .manualAdmin)) instanceManuallyStopped

/-- What follows when the deadline has passed without a healthy answer. -/
def wakeTimedOut (id : String) : AccessTask Container := do
  tryCatch (do let _ ← lifecycleCall (a.lifecycle.stop id .failure)) fun _ => pure ()
  throw instanceWakeTimeout

def waitForHealthy (id : String) (started : Container) : Nat → AccessTask Container
  | 0 => a.wakeTimedOut id
  | n + 1 => do
    if ← access .beforeDeadline then
      match ← settle (access (.probe started)) with
      | .ok true => pure started
      | .ok false => do
        access .pause
        waitForHealthy id started n
      | .error error => do
        throwIf (isInstanceAccessError error = true) error
        access .pause
        waitForHealthy id started n
    else a.wakeTimedOut id

/-- `#startOrJoin`, for a caller that waits while another one holds the maintenance lease. -/
def startOrJoin (id : String) : Nat → AccessTask Container
  | 0 => throw instanceWakeTimeout
  | n + 1 => do
    if ← access .beforeDeadline then
      access (.callsStart id)
      match ← settle (lifecycleCall (a.lifecycle.start id)) with
      | .ok container => pure container
      | .error error =>
        if error = .lifecycle "container_maintenance_busy" then do
          access .pause
          let current ← lifecycleCall (InstanceLifecycle.read a.observes id)
          if current.status = .running ∧ a.hasProbeTarget current = true then pure current
          else do
            throwIf (current.status = .failed) instanceStartFailed
            startOrJoin id n
        else if isInstanceAccessError error || isInstanceLifecycleError error then throw error
        else throw instanceStartFailed
    else throw instanceWakeTimeout

def startAndWait (id : String) : AccessTask Container := do
  let started ← a.startOrJoin id a.turns
  throwIf (started.status ≠ .running ∨ a.hasProbeTarget started = false) instanceStartFailed
  a.waitForHealthy id started a.turns

/-- A program whose result all threads get that ask for it while it runs. -/
def sharing (map : Shared) (id : String) (p : AccessTask Container) : AccessTask Container := do
  match ← access (.join map id) with
  | .observed container => pure container
  | .existing promise => access (.awaitShared promise)
  | .own promise => do
    let result ← settle p
    access (.settleShared map id promise result)
    fromExcept result

def wake (id : String) : AccessTask Container :=
  sharing .wakes id (a.startAndWait id)

/-- `#acquireReady` with the intent "proxy" and no options. -/
def acquireReady (id : String) : AccessTask Container := do
  let observed ← lifecycleCall (InstanceLifecycle.read a.observes id)
  let current ← if observed.status = .failed then lifecycleCall (sync id) else pure observed
  if current.status = .running ∧ a.hasProbeTarget current = true then pure current
  else do
    throwIf (current.status = .failed) instanceStartFailed
    throwIf (current.status ≠ .stopped) containerNotRunning
    let policy ← access .getPolicy
    assertProxyWakeAllowed current policy
    let ready ← a.wake id
    access (.touch id)
    pure ready

def proxyReady (id : String) : AccessTask Container :=
  sharing .proxyReadiness id do
    let container ← a.acquireReady id
    access (.cacheObservation id container)
    pure container

/-- `acquire(id, "proxy")`, as the gateway calls it. -/
def acquire (id : String) : AccessTask Container := do
  access (.touch id)
  a.proxyReady id

end Coordinator

/-! ## The world of the coordinator -/

structure AccessWorld where
  lifecycle : LifecycleWorld
  policy : WakePolicy
  readyObservations : String → Option Container
  promises : Shared → String → Option Nat
  /-- how the promises ended that have -/
  settled : Nat → Option (Except Failure Container)
  /-- the promises there have been -/
  made : Nat

inductive AccessChoice
  /-- for a call of the lifecycle's -/
  | lifecycle (x : LifecycleChoice)
  | go
  | fails (error : Failure)
  | flag (value : Bool)
  /-- whether a cached observation has expired -/
  | expired (value : Bool)

namespace AccessWorld

def put (w : AccessWorld) (map : Shared) (id : String) (promise : Option Nat) : AccessWorld :=
  { w with promises := Function.update w.promises map (Function.update (w.promises map) id promise) }

/-- Only the readiness of an instance is cached. -/
def cached (w : AccessWorld) (map : Shared) (id : String) (expired : Bool) : Option Container :=
  match map with
  | .proxyReadiness => if expired then none else w.readyObservations id
  | .wakes => none

def join (w : AccessWorld) (map : Shared) (id : String) (expired : Bool) : Joined × AccessWorld :=
  match w.cached map id expired with
  | some container => (.observed container, w)
  | none =>
    match w.promises map id with
    | some promise => (.existing promise, w)
    | none => (.own w.made, { w.put map id (some w.made) with made := w.made + 1 })

/-- The promise leaves the map if it is still the one that is there. -/
def settleShared (w : AccessWorld) (map : Shared) (id : String) (promise : Nat) (result : Except Failure Container) :
    AccessWorld :=
  let w := { w with settled := Function.update w.settled promise (some result) }
  if w.promises map id = some promise then w.put map id none else w

/-- The calls of the coordinator's own. A touch moves the time of the last activity, which nothing here reads. -/
def performOwn (w : AccessWorld) : (o : AccessOp) → AccessChoice → Option (Except Failure o.Answer × AccessWorld)
  | .touch _, .go => some (.ok (), w)
  | .touch _, .fails error => some (.error error, w)
  | .join map id, .expired value => some (.ok (w.join map id value).1, (w.join map id value).2)
  | .awaitShared promise, .go => (w.settled promise).map fun result => (result, w)
  | .cacheObservation id container, .go =>
    some (.ok (), { w with readyObservations := Function.update w.readyObservations id (some container) })
  | .settleShared map id promise result, .go => some (.ok (), w.settleShared map id promise result)
  | .getPolicy, .go => some (.ok w.policy, w)
  | .getPolicy, .fails error => some (.error error, w)
  | .beforeDeadline, .flag value => some (.ok value, w)
  | .callsStart _, .go => some (.ok (), w)
  | .probe _, .flag value => some (.ok value, w)
  | .probe _, .fails error => some (.error error, w)
  | .pause, .go => some (.ok (), w)
  | _, _ => none

def perform (w : AccessWorld) : (o : AccessCalls) → AccessChoice → Option (Except Failure (AccessAnswer o) × AccessWorld)
  | .inl o, .lifecycle x => (w.lifecycle.perform o x).map fun r => (r.1, { w with lifecycle := r.2 })
  | .inl _, _ => none
  | .inr o, x => w.performOwn o x

/-- The stored record. -/
def record (w : AccessWorld) (id : String) : Option Container :=
  w.lifecycle.base.store.getContainer id

end AccessWorld

/-! ## Threads -/

/-- A request, or what others do in the meantime. -/
inductive AccessCall
  | acquire (id : String)
  | start (id : String)
  | stop (id : String) (reason : ContainerStopReason)
  | sync (id : String)
  /-- the maintenance lease is held for something else -/
  | maintain (id : String)
  | lifecycle (round : LifecycleCall)

def AccessCall.body (a : Coordinator) : AccessCall → AccessTask (AccessCall ⊕ Option Container)
  | .acquire id => do
    let container ← a.acquire id
    pure (.inr (some container))
  | .start id => do
    let container ← lifecycleCall (a.lifecycle.start id)
    pure (.inr (some container))
  | .stop id reason => do
    let container ← lifecycleCall (a.lifecycle.stop id reason)
    pure (.inr (some container))
  | .sync id => do
    let container ← lifecycleCall (OpenApp.sync id)
    pure (.inr (some container))
  | .maintain id => do
    let _ ← lifecycleCall (withContainerMaintenance id fun _ => pure ())
    pure (.inr none)
  | .lifecycle round => do
    match ← lifecycleCall (round.body a.lifecycle) with
    | .inl next => pure (.inl (.lifecycle next))
    | .inr _ => pure (.inr none)

def accessSystem (a : Coordinator) :
    System AccessCalls AccessAnswer Failure AccessWorld AccessChoice AccessCall (Option Container) where
  perform := AccessWorld.perform
  body := AccessCall.body a

end OpenApp
