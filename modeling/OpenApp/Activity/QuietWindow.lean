import Mathlib.Data.Rat.Defs
import Mathlib.Algebra.Order.Field.Rat
import Mathlib.Logic.Function.Basic
import Mathlib.Order.WithBot

/-!
# The quiet window before an upgrade

An instance may be upgraded once two samples of its counters, a whole quiet window apart, show no traffic and
no load, with no use of it in between. The older sample is kept while nothing happens; the policy remembers no
more than this one sample.
-/

namespace OpenApp.Activity

/-- A number: `NaN`, or one that may be infinite. -/
abbrev Figure := Option (WithBot (WithTop ℚ))

namespace Figure

/-- `left === right` -/
def same (left right : Figure) : Bool :=
  left.isSome && left = right

/-- `left <= right` -/
def atMost : Figure → Figure → Bool
  | some left, some right => left ≤ right
  | _, _ => false

theorem same_trans {a b c : Figure} (hab : a.same b = true) (hac : a.same c = true) : b.same c = true := by
  simp only [same, Bool.and_eq_true, decide_eq_true_eq] at *
  obtain ⟨ha, rfl⟩ := hab
  exact ⟨ha, hac.2⟩

end Figure

structure ContainerActivityMetrics where
  cpuPercent : Figure
  networkRxBytes : Figure
  networkTxBytes : Figure
  deriving DecidableEq

/-- What the metrics port says; a port that throws is not available. -/
inductive MetricsResult
  | supported (value : ContainerActivityMetrics)
  | unsupported
  | unavailable

inductive InstanceActivityKind
  | http
  | websocket
  deriving DecidableEq

structure ActiveLease where
  kind : InstanceActivityKind
  lastActivityAt : String

inductive Method
  | assess
  | confirmAfterDrain
  deriving DecidableEq

/-- A call for an instance and an item of a rollout, at a time of the clock, and what the ports say to it.
`leases` is `none` where the list cannot be read, which is so too when the clock shows no time. -/
structure Call where
  method : Method
  instanceId : String
  lastActivityAt : String
  rolloutId : String
  attemptId : Option String
  now : Int
  leases : Option (List ActiveLease)
  metrics : MetricsResult

inductive UpgradeActivityAssessment
  | ready
  | notReady (reason : String)
  deriving DecidableEq

/-- What a call answers, or `none` where it throws, and the sample it took. -/
structure Outcome where
  answer : Option UpgradeActivityAssessment
  sample : Option ContainerActivityMetrics

structure ActivityObservation where
  sampledAt : Int
  metrics : ContainerActivityMetrics

structure ReadyActivityObservation extends ActivityObservation where
  rolloutId : String
  attemptId : Option String
  lastActivityAt : String

/-- The options, and `Date.parse`. -/
structure InstanceUpgradeActivityPolicy where
  quietWindowMs : ℚ
  busyCpuPercent : Figure
  dateParse : String → Option Int

/-- What the policy remembers of each instance. -/
structure Memory where
  observations : String → Option ActivityObservation
  readyObservations : String → Option ReadyActivityObservation

namespace Memory

def empty : Memory := ⟨fun _ => none, fun _ => none⟩

def observe (memory : Memory) (id : String) (observation : Option ActivityObservation) : Memory :=
  { memory with observations := Function.update memory.observations id observation }

def setReady (memory : Memory) (id : String) (observation : Option ReadyActivityObservation) : Memory :=
  { memory with readyObservations := Function.update memory.readyObservations id observation }

/-- `#clearObservations` -/
def clearObservations (memory : Memory) (id : String) : Memory :=
  (memory.observe id none).setReady id none

end Memory

namespace InstanceUpgradeActivityPolicy

variable (policy : InstanceUpgradeActivityPolicy)

/-- A time before the quiet window. -/
def beforeWindow (now at' : Int) : Bool :=
  (at' : ℚ) ≤ now - policy.quietWindowMs

/-- A connection that was used in the quiet window. -/
def recentlyActive (now : Int) (lease : ActiveLease) : Bool :=
  lease.kind = .websocket && (policy.dateParse lease.lastActivityAt).any fun at' => !policy.beforeWindow now at'

/-- What a list of leases has against an upgrade. -/
def leaseBlocker (now : Int) (leases : List ActiveLease) : Option String :=
  if leases.any (·.kind = .http) then some "active_stream"
  else if leases.any (policy.recentlyActive now) then some "active_websocket"
  else none

def unchanged (earlier later : ContainerActivityMetrics) : Bool :=
  earlier.networkRxBytes.same later.networkRxBytes && earlier.networkTxBytes.same later.networkTxBytes

def low (metrics : ContainerActivityMetrics) : Bool :=
  metrics.cpuPercent.atMost policy.busyCpuPercent

def blocked (memory : Memory) (id reason : String) : Memory × Outcome :=
  (memory.clearObservations id, ⟨some (.notReady reason), none⟩)

def threw (memory : Memory) : Memory × Outcome :=
  (memory, ⟨none, none⟩)

/-- What `assess` makes of a sample. -/
def judge (memory : Memory) (call : Call) (metrics : ContainerActivityMetrics) : Memory × Outcome :=
  let previous := memory.observations call.instanceId
  let unchanged := previous.any fun previous => unchanged previous.metrics metrics
  let quietForWindow := previous.any fun previous => policy.beforeWindow call.now previous.sampledAt
  let lowCpu := policy.low metrics && previous.all fun previous => policy.low previous.metrics
  let backwards := previous.any fun previous => call.now < previous.sampledAt
  if unchanged && quietForWindow && lowCpu then
    (memory.setReady call.instanceId (some ⟨⟨call.now, metrics⟩, call.rolloutId, call.attemptId, call.lastActivityAt⟩),
      ⟨some .ready, some metrics⟩)
  else
    let memory := memory.setReady call.instanceId none
    (if previous.isNone || !unchanged || !lowCpu || backwards then
        memory.observe call.instanceId (some ⟨call.now, metrics⟩)
      else memory,
      ⟨some (.notReady "activity_observation"), some metrics⟩)

def assess (memory : Memory) (call : Call) : Memory × Outcome :=
  match call.leases with
  | none => threw memory
  | some leases =>
    match policy.leaseBlocker call.now leases with
    | some reason => blocked memory call.instanceId reason
    | none =>
      match policy.dateParse call.lastActivityAt with
      | none => blocked memory call.instanceId "activity_timestamp_invalid"
      | some persistedActivityAt =>
        if policy.beforeWindow call.now persistedActivityAt then
          match call.metrics with
          | .unsupported => blocked memory call.instanceId "activity_metrics_unsupported"
          | .unavailable => threw memory
          | .supported metrics => policy.judge memory call metrics
        else blocked memory call.instanceId "recent_activity"

/-- What `confirmAfterDrain` makes of a sample. -/
def confirm (memory : Memory) (call : Call) (ready : ReadyActivityObservation) (metrics : ContainerActivityMetrics) :
    Memory × Outcome :=
  let memory := memory.setReady call.instanceId none
  if unchanged ready.metrics metrics && (policy.low ready.metrics && policy.low metrics) then
    (memory.observe call.instanceId none, ⟨some .ready, some metrics⟩)
  else
    (memory.observe call.instanceId (some ⟨call.now, metrics⟩),
      ⟨some (.notReady "docker_activity_resumed"), some metrics⟩)

def confirmAfterDrain (memory : Memory) (call : Call) : Memory × Outcome :=
  match (memory.readyObservations call.instanceId).filter fun ready =>
      ready.rolloutId = call.rolloutId && ready.attemptId = call.attemptId with
  | none => blocked memory call.instanceId "activity_confirmation_missing"
  | some ready =>
    match call.leases with
    | none => threw memory
    | some leases =>
      match policy.leaseBlocker call.now leases with
      | some reason => blocked memory call.instanceId reason
      | none =>
        if (policy.dateParse call.lastActivityAt).isNone then
          blocked memory call.instanceId "activity_timestamp_invalid"
        else if call.lastActivityAt ≠ ready.lastActivityAt then blocked memory call.instanceId "recent_activity"
        else
          match call.metrics with
          | .unsupported => blocked memory call.instanceId "activity_metrics_unsupported"
          | .unavailable => threw memory
          | .supported metrics => policy.confirm memory call ready metrics

def step (memory : Memory) (call : Call) : Memory × Outcome :=
  match call.method with
  | .assess => policy.assess memory call
  | .confirmAfterDrain => policy.confirmAfterDrain memory call

end InstanceUpgradeActivityPolicy

end OpenApp.Activity
