import OpenApp.Async.Machine
import OpenApp.Keyed
import OpenApp.Rollout.Types

/-!
# The leases of connections

Every connection that goes through the proxy has a lease, and a session renews it and closes it. The operations of a
session wait for one another in a queue; closing, failing and aborting set their flags at once.
-/

namespace OpenApp.Leases

open Keyed Rollout

/-- What a call of the store throws, or the reason of an abort. -/
inductive Cause
  /-- `InstanceActivityAdmissionError` -/
  | admission
  | error (message : String)
  /-- a thrown value that is no `Error` -/
  | value (text : String)
  deriving DecidableEq

inductive Operation
  | heartbeat
  | touch
  | close (closedAt : Timestamp)
  deriving DecidableEq

/-- What the session asks of the store. -/
inductive StoreCall
  | renewLease (lease : InstanceActivityLease) (touchedAt : Timestamp) (activity : Bool)
  | closeLease (id instanceId : String) (closedAt : Timestamp)
  deriving DecidableEq

/-- The operation that is under way. -/
inductive Running
  | heartbeat
  | touch
  /-- the renewal of a touch is over, and the touch goes on -/
  | touched (renewed : Bool)
  | closing
  deriving DecidableEq

/-- `ActivityLeaseSession` -/
structure Session where
  lease : InstanceActivityLease
  /-- the reason of the signal, once it has been aborted -/
  aborted : Option Cause
  /-- the tracker's `#active` has an entry of the session -/
  listed : Bool
  queue : List Operation
  running : Option Running
  closePromise : Bool
  failure : Option Cause
  closed : Bool
  touchQueued : Bool
  activityTouched : Bool
  reportedFailure : Bool
  lastActivityWriteAt : Timestamp
  /-- the calls so far, the latest first -/
  calls : List StoreCall
  reports : List Cause
  deriving DecidableEq

def Cause.asError : Cause → Cause
  | .value _ => .admission
  | cause => cause

/-- How `#renewNow` goes on after what it does at once. -/
inductive Renewal
  | awaits | returned | threw
  deriving DecidableEq

inductive Reply
  | yes | no
  | throws (cause : Cause)
  deriving DecidableEq

namespace Session

variable (s : Session)

def new (lease : InstanceActivityLease) : Session where
  lease := lease
  aborted := none
  listed := true
  queue := []
  running := none
  closePromise := false
  failure := none
  closed := false
  touchQueued := false
  activityTouched := false
  reportedFailure := false
  lastActivityWriteAt := lease.openedAt
  calls := []
  reports := []

def enqueue (operation : Operation) : Session :=
  { s with queue := s.queue ++ [operation] }

/-- Only the first reason counts. -/
def abort (cause : Cause) : Session :=
  { s with aborted := s.aborted.or (some cause) }

def reportFailure (cause : Cause) : Session :=
  if s.reportedFailure then s else { s with reportedFailure := true, reports := s.reports ++ [cause] }

def close (now : Timestamp) : Session :=
  if s.closePromise then s
  else { s with closed := true, listed := false, closePromise := true, queue := s.queue ++ [.close now] }

def fail (cause : Cause) (now : Timestamp) : Session :=
  if s.failure.isSome then s
  else
    let failed := { s with failure := some cause }.abort cause
    (if cause = .admission then failed else failed.reportFailure cause).close now

def activityWriteDue (activityTouchIntervalMs : Nat) (now : Timestamp) : Bool :=
  !s.activityTouched || activityTouchIntervalMs ≤ now - s.lastActivityWriteAt

def heartbeat : Session :=
  s.enqueue .heartbeat

def touch (activityTouchIntervalMs : Nat) (now : Timestamp) : Session :=
  if s.closed || s.failure.isSome || !s.activityWriteDue activityTouchIntervalMs now || s.touchQueued then s
  else { s with touchQueued := true }.enqueue .touch

/-- The lease with the time of a renewal. -/
def touchedLease (activity : Bool) (now : Timestamp) : InstanceActivityLease :=
  { s.lease with
    heartbeatAt := now
    lastActivityAt := if activity then now else s.lease.lastActivityAt }

/-- The renewal is asked of the store. -/
def issueRenewal (activity : Bool) (now : Timestamp) : Session :=
  { s with
    lease := s.touchedLease activity now
    calls := .renewLease (s.touchedLease activity now) now activity :: s.calls }

def renewNow (activity : Bool) (now : Timestamp) : Session × Renewal :=
  if s.closed then (s, .returned)
  else if s.failure.isSome then (s, .threw)
  else
    match s.aborted with
    | some reason => (s.fail reason.asError now, .threw)
    | none => (s.issueRenewal activity now, .awaits)

/-- An operation begins; between the check of a touch and its renewal the clock may go on. -/
def begin (activityTouchIntervalMs : Nat) (now : Timestamp) (elapsed : Nat) : Operation → Session
  | .heartbeat =>
    match s.renewNow false now with
    | (s, .awaits) => { s with running := some .heartbeat }
    | (s, _) => s
  | .touch =>
    if s.closed || s.failure.isSome || !s.activityWriteDue activityTouchIntervalMs now then { s with touchQueued := false }
    else
      match s.renewNow true (now + elapsed) with
      | (s, .awaits) => { s with running := some .touch }
      | (s, .returned) => { s with running := some (.touched true) }
      | (s, .threw) => { s with running := some (.touched false) }
  | .close closedAt =>
    { s with calls := .closeLease s.lease.id s.lease.instanceId closedAt :: s.calls, running := some .closing }

/-- The next operation of the queue begins, when the one before it is over. -/
def start (activityTouchIntervalMs : Nat) (now : Timestamp) (elapsed : Nat) : Option Session :=
  match s.running, s.queue with
  | none, operation :: queue => some ({ s with queue := queue }.begin activityTouchIntervalMs now elapsed operation)
  | _, _ => none

/-- What the store's answer to a renewal does, before the touch that asked for it goes on. -/
def renewed (now : Timestamp) : Reply → Session
  | .yes => s
  | .no => s.fail .admission now
  | .throws cause => s.fail cause now

/-- A close that fails is reported by the failure that asked for it. -/
def closeReplied : Reply → Session
  | .throws cause => if s.failure.isSome then s.reportFailure cause else s
  | _ => s

/-- The store answers. -/
def answered (now : Timestamp) (reply : Reply) : Option Session :=
  match s.running with
  | some .heartbeat => some ({ s with running := none }.renewed now reply)
  | some .touch => some ({ s with running := some (.touched (decide (reply = Reply.yes))) }.renewed now reply)
  | some .closing => some ({ s with running := none }.closeReplied reply)
  | _ => none

/-- A touch goes on after its renewal. -/
def goOn : Option Session :=
  match s.running with
  | some (.touched true) => some
      { s with running := none, touchQueued := false, activityTouched := true, lastActivityWriteAt := s.lease.lastActivityAt }
  | some (.touched false) => some { s with running := none, touchQueued := false }
  | _ => none

end Session

/-! ## `InstanceActivityTracker` -/

structure Tracker where
  activityTouchIntervalMs : Nat
  /-- the leases the store has been asked to open -/
  opening : List InstanceActivityLease
  sessions : Table fun s : Session => s.lease.id

inductive TrackerCall
  | opens (id instanceId : String) (kind : InstanceActivityKind) (now : Timestamp)
  | opened (id : String) (reply : Reply)
  | heartbeat (id : String)
  | touch (id : String) (now : Timestamp)
  | close (id : String) (now : Timestamp)
  | start (id : String) (now : Timestamp) (elapsed : Nat)
  | answered (id : String) (now : Timestamp) (reply : Reply)
  | goOn (id : String)
  | abort (instanceId : String) (kind : Option InstanceActivityKind)
  /-- the store has answered the `begin` of an `InstanceUpgradeAdmission` -/
  | begun (instanceId : String) (mode : InstanceDrainMode) (admitted : Bool)

namespace Tracker

variable (t : Tracker)

def new (activityTouchIntervalMs : Nat) : Tracker := ⟨activityTouchIntervalMs, [], Table.empty⟩

def opens (id instanceId : String) (kind : InstanceActivityKind) (now : Timestamp) : Tracker :=
  { t with opening := ⟨id, instanceId, kind, now, now, now⟩ :: t.opening }

/-- The store has answered: there is a session, or the caller is told that there is none. -/
def opened (lease : InstanceActivityLease) (reply : Reply) : Tracker :=
  { t with
    opening := t.opening.erase lease
    sessions := if reply = .yes then t.sessions.put (.new lease) else t.sessions }

/-- One session goes on. -/
def update (id : String) (f : Session → Option Session) : Option Tracker :=
  ((t.sessions.get id).bind f).map fun s => { t with sessions := t.sessions.put s }

/-- The abort is for the session. -/
def concerns (instanceId : String) (kind : Option InstanceActivityKind) (s : Session) : Bool :=
  s.listed && s.lease.instanceId = instanceId && kind.all fun kind => s.lease.kind = kind

def aborting (instanceId : String) (kind : Option InstanceActivityKind) (s : Session) : Session :=
  if concerns instanceId kind s then s.abort .admission else s

theorem aborting_lease (instanceId : String) (kind : Option InstanceActivityKind) (s : Session) :
    (aborting instanceId kind s).lease = s.lease := by
  unfold aborting
  split <;> rfl

def abort (instanceId : String) (kind : Option InstanceActivityKind) : Tracker :=
  { t with
    sessions := t.sessions.sweep (aborting instanceId kind) fun s => by rw [aborting_lease] }

def aborted (mode : InstanceDrainMode) : Option InstanceActivityKind :=
  if mode = .force then none else some .websocket

/-- The random id of a lease is nobody else's. -/
def unused (id : String) : Bool :=
  (t.sessions.get id).isNone && t.opening.all fun lease => lease.id ≠ id

def step : TrackerCall → Option Tracker
  | .opens id instanceId kind now => if t.unused id then some (t.opens id instanceId kind now) else none
  | .opened id reply => (t.opening.find? fun lease => lease.id = id).map fun lease => t.opened lease reply
  | .heartbeat id => t.update id fun s => some s.heartbeat
  | .touch id now => t.update id fun s => some (s.touch t.activityTouchIntervalMs now)
  | .close id now => t.update id fun s => some (s.close now)
  | .start id now elapsed => t.update id fun s => s.start t.activityTouchIntervalMs now elapsed
  | .answered id now reply => t.update id fun s => s.answered now reply
  | .goOn id => t.update id Session.goOn
  | .abort instanceId kind => some (t.abort instanceId kind)
  | .begun instanceId mode admitted => some (if admitted then t.abort instanceId (aborted mode) else t)

end Tracker

end OpenApp.Leases
