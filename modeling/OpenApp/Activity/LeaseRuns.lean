import OpenApp.Activity.LeaseSession
import OpenApp.Async.Solo

/-!
# A lease is closed once, and nothing renews it after that

Whatever the order of replies, closes, failures and aborts: a session that is closed or has failed closes its lease
exactly once, its renewals come one after another and none comes after the close, and only a touch, not more often than
once in an interval, says that the connection was active.
-/

namespace OpenApp.Leases

open Async Keyed Rollout

/-! ## What the calls of a session say -/

namespace StoreCall

def isClose : StoreCall → Bool
  | closeLease _ _ _ => true
  | renewLease _ _ _ => false

/-- The time of a renewal that a touch has asked for. -/
def touchedAt : StoreCall → Option Timestamp
  | renewLease _ touchedAt true => some touchedAt
  | _ => none

/-- The call is about this lease, with the time it is made, and the activity that was known before. -/
def Fits (lease : InstanceActivityLease) (lastActivityAt : Timestamp) : StoreCall → Prop
  | renewLease renewed touchedAt activity => renewed = { lease with
      heartbeatAt := touchedAt
      lastActivityAt := if activity then touchedAt else lastActivityAt }
  | closeLease id instanceId _ => id = lease.id ∧ instanceId = lease.instanceId

end StoreCall

def Operation.isClose : Operation → Bool
  | close _ => true
  | _ => false

def Operation.isTouch : Operation → Bool
  | touch => true
  | _ => false

def Running.isTouch : Running → Bool
  | touch | touched _ => true
  | _ => false

/-- The times of the touches, the latest first. -/
def touches (calls : List StoreCall) : List Timestamp :=
  calls.filterMap StoreCall.touchedAt

/-- How often the lease has been closed. -/
def closes (calls : List StoreCall) : Nat :=
  calls.countP StoreCall.isClose

/-- When the connection was active last, as the store has been told. -/
def lastTouch (openedAt : Timestamp) (calls : List StoreCall) : Timestamp :=
  (touches calls).head?.getD openedAt

/-- Only a touch moves the time of the last activity. -/
def Steady (lease : InstanceActivityLease) : List StoreCall → Prop
  | [] => True
  | call :: calls => call.Fits lease (lastTouch lease.openedAt calls) ∧ Steady lease calls

/-- The touches are this far apart. -/
def Spaced (interval : Nat) (calls : List StoreCall) : Prop :=
  (touches calls).Pairwise fun (later earlier : Timestamp) => earlier + (interval : Int) ≤ later

namespace Session

variable (s : Session)

/-- Nothing is under way and nothing waits. -/
def idle : Bool :=
  s.running.isNone && s.queue.isEmpty

/-- What the lease was when it was opened. -/
def original : InstanceActivityLease :=
  { s.lease with heartbeatAt := s.lease.openedAt, lastActivityAt := s.lease.openedAt }

end Session

/-- What the calls of a session look like. -/
structure KeepsLease (interval : Nat) (s : Session) : Prop where
  /-- the lease is closed at most once -/
  once : closes s.calls ≤ 1
  /-- and exactly once when the session has come to its end -/
  released : s.closed = true ∨ s.failure.isSome = true → s.idle = true → closes s.calls = 1
  /-- the close is the last call -/
  last : ∀ call ∈ s.calls.tail, call.isClose = false
  /-- only a touch says that the connection was active -/
  steady : Steady s.original s.calls
  spaced : Spaced interval s.calls
  /-- and at most one failure is reported -/
  reported : s.reports.length ≤ 1

/-! ## The invariant of a session -/

structure Orderly (interval : Nat) (s : Session) : Prop where
  promised : s.closePromise = s.closed
  listed : s.listed = !s.closed
  failed : s.failure.isSome = true → s.closed = true ∧ s.aborted.isSome = true
  /-- a close waits, or has been asked for, if and only if the session is closed -/
  released : s.queue.countP Operation.isClose + closes s.calls = s.closed.toNat
  last : ∀ call ∈ s.calls.tail, call.isClose = false
  /-- at most one touch waits or is under way -/
  touches : s.queue.countP Operation.isTouch + (s.running.any Running.isTouch).toNat = s.touchQueued.toNat
  threw : s.running = some (.touched false) → s.failure.isSome = true
  steady : Steady s.original s.calls
  activity : s.lease.lastActivityAt = lastTouch s.lease.openedAt s.calls
  spaced : Spaced interval s.calls
  /-- the last touch is known, once it is over -/
  written : ∀ at' ∈ (Leases.touches s.calls).head?, s.running.any Running.isTouch = false → s.failure = none →
    s.activityTouched = true ∧ s.lastActivityWriteAt = at'
  reported : s.reports.length = s.reportedFailure.toNat

theorem Orderly.keepsLease {interval : Nat} {s : Session} (h : Orderly interval s) : KeepsLease interval s where
  once := by
    have := h.released
    have := s.closed.toNat_le
    omega
  released hended hidle := by
    have hclosed : s.closed = true := hended.elim id fun hfailed => (h.failed hfailed).1
    have hcloses := h.released
    rw [hclosed, List.isEmpty_iff.1 (Bool.and_eq_true_iff.1 hidle).2] at hcloses
    simpa using hcloses
  last := h.last
  steady := h.steady
  spaced := h.spaced
  reported := by
    have := s.reportedFailure.toNat_le
    have := h.reported
    omega

namespace Orderly

variable {interval : Nat} {s : Session}

theorem new {lease : InstanceActivityLease} (h : lease.lastActivityAt = lease.openedAt) : Orderly interval (.new lease) where
  promised := rfl
  listed := rfl
  failed := fun hfailed => absurd hfailed Bool.false_ne_true
  released := rfl
  last := fun _ hmem => absurd hmem List.not_mem_nil
  touches := rfl
  threw := fun hthrew => by cases hthrew
  steady := trivial
  activity := h
  spaced := List.Pairwise.nil
  written := fun _ hmem => by cases hmem
  reported := rfl

theorem heartbeat (h : Orderly interval s) : Orderly interval s.heartbeat :=
  { h with
    released := by simpa [Session.heartbeat, Session.enqueue, Operation.isClose] using h.released
    touches := by simpa [Session.heartbeat, Session.enqueue, Operation.isTouch] using h.touches }

theorem touch (h : Orderly interval s) (now : Timestamp) : Orderly interval (s.touch interval now) := by
  unfold Session.touch
  split
  · exact h
  · next hgo =>
    simp only [Bool.or_eq_true, not_or, Bool.not_eq_true] at hgo
    exact { h with
      released := by simpa [Session.enqueue, Operation.isClose] using h.released
      touches := by
        have htouches := h.touches
        rw [hgo.2, Bool.toNat_false] at htouches
        have hcount : (s.queue ++ [Operation.touch]).countP Operation.isTouch = s.queue.countP Operation.isTouch + 1 := by
          simp [Operation.isTouch]
        change (s.queue ++ [Operation.touch]).countP Operation.isTouch + (s.running.any Running.isTouch).toNat = 1
        omega }

theorem close (h : Orderly interval s) (now : Timestamp) : Orderly interval (s.close now) := by
  unfold Session.close
  split
  · exact h
  · next hopen =>
    have hclosed : s.closed = false := by
      rw [← h.promised]
      simpa using hopen
    exact { h with
      promised := rfl
      listed := rfl
      failed := fun hfailed => ⟨rfl, (h.failed hfailed).2⟩
      released := by
        have hreleased := h.released
        rw [hclosed, Bool.toNat_false] at hreleased
        have hcount : (s.queue ++ [Operation.close now]).countP Operation.isClose = s.queue.countP Operation.isClose + 1 := by
          simp [Operation.isClose]
        change (s.queue ++ [Operation.close now]).countP Operation.isClose + Leases.closes s.calls = 1
        omega
      touches := by simpa [Operation.isTouch] using h.touches }

theorem abort (h : Orderly interval s) (cause : Cause) : Orderly interval (s.abort cause) :=
  { h with
    failed := fun hfailed => ⟨(h.failed hfailed).1, by simp [Session.abort]⟩ }

theorem reportFailure (h : Orderly interval s) (cause : Cause) : Orderly interval (s.reportFailure cause) := by
  unfold Session.reportFailure
  split
  · exact h
  · next hunreported =>
    have hnone : s.reportedFailure = false := by simpa using hunreported
    have hreported := h.reported
    rw [hnone, Bool.toNat_false] at hreported
    exact { h with reported := by simp [hreported] }

/-- A session that is closed may go on to have failed. -/
theorem failing (h : Orderly interval s) (hclosed : s.closed = true) (cause : Cause) :
    Orderly interval ({ s with failure := some cause }.abort cause) :=
  { h with
    failed := fun _ => ⟨hclosed, by simp [Session.abort]⟩
    threw := fun _ => rfl
    written := fun _ _ _ hnone => by cases hnone }

theorem closed_close (s : Session) (h : s.closePromise = s.closed) (now : Timestamp) : (s.close now).closed = true := by
  unfold Session.close
  split
  · next hpromise => rw [← h, hpromise]
  · rfl

/-- Closing and failing come to the same in either order. -/
theorem fail_eq (hnone : s.failure = none) (cause : Cause) (now : Timestamp) :
    s.fail cause now = if cause = .admission then { s.close now with failure := some cause }.abort cause
      else ({ s.close now with failure := some cause }.abort cause).reportFailure cause := by
  unfold Session.fail Session.reportFailure Session.close Session.abort
  by_cases hcause : cause = .admission <;> by_cases hpromise : s.closePromise = true <;>
    by_cases hreported : s.reportedFailure = true <;> simp [hnone, hcause, hpromise, hreported]

theorem fail (h : Orderly interval s) (cause : Cause) (now : Timestamp) : Orderly interval (s.fail cause now) := by
  cases hfailure : s.failure with
  | some failure =>
    have hkept : s.fail cause now = s := if_pos (by rw [hfailure]; rfl)
    rwa [hkept]
  | none =>
    rw [fail_eq hfailure]
    have hclosing := (h.close now).failing (closed_close s h.promised now) cause
    split
    · exact hclosing
    · exact hclosing.reportFailure cause

theorem fail_running (s : Session) (running : Option Running) (cause : Cause) (now : Timestamp) :
    { s with running := running }.fail cause now = { s.fail cause now with running := running } := by
  unfold Session.fail Session.reportFailure Session.close Session.abort
  by_cases hfailure : s.failure.isSome = true <;> by_cases hcause : cause = .admission <;>
    by_cases hpromise : s.closePromise = true <;> by_cases hreported : s.reportedFailure = true <;>
    simp [hfailure, hcause, hpromise, hreported]

theorem fail_failure (s : Session) (cause : Cause) (now : Timestamp) : (s.fail cause now).failure.isSome = true := by
  unfold Session.fail Session.reportFailure Session.close Session.abort
  by_cases hfailure : s.failure.isSome = true <;> by_cases hcause : cause = .admission <;>
    by_cases hpromise : s.closePromise = true <;> by_cases hreported : s.reportedFailure = true <;>
    simp [hfailure, hcause, hpromise, hreported]

/-- Another operation that is no touch is under way, or none. -/
theorem withRunning (h : Orderly interval s) {running : Option Running} (hs : s.running.any Running.isTouch = false)
    (hrunning : running.any Running.isTouch = false) : Orderly interval { s with running := running } :=
  { h with
    touches := by
      have htouches := h.touches
      rw [hs] at htouches
      change _ + (running.any Running.isTouch).toNat = _
      rw [hrunning]
      exact htouches
    threw := fun hthrew => by
      change running = _ at hthrew
      rw [hthrew] at hrunning
      cases hrunning
    written := fun at' hmem _ hnone => h.written at' hmem hs hnone }

/-- A touch goes on: its renewal has succeeded, or the session has failed. -/
theorem touched (h : Orderly interval s) (hs : s.running = some .touch) {renewed : Bool}
    (hrenewed : renewed = false → s.failure.isSome = true) : Orderly interval { s with running := some (.touched renewed) } :=
  { h with
    touches := by
      have htouches := h.touches
      rw [hs] at htouches
      exact htouches
    threw := fun hthrew => by
      cases hthrew
      exact hrenewed rfl
    written := fun _ _ htouch _ => by cases htouch }

/-- The renewal of a touch has failed, and the session with it. -/
theorem touchFailed (h : Orderly interval { s with running := some .touch }) (cause : Cause) (now : Timestamp) :
    Orderly interval { s.fail cause now with running := some (.touched false) } := by
  have hfailed := h.fail cause now
  rw [fail_running] at hfailed
  exact hfailed.touched rfl fun _ => fail_failure s cause now

theorem issue (h : Orderly interval s) {activity : Bool} {now : Timestamp} (hopen : s.closed = false)
    (hrunning : s.running = some (if activity then .touch else .heartbeat))
    (hdue : activity = true → ∀ at' ∈ (Leases.touches s.calls).head?, at' + (interval : Int) ≤ now) :
    Orderly interval (s.issueRenewal activity now) := by
  have hnone : ∀ call ∈ s.calls, call.isClose = false := by
    have hreleased := h.released
    rw [hopen, Bool.toNat_false] at hreleased
    intro call hmem
    simpa using List.countP_eq_zero.1 (Nat.eq_zero_of_add_eq_zero_left hreleased) call hmem
  exact { h with
    released := by simpa [Session.issueRenewal, closes, StoreCall.isClose] using h.released
    last := hnone
    threw := fun hthrew => by
      change s.running = _ at hthrew
      rw [hrunning] at hthrew
      cases activity <;> cases hthrew
    steady := by
      refine ⟨?_, h.steady⟩
      change s.touchedLease activity now = _
      unfold Session.touchedLease
      rw [h.activity]
      rfl
    activity := by
      cases activity with
      | true => rfl
      | false => exact h.activity
    spaced := by
      cases activity with
      | false => exact h.spaced
      | true =>
        refine List.pairwise_cons.2 ⟨fun at' hmem => ?_, h.spaced⟩
        have hdue := hdue rfl
        have hspaced := h.spaced
        unfold Spaced at hspaced
        change at' ∈ Leases.touches s.calls at hmem
        cases htouches : Leases.touches s.calls with
        | nil =>
          rw [htouches] at hmem
          cases hmem
        | cons latest earlier =>
          rw [htouches] at hdue hspaced hmem
          have hlatest := hdue latest rfl
          rcases List.mem_cons.1 hmem with rfl | hmem
          · exact hlatest
          · have hearlier : at' + (interval : Int) ≤ latest := (List.pairwise_cons.1 hspaced).1 at' hmem
            exact Int.le_trans hearlier (Int.le_trans (Int.le_add_of_nonneg_right (Int.natCast_nonneg interval)) hlatest)
    written := fun at' hmem htouch hfailure => by
      change s.running.any Running.isTouch = false at htouch
      cases activity with
      | true =>
        rw [hrunning] at htouch
        cases htouch
      | false => exact h.written at' hmem htouch hfailure }

/-- What `#renewNow` does at once. -/
theorem renewNow_cases (s : Session) (activity : Bool) (now : Timestamp) :
    s.closed = true ∧ s.renewNow activity now = (s, .returned) ∨
      s.closed = false ∧ s.failure.isSome = true ∧ s.renewNow activity now = (s, .threw) ∨
      s.closed = false ∧ (∃ cause, s.renewNow activity now = (s.fail cause now, .threw)) ∨
      s.closed = false ∧ s.aborted = none ∧ s.renewNow activity now = (s.issueRenewal activity now, .awaits) := by
  unfold Session.renewNow
  split
  · next hclosed => exact .inl ⟨hclosed, rfl⟩
  · next hopen =>
    have hopen : s.closed = false := by simpa using hopen
    split
    · next hfailure => exact .inr (.inl ⟨hopen, hfailure, rfl⟩)
    · split
      · exact .inr (.inr (.inl ⟨hopen, _, rfl⟩))
      · next haborted => exact .inr (.inr (.inr ⟨hopen, haborted, rfl⟩))

section Begin

variable {queue : List Operation}

/-- Nothing is under way, and an operation is taken out of the queue. -/
theorem pop (h : Orderly interval s) {operation : Operation} (hqueue : s.queue = operation :: queue)
    (hclose : operation.isClose = false) (htouch : operation.isTouch = false) : Orderly interval { s with queue := queue } :=
  { h with
    released := by
      have hreleased := h.released
      rw [hqueue, List.countP_cons_of_neg (by simp [hclose])] at hreleased
      exact hreleased
    touches := by
      have htouches := h.touches
      rw [hqueue, List.countP_cons_of_neg (by simp [htouch])] at htouches
      exact htouches }

theorem begin_heartbeat (h : Orderly interval s) (hrunning : s.running = none) (hqueue : s.queue = .heartbeat :: queue)
    (now : Timestamp) (elapsed : Nat) : Orderly interval ({ s with queue := queue }.begin interval now elapsed .heartbeat) := by
  have hpopped := h.pop hqueue rfl rfl
  have hidle : s.running.any Running.isTouch = false := by rw [hrunning]; rfl
  unfold Session.begin
  obtain ⟨-, heq⟩ | ⟨-, -, heq⟩ | ⟨-, cause, heq⟩ | ⟨hopen, -, heq⟩ := renewNow_cases { s with queue := queue } false now
  · rw [heq]
    exact hpopped
  · rw [heq]
    exact hpopped
  · rw [heq]
    exact hpopped.fail cause now
  · rw [heq]
    have hheartbeat : Orderly interval { s with queue := queue, running := some .heartbeat } := hpopped.withRunning hidle rfl
    exact hheartbeat.issue hopen rfl fun hactivity => by cases hactivity

/-- The touch that is taken out of the queue is under way. -/
theorem popTouch (h : Orderly interval s) (hrunning : s.running = none) (hqueue : s.queue = .touch :: queue) :
    Orderly interval { s with queue := queue, running := some .touch } :=
  { h with
    released := by
      have hreleased := h.released
      rw [hqueue, List.countP_cons_of_neg (by simp [Operation.isClose])] at hreleased
      exact hreleased
    touches := by
      have htouches := h.touches
      rw [hqueue, hrunning, List.countP_cons_of_pos rfl] at htouches
      change queue.countP Operation.isTouch + 1 = _
      simpa using htouches
    threw := fun hthrew => by cases hthrew
    written := fun _ _ htouch _ => by cases htouch }

theorem begin_touch (h : Orderly interval s) (hrunning : s.running = none) (hqueue : s.queue = .touch :: queue)
    (now : Timestamp) (elapsed : Nat) : Orderly interval ({ s with queue := queue }.begin interval now elapsed .touch) := by
  have hpopped := h.popTouch hrunning hqueue
  have htouches := hpopped.touches
  change queue.countP Operation.isTouch + 1 = s.touchQueued.toNat at htouches
  have hnone : queue.countP Operation.isTouch = 0 := by
    have := s.touchQueued.toNat_le
    omega
  rw [Session.begin]
  split
  · -- the touch finds that there is nothing to do
    exact { hpopped with
      touches := by
        change queue.countP Operation.isTouch + (s.running.any Running.isTouch).toNat = 0
        rw [hnone, hrunning]
        rfl
      threw := h.threw
      written := h.written }
  · next hgo =>
    simp only [Bool.or_eq_true, not_or, Bool.not_eq_true, Option.isSome_eq_false_iff, Option.isNone_iff_eq_none] at hgo
    obtain ⟨⟨hopen, hfailure⟩, hdue⟩ := hgo
    obtain ⟨hclosed, -⟩ | ⟨-, hfailed, -⟩ | ⟨-, cause, heq⟩ | ⟨-, -, heq⟩ :=
      renewNow_cases { s with queue := queue } true (now + elapsed)
    · rw [hopen] at hclosed
      cases hclosed
    · rw [hfailure] at hfailed
      cases hfailed
    · rw [heq]
      exact touchFailed (s := { s with queue := queue }) hpopped cause _
    · rw [heq]
      refine hpopped.issue hopen rfl fun _ latest hlatest => ?_
      obtain ⟨htouched, hwritten⟩ := h.written latest hlatest (by rw [hrunning]; rfl) hfailure
      have hinterval : (interval : Int) ≤ now - s.lastActivityWriteAt := by
        simpa [Session.activityWriteDue, htouched] using hdue
      rw [hwritten] at hinterval
      have helapsed : now ≤ now + (elapsed : Int) := Int.le_add_of_nonneg_right (Int.natCast_nonneg elapsed)
      exact Int.le_trans (Int.add_le_of_le_sub_left hinterval) helapsed

theorem begin_close (h : Orderly interval s) (hrunning : s.running = none) {closedAt : Timestamp}
    (hqueue : s.queue = .close closedAt :: queue) (now : Timestamp) (elapsed : Nat) :
    Orderly interval ({ s with queue := queue }.begin interval now elapsed (.close closedAt)) := by
  have hidle : s.running.any Running.isTouch = false := by rw [hrunning]; rfl
  have hreleased := h.released
  rw [hqueue, List.countP_cons_of_pos rfl] at hreleased
  have hnone : Leases.closes s.calls = 0 := by
    have := s.closed.toNat_le
    omega
  exact { h with
    released := by
      have hcloses : closes (.closeLease s.lease.id s.lease.instanceId closedAt :: s.calls) = closes s.calls + 1 :=
        List.countP_cons_of_pos rfl
      change queue.countP Operation.isClose + closes (.closeLease s.lease.id s.lease.instanceId closedAt :: s.calls) =
        s.closed.toNat
      rw [hcloses]
      omega
    last := fun call hmem => by simpa using List.countP_eq_zero.1 hnone call hmem
    touches := by
      have htouches := h.touches
      rw [hqueue, hidle, List.countP_cons_of_neg (by simp [Operation.isTouch])] at htouches
      exact htouches
    threw := fun hthrew => by cases hthrew
    steady := ⟨⟨rfl, rfl⟩, h.steady⟩
    written := fun at' hmem _ hfailure => h.written at' hmem hidle hfailure }

end Begin

theorem start {s' : Session} (h : Orderly interval s) {now : Timestamp} {elapsed : Nat}
    (hstart : s.start interval now elapsed = some s') : Orderly interval s' := by
  unfold Session.start at hstart
  split at hstart
  · next operation queue hrunning hqueue =>
    cases hstart
    cases operation with
    | heartbeat => exact h.begin_heartbeat hrunning hqueue now elapsed
    | touch => exact h.begin_touch hrunning hqueue now elapsed
    | close closedAt => exact h.begin_close hrunning hqueue now elapsed
  · cases hstart

theorem renewed (h : Orderly interval s) (now : Timestamp) (reply : Reply) : Orderly interval (s.renewed now reply) := by
  cases reply with
  | yes => exact h
  | no => exact h.fail _ now
  | throws cause => exact h.fail _ now

theorem closeReplied (h : Orderly interval s) (reply : Reply) : Orderly interval (s.closeReplied reply) := by
  unfold Session.closeReplied
  split
  · split
    · exact h.reportFailure _
    · exact h
  · exact h

theorem answered {s' : Session} (h : Orderly interval s) {now : Timestamp} {reply : Reply}
    (hanswered : s.answered now reply = some s') : Orderly interval s' := by
  unfold Session.answered at hanswered
  split at hanswered
  · next hrunning =>
    cases hanswered
    exact (h.withRunning (by rw [hrunning]; rfl) rfl).renewed now reply
  · next hrunning =>
    cases hanswered
    have htouch : Orderly interval { s with running := some .touch } := by rwa [← hrunning]
    cases reply with
    | yes => exact h.touched hrunning fun hno => by cases hno
    | no =>
      change Orderly interval ({ s with running := some (.touched false) }.fail .admission now)
      rw [fail_running]
      exact htouch.touchFailed .admission now
    | throws cause =>
      change Orderly interval ({ s with running := some (.touched false) }.fail cause now)
      rw [fail_running]
      exact htouch.touchFailed cause now
  · next hrunning =>
    cases hanswered
    exact (h.withRunning (by rw [hrunning]; rfl) rfl).closeReplied reply
  · cases hanswered

theorem goOn {s' : Session} (h : Orderly interval s) (hgoOn : s.goOn = some s') : Orderly interval s' := by
  have htouches := h.touches
  have := s.touchQueued.toNat_le
  unfold Session.goOn at hgoOn
  split at hgoOn
  · next hrunning =>
    cases hgoOn
    rw [hrunning] at htouches
    change s.queue.countP Operation.isTouch + 1 = _ at htouches
    exact { h with
      touches := by
        change s.queue.countP Operation.isTouch + 0 = 0
        omega
      threw := fun hthrew => by cases hthrew
      written := fun at' hmem _ _ => by
        refine ⟨rfl, ?_⟩
        change s.lease.lastActivityAt = at'
        rw [h.activity, lastTouch, Option.mem_def.1 hmem]
        rfl }
  · next hrunning =>
    cases hgoOn
    rw [hrunning] at htouches
    change s.queue.countP Operation.isTouch + 1 = _ at htouches
    exact { h with
      touches := by
        change s.queue.countP Operation.isTouch + 0 = 0
        omega
      threw := fun hthrew => by cases hthrew
      written := fun _ _ _ hnone => by
        have hfailure := h.threw hrunning
        rw [hnone] at hfailure
        cases hfailure }
  · cases hgoOn

end Orderly

/-! ## The steps of one session -/

/-- What the tracker lets one of its sessions do. -/
inductive SessionStep (interval : Nat) (s : Session) : Session → Prop
  | heartbeat : SessionStep interval s s.heartbeat
  | touch (now : Timestamp) : SessionStep interval s (s.touch interval now)
  | close (now : Timestamp) : SessionStep interval s (s.close now)
  | started {s' : Session} {now : Timestamp} {elapsed : Nat} (h : s.start interval now elapsed = some s') : SessionStep interval s s'
  | answered {s' : Session} {now : Timestamp} {reply : Reply} (h : s.answered now reply = some s') : SessionStep interval s s'
  | goneOn {s' : Session} (h : s.goOn = some s') : SessionStep interval s s'

theorem Orderly.step {interval : Nat} {s s' : Session} (h : Orderly interval s) (hstep : SessionStep interval s s') :
    Orderly interval s' := by
  cases hstep with
  | heartbeat => exact h.heartbeat
  | touch now => exact h.touch now
  | close now => exact h.close now
  | started hstart => exact h.start hstart
  | answered hanswered => exact h.answered hanswered
  | goneOn hgoOn => exact h.goOn hgoOn

/-- The renewals among the calls. -/
def renewals (calls : List StoreCall) : List StoreCall :=
  calls.filter fun call => !call.isClose

/-- Once the signal is aborted nothing is renewed any more. -/
structure Quiet (s s' : Session) : Prop where
  id : s'.lease.id = s.lease.id
  aborted : s.aborted.isSome = true → s'.aborted.isSome = true
  renewals : s.aborted.isSome = true → renewals s'.calls = renewals s.calls

namespace Quiet

variable {interval : Nat} {s s' s'' : Session}

theorem refl (s : Session) : Quiet s s := ⟨rfl, fun haborted => haborted, fun _ => rfl⟩

theorem trans (h : Quiet s s') (h' : Quiet s' s'') : Quiet s s'' where
  id := h'.id.trans h.id
  aborted := fun haborted => h'.aborted (h.aborted haborted)
  renewals := fun haborted => (h'.renewals (h.aborted haborted)).trans (h.renewals haborted)

theorem of_same (hlease : s'.lease = s.lease) (haborted : s'.aborted = s.aborted) (hcalls : s'.calls = s.calls) : Quiet s s' where
  id := by rw [hlease]
  aborted := by rw [haborted]; exact fun h => h
  renewals := by rw [hcalls]; exact fun _ => rfl

theorem close (s : Session) (now : Timestamp) : Quiet s (s.close now) := by
  unfold Session.close
  split
  · exact .refl s
  · exact of_same rfl rfl rfl

theorem reportFailure (s : Session) (cause : Cause) : Quiet s (s.reportFailure cause) := by
  unfold Session.reportFailure
  split
  · exact .refl s
  · exact of_same rfl rfl rfl

theorem abort (s : Session) (cause : Cause) : Quiet s (s.abort cause) where
  id := rfl
  aborted := fun _ => by simp [Session.abort]
  renewals := fun _ => rfl

theorem fail (s : Session) (cause : Cause) (now : Timestamp) : Quiet s (s.fail cause now) := by
  unfold Session.fail
  split
  · exact .refl s
  · have hfailed : Quiet s ({ s with failure := some cause }.abort cause) :=
      (of_same rfl rfl rfl : Quiet s { s with failure := some cause }).trans (.abort _ cause)
    dsimp only
    split
    · exact hfailed.trans (.close _ now)
    · exact (hfailed.trans (.reportFailure _ cause)).trans (.close _ now)

/-- A renewal is issued only while the signal is not aborted. -/
theorem renewNow (s : Session) (activity : Bool) (now : Timestamp) : Quiet s (s.renewNow activity now).1 := by
  obtain ⟨-, heq⟩ | ⟨-, -, heq⟩ | ⟨-, cause, heq⟩ | ⟨-, hsignal, heq⟩ := Orderly.renewNow_cases s activity now
  · rw [heq]
    exact .refl s
  · rw [heq]
    exact .refl s
  · rw [heq]
    exact .fail s cause now
  · rw [heq]
    have hnot : s.aborted.isSome ≠ true := by simp [hsignal]
    exact ⟨rfl, fun haborted => absurd haborted hnot, fun haborted => absurd haborted hnot⟩

theorem started {now : Timestamp} {elapsed : Nat} (h : s.start interval now elapsed = some s') : Quiet s s' := by
  unfold Session.start at h
  split at h
  · next operation queue hrunning hqueue =>
    cases h
    have hpopped : Quiet s { s with queue := queue } := of_same rfl rfl rfl
    refine hpopped.trans ?_
    cases operation with
    | heartbeat =>
      have hrenewed := renewNow { s with queue := queue } false now
      rw [Session.begin]
      cases heq : ({ s with queue := queue } : Session).renewNow false now with
      | mk t renewal =>
        rw [heq] at hrenewed
        cases renewal with
        | awaits => exact hrenewed.trans (of_same rfl rfl rfl)
        | _ => exact hrenewed
    | touch =>
      have hrenewed := renewNow { s with queue := queue } true (now + elapsed)
      rw [Session.begin]
      split
      · exact of_same rfl rfl rfl
      · cases heq : ({ s with queue := queue } : Session).renewNow true (now + elapsed) with
        | mk t renewal =>
          rw [heq] at hrenewed
          cases renewal <;> exact hrenewed.trans (of_same rfl rfl rfl)
    | close closedAt => exact ⟨rfl, fun haborted => haborted, fun _ => rfl⟩
  · cases h

theorem answered {now : Timestamp} {reply : Reply} (h : s.answered now reply = some s') : Quiet s s' := by
  have hrenewed : ∀ t : Session, Quiet s t → Quiet s (t.renewed now reply) := by
    intro t ht
    cases reply with
    | yes => exact ht
    | no => exact ht.trans (.fail t _ now)
    | throws cause => exact ht.trans (.fail t cause now)
  unfold Session.answered at h
  split at h
  · cases h
    exact hrenewed _ (of_same rfl rfl rfl)
  · cases h
    exact hrenewed _ (of_same rfl rfl rfl)
  · cases h
    have hover : Quiet s { s with running := none } := of_same rfl rfl rfl
    unfold Session.closeReplied
    split
    · split
      · exact hover.trans (.reportFailure _ _)
      · exact hover
    · exact hover
  · cases h

theorem step (h : SessionStep interval s s') : Quiet s s' := by
  cases h with
  | heartbeat => exact of_same rfl rfl rfl
  | touch now =>
    unfold Session.touch
    split
    · exact .refl s
    · exact of_same rfl rfl rfl
  | close now => exact .close s now
  | started hstart => exact started hstart
  | answered hanswered => exact answered hanswered
  | goneOn hgoOn =>
    unfold Session.goOn at hgoOn
    split at hgoOn
    · cases hgoOn
      exact of_same rfl rfl rfl
    · cases hgoOn
      exact of_same rfl rfl rfl
    · cases hgoOn

end Quiet

/-! ## The steps of the tracker -/

/-- Everything a call of the tracker can do to its sessions. -/
inductive TrackerStep (t : Tracker) : Tracker → Prop
  | kept : TrackerStep t t
  | opening {id instanceId : String} {kind : InstanceActivityKind} {now : Timestamp} (new : t.unused id = true) :
      TrackerStep t (t.opens id instanceId kind now)
  | opened {lease : InstanceActivityLease} {reply : Reply} (asked : lease ∈ t.opening) : TrackerStep t (t.opened lease reply)
  | session {s s' : Session} (there : t.sessions.get s.lease.id = some s) (step : SessionStep t.activityTouchIntervalMs s s') :
      TrackerStep t { t with sessions := t.sessions.put s' }
  | aborted {instanceId : String} {kind : Option InstanceActivityKind} : TrackerStep t (t.abort instanceId kind)

section Steps

variable {t t' : Tracker}

theorem update_step {id : String} {f : Session → Option Session} (h : t.update id f = some t')
    (hf : ∀ s s', f s = some s' → SessionStep t.activityTouchIntervalMs s s') : TrackerStep t t' := by
  obtain ⟨s', hs', rfl⟩ := Option.map_eq_some_iff.1 h
  obtain ⟨s, hs, hstep⟩ := Option.bind_eq_some_iff.1 hs'
  obtain ⟨-, rfl⟩ := Table.get_eq_some.1 hs
  exact .session hs (hf s s' hstep)

theorem step_cases {call : TrackerCall} (h : t.step call = some t') : TrackerStep t t' := by
  cases call with
  | opens id instanceId kind now =>
    obtain ⟨hnew, hsome⟩ := Option.ite_none_right_eq_some.1 h
    exact Option.some.inj hsome ▸ .opening hnew
  | opened id reply =>
    obtain ⟨lease, hlease, rfl⟩ := Option.map_eq_some_iff.1 h
    exact .opened (List.mem_of_find?_eq_some hlease)
  | heartbeat id => exact update_step h fun s s' hs => Option.some.inj hs ▸ .heartbeat
  | touch id now => exact update_step h fun s s' hs => Option.some.inj hs ▸ .touch now
  | close id now => exact update_step h fun s s' hs => Option.some.inj hs ▸ .close now
  | start id now elapsed => exact update_step h fun s s' hs => .started hs
  | answered id now reply => exact update_step h fun s s' hs => .answered hs
  | goOn id => exact update_step h fun s s' hs => .goneOn hs
  | abort instanceId kind =>
    cases h
    exact .aborted
  | begun instanceId mode admitted =>
    cases h
    split
    · exact .aborted
    · exact .kept

theorem get_abort (t : Tracker) (instanceId : String) (kind : Option InstanceActivityKind) (id : String) :
    (t.abort instanceId kind).sessions.get id = (t.sessions.get id).map (Tracker.aborting instanceId kind) :=
  Table.get_sweep t.sessions _ (fun s => by rw [Tracker.aborting_lease]) id

/-- Every session is in order, and the leases that are being opened are new ones. -/
structure TrackerInv (t : Tracker) : Prop where
  sessions : ∀ s ∈ t.sessions.rows, Orderly t.activityTouchIntervalMs s
  fresh : ∀ lease ∈ t.opening, lease.lastActivityAt = lease.openedAt ∧ t.sessions.get lease.id = none
  nodup : (t.opening.map InstanceActivityLease.id).Nodup

theorem TrackerInv.new (interval : Nat) : TrackerInv (.new interval) :=
  ⟨fun _ hmem => absurd hmem List.not_mem_nil, fun _ hmem => absurd hmem List.not_mem_nil, List.nodup_nil⟩

theorem aborting_orderly {interval : Nat} {s : Session} (h : Orderly interval s) (instanceId : String)
    (kind : Option InstanceActivityKind) : Orderly interval (Tracker.aborting instanceId kind s) := by
  unfold Tracker.aborting
  split
  · exact h.abort _
  · exact h

theorem TrackerInv.step (h : TrackerInv t) (hstep : TrackerStep t t') : TrackerInv t' := by
  cases hstep with
  | kept => exact h
  | @opening id instanceId kind now new =>
    obtain ⟨hsessions, hopening⟩ := Bool.and_eq_true_iff.1 new
    refine ⟨h.sessions, fun lease hmem => ?_, List.nodup_cons.2 ⟨fun hmem => ?_, h.nodup⟩⟩
    · rcases List.mem_cons.1 hmem with rfl | hmem
      · exact ⟨rfl, Option.isNone_iff_eq_none.1 hsessions⟩
      · exact h.fresh lease hmem
    · obtain ⟨lease, hlease, hid⟩ := List.mem_map.1 hmem
      exact of_decide_eq_true (List.all_eq_true.1 hopening lease hlease) hid
  | @opened lease reply asked =>
    obtain ⟨hactivity, hnone⟩ := h.fresh lease asked
    have hother : ∀ other ∈ t.opening.erase lease, other.id ≠ lease.id := by
      intro other hmem hid
      have hne : other ≠ lease := fun heq => by
        subst heq
        exact (List.Nodup.of_map _ h.nodup).not_mem_erase hmem
      exact hne (List.inj_on_of_nodup_map h.nodup (List.mem_of_mem_erase hmem) asked hid)
    refine ⟨fun s hmem => ?_, fun other hmem => ⟨(h.fresh other (List.mem_of_mem_erase hmem)).1, ?_⟩, ?_⟩
    · change s ∈ (if reply = .yes then t.sessions.put (.new lease) else t.sessions).rows at hmem
      split at hmem
      · rcases Table.mem_put hmem with rfl | ⟨-, hmem⟩
        · exact .new hactivity
        · exact h.sessions s hmem
      · exact h.sessions s hmem
    · change (if reply = .yes then t.sessions.put (.new lease) else t.sessions).get other.id = none
      have hfresh := (h.fresh other (List.mem_of_mem_erase hmem)).2
      split
      · rw [Table.get_put_of_ne t.sessions (Session.new lease) (hother other hmem)]
        exact hfresh
      · exact hfresh
    · exact h.nodup.sublist (List.erase_sublist.map _)
  | @session s s' there step =>
    obtain ⟨hmem, -⟩ := Table.get_eq_some.1 there
    have hid := (Quiet.step step).id
    refine ⟨fun other hother => ?_, fun lease hlease => ⟨(h.fresh lease hlease).1, ?_⟩, h.nodup⟩
    · rcases Table.mem_put hother with rfl | ⟨-, hother⟩
      · exact (h.sessions s hmem).step step
      · exact h.sessions other hother
    · have hfresh := (h.fresh lease hlease).2
      change (t.sessions.put s').get lease.id = none
      rw [Table.get_put_of_ne _ _ fun heq => ?_]
      · exact hfresh
      · change lease.id = s'.lease.id at heq
        rw [heq, hid, there] at hfresh
        cases hfresh
  | @aborted instanceId kind =>
    refine ⟨fun s hmem => ?_, fun lease hlease => ⟨(h.fresh lease hlease).1, ?_⟩, h.nodup⟩
    · obtain ⟨s, hs, rfl⟩ := List.mem_map.1 hmem
      exact aborting_orderly (h.sessions s hs) instanceId kind
    · rw [get_abort, (h.fresh lease hlease).2]
      rfl

/-- A session that is there goes on. -/
theorem TrackerStep.quiet (h : TrackerInv t) (hstep : TrackerStep t t') {id : String} {s : Session}
    (hs : t.sessions.get id = some s) : ∃ s', t'.sessions.get id = some s' ∧ Quiet s s' := by
  cases hstep with
  | kept => exact ⟨s, hs, .refl s⟩
  | opening => exact ⟨s, hs, .refl s⟩
  | @opened lease reply asked =>
    refine ⟨s, ?_, .refl s⟩
    change (if reply = .yes then t.sessions.put (.new lease) else t.sessions).get id = some s
    split
    · rw [Table.get_put_of_ne _ _ fun heq => ?_]
      · exact hs
      · change id = lease.id at heq
        rw [heq, (h.fresh lease asked).2] at hs
        cases hs
    · exact hs
  | @session s₁ s₂ there step =>
    have hquiet := Quiet.step step
    change ∃ s', (t.sessions.put s₂).get id = some s' ∧ _
    rw [Table.get_put]
    split
    · next hid =>
      rw [hquiet.id] at hid
      subst hid
      cases there.symm.trans hs
      exact ⟨s₂, rfl, hquiet⟩
    · exact ⟨s, hs, .refl s⟩
  | @aborted instanceId kind =>
    refine ⟨Tracker.aborting instanceId kind s, ?_, ?_⟩
    · rw [get_abort, hs]
      rfl
    · unfold Tracker.aborting
      split
      · exact .abort s _
      · exact .refl s

end Steps

/-! ## Runs -/

theorem trackerInv_of_run {interval : Nat} {calls : List TrackerCall} {t : Tracker}
    (h : Machine.run Tracker.step (.new interval) calls = some t) : TrackerInv t ∧ t.activityTouchIntervalMs = interval := by
  refine Machine.run_inv' (I := fun t => TrackerInv t ∧ t.activityTouchIntervalMs = interval)
    ⟨.new interval, rfl⟩ (fun t call t' ht hstep => ?_) h
  have hcases := step_cases hstep
  refine ⟨ht.1.step hcases, ?_⟩
  rw [← ht.2]
  cases hcases <;> rfl

namespace Sample

/-- A connection is active, and is to be heard of again. -/
def connected : List TrackerCall :=
  [.opens "lease" "ws" .websocket 0, .opened "lease" .yes, .touch "lease" 500, .start "lease" 500 1, .answered "lease" 510 .yes,
    .goOn "lease", .heartbeat "lease"]

/-- The heartbeat finds the signal aborted, and the session closes its lease. -/
def ended : List TrackerCall :=
  [.start "lease" 2000 0, .start "lease" 2000 0, .answered "lease" 2010 .yes, .heartbeat "lease", .start "lease" 3000 0]

end Sample

/-- The session is aborted, and its lease has not been renewed since. -/
def Silenced (s : Session) (t : Tracker) : Prop :=
  ∃ s', t.sessions.get s.lease.id = some s' ∧ s'.aborted.isSome = true ∧ renewals s'.calls = renewals s.calls

theorem Silenced.step {s : Session} {t t' : Tracker} (h : Silenced s t) (ht : TrackerInv t) (hstep : TrackerStep t t') :
    Silenced s t' := by
  obtain ⟨s₁, hs₁, haborted, hrenewals⟩ := h
  obtain ⟨s₂, hs₂, hquiet⟩ := hstep.quiet ht hs₁
  exact ⟨s₂, hs₂, hquiet.aborted haborted, (hquiet.renewals haborted).trans hrenewals⟩

/-- From the moment a drain is admitted, no session that it concerns renews its lease any more. -/
theorem drained_sessions {interval : Nat} {before after : List TrackerCall} {instanceId : String} {mode : InstanceDrainMode}
    {t : Tracker} (h : Machine.run Tracker.step (.new interval) (before ++ .begun instanceId mode true :: after) = some t) :
    ∃ drained, Machine.run Tracker.step (.new interval) before = some drained ∧
      ∀ s ∈ drained.sessions.rows, Tracker.concerns instanceId (Tracker.aborted mode) s = true → Silenced s t := by
  rw [Machine.run_append] at h
  obtain ⟨drained, hbefore, hafter⟩ := Option.bind_eq_some_iff.1 h
  refine ⟨drained, hbefore, fun s hs hconcerns => ?_⟩
  have hinv := (trackerInv_of_run hbefore).1
  have hsilenced : Silenced s (drained.abort instanceId (Tracker.aborted mode)) := by
    refine ⟨s.abort .admission, ?_, by simp [Session.abort], rfl⟩
    rw [get_abort, Table.mem_iff.1 hs, Option.map_some, Tracker.aborting, if_pos hconcerns]
  exact (Machine.run_inv' (I := fun t => TrackerInv t ∧ Silenced s t) ⟨hinv.step .aborted, hsilenced⟩
    (fun t call t' ht hstep => ⟨ht.1.step (step_cases hstep), ht.2.step ht.1 (step_cases hstep)⟩) hafter).2

open Sample in
theorem drained_sessions_graceful : ∃ t drained,
    Machine.run Tracker.step (.new 1000) connected = some drained ∧
      (drained.sessions.rows.any fun s => Tracker.concerns "ws" (Tracker.aborted .graceful) s) = true ∧
      ∀ s ∈ drained.sessions.rows, Tracker.concerns "ws" (Tracker.aborted .graceful) s = true → Silenced s t := by
  obtain ⟨t, hrun, -⟩ : ∃ t,
      Machine.run Tracker.step (.new 1000) (connected ++ .begun "ws" .graceful true :: ended) = some t ∧ True :=
    exists_of_any (by decide +kernel)
  obtain ⟨drained, hbefore, hsilenced⟩ := drained_sessions hrun
  obtain ⟨drained', hbefore', hconcerned⟩ : ∃ drained, Machine.run Tracker.step (.new 1000) connected = some drained ∧
      (drained.sessions.rows.any fun s => Tracker.concerns "ws" (Tracker.aborted .graceful) s) = true :=
    exists_of_any (by decide +kernel)
  cases hbefore.symm.trans hbefore'
  exact ⟨t, drained, hbefore, hconcerned, hsilenced⟩

end OpenApp.Leases
