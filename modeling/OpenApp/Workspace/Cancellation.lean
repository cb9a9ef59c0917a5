import OpenApp.Workspace.Fencing
import OpenApp.Workspace.Progress

/-!
# Cancelled calls

A cancelled call says nothing about the environment, so it should leave the transaction in
progress: the reconciler then finds the Workspace and a call with the same transaction can finish
it. `reconcile` spares a provider error of class `cancelled`. An abort that reaches its handler as
anything else, the plain reason of the signal or another error of a provider that was being
aborted, is recorded like any failure.
-/

namespace OpenApp

open Async

variable {m : Manager} {ι : Type} [DecidableEq ι] {w₀ w : World} {es : List (Event ι Op Op.Answer Failure World)}

/-- Which rows `WorkspaceExecutionReconciler` selects. -/
def needsReconciliation (p : WorkspaceExecutionProjection) : Bool :=
  if p.workspace.status ≠ .active ∨ p.execution.role ≠ .active then false
  else
    match p.execution.transactionStatus with
    | .failed | .inconsistent | .rolledBack => false
    | .requested | .progressing => true
    | .applied | .awaitingFirstStart =>
      if p.execution.desiredGeneration > p.execution.deployedGeneration then true
      else if p.execution.desiredState = .running then p.execution.observedState ≠ .running
      else p.execution.observedState ≠ .stopped && p.execution.observedState ≠ .absent

/-! ## How a call ended -/

def Op.signal : Op → Option AbortSignal
  | .throwIfAborted signal => signal
  | .resolveStorageBinding request => request.signal
  | .reconcile request => request.signal
  | _ => none

/-- The thread's last call on the outside. -/
def lastCall (t : ι) (es : List (Event ι Op Op.Answer Failure World)) : Option (Event ι Op Op.Answer Failure World) :=
  es.find? fun e => e.thread = t && !e.op.quiet

/-- The thread's last call failed after its signal had fired. -/
def aborted (t : ι) (es : List (Event ι Op Op.Answer Failure World)) : Bool :=
  (lastCall t es).any fun e => (failureOf e.toExchange).isSome && (e.before.reason e.op.signal).isSome

/-- The thread's last call failed with a cancellation. -/
def cancelled (t : ι) (es : List (Event ι Op Op.Answer Failure World)) : Bool :=
  (lastCall t es).any fun e => (failureOf e.toExchange).any Failure.isCancelled

/-- A failure recorded by a call that was aborted or cancelled meets no transaction in progress. -/
def cancellationKeeps (es : List (Event ι Op Op.Answer Failure World)) (e : Event ι Op Op.Answer Failure World) : Bool :=
  match e.toExchange with
  | ⟨.compareAndSaveWorkspaceExecution (.recordProviderFailure _ _ _) next _, .ok (some _)⟩ =>
    !(aborted e.thread es || cancelled e.thread es) || (e.before.store.get next.workspace.id).any fun stored =>
      stored.execution.transactionStatus ≠ .progressing
  | _ => true

/-- An aborted call that reads the row to record a failure does not find its transaction in progress. -/
def abortSpares (es : List (Event ι Op Op.Answer Failure World)) (e : Event ι Op Op.Answer Failure World) : Bool :=
  match e.toExchange with
  | ⟨.getWorkspaceExecutionProjection (.recordProviderFailure _ transactionId _) _, .ok (some current)⟩ =>
    !aborted e.thread es || !(current.workspace.status = .active
      && current.execution.transactionId = some transactionId && current.execution.transactionStatus = .progressing)
  | _ => true

theorem lastCall_effects (t : ι) (es : List (Event ι Op Op.Answer Failure World)) :
    (lastCall t es).map Event.toExchange = (effects (traceOf t es)).head? := by
  induction es with
  | nil => rfl
  | cons e es ih =>
    by_cases ht : e.thread = t
    · rw [traceOf_own ht]
      cases hq : e.op.quiet with
      | true => simpa [lastCall, List.find?_cons, ht, hq, effects] using ih
      | false => simp [lastCall, ht, hq, effects]
    · rw [traceOf_other ht]
      simpa [lastCall, List.find?_cons, ht] using ih

/-- Looking at the rows and the clock does not change what a thread last did. -/
theorem lastCall_append {t : ι} {later : List (Event ι Op Op.Answer Failure World)}
    (h : effects (traceOf t later) = []) : lastCall t (later ++ es) = lastCall t es := by
  have hnone : lastCall t later = none := by
    have := lastCall_effects t later
    rw [h] at this
    simpa using this
  simp only [lastCall] at hnone ⊢
  rw [List.find?_append, hnone, Option.none_or]

theorem ReadAt.lastCall {t : ι} {caller : Caller} {current : WorkspaceExecutionProjection}
    {later earlier : List (Event ι Op Op.Answer Failure World)} {e : Event ι Op Op.Answer Failure World}
    (h : ReadAt es t caller current later earlier e) : lastCall t es = OpenApp.lastCall t earlier := by
  have hlater : effects (traceOf t (later ++ [e])) = [] := by
    rw [traceOf_append, traceOf_own h.thread, h.exchange]
    rcases h.since with hs | ⟨r, hs⟩ <;> rw [hs] <;> rfl
  have hsplit : es = (later ++ [e]) ++ earlier := by
    rw [h.split, List.append_assoc, List.singleton_append]
  rw [hsplit, lastCall_append hlater]

/-- A call that was cancelled records no failure. -/
theorem not_cancelled {t : ι} {workspaceId transactionId id : String} {error : Failure}
    (h : Context m id (traceOf t es) (.recordProviderFailure workspaceId transactionId error)) :
    cancelled t es = false := by
  obtain ⟨_, hcan, hlast, _⟩ := h
  unfold cancelled
  cases hc : lastCall t es with
  | none => rfl
  | some e =>
    cases hf : failureOf e.toExchange with
    | none => simp [hf]
    | some e' =>
      have heff := lastCall_effects t es
      rw [hc, Option.map_some] at heff
      cases htr : effects (traceOf t es) with
      | nil => rw [htr] at heff; cases heff
      | cons x rest =>
        rw [htr] at heff
        obtain rfl := Option.some.inj heff
        rw [hlast _ _ _ htr hf] at hcan
        simp [hf, hcan]

theorem cancellation_keeps_of_history (h : History m w₀ es w)
    (hcond : Every (fun es e => abortSpares es e = true) es) :
    Every (fun es e => cancellationKeeps es e = true) es := by
  induction h with
  | start => trivial
  | @record es w w' t o x r h hp hG ih =>
    refine ⟨?_, ih hcond.2⟩
    change cancellationKeeps es _ = true
    unfold cancellationKeeps
    split
    · next workspaceId transactionId error next rev q hex =>
      obtain ⟨rfl, hr⟩ := Exchange.mk.inj hex
      obtain rfl := eq_of_heq hr
      obtain ⟨current, later, earlier, e, hsave⟩ := outcome_saved h hp hG rfl
      have hlast := hsave.read.lastCall
      have hcancelled : cancelled t es = false := by
        simpa only [cancelled, hlast] using not_cancelled hsave.context
      obtain ⟨hactive, htx, _⟩ := hsave.writes
      -- the row that is replaced is the row the failure was decided on
      have hread := (hsave.read.split ▸ hcond.2 : Every _ (later ++ e :: earlier)).at
      simp only [abortSpares, hsave.read.exchange, hsave.read.thread, aborted, ← hlast] at hread
      simp only [aborted, hcancelled, hsave.replaced, Option.any_some, Bool.or_false]
      simpa [hactive, htx] using hread
    · rfl

/-! ## Runs -/

theorem needsReconciliation_of_progressing {p : WorkspaceExecutionProjection} (hp : Projectable p)
    (hactive : p.workspace.status = .active) (hprog : p.execution.transactionStatus = .progressing) :
    needsReconciliation p = true := by
  have hrole := (hp.activeShape (by simp [hactive])).role
  simp [needsReconciliation, hactive, hrole, hprog]

/-- In every run in which no aborted call, when it is about to record a failure, reads its own
transaction in progress, a cancelled or aborted call records no failure over one; and from the
world the run leaves, a Workspace in progress is selected by the reconciler, and a call with its
transaction that is left alone finishes it. -/
theorem cancellation_keeps_transaction {calls : ι → Call} (hcalls : ∀ t, (calls t).fresh = true)
    {sched : List (ι × Choice)} {c : Config ι Op Op.Answer Failure World Call Returned}
    (hrun : exec (workspaceSystem m) (start (workspaceSystem m) w₀ calls) sched = some c)
    (hcond : Every (fun es e => abortSpares es e = true) c.events) :
    Every (fun es e => cancellationKeeps es e = true) c.events ∧
      ∀ t input transactionId p, c.prog t = (Call.reconcile input).body m → Admits m c.world input transactionId p →
        p.execution.transactionId = some transactionId → p.execution.transactionStatus = .progressing →
        needsReconciliation p = true ∧ ∃ (choices : List Choice) (c' : _) (q : _),
          exec (workspaceSystem m) c (choices.map fun x => (t, x)) = some c' ∧
          c'.prog t = .done (.inr (.projection q)) ∧ c'.world.store.get input.workspaceId = some q ∧
          Finished input transactionId p.execution.desiredGeneration q := by
  refine ⟨cancellation_keeps_of_history (history_of_run hcalls hrun) hcond, ?_⟩
  intro t input transactionId p hprog hadmits htx hstatus
  refine ⟨needsReconciliation_of_progressing (c.world.store.projectable _ _ hadmits.found) hadmits.active hstatus, ?_⟩
  obtain ⟨xs, q, w', hsolo, hget, hfinished⟩ := reconcile_finishes hadmits htx hstatus
  have hbody : solo (workspaceSystem m).perform (c.prog t) c.world xs =
      some (.ok (.inr (.projection q)), w', []) := by
    rw [hprog, Call.body]
    exact (solo_bind hsolo).trans rfl
  obtain ⟨c', hexec, rfl, hprog'⟩ := exec_solo _ hbody
  exact ⟨xs, c', q, hexec, by rw [hprog', Function.update_self]; rfl, hget, hfinished⟩

open Sample in
/-- The provider gives up as it is aborted; the row stays in progress and the same call, made again,
finishes it. -/
theorem cancellation_keeps_retry : ∃ c,
    exec (workspaceSystem manager) (start (workspaceSystem manager) (world [container .running])
      fun _ : Bool => .reconcile (input "v2" "image:2" .running true (some "retry") none))
      (thread true (toProvider ++ [.fails (.provider "aborted" .cancelled .reconcile none) true])) = some c ∧
    Every (fun es e => cancellationKeeps es e = true) c.events ∧
    ∃ (choices : List Choice) (c' : _) (q : _), exec (workspaceSystem manager) c (choices.map fun x => (false, x)) = some c' ∧
      c'.world.store.get "ws" = some q ∧ q.execution.transactionStatus = .applied := by
  obtain ⟨c, hrun, hcond, hrow⟩ : ∃ c, exec (workspaceSystem manager) (start (workspaceSystem manager)
      (world [container .running]) fun _ : Bool =>
        .reconcile (input "v2" "image:2" .running true (some "retry") none))
      (thread true (toProvider ++ [.fails (.provider "aborted" .cancelled .reconcile none) true])) = some c ∧
      (Every (fun es e => abortSpares es e = true) c.events ∧
        (c.world.store.get "ws").any (fun p => decide (p.workspace.status = .active ∧ p.workspace.ownerId = "user" ∧
          p.workspace.appId = "app" ∧ p.execution.transactionStatus = .progressing ∧
          p.execution.transactionId = some "15076fb1-bbfe-e1aa-0b27-be6344d5bfb1")) = true) :=
    exists_of_any (by decide +kernel)
  obtain ⟨p, hget, hactive, howner, happ, hstatus, htx⟩ := exists_of_any hrow
  obtain ⟨hkeeps, hlater⟩ := cancellation_keeps_transaction (fun _ => rfl) hrun hcond
  have hprog : c.prog false = (Call.reconcile (input "v2" "image:2" .running true (some "retry") none)).body manager :=
    exec_prog _ hrun (by decide)
  have hadmits : Admits manager c.world (input "v2" "image:2" .running true (some "retry") none)
      "15076fb1-bbfe-e1aa-0b27-be6344d5bfb1" p :=
    ⟨hget, hactive, howner, happ, rfl, rfl, rfl, rfl, "retry", rfl, rfl, by decide +kernel⟩
  obtain ⟨_, choices, c', q, hexec, _, hget', hfinished⟩ := hlater false _ _ p hprog hadmits htx hstatus
  exact ⟨c, hrun, hkeeps, choices, c', q, hexec, hget', hfinished.status⟩

open Sample in
/-- The signal fires while the provider works, the provider returns its result all the same, and
`throwIfAborted` raises the plain reason: the transaction is recorded as failed. -/
theorem abort_recorded_as_failure : ∃ c,
    exec (workspaceSystem manager) (start (workspaceSystem manager) (world [container .running])
      fun t : Bool => if t then .reconcile (input "v2" "image:2" .running true none (some 0))
        else .abort 0 (.other "AbortError"))
      (thread true (toProviderAs "tx") ++ thread false [.go] ++
        thread true [.reports .applied (execution "v2" "image:2" .running), .go, .go, .text time, .go]) = some c ∧
    (¬ Every (fun es e => cancellationKeeps es e = true) c.events ∧
      (c.world.store.get "ws").any (fun p => !needsReconciliation p) = true) :=
  exists_of_any (by decide +kernel)

end OpenApp
