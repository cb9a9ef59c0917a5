import OpenApp.Async.Solo
import OpenApp.Workspace.Rows

/-!
# Outcomes and the intents they belong to

A call's outcome, a result or a failure, belongs to the intent the call stored. It may change the
row only while the row still is that intent: its transaction, its generation, still in progress.
`#commitResult` compares the transaction and the generation, `#recordProviderFailure` the
transaction alone, and neither looks at the status. A transaction id comes from a key, so two
calls can share one; then the outcome of the one can overwrite what the other committed.
-/

namespace OpenApp

open Async

variable {m : Manager} {ι : Type} [DecidableEq ι] {w₀ w : World} {es : List (Event ι Op Op.Answer Failure World)}

/-- The writers of outcomes. -/
def Caller.isOutcome : Caller → Bool
  | .commitResult _ _ => true
  | .recordProviderFailure _ _ _ => true
  | _ => false

/-- The row has the transaction of the thread's intent. -/
def hasTransaction (tr : Exchanges) (row : WorkspaceExecutionProjection) : Bool :=
  (savedIntent tr).any fun (_, transactionId, _) => row.execution.transactionId = some transactionId

/-- The row has the generation of the thread's intent and is still in progress. -/
def inProgress (tr : Exchanges) (row : WorkspaceExecutionProjection) : Bool :=
  (savedIntent tr).any fun (_, _, intent) =>
    row.execution.desiredGeneration = intent.execution.desiredGeneration
      && row.execution.transactionStatus = .progressing

/-- An outcome that changes the row meets the intent of its own call, in progress. -/
def outcomeFenced (es : List (Event ι Op Op.Answer Failure World)) (e : Event ι Op Op.Answer Failure World) : Bool :=
  match e.toExchange with
  | ⟨.compareAndSaveWorkspaceExecution caller next _, .ok (some _)⟩ =>
    !caller.isOutcome || (e.before.store.get next.workspace.id).any fun stored =>
      hasTransaction (traceOf e.thread es) stored && inProgress (traceOf e.thread es) stored
  | _ => true

/-- A read for an outcome that finds the transaction of its call finds its intent, in progress. -/
def findsOwnIntent (es : List (Event ι Op Op.Answer Failure World)) (e : Event ι Op Op.Answer Failure World) : Bool :=
  match e.toExchange with
  | ⟨.getWorkspaceExecutionProjection caller _, .ok (some current)⟩ =>
    !caller.isOutcome || !hasTransaction (traceOf e.thread es) current || inProgress (traceOf e.thread es) current
  | _ => true

/-! ## What an outcome read -/

/-- A caller that writes an outcome read a row with the transaction of its own intent. -/
theorem outcome_transaction (h : History m w₀ es w) {t : ι} {caller : Caller}
    {id : String} {current next : WorkspaceExecutionProjection} (hctx : Context m id (traceOf t es) caller)
    (hout : caller.isOutcome = true) (hw : Writes m current next caller) :
    ∃ input transactionId intent, savedIntent (traceOf t es) = some (input, transactionId, intent) ∧
      id = input.workspaceId ∧ current.execution.transactionId = some transactionId := by
  cases caller with
  | commitResult input result =>
    obtain ⟨hid, transactionId, intent, binding, rest, hint, heff⟩ := hctx
    obtain ⟨_, htx⟩ := reconcile_echo h heff
    obtain ⟨_, hcur, _⟩ := hw
    exact ⟨input, transactionId, intent, hint, hid, htx ▸ hcur⟩
  | recordProviderFailure workspaceId transactionId error =>
    obtain ⟨hid, _, _, input, intent, hint, hws⟩ := hctx
    exact ⟨input, transactionId, intent, hint, hid.trans hws.symm, hw.2.1⟩
  | _ => cases hout

/-- By the time a caller writes an outcome, the row has been compared and saved. -/
theorem outcome_revision {t : ι} (h : History m w₀ es w) {input : WorkspaceExecutionReconcileInput}
    {transactionId : String} {intent current : WorkspaceExecutionProjection}
    (hint : savedIntent (traceOf t es) = some (input, transactionId, intent))
    (hcur : w.store.get input.workspaceId = some current) : 1 < current.execution.revision := by
  obtain ⟨hrow, q, hq, hfollow⟩ := savedIntent_stored h hint
  obtain rfl := Option.some.inj (hq.symm.trans hcur)
  exact Nat.lt_of_lt_of_le hrow.revision hfollow.revision

/-- An outcome that was saved: it read the row it replaced, and the row had its own transaction. -/
structure OutcomeSave (m : Manager) (w₀ : World) (es : List (Event ι Op Op.Answer Failure World)) (t : ι) (w : World)
    (caller : Caller) (next q current : WorkspaceExecutionProjection)
    (later earlier : List (Event ι Op Op.Answer Failure World)) (e : Event ι Op Op.Answer Failure World) : Prop where
  read : ReadAt es t caller current later earlier e
  history : History m w₀ earlier e.before
  context : Context m current.workspace.id (traceOf t earlier) caller
  writes : Writes m current next caller
  transaction : hasTransaction (traceOf t earlier) current = true
  replaced : w.store.get next.workspace.id = some current
  result : q = MemoryPersistence.saved current next

theorem outcome_saved {t : ι} {caller : Caller} {next q : WorkspaceExecutionProjection} {rev : Nat} {x : Choice}
    {w' : World} (h : History m w₀ es w)
    (hp : w.perform (.compareAndSaveWorkspaceExecution caller next rev) x = some (.ok (some q), w'))
    (hG : Issued m (traceOf t es) (.compareAndSaveWorkspaceExecution caller next rev))
    (hout : caller.isOutcome = true) :
    ∃ current later earlier e, OutcomeSave m w₀ es t w caller next q current later earlier e := by
  obtain ⟨current, stored, later, earlier, e, hsave⟩ := save_explained h hp hG
  obtain ⟨hearlier, _, _⟩ := (hsave.read.split ▸ h : History m w₀ (later ++ e :: earlier) w).suffix
  obtain ⟨input, transactionId, intent, hint, hid, htx⟩ :=
    outcome_transaction hearlier hsave.context hout hsave.writes
  have hrev := outcome_revision hearlier hint (hid ▸ hsave.read.stored)
  obtain rfl := hsave.stored_eq (.inl hrev)
  exact ⟨stored, later, earlier, e, hsave.read, hearlier, hsave.context, hsave.writes,
    by simp [hasTransaction, hint, htx], hsave.saves.found, hsave.saves.result⟩

theorem outcomes_fenced_of_history (h : History m w₀ es w)
    (hcond : Every (fun es e => findsOwnIntent es e = true) es) :
    Every (fun es e => outcomeFenced es e = true) es := by
  induction h with
  | start => trivial
  | @record es w w' t o x r h hp hG ih =>
    refine ⟨?_, ih hcond.2⟩
    change outcomeFenced es _ = true
    unfold outcomeFenced
    split
    · next caller next rev q hex =>
      obtain ⟨rfl, hr⟩ := Exchange.mk.inj hex
      obtain rfl := eq_of_heq hr
      cases hout : caller.isOutcome with
      | false => rfl
      | true =>
        obtain ⟨current, later, earlier, e, hsave⟩ := outcome_saved h hp hG hout
        -- the condition holds of the read the outcome rests on
        have hread := (hsave.read.split ▸ hcond.2 : Every _ (later ++ e :: earlier)).at
        simp only [findsOwnIntent, hsave.read.exchange, hout, hsave.read.thread, hsave.transaction, Bool.not_true,
          Bool.false_or] at hread
        have htr := hsave.transaction
        simp only [hasTransaction, inProgress, ← hsave.read.keeps.1] at htr hread
        simp only [Bool.not_true, Bool.false_or, hsave.replaced, Option.any_some, Bool.and_eq_true, hasTransaction,
          inProgress]
        exact ⟨htr, hread⟩
    · rfl

/-! ## Runs -/

end OpenApp
