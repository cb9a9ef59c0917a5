import OpenApp.Operations.Execution

/-!
# The life of an operation

A running operation is reported on, may get past its commit point or be told to cancel, and ends. Each method of a
manager writes only what follows from the operation it has read, and a call that returns knows how it left it.
-/

namespace OpenApp.Execution

open Async Async.Prog Keyed
open Operations (AdminOperation AdminOperationStatus OperationFailure sameRequest)

variable {m : AdminOperationManager} {call : ExecutionCall} {current next operation : AdminOperation} {id : String}
  {tr : Exchanges}

/-! ## The life of an operation -/

/-- No commit point is reached from here. -/
def Doomed (operation : AdminOperation) : Prop :=
  operation.status.terminal = true ∨
    (operation.status = .running ∧ operation.stage = "cancelling" ∧ operation.cancellable = true)

/-- What may become of an operation. -/
structure Life (current next : AdminOperation) : Prop where
  live : current.status.terminal = false
  same : sameRequest current next = true
  onward : current.status = .running → next.status ≠ .queued
  cancellable : next.cancellable = true → current.cancellable = true
  doomed : Doomed current → Doomed next

theorem Life.sameId (h : Life current next) : next.id = current.id := by
  have hsame := h.same
  simp only [sameRequest, decide_eq_true_eq] at hsame
  exact hsame.1

theorem doomed_of_terminal (h : operation.status.terminal = true) : Doomed operation :=
  .inl h

theorem not_doomed_of_queued (h : operation.status = .queued) : ¬ Doomed operation := by
  rintro (hterminal | ⟨hrunning, -⟩)
  · rw [h] at hterminal
    cases hterminal
  · rw [h] at hrunning
    cases hrunning

theorem not_doomed_of_stage (h : operation.status = .running) (hstage : operation.stage ≠ "cancelling") :
    ¬ Doomed operation := by
  rintro (hterminal | ⟨-, hcancelling, -⟩)
  · rw [h] at hterminal
    cases hterminal
  · exact hstage hcancelling

theorem terminal_ne_queued (h : operation.status.terminal = true) : operation.status ≠ .queued := by
  intro hqueued
  rw [hqueued] at h
  cases h

/-- An operation may end from wherever it is. -/
theorem Life.of_terminal (live : current.status.terminal = false) (same : sameRequest current next = true)
    (cancellable : next.cancellable = true → current.cancellable = true) (hnext : next.status.terminal = true) :
    Life current next :=
  ⟨live, same, fun _ => terminal_ne_queued hnext, cancellable, fun _ => doomed_of_terminal hnext⟩

theorem live_of_queued (h : operation.status = .queued) : operation.status.terminal = false := by
  rw [h]
  rfl

theorem live_of_running (h : operation.status = .running) : operation.status.terminal = false := by
  rw [h]
  rfl

/-- A running operation goes on running. -/
theorem Life.of_running (h : current.status = .running) (hnext : next.status = .running)
    (same : sameRequest current next = true) (cancellable : next.cancellable = true → current.cancellable = true)
    (doomed : Doomed current → Doomed next) : Life current next where
  live := live_of_running h
  same := same
  onward := fun _ hqueued => by
    rw [hnext] at hqueued
    cases hqueued
  cancellable := cancellable
  doomed := doomed

theorem runningAt_life (h : operation.status = .queued) (now : String) :
    Life operation (AdminOperationManager.runningAt operation now) where
  live := live_of_queued h
  same := by simp [sameRequest, AdminOperationManager.runningAt]
  onward := fun _ hqueued => by cases hqueued
  cancellable := fun hcancellable => hcancellable
  doomed := fun hdoomed => absurd hdoomed (not_doomed_of_queued h)

theorem failedToStartAt_life (h : operation.status = .queued) (error now : String) :
    Life operation (AdminOperationManager.failedToStartAt operation error now) :=
  .of_terminal (live_of_queued h) (by simp [sameRequest, AdminOperationManager.failedToStartAt])
    (fun hcancellable => by cases hcancellable) rfl

theorem reportedAt_life (h : operation.status = .running) (hstage : operation.stage ≠ "cancelling") (progress : Option Int)
    (stage now : String) : Life operation (AdminOperationManager.reportedAt operation progress stage now) :=
  .of_running h h (by simp [sameRequest, AdminOperationManager.reportedAt]) (fun hcancellable => hcancellable)
    fun hdoomed => absurd hdoomed (not_doomed_of_stage h hstage)

theorem beatAt_life (h : operation.status = .running) (hstage : operation.stage ≠ "cancelling") (now : String) :
    Life operation (AdminOperationManager.beatAt operation now) :=
  .of_running h h (by simp [sameRequest, AdminOperationManager.beatAt]) (fun hcancellable => hcancellable)
    fun hdoomed => absurd hdoomed (not_doomed_of_stage h hstage)

theorem finalizingAt_life (h : operation.status = .running) (hstage : operation.stage ≠ "cancelling") (now : String) :
    Life operation (AdminOperationManager.finalizingAt operation now) :=
  .of_running h h (by simp [sameRequest, AdminOperationManager.finalizingAt]) (fun hcancellable => by cases hcancellable)
    fun hdoomed => absurd hdoomed (not_doomed_of_stage h hstage)

theorem endStatus_terminal (operation : AdminOperation) (aborted : Bool) (outcome : TaskEnd) :
    (AdminOperationManager.endStatus operation aborted outcome).terminal = true := by
  unfold AdminOperationManager.endStatus
  dsimp only
  split
  · rfl
  · cases outcome <;> rfl

theorem completedAt_life (h : operation.status = .running) (aborted : Bool) (outcome : TaskEnd) (now : String) :
    Life operation (m.completedAt operation aborted outcome now) :=
  .of_terminal (live_of_running h) (by simp [sameRequest, AdminOperationManager.completedAt])
    (fun hcancellable => hcancellable) (endStatus_terminal operation aborted outcome)

theorem cancelledAt_life (h : operation.status = .queued) (now : String) :
    Life operation (AdminOperationManager.cancelledAt operation now) :=
  .of_terminal (live_of_queued h) (by simp [sameRequest, AdminOperationManager.cancelledAt])
    (fun hcancellable => hcancellable) rfl

theorem cancellingAt_doomed (h : operation.status = .running) (hcancellable : operation.cancellable = true) (now : String) :
    Doomed (AdminOperationManager.cancellingAt operation now) :=
  .inr ⟨h, rfl, hcancellable⟩

theorem cancellingAt_life (h : operation.status = .running) (hcancellable : operation.cancellable = true) (now : String) :
    Life operation (AdminOperationManager.cancellingAt operation now) :=
  .of_running h h (by simp [sameRequest, AdminOperationManager.cancellingAt]) (fun hcancellable => hcancellable)
    fun _ => cancellingAt_doomed h hcancellable now

theorem interrupted_life (h : operation.status.terminal = false) (finishedAt : String) :
    Life operation (interrupted finishedAt operation) :=
  .of_terminal h (by simp [sameRequest, interrupted]) (fun hcancellable => by cases hcancellable) rfl

/-- What moves here is what the managers that retry expect to move. -/
theorem Life.transition {w : Operations.World} (h : Life current next) (hstored : w.operations.get next.id = some current) :
    w.perform .transition (.moved next) =
      some (.ok (), { w with operations := w.operations.put { next with revision := current.revision + 1 } }) := by
  simp [Operations.World.perform, Operations.World.told, hstored, h.live, h.same]

/-! ## What a call may write -/

/-- The call has read the operation. -/
def Read (id : String) (operation : AdminOperation) (tr : Exchanges) : Prop :=
  ⟨.getOperation id, .ok (some operation)⟩ ∈ tr

def ExecutionCall.target : ExecutionCall → String
  | .execute _ id | .report _ id _ _ _ | .commitPoint _ id _ | .touchHeartbeat _ id | .cancel _ id => id
  | .recoverInterrupted _ _ | .submit => ""

def ExecutionCall.commits : ExecutionCall → Bool
  | .commitPoint _ _ _ => true
  | _ => false

def ExecutionCall.cancels : ExecutionCall → Bool
  | .cancel _ _ => true
  | _ => false

structure Writes (call : ExecutionCall) (current next : AdminOperation) : Prop where
  life : Life current next
  commits : call.commits = true → next.cancellable = false ∧ ¬ Doomed current
  cancels : call.cancels = true → current.cancellable = true ∧ Doomed next

/-- Only an operation that was read is replaced, at the revision it was read at. -/
def ExecutionCall.Calls (call : ExecutionCall) (tr : Exchanges) : ExecutionOp → Prop
  | .compareAndSaveOperation next expectedRevision =>
    ∃ operation, Read call.target operation tr ∧ Writes call operation next ∧ expectedRevision = operation.revision
  | .pruneFinishedOperations _ | .recoverStaleOperations _ _ | .submit => call.cancels = false
  | _ => True

/-- The exchange shows the operation past its commit point. -/
inductive Passes (id : String) : Exchange ExecutionOp ExecutionOp.Answer OperationFailure → Prop
  | saved {next updated : AdminOperation} {expectedRevision : Nat} :
      Passes id ⟨.compareAndSaveOperation next expectedRevision, .ok (some updated)⟩
  | seen {operation : AdminOperation} (running : operation.status = .running) (kept : operation.cancellable = false)
      (stage : operation.stage = "finalizing") : Passes id ⟨.getOperation id, .ok (some operation)⟩

/-- The exchange shows the operation on its way to be cancelled. -/
inductive Cancels (id : String) : Exchange ExecutionOp ExecutionOp.Answer OperationFailure → Prop
  | saved {next updated : AdminOperation} {expectedRevision : Nat} :
      Cancels id ⟨.compareAndSaveOperation next expectedRevision, .ok (some updated)⟩
  | seen {operation : AdminOperation} (running : operation.status = .running) (stage : operation.stage = "cancelling")
      (cancellable : operation.cancellable = true) : Cancels id ⟨.getOperation id, .ok (some operation)⟩

/-- What a call that returns knows of its operation. -/
def ExecutionCall.Promises : ExecutionCall → Returned → Exchanges → Prop
  | .commitPoint _ id _, _, tr => ∃ x ∈ tr, Passes id x
  | .cancel _ id, .operation (some operation), tr => operation.status.terminal = true ∨ ∃ x ∈ tr, Cancels id x
  | _, _, _ => True

/-! ## The programs keep to it -/

/-- What is made sure of under the lock still holds when the lock was given back. -/
theorem wp_locked {α : Type} {G : Exchanges → ExecutionOp → Prop} {P : α → Exchanges → Prop} {p : ExecutionTask α}
    (hlock : ∀ tr manager id, G tr (.enter manager id) ∧ G tr (.leave manager id))
    (hP : ∀ a x tr, P a tr → P a (x :: tr)) (hp : ∀ tr, wp G p (OnOk P) tr) :
    wp G (m.withTransitionLock id p) (OnOk P) tr := by
  unfold AdminOperationManager.withTransitionLock
  refine wp_ask_seq (hlock _ _ _).1 fun _ => ?_
  refine (wp_bind _ _ _).2 ((wp_settle p _).2 (wp_post (hp _) fun r tr' hr => ?_))
  cases r with
  | ok a => exact wp_ask_seq (hlock _ _ _).2 fun _ => hP a _ tr' hr
  | error e => exact wp_ask_seq (hlock _ _ _).2 fun _ => trivial

theorem lock_calls (call : ExecutionCall) (tr : Exchanges) (manager : Nat) (id : String) :
    call.Calls tr (.enter manager id) ∧ call.Calls tr (.leave manager id) :=
  ⟨trivial, trivial⟩

theorem throw_calls {α : Type} {G : Exchanges → ExecutionOp → Prop} {P : α → Exchanges → Prop} (error : OperationFailure) :
    wp G (throw error : ExecutionTask α) (OnOk P) tr := trivial

theorem interrupt_calls {α : Type} {P : α → Exchanges → Prop} (controller : Nat) (message : String) :
    wp call.Calls (AdminOperationManager.interrupt controller message : ExecutionTask α) (OnOk P) tr := by
  unfold AdminOperationManager.interrupt
  exact wp_ask_seq trivial fun _ => trivial

theorem abortRegistered_calls : Always call.Calls (m.abortRegistered id) := by
  unfold AdminOperationManager.abortRegistered
  refine always_bind (always_await fun _ => trivial) fun controller => ?_
  cases controller with
  | some controller => exact always_await fun _ => trivial
  | none => exact always_pure _

theorem abortIfAny_calls (controller : Option Nat) : Always call.Calls (AdminOperationManager.abortIfAny controller) := by
  cases controller with
  | some controller => exact always_await fun _ => trivial
  | none => exact always_pure _

theorem wp_of_always {α : Type} {G : Exchanges → ExecutionOp → Prop} {p : ExecutionTask α} (h : Always G p) :
    wp G p (OnOk fun _ _ => True) tr :=
  wp_post (h tr) fun r _ _ => onOk_true r

theorem always_of_wp {α : Type} {G : Exchanges → ExecutionOp → Prop} {P : α → Exchanges → Prop} {p : ExecutionTask α}
    (h : ∀ tr, wp G p (OnOk P) tr) : Always G p :=
  fun tr => wp_post (h tr) fun _ _ _ => trivial

theorem known_after {α : Type} {G : Exchanges → ExecutionOp → Prop} {p : ExecutionTask α} (hp : Always G p)
    {x : Exchange ExecutionOp ExecutionOp.Answer OperationFailure} (hx : x ∈ tr) : wp G p (OnOk fun _ tr' => x ∈ tr') tr := by
  refine wp_post (wp_extends (hp tr)) fun r tr' h => ?_
  cases r with
  | ok a => exact h.2.mem hx
  | error e => trivial

/-- The rule for tries where only success is spoken of. -/
theorem wp_tries {α : Type} {G : Exchanges → ExecutionOp → Prop} {P : α → Exchanges → Prop}
    {attempt : ExecutionTask (Option α)} {exhausted : ExecutionTask α}
    (htry : ∀ tr, wp G attempt (OnOk fun r tr => ∀ a, r = some a → P a tr) tr) (hex : ∀ tr, wp G exhausted (OnOk P) tr)
    (n : Nat) : wp G (retry attempt exhausted n) (OnOk P) tr := by
  refine wp_retry (fun _ => True) (fun tr _ => wp_post (htry tr) fun r tr' hr => ?_) (fun tr _ => hex tr) n trivial
  rcases r with e | (_ | a)
  · trivial
  · trivial
  · exact hr a rfl

theorem Writes.plain (h : Life current next) (hcommits : call.commits = false) (hcancels : call.cancels = false) :
    Writes call current next where
  life := h
  commits := fun htrue => by
    rw [hcommits] at htrue
    cases htrue
  cancels := fun htrue => by
    rw [hcancels] at htrue
    cases htrue

theorem read_before {x : Exchange ExecutionOp ExecutionOp.Answer OperationFailure} :
    Read id operation (x :: ⟨.getOperation id, .ok (some operation)⟩ :: tr) :=
  List.mem_cons_of_mem _ List.mem_cons_self

theorem claim_calls (controller : Nat) : Always (ExecutionCall.execute m id).Calls (m.claim id controller) := by
  refine always_of_wp (P := fun _ _ => True) fun tr => ?_
  unfold AdminOperationManager.claim
  refine wp_locked (lock_calls _) (fun _ _ _ _ => trivial) fun tr' => ?_
  refine wp_ask_seq trivial fun current => ?_
  cases current with
  | none => trivial
  | some operation =>
    dsimp only
    split
    · trivial
    · next hqueued =>
      rw [not_not] at hqueued
      refine wp_ask_seq trivial fun now => ?_
      refine wp_ask_seq ⟨operation, read_before, .plain (runningAt_life hqueued now) rfl rfl, rfl⟩ fun updated => ?_
      cases updated with
      | none => trivial
      | some updated => exact wp_ask_seq trivial fun _ => trivial

theorem markStartFailure_calls (error : OperationFailure) :
    Always (ExecutionCall.execute m id).Calls (m.markStartFailure id error) := by
  unfold AdminOperationManager.markStartFailure
  refine always_tryCatch (always_of_wp (P := fun _ _ => True) fun tr => ?_) fun _ => always_pure _
  refine wp_locked (lock_calls _) (fun _ _ _ _ => trivial) fun tr' => ?_
  refine wp_ask_seq trivial fun current => ?_
  cases current with
  | none => trivial
  | some current =>
    dsimp only
    split
    · trivial
    · next hqueued =>
      rw [not_not] at hqueued
      refine wp_ask_seq trivial fun now => ?_
      exact wp_ask_seq ⟨current, read_before, .plain (failedToStartAt_life hqueued _ now) rfl rfl, rfl⟩ fun _ => trivial

theorem complete_calls (controller : Nat) (outcome : TaskEnd) :
    Always (ExecutionCall.execute m id).Calls (m.complete id controller outcome) := by
  refine always_of_wp (P := fun _ _ => True) fun tr => ?_
  unfold AdminOperationManager.complete
  refine wp_locked (lock_calls _) (fun _ _ _ _ => trivial) fun tr' => wp_tries (fun tr => ?_) (fun _ => throw_calls _) 10
  unfold AdminOperationManager.completeAttempt
  refine wp_ask_seq trivial fun current => ?_
  cases current with
  | none => exact fun _ _ => trivial
  | some current =>
    dsimp only
    split
    · exact fun _ _ => trivial
    · next hrunning =>
      rw [not_not] at hrunning
      refine wp_ask_seq trivial fun aborted => wp_ask_seq trivial fun now => ?_
      refine wp_ask_seq ⟨current, List.mem_cons_of_mem _ read_before,
        .plain (completedAt_life hrunning aborted outcome now) rfl rfl, rfl⟩ fun updated => ?_
      cases updated with
      | none => exact fun _ _ => trivial
      | some updated => exact fun _ _ => trivial

theorem forget_calls (unneeded : Bool) : Always call.Calls (m.forget id unneeded) := by
  unfold AdminOperationManager.forget
  split
  · exact always_await fun _ => trivial
  · exact always_pure _

theorem execute_calls : Always (ExecutionCall.execute m id).Calls (m.execute id) := by
  unfold AdminOperationManager.execute
  refine always_bind (always_await fun _ => trivial) fun controller => ?_
  refine always_bind (always_settle (claim_calls controller)) fun claimed => ?_
  rcases claimed with error | (_ | _)
  · exact markStartFailure_calls error
  · exact always_pure _
  · refine always_ensuring (always_tryCatch ?_ fun error => ?_) (always_await fun _ => trivial)
    · refine always_bind (always_await fun _ => trivial) fun outcome => ?_
      cases outcome with
      | returned => exact always_bind (complete_calls controller _) fun _ => forget_calls _
      | failed message => exact always_throw _
    · exact always_tryCatch (always_bind (complete_calls controller _) fun _ => forget_calls _) fun _ => always_pure _

theorem report_calls (controller : Nat) (progress : Option Int) (stage : String) :
    Always (ExecutionCall.report m id controller progress stage).Calls (m.report id controller progress stage) := by
  refine always_of_wp (P := fun _ _ => True) fun tr => ?_
  unfold AdminOperationManager.report
  refine wp_locked (lock_calls _) (fun _ _ _ _ => trivial) fun tr' => ?_
  refine wp_ask_seq trivial fun current => ?_
  cases current with
  | none => exact interrupt_calls _ _
  | some current =>
    dsimp only
    split
    · exact interrupt_calls _ _
    · next hrunning =>
      rw [not_not] at hrunning
      split
      · exact interrupt_calls _ _
      · next hstage =>
        refine wp_ask_seq trivial fun now => ?_
        refine wp_ask_seq ⟨current, read_before, .plain (reportedAt_life hrunning hstage progress stage now) rfl rfl, rfl⟩
          fun updated => ?_
        cases updated with
        | none => exact interrupt_calls _ _
        | some updated => trivial

theorem touchHeartbeat_calls : Always (ExecutionCall.touchHeartbeat m id).Calls (m.touchHeartbeat id) := by
  unfold AdminOperationManager.touchHeartbeat
  refine always_tryCatch (always_of_wp (P := fun _ _ => True) fun tr => ?_) fun _ => always_pure _
  refine wp_locked (lock_calls _) (fun _ _ _ _ => trivial) fun tr' => ?_
  refine wp_ask_seq trivial fun current => wp_ask_seq trivial fun controller => ?_
  cases current with
  | none => exact wp_of_always (abortIfAny_calls controller)
  | some current =>
    dsimp only
    split
    · exact wp_of_always (abortIfAny_calls controller)
    · next hlive =>
      rw [not_or, not_not] at hlive
      refine wp_ask_seq trivial fun now => ?_
      refine wp_ask_seq ⟨current, List.mem_cons_of_mem _ read_before, .plain (beatAt_life hlive.1 hlive.2 now) rfl rfl, rfl⟩
        fun updated => ?_
      cases updated with
      | none => exact wp_of_always (abortIfAny_calls controller)
      | some updated => trivial

theorem recoverInterrupted_calls (staleAfterMs : Nat) :
    Always (ExecutionCall.recoverInterrupted m staleAfterMs).Calls (m.recoverInterrupted staleAfterMs) := by
  unfold AdminOperationManager.recoverInterrupted
  refine always_bind (always_await fun _ => trivial) fun times => ?_
  refine always_bind (always_tryCatch ?_ fun _ => always_pure _) fun _ => ?_
  · exact always_bind (always_await fun _ => trivial) fun now => always_await fun _ => rfl
  · refine always_bind (always_await fun _ => rfl) fun recoveredIds => ?_
    refine always_bind (always_each fun id _ => ?_) fun _ => always_pure _
    exact always_bind abortRegistered_calls fun _ => always_await fun _ => trivial

/-- A commit point that resolves has seen or made its operation final. -/
theorem commitPoint_calls (controller : Nat) :
    wp (ExecutionCall.commitPoint m id controller).Calls (m.commitPoint id controller)
      (OnOk fun _ tr => ∃ x ∈ tr, Passes id x) tr := by
  unfold AdminOperationManager.commitPoint
  refine wp_locked (lock_calls _) ?_ fun tr' => wp_tries (fun tr => ?_) (fun _ => interrupt_calls _ _) 10
  · -- giving the lock back does not take away what is known
    rintro _ y tr ⟨x, hx, hpasses⟩
    exact ⟨x, List.mem_cons_of_mem y hx, hpasses⟩
  unfold AdminOperationManager.commitAttempt
  refine wp_ask_seq trivial fun current => wp_ask_seq trivial fun aborted => ?_
  split
  · exact interrupt_calls _ _
  next hnot =>
  cases current with
  | none => exact interrupt_calls _ _
  | some current =>
    have hstage : current.stage ≠ "cancelling" := fun h => hnot (.inr ⟨current, rfl, .inl h⟩)
    dsimp only
    split
    · exact interrupt_calls _ _
    next hrunning =>
    rw [not_not] at hrunning
    split
    · -- it was final already, by an attempt whose answer was lost or by another call of the task
      next hfinal => exact fun _ _ => ⟨_, read_before, .seen hrunning hfinal.1 hfinal.2⟩
    · refine wp_ask_seq trivial fun now => ?_
      have hwrites : Writes (.commitPoint m id controller) current (AdminOperationManager.finalizingAt current now) :=
        ⟨finalizingAt_life hrunning hstage now, fun _ => ⟨rfl, not_doomed_of_stage hrunning hstage⟩, fun h => by cases h⟩
      refine wp_ask_seq ⟨current, List.mem_cons_of_mem _ read_before, hwrites, rfl⟩ fun updated => ?_
      cases updated with
      | none =>
        intro _ h
        cases h
      | some updated => exact fun _ _ => ⟨_, List.mem_cons_self, .saved⟩

/-- What a cancellation knows of the operation it returns. -/
def Answered (id : String) (returned : Option AdminOperation) (tr : Exchanges) : Prop :=
  ∀ operation, returned = some operation → operation.status.terminal = true ∨ ∃ x ∈ tr, Cancels id x

theorem answered_of_cancels {x : Exchange ExecutionOp ExecutionOp.Answer OperationFailure} (hx : x ∈ tr) (h : Cancels id x)
    (returned : Option AdminOperation) : Answered id returned tr :=
  fun _ _ => .inr ⟨x, hx, h⟩

theorem saveCancellation_calls (hread : Read id operation tr) (hwrites : Writes (.cancel m id) operation next) :
    wp (ExecutionCall.cancel m id).Calls (m.saveCancellation id operation next)
      (OnOk fun r tr => ∀ a, r = some a → Answered id a tr) tr := by
  unfold AdminOperationManager.saveCancellation
  refine wp_ask_seq ⟨operation, hread, hwrites, rfl⟩ fun updated => ?_
  cases updated with
  | none =>
    intro _ h
    cases h
  | some updated =>
    refine wp_seq (known_after abortRegistered_calls List.mem_cons_self) fun _ tr' hx => ?_
    exact fun _ _ => answered_of_cancels hx .saved _

theorem cancel_calls : wp (ExecutionCall.cancel m id).Calls (m.cancel id) (OnOk (Answered id)) tr := by
  unfold AdminOperationManager.cancel
  refine wp_locked (lock_calls _) ?_ fun tr' => wp_tries (fun tr => ?_) (fun _ => throw_calls _) 5
  · intro returned y tr h operation hoperation
    refine (h operation hoperation).imp_right ?_
    rintro ⟨x, hx, hcancels⟩
    exact ⟨x, List.mem_cons_of_mem y hx, hcancels⟩
  unfold AdminOperationManager.cancelAttempt
  refine wp_ask_seq trivial fun current => ?_
  cases current with
  | none =>
    rintro _ ⟨⟩ operation h
    cases h
  | some operation =>
    dsimp only
    split
    · next hterminal =>
      rintro _ ⟨⟩ _ ⟨⟩
      exact .inl hterminal
    next hlive =>
    refine wp_throwIf_seq fun hcancellable => ?_
    rw [Bool.not_eq_false] at hcancellable
    split
    · next hqueued =>
      refine wp_ask_seq trivial fun now => saveCancellation_calls read_before ?_
      exact ⟨cancelledAt_life hqueued now, (fun h => by cases h), fun _ => ⟨hcancellable, doomed_of_terminal rfl⟩⟩
    next hqueued =>
    have hrunning : operation.status = .running := by
      cases hstatus : operation.status with
      | running => rfl
      | queued => exact absurd hstatus hqueued
      | succeeded | failed | cancelled =>
        rw [hstatus] at hlive
        exact absurd rfl hlive
    split
    · -- it is being cancelled already, and what was read says so
      next hstage =>
      refine wp_seq (known_after abortRegistered_calls List.mem_cons_self) fun _ tr' hx => ?_
      exact fun _ _ => answered_of_cancels hx (.seen hrunning hstage hcancellable) _
    · refine wp_ask_seq trivial fun now => saveCancellation_calls read_before ?_
      exact ⟨cancellingAt_life hrunning hcancellable now, (fun h => by cases h),
        fun _ => ⟨hcancellable, cancellingAt_doomed hrunning hcancellable now⟩⟩

/-- How a thread ends. -/
def RunEnds (call : ExecutionCall) : Except OperationFailure (ExecutionCall ⊕ Returned) → Exchanges → Prop
  | .ok (.inl next), _ => next = call
  | .ok (.inr returned), tr => call.Promises returned tr
  | .error _, _ => True

theorem ends_of_always {α : Type} {p : ExecutionTask α} {f : α → Returned} (hp : Always call.Calls p)
    (hcall : ∀ a tr, call.Promises (f a) tr) :
    wp call.Calls (Sum.inr <$> f <$> p : ExecutionTask (ExecutionCall ⊕ Returned)) (RunEnds call) tr := by
  rw [wp_map, wp_map]
  refine wp_post (hp tr) fun r tr' _ => ?_
  cases r with
  | ok a => exact hcall a tr'
  | error e => trivial

theorem body_ends {call : ExecutionCall} : wp call.Calls (executionSystem.body call) (RunEnds call) tr := by
  cases call with
  | execute m id => exact ends_of_always execute_calls fun _ _ => trivial
  | report m id controller progress stage => exact ends_of_always (report_calls controller progress stage) fun _ _ => trivial
  | touchHeartbeat m id => exact ends_of_always touchHeartbeat_calls fun _ _ => trivial
  | recoverInterrupted m staleAfterMs => exact ends_of_always (recoverInterrupted_calls staleAfterMs) fun _ _ => trivial
  | submit => exact ends_of_always (always_await fun _ => rfl) fun _ _ => trivial
  | commitPoint m id controller =>
    change wp _ (Sum.inr <$> (fun _ => Returned.nothing) <$> m.commitPoint id controller) _ _
    rw [wp_map, wp_map]
    refine wp_post (commitPoint_calls controller) fun r tr' hr => ?_
    cases r with
    | ok a => exact hr
    | error e => trivial
  | cancel m id =>
    change wp _ (Sum.inr <$> Returned.operation <$> m.cancel id) _ _
    rw [wp_map, wp_map]
    refine wp_post cancel_calls fun r tr' hr => ?_
    rcases r with e | (_ | operation)
    · trivial
    · trivial
    · exact hr operation rfl

end OpenApp.Execution
