import OpenApp.Async.Solo
import OpenApp.Operations.Manager

/-!
# The right to retry an operation

An operation that failed has a flag, and a retry takes it away before it starts anything. The lock keeps the retries of
one operation apart, so that the one that holds it knows the operation as it is stored.
-/

namespace OpenApp.Operations

open Async Async.Prog Keyed

/-! ## What a retry has done so far -/

inductive Stage
  /-- without the lock -/
  | outside
  | locked
  | seen (operation : AdminOperation)
  /-- the flag is cleared -/
  | taken (operation : AdminOperation)
  | created (operation : AdminOperation)
  | reread (operation latest : AdminOperation)
  | restored
  /-- a write failed that may have been done -/
  | unsure
  /-- what no world answers -/
  | impossible

def Stage.track : Stage → Exchange OperationOp OperationOp.Answer OperationFailure → Stage
  | _, ⟨.unlock _, _⟩ => .outside
  | .impossible, _ => .impossible
  | _, ⟨.lock _, .ok true⟩ => .locked
  | .locked, ⟨.getOperation _, .ok (some operation)⟩ => .seen operation
  | .taken operation, ⟨.getOperation _, .ok (some latest)⟩ => .reread operation latest
  | .taken _, ⟨.getOperation _, .ok none⟩ => .impossible
  | .seen operation, ⟨.compareAndSaveOperation _ _, .ok (some _)⟩ => .taken operation
  | .seen _, ⟨.compareAndSaveOperation _ _, .error _⟩ => .unsure
  | .reread _ _, ⟨.compareAndSaveOperation _ _, .ok (some _)⟩ => .restored
  | .reread _ _, ⟨.compareAndSaveOperation _ _, .ok none⟩ => .impossible
  | .reread _ _, ⟨.compareAndSaveOperation _ _, .error _⟩ => .unsure
  | .taken operation, ⟨.createOperation _, .ok (_, true)⟩ => .created operation
  | _, ⟨.createOperation _, .ok (_, false)⟩ => .impossible
  | _, ⟨.setRetryTask _ _ _, .error _⟩ => .impossible
  | _, ⟨.deleteRetryTask _ _, .error _⟩ => .impossible
  | _, ⟨.execute _ _ _, .error _⟩ => .impossible
  | s, _ => s

def stageOf : Exchanges → Stage
  | [] => .outside
  | x :: tr => (stageOf tr).track x

@[simp] theorem stageOf_nil : stageOf [] = .outside := rfl

@[simp] theorem stageOf_cons (x : Exchange OperationOp OperationOp.Answer OperationFailure) (tr : Exchanges) :
    stageOf (x :: tr) = (stageOf tr).track x := rfl

/-- The retry has the right that the flag stands for. -/
def Stage.claims : Stage → Bool
  | .seen operation | .taken operation | .created operation | .reread operation _ => operation.retryable
  | _ => false

/-- The retry has read the operation. -/
def Read (id : String) (operation : AdminOperation) (tr : Exchanges) : Prop :=
  ⟨.getOperation id, .ok (some operation)⟩ ∈ tr

def Drawn (id : String) (tr : Exchanges) : Prop :=
  ⟨.randomUUID, .ok id⟩ ∈ tr

/-! ## What a retry may call -/

/-- The flag of an operation is cleared, or restored, at the revision it was read at. -/
inductive Flags (tr : Exchanges) (next : AdminOperation) (expectedRevision : Nat) : Prop
  | clear {operation : AdminOperation} (stage : stageOf tr = .seen operation)
      (cleared : next = { operation with retryable := false }) (revision : expectedRevision = operation.revision)
  | restore {operation latest : AdminOperation} (stage : stageOf tr = .reread operation latest)
      (restored : next = { latest with retryable := operation.retryable }) (revision : expectedRevision = latest.revision)
  | impossible (stage : stageOf tr = .impossible)

/-- The operation is one that was started again, under an id of its own. -/
structure Restarts (id : String) (task : Option AdminOperationTask) (tr : Exchanges) (child : AdminOperation) : Prop where
  of : ∃ operation, Read id operation tr ∧ child.retryOf = some operation.id
  drawn : Drawn child.id tr
  unkeyed : child.idempotencyKey = none
  right : stageOf tr = .impossible ∨ ∃ operation, stageOf tr = .taken operation ∧ (task = none → operation.retryable = true)

def RetryCalls (id : String) (task : Option AdminOperationTask) (tr : Exchanges) : OperationOp → Prop
  | .lock id' => id' = id ∧ tr = []
  | .unlock id' => id' = id ∧ stageOf tr ≠ .outside
  | .getOperation id' => id' = id
  | .compareAndSaveOperation next expectedRevision =>
    (∃ operation, Read id operation tr ∧ next.id = operation.id) ∧ Flags tr next expectedRevision
  | .createOperation child => Restarts id task tr child
  | .transition => False
  | _ => True

/-- What a call that starts an operation may call. -/
def StartCalls (tr : Exchanges) : OperationOp → Prop
  | .createOperation operation => operation.retryOf = none ∧ Drawn operation.id tr
  | .lock _ | .unlock _ | .compareAndSaveOperation _ _ | .transition => False
  | _ => True

def OperationCall.Calls : OperationCall → Exchanges → OperationOp → Prop
  | .start _ _ _ _, tr, o => StartCalls tr o
  | .retry _ id task, tr, o => RetryCalls id task tr o
  | .executor, _, o => o = .transition

/-! ## The programs keep to it -/

/-- Why the flag of an operation may stay cleared when nothing was started: its manager does not have the closure, or
the store failed when the flag was cleared or given back. -/
inductive Forfeits (task : Option AdminOperationTask) (tr : Exchanges) : Prop
  | closure (manager : Nat) (id : String) (given : task = none) (forgotten : ⟨.retryTask manager id, .ok none⟩ ∈ tr)
  | write (next : AdminOperation) (expectedRevision : Nat) (error : OperationFailure)
      (failed : ⟨.compareAndSaveOperation next expectedRevision, .error error⟩ ∈ tr)
  | read (id : String) (next : AdminOperation) (expectedRevision : Nat) (saved : Option AdminOperation)
      (error : OperationFailure) (written : ⟨.compareAndSaveOperation next expectedRevision, .ok saved⟩ ∈ tr)
      (failed : ⟨.getOperation id, .error error⟩ ∈ tr)

theorem Forfeits.cons {task : Option AdminOperationTask} {tr : Exchanges} (h : Forfeits task tr)
    (x : Exchange OperationOp OperationOp.Answer OperationFailure) : Forfeits task (x :: tr) := by
  cases h with
  | closure manager id given forgotten => exact .closure manager id given (List.mem_cons_of_mem _ forgotten)
  | write next expectedRevision error failed => exact .write next expectedRevision error (List.mem_cons_of_mem _ failed)
  | read id next expectedRevision saved error written failed =>
    exact .read id next expectedRevision saved error (List.mem_cons_of_mem _ written) (List.mem_cons_of_mem _ failed)

/-- How a retry may stand when it gives the lock back. -/
def Over (task : Option AdminOperationTask) (tr : Exchanges) : Prop :=
  match stageOf tr with
  | .locked | .seen _ | .restored | .created _ | .impossible => True
  | .reread _ latest => latest.retryable = true
  | .taken _ | .unsure => Forfeits task tr
  | .outside => False

section Programs

variable {manager : Nat} {id : String} {task : Option AdminOperationTask} {tr : Exchanges}

theorem Drawn.cons {tr : Exchanges} (h : Drawn id tr) (x : Exchange OperationOp OperationOp.Answer OperationFailure) :
    Drawn id (x :: tr) :=
  List.mem_cons_of_mem _ h

/-- Starting an operation, with an invariant of the exchanges up to where the operation is stored. -/
theorem startNew_wp {G : Exchanges → OperationOp → Prop} {Q : Except OperationFailure AdminOperation → Exchanges → Prop}
    {I : Exchanges → Prop} {input : StartAdminOperation} {t : AdminOperationTask} {onExisting : Bool}
    (hnow : ∀ tr r, I tr → G tr .now ∧ I (⟨.now, r⟩ :: tr))
    (hid : ∀ tr r, I tr → G tr .randomUUID ∧ I (⟨.randomUUID, r⟩ :: tr))
    (hfail : ∀ tr e, I tr → Q (.error e) tr)
    (hcreate : ∀ tr createdAt id requestId, I tr → Drawn id tr →
      G tr (.createOperation (queuedOperation input createdAt id requestId)) ∧
        ∀ r, Then G (fun created => if created.2 = true then launch manager (queuedOperation input createdAt id requestId) t
            else existingOperation created.1 input onExisting) Q r
          (⟨.createOperation (queuedOperation input createdAt id requestId), r⟩ :: tr))
    (h : I tr) : wp G (startNew manager input t onExisting) Q tr := by
  unfold startNew
  rw [wp_bind, wp_await]
  refine ⟨(hnow tr (.error .conflict) h).1, fun r => ?_⟩
  have h₁ := (hnow tr r h).2
  cases r with
  | error e => exact hfail _ e h₁
  | ok createdAt =>
    rw [then_ok, wp_bind, wp_await]
    refine ⟨(hid _ (.error .conflict) h₁).1, fun r => ?_⟩
    have h₂ := (hid _ r h₁).2
    cases r with
    | error e => exact hfail _ e h₂
    | ok id =>
      have hdrawn : Drawn id (⟨.randomUUID, .ok id⟩ :: ⟨.now, .ok createdAt⟩ :: tr) := List.mem_cons_self
      rw [then_ok, wp_bind]
      unfold requestIdOf
      split
      · next requestId _ =>
        rw [wp_pure, then_ok, wp_bind, wp_await]
        exact hcreate _ createdAt id requestId h₂ hdrawn
      · rw [wp_await]
        refine ⟨(hid _ (.error .conflict) h₂).1, fun r => ?_⟩
        have h₃ := (hid _ r h₂).2
        cases r with
        | error e => exact hfail _ e h₃
        | ok requestId =>
          rw [then_ok, wp_bind, wp_await]
          exact hcreate _ createdAt id requestId h₃ (hdrawn.cons _)

theorem existingOperation_always {G : Exchanges → OperationOp → Prop} (h : ∀ tr, G tr .onExisting)
    (operation : AdminOperation) (input : StartAdminOperation) (onExisting : Bool) :
    Always G (existingOperation operation input onExisting) := by
  refine always_bind (always_throwIf _ _) fun _ => ?_
  split
  · exact always_bind (always_await h) fun _ => always_pure _
  · exact always_pure _

theorem launch_always {G : Exchanges → OperationOp → Prop} {operation : AdminOperation} {t : AdminOperationTask}
    (hset : ∀ tr, G tr (.setRetryTask manager operation.id t)) (hexecute : ∀ tr, G tr (.execute manager operation.id t)) :
    Always G (launch manager operation t) := by
  unfold launch
  split
  · exact always_bind (always_await hset) fun _ => always_bind (always_await hexecute) fun _ => always_pure _
  · exact always_bind (always_await hexecute) fun _ => always_pure _

theorem start_calls {input : StartAdminOperation} (hinput : input.retryOf = none) (t : AdminOperationTask)
    (onExisting : Bool) : wp StartCalls (start manager input t onExisting) (fun _ _ => True) tr := by
  have hexisting := fun operation => @existingOperation_always StartCalls (fun _ => trivial) operation input onExisting
  have hnew : ∀ tr, wp StartCalls (startNew manager input t onExisting) (fun _ _ => True) tr := by
    intro tr
    refine startNew_wp (I := fun _ => True) (fun _ _ _ => ⟨trivial, trivial⟩) (fun _ _ _ => ⟨trivial, trivial⟩)
      (fun _ _ _ => trivial) (fun tr createdAt id requestId _ hdrawn => ⟨⟨hinput, hdrawn⟩, fun r => ?_⟩) trivial
    cases r with
    | error e => trivial
    | ok created =>
      rw [then_ok]
      split
      · exact launch_always (fun _ => trivial) (fun _ => trivial) _
      · exact hexisting _ _
  unfold start
  split
  · rw [wp_bind, wp_await]
    refine ⟨trivial, fun r => ?_⟩
    cases r with
    | error e => trivial
    | ok existing =>
      rw [then_ok]
      cases existing with
      | some existing => exact hexisting existing _
      | none => exact hnew _
  · exact hnew tr

/-! ### A retry -/

/-- The retry has cleared the flag, and nothing else has come of it. -/
structure Taken (id : String) (operation : AdminOperation) (tr : Exchanges) : Prop where
  stage : stageOf tr = .taken operation
  read : Read id operation tr
  written : ∃ next expectedRevision saved, ⟨.compareAndSaveOperation next expectedRevision, .ok saved⟩ ∈ tr

theorem Taken.cons {operation : AdminOperation} (h : Taken id operation tr)
    {x : Exchange OperationOp OperationOp.Answer OperationFailure}
    (hx : (Stage.taken operation).track x = .taken operation) : Taken id operation (x :: tr) := by
  obtain ⟨hstage, hread, next, expectedRevision, saved, hwritten⟩ := h
  refine ⟨?_, List.mem_cons_of_mem _ hread, next, expectedRevision, saved, List.mem_cons_of_mem _ hwritten⟩
  rw [stageOf_cons, hstage, hx]

theorem giveBack_over {operation : AdminOperation} (h : Taken id operation tr ∨ stageOf tr = .impossible) :
    wp (RetryCalls id task) (giveBack id operation.retryable) (fun _ tr => Over task tr) tr := by
  unfold giveBack
  rw [wp_bind, wp_await]
  refine ⟨rfl, fun r => ?_⟩
  rcases h with htaken | himpossible
  · obtain ⟨hstage, -, next, expectedRevision, saved, hwritten⟩ := htaken
    rcases r with e | _ | latest
    · -- the flag stays cleared
      have hforfeits : Forfeits task (⟨.getOperation id, .error e⟩ :: tr) :=
        .read id next expectedRevision saved e (List.mem_cons_of_mem _ hwritten) List.mem_cons_self
      change Over task _
      rw [Over, stageOf_cons, hstage]
      exact hforfeits
    · change Over task _
      rw [Over, stageOf_cons, hstage]
      trivial
    · rw [then_ok]
      dsimp only
      split
      · next hretryable =>
        change Over task _
        rw [Over, stageOf_cons, hstage]
        exact hretryable
      · have hreread : stageOf (⟨.getOperation id, .ok (some latest)⟩ :: tr) = .reread operation latest := by
          rw [stageOf_cons, hstage]
          rfl
        rw [wp_bind, wp_await]
        refine ⟨⟨⟨latest, List.mem_cons_self, rfl⟩, .restore hreread rfl rfl⟩, fun r => ?_⟩
        rcases r with e | _ | saved
        · have hforfeits : Forfeits task (⟨.compareAndSaveOperation { latest with retryable := operation.retryable }
              latest.revision, .error e⟩ :: ⟨.getOperation id, .ok (some latest)⟩ :: tr) :=
            .write _ _ e List.mem_cons_self
          change Over task _
          rw [Over, stageOf_cons, hreread]
          exact hforfeits
        · change Over task _
          rw [Over, stageOf_cons, hreread]
          trivial
        · change Over task _
          rw [Over, stageOf_cons, hreread]
          trivial
  · have hstill : ∀ r, stageOf (⟨.getOperation id, r⟩ :: tr) = .impossible := fun r => by
      rw [stageOf_cons, himpossible]
      rfl
    rcases r with e | _ | latest
    · change Over task _
      rw [Over, hstill]
      trivial
    · change Over task _
      rw [Over, hstill]
      trivial
    · rw [then_ok]
      dsimp only
      split
      · change Over task _
        rw [Over, hstill]
        trivial
      · rw [wp_bind, wp_await]
        refine ⟨⟨⟨latest, List.mem_cons_self, rfl⟩, .impossible (hstill _)⟩, fun r => ?_⟩
        cases r <;>
        · change Over task _
          rw [Over, stageOf_cons, hstill]
          trivial

/-- How starting an operation again ends. -/
def Restarted (id : String) (operation : AdminOperation) :
    Except OperationFailure AdminOperation → Exchanges → Prop
  | .ok _, tr => stageOf tr = .created operation ∨ stageOf tr = .impossible
  | .error _, tr => Taken id operation tr ∨ stageOf tr = .impossible

/-- After the operation is stored, only what its manager remembers can fail. -/
theorem launch_restarted {operation child : AdminOperation} {t : AdminOperationTask}
    (h : stageOf tr = .created operation) :
    wp (RetryCalls id task) (launch manager child t) (Restarted id operation) tr := by
  have hexecute : ∀ tr, stageOf tr = .created operation →
      wp (RetryCalls id task) (ask (.execute manager child.id t) >>= fun _ => pure child) (Restarted id operation) tr := by
    intro tr h
    rw [wp_bind, wp_await]
    refine ⟨trivial, fun r => ?_⟩
    cases r with
    | error e => exact .inr (by rw [stageOf_cons, h]; rfl)
    | ok _ => exact .inl (by rw [stageOf_cons, h]; rfl)
  unfold launch
  split
  · rw [wp_bind, wp_await]
    refine ⟨trivial, fun r => ?_⟩
    cases r with
    | error e => exact .inr (by rw [stageOf_cons, h]; rfl)
    | ok _ => exact hexecute _ (by rw [stageOf_cons, h]; rfl)
  · exact hexecute tr h

theorem start_restarted {operation : AdminOperation} (t : AdminOperationTask)
    (hright : task = none → operation.retryable = true) (h : Taken id operation tr) :
    wp (RetryCalls id task) (start manager (retryInput operation) t false) (Restarted id operation) tr := by
  change wp _ (startNew manager (retryInput operation) t false) _ tr
  refine startNew_wp (I := Taken id operation) (fun _ r h => ⟨trivial, h.cons rfl⟩) (fun _ r h => ⟨trivial, h.cons rfl⟩)
    (fun _ _ h => .inl h) (fun tr createdAt childId requestId h hdrawn => ⟨?_, fun r => ?_⟩) h
  · exact ⟨⟨operation, h.read, rfl⟩, hdrawn, rfl, .inr ⟨operation, h.stage, hright⟩⟩
  · rcases r with e | ⟨existing, _ | _⟩
    · exact .inl (h.cons rfl)
    · -- without a key there is no operation of before
      have himpossible : stageOf (⟨.createOperation (queuedOperation (retryInput operation) createdAt childId requestId),
          .ok (existing, false)⟩ :: tr) = .impossible := by
        rw [stageOf_cons, h.stage]
        rfl
      rw [then_ok, if_neg Bool.false_ne_true]
      unfold existingOperation assertIdempotencyMatch
      rw [wp_bind, wp_throwIf]
      exact ⟨fun _ => .inr himpossible, fun _ => .inr himpossible⟩
    · rw [then_ok, if_pos rfl]
      refine launch_restarted ?_
      rw [stageOf_cons, h.stage]
      rfl

theorem startRetry_over {operation : AdminOperation} (t : AdminOperationTask)
    (hright : task = none → operation.retryable = true) (h : Taken id operation tr) :
    wp (RetryCalls id task) (guarded (startRetry manager operation t) (giveBack id operation.retryable))
      (fun _ tr => Over task tr) tr := by
  unfold guarded
  rw [wp_tryCatch]
  have hback : ∀ e tr, Taken id operation tr ∨ stageOf tr = .impossible →
      wp (RetryCalls id task) (giveBack id operation.retryable >>= fun _ => throw e)
        (fun (_ : Except OperationFailure AdminOperation) tr => Over task tr) tr := by
    intro e tr h
    rw [wp_bind]
    refine wp_post (giveBack_over h) fun r tr hover => ?_
    cases r with
    | error e => exact hover
    | ok _ => exact hover
  unfold startRetry
  rw [wp_bind]
  refine wp_post (start_restarted t hright h) fun r tr hr => ?_
  cases r with
  | error e => exact hback e tr hr
  | ok retried =>
    rw [then_ok, wp_bind, wp_await]
    refine ⟨trivial, fun r => ?_⟩
    rcases hr with hcreated | himpossible
    · cases r with
      | error e => exact hback e _ (.inr (by rw [stageOf_cons, hcreated]; rfl))
      | ok _ =>
        change Over task _
        rw [Over, stageOf_cons, hcreated]
        trivial
    · cases r with
      | error e => exact hback e _ (.inr (by rw [stageOf_cons, himpossible]; rfl))
      | ok _ =>
        change Over task _
        rw [Over, stageOf_cons, himpossible]
        trivial

theorem retryWith_over {operation : AdminOperation} {retryTask : Option AdminOperationTask}
    (hright : task = none → operation.retryable = true) (hstage : stageOf tr = .seen operation)
    (hread : Read id operation tr)
    (hnone : retryTask = none → Forfeits task tr) :
    wp (RetryCalls id task) (retryWith manager id operation retryTask) (fun _ tr => Over task tr) tr := by
  have hcalls : RetryCalls id task tr
      (.compareAndSaveOperation { operation with retryable := false } operation.revision) :=
    ⟨⟨operation, hread, rfl⟩, .clear hstage rfl rfl⟩
  have hfails : ∀ e, Over task (⟨.compareAndSaveOperation { operation with retryable := false } operation.revision,
      .error e⟩ :: tr) := by
    intro e
    have hforfeits : Forfeits task (⟨.compareAndSaveOperation { operation with retryable := false } operation.revision,
        .error e⟩ :: tr) := .write _ _ e List.mem_cons_self
    change Over task _
    rw [Over, stageOf_cons, hstage]
    exact hforfeits
  unfold retryWith takeRight
  cases retryTask with
  | none =>
    rw [wp_bind, wp_await]
    refine ⟨hcalls, fun r => ?_⟩
    rcases r with e | _ | saved
    · exact hfails e
    · change Over task _
      rw [Over, stageOf_cons, hstage]
      trivial
    · change Over task _
      rw [Over, stageOf_cons, hstage]
      exact (hnone rfl).cons _
  | some t =>
    rw [wp_bind, wp_await]
    refine ⟨hcalls, fun r => ?_⟩
    rcases r with e | _ | saved
    · exact hfails e
    · change Over task _
      rw [Over, stageOf_cons, hstage]
      trivial
    · refine startRetry_over t hright ⟨?_, List.mem_cons_of_mem _ hread, _, _, _, List.mem_cons_self⟩
      rw [stageOf_cons, hstage]
      rfl

theorem retryLocked_over (h : stageOf tr = .locked) :
    wp (RetryCalls id task) (retryLocked manager id task) (fun _ tr => Over task tr) tr := by
  unfold retryLocked
  rw [wp_bind, wp_await]
  refine ⟨rfl, fun r => ?_⟩
  rcases r with e | _ | operation
  · change Over task _
    rw [Over, stageOf_cons, h]
    trivial
  · change Over task _
    rw [Over, stageOf_cons, h]
    trivial
  · have hseen : stageOf (⟨.getOperation id, .ok (some operation)⟩ :: tr) = .seen operation := by
      rw [stageOf_cons, h]
      rfl
    have hover : Over task (⟨.getOperation id, .ok (some operation)⟩ :: tr) := by
      rw [Over, hseen]
      trivial
    have hread : Read id operation (⟨.getOperation id, .ok (some operation)⟩ :: tr) := List.mem_cons_self
    rw [then_ok]
    dsimp only
    rw [wp_bind, wp_throwIf]
    refine ⟨fun _ => hover, fun _ => ?_⟩
    rw [then_ok, wp_bind, wp_throwIf]
    refine ⟨fun _ => hover, fun hright => ?_⟩
    have hright : task = none → operation.retryable = true := by
      intro htask
      by_contra hretryable
      exact hright ⟨Bool.not_eq_true _ ▸ hretryable, htask⟩
    rw [then_ok, wp_bind]
    unfold taskFor
    split
    · next t => exact retryWith_over hright hseen hread (by rintro ⟨⟩)
    · rw [wp_await]
      refine ⟨trivial, fun r => ?_⟩
      cases r with
      | error e =>
        change Over _ _
        rw [Over, stageOf_cons, hseen]
        trivial
      | ok retryTask =>
        refine retryWith_over hright (by rw [stageOf_cons, hseen]; rfl) (List.mem_cons_of_mem _ hread) ?_
        rintro rfl
        exact .closure manager id rfl List.mem_cons_self

/-- How a retry ends that fails: it did not get the lock, or it has just given it back. -/
def Failed (id : String) (task : Option AdminOperationTask) : Except OperationFailure AdminOperation → Exchanges → Prop
  | .ok _, _ => True
  | .error _, tr => (∃ r, tr = [⟨.lock id, r⟩] ∧ stageOf tr = .outside) ∨
      ∃ r tr', tr = ⟨.unlock id, r⟩ :: tr' ∧ Over task tr'

theorem retry_failed : wp (RetryCalls id task) (retry manager id task) (Failed id task) [] := by
  unfold retry
  rw [wp_bind, wp_await]
  refine ⟨⟨rfl, rfl⟩, fun r => ?_⟩
  rcases r with e | _ | _
  · exact .inl ⟨.error e, rfl, rfl⟩
  · exact .inl ⟨.ok false, rfl, rfl⟩
  · rw [then_ok, if_pos rfl]
    unfold ensuring
    rw [wp_bind, wp_settle]
    refine wp_post (retryLocked_over rfl) fun result tr hover => ?_
    have hunlock : RetryCalls id task tr (.unlock id) := by
      refine ⟨rfl, fun houtside => ?_⟩
      rw [Over, houtside] at hover
      exact hover
    rw [then_ok]
    cases result with
    | ok retried =>
      dsimp only
      rw [wp_bind, wp_await]
      refine ⟨hunlock, fun r => ?_⟩
      cases r with
      | error e => exact .inr ⟨_, tr, rfl, hover⟩
      | ok _ => trivial
    | error e =>
      dsimp only
      rw [wp_bind, wp_await]
      refine ⟨hunlock, fun r => ?_⟩
      cases r with
      | error e => exact .inr ⟨_, tr, rfl, hover⟩
      | ok _ => exact .inr ⟨_, tr, rfl, hover⟩

end Programs

/-! ## What a call does to the operations and the locks -/

section World

variable {w w' : World} {x : OperationChoice} {id : String}

theorem perform_cases {o : OperationOp} {r : Except OperationFailure o.Answer} (h : w.perform o x = some (r, w')) :
    (∃ a w₁, w.stored o = some (a, w₁) ∧ ((r = .ok a ∧ w' = w₁) ∨ ((∃ e, r = .error e) ∧ (w' = w ∨ w' = w₁)))) ∨
      ∃ a, r = .ok a ∧ (w.remembered o = some (a, w') ∨ w.told o x = some (a, w')) := by
  cases x with
  | go =>
    obtain ⟨⟨a, w₁⟩, ha, heq⟩ := Option.map_eq_some_iff.1 h
    cases heq
    rcases Option.or_eq_some_iff.1 ha with hstored | ⟨-, hremembered⟩
    · exact .inl ⟨a, w₁, hstored, .inl ⟨rfl, rfl⟩⟩
    · exact .inr ⟨a, rfl, .inl hremembered⟩
  | fails e =>
    obtain ⟨⟨a, w₁⟩, ha, heq⟩ := Option.map_eq_some_iff.1 h
    cases heq
    exact .inl ⟨a, w₁, ha, .inr ⟨⟨e, rfl⟩, .inl rfl⟩⟩
  | lost e =>
    obtain ⟨⟨a, w₁⟩, ha, heq⟩ := Option.map_eq_some_iff.1 h
    cases heq
    exact .inl ⟨a, w₁, ha, .inr ⟨⟨e, rfl⟩, .inr rfl⟩⟩
  | text _ | busy | moved _ =>
    obtain ⟨⟨a, w₁⟩, ha, heq⟩ := Option.map_eq_some_iff.1 h
    cases heq
    exact .inr ⟨a, rfl, .inr ha⟩

/-- The lock is granted where it is free; otherwise at most a free one is lost. -/
theorem perform_lock {r : Except OperationFailure Bool} (h : w.perform (.lock id) x = some (r, w')) :
    w'.operations = w.operations ∧ (r = .ok true → id ∉ w.locked ∧ id ∈ w'.locked) ∧
      ∀ i ∈ w.locked, i ∈ w'.locked := by
  rcases perform_cases h with ⟨a, w₁, hstored, hends⟩ | ⟨a, rfl, hremembered | htold⟩
  · dsimp only [World.stored] at hstored
    split at hstored
    · cases hstored
    · next hfree =>
      cases hstored
      rcases hends with ⟨rfl, rfl⟩ | ⟨⟨e, rfl⟩, rfl | rfl⟩
      · exact ⟨rfl, fun _ => ⟨hfree, List.mem_cons_self⟩, fun i hi => List.mem_cons_of_mem _ hi⟩
      · refine ⟨rfl, ?_, fun i hi => hi⟩
        rintro ⟨⟩
      · refine ⟨rfl, ?_, fun i hi => List.mem_cons_of_mem _ hi⟩
        rintro ⟨⟩
  · cases hremembered
  · cases x with
    | busy =>
      cases htold
      refine ⟨rfl, ?_, fun i hi => hi⟩
      rintro ⟨⟩
    | _ => cases htold

theorem perform_unlock {r : Except OperationFailure Unit} (h : w.perform (.unlock id) x = some (r, w')) :
    w'.operations = w.operations ∧ ∀ i ∈ w.locked, i ≠ id → i ∈ w'.locked := by
  rcases perform_cases h with ⟨a, w₁, hstored, hends⟩ | ⟨a, rfl, hremembered | htold⟩
  · cases hstored
    have hothers : ∀ i ∈ w.locked, i ≠ id → i ∈ w.locked.filter (· ≠ id) := by
      intro i hi hne
      exact List.mem_filter.2 ⟨hi, decide_eq_true hne⟩
    rcases hends with ⟨rfl, rfl⟩ | ⟨-, rfl | rfl⟩
    · exact ⟨rfl, hothers⟩
    · exact ⟨rfl, fun i hi _ => hi⟩
    · exact ⟨rfl, hothers⟩
  · cases hremembered
  · cases x <;> cases htold

theorem perform_getOperation {r : Except OperationFailure (Option AdminOperation)}
    (h : w.perform (.getOperation id) x = some (r, w')) : w' = w ∧ ∀ a, r = .ok a → a = w.operations.get id := by
  rcases perform_cases h with ⟨a, w₁, hstored, hends⟩ | ⟨a, rfl, hremembered | htold⟩
  · cases hstored
    rcases hends with ⟨rfl, rfl⟩ | ⟨⟨e, rfl⟩, rfl | rfl⟩
    · refine ⟨rfl, ?_⟩
      rintro a ⟨⟩
      rfl
    · exact ⟨rfl, by rintro a ⟨⟩⟩
    · exact ⟨rfl, by rintro a ⟨⟩⟩
  · cases hremembered
  · cases x <;> cases htold

/-- A write at the revision the operation has is done unless it fails, any other one is not. -/
theorem perform_compareAndSave {next : AdminOperation} {expectedRevision : Nat}
    {r : Except OperationFailure (Option AdminOperation)}
    (h : w.perform (.compareAndSaveOperation next expectedRevision) x = some (r, w')) :
    w'.locked = w.locked ∧
      ((w'.operations = w.operations ∧ (∀ saved, r ≠ .ok (some saved)) ∧
          (r = .ok none → ∀ current, w.operations.get next.id = some current → current.revision ≠ expectedRevision)) ∨
        (w'.operations = w.operations.put { next with revision := expectedRevision + 1 } ∧
          (w.operations.get next.id).isSome = true ∧ r ≠ .ok none)) := by
  rcases perform_cases h with ⟨a, w₁, hstored, hends⟩ | ⟨a, rfl, hremembered | htold⟩
  · obtain ⟨rfl, rfl⟩ := Prod.mk.inj (Option.some.inj hstored)
    unfold OperationStore.compareAndSaveOperation at hends
    split at hends
    · next hget =>
      rcases hends with ⟨rfl, rfl⟩ | ⟨⟨e, rfl⟩, rfl | rfl⟩
      · refine ⟨rfl, .inl ⟨rfl, by simp, fun _ current hcurrent => ?_⟩⟩
        rw [hget] at hcurrent
        cases hcurrent
      · exact ⟨rfl, .inl ⟨rfl, by simp, by simp⟩⟩
      · exact ⟨rfl, .inl ⟨rfl, by simp, by simp⟩⟩
    · next current hget =>
      split at hends
      · next hrevision =>
        rcases hends with ⟨rfl, rfl⟩ | ⟨⟨e, rfl⟩, rfl | rfl⟩
        · refine ⟨rfl, .inl ⟨rfl, by simp, fun _ current' hcurrent => ?_⟩⟩
          obtain rfl := Option.some.inj (hget.symm.trans hcurrent)
          exact hrevision
        · exact ⟨rfl, .inl ⟨rfl, by simp, by simp⟩⟩
        · exact ⟨rfl, .inl ⟨rfl, by simp, by simp⟩⟩
      · rcases hends with ⟨rfl, rfl⟩ | ⟨⟨e, rfl⟩, rfl | rfl⟩
        · exact ⟨rfl, .inr ⟨rfl, by rw [hget]; rfl, by simp⟩⟩
        · exact ⟨rfl, .inl ⟨rfl, by simp, by simp⟩⟩
        · exact ⟨rfl, .inr ⟨rfl, by rw [hget]; rfl, by simp⟩⟩
  · cases hremembered
  · cases x <;> cases htold

/-- An operation without a key is stored unless the call fails. -/
theorem perform_createOperation {operation : AdminOperation} {r : Except OperationFailure (AdminOperation × Bool)}
    (h : w.perform (.createOperation operation) x = some (r, w')) :
    w'.locked = w.locked ∧ (w'.operations = w.operations ∨ w'.operations = w.operations.put operation) ∧
      (operation.idempotencyKey = none → ∀ existing, r ≠ .ok (existing, false)) ∧
      ∀ existing, r = .ok (existing, true) → w'.operations = w.operations.put operation := by
  rcases perform_cases h with ⟨a, w₁, hstored, hends⟩ | ⟨a, rfl, hremembered | htold⟩
  · obtain ⟨rfl, rfl⟩ := Prod.mk.inj (Option.some.inj hstored)
    unfold OperationStore.createOperation at hends
    split at hends
    · next existing hexisting =>
      have hkeyed : operation.idempotencyKey ≠ none := by
        intro hnone
        rw [hnone] at hexisting
        cases hexisting
      rcases hends with ⟨rfl, rfl⟩ | ⟨⟨e, rfl⟩, rfl | rfl⟩
      · exact ⟨rfl, .inl rfl, fun hnone => absurd hnone hkeyed, by simp⟩
      · exact ⟨rfl, .inl rfl, by simp, by simp⟩
      · exact ⟨rfl, .inl rfl, by simp, by simp⟩
    · rcases hends with ⟨rfl, rfl⟩ | ⟨⟨e, rfl⟩, rfl | rfl⟩
      · exact ⟨rfl, .inr rfl, by simp, fun _ _ => rfl⟩
      · exact ⟨rfl, .inl rfl, by simp, by simp⟩
      · exact ⟨rfl, .inr rfl, by simp, by simp⟩
  · cases hremembered
  · cases x <;> cases htold

/-- Only an operation that is not finished is moved on. -/
theorem perform_transition {r : Except OperationFailure Unit} (h : w.perform .transition x = some (r, w')) :
    w'.locked = w.locked ∧ ∃ (current next : AdminOperation), w.operations.get next.id = some current ∧
      current.status.terminal = false ∧ w'.operations = w.operations.put { next with revision := current.revision + 1 } := by
  rcases perform_cases h with ⟨a, w₁, hstored, hends⟩ | ⟨a, rfl, hremembered | htold⟩
  · cases hstored
  · cases hremembered
  · cases x with
    | moved next =>
      dsimp only [World.told] at htold
      split at htold
      · cases htold
      · next current hget =>
        split at htold
        · next hmoved =>
          cases htold
          exact ⟨rfl, current, next, hget, hmoved.1, rfl⟩
        · cases htold
    | _ => cases htold

/-- A call that neither writes an operation nor asks for a lock. -/
def OperationOp.Quiet : OperationOp → Prop
  | .createOperation _ | .compareAndSaveOperation _ _ | .lock _ | .unlock _ | .transition | .getOperation _ => False
  | _ => True

theorem perform_quiet {o : OperationOp} {r : Except OperationFailure o.Answer} (ho : o.Quiet)
    (h : w.perform o x = some (r, w')) : w'.operations = w.operations ∧ w'.locked = w.locked := by
  rcases perform_cases h with ⟨a, w₁, hstored, hends⟩ | ⟨a, rfl, hremembered | htold⟩
  · have hw₁ : w₁ = w := by
      cases o with
      | findOperationByIdempotencyKey _ _ | onExisting =>
        cases hstored
        rfl
      | now | randomUUID | retryTask _ _ | setRetryTask _ _ _ | deleteRetryTask _ _ | execute _ _ _ => cases hstored
      | _ => cases ho
    subst hw₁
    rcases hends with ⟨-, rfl⟩ | ⟨-, rfl | rfl⟩
    · exact ⟨rfl, rfl⟩
    · exact ⟨rfl, rfl⟩
    · exact ⟨rfl, rfl⟩
  · cases o with
    | retryTask _ _ | setRetryTask _ _ _ | deleteRetryTask _ _ | execute _ _ _ =>
      cases hremembered
      exact ⟨rfl, rfl⟩
    | now | randomUUID | findOperationByIdempotencyKey _ _ | onExisting => cases hremembered
    | _ => cases ho
  · cases o with
    | now =>
      cases x <;> cases htold
      exact ⟨rfl, rfl⟩
    | randomUUID =>
      cases x with
      | text value =>
        dsimp only [World.told] at htold
        split at htold
        · cases htold
        · cases htold
          exact ⟨rfl, rfl⟩
      | _ => cases htold
    | findOperationByIdempotencyKey _ _ | onExisting | retryTask _ _ | setRetryTask _ _ _ | deleteRetryTask _ _
    | execute _ _ _ => cases x <;> cases htold
    | _ => cases ho

/-- What a manager remembers does not fail. -/
theorem perform_remembered {o : OperationOp} {r : Except OperationFailure o.Answer} (ho : (w.stored o) = none)
    (h : w.perform o x = some (r, w')) : ∃ a, r = .ok a := by
  rcases perform_cases h with ⟨a, w₁, hstored, -⟩ | ⟨a, rfl, -⟩
  · rw [ho] at hstored
    cases hstored
  · exact ⟨a, rfl⟩

theorem perform_randomUUID {value : String} (h : w.perform .randomUUID x = some (.ok value, w')) :
    w.operations.get value = none := by
  rcases perform_cases h with ⟨a, w₁, hstored, -⟩ | ⟨a, hok, hremembered | htold⟩
  · cases hstored
  · cases hremembered
  · obtain rfl := Except.ok.inj hok
    cases x with
    | text _ =>
      dsimp only [World.told] at htold
      split at htold
      · cases htold
      · next hfresh =>
        cases htold
        exact Option.not_isSome_iff_eq_none.1 fun hsome => hfresh (.inr hsome)
    | _ => cases htold

end World

/-! ## The lock holder knows the operation -/

abbrev OperationEvent (ι : Type) := Event ι OperationOp OperationOp.Answer OperationFailure World

section Runs

variable {ι : Type} [DecidableEq ι] {calls : ι → OperationCall} {id : String} {w₀ w w' : World} {x : OperationChoice}
  {es : List (OperationEvent ι)} {t : ι} {tr : Exchanges} {task : Option AdminOperationTask} {s : Stage} {flag : Bool}

/-- The thread retries this operation. -/
def Retries (calls : ι → OperationCall) (id : String) (t : ι) : Prop :=
  ∃ manager task, calls t = .retry manager id task

def flagOf (id : String) (w : World) : Option Bool :=
  (w.operations.get id).map (·.retryable)

/-- What the one that holds the lock knows, where the flag was this when it got it. -/
def Stage.Agrees (id : String) (flag : Bool) (w : World) : Stage → Prop
  | .outside | .unsure => True
  | .locked | .restored => flagOf id w = some flag
  | .seen operation => w.operations.get id = some operation ∧ operation.retryable = flag
  | .taken operation | .created operation =>
    w.operations.get id = some { operation with retryable := false, revision := operation.revision + 1 } ∧
      operation.retryable = flag
  | .reread operation latest =>
    w.operations.get id = some latest ∧ latest.retryable = false ∧ operation.retryable = flag
  | .impossible => False

theorem flagOf_congr (h : w'.operations.get id = w.operations.get id) : flagOf id w' = flagOf id w := by
  rw [flagOf, h, flagOf]

theorem Stage.Agrees.congr (h : s.Agrees id flag w) (hrow : w'.operations.get id = w.operations.get id) :
    s.Agrees id flag w' := by
  cases s with
  | locked | restored => exact (flagOf_congr hrow).trans h
  | seen operation => exact ⟨hrow.trans h.1, h.2⟩
  | taken operation | created operation => exact ⟨hrow.trans h.1, h.2⟩
  | reread operation latest => exact ⟨hrow.trans h.1, h.2⟩
  | outside | unsure => trivial
  | impossible => exact h

/-- A call that leaves the operations alone is no step of the retry. -/
theorem Stage.track_quiet {o : OperationOp} {r : Except OperationFailure o.Answer} (ho : o.Quiet)
    (h : w.perform o x = some (r, w')) : s.track ⟨o, r⟩ = s := by
  cases o with
  | setRetryTask _ _ _ | deleteRetryTask _ _ | execute _ _ _ =>
    obtain ⟨a, rfl⟩ := perform_remembered rfl h
    cases s <;> rfl
  | now | randomUUID | findOperationByIdempotencyKey _ _ | retryTask _ _ | onExisting => cases s <;> rfl
  | _ => cases ho

/-- The row after the flag was written. -/
theorem get_written {next row : AdminOperation} {expectedRevision : Nat}
    (hwritten : w'.operations = w.operations.put { next with revision := expectedRevision + 1 })
    (hrow : w.operations.get id = some row) (hid : next.id = row.id) :
    w'.operations.get id = some { next with revision := expectedRevision + 1 } := by
  have hkey : id = next.id := (Table.key_of_get hrow).symm.trans hid.symm
  rw [hwritten, hkey]
  exact Table.get_put_self w.operations { next with revision := expectedRevision + 1 }

theorem agrees_compareAndSave {next : AdminOperation} {expectedRevision : Nat}
    {r : Except OperationFailure (Option AdminOperation)} (hs : (stageOf tr).Agrees id flag w)
    (hflags : Flags tr next expectedRevision)
    (h : w.perform (.compareAndSaveOperation next expectedRevision) x = some (r, w')) :
    ((stageOf tr).track ⟨.compareAndSaveOperation next expectedRevision, r⟩).Agrees id flag w' := by
  obtain ⟨-, ⟨-, hunsaved, hrevision⟩ | ⟨hwritten, -, hsaved⟩⟩ := perform_compareAndSave h
  · -- it was not written: the call has failed
    cases hflags with
    | clear stage cleared revision =>
      rw [stage] at hs ⊢
      rcases r with e | _ | saved
      · trivial
      · subst cleared
        have hkey := Table.key_of_get hs.1
        exact absurd revision.symm (hrevision rfl _ (hkey ▸ hs.1))
      · exact absurd rfl (hunsaved saved)
    | restore stage restored revision =>
      rw [stage] at hs ⊢
      rcases r with e | _ | saved
      · trivial
      · subst restored
        have hkey := Table.key_of_get hs.1
        exact absurd revision.symm (hrevision rfl _ (hkey ▸ hs.1))
      · exact absurd rfl (hunsaved saved)
    | impossible stage =>
      rw [stage] at hs
      exact hs.elim
  · cases hflags with
    | clear stage cleared revision =>
      rw [stage] at hs ⊢
      rcases r with e | _ | saved
      · trivial
      · exact absurd rfl hsaved
      · subst cleared revision
        exact ⟨get_written hwritten hs.1 rfl, hs.2⟩
    | restore stage restored revision =>
      rw [stage] at hs ⊢
      rcases r with e | _ | saved
      · trivial
      · exact absurd rfl hsaved
      · subst restored revision
        change flagOf id w' = some flag
        rw [flagOf, get_written hwritten hs.1 rfl, Option.map_some, hs.2.2]
    | impossible stage =>
      rw [stage] at hs
      exact hs.elim

theorem agrees_getOperation {r : Except OperationFailure (Option AdminOperation)} (hs : s.Agrees id flag w)
    (h : w.perform (.getOperation id) x = some (r, w')) : (s.track ⟨.getOperation id, r⟩).Agrees id flag w' := by
  obtain ⟨rfl, hread⟩ := perform_getOperation h
  cases s with
  | locked =>
    rcases r with e | _ | operation
    · exact hs
    · exact hs
    · have hget := (hread _ rfl).symm
      have hflag : flagOf id w' = some flag := hs
      rw [flagOf, hget] at hflag
      exact ⟨hget, Option.some.inj hflag⟩
  | taken operation =>
    rcases r with e | _ | latest
    · exact hs
    · have hnone := (hread _ rfl).symm
      rw [hs.1] at hnone
      cases hnone
    · have hget := (hread _ rfl).symm
      obtain rfl := Option.some.inj (hget.symm.trans hs.1)
      exact ⟨hget, rfl, hs.2⟩
  | _ => cases r <;> exact hs

theorem agrees_quiet {o : OperationOp} {r : Except OperationFailure o.Answer} (hs : s.Agrees id flag w) (ho : o.Quiet)
    (h : w.perform o x = some (r, w')) : (s.track ⟨o, r⟩).Agrees id flag w' := by
  rw [Stage.track_quiet ho h]
  exact hs.congr (by rw [(perform_quiet ho h).1])

/-- The operation of a retry is no operation that is started. -/
theorem get_created {child : AdminOperation} {r : Except OperationFailure (AdminOperation × Bool)} (hne : child.id ≠ id)
    (h : w.perform (.createOperation child) x = some (r, w')) : w'.operations.get id = w.operations.get id := by
  rcases (perform_createOperation h).2.1 with hsame | hput
  · rw [hsame]
  · rw [hput]
    exact Table.get_put_of_ne _ _ (Ne.symm hne)

theorem agrees_createOperation {child : AdminOperation} {r : Except OperationFailure (AdminOperation × Bool)}
    (hs : (stageOf tr).Agrees id flag w) (hrestarts : Restarts id task tr child) (hne : child.id ≠ id)
    (h : w.perform (.createOperation child) x = some (r, w')) :
    ((stageOf tr).track ⟨.createOperation child, r⟩).Agrees id flag w' := by
  have hrow := get_created hne h
  rcases hrestarts.right with himpossible | ⟨operation, hstage, -⟩
  · rw [himpossible] at hs
    exact hs.elim
  · rw [hstage] at hs ⊢
    rcases r with e | ⟨existing, _ | _⟩
    · exact hs.congr hrow
    · exact absurd rfl ((perform_createOperation h).2.2.1 hrestarts.unkeyed existing)
    · exact hs.congr hrow

/-- Whatever the lock holder calls, it goes on knowing the operation. -/
theorem agrees_own {o : OperationOp} {r : Except OperationFailure o.Answer} (hs : (stageOf tr).Agrees id flag w)
    (hheld : stageOf tr ≠ .outside) (hdrawn : ∀ v, Drawn v tr → v ≠ id) (hcalls : RetryCalls id task tr o)
    (h : w.perform o x = some (r, w')) : ((stageOf tr).track ⟨o, r⟩).Agrees id flag w' := by
  cases o with
  | lock id' =>
    obtain ⟨-, rfl⟩ := hcalls
    exact absurd rfl hheld
  | unlock id' => cases stageOf tr <;> trivial
  | getOperation id' =>
    obtain rfl := hcalls
    exact agrees_getOperation hs h
  | compareAndSaveOperation next expectedRevision => exact agrees_compareAndSave hs hcalls.2 h
  | createOperation child => exact agrees_createOperation hs hcalls (hdrawn _ hcalls.drawn) h
  | transition => exact hcalls.elim
  | _ => exact agrees_quiet hs (by trivial) h

/-! ### Who else may touch it -/

/-- A call that neither the operation nor its lock is touched by. -/
def Untouched (id : String) (w w' : World) : Prop :=
  w'.operations.get id = w.operations.get id ∧ (id ∈ w.locked → id ∈ w'.locked)

theorem untouched_quiet {o : OperationOp} {r : Except OperationFailure o.Answer} (ho : o.Quiet)
    (h : w.perform o x = some (r, w')) : Untouched id w w' := by
  obtain ⟨hoperations, hlocked⟩ := perform_quiet ho h
  exact ⟨by rw [hoperations], by rw [hlocked]; exact fun hmem => hmem⟩

theorem untouched_created {child : AdminOperation} {r : Except OperationFailure (AdminOperation × Bool)}
    (hne : child.id ≠ id) (h : w.perform (.createOperation child) x = some (r, w')) : Untouched id w w' :=
  ⟨get_created hne h, by rw [(perform_createOperation h).1]; exact fun hmem => hmem⟩

theorem untouched_getOperation {id' : String} {r : Except OperationFailure (Option AdminOperation)}
    (h : w.perform (.getOperation id') x = some (r, w')) : Untouched id w w' := by
  obtain ⟨rfl, -⟩ := perform_getOperation h
  exact ⟨rfl, fun hmem => hmem⟩

theorem untouched_lock {id' : String} {r : Except OperationFailure Bool} (h : w.perform (.lock id') x = some (r, w')) :
    Untouched id w w' := by
  obtain ⟨hoperations, -, hlocked⟩ := perform_lock h
  exact ⟨by rw [hoperations], hlocked id⟩

omit [DecidableEq ι] in
/-- A thread that does not retry the operation does not touch it. -/
theorem untouched_other {o : OperationOp} {r : Except OperationFailure o.Answer} (hother : ¬ Retries calls id t)
    (hcalls : (calls t).Calls tr o) (hread : ∀ i operation, Read i operation tr → operation.id = i)
    (hdrawn : ∀ v, Drawn v tr → v ≠ id)
    (hrow : ∃ row, w.operations.get id = some row ∧ row.status.terminal = true)
    (h : w.perform o x = some (r, w')) : Untouched id w w' := by
  cases hcall : calls t with
  | start manager input task onExisting =>
    rw [hcall] at hcalls
    cases o with
    | createOperation operation => exact untouched_created (hdrawn _ hcalls.2) h
    | lock _ | unlock _ | compareAndSaveOperation _ _ | transition => exact hcalls.elim
    | getOperation _ => exact untouched_getOperation h
    | _ => exact untouched_quiet (by trivial) h
  | retry manager id' task =>
    rw [hcall] at hcalls
    have hne : id' ≠ id := by
      rintro rfl
      exact hother ⟨manager, task, hcall⟩
    cases o with
    | lock _ => exact untouched_lock h
    | unlock _ =>
      obtain ⟨rfl, -⟩ := hcalls
      obtain ⟨hoperations, hlocked⟩ := perform_unlock h
      exact ⟨by rw [hoperations], fun hmem => hlocked id hmem (Ne.symm hne)⟩
    | getOperation _ => exact untouched_getOperation h
    | compareAndSaveOperation next expectedRevision =>
      obtain ⟨⟨operation, hoperation, hid⟩, -⟩ := hcalls
      have hkey : id ≠ next.id := by
        rw [hid, hread _ _ hoperation]
        exact Ne.symm hne
      obtain ⟨hlocked, ⟨hsame, -⟩ | ⟨hput, -⟩⟩ := perform_compareAndSave h
      · exact ⟨by rw [hsame], by rw [hlocked]; exact fun hmem => hmem⟩
      · refine ⟨?_, by rw [hlocked]; exact fun hmem => hmem⟩
        rw [hput]
        exact Table.get_put_of_ne _ _ hkey
    | createOperation child => exact untouched_created (hdrawn _ hcalls.drawn) h
    | transition => exact hcalls.elim
    | _ => exact untouched_quiet (by trivial) h
  | executor =>
    rw [hcall] at hcalls
    obtain rfl : o = .transition := hcalls
    obtain ⟨hlocked, current, next, hget, hlive, hput⟩ := perform_transition h
    refine ⟨?_, by rw [hlocked]; exact fun hmem => hmem⟩
    rw [hput]
    apply Table.get_put_of_ne
    rintro rfl
    -- the operation is finished
    obtain ⟨row, hrow, hterminal⟩ := hrow
    obtain rfl := Option.some.inj (hrow.symm.trans hget)
    rw [hlive] at hterminal
    cases hterminal

/-- Without the lock a retry does not touch the operation, and it may get the lock if it is free. -/
theorem untouched_outside {o : OperationOp} {r : Except OperationFailure o.Answer} (houtside : stageOf tr = .outside)
    (hdrawn : ∀ v, Drawn v tr → v ≠ id) (hcalls : RetryCalls id task tr o) (h : w.perform o x = some (r, w')) :
    Untouched id w w' ∧ ((stageOf tr).track ⟨o, r⟩ = .outside ∨
      (stageOf tr).track ⟨o, r⟩ = .locked ∧ tr = [] ∧ id ∉ w.locked ∧ id ∈ w'.locked) := by
  rw [houtside]
  cases o with
  | lock id' =>
    obtain ⟨rfl, rfl⟩ := hcalls
    refine ⟨untouched_lock h, ?_⟩
    rcases r with e | _ | _
    · exact .inl rfl
    · exact .inl rfl
    · exact .inr ⟨rfl, rfl, (perform_lock h).2.1 rfl⟩
  | unlock id' => exact absurd houtside hcalls.2
  | getOperation id' => exact ⟨untouched_getOperation h, .inl (by cases r <;> rfl)⟩
  | compareAndSaveOperation next expectedRevision =>
    cases hcalls.2 with
    | clear stage | restore stage | impossible stage =>
      rw [houtside] at stage
      cases stage
  | createOperation child =>
    rcases hcalls.right with himpossible | ⟨operation, hstage, -⟩
    · rw [houtside] at himpossible
      cases himpossible
    · rw [houtside] at hstage
      cases hstage
  | transition => exact hcalls.elim
  | _ => exact ⟨untouched_quiet (by trivial) h, .inl (Stage.track_quiet (by trivial) h)⟩

/-- The operation stays as it ended. -/
theorem row_own {o : OperationOp} {r : Except OperationFailure o.Answer} {row : AdminOperation}
    (hrow : w.operations.get id = some row) (hs : (stageOf tr).Agrees id flag w) (hdrawn : ∀ v, Drawn v tr → v ≠ id)
    (hcalls : RetryCalls id task tr o) (h : w.perform o x = some (r, w')) :
    ∃ row', w'.operations.get id = some row' ∧ row'.status = row.status := by
  have hkept : Untouched id w w' → ∃ row', w'.operations.get id = some row' ∧ row'.status = row.status :=
    fun huntouched => ⟨row, huntouched.1.trans hrow, rfl⟩
  cases o with
  | lock id' => exact hkept (untouched_lock h)
  | unlock id' =>
    refine ⟨row, ?_, rfl⟩
    rw [(perform_unlock h).1]
    exact hrow
  | getOperation id' => exact hkept (untouched_getOperation h)
  | compareAndSaveOperation next expectedRevision =>
    obtain ⟨-, ⟨hsame, -⟩ | ⟨hwritten, -⟩⟩ := perform_compareAndSave h
    · exact ⟨row, by rw [hsame]; exact hrow, rfl⟩
    · cases hcalls.2 with
      | clear stage cleared revision =>
        rw [stage] at hs
        subst cleared
        obtain rfl := Option.some.inj (hrow.symm.trans hs.1)
        exact ⟨_, get_written hwritten hrow rfl, rfl⟩
      | restore stage restored revision =>
        rw [stage] at hs
        subst restored
        obtain rfl := Option.some.inj (hrow.symm.trans hs.1)
        exact ⟨_, get_written hwritten hrow rfl, rfl⟩
      | impossible stage =>
        rw [stage] at hs
        exact hs.elim
  | createOperation child => exact hkept (untouched_created (hdrawn _ hcalls.drawn) h)
  | transition => exact hcalls.elim
  | _ => exact hkept (untouched_quiet (by trivial) h)

/-- Only giving the lock back frees it. -/
theorem locked_own {o : OperationOp} {r : Except OperationFailure o.Answer}
    (hinside : (stageOf tr).track ⟨o, r⟩ ≠ .outside) (hcalls : RetryCalls id task tr o)
    (h : w.perform o x = some (r, w')) (hlocked : id ∈ w.locked) : id ∈ w'.locked := by
  cases o with
  | lock id' => exact (perform_lock h).2.2 id hlocked
  | unlock id' => exact absurd (by cases stageOf tr <;> rfl) hinside
  | getOperation id' => exact (untouched_getOperation h).2 hlocked
  | compareAndSaveOperation next expectedRevision =>
    rw [(perform_compareAndSave h).1]
    exact hlocked
  | createOperation child =>
    rw [(perform_createOperation h).1]
    exact hlocked
  | transition => exact hcalls.elim
  | _ => exact (untouched_quiet (by trivial) h).2 hlocked

/-! ### The retries one after the other -/

/-- The retries of an operation that is finished take turns, and the one whose turn it is knows the operation. -/
structure Serial (calls : ι → OperationCall) (id : String) (es : List (OperationEvent ι)) (w : World) : Prop where
  row : ∃ row, w.operations.get id = some row ∧ row.status.terminal = true
  drawn : ∀ t v, Drawn v (traceOf t es) → v ≠ id
  locked : ∀ t, Retries calls id t → stageOf (traceOf t es) ≠ .outside → id ∈ w.locked
  alone : ∀ t t', Retries calls id t → Retries calls id t' → stageOf (traceOf t es) ≠ .outside →
    stageOf (traceOf t' es) ≠ .outside → t = t'
  agrees : ∀ t, Retries calls id t → ∀ first ∈ (eventsOf t es).getLast?,
    ∃ flag, flagOf id first.before = some flag ∧ (stageOf (traceOf t es)).Agrees id flag w

abbrev Lawfully (calls : ι → OperationCall) (w₀ : World) : List (OperationEvent ι) → World → Prop :=
  Legal operationSystem (fun t => (calls t).Calls) w₀

theorem id_of_read (hl : Lawfully calls w₀ es w) {i : String} {operation : AdminOperation}
    (h : Read i operation (traceOf t es)) : operation.id = i := by
  obtain ⟨w₁, c, w₂, hp⟩ := hl.performed h
  exact Table.key_of_get ((perform_getOperation hp).2 _ rfl).symm

/-- A retry that has not begun is without the lock. -/
theorem outside_of_events (h : eventsOf t es = []) : stageOf (traceOf t es) = .outside := by
  rw [traceOf_eq_map, h]
  rfl

/-- The first event of a thread stays its first one. -/
theorem first_own {y : Exchange OperationOp OperationOp.Answer OperationFailure} {first : OperationEvent ι}
    (h : first ∈ (eventsOf t (⟨y, t, w, w'⟩ :: es)).getLast?) :
    (eventsOf t es = [] ∧ first = ⟨y, t, w, w'⟩) ∨ first ∈ (eventsOf t es).getLast? := by
  have hown : eventsOf t (⟨y, t, w, w'⟩ :: es) = ⟨y, t, w, w'⟩ :: eventsOf t es := eventsOf_own rfl
  rw [hown] at h
  cases hevents : eventsOf t es with
  | nil =>
    rw [hevents] at h
    exact .inl ⟨rfl, (Option.some.inj h).symm⟩
  | cons e rest =>
    rw [hevents, List.getLast?_cons_cons] at h
    exact .inr h

variable {o : OperationOp} {r : Except OperationFailure o.Answer}

theorem drawn_step (h : Serial calls id es w) (hp : w.perform o x = some (r, w')) (t' : ι) (v : String)
    (hv : Drawn v (traceOf t' (⟨⟨o, r⟩, t, w, w'⟩ :: es))) : v ≠ id := by
  by_cases htt : t = t'
  · subst htt
    rw [traceOf_record_own] at hv
    rcases List.mem_cons.1 hv with heq | hmem
    · obtain ⟨rfl, hr⟩ := Exchange.mk.inj heq
      obtain rfl := eq_of_heq hr
      rintro rfl
      obtain ⟨row, hrow, -⟩ := h.row
      rw [perform_randomUUID hp] at hrow
      cases hrow
    · exact h.drawn t v hmem
  · rw [traceOf_record_other htt] at hv
    exact h.drawn t' v hv

/-- The events of another thread leave what is known about this one as it is. -/
theorem Serial.of_untouched (h : Serial calls id es w) (hp : w.perform o x = some (r, w'))
    (huntouched : Untouched id w w')
    (hstage : Retries calls id t → stageOf (traceOf t (⟨⟨o, r⟩, t, w, w'⟩ :: es)) = .outside) :
    Serial calls id (⟨⟨o, r⟩, t, w, w'⟩ :: es) w' := by
  have hothers : ∀ t', Retries calls id t' → stageOf (traceOf t' (⟨⟨o, r⟩, t, w, w'⟩ :: es)) ≠ .outside →
      t ≠ t' ∧ stageOf (traceOf t' es) ≠ .outside := by
    intro t' ht' hne
    have htt : t ≠ t' := by
      rintro rfl
      exact hne (hstage ht')
    rw [traceOf_record_other htt] at hne
    exact ⟨htt, hne⟩
  constructor
  · obtain ⟨row, hrow, hterminal⟩ := h.row
    exact ⟨row, huntouched.1.trans hrow, hterminal⟩
  · exact drawn_step h hp
  · intro t' ht' hne
    exact huntouched.2 (h.locked t' ht' (hothers t' ht' hne).2)
  · intro t₁ t₂ ht₁ ht₂ hne₁ hne₂
    exact h.alone t₁ t₂ ht₁ ht₂ (hothers t₁ ht₁ hne₁).2 (hothers t₂ ht₂ hne₂).2
  · intro t' ht' first hfirst
    by_cases htt : t = t'
    · subst htt
      rw [hstage ht']
      rcases first_own hfirst with ⟨-, rfl⟩ | hfirst
      · obtain ⟨row, hrow, -⟩ := h.row
        exact ⟨row.retryable, by rw [flagOf, hrow]; rfl, trivial⟩
      · obtain ⟨flag, hflag, -⟩ := h.agrees t ht' first hfirst
        exact ⟨flag, hflag, trivial⟩
    · rw [eventsOf_other htt] at hfirst
      rw [traceOf_record_other htt]
      obtain ⟨flag, hflag, hagrees⟩ := h.agrees t' ht' first hfirst
      exact ⟨flag, hflag, hagrees.congr huntouched.1⟩

/-- A step of the one retry whose turn it is. -/
theorem Serial.own (h : Serial calls id es w) (hp : w.perform o x = some (r, w')) (ht : Retries calls id t)
    (hothers : ∀ t', Retries calls id t' → t' ≠ t → stageOf (traceOf t' es) = .outside)
    (hrow : ∃ row, w'.operations.get id = some row ∧ row.status.terminal = true)
    (hlocked : (stageOf (traceOf t es)).track ⟨o, r⟩ ≠ .outside → id ∈ w'.locked)
    (hfirst : eventsOf t es = [] → ∀ flag, flagOf id w = some flag →
      ((stageOf (traceOf t es)).track ⟨o, r⟩).Agrees id flag w')
    (hlater : eventsOf t es ≠ [] → ∀ flag, (stageOf (traceOf t es)).Agrees id flag w →
      ((stageOf (traceOf t es)).track ⟨o, r⟩).Agrees id flag w') :
    Serial calls id (⟨⟨o, r⟩, t, w, w'⟩ :: es) w' := by
  have hnow : stageOf (traceOf t (⟨⟨o, r⟩, t, w, w'⟩ :: es)) = (stageOf (traceOf t es)).track ⟨o, r⟩ := by
    rw [traceOf_record_own, stageOf_cons]
  have hothers' : ∀ t', Retries calls id t' → stageOf (traceOf t' (⟨⟨o, r⟩, t, w, w'⟩ :: es)) ≠ .outside → t' = t := by
    intro t' ht' hne
    by_contra htt
    rw [traceOf_record_other (Ne.symm htt)] at hne
    exact hne (hothers t' ht' htt)
  constructor
  · exact hrow
  · exact drawn_step h hp
  · intro t' ht' hne
    obtain rfl := hothers' t' ht' hne
    exact hlocked (hnow ▸ hne)
  · intro t₁ t₂ ht₁ ht₂ hne₁ hne₂
    exact (hothers' t₁ ht₁ hne₁).trans (hothers' t₂ ht₂ hne₂).symm
  · intro t' ht' first hmem
    by_cases htt : t = t'
    · subst htt
      rw [hnow]
      rcases first_own hmem with ⟨hnil, rfl⟩ | hmem
      · obtain ⟨row, hget, -⟩ := h.row
        have hflag : flagOf id w = some row.retryable := by rw [flagOf, hget]; rfl
        exact ⟨row.retryable, hflag, hfirst hnil _ hflag⟩
      · obtain ⟨flag, hflag, hold⟩ := h.agrees t ht first hmem
        refine ⟨flag, hflag, hlater (fun hnil => ?_) flag hold⟩
        rw [hnil] at hmem
        cases hmem
    · rw [eventsOf_other htt] at hmem
      rw [traceOf_record_other htt, hothers t' ht' (Ne.symm htt)]
      obtain ⟨flag, hflag, -⟩ := h.agrees t' ht' first hmem
      exact ⟨flag, hflag, trivial⟩

theorem serial_step (hl : Lawfully calls w₀ es w) (h : Serial calls id es w) (hp : w.perform o x = some (r, w'))
    (hcalls : (calls t).Calls (traceOf t es) o) : Serial calls id (⟨⟨o, r⟩, t, w, w'⟩ :: es) w' := by
  by_cases ht : Retries calls id t
  · obtain ⟨manager, task, hcall⟩ := ht
    have ht : Retries calls id t := ⟨manager, task, hcall⟩
    rw [hcall] at hcalls
    by_cases houtside : stageOf (traceOf t es) = .outside
    · obtain ⟨huntouched, hstays | ⟨hlocks, hnil, hfree, hlocked⟩⟩ :=
        untouched_outside houtside (h.drawn t) hcalls hp
      · exact h.of_untouched hp huntouched fun _ => by rw [traceOf_record_own, stageOf_cons, hstays]
      · -- the lock was free, so that nobody else had it
        refine h.own hp ht (fun t' ht' _ => ?_) ?_ (fun _ => hlocked) (fun _ flag hflag => ?_) fun hevents => ?_
        · by_contra hne
          exact hfree (h.locked t' ht' hne)
        · obtain ⟨row, hrow, hterminal⟩ := h.row
          exact ⟨row, huntouched.1.trans hrow, hterminal⟩
        · rw [hlocks]
          exact (flagOf_congr huntouched.1).trans hflag
        · rw [traceOf_eq_map, List.map_eq_nil_iff] at hnil
          exact absurd hnil hevents
    · have hevents : eventsOf t es ≠ [] := fun hnil => houtside (outside_of_events hnil)
      obtain ⟨flag, -, hagrees⟩ := h.agrees t ht _ (List.getLast?_eq_some_getLast hevents)
      obtain ⟨row, hrow, hterminal⟩ := h.row
      refine h.own hp ht (fun t' ht' hne => ?_) ?_ (fun hinside => ?_) (fun hnil => absurd hnil hevents) fun _ flag hold => ?_
      · by_contra hinside
        exact hne (h.alone t' t ht' ht hinside houtside)
      · obtain ⟨row', hrow', hstatus⟩ := row_own hrow hagrees (h.drawn t) hcalls hp
        exact ⟨row', hrow', hstatus ▸ hterminal⟩
      · exact locked_own hinside hcalls hp (h.locked t ht houtside)
      · exact agrees_own hold houtside (h.drawn t) hcalls hp
  · have hread : ∀ i operation, Read i operation (traceOf t es) → operation.id = i := fun _ _ => id_of_read hl
    exact h.of_untouched hp (untouched_other ht hcalls hread (h.drawn t) h.row hp) fun ht' => absurd ht' ht

theorem serial_of_legal (h₀ : ∃ row, w₀.operations.get id = some row ∧ row.status.terminal = true)
    (hl : Lawfully calls w₀ es w) : Serial calls id es w := by
  refine hl.inv ?_ fun es w w' t o x r hl h hp hcalls => serial_step hl h hp hcalls
  refine ⟨h₀, ?_, ?_, ?_, ?_⟩
  · rintro t v ⟨⟩
  · exact fun t _ hne => absurd rfl hne
  · exact fun t _ _ _ hne => absurd rfl hne
  · rintro t _ first ⟨⟩

/-! ## What is created -/

/-- The event creates an operation that retries this one. -/
def creates (id : String) (e : OperationEvent ι) : Bool :=
  match e.op with
  | .createOperation child => child.retryOf = some id ∧ e.after.operations.get child.id = some child
  | _ => false

/-- A creation that was done is reported. -/
def Acknowledged (e : OperationEvent ι) : Bool :=
  match e.toExchange with
  | ⟨.createOperation child, .error _⟩ => e.after.operations.get child.id ≠ some child
  | _ => true

/-- How many operations were created by retries that found the flag. -/
def claimed (id : String) : List (OperationEvent ι) → Nat
  | [] => 0
  | e :: es => (if creates id e ∧ (stageOf (traceOf e.thread es)).claims then 1 else 0) + claimed id es

/-- The retry holds the right that the flag stood for, and has not used it yet. -/
def Stage.pending : Stage → Bool
  | .taken operation | .reread operation _ => operation.retryable
  | _ => false

omit [DecidableEq ι] in
theorem creates_iff {e : OperationEvent ι} :
    creates id e = true ↔ ∃ child, e.op = .createOperation child ∧ child.retryOf = some id ∧
      e.after.operations.get child.id = some child := by
  unfold creates
  split
  · next child hop =>
    rw [hop]
    simp
  · next hop =>
    simp only [Bool.false_eq_true, false_iff, not_exists, not_and]
    exact fun child heq => absurd heq (hop child)

/-- An operation that retries this one is created by a retry of it, which holds the lock. -/
theorem retries_of_created (hl : Lawfully calls w₀ es w) {child : AdminOperation}
    (hcalls : (calls t).Calls (traceOf t es) (.createOperation child)) (hchild : child.retryOf = some id) :
    ∃ manager task, calls t = .retry manager id task ∧ Restarts id task (traceOf t es) child := by
  cases hcall : calls t with
  | start manager input task onExisting =>
    rw [hcall] at hcalls
    rw [hcalls.1] at hchild
    cases hchild
  | retry manager id' task =>
    rw [hcall] at hcalls
    obtain ⟨operation, hread, hof⟩ := hcalls.of
    have hid : id' = id := by
      rw [hchild, id_of_read hl hread] at hof
      exact (Option.some.inj hof).symm
    subst hid
    exact ⟨manager, task, rfl, hcalls⟩
  | executor =>
    rw [hcall] at hcalls
    cases hcalls

theorem Serial.possible (h : Serial calls id es w) (ht : Retries calls id t) : stageOf (traceOf t es) ≠ .impossible := by
  intro himpossible
  have hevents : eventsOf t es ≠ [] := by
    intro hnil
    rw [outside_of_events hnil] at himpossible
    cases himpossible
  obtain ⟨flag, -, hagrees⟩ := h.agrees t ht _ (List.getLast?_eq_some_getLast hevents)
  rw [himpossible] at hagrees
  exact hagrees

theorem Serial.known (h : Serial calls id es w) (ht : Retries calls id t) (hinside : stageOf (traceOf t es) ≠ .outside) :
    ∃ flag, (stageOf (traceOf t es)).Agrees id flag w := by
  have hevents : eventsOf t es ≠ [] := fun hnil => hinside (outside_of_events hnil)
  obtain ⟨flag, -, hagrees⟩ := h.agrees t ht _ (List.getLast?_eq_some_getLast hevents)
  exact ⟨flag, hagrees⟩

/-- Once the flag is cleared for good, no retry brings it back. -/
theorem spent_own (hs : (stageOf tr).Agrees id flag w) (hspent : flagOf id w = some false)
    (hpending : (stageOf tr).pending = false) (hdrawn : ∀ v, Drawn v tr → v ≠ id) (hcalls : RetryCalls id task tr o)
    (h : w.perform o x = some (r, w')) :
    flagOf id w' = some false ∧ ((stageOf tr).track ⟨o, r⟩).pending = false := by
  cases o with
  | lock id' =>
    refine ⟨(flagOf_congr (untouched_lock h).1).trans hspent, ?_⟩
    rcases r with e | _ | _ <;> cases hstage : stageOf tr <;> rw [hstage] at hpending <;> first | exact hpending | rfl
  | unlock id' =>
    refine ⟨(flagOf_congr (by rw [(perform_unlock h).1])).trans hspent, ?_⟩
    cases stageOf tr <;> rfl
  | getOperation id' =>
    refine ⟨(flagOf_congr (untouched_getOperation h).1).trans hspent, ?_⟩
    rcases r with e | _ | latest <;> cases hstage : stageOf tr <;> rw [hstage] at hpending <;>
      first | exact hpending | rfl
  | compareAndSaveOperation next expectedRevision =>
    obtain ⟨-, hwrites⟩ := perform_compareAndSave h
    cases hcalls.2 with
    | clear stage cleared revision =>
      rw [stage] at hs ⊢
      have hflag := hspent
      rw [flagOf, hs.1] at hflag
      refine ⟨?_, ?_⟩
      · rcases hwrites with ⟨hsame, -⟩ | ⟨hwritten, -⟩
        · exact (flagOf_congr (by rw [hsame])).trans hspent
        · subst cleared
          rw [flagOf, get_written hwritten hs.1 rfl]
          rfl
      · rcases r with e | _ | saved
        · rfl
        · rfl
        · exact Option.some.inj hflag
    | restore stage restored revision =>
      rw [stage] at hs hpending ⊢
      refine ⟨?_, ?_⟩
      · rcases hwrites with ⟨hsame, -⟩ | ⟨hwritten, -⟩
        · exact (flagOf_congr (by rw [hsame])).trans hspent
        · subst restored
          rw [flagOf, get_written hwritten hs.1 rfl, Option.map_some]
          exact congrArg some hpending
      · rcases r with e | _ | saved <;> rfl
    | impossible stage =>
      rw [stage] at hs
      exact hs.elim
  | createOperation child =>
    refine ⟨(flagOf_congr (get_created (hdrawn _ hcalls.drawn) h)).trans hspent, ?_⟩
    rcases hcalls.right with himpossible | ⟨operation, hstage, -⟩
    · rw [himpossible] at hs
      exact hs.elim
    · rw [hstage] at hpending ⊢
      rcases r with e | ⟨existing, _ | _⟩
      · exact hpending
      · rfl
      · rfl
  | transition => exact hcalls.elim
  | _ =>
    refine ⟨(flagOf_congr (untouched_quiet (by trivial) h).1).trans hspent, ?_⟩
    rw [Stage.track_quiet (by trivial) h]
    exact hpending

/-- The right is used once at most: where it was, the flag is cleared and nobody holds the right any more. -/
def UsedOnce (calls : ι → OperationCall) (id : String) (es : List (OperationEvent ι)) (w : World) : Prop :=
  claimed id es = 0 ∨
    claimed id es = 1 ∧ flagOf id w = some false ∧ ∀ t, Retries calls id t → (stageOf (traceOf t es)).pending = false

theorem usedOnce_of_legal (h₀ : ∃ row, w₀.operations.get id = some row ∧ row.status.terminal = true)
    (hl : Lawfully calls w₀ es w) (hacknowledged : Every (fun _ e => Acknowledged e = true) es) :
    UsedOnce calls id es w := by
  induction hl with
  | start => exact .inl rfl
  | @record es w w' t o x r hl hp hcalls ih =>
    have hserial := serial_of_legal h₀ hl
    have hbefore := ih hacknowledged.2
    by_cases hcounted : creates id (⟨⟨o, r⟩, t, w, w'⟩ : OperationEvent ι) = true ∧
      (stageOf (traceOf t es)).claims = true
    · obtain ⟨child, rfl, hchild, hstored⟩ := creates_iff.1 hcounted.1
      obtain ⟨manager, task, hcall, hrestarts⟩ := retries_of_created hl hcalls hchild
      have ht : Retries calls id t := ⟨manager, task, hcall⟩
      obtain ⟨operation, hstage, -⟩ := hrestarts.right.resolve_left (hserial.possible ht)
      have hclaims := hcounted.2
      rw [hstage] at hclaims
      have hnone : claimed id es = 0 := by
        rcases hbefore with hnone | ⟨-, -, hpending⟩
        · exact hnone
        · have hfalse := hpending t ht
          rw [hstage] at hfalse
          exact absurd hclaims (Bool.eq_false_iff.1 hfalse)
      have hinside : stageOf (traceOf t es) ≠ .outside := by
        rw [hstage]
        rintro ⟨⟩
      refine .inr ⟨?_, ?_, fun t' ht' => ?_⟩
      · rw [claimed, if_pos hcounted, hnone]
      · obtain ⟨flag, hagrees⟩ := hserial.known ht hinside
        rw [hstage] at hagrees
        rw [flagOf_congr (get_created (hserial.drawn t _ hrestarts.drawn) hp), flagOf, hagrees.1]
        rfl
      · by_cases htt : t = t'
        · subst htt
          rw [traceOf_record_own, stageOf_cons, hstage]
          rcases r with e | ⟨existing, _ | _⟩
          · -- a creation that was done is reported
            exact absurd hstored (of_decide_eq_true hacknowledged.1)
          · exact absurd rfl ((perform_createOperation hp).2.2.1 hrestarts.unkeyed existing)
          · rfl
        · rw [traceOf_record_other htt]
          have houtside : stageOf (traceOf t' es) = .outside := by
            by_contra hinside'
            exact htt (hserial.alone t t' ht ht' hinside hinside')
          rw [houtside]
          rfl
    · have hclaimed : claimed id (⟨⟨o, r⟩, t, w, w'⟩ :: es) = claimed id es := by
        rw [claimed, if_neg hcounted, Nat.zero_add]
      rcases hbefore with hnone | ⟨hone, hspent, hpending⟩
      · exact .inl (hclaimed.trans hnone)
      · have hspent' : flagOf id w' = some false ∧
            (Retries calls id t → ((stageOf (traceOf t es)).track ⟨o, r⟩).pending = false) := by
          by_cases ht : Retries calls id t
          · obtain ⟨manager, task, hcall⟩ := ht
            have ht : Retries calls id t := ⟨manager, task, hcall⟩
            rw [hcall] at hcalls
            by_cases houtside : stageOf (traceOf t es) = .outside
            · obtain ⟨huntouched, hstage⟩ := untouched_outside houtside (hserial.drawn t) hcalls hp
              refine ⟨(flagOf_congr huntouched.1).trans hspent, fun _ => ?_⟩
              rcases hstage with hstage | ⟨hstage, -⟩
              · rw [hstage]
                rfl
              · rw [hstage]
                rfl
            · obtain ⟨flag, hagrees⟩ := hserial.known ht houtside
              have hown := spent_own hagrees hspent (hpending t ht) (hserial.drawn t) hcalls hp
              exact ⟨hown.1, fun _ => hown.2⟩
          · have huntouched := untouched_other ht hcalls (fun _ _ => id_of_read hl) (hserial.drawn t) hserial.row hp
            exact ⟨(flagOf_congr huntouched.1).trans hspent, fun ht' => absurd ht' ht⟩
        refine .inr ⟨hclaimed.trans hone, hspent'.1, fun t' ht' => ?_⟩
        by_cases htt : t = t'
        · subst htt
          rw [traceOf_record_own, stageOf_cons]
          exact hspent'.2 ht'
        · rw [traceOf_record_other htt]
          exact hpending t' ht'

/-! ## A retry that fails -/

/-- The flag is after the last event of the thread as it was before its first one. -/
def FlagLeft (id : String) (t : ι) (es : List (OperationEvent ι)) : Prop :=
  ∀ first ∈ (eventsOf t es).getLast?, ∀ last ∈ (eventsOf t es).head?, flagOf id last.after = flagOf id first.before

/-- What a thread promises of its rounds and of its end. -/
def Promises (call : OperationCall) : Except OperationFailure (OperationCall ⊕ AdminOperation) → Exchanges → Prop
  | .ok (.inl next), tr => next = call ∧ (tr = [] ∨ call = .executor)
  | .ok (.inr _), _ => True
  | .error e, tr => ∀ manager id task, call = .retry manager id task → Failed id task (.error e) tr

theorem body_promises {call next : OperationCall} (h : Promises call (.ok (.inl next)) tr) :
    wp call.Calls next.body (Promises call) tr := by
  obtain ⟨rfl, hbegins⟩ := h
  cases next with
  | start manager input task onExisting =>
    unfold OperationCall.body
    rw [wp_map]
    refine wp_post (start_calls rfl task onExisting) fun r tr _ => ?_
    cases r with
    | ok operation => trivial
    | error e => rintro _ _ _ ⟨⟩
  | retry manager id task =>
    obtain rfl : tr = [] := by simpa using hbegins
    unfold OperationCall.body
    rw [wp_map]
    refine wp_post retry_failed fun r tr hr => ?_
    cases r with
    | ok operation => trivial
    | error e =>
      rintro _ _ _ ⟨⟩
      exact hr
  | executor =>
    unfold OperationCall.body
    rw [wp_bind, wp_await]
    refine ⟨rfl, fun r => ?_⟩
    cases r with
    | ok _ => exact ⟨rfl, .inr rfl⟩
    | error e => rintro _ _ _ ⟨⟩

theorem lawful_of_run {calls : ι → OperationCall} {sched : List (ι × OperationChoice)}
    {c : Config ι OperationOp OperationOp.Answer OperationFailure World OperationCall AdminOperation}
    (hrun : exec operationSystem (Async.start operationSystem w₀ calls) sched = some c) :
    Lawful operationSystem (fun t => (calls t).Calls) (fun t => Promises (calls t)) w₀ c :=
  lawful_of_exec (fun _ => ⟨rfl, .inl rfl⟩) (fun _ _ _ => body_promises) hrun

theorem Stage.track_created {y : Exchange OperationOp OperationOp.Answer OperationFailure} {operation : AdminOperation}
    (h : s.track y = .created operation) : s = .created operation ∨ ∃ child existing,
      y = ⟨.createOperation child, .ok (existing, true)⟩ := by
  unfold Stage.track at h
  split at h
  case h_12 => exact .inr ⟨_, _, rfl⟩
  case h_17 => exact .inl h
  all_goals cases h

/-- A retry that has created an operation is known by an event that did. -/
theorem exists_creation {operation : AdminOperation} (h : stageOf tr = .created operation) : ∃ child existing,
    (⟨.createOperation child, .ok (existing, true)⟩ : Exchange OperationOp OperationOp.Answer OperationFailure) ∈ tr := by
  induction tr with
  | nil => cases h
  | cons y tr ih =>
    rcases Stage.track_created h with hbefore | ⟨child, existing, rfl⟩
    · obtain ⟨child, existing, hmem⟩ := ih hbefore
      exact ⟨child, existing, List.mem_cons_of_mem _ hmem⟩
    · exact ⟨child, existing, List.mem_cons_self⟩

/-- A creation that is reported was done, and is of a retry of this operation. -/
theorem creates_of_reported (hl : Lawfully calls w₀ es w) {manager : Nat} {task : Option AdminOperationTask}
    (ht : calls t = .retry manager id task) {child existing : AdminOperation}
    (h : ⟨.createOperation child, .ok (existing, true)⟩ ∈ traceOf t es) :
    ∃ e ∈ es, e.thread = t ∧ creates id e = true := by
  obtain ⟨e, he, rfl, hx⟩ := event_of_mem_traceOf h
  refine ⟨e, he, rfl, ?_⟩
  obtain ⟨later, earlier, rfl⟩ := List.append_of_mem he
  obtain ⟨hl, hcalls, x, hp⟩ := hl.suffix
  obtain ⟨⟨o, r⟩, t', w₁, w₂⟩ := e
  obtain ⟨rfl, hr⟩ := Exchange.mk.inj hx
  obtain rfl := eq_of_heq hr
  rw [ht] at hcalls
  obtain ⟨operation, hread, hof⟩ := hcalls.of
  refine creates_iff.2 ⟨child, rfl, hof.trans (congrArg some (id_of_read hl hread)), ?_⟩
  change w₂.operations.get child.id = some child
  rw [(perform_createOperation hp).2.2.2 existing rfl]
  exact Table.get_put_self w₁.operations child

theorem eventsOf_eq_nil (h : traceOf t es = []) : eventsOf t es = [] := by
  rw [traceOf_eq_map, List.map_eq_nil_iff] at h
  exact h

/-- A retry that creates nothing leaves the flag as it was, unless it forfeits it. -/
theorem flagLeft_of_failed (h₀ : ∃ row, w₀.operations.get id = some row ∧ row.status.terminal = true)
    (hl : Lawfully calls w₀ es w) {manager : Nat} (ht : calls t = .retry manager id task) {e : OperationFailure}
    (hfailed : Failed id task (.error e) (traceOf t es)) (hnone : ∀ e ∈ es, e.thread = t → creates id e = false) :
    FlagLeft id t es ∨ Forfeits task (traceOf t es) := by
  have hretries : Retries calls id t := ⟨manager, task, ht⟩
  rcases hfailed with ⟨r, htrace, -⟩ | ⟨r, tr, htrace, hover⟩
  · -- the lock was refused
    obtain ⟨later, e, earlier, rfl, rfl, hx, hearlier, hlater⟩ := exists_event_of_traceOf [] htrace
    obtain ⟨-, -, x, hp⟩ := hl.suffix
    obtain ⟨⟨o, r⟩, t', w₁, w₂⟩ := e
    obtain ⟨rfl, hr⟩ := Exchange.mk.inj hx
    refine .inl fun first hfirst last hlast => ?_
    rw [eventsOf_append, eventsOf_eq_nil hlater, List.nil_append, eventsOf_own rfl, eventsOf_eq_nil hearlier] at hfirst hlast
    obtain rfl := Option.some.inj hfirst
    obtain rfl := Option.some.inj hlast
    have hsame : w₂.operations = w₁.operations := (perform_lock hp).1
    exact congrArg (fun operations => (operations.get id).map AdminOperation.retryable) hsame
  · obtain ⟨later, last, earlier, rfl, rfl, hx, hearlier, hlater⟩ := exists_event_of_traceOf [] htrace
    obtain ⟨hl', -, x, hp⟩ := hl.suffix
    have hserial := serial_of_legal h₀ hl'
    obtain ⟨⟨o, r'⟩, t', w₁, w₂⟩ := last
    obtain ⟨rfl, hr⟩ := Exchange.mk.inj hx
    dsimp only at *
    have hinside : stageOf (traceOf t' earlier) ≠ .outside := by
      intro houtside
      rw [← hearlier, Over, houtside] at hover
      exact hover
    have hevents : eventsOf t' earlier ≠ [] := fun hnil => hinside (outside_of_events hnil)
    obtain ⟨flag, hflag, hagrees⟩ := hserial.agrees t' hretries _ (List.getLast?_eq_some_getLast hevents)
    have hleft : flagOf id w₁ = some flag → FlagLeft id t' (later ++ ⟨⟨.unlock id, r'⟩, t', w₁, w₂⟩ :: earlier) := by
      intro hnow first hfirst last hlast
      have hown : eventsOf t' (⟨⟨.unlock id, r'⟩, t', w₁, w₂⟩ :: earlier) =
          ⟨⟨.unlock id, r'⟩, t', w₁, w₂⟩ :: eventsOf t' earlier := eventsOf_own rfl
      rw [eventsOf_append, eventsOf_eq_nil hlater, List.nil_append, hown] at hfirst hlast
      obtain rfl := Option.some.inj hlast
      rw [List.getLast?_cons_of_ne_nil hevents, List.getLast?_eq_some_getLast hevents] at hfirst
      obtain rfl := Option.some.inj hfirst
      have hsame : w₂.operations = w₁.operations := (perform_unlock hp).1
      refine Eq.trans ?_ (hnow.trans hflag.symm)
      exact congrArg (fun operations => (operations.get id).map AdminOperation.retryable) hsame
    have hforfeits : Forfeits task tr →
        Forfeits task (traceOf t' (later ++ ⟨⟨.unlock id, r'⟩, t', w₁, w₂⟩ :: earlier)) := by
      intro h
      rw [htrace]
      exact h.cons _
    rw [hearlier] at hagrees
    unfold Over at hover
    cases hstage : stageOf tr with
    | locked | restored =>
      rw [hstage] at hagrees
      exact .inl (hleft hagrees)
    | seen operation =>
      rw [hstage] at hagrees
      refine .inl (hleft ?_)
      rw [flagOf, hagrees.1, Option.map_some, hagrees.2]
    | taken operation | unsure =>
      rw [hstage] at hover
      exact .inr (hforfeits hover)
    | created operation =>
      obtain ⟨child, existing, hmem⟩ := exists_creation hstage
      rw [← hearlier] at hmem
      obtain ⟨e, he, hthread, hcreates⟩ := creates_of_reported hl' ht hmem
      have hfalse := hnone e (List.mem_append_right _ (List.mem_cons_of_mem _ he)) hthread
      rw [hcreates] at hfalse
      cases hfalse
    | reread operation latest =>
      -- the flag is still cleared then
      rw [hstage] at hagrees hover
      have hcleared := hagrees.2.1
      rw [hover] at hcleared
      cases hcleared
    | outside =>
      rw [hstage] at hover
      exact hover.elim
    | impossible =>
      rw [hstage] at hagrees
      exact hagrees.elim

/-! ## At most one retry -/

/-- What becomes of the right to retry an operation: at most one retry that found it has created an operation, any other
one was given its task, and a retry that has created nothing has left the flag alone or has forfeited it. -/
structure RetriedOnce (calls : ι → OperationCall) (id : String)
    (c : Config ι OperationOp OperationOp.Answer OperationFailure World OperationCall AdminOperation) : Prop where
  once : claimed id c.events ≤ 1
  given : Every (fun es e => creates id e = true → (stageOf (traceOf e.thread es)).claims = true ∨
    ∃ manager task, calls e.thread = .retry manager id (some task)) c.events
  left : ∀ t manager task e, calls t = .retry manager id task → c.prog t = .raise e →
    (∀ event ∈ c.events, event.thread = t → creates id event = false) →
    FlagLeft id t c.events ∨ Forfeits task (traceOf t c.events)

theorem given_of_legal (h₀ : ∃ row, w₀.operations.get id = some row ∧ row.status.terminal = true)
    (hl : Lawfully calls w₀ es w) :
    Every (fun es e => creates id e = true → (stageOf (traceOf e.thread es)).claims = true ∨
      ∃ manager task, calls e.thread = .retry manager id (some task)) es := by
  refine hl.every fun es w w' t o x r hl _ hp hcalls hcreates => ?_
  obtain ⟨child, rfl, hchild, -⟩ := creates_iff.1 hcreates
  obtain ⟨manager, task, hcall, hrestarts⟩ := retries_of_created hl hcalls hchild
  have hpossible := (serial_of_legal h₀ hl).possible ⟨manager, task, hcall⟩
  obtain ⟨operation, hstage, hright⟩ := hrestarts.right.resolve_left hpossible
  cases task with
  | none =>
    refine .inl ?_
    rw [hstage]
    exact hright rfl
  | some task => exact .inr ⟨manager, task, hcall⟩

/-- Whatever fails, the right to retry an operation is used once, where the store reports what it has created. -/
theorem retriedOnce_of_run {sched : List (ι × OperationChoice)}
    {c : Config ι OperationOp OperationOp.Answer OperationFailure World OperationCall AdminOperation}
    (h₀ : ∃ row, w₀.operations.get id = some row ∧ row.status.terminal = true)
    (hrun : exec operationSystem (Async.start operationSystem w₀ calls) sched = some c)
    (hacknowledged : Every (fun _ e => Acknowledged e = true) c.events) : RetriedOnce calls id c := by
  have hlawful := lawful_of_run hrun
  refine ⟨?_, given_of_legal h₀ hlawful.legal, fun t manager task e ht hraise hnone => ?_⟩
  · rcases usedOnce_of_legal h₀ hlawful.legal hacknowledged with hzero | ⟨hone, -⟩
    · exact hzero ▸ Nat.zero_le 1
    · exact hone.le
  · have hends := hlawful.threads t
    rw [hraise] at hends
    exact flagLeft_of_failed h₀ hlawful.legal ht (hends manager id task ht) hnone

end Runs

/-! ## Two managers -/

namespace Sample

def failedOperation : AdminOperation where
  id := "op"
  revision := 3
  type := "image.pull"
  status := .failed
  progress := 40
  stage := "failed"
  actorUserId := "admin-1"
  resourceType := "image"
  resourceId := some "openapp:test"
  requestId := "request-1"
  idempotencyKey := none
  requestFingerprint := none
  retryOf := none
  cancellable := false
  retryable := true
  error := some "transient"
  createdAt := "2026-01-01T00:00:00.000Z"
  startedAt := some "2026-01-01T00:00:01.000Z"
  heartbeatAt := some "2026-01-01T00:00:02.000Z"
  finishedAt := some "2026-01-01T00:00:02.000Z"

/-- The closure of the operation is with the first manager. -/
def world : World where
  operations := ⟨[failedOperation], List.nodup_singleton _⟩
  locked := []
  retryTasks manager := if manager = 0 then ⟨[("op", 7)], List.nodup_singleton _⟩ else Table.empty
  ids := []

/-- Two retries, the first on the first manager and the second on the other one. -/
def retries (task : Option AdminOperationTask) : Nat → OperationCall
  | 0 => .retry 0 "op" task
  | 1 => .retry 1 "op" task
  | _ => .executor

def during (t : Nat) (choices : List OperationChoice) : List (Nat × OperationChoice) :=
  choices.map fun x => (t, x)

/-- The new operation is started and the lock given back, after so many calls that are answered. -/
def started (before after : Nat) (id requestId : String) : List OperationChoice :=
  List.replicate before .go ++ [.text "2026-01-01T00:01:00.000Z", .text id, .text requestId] ++ List.replicate after .go

end Sample

open Sample in
/-- A task that is given stands in for the flag, so that two retries create two operations; and a manager without the
closure clears the flag without creating any. -/
theorem retries_unlimited :
    (∃ c, exec operationSystem (Async.start operationSystem world (retries (some 8)))
        (during 0 (started 3 5 "first" "request-2") ++ during 1 (started 3 4 "second" "request-3")) = some c ∧
      (c.world.operations.rows.filter fun operation => operation.retryOf = some "op").length = 2) ∧
    ∃ c, exec operationSystem (Async.start operationSystem world (retries none))
        (during 1 (List.replicate 5 .go)) = some c ∧ (c.prog 1).ended = true ∧ flagOf "op" world = some true ∧
      flagOf "op" c.world = some false ∧ c.world.operations.rows.length = 1 := by
  constructor
  · exact exists_of_any (by decide +kernel)
  · exact exists_of_any (by decide +kernel)

open Sample in
/-- Of two retries without a task one creates an operation, and the other one is refused. -/
theorem retriedOnce_two : ∃ c,
    exec operationSystem (Async.start operationSystem world (retries none))
      (during 0 (started 4 5 "first" "request-2") ++ during 1 (List.replicate 3 .go)) = some c ∧
      (c.world.operations.rows.filter fun operation => operation.retryOf = some "op").length = 1 ∧
      (c.prog 1).ended = true ∧ RetriedOnce (retries none) "op" c := by
  obtain ⟨c, hrun, hchildren, hended, hacknowledged⟩ : ∃ c,
      exec operationSystem (Async.start operationSystem world (retries none))
        (during 0 (started 4 5 "first" "request-2") ++ during 1 (List.replicate 3 .go)) = some c ∧
      (c.world.operations.rows.filter fun operation => operation.retryOf = some "op").length = 1 ∧
      (c.prog 1).ended = true ∧ Every (fun _ e => Acknowledged e = true) c.events := exists_of_any (by decide +kernel)
  have hfailed : ∃ row, world.operations.get "op" = some row ∧ row.status.terminal = true := ⟨failedOperation, rfl, rfl⟩
  exact ⟨c, hrun, hchildren, hended, retriedOnce_of_run hfailed hrun hacknowledged⟩

end OpenApp.Operations
