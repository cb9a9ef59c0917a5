import OpenApp.Rollout.Effects

/-!
# How items are written

A program writes an item by its revision, from a form of the item it has seen, and in one of a few
ways. Which of them an attempt may use follows from what it has done before, as its exchanges show: the
attempt id it drew, the item it wrote last, the instance it looked at. The rule states this for every
call of the service and of the worker, and the programs keep to it.
-/

namespace OpenApp.Rollout

open Async Async.Prog

/-! ## What the exchanges of a program show -/

/-- The item the program wrote last. -/
def holding : Exchanges → Option UpgradeRolloutItem
  | ⟨.compareAndSaveItem _ _, .ok saved⟩ :: _ => saved
  | ⟨.commitDeploymentCheckpoint _ _ _ _, _⟩ :: _ => none
  | ⟨.recoverInterruptedItems _ _, _⟩ :: _ => none
  | _ :: tr => holding tr
  | [] => none

/-- The instance the program looked at last. -/
def observed : Exchanges → Option (String × Instance)
  | ⟨.getContainer id, .ok (some inst)⟩ :: _ => some (id, inst)
  | _ :: tr => observed tr
  | [] => none

/-- The attempt a program makes under the lease of an instance. -/
structure Attempt where
  instanceId : String
  /-- the item has not been read under the lease yet -/
  unread : Bool
  /-- the id of the attempt, once there is one -/
  own : Option String

/-- The attempt that waits for a first start goes on under its id. -/
def resumedAttempt (instanceId : String) (detail : Option UpgradeRolloutDetail) : Option String :=
  ((detail.bind (·.find instanceId)).filter (·.status = .awaitingFirstStart)).bind (·.attemptId)

def Attempt.track (a : Attempt) : RolloutExchange → Attempt
  | ⟨.claimItem instanceId, .ok (some _)⟩ => { instanceId := instanceId, unread := true, own := none }
  | ⟨.getRollout _, .ok detail⟩ =>
    if a.unread then { a with unread := false, own := resumedAttempt a.instanceId detail } else a
  | ⟨.randomId, .ok id⟩ => { a with own := some id }
  | _ => a

def attemptOf : Exchanges → Attempt
  | [] => { instanceId := "", unread := false, own := none }
  | x :: tr => (attemptOf tr).track x

@[simp] theorem attemptOf_cons (x : RolloutExchange) (tr : Exchanges) : attemptOf (x :: tr) = (attemptOf tr).track x := rfl

/-! ## The ways to write an item -/

/-- The item was seen at this revision while no attempt at it was under way. -/
def Idle (item : UpgradeRolloutItem) (tr : Exchanges) : Prop :=
  ∃ initial, Seen initial tr ∧ initial.key = item.key ∧ initial.revision = item.revision ∧
    initial.status.inTransition = false

theorem Idle.cons {item : UpgradeRolloutItem} {tr : Exchanges} (h : Idle item tr) (x : RolloutExchange) :
    Idle item (x :: tr) := by
  obtain ⟨initial, hseen, hrest⟩ := h
  exact ⟨initial, hseen.cons x, hrest⟩

/-- What a worker, or an operator, makes of an item. -/
inductive Moves (w : UpgradeRolloutWorker) (own : Option String) (tr : Exchanges) (item : UpgradeRolloutItem) :
    UpgradeRolloutItem → Prop
  | requeue {forced : Bool} {now at' : Timestamp} (actionable : item.status.actionable = true) :
      Moves w own tr item { requeued forced item now with updatedAt := at' }
  | cancel {now at' : Timestamp} (actionable : item.status.actionable = true) :
      Moves w own tr item { cancelled item now with updatedAt := at' }
  | revalidate {now at' : Timestamp} {id : String} (proofMissing : item.proofMissing = true) :
      Moves w own tr item { firstStartRevalidation now id item with updatedAt := at' }
  | assess {id : String} {checkedAt startedAt at' : Timestamp} (own' : own = some id)
      (live : item.status.terminal = false) (first : item.status ≠ .awaitingFirstStart) (idle : Idle item tr) :
      Moves w own tr item { item with
        status := .assessing
        blocker := none
        error := none
        attemptId := some id
        nextAttemptAt := none
        lastCheckedAt := some checkedAt
        startedAt := some startedAt
        updatedAt := at' }
  | capture {inst : Instance} {at' : Timestamp} (assessing : item.status = .assessing) (owned : item.attemptId = own) :
      Moves w own tr item { UpgradeRolloutWorker.snapshot item inst with updatedAt := at' }
  | wait {blocker : String} {next at' : Timestamp} (status : item.status = .assessing ∨ item.status = .draining)
      (owned : item.attemptId = own) :
      Moves w own tr item { item with
        status := .waitingForIdle
        blocker := some blocker
        attemptId := none
        nextAttemptAt := some next
        updatedAt := at' }
  | drain {at' : Timestamp} (assessing : item.status = .assessing) (owned : item.attemptId = own) :
      Moves w own tr item { item with status := .draining, blocker := none, updatedAt := at' }
  | rebuild {at' : Timestamp} (draining : item.status = .draining) (owned : item.attemptId = own) :
      Moves w own tr item { item with status := .rebuilding, updatedAt := at' }
  | verify {at' : Timestamp} (rebuilding : item.status = .rebuilding) (owned : item.attemptId = own) :
      Moves w own tr item { item with status := .verifying, updatedAt := at' }
  | defer {next checkedAt at' : Timestamp} (waiting : item.status = .awaitingFirstStart) (owned : item.attemptId = own) :
      Moves w own tr item { item with
        blocker := some "candidate_awaiting_first_healthy_start"
        error := none
        nextAttemptAt := some next
        lastCheckedAt := some checkedAt
        updatedAt := at' }
  | giveUp {error : Failure} {finishedAt at' : Timestamp} {diagnostics : Option UpgradeRolloutDiagnostics}
      (live : item.status.terminal = false) :
      Moves w own tr item { w.givenUp error finishedAt diagnostics item with updatedAt := at' }
  | retry {error : Failure} {next at' : Timestamp} {diagnostics : Option UpgradeRolloutDiagnostics}
      (live : item.status.terminal = false) (budget : item.attemptCount + 1 < w.budget item) :
      Moves w own tr item { w.retryScheduled error next diagnostics item with updatedAt := at' }

/-- Why a deployment is at a checkpoint. -/
inductive Deploys (own : Option String) (tr : Exchanges) (item : UpgradeRolloutItem) :
    UpgradeRolloutWorker.Checkpoint → Prop
  | deployed (owned : item.attemptId = own) (verifying : item.status = .verifying) :
      Deploys own tr item .awaitingFirstStart
  /-- the instance was on the target while the item was assessed -/
  | onTarget (owned : item.attemptId = own) (assessing : item.status = .assessing) : Deploys own tr item .succeeded
  /-- the instance was seen running -/
  | running {inst : Instance} (seen : observed tr = some (item.instanceId, inst)) (running : inst.status = .running)
      (owned : item.attemptId = own ∧ item.status.terminal = false ∨ item.proofMissing = true) :
      Deploys own tr item .succeeded
  /-- the transaction was reported committed -/
  | committed {signal : List AbortSignal} (reported : ⟨.inspectRebuild item signal, .ok (some .committed)⟩ ∈ tr)
      (owned : item.attemptId = own) (first : item.status = .awaitingFirstStart) : Deploys own tr item .succeeded

/-! ## The rule -/

/-- A call that an attempt may always make. -/
def quiet : RolloutOp → Bool
  | .compareAndSaveItem _ _ | .commitDeploymentCheckpoint _ _ _ _ | .rebuild _ _ _ | .claimItem _ | .claimWorker
  | .randomId | .createRollout _ _ | .recoverInterruptedItems _ _ | .compareAndSaveRollout _ _ => false
  | _ => true

/-- The write of an item by its revision, from a form of it that was seen. -/
def Writes (w : UpgradeRolloutWorker) (own : Option String) (tr : Exchanges) (next : UpgradeRolloutItem)
    (expectedRevision : Nat) : Prop :=
  ∃ item, Seen item tr ∧ expectedRevision = item.revision ∧ next.key = item.key ∧ (Sound tr → Moves w own tr item next)

/-- The checkpoint of an item that was seen. -/
def Checkpoints (own : Option String) (tr : Exchanges) (next : UpgradeRolloutItem) (expectedRevision : Nat)
    (at' : Timestamp) (supersede : Bool) : Prop :=
  ∃ item checkpoint nextAt, Seen item tr ∧ expectedRevision = item.revision ∧ supersede = true ∧
    next = UpgradeRolloutWorker.checkpointItem item checkpoint at' nextAt ∧ (Sound tr → Deploys own tr item checkpoint)

/-- What an attempt may call. -/
def AttemptIssued (w : UpgradeRolloutWorker) (own : Option String) (tr : Exchanges) : RolloutOp → Prop
  | .compareAndSaveItem next expectedRevision => Writes w own tr next expectedRevision
  | .commitDeploymentCheckpoint next expectedRevision at' supersede =>
    Checkpoints own tr next expectedRevision at' supersede
  | .rebuild item _ _ => holding tr = some item ∧ (Sound tr → item.status = .rebuilding)
  | o => quiet o = true

theorem attemptIssued_quiet {w : UpgradeRolloutWorker} {own : Option String} {tr : Exchanges} {o : RolloutOp}
    (h : quiet o = true) : AttemptIssued w own tr o := by
  cases o <;> first | exact h | cases h

theorem holding_quiet {o : RolloutOp} (h : quiet o = true) (r : Except Failure o.Answer) (tr : Exchanges) :
    holding (⟨o, r⟩ :: tr) = holding tr := by
  cases o <;> first | rfl | cases h

/-- An item as it is created. -/
structure NewItem (rolloutId : String) (item : UpgradeRolloutItem) : Prop where
  rolloutId : item.rolloutId = rolloutId
  status : item.status = .queued
  attemptId : item.attemptId = none
  attemptCount : item.attemptCount = 0
  nextAttemptAt : item.nextAttemptAt.isSome = true
  finishedAt : item.finishedAt = none

/-- The rule for every call of the service and of the worker. -/
def Issued (w : UpgradeRolloutWorker) (tr : Exchanges) : RolloutOp → Prop
  | .claimItem _ | .claimWorker | .randomId | .recoverInterruptedItems _ _ | .compareAndSaveRollout _ _ => True
  | .createRollout rollout items => ∀ item ∈ items, NewItem rollout.id item
  | o => AttemptIssued w (attemptOf tr).own tr o

theorem issued_of_attempt {w : UpgradeRolloutWorker} {tr : Exchanges} {o : RolloutOp} {own : Option String}
    (hown : (attemptOf tr).own = own) (h : AttemptIssued w own tr o) : Issued w tr o := by
  subst hown
  cases o <;> first | exact h | trivial

/-! ## What an attempt has -/

section Attempts

variable {w : UpgradeRolloutWorker} {own : Option String} {k : String × String} {tr tr' : Exchanges}
  {item u : UpgradeRolloutItem} {status : UpgradeRolloutItemStatus}

/-- The item an attempt holds: it wrote it last, with this status and under its own id. -/
structure Held (own : Option String) (k : String × String) (status : UpgradeRolloutItemStatus)
    (item : UpgradeRolloutItem) (tr : Exchanges) : Prop where
  seen : Seen item tr
  holding : holding tr = some item
  sound : Sound tr → item.status = status ∧ item.attemptId = own ∧ item.key = k

theorem Held.quiet (h : Held own k status item tr) {o : RolloutOp} (ho : quiet o = true)
    (r : Except Failure o.Answer) : Held own k status item (⟨o, r⟩ :: tr) where
  seen := h.seen.cons _
  holding := (holding_quiet ho r tr).trans h.holding
  sound hs := h.sound (sound_cons.1 hs).2

/-- A program that only makes quiet calls keeps what quiet calls keep. -/
theorem wp_quiet {α : Type} {p : RolloutTask α} {I : Exchanges → Prop} (hp : Only (fun o => quiet o = true) p)
    (hI : ∀ tr (o : RolloutOp) (r : Except Failure o.Answer), I tr → quiet o = true → I (⟨o, r⟩ :: tr)) (h : I tr) :
    wp (AttemptIssued w own) p (OnOk fun _ tr' => I tr') tr := by
  refine wp_post (wp_inv (G := fun _ o => quiet o = true) (fun tr o r hi ho => hI tr o r hi ho)
    (fun tr o _ ho => attemptIssued_quiet ho) h (wp_of_only (Q := fun _ _ => True) hp fun _ _ => trivial)) ?_
  intro r tr' hr
  cases r with
  | ok a => exact hr.2
  | error e => trivial

theorem quiet_wp {α : Type} {p : RolloutTask α} (hp : Only (fun o => quiet o = true) p) :
    wp (AttemptIssued w own) p (fun _ _ => True) tr :=
  wp_post (wp_quiet (I := fun _ => True) hp (fun _ _ _ _ _ => trivial) trivial) fun _ _ _ => trivial

theorem Held.wp_quiet {α : Type} {p : RolloutTask α} (h : Held own k status item tr)
    (hp : Only (fun o => Rollout.quiet o = true) p) :
    wp (AttemptIssued w own) p (OnOk fun _ tr' => Held own k status item tr') tr :=
  Rollout.wp_quiet hp (fun _ _ r hi ho => hi.quiet ho r) h

/-! ## Writing an item -/

theorem Moves.cons {next : UpgradeRolloutItem} (h : Moves w own tr item next) (x : RolloutExchange) :
    Moves w own (x :: tr) item next := by
  cases h with
  | assess own' live first idle => exact .assess own' live first (idle.cons x)
  | requeue actionable => exact .requeue actionable
  | cancel actionable => exact .cancel actionable
  | revalidate proofMissing => exact .revalidate proofMissing
  | capture assessing owned => exact .capture assessing owned
  | wait status owned => exact .wait status owned
  | drain assessing owned => exact .drain assessing owned
  | rebuild draining owned => exact .rebuild draining owned
  | verify rebuilding owned => exact .verify rebuilding owned
  | defer waiting owned => exact .defer waiting owned
  | giveUp live => exact .giveUp live
  | retry live budget => exact .retry live budget

theorem transition_wp {patch : UpgradeRolloutItem → UpgradeRolloutItem} (hseen : Seen item tr)
    (hkey : ∀ at', ({ patch item with updatedAt := at' } : UpgradeRolloutItem).key = item.key)
    (hmoves : Sound tr → ∀ at', Moves w own tr item { patch item with updatedAt := at' }) :
    wp (AttemptIssued w own) (transition item patch)
      (OnOk fun u tr' => ∃ at', tr' = ⟨.compareAndSaveItem { patch item with updatedAt := at' } item.revision,
        .ok (some u)⟩ :: ⟨.now, .ok at'⟩ :: tr) tr := by
  refine wp_ask_seq rfl fun at' => wp_ask_seq ⟨item, hseen.cons _, rfl, hkey at', fun hs => ?_⟩ fun saved => ?_
  · exact (hmoves (sound_cons.1 hs).2 at').cons _
  · cases saved with
    | none => trivial
    | some u => exact ⟨at', rfl⟩

/-- What was just written is held. -/
theorem held_written {next : UpgradeRolloutItem} {expectedRevision : Nat}
    (h : Sound tr → next.status = status ∧ next.attemptId = own ∧ next.key = k) :
    Held own k status u (⟨.compareAndSaveItem next expectedRevision, .ok (some u)⟩ :: tr) where
  seen := seen_head (List.mem_singleton.2 rfl)
  holding := rfl
  sound hs := by
    obtain ⟨⟨current, hkey, rfl⟩, hs'⟩ := sound_cons.1 hs
    obtain ⟨hstatus, hown, hk⟩ := h hs'
    exact ⟨hstatus, hown, hkey.trans hk⟩

/-- An attempt goes on with the item it holds. -/
theorem Held.transition {patch : UpgradeRolloutItem → UpgradeRolloutItem} {status' : UpgradeRolloutItemStatus}
    (h : Held own k status item tr)
    (hkey : ∀ at', ({ patch item with updatedAt := at' } : UpgradeRolloutItem).key = item.key)
    (hmoves : item.status = status → item.attemptId = own →
      ∀ at', Moves w own tr item { patch item with updatedAt := at' })
    (hstatus : item.status = status → (patch item).status = status') (hown : (patch item).attemptId = item.attemptId) :
    wp (AttemptIssued w own) (transition item patch) (OnOk fun u tr' => Held own k status' u tr') tr := by
  refine wp_onOk (transition_wp h.seen hkey fun hs => hmoves (h.sound hs).1 (h.sound hs).2.1) ?_
  rintro u _ ⟨at', rfl⟩
  refine held_written fun hs => ?_
  obtain ⟨h₁, h₂, h₃⟩ := h.sound (sound_cons.1 hs).2
  exact ⟨hstatus h₁, hown.trans h₂, (hkey at').trans h₃⟩

theorem nextAttemptAt_only (n : Nat) : Only (fun o => quiet o = true) (w.nextAttemptAt n) :=
  only_bind (only_await rfl) fun _ => only_pure _

theorem throwIfAborted_only (signal : List AbortSignal) : Only (fun o => quiet o = true) (throwIfAborted signal) :=
  only_bind (only_await rfl) fun reason => by cases reason <;> trivial

theorem requireRollout_only (id : String) : Only (fun o => quiet o = true) (requireRollout id) :=
  only_bind (only_await rfl) fun detail => by cases detail <;> trivial

/-- A program whose value nobody needs. -/
theorem wp_ignored {α : Type} {p : RolloutTask α} {R : α → Exchanges → Prop} (h : wp (AttemptIssued w own) p (OnOk R) tr) :
    wp (AttemptIssued w own) p (OnOk fun _ _ => True) tr :=
  wp_onOk h fun _ _ _ => trivial

theorem Held.waitForIdle (h : Held own k status item tr) (hstatus : status = .assessing ∨ status = .draining)
    (blocker : String) : wp (AttemptIssued w own) (w.waitForIdle item blocker) (OnOk fun _ _ => True) tr := by
  refine wp_seq (h.wp_quiet (nextAttemptAt_only _)) fun next tr₁ h₁ => ?_
  refine wp_seq (wp_ignored (transition_wp h₁.seen (fun _ => rfl) fun hs at' => ?_)) fun _ _ _ => trivial
  obtain ⟨rfl, hown, -⟩ := h₁.sound hs
  exact .wait hstatus hown

/-! ## Checkpoints -/

theorem Deploys.cons {checkpoint : UpgradeRolloutWorker.Checkpoint} (h : Deploys own tr item checkpoint)
    {x : RolloutExchange} (hx : observed (x :: tr) = observed tr) : Deploys own (x :: tr) item checkpoint := by
  cases h with
  | deployed owned verifying => exact .deployed owned verifying
  | onTarget owned assessing => exact .onTarget owned assessing
  | running seen running owned => exact .running (hx.trans seen) running owned
  | committed reported owned first => exact .committed (List.mem_cons_of_mem _ reported) owned first

theorem nextCheck_wp (item : UpgradeRolloutItem) (checkpoint : UpgradeRolloutWorker.Checkpoint)
    (h : Seen item tr ∧ (Sound tr → Deploys own tr item checkpoint)) :
    wp (AttemptIssued w own) (w.nextCheck item checkpoint)
      (OnOk fun _ tr' => Seen item tr' ∧ (Sound tr' → Deploys own tr' item checkpoint)) tr := by
  cases checkpoint with
  | succeeded => exact h
  | awaitingFirstStart =>
    exact wp_seq (P := fun _ tr' => Seen item tr' ∧ (Sound tr' → Deploys own tr' item .awaitingFirstStart))
      (wp_ask_seq rfl fun now => ⟨h.1.cons _, fun hs => (h.2 (sound_cons.1 hs).2).cons rfl⟩) fun next tr₁ h₁ => h₁

/-- A checkpoint is taken for a reason. -/
theorem commit_wp {checkpoint : UpgradeRolloutWorker.Checkpoint} (hseen : Seen item tr)
    (h : Sound tr → Deploys own tr item checkpoint) :
    wp (AttemptIssued w own) (w.commitDeploymentCheckpoint item checkpoint true) (OnOk fun _ _ => True) tr := by
  refine wp_ask_seq rfl fun now => ?_
  have hnow : Seen item (⟨.now, .ok now⟩ :: tr) ∧
      (Sound (⟨.now, .ok now⟩ :: tr) → Deploys own (⟨.now, .ok now⟩ :: tr) item checkpoint) :=
    ⟨hseen.cons _, fun hs => (h (sound_cons.1 hs).2).cons rfl⟩
  refine wp_seq (nextCheck_wp (w := w) item checkpoint hnow) fun nextAt tr₁ h₁ => ?_
  refine wp_ask_seq ⟨item, checkpoint, nextAt, h₁.1, rfl, rfl, rfl, h₁.2⟩ fun saved => ?_
  cases saved with
  | none => trivial
  | some saved => exact wp_ask rfl fun _ => trivial

/-! ## Preparing an attempt -/

theorem requireContainer_only (id : String) (signal : List AbortSignal) :
    Only (fun o => quiet o = true) (UpgradeRolloutWorker.requireContainer id signal) := by
  refine only_bind (only_await rfl) fun inst => only_bind (throwIfAborted_only signal) fun _ => ?_
  cases inst <;> trivial

theorem Held.capture (h : Held own k .assessing item tr) (inst : Instance) :
    wp (AttemptIssued w own) (UpgradeRolloutWorker.captureExecutionSnapshot item inst)
      (OnOk fun u tr' => Held own k .assessing u tr') tr := by
  unfold UpgradeRolloutWorker.captureExecutionSnapshot
  split
  · exact h
  · exact h.transition (fun _ => rfl) (fun hstatus hown _ => .capture hstatus hown) id rfl

theorem assessActivity_only (item : UpgradeRolloutItem) (inst : Instance) :
    Only (fun o => quiet o = true) (UpgradeRolloutWorker.assessActivity item inst) := by
  unfold UpgradeRolloutWorker.assessActivity
  split
  · exact only_pure _
  · exact only_await rfl

theorem prepareAttempt_wp {initial : UpgradeRolloutItem} {attemptId : String} (taskKind : UpgradeRolloutTaskKind)
    (signal : List AbortSignal) (hseen : Seen initial tr) (hlive : initial.status.terminal = false)
    (hfirst : initial.status ≠ .awaitingFirstStart) (hidle : Sound tr → Idle initial tr) :
    wp (AttemptIssued w (some attemptId)) (w.prepareAttempt initial taskKind attemptId signal)
      (OnOk fun r tr' => ∀ p ∈ r, Held (some attemptId) initial.key .assessing p.1 tr') tr := by
  refine wp_ask_seq rfl fun checkedAt => ?_
  refine wp_seq (P := fun u tr' => Held (some attemptId) initial.key .assessing u tr')
    (wp_onOk (transition_wp (hseen.cons _) (fun _ => rfl) fun hs _ =>
      .assess rfl hlive hfirst ((hidle (sound_cons.1 hs).2).cons _)) ?_) fun u tr₁ h₁ => ?_
  · rintro u _ ⟨at', rfl⟩
    exact held_written fun _ => ⟨rfl, rfl, rfl⟩
  refine wp_seq (h₁.wp_quiet (throwIfAborted_only signal)) fun _ tr₂ h₂ => ?_
  refine wp_seq (h₂.wp_quiet (requireContainer_only _ signal)) fun inst tr₃ h₃ => ?_
  refine wp_seq (h₃.capture inst) fun u tr₄ h₄ => ?_
  split
  · refine wp_seq (commit_wp h₄.seen fun hs => ?_) fun _ _ _ p hp => nomatch hp
    exact .onTarget (h₄.sound hs).2.1 (h₄.sound hs).1
  · split
    · exact wp_seq (h₄.waitForIdle (.inl rfl) _) fun _ _ _ p hp => nomatch hp
    · refine wp_seq (h₄.wp_quiet (assessActivity_only u inst)) fun assessment tr₅ h₅ => ?_
      refine wp_seq (h₅.wp_quiet (throwIfAborted_only signal)) fun _ tr₆ h₆ => ?_
      split
      · intro p hp
        obtain rfl := Option.some.inj hp
        exact h₆
      · exact wp_seq (h₆.waitForIdle (.inl rfl) _) fun _ _ _ p hp => nomatch hp

theorem Held.acquireAdmission (h : Held own k .assessing item tr) (attemptId : String) (signal : List AbortSignal) :
    wp (AttemptIssued w own) (w.acquireAdmission item attemptId signal)
      (OnOk fun r tr' => r.isSome = true → Held own k .assessing item tr') tr := by
  unfold UpgradeRolloutWorker.acquireAdmission
  split
  · refine wp_seq (h.wp_quiet (only_await rfl)) fun admitted tr₁ h₁ => ?_
    refine wp_seq (h₁.wp_quiet (throwIfAborted_only signal)) fun _ tr₂ h₂ => ?_
    split
    · exact fun _ => h₂
    · exact wp_seq (h₂.waitForIdle (.inl rfl) _) fun _ _ _ hr => nomatch hr
  · exact fun _ => h

/-! ## The drain and the rebuild -/

theorem confirmActivity_only (item : UpgradeRolloutItem) (inst : Instance) :
    Only (fun o => quiet o = true) (w.confirmActivity item inst) := by
  unfold UpgradeRolloutWorker.confirmActivity
  split <;> exact only_await rfl

theorem Held.confirmDrain (h : Held own k .draining item tr) (inst : Instance) (drainAcquired : Bool)
    (signal : List AbortSignal) : wp (AttemptIssued w own) (w.confirmDrain item inst drainAcquired signal)
      (OnOk fun r tr' => r = true → Held own k .draining item tr') tr := by
  refine wp_seq (h.wp_quiet (throwIfAborted_only signal)) fun _ tr₁ h₁ => ?_
  split
  · exact fun _ => h₁
  · refine wp_seq (h₁.wp_quiet (requireContainer_only _ signal)) fun drained tr₂ h₂ => ?_
    refine wp_seq (h₂.wp_quiet (confirmActivity_only item drained)) fun confirmation tr₃ h₃ => ?_
    refine wp_seq (h₃.wp_quiet (throwIfAborted_only signal)) fun _ tr₄ h₄ => ?_
    split
    · exact fun _ => h₄
    · exact wp_seq (h₄.waitForIdle (.inr rfl) _) fun _ _ _ hr => nomatch hr

theorem acceptDeferred_only (item : UpgradeRolloutItem) (signal : List AbortSignal) :
    Only (fun o => quiet o = true) (w.acceptDeferred item signal) := by
  unfold UpgradeRolloutWorker.acceptDeferred
  split
  · refine only_bind (only_await rfl) fun accepted => only_bind (throwIfAborted_only signal) fun _ => ?_
    split
    · exact only_bind (only_await rfl) fun _ => only_bind (only_await rfl) fun _ => only_await rfl
    · exact only_pure _
  · exact only_pure _

/-- A verification looked at the instance. -/
theorem Held.verify (h : Held own k .verifying item tr) {inst : Option Instance}
    (hobs : ∀ verified ∈ inst, observed tr = some (item.instanceId, verified)) :
    wp (AttemptIssued w own) (w.verify item inst) (OnOk fun _ _ => True) tr := by
  cases inst with
  | none => trivial
  | some verified =>
    unfold UpgradeRolloutWorker.verify
    dsimp only
    split
    · split
      · exact commit_wp h.seen fun hs => .deployed (h.sound hs).2.1 (h.sound hs).1
      · next hstopped =>
        split
        · next htarget =>
          -- on the target and not meant to be stopped, the instance runs
          have hrunning : verified.status = .running := by
            obtain ⟨-, hstate⟩ := (Bool.and_eq_true _ _).mp htarget
            cases hd : item.desiredState with
            | running =>
              rw [hd] at hstate
              exact of_decide_eq_true hstate
            | stopped =>
              rw [hd] at hstate
              exact absurd ⟨hd, of_decide_eq_true hstate⟩ hstopped
          refine commit_wp h.seen fun hs => .running (hobs verified rfl) hrunning (.inl ⟨(h.sound hs).2.1, ?_⟩)
          rw [(h.sound hs).1]
          rfl
        · trivial
    · trivial

theorem Held.rebuildAndVerify (h : Held own k .draining item tr) (signal : List AbortSignal) :
    wp (AttemptIssued w own) (w.rebuildAndVerify item signal) (OnOk fun _ _ => True) tr := by
  refine wp_seq (h.transition (fun _ => rfl) (fun hs ho _ => .rebuild hs ho)
      (fun _ => show _ = UpgradeRolloutItemStatus.rebuilding from rfl) rfl)
    fun rebuilding tr₁ h₁ => ?_
  refine wp_seq (h₁.wp_quiet (requireRollout_only _)) fun detail tr₂ h₂ => ?_
  refine wp_seq (h₂.wp_quiet (throwIfAborted_only signal)) fun _ tr₃ h₃ => ?_
  refine wp_seq (h₃.wp_quiet (acceptDeferred_only _ signal)) fun _ tr₄ h₄ => ?_
  refine wp_ask_seq ⟨h₄.holding, fun hs => (h₄.sound hs).1⟩ fun _ => ?_
  have h₅ : Held own k .rebuilding rebuilding (⟨.rebuild rebuilding detail.rollout.actorUserId signal, .ok ()⟩ :: tr₄) :=
    ⟨h₄.seen.cons _, h₄.holding, fun hs => h₄.sound (sound_cons.1 hs).2⟩
  refine wp_seq (h₅.wp_quiet (throwIfAborted_only signal)) fun _ tr₆ h₆ => ?_
  refine wp_seq (h₆.transition (fun _ => rfl) (fun hs ho _ => .verify hs ho)
      (fun _ => show _ = UpgradeRolloutItemStatus.verifying from rfl) rfl)
    fun verifying tr₇ h₇ => ?_
  refine wp_ask_seq rfl fun verified => ?_
  refine wp_seq (P := fun _ tr' => tr' = ⟨.aborted signal, .ok none⟩ ::
    ⟨.getContainer verifying.instanceId, .ok verified⟩ :: tr₇) (wp_ask_seq rfl fun reason => ?_) ?_
  · cases reason <;> trivial
  · rintro _ _ rfl
    refine ((h₇.quiet rfl _).quiet rfl _).verify fun inst hinst => ?_
    obtain rfl := hinst
    rfl

/-! ## The first start -/

/-- An item that waits for its first start, under its own attempt id. -/
structure Resumed (own : Option String) (item : UpgradeRolloutItem) (tr : Exchanges) : Prop where
  seen : Seen item tr
  first : item.status = .awaitingFirstStart
  owned : item.attemptId = own

theorem Resumed.cons (h : Resumed own item tr) (x : RolloutExchange) : Resumed own item (x :: tr) where
  seen := h.seen.cons x
  first := h.first
  owned := h.owned

theorem Resumed.wp_quiet {α : Type} {p : RolloutTask α} (h : Resumed own item tr)
    (hp : Only (fun o => Rollout.quiet o = true) p) :
    wp (AttemptIssued w own) p (OnOk fun _ tr' => Resumed own item tr') tr :=
  Rollout.wp_quiet hp (fun _ _ _ hi _ => hi.cons _) h

theorem Resumed.deferFirstStart (h : Resumed own item tr) :
    wp (AttemptIssued w own) (w.deferFirstStart item) (OnOk fun _ _ => True) tr := by
  refine wp_seq (h.wp_quiet (nextAttemptAt_only _)) fun next tr₁ h₁ => ?_
  refine wp_seq (h₁.wp_quiet (only_await rfl)) fun checkedAt tr₂ h₂ => ?_
  refine wp_seq (wp_ignored (transition_wp h₂.seen (fun _ => rfl) fun _ _ => ?_)) fun _ _ _ => trivial
  exact .defer h₂.first h₂.owned

theorem Resumed.succeedRunning (h : Resumed own item tr) {inst : Instance}
    (hobs : observed tr = some (item.instanceId, inst)) (hrunning : inst.status = .running) :
    wp (AttemptIssued w own) (w.succeed item) (OnOk fun _ _ => True) tr := by
  refine commit_wp h.seen fun _ => .running hobs hrunning (.inl ⟨h.owned, ?_⟩)
  rw [h.first]
  rfl

theorem Resumed.settleFirstStart (h : Resumed own item tr) (taskKind : UpgradeRolloutTaskKind)
    {inspection : Option RebuildInspection} (signal : List AbortSignal) {inst : Instance}
    (hobs : observed tr = some (item.instanceId, inst))
    (hinspect : inspection = some .committed → ⟨.inspectRebuild item signal, .ok (some .committed)⟩ ∈ tr) :
    wp (AttemptIssued w own) (w.settleFirstStart item taskKind inspection inst) (OnOk fun _ _ => True) tr := by
  unfold UpgradeRolloutWorker.settleFirstStart
  split
  · trivial
  · split
    · exact commit_wp h.seen fun _ => .committed (hinspect rfl) h.owned h.first
    · trivial
  · split
    · split
      · next hrun => exact h.succeedRunning hobs hrun.2
      · split
        · exact h.deferFirstStart
        · trivial
    · trivial
  · split
    · exact h.deferFirstStart
    · trivial
  · split
    · split
      · trivial
      · split
        · next hrun => exact h.succeedRunning hobs hrun
        · split
          · trivial
          · exact h.deferFirstStart
    · trivial

theorem Resumed.inspection (h : Resumed own item tr) (signal : List AbortSignal) :
    wp (AttemptIssued w own) (w.inspection item signal)
      (OnOk fun r tr' => Resumed own item tr' ∧
        (r = some .committed → ⟨.inspectRebuild item signal, .ok (some .committed)⟩ ∈ tr')) tr := by
  unfold UpgradeRolloutWorker.inspection
  split
  · refine wp_ask rfl fun r => ⟨h.cons _, ?_⟩
    rintro rfl
    exact List.mem_cons_self
  · exact ⟨h, fun hr => nomatch hr⟩

theorem throwIfAborted_wp (signal : List AbortSignal) : wp (AttemptIssued w own) (throwIfAborted signal)
    (OnOk fun _ tr' => tr' = ⟨.aborted signal, .ok none⟩ :: tr) tr := by
  refine wp_ask_seq rfl fun reason => ?_
  cases reason <;> trivial

/-- The instance that is required is the one looked at last. -/
theorem requireContainer_wp (id : String) (signal : List AbortSignal) :
    wp (AttemptIssued w own) (UpgradeRolloutWorker.requireContainer id signal)
      (OnOk fun inst tr' => tr' = ⟨.aborted signal, .ok none⟩ :: ⟨.getContainer id, .ok (some inst)⟩ :: tr) tr := by
  refine wp_ask_seq rfl fun inst => wp_seq (throwIfAborted_wp signal) fun _ tr' htr => ?_
  cases inst with
  | none => trivial
  | some inst => exact htr

theorem Resumed.reconcileFirstStart (h : Resumed own item tr) (taskKind : UpgradeRolloutTaskKind)
    (signal : List AbortSignal) :
    wp (AttemptIssued w own) (w.reconcileFirstStart item taskKind signal) (OnOk fun _ _ => True) tr := by
  refine wp_seq (h.wp_quiet (throwIfAborted_only signal)) fun _ tr₁ h₁ => ?_
  refine wp_seq (h₁.inspection signal) fun inspection tr₂ h₂ => ?_
  refine wp_seq (throwIfAborted_wp signal) ?_
  rintro _ _ rfl
  refine wp_seq (requireContainer_wp _ signal) ?_
  rintro inst _ rfl
  refine Resumed.settleFirstStart (((h₂.1.cons _).cons _).cons _) taskKind signal rfl fun hr => ?_
  exact List.mem_cons_of_mem _ (List.mem_cons_of_mem _ (List.mem_cons_of_mem _ (h₂.2 hr)))

/-! ## Failures -/

theorem diagnosticsAt_only (message : String) (status : CapabilityStatus)
    (captured : Option ContainerFailureDiagnostics) (logTail : Option String) :
    Only (fun o => quiet o = true) (w.diagnosticsAt message status captured logTail) :=
  only_bind (only_await rfl) fun _ => only_pure _

theorem readDiagnostics_only (item : UpgradeRolloutItem) (message : String) (signal : List AbortSignal) :
    Only (fun o => quiet o = true) (w.readDiagnostics item message signal) := by
  unfold UpgradeRolloutWorker.readDiagnostics
  split
  · refine only_tryCatch (only_bind (only_await rfl) fun r => ?_) fun e => only_bind (only_await rfl) fun reason => ?_
    · cases r with
      | unsupported => exact only_bind (diagnosticsAt_only _ _ _ _) fun _ => only_pure _
      | unavailable error => exact only_throw _
      | supported value => exact only_bind (diagnosticsAt_only _ _ _ _) fun _ => only_pure _
    · cases reason with
      | none => exact only_bind (diagnosticsAt_only _ _ _ _) fun _ => only_pure _
      | some _ => exact only_pure _
  · exact only_pure _

theorem ignoringConflicts_wp {p : RolloutTask UpgradeRolloutItem} {R : UpgradeRolloutItem → Exchanges → Prop}
    (h : wp (AttemptIssued w own) p (OnOk R) tr) :
    wp (AttemptIssued w own) (UpgradeRolloutWorker.ignoringConflicts p) (OnOk fun _ _ => True) tr := by
  refine wp_catch (wp_seq h fun _ _ _ => trivial) fun e tr' => ?_
  split <;> trivial

theorem seen_quiet {α : Type} {p : RolloutTask α} (h : Seen item tr) (hp : Only (fun o => quiet o = true) p) :
    wp (AttemptIssued w own) p (OnOk fun _ tr' => Seen item tr') tr :=
  wp_quiet hp (fun _ _ _ hi _ => hi.cons _) h

/-- A failure is recorded on an item that is live, whoever has it. -/
theorem handleFailure_wp (hseen : Seen item tr) (hlive : item.status.terminal = false) (error : Failure)
    (signal : List AbortSignal) :
    wp (AttemptIssued w own) (w.handleFailure item error signal) (OnOk fun _ _ => True) tr := by
  refine wp_seq (seen_quiet hseen (readDiagnostics_only _ _ signal)) fun diagnostics tr₁ h₁ => ?_
  cases diagnostics with
  | none => trivial
  | some diagnostics =>
    dsimp only
    split
    · refine wp_seq (seen_quiet h₁ (only_await rfl)) fun finishedAt tr₂ h₂ => ?_
      exact ignoringConflicts_wp (transition_wp h₂ (fun _ => rfl) fun _ _ => .giveUp hlive)
    · next hbudget =>
      refine wp_seq (seen_quiet h₁ (nextAttemptAt_only _)) fun next tr₂ h₂ => ?_
      refine ignoringConflicts_wp (transition_wp h₂ (fun _ => rfl) fun _ _ => .retry hlive ?_)
      simp only [Bool.or_eq_true, decide_eq_true_eq, not_or] at hbudget
      omega

theorem mem_find {detail : UpgradeRolloutDetail} {instanceId : String} (h : detail.find instanceId = some item) :
    item ∈ detail.items ∧ item.instanceId = instanceId :=
  ⟨List.mem_of_find?_eq_some h, by simpa using List.find?_some h⟩

/-- What is found in a rollout that was read is seen. -/
theorem seen_find {detail : Option UpgradeRolloutDetail} {id instanceId : String}
    (h : detail.bind (·.find instanceId) = some item) : Seen item (⟨.getRollout id, .ok detail⟩ :: tr) := by
  obtain ⟨detail, rfl, hfind⟩ := Option.bind_eq_some_iff.1 h
  exact seen_head (mem_find hfind).1

theorem recordFailure_wp (initial : UpgradeRolloutItem) (signal : List AbortSignal) (error : Failure) :
    wp (AttemptIssued w own) (w.recordFailure initial signal error) (OnOk fun _ _ => True) tr := by
  refine wp_ask_seq rfl fun reason => ?_
  cases reason with
  | some _ => trivial
  | none =>
    dsimp only
    split
    · trivial
    · refine wp_ask_seq rfl fun latest => ?_
      cases hfind : latest.bind (·.find initial.instanceId) with
      | none => trivial
      | some current =>
        dsimp only
        split
        · trivial
        · next hlive => exact handleFailure_wp (seen_find hfind) (by simpa using hlive) error signal

/-! ## An attempt -/

/-- An item that an attempt may begin with. -/
structure Due (item : UpgradeRolloutItem) (tr : Exchanges) : Prop where
  seen : Seen item tr
  live : item.status.terminal = false
  first : item.status ≠ .awaitingFirstStart
  idle : Sound tr → Idle item tr

theorem Due.cons (h : Due item tr) (x : RolloutExchange) : Due item (x :: tr) where
  seen := h.seen.cons x
  live := h.live
  first := h.first
  idle hs := (h.idle (sound_cons.1 hs).2).cons x

theorem Due.wp_quiet {α : Type} {p : RolloutTask α} (h : Due item tr) (hp : Only (fun o => Rollout.quiet o = true) p) :
    wp (AttemptIssued w own) p (OnOk fun _ tr' => Due item tr') tr :=
  Rollout.wp_quiet hp (fun _ _ _ hi _ => hi.cons _) h

theorem Due.claim {attemptId : String} (h : Due item tr) (signal : List AbortSignal) :
    wp (AttemptIssued w (some attemptId)) (w.claim item attemptId signal)
      (OnOk fun r tr' => ∀ p ∈ r, Held (some attemptId) item.key .assessing p.1 tr') tr := by
  refine wp_seq (h.wp_quiet (throwIfAborted_only signal)) fun _ tr₁ h₁ => ?_
  refine wp_seq (h₁.wp_quiet (only_throwIf _ _)) fun _ tr₂ h₂ => ?_
  refine wp_seq (h₂.wp_quiet (requireRollout_only _)) fun detail tr₃ h₃ => ?_
  refine wp_seq (prepareAttempt_wp detail.rollout.taskKind signal h₃.seen h₃.live h₃.first h₃.idle) fun r tr₄ h₄ => ?_
  cases r with
  | none => exact fun p hp => nomatch hp
  | some p =>
    refine wp_seq ((h₄ p rfl).acquireAdmission attemptId signal) fun drainAcquired tr₅ h₅ => ?_
    cases drainAcquired with
    | none => exact fun p hp => nomatch hp
    | some drainAcquired =>
      intro p hp
      obtain rfl := Option.some.inj hp
      exact h₅ rfl

theorem Held.proceed (h : Held own k .assessing item tr) (inst : Instance) (drainAcquired : Bool)
    (signal : List AbortSignal) :
    wp (AttemptIssued w own) (w.proceed item inst drainAcquired signal) (OnOk fun _ _ => True) tr := by
  refine wp_seq (h.transition (fun _ => rfl) (fun hs ho _ => .drain hs ho)
      (fun _ => show _ = UpgradeRolloutItemStatus.draining from rfl) rfl)
    fun draining tr₁ h₁ => ?_
  refine wp_seq (h₁.confirmDrain inst drainAcquired signal) fun confirmed tr₂ h₂ => ?_
  split
  · next hconfirmed => exact (h₂ hconfirmed).rebuildAndVerify signal
  · trivial

theorem clearDrain_only (initial : UpgradeRolloutItem) (attemptId : String) (drainAcquired : Bool)
    (signal : List AbortSignal) : Only (fun o => quiet o = true) (w.clearDrain initial attemptId drainAcquired signal) := by
  unfold UpgradeRolloutWorker.clearDrain
  split
  · refine only_bind (only_await rfl) fun reason => ?_
    cases reason with
    | none => exact only_await rfl
    | some _ => exact only_pure _
  · exact only_pure _

theorem Due.attempt {attemptId : String} (h : Due item tr) (signal : List AbortSignal) :
    wp (AttemptIssued w (some attemptId)) (w.attempt item attemptId signal) (OnOk fun _ _ => True) tr := by
  refine (wp_bind _ _ _).2 ((wp_settle _ _).2 (wp_post (h.claim signal) fun r tr₁ h₁ => ?_))
  rcases r with error | _ | ⟨u, inst, drainAcquired⟩
  · exact recordFailure_wp item signal error
  · trivial
  · refine wp_post (wp_ensuring (wp_post (wp_catch ((h₁ _ rfl).proceed inst drainAcquired signal) fun error tr' =>
      recordFailure_wp item signal error) fun _ _ _ => trivial) fun tr' => ?_) fun r tr' _ => onOk_true r
    exact quiet_wp (clearDrain_only _ _ _ _)

theorem Resumed.reconcile (h : Resumed own item tr) (signal : List AbortSignal) :
    wp (AttemptIssued w own) (w.reconcile item signal) (OnOk fun _ _ => True) tr := by
  refine wp_catch ?_ fun error tr' => recordFailure_wp item signal error
  refine wp_seq (h.wp_quiet (throwIfAborted_only signal)) fun _ tr₁ h₁ => ?_
  refine wp_seq (h₁.wp_quiet (only_throwIf _ _)) fun _ tr₂ h₂ => ?_
  refine wp_seq (h₂.wp_quiet (requireRollout_only _)) fun detail tr₃ h₃ => ?_
  exact h₃.reconcileFirstStart detail.rollout.taskKind signal

/-! ## Under the lease of an item -/

/-- What keeps to the rule of an attempt keeps to the rule for every call, once the attempt is known. -/
theorem wp_issued {α : Type} {p : RolloutTask α} {Q : Except Failure α → Exchanges → Prop}
    (hown : (attemptOf tr).own = own) (hread : (attemptOf tr).unread = false)
    (h : wp (AttemptIssued w own) p Q tr) : wp (Issued w) p Q tr := by
  refine wp_post (wp_inv (I := fun tr => (attemptOf tr).own = own ∧ (attemptOf tr).unread = false) ?_
    (fun tr o hi ho => issued_of_attempt hi.1 ho) ⟨hown, hread⟩ h) fun _ _ hr => hr.1
  intro tr o r hi ho
  rw [attemptOf_cons]
  cases o with
  | getRollout id =>
    cases r with
    | ok detail => simp only [Attempt.track, hi.2, Bool.false_eq_true, if_false, hi.1, and_self]
    | error e => exact hi
  | claimItem _ | randomId => cases ho
  | _ => exact hi

/-- A read under the lease is what tells an attempt its id. -/
theorem attemptOf_getRollout (tr : Exchanges) (id : String) (detail : Option UpgradeRolloutDetail) :
    (attemptOf (⟨.getRollout id, .ok detail⟩ :: tr)).unread = false := by
  rw [attemptOf_cons]
  unfold Attempt.track
  dsimp only
  split
  · rfl
  · next h => simpa using h

theorem issued_quiet {o : RolloutOp} (h : quiet o = true) : Issued w tr o :=
  issued_of_attempt rfl (attemptIssued_quiet h)

theorem processItem_wp {initial : UpgradeRolloutItem} (signal : List AbortSignal)
    (hclaimed : attemptOf tr = { instanceId := initial.instanceId, unread := true, own := none })
    (hseen : Seen initial tr) (hdue : Sound tr → initial.status.inTransition = false) :
    wp (Issued w) (w.processItem initial signal) (OnOk fun _ _ => True) tr := by
  refine wp_ask_seq (issued_quiet rfl) fun latestRollout => ?_
  have hread := attemptOf_getRollout tr initial.rolloutId latestRollout
  have hown : (attemptOf (⟨.getRollout initial.rolloutId, .ok latestRollout⟩ :: tr)).own =
      resumedAttempt initial.instanceId latestRollout := by
    rw [attemptOf_cons, hclaimed]
    rfl
  cases hfind : latestRollout.bind (·.find initial.instanceId) with
  | none => trivial
  | some latest =>
    dsimp only
    split
    · trivial
    · next hcurrent =>
      simp only [Bool.or_eq_true, decide_eq_true_eq, not_or, not_not, Bool.not_eq_true] at hcurrent
      have hlatest : Seen latest (⟨.getRollout initial.rolloutId, .ok latestRollout⟩ :: tr) := seen_find hfind
      split
      · next hfirst =>
        refine wp_issued hown hread (Resumed.reconcile ⟨hlatest, hfirst, ?_⟩ signal)
        simp only [resumedAttempt, hfind, Option.filter_some, hfirst, decide_true, if_true, Option.bind_some]
      · next hfirst =>
        refine wp_ask_seq trivial fun attemptId => ?_
        refine wp_issued (show (attemptOf _).own = some attemptId from rfl) hread (Due.attempt ⟨hlatest.cons _, hcurrent.2, hfirst, fun hs => ?_⟩ signal)
        -- the item is as it was when it was found to be due
        obtain ⟨-, hs⟩ := sound_cons.1 hs
        refine ⟨initial, (hseen.cons _).cons _, ?_, hcurrent.1.symm, hdue (sound_cons.1 hs).2⟩
        obtain ⟨detail, rfl, hd⟩ := Option.bind_eq_some_iff.1 hfind
        obtain ⟨hmem, hid⟩ := mem_find hd
        exact Prod.ext ((sound_cons.1 hs).1.2 latest hmem).symm hid.symm

end Attempts

end OpenApp.Rollout
