import OpenApp.Workspace.Reconciler

/-!
# Which Workspaces a run reaches

A run looks at the first projections in the order of their Workspaces, whether they need reconciliation or not. What
needs it further down the order is never reached, however often the reconciler runs.
-/

namespace OpenApp.Reconciler

open Async Async.Prog

/-- The Workspaces a lease was asked for, in turn. -/
def Event.attempts (event : Event) : Option String :=
  match event.op with
  | .withLease (.workspace id) => some id
  | _ => none

/-- The Workspace that is resolved or reconciled. -/
def Event.tries (event : Event) : Option String :=
  match event.op with
  | .resolveInput projection => some projection.workspace.id
  | .reconcile input => some input.workspaceId
  | _ => none

def Event.reconciles (id : String) (event : Event) : Bool :=
  match event.op with
  | .reconcile input => input.workspaceId = id
  | _ => false

def attempted (events : List Event) : List String :=
  events.filterMap Event.attempts

/-- What fails for good is not tried again. -/
def NotRetried (options : WorkspaceExecutionReconcilerOptions) (earlier later : Event) : Prop :=
  ∀ id error, earlier.tries = some id → earlier.choice = .throws error → isRetryable options error = false →
    later.tries ≠ some id

def needing (projections : List WorkspaceExecutionProjection) : List WorkspaceExecutionProjection :=
  projections.filter needsReconciliation

abbrev idsOf (projections : List WorkspaceExecutionProjection) : List String :=
  projections.map (·.workspace.id)

/-- What one run does about the projections that are listed. -/
structure RunCovers (options : WorkspaceExecutionReconcilerOptions) (projections : List WorkspaceExecutionProjection)
    (events : List Event) : Prop where
  selected : (attempted events).length = min (needing projections).length (maxItems options)
  once : (attempted events).Nodup
  needing : ∀ id ∈ attempted events, id ∈ idsOf (needing projections)
  /-- whatever became of the others -/
  tried : ∀ id, ⟨.withLease (.workspace id), .goes⟩ ∈ events → ∃ event ∈ events, event.tries = some id
  bounded : ∀ id, events.countP (Event.reconciles id) ≤ maxAttempts options
  retried : events.Pairwise (NotRetried options)

/-- The lease of the run itself is granted. -/
def Granted (_ : World) (o : ReconcileOp) (choice : Choice) : Prop :=
  o = .withLease .reconciler → choice = .goes

def GoesThrough (_ : World) (_ : ReconcileOp) (choice : Choice) : Prop :=
  choice = .goes

section Ends

variable {options : WorkspaceExecutionReconcilerOptions}
  {inputOf : WorkspaceExecutionProjection → WorkspaceExecutionReconcileInput}
  {reconciled : WorkspaceExecutionProjection → WorkspaceExecutionProjection} {w w' : World}
  {projection : WorkspaceExecutionProjection} {events : List Event} {P : World → ReconcileOp → Choice → Prop}

theorem positiveBound_pos (value : Option Int) {fallback : Nat} (maximum : Nat) (h : 0 < fallback) :
    0 < positiveBound value fallback maximum := by
  unfold positiveBound
  split
  · split <;> omega
  · exact h

theorem maxItems_pos (options : WorkspaceExecutionReconcilerOptions) : 0 < maxItems options :=
  positiveBound_pos _ _ (by omega)

theorem maxAttempts_pos (options : WorkspaceExecutionReconcilerOptions) : 0 < maxAttempts options :=
  positiveBound_pos _ _ (by omega)

/-! ## One Workspace -/

/-- The calls of one try. -/
def Tries (inputOf : WorkspaceExecutionProjection → WorkspaceExecutionReconcileInput)
    (projection : WorkspaceExecutionProjection) : Except Thrown Unit → List Event → Prop
  | .ok _, events =>
    events = [⟨.resolveInput projection, .goes⟩, ⟨.reconcile (resolvedInput inputOf projection), .goes⟩]
  | .error error, events => events = [⟨.resolveInput projection, .throws error⟩] ∨
    events = [⟨.resolveInput projection, .goes⟩, ⟨.reconcile (resolvedInput inputOf projection), .throws error⟩]

theorem ends_reconcileAttempt : ends (perform inputOf reconciled) P (reconcileAttempt projection)
    (fun r w' => ∃ events, w'.events = w.events ++ events ∧ Tries inputOf projection r events) w := by
  refine ends_then (R := fun r w' => match r with
    | .ok input => input = resolvedInput inputOf projection ∧ w'.events = w.events ++ [⟨.resolveInput projection, .goes⟩]
    | .error error => w'.events = w.events ++ [⟨.resolveInput projection, .throws error⟩]) (ends_await ?_) ?_ ?_
  · intro x r _ hr
    cases x with
    | goes =>
      obtain rfl := Option.some.inj hr
      exact ⟨rfl, rfl⟩
    | busy => cases hr
    | throws error =>
      obtain rfl := Option.some.inj hr
      rfl
  · exact fun error w₁ h => ⟨_, h, .inl rfl⟩
  · rintro _ w₁ ⟨rfl, hevents⟩
    refine ends_await fun x r _ hr => ?_
    cases x with
    | goes =>
      obtain rfl := Option.some.inj hr
      refine ⟨_, ?_, rfl⟩
      simp [World.called, World.reconcile, hevents]
    | busy => cases hr
    | throws error =>
      obtain rfl := Option.some.inj hr
      refine ⟨_, ?_, .inr rfl⟩
      simp [World.called, hevents]

/-- The calls for one Workspace: they are about nothing else, and end with a failure for good. -/
structure Block (options : WorkspaceExecutionReconcilerOptions) (id : String) (left : Nat) (events : List Event) : Prop where
  attempts : attempted events = []
  about : ∀ event ∈ events, ∀ other ∈ event.tries, other = id
  bounded : events.countP (Event.reconciles id) ≤ left
  retried : events.Pairwise (NotRetried options)

theorem Tries.block {r : Except Thrown Unit} (h : Tries inputOf projection r events) :
    Block options projection.workspace.id 1 events := by
  rcases r with error | _
  · rcases h with rfl | rfl <;> constructor <;>
      simp [attempted, Event.attempts, Event.tries, Event.reconciles, NotRetried, resolvedInput]
  · obtain rfl := h
    constructor <;>
      simp [attempted, Event.attempts, Event.tries, Event.reconciles, NotRetried, resolvedInput]

theorem Tries.tried {r : Except Thrown Unit} (h : Tries inputOf projection r events) :
    ∃ event ∈ events, event.tries = some projection.workspace.id := by
  rcases r with error | _
  · rcases h with rfl | rfl
    · exact ⟨_, List.mem_singleton_self _, rfl⟩
    · exact ⟨⟨.resolveInput projection, .goes⟩, by simp, rfl⟩
  · obtain rfl := h
    exact ⟨⟨.resolveInput projection, .goes⟩, by simp, rfl⟩

/-- What is thrown is the failure the try ends with. -/
theorem Tries.thrown {error : Thrown} (h : Tries inputOf projection (.error error) events) :
    ∀ event ∈ events, ∀ other, event.choice = .throws other → other = error := by
  rcases h with rfl | rfl <;> intro event hevent other hthrown
  · obtain rfl := List.mem_singleton.1 hevent
    exact (Choice.throws.inj hthrown).symm
  · simp only [List.mem_cons, List.not_mem_nil, or_false] at hevent
    rcases hevent with rfl | rfl
    · cases hthrown
    · exact (Choice.throws.inj hthrown).symm

theorem Block.delayed {id : String} {left : Nat} (h : Block options id left events) (milliseconds : Nat) :
    Block options id left (⟨.delay milliseconds, .goes⟩ :: events) where
  attempts := by simpa [attempted, Event.attempts] using h.attempts
  about := by
    intro event hevent other hother
    rcases List.mem_cons.1 hevent with rfl | hevent
    · cases hother
    · exact h.about event hevent other hother
  bounded := by simpa [Event.reconciles] using h.bounded
  retried := List.pairwise_cons.2 ⟨fun _ _ _ _ htries => (nomatch htries), h.retried⟩

/-- Another block after a try that failed for the moment. -/
theorem Tries.followed {error : Thrown} {tries : List Event} {left : Nat}
    (h : Tries inputOf projection (.error error) tries) (hretryable : isRetryable options error = true)
    (hblock : Block options projection.workspace.id left events) :
    Block options projection.workspace.id (left + 1) (tries ++ events) where
  attempts := by
    have hblocked : Block options projection.workspace.id 1 tries := h.block
    have hnone := hblocked.attempts
    simp only [attempted] at hnone
    simp [attempted, hnone, show events.filterMap Event.attempts = [] from hblock.attempts]
  about := by
    intro event hevent other hother
    rcases List.mem_append.1 hevent with hevent | hevent
    · have hblocked : Block options projection.workspace.id 1 tries := h.block
      exact hblocked.about event hevent other hother
    · exact hblock.about event hevent other hother
  bounded := by
    have hblocked : Block options projection.workspace.id 1 tries := h.block
    have h₁ := hblocked.bounded
    have h₂ := hblock.bounded
    rw [List.countP_append]
    omega
  retried := by
    refine List.pairwise_append.2 ⟨h.block.retried, hblock.retried, ?_⟩
    -- nothing in the try failed for good
    intro earlier hearlier later _ _ other _ hthrown hfinal
    obtain rfl := h.thrown earlier hearlier other hthrown
    rw [hretryable] at hfinal
    cases hfinal

/-- The loop ends with an entry, and has tried if it may at all. -/
theorem ends_reconcileAttempts (attempts : Nat) (lastError : Option Thrown) (left : Nat) :
    ends (perform inputOf reconciled) P (reconcileAttempts options projection attempts lastError left)
      (fun r w' => (∃ entry, r = .ok entry) ∧ ∃ events, w'.events = w.events ++ events ∧
        Block options projection.workspace.id left events ∧
        (left ≠ 0 → ∃ event ∈ events, event.tries = some projection.workspace.id)) w := by
  induction left generalizing attempts lastError w with
  | zero => exact ⟨⟨_, rfl⟩, [], by simp, ⟨rfl, by simp, by simp, .nil⟩, fun h => absurd rfl h⟩
  | succ left ih =>
    refine ends_then (R := fun r w₁ => ∃ outcome, r = .ok outcome ∧ ∃ tries,
      w₁.events = w.events ++ tries ∧ Tries inputOf projection outcome tries)
      (ends_settle (ends_mono ends_reconcileAttempt fun r w₁ h => ⟨r, rfl, h⟩)) (by simp) ?_
    rintro outcome w₁ ⟨_, h, tries, hevents, htries⟩
    obtain rfl := Except.ok.inj h
    have hblock : Block options projection.workspace.id 1 tries := htries.block
    have hwithin : Block options projection.workspace.id (left + 1) tries :=
      ⟨hblock.attempts, hblock.about, Nat.le_trans hblock.bounded (Nat.le_add_left 1 left), hblock.retried⟩
    rcases outcome with error | _
    · dsimp only
      split
      · exact ⟨⟨_, rfl⟩, tries, hevents, hwithin, fun _ => htries.tried⟩
      · rename_i hgo
        have hretryable : isRetryable options error = true := by
          by_contra h
          exact hgo (.inl (by simpa using h))
        refine ends_then (R := fun r w₂ => r = .ok () ∧
          w₂.events = w₁.events ++ [⟨.delay (retryDelayMs options * (attempts + 1)), .goes⟩]) (ends_await ?_) (by simp) ?_
        · intro x r _ hr
          cases x with
          | goes =>
            obtain rfl := Option.some.inj hr
            exact ⟨rfl, rfl⟩
          | busy => cases hr
          | throws error => cases hr
        · rintro _ w₂ ⟨-, hdelay⟩
          refine ends_mono (ih (attempts + 1) (some error)) ?_
          rintro r w₃ ⟨hentry, events, hrest, hnext, -⟩
          refine ⟨hentry, tries ++ ⟨.delay (retryDelayMs options * (attempts + 1)), .goes⟩ :: events, ?_, htries.followed hretryable (hnext.delayed _), fun _ => ?_⟩
          · rw [hrest, hdelay, hevents]
            simp
          · obtain ⟨event, hevent, htried⟩ := htries.tried
            exact ⟨event, List.mem_append_left _ hevent, htried⟩
    · exact ⟨⟨_, rfl⟩, tries, hevents, hwithin, fun _ => htries.tried⟩

/-! ## The projections a run takes -/

/-- What the run does about the projections it takes, and what it is granted. -/
structure Coverage (options : WorkspaceExecutionReconcilerOptions) (projections : List WorkspaceExecutionProjection)
    (events : List Event) : Prop where
  selected : attempted events = idsOf (needing projections)
  about : ∀ event ∈ events, ∀ id ∈ event.tries, id ∈ idsOf (needing projections)
  granted : ∀ id, ⟨.withLease (.workspace id), .goes⟩ ∈ events → ∃ event ∈ events, event.tries = some id
  bounded : ∀ id, events.countP (Event.reconciles id) ≤ maxAttempts options
  retried : events.Pairwise (NotRetried options)

theorem Coverage.nil : Coverage options [] [] :=
  ⟨rfl, by simp, by simp, by simp, .nil⟩

theorem Coverage.skip {projections : List WorkspaceExecutionProjection} (h : Coverage options projections events)
    (hneeds : needsReconciliation projection = false) : Coverage options (projection :: projections) events := by
  have hsame : needing (projection :: projections) = needing projections := by simp [needing, hneeds]
  exact ⟨hsame ▸ h.selected, hsame ▸ h.about, h.granted, h.bounded, h.retried⟩

theorem Event.tries_of_reconciles {event : Event} {id : String} (h : event.reconciles id = true) :
    event.tries = some id := by
  obtain ⟨op, choice⟩ := event
  cases op <;> simp_all [Event.reconciles, Event.tries]

/-- A lease that is asked for and what follows it, before the rest of the run. -/
theorem Coverage.cons {projections : List WorkspaceExecutionProjection} {choice : Choice} {block rest : List Event}
    (hrest : Coverage options projections rest) (hneeds : needsReconciliation projection = true)
    (hblock : Block options projection.workspace.id (maxAttempts options) block)
    (hgranted : choice = .goes → ∃ event ∈ block, event.tries = some projection.workspace.id)
    (hnew : projection.workspace.id ∉ idsOf projections) :
    Coverage options (projection :: projections) (⟨.withLease (.workspace projection.workspace.id), choice⟩ :: block ++ rest) := by
  have hids : idsOf (needing (projection :: projections)) = projection.workspace.id :: idsOf (needing projections) := by
    simp [needing, hneeds]
  have hother : projection.workspace.id ∉ idsOf (needing projections) :=
    fun h => hnew (List.map_subset _ List.filter_sublist.subset h)
  constructor
  · rw [hids, ← hrest.selected]
    have hnone : block.filterMap Event.attempts = [] := hblock.attempts
    simp [attempted, hnone, Event.attempts]
  · intro event hevent id hid
    rw [hids]
    rcases List.mem_append.1 hevent with hevent | hevent
    · rcases List.mem_cons.1 hevent with rfl | hevent
      · cases hid
      · exact List.mem_cons.2 (.inl (hblock.about event hevent id hid))
    · exact List.mem_cons_of_mem _ (hrest.about event hevent id hid)
  · intro id hlease
    rcases List.mem_append.1 hlease with hlease | hlease
    · rcases List.mem_cons.1 hlease with h | hlease
      · obtain ⟨event, hevent, htried⟩ := hgranted (by cases h; rfl)
        exact ⟨event, by simp [hevent], by cases h; exact htried⟩
      · have hasked : id ∈ attempted block := List.mem_filterMap.2 ⟨_, hlease, rfl⟩
        rw [hblock.attempts] at hasked
        cases hasked
    · obtain ⟨event, hevent, htried⟩ := hrest.granted id hlease
      exact ⟨event, List.mem_append_right _ hevent, htried⟩
  · intro id
    -- a Workspace is reconciled in the block or after it, not in both
    by_cases hid : id = projection.workspace.id
    · subst hid
      have hzero : rest.countP (Event.reconciles projection.workspace.id) = 0 :=
        List.countP_eq_zero.2 fun event hevent h =>
          hother (hrest.about event hevent _ (Event.tries_of_reconciles h))
      have hle := hblock.bounded
      simp only [List.cons_append, List.countP_cons, List.countP_append, hzero, Event.reconciles]
      simpa using hle
    · have hzero : block.countP (Event.reconciles id) = 0 :=
        List.countP_eq_zero.2 fun event hevent h => hid (hblock.about event hevent id (Event.tries_of_reconciles h))
      have hle := hrest.bounded id
      simp only [List.cons_append, List.countP_cons, List.countP_append, hzero, Event.reconciles]
      simpa using hle
  · refine List.pairwise_append.2 ⟨List.pairwise_cons.2 ⟨?_, hblock.retried⟩, hrest.retried, ?_⟩
    · intro later _ id error htried
      cases htried
    · intro earlier hearlier later hlater id error htried _ _ hagain
      rcases List.mem_cons.1 hearlier with rfl | hearlier
      · cases htried
      · exact hother (hblock.about earlier hearlier id htried ▸ hrest.about later hlater id hagain)

/-! ## A run -/

theorem ends_withLease {α : Type} {name : LeaseName} {operation : Task α} {Q : Except Thrown (Option α) → World → Prop}
    (hgoes : ends (perform inputOf reconciled) P operation (fun r w' => Q (r.map some) w') (w.called (.withLease name) .goes))
    (hbusy : P w (.withLease name) .busy → Q (.ok none) (w.called (.withLease name) .busy)) :
    ends (perform inputOf reconciled) P (withLease name operation) Q w := by
  refine ends_then (R := fun r w₁ => (r = .ok true ∧ w₁ = w.called (.withLease name) .goes) ∨
    (r = .ok false ∧ w₁ = w.called (.withLease name) .busy ∧ P w (.withLease name) .busy)) (ends_await ?_) ?_ ?_
  · intro x r hx hr
    cases x with
    | goes =>
      obtain rfl := Option.some.inj hr
      exact .inl ⟨rfl, rfl⟩
    | busy =>
      obtain rfl := Option.some.inj hr
      exact .inr ⟨rfl, rfl, hx⟩
    | throws error => cases hr
  · rintro error w₁ (⟨h, -⟩ | ⟨h, -⟩) <;> cases h
  · rintro granted w₁ (⟨h, rfl⟩ | ⟨h, rfl, hx⟩) <;> obtain rfl := Except.ok.inj h
    · change ends _ _ (operation >>= fun a => pure (some a)) _ _
      exact ends_bind.2 (ends_mono hgoes fun r w₂ h => by cases r <;> exact h)
    · exact hbusy hx

theorem ends_reconcileAll {projections : List WorkspaceExecutionProjection} (hnodup : (idsOf projections).Nodup)
    (report : ReconcileRunReport) :
    ends (perform inputOf reconciled) P (reconcileAll options projections report)
      (fun r w' => (∃ report, r = .ok report) ∧ ∃ events, w'.events = w.events ++ events ∧
        Coverage options projections events) w := by
  induction projections generalizing report w with
  | nil => exact ⟨⟨_, rfl⟩, [], by simp, .nil⟩
  | cons projection projections ih =>
    obtain ⟨hnew, hnodup⟩ := List.nodup_cons.1 hnodup
    cases hneeds : needsReconciliation projection with
    | false =>
      simp only [reconcileAll, hneeds]
      refine ends_mono (ih hnodup _) ?_
      rintro r w' ⟨hr, events, hevents, hcover⟩
      exact ⟨hr, events, hevents, hcover.skip hneeds⟩
    | true =>
      simp only [reconcileAll, hneeds, Bool.true_eq_false, if_false]
      refine ends_then (R := fun r w₁ => (∃ result, r = .ok result) ∧ ∃ choice block,
        w₁.events = w.events ++ ⟨.withLease (.workspace projection.workspace.id), choice⟩ :: block ∧
        Block options projection.workspace.id (maxAttempts options) block ∧
        (choice = .goes → ∃ event ∈ block, event.tries = some projection.workspace.id)) (ends_withLease ?_ ?_) (by simp) ?_
      · refine ends_mono (ends_reconcileAttempts 0 none (maxAttempts options)) ?_
        rintro _ w₁ ⟨⟨entry, rfl⟩, block, hevents, hblock, htried⟩
        exact ⟨⟨_, rfl⟩, .goes, block, by simp [hevents, World.called], hblock, fun _ => htried (Nat.ne_of_gt (maxAttempts_pos options))⟩
      · exact fun _ => ⟨⟨_, rfl⟩, .busy, [], rfl, ⟨rfl, by simp, by simp, .nil⟩, nofun⟩
      · rintro result w₁ ⟨-, choice, block, hblockEvents, hblock, hgranted⟩
        refine ends_mono (ih hnodup _) ?_
        rintro r w₂ ⟨hr, rest, hrest, hcover⟩
        exact ⟨hr, _, by rw [hrest, hblockEvents, List.append_assoc], hcover.cons hneeds hblock hgranted hnew⟩

/-- A call that is about no Workspace, before the others. -/
theorem Coverage.preceded {projections : List WorkspaceExecutionProjection} {event : Event}
    (h : Coverage options projections events) (hattempts : event.attempts = none) (htries : event.tries = none) :
    Coverage options projections (event :: events) where
  selected := by simpa [attempted, hattempts] using h.selected
  about := by
    intro other hother id hid
    rcases List.mem_cons.1 hother with rfl | hother
    · rw [htries] at hid
      cases hid
    · exact h.about other hother id hid
  granted := by
    intro id hlease
    rcases List.mem_cons.1 hlease with rfl | hlease
    · cases hattempts
    · obtain ⟨other, hother, htried⟩ := h.granted id hlease
      exact ⟨other, List.mem_cons_of_mem _ hother, htried⟩
  bounded := by
    intro id
    have hfalse : ¬ event.reconciles id = true := by
      intro hreconciles
      rw [Event.tries_of_reconciles hreconciles] at htries
      cases htries
    simpa [List.countP_cons, hfalse] using h.bounded id
  retried := List.pairwise_cons.2 ⟨fun _ _ _ _ htried => absurd (htries.symm.trans htried) (by simp), h.retried⟩

/-- The list the reconciler goes through. -/
def taken (options : WorkspaceExecutionReconcilerOptions) (projections : List WorkspaceExecutionProjection) :
    List WorkspaceExecutionProjection :=
  (sorted options projections).take (maxItems options)

theorem ends_listed : ends (perform inputOf reconciled) P (sorted options <$> await .listProjections)
    (fun r w₁ => r = .ok (sorted options w.projections) ∧ w₁.projections = w.projections ∧
      w₁.events = w.events ++ [⟨.listProjections, .goes⟩]) w := by
  change ends _ _ (await .listProjections >>= fun projections => pure (sorted options projections)) _ w
  refine ends_bind.2 (ends_await fun x r _ hr => ?_)
  cases x with
  | goes =>
    obtain rfl := Option.some.inj hr
    exact ⟨rfl, rfl, rfl⟩
  | busy => cases hr
  | throws error => cases hr

/-- Once the run has its lease, its result is what going through the list makes of it. -/
theorem ends_runOnce {Q : Except Thrown ReconcileRunReport → World → Prop}
    (hgranted : ¬ P w (.withLease .reconciler) .busy)
    (h : ∀ report w₁, w₁.projections = w.projections →
      w₁.events = w.events ++ [⟨.withLease .reconciler, .goes⟩, ⟨.listProjections, .goes⟩] →
      ends (perform inputOf reconciled) P (reconcileAll options (taken options w.projections) report) Q w₁) :
    ends (perform inputOf reconciled) P (runOnce options) Q w := by
  have hend : ∀ (r : Except Thrown (Option ReconcileRunReport)) w', Q (r.map (·.getD .empty)) w' →
      Goes (perform inputOf reconciled) P (fun report : Option ReconcileRunReport => pure (report.getD .empty)) Q r w' := by
    intro r w' hQ
    cases r <;> exact hQ
  refine ends_bind.2 (ends_mono (ends_withLease (Q := fun r w' => Q (r.map (·.getD .empty)) w') ?_
    fun hbusy => absurd hbusy hgranted) hend)
  refine ends_then ends_listed (fun _ _ hfail => nomatch hfail.1) ?_
  rintro listed w₁ ⟨hlisted, hprojections, hevents⟩
  obtain rfl := Except.ok.inj hlisted
  refine ends_mono (h _ w₁ hprojections ?_) ?_
  · simp [hevents, World.called]
  · intro r w₂ hQ
    cases r <;> exact hQ

theorem nodup_sorted {projections : List WorkspaceExecutionProjection} (h : (idsOf projections).Nodup) :
    (idsOf (sorted options projections)).Nodup :=
  ((List.mergeSort_perm _ _).map _).nodup_iff.2 h

theorem ends_runOnce_covers (hnodup : (idsOf w.projections).Nodup) (hgranted : ¬ P w (.withLease .reconciler) .busy) :
    ends (perform inputOf reconciled) P (runOnce options)
      (fun r w' => (∃ report, r = .ok report) ∧ ∃ events, w'.events = w.events ++ events ∧
        Coverage options (taken options w.projections) events) w := by
  have htaken : (idsOf (taken options w.projections)).Nodup :=
    (nodup_sorted hnodup).sublist ((List.take_sublist _ _).map _)
  refine ends_runOnce hgranted fun report w₁ _ hevents => ends_mono (ends_reconcileAll htaken report) ?_
  rintro r w₂ ⟨hr, events, hrest, hcover⟩
  refine ⟨hr, _, by rw [hrest, hevents, List.append_assoc], ?_⟩
  exact (hcover.preceded rfl rfl).preceded rfl rfl

/-! ## Where nothing fails -/

/-- What a run leaves of a projection where every call of it goes through. -/
def settledAt (reconciled : WorkspaceExecutionProjection → WorkspaceExecutionProjection) (ids : List String)
    (projection : WorkspaceExecutionProjection) : WorkspaceExecutionProjection :=
  if projection.workspace.id ∈ ids then reconciled projection else projection

theorem goes_reconcileAttempt : ends (perform inputOf reconciled) GoesThrough (reconcileAttempt projection)
    (fun r w' => r = .ok () ∧ w'.projections = (w.reconcile reconciled projection.workspace.id).projections) w := by
  refine ends_then (R := fun r w₁ => r = .ok (resolvedInput inputOf projection) ∧ w₁.projections = w.projections)
    (ends_await ?_) (by simp) ?_
  · intro x r hx hr
    obtain rfl : x = .goes := hx
    obtain rfl := Option.some.inj hr
    exact ⟨rfl, rfl⟩
  · rintro input w₁ ⟨h, hprojections⟩
    obtain rfl := Except.ok.inj h
    refine ends_await fun x r hx hr => ?_
    obtain rfl : x = .goes := hx
    obtain rfl := Option.some.inj hr
    refine ⟨rfl, ?_⟩
    simp only [World.called, World.reconcile, hprojections]
    rfl

theorem goes_reconcileOne : ends (perform inputOf reconciled) GoesThrough (reconcileOne options projection)
    (fun r w' => (∃ entry, r = .ok entry) ∧
      w'.projections = (w.reconcile reconciled projection.workspace.id).projections) w := by
  obtain ⟨left, hleft⟩ := Nat.exists_eq_succ_of_ne_zero (Nat.ne_of_gt (maxAttempts_pos options))
  rw [reconcileOne, hleft]
  refine ends_then (R := fun r w₁ => r = .ok (.ok ()) ∧
    w₁.projections = (w.reconcile reconciled projection.workspace.id).projections)
    (ends_settle (ends_mono goes_reconcileAttempt fun r w₁ h => ⟨by rw [h.1], h.2⟩)) (by simp) ?_
  rintro outcome w₁ ⟨h, hprojections⟩
  obtain rfl := Except.ok.inj h
  exact ⟨⟨_, rfl⟩, hprojections⟩

theorem goes_reconcileAll (hid : ∀ p, (reconciled p).workspace.id = p.workspace.id)
    {projections : List WorkspaceExecutionProjection} (hnodup : (idsOf projections).Nodup) (report : ReconcileRunReport) :
    ends (perform inputOf reconciled) GoesThrough (reconcileAll options projections report)
      (fun _ w' => w'.projections = w.projections.map (settledAt reconciled (idsOf (needing projections)))) w := by
  induction projections generalizing report w with
  | nil =>
    have hsame : settledAt reconciled (idsOf (needing [])) = id := by
      funext p
      simp [settledAt, needing]
    simp [reconcileAll, hsame]
  | cons projection projections ih =>
    obtain ⟨hnew, hnodup⟩ := List.nodup_cons.1 hnodup
    cases hneeds : needsReconciliation projection with
    | false =>
      have hsame : needing (projection :: projections) = needing projections := by simp [needing, hneeds]
      simp only [reconcileAll, hneeds, hsame]
      exact ih hnodup _
    | true =>
      have hids : idsOf (needing (projection :: projections)) = projection.workspace.id :: idsOf (needing projections) := by
        simp [needing, hneeds]
      have hother : projection.workspace.id ∉ idsOf (needing projections) :=
        fun h => hnew (List.map_subset _ List.filter_sublist.subset h)
      simp only [reconcileAll, hneeds, Bool.true_eq_false, if_false]
      refine ends_then (R := fun r w₁ => (∃ result, r = .ok result) ∧
        w₁.projections = (w.reconcile reconciled projection.workspace.id).projections) (ends_withLease ?_ ?_) (by simp) ?_
      · refine ends_mono goes_reconcileOne ?_
        rintro _ w₁ ⟨⟨entry, rfl⟩, hprojections⟩
        exact ⟨⟨_, rfl⟩, hprojections⟩
      · intro hbusy
        cases hbusy
      · rintro result w₁ ⟨-, hprojections⟩
        refine ends_mono (ih hnodup _) ?_
        intro r w₂ h
        rw [h, hprojections, hids, World.reconcile, List.map_map]
        refine List.map_congr_left fun p _ => ?_
        by_cases hp : p.workspace.id = projection.workspace.id
        · simp [settledAt, hp, hid, hother]
        · simp [settledAt, hp]

end Ends

end OpenApp.Reconciler
