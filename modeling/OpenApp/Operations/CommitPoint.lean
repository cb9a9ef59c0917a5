import OpenApp.Async.Solo
import OpenApp.Operations.Life

/-!
# Cancellation and the commit point

The locks keep apart what one manager does. What several managers do is kept apart by the revision alone: a write takes
effect only on the operation that its caller has read. So an operation moves only along its life, and of a commit point
and a cancellation only one gets through.
-/

namespace OpenApp.Execution

open Async Async.Prog Keyed
open Operations (AdminOperation AdminOperationStatus OperationStore OperationFailure queuedOperation)

variable {m : AdminOperationManager} {call : ExecutionCall} {current next operation : AdminOperation} {id : String}
  {w w' : World}

/-! ## What the world does -/

theorem compareAndSave_cases (store : OperationStore) (next : AdminOperation) (expectedRevision : Nat) :
    OperationStore.compareAndSaveOperation store next expectedRevision = (none, store) ∨
      ∃ current, store.get next.id = some current ∧ current.revision = expectedRevision ∧
        OperationStore.compareAndSaveOperation store next expectedRevision =
          (some { next with revision := expectedRevision + 1 }, store.put { next with revision := expectedRevision + 1 }) := by
  unfold OperationStore.compareAndSaveOperation
  cases hget : store.get next.id with
  | none => exact .inl rfl
  | some current =>
    dsimp only
    split
    · exact .inl rfl
    · next hrevision =>
      rw [not_not] at hrevision
      exact .inr ⟨current, rfl, hrevision, rfl⟩

/-- The operation was replaced at this revision. -/
structure Saved (w : World) (next : AdminOperation) (expectedRevision : Nat) (current : AdminOperation) (w' : World) : Prop where
  found : w.operations.get next.id = some current
  revision : current.revision = expectedRevision
  store : w'.operations = w.operations.put { next with revision := expectedRevision + 1 }
  ids : w'.ids = w.ids

/-- A call that reports what it has saved has saved it. -/
theorem perform_compareAndSave {expectedRevision : Nat} {x : ExecutionChoice} {updated : AdminOperation}
    (h : w.perform (.compareAndSaveOperation next expectedRevision) x = some (.ok (some updated), w')) :
    ∃ current, Saved w next expectedRevision current w' := by
  cases x with
  | go =>
    simp only [World.perform, World.stored, Option.some_or, Option.map_some, Option.some.injEq, Prod.mk.injEq,
      Except.ok.injEq] at h
    obtain ⟨hanswer, rfl⟩ := h
    rcases compareAndSave_cases w.operations next expectedRevision with hnone | ⟨current, hfound, hrevision, hsome⟩
    · rw [hnone] at hanswer
      cases hanswer
    · exact ⟨current, hfound, hrevision, congrArg Prod.snd hsome, rfl⟩
  | fails error | lost error =>
    obtain ⟨hanswer, -⟩ := Prod.mk.inj (Option.some.inj h)
    cases hanswer
  | text | texts | clock | ends | submits => cases h

theorem perform_getOperation {x : ExecutionChoice} {r : Except OperationFailure (Option AdminOperation)}
    (h : w.perform (.getOperation id) x = some (r, w')) : w' = w ∧ ∀ found, r = .ok found → found = w.operations.get id := by
  cases x with
  | go =>
    simp only [World.perform, World.stored, Option.some_or, Option.map_some, Option.some.injEq, Prod.mk.injEq] at h
    obtain ⟨rfl, rfl⟩ := h
    exact ⟨rfl, fun _ h => by cases h; rfl⟩
  | fails error | lost error =>
    simp only [World.perform, World.stored, Option.map_some, Option.some.injEq, Prod.mk.injEq] at h
    obtain ⟨rfl, rfl⟩ := h
    exact ⟨rfl, fun _ h => by cases h⟩
  | text | texts | clock | ends | submits => cases h

theorem remembered_operations {o : ExecutionOp} {a : o.Answer} (h : w.remembered o = some (a, w')) :
    w'.operations = w.operations ∧ w'.ids = w.ids := by
  cases o with
  | enter manager id =>
    simp only [World.remembered] at h
    split at h
    · cases h
    · obtain ⟨-, rfl⟩ := Prod.mk.inj (Option.some.inj h)
      exact ⟨rfl, rfl⟩
  | leave | newController | controller | setController | deleteController | abort | aborted | deleteRetryTask =>
    obtain ⟨-, rfl⟩ := Prod.mk.inj (Option.some.inj h)
    exact ⟨rfl, rfl⟩
  | _ => cases h

/-- What one call does to the operations. -/
inductive Stores (w w' : World) : ExecutionOp → Prop
  | nothing {o : ExecutionOp} (operations : w'.operations = w.operations) (ids : w'.ids = w.ids) : Stores w w' o
  | saved {next current : AdminOperation} {expectedRevision : Nat} (saved : Saved w next expectedRevision current w') :
      Stores w w' (.compareAndSaveOperation next expectedRevision)
  | pruned {now : Nat} (operations : w'.operations = pruneFinishedOperations w.operations now) (ids : w'.ids = w.ids) :
      Stores w w' (.pruneFinishedOperations now)
  | recovered {cutoff finishedAt : String}
      (operations : w'.operations = (recoverStaleOperations w.operations cutoff finishedAt).2) (ids : w'.ids = w.ids) :
      Stores w w' (.recoverStaleOperations cutoff finishedAt)
  | submitted {input : Operations.StartAdminOperation} {createdAt id requestId : String} (fresh : id ∉ w.ids)
      (operations : w'.operations = w.operations.put (queuedOperation input createdAt id requestId))
      (ids : w'.ids = id :: w.ids) : Stores w w' .submit

theorem stored_stores {o : ExecutionOp} {a : o.Answer} (h : w.stored o = some (a, w')) : Stores w w' o := by
  cases o with
  | getOperation id =>
    obtain ⟨-, rfl⟩ := Prod.mk.inj (Option.some.inj h)
    exact .nothing rfl rfl
  | compareAndSaveOperation next expectedRevision =>
    obtain ⟨-, rfl⟩ := Prod.mk.inj (Option.some.inj h)
    rcases compareAndSave_cases w.operations next expectedRevision with hnone | ⟨current, hfound, hrevision, hsome⟩
    · exact .nothing (congrArg Prod.snd hnone) rfl
    · exact .saved ⟨hfound, hrevision, congrArg Prod.snd hsome, rfl⟩
  | pruneFinishedOperations now =>
    obtain ⟨-, rfl⟩ := Prod.mk.inj (Option.some.inj h)
    exact .pruned rfl rfl
  | recoverStaleOperations cutoff finishedAt =>
    obtain ⟨-, rfl⟩ := Prod.mk.inj (Option.some.inj h)
    exact .recovered rfl rfl
  | _ => cases h

theorem told_stores {o : ExecutionOp} {x : ExecutionChoice} {a : o.Answer} (h : w.told o x = some (a, w')) :
    Stores w w' o := by
  unfold World.told at h
  split at h
  case h_5 =>
    split at h
    · cases h
    · next hfresh =>
      obtain ⟨-, rfl⟩ := Prod.mk.inj (Option.some.inj h)
      exact .submitted hfresh rfl rfl
  case h_6 => cases h
  all_goals
    obtain ⟨-, rfl⟩ := Prod.mk.inj (Option.some.inj h)
    exact .nothing rfl rfl

theorem perform_stores {o : ExecutionOp} {x : ExecutionChoice} {r : Except OperationFailure o.Answer}
    (h : w.perform o x = some (r, w')) : Stores w w' o := by
  cases x with
  | go =>
    obtain ⟨⟨a, w₁⟩, hor, heq⟩ := Option.map_eq_some_iff.1 h
    obtain ⟨-, rfl⟩ := Prod.mk.inj heq
    rcases Option.or_eq_some_iff.1 hor with hstored | ⟨-, hremembered⟩
    · exact stored_stores hstored
    · obtain ⟨hoperations, hids⟩ := remembered_operations hremembered
      exact .nothing hoperations hids
  | fails error =>
    obtain ⟨_, -, heq⟩ := Option.map_eq_some_iff.1 h
    obtain ⟨-, rfl⟩ := Prod.mk.inj heq
    exact .nothing rfl rfl
  | lost error =>
    obtain ⟨⟨a, w₁⟩, hstored, heq⟩ := Option.map_eq_some_iff.1 h
    obtain ⟨-, rfl⟩ := Prod.mk.inj heq
    exact stored_stores hstored
  | text | texts | clock | ends | submits =>
    obtain ⟨⟨a, w₁⟩, htold, heq⟩ := Option.map_eq_some_iff.1 h
    obtain ⟨-, rfl⟩ := Prod.mk.inj heq
    exact told_stores htold

/-! ## Runs -/

section Runs

variable {ι : Type} [DecidableEq ι] {calls : ι → ExecutionCall} {w₀ : World} {t : ι}
  {es : List (Event ι ExecutionOp ExecutionOp.Answer OperationFailure World)}

abbrev Configuration (ι : Type) :=
  Config ι ExecutionOp ExecutionOp.Answer OperationFailure World ExecutionCall Returned

/-- The histories in which every call keeps to what its program writes. -/
abbrev History (calls : ι → ExecutionCall) (w₀ : World) :=
  Legal executionSystem (fun t => (calls t).Calls) w₀

/-- The ids of the operations that are stored were drawn. -/
def Known (w : World) : Prop :=
  ∀ operation ∈ w.operations.rows, operation.id ∈ w.ids

theorem Known.drawn (h : Known w) (hrow : w.operations.get id = some operation) : id ∈ w.ids := by
  obtain ⟨hmem, rfl⟩ := Table.get_eq_some.1 hrow
  exact h operation hmem

/-- What a call makes of an operation. -/
inductive OperationMove (ids : List String) : Option AdminOperation → Option AdminOperation → Prop
  | kept {row : Option AdminOperation} : OperationMove ids row row
  | submitted {input : Operations.StartAdminOperation} {createdAt id requestId : String} (fresh : id ∉ ids) :
      OperationMove ids none (some (queuedOperation input createdAt id requestId))
  | moved {current next : AdminOperation} (life : Life current next) (revision : next.revision = current.revision + 1) :
      OperationMove ids (some current) (some next)
  | pruned {row : AdminOperation} (finished : row.status.terminal = true) : OperationMove ids (some row) none

/-- What is known of the operations along a history: whoever has read one knows it until its revision changes. -/
structure Sound (es : List (Event ι ExecutionOp ExecutionOp.Answer OperationFailure World)) (w : World) : Prop where
  known : Known w
  read : ∀ t id operation, Read id operation (traceOf t es) → id ∈ w.ids ∧ operation.id = id ∧
    ∀ row, w.operations.get id = some row →
      operation.revision ≤ row.revision ∧ (row.revision = operation.revision → row = operation)

/-- What is replaced is what was read. -/
theorem saved_of_calls {expectedRevision : Nat} (hs : Sound es w)
    (hG : (calls t).Calls (traceOf t es) (.compareAndSaveOperation next expectedRevision))
    (hsave : Saved w next expectedRevision current w') :
    Writes (calls t) current next ∧ next.id = (calls t).target := by
  obtain ⟨operation, hread, hwrites, rfl⟩ := hG
  -- the revisions agree, so nobody has written the row since
  obtain ⟨-, hid, hrow⟩ := hs.read t _ operation hread
  have htarget : next.id = (calls t).target := hwrites.life.sameId.trans hid
  obtain rfl := (hrow current (htarget ▸ hsave.found)).2 hsave.revision
  exact ⟨hwrites, htarget⟩

theorem stores_move {o : ExecutionOp} (hs : Sound es w) (hG : (calls t).Calls (traceOf t es) o)
    (hstores : Stores w w' o) (id : String) : OperationMove w.ids (w.operations.get id) (w'.operations.get id) := by
  cases hstores with
  | nothing operations ids =>
    rw [operations]
    exact .kept
  | @saved next current expectedRevision saved =>
    obtain ⟨hwrites, -⟩ := saved_of_calls hs hG saved
    rw [saved.store, Table.get_put]
    split
    · next hid =>
      rw [hid, saved.found]
      have hlife := hwrites.life
      exact .moved ⟨hlife.live, hlife.same, hlife.onward, hlife.cancellable, hlife.doomed⟩
        (congrArg (· + 1) saved.revision.symm)
    · exact .kept
  | pruned operations ids =>
    rw [operations, pruneFinishedOperations, Table.get_keep]
    cases w.operations.get id with
    | none => exact .kept
    | some row =>
      rw [Option.filter_some]
      split
      · exact .kept
      · next hexpired =>
        rw [Bool.not_eq_true, Bool.not_eq_false', expired, Bool.and_eq_true] at hexpired
        exact .pruned hexpired.1
  | recovered operations ids =>
    rw [operations]
    simp only [recoverStaleOperations, Table.get_sweep]
    cases w.operations.get id with
    | none => exact .kept
    | some row =>
      rw [Option.map_some, recovered]
      split
      · next hstale =>
        rw [stale, Bool.and_eq_true, Bool.not_eq_true'] at hstale
        exact .moved (interrupted_life hstale.1 _) rfl
      · exact .kept
  | @submitted input createdAt id' requestId fresh operations ids =>
    rw [operations, Table.get_put]
    split
    · next hid =>
      have hnone : w.operations.get id = none := by
        cases hget : w.operations.get id with
        | none => rfl
        | some row =>
          have hdrawn := hs.known.drawn hget
          rw [hid] at hdrawn
          exact absurd hdrawn fresh
      rw [hnone]
      exact .submitted fresh
    · exact .kept

/-- Where a row of an id that was drawn comes from. -/
theorem move_back {o : ExecutionOp} (hs : Sound es w) (hG : (calls t).Calls (traceOf t es) o) (hstores : Stores w w' o)
    (hid : id ∈ w.ids) {row' : AdminOperation} (hrow' : w'.operations.get id = some row') :
    ∃ row, w.operations.get id = some row ∧ (row' = row ∨ (Life row row' ∧ row'.revision = row.revision + 1)) := by
  have hmove := stores_move hs hG hstores id
  rw [hrow'] at hmove
  generalize hrow : w.operations.get id = before at hmove
  cases hmove with
  | kept => exact ⟨row', rfl, .inl rfl⟩
  | @submitted _ _ id' _ fresh =>
    have hkey : id' = id := Table.key_of_get hrow'
    exact absurd (hkey ▸ hid) fresh
  | moved life revision => exact ⟨_, rfl, .inr ⟨life, revision⟩⟩

theorem stores_ids {o : ExecutionOp} (hstores : Stores w w' o) (hid : id ∈ w.ids) : id ∈ w'.ids := by
  cases hstores with
  | nothing _ ids | pruned _ ids | recovered _ ids => exact ids ▸ hid
  | saved saved => exact saved.ids ▸ hid
  | submitted _ _ ids => exact ids ▸ List.mem_cons_of_mem _ hid

theorem known_step {o : ExecutionOp} (hs : Sound es w) (hG : (calls t).Calls (traceOf t es) o) (hstores : Stores w w' o) :
    Known w' := by
  intro operation hmem
  have hrow := Table.mem_iff.1 hmem
  have hmove := stores_move hs hG hstores operation.id
  rw [hrow] at hmove
  generalize hbefore : w.operations.get operation.id = before at hmove
  cases hmove with
  | kept | moved => exact stores_ids hstores (hs.known.drawn hbefore)
  | submitted fresh =>
    -- only the new operation has an id that was not drawn before
    cases hstores with
    | nothing operations _ =>
      rw [operations, hbefore] at hrow
      cases hrow
    | @saved next current expectedRevision saved =>
      rw [saved.store, Table.get_put] at hrow
      split at hrow
      · next hid =>
        rw [hid, saved.found] at hbefore
        cases hbefore
      · rw [hbefore] at hrow
        cases hrow
    | pruned operations _ =>
      rw [operations, pruneFinishedOperations, Table.get_keep, hbefore] at hrow
      cases hrow
    | recovered operations _ =>
      rw [operations] at hrow
      simp only [recoverStaleOperations, Table.get_sweep, hbefore] at hrow
      cases hrow
    | submitted _ operations ids =>
      rw [operations, Table.get_put] at hrow
      split at hrow
      · next hid =>
        rw [ids, hid]
        exact List.mem_cons_self
      · rw [hbefore] at hrow
        cases hrow

theorem sound_of_history (h₀ : Known w₀) (h : History calls w₀ es w) : Sound es w := by
  refine Legal.inv (I := fun es w => Sound es w) h ⟨h₀, fun _ _ _ hread => absurd hread List.not_mem_nil⟩ ?_
  intro es w w' t o x r _ hs hp hG
  have hstores := perform_stores hp
  refine ⟨known_step hs hG hstores, fun t' id operation hread => ?_⟩
  have hearlier : Read id operation (traceOf t' es) → id ∈ w'.ids ∧ operation.id = id ∧
      ∀ row, w'.operations.get id = some row →
        operation.revision ≤ row.revision ∧ (row.revision = operation.revision → row = operation) := by
    intro hread
    obtain ⟨hid, hsame, hrow⟩ := hs.read t' id operation hread
    refine ⟨stores_ids hstores hid, hsame, fun row' hrow' => ?_⟩
    obtain ⟨row, hfound, rfl | ⟨-, hrevision⟩⟩ := move_back hs hG hstores hid hrow'
    · exact hrow _ hfound
    · -- a row that was written has a later revision than any that was read
      have hle := (hrow row hfound).1
      exact ⟨by omega, fun heq => by omega⟩
  by_cases htt : t' = t
  · subst htt
    rw [traceOf_record_own] at hread
    rcases List.mem_cons.1 hread with heq | hread
    · obtain ⟨rfl, hr⟩ := Exchange.mk.inj heq
      obtain rfl := eq_of_heq hr
      obtain ⟨rfl, hfound⟩ := perform_getOperation hp
      have hrow := (hfound _ rfl).symm
      refine ⟨hs.known.drawn hrow, Table.key_of_get hrow, fun row hrow' => ?_⟩
      obtain rfl := Option.some.inj (hrow.symm.trans hrow')
      exact ⟨Nat.le_refl _, fun _ => rfl⟩
    · exact hearlier hread
  · rw [traceOf_record_other (Ne.symm htt)] at hread
    exact hearlier hread

/-- What is left of an operation, if anything is, satisfies `P`. -/
def Remains (id : String) (P : AdminOperation → Prop) (w : World) : Prop :=
  id ∈ w.ids ∧ ∀ row, w.operations.get id = some row → P row

theorem remains_step {P : AdminOperation → Prop} {o : ExecutionOp} (hs : Sound es w)
    (hG : (calls t).Calls (traceOf t es) o) (hstores : Stores w w' o)
    (hP : ∀ row row', Life row row' → P row → P row') (h : Remains id P w) : Remains id P w' := by
  refine ⟨stores_ids hstores h.1, fun row' hrow' => ?_⟩
  obtain ⟨row, hrow, rfl | ⟨hlife, -⟩⟩ := move_back hs hG hstores h.1 hrow'
  · exact h.2 _ hrow
  · exact hP row row' hlife (h.2 row hrow)

theorem Life.kept (h : Life current next) (hcurrent : current.cancellable = false) : next.cancellable = false := by
  by_contra hnext
  rw [Bool.not_eq_false] at hnext
  rw [h.cancellable hnext] at hcurrent
  cases hcurrent

theorem Life.ne_of_terminal (h : Life current next) (hterminal : operation.status.terminal = true)
    (hcurrent : current = operation) : next = operation := by
  have hlive := h.live
  rw [hcurrent, hterminal] at hlive
  cases hlive

/-! ## Commit points and cancellations -/

/-- A commit point has shown its operation final. -/
def Passed (calls : ι → ExecutionCall) (id : String)
    (e : Event ι ExecutionOp ExecutionOp.Answer OperationFailure World) : Prop :=
  (∃ m controller, calls e.thread = .commitPoint m id controller) ∧ Passes id e.toExchange

/-- A cancellation has written its operation, or shown it on its way to be cancelled. -/
def Cancelled (calls : ι → ExecutionCall) (id : String)
    (e : Event ι ExecutionOp ExecutionOp.Answer OperationFailure World) : Prop :=
  (∃ m, calls e.thread = .cancel m id) ∧ (e.after.operations ≠ e.before.operations ∨ Cancels id e.toExchange)

variable {o : ExecutionOp} {x : ExecutionChoice} {r : Except OperationFailure o.Answer}

theorem passed_step (hs : Sound es w) (hp : w.perform o x = some (r, w')) (hG : (calls t).Calls (traceOf t es) o)
    (h : Passed calls id ⟨⟨o, r⟩, t, w, w'⟩) :
    ∃ row, w.operations.get id = some row ∧ ¬ Doomed row ∧
      ∀ row', w'.operations.get id = some row' → row'.cancellable = false := by
  obtain ⟨⟨m, controller, hcall⟩, hpasses⟩ := h
  dsimp only at hcall hpasses
  cases hpasses with
  | @saved next updated expectedRevision =>
    obtain ⟨current, hsave⟩ := perform_compareAndSave hp
    obtain ⟨hwrites, htarget⟩ := saved_of_calls hs hG hsave
    rw [hcall] at hwrites htarget
    have hid : next.id = id := htarget
    obtain ⟨hkept, hlive⟩ := hwrites.commits rfl
    refine ⟨current, hid ▸ hsave.found, hlive, fun row' hrow' => ?_⟩
    rw [hsave.store, Table.get_put, if_pos hid.symm] at hrow'
    obtain rfl := Option.some.inj hrow'
    exact hkept
  | seen running kept stage =>
    obtain ⟨rfl, hfound⟩ := perform_getOperation hp
    have hrow := (hfound _ rfl).symm
    have hstage : _ ≠ "cancelling" := fun hcancelling => absurd (stage.symm.trans hcancelling) (by decide)
    refine ⟨_, hrow, not_doomed_of_stage running hstage, fun row' hrow' => ?_⟩
    obtain rfl := Option.some.inj (hrow.symm.trans hrow')
    exact kept

theorem cancels_saved {expectedRevision : Nat} (hs : Sound es w) (hcall : calls t = .cancel m id)
    (hG : (calls t).Calls (traceOf t es) (.compareAndSaveOperation next expectedRevision))
    (hsave : Saved w next expectedRevision current w') :
    ∃ row, w.operations.get id = some row ∧ row.cancellable = true ∧
      ∀ row', w'.operations.get id = some row' → Doomed row' := by
  obtain ⟨hwrites, htarget⟩ := saved_of_calls hs hG hsave
  rw [hcall] at hwrites htarget
  have hid : next.id = id := htarget
  obtain ⟨hcancellable, hdoomed⟩ := hwrites.cancels rfl
  refine ⟨current, hid ▸ hsave.found, hcancellable, fun row' hrow' => ?_⟩
  rw [hsave.store, Table.get_put, if_pos hid.symm] at hrow'
  obtain rfl := Option.some.inj hrow'
  exact hdoomed

theorem cancelled_step (hs : Sound es w) (hp : w.perform o x = some (r, w')) (hG : (calls t).Calls (traceOf t es) o)
    (h : Cancelled calls id ⟨⟨o, r⟩, t, w, w'⟩) :
    ∃ row, w.operations.get id = some row ∧ row.cancellable = true ∧
      ∀ row', w'.operations.get id = some row' → Doomed row' := by
  obtain ⟨⟨m, hcall⟩, hchanged | hcancels⟩ := h
  · dsimp only at hcall hchanged
    cases perform_stores hp with
    | nothing operations _ => exact absurd operations hchanged
    | saved saved => exact cancels_saved hs hcall hG saved
    | pruned | recovered | submitted =>
      have hother : (calls t).cancels = false := hG
      rw [hcall] at hother
      cases hother
  · dsimp only at hcall hcancels
    cases hcancels with
    | @saved next updated expectedRevision =>
      obtain ⟨current, hsave⟩ := perform_compareAndSave hp
      exact cancels_saved hs hcall hG hsave
    | seen running stage cancellable =>
      obtain ⟨rfl, hfound⟩ := perform_getOperation hp
      have hrow := (hfound _ rfl).symm
      refine ⟨_, hrow, cancellable, fun row' hrow' => ?_⟩
      obtain rfl := Option.some.inj (hrow.symm.trans hrow')
      exact .inr ⟨running, stage, cancellable⟩

/-- What commit points and cancellations have left behind, and that never both of them did. -/
structure Apart (calls : ι → ExecutionCall) (id : String)
    (es : List (Event ι ExecutionOp ExecutionOp.Answer OperationFailure World)) (w : World) : Prop where
  passed : (∃ e ∈ es, Passed calls id e) → Remains id (fun row => row.cancellable = false) w
  cancelled : (∃ e ∈ es, Cancelled calls id e) → Remains id Doomed w
  apart : (∃ e ∈ es, Passed calls id e) → ¬ ∃ e ∈ es, Cancelled calls id e

theorem apart_of_history (h₀ : Known w₀) (h : History calls w₀ es w) : Apart calls id es w := by
  have hnone : ∀ P : Event ι ExecutionOp ExecutionOp.Answer OperationFailure World → Prop, ¬ ∃ e ∈ [], P e := by
    rintro P ⟨e, he, -⟩
    cases he
  refine Legal.inv (I := Apart calls id) h
    ⟨fun hpassed => absurd hpassed (hnone _), fun hcancelled => absurd hcancelled (hnone _), fun _ => hnone _⟩ ?_
  intro es w w' t o x r hes ha hp hG
  have hs := sound_of_history h₀ hes
  have hstores := perform_stores hp
  refine ⟨?_, ?_, ?_⟩
  · rintro ⟨e, he, hpassed⟩
    rcases List.mem_cons.1 he with rfl | he
    · obtain ⟨row, hrow, -, hafter⟩ := passed_step hs hp hG hpassed
      exact ⟨stores_ids hstores (hs.known.drawn hrow), hafter⟩
    · exact remains_step hs hG hstores (fun _ _ => Life.kept) (ha.passed ⟨e, he, hpassed⟩)
  · rintro ⟨e, he, hcancelled⟩
    rcases List.mem_cons.1 he with rfl | he
    · obtain ⟨row, hrow, -, hafter⟩ := cancelled_step hs hp hG hcancelled
      exact ⟨stores_ids hstores (hs.known.drawn hrow), hafter⟩
    · exact remains_step hs hG hstores (fun _ _ hlife => hlife.doomed) (ha.cancelled ⟨e, he, hcancelled⟩)
  · rintro ⟨e, he, hpassed⟩ ⟨e', he', hcancelled⟩
    rcases List.mem_cons.1 he with rfl | he
    · rcases List.mem_cons.1 he' with rfl | he'
      · -- no call is both
        obtain ⟨⟨m, controller, hcommit⟩, -⟩ := hpassed
        obtain ⟨⟨m', hcancel⟩, -⟩ := hcancelled
        rw [hcommit] at hcancel
        cases hcancel
      · -- what a cancellation has doomed does not get past a commit point
        obtain ⟨row, hrow, hlive, -⟩ := passed_step hs hp hG hpassed
        exact hlive ((ha.cancelled ⟨e', he', hcancelled⟩).2 row hrow)
    · rcases List.mem_cons.1 he' with rfl | he'
      · -- and what is past its commit point cannot be cancelled
        obtain ⟨row, hrow, hcancellable, -⟩ := cancelled_step hs hp hG hcancelled
        have hkept : row.cancellable = false := (ha.passed ⟨e, he, hpassed⟩).2 row hrow
        rw [hcancellable] at hkept
        cases hkept
      · exact ha.apart ⟨e, he, hpassed⟩ ⟨e', he', hcancelled⟩

/-! ## What holds of every run -/

variable {sched : List (ι × ExecutionChoice)} {c : Configuration ι}

theorem lawful_of_run (hrun : exec executionSystem (Async.start executionSystem w₀ calls) sched = some c) :
    Lawful executionSystem (fun t => (calls t).Calls) (fun t => RunEnds (calls t)) w₀ c := by
  refine lawful_of_exec (fun _ => rfl) (fun t next tr hnext => ?_) hrun
  obtain rfl : next = calls t := hnext
  exact body_ends

/-- Every call moves an operation only along its life, and an operation that has ended stays as it is until it is pruned. -/
theorem operation_life (h₀ : Known w₀)
    (hrun : exec executionSystem (Async.start executionSystem w₀ calls) sched = some c) :
    Every (fun _ e => ∀ id, OperationMove e.before.ids (e.before.operations.get id) (e.after.operations.get id)) c.events ∧
      ∀ later e earlier, c.events = later ++ e :: earlier → ∀ id row, e.after.operations.get id = some row →
        row.status.terminal = true → ∀ stored, c.world.operations.get id = some stored → stored = row := by
  have hlegal := (lawful_of_run hrun).legal
  refine ⟨hlegal.every fun es w w' t o x r hes _ hp hG id =>
    stores_move (sound_of_history h₀ hes) hG (perform_stores hp) id, ?_⟩
  intro later e earlier heq id row hrow hterminal
  -- no event replaces a row that has ended, and its id is not given out again
  have hkeeps : Every (fun _ e => Remains id (· = row) e.before → Remains id (· = row) e.after) c.events :=
    hlegal.every fun es w w' t o x r hes _ hp hG =>
      remains_step (sound_of_history h₀ hes) hG (perform_stores hp) fun _ _ hlife => hlife.ne_of_terminal hterminal
  rw [heq] at hlegal hkeeps
  have hafter : Remains id (· = row) e.after := by
    have hknown := (sound_of_history h₀ hlegal.upTo).known
    refine ⟨hknown.drawn hrow, fun stored hstored => ?_⟩
    exact Option.some.inj (hstored.symm.trans hrow)
  exact (hlegal.span_every (R := fun w w' => Remains id (· = row) w → Remains id (· = row) w') (fun _ h => h)
    (fun h h' hremains => h' (h hremains)) hkeeps hafter).2

/-- What a commit point that resolved leaves of the cancellations of its operation. -/
structure CommitPointHolds (calls : ι → ExecutionCall) (id : String) (c : Configuration ι) : Prop where
  /-- before it and after it -/
  unwritten : ∀ e ∈ c.events, (∃ m, calls e.thread = .cancel m id) → e.after.operations = e.before.operations
  ended : ∀ t m operation, calls t = .cancel m id → c.prog t = .done (.inr (.operation (some operation))) →
    operation.status.terminal = true

/-- Whatever managers do at one time and whatever fails: where a commit point resolves, no cancellation of the operation
is accepted in the whole run. -/
theorem commitPoint_excludes_cancellation (h₀ : Known w₀)
    (hrun : exec executionSystem (Async.start executionSystem w₀ calls) sched = some c) {controller : Nat} {returned : Returned}
    (hcall : calls t = .commitPoint m id controller) (hresolved : c.prog t = .done (.inr returned)) :
    CommitPointHolds calls id c := by
  have hlawful := lawful_of_run hrun
  have hends : ∀ t returned, c.prog t = .done (.inr returned) → (calls t).Promises returned (traceOf t c.events) := by
    intro t returned hdone
    have hthread := hlawful.threads t
    rw [hdone] at hthread
    exact hthread
  have hpassed : ∃ e ∈ c.events, Passed calls id e := by
    have hpromise := hends t returned hresolved
    rw [hcall] at hpromise
    obtain ⟨x, hx, hpasses⟩ := hpromise
    obtain ⟨e, he, rfl, rfl⟩ := event_of_mem_traceOf hx
    exact ⟨e, he, ⟨m, controller, hcall⟩, hpasses⟩
  have hnever := (apart_of_history h₀ hlawful.legal : Apart calls id c.events c.world).apart hpassed
  refine ⟨fun e he hcancel => ?_, fun t' m' operation hcancel hdone => ?_⟩
  · by_contra hchanged
    exact hnever ⟨e, he, hcancel, .inl hchanged⟩
  · have hpromise := hends t' _ hdone
    rw [hcancel] at hpromise
    rcases hpromise with hterminal | ⟨x, hx, hcancels⟩
    · exact hterminal
    · obtain ⟨e, he, rfl, rfl⟩ := event_of_mem_traceOf hx
      exact absurd ⟨e, he, ⟨m', hcancel⟩, .inr hcancels⟩ hnever

end Runs

/-! ## A commit point between a cancellation and the end -/

namespace Sample

def manager : AdminOperationManager where
  id := 0
  sanitize := fun message _ => message

def otherManager : AdminOperationManager where
  id := 1
  sanitize := fun message _ => message

def queued : AdminOperation :=
  queuedOperation
    { type := "instance_recovery", actorUserId := "admin-1", resourceType := "instance", cancellable := some true }
    "2026-01-01T00:00:00.000Z" "op" "request-1"

def world : World where
  operations := ⟨[queued], List.nodup_singleton _⟩
  ids := ["op"]
  locked := []
  controllers _ := Table.empty
  made := 0
  aborted := []

/-- The operation is executed, its task reaches the commit point, and another manager tries to cancel it. -/
def calls : Fin 4 → ExecutionCall
  | 0 => .execute manager "op"
  | 1 => .commitPoint manager "op" 0
  | 2 => .cancel otherManager "op"
  | 3 => .touchHeartbeat manager "op"

def during (t : Fin 4) (choices : List ExecutionChoice) : List (Fin 4 × ExecutionChoice) :=
  choices.map fun x => (t, x)

def now : ExecutionChoice := .text "2026-01-01T00:00:01.000Z"

/-- The cancellation reads the operation before the commit point writes it, and loses; it is refused when it tries again. -/
def schedule : List (Fin 4 × ExecutionChoice) :=
  during 0 [.go, .go, .go, now, .go, .go, .go] ++ during 2 [.go, .go, now] ++ during 1 [.go, .go, .go, now, .go, .go] ++
    during 2 [.go, .go, .go] ++ during 3 [.go, .go, .go, now, .go, .go] ++
    during 0 [.ends .returned, .go, .go, .go, now, .go, .go, .go, .go]

/-- The call has returned. -/
def returns : ExecutionTask (ExecutionCall ⊕ Returned) → Bool
  | .done (.inr _) => true
  | _ => false

theorem exists_of_returns {p : ExecutionTask (ExecutionCall ⊕ Returned)} (h : returns p = true) :
    ∃ returned, p = .done (.inr returned) := by
  cases p with
  | raise e | call o k => cases h
  | done ends =>
    cases ends with
    | inl next => cases h
    | inr returned => exact ⟨returned, rfl⟩

theorem world_known : Known world := by
  intro operation hmem
  obtain rfl := List.mem_singleton.1 hmem
  exact List.mem_singleton.2 rfl

end Sample

open Sample in
theorem operation_life_committed : ∃ c,
    exec executionSystem (Async.start executionSystem world calls) schedule = some c ∧
      (c.world.operations.get "op").any (fun operation => operation.status = .succeeded) = true ∧
      Every (fun _ e => ∀ id, OperationMove e.before.ids (e.before.operations.get id) (e.after.operations.get id)) c.events := by
  obtain ⟨c, hrun, hsucceeded⟩ : ∃ c,
      exec executionSystem (Async.start executionSystem world calls) schedule = some c ∧
      (c.world.operations.get "op").any (fun operation => operation.status = .succeeded) = true :=
    exists_of_any (by decide +kernel)
  exact ⟨c, hrun, hsucceeded, (operation_life world_known hrun).1⟩

open Sample in
theorem commitPoint_excludes_cancellation_refused : ∃ c,
    exec executionSystem (Async.start executionSystem world calls) schedule = some c ∧
      (c.prog 2).ended = true ∧ CommitPointHolds calls "op" c := by
  obtain ⟨c, hrun, hended, hreturns⟩ : ∃ c,
      exec executionSystem (Async.start executionSystem world calls) schedule = some c ∧
      (c.prog 2).ended = true ∧ returns (c.prog 1) = true := exists_of_any (by decide +kernel)
  obtain ⟨returned, hresolved⟩ := exists_of_returns hreturns
  have hcall : calls 1 = .commitPoint manager "op" 0 := rfl
  exact ⟨c, hrun, hended, commitPoint_excludes_cancellation world_known hrun hcall hresolved⟩

end OpenApp.Execution
