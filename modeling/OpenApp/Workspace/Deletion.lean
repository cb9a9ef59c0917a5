import OpenApp.Workspace.Fencing

/-!
# Deletion goes on from phase to phase

Any number of deleters, each of which may fail, be aborted or stop anywhere, share one stored
phase. It moves one step at a time, and a step is stored only after its side effect came back, so
the phase itself says what has been done. A deleter that lost the race goes on from the phase it
reads; one that was overtaken may still repeat the side effect of the phase it had read, but no
more than that.
-/

namespace OpenApp

open Async

variable {m : Manager} {ι : Type} [DecidableEq ι] {w₀ w w' : World} {es : List (Event ι Op Op.Answer Failure World)}

/-! ## What a deletion promises -/

/-- The steps of the stored phase; a Workspace that is not being deleted has none. -/
inductive PhaseStep : Option WorkspaceDeletionPhase → WorkspaceDeletionPhase → Prop
  | begin : PhaseStep none .draining
  | drained : PhaseStep (some .draining) .removingEnvironments
  | removed : PhaseStep (some .removingEnvironments) .verifyingReferences
  | verified : PhaseStep (some .verifyingReferences) .releasingStorage
  | released : PhaseStep (some .releasingStorage) .finalizing
  | finalized : PhaseStep (some .finalizing) .deleted

/-- The Workspace a provider is called for. -/
def Op.providerCall : Op → Option String
  | .reconcile request => some request.workspaceId
  | .resolveStorageBinding request => some request.workspaceId
  | .removeEnvironment request => some request.workspaceId
  | .releaseWorkspaceStorage request => some request.workspaceId
  | _ => none

def removedEnvironment (id : String) (e : Event ι Op Op.Answer Failure World) : Prop :=
  ∃ request, e.toExchange = ⟨.removeEnvironment request, .ok ()⟩ ∧ request.workspaceId = id

def releasedStorage (id : String) (e : Event ι Op Op.Answer Failure World) : Prop :=
  ∃ request, e.toExchange = ⟨.releaseWorkspaceStorage request, .ok ()⟩ ∧ request.workspaceId = id

/-- Nothing is asked of a provider for a Workspace that is deleted. -/
def silentWhenDeleted (id : String) (e : Event ι Op Op.Answer Failure World) : Bool :=
  (e.before.store.get id).all fun p => p.workspace.status ≠ .deleted || e.op.providerCall ≠ some id

/-- What every event of a run of deletions keeps, as to the Workspace `id`. -/
structure DeletionProtocol (id : String) (es : List (Event ι Op Op.Answer Failure World))
    (e : Event ι Op Op.Answer Failure World) : Prop where
  forward : ∀ p, e.before.store.get id = some p → ∃ q, e.after.store.get id = some q ∧
    (q.workspace.deletionPhase = p.workspace.deletionPhase ∨
      ∃ next, PhaseStep p.workspace.deletionPhase next ∧ q.workspace.deletionPhase = some next)
  release : ∀ request, e.op = .releaseWorkspaceStorage request → request.workspaceId = id →
    (∃ e' ∈ es, removedEnvironment id e') ∧
      ∃ current, current.workspace.id = id ∧ InPhase current .releasingStorage ∧
        Counted current (traceOf e.thread es)
  deleted : ∀ q, e.after.store.get id = some q → q.workspace.status = .deleted → ∃ e' ∈ es, releasedStorage id e'
  /-- a call that fails leaves the row -/
  failedCall : ∀ error, e.answer = .error error → e.after.store.get id = e.before.store.get id
  /-- a step whose failure is handled has stored nothing -/
  failedStep : ∀ signal, e.op = .aborted signal → ∃ current, WorksFrom current (traceOf e.thread es)
  /-- and what is stored of the failure is its code, and when -/
  failure : ∀ current error next rev q,
    e.toExchange = ⟨.compareAndSaveWorkspaceExecution (.recordDeletionFailure current error) next rev, .ok (some q)⟩ →
    ∃ p timestamp, e.before.store.get q.workspace.id = some p ∧ q =
      { p with
        workspace := { p.workspace with deletionFailure := some (deletionFailureCode error), updatedAt := timestamp }
        execution := { p.execution with updatedAt := timestamp, revision := p.execution.revision + 1 } }
  tombstone : ∀ p, e.before.store.get id = some p → p.workspace.status = .deleted → e.after.store.get id = some p
  /-- who still calls a provider had read the Workspace before, in the phase of the call, and has
  removed nothing since -/
  late : ∀ p, e.before.store.get id = some p → p.workspace.status = .deleted → e.op.providerCall = some id →
    ∃ current later e' earlier, es = later ++ e' :: earlier ∧ e'.thread = e.thread ∧
      e'.after.store.get id = some current ∧
      (InPhase current .removingEnvironments ∨ InPhase current .releasingStorage) ∧
      ∀ e'' ∈ later, e''.thread = e.thread → e''.op.removes = false

/-! ## Phases and statuses of stored rows -/

theorem Projectable.phase_active {p : WorkspaceExecutionProjection} (h : Projectable p)
    (hs : p.workspace.status = .active) : p.workspace.deletionPhase = none := by
  have hd := h.deletion
  simp only [validDeletionState, hs, Bool.and_eq_true, Option.isNone_iff_eq_none] at hd
  exact hd.1.1.2

theorem Projectable.deleted_iff {p : WorkspaceExecutionProjection} (h : Projectable p) :
    p.workspace.status = .deleted ↔ p.workspace.deletionPhase = some .deleted := by
  have hd := h.deletion
  cases hs : p.workspace.status with
  | active => simp [h.phase_active hs]
  | deleting =>
    simp only [validDeletionState, hs, Bool.and_eq_true, Option.any_eq_true, decide_eq_true_eq] at hd
    obtain ⟨⟨_, phase, hphase, hne⟩, _⟩ := hd
    simp [hphase, hne]
  | deleted =>
    simp only [validDeletionState, hs, Bool.and_eq_true, decide_eq_true_eq] at hd
    simp [hd.1.2]

theorem Projectable.status_of_phase {p : WorkspaceExecutionProjection} (h : Projectable p)
    {phase : WorkspaceDeletionPhase} (hphase : p.workspace.deletionPhase = some phase) :
    p.workspace.status ≠ .active := by
  intro hs
  rw [h.phase_active hs] at hphase
  cases hphase

/-! ## One save -/

/-- What a thread that stores this phase has had done. -/
def PhaseEarned (id : String) (tr : Exchanges) : WorkspaceDeletionPhase → Prop
  | .verifyingReferences =>
    ∃ request, (⟨.removeEnvironment request, .ok ()⟩ : Exchange Op Op.Answer Failure) ∈ tr ∧ request.workspaceId = id
  | .finalizing => ∃ request,
    (⟨.releaseWorkspaceStorage request, .ok ()⟩ : Exchange Op Op.Answer Failure) ∈ tr ∧ request.workspaceId = id
  | _ => True

theorem phaseDone_step {current : WorkspaceExecutionProjection} {tr : Exchanges} {e n : WorkspaceDeletionPhase}
    (h : PhaseDone m current tr e n) : PhaseStep (some e) n ∧ PhaseEarned current.workspace.id tr n := by
  have mem {x : Exchange Op Op.Answer Failure} {rest : Exchanges} (heff : effects tr = x :: rest) : x ∈ tr :=
    List.mem_of_mem_filter (heff ▸ List.mem_cons_self : x ∈ effects tr)
  cases e <;> cases n <;> try exact h.elim
  · exact ⟨.drained, trivial⟩
  · obtain ⟨binding, signal, rest, heff⟩ := h
    exact ⟨.removed, _, mem heff, rfl⟩
  · exact ⟨.verified, trivial⟩
  · obtain ⟨request, rest, hid, heff⟩ := h
    exact ⟨.released, request, mem heff, hid⟩

/-- The last exchanges of a deleter are of its own Workspace. -/
theorem Context.deletion_id {id : String} {tr : Exchanges} {seen : WorkspaceExecutionProjection}
    {e n : WorkspaceDeletionPhase} (h : Context m id tr (.advanceDeletion seen e n)) :
    PhaseStep (some e) n ∧ PhaseEarned id tr n := by
  obtain ⟨rfl, _, _, hdone⟩ := h
  exact phaseDone_step hdone

/-- The row a save meets is not deleted, and the save takes its phase at most one step further. -/
theorem phase_saved {t : ι} {caller : Caller} {next q current stored : WorkspaceExecutionProjection}
    {later earlier : List (Event ι Op Op.Answer Failure World)} {e : Event ι Op Op.Answer Failure World}
    (hs : SaveExplained m es t w w' caller next q current stored later earlier e) :
    stored.workspace.status ≠ .deleted ∧
      (q.workspace.deletionPhase = stored.workspace.deletionPhase ∨
        ∃ n, PhaseStep stored.workspace.deletionPhase n ∧ q.workspace.deletionPhase = some n ∧
          PhaseEarned current.workspace.id (traceOf t earlier) n) := by
  have hstatus := hs.status
  have hw := hs.writes
  have hstored := hs.saves.transition.from_ok
  have hnext := hs.saves.transition.to_ok
  have hq : q.workspace = next.workspace := by rw [hs.saves.result]; rfl
  rw [hq]
  -- what is written over an active row, and is not the begin of a deletion, leaves it active
  have active (hc : current.workspace.status = .active) (hn : next.workspace.status = .active) :
      stored.workspace.status ≠ .deleted ∧ next.workspace.deletionPhase = stored.workspace.deletionPhase := by
    have hst := hstatus.trans hc
    exact ⟨by simp [hst], by rw [hnext.phase_active hn, hstored.phase_active hst]⟩
  -- a row in a phase is the row that was read
  have same {phase : WorkspaceDeletionPhase} (hphase : current.workspace.deletionPhase = some phase) :
      stored = current :=
    hs.stored_eq (.inr ((e.before.store.projectable _ _ hs.read.stored).status_of_phase hphase))
  cases caller with
  | getProjection => exact hw.elim
  | persistIntent =>
    obtain ⟨hc, _, _, _, _, _, rfl⟩ := hw
    exact (active hc hc).imp_right .inl
  | commitResult input result =>
    obtain ⟨hc, _, _, _, _, _, _, _, rfl⟩ := hw
    refine (active hc ?_).imp_right .inl
    unfold committedOf
    dsimp only
    split <;> exact hc
  | recordProviderFailure =>
    obtain ⟨hc, _, _, rfl⟩ := hw
    exact (active hc hc).imp_right .inl
  | persistLegacyContainer =>
    obtain ⟨hc, _, _, rfl⟩ := hw
    exact (active hc hc).imp_right .inl
  | beginDeletion input =>
    obtain ⟨hc, transactionId, timestamp, _, rfl⟩ := hw
    have hst := hstatus.trans hc
    exact ⟨by simp [hst], .inr ⟨.draining, hstored.phase_active hst ▸ .begin, rfl, trivial⟩⟩
  | advanceDeletion seen expectedPhase nextPhase =>
    obtain ⟨hlive, _, hphase, _, rfl⟩ := hw
    obtain rfl := same hphase
    obtain ⟨hstep, hearned⟩ := hs.context.deletion_id
    exact ⟨hlive, .inr ⟨nextPhase, hphase ▸ hstep, rfl, hearned⟩⟩
  | finalizeDeletion seen =>
    obtain ⟨hlive, _, hphase, _, rfl⟩ := hw
    obtain rfl := same hphase
    exact ⟨hlive, .inr ⟨.deleted, hphase ▸ .finalized, rfl, trivial⟩⟩
  | recordDeletionFailure seen error =>
    obtain ⟨hc, _, _, rfl⟩ := hw
    obtain rfl := hs.stored_eq (.inr (by simp [hc]))
    exact ⟨by simp [hc], .inl rfl⟩

/-! ## What the phase says has been done -/

/-- The environment is gone. -/
def WorkspaceDeletionPhase.afterRemoval : WorkspaceDeletionPhase → Bool
  | .draining => false
  | .removingEnvironments => false
  | _ => true

/-- The storage is released. -/
def WorkspaceDeletionPhase.afterRelease : WorkspaceDeletionPhase → Bool
  | .finalizing => true
  | .deleted => true
  | _ => false

structure Earned (id : String) (es : List (Event ι Op Op.Answer Failure World)) (p : WorkspaceExecutionProjection) :
    Prop where
  removed : p.workspace.deletionPhase.any WorkspaceDeletionPhase.afterRemoval = true →
    ∃ e ∈ es, removedEnvironment id e
  released : p.workspace.deletionPhase.any WorkspaceDeletionPhase.afterRelease = true →
    ∃ e ∈ es, releasedStorage id e

omit [DecidableEq ι] in
theorem Earned.cons {id : String} {p : WorkspaceExecutionProjection} {e : Event ι Op Op.Answer Failure World}
    (h : Earned id es p) : Earned id (e :: es) p where
  removed hp := by
    obtain ⟨e', he', hr⟩ := h.removed hp
    exact ⟨e', List.mem_cons_of_mem _ he', hr⟩
  released hp := by
    obtain ⟨e', he', hr⟩ := h.released hp
    exact ⟨e', List.mem_cons_of_mem _ he', hr⟩

/-- A step earns the phase it stores. -/
theorem Earned.step {id : String} {t : ι} {p q : WorkspaceExecutionProjection} {tr : Exchanges}
    {n : WorkspaceDeletionPhase} (h : Earned id es p) (hstep : PhaseStep p.workspace.deletionPhase n)
    (hq : q.workspace.deletionPhase = some n) (htr : ∀ x ∈ tr, x ∈ traceOf t es) (hearned : PhaseEarned id tr n) :
    Earned id es q := by
  have old (hremoved : p.workspace.deletionPhase.any WorkspaceDeletionPhase.afterRemoval = true)
      (hreleased : n.afterRelease = true →
        p.workspace.deletionPhase.any WorkspaceDeletionPhase.afterRelease = true) : Earned id es q :=
    ⟨fun _ => h.removed hremoved, fun hr => h.released (hreleased (by simpa [hq] using hr))⟩
  generalize hp : p.workspace.deletionPhase = phase at *
  cases hstep with
  | begin => constructor <;> simp [hq, WorkspaceDeletionPhase.afterRemoval, WorkspaceDeletionPhase.afterRelease]
  | drained => constructor <;> simp [hq, WorkspaceDeletionPhase.afterRemoval, WorkspaceDeletionPhase.afterRelease]
  | removed =>
    obtain ⟨request, hmem, hid⟩ := hearned
    obtain ⟨e, he, _, hx⟩ := event_of_mem_traceOf (htr _ hmem)
    exact ⟨fun _ => ⟨e, he, request, hx, hid⟩, by simp [hq, WorkspaceDeletionPhase.afterRelease]⟩
  | verified => exact old rfl fun hr => by cases hr
  | released =>
    obtain ⟨request, hmem, hid⟩ := hearned
    obtain ⟨e, he, _, hx⟩ := event_of_mem_traceOf (htr _ hmem)
    exact ⟨fun _ => h.removed (by rw [hp]; rfl), fun _ => ⟨e, he, request, hx, hid⟩⟩
  | finalized => exact old rfl fun _ => rfl

/-- What was earned before an event is enough for the row it leaves. -/
theorem earned_step {id : String} {t : ι} {o : Op} {x : Choice} {r : Except Failure o.Answer} (h : History m w₀ es w)
    (hold : ∀ p, w.store.get id = some p → Earned id es p) (hp : w.perform o x = some (r, w'))
    (hG : Issued m (traceOf t es) o) {q : WorkspaceExecutionProjection} (hq : w'.store.get id = some q) :
    Earned id es q := by
  rcases row_step h hp hG id with
    hrow | ⟨caller, next, rev, q', current, stored, later, earlier, e, hex, rfl, hsave⟩ | ⟨row, hrow, hrec⟩
  · exact hold q (hrow ▸ hq)
  · obtain rfl : q' = q := Option.some.inj (hsave.after.symm.trans hq)
    have hold := hold _ hsave.found
    obtain ⟨_, hsame | ⟨n, hstep, hn, hearned⟩⟩ := phase_saved hsave
    · exact ⟨fun h => hold.removed (hsame ▸ h), fun h => hold.released (hsame ▸ h)⟩
    · refine hold.step (t := t) hstep hn (fun x hx => ?_) hearned
      rw [hsave.read.split, traceOf_append, traceOf_own hsave.read.thread]
      exact List.mem_append_right _ (List.mem_cons_of_mem _ hx)
  · obtain rfl : row = q := Option.some.inj (hrow.symm.trans hq)
    obtain ⟨c, hproj⟩ := hrec.projected
    have hnone := (projectContainer_projectable hproj).phase_active (projectContainer_fields hproj).2.2
    constructor <;> simp [hnone]

theorem earned_of_history (h : History m w₀ es w) {id : String}
    (h₀ : ∀ p, w₀.store.get id = some p → p.workspace.status = .active) (p : WorkspaceExecutionProjection)
    (hp : w.store.get id = some p) : Earned id es p := by
  induction h generalizing p with
  | start =>
    have hnone := (w₀.store.projectable _ _ hp).phase_active (h₀ p hp)
    constructor <;> simp [hnone]
  | record h hperf hG ih => exact (earned_step h ih hperf hG hp).cons

/-! ## Where a deleter stands -/

/-- A row that a thread works from was stored when the thread saw it. -/
theorem seen_stored (h : History m w₀ es w) {t : ι} {ok : Exchange Op Op.Answer Failure → Bool}
    {p : WorkspaceExecutionProjection} (hs : Since ok p (traceOf t es)) :
    ∃ later e earlier, es = later ++ e :: earlier ∧ e.thread = t ∧ e.after.store.get p.workspace.id = some p ∧
      ∀ y ∈ traceOf t later, ok y = true := by
  obtain ⟨recent, x, old, htr, hx, hall⟩ := hs.split
  obtain ⟨later, e, earlier, rfl, ht, hex, _, rfl⟩ := exists_event_of_traceOf recent htr
  refine ⟨later, e, earlier, rfl, ht, ?_, hall⟩
  obtain ⟨hearlier, hG, c, hp⟩ := h.suffix
  obtain ⟨⟨o, r⟩, t', wb, wa⟩ := e
  rcases hx with ⟨caller, id, rfl⟩ | ⟨caller, next, rev, rfl⟩
  · obtain ⟨rfl, hr⟩ := Exchange.mk.inj hex
    obtain rfl := eq_of_heq hr
    obtain ⟨hget, hafter⟩ := World.perform_get hp
    change wa.store.get p.workspace.id = some p
    rw [show wa = wb from hafter, get_id hget]
    exact hget
  · obtain ⟨rfl, hr⟩ := Exchange.mk.inj hex
    obtain rfl := eq_of_heq hr
    obtain ⟨current, stored, _, _, _, hsave⟩ := save_explained hearlier hp hG
    have hid : p.workspace.id = current.workspace.id := by rw [hsave.saves.result]; exact hsave.id
    rw [hid]
    exact hsave.after

theorem Counted.starts {current : WorkspaceExecutionProjection} {tr : Exchanges} (h : Counted current tr) :
    StartsFrom current tr := by
  cases tr with
  | nil => exact h.elim
  | cons x tr =>
    obtain ⟨hstart, rfl⟩ := h
    exact hstart.cons rfl

/-- A run of deletions stores no intent. -/
theorem savedIntent_of_deleting (hK : Every (fun _ e => Op.deleting e.op) es) (t : ι) :
    savedIntent (traceOf t es) = none := by
  induction es with
  | nil => rfl
  | cons e es ih =>
    by_cases ht : e.thread = t
    · rw [traceOf_own ht, savedIntent_cons, ih hK.2]
      have hop : e.op.deleting := hK.1
      unfold Exchange.keepsIntent
      split
      · next hcall =>
        rw [hcall] at hop
        cases hop
      · rfl
    · rw [traceOf_other ht, ih hK.2]

/-- Whoever calls a provider in a run of deletions starts from a row in the phase of the call. -/
theorem providerCall_starts {t : ι} {o : Op} {id : String} (hK : Every (fun _ e => Op.deleting e.op) es)
    (ho : o.deleting) (hG : Issued m (traceOf t es) o) (hcall : o.providerCall = some id) :
    ∃ current, StartsFrom current (traceOf t es) ∧ current.workspace.id = id ∧
      (InPhase current .removingEnvironments ∨ InPhase current .releasingStorage) := by
  cases o with
  | reconcile => exact ho.elim
  | resolveStorageBinding request =>
    rcases hG with ⟨current, hstart, hid, hphase⟩ | ⟨_, _, _, hint, _⟩
    · exact ⟨current, hstart, hid ▸ Option.some.inj hcall, hphase⟩
    · rw [savedIntent_of_deleting hK t] at hint
      cases hint
  | removeEnvironment request =>
    obtain ⟨current, binding, signal, hcounted, hphase, rfl⟩ := hG
    exact ⟨current, hcounted.starts, Option.some.inj hcall, .inl hphase⟩
  | releaseWorkspaceStorage request =>
    obtain ⟨current, hcounted, hphase, hid⟩ := hG
    exact ⟨current, hcounted.starts, hid ▸ Option.some.inj hcall, .inr hphase⟩
  | _ => cases hcall

/-! ## The protocol -/

theorem latestTimestamp_self (value : String) : latestTimestamp value value = value := by
  unfold latestTimestamp
  cases Script.dateParse value with
  | none => rfl
  | some n => simp

theorem failure_saved {t : ι} {next q current stored seen : WorkspaceExecutionProjection} {error : Failure}
    {later earlier : List (Event ι Op Op.Answer Failure World)} {e : Event ι Op Op.Answer Failure World}
    (hs : SaveExplained m es t w w' (.recordDeletionFailure seen error) next q current stored later earlier e) :
    ∃ timestamp, q =
      { stored with
        workspace := { stored.workspace with
          deletionFailure := some (deletionFailureCode error), updatedAt := timestamp }
        execution := { stored.execution with
          updatedAt := timestamp, revision := stored.execution.revision + 1 } } := by
  obtain ⟨hc, _, timestamp, hnext⟩ := hs.writes
  obtain rfl := hs.stored_eq (.inr (by simp [hc]))
  refine ⟨timestamp, ?_⟩
  rw [hs.saves.result, hnext]
  simp [MemoryPersistence.saved, deletionFailedOf, latestTimestamp_self]

theorem protocol_step (h : History m w₀ es w) {id : String}
    (h₀ : ∀ p, w₀.store.get id = some p → p.workspace.status = .active)
    (hK : Every (fun _ e => Op.deleting e.op) es) {t : ι} {o : Op} {x : Choice} {r : Except Failure o.Answer}
    (hp : w.perform o x = some (r, w')) (hG : Issued m (traceOf t es) o) (ho : o.deleting) :
    DeletionProtocol id es (⟨⟨o, r⟩, t, w, w'⟩ : Event ι Op Op.Answer Failure World) where
  forward p hstored := by
    rcases row_step h hp hG id with
      hrow | ⟨caller, next, rev, q, current, stored, later, earlier, e, hex, rfl, hsave⟩ | ⟨_, _, hrec⟩
    · exact ⟨p, hrow.trans hstored, .inl rfl⟩
    · obtain rfl : stored = p := Option.some.inj (hsave.found.symm.trans hstored)
      obtain ⟨_, hsame | ⟨n, hstep, hn, _⟩⟩ := phase_saved hsave
      · exact ⟨q, hsave.after, .inl hsame⟩
      · exact ⟨q, hsave.after, .inr ⟨n, hstep, hn⟩⟩
    · obtain ⟨c, rfl⟩ := hrec.call
      exact ho.elim
  release request hop hid := by
    obtain rfl : o = .releaseWorkspaceStorage request := hop
    obtain ⟨current, hcounted, hphase, hcurrent⟩ := hG
    obtain rfl := hcurrent.symm.trans hid
    obtain ⟨later, e, earlier, rfl, _, hseen, _⟩ := seen_stored h hcounted.starts
    obtain ⟨e', he', hremoved⟩ := (earned_of_history h.upTo h₀ current hseen).removed (by rw [hphase.phase]; rfl)
    exact ⟨⟨e', List.mem_append_right _ he', hremoved⟩, current, rfl, hphase, hcounted⟩
  deleted q hq hdeleted := by
    have hphase := ((w'.store.projectable _ _ hq).deleted_iff).1 hdeleted
    exact (earned_step h (earned_of_history h h₀) hp hG hq).released (by rw [hphase]; rfl)
  failedCall error hr := by
    rcases row_step h hp hG id with hrow | ⟨_, _, _, _, _, _, _, _, _, hex, _⟩ | ⟨_, _, hrec⟩
    · exact hrow
    · obtain ⟨rfl, hr'⟩ := Exchange.mk.inj hex
      obtain rfl := eq_of_heq hr'
      cases hr
    · obtain ⟨c, rfl⟩ := hrec.call
      exact ho.elim
  failedStep signal hop := by
    obtain rfl : o = .aborted signal := hop
    obtain ⟨current, hworks, _⟩ := hG
    exact ⟨current, hworks⟩
  failure seen error next rev q hex := by
    obtain ⟨rfl, hr⟩ := Exchange.mk.inj hex
    obtain rfl := eq_of_heq hr
    obtain ⟨current, stored, later, earlier, e, hsave⟩ := save_explained h hp hG
    obtain ⟨timestamp, hq⟩ := failure_saved hsave
    have hid : q.workspace.id = current.workspace.id := by rw [hsave.saves.result]; exact hsave.id
    exact ⟨stored, timestamp, hid ▸ hsave.found, hq⟩
  tombstone p hstored hdeleted := by
    rcases row_step h hp hG id with
      hrow | ⟨caller, next, rev, q, current, stored, later, earlier, e, hex, rfl, hsave⟩ | ⟨_, _, hrec⟩
    · exact hrow.trans hstored
    · obtain rfl : stored = p := Option.some.inj (hsave.found.symm.trans hstored)
      exact absurd hdeleted (phase_saved hsave).1
    · have hactive := (hrec.replaced p hstored).2
      rw [hdeleted] at hactive
      cases hactive
  late p hstored hdeleted hcall := by
    obtain ⟨current, hstart, rfl, hphase⟩ := providerCall_starts hK ho hG hcall
    obtain ⟨later, e, earlier, hes, ht, hseen, hall⟩ := seen_stored h hstart
    refine ⟨current, later, e, earlier, hes, ht, hseen, hphase, fun e'' he'' ht'' => ?_⟩
    have hquiet := hall _ (ht'' ▸ mem_traceOf he'')
    simp only [Bool.and_eq_true, Bool.not_eq_true'] at hquiet
    exact hquiet.2

theorem protocol_of_history (h : History m w₀ es w) {id : String}
    (h₀ : ∀ p, w₀.store.get id = some p → p.workspace.status = .active)
    (hK : Every (fun _ e => Op.deleting e.op) es) : Every (DeletionProtocol id) es := by
  induction h with
  | start => trivial
  | record h hp hG ih => exact ⟨protocol_step h h₀ hK.2 hp hG hK.1, ih hK.2⟩

/-- Every run of any number of deletions, in any order, with any failures and aborts, keeps to the
protocol. -/
theorem deletion_protocol {calls : ι → Call} (hcalls : ∀ t, (calls t).deleting = true ∧ (calls t).fresh = true)
    {id : String} (h₀ : ∀ p, w₀.store.get id = some p → p.workspace.status = .active) {sched : List (ι × Choice)}
    {c : Config ι Op Op.Answer Failure World Call Returned}
    (hrun : exec (workspaceSystem m) (start (workspaceSystem m) w₀ calls) sched = some c) :
    Every (DeletionProtocol id) c.events :=
  protocol_of_history (history_of_run (fun t => (hcalls t).2) hrun) h₀ (deleting_of_run (fun t => (hcalls t).1) hrun)

open Sample in
/-- A deletion whose release fails, and a second one that resumes it. -/
theorem deletion_protocol_resumed : ∃ c,
    exec (workspaceSystem manager) (start (workspaceSystem manager) (world [container .running])
      fun _ : Bool => .deleteWorkspace ⟨"ws", none, none⟩)
      (thread true (beginning ++ draining ++ removing ++ verifying ++
          [.binds binding, .go, .fails transient true, .go, .go, .text time, .go]) ++
        thread false ([.go, .go, .go] ++ releasing ++ finalizing)) = some c ∧
    Every (DeletionProtocol "ws") c.events ∧
      (c.world.store.get "ws").any (fun p => p.workspace.status = .deleted) = true := by
  obtain ⟨c, hrun, hdeleted⟩ : ∃ c,
      exec (workspaceSystem manager) (start (workspaceSystem manager) (world [container .running])
        fun _ : Bool => .deleteWorkspace ⟨"ws", none, none⟩)
        (thread true (beginning ++ draining ++ removing ++ verifying ++
            [.binds binding, .go, .fails transient true, .go, .go, .text time, .go]) ++
          thread false ([.go, .go, .go] ++ releasing ++ finalizing)) = some c ∧
        (c.world.store.get "ws").any (fun p => p.workspace.status = .deleted) = true :=
    exists_of_any (by decide +kernel)
  refine ⟨c, hrun, deletion_protocol (fun _ => ⟨rfl, rfl⟩) (fun p hp => ?_) hrun, hdeleted⟩
  obtain rfl := Option.some.inj hp
  rfl

open Sample in
/-- The first deleter has counted the references and is about to remove; the second deletes the
Workspace meanwhile. -/
theorem overtaken_deleter_removes : ∃ c,
    exec (workspaceSystem manager) (start (workspaceSystem manager) (world [container .running])
      fun _ : Bool => .deleteWorkspace ⟨"ws", none, none⟩)
      (thread true (beginning ++ draining ++ [.binds binding, .go]) ++
        thread false ([.go, .go, .go] ++ removing ++ verifying ++ releasing ++ finalizing) ++
        thread true [.go]) = some c ∧
    ¬ Every (fun _ e => silentWhenDeleted "ws" e = true) c.events :=
  exists_of_any (by decide +kernel)

end OpenApp
