import OpenApp.Async.Solo
import OpenApp.Workspace.Rows

/-!
# The life of a Workspace

Managers reconcile a Workspace, record its container and delete it, all over one store and without a lock.
Whatever their order, a row is replaced only along a transition from what it was, and by a caller who has read it;
and once a row was compared and saved, it is the row of this Workspace for good.
-/

namespace OpenApp

open Async Async.Prog Script

variable {m : Manager} {ι : Type} [DecidableEq ι] {w₀ w w' : World}
  {es : List (Event ι Op Op.Answer Failure World)}

/-! ## Moves -/

/-- What a call may make of a row. -/
inductive WorkspaceMove : Option WorkspaceExecutionProjection → Option WorkspaceExecutionProjection → Prop
  | kept {row : Option WorkspaceExecutionProjection} : WorkspaceMove row row
  /-- a container record may only replace a record -/
  | recorded {row : Option WorkspaceExecutionProjection} {container : Container} {p : WorkspaceExecutionProjection}
      (projected : projectContainerToWorkspaceExecution container = .ok p) (replaced : ∀ stored ∈ row, ¬ Settled stored) :
      WorkspaceMove row (some p)
  | saved {current next : WorkspaceExecutionProjection} (transition : Transition current next) :
      WorkspaceMove (some current) (some (MemoryPersistence.saved current next))

theorem not_settled {p : WorkspaceExecutionProjection} (hrevision : p.execution.revision ≤ 1)
    (hactive : p.workspace.status = .active) : ¬ Settled p := by
  rintro (hlater | hnot)
  · omega
  · exact hnot hactive

theorem perform_move {o : Op} {x : Choice} {r : Except Failure o.Answer} (h : w.perform o x = some (r, w')) (id : String) :
    WorkspaceMove (w.store.get id) (w'.store.get id) := by
  rcases World.perform_store h with hs | ⟨_, p, rev, q, current, _, hsave⟩ | ⟨container, _, hsave⟩
  · rw [hs]
    exact .kept
  · rw [hsave.store]
    by_cases hid : id = p.workspace.id
    · rw [if_pos hid, hid, hsave.found, hsave.result]
      exact .saved hsave.transition
    · rw [if_neg hid]
      exact .kept
  · obtain ⟨hcurrent, _, p, _, hproj, hput⟩ := MemoryPersistence.saveContainer_ok hsave
    have hname := (projectContainer_fields hproj).2.1
    rw [hput, MemoryPersistence.get_put]
    by_cases hid : id = p.workspace.id
    · rw [if_pos hid]
      refine .recorded hproj fun stored hstored => ?_
      obtain ⟨hrevision, hactive⟩ := hcurrent stored (by rw [← hstored, hid, hname])
      exact not_settled hrevision hactive
    · rw [if_neg hid]
      exact .kept

/-! ## What stays of a row -/

theorem SameIdentity.refl (p : WorkspaceExecutionProjection) : SameIdentity p p :=
  ⟨rfl, rfl, rfl, rfl, rfl, rfl, rfl⟩

theorem SameIdentity.trans {p q r : WorkspaceExecutionProjection} (h : SameIdentity p q) (h' : SameIdentity q r) :
    SameIdentity p r :=
  ⟨h.id.trans h'.id, h.ownerId.trans h'.ownerId, h.createdAt.trans h'.createdAt, h.storageRefId.trans h'.storageRefId,
    h.executionId.trans h'.executionId, h.workspaceId.trans h'.workspaceId, h.providerId.trans h'.providerId⟩

/-- The same Workspace, no generation of which was rolled back. -/
structure Endures (p q : WorkspaceExecutionProjection) : Prop where
  identity : SameIdentity p q
  desired : p.execution.desiredGeneration ≤ q.execution.desiredGeneration
  deployed : p.execution.deployedGeneration ≤ q.execution.deployedGeneration
  healthy : generationValue p.execution.healthyGeneration ≤ generationValue q.execution.healthyGeneration

theorem Endures.refl (p : WorkspaceExecutionProjection) : Endures p p :=
  ⟨.refl p, Nat.le_refl _, Nat.le_refl _, Int.le_refl _⟩

theorem Endures.trans {p q r : WorkspaceExecutionProjection} (h : Endures p q) (h' : Endures q r) : Endures p r :=
  ⟨h.identity.trans h'.identity, h.desired.trans h'.desired, h.deployed.trans h'.deployed, Int.le_trans h.healthy h'.healthy⟩

theorem Follows.settled {p q : WorkspaceExecutionProjection} (h : Follows p q) (hp : Settled p) : Settled q := by
  rcases hp with hlater | hnot
  · exact .inl (Nat.lt_of_lt_of_le hlater h.revision)
  · refine .inr fun hactive => hnot ?_
    have honward := h.onward
    rw [hactive] at honward
    cases hp : p.workspace.status with
    | active => rfl
    | deleting | deleted =>
      rw [hp] at honward
      cases honward

/-- What becomes of a row later. -/
structure LivesOn (p q : WorkspaceExecutionProjection) : Prop where
  follows : Follows p q
  endures : Settled p → Endures p q

theorem LivesOn.refl (p : WorkspaceExecutionProjection) : LivesOn p p :=
  ⟨.refl p, fun _ => .refl p⟩

theorem LivesOn.trans {p q r : WorkspaceExecutionProjection} (h : LivesOn p q) (h' : LivesOn q r) : LivesOn p r :=
  ⟨h.follows.trans h'.follows, fun hp => (h.endures hp).trans (h'.endures (h.follows.settled hp))⟩

theorem WorkspaceMove.livesOn {p : WorkspaceExecutionProjection} {row : Option WorkspaceExecutionProjection}
    (h : WorkspaceMove (some p) row) : ∃ q, row = some q ∧ LivesOn p q := by
  cases h with
  | kept => exact ⟨p, rfl, .refl p⟩
  | @recorded _ container q projected replaced =>
    -- only what was never compared and saved is recorded anew, so nothing is promised of its fields
    have hfresh := replaced p rfl
    obtain ⟨hrevision, -, hstatus⟩ := projectContainer_fields projected
    have hfirst : p.execution.revision ≤ 1 := Nat.le_of_not_lt fun hlater => hfresh (.inl hlater)
    have hactive : p.workspace.status = .active := by
      by_contra hnot
      exact hfresh (.inr hnot)
    refine ⟨q, rfl, ⟨by omega, fun _ hp => absurd hp hfresh, fun _ => hstatus.trans hactive.symm, ?_⟩,
      fun hp => absurd hp hfresh⟩
    rw [hstatus, hactive]
  | @saved _ next transition =>
    have hrevision : (MemoryPersistence.saved p next).execution.revision = p.execution.revision + 1 := rfl
    refine ⟨_, rfl, ⟨by omega, fun heq => by omega, fun heq => by omega, rank_of_transition transition.status⟩, fun _ => ?_⟩
    obtain ⟨hid, howner, hcreated, hstorage, hexecution, hworkspace, hprovider⟩ := transition.identity
    exact ⟨⟨hid, howner, hcreated, hstorage, hexecution, hworkspace, hprovider⟩, transition.desired, transition.deployed,
      transition.healthy⟩

/-- Every Workspace of the one world lives on in the other. -/
def Lasting (w w' : World) : Prop :=
  ∀ id p, w.store.get id = some p → ∃ q, w'.store.get id = some q ∧ LivesOn p q

theorem lasting_of_moves (h : ∀ id, WorkspaceMove (w.store.get id) (w'.store.get id)) : Lasting w w' := by
  intro id p hp
  have hmove := h id
  rw [hp] at hmove
  exact hmove.livesOn

theorem Lasting.trans {w₁ w₂ w₃ : World} (h : Lasting w₁ w₂) (h' : Lasting w₂ w₃) : Lasting w₁ w₃ := by
  intro id p hp
  obtain ⟨q, hq, hpq⟩ := h id p hp
  obtain ⟨r, hr, hqr⟩ := h' id q hq
  exact ⟨r, hr, hpq.trans hqr⟩

/-! ## Runs -/

/-- Every run of any calls, those that go on with a deletion included, does what the world does. -/
theorem steps_of_run {calls : ι → Call} {sched : List (ι × Choice)}
    {c : Config ι Op Op.Answer Failure World Call Returned}
    (h : exec (workspaceSystem m) (start (workspaceSystem m) w₀ calls) sched = some c) :
    Legal (workspaceSystem m) (fun _ _ _ => True) w₀ c.events c.world := by
  refine legal_of_exec (J := fun _ _ _ => True) (fun _ => trivial) (fun t call tr _ => ?_) h
  refine wp_post (always_any _ tr) fun r tr' _ => ?_
  rcases r with e | (next | returned) <;> trivial

/-- In every run every call leaves each Workspace as it was, records it anew, or saves it along a transition; and what
an event left lives on to the end. -/
theorem workspace_life {calls : ι → Call} {sched : List (ι × Choice)}
    {c : Config ι Op Op.Answer Failure World Call Returned}
    (hrun : exec (workspaceSystem m) (start (workspaceSystem m) w₀ calls) sched = some c) :
    Every (fun _ e => ∀ id, WorkspaceMove (e.before.store.get id) (e.after.store.get id)) c.events ∧
      ∀ later e earlier, c.events = later ++ e :: earlier → Lasting e.after c.world := by
  have hlegal := steps_of_run hrun
  have hmoves : Every (fun _ e => ∀ id, WorkspaceMove (e.before.store.get id) (e.after.store.get id)) c.events :=
    hlegal.every fun es w w' t o x r _ _ hp _ => perform_move hp
  refine ⟨hmoves, fun later e earlier heq => ?_⟩
  rw [heq] at hlegal hmoves
  exact hlegal.span_every (R := Lasting) (fun w id p hp => ⟨p, hp, .refl p⟩) Lasting.trans (hmoves.imp fun _ _ => lasting_of_moves)

/-- A save that took effect is what its caller makes of a row it has read, and this row it replaced. -/
def ReplacesWhatItRead (m : Manager) (es : List (Event ι Op Op.Answer Failure World))
    (e : Event ι Op Op.Answer Failure World) : Prop :=
  ∀ caller next rev q, e.toExchange = ⟨.compareAndSaveWorkspaceExecution caller next rev, .ok (some q)⟩ →
    ∃ current, ⟨.getWorkspaceExecutionProjection caller current.workspace.id, .ok (some current)⟩ ∈ traceOf e.thread es ∧
      Writes m current next caller ∧ e.after.store.get current.workspace.id = some q ∧
      (Settled current → e.before.store.get current.workspace.id = some current)

/-- No update of a row that was compared and saved before is lost: nobody has written it between the read and the
save of a caller whose save succeeds. -/
theorem no_update_lost {calls : ι → Call} (hcalls : ∀ t, (calls t).fresh = true) {sched : List (ι × Choice)}
    {c : Config ι Op Op.Answer Failure World Call Returned}
    (hrun : exec (workspaceSystem m) (start (workspaceSystem m) w₀ calls) sched = some c) :
    Every (ReplacesWhatItRead m) c.events := by
  refine (history_of_run hcalls hrun).every fun es w w' t o x r h _ hp hG => ?_
  intro caller next rev q hexchange
  obtain ⟨rfl, hr⟩ := Exchange.mk.inj hexchange
  obtain rfl := eq_of_heq hr
  obtain ⟨current, stored, later, earlier, e, hsave⟩ := save_explained h hp hG
  refine ⟨current, ?_, hsave.writes, hsave.after, fun hsettled => ?_⟩
  · have hmem : e ∈ es := by
      rw [hsave.read.split]
      exact List.mem_append_right _ List.mem_cons_self
    rw [← hsave.read.exchange, ← hsave.read.thread]
    exact mem_traceOf hmem
  · have hsame := hsave.stored_eq hsettled
    exact hsame ▸ hsave.found

namespace Sample

/-- A record that is being created, its first start, and a record that says it stopped. -/
def firstStart : Fin 3 → Call
  | 0 => .saveContainer (container .creating)
  | 1 => .reconcile (input "v1" "image:1" .running false (some "provision:ws") none)
  | 2 => .persistLegacyContainer (container .stopped)

def firstStartSchedule : List (Fin 3 × Choice) :=
  thread 0 [.go] ++ thread 1 (toProvider ++ committing .applied (execution "v1" "image:1" .running)) ++
    thread 2 [.go, .go]

end Sample

open Sample in
theorem workspace_life_first_start : ∃ c,
    exec (workspaceSystem manager) (start (workspaceSystem manager) (world []) firstStart) firstStartSchedule = some c ∧
      (c.world.store.get "ws").any (fun p => 1 < p.execution.revision) = true ∧
      Every (fun _ e => ∀ id, WorkspaceMove (e.before.store.get id) (e.after.store.get id)) c.events := by
  obtain ⟨c, hrun, hsaved⟩ : ∃ c,
      exec (workspaceSystem manager) (start (workspaceSystem manager) (world []) firstStart) firstStartSchedule = some c ∧
      (c.world.store.get "ws").any (fun p => 1 < p.execution.revision) = true := exists_of_any (by decide +kernel)
  exact ⟨c, hrun, hsaved, (workspace_life hrun).1⟩

open Sample in
theorem no_update_lost_first_start : ∃ c,
    exec (workspaceSystem manager) (start (workspaceSystem manager) (world []) firstStart) firstStartSchedule = some c ∧
      (c.world.store.get "ws").any (fun p => 1 < p.execution.revision) = true ∧
      Every (ReplacesWhatItRead manager) c.events := by
  obtain ⟨c, hrun, hsaved⟩ : ∃ c,
      exec (workspaceSystem manager) (start (workspaceSystem manager) (world []) firstStart) firstStartSchedule = some c ∧
      (c.world.store.get "ws").any (fun p => 1 < p.execution.revision) = true := exists_of_any (by decide +kernel)
  exact ⟨c, hrun, hsaved, no_update_lost (by decide) hrun⟩

end OpenApp
