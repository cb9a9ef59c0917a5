import OpenApp.Workspace.Fencing

/-!
# What the generations of a row prove

The deployed generation proves a baseline, the healthy generation a health check, and `applied`
that both have caught up with what is wanted. Three writers touch these fields, each a different
part of them: an intent, a result and the older record. A result is stored as applied when it is
not a rollback and awaits no first start, be it only `progressing`; the older record sets the
wanted state and leaves the transaction alone.
-/

namespace OpenApp

open Async

variable {m : Manager} {ι : Type} [DecidableEq ι] {w₀ w w' : World} {es : List (Event ι Op Op.Answer Failure World)}

/-- What the generations of a row claim. -/
structure GenerationProofs (p : WorkspaceExecutionProjection) : Prop where
  deployed_le : p.execution.deployedGeneration ≤ p.execution.desiredGeneration
  healthy_le : ∀ h ∈ p.execution.healthyGeneration, h ≤ p.execution.deployedGeneration
  deployed : p.execution.transactionStatus = .applied ∨ p.execution.transactionStatus = .awaitingFirstStart →
    p.execution.deployedGeneration = p.execution.desiredGeneration
  healthy : p.execution.transactionStatus = .applied → p.execution.desiredState = .running →
    p.execution.healthyGeneration = some p.execution.desiredGeneration

instance (p : WorkspaceExecutionProjection) : Decidable (GenerationProofs p) :=
  decidable_of_iff
    (p.execution.deployedGeneration ≤ p.execution.desiredGeneration ∧
      (∀ h ∈ p.execution.healthyGeneration, h ≤ p.execution.deployedGeneration) ∧
      (p.execution.transactionStatus = .applied ∨ p.execution.transactionStatus = .awaitingFirstStart →
        p.execution.deployedGeneration = p.execution.desiredGeneration) ∧
      (p.execution.transactionStatus = .applied → p.execution.desiredState = .running →
        p.execution.healthyGeneration = some p.execution.desiredGeneration))
    ⟨fun ⟨a, b, c, d⟩ => ⟨a, b, c, d⟩, fun ⟨a, b, c, d⟩ => ⟨a, b, c, d⟩⟩

/-- Every stored row proves what it claims. -/
def World.proven (w : World) : Prop :=
  ∀ id p, w.store.get id = some p → GenerationProofs p

/-- What this caller makes of the row wants no health that is not proven: a result that is stored
as applied comes from a running environment, unless the row wants none or has the proof already; an
older record that leaves the row applied and wanted running finds or brings the proof. -/
def Caller.keepsProofs (current : WorkspaceExecutionProjection) : Caller → Bool
  | .commitResult _ result =>
    result.status = .rolledBack || result.status = .awaitingFirstStart
      || result.execution.observedState = .running
      || current.execution.desiredState = .stopped
      || current.execution.healthyGeneration = some current.execution.desiredGeneration
  | .persistLegacyContainer container =>
    current.execution.transactionStatus ≠ .applied
      || container.status = .running || container.status = .stopped
      || current.execution.healthyGeneration = some current.execution.desiredGeneration
  | _ => true

/-- The row a thread read last. -/
def rowRead : Exchanges → Option WorkspaceExecutionProjection
  | [] => none
  | ⟨.getWorkspaceExecutionProjection _ _, .ok row⟩ :: _ => row
  | _ :: rest => rowRead rest

/-- A save that takes effect was made of a row from which its caller keeps the proofs. -/
def keepsProofs (es : List (Event ι Op Op.Answer Failure World)) (e : Event ι Op Op.Answer Failure World) : Bool :=
  match e.toExchange with
  | ⟨.compareAndSaveWorkspaceExecution caller _ _, .ok (some _)⟩ =>
    (rowRead (traceOf e.thread es)).all caller.keepsProofs
  | _ => true

/-- An adapter reports as applied only what was asked for. -/
def appliedAsDesired (e : Event ι Op Op.Answer Failure World) : Bool :=
  match e.toExchange with
  | ⟨.reconcile request, .ok result⟩ =>
    result.status ≠ .applied || result.execution.observedState =
      match request.desiredState with
      | .running => .running
      | .stopped => .stopped
  | _ => true

/-! ## What each writer does to the proofs -/

theorem projectContainer_proofs {c : Container} {p : WorkspaceExecutionProjection}
    (h : projectContainerToWorkspaceExecution c = .ok p) : GenerationProofs p := by
  have hok := projectContainer_projectable h
  unfold projectContainerToWorkspaceExecution at h
  cases hp : normalizeProviderId c.providerId with
  | error e => rw [hp] at h; cases h
  | ok providerId =>
    simp only [hp, bind, Except.bind, pure, Except.pure, Except.ok.injEq] at h
    subst h
    refine ⟨hok.deployed, hok.healthy, ?_, ?_⟩ <;> cases hs : c.status <;> simp

@[simp] theorem saved_proofs {stored p : WorkspaceExecutionProjection} :
    GenerationProofs (MemoryPersistence.saved stored p) ↔ GenerationProofs p :=
  ⟨fun h => ⟨h.deployed_le, h.healthy_le, h.deployed, h.healthy⟩,
    fun h => ⟨h.deployed_le, h.healthy_le, h.deployed, h.healthy⟩⟩

/-- A row that is still in progress, or not applied in the end, owes no proof. -/
theorem proofs_of_open {p : WorkspaceExecutionProjection} (hp : Projectable p)
    (hopen : p.execution.transactionStatus ≠ .applied ∧ p.execution.transactionStatus ≠ .awaitingFirstStart) :
    GenerationProofs p where
  deployed_le := hp.deployed
  healthy_le := hp.healthy
  deployed h := (h.elim hopen.1 hopen.2).elim
  healthy h := (hopen.1 h).elim

theorem committed_proofs {input : WorkspaceExecutionReconcileInput} {result : ExecutionReconcileResult}
    {updatedAt : String} {status : ContainerStatus} {current : WorkspaceExecutionProjection}
    (hok : Projectable (committedOf input result updatedAt status current))
    (hgen : current.execution.desiredGeneration = result.generation) :
    GenerationProofs (committedOf input result updatedAt status current) ↔
      Caller.keepsProofs current (.commitResult input result) = true := by
  by_cases hrb : result.status = .rolledBack
  · have hopen : (committedOf input result updatedAt status current).execution.transactionStatus = .rolledBack := by
      simp [committedOf, hrb]
    simp only [Caller.keepsProofs, hrb, decide_true, Bool.true_or, iff_true]
    exact proofs_of_open hok (by simp [hopen])
  · have hdeployed : (committedOf input result updatedAt status current).execution.deployedGeneration =
        (committedOf input result updatedAt status current).execution.desiredGeneration := by
      simp [committedOf, observedOf, hrb, hgen]
    have hhealthy : GenerationProofs (committedOf input result updatedAt status current) ↔
        (result.status ≠ .awaitingFirstStart → current.execution.desiredState = .running →
          result.execution.observedState ≠ .running →
          current.execution.healthyGeneration = some current.execution.desiredGeneration) := by
      constructor
      · intro h ha hd ho
        simpa [committedOf, observedOf, hrb, ha, ho] using
          h.healthy (by simp [committedOf, hrb, ha]) (by simp [committedOf, observedOf, hrb, hd])
      · intro h
        refine ⟨hok.deployed, hok.healthy, fun _ => hdeployed, fun happlied hwanted => ?_⟩
        have ha : result.status ≠ .awaitingFirstStart := by
          intro ha
          simp [committedOf, ha] at happlied
        have hd : current.execution.desiredState = .running := by
          simpa [committedOf, observedOf, hrb] using hwanted
        by_cases ho : result.execution.observedState = .running
        · simp [committedOf, observedOf, hrb, ho, hgen]
        · simpa [committedOf, observedOf, hrb, ho] using h ha hd ho
    rw [hhealthy]
    simp only [Caller.keepsProofs, Bool.or_eq_true, decide_eq_true_eq, hrb, false_or]
    cases hd : current.execution.desiredState <;> simp only [reduceCtorEq] <;> tauto

theorem legacy_proofs {container : Container} {current : WorkspaceExecutionProjection}
    (hok : Projectable (legacyOf container current)) (hc : GenerationProofs current) :
    GenerationProofs (legacyOf container current) ↔
      Caller.keepsProofs current (.persistLegacyContainer container) = true := by
  have hhealthy : GenerationProofs (legacyOf container current) ↔
      (current.execution.transactionStatus = .applied → container.status ≠ .stopped → container.status ≠ .running →
        current.execution.healthyGeneration = some current.execution.desiredGeneration) := by
    constructor
    · intro h ha hs hr
      simpa [legacyOf, ha, hs, hr] using h.healthy ha (by simp [legacyOf, ha, hs])
    · intro h
      refine ⟨hok.deployed, hok.healthy, hc.deployed, fun happlied hwanted => ?_⟩
      have ha : current.execution.transactionStatus = .applied := happlied
      have hs : container.status ≠ .stopped := by
        intro hs
        simp [legacyOf, ha, hs] at hwanted
      by_cases hr : container.status = .running
      · -- a running record raises the proof to the deployed generation, which is the desired one
        have hdeployed := hc.deployed (.inl ha)
        have hle : current.execution.healthyGeneration.getD 0 ≤ current.execution.deployedGeneration := by
          cases hh : current.execution.healthyGeneration with
          | none => exact Nat.zero_le _
          | some g => exact hc.healthy_le g hh
        rw [hdeployed] at hle
        simpa [legacyOf, hr, hdeployed] using hle
      · simpa [legacyOf, hr] using h ha hs hr
  rw [hhealthy]
  simp only [Caller.keepsProofs, Bool.or_eq_true, decide_eq_true_eq]
  tauto

/-- From a row with its proofs, a writer makes a row with its proofs exactly when it keeps them. -/
theorem written_proofs {caller : Caller} {current next : WorkspaceExecutionProjection}
    (hw : Writes m current next caller) (hok : Projectable next) (hc : GenerationProofs current)
    (hlive : caller.ofDeletion = false) : GenerationProofs next ↔ caller.keepsProofs current = true := by
  cases caller with
  | getProjection => exact hw.elim
  | persistIntent =>
    obtain ⟨_, _, _, _, _, timestamp, rfl⟩ := hw
    exact iff_of_true (proofs_of_open hok (by simp [intentOf])) rfl
  | recordProviderFailure workspaceId transactionId error =>
    obtain ⟨_, _, timestamp, rfl⟩ := hw
    refine iff_of_true (proofs_of_open hok ?_) rfl
    unfold failedOf
    constructor <;> dsimp only <;> split <;> simp
  | commitResult input result =>
    obtain ⟨_, _, hgen, _, _, _, _, _, rfl⟩ := hw
    exact committed_proofs hok hgen
  | persistLegacyContainer container =>
    obtain ⟨_, _, _, rfl⟩ := hw
    exact legacy_proofs hok hc
  | _ => cases hlive

/-! ## Runs -/

theorem rowRead_of_read {caller : Caller} {id : String} {current : WorkspaceExecutionProjection}
    {tr earlier : Exchanges} (h : Read caller id current tr earlier) : rowRead tr = some current := by
  rcases h with rfl | ⟨r, rfl⟩ <;> rfl

/-- What holds of the world after every event holds of it at the end of the run. -/
theorem proven_of_every (h : History m w₀ es w) (h₀ : w₀.proven) (hes : Every (fun _ e => e.after.proven) es) :
    w.proven := by
  cases h with
  | start => exact h₀
  | record => exact hes.1

/-- A save changes one row. -/
theorem proven_save {next q stored : WorkspaceExecutionProjection} {rev : Nat} (hw : w.proven)
    (hs : w.store.Saves next rev q w'.store stored) : w'.proven ↔ GenerationProofs next := by
  constructor
  · intro h
    have hq := h next.workspace.id q (by rw [hs.store, if_pos rfl])
    rwa [hs.result, saved_proofs] at hq
  · intro h id p hp
    rw [hs.store] at hp
    split at hp
    · obtain rfl := Option.some.inj hp
      rwa [hs.result, saved_proofs]
    · exact hw id p hp

theorem proven_saveContainer {c : Container} (hw : w.proven) (hs : w.store.saveContainer c = .ok w'.store) :
    w'.proven := by
  obtain ⟨_, _, p, hp, hproj, hput⟩ := MemoryPersistence.saveContainer_ok hs
  intro id q hq
  rw [hput, MemoryPersistence.get_put] at hq
  split at hq
  · obtain rfl := Option.some.inj hq
    exact projectContainer_proofs hproj
  · exact hw id q hq

theorem proven_step {t : ι} {o : Op} {x : Choice} {r : Except Failure o.Answer} (h : History m w₀ es w)
    (h₀ : w₀.proven) (hes : Every (fun _ e => e.after.proven) es) (hlive : o.live)
    (hp : w.perform o x = some (r, w')) (hG : Issued m (traceOf t es) o) :
    w'.proven ↔ keepsProofs es ⟨⟨o, r⟩, t, w, w'⟩ = true := by
  have hw := proven_of_every h h₀ hes
  rcases World.perform_store hp with hs | ⟨caller, next, rev, q, stored, hex, hsaves⟩ | ⟨c, rfl, hs⟩
  · have hw' : w'.proven := by
      intro id p hp
      exact hw id p (hs ▸ hp)
    refine iff_of_true hw' ?_
    unfold keepsProofs
    split
    · next caller next rev q hex =>
      -- a save always changes the revision of its row
      obtain ⟨rfl, hr⟩ := Exchange.mk.inj hex
      obtain rfl := eq_of_heq hr
      obtain ⟨current, stored, later, earlier, e, hsave⟩ := save_explained h hp hG
      have hsame := hsave.saves.store next.workspace.id
      rw [if_pos rfl, hs, hsave.saves.found] at hsame
      have hrev := congrArg (fun p => p.execution.revision) (Option.some.inj hsame)
      simp [hsave.saves.result] at hrev
    · rfl
  · obtain ⟨rfl, hr⟩ := Exchange.mk.inj hex
    obtain rfl := eq_of_heq hr
    obtain ⟨current, _, later, earlier, e, hsave⟩ := save_explained h hp hG
    have hread : rowRead (traceOf t es) = some current := rowRead_of_read hsave.read.trace
    have hc : GenerationProofs current := by
      have he := (hsave.read.split ▸ hes : Every _ (later ++ e :: earlier)).at
      exact he _ _ (hsave.read.unchanged ▸ hsave.read.stored)
    rw [proven_save hw hsaves, written_proofs hsave.writes hsaves.transition.to_ok hc hlive]
    simp [keepsProofs, hread]
  · exact iff_of_true (proven_saveContainer hw hs) rfl

theorem proven_iff_of_history (h : History m w₀ es w) (h₀ : w₀.proven) (hK : Every (fun _ e => Op.live e.op) es) :
    Every (fun _ e => e.after.proven) es ↔ Every (fun es e => keepsProofs es e = true) es := by
  induction h with
  | start => exact Iff.rfl
  | @record es w w' t o x r h hp hG ih =>
    have ih := ih hK.2
    constructor
    · intro ⟨hw', hes⟩
      exact ⟨(proven_step h h₀ hes hK.1 hp hG).1 hw', ih.1 hes⟩
    · intro ⟨hk, hes⟩
      exact ⟨(proven_step h h₀ (ih.2 hes) hK.1 hp hG).2 hk, ih.2 hes⟩

/-- In every run without deletions, all the rows of all the states reached prove what they claim if
and only if every save keeps the proofs. -/
theorem generations_proven_iff {calls : ι → Call} (hcalls : ∀ t, (calls t).live = true) (h₀ : w₀.proven)
    {sched : List (ι × Choice)} {c : Config ι Op Op.Answer Failure World Call Returned}
    (hrun : exec (workspaceSystem m) (start (workspaceSystem m) w₀ calls) sched = some c) :
    Every (fun _ e => e.after.proven) c.events ↔ Every (fun es e => keepsProofs es e = true) c.events :=
  proven_iff_of_history (history_of_run (fun t => Call.fresh_of_live (hcalls t)) hrun) h₀ (live_of_run hcalls hrun)

theorem proven_empty : (Sample.world []).proven :=
  fun _ _ h => by cases h

open Sample in
/-- A record that is being created, its first start, and a record that says it stopped. -/
theorem generations_proven_first_start : ∃ c,
    exec (workspaceSystem manager) (start (workspaceSystem manager) (world []) fun t : Fin 3 =>
        match t with
        | 0 => .saveContainer (container .creating)
        | 1 => .reconcile (input "v1" "image:1" .running false (some "provision:ws") none)
        | 2 => .persistLegacyContainer (container .stopped))
      (thread 0 [.go] ++ thread 1 (toProvider ++ committing .applied (execution "v1" "image:1" .running)) ++
        thread 2 [.go, .go]) = some c ∧
    Every (fun _ e => e.after.proven) c.events := by
  obtain ⟨c, hrun, hkeeps⟩ : ∃ c,
      exec (workspaceSystem manager) (start (workspaceSystem manager) (world []) fun t : Fin 3 =>
          match t with
          | 0 => .saveContainer (container .creating)
          | 1 => .reconcile (input "v1" "image:1" .running false (some "provision:ws") none)
          | 2 => .persistLegacyContainer (container .stopped))
        (thread 0 [.go] ++ thread 1 (toProvider ++ committing .applied (execution "v1" "image:1" .running)) ++
          thread 2 [.go, .go]) = some c ∧
        Every (fun es e => keepsProofs es e = true) c.events := exists_of_any (by decide +kernel)
  exact ⟨c, hrun, (generations_proven_iff (by decide) proven_empty hrun).2 hkeeps⟩

open Sample in
/-- A stopped record, then one that says it failed: the row is applied, wants to run and was never
healthy. -/
theorem failed_record_claims_health : ∃ c,
    exec (workspaceSystem manager) (start (workspaceSystem manager) (world []) fun t : Bool =>
        if t then .saveContainer (container .stopped) else .persistLegacyContainer (container .failed))
      (thread true [.go] ++ thread false [.go, .go]) = some c ∧
    Every (fun _ e => appliedAsDesired e = true) c.events ∧ ¬ Every (fun _ e => e.after.proven) c.events := by
  obtain ⟨c, hrun, happlied, hnot⟩ : ∃ c,
      exec (workspaceSystem manager) (start (workspaceSystem manager) (world []) fun t : Bool =>
          if t then .saveContainer (container .stopped) else .persistLegacyContainer (container .failed))
        (thread true [.go] ++ thread false [.go, .go]) = some c ∧
      Every (fun _ e => appliedAsDesired e = true) c.events ∧
        ¬ Every (fun _ e => ∀ p ∈ e.after.store.get "ws", GenerationProofs p) c.events :=
    exists_of_any (by decide +kernel)
  refine ⟨c, hrun, happlied, fun h => hnot (h.imp fun _ e he => ?_)⟩
  intro p hp
  exact he "ws" p hp

end OpenApp
