import OpenApp.Workspace.Kinds

/-!
# The rows along a run

A row's revision never falls, and a row that was compared and saved once, or is not active any
more, is replaced only together with its revision. So a save that succeeds meets the very row its caller read, and what a caller
makes of that row is what the store holds afterwards.
-/

namespace OpenApp

open Async Script

variable {m : Manager} {ι : Type} [DecidableEq ι] {w₀ w w' : World}
  {es : List (Event ι Op Op.Answer Failure World)}

/-! ## Revisions -/

/-- No container record may take the row's place. -/
def Settled (p : WorkspaceExecutionProjection) : Prop :=
  1 < p.execution.revision ∨ p.workspace.status ≠ .active

/-- How far a status has come. -/
def WorkspaceStatus.rank : WorkspaceStatus → Nat
  | .active => 0
  | .deleting => 1
  | .deleted => 2

theorem rank_of_transition {a b : WorkspaceStatus} (h : validWorkspaceStatusTransition a b = true) : a.rank ≤ b.rank := by
  cases a <;> cases b <;> first | decide | cases h

/-- What may stand in a row's place later. -/
structure Follows (p q : WorkspaceExecutionProjection) : Prop where
  revision : p.execution.revision ≤ q.execution.revision
  same : q.execution.revision = p.execution.revision → Settled p → q = p
  status : q.execution.revision = p.execution.revision → q.workspace.status = p.workspace.status
  onward : p.workspace.status.rank ≤ q.workspace.status.rank

theorem Follows.refl (p : WorkspaceExecutionProjection) : Follows p p :=
  ⟨Nat.le_refl _, fun _ _ => rfl, fun _ => rfl, Nat.le_refl _⟩

theorem Follows.trans {p q r : WorkspaceExecutionProjection} (h₁ : Follows p q) (h₂ : Follows q r) : Follows p r where
  revision := h₁.revision.trans h₂.revision
  same hr hp := by
    have hq : q.execution.revision = p.execution.revision :=
      Nat.le_antisymm (hr ▸ h₂.revision) h₁.revision
    have hqp := h₁.same hq hp
    rw [h₂.same (hr.trans hq.symm) (hqp ▸ hp), hqp]
  status hr := by
    have hq : q.execution.revision = p.execution.revision :=
      Nat.le_antisymm (hr ▸ h₂.revision) h₁.revision
    rw [h₂.status (hr.trans hq.symm), h₁.status hq]
  onward := h₁.onward.trans h₂.onward

/-- Rows are never dropped and only followed. -/
def Onward (w w' : World) : Prop :=
  ∀ id p, w.store.get id = some p → ∃ q, w'.store.get id = some q ∧ Follows p q

theorem Onward.refl (w : World) : Onward w w :=
  fun _ p h => ⟨p, h, .refl p⟩

theorem Onward.trans {w₁ w₂ w₃ : World} (h₁ : Onward w₁ w₂) (h₂ : Onward w₂ w₃) : Onward w₁ w₃ := by
  intro id p hp
  obtain ⟨q, hq, hpq⟩ := h₁ id p hp
  obtain ⟨r, hr, hqr⟩ := h₂ id q hq
  exact ⟨r, hr, hpq.trans hqr⟩

theorem saves_onward {p q current : WorkspaceExecutionProjection} {rev : Nat}
    (h : w.store.Saves p rev q w'.store current) : Onward w w' := by
  intro id r hr
  by_cases hid : id = p.workspace.id
  · subst hid
    obtain rfl := Option.some.inj (h.found.symm.trans hr)
    have hrev : q.execution.revision = current.execution.revision + 1 := by simp [h.result]
    refine ⟨q, by simp [h.store], by omega, fun heq => by omega, fun heq => by omega, ?_⟩
    rw [h.result]
    exact rank_of_transition h.transition.status
  · exact ⟨r, by simp [h.store, hid, hr], .refl r⟩

theorem projectContainer_fields {c : Container} {p : WorkspaceExecutionProjection}
    (h : projectContainerToWorkspaceExecution c = .ok p) :
    p.execution.revision = 1 ∧ p.workspace.id = c.id ∧ p.workspace.status = .active := by
  unfold projectContainerToWorkspaceExecution at h
  cases hp : normalizeProviderId c.providerId with
  | error e => rw [hp] at h; cases h
  | ok providerId =>
    simp only [hp, bind, Except.bind, pure, Except.pure, Except.ok.injEq] at h
    subst h
    exact ⟨rfl, rfl, rfl⟩

theorem saveContainer_onward {c : Container} (h : w.store.saveContainer c = .ok w'.store) : Onward w w' := by
  obtain ⟨hcur, at', p, hp, hproj, hs⟩ := MemoryPersistence.saveContainer_ok h
  obtain ⟨hrev, hid, hstatus⟩ := projectContainer_fields hproj
  intro id r hr
  rw [hs, MemoryPersistence.get_put]
  by_cases h' : id = p.workspace.id
  · rw [if_pos h']
    obtain ⟨hle, hactive⟩ := hcur r (by rw [← hr, h', hid])
    have hpos := (w.store.projectable id r hr).revision
    refine ⟨p, rfl, by omega, fun _ hsettled => ?_, fun _ => hstatus.trans hactive.symm, by rw [hstatus, hactive]⟩
    rcases hsettled with h1 | hnot
    · omega
    · exact absurd hactive hnot
  · rw [if_neg h']
    exact ⟨r, hr, .refl r⟩

theorem perform_onward {o : Op} {x : Choice} {r : Except Failure o.Answer} (h : w.perform o x = some (r, w')) :
    Onward w w' := by
  rcases World.perform_store h with hs | ⟨_, p, rev, q, current, _, hsave⟩ | ⟨c, _, hsave⟩
  · intro id p hp
    exact ⟨p, hs ▸ hp, .refl p⟩
  · exact saves_onward hsave
  · exact saveContainer_onward hsave

/-- From any event on, rows are only followed. -/
theorem history_onward {e : Event ι Op Op.Answer Failure World} {later : List (Event ι Op Op.Answer Failure World)}
    (h : History m w₀ (later ++ e :: es) w) : Onward e.after w :=
  Legal.span Onward.refl Onward.trans perform_onward h

/-! ## Runs of reconciles -/

/-- Without container records a row and its revision change together, from the first revision on. -/
def Revised (w w' : World) : Prop :=
  ∀ id p, w.store.get id = some p → ∃ q, w'.store.get id = some q ∧
    p.execution.revision ≤ q.execution.revision ∧ (q.execution.revision = p.execution.revision → q = p)

theorem Revised.refl (w : World) : Revised w w :=
  fun _ p h => ⟨p, h, Nat.le_refl _, fun _ => rfl⟩

theorem Revised.trans {w₁ w₂ w₃ : World} (h₁ : Revised w₁ w₂) (h₂ : Revised w₂ w₃) : Revised w₁ w₃ := by
  intro id p hp
  obtain ⟨q, hq, hle, heq⟩ := h₁ id p hp
  obtain ⟨r, hr, hle', heq'⟩ := h₂ id q hq
  refine ⟨r, hr, hle.trans hle', fun hrev => ?_⟩
  have hqp : q.execution.revision = p.execution.revision := Nat.le_antisymm (hrev ▸ hle') hle
  rw [heq' (hrev.trans hqp.symm), heq hqp]

theorem perform_revised {o : Op} {x : Choice} {r : Except Failure o.Answer} (hK : o.reconciling)
    (h : w.perform o x = some (r, w')) : Revised w w' := by
  rcases World.perform_store h with hs | ⟨caller, p, rev, q, current, _, hsave⟩ | ⟨c, rfl, _⟩
  · intro id p hp
    exact ⟨p, hs ▸ hp, Nat.le_refl _, fun _ => rfl⟩
  · intro id r hr
    by_cases hid : id = p.workspace.id
    · subst hid
      obtain rfl := Option.some.inj (hsave.found.symm.trans hr)
      refine ⟨q, by simp [hsave.store], ?_, fun hrev => ?_⟩
      · simp [hsave.result]
      · simp [hsave.result] at hrev
    · exact ⟨r, by simp [hsave.store, hid, hr], Nat.le_refl _, fun _ => rfl⟩
  · exact hK.elim

/-! ## Rows and their keys -/

theorem get_id {s : MemoryPersistence} {id : String} {p : WorkspaceExecutionProjection} (h : s.get id = some p) :
    p.workspace.id = id :=
  s.keyed id p h

theorem Writes.workspace_id {current next : WorkspaceExecutionProjection} {caller : Caller}
    (h : Writes m current next caller) : next.workspace.id = current.workspace.id := by
  cases caller with
  | getProjection => exact h.elim
  | persistIntent => obtain ⟨_, _, _, _, _, _, rfl⟩ := h; rfl
  | commitResult input result =>
    obtain ⟨_, _, _, _, _, _, _, _, rfl⟩ := h
    unfold committedOf
    dsimp only
    split <;> rfl
  | recordProviderFailure => obtain ⟨_, _, _, rfl⟩ := h; rfl
  | persistLegacyContainer => obtain ⟨_, _, _, rfl⟩ := h; rfl
  | beginDeletion => obtain ⟨_, _, _, _, rfl⟩ := h; rfl
  | advanceDeletion => obtain ⟨_, _, _, _, rfl⟩ := h; rfl
  | finalizeDeletion => obtain ⟨_, _, _, _, rfl⟩ := h; rfl
  | recordDeletionFailure => obtain ⟨_, _, _, rfl⟩ := h; rfl

/-! ## A save and the read it rests on -/

/-- The event in which a thread read a row. -/
structure ReadAt (es : List (Event ι Op Op.Answer Failure World)) (t : ι) (caller : Caller)
    (current : WorkspaceExecutionProjection) (later earlier : List (Event ι Op Op.Answer Failure World))
    (e : Event ι Op Op.Answer Failure World) : Prop where
  split : es = later ++ e :: earlier
  thread : e.thread = t
  exchange : e.toExchange = ⟨.getWorkspaceExecutionProjection caller current.workspace.id, .ok (some current)⟩
  stored : e.before.store.get current.workspace.id = some current
  unchanged : e.after = e.before
  /-- since then the thread has only looked at the clock -/
  since : traceOf t later = [] ∨ ∃ r : Except Failure String, traceOf t later = [⟨Op.now, r⟩]

theorem ReadAt.trace {t : ι} {caller : Caller} {current : WorkspaceExecutionProjection}
    {later earlier : List (Event ι Op Op.Answer Failure World)} {e : Event ι Op Op.Answer Failure World}
    (h : ReadAt es t caller current later earlier e) :
    Read caller current.workspace.id current (traceOf t es) (traceOf t earlier) := by
  have htr : traceOf t es = traceOf t later ++
      ⟨.getWorkspaceExecutionProjection caller current.workspace.id, .ok (some current)⟩ :: traceOf t earlier := by
    rw [h.split, traceOf_append, traceOf_own h.thread, h.exchange]
  rcases h.since with hs | ⟨r, hs⟩
  · exact .inl (by rw [htr, hs, List.nil_append])
  · exact .inr ⟨r, by rw [htr, hs, List.singleton_append]⟩

/-- Reading a row changes neither the thread's intent nor what it has done outside. -/
theorem ReadAt.keeps {t : ι} {caller : Caller} {current : WorkspaceExecutionProjection}
    {later earlier : List (Event ι Op Op.Answer Failure World)} {e : Event ι Op Op.Answer Failure World}
    (h : ReadAt es t caller current later earlier e) :
    savedIntent (traceOf t es) = savedIntent (traceOf t earlier) ∧
      effects (traceOf t es) = effects (traceOf t earlier) := by
  rcases h.trace with hs | ⟨r, hs⟩ <;> rw [hs] <;> exact ⟨rfl, rfl⟩

theorem readAt_of_read (h : History m w₀ es w) {t : ι} {caller : Caller} {id : String}
    {current : WorkspaceExecutionProjection} {earlier : Exchanges}
    (hread : Read caller id current (traceOf t es) earlier) :
    ∃ later e es₁, ReadAt es t caller current later es₁ e ∧ traceOf t es₁ = earlier ∧ id = current.workspace.id := by
  have found : ∃ later e es₁, es = later ++ e :: es₁ ∧ e.thread = t ∧
      e.toExchange = ⟨.getWorkspaceExecutionProjection caller id, .ok (some current)⟩ ∧
      traceOf t es₁ = earlier ∧ (traceOf t later = [] ∨
        ∃ r : Except Failure String, traceOf t later = [⟨Op.now, r⟩]) := by
    rcases hread with hr | ⟨r, hr⟩
    · obtain ⟨later, e, es₁, hes, ht, hx, htr, hl⟩ := exists_event_of_traceOf [] hr
      exact ⟨later, e, es₁, hes, ht, hx, htr, .inl hl⟩
    · obtain ⟨later, e, es₁, hes, ht, hx, htr, hl⟩ := exists_event_of_traceOf [⟨Op.now, r⟩] hr
      exact ⟨later, e, es₁, hes, ht, hx, htr, .inr ⟨r, hl⟩⟩
  obtain ⟨later, e, es₁, rfl, ht, hx, htr, hsince⟩ := found
  obtain ⟨_, _, x, hp⟩ := h.suffix
  obtain ⟨⟨o, r⟩, t', wb, wa⟩ := e
  obtain ⟨rfl, hr⟩ := Exchange.mk.inj hx
  obtain rfl := eq_of_heq hr
  obtain ⟨hget, hafter⟩ := World.perform_get hp
  obtain rfl := get_id hget
  exact ⟨later, _, es₁, ⟨rfl, ht, rfl, hget, hafter, hsince⟩, htr, rfl⟩

/-- Everything known of a save that took effect: `current` is the row its caller read, `stored` the
row it replaced. -/
structure SaveExplained (m : Manager) (es : List (Event ι Op Op.Answer Failure World)) (t : ι) (w w' : World)
    (caller : Caller) (next q current stored : WorkspaceExecutionProjection)
    (later earlier : List (Event ι Op Op.Answer Failure World)) (e : Event ι Op Op.Answer Failure World) : Prop where
  read : ReadAt es t caller current later earlier e
  context : Context m current.workspace.id (traceOf t earlier) caller
  writes : Writes m current next caller
  saves : w.store.Saves next current.execution.revision q w'.store stored
  id : next.workspace.id = current.workspace.id
  follows : Follows current stored

theorem SaveExplained.found {t : ι} {caller : Caller} {next q current stored : WorkspaceExecutionProjection}
    {later earlier : List (Event ι Op Op.Answer Failure World)} {e : Event ι Op Op.Answer Failure World}
    (h : SaveExplained m es t w w' caller next q current stored later earlier e) :
    w.store.get current.workspace.id = some stored :=
  h.id ▸ h.saves.found

theorem SaveExplained.after {t : ι} {caller : Caller} {next q current stored : WorkspaceExecutionProjection}
    {later earlier : List (Event ι Op Op.Answer Failure World)} {e : Event ι Op Op.Answer Failure World}
    (h : SaveExplained m es t w w' caller next q current stored later earlier e) :
    w'.store.get current.workspace.id = some q :=
  (h.saves.store _).trans (if_pos h.id.symm)

/-- The row that was replaced is the one that was read. -/
theorem SaveExplained.stored_eq {t : ι} {caller : Caller} {next q current stored : WorkspaceExecutionProjection}
    {later earlier : List (Event ι Op Op.Answer Failure World)} {e : Event ι Op Op.Answer Failure World}
    (h : SaveExplained m es t w w' caller next q current stored later earlier e)
    (hsettled : Settled current) : stored = current :=
  h.follows.same h.saves.revision hsettled

theorem SaveExplained.status {t : ι} {caller : Caller} {next q current stored : WorkspaceExecutionProjection}
    {later earlier : List (Event ι Op Op.Answer Failure World)} {e : Event ι Op Op.Answer Failure World}
    (h : SaveExplained m es t w w' caller next q current stored later earlier e) :
    stored.workspace.status = current.workspace.status :=
  h.follows.status h.saves.revision

theorem save_explained {t : ι} {caller : Caller} {next q : WorkspaceExecutionProjection} {rev : Nat} {x : Choice}
    (h : History m w₀ es w)
    (hp : w.perform (.compareAndSaveWorkspaceExecution caller next rev) x = some (.ok (some q), w'))
    (hG : Issued m (traceOf t es) (.compareAndSaveWorkspaceExecution caller next rev)) :
    ∃ current stored later earlier e, SaveExplained m es t w w' caller next q current stored later earlier e := by
  obtain ⟨id, current, earlier, hread, hctx, rfl, hw⟩ := hG
  obtain ⟨later, e, es₁, hat, rfl, rfl⟩ := readAt_of_read h hread
  have hid := hw.workspace_id
  obtain ⟨stored, hsaves⟩ := World.perform_save hp
  refine ⟨current, stored, later, es₁, e, hat, hctx, hw, hsaves, hid, ?_⟩
  have hsplit := hat.split
  subst hsplit
  obtain ⟨q', hq', hfollow⟩ := history_onward h _ _ (hat.unchanged ▸ hat.stored)
  obtain rfl := Option.some.inj (hq'.symm.trans (hid ▸ hsaves.found))
  exact hfollow

/-- A container record took the place of the row `id`, if there was one. -/
structure Recorded (w : World) (id : String) (o : Op) (row : WorkspaceExecutionProjection) : Prop where
  call : ∃ container, o = .saveContainer container
  projected : ∃ container, projectContainerToWorkspaceExecution container = .ok row
  replaced : ∀ stored, w.store.get id = some stored → stored.execution.revision ≤ 1 ∧ stored.workspace.status = .active

/-- What one call does to one row: nothing, a save that is explained, or a container record. -/
theorem row_step {t : ι} {o : Op} {x : Choice} {r : Except Failure o.Answer} (h : History m w₀ es w)
    (hp : w.perform o x = some (r, w')) (hG : Issued m (traceOf t es) o) (id : String) :
    w'.store.get id = w.store.get id ∨
      (∃ caller next rev q current stored later earlier e,
        (⟨o, r⟩ : Exchange Op Op.Answer Failure) =
          ⟨.compareAndSaveWorkspaceExecution caller next rev, .ok (some q)⟩ ∧ id = current.workspace.id ∧
        SaveExplained m es t w w' caller next q current stored later earlier e) ∨
      ∃ row, w'.store.get id = some row ∧ Recorded w id o row := by
  rcases World.perform_store hp with hs | ⟨caller, next, rev, q, stored, hex, hsaves⟩ | ⟨c, rfl, hs⟩
  · exact .inl (by rw [hs])
  · by_cases hid : id = next.workspace.id
    · obtain ⟨rfl, hr⟩ := Exchange.mk.inj hex
      obtain rfl := eq_of_heq hr
      obtain ⟨current, stored, later, earlier, e, hsave⟩ := save_explained h hp hG
      exact .inr (.inl ⟨caller, next, rev, q, current, stored, later, earlier, e, rfl, hid.trans hsave.id, hsave⟩)
    · exact .inl ((hsaves.store id).trans (if_neg hid))
  · obtain ⟨hover, at', row, hrow, hproj, hput⟩ := MemoryPersistence.saveContainer_ok hs
    have hid := (projectContainer_fields hproj).2.1
    rw [hput, MemoryPersistence.get_put]
    by_cases h' : id = row.workspace.id
    · refine .inr (.inr ⟨row, if_pos h', ⟨⟨c, rfl⟩, ⟨_, hproj⟩, ?_⟩⟩)
      rwa [h', hid]
    · exact .inl (if_neg h')

/-- In a run of reconciles this holds of every row. -/
theorem SaveExplained.stored_eq_of_reconciling {t : ι} {caller : Caller}
    {next q current stored : WorkspaceExecutionProjection} {later earlier : List (Event ι Op Op.Answer Failure World)}
    {e : Event ι Op Op.Answer Failure World} (hs : SaveExplained m es t w w' caller next q current stored later earlier e)
    (h : History m w₀ es w) (hK : Every (fun _ e => Op.reconciling e.op) es) : stored = current := by
  have hsplit := hs.read.split
  subst hsplit
  obtain ⟨p, hp, _, heq⟩ := h.span_of Revised.refl Revised.trans perform_revised hK _ _
    (hs.read.unchanged ▸ hs.read.stored)
  obtain rfl := Option.some.inj (hs.found.symm.trans hp)
  exact heq hs.saves.revision

/-! ## Intents -/

/-- The row the store made of an intent. -/
structure IntentRow (input : WorkspaceExecutionReconcileInput) (transactionId : String)
    (intent : WorkspaceExecutionProjection) : Prop where
  id : intent.workspace.id = input.workspaceId
  transactionId : intent.execution.transactionId = some transactionId
  transactionStatus : intent.execution.transactionStatus = .progressing
  desiredState : intent.execution.desiredState = input.desiredState
  appRevisionId : intent.execution.desiredAppRevisionId = input.appRevisionId
  launchArtifactId : intent.execution.desiredLaunchArtifactId = input.launchArtifactId
  launchArtifactReference : intent.execution.desiredLaunchArtifactReference = some input.launchArtifactReference
  revision : 1 < intent.execution.revision

/-- A thread that stored an intent finds it, or what followed it, in the store. -/
theorem savedIntent_stored (h : History m w₀ es w) {t : ι} {input : WorkspaceExecutionReconcileInput}
    {transactionId : String} {intent : WorkspaceExecutionProjection}
    (hs : savedIntent (traceOf t es) = some (input, transactionId, intent)) :
    IntentRow input transactionId intent ∧
      ∃ q, w.store.get input.workspaceId = some q ∧ Follows intent q := by
  induction h with
  | start => cases hs
  | @record es w w' t' o x r h hp hG ih =>
    have carry (hs : savedIntent (traceOf t es) = some (input, transactionId, intent)) :
        IntentRow input transactionId intent ∧ ∃ q, w'.store.get input.workspaceId = some q ∧ Follows intent q := by
      obtain ⟨hrow, q, hq, hfollow⟩ := ih hs
      obtain ⟨q', hq', hfollow'⟩ := perform_onward hp _ _ hq
      exact ⟨hrow, q', hq', hfollow.trans hfollow'⟩
    by_cases ht : t' = t
    · subst ht
      rw [traceOf_record_own] at hs
      by_cases hk : Exchange.keepsIntent ⟨o, r⟩ = true
      · exact carry ((savedIntent_cons hk).symm.trans hs)
      · cases o with
        | compareAndSaveWorkspaceExecution caller next rev =>
          cases caller with
          | persistIntent input' transactionId' =>
            rcases r with e | (_ | q)
            · exact carry hs
            · exact carry hs
            · obtain ⟨rfl, rfl, rfl⟩ : input' = input ∧ transactionId' = transactionId ∧ q = intent := by
                simpa [savedIntent] using hs
              obtain ⟨current, stored, _, _, _, hex⟩ := save_explained h hp hG
              obtain ⟨_, _, _, _, _, timestamp, rfl⟩ := hex.writes
              have hid : current.workspace.id = input'.workspaceId := hex.context
              have hpos := (w.store.projectable _ _ hex.saves.found).revision
              refine ⟨?_, q, hid ▸ hex.after, Follows.refl _⟩
              rw [hex.saves.result]
              refine ⟨hid, rfl, rfl, rfl, rfl, rfl, rfl, ?_⟩
              simp only [MemoryPersistence.saved_revision]
              omega
          | _ => exact absurd rfl hk
        | _ => exact absurd rfl hk
    · rw [traceOf_record_other ht] at hs
      exact carry hs

/-- The result of a call is about the generation and the transaction of its intent. -/
theorem reconcile_echo (h : History m w₀ es w) {t : ι} {input : WorkspaceExecutionReconcileInput}
    {transactionId : String} {intent : WorkspaceExecutionProjection} {binding : StorageBinding}
    {result : ExecutionReconcileResult} {rest : Exchanges} {x : Exchange Op Op.Answer Failure}
    (heff : effects (traceOf t es) =
      x :: ⟨.reconcile (reconcileRequest m input transactionId intent binding), .ok result⟩ :: rest) :
    result.generation = intent.execution.desiredGeneration ∧ result.transactionId = transactionId := by
  have hmem : (⟨.reconcile (reconcileRequest m input transactionId intent binding), .ok result⟩ :
      Exchange Op Op.Answer Failure) ∈ traceOf t es :=
    List.mem_of_mem_filter (heff ▸ List.mem_cons_of_mem _ (List.mem_cons_self ..) :
      _ ∈ effects (traceOf t es))
  obtain ⟨_, _, _, hp⟩ := h.performed hmem
  exact World.perform_reconcile hp

end OpenApp
