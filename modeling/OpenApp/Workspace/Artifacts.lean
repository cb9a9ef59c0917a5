import OpenApp.Workspace.Fencing

/-!
# Artifacts

The row holds two artifacts: the one it wants, which its generation stands for, and the one it
records as deployed. A result that reports what it runs lets the second be compared with the truth.
A rollback keeps the record as it was, which is right when the record is of what was rolled back
to. A generation is reused by a call that replaces nothing, which is right when it asks for the
artifact the generation already stands for.
-/

namespace OpenApp

open Async

variable {m : Manager} {ι : Type} [DecidableEq ι] {w₀ w w' : World} {es : List (Event ι Op Op.Answer Failure World)}

structure Artifact where
  appRevisionId : Option String
  launchArtifactId : Option String
  launchArtifactReference : Option String
  deriving DecidableEq

/-- What the row wants. -/
def desiredArtifact (p : WorkspaceExecutionProjection) : Artifact :=
  ⟨p.execution.desiredAppRevisionId, p.execution.desiredLaunchArtifactId, p.execution.desiredLaunchArtifactReference⟩

/-- What the row says is deployed. -/
def recordedArtifact (p : WorkspaceExecutionProjection) : Artifact :=
  ⟨p.workspace.appRevisionId, p.execution.launchArtifactId, p.execution.launchArtifactReference⟩

def requestedArtifact (input : WorkspaceExecutionReconcileInput) : Artifact :=
  ⟨input.appRevisionId, input.launchArtifactId, some input.launchArtifactReference⟩

def snapshotArtifact (snapshot : ContainerCatalogSnapshot) : Artifact :=
  ⟨snapshot.appVersionId, snapshot.imageArtifactId, some snapshot.imageReference⟩

/-! ## The record and the provider's snapshot -/

/-- The result that this event committed, and the row it made. -/
def commitOf (e : Event ι Op Op.Answer Failure World) :
    Option (ExecutionReconcileResult × WorkspaceExecutionProjection) :=
  match e.toExchange with
  | ⟨.compareAndSaveWorkspaceExecution (.commitResult _ result) _ _, .ok (some q)⟩ => some (result, q)
  | _ => none

/-- A result that was committed with a snapshot left the record as the snapshot says. -/
def recordsSnapshot (e : Event ι Op Op.Answer Failure World) : Bool :=
  (commitOf e).all fun (result, q) =>
    result.execution.catalogSnapshot.all fun snapshot => recordedArtifact q = snapshotArtifact snapshot

/-- The result is no rollback, or the row it meets already records what the snapshot says. -/
def rolledBackToRecord (e : Event ι Op Op.Answer Failure World) : Bool :=
  (commitOf e).all fun (result, q) =>
    result.execution.catalogSnapshot.all fun snapshot => result.status ≠ .rolledBack
      || (e.before.store.get q.workspace.id).any fun stored => recordedArtifact stored = snapshotArtifact snapshot

omit [DecidableEq ι] in
theorem commitOf_some {e : Event ι Op Op.Answer Failure World} {result : ExecutionReconcileResult}
    {q : WorkspaceExecutionProjection} (h : commitOf e = some (result, q)) : ∃ input next rev,
      e.toExchange = ⟨.compareAndSaveWorkspaceExecution (.commitResult input result) next rev, .ok (some q)⟩ := by
  unfold commitOf at h
  split at h
  · next hex =>
    obtain ⟨rfl, rfl⟩ := Prod.mk.inj (Option.some.inj h)
    exact ⟨_, _, _, hex⟩
  · cases h

theorem recordedArtifact_committed {input : WorkspaceExecutionReconcileInput} {result : ExecutionReconcileResult}
    {updatedAt : String} {status : ContainerStatus} {current : WorkspaceExecutionProjection} :
    recordedArtifact (committedOf input result updatedAt status current) =
      if result.status = .rolledBack then recordedArtifact current else requestedArtifact input := by
  unfold committedOf
  dsimp only
  split <;> rfl

@[simp] theorem recordedArtifact_saved (current next : WorkspaceExecutionProjection) :
    recordedArtifact (MemoryPersistence.saved current next) = recordedArtifact next := rfl

theorem requestedArtifact_of_matches {input : WorkspaceExecutionReconcileInput} {execution : ProviderExecution}
    {snapshot : ContainerCatalogSnapshot} (h : catalogResultMatches input execution = true)
    (hs : execution.catalogSnapshot = some snapshot) : requestedArtifact input = snapshotArtifact snapshot := by
  simp only [catalogResultMatches, hs, Bool.and_eq_true, decide_eq_true_eq] at h
  obtain ⟨⟨⟨_, hversion⟩, hartifact⟩, hreference⟩ := h
  rw [requestedArtifact, snapshotArtifact, hversion, hartifact, hreference]

theorem records_snapshot_of_history (h : History m w₀ es w) :
    Every (fun _ e => recordsSnapshot e = rolledBackToRecord e) es := by
  refine h.every fun es w w' t o x r h _ hp hG => ?_
  unfold recordsSnapshot rolledBackToRecord
  cases hc : commitOf (⟨⟨o, r⟩, t, w, w'⟩ : Event ι Op Op.Answer Failure World) with
  | none => rfl
  | some pair =>
    obtain ⟨result, q⟩ := pair
    obtain ⟨input, next, rev, hex⟩ := commitOf_some hc
    obtain ⟨rfl, hr⟩ := Exchange.mk.inj hex
    obtain rfl := eq_of_heq hr
    obtain ⟨current, later, earlier, e, hsave⟩ := outcome_saved h hp hG rfl
    obtain ⟨_, _, _, _, hmatches, updatedAt, status, _, hnext⟩ := hsave.writes
    have hid : q.workspace.id = next.workspace.id := by rw [hsave.result]; rfl
    have hrecord : recordedArtifact q =
        if result.status = .rolledBack then recordedArtifact current else requestedArtifact input := by
      rw [hsave.result, recordedArtifact_saved, hnext, recordedArtifact_committed]
    cases hs : result.execution.catalogSnapshot with
    | none => simp [hs]
    | some snapshot =>
      simp only [Option.all_some, hs, hid, hsave.replaced, Option.any_some, hrecord]
      by_cases hrb : result.status = .rolledBack
      · simp [hrb]
      · simp [hrb, requestedArtifact_of_matches (hmatches hrb) hs]

/-- Every commit of every run: the saved row records the provider's snapshot if and only if the
result is no rollback or the row already recorded it. -/
theorem records_snapshot_iff {calls : ι → Call} (hcalls : ∀ t, (calls t).fresh = true) {sched : List (ι × Choice)}
    {c : Config ι Op Op.Answer Failure World Call Returned}
    (hrun : exec (workspaceSystem m) (start (workspaceSystem m) w₀ calls) sched = some c) :
    Every (fun _ e => recordsSnapshot e = true ↔ rolledBackToRecord e = true) c.events :=
  (records_snapshot_of_history (history_of_run hcalls hrun)).imp fun _ _ h => by rw [h]

open Sample in
theorem records_snapshot_iff_rebuild : ∃ c,
    exec (workspaceSystem manager) (start (workspaceSystem manager) (world [container .running])
      fun _ : Unit => .reconcile (input "v2" "image:2" .running true (some "retry") none))
      (thread () (toProvider ++ committing .applied (execution "v2" "image:2" .running))) = some c ∧
    Every (fun _ e => recordsSnapshot e = true ↔ rolledBackToRecord e = true) c.events := by
  obtain ⟨c, hrun, _⟩ : ∃ c, exec (workspaceSystem manager) (start (workspaceSystem manager)
      (world [container .running]) fun _ : Unit =>
        .reconcile (input "v2" "image:2" .running true (some "retry") none))
      (thread () (toProvider ++ committing .applied (execution "v2" "image:2" .running))) = some c ∧
      c.events.length = 11 := exists_of_any (by decide +kernel)
  exact ⟨c, hrun, records_snapshot_iff (fun _ => rfl) hrun⟩

open Sample in
/-- A rebuild to `v2` leaves a stopped candidate that awaits its first start. Starting it fails in
the provider, which goes back to `v1` and says so; the row keeps `v2`. -/
theorem rollback_of_first_start_keeps_record : ∃ c,
    exec (workspaceSystem manager) (start (workspaceSystem manager) (world [container .running])
      fun t : Bool => if t then .reconcile (input "v2" "image:2" .stopped true none none) else .start "ws" none)
      (thread true (toProviderAs "rebuild" ++ committing .awaitingFirstStart (execution "v2" "image:2" .stopped)) ++
        thread false ([.go, .profiles (profile "image:2")] ++ toProviderAs "start" ++
          committing .rolledBack (execution "v1" "image:1" .running))) = some c ∧
    ¬ Every (fun _ e => recordsSnapshot e = true) c.events :=
  exists_of_any (by decide +kernel)

/-! ## The artifact of a generation -/

/-- All the rows a Workspace had, the latest first. -/
def versions (id : String) (w₀ : World) : List (Event ι Op Op.Answer Failure World) → List WorkspaceExecutionProjection
  | [] => (w₀.store.get id).toList
  | e :: es => (e.after.store.get id).toList ++ versions id w₀ es

/-- An intent that keeps the generation of the row asks for the artifact the row wants. -/
def keepsArtifact (e : Event ι Op Op.Answer Failure World) : Bool :=
  match e.toExchange with
  | ⟨.compareAndSaveWorkspaceExecution (.persistIntent input transactionId) next _, .ok (some _)⟩ =>
    (e.before.store.get next.workspace.id).all fun stored =>
      (stored.execution.transactionId ≠ some transactionId && input.replace)
        || requestedArtifact input = desiredArtifact stored
  | _ => true

/-- Only one artifact for each generation. -/
def OneArtifact (rows : List WorkspaceExecutionProjection) : Prop :=
  ∀ p ∈ rows, ∀ q ∈ rows, p.execution.desiredGeneration = q.execution.desiredGeneration →
    desiredArtifact p = desiredArtifact q

instance (rows : List WorkspaceExecutionProjection) : Decidable (OneArtifact rows) :=
  inferInstanceAs (Decidable (∀ p ∈ rows, ∀ q ∈ rows,
    p.execution.desiredGeneration = q.execution.desiredGeneration → desiredArtifact p = desiredArtifact q))

theorem mem_versions (h : History m w₀ es w) {id : String} {p : WorkspaceExecutionProjection}
    (hp : w.store.get id = some p) : p ∈ versions id w₀ es := by
  cases h with
  | start => simp [versions, hp]
  | record => simp [versions, hp]

theorem saved_intent_mem_versions (h : History m w₀ es w) {t : ι} {input : WorkspaceExecutionReconcileInput}
    {transactionId : String} {intent : WorkspaceExecutionProjection}
    (hs : savedIntent (traceOf t es) = some (input, transactionId, intent)) :
    intent ∈ versions input.workspaceId w₀ es := by
  induction h with
  | start => cases hs
  | @record es w w' t' o x r h hp hG ih =>
    have carry (hs : savedIntent (traceOf t es) = some (input, transactionId, intent)) :
        intent ∈ versions input.workspaceId w₀
          ((⟨⟨o, r⟩, t', w, w'⟩ : Event ι Op Op.Answer Failure World) :: es) :=
      List.mem_append_right _ (ih hs)
    by_cases ht : t' = t
    · subst ht
      rw [traceOf_record_own] at hs
      by_cases hk : Exchange.keepsIntent ⟨o, r⟩ = true
      · exact carry ((savedIntent_cons hk).symm.trans hs)
      · cases o with
        | compareAndSaveWorkspaceExecution caller next rev =>
          cases caller with
          | persistIntent input' transactionId' =>
            rcases r with e | (_ | q)
            · exact carry hs
            · exact carry hs
            · obtain ⟨rfl, rfl, rfl⟩ : input' = input ∧ transactionId' = transactionId ∧ q = intent := by
                simpa [savedIntent] using hs
              obtain ⟨current, stored, _, _, _, hex⟩ := save_explained h hp hG
              have hid : current.workspace.id = input'.workspaceId := hex.context
              exact List.mem_append_left _ (by simp [← hid, hex.after])
          | _ => exact absurd rfl hk
        | _ => exact absurd rfl hk
    · rw [traceOf_record_other ht] at hs
      exact carry hs

/-- What one save of a reconcile does to the wanted artifact: an intent sets it, and the generation
with it; an outcome leaves both. -/
theorem desiredArtifact_save {t : ι} {caller : Caller} {next q current stored : WorkspaceExecutionProjection}
    {later earlier : List (Event ι Op Op.Answer Failure World)} {e : Event ι Op Op.Answer Failure World}
    (hs : SaveExplained m es t w w' caller next q current stored later earlier e) (heq : stored = current)
    (hcaller : caller.ofReconcile = true)
    (hkeeps : ∀ input transactionId, caller = .persistIntent input transactionId →
      (stored.execution.transactionId ≠ some transactionId ∧ input.replace = true) ∨
        requestedArtifact input = desiredArtifact stored)
    (hgen : q.execution.desiredGeneration = stored.execution.desiredGeneration) :
    desiredArtifact q = desiredArtifact stored := by
  subst heq
  rw [hs.saves.result] at hgen ⊢
  have hw := hs.writes
  cases caller with
  | persistIntent input transactionId =>
    obtain ⟨_, _, _, _, _, timestamp, rfl⟩ := hw
    rcases hkeeps input transactionId rfl with ⟨htx, hreplace⟩ | hreq
    · simp [MemoryPersistence.saved, intentOf, htx, hreplace] at hgen
    · exact hreq
  | commitResult input result =>
    obtain ⟨_, _, _, _, _, _, _, _, rfl⟩ := hw
    unfold committedOf
    dsimp only
    split <;> rfl
  | recordProviderFailure => obtain ⟨_, _, _, rfl⟩ := hw; rfl
  | getProjection => exact hw.elim
  | _ => cases hcaller

/-- Where a save raised the deployed generation, all rows of that generation want what the saved
row records. -/
def deploysRequested (id : String) (w₀ : World) (es : List (Event ι Op Op.Answer Failure World))
    (e : Event ι Op Op.Answer Failure World) : Prop :=
  ∀ stored q, e.before.store.get id = some stored → e.after.store.get id = some q →
    stored.execution.deployedGeneration < q.execution.deployedGeneration →
    q.execution.desiredGeneration = q.execution.deployedGeneration ∧
      ∀ p ∈ versions id w₀ (e :: es), p.execution.desiredGeneration = q.execution.deployedGeneration →
        desiredArtifact p = recordedArtifact q

/-- The rows of a Workspace so far: none is of a later generation than the one stored, and each
generation has one artifact. -/
structure Generations (id : String) (w₀ : World) (es : List (Event ι Op Op.Answer Failure World)) (w : World) :
    Prop where
  bounded : ∀ p ∈ versions id w₀ es, ∃ row, w.store.get id = some row ∧
    p.execution.desiredGeneration ≤ row.execution.desiredGeneration
  one : OneArtifact (versions id w₀ es)

omit [DecidableEq ι] in
theorem generations_start (id : String) : Generations id w ([] : List (Event ι Op Op.Answer Failure World)) w where
  bounded p hp := ⟨p, by simpa [versions] using hp, Nat.le_refl _⟩
  one p hp q hq _ := by
    have hp : w.store.get id = some p := by simpa [versions] using hp
    have hq : w.store.get id = some q := by simpa [versions] using hq
    rw [Option.some.inj (hp.symm.trans hq)]

/-- An event that leaves the row leaves the rows. -/
theorem Generations.same {id : String} {t : ι} {x : Exchange Op Op.Answer Failure} (h : History m w₀ es w)
    (hg : Generations id w₀ es w) (hrow : w'.store.get id = w.store.get id) :
    Generations id w₀ (⟨x, t, w, w'⟩ :: es) w' := by
  have hsub : ∀ p ∈ versions id w₀ ((⟨x, t, w, w'⟩ : Event ι Op Op.Answer Failure World) :: es),
      p ∈ versions id w₀ es := by
    intro p hp
    rcases List.mem_append.1 hp with hp | hp
    · rw [hrow, Option.mem_toList] at hp
      exact mem_versions h hp
    · exact hp
  constructor
  · intro p hp
    rw [hrow]
    exact hg.bounded p (hsub p hp)
  · intro p hp q hq
    exact hg.one p (hsub p hp) q (hsub q hq)

/-- A new row goes with the others if its generation is new, or it wants what the last row wanted. -/
theorem Generations.add {id : String} {t : ι} {x : Exchange Op Op.Answer Failure}
    {stored q : WorkspaceExecutionProjection} (h : History m w₀ es w) (hg : Generations id w₀ es w)
    (hstored : w.store.get id = some stored) (hq : w'.store.get id = some q)
    (hle : stored.execution.desiredGeneration ≤ q.execution.desiredGeneration)
    (hsame : q.execution.desiredGeneration = stored.execution.desiredGeneration →
      desiredArtifact q = desiredArtifact stored) :
    Generations id w₀ (⟨x, t, w, w'⟩ :: es) w' := by
  have hbound : ∀ p ∈ versions id w₀ es, p.execution.desiredGeneration ≤ stored.execution.desiredGeneration := by
    intro p hp
    obtain ⟨row, hrow, hle⟩ := hg.bounded p hp
    rwa [Option.some.inj (hrow.symm.trans hstored)] at hle
  have hold : ∀ p ∈ versions id w₀ es, p.execution.desiredGeneration = q.execution.desiredGeneration →
      desiredArtifact p = desiredArtifact q := by
    intro p hp heq
    have hgen : q.execution.desiredGeneration = stored.execution.desiredGeneration :=
      Nat.le_antisymm (heq ▸ hbound p hp) hle
    rw [hsame hgen]
    exact hg.one p hp stored (mem_versions h hstored) (heq.trans hgen)
  constructor
  · intro p hp
    refine ⟨q, hq, ?_⟩
    rcases List.mem_append.1 hp with hp | hp
    · rw [hq, Option.mem_toList] at hp
      rw [Option.some.inj hp]
    · exact (hbound p hp).trans hle
  · intro p hp p' hp' heq
    simp only [versions, hq, Option.toList_some, List.singleton_append, List.mem_cons] at hp hp'
    rcases hp with rfl | hp <;> rcases hp' with rfl | hp'
    · rfl
    · exact (hold p' hp' heq.symm).symm
    · exact hold p hp heq
    · exact hg.one p hp p' hp' heq

/-- What a save of a reconcile did, in terms of the row it replaced. -/
theorem reconcile_saved {t : ι} {o : Op} {x : Choice} {r : Except Failure o.Answer} (h : History m w₀ es w)
    (hK : Every (fun _ e => Op.reconciling e.op) es) (hp : w.perform o x = some (r, w'))
    (hG : Issued m (traceOf t es) o) (ho : o.reconciling) (id : String) :
    w'.store.get id = w.store.get id ∨
      ∃ caller next rev q stored later earlier e,
        (⟨o, r⟩ : Exchange Op Op.Answer Failure) =
          ⟨.compareAndSaveWorkspaceExecution caller next rev, .ok (some q)⟩ ∧ caller.ofReconcile = true ∧
        id = stored.workspace.id ∧ SaveExplained m es t w w' caller next q stored stored later earlier e := by
  rcases row_step h hp hG id with
    hrow | ⟨caller, next, rev, q, current, stored, later, earlier, e, hex, hid, hsave⟩ | ⟨_, _, hrec⟩
  · exact .inl hrow
  · obtain ⟨rfl, hr⟩ := Exchange.mk.inj hex
    obtain rfl := eq_of_heq hr
    obtain rfl := hsave.stored_eq_of_reconciling h hK
    exact .inr ⟨caller, next, rev, q, stored, later, earlier, e, rfl, ho, hid, hsave⟩
  · obtain ⟨c, rfl⟩ := hrec.call
    exact ho.elim

theorem generations_of_history (h : History m w₀ es w) (hK : Every (fun _ e => Op.reconciling e.op) es)
    (hcond : Every (fun _ e => keepsArtifact e = true) es) (id : String) : Generations id w₀ es w := by
  induction h with
  | start => exact generations_start id
  | @record es w w' t o x r h hp hG ih =>
    have hg := ih hK.2 hcond.2
    rcases reconcile_saved h hK.2 hp hG hK.1 id with
      hrow | ⟨caller, next, rev, q, stored, later, earlier, e, hex, hcaller, rfl, hsave⟩
    · exact hg.same h hrow
    · obtain ⟨rfl, hr⟩ := Exchange.mk.inj hex
      obtain rfl := eq_of_heq hr
      refine hg.add h hsave.found hsave.after ?_ fun hgen => ?_
      · rw [hsave.saves.result]
        exact hsave.saves.transition.desired
      · refine desiredArtifact_save hsave rfl hcaller (fun input transactionId hc => ?_) hgen
        subst hc
        have hkeeps : keepsArtifact (⟨⟨_, _⟩, t, w, w'⟩ : Event ι Op Op.Answer Failure World) = true := hcond.1
        simpa [keepsArtifact, hsave.saves.found] using hkeeps

/-- Only a commit raises the deployed generation: to the generation of the row and of the intent. -/
theorem deployed_save {t : ι} {caller : Caller} {next q stored : WorkspaceExecutionProjection}
    {later earlier : List (Event ι Op Op.Answer Failure World)} {e : Event ι Op Op.Answer Failure World}
    (h : History m w₀ es w) (hs : SaveExplained m es t w w' caller next q stored stored later earlier e)
    (hcaller : caller.ofReconcile = true)
    (hlt : stored.execution.deployedGeneration < q.execution.deployedGeneration) :
    q.execution.desiredGeneration = q.execution.deployedGeneration ∧
      ∃ p ∈ versions stored.workspace.id w₀ es, p.execution.desiredGeneration = q.execution.deployedGeneration ∧
        desiredArtifact p = recordedArtifact q := by
  rw [hs.saves.result] at hlt ⊢
  have hw := hs.writes
  cases caller with
  | persistIntent => obtain ⟨_, _, _, _, _, timestamp, rfl⟩ := hw; exact absurd hlt (Nat.lt_irrefl _)
  | recordProviderFailure => obtain ⟨_, _, _, rfl⟩ := hw; exact absurd hlt (Nat.lt_irrefl _)
  | commitResult input result =>
    obtain ⟨_, _, hgen, _, _, updatedAt, status, _, rfl⟩ := hw
    obtain ⟨hid, transactionId, intent, binding, rest, hint, heff⟩ := hs.context
    obtain ⟨hearlier, _, _⟩ := (hs.read.split ▸ h : History m w₀ (later ++ e :: earlier) w).suffix
    obtain ⟨hecho, _⟩ := reconcile_echo hearlier heff
    by_cases hrb : result.status = .rolledBack
    · simp [MemoryPersistence.saved, committedOf, observedOf, hrb] at hlt
    · have hdeployed : (MemoryPersistence.saved stored
          (committedOf input result updatedAt status stored)).execution.deployedGeneration = result.generation := by
        simp [MemoryPersistence.saved, committedOf, hrb]
      have hdesired : (MemoryPersistence.saved stored
          (committedOf input result updatedAt status stored)).execution.desiredGeneration = result.generation := by
        simp [MemoryPersistence.saved, committedOf, observedOf, hrb, hgen]
      have hrow := (savedIntent_stored hearlier hint).1
      refine ⟨hdesired.trans hdeployed.symm, intent, ?_, by rw [hdeployed, hecho], ?_⟩
      · have hint' := hint
        rw [← hs.read.keeps.1] at hint'
        rw [hid]
        exact saved_intent_mem_versions h hint'
      · rw [recordedArtifact_saved, recordedArtifact_committed, if_neg hrb, desiredArtifact, hrow.appRevisionId,
          hrow.launchArtifactId, hrow.launchArtifactReference, requestedArtifact]
  | getProjection => exact hw.elim
  | _ => cases hcaller

theorem deploysRequested_of_history (h : History m w₀ es w) (hK : Every (fun _ e => Op.reconciling e.op) es)
    (hcond : Every (fun _ e => keepsArtifact e = true) es) (id : String) : Every (deploysRequested id w₀) es := by
  induction h with
  | start => trivial
  | @record es w w' t o x r h hp hG ih =>
    refine ⟨fun stored q hstored hq hlt => ?_, ih hK.2 hcond.2⟩
    rcases reconcile_saved h hK.2 hp hG hK.1 id with
      hrow | ⟨caller, next, rev, q', stored', later, earlier, e, hex, hcaller, rfl, hsave⟩
    · obtain rfl : stored = q := Option.some.inj (hstored.symm.trans (hrow.symm.trans hq))
      exact absurd hlt (Nat.lt_irrefl _)
    · obtain rfl : stored' = stored := Option.some.inj (hsave.found.symm.trans hstored)
      obtain rfl : q' = q := Option.some.inj (hsave.after.symm.trans hq)
      obtain ⟨hgen, intent, hmem, hintent, hart⟩ := deployed_save h hsave hcaller hlt
      refine ⟨hgen, fun p hp' hpgen => ?_⟩
      rw [← hart]
      exact (generations_of_history (.record h hp hG) hK hcond _).one p hp' intent (List.mem_append_right _ hmem)
        (hpgen.trans hintent.symm)

/-- In every run of reconciles in which each intent that keeps the generation asks for what the row
already wants, each generation has one artifact, and only that one is ever recorded as deployed. -/
theorem generations_immutable {calls : ι → Call} (hcalls : ∀ t, (calls t).reconciling = true)
    {sched : List (ι × Choice)} {c : Config ι Op Op.Answer Failure World Call Returned}
    (hrun : exec (workspaceSystem m) (start (workspaceSystem m) w₀ calls) sched = some c)
    (hcond : Every (fun _ e => keepsArtifact e = true) c.events) (id : String) :
    OneArtifact (versions id w₀ c.events) ∧ Every (deploysRequested id w₀) c.events := by
  have h := history_of_run (fun t => Call.fresh_of_live (Call.live_of_reconciling (hcalls t))) hrun
  have hK := reconciling_of_run hcalls hrun
  exact ⟨(generations_of_history h hK hcond id).one, deploysRequested_of_history h hK hcond id⟩

open Sample in
/-- A rebuild to a stopped `v2` and its first start. -/
theorem generations_immutable_first_start : ∃ c,
    exec (workspaceSystem manager) (start (workspaceSystem manager) (world [container .running])
      fun t : Bool => if t then .reconcile (input "v2" "image:2" .stopped true none none) else .start "ws" none)
      (thread true (toProviderAs "rebuild" ++ committing .awaitingFirstStart (execution "v2" "image:2" .stopped)) ++
        thread false ([.go, .profiles (profile "image:2")] ++ toProviderAs "start" ++
          committing .applied (execution "v2" "image:2" .running))) = some c ∧
    OneArtifact (versions "ws" (world [container .running]) c.events) ∧
      Every (deploysRequested "ws" (world [container .running])) c.events := by
  obtain ⟨c, hrun, hcond⟩ : ∃ c,
      exec (workspaceSystem manager) (start (workspaceSystem manager) (world [container .running])
        fun t : Bool => if t then .reconcile (input "v2" "image:2" .stopped true none none) else .start "ws" none)
        (thread true (toProviderAs "rebuild" ++ committing .awaitingFirstStart (execution "v2" "image:2" .stopped)) ++
          thread false ([.go, .profiles (profile "image:2")] ++ toProviderAs "start" ++
            committing .applied (execution "v2" "image:2" .running))) = some c ∧
        Every (fun _ e => keepsArtifact e = true) c.events := exists_of_any (by decide +kernel)
  exact ⟨c, hrun, generations_immutable (fun t => by cases t <;> rfl) hrun hcond "ws"⟩

open Sample in
/-- A rebuild to `v2` takes generation 2 and fails. The next start asks for the deployed `v1`,
replaces nothing, and so takes generation 2 as well. -/
theorem start_reuses_failed_generation : ∃ c,
    exec (workspaceSystem manager) (start (workspaceSystem manager) (world [container .running])
      fun t : Bool => if t then .reconcile (input "v2" "image:2" .running true none none) else .start "ws" none)
      (thread true (toProviderAs "rebuild" ++ failing transient) ++
        thread false ([.go, .profiles (profile "image:1")] ++ toProviderAs "start")) = some c ∧
    ¬ OneArtifact (versions "ws" (world [container .running]) c.events) :=
  exists_of_any (by decide +kernel)

end OpenApp
