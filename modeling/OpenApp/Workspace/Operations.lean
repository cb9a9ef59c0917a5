import OpenApp.Workspace.Discipline

/-!
# The operations keep to the rules

One lemma for each operation: after any exchanges that let it start, all its calls are issued by
the rules. From these, every run of any calls on any threads is a history (`history_of_run`).
-/

namespace OpenApp

open Async Async.Prog Script

variable {m : Manager}

/-! ## The operations keep to the rules -/

section Operations

variable {tr : Exchanges}

theorem wp_assertActive {p : WorkspaceExecutionProjection} {Q : Except Failure Unit → Exchanges → Prop}
    (hok : p.workspace.status = .active → Q (.ok ()) tr) (herr : ∀ e, Q (.error e) tr) :
    wp (Issued m) (assertActive p) Q tr := by
  rw [assertActive, wp_throwIf]
  exact ⟨fun _ => herr _, fun h => hok (not_not.1 h)⟩

/-- An intent is the row the store saved for it, or one that is already complete. -/
theorem persistIntent_wp (input : WorkspaceExecutionReconcileInput) (transactionId : String)
    {Q : Except Failure WorkspaceExecutionProjection → Exchanges → Prop}
    (hok : ∀ p tr', completedTransaction p input transactionId = false →
      savedIntent tr' = some (input, transactionId, p) → Q (.ok p) tr')
    (hdone : ∀ p tr', completedTransaction p input transactionId = true → Q (.ok p) tr')
    (herr : ∀ e tr', Q (.error e) tr') : wp (Issued m) (persistIntent input transactionId) Q tr := by
  unfold persistIntent
  refine wp_retry (fun _ => True) (fun tr _ => ?_) (fun tr _ => ?_) _ trivial
  on_goal 2 => exact herr _ tr
  rw [wp_bind]
  refine wp_getProjection rfl (fun current => ?_) (fun e r => herr _ _)
  rw [then_ok, wp_bind]
  refine wp_assertActive (fun hactive => ?_) (fun e => herr _ _)
  rw [then_ok, assertReconcileIdentity]
  simp only [wp_bind, wp_throwIf, then_ok, then_error, retried_error, hactive, ne_eq, not_true, false_implies,
    not_false_eq_true, true_implies, true_and, not_or, Decidable.not_not]
  refine ⟨fun _ => herr _ _, fun hidentity => ?_⟩
  obtain ⟨howner, happ, hprov⟩ := hidentity
  split
  · next hc => exact hdone _ _ hc
  · next hc =>
    simp only [Bool.not_eq_true] at hc
    rw [wp_bind, wp_await]
    refine ⟨trivial, fun r => ?_⟩
    cases r with
    | error e => exact herr _ _
    | ok timestamp =>
      refine wp_compareAndSave (.inr ⟨_, rfl⟩) rfl rfl ⟨hactive, howner, happ, hprov, hc, timestamp, rfl⟩ ?_
      rintro (e | _ | p)
      · exact herr _ _
      · trivial
      · by_cases hp : completedTransaction p input transactionId = true
        · exact hdone _ _ hp
        · exact hok _ _ (by simpa using hp) rfl

theorem commitResult_wp (input : WorkspaceExecutionReconcileInput) (result : ExecutionReconcileResult)
    {Q : Except Failure WorkspaceExecutionProjection → Exchanges → Prop}
    (hctx : Context m input.workspaceId tr (.commitResult input result))
    (hQ : ∀ r tr', savedIntent tr' = savedIntent tr → effects tr' = effects tr → Q r tr') :
    wp (Issued m) (commitResult input result) Q tr := by
  unfold commitResult
  refine wp_retry (fun tr' => Context m input.workspaceId tr' (.commitResult input result) ∧
      savedIntent tr' = savedIntent tr ∧ effects tr' = effects tr) (fun tr' ⟨hctx', hint, heff⟩ => ?_)
    (fun tr' ⟨_, hint, heff⟩ => ?_) _ ⟨hctx, rfl, rfl⟩
  on_goal 2 => exact hQ _ tr' hint heff
  rw [wp_bind]
  refine wp_getProjection hctx' (fun current => ?_) (fun e r => hQ _ _ hint heff)
  rw [then_ok, wp_bind]
  refine wp_assertActive (fun hactive => ?_) (fun e => hQ _ _ hint heff)
  rw [then_ok]
  split
  · split
    · exact hQ _ _ hint heff
    · exact hQ _ _ hint heff
  · next hsame =>
    simp only [not_or, Decidable.not_not, ne_eq] at hsame
    simp only [assertProviderExecution, wp_bind, wp_throwIf, then_ok, then_error, retried_error, Bool.not_eq_false]
    refine ⟨fun _ => hQ _ _ hint heff, fun hexec => ?_⟩
    rw [wp_await]
    refine ⟨trivial, fun r => ?_⟩
    cases r with
    | error e => exact hQ _ _ hint heff
    | ok updatedAt =>
      simp only [then_ok, wp_bind, wp_fromExcept]
      cases hstatus : compatibleObservedState result.execution.observedState with
      | error e => exact hQ _ _ hint heff
      | ok status =>
        have save (hcat : result.status ≠ .rolledBack → catalogResultMatches input result.execution = true) :
            wp (Issued m) (compareAndSave (.commitResult input result)
              (committedOf input result updatedAt status current) current.execution.revision)
              (Retried (fun tr' => Context m input.workspaceId tr' (.commitResult input result) ∧
                savedIntent tr' = savedIntent tr ∧ effects tr' = effects tr) Q)
              (⟨.now, .ok updatedAt⟩ :: ⟨.getWorkspaceExecutionProjection (.commitResult input result)
                input.workspaceId, .ok (some current)⟩ :: tr') := by
          refine wp_compareAndSave (.inr ⟨_, rfl⟩) hctx' rfl
            ⟨hactive, hsame.1, hsame.2, hexec, hcat, updatedAt, status, hstatus, rfl⟩ ?_
          rintro (e | _ | p)
          · exact hQ _ _ hint heff
          · exact ⟨((hctx'.cons rfl rfl rfl).cons rfl rfl rfl).cons rfl rfl rfl, hint, heff⟩
          · exact hQ _ _ hint heff
        rw [then_ok]
        by_cases hrb : result.status = .rolledBack
        · simpa only [hrb, ne_eq, not_true, if_false, wp_bind, wp_pure, then_ok] using save (fun h => absurd hrb h)
        · simp only [hrb, ne_eq, not_false_eq_true, if_true, wp_bind, assertCatalogResult, wp_throwIf, then_ok,
            then_error, Bool.not_eq_false]
          exact ⟨fun _ => hQ _ _ hint heff, fun hcat => save fun _ => hcat⟩

theorem recordProviderFailure_wp (workspaceId transactionId : String) (error : Failure)
    {Q : Except Failure Unit → Exchanges → Prop}
    (hctx : Context m workspaceId tr (.recordProviderFailure workspaceId transactionId error))
    (hQ : ∀ r tr', Q r tr') : wp (Issued m) (recordProviderFailure workspaceId transactionId error) Q tr := by
  unfold recordProviderFailure
  refine wp_retry (fun tr' => Context m workspaceId tr' (.recordProviderFailure workspaceId transactionId error))
    (fun tr' hctx' => ?_) (fun tr' _ => ?_) _ hctx
  on_goal 2 => exact hQ _ tr'
  rw [wp_bind]
  refine wp_getProjection hctx' (fun current => ?_) (fun e r => hQ _ _)
  rw [then_ok]
  split
  · exact hQ _ _
  · next hsame =>
    simp only [not_or, Decidable.not_not, ne_eq] at hsame
    rw [wp_bind, wp_await]
    refine ⟨trivial, fun r => ?_⟩
    cases r with
    | error e => exact hQ _ _
    | ok timestamp =>
      rw [then_ok, wp_bind]
      refine wp_compareAndSave (.inr ⟨_, rfl⟩) hctx' rfl ⟨hsame.1, hsame.2, timestamp, rfl⟩ ?_
      rintro (e | _ | p)
      · exact hQ _ _
      · exact ((hctx'.cons rfl rfl rfl).cons rfl rfl rfl).cons rfl rfl rfl
      · exact hQ _ _

theorem persistLegacyContainer_wp (container : Container) {Q : Except Failure Unit → Exchanges → Prop}
    (hQ : ∀ r tr', Q r tr') : wp (Issued m) (persistLegacyContainer container) Q tr := by
  unfold persistLegacyContainer
  refine wp_retry (fun _ => True) (fun tr' _ => ?_) (fun tr' _ => ?_) _ trivial
  on_goal 2 => exact hQ _ tr'
  rw [wp_bind]
  refine wp_getProjection rfl (fun current => ?_) (fun e r => hQ _ _)
  rw [then_ok, wp_bind]
  refine wp_assertActive (fun hactive => ?_) (fun e => hQ _ _)
  rw [then_ok, wp_bind, wp_fromExcept]
  cases hprev : projectWorkspaceExecutionToContainer current with
  | error e => exact hQ _ _
  | ok previous =>
    obtain ⟨hproj, rfl⟩ := projectWorkspaceExecutionToContainer_ok.1 hprev
    simp only [then_ok, wp_bind, wp_throwIf, then_error, retried_error, Bool.not_eq_false]
    refine ⟨fun _ => hQ _ _, fun hid => ?_⟩
    split
    · exact hQ _ _
    · rw [wp_bind]
      refine wp_compareAndSave (.inl rfl) rfl rfl ⟨hactive, hproj, hid, rfl⟩ ?_
      rintro (e | _ | p)
      · exact hQ _ _
      · trivial
      · exact hQ _ _

/-- A storage resolution came back, or the call ends with what it failed with. -/
theorem wp_resolveStorageBinding (p : WorkspaceExecutionProjection) (signal : Option AbortSignal)
    {Q : Except Failure StorageBinding → Exchanges → Prop}
    (hissue : ∀ request : StorageBindingResolutionRequest, request.workspaceId = p.workspace.id →
      Issued m tr (.resolveStorageBinding request))
    (hok : ∀ request binding, Q (.ok binding) (⟨.resolveStorageBinding request, .ok binding⟩ :: tr))
    (herr : ∀ e request r, LastFailed e (⟨.resolveStorageBinding request, r⟩ :: tr) →
      Q (.error e) (⟨.resolveStorageBinding request, r⟩ :: tr)) :
    wp (Issued m) (resolveStorageBinding p signal) Q tr := by
  unfold resolveStorageBinding
  rw [wp_bind, wp_await]
  refine ⟨hissue _ rfl, fun r => ?_⟩
  cases r with
  | error e => exact herr _ _ _ (lastFailed_error rfl rfl)
  | ok binding =>
    simp only [then_ok, then_error, wp_bind, wp_throwIf, wp_pure]
    exact ⟨fun _ => herr _ _ _ (lastFailed_ok rfl rfl), fun _ => hok _ _⟩

theorem executeIntent_wp (input : WorkspaceExecutionReconcileInput) (transactionId : String)
    (intent : WorkspaceExecutionProjection) {Q : Except Failure WorkspaceExecutionProjection → Exchanges → Prop}
    (hint : savedIntent tr = some (input, transactionId, intent)) (hok : ∀ p tr', Q (.ok p) tr')
    (herr : ∀ e tr', savedIntent tr' = some (input, transactionId, intent) → LastFailed e tr' → Q (.error e) tr') :
    wp (Issued m) (executeIntent m input transactionId intent) Q tr := by
  unfold executeIntent
  rw [wp_bind]
  refine wp_resolveStorageBinding intent input.signal
    (fun _ hid => .inr ⟨input, transactionId, intent, hint, hid⟩) (fun resolution binding => ?_)
    fun e request r hlast => ?_
  · rw [then_ok, wp_bind, wp_await]
    refine ⟨⟨input, transactionId, intent, binding, effects tr, hint, rfl, resolution, rfl⟩, fun r => ?_⟩
    cases r with
    | error e => exact herr _ _ hint (lastFailed_error rfl rfl)
    | ok result =>
      rw [then_ok, wp_bind, wp_await]
      refine ⟨trivial, fun r => ?_⟩
      cases r with
      | error e => exact herr _ _ hint (lastFailed_error rfl rfl)
      | ok u =>
        refine commitResult_wp input result ⟨rfl, transactionId, intent, binding, _, hint, rfl⟩ fun r tr' h heff => ?_
        cases r with
        | ok p => exact hok _ _
        | error e =>
          refine herr _ _ (h.trans hint) fun x rest e' hx hf => ?_
          obtain ⟨rfl, _⟩ := List.cons.inj (heff.symm.trans hx)
          cases hf
  · exact herr _ _ hint hlast

theorem reconcileTransaction_wp (input : WorkspaceExecutionReconcileInput) (transactionId : String)
    {Q : Except Failure WorkspaceExecutionProjection → Exchanges → Prop} (hQ : ∀ r tr', Q r tr') :
    wp (Issued m) (reconcileTransaction m input transactionId) Q tr := by
  unfold reconcileTransaction
  rw [wp_bind]
  refine persistIntent_wp input transactionId (fun intent tr₁ hc hint => ?_) (fun intent tr₁ hc => ?_)
    fun e tr₁ => hQ _ _
  · rw [then_ok, hc, if_neg (by decide), wp_tryCatch]
    refine executeIntent_wp input transactionId intent hint (fun p tr₂ => hQ _ _) fun e tr₂ hint₂ hlast => ?_
    rw [caught_error]
    cases hcan : e.isCancelled with
    | true => exact hQ _ _
    | false =>
      rw [if_pos rfl, wp_bind]
      refine recordProviderFailure_wp _ _ _ ⟨rfl, hcan, hlast, input, intent, hint₂, rfl⟩ fun r tr₃ => ?_
      cases r <;> exact hQ _ _
  · rw [then_ok, hc, if_pos rfl]
    exact hQ _ _

theorem wp_reconcileTransactionId (input : WorkspaceExecutionReconcileInput)
    {Q : Except Failure String → Exchanges → Prop} (hQ : ∀ r tr', Q r tr') :
    wp (Issued m) (reconcileTransactionId m input) Q tr := by
  have fresh : wp (Issued m) (await .randomId) Q tr :=
    (wp_await _ _).2 ⟨trivial, fun r => hQ _ _⟩
  unfold reconcileTransactionId
  cases input.transactionKey with
  | none => exact fresh
  | some key =>
    dsimp only
    split
    · exact (wp_fromExcept _ _).2 (hQ _ _)
    · exact fresh

theorem reconcile_wp (input : WorkspaceExecutionReconcileInput)
    {Q : Except Failure WorkspaceExecutionProjection → Exchanges → Prop} (hQ : ∀ r tr', Q r tr') :
    wp (Issued m) (reconcile m input) Q tr := by
  unfold reconcile
  rw [wp_bind, wp_await]
  refine ⟨trivial, fun r => ?_⟩
  cases r with
  | error e => exact hQ _ _
  | ok _ =>
    rw [then_ok, wp_bind, wp_throwIf]
    refine ⟨fun _ => hQ _ _, fun _ => ?_⟩
    rw [then_ok, wp_bind]
    refine wp_getProjection trivial (fun current => ?_) (fun e r => hQ _ _)
    rw [then_ok, wp_bind]
    refine wp_assertActive (fun _ => ?_) (fun e => hQ _ _)
    rw [then_ok, wp_bind, wp_throwIf]
    refine ⟨fun _ => hQ _ _, fun _ => ?_⟩
    rw [then_ok, wp_bind]
    refine wp_reconcileTransactionId input fun r tr' => ?_
    cases r with
    | error e => exact hQ _ _
    | ok transactionId => exact reconcileTransaction_wp input transactionId hQ

/-! ## The bridge keeps to the rules -/

theorem fromProjection_wp (p : WorkspaceExecutionProjection) {Q : Except Failure ContainerInstance → Exchanges → Prop}
    (hQ : ∀ r tr', Q r tr') : wp (Issued m) (fromExcept (projectionInstance p)) Q tr :=
  (wp_fromExcept _ _).2 (hQ _ _)

theorem requireLaunchProfile_wp (request : ProvisionContainerRequest)
    {Q : Except Failure (ContainerLaunchProfile × String) → Exchanges → Prop} (hQ : ∀ r tr', Q r tr') :
    wp (Issued m) (requireLaunchProfile request) Q tr := by
  unfold requireLaunchProfile
  split
  · split <;> exact hQ _ _
  · exact hQ _ _

theorem resolveDefaultAppId_wp {Q : Except Failure String → Exchanges → Prop} (hQ : ∀ r tr', Q r tr') :
    wp (Issued m) resolveDefaultAppId Q tr := by
  unfold resolveDefaultAppId
  rw [wp_bind, wp_await]
  refine ⟨trivial, fun r => ?_⟩
  cases r with
  | error e => exact hQ _ _
  | ok appId =>
    rw [then_ok, wp_bind, wp_throwIf]
    exact ⟨fun _ => hQ _ _, fun _ => hQ _ _⟩

theorem requestAppId_wp (request : ProvisionContainerRequest) {Q : Except Failure String → Exchanges → Prop}
    (hQ : ∀ r tr', Q r tr') : wp (Issued m) (requestAppId request) Q tr := by
  unfold requestAppId
  split
  · exact hQ _ _
  · exact resolveDefaultAppId_wp hQ

theorem bridgeProvision_wp (request : ProvisionContainerRequest)
    {Q : Except Failure ContainerInstance → Exchanges → Prop} (hQ : ∀ r tr', Q r tr') :
    wp (Issued m) (bridgeProvision m request) Q tr := by
  unfold bridgeProvision
  rw [wp_bind]
  refine requireLaunchProfile_wp request fun r tr₁ => ?_
  cases r with
  | error e => exact hQ _ _
  | ok launch =>
    rw [then_ok, wp_bind]
    refine requestAppId_wp request fun r tr₂ => ?_
    cases r with
    | error e => exact hQ _ _
    | ok appId =>
      rw [then_ok, wp_bind]
      refine reconcile_wp _ fun r tr₃ => ?_
      cases r with
      | error e => exact hQ _ _
      | ok p => exact fromProjection_wp p hQ

theorem bridgeRebuild_wp (request : ProvisionContainerRequest)
    {Q : Except Failure ContainerInstance → Exchanges → Prop} (hQ : ∀ r tr', Q r tr') :
    wp (Issued m) (bridgeRebuild m request) Q tr := by
  unfold bridgeRebuild
  rw [wp_bind]
  refine requireLaunchProfile_wp request fun r tr₁ => ?_
  cases r with
  | error e => exact hQ _ _
  | ok launch =>
    rw [then_ok, wp_bind]
    refine wp_getProjection trivial (fun current => ?_) fun e r => hQ _ _
    rw [then_ok, wp_bind]
    refine reconcile_wp _ fun r tr₂ => ?_
    cases r with
    | error e => exact hQ _ _
    | ok p => exact fromProjection_wp p hQ

theorem reconcileCurrent_wp (workspaceId : String) (desiredState : WorkspaceDesiredState) (signal : Option AbortSignal)
    {Q : Except Failure ContainerInstance → Exchanges → Prop} (hQ : ∀ r tr', Q r tr') :
    wp (Issued m) (reconcileCurrent m workspaceId desiredState signal) Q tr := by
  unfold reconcileCurrent
  rw [wp_bind]
  refine wp_getProjection trivial (fun current => ?_) fun e r => hQ _ _
  rw [then_ok, wp_bind, wp_throwIf]
  refine ⟨fun _ => hQ _ _, fun _ => ?_⟩
  rw [then_ok, wp_bind, wp_await]
  refine ⟨trivial, fun r => ?_⟩
  cases r with
  | error e => exact hQ _ _
  | ok launchProfile =>
    rw [then_ok, wp_bind]
    refine reconcile_wp _ fun r tr₂ => ?_
    cases r with
    | error e => exact hQ _ _
    | ok p => exact fromProjection_wp p hQ

/-! ## Deletion keeps to the rules -/

theorem beginDeletion_wp (input : WorkspaceDeletionInput)
    {Q : Except Failure WorkspaceExecutionProjection → Exchanges → Prop}
    (hok : ∀ p tr', StartsFrom p tr' → (Sound tr' → Goes input.workspaceId p) → Q (.ok p) tr')
    (herr : ∀ e tr', Q (.error e) tr') : wp (Issued m) (beginDeletion m input) Q tr := by
  unfold beginDeletion
  rw [wp_bind, wp_fromExcept]
  cases htx : executionTransactionId m input.workspaceId (input.transactionKey.getD "workspace-delete") with
  | error e => exact herr _ _
  | ok transactionId =>
    rw [then_ok]
    refine wp_retry (fun _ => True) (fun tr _ => ?_) (fun tr _ => ?_) _ trivial
    on_goal 2 => exact herr _ tr
    rw [wp_bind]
    refine wp_getProjection rfl (fun current => ?_) (fun e r => herr _ _)
    rw [then_ok]
    split
    · next hgone =>
      refine hok _ _ (.inl shows_get) fun hsound => ⟨(hsound _ List.mem_cons_self).1, ?_⟩
      rcases hgone with h | h <;> simp [h]
    · next hlive =>
      rw [wp_bind, wp_await]
      refine ⟨trivial, fun r => ?_⟩
      cases r with
      | error e => exact herr _ _
      | ok timestamp =>
        have hactive : current.workspace.status = .active := by
          cases hs : current.workspace.status <;> simp_all
        refine wp_compareAndSave (.inr ⟨_, rfl⟩) rfl rfl ⟨hactive, transactionId, timestamp, htx, rfl⟩ ?_
        rintro (e | _ | p)
        · exact herr _ _
        · trivial
        · refine hok _ _ (.inl shows_cas) fun hsound => ?_
          have hp : p.workspace = (deletingOf transactionId timestamp current).workspace :=
            hsound _ List.mem_cons_self
          have hid : current.workspace.id = input.workspaceId := (hsound _ (.tail _ (.tail _ (.head _)))).1
          exact ⟨by rw [hp]; exact hid, by rw [hp]; exact fun h => by cases h⟩

/-- What stays true of a deleter while it reads and saves: it saw the row it works from. -/
theorem advanceDeletion_wp {current : WorkspaceExecutionProjection} {e n : WorkspaceDeletionPhase}
    {Q : Except Failure WorkspaceExecutionProjection → Exchanges → Prop} (hobs : WorksFrom current tr)
    (hphase : InPhase current e) (htx : current.workspace.deletionTransactionId.isSome = true)
    (hdone : PhaseDone m current tr e n)
    (hok : ∀ p tr', StartsFrom p tr' → (Sound tr' → Goes current.workspace.id p) → Q (.ok p) tr') (herr : ∀ e tr', WorksFrom current tr' → Q (.error e) tr') :
    wp (Issued m) (advanceDeletion current e n) Q tr := by
  unfold advanceDeletion
  refine wp_retry (fun tr' => Context m current.workspace.id tr' (.advanceDeletion current e n))
    (fun tr' hctx => ?_) (fun tr' hctx => ?_) _ ⟨rfl, hobs, hphase, hdone⟩
  on_goal 2 => exact herr _ tr' hctx.2.1
  rw [wp_bind]
  refine wp_getProjection hctx (fun latest => ?_) (fun e r => herr _ _ (hctx.2.1.cons rfl))
  rw [then_ok]
  split
  · next hdeleted =>
    exact hok _ _ (.inl shows_get) fun hsound => ⟨(hsound _ List.mem_cons_self).1, by simp [hdeleted]⟩
  · next hlive =>
    simp only [wp_bind, wp_throwIf, then_ok, then_error, retried_error, ne_eq, Decidable.not_not]
    refine ⟨fun _ => herr _ _ (hctx.2.1.cons rfl), fun hsame => ?_⟩
    -- an active row has no deletion transaction
    have inactive (hp : Projectable latest) : latest.workspace.status ≠ .active := by
      intro hactive
      have hd := hp.deletion
      simp only [validDeletionState, hactive, hsame, Bool.and_eq_true, Option.isNone_iff_eq_none] at hd
      simp [hd.1.1.1] at htx
    split
    · refine hok _ _ (.inl shows_get) fun hsound => ?_
      obtain ⟨hid, hp⟩ := hsound _ List.mem_cons_self
      exact ⟨hid, inactive hp⟩
    · next hph =>
      rw [wp_bind, wp_await]
      refine ⟨trivial, fun r => ?_⟩
      cases r with
      | error e => exact herr _ _ ((hctx.2.1.cons rfl).cons rfl)
      | ok timestamp =>
        refine wp_compareAndSave (.inr ⟨_, rfl⟩) hctx rfl
          ⟨hlive, hsame, Decidable.not_not.1 hph, timestamp, rfl⟩ ?_
        rintro (e | _ | p)
        · exact herr _ _ (((hctx.2.1.cons rfl).cons rfl).cons rfl)
        · exact ((hctx.cons rfl rfl rfl).cons rfl rfl rfl).cons rfl rfl rfl
        · refine hok _ _ (.inl shows_cas) fun hsound => ?_
          have hp : p.workspace = (advancedOf n timestamp latest).workspace := hsound _ List.mem_cons_self
          obtain ⟨hid, hlatest⟩ := hsound _ (.tail _ (.tail _ (.head _)))
          exact ⟨by rw [hp]; exact hid, by rw [hp]; exact inactive hlatest⟩

theorem finalizeDeletion_wp {current : WorkspaceExecutionProjection}
    {Q : Except Failure WorkspaceExecutionProjection → Exchanges → Prop} (hobs : WorksFrom current tr)
    (hphase : InPhase current .finalizing)
    (hok : ∀ p tr', StartsFrom p tr' → (Sound tr' → Goes current.workspace.id p) → Q (.ok p) tr') (herr : ∀ e tr', WorksFrom current tr' → Q (.error e) tr') :
    wp (Issued m) (finalizeDeletion current) Q tr := by
  unfold finalizeDeletion
  refine wp_retry (fun tr' => Context m current.workspace.id tr' (.finalizeDeletion current))
    (fun tr' hctx => ?_) (fun tr' hctx => ?_) _ ⟨rfl, hobs, hphase⟩
  on_goal 2 => exact herr _ tr' hctx.2.1
  rw [wp_bind]
  refine wp_getProjection hctx (fun latest => ?_) (fun e r => herr _ _ (hctx.2.1.cons rfl))
  rw [then_ok]
  split
  · next hdeleted =>
    exact hok _ _ (.inl shows_get) fun hsound => ⟨(hsound _ List.mem_cons_self).1, by simp [hdeleted]⟩
  · next hlive =>
    simp only [wp_bind, wp_throwIf, then_ok, then_error, retried_error, ne_eq, not_or, Decidable.not_not]
    refine ⟨fun _ => herr _ _ (hctx.2.1.cons rfl), fun hlatest => ?_⟩
    obtain ⟨htx, hph⟩ := hlatest
    rw [wp_await]
    refine ⟨trivial, fun r => ?_⟩
    cases r with
    | error e => exact herr _ _ ((hctx.2.1.cons rfl).cons rfl)
    | ok timestamp =>
      refine wp_compareAndSave (.inr ⟨_, rfl⟩) hctx rfl ⟨hlive, htx, hph, timestamp, rfl⟩ ?_
      rintro (e | _ | p)
      · exact herr _ _ (((hctx.2.1.cons rfl).cons rfl).cons rfl)
      · exact ((hctx.cons rfl rfl rfl).cons rfl rfl rfl).cons rfl rfl rfl
      · refine hok _ _ (.inl shows_cas) fun hsound => ?_
        have hp : p.workspace = (tombstoneOf timestamp latest).workspace := hsound _ List.mem_cons_self
        have hid : latest.workspace.id = current.workspace.id := (hsound _ (.tail _ (.tail _ (.head _)))).1
        exact ⟨by rw [hp]; exact hid, by rw [hp]; exact fun h => by cases h⟩

theorem recordDeletionFailure_wp {current : WorkspaceExecutionProjection} {error : Failure}
    {Q : Except Failure Unit → Exchanges → Prop} (hobs : WorksFrom current tr)
    (hstatus : current.workspace.status = .deleting) (hQ : ∀ r tr', Q r tr') :
    wp (Issued m) (recordDeletionFailure current error) Q tr := by
  unfold recordDeletionFailure
  refine wp_retry (fun tr' => Context m current.workspace.id tr' (.recordDeletionFailure current error))
    (fun tr' hctx => ?_) (fun tr' _ => ?_) _ ⟨rfl, hobs, hstatus⟩
  on_goal 2 => exact hQ _ tr'
  rw [wp_bind, wp_await]
  refine ⟨hctx, fun r => ?_⟩
  rcases r with e | (_ | latest)
  · exact hQ _ _
  · exact hQ _ _
  · rw [then_ok]
    dsimp only
    split
    · exact hQ _ _
    · next hsame =>
      simp only [not_or, Decidable.not_not, ne_eq] at hsame
      rw [wp_bind, wp_await]
      refine ⟨trivial, fun r => ?_⟩
      cases r with
      | error e => exact hQ _ _
      | ok timestamp =>
        rw [then_ok, wp_bind]
        refine wp_compareAndSave (.inr ⟨_, rfl⟩) hctx rfl ⟨hsame.1, hsame.2, timestamp, rfl⟩ ?_
        rintro (e | _ | p)
        · exact hQ _ _
        · exact ((hctx.cons rfl rfl rfl).cons rfl rfl rfl).cons rfl rfl rfl
        · exact hQ _ _

/-- The count comes back zero, or the call ends. -/
theorem wp_assertNoExternalStorageReferences (p : WorkspaceExecutionProjection)
    {Q : Except Failure Unit → Exchanges → Prop}
    (hok : Q (.ok ()) (⟨.countLiveWorkspaceStorageReferences p.workspace.storageRefId p.workspace.id, .ok 0⟩ :: tr))
    (herr : ∀ e r, Q (.error e)
      (⟨.countLiveWorkspaceStorageReferences p.workspace.storageRefId p.workspace.id, r⟩ :: tr)) :
    wp (Issued m) (assertNoExternalStorageReferences p) Q tr := by
  unfold assertNoExternalStorageReferences
  rw [wp_bind, wp_await]
  refine ⟨trivial, fun r => ?_⟩
  cases r with
  | error e => exact herr _ _
  | ok references =>
    rw [then_ok, wp_throwIf]
    refine ⟨fun _ => herr _ _, fun h => ?_⟩
    obtain rfl : references = 0 := Decidable.not_not.1 h
    exact hok

theorem deletionPhase_wp (input : WorkspaceDeletionInput) {current : WorkspaceExecutionProjection}
    (transactionId : String) {phase : WorkspaceDeletionPhase}
    {Q : Except Failure WorkspaceExecutionProjection → Exchanges → Prop} (hstart : StartsFrom current tr)
    (hphase : InPhase current phase) (htx : current.workspace.deletionTransactionId.isSome = true)
    (hnot : phase ≠ .deleted)
    (hok : ∀ p tr', StartsFrom p tr' → (Sound tr' → Goes current.workspace.id p) → Q (.ok p) tr') (herr : ∀ e tr', WorksFrom current tr' → Q (.error e) tr') :
    wp (Issued m) (deletionPhase m input current transactionId phase) Q tr := by
  have hobs := hstart.works
  cases phase with
  | draining =>
    rw [deletionPhase, wp_bind, wp_await]
    refine ⟨trivial, fun r => ?_⟩
    cases r with
    | error e => exact herr _ _ (hobs.cons rfl)
    | ok drained =>
      rw [then_ok, wp_bind, wp_throwIf]
      refine ⟨fun _ => herr _ _ (hobs.cons rfl), fun hd => ?_⟩
      obtain rfl : drained = true := by simpa using hd
      exact advanceDeletion_wp (hobs.cons rfl) hphase htx ⟨_, _, _, _, effects_cons rfl⟩ hok herr
  | removingEnvironments =>
    rw [deletionPhase, wp_bind]
    refine wp_resolveStorageBinding current input.signal (fun _ hid => .inl ⟨current, hstart, hid, .inl hphase⟩)
      (fun resolution binding => ?_) fun e _ _ _ => herr _ _ (hobs.cons rfl)
    rw [then_ok, wp_bind]
    refine wp_assertNoExternalStorageReferences current ?_ fun e r => herr _ _ ((hobs.cons rfl).cons rfl)
    rw [then_ok, wp_bind, wp_await]
    refine ⟨⟨current, binding, input.signal, ⟨hstart.cons rfl, rfl⟩, hphase, rfl⟩, fun r => ?_⟩
    cases r with
    | error e => exact herr _ _ (((hobs.cons rfl).cons rfl).cons rfl)
    | ok u =>
      exact advanceDeletion_wp (((hobs.cons rfl).cons rfl).cons rfl) hphase htx ⟨binding, input.signal, _, rfl⟩ hok herr
  | verifyingReferences =>
    rw [deletionPhase, wp_bind]
    refine wp_assertNoExternalStorageReferences current ?_ fun e r => herr _ _ (hobs.cons rfl)
    exact advanceDeletion_wp (hobs.cons rfl) hphase htx ⟨_, effects_cons rfl⟩ hok herr
  | releasingStorage =>
    rw [deletionPhase, wp_bind]
    refine wp_resolveStorageBinding current input.signal (fun _ hid => .inl ⟨current, hstart, hid, .inr hphase⟩)
      (fun resolution binding => ?_) fun e _ _ _ => herr _ _ (hobs.cons rfl)
    rw [then_ok, wp_bind]
    refine wp_assertNoExternalStorageReferences current ?_ fun e r => herr _ _ ((hobs.cons rfl).cons rfl)
    rw [then_ok, wp_bind, wp_await]
    refine ⟨⟨current, ⟨hstart.cons rfl, rfl⟩, hphase, rfl⟩, fun r => ?_⟩
    cases r with
    | error e => exact herr _ _ (((hobs.cons rfl).cons rfl).cons rfl)
    | ok u =>
      refine advanceDeletion_wp (((hobs.cons rfl).cons rfl).cons rfl) hphase htx ⟨_, _, ?_, rfl⟩ hok herr
      rfl
  | finalizing => exact finalizeDeletion_wp hobs hphase hok herr
  | deleted => exact absurd rfl hnot

theorem deletionRound_wp (input : WorkspaceDeletionInput) {current : WorkspaceExecutionProjection}
    {Q : Except Failure (WorkspaceExecutionProjection ⊕ WorkspaceExecutionProjection) → Exchanges → Prop}
    (hstart : StartsFrom current tr) 
    (hnext : ∀ p tr', StartsFrom p tr' → (Sound tr' → Goes current.workspace.id p) → Q (.ok (.inl p)) tr')
    (hend : ∀ tr', current.workspace.status ≠ .deleting → Q (.ok (.inr current)) tr') (herr : ∀ e tr', Q (.error e) tr') :
    wp (Issued m) (deletionRound m input current) Q tr := by
  unfold deletionRound
  split
  · next hstatus =>
    split
    · next transactionId phase htx hph =>
      split
      · next hok =>
        rw [wp_tryCatch, wp_map]
        refine deletionPhase_wp input transactionId hstart ⟨hstatus, hph⟩ (by simp [htx]) hok.2 hnext
          fun e tr' hobs' => ?_
        rw [then_error, caught_error, wp_bind, wp_await]
        refine ⟨⟨current, hobs', hstatus⟩, fun r => ?_⟩
        rcases r with e' | (_ | reason)
        · exact herr _ _
        · rw [then_ok, wp_bind]
          refine recordDeletionFailure_wp (hobs'.cons rfl) hstatus fun r tr'' => ?_
          cases r <;> exact herr _ _
        · exact herr _ _
      · exact herr _ _
    · exact herr _ _
  · next hstatus =>
    split
    · next transactionId _ =>
      by_cases ht : truthy transactionId = true
      · simp only [ht, if_true, wp_bind, wp_await]
        refine ⟨trivial, fun r => ?_⟩
        cases r with
        | error e => exact herr _ _
        | ok _ => exact hend _ hstatus
      · simp only [ht]
        exact hend _ hstatus
    · exact hend _ hstatus

end Operations

/-! ## Every run keeps to the rules -/

/-- Where each round of a call may start from. -/
def Ready (tr : Exchanges) : Call → Prop
  | .deletionRound _ current => StartsFrom current tr
  | _ => True

theorem body_wp (c : Call) (tr : Exchanges) (h : Ready tr c) :
    wp (Issued m) (c.body m) (Continues fun c tr => Ready tr c) tr := by
  cases c with
  | reconcile input =>
    rw [Call.body, wp_bind]
    refine reconcile_wp input fun r tr' => ?_
    cases r <;> trivial
  | provision request =>
    rw [Call.body, wp_bind]
    refine bridgeProvision_wp request fun r tr' => ?_
    cases r <;> trivial
  | rebuild request =>
    rw [Call.body, wp_bind]
    refine bridgeRebuild_wp request fun r tr' => ?_
    cases r <;> trivial
  | start workspaceId signal =>
    rw [Call.body, wp_bind]
    refine reconcileCurrent_wp workspaceId .running signal fun r tr' => ?_
    cases r <;> trivial
  | stop workspaceId signal =>
    rw [Call.body, wp_bind]
    refine reconcileCurrent_wp workspaceId .stopped signal fun r tr' => ?_
    cases r <;> trivial
  | persistLegacyContainer container =>
    rw [Call.body, wp_bind]
    refine persistLegacyContainer_wp container fun r tr' => ?_
    cases r <;> trivial
  | saveContainer container =>
    rw [Call.body, wp_bind, wp_await]
    refine ⟨trivial, fun r => ?_⟩
    cases r <;> trivial
  | deleteWorkspace input =>
    rw [Call.body, wp_bind, startDeletion, wp_bind, wp_await]
    refine ⟨trivial, fun r => ?_⟩
    cases r with
    | error e => trivial
    | ok _ => exact beginDeletion_wp input (fun p tr' hp _ => hp) fun e tr' => trivial
  | deletionRound input current =>
    rw [Call.body, wp_bind]
    exact deletionRound_wp input h (fun p tr' hp _ => hp) (fun tr' _ => trivial) fun e tr' => trivial
  | abort signal reason =>
    rw [Call.body, wp_bind, wp_await]
    refine ⟨trivial, fun r => ?_⟩
    cases r <;> trivial

/-- A history of the system: every event was issued by the rules and did what the world does. -/
abbrev History {ι : Type} [DecidableEq ι] (m : Manager) (w₀ : World) :
    List (Event ι Op Op.Answer Failure World) → World → Prop :=
  Legal (workspaceSystem m) (fun _ => Issued m) w₀

/-- No thread starts in the middle of a deletion. -/
def Call.fresh : Call → Bool
  | .deletionRound _ _ => false
  | _ => true

/-- Every run of any calls, on any threads, in any order, is a history. -/
theorem history_of_run {ι : Type} [DecidableEq ι] {w₀ : World} {calls : ι → Call}
    (hcalls : ∀ t, (calls t).fresh = true) {sched : List (ι × Choice)}
    {c : Config ι Op Op.Answer Failure World Call Returned}
    (h : exec (workspaceSystem m) (start (workspaceSystem m) w₀ calls) sched = some c) :
    History m w₀ c.events c.world := by
  refine legal_of_exec (J := fun _ c tr => Ready tr c) (fun t => ?_) (fun t c tr hc => body_wp c tr hc) h
  have ht := hcalls t
  cases hc : calls t with
  | deletionRound => rw [hc] at ht; cases ht
  | _ => trivial

end OpenApp
