import OpenApp.Rollout.Discipline

/-!
# Every call keeps to the rule

The rounds of the worker and the calls of the service, from any exchanges they start with. So the rule
holds of every event of every run.
-/

namespace OpenApp.Rollout

open Async Async.Prog

section Calls

variable {w : UpgradeRolloutWorker} {tr : Exchanges} {item : UpgradeRolloutItem}

theorem always_quiet {α : Type} {p : RolloutTask α} (hp : Only (fun o => quiet o = true) p) : Always (Issued w) p :=
  fun _ => wp_mono (wp_of_only (Q := fun _ _ => True) hp fun _ _ => trivial) (fun _ _ ho => issued_quiet ho)
    fun _ _ _ => trivial

theorem always_of_onOk {α : Type} {p : RolloutTask α} (h : ∀ tr, wp (Issued w) p (OnOk fun _ _ => True) tr) :
    Always (Issued w) p :=
  fun tr => wp_post (h tr) fun _ _ _ => trivial

/-- A part that does nothing that matters to the rest. -/
theorem wp_always_seq {α β : Type} {p : RolloutTask α} {f : α → RolloutTask β} (hp : Always (Issued w) p)
    (hf : ∀ a tr, wp (Issued w) (f a) (OnOk fun _ _ => True) tr) :
    wp (Issued w) (p >>= f) (OnOk fun _ _ => True) tr :=
  wp_seq (wp_post (hp tr) fun r _ _ => onOk_true r) fun a tr' _ => hf a tr'

/-! ## What an operator does -/

/-- What an operator makes of an item. -/
inductive Operates (item : UpgradeRolloutItem) : UpgradeRolloutItem → Prop
  | requeue {forced : Bool} {now at' : Timestamp} (actionable : item.status.actionable = true) :
      Operates item { requeued forced item now with updatedAt := at' }
  | cancel {now at' : Timestamp} (actionable : item.status.actionable = true) :
      Operates item { cancelled item now with updatedAt := at' }
  | revalidate {now at' : Timestamp} {id : String} (proofMissing : item.proofMissing = true) :
      Operates item { firstStartRevalidation now id item with updatedAt := at' }

/-- The rule for the calls of the service. -/
def Operated (tr : Exchanges) : RolloutOp → Prop
  | .compareAndSaveItem next expectedRevision =>
    ∃ item, Seen item tr ∧ expectedRevision = item.revision ∧ next.key = item.key ∧ Operates item next
  | .createRollout rollout items => ∀ item ∈ items, NewItem rollout.id item
  | .randomId | .compareAndSaveRollout _ _ => True
  | o => quiet o = true

theorem operated_quiet {o : RolloutOp} (h : quiet o = true) : Operated tr o := by
  cases o <;> first | exact h | trivial

theorem Operates.moves {own : Option String} {next : UpgradeRolloutItem} (h : Operates item next) :
    Moves w own tr item next := by
  cases h with
  | requeue actionable => exact .requeue actionable
  | cancel actionable => exact .cancel actionable
  | revalidate proofMissing => exact .revalidate proofMissing

theorem Operated.issued {o : RolloutOp} (h : Operated tr o) : Issued w tr o := by
  cases o with
  | compareAndSaveItem next expectedRevision =>
    obtain ⟨item, hseen, hrev, hkey, hoperates⟩ := h
    exact ⟨item, hseen, hrev, hkey, fun _ => hoperates.moves⟩
  | _ => first | exact h | trivial

theorem issued_of_operated {α : Type} {p : RolloutTask α} (h : Always Operated p) : Always (Issued w) p :=
  fun tr => wp_mono (h tr) (fun _ _ ho => ho.issued) fun _ _ hr => hr

theorem operated_of_onOk {α : Type} {p : RolloutTask α} (h : ∀ tr, wp Operated p (OnOk fun _ _ => True) tr) :
    Always Operated p :=
  fun tr => wp_post (h tr) fun _ _ _ => trivial

theorem wp_operated_seq {α β : Type} {p : RolloutTask α} {f : α → RolloutTask β} (hp : Always Operated p)
    (hf : ∀ a tr, wp Operated (f a) (OnOk fun _ _ => True) tr) :
    wp Operated (p >>= f) (OnOk fun _ _ => True) tr :=
  wp_seq (wp_post (hp tr) fun r _ _ => onOk_true r) fun a tr' _ => hf a tr'

/-! ## The service -/

theorem refreshRolloutSummary_always (id : String) : Always Operated (refreshRolloutSummary id) := by
  refine always_retry (always_bind (always_await fun _ => operated_quiet rfl) fun detail => ?_) (always_throw _) _
  cases detail with
  | none => exact always_pure _
  | some detail =>
    refine always_bind (always_await fun _ => operated_quiet rfl) fun updatedAt => ?_
    dsimp only
    split
    · exact always_pure _
    · refine always_bind (always_await fun _ => trivial) fun saved => ?_
      cases saved with
      | none => exact always_pure _
      | some _ => exact always_bind (always_await fun _ => operated_quiet rfl) fun _ => always_pure _

theorem refreshed_always (rolloutId : String) : Always Operated (refreshed rolloutId) := by
  refine always_bind (refreshRolloutSummary_always rolloutId) fun detail => ?_
  cases detail with
  | none => exact always_throw _
  | some detail => exact always_pure _

theorem requireItem_wp {detail : UpgradeRolloutDetail} {instanceId : String} :
    wp Operated (requireItem detail instanceId)
      (OnOk fun item tr' => detail.find instanceId = some item ∧ tr' = tr) tr := by
  unfold requireItem
  cases h : detail.find instanceId with
  | none => trivial
  | some item => exact ⟨rfl, rfl⟩

theorem requireRollout_wp (id : String) : wp Operated (requireRollout id)
    (OnOk fun detail tr' => tr' = ⟨.getRollout id, .ok (some detail)⟩ :: tr) tr := by
  refine wp_ask_seq (operated_quiet rfl) fun detail => ?_
  cases detail <;> trivial

theorem throwIf_wp (c : Prop) [Decidable c] (e : Failure) :
    wp Operated (throwIf c e) (OnOk fun _ tr' => ¬ c ∧ tr' = tr) tr := by
  rw [wp_throwIf]
  exact ⟨fun _ => trivial, fun h => ⟨h, rfl⟩⟩

/-- The item of a rollout that was just read. -/
theorem seen_of_find {detail : UpgradeRolloutDetail} {id instanceId : String} (h : detail.find instanceId = some item) :
    Seen item (⟨.getRollout id, .ok (some detail)⟩ :: tr) :=
  seen_head (mem_find h).1

/-- What an operator does to an actionable item. -/
theorem updateItem_always {update : ItemUpdate} (rolloutId instanceId : String)
    (hkey : ∀ item now, ({ update item now with updatedAt := now } : UpgradeRolloutItem).key = item.key)
    (hoperates : ∀ item now, item.status.actionable = true →
      Operates item { update item now with updatedAt := now }) :
    Always Operated (updateItem rolloutId instanceId update) := by
  refine always_retry (operated_of_onOk fun tr => ?_) (always_throw _) _
  refine wp_seq (requireRollout_wp rolloutId) ?_
  rintro detail _ rfl
  refine wp_seq requireItem_wp ?_
  rintro item _ ⟨hfind, rfl⟩
  refine wp_seq (throwIf_wp _ _) ?_
  rintro _ _ ⟨hactionable, rfl⟩
  refine wp_ask_seq (operated_quiet rfl) fun now => wp_ask_seq ?_ fun saved => ?_
  · exact ⟨item, (seen_of_find hfind).cons _, rfl, hkey item now, hoperates item now (by simpa using hactionable)⟩
  · cases saved with
    | none => trivial
    | some _ => exact wp_operated_seq (refreshed_always rolloutId) fun _ _ => trivial

theorem requeued_always (forced : Bool) (rolloutId instanceId : String) :
    Always Operated (updateItem rolloutId instanceId (requeued forced)) :=
  updateItem_always rolloutId instanceId (fun _ _ => rfl) fun _ _ h => .requeue h

theorem cancel_always (rolloutId instanceId : String) : Always Operated (cancel rolloutId instanceId) :=
  updateItem_always rolloutId instanceId (fun _ _ => rfl) fun _ _ h => .cancel h

theorem revalidateFirstStart_always (rolloutId instanceId : String) :
    Always Operated (revalidateFirstStart rolloutId instanceId) := by
  refine always_retry (operated_of_onOk fun tr => ?_) (always_throw _) _
  refine wp_seq (requireRollout_wp rolloutId) ?_
  rintro detail _ rfl
  refine wp_seq (throwIf_wp _ _) ?_
  rintro _ _ ⟨-, rfl⟩
  refine wp_seq requireItem_wp ?_
  rintro item _ ⟨hfind, rfl⟩
  refine wp_seq (throwIf_wp _ _) ?_
  rintro _ _ ⟨hmissing, rfl⟩
  refine wp_ask_seq (operated_quiet rfl) fun inst => wp_seq (throwIf_wp _ _) ?_
  rintro _ _ ⟨-, rfl⟩
  refine wp_ask_seq (operated_quiet rfl) fun now => wp_ask_seq trivial fun attemptId => ?_
  refine wp_ask_seq ?_ fun saved => ?_
  · exact ⟨item, (((seen_of_find hfind).cons _).cons _).cons _, rfl, rfl,
      @Operates.revalidate item now now attemptId (by simpa using hmissing)⟩
  · cases saved with
    | none => trivial
    | some _ => exact wp_operated_seq (refreshed_always rolloutId) fun _ _ => trivial

/-! ## Creating a rollout -/

theorem findReplay_always (actorUserId : String) (idempotencyKey : Option String) (fingerprint : RequestFingerprint) :
    Always Operated (findReplay actorUserId idempotencyKey fingerprint) := by
  cases idempotencyKey with
  | none => exact always_pure _
  | some key =>
    refine always_bind (always_await fun _ => operated_quiet rfl) fun existing => ?_
    cases existing with
    | some existing => exact always_bind (always_throwIf _ _) fun _ => always_pure _
    | none =>
      exact always_bind (always_await fun _ => operated_quiet rfl) fun conflicts =>
        always_bind (always_throwIf _ _) fun _ => always_pure _

theorem resolveTarget_always (container : Instance) (useLatestVersion : Bool) (targets : Script.Map AppLaunchTarget) :
    Always Operated (resolveTarget container useLatestVersion targets) := by
  unfold resolveTarget
  split
  · refine always_bind ?_ fun target => always_pure _
    unfold launchTargetOf
    split
    · exact always_pure _
    · exact always_await fun _ => operated_quiet rfl
  · split
    · exact always_bind (always_throwIf _ _) fun _ => always_pure _
    · exact always_throw _

/-- The items of a batch are new ones of its rollout. -/
theorem buildEach_wp (batch : Batch) (useLatestVersion : Bool) (containers : List (Option Instance × Nat))
    (targets : Script.Map AppLaunchTarget) :
    wp Operated (buildEach batch useLatestVersion containers targets)
      (OnOk fun items _ => ∀ item ∈ items, NewItem batch.rolloutId item) tr := by
  induction containers generalizing targets tr with
  | nil => exact fun item hitem => absurd hitem List.not_mem_nil
  | cons container rest ih =>
    obtain ⟨container | container, position⟩ := container
    · trivial
    · refine wp_seq (wp_post (resolveTarget_always container useLatestVersion targets tr) fun r _ _ => onOk_true r) ?_
      rintro ⟨target, targets⟩ tr₁ -
      refine wp_seq (ih targets) fun items tr₂ hitems => List.forall_mem_cons.2 ⟨?_, hitems⟩
      exact ⟨rfl, rfl, rfl, rfl, rfl, rfl⟩

theorem buildItems_wp (instanceIds : List String) (useLatestVersion : Bool) (rolloutId : String)
    (createdAt : Timestamp) (desiredState : Option WorkspaceDesiredState) (recovery : Bool) :
    wp Operated (buildItems instanceIds useLatestVersion rolloutId createdAt desiredState recovery)
      (OnOk fun items _ => ∀ item ∈ items, NewItem rolloutId item) tr := by
  refine wp_ask_seq (operated_quiet rfl) fun policy => ?_
  have hcontainers : Always Operated (each (fun id => ask (.getContainer id)) instanceIds) :=
    always_each fun id _ => always_await fun _ => operated_quiet rfl
  refine wp_seq (wp_post (hcontainers _) fun r _ _ => onOk_true r) fun containers tr₁ _ => ?_
  exact buildEach_wp _ useLatestVersion _ _

theorem create_always (input : CreateUpgradeRolloutInput) : Always Operated (create input) := by
  refine operated_of_onOk fun tr => ?_
  refine wp_operated_seq (always_bind (always_throwIf _ _) fun _ => always_pure _) fun instanceIds tr₁ => ?_
  refine wp_ask_seq (operated_quiet rfl) fun createdAt => wp_ask_seq trivial fun rolloutId => ?_
  refine wp_operated_seq (findReplay_always _ _ _) fun replay tr₂ => ?_
  cases replay with
  | some replay => trivial
  | none =>
    refine wp_seq (buildItems_wp _ _ rolloutId _ _ _) fun items tr₃ hitems => ?_
    exact wp_ask_seq hitems fun detail => wp_operated_seq (always_throwIf _ _) fun _ _ => trivial

/-! ## Items of before the transactions -/

theorem succeedLegacy_wp {inst : Instance} (hread : (attemptOf tr).unread = false) (hseen : Seen item tr)
    (hmissing : item.proofMissing = true) (hobs : observed tr = some (item.instanceId, inst))
    (hrunning : inst.status = .running) : wp (Issued w) (w.succeed item) (OnOk fun _ _ => True) tr :=
  wp_issued rfl hread (commit_wp hseen fun _ => .running hobs hrunning (.inr hmissing))

theorem reconcileLegacy_wp (candidate : UpgradeRolloutItem) (signal : List AbortSignal) :
    wp (Issued w) (w.reconcileLegacy candidate signal) (OnOk fun _ _ => True) tr := by
  refine wp_always_seq (always_quiet (throwIfAborted_only signal)) fun _ tr₁ => ?_
  refine wp_ask_seq (issued_quiet rfl) fun latestDetail => ?_
  have hread := attemptOf_getRollout tr₁ candidate.rolloutId latestDetail
  cases hfind : latestDetail.bind (·.find candidate.instanceId) with
  | none => trivial
  | some latest =>
    have hseen : Seen latest (⟨.getRollout candidate.rolloutId, .ok latestDetail⟩ :: tr₁) := seen_find hfind
    have hid : latest.instanceId = candidate.instanceId := by
      obtain ⟨detail, -, hd⟩ := Option.bind_eq_some_iff.1 hfind
      exact (mem_find hd).2
    dsimp only
    split
    · trivial
    · next hmissing =>
      split
      · trivial
      · refine wp_catch (wp_ask_seq (issued_quiet rfl) fun inst => ?_) fun error tr' => ?_
        · refine wp_seq (wp_issued rfl hread (throwIfAborted_wp signal)) ?_
          rintro _ _ rfl
          cases inst with
          | none => trivial
          | some inst =>
            dsimp only
            split
            · trivial
            · split
              · next hrunning =>
                refine wp_seq (succeedLegacy_wp hread ((hseen.cons _).cons _) (by simpa using hmissing) ?_ hrunning)
                  fun _ _ _ => trivial
                rw [hid]
                rfl
              · split
                · trivial
                · refine wp_ask_seq (issued_quiet rfl) fun now => wp_ask_seq trivial fun attemptId => ?_
                  refine wp_seq (wp_issued (show (attemptOf _).own = some attemptId from rfl) hread (wp_ignored (transition_wp
                    ((((hseen.cons _).cons _).cons _).cons _) (fun _ => rfl) fun _ _ => .revalidate (by simpa using hmissing))))
                    fun _ tr' _ => ?_
                  exact wp_ask_seq (issued_quiet rfl) fun _ => trivial
        · split
          · exact wp_ask_seq (issued_quiet rfl) fun _ => trivial
          · trivial

theorem withItemLease_wp {α : Type} {instanceId : String} {operation : AbortSignal → RolloutTask α} (hclaim : ∀ signal,
      wp (Issued w) (operation signal) (fun _ _ => True) (⟨.claimItem instanceId, .ok (some signal)⟩ :: tr)) :
    wp (Issued w) (withItemLease instanceId operation) (OnOk fun _ _ => True) tr := by
  refine wp_ask_seq trivial fun signal => ?_
  cases signal with
  | none => trivial
  | some signal =>
    exact wp_seq (wp_post (wp_ensuring (hclaim signal) fun tr' => always_await (fun _ => issued_quiet rfl) tr')
      fun r _ _ => onOk_true r) fun _ _ _ => trivial

theorem legacyItems_only (rollouts : List UpgradeRollout) :
    Only (fun o => quiet o = true) (w.legacyItems rollouts) := by
  unfold UpgradeRolloutWorker.legacyItems UpgradeRolloutWorker.legacyItemsFromRollouts
  split
  · exact only_await rfl
  · refine only_bind (only_each (fun rollout => ?_) _) fun found => only_pure _
    split
    · exact only_pure _
    · exact only_bind (only_await rfl) fun detail => only_pure _

theorem settleLegacy_always (rollouts : List UpgradeRollout) (signal : AbortSignal) :
    Always (Issued w) (w.settleLegacy rollouts signal) := by
  refine always_bind (always_await fun _ => issued_quiet rfl) fun reconciled => ?_
  split
  · refine always_bind (always_bind (always_quiet (legacyItems_only rollouts)) fun candidates => ?_) fun _ =>
      always_await fun _ => issued_quiet rfl
    refine always_bind (always_each fun candidate _ => ?_) fun _ => always_pure _
    refine always_bind (always_quiet (throwIfAborted_only _)) fun _ => always_of_onOk fun tr => ?_
    exact withItemLease_wp fun itemSignal => wp_post (reconcileLegacy_wp _ _) fun _ _ _ => trivial
  · exact always_pure _

/-! ## The rounds of a worker -/

/-- What is due is seen to be due as long as the round goes on. -/
theorem processDue_wp {items : List UpgradeRolloutItem} {at' : Timestamp} {limit : Nat} (signal : AbortSignal) :
    wp (Issued w) (w.processDue items signal) (OnOk fun _ _ => True) (⟨.listDueItems at' limit, .ok items⟩ :: tr) := by
  refine wp_post (wp_each (I := fun tr' => ⟨.listDueItems at' limit, .ok items⟩ ∈ tr') (E := fun _ _ => True)
    (P := fun _ => True) (fun item hitem tr₁ hs => ?_) List.mem_cons_self) fun r _ _ => onOk_true r
  have hlater : ∀ {tr₂ : Exchanges}, tr₁ <:+ tr₂ → ⟨.listDueItems at' limit, .ok items⟩ ∈ tr₂ := fun h => h.subset hs
  refine wp_post (wp_extends (wp_seq (P := fun _ tr₂ => tr₁ <:+ tr₂) ?_ fun _ tr₂ h₂ => withItemLease_wp fun itemSignal => ?_)) ?_
  · refine wp_post (wp_extends (always_quiet (throwIfAborted_only _) tr₁)) fun r tr₂ h => ?_
    cases r with
    | ok a => exact h.2
    | error e => trivial
  · refine wp_post (processItem_wp _ rfl ⟨_, List.mem_cons_of_mem _ (hlater h₂), hitem⟩ fun hsound => ?_) fun _ _ _ => trivial
    exact (hsound _ (List.mem_cons_of_mem _ (hlater h₂)) item hitem).2
  · rintro (e | a) tr' ⟨-, hext⟩
    · trivial
    · exact ⟨trivial, hlater hext⟩

theorem round_wp (signal : AbortSignal) : wp (Issued w) (w.round signal) (OnOk fun _ _ => True) tr := by
  refine wp_always_seq (always_quiet (throwIfAborted_only _)) fun _ tr₁ => ?_
  refine wp_ask_seq (issued_quiet rfl) fun _ => wp_ask_seq (issued_quiet rfl) fun now => ?_
  refine wp_ask_seq trivial fun _ => wp_ask_seq (issued_quiet rfl) fun rollouts => ?_
  refine wp_always_seq (settleLegacy_always rollouts signal) fun _ tr₂ => ?_
  refine wp_always_seq (always_each fun rollout _ => issued_of_operated (refreshRolloutSummary_always _)) fun _ tr₃ => ?_
  refine wp_ask_seq (issued_quiet rfl) fun items => wp_seq (processDue_wp signal) fun _ tr₄ _ => ?_
  refine wp_always_seq (always_quiet (throwIfAborted_only _)) fun _ tr₅ => ?_
  refine wp_ask_seq (issued_quiet rfl) fun checkpoints => ?_
  exact wp_always_seq (always_each fun id _ => issued_of_operated (refreshRolloutSummary_always id)) fun _ _ => trivial

theorem runOnce_always : Always (Issued w) w.runOnce := by
  refine always_bind (always_await fun _ => trivial) fun signal => ?_
  cases signal with
  | none => exact always_pure _
  | some signal => exact always_ensuring (always_of_onOk fun tr => round_wp signal) (always_await fun _ => issued_quiet rfl)

/-! ## Every run -/

/-- The id of a worker tells only what it remembers. -/
theorem issued_id {id : Nat} {o : RolloutOp} (h : Issued { w with id := id } tr o) : Issued w tr o := by
  cases o with
  | compareAndSaveItem next expectedRevision =>
    obtain ⟨item, hseen, hrev, hkey, hmoves⟩ := h
    refine ⟨item, hseen, hrev, hkey, fun hs => ?_⟩
    cases hmoves hs with
    | requeue actionable => exact .requeue actionable
    | cancel actionable => exact .cancel actionable
    | revalidate proofMissing => exact .revalidate proofMissing
    | assess own' live first idle => exact .assess own' live first idle
    | capture assessing owned => exact .capture assessing owned
    | wait status owned => exact .wait status owned
    | drain assessing owned => exact .drain assessing owned
    | rebuild draining owned => exact .rebuild draining owned
    | verify rebuilding owned => exact .verify rebuilding owned
    | defer waiting owned => exact .defer waiting owned
    | giveUp live => exact .giveUp live
    | retry live budget => exact .retry live budget
  | _ => exact h

/-- The thread is a worker. -/
def RolloutCall.isWorker : RolloutCall → Bool
  | .worker _ => true
  | _ => false

theorem worker_always (id : Nat) : Always (Issued w) (UpgradeRolloutWorker.runOnce { w with id := id }) :=
  fun tr => wp_mono (runOnce_always tr) (fun _ _ => issued_id) fun _ _ h => h

/-- What the threads keep to: everyone to the rule, and the others to that of the operators. -/
def Kept (w : UpgradeRolloutWorker) (worker : Bool) (tr : Exchanges) (o : RolloutOp) : Prop :=
  Issued w tr o ∧ (worker = false → Operated tr o)

/-- A call of the service, and nothing after it. -/
theorem service_kept {p : RolloutTask UpgradeRolloutDetail} (hp : Always Operated p) {worker : Bool} (J : RolloutCall → Exchanges → Prop) :
    wp (Kept w worker) (Sum.inr <$> p : RolloutTask (RolloutCall ⊕ UpgradeRolloutDetail)) (Continues J) tr := by
  refine (wp_map _ _ _).2 (wp_mono (hp tr) (fun _ _ ho => ⟨ho.issued, fun _ => ho⟩) fun r tr' _ => ?_)
  cases r <;> trivial

theorem body_kept (call : RolloutCall) :
    wp (Kept w call.isWorker) (call.body w) (Continues fun next _ => next.isWorker = call.isWorker) tr := by
  cases call with
  | create input => exact service_kept (create_always input) _
  | force rolloutId instanceId => exact service_kept (requeued_always true rolloutId instanceId) _
  | continueWaiting rolloutId instanceId => exact service_kept (requeued_always false rolloutId instanceId) _
  | revalidateFirstStart rolloutId instanceId => exact service_kept (revalidateFirstStart_always rolloutId instanceId) _
  | cancel rolloutId instanceId => exact service_kept (cancel_always rolloutId instanceId) _
  | worker id =>
    refine (wp_bind _ _ _).2 (wp_mono (always_settle (worker_always id) tr) (fun _ _ ho => ⟨ho, nofun⟩) fun r tr' _ => ?_)
    cases r with
    | ok r => exact rfl
    | error e => trivial

/-- Every event of a run keeps to the rule of its thread. -/
theorem kept_of_run {ι : Type} [DecidableEq ι] {w₀ : World} {calls : ι → RolloutCall}
    {sched : List (ι × RolloutChoice)}
    {c : Config ι RolloutOp RolloutOp.Answer Failure World RolloutCall UpgradeRolloutDetail}
    (h : exec (rolloutSystem w) (start (rolloutSystem w) w₀ calls) sched = some c) :
    Legal (rolloutSystem w) (fun t => Kept w (calls t).isWorker) w₀ c.events c.world := by
  refine legal_of_exec (J := fun t call _ => call.isWorker = (calls t).isWorker) (fun _ => rfl) ?_ h
  intro t call tr hcall
  simp only [← hcall]
  exact body_kept call

/-- Every event of a run keeps to the rule. -/
theorem legal_of_run {ι : Type} [DecidableEq ι] {w₀ : World} {calls : ι → RolloutCall}
    {sched : List (ι × RolloutChoice)}
    {c : Config ι RolloutOp RolloutOp.Answer Failure World RolloutCall UpgradeRolloutDetail}
    (h : exec (rolloutSystem w) (start (rolloutSystem w) w₀ calls) sched = some c) :
    Legal (rolloutSystem w) (fun _ => Issued w) w₀ c.events c.world :=
  (kept_of_run h).imp fun _ _ _ ho => ho.1

end Calls

end OpenApp.Rollout
