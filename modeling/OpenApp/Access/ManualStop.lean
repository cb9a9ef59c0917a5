import OpenApp.Access.Coordinator
import OpenApp.Lifecycle.Resurrection

/-!
# Requests and instances that were stopped by hand

A request wakes no instance whose record says that it was stopped by hand. The record is looked at
once: whoever stops the instance between the look and the start, or while the start waits for a
lease, is not noticed. Otherwise a manual stop is respected.
-/

namespace OpenApp

open Async Async.Prog

/-- The record is stopped, with the reason of somebody's hand. -/
def stoppedByHand (container : Container) : Bool :=
  container.status = .stopped && (container.stopReason = some .manualUser || container.stopReason = some .manualAdmin)

/-! ## What a request has seen before it starts anything -/

/-- The record was read, and not as one stopped by hand. -/
def findsOtherwise (id : String) : Exchange (Op ⊕ LifecycleOp) (Answers Op.Answer LifecycleOp.Answer) Failure → Bool
  | ⟨.inr (.getContainer id'), .ok (some container)⟩ => id' = id && !stoppedByHand container
  | _ => false

def AccessSees (id : String) : AccessExchange → Bool
  | ⟨.inl o, r⟩ => findsOtherwise id ⟨o, r⟩
  | ⟨.inr _, _⟩ => false

theorem any_lefts (id : String) (tr : AccessExchanges) : (lefts tr).any (findsOtherwise id) = tr.any (AccessSees id) := by
  induction tr with
  | nil => rfl
  | cons x tr ih =>
    obtain ⟨o | o, r⟩ := x
    · simp [AccessSees, ih]
    · simp [AccessSees, ih]

/-- The thread has read the record as one that was not stopped by hand, unless its policy lets it wake all. -/
def Vouched (id : String) (tr : AccessExchanges) : Prop :=
  ∃ policy, ⟨.inr .getPolicy, .ok policy⟩ ∈ tr ∧
    (policy.blockAutoWakeAfterManualStop = true → tr.any (AccessSees id) = true)

theorem Vouched.cons {id : String} {tr : AccessExchanges} (h : Vouched id tr) (x : AccessExchange) : Vouched id (x :: tr) := by
  obtain ⟨policy, hmem, hseen⟩ := h
  refine ⟨policy, List.mem_cons_of_mem _ hmem, fun hblock => ?_⟩
  rw [List.any_cons, hseen hblock, Bool.or_true]

/-- A start is called for an instance that the thread has vouched for. -/
def CallsStart (tr : AccessExchanges) : AccessCalls → Prop
  | .inr (.callsStart id) => Vouched id tr
  | _ => True

/-- Starts are called for this instance only. -/
def StartsOnly (id : String) : AccessCalls → Prop
  | .inr (.callsStart id') => id' = id
  | _ => True

/-- No start is called. -/
def StartsNothing : AccessCalls → Prop
  | .inr (.callsStart _) => False
  | _ => True

section Programs

variable {a : Coordinator} {id : String} {tr : AccessExchanges} {α : Type}

theorem wp_of_vouched {p : AccessTask α} (hp : Only (StartsOnly id) p) (h : Vouched id tr) :
    wp CallsStart p (fun _ _ => True) tr := by
  refine wp_post (wp_inv (I := Vouched id) (fun tr o r h _ => h.cons _) (fun tr o h ho => ?_) h
    (wp_of_only hp fun _ _ => trivial)) fun _ _ _ => trivial
  cases o with
  | inl o => trivial
  | inr o =>
    cases o with
    | callsStart id' =>
      obtain rfl : id' = id := ho
      exact h
    | _ => trivial

theorem always_of_startsNothing {p : AccessTask α} (hp : Only StartsNothing p) : Always CallsStart p := by
  intro tr
  refine wp_mono (wp_of_only hp fun _ _ => trivial) (fun tr o ho => ?_) fun _ _ h => h
  cases o with
  | inl o => trivial
  | inr o => cases o <;> trivial

/-- The lifecycle's programs call no start of the coordinator's. -/
theorem only_lifecycleCall {P : AccessCalls → Prop} (hP : ∀ o, P (.inl o)) (p : LifecycleTask α) :
    Only P (lifecycleCall p) :=
  only_inl hP p

theorem only_wakeTimedOut : Only (StartsOnly id) (a.wakeTimedOut id) := by
  unfold Coordinator.wakeTimedOut
  exact only_bind (only_tryCatch (only_bind (only_lifecycleCall (fun _ => trivial) _) fun _ => only_pure _)
    fun _ => only_pure _) fun _ => only_throw _

theorem only_settle {P : AccessCalls → Prop} {p : AccessTask α} (hp : Only P p) : Only P (settle p) :=
  only_tryCatch (only_bind hp fun _ => only_pure _) fun _ => only_pure _

theorem only_waitForHealthy (started : Container) (n : Nat) : Only (StartsOnly id) (a.waitForHealthy id started n) := by
  induction n with
  | zero => exact only_wakeTimedOut
  | succ n ih =>
    unfold Coordinator.waitForHealthy
    refine only_bind (only_await trivial) fun before => ?_
    split
    · refine only_bind (only_settle (only_await trivial)) fun healthy => ?_
      rcases healthy with error | _ | _
      · exact only_bind (only_throwIf _ _) fun _ => only_bind (only_await trivial) fun _ => ih
      · exact only_bind (only_await trivial) fun _ => ih
      · exact only_pure _
    · exact only_wakeTimedOut

theorem only_startOrJoin (n : Nat) : Only (StartsOnly id) (a.startOrJoin id n) := by
  induction n with
  | zero => exact only_throw _
  | succ n ih =>
    unfold Coordinator.startOrJoin
    refine only_bind (only_await trivial) fun before => ?_
    split
    · refine only_bind (only_await rfl) fun _ =>
        only_bind (only_settle (only_lifecycleCall (fun _ => trivial) _)) fun started => ?_
      cases started with
      | ok container => exact only_pure _
      | error error =>
        dsimp only
        split
        · refine only_bind (only_await trivial) fun _ =>
            only_bind (only_lifecycleCall (fun _ => trivial) _) fun current => ?_
          split
          · exact only_pure _
          · exact only_bind (only_throwIf _ _) fun _ => ih
        · split <;> exact only_throw _
    · exact only_throw _

theorem only_sharing {P : AccessCalls → Prop} (hP : ∀ o, P (.inr (.join o id))) (map : Shared) {p : AccessTask Container}
    (hp : Only P p) (hshared : ∀ promise, P (.inr (.awaitShared promise)))
    (hsettle : ∀ promise result, P (.inr (.settleShared map id promise result))) :
    Only P (Coordinator.sharing map id p) := by
  unfold Coordinator.sharing
  refine only_bind (only_await (hP map)) fun joined => ?_
  cases joined with
  | observed container => exact only_pure _
  | existing promise => exact only_await (hshared promise)
  | own promise =>
    exact only_bind (only_settle hp) fun result => only_bind (only_await (hsettle _ _)) fun _ => only_fromExcept _

theorem only_wake : Only (StartsOnly id) (a.wake id) := by
  refine only_sharing (fun _ => trivial) _ ?_ (fun _ => trivial) fun _ _ => trivial
  unfold Coordinator.startAndWait
  exact only_bind (only_startOrJoin _) fun started => only_bind (only_throwIf _ _) fun _ => only_waitForHealthy _ _

/-- What is known of a record that was looked at: if it is stopped now it was stopped by hand, or it
has been read as one that was not. -/
def Finds (id : String) (current : Container) (tr : LifecycleExchanges) : Prop :=
  (current.status = .stopped → stoppedByHand current = true) ∨ tr.any (findsOtherwise id) = true

theorem Finds.of_suffix {current : Container} {tr tr' : LifecycleExchanges} (hs : tr <:+ tr') (h : Finds id current tr) :
    Finds id current tr' := by
  rcases h with h | h
  · exact .inl h
  · obtain ⟨recent, rfl⟩ := hs
    exact .inr (by rw [List.any_append, h, Bool.or_true])

theorem stoppedByHand_status {container : Container} (h : stoppedByHand container = true) : container.status = .stopped := by
  unfold stoppedByHand at h
  simpa using (Bool.and_eq_true_iff.1 h).1

/-- A record that was stopped by hand still is, where the instance is found stopped. -/
theorem updatedContainer_stoppedByHand {record : Container} (h : stoppedByHand record = true) (inst : ContainerInstance)
    (latestActivityAt : Option String) (updatedAt : String)
    (hstopped : (updatedContainer record inst record.stopReason none latestActivityAt updatedAt).status = .stopped) :
    stoppedByHand (updatedContainer record inst record.stopReason none latestActivityAt updatedAt) = true := by
  have hrecord := stoppedByHand_status h
  have hreason : (record.stopReason = some .manualUser || record.stopReason = some .manualAdmin) = true := by
    simpa [stoppedByHand, hrecord] using h
  have hstate : inst.state = .stopped := by simpa [updatedContainer, hrecord] using hstopped
  simpa [stoppedByHand, updatedContainer, hrecord, hstate] using hreason

abbrev anything : LifecycleExchanges → Op ⊕ LifecycleOp → Prop := fun _ _ => True

/-- Once the record was read otherwise, nothing unreads it. -/
theorem finds_of_seen {tr : LifecycleExchanges} (h : tr.any (findsOtherwise id) = true) (p : LifecycleTask Container) :
    wp anything p (OnOk (Finds id)) tr := by
  refine wp_post (wp_extends (always_any p tr)) fun r tr' hr => ?_
  cases r with
  | error e => trivial
  | ok current => exact Finds.of_suffix hr.2 (.inr h)

theorem waitForCreation_settled {record : Container} (h : record.status ≠ .creating) (signal : Option AbortSignal) (n : Nat) :
    waitForCreation signal n record = pure record := by
  cases n with
  | zero => exact if_neg h
  | succ n => exact if_neg h

theorem projectRuntimeInstance_finds {record : Container} (h : stoppedByHand record = true) (inst : ContainerInstance)
    (latestActivityAt : Option String) (tr : LifecycleExchanges) :
    wp anything (projectRuntimeInstance record inst record.stopReason none latestActivityAt none) (OnOk (Finds id)) tr := by
  unfold projectRuntimeInstance
  refine wp_after (always_any _) (fun _ _ => trivial) (fun _ tr => ?_) tr
  refine wp_after (always_any _) (fun _ _ => trivial) (fun _ tr => ?_) tr
  refine wp_after (always_any _) (fun _ _ => trivial) (fun _ tr => ?_) tr
  refine wp_after (always_any _) (fun _ _ => trivial) (fun _ tr => ?_) tr
  refine wp_after (always_any _) (fun _ _ => trivial) (fun _ tr => ?_) tr
  refine wp_after (always_any _) (fun _ _ => trivial) (fun updatedAt tr => ?_) tr
  exact .inl (updatedContainer_stoppedByHand h inst latestActivityAt updatedAt)

theorem persistRuntimeInstance_finds {record : Container} (h : stoppedByHand record = true) (inst : ContainerInstance)
    (tr : LifecycleExchanges) :
    wp anything (persistRuntimeInstance record inst record.stopReason none none) (OnOk (Finds id)) tr := by
  unfold persistRuntimeInstance
  refine wp_after (always_any _) (fun _ _ => trivial) (fun latest tr => ?_) tr
  refine wp_seq (P := Finds id) (projectRuntimeInstance_finds h inst _ tr) fun updated tr' hfinds => ?_
  refine wp_seq (P := fun _ => Finds id updated) ?_ fun _ _ hfinds => hfinds
  refine wp_post (wp_extends (always_any _ tr')) fun r tr'' hs => ?_
  cases r with
  | error e => trivial
  | ok _ => exact hfinds.of_suffix hs.2

/-- The record that a program goes on with, which it has just read. -/
theorem finds_of_read {record : Container} {tr : LifecycleExchanges} {p : LifecycleTask Container}
    (hbyHand : stoppedByHand record = true → wp anything p (OnOk (Finds id)) tr)
    (hread : ⟨.inr (.getContainer id), .ok (some record)⟩ ∈ tr) : wp anything p (OnOk (Finds id)) tr := by
  cases h : stoppedByHand record with
  | true => exact hbyHand h
  | false => exact finds_of_seen (List.any_eq_true.2 ⟨_, hread, by simp [findsOtherwise, h]⟩) p

theorem read_finds (observes : Bool) (id : String) (tr : LifecycleExchanges) :
    wp anything (InstanceLifecycle.read observes id) (OnOk (Finds id)) tr := by
  unfold InstanceLifecycle.read requireContainer
  refine wp_seq (P := fun record tr => ⟨.inr (.getContainer id), .ok (some record)⟩ ∈ tr) ?_ fun record tr hread => ?_
  · refine wp_ask_seq trivial fun found => ?_
    cases found with
    | none => trivial
    | some record => exact List.mem_cons_self
  · refine finds_of_read (fun hbyHand => ?_) hread
    have hstatus : record.status = .stopped := stoppedByHand_status hbyHand
    rw [waitForCreation_settled (by rw [hstatus]; rintro ⟨⟩)]
    change wp anything (if observes then _ else _) _ _
    split
    · have observed (inst : Option ContainerInstance) (tr : LifecycleExchanges) : wp anything (recordSeen record
          (fun inst => projectRuntimeInstance record inst record.stopReason none none none) inst) (OnOk (Finds id)) tr := by
        cases inst with
        | some inst => exact projectRuntimeInstance_finds hbyHand inst none tr
        | none =>
          rw [recordSeen, if_neg (by rw [hstatus]; rintro ⟨⟩)]
          trivial
      refine wp_after (always_any _) (fun _ _ => trivial) (fun first tr => ?_) tr
      dsimp only
      split
      · exact wp_after (always_any _) (fun _ _ => trivial) observed tr
      · exact observed first tr
    · exact .inl fun _ => hbyHand

theorem syncRecord_finds {record : Container} (h : stoppedByHand record = true) (signal : AbortSignal)
    (tr : LifecycleExchanges) : wp anything (syncRecord record signal) (OnOk (Finds id)) tr := by
  unfold syncRecord
  refine wp_after (always_any _) (fun _ _ => trivial) (fun _ tr => ?_) tr
  have observed (inst : Option ContainerInstance) (tr : LifecycleExchanges) : wp anything (recordSeen record
      (fun inst => persistRuntimeInstance record inst record.stopReason none none) inst) (OnOk (Finds id)) tr := by
    cases inst with
    | some inst => exact persistRuntimeInstance_finds h inst tr
    | none =>
      rw [recordSeen, if_neg (by rw [stoppedByHand_status h]; rintro ⟨⟩)]
      trivial
  refine wp_after (always_any _) (fun _ _ => trivial) (fun first tr => ?_) tr
  dsimp only
  split
  · exact wp_after (always_any _) (fun _ _ => trivial) observed tr
  · exact observed first tr

theorem withContainerLease_finds {operation : AbortSignal → LifecycleTask Container}
    (h : ∀ signal tr, wp anything (operation signal) (OnOk (Finds id)) tr) (tr : LifecycleExchanges) :
    wp anything (withContainerLease id operation) (OnOk (Finds id)) tr := by
  unfold withContainerLease
  refine wp_seq (P := fun result tr => ∀ current ∈ result, Finds id current tr) ?_ fun result tr hfinds => ?_
  · unfold withContainerMaintenance
    refine wp_after (always_any _) (fun _ _ => trivial) (fun claimed tr => ?_) tr
    cases claimed with
    | none => exact fun current hc => by cases hc
    | some signal =>
      refine wp_ensuring_onOk ?_ (always_any _) fun _ _ _ hs hfinds current hc => (hfinds current hc).of_suffix hs
      refine wp_after (always_any _) (fun _ _ => trivial) (fun _ tr => ?_) _
      refine wp_after (always_any _) (fun _ _ => trivial) (fun draining tr => ?_) tr
      cases draining with
      | true => exact fun current hc => by cases hc
      | false =>
        refine wp_after (always_any _) (fun _ _ => trivial) (fun _ tr => ?_) tr
        rw [wp_map]
        refine wp_post (h signal tr) fun r tr' hr => ?_
        cases r with
        | error e => trivial
        | ok current =>
          rintro _ ⟨⟩
          exact hr
  · cases result with
    | none => trivial
    | some current => exact hfinds current rfl

theorem sync_finds (id : String) (tr : LifecycleExchanges) : wp anything (sync id) (OnOk (Finds id)) tr := by
  refine withContainerLease_finds (fun signal tr => ?_) tr
  unfold withLock
  refine wp_after (always_any _) (fun _ _ => trivial) (fun _ tr => ?_) tr
  refine wp_ensuring_onOk ?_ (always_any _) fun _ _ _ => Finds.of_suffix
  refine wp_after (always_any _) (fun _ _ => trivial) (fun _ tr => ?_) tr
  refine wp_ask_seq trivial fun found => ?_
  refine wp_seq (P := fun _ tr => ⟨.inr (.getContainer id), .ok found⟩ ∈ tr) ?_ fun _ tr hread => ?_
  · refine wp_post (wp_extends (always_any _ _)) fun r tr' hs => ?_
    cases r with
    | error e => trivial
    | ok _ => exact hs.2.subset List.mem_cons_self
  · cases found with
    | none => trivial
    | some record =>
      refine finds_of_read (fun hbyHand => ?_) hread
      dsimp only
      rw [waitForCreation_settled (by rw [stoppedByHand_status hbyHand]; rintro ⟨⟩)]
      exact syncRecord_finds hbyHand signal tr

theorem lifecycleCall_finds {p : LifecycleTask Container} {tr : AccessExchanges}
    (h : wp anything p (OnOk (Finds id)) (lefts tr)) :
    wp CallsStart (lifecycleCall p) (OnOk fun current tr' => Finds id current (lefts tr')) tr := by
  refine wp_inl (fun _ _ _ => trivial) (fun r tr' hr => ?_) h
  cases r with
  | error e => trivial
  | ok current => exact hr

theorem always_lifecycleCall (p : LifecycleTask α) : Always CallsStart (lifecycleCall p) :=
  always_of_startsNothing (only_lifecycleCall (fun _ => trivial) p)

/-- What the check lets pass was not stopped by hand, where the policy blocks such wakes. -/
theorem assertProxyWakeAllowed_passes {current : Container} {policy : WakePolicy} {tr : AccessExchanges} :
    wp CallsStart (Coordinator.assertProxyWakeAllowed current policy) (OnOk fun _ tr' => tr' = tr ∧
      (policy.blockAutoWakeAfterManualStop = true → stoppedByHand current = false)) tr := by
  unfold Coordinator.assertProxyWakeAllowed
  rw [wp_bind, wp_throwIf]
  refine ⟨fun _ => trivial, fun _ => ?_⟩
  rw [then_ok, wp_bind, wp_throwIf]
  refine ⟨fun _ => trivial, fun _ => ?_⟩
  rw [then_ok, wp_throwIf]
  refine ⟨fun _ => trivial, fun hallowed => ⟨rfl, fun hblock => ?_⟩⟩
  have hreason := not_and.1 hallowed hblock
  unfold stoppedByHand
  rw [Bool.and_eq_false_iff]
  exact .inr (by simpa using hreason)

theorem acquireReady_callsStart (tr : AccessExchanges) :
    wp CallsStart (a.acquireReady id) (OnOk fun _ _ => True) tr := by
  have checked (current : Container) (tr : AccessExchanges) (hfinds : Finds id current (lefts tr)) :
      wp CallsStart (do
        if current.status = .running ∧ a.hasProbeTarget current = true then pure current
        else do
          throwIf (current.status = .failed) instanceStartFailed
          throwIf (current.status ≠ .stopped) containerNotRunning
          let policy ← access .getPolicy
          Coordinator.assertProxyWakeAllowed current policy
          let ready ← a.wake id
          access (.touch id)
          pure ready : AccessTask Container) (OnOk fun _ _ => True) tr := by
    split
    · trivial
    rw [wp_bind, wp_throwIf]
    refine ⟨fun _ => trivial, fun _ => ?_⟩
    rw [then_ok, wp_bind, wp_throwIf]
    refine ⟨fun _ => trivial, fun hstopped => ?_⟩
    refine wp_ask_seq trivial fun policy => wp_seq assertProxyWakeAllowed_passes ?_
    rintro _ _ ⟨rfl, hallowed⟩
    have hvouched : Vouched id (⟨.inr .getPolicy, .ok policy⟩ :: tr) := by
      refine ⟨policy, List.mem_cons_self, fun hblock => ?_⟩
      rcases hfinds with hbyHand | hseen
      · rw [hallowed hblock] at hbyHand
        exact absurd (hbyHand (not_not.1 hstopped)) (by decide)
      · rw [any_lefts] at hseen
        rw [List.any_cons, hseen, Bool.or_true]
    refine wp_post (wp_of_vouched (only_bind only_wake fun ready => only_bind (only_await trivial) fun _ => only_pure _)
      hvouched) fun r _ _ => onOk_true r
  refine wp_seq (lifecycleCall_finds (read_finds _ _ _)) fun observed tr hfinds => ?_
  dsimp only
  split
  · exact wp_seq (lifecycleCall_finds (sync_finds _ _)) checked
  · exact wp_seq (P := fun current tr => Finds id current (lefts tr)) hfinds checked

theorem always_sharing (map : Shared) {p : AccessTask Container} (hp : Always CallsStart p) :
    Always CallsStart (Coordinator.sharing map id p) := by
  refine always_bind (always_await fun _ => trivial) fun joined => ?_
  cases joined with
  | observed container => exact always_pure _
  | existing promise => exact always_await fun _ => trivial
  | own promise =>
    exact always_bind (always_settle hp) fun result => always_bind (always_await fun _ => trivial) fun _ =>
      always_of_startsNothing (only_fromExcept _)

theorem always_acquire : Always CallsStart (a.acquire id) := by
  refine always_bind (always_await fun _ => trivial) fun _ => always_sharing _ ?_
  refine always_bind (fun tr => wp_post (acquireReady_callsStart tr) fun _ _ _ => trivial) fun container => ?_
  exact always_bind (always_await fun _ => trivial) fun _ => always_pure _

theorem always_body (c : AccessCall) : Always CallsStart (c.body a) := by
  cases c with
  | acquire id => exact always_bind always_acquire fun _ => always_pure _
  | start id => exact always_bind (always_lifecycleCall _) fun _ => always_pure _
  | stop id reason => exact always_bind (always_lifecycleCall _) fun _ => always_pure _
  | sync id => exact always_bind (always_lifecycleCall _) fun _ => always_pure _
  | maintain id => exact always_bind (always_lifecycleCall _) fun _ => always_pure _
  | lifecycle round =>
    refine always_bind (always_lifecycleCall _) fun ended => ?_
    cases ended with
    | inl next => exact always_pure _
    | inr returned => exact always_pure _

end Programs

/-! ## Manual stops that come in between -/

section Runs

variable {ι : Type} [DecidableEq ι] {a : Coordinator} {calls : ι → AccessCall} {w₀ w : AccessWorld}
  {sched : List (ι × AccessChoice)}

abbrev AccessEvent (ι : Type) := Event ι AccessCalls AccessAnswer Failure AccessWorld

/-- The stored record is stopped, by hand. -/
def AccessWorld.stoppedByHand (w : AccessWorld) (id : String) : Bool :=
  (w.record id).any OpenApp.stoppedByHand

/-- The stored record was stopped by hand with this event. -/
def stopsByHand (id : String) (e : AccessEvent ι) : Bool :=
  !e.before.stoppedByHand id && e.after.stoppedByHand id

/-- The record was stopped by hand since the thread last read it as one that was not. -/
def overtaken (t : ι) (id : String) : List (AccessEvent ι) → Bool
  | [] => false
  | e :: es =>
    if e.thread = t ∧ AccessSees id e.toExchange = true then false
    else (stopsByHand id e && (traceOf t es).any (AccessSees id)) || overtaken t id es

/-- A thread calls no start for an instance that was stopped by hand since the thread last read its record as one that
was not. -/
def Unovertaken (es : List (AccessEvent ι)) (e : AccessEvent ι) : Prop :=
  match e.op with
  | .inr (.callsStart id) => overtaken e.thread id es = false
  | _ => True

instance (es : List (AccessEvent ι)) (e : AccessEvent ι) : Decidable (Unovertaken es e) := by
  unfold Unovertaken
  split <;> infer_instance

/-- No start is called while the stored record is stopped by hand. -/
def RespectsManualStop (e : AccessEvent ι) : Prop :=
  match e.op with
  | .inr (.callsStart id) => e.before.stoppedByHand id = false
  | _ => True

instance (e : AccessEvent ι) : Decidable (RespectsManualStop e) := by
  unfold RespectsManualStop
  split <;> infer_instance

/-- A look at the record tells what is stored, and changes nothing. -/
theorem perform_getContainer {w w' : AccessWorld} {id : String} {x : AccessChoice} {found : Option Container}
    (h : w.perform (.inl (.inr (.getContainer id))) x = some (.ok found, w')) : w.record id = found ∧ w' = w := by
  cases x with
  | lifecycle x =>
    obtain ⟨⟨r, lifecycle⟩, hr, heq⟩ := Option.map_eq_some_iff.1 h
    obtain ⟨rfl, rfl⟩ := Prod.mk.inj heq
    cases x with
    | go =>
      cases hr
      exact ⟨rfl, rfl⟩
    | _ => cases hr
  | _ => cases h

theorem stoppedByHand_of_sees {w w' : AccessWorld} {id : String} {o : AccessCalls} {x : AccessChoice}
    {r : Except Failure (AccessAnswer o)} (h : w.perform o x = some (r, w')) (hsees : AccessSees id ⟨o, r⟩ = true) :
    w'.stoppedByHand id = false := by
  unfold AccessSees findsOtherwise at hsees
  split at hsees
  · next o r heq =>
    obtain ⟨rfl, hr⟩ := Exchange.mk.inj heq
    obtain rfl := eq_of_heq hr
    split at hsees
    · next id' container heq =>
      obtain ⟨rfl, hr⟩ := Exchange.mk.inj heq
      obtain rfl := eq_of_heq hr
      obtain ⟨hrecord, rfl⟩ := perform_getContainer h
      obtain ⟨hid, hnot⟩ := Bool.and_eq_true_iff.1 hsees
      obtain rfl := of_decide_eq_true hid
      unfold AccessWorld.stoppedByHand
      rw [hrecord]
      simpa using hnot
    · cases hsees
  · cases hsees

/-- What a thread has read is still so, as long as nobody stops the instance by hand. -/
theorem stoppedByHand_of_calm {G : ι → AccessExchanges → AccessCalls → Prop} {es : List (AccessEvent ι)}
    (hl : Legal (accessSystem a) G w₀ es w) {t : ι} {id : String} (hseen : (traceOf t es).any (AccessSees id) = true)
    (hcalm : overtaken t id es = false) : w.stoppedByHand id = false := by
  induction hl with
  | start => cases hseen
  | @record es w w' t' o x r hl hp _ ih =>
    unfold overtaken at hcalm
    split at hcalm
    · next h => exact stoppedByHand_of_sees hp h.2
    · next h =>
      have hseen : (traceOf t es).any (AccessSees id) = true := by
        by_cases hown : t' = t
        · subst hown
          rw [traceOf_record_own, List.any_cons] at hseen
          simpa [show AccessSees id ⟨o, r⟩ = false from Bool.eq_false_iff.2 fun hsees => h ⟨rfl, hsees⟩] using hseen
        · rwa [traceOf_record_other hown] at hseen
      rw [hseen, Bool.and_true, Bool.or_eq_false_iff] at hcalm
      have hbefore := ih hseen hcalm.2
      simpa [stopsByHand, hbefore] using hcalm.1

/-- The policy is never changed. -/
theorem perform_policy {w w' : AccessWorld} {o : AccessCalls} {x : AccessChoice} {r : Except Failure (AccessAnswer o)}
    (h : w.perform o x = some (r, w')) : w'.policy = w.policy := by
  cases o with
  | inl o =>
    cases x with
    | lifecycle x =>
      obtain ⟨_, _, heq⟩ := Option.map_eq_some_iff.1 h
      obtain ⟨_, rfl⟩ := Prod.mk.inj heq
      rfl
    | _ => cases h
  | inr o =>
    change w.performOwn o x = _ at h
    cases o with
    | join map id =>
      cases x with
      | expired value =>
        obtain ⟨_, rfl⟩ := Prod.mk.inj (Option.some.inj h)
        unfold AccessWorld.join
        split
        · rfl
        · split <;> rfl
      | _ => cases h
    | settleShared map id promise result =>
      cases x with
      | go =>
        obtain ⟨_, rfl⟩ := Prod.mk.inj (Option.some.inj h)
        unfold AccessWorld.settleShared
        dsimp only
        split <;> rfl
      | _ => cases h
    | awaitShared promise =>
      cases x with
      | go =>
        obtain ⟨_, _, heq⟩ := Option.map_eq_some_iff.1 h
        obtain ⟨_, rfl⟩ := Prod.mk.inj heq
        rfl
      | _ => cases h
    | _ => cases x <;> cases h <;> rfl

theorem policy_of_legal {G : ι → AccessExchanges → AccessCalls → Prop} {es : List (AccessEvent ι)}
    (hl : Legal (accessSystem a) G w₀ es w) :
    w.policy = w₀.policy ∧ ∀ t policy, ⟨.inr .getPolicy, .ok policy⟩ ∈ traceOf t es → policy = w₀.policy := by
  induction hl with
  | start => exact ⟨rfl, fun t policy hread => by cases hread⟩
  | @record es w w' t' o x r _ hp _ ih =>
    refine ⟨(perform_policy hp).trans ih.1, fun t policy hread => ?_⟩
    by_cases hown : t' = t
    · subst hown
      rw [traceOf_record_own] at hread
      rcases List.mem_cons.1 hread with heq | hread
      · obtain ⟨rfl, hr⟩ := Exchange.mk.inj heq
        obtain rfl := eq_of_heq hr
        cases x with
        | go =>
          cases hp
          exact ih.1
        | _ => cases hp
      · exact ih.2 t' policy hread
    · rw [traceOf_record_other hown] at hread
      exact ih.2 t policy hread

theorem respects_of_legal (hblock : w₀.policy.blockAutoWakeAfterManualStop = true) {es : List (AccessEvent ι)}
    (hl : Legal (accessSystem a) (fun _ => CallsStart) w₀ es w) (hcalm : Every Unovertaken es) :
    Every (fun _ e => RespectsManualStop e) es := by
  induction hl with
  | start => trivial
  | @record es w w' t o x r hl hp hrule ih =>
    refine ⟨?_, ih hcalm.2⟩
    cases o with
    | inl o => trivial
    | inr o =>
      cases o with
      | callsStart id =>
        obtain ⟨policy, hread, hseen⟩ : Vouched id (traceOf t es) := hrule
        obtain rfl := (policy_of_legal hl).2 t policy hread
        exact stoppedByHand_of_calm hl (hseen hblock) hcalm.1
      | _ => trivial

/-- In every run in which no start is overtaken by a manual stop, the gateway respects manual stops. -/
theorem manualStopRespected_of_run (hblock : w₀.policy.blockAutoWakeAfterManualStop = true)
    {c : Config ι AccessCalls AccessAnswer Failure AccessWorld AccessCall (Option Container)}
    (hrun : exec (accessSystem a) (start (accessSystem a) w₀ calls) sched = some c)
    (hcalm : Every Unovertaken c.events) : Every (fun _ e => RespectsManualStop e) c.events := by
  have hlegal : Legal (accessSystem a) (fun _ => CallsStart) w₀ c.events c.world :=
    legal_of_exec (J := fun _ _ _ => True) (fun _ => trivial)
      (fun _ call tr _ => wp_post (always_body call tr) fun r _ _ => by rcases r with _ | _ | _ <;> trivial) hrun
  exact respects_of_legal hblock hlegal hcalm

end Runs

namespace Sample

def coordinator : Coordinator where
  lifecycle := lifecycle
  observes := false
  probeCurrent := true
  turns := 2

/-- An instance that is asleep because nobody used it. -/
def accessWorld : AccessWorld where
  lifecycle := { base := world [{ container .stopped with stopReason := some .idle }], held := ∅ }
  policy := { autoWakeOnRequest := true, blockAutoWakeAfterManualStop := true }
  readyObservations _ := none
  promises _ _ := none
  settled _ := none
  made := 0

def asleep : ContainerInstance where
  instanceId := "ws"
  ownerId := "user"
  providerId := none
  runtimeId := "env"
  state := .stopped
  endpoint := none
  createdAt := time
  catalogSnapshot := none
  rebuildRecovered := false

/-- A request, and its user who stops the instance. -/
def requestAndStop : Bool → AccessCall
  | true => .acquire "ws"
  | false => .stop "ws" .manualUser

/-- A request up to where it waits for the policy. -/
def looking : List AccessChoice := [.go, .expired false, .lifecycle .go]

/-- The policy, the check, and the call of the start. -/
def waking : List AccessChoice := [.go, .expired false, .flag true, .go]

/-- A stop of an instance that is asleep, from its lease to its return. -/
def stopping : List AccessChoice :=
  [.lease 7, .manager .go, .flag false, .manager .go, .go, .go, .manager .go, .go, .manager .go, .manager .go,
    .found (some asleep), .go, .flag true, .manager (.text time), .manager .go, .manager (.text time), .manager .go,
    .manager .go, .go, .go, .go].map .lifecycle

def accessThread (t : Bool) (choices : List AccessChoice) : List (Bool × AccessChoice) :=
  choices.map fun x => (t, x)

def callsStart : AccessCalls → Bool
  | .inr (.callsStart _) => true
  | _ => false

end Sample

open Sample in
/-- A request that has called the start before its user stops the instance. -/
theorem manualStopRespected_before : ∃ c,
    exec (accessSystem coordinator) (start (accessSystem coordinator) accessWorld requestAndStop)
      (accessThread true (looking ++ waking) ++ accessThread false stopping) = some c ∧
      c.events.any (fun e => callsStart e.op) = true ∧ c.world.stoppedByHand "ws" = true ∧
      Every (fun _ e => RespectsManualStop e) c.events := by
  obtain ⟨c, hrun, hcalls, hstopped, hcalm⟩ : ∃ c,
      exec (accessSystem coordinator) (start (accessSystem coordinator) accessWorld requestAndStop)
        (accessThread true (looking ++ waking) ++ accessThread false stopping) = some c ∧
      c.events.any (fun e => callsStart e.op) = true ∧ c.world.stoppedByHand "ws" = true ∧
      Every Unovertaken c.events := exists_of_any (by decide +kernel)
  exact ⟨c, hrun, hcalls, hstopped, manualStopRespected_of_run rfl hrun hcalm⟩

open Sample in
/-- The user stops the instance while the request waits for the policy: the stop has returned, and the request starts
the instance all the same. -/
theorem manualStop_overtakes : ∃ c,
    exec (accessSystem coordinator) (start (accessSystem coordinator) accessWorld requestAndStop)
      (accessThread true looking ++ accessThread false stopping ++ accessThread true waking) = some c ∧
      (c.prog false).ended = true ∧ accessWorld.policy = ⟨true, true⟩ ∧
      ¬ Every (fun _ e => RespectsManualStop e) c.events := by
  obtain ⟨c, hrun, hended, hstarts⟩ : ∃ c,
      exec (accessSystem coordinator) (start (accessSystem coordinator) accessWorld requestAndStop)
        (accessThread true looking ++ accessThread false stopping ++ accessThread true waking) = some c ∧
      (c.prog false).ended = true ∧ ¬ Every (fun _ e => RespectsManualStop e) c.events :=
    exists_of_any (by decide +kernel)
  exact ⟨c, hrun, hended, rfl, hstarts⟩

end OpenApp
