import OpenApp.Async.Solo
import OpenApp.Revisions.Service

/-!
# The history as a log

A change records its number and its payload first, and stores its policy in the next piece of its program.
The job queue gives every other thread at most one piece in between, so the policies are stored in the
order of their numbers: what is in force is the payload of the latest change that has come so far.
-/

namespace OpenApp.Revisions

open Async Async.Prog Keyed Policy

variable {K : Kind} {ι : Type} [DecidableEq ι]

abbrev RevisionEvent (ι : Type) (K : Kind) := Event ι (RevisionOp K) RevisionOp.Answer RevisionFailure (Store K)

/-! ## What is recorded and not stored yet -/

/-- The policy and the revision of a change that was recorded. -/
def recorded : Exchange (RevisionOp K) RevisionOp.Answer RevisionFailure → Option (K.Policy × ConfigRevision)
  | ⟨.saveConfigRevision _, .ok saved⟩ => some saved
  | _ => none

def entryOf (saved : K.Policy × ConfigRevision) : ConfigRevisionSnapshot K.Payload :=
  { toConfigRevision := saved.2, payload := K.payloadOf saved.1 }

/-- Everything that was recorded so far, the latest first. -/
def log (s₀ : Store K) : List (RevisionEvent ι K) → List (ConfigRevisionSnapshot K.Payload)
  | [] => s₀.history
  | e :: es => ((recorded e.toExchange).map entryOf).toList ++ log s₀ es

/-- The changes whose threads have recorded them and taken no step since, the latest first. -/
def pending : List (RevisionEvent ι K) → List (ι × K.Policy)
  | [] => []
  | e :: es =>
    ((recorded e.toExchange).map fun saved => (e.thread, saved.1)).toList ++ (pending es).filter fun p => p.1 ≠ e.thread

/-- The threads that had a change to store when the thread took its last step. -/
def pendingBefore (t : ι) : List (RevisionEvent ι K) → List ι
  | [] => []
  | e :: es => if e.thread = t then (pending es).map Prod.fst else pendingBefore t es

/-- The job queue: no thread takes two steps while another one has a change to store. -/
def InTurn (es : List (RevisionEvent ι K)) (e : RevisionEvent ι K) : Prop :=
  ∀ p ∈ pending es, p.1 ≠ e.thread → p.1 ∉ pendingBefore e.thread es

instance (es : List (RevisionEvent ι K)) (e : RevisionEvent ι K) : Decidable (InTurn es e) := by
  unfold InTurn
  infer_instance

section Pending

variable {e : RevisionEvent ι K} {es : List (RevisionEvent ι K)} {t : ι} {q : K.Policy}

/-- A thread's change is pending just when it is the last thing the thread did. -/
theorem mem_pending : (t, q) ∈ pending es ↔ ((traceOf t es).head?.bind recorded).map Prod.fst = some q := by
  induction es with
  | nil => simp [pending]
  | cons e es ih =>
    by_cases ht : e.thread = t
    · subst ht
      rw [traceOf_own rfl, pending]
      cases hrec : recorded e.toExchange with
      | none => simp [hrec]
      | some saved => simp [hrec, eq_comm]
    · rw [traceOf_other ht, ← ih, pending]
      have hne : t ≠ e.thread := fun h => ht h.symm
      cases recorded e.toExchange with
      | none => simp [hne]
      | some saved => simp [hne]

theorem not_pending (h : (traceOf t es).head?.bind recorded = none) : ∀ p ∈ pending es, p.1 ≠ t := by
  rintro ⟨t', q⟩ hp rfl
  rw [mem_pending, h] at hp
  cases hp

/-- Where the change of a thread stands: those recorded before it were pending when the thread took its last step. -/
theorem pending_split (h : ((traceOf t es).head?.bind recorded).map Prod.fst = some q) :
    ∃ newer older, pending es = newer ++ (t, q) :: older ∧ (∀ p ∈ newer ++ older, p.1 ≠ t) ∧
      ∀ p ∈ older, p.1 ∈ pendingBefore t es := by
  induction es with
  | nil => cases h
  | cons e es ih =>
    by_cases ht : e.thread = t
    · subst ht
      rw [traceOf_own rfl] at h
      obtain ⟨saved, hrec, rfl⟩ := Option.map_eq_some_iff.1 h
      replace hrec : recorded e.toExchange = some saved := hrec
      refine ⟨[], (pending es).filter fun p => p.1 ≠ e.thread, ?_, ?_, ?_⟩
      · rw [pending, hrec]
        rfl
      · intro p hp
        simpa using (List.mem_filter.1 hp).2
      · intro p hp
        rw [pendingBefore, if_pos rfl]
        exact List.mem_map_of_mem (List.mem_of_mem_filter hp)
    · rw [traceOf_other ht] at h
      obtain ⟨newer, older, hsplit, hother, hbefore⟩ := ih h
      refine ⟨((recorded e.toExchange).map fun saved => (e.thread, saved.1)).toList ++
        newer.filter (fun p => p.1 ≠ e.thread), older.filter fun p => p.1 ≠ e.thread, ?_, ?_, ?_⟩
      · have hne : t ≠ e.thread := fun h => ht h.symm
        rw [pending, hsplit, List.filter_append, List.filter_cons_of_pos (by simpa using hne), List.append_assoc]
      · intro p hp
        rcases List.mem_append.1 hp with hp | hp
        · rcases List.mem_append.1 hp with hp | hp
          · cases hrec : recorded e.toExchange with
            | none => simp [hrec] at hp
            | some saved =>
              obtain rfl : p = (e.thread, saved.1) := by simpa [hrec] using hp
              exact ht
          · exact hother p (List.mem_append_left _ (List.mem_of_mem_filter hp))
        · exact hother p (List.mem_append_right _ (List.mem_of_mem_filter hp))
      · intro p hp
        rw [pendingBefore, if_neg ht]
        exact hbefore p (List.mem_of_mem_filter hp)

theorem pending_of_cons (h : recorded e.toExchange = none) {p : ι × K.Policy} (hp : p ∈ pending (e :: es)) :
    p ∈ pending es := by
  rw [pending, h] at hp
  exact List.mem_of_mem_filter hp

/-- Nothing becomes pending but by being recorded. -/
theorem pending_of_quiet {later : List (RevisionEvent ι K)} (hquiet : ∀ e ∈ later, recorded e.toExchange = none) :
    ∀ p ∈ pending (later ++ es), p ∈ pending es := by
  induction later with
  | nil => exact fun p hp => hp
  | cons e later ih =>
    intro p hp
    exact ih (fun e' he' => hquiet e' (List.mem_cons_of_mem _ he')) p (pending_of_cons (hquiet e List.mem_cons_self) hp)

/-- What is pending now, and was recorded before the thread's event, was pending at every later step of the thread. -/
theorem pendingBefore_of_quiet {later : List (RevisionEvent ι K)}
    (hquiet : ∀ e' ∈ later ++ [e], recorded e'.toExchange = none) :
    ∀ p ∈ pending (later ++ e :: es), p.1 ∈ pendingBefore e.thread (later ++ e :: es) := by
  induction later with
  | nil =>
    intro p hp
    rw [List.nil_append, pendingBefore, if_pos rfl]
    exact List.mem_map_of_mem (pending_of_cons (hquiet e (by simp)) hp)
  | cons e' later ih =>
    intro p hp
    have hp : p ∈ pending (later ++ e :: es) := pending_of_cons (hquiet e' List.mem_cons_self) hp
    rw [List.cons_append, pendingBefore]
    split
    · exact List.mem_map_of_mem hp
    · exact ih (fun e'' h => hquiet e'' (List.mem_cons_of_mem _ h)) p hp

end Pending

/-! ## The rules of the programs -/

/-- The latest exchange was no recording. -/
def Settled (tr : Exchanges K) : Prop :=
  tr.head?.bind recorded = none

/-- A recorded change is stored next, and nothing is stored that was not recorded. -/
def Changes (tr : Exchanges K) (o : RevisionOp K) : Prop :=
  match tr.head?.bind recorded with
  | some saved => o = .storePolicy saved.1
  | none => ∀ policy, o ≠ .storePolicy policy

/-- What a rollback makes of an older payload and the policy it has found. -/
abbrev Restoration (K : Kind) := K.Policy → K.Payload → K.Policy → Prop

/-- The change restores the payload: laid over the policy that was read, unless that does not matter. -/
structure Restoring (Restores : Restoration K) (payload : K.Payload) (expected : ℚ) (after : Exchanges K)
    (change : String → K.Policy × ConfigRevisionInput) : Prop where
  quiet : ∀ x ∈ after, recorded x = none
  expects : ∀ now, (change now).2.expectedRevision = some expected
  restores : ∀ now, (∃ previous, Restores previous payload (change now).1 ∧ ⟨.getPolicy, .ok previous⟩ ∈ after) ∨
    ∀ previous, Restores previous payload (change now).1

/-- The rule of `restore`, from where it begins. -/
def RestoresFrom (Restores : Restoration K) (payload : K.Payload) (expected : ℚ) (tr₀ tr : Exchanges K)
    (o : RevisionOp K) : Prop :=
  Changes tr o ∧ ∀ change, o = .saveConfigRevision change →
    ∃ after, tr = after ++ tr₀ ∧ Restoring Restores payload expected after change

/-- What a service has to keep to. -/
def Service.Keeps (S : Service K) (Restores : Restoration K) : Prop :=
  ∀ snapshot actorUserId expected tr, Settled tr →
    wp (RestoresFrom Restores snapshot.payload expected tr) (S.restore snapshot actorUserId expected) (fun _ _ => True) tr

/-- The rule of a call: a rollback restores what it has read, with the revision it has read unless it was given one. -/
def RevisionCall.Rule (Restores : Restoration K) (call : RevisionCall K) (tr : Exchanges K) (o : RevisionOp K) : Prop :=
  Changes tr o ∧ ∀ targetRevision actorUserId expectedRevision change,
    call = .rollback targetRevision actorUserId expectedRevision → o = .saveConfigRevision change →
    ∃ snapshot current after,
      tr = after ++ [⟨.getConfigRevision, .ok current⟩, ⟨.getConfigRevisionSnapshot targetRevision, .ok (some snapshot)⟩] ∧
        Restoring Restores snapshot.payload
          (expectedRevision.getD (current.elim 0 fun revision => (revision.revision : ℚ))) after change

section Programs

variable {tr tr₀ : Exchanges K} {Restores : Restoration K} {payload : K.Payload} {expected : ℚ} {α : Type}

theorem Changes.of_settled (h : Settled tr) {o : RevisionOp K} (ho : ∀ policy, o ≠ .storePolicy policy) : Changes tr o := by
  unfold Changes
  rw [show tr.head?.bind recorded = none from h]
  exact ho

/-- A change, in a program that keeps to a rule. -/
theorem wp_save {G : Exchanges K → RevisionOp K → Prop} {change : String → K.Policy × ConfigRevisionInput}
    {Q : Except RevisionFailure K.Policy → Exchanges K → Prop} (hrecord : G tr (.saveConfigRevision change))
    (hstore : ∀ saved, G (⟨.saveConfigRevision change, .ok saved⟩ :: tr) (.storePolicy saved.1))
    (hfail : ∀ error, Q (.error error) (⟨.saveConfigRevision change, .error error⟩ :: tr))
    (hend : ∀ saved (stored : Except RevisionFailure Unit),
      Q (stored.map fun _ => saved.1) (⟨.storePolicy saved.1, stored⟩ :: ⟨.saveConfigRevision change, .ok saved⟩ :: tr)) :
    wp G (save change) Q tr := by
  unfold save await
  rw [wp_bind, wp_await]
  refine ⟨hrecord, fun r => ?_⟩
  cases r with
  | error error => exact hfail error
  | ok saved =>
    rw [then_ok, wp_bind, wp_await]
    refine ⟨hstore saved, fun stored => ?_⟩
    cases stored with
    | error error => exact hend saved (.error error)
    | ok _ => exact hend saved (.ok ())

theorem restoresFrom_other {o : RevisionOp K} (h : Settled tr) (hstore : ∀ policy, o ≠ .storePolicy policy)
    (hrecord : ∀ change, o ≠ .saveConfigRevision change) : RestoresFrom Restores payload expected tr₀ tr o :=
  ⟨.of_settled h hstore, fun change ho => absurd ho (hrecord change)⟩

/-- The change of a rollback, and what follows it. -/
theorem wp_restore {change : String → K.Policy × ConfigRevisionInput} {Q : Except RevisionFailure α → Exchanges K → Prop}
    (after : Exchanges K) (htr : tr = after ++ tr₀) (h : Settled tr)
    (hchange : Restoring Restores payload expected after change) {rest : K.Policy → Task K α}
    (hfail : ∀ error tr, Q (.error error) tr)
    (hrest : ∀ policy tr, Settled tr → wp (RestoresFrom Restores payload expected tr₀) (rest policy) Q tr) :
    wp (RestoresFrom Restores payload expected tr₀) (save change >>= rest) Q tr := by
  rw [wp_bind]
  refine wp_save ⟨.of_settled h (by rintro _ ⟨⟩), ?_⟩ (fun saved => ⟨rfl, by rintro _ ⟨⟩⟩) (fun _ => hfail _ _)
    fun saved stored => ?_
  · rintro _ ⟨⟩
    exact ⟨after, htr, hchange⟩
  · cases stored with
    | error error => exact hfail _ _
    | ok _ => exact hrest saved.1 _ rfl

theorem reportRollback_rule (snapshot : ConfigRevisionSnapshot K.Payload) (actorUserId action : String) (h : Settled tr)
    {f : Unit → Task K α} (hf : ∀ tr, wp (RestoresFrom Restores payload expected tr₀) (f ()) (fun _ _ => True) tr) :
    wp (RestoresFrom Restores payload expected tr₀) (reportRollback snapshot actorUserId action >>= f) (fun _ _ => True) tr := by
  unfold reportRollback await
  rw [wp_bind, wp_bind, wp_await]
  refine ⟨restoresFrom_other h (by rintro _ ⟨⟩) (by rintro _ ⟨⟩), fun r => ?_⟩
  rcases r with error | _ | revision
  · trivial
  · trivial
  · rw [then_ok, wp_await]
    refine ⟨restoresFrom_other rfl (by rintro _ ⟨⟩) (by rintro _ ⟨⟩), fun r => ?_⟩
    cases r with
    | error error => trivial
    | ok _ => exact hf _

end Programs

/-- The older payload, with the fields it does not have taken from the policy that was found. -/
def instanceRestores : Restoration instancePolicy :=
  fun previous payload policy => normalizeProvisioningPolicyWithFallback payload previous = .ok policy

theorem instancePolicyService_keeps : instancePolicyService.Keeps instanceRestores := by
  intro snapshot actorUserId expected tr hsettled
  change wp _ (rollbackInstancePolicy snapshot actorUserId expected) _ tr
  unfold rollbackInstancePolicy await
  rw [wp_bind, wp_throwIf]
  refine ⟨fun _ => trivial, fun _ => ?_⟩
  rw [then_ok, wp_bind, wp_await]
  refine ⟨restoresFrom_other hsettled (by rintro _ ⟨⟩) (by rintro _ ⟨⟩), fun r => ?_⟩
  cases r with
  | error error => trivial
  | ok previous =>
  rw [then_ok, wp_bind, wp_fromExcept]
  cases hnormal : normalizeProvisioningPolicyWithFallback snapshot.payload previous with
  | error error => trivial
  | ok policy =>
  rw [then_ok, wp_bind, wp_await]
  refine ⟨restoresFrom_other rfl (by rintro _ ⟨⟩) (by rintro _ ⟨⟩), fun r => ?_⟩
  cases r with
  | error error => trivial
  | ok supported =>
  rw [then_ok, wp_bind, wp_throwIf]
  refine ⟨fun _ => trivial, fun _ => ?_⟩
  rw [then_ok, wp_bind, wp_await]
  refine ⟨restoresFrom_other rfl (by rintro _ ⟨⟩) (by rintro _ ⟨⟩), fun r => ?_⟩
  cases r with
  | error error => trivial
  | ok _ =>
  rw [then_ok]
  refine wp_restore [_, _, _] (by rfl) (by rfl) ⟨?_, fun now => rfl, fun now => .inl ⟨previous, hnormal, by simp⟩⟩
    (fun _ _ => trivial) ?_
  · simp [recorded]
  · exact fun policy tr hsettled => reportRollback_rule _ _ _ hsettled fun _ => trivial

/-- What the manager makes of the older payload, which has all its fields. -/
def forwardingRestores (settings : Forwarding.Settings) : Restoration forwarding :=
  fun previous payload policy => ∃ input actorUserId next now, forwardingPayload payload = .ok input ∧
    Forwarding.nextPolicy settings input actorUserId previous = .ok next ∧
    policy = { next with updatedAt := now }

theorem forwardingPayload_fields {payload : Option Forwarding.ForwardingPolicyInput} {input : Forwarding.ForwardingPolicyInput}
    (h : forwardingPayload payload = .ok input) : payload = some input ∧
      ∃ targetBaseUrl allowedHosts enabled,
        input = ⟨some (.string targetBaseUrl), some (.array allowedHosts), some (.boolean enabled)⟩ := by
  unfold forwardingPayload at h
  split at h
  · split at h
    · cases h
      exact ⟨rfl, _, _, _, rfl⟩
    · cases h
  · cases h

/-- The policy that is cached does not matter to a payload with all its fields. -/
theorem forwardingRestores_any {settings : Forwarding.Settings} {previous previous' policy : Forwarding.ForwardingPolicy}
    {payload : Option Forwarding.ForwardingPolicyInput} (h : forwardingRestores settings previous payload policy) :
    forwardingRestores settings previous' payload policy := by
  obtain ⟨input, actorUserId, next, now, hpayload, hnext, rfl⟩ := h
  obtain ⟨-, targetBaseUrl, allowedHosts, enabled, rfl⟩ := forwardingPayload_fields hpayload
  refine ⟨_, actorUserId, { next with updatedAt := previous'.updatedAt }, now, hpayload, ?_, rfl⟩
  rw [Forwarding.nextPolicy_given settings targetBaseUrl actorUserId allowedHosts enabled previous previous', hnext]
  rfl

theorem forwardingService_keeps (settings : Forwarding.Settings) :
    (forwardingService settings).Keeps (forwardingRestores settings) := by
  intro snapshot actorUserId expected tr hsettled
  change wp _ (rollbackForwarding settings snapshot actorUserId expected) _ tr
  unfold rollbackForwarding
  rw [wp_bind, wp_fromExcept]
  cases hpayload : forwardingPayload snapshot.payload with
  | error error => trivial
  | ok input =>
  rw [then_ok, wp_bind]
  unfold updateForwarding await
  rw [wp_bind, wp_await]
  refine ⟨restoresFrom_other hsettled (by rintro _ ⟨⟩) (by rintro _ ⟨⟩), fun r => ?_⟩
  cases r with
  | error error => trivial
  | ok current =>
  rw [then_ok, wp_bind, wp_fromExcept]
  cases hnext : Forwarding.nextPolicy settings input actorUserId current with
  | error error => trivial
  | ok next =>
  have hrestoring : Restoring (forwardingRestores settings) snapshot.payload expected
      [⟨.cachedPolicy, .ok current⟩] (forwardingChange next (some expected) none) := by
    refine ⟨by simp [recorded], fun now => rfl, fun now => .inr fun previous => ?_⟩
    exact forwardingRestores_any ⟨input, actorUserId, next, now, hpayload, hnext, rfl⟩
  rw [show (Except.mapError RevisionFailure.forwarding (.ok next) : Except RevisionFailure _) = .ok next from rfl, then_ok]
  refine wp_restore [_] (by rfl) (by rfl) hrestoring (fun _ _ => trivial) fun updated tr' hsettled => ?_
  rw [wp_bind, wp_await]
  refine ⟨restoresFrom_other hsettled (by rintro _ ⟨⟩) (by rintro _ ⟨⟩), fun r => ?_⟩
  cases r with
  | error error => trivial
  | ok _ => exact reportRollback_rule _ _ _ (by rfl) fun _ => trivial

section Body

variable {S : Service K} {Restores : Restoration K}

theorem rule_of_restoresFrom {targetRevision : ℚ} {actorUserId : String} {expectedRevision : Option ℚ}
    {snapshot : ConfigRevisionSnapshot K.Payload} {current : Option ConfigRevision} {tr : Exchanges K} {o : RevisionOp K}
    (h : RestoresFrom Restores snapshot.payload
      (expectedRevision.getD (current.elim 0 fun revision => (revision.revision : ℚ)))
      [⟨.getConfigRevision, .ok current⟩, ⟨.getConfigRevisionSnapshot targetRevision, .ok (some snapshot)⟩] tr o) :
    (RevisionCall.rollback targetRevision actorUserId expectedRevision).Rule Restores tr o := by
  refine ⟨h.1, ?_⟩
  rintro _ _ _ change ⟨⟩ ho
  obtain ⟨after, htr, hrestoring⟩ := h.2 change ho
  exact ⟨snapshot, current, after, htr, hrestoring⟩

theorem rule_other {call : RevisionCall K} {tr : Exchanges K} {o : RevisionOp K} (h : Settled tr)
    (hstore : ∀ policy, o ≠ .storePolicy policy) (hrecord : ∀ change, o ≠ .saveConfigRevision change) :
    call.Rule Restores tr o :=
  ⟨.of_settled h hstore, fun _ _ _ change _ ho => absurd ho (hrecord change)⟩

theorem rollback_rule (hS : S.Keeps Restores) (targetRevision : ℚ) (actorUserId : String) (expectedRevision : Option ℚ) :
    wp ((RevisionCall.rollback targetRevision actorUserId expectedRevision).Rule Restores)
      (rollback S targetRevision actorUserId expectedRevision) (fun _ _ => True) [] := by
  unfold rollback await
  rw [wp_bind, wp_throwIf]
  refine ⟨fun _ => trivial, fun _ => ?_⟩
  rw [then_ok, wp_bind, wp_await]
  refine ⟨rule_other rfl (by rintro _ ⟨⟩) (by rintro _ ⟨⟩), fun r => ?_⟩
  rcases r with error | _ | snapshot
  · trivial
  · trivial
  rw [then_ok, wp_bind, wp_await]
  refine ⟨rule_other rfl (by rintro _ ⟨⟩) (by rintro _ ⟨⟩), fun r => ?_⟩
  cases r with
  | error error => trivial
  | ok current =>
    rw [then_ok]
    exact wp_mono (hS snapshot actorUserId _ _ rfl) (fun _ _ h => rule_of_restoresFrom h) fun _ _ h => h

theorem body_rule (hS : S.Keeps Restores) (call : RevisionCall K) :
    wp (call.Rule Restores) (call.body S) (Continues fun call' tr => call' = call ∧ tr = []) [] := by
  -- no call goes on with another one
  have ends {β : Type} {p : Task K β} {f : β → Option K.Policy} (h : wp (call.Rule Restores) p (fun _ _ => True) []) :
      wp (call.Rule Restores) (p >>= fun b => pure (Sum.inr (f b)) : Task K (RevisionCall K ⊕ Option K.Policy))
        (Continues fun call' tr => call' = call ∧ tr = []) [] := by
    rw [wp_bind]
    refine wp_post h fun r tr _ => ?_
    cases r <;> trivial
  cases call with
  | save change =>
    exact ends (wp_save ⟨.of_settled (by rfl) (by rintro _ ⟨⟩), by rintro _ _ _ _ ⟨⟩⟩ (fun _ => ⟨rfl, by rintro _ _ _ _ ⟨⟩⟩)
      (fun _ => trivial) fun _ _ => trivial)
  | rollback targetRevision actorUserId expectedRevision => exact ends (rollback_rule hS _ _ _)
  | history limit =>
    exact ends ((wp_await _ _).2 ⟨rule_other rfl (by rintro _ ⟨⟩) (by rintro _ ⟨⟩), fun _ => trivial⟩)
  | getPolicy =>
    exact ends ((wp_await _ _).2 ⟨rule_other rfl (by rintro _ ⟨⟩) (by rintro _ ⟨⟩), fun _ => trivial⟩)

end Body

end OpenApp.Revisions
