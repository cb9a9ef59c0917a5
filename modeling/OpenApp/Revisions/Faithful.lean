import OpenApp.Revisions.Log

/-!
# What the history says

For every run: the numbers go up by one, the history is what was recorded, the policy in force is the
payload of the latest change that was stored, and a rollback brings an older payload back.
-/

namespace OpenApp.Revisions

open Async Async.Prog Keyed Policy

variable {K : Kind} {ι : Type} [DecidableEq ι]

/-! ## What a call does to the store -/

/-- What a recording leaves. -/
def Store.record (s : Store K) (saved : K.Policy × ConfigRevision) : Store K :=
  { s with revision := some saved.2, history := (entryOf saved :: s.history).take Store.KEPT }

inductive Effect (s : Store K) : Exchange (RevisionOp K) RevisionOp.Answer RevisionFailure → Store K → Prop
  | record (change : String → K.Policy × ConfigRevisionInput) (now : String) (saved : K.Policy × ConfigRevision)
    (policy : saved.1 = (change now).1) (number : saved.2.revision = s.number + 1)
    (expected : ∀ expected ∈ (change now).2.expectedRevision, expected = (s.number : ℚ)) :
    Effect s ⟨.saveConfigRevision change, .ok saved⟩ (s.record saved)
  | store (policy : K.Policy) (stored : Except RevisionFailure Unit) : Effect s ⟨.storePolicy policy, stored⟩ (s.storePolicy policy)
  | same {x : Exchange (RevisionOp K) RevisionOp.Answer RevisionFailure} (unrecorded : recorded x = none)
    (unstored : ∀ policy, x.op ≠ .storePolicy policy) : Effect s x s

theorem effect_of_perform {S : Service K} {s s' : Store K} {o : RevisionOp K} {x : RevisionChoice K}
    {r : Except RevisionFailure o.Answer} (h : s.perform S o x = some (r, s')) : Effect s ⟨o, r⟩ s' := by
  cases o with
  | saveConfigRevision change =>
    cases x with
    | clock now =>
      simp only [Store.perform, Store.saveConfigRevision] at h
      split at h
      · next revision s'' heq =>
        split at heq
        · cases heq
        · next hexpected =>
          obtain ⟨rfl, rfl⟩ := Prod.mk.inj (Option.some.inj h)
          obtain ⟨rfl, rfl⟩ := Prod.mk.inj (Except.ok.inj heq)
          refine .record change now _ rfl rfl fun expected hmem => ?_
          rw [Option.mem_def] at hmem
          simpa [hmem] using hexpected
      · obtain ⟨rfl, rfl⟩ := Prod.mk.inj (Option.some.inj h)
        exact .same rfl (by rintro _ ⟨⟩)
    | _ => cases h
  | storePolicy policy =>
    cases x with
    | go =>
      cases h
      exact .store policy _
    | _ => cases h
  | getPolicy =>
    cases x with
    | go =>
      obtain ⟨_, rfl⟩ := Prod.mk.inj (Option.some.inj h)
      exact .same rfl (by rintro _ ⟨⟩)
    | _ => cases h
  | _ =>
    cases x <;> first
      | (cases h; exact .same rfl (by rintro _ ⟨⟩))
      | cases h

/-! ## The numbers and the history -/

/-- Numbers that go down by one. -/
def Numbered : Nat → List (ConfigRevisionSnapshot K.Payload) → Prop
  | _, [] => True
  | n, snapshot :: rest => snapshot.revision = n ∧ 0 < n ∧ Numbered (n - 1) rest

/-- A store whose history is a history of its policy; a new one has none. -/
structure Consistent (s : Store K) : Prop where
  numbered : Numbered s.number s.history
  kept : s.history.length ≤ Store.KEPT
  current : ∀ snapshot ∈ s.history.head?, s.inForce.map K.payloadOf = some snapshot.payload

/-- The changes that were recorded in a run. -/
def recordings (es : List (RevisionEvent ι K)) : Nat :=
  (es.filter fun e => (recorded e.toExchange).isSome).length

/-- The history at some point of a run. -/
structure Kept (s₀ : Store K) (es : List (RevisionEvent ι K)) (s : Store K) : Prop where
  number : s.number = s₀.number + recordings es
  numbered : Numbered s.number (log s₀ es)
  kept : s.history = (log s₀ es).take Store.KEPT

/-- What was cut off stays cut off. -/
theorem take_cons_take {α : Type} (n : Nat) (a : α) (l : List α) : (a :: l.take n).take n = (a :: l).take n := by
  cases n with
  | zero => rfl
  | succ n => rw [List.take_succ_cons, List.take_succ_cons, List.take_take, Nat.min_eq_left (Nat.le_succ n)]

theorem kept_of_legal {S : Service K} {s₀ s : Store K} (h₀ : Consistent s₀)
    {G : ι → Exchanges K → RevisionOp K → Prop} {es : List (RevisionEvent ι K)} (hl : Legal (revisionSystem S) G s₀ es s) :
    Kept s₀ es s := by
  induction hl with
  | start => exact ⟨rfl, h₀.numbered, (List.take_of_length_le h₀.kept).symm⟩
  | @record es s s' t o x r hl hp _ ih =>
    have heffect := effect_of_perform hp
    cases heffect with
    | record change now saved policy number expected =>
      refine ⟨?_, ?_, ?_⟩
      · change saved.2.revision = s₀.number + recordings (_ :: es)
        rw [number, ih.number]
        simp [recordings, recorded, Nat.add_assoc]
      · change Numbered saved.2.revision (entryOf saved :: log s₀ es)
        rw [number]
        exact ⟨number, Nat.succ_pos _, ih.numbered⟩
      · change (entryOf saved :: s.history).take Store.KEPT = (entryOf saved :: log s₀ es).take Store.KEPT
        rw [ih.kept]
        exact take_cons_take _ _ _
    | store policy stored =>
      refine ⟨?_, ih.numbered, ih.kept⟩
      change s.number = _
      rw [ih.number]
      simp [recordings, recorded]
    | same unrecorded unstored =>
      have hlog : log s₀ (⟨⟨o, r⟩, t, s, s⟩ :: es) = log s₀ es := by simp [log, unrecorded]
      exact ⟨by rw [ih.number]; simp [recordings, unrecorded], hlog ▸ ih.numbered, hlog ▸ ih.kept⟩

/-! ## The policy in force -/

/-- The latest entries are those that wait to be stored; the one behind them is in force. -/
def Current (s₀ : Store K) (es : List (RevisionEvent ι K)) (s : Store K) : Prop :=
  ∃ unstored stored, log s₀ es = unstored ++ stored ∧
    unstored.map (·.payload) = (pending es).map (fun p => K.payloadOf p.2) ∧
    ∀ snapshot ∈ stored.head?, s.inForce.map K.payloadOf = some snapshot.payload

variable {S : Service K} {s₀ s s' : Store K} {es : List (RevisionEvent ι K)}

/-- A thread with nothing to store leaves what is pending as it is. -/
theorem pending_filter {t : ι} (h : (traceOf t es).head?.bind recorded = none) :
    ((pending es).filter fun p => p.1 ≠ t) = pending es :=
  List.filter_eq_self.2 fun p hp => by simpa using not_pending h p hp

theorem settled_of_changes {tr : Exchanges K} {o : RevisionOp K} (h : Changes tr o) (ho : ∀ policy, o ≠ .storePolicy policy) :
    tr.head?.bind recorded = none := by
  unfold Changes at h
  split at h
  · next saved _ => exact absurd h (ho saved.1)
  · next hnone => exact hnone

theorem recorded_of_changes {tr : Exchanges K} {policy : K.Policy} (h : Changes tr (.storePolicy policy)) :
    (tr.head?.bind recorded).map Prod.fst = some policy := by
  unfold Changes at h
  split at h
  · next saved hsaved =>
    obtain rfl := RevisionOp.storePolicy.inj h
    rw [hsaved]
    rfl
  · exact absurd rfl (h policy)

/-- In turn, the change that is stored is the one that has waited longest. -/
theorem pending_last {t : ι} {q : K.Policy} {e : RevisionEvent ι K} (ht : e.thread = t)
    (hrecorded : ((traceOf t es).head?.bind recorded).map Prod.fst = some q) (hturn : InTurn es e) :
    ∃ newer, pending es = newer ++ [(t, q)] ∧ ∀ p ∈ newer, p.1 ≠ t := by
  subst ht
  obtain ⟨newer, older, hsplit, hother, hbefore⟩ := pending_split hrecorded
  cases older with
  | nil => exact ⟨newer, hsplit, fun p hp => hother p (List.mem_append_left _ hp)⟩
  | cons p older =>
    exact absurd (hbefore p List.mem_cons_self)
      (hturn p (by rw [hsplit]; simp) (hother p (List.mem_append_right _ List.mem_cons_self)))

theorem current_of_legal (h₀ : Consistent s₀) (hl : Legal (revisionSystem S) (fun _ => Changes) s₀ es s)
    (hturn : Every InTurn es) : Current s₀ es s := by
  induction hl with
  | start => exact ⟨[], s₀.history, rfl, rfl, h₀.current⟩
  | @record es s s' t o x r hl hp hrule ih =>
    obtain ⟨unstored, stored, hlog, hwaiting, hcurrent⟩ := ih hturn.2
    have heffect := effect_of_perform hp
    cases heffect with
    | record change now saved policy number expected =>
      have hsettled := settled_of_changes hrule (by rintro _ ⟨⟩)
      refine ⟨entryOf saved :: unstored, stored, ?_, ?_, hcurrent⟩
      · change entryOf saved :: log s₀ es = _
        rw [hlog, List.cons_append]
      · change K.payloadOf saved.1 :: unstored.map (·.payload) =
          ((t, saved.1) :: (pending es).filter fun p => p.1 ≠ t).map fun p => K.payloadOf p.2
        rw [pending_filter hsettled, List.map_cons, hwaiting]
    | store policy answer =>
      obtain ⟨newer, hlast, hother⟩ := pending_last rfl (recorded_of_changes hrule) hturn.1
      have hleft : pending (⟨⟨.storePolicy policy, answer⟩, t, s, s.storePolicy policy⟩ :: es) = newer := by
        change ((pending es).filter fun p => p.1 ≠ t) = newer
        rw [hlast, List.filter_append, List.filter_eq_self.2 (fun p hp => by simpa using hother p hp)]
        simp
      rw [hlast, List.map_append, List.map_eq_append_iff] at hwaiting
      obtain ⟨waiting, last, rfl, hnewer, hentry⟩ := hwaiting
      obtain ⟨snapshot, rfl, hpayload⟩ := List.map_eq_singleton_iff.1 hentry
      refine ⟨waiting, snapshot :: stored, ?_, by rw [hleft, hnewer], ?_⟩
      · change log s₀ es = _
        rw [hlog, List.append_assoc]
        rfl
      · intro snapshot' hhead
        obtain rfl : snapshot = snapshot' := by simpa using hhead
        exact congrArg some hpayload.symm
    | same unrecorded unstored' =>
      have hsettled := settled_of_changes hrule unstored'
      refine ⟨unstored, stored, ?_, ?_, hcurrent⟩
      · rw [← hlog]
        simp [log, unrecorded]
      · rw [hwaiting, pending, unrecorded]
        exact congrArg _ (pending_filter hsettled).symm

/-! ## Rollbacks -/

/-- The payload is restored over the policy that is found in the store, unless that does not matter. -/
def RestoredOver (S : Service K) (Restores : Restoration K) (s : Store K) (payload : K.Payload) (policy : K.Policy) : Prop :=
  (∃ previous, S.getPolicy s = .ok previous ∧ Restores previous payload policy) ∨
    ∀ previous, Restores previous payload policy

/-- What a rollback records is an older payload, over a policy it found: the one that is current, where the revision to
expect was not given. -/
def RollsBack (S : Service K) (Restores : Restoration K) (calls : ι → RevisionCall K) (s₀ : Store K)
    (es : List (RevisionEvent ι K)) (e : RevisionEvent ι K) : Prop :=
  ∀ targetRevision actorUserId expectedRevision saved,
    calls e.thread = .rollback targetRevision actorUserId expectedRevision → recorded e.toExchange = some saved →
    ∃ snapshot ∈ log s₀ es, (snapshot.revision : ℚ) = targetRevision ∧
      (∃ found ∈ e :: es, RestoredOver S Restores found.before snapshot.payload saved.1) ∧
      (expectedRevision = none → RestoredOver S Restores e.before snapshot.payload saved.1)

omit [DecidableEq ι] in
theorem recordings_append (later : List (RevisionEvent ι K)) :
    recordings (later ++ es) = recordings later + recordings es := by
  simp [recordings]

omit [DecidableEq ι] in
theorem quiet_of_recordings {later : List (RevisionEvent ι K)} (h : recordings later = 0) :
    ∀ e ∈ later, recorded e.toExchange = none := by
  intro e he
  have := List.filter_eq_nil_iff.1 (List.length_eq_zero_iff.1 h) e he
  simpa using this

/-- With nothing pending, only a recording changes the store. -/
theorem unchanged_of_quiet {e : RevisionEvent ι K} {later : List (RevisionEvent ι K)}
    (hl : Legal (revisionSystem S) (fun _ => Changes) s₀ (later ++ e :: es) s)
    (hquiet : ∀ e' ∈ later ++ [e], recorded e'.toExchange = none) (hnone : pending es = []) : s = e.before := by
  -- a thread that stores has its change pending
  have step {es' : List (RevisionEvent ι K)} {t : ι} {o : RevisionOp K} {x : RevisionChoice K}
      {r : Except RevisionFailure o.Answer} {s s' : Store K} (hp : s.perform S o x = some (r, s'))
      (hrule : Changes (traceOf t es') o) (hrec : recorded ⟨o, r⟩ = none) (hnone : pending es' = []) : s' = s := by
    cases effect_of_perform hp with
    | record change now saved policy number expected => cases hrec
    | store policy answer =>
      have hpending := mem_pending.2 (recorded_of_changes hrule)
      rw [hnone] at hpending
      cases hpending
    | same unrecorded unstored => rfl
  induction later generalizing s with
  | nil =>
    cases hl with
    | record hl hp hrule => exact step hp hrule (hquiet _ (List.mem_singleton_self _)) hnone
  | cons e' later ih =>
    cases hl with
    | record hl hp hrule =>
      have hquiet' : ∀ e' ∈ later ++ [e], recorded e'.toExchange = none := fun e' he' => hquiet e' (List.mem_cons_of_mem _ he')
      rw [← ih hl hquiet']
      refine step hp hrule (hquiet _ List.mem_cons_self) (List.eq_nil_iff_forall_not_mem.2 fun p hp => ?_)
      have hp : p ∈ pending ((later ++ [e]) ++ es) := List.append_cons later e es ▸ hp
      replace hp := pending_of_quiet hquiet' p hp
      rw [hnone] at hp
      cases hp

/-- A thread that takes two steps while nothing is recorded finds nothing pending at the second. -/
theorem nothing_pending {e e' : RevisionEvent ι K} {later : List (RevisionEvent ι K)} (ht : e.thread = e'.thread)
    (hturn : InTurn (later ++ e :: es) e') (hquiet : ∀ e'' ∈ later ++ [e], recorded e''.toExchange = none)
    (hsettled : (traceOf e'.thread (later ++ e :: es)).head?.bind recorded = none) : pending (later ++ e :: es) = [] := by
  refine List.eq_nil_iff_forall_not_mem.2 fun p hp => ?_
  exact hturn p hp (not_pending hsettled p hp) (ht ▸ pendingBefore_of_quiet hquiet p hp)

section Reads

omit [DecidableEq ι]

variable {e : RevisionEvent ι K} (hp : ∃ x, e.before.perform S e.op x = some (e.answer, e.after))

include hp

theorem found_of_getPolicy {previous : K.Policy} (h : e.toExchange = ⟨.getPolicy, .ok previous⟩) :
    S.getPolicy e.before = .ok previous := by
  obtain ⟨⟨o, r⟩, t, b, a⟩ := e
  cases h
  obtain ⟨x, hx⟩ := hp
  cases x with
  | go => exact (Prod.mk.inj (Option.some.inj hx)).1
  | _ => cases hx

theorem found_of_getConfigRevision {current : Option ConfigRevision} (h : e.toExchange = ⟨.getConfigRevision, .ok current⟩) :
    current = e.before.revision := by
  obtain ⟨⟨o, r⟩, t, b, a⟩ := e
  cases h
  obtain ⟨x, hx⟩ := hp
  cases x with
  | go => exact (Except.ok.inj (Prod.mk.inj (Option.some.inj hx)).1).symm
  | _ => cases hx

theorem found_of_getConfigRevisionSnapshot {revision : ℚ} {snapshot : ConfigRevisionSnapshot K.Payload}
    (h : e.toExchange = ⟨.getConfigRevisionSnapshot revision, .ok (some snapshot)⟩) :
    snapshot ∈ e.before.history ∧ (snapshot.revision : ℚ) = revision := by
  obtain ⟨⟨o, r⟩, t, b, a⟩ := e
  cases h
  obtain ⟨x, hx⟩ := hp
  cases x with
  | go =>
    have hfound : b.history.find? _ = some snapshot := Except.ok.inj (Prod.mk.inj (Option.some.inj hx)).1
    exact ⟨List.mem_of_find?_eq_some hfound, by simpa using List.find?_some hfound⟩
  | _ => cases hx

end Reads

omit [DecidableEq ι] in
theorem log_append (later : List (RevisionEvent ι K)) :
    ∀ snapshot ∈ log s₀ es, snapshot ∈ log s₀ (later ++ es) := by
  induction later with
  | nil => exact fun _ h => h
  | cons e later ih => exact fun snapshot h => List.mem_append_right _ (ih snapshot h)

variable {Restores : Restoration K} {calls : ι → RevisionCall K}

/-- Nothing was recorded between two moments with the same number. -/
theorem quiet_of_number (h₀ : Consistent s₀) {G : ι → Exchanges K → RevisionOp K → Prop} {e : RevisionEvent ι K}
    {later : List (RevisionEvent ι K)} (hl : Legal (revisionSystem S) G s₀ (later ++ e :: es) s)
    (hnumber : e.before.number = s.number) : ∀ e' ∈ later ++ [e], recorded e'.toExchange = none := by
  have hnow := (kept_of_legal h₀ hl).number
  have hthen := (kept_of_legal h₀ hl.suffix.1).number
  rw [List.append_cons, recordings_append] at hnow
  exact quiet_of_recordings (by omega)

theorem rollsBack_of_legal (h₀ : Consistent s₀)
    (hl : Legal (revisionSystem S) (fun t => (calls t).Rule Restores) s₀ es s) (hturn : Every InTurn es) :
    Every (RollsBack S Restores calls s₀) es := by
  induction hl with
  | start => trivial
  | @record es s s' t o x r hl hp hrule ih =>
    refine ⟨?_, ih hturn.2⟩
    intro targetRevision actorUserId expectedRevision saved hcall hrec
    cases effect_of_perform hp with
    | store policy answer => cases hrec
    | same unrecorded unstored =>
      rw [unrecorded] at hrec
      cases hrec
    | record change now saved policy number expected =>
    cases hrec
    obtain ⟨snapshot, current, after, htr, hrestoring⟩ := hrule.2 _ _ _ change hcall rfl
    -- the older payload was read first
    obtain ⟨later, e₀, es₀, hsplit, ht₀, hx₀, -, -⟩ := exists_event_of_traceOf (after ++ [⟨.getConfigRevision, .ok current⟩])
      (by rw [htr, List.append_assoc]; rfl)
    have hread := found_of_getConfigRevisionSnapshot (hsplit ▸ hl).suffix.2.2 hx₀
    have hmem : snapshot ∈ log s₀ es := by
      rw [hsplit]
      refine log_append _ _ (List.mem_append_right _ ?_)
      rw [(kept_of_legal h₀ (hsplit ▸ hl).suffix.1).kept] at hread
      exact List.mem_of_mem_take hread.1
    refine ⟨snapshot, hmem, hread.2, ?_⟩
    rcases hrestoring.restores now with ⟨previous, hrestores, hfound⟩ | hany
    · -- then the revision, and then the policy
      obtain ⟨later₁, e₁, es₁, hsplit₁, ht₁, hx₁, -, htr₁⟩ := exists_event_of_traceOf after htr
      obtain ⟨e₂, he₂, ht₂, hx₂⟩ := event_of_mem_traceOf (htr₁ ▸ hfound)
      obtain ⟨later₂, between, rfl⟩ := List.append_of_mem he₂
      have hsplit₂ : es = later₂ ++ e₂ :: (between ++ e₁ :: es₁) := by
        rw [hsplit₁, List.append_assoc]
        rfl
      have hl₂ := hsplit₂ ▸ hl
      have hprevious := found_of_getPolicy hl₂.suffix.2.2 hx₂
      rw [← policy] at hrestores
      refine ⟨⟨e₂, List.mem_cons_of_mem _ (by rw [hsplit₂]; simp), .inl ⟨previous, hprevious, hrestores⟩⟩, ?_⟩
      rintro rfl
      have hnumber : e₁.before.number = s.number := by
        have hexpected := expected _ (hrestoring.expects now)
        rw [found_of_getConfigRevision (hsplit₁ ▸ hl).suffix.2.2 hx₁] at hexpected
        unfold Store.number at hexpected ⊢
        cases hrevision : e₁.before.revision with
        | none => exact Nat.cast_injective (R := ℚ) (by simpa [hrevision] using hexpected)
        | some revision => simpa [hrevision] using hexpected
      have hquiet := quiet_of_number h₀ (hsplit₁ ▸ hl) hnumber
      -- the thread finds nothing pending when it reads the policy, so what it reads stays
      have hnone : pending (between ++ e₁ :: es₁) = [] := by
        refine nothing_pending (ht₁.trans ht₂.symm) (hsplit₂ ▸ hturn.2).at (fun e he => hquiet e ?_) ?_
        · rw [List.append_assoc]
          exact List.mem_append_right _ (List.mem_cons_of_mem _ he)
        · refine settled_of_changes hl₂.suffix.2.1.1 ?_
          rw [show e₂.op = .getPolicy from congrArg Exchange.op hx₂]
          rintro _ ⟨⟩
      have hsame := unchanged_of_quiet (hl₂.imp fun _ _ _ h => h.1) (fun e he => hquiet e ?_) hnone
      · exact .inl ⟨previous, hsame ▸ hprevious, hrestores⟩
      · rw [List.append_assoc]
        rcases List.mem_append.1 he with he | he
        · exact List.mem_append_left _ he
        · exact List.mem_append_right _ (by simpa using .inl (List.mem_singleton.1 he))
    · exact ⟨⟨_, List.mem_cons_self, .inr fun previous => policy ▸ hany previous⟩, fun _ => .inr fun previous => policy ▸ hany previous⟩

/-! ## The log of a run -/

/-- Only a recording and the storing of what was recorded change anything. -/
def Untouched (_ : List (RevisionEvent ι K)) (e : RevisionEvent ι K) : Prop :=
  recorded e.toExchange = none → (∀ policy, e.op ≠ .storePolicy policy) → e.after = e.before

/-- A thread stores what it has recorded. -/
def StoresRecorded (es : List (RevisionEvent ι K)) (e : RevisionEvent ι K) : Prop :=
  ∀ policy, e.op = .storePolicy policy → (e.thread, policy) ∈ pending es

/-- A change that expects another revision records nothing. -/
def RefusesStale (_ : List (RevisionEvent ι K)) (e : RevisionEvent ι K) : Prop :=
  ∀ change, e.op = .saveConfigRevision change →
    (∀ now, ∃ expected ∈ (change now).2.expectedRevision, expected ≠ (e.before.number : ℚ)) →
    recorded e.toExchange = none

structure FaithfulLog (S : Service K) (Restores : Restoration K) (calls : ι → RevisionCall K) (s₀ : Store K)
    (es : List (RevisionEvent ι K)) (s : Store K) : Prop where
  gapless : Numbered s.number (log s₀ es)
  kept : s.history = (log s₀ es).take Store.KEPT
  current : Current s₀ es s
  untouched : Every Untouched es
  stores : Every StoresRecorded es
  refuses : Every RefusesStale es
  restores : Every (RollsBack S Restores calls s₀) es

/-- Every run over a consistent store leaves a faithful log, at each of its moments. -/
def FaithfulRuns (S : Service K) (Restores : Restoration K) : Prop :=
  ∀ (ι : Type) [DecidableEq ι] (calls : ι → RevisionCall K) (s₀ : Store K) (sched : List (ι × RevisionChoice K))
    (c : Config ι (RevisionOp K) RevisionOp.Answer RevisionFailure (Store K) (RevisionCall K) (Option K.Policy)),
    Consistent s₀ → exec (revisionSystem S) (start (revisionSystem S) s₀ calls) sched = some c → Every InTurn c.events →
    FaithfulLog S Restores calls s₀ c.events c.world

theorem faithfulRuns_of_keeps (hS : S.Keeps Restores) : FaithfulRuns S Restores := by
  intro ι _ calls s₀ sched c h₀ hrun hturn
  have hl : Legal (revisionSystem S) (fun t => (calls t).Rule Restores) s₀ c.events c.world :=
    legal_of_exec (J := fun t call tr => call = calls t ∧ tr = []) (fun t => ⟨rfl, rfl⟩)
      (by rintro t _ _ ⟨rfl, rfl⟩; exact body_rule hS (calls t)) hrun
  have hchanges := hl.imp fun _ _ _ (h : RevisionCall.Rule _ _ _ _) => h.1
  refine ⟨(kept_of_legal h₀ hl).numbered, (kept_of_legal h₀ hl).kept, current_of_legal h₀ hchanges hturn, ?_, ?_, ?_,
    rollsBack_of_legal h₀ hl hturn⟩
  · refine hl.every fun es s s' t o x r _ _ hp _ => ?_
    intro unrecorded unstored
    cases effect_of_perform hp with
    | record change now saved policy number expected => cases unrecorded
    | store policy answer => exact absurd rfl (unstored policy)
    | same _ _ => rfl
  · refine hchanges.every fun es s s' t o x r _ _ _ hrule => ?_
    rintro policy rfl
    exact mem_pending.2 (recorded_of_changes hrule)
  · refine hl.every fun es s s' t o x r _ _ hp _ => ?_
    rintro change rfl hstale
    cases effect_of_perform hp with
    | record _ now saved policy number expected =>
      obtain ⟨other, hmem, hne⟩ := hstale now
      exact absurd (expected other hmem) hne
    | same unrecorded _ => exact unrecorded

theorem instanceRestores_valid {policy : ProvisioningPolicy} (hvalid : Valid policy) {previous restored : ProvisioningPolicy} :
    instanceRestores previous (policyJson policy) restored ↔ restored = policy := by
  unfold instanceRestores normalizeProvisioningPolicyWithFallback
  rw [updateProvisioningPolicy_complete hvalid]
  exact ⟨fun h => (Except.ok.inj h).symm, fun h => congrArg Except.ok h.symm⟩

theorem forwardingRestores_normal {settings : Forwarding.Settings} {policy previous restored : Forwarding.ForwardingPolicy}
    (hnormal : policy.Normal) (h : forwardingRestores settings previous (forwarding.payloadOf policy) restored) :
    forwarding.payloadOf restored = forwarding.payloadOf policy := by
  obtain ⟨input, actorUserId, next, now, hpayload, hnext, rfl⟩ := h
  obtain ⟨hinput, -⟩ := forwardingPayload_fields hpayload
  obtain rfl := Option.some.inj hinput
  obtain ⟨htarget, hhosts, henabled⟩ := Forwarding.nextPolicy_again hnormal hnext
  simp [htarget, hhosts, henabled]

/-- The history of either key is a faithful log, and a payload that was valid is restored as it is. -/
theorem configHistory_faithful :
    (FaithfulRuns instancePolicyService instanceRestores ∧
      ∀ policy previous restored, Valid policy → (instanceRestores previous (policyJson policy) restored ↔ restored = policy)) ∧
    ∀ settings, FaithfulRuns (forwardingService settings) (forwardingRestores settings) ∧
      ∀ policy previous restored, policy.Normal →
        forwardingRestores settings previous (forwarding.payloadOf policy) restored →
          forwarding.payloadOf restored = forwarding.payloadOf policy :=
  ⟨⟨faithfulRuns_of_keeps instancePolicyService_keeps, fun _ _ _ hvalid => instanceRestores_valid hvalid⟩,
    fun settings => ⟨faithfulRuns_of_keeps (forwardingService_keeps settings), fun _ _ _ => forwardingRestores_normal⟩⟩

namespace Sample

def hourly : ProvisioningPolicy :=
  { DEFAULT_GENERIC_PROVISIONING_POLICY with idleStopMinutes := 60 }

/-- A store in which nothing was saved yet. -/
def fresh : Store instancePolicy where
  policy := none
  fallback := some DEFAULT_GENERIC_PROVISIONING_POLICY
  revision := none
  history := []

/-- An administrator who saves a policy, and somebody who reads it. -/
def saveAndRead : Bool → RevisionCall instancePolicy
  | true => .save fun _ => provisioningChange hourly none (some "admin") none none
  | false => .getPolicy

def saveThenRead : List (Bool × RevisionChoice instancePolicy) := [(true, .clock "t1"), (false, .go)]

end Sample

open Sample in
/-- The log of a save, and a valid policy that is restored. -/
theorem configHistory_faithful_fresh : ∃ c,
    exec (revisionSystem instancePolicyService) (start (revisionSystem instancePolicyService) fresh saveAndRead)
      (saveThenRead ++ [(true, .go)]) = some c ∧ c.events.length = 3 ∧
      FaithfulLog instancePolicyService instanceRestores saveAndRead fresh c.events c.world ∧
      instanceRestores hourly (policyJson DEFAULT_GENERIC_PROVISIONING_POLICY) DEFAULT_GENERIC_PROVISIONING_POLICY := by
  obtain ⟨c, hrun, hlength, hturn⟩ : ∃ c,
      exec (revisionSystem instancePolicyService) (start (revisionSystem instancePolicyService) fresh saveAndRead)
        (saveThenRead ++ [(true, .go)]) = some c ∧ c.events.length = 3 ∧ Every InTurn c.events :=
    exists_of_any (by decide +kernel)
  have hvalid : Valid DEFAULT_GENERIC_PROVISIONING_POLICY :=
    ⟨by decide +kernel, ⟨by decide +kernel, by decide +kernel, by decide +kernel⟩,
      ⟨by decide +kernel, by decide +kernel, by decide +kernel⟩, ⟨by decide +kernel, by decide +kernel, by decide +kernel⟩,
      by decide +kernel, by decide +kernel, by decide +kernel, by decide +kernel, by decide +kernel,
      ⟨by decide +kernel, by decide +kernel, by decide +kernel⟩,
      ⟨by decide, by simp [DEFAULT_GENERIC_PROVISIONING_POLICY, Table.empty], by decide⟩,
      ⟨by decide, by simp [DEFAULT_GENERIC_PROVISIONING_POLICY, Table.empty], by decide⟩⟩
  exact ⟨c, hrun, hlength, configHistory_faithful.1.1 Bool saveAndRead fresh _ c ⟨trivial, by decide, by rintro _ ⟨⟩⟩ hrun hturn,
    (configHistory_faithful.1.2 _ hourly _ hvalid).2 rfl⟩

open Sample in
/-- Whoever reads the policy before the save has stored it finds a policy that is not the one of the highest revision. -/
theorem currentPolicy_behind : ∃ c,
    exec (revisionSystem instancePolicyService) (start (revisionSystem instancePolicyService) fresh saveAndRead)
      saveThenRead = some c ∧ c.events.length = 2 ∧ Every InTurn c.events ∧
      c.world.inForce.map instancePolicy.payloadOf ≠ c.world.history.head?.map (·.payload) := by
  refine ⟨_, rfl, rfl, by decide +kernel, ?_⟩
  change some (policyJson DEFAULT_GENERIC_PROVISIONING_POLICY) ≠ some (policyJson hourly)
  simp [policyJson, policyEntries, hourly, DEFAULT_GENERIC_PROVISIONING_POLICY]

end OpenApp.Revisions
