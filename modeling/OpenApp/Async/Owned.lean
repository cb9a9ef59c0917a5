import OpenApp.Async.Interleave

/-!
# What a thread has to itself

Two ways for a thread to rely on the world although others write to it. A lock: if a thread gives back only
what it has taken, at most one thread holds the lock at any time, and what only a holder may change stays as
a holder has found it. A new name: what the world hands out once is known to no other thread.
-/

namespace Async

variable {Op : Type} {Ans : Op → Type} {ε W C σ α ι κ N : Type}

/-! ## Locks -/

/-- The calls that take a lock, and those that give it back. -/
structure Lock (Op : Type) where
  takes : Op → Bool
  releases : Op → Bool

namespace Lock

variable (L : Lock Op)

/-- The exchange has taken the lock. -/
def acquired (x : Exchange Op Ans ε) : Bool :=
  L.takes x.op && x.answer.isOk

/-- The thread has taken the lock and not given it back. -/
def holding : Trace Op Ans ε → Bool
  | [] => false
  | x :: tr => if L.releases x.op then false else L.acquired x || holding tr

/-- The world keeps the lock: it is given to one who asks while nobody has it. -/
structure Guards (S : System Op Ans ε W C σ α) (held : W → Bool) : Prop where
  acquire : ∀ {w w' o c r}, S.perform w o c = some (r, w') → L.acquired (⟨o, r⟩ : Exchange Op Ans ε) = true →
    held w = false ∧ held w' = true
  other : ∀ {w w' o c r}, S.perform w o c = some (r, w') → L.acquired (⟨o, r⟩ : Exchange Op Ans ε) = false →
    L.releases o = false → held w' = held w

theorem holding_cons {x : Exchange Op Ans ε} {tr : Trace Op Ans ε} (h : L.holding (x :: tr) = true) :
    L.releases x.op = false ∧ (L.acquired x = true ∨ L.holding tr = true) := by
  unfold holding at h
  split at h
  · cases h
  · next hr => exact ⟨by simpa using hr, by simpa using h⟩

theorem holding_acquire {x : Exchange Op Ans ε} {tr : Trace Op Ans ε} (ht : L.acquired x = true)
    (hr : L.releases x.op = false) : L.holding (x :: tr) = true := by
  simp [holding, ht, hr]

/-- Whoever holds the lock goes on holding it until it is given back. -/
theorem holding_stay {x : Exchange Op Ans ε} {tr : Trace Op Ans ε} (h : L.holding tr = true)
    (hr : L.releases x.op = false) : L.holding (x :: tr) = true := by
  simp [holding, h, hr]

end Lock

section Exclusive

variable [DecidableEq ι] {S : System Op Ans ε W C σ α} {L : Lock Op} {held : W → Bool}
  {G : ι → Trace Op Ans ε → Op → Prop} {w₀ w : W} {es : List (Event ι Op Ans ε W)}

/-- A lock that some thread has is held, and by this thread only. -/
structure Exclusive (L : Lock Op) (held : W → Bool) (es : List (Event ι Op Ans ε W)) (w : W) : Prop where
  held : ∀ t, L.holding (traceOf t es) = true → held w = true
  one : ∀ t t', L.holding (traceOf t es) = true → L.holding (traceOf t' es) = true → t = t'

/-- Threads that give back only what they have taken exclude each other. -/
theorem Legal.exclusive (hL : L.Guards S held) (hG : ∀ t tr o, G t tr o → L.releases o = true → L.holding tr = true)
    (h : Legal S G w₀ es w) : Exclusive L held es w := by
  induction h with
  | start => exact ⟨fun t ht => absurd ht Bool.false_ne_true, fun t t' ht => absurd ht Bool.false_ne_true⟩
  | @record es w w' t o c r _ hp hok ih =>
    -- a thread that held the lock before is the one that acts, if it acts on the lock at all
    have hbefore : ∀ t', t' ≠ t → L.holding (traceOf t' (⟨⟨o, r⟩, t, w, w'⟩ :: es)) = true →
        L.holding (traceOf t' es) = true := by
      intro t' hne hholds
      rwa [traceOf_record_other (Ne.symm hne)] at hholds
    by_cases hacq : L.acquired (⟨o, r⟩ : Exchange Op Ans ε) = true
    · obtain ⟨hfree, htaken⟩ := hL.acquire hp hacq
      have hnone : ∀ t', L.holding (traceOf t' es) = false := by
        intro t'
        by_contra hholds
        rw [ih.held t' (by simpa using hholds)] at hfree
        cases hfree
      have hown : ∀ t', L.holding (traceOf t' (⟨⟨o, r⟩, t, w, w'⟩ :: es)) = true → t' = t := by
        intro t' hholds
        by_contra hne
        have hheld := hbefore t' hne hholds
        rw [hnone t'] at hheld
        cases hheld
      exact ⟨fun _ _ => htaken, fun t₁ t₂ h₁ h₂ => (hown t₁ h₁).trans (hown t₂ h₂).symm⟩
    · rw [Bool.not_eq_true] at hacq
      have hown : L.holding (traceOf t (⟨⟨o, r⟩, t, w, w'⟩ :: es)) = true →
          L.releases o = false ∧ L.holding (traceOf t es) = true := by
        intro hholds
        rw [traceOf_record_own] at hholds
        obtain ⟨hkeeps, hacq' | hholds⟩ := L.holding_cons hholds
        · rw [hacq] at hacq'
          cases hacq'
        · exact ⟨hkeeps, hholds⟩
      have hall : ∀ t', L.holding (traceOf t' (⟨⟨o, r⟩, t, w, w'⟩ :: es)) = true → L.holding (traceOf t' es) = true := by
        intro t' hholds
        by_cases hne : t' = t
        · subst hne
          exact (hown hholds).2
        · exact hbefore t' hne hholds
      refine ⟨fun t' hholds => ?_, fun t₁ t₂ h₁ h₂ => ih.one t₁ t₂ (hall t₁ h₁) (hall t₂ h₂)⟩
      cases hrel : L.releases o with
      | false =>
        rw [hL.other hp hacq hrel]
        exact ih.held t' (hall t' hholds)
      | true =>
        -- only the holder gives the lock back, and then it is not the holder any more
        have heq := ih.one t t' (hG _ _ _ hok hrel) (hall t' hholds)
        subst heq
        rw [(hown hholds).1] at hrel
        cases hrel

/-- What a thread has found under the lock: its own steps keep it up to date, and those of a thread without the
lock do not touch it. -/
theorem Legal.under_lock {K : κ → Trace Op Ans ε → Prop} {Q : κ → W → Prop} (hL : L.Guards S held)
    (hG : ∀ t tr o, G t tr o → L.releases o = true → L.holding tr = true)
    (hK : ∀ {k tr}, K k tr → L.holding tr = true)
    (own : ∀ {es : List (Event ι Op Ans ε W)} {w w' t o c r k}, Legal S G w₀ es w → S.perform w o c = some (r, w') →
      G t (traceOf t es) o → K k (⟨o, r⟩ :: traceOf t es) → (K k (traceOf t es) → Q k w) → Q k w')
    (other : ∀ {es : List (Event ι Op Ans ε W)} {w w' t o c r k}, Legal S G w₀ es w → S.perform w o c = some (r, w') →
      G t (traceOf t es) o → L.holding (traceOf t es) = false → Q k w → Q k w')
    (h : Legal S G w₀ es w) : ∀ t k, K k (traceOf t es) → Q k w := by
  induction h with
  | start => exact fun t k hk => absurd (hK hk) Bool.false_ne_true
  | @record es w w' t o c r hes hp hok ih =>
    intro t' k hk
    by_cases ht : t' = t
    · subst ht
      rw [traceOf_record_own] at hk
      exact own hes hp hok hk (ih t' k)
    · rw [traceOf_record_other (Ne.symm ht)] at hk
      refine other hes hp hok ?_ (ih t' k hk)
      by_contra hholds
      exact ht ((hes.exclusive hL hG).one t' t (hK hk) (by simpa using hholds))

end Exclusive

/-! ## New names -/

/-- The names a thread was given. -/
def names (issued : Exchange Op Ans ε → Option N) (tr : Trace Op Ans ε) : List N :=
  tr.filterMap issued

/-- What is handed out was not taken before, and is taken from then on. -/
structure Issues (S : System Op Ans ε W C σ α) (issued : Exchange Op Ans ε → Option N) (taken : W → N → Prop) : Prop where
  fresh : ∀ {w w' o c r n}, S.perform w o c = some (r, w') → issued ⟨o, r⟩ = some n → ¬ taken w n
  takes : ∀ {w w' o c r n}, S.perform w o c = some (r, w') → issued ⟨o, r⟩ = some n → taken w' n
  stays : ∀ {w w' o c r n}, S.perform w o c = some (r, w') → taken w n → taken w' n

section Names

variable [DecidableEq ι] {S : System Op Ans ε W C σ α} {issued : Exchange Op Ans ε → Option N}
  {taken : W → N → Prop} {G : ι → Trace Op Ans ε → Op → Prop} {w₀ w : W} {es : List (Event ι Op Ans ε W)}

/-- The names of a thread are taken, and no other thread has them. -/
structure Distinct (issued : Exchange Op Ans ε → Option N) (taken : W → N → Prop) (es : List (Event ι Op Ans ε W)) (w : W) :
    Prop where
  taken : ∀ t, ∀ n ∈ names issued (traceOf t es), taken w n
  one : ∀ t t', ∀ n ∈ names issued (traceOf t es), n ∈ names issued (traceOf t' es) → t = t'
  once : ∀ t, (names issued (traceOf t es)).Nodup

theorem Legal.distinct (hI : Issues S issued taken) (h : Legal S G w₀ es w) : Distinct issued taken es w := by
  induction h with
  | start =>
    exact ⟨fun t n hn => absurd hn List.not_mem_nil, fun t t' n hn => absurd hn List.not_mem_nil, fun t => List.nodup_nil⟩
  | @record es w w' t o c r _ hp _ ih =>
    have hother : ∀ t', t' ≠ t → names issued (traceOf t' (⟨⟨o, r⟩, t, w, w'⟩ :: es)) = names issued (traceOf t' es) := by
      intro t' hne
      rw [traceOf_record_other (Ne.symm hne)]
    cases hissued : issued (⟨o, r⟩ : Exchange Op Ans ε) with
    | none =>
      have hall : ∀ t', names issued (traceOf t' (⟨⟨o, r⟩, t, w, w'⟩ :: es)) = names issued (traceOf t' es) := by
        intro t'
        by_cases hne : t' = t
        · subst hne
          rw [traceOf_record_own, names, List.filterMap_cons_none hissued]
          rfl
        · exact hother t' hne
      refine ⟨fun t' n hn => ?_, fun t₁ t₂ n h₁ h₂ => ?_, fun t' => ?_⟩
      · rw [hall] at hn
        exact hI.stays hp (ih.taken t' n hn)
      · rw [hall] at h₁ h₂
        exact ih.one t₁ t₂ n h₁ h₂
      · rw [hall]
        exact ih.once t'
    | some new =>
      have hown : names issued (traceOf t (⟨⟨o, r⟩, t, w, w'⟩ :: es)) = new :: names issued (traceOf t es) := by
        rw [traceOf_record_own, names, List.filterMap_cons_some hissued]
        rfl
      have hnew : ∀ t', new ∉ names issued (traceOf t' es) := fun t' hmem => hI.fresh hp hissued (ih.taken t' new hmem)
      have hmem : ∀ t' n, n ∈ names issued (traceOf t' (⟨⟨o, r⟩, t, w, w'⟩ :: es)) →
          (t' = t ∧ n = new) ∨ n ∈ names issued (traceOf t' es) := by
        intro t' n hn
        by_cases hne : t' = t
        · subst hne
          rw [hown] at hn
          exact (List.mem_cons.1 hn).imp_left fun heq => ⟨rfl, heq⟩
        · rw [hother t' hne] at hn
          exact .inr hn
      refine ⟨fun t' n hn => ?_, fun t₁ t₂ n h₁ h₂ => ?_, fun t' => ?_⟩
      · rcases hmem t' n hn with ⟨-, heq⟩ | hn
        · exact heq ▸ hI.takes hp hissued
        · exact hI.stays hp (ih.taken t' n hn)
      · rcases hmem t₁ n h₁ with ⟨heq₁, hn⟩ | h₁
        · rcases hmem t₂ n h₂ with ⟨heq₂, -⟩ | h₂
          · exact heq₁.trans heq₂.symm
          · exact absurd (hn ▸ h₂) (hnew t₂)
        · rcases hmem t₂ n h₂ with ⟨-, hn⟩ | h₂
          · exact absurd (hn ▸ h₁) (hnew t₁)
          · exact ih.one t₁ t₂ n h₁ h₂
      · by_cases hne : t' = t
        · subst hne
          rw [hown]
          exact List.nodup_cons.2 ⟨hnew t', ih.once t'⟩
        · rw [hother t' hne]
          exact ih.once t'

end Names

end Async
