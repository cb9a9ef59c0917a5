import OpenApp.Async.Interleave

/-!
# A program on its own

`solo` runs one program with nobody else in between, from a world and the choices its calls get.
It composes the way the program does, and it is a run: the schedule that names one thread only
(`exec_solo`).
-/

namespace Async

variable {Op : Type} {Ans : Op → Type} {ε W C σ α β ι : Type}

/-- The world and the result a program ends with, and the choices it did not use. -/
def solo (perform : W → (o : Op) → C → Option (Except ε (Ans o) × W)) :
    Prog Op Ans ε α → W → List C → Option (Except ε α × W × List C)
  | .done a, w, xs => some (.ok a, w, xs)
  | .raise e, w, xs => some (.error e, w, xs)
  | .call _ _, _, [] => none
  | .call o k, w, x :: xs => (perform w o x).bind fun r => solo perform (k r.1) r.2 xs

section Rules

variable {perform : W → (o : Op) → C → Option (Except ε (Ans o) × W)} {w w' : W} {xs ys : List C}

@[simp] theorem solo_done (a : α) : solo perform (.done a : Prog Op Ans ε α) w xs = some (.ok a, w, xs) := rfl

@[simp] theorem solo_pure (a : α) : solo perform (pure a : Prog Op Ans ε α) w xs = some (.ok a, w, xs) := rfl

@[simp] theorem solo_throw (e : ε) : solo perform (throw e : Prog Op Ans ε α) w xs = some (.error e, w, xs) := rfl

@[simp] theorem solo_await {o : Op} {x : C} {r : Except ε (Ans o)} (h : perform w o x = some (r, w')) :
    solo perform (Prog.await o) w (x :: xs) = some (r, w', xs) := by
  cases r <;> simp [Prog.await, solo, h]

@[simp] theorem solo_throwIf (c : Prop) [Decidable c] (e : ε) :
    solo perform (Prog.throwIf c e : Prog Op Ans ε Unit) w xs =
      some (if c then .error e else .ok (), w, xs) := by
  unfold Prog.throwIf
  split <;> rfl

theorem solo_throwIf_neg {c : Prop} [Decidable c] (h : ¬ c) (e : ε) :
    solo perform (Prog.throwIf c e : Prog Op Ans ε Unit) w xs = some (.ok (), w, xs) := by
  rw [solo_throwIf, if_neg h]

@[simp] theorem solo_fromExcept (x : Except ε α) :
    solo perform (Prog.fromExcept x : Prog Op Ans ε α) w xs = some (x, w, xs) := by
  cases x <;> rfl

theorem solo_bind_eq (p : Prog Op Ans ε α) (f : α → Prog Op Ans ε β) :
    solo perform (p >>= f) w xs = (solo perform p w xs).bind fun
      | (.ok a, w', ys) => solo perform (f a) w' ys
      | (.error e, w', ys) => some (.error e, w', ys) := by
  change solo perform (p.bind f) w xs = _
  induction p generalizing w xs with
  | done a => rfl
  | raise e => rfl
  | call o k ih =>
    cases xs with
    | nil => rfl
    | cons x xs =>
      simp only [Prog.bind, solo, Option.bind_assoc]
      exact congrArg _ (funext fun r => ih r.1)

/-- The first part ends with a value: the rest goes on from there. -/
theorem solo_bind {p : Prog Op Ans ε α} {f : α → Prog Op Ans ε β} {a : α}
    (h : solo perform p w xs = some (.ok a, w', ys)) :
    solo perform (p >>= f) w xs = solo perform (f a) w' ys := by
  rw [solo_bind_eq, h]
  rfl

/-- The first part fails: so does the whole. -/
theorem solo_bind_error {p : Prog Op Ans ε α} {f : α → Prog Op Ans ε β} {e : ε}
    (h : solo perform p w xs = some (.error e, w', ys)) :
    solo perform (p >>= f) w xs = some (.error e, w', ys) := by
  rw [solo_bind_eq, h]
  rfl

theorem solo_tryCatch {p : Prog Op Ans ε α} {f : ε → Prog Op Ans ε α} {a : α}
    (h : solo perform p w xs = some (.ok a, w', ys)) :
    solo perform (tryCatch p f) w xs = some (.ok a, w', ys) := by
  change solo perform (p.handle f) w xs = _
  induction p generalizing w xs with
  | done b => exact h
  | raise e => cases h
  | call o k ih =>
    cases xs with
    | nil => cases h
    | cons x xs =>
      obtain ⟨r, hr, hk⟩ := Option.bind_eq_some_iff.1 h
      simp only [Prog.handle, solo, hr, Option.bind_some]
      exact ih r.1 hk

/-- A first try that gets somewhere is the only one. -/
theorem solo_retry {attempt : Prog Op Ans ε (Option α)} {exhausted : Prog Op Ans ε α} {a : α} (n : Nat)
    (h : solo perform attempt w xs = some (.ok (some a), w', ys)) :
    solo perform (Prog.retry attempt exhausted (n + 1)) w xs = some (.ok a, w', ys) := by
  rw [Prog.retry, solo_bind h]
  rfl

end Rules

/-! ## Runs of one thread -/

/-- Where a program stands that ended with this result. -/
def ended : Except ε α → Prog Op Ans ε α
  | .ok a => .done a
  | .error e => .raise e

theorem exec_append [DecidableEq ι] (S : System Op Ans ε W C σ α) (c : Config ι Op Ans ε W σ α)
    (s s' : List (ι × C)) : exec S c (s ++ s') = (exec S c s).bind fun c' => exec S c' s' := by
  induction s generalizing c with
  | nil => rfl
  | cons tx s ih =>
    simp only [List.cons_append, exec, Option.bind_assoc]
    exact congrArg _ (funext fun c' => ih c')

/-- A thread that is not scheduled stays where it is. -/
theorem exec_prog [DecidableEq ι] (S : System Op Ans ε W C σ α) {c c' : Config ι Op Ans ε W σ α} {t : ι}
    {sched : List (ι × C)} (h : exec S c sched = some c') (ht : ∀ tx ∈ sched, tx.1 ≠ t) : c'.prog t = c.prog t := by
  induction sched generalizing c with
  | nil =>
    obtain rfl := Option.some.inj h
    rfl
  | cons tx rest ih =>
    obtain ⟨c₁, h₁, h₂⟩ := Option.bind_eq_some_iff.1 h
    have hne : t ≠ tx.1 := (ht tx (List.mem_cons_self ..)).symm
    rw [ih h₂ fun tx' h' => ht tx' (List.mem_cons_of_mem _ h')]
    unfold step at h₁
    split at h₁
    · obtain ⟨r, _, rfl⟩ := Option.map_eq_some_iff.1 h₁
      exact Function.update_of_ne hne ..
    · obtain rfl := Option.some.inj h₁
      exact Function.update_of_ne hne ..
    · cases h₁
    · cases h₁

/-- What a program does on its own, its thread does when it alone is scheduled. -/
theorem exec_solo [DecidableEq ι] (S : System Op Ans ε W C σ α) {c : Config ι Op Ans ε W σ α} {t : ι}
    {xs : List C} {r : Except ε (σ ⊕ α)} {w' : W} (h : solo S.perform (c.prog t) c.world xs = some (r, w', [])) :
    ∃ c', exec S c (xs.map fun x => (t, x)) = some c' ∧ c'.world = w' ∧
      c'.prog = Function.update c.prog t (ended r) := by
  induction xs generalizing c with
  | nil =>
    refine ⟨c, rfl, ?_⟩
    cases hp : c.prog t with
    | done a =>
      rw [hp] at h
      obtain ⟨rfl, rfl⟩ : Except.ok a = r ∧ c.world = w' := by simpa [solo] using h
      exact ⟨rfl, by simp [ended, ← hp]⟩
    | raise e =>
      rw [hp] at h
      obtain ⟨rfl, rfl⟩ : Except.error e = r ∧ c.world = w' := by simpa [solo] using h
      exact ⟨rfl, by simp [ended, ← hp]⟩
    | call o k =>
      rw [hp] at h
      cases h
  | cons x xs ih =>
    cases hp : c.prog t with
    | done a =>
      rw [hp] at h
      simp [solo] at h
    | raise e =>
      rw [hp] at h
      simp [solo] at h
    | call o k =>
      rw [hp] at h
      obtain ⟨⟨a, w₁⟩, hr, hk⟩ := Option.bind_eq_some_iff.1 h
      have hstep : step S c t x = some
          { world := w₁, events := ⟨⟨o, a⟩, t, c.world, w₁⟩ :: c.events, prog := Function.update c.prog t (k a) } := by
        simp only [step, hp, hr, Option.map_some]
      obtain ⟨c', hexec, hw, hprog⟩ := ih (c := ⟨w₁, ⟨⟨o, a⟩, t, c.world, w₁⟩ :: c.events,
        Function.update c.prog t (k a)⟩) (by simpa using hk)
      refine ⟨c', ?_, hw, ?_⟩
      · simp only [List.map_cons, exec, hstep, Option.bind_some]
        exact hexec
      · rw [hprog, Function.update_idem]

/-- A run that is there, with what was evaluated of it. -/
theorem exists_of_any {γ : Type} {o : Option γ} {P : γ → Prop} [DecidablePred P]
    (h : o.any (fun c => decide (P c)) = true) : ∃ c, o = some c ∧ P c := by
  obtain ⟨c, hc, hP⟩ := (Option.any_eq_true _ _).1 h
  exact ⟨c, hc, of_decide_eq_true hP⟩

end Async
