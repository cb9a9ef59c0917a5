import OpenApp.Async.Solo

/-!
# What a program makes of its world

`Prog.ends` is the weakest precondition of a program that runs on its own: whatever its calls meet,
as long as each of them meets a condition, the program ends with a result and a world that satisfy
the postcondition. It composes the way the program does, and it says the truth about `solo`.
-/

namespace Async

variable {Op : Type} {Ans : Op → Type} {ε W C α β : Type}

/-- Every call of the program meets the condition, with the world before it and what it gets. -/
def Meets (perform : W → (o : Op) → C → Option (Except ε (Ans o) × W)) (P : W → Op → C → Prop) :
    Prog Op Ans ε α → W → List C → Prop
  | .call o k, w, x :: xs => P w o x ∧ ∀ r ∈ perform w o x, Meets perform P (k r.1) r.2 xs
  | _, _, _ => True

instance decidableMeets {perform : W → (o : Op) → C → Option (Except ε (Ans o) × W)} {P : W → Op → C → Prop}
    [∀ w o x, Decidable (P w o x)] : (p : Prog Op Ans ε α) → (w : W) → (xs : List C) → Decidable (Meets perform P p w xs)
  | .done _, _, _ => isTrue trivial
  | .raise _, _, _ => isTrue trivial
  | .call _ _, _, [] => isTrue trivial
  | .call o k, w, x :: xs =>
    match h : perform w o x with
    | none => decidable_of_iff (P w o x) ⟨fun hP => ⟨hP, by simp [h]⟩, And.left⟩
    | some r =>
      have : Decidable (Meets perform P (k r.1) r.2 xs) := decidableMeets (k r.1) r.2 xs
      decidable_of_iff (P w o x ∧ Meets perform P (k r.1) r.2 xs)
        ⟨fun hP => ⟨hP.1, by simpa [h] using hP.2⟩, fun hP => ⟨hP.1, hP.2 r h⟩⟩

namespace Prog

def ends (perform : W → (o : Op) → C → Option (Except ε (Ans o) × W)) (P : W → Op → C → Prop) :
    Prog Op Ans ε α → (Except ε α → W → Prop) → W → Prop
  | done a, Q, w => Q (.ok a) w
  | raise e, Q, w => Q (.error e) w
  | call o k, Q, w => ∀ x r, P w o x → perform w o x = some r → ends perform P (k r.1) Q r.2

variable {perform : W → (o : Op) → C → Option (Except ε (Ans o) × W)} {P : W → Op → C → Prop}
  {Q Q' : Except ε α → W → Prop} {w w' : W} {xs ys : List C}

@[simp] theorem ends_pure (a : α) : ends perform P (pure a : Prog Op Ans ε α) Q w ↔ Q (.ok a) w := Iff.rfl

@[simp] theorem ends_throw (e : ε) : ends perform P (throw e : Prog Op Ans ε α) Q w ↔ Q (.error e) w := Iff.rfl

theorem ends_mono {p : Prog Op Ans ε α} (h : ends perform P p Q w) (hQ : ∀ r w, Q r w → Q' r w) :
    ends perform P p Q' w := by
  induction p generalizing w with
  | done a => exact hQ _ _ h
  | raise e => exact hQ _ _ h
  | call o k ih => exact fun x r hx hr => ih r.1 (h x r hx hr)

theorem ends_always (p : Prog Op Ans ε α) (hQ : ∀ r w, Q r w) : ends perform P p Q w := by
  induction p generalizing w with
  | done a => exact hQ _ _
  | raise e => exact hQ _ _
  | call o k ih => exact fun x r _ _ => ih r.1

/-- What every call of a program keeps, the program keeps. -/
theorem ends_of_only {K : Op → Prop} {I : W → Prop} {p : Prog Op Ans ε α} (h : Only K p)
    (hI : ∀ w o x r, K o → I w → perform w o x = some r → I r.2) (hw : I w) :
    ends perform P p (fun _ w => I w) w := by
  induction p generalizing w with
  | done a => exact hw
  | raise e => exact hw
  | call o k ih => exact fun x r _ hr => ih r.1 (h.2 r.1) (hI w o x r h.1 hw hr)

/-- What the rest of a program must make of how its first part ended. -/
def Goes (perform : W → (o : Op) → C → Option (Except ε (Ans o) × W)) (P : W → Op → C → Prop)
    (f : α → Prog Op Ans ε β) (Q : Except ε β → W → Prop) : Except ε α → W → Prop
  | .ok a, w => ends perform P (f a) Q w
  | .error e, w => Q (.error e) w

@[simp] theorem goes_ok (f : α → Prog Op Ans ε β) (Q : Except ε β → W → Prop) (a : α) :
    Goes perform P f Q (.ok a) w = ends perform P (f a) Q w := rfl

@[simp] theorem goes_error (f : α → Prog Op Ans ε β) (Q : Except ε β → W → Prop) (e : ε) :
    Goes perform P f Q (.error e) w = Q (.error e) w := rfl

theorem ends_bind {f : α → Prog Op Ans ε β} {Q : Except ε β → W → Prop} {p : Prog Op Ans ε α} :
    ends perform P (p >>= f) Q w ↔ ends perform P p (Goes perform P f Q) w := by
  change ends perform P (p.bind f) Q w ↔ _
  induction p generalizing w with
  | done a => exact Iff.rfl
  | raise e => exact Iff.rfl
  | call o k ih => exact forall_congr' fun x => forall_congr' fun r => imp_congr_right fun _ => imp_congr_right fun _ => ih r.1

/-- One part after the other: a failure of the first one ends the program. -/
theorem ends_then {R : Except ε α → W → Prop} {f : α → Prog Op Ans ε β} {Q : Except ε β → W → Prop}
    {p : Prog Op Ans ε α} (hp : ends perform P p R w) (hfail : ∀ e w, R (.error e) w → Q (.error e) w)
    (hf : ∀ a w, R (.ok a) w → ends perform P (f a) Q w) : ends perform P (p >>= f) Q w := by
  rw [ends_bind]
  refine ends_mono hp fun r w hr => ?_
  cases r with
  | ok a => exact hf a w hr
  | error e => exact hfail e w hr

theorem ends_tryCatch {R : Except ε α → W → Prop} {p : Prog Op Ans ε α} {f : ε → Prog Op Ans ε α}
    (hp : ends perform P p R w) (hok : ∀ a w, R (.ok a) w → Q (.ok a) w)
    (hf : ∀ e w, R (.error e) w → ends perform P (f e) Q w) : ends perform P (tryCatch p f) Q w := by
  change ends perform P (p.handle f) Q w
  induction p generalizing w with
  | done a => exact hok a w hp
  | raise e => exact hf e w hp
  | call o k ih => exact fun x r hx hr => ih r.1 (hp x r hx hr)

theorem ends_settle {R : Except ε (Except ε α) → W → Prop} {p : Prog Op Ans ε α}
    (hp : ends perform P p (fun r => R (.ok r)) w) : ends perform P (settle p) R w := by
  refine ends_tryCatch (R := fun r => R (.ok (r.bind id))) ?_ ?_ ?_
  · change ends perform P (p >>= fun a => pure (Except.ok a : Except ε α)) _ w
    refine ends_then hp (fun e w h => h) fun a w h => h
  · intro r w h
    exact h
  · intro e w h
    exact h

theorem ends_await {o : Op} {Q : Except ε (Ans o) → W → Prop}
    (h : ∀ x r, P w o x → perform w o x = some r → Q r.1 r.2) :
    ends perform P (await o : Prog Op Ans ε (Ans o)) Q w := by
  intro x r hx hr
  have hQ := h x r hx hr
  obtain ⟨r, w'⟩ := r
  cases r with
  | ok a => exact hQ
  | error e => exact hQ

theorem ends_throwIf {c : Prop} [Decidable c] {e : ε} {Q : Except ε Unit → W → Prop}
    (hthrow : c → Q (.error e) w) (hgo : ¬ c → Q (.ok ()) w) :
    ends perform P (throwIf c e : Prog Op Ans ε Unit) Q w := by
  unfold throwIf
  split
  · exact hthrow ‹_›
  · exact hgo ‹_›

theorem meets_always (p : Prog Op Ans ε α) : Meets perform (fun _ _ _ => True) p w xs := by
  induction p generalizing w xs with
  | done a => trivial
  | raise e => trivial
  | call o k ih =>
    cases xs with
    | nil => trivial
    | cons x xs => exact ⟨trivial, fun r _ => ih r.1⟩

/-- A program on its own ends as its weakest precondition says. -/
theorem ends_solo {r : Except ε α} {p : Prog Op Ans ε α} (h : ends perform P p Q w) (hmeets : Meets perform P p w xs)
    (hsolo : solo perform p w xs = some (r, w', ys)) : Q r w' := by
  induction p generalizing w xs with
  | done a =>
    cases hsolo
    exact h
  | raise e =>
    cases hsolo
    exact h
  | call o k ih =>
    cases xs with
    | nil => cases hsolo
    | cons x xs =>
      obtain ⟨r₁, h₁, h₂⟩ := Option.bind_eq_some_iff.1 hsolo
      exact ih r₁.1 (h x r₁ hmeets.1 h₁) (hmeets.2 r₁ h₁) h₂

/-- Where every call meets the choice `x`, the program ends once it has had that choice often enough. -/
theorem solo_replicate (x : C) (hgo : ∀ w o, ∃ r, perform w o x = some r) (p : Prog Op Ans ε α) (w : W) :
    ∃ n r w', solo perform p w (List.replicate n x) = some (r, w', []) := by
  induction p generalizing w with
  | done a => exact ⟨0, _, _, rfl⟩
  | raise e => exact ⟨0, _, _, rfl⟩
  | call o k ih =>
    obtain ⟨r, hr⟩ := hgo w o
    obtain ⟨n, r', w', h⟩ := ih r.1 r.2
    exact ⟨n + 1, r', w', by simp [List.replicate_succ, solo, hr, h]⟩

theorem meets_of_all {P : C → Prop} (p : Prog Op Ans ε α) (h : ∀ x ∈ xs, P x) :
    Meets perform (fun _ _ x => P x) p w xs := by
  induction p generalizing w xs with
  | done a => trivial
  | raise e => trivial
  | call o k ih =>
    cases xs with
    | nil => trivial
    | cons x xs => exact ⟨h x List.mem_cons_self, fun r _ => ih r.1 fun y hy => h y (List.mem_cons_of_mem _ hy)⟩

end Prog

end Async
