import OpenApp.Async.Outcome

/-!
# A program that is stopped

A process may stop at any call. `stopped` is the world a program leaves that is stopped when its choices run out,
and `throughout` says what holds of every such world.
-/

namespace Async

variable {Op : Type} {Ans : Op → Type} {ε W C α β : Type}

/-- The world before the call for which there is no choice any more. -/
def stopped (perform : W → (o : Op) → C → Option (Except ε (Ans o) × W)) : Prog Op Ans ε α → W → List C → Option W
  | .call _ _, w, [] => some w
  | .call o k, w, x :: xs => (perform w o x).bind fun r => stopped perform (k r.1) r.2 xs
  | _, _, _ => none

namespace Prog

/-- Before each of its calls, and where it ends, the world of the program satisfies the condition. -/
def throughout (perform : W → (o : Op) → C → Option (Except ε (Ans o) × W)) (P : W → Op → C → Prop) (I : W → Prop) :
    Prog Op Ans ε α → W → Prop
  | .call o k, w => I w ∧ ∀ x r, P w o x → perform w o x = some r → throughout perform P I (k r.1) r.2
  | _, w => I w

variable {perform : W → (o : Op) → C → Option (Except ε (Ans o) × W)} {P : W → Op → C → Prop} {I I' : W → Prop}
  {Q Q' : Except ε α → W → Prop} {w w' : W} {xs : List C}

theorem ends_and {p : Prog Op Ans ε α} (h : ends perform P p Q w) (h' : ends perform P p Q' w) :
    ends perform P p (fun r w => Q r w ∧ Q' r w) w := by
  induction p generalizing w with
  | done a => exact ⟨h, h'⟩
  | raise e => exact ⟨h, h'⟩
  | call o k ih => exact fun x r hx hr => ih r.1 (h x r hx hr) (h' x r hx hr)

theorem throughout_mono {p : Prog Op Ans ε α} (h : throughout perform P I p w) (hI : ∀ w, I w → I' w) :
    throughout perform P I' p w := by
  induction p generalizing w with
  | done a => exact hI w h
  | raise e => exact hI w h
  | call o k ih => exact ⟨hI w h.1, fun x r hx hr => ih r.1 (h.2 x r hx hr)⟩

theorem throughout_always (p : Prog Op Ans ε α) (hI : ∀ w, I w) : throughout perform P I p w := by
  induction p generalizing w with
  | done a => exact hI w
  | raise e => exact hI w
  | call o k ih => exact ⟨hI w, fun x r _ _ => ih r.1⟩

/-- What every call of a program keeps holds throughout. -/
theorem throughout_of_only {K : Op → Prop} {p : Prog Op Ans ε α} (h : Only K p)
    (hI : ∀ w o x r, K o → I w → perform w o x = some r → I r.2) (hw : I w) : throughout perform P I p w := by
  induction p generalizing w with
  | done a => exact hw
  | raise e => exact hw
  | call o k ih => exact ⟨hw, fun x r _ hr => ih r.1 (h.2 r.1) (hI w o x r h.1 hw hr)⟩

theorem throughout_bind {p : Prog Op Ans ε α} {f : α → Prog Op Ans ε β} (h : throughout perform P I p w)
    (hends : ends perform P p (fun r w => ∀ a, r = .ok a → throughout perform P I (f a) w) w) :
    throughout perform P I (p >>= f) w := by
  change throughout perform P I (p.bind f) w
  induction p generalizing w with
  | done a => exact hends a rfl
  | raise e => exact h
  | call o k ih => exact ⟨h.1, fun x r hx hr => ih r.1 (h.2 x r hx hr) (hends x r hx hr)⟩

/-- What holds throughout holds at the end. -/
theorem ends_of_throughout {p : Prog Op Ans ε α} (h : throughout perform P I p w) :
    ends perform P p (fun _ w => I w) w := by
  induction p generalizing w with
  | done a => exact h
  | raise e => exact h
  | call o k ih => exact fun x r hx hr => ih r.1 (h.2 x r hx hr)

/-- A program that is stopped leaves a world that satisfies what holds throughout. -/
theorem throughout_stopped {p : Prog Op Ans ε α} (h : throughout perform P I p w) (hmeets : Meets perform P p w xs)
    (hstopped : stopped perform p w xs = some w') : I w' := by
  induction p generalizing w xs with
  | done a => cases hstopped
  | raise e => cases hstopped
  | call o k ih =>
    cases xs with
    | nil =>
      obtain rfl := Option.some.inj hstopped
      exact h.1
    | cons x xs =>
      obtain ⟨r, hr, hrest⟩ := Option.bind_eq_some_iff.1 hstopped
      exact ih r.1 (h.2 x r hmeets.1 hr) (hmeets.2 r hr) hrest

end Prog

end Async
