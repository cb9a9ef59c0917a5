import Mathlib.Logic.Function.Basic

/-!
# Machines that take one step after another

A machine is a step function: a label names who goes on and what it meets, and a state has at most
one successor for each label. A run is a list of labels. What every step keeps, every run keeps; a
condition on steps may be asked of all the steps of a run.
-/

namespace Machine

variable {S L : Type} {step : S → L → Option S} {s s' : S} {l : L} {ls ls' : List L}

/-- The state after these steps, if every one of them can be taken. -/
def run (step : S → L → Option S) (s : S) : List L → Option S
  | [] => some s
  | l :: ls => (step s l).bind fun s' => run step s' ls

/-- Every step of the run is taken where the condition holds. -/
def Along (step : S → L → Option S) (P : S → L → Prop) (s : S) : List L → Prop
  | [] => True
  | l :: ls => P s l ∧ ∀ s' ∈ step s l, Along step P s' ls

instance decidableAlong {P : S → L → Prop} [∀ s l, Decidable (P s l)] (s : S) :
    (ls : List L) → Decidable (Along step P s ls)
  | [] => isTrue trivial
  | l :: ls =>
    match h : step s l with
    | none => decidable_of_iff (P s l) ⟨fun hP => ⟨hP, by simp [h]⟩, And.left⟩
    | some s' =>
      have := decidableAlong (P := P) s' ls
      decidable_of_iff (P s l ∧ Along step P s' ls)
        ⟨fun hP => ⟨hP.1, by simpa [h] using hP.2⟩, fun hP => ⟨hP.1, hP.2 s' h⟩⟩

@[simp] theorem run_nil : run step s [] = some s := rfl

theorem run_cons (h : step s l = some s') : run step s (l :: ls) = run step s' ls := by
  rw [run, h]
  rfl

theorem run_append : run step s (ls ++ ls') = (run step s ls).bind fun s' => run step s' ls' := by
  induction ls generalizing s with
  | nil => rfl
  | cons l ls ih =>
    rw [List.cons_append, run, run]
    cases step s l with
    | none => rfl
    | some s' => exact ih

theorem along_of_forall {P : S → L → Prop} (h : ∀ s l, P s l) : Along step P s ls := by
  induction ls generalizing s with
  | nil => trivial
  | cons l ls ih => exact ⟨h s l, fun _ _ => ih⟩

/-- The invariant rule, for steps that meet a condition. -/
theorem run_inv {I : S → Prop} {P : S → L → Prop} (h₀ : I s) (hP : Along step P s ls)
    (hstep : ∀ s l s', I s → P s l → step s l = some s' → I s') (h : run step s ls = some s') : I s' := by
  induction ls generalizing s with
  | nil =>
    obtain rfl := Option.some.inj h
    exact h₀
  | cons l ls ih =>
    obtain ⟨s₁, h₁, h₂⟩ := Option.bind_eq_some_iff.1 h
    exact ih (hstep s l s₁ h₀ hP.1 h₁) (hP.2 s₁ h₁) h₂

/-- The invariant rule, for any run. -/
theorem run_inv' {I : S → Prop} (h₀ : I s) (hstep : ∀ s l s', I s → step s l = some s' → I s')
    (h : run step s ls = some s') : I s' :=
  run_inv (P := fun _ _ => True) h₀ (along_of_forall fun _ _ => trivial) (fun s l s' hi _ => hstep s l s' hi) h

/-! ## What never goes back -/

/-- Between any two moments of the run, the later state is related to the earlier one. -/
def Grows (step : S → L → Option S) (R : S → S → Prop) (s : S) (ls : List L) : Prop :=
  ∀ before during after, ls = before ++ during ++ after →
    ∀ s₁ ∈ run step s before, ∀ s₂ ∈ run step s₁ during, R s₁ s₂

variable {R : S → S → Prop}

theorem Grows.tail (h : Grows step R s (l :: ls)) (hs : step s l = some s') : Grows step R s' ls := by
  intro before during after hls s₁ h₁ s₂ h₂
  refine h (l :: before) during after ?_ s₁ ?_ s₂ h₂
  · rw [hls]
    rfl
  · rw [run_cons hs]
    exact h₁

theorem along_of_grows (h : Grows step R s ls) : Along step (fun s l => ∀ s' ∈ step s l, R s s') s ls := by
  induction ls generalizing s with
  | nil => trivial
  | cons l ls ih =>
    refine ⟨?_, fun s' hs => ih (h.tail hs)⟩
    intro s' hs
    apply h [] [l] ls rfl s rfl s'
    rw [run_cons hs]
    rfl

/-- For a preorder it is enough to look at the steps. -/
theorem grows_iff (refl : ∀ s, R s s) (trans : ∀ {a b c}, R a b → R b c → R a c) :
    Grows step R s ls ↔ Along step (fun s l => ∀ s' ∈ step s l, R s s') s ls := by
  have hspan : ∀ {s : S} {ls : List L}, Along step (fun s l => ∀ s' ∈ step s l, R s s') s ls →
      ∀ during after, ls = during ++ after → ∀ s' ∈ run step s during, R s s' := by
    intro s ls hsteps during
    induction during generalizing s ls with
    | nil =>
      intro after _ s' hs
      cases hs
      exact refl s
    | cons l during ih =>
      rintro after rfl s' hs
      obtain ⟨s₁, h₁, h₂⟩ := Option.bind_eq_some_iff.1 hs
      exact trans (hsteps.1 s₁ h₁) (ih (hsteps.2 s₁ h₁) after rfl s' h₂)
  constructor
  · exact along_of_grows
  · intro hsteps before
    induction before generalizing s ls with
    | nil =>
      rintro during after rfl s₁ h₁ s₂ h₂
      cases h₁
      exact hspan hsteps during after rfl s₂ h₂
    | cons l before ih =>
      rintro during after rfl s₁ h₁ s₂ h₂
      obtain ⟨s', hs', h₁⟩ := Option.bind_eq_some_iff.1 h₁
      exact ih (hsteps.2 s' hs') during after rfl s₁ h₁ s₂ h₂

theorem Along.iff {P Q : S → L → Prop} {I : S → Prop} (h₀ : I s) (hI : ∀ s l s', I s → step s l = some s' → I s')
    (h : ∀ s l, I s → (P s l ↔ Q s l)) : Along step P s ls ↔ Along step Q s ls := by
  induction ls generalizing s with
  | nil => exact Iff.rfl
  | cons l ls ih =>
    have hrest : (∀ s' ∈ step s l, Along step P s' ls) ↔ ∀ s' ∈ step s l, Along step Q s' ls := by
      constructor
      · intro hrest s' hs
        exact (ih (hI s l s' h₀ hs)).1 (hrest s' hs)
      · intro hrest s' hs
        exact (ih (hI s l s' h₀ hs)).2 (hrest s' hs)
    exact and_congr (h s l h₀) hrest

end Machine
