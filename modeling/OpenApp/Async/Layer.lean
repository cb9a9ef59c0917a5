import OpenApp.Async.Interleave

/-!
# Programs over programs

A program that uses a component runs the component's programs among calls of its own. Its calls are
of two kinds, those of the component on the left, its own on the right, and what it exchanges on
the left is what the component's programs exchange.

A system built on a component's system in this way is a simulation of it: forget the calls on the
right, and every run is a run of the component (`Legal.left`). So whatever holds of every run of
the component holds of every run of what is built on it.
-/

namespace Async

variable {Op Op' : Type} {Ans : Op → Type} {Ans' : Op' → Type} {ε α β W W' C C' σ σ' α' ι : Type}

/-- The answers of two kinds of calls. -/
abbrev Answers (Ans : Op → Type) (Ans' : Op' → Type) : Op ⊕ Op' → Type
  | .inl o => Ans o
  | .inr o => Ans' o

/-- A program of the component, as a part of a larger one. -/
def Prog.inl : Prog Op Ans ε α → Prog (Op ⊕ Op') (Answers Ans Ans') ε α
  | .done a => .done a
  | .raise e => .raise e
  | .call o k => .call (.inl o) fun r => (k r).inl

/-- What was exchanged on the left. -/
def lefts : Trace (Op ⊕ Op') (Answers Ans Ans') ε → Trace Op Ans ε
  | [] => []
  | ⟨.inl o, r⟩ :: tr => ⟨o, r⟩ :: lefts tr
  | ⟨.inr _, _⟩ :: tr => lefts tr

@[simp] theorem lefts_nil : lefts ([] : Trace (Op ⊕ Op') (Answers Ans Ans') ε) = [] := rfl

@[simp] theorem lefts_inl (o : Op) (r : Except ε (Ans o)) (tr : Trace (Op ⊕ Op') (Answers Ans Ans') ε) :
    lefts (⟨.inl o, r⟩ :: tr) = ⟨o, r⟩ :: lefts tr := rfl

@[simp] theorem lefts_inr (o : Op') (r : Except ε (Ans' o)) (tr : Trace (Op ⊕ Op') (Answers Ans Ans') ε) :
    lefts (⟨.inr o, r⟩ :: tr) = lefts tr := rfl

theorem lefts_append (tr tr' : Trace (Op ⊕ Op') (Answers Ans Ans') ε) : lefts (tr ++ tr') = lefts tr ++ lefts tr' := by
  induction tr with
  | nil => rfl
  | cons x tr ih =>
    obtain ⟨o | o, r⟩ := x
    · exact congrArg (⟨o, r⟩ :: ·) ih
    · exact ih

theorem lefts_suffix {tr tr' : Trace (Op ⊕ Op') (Answers Ans Ans') ε} (h : tr <:+ tr') : lefts tr <:+ lefts tr' := by
  obtain ⟨recent, rfl⟩ := h
  rw [lefts_append]
  exact List.suffix_append _ _

/-- The rule of a component's program, inside a larger program. -/
theorem Prog.wp_inl {G : Trace Op Ans ε → Op → Prop} {G' : Trace (Op ⊕ Op') (Answers Ans Ans') ε → Op ⊕ Op' → Prop}
    (hG : ∀ tr o, G (lefts tr) o → G' tr (.inl o)) {p : Prog Op Ans ε α}
    {Q : Except ε α → Trace Op Ans ε → Prop} {Q' : Except ε α → Trace (Op ⊕ Op') (Answers Ans Ans') ε → Prop}
    (hQ : ∀ r tr, Q r (lefts tr) → Q' r tr) {tr : Trace (Op ⊕ Op') (Answers Ans Ans') ε}
    (h : p.wp G Q (lefts tr)) : (p.inl : Prog (Op ⊕ Op') (Answers Ans Ans') ε α).wp G' Q' tr := by
  induction p generalizing tr with
  | done a => exact hQ _ _ h
  | raise e => exact hQ _ _ h
  | call o k ih => exact ⟨hG _ _ h.1, fun r => ih r (h.2 r)⟩

/-- A component's program makes calls on the left only. -/
theorem Prog.only_inl {P : Op ⊕ Op' → Prop} (hP : ∀ o, P (.inl o)) (p : Prog Op Ans ε α) :
    Only P (p.inl : Prog (Op ⊕ Op') (Answers Ans Ans') ε α) := by
  induction p with
  | done a => trivial
  | raise e => trivial
  | call o k ih => exact ⟨hP o, fun r => ih r⟩

/-! ## Runs, seen from the component -/

/-- The event, if it is one of the component. -/
def Event.left (base : W' → W) : Event ι (Op ⊕ Op') (Answers Ans Ans') ε W' → Option (Event ι Op Ans ε W)
  | ⟨⟨.inl o, r⟩, t, w, w'⟩ => some ⟨⟨o, r⟩, t, base w, base w'⟩
  | ⟨⟨.inr _, _⟩, _, _, _⟩ => none

/-- The events of the component. -/
def leftEvents (base : W' → W) (es : List (Event ι (Op ⊕ Op') (Answers Ans Ans') ε W')) : List (Event ι Op Ans ε W) :=
  es.filterMap (Event.left base)

theorem traceOf_leftEvents [DecidableEq ι] (base : W' → W) (t : ι)
    (es : List (Event ι (Op ⊕ Op') (Answers Ans Ans') ε W')) :
    traceOf t (leftEvents base es) = lefts (traceOf t es) := by
  induction es with
  | nil => rfl
  | cons e es ih =>
    obtain ⟨⟨o, r⟩, t', w, w'⟩ := e
    by_cases ht : t' = t
    · subst ht
      cases o with
      | inl o =>
        change traceOf t' (⟨⟨o, r⟩, t', base w, base w'⟩ :: leftEvents base es) = _
        rw [traceOf_record_own, traceOf_record_own, ih]
        rfl
      | inr o =>
        change traceOf t' (leftEvents base es) = _
        rw [traceOf_record_own, ih]
        rfl
    · rw [traceOf_record_other ht, ← ih]
      cases o with
      | inl o =>
        change traceOf t (⟨⟨o, r⟩, t', base w, base w'⟩ :: leftEvents base es) = _
        rw [traceOf_record_other ht]
      | inr o => rfl

/-- A system over a component's: a call on the left does what it does to the component, and one on
the right leaves the component alone. -/
structure Layered (S : System Op Ans ε W C σ α) (S' : System (Op ⊕ Op') (Answers Ans Ans') ε W' C' σ' α')
    (base : W' → W) : Prop where
  inl : ∀ {w w' o x r}, S'.perform w (.inl o) x = some (r, w') → ∃ c, S.perform (base w) o c = some (r, base w')
  inr : ∀ {w w' o x r}, S'.perform w (.inr o) x = some (r, w') → base w' = base w

/-- The simulation: a history of the larger system is a history of the component. -/
theorem Legal.left [DecidableEq ι] {S : System Op Ans ε W C σ α}
    {S' : System (Op ⊕ Op') (Answers Ans Ans') ε W' C' σ' α'} {base : W' → W} (hS : Layered S S' base)
    {G : ι → Trace Op Ans ε → Op → Prop} {G' : ι → Trace (Op ⊕ Op') (Answers Ans Ans') ε → Op ⊕ Op' → Prop}
    (hG : ∀ t tr o, G' t tr (.inl o) → G t (lefts tr) o) {w₀ w : W'}
    {es : List (Event ι (Op ⊕ Op') (Answers Ans Ans') ε W')} (h : Legal S' G' w₀ es w) :
    Legal S G (base w₀) (leftEvents base es) (base w) := by
  induction h with
  | start => exact .start
  | @record es w w' t o x r h hp hrule ih =>
    cases o with
    | inl o =>
      obtain ⟨c, hc⟩ := hS.inl hp
      refine ih.record hc ?_
      rw [traceOf_leftEvents]
      exact hG t _ o hrule
    | inr o =>
      rw [hS.inr hp]
      exact ih

end Async
