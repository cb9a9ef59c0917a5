import OpenApp.Async.Prog

/-!
# A program whose calls are answered

Where every answer is given beforehand a program has one end, and this end satisfies whatever holds of all.
-/

namespace Async.Prog

variable {Op : Type} {Ans : Op → Type} {ε α β : Type} {G : Trace Op Ans ε → Op → Prop}
  {Q : Except ε α → Trace Op Ans ε → Prop} {answers : (o : Op) → Except ε (Ans o)} {tr : Trace Op Ans ε}

/-- How the program ends with these answers. -/
def answered (answers : (o : Op) → Except ε (Ans o)) : Prog Op Ans ε α → Trace Op Ans ε → Except ε α × Trace Op Ans ε
  | done a, tr => (.ok a, tr)
  | raise e, tr => (.error e, tr)
  | call o k, tr => answered answers (k (answers o)) (⟨o, answers o⟩ :: tr)

theorem wp_answered {p : Prog Op Ans ε α} (answers : (o : Op) → Except ε (Ans o)) (h : wp G p Q tr) :
    Q (answered answers p tr).1 (answered answers p tr).2 := by
  induction p generalizing tr with
  | done a => exact h
  | raise e => exact h
  | call o k ih => exact ih (answers o) (h.2 (answers o))

theorem answered_bind (p : Prog Op Ans ε α) (f : α → Prog Op Ans ε β) :
    answered answers (p >>= f) tr = match answered answers p tr with
      | (.ok a, tr') => answered answers (f a) tr'
      | (.error e, tr') => (.error e, tr') := by
  change answered answers (p.bind f) tr = _
  induction p generalizing tr with
  | done a => rfl
  | raise e => rfl
  | call o k ih => exact ih (answers o)

theorem answered_tryCatch (p : Prog Op Ans ε α) (f : ε → Prog Op Ans ε α) :
    answered answers (tryCatch p f) tr = match answered answers p tr with
      | (.ok a, tr') => (.ok a, tr')
      | (.error e, tr') => answered answers (f e) tr' := by
  change answered answers (p.handle f) tr = _
  induction p generalizing tr with
  | done a => rfl
  | raise e => rfl
  | call o k ih => exact ih (answers o)

@[simp] theorem answered_pure (a : α) : answered answers (pure a : Prog Op Ans ε α) tr = (.ok a, tr) := rfl

@[simp] theorem answered_throw (e : ε) : answered answers (throw e : Prog Op Ans ε α) tr = (.error e, tr) := rfl

@[simp] theorem answered_await (o : Op) : answered answers (await o) tr = (answers o, ⟨o, answers o⟩ :: tr) := by
  unfold await answered
  cases answers o <;> rfl

/-- Every exchange is one of those that were there or an answer that was given. -/
theorem mem_answered {p : Prog Op Ans ε α} {x : Exchange Op Ans ε} (h : x ∈ (answered answers p tr).2) :
    x ∈ tr ∨ x.answer = answers x.op := by
  induction p generalizing tr with
  | done a => exact .inl h
  | raise e => exact .inl h
  | call o k ih =>
    rcases ih (answers o) h with hmem | hanswer
    · rcases List.mem_cons.1 hmem with rfl | hmem
      · exact .inr rfl
      · exact .inl hmem
    · exact .inr hanswer

end Async.Prog
