import Mathlib.Logic.Function.Basic

/-!
# Programs that await calls

A program is a tree of calls to the outside. Between two calls it computes without being
interrupted; at a call it waits for the answer, which is a value or a failure. Nothing here
says what a call does: that is the business of the world the program runs in.

What can be said about a program on its own is the order of its calls. `Prog.wp` states it: a
rule for every call the program issues, given the exchanges it has had so far, and what holds
of its result.
-/

namespace Async

/-- A program over the calls `Op`, whose answers have the types `Ans` and whose failures are `ε`. -/
inductive Prog (Op : Type) (Ans : Op → Type) (ε α : Type)
  | done (a : α)
  | raise (e : ε)
  | call (o : Op) (k : Except ε (Ans o) → Prog Op Ans ε α)

/-- One call together with what came back. -/
structure Exchange (Op : Type) (Ans : Op → Type) (ε : Type) where
  op : Op
  answer : Except ε (Ans op)

/-- The exchanges a program has had, the latest first. -/
abbrev Trace (Op : Type) (Ans : Op → Type) (ε : Type) := List (Exchange Op Ans ε)

namespace Prog

variable {Op : Type} {Ans : Op → Type} {ε α β : Type}

/-! ## Composition -/

def bind : Prog Op Ans ε α → (α → Prog Op Ans ε β) → Prog Op Ans ε β
  | done a, f => f a
  | raise e, _ => raise e
  | call o k, f => call o fun r => (k r).bind f

/-- Run the handler where the program raises. -/
def handle : Prog Op Ans ε α → (ε → Prog Op Ans ε α) → Prog Op Ans ε α
  | done a, _ => done a
  | raise e, f => f e
  | call o k, f => call o fun r => (k r).handle f

instance : Monad (Prog Op Ans ε) where
  pure := done
  bind := bind

instance : MonadExcept ε (Prog Op Ans ε) where
  throw := raise
  tryCatch := handle

/-- Issue one call and go on with its value; a failure is raised where the call stands. -/
def await (o : Op) : Prog Op Ans ε (Ans o) :=
  call o fun
    | .ok a => done a
    | .error e => raise e

def throwIf (c : Prop) [Decidable c] (e : ε) : Prog Op Ans ε Unit :=
  if c then raise e else done ()

def fromExcept : Except ε α → Prog Op Ans ε α
  | .ok a => done a
  | .error e => raise e

/-- Try at most `n` times; a try that ends with `none` is followed by the next one. -/
def retry (attempt : Prog Op Ans ε (Option α)) (exhausted : Prog Op Ans ε α) : Nat → Prog Op Ans ε α
  | 0 => exhausted
  | n + 1 => attempt >>= fun
    | some a => pure a
    | none => retry attempt exhausted n

/-- One program for each of the values, one after the other. -/
def each (f : β → Prog Op Ans ε α) : List β → Prog Op Ans ε (List α)
  | [] => pure []
  | b :: bs => do
    let a ← f b
    let rest ← each f bs
    pure (a :: rest)

/-- Clean up where the program raises. -/
def guarded (p : Prog Op Ans ε α) (cleanup : Prog Op Ans ε Unit) : Prog Op Ans ε α :=
  tryCatch p fun e => do
    cleanup
    throw e

/-- Go on with how the program ends. -/
def settle (p : Prog Op Ans ε α) : Prog Op Ans ε (Except ε α) :=
  tryCatch (Except.ok <$> p) fun e => pure (.error e)

/-- Clean up however the program ends. -/
def ensuring (p : Prog Op Ans ε α) (cleanup : Prog Op Ans ε Unit) : Prog Op Ans ε α := do
  match ← settle p with
  | .ok a => do
    cleanup
    pure a
  | .error e => do
    cleanup
    throw e

/-! ## What a program may rely on and must ensure -/

/-- `wp G p Q tr`: after the exchanges `tr`, every call `p` issues satisfies the rule `G` at the
exchanges before it, and `p` ends, if it does, with a result and exchanges that satisfy `Q`. -/
def wp (G : Trace Op Ans ε → Op → Prop) :
    Prog Op Ans ε α → (Except ε α → Trace Op Ans ε → Prop) → Trace Op Ans ε → Prop
  | done a, Q, tr => Q (.ok a) tr
  | raise e, Q, tr => Q (.error e) tr
  | call o k, Q, tr => G tr o ∧ ∀ r, wp G (k r) Q (⟨o, r⟩ :: tr)

variable {G G' : Trace Op Ans ε → Op → Prop} {Q Q' : Except ε α → Trace Op Ans ε → Prop}
  {tr : Trace Op Ans ε}

@[simp] theorem wp_done (a : α) : wp G (done a) Q tr ↔ Q (.ok a) tr := Iff.rfl

@[simp] theorem wp_pure (a : α) : wp G (pure a : Prog Op Ans ε α) Q tr ↔ Q (.ok a) tr := Iff.rfl

@[simp] theorem wp_raise (e : ε) : wp G (raise e : Prog Op Ans ε α) Q tr ↔ Q (.error e) tr := Iff.rfl

@[simp] theorem wp_throw (e : ε) : wp G (throw e : Prog Op Ans ε α) Q tr ↔ Q (.error e) tr := Iff.rfl

theorem wp_call (o : Op) (k : Except ε (Ans o) → Prog Op Ans ε α) :
    wp G (call o k) Q tr ↔ G tr o ∧ ∀ r, wp G (k r) Q (⟨o, r⟩ :: tr) := Iff.rfl

theorem wp_mono {p : Prog Op Ans ε α} (h : wp G p Q tr) (hG : ∀ tr o, G tr o → G' tr o)
    (hQ : ∀ r tr, Q r tr → Q' r tr) : wp G' p Q' tr := by
  induction p generalizing tr with
  | done a => exact hQ _ _ h
  | raise e => exact hQ _ _ h
  | call o k ih => exact ⟨hG _ _ h.1, fun r => ih r (h.2 r)⟩

theorem wp_post {p : Prog Op Ans ε α} (h : wp G p Q tr) (hQ : ∀ r tr, Q r tr → Q' r tr) :
    wp G p Q' tr :=
  wp_mono h (fun _ _ => id) hQ

/-- A program only adds to its exchanges. -/
theorem wp_extends {p : Prog Op Ans ε α} (h : wp G p Q tr) : wp G p (fun r tr' => Q r tr' ∧ tr <:+ tr') tr := by
  have grow : ∀ (p : Prog Op Ans ε α) (tr₁ : Trace Op Ans ε), tr <:+ tr₁ → wp G p Q tr₁ →
      wp G p (fun r tr' => Q r tr' ∧ tr <:+ tr') tr₁ := by
    intro p
    induction p with
    | done a => exact fun tr₁ hs h => ⟨h, hs⟩
    | raise e => exact fun tr₁ hs h => ⟨h, hs⟩
    | call o k ih => exact fun tr₁ hs h => ⟨h.1, fun r => ih r _ (hs.trans (List.suffix_cons _ _)) (h.2 r)⟩
  exact grow p tr List.suffix_rfl h

/-- The result of a step decides what must hold of the rest. -/
def Then (G : Trace Op Ans ε → Op → Prop) (f : α → Prog Op Ans ε β)
    (Q : Except ε β → Trace Op Ans ε → Prop) : Except ε α → Trace Op Ans ε → Prop
  | .ok a, tr => wp G (f a) Q tr
  | .error e, tr => Q (.error e) tr

@[simp] theorem then_ok (f : α → Prog Op Ans ε β) (Q : Except ε β → Trace Op Ans ε → Prop) (a : α) :
    Then G f Q (.ok a) tr = wp G (f a) Q tr := rfl

@[simp] theorem then_error (f : α → Prog Op Ans ε β) (Q : Except ε β → Trace Op Ans ε → Prop) (e : ε) :
    Then G f Q (.error e) tr = Q (.error e) tr := rfl

@[simp] theorem wp_bind (p : Prog Op Ans ε α) (f : α → Prog Op Ans ε β)
    (Q : Except ε β → Trace Op Ans ε → Prop) :
    wp G (p >>= f) Q tr ↔ wp G p (Then G f Q) tr := by
  change wp G (p.bind f) Q tr ↔ _
  induction p generalizing tr with
  | done a => exact Iff.rfl
  | raise e => exact Iff.rfl
  | call o k ih => exact and_congr_right fun _ => forall_congr' fun r => ih r

@[simp] theorem wp_map (p : Prog Op Ans ε α) (f : α → β) (Q : Except ε β → Trace Op Ans ε → Prop) :
    wp G (f <$> p) Q tr ↔ wp G p (Then G (fun a => pure (f a)) Q) tr :=
  wp_bind p (fun a => pure (f a)) Q

/-- A raised failure is passed to the handler, a value goes past it. -/
def Caught (G : Trace Op Ans ε → Op → Prop) (f : ε → Prog Op Ans ε α)
    (Q : Except ε α → Trace Op Ans ε → Prop) : Except ε α → Trace Op Ans ε → Prop
  | .ok a, tr => Q (.ok a) tr
  | .error e, tr => wp G (f e) Q tr

@[simp] theorem caught_ok (f : ε → Prog Op Ans ε α) (a : α) :
    Caught G f Q (.ok a) tr = Q (.ok a) tr := rfl

@[simp] theorem caught_error (f : ε → Prog Op Ans ε α) (e : ε) :
    Caught G f Q (.error e) tr = wp G (f e) Q tr := rfl

@[simp] theorem wp_tryCatch (p : Prog Op Ans ε α) (f : ε → Prog Op Ans ε α) :
    wp G (tryCatch p f) Q tr ↔ wp G p (Caught G f Q) tr := by
  change wp G (p.handle f) Q tr ↔ _
  induction p generalizing tr with
  | done a => exact Iff.rfl
  | raise e => exact Iff.rfl
  | call o k ih => exact and_congr_right fun _ => forall_congr' fun r => ih r

@[simp] theorem wp_await (o : Op) (Q : Except ε (Ans o) → Trace Op Ans ε → Prop) :
    wp G (await o) Q tr ↔ G tr o ∧ ∀ r, Q r (⟨o, r⟩ :: tr) := by
  refine and_congr_right fun _ => forall_congr' fun r => ?_
  cases r <;> exact Iff.rfl

@[simp] theorem wp_throwIf (c : Prop) [Decidable c] (e : ε) (Q : Except ε Unit → Trace Op Ans ε → Prop) :
    wp G (throwIf c e) Q tr ↔ (c → Q (.error e) tr) ∧ (¬ c → Q (.ok ()) tr) := by
  unfold throwIf
  by_cases h : c <;> simp [h]

@[simp] theorem wp_fromExcept (x : Except ε α) (Q : Except ε α → Trace Op Ans ε → Prop) :
    wp G (fromExcept x) Q tr ↔ Q x tr := by
  cases x <;> exact Iff.rfl

@[simp] theorem wp_settle (p : Prog Op Ans ε α) (Q : Except ε (Except ε α) → Trace Op Ans ε → Prop) :
    wp G (settle p) Q tr ↔ wp G p (fun r tr => Q (.ok r) tr) tr := by
  unfold settle
  rw [wp_tryCatch, wp_map]
  refine ⟨fun h => wp_post h fun r tr hr => ?_, fun h => wp_post h fun r tr hr => ?_⟩ <;> cases r <;> exact hr

/-- A rule that takes an invariant of the exchanges into account, and keeps it. -/
theorem wp_inv {I : Trace Op Ans ε → Prop} (hI : ∀ tr o r, I tr → G tr o → I (⟨o, r⟩ :: tr))
    (hG : ∀ tr o, I tr → G tr o → G' tr o) {p : Prog Op Ans ε α} (h₀ : I tr) (h : wp G p Q tr) :
    wp G' p (fun r tr => Q r tr ∧ I tr) tr := by
  induction p generalizing tr with
  | done a => exact ⟨h, h₀⟩
  | raise e => exact ⟨h, h₀⟩
  | call o k ih => exact ⟨hG tr o h₀ h.1, fun r => ih r (hI tr o r h₀ h.1) (h.2 r)⟩

/-- What is cleaned up starts from what the program leaves, however it ends. -/
theorem wp_ensuring_from {I : Trace Op Ans ε → Prop} {p : Prog Op Ans ε α} {cleanup : Prog Op Ans ε Unit}
    (hp : wp G p (fun _ tr' => I tr') tr) (hc : ∀ tr', I tr' → wp G cleanup (fun _ _ => True) tr') :
    wp G (ensuring p cleanup) (fun _ _ => True) tr := by
  refine (wp_bind _ _ _).2 ((wp_settle p _).2 (wp_post hp fun r tr' hi => ?_))
  cases r with
  | ok a => exact (wp_bind _ _ _).2 (wp_post (hc tr' hi) fun r tr'' _ => by cases r <;> trivial)
  | error e => exact (wp_bind _ _ _).2 (wp_post (hc tr' hi) fun r tr'' _ => by cases r <;> trivial)

/-- What a try must establish: the result of the whole, or the invariant before the next try. -/
def Retried (I : Trace Op Ans ε → Prop) (Q : Except ε α → Trace Op Ans ε → Prop) :
    Except ε (Option α) → Trace Op Ans ε → Prop
  | .ok (some a), tr => Q (.ok a) tr
  | .ok none, tr => I tr
  | .error e, tr => Q (.error e) tr

@[simp] theorem retried_some (I : Trace Op Ans ε → Prop) (a : α) :
    Retried I Q (.ok (some a)) tr = Q (.ok a) tr := rfl

@[simp] theorem retried_none (I : Trace Op Ans ε → Prop) :
    Retried I Q (.ok none) tr = I tr := rfl

@[simp] theorem retried_error (I : Trace Op Ans ε → Prop) (e : ε) :
    Retried I Q (.error e) tr = Q (.error e) tr := rfl

/-- The rule for tries: an invariant of the exchanges that every try starts from. -/
theorem wp_retry {attempt : Prog Op Ans ε (Option α)} {exhausted : Prog Op Ans ε α}
    (I : Trace Op Ans ε → Prop) (htry : ∀ tr, I tr → wp G attempt (Retried I Q) tr)
    (hex : ∀ tr, I tr → wp G exhausted Q tr) (n : Nat) (h : I tr) :
    wp G (retry attempt exhausted n) Q tr := by
  induction n generalizing tr with
  | zero => exact hex tr h
  | succ n ih =>
    refine (wp_bind _ _ _).2 (wp_post (htry tr h) fun r tr' hr => ?_)
    rcases r with e | (_ | a)
    · exact hr
    · exact ih hr
    · exact hr

/-- How a loop ends, if every turn keeps the invariant and gives a value of this kind. -/
def EachEnds (I : Trace Op Ans ε → Prop) (E : ε → Trace Op Ans ε → Prop) (P : α → Prop) :
    Except ε (List α) → Trace Op Ans ε → Prop
  | .ok as, tr => (∀ a ∈ as, P a) ∧ I tr
  | .error e, tr => E e tr

/-- How one turn of a loop ends. -/
def TurnEnds (I : Trace Op Ans ε → Prop) (E : ε → Trace Op Ans ε → Prop) (P : α → Prop) :
    Except ε α → Trace Op Ans ε → Prop
  | .ok a, tr => P a ∧ I tr
  | .error e, tr => E e tr

/-- The rule for loops: an invariant of the exchanges that every turn starts from. -/
theorem wp_each {f : β → Prog Op Ans ε α} {I : Trace Op Ans ε → Prop} {E : ε → Trace Op Ans ε → Prop} {P : α → Prop}
    {bs : List β} (hf : ∀ b ∈ bs, ∀ tr, I tr → wp G (f b) (TurnEnds I E P) tr) (h : I tr) :
    wp G (each f bs) (EachEnds I E P) tr := by
  induction bs generalizing tr with
  | nil => exact ⟨fun a ha => absurd ha List.not_mem_nil, h⟩
  | cons b bs ih =>
    refine (wp_bind _ _ _).2 (wp_post (hf b List.mem_cons_self tr h) fun r tr' hr => ?_)
    rcases r with e | a
    · exact hr
    · refine (wp_bind _ _ _).2 (wp_post (ih (fun b' hb' => hf b' (List.mem_cons_of_mem _ hb')) hr.2) fun r tr'' hr' => ?_)
      rcases r with e | as
      · exact hr'
      · exact ⟨List.forall_mem_cons.2 ⟨hr.1, hr'.1⟩, hr'.2⟩

/-! ## What a program makes sure of where it succeeds -/

/-- Nothing is said of a failure. -/
def OnOk (P : α → Trace Op Ans ε → Prop) : Except ε α → Trace Op Ans ε → Prop
  | .ok a, tr => P a tr
  | .error _, _ => True

section OnOk

variable {P P' : α → Trace Op Ans ε → Prop} {P₂ : β → Trace Op Ans ε → Prop}

@[simp] theorem onOk_ok (a : α) : OnOk P (.ok a) tr = P a tr := rfl

@[simp] theorem onOk_error (e : ε) : OnOk P (.error e) tr = True := rfl

theorem OnOk.imp {r : Except ε α} (h : OnOk P r tr) (himp : ∀ a tr, P a tr → P' a tr) : OnOk P' r tr := by
  cases r with
  | ok a => exact himp a tr h
  | error e => trivial

theorem onOk_true (r : Except ε α) : OnOk (fun _ _ => True) r tr := by
  cases r <;> trivial

theorem wp_onOk {p : Prog Op Ans ε α} (h : wp G p (OnOk P) tr) (himp : ∀ a tr, P a tr → P' a tr) :
    wp G p (OnOk P') tr :=
  wp_post h fun _ _ hr => hr.imp himp

/-- The rest of a program starts from what its first part has made sure of. -/
theorem wp_seq {p : Prog Op Ans ε α} {f : α → Prog Op Ans ε β} (hp : wp G p (OnOk P) tr)
    (hf : ∀ a tr, P a tr → wp G (f a) (OnOk P₂) tr) : wp G (p >>= f) (OnOk P₂) tr := by
  refine (wp_bind _ _ _).2 (wp_post hp fun r tr' hr => ?_)
  cases r with
  | ok a => exact hf a tr' hr
  | error e => trivial

theorem wp_ask {o : Op} {R : Ans o → Trace Op Ans ε → Prop} (ho : G tr o) (h : ∀ a, R a (⟨o, .ok a⟩ :: tr)) :
    wp G (await o) (OnOk R) tr := by
  refine (wp_await o _).2 ⟨ho, fun r => ?_⟩
  cases r with
  | ok a => exact h a
  | error e => trivial

/-- A call, and what follows it. -/
theorem wp_ask_seq {o : Op} {f : Ans o → Prog Op Ans ε β} (ho : G tr o)
    (hf : ∀ a, wp G (f a) (OnOk P₂) (⟨o, .ok a⟩ :: tr)) : wp G (await o >>= f) (OnOk P₂) tr := by
  refine wp_seq (wp_ask (R := fun a tr' => tr' = ⟨o, .ok a⟩ :: tr) ho fun a => rfl) ?_
  rintro a _ rfl
  exact hf a

/-- The rule for loops whose turns use up what was prepared for them: an invariant of the values that are left. -/
theorem wp_each_rest {f : β → Prog Op Ans ε α} {I : List β → Trace Op Ans ε → Prop} {bs : List β}
    (hf : ∀ b rest tr, I (b :: rest) tr → wp G (f b) (OnOk fun _ => I rest) tr) (h : I bs tr) :
    wp G (each f bs) (OnOk fun _ => I []) tr := by
  induction bs generalizing tr with
  | nil => exact h
  | cons b bs ih => exact wp_seq (hf b bs tr h) fun _ _ hi => wp_seq (ih hi) fun _ _ hnil => hnil

/-- Past a check the rest runs only where the check lets it. -/
theorem wp_throwIf_seq {c : Prop} [Decidable c] {e : ε} {f : Unit → Prog Op Ans ε β} (hf : ¬ c → wp G (f ()) (OnOk P₂) tr) :
    wp G (throwIf c e >>= f) (OnOk P₂) tr := by
  rw [wp_bind, wp_throwIf]
  exact ⟨fun _ => trivial, hf⟩

theorem wp_fromExcept_seq {x : Except ε α} {f : α → Prog Op Ans ε β} (hf : ∀ a, x = .ok a → wp G (f a) (OnOk P₂) tr) :
    wp G (fromExcept x >>= f) (OnOk P₂) tr := by
  rw [wp_bind, wp_fromExcept]
  cases x with
  | ok a => exact hf a rfl
  | error e => trivial

/-- Whatever is thrown, the handler keeps to the rule. -/
theorem wp_catch {p : Prog Op Ans ε α} {f : ε → Prog Op Ans ε α} (hp : wp G p (OnOk P) tr)
    (hf : ∀ e tr, wp G (f e) (OnOk P) tr) : wp G (tryCatch p f) (OnOk P) tr := by
  refine (wp_tryCatch p f).2 (wp_post hp fun r tr' hr => ?_)
  cases r with
  | ok a => exact hr
  | error e => exact hf e tr'

/-- What is cleaned up afterwards changes nothing about it. -/
theorem wp_ensuring {p : Prog Op Ans ε α} {cleanup : Prog Op Ans ε Unit}
    (hp : wp G p (fun _ _ => True) tr) (hc : ∀ tr, wp G cleanup (fun _ _ => True) tr) :
    wp G (ensuring p cleanup) (fun _ _ => True) tr := by
  refine (wp_bind _ _ _).2 ((wp_settle p _).2 (wp_post hp fun r tr' _ => ?_))
  cases r with
  | ok a => exact (wp_bind _ _ _).2 (wp_post (hc tr') fun r tr'' _ => by cases r <;> trivial)
  | error e => exact (wp_bind _ _ _).2 (wp_post (hc tr') fun r tr'' _ => by cases r <;> trivial)

end OnOk

/-! ## Programs that keep to a rule from anywhere -/

/-- Whatever was exchanged before, the program keeps to the rule. -/
def Always (G : Trace Op Ans ε → Op → Prop) (p : Prog Op Ans ε α) : Prop :=
  ∀ tr, wp G p (fun _ _ => True) tr

section Always

theorem always_pure (a : α) : Always G (pure a : Prog Op Ans ε α) := fun _ => trivial

theorem always_throw (e : ε) : Always G (throw e : Prog Op Ans ε α) := fun _ => trivial

theorem always_throwIf (c : Prop) [Decidable c] (e : ε) : Always G (throwIf c e : Prog Op Ans ε Unit) := by
  intro tr
  rw [wp_throwIf]
  exact ⟨fun _ => trivial, fun _ => trivial⟩

theorem always_await {o : Op} (h : ∀ tr, G tr o) : Always G (await o : Prog Op Ans ε (Ans o)) := by
  intro tr
  rw [wp_await]
  exact ⟨h tr, fun _ => trivial⟩

/-- A step of which only its end matters. -/
theorem wp_after {p : Prog Op Ans ε α} {f : α → Prog Op Ans ε β} {Q : Except ε β → Trace Op Ans ε → Prop}
    (hp : Always G p) (hfail : ∀ e tr, Q (.error e) tr) (hf : ∀ a tr, wp G (f a) Q tr) (tr : Trace Op Ans ε) :
    wp G (p >>= f) Q tr := by
  rw [wp_bind]
  refine wp_post (hp tr) fun r tr' _ => ?_
  cases r with
  | ok a => exact hf a tr'
  | error e => exact hfail e tr'

theorem always_bind {p : Prog Op Ans ε α} {f : α → Prog Op Ans ε β} (hp : Always G p) (hf : ∀ a, Always G (f a)) :
    Always G (p >>= f) :=
  wp_after hp (fun _ _ => trivial) hf

theorem always_retry {attempt : Prog Op Ans ε (Option α)} {exhausted : Prog Op Ans ε α} (ht : Always G attempt)
    (he : Always G exhausted) (n : Nat) : Always G (retry attempt exhausted n) := by
  induction n with
  | zero => exact he
  | succ n ih =>
    refine always_bind ht fun r => ?_
    cases r with
    | none => exact ih
    | some a => exact always_pure a

theorem always_each {f : β → Prog Op Ans ε α} {bs : List β} (hf : ∀ b ∈ bs, Always G (f b)) :
    Always G (each f bs) := by
  induction bs with
  | nil => exact always_pure _
  | cons b bs ih =>
    exact always_bind (hf b List.mem_cons_self) fun a =>
      always_bind (ih fun b' hb' => hf b' (List.mem_cons_of_mem _ hb')) fun rest => always_pure _

theorem always_tryCatch {p : Prog Op Ans ε α} {f : ε → Prog Op Ans ε α} (hp : Always G p)
    (hf : ∀ e, Always G (f e)) : Always G (tryCatch p f) := by
  intro tr
  rw [wp_tryCatch]
  refine wp_post (hp tr) fun r tr' _ => ?_
  cases r with
  | ok a => trivial
  | error e => exact hf e tr'

theorem always_settle {p : Prog Op Ans ε α} (hp : Always G p) : Always G (settle p) :=
  always_tryCatch (always_bind hp fun _ => always_pure _) fun _ => always_pure _

theorem always_ensuring {p : Prog Op Ans ε α} {cleanup : Prog Op Ans ε Unit} (hp : Always G p)
    (hc : Always G cleanup) : Always G (ensuring p cleanup) := by
  refine always_bind (always_settle hp) fun r => ?_
  cases r with
  | ok a => exact always_bind hc fun _ => always_pure a
  | error e => exact always_bind hc fun _ => always_throw e

/-- Cleaning up where a program fails changes nothing about how it succeeds. -/
theorem wp_guarded {p : Prog Op Ans ε α} {cleanup : Prog Op Ans ε Unit} (hc : Always G cleanup)
    (hfail : ∀ e tr, Q (.error e) tr) (h : wp G p Q tr) : wp G (guarded p cleanup) Q tr := by
  unfold guarded
  rw [wp_tryCatch]
  refine wp_post h fun r tr' hr => ?_
  cases r with
  | ok a => exact hr
  | error e =>
    rw [caught_error, wp_bind]
    refine wp_post (hc tr') fun r tr'' _ => ?_
    cases r with
    | ok _ => exact hfail e tr''
    | error e' => exact hfail e' tr''

/-- Without a rule there is nothing to keep to. -/
theorem always_any (p : Prog Op Ans ε α) : Always (fun _ _ => True) p := by
  intro tr
  induction p generalizing tr with
  | done a => trivial
  | raise e => trivial
  | call o k ih => exact ⟨trivial, fun r => ih r _⟩

/-- What later exchanges do not undo, cleaning up does not. -/
theorem wp_ensuring_onOk {P : α → Trace Op Ans ε → Prop} {p : Prog Op Ans ε α} {cleanup : Prog Op Ans ε Unit}
    (hp : wp G p (OnOk P) tr) (hc : Always G cleanup) (hP : ∀ a {tr tr'}, tr <:+ tr' → P a tr → P a tr') :
    wp G (ensuring p cleanup) (OnOk P) tr := by
  refine (wp_bind _ _ _).2 ((wp_settle p _).2 (wp_post hp fun r tr' hr => ?_))
  cases r with
  | ok a =>
    refine (wp_bind _ _ _).2 (wp_post (wp_extends (hc tr')) fun r tr'' hs => ?_)
    cases r with
    | ok _ => exact hP a hs.2 hr
    | error e => trivial
  | error e =>
    refine (wp_bind _ _ _).2 (wp_post (hc tr') fun r tr'' _ => ?_)
    cases r <;> trivial

end Always

/-! ## The calls a program may make at all -/

/-- Every call the program may issue, whatever the answers, is of this kind. -/
def Only (P : Op → Prop) : Prog Op Ans ε α → Prop
  | done _ => True
  | raise _ => True
  | call o k => P o ∧ ∀ r, Only P (k r)

section Only

variable {P : Op → Prop}

theorem only_pure (a : α) : Only P (pure a : Prog Op Ans ε α) := trivial

theorem only_throw (e : ε) : Only P (throw e : Prog Op Ans ε α) := trivial

theorem only_await {o : Op} (h : P o) : Only P (await o : Prog Op Ans ε (Ans o)) :=
  ⟨h, fun r => by cases r <;> trivial⟩

theorem only_throwIf (c : Prop) [Decidable c] (e : ε) : Only P (throwIf c e : Prog Op Ans ε Unit) := by
  unfold throwIf
  split <;> trivial

theorem only_fromExcept (x : Except ε α) : Only P (fromExcept x : Prog Op Ans ε α) := by
  cases x <;> trivial

theorem only_bind {p : Prog Op Ans ε α} {f : α → Prog Op Ans ε β} (hp : Only P p) (hf : ∀ a, Only P (f a)) :
    Only P (p >>= f) := by
  change Only P (p.bind f)
  induction p with
  | done a => exact hf a
  | raise e => trivial
  | call o k ih => exact ⟨hp.1, fun r => ih r (hp.2 r)⟩

theorem only_tryCatch {p : Prog Op Ans ε α} {f : ε → Prog Op Ans ε α} (hp : Only P p) (hf : ∀ e, Only P (f e)) :
    Only P (tryCatch p f) := by
  change Only P (p.handle f)
  induction p with
  | done a => trivial
  | raise e => exact hf e
  | call o k ih => exact ⟨hp.1, fun r => ih r (hp.2 r)⟩

theorem only_retry {attempt : Prog Op Ans ε (Option α)} {exhausted : Prog Op Ans ε α} (ht : Only P attempt)
    (he : Only P exhausted) (n : Nat) : Only P (retry attempt exhausted n) := by
  induction n with
  | zero => exact he
  | succ n ih =>
    refine only_bind ht fun r => ?_
    cases r with
    | none => exact ih
    | some a => trivial

theorem only_each {f : β → Prog Op Ans ε α} (hf : ∀ b, Only P (f b)) (bs : List β) : Only P (each f bs) := by
  induction bs with
  | nil => exact only_pure _
  | cons b bs ih => exact only_bind (hf b) fun a => only_bind ih fun rest => only_pure _

/-- Past a check the rest runs only where the check lets it. -/
theorem only_throwIf_bind {c : Prop} [Decidable c] {e : ε} {f : Unit → Prog Op Ans ε α} (hf : ¬ c → Only P (f ())) :
    Only P (throwIf c e >>= f) := by
  change Only P ((throwIf c e : Prog Op Ans ε Unit).bind f)
  unfold throwIf
  by_cases h : c
  · rw [if_pos h]
    trivial
  · rw [if_neg h]
    exact hf h

theorem only_settle {p : Prog Op Ans ε α} (hp : Only P p) : Only P (settle p) :=
  only_tryCatch (only_bind hp fun _ => only_pure _) fun _ => only_pure _

theorem Only.imp {P' : Op → Prop} {p : Prog Op Ans ε α} (h : Only P p) (himp : ∀ o, P o → P' o) : Only P' p := by
  induction p with
  | done a => trivial
  | raise e => trivial
  | call o k ih => exact ⟨himp o h.1, fun r => ih r (h.2 r)⟩

theorem only_ensuring {p : Prog Op Ans ε α} {cleanup : Prog Op Ans ε Unit} (hp : Only P p) (hc : Only P cleanup) :
    Only P (ensuring p cleanup) := by
  refine only_bind (only_settle hp) fun r => ?_
  cases r with
  | ok a => exact only_bind hc fun _ => only_pure a
  | error e => exact only_bind hc fun _ => only_throw e

theorem only_guarded {p : Prog Op Ans ε α} {cleanup : Prog Op Ans ε Unit} (hp : Only P p) (hc : Only P cleanup) :
    Only P (guarded p cleanup) :=
  only_tryCatch hp fun e => only_bind hc fun _ => only_throw e

theorem only_map {p : Prog Op Ans ε α} (f : α → β) (hp : Only P p) : Only P (f <$> p) :=
  only_bind hp fun a => only_pure (f a)

theorem always_of_only {p : Prog Op Ans ε α} (hp : Only P p) (hG : ∀ tr o, P o → G tr o) : Always G p := by
  intro tr
  induction p generalizing tr with
  | done a => trivial
  | raise e => trivial
  | call o k ih => exact ⟨hG tr o hp.1, fun r => ih r (hp.2 r) _⟩

theorem wp_of_only {p : Prog Op Ans ε α} (h : Only P p) (hQ : ∀ r tr, Q r tr) : wp (fun _ o => P o) p Q tr := by
  induction p generalizing tr with
  | done a => exact hQ _ _
  | raise e => exact hQ _ _
  | call o k ih => exact ⟨h.1, fun r => ih r (h.2 r)⟩

/-- A program of one kind of calls keeps what every exchange of that kind keeps. -/
theorem wp_keeps {I : Trace Op Ans ε → Prop} (hI : ∀ tr x, P x.op → I tr → I (x :: tr)) (hG : ∀ tr o, P o → G tr o)
    {p : Prog Op Ans ε α} (hp : Only P p) (h₀ : I tr) : wp G p (fun _ tr' => I tr') tr :=
  wp_post (wp_inv (fun tr o r hi ho => hI tr ⟨o, r⟩ ho hi) (fun tr o _ ho => hG tr o ho) h₀
    (wp_of_only (Q := fun _ _ => True) hp fun _ _ => trivial)) fun _ _ hr => hr.2

theorem wp_keeps_bind {I : Trace Op Ans ε → Prop} (hI : ∀ tr x, P x.op → I tr → I (x :: tr))
    (hG : ∀ tr o, P o → G tr o) {p : Prog Op Ans ε α} {f : α → Prog Op Ans ε β} {Q : Except ε β → Trace Op Ans ε → Prop}
    (hp : Only P p) (h₀ : I tr) (hfail : ∀ e tr', I tr' → Q (.error e) tr') (hf : ∀ a tr', I tr' → wp G (f a) Q tr') :
    wp G (p >>= f) Q tr := by
  rw [wp_bind]
  refine wp_post (wp_keeps hI hG hp h₀) fun r tr' hi => ?_
  cases r with
  | ok a => exact hf a tr' hi
  | error e => exact hfail e tr' hi

theorem wp_keeps_seq {I : Trace Op Ans ε → Prop} (hI : ∀ tr x, P x.op → I tr → I (x :: tr)) (hG : ∀ tr o, P o → G tr o)
    {p : Prog Op Ans ε α} {f : α → Prog Op Ans ε β} {P₂ : β → Trace Op Ans ε → Prop} (hp : Only P p) (h₀ : I tr)
    (hf : ∀ a tr', I tr' → wp G (f a) (OnOk P₂) tr') : wp G (p >>= f) (OnOk P₂) tr :=
  wp_keeps_bind hI hG hp h₀ (fun _ _ _ => trivial) hf

end Only

end Prog

end Async
