import OpenApp.Async.Prog

/-!
# Interleaving at the await points

Any number of threads run programs over one world. A step lets one thread exchange its pending
call for an answer; which answer, where the world leaves it open, is a choice of the schedule.
A finished program may go on with another one: a loop whose length is not known in advance is a
program that ends by asking for its own next round.

A run records its events. A rule proved of the programs with `Prog.wp` holds of every event, at
the exchanges its own thread had before (`legal_of_exec`); what the world adds is what its
`perform` says. An invariant of the world or of the events is then an induction over `Legal`.
-/

namespace Async

variable {Op : Type} {Ans : Op → Type} {ε W C σ α ι : Type}

/-- What the threads run on: the effect and the answer of each call, and the body of each round. -/
structure System (Op : Type) (Ans : Op → Type) (ε W C σ α : Type) where
  perform : W → (o : Op) → C → Option (Except ε (Ans o) × W)
  body : σ → Prog Op Ans ε (σ ⊕ α)

/-- One exchange of one thread, with the world it met and the world it left. -/
structure Event (ι Op : Type) (Ans : Op → Type) (ε W : Type) extends Exchange Op Ans ε where
  thread : ι
  before : W
  after : W

structure Config (ι Op : Type) (Ans : Op → Type) (ε W σ α : Type) where
  world : W
  /-- the latest first -/
  events : List (Event ι Op Ans ε W)
  prog : ι → Prog Op Ans ε (σ ⊕ α)

/-! ## Runs -/

section Runs

variable [DecidableEq ι] (S : System Op Ans ε W C σ α)

def start (w : W) (calls : ι → σ) : Config ι Op Ans ε W σ α where
  world := w
  events := []
  prog t := S.body (calls t)

def step (c : Config ι Op Ans ε W σ α) (t : ι) (x : C) : Option (Config ι Op Ans ε W σ α) :=
  match c.prog t with
  | .call o k => (S.perform c.world o x).map fun r =>
      { world := r.2
        events := ⟨⟨o, r.1⟩, t, c.world, r.2⟩ :: c.events
        prog := Function.update c.prog t (k r.1) }
  | .done (.inl s) => some { c with prog := Function.update c.prog t (S.body s) }
  | .done (.inr _) => none
  | .raise _ => none

/-- A schedule names, step by step, the thread that goes on and the choice its call gets. -/
def exec (c : Config ι Op Ans ε W σ α) : List (ι × C) → Option (Config ι Op Ans ε W σ α)
  | [] => some c
  | (t, x) :: rest => (step S c t x).bind fun c' => exec c' rest

end Runs

/-- The thread has come to its end, one way or the other. -/
def Prog.ended : Prog Op Ans ε (σ ⊕ α) → Bool
  | .done (.inr _) => true
  | .raise _ => true
  | _ => false

/-! ## What the events of a run satisfy -/

/-- A statement about every event, given the events before it. -/
def Every (P : List (Event ι Op Ans ε W) → Event ι Op Ans ε W → Prop) :
    List (Event ι Op Ans ε W) → Prop
  | [] => True
  | e :: es => P es e ∧ Every P es

section Every

variable {P P' : List (Event ι Op Ans ε W) → Event ι Op Ans ε W → Prop}
  {e : Event ι Op Ans ε W} {es : List (Event ι Op Ans ε W)}

@[simp] theorem every_nil : Every P ([] : List (Event ι Op Ans ε W)) := trivial

@[simp] theorem every_cons : Every P (e :: es) ↔ P es e ∧ Every P es := Iff.rfl

theorem Every.imp (h : Every P es) (himp : ∀ es e, P es e → P' es e) : Every P' es := by
  induction es with
  | nil => trivial
  | cons e es ih => exact ⟨himp _ _ h.1, ih h.2⟩

theorem every_of_forall (h : ∀ es e, P es e) : Every P es := by
  induction es with
  | nil => trivial
  | cons e es ih => exact ⟨h _ _, ih⟩

theorem Every.and (h : Every P es) (h' : Every P' es) : Every (fun es e => P es e ∧ P' es e) es := by
  induction es with
  | nil => trivial
  | cons e es ih => exact ⟨⟨h.1, h'.1⟩, ih h.2 h'.2⟩

instance decidableEvery {P : List (Event ι Op Ans ε W) → Event ι Op Ans ε W → Prop}
    [∀ es e, Decidable (P es e)] : (es : List (Event ι Op Ans ε W)) → Decidable (Every P es)
  | [] => isTrue trivial
  | e :: es =>
    have := decidableEvery (P := P) es
    inferInstanceAs (Decidable (P es e ∧ Every P es))

/-- What holds of every event holds of the one in the middle. -/
theorem Every.at {later : List (Event ι Op Ans ε W)} (h : Every P (later ++ e :: es)) : P es e := by
  induction later with
  | nil => exact h.1
  | cons _ _ ih => exact ih h.2

theorem Every.suffix {later : List (Event ι Op Ans ε W)} (h : Every P (later ++ es)) : Every P es := by
  induction later with
  | nil => exact h
  | cons _ _ ih => exact ih h.2

end Every

/-- The exchanges of one thread. -/
def traceOf [DecidableEq ι] (t : ι) : List (Event ι Op Ans ε W) → Trace Op Ans ε
  | [] => []
  | e :: es => if e.thread = t then e.toExchange :: traceOf t es else traceOf t es

section TraceOf

variable [DecidableEq ι] {t : ι} {e : Event ι Op Ans ε W} {es : List (Event ι Op Ans ε W)}

@[simp] theorem traceOf_nil : traceOf t ([] : List (Event ι Op Ans ε W)) = [] := rfl

theorem traceOf_own (h : e.thread = t) : traceOf t (e :: es) = e.toExchange :: traceOf t es := by
  simp [traceOf, h]

theorem traceOf_other (h : e.thread ≠ t) : traceOf t (e :: es) = traceOf t es := by
  simp [traceOf, h]

@[simp] theorem traceOf_record_own {x : Exchange Op Ans ε} {w w' : W} :
    traceOf t (⟨x, t, w, w'⟩ :: es) = x :: traceOf t es := traceOf_own rfl

theorem traceOf_record_other {t' : ι} {x : Exchange Op Ans ε} {w w' : W} (h : t' ≠ t) :
    traceOf t (⟨x, t', w, w'⟩ :: es) = traceOf t es := traceOf_other h

theorem traceOf_append (later : List (Event ι Op Ans ε W)) :
    traceOf t (later ++ es) = traceOf t later ++ traceOf t es := by
  induction later with
  | nil => rfl
  | cons e later ih =>
    by_cases h : e.thread = t
    · rw [List.cons_append, traceOf_own h, traceOf_own h, ih, List.cons_append]
    · rw [List.cons_append, traceOf_other h, traceOf_other h, ih]

theorem event_of_mem_traceOf {x : Exchange Op Ans ε} (h : x ∈ traceOf t es) :
    ∃ e ∈ es, e.thread = t ∧ e.toExchange = x := by
  induction es with
  | nil => cases h
  | cons e es ih =>
    by_cases ht : e.thread = t
    · rw [traceOf_own ht] at h
      rcases List.mem_cons.1 h with rfl | h
      · exact ⟨e, List.mem_cons_self, ht, rfl⟩
      · obtain ⟨e', he', hx⟩ := ih h
        exact ⟨e', List.mem_cons_of_mem _ he', hx⟩
    · rw [traceOf_other ht] at h
      obtain ⟨e', he', hx⟩ := ih h
      exact ⟨e', List.mem_cons_of_mem _ he', hx⟩

theorem mem_traceOf {e : Event ι Op Ans ε W} (h : e ∈ es) : e.toExchange ∈ traceOf e.thread es := by
  induction es with
  | nil => cases h
  | cons e' es ih =>
    rcases List.mem_cons.1 h with rfl | h
    · rw [traceOf_own rfl]
      exact List.mem_cons_self
    · by_cases ht : e'.thread = e.thread
      · rw [traceOf_own ht]
        exact List.mem_cons_of_mem _ (ih h)
      · rw [traceOf_other ht]
        exact ih h

/-- An exchange of the thread's own trace is an event of the run, at the place its trace gives. -/
theorem exists_event_of_traceOf {x : Exchange Op Ans ε} (tr₁ : Trace Op Ans ε) {tr₂ : Trace Op Ans ε}
    (h : traceOf t es = tr₁ ++ x :: tr₂) :
    ∃ later e earlier, es = later ++ e :: earlier ∧ e.thread = t ∧ e.toExchange = x ∧
      traceOf t earlier = tr₂ ∧ traceOf t later = tr₁ := by
  induction es generalizing tr₁ with
  | nil => simp at h
  | cons e es ih =>
    by_cases ht : e.thread = t
    · rw [traceOf_own ht] at h
      cases tr₁ with
      | nil =>
        obtain ⟨rfl, rfl⟩ := List.cons.inj h
        exact ⟨[], e, es, rfl, ht, rfl, rfl, rfl⟩
      | cons y tr₁ =>
        obtain ⟨rfl, htail⟩ := List.cons.inj h
        obtain ⟨later, e', earlier, rfl, ht', hx, htr, hl⟩ := ih tr₁ htail
        exact ⟨e :: later, e', earlier, rfl, ht', hx, htr, by rw [traceOf_own ht, hl]⟩
    · rw [traceOf_other ht] at h
      obtain ⟨later, e', earlier, rfl, ht', hx, htr, hl⟩ := ih tr₁ h
      exact ⟨e :: later, e', earlier, rfl, ht', hx, htr, by rw [traceOf_other ht, hl]⟩

end TraceOf

/-- The events of one thread. -/
def eventsOf [DecidableEq ι] (t : ι) (es : List (Event ι Op Ans ε W)) : List (Event ι Op Ans ε W) :=
  es.filter fun e => e.thread = t

section EventsOf

variable [DecidableEq ι] {t : ι} {e : Event ι Op Ans ε W} {es : List (Event ι Op Ans ε W)}

theorem eventsOf_own (h : e.thread = t) : eventsOf t (e :: es) = e :: eventsOf t es := by
  simp [eventsOf, h]

theorem eventsOf_other (h : e.thread ≠ t) : eventsOf t (e :: es) = eventsOf t es := by
  simp [eventsOf, h]

theorem traceOf_eq_map : traceOf t es = (eventsOf t es).map Event.toExchange := by
  induction es with
  | nil => rfl
  | cons e es ih =>
    by_cases h : e.thread = t
    · rw [traceOf_own h, eventsOf_own h, ih, List.map_cons]
    · rw [traceOf_other h, eventsOf_other h, ih]

theorem eventsOf_append (later : List (Event ι Op Ans ε W)) :
    eventsOf t (later ++ es) = eventsOf t later ++ eventsOf t es :=
  List.filter_append ..

end EventsOf

/-- The histories a world admits from `w₀`, when every call was issued by the rule `G`. -/
inductive Legal [DecidableEq ι] (S : System Op Ans ε W C σ α) (G : ι → Trace Op Ans ε → Op → Prop) (w₀ : W) :
    List (Event ι Op Ans ε W) → W → Prop
  | start : Legal S G w₀ [] w₀
  | record {es : List (Event ι Op Ans ε W)} {w w' : W} {t : ι} {o : Op} {x : C} {r : Except ε (Ans o)} :
      Legal S G w₀ es w → S.perform w o x = some (r, w') → G t (traceOf t es) o →
      Legal S G w₀ (⟨⟨o, r⟩, t, w, w'⟩ :: es) w'

section Legal

variable [DecidableEq ι] {S : System Op Ans ε W C σ α} {G : ι → Trace Op Ans ε → Op → Prop} {w₀ w : W}
  {es : List (Event ι Op Ans ε W)}

theorem Legal.imp {G' : ι → Trace Op Ans ε → Op → Prop} (h : Legal S G w₀ es w)
    (himp : ∀ t tr o, G t tr o → G' t tr o) : Legal S G' w₀ es w := by
  induction h with
  | start => exact .start
  | record _ hp hG ih => exact ih.record hp (himp _ _ _ hG)

/-- A history that keeps to two rules keeps to both. -/
theorem Legal.and {G' : ι → Trace Op Ans ε → Op → Prop} (h : Legal S G w₀ es w) (h' : Legal S G' w₀ es w) :
    Legal S (fun t tr o => G t tr o ∧ G' t tr o) w₀ es w := by
  induction h with
  | start => exact .start
  | record _ hp hG ih =>
    cases h' with
    | record h' _ hG' => exact (ih h').record hp ⟨hG, hG'⟩

theorem Legal.suffix {e : Event ι Op Ans ε W} {later : List (Event ι Op Ans ε W)}
    (h : Legal S G w₀ (later ++ e :: es) w) :
    Legal S G w₀ es e.before ∧ G e.thread (traceOf e.thread es) e.op ∧
      ∃ x, S.perform e.before e.op x = some (e.answer, e.after) := by
  induction later generalizing w with
  | nil =>
    cases h with
    | record h hp hG => exact ⟨h, hG, _, hp⟩
  | cons _ _ ih =>
    cases h with
    | record h _ _ => exact ih h

/-- A history cut off after one of its events is a history. -/
theorem Legal.upTo {e : Event ι Op Ans ε W} {later : List (Event ι Op Ans ε W)}
    (h : Legal S G w₀ (later ++ e :: es) w) : Legal S G w₀ (e :: es) e.after := by
  obtain ⟨hes, hG, x, hp⟩ := h.suffix
  exact hes.record hp hG

/-- What an event left is where the later ones started. -/
theorem Legal.after {e : Event ι Op Ans ε W} (h : Legal S G w₀ (e :: es) w) : e.after = w := by
  cases h with
  | record _ _ _ => rfl

/-- A relation on worlds that composes, and that the calls of some kind keep, spans any part of a
history that makes only such calls. -/
theorem Legal.span_of {R : W → W → Prop} {K : Op → Prop} (refl : ∀ w, R w w)
    (trans : ∀ {a b c}, R a b → R b c → R a c)
    (hstep : ∀ {w w' o x r}, K o → S.perform w o x = some (r, w') → R w w')
    {e : Event ι Op Ans ε W} {later : List (Event ι Op Ans ε W)}
    (h : Legal S G w₀ (later ++ e :: es) w) (hK : Every (fun _ e => K e.op) (later ++ e :: es)) : R e.after w := by
  induction later generalizing w with
  | nil => exact h.after ▸ refl _
  | cons _ _ ih =>
    cases h with
    | record h hp _ => exact trans (ih h hK.2) (hstep hK.1 hp)

/-- The same for the part of a history after one of its events, whatever was called before. -/
theorem Legal.span_later {R : W → W → Prop} {K : Op → Prop} (refl : ∀ w, R w w)
    (trans : ∀ {a b c}, R a b → R b c → R a c)
    (hstep : ∀ {w w' o x r}, K o → S.perform w o x = some (r, w') → R w w')
    {e : Event ι Op Ans ε W} {later : List (Event ι Op Ans ε W)}
    (h : Legal S G w₀ (later ++ e :: es) w) (hK : ∀ e ∈ later, K e.op) : R e.after w := by
  induction later generalizing w with
  | nil => exact h.after ▸ refl _
  | cons e' later ih =>
    cases h with
    | record h hp _ =>
      exact trans (ih h fun e he => hK e (List.mem_cons_of_mem _ he)) (hstep (hK _ List.mem_cons_self) hp)

theorem Legal.span {R : W → W → Prop} (refl : ∀ w, R w w) (trans : ∀ {a b c}, R a b → R b c → R a c)
    (hstep : ∀ {w w' o x r}, S.perform w o x = some (r, w') → R w w')
    {e : Event ι Op Ans ε W} {later : List (Event ι Op Ans ε W)}
    (h : Legal S G w₀ (later ++ e :: es) w) : R e.after w :=
  h.span_of (K := fun _ => True) refl trans (fun _ => hstep) (every_of_forall fun _ _ => trivial)

/-- A relation on worlds that composes, and that every event of a history is in, spans any part of it. -/
theorem Legal.span_every {R : W → W → Prop} (refl : ∀ w, R w w) (trans : ∀ {a b c}, R a b → R b c → R a c)
    {e : Event ι Op Ans ε W} {later : List (Event ι Op Ans ε W)} (h : Legal S G w₀ (later ++ e :: es) w)
    (hR : Every (fun _ e => R e.before e.after) (later ++ e :: es)) : R e.after w := by
  induction later generalizing w with
  | nil => exact h.after ▸ refl _
  | cons _ _ ih =>
    cases h with
    | record h _ _ => exact trans (ih h hR.2) hR.1

/-- An exchange of a thread's trace was performed by the world. -/
theorem Legal.performed (h : Legal S G w₀ es w) {t : ι} {x : Exchange Op Ans ε} (hx : x ∈ traceOf t es) :
    ∃ w₁ c w₂, S.perform w₁ x.op c = some (x.answer, w₂) := by
  induction h with
  | start => cases hx
  | @record es w w' t' o c r _ hp _ ih =>
    by_cases ht : t' = t
    · rw [traceOf_own ht] at hx
      rcases List.mem_cons.1 hx with rfl | hx
      · exact ⟨_, _, _, hp⟩
      · exact ih hx
    · rw [traceOf_other ht] at hx
      exact ih hx

/-- The invariant rule: what holds at first and is kept by every event holds after every run. -/
theorem Legal.inv {I : List (Event ι Op Ans ε W) → W → Prop} (h : Legal S G w₀ es w) (h₀ : I [] w₀)
    (hstep : ∀ (es : List (Event ι Op Ans ε W)) (w w' : W) (t : ι) (o : Op) (x : C) (r : Except ε (Ans o)),
      Legal S G w₀ es w → I es w → S.perform w o x = some (r, w') → G t (traceOf t es) o →
      I (⟨⟨o, r⟩, t, w, w'⟩ :: es) w') : I es w := by
  induction h with
  | start => exact h₀
  | record h hp hG ih => exact hstep _ _ _ _ _ _ _ h ih hp hG

/-- Statements about single events are proved the same way, with what came before at hand. -/
theorem Legal.every {P : List (Event ι Op Ans ε W) → Event ι Op Ans ε W → Prop} (h : Legal S G w₀ es w)
    (hstep : ∀ (es : List (Event ι Op Ans ε W)) (w w' : W) (t : ι) (o : Op) (x : C) (r : Except ε (Ans o)),
      Legal S G w₀ es w → Every P es → S.perform w o x = some (r, w') → G t (traceOf t es) o →
      P es ⟨⟨o, r⟩, t, w, w'⟩) : Every P es := by
  induction h with
  | start => trivial
  | record h hp hG ih => exact ⟨hstep _ _ _ _ _ _ _ h ih hp hG, ih⟩

end Legal

/-! ## From the rules of the programs to the events of the runs -/

section Sound

variable [DecidableEq ι] {S : System Op Ans ε W C σ α} {G : ι → Trace Op Ans ε → Op → Prop}
  {Q : ι → Except ε (σ ⊕ α) → Trace Op Ans ε → Prop} {J : ι → σ → Trace Op Ans ε → Prop} {w₀ : W}
  {c c' : Config ι Op Ans ε W σ α}

/-- What a round must establish before the next one, and of what it returns. -/
def Ends (J : σ → Trace Op Ans ε → Prop) (R : α → Trace Op Ans ε → Prop) :
    Except ε (σ ⊕ α) → Trace Op Ans ε → Prop
  | .ok (.inl s), tr => J s tr
  | .ok (.inr a), tr => R a tr
  | .error _, _ => True

/-- What a round must establish before the next one. -/
def Continues (J : σ → Trace Op Ans ε → Prop) : Except ε (σ ⊕ α) → Trace Op Ans ε → Prop :=
  Ends J fun _ _ => True

@[simp] theorem continues_inl (J : σ → Trace Op Ans ε → Prop) (s : σ) (tr : Trace Op Ans ε) :
    Continues (α := α) J (.ok (.inl s)) tr = J s tr := rfl

@[simp] theorem continues_inr (J : σ → Trace Op Ans ε → Prop) (a : α) (tr : Trace Op Ans ε) :
    Continues J (.ok (.inr a)) tr = True := rfl

@[simp] theorem continues_error (J : σ → Trace Op Ans ε → Prop) (e : ε) (tr : Trace Op Ans ε) :
    Continues (α := α) J (.error e) tr = True := rfl

/-- A configuration whose threads will keep to their rules, to the end. -/
structure Lawful (S : System Op Ans ε W C σ α) (G : ι → Trace Op Ans ε → Op → Prop)
    (Q : ι → Except ε (σ ⊕ α) → Trace Op Ans ε → Prop) (w₀ : W) (c : Config ι Op Ans ε W σ α) : Prop where
  legal : Legal S G w₀ c.events c.world
  threads : ∀ t, (c.prog t).wp (G t) (Q t) (traceOf t c.events)

theorem lawful_step (hbody : ∀ t s tr, Q t (.ok (.inl s)) tr → (S.body s).wp (G t) (Q t) tr)
    {t : ι} {x : C} (h : step S c t x = some c') (hc : Lawful S G Q w₀ c) : Lawful S G Q w₀ c' := by
  have ht := hc.threads t
  unfold step at h
  split at h
  · next o k hp =>
    rw [hp] at ht
    obtain ⟨⟨r, w'⟩, hperf, rfl⟩ := Option.map_eq_some_iff.1 h
    refine ⟨hc.legal.record hperf ht.1, fun t' => ?_⟩
    by_cases htt : t' = t
    · subst htt
      simpa [traceOf] using ht.2 r
    · simpa [traceOf, htt, Ne.symm htt] using hc.threads t'
  · next s hp =>
    rw [hp] at ht
    obtain rfl := Option.some.inj h
    refine ⟨hc.legal, fun t' => ?_⟩
    by_cases htt : t' = t
    · subst htt
      simpa using hbody _ _ _ ht
    · simpa [htt] using hc.threads t'
  · exact absurd h (by simp)
  · exact absurd h (by simp)

/-- The soundness of the rules: if every round keeps to `G` from where its predecessor left it,
every run is legal, and what its threads return is as promised. -/
theorem lawful_of_exec {calls : ι → σ} (hstart : ∀ t, Q t (.ok (.inl (calls t))) [])
    (hbody : ∀ t s tr, Q t (.ok (.inl s)) tr → (S.body s).wp (G t) (Q t) tr)
    {sched : List (ι × C)} (h : exec S (start S w₀ calls) sched = some c) : Lawful S G Q w₀ c := by
  have hrun : ∀ (sched : List (ι × C)) (c₁ : Config ι Op Ans ε W σ α), Lawful S G Q w₀ c₁ →
      exec S c₁ sched = some c → Lawful S G Q w₀ c := by
    intro sched
    induction sched with
    | nil =>
      intro c₁ hc h
      obtain rfl := Option.some.inj h
      exact hc
    | cons tx rest ih =>
      obtain ⟨t, x⟩ := tx
      intro c₁ hc h
      obtain ⟨c₂, h₁, h₂⟩ := Option.bind_eq_some_iff.1 h
      exact ih c₂ (lawful_step hbody h₁ hc) h₂
  exact hrun sched _ ⟨.start, fun t => hbody t _ _ (hstart t)⟩ h

theorem legal_of_exec {calls : ι → σ} (hstart : ∀ t, J t (calls t) [])
    (hbody : ∀ t s tr, J t s tr → (S.body s).wp (G t) (Continues (J t)) tr)
    {sched : List (ι × C)} (h : exec S (start S w₀ calls) sched = some c) :
    Legal S G w₀ c.events c.world :=
  (lawful_of_exec (Q := fun t => Continues (J t)) hstart hbody h).legal

/-- What a thread returned is as its rounds promised, at its own exchanges. -/
theorem returned_of_exec {R : ι → α → Trace Op Ans ε → Prop} {calls : ι → σ} (hstart : ∀ t, J t (calls t) [])
    (hbody : ∀ t s tr, J t s tr → (S.body s).wp (G t) (Ends (J t) (R t)) tr)
    {sched : List (ι × C)} (h : exec S (start S w₀ calls) sched = some c) {t : ι} {a : α}
    (hdone : c.prog t = .done (.inr a)) : R t a (traceOf t c.events) := by
  have ht := (lawful_of_exec (Q := fun t => Ends (J t) (R t)) hstart hbody h).threads t
  rw [hdone] at ht
  exact ht

/-- If the rounds of the threads make only calls of this kind, so does every run. -/
theorem every_of_exec {P : Op → Prop} {A : σ → Prop} {calls : ι → σ} (hstart : ∀ t, A (calls t))
    (hbody : ∀ s tr, A s → (S.body s).wp (fun _ o => P o) (Continues fun s _ => A s) tr)
    {sched : List (ι × C)} (h : exec S (start S w₀ calls) sched = some c) :
    Every (fun _ e => P e.op) c.events :=
  (legal_of_exec (G := fun _ _ o => P o) (J := fun _ s _ => A s) hstart (fun _ s tr => hbody s tr) h).every
    fun _ _ _ _ _ _ _ _ _ _ hP => hP

end Sound

end Async
