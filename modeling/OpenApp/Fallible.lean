import Mathlib.Data.List.Forall2

/-!
# Checks one after the other

What an `Except` program has passed when it comes back with a value.
-/

namespace Fallible

variable {ε α β γ : Type}

/-- `if (c) throw e` -/
def refuseIf (c : Prop) [Decidable c] (e : ε) : Except ε Unit :=
  if c then .error e else .ok ()

theorem bind_ok {x : Except ε α} {f : α → Except ε β} {b : β} :
    x >>= f = .ok b ↔ ∃ a, x = .ok a ∧ f a = .ok b := by
  cases x with
  | error e => exact ⟨nofun, fun ⟨_, h, _⟩ => nomatch h⟩
  | ok a =>
    constructor
    · intro h
      exact ⟨a, rfl, h⟩
    · rintro ⟨a', h, hf⟩
      cases h
      exact hf

theorem bind_error {x : Except ε α} {f : α → Except ε β} {e : ε} :
    x >>= f = .error e ↔ x = .error e ∨ ∃ a, x = .ok a ∧ f a = .error e := by
  cases x with
  | error e' =>
    constructor
    · exact fun h => .inl (congrArg Except.error (Except.error.inj h))
    · rintro (h | ⟨_, h, _⟩)
      · exact congrArg Except.error (Except.error.inj h)
      · cases h
  | ok a =>
    constructor
    · exact fun h => .inr ⟨a, rfl, h⟩
    · rintro (h | ⟨a', h, hf⟩)
      · cases h
      · cases h
        exact hf

theorem isOk_iff {x : Except ε α} : x.isOk = true ↔ ∃ a, x = .ok a := by
  cases x <;> simp [Except.isOk, Except.toBool]

/-- A check, and what follows it. -/
theorem check_bind_ok {x : Except ε Unit} {f : Unit → Except ε β} {b : β} :
    x >>= f = .ok b ↔ x = .ok () ∧ f () = .ok b := by
  rw [bind_ok]
  constructor
  · rintro ⟨⟨⟩, hx, hf⟩
    exact ⟨hx, hf⟩
  · rintro ⟨hx, hf⟩
    exact ⟨(), hx, hf⟩

theorem refuseIf_ok {c : Prop} [Decidable c] {e : ε} : refuseIf c e = .ok () ↔ ¬ c := by
  unfold refuseIf
  split
  · exact ⟨nofun, fun h => absurd ‹_› h⟩
  · exact ⟨fun _ => ‹_›, fun _ => rfl⟩

theorem ite_ok {c : Prop} [Decidable c] {a b : α} {e : ε} : (if c then .ok a else .error e) = Except.ok b ↔ c ∧ b = a := by
  split
  · next hc => exact ⟨fun h => ⟨hc, (Except.ok.inj h).symm⟩, fun h => congrArg _ h.2.symm⟩
  · next hc => exact ⟨nofun, fun h => absurd h.1 hc⟩

/-- A check that was passed leaves what stands behind it. -/
theorem refuseIf_bind_ok {c : Prop} [Decidable c] {e : ε} {f : Unit → Except ε β} {b : β} :
    refuseIf c e >>= f = .ok b ↔ ¬ c ∧ f () = .ok b := by
  rw [check_bind_ok, refuseIf_ok]

theorem forM_ok {f : α → Except ε Unit} {l : List α} : l.forM f = .ok () ↔ ∀ a ∈ l, f a = .ok () := by
  induction l with
  | nil => simp [pure, Except.pure]
  | cons a l ih =>
    simp only [List.forM_eq_forM, List.forM_cons, bind_ok] at ih ⊢
    constructor
    · rintro ⟨_, ha, hl⟩
      simpa using ⟨ha, ih.1 hl⟩
    · intro h
      exact ⟨(), h a List.mem_cons_self, ih.2 fun b hb => h b (List.mem_cons_of_mem a hb)⟩

/-- Every element has passed, and gives the result at its place. -/
theorem mapM_ok {f : α → Except ε β} : ∀ {as : List α} {bs : List β}, as.mapM f = .ok bs →
    List.Forall₂ (fun a b => f a = .ok b) as bs
  | [], bs, h => by
    cases h
    exact .nil
  | a :: as, bs, h => by
    rw [List.mapM_cons] at h
    obtain ⟨b, hb, h⟩ := bind_ok.1 h
    obtain ⟨rest, hrest, h⟩ := bind_ok.1 h
    cases h
    exact .cons hb (mapM_ok hrest)

section

variable {f : α → Except ε β} {as : List α} {bs : List β}

/-- What makes one of them fail makes all of them fail. -/
theorem mapM_error {f : α → Except ε β} {P : ε → Prop} (hf : ∀ a e, f a = .error e → P e) {as : List α} {e : ε}
    (h : as.mapM f = .error e) : P e := by
  induction as with
  | nil => cases h
  | cons a as ih =>
    rw [List.mapM_cons, bind_error] at h
    rcases h with ha | ⟨b, -, h⟩
    · exact hf a e ha
    · rcases bind_error.1 h with hrest | ⟨bs, -, h⟩
      · exact ih hrest
      · cases h

/-- Where each element passes, all of them do. -/
theorem exists_mapM_ok {f : α → Except ε β} {as : List α} (h : ∀ a ∈ as, ∃ b, f a = .ok b) : ∃ bs, as.mapM f = .ok bs := by
  induction as with
  | nil => exact ⟨[], rfl⟩
  | cons a as ih =>
    obtain ⟨b, hb⟩ := h a List.mem_cons_self
    obtain ⟨bs, hbs⟩ := ih fun a' ha' => h a' (List.mem_cons_of_mem _ ha')
    exact ⟨b :: bs, by rw [List.mapM_cons, bind_ok]; exact ⟨b, hb, bind_ok.2 ⟨bs, hbs, rfl⟩⟩⟩

theorem mapM_left (h : as.mapM f = .ok bs) : ∀ a ∈ as, ∃ b ∈ bs, f a = .ok b := by
  have hall := mapM_ok h
  clear h
  induction hall with
  | nil => exact nofun
  | cons hab _ ih =>
    intro a ha
    rcases List.mem_cons.1 ha with rfl | ha
    · exact ⟨_, List.mem_cons_self, hab⟩
    · obtain ⟨b, hb, hok⟩ := ih a ha
      exact ⟨b, List.mem_cons_of_mem _ hb, hok⟩

theorem mapM_right (h : as.mapM f = .ok bs) : ∀ b ∈ bs, ∃ a ∈ as, f a = .ok b := by
  have hall := mapM_ok h
  clear h
  induction hall with
  | nil => exact nofun
  | cons hab _ ih =>
    intro b hb
    rcases List.mem_cons.1 hb with rfl | hb
    · exact ⟨_, List.mem_cons_self, hab⟩
    · obtain ⟨a, ha, hok⟩ := ih b hb
      exact ⟨a, List.mem_cons_of_mem _ ha, hok⟩

/-- What an element and its result agree on, the two lists agree on. -/
theorem mapM_map {g : α → γ} {k : β → γ} (h : as.mapM f = .ok bs) (hk : ∀ a b, f a = .ok b → k b = g a) :
    bs.map k = as.map g := by
  have hall := mapM_ok h
  clear h
  induction hall with
  | nil => rfl
  | cons hab _ ih => rw [List.map_cons, List.map_cons, hk _ _ hab, ih]

end

end Fallible
