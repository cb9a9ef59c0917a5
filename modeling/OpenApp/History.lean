import Mathlib.Data.List.Basic

/-!
# Events and what came before them

A log holds events, the latest first. What is said about each event of a log, given those before it, is said once for
an event that is added.
-/

namespace History

variable {ε : Type} {P : ε → List ε → Prop} {e : ε} {log : List ε}

/-- Each event of the log meets a condition on the events before it. -/
def Throughout (P : ε → List ε → Prop) (log : List ε) : Prop :=
  ∀ later e earlier, log = later ++ e :: earlier → P e earlier

/-- The event is followed by others that meet a condition. -/
def Since (P : ε → List ε → Prop) (log : List ε) : Prop :=
  ∀ since e earlier, log = since ++ e :: earlier → P e since

theorem throughout_nil : Throughout P [] := by
  intro later e earlier h
  simp at h

theorem throughout_cons : Throughout P (e :: log) ↔ P e log ∧ Throughout P log := by
  constructor
  · exact fun h => ⟨h [] e log rfl, fun later e' earlier hlog => h (e :: later) e' earlier (by rw [hlog, List.cons_append])⟩
  · rintro ⟨he, h⟩ later e' earlier hlog
    rcases List.cons_eq_append_iff.1 hlog with ⟨-, hsame⟩ | ⟨later', -, hrest⟩
    · obtain ⟨rfl, rfl⟩ := List.cons.inj hsame
      exact he
    · exact h later' e' earlier hrest

theorem since_nil : Since P [] := by
  intro since e earlier h
  simp at h

/-- With one more event, the condition is asked of it with nothing since, and of the others with it. -/
theorem since_cons : Since P (e :: log) ↔ P e [] ∧ Since (fun e' since => P e' (e :: since)) log := by
  constructor
  · exact fun h => ⟨h [] e log rfl, fun since e' earlier hlog => h (e :: since) e' earlier (by rw [hlog, List.cons_append])⟩
  · rintro ⟨he, h⟩ since e' earlier hlog
    rcases List.cons_eq_append_iff.1 hlog with ⟨rfl, hsame⟩ | ⟨since', rfl, hrest⟩
    · obtain ⟨rfl, rfl⟩ := List.cons.inj hsame
      exact he
    · exact h since' e' earlier hrest

theorem Since.imp {Q : ε → List ε → Prop} (h : Since P log) (himp : ∀ e since, P e since → Q e since) : Since Q log :=
  fun since e earlier hlog => himp e since (h since e earlier hlog)

end History
