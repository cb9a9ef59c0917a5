import Mathlib.Data.List.Basic

/-!
# Texts from which something was cut

A cut leaves out some of the entries of a list and may put a blank where one of them was. Where some of
the entries are marked, a cut spares them if all of them are still there. What is spared is found again
as it stood: entries that followed one another still do.
-/

namespace Cuts

variable {α : Type} {blank : α} {kept : α → Bool} {s t o m x y : List α}

/-- `o` is `s` with some entries left out, and a blank in the place of some of these. -/
inductive Cut (blank : α) : List α → List α → Prop
  | nil : Cut blank [] []
  | keep (a : α) {s o : List α} : Cut blank s o → Cut blank (a :: s) (a :: o)
  | drop (a : α) {s o : List α} : Cut blank s o → Cut blank (a :: s) o
  | blank (a : α) {s o : List α} : Cut blank s o → Cut blank (a :: s) (blank :: o)

/-- Every marked entry is still there. -/
def Spares (kept : α → Bool) (s o : List α) : Prop :=
  o.filter kept = s.filter kept

theorem Cut.refl (s : List α) : Cut blank s s := by
  induction s with
  | nil => exact .nil
  | cons a s ih => exact .keep a ih

theorem Cut.trans (h : Cut blank s m) (h' : Cut blank m o) : Cut blank s o := by
  induction h generalizing o with
  | nil => exact h'
  | keep a _ ih =>
    cases h' with
    | keep _ h' => exact .keep a (ih h')
    | drop _ h' => exact .drop a (ih h')
    | blank _ h' => exact .blank a (ih h')
  | drop a _ ih => exact .drop a (ih h')
  | blank a _ ih =>
    cases h' with
    | keep _ h' => exact .blank a (ih h')
    | drop _ h' => exact .drop a (ih h')
    | blank _ h' => exact .blank a (ih h')

/-- A cut of a text is a cut of each of its parts. -/
theorem Cut.split (h : Cut blank (x ++ y) o) : ∃ a b, o = a ++ b ∧ Cut blank x a ∧ Cut blank y b := by
  induction x generalizing o with
  | nil => exact ⟨[], o, rfl, .nil, h⟩
  | cons c x ih =>
    cases h with
    | keep _ h =>
      obtain ⟨a, b, rfl, ha, hb⟩ := ih h
      exact ⟨c :: a, b, rfl, .keep c ha, hb⟩
    | drop _ h =>
      obtain ⟨a, b, rfl, ha, hb⟩ := ih h
      exact ⟨a, b, rfl, .drop c ha, hb⟩
    | blank _ h =>
      obtain ⟨a, b, rfl, ha, hb⟩ := ih h
      exact ⟨blank :: a, b, rfl, .blank c ha, hb⟩

theorem Cut.length_le (h : Cut blank s o) : o.length ≤ s.length := by
  induction h with
  | nil => exact Nat.le_refl 0
  | keep _ _ ih => simpa using ih
  | drop _ _ ih => exact Nat.le_succ_of_le ih
  | blank _ _ ih => simpa using ih

section Marks

variable (hblank : kept blank = false)

include hblank

/-- No cut makes marked entries. -/
theorem Cut.filter_sublist (h : Cut blank s o) : (o.filter kept).Sublist (s.filter kept) := by
  induction h with
  | nil => exact List.Sublist.refl _
  | keep a _ ih =>
    simp only [List.filter_cons]
    split
    · exact ih.cons_cons a
    · exact ih
  | drop a _ ih =>
    simp only [List.filter_cons]
    split
    · exact ih.cons a
    · exact ih
  | blank a _ ih =>
    rw [List.filter_cons_of_neg (by simp [hblank]), List.filter_cons]
    split
    · exact ih.cons a
    · exact ih

theorem Cut.spares_iff_length (h : Cut blank s o) :
    Spares kept s o ↔ (o.filter kept).length = (s.filter kept).length :=
  ⟨fun hs => congrArg List.length hs, fun hl => (h.filter_sublist hblank).eq_of_length hl⟩

/-- Only an entry without a mark may be left out. -/
theorem Cut.spares_drop (a : α) (h : Cut blank s o) : Spares kept (a :: s) o ↔ kept a = false ∧ Spares kept s o := by
  rw [(h.drop a).spares_iff_length hblank, h.spares_iff_length hblank]
  have hle := (h.filter_sublist hblank).length_le
  cases ha : kept a with
  | false => simp [ha]
  | true =>
    simp [ha]
    omega

theorem Cut.spares_blank (a : α) (h : Cut blank s o) :
    Spares kept (a :: s) (blank :: o) ↔ kept a = false ∧ Spares kept s o := by
  rw [← h.spares_drop hblank]
  simp [Spares, hblank]

omit hblank in
theorem spares_keep (a : α) : Spares kept (a :: s) (a :: o) ↔ Spares kept s o := by
  unfold Spares
  cases ha : kept a <;> simp [ha]

theorem Cut.spares_append {a b : List α} (ha : Cut blank x a) (hb : Cut blank y b) :
    Spares kept (x ++ y) (a ++ b) ↔ Spares kept x a ∧ Spares kept y b := by
  constructor
  · intro h
    have hlen : ((a ++ b).filter kept).length = ((x ++ y).filter kept).length := congrArg List.length h
    simp only [List.filter_append, List.length_append] at hlen
    have hx := (ha.filter_sublist hblank).length_le
    have hy := (hb.filter_sublist hblank).length_le
    exact ⟨(ha.spares_iff_length hblank).2 (by omega), (hb.spares_iff_length hblank).2 (by omega)⟩
  · rintro ⟨hx, hy⟩
    unfold Spares at hx hy ⊢
    rw [List.filter_append, List.filter_append, hx, hy]

/-- Two cuts spare what each of them spares. -/
theorem Cut.spares_trans (h : Cut blank s m) (h' : Cut blank m o) :
    Spares kept s o ↔ Spares kept s m ∧ Spares kept m o := by
  constructor
  · intro hs
    have hlen : (o.filter kept).length = (s.filter kept).length := congrArg List.length hs
    have hm := (h.filter_sublist hblank).length_le
    have ho := (h'.filter_sublist hblank).length_le
    exact ⟨(h.spares_iff_length hblank).2 (by omega), (h'.spares_iff_length hblank).2 (by omega)⟩
  · rintro ⟨hm, ho⟩
    exact Eq.trans ho hm

/-- Where everything is marked, nothing is cut. -/
theorem Cut.eq_of_all (h : Cut blank s o) (hall : ∀ a ∈ s, kept a = true) (hs : Spares kept s o) : o = s := by
  induction h with
  | nil => rfl
  | keep a _ ih => rw [ih (fun b hb => hall b (List.mem_cons_of_mem _ hb)) ((spares_keep a).1 hs)]
  | drop a h _ =>
    have ha := ((h.spares_drop hblank a).1 hs).1
    rw [hall a List.mem_cons_self] at ha
    cases ha
  | blank a h _ =>
    have ha := ((h.spares_blank hblank a).1 hs).1
    rw [hall a List.mem_cons_self] at ha
    cases ha

/-- What is marked throughout stands in the rest as it stood in the whole. -/
theorem Cut.infix_of_spares (h : Cut blank s o) (hs : Spares kept s o) (hall : ∀ a ∈ t, kept a = true)
    (ht : t <:+: s) : t <:+: o := by
  obtain ⟨x, y, rfl⟩ := ht
  obtain ⟨ab, c, rfl, hab, hc⟩ := h.split
  obtain ⟨a, b, rfl, ha, hb⟩ := hab.split
  have hxt := ((hab.spares_append hblank hc).1 hs).1
  have hbt : Spares kept t b := ((ha.spares_append hblank hb).1 hxt).2
  obtain rfl := hb.eq_of_all hblank hall hbt
  exact ⟨a, c, rfl⟩

end Marks

end Cuts
