import Mathlib.Data.List.DropRight
import Mathlib.Data.List.Infix

/-!
# Texts in parts

A text is its parts with a separator between them, and a part is what is in it with blanks around it. A
text that is changed part by part is read part by part again.
-/

namespace Separated

variable {α : Type}

/-- Parts, each one behind a separator. -/
def glue (sep : α) (parts : List (List α)) : List α :=
  parts.flatMap (sep :: ·)

variable {sep : α} {part cs : List α} {parts : List (List α)}

@[simp] theorem glue_nil : glue sep [] = [] := rfl

@[simp] theorem glue_cons : glue sep (part :: parts) = sep :: (part ++ glue sep parts) := rfl

@[simp] theorem glue_append {left right : List (List α)} : glue sep (left ++ right) = glue sep left ++ glue sep right :=
  List.flatMap_append

theorem intercalate_eq_glue : [sep].intercalate (part :: parts) = part ++ glue sep parts := by
  induction parts generalizing part with
  | nil => simp
  | cons next parts ih => rw [List.intercalate_cons_cons, ih, glue_cons, List.append_assoc, List.singleton_append]

/-! ## Blanks -/

/-- Without the blanks around it. -/
def strip (blank : α → Bool) (l : List α) : List α :=
  (l.dropWhile blank).rdropWhile blank

variable {blank : α → Bool} {a : α} {l front word : List α}

theorem strip_of_all (h : ∀ a ∈ l, blank a = false) : strip blank l = l := by
  have hdrop : ∀ l : List α, (∀ a ∈ l, blank a = false) → l.dropWhile blank = l := by
    intro l hl
    cases l with
    | nil => rfl
    | cons a l => rw [List.dropWhile_cons_of_neg (by simp [hl a List.mem_cons_self])]
  rw [strip, hdrop l h, List.rdropWhile, hdrop _ (by simpa using h), List.reverse_reverse]

theorem strip_cons (h : blank a = true) : strip blank (a :: l) = strip blank l := by
  rw [strip, List.dropWhile_cons_of_pos h, strip]

theorem rdropWhile_cons (a : α) (l : List α) :
    (a :: l).rdropWhile blank = if l.rdropWhile blank = [] ∧ blank a = true then [] else a :: l.rdropWhile blank := by
  unfold List.rdropWhile
  rw [List.reverse_cons, List.dropWhile_append]
  cases hdrop : l.reverse.dropWhile blank with
  | nil => by_cases ha : blank a = true <;> simp [ha]
  | cons b rest => simp

/-- The ends are dropped in either order, where the end is dropped by fewer of the blanks. -/
theorem dropWhile_rdropWhile_comm {fewer : α → Bool} (h : ∀ a, fewer a = true → blank a = true) (l : List α) :
    (l.rdropWhile fewer).dropWhile blank = (l.dropWhile blank).rdropWhile fewer := by
  induction l with
  | nil => simp
  | cons a l ih =>
    rw [rdropWhile_cons]
    by_cases ha : blank a = true
    · rw [List.dropWhile_cons_of_pos ha, ← ih]
      split
      · next hnil => rw [hnil.1]
      · rw [List.dropWhile_cons_of_pos ha]
    · have hfewer : ¬fewer a = true := fun hf => ha (h a hf)
      rw [List.dropWhile_cons_of_neg ha, if_neg fun hc => hfewer hc.2, List.dropWhile_cons_of_neg ha, rdropWhile_cons,
        if_neg fun hc => hfewer hc.2]

/-- Fewer blanks may be dropped first. -/
theorem strip_of_strip {fewer : α → Bool} (h : ∀ a, fewer a = true → blank a = true) (l : List α) :
    strip blank (strip fewer l) = strip blank l := by
  have hdrop : ∀ l : List α, (l.dropWhile fewer).dropWhile blank = l.dropWhile blank := by
    intro l
    induction l with
    | nil => rfl
    | cons a l ih =>
      by_cases ha : fewer a = true
      · rw [List.dropWhile_cons_of_pos ha, List.dropWhile_cons_of_pos (h a ha), ih]
      · rw [List.dropWhile_cons_of_neg ha]
  have hrdrop : ∀ l : List α, (l.rdropWhile fewer).rdropWhile blank = l.rdropWhile blank := by
    intro l
    unfold List.rdropWhile
    rw [List.reverse_reverse, hdrop]
  unfold strip
  rw [dropWhile_rdropWhile_comm h, hrdrop, hdrop]

theorem strip_strip (l : List α) : strip blank (strip blank l) = strip blank l :=
  strip_of_strip (fun _ h => h) l

theorem mem_of_mem_strip (h : a ∈ strip blank l) : a ∈ l := by
  have hdrop : a ∈ l.dropWhile blank := (List.rdropWhile_prefix blank _).subset h
  exact (List.dropWhile_suffix blank).subset hdrop

/-- What is no blank stays. -/
theorem mem_strip (ha : a ∈ l) (h : blank a = false) : a ∈ strip blank l := by
  have hdrop : ∀ l : List α, a ∈ l → a ∈ l.dropWhile blank := by
    intro l ha
    rw [← List.takeWhile_append_dropWhile (p := blank) (l := l)] at ha
    rcases List.mem_append.1 ha with ha | ha
    · rw [List.mem_takeWhile_imp ha] at h
      cases h
    · exact ha
  unfold strip List.rdropWhile
  rw [List.mem_reverse]
  apply hdrop
  rw [List.mem_reverse]
  exact hdrop l ha

/-- What has no blank at its end stays in front. -/
theorem prefix_rdropWhile (hlast : ∀ b, word.getLast? = some b → blank b = false) :
    word <+: (word ++ l).rdropWhile blank := by
  induction l using List.reverseRecOn with
  | nil =>
    rw [List.append_nil, List.rdropWhile_eq_self_iff.2]
    intro hne
    simp [hlast _ (List.getLast?_eq_some_getLast hne)]
  | append_singleton l b ih =>
    rw [← List.append_assoc]
    by_cases hb : blank b = true
    · rw [List.rdropWhile_concat_pos blank _ _ hb]
      exact ih
    · rw [List.rdropWhile_concat_neg blank _ _ hb, List.append_assoc]
      exact List.prefix_append word (l ++ [b])

theorem prefix_strip (hhead : ∀ b, word.head? = some b → blank b = false)
    (hlast : ∀ b, word.getLast? = some b → blank b = false) (hne : word ≠ []) : word <+: strip blank (word ++ l) := by
  cases word with
  | nil => exact absurd rfl hne
  | cons b word =>
    have hb : ¬blank b = true := by simp [hhead b rfl]
    rw [strip, List.cons_append, List.dropWhile_cons_of_neg hb, ← List.cons_append]
    exact prefix_rdropWhile hlast

/-- What stands before a word without blanks at its ends is left where it is no blank. -/
theorem strip_append (hhead : ∀ b, word.head? = some b → blank b = false)
    (hlast : ∀ b, word.getLast? = some b → blank b = false) (hne : word ≠ []) :
    strip blank (front ++ word) = front.dropWhile blank ++ word := by
  have hend : ∀ front : List α, (front ++ word).rdropWhile blank = front ++ word := by
    intro front
    apply List.rdropWhile_eq_self_iff.2
    intro hne'
    rw [List.getLast_append_of_ne_nil hne' hne]
    simp [hlast _ (List.getLast?_eq_some_getLast hne)]
  induction front with
  | nil =>
    cases word with
    | nil => exact absurd rfl hne
    | cons b word =>
      have hb : ¬blank b = true := by simp [hhead b rfl]
      rw [strip, List.nil_append, List.dropWhile_cons_of_neg hb, List.dropWhile_nil, List.nil_append]
      exact hend []
  | cons b front ih =>
    by_cases hb : blank b = true
    · rw [List.cons_append, strip_cons hb, ih, List.dropWhile_cons_of_pos hb]
    · rw [strip, List.cons_append, List.dropWhile_cons_of_neg hb, List.dropWhile_cons_of_neg hb, ← List.cons_append]
      exact hend (b :: front)

/-! ## Splitting -/

section Splitting

variable [DecidableEq α]

theorem splitOn_glue (hpart : sep ∉ part) (hparts : ∀ p ∈ parts, sep ∉ p) :
    (part ++ glue sep parts).splitOn sep = part :: parts := by
  rw [← intercalate_eq_glue]
  apply List.splitOn_intercalate
  · exact List.forall_mem_cons.2 ⟨hpart, hparts⟩
  · exact List.cons_ne_nil part parts

theorem not_mem_of_mem_splitOn (h : part ∈ cs.splitOn sep) : sep ∉ part := by
  induction cs generalizing part with
  | nil =>
    rw [List.splitOn_nil] at h
    rw [List.mem_singleton.1 h]
    exact List.not_mem_nil
  | cons c cs ih =>
    rw [List.splitOn_cons_eq_if_modifyHead] at h
    split at h
    · rcases List.mem_cons.1 h with rfl | h
      · exact List.not_mem_nil
      · exact ih h
    · next hc =>
      have hne := List.splitOn_ne_nil sep cs
      cases hsplit : cs.splitOn sep with
      | nil => exact absurd hsplit hne
      | cons first rest =>
        rw [hsplit, List.modifyHead_cons] at h
        rcases List.mem_cons.1 h with rfl | h
        · rw [List.mem_cons, not_or]
          constructor
          · rintro rfl
            simp at hc
          · apply ih
            rw [hsplit]
            exact List.mem_cons_self
        · apply ih
          rw [hsplit]
          exact List.mem_cons_of_mem first h

/-- Every text is made of its parts. -/
theorem eq_glue (sep : α) (cs : List α) : ∃ part parts, cs.splitOn sep = part :: parts ∧ cs = part ++ glue sep parts ∧
    sep ∉ part ∧ ∀ p ∈ parts, sep ∉ p := by
  cases hsplit : cs.splitOn sep with
  | nil => exact absurd hsplit (List.splitOn_ne_nil sep cs)
  | cons part parts =>
    refine ⟨part, parts, rfl, ?_, ?_, ?_⟩
    · rw [← intercalate_eq_glue, ← hsplit, List.intercalate_splitOn]
    · have hmem : part ∈ cs.splitOn sep := by
        rw [hsplit]
        exact List.mem_cons_self
      exact not_mem_of_mem_splitOn hmem
    · intro p hp
      have hmem : p ∈ cs.splitOn sep := by
        rw [hsplit]
        exact List.mem_cons_of_mem part hp
      exact not_mem_of_mem_splitOn hmem

theorem mem_of_mem_splitOn {c : α} (h : part ∈ cs.splitOn sep) (hc : c ∈ part) : c ∈ cs := by
  obtain ⟨first, parts, hsplit, hcs, -, -⟩ := eq_glue sep cs
  rw [hsplit] at h
  rw [hcs]
  rcases List.mem_cons.1 h with rfl | h
  · exact List.mem_append_left _ hc
  · exact List.mem_append_right _ (List.mem_flatMap.2 ⟨part, h, List.mem_cons_of_mem sep hc⟩)

end Splitting

end Separated
