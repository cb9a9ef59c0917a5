import Mathlib.Data.List.Basic

/-!
# Texts one after the other

A list of texts is written as one, each with its length before it. No two lists are written the same.
-/

namespace Framed

/-- The text after its length in bytes. -/
def frame (part : String) : String :=
  toString part.utf8ByteSize ++ ":" ++ part ++ ";"

def framed (parts : List String) : String :=
  String.join (parts.map frame)

theorem toList_frame (part : String) : (frame part).toList = (toString part.utf8ByteSize).toList ++ ':' :: (part.toList ++ [';']) := by
  simp [frame]

theorem toList_framed_cons (part : String) (parts : List String) :
    (framed (part :: parts)).toList = (frame part).toList ++ (framed parts).toList := by
  simp [framed, String.join_cons]

theorem colon_notMem (n : Nat) : ':' ∉ (toString n).toList := by
  intro h
  have hdigit := @Nat.isDigit_of_mem_toDigits 10 n ':' (by decide) (by decide) (by simpa using h)
  exact absurd hdigit (by decide)

theorem toString_inj {m n : Nat} (h : toString m = toString n) : m = n := by
  have hdigits : Nat.toDigits 10 m = Nat.toDigits 10 n := by simpa using congrArg String.toList h
  have hvalue := congrArg (fun cs => Nat.ofDigitChars 10 cs 0) hdigits
  rwa [Nat.ofDigitChars_ten_toDigits, Nat.ofDigitChars_ten_toDigits] at hvalue

/-- What a text is continued by has no bytes when the two have as many. -/
theorem eq_of_continued {left right : String} {more : List Char} (hsize : left.utf8ByteSize = right.utf8ByteSize)
    (h : right.toList = left.toList ++ more) : left = right := by
  have hright : right = left ++ String.ofList more := String.toList_inj.1 (by simpa using h)
  have hmore : (String.ofList more).utf8ByteSize = 0 := by
    rw [hright, String.utf8ByteSize_append] at hsize
    omega
  rw [hright, String.utf8ByteSize_eq_zero_iff.1 hmore, String.append_empty]

/-- Of two texts of one length that stand before something, neither goes on where the other ends. -/
theorem eq_of_prefixes {left right : String} {rest rest' : List Char} (hsize : left.utf8ByteSize = right.utf8ByteSize)
    (h : left.toList ++ rest = right.toList ++ rest') : left = right := by
  rcases List.append_eq_append_iff.1 h with ⟨more, hright, -⟩ | ⟨more, hleft, -⟩
  · exact eq_of_continued hsize hright
  · exact (eq_of_continued hsize.symm hleft).symm

/-- A list is cut in one way at the first of its marks. -/
theorem append_mark_inj {α : Type} {mark : α} {left right rest rest' : List α} (hleft : mark ∉ left) (hright : mark ∉ right)
    (h : left ++ mark :: rest = right ++ mark :: rest') : left = right ∧ rest = rest' := by
  induction left generalizing right with
  | nil =>
    cases right with
    | nil => exact ⟨rfl, (List.cons.inj h).2⟩
    | cons a right => exact absurd (List.cons.inj h).1 fun heq => hright (heq ▸ List.mem_cons_self)
  | cons a left ih =>
    cases right with
    | nil => exact absurd (List.cons.inj h).1.symm fun heq => hleft (heq ▸ List.mem_cons_self)
    | cons b right =>
      obtain ⟨rfl, htail⟩ := List.cons.inj h
      obtain ⟨rfl, hrest⟩ := ih (fun hmem => hleft (List.mem_cons_of_mem _ hmem)) (fun hmem => hright (List.mem_cons_of_mem _ hmem)) htail
      exact ⟨rfl, hrest⟩

theorem frame_append_inj {left right : String} {rest rest' : List Char}
    (h : (frame left).toList ++ rest = (frame right).toList ++ rest') : left = right ∧ rest = rest' := by
  simp only [toList_frame, List.append_assoc, List.cons_append, List.nil_append] at h
  obtain ⟨hlength, hafter⟩ := append_mark_inj (colon_notMem _) (colon_notMem _) h
  have hsize : left.utf8ByteSize = right.utf8ByteSize := toString_inj (String.toList_inj.1 hlength)
  obtain rfl := eq_of_prefixes hsize hafter
  exact ⟨rfl, (List.cons.inj (List.append_cancel_left hafter)).2⟩

theorem framed_injective : Function.Injective framed := by
  intro left
  induction left with
  | nil =>
    rintro (_ | ⟨part, parts⟩) h
    · rfl
    · have hlist := congrArg String.toList h
      rw [toList_framed_cons, toList_frame] at hlist
      simp [framed] at hlist
  | cons part parts ih =>
    rintro (_ | ⟨part', parts'⟩) h
    · have hlist := congrArg String.toList h
      rw [toList_framed_cons, toList_frame] at hlist
      simp [framed] at hlist
    · have hlist := congrArg String.toList h
      rw [toList_framed_cons, toList_framed_cons] at hlist
      obtain ⟨rfl, hrest⟩ := frame_append_inj hlist
      rw [ih (String.toList_inj.1 hrest)]

end Framed
