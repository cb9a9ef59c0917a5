import OpenApp.Proxy.Cookies
import OpenApp.Separated

/-!
# The parts of a cookie

The proxy changes a cookie by patterns over the whole text. As no pattern reaches over a semicolon but the
one it starts with, each change is one of the parts between the semicolons.
-/

namespace OpenApp.Proxy

open Script Separated

/-! ## Patterns -/

theorem toLower_or (c : Char) :
    c.toLower = c ∨ (65 ≤ c.toNat ∧ c.toNat ≤ 90 ∧ c.toLower.toNat = c.toNat + 32) := by
  by_cases h : c.val ≥ 'A'.val ∧ c.val ≤ 'Z'.val
  · right
    have hle : 65 ≤ c.toNat := UInt32.le_iff_toNat_le.1 h.1
    have hge : c.toNat ≤ 90 := UInt32.le_iff_toNat_le.1 h.2
    refine ⟨hle, hge, ?_⟩
    unfold Char.toLower
    rw [dif_pos h]
    change (c.val + 32).toNat = c.val.toNat + 32
    have hval : c.val.toNat ≤ 90 := hge
    rw [UInt32.toNat_add]
    exact Nat.mod_eq_of_lt (by simp; omega)
  · left
    unfold Char.toLower
    rw [dif_neg h]

/-- Only letters have another case. -/
theorem eq_of_toLower {c d : Char} (h : c.toLower = d) (hd : d.toNat < 97) : c = d := by
  rcases toLower_or c with hc | ⟨hle, -, hc⟩
  · rw [← h, hc]
  · rw [h] at hc
    omega

theorem matchText_eq_some {text cs m rest : List Char} (h : matchText text cs = some (m, rest)) :
    cs = m ++ rest ∧ m.map fold = text := by
  induction text generalizing cs m with
  | nil =>
    obtain ⟨rfl, rfl⟩ := Prod.mk.inj (Option.some.inj h)
    exact ⟨rfl, rfl⟩
  | cons a text ih =>
    cases cs with
    | nil => cases h
    | cons c cs =>
      rw [matchText] at h
      split at h
      · next hc =>
        obtain ⟨⟨m', rest'⟩, hm, heq⟩ := Option.map_eq_some_iff.1 h
        obtain ⟨rfl, rfl⟩ := Prod.mk.inj heq
        obtain ⟨rfl, rfl⟩ := ih hm
        exact ⟨rfl, by rw [List.map_cons, hc]⟩
      · cases h

/-- A text without a semicolon is not found over one. -/
theorem matchText_glue {text part : List Char} {parts : List (List Char)} (htext : ';' ∉ text) (hne : text ≠ []) :
    matchText text (part ++ glue ';' parts) = (matchText text part).map fun m => (m.1, m.2 ++ glue ';' parts) := by
  have hfold : fold ';' = ';' := by decide
  induction text generalizing part with
  | nil => exact absurd rfl hne
  | cons a text ih =>
    rw [List.mem_cons, not_or] at htext
    cases part with
    | nil =>
      cases parts with
      | nil => rfl
      | cons q parts =>
        rw [List.nil_append, glue_cons, matchText, matchText, hfold, if_neg htext.1]
        rfl
    | cons c part =>
      rw [List.cons_append, matchText, matchText]
      split
      · by_cases htext' : text = []
        · subst htext'
          rfl
        · rw [ih htext.2 htext']
          cases matchText text part <;> rfl
      · rfl

theorem not_whitespace_semicolon : isWhitespace ';' = false := by decide

theorem dropWhile_glue (part : List Char) (parts : List (List Char)) :
    (part ++ glue ';' parts).dropWhile isWhitespace = part.dropWhile isWhitespace ++ glue ';' parts ∧
      (part ++ glue ';' parts).takeWhile isWhitespace = part.takeWhile isWhitespace := by
  induction part with
  | nil =>
    cases parts with
    | nil => exact ⟨rfl, rfl⟩
    | cons q parts => simp [not_whitespace_semicolon]
  | cons c part ih =>
    by_cases hc : isWhitespace c = true
    · rw [List.cons_append, List.dropWhile_cons_of_pos hc, List.dropWhile_cons_of_pos hc, List.takeWhile_cons_of_pos hc,
        List.takeWhile_cons_of_pos hc, ih.1, ih.2]
      exact ⟨rfl, rfl⟩
    · rw [List.cons_append, List.dropWhile_cons_of_neg hc, List.dropWhile_cons_of_neg hc, List.takeWhile_cons_of_neg hc,
        List.takeWhile_cons_of_neg hc]
      exact ⟨rfl, rfl⟩

theorem matchAttribute_glue {name part : List Char} {parts : List (List Char)} (hname : ';' ∉ name) :
    matchAttribute name (part ++ glue ';' parts) =
      (matchAttribute name part).map fun m => (m.1, m.2 ++ glue ';' parts) := by
  have htext : ';' ∉ name ++ ['='] := by
    rw [List.mem_append, not_or]
    exact ⟨hname, by decide⟩
  unfold matchAttribute
  rw [(dropWhile_glue part parts).1, (dropWhile_glue part parts).2, matchText_glue htext (by simp)]
  cases matchText (name ++ ['=']) (part.dropWhile isWhitespace) <;> rfl

/-- A part is written as an attribute when blanks, the name and the sign come first. -/
theorem matchAttribute_eq_some {name part written rest : List Char} (h : matchAttribute name part = some (written, rest)) :
    ∃ blanks word, written = blanks ++ word ++ ['='] ∧ part = written ++ rest ∧ word.map fold = name ∧
      ∀ c ∈ blanks, isWhitespace c = true := by
  unfold matchAttribute at h
  obtain ⟨⟨m, rest'⟩, hm, heq⟩ := Option.map_eq_some_iff.1 h
  obtain ⟨rfl, rfl⟩ := Prod.mk.inj heq
  obtain ⟨hdrop, hfold⟩ := matchText_eq_some hm
  obtain ⟨word, sign, rfl, rfl, hsign⟩ := List.map_eq_append_iff.1 hfold
  obtain ⟨c, rfl, hc⟩ := List.map_eq_singleton_iff.1 hsign
  have hsign : c = '=' := by
    unfold fold at hc
    split at hc
    · cases hc
    · split at hc
      · cases hc
      · have hlower : c.toLower = '=' := hc
        exact eq_of_toLower hlower (by decide)
  subst hsign
  refine ⟨part.takeWhile isWhitespace, word, by rw [List.append_assoc], ?_, rfl, fun c hc => List.mem_takeWhile_imp hc⟩
  have hpart := List.takeWhile_append_dropWhile (p := isWhitespace) (l := part)
  rw [hdrop] at hpart
  rw [List.append_assoc]
  exact hpart.symm

/-! ## Domains and paths -/

/-- Written as a domain, and dropped. -/
def isDomain (part : List Char) : Bool :=
  (matchAttribute "domain".toList part).isSome

/-- Written as a path. -/
def isPath (part : List Char) : Bool :=
  (matchAttribute "path".toList part).isSome

/-- The parts behind the first one that are kept. -/
def keptParts (cookie : List Char) : List (List Char) :=
  (splitCookie cookie).tail.filter fun part => !isDomain part

theorem removeDomains_part {part cs : List Char} (hpart : ';' ∉ part) (dropping : Bool) :
    removeDomains dropping (part ++ cs) = if dropping then removeDomains true cs else part ++ removeDomains false cs := by
  induction part with
  | nil => cases dropping <;> rfl
  | cons c part ih =>
    rw [List.mem_cons, not_or] at hpart
    rw [List.cons_append, removeDomains, if_neg (Ne.symm hpart.1)]
    cases dropping
    · rw [if_neg (by simp), ih hpart.2]
      rfl
    · rw [if_pos rfl, ih hpart.2]
      rfl

theorem removeDomains_glue {parts : List (List Char)} (hparts : ∀ p ∈ parts, ';' ∉ p) (dropping : Bool) :
    removeDomains dropping (glue ';' parts) = glue ';' (parts.filter fun part => !isDomain part) := by
  induction parts generalizing dropping with
  | nil => rfl
  | cons part parts ih =>
    obtain ⟨hpart, hparts⟩ := List.forall_mem_cons.1 hparts
    have hsome : (matchAttribute "domain".toList (part ++ glue ';' parts)).isSome = isDomain part := by
      rw [matchAttribute_glue (by decide), Option.isSome_map, isDomain]
    rw [glue_cons, removeDomains, if_pos rfl, hsome]
    cases hd : isDomain part
    · rw [if_neg (by simp), removeDomains_part hpart, if_neg (by simp), ih hparts,
        List.filter_cons_of_pos (by simp [hd]), glue_cons]
    · rw [if_pos rfl, removeDomains_part hpart, if_pos rfl, ih hparts, List.filter_cons_of_neg (by simp [hd])]

/-- The parts written as a domain are dropped, and no others. -/
theorem removeDomains_eq (cookie : List Char) :
    ∃ pair, splitCookie cookie = pair :: (splitCookie cookie).tail ∧
      removeDomains false cookie = pair ++ glue ';' (keptParts cookie) ∧ ';' ∉ pair ∧
        ∀ part ∈ (splitCookie cookie).tail, ';' ∉ part := by
  obtain ⟨pair, parts, hsplit, hcookie, hpair, hparts⟩ := eq_glue ';' cookie
  have hparts' : splitCookie cookie = pair :: parts := hsplit
  refine ⟨pair, by rw [hparts', List.tail_cons], ?_, hpair, by rw [hparts']; exact hparts⟩
  rw [keptParts, hparts', List.tail_cons, hcookie, removeDomains_part hpair, if_neg (by simp), removeDomains_glue hparts]

theorem matchPath_part {part cs : List Char} (hpart : ';' ∉ part) :
    matchPath (part ++ cs) = (matchPath cs).map fun m => { m with before := part ++ m.before } := by
  induction part with
  | nil => simp
  | cons c part ih =>
    rw [List.mem_cons, not_or] at hpart
    rw [List.cons_append, matchPath, if_neg (Ne.symm hpart.1), ih hpart.2]
    cases matchPath cs <;> rfl

theorem matchPath_none {parts : List (List Char)} (hparts : ∀ p ∈ parts, ';' ∉ p) (hnone : ∀ p ∈ parts, isPath p = false) :
    matchPath (glue ';' parts) = none := by
  induction parts with
  | nil => rfl
  | cons part parts ih =>
    obtain ⟨hpart, hparts⟩ := List.forall_mem_cons.1 hparts
    obtain ⟨hhere, hnone⟩ := List.forall_mem_cons.1 hnone
    rw [isPath, Option.isSome_eq_false_iff, Option.isNone_iff_eq_none] at hhere
    rw [glue_cons, matchPath, if_pos rfl, matchAttribute_glue (by decide), hhere, Option.map_none,
      matchPath_part hpart, ih hparts hnone]
    rfl

theorem takeWhile_part {part : List Char} {parts : List (List Char)} (hpart : ';' ∉ part) :
    (part ++ glue ';' parts).takeWhile (· ≠ ';') = part ∧ (part ++ glue ';' parts).dropWhile (· ≠ ';') = glue ';' parts := by
  induction part with
  | nil =>
    cases parts with
    | nil => exact ⟨rfl, rfl⟩
    | cons q parts => simp
  | cons c part ih =>
    rw [List.mem_cons, not_or] at hpart
    simpa [Ne.symm hpart.1] using ih hpart.2

/-- The first part written as a path is the one that is found. -/
theorem matchPath_some {before after : List (List Char)} {part written rest : List Char}
    (hbefore : ∀ p ∈ before, ';' ∉ p) (hnone : ∀ p ∈ before, isPath p = false) (hpart : ';' ∉ part)
    (hwritten : matchAttribute "path".toList part = some (written, rest)) :
    matchPath (glue ';' (before ++ part :: after)) = some ⟨glue ';' before, ';' :: written, rest, glue ';' after⟩ := by
  induction before with
  | nil =>
    have hrest : ';' ∉ rest := by
      obtain ⟨_, _, -, rfl, -, -⟩ := matchAttribute_eq_some hwritten
      intro hmem
      exact hpart (List.mem_append_right written hmem)
    rw [List.nil_append, glue_cons, matchPath, if_pos rfl, matchAttribute_glue (by decide), hwritten]
    dsimp only [Option.map_some]
    rw [(takeWhile_part hrest).1, (takeWhile_part hrest).2]
    rfl
  | cons q before ih =>
    obtain ⟨hq, hbefore⟩ := List.forall_mem_cons.1 hbefore
    obtain ⟨hhere, hnone⟩ := List.forall_mem_cons.1 hnone
    rw [isPath, Option.isSome_eq_false_iff, Option.isNone_iff_eq_none] at hhere
    rw [List.cons_append, glue_cons, matchPath, if_pos rfl, matchAttribute_glue (by decide), hhere, Option.map_none,
      matchPath_part hq, ih hbefore hnone]
    rfl

end OpenApp.Proxy
