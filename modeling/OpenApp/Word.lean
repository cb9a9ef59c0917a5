import OpenApp.Script

/-!
# Words

Identifiers are words of letters, digits, dots, underscores and hyphens that start with a letter or a
digit. Nothing of one is trimmed, and one without capitals is in lower case already.
-/

namespace OpenApp.Script

def isWordChar (c : Char) : Bool :=
  c.isAlphanum || c = '.' || c = '_' || c = '-'

/-- `/^[A-Za-z0-9][A-Za-z0-9._-]{0,limit}$/u` -/
def isWord (limit : Nat) (value : String) : Bool :=
  match value.toList with
  | [] => false
  | c :: cs => c.isAlphanum && cs.length ≤ limit && cs.all isWordChar

def isLowerWordChar (c : Char) : Bool :=
  c.isLower || c.isDigit || c = '.' || c = '_' || c = '-'

/-- `/^[a-z0-9][a-z0-9._-]{0,limit}$/u` -/
def isLowerWord (limit : Nat) (value : String) : Bool :=
  match value.toList with
  | [] => false
  | c :: cs => (c.isLower || c.isDigit) && cs.length ≤ limit && cs.all isLowerWordChar

variable {limit : Nat} {value : String} {c : Char}

theorem isLower_iff : c.isLower = true ↔ 97 ≤ c.toNat ∧ c.toNat ≤ 122 := by
  change (decide (97 ≤ c.val) && decide (c.val ≤ 122)) = true ↔ _
  rw [Bool.and_eq_true, decide_eq_true_eq, decide_eq_true_eq, UInt32.le_iff_toNat_le, UInt32.le_iff_toNat_le]
  exact Iff.rfl

theorem isAlphanum_iff : c.isAlphanum = true ↔
    ((65 ≤ c.toNat ∧ c.toNat ≤ 90) ∨ (97 ≤ c.toNat ∧ c.toNat ≤ 122)) ∨ (48 ≤ c.toNat ∧ c.toNat ≤ 57) := by
  change (decide (65 ≤ c.val ∧ c.val ≤ 90) || c.isLower || (decide (48 ≤ c.val) && decide (c.val ≤ 57))) = true ↔ _
  rw [Bool.or_eq_true, Bool.or_eq_true, Bool.and_eq_true, isLower_iff]
  simp only [decide_eq_true_eq, UInt32.le_iff_toNat_le]
  exact Iff.rfl

theorem isAlphanum_of_isLower (h : c.isLower = true) : c.isAlphanum = true :=
  isAlphanum_iff.2 (.inl (.inr (isLower_iff.1 h)))

theorem isAlphanum_of_isDigit (h : c.isDigit = true) : c.isAlphanum = true := by
  rw [Char.isAlphanum, h, Bool.or_true]

theorem isWordChar_range (h : isWordChar c = true) : 45 ≤ c.toNat ∧ c.toNat ≤ 122 := by
  simp only [isWordChar, Bool.or_eq_true, decide_eq_true_eq, isAlphanum_iff] at h
  rcases h with ((h | rfl) | rfl) | rfl
  · omega
  all_goals decide

theorem isLowerWordChar_range (h : isLowerWordChar c = true) : c.toNat < 65 ∨ 90 < c.toNat := by
  simp only [isLowerWordChar, Char.isDigit, Bool.or_eq_true, Bool.and_eq_true, decide_eq_true_eq, isLower_iff,
    UInt32.le_iff_toNat_le] at h
  rcases h with (((h | ⟨-, h⟩) | rfl) | rfl) | rfl
  · omega
  · exact .inl (Nat.lt_of_le_of_lt h (by decide))
  all_goals decide

theorem isWordChar_of_lower (h : isLowerWordChar c = true) : isWordChar c = true := by
  simp only [isLowerWordChar, Bool.or_eq_true] at h
  simp only [isWordChar, Bool.or_eq_true]
  rcases h with (((h | h) | h) | h) | h
  · exact .inl (.inl (.inl (isAlphanum_of_isLower h)))
  · exact .inl (.inl (.inl (isAlphanum_of_isDigit h)))
  · exact .inl (.inl (.inr h))
  · exact .inl (.inr h)
  · exact .inr h

/-- Lowering a character changes a capital letter alone. -/
theorem toLower_eq (h : c.toNat < 65 ∨ 90 < c.toNat) : c.toLower = c := by
  unfold Char.toLower
  rw [dif_neg]
  rintro ⟨hl, hu⟩
  have hle : 65 ≤ c.toNat := UInt32.le_iff_toNat_le.1 hl
  have hge : c.toNat ≤ 90 := UInt32.le_iff_toNat_le.1 hu
  omega

theorem isWord_chars (h : isWord limit value = true) : ∀ c ∈ value.toList, isWordChar c = true := by
  unfold isWord at h
  split at h
  · cases h
  · next c cs heq =>
    simp only [Bool.and_eq_true, List.all_eq_true] at h
    rw [heq]
    intro c' hc
    rcases List.mem_cons.1 hc with rfl | hc
    · simp [isWordChar, h.1.1]
    · exact h.2 c' hc

theorem isLowerWord_chars (h : isLowerWord limit value = true) : ∀ c ∈ value.toList, isLowerWordChar c = true := by
  unfold isLowerWord at h
  split at h
  · cases h
  · next c cs heq =>
    simp only [Bool.and_eq_true, List.all_eq_true] at h
    rw [heq]
    intro c' hc
    rcases List.mem_cons.1 hc with rfl | hc
    · simp [isLowerWordChar, h.1.1]
    · exact h.2 c' hc

theorem trim_of_chars (h : ∀ c ∈ value.toList, isWordChar c = true) : trim value = value := by
  apply trim_of_all
  intro c hc
  have := isWordChar_range (h c hc)
  simp only [isWhitespace, List.mem_cons, List.not_mem_nil, or_false, Bool.or_eq_false_iff, Bool.and_eq_false_iff,
    decide_eq_false_iff_not]
  omega

theorem trim_of_isWord (h : isWord limit value = true) : trim value = value :=
  trim_of_chars (isWord_chars h)

theorem isLowerWord_mono {limit' : Nat} (hlimit : limit ≤ limit') (h : isLowerWord limit value = true) :
    isLowerWord limit' value = true := by
  unfold isLowerWord at h ⊢
  split at h
  · cases h
  · simp only [Bool.and_eq_true, decide_eq_true_eq] at h ⊢
    exact ⟨⟨h.1.1, Nat.le_trans h.1.2 hlimit⟩, h.2⟩

theorem ne_empty_of_isWord (h : isWord limit value = true) : value ≠ "" := by
  rintro rfl
  cases h

theorem ne_empty_of_isLowerWord (h : isLowerWord limit value = true) : value ≠ "" := by
  rintro rfl
  cases h

theorem normalized_of_isLowerWord (h : isLowerWord limit value = true) : toLowerCase (trim value) = value := by
  have hchars := isLowerWord_chars h
  rw [trim_of_chars fun c hc => isWordChar_of_lower (hchars c hc)]
  apply String.toList_inj.1
  unfold toLowerCase
  rw [String.toList_ofList]
  conv_rhs => rw [← List.map_id value.toList]
  apply List.map_congr_left
  intro c hc
  have hrange := isLowerWordChar_range (hchars c hc)
  have hword := isWordChar_range (isWordChar_of_lower (hchars c hc))
  rw [if_neg (by omega), toLower_eq hrange]
  rfl

end OpenApp.Script
