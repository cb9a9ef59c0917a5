import Mathlib.Data.Nat.Log
import Mathlib.Tactic.Ring

/-!
# Numbers that are whole

A number holds the whole numbers up to `2 ^ 53`; a greater sum is rounded to one it holds, the even
one of two that are as near. What matters of a rounded sum is that it is still beyond them all.
-/

namespace Number

/-- `Number.MAX_SAFE_INTEGER` -/
def maxSafeInteger : Nat := 2 ^ 53 - 1

/-- The number nearest to a whole number. -/
def round (n : Nat) : Nat :=
  if n ≤ 2 ^ 53 then n
  else
    let unit := 2 ^ (Nat.log2 n - 52)
    let rest := n % unit
    if unit < 2 * rest ∨ (2 * rest = unit ∧ n / unit % 2 = 1) then (n / unit + 1) * unit else n / unit * unit

/-- `a + b` -/
def add (a b : Nat) : Nat :=
  round (a + b)

/-- The sum from the left, as a loop makes it. -/
def sum (l : List Nat) : Nat :=
  l.foldl add 0

theorem round_exact {n : Nat} (h : n ≤ 2 ^ 53) : round n = n :=
  if_pos h

theorem round_beyond {n : Nat} (h : 2 ^ 53 < n) : 2 ^ 53 ≤ round n := by
  have hne : n ≠ 0 := by omega
  have hlog : 53 ≤ Nat.log2 n := (Nat.le_log2 hne).2 (Nat.le_of_lt h)
  have hle : 2 ^ Nat.log2 n ≤ n := Nat.log2_self_le hne
  have hsplit : 2 ^ Nat.log2 n = 2 ^ 52 * 2 ^ (Nat.log2 n - 52) := by
    rw [← Nat.pow_add]
    congr 1
    omega
  have hunit : 0 < 2 ^ (Nat.log2 n - 52) := Nat.two_pow_pos _
  have htwo : 2 ≤ 2 ^ (Nat.log2 n - 52) := by
    calc 2 = 2 ^ 1 := rfl
      _ ≤ 2 ^ (Nat.log2 n - 52) := Nat.pow_le_pow_right (by omega) (by omega)
  have hquotient : 2 ^ 52 ≤ n / 2 ^ (Nat.log2 n - 52) := by
    rw [Nat.le_div_iff_mul_le hunit, ← hsplit]
    exact hle
  have hfloor : 2 ^ 53 ≤ n / 2 ^ (Nat.log2 n - 52) * 2 ^ (Nat.log2 n - 52) := by
    calc 2 ^ 53 = 2 ^ 52 * 2 := by norm_num
      _ ≤ n / 2 ^ (Nat.log2 n - 52) * 2 ^ (Nat.log2 n - 52) := Nat.mul_le_mul hquotient htwo
  unfold round
  rw [if_neg (by omega)]
  dsimp only
  split
  · have hup : n / 2 ^ (Nat.log2 n - 52) * 2 ^ (Nat.log2 n - 52) ≤
        (n / 2 ^ (Nat.log2 n - 52) + 1) * 2 ^ (Nat.log2 n - 52) := Nat.mul_le_mul_right _ (Nat.le_succ _)
    omega
  · exact hfloor

/-- A sum is compared with a safe integer as if it were exact. -/
theorem add_le_iff {a b limit : Nat} (hlimit : limit ≤ maxSafeInteger) : add a b ≤ limit ↔ a + b ≤ limit := by
  have hmax : maxSafeInteger < 2 ^ 53 := by decide
  unfold add
  by_cases h : a + b ≤ 2 ^ 53
  · rw [round_exact h]
  · have hbeyond := round_beyond (n := a + b) (by omega)
    constructor <;> intro hle <;> omega

/-- A sum that a number holds is computed exactly. -/
theorem sum_exact {l : List Nat} (h : l.sum ≤ 2 ^ 53) : sum l = l.sum := by
  have hfold : ∀ (l : List Nat) (a : Nat), a + l.sum ≤ 2 ^ 53 → l.foldl add a = a + l.sum := by
    intro l
    induction l with
    | nil => exact fun a _ => rfl
    | cons n l ih =>
      intro a h
      rw [List.sum_cons] at h
      rw [List.foldl_cons, List.sum_cons, add, round_exact (by omega), ih (a + n) (by omega)]
      omega
  unfold sum
  rw [hfold l 0 (by omega)]
  omega

end Number
