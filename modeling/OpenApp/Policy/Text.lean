import Mathlib.Algebra.Order.Field.Rat
import Mathlib.Data.List.Sort
import Mathlib.Data.Rat.Defs
import Mathlib.Tactic.NormNum
import OpenApp.Keyed
import OpenApp.Script

/-!
# Numerals and names

What a text means where a number is wanted, and the patterns texts are held against. Decimals are read
exactly, as fractions; a number that is not finite is none. An object has every key once, and its keys
come in the order of the language: the indexes first.
-/

namespace OpenApp.Policy

open Keyed Script

/-! ## Decimals -/

/-- The value of the digits, of which some come after the point. -/
def decimalValue (whole fraction : List Char) : Option ℚ :=
  (digits (whole ++ fraction)).map fun n => (n : ℚ) / (10 ^ fraction.length : ℕ)

/-- `\d+(?:\.\d+)?` at the start of a text: its value, and what follows it. -/
def scanDecimal (cs : List Char) : Option (ℚ × List Char) :=
  let whole := cs.takeWhile Char.isDigit
  if whole = [] then none
  else
    match cs.dropWhile Char.isDigit with
    | '.' :: rest =>
      let fraction := rest.takeWhile Char.isDigit
      if fraction = [] then (decimalValue whole []).map (·, '.' :: rest)
      else (decimalValue whole fraction).map (·, rest.dropWhile Char.isDigit)
    | rest => (decimalValue whole []).map (·, rest)

/-- `/^\d+(?:\.\d+)?$/u`, with the number it is read as -/
def plainDecimal (text : String) : Option ℚ :=
  match scanDecimal text.toList with
  | some (value, []) => some value
  | _ => none

/-- A whole number with a sign, as an exponent has it. -/
def exponent (cs : List Char) : Option Int :=
  match cs with
  | '-' :: rest => if rest = [] then none else (digits rest).map fun n => -(n : Int)
  | '+' :: rest => if rest = [] then none else (digits rest).map fun n => (n : Int)
  | rest => if rest = [] then none else (digits rest).map fun n => (n : Int)

/-- A decimal with an exponent, where a digit is there before the point or after it. -/
def unsignedDecimal (cs : List Char) : Option ℚ :=
  let whole := cs.takeWhile Char.isDigit
  let (fraction, rest) :=
    match cs.dropWhile Char.isDigit with
    | '.' :: rest => (rest.takeWhile Char.isDigit, rest.dropWhile Char.isDigit)
    | rest => ([], rest)
  if whole = [] ∧ fraction = [] then none
  else
    match rest with
    | [] => decimalValue whole fraction
    | e :: power =>
      if e = 'e' ∨ e = 'E' then do
        let value ← decimalValue whole fraction
        let power ← exponent power
        some (value * (10 : ℚ) ^ power)
      else none

def digitOf (base : Nat) (c : Char) : Option Nat :=
  let value :=
    if c.isDigit then some (c.toNat - '0'.toNat)
    else if c.isAlpha then some (c.toLower.toNat - 'a'.toNat + 10)
    else none
  value.filter (· < base)

/-- The digits of a literal in another base. -/
def literal (base : Nat) (cs : List Char) : Option ℚ :=
  if cs = [] then none
  else (cs.foldl (fun acc c => acc.bind fun n => (digitOf base c).map fun d => n * base + d) (some 0)).map
    fun n => (n : ℚ)

/-- `Number(text)`; `none` is NaN or an infinity. -/
def toNumber (text : String) : Option ℚ :=
  match (trim text).toList with
  | [] => some 0
  | '0' :: 'x' :: cs | '0' :: 'X' :: cs => literal 16 cs
  | '0' :: 'o' :: cs | '0' :: 'O' :: cs => literal 8 cs
  | '0' :: 'b' :: cs | '0' :: 'B' :: cs => literal 2 cs
  | '-' :: cs => (unsignedDecimal cs).map fun value => -value
  | '+' :: cs => unsignedDecimal cs
  | cs => unsignedDecimal cs

/-- `Number.isSafeInteger` -/
def isSafeInteger (value : ℚ) : Bool :=
  value.den = 1 && value.num.natAbs ≤ 9007199254740991

/-- A whole number, as the language tells it from others. -/
def safeNatural (value : ℚ) : Option Nat :=
  if isSafeInteger value ∧ 0 < value then some value.num.toNat else none

/-! ## Memory limits -/

/-- What a unit multiplies; the pattern looks at no case, so the Kelvin sign is a `k`. -/
def unitOf (cs : List Char) : Option ℚ :=
  match (toLowerCase (String.ofList cs)).toList with
  | [] => some 1
  | ['b'] => some 1
  | ['k'] => some 1024
  | ['m'] => some (1024 ^ 2)
  | ['g'] => some (1024 ^ 3)
  | _ => none

/-- `/^(\d+(?:\.\d+)?)([bkmg]?)$/iu`, as a number of bytes -/
def memoryBytes (text : String) : Option ℚ := do
  let (amount, rest) ← scanDecimal text.toList
  let multiplier ← unitOf rest
  some (amount * multiplier)

def MAX_MEMORY_BYTES : ℚ := 1024 ^ 5

def validMemory (value : String) : Bool :=
  (memoryBytes value).any fun bytes => 0 < bytes && bytes ≤ MAX_MEMORY_BYTES

/-- What may be given to a container. -/
def validCpus (value : String) : Bool :=
  (toNumber value).any fun cpus => 0 < cpus && cpus ≤ 256

/-! ## Names and paths -/

def isNameStart (c : Char) : Bool :=
  c.isAlpha || c = '_'

def isNameChar (c : Char) : Bool :=
  c.isAlphanum || c = '_'

/-- `/^[A-Za-z_][A-Za-z0-9_]*$/u` -/
def environmentName (name : String) : Bool :=
  match name.toList with
  | [] => false
  | c :: cs => isNameStart c && cs.all isNameChar

def containsNul (text : String) : Bool :=
  text.toList.contains '\x00'

/-- `/[\u0000-\u001f\u007f]/u` -/
def hasControl (text : String) : Bool :=
  text.toList.any fun c => c.toNat ≤ 0x1f || c.toNat = 0x7f

/-- `path.split("/")` -/
def pathParts (path : String) : List (List Char) :=
  path.toList.splitOn '/'

/-- `/^[A-Za-z0-9][A-Za-z0-9._/:@-]{0,254}$/u` -/
def imageReference (text : String) : Bool :=
  match text.toList with
  | [] => false
  | c :: cs =>
    c.isAlphanum && cs.length ≤ 254 &&
      cs.all fun c => c.isAlphanum || c = '.' || c = '_' || c = '/' || c = ':' || c = '@' || c = '-'

/-! ## Objects -/

/-- An object whose values are texts, or anything else of one type. -/
abbrev Record (α : Type) := Table (Prod.fst : String × α → String)

/-- The entries of the text of an object; of two with one key the later one counts. -/
def Record.ofEntries {α : Type} (entries : List (String × α)) : Record α :=
  entries.foldl Table.put .empty

/-- A key that is an index of an array. -/
def indexOf (key : String) : Option Nat :=
  match key.toList with
  | ['0'] => some 0
  | c :: cs =>
    if c.isDigit ∧ c ≠ '0' then (digits (c :: cs)).filter (· < 4294967295) else none
  | [] => none

/-- The order of the keys: indexes by their size, then the others as they were added. -/
def keyBefore (left right : String) : Bool :=
  match indexOf left, indexOf right with
  | some i, some j => i ≤ j
  | some _, none => true
  | none, some _ => false
  | none, none => true

/-- `Object.entries` -/
def Record.entries {α : Type} (r : Record α) : List (String × α) :=
  r.rows.insertionSort fun left right => keyBefore left.1 right.1

/-! ## Numbers -/

/-- A plain decimal is digits, and maybe a point and digits. -/
structure Plain (cs : List Char) (value : ℚ) (before after : List Char) : Prop where
  whole : cs.takeWhile Char.isDigit = before
  nonempty : before ≠ []
  value : decimalValue before after = some value
  rest : (cs.dropWhile Char.isDigit = [] ∧ after = []) ∨
    ∃ rest, cs.dropWhile Char.isDigit = '.' :: rest ∧ rest.takeWhile Char.isDigit = after ∧
      rest.dropWhile Char.isDigit = []

theorem plain_of_scan {cs : List Char} {value : ℚ} (h : scanDecimal cs = some (value, [])) :
    ∃ before after, Plain cs value before after := by
  unfold scanDecimal at h
  dsimp only at h
  split at h
  · cases h
  · next hwhole =>
    generalize hdrop : cs.dropWhile Char.isDigit = tail at h
    split at h
    · next rest =>
      split at h
      · obtain ⟨v, -, heq⟩ := Option.map_eq_some_iff.1 h
        cases heq
      · obtain ⟨v, hv, heq⟩ := Option.map_eq_some_iff.1 h
        obtain ⟨rfl, hend⟩ := Prod.mk.inj heq
        exact ⟨_, _, rfl, hwhole, hv, .inr ⟨rest, hdrop, rfl, hend⟩⟩
    · obtain ⟨v, hv, heq⟩ := Option.map_eq_some_iff.1 h
      obtain ⟨rfl, hend⟩ := Prod.mk.inj heq
      exact ⟨_, [], rfl, hwhole, hv, .inl ⟨hdrop.trans hend, rfl⟩⟩

theorem Plain.chars {cs before after : List Char} {value : ℚ} (h : Plain cs value before after) :
    ∀ c ∈ cs, c.isDigit = true ∨ c = '.' := by
  intro c hc
  rw [← List.takeWhile_append_dropWhile (p := Char.isDigit) (l := cs)] at hc
  rcases List.mem_append.1 hc with hc | hc
  · exact .inl (List.mem_takeWhile_imp hc)
  · rcases h.rest with ⟨hrest, -⟩ | ⟨rest, hrest, -, hend⟩
    · rw [hrest] at hc
      cases hc
    · rw [hrest] at hc
      rcases List.mem_cons.1 hc with rfl | hc
      · exact .inr rfl
      · rw [← List.takeWhile_append_dropWhile (p := Char.isDigit) (l := rest), hend, List.append_nil] at hc
        exact .inl (List.mem_takeWhile_imp hc)

theorem Plain.unsigned {cs before after : List Char} {value : ℚ} (h : Plain cs value before after) :
    unsignedDecimal cs = some value := by
  unfold unsignedDecimal
  rw [h.whole]
  rcases h.rest with ⟨hrest, rfl⟩ | ⟨rest, hrest, hfraction, hend⟩
  · simp [hrest, h.nonempty, h.value]
  · simp [hrest, hfraction, hend, h.nonempty, h.value]

theorem digit_toNat {c : Char} (h : c.isDigit = true) : 48 ≤ c.toNat ∧ c.toNat ≤ 57 := by
  simp only [Char.isDigit, Bool.and_eq_true, decide_eq_true_eq, UInt32.le_iff_toNat_le, ge_iff_le] at h
  exact h

theorem not_whitespace {c : Char} (h : c.isDigit = true ∨ c = '.') : isWhitespace c = false := by
  have hrange : 46 ≤ c.toNat ∧ c.toNat ≤ 57 := by
    rcases h with h | rfl
    · have := digit_toNat h
      omega
    · decide
  unfold isWhitespace
  simp only [List.mem_cons, List.not_mem_nil, or_false, Bool.or_eq_false_iff, decide_eq_false_iff_not,
    Bool.and_eq_false_iff]
  omega

/-- What the pattern lets through, `Number` reads in the same way. -/
theorem toNumber_of_plainDecimal {text : String} {value : ℚ} (h : plainDecimal text = some value) :
    toNumber text = some value := by
  unfold plainDecimal at h
  split at h
  · next hscan =>
    cases h
    obtain ⟨whole, fraction, hplain⟩ := plain_of_scan hscan
    have hchars := hplain.chars
    have hne : text.toList ≠ [] := by
      intro hnil
      have hwhole := hplain.whole
      rw [hnil, List.takeWhile_nil] at hwhole
      exact hplain.nonempty hwhole.symm
    have hnot : ∀ c : Char, c.isDigit = false → c ≠ '.' → c ∉ text.toList := by
      intro c hdigit hdot hmem
      rcases hchars c hmem with hc | hc
      · rw [hdigit] at hc
        cases hc
      · exact hdot hc
    have hx := fun c hdigit hdot => hnot c hdigit hdot
    unfold toNumber
    rw [trim_of_all fun c hc => not_whitespace (hchars c hc)]
    split
    · next hnil => exact absurd hnil hne
    · next heq => exact absurd (heq ▸ by simp) (hx 'x' (by decide) (by decide))
    · next heq => exact absurd (heq ▸ by simp) (hx 'X' (by decide) (by decide))
    · next heq => exact absurd (heq ▸ by simp) (hx 'o' (by decide) (by decide))
    · next heq => exact absurd (heq ▸ by simp) (hx 'O' (by decide) (by decide))
    · next heq => exact absurd (heq ▸ by simp) (hx 'b' (by decide) (by decide))
    · next heq => exact absurd (heq ▸ by simp) (hx 'B' (by decide) (by decide))
    · next heq => exact absurd (heq ▸ by simp) (hx '-' (by decide) (by decide))
    · next heq => exact absurd (heq ▸ by simp) (hx '+' (by decide) (by decide))
    · exact hplain.unsigned
  · cases h

/-- A positive number in the safe range is a whole one just when it is a natural number. -/
theorem safeNatural_isSome {q : ℚ} (hpos : 0 < q) (hle : q ≤ 9007199254740991) :
    (∃ n, safeNatural q = some n) ↔ ∃ n : ℕ, q = n := by
  constructor
  · rintro ⟨n, h⟩
    unfold safeNatural at h
    split at h
    · next hsafe =>
      simp only [isSafeInteger, Bool.and_eq_true, decide_eq_true_eq] at hsafe
      obtain ⟨⟨hden, -⟩, -⟩ := hsafe
      refine ⟨q.num.toNat, ?_⟩
      have hnum : 0 ≤ q.num := by
        rw [Rat.num_nonneg]
        exact hpos.le
      have hq : (q.num : ℚ) = q := (Rat.den_eq_one_iff q).1 hden
      rw [← hq]
      exact_mod_cast (Int.toNat_of_nonneg hnum).symm
    · cases h
  · rintro ⟨n, rfl⟩
    have hn : n ≤ 9007199254740991 := by exact_mod_cast hle
    refine ⟨n, ?_⟩
    unfold safeNatural
    rw [if_pos ⟨by simp [isSafeInteger, hn], hpos⟩]
    simp

end OpenApp.Policy
