import Mathlib.Algebra.GroupWithZero.Nat
import Mathlib.Data.List.Basic
import OpenApp.Separated

/-!
# What the code uses of its language

Strings are trimmed and lowered, tested for truth and parsed as dates. Only what the code
looks at is kept: of the lower case, what a pattern over ASCII can see; of the dates, the form
`toISOString` prints, which is the form every stored timestamp has.
-/

namespace OpenApp

namespace Script

/-- The white space and line terminators `String.prototype.trim` removes. -/
def isWhitespace (c : Char) : Bool :=
  c.toNat ∈ [0x09, 0x0a, 0x0b, 0x0c, 0x0d, 0x20, 0xa0, 0x1680, 0x2028, 0x2029, 0x202f, 0x205f, 0x3000, 0xfeff]
    || (0x2000 ≤ c.toNat && c.toNat ≤ 0x200a)

def trim (s : String) : String :=
  String.ofList ((s.toList.dropWhile isWhitespace).reverse.dropWhile isWhitespace).reverse

/-- The Kelvin sign is the one letter outside ASCII whose lower case is an ASCII letter. -/
def toLowerCase (s : String) : String :=
  String.ofList (s.toList.map fun c => if c.toNat = 0x212a then 'k' else c.toLower)

/-- The empty string is false. -/
def truthy (s : String) : Bool :=
  s ≠ ""

/-- The length in UTF-16 code units. -/
def utf16Length (s : String) : Nat :=
  (s.toList.map fun c => if c.toNat < 0x10000 then 1 else 2).sum

/-- As many characters as have room in this many code units; a pair that would be cut is left out. -/
def takeUnits : Nat → List Char → List Char
  | _, [] => []
  | n, c :: cs =>
    let units := if c.toNat < 0x10000 then 1 else 2
    if units ≤ n then c :: takeUnits (n - units) cs else []

theorem trim_toList (s : String) : (trim s).toList = Separated.strip isWhitespace s.toList := by
  simp [trim, Separated.strip, List.rdropWhile]

theorem trim_trim (s : String) : trim (trim s) = trim s := by
  apply String.toList_inj.1
  rw [trim_toList, trim_toList, Separated.strip_strip]

theorem trim_of_all {s : String} (h : ∀ c ∈ s.toList, isWhitespace c = false) : trim s = s := by
  apply String.toList_inj.1
  rw [trim_toList, Separated.strip_of_all h]

/-! ## Maps -/

/-- A `Map` with string keys, in insertion order. -/
structure Map (α : Type) where
  entries : List (String × α)

namespace Map

variable {α : Type}

def getEntry (k : String) : List (String × α) → Option α
  | [] => none
  | (k', v) :: rest => if k = k' then some v else getEntry k rest

def get (m : Map α) (k : String) : Option α :=
  getEntry k m.entries

/-- A key set again keeps its place. -/
def setEntry (k : String) (v : α) : List (String × α) → List (String × α)
  | [] => [(k, v)]
  | (k', v') :: rest => if k = k' then (k, v) :: rest else (k', v') :: setEntry k v rest

def set (m : Map α) (k : String) (v : α) : Map α where
  entries := setEntry k v m.entries

def values (m : Map α) : List α :=
  m.entries.map (·.2)

theorem getEntry_setEntry (k k' : String) (v : α) (l : List (String × α)) :
    getEntry k' (setEntry k v l) = if k' = k then some v else getEntry k' l := by
  induction l with
  | nil => rfl
  | cons e rest ih =>
    obtain ⟨k₁, v₁⟩ := e
    by_cases h₁ : k = k₁
    · subst h₁
      by_cases h : k' = k <;> simp [setEntry, getEntry, h]
    · by_cases h₂ : k' = k₁
      · subst h₂
        simp [setEntry, getEntry, h₁, Ne.symm h₁]
      · simp [setEntry, getEntry, h₁, h₂, ih]

@[simp] theorem get_set_self (m : Map α) (k : String) (v : α) : (m.set k v).get k = some v := by
  simp [get, set, getEntry_setEntry]

theorem get_set_of_ne (m : Map α) {k k' : String} (v : α) (h : k' ≠ k) : (m.set k v).get k' = m.get k' := by
  simp [get, set, getEntry_setEntry, h]

end Map

/-! ## Dates -/

def digits (cs : List Char) : Option Nat :=
  cs.foldl (fun acc c => acc.bind fun n => if c.isDigit then some (n * 10 + (c.toNat - '0'.toNat)) else none) (some 0)

def isLeap (y : Nat) : Bool :=
  y % 4 = 0 && (y % 100 ≠ 0 || y % 400 = 0)

def daysInMonth (y m : Nat) : Nat :=
  match m with
  | 2 => if isLeap y then 29 else 28
  | 4 | 6 | 9 | 11 => 30
  | _ => 31

/-- The days from the start of year 0 to the start of year `y`. -/
def daysBefore (y : Nat) : Nat :=
  365 * y + (y + 3) / 4 - (y + 99) / 100 + (y + 399) / 400

/-- Milliseconds since the start of year 0; only differences matter. -/
def utc (y mo d h mi s ms : Nat) : Nat :=
  let days := daysBefore y + ((List.range (mo - 1)).map fun i => daysInMonth y (i + 1)).sum + (d - 1)
  (((days * 24 + h) * 60 + mi) * 60 + s) * 1000 + ms

/-- The year moved up by 700 cycles of 400 years, so that none is negative, and what follows it. The years
beyond four digits have a sign and six. -/
def yearOf : List Char → Option (Nat × List Char)
  | '+' :: y1 :: y2 :: y3 :: y4 :: y5 :: y6 :: rest =>
    (digits [y1, y2, y3, y4, y5, y6]).map fun y => (280000 + y, rest)
  | '-' :: y1 :: y2 :: y3 :: y4 :: y5 :: y6 :: rest =>
    (digits [y1, y2, y3, y4, y5, y6]).bind fun y => if y = 0 then none else some (280000 - y, rest)
  | y1 :: y2 :: y3 :: y4 :: rest => (digits [y1, y2, y3, y4]).map fun y => (280000 + y, rest)
  | _ => none

/-- The times a `Date` can hold: 8.64e15 milliseconds around the start of 1970. -/
def timeClip (t : Nat) : Option Nat :=
  let epoch := utc 281970 1 1 0 0 0 0
  if epoch ≤ t + 8640000000000000 ∧ t ≤ epoch + 8640000000000000 then some t else none

/-- `Date.parse` on `YYYY-MM-DDTHH:mm:ss.sssZ` and `±YYYYYY-MM-DDTHH:mm:ss.sssZ`; `none` is NaN. -/
def dateParse (text : String) : Option Nat :=
  match yearOf text.toList with
  | some (y, ['-', o1, o2, '-', d1, d2, 'T', h1, h2, ':', i1, i2, ':', s1, s2, '.', m1, m2, m3, 'Z']) => do
    let mo ← digits [o1, o2]
    let d ← digits [d1, d2]
    let h ← digits [h1, h2]
    let mi ← digits [i1, i2]
    let s ← digits [s1, s2]
    let ms ← digits [m1, m2, m3]
    if 1 ≤ mo ∧ mo ≤ 12 ∧ 1 ≤ d ∧ d ≤ daysInMonth y mo ∧ mi < 60 ∧ s < 60 ∧
        (h < 24 ∨ (h = 24 ∧ mi = 0 ∧ s = 0 ∧ ms = 0)) then
      timeClip (utc y mo d h mi s ms)
    else none
  | _ => none

end Script

/-- The later of two timestamps, the other one where one does not parse. -/
def latestTimestamp (left right : String) : String :=
  match Script.dateParse left, Script.dateParse right with
  | none, _ => right
  | _, none => left
  | some l, some r => if r > l then right else left

end OpenApp
