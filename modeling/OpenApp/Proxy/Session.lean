import OpenApp.Policy.LaunchChecks
import OpenApp.Proxy.Requests
import OpenApp.Proxy.UserAgent

/-!
# How the portal reads its session

The portal looks for its own cookie in the header of a request. A browser that was given a cookie sends it
back as a pair, or as a value alone if the cookie has no name.
-/

namespace OpenApp.Proxy

open Script Separated

/-! ## Percent signs -/

/-- What stands for itself, and what stands for a byte. -/
inductive Unit16
  | char (c : Char)
  | byte (b : Nat)

def hexValue (c : Char) : Option Nat :=
  if c.isDigit then some (c.toNat - '0'.toNat)
  else if 'a' ≤ c.toLower ∧ c.toLower ≤ 'f' then some (c.toLower.toNat - 'a'.toNat + 10)
  else none

def percentUnits : List Char → Option (List Unit16)
  | [] => some []
  | '%' :: high :: low :: cs => do
    let high ← hexValue high
    let low ← hexValue low
    (percentUnits cs).map (.byte (16 * high + low) :: ·)
  | c :: cs => if c = '%' then none else (percentUnits cs).map (.char c :: ·)

/-- The bytes are UTF-8; so many more are needed, for a number of at least this size. -/
def decodeUnits (needed number lowest : Nat) : List Unit16 → Option (List Char)
  | [] => if needed = 0 then some [] else none
  | .char c :: units => if needed = 0 then (decodeUnits 0 0 0 units).map (c :: ·) else none
  | .byte b :: units =>
    if needed = 0 then
      if b < 0x80 then (decodeUnits 0 0 0 units).map (Char.ofNat b :: ·)
      else if 0xc0 ≤ b ∧ b < 0xe0 then decodeUnits 1 (b - 0xc0) 0x80 units
      else if 0xe0 ≤ b ∧ b < 0xf0 then decodeUnits 2 (b - 0xe0) 0x800 units
      else if 0xf0 ≤ b ∧ b < 0xf8 then decodeUnits 3 (b - 0xf0) 0x10000 units
      else none
    else if 0x80 ≤ b ∧ b < 0xc0 then
      let number := 64 * number + (b - 0x80)
      if needed = 1 then
        if lowest ≤ number ∧ number.isValidChar then (decodeUnits 0 0 0 units).map (Char.ofNat number :: ·) else none
      else decodeUnits (needed - 1) number lowest units
    else none

/-- `decodeURIComponent`; `none` is the error it throws. -/
def decodeURIComponent (text : List Char) : Option (List Char) :=
  (percentUnits text).bind (decodeUnits 0 0 0)

/-! ## The session -/

def isSessionPair (cookieName : String) (part : List Char) : Bool :=
  match pairName part with
  | some name => trim (String.ofList name) = cookieName
  | none => false

/-- `/^Bearer\s+(.+)$/iu`, trimmed -/
def bearerToken (authorization : List Char) : Option (List Char) :=
  match matchText "bearer".toList authorization with
  | some (_, c :: text) =>
    let token := text.dropWhile isWhitespace
    let captured := if token = [] then text.getLast?.toList else token
    if isWhitespace c ∧ captured ≠ [] ∧ captured.all (fun c => !Policy.isLineTerminator c) = true then
      some (trimText token)
    else none
  | _ => none

/-- The first pair of the portal is the one that counts, even if it cannot be decoded. -/
def readSessionToken (cookieName : String) (cookie : Option (List Char)) (authorization : Option (List Char)) :
    Option (List Char) :=
  match (cookie.map splitCookie).bind fun parts => parts.find? (isSessionPair cookieName) with
  | some part => decodeURIComponent (attributeValue part)
  | none => authorization.bind bearerToken

/-! ## Cookies that come back -/

/-- The name and the value of a cookie; one without a sign has no name. -/
def readPair (part : List Char) : List Char × List Char :=
  if '=' ∈ part then
    (strip isBlank (part.takeWhile (· ≠ '=')), strip isBlank ((part.dropWhile (· ≠ '=')).drop 1))
  else ([], strip isBlank part)

/-- What a browser sends of a cookie it was given. -/
def echo (cookie : List Char) : List Char :=
  let pair := readPair ((splitCookie cookie).headD [])
  if pair.1 = [] then pair.2 else pair.1 ++ '=' :: pair.2

/-- A cookie without a name whose value the portal takes for its session. -/
def NamelessSession (cookieName : String) (cookie : List Char) : Prop :=
  let pair := readPair ((splitCookie cookie).headD [])
  pair.1 = [] ∧ (readSessionToken cookieName (some pair.2) none).isSome

/-! ## Reading -/

theorem pairName_sign {name rest : List Char} (hname : '=' ∉ name) :
    pairName (name ++ '=' :: rest) = if name = [] then none else some name := by
  unfold pairName
  dsimp only
  rw [(takeWhile_sign hname).1]
  by_cases h : name = []
  · simp [h]
  · simp [h]

theorem takeWhile_not_mem {cs : List Char} : '=' ∉ cs.takeWhile (· ≠ '=') := by
  intro hmem
  have h := List.mem_takeWhile_imp hmem
  simp at h

theorem pairName_eq_some {part name : List Char} (h : pairName part = some name) : name = part.takeWhile (· ≠ '=') := by
  unfold pairName at h
  dsimp only at h
  split at h
  · cases h
    rfl
  · cases h

theorem pairName_of_not_mem {cs : List Char} (h : '=' ∉ cs) : pairName cs = none := by
  unfold pairName
  simp [h]

/-- The blanks of a browser are white space to the portal. -/
theorem strip_isWhitespace_isBlank (l : List Char) : strip isWhitespace (strip isBlank l) = strip isWhitespace l := by
  have hblank : ∀ c, isBlank c = true → isWhitespace c = true := by
    intro c hc
    unfold isBlank at hc
    rcases Bool.or_eq_true _ _ ▸ hc with hc | hc
    · rw [of_decide_eq_true hc]
      decide
    · rw [of_decide_eq_true hc]
      decide
  exact strip_of_strip hblank l

end OpenApp.Proxy
