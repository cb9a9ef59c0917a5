import OpenApp.Proxy.CookieParts

/-!
# What a browser makes of a cookie

A browser reads a cookie part by part: the first part is the pair, every other one an attribute with a
name in any case and maybe a value. Only spaces and tabs are blanks to it. Of several paths the last one
counts, and a path that does not start with a slash stands for the directory of the request.
-/

namespace OpenApp.Proxy

open Script Separated

def isBlank (c : Char) : Bool :=
  c = ' ' || c = '\t'

structure Attribute where
  name : List Char
  value : List Char

def readAttribute (part : List Char) : Attribute where
  name := (strip isBlank (part.takeWhile (· ≠ '='))).map Char.toLower
  value := strip isBlank ((part.dropWhile (· ≠ '=')).drop 1)

def readAttributes (cookie : List Char) : List Attribute :=
  (splitCookie cookie).tail.map readAttribute

/-- The value of the last attribute that is a path. -/
def lastPath (parts : List (List Char)) : Option (List Char) :=
  (((parts.map readAttribute).filter fun a => a.name = "path".toList).getLast?).map Attribute.value

/-- The directory of a request. -/
def defaultPath (requestPath : List Char) : List Char :=
  let directory := ((requestPath.reverse.dropWhile (· ≠ '/')).drop 1).reverse
  if requestPath.head? = some '/' ∧ directory ≠ [] then directory else ['/']

def effectivePath (requestPath : List Char) (parts : List (List Char)) : List Char :=
  match lastPath parts with
  | some path => if path.head? = some '/' then path else defaultPath requestPath
  | none => defaultPath requestPath

/-- The cookie is for this host only, and for the requests below the path of the instance. -/
structure StaysBelow (path : List Char) (cookie : List Char) : Prop where
  domain : ∀ a ∈ readAttributes cookie, a.name ≠ "domain".toList
  path : ∀ requestPath, path ++ ['/'] <+: requestPath →
    path ++ ['/'] <+: effectivePath requestPath (splitCookie cookie).tail

/-! ## Reading -/

theorem readAttribute_blank (part : List Char) : readAttribute (' ' :: part) = readAttribute part := by
  unfold readAttribute
  have htake : (' ' :: part).takeWhile (· ≠ '=') = ' ' :: part.takeWhile (· ≠ '=') := by simp
  have hdrop : (' ' :: part).dropWhile (· ≠ '=') = part.dropWhile (· ≠ '=') := by simp
  rw [htake, hdrop, strip_cons (by decide)]

/-- Where the sign comes behind a name. -/
theorem takeWhile_sign {name rest : List Char} (hname : '=' ∉ name) :
    (name ++ '=' :: rest).takeWhile (· ≠ '=') = name ∧ (name ++ '=' :: rest).dropWhile (· ≠ '=') = '=' :: rest := by
  induction name with
  | nil => simp
  | cons c name ih =>
    rw [List.mem_cons, not_or] at hname
    simpa [Ne.symm hname.1] using ih hname.2

theorem readAttribute_sign {name rest : List Char} (hname : '=' ∉ name) :
    readAttribute (name ++ '=' :: rest) = ⟨(strip isBlank name).map Char.toLower, strip isBlank rest⟩ := by
  unfold readAttribute
  rw [(takeWhile_sign hname).1, (takeWhile_sign hname).2, List.drop_one, List.tail_cons]

theorem lastPath_append {before after : List (List Char)} :
    lastPath (before ++ after) = (lastPath after).or (lastPath before) := by
  unfold lastPath
  rw [List.map_append, List.filter_append, List.getLast?_append]
  cases ((after.map readAttribute).filter fun a => a.name = "path".toList).getLast? <;> rfl

theorem lastPath_cons {part : List Char} {parts : List (List Char)} :
    lastPath (part :: parts) = (lastPath parts).or
      (if (readAttribute part).name = "path".toList then some (readAttribute part).value else none) := by
  rw [← List.singleton_append, lastPath_append]
  congr 1
  unfold lastPath
  rw [List.map_singleton]
  by_cases h : (readAttribute part).name = "path".toList
  · rw [if_pos h, List.filter_cons_of_pos (by simpa using h)]
    rfl
  · rw [if_neg h, List.filter_cons_of_neg (by simpa using h)]
    rfl

theorem defaultPath_directory {path : List Char} (hpath : path.head? = some '/') : defaultPath (path ++ ['/']) = path := by
  cases path with
  | nil => cases hpath
  | cons c path =>
    have hc : c = '/' := by simpa using hpath
    subst hc
    simp [defaultPath]

/-- Only a path of its own keeps a cookie below the path of the instance. -/
theorem staysBelow_path_iff {path : List Char} {parts : List (List Char)} (hpath : path.head? = some '/') :
    (∀ requestPath, path ++ ['/'] <+: requestPath → path ++ ['/'] <+: effectivePath requestPath parts) ↔
      ∃ value, lastPath parts = some value ∧ path ++ ['/'] <+: value := by
  have hnot : ¬path ++ ['/'] <+: defaultPath (path ++ ['/']) := by
    intro h
    rw [defaultPath_directory hpath] at h
    have hlength := h.length_le
    rw [List.length_append, List.length_singleton] at hlength
    omega
  constructor
  · intro h
    have hhere := h (path ++ ['/']) (List.prefix_refl _)
    unfold effectivePath at hhere
    split at hhere
    · next value hvalue =>
      split at hhere
      · exact ⟨value, hvalue, hhere⟩
      · exact absurd hhere hnot
    · exact absurd hhere hnot
  · rintro ⟨value, hvalue, hfront⟩ requestPath -
    have hhead : value.head? = some '/' := by
      obtain ⟨rest, rfl⟩ := hfront
      cases path with
      | nil => cases hpath
      | cons c path => exact hpath
    unfold effectivePath
    rw [hvalue]
    dsimp only
    rw [if_pos hhead]
    exact hfront

end OpenApp.Proxy
