import OpenApp.Script

/-!
# How the release gate reads a source

Before a source is searched for markers its comments are taken out, by a scanner in the pruner of the
generic artifacts and by two regular expressions in the isolation check. Both are written over any
kind of entries that have a character each, so that what becomes of a single entry can be followed.
-/

namespace OpenApp.Artifacts

open Script

variable {α : Type} (key : α → Char)

/-- The next entry has this character. -/
def nextIs (rest : List α) (c : Char) : Bool :=
  rest.head?.map key = some c

/-! ## `stripJavaScriptComments` -/

inductive ScanState
  | code | lineComment | blockComment | single | double | template
  deriving DecidableEq

/-- The variables of the loop; `skip` is an `index += 1` that is still to come. -/
structure Scan where
  state : ScanState
  escaped : Bool
  skip : Bool
  deriving DecidableEq

/-- The character that closes the state. -/
def ScanState.closer : ScanState → Option Char
  | single => some '\''
  | double => some '"'
  | template => some '`'
  | _ => none

/-- The state a character of the code leads to. -/
def ScanState.entered (c : Char) : ScanState :=
  if c = '\'' then single else if c = '"' then double else if c = '`' then template else code

/-- One turn of the loop: whether `character` goes into `output`, and the variables after it. -/
def Scan.turn (s : Scan) (character : Char) (next : Option Char) : Bool × Scan :=
  if s.skip then (false, { s with skip := false })
  else match s.state with
    | .lineComment => if character = '\n' then (true, { s with state := .code }) else (false, s)
    | .blockComment =>
      if character = '*' ∧ next = some '/' then (false, { s with state := .code, skip := true }) else (false, s)
    | .code =>
      if character = '/' ∧ next = some '/' then (false, { s with state := .lineComment, skip := true })
      else if character = '/' ∧ next = some '*' then (false, { s with state := .blockComment, skip := true })
      else (true, { s with state := .entered character })
    | _ =>
      if s.escaped then (true, { s with escaped := false })
      else if character = '\\' then (true, { s with escaped := true })
      else if s.state.closer = some character then (true, { s with state := .code })
      else (true, s)

def Scan.strip : Scan → List α → List α
  | _, [] => []
  | s, c :: rest =>
    let turn := s.turn (key c) (rest.head?.map key)
    if turn.1 then c :: Scan.strip turn.2 rest else Scan.strip turn.2 rest

/-- The variables before the loop. -/
def Scan.start : Scan where
  state := .code
  escaped := false
  skip := false

def stripJavaScriptComments (source : List α) : List α :=
  Scan.start.strip key source

/-! ## `stripComments` -/

/-- There is a `*/`. -/
def closes : List α → Bool
  | [] => false
  | c :: rest => key c = '*' && nextIs key rest '/' || closes rest

/-- Where the first replacement is: outside its matches, before the `*` of an opener, inside, before the
`/` of the closer. -/
inductive Place
  | outside | opening | inside | closing

/-- `.replace(/\/\*[\s\S]*?\*\//gu, " ")`: a match goes from the first opener to the first closer after it. -/
def replaceBlocks (blank : α) : Place → List α → List α
  | _, [] => []
  | .outside, c :: rest =>
    if key c = '/' ∧ nextIs key rest '*' ∧ closes key (rest.drop 1) then blank :: replaceBlocks blank .opening rest
    else c :: replaceBlocks blank .outside rest
  | .opening, _ :: rest => replaceBlocks blank .inside rest
  | .inside, c :: rest =>
    if key c = '*' ∧ nextIs key rest '/' then replaceBlocks blank .closing rest else replaceBlocks blank .inside rest
  | .closing, _ :: rest => replaceBlocks blank .outside rest

/-- `.replace(/(^|[^:])\/\/[^\r\n]*/gu, "$1 ")`: a match starts at the start of the text or after a character
other than a colon, which stays, and goes to the end of the line. -/
def replaceLines (blank : α) : Option Char → Bool → List α → List α
  | _, _, [] => []
  | before, true, c :: rest =>
    if key c = '\r' ∨ key c = '\n' then c :: replaceLines blank (some (key c)) false rest
    else replaceLines blank before true rest
  | before, false, c :: rest =>
    if key c = '/' ∧ nextIs key rest '/' ∧ before ≠ some ':' then blank :: replaceLines blank before true rest
    else c :: replaceLines blank (some (key c)) false rest

def stripComments (blank : α) (source : List α) : List α :=
  replaceLines key blank none false (replaceBlocks key blank .outside source)

/-! ## Markers -/

/-- A regular expression by what it matches: where in a text a match starts, and where it ends then. -/
abbrev Pattern := List Char → Nat → Option Nat

namespace Pattern

variable (p : Pattern) (text : List Char)

/-- The first match from an index on. -/
def firstFrom (index : Nat) : Option (Nat × Nat) :=
  ((List.range' index (text.length + 1 - index)).find? fun i => (p text i).isSome).bind fun i =>
    (p text i).map fun j => (i, j)

/-- `search`, and `test` as whether there is one. -/
def search : Option Nat :=
  (p.firstFrom text 0).map Prod.fst

def matchesFrom : Nat → Nat → List (Nat × Nat)
  | 0, _ => []
  | n + 1, lastIndex =>
    match p.firstFrom text lastIndex with
    | none => []
    | some (i, j) => (i, j) :: matchesFrom n (if j ≤ i then i + 1 else j)

/-- `matchAll`; an empty match moves on by one. -/
def matchAll : List (Nat × Nat) :=
  p.matchesFrom text (text.length + 2) 0

end Pattern

/-- `text.split("\n").length` -/
def lineCount (text : List Char) : Nat :=
  text.count '\n' + 1

/-- `scanText`; `extname` is the one of `node:path`. -/
def scanText (extname : String → String) (markers : Pattern) (relativePath : String) (source : List Char) : Option String :=
  let candidate :=
    if extname relativePath = ".js" ∨ extname relativePath = ".mjs" ∨ extname relativePath = ".cjs" then
      stripJavaScriptComments id source
    else source
  (markers.search candidate).map fun index =>
    relativePath ++ ":" ++ toString (lineCount (candidate.take index))

structure Coupling where
  path : String
  line : Nat
  found : String
  lineText : String
  deriving DecidableEq

/-- `lastIndexOf("\n", index - 1) + 1`, where an index below 0 counts as 0. -/
def lineStart (text : List Char) (index : Nat) : Nat :=
  ((List.range ((index - 1) + 1)).filter fun i => text[i]? = some '\n').getLast?.elim 0 (· + 1)

/-- `indexOf("\n", index)`, and the end of the text where there is none. -/
def lineEnd (text : List Char) (index : Nat) : Nat :=
  index + ((text.drop index).takeWhile (· ≠ '\n')).length

def slice (text : List Char) (start stop : Nat) : List Char :=
  (text.take stop).drop start

/-- What is reported of one match. -/
def coupling (path : String) (cleaned : List Char) (found : Nat × Nat) : Coupling where
  path := path
  line := lineCount (cleaned.take found.1)
  found := String.ofList (slice cleaned found.1 found.2)
  lineText :=
    let line := trim (String.ofList (slice cleaned (lineStart cleaned found.1) (lineEnd cleaned found.1)))
    String.ofList (takeUnits 240 line.toList)

def findGenericProductCoupling (markers : Pattern) (source : List Char) (path : String) : List Coupling :=
  let cleaned := stripComments id ' ' source
  (markers.matchAll cleaned).map (coupling path cleaned)

end OpenApp.Artifacts
