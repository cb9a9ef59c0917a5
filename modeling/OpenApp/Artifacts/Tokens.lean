import OpenApp.Artifacts.Strip
import OpenApp.Cuts

/-!
# Sources as sequences of tokens

A JavaScript source is the text of its tokens. Only what decides where comments, quotes and regular
expressions begin and end is kept of the grammar; everything else is an other token.
-/

namespace OpenApp.Artifacts

open Cuts

/-! ## Tokens -/

inductive Token
  | lineComment (body : List Char)
  | blockComment (body : List Char)
  | string (quote : Char) (body : List Char)
  /-- a piece of a template: it starts with a backtick or the end of a substitution, and ends with a
  backtick or the start of one -/
  | template (first last : Bool) (body : List Char)
  | regex (body flags : List Char)
  | other (text : List Char)
  deriving DecidableEq

def isTerminator (c : Char) : Bool :=
  c = '\n' || c = '\r' || c.toNat = 0x2028 || c.toNat = 0x2029

/-- The text up to the closer: every closer in it is escaped, and it does not end within an escape. -/
def quotedBody (closer : Char) : Bool → List Char → Bool
  | escaped, [] => !escaped
  | true, _ :: rest => quotedBody closer false rest
  | false, c :: rest => if c = '\\' then quotedBody closer true rest else c ≠ closer && quotedBody closer false rest

/-- The text of a regular expression between its slashes; within brackets a slash stands for itself. -/
def regexBody : Bool → Bool → List Char → Bool
  | inClass, escaped, [] => !inClass && !escaped
  | inClass, true, c :: rest => !isTerminator c && regexBody inClass false rest
  | inClass, false, c :: rest =>
    !isTerminator c && (inClass || c ≠ '/') &&
      if c = '\\' then regexBody inClass true rest
      else regexBody (c = '[' || inClass && c ≠ ']') false rest

def isQuote (c : Char) : Bool :=
  c = '\'' || c = '"' || c = '`'

namespace Token

def text : Token → List Char
  | lineComment body => '/' :: '/' :: body
  | blockComment body => '/' :: '*' :: (body ++ ['*', '/'])
  | string quote body => quote :: (body ++ [quote])
  | template first last body => (if first then '`' else '}') :: (body ++ if last then ['`'] else ['$', '{'])
  | regex body flags => '/' :: (body ++ '/' :: flags)
  | other text => text

def isComment : Token → Bool
  | lineComment _ => true
  | blockComment _ => true
  | _ => false

def WellFormed : Token → Prop
  | lineComment body => body.any isTerminator = false
  | blockComment body => closes id body = false
  | string quote body => (quote = '\'' ∨ quote = '"') ∧ quotedBody quote false body = true
  | template _ _ body => quotedBody '`' false body = true
  | regex body flags =>
    body ≠ [] ∧ body.head? ≠ some '*' ∧ regexBody false false body = true ∧ flags.all Char.isAlpha = true
  | other text => text ≠ [] ∧ text.any isQuote = false ∧ ('/' ∈ text → text = ['/'] ∨ text = ['/', '='])

instance (t : Token) : Decidable t.WellFormed := by
  cases t <;> unfold WellFormed <;> infer_instance

end Token

/-! ## Sequences -/

def text (tokens : List Token) : List Char :=
  tokens.flatMap Token.text

/-- The text reads as these tokens: a line comment goes to the end of its line, and a slash that divides
is not followed by what would make it the start of a comment. -/
def Separated : List Token → Prop
  | [] => True
  | .lineComment _ :: tokens => (∀ c ∈ (text tokens).head?, isTerminator c = true) ∧ Separated tokens
  | .other t :: tokens =>
    (t = ['/'] → (text tokens).head? ≠ some '/' ∧ (text tokens).head? ≠ some '*') ∧ Separated tokens
  | _ :: tokens => Separated tokens

theorem Separated.tail {t : Token} {tokens : List Token} (h : Separated (t :: tokens)) : Separated tokens := by
  cases t <;> first | exact h | exact h.2

theorem Separated.divides {t : Token} {tokens : List Token} (h : Separated (t :: tokens)) (ht : t = .other ['/']) :
    (text tokens).head? ≠ some '/' ∧ (text tokens).head? ≠ some '*' := by
  subst ht
  exact h.1 rfl

/-- Every substitution that is opened is closed; the number counts the open ones. -/
def Nested : Nat → List Token → Prop
  | depth, [] => depth = 0
  | depth, .template true false _ :: tokens => Nested (depth + 1) tokens
  | depth, .template false last _ :: tokens => 0 < depth ∧ Nested (if last then depth - 1 else depth) tokens
  | depth, _ :: tokens => Nested depth tokens

structure Source where
  tokens : List Token
  wellFormed : ∀ t ∈ tokens, t.WellFormed
  separated : Separated tokens
  nested : Nested 0 tokens

/-! ## Characters that know what they belong to -/

/-- A character, and whether it belongs to a token that is not a comment. -/
abbrev Marked := Char × Bool

/-- What is put in the place of a comment. -/
def blank : Marked :=
  (' ', false)

def kept : Marked → Bool :=
  Prod.snd

def Token.marked (t : Token) : List Marked :=
  t.text.map fun c => (c, !t.isComment)

def marked (tokens : List Token) : List Marked :=
  tokens.flatMap Token.marked

theorem marked_cons (t : Token) (tokens : List Token) : marked (t :: tokens) = t.marked ++ marked tokens := rfl

theorem text_cons (t : Token) (tokens : List Token) : text (t :: tokens) = t.text ++ text tokens := rfl

@[simp] theorem Token.map_fst_marked (t : Token) : t.marked.map Prod.fst = t.text := by
  rw [Token.marked, List.map_map]
  exact List.map_id _

@[simp] theorem map_fst_marked (tokens : List Token) : (marked tokens).map Prod.fst = text tokens := by
  induction tokens with
  | nil => rfl
  | cons t tokens ih => rw [marked_cons, List.map_append, ih, Token.map_fst_marked, text_cons]

@[simp] theorem kept_blank : kept blank = false := rfl

theorem Token.kept_of_mem {t : Token} {c : Marked} (h : c ∈ t.marked) : kept c = !t.isComment := by
  obtain ⟨_, -, rfl⟩ := List.mem_map.1 h
  rfl

/-- A token stands in the source as a whole. -/
theorem marked_within {t : Token} {tokens : List Token} (h : t ∈ tokens) : t.marked <:+: marked tokens := by
  obtain ⟨l₁, l₂, rfl⟩ := List.append_of_mem h
  exact ⟨marked l₁, marked l₂, by simp [marked]⟩

theorem text_within {t : Token} {tokens : List Token} (h : t ∈ tokens) : t.text <:+: text tokens := by
  rw [← Token.map_fst_marked, ← map_fst_marked]
  exact (marked_within h).map Prod.fst

/-- No token is empty. -/
theorem Token.WellFormed.ne_nil {t : Token} (h : t.WellFormed) : t.text ≠ [] := by
  cases t with
  | other text => exact h.1
  | _ => simp [Token.text]

theorem head?_text_cons {t : Token} (h : t.WellFormed) (tokens : List Token) :
    (text (t :: tokens)).head? = t.text.head? := by
  rw [text_cons]
  exact List.head?_append_of_ne_nil _ h.ne_nil

/-- A comment starts with a slash, so none follows a line comment directly. -/
theorem Token.not_isComment_of_head {t : Token} (h : ∀ c ∈ t.text.head?, isTerminator c = true) : t.isComment = false := by
  cases t with
  | lineComment body => exact absurd (h '/' rfl) (by decide)
  | blockComment body => exact absurd (h '/' rfl) (by decide)
  | _ => rfl

/-! ## Cuts of a source -/

theorem nextIs_map {α : Type} (key : α → Char) (rest : List α) (c : Char) :
    nextIs id (rest.map key) c = nextIs key rest c := by
  simp [nextIs]

section Cut

variable {α : Type} {key : α → Char} {b : α}

/-- What the scanner does depends on the characters alone. -/
theorem Scan.map_strip (s : Scan) (l : List α) : (s.strip key l).map key = s.strip id (l.map key) := by
  induction l generalizing s with
  | nil => rfl
  | cons c l ih =>
    have hnext : (l.map key).head?.map id = l.head?.map key := by simp
    unfold Scan.strip
    simp only [List.map_cons, hnext, id]
    split
    · rw [List.map_cons, ih]
    · exact ih _

theorem Scan.cut_strip (s : Scan) (l : List α) : Cut b l (s.strip key l) := by
  induction l generalizing s with
  | nil => exact .nil
  | cons c l ih =>
    unfold Scan.strip
    dsimp only
    split
    · exact .keep c (ih _)
    · exact .drop c (ih _)

theorem closes_map (l : List α) : closes id (l.map key) = closes key l := by
  induction l with
  | nil => rfl
  | cons c l ih => simp only [List.map_cons, closes, ih, nextIs_map, id]

theorem map_replaceBlocks (p : Place) (l : List α) :
    (replaceBlocks key b p l).map key = replaceBlocks id (key b) p (l.map key) := by
  induction l generalizing p with
  | nil => cases p <;> rfl
  | cons c l ih =>
    cases p with
    | outside =>
      have hdrop : closes id ((l.map key).drop 1) = closes key (l.drop 1) := by rw [← List.map_drop, closes_map]
      simp only [replaceBlocks, List.map_cons, nextIs_map, hdrop, id]
      split <;> rw [List.map_cons, ih]
    | opening => exact ih _
    | inside =>
      simp only [replaceBlocks, List.map_cons, nextIs_map, id]
      split <;> exact ih _
    | closing => exact ih _

theorem cut_replaceBlocks (p : Place) (l : List α) : Cut b l (replaceBlocks key b p l) := by
  induction l generalizing p with
  | nil => cases p <;> exact .nil
  | cons c l ih =>
    cases p with
    | outside =>
      unfold replaceBlocks
      split
      · exact .blank c (ih _)
      · exact .keep c (ih _)
    | opening => exact .drop c (ih _)
    | inside =>
      unfold replaceBlocks
      split <;> exact .drop c (ih _)
    | closing => exact .drop c (ih _)

theorem map_replaceLines (before : Option Char) (inside : Bool) (l : List α) :
    (replaceLines key b before inside l).map key = replaceLines id (key b) before inside (l.map key) := by
  induction l generalizing before inside with
  | nil => rfl
  | cons c l ih =>
    cases inside with
    | true =>
      simp only [replaceLines, List.map_cons, id]
      split
      · rw [List.map_cons, ih]
      · exact ih _ _
    | false =>
      simp only [replaceLines, List.map_cons, nextIs_map, id]
      split <;> rw [List.map_cons, ih]

theorem cut_replaceLines (before : Option Char) (inside : Bool) (l : List α) :
    Cut b l (replaceLines key b before inside l) := by
  induction l generalizing before inside with
  | nil => exact .nil
  | cons c l ih =>
    cases inside with
    | true =>
      unfold replaceLines
      split
      · exact .keep c (ih _ _)
      · exact .drop c (ih _ _)
    | false =>
      unfold replaceLines
      split
      · exact .blank c (ih _ _)
      · exact .keep c (ih _ _)

end Cut

/-! ## What the gate may do -/

/-- The pruner removes only characters of comments. -/
def PrunerSpares (tokens : List Token) : Prop :=
  Spares kept (marked tokens) (stripJavaScriptComments Prod.fst (marked tokens))

/-- The isolation check removes and replaces only characters of comments. -/
def IsolationSpares (tokens : List Token) : Prop :=
  Spares kept (marked tokens) (stripComments Prod.fst blank (marked tokens))

/-- The characters of the text decide what is stripped, not their marks. -/
theorem map_stripJavaScriptComments (tokens : List Token) :
    (stripJavaScriptComments Prod.fst (marked tokens)).map Prod.fst = stripJavaScriptComments id (text tokens) := by
  rw [stripJavaScriptComments, Scan.map_strip, map_fst_marked]
  rfl

theorem map_stripComments (tokens : List Token) :
    (stripComments Prod.fst blank (marked tokens)).map Prod.fst = stripComments id ' ' (text tokens) := by
  rw [stripComments, map_replaceLines, map_replaceBlocks, map_fst_marked]
  rfl

theorem cut_stripJavaScriptComments (l : List Marked) : Cut blank l (stripJavaScriptComments Prod.fst l) :=
  Scan.cut_strip _ _

theorem cut_stripComments (l : List Marked) : Cut blank l (stripComments Prod.fst blank l) :=
  (cut_replaceBlocks .outside l).trans (cut_replaceLines none false _)

end OpenApp.Artifacts
