import OpenApp.Artifacts.Tokens

/-!
# What the pruner takes for comments

The scanner knows quotes and comments, and neither regular expressions nor substitutions. As long as it
is in its code state at the start of a token that is no regular expression and no template with a
substitution, it reads the token as a whole. Everything else it reads character by character.
-/

namespace OpenApp.Artifacts

open Cuts

/-! ## The scan of a piece of text -/

namespace Scan

/-- The variables after a piece of text, when `next` follows it. -/
def after : Scan → List Char → Option Char → Scan
  | s, [], _ => s
  | s, c :: rest, next => after (s.turn c (rest.head?.or next)).2 rest next

/-- The piece of text goes into the output, all of it. -/
def copies : Scan → List Char → Option Char → Bool
  | _, [], _ => true
  | s, c :: rest, next => (s.turn c (rest.head?.or next)).1 && copies (s.turn c (rest.head?.or next)).2 rest next

/-- The variables within a quoted text. -/
def within (state : ScanState) (escaped : Bool) : Scan where
  state := state
  escaped := escaped
  skip := false

variable {s : Scan} {state : ScanState} {next : Option Char}

/-- A piece of text of one kind, before the rest of the source. -/
theorem spares_strip_append (s : Scan) (cs : List Char) (k : Bool) (rest : List Marked) :
    Spares kept (cs.map (fun c => (c, k)) ++ rest) (s.strip Prod.fst (cs.map (fun c => (c, k)) ++ rest)) ↔
      (k = true → s.copies cs (rest.map Prod.fst).head? = true) ∧
        Spares kept rest ((s.after cs (rest.map Prod.fst).head?).strip Prod.fst rest) := by
  induction cs generalizing s with
  | nil => simp [after, copies]
  | cons c cs ih =>
    have hnext : (cs.map (fun c => (c, k)) ++ rest).head?.map Prod.fst = cs.head?.or (rest.map Prod.fst).head? := by
      cases cs <;> simp
    simp only [List.map_cons, List.cons_append, strip, hnext, after, copies]
    cases hturn : (s.turn c (cs.head?.or (rest.map Prod.fst).head?)).1 with
    | true => simp [spares_keep, ih]
    | false =>
      have hcut : Cut blank (cs.map (fun c => (c, k)) ++ rest)
          ((s.turn c (cs.head?.or (rest.map Prod.fst).head?)).2.strip Prod.fst (cs.map (fun c => (c, k)) ++ rest)) :=
        cut_strip _ _
      rw [if_neg (by simp), hcut.spares_drop kept_blank, ih]
      cases k <;> simp [kept]

end Scan

/-- Every token that is no comment goes into the output. -/
def RawReads : Scan → List Token → Prop
  | _, [] => True
  | s, t :: tokens =>
    (t.isComment = false → s.copies t.text (text tokens).head? = true) ∧
      RawReads (s.after t.text (text tokens).head?) tokens

theorem spares_iff_rawReads (s : Scan) (tokens : List Token) :
    Spares kept (marked tokens) (s.strip Prod.fst (marked tokens)) ↔ RawReads s tokens := by
  induction tokens generalizing s with
  | nil => exact iff_of_true rfl trivial
  | cons t tokens ih =>
    rw [marked_cons, Token.marked, Scan.spares_strip_append, map_fst_marked, ih, RawReads]
    simp

/-! ## Tokens that are read as a whole -/

/-- How the scanner leaves a token that it reads as a whole, when it meets it in its code state. -/
def Token.leaves : Token → Option Scan
  | lineComment _ => some .start
  | blockComment _ => some .start
  | string _ _ => some .start
  | template true last _ => some (if last then .start else .within .template false)
  | other _ => some .start
  | _ => none

/-- What must follow a token that is read as a whole: after a line comment, a line feed or nothing. -/
def Token.followedBy (t : Token) (next : Option Char) : Prop :=
  match t with
  | lineComment _ => ∀ c ∈ next, c = '\n'
  | _ => True

/-- No token but a comment is taken for a part of one. A comment, a string, a template without a
substitution and an other token are read as a whole where the scanner is in its code state; a regular
expression, and what is read while a quote is open that is none, goes character by character. -/
def Reads : Scan → List Token → Prop
  | _, [] => True
  | s, t :: tokens =>
    match if s = .start then t.leaves else none with
    | some s' => t.followedBy (text tokens).head? ∧ Reads s' tokens
    | none =>
      (t.isComment = false → s.copies t.text (text tokens).head? = true) ∧
        Reads (s.after t.text (text tokens).head?) tokens

namespace Scan

variable {next : Option Char} {closer : Char}

theorem turn_within {state : ScanState} (hstate : state.closer = some closer) (escaped : Bool) (c : Char)
    (next : Option Char) : (within state escaped).turn c next =
      if escaped then (true, within state false)
      else if c = '\\' then (true, within state true)
      else if closer = c then (true, start) else (true, within state false) := by
  cases state with
  | code | lineComment | blockComment => cases hstate
  | single | double | template =>
    obtain rfl := Option.some.inj hstate
    cases escaped <;> simp [turn, within, start, ScanState.closer]

/-- Within quotes every character is copied, and an escaped closer does not close. -/
theorem quoted_append (state : ScanState) (hstate : state.closer = some closer) {body : List Char} {escaped : Bool}
    (h : quotedBody closer escaped body = true) (rest : List Char) (next : Option Char) :
    (within state escaped).after (body ++ rest) next = (within state false).after rest next ∧
      (within state escaped).copies (body ++ rest) next = (within state false).copies rest next := by
  induction body generalizing escaped with
  | nil =>
    cases escaped with
    | false => exact ⟨rfl, rfl⟩
    | true => cases h
  | cons c body ih =>
    simp only [List.cons_append, after, copies, turn_within hstate]
    cases escaped with
    | true => exact ih h
    | false =>
      unfold quotedBody at h
      by_cases hc : c = '\\'
      · rw [if_pos hc] at h
        simpa [hc] using ih h
      · rw [if_neg hc, Bool.and_eq_true, decide_eq_true_eq] at h
        simpa [hc, Ne.symm h.1] using ih h.2

/-- Text without quotes and slashes is copied. -/
theorem plain_text {cs : List Char} (hquote : cs.any isQuote = false) (hslash : '/' ∉ cs) (next : Option Char) :
    start.after cs next = start ∧ start.copies cs next = true := by
  induction cs with
  | nil => exact ⟨rfl, rfl⟩
  | cons c cs ih =>
    obtain ⟨hc, hcs⟩ := List.any_eq_false.1 hquote |> List.forall_mem_cons.1
    obtain ⟨hne, hrest⟩ := not_or.1 (mt List.mem_cons.2 hslash)
    obtain ⟨hafter, hcopies⟩ := ih (List.any_eq_false.2 hcs) hrest
    have hturn : start.turn c (cs.head?.or next) = (true, start) := by
      simp only [isQuote, Bool.or_eq_true, decide_eq_true_eq, not_or] at hc
      simp [turn, start, Ne.symm hne, ScanState.entered, hc]
    simp only [after, copies, hturn, hafter, hcopies, Bool.true_and, and_self]

/-- The body of a block comment is passed over up to its end. -/
theorem block_body {body : List Char} (h : closes id body = false) (next : Option Char) :
    (within .blockComment false).after (body ++ ['*', '/']) next = start := by
  induction body with
  | nil => rfl
  | cons c body ih =>
    obtain ⟨hc, hbody⟩ := Bool.or_eq_false_iff.1 h
    have hturn : (within .blockComment false).turn c ((body ++ ['*', '/']).head?.or next) =
        (false, within .blockComment false) := by
      have hnot : ¬ (c = '*' ∧ (body ++ ['*', '/']).head?.or next = some '/') := by
        rintro ⟨rfl, hnext⟩
        cases body with
        | nil => cases hnext
        | cons d body => simp_all [nextIs]
      exact if_neg hnot
    simp only [List.cons_append, after, hturn, ih hbody]

theorem line_body {body : List Char} (h : body.any isTerminator = false) (next : Option Char) :
    (within .lineComment false).after body next = within .lineComment false := by
  induction body with
  | nil => rfl
  | cons c body ih =>
    obtain ⟨hc, hbody⟩ := List.any_eq_false.1 h |> List.forall_mem_cons.1
    have hne : c ≠ '\n' := by
      rintro rfl
      exact hc rfl
    have hturn : (within .lineComment false).turn c (body.head?.or next) = (false, within .lineComment false) := by
      simp [turn, within, hne]
    simp only [after, hturn, ih (List.any_eq_false.2 hbody)]

end Scan

/-! ## The token rules -/

/-- A token that is read as a whole is copied, unless it is a comment, and leaves the scanner as it says. -/
theorem Token.leaves_reads {t : Token} (ht : t.WellFormed) {s : Scan} (hs : t.leaves = some s) (next : Option Char)
    (hline : ∀ body, t ≠ .lineComment body) (hslash : t = .other ['/'] → next ≠ some '/' ∧ next ≠ some '*') :
    (t.isComment = false → Scan.start.copies t.text next = true) ∧ Scan.start.after t.text next = s := by
  cases t with
  | lineComment body => exact absurd rfl (hline body)
  | blockComment body =>
    obtain rfl := Option.some.inj hs
    exact ⟨nofun, Scan.block_body ht next⟩
  | string quote body =>
    obtain rfl := Option.some.inj hs
    obtain ⟨rfl | rfl, hbody⟩ := ht
    · have h := Scan.quoted_append .single rfl hbody ['\''] next
      exact ⟨fun _ => h.2, h.1⟩
    · have h := Scan.quoted_append .double rfl hbody ['"'] next
      exact ⟨fun _ => h.2, h.1⟩
  | template first last body =>
    cases first with
    | false => cases hs
    | true =>
      obtain rfl := Option.some.inj hs
      have h := Scan.quoted_append .template rfl ht (if last then ['`'] else ['$', '{']) next
      cases last with
      | true => exact ⟨fun _ => h.2, h.1⟩
      | false => exact ⟨fun _ => h.2, h.1⟩
  | regex body flags => cases hs
  | other text =>
    obtain rfl := Option.some.inj hs
    obtain ⟨-, hquote, hdivide⟩ := ht
    by_cases hmem : '/' ∈ text
    · rcases hdivide hmem with rfl | rfl
      · obtain ⟨h₁, h₂⟩ := hslash rfl
        have hturn : Scan.start.turn '/' next = (true, .start) := by
          simp [Scan.turn, Scan.start, h₁, h₂, ScanState.entered]
        exact ⟨fun _ => by simp [Token.text, Scan.copies, hturn], by simp [Token.text, Scan.after, hturn]⟩
      · exact ⟨fun _ => rfl, rfl⟩
    · obtain ⟨hafter, hcopies⟩ := Scan.plain_text hquote hmem next
      exact ⟨fun _ => hcopies, hafter⟩

/-- At the end of a line the scanner is back in its code state if the line ends with a line feed. -/
theorem rawReads_after_line {tokens : List Token} (hwf : ∀ t ∈ tokens, t.WellFormed)
    (hend : ∀ c ∈ (text tokens).head?, isTerminator c = true) :
    RawReads (.within .lineComment false) tokens ↔
      (∀ c ∈ (text tokens).head?, c = '\n') ∧ RawReads .start tokens := by
  cases tokens with
  | nil => simp [RawReads, text]
  | cons t tokens =>
    have ht := hwf t List.mem_cons_self
    rw [head?_text_cons ht] at hend ⊢
    have hkept := Token.not_isComment_of_head hend
    obtain ⟨c, rest, htext⟩ := List.exists_cons_of_ne_nil ht.ne_nil
    rw [RawReads, RawReads, htext]
    by_cases hc : c = '\n'
    · -- The line feed is copied either way, and leaves the scanner in its code state.
      subst hc
      have hturn (next : Option Char) : (Scan.within .lineComment false).turn '\n' next = Scan.start.turn '\n' next := rfl
      simp [Scan.copies, Scan.after, hturn]
    · have hturn (next : Option Char) :
          ((Scan.within .lineComment false).turn c next).1 = false := by
        simp [Scan.turn, Scan.within, hc]
      simp [Scan.copies, hturn, hkept, hc]

/-- Reading the tokens by their kinds comes to the same as reading all of them by their characters. -/
theorem rawReads_iff_reads (s : Scan) (tokens : List Token) (hwf : ∀ t ∈ tokens, t.WellFormed)
    (hsep : Separated tokens) : RawReads s tokens ↔ Reads s tokens := by
  induction tokens generalizing s with
  | nil => exact Iff.rfl
  | cons t tokens ih =>
    obtain ⟨ht, htokens⟩ := List.forall_mem_cons.1 hwf
    have hrest (s : Scan) := ih s htokens hsep.tail
    rw [Reads]
    cases hleaves : if s = .start then t.leaves else none with
    | none => rw [RawReads, hrest]
    | some s' =>
      obtain ⟨rfl, hs⟩ : s = .start ∧ t.leaves = some s' := by
        split at hleaves
        · next h => exact ⟨h, hleaves⟩
        · cases hleaves
      dsimp only
      rw [← hrest]
      by_cases hline : ∃ body, t = .lineComment body
      · obtain ⟨body, rfl⟩ := hline
        obtain rfl := Option.some.inj hs
        have hafter : Scan.start.after (Token.lineComment body).text (text tokens).head? = .within .lineComment false :=
          Scan.line_body ht _
        rw [RawReads, hafter, rawReads_after_line htokens hsep.1]
        exact and_iff_right nofun
      · obtain ⟨hcopies, hafter⟩ := Token.leaves_reads ht hs (text tokens).head?
          (fun body h => hline ⟨body, h⟩) hsep.divides
        rw [RawReads, hafter, and_iff_right hcopies, and_iff_right]
        cases t <;> first | trivial | exact absurd ⟨_, rfl⟩ hline

/-! ## Sources the scanner reads as they are -/

/-- A slash in the text is followed by one or by a star. -/
def startsComment : List Char → Option Char → Bool
  | [], _ => false
  | c :: rest, next =>
    decide (c = '/' ∧ (rest.head?.or next = some '/' ∨ rest.head?.or next = some '*')) || startsComment rest next

/-- Regular expressions hold no quote and nothing like the start of a comment, no backtick stands in a substitution,
and line comments end with a line feed or the source. -/
def Tame : Bool → List Token → Prop
  | _, [] => True
  | false, .template first last _ :: tokens => first = true ∧ Tame (!last) tokens
  | false, .regex body flags :: tokens =>
    (Token.regex body flags).text.any isQuote = false ∧
      startsComment (Token.regex body flags).text (text tokens).head? = false ∧ Tame false tokens
  | false, t :: tokens => t.followedBy (text tokens).head? ∧ Tame false tokens
  | true, .template first last _ :: tokens => first = false ∧ Tame (!last) tokens
  | true, t :: tokens => '`' ∉ t.text ∧ Tame true tokens

theorem Scan.code_text {cs : List Char} {next : Option Char} (hquote : cs.any isQuote = false)
    (hcomment : startsComment cs next = false) : start.after cs next = start ∧ start.copies cs next = true := by
  induction cs with
  | nil => exact ⟨rfl, rfl⟩
  | cons c cs ih =>
    obtain ⟨hc, hcs⟩ := List.any_eq_false.1 hquote |> List.forall_mem_cons.1
    obtain ⟨hfirst, hrest⟩ := Bool.or_eq_false_iff.1 hcomment
    obtain ⟨hafter, hcopies⟩ := ih (List.any_eq_false.2 hcs) hrest
    have hturn : start.turn c (cs.head?.or next) = (true, start) := by
      simp only [isQuote, Bool.or_eq_true, decide_eq_true_eq, not_or] at hc
      simp only [decide_eq_false_iff_not, not_and_or, not_or] at hfirst
      have hline : ¬ (c = '/' ∧ cs.head?.or next = some '/') := fun h => hfirst.elim (· h.1) fun hn => hn.1 h.2
      have hblock : ¬ (c = '/' ∧ cs.head?.or next = some '*') := fun h => hfirst.elim (· h.1) fun hn => hn.2 h.2
      simp only [turn, start, hline, hblock, if_false, ScanState.entered, hc, Bool.false_eq_true]
    simp only [after, copies, hturn, hafter, hcopies, Bool.true_and, and_self]

/-- Without a backtick the scanner stays in the template. -/
theorem Scan.template_text {cs : List Char} (h : '`' ∉ cs) (escaped : Bool) (next : Option Char) :
    ∃ e, (within .template escaped).after cs next = within .template e ∧
      (within .template escaped).copies cs next = true := by
  induction cs generalizing escaped with
  | nil => exact ⟨escaped, rfl, rfl⟩
  | cons c cs ih =>
    obtain ⟨hc, hcs⟩ := not_or.1 (mt List.mem_cons.2 h)
    have hturn (next : Option Char) : ∃ e, (within .template escaped).turn c next = (true, within .template e) := by
      rw [@turn_within '`' .template rfl, if_neg hc]
      split
      · exact ⟨false, rfl⟩
      · split
        · exact ⟨true, rfl⟩
        · exact ⟨false, rfl⟩
    obtain ⟨e, he⟩ := hturn (cs.head?.or next)
    obtain ⟨e', hafter, hcopies⟩ := ih hcs e
    refine ⟨e', ?_, ?_⟩
    · rw [after, he, hafter]
    · rw [copies, he, hcopies, Bool.and_self]

/-- A piece that starts with the end of a substitution brings the scanner to its own end. -/
theorem Scan.template_piece {body : List Char} (h : quotedBody '`' false body = true) (last escaped : Bool)
    (next : Option Char) :
    (within .template escaped).after (Token.template false last body).text next =
        (if last then start else within .template false) ∧
      (within .template escaped).copies (Token.template false last body).text next = true := by
  have hturn (next : Option Char) : (within .template escaped).turn '}' next = (true, within .template false) := by
    cases escaped <;> rfl
  obtain ⟨hafter, hcopies⟩ := quoted_append .template rfl h (if last then ['`'] else ['$', '{']) next
  have htext : (Token.template false last body).text = '}' :: (body ++ if last then ['`'] else ['$', '{']) := rfl
  rw [htext, after, copies, hturn, hafter, hcopies]
  cases last <;> exact ⟨rfl, rfl⟩

theorem reads_of_tame {tokens : List Token} (hwf : ∀ t ∈ tokens, t.WellFormed) :
    (Tame false tokens → Reads .start tokens) ∧ ∀ e, Tame true tokens → Reads (.within .template e) tokens := by
  induction tokens with
  | nil => exact ⟨fun _ => trivial, fun _ _ => trivial⟩
  | cons t tokens ih =>
    obtain ⟨ht, htokens⟩ := List.forall_mem_cons.1 hwf
    obtain ⟨hcode, htemplate⟩ := ih htokens
    -- A token other than a piece of a template, in a substitution.
    have hwithin (e : Bool) (hmem : '`' ∉ t.text) (htame : Tame true tokens) : Reads (.within .template e) (t :: tokens) := by
      obtain ⟨e', hafter, hcopies⟩ := Scan.template_text hmem e (text tokens).head?
      rw [Reads, if_neg nofun]
      exact ⟨fun _ => hcopies, hafter ▸ htemplate e' htame⟩
    have hpiece (last : Bool) (htame : Tame (!last) tokens) :
        Reads (if last then .start else .within .template false) tokens := by
      cases last with
      | true => exact hcode htame
      | false => exact htemplate false htame
    cases t with
    | template first last body =>
      refine ⟨fun h => ?_, fun e h => ?_⟩
      · obtain ⟨rfl, htame⟩ := h
        exact ⟨trivial, hpiece last htame⟩
      · obtain ⟨rfl, htame⟩ := h
        obtain ⟨hafter, hcopies⟩ := Scan.template_piece ht last e (text tokens).head?
        rw [Reads, if_neg nofun]
        exact ⟨fun _ => hcopies, hafter ▸ hpiece last htame⟩
    | regex body flags =>
      refine ⟨fun ⟨hquote, hcomment, htame⟩ => ?_, fun e h => hwithin e h.1 h.2⟩
      obtain ⟨hafter, hcopies⟩ := Scan.code_text hquote hcomment
      refine ⟨fun _ => hcopies, ?_⟩
      rw [hafter]
      exact hcode htame
    | lineComment | blockComment | string | other =>
      exact ⟨fun h => ⟨h.1, hcode h.2⟩, fun e h => hwithin e h.1 h.2⟩

/-- The pruner spares what is no comment exactly if its scanner does not take it for a part of one. -/
theorem prunerSpares_iff (source : Source) : PrunerSpares source.tokens ↔ Reads .start source.tokens :=
  (spares_iff_rawReads .start source.tokens).trans
    (rawReads_iff_reads .start source.tokens source.wellFormed source.separated)

end OpenApp.Artifacts
