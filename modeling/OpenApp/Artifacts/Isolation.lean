import OpenApp.Artifacts.Tokens

/-!
# What the isolation check takes for comments

The two regular expressions know no quotes. The first one takes an opener for one wherever it stands,
if there is a closer anywhere after it; the second one takes two slashes for a comment unless a colon
stands before them.
-/

namespace OpenApp.Artifacts

open Cuts

/-! ## Block comments -/

namespace Place

/-- Where the first replacement is after a piece of text, when `following` comes next. -/
def after : Place → List Char → List Char → Place
  | p, [], _ => p
  | outside, c :: rest, following =>
    if c = '/' ∧ nextIs id (rest ++ following) '*' ∧ closes id ((rest ++ following).drop 1) then
      after opening rest following
    else after outside rest following
  | opening, _ :: rest, following => after inside rest following
  | inside, c :: rest, following =>
    if c = '*' ∧ nextIs id (rest ++ following) '/' then after closing rest following else after inside rest following
  | closing, _ :: rest, following => after outside rest following

/-- What the first replacement leaves of a piece of text. -/
def left : Place → List Char → List Char → List Char
  | _, [], _ => []
  | outside, c :: rest, following =>
    if c = '/' ∧ nextIs id (rest ++ following) '*' ∧ closes id ((rest ++ following).drop 1) then
      ' ' :: left opening rest following
    else c :: left outside rest following
  | opening, _ :: rest, following => left inside rest following
  | inside, c :: rest, following =>
    if c = '*' ∧ nextIs id (rest ++ following) '/' then left closing rest following else left inside rest following
  | closing, _ :: rest, following => left outside rest following

end Place

/-- An opener stands in the text, and a closer somewhere after it. -/
def opens : List Char → List Char → Bool
  | [], _ => false
  | c :: rest, following =>
    c = '/' && nextIs id (rest ++ following) '*' && closes id ((rest ++ following).drop 1) || opens rest following

/-- No token but a comment has an opener that is closed after it, and a line comment that has one ends
the source or has the closer as well. -/
def Blocks : List Token → Prop
  | [] => True
  | .blockComment _ :: tokens => Blocks tokens
  | .lineComment body :: tokens =>
    (tokens = [] ∨ Place.outside.after (Token.lineComment body).text (text tokens) = .outside) ∧ Blocks tokens
  | t :: tokens => opens t.text (text tokens) = false ∧ Blocks tokens

/-- What the first replacement leaves of a token. -/
def Token.remains (t : Token) (following : List Char) : List Marked :=
  match t with
  | blockComment _ => [blank]
  | lineComment body => (Place.outside.left (lineComment body).text following).map fun c => (c, false)
  | t => t.marked

/-- What the first replacement leaves of the tokens. -/
def remains : List Token → List Marked
  | [] => []
  | t :: tokens => t.remains (text tokens) ++ remains tokens

section Blocks

variable {cs : List Char} {rest : List Marked}

/-- The key of the entries before the rest, and of the rest. -/
theorem map_fst_append (cs : List Char) (k : Bool) (rest : List Marked) :
    (cs.map (fun c => (c, k)) ++ rest).map Prod.fst = cs ++ rest.map Prod.fst := by
  rw [List.map_append, List.map_map]
  exact congrArg (· ++ _) (List.map_id cs)

theorem nextIs_append (cs : List Char) (k : Bool) (rest : List Marked) (c : Char) :
    nextIs Prod.fst (cs.map (fun c => (c, k)) ++ rest) c = nextIs id (cs ++ rest.map Prod.fst) c := by
  rw [← nextIs_map, map_fst_append]

theorem closes_append (cs : List Char) (k : Bool) (rest : List Marked) :
    closes Prod.fst ((cs.map (fun c => (c, k)) ++ rest).drop 1) = closes id ((cs ++ rest.map Prod.fst).drop 1) := by
  rw [← closes_map, List.map_drop, map_fst_append]

theorem replaceBlocks_comment (p : Place) (cs : List Char) (rest : List Marked) :
    replaceBlocks Prod.fst blank p (cs.map (fun c => (c, false)) ++ rest) =
      (p.left cs (rest.map Prod.fst)).map (fun c => (c, false)) ++
        replaceBlocks Prod.fst blank (p.after cs (rest.map Prod.fst)) rest := by
  induction cs generalizing p with
  | nil => cases p <;> rfl
  | cons c cs ih =>
    cases p with
    | outside =>
      simp only [List.map_cons, List.cons_append, replaceBlocks, Place.left, Place.after, nextIs_append, closes_append]
      split
      · rw [ih, List.map_cons]
        rfl
      · rw [ih, List.map_cons]
        rfl
    | opening => exact ih _
    | inside =>
      simp only [List.map_cons, List.cons_append, replaceBlocks, Place.left, Place.after, nextIs_append]
      split <;> exact ih _
    | closing => exact ih _

/-- Text of a token that is no comment: either nothing begins in it, or its own slash is replaced. -/
theorem replaceBlocks_kept (cs : List Char) (rest : List Marked) :
    (opens cs (rest.map Prod.fst) = false →
      replaceBlocks Prod.fst blank .outside (cs.map (fun c => (c, true)) ++ rest) =
        cs.map (fun c => (c, true)) ++ replaceBlocks Prod.fst blank .outside rest) ∧
    (opens cs (rest.map Prod.fst) = true →
      ¬ Spares kept (cs.map (fun c => (c, true)) ++ rest)
        (replaceBlocks Prod.fst blank .outside (cs.map (fun c => (c, true)) ++ rest))) := by
  induction cs with
  | nil => exact ⟨fun _ => rfl, fun h => absurd h Bool.false_ne_true⟩
  | cons c cs ih =>
    simp only [List.map_cons, List.cons_append, replaceBlocks, opens, nextIs_append, closes_append, Bool.or_eq_false_iff,
      Bool.or_eq_true, Bool.and_eq_true, decide_eq_true_eq, and_assoc]
    split
    · next h =>
      refine ⟨fun hno => absurd h (by simpa using hno.1), fun _ hs => ?_⟩
      have hcut : Cut blank (cs.map (fun c => (c, true)) ++ rest)
          (replaceBlocks Prod.fst blank .opening (cs.map (fun c => (c, true)) ++ rest)) := cut_replaceBlocks _ _
      exact absurd ((hcut.spares_blank kept_blank _).1 hs).1 (Ne.symm Bool.false_ne_true)
    · next h =>
      refine ⟨fun hno => by rw [ih.1 hno.2], fun hyes hs => ?_⟩
      exact ih.2 (hyes.resolve_left h) ((spares_keep _).1 hs)

/-- Outside of everything, a block comment is replaced by a blank. -/
theorem replaceBlocks_inside {body : List Char} (h : closes id body = false) (rest : List Marked) :
    replaceBlocks Prod.fst blank .inside ((body ++ ['*', '/']).map (fun c => (c, false)) ++ rest) =
      replaceBlocks Prod.fst blank .outside rest := by
  induction body with
  | nil => rfl
  | cons c body ih =>
    obtain ⟨hc, hbody⟩ := Bool.or_eq_false_iff.1 h
    have hnot : ¬ (c = '*' ∧ nextIs id ((body ++ ['*', '/']) ++ rest.map Prod.fst) '/' = true) := by
      rintro ⟨rfl, hnext⟩
      cases body with
      | nil => cases hnext
      | cons d body => simp_all [nextIs]
    simp only [List.cons_append, List.map_cons, replaceBlocks, nextIs_append]
    rw [if_neg hnot, ih hbody]

theorem closes_body (body rest : List Char) : closes id (body ++ '*' :: '/' :: rest) = true := by
  induction body with
  | nil => rfl
  | cons c body ih => simp [closes, ih]

theorem replaceBlocks_blockComment {body : List Char} (h : closes id body = false) (rest : List Marked) :
    replaceBlocks Prod.fst blank .outside ((Token.blockComment body).marked ++ rest) =
      blank :: replaceBlocks Prod.fst blank .outside rest := by
  have hclose : closes id (body ++ (['*', '/'] ++ rest.map Prod.fst)) = true := closes_body body _
  have hopen := replaceBlocks_inside h rest
  simp only [Token.marked, Token.text, Token.isComment, Bool.not_true, List.map_cons, List.cons_append]
  rw [replaceBlocks, if_pos, replaceBlocks, hopen]
  refine ⟨rfl, rfl, ?_⟩
  rw [List.drop_succ_cons, List.drop_zero, ← closes_map, map_fst_append, List.append_assoc]
  exact hclose

/-- Where it is not outside, the first replacement drops the next character. -/
theorem replaceBlocks_drops {p : Place} (hp : p ≠ .outside) (c : Marked) (rest : List Marked) :
    ∃ p', replaceBlocks Prod.fst blank p (c :: rest) = replaceBlocks Prod.fst blank p' rest := by
  cases p with
  | outside => exact absurd rfl hp
  | opening => exact ⟨.inside, rfl⟩
  | inside =>
    by_cases h : c.1 = '*' ∧ nextIs Prod.fst rest '/'
    · exact ⟨.closing, if_pos h⟩
    · exact ⟨.inside, if_neg h⟩
  | closing => exact ⟨.outside, rfl⟩

theorem spares_comment (cs left : List Char) {o : List Marked} (h : Cut blank rest o)
    (hcut : Cut blank (cs.map (fun c => (c, false))) (left.map fun c => (c, false))) :
    Spares kept (cs.map (fun c => (c, false)) ++ rest) (left.map (fun c => (c, false)) ++ o) ↔ Spares kept rest o := by
  rw [hcut.spares_append kept_blank h]
  refine and_iff_right ?_
  unfold Spares
  rw [List.filter_eq_nil_iff.2 (by simp [kept]), List.filter_eq_nil_iff.2 (by simp [kept])]

theorem Place.cut_left (p : Place) (cs following : List Char) :
    Cut blank (cs.map (fun c => (c, false))) ((p.left cs following).map fun c => (c, false)) := by
  induction cs generalizing p with
  | nil => cases p <;> exact .nil
  | cons c cs ih =>
    cases p with
    | outside =>
      unfold Place.left
      split
      · exact .blank _ (ih _)
      · exact .keep _ (ih _)
    | opening => exact .drop _ (ih _)
    | inside =>
      unfold Place.left
      split <;> exact .drop _ (ih _)
    | closing => exact .drop _ (ih _)

/-- A first replacement that goes on past a line comment takes the end of the line with it. -/
theorem not_spares_of_unclosed {tokens : List Token} (hwf : ∀ t ∈ tokens, t.WellFormed) (hne : tokens ≠ [])
    (hend : ∀ c ∈ (text tokens).head?, isTerminator c = true) {p : Place} (hp : p ≠ .outside) :
    ¬ Spares kept (marked tokens) (replaceBlocks Prod.fst blank p (marked tokens)) := by
  obtain ⟨t, tokens, rfl⟩ := List.exists_cons_of_ne_nil hne
  have ht := hwf t List.mem_cons_self
  rw [head?_text_cons ht] at hend
  have hcomment := Token.not_isComment_of_head hend
  obtain ⟨c, cs, htext⟩ := List.exists_cons_of_ne_nil ht.ne_nil
  have hmarked : marked (t :: tokens) = (c, true) :: (cs.map (fun c => (c, true)) ++ marked tokens) := by
    rw [marked_cons, Token.marked, htext, hcomment]
    rfl
  obtain ⟨p', hdrop⟩ := replaceBlocks_drops hp (c, true) (cs.map (fun c => (c, true)) ++ marked tokens)
  rw [hmarked, hdrop]
  exact fun hs => absurd (((cut_replaceBlocks p' _).spares_drop kept_blank _).1 hs).1 (Ne.symm Bool.false_ne_true)

/-- The first replacement takes only comments exactly if no other token has a part in what it takes for one. -/
theorem spares_blocks_iff {tokens : List Token} (hwf : ∀ t ∈ tokens, t.WellFormed) (hsep : Separated tokens) :
    (Spares kept (marked tokens) (replaceBlocks Prod.fst blank .outside (marked tokens)) ↔ Blocks tokens) ∧
      (Blocks tokens → replaceBlocks Prod.fst blank .outside (marked tokens) = remains tokens) := by
  induction tokens with
  | nil => exact ⟨iff_of_true rfl trivial, fun _ => rfl⟩
  | cons t tokens ih =>
    obtain ⟨ht, htokens⟩ := List.forall_mem_cons.1 hwf
    obtain ⟨hiff, heq⟩ := ih htokens hsep.tail
    have hcut (p : Place) : Cut blank (marked tokens) (replaceBlocks Prod.fst blank p (marked tokens)) :=
      cut_replaceBlocks p _
    have hfollowing : (marked tokens).map Prod.fst = text tokens := map_fst_marked tokens
    have hplain (hkept : t.isComment = false) (hblocks : Blocks (t :: tokens) ↔ opens t.text (text tokens) = false ∧ Blocks tokens)
        (hremains : remains (t :: tokens) = t.marked ++ remains tokens) :
        (Spares kept (marked (t :: tokens)) (replaceBlocks Prod.fst blank .outside (marked (t :: tokens))) ↔
          Blocks (t :: tokens)) ∧
        (Blocks (t :: tokens) →
          replaceBlocks Prod.fst blank .outside (marked (t :: tokens)) = remains (t :: tokens)) := by
      have hmarked : t.marked = t.text.map fun c => (c, true) := by rw [Token.marked, hkept]; rfl
      obtain ⟨hno, hyes⟩ := replaceBlocks_kept t.text (marked tokens)
      rw [hfollowing] at hno hyes
      rw [marked_cons, hblocks, hremains, hmarked]
      cases hopen : opens t.text (text tokens) with
      | true =>
        have hnot {q : Prop} : ¬ (true = false ∧ q) := fun h => absurd h.1 (Ne.symm Bool.false_ne_true)
        exact ⟨iff_of_false (hyes hopen) hnot, fun h => absurd h hnot⟩
      | false =>
        rw [hno hopen, (Cut.refl _).spares_append kept_blank (hcut .outside), hiff]
        exact ⟨⟨fun h => ⟨rfl, h.2⟩, fun h => ⟨rfl, h.2⟩⟩, fun h => by rw [heq h.2]⟩
    cases t with
    | lineComment body =>
      rw [marked_cons, Token.marked, Blocks]
      simp only [Token.isComment, Bool.not_true]
      rw [replaceBlocks_comment, hfollowing, spares_comment _ _ (hcut _) (Place.cut_left _ _ _)]
      by_cases hplace : Place.outside.after (Token.lineComment body).text (text tokens) = .outside
      · rw [hplace, hiff]
        refine ⟨(and_iff_right (.inr rfl)).symm, fun h => ?_⟩
        rw [heq h.2]
        rfl
      · by_cases hnil : tokens = []
        · subst hnil
          refine ⟨iff_of_true (by cases Place.outside.after _ _ <;> rfl) ⟨.inl rfl, trivial⟩, fun _ => ?_⟩
          cases Place.outside.after (Token.lineComment body).text (text []) <;> rfl
        · have hfalse : ¬ ((tokens = [] ∨ Place.outside.after (Token.lineComment body).text (text tokens) = .outside) ∧
              Blocks tokens) := fun h => h.1.elim hnil hplace
          exact ⟨iff_of_false (not_spares_of_unclosed htokens hnil hsep.1 hplace) hfalse, fun h => absurd h hfalse⟩
    | blockComment body =>
      rw [marked_cons, replaceBlocks_blockComment ht, Blocks]
      have hspares : Spares kept ((Token.blockComment body).marked ++ marked tokens)
          (blank :: replaceBlocks Prod.fst blank .outside (marked tokens)) ↔
          Spares kept (marked tokens) (replaceBlocks Prod.fst blank .outside (marked tokens)) := by
        unfold Spares
        have hnone : (Token.blockComment body).marked.filter kept = [] :=
          List.filter_eq_nil_iff.2 fun c hc => by rw [Token.kept_of_mem hc]; exact Bool.false_ne_true
        rw [List.filter_append, hnone, List.filter_cons_of_neg (by simp), List.nil_append]
      rw [hspares, hiff]
      refine ⟨Iff.rfl, fun h => ?_⟩
      rw [heq h]
      rfl
    | string | template | regex | other => exact hplain rfl Iff.rfl rfl

end Blocks

/-! ## Line comments -/

/-- Two slashes begin in the text, the first of them not after a colon. -/
def seen : Option Char → List Char → Option Char → Bool
  | _, [], _ => false
  | before, c :: rest, next =>
    decide (c = '/' ∧ rest.head?.or next = some '/' ∧ before ≠ some ':') || seen (some c) rest next

/-- The character that comes after, once block comments are blanks. -/
def nextOf (tokens : List Token) : Option Char :=
  ((remains tokens).map Prod.fst).head?

/-- No token but a comment has two slashes that are not after a colon, and a line comment of which as much
is seen ends at a carriage return, at a line feed or with the source. -/
def Lines : Option Char → List Token → Prop
  | _, [] => True
  | _, .blockComment _ :: tokens => Lines (some ' ') tokens
  | before, .lineComment body :: tokens =>
    (seen before (Place.outside.left (Token.lineComment body).text (text tokens)) (nextOf tokens) = true →
      ∀ c ∈ (text tokens).head?, c = '\r' ∨ c = '\n') ∧ Lines none tokens
  | before, t :: tokens => seen before t.text (nextOf tokens) = false ∧ Lines t.text.getLast? tokens

section Lines

variable {rest : List Marked} {before : Option Char}

theorem nextIs_line (cs : List Char) (k : Bool) (rest : List Marked) :
    nextIs Prod.fst (cs.map (fun c => (c, k)) ++ rest) '/' =
      decide (cs.head?.or (rest.map Prod.fst).head? = some '/') := by
  unfold nextIs
  rw [← List.head?_map, map_fst_append]
  cases cs <;> rfl

theorem replaceLines_kept (before : Option Char) (cs : List Char) (rest : List Marked) :
    (seen before cs (rest.map Prod.fst).head? = false →
      replaceLines Prod.fst blank before false (cs.map (fun c => (c, true)) ++ rest) =
        cs.map (fun c => (c, true)) ++ replaceLines Prod.fst blank (cs.getLast?.or before) false rest) ∧
    (seen before cs (rest.map Prod.fst).head? = true →
      ¬ Spares kept (cs.map (fun c => (c, true)) ++ rest)
        (replaceLines Prod.fst blank before false (cs.map (fun c => (c, true)) ++ rest))) := by
  induction cs generalizing before with
  | nil => exact ⟨fun _ => rfl, fun h => absurd h Bool.false_ne_true⟩
  | cons c cs ih =>
    obtain ⟨hno, hyes⟩ := ih (some c)
    have hlast : (c :: cs).getLast?.or before = cs.getLast?.or (some c) := by
      cases h : cs.getLast? <;> simp [List.getLast?_cons, h]
    simp only [List.map_cons, List.cons_append, replaceLines, seen, nextIs_line, Bool.or_eq_false_iff, Bool.or_eq_true,
      decide_eq_true_eq, decide_eq_false_iff_not, hlast]
    split
    · next h =>
      refine ⟨fun h' => absurd h h'.1, fun _ hs => ?_⟩
      exact absurd (((cut_replaceLines before true _).spares_blank kept_blank _).1 hs).1 (Ne.symm Bool.false_ne_true)
    · next h =>
      refine ⟨fun h' => by rw [hno h'.2], fun h' hs => ?_⟩
      exact hyes (h'.resolve_left h) ((spares_keep _).1 hs)

/-- Once a comment is seen, the rest of it is dropped. -/
theorem spares_lines_inside {cs : List Char} (hcs : ∀ c ∈ cs, c ≠ '\r' ∧ c ≠ '\n') (before : Option Char) :
    Spares kept (cs.map (fun c => (c, false)) ++ rest)
        (replaceLines Prod.fst blank before true (cs.map (fun c => (c, false)) ++ rest)) ↔
      Spares kept rest (replaceLines Prod.fst blank before true rest) := by
  induction cs with
  | nil => exact Iff.rfl
  | cons c cs ih =>
    obtain ⟨⟨hr, hn⟩, hcs⟩ := List.forall_mem_cons.1 hcs
    simp only [List.map_cons, List.cons_append, replaceLines, hr, hn, or_self, if_false]
    rw [(cut_replaceLines before true _).spares_drop kept_blank, ih hcs]
    exact and_iff_right rfl

/-- A comment says nothing but where the second replacement is after it. -/
theorem spares_lines_comment {cs : List Char} (hcs : ∀ c ∈ cs, c ≠ '\r' ∧ c ≠ '\n') (rest : List Marked)
    (before : Option Char) :
    ∃ q, Spares kept (cs.map (fun c => (c, false)) ++ rest)
        (replaceLines Prod.fst blank before false (cs.map (fun c => (c, false)) ++ rest)) ↔
      Spares kept rest (replaceLines Prod.fst blank q (seen before cs (rest.map Prod.fst).head?) rest) := by
  induction cs generalizing before with
  | nil => exact ⟨before, Iff.rfl⟩
  | cons c cs ih =>
    have hcut (inside : Bool) (q : Option Char) : Cut blank (cs.map (fun c => (c, false)) ++ rest)
        (replaceLines Prod.fst blank q inside (cs.map (fun c => (c, false)) ++ rest)) := cut_replaceLines q inside _
    obtain ⟨-, hcs⟩ := List.forall_mem_cons.1 hcs
    simp only [List.map_cons, List.cons_append, replaceLines, seen, nextIs_line, decide_eq_true_eq]
    split
    · next h =>
      refine ⟨before, ?_⟩
      rw [(hcut true before).spares_blank kept_blank, spares_lines_inside hcs, decide_eq_true h, Bool.true_or]
      exact and_iff_right rfl
    · next h =>
      obtain ⟨q, hq⟩ := ih hcs (some c)
      refine ⟨q, ?_⟩
      rw [spares_keep, hq, decide_eq_false h, Bool.false_or]

theorem Place.mem_left {p : Place} {cs following : List Char} {c : Char} (h : c ∈ p.left cs following) : c ∈ cs ∨ c = ' ' := by
  induction cs generalizing p with
  | nil => cases p <;> cases h
  | cons d cs ih =>
    have hrest {p : Place} (h : c ∈ p.left cs following) : c ∈ d :: cs ∨ c = ' ' :=
      (ih h).imp_left (List.mem_cons_of_mem d)
    cases p with
    | outside =>
      unfold Place.left at h
      split at h
      · rcases List.mem_cons.1 h with rfl | h
        · exact .inr rfl
        · exact hrest h
      · rcases List.mem_cons.1 h with rfl | h
        · exact .inl List.mem_cons_self
        · exact hrest h
    | opening => exact hrest h
    | inside =>
      unfold Place.left at h
      split at h <;> exact hrest h
    | closing => exact hrest h

/-- A line comment does not end its own line, whatever is left of it. -/
theorem left_no_terminator {body : List Char} (h : (Token.lineComment body).WellFormed) (following : List Char) :
    ∀ c ∈ Place.outside.left (Token.lineComment body).text following, c ≠ '\r' ∧ c ≠ '\n' := by
  have hplain (c : Char) (hc : isTerminator c = false) : c ≠ '\r' ∧ c ≠ '\n' := by
    constructor
    all_goals
      rintro rfl
      cases hc
  intro c hc
  apply hplain
  rcases Place.mem_left hc with hmem | rfl
  · rcases List.mem_cons.1 hmem with rfl | hmem
    · rfl
    · rcases List.mem_cons.1 hmem with rfl | hmem
      · rfl
      · exact Bool.eq_false_iff.2 (List.any_eq_false.1 h c hmem)
  · rfl

/-- The end of a line, which is no slash, is copied whatever was before it. -/
theorem replaceLines_terminator {c : Char} (hc : isTerminator c = true) (k : Bool) (before : Option Char) (rest : List Marked) :
    replaceLines Prod.fst blank before false ((c, k) :: rest) = (c, k) :: replaceLines Prod.fst blank (some c) false rest := by
  refine if_neg ?_
  rintro ⟨h, -⟩
  obtain rfl : c = '/' := h
  cases hc

/-- What the second replacement does at the end of a line, when it comes from a comment. -/
theorem spares_lines_end {tokens : List Token} (hwf : ∀ t ∈ tokens, t.WellFormed)
    (hend : ∀ c ∈ (text tokens).head?, isTerminator c = true) (q : Option Char) (inside : Bool) :
    Spares kept (remains tokens) (replaceLines Prod.fst blank q inside (remains tokens)) ↔
      (inside = true → ∀ c ∈ (text tokens).head?, c = '\r' ∨ c = '\n') ∧
        Spares kept (remains tokens) (replaceLines Prod.fst blank none false (remains tokens)) := by
  cases tokens with
  | nil => exact iff_of_true (by cases inside <;> rfl) ⟨fun _ c hc => absurd hc (Option.not_mem_none c), rfl⟩
  | cons t tokens =>
    have ht := hwf t List.mem_cons_self
    rw [head?_text_cons ht] at hend ⊢
    have hkept := Token.not_isComment_of_head hend
    obtain ⟨c, cs, htext⟩ := List.exists_cons_of_ne_nil ht.ne_nil
    have hc : isTerminator c = true := hend c (by rw [htext]; rfl)
    have hmarked : t.marked = (c, true) :: cs.map fun c => (c, true) := by
      rw [Token.marked, htext, hkept]
      rfl
    have hremains : remains (t :: tokens) = (c, true) :: (cs.map (fun c => (c, true)) ++ remains tokens) := by
      have htoken : t.remains (text tokens) = t.marked := by
        cases t <;> first | rfl | cases hkept
      rw [remains, htoken, hmarked]
      rfl
    rw [hremains, htext, List.head?_cons, replaceLines_terminator hc]
    cases inside with
    | false =>
      rw [replaceLines_terminator hc]
      exact (and_iff_right fun h => absurd h Bool.false_ne_true).symm
    | true =>
      by_cases hbreak : c = '\r' ∨ c = '\n'
      · rw [replaceLines, if_pos hbreak]
        exact (and_iff_right fun _ d hd => Option.some.inj hd ▸ hbreak).symm
      · -- The end of the line is dropped with the comment.
        rw [replaceLines, if_neg hbreak, (cut_replaceLines q true _).spares_drop kept_blank]
        exact iff_of_false (fun h => absurd h.1 (Ne.symm Bool.false_ne_true)) fun h => hbreak (h.1 rfl c rfl)

/-- The second replacement takes only comments exactly if no other token has a part in what it takes for one. -/
theorem spares_lines_iff {tokens : List Token} (hwf : ∀ t ∈ tokens, t.WellFormed) (hsep : Separated tokens)
    (before : Option Char) :
    Spares kept (remains tokens) (replaceLines Prod.fst blank before false (remains tokens)) ↔ Lines before tokens := by
  induction tokens generalizing before with
  | nil => exact iff_of_true rfl trivial
  | cons t tokens ih =>
    obtain ⟨ht, htokens⟩ := List.forall_mem_cons.1 hwf
    have hrest (before : Option Char) := ih htokens hsep.tail before
    have hcut (before : Option Char) : Cut blank (remains tokens)
        (replaceLines Prod.fst blank before false (remains tokens)) := cut_replaceLines before false _
    have hplain (hkept : t.isComment = false) (hremains : t.remains (text tokens) = t.marked)
        (hlines : Lines before (t :: tokens) ↔ seen before t.text (nextOf tokens) = false ∧ Lines t.text.getLast? tokens) :
        Spares kept (remains (t :: tokens)) (replaceLines Prod.fst blank before false (remains (t :: tokens))) ↔
          Lines before (t :: tokens) := by
      have hmarked : t.marked = t.text.map fun c => (c, true) := by rw [Token.marked, hkept]; rfl
      have hlast : t.text.getLast?.or before = t.text.getLast? := by
        rw [List.getLast?_eq_some_getLast ht.ne_nil]
        rfl
      obtain ⟨hno, hyes⟩ := replaceLines_kept before t.text (remains tokens)
      rw [hlines, remains, hremains, hmarked]
      cases hseen : seen before t.text (nextOf tokens) with
      | true => exact iff_of_false (hyes hseen) fun h => absurd h.1 (Ne.symm Bool.false_ne_true)
      | false =>
        rw [hno hseen, hlast, (Cut.refl _).spares_append kept_blank (hcut _), hrest]
        exact ⟨fun h => ⟨rfl, h.2⟩, fun h => ⟨rfl, h.2⟩⟩
    cases t with
    | lineComment body =>
      obtain ⟨q, hq⟩ := spares_lines_comment (left_no_terminator ht (text tokens)) (remains tokens) before
      rw [remains, Token.remains, hq, spares_lines_end htokens hsep.1, hrest]
      rfl
    | blockComment body =>
      have hblank : replaceLines Prod.fst blank before false (blank :: remains tokens) =
          blank :: replaceLines Prod.fst blank (some ' ') false (remains tokens) := if_neg fun h => absurd h.1 (by decide)
      rw [remains, Token.remains, List.singleton_append, hblank, spares_keep, hrest]
      rfl
    | string | template | regex | other => exact hplain rfl rfl Iff.rfl

end Lines

/-- The isolation check spares what is no comment exactly if neither of its regular expressions takes it for a
part of one. -/
theorem isolationSpares_iff (source : Source) :
    IsolationSpares source.tokens ↔ Blocks source.tokens ∧ Lines none source.tokens := by
  obtain ⟨hiff, heq⟩ := spares_blocks_iff source.wellFormed source.separated
  have hfirst : Cut blank (marked source.tokens) (replaceBlocks Prod.fst blank .outside (marked source.tokens)) :=
    cut_replaceBlocks _ _
  unfold IsolationSpares stripComments
  rw [hfirst.spares_trans kept_blank (cut_replaceLines none false _), hiff]
  refine and_congr_right fun hblocks => ?_
  rw [heq hblocks]
  exact spares_lines_iff source.wellFormed source.separated none

end OpenApp.Artifacts
