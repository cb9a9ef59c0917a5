import OpenApp.Policy.Runnable

/-!
# Paths of config files

The editor takes a path apart at its slashes. The runtime looks for the dots with a pattern whose `.` stops
at a line terminator, so it does not see the dots that stand after one.
-/

namespace OpenApp.Policy

open Script

/-- What `#launchProfile` asks of a path. -/
def launchesPath (path : String) : Bool :=
  CONFIG_PATH_PATTERN path && path.toList.getLast? ≠ some '/' && (pathParts path).all (· ≠ [])

/-- What `validateConfigFiles` asks of a path. -/
def editsPath (path : String) : Bool :=
  configFile (path, "")

theorem launchConfigFiles_single {path content : String} :
    launchConfigFiles [] [⟨path, content⟩] = .ok () ↔ launchesPath path = true ∧ containsNul content = false := by
  rw [launchConfigFiles_ok]
  simp [launchableFile, launchesPath]

theorem configFile_iff {path content : String} :
    configFile (path, content) = true ↔ editsPath path = true ∧ containsNul content = false := by
  have hnul : containsNul "" = false := by decide
  simp [configFile, editsPath, hnul]

/-- The path stays below the root it is joined to. -/
def StaysInside (path : String) : Prop :=
  path.toList.head? ≠ some '/' ∧ ∀ part ∈ pathParts path, part ≠ [] ∧ part ≠ ['.'] ∧ part ≠ ['.', '.']

structure PathChecksHold (path : String) : Prop where
  launched : launchesPath path = true → StaysInside path
  edited : editsPath path = true → StaysInside path
  same : launchesPath path = editsPath path

/-! ## What the pattern sees -/

def Dots (part : List Char) : Prop :=
  part = ['.'] ∨ part = ['.', '.']

/-- No line terminator. -/
def OneLine (parts : List (List Char)) : Prop :=
  ∀ part ∈ parts, ∀ c ∈ part, isLineTerminator c = false

/-- The part is one of the path, and is on its first line. -/
def SeenIn (part : List Char) (parts : List (List Char)) : Prop :=
  ∃ before after, parts = before ++ part :: after ∧ OneLine before

theorem segmentHere_iff {dots cs : List Char} (hdots : '/' ∉ dots) :
    segmentHere dots cs = true ↔ (cs.splitOn '/').head? = some dots := by
  induction cs generalizing dots with
  | nil => cases dots <;> simp [segmentHere]
  | cons c cs ih =>
    rw [List.splitOn_cons_eq_if_modifyHead]
    by_cases hc : c = '/'
    · subst hc
      cases dots with
      | nil => exact iff_of_true rfl rfl
      | cons d dots =>
        have hd : d ≠ '/' := fun h => hdots (h ▸ List.mem_cons_self)
        simp [segmentHere, hd]
    · rw [if_neg (by simpa using hc), List.head?_modifyHead]
      cases dots with
      | nil => simp [segmentHere, hc]
      | cons d dots =>
        have ih := @ih dots fun h => hdots (List.mem_cons_of_mem _ h)
        unfold segmentHere at ih ⊢
        rw [List.isPrefixOf_cons_cons, List.length_cons, List.drop_succ_cons, Bool.and_assoc, Bool.and_eq_true, ih]
        cases hhead : (cs.splitOn '/').head? with
        | none => simp
        | some part =>
          rw [Option.map_some, Option.some_inj, Option.some_inj, List.cons.injEq, beq_iff_eq]
          exact and_congr_left' eq_comm

theorem segmentLater_iff {dots cs : List Char} (hdots : '/' ∉ dots) :
    segmentLater dots cs = true ↔
      ∃ before after, cs.splitOn '/' = before ++ dots :: after ∧ before ≠ [] ∧ OneLine before := by
  induction cs with
  | nil =>
    constructor
    · rintro ⟨⟩
    rintro ⟨_ | ⟨part, before⟩, after, hsplit, hbefore, -⟩
    · exact absurd rfl hbefore
    · simp at hsplit
  | cons c cs ih =>
    rw [segmentLater, Bool.or_eq_true, Bool.and_eq_true, Bool.and_eq_true, ih, segmentHere_iff hdots,
      List.splitOn_cons_eq_if_modifyHead]
    by_cases hc : c = '/'
    · subst hc
      rw [if_pos (by simp)]
      constructor
      · rintro (⟨-, hhead⟩ | ⟨-, before, after, hsplit, hbefore, hline⟩)
        · obtain ⟨after, hsplit⟩ := List.head?_eq_some_iff.1 hhead
          exact ⟨[[]], after, by rw [hsplit]; rfl, by simp, by simp [OneLine]⟩
        · refine ⟨[] :: before, after, by rw [hsplit]; rfl, by simp, ?_⟩
          rintro part (_ | ⟨_, hpart⟩)
          · simp
          · exact hline part hpart
      · rintro ⟨_ | ⟨part, before⟩, after, hsplit, hbefore, hline⟩
        · exact absurd rfl hbefore
        · obtain ⟨-, hsplit⟩ := List.cons.inj hsplit
          cases before with
          | nil => exact .inl ⟨rfl, by rw [hsplit]; rfl⟩
          | cons part' before =>
            exact .inr ⟨by decide, _, after, hsplit, by simp, fun p hp => hline p (List.mem_cons_of_mem _ hp)⟩
    · rw [if_neg (by simpa using hc)]
      constructor
      · rintro (⟨hslash, -⟩ | ⟨hterminator, _ | ⟨part, before⟩, after, hsplit, hbefore, hline⟩)
        · exact absurd (of_decide_eq_true hslash) hc
        · exact absurd rfl hbefore
        · refine ⟨(c :: part) :: before, after, by rw [hsplit]; rfl, by simp, ?_⟩
          rintro p (_ | ⟨_, hp⟩) d hd
          · rcases List.mem_cons.1 hd with rfl | hd
            · simpa using hterminator
            · exact hline part List.mem_cons_self d hd
          · exact hline p (List.mem_cons_of_mem _ hp) d hd
      · rintro ⟨_ | ⟨part, before⟩, after, hsplit, hbefore, hline⟩
        · exact absurd rfl hbefore
        · obtain ⟨first, rest, hparts⟩ := List.exists_cons_of_ne_nil (List.splitOn_ne_nil '/' cs)
          rw [hparts, List.modifyHead_cons, List.cons_append] at hsplit
          obtain ⟨rfl, rfl⟩ := List.cons.inj hsplit
          refine .inr ⟨by simpa using hline _ List.mem_cons_self c List.mem_cons_self, first :: before, after, hparts,
            by simp, ?_⟩
          rintro p (_ | ⟨_, hp⟩) d hd
          · exact hline _ List.mem_cons_self d (List.mem_cons_of_mem _ hd)
          · exact hline p (List.mem_cons_of_mem _ hp) d hd

theorem hasSegment_iff {dots cs : List Char} (hdots : '/' ∉ dots) :
    hasSegment dots cs = true ↔ SeenIn dots (cs.splitOn '/') := by
  rw [hasSegment, Bool.or_eq_true, segmentHere_iff hdots, segmentLater_iff hdots]
  constructor
  · rintro (hhead | ⟨before, after, hsplit, -, hline⟩)
    · obtain ⟨after, hsplit⟩ := List.head?_eq_some_iff.1 hhead
      exact ⟨[], after, hsplit, by simp [OneLine]⟩
    · exact ⟨before, after, hsplit, hline⟩
  · rintro ⟨_ | ⟨part, before⟩, after, hsplit, hline⟩
    · exact .inl (by rw [hsplit]; rfl)
    · exact .inr ⟨_, after, hsplit, by simp, hline⟩

/-! ## The two checks -/

/-- What either check refuses, whatever the dots. -/
def Faulty (path : String) : Prop :=
  [] ∈ pathParts path ∨ '\\' ∈ path.toList ∨ '\x00' ∈ path.toList

/-- Nothing else is wrong with the path, and its dots are all behind the first line. -/
def Hidden (path : String) : Prop :=
  ¬ Faulty path ∧ (∃ part ∈ pathParts path, Dots part) ∧ ∀ part, Dots part → ¬ SeenIn part (pathParts path)

theorem pathParts_empty_of_head {path : String} (h : path.toList.head? = some '/') : [] ∈ pathParts path := by
  obtain ⟨rest, hrest⟩ := List.head?_eq_some_iff.1 h
  rw [pathParts, hrest, List.splitOn_cons_eq_if_modifyHead, if_pos (by simp)]
  exact List.mem_cons_self

theorem pathParts_empty_of_last {path : String} (h : path.toList.getLast? = some '/') : [] ∈ pathParts path := by
  obtain ⟨before, hbefore⟩ := List.getLast?_eq_some_iff.1 h
  rw [pathParts, hbefore, List.splitOn_append_cons_self]
  simp

theorem editsPath_iff {path : String} :
    editsPath path = true ↔ ¬ Faulty path ∧ ∀ part ∈ pathParts path, ¬ Dots part := by
  simp only [editsPath, configFile, containsNul, Bool.and_eq_true, Bool.not_eq_true', List.all_eq_true, decide_eq_true_eq,
    ne_eq, List.contains_eq_mem, decide_eq_false_iff_not]
  constructor
  · rintro ⟨⟨⟨⟨⟨-, -⟩, hback⟩, hnul⟩, hparts⟩, -⟩
    refine ⟨?_, fun part hpart hdots => ?_⟩
    · rintro (hempty | hback' | hnul')
      · exact (hparts _ hempty).1.1 rfl
      · exact hback hback'
      · exact hnul hnul'
    · rcases hdots with rfl | rfl
      · exact (hparts _ hpart).1.2 rfl
      · exact (hparts _ hpart).2 rfl
  · rintro ⟨hfaulty, hdots⟩
    have hempty : [] ∉ pathParts path := fun h => hfaulty (.inl h)
    refine ⟨⟨⟨⟨⟨?_, fun h => hempty (pathParts_empty_of_head h)⟩, fun h => hfaulty (.inr (.inl h))⟩,
      fun h => hfaulty (.inr (.inr h))⟩, fun part hpart => ⟨⟨?_, ?_⟩, ?_⟩⟩, by decide⟩
    · rintro rfl
      exact hempty (by decide)
    · rintro rfl
      exact hempty hpart
    · exact fun h => hdots part hpart (.inl h)
    · exact fun h => hdots part hpart (.inr h)

theorem launchesPath_iff {path : String} :
    launchesPath path = true ↔ ¬ Faulty path ∧ ∀ part, Dots part → ¬ SeenIn part (pathParts path) := by
  have hseen {dots : List Char} (hdots : '/' ∉ dots) : hasSegment dots path.toList = false ↔ ¬ SeenIn dots (pathParts path) := by
    rw [← Bool.not_eq_true, hasSegment_iff hdots, pathParts]
  simp only [launchesPath, CONFIG_PATH_PATTERN, Bool.and_eq_true, Bool.not_eq_true', List.all_eq_true, decide_eq_true_eq, ne_eq]
  rw [hseen (by decide), hseen (by decide)]
  constructor
  · rintro ⟨⟨⟨⟨⟨⟨-, htwo⟩, hone⟩, -⟩, hchars⟩, -⟩, hparts⟩
    refine ⟨?_, ?_⟩
    · rintro (hempty | hback | hnul)
      · exact hparts _ hempty rfl
      · exact (hchars _ hback).1 rfl
      · exact (hchars _ hnul).2 rfl
    · rintro part (rfl | rfl)
      · exact hone
      · exact htwo
  · rintro ⟨hfaulty, hdots⟩
    have hempty : [] ∉ pathParts path := fun h => hfaulty (.inl h)
    refine ⟨⟨⟨⟨⟨⟨fun h => hempty (pathParts_empty_of_head h), hdots _ (.inr rfl)⟩, hdots _ (.inl rfl)⟩, ?_⟩, ?_⟩,
      fun h => hempty (pathParts_empty_of_last h)⟩, ?_⟩
    · intro hnil
      apply hempty
      rw [pathParts, hnil]
      decide
    · intro c hc
      refine ⟨?_, ?_⟩
      · rintro rfl
        exact hfaulty (.inr (.inl hc))
      · rintro rfl
        exact hfaulty (.inr (.inr hc))
    · rintro part hpart rfl
      exact hempty hpart

theorem staysInside_iff {path : String} :
    StaysInside path ↔ [] ∉ pathParts path ∧ ∀ part ∈ pathParts path, ¬ Dots part := by
  constructor
  · rintro ⟨-, hparts⟩
    refine ⟨fun hempty => (hparts _ hempty).1 rfl, fun part hpart hdots => ?_⟩
    rcases hdots with rfl | rfl
    · exact (hparts _ hpart).2.1 rfl
    · exact (hparts _ hpart).2.2 rfl
  · rintro ⟨hempty, hdots⟩
    refine ⟨fun h => hempty (pathParts_empty_of_head h), fun part hpart => ⟨?_, ?_, ?_⟩⟩
    · rintro rfl
      exact hempty hpart
    · exact fun h => hdots part hpart (.inl h)
    · exact fun h => hdots part hpart (.inr h)

/-- The editor's paths stay inside, always; the runtime's do, and are the editor's, unless the dots are hidden. -/
theorem pathChecks_hold_iff (path : String) : PathChecksHold path ↔ ¬ Hidden path := by
  have hsame : ∀ part, SeenIn part (pathParts path) → part ∈ pathParts path := by
    rintro part ⟨before, after, hsplit, -⟩
    rw [hsplit]
    simp
  constructor
  · rintro ⟨hlaunched, -, -⟩ ⟨hfaulty, ⟨part, hpart, hdots⟩, hunseen⟩
    have hinside := staysInside_iff.1 (hlaunched (launchesPath_iff.2 ⟨hfaulty, hunseen⟩))
    exact hinside.2 part hpart hdots
  · intro hshown
    -- a path that only the runtime accepts would hide its dots
    have hiff : launchesPath path = true ↔ editsPath path = true := by
      rw [launchesPath_iff, editsPath_iff]
      refine and_congr_right fun hfaulty => ⟨fun hunseen part hpart hdots => ?_, fun hnone part hdots hseen => ?_⟩
      · exact hshown ⟨hfaulty, ⟨part, hpart, hdots⟩, hunseen⟩
      · exact hnone part (hsame part hseen) hdots
    have hedited : editsPath path = true → StaysInside path := fun h =>
      staysInside_iff.2 ⟨fun hempty => (editsPath_iff.1 h).1 (.inl hempty), (editsPath_iff.1 h).2⟩
    exact ⟨fun h => hedited (hiff.1 h), hedited, Bool.eq_iff_iff.2 hiff⟩

/-- The parent directory on the second line of a path. -/
theorem hiddenPath_launches :
    launchesPath "a\n/../b" = true ∧ editsPath "a\n/../b" = false ∧ ¬ StaysInside "a\n/../b" := by
  refine ⟨by decide +kernel, by decide +kernel, fun h => ?_⟩
  exact (h.2 ['.', '.'] (by decide +kernel)).2.2 rfl

end OpenApp.Policy
