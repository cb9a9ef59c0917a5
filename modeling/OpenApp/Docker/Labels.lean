import Mathlib.Data.List.Basic

/-!
# Labels in several namespaces

A label is looked up in every namespace that is asked for. Where the namespaces that have it do not agree, a
marker takes the place of the value; it is a text like any other.
-/

namespace OpenApp.Docker

/-- The labels of a resource, which may be left out. -/
abbrev Labels := Option (String → Option String)

/-- `labels?.[`${labelPrefix}.${suffix}`]` -/
def labelAt (labels : Labels) (labelPrefix suffix : String) : Option String :=
  labels.bind fun labels => labels (labelPrefix ++ "." ++ suffix)

def conflictingLabelValues : String := "__conflicting_label_values__"

def OPENAPP_RESOURCE_LABEL_PREFIX : String := "io.openapp.portal"

def RESOURCE_LABEL_PREFIXES : List String := [OPENAPP_RESOURCE_LABEL_PREFIX]

/-- The values of a label in the namespaces that have it. -/
def labelValues (labels : Labels) (suffix : String) (prefixes : List String) : List String :=
  prefixes.filterMap fun labelPrefix => labelAt labels labelPrefix suffix

def readLabel (labels : Labels) (suffix : String) (prefixes : List String) : Option String :=
  match labelValues labels suffix prefixes with
  | [] => none
  | value :: rest => if rest.all (· = value) then some value else some conflictingLabelValues

def resourceLabel (labels : Labels) (suffix : String) (prefixes : List String) : Option String :=
  (readLabel labels suffix prefixes).filter (· ≠ conflictingLabelValues)

variable {labels : Labels} {suffix value : String} {prefixes : List String}

/-- The namespaces that have the label agree on its value. -/
def Agree (labels : Labels) (suffix : String) (prefixes : List String) : Prop :=
  ∀ value ∈ labelValues labels suffix prefixes, ∀ other ∈ labelValues labels suffix prefixes, other = value

/-- Some namespace has the label, and every one that has it has this value. -/
def Carries (labels : Labels) (suffix : String) (prefixes : List String) (value : String) : Prop :=
  value ∈ labelValues labels suffix prefixes ∧ ∀ other ∈ labelValues labels suffix prefixes, other = value

/-- No namespace has the label. -/
def Absent (labels : Labels) (suffix : String) (prefixes : List String) : Prop :=
  labelValues labels suffix prefixes = []

instance : Decidable (Agree labels suffix prefixes) :=
  inferInstanceAs (Decidable (∀ value ∈ _, ∀ other ∈ _, _))

instance : Decidable (Carries labels suffix prefixes value) :=
  inferInstanceAs (Decidable (_ ∧ ∀ other ∈ _, _))

instance : Decidable (Absent labels suffix prefixes) :=
  inferInstanceAs (Decidable (_ = _))

theorem mem_labelValues : value ∈ labelValues labels suffix prefixes ↔
    ∃ labelPrefix ∈ prefixes, labelAt labels labelPrefix suffix = some value := by
  simp [labelValues]

theorem Carries.agree (h : Carries labels suffix prefixes value) : Agree labels suffix prefixes := by
  intro one hone other hother
  rw [h.2 one hone, h.2 other hother]

theorem readLabel_eq_none : readLabel labels suffix prefixes = none ↔ Absent labels suffix prefixes := by
  unfold readLabel Absent
  split
  · next h => simp [h]
  · next h =>
    rw [h]
    split <;> simp

/-- A value other than the marker is read where the namespaces agree on it. -/
theorem readLabel_eq_some (hvalue : value ≠ conflictingLabelValues) :
    readLabel labels suffix prefixes = some value ↔ Carries labels suffix prefixes value := by
  unfold readLabel Carries
  cases labelValues labels suffix prefixes with
  | nil => simp
  | cons first rest =>
    dsimp only
    split
    · next hall =>
      simp only [List.all_eq_true, decide_eq_true_eq] at hall
      simp only [Option.some.injEq, List.mem_cons, forall_eq_or_imp]
      constructor
      · rintro rfl
        exact ⟨.inl rfl, rfl, hall⟩
      · exact fun h => h.2.1
    · next hall =>
      simp only [List.all_eq_true, decide_eq_true_eq] at hall
      simp only [Option.some.injEq, List.mem_cons, forall_eq_or_imp]
      constructor
      · exact fun heq => absurd heq.symm hvalue
      · rintro ⟨-, rfl, hrest⟩
        exact absurd hrest hall

/-- The marker is read where the namespaces do not agree, or agree on it. -/
theorem readLabel_eq_marker : readLabel labels suffix prefixes = some conflictingLabelValues ↔
    ¬ Agree labels suffix prefixes ∨ Carries labels suffix prefixes conflictingLabelValues := by
  unfold readLabel Agree Carries
  cases labelValues labels suffix prefixes with
  | nil => simp
  | cons first rest =>
    dsimp only
    by_cases hall : ∀ other ∈ rest, other = first
    · rw [if_pos (by simpa using hall)]
      have hagree : ∀ value ∈ first :: rest, ∀ other ∈ first :: rest, other = value := by
        have hfirst : ∀ other ∈ first :: rest, other = first := by
          simpa only [List.forall_mem_cons, true_and] using hall
        intro one hone other hother
        rw [hfirst one hone, hfirst other hother]
      constructor
      · intro h
        obtain rfl := Option.some.inj h
        exact .inr ⟨List.mem_cons_self, fun other hother => hagree _ List.mem_cons_self other hother⟩
      · rintro (h | ⟨-, h⟩)
        · exact absurd hagree h
        · rw [h first List.mem_cons_self]
    · rw [if_neg (by simpa using hall)]
      refine ⟨fun _ => .inl fun hagree => hall fun other hother => ?_, fun _ => rfl⟩
      exact hagree first List.mem_cons_self other (List.mem_cons_of_mem first hother)

theorem resourceLabel_eq_some : resourceLabel labels suffix prefixes = some value ↔
    value ≠ conflictingLabelValues ∧ Carries labels suffix prefixes value := by
  unfold resourceLabel
  rw [Option.filter_eq_some_iff, decide_eq_true_eq, and_comm]
  exact and_congr_right readLabel_eq_some

end OpenApp.Docker
