import Mathlib.Data.List.Sort
import Mathlib.Order.Defs.Unbundled

/-!
# Lists in an order

A comparator that is no order of the elements leaves open what a sort makes of them. Where it is one, the
result of a stable sort is known; where elements are ordered by a key, those of equal keys may come in
either order.
-/

namespace Arranged

variable {α κ : Type} {le : α → α → Bool} {l out : List α} {a b : α}

/-- The comparator orders the elements of the list. -/
structure Consistent (le : α → α → Bool) (l : List α) : Prop where
  total : ∀ a ∈ l, ∀ b ∈ l, le a b = true ∨ le b a = true
  trans : ∀ a ∈ l, ∀ b ∈ l, ∀ c ∈ l, le a b = true → le b c = true → le a c = true

theorem consistent_iff : Consistent le l ↔ (∀ a ∈ l, ∀ b ∈ l, le a b = true ∨ le b a = true) ∧
    ∀ a ∈ l, ∀ b ∈ l, ∀ c ∈ l, le a b = true → le b c = true → le a c = true :=
  ⟨fun h => ⟨h.total, h.trans⟩, fun h => ⟨h.1, h.2⟩⟩

theorem Consistent.of_subset {l' : List α} (h : Consistent le l) (hsub : l' ⊆ l) : Consistent le l' where
  total a ha b hb := h.total a (hsub ha) b (hsub hb)
  trans a ha b hb c hc := h.trans a (hsub ha) b (hsub hb) c (hsub hc)

/-- One element comes before another in a stable sort: where the comparator takes the two for equal, by their
places in the list. -/
def Before (le : α → α → Bool) (l : List α) (a b : α) : Prop :=
  le a b = true ∧ (le b a = true → List.Sublist [a, b] l)

/-- What a stable sort may make of a list. -/
structure SortsTo (le : α → α → Bool) (l out : List α) : Prop where
  perm : out.Perm l
  stable : Consistent le l → out = l.insertionSort fun a b => le a b

/-- The list in the order of a key. -/
structure OrderedBy [LE κ] (key : α → κ) (l out : List α) : Prop where
  perm : out.Perm l
  sorted : out.Pairwise fun a b => key a ≤ key b

/-! ## Sorts -/

theorem Before.cons (c : α) (h : Before le l a b) : Before le (c :: l) a b :=
  ⟨h.1, fun hba => (h.2 hba).cons c⟩

theorem Before.asymm (hnodup : l.Nodup) (hab : Before le l a b) : ¬Before le l b a := by
  classical
  intro hba
  have hplaces : l.Pairwise fun a b => l.idxOf a < l.idxOf b := by
    rw [List.pairwise_iff_getElem]
    intro i j hi hj hij
    rwa [hnodup.idxOf_getElem, hnodup.idxOf_getElem]
  have hfirst := List.pairwise_iff_forall_sublist.1 hplaces (hab.2 hba.1)
  have hsecond := List.pairwise_iff_forall_sublist.1 hplaces (hba.2 hab.1)
  omega

theorem orderedInsert_before {sorted : List α} (h : Consistent le (a :: l)) (hsub : sorted ⊆ l)
    (hsorted : sorted.Pairwise (Before le l)) :
    (sorted.orderedInsert (fun a b => le a b) a).Pairwise (Before le (a :: l)) := by
  induction sorted with
  | nil => exact List.pairwise_singleton _ _
  | cons b sorted ih =>
    obtain ⟨hb, hrest⟩ := List.pairwise_cons.1 hsorted
    rw [List.orderedInsert]
    split
    · next hab =>
      refine List.pairwise_cons.2 ⟨?_, hsorted.imp fun hxy => hxy.cons a⟩
      intro c hc
      refine ⟨?_, fun _ => (List.singleton_sublist.2 (hsub hc)).cons_cons a⟩
      rcases List.mem_cons.1 hc with rfl | hmem
      · exact hab
      · apply h.trans a List.mem_cons_self b _ c _ hab (hb c hmem).1
        · exact List.mem_cons_of_mem a (hsub List.mem_cons_self)
        · exact List.mem_cons_of_mem a (hsub hc)
    · next hab =>
      refine List.pairwise_cons.2 ⟨?_, ih (fun c hc => hsub (List.mem_cons_of_mem b hc)) hrest⟩
      intro c hc
      rcases List.mem_cons.1 ((List.perm_orderedInsert _ a sorted).subset hc) with rfl | hmem
      · have htotal := h.total c List.mem_cons_self b (List.mem_cons_of_mem c (hsub List.mem_cons_self))
        exact ⟨htotal.resolve_left hab, fun hle => absurd hle hab⟩
      · exact (hb c hmem).cons a

/-- A consistent comparator sorts the list, and elements that it takes for equal stay as they were. -/
theorem Consistent.pairwise (h : Consistent le l) :
    (l.insertionSort fun a b => le a b).Pairwise (Before le l) := by
  induction l with
  | nil => exact List.Pairwise.nil
  | cons a l ih =>
    rw [List.insertionSort_cons]
    apply orderedInsert_before h
    · exact (List.perm_insertionSort _ l).subset
    · exact ih (h.of_subset (List.subset_cons_self a l))

theorem sortsTo_insertionSort (le : α → α → Bool) (l : List α) : SortsTo le l (l.insertionSort fun a b => le a b) :=
  ⟨List.perm_insertionSort _ l, fun _ => rfl⟩

/-- Where the comparator is no order, every arrangement may come out. -/
theorem sortsTo_of_not_consistent (h : ¬Consistent le l) (hperm : out.Perm l) : SortsTo le l out :=
  ⟨hperm, fun hconsistent => absurd hconsistent h⟩

/-- A comparator that answers the other way round for the other order is a strict weak order of the elements
just where it orders them. -/
theorem strictWeak_iff_consistent {cmp : α → α → Ordering} (hswap : ∀ a b, cmp b a = (cmp a b).swap) (l : List α) :
    IsStrictWeakOrder {a // a ∈ l} (fun a b => cmp a.1 b.1 = .lt) ↔ Consistent (fun a b => (cmp a b).isLE) l := by
  have hle : ∀ a b, (cmp a b).isLE = true ↔ ¬cmp b a = .lt := by
    intro a b
    rw [hswap a b]
    cases cmp a b <;> decide
  have hlt : ∀ a b, cmp a b = .lt → ¬cmp b a = .lt := by
    intro a b h
    rw [hswap a b, h]
    decide
  simp only [consistent_iff, hle]
  constructor
  · intro h
    refine ⟨fun a _ b _ => ?_, fun a ha b hb c hc hab hbc hac => ?_⟩
    · by_contra hboth
      push Not at hboth
      exact hlt b a hboth.1 hboth.2
    · -- `c` comes before `a`, so `b` is no equal of both
      by_cases hba : cmp a b = .lt
      · exact hbc (h.trans ⟨c, hc⟩ ⟨a, ha⟩ ⟨b, hb⟩ hac hba)
      · by_cases hcb : cmp b c = .lt
        · exact hab (h.trans ⟨b, hb⟩ ⟨c, hc⟩ ⟨a, ha⟩ hcb hac)
        · exact (h.incomp_trans ⟨a, ha⟩ ⟨b, hb⟩ ⟨c, hc⟩ ⟨hba, hab⟩ ⟨hcb, hbc⟩).2 hac
  · rintro ⟨htotal, htrans⟩
    refine { irrefl := ?_, trans := ?_, incomp_trans := ?_ }
    · rintro ⟨a, ha⟩ h
      exact hlt a a h h
    · rintro ⟨a, ha⟩ ⟨b, hb⟩ ⟨c, hc⟩ hab hbc
      by_contra hac
      exact htrans c hc a ha b hb hac (hlt a b hab) hbc
    · rintro ⟨a, ha⟩ ⟨b, hb⟩ ⟨c, hc⟩ ⟨hab, hba⟩ ⟨hbc, hcb⟩
      exact ⟨htrans c hc b hb a ha hbc hab, htrans a ha b hb c hc hba hcb⟩

/-- Two keys, the second of which counts where the first are equal. -/
theorem isLE_then [LinearOrder κ] {ι : Type} [LinearOrder ι] {a b : κ} {c d : ι} :
    ((compare a b).then (compare c d)).isLE = true ↔ a < b ∨ (a = b ∧ c ≤ d) := by
  rcases lt_trichotomy a b with hlt | rfl | hlt
  · simp [compare_lt_iff_lt.2 hlt, hlt]
  · simp only [compare_eq_iff_eq.2 rfl, Ordering.then, lt_irrefl, true_and, false_or]
    exact Ordering.isLE_iff_ne_gt.trans compare_le_iff_le
  · simp [compare_gt_iff_gt.2 hlt, hlt.not_gt, hlt.ne']

/-! ## One before another -/

theorem exists_perm_front [DecidableEq α] (ha : a ∈ l) (hb : b ∈ l) (hne : a ≠ b) :
    ∃ rest, (a :: b :: rest).Perm l := by
  refine ⟨(l.erase a).erase b, ?_⟩
  have hb' : b ∈ l.erase a := (List.mem_erase_of_ne hne.symm).2 hb
  exact ((List.perm_cons_erase hb').symm.cons a).trans (List.perm_cons_erase ha).symm

theorem orderedBy_insertionSort [LinearOrder κ] (key : α → κ) {start : List α} (hperm : start.Perm l) :
    OrderedBy key l (start.insertionSort fun a b => key a ≤ key b) := by
  have : Std.Total fun a b : α => key a ≤ key b := ⟨fun a b => le_total (key a) (key b)⟩
  have : IsTrans α fun a b => key a ≤ key b := ⟨fun a b c hab hbc => hab.trans hbc⟩
  exact ⟨(List.perm_insertionSort _ _).trans hperm, List.pairwise_insertionSort _ _⟩

/-- Of two elements the one whose key is not the larger may come first. -/
theorem exists_orderedBy_before [DecidableEq α] [LinearOrder κ] {key : α → κ} (ha : a ∈ l) (hb : b ∈ l) (hne : a ≠ b)
    (hkey : key a ≤ key b) : ∃ out, OrderedBy key l out ∧ List.Sublist [a, b] out := by
  obtain ⟨rest, hrest⟩ := exists_perm_front ha hb hne
  refine ⟨_, orderedBy_insertionSort key hrest, ?_⟩
  apply List.pair_sublist_insertionSort (r := fun a b => key a ≤ key b) hkey
  exact ((List.nil_sublist rest).cons_cons b).cons_cons a

/-- What comes before an element comes before it in every beginning that has the element. -/
theorem sublist_take {n : Nat} (hnodup : out.Nodup) (h : List.Sublist [a, b] out)
    (hb : b ∈ out.take n) : List.Sublist [a, b] (out.take n) := by
  have hsplit : out.take n ++ out.drop n = out := List.take_append_drop n out
  have hdisjoint : List.Disjoint (out.take n) (out.drop n) := by
    rw [← hsplit] at hnodup
    exact List.disjoint_of_nodup_append hnodup
  rw [← hsplit] at h
  obtain ⟨front, back, heq, hfront, hback⟩ := List.sublist_append_iff.1 h
  match front, back, heq with
  | [], _, rfl => exact absurd (hback.subset (by simp)) (hdisjoint hb)
  | [_], [c], heq =>
    cases heq
    exact absurd (hback.subset (by simp)) (hdisjoint hb)
  | [_, _], [], rfl => exact hfront

/-- A part that comes before all the rest is what a beginning of its length has. -/
theorem take_perm_of_before {r : α → α → Prop} {front rest : List α} (hnodup : out.Nodup) (hsorted : out.Pairwise r)
    (hperm : out.Perm (front ++ rest)) (hbefore : ∀ a ∈ front, ∀ b ∈ rest, ¬r b a) :
    (out.take front.length).Perm front := by
  have hlength : (out.take front.length).length = front.length := by
    rw [List.length_take, hperm.length_eq, List.length_append]
    omega
  have hnodup' : (front ++ rest).Nodup := hperm.nodup_iff.1 hnodup
  have hsub : front ⊆ out.take front.length := by
    intro a ha
    by_contra hnot
    -- an element of the part that is left out comes after all that are not
    have hdrop : a ∈ out.drop front.length := by
      have hmem : a ∈ out := hperm.mem_iff.2 (List.mem_append_left rest ha)
      rw [← List.take_append_drop front.length out] at hmem
      exact (List.mem_append.1 hmem).resolve_left hnot
    have hall : out.take front.length ⊆ front := by
      intro b hb
      rcases List.mem_append.1 (hperm.subset (List.mem_of_mem_take hb)) with hfront | hrest
      · exact hfront
      · rw [← List.take_append_drop front.length out] at hsorted
        exact absurd ((List.pairwise_append.1 hsorted).2.2 b hb a hdrop) (hbefore a ha b hrest)
    have hsubperm := List.subperm_of_subset (hnodup.sublist (List.take_sublist _ _)) hall
    exact hnot ((hsubperm.perm_of_length_le hlength.ge).mem_iff.2 ha)
  have hsubperm := List.subperm_of_subset (hnodup'.sublist (List.sublist_append_left front rest)) hsub
  exact (hsubperm.perm_of_length_le hlength.le).symm

end Arranged
