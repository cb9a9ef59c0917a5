import OpenApp.Rollout.DueOrder

/-!
# The comparator of the due items

Two items of one instance are compared by their turns, two of different instances by the times at which they
are due. The two comparisons make an order where no item of another instance is due between two items of one
instance that are due in the wrong order.
-/

namespace OpenApp.Rollout

open Keyed Arranged

/-- The comparator of `MemoryPersistence.listDueUpgradeRolloutItems`. -/
def compareDue (left right : UpgradeRolloutItem) : Ordering :=
  if left.instanceId = right.instanceId then
    let leftWaiting := left.status = .awaitingFirstStart
    let rightWaiting := right.status = .awaitingFirstStart
    if leftWaiting ≠ rightWaiting then if leftWaiting then .gt else .lt
    else (compare left.createdAt right.createdAt).then (compare left.rolloutId right.rolloutId)
  else compare (left.nextAttemptAt.getD left.createdAt) (right.nextAttemptAt.getD right.createdAt)

/-- When an item is due. -/
def UpgradeRolloutItem.dueTime (item : UpgradeRolloutItem) : Timestamp :=
  item.nextAttemptAt.getD item.createdAt

variable {items : Table UpgradeRolloutItem.key} {at' : Timestamp} {limit : Nat} {a b c : UpgradeRolloutItem}

theorem compareDue_swap (a b : UpgradeRolloutItem) : compareDue b a = (compareDue a b).swap := by
  unfold compareDue
  by_cases hinstance : a.instanceId = b.instanceId
  · rw [if_pos hinstance, if_pos hinstance.symm]
    by_cases ha : a.status = .awaitingFirstStart <;> by_cases hb : b.status = .awaitingFirstStart <;>
      simp [ha, hb, Ordering.swap_then, ← Std.OrientedCmp.eq_swap]
  · rw [if_neg hinstance, if_neg fun h => hinstance h.symm]
    exact Std.OrientedCmp.eq_swap

/-- The model of the store sorts by this comparator. -/
theorem dueBefore_eq (a b : UpgradeRolloutItem) : Store.dueBefore a b = (compareDue a b).isLE := by
  rw [Bool.eq_iff_iff]
  unfold Store.dueBefore compareDue
  by_cases hinstance : a.instanceId = b.instanceId
  · rw [if_pos hinstance, if_pos hinstance]
    by_cases ha : a.status = .awaitingFirstStart <;> by_cases hb : b.status = .awaitingFirstStart <;>
      simp [ha, hb, isLE_then]
  · rw [if_neg hinstance, if_neg hinstance]
    simp [Std.isLE_compare]

/-- For any two items of one instance in the order of their turns, no item of another instance is due after the
second and before the first. -/
def Undivided (due : List UpgradeRolloutItem) : Prop :=
  ∀ a ∈ due, ∀ b ∈ due, a.Precedes b → ∀ c ∈ due, c.instanceId ≠ a.instanceId →
    ¬(b.dueTime ≤ c.dueTime ∧ c.dueTime ≤ a.dueTime)

theorem dueBefore_other (h : a.instanceId ≠ b.instanceId) : Store.dueBefore a b = true ↔ a.dueTime ≤ b.dueTime := by
  unfold Store.dueBefore UpgradeRolloutItem.dueTime
  rw [if_neg h, decide_eq_true_eq]

theorem dueBefore_of_precedes (h : a.Precedes b) : Store.dueBefore a b = true := by
  obtain ⟨hinstance, hturn⟩ := h
  unfold Store.dueBefore
  rw [if_pos hinstance]
  rcases hturn with ⟨ha, hb⟩ | ⟨hsame, hlt | ⟨heq, hlt⟩⟩
  · simp [ha, hb]
  · simp [hsame, hlt]
  · simp [hsame, heq, le_of_lt hlt]

/-- Of two due items of one instance, the one that is not behind the other is that one, or has its turn first. -/
theorem eq_or_precedes (ha : a ∈ dueItems items at') (hb : b ∈ dueItems items at') (hinstance : a.instanceId = b.instanceId)
    (h : Store.dueBefore a b = true) : a = b ∨ a.Precedes b := by
  by_cases heq : a = b
  · exact .inl heq
  · exact .inr (precedes_of_dueBefore hinstance (rolloutId_ne ha hb heq hinstance) h)

theorem not_dueBefore_of_precedes (ha : a ∈ dueItems items at') (hb : b ∈ dueItems items at') (h : a.Precedes b) :
    Store.dueBefore b a = false := by
  by_contra hback
  rw [Bool.not_eq_false] at hback
  rcases eq_or_precedes hb ha h.1.symm hback with rfl | hprecedes
  · exact precedes_asymm h h
  · exact precedes_asymm h hprecedes

theorem precedes_trans (hab : a.Precedes b) (hbc : b.Precedes c) : a.Precedes c := by
  obtain ⟨hinstance, hab⟩ := hab
  obtain ⟨hinstance', hbc⟩ := hbc
  refine ⟨hinstance.trans hinstance', ?_⟩
  rcases hab with ⟨ha, hb⟩ | ⟨hsame, hab⟩
  · rcases hbc with ⟨hnot, -⟩ | ⟨hsame', -⟩
    · exact absurd hb hnot
    · exact .inl ⟨ha, hsame'.1 hb⟩
  · rcases hbc with ⟨hb, hc⟩ | ⟨hsame', hbc⟩
    · exact .inl ⟨fun ha => hb (hsame.1 ha), hc⟩
    · refine .inr ⟨hsame.trans hsame', ?_⟩
      rcases hab with hlt | ⟨heq, hlt⟩ <;> rcases hbc with hlt' | ⟨heq', hlt'⟩
      · exact .inl (hlt.trans hlt')
      · exact .inl (heq' ▸ hlt)
      · exact .inl (heq ▸ hlt')
      · exact .inr ⟨heq.trans heq', hlt.trans hlt'⟩

/-- An item of another instance that is due in between closes a circle. -/
theorem undivided_of_consistent (h : Consistent Store.dueBefore (dueItems items at')) : Undivided (dueItems items at') := by
  rintro a ha b hb hprecedes c hc hother ⟨hbc, hca⟩
  have hback := h.trans b hb c hc a ha ((dueBefore_other fun heq => hother (hprecedes.1 ▸ heq.symm)).2 hbc)
    ((dueBefore_other hother).2 hca)
  rw [not_dueBefore_of_precedes ha hb hprecedes] at hback
  cases hback

theorem consistent_of_undivided (h : Undivided (dueItems items at')) : Consistent Store.dueBefore (dueItems items at') := by
  constructor
  · intro a _ b _
    rw [dueBefore_eq, dueBefore_eq, compareDue_swap a b]
    cases compareDue a b <;> decide
  · intro a ha b hb c hc hab hbc
    -- the cases are which of the three are of one instance
    by_cases hAB : a.instanceId = b.instanceId
    · rcases eq_or_precedes ha hb hAB hab with rfl | hturn
      · exact hbc
      by_cases hBC : b.instanceId = c.instanceId
      · rcases eq_or_precedes hb hc hBC hbc with rfl | hturn'
        · exact hab
        · exact dueBefore_of_precedes (precedes_trans hturn hturn')
      · have hle := (dueBefore_other hBC).1 hbc
        rw [dueBefore_other (hAB ▸ hBC)]
        by_contra hgt
        exact h a ha b hb hturn c hc (fun heq => hBC (hAB ▸ heq.symm)) ⟨hle, (not_le.1 hgt).le⟩
    · have hle := (dueBefore_other hAB).1 hab
      by_cases hBC : b.instanceId = c.instanceId
      · rcases eq_or_precedes hb hc hBC hbc with rfl | hturn
        · exact hab
        rw [dueBefore_other (hBC ▸ hAB)]
        by_contra hgt
        exact h b hb c hc hturn a ha hAB ⟨(not_le.1 hgt).le, hle⟩
      · have hle' := (dueBefore_other hBC).1 hbc
        by_cases hAC : a.instanceId = c.instanceId
        · by_cases heq : a = c
          · rw [heq, dueBefore_eq, compareDue]
            simp
          rcases precedes_or hAC (rolloutId_ne ha hc heq hAC) with hturn | hturn
          · exact dueBefore_of_precedes hturn
          · exact absurd ⟨hle, hle'⟩ (h c hc a ha hturn b hb hBC)
        · exact (dueBefore_other hAC).2 (hle.trans hle')

/-- A consistent comparator leaves one listing, in which every instance has its turns. -/
theorem inTurn_of_consistent (h : Consistent Store.dueBefore (dueItems items at')) {out : List UpgradeRolloutItem}
    (hout : MemoryLists items at' limit out) : InTurn out := by
  obtain ⟨sorted, hsorted, rfl⟩ := hout
  have hpairwise := h.pairwise
  rw [← hsorted.stable h] at hpairwise
  apply inTurn_take hsorted.perm hpairwise
  intro a b ha hb hne hbefore hinstance
  have hdue := hsorted.perm.subset (List.mem_of_mem_take ha)
  have hdue' := hsorted.perm.subset (List.mem_of_mem_take hb)
  exact precedes_of_dueBefore hinstance (rolloutId_ne hdue hdue' hne hinstance) hbefore.1

/-- The comparator is a strict weak order of the due items, and whatever is listed of them is in turn. -/
structure RealOrder (items : Table UpgradeRolloutItem.key) (at' : Timestamp) (limit : Nat) : Prop where
  order : IsStrictWeakOrder {item // item ∈ dueItems items at'} fun left right => compareDue left.1 right.1 = .lt
  inTurn : ∀ out, MemoryLists items at' limit out → InTurn out

theorem realOrder_iff_undivided (items : Table UpgradeRolloutItem.key) (at' : Timestamp) (limit : Nat) :
    RealOrder items at' limit ↔ Undivided (dueItems items at') := by
  have hsame : (fun a b => (compareDue a b).isLE) = Store.dueBefore := by
    funext a b
    exact (dueBefore_eq a b).symm
  constructor
  · intro h
    have hconsistent := (strictWeak_iff_consistent compareDue_swap _).1 h.order
    rw [hsame] at hconsistent
    exact undivided_of_consistent hconsistent
  · intro h
    have hconsistent := consistent_of_undivided h
    refine ⟨?_, fun out hout => inTurn_of_consistent hconsistent hout⟩
    rw [strictWeak_iff_consistent compareDue_swap, hsame]
    exact hconsistent

/-- An item of another instance that is due between the two of `retriedItems`. -/
def dividingItem : UpgradeRolloutItem :=
  { retriedItem "r1" 0 8 with instanceId := "i2" }

def dividedItems : Table UpgradeRolloutItem.key :=
  retriedItems.put dividingItem

/-- The older item of `i1` comes before the newer one, this one before that of `i2`, and that one before the older. -/
theorem dividedItems_in_a_circle : ¬RealOrder dividedItems 20 100 := by
  intro h
  have holder : retriedItem "r1" 0 10 ∈ dueItems dividedItems 20 := by decide +kernel
  have hnewer : retriedItem "r2" 5 6 ∈ dueItems dividedItems 20 := by decide +kernel
  have hother : dividingItem ∈ dueItems dividedItems 20 := by decide +kernel
  have hfirst : compareDue (retriedItem "r2" 5 6) dividingItem = .lt := by decide +kernel
  have hsecond : compareDue dividingItem (retriedItem "r1" 0 10) = .lt := by decide +kernel
  have hback : compareDue (retriedItem "r2" 5 6) (retriedItem "r1" 0 10) ≠ .lt := by decide +kernel
  exact hback (h.order.trans ⟨_, hnewer⟩ ⟨_, hother⟩ ⟨_, holder⟩ hfirst hsecond)

end OpenApp.Rollout
