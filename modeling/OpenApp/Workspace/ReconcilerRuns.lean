import OpenApp.Workspace.ReconcilerQueue

/-!
# Whether the queue is ever empty

A run covers the queue where every projection that needs reconciliation is among those the run takes. Then one run in
which nothing fails leaves none; otherwise one is left after any number of runs.
-/

namespace OpenApp.Reconciler

open Async Async.Prog

section Runs

variable (options : WorkspaceExecutionReconcilerOptions)
  (inputOf : WorkspaceExecutionProjection → WorkspaceExecutionReconcileInput)
  (reconciled : WorkspaceExecutionProjection → WorkspaceExecutionProjection)

/-- One run after the other, each with what its calls meet. -/
def afterRuns : List (List Choice) → World → Option World
  | [], w => some w
  | choices :: runs, w =>
    match solo (perform inputOf reconciled) (runOnce options) w choices with
    | some (_, w', []) => afterRuns runs w'
    | _ => none

/-- As many runs as it takes to go through what needs reconciliation now. -/
def runsNeeded (w : World) : Nat :=
  ((needing w.projections).length + maxItems options - 1) / maxItems options

/-- The reconciler covers its queue: a run does what it can, and enough of them that succeed leave nothing to do. -/
structure CoversQueue (w : World) : Prop where
  covers : ∀ inputOf reconciled choices r w', Meets (perform inputOf reconciled) Granted (runOnce options) w choices →
    solo (perform inputOf reconciled) (runOnce options) w choices = some (r, w', []) →
    (∃ report, r = .ok report) ∧ ∃ events, w'.events = w.events ++ events ∧ RunCovers options w.projections events
  converges : ∀ inputOf reconciled,
    (∀ p, (reconciled p).workspace.id = p.workspace.id ∧ needsReconciliation (reconciled p) = false) →
    ∀ runs w', runs.length = runsNeeded options w → (∀ choices ∈ runs, ∀ choice ∈ choices, choice = Choice.goes) →
      afterRuns options inputOf reconciled runs w = some w' → needing w'.projections = []

end Runs

section Settling

variable {options : WorkspaceExecutionReconcilerOptions}
  {inputOf : WorkspaceExecutionProjection → WorkspaceExecutionReconcileInput}
  {reconciled : WorkspaceExecutionProjection → WorkspaceExecutionProjection} {w w' : World}
  {projection : WorkspaceExecutionProjection} {choices : List Choice} {runs : List (List Choice)}
  {r : Except Thrown ReconcileRunReport}

theorem taken_subset (projections : List WorkspaceExecutionProjection) : taken options projections ⊆ projections :=
  fun _ h => (List.mergeSort_perm _ _).subset ((List.take_subset _ _) h)

/-- What is beyond the projections that are taken is not one of them. -/
theorem id_notMem_taken (hnodup : (idsOf w.projections).Nodup)
    (h : projection ∈ (sorted options w.projections).drop (maxItems options)) :
    projection.workspace.id ∉ idsOf (taken options w.projections) := by
  have hsorted : (idsOf (sorted options w.projections)).Nodup := nodup_sorted hnodup
  rw [← List.take_append_drop (maxItems options) (sorted options w.projections), idsOf, List.map_append] at hsorted
  intro hmem
  exact (List.nodup_append.1 hsorted).2.2 _ hmem _ (List.mem_map_of_mem h) rfl

theorem mem_taken_or_drop (h : projection ∈ w.projections) :
    projection ∈ taken options w.projections ∨ projection ∈ (sorted options w.projections).drop (maxItems options) := by
  have hmem : projection ∈ sorted options w.projections := (List.mergeSort_perm _ _).mem_iff.2 h
  rw [← List.take_append_drop (maxItems options) (sorted options w.projections)] at hmem
  exact List.mem_append.1 hmem

/-- Where the run takes all of them, what needs reconciliation is what needs it among those it takes. -/
theorem needing_taken (hnodup : (idsOf w.projections).Nodup)
    (hall : ∀ p ∈ needing w.projections, p ∈ taken options w.projections) :
    List.Perm (needing (taken options w.projections)) (needing w.projections) := by
  have hrest : needing ((sorted options w.projections).drop (maxItems options)) = [] := by
    refine List.filter_eq_nil_iff.2 fun p hp hneeds => ?_
    have hlisted : p ∈ w.projections := (List.mergeSort_perm _ _).subset (List.drop_subset _ _ hp)
    exact id_notMem_taken hnodup hp (List.mem_map_of_mem (hall p (List.mem_filter.2 ⟨hlisted, hneeds⟩)))
  have hsplit : needing (sorted options w.projections) = needing (taken options w.projections) := by
    have hparts := List.filter_append (p := needsReconciliation) (taken options w.projections)
      ((sorted options w.projections).drop (maxItems options))
    rw [taken, List.take_append_drop] at hparts
    exact hparts.trans ((congrArg _ hrest).trans (List.append_nil _))
  exact hsplit ▸ (List.mergeSort_perm _ _).filter _

theorem Coverage.run {events : List Event} (hnodup : (idsOf w.projections).Nodup)
    (hall : ∀ p ∈ needing w.projections, p ∈ taken options w.projections)
    (h : Coverage options (taken options w.projections) events) : RunCovers options w.projections events := by
  have hperm := needing_taken hnodup hall
  have hfew : (needing w.projections).length ≤ maxItems options := by
    rw [← hperm.length_eq]
    exact Nat.le_trans (List.length_filter_le _ _) (List.length_take_le _ _)
  constructor
  · rw [h.selected, List.length_map, hperm.length_eq, Nat.min_eq_left hfew]
  · rw [h.selected]
    refine List.Nodup.sublist (List.filter_sublist.map _) ?_
    exact (nodup_sorted hnodup).sublist ((List.take_sublist _ _).map _)
  · intro id hid
    rw [h.selected] at hid
    exact (hperm.map _).subset hid
  · exact h.granted
  · exact h.bounded
  · exact h.retried

/-! ## Runs that succeed -/

/-- A run in which nothing fails settles what it takes and leaves the rest. -/
theorem projections_of_goes (hid : ∀ p, (reconciled p).workspace.id = p.workspace.id)
    (hnodup : (idsOf w.projections).Nodup) (hgoes : ∀ choice ∈ choices, choice = .goes)
    (h : solo (perform inputOf reconciled) (runOnce options) w choices = some (r, w', [])) :
    w'.projections = w.projections.map (settledAt reconciled (idsOf (needing (taken options w.projections)))) := by
  have htaken : (idsOf (taken options w.projections)).Nodup :=
    (nodup_sorted hnodup).sublist ((List.take_sublist _ _).map _)
  have hends : ends (perform inputOf reconciled) GoesThrough (runOnce options) (fun _ w' => w'.projections =
      w.projections.map (settledAt reconciled (idsOf (needing (taken options w.projections))))) w := by
    refine ends_runOnce (fun hbusy => nomatch hbusy) fun report w₁ hsame _ => ?_
    have hall : ends (perform inputOf reconciled) GoesThrough (reconcileAll options (taken options w.projections) report)
        (fun _ w' => w'.projections =
          w₁.projections.map (settledAt reconciled (idsOf (needing (taken options w.projections))))) w₁ :=
      goes_reconcileAll hid htaken report
    rw [hsame] at hall
    exact hall
  exact ends_solo hends (meets_of_all _ hgoes) h

theorem idsOf_settledAt (hid : ∀ p, (reconciled p).workspace.id = p.workspace.id) (ids : List String)
    (projections : List WorkspaceExecutionProjection) :
    idsOf (projections.map (settledAt reconciled ids)) = idsOf projections := by
  rw [idsOf, List.map_map]
  refine List.map_congr_left fun p _ => ?_
  simp only [Function.comp, settledAt]
  split
  · exact hid p
  · rfl

/-- Runs over a queue with nothing to do leave everything as it is. -/
theorem needing_afterRuns (hid : ∀ p, (reconciled p).workspace.id = p.workspace.id)
    (hgoes : ∀ choices ∈ runs, ∀ choice ∈ choices, choice = Choice.goes) (hnodup : (idsOf w.projections).Nodup)
    (hquiet : needing w.projections = []) (h : afterRuns options inputOf reconciled runs w = some w') :
    needing w'.projections = [] := by
  induction runs generalizing w with
  | nil =>
    obtain rfl := Option.some.inj h
    exact hquiet
  | cons choices runs ih =>
    simp only [afterRuns] at h
    split at h
    · rename_i r w₁ hrun
      have hmap := projections_of_goes hid hnodup (hgoes choices List.mem_cons_self) hrun
      refine ih (fun c hc => hgoes c (List.mem_cons_of_mem _ hc)) ?_ ?_ h
      · rw [hmap, idsOf_settledAt hid]
        exact hnodup
      · have hnone : needing (taken options w.projections) = [] :=
          List.filter_eq_nil_iff.2 fun p hp => List.filter_eq_nil_iff.1 hquiet p (taken_subset _ hp)
        have hsame : settledAt reconciled [] = id := by
          funext p
          simp [settledAt]
        rw [hmap, hnone, idsOf, List.map_nil, hsame, List.map_id]
        exact hquiet
    · cases h

/-- One run that takes everything leaves nothing that needs reconciliation. -/
theorem needing_of_goes (hsettles : ∀ p, (reconciled p).workspace.id = p.workspace.id ∧ needsReconciliation (reconciled p) = false)
    (hnodup : (idsOf w.projections).Nodup) (hgoes : ∀ choice ∈ choices, choice = .goes)
    (hall : ∀ p ∈ needing w.projections, p ∈ taken options w.projections)
    (h : solo (perform inputOf reconciled) (runOnce options) w choices = some (r, w', [])) :
    needing w'.projections = [] := by
  rw [projections_of_goes (fun p => (hsettles p).1) hnodup hgoes h]
  refine List.filter_eq_nil_iff.2 fun q hq hneeds => ?_
  obtain ⟨p, hp, rfl⟩ := List.mem_map.1 hq
  by_cases hid : p.workspace.id ∈ idsOf (needing (taken options w.projections))
  · rw [settledAt, if_pos hid, (hsettles p).2] at hneeds
    cases hneeds
  · rw [settledAt, if_neg hid] at hneeds
    have hp' := hall p (List.mem_filter.2 ⟨hp, hneeds⟩)
    exact hid (List.mem_map_of_mem (List.mem_filter.2 ⟨hp', hneeds⟩))

/-- What is beyond the projections a run takes stays there, whatever number of runs succeed. -/
theorem drop_afterRuns (hid : ∀ p, (reconciled p).workspace.id = p.workspace.id)
    (hgoes : ∀ choices ∈ runs, ∀ choice ∈ choices, choice = Choice.goes) (hnodup : (idsOf w.projections).Nodup)
    (hbeyond : projection ∈ (sorted options w.projections).drop (maxItems options))
    (h : afterRuns options inputOf reconciled runs w = some w') :
    projection ∈ (sorted options w'.projections).drop (maxItems options) := by
  induction runs generalizing w with
  | nil =>
    obtain rfl := Option.some.inj h
    exact hbeyond
  | cons choices runs ih =>
    simp only [afterRuns] at h
    split at h
    · rename_i r w₁ hrun
      have hmap := projections_of_goes hid hnodup (hgoes choices List.mem_cons_self) hrun
      refine ih (fun c hc => hgoes c (List.mem_cons_of_mem _ hc)) ?_ ?_ h
      · rw [hmap, idsOf_settledAt hid]
        exact hnodup
      · -- the order is that of the Workspaces, which the run leaves
        have hsorted : sorted options w₁.projections =
            (sorted options w.projections).map (settledAt reconciled (idsOf (needing (taken options w.projections)))) := by
          rw [hmap, sorted, sorted]
          refine (List.map_mergeSort fun p _ q _ => ?_).symm
          have hsame : ∀ p : WorkspaceExecutionProjection, (settledAt reconciled
              (idsOf (needing (taken options w.projections))) p).workspace.id = p.workspace.id := by
            intro p
            simp only [settledAt]
            split
            · exact hid p
            · rfl
          rw [hsame, hsame]
        rw [hsorted, ← List.map_drop]
        refine List.mem_map.2 ⟨projection, hbeyond, if_neg fun hmem => ?_⟩
        exact id_notMem_taken hnodup hbeyond (List.map_subset _ List.filter_sublist.subset hmem)
    · cases h

/-- There is a run in which nothing fails, and so any number of them. -/
theorem afterRuns_goes (options : WorkspaceExecutionReconcilerOptions)
    (inputOf : WorkspaceExecutionProjection → WorkspaceExecutionReconcileInput)
    (reconciled : WorkspaceExecutionProjection → WorkspaceExecutionProjection) (n : Nat) (w : World) :
    ∃ runs w', runs.length = n ∧ (∀ choices ∈ runs, ∀ choice ∈ choices, choice = Choice.goes) ∧
      afterRuns options inputOf reconciled runs w = some w' := by
  induction n generalizing w with
  | zero => exact ⟨[], w, rfl, by simp, rfl⟩
  | succ n ih =>
    have hgo : ∀ w o, ∃ r, perform inputOf reconciled w o .goes = some r := by
      intro w o
      cases o <;> exact ⟨_, rfl⟩
    obtain ⟨m, r, w₁, hrun⟩ := solo_replicate Choice.goes hgo (runOnce options) w
    obtain ⟨runs, w', hlength, hgoes, h⟩ := ih w₁
    refine ⟨List.replicate m .goes :: runs, w', by simp [hlength], ?_, by simp [afterRuns, hrun, h]⟩
    intro choices hchoices
    rcases List.mem_cons.1 hchoices with rfl | hchoices
    · exact fun choice hchoice => List.eq_of_mem_replicate hchoice
    · exact hgoes choices hchoices

end Settling

section Coverage

variable {options : WorkspaceExecutionReconcilerOptions} {w : World} {projection : WorkspaceExecutionProjection}

theorem CoversQueue.of_taken (hnodup : (idsOf w.projections).Nodup)
    (hall : ∀ p ∈ needing w.projections, p ∈ taken options w.projections) : CoversQueue options w where
  covers := by
    intro inputOf reconciled choices r w' hmeets hrun
    have hgranted : ∀ w, ¬ Granted w (.withLease .reconciler) .busy := fun w h => nomatch h rfl
    obtain ⟨hr, events, hevents, hcover⟩ := ends_solo (ends_runOnce_covers hnodup (hgranted w)) hmeets hrun
    exact ⟨hr, events, hevents, hcover.run hnodup hall⟩
  converges := by
    intro inputOf reconciled hsettles runs w' hlength hgoes h
    cases runs with
    | nil =>
      obtain rfl := Option.some.inj h
      have hzero : (needing w.projections).length = 0 := by
        have hm := maxItems_pos options
        have hlt := Nat.lt_of_div_eq_zero hm hlength.symm
        omega
      exact List.length_eq_zero_iff.1 hzero
    | cons choices runs =>
      simp only [afterRuns] at h
      split at h
      · rename_i r w₁ hrun
        have hfirst := hgoes choices List.mem_cons_self
        have hid : ∀ p, (reconciled p).workspace.id = p.workspace.id := fun p => (hsettles p).1
        refine needing_afterRuns hid (fun c hc => hgoes c (List.mem_cons_of_mem _ hc)) ?_
          (needing_of_goes hsettles hnodup hfirst hall hrun) h
        rw [projections_of_goes hid hnodup hfirst hrun, idsOf_settledAt hid]
        exact hnodup
      · cases h

/-- An input that starts what the projection already has. -/
def storedInput (projection : WorkspaceExecutionProjection) : WorkspaceExecutionReconcileInput where
  workspaceId := projection.workspace.id
  ownerId := projection.workspace.ownerId
  providerId := some projection.execution.providerId
  artifactKind := none
  executionContract := none
  storageClass := none
  appId := projection.workspace.appId
  appRevisionId := projection.workspace.appRevisionId
  launchArtifactId := projection.execution.launchArtifactId
  launchArtifactReference := projection.execution.launchArtifactReference.getD ""
  sourceCatalogSnapshot := none
  launchProfile := ⟨projection.execution.launchArtifactReference.getD "", ⟨"1g", "1", 100⟩, [], []⟩
  desiredState := projection.execution.desiredState
  replace := false
  transactionKey := none
  signal := none

/-- A reconciliation that settles whatever it is about. -/
def settle (projection : WorkspaceExecutionProjection) : WorkspaceExecutionProjection :=
  { projection with execution := { projection.execution with transactionStatus := .failed } }

theorem needsReconciliation_settle (projection : WorkspaceExecutionProjection) :
    needsReconciliation (settle projection) = false := by
  simp [needsReconciliation, settle, settledTransaction]

/-- One projection beyond those a run takes is enough. -/
theorem not_coversQueue (hnodup : (idsOf w.projections).Nodup) (hneeds : projection ∈ needing w.projections)
    (hbeyond : projection ∉ taken options w.projections) : ¬ CoversQueue options w := by
  intro hcovers
  obtain ⟨hlisted, hneeds⟩ := List.mem_filter.1 hneeds
  obtain ⟨runs, w', hlength, hgoes, h⟩ := afterRuns_goes options storedInput settle (runsNeeded options w) w
  have hnone := hcovers.converges storedInput settle (fun p => ⟨rfl, needsReconciliation_settle p⟩) runs w' hlength hgoes h
  have hdrop := (mem_taken_or_drop hlisted).resolve_left hbeyond
  have hid : ∀ p, (settle p).workspace.id = p.workspace.id := fun _ => rfl
  have hleft := drop_afterRuns hid hgoes hnodup hdrop h
  have hlisted' : projection ∈ w'.projections := (List.mergeSort_perm _ _).subset (List.drop_subset _ _ hleft)
  exact List.filter_eq_nil_iff.1 hnone projection hlisted' hneeds

/-- The reconciler covers its queue exactly where the whole of it is among the projections one run takes. -/
theorem coversQueue_iff (options : WorkspaceExecutionReconcilerOptions) (w : World) (hnodup : (idsOf w.projections).Nodup) :
    CoversQueue options w ↔
      ∀ projection ∈ w.projections, needsReconciliation projection = true →
        projection ∈ (sorted options w.projections).take (maxItems options) := by
  constructor
  · intro hcovers projection hlisted hneeds
    by_contra hbeyond
    exact not_coversQueue hnodup (List.mem_filter.2 ⟨hlisted, hneeds⟩) hbeyond hcovers
  · intro hall
    refine .of_taken hnodup fun projection hneeds => ?_
    obtain ⟨hlisted, hneeds⟩ := List.mem_filter.1 hneeds
    exact hall projection hlisted hneeds

/-! ## Two Workspaces -/

def sampleOptions (maxItems : Int) : WorkspaceExecutionReconcilerOptions where
  maxItems := some maxItems
  maxAttempts := none
  retryDelayMs := none
  isRetryable := none
  localeNotAfter left right := decide (left ≤ right)

/-- A Workspace that should run. -/
def sampleProjection (id : String) (observedState : WorkspaceObservedState) : WorkspaceExecutionProjection where
  workspace := ⟨id, "user", "app", none, "storage", some id, .active, none, none, none, none, "2024", "2024"⟩
  execution := ⟨id, id, .active, "docker", none, 1, 1, some 1, none, .applied, .running, observedState, none, none, none,
    none, none, 1, none, none, "2024", none, "2024"⟩
  compatibility := ⟨id, .running⟩

/-- The first of them runs, the second has stopped. -/
def sampleWorld : World :=
  ⟨[sampleProjection "a" .running, sampleProjection "b" .stopped], []⟩

theorem sorted_sampleWorld (maxItems : Int) : sorted (sampleOptions maxItems) sampleWorld.projections = sampleWorld.projections := by
  refine List.mergeSort_of_pairwise ?_
  simp [sampleOptions, sampleWorld, sampleProjection]

theorem two_covered : CoversQueue (sampleOptions 2) sampleWorld :=
  (coversQueue_iff (sampleOptions 2) sampleWorld (by decide)).2 (by
    rw [sorted_sampleWorld]
    decide)

theorem second_notCovered : ¬ CoversQueue (sampleOptions 1) sampleWorld :=
  @not_coversQueue (sampleOptions 1) sampleWorld (sampleProjection "b" .stopped) (by decide) (by decide) (by
    rw [taken, sorted_sampleWorld]
    decide)

end Coverage

end OpenApp.Reconciler
