import OpenApp.Catalog.BuildCleanup

/-!
# What a build ends as

A build succeeds by the executor alone, once, with what its own strategy made. An output is thrown
away at most once, and never one whose build has succeeded or will.
-/

namespace OpenApp.Catalog.Executor

open Async Async.Prog Keyed

/-! ## What a call does to a build -/

/-- The build is recorded as succeeded. -/
def World.Succeeded (w : World) (id : String) : Prop :=
  w.store.status id = some .succeeded

def World.artifactOf (w : World) (id : String) : Option ImageArtifact :=
  w.store.getImageArtifactForBuild id

variable {w w' w₀ : World} {o : Call} {x : Choice} {r : Except Failure o.Answer} {id : String}

theorem perform_world (h : perform w o x = some (r, w')) : w' = w ∨ w' = (effect w x o).2 := by
  unfold perform at h
  split at h <;> obtain ⟨-, rfl⟩ := Prod.mk.inj (Option.some.inj h)
  · exact .inl rfl
  · exact .inr rfl
  · exact .inr rfl

theorem perform_ok {a : o.Answer} (h : perform w o x = some (.ok a, w')) : effect w x o = (a, w') := by
  unfold perform at h
  split at h <;> obtain ⟨hr, rfl⟩ := Prod.mk.inj (Option.some.inj h)
  · cases hr
  · cases hr
  · rw [← Except.ok.inj hr]

theorem BuildStore.status_put (s : BuildStore) (build : Build) (id : String) :
    (BuildStore.mk (s.imageBuilds.put build) s.imageArtifacts).status id =
      if id = build.id then some build.status else s.status id := by
  unfold BuildStore.status BuildStore.getImageBuild
  dsimp only
  rw [Table.get_put]
  split <;> rfl

theorem BuildStore.recovered_succeeded (live : String → Bool) (finishedAt : String) (build : Build) :
    (recovered live finishedAt build).status = .succeeded ↔ build.status = .succeeded := by
  unfold recovered interrupted
  cases hs : build.status <;> simp [hs] <;> split <;> simp [hs]

/-- A plain call neither lets a build succeed nor takes that back. -/
theorem effect_succeeded (h : Plain o) : (effect w x o).2.Succeeded id ↔ w.Succeeded id := by
  cases o with
  | updateBuild build expectedStatus =>
    obtain ⟨hbuild, hexpected⟩ := h
    unfold World.Succeeded effect BuildStore.updateImageBuild
    dsimp only
    split
    · next hs =>
      rw [BuildStore.status_put]
      split
      · next heq => simp [heq, hs, hbuild, hexpected]
      · rfl
    · rfl
  | recoverInterruptedBuilds finishedAt =>
    unfold World.Succeeded effect BuildStore.recoverInterruptedImageBuilds BuildStore.status BuildStore.getImageBuild
    dsimp only
    rw [Table.get_sweep]
    cases w.store.imageBuilds.get id with
    | none => rfl
    | some build => simp [BuildStore.recovered_succeeded]
  | completeBuild | strategyExecute | cleanup => exact h.elim
  | _ => rfl

theorem effect_artifactOf (h : Plain o) : (effect w x o).2.artifactOf id = w.artifactOf id := by
  cases o with
  | updateBuild build expectedStatus =>
    unfold World.artifactOf effect BuildStore.updateImageBuild BuildStore.getImageArtifactForBuild
    dsimp only
    split <;> rfl
  | completeBuild | strategyExecute | cleanup => exact h.elim
  | _ => rfl

/-! ## Recording an artifact -/

theorem BuildStore.completeImageBuild_cases (s : BuildStore) (build : Build) (artifact : ImageArtifact)
    (expectedStatus : ImageBuildStatus) :
    s.completeImageBuild build artifact expectedStatus = (none, s) ∨
      s.status build.id = some expectedStatus ∧ artifact.buildId = build.id ∧ s.imageArtifacts.get artifact.id = none ∧
        s.getImageArtifactForBuild build.id = none ∧
        s.completeImageBuild build artifact expectedStatus = (some ⟨build, some artifact⟩,
          { imageBuilds := s.imageBuilds.put build, imageArtifacts := s.imageArtifacts.put artifact }) := by
  unfold BuildStore.completeImageBuild
  split
  · exact .inl rfl
  · next hfirst =>
    split
    · exact .inl rfl
    · next hsecond =>
      simp only [not_or, not_not] at hfirst
      simp only [not_or, Bool.not_eq_true, Option.isSome_eq_false_iff, Option.isNone_iff_eq_none] at hsecond
      exact .inr ⟨hfirst.1, hfirst.2, hsecond.1, hfirst.2 ▸ hsecond.2, rfl⟩

/-- A new artifact comes after those that are there. -/
theorem BuildStore.artifactFor_put (s : BuildStore) (imageBuilds : Table Build.id) {artifact : ImageArtifact}
    (h : s.imageArtifacts.get artifact.id = none) (id : String) :
    (BuildStore.mk imageBuilds (s.imageArtifacts.put artifact)).getImageArtifactForBuild id =
      (s.getImageArtifactForBuild id).or (if artifact.buildId = id then some artifact else none) := by
  have hnew : artifact.id ∉ s.imageArtifacts.rows.map ImageArtifact.id := by
    intro hmem
    obtain ⟨other, hother, heq⟩ := List.mem_map.1 hmem
    rw [Table.get_eq_some.2 ⟨hother, heq⟩] at h
    cases h
  have hrows : (s.imageArtifacts.put artifact).rows = s.imageArtifacts.rows ++ [artifact] := putRow_of_notMem hnew
  unfold BuildStore.getImageArtifactForBuild
  dsimp only
  rw [hrows, List.find?_append, List.find?_singleton]
  simp

variable {build : Build} {artifact : ImageArtifact} {expectedStatus : ImageBuildStatus}

/-- The attempt changes nothing, or the build succeeds with this artifact. -/
theorem effect_completeBuild (hstatus : build.status = .succeeded) :
    effect w x (.completeBuild build artifact .building) = (none, w) ∨
      ((effect w x (.completeBuild build artifact .building)).2.Succeeded build.id ∧ ¬ w.Succeeded build.id ∧
        (∀ id, (effect w x (.completeBuild build artifact .building)).2.artifactOf id =
          if id = build.id then some artifact else w.artifactOf id) ∧
        ∀ id, id ≠ build.id → ((effect w x (.completeBuild build artifact .building)).2.Succeeded id ↔ w.Succeeded id)) := by
  rcases w.store.completeImageBuild_cases build artifact .building with h | ⟨hs, hid, hnew, hnone, h⟩
  · left
    simp [effect, h]
  · right
    have hput (id : String) := w.store.status_put build id
    simp only [effect, h, World.Succeeded, World.artifactOf]
    refine ⟨?_, ?_, fun id => ?_, fun id hne => ?_⟩
    · exact (hput build.id).trans (by rw [if_pos rfl, hstatus])
    · rw [hs]
      nofun
    · rw [BuildStore.artifactFor_put w.store _ hnew, hid]
      by_cases heq : id = build.id
      · subst heq
        simp [hnone]
      · simp [heq, Ne.symm heq]
    · exact iff_of_eq (congrArg (· = _) ((hput id).trans (if_neg hne)))

/-! ## Runs -/

variable {ι : Type} [DecidableEq ι] {adapters : Registry} {t₀ : ι}

abbrev BuildEvent (ι : Type) := Event ι Call Call.Answer Failure World

/-- The executor keeps to its rule, everyone else makes plain calls. -/
def Rule (id : String) (t₀ t : ι) (tr : Exchanges) (o : Call) : Prop :=
  if t = t₀ then Issued id tr o else Plain o

def Call.isCleanup : Call → Bool
  | cleanup _ => true
  | _ => false

/-- How often an output was thrown away, by whomever. -/
def cleanups (es : List (BuildEvent ι)) : Nat :=
  es.countP fun e => e.op.isCleanup

/-- What the executor makes sure of, after every event. -/
structure Inv (id : String) (t₀ : ι) (w₀ : World) (es : List (BuildEvent ι)) (w : World) : Prop where
  open_ : KnownOpen id (traceOf t₀ es) → ¬ w.Succeeded id
  cleaned : ∀ output, Cleaned (traceOf t₀ es) output → KnownOpen id (traceOf t₀ es)
  once : cleanups es ≤ 1
  traced : 0 < cleanups es → ∃ output, Cleaned (traceOf t₀ es) output
  only : ∀ output output', Produced (traceOf t₀ es) output → Produced (traceOf t₀ es) output' → output' = output
  recorded : w.Succeeded id → ¬ w₀.Succeeded id → ∃ output artifact, Produced (traceOf t₀ es) output ∧
    w.artifactOf id = some artifact ∧ normalizeOutput output = .ok (artifact.imageReference, artifact.imageId)

theorem Inv.start (id : String) (t₀ : ι) (w₀ : World) : Inv id t₀ w₀ [] w₀ where
  open_ := by
    rintro ⟨later, build, earlier, h, -⟩
    cases later <;> cases h
  cleaned := by simp [Cleaned]
  once := by simp [cleanups]
  traced := by simp [cleanups]
  only := by simp [Produced]
  recorded hs hn := absurd hs hn

theorem perform_succeeded (h : Plain o) (hp : perform w o x = some (r, w')) : w'.Succeeded id ↔ w.Succeeded id := by
  rcases perform_world hp with rfl | rfl
  · rfl
  · exact effect_succeeded h

theorem perform_artifactOf (h : Plain o) (hp : perform w o x = some (r, w')) : w'.artifactOf id = w.artifactOf id := by
  rcases perform_world hp with rfl | rfl
  · rfl
  · exact effect_artifactOf h

variable {es : List (BuildEvent ι)}

theorem Plain.isCleanup (h : Plain o) : o.isCleanup = false := by
  cases o <;> first | rfl | exact h.elim

omit [DecidableEq ι] in
theorem cleanups_cons (e : BuildEvent ι) (h : e.op.isCleanup = false) : cleanups (e :: es) = cleanups es := by
  simp [cleanups, h]

/-- Reading the build as not succeeded says what it is. -/
theorem not_succeeded_of_read (hp : perform w (.getBuild id) x = some (.ok (some build), w')) (h : build.status ≠ .succeeded) :
    ¬ w'.Succeeded id := by
  have heff : effect w x (.getBuild id) = (w.store.getImageBuild id, w) := rfl
  obtain ⟨hget, rfl⟩ := Prod.mk.inj (heff.symm.trans (perform_ok hp))
  unfold World.Succeeded BuildStore.status
  rw [hget]
  simpa using h

/-- A call that anyone may make, at any time. -/
theorem Inv.plain {t : ι} (hi : Inv id t₀ w₀ es w) (ho : Plain o) (hp : perform w o x = some (r, w')) :
    Inv id t₀ w₀ (⟨⟨o, r⟩, t, w, w'⟩ :: es) w' := by
  have hsucc : w'.Succeeded id ↔ w.Succeeded id := perform_succeeded ho hp
  have hart : w'.artifactOf id = w.artifactOf id := perform_artifactOf ho hp
  have hcount : cleanups (⟨⟨o, r⟩, t, w, w'⟩ :: es) = cleanups es :=
    cleanups_cons _ ho.isCleanup
  by_cases ht : t = t₀
  · subst ht
    have hproduced (output : StrategyBuildOutput) :
        Produced (⟨o, r⟩ :: traceOf t es) output ↔ Produced (traceOf t es) output :=
      produced_cons_of_ne fun _ _ => ho.ne_strategyExecute
    have hcleaned (output : StrategyBuildOutput) :
        Cleaned (⟨o, r⟩ :: traceOf t es) output ↔ Cleaned (traceOf t es) output :=
      cleaned_cons_of_ne fun _ => ho.ne_cleanup
    constructor
    all_goals simp only [traceOf_record_own, hproduced, hcleaned, hcount]
    · intro hk
      rcases hk.split with ⟨build, heq, hopen⟩ | ⟨-, hk⟩
      · cases heq
        exact not_succeeded_of_read hp hopen
      · exact mt hsucc.1 (hi.open_ hk)
    · exact fun output hc => (hi.cleaned output hc).cons fun _ _ _ => ho.ne_completeBuild
    · exact hi.once
    · exact hi.traced
    · exact hi.only
    · exact fun hs hn => hart ▸ hi.recorded (hsucc.1 hs) hn
  · constructor
    all_goals simp only [traceOf_record_other ht, hcount]
    · exact fun hk => mt hsucc.1 (hi.open_ hk)
    · exact hi.cleaned
    · exact hi.once
    · exact hi.traced
    · exact hi.only
    · exact fun hs hn => hart ▸ hi.recorded (hsucc.1 hs) hn

/-- The strategy runs, for the first time. -/
theorem Inv.strategyExecute {version : Option AppVersion} {r : Except Failure StrategyBuildOutput}
    (hi : Inv id t₀ w₀ es w) (ho : ∀ output, ¬ Produced (traceOf t₀ es) output)
    (hp : perform w (.strategyExecute build version) x = some (r, w')) :
    Inv id t₀ w₀ (⟨⟨.strategyExecute build version, r⟩, t₀, w, w'⟩ :: es) w' := by
  obtain rfl : w' = w := (perform_world hp).elim (·) (·)
  have hcount : cleanups (⟨⟨.strategyExecute build version, r⟩, t₀, w', w'⟩ :: es) = cleanups es :=
    cleanups_cons _ rfl
  have hcleaned (output : StrategyBuildOutput) :
      Cleaned (⟨.strategyExecute build version, r⟩ :: traceOf t₀ es) output ↔ Cleaned (traceOf t₀ es) output :=
    cleaned_cons_of_ne fun _ => Call.noConfusion
  constructor
  all_goals simp only [traceOf_record_own, hcleaned, hcount]
  · intro hk
    rcases hk.split with ⟨_, heq, -⟩ | ⟨-, hk⟩
    · cases heq
    · exact hi.open_ hk
  · exact fun output hc => (hi.cleaned output hc).cons fun _ _ _ => Call.noConfusion
  · exact hi.once
  · exact hi.traced
  · intro output output' h h'
    rcases produced_cons.1 h with ⟨_, _, heq⟩ | h
    · rcases produced_cons.1 h' with ⟨_, _, heq'⟩ | h'
      · cases heq
        cases heq'
        rfl
      · exact absurd h' (ho output')
    · exact absurd h (ho output)
  · intro hs hn
    obtain ⟨output, artifact, hproduced, hrest⟩ := hi.recorded hs hn
    exact absurd hproduced (ho output)

/-- The executor tries to record its output, which it has not thrown away. -/
theorem Inv.completeBuild {r : Except Failure (Option Record)} (hi : Inv id t₀ w₀ es w)
    (ho : Issued id (traceOf t₀ es) (.completeBuild build artifact expectedStatus))
    (hp : perform w (.completeBuild build artifact expectedStatus) x = some (r, w')) :
    Inv id t₀ w₀ (⟨⟨.completeBuild build artifact expectedStatus, r⟩, t₀, w, w'⟩ :: es) w' := by
  obtain ⟨hstatus, rfl, huncleaned, output, hproduced, hnorm⟩ := ho
  have hcount : cleanups (⟨⟨.completeBuild build artifact .building, r⟩, t₀, w, w'⟩ :: es) = cleanups es :=
    cleanups_cons _ rfl
  have hproduces (output : StrategyBuildOutput) :
      Produced (⟨.completeBuild build artifact .building, r⟩ :: traceOf t₀ es) output ↔ Produced (traceOf t₀ es) output :=
    produced_cons_of_ne fun _ _ => Call.noConfusion
  have hcleaned (output : StrategyBuildOutput) :
      Cleaned (⟨.completeBuild build artifact .building, r⟩ :: traceOf t₀ es) output ↔ Cleaned (traceOf t₀ es) output :=
    cleaned_cons_of_ne fun _ => Call.noConfusion
  constructor
  all_goals simp only [traceOf_record_own, hproduces, hcleaned, hcount]
  · intro hk
    rcases hk.split with ⟨_, heq, -⟩ | ⟨hne, -⟩
    · cases heq
    · exact absurd rfl (hne build artifact .building)
  · exact fun output hc => absurd hc (huncleaned output)
  · exact hi.once
  · exact hi.traced
  · exact hi.only
  · intro hs hn
    have hsame (heq : w' = w) := hi.recorded (heq ▸ hs) hn
    rcases perform_world hp with rfl | rfl
    · exact hsame rfl
    · rcases effect_completeBuild hstatus with heq | ⟨-, -, hart, hother⟩
      · rw [heq] at hs ⊢
        exact hi.recorded hs hn
      · rw [hart id]
        by_cases hid : id = build.id
        · exact ⟨output, artifact, hproduced, if_pos hid, hnorm⟩
        · rw [if_neg hid]
          exact hi.recorded ((hother id hid).1 hs) hn

/-- The executor throws its output away, for the first time and with the build known to be open. -/
theorem Inv.cleanup {output : StrategyBuildOutput} {r : Except Failure Unit} (hi : Inv id t₀ w₀ es w)
    (ho : Issued id (traceOf t₀ es) (.cleanup output)) (hp : perform w (.cleanup output) x = some (r, w')) :
    Inv id t₀ w₀ (⟨⟨.cleanup output, r⟩, t₀, w, w'⟩ :: es) w' := by
  obtain rfl : w' = w := (perform_world hp).elim (·) (·)
  obtain ⟨-, hk, huncleaned⟩ := ho
  have hproduces (output' : StrategyBuildOutput) :
      Produced (⟨.cleanup output, r⟩ :: traceOf t₀ es) output' ↔ Produced (traceOf t₀ es) output' :=
    produced_cons_of_ne fun _ _ => Call.noConfusion
  have hnone : cleanups es = 0 := by
    by_contra hne
    obtain ⟨output', hc⟩ := hi.traced (Nat.pos_of_ne_zero hne)
    exact huncleaned output' hc
  constructor
  any_goals simp only [traceOf_record_own, hproduces]
  · exact fun _ => hi.open_ hk
  · exact fun _ _ => hk.cons fun _ _ _ => Call.noConfusion
  · have hone : cleanups (⟨⟨.cleanup output, r⟩, t₀, w', w'⟩ :: es) = cleanups es + 1 := by
      simp [cleanups, Call.isCleanup]
    omega
  · exact fun _ => ⟨output, r, List.mem_cons_self⟩
  · exact hi.only
  · exact hi.recorded

theorem Inv.step {t : ι} (hi : Inv id t₀ w₀ es w) (ho : Rule id t₀ t (traceOf t es) o)
    (hp : perform w o x = some (r, w')) : Inv id t₀ w₀ (⟨⟨o, r⟩, t, w, w'⟩ :: es) w' := by
  unfold Rule at ho
  split at ho
  · next ht =>
    subst ht
    cases o with
    | strategyExecute build version => exact hi.strategyExecute ho hp
    | completeBuild build artifact expectedStatus => exact hi.completeBuild ho hp
    | cleanup output => exact hi.cleanup ho hp
    | _ => exact hi.plain ho hp
  · exact hi.plain ho hp

/-! ## Success stays -/

theorem Rule.keeps {t : ι} {tr : Exchanges} (ho : Rule id t₀ t tr o) (hp : perform w o x = some (r, w'))
    (hs : w.Succeeded id) : w'.Succeeded id := by
  have hplain (h : Plain o) : w'.Succeeded id := (perform_succeeded h hp).2 hs
  unfold Rule at ho
  split at ho
  · rcases perform_world hp with rfl | rfl
    · exact hs
    · cases o with
      | completeBuild build artifact expectedStatus =>
        obtain ⟨hstatus, rfl, -⟩ := ho
        rcases effect_completeBuild hstatus with heq | ⟨hnew, -, -, hother⟩
        · rw [heq]
          exact hs
        · by_cases hid : id = build.id
          · exact hid ▸ hnew
          · exact (hother id hid).2 hs
      | strategyExecute | cleanup => exact hs
      | _ => exact hplain ho
  · exact hplain ho

theorem succeeded_stays (h : Legal (buildSystem adapters) (Rule id t₀) w₀ es w) :
    (w₀.Succeeded id → w.Succeeded id) ∧
      ∀ e ∈ es, (w₀.Succeeded id → e.before.Succeeded id) ∧ (e.before.Succeeded id → w.Succeeded id) ∧
        (e.after.Succeeded id → w.Succeeded id) := by
  refine h.inv (I := fun es w => (w₀.Succeeded id → w.Succeeded id) ∧
    ∀ e ∈ es, (w₀.Succeeded id → e.before.Succeeded id) ∧ (e.before.Succeeded id → w.Succeeded id) ∧
      (e.after.Succeeded id → w.Succeeded id)) ?_ ?_
  · exact ⟨fun hs => hs, fun _ h => absurd h List.not_mem_nil⟩
  rintro es w w' t o x r - ⟨hfirst, hes⟩ hp ho
  have hkeep : w.Succeeded id → w'.Succeeded id := ho.keeps hp
  refine ⟨fun hs => hkeep (hfirst hs), List.forall_mem_cons.2 ⟨⟨hfirst, hkeep, fun hs => hs⟩, fun e he => ?_⟩⟩
  obtain ⟨h₀, hbefore, hafter⟩ := hes e he
  exact ⟨h₀, fun hs => hkeep (hbefore hs), fun hs => hkeep (hafter hs)⟩

theorem inv_of_legal (h : Legal (buildSystem adapters) (Rule id t₀) w₀ es w) : Inv id t₀ w₀ es w :=
  h.inv (Inv.start id t₀ w₀) fun _ _ _ _ _ _ _ _ hi hp ho => hi.step ho hp

/-! ## What the executor's exchanges say of the run -/

/-- An event of a run was performed. -/
theorem Legal.performed_event {G : ι → Exchanges → Call → Prop} (h : Legal (buildSystem adapters) G w₀ es w)
    {e : BuildEvent ι} (he : e ∈ es) : ∃ x, perform e.before e.op x = some (e.answer, e.after) := by
  obtain ⟨later, earlier, rfl⟩ := List.append_of_mem he
  exact h.suffix.2.2

/-- A read of the build tells what it was. -/
theorem status_of_read (h : Legal (buildSystem adapters) (Rule id t₀) w₀ es w)
    (hread : ReadAs id (traceOf t₀ es) build) :
    ∃ e ∈ es, e.before.store.getImageBuild id = some build := by
  obtain ⟨e, he, -, hx⟩ := event_of_mem_traceOf hread
  obtain ⟨x, hp⟩ := Legal.performed_event h he
  obtain ⟨⟨o, r⟩, t, before, after⟩ := e
  cases hx
  have heff : effect before x (.getBuild id) = (before.store.getImageBuild id, before) := rfl
  exact ⟨_, he, (Prod.mk.inj (heff.symm.trans (perform_ok hp))).1⟩

theorem succeeded_of_read (h : Legal (buildSystem adapters) (Rule id t₀) w₀ es w)
    (hread : ReadAs id (traceOf t₀ es) build) (hs : build.status = .succeeded) : w.Succeeded id := by
  obtain ⟨e, he, hget⟩ := status_of_read h hread
  refine ((succeeded_stays h).2 e he).2.1 ?_
  unfold World.Succeeded BuildStore.status
  rw [hget, Option.map_some, hs]

theorem succeeded_of_recorded (h : Legal (buildSystem adapters) (Rule id t₀) w₀ es w)
    (hrec : Recorded id (traceOf t₀ es)) : w.Succeeded id := by
  obtain ⟨current, build, artifact, record, hmem, hread, hid, hstatus⟩ := hrec
  obtain ⟨e, he, hget⟩ := status_of_read h hread
  have hcurrent : current.id = id := Table.key_of_get hget
  obtain ⟨e', he', -, hx⟩ := event_of_mem_traceOf hmem
  obtain ⟨x, hp⟩ := Legal.performed_event h he'
  obtain ⟨⟨o, r⟩, t, before, after⟩ := e'
  cases hx
  refine ((succeeded_stays h).2 _ he').2.2 ?_
  have heff := perform_ok hp
  rcases @effect_completeBuild before x build artifact hstatus with hnone | ⟨hnew, -⟩
  · rw [hnone] at heff
    cases heff
  · rw [heff, hid, hcurrent] at hnew
    exact hnew

/-! ## The programs keep to the rule -/

/-- Everyone but the executor of this build. -/
def Job.isExecute : Job → Bool
  | execute _ => true
  | _ => false

/-- How the job of a thread goes on and ends. -/
def Goes (id : String) (t₀ : ι) (calls : ι → Job) (t : ι) : Except Failure (Job ⊕ Outcome) → Exchanges → Prop
  | .ok (.inl job), tr => job = calls t ∧ tr = []
  | .ok (.inr (.executed record)), tr => t = t₀ → Ended id (.ok record) tr
  | .ok (.inr .finished), _ => t ≠ t₀
  | .error error, tr => t = t₀ → Ended id (.error error) tr

theorem wp_bystander {α : Type} {calls : ι → Job} {t : ι} (ht : t ≠ t₀) {p : Task α} (hp : Only Plain p) :
    wp (Rule id t₀ t) ((fun _ => Sum.inr Outcome.finished) <$> p) (Goes id t₀ calls t) [] := by
  rw [wp_map]
  refine wp_mono (wp_of_only (Q := fun _ _ => True) hp fun _ _ => trivial) (fun _ _ h => ?_) fun r tr _ => ?_
  · unfold Rule
    rwa [if_neg ht]
  · cases r with
    | error e => exact fun h => absurd h ht
    | ok _ => exact ht

theorem wp_body {calls : ι → Job} (h₀ : calls t₀ = .execute id) (hothers : ∀ t, t ≠ t₀ → (calls t).isExecute = false)
    (t : ι) (job : Job) (tr : Exchanges) (h : Goes id t₀ calls t (.ok (.inl job)) tr) :
    wp (Rule id t₀ t) (body adapters job) (Goes id t₀ calls t) tr := by
  obtain ⟨rfl, rfl⟩ := h
  by_cases ht : t = t₀
  · subst ht
    rw [h₀]
    refine (wp_map _ _ _).2 (wp_mono (wp_execute adapters) (fun _ _ h => ?_) fun r tr hr => ?_)
    · unfold Rule
      rwa [if_pos rfl]
    · cases r <;> exact fun _ => hr
  · have hjob := hothers t ht
    cases hc : calls t with
    | execute id' => simp [hc, Job.isExecute] at hjob
    | cancelBuild id' => exact wp_bystander ht (only_cancelBuild id')
    | failBuild id' error => exact wp_bystander ht (only_failBuild id' error)
    | recoverInterrupted => exact wp_bystander ht only_recoverInterrupted
    | abort => exact wp_bystander ht (only_ask trivial)

/-- Before the executor has read that the build has not succeeded, it does nothing but read. -/
theorem legal_reads {calls : ι → Job} (h₀ : calls t₀ = .execute id) {sched : List (ι × Choice)}
    {c : Config ι Call Call.Answer Failure World Job Outcome}
    (hrun : exec (buildSystem adapters) (start (buildSystem adapters) w₀ calls) sched = some c) :
    Legal (buildSystem adapters) (fun t tr o => t = t₀ → o.isRead = true ∨ ∃ build, ReadAs id tr build ∧
      build.status ≠ .succeeded) w₀ c.events c.world := by
  refine legal_of_exec (J := fun t job tr => job = calls t ∧ tr = []) (fun _ => ⟨rfl, rfl⟩) ?_ hrun
  rintro t job tr ⟨rfl, rfl⟩
  by_cases ht : t = t₀
  · subst ht
    rw [h₀]
    refine (wp_map _ _ _).2 (wp_mono (wp_execute_reads adapters) (fun _ _ h _ => h) fun r _ _ => ?_)
    cases r <;> trivial
  · have hany {α : Type} (p : Task α) (outcome : α → Outcome) (job : Job) :
        wp (fun tr o => t = t₀ → o.isRead = true ∨ ∃ build, ReadAs id tr build ∧ build.status ≠ .succeeded)
          ((fun a => Sum.inr (outcome a)) <$> p) (Continues fun job' tr => job' = job ∧ tr = []) [] := by
      refine (wp_map _ _ _).2 (wp_mono (always_any p []) (fun _ _ _ h => absurd h ht) fun r _ _ => ?_)
      cases r <;> trivial
    generalize calls t = job
    cases job <;> exact hany _ _ _

/-! ## Outputs and builds -/

variable {calls : ι → Job} {sched : List (ι × Choice)} {c : Config ι Call Call.Answer Failure World Job Outcome}

/-- What becomes of the output of the executor `t₀` and of its build, as far as a run has come. -/
structure Disposes (id : String) (t₀ : ι) (c : Config ι Call Call.Answer Failure World Job Outcome) : Prop where
  once : cleanups c.events ≤ 1
  spared : 0 < cleanups c.events → ¬ c.world.Succeeded id ∧ ∀ e ∈ c.events, ¬ e.before.Succeeded id
  cleaned : (c.prog t₀).ended = true → ¬ c.world.Succeeded id →
    ∀ output, Produced (traceOf t₀ c.events) output → output.cleanup = true →
      Cleaned (traceOf t₀ c.events) output ∨ FailedRead id (traceOf t₀ c.events)
  returned : ∀ record, c.prog t₀ = .done (.inr (.executed record)) → c.world.Succeeded id

/-- If the build has succeeded, its artifact is the one output of the executor, which was not thrown away. -/
def RecordsOwn (id : String) (t₀ : ι) (c : Config ι Call Call.Answer Failure World Job Outcome) : Prop :=
  c.world.Succeeded id → cleanups c.events = 0 ∧ ∃ output artifact, Produced (traceOf t₀ c.events) output ∧
    (∀ output', Produced (traceOf t₀ c.events) output' → output' = output) ∧
    c.world.artifactOf id = some artifact ∧ normalizeOutput output = .ok (artifact.imageReference, artifact.imageId)

theorem lawful_of_calls (h₀ : calls t₀ = .execute id) (hothers : ∀ t, t ≠ t₀ → (calls t).isExecute = false)
    (hrun : exec (buildSystem adapters) (start (buildSystem adapters) w₀ calls) sched = some c) :
    Lawful (buildSystem adapters) (Rule id t₀) (Goes id t₀ calls) w₀ c :=
  lawful_of_exec (fun _ => ⟨rfl, rfl⟩) (fun t job tr h => wp_body h₀ hothers t job tr h) hrun

theorem disposes_of_lawful (h : Lawful (buildSystem adapters) (Rule id t₀) (Goes id t₀ calls) w₀ c) :
    Disposes id t₀ c where
  once := (inv_of_legal h.legal).once
  spared hpos := by
    have hi := inv_of_legal h.legal
    obtain ⟨output, hc⟩ := hi.traced hpos
    have hopen : ¬ c.world.Succeeded id := hi.open_ (hi.cleaned output hc)
    exact ⟨hopen, fun e he hs => hopen (((succeeded_stays h.legal).2 e he).2.1 hs)⟩
  cleaned hended hopen := by
    have ht := h.threads t₀
    have hread : ¬ ∃ build, ReadAs id (traceOf t₀ c.events) build ∧ build.status = .succeeded :=
      fun ⟨build, hread, hs⟩ => hopen (succeeded_of_read h.legal hread hs)
    cases hp : c.prog t₀ with
    | call o k =>
      rw [hp] at hended
      cases hended
    | raise error =>
      rw [hp] at ht
      intro output hproduced hcleanup
      rcases ht rfl output hproduced hcleanup with hc | hs | hf
      · exact .inl hc
      · exact absurd hs hread
      · exact .inr hf
    | done a =>
      rw [hp] at hended ht
      rcases a with job | record | _
      · cases hended
      · rcases ht rfl with hs | hrec
        · exact absurd hs hread
        · exact absurd (succeeded_of_recorded h.legal hrec) hopen
      · exact absurd rfl ht
  returned record hp := by
    have ht := h.threads t₀
    rw [hp] at ht
    rcases ht rfl with ⟨build, hread, hs⟩ | hrec
    · exact succeeded_of_read h.legal hread hs
    · exact succeeded_of_recorded h.legal hrec

theorem recordsOwn_of_lawful (h : Lawful (buildSystem adapters) (Rule id t₀) (Goes id t₀ calls) w₀ c)
    (hfirst : ¬ w₀.Succeeded id) : RecordsOwn id t₀ c := by
  have hi := inv_of_legal h.legal
  intro hs
  refine ⟨?_, ?_⟩
  · by_contra hne
    exact ((disposes_of_lawful h).spared (Nat.pos_of_ne_zero hne)).1 hs
  · obtain ⟨output, artifact, hproduced, hart, hnorm⟩ := hi.recorded hs hfirst
    exact ⟨output, artifact, hproduced, fun output' h' => hi.only output output' hproduced h', hart, hnorm⟩

/-- A build that has succeeded before is only read. -/
theorem only_reads (h : Lawful (buildSystem adapters) (Rule id t₀) (Goes id t₀ calls) w₀ c)
    (hreads : Legal (buildSystem adapters) (fun t tr o => t = t₀ → o.isRead = true ∨ ∃ build, ReadAs id tr build ∧
      build.status ≠ .succeeded) w₀ c.events c.world) (hfirst : w₀.Succeeded id) :
    ∀ e ∈ c.events, e.thread = t₀ → e.op.isRead = true := by
  intro e he ht
  obtain ⟨later, earlier, hevents⟩ := List.append_of_mem he
  have hrule := (hevents ▸ hreads).suffix.2.1 ht
  refine hrule.resolve_right ?_
  rintro ⟨build, hread, hopen⟩
  -- The read came before, and the build had succeeded then as it had at first.
  rw [ht] at hread
  obtain ⟨e', he', hget⟩ := status_of_read (hevents ▸ h.legal).suffix.1 hread
  have hmem : e' ∈ c.events := by
    rw [hevents]
    exact List.mem_append_right _ (List.mem_cons_of_mem _ he')
  have hs : e'.before.Succeeded id := ((succeeded_stays h.legal).2 e' hmem).1 hfirst
  unfold World.Succeeded BuildStore.status at hs
  rw [hget, Option.map_some] at hs
  exact hopen (Option.some.inj hs)

/-- A failed build has its output thrown away, a recorded one keeps it, and a build that has succeeded
before is left alone. -/
theorem execute_disposes (adapters : Registry) (h₀ : calls t₀ = .execute id)
    (hothers : ∀ t, t ≠ t₀ → (calls t).isExecute = false)
    (hrun : exec (buildSystem adapters) (start (buildSystem adapters) w₀ calls) sched = some c) :
    Disposes id t₀ c ∧ (¬ w₀.Succeeded id → RecordsOwn id t₀ c) ∧
      (w₀.Succeeded id → ∀ e ∈ c.events, e.thread = t₀ → e.op.isRead = true) :=
  have hlawful := lawful_of_calls h₀ hothers hrun
  ⟨disposes_of_lawful hlawful, recordsOwn_of_lawful hlawful, only_reads hlawful (legal_reads h₀ hrun)⟩

/-! ## Two runs -/

def sampleBuild (status : ImageBuildStatus) : Build where
  id := "build"
  strategySnapshot := { id := "generic", revision := 1, runtimeContract := "web-v1" }
  operationId := none
  sourceAppVersionId := none
  status := status
  error := none
  startedAt := none
  finishedAt := none

def sampleArtifact : ImageArtifact where
  id := "artifact"
  buildId := "build"
  imageReference := "registry/app:1"
  imageId := "sha256:0"
  runtimeContract := "web-v1"
  createdAt := "now"

def sampleWorld (status : ImageBuildStatus) (imageArtifacts : Table ImageArtifact.id) : World where
  store := { imageBuilds := { rows := [sampleBuild status], nodup := by simp }, imageArtifacts := imageArtifacts }
  aborted := false

/-- Every call goes well. -/
def sampleChoice : Choice where
  fault := none
  text := "now"
  version := none
  output := { imageReference := "registry/app:2", imageId := "sha256:1", cleanup := true }
  live _ := false

/-- The build is cancelled while the strategy works, and the executor throws its image away. -/
theorem execute_disposes_cancelled : ∃ c,
    exec (buildSystem [("generic", 1)]) (start (buildSystem [("generic", 1)]) (sampleWorld .queued Table.empty)
      fun t => if t then .execute "build" else .cancelBuild "build")
      ((List.replicate 7 true ++ List.replicate 3 false ++ List.replicate 8 true).map fun t => (t, sampleChoice)) = some c ∧
      (c.prog true).ended = true ∧ cleanups c.events = 1 ∧
      Disposes "build" true c ∧ (¬ (sampleWorld .queued Table.empty).Succeeded "build" → RecordsOwn "build" true c) ∧
      ((sampleWorld .queued Table.empty).Succeeded "build" → ∀ e ∈ c.events, e.thread = true → e.op.isRead = true) := by
  have hends : (exec (buildSystem [("generic", 1)]) (start (buildSystem [("generic", 1)]) (sampleWorld .queued Table.empty)
      fun t => if t then .execute "build" else .cancelBuild "build")
      ((List.replicate 7 true ++ List.replicate 3 false ++ List.replicate 8 true).map fun t => (t, sampleChoice))).map
      (fun c => ((c.prog true).ended, cleanups c.events)) = some (true, 1) := by
    decide +kernel
  obtain ⟨c, hrun, hc⟩ := Option.map_eq_some_iff.1 hends
  obtain ⟨hended, hcount⟩ := Prod.mk.inj hc
  exact ⟨c, hrun, hended, hcount, execute_disposes _ rfl (by simp [Job.isExecute]) hrun⟩

/-- For a build that has succeeded before, the executor returns the record as it is, and has made nothing. -/
theorem succeeded_before_not_own : ∃ c,
    exec (buildSystem []) (start (buildSystem []) (sampleWorld .succeeded ⟨[sampleArtifact], by simp⟩)
      fun _ : Unit => .execute "build") [((), sampleChoice), ((), sampleChoice)] = some c ∧
      c.prog () = .done (.inr (.executed ⟨sampleBuild .succeeded, some sampleArtifact⟩)) ∧ ¬ RecordsOwn "build" () c := by
  refine ⟨_, rfl, rfl, fun h => ?_⟩
  obtain ⟨-, output, artifact, ⟨build, version, hmem⟩, -⟩ := h rfl
  simp [start, traceOf] at hmem

end OpenApp.Catalog.Executor
