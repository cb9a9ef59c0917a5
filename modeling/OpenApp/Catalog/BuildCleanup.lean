import OpenApp.Catalog.BuildExecutor

/-!
# What becomes of the output of a build

The executor writes the end of a build without knowing whether the write was kept, and decides from
a fresh read what to do with what the strategy has made. Nobody else records an artifact, so a build
that is read as not succeeded, after the executor's own attempt to record it, never succeeds.
-/

namespace OpenApp.Catalog.Executor

open Async Async.Prog

abbrev Exchanges := Trace Call Call.Answer Failure

/-! ## What the executor has had so far -/

/-- The calls that neither make an output nor record it nor throw it away, and let no build succeed. -/
def Plain : Call → Prop
  | .updateBuild build expectedStatus => build.status ≠ .succeeded ∧ expectedStatus ≠ .succeeded
  | .completeBuild _ _ _ => False
  | .strategyExecute _ _ => False
  | .cleanup _ => False
  | _ => True

/-- The strategy returned this output. -/
def Produced (tr : Exchanges) (output : StrategyBuildOutput) : Prop :=
  ∃ build version, (⟨.strategyExecute build version, .ok output⟩ : Exchange Call Call.Answer Failure) ∈ tr

/-- `output.cleanup()` was called. -/
def Cleaned (tr : Exchanges) (output : StrategyBuildOutput) : Prop :=
  ∃ r, (⟨.cleanup output, r⟩ : Exchange Call Call.Answer Failure) ∈ tr

/-- The build was read, and this is what it was. -/
def ReadAs (id : String) (tr : Exchanges) (build : Build) : Prop :=
  (⟨.getBuild id, .ok (some build)⟩ : Exchange Call Call.Answer Failure) ∈ tr

/-- The strategy returned this output and no other, and it was not thrown away. -/
structure Made (output : StrategyBuildOutput) (tr : Exchanges) : Prop where
  produced : Produced tr output
  only : ∀ output', Produced tr output' → output' = output
  uncleaned : ∀ output', ¬ Cleaned tr output'

/-- Nothing was made. -/
structure Unmade (tr : Exchanges) : Prop where
  unproduced : ∀ output, ¬ Produced tr output
  uncleaned : ∀ output, ¬ Cleaned tr output

/-- The build was read as not succeeded after the last attempt to record an output. -/
def KnownOpen (id : String) (tr : Exchanges) : Prop :=
  ∃ later build earlier, tr = later ++ ⟨.getBuild id, .ok (some build)⟩ :: earlier ∧ build.status ≠ .succeeded ∧
    ∀ x ∈ later, ∀ build artifact expectedStatus, x.op ≠ .completeBuild build artifact expectedStatus

/-- The output was recorded for the build that was read. -/
def Recorded (id : String) (tr : Exchanges) : Prop :=
  ∃ current build artifact record,
    (⟨.completeBuild build artifact .building, .ok (some record)⟩ : Exchange Call Call.Answer Failure) ∈ tr ∧
    ReadAs id tr current ∧ build.id = current.id ∧ build.status = .succeeded

/-- The last thing that happened is that the build could not be read. -/
def FailedRead (id : String) : Exchanges → Prop
  | ⟨.getBuild id', .error _⟩ :: _ => id' = id
  | ⟨.getBuild id', .ok none⟩ :: _ => id' = id
  | ⟨.getArtifactForBuild _, .error _⟩ :: ⟨.getBuild id', .ok (some _)⟩ :: _ => id' = id
  | _ => False

/-- What the executor may issue when. -/
def Issued (id : String) (tr : Exchanges) : Call → Prop
  | .completeBuild build artifact expectedStatus =>
    build.status = .succeeded ∧ expectedStatus = .building ∧ (∀ output, ¬ Cleaned tr output) ∧
      ∃ output, Produced tr output ∧ normalizeOutput output = .ok (artifact.imageReference, artifact.imageId)
  | .strategyExecute _ _ => ∀ output, ¬ Produced tr output
  | .cleanup output => Produced tr output ∧ KnownOpen id tr ∧ ∀ output', ¬ Cleaned tr output'
  | o => Plain o

variable {id : String} {tr : Exchanges} {output : StrategyBuildOutput} {o : Call} {x : Exchange Call Call.Answer Failure}

theorem Plain.issued (h : Plain o) : Issued id tr o := by
  cases o <;> first | exact h | exact h.elim

theorem Plain.ne_strategyExecute {build : Build} {version : Option AppVersion} (h : Plain o) : o ≠ .strategyExecute build version := by
  rintro rfl
  exact h

theorem Plain.ne_cleanup (h : Plain o) : o ≠ .cleanup output := by
  rintro rfl
  exact h

theorem Plain.ne_completeBuild {build : Build} {artifact : ImageArtifact} {expectedStatus : ImageBuildStatus} (h : Plain o) :
    o ≠ .completeBuild build artifact expectedStatus := by
  rintro rfl
  exact h

theorem Made.issued_completeBuild {build : Build} {artifact : ImageArtifact} (hm : Made output tr)
    (hstatus : build.status = .succeeded)
    (hnorm : normalizeOutput output = .ok (artifact.imageReference, artifact.imageId)) :
    Issued id tr (.completeBuild build artifact .building) :=
  ⟨hstatus, rfl, hm.uncleaned, output, hm.produced, hnorm⟩

/-! ## What an exchange adds -/

theorem produced_cons : Produced (x :: tr) output ↔
    (∃ build version, x = ⟨.strategyExecute build version, .ok output⟩) ∨ Produced tr output := by
  simp only [Produced, List.mem_cons, eq_comm (b := x)]
  constructor
  · rintro ⟨build, version, h | h⟩
    · exact .inl ⟨build, version, h⟩
    · exact .inr ⟨build, version, h⟩
  · rintro (⟨build, version, h⟩ | ⟨build, version, h⟩)
    · exact ⟨build, version, .inl h⟩
    · exact ⟨build, version, .inr h⟩

theorem cleaned_cons : Cleaned (x :: tr) output ↔ x.op = .cleanup output ∨ Cleaned tr output := by
  constructor
  · rintro ⟨r, h⟩
    rcases List.mem_cons.1 h with rfl | h
    · exact .inl rfl
    · exact .inr ⟨r, h⟩
  · rintro (h | ⟨r, h⟩)
    · obtain ⟨o, r⟩ := x
      obtain rfl := h
      exact ⟨r, List.mem_cons_self⟩
    · exact ⟨r, List.mem_cons_of_mem _ h⟩

theorem produced_cons_of_ne (h : ∀ build version, x.op ≠ .strategyExecute build version) :
    Produced (x :: tr) output ↔ Produced tr output := by
  rw [produced_cons, or_iff_right]
  rintro ⟨build, version, rfl⟩
  exact h build version rfl

theorem cleaned_cons_of_ne (h : ∀ output, x.op ≠ .cleanup output) : Cleaned (x :: tr) output ↔ Cleaned tr output := by
  rw [cleaned_cons, or_iff_right (h output)]

theorem Made.cons (hm : Made output tr) (hs : ∀ build version, x.op ≠ .strategyExecute build version)
    (hc : ∀ output, x.op ≠ .cleanup output) : Made output (x :: tr) where
  produced := (produced_cons_of_ne hs).2 hm.produced
  only output' h := hm.only output' ((produced_cons_of_ne hs).1 h)
  uncleaned output' h := hm.uncleaned output' ((cleaned_cons_of_ne hc).1 h)

/-- An attempt to record the output, however it ends, makes none and throws none away. -/
theorem Made.attempted {build : Build} {artifact : ImageArtifact} {expectedStatus : ImageBuildStatus}
    {r : Except Failure (Option Record)} (hm : Made output tr) :
    Made output (⟨.completeBuild build artifact expectedStatus, r⟩ :: tr) :=
  hm.cons (fun _ _ => Call.noConfusion) fun _ => Call.noConfusion

theorem Made.plain (tr : Exchanges) (x : Exchange Call Call.Answer Failure) (h : Plain x.op) (hm : Made output tr) :
    Made output (x :: tr) :=
  hm.cons (fun _ _ => h.ne_strategyExecute) fun _ => h.ne_cleanup

theorem Unmade.plain (tr : Exchanges) (x : Exchange Call Call.Answer Failure) (h : Plain x.op) (hu : Unmade tr) :
    Unmade (x :: tr) where
  unproduced output hp := hu.unproduced output ((produced_cons_of_ne fun _ _ => h.ne_strategyExecute).1 hp)
  uncleaned output hc := hu.uncleaned output ((cleaned_cons_of_ne fun _ => h.ne_cleanup).1 hc)

theorem KnownOpen.cons (hk : KnownOpen id tr)
    (h : ∀ build artifact expectedStatus, x.op ≠ .completeBuild build artifact expectedStatus) : KnownOpen id (x :: tr) := by
  obtain ⟨later, build, earlier, rfl, hstatus, hlater⟩ := hk
  exact ⟨x :: later, build, earlier, rfl, hstatus, List.forall_mem_cons.2 ⟨h, hlater⟩⟩

/-- Either this exchange is the read, or it is no attempt to record and the read was before it. -/
theorem KnownOpen.split (hk : KnownOpen id (x :: tr)) :
    (∃ build, x = ⟨.getBuild id, .ok (some build)⟩ ∧ build.status ≠ .succeeded) ∨
      (∀ build artifact expectedStatus, x.op ≠ .completeBuild build artifact expectedStatus) ∧ KnownOpen id tr := by
  obtain ⟨later, build, earlier, heq, hstatus, hlater⟩ := hk
  cases later with
  | nil =>
    obtain ⟨rfl, rfl⟩ := List.cons.inj heq
    exact .inl ⟨build, rfl, hstatus⟩
  | cons y later =>
    obtain ⟨rfl, rfl⟩ := List.cons.inj heq
    obtain ⟨hx, hlater⟩ := List.forall_mem_cons.1 hlater
    exact .inr ⟨hx, later, build, earlier, rfl, hstatus, hlater⟩

/-! ## The manager only makes plain calls -/

theorem only_ask (h : Plain o) : Only Plain (ask o) :=
  only_await h

theorem only_required {α : Type} (a : Option α) (e : Failure) : Only Plain (required a e) := by
  cases a <;> trivial

theorem only_signalAborted : Only Plain signalAborted :=
  ⟨trivial, fun r => by cases r <;> trivial⟩

theorem only_requireBuild (id : String) : Only Plain (requireBuild id) :=
  only_bind (only_ask trivial) fun _ => only_required _ _

theorem only_startBuild (id : String) : Only Plain (startBuild id) := by
  refine only_bind (only_requireBuild id) fun current => only_throwIf_bind fun _ => ?_
  refine only_bind (only_ask trivial) fun startedAt => only_bind (only_ask ?_) fun _ => only_required _ _
  exact ⟨nofun, nofun⟩

theorem only_finishBuild (id : String) {status : ImageBuildStatus} (error : Option String) (h : status ≠ .succeeded) :
    Only Plain (finishBuild id status error) := by
  refine only_bind (only_requireBuild id) fun current => only_throwIf_bind fun hcurrent => ?_
  refine only_bind (only_ask trivial) fun finishedAt => only_bind (only_ask ⟨h, ?_⟩) fun _ => only_required _ _
  -- A build that has succeeded does not come past the check.
  intro hs
  simp [hs] at hcurrent

theorem only_cancelBuild (id : String) : Only Plain (cancelBuild id) :=
  only_finishBuild id none nofun

theorem only_failBuild (id : String) (error : String) : Only Plain (failBuild id error) :=
  only_finishBuild id _ nofun

theorem only_recoverInterrupted : Only Plain recoverInterrupted :=
  only_bind (only_ask trivial) fun _ => only_ask trivial

theorem only_sourceVersion (build : Build) : Only Plain (sourceVersion build) := by
  unfold sourceVersion
  split
  · exact only_bind (only_ask trivial) fun version => only_bind (only_required _ _) fun _ => only_pure _
  · exact only_pure _

theorem only_recordEnd (id : String) (error : Failure) : Only Plain (recordEnd id error) := by
  refine only_bind only_signalAborted fun flag => ?_
  split
  · exact only_bind (only_settle (only_cancelBuild id)) fun _ => only_pure _
  · exact only_bind (only_settle (only_failBuild id _)) fun _ => only_pure _

/-! ## Reading the build -/

variable {I : Exchanges → Prop}

/-- What a read of the record leaves: the record, or nothing but a failed read. -/
def Reads (id : String) (I : Exchanges → Prop) : Except Failure Record → Exchanges → Prop
  | .ok record, tr => I tr ∧ ∃ a earlier,
      tr = ⟨.getArtifactForBuild record.build.id, .ok a⟩ :: ⟨.getBuild id, .ok (some record.build)⟩ :: earlier
  | .error _, tr => I tr ∧ FailedRead id tr

theorem wp_getBuild (hI : ∀ tr x, Plain x.op → I tr → I (x :: tr)) (h : I tr) :
    wp (Issued id) (getBuild id) (Reads id I) tr := by
  unfold getBuild requireBuild
  simp only [wp_bind, ask, wp_await]
  refine ⟨trivial, fun r => ?_⟩
  have hread := hI tr ⟨.getBuild id, r⟩ trivial h
  rcases r with e | _ | build
  · exact ⟨hread, rfl⟩
  · exact ⟨hread, rfl⟩
  · refine (wp_bind _ _ _).2 ((wp_await _ _).2 ⟨trivial, fun r => ?_⟩)
    have hrest := hI _ ⟨.getArtifactForBuild build.id, r⟩ trivial hread
    cases r with
    | error e => exact ⟨hrest, rfl⟩
    | ok a => exact ⟨hrest, a, tr, rfl⟩

theorem wp_requireBuild (hI : ∀ tr x, Plain x.op → I tr → I (x :: tr)) (h : I tr) :
    wp (Issued id) (requireBuild id)
      (fun r tr' => I tr' ∧ ∀ build, r = .ok build → ReadAs id tr' build) tr := by
  unfold requireBuild
  simp only [wp_bind, ask, wp_await]
  refine ⟨trivial, fun r => ?_⟩
  have hread := hI tr ⟨.getBuild id, r⟩ trivial h
  rcases r with e | _ | build
  · refine ⟨hread, fun build heq => ?_⟩
    cases heq
  · refine ⟨hread, fun build heq => ?_⟩
    cases heq
  · refine ⟨hread, fun build' heq => ?_⟩
    obtain rfl := Except.ok.inj heq
    exact List.mem_cons_self

/-! ## Recording the output -/

/-- What an attempt to record the output leaves. -/
def Completes (id : String) (output : StrategyBuildOutput) : Except Failure Record → Exchanges → Prop
  | .ok _, tr => Recorded id tr
  | .error _, tr => Made output tr

/-- The output is made and the build was read. -/
structure Ready (id : String) (output : StrategyBuildOutput) (current : Build) (tr : Exchanges) : Prop where
  made : Made output tr
  read : ReadAs id tr current

theorem Ready.plain {current : Build} (tr : Exchanges) (x : Exchange Call Call.Answer Failure) (h : Plain x.op)
    (hr : Ready id output current tr) : Ready id output current (x :: tr) where
  made := hr.made.plain tr x h
  read := List.mem_cons_of_mem _ hr.read

theorem wp_completeBuild (hm : Made output tr) :
    wp (Issued id) (completeBuild id output) (Completes id output) tr := by
  unfold completeBuild
  rw [wp_bind]
  refine wp_post (wp_requireBuild Made.plain hm) fun r tr₁ ⟨hm₁, hread⟩ => ?_
  cases r with
  | error e => exact hm₁
  | ok current =>
    rw [then_ok, wp_bind, wp_throwIf]
    refine ⟨fun _ => hm₁, fun _ => ?_⟩
    rw [then_ok, wp_bind, wp_fromExcept]
    rcases hnorm : normalizeOutput output with e | ⟨imageReference, imageId⟩
    · exact hm₁
    · rw [then_ok]
      have hready : Ready id output current tr₁ := ⟨hm₁, hread current rfl⟩
      refine wp_keeps_bind (P := Plain) Ready.plain (fun _ _ => Plain.issued) (only_ask trivial) hready
        (fun _ _ h => h.made) fun finishedAt tr₂ hready₂ => ?_
      refine wp_keeps_bind (P := Plain) Ready.plain (fun _ _ => Plain.issued) (only_ask trivial) hready₂
        (fun _ _ h => h.made) fun artifactId tr₃ hready₃ => ?_
      rw [wp_bind]
      unfold ask
      rw [wp_await]
      refine ⟨hready₃.made.issued_completeBuild rfl hnorm, fun r => ?_⟩
      -- The answer says whether the record was kept; a failure leaves that open.
      rcases r with e | _ | record
      · exact hready₃.made.attempted
      · exact hready₃.made.attempted
      · exact ⟨current, _, _, record, List.mem_cons_self, List.mem_cons_of_mem _ hready₃.read, rfl, rfl⟩

/-! ## The executor -/

/-- How a run of the executor ends. -/
def Ended (id : String) : Except Failure Record → Exchanges → Prop
  | .ok _, tr => (∃ build, ReadAs id tr build ∧ build.status = .succeeded) ∨ Recorded id tr
  | .error _, tr => ∀ output, Produced tr output → output.cleanup = true →
      Cleaned tr output ∨ (∃ build, ReadAs id tr build ∧ build.status = .succeeded) ∨ FailedRead id tr

theorem wp_discard (hm : Made output tr) :
    wp (Issued id) (discard id output)
      (fun _ tr' => (∀ output', Produced tr' output' → output' = output) ∧
        (Cleaned tr' output ∨ (∃ build, ReadAs id tr' build ∧ build.status = .succeeded) ∨ FailedRead id tr')) tr := by
  unfold discard
  rw [wp_bind, wp_settle]
  refine wp_post (wp_getBuild Made.plain hm) fun r tr₁ hr => ?_
  cases r with
  | error e => exact ⟨hr.1.only, .inr (.inr hr.2)⟩
  | ok latest =>
    obtain ⟨hm₁, a, earlier, rfl⟩ := hr
    change wp _ (if latest.build.status ≠ .succeeded then ask (.cleanup output) else pure ()) _ _
    by_cases hopen : latest.build.status ≠ .succeeded
    · rw [if_pos hopen]
      refine (wp_await _ _).2 ⟨⟨hm₁.produced, ⟨[_], latest.build, earlier, rfl, hopen, ?_⟩, hm₁.uncleaned⟩, fun r => ?_⟩
      · simp
      · refine ⟨fun output' h => hm₁.only output' ((produced_cons_of_ne fun _ _ => Call.noConfusion).1 h), .inl ?_⟩
        exact ⟨r, List.mem_cons_self⟩
    · rw [if_neg hopen]
      refine ⟨hm₁.only, .inr (.inl ⟨latest.build, ?_, not_not.1 hopen⟩)⟩
      exact List.mem_cons_of_mem _ List.mem_cons_self

theorem wp_settled (hI : ∀ tr x, Plain x.op → I tr → I (x :: tr)) {p : Task Build} (hp : Only Plain p) (h : I tr) :
    wp (Issued id) (do let _ ← settle p) (fun r tr' => r = .ok () ∧ I tr') tr := by
  rw [wp_bind, wp_settle]
  exact wp_post (wp_keeps hI (fun _ _ => Plain.issued) hp h) fun r tr' hi => ⟨rfl, hi⟩

/-- However the write of the end goes, the executor goes on. -/
theorem wp_recordEnd (hI : ∀ tr x, Plain x.op → I tr → I (x :: tr)) (error : Failure) (h : I tr) :
    wp (Issued id) (recordEnd id error) (fun r tr' => r = .ok () ∧ I tr') tr := by
  unfold recordEnd
  rw [wp_bind]
  refine ⟨trivial, fun r => ?_⟩
  have hflag := hI tr ⟨.aborted, r⟩ trivial h
  cases r with
  | error e =>
    change wp _ (if false = true ∨ error = .execution "image_build_cancelled" then _ else _) _ _
    split
    · exact wp_settled hI (only_cancelBuild id) hflag
    · exact wp_settled hI (only_failBuild id _) hflag
  | ok flag =>
    change wp _ (if flag = true ∨ error = .execution "image_build_cancelled" then _ else _) _ _
    split
    · exact wp_settled hI (only_cancelBuild id) hflag
    · exact wp_settled hI (only_failBuild id _) hflag

theorem wp_abandon_none (hu : Unmade tr) (error : Failure) :
    wp (Issued id) (abandon id none error) (Ended id) tr := by
  unfold abandon
  rw [wp_bind]
  refine wp_post (wp_recordEnd Unmade.plain error hu) ?_
  rintro _ tr₁ ⟨rfl, hu₁⟩
  exact fun output hp => absurd hp (hu₁.unproduced output)

theorem wp_abandon_some (hm : Made output tr) (error : Failure) :
    wp (Issued id) (abandon id (some output) error) (Ended id) tr := by
  unfold abandon
  rw [wp_bind]
  refine wp_post (wp_recordEnd Made.plain error hm) ?_
  rintro _ tr₁ ⟨rfl, hm₁⟩
  rw [then_ok, wp_bind]
  unfold discardMade
  cases hc : output.cleanup with
  | false =>
    -- An output that offers no clean-up is left where it is.
    rw [Option.filter_some_neg (by simp [hc])]
    intro output' hp hc'
    rw [hm₁.only output' hp, hc] at hc'
    cases hc'
  | true =>
    rw [Option.filter_some_pos hc]
    refine wp_post (wp_discard hm₁) fun r tr₂ ⟨honly, hend⟩ => ?_
    cases r <;> exact fun output' hp _ => honly output' hp ▸ hend

theorem wp_produce (adapters : Registry) (build : Build) (hu : Unmade tr) :
    wp (Issued id) (produce adapters build)
      (fun r tr' => (∀ output, r = .ok output → Made output tr') ∧ (∀ e, r = .error e → Unmade tr')) tr := by
  have hfail {e : Failure} {tr' : Exchanges} (h : Unmade tr') :
      (∀ output : StrategyBuildOutput, Except.error e = .ok output → Made output tr') ∧
        ∀ e', (.error e : Except Failure StrategyBuildOutput) = .error e' → Unmade tr' :=
    ⟨nofun, fun _ _ => h⟩
  unfold produce
  refine wp_keeps_bind (P := Plain) Unmade.plain (fun _ _ => Plain.issued) (only_sourceVersion build) hu
    (fun _ _ h => hfail h) fun version tr₁ hu₁ => ?_
  rw [wp_bind, wp_throwIf]
  refine ⟨fun _ => hfail hu₁, fun _ => ?_⟩
  refine wp_keeps_bind (P := Plain) Unmade.plain (fun _ _ => Plain.issued) only_signalAborted hu₁
    (fun _ _ h => hfail h) fun flag tr₂ hu₂ => ?_
  rw [wp_bind, wp_throwIf]
  refine ⟨fun _ => hfail hu₂, fun _ => ?_⟩
  rw [then_ok, wp_bind, wp_fromExcept]
  cases adapters.resolve build.strategySnapshot.id build.strategySnapshot.revision with
  | error e => exact hfail hu₂
  | ok _ =>
    refine (wp_await _ _).2 ⟨hu₂.unproduced, fun r => ?_⟩
    have huncleaned (output' : StrategyBuildOutput) : ¬ Cleaned (⟨.strategyExecute build version, r⟩ :: tr₂) output' := by
      rw [cleaned_cons_of_ne fun _ => Call.noConfusion]
      exact hu₂.uncleaned output'
    cases r with
    | error e =>
      refine hfail ⟨fun output hp => ?_, huncleaned⟩
      rcases produced_cons.1 hp with ⟨build', version', h⟩ | hp
      · cases h
      · exact hu₂.unproduced output hp
    | ok output =>
      refine ⟨fun output' heq => ?_, nofun⟩
      obtain rfl := Except.ok.inj heq
      refine ⟨⟨build, version, List.mem_cons_self⟩, fun output' hp => ?_, huncleaned⟩
      rcases produced_cons.1 hp with ⟨build', version', h⟩ | hp
      · cases h
        rfl
      · exact absurd hp (hu₂.unproduced output')

theorem wp_commit (hm : Made output tr) : wp (Issued id) (commit id output) (Completes id output) tr := by
  unfold commit
  refine wp_keeps_bind (P := Plain) Made.plain (fun _ _ => Plain.issued) only_signalAborted hm
    (fun _ _ h => h) fun flag tr₁ hm₁ => ?_
  rw [wp_bind, wp_throwIf]
  refine ⟨fun _ => hm₁, fun _ => ?_⟩
  exact wp_keeps_bind (P := Plain) Made.plain (fun _ _ => Plain.issued) (only_ask trivial) hm₁
    (fun _ _ h => h) fun _ _ hm₂ => wp_completeBuild hm₂

theorem wp_runBuild (adapters : Registry) (build : Build) (hu : Unmade tr) :
    wp (Issued id) (runBuild adapters id build) (Ended id) tr := by
  unfold runBuild
  rw [wp_bind, wp_settle]
  refine wp_post (wp_produce adapters build hu) fun r tr₁ ⟨hmade, hunmade⟩ => ?_
  cases r with
  | error e => exact wp_abandon_none (hunmade e rfl) e
  | ok output =>
    change wp _ (tryCatch (commit id output) fun error => abandon id (some output) error) _ _
    rw [wp_tryCatch]
    refine wp_post (wp_commit (hmade output rfl)) fun r tr₂ hr => ?_
    cases r with
    | ok record => exact .inr hr
    | error e => exact wp_abandon_some hr e

theorem wp_execute (adapters : Registry) : wp (Issued id) (execute adapters id) (Ended id) [] := by
  have hunmade : Unmade [] := ⟨by simp [Produced], by simp [Cleaned]⟩
  have hfail (e : Failure) {tr' : Exchanges} (h : Unmade tr') : Ended id (.error e) tr' :=
    fun output hp => absurd hp (h.unproduced output)
  unfold execute
  rw [wp_bind]
  refine wp_post (wp_getBuild Unmade.plain hunmade) fun r tr₁ hr => ?_
  cases r with
  | error e => exact hfail e hr.1
  | ok initial =>
    obtain ⟨hu₁, a, earlier, rfl⟩ := hr
    rw [then_ok]
    split
    · next hs => exact .inl ⟨initial.build, List.mem_cons_of_mem _ List.mem_cons_self, hs⟩
    · rw [wp_bind, wp_throwIf]
      refine ⟨fun _ => hfail (invalidTransition initial.build.status .building) hu₁, fun _ => ?_⟩
      exact wp_keeps_bind (P := Plain) Unmade.plain (fun _ _ => Plain.issued) (only_startBuild id) hu₁
        (fun e _ h => hfail e h) fun build _ hu₂ => wp_runBuild adapters build hu₂

/-! ## A build that has succeeded before -/

def Call.isRead : Call → Bool
  | getBuild _ => true
  | getArtifactForBuild _ => true
  | _ => false

/-- The executor only reads, until it has read that the build has not succeeded. -/
theorem wp_execute_reads (adapters : Registry) :
    wp (fun tr o => o.isRead = true ∨ ∃ build, ReadAs id tr build ∧ build.status ≠ .succeeded) (execute adapters id)
      (fun _ _ => True) [] := by
  unfold execute getBuild requireBuild
  simp only [wp_bind, ask, wp_await]
  refine ⟨.inl rfl, fun r => ?_⟩
  rcases r with e | _ | build
  · trivial
  · trivial
  · refine (wp_bind _ _ _).2 ((wp_await _ _).2 ⟨.inl rfl, fun r => ?_⟩)
    cases r with
    | error e => trivial
    | ok artifact =>
      change wp _ (if build.status = .succeeded then _ else _) _ _
      split
      · trivial
      · next hopen =>
        refine wp_post (wp_inv (I := fun tr => ∃ build, ReadAs id tr build ∧ build.status ≠ .succeeded) ?_ ?_ ?_
          (always_any _ _)) fun _ _ _ => trivial
        · rintro tr o r ⟨build, hread, hstatus⟩ -
          exact ⟨build, List.mem_cons_of_mem _ hread, hstatus⟩
        · exact fun tr o hi _ => .inr hi
        · exact ⟨build, List.mem_cons_of_mem _ List.mem_cons_self, hopen⟩

end OpenApp.Catalog.Executor
