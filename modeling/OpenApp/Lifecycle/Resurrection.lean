import OpenApp.Lifecycle.System
import OpenApp.Workspace.Deletion

/-!
# What a removal leaves at the provider

A removal that has returned has seen its Workspace deleted, so an environment removal came back for
it. Whether the environment stays away is another matter. A provision holds its user's queue and no
lock of the instance while it waits for the provider, and the checks of the store keep its result
out of the row, not its environment out of the provider. So the environment is gone for good
exactly as long as no reconcile takes effect after a removal.
-/

namespace OpenApp

open Async Async.Prog

variable {ι : Type} [DecidableEq ι] {l : InstanceLifecycle} {m : Manager}

def Op.reconciles (id : String) : Op → Bool
  | .reconcile request => request.workspaceId = id
  | _ => false

/-- A reconcile of the Workspace takes effect at the provider though a removal of its environment
has come back already. -/
def lateReconcile (id : String) (es : List (Event ι Op Op.Answer Failure World))
    (e : Event ι Op Op.Answer Failure World) : Prop :=
  e.op.reconciles id = true ∧ (∃ e' ∈ es, removedEnvironment id e') ∧ id ∈ e.after.environments

/-- The Workspace whose environment the exchange removed. -/
def Exchange.removed : Exchange Op Op.Answer Failure → Option String
  | ⟨.removeEnvironment request, .ok ()⟩ => some request.workspaceId
  | _ => none

omit [DecidableEq ι] in
theorem removedEnvironment_iff {id : String} {e : Event ι Op Op.Answer Failure World} :
    removedEnvironment id e ↔ Exchange.removed e.toExchange = some id := by
  obtain ⟨⟨o, r⟩, t, w, w'⟩ := e
  constructor
  · rintro ⟨request, hex, rfl⟩
    rw [hex]
    rfl
  · intro h
    cases o with
    | removeEnvironment request =>
      cases r with
      | ok u => exact ⟨request, rfl, Option.some.inj h⟩
      | error e => cases h
    | _ => cases h

instance decidableRemoved (id : String) (e : Event ι Op Op.Answer Failure World) : Decidable (removedEnvironment id e) :=
  decidable_of_iff _ removedEnvironment_iff.symm

instance decidableLate (id : String) (es : List (Event ι Op Op.Answer Failure World))
    (e : Event ι Op Op.Answer Failure World) : Decidable (lateReconcile id es e) :=
  inferInstanceAs (Decidable (_ ∧ _ ∧ _))

/-! ## What a removal has seen -/

/-- The thread has seen the row of the Workspace deleted, if its store says the truth. -/
def SeenDeleted (id : String) (tr : Exchanges) : Prop :=
  Sound tr → ∃ p, Since (fun _ => true) p tr ∧ p.workspace.id = id ∧ p.workspace.status = .deleted

omit [DecidableEq ι] in
theorem SeenDeleted.of_suffix {id : String} {tr tr' : Exchanges} (h : SeenDeleted id tr) (hs : tr <:+ tr') :
    SeenDeleted id tr' := by
  intro hsound
  obtain ⟨p, hp, hid, hdeleted⟩ := h (hsound.of_suffix hs)
  exact ⟨p, hp.of_suffix hs, hid, hdeleted⟩

/-- Where each round of a call starts from. -/
def Stands (tr : LifecycleExchanges) : LifecycleCall → Prop
  | .removing id _ _ current => StartsFrom current (lefts tr) ∧ (Sound (lefts tr) → Goes id current)
  | _ => True

/-- What a call has seen that returns this. -/
def Vouches (tr : LifecycleExchanges) : LifecycleReturned → Prop
  | .removed id => SeenDeleted id (lefts tr)
  | _ => True

/-- How one round of a removal ends. -/
def RoundEnds (id : String) : Except Failure (WorkspaceExecutionProjection ⊕ Unit) → LifecycleExchanges → Prop
  | .ok (.inl current), tr => StartsFrom current (lefts tr) ∧ (Sound (lefts tr) → Goes id current)
  | .ok (.inr ()), tr => SeenDeleted id (lefts tr)
  | .error _, _ => True

/-- A round of the manager's ends with the row of the next one, or with the row it started from,
which is not being deleted. -/
theorem deletionRound_ends (input : WorkspaceDeletionInput) {current : WorkspaceExecutionProjection} {tr : Exchanges}
    (hstart : StartsFrom current tr) (hgoes : Sound tr → Goes input.workspaceId current) :
    wp (Issued m) (deletionRound m input current)
      (fun r tr' => match r with
        | .ok (.inl p) => StartsFrom p tr' ∧ (Sound tr' → Goes input.workspaceId p)
        | .ok (.inr _) => SeenDeleted input.workspaceId tr'
        | .error _ => True) tr := by
  have hround : wp (Issued m) (deletionRound m input current)
      (fun r tr' => match r with
        | .ok (.inl p) => StartsFrom p tr' ∧ (Sound tr' → Goes current.workspace.id p)
        | .ok (.inr _) => current.workspace.status ≠ .deleting
        | .error _ => True) tr :=
    deletionRound_wp input hstart (fun p tr' hp hnext => ⟨hp, hnext⟩) (fun tr' h => h) fun e tr' => trivial
  refine wp_post (wp_extends hround) fun r tr' ⟨hr, hs⟩ => ?_
  rcases r with e | p | p
  · trivial
  · exact ⟨hr.1, fun hsound => (hgoes (hsound.of_suffix hs)).id ▸ hr.2 hsound⟩
  · intro hsound
    obtain ⟨hid, hinactive⟩ := hgoes (hsound.of_suffix hs)
    refine ⟨current, hstart.of_suffix hs, hid, ?_⟩
    cases hstatus : current.workspace.status with
    | active => exact absurd hstatus hinactive
    | deleting => exact absurd hstatus hr
    | deleted => rfl

/-- What the lifecycle does after the Workspace was seen deleted does not unsee it. -/
theorem SeenDeleted.kept {α : Type} {id : String} {p : LifecycleTask α} {tr : LifecycleExchanges}
    (h : SeenDeleted id (lefts tr)) (hp : Always (LifecycleIssued m) p) :
    wp (LifecycleIssued m) p (fun _ tr' => SeenDeleted id (lefts tr')) tr :=
  wp_post (wp_extends (hp tr)) fun _ _ hr => h.of_suffix (lefts_suffix hr.2)

theorem removalRound_wp {id : String} {actorUserId : Option String} {signal : AbortSignal}
    {current : WorkspaceExecutionProjection} {tr : LifecycleExchanges} (hstart : StartsFrom current (lefts tr))
    (hgoes : Sound (lefts tr) → Goes id current) :
    wp (LifecycleIssued l.manager) (removalRound l id actorUserId signal current) (RoundEnds id) tr := by
  unfold removalRound
  rw [wp_bind]
  refine wp_guarded (always_letGo id) (fun _ _ => trivial) ?_
  rw [wp_bind]
  refine wp_inl (fun _ _ h => h) (fun r tr' hr => ?_) (deletionRound_ends ⟨id, none, some signal⟩ hstart hgoes)
  rcases r with e | p | p
  · trivial
  · exact hr
  · rw [then_ok, wp_bind]
    refine wp_post (SeenDeleted.kept hr (always_finishRemoval id actorUserId p.workspace.ownerId)) fun r tr'' hr => ?_
    cases r with
    | error e => trivial
    | ok _ =>
      simp only [then_ok, wp_pure, wp_bind]
      refine wp_post (SeenDeleted.kept hr (always_letGo id)) fun r tr₃ hr => ?_
      cases r with
      | error e => trivial
      | ok _ => exact hr

/-- What a removal starts its rounds from. -/
def Begun (id : String) : Except Failure (AbortSignal × WorkspaceExecutionProjection) → LifecycleExchanges → Prop
  | .ok (_, current), tr => StartsFrom current (lefts tr) ∧ (Sound (lefts tr) → Goes id current)
  | .error _, _ => True

theorem beginRemoval_wp (id : String) (tr : LifecycleExchanges) :
    wp (LifecycleIssued l.manager) (beginRemoval l id) (Begun id) tr := by
  have started (signal : AbortSignal) (tr : LifecycleExchanges) : wp (LifecycleIssued l.manager) (do
      let current ← managed (startDeletion l.manager ⟨id, none, some signal⟩)
      pure (signal, current)) (Begun id) tr := by
    rw [wp_bind]
    refine wp_inl (G := Issued l.manager) (Q := fun r tr' => match r with
      | .ok current => StartsFrom current tr' ∧ (Sound tr' → Goes id current)
      | .error _ => True) (fun _ _ h => h) (fun r tr' hr => ?_) ?_
    · cases r with
      | error e => trivial
      | ok current => exact hr
    · refine wp_after (always_await fun _ => trivial) (fun _ _ => trivial) (fun _ tr₁ => ?_) _
      exact beginDeletion_wp _ (fun p tr' hp hnext => ⟨hp, hnext⟩) fun e tr' => trivial
  -- the steps before may fail, and then there is nothing to show
  unfold beginRemoval
  refine wp_after (always_ask _) (fun _ _ => trivial) (fun claimed tr₁ => ?_) tr
  cases claimed with
  | none => trivial
  | some signal =>
    refine wp_guarded (always_ask _) (fun _ _ => trivial) ?_
    refine wp_after (always_throwIfAborted _) (fun _ _ => trivial) (fun _ tr₂ => ?_) _
    refine wp_after (always_ask _) (fun _ _ => trivial) (fun draining tr₃ => ?_) _
    cases draining with
    | true => trivial
    | false =>
      refine wp_after (always_throwIfAborted _) (fun _ _ => trivial) (fun _ tr₄ => ?_) _
      refine wp_after (always_ask _) (fun _ _ => trivial) (fun _ tr₅ => ?_) _
      refine wp_guarded (always_ask _) (fun _ _ => trivial) ?_
      refine wp_after (always_ask _) (fun _ _ => trivial) (fun _ tr₆ => ?_) _
      refine wp_guarded (always_ask _) (fun _ _ => trivial) ?_
      exact wp_after (always_throwIfAborted _) (fun _ _ => trivial) (fun _ tr₇ => started signal tr₇) _

theorem lifecycleBody_wp (c : LifecycleCall) (tr : LifecycleExchanges) (h : Stands tr c) :
    wp (LifecycleIssued l.manager) (c.body l) (Ends (fun c tr => Stands tr c) fun r tr => Vouches tr r) tr := by
  cases c with
  | provisionForUser userId appId startExisting authorize =>
    rw [LifecycleCall.body]
    refine wp_after (always_provisionForUser _ _ _ _) (fun _ _ => ?_) (fun result tr' => ?_) tr <;> trivial
  | remove id actorUserId =>
    rw [LifecycleCall.body, wp_bind]
    refine wp_post (beginRemoval_wp id tr) fun r tr' hr => ?_
    cases r with
    | error e => trivial
    | ok begun => exact hr
  | removing id actorUserId signal current =>
    rw [LifecycleCall.body, wp_bind]
    refine wp_post (removalRound_wp h.1 h.2) fun r tr' hr => ?_
    rcases r with e | current | _
    · trivial
    · exact hr
    · exact hr
  | abort signal reason =>
    rw [LifecycleCall.body]
    have fires : Always (LifecycleIssued l.manager) (managed (Prog.await (Op.abort signal reason))) :=
      always_managed fun _ => (wp_await _ _).2 ⟨trivial, fun _ => trivial⟩
    refine wp_after fires (fun _ _ => ?_) (fun _ tr' => ?_) tr <;> trivial

/-- No thread starts in the middle of a removal. -/
def LifecycleCall.fresh : LifecycleCall → Bool
  | .removing _ _ _ _ => false
  | _ => true

section Runs

variable {w₀ : LifecycleWorld} {calls : ι → LifecycleCall} {sched : List (ι × LifecycleChoice)}
  {c : Config ι (Op ⊕ LifecycleOp) (Answers Op.Answer LifecycleOp.Answer) Failure LifecycleWorld LifecycleCall
    LifecycleReturned}

omit [DecidableEq ι] in
theorem stands_fresh (hcalls : ∀ t, (calls t).fresh = true) (t : ι) : Stands [] (calls t) := by
  have ht := hcalls t
  cases hc : calls t with
  | removing => rw [hc] at ht; cases ht
  | _ => trivial

/-- What the lifecycle does with the manager is a history of the manager. -/
theorem managerHistory (hcalls : ∀ t, (calls t).fresh = true)
    (hrun : exec (lifecycleSystem l) (start (lifecycleSystem l) w₀ calls) sched = some c) :
    History l.manager w₀.base (leftEvents LifecycleWorld.base c.events) c.world.base := by
  have hlegal : Legal (lifecycleSystem l) (fun _ => LifecycleIssued l.manager) w₀ c.events c.world :=
    (lawful_of_exec (Q := fun _ => Ends (fun c tr => Stands tr c) fun r tr => Vouches tr r)
      (stands_fresh hcalls) (fun _ c tr h => lifecycleBody_wp c tr h) hrun).legal
  exact hlegal.left (lifecycle_layered l) fun _ _ _ h => h

end Runs

/-! ## What the store says of its rows is true -/

theorem sound_of_history {w₀ w : World} {es : List (Event ι Op Op.Answer Failure World)} (h : History m w₀ es w)
    (t : ι) : Sound (traceOf t es) := by
  intro x hx
  obtain ⟨w₁, choice, w₂, hp⟩ := h.performed hx
  obtain ⟨o, r⟩ := x
  cases o with
  | getWorkspaceExecutionProjection caller id =>
    rcases r with e | (_ | p)
    · trivial
    · trivial
    · obtain ⟨hget, _⟩ := World.perform_get hp
      exact ⟨get_id hget, w₁.store.projectable _ _ hget⟩
  | compareAndSaveWorkspaceExecution caller next rev =>
    rcases r with e | (_ | q)
    · trivial
    · trivial
    · obtain ⟨stored, hsaves⟩ := World.perform_save hp
      change q.workspace = next.workspace
      rw [hsaves.result]
      rfl
  | _ => trivial

/-- A Workspace that a thread has seen deleted had its environment removed. -/
theorem removed_of_seen {w₀ w : World} {es : List (Event ι Op Op.Answer Failure World)} (h : History m w₀ es w)
    {id : String} (h₀ : ∀ p, w₀.store.get id = some p → p.workspace.status = .active) {t : ι}
    (hseen : SeenDeleted id (traceOf t es)) : ∃ e ∈ es, removedEnvironment id e := by
  obtain ⟨p, hp, rfl, hdeleted⟩ := hseen (sound_of_history h t)
  obtain ⟨later, e, earlier, rfl, _, hstored, _⟩ := seen_stored h hp
  have hphase := ((e.after.store.projectable _ _ hstored).deleted_iff).1 hdeleted
  obtain ⟨e', he', hremoved⟩ := (earned_of_history h.upTo h₀ p hstored).removed (by rw [hphase]; rfl)
  exact ⟨e', List.mem_append_right _ he', hremoved⟩

/-! ## What stays away -/

omit [DecidableEq ι] in
/-- A removal that comes back leaves no environment. -/
theorem gone_of_removed {w w' : World} {o : Op} {x : Choice} {r : Except Failure o.Answer} {id : String} {t : ι}
    (hp : w.perform o x = some (r, w'))
    (hr : removedEnvironment id (⟨⟨o, r⟩, t, w, w'⟩ : Event ι Op Op.Answer Failure World)) : id ∉ w'.environments := by
  obtain ⟨request, hex, rfl⟩ := hr
  obtain ⟨rfl, hr⟩ := Exchange.mk.inj hex
  obtain rfl := eq_of_heq hr
  cases x <;> simp only [World.perform] at hp
  case go =>
    obtain ⟨_, rfl⟩ := Prod.mk.inj (Option.some.inj hp)
    exact Finset.notMem_erase _ _
  case fails => cases hp
  all_goals cases hp

/-- Once it was removed, the environment is away as long as no reconcile comes late. -/
theorem stays_away {w₀ w : World} {es : List (Event ι Op Op.Answer Failure World)} (h : History m w₀ es w)
    {id : String} (hlate : Every (fun es e => ¬ lateReconcile id es e) es)
    (hremoved : ∃ e ∈ es, removedEnvironment id e) : id ∉ w.environments := by
  induction h with
  | start => obtain ⟨_, he, _⟩ := hremoved; cases he
  | @record es w w' t o x r h hp _ ih =>
    obtain ⟨e, he, hr⟩ := hremoved
    rcases List.mem_cons.1 he with rfl | hearlier
    · exact gone_of_removed hp hr
    · intro hid
      rcases World.perform_environment hp hid with hbefore | ⟨request, rfl, rfl⟩
      · exact ih hlate.2 ⟨e, hearlier, hr⟩ hbefore
      · exact hlate.1 ⟨decide_eq_true rfl, ⟨e, hearlier, hr⟩, hid⟩

namespace Sample

def lifecycle : InstanceLifecycle where
  manager := manager
  quotaAdmission := false

def lifecycleWorld : LifecycleWorld where
  base := world []
  held := ∅

def policy : ProvisioningPolicy where
  maxTotalInstances := 10
  maxRunningInstances := 10
  resources := { memory := "1g", cpus := "1", pidsLimit := 100 }
  environment := []
  configFiles := []

def launchTarget : AppLaunchTarget where
  app :=
    { id := "app", name := "App", description := "", authAdapterId := "none", status := .active, createdAt := time,
      updatedAt := time }
  version :=
    { sourceKind := some .image, id := "v1", appId := "app", revision := some 1, version := "1", buildId := "1",
      packages := [], imageArtifactId := none, imageReference := some "image:1", runtimeContract := none,
      status := .active, createdAt := time, activatedAt := some time }
  imageReference := "image:1"

/-- A user's first provision, and the removal of what it provisions. -/
def provisionAndRemove : Bool → LifecycleCall
  | true => .provisionForUser "user" "app" false true
  | false => .remove "ws" none

def managing (choices : List Choice) : List LifecycleChoice :=
  choices.map .manager

/-- A provision up to where it waits for the provider. -/
def provisioning : List LifecycleChoice :=
  [.go, .go, .go, .go, .go, .go, .go, .policy policy, .target launchTarget, .go, .manager (.text "ws"), .text "docker",
    .manager (.text time), .manager .go, .go] ++ managing toProvider

/-- The provider's report, and what becomes of it. -/
def provisioned : List LifecycleChoice :=
  managing (committing .applied (execution "v1" "image:1" .running)) ++
    [.go, .flag true, .manager (.text time), .manager .go, .go, .go]

/-- A removal, from its locks to its return. -/
def removal : List LifecycleChoice :=
  [.lease 7, .manager .go, .flag false, .manager .go, .go, .go, .manager .go] ++
    managing (beginning ++ draining ++ removing ++ verifying ++ releasing ++ finalizing) ++ [.go, .go, .go, .go, .go]

/-- The provider reports to a provision whose Workspace is deleted. -/
def tooLate : List LifecycleChoice :=
  managing [.reports .applied (execution "v1" "image:1" .running), .go, .go, .go, .text time, .go] ++ [.go]

def removedId : LifecycleTask (LifecycleCall ⊕ LifecycleReturned) → Option String
  | .done (.inr (.removed id)) => some id
  | _ => none

def lifecycleThread (t : Bool) (choices : List LifecycleChoice) : List (Bool × LifecycleChoice) :=
  choices.map fun x => (t, x)

theorem of_removedId {p : LifecycleTask (LifecycleCall ⊕ LifecycleReturned)} {id : String}
    (h : removedId p = some id) : p = .done (.inr (.removed id)) := by
  unfold removedId at h
  split at h
  · obtain rfl := Option.some.inj h
    rfl
  · cases h

end Sample

end OpenApp
