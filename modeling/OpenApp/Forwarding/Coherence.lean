import OpenApp.Forwarding.Manager

/-!
# Coherence of the policy caches

A `get` reads the revision before and after the policy, so what it caches is the policy of the revision
it caches with it. An update caches its policy first and reads the revision afterwards: when another
update comes in between, it pairs its own policy with the revision of the other one. While no upsert
falls between the upsert of an update and its reading of the revision, a cache whose revision is the
one of the store holds the policy in force.
-/

namespace OpenApp.Forwarding

/-- A cache whose revision is the one of the store holds the policy in force, or has loaded nothing. -/
def Coherent (settings : Settings) (store : Store) (m : Manager) : Prop :=
  m.revision = store.revision →
    m.current = some (store.inForce settings) ∨ (m.current = none ∧ m.revision = none)

/-- An update that has its upsert behind it and has not read the revision yet. -/
def Progress.unread : Progress → Bool
  | .upserted _ => true
  | .checking => true
  | _ => false

/-- The step is an upsert that goes through. -/
def upserts {μ ι : Type} (s : State μ ι) (label : ι × Choice) : Bool :=
  match (s.tasks label.1).progress with
  | .upserting next =>
    !label.2.fails &&
      (s.store.upsertForwardingPolicy next (expectedRevision (s.tasks label.1).call) label.2.updatedAt).isOk
  | _ => false

/-- No upsert is made while another update has not read the revision of its own. -/
def Uninterrupted {μ ι : Type} (s : State μ ι) (label : ι × Choice) : Prop :=
  upserts s label = true → ∀ t ≠ label.1, (s.tasks t).progress.unread = false

/-! ## The invariant -/

/-- The order of the revisions of the store: first there is none. -/
def rank : Option Nat → Nat
  | none => 0
  | some n => n + 1

theorem rank_inj {a b : Option Nat} (h : rank a = rank b) : a = b := by
  rcases a with _ | a <;> rcases b with _ | b <;> simp only [rank] at h
  · rfl
  · omega
  · omega
  · rw [Nat.add_right_cancel h]

variable (settings : Settings) (store : Store)

/-- A read of the list between two reads of the revision. -/
def Bracketed (revisionBefore : Option Nat) (stored : Option ForwardingPolicy) : Prop :=
  revisionBefore = store.revision → stored = store.policy

/-- What the variables of a task have to do with the store and its manager. -/
def Fits (m : Manager) : Progress → Prop
  | .readingRevision frame => frame.generation ≤ m.cacheGeneration
  | .readRevision frame revisionBefore =>
    frame.generation ≤ m.cacheGeneration ∧ rank revisionBefore ≤ rank store.revision
  | .listing frame => frame.generation ≤ m.cacheGeneration ∧ rank frame.revisionBefore ≤ rank store.revision
  | .listed frame stored =>
    frame.generation ≤ m.cacheGeneration ∧ rank frame.revisionBefore ≤ rank store.revision ∧
      Bracketed store frame.revisionBefore stored
  | .rereading frame stored =>
    frame.generation ≤ m.cacheGeneration ∧ rank frame.revisionBefore ≤ rank store.revision ∧
      Bracketed store frame.revisionBefore stored
  | .reread frame stored revisionAfter =>
    frame.generation ≤ m.cacheGeneration ∧ rank frame.revisionBefore ≤ rank revisionAfter ∧
      rank revisionAfter ≤ rank store.revision ∧ Bracketed store frame.revisionBefore stored
  | .upserted updated => store.inForce settings = updated
  | .checking => m.current = some (store.inForce settings)
  | .checked revision =>
    rank revision ≤ rank store.revision ∧ m.current ≠ none ∧
      (revision = store.revision → m.current = some (store.inForce settings))
  | _ => True

/-- The revision a task is about to cache. -/
def Progress.storing : Progress → Option (Option Nat)
  | .checking => some store.revision
  | .checked revision => some revision
  | _ => none

/-- The generation and the revision a `get` found before its loop, or a turn of it. -/
def Progress.found : Progress → Option (Nat × Option Nat)
  | .readRevision frame revisionBefore => some (frame.generation, revisionBefore)
  | .listing frame => some (frame.generation, frame.revisionBefore)
  | .listed frame _ => some (frame.generation, frame.revisionBefore)
  | .rereading frame _ => some (frame.generation, frame.revisionBefore)
  | .reread frame _ _ => some (frame.generation, frame.revisionBefore)
  | _ => none

/-- A `get` that may still install what it reads began after the update installed its policy. -/
def Meets (m : Manager) (p p' : Progress) : Prop :=
  ∀ revision ∈ p.storing store, ∀ found ∈ p'.found, found.1 = m.cacheGeneration → rank revision ≤ rank found.2

structure ManagerFits (m : Manager) : Prop where
  rank : rank m.revision ≤ rank store.revision
  coherent : Coherent settings store m

variable {μ ι : Type}

structure Inv (s : State μ ι) : Prop where
  managers : ∀ i, ManagerFits settings s.store (s.managers i)
  tasks : ∀ t, Fits settings s.store (s.manager t) (s.tasks t).progress
  meets : ∀ t t', (s.tasks t).manager = (s.tasks t').manager →
    Meets s.store (s.manager t) (s.tasks t).progress (s.tasks t').progress
  alone : ∀ t t', (s.tasks t).progress.unread = true → (s.tasks t').progress.unread = true → t = t'

variable {settings} {store} {m m' : Manager} {p p' : Progress}

theorem Fits.congr (h : Fits settings store m p) (hc : m'.current = m.current)
    (hg : m'.cacheGeneration = m.cacheGeneration) : Fits settings store m' p := by
  unfold Fits at h ⊢
  rw [hc, hg]
  exact h

theorem Meets.congr (h : Meets store m p p') (hg : m'.cacheGeneration = m.cacheGeneration) : Meets store m' p p' := by
  unfold Meets at h ⊢
  rw [hg]
  exact h

theorem Fits.storing_le (h : Fits settings store m p) : ∀ r ∈ p.storing store, rank r ≤ rank store.revision := by
  intro r hr
  cases p <;> simp only [Progress.storing, Option.mem_def, Option.some.injEq, reduceCtorEq] at hr
  case checking =>
    subst hr
    exact Nat.le_refl _
  case checked revision =>
    subst hr
    exact h.1

theorem Fits.found_le (h : Fits settings store m p) : ∀ f ∈ p.found, f.1 ≤ m.cacheGeneration := by
  intro f hf
  cases p <;> simp only [Progress.found, Option.mem_def, Option.some.injEq, reduceCtorEq] at hf
  all_goals
    subst hf
    exact h.1

/-- No task both reads for a `get` and has a revision to cache. -/
theorem meets_self : Meets store m p p := by
  intro r hr f hf
  cases p <;> simp only [Progress.storing, Progress.found, Option.mem_def, reduceCtorEq] at hr hf

/-! ## What a step keeps -/

section Steps

variable [DecidableEq μ] [DecidableEq ι] {s s' : State μ ι} {t : ι}

omit [DecidableEq μ] in
@[simp] theorem progress_store (p : Progress) : (s.progress t p).store = s.store := rfl

@[simp] theorem leave_store (r : Progress × Manager) : (s.leave t r).store = s.store := rfl

@[simp] theorem leave_task_manager (r : Progress × Manager) (t' : ι) :
    ((s.leave t r).tasks t').manager = (s.tasks t').manager := by
  by_cases h : t' = t
  · subst h
    simp [State.leave, State.progress]
  · simp [State.leave, State.progress, h]

@[simp] theorem leave_progress_self (r : Progress × Manager) : ((s.leave t r).tasks t).progress = r.1 := by
  simp [State.leave, State.progress]

theorem leave_progress_of_ne (r : Progress × Manager) {t' : ι} (h : t' ≠ t) :
    ((s.leave t r).tasks t').progress = (s.tasks t').progress := by
  simp [State.leave, State.progress, h]

theorem leave_manager_same (r : Progress × Manager) {t' : ι} (h : (s.tasks t').manager = (s.tasks t).manager) :
    (s.leave t r).manager t' = r.2 := by
  unfold State.manager
  rw [leave_task_manager, h]
  simp [State.leave]

theorem leave_manager_of_ne (r : Progress × Manager) {t' : ι} (h : (s.tasks t').manager ≠ (s.tasks t).manager) :
    (s.leave t r).manager t' = s.manager t' := by
  unfold State.manager
  rw [leave_task_manager]
  simp [State.leave, h]

theorem progress_eq_leave (p : Progress) : s.progress t p = s.leave t (p, s.manager t) := by
  simp [State.leave, State.manager, State.progress]

/-- A task goes on and leaves its manager otherwise. -/
theorem Inv.leave (h : Inv settings s) (hm : ManagerFits settings s.store m') (hp : Fits settings s.store m' p')
    (hothers : ∀ t' ≠ t, (s.tasks t').manager = (s.tasks t).manager →
      Fits settings s.store m' (s.tasks t').progress ∧ Meets s.store m' p' (s.tasks t').progress ∧
        Meets s.store m' (s.tasks t').progress p')
    (hmeets : ∀ t' ≠ t, ∀ t'' ≠ t, (s.tasks t').manager = (s.tasks t).manager →
      (s.tasks t'').manager = (s.tasks t).manager →
        Meets s.store m' (s.tasks t').progress (s.tasks t'').progress)
    (halone : p'.unread = true → (s.tasks t).progress.unread = true) : Inv settings (s.leave t (p', m')) where
  managers i := by
    by_cases hi : i = (s.tasks t).manager
    · subst hi
      simpa [State.leave] using hm
    · simpa [State.leave, hi] using h.managers i
  tasks t' := by
    by_cases ht : t' = t
    · subst ht
      rw [leave_progress_self, leave_manager_same _ rfl]
      exact hp
    · rw [leave_progress_of_ne _ ht]
      by_cases hi : (s.tasks t').manager = (s.tasks t).manager
      · rw [leave_manager_same _ hi]
        exact (hothers t' ht hi).1
      · rw [leave_manager_of_ne _ hi]
        exact h.tasks t'
  meets t' t'' hsame := by
    rw [leave_task_manager, leave_task_manager] at hsame
    by_cases hi : (s.tasks t').manager = (s.tasks t).manager
    · rw [leave_manager_same _ hi]
      have hi' := hsame.symm.trans hi
      by_cases ht : t' = t
      · by_cases ht' : t'' = t
        · rw [ht, ht']
          exact meets_self
        · rw [ht, leave_progress_self, leave_progress_of_ne _ ht']
          exact (hothers t'' ht' hi').2.1
      · rw [leave_progress_of_ne _ ht]
        by_cases ht' : t'' = t
        · rw [ht', leave_progress_self]
          exact (hothers t' ht hi).2.2
        · rw [leave_progress_of_ne _ ht']
          exact hmeets t' ht t'' ht' hi hi'
    · rw [leave_manager_of_ne _ hi]
      have ht : t' ≠ t := fun e => hi (e ▸ rfl)
      have ht' : t'' ≠ t := fun e => hi (hsame.trans (e ▸ rfl))
      rw [leave_progress_of_ne _ ht, leave_progress_of_ne _ ht']
      exact h.meets t' t'' hsame
  alone t' t'' hu hu' := by
    by_cases ht : t' = t
    · by_cases ht' : t'' = t
      · rw [ht, ht']
      · rw [ht, leave_progress_self] at hu
        rw [leave_progress_of_ne _ ht'] at hu'
        rw [ht]
        exact h.alone t t'' (halone hu) hu'
    · rw [leave_progress_of_ne _ ht] at hu
      by_cases ht' : t'' = t
      · rw [ht', leave_progress_self] at hu'
        rw [ht']
        exact h.alone t' t hu (halone hu')
      · rw [leave_progress_of_ne _ ht'] at hu'
        exact h.alone t' t'' hu hu'

/-- A task goes on, and of its manager at most the revision and the time change: what it has found is
what it had found, or newer. -/
theorem Inv.goOn (h : Inv settings s) (hm : ManagerFits settings s.store m')
    (hc : m'.current = (s.manager t).current) (hg : m'.cacheGeneration = (s.manager t).cacheGeneration)
    (hp : Fits settings s.store (s.manager t) p')
    (hfound : ∀ f ∈ p'.found, f.2 = s.store.revision ∨
      ∃ f₀ ∈ (s.tasks t).progress.found, f₀.1 = f.1 ∧ rank f₀.2 ≤ rank f.2)
    (hstoring : ∀ r ∈ p'.storing s.store, r ∈ (s.tasks t).progress.storing s.store)
    (halone : p'.unread = true → (s.tasks t).progress.unread = true) : Inv settings (s.leave t (p', m')) := by
  refine h.leave hm (hp.congr hc hg) ?_ ?_ halone
  · intro t' ht hi
    have hmanager : s.manager t' = s.manager t := by
      unfold State.manager
      rw [hi]
    refine ⟨(hmanager ▸ h.tasks t').congr hc hg, Meets.congr ?_ hg, Meets.congr ?_ hg⟩
    · intro r hr f hf
      exact h.meets t t' hi.symm r (hstoring r hr) f hf
    · intro r hr f hf hgen
      rcases hfound f hf with hnew | ⟨f₀, hf₀, hgen₀, hle⟩
      · rw [hnew]
        exact (h.tasks t').storing_le r hr
      · have := h.meets t' t hi r hr f₀ hf₀ (by rw [hgen₀, hmanager, hgen])
        omega
  · intro t' _ t'' _ hi hi'
    have hmanager : s.manager t' = s.manager t := by
      unfold State.manager
      rw [hi]
    exact (hmanager ▸ h.meets t' t'' (hi.trans hi'.symm)).congr hg

/-- A step that leaves the manager alone. -/
theorem Inv.stay (h : Inv settings s) (hp : Fits settings s.store (s.manager t) p')
    (hfound : ∀ f ∈ p'.found, f.2 = s.store.revision ∨
      ∃ f₀ ∈ (s.tasks t).progress.found, f₀.1 = f.1 ∧ rank f₀.2 ≤ rank f.2)
    (hstoring : ∀ r ∈ p'.storing s.store, r ∈ (s.tasks t).progress.storing s.store)
    (halone : p'.unread = true → (s.tasks t).progress.unread = true) : Inv settings (s.progress t p') := by
  rw [progress_eq_leave]
  exact h.goOn (h.managers _) rfl rfl hp hfound hstoring halone

/-- A task that neither reads nor stores a revision asks nothing of the others. -/
structure Plain (settings : Settings) (store : Store) (m : Manager) (p : Progress) : Prop where
  fits : Fits settings store m p
  found : p.found = none
  storing : p.storing store = none
  unread : p.unread = false

theorem getReturns_plain (call : Call) (policy : ForwardingPolicy) :
    Plain settings store m (getReturns call policy) := by
  cases call <;> exact ⟨trivial, rfl, rfl, rfl⟩

theorem thrown_plain (e : ForwardingError) : Plain settings store m (.thrown e) :=
  ⟨trivial, rfl, rfl, rfl⟩

theorem Inv.plain (h : Inv settings s) (hm : ManagerFits settings s.store m')
    (hc : m'.current = (s.manager t).current) (hg : m'.cacheGeneration = (s.manager t).cacheGeneration)
    (hp : Plain settings s.store (s.manager t) p') : Inv settings (s.leave t (p', m')) := by
  refine h.goOn hm hc hg hp.fits ?_ ?_ ?_
  · rw [hp.found]
    exact nofun
  · rw [hp.storing]
    exact nofun
  · rw [hp.unread]
    exact nofun

theorem Inv.stayPlain (h : Inv settings s) (hp : Plain settings s.store (s.manager t) p') :
    Inv settings (s.progress t p') := by
  rw [progress_eq_leave]
  exact h.plain (h.managers _) rfl rfl hp

/-- The time of the load has nothing to do with the revision. -/
theorem ManagerFits.loaded (h : ManagerFits settings store m) (loadedAt : Option Nat) :
    ManagerFits settings store { m with loadedAt := loadedAt } :=
  ⟨h.rank, h.coherent⟩

theorem begin_inv (h : Inv settings s) (now : Nat) :
    Inv settings (s.leave t (begin settings (s.manager t) (s.tasks t).call now)) := by
  have hm := h.managers (s.tasks t).manager
  have hread : Inv settings (s.leave t
      (.readingRevision { now := now, generation := (s.manager t).cacheGeneration }, s.manager t)) :=
    h.goOn hm rfl rfl (Nat.le_refl _) nofun nofun nofun
  unfold begin
  split
  · exact h.plain (hm.loaded none) rfl rfl ⟨trivial, rfl, rfl, rfl⟩
  · split
    · split
      · exact h.plain hm rfl rfl (getReturns_plain _ _)
      · exact hread
    · exact hread

theorem afterRevision_inv (h : Inv settings s) {frame : GetFrame} {revisionBefore : Option Nat}
    (hp : (s.tasks t).progress = .readRevision frame revisionBefore) :
    Inv settings (s.leave t (afterRevision (s.manager t) (s.tasks t).call frame revisionBefore)) := by
  have hm := h.managers (s.tasks t).manager
  have hfits := h.tasks t
  rw [hp] at hfits
  have hlist : Inv settings (s.leave t
      (.listing { frame with revisionBefore := revisionBefore, turns := 5 }, s.manager t)) := by
    refine h.goOn hm rfl rfl hfits ?_ nofun nofun
    rintro f ⟨⟩
    exact .inr ⟨(frame.generation, revisionBefore), by rw [hp]; rfl, rfl, Nat.le_refl _⟩
  unfold afterRevision
  split
  · exact hlist
  · split
    · exact h.plain hm rfl rfl (getReturns_plain _ _)
    · split
      · exact h.plain (hm.loaded _) rfl rfl (getReturns_plain _ _)
      · exact hlist

theorem afterList_inv (h : Inv settings s) {frame : LoopFrame} {stored : Option ForwardingPolicy}
    (hp : (s.tasks t).progress = .listed frame stored) :
    Inv settings (s.progress t (afterList settings (s.manager t) (s.tasks t).call frame stored)) := by
  have hfits := h.tasks t
  rw [hp] at hfits
  have hreread : Inv settings (s.progress t (.rereading frame stored)) := by
    refine h.stay hfits ?_ nofun nofun
    rintro f ⟨⟩
    exact .inr ⟨(frame.generation, frame.revisionBefore), by rw [hp]; rfl, rfl, Nat.le_refl _⟩
  unfold afterList
  split
  · exact h.stayPlain (getReturns_plain _ _)
  · split
    · exact hreread
    · split
      · exact h.stayPlain (thrown_plain _)
      · exact hreread

/-- A `get` installs what it read between two equal revisions. If the revision is still the one of the
store, that is the policy in force; if not, no task of this generation is about to cache the later one. -/
theorem install_inv (h : Inv settings s) {frame : LoopFrame} {stored : Option ForwardingPolicy}
    (hp : (s.tasks t).progress = .reread frame stored frame.revisionBefore)
    (hcurrent : overtaken (s.manager t) frame.toGetFrame = none) :
    Inv settings (s.leave t (getReturns (s.tasks t).call (stored.getD (defaultPolicy settings)),
      { s.manager t with
        current := some (stored.getD (defaultPolicy settings))
        loadedAt := some frame.now
        revision := frame.revisionBefore })) := by
  have hfits := h.tasks t
  rw [hp] at hfits
  obtain ⟨_, _, hrank, hbracketed⟩ := hfits
  have hforce : frame.revisionBefore = s.store.revision →
      stored.getD (defaultPolicy settings) = s.store.inForce settings := by
    intro hrevision
    rw [hbracketed hrevision]
    rfl
  -- a revision another task of the manager is about to cache is no later than the one read
  have hother : ∀ t' ≠ t, (s.tasks t').manager = (s.tasks t).manager → (s.manager t).current ≠ none →
      ∀ r ∈ (s.tasks t').progress.storing s.store, rank r ≤ rank frame.revisionBefore := by
    intro t' _ hi hsome r hr
    have hgeneration : frame.generation = (s.manager t).cacheGeneration := by
      by_contra hne
      unfold overtaken at hcurrent
      rw [if_pos hne] at hcurrent
      exact hsome hcurrent
    have hmanager : s.manager t' = s.manager t := by
      unfold State.manager
      rw [hi]
    exact h.meets t' t hi r hr (frame.generation, frame.revisionBefore) (by rw [hp]; rfl) (by rw [hmanager, hgeneration])
  have hplain : ∀ call policy, Plain settings s.store (s.manager t) (getReturns call policy) :=
    fun call policy => getReturns_plain call policy
  refine h.leave ⟨hrank, fun hrevision => .inl (congrArg some (hforce hrevision))⟩ (getReturns_plain _ _).fits ?_ ?_ ?_
  · intro t' ht hi
    have hmanager : s.manager t' = s.manager t := by
      unfold State.manager
      rw [hi]
    refine ⟨?_, ?_, ?_⟩
    · have hfits' := hmanager ▸ h.tasks t'
      have hother' := hother t' ht hi
      cases hp' : (s.tasks t').progress <;> rw [hp'] at hfits' hother' <;> try exact hfits'
      case checking =>
        have hle := hother' (by rw [hfits']; exact nofun) _ rfl
        exact congrArg some (hforce (rank_inj (Nat.le_antisymm hrank hle)))
      case checked revision =>
        obtain ⟨hle', hsome, _⟩ := hfits'
        refine ⟨hle', nofun, fun hrevision => ?_⟩
        have hle := hother' hsome _ rfl
        rw [hrevision] at hle
        exact congrArg some (hforce (rank_inj (Nat.le_antisymm hrank hle)))
    · intro r hr
      rw [(hplain _ _).storing] at hr
      cases hr
    · intro r _ f hf
      rw [(hplain _ _).found] at hf
      cases hf
  · intro t' _ t'' _ hi hi'
    have hmanager : s.manager t' = s.manager t := by
      unfold State.manager
      rw [hi]
    exact (hmanager ▸ h.meets t' t'' (hi.trans hi'.symm)).congr rfl
  · rw [(hplain _ _).unread]
    exact nofun

theorem afterReread_inv (h : Inv settings s) {frame : LoopFrame} {stored : Option ForwardingPolicy}
    {revisionAfter : Option Nat} (hp : (s.tasks t).progress = .reread frame stored revisionAfter) :
    Inv settings (s.leave t (afterReread settings (s.manager t) (s.tasks t).call frame stored revisionAfter)) := by
  have hm := h.managers (s.tasks t).manager
  have hfits := h.tasks t
  rw [hp] at hfits
  unfold afterReread
  split
  · exact h.plain hm rfl rfl (getReturns_plain _ _)
  · next hcurrent =>
    split
    · split
      · exact h.plain hm rfl rfl (thrown_plain _)
      · refine h.goOn hm rfl rfl ⟨hfits.1, hfits.2.2.1⟩ ?_ nofun nofun
        rintro f ⟨⟩
        exact .inr ⟨(frame.generation, frame.revisionBefore), by rw [hp]; rfl, rfl, hfits.2.1⟩
    · next hsame =>
      obtain rfl := not_not.1 hsame
      exact install_inv h hp hcurrent

/-- An update installs its policy, and no `get` that began before will install another one. -/
theorem afterUpsert_inv (h : Inv settings s) {updated : ForwardingPolicy} (now : Nat)
    (hp : (s.tasks t).progress = .upserted updated) :
    Inv settings (s.leave t (.checking, afterUpsert (s.manager t) updated now)) := by
  have hforce := h.tasks t
  rw [hp] at hforce
  have hm := h.managers (s.tasks t).manager
  have hunread : (s.tasks t).progress.unread = true := by
    rw [hp]
    rfl
  have hvacuous : ∀ t', (s.tasks t').manager = (s.tasks t).manager → ∀ p,
      Meets s.store (afterUpsert (s.manager t) updated now) p (s.tasks t').progress := by
    intro t' hi p r _ f hf hgen
    have hle := (h.tasks t').found_le f hf
    have hmanager : s.manager t' = s.manager t := by
      unfold State.manager
      rw [hi]
    rw [hmanager] at hle
    change f.1 = (s.manager t).cacheGeneration + 1 at hgen
    omega
  refine h.leave ⟨hm.rank, fun _ => .inl (congrArg some hforce.symm)⟩ (congrArg some hforce.symm) ?_ ?_ fun _ => hunread
  · intro t' ht hi
    have hmanager : s.manager t' = s.manager t := by
      unfold State.manager
      rw [hi]
    refine ⟨?_, hvacuous t' hi _, nofun⟩
    have hfits' := hmanager ▸ h.tasks t'
    cases hp' : (s.tasks t').progress <;> rw [hp'] at hfits' <;> try exact hfits'
    case checking => exact absurd (h.alone t' t (by rw [hp']; rfl) hunread) ht
    case checked revision => exact ⟨hfits'.1, nofun, fun _ => congrArg some hforce.symm⟩
    case readingRevision => exact Nat.le_succ_of_le hfits'
    all_goals exact ⟨Nat.le_succ_of_le hfits'.1, hfits'.2⟩
  · exact fun t' _ t'' _ _ hi' => hvacuous t'' hi' _

theorem upsert_ok {next updated : ForwardingPolicy} {expected : Option Nat} {updatedAt : String} {store' : Store}
    (h : store.upsertForwardingPolicy next expected updatedAt = .ok (updated, store')) :
    store'.policy = some updated ∧ rank store.revision < rank store'.revision := by
  unfold Store.upsertForwardingPolicy at h
  split at h
  · cases h
  · cases h
    refine ⟨rfl, ?_⟩
    cases store.revision <;> simp [rank]

omit [DecidableEq μ] in
/-- The revision goes up, and what tasks and caches found is of an earlier one. -/
theorem upsert_inv (h : Inv settings s) {next updated : ForwardingPolicy} {expected : Option Nat} {updatedAt : String}
    {store' : Store} (hp : (s.tasks t).progress = .upserting next)
    (hu : ∀ t' ≠ t, (s.tasks t').progress.unread = false)
    (hok : s.store.upsertForwardingPolicy next expected updatedAt = .ok (updated, store')) :
    Inv settings { s.progress t (.upserted updated) with store := store' } := by
  obtain ⟨hpolicy, hlt⟩ := upsert_ok hok
  have hforce : store'.inForce settings = updated := by
    unfold Store.inForce
    rw [hpolicy]
    rfl
  have hold : ∀ b : Option Nat, rank b ≤ rank s.store.revision → b ≠ store'.revision := by
    rintro b hle rfl
    omega
  have hprogress : ∀ t', t' ≠ t → ((s.progress t (.upserted updated)).tasks t') = s.tasks t' := by
    intro t' ht
    simp [State.progress, ht]
  have hself : (s.progress t (.upserted updated)).tasks t = { s.tasks t with progress := .upserted updated } := by
    simp [State.progress]
  refine ⟨?_, ?_, ?_, ?_⟩
  · intro i
    have hm := h.managers i
    have hrank := hm.rank
    have hrank' : rank (s.managers i).revision ≤ rank store'.revision := by omega
    exact ⟨hrank', fun hrevision => absurd hrevision (hold _ hrank)⟩
  · intro t'
    by_cases ht : t' = t
    · subst ht
      change Fits settings store' _ ((s.progress t' (.upserted updated)).tasks t').progress
      rw [hself]
      exact hforce
    · have hfits := h.tasks t'
      have hread := hu t' ht
      change Fits settings store' (s.managers ((s.progress t (.upserted updated)).tasks t').manager)
        ((s.progress t (.upserted updated)).tasks t').progress
      rw [hprogress t' ht]
      change Fits settings store' (s.manager t') _
      cases hp' : (s.tasks t').progress <;> rw [hp'] at hfits hread <;> try exact hfits
      case upserted => cases hread
      case checking => cases hread
      case checked revision =>
        exact ⟨by have := hfits.1; omega, hfits.2.1, fun hrevision => absurd hrevision (hold _ hfits.1)⟩
      case readRevision => exact ⟨hfits.1, by have := hfits.2; omega⟩
      case listing => exact ⟨hfits.1, by have := hfits.2; omega⟩
      case listed => exact ⟨hfits.1, by have := hfits.2.1; omega, fun hb => absurd hb (hold _ hfits.2.1)⟩
      case rereading => exact ⟨hfits.1, by have := hfits.2.1; omega, fun hb => absurd hb (hold _ hfits.2.1)⟩
      case reread =>
        exact ⟨hfits.1, hfits.2.1, by have := hfits.2.2.1; omega,
          fun hb => absurd hb (hold _ (Nat.le_trans hfits.2.1 hfits.2.2.1))⟩
  · intro t' t'' hsame r hr f hf
    by_cases ht : t' = t
    · subst ht
      change r ∈ ((s.progress t' (.upserted updated)).tasks t').progress.storing store' at hr
      rw [hself] at hr
      cases hr
    · change r ∈ ((s.progress t (.upserted updated)).tasks t').progress.storing store' at hr
      change f ∈ ((s.progress t (.upserted updated)).tasks t'').progress.found at hf
      change ((s.progress t (.upserted updated)).tasks t').manager =
        ((s.progress t (.upserted updated)).tasks t'').manager at hsame
      change f.1 = (s.managers ((s.progress t (.upserted updated)).tasks t').manager).cacheGeneration → _
      rw [hprogress t' ht] at hr hsame ⊢
      by_cases ht' : t'' = t
      · subst ht'
        rw [hself] at hf
        cases hf
      · rw [hprogress t'' ht'] at hf hsame
        -- only a task that has read its revision still has one to cache
        have hread := hu t' ht
        have hr' : r ∈ (s.tasks t').progress.storing s.store := by
          cases hp' : (s.tasks t').progress <;> rw [hp'] at hr hread <;> first | exact hr | cases hread
        exact h.meets t' t'' hsame r hr' f hf
  · intro t' t'' hun hun'
    have hself' : ∀ t', ((s.progress t (.upserted updated)).tasks t').progress.unread = true → t' = t := by
      intro t' hun
      by_contra ht
      rw [hprogress t' ht, hu t' ht] at hun
      cases hun
    rw [hself' t' hun, hself' t'' hun']

theorem step_inv (h : Inv settings s) {label : ι × Choice} (hu : Uninterrupted s label)
    (hs : step settings s label = some s') : Inv settings s' := by
  obtain ⟨t, x⟩ := label
  have hm := h.managers (s.tasks t).manager
  have hfits := h.tasks t
  cases hp : (s.tasks t).progress <;> rw [hp] at hfits <;> simp only [step, hp, Option.some.injEq, reduceCtorEq] at hs
  case called =>
    subst hs
    exact begin_inv h x.now
  case readingRevision frame =>
    subst hs
    split
    · exact h.stayPlain (thrown_plain _)
    · refine h.stay ⟨hfits, Nat.le_refl _⟩ ?_ nofun nofun
      rintro f ⟨⟩
      exact .inl rfl
  case readRevision frame revisionBefore =>
    subst hs
    exact afterRevision_inv h hp
  case listing frame =>
    subst hs
    split
    · exact h.stayPlain (thrown_plain _)
    · refine h.stay ⟨hfits.1, hfits.2, fun _ => rfl⟩ ?_ nofun nofun
      rintro f ⟨⟩
      exact .inr ⟨(frame.generation, frame.revisionBefore), by rw [hp]; rfl, rfl, Nat.le_refl _⟩
  case listed frame stored =>
    subst hs
    exact afterList_inv h hp
  case rereading frame stored =>
    subst hs
    split
    · exact h.stayPlain (thrown_plain _)
    · refine h.stay ⟨hfits.1, hfits.2.1, Nat.le_refl _, hfits.2.2⟩ ?_ nofun nofun
      rintro f ⟨⟩
      exact .inr ⟨(frame.generation, frame.revisionBefore), by rw [hp]; rfl, rfl, Nat.le_refl _⟩
  case reread frame stored revisionAfter =>
    subst hs
    exact afterReread_inv h hp
  case got current =>
    subst hs
    unfold afterGet
    split
    · split
      · exact h.stayPlain (thrown_plain _)
      · exact h.stayPlain ⟨trivial, rfl, rfl, rfl⟩
    · exact h.stayPlain ⟨trivial, rfl, rfl, rfl⟩
  case upserting next =>
    split at hs
    · obtain rfl := Option.some.inj hs
      exact h.stayPlain (thrown_plain _)
    · next hfails =>
      split at hs
      · obtain rfl := Option.some.inj hs
        exact h.stayPlain (thrown_plain _)
      · next updated store' hok =>
        obtain rfl := Option.some.inj hs
        have hupserts : upserts s (t, x) = true := by
          simp [upserts, hp, hfails, hok, Except.isOk, Except.toBool]
        exact upsert_inv h hp (hu hupserts) hok
  case upserted updated =>
    subst hs
    exact afterUpsert_inv h x.now hp
  case checking =>
    subst hs
    split
    · exact h.stayPlain (thrown_plain _)
    · refine h.stay ⟨Nat.le_refl _, by rw [hfits]; exact nofun, fun _ => hfits⟩ nofun ?_ nofun
      rintro r ⟨⟩
      rw [hp]
      rfl
  case checked revision =>
    subst hs
    refine h.plain ⟨hfits.1, fun hrevision => ?_⟩ rfl rfl ⟨trivial, rfl, rfl, rfl⟩
    exact .inl (hfits.2.2 hrevision)

omit [DecidableEq μ] [DecidableEq ι] in
theorem start_inv (store : Store) (calls : ι → μ × Call) : Inv settings (start store calls) where
  managers _ := ⟨Nat.zero_le _, fun _ => .inr ⟨rfl, rfl⟩⟩
  tasks _ := trivial
  meets _ _ _ := nofun
  alone _ _ := nofun

end Steps

/-! ## The caches of a run -/

section Runs

variable [DecidableEq μ] [DecidableEq ι]

/-- In a run without an interrupted update every cache is coherent, and a `get` that finds the revision
it has cached returns the policy in force. -/
theorem caches_coherent {calls : ι → μ × Call} {labels : List (ι × Choice)} {s : State μ ι}
    (huninterrupted : Machine.Along (step settings) Uninterrupted (start store calls) labels)
    (hrun : Machine.run (step settings) (start store calls) labels = some s) :
    (∀ i, Coherent settings s.store (s.managers i)) ∧
    ∀ t x frame revision, (s.tasks t).progress = .readRevision frame (some revision) →
      frame.generation = (s.manager t).cacheGeneration → (s.manager t).revision = some revision →
      s.store.revision = some revision →
        ∃ s', step settings s (t, x) = some s' ∧
          (s'.tasks t).progress = getReturns (s.tasks t).call (s.store.inForce settings) := by
  have hinv : Inv settings s :=
    Machine.run_inv (start_inv store calls) huninterrupted (fun _ _ _ h hu hs => step_inv h hu hs) hrun
  refine ⟨fun i => (hinv.managers i).coherent, ?_⟩
  intro t x frame revision hp hgeneration hcached hdurable
  have hcurrent : (s.manager t).current = some (s.store.inForce settings) := by
    rcases (hinv.managers (s.tasks t).manager).coherent (hcached.trans hdurable.symm) with hforce | ⟨_, hnone⟩
    · exact hforce
    · rw [State.manager, hnone] at hcached
      cases hcached
  have hstep : step settings s (t, x) =
      some (s.leave t (afterRevision (s.manager t) (s.tasks t).call frame (some revision))) := by
    simp only [step, hp]
  refine ⟨_, hstep, ?_⟩
  rw [leave_progress_self]
  unfold afterRevision
  rw [hcurrent]
  dsimp only
  rw [if_neg (not_not.2 hgeneration), if_pos ⟨rfl, hcached⟩]

/-- Once another upsert has come in between, the update that reads the revision makes its cache
incoherent, and nothing tells the manager so. -/
theorem interrupted_incoherent {s : State μ ι} {t : ι} (hp : (s.tasks t).progress = .checking)
    {policy : ForwardingPolicy} (hcurrent : (s.manager t).current = some policy)
    (hother : policy ≠ s.store.inForce settings) (now : Nat) (updatedAt : String) :
    ∃ s', Machine.run (step settings) s [(t, ⟨now, updatedAt, false⟩), (t, ⟨now, updatedAt, false⟩)] = some s' ∧
      ¬ Coherent settings s'.store (s'.manager t) := by
  have h₁ : step settings s (t, ⟨now, updatedAt, false⟩) = some (s.leave t (.checked s.store.revision, s.manager t)) := by
    simp only [step, hp]
    rw [if_neg (by simp), progress_eq_leave]
  rw [Machine.run_cons h₁, Machine.run_cons (by simp only [step, leave_progress_self]; rfl)]
  refine ⟨_, rfl, ?_⟩
  intro hcoherent
  rw [leave_store, leave_store, leave_manager_same _ rfl] at hcoherent
  rcases hcoherent rfl with hforce | ⟨hnone, _⟩
  · rw [leave_manager_same _ rfl] at hforce
    change (s.manager t).current = _ at hforce
    rw [hcurrent] at hforce
    exact hother (Option.some.inj hforce)
  · rw [leave_manager_same _ rfl] at hnone
    change (s.manager t).current = _ at hnone
    rw [hcurrent] at hnone
    cases hnone

end Runs

/-! ## Two managers, one update each -/

def portalUrl : Url where
  protocol := "https:"
  hostname := "portal.example.com"
  pathname := "/"
  origin := "https://portal.example.com"
  username := ""
  password := ""
  search := ""
  hash := ""

def portalSettings : Settings where
  parseUrl value := if value = "https://portal.example.com" then some portalUrl else none
  defaults := { publicBaseUrl := "https://portal.example.com", allowedOrigins := [] }
  portal := portalUrl
  cacheTtlMs := 5000

/-- The first manager switches forwarding off, the second one leaves it on. -/
def twoUpdates (t : Fin 2) : Fin 2 × Call :=
  (t, .update { targetBaseUrl := none, allowedHosts := none, enabled := some (.boolean (t = 1)) } "admin" none)

def emptyStore : Store where
  policy := none
  revision := some 0

/-- So many steps of one task. -/
def steps (t : Fin 2) (n : Nat) : List (Fin 2 × Choice) :=
  List.replicate n (t, { now := 1000, updatedAt := "2026-08-04T00:00:00.000Z", fails := false })

/-- The second upsert comes between the first one and the reading of its revision. -/
def interrupted : List (Fin 2 × Choice) :=
  steps 0 9 ++ steps 1 9 ++ steps 0 3

theorem interrupted_update :
    ¬ ∀ s, Machine.run (step portalSettings) (start emptyStore twoUpdates) interrupted = some s →
      ∀ i, Coherent portalSettings s.store (s.managers i) := by
  intro h
  have hsome : (Machine.run (step portalSettings) (start emptyStore twoUpdates) interrupted).isSome = true := by
    decide +kernel
  obtain ⟨s, hs⟩ := Option.isSome_iff_exists.1 hsome
  have hstale : ((Machine.run (step portalSettings) (start emptyStore twoUpdates) interrupted).any fun s =>
      (s.managers 0).revision = s.store.revision && (s.managers 0).current ≠ some (s.store.inForce portalSettings) &&
        (s.managers 0).current.isSome) = true := by
    decide +kernel
  rw [hs] at hstale
  simp only [Option.any_some, Bool.and_eq_true, decide_eq_true_eq] at hstale
  obtain ⟨⟨hrevision, hother⟩, hcached⟩ := hstale
  rcases h s hs 0 hrevision with hforce | ⟨hnone, _⟩
  · exact hother hforce
  · rw [hnone] at hcached
    cases hcached

instance (s : State (Fin 2) (Fin 2)) (label : Fin 2 × Choice) : Decidable (Uninterrupted s label) :=
  inferInstanceAs (Decidable (_ → _))

/-- The same updates, one after the other. -/
theorem caches_coherent_in_turn : ∃ s : State (Fin 2) (Fin 2),
    Machine.run (step portalSettings) (start emptyStore twoUpdates) (steps 0 12 ++ steps 1 12) = some s ∧
      ∀ i, Coherent portalSettings s.store (s.managers i) := by
  have hsome : (Machine.run (step portalSettings) (start emptyStore twoUpdates) (steps 0 12 ++ steps 1 12)).isSome =
      true := by
    decide +kernel
  obtain ⟨s, hs⟩ := Option.isSome_iff_exists.1 hsome
  exact ⟨s, hs, (caches_coherent (by decide +kernel) hs).1⟩

end OpenApp.Forwarding
