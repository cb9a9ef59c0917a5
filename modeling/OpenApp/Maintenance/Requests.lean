import OpenApp.Maintenance.Moves

/-!
# What becomes of a request

A request that a drain can still see is not lost: each task it asks for runs before its promise resolves. A request
that comes between the end of the loop and `finally` is given the promise of a drain that does nothing for it.
-/

namespace OpenApp.Maintenance

open History

structure LosesNoRequest (s : State) : Prop where
  alone : Throughout Alone s.log
  yields : Throughout Yields s.log
  keeps : Throughout Keeps s.log
  seen : ∀ task, s.requested task = true → s.drainInProgress = true
  quiet : Throughout Quiet s.log

variable {K : State → Prop} {s s' : State} {d : Nat} {x y : Drain}

/-! ## Requests -/

/-- What has become of a task that was asked for under the promise of a drain. -/
def Fate (s : State) (d : Nat) (task : PortalMaintenanceTask) (since : List Event) : Prop :=
  Ran task since ∨ (s.drains[d]? = some (.running task) ∧ Event.started task ∈ since) ∨
    (s.requested task = true ∧ s.draining = some d)

structure Served (s : State) : Prop where
  seen : ∀ task, s.requested task = true → s.drainInProgress = true
  pending : s.stopped = false → Since (fun event since =>
    ∀ named d, event = .request named (some d) → ∀ task ∈ named, Fate s d task since) s.log
  keeps : Throughout Keeps s.log

theorem Fate.later {task : PortalMaintenanceTask} {since since' : List Event} (h : Fate s d task since)
    (hrun : s.drains[d]? = some (.running task) → s'.drains[d]? = some (.running task))
    (hasked : s.requested task = true → s.draining = some d → s'.requested task = true ∧ s'.draining = some d)
    (hsub : since.Sublist since') : Fate s' d task since' := by
  rcases h with hran | ⟨hrunning, hstarted⟩ | ⟨hrequested, hdraining⟩
  · exact .inl (hran.trans hsub)
  · exact .inr (.inl ⟨hrun hrunning, hsub.subset hstarted⟩)
  · exact .inr (.inr (hasked hrequested hdraining))

/-- The fate of every request so far. -/
abbrev Pending (s : State) : Prop :=
  Since (fun event since => ∀ named d, event = .request named (some d) → ∀ task ∈ named, Fate s d task since) s.log

theorem Pending.same (h : Pending s) (hlog : s'.log = s.log)
    (hfate : ∀ d task since, Fate s d task since → Fate s' d task since) : Pending s' := by
  rw [Pending, hlog]
  exact Since.imp h fun event since hevent named d he task htask => hfate d task since (hevent named d he task htask)

theorem Pending.cons {event : Event} (h : Pending s) (hlog : s'.log = event :: s.log)
    (hnew : ∀ named d, event = .request named (some d) → ∀ task ∈ named, Fate s' d task [])
    (hfate : ∀ d task since, Fate s d task since → Fate s' d task (event :: since)) : Pending s' := by
  rw [Pending, hlog]
  refine since_cons.2 ⟨hnew, ?_⟩
  exact Since.imp h fun event since hevent named d he task htask => hfate d task since (hevent named d he task htask)

theorem Throughout.keeps_cons {event : Event} {log : List Event} (h : Throughout Keeps log)
    (hevent : ∀ d, event ≠ .resolved d) : Throughout Keeps (event :: log) :=
  throughout_cons.2 ⟨fun d he => absurd he (hevent d), h⟩

/-- Nothing is asked for where nothing will look. -/
theorem Served.not_requested (h : Served s) (hnone : s.drainInProgress = false) (task : PortalMaintenanceTask) :
    s.requested task = false := by
  cases hrequested : s.requested task with
  | false => rfl
  | true =>
    rw [h.seen task hrequested] at hnone
    cases hnone

theorem Sound.drainInProgress_of (hs : Sound s) (h : s.drains[d]? = some x) (hheld : x.held = true) :
    s.drainInProgress = x.inLoop := by
  rw [State.drainInProgress, hs.current_of h hheld, Option.any_some]

/-- The only task that runs is that of the drain that is referred to. -/
theorem Sound.same_drain (hs : Sound s) {d' : Nat} (h : s.drains[d]? = some x) (hheld : x.held = true)
    (h' : s.drains[d']? = some y) (hheld' : y.held = true) : x = y := by
  have hsame := (hs.draining_of h hheld).symm.trans (hs.draining_of h' hheld')
  obtain rfl := Option.some.inj hsame
  exact Option.some.inj (h.symm.trans h')

theorem not_requested_of_next (h : s.next = none) (task : PortalMaintenanceTask) : s.requested task = false := by
  cases task <;> cases hup : s.upgradeRequested <;> cases hsweep : s.sweepRequested <;>
    simp_all [State.next, State.requested]

theorem served_begun (hs : Sound s) (h : Served s) (hnone : s.draining = none) (hopen : s.stopped = false) : Served s.begun where
  seen := by
    intro _ _
    simp [State.begun, State.drainInProgress, State.current, Drain.inLoop]
  pending := by
    intro _
    refine Pending.same (h.pending hopen) rfl fun d task since hfate => hfate.later ?_ ?_ (List.Sublist.refl _)
    · intro hrunning
      rw [hs.draining_of hrunning rfl] at hnone
      cases hnone
    · intro _ hdraining
      rw [hdraining] at hnone
      cases hnone
  keeps := h.keeps

theorem served_asked (hs : Sound s) (h : Served s) (named : List PortalMaintenanceTask) (hdraining : s.draining = some d)
    (hopen : s.stopped = false) (htimely : s.leaving = false) :
    Served ((s.requesting named).record (.request named (some d))) where
  seen := by
    intro _ _
    -- the drain is held, and has not left its loop
    have hheld := (hs.refers d).1 hdraining
    obtain ⟨x, hx, hheld⟩ := (Option.any_eq_true _ _).1 hheld
    have hne : x ≠ .exited := by
      rintro rfl
      simp [State.leaving, State.current, hdraining, hx] at htimely
    have hin : s.drainInProgress = x.inLoop := hs.drainInProgress_of hx hheld
    refine hin.trans ?_
    cases x <;> simp_all [Drain.held, Drain.inLoop]
  pending := by
    intro _
    refine Pending.cons (h.pending hopen) rfl ?_ fun d task since hfate => hfate.later id ?_ (List.sublist_cons_self _ _)
    · intro named' d' he task htask
      obtain ⟨rfl, hd⟩ := Event.request.inj he
      obtain rfl := Option.some.inj hd
      refine .inr (.inr ⟨?_, hdraining⟩)
      cases task <;> simp [State.record, State.requesting, State.requested, htask]
    · intro hrequested hdraining
      refine ⟨?_, hdraining⟩
      cases task <;> simp_all [State.record, State.requesting, State.requested]
  keeps := Throughout.keeps_cons h.keeps nofun

theorem served_started (hs : Sound s) (h : Served s) {task : PortalMaintenanceTask} (hd : s.drains[d]? = some .looping)
    (hnext : s.next = some task) :
    Served (((s.taken task).moved d (.running task)).record (.started task)) := by
  have hdraining := hs.draining_of hd rfl
  have hlt := lt_of_getElem? hd
  have hlog : (((s.taken task).moved d (.running task)).record (.started task)).log = .started task :: s.log := by
    cases task <;> rfl
  constructor
  · intro _ _
    cases task <;> simp [State.record, State.taken, State.moved, State.drainInProgress, State.current, hdraining, hlt, Drain.inLoop]
  · intro hopen
    have hopen : s.stopped = false := by cases task <;> exact hopen
    refine Pending.cons (h.pending hopen) hlog (fun _ _ => Event.noConfusion) fun d' other since hfate => ?_
    rcases hfate with hran | ⟨hrunning, _⟩ | ⟨hrequested, hd'⟩
    · exact .inl (hran.cons _)
    · cases hs.same_drain hd rfl hrunning rfl
    · obtain rfl := Option.some.inj (hdraining.symm.trans hd')
      by_cases hother : other = task
      · subst hother
        refine .inr (.inl ⟨?_, List.mem_cons_self⟩)
        cases other <;> simp [State.record, State.taken, State.moved, hlt]
      · refine .inr (.inr ⟨?_, ?_⟩) <;> cases task <;> cases other <;>
          simp_all [State.record, State.taken, State.moved, State.requested]
  · rw [hlog]
    exact Throughout.keeps_cons h.keeps fun _ => Event.noConfusion

/-- A drain that moves on without starting or finishing a task. -/
theorem fate_moved {other : PortalMaintenanceTask} {since since' : List Event} {d' : Nat}
    (hd : s.drains[d]? = some x) (hx : x.task = none) (hsub : since.Sublist since') (hfate : Fate s d' other since) :
    Fate (s.moved d y) d' other since' := by
  refine hfate.later (fun hrunning => ?_) (fun hrequested hdraining => ⟨hrequested, hdraining⟩) hsub
  have hne : d ≠ d' := by
    rintro rfl
    obtain rfl := Option.some.inj (hd.symm.trans hrunning)
    cases hx
  simpa [State.moved, List.getElem?_set_ne hne] using hrunning

theorem served_exited (h : Served s) (hd : s.drains[d]? = some .looping) (hnext : s.next = none) :
    Served (s.moved d .exited) where
  seen := by
    intro task hrequested
    have hnone := not_requested_of_next hnext task
    rw [show s.requested task = true from hrequested] at hnone
    cases hnone
  pending := fun hopen =>
    Pending.same (h.pending hopen) rfl fun _ _ _ hfate => fate_moved hd rfl (List.Sublist.refl _) hfate
  keeps := h.keeps

theorem served_finished (hs : Sound s) (h : Served s) {task : PortalMaintenanceTask} {outcome : Outcome}
    (hd : s.drains[d]? = some (.running task)) :
    Served ((s.moved d (.settled task outcome)).record (.finished task)) where
  seen := by
    intro _ _
    have hlt := lt_of_getElem? hd
    simp [State.record, State.moved, State.drainInProgress, State.current, hs.draining_of hd rfl, hlt, Drain.inLoop]
  pending := by
    intro hopen
    refine Pending.cons (h.pending hopen) rfl (fun _ _ => Event.noConfusion) fun d' other since hfate => ?_
    rcases hfate with hran | ⟨hrunning, hstarted⟩ | hrequested
    · exact .inl (hran.cons _)
    · -- it is this task that has run since
      have hsame := hs.same_drain hd rfl hrunning rfl
      obtain rfl := Drain.running.inj hsame
      exact .inl ((List.singleton_sublist.2 hstarted).cons_cons _)
    · exact .inr (.inr hrequested)
  keeps := Throughout.keeps_cons h.keeps fun _ => Event.noConfusion

/-- `runTask` goes on, whether the task was rejected or not. -/
theorem served_returned (hs : Sound s) (h : Served s) {task : PortalMaintenanceTask} {outcome : Outcome}
    (hd : s.drains[d]? = some (.settled task outcome)) : Served (s.moved d .looping) where
  seen := by
    intro _ _
    have hlt := lt_of_getElem? hd
    simp [State.moved, State.drainInProgress, State.current, hs.draining_of hd rfl, hlt, Drain.inLoop]
  pending := fun hopen =>
    Pending.same (h.pending hopen) rfl fun _ _ _ hfate => fate_moved hd rfl (List.Sublist.refl _) hfate
  keeps := h.keeps

/-- One more event that is about no request, start, end or promise. -/
theorem served_record (h : Served s) {event : Event} (hrequest : ∀ named d, event ≠ .request named (some d))
    (hresolved : ∀ d, event ≠ .resolved d) : Served (s.record event) where
  seen := h.seen
  pending := fun hopen => Pending.cons (h.pending hopen) rfl (fun named d he => absurd he (hrequest named d))
    fun _ _ _ hfate => hfate.later id (fun hrequested hdraining => ⟨hrequested, hdraining⟩) (List.sublist_cons_self _ _)
  keeps := Throughout.keeps_cons h.keeps hresolved

theorem served_cleared (hs : Sound s) (h : Served s) (hd : s.drains[d]? = some .exited) :
    Served { s.moved d .cleared with draining := if s.draining = some d then none else s.draining } := by
  have hnone : ∀ task, s.requested task = false := h.not_requested (hs.drainInProgress_of hd rfl)
  constructor
  · intro task hrequested
    exact absurd ((hnone task).symm.trans hrequested) (by simp)
  · intro hopen
    refine Pending.same (h.pending hopen) rfl fun d' task since hfate => ?_
    have hmoved : Fate (s.moved d .cleared) d' task since := fate_moved hd rfl (List.Sublist.refl _) hfate
    refine hmoved.later id (fun hrequested _ => ?_) (List.Sublist.refl _)
    have hnot := hnone task
    rw [show s.requested task = true from hrequested] at hnot
    cases hnot
  · exact h.keeps

/-- The promise resolves when the drain is through, and what was asked for under it has run. -/
theorem served_resolved (hs : Sound s) (h : Served s) (hd : s.drains[d]? = some .cleared) :
    Served ((s.moved d .resolved).record (.resolved d)) where
  seen := by
    intro task hrequested
    have hcurrent := current_moved_ne (y := .resolved) (hs.not_draining hd rfl)
    exact (congrArg (Option.any Drain.inLoop) hcurrent).trans (h.seen task hrequested)
  pending := fun hopen => Pending.cons (h.pending hopen) rfl nofun fun _ _ _ hfate =>
    fate_moved hd rfl (List.sublist_cons_self _ _) hfate
  keeps := by
    refine throughout_cons.2 ⟨fun d' he hstop => ?_, h.keeps⟩
    obtain rfl := Event.resolved.inj he
    have hopen : s.stopped = false := by
      rw [← Bool.not_eq_true]
      exact fun hstopped => hstop (hs.stops.1 hstopped)
    refine Since.imp (h.pending hopen) fun event since hevent named hnamed task htask => ?_
    rcases hevent named d hnamed task htask with hran | ⟨hrunning, -⟩ | ⟨-, hdraining⟩
    · exact hran
    · rw [hd] at hrunning
      cases hrunning
    · exact absurd hdraining (hs.not_draining hd rfl)

/-- A move in which nobody asks a drain that is leaving. -/
theorem Served.move (hs : Sound s) (h : Served s) (hmove : Move (fun s => s.leaving = false) s s') : Served s' := by
  cases hmove with
  | told named hstopped =>
    refine served_record h (fun named' d he => ?_) nofun
    cases he
  | begun hnone hopen => exact served_begun hs h hnone hopen
  | asked named d hdraining hopen htimely => exact served_asked hs h named hdraining hopen htimely
  | started d task hd hnext => exact served_started hs h hd hnext
  | exited d hd hnext => exact served_exited h hd hnext
  | stopped =>
    have hnone : ∀ task, (stop s).requested task = false := by
      intro task
      cases task <;> rfl
    refine ⟨fun task hrequested => absurd ((hnone task).symm.trans hrequested) (by simp), nofun, ?_⟩
    exact Throughout.keeps_cons h.keeps nofun
  | finished d task outcome hd => exact served_finished hs h hd
  | returned d task outcome hd => exact served_returned hs h hd
  | failed d task outcome hd => exact served_record (served_returned hs h hd) nofun nofun
  | cleared d hd => exact served_cleared hs h hd
  | resolved d hd => exact served_resolved hs h hd
  | stopResolved n awaits hcall _ =>
    have hstopped := (hs.awaits n _ hcall).1
    refine ⟨h.seen, fun hopen => ?_, Throughout.keeps_cons h.keeps nofun⟩
    rw [show s.stopped = false from hopen] at hstopped
    cases hstopped

/-! ## Runs -/

theorem served_initial : Served initial where
  seen := by
    intro task
    cases task <;> nofun
  pending _ := since_nil
  keeps := throughout_nil

theorem orderly_initial : Orderly initial := ⟨throughout_nil, throughout_nil, throughout_nil⟩

/-- Whenever requests come, tasks run one at a time, sweeps wait for upgrades, and a stop is the end. -/
theorem orderly_run {actions : List Action} (h : Machine.run step initial actions = some s) : Orderly s := by
  have hinv : Sound s ∧ Orderly s := by
    refine Machine.run_inv' (I := fun s => Sound s ∧ Orderly s) ⟨sound_initial, orderly_initial⟩ ?_ h
    intro s action s' hi hstep
    refine step_moves (K := fun _ => True) (I := fun s => Sound s ∧ Orderly s) ?_ (fun _ _ _ => trivial) (fun _ => trivial) hi hstep
    exact fun s s' hmove hi => ⟨hi.1.move hmove, hi.2.move hi.1 hmove⟩
  exact hinv.2

/-- Where nobody asks while a drain is leaving, no request is lost. -/
theorem losesNoRequest_run (actions : List Action) (s : State) (htimely : Machine.Along step Timely initial actions)
    (h : Machine.run step initial actions = some s) : LosesNoRequest s := by
  have hinv : Sound s ∧ Served s := by
    refine Machine.run_inv (I := fun s => Sound s ∧ Served s) ⟨sound_initial, served_initial⟩ htimely ?_ h
    intro s action s' hi htimely hstep
    refine step_moves (K := fun s => s.leaving = false) (I := fun s => Sound s ∧ Served s) ?_
      (fun hrequests hopen _ => htimely hrequests hopen) (fun _ => not_leaving_begun s) hi hstep
    exact fun s s' hmove hi => ⟨hi.1.move hmove, hi.2.move hi.1 hmove⟩
  have horderly := orderly_run h
  exact ⟨horderly.alone, horderly.yields, hinv.2.keeps, hinv.2.seen, horderly.quiet⟩

/-! ## A request while the drain is leaving -/

/-- An upgrade runs, and its drain leaves the loop. -/
def untilExit : List Action :=
  [.requestUpgradeRun, .settle 0 .resolved, .runTask 0, .drain 0]

/-- A cycle that is asked for once the drain is through. -/
theorem cycle_after_drain : ∃ s, Machine.run step initial (untilExit ++ [.clear 0, .requestMaintenanceCycle, .resolve 0]) = some s ∧
    LosesNoRequest s := by
  have hrun : (Machine.run step initial (untilExit ++ [.clear 0, .requestMaintenanceCycle, .resolve 0])).isSome = true := by
    decide
  obtain ⟨s, hs⟩ := Option.isSome_iff_exists.1 hrun
  exact ⟨s, hs, losesNoRequest_run _ s (by decide) hs⟩

/-- The promise of a cycle that is asked for before `finally` resolves, and neither task has run for it. -/
theorem cycle_lost : ∃ s, Machine.run step initial (untilExit ++ [.requestMaintenanceCycle, .clear 0, .resolve 0]) = some s ∧
    ¬ LosesNoRequest s := by
  refine ⟨_, rfl, fun h => ?_⟩
  have hran := h.keeps [] (.resolved 0) _ rfl 0 rfl (by decide) [] _ _ rfl _ rfl .upgradeRolloutWorker (by decide)
  simp [Ran] at hran

end OpenApp.Maintenance
