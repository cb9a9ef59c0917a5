import OpenApp.Async.Machine
import OpenApp.History
import OpenApp.Maintenance.Coordinator

/-!
# Moves of the coordinator

Each step is made of moves that change one thing. Whatever the moves are, one drain at most is not through, its task is
the one that runs, and nothing is left for it once a stop has resolved.
-/

namespace OpenApp.Maintenance

open History

/-! ## The log -/

/-- The task that has started and not finished. -/
def running : List Event → Option PortalMaintenanceTask
  | [] => none
  | .started task :: _ => some task
  | .finished _ :: _ => none
  | _ :: log => running log

/-- The task was asked for and has not started since. -/
def Owed (task : PortalMaintenanceTask) : List Event → Bool
  | [] => false
  | .started other :: log => other ≠ task && Owed task log
  | .request named (some _) :: log => named.contains task || Owed task log
  | .stop :: _ => false
  | _ :: log => Owed task log

/-- Two tasks never run at the same time. -/
def Alone (event : Event) (earlier : List Event) : Prop :=
  ∀ task, event = .started task → running earlier = none

/-- No sweep starts while an upgrade is asked for. -/
def Yields (event : Event) (earlier : List Event) : Prop :=
  event = .started .idleSweep → Owed .upgradeRolloutWorker earlier = false

/-- The task has started and then finished. -/
def Ran (task : PortalMaintenanceTask) (log : List Event) : Prop :=
  [.finished task, .started task].Sublist log

/-- A promise that resolves before anybody has stopped: each task that was asked for under it has run since. -/
def Keeps (event : Event) (earlier : List Event) : Prop :=
  ∀ d, event = .resolved d → .stop ∉ earlier →
    Since (fun request since => ∀ named, request = .request named (some d) → ∀ task ∈ named, Ran task since) earlier

/-- Once a stop has resolved, nothing runs and nothing starts. -/
def Quiet (event : Event) (earlier : List Event) : Prop :=
  (∀ call, event = .stopResolved call → running earlier = none) ∧
    (∀ task call, event = .started task → .stopResolved call ∉ earlier)

def Drain.inLoop : Drain → Bool
  | .running _ | .settled _ _ | .looping => true
  | .exited | .cleared | .resolved => false

/-- Where the drain stands that the coordinator refers to. -/
def State.current (s : State) : Option Drain :=
  s.draining.bind fun d => s.drains[d]?

/-- That drain will look at the flags again. -/
def State.drainInProgress (s : State) : Bool :=
  s.current.any Drain.inLoop

/-- It has left its loop, and is still the one the coordinator refers to. -/
def State.leaving (s : State) : Bool :=
  s.current = some .exited

/-! ## Moves -/

/-- A drain that is at the head of its loop for the first time. -/
def State.begun (s : State) : State :=
  { s with drains := s.drains ++ [.looping], draining := some s.drains.length }

/-- What the coordinator does, one piece at a time. A request that begins a drain is three of them; one that is seen
by a drain meets the condition `K`. -/
inductive Move (K : State → Prop) (s : State) : State → Prop
  | told (named : List PortalMaintenanceTask) (h : s.stopped = true) : Move K s (s.record (.request named none))
  | begun (h : s.draining = none) (hopen : s.stopped = false) : Move K s s.begun
  | asked (named : List PortalMaintenanceTask) (d : Nat) (h : s.draining = some d) (hopen : s.stopped = false) (hK : K s) :
    Move K s ((s.requesting named).record (.request named (some d)))
  | started (d : Nat) (task : PortalMaintenanceTask) (h : s.drains[d]? = some .looping) (hnext : s.next = some task) :
    Move K s (((s.taken task).moved d (.running task)).record (.started task))
  | exited (d : Nat) (h : s.drains[d]? = some .looping) (hnext : s.next = none) : Move K s (s.moved d .exited)
  | stopped : Move K s (stop s)
  | finished (d : Nat) (task : PortalMaintenanceTask) (outcome : Outcome) (h : s.drains[d]? = some (.running task)) :
    Move K s ((s.moved d (.settled task outcome)).record (.finished task))
  | returned (d : Nat) (task : PortalMaintenanceTask) (outcome : Outcome) (h : s.drains[d]? = some (.settled task outcome)) :
    Move K s (s.moved d .looping)
  | failed (d : Nat) (task : PortalMaintenanceTask) (outcome : Outcome) (h : s.drains[d]? = some (.settled task outcome)) :
    Move K s ((s.moved d .looping).record (.error task))
  | cleared (d : Nat) (h : s.drains[d]? = some .exited) :
    Move K s { s.moved d .cleared with draining := if s.draining = some d then none else s.draining }
  | resolved (d : Nat) (h : s.drains[d]? = some .cleared) : Move K s ((s.moved d .resolved).record (.resolved d))
  | stopResolved (n : Nat) (awaits : Option Nat) (h : s.stops[n]? = some ⟨awaits, false⟩) (hresolved : s.hasResolved awaits = true) :
    Move K s { s with stops := s.stops.set n ⟨awaits, true⟩, log := .stopResolved n :: s.log }

theorem drain_moves {K : State → Prop} {s : State} {d : Nat} (h : s.drains[d]? = some .looping) : Move K s (drain d s) := by
  unfold drain
  cases hnext : s.next with
  | some task => exact .started d task h hnext
  | none => exact .exited d h hnext

theorem drain_draining (d : Nat) (s : State) (draining : Option Nat) :
    { drain d s with draining := draining } = drain d { s with draining := draining } := by
  have hnext : ({ s with draining := draining } : State).next = s.next := rfl
  unfold drain
  rw [hnext]
  cases s.next with
  | some task => cases task <;> rfl
  | none => rfl

/-- What every move keeps that is asked under the condition, a request keeps. -/
theorem request_moves {K : State → Prop} {I : State → Prop} (hmove : ∀ s s', Move K s s' → I s → I s') {s : State}
    (hK : s.stopped = false → s.draining ≠ none → K s)
    (hbegun : s.draining = none → K s.begun) (named : List PortalMaintenanceTask) (h : I s) : I (request named s) := by
  unfold request
  cases hstopped : s.stopped with
  | true => exact hmove _ _ (.told named hstopped) h
  | false =>
    cases hdraining : s.draining with
    | some d =>
      have hasked := hmove _ _ (.asked named d hdraining hstopped (hK hstopped (by simp [hdraining]))) h
      simpa [ensureDrain, State.requesting, State.record, hdraining] using hasked
    | none =>
      -- the drain that begins sees the flags at once
      have hnew := hmove _ _ (.begun hdraining hstopped) h
      have hasked := hmove _ _ (@Move.asked K s.begun named s.drains.length rfl hstopped (hbegun hdraining)) hnew
      have hdrained := hmove _ _ (drain_moves (d := s.drains.length)
        (by simp [State.begun, State.requesting, State.record])) hasked
      have hsame : ensureDrain ((s.requesting named).record (.request named (some s.drains.length))) =
          drain s.drains.length ((s.begun.requesting named).record (.request named (some s.drains.length))) := by
        simp only [ensureDrain, State.record, State.requesting, hdraining, drain_draining]
        rfl
      exact hsame ▸ hdrained

def Action.requests : Action → Bool
  | .requestUpgradeRun | .requestMaintenanceCycle => true
  | _ => false

/-- Nobody asks, before the maintenance is stopped, while a drain is leaving. -/
def Timely (s : State) (action : Action) : Prop :=
  action.requests = true → s.stopped = false → s.leaving = false

instance (s : State) (action : Action) : Decidable (Timely s action) := by
  unfold Timely
  infer_instance

theorem not_leaving_begun (s : State) : s.begun.leaving = false := by
  simp [State.begun, State.leaving, State.current]

/-- An invariant of the moves is one of the steps. -/
theorem step_moves {K : State → Prop} {I : State → Prop} (hmove : ∀ s s', Move K s s' → I s → I s') {s s' : State}
    {action : Action} (hK : action.requests = true → s.stopped = false → s.draining ≠ none → K s)
    (hbegun : s.draining = none → K s.begun) (h : I s) (hstep : step s action = some s') : I s' := by
  cases action with
  | requestUpgradeRun =>
    obtain rfl := Option.some.inj hstep
    exact request_moves hmove (hK rfl) hbegun _ h
  | requestMaintenanceCycle =>
    obtain rfl := Option.some.inj hstep
    exact request_moves hmove (hK rfl) hbegun _ h
  | stop =>
    obtain rfl := Option.some.inj hstep
    exact hmove _ _ .stopped h
  | settle d outcome =>
    simp only [step] at hstep
    split at hstep
    · obtain rfl := Option.some.inj hstep
      exact hmove _ _ (.finished d _ outcome ‹_›) h
    · cases hstep
  | runTask d =>
    simp only [step] at hstep
    split at hstep
    · obtain rfl := Option.some.inj hstep
      exact hmove _ _ (.returned d _ _ ‹_›) h
    · obtain rfl := Option.some.inj hstep
      exact hmove _ _ (.failed d _ _ ‹_›) h
    · cases hstep
  | drain d =>
    simp only [step] at hstep
    split at hstep
    · obtain rfl := Option.some.inj hstep
      exact hmove _ _ (drain_moves ‹_›) h
    · cases hstep
  | clear d =>
    simp only [step] at hstep
    split at hstep
    · obtain rfl := Option.some.inj hstep
      exact hmove _ _ (.cleared d ‹_›) h
    · cases hstep
  | resolve d =>
    simp only [step] at hstep
    split at hstep
    · obtain rfl := Option.some.inj hstep
      exact hmove _ _ (.resolved d ‹_›) h
    · cases hstep
  | stopReturns n =>
    simp only [step] at hstep
    split at hstep
    · split at hstep
      · obtain rfl := Option.some.inj hstep
        exact hmove _ _ (.stopResolved n _ ‹_› ‹_›) h
      · cases hstep
    · cases hstep

/-! ## What every move keeps -/

def Drain.held : Drain → Bool
  | .running _ | .settled _ _ | .looping | .exited => true
  | .cleared | .resolved => false

def Drain.task : Drain → Option PortalMaintenanceTask
  | .running task => some task
  | _ => none

structure Sound (s : State) : Prop where
  idle : s.stopped = true → ∀ task, s.requested task = false
  stops : s.stopped = true ↔ Event.stop ∈ s.log
  owed : ∀ task, s.requested task = Owed task s.log
  /-- the drain that is referred to is the one that is not through -/
  refers : ∀ d : Nat, s.draining = some d ↔ (s.drains[d]?).any Drain.held = true
  runs : running s.log = s.current.bind Drain.task
  awaits : ∀ (n : Nat) (call : StopCall), s.stops[n]? = some call →
    s.stopped = true ∧ ∀ d, s.draining = some d → call.awaits = some d
  returned : ∀ call, Event.stopResolved call ∈ s.log → s.stopped = true ∧ s.draining = none

theorem sound_initial : Sound initial where
  idle := nofun
  stops := by simp [initial]
  owed := by
    intro task
    cases task <;> rfl
  refers := by simp [initial]
  runs := rfl
  awaits := by simp [initial]
  returned := by simp [initial]

variable {K : State → Prop} {s s' : State} {d : Nat} {x y : Drain}

theorem Sound.draining_of (hs : Sound s) (h : s.drains[d]? = some x) (hheld : x.held = true) : s.draining = some d :=
  (hs.refers d).2 (by rw [h]; exact hheld)

theorem Sound.not_draining (hs : Sound s) (h : s.drains[d]? = some x) (hheld : x.held = false) : s.draining ≠ some d := by
  intro hdraining
  have hany := (hs.refers d).1 hdraining
  rw [h, Option.any_some, hheld] at hany
  cases hany

theorem Sound.current_of (hs : Sound s) (h : s.drains[d]? = some x) (hheld : x.held = true) : s.current = some x := by
  rw [State.current, hs.draining_of h hheld]
  exact h

theorem lt_of_getElem? (h : s.drains[d]? = some x) : d < s.drains.length :=
  (List.getElem?_eq_some_iff.1 h).1

theorem current_moved (h : s.drains[d]? = some x) (hdraining : s.draining = some d) : (s.moved d y).current = some y := by
  have hlt := lt_of_getElem? h
  simp [State.current, State.moved, hdraining, hlt]

theorem current_moved_ne (hdraining : s.draining ≠ some d) : (s.moved d y).current = s.current := by
  simp only [State.current, State.moved]
  cases hd : s.draining with
  | none => rfl
  | some d' =>
    have hne : d ≠ d' := by
      rintro rfl
      exact hdraining hd
    simp [List.getElem?_set_ne hne]

/-- A drain that moves on and is held as before. -/
theorem refers_moved (hs : Sound s) (h : s.drains[d]? = some x) (hsame : y.held = x.held) (d' : Nat) :
    s.draining = some d' ↔ ((s.moved d y).drains[d']?).any Drain.held = true := by
  rw [hs.refers d']
  by_cases hd : d = d'
  · subst hd
    have hlt := lt_of_getElem? h
    have hx : s.drains[d] = x := (List.getElem?_eq_some_iff.1 h).2
    simp [State.moved, hlt, hx, hsame]
  · simp [State.moved, List.getElem?_set_ne hd]

theorem idle_move (hs : Sound s) (h : Move K s s') : s'.stopped = true → ∀ task, s'.requested task = false := by
  have hidle := hs.idle
  cases h with
  | asked named d h hopen _ => simp [State.record, State.requesting, hopen]
  | started d task h hnext =>
    intro hstopped other
    have hnone := hidle (by cases task <;> exact hstopped) other
    cases task <;> cases other <;> simp_all [State.record, State.taken, State.moved, State.requested]
  | stopped =>
    intro _ task
    cases task <;> rfl
  | _ => exact hidle

theorem owed_move (hs : Sound s) (h : Move K s s') : ∀ task, s'.requested task = Owed task s'.log := by
  have howed := hs.owed
  intro other
  have hother := howed other
  cases h with
  | asked named d h hopen _ =>
    cases other <;> simp_all [State.record, State.requesting, State.requested, Owed, Bool.or_comm]
  | started d task h hnext =>
    cases task <;> cases other <;> simp_all [State.record, State.taken, State.moved, State.requested, Owed]
  | stopped => cases other <;> simp [stop, State.requested, Owed]
  | _ => exact hother

theorem stops_move (hs : Sound s) (h : Move K s s') : s'.stopped = true ↔ Event.stop ∈ s'.log := by
  have hstops := hs.stops
  cases h with
  | stopped => simp [stop]
  | begun | exited | returned | cleared => exact hstops
  | started d task => cases task <;> simpa [State.record, State.taken, State.moved] using hstops
  | _ => simpa [State.record, State.requesting, State.moved] using hstops

theorem refers_move (hs : Sound s) (h : Move K s s') :
    ∀ d : Nat, s'.draining = some d ↔ (s'.drains[d]?).any Drain.held = true := by
  cases h with
  | begun h _ =>
    intro d
    have hnone := hs.refers d
    rw [h] at hnone
    by_cases hd : d < s.drains.length
    · have hne : s.drains.length ≠ d := by omega
      simpa [State.begun, List.getElem?_append_left hd, hne] using hnone
    · by_cases heq : d = s.drains.length
      · subst heq
        simp [State.begun, Drain.held]
      · have hout : (s.drains ++ [Drain.looping])[d]? = none := by
          rw [List.getElem?_eq_none_iff, List.length_append, List.length_singleton]
          omega
        have hne : s.drains.length ≠ d := by omega
        simp [State.begun, hout, hne]
  | started d task h _ => cases task <;> exact refers_moved (y := .running _) hs h rfl
  | exited d h _ => exact refers_moved hs h rfl
  | finished d task outcome h => exact refers_moved (y := .settled task outcome) hs h rfl
  | returned d task outcome h => exact refers_moved hs h rfl
  | failed d task outcome h => exact refers_moved (y := .looping) hs h rfl
  | resolved d h => exact refers_moved (y := .resolved) hs h rfl
  | cleared d h =>
    have hdraining := hs.draining_of h rfl
    have hlt := lt_of_getElem? h
    intro d'
    by_cases hd : d = d'
    · subst hd
      simp [State.moved, hdraining, hlt, Drain.held]
    · have hother := hs.refers d'
      simpa [State.moved, hdraining, hd, List.getElem?_set_ne hd] using hother
  | _ => exact hs.refers

theorem runs_move (hs : Sound s) (h : Move K s s') : running s'.log = s'.current.bind Drain.task := by
  have hruns := hs.runs
  cases h with
  | begun h _ =>
    rw [State.current, h] at hruns
    simpa [State.current, State.begun, Drain.task] using hruns
  | started d task h _ =>
    have hcurrent := current_moved (y := .running task) h (hs.draining_of h rfl)
    cases task <;> exact (congrArg (Option.bind · Drain.task) hcurrent).symm
  | exited d h _ =>
    rw [hs.current_of h rfl] at hruns
    rw [current_moved h (hs.draining_of h rfl)]
    exact hruns
  | finished d task outcome h =>
    have hcurrent := current_moved (y := .settled task outcome) h (hs.draining_of h rfl)
    exact (congrArg (Option.bind · Drain.task) hcurrent).symm
  | returned d task outcome h =>
    rw [hs.current_of h rfl] at hruns
    rw [current_moved h (hs.draining_of h rfl)]
    exact hruns
  | failed d task outcome h =>
    rw [hs.current_of h rfl] at hruns
    have hcurrent := current_moved (y := .looping) h (hs.draining_of h rfl)
    exact hruns.trans (congrArg (Option.bind · Drain.task) hcurrent).symm
  | cleared d h =>
    rw [hs.current_of h rfl] at hruns
    simpa [State.current, State.moved, hs.draining_of h rfl, Drain.task] using hruns
  | resolved d h =>
    have hcurrent := current_moved_ne (y := .resolved) (hs.not_draining h rfl)
    exact hruns.trans (congrArg (Option.bind · Drain.task) hcurrent).symm
  | _ => exact hruns

theorem awaits_move (hs : Sound s) (h : Move K s s') : ∀ (n : Nat) (call : StopCall), s'.stops[n]? = some call →
    s'.stopped = true ∧ ∀ d, s'.draining = some d → call.awaits = some d := by
  have hawaits := hs.awaits
  cases h with
  | begun _ hopen =>
    intro n call hcall
    rw [(hawaits n call hcall).1] at hopen
    cases hopen
  | started d task h _ => cases task <;> exact hawaits
  | cleared d h =>
    intro n call hcall
    obtain ⟨hstopped, hawait⟩ := hawaits n call hcall
    refine ⟨hstopped, fun d' hd' => ?_⟩
    rw [if_pos (hs.draining_of h rfl)] at hd'
    cases hd'
  | stopped =>
    intro n call hcall
    refine ⟨rfl, fun d hd => ?_⟩
    by_cases hn : n < s.stops.length
    · exact (hawaits n call (by simpa [stop, List.getElem?_append_left hn] using hcall)).2 d hd
    · -- the call that has just been made awaits the drain that is referred to
      have hlast : (s.stops ++ [⟨s.draining, false⟩])[n]? = some call := hcall
      rw [List.getElem?_append_right (by omega), List.getElem?_singleton] at hlast
      split at hlast
      · obtain rfl := Option.some.inj hlast
        exact hd
      · cases hlast
  | stopResolved n awaits h hresolved =>
    intro m call hcall
    by_cases hm : n = m
    · subst hm
      have hlt : n < s.stops.length := (List.getElem?_eq_some_iff.1 h).1
      rw [List.getElem?_set_self hlt] at hcall
      obtain rfl := Option.some.inj hcall
      exact ⟨(hawaits n _ h).1, (hawaits n _ h).2⟩
    · rw [List.getElem?_set_ne hm] at hcall
      exact hawaits m call hcall
  | _ => exact hawaits

theorem returned_move (hs : Sound s) (h : Move K s s') :
    ∀ call, Event.stopResolved call ∈ s'.log → s'.stopped = true ∧ s'.draining = none := by
  have hreturned := hs.returned
  cases h with
  | begun _ hopen =>
    intro call hcall
    rw [(hreturned call hcall).1] at hopen
    cases hopen
  | started d task h _ =>
    intro call hcall
    have hnone := (hreturned call (by cases task <;> simpa [State.record, State.taken, State.moved] using hcall)).2
    rw [hs.draining_of h rfl] at hnone
    cases hnone
  | cleared d h =>
    intro call hcall
    exact ⟨(hreturned call hcall).1, if_pos (hs.draining_of h rfl)⟩
  | stopResolved n awaits h hresolved =>
    intro call _
    obtain ⟨hstopped, hawait⟩ := hs.awaits n _ h
    refine ⟨hstopped, ?_⟩
    -- the drain it awaited is through, and no other can have begun
    cases hd : s.draining with
    | none => rfl
    | some d =>
      obtain rfl := hawait d hd
      exact absurd hd (hs.not_draining (x := .resolved) (by simpa [State.hasResolved] using hresolved) rfl)
  | exited | returned => exact hreturned
  | stopped => exact fun call hcall => ⟨rfl, (hreturned call (by simpa [stop] using hcall)).2⟩
  | _ =>
    intro call hcall
    exact hreturned call (by simpa [State.record, State.requesting, State.moved] using hcall)

theorem Sound.move (hs : Sound s) (h : Move K s s') : Sound s' where
  idle := idle_move hs h
  stops := stops_move hs h
  owed := owed_move hs h
  refers := refers_move hs h
  runs := runs_move hs h
  awaits := awaits_move hs h
  returned := returned_move hs h

/-! ## Tasks and stops -/

structure Orderly (s : State) : Prop where
  alone : Throughout Alone s.log
  yields : Throughout Yields s.log
  quiet : Throughout Quiet s.log

theorem not_upgradeRequested_of_next (h : s.next = some .idleSweep) : s.requested .upgradeRolloutWorker = false := by
  unfold State.next at h
  cases hup : s.upgradeRequested with
  | false => exact hup
  | true => simp [hup] at h

/-- An event about neither a start nor the end of a stop. -/
theorem Orderly.cons {event : Event} (h : Orderly s) (hlog : s'.log = event :: s.log) (hstart : ∀ task, event ≠ .started task)
    (hstop : ∀ call, event ≠ .stopResolved call) : Orderly s' where
  alone := by
    rw [hlog]
    exact throughout_cons.2 ⟨fun task he => absurd he (hstart task), h.alone⟩
  yields := by
    rw [hlog]
    exact throughout_cons.2 ⟨fun he => absurd he (hstart _), h.yields⟩
  quiet := by
    rw [hlog]
    exact throughout_cons.2 ⟨⟨fun call he => absurd he (hstop call), fun task _ he => absurd he (hstart task)⟩, h.quiet⟩

theorem Orderly.move (hs : Sound s) (h : Orderly s) (hmove : Move K s s') : Orderly s' := by
  have hs' := hs.move hmove
  cases hmove with
  | begun | exited | returned | cleared => exact ⟨h.alone, h.yields, h.quiet⟩
  | started d task hd hnext =>
    have hnone : running s.log = none := by
      rw [hs.runs, hs.current_of hd rfl]
      rfl
    have hlog : (((s.taken task).moved d (.running task)).record (.started task)).log = .started task :: s.log := by
      cases task <;> rfl
    constructor <;> rw [hlog] <;> refine throughout_cons.2 ⟨?_, ?_⟩
    · exact fun _ _ => hnone
    · exact h.alone
    · intro he
      rw [Event.started.inj he] at hnext
      rw [← hs.owed]
      exact not_upgradeRequested_of_next hnext
    · exact h.yields
    · refine ⟨fun _ _ => hnone, fun _ call _ hcall => ?_⟩
      have hnot := (hs.returned call hcall).2
      rw [hs.draining_of hd rfl] at hnot
      cases hnot
    · exact h.quiet
  | stopResolved n awaits hcall hresolved =>
    have hnot : s.draining = none := (hs'.returned n List.mem_cons_self).2
    refine ⟨throughout_cons.2 ⟨nofun, h.alone⟩, throughout_cons.2 ⟨nofun, h.yields⟩, throughout_cons.2 ⟨⟨?_, nofun⟩, h.quiet⟩⟩
    intro _ _
    rw [hs.runs, State.current, hnot]
    rfl
  | _ => exact h.cons rfl nofun nofun

end OpenApp.Maintenance
