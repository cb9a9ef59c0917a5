import Mathlib.Data.List.Basic

/-!
# The maintenance of the portal

Requests for two periodic tasks meet in two flags and one drain. A drain is known by its number, and stands where the
continuation that is pending will go on: between two of them anybody may ask for more, or stop the maintenance.
-/

namespace OpenApp.Maintenance

inductive PortalMaintenanceTask
  | upgradeRolloutWorker | idleSweep
  deriving DecidableEq

inductive Outcome
  | resolved | rejected
  deriving DecidableEq

inductive Drain
  /-- the promise of the task is pending -/
  | running (task : PortalMaintenanceTask)
  /-- it has settled, and `runTask` has not gone on -/
  | settled (task : PortalMaintenanceTask) (outcome : Outcome)
  /-- at the head of the loop -/
  | looping
  /-- the loop is left, and `finally` has not run -/
  | exited
  /-- `finally` has run, and its promise has not resolved -/
  | cleared
  | resolved
  deriving DecidableEq

/-- A call of `stop`: the drain it awaits, and whether its promise has resolved. -/
structure StopCall where
  awaits : Option Nat
  returned : Bool
  deriving DecidableEq

inductive Event
  /-- what is asked for, and the drain whose promise is returned; none once stopped -/
  | request (named : List PortalMaintenanceTask) (promise : Option Nat)
  | started (task : PortalMaintenanceTask)
  | finished (task : PortalMaintenanceTask)
  | error (task : PortalMaintenanceTask)
  /-- the promise of the drain resolves -/
  | resolved (drain : Nat)
  | stop
  | stopResolved (call : Nat)
  deriving DecidableEq

structure State where
  upgradeRequested : Bool
  sweepRequested : Bool
  draining : Option Nat
  stopped : Bool
  /-- the drains so far -/
  drains : List Drain
  stops : List StopCall
  /-- the latest first -/
  log : List Event
  deriving DecidableEq

def initial : State := ⟨false, false, none, false, [], [], []⟩

namespace State

def record (s : State) (event : Event) : State := { s with log := event :: s.log }

def moved (s : State) (d : Nat) (drain : Drain) : State := { s with drains := s.drains.set d drain }

def requested (s : State) : PortalMaintenanceTask → Bool
  | .upgradeRolloutWorker => s.upgradeRequested
  | .idleSweep => s.sweepRequested

/-- The flags of these tasks are set. -/
def requesting (s : State) (named : List PortalMaintenanceTask) : State :=
  { s with
    upgradeRequested := s.upgradeRequested || named.contains .upgradeRolloutWorker
    sweepRequested := s.sweepRequested || named.contains .idleSweep }

/-- The flag of a task the drain takes up. -/
def taken (s : State) : PortalMaintenanceTask → State
  | .upgradeRolloutWorker => { s with upgradeRequested := false }
  | .idleSweep => { s with sweepRequested := false }

/-- The task that comes next. -/
def next (s : State) : Option PortalMaintenanceTask :=
  if s.upgradeRequested then some .upgradeRolloutWorker
  else if s.sweepRequested then some .idleSweep
  else none

end State

/-- `#drain`, from the head of its loop to what it awaits next. -/
def drain (d : Nat) (s : State) : State :=
  match s.next with
  | some task => ((s.taken task).moved d (.running task)).record (.started task)
  | none => s.moved d .exited

def ensureDrain (s : State) : State :=
  match s.draining with
  | some _ => s
  | none => { drain s.drains.length { s with drains := s.drains ++ [.looping] } with draining := some s.drains.length }

def request (named : List PortalMaintenanceTask) (s : State) : State :=
  if s.stopped then s.record (.request named none)
  else ensureDrain ((s.requesting named).record (.request named (some (s.draining.getD s.drains.length))))

def requestUpgradeRun (s : State) : State := request [.upgradeRolloutWorker] s

def requestMaintenanceCycle (s : State) : State := request [.upgradeRolloutWorker, .idleSweep] s

def stop (s : State) : State :=
  { s with
    stopped := true
    upgradeRequested := false
    sweepRequested := false
    stops := s.stops ++ [⟨s.draining, false⟩]
    log := .stop :: s.log }

/-- What happens next: somebody calls the coordinator, a task settles, or a continuation goes on. -/
inductive Action
  | requestUpgradeRun
  | requestMaintenanceCycle
  | stop
  | settle (d : Nat) (outcome : Outcome)
  | runTask (d : Nat)
  | drain (d : Nat)
  | clear (d : Nat)
  | resolve (d : Nat)
  | stopReturns (call : Nat)
  deriving DecidableEq

def State.hasResolved (s : State) : Option Nat → Bool
  | none => true
  | some d => s.drains[d]? = some .resolved

def step (s : State) : Action → Option State
  | .requestUpgradeRun => some (requestUpgradeRun s)
  | .requestMaintenanceCycle => some (requestMaintenanceCycle s)
  | .stop => some (Maintenance.stop s)
  | .settle d outcome =>
    match s.drains[d]? with
    | some (.running task) => some ((s.moved d (.settled task outcome)).record (.finished task))
    | _ => none
  | .runTask d =>
    match s.drains[d]? with
    | some (.settled _ .resolved) => some (s.moved d .looping)
    | some (.settled task .rejected) => some ((s.moved d .looping).record (.error task))
    | _ => none
  | .drain d =>
    if s.drains[d]? = some .looping then some (Maintenance.drain d s) else none
  | .clear d =>
    if s.drains[d]? = some .exited then
      some { s.moved d .cleared with draining := if s.draining = some d then none else s.draining }
    else none
  | .resolve d =>
    if s.drains[d]? = some .cleared then some ((s.moved d .resolved).record (.resolved d)) else none
  | .stopReturns n =>
    match s.stops[n]? with
    | some ⟨awaits, false⟩ =>
      if s.hasResolved awaits then some { s with stops := s.stops.set n ⟨awaits, true⟩, log := .stopResolved n :: s.log }
      else none
    | _ => none

end OpenApp.Maintenance
