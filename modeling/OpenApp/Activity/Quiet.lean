import Mathlib.Data.List.Induction
import Mathlib.Order.WithBotTop
import OpenApp.Activity.QuietWindow

/-!
# What a ready instance has been through

A sample that is kept stands for all that were taken after it. From this, an instance that is found ready has
been quiet for a whole window, and one that is confirmed is as it was when it was last found ready.
-/

namespace OpenApp.Activity

open InstanceUpgradeActivityPolicy

/-- A call, and what came of it. -/
structure Entry where
  call : Call
  outcome : Outcome

/-- All calls so far, and what the policy remembers after them. -/
structure Record where
  trace : List Entry
  memory : Memory

def Record.extend (policy : InstanceUpgradeActivityPolicy) (record : Record) (call : Call) : Record where
  trace := record.trace ++ [⟨call, (policy.step record.memory call).2⟩]
  memory := (policy.step record.memory call).1

/-- A policy starts without any memory. -/
def record (policy : InstanceUpgradeActivityPolicy) (calls : List Call) : Record :=
  calls.foldl (Record.extend policy) ⟨[], .empty⟩

variable {policy : InstanceUpgradeActivityPolicy} {memory : Memory} {call : Call} {metrics : ContainerActivityMetrics}
  {trace : List Entry}

/-! ## What one call does -/

/-- The call saw no use of the instance: no stream, no connection that was used in the window, and, where it
assesses, no activity in the window. -/
structure Undisturbed (policy : InstanceUpgradeActivityPolicy) (call : Call) : Prop where
  stream : ∀ leases ∈ call.leases, ∀ lease ∈ leases, lease.kind ≠ .http
  socket : ∀ leases ∈ call.leases, ∀ lease ∈ leases, policy.recentlyActive call.now lease = false
  activity : call.method = .assess → call.leases.isSome = true →
    ∀ at' ∈ policy.dateParse call.lastActivityAt, policy.beforeWindow call.now at' = true

/-- Both samples show a load and counters of an instance that is not in use. -/
structure Alike (policy : InstanceUpgradeActivityPolicy) (earlier later : ContainerActivityMetrics) : Prop where
  counters : unchanged earlier later = true
  earlierLow : policy.low earlier = true
  laterLow : policy.low later = true

/-- What an assessment may come to. -/
inductive Assesses (policy : InstanceUpgradeActivityPolicy) (memory : Memory) (call : Call) : Memory × Outcome → Prop
  | threw : Undisturbed policy call → Assesses policy memory call (threw memory)
  | blocked (reason : String) : Assesses policy memory call (blocked memory call.instanceId reason)
  /-- the older sample is a whole window old -/
  | ready (previous : ActivityObservation) (metrics : ContainerActivityMetrics) :
    memory.observations call.instanceId = some previous → Undisturbed policy call →
    (∃ at', policy.dateParse call.lastActivityAt = some at' ∧ policy.beforeWindow call.now at' = true) →
    Alike policy previous.metrics metrics →
    policy.beforeWindow call.now previous.sampledAt = true →
    Assesses policy memory call
      (memory.setReady call.instanceId (some ⟨⟨call.now, metrics⟩, call.rolloutId, call.attemptId, call.lastActivityAt⟩),
        ⟨some .ready, some metrics⟩)
  /-- the older sample stays -/
  | kept (previous : ActivityObservation) (metrics : ContainerActivityMetrics) :
    memory.observations call.instanceId = some previous → Undisturbed policy call →
    Alike policy previous.metrics metrics →
    Assesses policy memory call
      (memory.setReady call.instanceId none, ⟨some (.notReady "activity_observation"), some metrics⟩)
  /-- the new sample takes its place -/
  | replaced (metrics : ContainerActivityMetrics) : Undisturbed policy call →
    Assesses policy memory call
      ((memory.setReady call.instanceId none).observe call.instanceId (some ⟨call.now, metrics⟩),
        ⟨some (.notReady "activity_observation"), some metrics⟩)

theorem judge_cases (hundisturbed : Undisturbed policy call)
    (hactivity : ∃ at', policy.dateParse call.lastActivityAt = some at' ∧ policy.beforeWindow call.now at' = true) :
    Assesses policy memory call (policy.judge memory call metrics) := by
  unfold judge
  cases hprevious : memory.observations call.instanceId with
  | none => exact .replaced metrics hundisturbed
  | some previous =>
    simp only [Option.any_some, Option.all_some, Option.isNone_some, Bool.false_or]
    split
    · next hready =>
      simp only [Bool.and_eq_true] at hready
      obtain ⟨⟨hunchanged, hquiet⟩, hlow, hlow'⟩ := hready
      exact .ready previous metrics hprevious hundisturbed hactivity ⟨hunchanged, hlow', hlow⟩ hquiet
    · split
      · exact .replaced metrics hundisturbed
      · next hkeep =>
        simp only [Bool.or_eq_true, Bool.not_eq_true', Bool.and_eq_false_iff, not_or] at hkeep
        obtain ⟨⟨hunchanged, hlow, hlow'⟩, -⟩ := hkeep
        refine .kept previous metrics hprevious hundisturbed ⟨?_, ?_, ?_⟩
        · simpa using hunchanged
        · simpa using hlow'
        · simpa using hlow

theorem leaseBlocker_none {now : Int} {leases : List ActiveLease} (h : policy.leaseBlocker now leases = none) :
    (∀ lease ∈ leases, lease.kind ≠ .http) ∧ ∀ lease ∈ leases, policy.recentlyActive now lease = false := by
  unfold leaseBlocker at h
  split at h
  · cases h
  · next hstream =>
    split at h
    · cases h
    · next hsocket =>
      simp only [List.any_eq_true, decide_eq_true_eq, not_exists, not_and] at hstream hsocket
      exact ⟨hstream, fun lease hlease => by simpa using hsocket lease hlease⟩

theorem assess_cases : Assesses policy memory call (policy.assess memory call) := by
  unfold assess
  cases hleases : call.leases with
  | none => exact .threw ⟨by simp [hleases], by simp [hleases], by simp [hleases]⟩
  | some leases =>
    dsimp only
    cases hblocker : policy.leaseBlocker call.now leases with
    | some reason => exact .blocked reason
    | none =>
      dsimp only
      obtain ⟨hstream, hsocket⟩ := leaseBlocker_none hblocker
      cases hparse : policy.dateParse call.lastActivityAt with
      | none => exact .blocked _
      | some at' =>
        dsimp only
        split
        · next hbefore =>
          have hundisturbed : Undisturbed policy call := by
            refine ⟨?_, ?_, ?_⟩
            · simpa [hleases] using hstream
            · simpa [hleases] using hsocket
            · simpa [hparse] using fun _ _ => hbefore
          cases call.metrics with
          | unsupported => exact .blocked _
          | unavailable => exact .threw hundisturbed
          | supported metrics => exact judge_cases hundisturbed ⟨at', hparse, hbefore⟩
        · exact .blocked _

/-- What a confirmation may come to. -/
inductive Confirms (policy : InstanceUpgradeActivityPolicy) (memory : Memory) (call : Call) : Memory × Outcome → Prop
  | threw : Undisturbed policy call → Confirms policy memory call (threw memory)
  | blocked (reason : String) : Confirms policy memory call (blocked memory call.instanceId reason)
  | ready (found : ReadyActivityObservation) (metrics : ContainerActivityMetrics) :
    memory.readyObservations call.instanceId = some found → found.rolloutId = call.rolloutId →
    found.attemptId = call.attemptId → found.lastActivityAt = call.lastActivityAt → Undisturbed policy call →
    Alike policy found.metrics metrics →
    Confirms policy memory call
      ((memory.setReady call.instanceId none).observe call.instanceId none, ⟨some .ready, some metrics⟩)
  | resumed (metrics : ContainerActivityMetrics) : Undisturbed policy call →
    Confirms policy memory call
      ((memory.setReady call.instanceId none).observe call.instanceId (some ⟨call.now, metrics⟩),
        ⟨some (.notReady "docker_activity_resumed"), some metrics⟩)

theorem confirmAfterDrain_cases (hmethod : call.method = .confirmAfterDrain) :
    Confirms policy memory call (policy.confirmAfterDrain memory call) := by
  unfold confirmAfterDrain
  split
  · exact .blocked _
  · next found hfound =>
    obtain ⟨hready, hitem⟩ := Option.filter_eq_some_iff.1 hfound
    simp only [Bool.and_eq_true, decide_eq_true_eq] at hitem
    have hactivity : call.method = .assess → call.leases.isSome = true →
        ∀ at' ∈ policy.dateParse call.lastActivityAt, policy.beforeWindow call.now at' = true := by
      rw [hmethod]
      nofun
    cases hleases : call.leases with
    | none => exact .threw ⟨by simp [hleases], by simp [hleases], hactivity⟩
    | some leases =>
      dsimp only
      cases hblocker : policy.leaseBlocker call.now leases with
      | some reason => exact .blocked reason
      | none =>
        dsimp only
        obtain ⟨hstream, hsocket⟩ := leaseBlocker_none hblocker
        have hundisturbed : Undisturbed policy call :=
          ⟨by simpa [hleases] using hstream, by simpa [hleases] using hsocket, hactivity⟩
        split
        · exact .blocked _
        · split
          · exact .blocked _
          · next hsame =>
            rw [ne_eq, not_not] at hsame
            cases call.metrics with
            | unsupported => exact .blocked _
            | unavailable => exact .threw hundisturbed
            | supported metrics =>
              dsimp only
              unfold confirm
              dsimp only
              split
              · next halike =>
                simp only [Bool.and_eq_true] at halike
                exact .ready found metrics hready hitem.1 hitem.2 hsame.symm hundisturbed
                  ⟨halike.1, halike.2.1, halike.2.2⟩
              · exact .resumed metrics hundisturbed

/-! ## What is remembered -/

/-- The sample of a call that assesses, or that found the instance in use again after a drain. -/
structure Samples (policy : InstanceUpgradeActivityPolicy) (id : String) (observation : ActivityObservation)
    (entry : Entry) : Prop where
  id : entry.call.instanceId = id
  now : entry.call.now = observation.sampledAt
  sample : entry.outcome.sample = some observation.metrics
  method : entry.call.method = .assess ∨ entry.outcome.answer = some (.notReady "docker_activity_resumed")
  undisturbed : Undisturbed policy entry.call

/-- Nothing has happened to an instance, whose samples are all like an earlier one. -/
def Uneventful (policy : InstanceUpgradeActivityPolicy) (id : String) (earlier : ContainerActivityMetrics)
    (entries : List Entry) : Prop :=
  ∀ entry ∈ entries, entry.call.instanceId = id →
    Undisturbed policy entry.call ∧ ∀ metrics ∈ entry.outcome.sample, Alike policy earlier metrics

/-- The observation was made by a call, after which nothing has happened. -/
def Kept (policy : InstanceUpgradeActivityPolicy) (id : String) (observation : ActivityObservation) (trace : List Entry) :
    Prop :=
  ∃ before base later, trace = before ++ base :: later ∧ Samples policy id observation base ∧
    Uneventful policy id observation.metrics later

/-- The call found the instance ready. -/
def FindsReady (id : String) (entry : Entry) : Prop :=
  entry.call.method = .assess ∧ entry.call.instanceId = id ∧ entry.outcome.answer = some .ready

/-- The observation is from the last call that found the instance ready. -/
def LastReady (id : String) (found : ReadyActivityObservation) (trace : List Entry) : Prop :=
  ∃ before base later, trace = before ++ base :: later ∧ FindsReady id base ∧ (∀ entry ∈ later, ¬ FindsReady id entry) ∧
    base.outcome.sample = some found.metrics ∧ base.call.rolloutId = found.rolloutId ∧
    base.call.attemptId = found.attemptId ∧ base.call.lastActivityAt = found.lastActivityAt

/-- What is remembered of every instance. -/
structure Remembers (policy : InstanceUpgradeActivityPolicy) (trace : List Entry) (memory : Memory) : Prop where
  observation : ∀ id observation, memory.observations id = some observation → Kept policy id observation trace
  ready : ∀ id found, memory.readyObservations id = some found → LastReady id found trace

theorem Kept.extend {id : String} {observation : ActivityObservation} {entry : Entry}
    (h : Kept policy id observation trace) (hentry : Uneventful policy id observation.metrics [entry]) :
    Kept policy id observation (trace ++ [entry]) := by
  obtain ⟨before, base, later, rfl, hsamples, hlater⟩ := h
  refine ⟨before, base, later ++ [entry], by simp, hsamples, ?_⟩
  intro other hother
  rcases List.mem_append.1 hother with hmem | hmem
  · exact hlater other hmem
  · exact hentry other hmem

theorem LastReady.extend {id : String} {found : ReadyActivityObservation} {entry : Entry}
    (h : LastReady id found trace) (hentry : ¬ FindsReady id entry) : LastReady id found (trace ++ [entry]) := by
  obtain ⟨before, base, later, rfl, hready, hlater, hrest⟩ := h
  refine ⟨before, base, later ++ [entry], by simp, hready, ?_, hrest⟩
  intro other hother
  rcases List.mem_append.1 hother with hmem | hmem
  · exact hlater other hmem
  · obtain rfl := List.mem_singleton.1 hmem
    exact hentry

theorem Kept.last {entry : Entry} {observation : ActivityObservation} {id : String}
    (h : Samples policy id observation entry) : Kept policy id observation (trace ++ [entry]) :=
  ⟨trace, entry, [], rfl, h, by simp [Uneventful]⟩

/-- A call leaves what is remembered of other instances as it is. -/
theorem step_other {id : String} (hid : id ≠ call.instanceId) :
    (policy.step memory call).1.observations id = memory.observations id ∧
      (policy.step memory call).1.readyObservations id = memory.readyObservations id := by
  unfold step
  split
  · have hcases : Assesses policy memory call (policy.assess memory call) := assess_cases
    generalize policy.assess memory call = result at hcases ⊢
    cases hcases <;>
      simp [threw, blocked, Memory.clearObservations, Memory.observe, Memory.setReady, Function.update_of_ne hid]
  · next hmethod =>
    have hcases := @confirmAfterDrain_cases policy memory call hmethod
    generalize policy.confirmAfterDrain memory call = result at hcases ⊢
    cases hcases <;>
      simp [threw, blocked, Memory.clearObservations, Memory.observe, Memory.setReady, Function.update_of_ne hid]

/-! ## What a call leaves behind -/

section Steps

variable {result : Memory × Outcome}

theorem uneventful_of_ne {id : String} {earlier : ContainerActivityMetrics} {entry : Entry} (h : id ≠ entry.call.instanceId) :
    Uneventful policy id earlier [entry] := by
  intro other hother hid
  obtain rfl := List.mem_singleton.1 hother
  exact absurd hid.symm h

theorem uneventful_singleton {earlier : ContainerActivityMetrics} {outcome : Outcome}
    (hundisturbed : Undisturbed policy call) (halike : ∀ metrics ∈ outcome.sample, Alike policy earlier metrics) :
    Uneventful policy call.instanceId earlier [⟨call, outcome⟩] := by
  intro other hother _
  obtain rfl := List.mem_singleton.1 hother
  exact ⟨hundisturbed, halike⟩

@[simp] theorem observations_clear {id : String} : (memory.clearObservations id).observations id = none := by
  simp [Memory.clearObservations, Memory.observe, Memory.setReady]

@[simp] theorem readyObservations_clear {id : String} : (memory.clearObservations id).readyObservations id = none := by
  simp [Memory.clearObservations, Memory.setReady]

@[simp] theorem observations_setReady {id : String} {found : Option ReadyActivityObservation} :
    (memory.setReady id found).observations = memory.observations := rfl

@[simp] theorem readyObservations_setReady {id : String} {found : Option ReadyActivityObservation} :
    (memory.setReady id found).readyObservations id = found := by
  simp [Memory.setReady]

@[simp] theorem observations_observe {id : String} {observation : Option ActivityObservation} :
    (memory.observe id observation).observations id = observation := by
  simp [Memory.observe]

@[simp] theorem readyObservations_observe {id : String} {observation : Option ActivityObservation} :
    (memory.observe id observation).readyObservations = memory.readyObservations := rfl

theorem kept_of_assesses (h : Remembers policy trace memory) (hmethod : call.method = .assess)
    (hresult : Assesses policy memory call result) {observation : ActivityObservation}
    (hobservation : result.1.observations call.instanceId = some observation) :
    Kept policy call.instanceId observation (trace ++ [⟨call, result.2⟩]) := by
  cases hresult with
  | threw hundisturbed =>
    exact (h.observation _ _ hobservation).extend (uneventful_singleton hundisturbed nofun)
  | blocked reason => simp [blocked] at hobservation
  | ready previous metrics hprevious hundisturbed hactivity halike hquiet =>
    rw [observations_setReady, hprevious] at hobservation
    obtain rfl := Option.some.inj hobservation
    exact (h.observation _ _ hprevious).extend (uneventful_singleton hundisturbed (by simpa using halike))
  | kept previous metrics hprevious hundisturbed halike =>
    rw [observations_setReady, hprevious] at hobservation
    obtain rfl := Option.some.inj hobservation
    exact (h.observation _ _ hprevious).extend (uneventful_singleton hundisturbed (by simpa using halike))
  | replaced metrics hundisturbed =>
    rw [observations_observe] at hobservation
    obtain rfl := Option.some.inj hobservation
    exact .last ⟨rfl, rfl, rfl, .inl hmethod, hundisturbed⟩

theorem lastReady_of_assesses (h : Remembers policy trace memory) (hmethod : call.method = .assess)
    (hresult : Assesses policy memory call result) {found : ReadyActivityObservation}
    (hfound : result.1.readyObservations call.instanceId = some found) :
    LastReady call.instanceId found (trace ++ [⟨call, result.2⟩]) := by
  cases hresult with
  | threw hundisturbed => exact (h.ready _ _ hfound).extend fun hready => nomatch hready.2.2
  | blocked reason => simp [blocked] at hfound
  | ready previous metrics hprevious hundisturbed hactivity halike hquiet =>
    rw [readyObservations_setReady] at hfound
    obtain rfl := Option.some.inj hfound
    have hlater : ∀ entry ∈ ([] : List Entry), ¬ FindsReady call.instanceId entry := by simp
    exact ⟨trace, ⟨call, some .ready, some metrics⟩, [], rfl, ⟨hmethod, rfl, rfl⟩, hlater, rfl, rfl, rfl, rfl⟩
  | kept previous metrics hprevious hundisturbed halike => simp at hfound
  | replaced metrics hundisturbed => simp at hfound

theorem kept_of_confirms (h : Remembers policy trace memory) (hresult : Confirms policy memory call result)
    {observation : ActivityObservation} (hobservation : result.1.observations call.instanceId = some observation) :
    Kept policy call.instanceId observation (trace ++ [⟨call, result.2⟩]) := by
  cases hresult with
  | threw hundisturbed =>
    exact (h.observation _ _ hobservation).extend (uneventful_singleton hundisturbed nofun)
  | blocked reason => simp [blocked] at hobservation
  | ready found metrics hready hrollout hattempt hactivity hundisturbed halike => simp at hobservation
  | resumed metrics hundisturbed =>
    rw [observations_observe] at hobservation
    obtain rfl := Option.some.inj hobservation
    exact .last ⟨rfl, rfl, rfl, .inr rfl, hundisturbed⟩

theorem lastReady_of_confirms (h : Remembers policy trace memory) (hresult : Confirms policy memory call result)
    {found : ReadyActivityObservation} (hfound : result.1.readyObservations call.instanceId = some found) :
    LastReady call.instanceId found (trace ++ [⟨call, result.2⟩]) := by
  cases hresult with
  | threw hundisturbed => exact (h.ready _ _ hfound).extend fun hready => nomatch hready.2.2
  | blocked reason => simp [blocked] at hfound
  | ready ready metrics hready hrollout hattempt hactivity hundisturbed halike => simp at hfound
  | resumed metrics hundisturbed => simp at hfound

end Steps

theorem Remembers.step (h : Remembers policy trace memory) (call : Call) :
    Remembers policy (trace ++ [⟨call, (policy.step memory call).2⟩]) (policy.step memory call).1 := by
  constructor
  · intro id observation hobservation
    by_cases hid : id = call.instanceId
    · subst hid
      unfold InstanceUpgradeActivityPolicy.step at hobservation ⊢
      cases hmethod : call.method with
      | assess =>
        rw [hmethod] at hobservation
        exact kept_of_assesses h hmethod assess_cases hobservation
      | confirmAfterDrain =>
        rw [hmethod] at hobservation
        exact kept_of_confirms h (confirmAfterDrain_cases hmethod) hobservation
    · rw [(step_other hid).1] at hobservation
      exact (h.observation id observation hobservation).extend (uneventful_of_ne hid)
  · intro id found hfound
    by_cases hid : id = call.instanceId
    · subst hid
      unfold InstanceUpgradeActivityPolicy.step at hfound ⊢
      cases hmethod : call.method with
      | assess =>
        rw [hmethod] at hfound
        exact lastReady_of_assesses h hmethod assess_cases hfound
      | confirmAfterDrain =>
        rw [hmethod] at hfound
        exact lastReady_of_confirms h (confirmAfterDrain_cases hmethod) hfound
    · rw [(step_other hid).2] at hfound
      exact (h.ready id found hfound).extend fun hready => hid hready.2.1.symm

/-! ## Runs -/

/-- The call comes a window or more after one that took a sample. All calls for the instance from that one on saw
no use of it, and all their samples show a low load and the counters that the last one shows. -/
structure QuietSince (policy : InstanceUpgradeActivityPolicy) (base : Entry) (between : List Entry) (entry : Entry) :
    Prop where
  instanceId : base.call.instanceId = entry.call.instanceId
  method : base.call.method = .assess ∨ base.outcome.answer = some (.notReady "docker_activity_resumed")
  window : (base.call.now : ℚ) ≤ entry.call.now - policy.quietWindowMs
  sampled : base.outcome.sample.isSome = true ∧ entry.outcome.sample.isSome = true
  quiet : ∀ other ∈ base :: between ++ [entry], other.call.instanceId = entry.call.instanceId →
    Undisturbed policy other.call ∧ ∀ metrics ∈ other.outcome.sample, policy.low metrics = true ∧
      ∀ last ∈ entry.outcome.sample, unchanged metrics last = true
  activity : ∃ at', policy.dateParse entry.call.lastActivityAt = some at' ∧
    (at' : ℚ) ≤ entry.call.now - policy.quietWindowMs

/-- The call is for the item for which the instance was last found ready, which is still as it was then. -/
structure ConfirmsReady (last entry : Entry) : Prop where
  rolloutId : last.call.rolloutId = entry.call.rolloutId
  attemptId : last.call.attemptId = entry.call.attemptId
  lastActivityAt : last.call.lastActivityAt = entry.call.lastActivityAt
  counters : ∃ earlier ∈ last.outcome.sample, ∃ later ∈ entry.outcome.sample, unchanged earlier later = true

/-- What the answers of a policy mean. -/
structure Sound (policy : InstanceUpgradeActivityPolicy) (trace : List Entry) : Prop where
  assessed : ∀ before entry after, trace = before ++ entry :: after → entry.call.method = .assess →
    entry.outcome.answer = some .ready →
      ∃ earlier base between, before = earlier ++ base :: between ∧ QuietSince policy base between entry
  confirmed : ∀ before entry after, trace = before ++ entry :: after → entry.call.method = .confirmAfterDrain →
    entry.outcome.answer = some .ready →
      ∃ earlier last later, before = earlier ++ last :: later ∧ FindsReady entry.call.instanceId last ∧
        (∀ other ∈ later, ¬ FindsReady entry.call.instanceId other) ∧ ConfirmsReady last entry

theorem record_snoc (policy : InstanceUpgradeActivityPolicy) (calls : List Call) (call : Call) :
    record policy (calls ++ [call]) = (record policy calls).extend policy call := by
  unfold record
  rw [List.foldl_append]
  rfl

theorem remembers_record (policy : InstanceUpgradeActivityPolicy) (calls : List Call) :
    Remembers policy (record policy calls).trace (record policy calls).memory := by
  induction calls using List.reverseRecOn with
  | nil =>
    exact ⟨fun _ found h => absurd h (Option.some_ne_none found).symm,
      fun _ found h => absurd h (Option.some_ne_none found).symm⟩
  | append_singleton calls call ih =>
    rw [record_snoc]
    exact ih.step call

theorem unchanged_trans {a b c : ContainerActivityMetrics} (hab : unchanged a b = true) (hac : unchanged a c = true) :
    unchanged b c = true := by
  simp only [unchanged, Bool.and_eq_true] at *
  exact ⟨Figure.same_trans hab.1 hac.1, Figure.same_trans hab.2 hac.2⟩

/-- An assessment that finds the instance ready, from what is remembered. -/
theorem quietSince_of_ready (h : Remembers policy trace memory) (hmethod : call.method = .assess)
    (hready : (policy.step memory call).2.answer = some .ready) :
    ∃ earlier base between, trace = earlier ++ base :: between ∧
      QuietSince policy base between ⟨call, (policy.step memory call).2⟩ := by
  unfold InstanceUpgradeActivityPolicy.step at hready ⊢
  rw [hmethod] at hready ⊢
  dsimp only at hready ⊢
  have hcases : Assesses policy memory call (policy.assess memory call) := assess_cases
  generalize policy.assess memory call = result at hcases hready ⊢
  cases hcases with
  | threw => cases hready
  | blocked reason => cases hready
  | kept => cases hready
  | replaced => cases hready
  | ready previous metrics hprevious hundisturbed hactivity halike hquiet =>
    obtain ⟨earlier, base, between, rfl, hsamples, hbetween⟩ := h.observation _ _ hprevious
    refine ⟨earlier, base, between, rfl, hsamples.id, hsamples.method, ?_, ⟨?_, rfl⟩, ?_, ?_⟩
    · rw [hsamples.now]
      simpa [beforeWindow] using hquiet
    · rw [hsamples.sample]
      rfl
    · intro other hother hid
      rcases List.mem_append.1 hother with hmem | hmem
      · rcases List.mem_cons.1 hmem with rfl | hmem
        · refine ⟨hsamples.undisturbed, fun sample hsample => ?_⟩
          rw [hsamples.sample] at hsample
          obtain rfl := Option.some.inj hsample
          refine ⟨halike.earlierLow, fun last hlast => ?_⟩
          obtain rfl := Option.some.inj hlast
          exact halike.counters
        · obtain ⟨hother', hsample'⟩ := hbetween other hmem hid
          refine ⟨hother', fun sample hsample => ⟨(hsample' sample hsample).laterLow, fun last hlast => ?_⟩⟩
          obtain rfl := Option.some.inj hlast
          exact unchanged_trans (hsample' sample hsample).counters halike.counters
      · obtain rfl := List.mem_singleton.1 hmem
        refine ⟨hundisturbed, fun sample hsample => ?_⟩
        obtain rfl := Option.some.inj hsample
        refine ⟨halike.laterLow, fun last hlast => ?_⟩
        obtain rfl := Option.some.inj hlast
        exact unchanged_trans halike.counters halike.counters
    · obtain ⟨at', hparse, hbefore⟩ := hactivity
      exact ⟨at', hparse, by simpa [beforeWindow] using hbefore⟩

/-- A confirmation, from what is remembered. -/
theorem confirmsReady_of_ready (h : Remembers policy trace memory) (hmethod : call.method = .confirmAfterDrain)
    (hready : (policy.step memory call).2.answer = some .ready) :
    ∃ earlier last later, trace = earlier ++ last :: later ∧ FindsReady call.instanceId last ∧
      (∀ other ∈ later, ¬ FindsReady call.instanceId other) ∧ ConfirmsReady last ⟨call, (policy.step memory call).2⟩ := by
  unfold InstanceUpgradeActivityPolicy.step at hready ⊢
  rw [hmethod] at hready ⊢
  dsimp only at hready ⊢
  have hcases := @confirmAfterDrain_cases policy memory call hmethod
  generalize policy.confirmAfterDrain memory call = result at hcases hready ⊢
  cases hcases with
  | threw => cases hready
  | blocked reason => cases hready
  | resumed => cases hready
  | ready found metrics hfound hrollout hattempt hactivity hundisturbed halike =>
    obtain ⟨earlier, last, later, rfl, hlast, hlater, hsample, hrollout', hattempt', hactivity'⟩ := h.ready _ _ hfound
    exact ⟨earlier, last, later, rfl, hlast, hlater, hrollout'.trans hrollout, hattempt'.trans hattempt,
      hactivity'.trans hactivity, _, hsample, _, rfl, halike.counters⟩

theorem Sound.snoc {entry : Entry} (h : Sound policy trace)
    (hassessed : entry.call.method = .assess → entry.outcome.answer = some .ready →
      ∃ earlier base between, trace = earlier ++ base :: between ∧ QuietSince policy base between entry)
    (hconfirmed : entry.call.method = .confirmAfterDrain → entry.outcome.answer = some .ready →
      ∃ earlier last later, trace = earlier ++ last :: later ∧ FindsReady entry.call.instanceId last ∧
        (∀ other ∈ later, ¬ FindsReady entry.call.instanceId other) ∧ ConfirmsReady last entry) :
    Sound policy (trace ++ [entry]) := by
  -- a place in the longer trace is one in the shorter, or the new one
  have hplace : ∀ before other after, trace ++ [entry] = before ++ other :: after →
      (∃ rest, trace = before ++ other :: rest) ∨ (before = trace ∧ other = entry) := by
    intro before other after heq
    rcases List.eq_nil_or_concat after with rfl | ⟨rest, final, rfl⟩
    · obtain ⟨hbefore, hother⟩ := List.append_inj' heq rfl
      exact .inr ⟨hbefore.symm, (List.cons.inj hother).1.symm⟩
    · have hsplit : trace ++ [entry] = (before ++ other :: rest) ++ [final] := by
        rw [heq, List.concat_eq_append, List.append_assoc, List.cons_append]
      exact .inl ⟨rest, (List.append_inj' hsplit rfl).1⟩
  constructor
  · intro before other after heq hmethod hready
    rcases hplace before other after heq with ⟨rest, hshorter⟩ | ⟨rfl, rfl⟩
    · exact h.assessed before other rest hshorter hmethod hready
    · exact hassessed hmethod hready
  · intro before other after heq hmethod hready
    rcases hplace before other after heq with ⟨rest, hshorter⟩ | ⟨rfl, rfl⟩
    · exact h.confirmed before other rest hshorter hmethod hready
    · exact hconfirmed hmethod hready

/-- In every run, a ready instance has been quiet for a window, and a confirmed one has stayed as it was. -/
theorem ready_after_quiet_window (policy : InstanceUpgradeActivityPolicy) (calls : List Call) :
    Sound policy (record policy calls).trace := by
  induction calls using List.reverseRecOn with
  | nil => exact ⟨fun before _ _ h => by simp [record] at h, fun before _ _ h => by simp [record] at h⟩
  | append_singleton calls call ih =>
    have hremembers := remembers_record policy calls
    rw [record_snoc]
    exact ih.snoc (quietSince_of_ready hremembers) (confirmsReady_of_ready hremembers)

/-- A window of a minute, and a clock of whole numbers. -/
def samplePolicy : InstanceUpgradeActivityPolicy where
  quietWindowMs := 60000
  busyCpuPercent := some (5 : ℚ)
  dateParse _ := some 0

def sampleCall (method : Method) (now : Int) (networkRxBytes : ℚ) : Call where
  method := method
  instanceId := "7f"
  lastActivityAt := "0"
  rolloutId := "r1"
  attemptId := none
  now := now
  leases := some []
  metrics := .supported ⟨some (1 : ℚ), some networkRxBytes, some (0 : ℚ)⟩

/-- The clock goes back, so the window starts anew; traffic after the drain is seen. -/
example :
    (record samplePolicy [sampleCall .assess 90000 10, sampleCall .assess 70000 10, sampleCall .assess 130000 10,
        sampleCall .confirmAfterDrain 131000 11]).trace.map (·.outcome.answer) =
      [some (.notReady "activity_observation"), some (.notReady "activity_observation"), some .ready,
        some (.notReady "docker_activity_resumed")] := by
  decide +kernel

end OpenApp.Activity
