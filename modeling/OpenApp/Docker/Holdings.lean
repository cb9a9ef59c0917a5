import OpenApp.Docker.FailClosed
import OpenApp.Docker.Looking

/-!
# The networks and the volume of an instance are found

What is asked for stands under its name, or under a former one, or is labelled as the instance's, in this order.
Whichever it is, it is what was selected of what stands there.
-/

namespace OpenApp.Docker.Environment

open Async Async.Prog Script
open ContainerLabels (IDENTIFIER_PATTERN)

variable {config : RuntimeConfig} {instanceId : String} {w w' : World}

namespace World

def candidate (w : World) (kind : ManagedResourceKind) (name : String) : Option ManagedResourceCandidate :=
  (w.resource kind name).map (candidateOf kind name)

/-- The candidates under other names than the one that is asked for. -/
def others (w : World) (config : RuntimeConfig) (instanceId : String) (query : ResourceQuery) :
    List ManagedResourceCandidate :=
  let aliasNames := resourceAliasNames config instanceId query.kind query.name
  let candidates := aliasNames.filterMap (w.candidate query.kind)
  if candidates.isEmpty ∧ config.resourceDiscovery = true then
    (((w.listed instanceId query.kind config.labelPrefixes).filter fun name => name ≠ query.name ∧ name ∉ aliasNames).filterMap
      (w.candidate query.kind)).filter fun candidate =>
        query.networkPolicy.any (discoveredNetworkHasOtherRole config candidate) = false
  else candidates

/-- What the selection is given. -/
def candidates (w : World) (config : RuntimeConfig) (instanceId : String) (query : ResourceQuery) :
    List ManagedResourceCandidate :=
  match w.candidate query.kind query.name with
  | some exact => [exact]
  | none => w.others config instanceId query

end World

theorem Looked.candidate (h : Looked w w') (kind : ManagedResourceKind) (name : String) :
    w'.candidate kind name = w.candidate kind name := by
  rw [World.candidate, h.resource, World.candidate]

/-- What is said of a volume depends on the volumes alone. -/
theorem listed_volume (h : w'.resources .volume = w.resources .volume) (labelPrefixes : List String) :
    w'.listed instanceId .volume labelPrefixes = w.listed instanceId .volume labelPrefixes := by
  have hnames (labelPrefix : String) :
      w'.labelledNames instanceId .volume labelPrefix = w.labelledNames instanceId .volume labelPrefix := by
    unfold World.labelledNames
    dsimp only
    rw [h]
  induction labelPrefixes with
  | nil => rfl
  | cons labelPrefix labelPrefixes ih => rw [World.listed, World.listed, hnames, ih]

theorem candidates_volume (h : w'.resources .volume = w.resources .volume) {query : ResourceQuery}
    (hkind : query.kind = .volume) : w'.candidates config instanceId query = w.candidates config instanceId query := by
  have hcandidate : w'.candidate .volume = w.candidate .volume := by
    funext name
    simp only [World.candidate, World.resource, h]
  simp only [World.candidates, World.others, hkind, hcandidate, listed_volume h]

/-- This is found, unless Docker or a signal fails. -/
def Found (found : Prop) : Except RuntimeFailure Unit → Prop
  | .ok _ => found
  | .error failure => ¬ failure.IsOwnership

theorem tells_inspectManagedResourceByName {kind : ManagedResourceKind} {name : String} :
    Tells instanceId w (inspectManagedResourceByName kind name) fun
      | .ok candidate => candidate = w.candidate kind name
      | .error failure => ¬ failure.IsOwnership := by
  refine tells_bind (tells_settle tells_inspectResourceOp (D := Settles (ToldResource w kind name)) fun _ h => h)
    (fun failure h => h.elim) ?_
  rintro (failure | resource) h
  · refine tells_bind (A := Found True) (tells_throwIfAborted trivial fun _ => id) (fun _ h => h) fun _ _ => ?_
    refine tells_bind (A := Found (w.resource kind name = none)) (tells_allowing (fun error heq hmentions => ?_) ?_)
      (fun _ h => h) fun _ hnone => tells_pure ?_
    · subst heq
      exact h hmentions
    · cases failure with
      | docker error => exact id
      | aborted reason => exact id
      | _ => exact h.elim
    · rw [World.candidate, show w.resource kind name = none from hnone, Option.map_none]
  · refine tells_pure ?_
    rw [World.candidate, show w.resource kind name = some resource from h, Option.map_some]

theorem tells_inspectCandidates {kind : ManagedResourceKind} {leftOut : ManagedResourceCandidate → Bool} {names : List String} :
    Tells instanceId w (inspectCandidates kind leftOut names) fun
      | .ok candidates => candidates = (names.filterMap (w.candidate kind)).filter fun candidate => leftOut candidate = false
      | .error failure => ¬ failure.IsOwnership := by
  induction names with
  | nil => exact tells_pure rfl
  | cons name names ih =>
    refine tells_bind tells_inspectManagedResourceByName (fun _ h => h) fun candidate hcandidate => ?_
    refine tells_bind ih (fun _ h => h) fun candidates hcandidates => tells_pure ?_
    obtain rfl := hcandidate
    obtain rfl := hcandidates
    cases hcandidate : w.candidate kind name with
    | none => simp [hcandidate]
    | some candidate => by_cases hleft : leftOut candidate = false <;> simp [hcandidate, Option.filter, hleft]

theorem tells_otherCandidates {query : ResourceQuery} (hkind : query.kind ≠ .container) :
    Tells instanceId w (otherCandidates config instanceId query) fun
      | .ok candidates => candidates = w.others config instanceId query
      | .error failure => ¬ failure.IsOwnership := by
  refine tells_bind tells_inspectCandidates (fun _ h => h) fun candidates hcandidates => ?_
  have hcandidates : candidates = (resourceAliasNames config instanceId query.kind query.name).filterMap
      (w.candidate query.kind) := by
    rw [show candidates = _ from hcandidates]
    simp
  subst hcandidates
  split
  · next hdiscovery =>
    refine tells_bind tells_listManagedResourceNames (fun _ h => h) fun names hnames => ?_
    refine tells_mono tells_inspectCandidates fun r hr => ?_
    cases r with
    | error failure => exact hr
    | ok candidates =>
      dsimp only
      rw [show candidates = _ from hr, hnames.2 hkind, World.others, if_pos hdiscovery]
  · next hdiscovery =>
    refine tells_pure ?_
    rw [World.others, if_neg hdiscovery]

/-! ## What is selected -/

/-- What is said of a resource is what is selected of the candidates. -/
def Selected (config : RuntimeConfig) (instanceId : String) (w : World) (query : ResourceQuery) :
    Except RuntimeFailure (Option ManagedResourceRef) → Prop
  | .ok none => w.candidates config instanceId query = []
  | .ok (some ref) => selectResource config instanceId query (w.candidates config instanceId query) = .ok ref
  | .error failure =>
    failure.IsOwnership → selectResource config instanceId query (w.candidates config instanceId query) = .error failure

/-- What is remembered once a resource was looked for. -/
def refsAfter (w : World) (query : ResourceQuery) : Except RuntimeFailure (Option ManagedResourceRef) → RefKey → Option String
  | .ok (some ref) => (w.withRef query.refKey ref.name).refs
  | _ => w.refs

theorem selectResource_mem {query : ResourceQuery} {candidates : List ManagedResourceCandidate} {ref : ManagedResourceRef}
    (h : selectResource config instanceId query candidates = .ok ref) : ref.toManagedResourceCandidate ∈ candidates := by
  unfold selectResource at h
  split at h
  · cases h
  · next selected hselected =>
    split at h
    · cases h
    · obtain rfl := Except.ok.inj h
      have hmatching := (returned_iff.1 ⟨selected, hselected, rfl⟩).1
      have hmem : selected.toManagedResourceCandidate ∈ matching candidates (query.identity config instanceId) query.kind := by
        rw [hmatching]
        exact List.mem_singleton_self _
      exact (List.mem_filter.1 (List.mem_filter.1 hmem).1).1

theorem ends_selectAndRememberResource {query : ResourceQuery} (hglanced : Glanced w w') :
    ends (perform instanceId) Honest
      (some <$> selectAndRememberResource config instanceId query (w.candidates config instanceId query)) (fun r w' =>
        Looked w w' ∧ Selected config instanceId w query r ∧ w'.refs = refsAfter w query r) w' := by
  change ends _ _ (selectAndRememberResource config instanceId query _ >>= fun ref => pure (some ref)) _ _
  cases hselect : selectResource config instanceId query (w.candidates config instanceId query) with
  | error failure =>
    have htask : selectAndRememberResource config instanceId query (w.candidates config instanceId query) = throw failure := by
      rw [selectAndRememberResource, hselect]
      rfl
    rw [htask]
    exact ⟨hglanced.toLooked, fun _ => hselect, hglanced.refs⟩
  | ok ref =>
    have htask : selectAndRememberResource config instanceId query (w.candidates config instanceId query) =
        await (.remember query.refKey ref.name) >>= fun _ => pure ref := by
      rw [selectAndRememberResource, hselect]
      rfl
    rw [htask, ends_bind, ends_bind]
    refine ends_remember ?_
    refine ⟨hglanced.toLooked.trans (looked_withRef _ _), hselect, ?_⟩
    simp only [World.withRef, refsAfter, hglanced.refs]

/-- A network or a volume is looked for without anything being touched. -/
theorem ends_inspectManagedResource {query : ResourceQuery} (hkind : query.kind ≠ .container) :
    ends (perform instanceId) Honest (inspectManagedResource config instanceId query) (fun r w' =>
      Looked w w' ∧ Selected config instanceId w query r ∧ w'.refs = refsAfter w query r) w := by
  have hplain : ∀ (failure : RuntimeFailure) (w' : World), Glanced w w' ∧ ¬ failure.IsOwnership →
      Looked w w' ∧ Selected config instanceId w query (.error failure) ∧ w'.refs = refsAfter w query (.error failure) :=
    fun failure w' h => ⟨h.1.toLooked, fun howner => absurd howner h.2, h.1.refs⟩
  refine ends_then (tells_inspectManagedResourceByName w (.refl w)) hplain ?_
  rintro (_ | exact) w₁ ⟨hglanced, hexact⟩
  · refine ends_then (tells_otherCandidates hkind w₁ hglanced) hplain ?_
    rintro candidates w₂ ⟨hglanced₂, hcandidates⟩
    have hcandidates : candidates = w.candidates config instanceId query := by
      rw [World.candidates, ← show none = w.candidate query.kind query.name from hexact]
      exact hcandidates
    subst hcandidates
    split
    · next hempty => exact ⟨hglanced₂.toLooked, List.isEmpty_iff.1 hempty, hglanced₂.refs⟩
    · exact ends_selectAndRememberResource hglanced₂
  · have hcandidates : [exact] = w.candidates config instanceId query := by
      rw [World.candidates, ← show some exact = w.candidate query.kind query.name from hexact]
    dsimp only
    rw [hcandidates]
    exact ends_selectAndRememberResource hglanced

end OpenApp.Docker.Environment
