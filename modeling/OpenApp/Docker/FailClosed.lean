import OpenApp.Docker.Resources

/-!
# No resource of another one

The selection takes what is labelled as the instance's own, except that it takes a network over role labels
that contradict each other, and refuses what is named like the marker of a conflict.
-/

namespace OpenApp.Docker

variable {candidate : ManagedResourceCandidate} {identity : ManagedResourceIdentity} {kind : ManagedResourceKind}
  {candidates : List ManagedResourceCandidate}

/-! ## One candidate -/

/-- What the selection looks at, with the labels as they are read. -/
theorem isMatch_iff : (candidateMatchesIdentity candidate identity).isMatch = true ↔
    readLabel candidate.labels "managed" identity.prefixes = some "true" ∧
      (readLabel candidate.labels "instance-id" identity.prefixes = some identity.instanceId ∧
        identity.instanceId ≠ conflictingLabelValues) ∧
      (readLabel candidate.labels "owner-id" identity.prefixes = some identity.ownerId ∧
        identity.ownerId ≠ conflictingLabelValues) ∧
      readLabel candidate.labels "storage-ref" identity.prefixes ≠ some conflictingLabelValues ∧
      (∀ role ∈ identity.networkRole, candidate.kind = .network →
        inferManagedNetworkRole candidate identity.prefixes = some role ∧ isolated candidate role = true) ∧
      ∀ storageId ∈ identity.storageId,
        readLabel candidate.labels "storage-ref" identity.prefixes = some storageId ∨
          (readLabel candidate.labels "storage-ref" identity.prefixes = none ∧ legacyPermitted candidate identity = true) := by
  unfold candidateMatchesIdentity
  dsimp only
  generalize readLabel candidate.labels "managed" identity.prefixes = managed
  generalize readLabel candidate.labels "instance-id" identity.prefixes = instanceId
  generalize readLabel candidate.labels "owner-id" identity.prefixes = ownerId
  generalize readLabel candidate.labels "storage-ref" identity.prefixes = storageRef
  constructor
  · intro h
    split at h
    · cases h
    · split at h
      · cases h
      · next hidentity =>
        split at h
        · cases h
        · next hrole =>
          split at h
          · cases h
          · next hstorage =>
            simp only [not_or, not_not, ne_eq] at hidentity
            obtain ⟨-, hinstance, howner, hconflict, rfl, rfl, rfl⟩ := hidentity
            refine ⟨rfl, ⟨rfl, fun heq => hinstance (congrArg some heq)⟩, ⟨rfl, fun heq => howner (congrArg some heq)⟩,
              hconflict, fun role hmem hkind => ?_, fun storageId hmem => ?_⟩
            · by_contra hnot
              refine hrole ⟨hkind, role, hmem, ?_⟩
              rw [not_and_or, Bool.not_eq_true] at hnot
              exact hnot
            · by_contra hnot
              exact hstorage ⟨storageId, hmem, hnot⟩
  · rintro ⟨rfl, ⟨rfl, hinstance⟩, ⟨rfl, howner⟩, hconflict, hrole, hstorage⟩
    rw [if_neg (by simp), if_neg, if_neg, if_neg]
    · rintro ⟨storageId, hmem, hnot⟩
      exact hnot (hstorage storageId hmem)
    · rintro ⟨hkind, role, hmem, hnot⟩
      obtain ⟨hinfer, hisolated⟩ := hrole role hmem hkind
      rcases hnot with hnot | hnot
      · exact hnot hinfer
      · rw [hisolated] at hnot
        cases hnot
    · simp only [Option.some.injEq, ne_eq, not_true_eq_false, or_false, not_or]
      exact ⟨by decide, hinstance, howner, hconflict⟩

theorem not_marked_of_isMatch (h : (candidateMatchesIdentity candidate identity).isMatch = true) :
    ¬ Marked candidate identity := by
  obtain ⟨-, ⟨-, hinstance⟩, ⟨-, howner⟩, hconflict, -, -⟩ := isMatch_iff.1 h
  rintro (heq | heq | hcarries)
  · exact hinstance heq
  · exact howner heq
  · exact hconflict (readLabel_eq_marker.2 (.inr hcarries))

theorem qualifies_of_isMatch (h : (candidateMatchesIdentity candidate identity).isMatch = true)
    (hstray : ¬ Stray candidate identity) : Qualifies candidate identity := by
  obtain ⟨hmanaged, ⟨hinstance, hne⟩, ⟨howner, hne'⟩, hconflict, hrole, hstorage⟩ := isMatch_iff.1 h
  refine ⟨(readLabel_eq_some (by decide)).1 hmanaged, (readLabel_eq_some hne).1 hinstance,
    (readLabel_eq_some hne').1 howner, fun role hmem hkind => ⟨?_, hrole role hmem hkind⟩, ?_, fun storageId hmem => ?_⟩
  · by_contra hnot
    exact hstray ⟨Option.isSome_iff_exists.2 ⟨role, hmem⟩, hkind, hnot⟩
  · by_contra hnot
    exact hconflict (readLabel_eq_marker.2 (.inl hnot))
  · rcases hstorage storageId hmem with hread | ⟨hread, hlegacy⟩
    · have hne : storageId ≠ conflictingLabelValues := fun heq => hconflict (heq ▸ hread)
      exact .inl ((readLabel_eq_some hne).1 hread)
    · exact .inr ⟨readLabel_eq_none.1 hread, hlegacy⟩

theorem isMatch_of_qualifies (h : Qualifies candidate identity) (hmarked : ¬ Marked candidate identity) :
    (candidateMatchesIdentity candidate identity).isMatch = true := by
  obtain ⟨hmanaged, hinstance, howner, hrole, hagree, hstorage⟩ := h
  simp only [Marked, not_or] at hmarked
  obtain ⟨hne, hne', hmark⟩ := hmarked
  refine isMatch_iff.2 ⟨(readLabel_eq_some (by decide)).2 hmanaged, ⟨(readLabel_eq_some hne).2 hinstance, hne⟩,
    ⟨(readLabel_eq_some hne').2 howner, hne'⟩, fun hread => ?_, fun role hmem hkind => (hrole role hmem hkind).2,
    fun storageId hmem => ?_⟩
  · rcases readLabel_eq_marker.1 hread with hnot | hcarries
    · exact hnot hagree
    · exact hmark hcarries
  · rcases hstorage storageId hmem with hcarries | ⟨habsent, hlegacy⟩
    · have hne : storageId ≠ conflictingLabelValues := fun heq => hmark (heq ▸ hcarries)
      exact .inl ((readLabel_eq_some hne).2 hcarries)
    · exact .inr ⟨readLabel_eq_none.2 habsent, hlegacy⟩

theorem not_stray_of_qualifies (h : Qualifies candidate identity) : ¬ Stray candidate identity := by
  rintro ⟨hrole, hkind, hnot⟩
  obtain ⟨role, hmem⟩ := Option.isSome_iff_exists.1 hrole
  exact hnot (h.2.2.2.1 role hmem hkind).1

/-- The selection and the labels agree on a candidate that is neither stray nor marked. -/
theorem isMatch_iff_qualifies : ((candidateMatchesIdentity candidate identity).isMatch = true ↔ Qualifies candidate identity) ↔
    ((candidateMatchesIdentity candidate identity).isMatch = true → ¬ Stray candidate identity) ∧
      (Qualifies candidate identity → ¬ Marked candidate identity) := by
  constructor
  · intro h
    exact ⟨fun hmatch => not_stray_of_qualifies (h.1 hmatch), fun hqualifies => not_marked_of_isMatch (h.2 hqualifies)⟩
  · rintro ⟨hstray, hmarked⟩
    exact ⟨fun hmatch => qualifies_of_isMatch hmatch (hstray hmatch), fun hqualifies =>
      isMatch_of_qualifies hqualifies (hmarked hqualifies)⟩

/-- Some namespace names another instance, another owner or another storage. -/
def NamesOther (candidate : ManagedResourceCandidate) (identity : ManagedResourceIdentity) : Prop :=
  (∃ value ∈ labelValues candidate.labels "instance-id" identity.prefixes, value ≠ identity.instanceId) ∨
    (∃ value ∈ labelValues candidate.labels "owner-id" identity.prefixes, value ≠ identity.ownerId) ∨
    ∃ storageId ∈ identity.storageId,
      ∃ value ∈ labelValues candidate.labels "storage-ref" identity.prefixes, value ≠ storageId

theorem not_namesOther_of_isMatch (h : (candidateMatchesIdentity candidate identity).isMatch = true) :
    ¬ NamesOther candidate identity := by
  obtain ⟨-, ⟨hinstance, hne⟩, ⟨howner, hne'⟩, hconflict, -, hstorage⟩ := isMatch_iff.1 h
  rintro (⟨value, hvalue, hother⟩ | ⟨value, hvalue, hother⟩ | ⟨storageId, hmem, value, hvalue, hother⟩)
  · exact hother (((readLabel_eq_some hne).1 hinstance).2 value hvalue)
  · exact hother (((readLabel_eq_some hne').1 howner).2 value hvalue)
  · rcases hstorage storageId hmem with hread | ⟨hread, -⟩
    · have hne : storageId ≠ conflictingLabelValues := fun heq => hconflict (heq ▸ hread)
      exact hother (((readLabel_eq_some hne).1 hread).2 value hvalue)
    · have habsent : labelValues candidate.labels "storage-ref" identity.prefixes = [] := readLabel_eq_none.1 hread
      rw [habsent] at hvalue
      cases hvalue

/-! ## All candidates -/

/-- The candidate is returned. -/
def Returned (candidates : List ManagedResourceCandidate) (identity : ManagedResourceIdentity) (kind : ManagedResourceKind)
    (candidate : ManagedResourceCandidate) : Prop :=
  ∃ ref, selectManagedResource candidates identity kind = .ok ref ∧ ref.toManagedResourceCandidate = candidate

/-- What a selection comes to, with no more of an error than its code. -/
def selection (candidates : List ManagedResourceCandidate) (identity : ManagedResourceIdentity)
    (kind : ManagedResourceKind) : Except ManagedResourceResolutionCode ManagedResourceRef :=
  (selectManagedResource candidates identity kind).mapError (·.code)

theorem returned_iff : Returned candidates identity kind candidate ↔
    matching candidates identity kind = [candidate] ∧ schemeHolds candidate identity = true := by
  unfold Returned selectManagedResource
  match matching candidates identity kind with
  | [] => simp
  | [selected] =>
    by_cases hscheme : schemeHolds selected identity = true
    · simp only [hscheme, if_true, Except.ok.injEq, exists_eq_left', List.cons.injEq, and_true]
      exact ⟨fun heq => ⟨heq, heq ▸ hscheme⟩, fun h => h.1⟩
    · simp only [hscheme, if_false, reduceCtorEq, false_and, exists_false, List.cons.injEq, and_true, false_iff, not_and,
        Bool.false_eq_true]
      rintro rfl
      exact hscheme
  | _ :: _ :: _ => simp

theorem matching_perm {candidates' : List ManagedResourceCandidate} (h : candidates'.Perm candidates) :
    (matching candidates' identity kind).Perm (matching candidates identity kind) :=
  (h.filter _).filter _

theorem selection_perm {candidates' : List ManagedResourceCandidate} (h : candidates'.Perm candidates) :
    selection candidates' identity kind = selection candidates identity kind := by
  have hperm := @matching_perm identity kind candidates candidates' h
  have hany : ((candidates'.filter (·.kind = kind)).any fun candidate =>
        (candidateMatchesIdentity candidate identity).identityMismatch) =
      (candidates.filter (·.kind = kind)).any fun candidate =>
        (candidateMatchesIdentity candidate identity).identityMismatch :=
    (h.filter _).any_eq
  unfold selection selectManagedResource
  match hfound : matching candidates identity kind, hfound' : matching candidates' identity kind with
  | [], found' =>
    rw [hfound, hfound', List.perm_nil] at hperm
    subst hperm
    simp only [Except.mapError, hany]
  | [selected], found' =>
    rw [hfound, hfound', List.perm_singleton] at hperm
    subst hperm
    rfl
  | _ :: _ :: _, [] => simp [hfound, hfound'] at hperm
  | _ :: _ :: _, [_] => simp [hfound, hfound'] at hperm
  | _ :: _ :: _, _ :: _ :: _ => rfl

/-- The candidates of the kind that are labelled as the instance's own. -/
def qualifying (candidates : List ManagedResourceCandidate) (identity : ManagedResourceIdentity)
    (kind : ManagedResourceKind) : List ManagedResourceCandidate :=
  (candidates.filter (·.kind = kind)).filter fun candidate => Qualifies candidate identity

/-- A list that has one candidate, of the scheme that is wanted. -/
def Single (found : List ManagedResourceCandidate) (identity : ManagedResourceIdentity) : Prop :=
  ∃ candidate, found = [candidate] ∧ schemeHolds candidate identity = true

/-- The selection returns the one candidate that qualifies, in whatever order they come, and never one of another. -/
structure FailClosed (candidates : List ManagedResourceCandidate) (identity : ManagedResourceIdentity)
    (kind : ManagedResourceKind) : Prop where
  returned : ∀ candidate, Returned candidates identity kind candidate ↔
    qualifying candidates identity kind = [candidate] ∧ schemeHolds candidate identity = true
  anyOrder : ∀ candidates', candidates'.Perm candidates →
    selection candidates' identity kind = selection candidates identity kind
  foreign : ∀ candidate, Returned candidates identity kind candidate → ¬ NamesOther candidate identity

/-- None of the candidates is stray or marked, or no single one would be taken with or without those. -/
def Undisputed (candidates : List ManagedResourceCandidate) (identity : ManagedResourceIdentity)
    (kind : ManagedResourceKind) : Prop :=
  (∀ candidate ∈ candidates, candidate.kind = kind →
      ((candidateMatchesIdentity candidate identity).isMatch = true → ¬ Stray candidate identity) ∧
        (Qualifies candidate identity → ¬ Marked candidate identity)) ∨
    (¬ Single (matching candidates identity kind) identity ∧ ¬ Single (qualifying candidates identity kind) identity)

/-- Where one candidate is found either way, the two ways agree on every candidate. -/
theorem agree_of_single (hmatching : matching candidates identity kind = [candidate])
    (hqualifying : qualifying candidates identity kind = [candidate]) {other : ManagedResourceCandidate}
    (hother : other ∈ candidates) (hkind : other.kind = kind) :
    (candidateMatchesIdentity other identity).isMatch = true ↔ Qualifies other identity := by
  have hsame : other ∈ matching candidates identity kind ↔ other ∈ qualifying candidates identity kind := by
    rw [hmatching, hqualifying]
  simpa [matching, qualifying, hother, hkind] using hsame

theorem failClosed_iff_undisputed (candidates : List ManagedResourceCandidate) (identity : ManagedResourceIdentity)
    (kind : ManagedResourceKind) : FailClosed candidates identity kind ↔ Undisputed candidates identity kind := by
  constructor
  · intro h
    by_cases hall : ∀ candidate ∈ candidates, candidate.kind = kind →
        ((candidateMatchesIdentity candidate identity).isMatch = true ↔ Qualifies candidate identity)
    · exact .inl fun candidate hmem hkind => isMatch_iff_qualifies.1 (hall candidate hmem hkind)
    · refine .inr ⟨?_, ?_⟩
      · rintro ⟨candidate, hmatching, hscheme⟩
        obtain ⟨hqualifying, -⟩ := (h.returned candidate).1 (returned_iff.2 ⟨hmatching, hscheme⟩)
        exact hall fun other hother hkind => agree_of_single hmatching hqualifying hother hkind
      · rintro ⟨candidate, hqualifying, hscheme⟩
        obtain ⟨hmatching, -⟩ := returned_iff.1 ((h.returned candidate).2 ⟨hqualifying, hscheme⟩)
        exact hall fun other hother hkind => agree_of_single hmatching hqualifying hother hkind
  · intro h
    refine ⟨fun candidate => ?_, fun candidates' hperm => selection_perm hperm, fun candidate hreturned => ?_⟩
    · rw [returned_iff]
      rcases h with hnone | ⟨hmatching, hqualifying⟩
      · have hsame : matching candidates identity kind = qualifying candidates identity kind := by
          refine List.filter_congr fun other hother => ?_
          obtain ⟨hmem, hkind⟩ := List.mem_filter.1 hother
          have hiff := isMatch_iff_qualifies.2 (hnone other hmem (by simpa using hkind))
          rw [Bool.eq_iff_iff, hiff, decide_eq_true_eq]
        rw [hsame]
      · exact ⟨fun hfound => absurd ⟨candidate, hfound⟩ hmatching, fun hfound => absurd ⟨candidate, hfound⟩ hqualifying⟩
    · obtain ⟨hmatching, -⟩ := returned_iff.1 hreturned
      have hmem : candidate ∈ matching candidates identity kind := by
        rw [hmatching]
        exact List.mem_singleton_self candidate
      exact not_namesOther_of_isMatch (List.mem_filter.1 hmem).2

/-! ## A network of two roles -/

/-- The labels of one namespace say that the network is private, those of the other that it is for egress. -/
def disputedNetwork : ManagedResourceCandidate where
  kind := .network
  name := "openapp-7f-egress"
  id := none
  labels := some fun key =>
    match key with
    | "io.openapp.portal.managed" => some "true"
    | "io.openapp.portal.instance-id" => some "7f"
    | "io.openapp.portal.owner-id" => some "u1"
    | "io.openapp.portal.resource-role" => some "private"
    | "com.example.resource-role" => some "egress"
    | _ => none
  internal := some false
  options := some fun key => if key = "com.docker.network.bridge.enable_icc" then some "false" else none

def egressIdentity : ManagedResourceIdentity where
  instanceId := "7f"
  ownerId := "u1"
  networkRole := some .egress
  storageId := none
  allowLegacyStorageRef := none
  legacyStorageNames := none
  requireCurrentScheme := none
  labelPrefixes := some ["io.openapp.portal", "com.example"]

/-- The name decides, and the network is returned. -/
theorem disputed_network_returned : ¬ FailClosed [disputedNetwork] egressIdentity .network := by
  intro h
  have hmatch : (candidateMatchesIdentity disputedNetwork egressIdentity).isMatch = true := by decide +kernel
  have hmatching : matching [disputedNetwork] egressIdentity .network = [disputedNetwork] := by
    have hkind : disputedNetwork.kind = .network := rfl
    simp [matching, hmatch, hkind]
  obtain ⟨hqualifying, -⟩ := (h.returned disputedNetwork).1 (returned_iff.2 ⟨hmatching, by decide +kernel⟩)
  have hnone : (qualifying [disputedNetwork] egressIdentity .network).length = 0 := by decide +kernel
  rw [hqualifying] at hnone
  cases hnone

end OpenApp.Docker
