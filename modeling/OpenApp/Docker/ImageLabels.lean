import OpenApp.Docker.ReadBack

/-!
# What an image can do to the metadata

The labels that say whose a container is are written in every namespace, so that nothing its image declares is
read instead. Those of the catalog and of a rebuild are written in one namespace only, and only where there is
something to write.
-/

namespace OpenApp.Docker.ContainerLabels

open Fallible Script

/-- The ids that are missing, or empty, are `null`. -/
def withNulls (snapshot : ContainerCatalogSnapshot) : ContainerCatalogSnapshot :=
  { snapshot with
    appVersionId := snapshot.appVersionId.filter truthy
    imageArtifactId := snapshot.imageArtifactId.filter truthy }

/-- The snapshot a request writes. -/
def writtenSnapshot (request : LabelledRequest) : Option ContainerCatalogSnapshot :=
  match request.appId.filter truthy, request.imageReference.filter truthy with
  | some appId, some imageReference => some
    { appId
      appVersionId := request.appVersionId.filter truthy
      imageArtifactId := request.imageArtifactId.filter truthy
      imageReference }
  | _, _ => none

def writtenRebuild (rebuild : Option RebuildContainerMetadata) : Option RebuildContainerMetadata :=
  rebuild.map fun rebuild => { rebuild with sourceCatalogSnapshot := rebuild.sourceCatalogSnapshot.map withNulls }

/-- An inspection with these namespaces finds in the labels what was written. -/
def ReadsBack (labels : String → Option String) (labelPrefixes : List String) (request : LabelledRequest)
    (rebuild : Option RebuildContainerMetadata) : Prop :=
  catalogSnapshotMetadata (some labels) "" labelPrefixes = .ok (writtenSnapshot request) ∧
    rebuildMetadata (some labels) labelPrefixes = .ok (writtenRebuild rebuild)

/-! ## What must hold of the image -/

section Unspoilt

variable (image : String → Option String) (labelPrefix : String) (labelPrefixes : List String)

def OptionalUnspoilt (suffix : String) : Option String → Prop
  | none => Blank image labelPrefixes suffix
  | some value => Undisturbed image labelPrefix labelPrefixes suffix value

def SnapshotUnspoilt (part : String) : Option ContainerCatalogSnapshot → Prop
  | none => Silent image labelPrefixes (part ++ "catalog-snapshot")
  | some snapshot =>
    Undisturbed image labelPrefix labelPrefixes (part ++ "catalog-snapshot") "true" ∧
      Undisturbed image labelPrefix labelPrefixes (part ++ "app-id") snapshot.appId ∧
      Undisturbed image labelPrefix labelPrefixes (part ++ "image-reference") snapshot.imageReference ∧
      OptionalUnspoilt image labelPrefix labelPrefixes (part ++ "app-version-id") snapshot.appVersionId ∧
      OptionalUnspoilt image labelPrefix labelPrefixes (part ++ "image-artifact-id") snapshot.imageArtifactId

/-- Of a rebuild, the ids are in the form they are asked for in. -/
def RebuildUnspoilt : Option RebuildContainerMetadata → Prop
  | none =>
    ∀ suffix ∈ ["rebuild-id", "rebuild-predecessor-id", "rebuild-role", "rebuild-start-requested"],
      Silent image labelPrefixes suffix
  | some rebuild =>
    (IDENTIFIER_PATTERN rebuild.id = true ∧ Undisturbed image labelPrefix labelPrefixes "rebuild-id" rebuild.id) ∧
      (DOCKER_CONTAINER_ID_PATTERN rebuild.predecessorId = true ∧ rebuild.predecessorId = toLowerCase rebuild.predecessorId ∧
        Undisturbed image labelPrefix labelPrefixes "rebuild-predecessor-id" rebuild.predecessorId) ∧
      Undisturbed image labelPrefix labelPrefixes "rebuild-role" "candidate" ∧
      Undisturbed image labelPrefix labelPrefixes "rebuild-start-requested" (toString rebuild.startRequested) ∧
      SnapshotUnspoilt image labelPrefix labelPrefixes "rebuild-source-" rebuild.sourceCatalogSnapshot

/-- The labels of the image leave what was written as it was. -/
def Unspoilt (request : LabelledRequest) (rebuild : Option RebuildContainerMetadata) : Prop :=
  SnapshotUnspoilt image labelPrefix labelPrefixes "" (writtenSnapshot request) ∧
    RebuildUnspoilt image labelPrefix labelPrefixes (writtenRebuild rebuild)

instance {suffix : String} : ∀ value, Decidable (OptionalUnspoilt image labelPrefix labelPrefixes suffix value)
  | none => inferInstanceAs (Decidable (Blank _ _ _))
  | some _ => inferInstanceAs (Decidable (Undisturbed _ _ _ _ _))

instance {part : String} : ∀ snapshot, Decidable (SnapshotUnspoilt image labelPrefix labelPrefixes part snapshot)
  | none => inferInstanceAs (Decidable (Silent _ _ _))
  | some _ => inferInstanceAs (Decidable (_ ∧ _ ∧ _ ∧ _ ∧ _))

instance : ∀ rebuild, Decidable (RebuildUnspoilt image labelPrefix labelPrefixes rebuild)
  | none => inferInstanceAs (Decidable (∀ _ ∈ _, _))
  | some _ => inferInstanceAs (Decidable ((_ ∧ _) ∧ (_ ∧ _ ∧ _) ∧ _ ∧ _ ∧ _))

instance {request : LabelledRequest} {rebuild : Option RebuildContainerMetadata} :
    Decidable (Unspoilt image labelPrefix labelPrefixes request rebuild) :=
  inferInstanceAs (Decidable (_ ∧ _))

end Unspoilt

variable {image labels : String → Option String} {labelPrefix part suffix value : String} {labelPrefixes : List String}
  {written : List (String × String)}

theorem isWord_ne_marker {limit : Nat} (h : isWord limit value = true) : value ≠ conflictingLabelValues := by
  rintro rfl
  revert h
  simp [isWord, conflictingLabelValues]

theorem isLowerWord_ne_marker {limit : Nat} (h : isLowerWord limit value = true) : value ≠ conflictingLabelValues := by
  rintro rfl
  revert h
  simp [isLowerWord, conflictingLabelValues]

theorem image_ne_marker (h : IMAGE_PATTERN value = true) : value ≠ conflictingLabelValues := by
  rintro rfl
  revert h
  simp [IMAGE_PATTERN, conflictingLabelValues]

/-! ## A snapshot -/

/-- What the labels that were written say of a snapshot. -/
structure Tells (written : List (String × String)) (part : String) (snapshot : ContainerCatalogSnapshot) : Prop where
  marker : valueIn written (part ++ "catalog-snapshot") = some "true"
  appId : valueIn written (part ++ "app-id") = some snapshot.appId
  imageReference : valueIn written (part ++ "image-reference") = some snapshot.imageReference
  appVersionId : valueIn written (part ++ "app-version-id") = snapshot.appVersionId.filter truthy
  imageArtifactId : valueIn written (part ++ "image-artifact-id") = snapshot.imageArtifactId.filter truthy

theorem read_iff_undisturbed (hover : Overlaid image labelPrefix written labels suffix) (hreader : labelPrefix ∈ labelPrefixes)
    (hvalue : valueIn written suffix = some value) (hmarker : value ≠ conflictingLabelValues) :
    resourceLabel (some labels) suffix labelPrefixes = some value ↔ Undisturbed image labelPrefix labelPrefixes suffix value := by
  rw [read_written hover hreader hvalue]
  exact ⟨fun h => h.2.2, fun h => ⟨rfl, hmarker, h⟩⟩

theorem optional_iff_unspoilt {given : Option String} (hover : Overlaid image labelPrefix written labels suffix)
    (hreader : labelPrefix ∈ labelPrefixes) (hvalue : valueIn written suffix = given.filter truthy)
    (hvalid : ∀ value ∈ given.filter truthy, IDENTIFIER_PATTERN value = true) :
    given.filter truthy = (resourceLabel (some labels) suffix labelPrefixes).filter truthy ↔
      OptionalUnspoilt image labelPrefix labelPrefixes suffix (given.filter truthy) := by
  cases hgiven : given.filter truthy with
  | none =>
    rw [read_unwritten hover (hvalue.trans hgiven)]
    exact eq_comm
  | some value =>
    have hpattern := hvalid value hgiven
    have htruthy : truthy value = true := (Option.filter_eq_some_iff.1 hgiven).2
    rw [OptionalUnspoilt, ← read_iff_undisturbed hover hreader (hvalue.trans hgiven) (isWord_ne_marker hpattern), eq_comm,
      Option.filter_eq_some_iff]
    exact and_iff_left htruthy

theorem snapshot_iff_unspoilt {snapshot : ContainerCatalogSnapshot} (hreader : labelPrefix ∈ labelPrefixes)
    (hover : ∀ suffix ∈ ["catalog-snapshot", "app-id", "image-reference", "app-version-id", "image-artifact-id"],
      Overlaid image labelPrefix written labels (part ++ suffix))
    (htells : Tells written part snapshot) (hvalid : ValidSnapshot snapshot) :
    catalogSnapshotMetadata (some labels) part labelPrefixes = .ok (some (withNulls snapshot)) ↔
      SnapshotUnspoilt image labelPrefix labelPrefixes part (some (withNulls snapshot)) := by
  simp only [List.forall_mem_cons, List.not_mem_nil, false_imp_iff, implies_true, and_true] at hover
  obtain ⟨hmarker, happId, hreference, hversion, hartifact⟩ := hover
  rw [catalogSnapshotMetadata_some]
  refine and_congr ?_ (and_congr ?_ (and_congr ?_ (and_congr ?_ ?_)))
  · exact read_iff_undisturbed hmarker hreader htells.marker (by decide)
  · rw [and_iff_left (show APP_ID_PATTERN (withNulls snapshot).appId = true from hvalid.appId)]
    exact read_iff_undisturbed happId hreader htells.appId (isLowerWord_ne_marker hvalid.appId)
  · rw [and_iff_left (show IMAGE_PATTERN (withNulls snapshot).imageReference = true from hvalid.imageReference)]
    exact read_iff_undisturbed hreference hreader htells.imageReference (image_ne_marker hvalid.imageReference)
  · rw [and_iff_left (show ∀ value ∈ (withNulls snapshot).appVersionId, IDENTIFIER_PATTERN value = true from
      hvalid.appVersionId)]
    exact optional_iff_unspoilt hversion hreader htells.appVersionId hvalid.appVersionId
  · rw [and_iff_left (show ∀ value ∈ (withNulls snapshot).imageArtifactId, IDENTIFIER_PATTERN value = true from
      hvalid.imageArtifactId)]
    exact optional_iff_unspoilt hartifact hreader htells.imageArtifactId hvalid.imageArtifactId

/-- Where no snapshot was written the image decides. -/
theorem no_snapshot_iff_silent (hover : Overlaid image labelPrefix written labels (part ++ "catalog-snapshot"))
    (hvalue : valueIn written (part ++ "catalog-snapshot") = none) :
    catalogSnapshotMetadata (some labels) part labelPrefixes = .ok none ↔
      SnapshotUnspoilt image labelPrefix labelPrefixes part none := by
  rw [catalogSnapshotMetadata_none, read_unwritten hover hvalue]
  rfl

/-! ## What a request and a rebuild write -/

section Written

variable {request : LabelledRequest} {rebuild : Option RebuildContainerMetadata}

theorem filter_filter_truthy (value : Option String) : (value.filter truthy).filter truthy = value.filter truthy := by
  rw [Option.filter_filter]
  simp

theorem writtenSnapshot_some {snapshot : ContainerCatalogSnapshot} (h : writtenSnapshot request = some snapshot) :
    request.appId.filter truthy = some snapshot.appId ∧
      request.imageReference.filter truthy = some snapshot.imageReference ∧
      request.appVersionId.filter truthy = snapshot.appVersionId ∧
      request.imageArtifactId.filter truthy = snapshot.imageArtifactId := by
  unfold writtenSnapshot at h
  split at h
  · next happId hreference =>
    obtain rfl := Option.some.inj h
    exact ⟨happId, hreference, rfl, rfl⟩
  · cases h

/-- The ids of a snapshot that is written are `null` already where they are missing. -/
theorem withNulls_writtenSnapshot {snapshot : ContainerCatalogSnapshot} (h : writtenSnapshot request = some snapshot) :
    withNulls snapshot = snapshot := by
  obtain ⟨-, -, hversion, hartifact⟩ := writtenSnapshot_some h
  simp only [withNulls, ← hversion, ← hartifact, filter_filter_truthy]
  obtain ⟨appId, appVersionId, imageArtifactId, imageReference⟩ := snapshot
  simp_all

theorem any_truthy {given : Option String} : given.any truthy = (given.filter truthy).isSome := by
  cases given with
  | none => rfl
  | some value => cases hvalue : truthy value <;> simp [Option.filter, hvalue]

theorem written_marker : valueIn (requestLabels request) "catalog-snapshot" = (writtenSnapshot request).map fun _ => "true" := by
  simp only [requestLabels, valueIn_append, valueIn_optional, any_truthy]
  unfold writtenSnapshot
  cases request.appId.filter truthy <;> cases request.imageReference.filter truthy <;> simp [valueIn_cons]

theorem valueIn_requestLabels {given : Option String} {key : String}
    (h : (key, given) ∈ [("app-id", request.appId), ("app-version-id", request.appVersionId),
      ("image-artifact-id", request.imageArtifactId), ("image-reference", request.imageReference)]) :
    valueIn (requestLabels request) key = given.filter truthy := by
  have hmarker : ∀ key, "catalog-snapshot" ≠ key →
      valueIn (if request.appId.any truthy ∧ request.imageReference.any truthy then [("catalog-snapshot", "true")] else []) key =
        none := by
    intro key hkey
    split
    · simp [valueIn_cons, hkey]
    · rfl
  simp only [List.mem_cons, Prod.mk.injEq, List.not_mem_nil, or_false] at h
  rcases h with ⟨rfl, rfl⟩ | ⟨rfl, rfl⟩ | ⟨rfl, rfl⟩ | ⟨rfl, rfl⟩ <;>
    simp [requestLabels, valueIn_append, valueIn_optional, hmarker]

theorem request_tells {snapshot : ContainerCatalogSnapshot} (h : writtenSnapshot request = some snapshot) :
    Tells (requestLabels request ++ rebuildLabels rebuild) "" snapshot := by
  obtain ⟨happId, hreference, hversion, hartifact⟩ := writtenSnapshot_some h
  have hread : ∀ key given, key ∈ requestKeys → valueIn (requestLabels request) key = given →
      valueIn (requestLabels request ++ rebuildLabels rebuild) ("" ++ key) = given := by
    intro key given hkey hgiven
    rw [String.empty_append, valueIn_request hkey, hgiven]
  refine ⟨hread _ _ (by decide) ?_, hread _ _ (by decide) ?_, hread _ _ (by decide) ?_, hread _ _ (by decide) ?_,
    hread _ _ (by decide) ?_⟩
  · rw [written_marker, h, Option.map_some]
  · rw [valueIn_requestLabels (show (_, request.appId) ∈ _ by simp), happId]
  · rw [valueIn_requestLabels (show (_, request.imageReference) ∈ _ by simp), hreference]
  · rw [valueIn_requestLabels (show (_, request.appVersionId) ∈ _ by simp), ← hversion, filter_filter_truthy]
  · rw [valueIn_requestLabels (show (_, request.imageArtifactId) ∈ _ by simp), ← hartifact, filter_filter_truthy]

theorem valid_of_request {snapshot : ContainerCatalogSnapshot} (hvalid : ValidRequest request)
    (h : writtenSnapshot request = some snapshot) : ValidSnapshot snapshot := by
  obtain ⟨happId, hreference, hversion, hartifact⟩ := writtenSnapshot_some h
  refine ⟨hvalid.appId _ happId, ?_, ?_, hvalid.imageReference _ hreference⟩
  · rw [← hversion, filter_filter_truthy]
    exact hvalid.appVersionId
  · rw [← hartifact, filter_filter_truthy]
    exact hvalid.imageArtifactId

variable {rebuilt : RebuildContainerMetadata}

theorem rebuild_tells {snapshot : ContainerCatalogSnapshot} (h : rebuilt.sourceCatalogSnapshot = some snapshot) :
    Tells (requestLabels request ++ rebuildLabels (some rebuilt)) "rebuild-source-" snapshot := by
  have hread : ∀ key given, "rebuild-source-" ++ key ∈ rebuildKeys →
      valueIn (rebuildLabels (some rebuilt)) ("rebuild-source-" ++ key) = given →
      valueIn (requestLabels request ++ rebuildLabels (some rebuilt)) ("rebuild-source-" ++ key) = given := by
    intro key given hkey hgiven
    rw [valueIn_rebuild hkey, hgiven]
  refine ⟨hread _ _ (by decide) ?_, hread _ _ (by decide) ?_, hread _ _ (by decide) ?_, hread _ _ (by decide) ?_,
    hread _ _ (by decide) ?_⟩
  all_goals simp [rebuildLabels, snapshotLabels, valueIn_append, valueIn_cons, valueIn_optional, h]

/-- The labels of the rebuild itself. -/
theorem valueIn_rebuildLabels {key value : String}
    (h : (key, value) ∈ [("rebuild-id", rebuilt.id), ("rebuild-predecessor-id", rebuilt.predecessorId),
      ("rebuild-role", "candidate"), ("rebuild-start-requested", toString rebuilt.startRequested)]) :
    valueIn (requestLabels request ++ rebuildLabels (some rebuilt)) key = some value := by
  have hsource : ∀ key ∈ ["rebuild-id", "rebuild-predecessor-id", "rebuild-role", "rebuild-start-requested"],
      valueIn ((rebuilt.sourceCatalogSnapshot.map (snapshotLabels "rebuild-source-")).getD []) key = none := by
    intro key hkey
    simp only [List.mem_cons, List.not_mem_nil, or_false] at hkey
    cases rebuilt.sourceCatalogSnapshot with
    | none => rfl
    | some snapshot =>
      rcases hkey with rfl | rfl | rfl | rfl <;>
        simp [snapshotLabels, valueIn_append, valueIn_cons, valueIn_optional]
  simp only [List.mem_cons, Prod.mk.injEq, List.not_mem_nil, or_false] at h
  rcases h with ⟨rfl, rfl⟩ | ⟨rfl, rfl⟩ | ⟨rfl, rfl⟩ | ⟨rfl, rfl⟩ <;>
    rw [valueIn_rebuild (by decide), rebuildLabels, valueIn_append, hsource _ (by decide)] <;> simp [valueIn_cons]

theorem rebuild_source_none (h : rebuilt.sourceCatalogSnapshot = none) :
    valueIn (requestLabels request ++ rebuildLabels (some rebuilt)) ("rebuild-source-" ++ "catalog-snapshot") = none := by
  rw [valueIn_rebuild (by decide)]
  simp [rebuildLabels, valueIn_cons, h]

theorem no_rebuild {key : String} (h : key ∈ rebuildKeys) :
    valueIn (requestLabels request ++ rebuildLabels none) key = none := by
  rw [valueIn_rebuild h]
  rfl

/-! ## The metadata of a container -/

variable {prefixes : List String} {scheme instanceId ownerId : String} {args : List LabelArg}

theorem snapshot_iff (h : containerLabelArgs labelPrefix prefixes scheme instanceId ownerId request rebuild = .ok args)
    (hreader : labelPrefix ∈ labelPrefixes) :
    catalogSnapshotMetadata (some (containerLabels image args)) "" labelPrefixes = .ok (writtenSnapshot request) ↔
      SnapshotUnspoilt image labelPrefix labelPrefixes "" (writtenSnapshot request) := by
  have hvalid := (containerLabelArgs_ok h).2.1
  cases hsnapshot : writtenSnapshot request with
  | none =>
    refine no_snapshot_iff_silent (overlaid h (by decide)) ?_
    rw [String.empty_append, valueIn_request (by decide), written_marker, hsnapshot]
    rfl
  | some snapshot =>
    rw [← withNulls_writtenSnapshot hsnapshot]
    refine snapshot_iff_unspoilt hreader (fun suffix hsuffix => overlaid h ?_) (request_tells hsnapshot)
      (valid_of_request hvalid hsnapshot)
    revert suffix
    decide

theorem source_iff
    (h : containerLabelArgs labelPrefix prefixes scheme instanceId ownerId request (some rebuilt) = .ok args)
    (hreader : labelPrefix ∈ labelPrefixes) :
    catalogSnapshotMetadata (some (containerLabels image args)) "rebuild-source-" labelPrefixes =
        .ok (rebuilt.sourceCatalogSnapshot.map withNulls) ↔
      SnapshotUnspoilt image labelPrefix labelPrefixes "rebuild-source-" (rebuilt.sourceCatalogSnapshot.map withNulls) := by
  have hvalid := (containerLabelArgs_ok h).2.2 rebuilt rfl
  cases hsource : rebuilt.sourceCatalogSnapshot with
  | none => exact no_snapshot_iff_silent (overlaid h (by decide)) (rebuild_source_none hsource)
  | some snapshot =>
    refine snapshot_iff_unspoilt hreader (fun suffix hsuffix => overlaid h ?_) (rebuild_tells hsource)
      (hvalid snapshot hsource)
    revert suffix
    decide

theorem rebuild_iff (h : containerLabelArgs labelPrefix prefixes scheme instanceId ownerId request rebuild = .ok args)
    (hreader : labelPrefix ∈ labelPrefixes) :
    rebuildMetadata (some (containerLabels image args)) labelPrefixes = .ok (writtenRebuild rebuild) ↔
      RebuildUnspoilt image labelPrefix labelPrefixes (writtenRebuild rebuild) := by
  cases rebuild with
  | none =>
    refine rebuildMetadata_none.trans (forall₂_congr fun suffix hsuffix => ?_)
    have hkey : suffix ∈ rebuildKeys := by
      revert suffix
      decide
    rw [read_unwritten (overlaid h (List.mem_append_right _ hkey)) (no_rebuild hkey)]
    rfl
  | some rebuilt =>
    have hread : ∀ key value declared, (key, value) ∈ [("rebuild-id", rebuilt.id),
        ("rebuild-predecessor-id", rebuilt.predecessorId), ("rebuild-role", "candidate"),
        ("rebuild-start-requested", toString rebuilt.startRequested)] → key ∈ requestKeys ++ rebuildKeys →
        (resourceLabel (some (containerLabels image args)) key labelPrefixes = some declared ↔
          declared = value ∧ value ≠ conflictingLabelValues ∧ Undisturbed image labelPrefix labelPrefixes key value) :=
      fun key value declared hmem hkey => read_written (overlaid h hkey) hreader (valueIn_rebuildLabels hmem)
    rw [writtenRebuild, Option.map_some, rebuildMetadata_some]
    refine and_congr ?_ (and_congr ?_ (and_congr ?_ (and_congr ?_ (source_iff h hreader))))
    · rw [hread "rebuild-id" rebuilt.id rebuilt.id (by simp) (by decide), and_comm]
      refine and_congr_right fun hpattern => ?_
      exact ⟨fun h => h.2.2, fun h => ⟨rfl, isWord_ne_marker hpattern, h⟩⟩
    · constructor
      · rintro ⟨predecessorId, hpredecessor, hpattern, hlower⟩
        obtain ⟨rfl, -, hundisturbed⟩ :=
          (hread _ rebuilt.predecessorId predecessorId (by simp) (by decide)).1 hpredecessor
        exact ⟨hpattern, hlower, hundisturbed⟩
      · rintro ⟨hpattern, hlower, hundisturbed⟩
        refine ⟨rebuilt.predecessorId, ?_, hpattern, hlower⟩
        refine (hread _ rebuilt.predecessorId _ (by simp) (by decide)).2 ⟨rfl, ?_, hundisturbed⟩
        intro heq
        rw [show ({ rebuilt with sourceCatalogSnapshot := rebuilt.sourceCatalogSnapshot.map withNulls } :
          RebuildContainerMetadata).predecessorId = conflictingLabelValues from heq] at hpattern
        revert hpattern
        decide +kernel
    · rw [hread _ "candidate" _ (by simp) (by decide)]
      exact ⟨fun h => h.2.2, fun h => ⟨rfl, by decide, h⟩⟩
    · rw [hread _ (toString rebuilt.startRequested) _ (by simp) (by decide)]
      refine ⟨fun h => h.2.2, fun h => ⟨rfl, ?_, h⟩⟩
      cases rebuilt.startRequested <;> decide

/-- The metadata are those that were written exactly where the labels of the image leave them as they were. -/
theorem readsBack_iff_unspoilt
    (h : containerLabelArgs labelPrefix prefixes scheme instanceId ownerId request rebuild = .ok args)
    (hreader : labelPrefix ∈ labelPrefixes) :
    ReadsBack (containerLabels image args) labelPrefixes request rebuild ↔
      Unspoilt image labelPrefix labelPrefixes request rebuild :=
  and_congr (snapshot_iff h hreader) (rebuild_iff h hreader)

end Written

/-! ## Two images -/

def shopRequest : LabelledRequest where
  appId := some "shop"
  appVersionId := none
  imageArtifactId := none
  imageReference := some "shop:2"

def plainRequest : LabelledRequest where
  appId := none
  appVersionId := none
  imageArtifactId := none
  imageReference := none

/-- The arguments for a container of the workspace `desk`. -/
def deskArgs (request : LabelledRequest) : List LabelArg :=
  (containerLabelArgs "io.openapp.portal" ["io.openapp.portal", "legacy"] "v2" "desk" "alice" request none).toOption.getD []

def imageWith (key value : String) : String → Option String :=
  fun key' => if key' = key then some value else none

/-- An image that names the same App in the namespace of before. -/
theorem agreeing_image_reads_back :
    ReadsBack (containerLabels (imageWith "legacy.app-id" "shop") (deskArgs shopRequest)) ["io.openapp.portal", "legacy"]
      shopRequest none := by
  have hargs : containerLabelArgs "io.openapp.portal" ["io.openapp.portal", "legacy"] "v2" "desk" "alice" shopRequest none =
      .ok (deskArgs shopRequest) := by decide +kernel
  exact (readsBack_iff_unspoilt hargs (by decide)).2 (by decide +kernel)

/-- One image names its App in the namespace of before, the other one a rebuild. -/
theorem image_label_fails_inspection :
    (containerLabelArgs "io.openapp.portal" ["io.openapp.portal", "legacy"] "v2" "desk" "alice" shopRequest none =
        .ok (deskArgs shopRequest) ∧
      catalogSnapshotMetadata (some (containerLabels (imageWith "legacy.app-id" "other") (deskArgs shopRequest))) ""
        ["io.openapp.portal", "legacy"] = .error "managed container catalog snapshot is incomplete") ∧
    containerLabelArgs "io.openapp.portal" ["io.openapp.portal", "legacy"] "v2" "desk" "alice" plainRequest none =
        .ok (deskArgs plainRequest) ∧
      rebuildMetadata (some (containerLabels (imageWith "io.openapp.portal.rebuild-id" "r1") (deskArgs plainRequest)))
        ["io.openapp.portal", "legacy"] = .error "managed rebuild metadata is incomplete" := by
  refine ⟨⟨by decide +kernel, by decide +kernel⟩, by decide +kernel, by decide +kernel⟩

end OpenApp.Docker.ContainerLabels
