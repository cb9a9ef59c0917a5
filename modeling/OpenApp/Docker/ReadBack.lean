import OpenApp.Docker.ContainerLabels

/-!
# Reading back what was written

Most labels are written in one namespace and read in several, and the image has a say in all of them. The
metadata of a container are those that were written exactly where the image is silent about what was not, and
says nothing else about what was.
-/

namespace OpenApp.Docker.ContainerLabels

open Fallible Script

/-! ## The labels of a container, one by one -/

section Keys

variable {labelPrefix other suffix suffix' : String}

theorem append_cons_inj {α : Type} {c : α} {l l' r r' : List α} (hr : c ∉ r) (hr' : c ∉ r') (h : l ++ c :: r = l' ++ c :: r') :
    l = l' ∧ r = r' := by
  rcases List.append_eq_append_iff.1 h with ⟨middle, hl, htail⟩ | ⟨middle, hl, htail⟩
  · cases middle with
    | nil => exact ⟨by simpa using hl.symm, by simpa using htail⟩
    | cons d middle =>
      obtain ⟨-, rfl⟩ := List.cons.inj htail
      exact absurd (by simp) hr
  · cases middle with
    | nil => exact ⟨by simpa using hl, by simpa using htail.symm⟩
    | cons d middle =>
      obtain ⟨-, rfl⟩ := List.cons.inj htail
      exact absurd (by simp) hr'

/-- Behind the last dot of a key stands the label's own name. -/
theorem key_inj (hsuffix : '.' ∉ suffix.toList) (hsuffix' : '.' ∉ suffix'.toList)
    (h : labelPrefix ++ "." ++ suffix = other ++ "." ++ suffix') : labelPrefix = other ∧ suffix = suffix' := by
  have hlist := congrArg String.toList h
  simp only [String.toList_append, List.append_assoc] at hlist
  obtain ⟨hleft, hright⟩ := append_cons_inj (c := '.') hsuffix hsuffix' (by simpa using hlist)
  exact ⟨String.toList_inj.1 hleft, String.toList_inj.1 hright⟩

end Keys

variable {image labels : String → Option String} {args : List LabelArg}

theorem containerLabels_append (args args' : List LabelArg) :
    containerLabels image (args ++ args') = containerLabels (containerLabels image args) args' :=
  List.foldl_append

theorem containerLabels_of_forall_ne {key : String} (h : ∀ arg ∈ args, arg.1 ≠ key) :
    containerLabels image args key = image key := by
  induction args generalizing image with
  | nil => rfl
  | cons arg args ih =>
    refine (ih fun other hother => h other (List.mem_cons_of_mem arg hother)).trans ?_
    exact Function.update_of_ne (h arg List.mem_cons_self).symm _ _

/-- The labels of one namespace, by their own names. -/
def inNamespace (labelPrefix : String) (written : List (String × String)) : List LabelArg :=
  written.map fun (suffix, value) => (labelPrefix ++ "." ++ suffix, value)

/-- What a list of labels has for one of them; the last one counts. -/
def valueIn (written : List (String × String)) (suffix : String) : Option String :=
  written.foldl (fun value label => if label.1 = suffix then some label.2 else value) none

section ValueIn

variable {written : List (String × String)} {labelPrefix other suffix : String}

theorem foldl_valueIn (written : List (String × String)) (start : Option String) :
    written.foldl (fun value label => if label.1 = suffix then some label.2 else value) start =
      (valueIn written suffix <|> start) := by
  induction written generalizing start with
  | nil => simp [valueIn]
  | cons label written ih =>
    rw [valueIn, List.foldl_cons, List.foldl_cons, ih, ih (if label.1 = suffix then some label.2 else none)]
    split <;> simp

theorem valueIn_append (written written' : List (String × String)) :
    valueIn (written ++ written') suffix = (valueIn written' suffix <|> valueIn written suffix) := by
  rw [valueIn, List.foldl_append, foldl_valueIn]
  rfl

theorem valueIn_cons (label : String × String) (written : List (String × String)) :
    valueIn (label :: written) suffix = (valueIn written suffix <|> if label.1 = suffix then some label.2 else none) := by
  rw [valueIn, List.foldl_cons, foldl_valueIn]

@[simp] theorem valueIn_nil : valueIn [] suffix = none := rfl

/-- In their own namespace the labels stand before those of the image. -/
theorem containerLabels_inNamespace (hsuffix : '.' ∉ suffix.toList) (hwritten : ∀ label ∈ written, '.' ∉ label.1.toList) :
    containerLabels image (inNamespace labelPrefix written) (labelPrefix ++ "." ++ suffix) =
      (valueIn written suffix <|> image (labelPrefix ++ "." ++ suffix)) := by
  induction written generalizing image with
  | nil => simp [valueIn, inNamespace, containerLabels]
  | cons label written ih =>
    have htail : ∀ other ∈ written, '.' ∉ other.1.toList := fun other hother => hwritten other (List.mem_cons_of_mem label hother)
    refine (ih htail).trans ?_
    rw [valueIn_cons]
    by_cases heq : label.1 = suffix
    · subst heq
      simp
    · have hne : labelPrefix ++ "." ++ suffix ≠ labelPrefix ++ "." ++ label.1 := fun h =>
        heq (key_inj hsuffix (hwritten label List.mem_cons_self) h).2.symm
      simp [heq, Function.update_of_ne hne]

/-- In another namespace nothing changes. -/
theorem containerLabels_other (hother : other ≠ labelPrefix) (hsuffix : '.' ∉ suffix.toList)
    (hwritten : ∀ label ∈ written, '.' ∉ label.1.toList) :
    containerLabels image (inNamespace labelPrefix written) (other ++ "." ++ suffix) = image (other ++ "." ++ suffix) := by
  refine containerLabels_of_forall_ne fun arg harg => ?_
  obtain ⟨label, hlabel, rfl⟩ := List.mem_map.1 harg
  intro h
  exact hother (key_inj hsuffix (hwritten label hlabel) h.symm).1

end ValueIn

/-! ## What the labels of an image can spoil -/

/-- The image gives a label no other value in the reader's other namespaces. -/
def Undisturbed (image : String → Option String) (labelPrefix : String) (labelPrefixes : List String) (suffix value : String) :
    Prop :=
  ∀ other ∈ labelPrefixes, other ≠ labelPrefix → ∀ declared ∈ image (other ++ "." ++ suffix), declared = value

/-- No label of the image is read in place of one that was not written. -/
def Silent (image : String → Option String) (labelPrefixes : List String) (suffix : String) : Prop :=
  resourceLabel (some image) suffix labelPrefixes = none

/-- Of a label that was not written the image says at most that it is empty. -/
def Blank (image : String → Option String) (labelPrefixes : List String) (suffix : String) : Prop :=
  (resourceLabel (some image) suffix labelPrefixes).filter truthy = none

instance {labelPrefix suffix value : String} {labelPrefixes : List String} :
    Decidable (Undisturbed image labelPrefix labelPrefixes suffix value) :=
  inferInstanceAs (Decidable (∀ _ ∈ _, _ ≠ _ → ∀ _ ∈ _, _))

instance {suffix : String} {labelPrefixes : List String} : Decidable (Silent image labelPrefixes suffix) :=
  inferInstanceAs (Decidable (_ = _))

instance {suffix : String} {labelPrefixes : List String} : Decidable (Blank image labelPrefixes suffix) :=
  inferInstanceAs (Decidable (_ = _))

section Reading

variable {labelPrefix suffix value declared : String} {labelPrefixes : List String} {written : List (String × String)}

/-- The labels that were written in one namespace stand before the image's there. -/
def Overlaid (image : String → Option String) (labelPrefix : String) (written : List (String × String))
    (labels : String → Option String) (suffix : String) : Prop :=
  labels (labelPrefix ++ "." ++ suffix) = (valueIn written suffix <|> image (labelPrefix ++ "." ++ suffix)) ∧
    ∀ other, other ≠ labelPrefix → labels (other ++ "." ++ suffix) = image (other ++ "." ++ suffix)

theorem read_written (hover : Overlaid image labelPrefix written labels suffix) (hreader : labelPrefix ∈ labelPrefixes)
    (hvalue : valueIn written suffix = some value) :
    resourceLabel (some labels) suffix labelPrefixes = some declared ↔
      declared = value ∧ value ≠ conflictingLabelValues ∧ Undisturbed image labelPrefix labelPrefixes suffix value := by
  obtain ⟨hown, hother⟩ := hover
  replace hown : labels (labelPrefix ++ "." ++ suffix) = some value := by simpa [hvalue] using hown
  have hmem : ∀ found, found ∈ labelValues (some labels) suffix labelPrefixes ↔
      ∃ other ∈ labelPrefixes, labels (other ++ "." ++ suffix) = some found := fun found => mem_labelValues
  rw [resourceLabel_eq_some]
  constructor
  · rintro ⟨hmarker, -, hall⟩
    obtain rfl := hall value ((hmem value).2 ⟨labelPrefix, hreader, hown⟩)
    refine ⟨rfl, hmarker, fun other hin hne declared hdeclared => ?_⟩
    exact hall declared ((hmem declared).2 ⟨other, hin, (hother other hne).trans hdeclared⟩)
  · rintro ⟨rfl, hmarker, hundisturbed⟩
    refine ⟨hmarker, (hmem _).2 ⟨labelPrefix, hreader, hown⟩, fun found hfound => ?_⟩
    obtain ⟨other, hin, hlabel⟩ := (hmem found).1 hfound
    by_cases hne : other = labelPrefix
    · subst hne
      exact (Option.some.inj (hown.symm.trans hlabel)).symm
    · exact hundisturbed other hin hne found ((hother other hne).symm.trans hlabel)

theorem read_unwritten (hover : Overlaid image labelPrefix written labels suffix) (hvalue : valueIn written suffix = none) :
    resourceLabel (some labels) suffix labelPrefixes = resourceLabel (some image) suffix labelPrefixes := by
  obtain ⟨hown, hother⟩ := hover
  replace hown : labels (labelPrefix ++ "." ++ suffix) = image (labelPrefix ++ "." ++ suffix) := by
    simpa [hvalue] using hown
  have hsame : ∀ other, labelAt (some labels) other suffix = labelAt (some image) other suffix := by
    intro other
    by_cases hne : other = labelPrefix
    · subst hne
      exact hown
    · exact hother other hne
  simp only [resourceLabel, readLabel, labelValues, hsame]

end Reading

/-! ## The labels that are written -/

/-- A label that may be left out. -/
def optional (suffix : String) (value : Option String) : List (String × String) :=
  ((value.filter truthy).map fun value => (suffix, value)).toList

def snapshotLabels (part : String) (snapshot : ContainerCatalogSnapshot) : List (String × String) :=
  [(part ++ "catalog-snapshot", "true"), (part ++ "app-id", snapshot.appId),
    (part ++ "image-reference", snapshot.imageReference)] ++
    optional (part ++ "app-version-id") snapshot.appVersionId ++
    optional (part ++ "image-artifact-id") snapshot.imageArtifactId

def rebuildLabels : Option RebuildContainerMetadata → List (String × String)
  | none => []
  | some rebuild =>
    [("rebuild-id", rebuild.id), ("rebuild-predecessor-id", rebuild.predecessorId), ("rebuild-role", "candidate"),
      ("rebuild-start-requested", toString rebuild.startRequested)] ++
      (rebuild.sourceCatalogSnapshot.map (snapshotLabels "rebuild-source-")).getD []

def requestLabels (request : LabelledRequest) : List (String × String) :=
  optional "app-id" request.appId ++ optional "app-version-id" request.appVersionId ++
    optional "image-artifact-id" request.imageArtifactId ++ optional "image-reference" request.imageReference ++
    if request.appId.any truthy ∧ request.imageReference.any truthy then [("catalog-snapshot", "true")] else []

/-- The snapshot passes the checks of its labels. -/
structure ValidSnapshot (snapshot : ContainerCatalogSnapshot) : Prop where
  appId : APP_ID_PATTERN snapshot.appId = true
  appVersionId : ∀ value ∈ snapshot.appVersionId.filter truthy, IDENTIFIER_PATTERN value = true
  imageArtifactId : ∀ value ∈ snapshot.imageArtifactId.filter truthy, IDENTIFIER_PATTERN value = true
  imageReference : IMAGE_PATTERN snapshot.imageReference = true

/-- The request passes the checks of its labels. -/
structure ValidRequest (request : LabelledRequest) : Prop where
  appId : ∀ value ∈ request.appId.filter truthy, APP_ID_PATTERN value = true
  appVersionId : ∀ value ∈ request.appVersionId.filter truthy, IDENTIFIER_PATTERN value = true
  imageArtifactId : ∀ value ∈ request.imageArtifactId.filter truthy, IDENTIFIER_PATTERN value = true
  imageReference : ∀ value ∈ request.imageReference.filter truthy, IMAGE_PATTERN value = true

section Written

variable {labelPrefix part suffix : String} {labelPrefixes : List String} {value : Option String} {written : List LabelArg}
  {pattern : String → Bool} {message : String → String}

@[simp] theorem inNamespace_append (labels labels' : List (String × String)) :
    inNamespace labelPrefix (labels ++ labels') = inNamespace labelPrefix labels ++ inNamespace labelPrefix labels' :=
  List.map_append

theorem requireIdentifier_ok {given field accepted : String} :
    requireIdentifier given field = .ok accepted ↔ IDENTIFIER_PATTERN given = true ∧ accepted = given :=
  ite_ok

theorem requireAppId_ok {given accepted : String} :
    requireAppId given = .ok accepted ↔ APP_ID_PATTERN given = true ∧ accepted = given :=
  ite_ok

theorem optionalLabelArg_ok {check : String → Except String String}
    (hcheck : ∀ given accepted, check given = .ok accepted → pattern given = true ∧ accepted = given)
    (h : optionalLabelArg value check (labelPrefix ++ "." ++ suffix) = .ok written) :
    written = inNamespace labelPrefix (optional suffix value) ∧ ∀ given ∈ value.filter truthy, pattern given = true := by
  unfold optionalLabelArg at h
  unfold optional
  cases hvalue : value.filter truthy with
  | none =>
    rw [hvalue] at h
    obtain rfl := Except.ok.inj h
    exact ⟨rfl, by simp⟩
  | some given =>
    rw [hvalue] at h
    dsimp only at h
    obtain ⟨accepted, haccepted, hwritten⟩ := bind_ok.1 h
    obtain ⟨hpattern, rfl⟩ := hcheck given accepted haccepted
    obtain rfl := Except.ok.inj hwritten
    exact ⟨rfl, by simpa using hpattern⟩

theorem catalogSnapshotLabelArgs_ok {snapshot : ContainerCatalogSnapshot}
    (h : catalogSnapshotLabelArgs snapshot part labelPrefix = .ok written) :
    written = inNamespace labelPrefix (snapshotLabels part snapshot) ∧ ValidSnapshot snapshot := by
  unfold catalogSnapshotLabelArgs at h
  obtain ⟨appId, happId, h⟩ := bind_ok.1 h
  obtain ⟨hid, rfl⟩ := requireAppId_ok.1 happId
  obtain ⟨himage, h⟩ := refuseIf_bind_ok.1 h
  obtain ⟨version, hargs, h⟩ := bind_ok.1 h
  obtain ⟨rfl, hversion⟩ := optionalLabelArg_ok (fun _ _ => requireIdentifier_ok.1) hargs
  obtain ⟨artifact, hargs, h⟩ := bind_ok.1 h
  obtain ⟨rfl, hartifact⟩ := optionalLabelArg_ok (fun _ _ => requireIdentifier_ok.1) hargs
  obtain rfl := Except.ok.inj h
  exact ⟨by simp [snapshotLabels, inNamespace], hid, hversion, hartifact, by simpa using himage⟩

theorem rebuildLabelArgs_ok {rebuild : Option RebuildContainerMetadata} (h : rebuildLabelArgs rebuild labelPrefix = .ok written) :
    written = inNamespace labelPrefix (rebuildLabels rebuild) ∧
      ∀ rebuilt ∈ rebuild, ∀ snapshot ∈ rebuilt.sourceCatalogSnapshot, ValidSnapshot snapshot := by
  unfold rebuildLabelArgs at h
  cases rebuild with
  | none =>
    obtain rfl := Except.ok.inj h
    exact ⟨rfl, by simp⟩
  | some rebuild =>
    dsimp only at h
    obtain ⟨source, hsource, h⟩ := bind_ok.1 h
    obtain rfl := Except.ok.inj h
    cases hsnapshot : rebuild.sourceCatalogSnapshot with
    | none =>
      rw [hsnapshot] at hsource
      obtain rfl := Except.ok.inj hsource
      exact ⟨by simp [rebuildLabels, inNamespace, hsnapshot], by simp [hsnapshot]⟩
    | some snapshot =>
      rw [hsnapshot] at hsource
      obtain ⟨rfl, hvalid⟩ := catalogSnapshotLabelArgs_ok hsource
      exact ⟨by simp [rebuildLabels, inNamespace, hsnapshot], by simpa [hsnapshot] using hvalid⟩

theorem containerLabelArgs_ok {scheme instanceId ownerId : String} {request : LabelledRequest}
    {rebuild : Option RebuildContainerMetadata}
    (h : containerLabelArgs labelPrefix labelPrefixes scheme instanceId ownerId request rebuild = .ok written) :
    written = resourceLabelArgs instanceId ownerId scheme none labelPrefixes ++
        inNamespace labelPrefix (requestLabels request ++ rebuildLabels rebuild) ∧
      ValidRequest request ∧ ∀ rebuilt ∈ rebuild, ∀ snapshot ∈ rebuilt.sourceCatalogSnapshot, ValidSnapshot snapshot := by
  unfold containerLabelArgs at h
  obtain ⟨appId, hargs, h⟩ := bind_ok.1 h
  obtain ⟨rfl, happId⟩ := optionalLabelArg_ok (fun _ _ => requireAppId_ok.1) hargs
  obtain ⟨version, hargs, h⟩ := bind_ok.1 h
  obtain ⟨rfl, hversion⟩ := optionalLabelArg_ok (fun _ _ => requireIdentifier_ok.1) hargs
  obtain ⟨artifact, hargs, h⟩ := bind_ok.1 h
  obtain ⟨rfl, hartifact⟩ := optionalLabelArg_ok (fun _ _ => requireIdentifier_ok.1) hargs
  obtain ⟨reference, hargs, h⟩ := bind_ok.1 h
  obtain ⟨rfl, hreference⟩ := optionalLabelArg_ok (fun _ _ => ite_ok.1) hargs
  obtain ⟨rebuilt, hargs, h⟩ := bind_ok.1 h
  obtain ⟨rfl, hrebuilt⟩ := rebuildLabelArgs_ok hargs
  obtain rfl := Except.ok.inj h
  refine ⟨?_, ⟨happId, hversion, hartifact, hreference⟩, hrebuilt⟩
  unfold requestLabels
  split <;> simp [inNamespace]

end Written

/-! ### Their names -/

def requestKeys : List String :=
  ["app-id", "app-version-id", "image-artifact-id", "image-reference", "catalog-snapshot"]

def rebuildKeys : List String :=
  ["rebuild-id", "rebuild-predecessor-id", "rebuild-role", "rebuild-start-requested", "rebuild-source-catalog-snapshot",
    "rebuild-source-app-id", "rebuild-source-image-reference", "rebuild-source-app-version-id",
    "rebuild-source-image-artifact-id"]

section Keys

variable {labelPrefix suffix suffix' : String} {labelPrefixes : List String} {value : Option String}
  {label : String × String} {written : List (String × String)} {request : LabelledRequest}
  {rebuild : Option RebuildContainerMetadata}

theorem mem_optional (h : label ∈ optional suffix value) : label.1 = suffix := by
  rw [optional, Option.mem_toList, Option.map_eq_some_iff] at h
  obtain ⟨given, -, rfl⟩ := h
  rfl

theorem key_of_requestLabels (h : label ∈ requestLabels request) : label.1 ∈ requestKeys := by
  simp only [requestLabels, List.mem_append] at h
  rcases h with (((h | h) | h) | h) | h
  · exact mem_optional h ▸ by decide
  · exact mem_optional h ▸ by decide
  · exact mem_optional h ▸ by decide
  · exact mem_optional h ▸ by decide
  · split at h
    · rw [List.mem_singleton.1 h]
      decide
    · cases h

theorem key_of_rebuildLabels (h : label ∈ rebuildLabels rebuild) : label.1 ∈ rebuildKeys := by
  cases rebuild with
  | none => cases h
  | some rebuild =>
    rcases List.mem_append.1 h with h | h
    · simp only [List.mem_cons, List.not_mem_nil, or_false] at h
      rcases h with rfl | rfl | rfl | rfl <;> simp [rebuildKeys]
    · cases hsource : rebuild.sourceCatalogSnapshot with
      | none =>
        rw [hsource] at h
        cases h
      | some snapshot =>
        rw [hsource] at h
        simp only [Option.map_some, Option.getD_some, snapshotLabels, List.mem_append, List.mem_cons, List.not_mem_nil,
          or_false] at h
        rcases h with ((rfl | rfl | rfl) | h) | h
        · simp [rebuildKeys]
        · simp [rebuildKeys]
        · simp [rebuildKeys]
        · exact mem_optional h ▸ by decide
        · exact mem_optional h ▸ by decide

theorem valueIn_of_forall_ne (h : ∀ label ∈ written, label.1 ≠ suffix) : valueIn written suffix = none := by
  induction written with
  | nil => rfl
  | cons label written ih =>
    rw [valueIn_cons, ih fun other hother => h other (List.mem_cons_of_mem label hother), if_neg (h label List.mem_cons_self)]
    rfl

theorem valueIn_optional :
    valueIn (optional suffix' value) suffix = if suffix' = suffix then value.filter truthy else none := by
  unfold optional
  cases value.filter truthy with
  | none => simp
  | some given => simp [valueIn_cons]

/-- The labels of the request have nothing for a key of the rebuild's. -/
theorem valueIn_rebuild (h : suffix ∈ rebuildKeys) :
    valueIn (requestLabels request ++ rebuildLabels rebuild) suffix = valueIn (rebuildLabels rebuild) suffix := by
  have hdisjoint : ∀ suffix ∈ rebuildKeys, suffix ∉ requestKeys := by decide
  have hnone : valueIn (requestLabels request) suffix = none :=
    valueIn_of_forall_ne fun label hlabel heq => hdisjoint suffix h (heq ▸ key_of_requestLabels hlabel)
  rw [valueIn_append, hnone]
  simp

/-- The labels of the rebuild have nothing for a key of the request's. -/
theorem valueIn_request (h : suffix ∈ requestKeys) :
    valueIn (requestLabels request ++ rebuildLabels rebuild) suffix = valueIn (requestLabels request) suffix := by
  have hdisjoint : ∀ suffix ∈ requestKeys, suffix ∉ rebuildKeys := by decide
  have hnone : valueIn (rebuildLabels rebuild) suffix = none :=
    valueIn_of_forall_ne fun label hlabel heq => hdisjoint suffix h (heq ▸ key_of_rebuildLabels hlabel)
  rw [valueIn_append, hnone]
  simp

/-- What says whose the container is has other names. -/
theorem overlaid {scheme instanceId ownerId : String} {args : List LabelArg}
    (h : containerLabelArgs labelPrefix labelPrefixes scheme instanceId ownerId request rebuild = .ok args)
    (hsuffix : suffix ∈ requestKeys ++ rebuildKeys) :
    Overlaid image labelPrefix (requestLabels request ++ rebuildLabels rebuild) (containerLabels image args) suffix := by
  obtain ⟨rfl, -⟩ := containerLabelArgs_ok h
  have hdotless : ∀ suffix ∈ requestKeys ++ rebuildKeys, '.' ∉ suffix.toList := by decide +kernel
  have hwritten : ∀ label ∈ requestLabels request ++ rebuildLabels rebuild, '.' ∉ label.1.toList := by
    intro label hlabel
    refine hdotless label.1 (List.mem_append.2 ?_)
    exact (List.mem_append.1 hlabel).imp key_of_requestLabels key_of_rebuildLabels
  have hresource : ∀ other, containerLabels image (resourceLabelArgs instanceId ownerId scheme none labelPrefixes)
      (other ++ "." ++ suffix) = image (other ++ "." ++ suffix) := by
    intro other
    refine containerLabels_of_forall_ne fun arg harg heq => ?_
    obtain ⟨labelPrefix', -, harg⟩ := List.mem_flatMap.1 harg
    obtain ⟨label, hlabel, rfl⟩ := List.mem_map.1 harg
    have hkey : label.1 ∈ ["managed", "instance-id", "owner-id", "resource-scheme"] := by
      have : ∀ label ∈ [("managed", "true"), ("instance-id", instanceId), ("owner-id", ownerId), ("resource-scheme", scheme)],
          label.1 ∈ ["managed", "instance-id", "owner-id", "resource-scheme"] := by simp
      exact this label (by simpa using hlabel)
    have hown : ∀ key ∈ ["managed", "instance-id", "owner-id", "resource-scheme"],
        '.' ∉ key.toList ∧ key ∉ requestKeys ++ rebuildKeys := by decide +kernel
    obtain ⟨-, rfl⟩ := key_inj (hown label.1 hkey).1 (hdotless suffix hsuffix) heq
    exact (hown label.1 hkey).2 hsuffix
  rw [containerLabels_append]
  refine ⟨?_, fun other hother => ?_⟩
  · rw [containerLabels_inNamespace (hdotless suffix hsuffix) hwritten, hresource]
  · rw [containerLabels_other hother (hdotless suffix hsuffix) hwritten, hresource]

end Keys

/-! ## The readers, over what they read -/

section Readers

variable {part : String} {labelPrefixes : List String}

theorem mapM_ok {value found : Option String} {field : String} :
    value.mapM (requireIdentifier · field) = .ok found ↔
      found = value ∧ ∀ given ∈ value, IDENTIFIER_PATTERN given = true := by
  cases value with
  | none =>
    constructor
    · intro h
      exact ⟨(Except.ok.inj h).symm, by simp⟩
    · rintro ⟨rfl, -⟩
      rfl
  | some given =>
    change (requireIdentifier given field >>= fun accepted => Except.ok (some accepted)) = _ ↔ _
    rw [bind_ok]
    constructor
    · rintro ⟨accepted, haccepted, h⟩
      obtain ⟨hpattern, rfl⟩ := requireIdentifier_ok.1 haccepted
      obtain rfl := Except.ok.inj h
      exact ⟨rfl, by simpa using hpattern⟩
    · rintro ⟨rfl, hpattern⟩
      exact ⟨given, requireIdentifier_ok.2 ⟨hpattern given rfl, rfl⟩, rfl⟩

theorem catalogSnapshotMetadata_none : catalogSnapshotMetadata (some labels) part labelPrefixes = .ok none ↔
    resourceLabel (some labels) (part ++ "catalog-snapshot") labelPrefixes = none := by
  unfold catalogSnapshotMetadata
  split
  · next h => simp [h]
  · next h =>
    rw [h]
    refine ⟨fun hread => ?_, nofun⟩
    obtain ⟨-, hread⟩ := refuseIf_bind_ok.1 hread
    split at hread
    · obtain ⟨appId, -, hread⟩ := bind_ok.1 hread
      obtain ⟨version, -, hread⟩ := bind_ok.1 hread
      obtain ⟨artifact, -, hread⟩ := bind_ok.1 hread
      cases hread
    · cases hread

theorem catalogSnapshotMetadata_some {snapshot : ContainerCatalogSnapshot} :
    catalogSnapshotMetadata (some labels) part labelPrefixes = .ok (some snapshot) ↔
      resourceLabel (some labels) (part ++ "catalog-snapshot") labelPrefixes = some "true" ∧
        (resourceLabel (some labels) (part ++ "app-id") labelPrefixes = some snapshot.appId ∧
          APP_ID_PATTERN snapshot.appId = true) ∧
        (resourceLabel (some labels) (part ++ "image-reference") labelPrefixes = some snapshot.imageReference ∧
          IMAGE_PATTERN snapshot.imageReference = true) ∧
        (snapshot.appVersionId = (resourceLabel (some labels) (part ++ "app-version-id") labelPrefixes).filter truthy ∧
          ∀ value ∈ snapshot.appVersionId, IDENTIFIER_PATTERN value = true) ∧
        snapshot.imageArtifactId = (resourceLabel (some labels) (part ++ "image-artifact-id") labelPrefixes).filter truthy ∧
          ∀ value ∈ snapshot.imageArtifactId, IDENTIFIER_PATTERN value = true := by
  unfold catalogSnapshotMetadata
  generalize resourceLabel (some labels) (part ++ "catalog-snapshot") labelPrefixes = marker
  generalize resourceLabel (some labels) (part ++ "app-id") labelPrefixes = appId
  generalize resourceLabel (some labels) (part ++ "image-reference") labelPrefixes = reference
  generalize resourceLabel (some labels) (part ++ "app-version-id") labelPrefixes = version
  generalize resourceLabel (some labels) (part ++ "image-artifact-id") labelPrefixes = artifact
  cases marker with
  | none => simp
  | some marker =>
    dsimp only
    rw [refuseIf_bind_ok, not_ne_iff, Option.some.injEq]
    refine and_congr_right fun _ => ?_
    constructor
    · intro h
      split at h
      · next happId hreference =>
        obtain ⟨happId, -⟩ := Option.filter_eq_some_iff.1 happId
        obtain ⟨hreference, himage⟩ := Option.filter_eq_some_iff.1 hreference
        obtain ⟨accepted, haccepted, hversions⟩ := bind_ok.1 h
        obtain ⟨hpattern, rfl⟩ := requireAppId_ok.1 haccepted
        obtain ⟨found, hfound, hartifacts⟩ := bind_ok.1 hversions
        obtain ⟨rfl, hversion⟩ := mapM_ok.1 hfound
        obtain ⟨found, hfound, hread⟩ := bind_ok.1 hartifacts
        obtain ⟨rfl, hartifact⟩ := mapM_ok.1 hfound
        obtain rfl := Option.some.inj (Except.ok.inj hread)
        exact ⟨⟨happId, hpattern⟩, ⟨hreference, himage⟩, ⟨rfl, hversion⟩, rfl, hartifact⟩
      · cases h
    · rintro ⟨⟨rfl, hpattern⟩, ⟨rfl, himage⟩, ⟨hversion, hversions⟩, hartifact, hartifacts⟩
      have htruthy : truthy snapshot.appId = true := decide_eq_true (ne_empty_of_isLowerWord hpattern)
      rw [Option.filter_some_pos htruthy, Option.filter_some_pos himage]
      refine bind_ok.2 ⟨_, requireAppId_ok.2 ⟨hpattern, rfl⟩, bind_ok.2 ⟨_, mapM_ok.2 ⟨hversion, hversion ▸ hversions⟩, ?_⟩⟩
      exact bind_ok.2 ⟨_, mapM_ok.2 ⟨hartifact, hartifact ▸ hartifacts⟩, rfl⟩

theorem rebuildMetadata_none : rebuildMetadata (some labels) labelPrefixes = .ok none ↔
    ∀ suffix ∈ ["rebuild-id", "rebuild-predecessor-id", "rebuild-role", "rebuild-start-requested"],
      resourceLabel (some labels) suffix labelPrefixes = none := by
  unfold rebuildMetadata
  dsimp only
  split
  · next h => simpa using h
  · next h =>
    refine ⟨fun hread => ?_, fun hall => absurd ?_ h⟩
    · split at hread
      · obtain ⟨-, hread⟩ := refuseIf_bind_ok.1 hread
        obtain ⟨source, -, hread⟩ := bind_ok.1 hread
        obtain ⟨id, -, hread⟩ := bind_ok.1 hread
        obtain ⟨predecessorId, -, hread⟩ := bind_ok.1 hread
        cases hread
      · cases hread
    · simpa using hall

theorem rebuildMetadata_some {rebuild : RebuildContainerMetadata} :
    rebuildMetadata (some labels) labelPrefixes = .ok (some rebuild) ↔
      (resourceLabel (some labels) "rebuild-id" labelPrefixes = some rebuild.id ∧ IDENTIFIER_PATTERN rebuild.id = true) ∧
        (∃ predecessorId, resourceLabel (some labels) "rebuild-predecessor-id" labelPrefixes = some predecessorId ∧
          DOCKER_CONTAINER_ID_PATTERN predecessorId = true ∧ rebuild.predecessorId = toLowerCase predecessorId) ∧
        resourceLabel (some labels) "rebuild-role" labelPrefixes = some "candidate" ∧
        resourceLabel (some labels) "rebuild-start-requested" labelPrefixes = some (toString rebuild.startRequested) ∧
        catalogSnapshotMetadata (some labels) "rebuild-source-" labelPrefixes = .ok rebuild.sourceCatalogSnapshot := by
  unfold rebuildMetadata
  generalize resourceLabel (some labels) "rebuild-id" labelPrefixes = id
  generalize resourceLabel (some labels) "rebuild-predecessor-id" labelPrefixes = predecessorId
  generalize resourceLabel (some labels) "rebuild-role" labelPrefixes = role
  generalize resourceLabel (some labels) "rebuild-start-requested" labelPrefixes = startRequested
  generalize catalogSnapshotMetadata (some labels) "rebuild-source-" labelPrefixes = source
  dsimp only
  constructor
  · intro h
    split at h
    · cases h
    · split at h
      · next hid hpredecessor =>
        obtain ⟨hid, -⟩ := Option.filter_eq_some_iff.1 hid
        obtain ⟨hpredecessor, -⟩ := Option.filter_eq_some_iff.1 hpredecessor
        obtain ⟨hroles, hsources⟩ := refuseIf_bind_ok.1 h
        obtain ⟨snapshot, rfl, hids⟩ := bind_ok.1 hsources
        obtain ⟨accepted, haccepted, hpredecessors⟩ := bind_ok.1 hids
        obtain ⟨hpattern, rfl⟩ := requireIdentifier_ok.1 haccepted
        obtain ⟨lowered, hlowered, hread⟩ := bind_ok.1 hpredecessors
        obtain ⟨hcontainer, rfl⟩ := ite_ok.1 hlowered
        obtain rfl := Option.some.inj (Except.ok.inj hread)
        rw [not_or, not_not] at hroles
        refine ⟨⟨hid, hpattern⟩, ⟨_, hpredecessor, hcontainer, rfl⟩, hroles.1, ?_, rfl⟩
        by_cases htrue : startRequested = some "true"
        · subst htrue
          rfl
        · have hfalse : startRequested = some "false" := by
            by_contra hne
            exact hroles.2 ⟨htrue, hne⟩
          subst hfalse
          rfl
      · cases h
  · rintro ⟨⟨rfl, hpattern⟩, ⟨predecessorId, rfl, hcontainer, hlower⟩, rfl, rfl, rfl⟩
    have hid : truthy rebuild.id = true := decide_eq_true (ne_empty_of_isWord hpattern)
    have hpredecessor : truthy predecessorId = true := by
      refine decide_eq_true ?_
      rintro rfl
      revert hcontainer
      decide
    rw [if_neg (by simp), Option.filter_some_pos hid, Option.filter_some_pos hpredecessor]
    refine refuseIf_bind_ok.2 ⟨by cases rebuild.startRequested <;> decide, bind_ok.2 ⟨_, rfl, ?_⟩⟩
    refine bind_ok.2 ⟨_, requireIdentifier_ok.2 ⟨hpattern, rfl⟩, bind_ok.2 ⟨_, ite_ok.2 ⟨hcontainer, rfl⟩, ?_⟩⟩
    rw [← hlower]
    obtain ⟨id, predecessor, startRequested, source⟩ := rebuild
    cases startRequested <;> rfl

end Readers

end OpenApp.Docker.ContainerLabels
