import OpenApp.Docker.Holdings
import OpenApp.Docker.Slots

/-!
# Dismantling an environment

The second half of a removal takes things away and adds nothing. What it has removed is gone, as long as Docker
does not say of something that is there that it is not; the volume stays.
-/

namespace OpenApp.Docker.Environment

open Async Async.Prog Script

variable {config : RuntimeConfig} {instanceId : String} {w w' : World} {α β : Type}

/-! ## What commands take away -/

theorem lookup_filter_ne {γ : Type} (entries : List (String × γ)) (name other : String) :
    (entries.filter (·.1 ≠ name)).lookup other = if other = name then none else entries.lookup other := by
  induction entries with
  | nil => simp
  | cons entry entries ih =>
    obtain ⟨key, value⟩ := entry
    by_cases hkey : key = name
    · subst hkey
      rw [List.filter_cons_of_neg (by simp), ih]
      split
      · rfl
      · next hother => rw [List.lookup_cons, beq_eq_false_iff_ne.2 hother]
    · rw [List.filter_cons_of_pos (by simpa using hkey), List.lookup_cons, List.lookup_cons, ih]
      by_cases hother : other = key
      · subst hother
        simp [hkey]
      · rw [beq_eq_false_iff_ne.2 hother]

theorem lookup_map_isSome {γ : Type} (entries : List (String × γ)) (f : String × γ → γ) (name : String) :
    ((entries.map fun entry => (entry.1, f entry)).lookup name).isSome = (entries.lookup name).isSome := by
  induction entries with
  | nil => rfl
  | cons entry entries ih =>
    rw [List.map_cons, List.lookup_cons, List.lookup_cons]
    split
    · rfl
    · exact ih

/-- A network or container that is not there does not come back, the volumes stay, and none was asked to go. -/
structure Lessened (w w' : World) : Prop where
  containers : ∀ name, w.container name = none → w'.container name = none
  labelled : ∀ instanceId labelPrefix, ∀ name ∈ w'.labelledNames instanceId .container labelPrefix,
    name ∈ w.labelledNames instanceId .container labelPrefix
  resources : ∀ kind name, w.resource kind name = none → w'.resource kind name = none
  volumes : w'.resources .volume = w.resources .volume
  commands : ∃ issued, w'.commands = issued ++ w.commands ∧ ∀ o ∈ issued, ∀ name, o ≠ .resourceRm .volume name

theorem Lessened.refl (w : World) : Lessened w w := ⟨fun _ => id, fun _ _ _ => id, fun _ _ => id, rfl, [], rfl, by simp⟩

theorem Lessened.trans {w'' : World} (h : Lessened w w') (h' : Lessened w' w'') : Lessened w w'' := by
  obtain ⟨issued, hissued, hnot⟩ := h.commands
  obtain ⟨issued', hissued', hnot'⟩ := h'.commands
  refine ⟨fun name hname => h'.containers name (h.containers name hname),
    fun instanceId labelPrefix name hname => h.labelled instanceId labelPrefix name (h'.labelled instanceId labelPrefix name hname),
    fun kind name hname => h'.resources kind name (h.resources kind name hname), h'.volumes.trans h.volumes,
    issued' ++ issued, by rw [hissued', hissued, List.append_assoc], fun o ho => ?_⟩
  exact (List.mem_append.1 ho).elim (hnot' o) (hnot o)

theorem Looked.lessened (h : Looked w w') : Lessened w w' := by
  obtain ⟨issued, hissued, hnot⟩ := h.commands
  refine ⟨fun name hname => (h.container name).trans hname,
    fun instanceId labelPrefix name hname => (h.labelledNames .container labelPrefix : _ = w.labelledNames instanceId .container labelPrefix) ▸ hname,
    fun kind name hname => (h.resource kind name).trans hname, congrFun h.resources .volume, issued, hissued, ?_⟩
  rintro o ho name rfl
  cases hnot _ ho

/-- The operation removes no volume, and remembers nothing but a volume. -/
def RuntimeOp.Spares : RuntimeOp → Prop
  | .resourceRm kind _ => kind ≠ .volume
  | .remember key _ => key.kind = .volume
  | _ => True

/-- What the runtime remembers is where it is, or nothing is where it should be. -/
structure Remembers (config : RuntimeConfig) (instanceId : String) (w : World) : Prop where
  container : RemembersContainer config instanceId w
  network : ∀ role, ∀ name ∈ w.refs (.network role), name = configuredNetworkName config instanceId role ∨
    w.resource .network (configuredNetworkName config instanceId role) = none

theorem lessened_given {o : RuntimeOp} (ho : o.Spares) : Lessened w (w.given o) := by
  refine ⟨fun name hname => ?_, fun instanceId labelPrefix name hname => ?_, fun kind name hname => ?_,
    congrFun (given_resources o) .volume, ?_⟩
  · rw [World.container, given_containers]
    exact hname
  · rwa [World.labelledNames, given_containers] at hname
  · rw [World.resource, given_resources]
    exact hname
  · unfold World.given
    split
    · refine ⟨[o], rfl, fun o' ho' name heq => ?_⟩
      obtain rfl := List.mem_singleton.1 ho'
      subst heq
      exact ho rfl
    · exact ⟨[], rfl, by simp⟩

/-- Fewer names are remembered, for fewer things. -/
theorem Remembers.of_lessened (h : Remembers config instanceId w) (hlessened : Lessened w w')
    (hrefs : ∀ key, key.kind ≠ .volume → ∀ name ∈ w'.refs key, name ∈ w.refs key) : Remembers config instanceId w' := by
  refine ⟨fun name hname => ?_, fun role name hname => ?_⟩
  · exact (h.container name (hrefs .container nofun name hname)).imp_right (hlessened.containers name)
  · exact (h.network role name (hrefs (.network role) nofun name hname)).imp_right (hlessened.resources .network _)

theorem lessened_stopped (name : String) : Lessened w (w.stopped name) := by
  refine ⟨fun other hother => ?_, fun instanceId labelPrefix other hother => ?_, fun _ _ => id, rfl, [], rfl, by simp⟩
  · have hsome := lookup_map_isSome w.containers
      (fun container => if container.1 = name then { container.2 with status := "exited" } else container.2) other
    rw [show w.containers.lookup other = none from hother, Option.isSome_none, Option.isSome_eq_false_iff,
      Option.isNone_iff_eq_none] at hsome
    exact hsome
  · obtain ⟨container, hmem, rfl⟩ := List.mem_map.1 hother
    obtain ⟨hmem, hlabelled⟩ := List.mem_filter.1 hmem
    obtain ⟨before, hbefore, rfl⟩ := List.mem_map.1 hmem
    -- a stopped container has the labels it had
    refine List.mem_map.2 ⟨before, List.mem_filter.2 ⟨hbefore, ?_⟩, rfl⟩
    dsimp only at hlabelled
    split at hlabelled <;> exact hlabelled

theorem withoutContainer_same (name : String) : (w.withoutContainer name).container name = none := by
  rw [World.container, World.withoutContainer, lookup_filter_ne, if_pos rfl]

theorem lessened_withoutContainer (name : String) : Lessened w (w.withoutContainer name) := by
  refine ⟨fun other hother => ?_, fun instanceId labelPrefix other hother => ?_, fun _ _ => id, rfl, [], rfl, by simp⟩
  · rw [World.container, World.withoutContainer, lookup_filter_ne]
    split
    · rfl
    · exact hother
  · obtain ⟨container, hmem, rfl⟩ := List.mem_map.1 hother
    obtain ⟨hmem, hlabelled⟩ := List.mem_filter.1 hmem
    exact List.mem_map.2 ⟨container, List.mem_filter.2 ⟨List.mem_of_mem_filter hmem, hlabelled⟩, rfl⟩

theorem withoutResource_resource (kind kind' : ManagedResourceKind) (name other : String) :
    (w.withoutResource kind name).resource kind' other =
      if kind' = kind ∧ other = name then none else w.resource kind' other := by
  by_cases hkind : kind' = kind
  · subst hkind
    simp only [World.resource, World.withoutResource, Function.update_self, lookup_filter_ne, true_and]
  · simp only [World.resource, World.withoutResource, Function.update_of_ne hkind, hkind, false_and, if_false]

theorem withoutResource_same (kind : ManagedResourceKind) (name : String) :
    (w.withoutResource kind name).resource kind name = none := by
  rw [withoutResource_resource, if_pos ⟨rfl, rfl⟩]

theorem lessened_withoutResource {kind : ManagedResourceKind} (hkind : kind ≠ .volume) (name : String) :
    Lessened w (w.withoutResource kind name) := by
  refine ⟨fun _ => id, fun _ _ _ => id, fun kind' other hother => ?_, Function.update_of_ne hkind.symm _ _, [], rfl, by simp⟩
  rw [withoutResource_resource]
  split
  · rfl
  · exact hother

/-- A spare operation leaves no more than there was. -/
theorem carryOut_spares {o : RuntimeOp} {answer : o.Answer} (ho : o.Spares)
    (h : w.carryOut instanceId o = some (answer, w')) :
    Lessened w w' ∧ ∀ key, key.kind ≠ .volume → ∀ name ∈ w'.refs key, name ∈ w.refs key := by
  cases o with
  | stop name =>
    obtain ⟨_, -, heq⟩ := Option.map_eq_some_iff.1 h
    obtain rfl := (Prod.mk.inj heq).2
    exact ⟨lessened_stopped name, fun _ _ _ => id⟩
  | rm name =>
    obtain ⟨_, -, heq⟩ := Option.map_eq_some_iff.1 h
    obtain rfl := (Prod.mk.inj heq).2
    exact ⟨lessened_withoutContainer name, fun _ _ _ => id⟩
  | resourceRm kind name =>
    obtain ⟨_, -, heq⟩ := Option.map_eq_some_iff.1 h
    obtain rfl := (Prod.mk.inj heq).2
    exact ⟨lessened_withoutResource ho name, fun _ _ _ => id⟩
  | inspectContainer name =>
    obtain ⟨_, -, heq⟩ := Option.map_eq_some_iff.1 h
    obtain rfl := (Prod.mk.inj heq).2
    exact ⟨.refl w, fun _ _ _ => id⟩
  | inspectResource kind name =>
    obtain ⟨_, -, heq⟩ := Option.map_eq_some_iff.1 h
    obtain rfl := (Prod.mk.inj heq).2
    exact ⟨.refl w, fun _ _ _ => id⟩
  | remember key name =>
    obtain rfl := (Prod.mk.inj (Option.some.inj h)).2
    refine ⟨(looked_withRef key name).lessened, fun key' hkey' other hother => ?_⟩
    have hne : key' ≠ key := by
      rintro rfl
      exact hkey' ho
    rwa [withRef_of_ne hne] at hother
  | forget kind name =>
    obtain rfl := (Prod.mk.inj (Option.some.inj h)).2
    refine ⟨(looked_withoutRefs kind name).lessened, fun key' _ other hother => ?_⟩
    simp only [World.withoutRefs] at hother
    split at hother
    · cases hother
    · exact hother
  | _ =>
    obtain rfl := (Prod.mk.inj (Option.some.inj h)).2
    exact ⟨.refl w, fun _ _ _ => id⟩

theorem lessened_carryOut {o : RuntimeOp} {answer : o.Answer} (h : (w.given o).carryOut instanceId o = some (answer, w'))
    (ho : o.Spares) : Lessened w w' :=
  (lessened_given ho).trans (carryOut_spares ho h).1

theorem perform_spares {o : RuntimeOp} {x : RuntimeChoice} {r : Except RuntimeFailure o.Answer × World} (ho : o.Spares)
    (h : perform instanceId w o x = some r) :
    Lessened w r.2 ∧ (Remembers config instanceId w → Remembers config instanceId r.2) := by
  have hstep : ∀ w', Lessened w w' → (∀ key, key.kind ≠ .volume → ∀ name ∈ w'.refs key, name ∈ w.refs key) →
      Lessened w w' ∧ (Remembers config instanceId w → Remembers config instanceId w') :=
    fun w' hlessened hrefs => ⟨hlessened, fun h => h.of_lessened hlessened hrefs⟩
  cases x with
  | go =>
    obtain ⟨⟨answer, w'⟩, hcarry, rfl⟩ := Option.map_eq_some_iff.1 h
    obtain ⟨hlessened, hrefs⟩ := carryOut_spares ho hcarry
    refine hstep w' ((lessened_given ho).trans hlessened) fun key hkey name hname => ?_
    have := hrefs key hkey name hname
    rwa [given_refs] at this
  | fails error =>
    rw [perform] at h
    split at h
    · obtain rfl := Option.some.inj h
      exact hstep _ (lessened_given ho) fun key _ name hname => by rwa [given_refs] at hname
    · cases h
  | aborted reason =>
    have heq : r.2 = w := by
      cases o <;> first
        | (obtain rfl := Option.some.inj h; rfl)
        | cases h
    rw [heq]
    exact hstep w (.refl w) fun _ _ _ => id

/-! ## One command after the other -/

/-- The task takes away no more than it may; where it comes to an end `G` holds, and no failure is one of ownership. -/
def Dismantles (instanceId : String) (w : World) (task : Task α) (G : World → Prop) : Prop :=
  ends (perform instanceId) Honest task (fun r w' => Lessened w w' ∧ match r with
    | .ok _ => G w'
    | .error failure => ¬ failure.IsOwnership) w

section Dismantles

variable {task : Task α} {f : α → Task β} {G H : World → Prop}

theorem dismantles_pure {a : α} (h : G w) : Dismantles instanceId w (pure a) G := ⟨.refl w, h⟩

theorem dismantles_throw {failure : RuntimeFailure} (h : ¬ failure.IsOwnership) :
    Dismantles instanceId w (throw failure : Task α) G := ⟨.refl w, h⟩

/-- What is taken away later is taken away from the beginning on. -/
theorem dismantles_after (hlessened : Lessened w w') (h : Dismantles instanceId w' task G) :
    ends (perform instanceId) Honest task (fun r w'' => Lessened w w'' ∧ match r with
      | .ok _ => G w''
      | .error failure => ¬ failure.IsOwnership) w' :=
  ends_mono h fun _ _ hr => ⟨hlessened.trans hr.1, hr.2⟩

theorem dismantles_bind (h : Dismantles instanceId w task G)
    (hf : ∀ a w', Lessened w w' → G w' → Dismantles instanceId w' (f a) H) : Dismantles instanceId w (task >>= f) H :=
  ends_then h (fun _ _ hr => hr) fun a w' hr => dismantles_after hr.1 (hf a w' hr.1 hr.2)

theorem dismantles_mono (h : Dismantles instanceId w task G) (hG : ∀ w', Lessened w w' → G w' → H w') :
    Dismantles instanceId w task H := by
  refine ends_mono h fun r w' hr => ⟨hr.1, ?_⟩
  cases r with
  | ok a => exact hG w' hr.1 hr.2
  | error failure => exact hr.2

theorem dismantles_fromExcept {x : Except RuntimeFailure α} (hx : ∀ failure, x = .error failure → ¬ failure.IsOwnership) :
    Dismantles instanceId w (fromExcept x) fun _ => True := by
  cases x with
  | ok a => exact dismantles_pure trivial
  | error failure => exact dismantles_throw (hx failure rfl)

theorem dismantles_onlyIf {c : Prop} [Decidable c] {task : Task Unit} (h : c → Dismantles instanceId w task G)
    (hnot : ¬ c → G w) : Dismantles instanceId w (onlyIf c task) G := by
  unfold onlyIf
  split
  · exact h ‹_›
  · exact dismantles_pure (hnot ‹_›)

/-- What is gone stays gone, however many follow. -/
theorem dismantles_each {f : β → Task α} {K : β → World → Prop} (hf : ∀ b w, Dismantles instanceId w (f b) (K b))
    (hstays : ∀ b w w', Lessened w w' → K b w → K b w') (bs : List β) :
    Dismantles instanceId w (each f bs) fun w' => ∀ b ∈ bs, K b w' := by
  induction bs generalizing w with
  | nil => exact dismantles_pure (by simp)
  | cons b bs ih =>
    refine dismantles_bind (hf b w) fun _ w₁ hw₁ hb => ?_
    refine dismantles_bind ih fun _ w₂ hw₂ hbs => dismantles_pure ?_
    intro b' hb'
    rcases List.mem_cons.1 hb' with rfl | hb'
    · exact hstays _ w₁ w₂ hw₂ hb
    · exact hbs b' hb'

/-- A command, the failures of which with one of the texts are nothing to worry about. -/
theorem dismantles_tolerating {task : Task Unit} {texts : List String}
    (h : ends (perform instanceId) Honest task (fun r w' => Lessened w w' ∧ match r with
      | .ok _ => G w'
      | .error (.docker error) => mentions texts error = true → G w'
      | .error failure => FromSignal failure) w) :
    Dismantles instanceId w (tryCatch task fun failure => do
      throwIfAborted
      allowing texts failure) G := by
  refine ends_tryCatch h (fun a w' hr => hr) fun failure w' hr => ?_
  have hplain : ¬ failure.IsOwnership := by
    cases failure <;> first | exact id | exact hr.2.elim
  refine ends_then (ends_throwIfAborted (Q := fun r w'' => w'' = w' ∧ ∀ failure, r = .error failure → ¬ failure.IsOwnership)
    ⟨rfl, nofun⟩ fun reason => ⟨rfl, fun failure heq => ?_⟩) ?_ ?_
  · obtain rfl := Except.error.inj heq
    exact id
  · rintro failure w'' ⟨rfl, hfailure⟩
    exact ⟨hr.1, hfailure failure rfl⟩
  · rintro - w'' ⟨rfl, -⟩
    unfold allowing
    split
    · next error =>
      refine ends_throwIf (fun _ => ⟨hr.1, hplain⟩) fun hmentions => ⟨hr.1, hr.2 ?_⟩
      simpa using hmentions
    · exact ⟨hr.1, hplain⟩

end Dismantles

theorem dismantles_stop (name : String) : Dismantles instanceId w (stopContainerArtifact name) fun _ => True := by
  refine dismantles_tolerating (ends_docker rfl (fun reason _ => ⟨.refl w, trivial⟩) (fun answer w' h => ?_) fun error _ => ?_)
  · exact ⟨lessened_carryOut h trivial, trivial⟩
  · exact ⟨lessened_given trivial, fun _ => trivial⟩

theorem dismantles_forget (kind : ManagedResourceKind) (name : String) {G : World → Prop}
    (h : G (w.withoutRefs kind name)) : Dismantles instanceId w (await (.forget kind name)) G :=
  ends_forget ⟨(looked_withoutRefs kind name).lessened, h⟩

theorem dismantles_remove (name : String) :
    Dismantles instanceId w (removeContainerArtifact name) fun w' => w'.container name = none := by
  refine dismantles_bind (G := fun w' => w'.container name = none) (dismantles_tolerating
    (ends_docker rfl (fun reason _ => ⟨.refl w, trivial⟩) (fun answer w' h => ?_) fun error hhonest => ?_))
    fun _ w' _ hgone => dismantles_forget .container name hgone
  · refine ⟨lessened_carryOut h trivial, ?_⟩
    obtain ⟨_, -, heq⟩ := Option.map_eq_some_iff.1 h
    obtain rfl := (Prod.mk.inj heq).2
    exact withoutContainer_same name
  · refine ⟨lessened_given trivial, fun hmentions => ?_⟩
    rw [World.container, given_containers]
    exact hhonest hmentions

theorem dismantles_resourceRm (name : String) :
    Dismantles instanceId w (removeManagedResource .network name) fun w' => w'.resource .network name = none := by
  have hspares : (RuntimeOp.resourceRm .network name).Spares := nofun
  refine dismantles_bind (G := fun w' => w'.resource .network name = none) (dismantles_tolerating
    (ends_docker rfl (fun reason _ => ⟨.refl w, trivial⟩) (fun answer w' h => ?_) fun error hhonest => ?_))
    fun _ w' _ hgone => dismantles_forget .network name hgone
  · refine ⟨lessened_carryOut h hspares, ?_⟩
    obtain ⟨_, -, heq⟩ := Option.map_eq_some_iff.1 h
    obtain rfl := (Prod.mk.inj heq).2
    exact withoutResource_same .network name
  · refine ⟨lessened_given hspares, fun hmentions => ?_⟩
    rw [World.resource, given_resources]
    exact hhonest hmentions

theorem dismantles_disconnect (networkName : String) :
    Dismantles instanceId w (disconnectPortal config networkName) fun _ => True := by
  unfold disconnectPortal
  split
  · exact dismantles_throw id
  · refine ends_tryCatch (R := fun r w' => Lessened w w' ∧ ∀ failure, r = .error failure → ¬ failure.IsOwnership)
      (ends_docker rfl (fun reason _ => ⟨.refl w, ?_⟩) (fun answer w' h => ?_) fun error _ => ?_)
      (fun _ w' hr => ⟨hr.1, trivial⟩) fun failure w' hr => ?_
    · rintro failure heq
      obtain rfl := Except.error.inj heq
      exact id
    · exact ⟨lessened_carryOut h trivial, nofun⟩
    · refine ⟨lessened_given trivial, fun failure heq => ?_⟩
      obtain rfl := Except.error.inj heq
      exact id
    · unfold allowing
      split
      · exact ends_throwIf (fun _ => ⟨hr.1, id⟩) fun _ => ⟨hr.1, trivial⟩
      · exact ⟨hr.1, hr.2 _ rfl⟩

theorem dismantles_network (network : Option ManagedResourceRef) (withPortal : Bool) :
    Dismantles instanceId w (removeNetwork config network withPortal) fun w' =>
      ∀ ref ∈ network, w'.resource .network ref.name = none := by
  cases network with
  | none => exact dismantles_pure (by simp)
  | some network =>
    refine dismantles_bind (G := fun _ => True)
      (dismantles_onlyIf (fun _ => dismantles_disconnect network.name) fun _ => trivial) fun _ w' _ _ => ?_
    refine dismantles_mono (dismantles_resourceRm network.name) fun w'' _ hgone ref href => ?_
    obtain rfl := Option.some.inj href
    exact hgone

/-! ## The whole of it -/

theorem hostname_failure {value : Option String} {failure : RuntimeFailure}
    (h : readDockerContainerHostname value = .error failure) : ¬ failure.IsOwnership := by
  unfold readDockerContainerHostname at h
  split at h
  · cases h
  · dsimp only at h
    split at h
    · cases h
    · obtain rfl := Except.error.inj h
      exact id

/-- The helper container fails as Docker or the signal makes it fail. -/
theorem dismantles_run {volumeName recoveryId : String} {ids hostnames : List String} :
    Dismantles instanceId w (runStateRecovery volumeName ids hostnames recoveryId) fun _ => True := by
  refine ends_then (ends_settle (R := fun r w' => Lessened w w' ∧ match r with
    | .ok (.error failure) => ¬ (recoveryFailure failure).IsOwnership
    | .ok (.ok _) => True
    | .error _ => False) (ends_docker rfl (fun reason _ => ⟨.refl w, id⟩) (fun answer w' h => ?_) fun error _ => ?_)) ?_ ?_
  · exact ⟨lessened_carryOut h trivial, trivial⟩
  · refine ⟨lessened_given trivial, ?_⟩
    unfold recoveryFailure
    dsimp only
    split <;> exact id
  · rintro failure w' ⟨-, h⟩
    exact h.elim
  · rintro (failure | answer) w' ⟨hlessened, h⟩
    · refine ends_then (ends_throwIfAborted (Q := fun r w'' => w'' = w' ∧ ∀ failure, r = .error failure → ¬ failure.IsOwnership)
        ⟨rfl, nofun⟩ fun reason => ⟨rfl, fun failure heq => ?_⟩) ?_ ?_
      · obtain rfl := Except.error.inj heq
        exact id
      · rintro failure w'' ⟨rfl, hfailure⟩
        exact ⟨hlessened, hfailure failure rfl⟩
      · rintro - w'' ⟨rfl, -⟩
        exact ⟨hlessened, h⟩
    · exact ⟨hlessened, trivial⟩

theorem dismantles_recover {ownerId recoveryId : String} {ids : List DockerContainerId} {binding : StorageBinding}
    {hostnames : List String}
    (hvolume : config.recoveryCommand.isSome = true → ∃ ref,
      selectResource config instanceId (recoveryQuery config instanceId ownerId binding)
        (w.candidates config instanceId (recoveryQuery config instanceId ownerId binding)) = .ok ref) :
    Dismantles instanceId w (recoverStateLocks config instanceId ownerId ids recoveryId binding hostnames) fun _ => True := by
  unfold recoverStateLocks
  dsimp only
  split
  · exact dismantles_pure trivial
  · next hcommand =>
    have hinvalid : ∀ {γ : Type} (x : Except String γ) failure, orInvalid x = .error failure → ¬ failure.IsOwnership := by
      rintro γ (message | a) failure heq
      · obtain rfl := Except.error.inj heq
        exact id
      · cases heq
    refine dismantles_bind (dismantles_fromExcept fun failure heq => ?_) fun hosts w₁ hw₁ _ => ?_
    · exact Fallible.mapM_error (fun _ _ => hostname_failure) heq
    split
    · exact dismantles_pure trivial
    refine dismantles_bind (dismantles_fromExcept (hinvalid _)) fun recoveryId w₂ hw₂ _ => ?_
    obtain ⟨ref, href⟩ := hvolume (by simpa [Option.isSome_iff_ne_none] using hcommand)
    rw [← candidates_volume (hw₁.trans hw₂).volumes rfl] at href
    refine ends_then (ends_inspectManagedResource nofun) (fun failure w₃ h => ⟨h.1.lessened, fun howner => ?_⟩) ?_
    · have herror := h.2.1 howner
      rw [href] at herror
      cases herror
    · rintro (_ | volume) w₃ ⟨hlooked, hselected, -⟩
      · rw [show w₂.candidates _ _ _ = [] from hselected] at href
        cases href
      · dsimp only
        exact dismantles_after hlooked.lessened dismantles_run

/-- What was found is gone in the end; the volume is what only the recovery of the locks may find fault with. -/
theorem dismantles_dismantle {request : RemoveContainerEnvironmentRequest} {binding : StorageBinding} {recoveryId : String}
    {environment : ResolvedEnvironment}
    (hvolume : environment.volume.isSome = true → environment.existingContainers.isEmpty = false →
      config.recoveryCommand.isSome = true → ∃ ref,
        selectResource config instanceId (recoveryQuery config instanceId request.ownerId binding)
          (w.candidates config instanceId (recoveryQuery config instanceId request.ownerId binding)) = .ok ref) :
    Dismantles instanceId w (dismantle config instanceId request binding recoveryId environment) fun w' =>
      (∀ existing ∈ environment.existingContainers, w'.container existing.1 = none) ∧
        (∀ ref ∈ environment.network, w'.resource .network ref.name = none) ∧
        ∀ ref ∈ environment.egressNetwork, w'.resource .network ref.name = none := by
  have hcontainers : ∀ (existing : String × FoundContainer) (w w' : World), Lessened w w' →
      w.container existing.1 = none → w'.container existing.1 = none :=
    fun existing w w' h => h.containers existing.1
  refine dismantles_bind (dismantles_each (fun existing w => dismantles_stop existing.1) (fun _ _ _ _ => id) _)
    fun _ w₁ hw₁ _ => ?_
  refine dismantles_bind (G := fun _ => True) (dismantles_onlyIf (fun hrecover => dismantles_recover fun hcommand => ?_)
    fun _ => trivial) fun _ w₂ hw₂ _ => ?_
  · rw [candidates_volume hw₁.volumes rfl]
    exact hvolume hrecover.1 hrecover.2 hcommand
  refine dismantles_bind (dismantles_each (fun existing w => dismantles_remove existing.1) hcontainers _)
    fun _ w₃ hw₃ hgone => ?_
  refine dismantles_bind (dismantles_network environment.network config.networkEndpoint) fun _ w₄ hw₄ hnetwork => ?_
  refine dismantles_mono (dismantles_network environment.egressNetwork false) fun w₅ hw₅ hegress => ⟨?_, ?_, hegress⟩
  · exact fun existing hmem => (hw₄.trans hw₅).containers existing.1 (hgone existing hmem)
  · exact fun ref href => hw₅.resources .network ref.name (hnetwork ref href)

end OpenApp.Docker.Environment
