import OpenApp.Async.Stopped
import OpenApp.Docker.Environment

/-!
# Looking without touching

The first half of a removal only looks. What it is told is what is there, as long as Docker does not say of
something that is there that it is not; the names that the runtime remembers change on the way.
-/

namespace OpenApp.Docker.Environment

open Async Async.Prog Script
open ContainerLabels (IDENTIFIER_PATTERN)

variable {config : RuntimeConfig} {instanceId : String} {w w' w₁ : World} {α β : Type}

/-! ## Commands -/

/-- Docker does not report as missing what is there, and networks and volumes are listed by a label, or the list fails
for good. -/
def Honest (w : World) : RuntimeOp → RuntimeChoice → Prop
  | .inspectContainer name, .fails error =>
    mentions ["No such object", "No such container", "No such inspect", "not found"] error = true → w.container name = none
  | .inspectResource kind name, .fails error =>
    mentions ["No such " ++ kindName kind, "not found"] error = true → w.resource kind name = none
  | .rm name, .fails error =>
    mentions ["No such object", "No such container", "not found"] error = true → w.container name = none
  | .resourceRm kind name, .fails error =>
    mentions ["No such " ++ kindName kind, "not found"] error = true → w.resource kind name = none
  | .list kind _, .fails error =>
    kind ≠ .container → isUnsupportedResourceDiscoveryError error = false ∧ error.fromCommand = true
  | .list kind _, .aborted _ => kind = .container
  | _, _ => True

instance (w : World) : ∀ o x, Decidable (Honest w o x)
  | .inspectContainer _, .fails _ | .inspectResource _ _, .fails _ | .rm _, .fails _ | .resourceRm _ _, .fails _
  | .list _ _, .fails _ => inferInstanceAs (Decidable (_ → _))
  | .list kind _, .aborted _ => inferInstanceAs (Decidable (kind = .container))
  | .stop _, .fails _ | .disconnect _ _, .fails _ | .run _ _ _ _, .fails _ | .aborted, .fails _ | .ref _, .fails _
  | .remember _ _, .fails _ | .forget _ _, .fails _ => isTrue trivial
  | .inspectContainer _, .aborted _ | .inspectResource _ _, .aborted _ | .rm _, .aborted _ | .resourceRm _ _, .aborted _
  | .stop _, .aborted _ | .disconnect _ _, .aborted _ | .run _ _ _ _, .aborted _ | .aborted, .aborted _
  | .ref _, .aborted _ | .remember _ _, .aborted _ | .forget _ _, .aborted _ => isTrue trivial
  | .list _ _, .go | .inspectContainer _, .go | .inspectResource _ _, .go | .rm _, .go | .resourceRm _ _, .go
  | .stop _, .go | .disconnect _ _, .go | .run _ _ _ _, .go | .aborted, .go | .ref _, .go | .remember _ _, .go
  | .forget _ _, .go => isTrue trivial

@[simp] theorem given_containers (o : RuntimeOp) : (w.given o).containers = w.containers := by
  unfold World.given
  split <;> rfl

@[simp] theorem given_resources (o : RuntimeOp) : (w.given o).resources = w.resources := by
  unfold World.given
  split <;> rfl

@[simp] theorem given_refs (o : RuntimeOp) : (w.given o).refs = w.refs := by
  unfold World.given
  split <;> rfl

theorem ends_throwIfAborted {Q : Except RuntimeFailure Unit → World → Prop} (hgo : Q (.ok ()) w)
    (haborted : ∀ reason, Q (.error (.aborted reason)) w) :
    ends (perform instanceId) Honest throwIfAborted Q w := by
  intro x r _ hr
  cases x with
  | go =>
    obtain rfl := Option.some.inj hr
    exact hgo
  | fails error => cases hr
  | aborted reason =>
    obtain rfl := Option.some.inj hr
    exact haborted reason

/-- A command is not given, takes effect, or fails. -/
theorem ends_docker {o : RuntimeOp} {Q : Except RuntimeFailure o.Answer → World → Prop} (hcommand : o.isCommand = true)
    (haborted : ∀ reason, Honest w o (.aborted reason) → Q (.error (.aborted reason)) w)
    (hgo : ∀ answer w', (w.given o).carryOut instanceId o = some (answer, w') → Q (.ok answer) w')
    (hfails : ∀ error, Honest w o (.fails error) → Q (.error (.docker error)) (w.given o)) :
    ends (perform instanceId) Honest (docker o) Q w := by
  refine ends_await fun x r hx hr => ?_
  cases x with
  | go =>
    obtain ⟨⟨answer, w''⟩, hcarry, rfl⟩ := Option.map_eq_some_iff.1 hr
    exact hgo answer w'' hcarry
  | fails error =>
    rw [perform, if_pos hcommand] at hr
    obtain rfl := Option.some.inj hr
    exact hfails error hx
  | aborted reason =>
    cases o with
    | aborted => cases hcommand
    | _ =>
      first
        | obtain rfl := Option.some.inj hr
          exact haborted reason hx
        | cases hcommand

/-! ## Tasks that only look -/

/-- Nothing was touched, and nothing was given that touches anything. -/
structure Looked (w w' : World) : Prop where
  containers : w'.containers = w.containers
  resources : w'.resources = w.resources
  commands : ∃ issued, w'.commands = issued ++ w.commands ∧ ∀ o ∈ issued, o.isDestructive = false

/-- Nothing was remembered or forgotten either. -/
structure Glanced (w w' : World) : Prop extends Looked w w' where
  refs : w'.refs = w.refs

theorem Looked.refl (w : World) : Looked w w := ⟨rfl, rfl, [], rfl, by simp⟩

theorem Looked.trans {w'' : World} (h : Looked w w') (h' : Looked w' w'') : Looked w w'' := by
  obtain ⟨issued, hissued, hnot⟩ := h.commands
  obtain ⟨issued', hissued', hnot'⟩ := h'.commands
  refine ⟨h'.containers.trans h.containers, h'.resources.trans h.resources, issued' ++ issued, ?_, ?_⟩
  · rw [hissued', hissued, List.append_assoc]
  · intro o ho
    exact (List.mem_append.1 ho).elim (hnot' o) (hnot o)

theorem Looked.container (h : Looked w w') (name : String) : w'.container name = w.container name := by
  rw [World.container, h.containers, World.container]

theorem Looked.resource (h : Looked w w') (kind : ManagedResourceKind) (name : String) :
    w'.resource kind name = w.resource kind name := by
  rw [World.resource, h.resources, World.resource]

theorem Looked.labelledNames (h : Looked w w') (kind : ManagedResourceKind) (labelPrefix : String) :
    w'.labelledNames instanceId kind labelPrefix = w.labelledNames instanceId kind labelPrefix := by
  unfold World.labelledNames
  rw [h.containers, h.resources]

theorem Glanced.refl (w : World) : Glanced w w := ⟨.refl w, rfl⟩

theorem Glanced.trans {w'' : World} (h : Glanced w w') (h' : Glanced w' w'') : Glanced w w'' :=
  ⟨h.toLooked.trans h'.toLooked, h'.refs.trans h.refs⟩

theorem glanced_given {o : RuntimeOp} (ho : o.isDestructive = false) : Glanced w (w.given o) := by
  refine ⟨⟨given_containers o, given_resources o, ?_⟩, given_refs o⟩
  unfold World.given
  split
  · exact ⟨[o], rfl, by simpa using ho⟩
  · exact ⟨[], rfl, by simp⟩

/-- From any world in which no more than a glance was taken since, the task takes no more than one, and is told `A`. -/
def Tells (instanceId : String) (w : World) (task : Task α) (A : Except RuntimeFailure α → Prop) : Prop :=
  ∀ w₁, Glanced w w₁ → ends (perform instanceId) Honest task (fun r w' => Glanced w w' ∧ A r) w₁

section Tells

variable {A A' : Except RuntimeFailure α → Prop} {B : Except RuntimeFailure β → Prop} {task : Task α} {f : α → Task β}

theorem tells_mono (h : Tells instanceId w task A) (hA : ∀ r, A r → A' r) : Tells instanceId w task A' :=
  fun w₁ hw₁ => ends_mono (h w₁ hw₁) fun r _ hr => ⟨hr.1, hA r hr.2⟩

theorem tells_pure {a : α} (h : A (.ok a)) : Tells instanceId w (pure a) A := fun _ hw₁ => ⟨hw₁, h⟩

theorem tells_throw {e : RuntimeFailure} (h : A (.error e)) : Tells instanceId w (throw e) A := fun _ hw₁ => ⟨hw₁, h⟩

theorem tells_bind (h : Tells instanceId w task A) (herror : ∀ e, A (.error e) → B (.error e))
    (hf : ∀ a, A (.ok a) → Tells instanceId w (f a) B) : Tells instanceId w (task >>= f) B := fun w₁ hw₁ =>
  ends_then (h w₁ hw₁) (fun e _ hr => ⟨hr.1, herror e hr.2⟩) fun a _ hr => hf a hr.2 _ hr.1

theorem tells_tryCatch {handler : RuntimeFailure → Task α} (h : Tells instanceId w task A)
    (hok : ∀ a, A (.ok a) → A' (.ok a)) (hf : ∀ e, A (.error e) → Tells instanceId w (handler e) A') :
    Tells instanceId w (tryCatch task handler) A' := fun w₁ hw₁ =>
  ends_tryCatch (h w₁ hw₁) (fun a _ hr => ⟨hr.1, hok a hr.2⟩) fun e _ hr => hf e hr.2 _ hr.1

theorem tells_settle {D : Except RuntimeFailure (Except RuntimeFailure α) → Prop} (h : Tells instanceId w task A)
    (hD : ∀ r, A r → D (.ok r)) : Tells instanceId w (settle task) D := fun w₁ hw₁ =>
  ends_settle (R := fun r w' => Glanced w w' ∧ D r) (ends_mono (h w₁ hw₁) fun r _ hr => ⟨hr.1, hD r hr.2⟩)

/-- A task that is settled does not throw. -/
def Settles (A : Except RuntimeFailure α → Prop) : Except RuntimeFailure (Except RuntimeFailure α) → Prop
  | .ok r => A r
  | .error _ => False

theorem tells_fromExcept {x : Except RuntimeFailure α} (h : A x) : Tells instanceId w (fromExcept x) A := by
  cases x with
  | ok a => exact tells_pure h
  | error e => exact tells_throw h

theorem tells_throwIf {c : Prop} [Decidable c] {e : RuntimeFailure} {A : Except RuntimeFailure Unit → Prop}
    (hthrow : c → A (.error e)) (hgo : ¬ c → A (.ok ())) : Tells instanceId w (throwIf c e) A := fun _ hw₁ =>
  ends_throwIf (fun hc => ⟨hw₁, hthrow hc⟩) fun hc => ⟨hw₁, hgo hc⟩

theorem tells_throwIfAborted {A : Except RuntimeFailure Unit → Prop} (hgo : A (.ok ()))
    (haborted : ∀ reason, A (.error (.aborted reason))) : Tells instanceId w throwIfAborted A := fun _ hw₁ =>
  ends_throwIfAborted ⟨hw₁, hgo⟩ fun reason => ⟨hw₁, haborted reason⟩

theorem tells_ref {key : RefKey} : Tells instanceId w (await (.ref key)) (· = .ok (w.refs key)) := by
  intro w₁ hw₁
  refine ends_await fun x r _ hr => ?_
  cases x with
  | go =>
    obtain rfl := Option.some.inj hr
    exact ⟨hw₁, congrArg _ (congrFun hw₁.refs key)⟩
  | _ => cases hr

theorem tells_allowing {texts : List String} {failure : RuntimeFailure} {A : Except RuntimeFailure Unit → Prop}
    (hallowed : ∀ error, failure = .docker error → mentions texts error = true → A (.ok ())) (hthrow : A (.error failure)) :
    Tells instanceId w (allowing texts failure) A := by
  unfold allowing
  split
  · next error =>
    refine tells_throwIf (fun _ => hthrow) fun hmentions => hallowed error rfl ?_
    simpa using hmentions
  · exact tells_throw hthrow

end Tells

/-! ## What is remembered -/

theorem ends_remember {key : RefKey} {name : String} {Q : Except RuntimeFailure Unit → World → Prop}
    (h : Q (.ok ()) (w.withRef key name)) : ends (perform instanceId) Honest (await (.remember key name)) Q w := by
  refine ends_await fun x r _ hr => ?_
  cases x with
  | go =>
    obtain rfl := Option.some.inj hr
    exact h
  | _ => cases hr

theorem ends_forget {kind : ManagedResourceKind} {name : String} {Q : Except RuntimeFailure Unit → World → Prop}
    (h : Q (.ok ()) (w.withoutRefs kind name)) : ends (perform instanceId) Honest (await (.forget kind name)) Q w := by
  refine ends_await fun x r _ hr => ?_
  cases x with
  | go =>
    obtain rfl := Option.some.inj hr
    exact h
  | _ => cases hr

@[simp] theorem withRef_same (key : RefKey) (name : String) : (w.withRef key name).refs key = some name := by
  simp [World.withRef]

theorem withRef_of_ne {key key' : RefKey} (h : key' ≠ key) (name : String) : (w.withRef key name).refs key' = w.refs key' := by
  simp [World.withRef, h]

theorem looked_withRef (key : RefKey) (name : String) : Looked w (w.withRef key name) := ⟨rfl, rfl, [], rfl, by simp⟩

theorem looked_withoutRefs (kind : ManagedResourceKind) (name : String) : Looked w (w.withoutRefs kind name) :=
  ⟨rfl, rfl, [], rfl, by simp⟩

/-! ## What is told -/

/-- A failure that is not of Docker's own making. -/
def FromSignal : RuntimeFailure → Prop
  | .aborted _ => True
  | _ => False

theorem tells_inspectContainerOp {name : String} : Tells instanceId w (docker (.inspectContainer name)) fun
    | .ok inspect => w.container name = some inspect
    | .error (.docker error) =>
      mentions ["No such object", "No such container", "No such inspect", "not found"] error = true → w.container name = none
    | .error failure => FromSignal failure := by
  intro w₁ hw₁
  refine ends_docker rfl (fun reason _ => ⟨hw₁, trivial⟩) (fun answer w' h => ?_) fun error h => ?_
  · obtain ⟨inspect, hinspect, heq⟩ := Option.map_eq_some_iff.1 h
    obtain ⟨rfl, rfl⟩ := Prod.mk.inj heq
    exact ⟨hw₁.trans (glanced_given rfl), (hw₁.container name).symm.trans (by simpa [World.container] using hinspect)⟩
  · refine ⟨hw₁.trans (glanced_given rfl), fun hmentions => ?_⟩
    rw [← hw₁.container name]
    exact h hmentions

/-- What the command says of a network or a volume. -/
def ToldResource (w : World) (kind : ManagedResourceKind) (name : String) :
    Except RuntimeFailure (RuntimeOp.inspectResource kind name).Answer → Prop
  | .ok resource => w.resource kind name = some resource
  | .error (.docker error) => mentions ["No such " ++ kindName kind, "not found"] error = true → w.resource kind name = none
  | .error failure => FromSignal failure

theorem tells_inspectResourceOp {kind : ManagedResourceKind} {name : String} :
    Tells instanceId w (docker (.inspectResource kind name)) (ToldResource w kind name) := by
  intro w₁ hw₁
  refine ends_docker rfl (fun reason _ => ⟨hw₁, trivial⟩) (fun answer w' h => ?_) fun error h => ?_
  · obtain ⟨resource, hresource, heq⟩ := Option.map_eq_some_iff.1 h
    obtain ⟨rfl, rfl⟩ := Prod.mk.inj heq
    exact ⟨hw₁.trans (glanced_given rfl), (hw₁.resource kind name).symm.trans (by simpa [World.resource] using hresource)⟩
  · refine ⟨hw₁.trans (glanced_given rfl), fun hmentions => ?_⟩
    rw [← hw₁.resource kind name]
    exact h hmentions

/-- What the command says of the names under a label. -/
def ToldList (instanceId : String) (w : World) (kind : ManagedResourceKind) (labelPrefix : String) :
    Except RuntimeFailure (List String) → Prop
  | .ok names => names = w.labelledNames instanceId kind labelPrefix
  | .error (.docker error) =>
    kind ≠ .container → isUnsupportedResourceDiscoveryError error = false ∧ error.fromCommand = true
  | .error failure => FromSignal failure ∧ kind = .container

theorem tells_listOp {kind : ManagedResourceKind} {labelPrefix : String} :
    Tells instanceId w (docker (.list kind labelPrefix)) (ToldList instanceId w kind labelPrefix) := by
  intro w₁ hw₁
  refine ends_docker rfl (fun reason h => ⟨hw₁, trivial, h⟩) (fun answer w' h => ?_) fun error h => ?_
  · obtain ⟨rfl, rfl⟩ := Prod.mk.inj (Option.some.inj h)
    have hgiven : Glanced w (w₁.given (.list kind labelPrefix)) := hw₁.trans (glanced_given rfl)
    exact ⟨hgiven, hgiven.labelledNames kind labelPrefix⟩
  · exact ⟨hw₁.trans (glanced_given rfl), h⟩

/-! ### Containers -/

/-- What is wrong is not a failure of Docker. -/
def Undockered (x : Except RuntimeFailure α) : Prop :=
  ∀ error, x ≠ .error (.docker error)

theorem undockered_bind {x : Except RuntimeFailure α} {f : α → Except RuntimeFailure β} (hx : Undockered x)
    (hf : ∀ a, Undockered (f a)) : Undockered (x >>= f) := by
  cases x with
  | ok a => exact hf a
  | error e => exact fun error h => hx error (congrArg Except.error (Except.error.inj h))

theorem undockered_orInvalid (x : Except String α) : Undockered (orInvalid x) := by
  cases x <;> simp [Undockered, orInvalid]

theorem undockered_requireManagedLabels (labels : Labels) : Undockered (requireManagedLabels config instanceId labels) := by
  unfold requireManagedLabels
  dsimp only
  split
  · split
    · simp [Undockered]
    · exact undockered_orInvalid _
  · simp [Undockered]

theorem undockered_readDockerContainerHostname (value : Option String) : Undockered (readDockerContainerHostname value) := by
  unfold readDockerContainerHostname
  split
  · simp [Undockered]
  · dsimp only
    split <;> simp [Undockered]

theorem undockered_toInstance (inspect : ContainerInspect) (name : String) :
    Undockered (toInstance config instanceId inspect name) :=
  undockered_bind (undockered_requireManagedLabels _) fun _ => undockered_bind (undockered_orInvalid _) fun _ =>
    undockered_bind (undockered_orInvalid _) fun _ => undockered_bind (undockered_readDockerContainerHostname _) fun _ =>
      nofun

/-- What there is to be said of a container from what stands under its name. -/
def ToldContainer (config : RuntimeConfig) (instanceId : String) (w : World) (name : String) :
    Except RuntimeFailure (Option FoundContainer) → Prop
  | .ok none => w.container name = none
  | .ok (some found) => ∃ inspect, w.container name = some inspect ∧ toInstance config instanceId inspect name = .ok found
  | .error _ => True

/-- What the first steps say of it: a container that is there is read, and one that is missed may be absent. -/
def ReadContainer (config : RuntimeConfig) (instanceId : String) (w : World) (name : String) :
    Except RuntimeFailure (Option FoundContainer) → Prop
  | .ok (some found) => ∃ inspect, w.container name = some inspect ∧ toInstance config instanceId inspect name = .ok found
  | .ok none => False
  | .error (.docker error) =>
    mentions ["No such object", "No such container", "No such inspect", "not found"] error = true → w.container name = none
  | .error _ => True

/-- What is missing is what the failure was about. -/
def Missed (missing : Prop) : Except RuntimeFailure Unit → Prop
  | .ok _ => missing
  | .error _ => True

theorem tells_inspectContainerByName {name : String} :
    Tells instanceId w (inspectContainerByName config instanceId name) (ToldContainer config instanceId w name) := by
  refine tells_tryCatch (A := ReadContainer config instanceId w name) ?_ ?_ ?_
  · refine tells_bind tells_inspectContainerOp (fun failure h => ?_) fun inspect hinspect => ?_
    · cases failure with
      | docker error => exact h
      | _ => trivial
    · refine tells_bind (A := fun r => r = toInstance config instanceId inspect name) (tells_fromExcept rfl)
        (fun failure h => ?_) fun found h => tells_pure ⟨inspect, hinspect, h.symm⟩
      cases failure with
      | docker error =>
        intro _
        exact absurd h.symm (undockered_toInstance inspect name error)
      | _ => trivial
  · rintro (_ | found) h
    · exact h.elim
    · exact h
  · intro failure h
    refine tells_bind (A := fun _ => True) (tells_throwIfAborted trivial fun _ => trivial) (fun _ _ => trivial) fun _ _ => ?_
    refine tells_bind (A := Missed (w.container name = none)) (tells_allowing (fun error heq hmentions => ?_) trivial)
      (fun _ _ => trivial) fun _ hnone => tells_pure hnone
    subst heq
    exact h hmentions

/-! ### Names -/

/-- The failure says that something is not the owner's, or is not there at all. -/
def RuntimeFailure.IsOwnership : RuntimeFailure → Prop
  | .resolution _ | .ownership _ => True
  | _ => False

/-- The labelled names of the first namespace that has some. -/
def World.listed (w : World) (instanceId : String) (kind : ManagedResourceKind) : List String → List String
  | [] => []
  | labelPrefix :: labelPrefixes =>
    let names := ((w.labelledNames instanceId kind labelPrefix).filter IDENTIFIER_PATTERN).eraseDups
    if names.isEmpty then w.listed instanceId kind labelPrefixes else names

/-- What is told of the names under the labels of some namespaces. -/
def ToldNames (instanceId : String) (w : World) (kind : ManagedResourceKind) (labelPrefixes : List String) :
    Except RuntimeFailure (List String) → Prop
  | .ok names => (∀ name ∈ names, ∃ labelPrefix ∈ labelPrefixes, name ∈ w.labelledNames instanceId kind labelPrefix) ∧
    (kind ≠ .container → names = w.listed instanceId kind labelPrefixes)
  | .error failure => ¬ failure.IsOwnership

theorem tells_listManagedResourceNames {kind : ManagedResourceKind} {labelPrefixes : List String} :
    Tells instanceId w (listManagedResourceNames kind labelPrefixes) (ToldNames instanceId w kind labelPrefixes) := by
  induction labelPrefixes with
  | nil => exact tells_pure ⟨by simp, fun _ => rfl⟩
  | cons labelPrefix labelPrefixes ih =>
    -- where the first namespace has nothing, or is not listed
    have hrest (hlisted : kind ≠ .container → w.listed instanceId kind (labelPrefix :: labelPrefixes) =
        w.listed instanceId kind labelPrefixes) : Tells instanceId w (listManagedResourceNames kind labelPrefixes)
          (ToldNames instanceId w kind (labelPrefix :: labelPrefixes)) := by
      refine tells_mono ih fun r hr => ?_
      cases r with
      | error failure => exact hr
      | ok names =>
        refine ⟨fun name hname => ?_, fun hkind => (hr.2 hkind).trans (hlisted hkind).symm⟩
        obtain ⟨labelPrefix', hmem, hname⟩ := hr.1 name hname
        exact ⟨labelPrefix', List.mem_cons_of_mem _ hmem, hname⟩
    refine tells_bind (tells_settle tells_listOp (D := Settles (ToldList instanceId w kind labelPrefix)) fun _ h => h)
      (fun failure h => h.elim) ?_
    · rintro (failure | names) h
      · cases failure with
        | docker error =>
          dsimp only at h ⊢
          split
          · next hswallowed =>
            refine hrest fun hkind => ?_
            obtain ⟨hsupported, hcommand⟩ := h hkind
            simp [hsupported, hcommand] at hswallowed
          · exact tells_throw id
        | aborted reason => exact hrest fun hkind => absurd h.2 hkind
        | _ => exact h.1.elim
      · obtain rfl := h
        dsimp only
        split
        · next hempty => exact hrest fun _ => by rw [World.listed, if_pos hempty]
        · next hnonempty =>
          refine tells_pure ⟨fun name hname => ⟨labelPrefix, List.mem_cons_self, ?_⟩, fun _ => ?_⟩
          · exact (List.mem_filter.1 (List.mem_eraseDups.1 hname)).1
          · rw [World.listed, if_neg hnonempty]

end OpenApp.Docker.Environment
