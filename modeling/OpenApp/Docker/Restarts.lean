import OpenApp.Docker.Removal

/-!
# Runs of removals

Removals of one environment follow each other; where the process stops in the midst of one, the next one remembers
nothing. The recovery of the locks checks the volume again, and more strictly where the request names no bindings,
when the containers have been stopped already. And a canonical container is removed under the name of the containers
beside it, whoever stands there.
-/

namespace OpenApp.Docker.Environment

open Async Async.Prog Script

structure Call where
  recoveryId : String
  storageBindings : Option (List StorageBinding)
  choices : List RuntimeChoice

section Run

variable (config : RuntimeConfig) (instanceId ownerId : String)

def Call.request (call : Call) : RemoveContainerEnvironmentRequest where
  instanceId := instanceId
  ownerId := ownerId
  storageBindings := call.storageBindings

def Call.task (call : Call) : Task Unit :=
  removeEnvironment config call.recoveryId (call.request instanceId ownerId)

/-- A new process remembers nothing. -/
def World.restarted (w : World) : World :=
  { w with refs := fun _ => none }

/-- How the call ends, or that the process stops where there is no choice any more, and the world that is left. -/
def Call.outcome (call : Call) (w : World) : Option (Option (Except RuntimeFailure Unit) × World) :=
  match solo (perform instanceId) (call.task config instanceId ownerId) w call.choices with
  | some (r, w', _) => some (some r, w')
  | none => (stopped (perform instanceId) (call.task config instanceId ownerId) w call.choices).map fun w' =>
    (none, w'.restarted)

/-- The world after the calls. -/
def afterCalls : List Call → World → Option World
  | [], w => some w
  | first :: calls, w => (first.outcome config instanceId ownerId w).bind fun r => afterCalls calls r.2

/-- Docker tells the truth throughout the call, and the checks of the volume agree. -/
def Call.Meets (call : Call) (w : World) : Prop :=
  Async.Meets (perform instanceId) Honest (call.task config instanceId ownerId) w call.choices ∧
    RecoveryAgrees config (call.request instanceId ownerId) w

def AllMeet : List Call → World → Prop
  | [], _ => True
  | first :: calls, w => first.Meets config instanceId ownerId w ∧
    ∀ r ∈ first.outcome config instanceId ownerId w, AllMeet calls r.2

end Run

/-- Nothing is taken away unless everything is the owner's, and nothing where the call fails for ownership; the
volumes stay; and where the call succeeds nothing else is left. -/
structure FailsClosed (config : RuntimeConfig) (request : RemoveContainerEnvironmentRequest) (w w' : World)
    (result : Option (Except RuntimeFailure Unit)) : Prop where
  commands : ∃ issued, w'.commands = issued ++ w.commands ∧ (∀ o ∈ issued, ∀ name, o ≠ .resourceRm .volume name) ∧
    ((∃ o ∈ issued, o.isDestructive = true) →
      (∃ binding, w.binding config request = some binding ∧ ChecksPass config request binding w) ∧
        ∀ failure, result = some (.error failure) → ¬ failure.IsOwnership)
  volumes : w'.resources .volume = w.resources .volume
  success : result = some (.ok ()) → Gone config request w w'

variable {config : RuntimeConfig} {instanceId ownerId : String} {w w' : World} {call : Call} {calls : List Call}
  {result : Option (Except RuntimeFailure Unit)}

theorem Authorized.failsClosed {request : RemoveContainerEnvironmentRequest} (h : Authorized config request w w')
    (hend : ∀ r, result = some r → EndsWell config request w r w') : FailsClosed config request w w' result := by
  obtain ⟨issued, hissued, hvolume⟩ := h.commands
  refine ⟨⟨issued, hissued, hvolume, fun hdestructive => ⟨h.checked ⟨issued, hissued, hdestructive⟩, ?_⟩⟩, h.volumes, ?_⟩
  · rintro failure rfl howner
    -- a failure of ownership has only looked
    obtain ⟨issued', hissued', hnot⟩ := (hend _ rfl howner).commands
    obtain rfl := List.append_cancel_right (hissued.symm.trans hissued')
    obtain ⟨o, ho, hdestructive⟩ := hdestructive
    rw [hnot o ho] at hdestructive
    cases hdestructive
  · rintro rfl
    exact hend _ rfl

/-- What a process forgets touches nothing. -/
theorem Authorized.restarted {request : RemoveContainerEnvironmentRequest} (h : Authorized config request w w') :
    Authorized config request w w'.restarted :=
  ⟨h.toLessened.trans ⟨fun _ => id, fun _ _ _ => id, fun _ _ => id, rfl, [], rfl, by simp⟩, h.checked⟩

theorem remembers_restarted (w : World) : Remembers config instanceId w.restarted :=
  ⟨fun _ hname => (nomatch hname), fun _ _ hname => (nomatch hname)⟩

theorem Confined.of_lessened (h : Confined config instanceId w) (hlessened : Lessened w w') :
    Confined config instanceId w' := by
  refine ⟨fun namePrefix hmem slot hsome => h.former namePrefix hmem slot ?_, fun hdiscovery labelPrefix hmem name hname => ?_⟩
  · rw [Option.isSome_iff_ne_none] at hsome ⊢
    exact fun hnone => hsome (hlessened.containers _ hnone)
  · exact h.labelled hdiscovery labelPrefix hmem name (hlessened.labelled _ _ name hname)

/-- One call, from a world with the instance's containers in its slots. -/
theorem outcome_failsClosed (hconfined : Confined config instanceId w) (hremembers : Remembers config instanceId w)
    (hmeets : call.Meets config instanceId ownerId w)
    (houtcome : call.outcome config instanceId ownerId w = some (result, w')) :
    FailsClosed config (call.request instanceId ownerId) w w' result ∧ Lessened w w' ∧ Remembers config instanceId w' := by
  have hremoves : Removes config (call.request instanceId ownerId) (call.task config instanceId ownerId) w w :=
    removes_removeEnvironment hconfined hremembers hmeets.2 call.recoveryId
  unfold Call.outcome at houtcome
  split at houtcome
  · next r w₁ rest hsolo =>
    obtain ⟨rfl, rfl⟩ := Prod.mk.inj (Option.some.inj houtcome)
    have hauthorized := ends_solo (ends_of_throughout hremoves.always) hmeets.1 hsolo
    obtain ⟨hend, hremembers'⟩ := ends_solo hremoves.atEnd hmeets.1 hsolo
    refine ⟨hauthorized.failsClosed ?_, hauthorized.toLessened, hremembers'⟩
    rintro _ ⟨⟩
    exact hend
  · obtain ⟨w₁, hstopped, heq⟩ := Option.map_eq_some_iff.1 houtcome
    obtain ⟨rfl, rfl⟩ := Prod.mk.inj heq
    have hauthorized := (throughout_stopped hremoves.always hmeets.1 hstopped).restarted
    exact ⟨hauthorized.failsClosed nofun, hauthorized.toLessened, remembers_restarted w₁⟩

/-- In a run of removals, from a world in which the containers of the instance stand in the four slots of its name,
every call fails closed and keeps the volumes, and what succeeds leaves nothing else, as long as Docker does not
report as missing what is there and the recovery of the locks finds no fault with the volume that was checked. -/
theorem removals_failClosed (hconfined : Confined config instanceId w) (hremembers : Remembers config instanceId w)
    {w₁ : World} (hmeet : AllMeet config instanceId ownerId (calls ++ [call]) w)
    (hcalls : afterCalls config instanceId ownerId calls w = some w₁)
    (hcall : call.outcome config instanceId ownerId w₁ = some (result, w')) :
    FailsClosed config (call.request instanceId ownerId) w₁ w' result := by
  induction calls generalizing w with
  | nil =>
    obtain rfl := Option.some.inj hcalls
    exact (outcome_failsClosed hconfined hremembers hmeet.1 hcall).1
  | cons first calls ih =>
    obtain ⟨⟨firstResult, w₂⟩, hfirst, hrest⟩ := Option.bind_eq_some_iff.1 hcalls
    obtain ⟨-, hlessened, hremembers₂⟩ := outcome_failsClosed hconfined hremembers hmeet.1 hfirst
    exact ih (hconfined.of_lessened hlessened) hremembers₂ (hmeet.2 _ hfirst) hrest

/-! ## Samples -/

def sampleConfig : RuntimeConfig where
  namePrefix := "p-"
  networkPrefix := "n-"
  volumePrefix := "v-"
  legacyNamePrefixes := []
  legacyNetworkPrefixes := []
  legacyVolumePrefixes := []
  labelPrefixes := ["io.openapp.portal"]
  resourceDiscovery := false
  networkEndpoint := true
  portalContainer := some "portal"
  storageMountPath := "/data"
  recoveryCommand := some ["/recover"]

def sampleLabels (more : List (String × String)) : Labels :=
  some fun key => ([("io.openapp.portal.managed", "true"), ("io.openapp.portal.instance-id", "ws1"),
    ("io.openapp.portal.owner-id", "al")] ++ more).lookup key

def sampleContainer : ContainerInspect where
  id := ⟨String.ofList (List.replicate 64 'a'), by decide⟩
  labels := sampleLabels []
  status := "running"
  startedAt := ""
  hostname := none

/-- The volume with more labels, a private network, and the containers. -/
def sampleWorld (volumeLabels : List (String × String)) (containers : List (String × ContainerInspect)) : World where
  containers := containers
  resources := fun
    | .network => [("n-ws1", ⟨none, sampleLabels [], some true, some fun _ => some "false"⟩)]
    | .volume => [("v-ws1", ⟨none, sampleLabels volumeLabels, none, none⟩)]
    | .container => []
  refs := fun _ => none
  commands := []

def missing : RuntimeChoice := .fails ⟨"No such container or not found", true, some 1⟩

def sampleCall (choices : List RuntimeChoice) : Call where
  recoveryId := "environment-removal-1"
  storageBindings := none
  choices := choices

/-- Where there is nothing beside the canonical container: everything is found, and the container is stopped. -/
def untilStopped : List RuntimeChoice :=
  List.replicate 6 .go ++ [missing, .go, missing, .go, missing] ++ List.replicate 7 .go ++ [missing, .go, .go]

/-- A whole removal, the first half of which is that of one that stops once the container is stopped. -/
def untilGone : List RuntimeChoice :=
  untilStopped ++ List.replicate 8 .go

instance (config : RuntimeConfig) (instanceId ownerId : String) (call : Call) (w : World) :
    Decidable (Async.Meets (perform instanceId) Honest (call.task config instanceId ownerId) w call.choices) :=
  decidableMeets _ _ _

/-- The recovery of the locks finds no fault with the volume at all. -/
def RecoveryPasses (config : RuntimeConfig) (request : RemoveContainerEnvironmentRequest) (w : World) : Prop :=
  ∀ binding ∈ w.binding config request,
    (w.selection config request.instanceId (recoveryQuery config request.instanceId request.ownerId binding)).isOk = true

instance (config : RuntimeConfig) (request : RemoveContainerEnvironmentRequest) (w : World) :
    Decidable (RecoveryPasses config request w) :=
  inferInstanceAs (Decidable (∀ _ ∈ _, _))

theorem RecoveryPasses.agrees {request : RemoveContainerEnvironmentRequest} (h : RecoveryPasses config request w) :
    RecoveryAgrees config request w :=
  fun binding hbinding _ _ _ => h binding hbinding

theorem confined_sample (volumeLabels : List (String × String)) (containers : List (String × ContainerInspect)) :
    Confined sampleConfig "ws1" (sampleWorld volumeLabels containers) :=
  ⟨fun _ hmem => absurd hmem List.not_mem_nil, fun hdiscovery => absurd hdiscovery (by decide)⟩

theorem remembers_sample (volumeLabels : List (String × String)) (containers : List (String × ContainerInspect)) :
    Remembers sampleConfig "ws1" (sampleWorld volumeLabels containers) :=
  remembers_restarted (sampleWorld volumeLabels containers)

/-- The process stops with the container stopped, and the next removal finishes what it began. -/
theorem resumed_removal_failsClosed : ∃ w₁ w',
    afterCalls sampleConfig "ws1" "al" [sampleCall untilStopped] (sampleWorld [] [("p-ws1", sampleContainer)]) = some w₁ ∧
      (sampleCall untilGone).outcome sampleConfig "ws1" "al" w₁ = some (some (.ok ()), w') ∧
      FailsClosed sampleConfig ((sampleCall untilGone).request "ws1" "al") w₁ w' (some (.ok ())) := by
  have hrun : ((afterCalls sampleConfig "ws1" "al" [sampleCall untilStopped]
      (sampleWorld [] [("p-ws1", sampleContainer)])).bind fun w₁ =>
        (sampleCall untilGone).outcome sampleConfig "ws1" "al" w₁).any (fun r => r.1.any (·.isOk)) = true := by
    decide +kernel
  have hfirst : Async.Meets (perform "ws1") Honest ((sampleCall untilStopped).task sampleConfig "ws1" "al")
      (sampleWorld [] [("p-ws1", sampleContainer)]) (sampleCall untilStopped).choices ∧
        RecoveryPasses sampleConfig ((sampleCall untilStopped).request "ws1" "al")
          (sampleWorld [] [("p-ws1", sampleContainer)]) := by
    decide +kernel
  have hsecond : ∀ r ∈ (sampleCall untilStopped).outcome sampleConfig "ws1" "al" (sampleWorld [] [("p-ws1", sampleContainer)]),
      Async.Meets (perform "ws1") Honest ((sampleCall untilGone).task sampleConfig "ws1" "al") r.2 (sampleCall untilGone).choices ∧
        RecoveryPasses sampleConfig ((sampleCall untilGone).request "ws1" "al") r.2 := by
    decide +kernel
  obtain ⟨⟨result, w'⟩, hbind, hresult⟩ := (Option.any_eq_true _ _).1 hrun
  obtain ⟨w₁, hcalls, hcall⟩ := Option.bind_eq_some_iff.1 hbind
  obtain ⟨r, rfl, hr⟩ := (Option.any_eq_true _ _).1 hresult
  obtain ⟨⟨⟩, rfl⟩ := Fallible.isOk_iff.1 hr
  refine ⟨w₁, w', hcalls, hcall, removals_failClosed (confined_sample _ _) (remembers_sample _ _) ?_ hcalls hcall⟩
  refine ⟨⟨hfirst.1, hfirst.2.agrees⟩, fun r hr => ⟨?_, fun _ _ => trivial⟩⟩
  exact ⟨(hsecond r hr).1, (hsecond r hr).2.agrees⟩

/-! ### Where the volume is another one's in the eyes of the recovery only -/

/-- The call has stopped a container, and failed for the ownership of something. -/
def stoppedInVain : Option (Except RuntimeFailure Unit) × World → Bool
  | (some (.error (.resolution _)), w) => w.commands.any fun
    | .stop _ => true
    | _ => false
  | _ => false

theorem not_failsClosed_of_stoppedInVain {request : RemoveContainerEnvironmentRequest} (hnew : w.commands = [])
    (h : stoppedInVain (result, w') = true) : ¬ FailsClosed config request w w' result := by
  intro hcloses
  obtain ⟨issued, hissued, -, hchecked⟩ := hcloses.commands
  rw [hnew, List.append_nil] at hissued
  unfold stoppedInVain at h
  split at h
  · next error w'' heq =>
    obtain ⟨rfl, rfl⟩ := Prod.mk.inj heq
    obtain ⟨o, ho, hstop⟩ := List.any_eq_true.1 h
    have hdestructive : o.isDestructive = true := by
      cases o with
      | stop name => rfl
      | _ => cases hstop
    exact (hchecked ⟨o, hissued ▸ ho, hdestructive⟩).2 _ rfl trivial
  · cases h

/-- The volume is labelled with another storage. The removal that names no bindings passes it, stops the container, and
then fails. -/
theorem mismatch_after_stop : ∃ result w', (sampleCall (untilStopped ++ [.go])).outcome sampleConfig "ws1" "al"
      (sampleWorld [("io.openapp.portal.storage-ref", "other")] [("p-ws1", sampleContainer)]) = some (result, w') ∧
    ¬ FailsClosed sampleConfig ((sampleCall (untilStopped ++ [.go])).request "ws1" "al")
      (sampleWorld [("io.openapp.portal.storage-ref", "other")] [("p-ws1", sampleContainer)]) w' result := by
  have h : ((sampleCall (untilStopped ++ [.go])).outcome sampleConfig "ws1" "al"
      (sampleWorld [("io.openapp.portal.storage-ref", "other")] [("p-ws1", sampleContainer)])).any stoppedInVain = true := by
    decide +kernel
  obtain ⟨⟨result, w'⟩, houtcome, hvain⟩ := (Option.any_eq_true _ _).1 h
  exact ⟨result, w', houtcome, not_failsClosed_of_stoppedInVain rfl hvain⟩

/-! ### Where a container of another name is labelled as the instance's -/

/-- The canonical container is taken to be beside it, and what stands there is removed in its place, whoever owns it. -/
example : ((sampleCall (List.replicate 6 .go ++ [missing, .go, missing, .go, missing, .go, .go, missing, .go, .go, missing] ++
      List.replicate 7 .go ++ [missing] ++ List.replicate 15 .go)).outcome { sampleConfig with resourceDiscovery := true } "ws1" "al"
    (sampleWorld [] [("p-ws1", sampleContainer), ("zzz-ws1-rebuild-previous", sampleContainer),
      ("zzz-ws1", { sampleContainer with labels := none })])).map (fun r => (r.1.any (·.isOk), r.2.containers.map (·.1))) =
    some (true, ["p-ws1"]) := by
  decide +kernel

end OpenApp.Docker.Environment
