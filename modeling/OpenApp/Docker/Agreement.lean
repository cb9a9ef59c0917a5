import Mathlib.Data.List.Dedup
import OpenApp.Docker.Rebuild

/-!
# The status of a rebuild and its recovery

A rollout takes the status of a transaction for its outcome, while it is recovery that acts. Where a
transaction is pending recovery finds nothing wrong with the containers, where it is inconsistent
recovery refuses before it touches one, and a committed container stays. The two differ where a
rollback of another transaction stands next to a pending one, which recovery refuses, and where a lone
container is followed by one staged replacement, which it removes.
-/

namespace OpenApp.Docker

open Async Async.Prog

/-! ## Commands -/

/-- Nothing was found wrong with the containers. -/
def NoConflict {α : Type} : Except RecoveryFailure α → Prop
  | .error (.conflict _) => False
  | _ => True

/-- The command takes nothing away from the canonical name. -/
@[simp] def DockerOp.SparesCanonical : DockerOp → Prop
  | .rm slot => slot ≠ .canonical
  | .rename source _ => source ≠ .canonical
  | _ => True

namespace RebuildArtifacts

variable {artifacts artifacts' : RebuildArtifacts} {o : DockerOp} {x : DockerChoice} {r : Except RecoveryFailure o.Answer}

theorem perform_cases (h : artifacts.perform o x = some (r, artifacts')) :
    NoConflict r ∧ (artifacts' = artifacts ∨ artifacts.effect o = some artifacts') := by
  cases x with
  | go =>
    obtain ⟨artifacts'', heffect, hr⟩ := Option.map_eq_some_iff.1 h
    cases hr
    exact ⟨trivial, .inr heffect⟩
  | fails failure takesEffect =>
    simp only [perform] at h
    split at h
    · cases h
    · split at h
      · obtain ⟨artifacts'', heffect, hr⟩ := Option.map_eq_some_iff.1 h
        cases hr
        exact ⟨trivial, .inr heffect⟩
      · cases h
        exact ⟨trivial, .inl rfl⟩
  | aborted reason =>
    cases o with
    | aborted =>
      cases h
      exact ⟨trivial, .inl rfl⟩
    | _ => cases h

/-- The same container is still canonical, running or not. -/
def Keeps (kept : InspectedContainer) (artifacts : RebuildArtifacts) : Prop :=
  ∃ container, artifacts .canonical = some container ∧ container.runtimeId = kept.runtimeId ∧
    container.ownerId = kept.ownerId ∧ container.rebuild = kept.rebuild

theorem put_keeps {kept : InspectedContainer} {slot : Slot} (hkeeps : Keeps kept artifacts) (hslot : slot ≠ .canonical)
    (found : Option InspectedContainer) : Keeps kept (artifacts.put slot found) := by
  obtain ⟨container, hcontainer, hsame⟩ := hkeeps
  exact ⟨container, by rw [put_of_ne artifacts (Ne.symm hslot), hcontainer], hsame⟩

/-- Starting or stopping the container changes its state alone. -/
theorem set_state_keeps {kept : InspectedContainer} {slot : Slot} {state : ContainerState} (hkeeps : Keeps kept artifacts)
    (h : ((artifacts slot).map fun container => artifacts.put slot (some { container with state := state })) = some artifacts') :
    Keeps kept artifacts' := by
  obtain ⟨found, hfound, rfl⟩ := Option.map_eq_some_iff.1 h
  by_cases hslot : slot = .canonical
  · subst hslot
    obtain ⟨container, hcontainer, hsame⟩ := hkeeps
    obtain rfl := Option.some.inj (hcontainer.symm.trans hfound)
    exact ⟨_, put_same artifacts _ _, hsame⟩
  · exact put_keeps hkeeps hslot _

theorem effect_keeps {kept : InspectedContainer} (ho : o.SparesCanonical) (hkeeps : Keeps kept artifacts)
    (h : artifacts.effect o = some artifacts') : Keeps kept artifacts' := by
  cases o with
  | rm slot =>
    cases h
    exact put_keeps hkeeps ho none
  | rename source target =>
    simp only [effect] at h
    split at h
    · cases h
      have htarget : target ≠ .canonical := by
        rintro rfl
        obtain ⟨container, hcontainer, -⟩ := hkeeps
        simp_all
      exact put_keeps (put_keeps hkeeps ho _) htarget _
    · cases h
  | start slot => exact set_state_keeps hkeeps h
  | stop slot => exact set_state_keeps hkeeps h
  | _ =>
    cases h
    exact hkeeps

theorem perform_keeps {kept : InspectedContainer} (ho : o.SparesCanonical) (hkeeps : Keeps kept artifacts)
    (h : artifacts.perform o x = some (r, artifacts')) : Keeps kept artifacts' := by
  rcases (perform_cases h).2 with rfl | heffect
  · exact hkeeps
  · exact effect_keeps ho hkeeps heffect

end RebuildArtifacts

/-! ## Recovery that finds nothing wrong -/

/-- Whatever Docker makes of its commands, the task finds nothing wrong with the containers. -/
def Accepts {α : Type} (task : Task α) : Prop :=
  ∀ artifacts, task.ends RebuildArtifacts.perform (fun _ _ _ => True) (fun result _ => NoConflict result) artifacts

section Accepts

variable {α β : Type} {task : Task α} {f : α → Task β}

theorem accepts_pure (a : α) : Accepts (pure a) := fun _ => trivial

theorem accepts_bind (h : Accepts task) (hf : ∀ a, Accepts (f a)) : Accepts (task >>= f) := by
  intro artifacts
  refine ends_then (h artifacts) (fun e _ he => ?_) fun a artifacts _ => hf a artifacts
  cases e <;> trivial

theorem accepts_await (o : DockerOp) : Accepts (await o) := by
  intro artifacts
  apply ends_await
  rintro x ⟨r, artifacts'⟩ _ h
  exact (RebuildArtifacts.perform_cases h).1

/-- Where every outcome of a part is seen to, what it found wrong is not passed on. -/
theorem accepts_settle {f : Except RecoveryFailure α → Task β} (hok : ∀ a, Accepts (f (.ok a)))
    (herror : ∀ e, Accepts (f (.error e))) : Accepts (settle task >>= f) := by
  intro artifacts
  refine ends_then (R := fun r _ => ∃ r', r = .ok r') (ends_settle (ends_always _ fun r _ => ⟨r, rfl⟩)) ?_ ?_
  · rintro e _ ⟨r, h⟩
    cases h
  · intro r artifacts _
    cases r with
    | ok a => exact hok a artifacts
    | error e => exact herror e artifacts

theorem accepts_throw {e : RecoveryFailure} (h : NoConflict (.error e : Except RecoveryFailure α)) :
    Accepts (throw e : Task α) := fun _ => h

theorem accepts_fromExcept {x : Except RecoveryFailure α} {a : α} (h : x = .ok a) (hf : Accepts (f a)) :
    Accepts (fromExcept x >>= f) := by
  subst h
  exact hf

theorem accepts_throwIf {c : Prop} [Decidable c] {e : RecoveryFailure} {f : Unit → Task β} (h : ¬ c)
    (hf : Accepts (f ())) : Accepts (throwIf c e >>= f) := by
  rw [throwIf, if_neg h]
  exact hf

theorem accepts_onlyIf (condition : Prop) [Decidable condition] (o : DockerOp) : Accepts (onlyIf condition o) := by
  unfold onlyIf
  split
  · exact accepts_bind (accepts_await o) fun _ => accepts_pure ()
  · exact accepts_pure ()

end Accepts

/-! ## Checks -/

section Checks

variable {artifacts : RebuildArtifacts} {canonical previous staged predecessor : InspectedContainer}
  {rebuild : RebuildContainerMetadata} {ownerId : String}

/-- All containers have this owner. -/
def OwnedBy (artifacts : RebuildArtifacts) (ownerId : String) : Prop :=
  ∀ slot, ∀ container ∈ artifacts slot, container.ownerId = ownerId

theorem requireRebuildArtifactOwnership_ok (h : OwnedBy artifacts ownerId) :
    requireRebuildArtifactOwnership artifacts ownerId = .ok () := by
  have hslot : ∀ slot, (artifacts slot).any (·.ownerId ≠ ownerId) = false := by
    intro slot
    cases hfound : artifacts slot with
    | none => rfl
    | some container => simp [h slot container hfound]
  simp only [requireRebuildArtifactOwnership, hslot, List.find?_cons, List.find?_nil]

theorem requireRebuildArtifactOwnership_error (h : ¬ OwnedBy artifacts ownerId) :
    ∃ slot, requireRebuildArtifactOwnership artifacts ownerId = .error (.conflict (.ownership slot)) := by
  unfold requireRebuildArtifactOwnership
  split
  · exact ⟨_, rfl⟩
  · rename_i hnone
    refine absurd (fun slot container hcontainer => ?_) h
    have hslot := List.find?_eq_none.1 hnone slot (by cases slot <;> simp)
    simpa [Option.mem_def.1 hcontainer] using hslot

theorem singleOwner_of_ownedBy (h : OwnedBy artifacts ownerId) : rebuildArtifactsHaveSingleOwner artifacts = true := by
  have hall : ∀ owner ∈ artifacts.owners.dedup, owner = ownerId := by
    intro owner howner
    simp only [List.mem_dedup, RebuildArtifacts.owners, List.mem_filterMap, List.mem_cons, List.not_mem_nil, or_false] at howner
    obtain ⟨container, hcontainer, howner⟩ := howner
    obtain ⟨found, rfl, rfl⟩ := Option.map_eq_some_iff.1 howner
    rcases hcontainer with hslot | hslot | hslot | hslot
    · exact h _ found hslot.symm
    · exact h _ found hslot.symm
    · exact h _ found hslot.symm
    · exact h _ found hslot.symm
  have hnodup := List.nodup_dedup artifacts.owners
  rw [List.eq_replicate_of_mem hall, List.nodup_replicate] at hnodup
  exact decide_eq_true hnodup

/-- Containers of one owner pass the check just when the metadata name the one before. -/
theorem requireStagedReplacement_ok (howner : canonical.ownerId = previous.ownerId) (hrebuild : canonical.rebuild = some rebuild)
    (hnames : rebuild.predecessorId = requireDockerContainerId previous.runtimeId) :
    requireStagedReplacement canonical previous = .ok rebuild := by
  simp [requireStagedReplacement, howner, hrebuild, hnames]

theorem requireStagedReplacement_cases (canonical previous : InspectedContainer) :
    (∃ conflict, requireStagedReplacement canonical previous = .error (.conflict conflict)) ∨
      ∃ rebuild, canonical.rebuild = some rebuild ∧
        rebuild.predecessorId = requireDockerContainerId previous.runtimeId ∧
        requireStagedReplacement canonical previous = .ok rebuild := by
  unfold requireStagedReplacement
  split
  · exact .inl ⟨_, rfl⟩
  · split
    · exact .inl ⟨_, rfl⟩
    · rename_i rebuild hrebuild
      split
      · exact .inl ⟨_, rfl⟩
      · exact .inr ⟨rebuild, hrebuild, not_not.1 ‹_›, rfl⟩

end Checks

/-- The task finds something wrong with the containers before it runs a command. -/
def Refuses {α : Type} (task : Task α) : Prop :=
  ∃ conflict, task = throw (.conflict conflict)

theorem refuses_throwIf {α : Type} {c : Prop} [Decidable c] {conflict : Conflict} {f : Unit → Task α} (h : c) :
    Refuses (throwIf c (.conflict conflict) >>= f) :=
  ⟨conflict, by rw [throwIf, if_pos h]; rfl⟩

theorem refuses_fromExcept {α β : Type} {x : Except RecoveryFailure α} {f : α → Task β}
    (h : ∃ conflict, x = .error (.conflict conflict)) : Refuses (fromExcept x >>= f) := by
  obtain ⟨conflict, rfl⟩ := h
  exact ⟨conflict, rfl⟩

namespace RebuildRecoveryContext

variable {context : RebuildRecoveryContext} {artifacts : RebuildArtifacts}
  {canonical previous candidate rollback predecessor : InspectedContainer} {rebuild : RebuildContainerMetadata}

/-! ## Branches of recovery -/

theorem throwIfAborted_accepts : Accepts throwIfAborted := by
  refine accepts_bind (accepts_await _) fun reason => ?_
  cases reason with
  | none => exact accepts_pure ()
  | some reason => exact accepts_throw trivial

theorem fenceFailedCandidate_accepts (name rollbackName : Slot) (runtimeId : DockerContainerId) (recoveryId : String) :
    Accepts (context.fenceFailedCandidate name rollbackName runtimeId recoveryId) := by
  refine accepts_bind (accepts_await _) fun candidate => ?_
  cases candidate with
  | none => exact accepts_throw trivial
  | some candidate =>
    refine accepts_bind ?_ fun _ => accepts_bind (accepts_await _) fun _ =>
      accepts_bind (accepts_onlyIf _ _) fun _ => accepts_onlyIf _ _
    unfold throwIf
    split
    · exact accepts_throw trivial
    · exact accepts_pure ()

theorem commitHealthyCanonical_accepts (canonical : InspectedContainer) :
    Accepts (context.commitHealthyCanonical canonical) := by
  unfold commitHealthyCanonical
  split
  · exact accepts_pure false
  · split
    · exact accepts_pure false
    · refine accepts_settle (fun _ => ?_) fun error => accepts_bind throwIfAborted_accepts fun _ => ?_
      · exact accepts_settle (fun _ => accepts_pure true) fun _ =>
          accepts_bind throwIfAborted_accepts fun _ => accepts_pure false
      · split
        · exact accepts_throw trivial
        · exact accepts_pure false

theorem recoverRollbackArtifact_accepts (hcandidate : artifacts.candidate = none)
    (hsingle : ¬ (artifacts.canonical.isSome ∧ artifacts.previous.isSome))
    (hpredecessor : (artifacts.previous <|> artifacts.canonical) = some predecessor)
    (hstaged : requireStagedReplacement rollback predecessor = .ok rebuild) :
    Accepts (context.recoverRollbackArtifact artifacts rollback) := by
  refine accepts_throwIf (by simpa [hcandidate] using hsingle) ?_
  rw [hpredecessor]
  exact accepts_fromExcept hstaged <|
    accepts_bind (fenceFailedCandidate_accepts _ _ _ _) fun _ => accepts_bind (accepts_onlyIf _ _) fun _ =>
    accepts_bind (accepts_onlyIf _ _) fun _ => accepts_bind (accepts_await _) fun _ => accepts_pure _

theorem recoverCanonicalWithPrevious_accepts (hstaged : requireStagedReplacement canonical previous = .ok rebuild)
    (hsame : requireSameTransaction artifacts previous rebuild = .ok ()) :
    Accepts (context.recoverCanonicalWithPrevious artifacts canonical previous) := by
  refine accepts_fromExcept hstaged <| accepts_fromExcept hsame <| accepts_bind (accepts_onlyIf _ _) fun _ =>
    accepts_bind (commitHealthyCanonical_accepts canonical) fun healthy => ?_
  split
  · exact accepts_pure none
  · split
    · exact accepts_pure none
    · exact accepts_bind (fenceFailedCandidate_accepts _ _ _ _) fun _ => accepts_bind (accepts_await _) fun _ =>
        accepts_bind (accepts_onlyIf _ _) fun _ => accepts_bind (accepts_await _) fun _ => accepts_pure _

theorem recoverCanonicalArtifact_accepts
    (hstaged : ∀ candidate ∈ artifacts.candidate, ∃ rebuild, requireStagedReplacement candidate canonical = .ok rebuild) :
    Accepts (context.recoverCanonicalArtifact artifacts canonical) := by
  unfold recoverCanonicalArtifact
  split
  · exact accepts_bind (accepts_onlyIf _ _) fun _ => accepts_pure none
  · rename_i candidate hcandidate
    obtain ⟨rebuild, hok⟩ := hstaged candidate hcandidate
    exact accepts_fromExcept hok <| accepts_bind (accepts_await _) fun _ => accepts_bind (accepts_onlyIf _ _) fun _ =>
      accepts_bind (accepts_await _) fun _ => accepts_pure _

theorem recoverPreviousArtifact_accepts
    (hstaged : ∀ candidate ∈ artifacts.candidate, ∃ rebuild, requireStagedReplacement candidate previous = .ok rebuild) :
    Accepts (context.recoverPreviousArtifact artifacts previous) := by
  unfold recoverPreviousArtifact
  split
  · exact accepts_bind (accepts_await _) fun _ => accepts_bind (accepts_onlyIf _ _) fun _ => accepts_pure none
  · rename_i candidate hcandidate
    obtain ⟨rebuild, hok⟩ := hstaged candidate hcandidate
    exact accepts_fromExcept hok <| accepts_bind (accepts_await _) fun _ => accepts_bind (accepts_await _) fun _ =>
      accepts_bind (accepts_onlyIf _ _) fun _ => accepts_bind (accepts_await _) fun _ => accepts_pure _

/-! ## A canonical container that nothing takes the place of -/

theorem onlyIf_spares {condition : Prop} [Decidable condition] {o : DockerOp} (ho : o.SparesCanonical) :
    (onlyIf condition o).Only DockerOp.SparesCanonical := by
  unfold onlyIf
  split
  · exact only_bind (only_await ho) fun _ => only_pure ()
  · exact only_pure ()

theorem fence_rollback_spares (runtimeId : DockerContainerId) (recoveryId : String) :
    (context.fenceFailedCandidate .rollback .rollback runtimeId recoveryId).Only DockerOp.SparesCanonical := by
  refine only_bind (only_await trivial) fun candidate => ?_
  cases candidate with
  | none => exact only_throw _
  | some candidate =>
    exact only_bind (only_throwIf _ _) fun _ => only_bind (only_await trivial) fun _ =>
      only_bind (onlyIf_spares (by simp)) fun _ => onlyIf_spares (by simp)

theorem recoverRollbackArtifact_spares (rollback : InspectedContainer) :
    (context.recoverRollbackArtifact artifacts rollback).Only DockerOp.SparesCanonical := by
  refine only_bind (only_throwIf _ _) fun _ => ?_
  split
  · exact only_throw _
  · exact only_bind (only_fromExcept _) fun _ => only_bind (fence_rollback_spares _ _) fun _ =>
      only_bind (onlyIf_spares (by simp)) fun _ => only_bind (onlyIf_spares (by simp)) fun _ =>
      only_bind (only_await (by simp)) fun _ => only_pure _

theorem recoverCanonicalArtifact_spares (canonical : InspectedContainer) :
    (context.recoverCanonicalArtifact artifacts canonical).Only DockerOp.SparesCanonical := by
  unfold recoverCanonicalArtifact
  split
  · exact only_bind (onlyIf_spares (by simp)) fun _ => only_pure none
  · exact only_bind (only_fromExcept _) fun _ => only_bind (only_await (by simp)) fun _ =>
      only_bind (onlyIf_spares (by simp)) fun _ => only_bind (only_await (by simp)) fun _ => only_pure _

theorem recoverArtifacts_spares (hcanonical : artifacts.canonical.isSome) (hprevious : artifacts.previous = none) :
    (context.recoverArtifacts artifacts).Only DockerOp.SparesCanonical := by
  obtain ⟨canonical, hcanonical⟩ := Option.isSome_iff_exists.1 hcanonical
  refine only_bind (only_fromExcept _) fun _ => ?_
  split
  · exact recoverRollbackArtifact_spares _
  · refine only_bind (only_throwIf _ _) fun _ => ?_
    rw [hcanonical, hprevious]
    exact recoverCanonicalArtifact_spares canonical

end RebuildRecoveryContext

/-! ## What the status says -/

section Status

variable {artifacts : RebuildArtifacts} {transactionId : String}

theorem canonicalStatus_pending {canonicalRebuild : RebuildContainerMetadata}
    {candidateRebuild rollbackRebuild : Option RebuildContainerMetadata}
    (h : canonicalRebuildTransactionStatus artifacts transactionId canonicalRebuild candidateRebuild rollbackRebuild = .pending) :
    ∃ previous, artifacts.previous = some previous ∧
      canonicalRebuild.predecessorId = requireDockerContainerId previous.runtimeId ∧
      (artifacts.candidate.isSome → ∃ rebuild, candidateRebuild = some rebuild ∧ rebuild.id = transactionId ∧
        rebuild.predecessorId = requireDockerContainerId previous.runtimeId) := by
  unfold canonicalRebuildTransactionStatus at h
  split at h
  · cases h
  · split at h
    · split at h <;> cases h
    · rename_i previous hprevious
      split at h
      · cases h
      · rename_i hnames
        split at h
        · cases h
        · rename_i hcandidate
          refine ⟨previous, hprevious, not_not.1 hnames, fun hsome => ?_⟩
          have hall : ¬ candidateRebuild.all _ = true := fun hall => hcandidate ⟨hsome, hall⟩
          cases candidateRebuild with
          | none => exact absurd rfl hall
          | some rebuild =>
            simp only [Option.all_some, decide_eq_true_eq, not_or, not_not] at hall
            exact ⟨rebuild, rfl, hall⟩

theorem namesPredecessor_iff {rebuild : RebuildContainerMetadata} {predecessor : Option InspectedContainer} :
    namesPredecessor rebuild predecessor = true ↔
      ∃ found, predecessor = some found ∧ rebuild.predecessorId = requireDockerContainerId found.runtimeId := by
  cases predecessor <;> simp [namesPredecessor]

theorem sideCandidateStatus_pending {rebuild : RebuildContainerMetadata}
    (h : sideCandidateTransactionStatus artifacts rebuild = .pending) :
    artifacts.rollback = none ∧ ¬ (artifacts.canonical.isSome ∧ artifacts.previous.isSome) ∧
      namesPredecessor rebuild (artifacts.previous <|> artifacts.canonical) := by
  unfold sideCandidateTransactionStatus at h
  split at h
  · cases h
  · rename_i hside
    split at h
    · simp only [not_or, Option.not_isSome_iff_eq_none] at hside
      exact ⟨hside.1, hside.2, ‹_›⟩
    · cases h

theorem rollbackStatus_pending {rebuild : RebuildContainerMetadata}
    (h : rollbackTransactionStatus artifacts rebuild = .pending) :
    artifacts.candidate = none ∧ ¬ (artifacts.canonical.isSome ∧ artifacts.previous.isSome) ∧
      namesPredecessor rebuild (artifacts.previous <|> artifacts.canonical) := by
  unfold rollbackTransactionStatus at h
  split at h
  · cases h
  · rename_i hside
    split at h
    · simp only [not_or, Option.not_isSome_iff_eq_none] at hside
      exact ⟨hside.1, hside.2, ‹_›⟩
    · cases h

theorem canonicalStatus_inconsistent {canonicalRebuild : RebuildContainerMetadata}
    {candidateRebuild rollbackRebuild : Option RebuildContainerMetadata}
    (h : canonicalRebuildTransactionStatus artifacts transactionId canonicalRebuild candidateRebuild rollbackRebuild = .inconsistent) :
    rollbackRebuild.isSome ∨ artifacts.previous = none ∧ candidateRebuild.isSome ∨
      ∃ previous, artifacts.previous = some previous ∧
        (canonicalRebuild.predecessorId = requireDockerContainerId previous.runtimeId → artifacts.candidate.isSome ∧
          ∀ rebuild ∈ candidateRebuild, rebuild.predecessorId = requireDockerContainerId previous.runtimeId →
            rebuild.id ≠ transactionId) := by
  unfold canonicalRebuildTransactionStatus at h
  split at h
  · cases rollbackRebuild with
    | none => simp at *
    | some rebuild => exact .inl rfl
  · split at h
    · rename_i hprevious
      refine .inr (.inl ⟨hprevious, ?_⟩)
      cases candidateRebuild with
      | none => simp at h
      | some rebuild => rfl
    · rename_i previous hprevious
      refine .inr (.inr ⟨previous, hprevious, fun hnames => ?_⟩)
      rw [if_neg (not_not.2 hnames)] at h
      split at h
      · rename_i hcandidate
        refine ⟨hcandidate.1, fun rebuild hrebuild hsame => ?_⟩
        obtain rfl := Option.mem_def.1 hrebuild
        have hother := of_decide_eq_true hcandidate.2
        exact hother.resolve_right (not_not.2 hsame)
      · cases h

theorem canonicalStatus_committed {canonicalRebuild : RebuildContainerMetadata}
    {candidateRebuild rollbackRebuild : Option RebuildContainerMetadata}
    (h : canonicalRebuildTransactionStatus artifacts transactionId canonicalRebuild candidateRebuild rollbackRebuild = .committed) :
    artifacts.previous = none := by
  unfold canonicalRebuildTransactionStatus at h
  split at h
  · cases h
  · split at h
    · assumption
    · split at h
      · cases h
      · split at h <;> cases h

theorem sideCandidateStatus_inconsistent {rebuild : RebuildContainerMetadata}
    (h : sideCandidateTransactionStatus artifacts rebuild = .inconsistent) :
    artifacts.rollback.isSome ∨ (artifacts.canonical.isSome ∧ artifacts.previous.isSome) ∨
      ¬ namesPredecessor rebuild (artifacts.previous <|> artifacts.canonical) := by
  unfold sideCandidateTransactionStatus at h
  split at h
  · exact or_assoc.1 (.inl ‹_›)
  · split at h
    · cases h
    · exact .inr (.inr ‹_›)

theorem rollbackStatus_inconsistent {rebuild : RebuildContainerMetadata}
    (h : rollbackTransactionStatus artifacts rebuild = .inconsistent) :
    artifacts.candidate.isSome ∨ (artifacts.canonical.isSome ∧ artifacts.previous.isSome) ∨
      ¬ namesPredecessor rebuild (artifacts.previous <|> artifacts.canonical) := by
  unfold rollbackTransactionStatus at h
  split at h
  · exact or_assoc.1 (.inl ‹_›)
  · split at h
    · cases h
    · exact .inr (.inr ‹_›)

theorem sideCandidateStatus_cases (rebuild : RebuildContainerMetadata) :
    sideCandidateTransactionStatus artifacts rebuild = .pending ∨ sideCandidateTransactionStatus artifacts rebuild = .inconsistent := by
  unfold sideCandidateTransactionStatus
  split
  · exact .inr rfl
  · split
    · exact .inl rfl
    · exact .inr rfl

theorem rollbackStatus_cases (rebuild : RebuildContainerMetadata) :
    rollbackTransactionStatus artifacts rebuild = .pending ∨ rollbackTransactionStatus artifacts rebuild = .inconsistent := by
  unfold rollbackTransactionStatus
  split
  · exact .inr rfl
  · split
    · exact .inl rfl
    · exact .inr rfl

/-- Which of its branches the status comes from. -/
theorem status_cases {status : ContainerRebuildTransactionStatus}
    (h : rebuildTransactionStatus artifacts transactionId = status) :
    rebuildArtifactsHaveSingleOwner artifacts = false ∧ status = .inconsistent ∨
    (artifacts.rollbackOccupant.isSome ∧ artifacts.rollback = none) ∧ status = .inconsistent ∨
    (artifacts.rollback = none → artifacts.rollbackOccupant = none) ∧
      ((∃ canonical rebuild, artifacts.canonical = some canonical ∧ canonical.rebuild = some rebuild ∧
          rebuild.id = transactionId ∧ canonicalRebuildTransactionStatus artifacts transactionId rebuild
            (artifacts.candidate.bind (·.rebuild)) (artifacts.rollback.bind (·.rebuild)) = status) ∨
        (∃ candidate rebuild, artifacts.candidate = some candidate ∧ candidate.rebuild = some rebuild ∧
          rebuild.id = transactionId ∧
          (∀ canonical rebuild, artifacts.canonical = some canonical → canonical.rebuild = some rebuild →
            rebuild.id ≠ transactionId) ∧
          sideCandidateTransactionStatus artifacts rebuild = status) ∨
        (∃ rollback rebuild, artifacts.rollback = some rollback ∧ rollback.rebuild = some rebuild ∧
          rollbackTransactionStatus artifacts rebuild = status) ∨
        status = .notFound) := by
  unfold rebuildTransactionStatus at h
  split at h
  · exact .inl ⟨‹_›, h.symm⟩
  · split at h
    · rename_i hunlabeled
      exact .inr (.inl ⟨⟨hunlabeled.1, Option.isNone_iff_eq_none.1 hunlabeled.2⟩, h.symm⟩)
    · rename_i hlabeled
      refine .inr (.inr ⟨fun hrollback => ?_, ?_⟩)
      · rw [hrollback] at hlabeled
        simpa using hlabeled
      · dsimp only at h
        split at h
        · rename_i rebuild hrebuild
          obtain ⟨hcanonical, hid⟩ := Option.filter_eq_some_iff.1 hrebuild
          obtain ⟨canonical, hcanonical, hrebuild⟩ := Option.bind_eq_some_iff.1 hcanonical
          exact .inl ⟨canonical, rebuild, hcanonical, hrebuild, of_decide_eq_true hid, h⟩
        · rename_i hother
          have hcanonical : ∀ canonical rebuild, artifacts.canonical = some canonical → canonical.rebuild = some rebuild →
              rebuild.id ≠ transactionId := by
            intro canonical rebuild hcanonical hrebuild hid
            rw [hcanonical, Option.bind_some, hrebuild, Option.filter_some, if_pos (decide_eq_true hid)] at hother
            cases hother
          split at h
          · rename_i rebuild hrebuild
            obtain ⟨hcandidate, hid⟩ := Option.filter_eq_some_iff.1 hrebuild
            obtain ⟨candidate, hcandidate, hrebuild⟩ := Option.bind_eq_some_iff.1 hcandidate
            exact .inr (.inl ⟨candidate, rebuild, hcandidate, hrebuild, of_decide_eq_true hid, hcanonical, h⟩)
          · split at h
            · rename_i rebuild hrebuild
              obtain ⟨hrollback, -⟩ := Option.filter_eq_some_iff.1 hrebuild
              obtain ⟨rollback, hrollback, hrebuild⟩ := Option.bind_eq_some_iff.1 hrollback
              exact .inr (.inr (.inl ⟨rollback, rebuild, hrollback, hrebuild, h⟩))
            · exact .inr (.inr (.inr h.symm))

end Status

namespace RebuildRecoveryContext

variable {context : RebuildRecoveryContext} {artifacts : RebuildArtifacts} {transactionId : String}
  {canonical previous candidate rollback predecessor : InspectedContainer}

/-! ## Which branch recovery takes -/

theorem recoverArtifacts_refuses (h : ¬ OwnedBy artifacts context.ownerId) : Refuses (context.recoverArtifacts artifacts) := by
  obtain ⟨slot, h⟩ := requireRebuildArtifactOwnership_error h
  exact refuses_fromExcept ⟨_, h⟩

section Owned

variable (howned : OwnedBy artifacts context.ownerId)

include howned

theorem recoverArtifacts_rollback (hrollback : artifacts.rollback = some rollback) :
    context.recoverArtifacts artifacts = context.recoverRollbackArtifact artifacts rollback := by
  rw [recoverArtifacts, requireRebuildArtifactOwnership_ok howned, hrollback]
  rfl

theorem recoverArtifacts_unlabeled (hrollback : artifacts.rollback = none) (hoccupant : artifacts.rollbackOccupant.isSome) :
    Refuses (context.recoverArtifacts artifacts) := by
  rw [recoverArtifacts, requireRebuildArtifactOwnership_ok howned, hrollback]
  exact refuses_throwIf hoccupant

theorem recoverArtifacts_both (hoccupant : artifacts.rollbackOccupant = none) (hcanonical : artifacts.canonical = some canonical)
    (hprevious : artifacts.previous = some previous) :
    context.recoverArtifacts artifacts = context.recoverCanonicalWithPrevious artifacts canonical previous := by
  rw [recoverArtifacts, requireRebuildArtifactOwnership_ok howned, RebuildArtifacts.rollback, hoccupant, hcanonical, hprevious]
  rfl

theorem recoverArtifacts_canonical (hoccupant : artifacts.rollbackOccupant = none)
    (hcanonical : artifacts.canonical = some canonical) (hprevious : artifacts.previous = none) :
    context.recoverArtifacts artifacts = context.recoverCanonicalArtifact artifacts canonical := by
  rw [recoverArtifacts, requireRebuildArtifactOwnership_ok howned, RebuildArtifacts.rollback, hoccupant, hcanonical, hprevious]
  rfl

theorem recoverArtifacts_previous (hoccupant : artifacts.rollbackOccupant = none)
    (hcanonical : artifacts.canonical = none) (hprevious : artifacts.previous = some previous) :
    context.recoverArtifacts artifacts = context.recoverPreviousArtifact artifacts previous := by
  rw [recoverArtifacts, requireRebuildArtifactOwnership_ok howned, RebuildArtifacts.rollback, hoccupant, hcanonical, hprevious]
  rfl

end Owned

/-- What of the containers recovery refuses although the transaction is pending. -/
def RollbackBeside (artifacts : RebuildArtifacts) : Prop :=
  artifacts.canonical.isSome ∧ artifacts.previous.isSome ∧ artifacts.rollback.isSome

theorem staged_ok (howned : OwnedBy artifacts context.ownerId) {slot slot' : Slot} {staged : InspectedContainer}
    (hstaged : artifacts slot = some staged) (hpredecessor : artifacts slot' = some predecessor)
    {rebuild : RebuildContainerMetadata} (hrebuild : staged.rebuild = some rebuild)
    (hnames : rebuild.predecessorId = requireDockerContainerId predecessor.runtimeId) :
    requireStagedReplacement staged predecessor = .ok rebuild :=
  requireStagedReplacement_ok ((howned _ _ hstaged).trans (howned _ _ hpredecessor).symm) hrebuild hnames

theorem predecessor_slot (h : (artifacts.previous <|> artifacts.canonical) = some predecessor) :
    ∃ slot, artifacts slot = some predecessor := by
  cases hprevious : artifacts.previous with
  | none =>
    rw [hprevious] at h
    exact ⟨.canonical, h⟩
  | some previous =>
    rw [hprevious] at h
    exact ⟨.previous, hprevious.trans h⟩

theorem rollback_slot (h : artifacts.rollback = some rollback) : artifacts .rollback = some rollback :=
  (Option.filter_eq_some_iff.1 h).1

theorem accepts_of_pending (howned : OwnedBy artifacts context.ownerId) (hbeside : ¬ RollbackBeside artifacts)
    (h : rebuildTransactionStatus artifacts transactionId = .pending) : Accepts (context.recoverArtifacts artifacts) := by
  rcases status_cases h with ⟨-, h⟩ | ⟨-, h⟩ | ⟨hoccupant, hbranch⟩
  · cases h
  · cases h
  rcases hbranch with ⟨canonical, rebuild, hcanonical, hrebuild, hid, h⟩ | ⟨candidate, rebuild, hcandidate, hrebuild, -, -, h⟩ |
    ⟨rollback, rebuild, hrollback, hrebuild, h⟩ | h
  · -- the replacement stands where its predecessor stood
    obtain ⟨previous, hprevious, hnames, hcandidate⟩ := canonicalStatus_pending h
    have hnone : artifacts.rollback = none := by
      by_contra hsome
      exact hbeside ⟨by rw [hcanonical]; rfl, by rw [hprevious]; rfl, Option.isSome_iff_ne_none.2 hsome⟩
    rw [recoverArtifacts_both howned (hoccupant hnone) hcanonical hprevious]
    refine recoverCanonicalWithPrevious_accepts (staged_ok howned hcanonical hprevious hrebuild hnames) ?_
    unfold requireSameTransaction
    split
    · rfl
    · rename_i candidate hfound
      obtain ⟨candidateRebuild, hsome, hsame, hnames⟩ := hcandidate (by rw [hfound]; rfl)
      rw [hfound, Option.bind_some] at hsome
      rw [staged_ok howned hfound hprevious hsome hnames]
      exact if_neg (not_not.2 (hsame.trans hid.symm))
  · obtain ⟨hrollback, hsingle, hnames⟩ := sideCandidateStatus_pending h
    obtain ⟨predecessor, hpredecessor, hnames⟩ := namesPredecessor_iff.1 hnames
    obtain ⟨slot, hslot⟩ := predecessor_slot hpredecessor
    have hstaged : ∀ found ∈ artifacts.candidate, ∃ rebuild, requireStagedReplacement found predecessor = .ok rebuild := by
      intro found hfound
      obtain rfl := Option.some.inj (hcandidate.symm.trans hfound)
      exact ⟨rebuild, staged_ok howned hcandidate hslot hrebuild hnames⟩
    cases hprevious : artifacts.previous with
    | some previous =>
      obtain rfl : previous = predecessor := by simpa [hprevious] using hpredecessor
      have hcanonical : artifacts.canonical = none := by simpa [hprevious] using hsingle
      rw [recoverArtifacts_previous howned (hoccupant hrollback) hcanonical hprevious]
      exact recoverPreviousArtifact_accepts hstaged
    | none =>
      have hcanonical : artifacts.canonical = some predecessor := by simpa [hprevious] using hpredecessor
      rw [recoverArtifacts_canonical howned (hoccupant hrollback) hcanonical hprevious]
      exact recoverCanonicalArtifact_accepts hstaged
  · obtain ⟨hcandidate, hsingle, hnames⟩ := rollbackStatus_pending h
    obtain ⟨predecessor, hpredecessor, hnames⟩ := namesPredecessor_iff.1 hnames
    obtain ⟨slot, hslot⟩ := predecessor_slot hpredecessor
    rw [recoverArtifacts_rollback howned hrollback]
    exact recoverRollbackArtifact_accepts hcandidate hsingle hpredecessor
      (staged_ok howned (rollback_slot hrollback) hslot hrebuild hnames)
  · cases h

/-- A replacement that stands beside nothing but the container it names, or a candidate beside nothing. -/
def StagedAlone (artifacts : RebuildArtifacts) : Prop :=
  artifacts.previous = none ∧
    (artifacts.canonical = none ∧ artifacts.rollback = none ∨
      ∃ canonical staged rebuild, artifacts.canonical = some canonical ∧
        (artifacts.candidate = some staged ∧ artifacts.rollback = none ∨
          artifacts.candidate = none ∧ artifacts.rollback = some staged) ∧
        staged.rebuild = some rebuild ∧ rebuild.predecessorId = requireDockerContainerId canonical.runtimeId)

theorem recoverRollbackArtifact_refuses
    (h : artifacts.candidate.isSome ∨ (artifacts.canonical.isSome ∧ artifacts.previous.isSome) ∨
      ∀ predecessor, (artifacts.previous <|> artifacts.canonical) = some predecessor →
        ∃ conflict, requireStagedReplacement rollback predecessor = .error (.conflict conflict)) :
    Refuses (context.recoverRollbackArtifact artifacts rollback) := by
  by_cases hambiguous : artifacts.candidate.isSome ∨ artifacts.canonical.isSome ∧ artifacts.previous.isSome
  · exact refuses_throwIf hambiguous
  · unfold recoverRollbackArtifact
    rw [throwIf, if_neg hambiguous]
    cases hpredecessor : artifacts.previous <|> artifacts.canonical with
    | none => exact ⟨_, rfl⟩
    | some predecessor =>
      rcases h with h | h | h
      · exact absurd (.inl h) hambiguous
      · exact absurd (.inr h) hambiguous
      · exact refuses_fromExcept (h predecessor hpredecessor)

theorem recoverCanonicalArtifact_refuses (hcandidate : artifacts.candidate = some candidate)
    (h : ∃ conflict, requireStagedReplacement candidate canonical = .error (.conflict conflict)) :
    Refuses (context.recoverCanonicalArtifact artifacts canonical) := by
  unfold recoverCanonicalArtifact
  rw [hcandidate]
  exact refuses_fromExcept h

theorem recoverPreviousArtifact_refuses (hcandidate : artifacts.candidate = some candidate)
    (h : ∃ conflict, requireStagedReplacement candidate previous = .error (.conflict conflict)) :
    Refuses (context.recoverPreviousArtifact artifacts previous) := by
  unfold recoverPreviousArtifact
  rw [hcandidate]
  exact refuses_fromExcept h

/-- Two containers and a candidate are left alone unless all three are of one rebuild. -/
theorem recoverCanonicalWithPrevious_refuses
    (h : ∀ rebuild, canonical.rebuild = some rebuild →
      rebuild.predecessorId = requireDockerContainerId previous.runtimeId →
        ∃ candidate, artifacts.candidate = some candidate ∧ ∀ staged, candidate.rebuild = some staged →
          staged.predecessorId = requireDockerContainerId previous.runtimeId → staged.id ≠ rebuild.id) :
    Refuses (context.recoverCanonicalWithPrevious artifacts canonical previous) := by
  unfold recoverCanonicalWithPrevious
  rcases requireStagedReplacement_cases canonical previous with herror | ⟨rebuild, hrebuild, hnames, hok⟩
  · exact refuses_fromExcept herror
  · obtain ⟨candidate, hcandidate, hstaged⟩ := h rebuild hrebuild hnames
    rw [hok]
    change Refuses (fromExcept (requireSameTransaction artifacts previous rebuild) >>= _)
    apply refuses_fromExcept
    unfold requireSameTransaction
    simp only [hcandidate]
    rcases requireStagedReplacement_cases candidate previous with ⟨conflict, herror⟩ | ⟨staged, hsome, hsame, hok⟩
    · exact ⟨conflict, by rw [herror]; rfl⟩
    · exact ⟨.transactionMetadata, by rw [hok]; exact if_pos (hstaged staged hsome hsame)⟩

theorem refuses_of_inconsistent (halone : ¬ StagedAlone artifacts)
    (h : rebuildTransactionStatus artifacts transactionId = .inconsistent) :
    Refuses (context.recoverArtifacts artifacts) := by
  by_cases howned : OwnedBy artifacts context.ownerId
  swap
  · exact recoverArtifacts_refuses howned
  rcases status_cases h with ⟨hsingle, -⟩ | ⟨⟨hoccupant, hrollback⟩, -⟩ | ⟨hoccupant, hbranch⟩
  · rw [singleOwner_of_ownedBy howned] at hsingle
    cases hsingle
  · exact recoverArtifacts_unlabeled howned hrollback hoccupant
  rcases hbranch with ⟨canonical, rebuild, hcanonical, hrebuild, hid, h⟩ |
    ⟨candidate, rebuild, hcandidate, hrebuild, hid, hother, h⟩ | ⟨rollback, rebuild, hrollback, hrebuild, h⟩ | h
  · cases hrollback : artifacts.rollback with
    | some rollback =>
      rw [recoverArtifacts_rollback howned hrollback]
      apply recoverRollbackArtifact_refuses
      by_cases hcandidate : artifacts.candidate.isSome
      · exact .inl hcandidate
      by_cases hboth : artifacts.canonical.isSome ∧ artifacts.previous.isSome
      · exact .inr (.inl hboth)
      refine .inr (.inr fun predecessor hpredecessor => (requireStagedReplacement_cases rollback predecessor).resolve_right ?_)
      rintro ⟨staged, hsome, hnames, -⟩
      have hprevious : artifacts.previous = none := by simpa [hcanonical] using hboth
      obtain rfl : canonical = predecessor := by simpa [hprevious, hcanonical] using hpredecessor
      exact halone ⟨hprevious, .inr ⟨canonical, rollback, staged, hcanonical,
        .inr ⟨Option.not_isSome_iff_eq_none.1 hcandidate, hrollback⟩, hsome, hnames⟩⟩
    | none =>
      rcases canonicalStatus_inconsistent h with hsome | ⟨hprevious, hsome⟩ | ⟨previous, hprevious, hcandidate⟩
      · rw [hrollback] at hsome
        cases hsome
      · obtain ⟨found, hfound⟩ := Option.isSome_iff_exists.1 hsome
        obtain ⟨candidate, hcandidate, -⟩ := Option.bind_eq_some_iff.1 hfound
        rw [recoverArtifacts_canonical howned (hoccupant hrollback) hcanonical hprevious]
        refine recoverCanonicalArtifact_refuses hcandidate ((requireStagedReplacement_cases _ _).resolve_right ?_)
        rintro ⟨staged, hsome, hnames, -⟩
        exact halone ⟨hprevious, .inr ⟨canonical, candidate, staged, hcanonical, .inl ⟨hcandidate, hrollback⟩, hsome, hnames⟩⟩
      · rw [recoverArtifacts_both howned (hoccupant hrollback) hcanonical hprevious]
        refine recoverCanonicalWithPrevious_refuses fun found hfound hnames => ?_
        obtain rfl := Option.some.inj (hrebuild.symm.trans hfound)
        obtain ⟨hsome, hother⟩ := hcandidate hnames
        obtain ⟨candidate, hcandidate⟩ := Option.isSome_iff_exists.1 hsome
        refine ⟨candidate, hcandidate, fun staged hstaged hsame => ?_⟩
        rw [hid]
        exact hother staged (by rw [hcandidate]; exact hstaged) hsame
  · cases hrollback : artifacts.rollback with
    | some rollback =>
      rw [recoverArtifacts_rollback howned hrollback]
      exact recoverRollbackArtifact_refuses (.inl (by rw [hcandidate]; rfl))
    | none =>
      have hstaged : ∀ predecessor, ¬ (artifacts.canonical.isSome ∧ artifacts.previous.isSome) →
          (artifacts.previous <|> artifacts.canonical) = some predecessor →
          ∃ conflict, requireStagedReplacement candidate predecessor = .error (.conflict conflict) := by
        intro predecessor hsingle hpredecessor
        refine (requireStagedReplacement_cases candidate predecessor).resolve_right ?_
        rintro ⟨staged, hsome, hnames, -⟩
        obtain rfl := Option.some.inj (hrebuild.symm.trans hsome)
        exact (sideCandidateStatus_inconsistent h).elim (by simp [hrollback]) fun h =>
          h.elim hsingle fun h => h (namesPredecessor_iff.2 ⟨predecessor, hpredecessor, hnames⟩)
      cases hcanonical : artifacts.canonical with
      | none =>
        cases hprevious : artifacts.previous with
        | none => exact absurd ⟨hprevious, .inl ⟨hcanonical, hrollback⟩⟩ halone
        | some previous =>
          rw [recoverArtifacts_previous howned (hoccupant hrollback) hcanonical hprevious]
          exact recoverPreviousArtifact_refuses hcandidate (hstaged previous (by simp [hcanonical]) (by simp [hprevious]))
      | some canonical =>
        cases hprevious : artifacts.previous with
        | none =>
          rw [recoverArtifacts_canonical howned (hoccupant hrollback) hcanonical hprevious]
          exact recoverCanonicalArtifact_refuses hcandidate
            (hstaged canonical (by simp [hprevious]) (by simp [hprevious, hcanonical]))
        | some previous =>
          rw [recoverArtifacts_both howned (hoccupant hrollback) hcanonical hprevious]
          refine recoverCanonicalWithPrevious_refuses fun found hfound _ =>
            ⟨candidate, hcandidate, fun staged hsome _ hsame => ?_⟩
          -- the canonical container is of another rebuild
          obtain rfl := Option.some.inj (hrebuild.symm.trans hsome)
          exact hother canonical found hcanonical hfound (hsame.symm.trans hid)
  · rw [recoverArtifacts_rollback howned hrollback]
    apply recoverRollbackArtifact_refuses
    rcases rollbackStatus_inconsistent h with h | h | h
    · exact .inl h
    · exact .inr (.inl h)
    · refine .inr (.inr fun predecessor hpredecessor => (requireStagedReplacement_cases rollback predecessor).resolve_right ?_)
      rintro ⟨staged, hsome, hnames, -⟩
      obtain rfl := Option.some.inj (hrebuild.symm.trans hsome)
      exact h (namesPredecessor_iff.2 ⟨predecessor, hpredecessor, hnames⟩)
  · cases h

theorem committed_canonical (h : rebuildTransactionStatus artifacts transactionId = .committed) :
    ∃ canonical rebuild, artifacts.canonical = some canonical ∧ canonical.rebuild = some rebuild ∧
      rebuild.id = transactionId ∧ artifacts.previous = none := by
  rcases status_cases h with ⟨-, h⟩ | ⟨-, h⟩ | ⟨-, hbranch⟩
  · cases h
  · cases h
  rcases hbranch with ⟨canonical, rebuild, hcanonical, hrebuild, hid, h⟩ | ⟨-, rebuild, -, -, -, -, h⟩ |
    ⟨-, rebuild, -, -, h⟩ | h
  · exact ⟨canonical, rebuild, hcanonical, hrebuild, hid, canonicalStatus_committed h⟩
  · rcases @sideCandidateStatus_cases artifacts rebuild with h' | h'
    · cases h'.symm.trans h
    · cases h'.symm.trans h
  · rcases @rollbackStatus_cases artifacts rebuild with h' | h'
    · cases h'.symm.trans h
    · cases h'.symm.trans h
  · cases h

/-- Recovery starts from what the inspection finds. -/
theorem ends_recoverRebuildArtifacts {Q : Except RecoveryFailure (Option ContainerCatalogSnapshot) → RebuildArtifacts → Prop}
    (h : (context.recoverArtifacts artifacts).ends RebuildArtifacts.perform (fun _ _ _ => True) Q artifacts)
    (hfail : ∀ failure, Q (.error (.command failure)) artifacts) :
    context.recoverRebuildArtifacts.ends RebuildArtifacts.perform (fun _ _ _ => True) Q artifacts := by
  refine ends_then (R := fun r w => w = artifacts ∧ (r = .ok artifacts ∨ ∃ failure, r = .error (.command failure)))
    (ends_await ?_) ?_ ?_
  · rintro x ⟨r, artifacts'⟩ _ hr
    cases x with
    | go =>
      cases hr
      exact ⟨rfl, .inl rfl⟩
    | fails failure takesEffect =>
      cases takesEffect with
      | false =>
        cases hr
        exact ⟨rfl, .inr ⟨failure, rfl⟩⟩
      | true =>
        cases hr
        exact ⟨rfl, .inr ⟨failure, rfl⟩⟩
    | aborted reason => cases hr
  · rintro e w ⟨rfl, h | ⟨failure, h⟩⟩
    · cases h
    · cases h
      exact hfail failure
  · rintro found w ⟨rfl, hfound | ⟨failure, hfound⟩⟩
    · cases hfound
      exact h
    · cases hfound

end RebuildRecoveryContext

def replacedId : DockerContainerId :=
  ⟨"aaaaaaaaaaaaaaaaaaaaaaaaaaaaaaaaaaaaaaaaaaaaaaaaaaaaaaaaaaaaaaaa", by decide +kernel⟩

def replacementId : DockerContainerId :=
  ⟨"bbbbbbbbbbbbbbbbbbbbbbbbbbbbbbbbbbbbbbbbbbbbbbbbbbbbbbbbbbbbbbbb", by decide +kernel⟩

def replaced : InspectedContainer where
  ownerId := "owner"
  runtimeId := replacedId
  state := .stopped
  catalogSnapshot := none
  neverStarted := false
  rebuild := none
  containerHostname := none

/-- The replacement of a container in a rebuild. -/
def replacement (predecessorId : DockerContainerId) (transactionId : String) : InspectedContainer where
  ownerId := "owner"
  runtimeId := replacementId
  state := .running
  catalogSnapshot := none
  neverStarted := false
  rebuild := some
    { id := transactionId
      predecessorId := requireDockerContainerId predecessorId
      startRequested := true
      sourceCatalogSnapshot := none }
  containerHostname := none

/-- The replacement has taken the place of its predecessor, which is still there. -/
def swapped : RebuildArtifacts
  | .canonical => some (replacement replacedId "rebuild")
  | .previous => some replaced
  | _ => none

/-- The same, and what an earlier rebuild has left. -/
def withRollback : RebuildArtifacts
  | .canonical => some (replacement replacedId "rebuild")
  | .previous => some replaced
  | .rollback => some (replacement replacedId "earlier")
  | .candidate => none

/-- A candidate is staged for a container of the same rebuild. -/
def stagedTwice : RebuildArtifacts
  | .canonical => some (replacement replacedId "rebuild")
  | .candidate => some (replacement replacementId "rebuild")
  | _ => none

def recovering : RebuildRecoveryContext where
  ownerId := "owner"
  restoreRunning := false
  preserveDeferredCandidate := false

theorem swapped_ownedBy : OwnedBy swapped "owner" := by
  intro slot container h
  cases slot with
  | canonical =>
    cases h
    rfl
  | previous =>
    cases h
    rfl
  | _ => cases h

theorem withRollback_ownedBy : OwnedBy withRollback "owner" := by
  intro slot container h
  cases slot with
  | candidate => cases h
  | _ =>
    cases h
    rfl

end OpenApp.Docker
