import NodeProvisioning.Proofs.Rounds.Frame
import NodeProvisioning.Proofs.Store.Ledger

/-!
# Provisioning again

A run that stops on its way has created the first claims of its workload, how many there is no
telling.  The names of claims depend on the workload alone, and creating a claim that is there
changes nothing; so a later run that gets through its submission stores what one run would have
stored, wherever the earlier one stopped and for whatever reason.

## Main definitions

* `Store.Partway` — a store in which the first of some claims were created

## Main statements

* `Submission.submitAll_store` — what a submission does to a store
* `Provisioning.provision_partway` — what provisioning does, however it ends
* `Provisioning.provision_again` — provisioning once more stores what is missing
-/

namespace NodeProvisioning

open Run (Triple)

/-- **`s` is `ref` after the creation of the first of the claims**, however many these are. -/
def Store.Partway (ref : Store) (claims : List NodeClaim) (s : Store) : Prop :=
  ∃ done, done <+: claims ∧ s.Agrees (ref.createAll done)

/-- Looks keep agreement with a store. -/
theorem Store.backend_looksKeep (ref : Store) : Store.backend.LooksKeep fun s => s.Agrees ref := by
  intro t key s agrees
  rw [Store.backend_get]
  refine ⟨(s.get_agrees key).trans agrees, ?_⟩
  cases (s.get key).2 <;> trivial

/-! ## Submissions -/

namespace Submission

section Submissions

variable {l : Limits}

/-- Looking at a submitted claim keeps what looks keep. -/
theorem glance_keeps {σ : Type} {I : σ → Prop} {b : Backend σ} (keeps : b.LooksKeep I)
    {claim : NodeClaim} : Triple I (glance b l claim) (fun _ => I) I := by
  refine (Triple.perform l.pause_quiet fun t s holds => ?_).bind fun _ =>
    Triple.quiet (settle_quiet _) fun _ => id
  obtain ⟨begun, goesOn⟩ := keeps t claim.key s holds
  exact goesOn.leaves begun

variable {ref : Store} {settleDelay : Duration} {signals : Signals} {claim : NodeClaim}

/-- Creating a claim through a call creates it, even if the answer ends the run. -/
theorem place_store :
    Triple (fun s => s.Agrees ref) (place Store.backend l claim)
      (fun _ s => s.Agrees (ref.create claim).1) fun s => s.Agrees (ref.create claim).1 :=
  (Triple.perform l.pause_quiet fun _ _ agrees => agrees.create claim).bind fun _ =>
    Triple.quiet (settle_quiet _) fun _ => id

/-- **Submitting one claim** creates it, however the submission ends. -/
theorem createAndCheck_store :
    Triple (fun s => s.Agrees ref) (createAndCheck Store.backend settleDelay l claim)
      (fun _ s => s.Agrees (ref.create claim).1) fun s => s.Agrees (ref.create claim).1 :=
  place_store.bind fun _ => (Triple.quiet (linger_quiet _ _) fun _ => id).bind fun _ =>
    glance_keeps (Store.backend_looksKeep _)

/-- Up to a cancellation that comes before, submitting one claim creates it. -/
theorem submitUntil_store {deadline : Option (Instant × ProvisionError)} :
    Triple (fun s => s.Agrees ref) (submitUntil Store.backend settleDelay signals deadline claim)
      (fun _ s => s.Agrees (ref.create claim).1) (ref.Partway [claim]) := by
  refine (Triple.quiet (Limits.check_quiet _) fun s agrees => ?_).bind fun _ =>
    createAndCheck_store.weaken_halted fun s agrees => ?_
  · exact ⟨[], List.nil_prefix, agrees⟩
  · exact ⟨[claim], List.prefix_rfl, agrees⟩

/-- **Submitting several claims** creates them all, or the first of them if it stops. -/
theorem submitAll_store {workspace : String} {deadline : Instant} (claims : List NodeClaim) :
    Triple (fun s => s.Agrees ref)
      (submitAll Store.backend settleDelay signals workspace deadline claims)
      (fun _ s => s.Agrees (ref.createAll claims)) (ref.Partway claims) := by
  induction claims generalizing ref with
  | nil => exact .pure fun _ => id
  | cons claim rest ih =>
    refine (submitUntil_store.weaken_halted ?_).bind fun _ => ih.weaken_halted ?_
    · rintro s ⟨done, sub, agrees⟩
      exact ⟨done, sub.trans (List.prefix_append [claim] rest), agrees⟩
    · rintro s ⟨done, sub, agrees⟩
      exact ⟨claim :: done, (List.prefix_cons_inj claim).2 sub, agrees⟩

end Submissions

end Submission

/-! ## Whole runs -/

namespace Provisioning

section Runs

variable {ref : Store} {config : RunConfig} {signals : Signals} {w : Workload}

/-- **A submission phase** creates all claims, or the first of them if it stops. -/
theorem submission_store :
    Triple (fun s => s.Agrees ref) (submission Store.backend config signals w)
      (fun _ s => s.Agrees (ref.createAll (w.claims config.manifest)))
      (ref.Partway (w.claims config.manifest)) := by
  refine (Triple.quiet (Rounds.deadlineIn_quiet _) fun s agrees => ?_).bind fun deadline =>
    (Submission.submitAll_store _).bind fun _ => .pure fun _ => id
  exact ⟨[], List.nil_prefix, agrees⟩

/-- **Provisioning** creates the first claims of the workload, however it ends. -/
theorem provision_partway :
    Triple (fun s => s.Agrees ref) (provision Store.backend config signals w)
      (fun _ => ref.Partway (w.claims config.manifest))
      (ref.Partway (w.claims config.manifest)) := by
  refine submission_store.bind fun deadline =>
    (Rounds.awaitUntil_keeps (Store.backend_looksKeep _)).weaken (fun _ => id)
      (fun _ s agrees => ?_) fun s agrees => ?_ <;>
  exact ⟨_, List.prefix_rfl, agrees⟩

/-- Once it got through its submission, provisioning creates all claims, however it ends. -/
theorem provision_agrees {x : World Store} {deadline : Instant} (before : x.state.Agrees ref)
    (through : (submission Store.backend config signals w x).1 = .ok deadline) :
    (provision Store.backend config signals w x).2.state.Agrees
      (ref.createAll (w.claims config.manifest)) := by
  rcases ran : submission Store.backend config signals w x with ⟨r, y⟩
  rw [ran] at through
  cases through
  have created := (submission_store x before).1 deadline y ran
  unfold provision
  rw [Run.bind_apply, ran]
  exact (Rounds.awaitUntil_keeps (Store.backend_looksKeep _)).holds created

end Runs

end Provisioning

/-! ## Provisioning once more -/

namespace Store

/-- The store with creations allowed. -/
def allowCreations (s : Store) : Store := { s with createFailure := none }

/-- Allowing creations after some were tried gives a store in which the first of them were
created. -/
theorem Partway.allowCreations {ref s : Store} {claims : List NodeClaim}
    (h : ref.Partway claims s) : ref.allowCreations.Partway claims s.allowCreations := by
  obtain ⟨done, sub, agrees⟩ := h
  cases refused : ref.createFailure with
  | none =>
    have same : ref.allowCreations = ref := by
      rw [Store.allowCreations, ← refused]
    refine ⟨done, sub, ?_⟩
    rw [same]
    exact ⟨agrees.entry_eq, agrees.created_eq, by simp [refused, Store.allowCreations]⟩
  | some failure =>
    -- No creation had an effect as long as they were refused.
    rw [createAll_of_refused done (by simp [refused])] at agrees
    exact ⟨[], List.nil_prefix, agrees.entry_eq, agrees.created_eq, rfl⟩

/-- Creating all claims after the first of them stores what creating them once does. -/
theorem Partway.agrees_createAll {ref s s' : Store} {claims : List NodeClaim}
    (allowed : ref.createFailure = none) (h : ref.Partway claims s)
    (later : s'.Agrees (s.createAll claims)) : s'.Agrees (ref.createAll claims) := by
  obtain ⟨done, sub, agrees⟩ := h
  have again := agrees.createAll claims
  rw [createAll_createAll allowed sub] at again
  exact later.trans again

end Store

namespace Provisioning

/-- **Provisioning again converges.**  A run of provisioning ends in any way, creations are
allowed, and a run with the same options gets through its submission.  Then what is stored,
statuses apart, is what the claims of the workload make of the claims that were there at first;
the keys that were not taken then, and no others, have been recorded as created, in order and each
once; what was there at first is as it was; and all this is what a single run stores that gets
through its submission. -/
theorem provision_again (w : Workload) (options : ManifestOptions) (config config' : RunConfig)
    (same : config.manifest = options) (same' : config'.manifest = options)
    (signals signals' : Signals) (now now' : Instant) {s₀ s₁ s₂ : Store} {deadline : Instant}
    (first : (provision Store.backend config signals w (.start now s₀)).2.state = s₁)
    (through : (submission Store.backend config' signals' w (.start now' s₁.allowCreations)).1 =
      .ok deadline)
    (second : (provision Store.backend config' signals' w
      (.start now' s₁.allowCreations)).2.state = s₂) :
    let stored := Store.adoptAll s₀.claims (w.claims options)
    s₂.claims.keys = stored.keys ∧
    (∀ key, s₂.entry key = (stored.find? key).map fun claim => (claim.metadata, claim.spec)) ∧
    s₂.created = s₀.created ++ (((w.claims options).map NodeClaim.key).filter
      fun key => !s₀.claims.contains key).eraseDups ∧
    (∀ key claim, s₀.claims.find? key = some claim →
      s₂.entry key = some (claim.metadata, claim.spec)) ∧
    ∀ config'' signals'' now'' deadline'' world, config''.manifest = options →
      submission Store.backend config'' signals'' w (.start now'' s₀.allowCreations) =
        (.ok deadline'', world) → s₂.Agrees world.state := by
  intro stored
  have partway : s₀.Partway (w.claims options) s₁ := by
    rw [← first, ← same]
    exact provision_partway.holds (Store.Agrees.refl s₀)
  have allowed : s₀.allowCreations.createFailure = none := rfl
  -- Everything that is claimed is claimed of this store.
  have final : s₂.Agrees (s₀.allowCreations.createAll (w.claims options)) := by
    refine partway.allowCreations.agrees_createAll allowed ?_
    rw [← second, ← same']
    exact provision_agrees (.refl _) through
  have claims_eq : (s₀.allowCreations.createAll (w.claims options)).claims = stored :=
    Store.claims_createAll _ allowed
  refine ⟨?_, fun key => ?_, ?_, fun key claim found => ?_, fun config'' _ _ _ _ same'' ran => ?_⟩
  · refine SortedMap.keys_eq_of_contains_eq fun key => ?_
    rw [final.contains_eq, claims_eq]
  · rw [final.entry_eq, Store.entry, claims_eq]
  · rw [final.created_eq, Store.created_createAll _ allowed]
    rfl
  · have kept : s₀.allowCreations.claims.find? key = some claim := found
    rw [final.entry_eq, Store.entry, Store.find?_createAll _ kept]
    rfl
  · have single := (submission_store _ (Store.Agrees.refl _)).1 _ _ ran
    rw [same''] at single
    exact final.trans single.symm

/-- A workload of two nodes. -/
def twoNodes : Workload := ⟨"falcon", "kaito", none, 2, "Standard_NC12s_v3", ∅⟩

/-- A store that has the second claim of the workload and refuses creations. -/
def secondOnly : Store :=
  { ({} : Store).put (twoNodes.claim {} "1") with createFailure := some (500, "out of capacity") }

/-- The store after a run that was refused its first creation. -/
def afterRefusal : Store := (provision Store.backend {} {} twoNodes (.start 0 secondOnly)).2.state

/-- The refused run created nothing; the next one creates the claim that is missing and no
other. -/
theorem provision_again_after_refusal :
    afterRefusal.created = [] ∧
      (provision Store.backend {} {} twoNodes
        (.start 0 afterRefusal.allowCreations)).2.state.created = [twoNodes.claimKey "0"] := by
  have through : (submission Store.backend {} {} twoNodes
      (.start 0 afterRefusal.allowCreations)).1 = .ok 900000000000 := by decide +kernel
  obtain ⟨-, -, created, -⟩ := provision_again twoNodes {} {} {} rfl rfl {} {} 0 0 rfl through rfl
  exact ⟨rfl, created.trans (by decide +kernel)⟩

end Provisioning

end NodeProvisioning
