import NodeProvisioning.Proofs.Provisioning.Course
import NodeProvisioning.Proofs.Rounds.Failure
import NodeProvisioning.Proofs.Rounds.Keeping
import NodeProvisioning.Proofs.Submission.Stopping

/-!
# What provisioning keeps, and where it fails

Provisioning is a submission and then a wait, so it keeps what both keep.  Here this is stated for
properties that do not depend on the clock; where they do, the two phases have to be told apart.

If provisioning fails, it fails in one of the two phases: at a claim, after the claims before it
got through, or in the wait, after all of them did.

## Main definitions

* `Backend.Provisions` — the calls for some claims uphold a property of the world
* `Provisioning.Failed` — where provisioning fails, and after which history

## Main statements

* `provision_contract` — what provisioning keeps
* `provision_failed` — where it fails
* `provision_refused` — a refused creation is the last thing that happens
-/

namespace NodeProvisioning

open Run (Contract bind_cases)

variable {σ : Type}

/-- **The calls for some claims uphold `J`**, whenever they begin. -/
structure Backend.Provisions (b : Backend σ) (J : World σ → Prop) (claims : List NodeClaim) :
    Prop where
  create : ∀ claim ∈ claims,
    Call.Upholds J (fun _ => True) (.create claim) (.create claim) fun t => b.create t claim
  look : b.LooksUphold J fun _ => True

namespace Provisioning

open Submission (Cleared Passage Stops verdict_eq_error_iff workspaceOf)

section Runs

variable {b : Backend σ} {config : RunConfig} {signals : Signals} {w : Workload} {x y : World σ}

/-- **Provisioning keeps** what its calls uphold and what lasts while time passes. -/
theorem provision_contract {J : World σ → Prop} (lasts : World.Lasts J none)
    (provisions : b.Provisions J (w.claims config.manifest)) :
    Contract J (provision b config signals w) (fun _ => J) fun _ => J := by
  have always : ∀ deadline, World.Lasts J (some deadline) :=
    fun deadline v t holds later _ => lasts v t holds later nofun
  have clock : Contract J (Rounds.deadlineIn config.timeout) (fun _ => J) fun _ => J := by
    refine Contract.now.bind fun t => ?_
    split
    · exact .pure fun _ h => h.1
    · exact .halt fun _ h => h.1
  have submitted : Contract J (submission b config signals w) (fun _ => J) fun _ => J := by
    refine clock.bind fun deadline => ?_
    refine (Submission.submitAll_contract (always deadline) (fun _ => id) (fun _ holds _ => holds) _
      fun claim mem => ?_).bind fun _ => .pure fun _ => id
    exact ⟨(provisions.create claim mem).restrict, (provisions.look claim.key).restrict⟩
  exact submitted.bind fun deadline =>
    Rounds.awaitUntil_contract (always deadline) fun key => (provisions.look key).restrict

/-! ## Where provisioning fails -/

/-- **Where provisioning `claims` fails**, between the worlds `x` and `y`. -/
inductive Failed (signals : Signals) (w : Workload) (claims : List NodeClaim) (e : ProvisionError)
    (x y : World σ) : Prop
  /-- At one of the claims, after those before it got through. -/
  | submitting {deadline : Instant} {done rest : List NodeClaim} {claim : NodeClaim}
      {before tail : List Event} {p : Passage} (same : claims = done ++ claim :: rest)
      (leads : x.Leads (before ++ tail) y) (cleared : Cleared done before)
      (sub : tail <+: p.events claim)
      (stops : Stops ⟨signals, workspaceOf claim,
        some (deadline, .timeout w.name ((claim :: rest).map NodeClaim.anyName))⟩
        claim (.failed e) y.trace)
  /-- In the wait, after all claims got through. -/
  | waiting {deadline : Instant} {before after : List Event} (leads : x.Leads (before ++ after) y)
      (cleared : Cleared claims before)
      (ending : Rounds.Ending ⟨signals, w.name, deadline⟩ (claims.map NodeClaim.key)
        (.error (.failed e)) after)

/-- **Provisioning that fails** does so in one of its two phases. -/
theorem provision_failed {e : ProvisionError}
    (h : provision b config signals w x = (.error (.failed e), y)) :
    Failed signals w (w.claims config.manifest) e x y := by
  rcases bind_cases h with ⟨deadline, x₁, submitted, rest⟩ | ⟨e, submitted, same⟩
  · obtain ⟨before, led, ⟨_, -, cleared⟩ | ⟨_, same, -⟩⟩ := submission_cases submitted
    · obtain ⟨after, leads, ending⟩ := Rounds.awaitUntil_ending rest
      exact .waiting (led.trans leads) cleared ending
    · cases same
  · cases same
    rcases bind_cases submitted with ⟨deadline, x₁, clock, rest⟩ | ⟨e, clock, same⟩
    · obtain ⟨rfl, -⟩ := deadlineIn_cases clock
      rcases bind_cases rest with ⟨_, x₂, _, last⟩ | ⟨e, stopped, same⟩
      · cases last
      · cases same
        obtain ⟨done, claim, rest, before, tail, p, same, leads, cleared, sub, stops⟩ :=
          Submission.submitAll_stopped _ stopped
        exact .submitting same leads cleared sub stops
    · cases same
      obtain ⟨-, ⟨_, same⟩ | same⟩ := deadlineIn_cases clock <;> cases same

/-- **A refused creation** is one of a claim of the workload, and it is the last thing that
happens. -/
theorem provision_refused {name : String} {e : RequestError}
    (h : provision b config signals w x = (.error (.failed (.submission name e)), y)) :
    ∃ claim ∈ w.claims config.manifest, name = claim.anyName ∧ e.isAlreadyExists = false ∧
      ∃ t trace, y.trace = .took t (.create claim (.error e)) :: trace := by
  cases provision_failed h with
  | @submitting deadline done rest claim before tail p same leads cleared sub stops =>
    refine ⟨claim, by rw [same]; simp, ?_⟩
    generalize y.trace = trace at stops
    cases stops with
    | cut cuts =>
      -- What comes from outside is a cancellation or the timeout.
      cases cuts with
      | expired isSet => cases isSet
    | refused final => exact ⟨rfl, final, _, _, rfl⟩
    | fatal fails => exact absurd ((verdict_eq_error_iff "").1 fails) Observation.of_ne_submission
  | waiting leads cleared ending =>
    cases ending with
    | fatal tally terminal => exact absurd terminal Observation.of_ne_submission
    | cut tally cuts => cases cuts

end Runs

end Provisioning

end NodeProvisioning
