import NodeProvisioning.Proofs.Classification
import NodeProvisioning.Proofs.Provisioning.Cancellation
import NodeProvisioning.Proofs.Provisioning.Deadline

/-!
# What an error of provisioning is about

Whoever provisions a workload decides from the error whether to try again or to give up, so the
error has to name what it is about and to grade it rightly, in whichever phase the run failed.  The
two phases judge a look at a claim apart, but alike: the answer that ends a submission would have
ended a wait, with the same error (`Submission.verdict_eq_error_iff`).  So one account of a fatal
look serves both, and what is left are the refused creation, the cancellation and the timeout.

## Main definitions

* `ProvisionError.Blames` — the last event of a history is an answer about a claim of that name
* `ProvisionError.Attributed` — what an error has to be after a history

## Main statements

* `ProvisionError.Attributed.of_terminal` — the error of a fatal look
* `Provisioning.provision_attributed` — every error of provisioning
-/

namespace NodeProvisioning

namespace ProvisionError

/-- **The claim of that name is to blame**: the last event is an answer about it. -/
def Blames (claims : List NodeClaim) (history : List Event) (name : String)
    (answer : NodeClaim → Answer) : Prop :=
  ∃ claim ∈ claims, claim.anyName = name ∧ ∃ t, history.getLast? = some (.took t (answer claim))

/-- **What an error has to be** that ends the provisioning of `claims` for a workspace, after a
history.  Errors of other kinds do not end it. -/
def Attributed (workspace : String) (claims : List NodeClaim) (history : List Event) :
    ProvisionError → Prop
  | .timeout named _ => named = workspace
  | .cancelled named => named = workspace
  | .submission name source =>
    source.isAlreadyExists = false ∧
      Blames claims history name fun claim => .create claim (.error source)
  | .provisioningFailed name reason =>
    reason ≠ "" ∧ ∃ seen, seen.state = .failed reason ∧
      Blames claims history name fun claim => .get claim.key (.ok seen)
  | .fetch name source =>
    source.isNotFound = false ∧ source.isTransient = false ∧
      Blames claims history name fun claim => .get claim.key (.error source)
  | .claimNotFound name =>
    ∃ source, source.isNotFound = true ∧
      Blames claims history name fun claim => .get claim.key (.error source)
  | .incompleteClaims .. => False
  | .list .. => False
  | .fault _ => False

namespace Attributed

variable {workspace : String} {claims : List NodeClaim} {history : List Event} {e : ProvisionError}

/-- **The error of a fatal look** at one of the claims. -/
theorem of_terminal {claim : NodeClaim} {a : Sighting} {t : Instant} (mem : claim ∈ claims)
    (last : history.getLast? = some (.took t (.get claim.key a)))
    (terminal : Observation.of claim.key a = .terminal e) :
    e.Attributed workspace claims history := by
  rcases Observation.of_eq_terminal_iff.1 terminal with
    ⟨seen, reason, rfl, shown, rfl⟩ | ⟨source, rfl, final, rfl⟩
  · exact ⟨ClaimState.reason_ne_empty shown, seen, shown, claim, mem, rfl, t, last⟩
  · cases gone : source.isNotFound with
    | true =>
      rw [ofFetch_eq_claimNotFound_iff.2 ⟨rfl, gone⟩]
      exact ⟨source, gone, claim, mem, rfl, t, last⟩
    | false =>
      rw [ofFetch_eq_fetch_iff.2 ⟨rfl, rfl, gone⟩]
      exact ⟨gone, final, claim, mem, rfl, t, last⟩

/-- A claim that failed and a look that failed for good are definitive. -/
theorem isRetryable_eq_false (h : e.Attributed workspace claims history)
    (definitive : e.isProvisioningFailure = true ∨ ∃ name source, e = .fetch name source) :
    e.isRetryable = false := by
  rcases definitive with failure | ⟨name, source, rfl⟩
  · cases e <;> cases failure
    rfl
  · exact h.2.1

end Attributed

/-- Where time ran out, the run was cancelled or a claim is gone, another run may succeed. -/
theorem isRetryable_eq_true {e : ProvisionError}
    (passing : e.isTimeout = true ∨ e.isCancelled = true ∨ ∃ name, e = .claimNotFound name) :
    e.isRetryable = true := by
  rcases passing with timeout | cancelled | ⟨name, rfl⟩
  · cases e <;> cases timeout
    rfl
  · cases e <;> cases cancelled
    rfl
  · rfl

end ProvisionError

namespace Provisioning

open ProvisionError (Attributed)
open Submission (verdict_eq_error_iff)

variable {σ : Type}

/-- **Every error of provisioning is attributed and graded.**  A timeout and a cancellation name
the workspace, whatever labels it selects.  The other errors name a claim of the workload, and the
last thing that happened was the answer about this claim that they carry: a creation refused for
another reason than that the claim is there, a look that shows the claim failed, with a reason, or
a look that failed for good, which is an error of its own where the claim is gone.  So a failed
claim and a look that failed for good are never to be tried again, and a timeout, a cancellation
and a claim that is gone always may. -/
theorem provision_attributed (b : Backend σ) (config : RunConfig) (signals : Signals)
    (w : Workload) (now : Instant) (state : σ) {e : ProvisionError}
    (failed : (provision b config signals w (.start now state)).1 = .error (.failed e)) :
    let history := (provision b config signals w (.start now state)).2.history
    e.Attributed w.name (w.claims config.manifest) history ∧
    (e.isProvisioningFailure = true ∨ (∃ name source, e = .fetch name source) →
      e.isRetryable = false) ∧
    (e.isTimeout = true ∨ e.isCancelled = true ∨ (∃ name, e = .claimNotFound name) →
      e.isRetryable = true) := by
  intro history
  suffices attributed : e.Attributed w.name (w.claims config.manifest) history from
    ⟨attributed, attributed.isRetryable_eq_false, ProvisionError.isRetryable_eq_true⟩
  cases provision_failed (Prod.ext failed rfl) with
  | @submitting deadline done rest claim before tail p same leads cleared sub stops =>
    have mem : claim ∈ w.claims config.manifest := by
      rw [same]
      simp
    have past : history.getLast? =
        (provision b config signals w (.start now state)).2.trace.head? :=
      List.getLast?_reverse
    generalize World.trace _ = trace at stops past
    cases stops with
    | cut cuts =>
      cases cuts with
      | cancelled => exact workspaceOf_claim config.manifest w claim mem
      | expired isSet =>
        cases isSet
        rfl
    | refused final => exact ⟨final, claim, mem, rfl, _, past⟩
    | fatal fails =>
      exact .of_terminal mem past ((verdict_eq_error_iff claim.key.ns).1 fails)
  | @waiting deadline before after leads cleared ending =>
    have past : history = before ++ after := leads.history_of_start
    cases ending with
    | @fatal outstanding ahead flying events key t a _ tally terminal =>
      have about : key ∈ (w.claims config.manifest).map NodeClaim.key :=
        tally.mem_keys (tally.outstanding_of_mem _ (by simp))
      obtain ⟨claim, mem, rfl⟩ := List.mem_map.1 about
      have last : history.getLast? = some (.took t (.get claim.key a)) := by
        rw [past, ← List.append_assoc, List.getLast?_concat]
      exact .of_terminal mem last terminal
    | cut tally cuts =>
      cases cuts with
      | cancelled => rfl
      | expired pending => rfl

/-- A store in which the first claim of the workload is pending and then fails to launch. -/
def firstFails : Store :=
  ({} : Store).script (twoNodes.claimKey "0") [.pending, .launchFailed "quota exceeded"]

/-- The run fails in the wait, with the reason of the claim, and is not to be tried again. -/
theorem firstFails_definitive :
    (provision Store.backend unsettled {} twoNodes (.start 0 firstFails)).1 =
        .error (.failed (.provisioningFailed (twoNodes.claimName "0") "quota exceeded")) ∧
      "quota exceeded" ≠ "" := by
  have failed : (provision Store.backend unsettled {} twoNodes (.start 0 firstFails)).1 =
      .error (.failed (.provisioningFailed (twoNodes.claimName "0") "quota exceeded")) := by
    decide +kernel
  obtain ⟨⟨reason, -⟩, -, -⟩ :=
    provision_attributed Store.backend unsettled {} twoNodes 0 firstFails failed
  exact ⟨failed, reason⟩

end Provisioning

end NodeProvisioning
