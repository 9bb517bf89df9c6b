import NodeProvisioning.Proofs.Provisioning.Convergence
import NodeProvisioning.Proofs.Provisioning.Course
import NodeProvisioning.Proofs.Run.Answering

/-!
# What listed claims mean for a wait

A wait for the claims that are there begins with a list call, and its answer decides everything
that follows.  A refusal ends the wait; so does a claim that has failed, the first in the order of
the list, however many claims there are; so does a list that is too short.  Otherwise the pending
claims are waited for, and nothing else is looked at.

This file gives the wait as an equation for each of these answers, in the world in which the answer
has just been taken.

## Main statements

* `triage_of_failed`, `triage_of_few`, `triage_of_enough` — what a list means
* `waitForListed_of_refusal`, `waitForListed_of_claims` — the wait, given the answer to its list
  call
* `waitForListed_exact` — the outcome for every answer
-/

namespace NodeProvisioning.Provisioning

open History

variable {σ : Type}

/-! ## Judging a list -/

section Triage

variable {w : Workload} {claims : List NodeClaim}

/-- Where no claim has failed, there is no failure. -/
theorem firstFailure_eq_none (harmless : ∀ c ∈ claims, ∀ reason, c.state ≠ .failed reason) :
    firstFailure claims = none := by
  induction claims with
  | nil => rfl
  | cons claim rest ih =>
    obtain ⟨first, others⟩ := List.forall_mem_cons.1 harmless
    rw [firstFailure]
    split
    · next reason failed => exact absurd failed (first reason)
    · exact ih others

/-- **The first failure** is that of the first claim that has failed. -/
theorem firstFailure_append {before after : List NodeClaim} {claim : NodeClaim} {reason : String}
    (harmless : ∀ c ∈ before, ∀ reason, c.state ≠ .failed reason)
    (failed : claim.state = .failed reason) :
    firstFailure (before ++ claim :: after) = some (.provisioningFailed claim.anyName reason) := by
  induction before with
  | nil => rw [List.nil_append, firstFailure, failed]
  | cons other before ih =>
    obtain ⟨first, others⟩ := List.forall_mem_cons.1 harmless
    rw [List.cons_append, firstFailure]
    split
    · next reason failed => exact absurd failed (first reason)
    · exact ih others

/-- The first claim that has failed decides, whatever else is listed. -/
theorem triage_of_failed {before after : List NodeClaim} {claim : NodeClaim} {reason : String}
    (harmless : ∀ c ∈ before, ∀ reason, c.state ≠ .failed reason)
    (failed : claim.state = .failed reason) :
    triage w (before ++ claim :: after) =
      .error (.provisioningFailed claim.anyName reason) := by
  rw [triage, firstFailure_append harmless failed]

/-- Too few claims are too few, if none has failed. -/
theorem triage_of_few (harmless : ∀ c ∈ claims, ∀ reason, c.state ≠ .failed reason)
    (few : claims.length < w.nodeCount) :
    triage w claims = .error (.incompleteClaims w.name w.nodeCount claims.length) := by
  rw [triage, firstFailure_eq_none harmless]
  exact if_pos few

/-- Of enough claims the pending ones are waited for, if none has failed. -/
theorem triage_of_enough (harmless : ∀ c ∈ claims, ∀ reason, c.state ≠ .failed reason)
    (enough : w.nodeCount ≤ claims.length) :
    triage w claims = .ok ((claims.filter fun c => c.state = .pending).map NodeClaim.key) := by
  rw [triage, firstFailure_eq_none harmless]
  exact if_neg (Nat.not_lt.2 enough)

/-- A claim that is ready has not failed. -/
theorem harmless_of_ready (ready : ∀ c ∈ claims, c.state = .ready) :
    ∀ c ∈ claims, ∀ reason, c.state ≠ .failed reason := by
  intro c mem reason failed
  rw [ready c mem] at failed
  cases failed

/-- Where all claims are ready, none is pending. -/
theorem pending_eq_nil (ready : ∀ c ∈ claims, c.state = .ready) :
    claims.filter (fun c => c.state = .pending) = [] := by
  refine List.filter_eq_nil_iff.2 fun c mem => ?_
  simp [ready c mem]

end Triage

/-! ## The wait -/

section Runs

variable {b : Backend σ} {config : RunConfig} {signals : Signals} {w : Workload} {x : World σ}

/-- A wait with nothing to wait for is over at once, if the clock can hold its deadline. -/
theorem await_nil {workspace : String} (clock : (Instant.after? x.now config.timeout).isSome) :
    Rounds.await b config signals workspace [] x = (.ok (), x) := by
  obtain ⟨deadline, later⟩ := Option.isSome_iff_exists.1 clock
  rw [Rounds.await, Run.bind_of_ok (deadlineIn_of_after? later)]
  rfl

/-- A wait does nothing but look at its keys. -/
theorem await_isLookAt (b : Backend σ) (config : RunConfig) (signals : Signals)
    (workspace : String) (keys : List ClaimKey) (x : World σ) :
    ∃ events, x.Leads events (Rounds.await b config signals workspace keys x).2 ∧
      ∀ event ∈ events, event.IsLookAt keys := by
  rcases ran : Rounds.await b config signals workspace keys x with ⟨r, y⟩
  rcases Run.bind_cases ran with ⟨deadline, x₁, clock, rest⟩ | ⟨e, clock, rfl⟩
  · obtain ⟨rfl, -⟩ := deadlineIn_cases clock
    obtain ⟨events, led, ending⟩ := Rounds.awaitUntil_ending rest
    exact ⟨events, led, ending.isLookAt⟩
  · exact ⟨[], (Rounds.deadlineIn_quiet _).leads clock, List.forall_mem_nil _⟩

variable {t : Instant} {s : σ}

/-- The world in which the answer to the list call was taken. -/
def afterListing (w : Workload) (x : World σ) (t : Instant) (s : σ)
    (answer : Except RequestError (List NodeClaim)) : World σ :=
  ⟨t, s, .took t (.list w.ns w.selector answer) :: .began x.now (.list w.ns w.selector) :: x.trace⟩

/-- Nothing is created while the claims are listed. -/
theorem leads_afterListing (answer : Except RequestError (List NodeClaim)) :
    x.Leads [.began x.now (.list w.ns w.selector), .took t (.list w.ns w.selector answer)]
      (afterListing w x t s answer) := by
  simp [World.Leads, World.history, afterListing]

/-- A wait that is not cancelled lists the claims first, and its list call is answered. -/
theorem listing_eq {answer : Except RequestError (List NodeClaim)} (silent : signals.SilentUntil t)
    (answered : Call.Answered (fun t => b.list t w.ns w.selector) x answer t s) :
    let limits : Submission.Limits := { signals, workspace := w.name }
    limits.check x = (.ok (), x) ∧
      Run.perform limits.pause (.list w.ns w.selector) (.list w.ns w.selector)
        (fun t => b.list t w.ns w.selector) x = (.ok answer, afterListing w x t s answer) := by
  intro limits
  constructor
  · unfold Submission.Limits.check
    rw [Run.bind_of_ok (Run.now_apply x),
      silent.isCancelled_eq_false answered.now_le]
    rfl
  · refine Run.perform_eq answered fun y isNow => ?_
    exact Submission.Limits.pause_eq (isNow ▸ answered.now_le) silent nofun

/-- **A refused list call** ends the wait. -/
theorem waitForListed_of_refusal {e : RequestError} (silent : signals.SilentUntil t)
    (answered : Call.Answered (fun t => b.list t w.ns w.selector) x (.error e) t s) :
    waitForListed b config signals w x =
      (.error (.failed (.list w.name e)), afterListing w x t s (.error e)) := by
  obtain ⟨checked, listed⟩ := listing_eq silent answered
  rw [waitForListed, Run.bind_of_ok checked]
  refine Run.bind_of_error ?_
  rw [listClaims, Run.bind_of_ok listed]
  rfl

/-- **A list of claims** is judged, and what it leaves is waited for. -/
theorem waitForListed_of_claims {claims : List NodeClaim} (silent : signals.SilentUntil t)
    (answered : Call.Answered (fun t => b.list t w.ns w.selector) x (.ok claims) t s) :
    waitForListed b config signals w x =
      match triage w claims with
      | .error e => (.error (.failed e), afterListing w x t s (.ok claims))
      | .ok pending =>
        Rounds.await b config signals w.name pending (afterListing w x t s (.ok claims)) := by
  obtain ⟨checked, listed⟩ := listing_eq silent answered
  have found : listClaims b signals w x = (.ok claims, afterListing w x t s (.ok claims)) := by
    rw [listClaims, Run.bind_of_ok listed]
    rfl
  rw [waitForListed, Run.bind_of_ok checked, Run.bind_of_ok found]
  cases triage w claims <;> rfl

/-- A wait for listed claims creates nothing, whatever the answer to its list call. -/
theorem waitForListed_creations {answer : Except RequestError (List NodeClaim)}
    (silent : signals.SilentUntil t)
    (answered : Call.Answered (fun t => b.list t w.ns w.selector) x answer t s) :
    ∃ events, x.Leads events (waitForListed b config signals w x).2 ∧ creations events = [] := by
  rcases answer with e | claims
  · rw [waitForListed_of_refusal silent answered]
    exact ⟨_, leads_afterListing _, rfl⟩
  · rw [waitForListed_of_claims silent answered]
    cases triage w claims with
    | error e => exact ⟨_, leads_afterListing _, rfl⟩
    | ok pending =>
      obtain ⟨events, led, isLookAt⟩ := await_isLookAt b config signals w.name pending
        (afterListing w x t s (.ok claims))
      refine ⟨_, (leads_afterListing _).trans led, ?_⟩
      rw [creations_append, Rounds.creations_eq_nil isLookAt]
      rfl

/-- **The outcome of waiting for listed claims**, for every answer to a list call that is taken
before anything from outside ends the wait, and every timeout that the clock can hold.  Nothing is
created.  A refusal ends the wait with that refusal.  Otherwise the first claim that has failed
ends it, whatever else is listed and however many claims there are; then a list that is too short
does; and in neither case is anything looked at.  Otherwise the wait goes on as a wait for the
pending claims and looks at nothing else, so that it is over at once if all claims are ready. -/
theorem waitForListed_exact {answer : Except RequestError (List NodeClaim)}
    (silent : signals.SilentUntil t)
    (answered : Call.Answered (fun t => b.list t w.ns w.selector) x answer t s)
    (clock : (Instant.after? t config.timeout).isSome) :
    let run := waitForListed b config signals w x
    let listed : World σ := ⟨t, s, .took t (.list w.ns w.selector answer) ::
      .began x.now (.list w.ns w.selector) :: x.trace⟩
    (∃ events, x.Leads events run.2 ∧ creations events = []) ∧
    (∀ e, answer = .error e → run = (.error (.failed (.list w.name e)), listed)) ∧
    (∀ before claim after reason, answer = .ok (before ++ claim :: after) →
      (∀ c ∈ before, ∀ reason, c.state ≠ .failed reason) → claim.state = .failed reason →
        run = (.error (.failed (.provisioningFailed claim.anyName reason)), listed)) ∧
    (∀ claims, answer = .ok claims → (∀ c ∈ claims, ∀ reason, c.state ≠ .failed reason) →
      claims.length < w.nodeCount →
        run = (.error (.failed (.incompleteClaims w.name w.nodeCount claims.length)), listed)) ∧
    (∀ claims, answer = .ok claims → (∀ c ∈ claims, ∀ reason, c.state ≠ .failed reason) →
      w.nodeCount ≤ claims.length →
        let pending := (claims.filter fun c => c.state = .pending).map NodeClaim.key
        run = Rounds.await b config signals w.name pending listed ∧
        (∃ events, listed.Leads events run.2 ∧ ∀ event ∈ events, event.IsLookAt pending) ∧
        ((∀ c ∈ claims, c.state = .ready) → run = (.ok (), listed))) := by
  intro run listed
  refine ⟨waitForListed_creations silent answered, ?_, ?_, ?_, ?_⟩
  · rintro e rfl
    exact waitForListed_of_refusal silent answered
  · rintro before claim after reason rfl harmless failed
    have judged : run = _ := waitForListed_of_claims silent answered
    rwa [triage_of_failed harmless failed] at judged
  · rintro claims rfl harmless few
    have judged : run = _ := waitForListed_of_claims silent answered
    rwa [triage_of_few harmless few] at judged
  · rintro claims rfl harmless enough pending
    have judged : run = _ := waitForListed_of_claims silent answered
    rw [triage_of_enough harmless enough] at judged
    have waited : run = Rounds.await b config signals w.name pending listed := judged
    refine ⟨waited, ?_, fun ready => ?_⟩
    · rw [waited]
      exact await_isLookAt ..
    · have nothing : pending = [] := List.map_eq_nil_iff.2 (pending_eq_nil ready)
      rw [waited, nothing]
      exact await_nil clock

/-- A store in which only the second claim of a workload of two is there, and could not be
launched. -/
def failedOnly : Store :=
  ({} : Store).put ((twoNodes.claim {} "1").withConditions
    [.of "Launched" .false "LaunchFailed" "out of capacity"])

/-- The failure is what counts, not that a claim is missing. -/
theorem failedOnly_outcome :
    (waitForListed Store.backend {} {} twoNodes (.start 0 failedOnly)).1 =
      .error (.failed (.provisioningFailed (twoNodes.claimName "1") "out of capacity")) := by
  have clock : (Instant.after? 0 ({} : RunConfig).timeout).isSome := by decide
  have answered : Call.Answered (fun t => Store.backend.list t twoNodes.ns twoNodes.selector)
      (.start 0 failedOnly) (failedOnly.list twoNodes.ns twoNodes.selector) 0 failedOnly :=
    .atOnce rfl
  obtain ⟨-, -, failure, -⟩ := waitForListed_exact (.never 0) answered clock
  exact congrArg Prod.fst
    (failure [] _ [] "out of capacity" rfl (List.forall_mem_nil _) (by decide))

end Runs

end NodeProvisioning.Provisioning
