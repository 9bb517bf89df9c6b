import NodeProvisioning.Proofs.Provisioning.Convergence
import NodeProvisioning.Proofs.Provisioning.Keeping

/-!
# Provisioning and its deadline

The deadline of a run covers its submission and its wait, but the two phases treat it differently.

A wait does nothing at its deadline.  A submission goes on as long as the backend answers at once:
it only looks at the deadline where it has to wait.  So nothing happens after the deadline in
either phase; and what may still happen at the deadline itself are the calls of a submission that
follow, without any time between, on an answer taken at that instant, or on the start of the run.

The phases also differ in what a timeout reports.  In the wait it names the claims not yet seen
ready.  In the submission it names the claims from the current one on, whatever the looks at those
before it have shown.

## Main definitions

* `Punctual` — nothing happened after the deadline, and creations began without delay

## Main statements

* `provision_deadline` — what happens at the deadline, and what does not
* `provision_timeout` — which claims a timeout names
-/

namespace NodeProvisioning

open History
open Run (Contract bind_cases)

variable {σ : Type}

/-! ## Nothing after the deadline -/

/-- **Punctuality.**  Nothing happened after the deadline, and a creation began at the instant of
the event before it, or at the start. -/
structure Punctual (start deadline : Instant) (w : World σ) : Prop where
  now_le : w.now ≤ deadline
  time_le : ∀ event ∈ w.history, event.time ≤ deadline
  prompt : ∀ before t c after, w.history = before ++ .began t (.create c) :: after →
    (before = [] ∧ t = start) ∨ ∃ event, before.getLast? = some event ∧ event.time = t

namespace Punctual

variable {start deadline : Instant} {w : World σ}

/-- The state does not matter. -/
theorem forget (h : Punctual start deadline w) (state : σ) :
    Punctual start deadline { w with state } :=
  ⟨h.now_le, h.time_le, h.prompt⟩

theorem start_le {state : σ} (le : start ≤ deadline) :
    Punctual start deadline (World.start start state) where
  now_le := le
  time_le := by simp
  prompt before t c after split := absurd split.symm (by simp)

/-- Punctuality lasts up to the deadline. -/
theorem lasts : World.Lasts (Punctual (σ := σ) start deadline) (some deadline) := by
  intro w t h later bound
  refine ⟨?_, h.time_le, h.prompt⟩
  have := bound deadline rfl
  rwa [Nat.max_eq_right h.now_le] at this

/-- An event of this instant may be left, if it is no creation or follows at once. -/
theorem leave (h : Punctual start deadline w) {event : Event} (isNow : event.time = w.now)
    (prompt : ∀ t c, event = .began t (.create c) → (w.history = [] ∧ t = start) ∨
      ∃ last, w.history.getLast? = some last ∧ last.time = t) :
    Punctual start deadline (w.leave event) where
  now_le := h.now_le
  time_le e mem := by
    rw [World.history_leave] at mem
    rcases List.mem_append.1 mem with old | new
    · exact h.time_le e old
    · rw [List.mem_singleton.1 new, isNow]
      exact h.now_le
  prompt before t c after split := by
    rw [World.history_leave] at split
    rcases split_cases split with ⟨between, rfl, inLast⟩ | ⟨between, inPast⟩
    · cases between with
      | nil =>
        injection inLast with same
        rw [List.append_nil]
        exact prompt t c same
      | cons first between => simp at inLast
    · exact h.prompt before t c between inPast

end Punctual

/-- An event of this instant that is no creation may be left. -/
theorem Punctual.leave_other {start deadline : Instant} {w : World σ}
    (h : Punctual start deadline w) {event : Event} (isNow : event.time = w.now)
    (other : ∀ t c, event ≠ .began t (.create c)) :
    Punctual start deadline (w.leave event) :=
  h.leave isNow fun t c same => absurd same (other t c)

/-- No time has passed since the last event, or since the start. -/
def IsPromptFrom (start : Instant) (w : World σ) : Prop :=
  (w.history = [] ∧ w.now = start) ∨ Submission.IsPrompt w

section Calls

variable (b : Backend σ) {start deadline : Instant} {isOpen : Instant → Prop}

/-- A look keeps punctuality. -/
theorem Punctual.looks : b.LooksUphold (Punctual start deadline) isOpen := by
  intro key
  refine Call.Leads.of_events (fun w state h => h.forget state) ?_ ?_
  · intro w h _
    exact h.leave_other rfl fun _ _ same => nomatch same
  · intro w a h _
    exact h.leave_other rfl fun _ _ same => nomatch same

/-- A creation without delay keeps punctuality. -/
theorem Punctual.submits (claim : NodeClaim) :
    b.Submits (fun w => Punctual start deadline w ∧ IsPromptFrom start w)
      (Punctual start deadline) isOpen claim where
  create := by
    refine Call.Leads.of_events (fun w state h => h.forget state) ?_ ?_
    · rintro w ⟨h, since⟩ -
      refine h.leave rfl fun t c same => ?_
      cases same
      rcases since with first | ⟨event, last, isNow⟩
      · exact .inl first
      · refine .inr ⟨event, ?_, isNow⟩
        rwa [World.history, List.getLast?_reverse]
    · intro w a h _
      refine h.leave_other rfl fun _ _ same => ?_
      cases same
  look := Punctual.looks b claim.key

end Calls

namespace Provisioning

open Submission (Cleared Passage verdict_eq_error_iff)

section Phases

variable (b : Backend σ) (config : RunConfig) (signals : Signals) (w : Workload)
variable {now deadline : Instant} {state : σ}

/-- The submission phase is punctual. -/
theorem submission_punctual (h : Instant.after? now config.timeout = some deadline) :
    Run.Ended (fun d x => d = deadline ∧ Punctual now deadline x)
      (fun _ => Punctual now deadline) (submission b config signals w (.start now state)) := by
  have le : now ≤ deadline := by
    unfold Instant.after? at h
    split at h <;> cases h
    exact Nat.le_add_right _ _
  have clock : Rounds.deadlineIn config.timeout (World.start now state) =
      (.ok deadline, World.start now state) := deadlineIn_of_after? h
  have submitted : Contract (fun x => Punctual now deadline x ∧ IsPromptFrom now x)
      (Submission.submitAll b config.settleDelay signals w.name deadline
        (w.claims config.manifest))
      (fun _ x => Punctual now deadline x ∧ IsPromptFrom now x) fun _ => Punctual now deadline :=
    Submission.submitAll_contract Punctual.lasts (fun _ => And.left)
      (fun v punctual prompt => ⟨punctual, .inr prompt⟩) _ fun claim _ => Punctual.submits b claim
  have rest := submitted.bind fun _ =>
    Contract.pure (a := deadline) (Q := fun d x => d = deadline ∧ Punctual now deadline x)
      fun v h => ⟨rfl, h.1⟩
  unfold submission
  rw [Run.bind_apply, clock]
  exact rest _ ⟨.start_le le, .inl ⟨rfl, rfl⟩⟩

/-- **A wait is punctual**, and it does nothing at its deadline. -/
theorem wait_punctual (keys : List ClaimKey) {x : World σ} (h : Punctual now deadline x) :
    let y := (Rounds.awaitUntil b config.pollInterval signals w.name deadline keys x).2
    Punctual now deadline y ∧
      ∃ after, y.history = x.history ++ after ∧ ∀ event ∈ after, event.time < deadline := by
  let J (y : World σ) : Prop := Punctual now deadline y ∧
    ∃ after, y.history = x.history ++ after ∧ ∀ event ∈ after, event.time < deadline
  have lasts : World.Lasts J (some deadline) := by
    rintro y t ⟨punctual, rest⟩ later bound
    exact ⟨Punctual.lasts y t punctual later bound, rest⟩
  -- A wait that is open is before its deadline.
  have leaves : ∀ y event, J y → event.time = y.now → y.now < deadline →
      (∀ t c, event ≠ .began t (.create c)) → J (y.leave event) := by
    rintro y event ⟨punctual, after, same, early⟩ isNow before other
    refine ⟨punctual.leave_other isNow other, after ++ [event], ?_, fun e mem => ?_⟩
    · rw [World.history_leave, same, List.append_assoc]
    · rcases List.mem_append.1 mem with old | new
      · exact early e old
      · rw [List.mem_singleton.1 new, isNow]
        exact before
  have looks : b.LooksUphold J (Rounds.Limits.IsOpen ⟨signals, w.name, deadline⟩) := by
    intro key
    refine Call.Leads.of_events (fun y state h => ⟨h.1.forget state, h.2⟩) ?_ ?_
    · intro y holds isOpen
      exact leaves y _ holds rfl isOpen.lt_deadline fun _ _ same => nomatch same
    · intro y a holds isOpen
      exact leaves y _ holds rfl isOpen.lt_deadline fun _ _ same => nomatch same
  exact (Rounds.awaitUntil_contract lasts looks).holds ⟨h, [], by simp, by simp⟩

/-- **Nothing happens after the deadline** of a run, which comes its timeout after its start.  In
the wait nothing happens at the deadline either; and where a creation begins, no time has passed
since the event before it, or since the start if it is the first. -/
theorem provision_deadline (h : Instant.after? now config.timeout = some deadline) :
    let run := provision b config signals w (.start now state)
    let submitted := submission b config signals w (.start now state)
    run.2.now ≤ deadline ∧
    (∀ event ∈ run.2.history, event.time ≤ deadline) ∧
    (∀ before t c after, run.2.history = before ++ .began t (.create c) :: after →
      (before = [] ∧ t = now) ∨ ∃ event, before.getLast? = some event ∧ event.time = t) ∧
    ∀ d, submitted.1 = .ok d → ∃ after, run.2.history = submitted.2.history ++ after ∧
      ∀ event ∈ after, event.time < deadline := by
  intro run submitted
  have phase : Run.Ended _ _ submitted := submission_punctual b config signals w h
  have ran : provision b config signals w (.start now state) = (run.1, run.2) := rfl
  rcases bind_cases ran with ⟨d, x, ended, rest⟩ | ⟨e, ended, -⟩
  · have ended : submitted = (.ok d, x) := ended
    rw [ended] at phase ⊢
    obtain ⟨rfl, punctual⟩ := phase
    obtain ⟨still, after⟩ := wait_punctual b config signals w _ punctual
    rw [rest] at still after
    exact ⟨still.now_le, still.time_le, still.prompt, fun _ _ => after⟩
  · have ended : submitted = (.error e, run.2) := ended
    rw [ended] at phase ⊢
    exact ⟨phase.now_le, phase.time_le, phase.prompt, fun d same => nomatch same⟩

end Phases

/-- A run that is to be over as soon as it starts. -/
def overAtOnce : RunConfig := { timeout := .zero, settleDelay := .zero }

/-- Such a run ends at the instant of its start. -/
theorem overAtOnce_deadline :
    Instant.after? 0 overAtOnce.timeout = some 0 ∧
      (provision Store.backend overAtOnce {} twoNodes (.start 0 {})).2.now ≤ 0 :=
  ⟨rfl, (provision_deadline Store.backend overAtOnce {} twoNodes rfl).1⟩

/-- Its creations begin at its deadline, not before. -/
theorem overAtOnce_sends : ¬ ∀ deadline, Instant.after? 0 overAtOnce.timeout = some deadline →
    ∀ t ∈ sentAt (provision Store.backend overAtOnce {} twoNodes (.start 0 {})).2.history,
      t < deadline := by
  intro early
  have sent : sentAt (provision Store.backend overAtOnce {} twoNodes (.start 0 {})).2.history =
      [0, 0] := by decide +kernel
  have first := early 0 rfl 0 (by rw [sent]; simp)
  exact absurd first (by decide)

/-! ## What a timeout names -/

/-- **Which claims a timeout names.**  Where the deadline comes while a claim is submitted, they are
that claim and those after it; the claims before it got through.  Where it comes in the wait, they
are the claims of which no answer in the wait was ready; the last look at every other claim showed
it ready. -/
theorem provision_timeout (b : Backend σ) (config : RunConfig) (signals : Signals) (w : Workload)
    (now : Instant) (state : σ) {workspace : String} {pending : List String}
    (timeout : (provision b config signals w (.start now state)).1 =
      .error (.failed (.timeout workspace pending))) :
    let history := (provision b config signals w (.start now state)).2.history
    let claims := w.claims config.manifest
    workspace = w.name ∧
    ((∃ done claim rest before tail p, claims = done ++ claim :: rest ∧
      history = before ++ tail ∧ Cleared done before ∧ tail <+: Passage.events p claim ∧
      pending = (claim :: rest).map NodeClaim.anyName) ∨
    ∃ (before after : List Event) (left : List ClaimKey), history = before ++ after ∧
      Cleared claims before ∧
      creations after = [] ∧ pending = left.map ClaimKey.name ∧
      ∀ claim ∈ claims,
        (claim.key ∈ left ∧ ∀ a, (claim.key, a) ∈ sightings after → Sighting.isReady a = false) ∨
        (claim.key ∉ left ∧
          ∃ c, latest claim.key history = some (.answered (.ok c)) ∧ c.state = .ready)) := by
  intro history claims
  cases provision_failed (Prod.ext timeout rfl) with
  | @submitting deadline done rest claim before tail p same leads cleared sub stops =>
    have named : workspace = w.name ∧ pending = (claim :: rest).map NodeClaim.anyName := by
      generalize World.trace _ = trace at stops
      cases stops with
      | cut cuts =>
        cases cuts with
        | expired isSet =>
          cases isSet
          exact ⟨rfl, rfl⟩
      | fatal fails => exact absurd ((verdict_eq_error_iff "").1 fails) Observation.of_ne_timeout
    refine ⟨named.1, .inl ⟨done, claim, rest, before, tail, p, same, ?_, cleared, sub, named.2⟩⟩
    exact leads.history_of_start
  | @waiting deadline before after leads cleared ending =>
    have past : history = before ++ after := leads.history_of_start
    cases ending with
    | fatal tally terminal => exact absurd terminal Observation.of_ne_timeout
    | @cut outstanding ahead flying _ _ tally cuts =>
      cases cuts with
      | expired =>
        refine ⟨rfl, .inr ⟨before, after, outstanding, past, cleared,
          Rounds.creations_eq_nil tally.isLookAt, rfl, fun claim mem => ?_⟩⟩
        by_cases out : claim.key ∈ outstanding
        · rw [tally.outstanding_eq] at out ⊢
          exact .inl ⟨out, (Rounds.mem_remaining_iff.1 out).2⟩
        · obtain ⟨earlier, last, same, ready, -⟩ :=
            tally.exchanges (List.mem_map_of_mem mem) out
          obtain ⟨earlier, c, seen, shown⟩ := looksAt_ready before same ready
          refine .inr ⟨out, c, ?_, shown⟩
          rw [past, latest, seen]
          simp

/-- A run that looks at a claim as soon as it is created. -/
def unsettled : RunConfig := { timeout := .ofSeconds 60, settleDelay := .zero }

/-- A store in which looks at the second claim of the workload are never answered. -/
def secondHangs : Store := ({} : Store).hang (twoNodes.claimKey "1")

/-- The run times out at the second claim, and names no other. -/
theorem secondHangs_timeout :
    (provision Store.backend unsettled {} twoNodes (.start 0 secondHangs)).1 =
        .error (.failed (.timeout "falcon" [twoNodes.claimName "1"])) ∧
      "falcon" = twoNodes.name := by
  have timeout : (provision Store.backend unsettled {} twoNodes (.start 0 secondHangs)).1 =
      .error (.failed (.timeout "falcon" [twoNodes.claimName "1"])) := by decide +kernel
  exact ⟨timeout, (provision_timeout Store.backend unsettled {} twoNodes 0 secondHangs timeout).1⟩

/-- The first claim is missing from what the timeout names, although the last look at it did not
show it ready. -/
theorem secondHangs_omits_first : ¬ ∀ pending,
    (provision Store.backend unsettled {} twoNodes (.start 0 secondHangs)).1 =
      .error (.failed (.timeout "falcon" pending)) →
    ∀ claim ∈ twoNodes.claims {}, claim.anyName ∈ pending ∨
      (latest claim.key (provision Store.backend unsettled {} twoNodes
        (.start 0 secondHangs)).2.history).any Glimpse.isReady = true := by
  intro complete
  have first : twoNodes.claim {} "0" ∈ twoNodes.claims {} :=
    List.mem_map.2 ⟨0, by decide, rfl⟩
  rcases complete [twoNodes.claimName "1"] (by decide +kernel) _ first with named | ready
  · revert named
    decide +kernel
  · revert ready
    decide +kernel

end Provisioning

end NodeProvisioning
