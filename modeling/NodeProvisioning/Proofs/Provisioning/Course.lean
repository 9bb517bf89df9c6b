import NodeProvisioning.Proofs.Rounds.Readiness
import NodeProvisioning.Proofs.Submission.Passage

/-!
# The course of provisioning

Provisioning a workload submits its claims and then waits for them, so its history is that of a
submission, followed by that of a wait if every claim got through.  Since a wait creates nothing,
what the submission says about creations holds of the whole run; and since both stop at the first
fatal answer, a run that succeeds has taken none.

## Main definitions

* `Course` — how provisioning may end, and after which history

## Main statements

* `provision_course` — how provisioning ends
* `provision_sound` — what is created and after what, and what success means
-/

namespace NodeProvisioning.Provisioning

open History
open Run (bind_cases)
open Submission (Cleared Passage Submitted)

variable {σ : Type}

/-- **How provisioning `claims` may end**, and after which history. -/
inductive Course (l : Rounds.Limits) (claims : List NodeClaim) :
    Except Halt Unit → List Event → Prop
  /-- The clock cannot hold its deadline. -/
  | unstarted : Course l claims (.error .clockOverflow) []
  /-- It did not get through the submission. -/
  | submitting {e : Halt} {events : List Event} (stopped : Submitted claims (.error e) events) :
      Course l claims (.error e) events
  /-- All claims got through, and it ended as the wait for them did. -/
  | waiting {r : Except Halt Unit} {before events : List Event} (cleared : Cleared claims before)
      (ending : Rounds.Ending l (claims.map NodeClaim.key) r events) :
      Course l claims r (before ++ events)

section Ends

variable {l : Rounds.Limits} {claims : List NodeClaim} {r : Except Halt Unit} {events : List Event}

/-- The creations that began are those of the first claims. -/
theorem Course.creations_isPrefix (h : Course l claims r events) : creations events <+: claims := by
  cases h with
  | unstarted => exact List.nil_prefix
  | submitting stopped => exact stopped.creations_isPrefix
  | @waiting r before events cleared ending =>
    have all : creations (before ++ events) = claims := by
      rw [creations_append, cleared.creations_eq, Rounds.creations_eq_nil ending.isLookAt,
        List.append_nil]
    exact all ▸ List.prefix_rfl

/-- What precedes the creation of a claim is the way of the claims before it, all of which got
through. -/
theorem Course.before_creation (h : Course l claims r events) {before after : List Event}
    {t : Instant} {c : NodeClaim} (split : events = before ++ .began t (.create c) :: after) :
    ∃ done, done ++ [c] <+: claims ∧ Cleared done before := by
  cases h with
  | unstarted => simp at split
  | submitting stopped => exact stopped.before_creation split
  | waiting cleared ending =>
    rcases split_cases split with ⟨between, rfl, inWait⟩ | ⟨between, inSubmission⟩
    · have about := ending.isLookAt (.began t (.create c)) (by rw [inWait]; simp)
      cases about
    · exact cleared.before_creation inSubmission

/-- Where the wait saw a claim ready at the last look at it, so did the whole run. -/
theorem looksAt_ready {key : ClaimKey} {after : List Event} {earlier : List Sighting}
    {last : Sighting} (before : List Event)
    (same : looksAt key after = (earlier ++ [last]).flatMap Sighting.exchange)
    (ready : last.isReady = true) :
    ∃ earlier claim, looksAt key (before ++ after) = earlier ++ [.begun, .answered (.ok claim)] ∧
      claim.state = .ready := by
  rcases last with e | claim
  · cases ready
  · -- The look of the submission comes before those of the wait.
    refine ⟨looksAt key before ++ earlier.flatMap Sighting.exchange, claim, ?_, ?_⟩
    · rw [looksAt_append, same, List.flatMap_append, List.append_assoc]
      rfl
    · simpa [Sighting.isReady] using ready

/-- What provisioning that succeeded leaves behind: all claims got through, then every one was
seen ready at the last look at it, and there was no fatal answer. -/
theorem Course.success (h : Course l claims (.ok ()) events) :
    (∃ before after, events = before ++ after ∧ Cleared claims before ∧ creations after = []) ∧
    (∀ key ∈ claims.map NodeClaim.key, ∃ earlier claim,
      looksAt key events = earlier ++ [.begun, .answered (.ok claim)] ∧ claim.state = .ready) ∧
    ∀ s ∈ sightings events, Sighting.isFatal s.2 = false := by
  cases h with
  | @waiting r before after cleared ending =>
    obtain ⟨seen, harmless, isLookAt⟩ := ending.seenReady
    refine ⟨⟨before, after, rfl, cleared, Rounds.creations_eq_nil isLookAt⟩, fun key mem => ?_,
      fun s mem => ?_⟩
    · obtain ⟨earlier, last, same, ready, -⟩ := seen key mem
      exact looksAt_ready before same ready
    · rw [sightings_append] at mem
      rcases List.mem_append.1 mem with early | late
      · exact cleared.harmless s early
      · exact harmless s late

end Ends

/-! ## The course of a run -/

section Runs

variable {b : Backend σ} {config : RunConfig} {signals : Signals} {w : Workload} {x y : World σ}

/-- The deadline is read off the clock, if the clock can hold it. -/
theorem deadlineIn_cases {timeout : Duration} {r : Except Halt Instant}
    (h : Rounds.deadlineIn timeout x = (r, y)) :
    y = x ∧ ((∃ deadline, r = .ok deadline) ∨ r = .error .clockOverflow) := by
  rcases bind_cases h with ⟨t, w₁, clock, rest⟩ | ⟨e, clock, -⟩
  · cases clock
    cases later : Instant.after? x.now timeout <;> rw [later] at rest <;> cases rest
    · exact ⟨rfl, .inr rfl⟩
    · exact ⟨rfl, .inl ⟨_, rfl⟩⟩
  · cases clock

/-- A deadline that the clock can hold is the result, at once. -/
theorem deadlineIn_of_after? {timeout : Duration} {deadline : Instant}
    (h : Instant.after? x.now timeout = some deadline) :
    Rounds.deadlineIn timeout x = (.ok deadline, x) := by
  rw [Rounds.deadlineIn, Run.bind_apply, Run.now_apply]
  dsimp only
  rw [h]
  rfl

/-- A submission that gets through clears all claims; otherwise it is all there is to the run. -/
theorem submission_cases {r : Except Halt Instant} (h : submission b config signals w x = (r, y)) :
    ∃ events, x.Leads events y ∧
      ((∃ deadline, r = .ok deadline ∧ Cleared (w.claims config.manifest) events) ∨
        ∃ e, r = .error e ∧
          ∀ l, Course l (w.claims config.manifest) (.error e) events) := by
  rcases bind_cases h with ⟨deadline, w₁, clock, rest⟩ | ⟨e, clock, rfl⟩
  · obtain ⟨rfl, -⟩ := deadlineIn_cases clock
    rcases bind_cases rest with ⟨_, w₂, all, last⟩ | ⟨e, stopped, rfl⟩
    · obtain ⟨events, leads, submitted⟩ := Submission.submitAll_submitted _ all
      cases last
      cases submitted with
      | all cleared => exact ⟨events, leads, .inl ⟨deadline, rfl, cleared⟩⟩
    · obtain ⟨events, leads, submitted⟩ := Submission.submitAll_submitted _ stopped
      exact ⟨events, leads, .inr ⟨e, rfl, fun l => .submitting submitted⟩⟩
  · obtain ⟨rfl, ⟨deadline, same⟩ | same⟩ := deadlineIn_cases clock
    · cases same
    · cases same
      exact ⟨[], .refl _, .inr ⟨_, rfl, fun l => .unstarted⟩⟩

/-- **How provisioning ends.** -/
theorem provision_course {r : Except Halt Unit} (h : provision b config signals w x = (r, y)) :
    ∃ events l, x.Leads events y ∧ Course l (w.claims config.manifest) r events := by
  rcases bind_cases h with ⟨deadline, w₁, submitted, rest⟩ | ⟨e, submitted, rfl⟩
  · obtain ⟨before, led, ⟨_, -, cleared⟩ | ⟨e, same, -⟩⟩ := submission_cases submitted
    · obtain ⟨events, leads, ending⟩ := Rounds.awaitUntil_ending rest
      exact ⟨_, _, led.trans leads, .waiting cleared ending⟩
    · cases same
  · obtain ⟨events, leads, ⟨_, same, -⟩ | ⟨e, same, course⟩⟩ := submission_cases submitted
    · cases same
    · cases same
      exact ⟨events, ⟨signals, w.name, 0⟩, leads, course _⟩

/-- **Provisioning that gets through its submission** has cleared all claims, and creates nothing
after that, however it ends. -/
theorem provision_cleared {deadline : Instant}
    (through : (submission b config signals w x).1 = .ok deadline) :
    ∃ before after, x.Leads (before ++ after) (provision b config signals w x).2 ∧
      Cleared (w.claims config.manifest) before ∧ creations after = [] := by
  rcases submitted : submission b config signals w x with ⟨r, x₁⟩
  rw [submitted] at through
  cases through
  have whole : provision b config signals w x =
      Rounds.awaitUntil b config.pollInterval signals w.name deadline
        ((w.claims config.manifest).map NodeClaim.key) x₁ := by
    rw [provision, Run.bind_apply, submitted]
  rcases awaited : provision b config signals w x with ⟨r, y⟩
  obtain ⟨before, led, ⟨_, -, cleared⟩ | ⟨_, same, -⟩⟩ := submission_cases submitted
  · obtain ⟨after, leads, ending⟩ := Rounds.awaitUntil_ending (whole ▸ awaited)
    exact ⟨before, after, led.trans leads, cleared, Rounds.creations_eq_nil ending.isLookAt⟩
  · cases same

/-- Provisioning that gets through its submission has taken an answer to the creation of each
claim. -/
theorem provision_took_creation {deadline : Instant}
    (through : (submission b config signals w x).1 = .ok deadline) :
    ∀ claim ∈ w.claims config.manifest,
      ∃ t a, .took t (.create claim a) ∈ (provision b config signals w x).2.history := by
  obtain ⟨before, after, leads, cleared, -⟩ := provision_cleared through
  have past : (provision b config signals w x).2.history = x.history ++ (before ++ after) := leads
  intro claim mem
  obtain ⟨t, a, found⟩ := cleared.took_creation claim mem
  refine ⟨t, a, ?_⟩
  rw [past]
  exact List.mem_append_right _ (List.mem_append_left _ found)

/-- A run that succeeds has got through its submission. -/
theorem submission_of_provision (success : (provision b config signals w x).1 = .ok ()) :
    ∃ deadline, (submission b config signals w x).1 = .ok deadline := by
  rcases ran : provision b config signals w x with ⟨r, y⟩
  rw [ran] at success
  cases success
  rcases bind_cases ran with ⟨deadline, _, submitted, -⟩ | ⟨e, -, failed⟩
  · exact ⟨deadline, by rw [submitted]⟩
  · cases failed

/-- A run from the start creates the first claims of its workload, in order. -/
theorem provision_creations_isPrefix {now : Instant} {state : σ} :
    creations (provision b config signals w (.start now state)).2.history <+:
      w.claims config.manifest := by
  rcases ran : provision b config signals w (.start now state) with ⟨r, y⟩
  obtain ⟨events, l, leads, course⟩ := provision_course ran
  rw [leads.history_of_start]
  exact course.creations_isPrefix

/-- A run from the start that gets through its submission has created all claims, in order. -/
theorem creations_of_submission {now : Instant} {state : σ} {deadline : Instant}
    (through : (submission b config signals w (.start now state)).1 = .ok deadline) :
    creations (provision b config signals w (.start now state)).2.history =
      w.claims config.manifest := by
  obtain ⟨before, after, leads, cleared, quiet⟩ := provision_cleared through
  rw [leads.history_of_start, creations_append, cleared.creations_eq, quiet, List.append_nil]

end Runs

/-- The first values of a function at the indices are its values at the first indices. -/
theorem eq_map_range {α : Type} {f : Nat → α} {n : Nat} {l : List α}
    (h : l <+: (List.range n).map f) : l.length ≤ n ∧ l = (List.range l.length).map f := by
  have short : l.length ≤ n := by simpa using h.length_le
  refine ⟨short, ?_⟩
  calc l = ((List.range n).map f).take l.length := List.prefix_iff_eq_take.1 h
    _ = ((List.range n).take l.length).map f := List.map_take.symm
    _ = (List.range l.length).map f := by rw [List.take_range, Nat.min_eq_left short]

/-- **Provisioning is sound.**  However a run ends, the creations it began are those of the first
indices, in order, each once.  Before the creation of a claim began, the claims of all lesser
indices got through, one after the other, and nothing else happened: each was created or was there
already, and the one look at it was not fatal.  And if the run succeeds, all claims got through
and nothing else was created, the last look at each showed it ready, and no look in the run was
fatal. -/
theorem provision_sound (b : Backend σ) (config : RunConfig) (signals : Signals) (w : Workload)
    (now : Instant) (state : σ) :
    let run := provision b config signals w (.start now state)
    let claimOf (i : Nat) : NodeClaim := w.claim config.manifest (Workload.indexText i)
    (∃ n ≤ w.nodeCount, creations run.2.history = (List.range n).map claimOf) ∧
    (∀ before t c after, run.2.history = before ++ .began t (.create c) :: after →
      ∃ i < w.nodeCount, c = claimOf i ∧ Cleared ((List.range i).map claimOf) before) ∧
    (run.1 = .ok () →
      (∃ before after, run.2.history = before ++ after ∧
        Cleared ((List.range w.nodeCount).map claimOf) before ∧ creations after = []) ∧
      (∀ i < w.nodeCount, ∃ earlier claim,
        looksAt (claimOf i).key run.2.history = earlier ++ [.begun, .answered (.ok claim)] ∧
          claim.state = .ready) ∧
      ∀ s ∈ sightings run.2.history, Sighting.isFatal s.2 = false) := by
  intro run claimOf
  have ran : provision b config signals w (.start now state) = (run.1, run.2) := rfl
  obtain ⟨events, l, led, course⟩ := provision_course ran
  have past : run.2.history = events := led.history_of_start
  have all : w.claims config.manifest = (List.range w.nodeCount).map claimOf := rfl
  rw [past]
  rw [all] at course
  refine ⟨?_, fun before t c after split => ?_, fun success => ?_⟩
  · obtain ⟨short, same⟩ := eq_map_range course.creations_isPrefix
    exact ⟨_, short, same⟩
  · obtain ⟨done, sub, cleared⟩ := course.before_creation split
    obtain ⟨short, same⟩ := eq_map_range sub
    rw [List.length_append, List.length_singleton] at short same
    rw [List.range_succ, List.map_append] at same
    obtain ⟨before_eq, last_eq⟩ := List.append_inj same (by simp)
    rw [before_eq] at cleared
    exact ⟨done.length, short, by simpa using last_eq, cleared⟩
  · rw [success] at course
    obtain ⟨through, seen, harmless⟩ := course.success
    refine ⟨through, fun i small => seen _ (List.mem_map_of_mem ?_), harmless⟩
    exact List.mem_map_of_mem (List.mem_range.2 small)

end NodeProvisioning.Provisioning
